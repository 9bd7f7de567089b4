import CfsTelemetry.Shared

/-!
# Reading a state file

The core application, the bridge and the LoRa application read their state files in the same
way: a record of a fixed size, with a first word, a sum over its fields and a version of the
configuration that all have to be right. `Layout` is what they differ in.
-/
namespace CfsTelemetry.StateFile

/-- A text that is put behind another one falls outside a buffer that the first one fills. -/
theorem take_append_eq {α : Type} {text suffix : List α} {size : Nat} (some : suffix ≠ []) :
    (text ++ suffix).take size = text ↔ text.length = size := by
  have more := List.length_pos_iff.mpr some
  constructor
  · intro same
    have lengths := congrArg List.length same
    rw [List.length_take, List.length_append] at lengths
    omega
  · intro full
    rw [List.take_append_of_le_length full.ge, List.take_of_length_le full.le]

/-- A word is read from the front of a record before what follows it. -/
theorem bind_take32 {Value : Type} (word : UInt32) (rest : List UInt8)
    (next : UInt32 × List UInt8 → Option Value) :
    (Words.take32 (Words.bytes32 word ++ rest) >>= next) = next (word, rest) := by
  rw [Words.take32_bytes32]
  rfl

/-- A record that begins with a word has four bytes more than what is read behind the word. -/
theorem take32_bind {Value : Type} {bytes : List UInt8} {value : Value}
    {next : UInt32 × List UInt8 → Option Value}
    (read : (Words.take32 bytes >>= next) = some value) :
    ∃ word rest, bytes.length = rest.length + 4 ∧ next (word, rest) = some value := by
  obtain ⟨⟨word, rest⟩, first, more⟩ := Option.bind_eq_some_iff.mp read
  exact ⟨word, rest, Words.take32_length first, more⟩

/-- How far the file operations of a load get. -/
inductive LoadIo where
  | openFailed (errno : Int)
  | readFailed
  | read
  deriving DecidableEq, Repr

/-- Why the content of a state file is not used. -/
inductive Defect where
  | truncated (size : Nat)
  | badMagic (magic : UInt32)
  | checksumMismatch
  | versionMismatch (version : UInt8)
  deriving DecidableEq, Repr

/-- The record of a state file. -/
structure Layout (Record : Type) where
  /-- The application, as its event messages begin. -/
  name : String
  /-- The bytes of a record. -/
  size : Nat
  /-- The bytes of a record, in file order. -/
  encode : Record → List UInt8
  /-- The record of as many bytes as a record has. -/
  decode : List UInt8 → Option Record
  /-- The first word of a record. -/
  magicOf : Record → UInt32
  /-- What the first word has to be. -/
  magic : UInt32
  /-- The last word of a record. -/
  checksumOf : Record → UInt32
  /-- What the last word has to be. -/
  sum : Record → UInt32
  /-- The version of the configuration in a record. -/
  versionOf : Record → UInt8
  /-- What the version has to be. -/
  version : UInt8

/-- What a load finds: no file, a file that is reported and not used, or a record. -/
inductive Outcome (Record : Type) where
  | absent
  | corrupt (text : String)
  | restored (record : Record)

section

variable {Record : Type} (layout : Layout Record)

/-- The record of a content whose size, first word, checksum and version are right. -/
def check (bytes : List UInt8) : Except Defect Record :=
  match layout.decode (bytes.take layout.size) with
  | none => .error (.truncated (bytes.take layout.size).length)
  | some record =>
    if layout.magicOf record ≠ layout.magic then .error (.badMagic (layout.magicOf record))
    else if layout.checksumOf record ≠ layout.sum record then .error .checksumMismatch
    else if layout.versionOf record ≠ layout.version then
      .error (.versionMismatch (layout.versionOf record))
    else .ok record

/-- The event message about a content that is not used. -/
def Defect.text : Defect → String
  | truncated size => s!"{layout.name}: state file truncated (rc={size}), using defaults"
  | badMagic magic =>
    s!"{layout.name}: state file bad magic (0x{hexText 8 magic.toNat}), using defaults"
  | checksumMismatch => s!"{layout.name}: state file checksum mismatch, using defaults"
  | versionMismatch version =>
    s!"{layout.name}: state file config version mismatch " ++
      s!"(file={version} expected={layout.version}), using defaults"

/-- Read a state file. A file that does not exist is not reported. -/
def load (io : LoadIo) (file : Option (List UInt8)) : Outcome Record :=
  match io, file with
  | .openFailed errno, _ =>
    .corrupt s!"{layout.name}: state file open failed errno={errno}, using defaults"
  | _, none => .absent
  | .readFailed, some _ =>
    .corrupt s!"{layout.name}: state file truncated (rc=-1), using defaults"
  | .read, some bytes =>
    match check layout bytes with
    | .error defect => .corrupt (defect.text layout)
    | .ok record => .restored record

/-- The record that a load would restore from a file. -/
def accepted (file : Option (List UInt8)) : Option Record :=
  file.bind fun bytes => (check layout bytes).toOption

/-- The path of the temporary file of a save (`TmpPath`): the path with `.tmp` behind it, as far
as a buffer of 256 bytes takes it with the zero at its end. -/
def tmpPath (path : String) : String := String.ofList ((path ++ ".tmp").toList.take 255)

/-- The temporary file is the state file exactly when the path fills the buffer. -/
theorem tmpPath_eq (path : String) : tmpPath path = path ↔ path.length = 255 := by
  rw [tmpPath, ← String.toList_inj, String.toList_ofList, String.toList_append,
    take_append_eq (by decide), String.length_toList]

/-- The state file after a save that has written some bytes and not renamed the temporary file. A
path that fills the buffer leaves no room for the suffix, so that the temporary file, which the save
has emptied first, is the state file itself. -/
def unrenamed (path : String) (file : Option (List UInt8)) (bytes : List UInt8) :
    Option (List UInt8) :=
  if tmpPath path = path then some bytes else file

/-- A record that is written as the application writes its records. -/
structure Lawful (record : Record) : Prop where
  /-- It has the size of a record. -/
  length : (layout.encode record).length = layout.size
  /-- It is read back. -/
  decode : layout.decode (layout.encode record) = some record
  /-- Its first word is right. -/
  magic : layout.magicOf record = layout.magic
  /-- Its checksum is right. -/
  checksum : layout.checksumOf record = layout.sum record
  /-- Its version is right. -/
  version : layout.versionOf record = layout.version

variable {layout}

/-- A lawful record passes the checks. -/
theorem Lawful.check {record : Record} (lawful : Lawful layout record) :
    check layout (layout.encode record) = .ok record := by
  have whole : (layout.encode record).take layout.size = layout.encode record :=
    List.take_of_length_le lawful.length.le
  rw [StateFile.check, whole, lawful.decode]
  simp only [lawful.magic, lawful.checksum, lawful.version, ne_eq, not_true_eq_false, if_false]

/-- A lawful record is restored from its file. -/
theorem Lawful.accepted {record : Record} (lawful : Lawful layout record) :
    accepted layout (some (layout.encode record)) = some record := by
  simp [StateFile.accepted, lawful.check, Except.toOption]

/-- A load restores exactly the record that it accepts, when the file can be read. -/
theorem load_eq_restored {io : LoadIo} {file : Option (List UInt8)} {record : Record} :
    load layout io file = .restored record ↔
      io = .read ∧ accepted layout file = some record := by
  unfold load accepted
  cases io with
  | openFailed errno => simp
  | readFailed => cases file <;> simp
  | read =>
    cases file with
    | none => simp
    | some bytes => cases checked : check layout bytes <;> simp [checked, Except.toOption]

/-- As many bytes of a lawful record as a write has got to are not used unless they are all of
it. -/
theorem Lawful.accepted_take {record : Record} (lawful : Lawful layout record)
    (whole : ∀ {bytes : List UInt8} {found : Record}, layout.decode bytes = some found →
      layout.size ≤ bytes.length) (written : Nat) :
    StateFile.accepted layout (some ((layout.encode record).take written)) = none ∨
      StateFile.accepted layout (some ((layout.encode record).take written)) = some record := by
  have length := lawful.length
  by_cases short : written < layout.size
  · left
    have unread :
        layout.decode (((layout.encode record).take written).take layout.size) = none := by
      by_contra some
      obtain ⟨found, decoded⟩ := Option.ne_none_iff_exists'.mp some
      have long := whole decoded
      rw [List.length_take, List.length_take] at long
      omega
    change (StateFile.check layout ((layout.encode record).take written)).toOption = none
    rw [StateFile.check, unread]
    rfl
  · right
    rw [List.take_of_length_le (by omega)]
    exact lawful.accepted

/-- What a save leaves in the state file without renaming the temporary file to it is what was
there. Only where the path leaves no room for the suffix, it is what the write has got to, of which
a part of the record that is read restores nothing or that of the record. -/
theorem Lawful.unrenamed {Value : Type} (part : Record → Value) {record : Record}
    (lawful : Lawful layout record)
    (whole : ∀ {bytes : List UInt8} {found : Record}, layout.decode bytes = some found →
      layout.size ≤ bytes.length) (path : String) (file : Option (List UInt8)) (written : Nat) :
    let left := StateFile.unrenamed path file ((layout.encode record).take written)
    left = file ∨ path.length = 255 ∧ ((StateFile.accepted layout left).map part = none ∨
      (StateFile.accepted layout left).map part = some (part record)) := by
  intro left
  by_cases own : tmpPath path = path
  · have kept : left = some ((layout.encode record).take written) := if_pos own
    rw [kept]
    refine .inr ⟨(tmpPath_eq path).mp own, ?_⟩
    exact (lawful.accepted_take whole written).imp (congrArg (Option.map part))
      (congrArg (Option.map part))
  · exact .inl (if_neg own)

/-- So it is when all of the record has been written. -/
theorem Lawful.unrenamed_whole {Value : Type} (part : Record → Value) {record : Record}
    (lawful : Lawful layout record)
    (whole : ∀ {bytes : List UInt8} {found : Record}, layout.decode bytes = some found →
      layout.size ≤ bytes.length) (path : String) (file : Option (List UInt8)) :
    let left := StateFile.unrenamed path file (layout.encode record)
    left = file ∨ path.length = 255 ∧ ((StateFile.accepted layout left).map part = none ∨
      (StateFile.accepted layout left).map part = some (part record)) := by
  have all := lawful.unrenamed part whole path file layout.size
  rw [List.take_of_length_le lawful.length.le] at all
  exact all

end

end CfsTelemetry.StateFile
