import CfsTelemetry.Ground.Decoder
import CfsTelemetry.Library.Scan

/-!
# What the stream finds at the front of its buffer

A frame of allowed length with its checksum, a byte that is given up, a text line, text in front of
a frame, or something that is not complete yet. Every look at the buffer finds one of these, no
look fails, and none takes more bytes than there are, so that the loop of the stream always ends.
-/
namespace CfsTelemetry.Ground

open Words Lora Scan

/-- The length that a frame states. -/
def statedLen (frame : List UInt8) : Nat := (byteAt frame 1).toNat

/-- The lengths that the decoder allows. -/
def AllowedLen (bodyLen : Nat) : Prop :=
  dl2BaseLen + dl2TailLen ≤ bodyLen ∧
    bodyLen ≤ dl2BaseLen + dl2SystimeBlockLen + dl2TailLen + dl2WaypointBlockLen

instance (bodyLen : Nat) : Decidable (AllowedLen bodyLen) := by
  unfold AllowedLen
  infer_instance

/-- Bytes that are a whole frame, with an allowed length and a valid checksum. -/
structure IsDl2 (frame : List UInt8) : Prop where
  magic : frame.head? = some dl2Magic
  allowed : AllowedLen (statedLen frame)
  length : frame.length = statedLen frame + 2
  checksum : (unpackH frame (statedLen frame)).map UInt16.toNat =
    some (crc16Ccitt (frame.take (statedLen frame)))

instance (frame : List UInt8) : Decidable (IsDl2 frame) :=
  decidable_of_iff (frame.head? = some dl2Magic ∧ AllowedLen (statedLen frame) ∧
    frame.length = statedLen frame + 2 ∧
    (unpackH frame (statedLen frame)).map UInt16.toNat =
      some (crc16Ccitt (frame.take (statedLen frame))))
    ⟨fun ⟨magic, allowed, length, checksum⟩ => ⟨magic, allowed, length, checksum⟩,
      fun whole => ⟨whole.magic, whole.allowed, whole.length, whole.checksum⟩⟩

/-- A frame is in front of a buffer. -/
def StartsFrame (buf : List UInt8) : Prop := ∃ frame rest, buf = frame ++ rest ∧ IsDl2 frame

/-- A frame has from 50 to 88 bytes. -/
theorem IsDl2.bounds {frame : List UInt8} (whole : IsDl2 frame) :
    50 ≤ frame.length ∧ frame.length ≤ 88 := by
  have ⟨least, most⟩ := whole.allowed
  have length := whole.length
  unfold dl2BaseLen dl2TailLen at least
  unfold dl2BaseLen dl2SystimeBlockLen dl2TailLen dl2WaypointBlockLen at most
  omega

/-- A frame begins with its magic byte and the byte of its length. -/
theorem IsDl2.shape {frame : List UInt8} (whole : IsDl2 frame) :
    ∃ stated rest, frame = dl2Magic :: stated :: rest := by
  have bounds := whole.bounds
  have magic := whole.magic
  match frame with
  | [] => simp at bounds
  | [_] => simp at bounds
  | first :: stated :: rest =>
    rw [List.head?_cons, Option.some.injEq] at magic
    exact ⟨stated, rest, by rw [magic]⟩

/-- The bytes behind a frame do not change the length that it states. -/
theorem IsDl2.statedLen_append {frame : List UInt8} (whole : IsDl2 frame) (rest : List UInt8) :
    statedLen (frame ++ rest) = statedLen frame := by
  have ⟨stated, behind, shape⟩ := whole.shape
  rw [shape]
  rfl

/-- The frame in front of a buffer is determined by the buffer. -/
theorem IsDl2.unique {frame other rest rest' : List UInt8} (whole : IsDl2 frame)
    (whole' : IsDl2 other) (same : frame ++ rest = other ++ rest') :
    frame = other ∧ rest = rest' := by
  have stated : statedLen frame = statedLen other := by
    rw [← whole.statedLen_append rest, same, whole'.statedLen_append]
  exact List.append_inj same (by rw [whole.length, whole'.length, stated])

/-- A buffer with a frame in front begins with the magic byte. -/
theorem StartsFrame.head {buf : List UInt8} (starts : StartsFrame buf) :
    buf.head? = some dl2Magic := by
  have ⟨frame, rest, split, whole⟩ := starts
  have ⟨stated, behind, shape⟩ := whole.shape
  rw [split, shape]
  rfl

/-- No frame begins with a byte other than the magic byte. -/
theorem not_startsFrame {first : UInt8} (magic : first ≠ dl2Magic) (rest : List UInt8) :
    ¬ StartsFrame (first :: rest) := by
  intro starts
  have head := starts.head
  rw [List.head?_cons, Option.some.injEq] at head
  exact magic head

/-- Reading on after a read that succeeds. -/
theorem isSome_bind_of {α β : Type} {read : Option α} {next : α → Option β}
    (first : read.isSome) (later : ∀ value, (next value).isSome) :
    (read.bind next).isSome := by
  have ⟨value, found⟩ := Option.isSome_iff_exists.mp first
  rw [found]
  exact later value

section

variable {frame : List UInt8} {offset : Nat}

/-- A byte inside a frame is read. -/
theorem unpackB_isSome (inside : offset + 1 ≤ frame.length) : (unpackB frame offset).isSome := by
  have bound : offset < frame.length := inside
  simpa [unpackB] using bound

/-- A 16-bit word inside a frame is read. -/
theorem unpackH_isSome (inside : offset + 2 ≤ frame.length) : (unpackH frame offset).isSome := by
  have enough : 2 ≤ (frame.drop offset).length := by
    rw [List.length_drop]
    omega
  unfold unpackH
  match frame.drop offset, enough with
  | _ :: _ :: _, _ => rfl

/-- A signed 16-bit word inside a frame is read. -/
theorem unpackSignedH_isSome (inside : offset + 2 ≤ frame.length) :
    (unpackSignedH frame offset).isSome := by
  unfold unpackSignedH
  rw [Option.isSome_map]
  exact unpackH_isSome inside

/-- A 32-bit word inside a frame is read. -/
theorem unpackI_isSome (inside : offset + 4 ≤ frame.length) : (unpackI frame offset).isSome := by
  have enough : 4 ≤ (frame.drop offset).length := by
    rw [List.length_drop]
    omega
  unfold unpackI
  match frame.drop offset, enough with
  | _ :: _ :: _ :: _ :: _, _ => rfl

/-- A signed 32-bit word inside a frame is read. -/
theorem unpackSignedI_isSome (inside : offset + 4 ≤ frame.length) :
    (unpackSignedI frame offset).isSome := by
  unfold unpackSignedI
  rw [Option.isSome_map]
  exact unpackI_isSome inside

/-- A 64-bit word inside a frame is read. -/
theorem unpackQ_isSome (inside : offset + 8 ≤ frame.length) : (unpackQ frame offset).isSome := by
  unfold unpackQ
  refine isSome_bind_of (unpackI_isSome (by omega)) fun low => ?_
  exact isSome_bind_of (unpackI_isSome (by omega)) fun high => rfl

/-- A waypoint inside a frame is read. -/
theorem unpackWaypoint_isSome (inside : offset + 13 ≤ frame.length) :
    (unpackWaypoint frame offset).isSome := by
  unfold unpackWaypoint
  refine isSome_bind_of (unpackB_isSome (by omega)) fun cmdType => ?_
  refine isSome_bind_of (unpackSignedI_isSome (by omega)) fun latE7 => ?_
  refine isSome_bind_of (unpackSignedI_isSome (by omega)) fun lonE7 => ?_
  exact isSome_bind_of (unpackI_isSome (by omega)) fun z => rfl

/-- A page inside a frame is read. -/
theorem unpackPage_isSome (inside : offset + 30 ≤ frame.length) :
    (unpackPage frame offset).isSome := by
  unfold unpackPage
  refine isSome_bind_of (unpackB_isSome (by omega)) fun routeType => ?_
  refine isSome_bind_of (unpackB_isSome (by omega)) fun pageIndex => ?_
  refine isSome_bind_of (unpackB_isSome (by omega)) fun totalPages => ?_
  refine isSome_bind_of (unpackB_isSome (by omega)) fun inPage => ?_
  refine isSome_bind_of (unpackWaypoint_isSome (by omega)) fun first => ?_
  exact isSome_bind_of (unpackWaypoint_isSome (by omega)) fun second => rfl

end

section

variable (flags : UInt8) (frame : List UInt8)

/-- The system time of a frame is read: its block is looked for only where the frame is long
enough for it. -/
theorem unpackSysTime_isSome : (unpackSysTime flags frame).isSome := by
  unfold unpackSysTime
  by_cases there : hasSysTime flags frame = true
  · have long : dl2BaseLen + dl2SystimeBlockLen + dl2TailLen + 2 ≤ frame.length := by
      unfold hasSysTime at there
      simp only [Bool.and_eq_true, decide_eq_true_eq] at there
      exact there.2
    unfold dl2SystimeBlockLen at long
    rw [if_pos there, Option.isSome_map]
    exact unpackQ_isSome (by omega)
  · rw [if_neg there]
    rfl

/-- The tail of a frame is read. -/
theorem unpackTail_isSome : (unpackTail flags frame).isSome := by
  unfold unpackTail
  by_cases long : frame.length ≥ tailOffset flags frame + dl2TailLen + 2
  · unfold dl2TailLen at long
    rw [if_pos (by unfold dl2TailLen; omega)]
    refine isSome_bind_of (unpackH_isSome (by omega)) fun lastSeq => ?_
    exact isSome_bind_of (unpackB_isSome (by omega)) fun bootCount => rfl
  · rw [if_neg long]
    rfl

/-- The page of a frame is read. -/
theorem unpackPageBlock_isSome : (unpackPageBlock flags frame).isSome := by
  unfold unpackPageBlock
  dsimp only
  split
  next there =>
    simp only [Bool.and_eq_true, decide_eq_true_eq] at there
    have long := there.2
    unfold dl2WaypointBlockLen at long
    rw [Option.isSome_map]
    exact unpackPage_isSome (by omega)
  next => rfl

end

/-- Decoding a frame never reads outside it. -/
theorem decodeDl2_isSome {frame : List UInt8} (long : 50 ≤ frame.length) :
    (decodeDl2 frame).isSome := by
  unfold decodeDl2
  refine isSome_bind_of (unpackH_isSome (by omega)) fun seq => ?_
  refine isSome_bind_of (unpackB_isSome (by omega)) fun flags => ?_
  refine isSome_bind_of (unpackB_isSome (by omega)) fun ufb => ?_
  refine isSome_bind_of (unpackI_isSome (by omega)) fun tsMs => ?_
  refine isSome_bind_of (unpackSignedH_isSome (by omega)) fun rollRad => ?_
  refine isSome_bind_of (unpackSignedH_isSome (by omega)) fun pitchRad => ?_
  refine isSome_bind_of (unpackSignedH_isSome (by omega)) fun yawRad => ?_
  refine isSome_bind_of (unpackSignedH_isSome (by omega)) fun xM => ?_
  refine isSome_bind_of (unpackSignedH_isSome (by omega)) fun yM => ?_
  refine isSome_bind_of (unpackSignedH_isSome (by omega)) fun zM => ?_
  refine isSome_bind_of (unpackSignedH_isSome (by omega)) fun vxMps => ?_
  refine isSome_bind_of (unpackSignedH_isSome (by omega)) fun vyMps => ?_
  refine isSome_bind_of (unpackSignedH_isSome (by omega)) fun vzMps => ?_
  refine isSome_bind_of (unpackSignedI_isSome (by omega)) fun latE7 => ?_
  refine isSome_bind_of (unpackSignedI_isSome (by omega)) fun lonE7 => ?_
  refine isSome_bind_of (unpackSignedI_isSome (by omega)) fun altMm => ?_
  refine isSome_bind_of (unpackB_isSome (by omega)) fun fix => ?_
  refine isSome_bind_of (unpackB_isSome (by omega)) fun sats => ?_
  refine isSome_bind_of (unpackB_isSome (by omega)) fun health => ?_
  refine isSome_bind_of (unpackB_isSome (by omega)) fun fault => ?_
  refine isSome_bind_of (unpackB_isSome (by omega)) fun linkstate => ?_
  refine isSome_bind_of (unpackSysTime_isSome flags frame) fun sysTime => ?_
  refine isSome_bind_of (unpackTail_isSome flags frame) fun tail => ?_
  exact isSome_bind_of (unpackPageBlock_isSome flags frame) fun page => rfl

/-! ## Frames at the front -/

/-- The buffer holds enough bytes to tell whether a frame is in front of it. -/
def Settled (buf : List UInt8) : Prop :=
  2 ≤ buf.length ∧ (AllowedLen (statedLen buf) → statedLen buf + 2 ≤ buf.length)

/-- A byte behind the first two does not change the length that is stated in front. -/
theorem statedLen_append {buf : List UInt8} (two : 2 ≤ buf.length) (later : List UInt8) :
    statedLen (buf ++ later) = statedLen buf := by
  match buf, two with
  | _ :: _ :: _, _ => rfl

/-- As many bytes as the longest frame has are enough. -/
theorem Settled.of_length {buf : List UInt8} (long : 88 ≤ buf.length) : Settled buf := by
  constructor
  · omega
  · intro allowed
    have most := allowed.2
    unfold dl2BaseLen dl2SystimeBlockLen dl2TailLen dl2WaypointBlockLen at most
    omega

/-- Enough bytes stay enough when more come. -/
theorem Settled.append {buf : List UInt8} (settled : Settled buf) (later : List UInt8) :
    Settled (buf ++ later) := by
  have ⟨two, enough⟩ := settled
  unfold Settled
  rw [statedLen_append two, List.length_append]
  constructor
  · omega
  · intro allowed
    have held := enough allowed
    omega

/-- More bytes do not put a frame in front where there are enough to tell that none is. -/
theorem Settled.startsFrame {buf later : List UInt8} (settled : Settled buf)
    (starts : StartsFrame (buf ++ later)) : StartsFrame buf := by
  have ⟨two, enough⟩ := settled
  have ⟨frame, rest, split, whole⟩ := starts
  have stated : statedLen buf = statedLen frame := by
    rw [← statedLen_append two later, split, whole.statedLen_append]
  have held : frame.length ≤ buf.length := by
    have length := whole.length
    have enough := enough (by rw [stated]; exact whole.allowed)
    omega
  have start : frame = buf.take frame.length := by
    have taken := congrArg (List.take frame.length) split
    rw [List.take_left, List.take_append_of_le_length held] at taken
    exact taken.symm
  have parts : buf = frame ++ buf.drop frame.length := by
    calc buf = buf.take frame.length ++ buf.drop frame.length := (List.take_append_drop ..).symm
      _ = frame ++ buf.drop frame.length := by rw [← start]
  exact ⟨frame, _, parts, whole⟩

/-- Where there are enough bytes to tell that no frame is in front, none is when more come. -/
theorem Settled.no_frame {buf : List UInt8} (settled : Settled buf) (no : ¬ StartsFrame buf)
    (later : List UInt8) : ¬ StartsFrame (buf ++ later) :=
  fun starts => no (settled.startsFrame starts)

/-- A frame at the front of the buffer is taken whole. -/
theorem tryParse_frame {frame : List UInt8} (whole : IsDl2 frame) (rest : List UInt8) :
    ∃ decoded, decodeDl2 frame = some decoded ∧
      tryParse (frame ++ rest) = some (some (.frame decoded), frame.length) := by
  have bounds := whole.bounds
  have ⟨decoded, reads⟩ := Option.isSome_iff_exists.mp (decodeDl2_isSome bounds.1)
  have ⟨stated, behind, shape⟩ := whole.shape
  have ⟨least, most⟩ := whole.allowed
  have declared : (byteAt (frame ++ rest) 1).toNat = statedLen frame :=
    whole.statedLen_append rest
  have cut : (frame ++ rest).take (statedLen frame + 2) = frame := by
    rw [← whole.length, List.take_left]
  have ⟨crc, found, valid⟩ := Option.map_eq_some_iff.mp whole.checksum
  have parsed : tryParseDl2 (frame ++ rest) = some (some (.frame decoded), frame.length) := by
    unfold tryParseDl2
    dsimp only
    rw [declared, if_neg (by rw [List.length_append]; omega), if_neg (by omega),
      if_neg (by rw [List.length_append, whole.length]; omega), cut, found, whole.length]
    dsimp only [Option.bind_eq_bind, Option.bind_some]
    rw [if_neg (fun differ => differ valid.symm), reads]
    rfl
  refine ⟨decoded, reads, ?_⟩
  rw [← parsed, shape]
  rfl

/-- A magic byte is given up when the bytes behind it do not make it a frame. -/
theorem tryParse_rejected {rest : List UInt8} (settled : Settled (dl2Magic :: rest))
    (no : ¬ StartsFrame (dl2Magic :: rest)) :
    ∃ reason, tryParse (dl2Magic :: rest) = some (some (.decodeError reason), 1) := by
  have parsed : tryParse (dl2Magic :: rest) = tryParseDl2 (dl2Magic :: rest) := rfl
  have ⟨two, enough⟩ := settled
  rw [parsed]
  generalize held : dl2Magic :: rest = buf at *
  have magic : buf.head? = some dl2Magic := by
    rw [← held]
    rfl
  unfold tryParseDl2
  dsimp only
  rw [if_neg (by omega)]
  by_cases allowed : AllowedLen (statedLen buf)
  · have ⟨least, most⟩ := allowed
    have length := enough allowed
    unfold statedLen at least most length
    rw [if_neg (by omega), if_neg (by omega)]
    have cut : (buf.take (statedLen buf + 2)).length = statedLen buf + 2 := by
      rw [List.length_take]
      unfold statedLen
      omega
    have ⟨crc, found⟩ := Option.isSome_iff_exists.mp (unpackH_isSome cut.ge)
    unfold statedLen at found
    rw [found]
    dsimp only [Option.bind_eq_bind, Option.bind_some]
    split
    next => exact ⟨_, rfl⟩
    next valid =>
      have split : buf = buf.take (statedLen buf + 2) ++ buf.drop (statedLen buf + 2) :=
        (List.take_append_drop ..).symm
      have stated : statedLen (buf.take (statedLen buf + 2)) = statedLen buf := by
        have back := statedLen_append (by omega : 2 ≤ (buf.take (statedLen buf + 2)).length)
          (buf.drop (statedLen buf + 2))
        rw [← back, ← split]
      have front : (buf.take (statedLen buf + 2)).head? = some dl2Magic := by
        rw [List.head?_take, if_neg (by omega), magic]
      have whole : IsDl2 (buf.take (statedLen buf + 2)) := by
        refine ⟨front, by rw [stated]; exact allowed, by rw [stated, cut], ?_⟩
        rw [stated]
        unfold statedLen
        rw [found, not_not.mp valid]
        rfl
      exact absurd ⟨_, _, split, whole⟩ no
  · unfold AllowedLen statedLen at allowed
    rw [if_pos (by omega)]
    exact ⟨_, rfl⟩

/-- A magic byte waits for the bytes behind it. -/
theorem tryParse_unfinished {rest : List UInt8} (short : ¬ Settled (dl2Magic :: rest)) :
    tryParse (dl2Magic :: rest) = some (none, 0) := by
  have parsed : tryParse (dl2Magic :: rest) = tryParseDl2 (dl2Magic :: rest) := rfl
  rw [parsed]
  unfold tryParseDl2
  dsimp only
  unfold Settled at short
  by_cases two : (dl2Magic :: rest).length < 2
  · rw [if_pos two]
  · have ⟨allowed, missing⟩ := not_forall.mp (fun enough => short ⟨by omega, enough⟩)
    have ⟨least, most⟩ := allowed
    unfold statedLen at least most missing
    rw [if_neg two, if_neg (by omega), if_pos (by omega)]

/-! ## Text at the front -/

/-- A byte with which a text line begins. -/
def TextFirst (byte : UInt8) : Prop :=
  (0x20 ≤ byte ∧ byte < 0x7F) ∨ byte = 0x0A ∨ byte = 0x0D

instance (byte : UInt8) : Decidable (TextFirst byte) := by
  unfold TextFirst
  infer_instance

/-- Bytes with neither a newline nor the magic byte of a frame among them. -/
def Plain (text : List UInt8) : Prop := ∀ byte ∈ text, byte ≠ 10 ∧ byte ≠ dl2Magic

/-- The text of a line. -/
def lineText (text : List UInt8) : String := String.ofList (stripReturns (text.map asciiChar))

/-- Plain bytes in two parts. -/
theorem plain_append {first second : List UInt8} :
    Plain (first ++ second) ↔ Plain first ∧ Plain second := by
  unfold Plain
  constructor
  · intro plain
    exact ⟨fun byte held => plain byte (List.mem_append_left _ held),
      fun byte held => plain byte (List.mem_append_right _ held)⟩
  · rintro ⟨front, back⟩ byte held
    rcases List.mem_append.mp held with held | held
    · exact front byte held
    · exact back byte held

/-- Bytes are plain up to their first newline or magic byte. -/
theorem plain_split (bytes : List UInt8) :
    Plain bytes ∨ ∃ text rest, Plain text ∧
      (bytes = text ++ 10 :: rest ∨ bytes = text ++ dl2Magic :: rest) := by
  induction bytes with
  | nil => exact .inl fun byte held => absurd held List.not_mem_nil
  | cons first bytes previous =>
    by_cases newline : first = 10
    · exact .inr ⟨[], bytes, fun byte held => absurd held List.not_mem_nil,
        .inl (by rw [newline]; rfl)⟩
    · by_cases magic : first = dl2Magic
      · exact .inr ⟨[], bytes, fun byte held => absurd held List.not_mem_nil,
          .inr (by rw [magic]; rfl)⟩
      · have front : Plain [first] := by simpa [Plain] using ⟨newline, magic⟩
        rcases previous with plain | ⟨text, rest, plain, split⟩
        · exact .inl (plain_append.mpr ⟨front, plain⟩)
        · refine .inr ⟨first :: text, rest, plain_append.mpr ⟨front, plain⟩, ?_⟩
          rcases split with split | split
          · exact .inl (by rw [split]; rfl)
          · exact .inr (by rw [split]; rfl)

/-- Bytes of a line with its newline are not the magic byte. -/
theorem Plain.line_ne_magic {text : List UInt8} (plain : Plain text) :
    ∀ byte ∈ text ++ [10], byte ≠ dl2Magic := by
  intro byte held
  rcases List.mem_append.mp held with held | held
  · exact (plain byte held).2
  · rw [List.mem_singleton.mp held]
    decide

/-- Among plain bytes no newline is found. -/
theorem Plain.newline {text : List UInt8} (plain : Plain text) :
    text.findIdx? (· == 10) = none := by
  rw [List.findIdx?_eq_none_iff]
  intro byte held
  simpa using (plain byte held).1

/-- Among plain bytes no magic byte is found. -/
theorem Plain.magic {text : List UInt8} (plain : Plain text) :
    text.findIdx? (· == dl2Magic) = none := by
  rw [List.findIdx?_eq_none_iff]
  intro byte held
  simpa using (plain byte held).2

/-- A buffer that begins as text is looked at as text. -/
theorem tryParse_text {first : UInt8} (text : TextFirst first) (rest : List UInt8) :
    tryParse (first :: rest) = some (tryParseV1Line (first :: rest)) := by
  have notMagic (magic : UInt8) (beyond : ¬ TextFirst magic) : first ≠ magic :=
    fun same => beyond (same ▸ text)
  unfold tryParse
  dsimp only
  rw [if_neg (notMagic dl2Magic (by decide)),
    if_neg (not_or.mpr ⟨notMagic up2Magic (by decide), notMagic ack2Magic (by decide)⟩)]
  exact if_pos text

/-- A byte that begins neither a frame nor text is given up. -/
theorem tryParse_stray {first : UInt8} (magic : first ≠ dl2Magic) (stray : ¬ TextFirst first)
    (rest : List UInt8) :
    ∃ reason, tryParse (first :: rest) = some (some (.decodeError reason), 1) := by
  unfold TextFirst at stray
  unfold tryParse
  dsimp only
  rw [if_neg magic]
  by_cases opposite : first = up2Magic ∨ first = ack2Magic
  · rw [if_pos opposite]
    exact ⟨_, rfl⟩
  · rw [if_neg opposite, if_neg stray]
    exact ⟨_, rfl⟩

/-- A line is taken when no magic byte is in front of its newline. -/
theorem tryParseV1Line_line {buf : List UInt8} {ending : Nat}
    (newline : buf.findIdx? (· == 10) = some ending)
    (later : ∀ index, buf.findIdx? (· == dl2Magic) = some index → ending ≤ index) :
    tryParseV1Line buf = (some (.line (lineText (buf.take ending))), ending + 1) := by
  unfold tryParseV1Line lineText
  dsimp only
  rw [newline]
  cases start : buf.findIdx? (· == dl2Magic) with
  | none => rfl
  | some index =>
    have bound := later index start
    dsimp only
    rw [if_neg (by simpa using bound)]

/-- What is in front of a magic byte is given up when no newline is. -/
theorem tryParseV1Line_beforeMagic {buf : List UInt8} {index : Nat}
    (start : buf.findIdx? (· == dl2Magic) = some index)
    (later : ∀ ending, buf.findIdx? (· == 10) = some ending → index < ending) :
    ∃ reason, tryParseV1Line buf = (some (.decodeError reason), index) := by
  unfold tryParseV1Line
  dsimp only
  rw [start]
  cases newline : buf.findIdx? (· == 10) with
  | none => exact ⟨_, rfl⟩
  | some ending =>
    have bound := later ending newline
    dsimp only
    rw [if_pos (by simpa using bound)]
    exact ⟨_, rfl⟩

/-- A text line is taken with its newline. -/
theorem tryParse_line {text : List UInt8} (plain : Plain text)
    (first : ∀ byte ∈ text.head?, TextFirst byte) (rest : List UInt8) :
    tryParse (text ++ 10 :: rest) = some (some (.line (lineText text)), text.length + 1) := by
  have newline : (text ++ 10 :: rest).findIdx? (· == 10) = some text.length := by
    simp [List.findIdx?_append, plain.newline, List.findIdx?_cons]
  have later (index : Nat)
      (start : (text ++ 10 :: rest).findIdx? (· == dl2Magic) = some index) :
      text.length ≤ index := by
    rw [List.findIdx?_append, plain.magic, Option.none_or, Option.map_eq_some_iff] at start
    have ⟨behind, _, sum⟩ := start
    omega
  have parsed : tryParseV1Line (text ++ 10 :: rest) =
      (some (.line (lineText text)), text.length + 1) := by
    rw [tryParseV1Line_line newline later, List.take_left]
  cases text with
  | nil =>
    rw [List.nil_append, tryParse_text (by decide)]
    exact congrArg some parsed
  | cons byte text =>
    rw [List.cons_append, tryParse_text (first byte rfl)]
    exact congrArg some parsed

/-- Text in front of a frame is given up. -/
theorem tryParse_beforeMagic {byte : UInt8} {text : List UInt8} (plain : Plain (byte :: text))
    (first : TextFirst byte) (rest : List UInt8) :
    ∃ reason, tryParse (byte :: text ++ dl2Magic :: rest) =
      some (some (.decodeError reason), (byte :: text).length) := by
  have start : (byte :: text ++ dl2Magic :: rest).findIdx? (· == dl2Magic) =
      some (byte :: text).length := by
    rw [List.findIdx?_append, plain.magic]
    simp [List.findIdx?_cons]
  have later (ending : Nat)
      (newline : (byte :: text ++ dl2Magic :: rest).findIdx? (· == 10) = some ending) :
      (byte :: text).length < ending := by
    rw [List.findIdx?_append, plain.newline, Option.none_or, Option.map_eq_some_iff,
      List.findIdx?_cons, if_neg (by decide)] at newline
    have ⟨behind, found, sum⟩ := newline
    have ⟨position, _, next⟩ := Option.map_eq_some_iff.mp found
    omega
  have ⟨reason, parsed⟩ := tryParseV1Line_beforeMagic start later
  rw [List.cons_append, tryParse_text first]
  exact ⟨reason, congrArg some parsed⟩

/-- Text that is not ended is given up as a whole when it is too long, and else waits. -/
theorem tryParse_pending {byte : UInt8} {text : List UInt8} (plain : Plain (byte :: text))
    (first : TextFirst byte) :
    tryParse (byte :: text) =
      if (byte :: text).length > maxV1Line then
        some (some (.decodeError "v1 line overflow"), (byte :: text).length)
      else some (none, 0) := by
  rw [tryParse_text first]
  unfold tryParseV1Line
  rw [plain.magic, plain.newline]
  dsimp only
  by_cases long : (byte :: text).length > maxV1Line
  · rw [if_pos long, if_pos long]
    rfl
  · rw [if_neg long, if_neg long]
    rfl

/-- What a look at the buffer finds there, and how many bytes it takes. -/
inductive Found : List UInt8 → Option StreamEvent → Nat → Prop
  | empty : Found [] none 0
  | frame {frame rest : List UInt8} {decoded : Dl2Frame} (whole : IsDl2 frame)
      (reads : decodeDl2 frame = some decoded) :
      Found (frame ++ rest) (some (.frame decoded)) frame.length
  | rejected {rest : List UInt8} {reason : String} (settled : Settled (dl2Magic :: rest))
      (no : ¬ StartsFrame (dl2Magic :: rest)) :
      Found (dl2Magic :: rest) (some (.decodeError reason)) 1
  | unfinished {rest : List UInt8} (short : ¬ Settled (dl2Magic :: rest)) :
      Found (dl2Magic :: rest) none 0
  | stray {byte : UInt8} {rest : List UInt8} {reason : String} (magic : byte ≠ dl2Magic)
      (stray : ¬ TextFirst byte) : Found (byte :: rest) (some (.decodeError reason)) 1
  | line {text rest : List UInt8} (plain : Plain text)
      (first : ∀ byte ∈ text.head?, TextFirst byte) :
      Found (text ++ 10 :: rest) (some (.line (lineText text))) (text.length + 1)
  | beforeMagic {byte : UInt8} {text rest : List UInt8} {reason : String}
      (plain : Plain (byte :: text)) (first : TextFirst byte) :
      Found (byte :: text ++ dl2Magic :: rest) (some (.decodeError reason)) (byte :: text).length
  | overflow {byte : UInt8} {text : List UInt8} {reason : String} (plain : Plain (byte :: text))
      (first : TextFirst byte) (long : (byte :: text).length > maxV1Line) :
      Found (byte :: text) (some (.decodeError reason)) (byte :: text).length
  | waiting {byte : UInt8} {text : List UInt8} (plain : Plain (byte :: text))
      (first : TextFirst byte) (short : (byte :: text).length ≤ maxV1Line) :
      Found (byte :: text) none 0

/-- Every look at the buffer finds something. -/
theorem tryParse_found (buf : List UInt8) :
    ∃ event count, tryParse buf = some (event, count) ∧ Found buf event count := by
  cases buf with
  | nil => exact ⟨none, 0, rfl, .empty⟩
  | cons first rest =>
    by_cases magic : first = dl2Magic
    · rw [magic]
      by_cases settled : Settled (dl2Magic :: rest)
      · by_cases starts : StartsFrame (dl2Magic :: rest)
        · have ⟨frame, behind, split, whole⟩ := starts
          have ⟨decoded, reads, parsed⟩ := tryParse_frame whole behind
          rw [split]
          exact ⟨_, _, parsed, .frame whole reads⟩
        · have ⟨reason, parsed⟩ := tryParse_rejected settled starts
          exact ⟨_, _, parsed, .rejected settled starts⟩
      · exact ⟨_, _, tryParse_unfinished settled, .unfinished settled⟩
    · by_cases text : TextFirst first
      · rcases plain_split (first :: rest) with plain | ⟨line, behind, plain, split | split⟩
        · have parsed := tryParse_pending plain text
          by_cases long : (first :: rest).length > maxV1Line
          · rw [if_pos long] at parsed
            exact ⟨_, _, parsed, .overflow plain text long⟩
          · rw [if_neg long] at parsed
            exact ⟨_, _, parsed, .waiting plain text (Nat.le_of_not_lt long)⟩
        · have head : ∀ byte ∈ line.head?, TextFirst byte := by
            intro byte held
            cases line with
            | nil => cases held
            | cons front line =>
              rw [List.cons_append, List.cons.injEq] at split
              rw [List.head?_cons, Option.mem_some_iff] at held
              rw [← held, ← split.1]
              exact text
          rw [split]
          exact ⟨_, _, tryParse_line plain head behind, .line plain head⟩
        · cases line with
          | nil =>
            rw [List.nil_append, List.cons.injEq] at split
            exact absurd split.1 magic
          | cons front line =>
            rw [List.cons_append, List.cons.injEq] at split
            have ⟨same, later⟩ := split
            subst same
            have ⟨reason, parsed⟩ := tryParse_beforeMagic plain text behind
            rw [later]
            exact ⟨_, _, parsed, .beforeMagic plain text⟩
      · have ⟨reason, parsed⟩ := tryParse_stray magic text rest
        exact ⟨_, _, parsed, .stray magic text⟩

/-- What a look at the buffer says is what is found there. -/
theorem found_of_tryParse {buf : List UInt8} {event : Option StreamEvent} {count : Nat}
    (parsed : tryParse buf = some (event, count)) : Found buf event count := by
  have ⟨_, _, looked, found⟩ := tryParse_found buf
  rw [parsed] at looked
  cases looked
  exact found

/-- No more bytes are taken than there are. -/
theorem Found.within {buf : List UInt8} {event : Option StreamEvent} {count : Nat}
    (found : Found buf event count) : count ≤ buf.length := by
  cases found with
  | empty | unfinished | waiting => exact Nat.zero_le _
  | rejected | stray | overflow => simp
  | frame | line | beforeMagic => simp

/-- The stream looks at every buffer without failing. -/
theorem tryParse_progress : Progress tryParse := by
  intro buf
  have ⟨event, count, parsed, found⟩ := tryParse_found buf
  exact ⟨event, count, parsed, found.within⟩

/-- The stream runs its loop. -/
theorem drain_scans {buf left : List UInt8} {events : List StreamEvent}
    (scans : Scans tryParse buf events left) : drain buf = some (events, left) := by
  induction scans with
  | stop waits =>
    rw [drain, waits]
    rfl
  | @turn buf next left event events first later previous =>
    have fewer := first.shorter tryParse_progress
    cases first with
    | take found taken =>
      rw [drain, found]
      dsimp only [Option.bind_eq_bind, Option.bind_some]
      rw [if_pos ⟨by omega, by omega⟩, previous]
      rfl

/-- A frame at the front of the buffer is found first. -/
theorem scans_frame {frame rest left : List UInt8} {decoded : Dl2Frame}
    {events : List StreamEvent} (whole : IsDl2 frame) (reads : decodeDl2 frame = some decoded)
    (later : Scans tryParse rest events left) :
    Scans tryParse (frame ++ rest) (.frame decoded :: events) left := by
  have bounds := whole.bounds
  have ⟨other, reads', parsed⟩ := tryParse_frame whole rest
  have same : other = decoded := Option.some.inj (reads'.symm.trans reads)
  have first := Turn.take parsed (by omega)
  rw [same, List.drop_left] at first
  exact .turn first later

/-- What the stream makes of a buffer is what its loop makes of it, and it always ends. -/
theorem drain_eq_some {buf left : List UInt8} {events : List StreamEvent} :
    drain buf = some (events, left) ↔ Scans tryParse buf events left := by
  constructor
  · intro drained
    have ⟨found, kept, scans⟩ := Scans.ends tryParse_progress buf
    have same := drain_scans scans
    rw [drained] at same
    cases same
    exact scans
  · exact drain_scans

/-- What the stream makes of chunks is what its loop makes of them. -/
theorem feedAll_eq_some {buf left : List UInt8} {chunks : List (List UInt8)}
    {events : List StreamEvent} :
    feedAll buf chunks = some (events, left) ↔ Feeds tryParse buf chunks events left := by
  induction chunks generalizing buf events with
  | nil =>
    unfold feedAll
    constructor
    · intro same
      cases same
      exact .done
    · intro feeds
      cases feeds
      rfl
  | cons chunk chunks previous =>
    unfold feedAll feed
    constructor
    · intro fed
      have ⟨⟨first, kept⟩, drained, rest⟩ := Option.bind_eq_some_iff.mp fed
      have ⟨⟨later, last⟩, fed, split⟩ := Option.bind_eq_some_iff.mp rest
      cases split
      exact .chunk (drain_eq_some.mp drained) (previous.mp fed)
    · intro feeds
      cases feeds with
      | chunk first rest =>
        rw [drain_scans first]
        dsimp only [Option.bind_eq_bind, Option.bind_some]
        rw [previous.mpr rest]
        rfl

end CfsTelemetry.Ground
