import CfsTelemetry.Library.Run

/-!
# Files that survive a crash

A file system with what a crash may leave of it. Bytes that have not been synced can be anything
afterwards. A directory entry that was replaced can come back until the directory is synced, on
a file system that is late with its entries, and not at all on one that is not. A value is saved
by writing a temporary file and renaming it. A load after a crash finds the last value that was
saved, or the one that was being saved, exactly when the two files are different and the sync of
a directory is the one of the directory that the file is in.
-/
namespace CfsTelemetry.Storage

open Run

/-- A file: its bytes, and whether they are on the medium. -/
structure File where
  bytes : List UInt8
  synced : Bool
  deriving DecidableEq, Repr

/-- What a crash may leave of a file. -/
structure File.Leaves (file left : File) : Prop where
  /-- What is left is on the medium. -/
  synced : left.synced = true
  /-- Bytes that were on the medium are left. -/
  bytes : file.synced = true → left.bytes = file.bytes

/-- The files of a file system by their paths. -/
structure Disk (Path : Type) where
  /-- The file at a path, when there is one. -/
  entry : Path → Option File
  /-- What was at a path before, as long as a crash can bring it back. -/
  older : Path → List (Option File)

/-- A call of the file system. The calls on an open file name its path. -/
inductive Call (Path Dir : Type) where
  | truncate (path : Path)
  | write (path : Path) (bytes : List UInt8)
  | sync (path : Path)
  | close (path : Path)
  | rename (source target : Path)
  | syncDirectory (directory : Dir)

/-- What a crash may leave of a file system. -/
structure Crash {Path : Type} (disk left : Disk Path) : Prop where
  /-- A path has what it had, or what it had before. -/
  entry : ∀ path, ∃ found ∈ disk.entry path :: disk.older path,
    Option.Rel File.Leaves found (left.entry path)
  /-- It keeps what it has. -/
  older : ∀ path, left.older path = []

/-- Whether a path keeps what it has in a crash. -/
structure Settled {Path : Type} (disk : Disk Path) (path : Path) : Prop where
  /-- Its bytes are on the medium. -/
  synced : ∀ file, disk.entry path = some file → file.synced = true
  /-- Nothing else comes back. -/
  older : disk.older path = []

/-- The bytes of the file at a path. -/
def content {Path : Type} (disk : Disk Path) (path : Path) : Option (List UInt8) :=
  (disk.entry path).map File.bytes

section

variable {Path : Type} {disk left : Disk Path}

/-- A crash leaves every path settled. -/
theorem Crash.settled (crash : Crash disk left) (path : Path) : Settled left path := by
  refine ⟨fun file present => ?_, crash.older path⟩
  have ⟨found, _, leaves⟩ := crash.entry path
  rw [present] at leaves
  cases leaves with
  | some leaves => exact leaves.synced

/-- When everything that can come back at a path is on the medium, a crash leaves one of it. -/
theorem Crash.entry_mem (crash : Crash disk left)
    (synced : ∀ file, some file ∈ disk.entry path :: disk.older path → file.synced = true) :
    left.entry path ∈ disk.entry path :: disk.older path := by
  obtain ⟨found, among, leaves⟩ := crash.entry path
  generalize left.entry path = kept at leaves ⊢
  cases leaves with
  | none => exact among
  | @some file kept leaves =>
    have whole := synced file among
    have same : kept = file := by
      cases kept
      cases file
      simp only [File.mk.injEq]
      exact ⟨leaves.bytes whole, leaves.synced.trans whole.symm⟩
    rw [same]
    exact among

/-- A crash that leaves every path what it has. -/
theorem crash_present (disk : Disk Path) :
    Crash disk ⟨fun path => (disk.entry path).map fun file => { file with synced := true },
      fun _ => []⟩ := by
  refine ⟨fun path => ⟨disk.entry path, by simp, ?_⟩, fun _ => rfl⟩
  dsimp only
  cases disk.entry path with
  | none => exact .none
  | some file => exact .some ⟨rfl, fun _ => rfl⟩

end

section

variable {Path Dir : Type} [DecidableEq Path] [DecidableEq Dir]

/-- What a crash can bring back at a path once its entry is replaced. -/
def replaced (late : Bool) (disk : Disk Path) (path : Path) : List (Option File) :=
  if late then disk.entry path :: disk.older path else disk.older path

/-- A call that succeeds. Opening a file to truncate it makes one when there is none. -/
def perform (late : Bool) (directory : Path → Dir) (disk : Disk Path) : Call Path Dir → Disk Path
  | .truncate path => {
      entry := fun other => if other = path then some ⟨[], false⟩ else disk.entry other
      older := fun other =>
        if other = path ∧ disk.entry path = none then replaced late disk path
        else disk.older other }
  | .write path bytes => { disk with
      entry := fun other =>
        if other = path then (disk.entry path).map fun file => ⟨file.bytes ++ bytes, false⟩
        else disk.entry other }
  | .sync path => { disk with
      entry := fun other =>
        if other = path then (disk.entry path).map fun file => { file with synced := true }
        else disk.entry other }
  | .close _ => disk
  | .rename source target =>
    if source = target then disk
    else {
      entry := fun other =>
        if other = target then disk.entry source
        else if other = source then none
        else disk.entry other
      older := fun other =>
        if other = target ∨ other = source then replaced late disk other else disk.older other }
  | .syncDirectory synced => { disk with
      older := fun other => if directory other = synced then [] else disk.older other }

/-! ## Saving by replacement -/

/-- Write a file. -/
def prepare (temporary : Path) (bytes : List UInt8) : List (Call Path Dir) :=
  [.truncate temporary, .write temporary bytes, .sync temporary, .close temporary]

/-- Put a file in the place of another, and sync a directory. -/
def commit (temporary path : Path) (synced : Option Dir) : List (Call Path Dir) :=
  .rename temporary path :: synced.toList.map .syncDirectory

/-- Save bytes by way of a temporary file. -/
def replace (temporary path : Path) (synced : Option Dir) (bytes : List UInt8) :
    List (Call Path Dir) :=
  prepare temporary bytes ++ commit temporary path synced

variable {late : Bool} {directory : Path → Dir} {disk left : Disk Path} {temporary path : Path}
  {synced : Option Dir} {bytes : List UInt8}

/-- A call that writes a file leaves the other paths. -/
theorem perform_prepare (apart : path ≠ temporary) {call : Call Path Dir}
    (among : call ∈ prepare temporary bytes) :
    (perform late directory disk call).entry path = disk.entry path ∧
      (perform late directory disk call).older path = disk.older path := by
  simp only [prepare, List.mem_cons, List.not_mem_nil, or_false] at among
  rcases among with rfl | rfl | rfl | rfl <;> simp [perform, apart]

/-- Calls that write a file leave the other paths. -/
theorem run_prepare (apart : path ≠ temporary) {calls : List (Call Path Dir)}
    (among : ∀ call ∈ calls, call ∈ prepare temporary bytes) :
    (run (perform late directory) disk calls).entry path = disk.entry path ∧
      (run (perform late directory) disk calls).older path = disk.older path := by
  induction calls using List.reverseRecOn with
  | nil => exact ⟨rfl, rfl⟩
  | append_singleton earlier call previous =>
    have before := previous fun other member => among other (List.mem_append_left _ member)
    have last := @perform_prepare _ _ _ _ late directory (run (perform late directory) disk earlier)
      _ _ _ apart _ (among call (by simp))
    rw [run_snoc]
    exact ⟨last.1.trans before.1, last.2.trans before.2⟩

/-- Once a file is written, its bytes are on the medium. -/
theorem run_prepare_entry :
    (run (perform late directory) disk (prepare temporary bytes)).entry temporary =
      some ⟨bytes, true⟩ := by
  simp [run, prepare, perform]

/-- What can come back while a file is put in the place of another is one of the two. -/
theorem run_commit (apart : path ≠ temporary) (settled : disk.older path = []) {file : File}
    (written : disk.entry temporary = some file) (count : Nat) {found : Option File}
    (among : found ∈
      (run (perform late directory) disk ((commit temporary path synced).take count)).entry path ::
        (run (perform late directory) disk ((commit temporary path synced).take count)).older
          path) :
    found = disk.entry path ∨ found = some file := by
  have other : ¬ temporary = path := fun same => apart same.symm
  have renamed : found ∈ (perform late directory disk (.rename temporary path)).entry path ::
      (perform late directory disk (.rename temporary path)).older path →
        found = disk.entry path ∨ found = some file := by
    intro member
    cases late <;> simp [perform, other, written, replaced, settled] at member <;> tauto
  cases count with
  | zero => exact .inl (by simpa [settled] using among)
  | succ count =>
    cases synced with
    | none =>
      apply renamed
      simpa [commit, run] using among
    | some synced =>
      cases count with
      | zero =>
        apply renamed
        simpa [commit, run] using among
      | succ count =>
        have last : run (perform late directory) disk
            ((commit temporary path (some synced)).take (count + 2)) =
              perform late directory (perform late directory disk (.rename temporary path))
                (.syncDirectory synced) := by
          simp [commit, run]
        rw [last] at among
        apply renamed
        rw [List.mem_cons] at among ⊢
        refine among.imp id fun back => ?_
        by_cases same : directory path = synced
        · simp [perform, same] at back
        · simpa [perform, same] using back

/-- A file that has been put in the place of another stays there, unless the directory was to be
synced and another one was. -/
theorem run_commit_settled (apart : path ≠ temporary) (settled : disk.older path = [])
    (covered : late = true → synced = some (directory path)) :
    (run (perform late directory) disk (commit temporary path synced)).entry path =
        disk.entry temporary ∧
      (run (perform late directory) disk (commit temporary path synced)).older path = [] := by
  have other : ¬ temporary = path := fun same => apart same.symm
  cases late with
  | true =>
    rw [covered rfl]
    simp [commit, run, perform, other]
  | false =>
    cases synced <;> simp [commit, run, perform, other, replaced, settled]

end

end CfsTelemetry.Storage
