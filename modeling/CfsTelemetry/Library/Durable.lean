import CfsTelemetry.Library.Storage

/-!
# Values that survive a crash

A program keeps a value of its state in a file, which it saves by way of a temporary file and
loads after a crash. Saves may be cut off between any two of their calls, time and again. After
each crash the load is to find the value that stood before or the one that was being saved. It
always does exactly when the temporary file is another one than the file, and the directory of
the file is synced where its entries are late.
-/
namespace CfsTelemetry.Durable

open Run Storage

/-- How a program keeps a value of its state in a file. -/
structure Store (State Value : Type) where
  /-- The bytes that a save writes. -/
  bytes : State → List UInt8
  /-- The value of a state that is to be kept. -/
  value : State → Value
  /-- The value after a load of a content. -/
  load : Option (List UInt8) → Value

/-- A store whose loads find what its saves have written. -/
structure Store.Lawful {State Value : Type} (store : Store State Value) : Prop where
  /-- What a save has written is found. -/
  written : ∀ s, store.load (some (store.bytes s)) = store.value s
  /-- An empty file counts as none. -/
  empty : store.load (some []) = store.load none
  /-- Some value is not the one of a start without a file. -/
  varies : ∃ s, store.value s ≠ store.load none

/-- Where a program keeps its file. -/
structure Place (Path Dir : Type) where
  /-- The directory of a path. -/
  directory : Path → Dir
  /-- The file. -/
  path : Path
  /-- The file that is written before it takes the place of the other. -/
  temporary : Path
  /-- The directory that is synced, if any. -/
  synced : Option Dir

/-- What happens to the store: a save, or one that is cut off by a crash after some of its calls,
and a load of what the crash leaves. -/
inductive Event (State Path : Type) where
  | save (s : State)
  | crash (s : State) (calls : Nat) (left : Disk Path)

/-- The file system, and the value that stands. -/
structure Standing (Value Path : Type) where
  disk : Disk Path
  value : Value

section

variable {State Value Path Dir : Type} [DecidableEq Path] [DecidableEq Dir]
  (store : Store State Value) (late : Bool) (place : Place Path Dir)

/-- The calls of a save. -/
def saving (s : State) : List (Call Path Dir) :=
  replace place.temporary place.path place.synced (store.bytes s)

/-- The file system after some calls of a save. -/
def cut (disk : Disk Path) (s : State) (calls : Nat) : Disk Path :=
  run (perform late place.directory) disk ((saving store place s).take calls)

/-- The value stands once it is saved, and after a crash the one that is loaded stands. -/
def next (standing : Standing Value Path) : Event State Path → Standing Value Path
  | .save s => ⟨run (perform late place.directory) standing.disk (saving store place s),
      store.value s⟩
  | .crash _ _ left => ⟨left, store.load (content left place.path)⟩

/-- A crash leaves what it may leave. -/
def Possible (start : Standing Value Path) (before : List (Event State Path)) :
    Event State Path → Prop
  | .save _ => True
  | .crash s calls left =>
    Crash (cut store late place (run (next store late place) start before).disk s calls) left

/-- After a crash the load finds the value that stood, or the one that was being saved. -/
def Restores (start : Standing Value Path) (before : List (Event State Path)) :
    Event State Path → Prop
  | .save _ => True
  | .crash s _ left =>
    store.load (content left place.path) = (run (next store late place) start before).value ∨
      store.load (content left place.path) = store.value s

/-- A start over files that keep what they have, with the value that is loaded. -/
structure Start (start : Standing Value Path) : Prop where
  settled : ∀ path, Settled start.disk path
  loaded : start.value = store.load (content start.disk place.path)

/-- Whatever is saved and wherever it is cut off, every load after a crash finds the value that
stood or the one that was being saved. -/
def CrashSafe : Prop :=
  ∀ start, Start store place start → ∀ events, Each (Possible store late place start) events →
    Each (Restores store late place start) events

/-- The place of a file is safe: the temporary file is another one, and the directory is synced
where its entries are late. -/
structure Place.Safe : Prop where
  apart : place.path ≠ place.temporary
  covered : late = true → place.synced = some (place.directory place.path)

variable {store late place} {standing : Standing Value Path} {disk left : Disk Path}

/-- The value that stands is the one in the file, and it is there to stay. -/
structure Kept (store : Store State Value) (place : Place Path Dir)
    (standing : Standing Value Path) : Prop where
  settled : Settled standing.disk place.path
  loaded : store.load (content standing.disk place.path) = standing.value

/-- What can come back while a value is saved is what there was, or what is saved. -/
theorem cut_entries (apart : place.path ≠ place.temporary) (settled : disk.older place.path = [])
    (s : State) (calls : Nat) {found : Option File}
    (among : found ∈ (cut store late place disk s calls).entry place.path ::
      (cut store late place disk s calls).older place.path) :
    found = disk.entry place.path ∨ found = some ⟨store.bytes s, true⟩ := by
  rw [cut, saving, replace, List.take_append] at among
  rw [run_append] at among
  have prepared := @run_prepare _ _ _ _ late place.directory disk _ _ (store.bytes s) apart
    ((prepare place.temporary (store.bytes s)).take calls)
    fun call member => List.mem_of_mem_take member
  by_cases short : calls ≤ 4
  · have none : calls - (@prepare Path Dir place.temporary (store.bytes s)).length = 0 := by
      simp [prepare, short]
    rw [none, List.take_zero, run_nil, prepared.1, prepared.2, settled] at among
    exact .inl (List.mem_singleton.mp among)
  · have whole : (@prepare Path Dir place.temporary (store.bytes s)).take calls =
        prepare place.temporary (store.bytes s) := by
      apply List.take_of_length_le
      simp only [prepare, List.length_cons, List.length_nil]
      omega
    rw [whole] at prepared among
    have written := @run_prepare_entry _ _ _ _ late place.directory disk place.temporary
      (store.bytes s)
    have either := run_commit apart (prepared.2.trans settled) written _ among
    rwa [prepared.1] at either

/-- A crash while a value is saved leaves what there was, or what is saved. -/
theorem crash_entry (apart : place.path ≠ place.temporary) (settled : Settled disk place.path)
    {s : State} {calls : Nat} (crash : Crash (cut store late place disk s calls) left) :
    left.entry place.path = disk.entry place.path ∨
      left.entry place.path = some ⟨store.bytes s, true⟩ := by
  have either := fun found => @cut_entries _ _ _ _ _ _ store late place disk apart settled.older s
    calls found
  apply either
  apply crash.entry_mem
  intro file among
  rcases either (some file) among with kept | saved
  · exact settled.synced file kept.symm
  · cases saved
    rfl

/-- A save that completes is there to stay. -/
theorem save_kept (lawful : store.Lawful) (safe : place.Safe late)
    (kept : Kept store place standing) (s : State) :
    Kept store place (next store late place standing (.save s)) := by
  have prepared := @run_prepare _ _ _ _ late place.directory standing.disk _ _ (store.bytes s)
    safe.apart (prepare place.temporary (store.bytes s)) fun _ member => member
  have written := @run_prepare_entry _ _ _ _ late place.directory standing.disk place.temporary
    (store.bytes s)
  have committed := run_commit_settled safe.apart (prepared.2.trans kept.settled.older) safe.covered
  rw [written, ← run_append] at committed
  constructor
  · refine ⟨fun file present => ?_, committed.2⟩
    have same := committed.1.symm.trans present
    cases same
    rfl
  · have own : content (next store late place standing (.save s)).disk place.path =
        some (store.bytes s) := congrArg (Option.map File.bytes) committed.1
    rw [own]
    exact lawful.written s

/-- A load after a crash finds the value that stood or the one that was being saved. -/
theorem crash_restores (lawful : store.Lawful) (apart : place.path ≠ place.temporary)
    (kept : Kept store place standing) {s : State} {calls : Nat}
    (crash : Crash (cut store late place standing.disk s calls) left) :
    store.load (content left place.path) = standing.value ∨
      store.load (content left place.path) = store.value s := by
  rcases crash_entry apart kept.settled crash with same | saved
  · left
    rw [content, same]
    exact kept.loaded
  · right
    rw [content, saved]
    exact lawful.written s

/-- A run keeps the value that stands. -/
theorem run_kept (lawful : store.Lawful) (safe : place.Safe late) {start : Standing Value Path}
    (starts : Start store place start) {events : List (Event State Path)}
    (possible : Each (Possible store late place start) events) :
    Kept store place (run (next store late place) start events) := by
  induction events using List.reverseRecOn with
  | nil => exact ⟨starts.settled place.path, starts.loaded.symm⟩
  | append_singleton earlier event previous =>
    rw [each_snoc] at possible
    have before := previous possible.1
    rw [run_snoc]
    cases event with
    | save s => exact save_kept lawful safe before s
    | crash s calls left => exact ⟨Crash.settled possible.2 place.path, rfl⟩

/-! ## Places that are not safe -/

/-- A file that is truncated itself is lost in a crash before it is written again. -/
theorem not_crashSafe_of_same (lawful : store.Lawful) (same : place.path = place.temporary) :
    ¬ CrashSafe store late place := by
  intro safe
  have ⟨s, varies⟩ := lawful.varies
  let saved : Disk Path := ⟨fun _ => some ⟨store.bytes s, true⟩, fun _ => []⟩
  let start : Standing Value Path := ⟨saved, store.value s⟩
  have starts : Start store place start :=
    ⟨fun path => ⟨fun file present => by cases present; rfl, rfl⟩, (lawful.written s).symm⟩
  have crash := crash_present (cut store late place saved s 1)
  have restores := safe start starts [.crash s 1 _] (by simpa [each_cons, Possible] using crash)
    [] _ [] rfl
  have lost : (cut store late place saved s 1).entry place.path = some ⟨[], false⟩ := by
    simp [cut, saving, replace, prepare, run, perform, same]
  simp only [Restores, content, lost, Option.map_some, lawful.empty, run_nil, start, or_self]
    at restores
  exact varies restores.symm

/-- A new entry of a directory that is not synced is lost in a crash after the save, where
entries are late. -/
theorem not_crashSafe_of_uncovered (lawful : store.Lawful)
    (apart : place.path ≠ place.temporary)
    (uncovered : place.synced ≠ some (place.directory place.path)) :
    ¬ CrashSafe store true place := by
  intro safe
  obtain ⟨s, varies⟩ := lawful.varies
  let start : Standing Value Path := ⟨⟨fun _ => none, fun _ => []⟩, store.load none⟩
  have starts : Start store place start :=
    ⟨fun path => ⟨fun file present => (by cases present), rfl⟩, rfl⟩
  let disk := (run (next store true place) start [.save s]).disk
  have back : none ∈ disk.older place.path := by
    have other : ¬ place.temporary = place.path := fun same => apart same.symm
    cases synced : place.synced with
    | none => simp [disk, start, next, saving, replace, prepare, commit, run, perform, replaced,
        synced, other, apart]
    | some directory =>
      have elsewhere : ¬ place.directory place.path = directory :=
        fun same => uncovered (by rw [synced, same])
      simp [disk, start, next, saving, replace, prepare, commit, run, perform, replaced,
        synced, other, apart, elsewhere]
  let left : Disk Path := ⟨fun path => if path = place.path then none
    else (disk.entry path).map fun file => { file with synced := true }, fun _ => []⟩
  have crash : Crash disk left := by
    refine ⟨fun path => ?_, fun _ => rfl⟩
    by_cases own : path = place.path
    · refine ⟨none, ?_, ?_⟩
      · rw [own]
        exact List.mem_cons_of_mem _ back
      · simp only [left, if_pos own]
        exact .none
    · obtain ⟨found, among, leaves⟩ := (crash_present disk).entry path
      refine ⟨found, among, ?_⟩
      simp only [left, if_neg own]
      exact leaves
  have restores := safe start starts [.save s, .crash s 0 left]
    (by simpa [each_cons, Possible, cut, disk] using crash) [.save s] _ [] rfl
  have lost : content left place.path = none := by simp [content, left]
  simp only [Restores, lost, run_cons, run_nil, next, or_self] at restores
  exact varies restores.symm

/-- Saves are safe from crashes exactly when the place of the file is safe. -/
theorem crashSafe_iff (lawful : store.Lawful) :
    CrashSafe store late place ↔ place.Safe late := by
  constructor
  · intro safe
    have apart : place.path ≠ place.temporary :=
      fun same => not_crashSafe_of_same lawful same safe
    refine ⟨apart, fun delayed => ?_⟩
    by_contra uncovered
    rw [delayed] at safe
    exact not_crashSafe_of_uncovered lawful apart uncovered safe
  · intro safe start starts events possible before event after split
    rw [split] at possible
    have kept := run_kept lawful safe starts possible.upTo
    cases event with
    | save s => trivial
    | crash s calls left =>
      exact crash_restores lawful safe.apart kept (possible before _ after rfl)

end

end CfsTelemetry.Durable
