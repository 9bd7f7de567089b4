import CfsTelemetry.Library.Run
import Mathlib.Data.UInt

/-!
# Stopwatches on a clock that wraps

A machine measures how long a condition has held by the reading of its clock when the condition
was first met; zero is the reading of a stopwatch that does not run. The clock shows the low 32
bits of the time. However often it has wrapped, the difference of two readings is no more than the
time between them, so a stopwatch never shows too much. A deadline that was computed from a
reading instead comes too early when the clock wraps before it.
-/
namespace CfsTelemetry.Stopwatch

open Run

variable {Input : Type}

/-- The readings at two times differ by no more than the times do. -/
theorem elapsed_le {start now : Nat} (ordered : start ≤ now) :
    (UInt32.ofNat now - UInt32.ofNat start).toNat ≤ now - start := by
  rw [UInt32.toNat_sub, UInt32.toNat_ofNat', UInt32.toNat_ofNat']
  have startDivides := Nat.div_add_mod start (2 ^ 32)
  have nowDivides := Nat.div_add_mod now (2 ^ 32)
  omega

/-- A deadline that does not wrap is not reached early. -/
theorem deadline_le {start now interval : Nat} (ordered : start ≤ now)
    (reached : (UInt32.ofNat start).toNat + interval ≤ (UInt32.ofNat now).toNat) :
    start + interval ≤ now := by
  rw [UInt32.toNat_ofNat', UInt32.toNat_ofNat'] at reached
  have startDivides := Nat.div_add_mod start (2 ^ 32)
  have nowDivides := Nat.div_add_mod now (2 ^ 32)
  by_contra early
  have sameRound : start / 2 ^ 32 = now / 2 ^ 32 := by omega
  rw [sameRound] at startDivides
  omega

/-- The times of the inputs do not fall. -/
def Ordered (time : Input → Nat) (inputs : List Input) : Prop :=
  Each (fun before input => ∀ earlier ∈ before, time earlier ≤ time input) inputs

/-- Inputs of which each is checked against those before it are in order. -/
theorem ordered_of_pairwise {time : Input → Nat} {inputs : List Input}
    (pairwise : (inputs.map time).Pairwise (· ≤ ·)) : Ordered time inputs := by
  intro before input after equal earlier mem
  rw [equal, List.map_append, List.map_cons, List.pairwise_append] at pairwise
  exact pairwise.2.2 _ (List.mem_map_of_mem mem) _ (List.mem_cons_self ..)

/-- Inputs in order are in order up to each of them. -/
theorem Ordered.upTo {time : Input → Nat} {inputs before after : List Input} {input : Input}
    (ordered : Ordered time inputs) (equal : inputs = before ++ input :: after) :
    Ordered time (before ++ [input]) := by
  intro earlier next rest place
  apply ordered earlier next (rest ++ after)
  rw [equal, ← List.singleton_append, ← List.append_assoc, place]
  simp

/-! ## Conditions that last -/

variable (time : Input → Nat) (event breaks : List Input → Input → Prop)

/-- Since an event at a time, nothing has broken it. -/
def HeldFrom (start : Nat) (inputs : List Input) : Prop :=
  Since (fun before input => event before input ∧ time input = start) breaks inputs

/-- An event has not been broken for a duration that ends now. -/
def Lasting (duration : Nat) (inputs : List Input) (now : Nat) : Prop :=
  ∃ start, start + duration ≤ now ∧ HeldFrom time event breaks start inputs

/-- A stopwatch that runs shows the time of an event that has not been broken. -/
def Tracks (sinceMs : UInt32) (inputs : List Input) : Prop :=
  sinceMs ≠ 0 → ∃ start, sinceMs = UInt32.ofNat start ∧ HeldFrom time event breaks start inputs

/-- The stopwatch from a reading on, unless it runs. -/
def startedAt (sinceMs nowMs : UInt32) : UInt32 := if sinceMs = 0 then nowMs else sinceMs

variable {time : Input → Nat} {event breaks : List Input → Input → Prop} {inputs : List Input}
  {input : Input} {sinceMs : UInt32}

/-- A stopwatch that does not run shows nothing. -/
@[simp] theorem tracks_zero : Tracks time event breaks 0 inputs := fun runs => absurd rfl runs

/-- A stopwatch goes on with an input that does not break the event. -/
theorem Tracks.goesOn (tracks : Tracks time event breaks sinceMs inputs)
    (unbroken : ¬ breaks inputs input) :
    Tracks time event breaks sinceMs (inputs ++ [input]) := by
  intro runs
  obtain ⟨start, shows', held⟩ := tracks runs
  exact ⟨start, shows', since_snoc.mpr (.inr ⟨held, unbroken⟩)⟩

/-- A stopwatch is started by an event, unless it runs. -/
theorem Tracks.started (tracks : Tracks time event breaks sinceMs inputs)
    (happens : event inputs input) (unbroken : ¬ breaks inputs input) :
    Tracks time event breaks (startedAt sinceMs (UInt32.ofNat (time input)))
      (inputs ++ [input]) := by
  unfold startedAt
  split
  · exact fun _ => ⟨time input, rfl, since_snoc.mpr (.inl ⟨happens, rfl⟩)⟩
  · exact tracks.goesOn unbroken

/-- What has held since a time was met by an input of that time. -/
theorem HeldFrom.mem {start : Nat} (held : HeldFrom time event breaks start inputs) :
    ∃ earlier ∈ inputs, time earlier = start := by
  obtain ⟨before, earlier, after, rfl, happens, -⟩ := held
  exact ⟨earlier, by simp, happens.2⟩

/-- What breaks an event was before the time since which the event has held. -/
theorem HeldFrom.of_breaks {start : Nat} (held : HeldFrom time event breaks start inputs)
    (ordered : Ordered time inputs) {before after : List Input} {earlier : Input}
    (place : inputs = before ++ earlier :: after) (broken : breaks before earlier) :
    time earlier ≤ start := by
  obtain ⟨first, chosen, rest, equal, ⟨-, rfl⟩, unbroken⟩ := held
  rw [equal] at place
  obtain ⟨between, split, same⟩ | ⟨between, split, same⟩ := List.append_eq_append_iff.mp place
  · cases between with
    | nil =>
      simp only [List.nil_append, List.cons.injEq] at same
      rw [same.1]
    | cons head between =>
      simp only [List.cons_append, List.cons.injEq] at same
      rw [same.1] at unbroken
      rw [split, ← same.1] at broken
      exact absurd broken (by rw [same.1]; exact unbroken between earlier after same.2)
  · cases between with
    | nil =>
      simp only [List.nil_append, List.cons.injEq] at same
      rw [same.1]
    | cons head between =>
      simp only [List.cons_append, List.cons.injEq] at same
      apply ordered first chosen rest equal
      rw [split, same.1]
      simp

/-- A started stopwatch that shows a time at all runs. -/
theorem startedAt_ne_zero {nowMs : UInt32} (shown : (nowMs - startedAt sinceMs nowMs).toNat ≠ 0) :
    startedAt sinceMs nowMs ≠ 0 := by
  intro zero
  unfold startedAt at zero shown
  split at zero
  · rename_i stopped
    rw [if_pos stopped, UInt32.sub_self] at shown
    exact shown rfl
  · rename_i runs
    exact runs zero

/-- What a started stopwatch shows has lasted. -/
theorem Tracks.lasting {duration : Nat}
    (tracks : Tracks time event breaks (startedAt sinceMs (UInt32.ofNat (time input)))
      (inputs ++ [input]))
    (ordered : Ordered time (inputs ++ [input])) (positive : 0 < duration)
    (elapsed : duration ≤ (UInt32.ofNat (time input) -
      startedAt sinceMs (UInt32.ofNat (time input))).toNat) :
    Lasting time event breaks duration (inputs ++ [input]) (time input) := by
  obtain ⟨start, shown, held⟩ := tracks (startedAt_ne_zero (by omega))
  have inOrder : start ≤ time input := by
    obtain ⟨earlier, mem, rfl⟩ := held.mem
    rcases List.mem_append.mp mem with before | last
    · exact (each_snoc.mp ordered).2 earlier before
    · rw [List.mem_singleton.mp last]
  have bound := elapsed_le inOrder
  rw [shown] at elapsed
  exact ⟨start, by omega, held⟩

end CfsTelemetry.Stopwatch
