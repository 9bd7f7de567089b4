import Mathlib.Data.List.Basic

/-!
# Framing by a byte machine

A machine takes one byte at a time and now and then completes an item. How its input is cut into
reads makes no difference, a sequence of units that each take it from a ready state to a ready
state is taken unit by unit, and a rank that every byte lowers bounds how long it is not ready.
-/
namespace CfsTelemetry.Framing

variable {State Byte Item Piece : Type}

/-- The state after bytes taken in order, and the items completed, in order. -/
def feed (step : State → Byte → State × List Item) (s : State) : List Byte → State × List Item
  | [] => (s, [])
  | byte :: rest =>
    ((feed step (step s byte).1 rest).1, (step s byte).2 ++ (feed step (step s byte).1 rest).2)

/-- The state after reads taken in order, and the items completed, in order. -/
def feedReads (step : State → Byte → State × List Item) (s : State) :
    List (List Byte) → State × List Item
  | [] => (s, [])
  | read :: rest =>
    ((feedReads step (feed step s read).1 rest).1,
      (feed step s read).2 ++ (feedReads step (feed step s read).1 rest).2)

variable (step : State → Byte → State × List Item)

/-- Bytes are taken one list after another. -/
theorem feed_append (s : State) (first second : List Byte) :
    feed step s (first ++ second) =
      ((feed step (feed step s first).1 second).1,
        (feed step s first).2 ++ (feed step (feed step s first).1 second).2) := by
  induction first generalizing s with
  | nil => simp [feed]
  | cons byte rest previous =>
    rw [List.cons_append, feed, feed, previous, List.append_assoc]

/-- How the bytes are cut into reads makes no difference. -/
theorem feedReads_eq (s : State) (reads : List (List Byte)) :
    feedReads step s reads = feed step s reads.flatten := by
  induction reads generalizing s with
  | nil => rfl
  | cons read rest previous =>
    rw [List.flatten_cons, feed_append, feedReads, previous]

variable {step}

/-- Pieces that are each taken from a ready state to a ready state are taken one by one. -/
theorem feed_pieces {ready : State → Prop} {write : Piece → List Byte}
    {reads : Piece → List Item}
    (each : ∀ s piece, ready s →
      ready (feed step s (write piece)).1 ∧ (feed step s (write piece)).2 = reads piece)
    (pieces : List Piece) (s : State) (start : ready s) :
    ready (feed step s (pieces.flatMap write)).1 ∧
      (feed step s (pieces.flatMap write)).2 = pieces.flatMap reads := by
  induction pieces generalizing s with
  | nil => exact ⟨start, rfl⟩
  | cons piece rest previous =>
    obtain ⟨next, items⟩ := each s piece start
    obtain ⟨last, later⟩ := previous _ next
    rw [List.flatMap_cons, feed_append, items, later]
    exact ⟨last, rfl⟩

/-- What every byte preserves holds after every list of bytes. -/
theorem feed_invariant {invariant : State → Prop}
    (preserved : ∀ s byte, invariant s → invariant (step s byte).1) (bytes : List Byte) :
    ∀ s, invariant s → invariant (feed step s bytes).1 := by
  induction bytes with
  | nil => exact fun s holds => holds
  | cons byte rest previous => exact fun s holds => previous _ (preserved s byte holds)

/-- A machine is ready again after at most as many bytes as its rank, when each byte that it
takes while it is not ready lowers the rank. -/
theorem ready_within [Inhabited Byte] {ready invariant : State → Prop} {rank : State → Nat}
    (preserved : ∀ s byte, invariant s → invariant (step s byte).1)
    (lowers : ∀ s byte, invariant s → ¬ ready s → rank (step s byte).1 < rank s)
    (bytes : List Byte) (s : State) (holds : invariant s) (long : rank s ≤ bytes.length) :
    ∃ count ≤ rank s, ready (feed step s (bytes.take count)).1 := by
  induction bytes generalizing s with
  | nil =>
    refine ⟨0, Nat.zero_le _, ?_⟩
    by_contra other
    have zero : rank s = 0 := Nat.le_zero.mp long
    have lower := lowers s default holds other
    omega
  | cons byte rest previous =>
    by_cases now : ready s
    · exact ⟨0, Nat.zero_le _, now⟩
    · have lower := lowers s byte holds now
      have short : rank (step s byte).1 ≤ rest.length := by
        rw [List.length_cons] at long
        omega
      obtain ⟨count, bound, later⟩ := previous _ (preserved s byte holds) short
      refine ⟨count + 1, by omega, ?_⟩
      rw [List.take_succ_cons, feed]
      exact later

end CfsTelemetry.Framing
