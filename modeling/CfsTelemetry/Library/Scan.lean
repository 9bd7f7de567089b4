import Mathlib.Data.List.Basic

/-!
# Scanning a buffer from its front

A scanner looks at the front of a buffer and says what it found there and how many items that
takes up, none while it has to wait for more of them. Its loop takes what is found out of the
buffer until the scanner waits. Here are the turns of such a loop, that it ends, and how its
events depend on the chunks in which the buffer is filled.
-/
namespace CfsTelemetry.Scan

variable {Item Event : Type}

/-- A turn of the loop takes items out of the buffer. -/
inductive Turn (look : List Item → Option (Option Event × Nat)) :
    List Item → Option Event → List Item → Prop
  | take {buf : List Item} {event : Option Event} {count : Nat}
      (found : look buf = some (event, count)) (taken : count ≠ 0) :
      Turn look buf event (buf.drop count)

/-- The loop from a buffer, with the events that it finds and what it leaves. -/
inductive Scans (look : List Item → Option (Option Event × Nat)) :
    List Item → List Event → List Item → Prop
  | stop {buf : List Item} {event : Option Event} (waits : look buf = some (event, 0)) :
      Scans look buf [] buf
  | turn {buf next left : List Item} {event : Option Event} {events : List Event}
      (first : Turn look buf event next) (later : Scans look next events left) :
      Scans look buf (event.toList ++ events) left

/-- Scans of a buffer that is filled with chunks in order. -/
inductive Feeds (look : List Item → Option (Option Event × Nat)) :
    List Item → List (List Item) → List Event → List Item → Prop
  | done {buf : List Item} : Feeds look buf [] [] buf
  | chunk {buf chunk kept left : List Item} {chunks : List (List Item)}
      {events later : List Event} (first : Scans look (buf ++ chunk) events kept)
      (rest : Feeds look kept chunks later left) :
      Feeds look buf (chunk :: chunks) (events ++ later) left

/-- A scanner makes progress when it looks at every buffer without failing and takes no more
than the buffer holds. -/
def Progress (look : List Item → Option (Option Event × Nat)) : Prop :=
  ∀ buf, ∃ event count, look buf = some (event, count) ∧ count ≤ buf.length

variable {look : List Item → Option (Option Event × Nat)}

/-- Every turn takes at least one item. -/
theorem Turn.shorter {buf next : List Item} {event : Option Event} (progress : Progress look)
    (turn : Turn look buf event next) : next.length + 1 ≤ buf.length := by
  cases turn with
  | take found taken =>
    have ⟨_, _, looked, within⟩ := progress buf
    rw [found] at looked
    cases looked
    rw [List.length_drop]
    omega

/-- The loop ends from every buffer. -/
theorem Scans.ends (progress : Progress look) (buf : List Item) :
    ∃ events left, Scans look buf events left := by
  have ⟨event, count, found, _⟩ := progress buf
  by_cases waits : count = 0
  · subst waits
    exact ⟨[], buf, .stop found⟩
  · have first := Turn.take found waits
    have fewer := first.shorter progress
    have ⟨events, left, later⟩ := Scans.ends progress (buf.drop count)
    exact ⟨event.toList ++ events, left, .turn first later⟩
termination_by buf.length

/-- The loop leaves a buffer from which it takes nothing. -/
theorem Scans.waits {buf left : List Item} {events : List Event}
    (scans : Scans look buf events left) : ∃ event, look left = some (event, 0) := by
  induction scans with
  | stop waits => exact ⟨_, waits⟩
  | turn _ _ previous => exact previous

/-! ## Chunks -/

/-- A view of what is still to come passes every turn: whatever more the buffer is filled with,
what is seen of the whole is what is seen of the turn and then of the rest. It may rest on a
condition on the whole, which every turn keeps. -/
structure Passes (look : List Item → Option (Option Event × Nat)) (seen : Event → Bool)
    (good : List Item → Prop) (view : List Item → List Event) : Prop where
  keeps : ∀ {buf next : List Item} {event : Option Event}, Turn look buf event next →
    ∀ later, good (buf ++ later) → good (next ++ later)
  splits : ∀ {buf next : List Item} {event : Option Event}, Turn look buf event next →
    ∀ later, good (buf ++ later) →
      view (buf ++ later) = event.toList.filter seen ++ view (next ++ later)

variable {seen : Event → Bool} {good : List Item → Prop} {view : List Item → List Event}

/-- A view passes every scan. -/
theorem Passes.scans (passes : Passes look seen good view) {buf left : List Item}
    {events : List Event} (scans : Scans look buf events left) (later : List Item)
    (holds : good (buf ++ later)) :
    good (left ++ later) ∧ view (buf ++ later) = events.filter seen ++ view (left ++ later) := by
  induction scans with
  | stop _ => exact ⟨holds, rfl⟩
  | turn first _ previous =>
    have ⟨kept, rest⟩ := previous (passes.keeps first later holds)
    have split := passes.splits first later holds
    rw [split, rest, List.filter_append, List.append_assoc]
    exact ⟨kept, rfl⟩

/-- A view passes the scans of a buffer that is filled with chunks. -/
theorem Passes.feeds (passes : Passes look seen good view) {buf left : List Item}
    {chunks : List (List Item)} {events : List Event} (feeds : Feeds look buf chunks events left)
    (holds : good (buf ++ chunks.flatten)) :
    view (buf ++ chunks.flatten) = events.filter seen ++ view left := by
  induction feeds with
  | done => simp
  | chunk first _ previous =>
    rw [List.flatten_cons, ← List.append_assoc] at holds ⊢
    have ⟨kept, split⟩ := passes.scans first _ holds
    rw [split, previous kept, List.filter_append, List.append_assoc]

/-- The loop ends after every chunk. -/
theorem Feeds.ends (progress : Progress look) (buf : List Item) (chunks : List (List Item)) :
    ∃ events left, Feeds look buf chunks events left := by
  induction chunks generalizing buf with
  | nil => exact ⟨[], buf, .done⟩
  | cons chunk chunks previous =>
    have ⟨events, kept, first⟩ := Scans.ends progress (buf ++ chunk)
    have ⟨later, left, rest⟩ := previous kept
    exact ⟨events ++ later, left, .chunk first rest⟩

/-- What is left after chunks waits for more, if what was there before them did. -/
theorem Feeds.waits {buf left : List Item} {chunks : List (List Item)} {events : List Event}
    (feeds : Feeds look buf chunks events left) (start : ∃ event, look buf = some (event, 0)) :
    ∃ event, look left = some (event, 0) := by
  induction feeds with
  | done => exact start
  | chunk first _ previous => exact previous first.waits

end CfsTelemetry.Scan
