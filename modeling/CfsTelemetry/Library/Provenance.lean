import Mathlib.Data.List.Basic

/-!
# Values that edits have made

A receiver applies edits to a value, one after another, as they reach it; some never do, and some
it refuses. The value is then the fold of some of the edits, in their order, over the value that
it began with. This is kept when more edits are made, when one more is applied, and when the
receiver begins again.
-/
namespace CfsTelemetry.Provenance

variable {Value Edit : Type} {apply : Value → Edit → Value}

/-- A value that some edits have made of one of several others, in their order. -/
def MadeFrom (apply : Value → Edit → Value) (base : Value → Prop) (edits : List Edit)
    (value : Value) : Prop :=
  ∃ (start : Value) (own : List Edit), base start ∧ own.Sublist edits ∧
    value = own.foldl apply start

variable {base more : Value → Prop} {edits edits' : List Edit} {value : Value}

/-- A value to begin with is made of no edit. -/
theorem MadeFrom.self (begins : base value) (edits : List Edit) :
    MadeFrom apply base edits value :=
  ⟨value, [], begins, List.nil_sublist _, rfl⟩

/-- What fewer edits have made is made of more. -/
theorem MadeFrom.of_sublist (made : MadeFrom apply base edits value)
    (part : edits.Sublist edits') : MadeFrom apply base edits' value := by
  obtain ⟨start, own, first, among, same⟩ := made
  exact ⟨start, own, first, among.trans part, same⟩

/-- What is made from some values is made from more of them. -/
theorem MadeFrom.of_base (made : MadeFrom apply base edits value)
    (begins : ∀ start, base start → more start) : MadeFrom apply more edits value := by
  obtain ⟨start, own, first, among, same⟩ := made
  exact ⟨start, own, begins start first, among, same⟩

/-- More edits are made, and none of them is applied. -/
theorem MadeFrom.idle (made : MadeFrom apply base edits value) (new : List Edit) :
    MadeFrom apply base (edits ++ new) value :=
  made.of_sublist (List.sublist_append_left _ _)

/-- One more edit is made, and applied. -/
theorem MadeFrom.applied (made : MadeFrom apply base edits value) (edit : Edit) :
    MadeFrom apply base (edits ++ [edit]) (apply value edit) := by
  obtain ⟨start, own, first, among, rfl⟩ := made
  refine ⟨start, own ++ [edit], first, among.append (.refl _), ?_⟩
  rw [List.foldl_append]
  rfl

/-- What holds of every value to begin with, and is kept by every edit, holds of what they
make. -/
theorem MadeFrom.invariant (made : MadeFrom apply base edits value) (holds : Value → Prop)
    (first : ∀ start, base start → holds start)
    (kept : ∀ value edit, edit ∈ edits → holds value → holds (apply value edit)) :
    holds value := by
  obtain ⟨start, own, begins, among, rfl⟩ := made
  have within : ∀ edit ∈ own, edit ∈ edits := fun edit mem => among.subset mem
  clear among
  have reached := first start begins
  clear begins
  induction own generalizing start with
  | nil => exact reached
  | cons edit rest later =>
    exact later (apply start edit) (fun other mem => within other (List.mem_cons_of_mem _ mem))
      (kept start edit (within edit List.mem_cons_self) reached)

end CfsTelemetry.Provenance
