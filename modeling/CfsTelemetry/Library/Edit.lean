import Mathlib.Data.List.Basic

/-!
# Edits of a list and the place of an element

The edits of a list that keep track of one element: replacing everything, appending, removing
one element and putting another in the place of one. `place` is where the element that was at an
index stands after the edit.
-/
namespace CfsTelemetry

/-- An edit of a list. -/
inductive Edit (α : Type) where
  | replace (items : List α)
  | append (items : List α)
  | delete (index : Nat)
  | modify (index : Nat) (item : α)

namespace Edit

variable {α : Type}

/-- The edited list. -/
def apply : Edit α → List α → List α
  | replace items, _ => items
  | append items, list => list ++ items
  | delete index, list => list.eraseIdx index
  | modify index item, list => list.set index item

/-- Where the element at an index stands after the edit. -/
def place : Edit α → Nat → Nat
  | delete index, start => if index < start then start - 1 else start
  | _, start => start

/-- Whether the edit leaves the element at an index in the list. -/
def Keeps : Edit α → Nat → Prop
  | replace _, _ => False
  | append _, _ => True
  | delete index, start => index ≠ start
  | modify index _, start => index ≠ start

/-- An element that the edit keeps stands at its place in the edited list. -/
theorem getElem?_apply_place (edit : Edit α) {list : List α} {start : Nat}
    (inside : start < list.length) (keeps : edit.Keeps start) :
    (edit.apply list)[edit.place start]? = list[start]? := by
  cases edit with
  | replace items => exact keeps.elim
  | append items => exact List.getElem?_append_left inside
  | delete index =>
    have other : index ≠ start := keeps
    by_cases earlier : index < start
    · simp only [apply, place, if_pos earlier]
      rw [List.getElem?_eraseIdx_of_ge (by omega)]
      congr 1
      omega
    · simp only [apply, place, if_neg earlier]
      rw [List.getElem?_eraseIdx_of_lt (by omega)]
  | modify index item =>
    have other : index ≠ start := keeps
    simp only [apply, place]
    exact List.getElem?_set_ne other

/-- Replacing one element does so by index. -/
theorem apply_modify_range {value : Nat → α} {count index : Nat} (item : α) :
    (modify index item).apply ((List.range count).map value) =
      (List.range count).map fun position =>
        if position = index then item else value position := by
  apply List.ext_getElem?
  intro position
  rw [apply, List.getElem?_set]
  by_cases same : index = position
  · subst same
    by_cases inside : index < count
    · simp [inside]
    · simp [inside]
  · have other : position ≠ index := Ne.symm same
    rw [if_neg same]
    by_cases inside : position < count
    · simp [inside, other]
    · simp [inside]

/-- Removing one element skips its index. -/
theorem apply_delete_range {value : Nat → α} {count index : Nat} (inside : index < count) :
    (delete index).apply ((List.range count).map value) =
      (List.range (count - 1)).map fun position =>
        value (if position < index then position else position + 1) := by
  apply List.ext_getElem?
  intro position
  rw [apply, List.getElem?_eraseIdx]
  by_cases early : position < index
  · have first : position < count := by omega
    have shorter : position < count - 1 := by omega
    simp [early, first, shorter]
  · by_cases within : position < count - 1
    · have next : position + 1 < count := by omega
      simp [early, within, next]
    · have past : ¬ position + 1 < count := by omega
      simp [early, within, past]

end Edit

end CfsTelemetry
