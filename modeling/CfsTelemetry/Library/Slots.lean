import Mathlib.Data.List.Basic

/-!
# Slots in use

An array of fixed size whose first slots hold a list. A loop that writes consecutive slots is
read as the list it leaves in them, and a write outside the slots in use changes nothing of it.
Where every read and write is checked against the size, a loop of them that stays within it comes
to the same slots, and any other one comes to nothing.
-/
namespace CfsTelemetry.Slots

variable {α : Type} {size : Nat}

/-- The list held in the first slots. -/
def held (count : Nat) (slots : Vector α size) : List α := slots.toList.take count

/-- The value of a slot, or a default for a slot that does not exist. -/
def slot [Inhabited α] (slots : Vector α size) (index : Nat) : α := slots[index]?.getD default

/-- Write consecutive slots, the first of them first. -/
def fill (value : Nat → α) (first : Nat) : Nat → Vector α size → Vector α size
  | 0, slots => slots
  | count + 1, slots =>
    (fill value first count slots).setIfInBounds (first + count) (value (first + count))

/-- What a slot holds after consecutive writes. -/
theorem getElem?_fill (value : Nat → α) (first count : Nat) (slots : Vector α size) (index : Nat) :
    (fill value first count slots)[index]? =
      if first ≤ index ∧ index < first + count ∧ index < size then some (value index)
      else slots[index]? := by
  induction count with
  | zero =>
    have empty : ¬ (first ≤ index ∧ index < first + 0 ∧ index < size) := by omega
    rw [fill, if_neg empty]
  | succ count previous =>
    rw [fill, Vector.getElem?_setIfInBounds, previous]
    by_cases last : first + count = index
    · subst last
      by_cases inside : first + count < size
      · simp [inside]
      · simp [inside]
    · rw [if_neg last]
      have same : index < first + (count + 1) ↔ index < first + count ∨ first + count = index := by
        omega
      simp [same, last]

/-- Slots that hold the same everywhere are the same. -/
theorem ext_getElem? {first second : Vector α size}
    (same : ∀ index : Nat, first[index]? = second[index]?) : first = second := by
  apply Vector.ext
  intro index inside
  have equal := same index
  rwa [Vector.getElem?_eq_getElem inside, Vector.getElem?_eq_getElem inside,
    Option.some.injEq] at equal

/-- Writing one slot and then the slots behind it writes them all. -/
theorem fill_setIfInBounds (value : Nat → α) (first count : Nat) (slots : Vector α size) :
    fill value (first + 1) count (slots.setIfInBounds first (value first)) =
      fill value first (count + 1) slots := by
  apply ext_getElem?
  intro index
  rw [getElem?_fill, getElem?_fill, Vector.getElem?_setIfInBounds]
  by_cases here : first = index
  · subst here
    by_cases inside : first < size <;> simp [inside]
  · have same : first + 1 ≤ index ↔ first ≤ index := by omega
    have reach : index < first + 1 + count ↔ index < first + (count + 1) := by omega
    simp only [same, reach, if_neg here]

/-- What the list of slots in use has at an index. -/
theorem getElem?_held (count : Nat) (slots : Vector α size) (index : Nat) :
    (held count slots)[index]? = if index < count then slots[index]? else none := by
  rw [held, List.getElem?_take]
  simp

/-- As many slots in use as there are, at most, hold that many values. -/
theorem length_held {count : Nat} (fits : count ≤ size) (slots : Vector α size) :
    (held count slots).length = count := by
  simp [held, fits]

/-- A slot in use holds the list's element. -/
theorem getElem?_held_of_lt [Inhabited α] {count index : Nat} (fits : count ≤ size)
    (inside : index < count) (slots : Vector α size) :
    (held count slots)[index]? = some (slot slots index) := by
  rw [getElem?_held, if_pos inside]
  have available : index < size := by omega
  simp [slot, available]

/-- Writing the slot after those in use appends to their list, when there is one. -/
theorem held_setIfInBounds (count : Nat) (item : α) (slots : Vector α size) :
    held (min (count + 1) size) (slots.setIfInBounds count item) =
      if count < size then held (min count size) slots ++ [item]
      else held (min count size) slots := by
  by_cases room : count < size
  · have all : min (count + 1) size = count + 1 := by omega
    have before : min count size = count := by omega
    rw [if_pos room, all, before]
    apply List.ext_getElem?
    intro index
    rw [getElem?_held, Vector.getElem?_setIfInBounds, List.getElem?_append, getElem?_held,
      length_held (by omega)]
    by_cases early : index < count
    · have other : count ≠ index := by omega
      rw [if_pos early, if_neg other, if_pos (by omega), if_pos early]
    · by_cases last : count = index
      · subst last
        simp [room]
      · have beyond : ¬ index < count + 1 := by omega
        have gap : ∃ rest, index - count = rest + 1 := ⟨index - count - 1, by omega⟩
        obtain ⟨rest, gap⟩ := gap
        rw [if_neg beyond, if_neg early, gap]
        rfl
  · have full : min (count + 1) size = min count size := by omega
    rw [if_neg room, full, Vector.setIfInBounds_eq_of_size_le (by omega)]

/-- Filling the first slots leaves the values in them as a list. -/
theorem held_fill {count : Nat} (fits : count ≤ size) (value : Nat → α) (slots : Vector α size) :
    held count (fill value 0 count slots) = (List.range count).map value := by
  apply List.ext_getElem?
  intro index
  rw [getElem?_held, getElem?_fill]
  by_cases inside : index < count
  · have available : index < size := by omega
    simp [inside, available]
  · simp [inside]

/-- Filling the slots after those of a first filling appends the values to its list. -/
theorem held_fill_fill {middle count : Nat} (before : middle ≤ count) (fits : count ≤ size)
    (value tail : Nat → α) (slots : Vector α size) :
    held count (fill tail middle (count - middle) (fill value 0 middle slots)) =
      (List.range middle).map value ++ (List.range (count - middle)).map fun index =>
        tail (middle + index) := by
  apply List.ext_getElem?
  intro index
  rw [getElem?_held, getElem?_fill, getElem?_fill]
  by_cases inside : index < count
  · have available : index < size := by omega
    by_cases early : index < middle
    · rw [if_pos inside, if_neg (by omega), if_pos ⟨Nat.zero_le _, by omega, available⟩,
        List.getElem?_append_left (by simpa using early)]
      simp [early]
    · have late : middle ≤ index := by omega
      have bounded : index < middle + (count - middle) := by omega
      have place : middle + (index - middle) = index := by omega
      have within : index - middle < count - middle := by omega
      rw [if_pos inside, if_pos ⟨late, bounded, available⟩,
        List.getElem?_append_right (by simpa using late)]
      simp [place, within]
  · have afterAll : (List.range middle).length + (List.range (count - middle)).length ≤ index := by
      simp
      omega
    rw [if_neg inside, List.getElem?_eq_none (by simpa using afterAll)]

/-- The list of slots in use, slot by slot. -/
theorem map_slot_range [Inhabited α] {count : Nat} (fits : count ≤ size) (slots : Vector α size) :
    (List.range count).map (slot slots) = held count slots := by
  apply List.ext_getElem?
  intro index
  by_cases inside : index < count
  · rw [getElem?_held_of_lt fits inside]
    simp [inside]
  · rw [getElem?_held, if_neg inside]
    simpa using inside

/-! ## Checked access -/

/-- Write a slot that exists. -/
def write (index : Nat) (item : α) (slots : Vector α size) : Option (Vector α size) :=
  if index < size then some (slots.setIfInBounds index item) else none

/-- Write consecutive slots that exist with values that are there, the first of them first. -/
def fillChecked (value : Nat → Option α) (first : Nat) :
    Nat → Vector α size → Option (Vector α size)
  | 0, slots => some slots
  | count + 1, slots =>
    (fillChecked value first count slots).bind fun written =>
      (value (first + count)).bind fun item => write (first + count) item written

/-- A slot that exists is read. -/
theorem getElem?_of_lt [Inhabited α] {index : Nat} (inside : index < size)
    (slots : Vector α size) : slots[index]? = some (slot slots index) := by
  simp [slot, inside]

/-- Writes of values that are there to slots that exist are no different when they are checked. -/
theorem fillChecked_eq {value : Nat → Option α} {value' : Nat → α} {first count : Nat}
    (fits : first + count ≤ size)
    (there : ∀ index, first ≤ index → index < first + count → value index = some (value' index))
    (slots : Vector α size) :
    fillChecked value first count slots = some (fill value' first count slots) := by
  induction count with
  | zero => rfl
  | succ count previous =>
    have earlier := previous (by omega) fun index from_first before =>
      there index from_first (by omega)
    have inside : first + count < size := by omega
    rw [fillChecked, earlier, there (first + count) (by omega) (by omega)]
    exact if_pos inside

end CfsTelemetry.Slots
