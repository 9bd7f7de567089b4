import CfsTelemetry.Library.Run

/-!
# Fetching a list item by item

One side asks for the number of items of a list and then takes as many items as were announced,
keeping those it has room for. The items come without a place of their own: what is kept is the
list of the other side when every item that is taken is the one whose turn it is.
-/
namespace CfsTelemetry

/-- How far a fetch has come. -/
inductive Fetch.Phase where
  | idle | counting | collecting
  deriving DecidableEq, Repr

/-- A fetch: how many items are expected, how many were taken, and those that are kept. -/
@[ext] structure Fetch (α : Type) where
  phase : Fetch.Phase
  expected : Nat
  taken : Nat
  kept : List α

namespace Fetch

variable {α : Type}

/-- What can happen to a fetch. -/
inductive Action (α : Type) where
  | request
  | count (number : Nat)
  | take (item : α)
  | giveUp
  | silent

variable (limit capacity : Nat)

/-- What is kept with one more item. -/
def keep (f : Fetch α) (item : α) : List α :=
  if f.taken < capacity then f.kept ++ [item] else f.kept

/-- The fetch after something happened to it. At most `limit` items are expected, and there is
room for `capacity` of them. -/
def step (f : Fetch α) : Action α → Fetch α
  | .request => ⟨.counting, 0, 0, []⟩
  | .count number =>
    if number = 0 then { f with phase := .idle, expected := 0 }
    else ⟨.collecting, min number limit, 0, []⟩
  | .take item =>
    ⟨if f.taken + 1 ≥ f.expected then .idle else f.phase, f.expected, f.taken + 1,
      f.keep capacity item⟩
  | .giveUp => { f with phase := .idle }
  | .silent => f

/-- The list that a fetch ends with when something happens to it. -/
def result (f : Fetch α) : Action α → Option (List α)
  | .count number => if number = 0 then some [] else none
  | .take item => if f.taken + 1 ≥ f.expected then some (f.keep capacity item) else none
  | _ => none

/-- A fetch that collects has not taken all items yet, and kept those it had room for. -/
def Collects (f : Fetch α) : Prop :=
  f.phase = .collecting → f.taken < f.expected ∧ f.expected ≤ limit ∧
    f.kept.length = min f.taken capacity

/-- When something can happen to a fetch. -/
def Enabled (f : Fetch α) : Action α → Prop
  | .count _ => f.phase = .counting
  | .take _ => f.phase = .collecting
  | _ => True

variable {limit capacity} {f : Fetch α} {action : Action α}

/-- A step keeps a fetch collecting. -/
theorem Collects.step (room : 0 < limit) (collects : f.Collects limit capacity)
    (enabled : f.Enabled action) : (f.step limit capacity action).Collects limit capacity := by
  cases action with
  | request => exact fun impossible => nomatch impossible
  | giveUp => exact fun impossible => nomatch impossible
  | silent => exact collects
  | count number =>
    unfold Fetch.step
    dsimp only
    split
    · exact fun impossible => nomatch impossible
    · refine fun _ => ⟨?_, Nat.min_le_right _ _, (Nat.zero_min capacity).symm⟩
      show 0 < min number limit
      omega
  | take item =>
    have collecting : f.phase = .collecting := enabled
    obtain ⟨below, bound, kept⟩ := collects collecting
    intro still
    simp only [Fetch.step] at still ⊢
    split at still
    · cases still
    · refine ⟨by omega, bound, ?_⟩
      unfold keep
      split
      · rw [List.length_append, List.length_singleton, kept]
        omega
      · rw [kept]
        omega

/-- What a fetch that goes on with a list has kept of it. -/
def Follows (list : List α) (f : Fetch α) : Prop :=
  f.phase = .collecting → f.expected = list.length ∧ f.taken < list.length ∧
    f.kept = list.take f.taken

/-- What is in turn for a list: its own length as the count, and its next item. -/
def InTurn (list : List α) (f : Fetch α) : Action α → Prop
  | .count number => number = list.length
  | .take item => f.phase = .collecting ∧ list[f.taken]? = some item
  | _ => True

variable {list : List α}

/-- An item that is next is kept. -/
theorem keep_next (room : list.length ≤ capacity) (follows : f.Follows list) {item : α}
    (next : f.phase = .collecting ∧ list[f.taken]? = some item) :
    f.keep capacity item = list.take (f.taken + 1) := by
  obtain ⟨-, below, kept⟩ := follows next.1
  have fits : f.taken < capacity := by omega
  rw [keep, if_pos fits, kept, List.take_add_one, next.2]
  rfl

/-- A fetch that goes on with a list collects it. -/
theorem Follows.collects (small : list.length ≤ limit) (room : list.length ≤ capacity)
    (follows : f.Follows list) : f.Collects limit capacity := by
  intro collecting
  obtain ⟨expected, below, kept⟩ := follows collecting
  refine ⟨by omega, by omega, ?_⟩
  rw [kept, List.length_take]
  omega

/-- A fetch goes on with a list as long as everything is in turn. -/
theorem Follows.step (small : list.length ≤ limit) (room : list.length ≤ capacity)
    (follows : f.Follows list) (inTurn : f.InTurn list action) :
    (f.step limit capacity action).Follows list := by
  cases action with
  | request => exact fun impossible => nomatch impossible
  | giveUp => exact fun impossible => nomatch impossible
  | silent => exact follows
  | count number =>
    have own : number = list.length := inTurn
    unfold Fetch.step
    dsimp only
    split
    · exact fun impossible => nomatch impossible
    · refine fun _ => ⟨?_, ?_, rfl⟩
      · show min number limit = _
        omega
      · show 0 < _
        omega
  | take item =>
    have next : f.phase = .collecting ∧ list[f.taken]? = some item := inTurn
    obtain ⟨expected, below, -⟩ := follows next.1
    intro still
    simp only [Fetch.step] at still ⊢
    split at still
    · cases still
    · exact ⟨expected, by omega, keep_next room follows next⟩

/-- A fetch of a list in turn ends with that list. -/
theorem result_eq (room : list.length ≤ capacity) (follows : f.Follows list)
    (inTurn : f.InTurn list action) {fetched : List α}
    (ends : f.result capacity action = some fetched) : fetched = list := by
  cases action with
  | request => cases ends
  | giveUp => cases ends
  | silent => cases ends
  | count number =>
    have own : number = list.length := inTurn
    unfold result at ends
    dsimp only at ends
    split at ends
    · rename_i none
      rw [← Option.some.inj ends]
      exact (List.eq_nil_of_length_eq_zero (own ▸ none)).symm
    · cases ends
  | take item =>
    have next : f.phase = .collecting ∧ list[f.taken]? = some item := inTurn
    obtain ⟨expected, below, -⟩ := follows next.1
    unfold result at ends
    dsimp only at ends
    split at ends
    · rw [← Option.some.inj ends, keep_next room follows next]
      exact List.take_of_length_le (by omega)
    · cases ends

end Fetch

end CfsTelemetry
