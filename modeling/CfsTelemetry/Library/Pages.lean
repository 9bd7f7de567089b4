import Mathlib.Data.List.AList
import Mathlib.Data.List.Induction

/-!
# Lists in pages

A list is cut into pages of a size, and the pages in order make up the list. Where pages are kept
under their numbers, as many keys as numbers below a bound are those numbers when none is above
it. Pieces that arrive one after another fall into sessions, each begun by a piece that does not
go on with the one before it.
-/
namespace CfsTelemetry.Pages

section

variable {Item : Type} (size : Nat) (items : List Item)

/-- The page of a number. -/
def page (number : Nat) : List Item := (items.drop (size * number)).take size

/-- The first pages in order. -/
def firstPages (count : Nat) : List Item := (List.range count).flatMap (page size items)

/-- The first pages make up what is in front of the next. -/
theorem firstPages_eq (count : Nat) : firstPages size items count = items.take (size * count) := by
  unfold firstPages
  induction count with
  | zero => simp
  | succ count previous =>
    rw [List.range_succ, List.flatMap_append, previous, List.flatMap_singleton, Nat.mul_succ,
      List.take_add]
    rfl

/-- Enough pages make up the list. -/
theorem firstPages_all {count : Nat} (enough : items.length ≤ size * count) :
    firstPages size items count = items := by
  rw [firstPages_eq, List.take_of_length_le enough]

end

/-! ## Pages under their numbers -/

section

variable {Key Value : Type} [DecidableEq Key]

/-- All of some keys have something under them exactly if they are read as a list. -/
theorem mapM_eq_some_iff {Place : Type} {read : Place → Option Value} {places : List Place}
    {values : List Value} :
    places.mapM read = some values ↔ places.map read = values.map some := by
  induction places generalizing values with
  | nil => cases values <;> simp
  | cons place places previous =>
    rw [List.mapM_cons, List.map_cons]
    cases found : read place with
    | none => cases values <;> simp
    | some value =>
      cases values with
      | nil => cases places.mapM read <;> simp
      | cons first rest =>
        rw [List.map_cons, List.cons.injEq, ← previous]
        cases later : places.mapM read <;> simp

/-- Something new under a key is one key more. -/
theorem length_keys_insert {key : Key} {value : Value} {pages : AList fun _ : Key => Value}
    (new : key ∉ pages) : (pages.insert key value).keys.length = pages.keys.length + 1 := by
  rw [AList.keys_insert, List.erase_of_not_mem new, List.length_cons]

end

section

variable {Piece : Type} (starts : Piece → Piece → Prop) [DecidableRel starts]

/-- A session with one more piece, or the one that the piece begins. -/
def extend (session : List Piece) (piece : Piece) : List Piece :=
  match session.getLast? with
  | none => [piece]
  | some previous => if starts previous piece then [piece] else session ++ [piece]

/-- The session at the end of a history. -/
def session (history : List Piece) : List Piece := history.foldl (extend starts) []

/-- The session with one more piece in the history. -/
@[simp] theorem session_snoc (history : List Piece) (piece : Piece) :
    session starts (history ++ [piece]) = extend starts (session starts history) piece := by
  unfold session
  rw [List.foldl_append]
  rfl

/-- The pieces of a session are pieces of the history. -/
theorem session_subset (history : List Piece) : session starts history ⊆ history := by
  induction history using List.reverseRecOn with
  | nil => exact List.Subset.refl []
  | append_singleton history piece previous =>
    rw [session_snoc]
    have last : [piece] ⊆ history ++ [piece] := List.subset_append_right _ _
    unfold extend
    cases (session starts history).getLast? with
    | none => exact last
    | some before =>
      dsimp only
      by_cases begins : starts before piece
      · rw [if_pos begins]
        exact last
      · rw [if_neg begins]
        exact List.append_subset.mpr ⟨fun _ mem => List.mem_append_left _ (previous mem), last⟩

end

end CfsTelemetry.Pages
