import CfsTelemetry.Library.Edit
import CfsTelemetry.Library.Run

/-!
# Editing a list by transfer and commit

One side holds a committed list and a pending one with the place of a marked element. An edit of
the committed list becomes the pending list, which is offered to the other side; when that
accepts it, it is committed. A new edit starts from the committed list again, so that it
supersedes a pending one.
-/
namespace CfsTelemetry

/-- How far a transfer has come. -/
inductive Transfer.Phase where
  | idle | prepared | offered
  deriving DecidableEq, Repr

/-- The lists of a transfer. -/
structure Transfer (α : Type) where
  phase : Transfer.Phase
  pending : List α
  committed : List α
  mark : Nat

namespace Transfer

variable {α : Type}

/-- What can happen to a transfer. -/
inductive Action (α : Type) where
  | start (edit : Edit α)
  | offer
  | answer (index : Nat)
  | accept
  | drop
  | remark (mark : Nat)
  | silent

/-- The transfer after something happened to it. -/
def step (t : Transfer α) : Action α → Transfer α
  | .start edit => { t with
      phase := .prepared, pending := edit.apply t.committed, mark := edit.place t.mark }
  | .offer => { t with phase := .offered }
  | .answer _ => t
  | .accept => { t with phase := .idle, committed := t.pending }
  | .drop => { t with phase := .idle }
  | .remark mark => { t with mark := mark }
  | .silent => t

/-- When something can happen to a transfer. -/
def Enabled (t : Transfer α) : Action α → Prop
  | .start _ => True
  | .offer => t.phase ≠ .idle
  | .answer index => t.phase = .offered ∧ index < t.pending.length
  | .accept => t.phase = .offered
  | .drop => t.phase = .offered
  | .remark _ => True
  | .silent => True

/-- A transfer that is offered after an action other than a start was offered before it, or
only prepared, with the same list. -/
theorem step_offered {t : Transfer α} {action : Action α} (enabled : t.Enabled action)
    (noStart : ∀ edit, action ≠ .start edit) (offered : (t.step action).phase = .offered) :
    (t.phase = .prepared ∨ t.phase = .offered) ∧ (t.step action).pending = t.pending := by
  cases action with
  | start edit => exact absurd rfl (noStart edit)
  | offer =>
    have busy : t.phase ≠ .idle := enabled
    refine ⟨?_, rfl⟩
    cases phase : t.phase with
    | idle => exact absurd phase busy
    | prepared => exact .inl rfl
    | offered => exact .inr rfl
  | answer index => exact ⟨.inr offered, rfl⟩
  | accept => cases offered
  | drop => cases offered
  | remark mark => exact ⟨.inr offered, rfl⟩
  | silent => exact ⟨.inr offered, rfl⟩

/-- Only a start prepares a transfer. -/
theorem step_prepared {t : Transfer α} {action : Action α} (noStart : ∀ edit, action ≠ .start edit)
    (prepared : (t.step action).phase = .prepared) : t.phase = .prepared := by
  cases action with
  | start edit => exact absurd rfl (noStart edit)
  | offer => cases prepared
  | answer index => exact prepared
  | accept => cases prepared
  | drop => cases prepared
  | remark mark => exact prepared
  | silent => exact prepared

/-- A transfer that is on its way after an action other than a start was so before it. -/
theorem busy_of_step {t : Transfer α} {action : Action α} (enabled : t.Enabled action)
    (noStart : ∀ edit, action ≠ .start edit) (busy : (t.step action).phase ≠ .idle) :
    t.phase ≠ .idle := by
  cases action with
  | start edit => exact absurd rfl (noStart edit)
  | offer => exact enabled
  | answer index => exact busy
  | accept => exact absurd rfl busy
  | drop => exact absurd rfl busy
  | remark mark => exact busy
  | silent => exact busy

/-! ## Additions on their way -/

/-- A committed list, and what a transfer on its way adds to it. -/
structure Waits (t : Transfer α) (base waiting : List α) : Prop where
  committed : t.committed = base
  idle : t.phase = .idle → waiting = []
  pending : t.phase ≠ .idle → t.pending = base ++ waiting

variable {t : Transfer α} {base waiting : List α}

/-- An addition supersedes what was on its way. -/
theorem Waits.start (waits : t.Waits base waiting) (items : List α) :
    (t.step (.start (.append items))).Waits base items where
  committed := waits.committed
  idle := fun impossible => nomatch impossible
  pending := fun _ => congrArg (· ++ items) waits.committed

/-- What is accepted is committed. -/
theorem Waits.accept (waits : t.Waits base waiting) (offered : t.phase = .offered) :
    (t.step .accept).Waits (base ++ waiting) [] where
  committed := by
    have busy : t.phase ≠ .idle := by
      rw [offered]
      exact fun impossible => nomatch impossible
    exact waits.pending busy
  idle := fun _ => rfl
  pending := fun busy => absurd rfl busy

/-- An action that neither starts nor ends a transfer. -/
def Action.goesOn : Action α → Bool
  | .start _ => false
  | .accept => false
  | .drop => false
  | _ => true

/-- An action that goes on with a transfer keeps it idle or not. -/
theorem step_idle_iff {action : Action α} (enabled : t.Enabled action)
    (goesOn : action.goesOn = true) : (t.step action).phase = .idle ↔ t.phase = .idle := by
  cases action with
  | offer =>
    have busy : t.phase ≠ .idle := enabled
    exact iff_of_false (fun impossible => nomatch impossible) busy
  | answer index => exact Iff.rfl
  | remark mark => exact Iff.rfl
  | silent => exact Iff.rfl
  | start edit => cases goesOn
  | accept => cases goesOn
  | drop => cases goesOn

/-- An action that goes on with a transfer keeps both its lists. -/
theorem step_lists {action : Action α} (goesOn : action.goesOn = true) :
    (t.step action).pending = t.pending ∧ (t.step action).committed = t.committed := by
  cases action with
  | offer => exact ⟨rfl, rfl⟩
  | answer index => exact ⟨rfl, rfl⟩
  | remark mark => exact ⟨rfl, rfl⟩
  | silent => exact ⟨rfl, rfl⟩
  | start edit => cases goesOn
  | accept => cases goesOn
  | drop => cases goesOn

/-- What is on its way stays so while the transfer goes on. -/
theorem Waits.goesOn {action : Action α} (waits : t.Waits base waiting)
    (enabled : t.Enabled action) (goesOn : action.goesOn = true) :
    (t.step action).Waits base waiting := by
  have idle := step_idle_iff enabled goesOn
  obtain ⟨pending, committed⟩ := @step_lists _ t _ goesOn
  constructor
  · rw [committed]
    exact waits.committed
  · intro ended
    exact waits.idle (idle.mp ended)
  · intro busy
    rw [pending]
    exact waits.pending fun ended => busy (idle.mpr ended)

end Transfer

end CfsTelemetry
