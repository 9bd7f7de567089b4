import CfsTelemetry.Library.Run

/-!
# Inputs that leave no trace

Some inputs of a system are its own, and others belong to another party. When its own inputs take
agreeing states to agreeing states, and an input of the other party leaves a state that agrees
with the one before it, a run agrees with the run of the own inputs alone.
-/
namespace CfsTelemetry.Noninterference

open Run

variable {State Input : Type}

/-- States agree on what own inputs do, and are not told apart by the other inputs that meet a
condition. -/
structure Unwinds (step : State → Input → State) (own : Input → Bool)
    (condition : State → Input → Prop) (Agree : State → State → Prop) : Prop where
  own_step : ∀ {s s' : State} (input : Input), own input = true → Agree s s' →
    Agree (step s input) (step s' input)
  other_step : ∀ {s s' : State} (input : Input), own input = false → condition s input →
    Agree s s' → Agree (step s input) s'

/-- A run whose other inputs all meet the condition agrees with the run without them. -/
theorem Unwinds.run {step : State → Input → State} {own : Input → Bool}
    {condition : State → Input → Prop} {Agree : State → State → Prop}
    (unwinds : Unwinds step own condition Agree) {s s' : State} (agree : Agree s s')
    {inputs : List Input}
    (each : Each (fun before input => own input = false → condition (run step s before) input)
      inputs) :
    Agree (Run.run step s inputs) (Run.run step s' (inputs.filter own)) := by
  induction inputs using List.reverseRecOn with
  | nil => exact agree
  | append_singleton before input previous =>
    have ⟨earlier, last⟩ := each_snoc.mp each
    have agree := previous earlier
    rw [List.filter_append, run_snoc, run_append]
    by_cases chosen : own input = true
    · have kept : [input].filter own = [input] := by simp [chosen]
      rw [kept]
      exact unwinds.own_step input chosen agree
    · have other : own input = false := by simpa using chosen
      have left : [input].filter own = [] := by simp [chosen]
      rw [left]
      exact unwinds.other_step input other (last other) agree

end CfsTelemetry.Noninterference
