import CfsTelemetry.Bridge.Moves
import CfsTelemetry.Bridge.Numbering

/-!
# What a step publishes

A step puts out at most one state message, and numbers it one above the last one.
-/
namespace CfsTelemetry.Bridge

open Run

/-- What a step puts out, newest first. -/
def newOutputs (s s' : State) : List Output :=
  s'.outputs.take (s'.outputs.length - s.outputs.length)

/-- How many state messages have been published. -/
def publishedCount (s : State) : Nat := (ledger s).2.length

variable {s : State}

/-- What a step puts out comes before what was put out before it. -/
theorem step_outputs (inRange : InRange s) (input : Input) :
    (step s input).outputs = newOutputs s (step s input) ++ s.outputs := by
  have ⟨frames, moves, _⟩ := step_moves inRange input
  have ⟨new, outputs, _⟩ := moves.emits
  have taken : newOutputs s (step s input) = new := by
    rw [newOutputs, outputs]
    simp
  rw [taken]
  exact outputs

/-- A step puts out no state message, or one that is numbered next. -/
theorem step_newNumbers (inRange : InRange s) (input : Input) :
    ((newOutputs s (step s input)).filterMap Output.number = [] ∧
        publishedCount (step s input) = publishedCount s) ∨
      ((newOutputs s (step s input)).filterMap Output.number = [s.sequenceCounter + 1] ∧
        publishedCount (step s input) = publishedCount s + 1) := by
  have numbers : (ledger (step s input)).2 =
      (newOutputs s (step s input)).filterMap Output.number ++ (ledger s).2 := by
    have outputs := congrArg (List.filterMap Output.number) (step_outputs inRange input)
    rw [List.filterMap_append] at outputs
    exact outputs
  rcases step_numbers s input with same | numbered
  · left
    have nothing : (ledger s).2 =
        (newOutputs s (step s input)).filterMap Output.number ++ (ledger s).2 := by
      rw [← numbers, same]
    exact ⟨List.self_eq_append_left.mp nothing, by rw [publishedCount, same, publishedCount]⟩
  · right
    have one : [s.sequenceCounter + 1] ++ (ledger s).2 =
        (newOutputs s (step s input)).filterMap Output.number ++ (ledger s).2 := by
      rw [← numbers, numbered]
      rfl
    refine ⟨(List.append_cancel_right one).symm, ?_⟩
    rw [publishedCount, numbered, publishedCount, List.length_cons]

/-- The counter is the count of the state messages, cut to 32 bits. -/
theorem Counts.counter (counts : Counts s) :
    s.sequenceCounter = UInt32.ofNat (publishedCount s) := counts.1

end CfsTelemetry.Bridge
