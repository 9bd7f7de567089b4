import CfsTelemetry.Uplink.Process

/-!
# Verdicts of a command

The verdict on a command comes from the check of its sequence, from the checks of its fields, or
from one of the exits behind them. The verdicts of each are apart from those of the others.
-/
namespace CfsTelemetry.Uplink

variable {s : State} {env : Env} {cmd : ProcessUplinkCmd}

/-- The verdicts on a command that has passed the checks of its sequence and its fields. -/
def gateVerdicts : List Result :=
  [.routed, .failed, .routeMiss, .rejectState, .rejectRoute, .rejectViewpoint, .rejectCounter,
    .rejectFlightMode]

/-- The verdicts of the checks of the fields. -/
def fieldVerdicts : List Result :=
  [.rejectVersion, .rejectLength, .rejectClass, .rejectChecksum]

/-- The exit of a command that was forwarded routes it or fails. -/
theorem finish_verdict (target : RouteTarget) (text : String) (forwarded : Bool × State) :
    (finish env cmd target text forwarded).lastCommandResult ∈ gateVerdicts := by
  unfold finish
  split
  · show Result.failed ∈ gateVerdicts
    decide
  · show Result.routed ∈ gateVerdicts
    decide

/-- The exit of counter management routes the command or rejects it. -/
theorem finishCounterMgmt_verdict (target : RouteTarget) (forwarded : Bool × State) :
    (finishCounterMgmt env cmd target forwarded).lastCommandResult ∈ gateVerdicts := by
  unfold finishCounterMgmt
  split
  · show Result.rejectCounter ∈ gateVerdicts
    decide
  · split <;>
    · show Result.routed ∈ gateVerdicts
      decide

/-- Carrying out a command gives one of the verdicts behind the checks. -/
theorem carryOut_verdict (target : RouteTarget) :
    (carryOut env cmd target s).lastCommandResult ∈ gateVerdicts := by
  unfold carryOut
  cases CommandClass.ofByte cmd.commandClass with
  | none =>
    show Result.routed ∈ gateVerdicts
    decide
  | some commandClass =>
    cases commandClass <;> dsimp only
    case none =>
      show Result.routed ∈ gateVerdicts
      decide
    case counterMgmt => exact finishCounterMgmt_verdict target _
    case routeUpdate =>
      split
      · show Result.rejectRoute ∈ gateVerdicts
        decide
      · exact finish_verdict target _ _
    case viewpoint =>
      split
      · show Result.rejectViewpoint ∈ gateVerdicts
        decide
      · exact finish_verdict target _ _
    case flightMode =>
      split
      · show Result.rejectFlightMode ∈ gateVerdicts
        decide
      · exact finish_verdict target _ _
    all_goals exact finish_verdict target _ _

/-- The gates give one of the verdicts behind the checks. -/
theorem gateCommand_verdict : (gateCommand env cmd s).lastCommandResult ∈ gateVerdicts := by
  unfold gateCommand
  dsimp only
  split
  · show Result.routeMiss ∈ gateVerdicts
    decide
  · split
    · show Result.rejectState ∈ gateVerdicts
      decide
    · split
      · show Result.rejectState ∈ gateVerdicts
        decide
      · split
        · show Result.rejectState ∈ gateVerdicts
          decide
        · exact carryOut_verdict _

/-- A failed check of the fields gives one of its own verdicts. -/
theorem validateProxyCommand_verdict {result : Result}
    (invalid : validateProxyCommand cmd = .error result) : result ∈ fieldVerdicts := by
  unfold validateProxyCommand at invalid
  repeat' split at invalid
  all_goals first
    | cases invalid; decide
    | cases invalid

/-- The verdict on a command: of the check of its sequence, of the checks of its fields, or of
the exits behind them. -/
theorem processUplink_verdict (env : Env) (cmd : ProcessUplinkCmd) (s : State) :
    (checkSequence s cmd.sequence = .duplicate ∧
        (processUplink env cmd s).lastCommandResult = .duplicate) ∨
      (checkSequence s cmd.sequence = .replay ∧
        (processUplink env cmd s).lastCommandResult = .rejectSequence) ∨
      (checkSequence s cmd.sequence = .new ∧
        validateProxyCommand cmd = .error (processUplink env cmd s).lastCommandResult) ∨
      (checkSequence s cmd.sequence = .new ∧ validateProxyCommand cmd = .ok () ∧
        (processUplink env cmd s).lastCommandResult ∈ gateVerdicts) := by
  have same : checkSequence (receive env cmd s) cmd.sequence = checkSequence s cmd.sequence := rfl
  unfold processUplink
  simp only [same]
  cases checkSequence s cmd.sequence with
  | duplicate => exact .inl ⟨rfl, rfl⟩
  | replay => exact .inr (.inl ⟨rfl, rfl⟩)
  | new =>
    cases validateProxyCommand cmd with
    | error result => exact .inr (.inr (.inl ⟨rfl, rfl⟩))
    | ok => exact .inr (.inr (.inr ⟨rfl, rfl, gateCommand_verdict⟩))

end CfsTelemetry.Uplink
