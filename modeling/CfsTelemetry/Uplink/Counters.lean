import CfsTelemetry.Uplink.StatusPair

/-!
# The books of the command handler

Every exit of `processUplink` counts the command by hand: under one of four outcomes, as a
command taken or as an error. `CountsOnce` says what one call is to do to the counters, and the
handler does it for every command except an invalid configuration, whose forwarding function
counts an error of its own before the exit counts the same failure again. Over a session the
four outcomes then add up to the commands handled, and the errors to the rejections and the
routing failures.
-/
namespace CfsTelemetry.Uplink

open Run

variable {env : Env} {cmd : ProcessUplinkCmd} {s middle after : State}

/-- The counters that a command moves. -/
structure Counters where
  accepted : UInt32
  rejected : UInt32
  duplicate : UInt32
  routingFailure : UInt32
  cmd : UInt8
  err : UInt8
  deriving DecidableEq, Repr

/-- The counters of a state. -/
def State.counters (s : State) : Counters where
  accepted := s.acceptedCount
  rejected := s.rejectedCount
  duplicate := s.duplicateCount
  routingFailure := s.routingFailureCount
  cmd := s.cmdCounter
  err := s.errCounter

/-- What a command is counted as. -/
inductive Outcome where
  | accepted | rejected | duplicate | routingFailure
  deriving DecidableEq, Repr

/-- The verdicts of an outcome. -/
def Outcome.Gives : Outcome → Result → Prop
  | accepted, result => result = .routed
  | duplicate, result => result = .duplicate
  | rejected, result | routingFailure, result => result ≠ .routed ∧ result ≠ .duplicate

namespace Counters

/-- Count one command under an outcome. -/
def count (counters : Counters) : Outcome → Counters
  | .accepted => { counters with accepted := counters.accepted + 1, cmd := counters.cmd + 1 }
  | .rejected => { counters with rejected := counters.rejected + 1, err := counters.err + 1 }
  | .duplicate => { counters with duplicate := counters.duplicate + 1 }
  | .routingFailure =>
    { counters with routingFailure := counters.routingFailure + 1, err := counters.err + 1 }

/-- Count errors that are no outcome of a command. -/
def addErrors (counters : Counters) (errors : UInt8) : Counters :=
  { counters with err := counters.err + errors }

/-- The commands counted. -/
def total (counters : Counters) : UInt32 :=
  counters.accepted + counters.rejected + counters.duplicate + counters.routingFailure

/-- The commands counted as errors, at the width of the error counter. -/
def faults (counters : Counters) : UInt8 :=
  (counters.rejected + counters.routingFailure).toUInt8

/-- A command counts once in the sum of the outcomes. -/
theorem total_count (counters : Counters) (outcome : Outcome) :
    (counters.count outcome).total = counters.total + 1 := by
  cases outcome <;> simp only [count, total] <;> grind

/-- The errors that no command is counted for. -/
def stray (counters : Counters) : UInt8 := counters.err - counters.faults

/-- A command counts as an error as often as it is rejected or fails to route. -/
theorem stray_count (counters : Counters) (outcome : Outcome) :
    (counters.count outcome).stray = counters.stray := by
  have step (sum : UInt32) : (sum + 1).toUInt8 = sum.toUInt8 + 1 := UInt32.toUInt8_add sum 1
  cases outcome with
  | accepted => rfl
  | duplicate => rfl
  | rejected =>
    have sum : counters.rejected + 1 + counters.routingFailure =
        counters.rejected + counters.routingFailure + 1 := by grind
    simp only [stray, count, faults, sum, step]
    grind
  | routingFailure =>
    have sum : counters.rejected + (counters.routingFailure + 1) =
        counters.rejected + counters.routingFailure + 1 := by grind
    simp only [stray, count, faults, sum, step]
    grind

/-- A further error shows: no outcome counts a command with two errors. -/
theorem count_addErrors_ne (counters : Counters) (first second : Outcome) :
    (counters.addErrors 1).count first ≠ counters.count second := by
  intro equal
  cases first <;> cases second <;> simp [count, addErrors] at equal

end Counters

/-- The state after a command that was counted under an outcome, from the state before. -/
structure CountedAs (s after : State) (outcome : Outcome) : Prop where
  /-- One outcome is counted, with its command or its error. -/
  counters : after.counters = s.counters.count outcome
  /-- The verdict is one of the outcome. -/
  verdict : outcome.Gives after.lastCommandResult

/-- A call counts its command once: under one outcome, as a command taken if it was accepted
and as one error if it was rejected or could not be routed. -/
def CountsOnce (env : Env) (cmd : ProcessUplinkCmd) (s : State) : Prop :=
  ∃ outcome, CountedAs s (processUplink env cmd s) outcome

/-- A configuration command that passes the gates and is itself invalid. The function that forwards
it counts the error, and so does its caller. -/
structure InvalidConfig (cmd : ProcessUplinkCmd) (s : State) : Prop where
  /-- The command passes the gates. -/
  admits : Admits s cmd
  /-- The command is a configuration. -/
  config : CommandClass.ofByte cmd.commandClass = some .config
  /-- The payload is too short, of a wrong value length or carries a wrong sum. -/
  invalid : configValid cmd = false

/-- A rejection is counted as one. -/
theorem rejectCommand_countedAs {result : Result} (id : EventId) (text : String)
    (gives : Outcome.rejected.Gives result) :
    CountedAs s (rejectCommand env result id text s) .rejected := ⟨rfl, gives⟩

/-- A routing failure is counted as one. -/
theorem failRouting_countedAs {result : Result} (target : RouteTarget) (text : String)
    (gives : Outcome.routingFailure.Gives result) :
    CountedAs s (failRouting env result target text s) .routingFailure := ⟨rfl, gives⟩

/-- A save leaves the counters. -/
theorem saveState_counters (env : Env) (s : State) :
    (saveState env s).counters = s.counters := by
  unfold saveState
  cases env.save <;> rfl

/-- A commit is counted as an accepted command. -/
theorem acceptCommand_countedAs (target : RouteTarget) :
    CountedAs s (acceptCommand env cmd target s) .accepted where
  counters := saveState_counters env { s with
    cmdCounter := s.cmdCounter + 1
    acceptedCount := s.acceptedCount + 1
    lastAcceptedSequence := cmd.sequence.toUInt32 }
  verdict := rfl

/-- The common exit counts a command once, from what its forwarding function left. -/
theorem finish_counted (env : Env) (cmd : ProcessUplinkCmd) (target : RouteTarget) (text : String)
    (forwarded : Bool × State) :
    ∃ outcome, CountedAs forwarded.2 (finish env cmd target text forwarded) outcome := by
  unfold finish
  split
  · exact ⟨.routingFailure, failRouting_countedAs target text ⟨by decide, by decide⟩⟩
  · exact ⟨.accepted, acceptCommand_countedAs target⟩

/-- The exit of counter management counts a command once, a local reset apart. -/
theorem finishCounterMgmt_counted (env : Env) (target : RouteTarget) (forwarded : Bool × State)
    (remote : forwarded.1 = true → cmd.byte 0 ≠ CounterScope.uplink.code) :
    ∃ outcome, CountedAs forwarded.2 (finishCounterMgmt env cmd target forwarded) outcome := by
  unfold finishCounterMgmt
  cases sent : forwarded.1 with
  | false => exact ⟨.rejected, rejectCommand_countedAs _ _ ⟨by decide, by decide⟩⟩
  | true =>
    simp only [Bool.not_true, Bool.false_eq_true, remote sent, if_false]
    exact ⟨.accepted, acceptCommand_countedAs target⟩

/-- A configuration that cannot be forwarded counts an error of its own. -/
theorem forwardConfigCommand_counters (env : Env) (cmd : ProcessUplinkCmd) (s : State) :
    (forwardConfigCommand env cmd s).2.counters =
      if configValid cmd then s.counters else s.counters.addErrors 1 := by
  unfold forwardConfigCommand
  by_cases short : cmd.payloadLength < configPayloadHdrSize
  · have invalid : configValid cmd = false := by simp [configValid, short]
    rw [if_pos short, invalid]
    rfl
  rw [if_neg short]
  by_cases wrong : (configPayloadHdr cmd).valueLength ≠ 4 ∨
      configPayloadHdrSize + (configPayloadHdr cmd).valueLength > cmd.payloadLength
  · have invalid : configValid cmd = false := by simp only [configValid, wrong]; simp
    rw [if_pos wrong, invalid]
    rfl
  rw [if_neg wrong]
  by_cases mismatch : (configPayloadHdr cmd).checksum ≠ expectedChecksum cmd
  · have invalid : configValid cmd = false := by simp [configValid, mismatch]
    rw [if_pos mismatch, invalid]
    rfl
  · have valid : configValid cmd = true := by simp only [configValid, short, wrong, mismatch]; rfl
    rw [if_neg mismatch, valid]
    rfl

/-- Counter management leaves the counters, a local reset apart. -/
theorem forwardCounterMgmtCommand_counters (remote : counterRequest env cmd ≠ .localReset) :
    (forwardCounterMgmtCommand env cmd s).2.counters = s.counters := by
  unfold counterRequest at remote
  unfold forwardCounterMgmtCommand
  by_cases short : cmd.payloadLength < 6
  · rw [if_pos short]
  by_cases action : cmd.byte 1 ≠ 0
  · rw [if_neg short, if_pos action]
  rw [if_neg short, if_neg action] at remote ⊢
  cases named : CounterScope.ofByte (cmd.byte 0) with
  | none => rfl
  | some scope =>
    cases scope with
    | uplink => simp [named] at remote
    | mavlinkBridge => cases env.setFcnCode <;> rfl
    | cfsCore => cases env.setFcnCode <;> rfl
    | loraTdm => cases env.setFcnCode <;> rfl

/-- Flight modes leave the counters. -/
theorem forwardFlightModeCommand_counters (env : Env) (cmd : ProcessUplinkCmd)
    (payload : FlightModePayload) (s : State) :
    (forwardFlightModeCommand env cmd payload s).2.counters = s.counters := by
  unfold forwardFlightModeCommand
  cases env.setFcnCode <;> rfl

/-! ## The handler -/

/-- A forwarding function that leaves the counters leads to one count from those before. -/
theorem finish_counted_from (target : RouteTarget) (text : String) (forwarded : Bool × State)
    {counters : Counters} (left : forwarded.2.counters = counters) :
    ∃ before outcome, CountedAs before (finish env cmd target text forwarded) outcome ∧
      before.counters = counters := by
  have ⟨outcome, counted⟩ := finish_counted env cmd target text forwarded
  exact ⟨forwarded.2, outcome, counted, left⟩

/-- A command that is checked for the length of its message and forwarded leaves the counters. -/
theorem lengthChecked_counters {short : Prop} [Decidable short] (message : Message)
    (transmitted : Bool) (s : State) :
    (if short then (false, s)
      else (transmitted, transmitMsg message transmitted s)).2.counters = s.counters := by
  split <;> rfl

/-- Carrying out a command counts it once, from the counters before or, for an invalid
configuration, from those with one more error. -/
theorem carryOut_counted (target : RouteTarget) (remote : request env cmd s ≠ .localReset) :
    ∃ before outcome, CountedAs before (carryOut env cmd target s) outcome ∧
      before.counters =
        if CommandClass.ofByte cmd.commandClass = some .config ∧ configValid cmd = false then
          s.counters.addErrors 1
        else s.counters := by
  unfold carryOut
  unfold request at remote
  cases named : CommandClass.ofByte cmd.commandClass with
  | none => exact ⟨s, .accepted, acceptCommand_countedAs target, by simp⟩
  | some commandClass =>
    rw [named] at remote
    cases commandClass <;> simp only [Option.some.injEq, reduceCtorEq, false_and, if_false]
    case none => exact ⟨s, .accepted, acceptCommand_countedAs target, rfl⟩
    case config =>
      apply finish_counted_from
      rw [forwardConfigCommand_counters]
      cases configValid cmd <;> simp
    case routeUpdate =>
      cases parseRouteUpdatePayload cmd with
      | none => exact ⟨s, .rejected, rejectCommand_countedAs _ _ ⟨by decide, by decide⟩, rfl⟩
      | some payload => exact finish_counted_from target _ _ rfl
    case viewpoint =>
      cases parseViewpointPayload cmd with
      | none => exact ⟨s, .rejected, rejectCommand_countedAs _ _ ⟨by decide, by decide⟩, rfl⟩
      | some payload => exact finish_counted_from target _ _ rfl
    case recovery =>
      exact finish_counted_from target _ _ (lengthChecked_counters _ _ s)
    case mode =>
      exact finish_counted_from target _ _ (lengthChecked_counters _ _ s)
    case diagnostic =>
      exact finish_counted_from target _ _ (lengthChecked_counters _ _ s)
    case counterMgmt =>
      dsimp only at remote
      have forwards := forwardCounterMgmtCommand_forwards env cmd s
      have elsewhere : (forwardCounterMgmtCommand env cmd s).1 = true →
          cmd.byte 0 ≠ CounterScope.uplink.code := by
        intro done here
        have asks : counterRequest env cmd ≠ .nothing := by
          intro nothing
          rw [nothing] at forwards
          simp [forwards.1] at done
        exact remote ((counterRequest_eq_localReset asks).mpr here)
      have ⟨outcome, counted⟩ := finishCounterMgmt_counted env target _ elsewhere
      exact ⟨_, outcome, counted, forwardCounterMgmtCommand_counters remote⟩
    case flightMode =>
      cases parseFlightModePayload cmd with
      | none => exact ⟨s, .rejected, rejectCommand_countedAs _ _ ⟨by decide, by decide⟩, rfl⟩
      | some payload =>
        exact finish_counted_from target _ _ (forwardFlightModeCommand_counters env cmd payload s)

/-- The health gate leaves the counters. -/
theorem healthGate_counters (cmd : ProcessUplinkCmd) (s : State) :
    (healthGate cmd s).2.counters = s.counters := by
  unfold healthGate
  dsimp only
  cases healthBlocks s.cfsHealthState cmd <;> cases reducesRisk cmd <;> cases forced cmd <;> rfl

/-- The counters that a call counts from: those before it or, for an invalid configuration,
those with one more error. -/
structure CountsFrom (cmd : ProcessUplinkCmd) (s before : State) : Prop where
  /-- An invalid configuration has counted an error before its exit does. -/
  invalid : InvalidConfig cmd s → before.counters = s.counters.addErrors 1
  /-- Every other command comes to its exit with the counters as they were. -/
  valid : ¬ InvalidConfig cmd s → before.counters = s.counters

/-- A command that is not admitted counts from the counters before it. -/
theorem countsFrom_barred {before : State} (barred : ¬ Admits s cmd)
    (same : before.counters = s.counters) : CountsFrom cmd s before :=
  ⟨fun invalid => absurd invalid.admits barred, fun _ => same⟩

/-- A command that does not reset the counters is counted once by the exit it takes. -/
theorem processUplink_counted (remote : ending env cmd s ≠ .reset) :
    ∃ before outcome, CountedAs before (processUplink env cmd s) outcome ∧
      CountsFrom cmd s before := by
  have gated : (healthGate cmd (receive env cmd s)).2.counters = s.counters :=
    healthGate_counters cmd (receive env cmd s)
  have handled := processUplink_handled env cmd s
  generalize processUplink env cmd s = after at handled ⊢
  cases handled with
  | duplicate repeated =>
    have barred : ¬ Admits s cmd := fun admits => by simpa [repeated] using admits.new
    exact ⟨receive env cmd s, .duplicate, ⟨rfl, rfl⟩, countsFrom_barred barred rfl⟩
  | @refused result id text middle fresh barred gives stage =>
    have rejected : Outcome.rejected.Gives result :=
      ⟨fun routed => gives (by simp [routed]), fun duplicate => gives (by simp [duplicate])⟩
    have same : middle.counters = s.counters := by
      rcases stage with rfl | rfl
      · rfl
      · exact gated
    exact ⟨middle, .rejected, rejectCommand_countedAs id text rejected,
      countsFrom_barred barred same⟩
  | admitted admits =>
    obtain ⟨-, sequenceCounter, lastRxTimeMs⟩ := healthGate_snd cmd (receive env cmd s)
    have asked : request env cmd (healthGate cmd (receive env cmd s)).2 ≠ .localReset := by
      rw [request_congr sequenceCounter lastRxTimeMs]
      exact fun reset => remote (ending_eq_reset.mpr ⟨admits, reset⟩)
    obtain ⟨before, outcome, counted, begins⟩ := carryOut_counted
      (resolveRouteTarget cmd.commandClass) asked
    rw [gated] at begins
    refine ⟨before, outcome, counted, fun invalid => ?_, fun fine => ?_⟩
    · rw [begins, if_pos ⟨invalid.config, invalid.invalid⟩]
    · rw [begins, if_neg fun ⟨config, invalid⟩ => fine ⟨admits, config, invalid⟩]

/-- Only counter management resets the counters. -/
theorem ending_ne_reset (other : CommandClass.ofByte cmd.commandClass ≠ some .counterMgmt) :
    ending env cmd s ≠ .reset := by
  intro reset
  have asked := (ending_eq_reset.mp reset).2
  unfold request at asked
  repeat' split at asked
  all_goals contradiction

/-- A command that does not reset the counters is counted once exactly if it is not an invalid
configuration. -/
theorem countsOnce_iff (remote : ending env cmd s ≠ .reset) :
    CountsOnce env cmd s ↔ ¬ InvalidConfig cmd s := by
  have ⟨before, outcome, counted, start⟩ := processUplink_counted remote
  constructor
  · rintro ⟨other, once⟩ invalid
    have twice := counted.counters.symm.trans once.counters
    rw [start.invalid invalid] at twice
    exact Counters.count_addErrors_ne s.counters outcome other twice
  · intro fine
    have same := start.valid fine
    exact ⟨outcome, by rw [counted.counters, same], counted.verdict⟩

/-! ## Sessions -/

/-- The command that a round of the main loop gives to the command handler. -/
def commandOf (round : Env × Input) : Option ProcessUplinkCmd :=
  match round.2 with
  | .received (.command fcnCode length uplink) =>
    if fcnCode = 2 ∧ length = 204 then some uplink else none
  | _ => none

/-- The errors that a round of the main loop counts outside the command handler. -/
def errorsOutside (round : Env × Input) : Nat :=
  match round.2 with
  | .received .unreadableId | .received .unknownId | .received .unreadableFcnCode => 1
  | .received (.command fcnCode length _) =>
    if fcnCode = 0 ∨ fcnCode = 1 then if length = 0 then 0 else 1
    else if fcnCode = 2 ∧ length = 204 then 0
    else 1
  | _ => 0

/-- A round of the main loop resets the counters: by the command of the housekeeping, or by a
ground command that is carried out. -/
def ResetsCounters (s : State) (round : Env × Input) : Prop :=
  (∃ uplink, round.2 = .received (.command 1 0 uplink)) ∨
    ∃ cmd, commandOf round = some cmd ∧ ending round.1 cmd s = .reset

/-- What a round does to the books: a command handled is counted once, and the errors that no
command is counted for are those outside the handler. -/
structure KeepsBooks (s after : State) (round : Env × Input) : Prop where
  /-- A command adds one to the sum of the outcomes. -/
  total : after.counters.total =
    s.counters.total + UInt32.ofNat (commandOf round).toList.length
  /-- Errors outside the handler are errors of no command. -/
  stray : after.counters.stray = s.counters.stray + UInt8.ofNat (errorsOutside round)

/-- A round with no command and no error keeps the books when it leaves the counters, but for
the one of the commands taken. -/
theorem keepsBooks_quiet {round : Env × Input} (bare : commandOf round = none)
    (fine : errorsOutside round = 0)
    (same : { after.counters with cmd := s.cmdCounter } = s.counters) :
    KeepsBooks s after round where
  total := by
    rw [← same, bare]
    simp [Counters.total]
  stray := by
    rw [← same, fine]
    simp [Counters.stray, Counters.faults]

/-- A round that counts an error keeps the books when it has one error and no command. -/
theorem keepsBooks_error {round : Env × Input} (bare : commandOf round = none)
    (error : errorsOutside round = 1) (same : after.counters = s.counters.addErrors 1) :
    KeepsBooks s after round where
  total := by simp [same, bare, Counters.addErrors, Counters.total]
  stray := by
    simp only [same, error, Counters.addErrors, Counters.stray, Counters.faults]
    grind

/-- A command that is counted once keeps the books. -/
theorem keepsBooks_command {round : Env × Input} (command : commandOf round = some cmd)
    (fine : errorsOutside round = 0) (once : CountsOnce round.1 cmd s) :
    KeepsBooks s (processUplink round.1 cmd s) round := by
  have ⟨outcome, counted⟩ := once
  constructor
  · rw [counted.counters, Counters.total_count, command]
    rfl
  · rw [counted.counters, Counters.stray_count, fine]
    simp

/-- A command of the wrong length is an error, and one of the right length is handled. -/
theorem withCmdLength_eq (env : Env) (length expected : Nat) (handler : State → State)
    (s : State) :
    (length = expected → withCmdLength env length expected handler s = handler s) ∧
      (length ≠ expected →
        (withCmdLength env length expected handler s).counters = s.counters.addErrors 1) := by
  unfold withCmdLength
  constructor
  · intro fits
    simp [fits]
  · intro misfits
    simp only [misfits, ne_eq, not_false_eq_true, if_true]
    rfl

/-- A timeout of the bus leaves the counters. -/
theorem servicePrototype_counters (env : Env) (s : State) :
    (servicePrototype env s).counters = s.counters := by
  have survival : (checkBootSurvival env s).counters = s.counters := by
    unfold checkBootSurvival
    split
    · rfl
    · split
      · exact saveState_counters env { s with survivedMark := 1 }
      · rfl
  unfold servicePrototype
  dsimp only
  split
  · exact survival
  · exact survival

/-- A message of the pipe keeps the books, if it resets no counters and every command in it is
counted once. -/
theorem taskPipe_keepsBooks (env : Env) (message : PipeMessage)
    (kept : ¬ ResetsCounters s (env, .received message))
    (once : ∀ cmd, commandOf (env, .received message) = some cmd → CountsOnce env cmd s) :
    KeepsBooks s (taskPipe env message s) (env, .received message) := by
  cases message with
  | unreadableId => exact keepsBooks_error rfl rfl rfl
  | unknownId => exact keepsBooks_error rfl rfl rfl
  | unreadableFcnCode => exact keepsBooks_error rfl rfl rfl
  | sendHk => exact keepsBooks_quiet rfl rfl rfl
  | systemHealth healthState => exact keepsBooks_quiet rfl rfl rfl
  | bridgeHk lastUploadResult successCount => exact keepsBooks_quiet rfl rfl rfl
  | execResult msg =>
    apply keepsBooks_quiet rfl rfl
    unfold taskPipe processExecResult
    dsimp only
    split <;> rfl
  | command fcnCode length uplink =>
    unfold taskPipe
    dsimp only
    by_cases isNoop : fcnCode = 0
    · rw [if_pos isNoop]
      have ⟨fits, misfits⟩ := withCmdLength_eq env length 0 noop s
      by_cases empty : length = 0
      · rw [fits empty]
        exact keepsBooks_quiet (by simp [commandOf, isNoop])
          (by simp [errorsOutside, isNoop, empty]) rfl
      · exact keepsBooks_error (by simp [commandOf, isNoop])
          (by simp [errorsOutside, isNoop, empty]) (misfits empty)
    rw [if_neg isNoop]
    by_cases isReset : fcnCode = 1
    · rw [if_pos isReset]
      have ⟨_, misfits⟩ := withCmdLength_eq env length 0 resetCounters s
      by_cases empty : length = 0
      · subst isReset empty
        exact absurd (.inl ⟨uplink, rfl⟩) kept
      · exact keepsBooks_error (by simp [commandOf, isReset])
          (by simp [errorsOutside, isReset, empty]) (misfits empty)
    rw [if_neg isReset]
    by_cases isUplink : fcnCode = 2
    · rw [if_pos isUplink]
      have ⟨fits, misfits⟩ := withCmdLength_eq env length 204 (processUplink env uplink) s
      by_cases whole : length = 204
      · have command : commandOf (env, .received (.command fcnCode length uplink)) =
            some uplink := by simp [commandOf, isUplink, whole]
        rw [fits whole]
        exact keepsBooks_command command (by simp [errorsOutside, isUplink, whole])
          (once uplink command)
      · exact keepsBooks_error (by simp [commandOf, whole])
          (by simp [errorsOutside, isUplink, whole]) (misfits whole)
    · rw [if_neg isUplink]
      exact keepsBooks_error (by simp [commandOf, isUplink])
        (by simp [errorsOutside, isNoop, isReset, isUplink]) rfl

/-- A round keeps the books, if it resets no counters and has no invalid configuration. -/
theorem step_keepsBooks (round : Env × Input) (kept : ¬ ResetsCounters s round)
    (valid : ∀ cmd, commandOf round = some cmd → ¬ InvalidConfig cmd s) :
    KeepsBooks s (step s round) round := by
  have ⟨env, input⟩ := round
  cases input with
  | timeout =>
    have same := servicePrototype_counters env s
    exact keepsBooks_quiet rfl rfl (congrArg ({ · with cmd := s.cmdCounter }) same)
  | received message =>
    apply taskPipe_keepsBooks env message kept
    intro cmd command
    have remote : ending env cmd s ≠ .reset := fun reset => kept (.inr ⟨cmd, command, reset⟩)
    exact (countsOnce_iff remote).mpr (valid cmd command)

/-- A round that may be part of a run on which the books are balanced. -/
def Balances (start : State) (before : List (Env × Input)) (round : Env × Input) : Prop :=
  ¬ ResetsCounters (run step start before) round ∧
    ∀ cmd, commandOf round = some cmd → ¬ InvalidConfig cmd (run step start before)

/-- Over a run the sum of the outcomes grows by the commands handled, and the errors of no
command by those outside the handler. -/
theorem run_keepsBooks (start : State) (rounds : List (Env × Input))
    (balances : Each (Balances start) rounds) :
    (run step start rounds).counters.total =
        start.counters.total + UInt32.ofNat (rounds.filterMap commandOf).length ∧
      (run step start rounds).counters.stray =
        start.counters.stray + UInt8.ofNat (rounds.map errorsOutside).sum := by
  induction rounds using List.reverseRecOn with
  | nil => simp
  | append_singleton before round previous =>
    rw [each_snoc] at balances
    have ⟨total, stray⟩ := previous balances.1
    have books := step_keepsBooks round balances.2.1 balances.2.2
    constructor
    · have grows : (([round] : List (Env × Input)).filterMap commandOf).length =
          (commandOf round).toList.length := by
        cases command : commandOf round <;> simp [command]
      rw [run_snoc, books.total, total, List.filterMap_append, List.length_append, grows,
        UInt32.ofNat_add, UInt32.add_assoc]
    · rw [run_snoc, books.stray, stray, List.map_append, List.sum_append, UInt8.ofNat_add,
        UInt8.add_assoc]
      simp

/-- Whether a load restores the state of a session before. -/
def restores (load : LoadIo) (stateFile : Option (List UInt8)) : Bool :=
  match load, stateFile with
  | .read, some bytes => (checkState bytes).isOk
  | _, _ => false

/-- A load leaves the counters but for the accepted count, which marks a restored state. -/
theorem loadState_counters (load : LoadIo) (s : State) :
    (loadState load s).counters =
      if restores load s.stateFile then { s.counters with accepted := 1 } else s.counters := by
  cases file : s.stateFile with
  | none => cases load <;> simp [loadState, restores, file, State.counters, sendEvent]
  | some bytes =>
    cases load with
    | openFailed errno => rfl
    | readFailed => simp [loadState, restores, file, State.counters, sendEvent]
    | read =>
      cases checked : checkState bytes with
      | error defect =>
        cases defect <;> simp only [loadState, restores, file, checked, Except.isOk] <;> rfl
      | ok record => simp only [loadState, restores, file, checked, Except.isOk]; rfl

/-- A session starts with clear books, but for the mark of a restored state. -/
theorem init_counters (load : LoadIo) (resetType : UInt8) (countEnv markerEnv : Env)
    (stateFile : Option (List UInt8)) :
    (init load resetType countEnv markerEnv stateFile).counters =
      ⟨if restores load stateFile then 1 else 0, 0, 0, 0, 0, 0⟩ := by
  have marker (s : State) : (processBootMarker markerEnv resetType s).counters = s.counters := by
    unfold processBootMarker
    dsimp only
    generalize (if s.prevSurvivedMark = 0 then
      if s.shortBootStreak < 255 then s.shortBootStreak + 1 else s.shortBootStreak else 0) = streak
    apply (saveState_counters markerEnv _).trans
    split <;> rfl
  have count (s : State) : (incrementBootCount countEnv s).counters = s.counters :=
    saveState_counters countEnv { s with bootCount := s.bootCount + 1 }
  have loaded := loadState_counters load (bootState stateFile)
  rw [← count, ← marker] at loaded
  refine loaded.trans ?_
  have clear : (bootState stateFile).counters = ⟨0, 0, 0, 0, 0, 0⟩ := rfl
  have file : (bootState stateFile).stateFile = stateFile := rfl
  rw [clear, file]
  split <;> rfl

/-- Every call counts its command once exactly if the command is not an invalid configuration, a
reset of the counters apart: that one is counted by the function that forwards it and by its caller.
Over every session without such commands and resets the outcomes add up to the commands handled,
beside the mark of a restored state, and so to the commands alone exactly if no state was restored;
and the errors to those outside the handler, the rejections and the routing failures. -/
theorem counters_conserved (load : LoadIo) (resetType : UInt8) (countEnv markerEnv : Env)
    (stateFile : Option (List UInt8)) (rounds : List (Env × Input)) :
    (∀ env cmd s, ending env cmd s ≠ .reset → (CountsOnce env cmd s ↔ ¬ InvalidConfig cmd s)) ∧
      (Each (Balances (init load resetType countEnv markerEnv stateFile)) rounds →
        (run step (init load resetType countEnv markerEnv stateFile) rounds).counters.total =
            (if restores load stateFile then 1 else 0) +
              UInt32.ofNat (rounds.filterMap commandOf).length ∧
          ((run step (init load resetType countEnv markerEnv stateFile) rounds).counters.total =
              UInt32.ofNat (rounds.filterMap commandOf).length ↔
            restores load stateFile = false) ∧
          (run step (init load resetType countEnv markerEnv stateFile) rounds).errCounter =
            (run step (init load resetType countEnv markerEnv stateFile) rounds).counters.faults +
              UInt8.ofNat (rounds.map errorsOutside).sum) := by
  refine ⟨fun env cmd s remote => countsOnce_iff remote, fun balances => ?_⟩
  have ⟨total, stray⟩ := run_keepsBooks _ rounds balances
  have clear : (init load resetType countEnv markerEnv stateFile).counters.stray = 0 := by
    rw [init_counters]
    simp [Counters.stray, Counters.faults]
  have sum : (run step (init load resetType countEnv markerEnv stateFile) rounds).counters.total =
      (if restores load stateFile then 1 else 0) +
        UInt32.ofNat (rounds.filterMap commandOf).length := by
    rw [total, init_counters]
    simp [Counters.total]
  refine ⟨sum, ?_, ?_⟩
  · rw [sum]
    cases restores load stateFile <;> simp
  · rw [clear, Counters.stray] at stray
    have errors : (run step (init load resetType countEnv markerEnv stateFile) rounds).errCounter =
        (run step (init load resetType countEnv markerEnv stateFile) rounds).counters.err := rfl
    rw [errors]
    generalize (run step (init load resetType countEnv markerEnv stateFile) rounds).counters =
      counters at stray ⊢
    grind

/-- A bad message is the only error of a session that takes a command and its copy. -/
theorem counters_conserved_survey :
    let rounds := ((([] ++ [wellRound]) ++ [acceptedRound]) ++ [acceptedRound]) ++
      [(workingEnv 1500, .received .unknownId)]
    ending (workingEnv 1400) (diagnosticCmd 1 0x1DCD) (run step firstSession [wellRound]) ≠ .reset ∧
      CountsOnce (workingEnv 1400) (diagnosticCmd 1 0x1DCD) (run step firstSession [wellRound]) ∧
      (run step firstSession rounds).counters.total = 2 ∧
      (run step firstSession rounds).errCounter =
        (run step firstSession rounds).counters.faults + 1 := by
  have remote (s : State) : ending (workingEnv 1400) (diagnosticCmd 1 0x1DCD) s ≠ .reset :=
    ending_ne_reset (by decide)
  have diagnostic (s : State) : ¬ InvalidConfig (diagnosticCmd 1 0x1DCD) s := fun invalid =>
    absurd invalid.config (by decide)
  have ⟨once, books⟩ := counters_conserved .read 1 (workingEnv 1000) (workingEnv 1000) none
    (((([] ++ [wellRound]) ++ [acceptedRound]) ++ [acceptedRound]) ++
      [(workingEnv 1500, .received .unknownId)])
  refine ⟨remote _, (once _ _ _ (remote _)).mpr (diagnostic _), ?_⟩
  have accepted (before : List (Env × Input)) : Balances firstSession before acceptedRound := by
    constructor
    · rintro (⟨uplink, equal⟩ | ⟨cmd, command, reset⟩)
      · cases equal
      · cases command
        exact remote _ reset
    · rintro cmd command
      cases command
      exact diagnostic _
  have quiet (before : List (Env × Input)) (round : Env × Input) (bare : commandOf round = none)
      (other : ∀ uplink, round.2 ≠ .received (.command 1 0 uplink)) :
      Balances firstSession before round := by
    constructor
    · rintro (⟨uplink, equal⟩ | ⟨cmd, command, -⟩)
      · exact other uplink equal
      · rw [bare] at command
        cases command
    · intro cmd command
      rw [bare] at command
      cases command
  have balances : Each (Balances firstSession)
      (((([] ++ [wellRound]) ++ [acceptedRound]) ++ [acceptedRound]) ++
        [(workingEnv 1500, .received .unknownId)]) := by
    rw [each_snoc, each_snoc, each_snoc, each_snoc]
    exact ⟨⟨⟨⟨each_nil, quiet _ _ rfl (by rintro uplink ⟨⟩)⟩, accepted _⟩, accepted _⟩,
      quiet _ _ rfl (by rintro uplink ⟨⟩)⟩
  obtain ⟨total, -, errors⟩ := books balances
  exact ⟨total, errors⟩

/-- A configuration command that is shorter than its header. -/
def shortConfigCmd : ProcessUplinkCmd where
  version := 1
  commandClass := 1
  payloadLength := 6
  flags := 0xC0
  sequence := 1
  checksum := 0x8BC2
  payload := Vector.replicate maxPayloadLength 0

/-- A configuration that cannot be routed is one routing failure and two errors. A session that
has restored a state begins with an outcome before it has handled any command. -/
theorem counters_miscounted :
    Reachable healthySession ∧
      ending (workingEnv 2000) shortConfigCmd healthySession ≠ .reset ∧
      ¬ CountsOnce (workingEnv 2000) shortConfigCmd healthySession ∧
      (processUplink (workingEnv 2000) shortConfigCmd healthySession).counters =
        ⟨0, 0, 0, 1, 0, 2⟩ ∧
      (init .read 1 (workingEnv 1000) (workingEnv 1000)
        (some (persistentState healthySession).encode)).counters.total = 1 := by
  have two : (processUplink (workingEnv 2000) shortConfigCmd healthySession).counters =
      ⟨0, 0, 0, 1, 0, 2⟩ := by decide +kernel
  have clear : healthySession.counters = ⟨0, 0, 0, 0, 0, 0⟩ := by decide +kernel
  refine ⟨⟨_, _, _, _, _, _, rfl⟩, ending_ne_reset (by decide), ?_, two, by decide +kernel⟩
  rintro ⟨outcome, counted⟩
  have once := counted.counters
  rw [two, clear] at once
  cases outcome <;> exact absurd once (by decide)

end CfsTelemetry.Uplink
