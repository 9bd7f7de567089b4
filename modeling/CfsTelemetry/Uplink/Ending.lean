import CfsTelemetry.Uplink.Verdicts

/-!
# How a command ends

A specification of `processUplink` on the side of what a caller sees. `request` says what a
command asks for, `ending` which of five ways the handler ends, and `EndsAs` what each way
does to the outputs, to the replay state and to the verdict. The handler ends every command as
`ending` says (`processUplink_endsAs`), and the results about the application are drawn from
that statement without looking into the handler again.
-/
namespace CfsTelemetry.Uplink

/-- What a command asks for. -/
inductive Request where
  /-- Nothing that can be carried out. -/
  | nothing
  /-- A reset of the local counters. -/
  | localReset
  /-- A message to another application. -/
  | send (message : Message)

/-- Whether a configuration payload is long enough and carries its own sum. -/
def configValid (cmd : ProcessUplinkCmd) : Bool :=
  let hdr := configPayloadHdr cmd
  !decide (cmd.payloadLength < configPayloadHdrSize) &&
    !decide (hdr.valueLength ≠ 4 ∨ configPayloadHdrSize + hdr.valueLength > cmd.payloadLength) &&
    !decide (hdr.checksum ≠ expectedChecksum cmd)

/-- What a counter-management command asks for. -/
def counterRequest (env : Env) (cmd : ProcessUplinkCmd) : Request :=
  if cmd.payloadLength < 6 then .nothing
  else if cmd.byte 1 ≠ 0 then .nothing
  else
    match CounterScope.ofByte (cmd.byte 0) with
    | none => .nothing
    | some .uplink => .localReset
    | some target => if env.setFcnCode then .send (.resetCounters target) else .nothing

/-- What a command asks for, given its class, its payload and the bus. -/
def request (env : Env) (cmd : ProcessUplinkCmd) (s : State) : Request :=
  match CommandClass.ofByte cmd.commandClass with
  | some .routeUpdate =>
    match parseRouteUpdatePayload cmd with
    | none => .nothing
    | some payload => .send (.routeUpdate (routeUpdateTlm cmd payload s))
  | some .recovery =>
    if cmd.payloadLength < 8 then .nothing else .send (.recovery (recoveryTlm cmd s))
  | some .viewpoint =>
    match parseViewpointPayload cmd with
    | none => .nothing
    | some payload => .send (.viewpoint (viewpointTlm cmd payload s))
  | some .config => if configValid cmd then .send (.config (configTlm cmd s)) else .nothing
  | some .mode => if cmd.payloadLength < 6 then .nothing else .send (.mode (modeTlm cmd s))
  | some .diagnostic =>
    if cmd.payloadLength < 6 then .nothing else .send (.diagnostic (diagnosticTlm cmd s))
  | some .counterMgmt => counterRequest env cmd
  | some .flightMode =>
    match parseFlightModePayload cmd with
    | none => .nothing
    | some payload =>
      if env.setFcnCode then .send (.flightMode (flightModeCmd cmd payload)) else .nothing
  | _ => .nothing

/-- How the handler ends a command. -/
inductive Ending where
  /-- The command was the last accepted one, received again. -/
  | duplicate
  /-- The command was refused, or could not be put into a message. -/
  | refused
  /-- The bus did not take the message of the command. -/
  | undelivered (message : Message)
  /-- The local counters were reset. -/
  | reset
  /-- The message of the command was delivered. -/
  | accepted (message : Message)

namespace Ending

/-- What the handler does apart from publishing the status, newest first. -/
def effects : Ending → List Output
  | duplicate => []
  | refused => []
  | undelivered message => [.transmit message false]
  | reset => [.countersReset]
  | accepted message => [.transmit message true]

/-- The verdicts an ending gives. -/
def Gives : Ending → Result → Prop
  | duplicate, result => result = .duplicate
  | refused, result | undelivered _, result =>
    result ∉ [Result.none, .accept, .reject, .routed, .duplicate, .executedOk, .executedFailed]
  | reset, result | accepted _, result => result = .routed

/-- Whether an ending commits the replay state. -/
def commits : Ending → Bool
  | accepted _ => true
  | _ => false

end Ending

/-- How an admitted command ends, given what it asks for. -/
def Request.ending (env : Env) : Request → Ending
  | nothing => .refused
  | localReset => .reset
  | send message => if env.transmit then .accepted message else .undelivered message

/-- How the handler ends a command in a state. -/
def ending (env : Env) (cmd : ProcessUplinkCmd) (s : State) : Ending :=
  if checkSequence s cmd.sequence = .duplicate then .duplicate
  else if Admits s cmd then (request env cmd (receive env cmd s)).ending env
  else .refused

/-- What a handler leaves of the state before it: the outputs with some effects before them,
the replay state, and the sequence received. -/
structure Performs (s after : State) (effects : List Output) : Prop where
  /-- The effects come before the outputs there were. -/
  outputs : after.outputs = effects ++ s.outputs
  /-- The accepted count stays. -/
  acceptedCount : after.acceptedCount = s.acceptedCount
  /-- The last accepted sequence stays. -/
  lastAcceptedSequence : after.lastAcceptedSequence = s.lastAcceptedSequence
  /-- The state file stays. -/
  stateFile : after.stateFile = s.stateFile
  /-- The sequence received stays. -/
  lastRxSequence : after.lastRxSequence = s.lastRxSequence

/-- Nothing is done by doing nothing. -/
theorem Performs.refl (s : State) : Performs s s [] := ⟨rfl, rfl, rfl, rfl, rfl⟩

/-- Effects add up. -/
theorem Performs.trans {s middle after : State} {first second : List Output}
    (performs : Performs s middle first) (continues : Performs middle after second) :
    Performs s after (second ++ first) where
  outputs := by rw [continues.outputs, performs.outputs, List.append_assoc]
  acceptedCount := continues.acceptedCount.trans performs.acceptedCount
  lastAcceptedSequence := continues.lastAcceptedSequence.trans performs.lastAcceptedSequence
  stateFile := continues.stateFile.trans performs.stateFile
  lastRxSequence := continues.lastRxSequence.trans performs.lastRxSequence

/-- The outputs after a publication of the status of a command. -/
structure Publishes (env : Env) (cmd : ProcessUplinkCmd) (after : State)
    (outputs : List Output) : Prop where
  /-- One status comes before the outputs, and reports the command and its verdict. -/
  status : ∃ tlm, after.outputs = .transmit (.status tlm) env.reportTransmit :: outputs ∧
    tlm.lastCommandSequence = cmd.sequence ∧ tlm.lastCommandResult = after.lastCommandResult.code

/-- A state after a command that ended in one of the five ways. -/
structure EndsAs (env : Env) (cmd : ProcessUplinkCmd) (s after : State) (way : Ending) :
    Prop where
  /-- The command is the last one received. -/
  received : after.lastRxSequence = cmd.sequence
  /-- The verdict is one of those of the ending. -/
  verdict : way.Gives after.lastCommandResult
  /-- The status follows the effects. -/
  published : Publishes env cmd after (way.effects ++ s.outputs)
  /-- Only a commit counts the command as accepted. -/
  acceptedCount : after.acceptedCount = if way.commits then s.acceptedCount + 1
    else s.acceptedCount
  /-- Only a commit moves the last accepted sequence. -/
  lastAcceptedSequence : after.lastAcceptedSequence = if way.commits then cmd.sequence.toUInt32
    else s.lastAcceptedSequence
  /-- Only a commit that saves its state touches the state file. -/
  stateFile : ¬ (way.commits ∧ env.save = .renamed) → after.stateFile = s.stateFile
  /-- A commit that saves its state saves the sequence of the command. -/
  saved : way.commits → env.save = .renamed → savedSequence after = some cmd.sequence.toUInt32

variable {env : Env} {cmd : ProcessUplinkCmd} {s middle : State}

/-! ## The exits -/

/-- Publishing the status after some effects ends a command that is not committed. -/
theorem updateStatusTelemetry_endsAs {way : Ending} (uncommitted : way.commits = false)
    (performs : Performs (receive env cmd s) middle way.effects)
    (gives : way.Gives middle.lastCommandResult) :
    EndsAs env cmd s (updateStatusTelemetry env 0 middle) way where
  received := performs.lastRxSequence
  verdict := gives
  published := ⟨⟨_, congrArg _ performs.outputs, performs.lastRxSequence, rfl⟩⟩
  acceptedCount := by
    rw [uncommitted]
    exact performs.acceptedCount
  lastAcceptedSequence := by
    rw [uncommitted]
    exact performs.lastAcceptedSequence
  stateFile := fun _ => performs.stateFile
  saved := fun committed => absurd committed (by simp [uncommitted])

/-- A rejection ends a command that is not committed. -/
theorem rejectCommand_endsAs (way : Ending) {result : Result} (id : EventId) (text : String)
    (uncommitted : way.commits = false)
    (performs : Performs (receive env cmd s) middle way.effects) (gives : way.Gives result) :
    EndsAs env cmd s (rejectCommand env result id text middle) way :=
  updateStatusTelemetry_endsAs uncommitted ⟨performs.outputs, performs.acceptedCount,
    performs.lastAcceptedSequence, performs.stateFile, performs.lastRxSequence⟩ gives

/-- A routing failure ends a command that is not committed. -/
theorem failRouting_endsAs (way : Ending) {result : Result} (target : RouteTarget)
    (text : String) (uncommitted : way.commits = false)
    (performs : Performs (receive env cmd s) middle way.effects) (gives : way.Gives result) :
    EndsAs env cmd s (failRouting env result target text middle) way :=
  updateStatusTelemetry_endsAs uncommitted ⟨performs.outputs, performs.acceptedCount,
    performs.lastAcceptedSequence, performs.stateFile, performs.lastRxSequence⟩ gives

/-- An answer to a duplicate ends the command as a duplicate. -/
theorem answerDuplicate_endsAs :
    EndsAs env cmd s (answerDuplicate env cmd (receive env cmd s)) .duplicate :=
  updateStatusTelemetry_endsAs rfl ⟨rfl, rfl, rfl, rfl, rfl⟩ rfl

/-- A save leaves the outputs, the replay state and the pair of the status. -/
theorem saveState_leaves (env : Env) (s : State) :
    (saveState env s).outputs = s.outputs ∧ (saveState env s).acceptedCount = s.acceptedCount ∧
      (saveState env s).lastAcceptedSequence = s.lastAcceptedSequence ∧
      (saveState env s).lastRxSequence = s.lastRxSequence ∧
      (saveState env s).lastCommandResult = s.lastCommandResult := by
  unfold saveState
  cases env.save <;> exact ⟨rfl, rfl, rfl, rfl, rfl⟩

/-- A save that does not end in a rename leaves the state file. -/
theorem saveState_stateFile (env : Env) (s : State) (failed : env.save ≠ .renamed) :
    (saveState env s).stateFile = s.stateFile := by
  unfold saveState
  cases io : env.save with
  | renamed => exact absurd io failed
  | openFailed _ => rfl
  | writeFailed _ => rfl
  | renameFailed _ => rfl

/-- A save that ends in a rename saves the last accepted sequence. -/
theorem savedSequence_saveState (env : Env) (s : State) (renamed : env.save = .renamed) :
    savedSequence (saveState env s) = some s.lastAcceptedSequence := by
  simp only [saveState, renamed, savedSequence]
  rw [checkState_persistentState]
  rfl

/-- The commit ends a command as accepted once its message was delivered. -/
theorem acceptCommand_endsAs {message : Message} (target : RouteTarget)
    (performs : Performs (receive env cmd s) middle [.transmit message true]) :
    EndsAs env cmd s (acceptCommand env cmd target middle) (.accepted message) := by
  obtain ⟨outputs, acceptedCount, lastAcceptedSequence, lastRxSequence, -⟩ :=
    saveState_leaves env { middle with
      cmdCounter := middle.cmdCounter + 1
      acceptedCount := middle.acceptedCount + 1
      lastAcceptedSequence := cmd.sequence.toUInt32 }
  refine ⟨lastRxSequence.trans performs.lastRxSequence, rfl,
    ⟨_, congrArg _ (outputs.trans performs.outputs),
      lastRxSequence.trans performs.lastRxSequence, rfl⟩,
    acceptedCount.trans ?_, lastAcceptedSequence, fun unsaved => ?_, fun _ renamed => ?_⟩
  · rw [show middle.acceptedCount = s.acceptedCount from performs.acceptedCount]
    rfl
  · exact (saveState_stateFile env _ fun renamed => unsaved ⟨rfl, renamed⟩).trans
      performs.stateFile
  · exact savedSequence_saveState env _ renamed

/-- What a forwarding function does with what a command asks for. -/
def Forwards (env : Env) (s : State) : Request → Bool × State → Prop
  | .nothing, forwarded => forwarded.1 = false ∧ Performs s forwarded.2 []
  | .localReset, forwarded => forwarded.1 = true ∧ Performs s forwarded.2 [.countersReset]
  | .send message, forwarded => forwarded.1 = env.transmit ∧
      Performs s forwarded.2 [.transmit message env.transmit]

/-- A command that cannot be put into a message is not forwarded. -/
theorem unforwarded_forwards {env : Env} {s after : State} (quiet : Performs s after []) :
    Forwards env s .nothing (false, after) := ⟨rfl, quiet⟩

/-- A message given to the bus is forwarded. -/
theorem transmitMsg_forwards (env : Env) (message : Message) (s : State) :
    Forwards env s (.send message) (env.transmit, transmitMsg message env.transmit s) :=
  ⟨rfl, rfl, rfl, rfl, rfl, rfl⟩

/-- A command that has the length of its message is forwarded. -/
theorem lengthChecked_forwards (env : Env) {short : Prop} [Decidable short] (message : Message)
    (s : State) :
    Forwards env s (if short then .nothing else .send message)
      (if short then (false, s) else (env.transmit, transmitMsg message env.transmit s)) := by
  split
  · exact unforwarded_forwards (.refl s)
  · exact transmitMsg_forwards env message s

/-- A command that is finished by the common exit ends as what it asks for does. -/
theorem finish_endsAs {asked : Request} {forwarded : Bool × State} (target : RouteTarget)
    (text : String) (performs : Performs (receive env cmd s) middle [])
    (forwards : Forwards env middle asked forwarded) (remote : asked ≠ .localReset) :
    EndsAs env cmd s (finish env cmd target text forwarded) (asked.ending env) := by
  have refusal : Ending.refused.Gives .failed := by
    change Result.failed ∉ _
    decide
  cases asked with
  | nothing =>
    obtain ⟨failed, quiet⟩ := forwards
    simpa [finish, failed, Request.ending] using
      failRouting_endsAs .refused target text rfl (performs.trans quiet) refusal
  | localReset => exact absurd rfl remote
  | send message =>
    obtain ⟨sent, effects⟩ := forwards
    cases taken : env.transmit with
    | false =>
      rw [taken] at sent effects
      simpa [finish, sent, Request.ending, taken] using
        failRouting_endsAs (.undelivered message) target text rfl
          (performs.trans effects) refusal
    | true =>
      rw [taken] at sent effects
      simpa [finish, sent, Request.ending, taken] using
        acceptCommand_endsAs target (performs.trans effects)

/-- Configuration commands are forwarded when they are valid. -/
theorem forwardConfigCommand_forwards (env : Env) (cmd : ProcessUplinkCmd) (s : State) :
    Forwards env s (if configValid cmd then .send (.config (configTlm cmd s)) else .nothing)
      (forwardConfigCommand env cmd s) := by
  unfold forwardConfigCommand
  by_cases short : cmd.payloadLength < configPayloadHdrSize
  · have invalid : configValid cmd = false := by simp [configValid, short]
    rw [if_pos short, invalid]
    exact unforwarded_forwards ⟨rfl, rfl, rfl, rfl, rfl⟩
  rw [if_neg short]
  by_cases wrong : (configPayloadHdr cmd).valueLength ≠ 4 ∨
      configPayloadHdrSize + (configPayloadHdr cmd).valueLength > cmd.payloadLength
  · have invalid : configValid cmd = false := by simp only [configValid, wrong]; simp
    rw [if_pos wrong, invalid]
    exact unforwarded_forwards ⟨rfl, rfl, rfl, rfl, rfl⟩
  rw [if_neg wrong]
  by_cases mismatch : (configPayloadHdr cmd).checksum ≠ expectedChecksum cmd
  · have invalid : configValid cmd = false := by simp [configValid, mismatch]
    rw [if_pos mismatch, invalid]
    exact unforwarded_forwards ⟨rfl, rfl, rfl, rfl, rfl⟩
  · have valid : configValid cmd = true := by simp only [configValid, short, wrong, mismatch]; rfl
    rw [if_neg mismatch, valid]
    exact ⟨rfl, rfl, rfl, rfl, rfl, rfl⟩

/-- Counter management forwards, or resets, what it is asked to. -/
theorem forwardCounterMgmtCommand_forwards (env : Env) (cmd : ProcessUplinkCmd) (s : State) :
    Forwards env s (counterRequest env cmd) (forwardCounterMgmtCommand env cmd s) := by
  unfold forwardCounterMgmtCommand counterRequest
  by_cases short : cmd.payloadLength < 6
  · rw [if_pos short, if_pos short]
    exact unforwarded_forwards (.refl s)
  by_cases action : cmd.byte 1 ≠ 0
  · rw [if_neg short, if_pos action, if_neg short, if_pos action]
    exact unforwarded_forwards (.refl s)
  rw [if_neg short, if_neg action, if_neg short, if_neg action]
  cases CounterScope.ofByte (cmd.byte 0) with
  | none => exact unforwarded_forwards (.refl s)
  | some scope =>
    cases env.setFcnCode <;> cases scope
    all_goals first
      | exact unforwarded_forwards (.refl s)
      | exact transmitMsg_forwards env _ s
      | exact ⟨rfl, rfl, rfl, rfl, rfl, rfl⟩

/-- Of the counter-management commands that ask for something, those for the uplink scope ask
for a local reset. -/
theorem counterRequest_eq_localReset (asks : counterRequest env cmd ≠ .nothing) :
    counterRequest env cmd = .localReset ↔ cmd.byte 0 = CounterScope.uplink.code := by
  unfold counterRequest at asks ⊢
  by_cases short : cmd.payloadLength < 6
  · exact absurd (if_pos short) asks
  by_cases action : cmd.byte 1 ≠ 0
  · exact absurd (by rw [if_neg short, if_pos action]) asks
  rw [if_neg short, if_neg action] at asks ⊢
  rw [← CounterScope.ofByte_eq_some]
  cases named : CounterScope.ofByte (cmd.byte 0) with
  | none => simp [named] at asks
  | some scope => cases scope <;> cases code : env.setFcnCode <;> simp

/-- Flight modes are forwarded when the payload is valid and the bus sets the code. -/
theorem forwardFlightModeCommand_forwards (env : Env) (cmd : ProcessUplinkCmd)
    (payload : FlightModePayload) (s : State) :
    Forwards env s
      (if env.setFcnCode then .send (.flightMode (flightModeCmd cmd payload)) else .nothing)
      (forwardFlightModeCommand env cmd payload s) := by
  unfold forwardFlightModeCommand
  cases env.setFcnCode
  · exact unforwarded_forwards (.refl s)
  · exact ⟨rfl, rfl, rfl, rfl, rfl, rfl⟩

/-- A local reset of the counters ends the command there; every other counter-management
command goes through the common exit. -/
theorem finishCounterMgmt_endsAs {asked : Request} {forwarded : Bool × State}
    (target : RouteTarget) (performs : Performs (receive env cmd s) middle [])
    (forwards : Forwards env middle asked forwarded)
    (scope : asked ≠ .nothing → (asked = .localReset ↔ cmd.byte 0 = CounterScope.uplink.code)) :
    EndsAs env cmd s (finishCounterMgmt env cmd target forwarded) (asked.ending env) := by
  have refusal : Ending.refused.Gives .rejectCounter := by
    change Result.rejectCounter ∉ _
    decide
  cases asked with
  | nothing =>
    obtain ⟨failed, quiet⟩ := forwards
    simpa [finishCounterMgmt, failed, Request.ending] using
      rejectCommand_endsAs .refused .commandErr
        s!"UPLINK_APP: failed counter management command seq={cmd.sequence}" rfl
        (performs.trans quiet) refusal
  | localReset =>
    obtain ⟨done, effects⟩ := forwards
    have here := (scope (by simp)).mp rfl
    have whole := performs.trans effects
    simp only [finishCounterMgmt, done, Bool.not_true, Bool.false_eq_true, if_false, here, if_true]
    exact updateStatusTelemetry_endsAs rfl ⟨whole.outputs, whole.acceptedCount,
      whole.lastAcceptedSequence, whole.stateFile, whole.lastRxSequence⟩ rfl
  | send message =>
    obtain ⟨sent, effects⟩ := forwards
    have elsewhere : cmd.byte 0 ≠ CounterScope.uplink.code := fun here =>
      Request.noConfusion ((scope (by simp)).mpr here)
    cases taken : env.transmit with
    | false =>
      rw [taken] at sent effects
      simpa [finishCounterMgmt, sent, Request.ending, taken] using
        rejectCommand_endsAs (.undelivered message) .commandErr
          s!"UPLINK_APP: failed counter management command seq={cmd.sequence}" rfl
          (performs.trans effects) refusal
    | true =>
      rw [taken] at sent effects
      simpa [finishCounterMgmt, sent, elsewhere, Request.ending, taken] using
        acceptCommand_endsAs target (performs.trans effects)

/-! ## The handler -/

/-- A refused verdict is not one that another ending gives. -/
private theorem refusal_gives {result : Result}
    (refusal : result ∈ [Result.failed, .rejectVersion, .rejectClass, .rejectLength, .routeMiss,
      .rejectRoute, .rejectSequence, .rejectState, .rejectChecksum, .rejectViewpoint,
      .rejectCounter, .rejectFlightMode]) : Ending.refused.Gives result := by
  change result ∉ _
  cases result <;> first | decide | exact absurd refusal (by decide)

/-- Carrying out a command of a known class ends as what it asks for does. -/
theorem carryOut_endsAs (target : RouteTarget) (performs : Performs (receive env cmd s) middle [])
    (known : knownClass cmd.commandClass = true) :
    EndsAs env cmd s (carryOut env cmd target middle) ((request env cmd middle).ending env) := by
  unfold carryOut request
  cases named : CommandClass.ofByte cmd.commandClass with
  | none => simp [knownClass, named] at known
  | some commandClass =>
    cases commandClass <;> dsimp only
    case none => simp [knownClass, named] at known
    case config =>
      refine finish_endsAs target _ performs (forwardConfigCommand_forwards env cmd middle) ?_
      split <;> rintro ⟨⟩
    case routeUpdate =>
      cases parsed : parseRouteUpdatePayload cmd with
      | none => exact rejectCommand_endsAs .refused _ _ rfl performs (refusal_gives (by decide))
      | some payload =>
        exact finish_endsAs target _ performs (transmitMsg_forwards env _ middle) (by rintro ⟨⟩)
    case viewpoint =>
      cases parsed : parseViewpointPayload cmd with
      | none => exact rejectCommand_endsAs .refused _ _ rfl performs (refusal_gives (by decide))
      | some payload =>
        exact finish_endsAs target _ performs (transmitMsg_forwards env _ middle) (by rintro ⟨⟩)
    case recovery =>
      refine finish_endsAs target _ performs (lengthChecked_forwards env _ middle) ?_
      split <;> rintro ⟨⟩
    case mode =>
      refine finish_endsAs target _ performs (lengthChecked_forwards env _ middle) ?_
      split <;> rintro ⟨⟩
    case diagnostic =>
      refine finish_endsAs target _ performs (lengthChecked_forwards env _ middle) ?_
      split <;> rintro ⟨⟩
    case counterMgmt =>
      exact finishCounterMgmt_endsAs target performs
        (forwardCounterMgmtCommand_forwards env cmd middle) counterRequest_eq_localReset
    case flightMode =>
      cases parsed : parseFlightModePayload cmd with
      | none => exact rejectCommand_endsAs .refused _ _ rfl performs (refusal_gives (by decide))
      | some payload =>
        dsimp only
        refine finish_endsAs target _ performs
          (forwardFlightModeCommand_forwards env cmd payload middle) ?_
        split <;> rintro ⟨⟩

/-- The health gate blocks what it refuses. -/
theorem healthGate_fst (cmd : ProcessUplinkCmd) (s : State) :
    (healthGate cmd s).1 = healthRefuses s.cfsHealthState cmd := by
  unfold healthGate healthRefuses
  dsimp only
  cases healthBlocks s.cfsHealthState cmd <;> cases reducesRisk cmd <;> cases forced cmd <;> rfl

/-- The health gate sends events only. -/
theorem healthGate_snd (cmd : ProcessUplinkCmd) (s : State) :
    Performs s (healthGate cmd s).2 [] ∧
      (healthGate cmd s).2.sequenceCounter = s.sequenceCounter ∧
      (healthGate cmd s).2.lastRxTimeMs = s.lastRxTimeMs := by
  unfold healthGate
  dsimp only
  cases healthBlocks s.cfsHealthState cmd <;> cases reducesRisk cmd <;> cases forced cmd <;>
    exact ⟨⟨rfl, rfl, rfl, rfl, rfl⟩, rfl, rfl⟩

/-- What a command asks for depends on the publication sequence and the reception time. -/
theorem request_congr {first second : State}
    (sequenceCounter : first.sequenceCounter = second.sequenceCounter)
    (lastRxTimeMs : first.lastRxTimeMs = second.lastRxTimeMs) :
    request env cmd first = request env cmd second := by
  unfold request routeUpdateTlm recoveryTlm viewpointTlm configTlm modeTlm diagnosticTlm
  rw [sequenceCounter, lastRxTimeMs]

/-- A known class has a route target. -/
theorem resolveRouteTarget_known {byte : UInt8} (known : knownClass byte = true) :
    resolveRouteTarget byte ≠ .none := by
  unfold knownClass at known
  unfold resolveRouteTarget
  split at known <;> simp_all

/-- A valid command is of a known class. -/
theorem knownClass_of_valid (valid : validateProxyCommand cmd = .ok ()) :
    knownClass cmd.commandClass = true := by
  unfold validateProxyCommand at valid
  by_contra unknown
  rw [Bool.not_eq_true] at unknown
  simp only [unknown] at valid
  split at valid
  · cases valid
  · split at valid <;> cases valid

/-- A verdict of the checks of the fields is one of a refusal. -/
theorem refused_gives_of_field {result : Result} (field : result ∈ fieldVerdicts) :
    Ending.refused.Gives result := by
  change result ∉ _
  cases result <;> first | decide | exact absurd field (by decide)

/-- What the handler does with a command: it answers a duplicate, rejects what is not admitted,
as it was received or behind the health gate, and carries out what is admitted. -/
inductive Handled (env : Env) (cmd : ProcessUplinkCmd) (s : State) : State → Prop
  | duplicate (repeated : checkSequence s cmd.sequence = .duplicate) :
      Handled env cmd s (answerDuplicate env cmd (receive env cmd s))
  | refused {result : Result} {id : EventId} {text : String} {middle : State}
      (fresh : checkSequence s cmd.sequence ≠ .duplicate) (barred : ¬ Admits s cmd)
      (gives : Ending.refused.Gives result)
      (stage : middle = receive env cmd s ∨ middle = (healthGate cmd (receive env cmd s)).2) :
      Handled env cmd s (rejectCommand env result id text middle)
  | admitted (admits : Admits s cmd) :
      Handled env cmd s (carryOut env cmd (resolveRouteTarget cmd.commandClass)
        (healthGate cmd (receive env cmd s)).2)

/-- A valid command with a new sequence is carried out or stopped by one of the gates. -/
theorem gateCommand_handled (sequence : checkSequence s cmd.sequence = .new)
    (valid : validateProxyCommand cmd = .ok ()) :
    Handled env cmd s (gateCommand env cmd (receive env cmd s)) := by
  have fresh : checkSequence s cmd.sequence ≠ .duplicate := by
    rw [sequence]
    decide
  have gives : Ending.refused.Gives .rejectState := refusal_gives (by decide)
  unfold gateCommand
  simp only [resolveRouteTarget_known (knownClass_of_valid valid), if_false, healthGate_fst]
  by_cases health : s.cfsHealthReceived = true
  · have heard : (receive env cmd s).cfsHealthReceived = true := health
    have same : healthRefuses (receive env cmd s).cfsHealthState cmd =
        healthRefuses s.cfsHealthState cmd := rfl
    simp only [heard, same, Bool.not_true, Bool.false_eq_true, if_false]
    cases healthy : healthRefuses s.cfsHealthState cmd with
    | true =>
      have barred : ¬ Admits s cmd := fun admits => by simpa [healthy] using admits.healthy
      exact .refused fresh barred gives (.inr rfl)
    | false =>
      simp only [Bool.false_eq_true, if_false]
      cases authorized : isAuthorized cmd (requestToken cmd) with
      | false =>
        have barred : ¬ Admits s cmd := fun admits => by
          simpa [authorized] using admits.authorized
        exact .refused fresh barred gives (.inr rfl)
      | true => exact .admitted ⟨sequence, valid, health, healthy, authorized⟩
  · have barred : ¬ Admits s cmd := fun admits => health admits.healthReceived
    have unheard : (receive env cmd s).cfsHealthReceived = false := Bool.not_eq_true _ ▸ health
    simp only [unheard, Bool.not_false, if_true]
    exact .refused fresh barred gives (.inl rfl)

/-- The handler does one of three things with a command. -/
theorem processUplink_handled (env : Env) (cmd : ProcessUplinkCmd) (s : State) :
    Handled env cmd s (processUplink env cmd s) := by
  have unchanged : checkSequence (receive env cmd s) cmd.sequence = checkSequence s cmd.sequence :=
    rfl
  unfold processUplink
  simp only [unchanged]
  cases sequence : checkSequence s cmd.sequence with
  | duplicate => exact .duplicate sequence
  | replay =>
    have barred : ¬ Admits s cmd := fun admits => by simpa [sequence] using admits.new
    exact .refused (by rw [sequence]; decide) barred (refusal_gives (by decide)) (.inl rfl)
  | new =>
    cases valid : validateProxyCommand cmd with
    | error result =>
      have barred : ¬ Admits s cmd := fun admits => by simpa [valid] using admits.valid
      exact .refused (by rw [sequence]; decide) barred
        (refused_gives_of_field (validateProxyCommand_verdict valid)) (.inl rfl)
    | ok => exact gateCommand_handled sequence valid

/-- The handler ends every command in the way `ending` says. -/
theorem processUplink_endsAs (env : Env) (cmd : ProcessUplinkCmd) (s : State) :
    EndsAs env cmd s (processUplink env cmd s) (ending env cmd s) := by
  obtain ⟨quiet, sequenceCounter, lastRxTimeMs⟩ := healthGate_snd cmd (receive env cmd s)
  unfold ending
  have handled := processUplink_handled env cmd s
  generalize processUplink env cmd s = after at handled ⊢
  cases handled with
  | duplicate repeated =>
    rw [if_pos repeated]
    exact answerDuplicate_endsAs
  | refused fresh barred gives stage =>
    rw [if_neg fresh, if_neg barred]
    rcases stage with rfl | rfl
    · exact rejectCommand_endsAs .refused _ _ rfl (.refl _) gives
    · exact rejectCommand_endsAs .refused _ _ rfl quiet gives
  | admitted admits =>
    have fresh : checkSequence s cmd.sequence ≠ .duplicate := by
      rw [admits.new]
      decide
    rw [if_neg fresh, if_pos admits, ← request_congr sequenceCounter lastRxTimeMs]
    exact carryOut_endsAs _ quiet (knownClass_of_valid admits.valid)

/-- An admitted command ends as what it asks for does. -/
theorem ending_admitted (admits : Admits s cmd) :
    ending env cmd s = (request env cmd (receive env cmd s)).ending env := by
  have fresh : checkSequence s cmd.sequence ≠ .duplicate := by
    rw [admits.new]
    decide
  rw [ending, if_neg fresh, if_pos admits]

/-- A command that is not admitted is a duplicate or refused. -/
theorem ending_barred (env : Env) (barred : ¬ Admits s cmd) :
    ending env cmd s = .duplicate ∧ checkSequence s cmd.sequence = .duplicate ∨
      ending env cmd s = .refused := by
  by_cases duplicate : checkSequence s cmd.sequence = .duplicate
  · exact .inl ⟨if_pos duplicate, duplicate⟩
  · exact .inr ((if_neg duplicate).trans (if_neg barred))

/-- A command is accepted when it is admitted and its message is delivered. -/
theorem ending_eq_accepted {message : Message} :
    ending env cmd s = .accepted message ↔
      Admits s cmd ∧ request env cmd (receive env cmd s) = .send message ∧ env.transmit = true := by
  by_cases admits : Admits s cmd
  · rw [ending_admitted admits]
    cases request env cmd (receive env cmd s) with
    | nothing => simp [Request.ending]
    | localReset => simp [Request.ending]
    | send asked => cases taken : env.transmit <;> simp [Request.ending, taken, admits]
  · rcases ending_barred env admits with ⟨way, -⟩ | way <;> simp [way, admits]

/-- A command ends in a reset when it is admitted and asks for one. -/
theorem ending_eq_reset :
    ending env cmd s = .reset ↔
      Admits s cmd ∧ request env cmd (receive env cmd s) = .localReset := by
  by_cases admits : Admits s cmd
  · rw [ending_admitted admits]
    cases request env cmd (receive env cmd s) with
    | nothing => simp [Request.ending]
    | localReset => simp [Request.ending, admits]
    | send asked => cases taken : env.transmit <;> simp [Request.ending, taken]
  · rcases ending_barred env admits with ⟨way, -⟩ | way <;> simp [way, admits]

/-- An effect of a command is one that it asks for, once admitted. -/
theorem mem_effects {output : Output} (effect : output ∈ (ending env cmd s).effects) :
    Admits s cmd ∧
      ((∃ message taken, output = .transmit message taken ∧
          request env cmd (receive env cmd s) = .send message) ∨
        output = .countersReset ∧ request env cmd (receive env cmd s) = .localReset) := by
  by_cases admits : Admits s cmd
  · refine ⟨admits, ?_⟩
    rw [ending_admitted admits] at effect
    cases asked : request env cmd (receive env cmd s) with
    | nothing => simp [asked, Request.ending, Ending.effects] at effect
    | localReset =>
      simp only [asked, Request.ending, Ending.effects, List.mem_singleton] at effect
      exact .inr ⟨effect, rfl⟩
    | send message =>
      cases taken : env.transmit <;>
        simp only [asked, Request.ending, taken, Bool.false_eq_true, if_true, if_false,
          Ending.effects, List.mem_singleton] at effect <;>
        exact .inl ⟨message, _, effect, rfl⟩
  · rcases ending_barred env admits with ⟨way, -⟩ | way <;> simp [way, Ending.effects] at effect

/-- A command ends as a duplicate when its sequence is the last accepted one. -/
theorem ending_eq_duplicate (env : Env) :
    ending env cmd s = .duplicate ↔ checkSequence s cmd.sequence = .duplicate := by
  by_cases admits : Admits s cmd
  · rw [ending_admitted admits, admits.new]
    cases request env cmd (receive env cmd s) with
    | nothing => simp [Request.ending]
    | localReset => simp [Request.ending]
    | send asked => cases taken : env.transmit <;> simp [Request.ending, taken]
  · unfold ending
    split <;> simp [*]

end CfsTelemetry.Uplink
