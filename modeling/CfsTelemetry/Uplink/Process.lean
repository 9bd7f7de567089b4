import CfsTelemetry.Library.Run
import CfsTelemetry.Uplink.Forward

/-!
# The handlers of the uplink application

`processUplink` takes a ground command through the checks and carries it out; the other
handlers take execution results, the messages the application mirrors, and the timeouts of its
bus. Every exit of `processUplink` publishes the status.
-/
namespace CfsTelemetry.Uplink

/-- Note the reception of a command. -/
def receive (env : Env) (cmd : ProcessUplinkCmd) (s : State) : State :=
  { s with
    lastRxTimeMs := env.nowMs
    lastCommandCode := cmd.commandClass.toUInt16
    lastRxSequence := cmd.sequence }

/-- Answer a command received again. -/
def answerDuplicate (env : Env) (cmd : ProcessUplinkCmd) (s : State) : State :=
  updateStatusTelemetry env 0 (sendEvent .duplicate .debug
    (s!"UPLINK_APP: duplicate uplink seq={cmd.sequence} " ++
      s!"retx={(cmd.flags >>> 1) &&& (3 : UInt8)} (retransmit slot)")
    { s with duplicateCount := s.duplicateCount + 1, lastCommandResult := .duplicate })

/-- Reject a command with a verdict and an event. -/
def rejectCommand (env : Env) (result : Result) (id : EventId) (text : String) (s : State) :
    State :=
  updateStatusTelemetry env 0 (sendEvent id .error text { s with
    errCounter := s.errCounter + 1
    rejectedCount := s.rejectedCount + 1
    lastCommandResult := result
    linkState := .degraded })

/-- Report that a command could not be routed, with a verdict, a target and an event. -/
def failRouting (env : Env) (result : Result) (target : RouteTarget) (text : String)
    (s : State) : State :=
  updateStatusTelemetry env 0 (sendEvent .commandErr .error text { s with
    errCounter := s.errCounter + 1
    routingFailureCount := s.routingFailureCount + 1
    lastCommandResult := result
    lastRouteTarget := target
    linkState := .degraded })

/-- Commit a command that has been routed. -/
def acceptCommand (env : Env) (cmd : ProcessUplinkCmd) (target : RouteTarget) (s : State) :
    State :=
  let saved := saveState env { s with
    cmdCounter := s.cmdCounter + 1
    acceptedCount := s.acceptedCount + 1
    lastAcceptedSequence := cmd.sequence.toUInt32 }
  updateStatusTelemetry env 0 (sendEvent .publish .information
    (s!"UPLINK_APP: routed uplink class={cmd.commandClass} seq={cmd.sequence} " ++
      s!"target={target.code} payload_len={cmd.payloadLength} " ++
      s!"retx={(cmd.flags >>> 1) &&& (3 : UInt8)}")
    { saved with lastCommandResult := .routed, lastRouteTarget := target, linkState := .nominal })

/-- Finish a command that a forwarding function was asked to carry out. -/
def finish (env : Env) (cmd : ProcessUplinkCmd) (target : RouteTarget) (text : String)
    (forwarded : Bool × State) : State :=
  if !forwarded.1 then failRouting env .failed target text forwarded.2
  else acceptCommand env cmd target forwarded.2

/-- Finish a counter-management command. A reset of the local counters ends here, without the
commit that every other command goes through. -/
def finishCounterMgmt (env : Env) (cmd : ProcessUplinkCmd) (target : RouteTarget)
    (forwarded : Bool × State) : State :=
  if !forwarded.1 then
    rejectCommand env .rejectCounter .commandErr
      s!"UPLINK_APP: failed counter management command seq={cmd.sequence}" forwarded.2
  else if cmd.byte 0 = CounterScope.uplink.code then
    updateStatusTelemetry env 0 { forwarded.2 with
      rejectedCount := 0
      duplicateCount := 0
      routingFailureCount := 0
      lastCommandResult := .routed }
  else acceptCommand env cmd target forwarded.2

/-- Carry out an admitted command according to its class. -/
def carryOut (env : Env) (cmd : ProcessUplinkCmd) (target : RouteTarget) (s : State) : State :=
  match CommandClass.ofByte cmd.commandClass with
  | some .routeUpdate =>
    match parseRouteUpdatePayload cmd with
    | none => rejectCommand env .rejectRoute .commandErr
        (s!"UPLINK_APP: invalid route update payload seq={cmd.sequence} " ++
          s!"len={cmd.payloadLength}") s
    | some payload => finish env cmd target
        (s!"UPLINK_APP: failed to publish route update seq={cmd.sequence} " ++
          s!"type={payload.routeType} count={payload.waypointCount}")
        (publishRouteUpdate env cmd payload s)
  | some .recovery => finish env cmd target
      s!"UPLINK_APP: failed to forward recovery command seq={cmd.sequence}"
      (forwardRecoveryCommand env cmd s)
  | some .viewpoint =>
    match parseViewpointPayload cmd with
    | none => rejectCommand env .rejectViewpoint .commandErr
        (s!"UPLINK_APP: invalid viewpoint payload seq={cmd.sequence} " ++
          s!"len={cmd.payloadLength}") s
    | some payload => finish env cmd target
        s!"UPLINK_APP: failed to forward viewpoint command seq={cmd.sequence}"
        (forwardViewpointCommand env cmd payload s)
  | some .config => finish env cmd target
      s!"UPLINK_APP: failed to forward config command seq={cmd.sequence}"
      (forwardConfigCommand env cmd s)
  | some .mode => finish env cmd target
      s!"UPLINK_APP: failed to forward mode command seq={cmd.sequence}"
      (forwardModeCommand env cmd s)
  | some .diagnostic => finish env cmd target
      s!"UPLINK_APP: failed to forward diagnostic command seq={cmd.sequence}"
      (forwardDiagnosticCommand env cmd s)
  | some .counterMgmt => finishCounterMgmt env cmd target (forwardCounterMgmtCommand env cmd s)
  | some .flightMode =>
    match parseFlightModePayload cmd with
    | none => rejectCommand env .rejectFlightMode .commandErr
        (s!"UPLINK_APP: invalid flight mode payload seq={cmd.sequence} " ++
          s!"len={cmd.payloadLength}") s
    | some payload => finish env cmd target
        s!"UPLINK_APP: failed to forward flight mode command seq={cmd.sequence}"
        (forwardFlightModeCommand env cmd payload s)
  | _ => acceptCommand env cmd target s

/-- Carry out a command that has passed the sequence check and its own checks, unless it has
no target, or the health or the authorization stops it. -/
def gateCommand (env : Env) (cmd : ProcessUplinkCmd) (s : State) : State :=
  let target := resolveRouteTarget cmd.commandClass
  if target = .none then
    failRouting env .routeMiss .none
      s!"UPLINK_APP: no route target for uplink class={cmd.commandClass} seq={cmd.sequence}" s
  else if !s.cfsHealthReceived then
    rejectCommand env .rejectState .stateBlock
      (s!"UPLINK_APP: command blocked (no health yet) class={cmd.commandClass} " ++
        s!"seq={cmd.sequence}") s
  else
    let gate := healthGate cmd s
    if gate.1 then
      rejectCommand env .rejectState .stateBlock
        (s!"UPLINK_APP: command blocked by health state={s.cfsHealthState} " ++
          s!"class={cmd.commandClass} seq={cmd.sequence}") gate.2
    else if !isAuthorized cmd (requestToken cmd) then
      rejectCommand env .rejectState .authzBlock
        (s!"UPLINK_APP: command blocked (insufficient auth) auth={authLevel cmd} " ++
          s!"required={getClassRequiredLevel cmd.commandClass} class={cmd.commandClass} " ++
          s!"seq={cmd.sequence}") gate.2
    else carryOut env cmd target gate.2

/-- Handle a ground command. -/
def processUplink (env : Env) (cmd : ProcessUplinkCmd) (s : State) : State :=
  let s := receive env cmd s
  match checkSequence s cmd.sequence with
  | .duplicate => answerDuplicate env cmd s
  | .replay => rejectCommand env .rejectSequence .commandErr
      (s!"UPLINK_APP: uplink proxy rejected replay seq={cmd.sequence} " ++
        s!"last={s.lastAcceptedSequence}") s
  | .new =>
    match validateProxyCommand cmd with
    | .error result => rejectCommand env result .commandErr
        (s!"UPLINK_APP: uplink proxy rejected class={cmd.commandClass} " ++
          s!"result={result.code} seq={cmd.sequence}") s
    | .ok () => gateCommand env cmd s

/-! ## The other handlers -/

/-- Count a command that does nothing. -/
def noop (s : State) : State :=
  sendEvent .noop .information "UPLINK_APP: NOOP" { s with cmdCounter := s.cmdCounter + 1 }

/-- Reset the diagnostic counters; the replay state stays. -/
def resetCounters (s : State) : State :=
  sendEvent .reset .information "UPLINK_APP: RESET" { s with
    cmdCounter := 0
    errCounter := 0
    rejectedCount := 0
    duplicateCount := 0
    routingFailureCount := 0
    lastCommandCode := 0
    lastCommandResult := .none
    lastRouteTarget := .none }

/-- Take the result of a command from the application that ran it, unless it is about another
command than the last accepted one. -/
def processExecResult (env : Env) (msg : ExecResult) (s : State) : State :=
  if msg.sourceSequence ≠ s.lastAcceptedSequence.toUInt16 then s
  else
    updateStatusTelemetry env 0 (sendEvent .publish .information
      (s!"UPLINK_APP: exec result seq={msg.sourceSequence} source_app={msg.sourceApp} " ++
        s!"class={msg.commandClass} generic={msg.genericResult} detail={msg.detailCode}")
      { s with lastCommandResult :=
          if msg.genericResult = 0 then .executedOk else .executedFailed })

/-- Session time after which a session counts as survived (`UPLINK_APP_BOOT_SURVIVE_MS`). -/
def bootSurviveMs : UInt32 := 120000

/-- Consecutive short boots that are suspect (`UPLINK_APP_BOOT_LOOP_THRESHOLD`). -/
def bootLoopThreshold : UInt8 := 5

/-- Mark the session as survived once it has lasted long enough. -/
def checkBootSurvival (env : Env) (s : State) : State :=
  if s.survivedMark ≠ 0 then s
  else if env.survivalMs - s.bootStartMs ≥ bootSurviveMs then
    sendEvent .startup .information
      s!"UPLINK_APP: boot survival marked (uptime >= {bootSurviveMs}ms)"
      (saveState env { s with survivedMark := 1 })
  else s

/-- Period of the spontaneous status (`UPLINK_APP_PROTOTYPE_PERIOD_MS`). -/
def prototypePeriodMs : UInt32 := 1000

/-- Serve a timeout of the bus: mark survival, and publish the status once a period. -/
def servicePrototype (env : Env) (s : State) : State :=
  let s := checkBootSurvival env s
  if env.nowMs - s.lastPublishTimeMs < prototypePeriodMs then s
  else updateStatusTelemetry env env.nowMs s

/-- Count this boot. -/
def incrementBootCount (env : Env) (s : State) : State :=
  saveState env { s with bootCount := s.bootCount + 1 }

/-- Judge the session before this one, and start this one unmarked. -/
def processBootMarker (env : Env) (resetType : UInt8) (s : State) : State :=
  let streak :=
    if s.prevSurvivedMark = 0 then
      if s.shortBootStreak < 255 then s.shortBootStreak + 1 else s.shortBootStreak
    else 0
  let judged := { s with
    bootStartMs := env.nowMs
    lastResetReason := resetType
    shortBootStreak := streak
    bootLoopSuspect := if streak ≥ bootLoopThreshold then 1 else 0 }
  let reported :=
    if judged.bootLoopSuspect ≠ 0 then
      sendEvent .startup .error
        s!"UPLINK_APP: boot loop suspect - {streak} consecutive short boots" judged
    else judged
  saveState env { reported with survivedMark := 0 }

/-- The state of an application that has just been loaded: zeroed memory, with what the
session before it left in the state file. -/
def bootState (stateFile : Option (List UInt8)) : State where
  cmdCounter := 0
  errCounter := 0
  sequenceCounter := 0
  publishCount := 0
  lastPublishTimeMs := 0
  lastRxTimeMs := 0
  acceptedCount := 0
  rejectedCount := 0
  duplicateCount := 0
  routingFailureCount := 0
  lastAcceptedSequence := 0
  bootCount := 0
  lastResetReason := 0
  survivedMark := 0
  prevSurvivedMark := 1
  shortBootStreak := 0
  bootLoopSuspect := 0
  bootStartMs := 0
  lastCommandCode := 0
  lastRxSequence := 0
  lastCommandResult := .none
  lastRouteTarget := .none
  linkState := .nominal
  valid := 1
  activeTransportId := 0
  configPendingState := .idle
  lastConfigResult := 0
  lastRollbackReason := 0
  cfsHealthState := 0
  cfsHealthReceived := false
  fcMissionResult := 0
  fcMissionUploadState := 0
  fcMissionUploadSuccessCount := 0
  flightModeCtrlCmd := ⟨0, 0, 0⟩
  outputs := []
  events := []
  stateFile := stateFile

/-- Initialise the application; the two saves may end differently. -/
def init (load : LoadIo) (resetType : UInt8) (countEnv markerEnv : Env)
    (stateFile : Option (List UInt8)) : State :=
  sendEvent .startup .information "UPLINK_APP Initialized"
    (processBootMarker markerEnv resetType
      (incrementBootCount countEnv (loadState load (bootState stateFile))))

/-! ## The main loop -/

/-- A message on the pipe of the application, as `UPLINK_APP_TaskPipe` tells them apart. A
command carries its length beyond the command header. -/
inductive PipeMessage where
  | unreadableId
  | sendHk
  | systemHealth (healthState : UInt8)
  | bridgeHk (lastUploadResult : UInt8) (missionUploadSuccessCount : UInt32)
  | execResult (msg : ExecResult)
  | unknownId
  | unreadableFcnCode
  | command (fcnCode : UInt16) (length : Nat) (uplink : ProcessUplinkCmd)
  deriving DecidableEq

/-- Run a command handler if the command has the length it expects. -/
def withCmdLength (env : Env) (length expected : Nat) (handler : State → State) (s : State) :
    State :=
  if length ≠ expected then
    sendEvent .commandErr .error
      (s!"UPLINK_APP: Invalid cmd length expected={env.commandHeaderSize + expected} " ++
        s!"actual={env.commandHeaderSize + length}") { s with errCounter := s.errCounter + 1 }
  else handler s

/-- Handle one message of the pipe. -/
def taskPipe (env : Env) (message : PipeMessage) (s : State) : State :=
  match message with
  | .unreadableId | .unknownId | .unreadableFcnCode => { s with errCounter := s.errCounter + 1 }
  | .sendHk => reportHousekeeping env s
  | .systemHealth healthState =>
    { s with cfsHealthState := healthState, cfsHealthReceived := true }
  | .bridgeHk lastUploadResult missionUploadSuccessCount =>
    { s with
      fcMissionResult := lastUploadResult
      fcMissionUploadState := 1
      fcMissionUploadSuccessCount := missionUploadSuccessCount }
  | .execResult msg => processExecResult env msg s
  | .command fcnCode length uplink =>
    if fcnCode = 0 then withCmdLength env length 0 noop s
    else if fcnCode = 1 then withCmdLength env length 0 resetCounters s
    else if fcnCode = 2 then withCmdLength env length 204 (processUplink env uplink) s
    else sendEvent .commandErr .error s!"UPLINK_APP: invalid command code {fcnCode}"
      { s with errCounter := s.errCounter + 1 }

/-- What one round of the main loop finds on the pipe. -/
inductive Input where
  | received (message : PipeMessage)
  | timeout
  deriving DecidableEq

/-- One round of the main loop. -/
def step (s : State) (round : Env × Input) : State :=
  match round.2 with
  | .received message => taskPipe round.1 message s
  | .timeout => servicePrototype round.1 s

/-- The states of a session, whatever the session before it left behind. -/
def Reachable (s : State) : Prop :=
  ∃ load resetType countEnv markerEnv stateFile rounds,
    s = Run.run step (init load resetType countEnv markerEnv stateFile) rounds

end CfsTelemetry.Uplink
