import CfsTelemetry.Library.Stopwatch
import CfsTelemetry.Core.State

/-!
# Health of the system

Every message of the other applications is cached and the health is evaluated and published with
it, and from time to time without one. An evaluation finds which sources are timed out, restarts
an application that has been timed out for long enough, and passes a verdict, in which a fault
shows at once and its end only after a while.
-/
namespace CfsTelemetry.Core

open Stopwatch

/-- How far the time of a message may be ahead of the clock. -/
def timestampMaxFutureMs : UInt32 := 5000

/-- How far the time of the flight controller falls back when it has restarted. -/
def timebaseShiftMs : UInt32 := 10000

/-- Whether a message is from too far in the future. -/
def isFuture (timestampMs nowMs : UInt32) : Bool := timestampMs > nowMs + timestampMaxFutureMs

/-- Whether the sequence number of a message follows the cached one. -/
def StateCache.follows (cache : StateCache) (seq : UInt32) : Bool :=
  !cache.received || seq > cache.seq

/-- Whether a message is taken into the cache. -/
def StateCache.accepts (cache : StateCache) (msg : Bridge.FcStatePrefix) (nowMs : UInt32) : Bool :=
  !isFuture msg.timestampMs nowMs && cache.follows msg.seq

/-- Note that the time of the flight controller has fallen back. -/
def noteTimebaseShift (cache : StateCache) (msg : Bridge.FcStatePrefix) (s : State) : State :=
  if cache.received ∧ msg.timestampMs + timebaseShiftMs < cache.timestampMs then
    sendEvent .timebaseShift .information
      (s!"CFS_CORE_APP: time base shift (FC reboot?) prev={cache.timestampMs} " ++
        s!"new={msg.timestampMs}")
      { s with timebaseShiftCount := s.timebaseShiftCount + 1 }
  else s

/-- Take a state message into the cache of its stream. -/
def updateStateCache (stream : Stream) (msg : Bridge.FcStatePrefix) (nowMs : UInt32) (s : State) :
    State :=
  let cache := s.cache stream
  if isFuture msg.timestampMs nowMs then
    sendEvent .timestampErr .error
      s!"CFS_CORE_APP: future timestamp ts={msg.timestampMs} now={nowMs} rejected"
      { s with timestampRejectedCount := s.timestampRejectedCount + 1 }
  else
    let noted := noteTimebaseShift cache msg s
    let rejected := { noted with seqRejectedCount := noted.seqRejectedCount + 1 }
    if cache.received ∧ msg.seq = cache.seq then
      sendEvent .seqErr .debug s!"CFS_CORE_APP: duplicate seq={msg.seq} rejected" rejected
    else if cache.received ∧ msg.seq < cache.seq then
      sendEvent .seqErr .error
        s!"CFS_CORE_APP: seq regression {cache.seq}->{msg.seq} rejected" rejected
    else
      let counted :=
        if cache.received ∧ msg.seq > cache.seq + 1 then
          sendEvent .seqGap .debug
            (s!"CFS_CORE_APP: seq gap {cache.seq}->{msg.seq} " ++
              s!"({msg.seq - cache.seq - 1} missed)")
            { noted with seqGapCount := noted.seqGapCount + 1 }
        else noted
      counted.setCache stream {
        timestampMs := msg.timestampMs
        arrivalMs := nowMs
        seq := msg.seq
        valid := msg.valid
        stale := msg.stale
        errorCode := msg.errorCode
        received := true }

/-- Mark the cache of a stream as invalid after a message with a value that is not a number. -/
def markNonFinite (stream : Stream) (name : String) (s : State) : State :=
  sendEvent .nonfiniteValue .error
    s!"CFS_CORE_APP: non-finite value in {name} telemetry, marked invalid"
    (s.setCache stream { s.cache stream with valid := 0 })

/-- Take the waypoints of a route message (`CFS_CORE_APP_SetRouteCacheWaypoints` and
`CFS_CORE_APP_BumpRouteCacheCounters`). -/
def RouteCache.take (cache : RouteCache) (msg : RouteUpdate) : RouteCache :=
  { cache with
    routeType := msg.routeType
    routeVersion := msg.routeVersion
    waypointCount := msg.waypointCount
    valid := true
    waypoints := msg.waypoints
    timestampMs := msg.timestampMs
    sourceSequence := msg.sourceSequence
    updateCount := cache.updateCount + 1 }

/-- The code of a route update that carries a whole route. -/
def routeOpReplace : UInt8 := 1

/-- A message of another application. -/
inductive StateMessage where
  | bridgeHk (tlm : Bridge.HkTlm)
  | uplinkHk
  | loraHk
  | attitude (tlm : Bridge.AttitudeTlm)
  | ekfLocal (tlm : Bridge.EkfLocalTlm)
  | gpsRaw (tlm : Bridge.GpsRawTlm)
  | ekfStatus (tlm : Bridge.EkfStatusTlm)
  | missionReadback (msg : RouteUpdate)
  | routeUpdate (msg : RouteUpdate)
  deriving DecidableEq

/-- Whether the numbers of an attitude are finite. -/
def attitudeFieldsFinite (tlm : Bridge.AttitudeTlm) : Bool :=
  isFinite tlm.rollRad && isFinite tlm.pitchRad && isFinite tlm.yawRad &&
    isFinite tlm.rollspeedRps && isFinite tlm.pitchspeedRps && isFinite tlm.yawspeedRps

/-- Whether the numbers of a local position are finite. -/
def ekfLocalFieldsFinite (tlm : Bridge.EkfLocalTlm) : Bool :=
  isFinite tlm.x && isFinite tlm.y && isFinite tlm.z && isFinite tlm.vx && isFinite tlm.vy &&
    isFinite tlm.vz

/-- Cache a message of another application. -/
def cacheMessage (message : StateMessage) (nowMs : UInt32) (s : State) : State :=
  match message with
  | .bridgeHk tlm => { s with bridgeState := {
      linkState := tlm.linkState
      lastErrorCode := tlm.lastErrorCode
      lastRxTimestampMs := tlm.lastRxTimestampMs
      received := true } }
  | .uplinkHk => { s with uplinkAppState := ⟨nowMs, true⟩ }
  | .loraHk => { s with loraAppState := ⟨nowMs, true⟩ }
  | .attitude tlm =>
    let updated := updateStateCache .attitude tlm.toFcStatePrefix nowMs s
    if attitudeFieldsFinite tlm then updated
    else markNonFinite .attitude "AttitudeState" updated
  | .ekfLocal tlm =>
    let updated := updateStateCache .ekfLocal tlm.toFcStatePrefix nowMs s
    if ekfLocalFieldsFinite tlm then updated
    else markNonFinite .ekfLocal "EkfLocalState" updated
  | .gpsRaw tlm => updateStateCache .gpsRaw tlm.toFcStatePrefix nowMs s
  | .ekfStatus tlm => updateStateCache .ekfStatus tlm.toFcStatePrefix nowMs s
  | .missionReadback msg =>
    sendEvent .routeReadback .information
      s!"CFS_CORE_APP: FC mission readback applied wp_count={msg.waypointCount} seq={msg.seq}"
      { s with missionRoute := s.missionRoute.take msg }
  | .routeUpdate msg =>
    let updated :=
      if msg.routeType = routeOpReplace then { s with missionRoute := s.missionRoute.take msg }
      else s
    sendEvent .startup .information
      (s!"CFS_CORE_APP: route updated type={msg.routeType} version={msg.routeVersion} " ++
        s!"count={msg.waypointCount} src_seq={msg.sourceSequence}") updated

/-- Time without housekeeping after which an application is timed out. -/
def appTimeoutMs : UInt32 := 5000

/-- Whether the last message of a stream is too old. -/
def StateCache.expired (cache : StateCache) (nowMs timeoutMs : UInt32) : Bool :=
  if cache.received then nowMs - cache.arrivalMs > timeoutMs else true

/-- The configured timeout of a stream. -/
def ConfigParams.timeoutMs (config : ConfigParams) : Stream → UInt32
  | .attitude => config.attitudeTimeoutMs
  | .ekfLocal => config.localTimeoutMs
  | .gpsRaw => config.gpsTimeoutMs
  | .ekfStatus => config.ekfTimeoutMs

/-- Whether a stream is timed out, or says that it is not to be used. -/
def streamTimedOut (stream : Stream) (nowMs : UInt32) (s : State) : Bool :=
  (s.cache stream).expired nowMs (s.activeConfig.timeoutMs stream) ||
    (s.cache stream).valid == 0 || (s.cache stream).stale != 0

/-- Whether the bridge is timed out. -/
def bridgeTimedOut (nowMs : UInt32) (s : State) : Bool :=
  !s.bridgeState.received ||
    nowMs - s.bridgeState.lastRxTimestampMs > s.activeConfig.bridgeTimeoutMs

/-- Whether an application is timed out by its last housekeeping message. -/
def AppHkCache.timedOut (cache : AppHkCache) (nowMs : UInt32) : Bool :=
  !cache.received || nowMs - cache.lastHkRxMs > appTimeoutMs

/-- What an evaluation finds timed out. -/
structure Findings where
  bridge : Bool
  gps : Bool
  ekf : Bool
  ekfLocal : Bool
  attitude : Bool
  uplink : Bool
  lora : Bool
  deriving DecidableEq, Repr

/-- What is timed out in a state. -/
def findings (nowMs : UInt32) (s : State) : Findings where
  bridge := bridgeTimedOut nowMs s
  gps := streamTimedOut .gpsRaw nowMs s
  ekf := streamTimedOut .ekfStatus nowMs s
  ekfLocal := streamTimedOut .ekfLocal nowMs s
  attitude := streamTimedOut .attitude nowMs s
  uplink := s.uplinkAppState.timedOut nowMs
  lora := s.loraAppState.timedOut nowMs

/-! ## Supervision -/

/-- Time between two restarts of an application. -/
def restartIntervalMs : UInt32 := 5000

/-- The name of an application in events. -/
def App.label : App → String
  | bridge => "bridge" | uplink => "uplink" | lora => "lora"

/-- The event of a restart. -/
def App.restartEvent : App → EventId
  | bridge => .bridgeRestart | uplink => .uplinkRestart | lora => .loraRestart

/-- The supervision of an application that was found timed out or not, before a restart. -/
def RestartTimer.observe (timer : RestartTimer) (timedOut : Bool) (nowMs : UInt32) :
    RestartTimer :=
  if timedOut then
    if timer.nextMs = 0 then { timer with nextMs := nowMs + restartIntervalMs } else timer
  else { timer with nextMs := 0 }

/-- Whether an evaluation restarts an application. -/
def RestartTimer.due (timer : RestartTimer) (timedOut : Bool) (nowMs : UInt32) : Bool :=
  timedOut && decide (nowMs ≥ (timer.observe timedOut nowMs).nextMs)

/-- Restart an application. -/
def restartApp (app : App) (env : Env) (s : State) : State :=
  let count := (s.timer app).count + 1
  let restarted := { s with outputs := .restartApp app :: s.outputs }
  let saved := saveState (env.save 0) env.stateFilePath
    (restarted.setTimer app ⟨count, (s.timer app).nextMs⟩)
  sendEvent app.restartEvent .information
    s!"CFS_CORE_APP: {app.label} restart attempt={count}"
    (saved.setTimer app ⟨count, env.nowMs + restartIntervalMs⟩)

/-- Supervise an application, and tell whether it was restarted. -/
def superviseApp (app : App) (timedOut : Bool) (env : Env) (s : State) : Bool × State :=
  let observed := s.setTimer app ((s.timer app).observe timedOut env.nowMs)
  if (s.timer app).due timedOut env.nowMs && env.found app then
    (true, restartApp app env observed)
  else (false, observed)

/-- Supervise the applications in the order of their priority, up to the first restart. -/
def checkAppRestarts (bridge uplink lora : Bool) (env : Env) (s : State) : State :=
  let (restarted, s) := superviseApp .bridge bridge env s
  if restarted then s
  else
    let (restarted, s) := superviseApp .uplink uplink env s
    if restarted then s
    else (superviseApp .lora lora env s).2

/-! ## The verdict -/

/-- Time without a fault until the health is nominal again. -/
def nominalStabilityMs : UInt32 := 10000

/-- Time for which the bridge is timed out until the system has failed. -/
def failedEscalationMs : UInt32 := 30000

/-- The verdict of an evaluation, and its timers after it. -/
structure Verdict where
  healthState : HealthState
  faultCode : FaultCode
  recoveryRequested : Bool
  recoveryStartMs : UInt32
  nominalEligibleSince : UInt32
  deriving DecidableEq, Repr

/-- The verdict on a fault that degrades the system. -/
def degradedBy (fault : FaultCode) : Verdict := ⟨.degraded, fault, false, 0, 0⟩

/-- Pass the verdict on what was found. -/
def judge (found : Findings) (nowMs : UInt32) (s : State) : Verdict :=
  if found.bridge then
    let startMs := startedAt s.recoveryStartMs nowMs
    { healthState := if nowMs - startMs ≥ failedEscalationMs then .failed else .recovery
      faultCode := .bridgeTimeout
      recoveryRequested := true
      recoveryStartMs := startMs
      nominalEligibleSince := 0 }
  else if found.ekf then degradedBy .ekfInvalid
  else if found.ekfLocal then degradedBy .localTimeout
  else if found.attitude then degradedBy .attitudeTimeout
  else if found.uplink then degradedBy .uplinkTimeout
  else if found.lora then degradedBy .loraTimeout
  else if s.lastHealthState = HealthState.nominal.code then ⟨.nominal, .none, false, 0, 0⟩
  else
    let sinceMs := startedAt s.nominalEligibleSince nowMs
    if nowMs - sinceMs ≥ nominalStabilityMs then ⟨.nominal, .none, false, 0, 0⟩
    else ⟨.degraded, .none, false, 0, sinceMs⟩

/-- The newest time among the cached messages, or the clock without one. -/
def lastValidInputTimestampMs (nowMs : UInt32) (s : State) : UInt32 :=
  let newest := [Stream.attitude, .ekfLocal, .gpsRaw, .ekfStatus].foldl (fun newest stream =>
    if (s.cache stream).received ∧ (s.cache stream).timestampMs > newest then
      (s.cache stream).timestampMs
    else newest) 0
  if newest = 0 then nowMs else newest

/-- What the health message says of a stream. -/
def inputStatus (cache : StateCache) (timedOut : Bool) : InputStatus :=
  ⟨cache.valid, cache.stale, cache.errorCode, timedOut⟩

/-- The health message of a verdict. -/
def systemHealthTlm (found : Findings) (verdict : Verdict) (nowMs : UInt32) (s : State) :
    SystemHealthTlm where
  seq := s.sequenceCounter
  timestampMs := nowMs
  lastValidInputTimestampMs := lastValidInputTimestampMs nowMs s
  healthState := verdict.healthState
  faultCode := verdict.faultCode
  recoveryRequested := verdict.recoveryRequested
  attitudeStatus := inputStatus s.attitudeState found.attitude
  localStatus := inputStatus s.localState found.ekfLocal
  gpsStatus := inputStatus s.gpsState found.gps
  ekfStatus := inputStatus s.ekfState found.ekf
  bridgeStatus := ⟨s.bridgeState.linkState, s.bridgeState.lastErrorCode, found.bridge⟩
  uplinkTimedOut := found.uplink
  loraTimedOut := found.lora

/-- Note a new health state, and save it. -/
def noteTransition (verdict : Verdict) (env : Env) (s : State) : State :=
  if verdict.healthState.code ≠ s.lastHealthState then
    saveState (env.save 1) env.stateFilePath (sendEvent .healthTransition .information
      (s!"CFS_CORE_APP: health {s.lastHealthState}->{verdict.healthState.code} " ++
        s!"fault={verdict.faultCode.code}")
      { s with
        lastHealthState := verdict.healthState.code
        lastFaultCode := verdict.faultCode.code })
  else s

/-- Evaluate the health and publish it. -/
def evaluate (env : Env) (s : State) : State :=
  let nowMs := env.nowMs
  let found := findings nowMs s
  let supervised := checkAppRestarts found.bridge found.uplink found.lora env s
  let counted := { supervised with
    lastPublishTimeMs := nowMs
    publishCount := supervised.publishCount + 1
    sequenceCounter := supervised.sequenceCounter + 1 }
  let verdict := judge found nowMs counted
  let judged := { counted with
    recoveryStartMs := verdict.recoveryStartMs
    nominalEligibleSince := verdict.nominalEligibleSince }
  transmitMsg (.systemHealth (systemHealthTlm found verdict nowMs judged))
    (noteTransition verdict env judged)

/-- Whether an evaluation that no message calls for has to wait for the next period. -/
def tooEarly (nowMs : UInt32) (s : State) : Bool :=
  nowMs - s.lastPublishTimeMs < s.activeConfig.publishPeriodMs

/-- Evaluate the health when a message calls for it or the period is over. -/
def updateHealth (forcePublish : Bool) (env : Env) (s : State) : State :=
  if !forcePublish && tooEarly env.nowMs s then s else evaluate env s

/-- Handle a message of another application. -/
def processStateMessage (message : StateMessage) (env : Env) (s : State) : State :=
  updateHealth true env (cacheMessage message env.nowMs s)

/-- Go on without a message (`CFS_CORE_APP_ServicePrototype`). -/
def servicePrototype (env : Env) (s : State) : State := updateHealth false env s

/-- The event text of a recovery command. -/
def recoveryText (msg : Uplink.RecoveryCmdTlm) (action : String) : String :=
  s!"CFS_CORE_APP: recovery cmd {action} seq={msg.sourceSequence} " ++
    s!"target={msg.targetComponent} reason={msg.reasonCode} token={msg.requestToken}"

/-- Restart an application on command, and tell whether it was found. -/
def commandRestart (app : App) (env : Env) (s : State) : Bool × State :=
  if env.found app then
    (true, sendEvent app.restartEvent .information
      s!"CFS_CORE_APP: {app.label} restart (ground-triggered)"
      { s with outputs := .restartApp app :: s.outputs })
  else (false, s)

/-- Send the bridge a command, and tell whether the bus took it. -/
def sendBridgeCtrlCmd (cmd : BridgeCtrl) (env : Env) (s : State) : Bool × State :=
  if env.setFcnCode && env.transmit then (true, transmitMsg (.bridgeCtrl cmd) s) else (false, s)

/-- Forget the restarts and the timers of the supervision. -/
def resetRestarts (s : State) : State :=
  { s with
    recoveryStartMs := 0
    bridgeRestart := ⟨0, 0⟩
    uplinkRestart := ⟨0, 0⟩
    loraRestart := ⟨0, 0⟩ }

/-- Do what a recovery command asks for, and tell whether it was done. -/
def recover (msg : Uplink.RecoveryCmdTlm) (env : Env) (s : State) : Bool × State :=
  let noted := fun name s => sendEvent .recoveryCmd .information (recoveryText msg name) s
  match RecoveryAction.ofByte msg.recoveryAction with
  | some .resetCounter => (true, noted "RESET_COUNTER"
      (saveState (env.save 0) env.stateFilePath (resetRestarts s)))
  | some .restartBridge => commandRestart .bridge env (noted "RESTART_BRIDGE" s)
  | some .restartUplink => commandRestart .uplink env (noted "RESTART_UPLINK" s)
  | some .restartLora => commandRestart .lora env (noted "RESTART_LORA" s)
  | some .parserReset => sendBridgeCtrlCmd .parserReset env (noted "PARSER_RESET" s)
  | some .serialReconnect => sendBridgeCtrlCmd .serialReconnect env (noted "SERIAL_RECONNECT" s)
  | none => (false, sendEvent .recoveryCmd .error
      (s!"CFS_CORE_APP: recovery cmd UNKNOWN action={msg.recoveryAction} " ++
        s!"seq={msg.sourceSequence}") s)

/-- Handle a recovery command. -/
def processRecoveryCommand (msg : Uplink.RecoveryCmdTlm) (env : Env) (s : State) : State :=
  let (ok, done) := recover msg env { s with
    recoveryRequestedCount := s.recoveryRequestedCount + 1
    cmdCounter := s.cmdCounter + 1 }
  transmitMsg (.execResult {
    sourceSequence := msg.sourceSequence
    sourceApp := 1
    commandClass := 4
    genericResult := if ok then 0 else 1
    detailCode := msg.recoveryAction }) done

/-- Publish the housekeeping message. -/
def reportHousekeeping (s : State) : State :=
  transmitMsg (.housekeeping {
    commandCounter := s.cmdCounter
    commandErrorCounter := s.errCounter
    missionRouteWaypointCount := s.missionRoute.waypointCount
    publishCount := s.publishCount
    lastPublishTimestampMs := s.lastPublishTimeMs
    lastRouteUpdateTimestampMs := s.missionRoute.timestampMs
    routeUpdateCount := s.missionRoute.updateCount
    bridgeRestartCount := s.bridgeRestart.count
    uplinkRestartCount := s.uplinkRestart.count
    loraRestartCount := s.loraRestart.count
    lastFaultCode := s.lastFaultCode
    timebaseShiftCount := s.timebaseShiftCount })
    (sendEvent .hk .information
      (s!"CFS_CORE_APP HK: mission_wp={s.missionRoute.waypointCount} " ++
        s!"route_updates={s.missionRoute.updateCount} " ++
        s!"last_route_ts={s.missionRoute.timestampMs}") s)

/-- Something that happens to the application. -/
inductive Input where
  | message (message : StateMessage) (env : Env)
  | noMessage (env : Env)
  | recovery (msg : Uplink.RecoveryCmdTlm) (env : Env)
  | reportHousekeeping (env : Env)

/-- What the application does when something happens to it. -/
def step (s : State) : Input → State
  | .message message env => processStateMessage message env s
  | .noMessage env => servicePrototype env s
  | .recovery msg env => processRecoveryCommand msg env s
  | .reportHousekeeping _ => reportHousekeeping s

/-- What an input meets outside. -/
def Input.env : Input → Env
  | message _ env | noMessage env | recovery _ env | reportHousekeeping env => env

/-- The time of an input. -/
def Input.timeMs (input : Input) : Nat := input.env.timeMs

end CfsTelemetry.Core
