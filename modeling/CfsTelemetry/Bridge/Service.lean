import CfsTelemetry.Library.Run
import CfsTelemetry.Bridge.Commands
import CfsTelemetry.Bridge.Receive

/-!
# The bridge as a state machine

What happens to the bridge, one message, frame or check at a time, and the periodic service of
the serial line as a run of such steps.
-/
namespace CfsTelemetry.Bridge

open Slots

/-- A command without parameters. -/
inductive GroundCommand where
  | noop | resetCounters | parserReset
  deriving DecidableEq, Repr

/-- Handle a command without parameters; the reset of the parser concerns the parser only. -/
def handleCommand (command : GroundCommand) (s : State) : State :=
  match command with
  | .noop => sendEvent .noop .information "MAVLINK_BRIDGE_APP: NOOP command"
      { s with cmdCounter := s.cmdCounter + 1 }
  | .resetCounters => sendEvent .reset .information
      "MAVLINK_BRIDGE_APP: Reset counters command"
      { s with cmdCounter := 0, errCounter := 0, parseErrorCount := 0 }
  | .parserReset => sendEvent .reset .information
      "MAVLINK_BRIDGE_APP: parser reset (ground-triggered via cfs_core_app RECOVERY)"
      { s with cmdCounter := s.cmdCounter + 1 }

/-- Why a message of the pipe is not handled. -/
inductive CommandDefect where
  | messageId
  | commandCode (code : Nat)
  | length (expected actual : Nat)
  deriving DecidableEq, Repr

/-- The event text of a message that is not handled. -/
def CommandDefect.text : CommandDefect → String
  | messageId => "MAVLINK_BRIDGE_APP: Invalid command MID"
  | commandCode code => s!"MAVLINK_BRIDGE_APP: Invalid command code {code}"
  | length expected actual =>
    s!"MAVLINK_BRIDGE_APP: Invalid cmd length expected={expected} actual={actual}"

/-- Count a message that is not handled. -/
def rejectCommand (defect : CommandDefect) (s : State) : State :=
  sendEvent .commandErr .error defect.text { s with errCounter := s.errCounter + 1 }

/-- Publish the housekeeping message. -/
def reportHousekeeping (s : State) : State :=
  transmitMsg (.housekeeping {
    commandCounter := s.cmdCounter
    commandErrorCounter := s.errCounter
    linkState := s.linkState.code
    lastErrorCode := s.lastErrorCode.code
    bytesReceived := s.bytesReceived
    reconnectAttemptCount := s.reconnectAttemptCount
    parseErrorCount := s.parseErrorCount
    nonFiniteValueCount := s.nonFiniteValueCount
    lastRxTimestampMs := s.lastRxTimestampMs
    missionUploadSuccessCount := s.missionUploadSuccessCount
    missionUploadFailCount := s.missionUploadFailCount
    lastUploadTimestampMs := s.lastUploadTimestampMs
    lastUploadWaypointCount := s.lastUploadWaypointCount
    lastUploadResult := s.lastUploadResult.code }) s

/-! ## The serial port -/

/-- Rate of the serial line. -/
def serialBaudrate : Nat := 921600

/-- How opening the serial port ends: with the error number of the call that failed, or at a
time. -/
inductive OpenResult where
  | openFailed (errno : Nat)
  | getattrFailed (errno : Nat)
  | setattrFailed (errno : Nat)
  | opened (timeMs : UInt32)
  deriving DecidableEq, Repr

/-- Open the serial port at a path. -/
def openSerial (path : String) (result : OpenResult) (env : Env) (s : State) : State :=
  let fail := fun text => sendEvent .link .error text { s with lastErrorCode := .serialOpenFail }
  match result with
  | .openFailed errno => fail s!"MAVLINK_BRIDGE_APP: open() failed path={path} errno={errno}"
  | .getattrFailed errno =>
    fail s!"MAVLINK_BRIDGE_APP: tcgetattr() failed path={path} errno={errno}"
  | .setattrFailed errno =>
    fail (s!"MAVLINK_BRIDGE_APP: tcsetattr() failed path={path} baud={serialBaudrate} " ++
      s!"errno={errno}")
  | .opened timeMs =>
    sendEvent .link .information
      s!"MAVLINK_BRIDGE_APP: opened serial path {path} at {serialBaudrate} baud"
      (setLinkState .connected env { s with
        serialOpen := true
        lastErrorCode := .none
        lastRxTimestampMs := 0
        lastHeartbeatTxMs := 0
        lastStreamRequestMs := 0
        targetDiscoveryStartMs := timeMs
        streamRequestPending := true })

/-- Close the serial port. -/
def closeSerial (s : State) : State := { s with serialOpen := false }

/-- The error number that a failed open leaves. -/
def OpenResult.errno : OpenResult → Option Nat
  | openFailed errno => some errno
  | getattrFailed errno => some errno
  | setattrFailed errno => some errno
  | opened _ => none

/-- Try to open a closed port, unless the last attempt is too recent. -/
def reconnect (nowMs : UInt32) (path : String) (result : OpenResult) (env : Env) (s : State) :
    State :=
  if nowMs - s.lastReconnectAttemptMs ≥ s.activeConfig.reconnectIntervalMs then
    let tried := openSerial path result env (setLinkState .disconnected env { s with
      lastReconnectAttemptMs := nowMs
      reconnectAttemptCount := s.reconnectAttemptCount + 1 })
    match result.errno with
    | none => tried
    | some errno => sendEvent .link .information
        s!"MAVLINK_BRIDGE_APP: serial open failed path={path} errno={errno}" tried
  else s

/-- Handle the command to open the port again. -/
def serialReconnect (path : String) (result : OpenResult) (env : Env) (s : State) : State :=
  let reopened := openSerial path result env (closeSerial s)
  sendEvent .reset .information
    "MAVLINK_BRIDGE_APP: serial reconnect (ground-triggered via cfs_core_app RECOVERY)"
    { reopened with cmdCounter := reopened.cmdCounter + 1 }

/-- Send a heartbeat when the last one is old enough. -/
def sendCompanionHeartbeat (nowMs : UInt32) (env : Env) (s : State) : State :=
  if nowMs - s.lastHeartbeatTxMs < s.activeConfig.heartbeatIntervalMs then s
  else
    let (status, sent) := sendMavlinkV2 .heartbeat [0, 0, 0, 0, 18, 8, 0, 0, 3] (env.tx 0) s
    if status = .success then { sent with lastHeartbeatTxMs := nowMs } else sent

/-- Ask for a stream of messages at an interval. -/
def requestMessageInterval (msgId intervalUs : UInt32) (fault : Option TxFault) (s : State) :
    SendStatus × State :=
  sendMavlinkV2 .commandLong
    (Words.bytes32 msgId.toFloat32.toBits ++ Words.bytes32 intervalUs.toFloat32.toBits ++
      List.replicate 20 0 ++ Words.bytes16 511 ++ [s.targetSystemId, s.targetComponentId, 0])
    fault s

/-- The code of a status in an event. -/
def SendStatus.code : SendStatus → UInt32
  | success => 0 | resourceFail => 0xC8000005 | badArgument => 0xC4000002

/-- Ask for streams in order until a request fails, and tell whether all were sent. -/
def requestIntervals (env : Env) : Nat → List (UInt32 × UInt32) → State → Bool × State
  | _, [], s => (true, s)
  | index, (msgId, intervalUs) :: rest, s =>
    let (status, sent) := requestMessageInterval msgId intervalUs (env.tx index) s
    if status = .success then requestIntervals env (index + 1) rest sent
    else (false, sendEvent .stream .error
      (s!"MAVLINK_BRIDGE_APP: request failed msgid={msgId} " ++
        s!"status=0x{hexText 8 status.code.toNat}") sent)

/-- Ask the flight controller for its state messages. -/
def requestTelemetryStreams (env : Env) (s : State) : State :=
  if s.targetSystemId = 0 then s
  else
    let target := s!"sys={s.targetSystemId} comp={s.targetComponentId}"
    let asked := sendEvent .stream .information
      s!"MAVLINK_BRIDGE_APP: requesting telemetry streams from {target}" s
    let config := s.activeConfig
    let (complete, sent) := requestIntervals env 0
      [(MessageKind.attitude.id, config.attitudeIntervalUs),
        (MessageKind.localPositionNed.id, config.localPositionIntervalUs),
        (MessageKind.globalPositionInt.id, config.globalPositionIntervalUs),
        (MessageKind.gpsRawInt.id, config.gpsRawIntervalUs),
        (MessageKind.ekfStatusReport.id, config.ekfStatusIntervalUs),
        (MessageKind.sysTime.id, 1000000)] asked
    if complete then
      sendEvent .stream .information
        s!"MAVLINK_BRIDGE_APP: requested telemetry streams from {target}"
        { sent with lastStreamRequestMs := env.timeMs }
    else sent

/-- Time between two requests for the streams. -/
def streamRequestRetryMs : UInt32 := 2000

/-- Time without a flight controller until it is reported missing. -/
def targetDiscoveryTimeoutMs : UInt32 := 10000

/-- Ask for the streams when it is time to, or report that nobody is there to ask. -/
def serviceStreams (nowMs : UInt32) (env : Env) (s : State) : State :=
  if s.targetSystemId ≠ 0 ∧ nowMs - s.lastStreamRequestMs ≥ streamRequestRetryMs ∧
      s.missionUploadState = .idle then
    requestTelemetryStreams env { s with streamRequestPending := true }
  else if s.streamRequestPending = true ∧ s.targetSystemId = 0 ∧
      nowMs - s.targetDiscoveryStartMs ≥ targetDiscoveryTimeoutMs then
    sendEvent .stream .information
      "MAVLINK_BRIDGE_APP: waiting for FC heartbeat before stream request"
      { s with targetDiscoveryStartMs := nowMs }
  else s

/-- Time without data until the link is degraded. -/
def staleTimeoutMs : UInt32 := 1000

/-- Note bytes read from the port (the start of `MAVLINK_BRIDGE_APP_HandleReceivedBytes`). -/
def noteBytes (length : Nat) (timestampMs : UInt32) (s : State) : State :=
  { s with
    lastRxTimestampMs := timestampMs
    bytesReceived := s.bytesReceived + UInt32.ofNat length
    lastErrorCode := .none }

/-- Degrade the link when nothing was read for too long. -/
def checkStale (nowMs : UInt32) (env : Env) (s : State) : State :=
  if nowMs - s.lastRxTimestampMs ≥ staleTimeoutMs then
    setLinkState .degraded env (markOutputsStale { s with lastErrorCode := .readTimeout })
  else s

/-- Close the port after a failed read. -/
def failRead (errno : Nat) (env : Env) (s : State) : State :=
  closeSerial (sendEvent .link .information
    s!"MAVLINK_BRIDGE_APP: serial read failed errno={errno}, forcing reconnect"
    (setLinkState .disconnected env (markOutputsStale { s with lastErrorCode := .linkDown })))

/-- Something that happens to the bridge. -/
inductive Input where
  | routeUpdate (msg : RouteUpdate) (env : Env)
  | missionQuery (env : Env)
  | command (command : GroundCommand)
  | invalidCommand (defect : CommandDefect)
  | config (cmd : ConfigCmd) (saved : SaveResult)
  | setFlightMode (cmd : SetFlightModeCmd) (env : Env)
  | reportHousekeeping
  | serialReconnect (path : String) (result : OpenResult) (env : Env)
  | reconnect (nowMs : UInt32) (path : String) (result : OpenResult) (env : Env)
  | companionHeartbeat (nowMs : UInt32) (env : Env)
  | serviceStreams (nowMs : UInt32) (env : Env)
  | checkUpload (nowMs : UInt32) (env : Env)
  | checkDownload (nowMs : UInt32)
  | retryReadback (nowMs : UInt32) (env : Env)
  | bytes (length : Nat) (nowMs : UInt32)
  | frame (frame : RxFrame) (rxTimestampMs : UInt32) (env : Env)
  | checkStale (nowMs : UInt32) (env : Env)
  | readFailure (errno : Nat) (env : Env)

/-- What the bridge does when something happens to it. -/
def step (s : State) : Input → State
  | .routeUpdate msg env => startMissionUpload env msg s
  | .missionQuery env => missionQuery env s
  | .command command => handleCommand command s
  | .invalidCommand defect => rejectCommand defect s
  | .config cmd saved => processConfigCommand saved cmd s
  | .setFlightMode cmd env => processSetFlightModeCmd env cmd s
  | .reportHousekeeping => reportHousekeeping s
  | .serialReconnect path result env => serialReconnect path result env s
  | .reconnect nowMs path result env => reconnect nowMs path result env s
  | .companionHeartbeat nowMs env => sendCompanionHeartbeat nowMs env s
  | .serviceStreams nowMs env => serviceStreams nowMs env s
  | .checkUpload nowMs env => checkMissionUploadTimeout nowMs env s
  | .checkDownload nowMs => checkMissionDownloadTimeout nowMs s
  | .retryReadback nowMs env => retryReadback nowMs env s
  | .bytes length nowMs => noteBytes length nowMs s
  | .frame frame rxTimestampMs env => handleFrameComplete env frame rxTimestampMs s
  | .checkStale nowMs env => checkStale nowMs env s
  | .readFailure errno env => failRead errno env s

/-- A frame of a message received at a time. -/
def received (kind : MessageKind) (payload : List UInt8) (timeMs : UInt32) : Input :=
  .frame (RxFrame.of kind payload) timeMs (Env.at timeMs)

/-- The route update of an operation, with its count or index and its waypoints. -/
def routeUpdate (routeType waypointCount : UInt8) (waypoints : List Waypoint) (timeMs : UInt32) :
    Input :=
  .routeUpdate {
    seq := 0
    timestampMs := timeMs
    sourceSequence := 0
    routeType := routeType
    routeVersion := 0
    waypointCount := waypointCount
    waypoints := fill (fun index => waypoints[index]?.getD default) 0 routeMaxWaypoints
      WaypointArray.zero } (Env.at timeMs)

/-- The port is opened, the autopilot is heard, and the readback finds no mission. -/
def connection : List Input :=
  [.reconnect 1000 "/dev/serial0" (.opened 1000) (Env.at 1000),
    received .heartbeat [0, 0, 0, 0, 2, 3, 81, 4, 3] 1100,
    received .missionCount [0, 0, 255, 190, 0] 1200]

end CfsTelemetry.Bridge
