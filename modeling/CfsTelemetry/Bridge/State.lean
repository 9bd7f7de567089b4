import CfsTelemetry.Library.Slots
import CfsTelemetry.Bridge.Frames

/-!
# State of the flight-controller bridge

The application data with what the bridge has written to the line, published on the bus and
reported as events. The file descriptor is whether the port is open, and the arrays of the
pending and of the active mission are arrays of waypoints.
-/
namespace CfsTelemetry.Bridge

open Slots

/-- What the state messages of the flight controller begin with (`FC_STATE_PREFIX_t`). -/
structure FcStatePrefix where
  timestampMs : UInt32
  seq : UInt32
  valid : UInt8
  stale : UInt8
  errorCode : UInt8
  deriving DecidableEq, Repr

/-- `FC_ATTITUDE_TLM_t` -/
structure AttitudeTlm extends FcStatePrefix where
  rollRad : UInt32
  pitchRad : UInt32
  yawRad : UInt32
  rollspeedRps : UInt32
  pitchspeedRps : UInt32
  yawspeedRps : UInt32
  deriving DecidableEq, Repr

/-- `FC_EKF_LOCAL_TLM_t` -/
structure EkfLocalTlm extends FcStatePrefix where
  x : UInt32
  y : UInt32
  z : UInt32
  vx : UInt32
  vy : UInt32
  vz : UInt32
  deriving DecidableEq, Repr

/-- `FC_GPS_RAW_TLM_t` -/
structure GpsRawTlm extends FcStatePrefix where
  fixType : UInt8
  satellitesVisible : UInt8
  latE7 : Int32
  lonE7 : Int32
  altMm : Int32
  deriving DecidableEq, Repr

/-- `FC_EKF_STATUS_TLM_t` -/
structure EkfStatusTlm extends FcStatePrefix where
  flags : UInt16
  deriving DecidableEq, Repr

/-- `MAVLINK_BRIDGE_APP_SysTimeTlm_t` -/
structure SysTimeTlm extends FcStatePrefix where
  timeUnixUsec : UInt64
  deriving DecidableEq, Repr

/-- The housekeeping message (`BRIDGE_HK_TLM_t`). -/
structure HkTlm where
  commandCounter : UInt8
  commandErrorCounter : UInt8
  linkState : UInt8
  lastErrorCode : UInt8
  bytesReceived : UInt32
  reconnectAttemptCount : UInt32
  parseErrorCount : UInt32
  nonFiniteValueCount : UInt32
  lastRxTimestampMs : UInt32
  missionUploadSuccessCount : UInt32
  missionUploadFailCount : UInt32
  lastUploadTimestampMs : UInt32
  lastUploadWaypointCount : UInt8
  lastUploadResult : UInt8
  deriving DecidableEq, Repr

/-- A message the bridge transmits on the bus. -/
inductive Message where
  | attitude (tlm : AttitudeTlm)
  | ekfLocal (tlm : EkfLocalTlm)
  | gpsRaw (tlm : GpsRawTlm)
  | ekfStatus (tlm : EkfStatusTlm)
  | sysTime (tlm : SysTimeTlm)
  | fcMissionReadback (tlm : RouteUpdate)
  | housekeeping (tlm : HkTlm)
  | execResult (result : ExecResult)
  deriving DecidableEq

/-- State of the flight-controller link (`MAVLINK_BRIDGE_APP_LinkState_t`). -/
inductive LinkState where
  | disconnected | degraded | connected
  deriving DecidableEq, Repr

/-- The code of a link state. -/
def LinkState.code : LinkState → UInt8
  | disconnected => 0 | degraded => 1 | connected => 2

/-- Progress of an upload (`MAVLINK_BRIDGE_APP_MissionUploadState_t`). -/
inductive UploadState where
  | idle | clearing | active
  deriving DecidableEq, Repr

/-- The code of an upload state. -/
def UploadState.code : UploadState → UInt8
  | idle => 0 | clearing => 1 | active => 2

/-- Progress of a download (`MAVLINK_BRIDGE_APP_MissionDownloadState_t`). -/
inductive DownloadState where
  | idle | waitCount | waitItem
  deriving DecidableEq, Repr

/-- The code of a download state. -/
def DownloadState.code : DownloadState → UInt8
  | idle => 0 | waitCount => 1 | waitItem => 2

/-- How the last upload ended (`MAVLINK_BRIDGE_UPLOAD_RESULT_*`). -/
inductive UploadResult where
  | none | success | timeout | nak
  deriving DecidableEq, Repr

/-- The code of an upload result. -/
def UploadResult.code : UploadResult → UInt8
  | none => 0 | success => 1 | timeout => 2 | nak => 3

/-- What went wrong last (`MAVLINK_BRIDGE_APP_ErrorCode_t`). -/
inductive ErrorCode where
  | none | linkDown | readTimeout | serialOpenFail | parseFail | ekfUnhealthy | gpsNoFix
  | invalidValue
  deriving DecidableEq, Repr

/-- The code of an error. -/
def ErrorCode.code : ErrorCode → UInt8
  | none => 0 | linkDown => 1 | readTimeout => 2 | serialOpenFail => 3 | parseFail => 4
  | ekfUnhealthy => 7 | gpsNoFix => 8 | invalidValue => 9

/-- Severities of the event messages. -/
inductive EventType where
  | information | error
  deriving DecidableEq, Repr

/-- Identifiers of the event messages. -/
inductive EventId where
  | commandErr | noop | reset | link | parse | stream | missionUploadInf | missionUploadErr
  | missionDownloadInf | missionDownloadErr | nonFiniteValueErr | missionReadback | stateSaveFail
  | setFlightMode | stateCorrupt
  deriving DecidableEq, Repr

/-- An event message. -/
structure Event where
  id : EventId
  type : EventType
  text : String
  deriving DecidableEq, Repr

/-- Something the bridge sends. -/
inductive Output where
  /-- A frame written to the line. -/
  | tx (frame : TxFrame)
  /-- A message transmitted on the bus. -/
  | message (message : Message)
  deriving DecidableEq

/-- The configured intervals (`MAVLINK_BRIDGE_APP_ConfigParams_t`). -/
structure ConfigParams where
  attitudeIntervalUs : UInt32
  localPositionIntervalUs : UInt32
  globalPositionIntervalUs : UInt32
  gpsRawIntervalUs : UInt32
  ekfStatusIntervalUs : UInt32
  reconnectIntervalMs : UInt32
  heartbeatIntervalMs : UInt32
  deriving DecidableEq, Repr

/-! ## The application data -/

/-- The application data (`MAVLINK_BRIDGE_APP_Data_t`) with what the bridge has done so far. -/
structure State where
  cmdCounter : UInt8
  errCounter : UInt8
  sequenceCounter : UInt32
  lastRxTimestampMs : UInt32
  lastReconnectAttemptMs : UInt32
  lastHeartbeatTxMs : UInt32
  lastStreamRequestMs : UInt32
  targetDiscoveryStartMs : UInt32
  reconnectAttemptCount : UInt32
  parseErrorCount : UInt32
  nonFiniteValueCount : UInt32
  bytesReceived : UInt32
  /-- Whether the serial port is open. -/
  serialOpen : Bool
  targetSystemId : UInt8
  targetComponentId : UInt8
  streamRequestPending : Bool
  streamRequestAckCount : UInt8
  linkState : LinkState
  lastErrorCode : ErrorCode
  missionUploadState : UploadState
  missionUploadRetry : UInt8
  /-- Waypoints of the pending mission in use. -/
  missionUploadWpCount : UInt8
  missionUploadTimeoutMs : UInt32
  missionUploadSuccessCount : UInt32
  missionUploadFailCount : UInt32
  lastUploadTimestampMs : UInt32
  lastUploadWaypointCount : UInt8
  lastUploadResult : UploadResult
  /-- The mission being uploaded. -/
  missionPending : WaypointArray
  /-- The mission of the last accepted upload, which edits start from. -/
  activeWaypoints : WaypointArray
  activeWaypointCount : UInt8
  /-- The item at which the vehicle resumes after an upload. -/
  activeResumeIndex : UInt8
  missionDownloadState : DownloadState
  missionDownloadSeq : UInt8
  missionDownloadExpectedCount : UInt8
  missionDownloadTimeoutMs : UInt32
  missionDownloadWaypoints : WaypointArray
  missionReadbackPending : Bool
  missionReadbackBackoffMs : UInt32
  missionReadbackNextRetryMs : UInt32
  missionReadbackSeq : UInt32
  fcMissionReadbackTlm : RouteUpdate
  fcBaseMode : UInt8
  fcSystemStatus : UInt8
  isArmed : Bool
  activeConfig : ConfigParams
  configGeneration : UInt32
  attitudeTlm : AttitudeTlm
  ekfLocalTlm : EkfLocalTlm
  gpsRawTlm : GpsRawTlm
  ekfStatusTlm : EkfStatusTlm
  sysTimeTlm : SysTimeTlm
  /-- Sequence number of the next frame sent (`MAVLINK_BRIDGE_APP_TxSequence`). -/
  txSequence : UInt8
  /-- What the bridge has sent, newest first. -/
  outputs : List Output
  /-- Events sent, newest first. -/
  events : List Event
  deriving DecidableEq

/-- The prefix of zeroed memory. -/
def FcStatePrefix.zero : FcStatePrefix := ⟨0, 0, 0, 0, 0⟩

/-- The configuration of a start without a state file. -/
def ConfigParams.default : ConfigParams where
  attitudeIntervalUs := 200000
  localPositionIntervalUs := 200000
  globalPositionIntervalUs := 200000
  gpsRawIntervalUs := 500000
  ekfStatusIntervalUs := 500000
  reconnectIntervalMs := 1000
  heartbeatIntervalMs := 1000

/-- The state after a start with a configuration (`MAVLINK_BRIDGE_APP_Init`). -/
def initialState (config : ConfigParams) : State where
  cmdCounter := 0
  errCounter := 0
  sequenceCounter := 0
  lastRxTimestampMs := 0
  lastReconnectAttemptMs := 0
  lastHeartbeatTxMs := 0
  lastStreamRequestMs := 0
  targetDiscoveryStartMs := 0
  reconnectAttemptCount := 0
  parseErrorCount := 0
  nonFiniteValueCount := 0
  bytesReceived := 0
  serialOpen := false
  targetSystemId := 0
  targetComponentId := 0
  streamRequestPending := false
  streamRequestAckCount := 0
  linkState := .disconnected
  lastErrorCode := .none
  missionUploadState := .idle
  missionUploadRetry := 0
  missionUploadWpCount := 0
  missionUploadTimeoutMs := 0
  missionUploadSuccessCount := 0
  missionUploadFailCount := 0
  lastUploadTimestampMs := 0
  lastUploadWaypointCount := 0
  lastUploadResult := .none
  missionPending := WaypointArray.zero
  activeWaypoints := WaypointArray.zero
  activeWaypointCount := 0
  activeResumeIndex := 0
  missionDownloadState := .idle
  missionDownloadSeq := 0
  missionDownloadExpectedCount := 0
  missionDownloadTimeoutMs := 0
  missionDownloadWaypoints := WaypointArray.zero
  missionReadbackPending := false
  missionReadbackBackoffMs := 1000
  missionReadbackNextRetryMs := 0
  missionReadbackSeq := 0
  fcMissionReadbackTlm := ⟨0, 0, 0, 0, 0, 0, WaypointArray.zero⟩
  fcBaseMode := 0
  fcSystemStatus := 0
  isArmed := false
  activeConfig := config
  configGeneration := 0
  attitudeTlm := ⟨FcStatePrefix.zero, 0, 0, 0, 0, 0, 0⟩
  ekfLocalTlm := ⟨FcStatePrefix.zero, 0, 0, 0, 0, 0, 0⟩
  gpsRawTlm := ⟨FcStatePrefix.zero, 0, 0, 0, 0, 0⟩
  ekfStatusTlm := ⟨FcStatePrefix.zero, 0⟩
  sysTimeTlm := ⟨FcStatePrefix.zero, 0⟩
  txSequence := 0
  outputs := []
  events := []

/-- Send an event message. -/
def sendEvent (id : EventId) (type : EventType) (text : String) (s : State) : State :=
  { s with events := ⟨id, type, text⟩ :: s.events }

/-- Transmit a message on the bus. -/
def transmitMsg (message : Message) (s : State) : State :=
  { s with outputs := .message message :: s.outputs }

/-- How a write to the line fails: the error number and the bytes written before it. -/
structure TxFault where
  errno : Nat
  written : Nat
  deriving DecidableEq, Repr

/-- What a call of the bridge meets outside: the clock and the writes it makes, in order. -/
structure Env where
  timeMs : UInt32
  tx : Nat → Option TxFault

/-- An undisturbed call at a time. -/
def Env.at (timeMs : UInt32) : Env := ⟨timeMs, fun _ => none⟩

/-- Whether a frame was sent (`CFE_Status_t` of a send). -/
inductive SendStatus where
  | success | resourceFail | badArgument
  deriving DecidableEq, Repr

/-- Send a frame of a message on the line. -/
def sendMavlinkV2 (kind : MessageKind) (payload : List UInt8) (fault : Option TxFault)
    (s : State) : SendStatus × State :=
  if s.serialOpen = false then (.resourceFail, s)
  else if 10 + payload.length + 2 > maxFrameLen then (.badArgument, s)
  else
    let numbered := { s with txSequence := s.txSequence + 1 }
    match fault with
    | none => (.success, { numbered with
        outputs := .tx ⟨s.txSequence, kind, payload⟩ :: s.outputs })
    | some fault => (.resourceFail, sendEvent .stream .error
        (s!"MAVLINK_BRIDGE_APP: MAVLink tx failed msgid={kind.id} errno={fault.errno} " ++
          s!"written={fault.written}/{12 + payload.length}") numbered)

/-- Sending a frame puts out the frame or nothing, and changes its numbering and the events. -/
theorem sendMavlinkV2_eq (kind : MessageKind) (payload : List UInt8) (fault : Option TxFault)
    (s : State) : ∃ txSequence events sent,
      (sendMavlinkV2 kind payload fault s).2 = { s with
        txSequence := txSequence
        events := events
        outputs := sent ++ s.outputs } ∧
      (sent = [] ∨ sent = [.tx ⟨s.txSequence, kind, payload⟩]) := by
  unfold sendMavlinkV2
  split
  · exact ⟨_, _, [], rfl, .inl rfl⟩
  · split
    · exact ⟨_, _, [], rfl, .inl rfl⟩
    · cases fault with
      | none => exact ⟨_, _, [.tx ⟨s.txSequence, kind, payload⟩], rfl, .inr rfl⟩
      | some fault => exact ⟨_, _, [], rfl, .inl rfl⟩

/-- Send `MISSION_CLEAR_ALL`. -/
def sendMissionClearAll (fault : Option TxFault) (s : State) : State :=
  (sendMavlinkV2 .missionClearAll [s.targetSystemId, s.targetComponentId, missionTypeMission]
    fault s).2

/-- Send `MISSION_COUNT`. -/
def sendMissionCount (wpCount : UInt8) (fault : Option TxFault) (s : State) : State :=
  (sendMavlinkV2 .missionCount (Words.bytes16 wpCount.toUInt16 ++
    [s.targetSystemId, s.targetComponentId, missionTypeMission]) fault s).2

/-- Send the pending waypoint at an index as `MISSION_ITEM_INT`. -/
def sendMissionItemInt (seq : UInt8) (fault : Option TxFault) (s : State) : State :=
  (sendMavlinkV2 .missionItemInt (missionItemIntPayload s.targetSystemId s.targetComponentId
    (slot s.missionPending seq.toNat) seq (seq == s.activeResumeIndex)) fault s).2

/-- Send the pending waypoint at an index as a legacy `MISSION_ITEM`. -/
def sendMissionItem (seq : UInt8) (fault : Option TxFault) (s : State) : State :=
  (sendMavlinkV2 .missionItem (missionItemPayload s.targetSystemId s.targetComponentId
    (slot s.missionPending seq.toNat) seq) fault s).2

/-- Send `MISSION_REQUEST_LIST`. -/
def sendMissionRequestList (fault : Option TxFault) (s : State) : State :=
  (sendMavlinkV2 .missionRequestList [s.targetSystemId, s.targetComponentId, missionTypeMission]
    fault s).2

/-- Request a downloaded item with `MISSION_REQUEST_INT`. -/
def sendMissionRequestIntDownload (seq : UInt8) (fault : Option TxFault) (s : State) : State :=
  (sendMavlinkV2 .missionRequestInt (Words.bytes16 seq.toUInt16 ++
    [s.targetSystemId, s.targetComponentId, missionTypeMission]) fault s).2

/-- Send an accepting `MISSION_ACK`. -/
def sendMissionAckAccepted (fault : Option TxFault) (s : State) : State :=
  (sendMavlinkV2 .missionAck [s.targetSystemId, s.targetComponentId, missionAccepted] fault s).2

end CfsTelemetry.Bridge
