import CfsTelemetry.Shared

/-!
# State of the LoRa application

The application data of the time-division link with what it has put on the software bus and on
the serial line. The receive buffer is the list of the bytes in use, and the file descriptor is
whether the port is open.
-/
namespace CfsTelemetry.Lora

/-- Feedback on the last uplink frame (`LORA_TDM_APP_UPLINK_FB_*`). -/
inductive Feedback where
  | ok | crcFail | seqFail | stateBlocked | failed | rejectVersion | rejectClass | rejectLength
  | routeMiss | rejectRoute | rejectChecksum | rejectViewpoint | rejectCounter
  | rejectFlightMode | applied
  deriving DecidableEq, Repr

/-- The code of a feedback in a downlink frame. -/
def Feedback.code : Feedback → UInt8
  | ok => 0 | crcFail => 1 | seqFail => 2 | stateBlocked => 3 | failed => 4
  | rejectVersion => 5 | rejectClass => 6 | rejectLength => 7 | routeMiss => 8
  | rejectRoute => 9 | rejectChecksum => 10 | rejectViewpoint => 11 | rejectCounter => 12
  | rejectFlightMode => 13 | applied => 0x0E

/-- Distinct feedbacks have distinct codes. -/
theorem Feedback.code_injective : Function.Injective Feedback.code := by
  intro first second equal
  cases first <;> cases second <;> first | rfl | exact absurd equal (by decide)

/-- State of the radio link (`LORA_TDM_APP_LINK_*`). -/
inductive LinkState where
  | disconnected | connected | degraded
  deriving DecidableEq, Repr

/-- The code of a link state in a downlink frame. -/
def LinkState.code : LinkState → UInt8
  | disconnected => 0 | connected => 1 | degraded => 2

/-- What the receiver is in the middle of (`LORA_TDM_RXFRAME_*`). -/
inductive RxFrameMode where
  | none | text | ack2 | up2Hdr | up2Body
  deriving DecidableEq, Repr

/-- The cached state of the flight controller (`LORA_TDM_APP_FcStateCache_t`). -/
structure FcStateCache where
  rollRad : UInt32
  pitchRad : UInt32
  yawRad : UInt32
  posX : UInt32
  posY : UInt32
  posZ : UInt32
  velX : UInt32
  velY : UInt32
  velZ : UInt32
  latE7 : Int32
  lonE7 : Int32
  altMm : Int32
  gpsFix : UInt8
  satellitesVisible : UInt8
  attitudeValid : UInt8
  localValid : UInt8
  gpsValid : UInt8
  ekfValid : UInt8
  timestampMs : UInt32
  timeUnixUsec : UInt64
  timeValid : UInt8
  deriving DecidableEq, Repr

/-- The cached system health (`LORA_TDM_APP_SystemHealthCache_t`). -/
structure SystemHealthCache where
  systemHealthState : UInt8
  faultCode : UInt8
  timestampMs : UInt32
  deriving DecidableEq, Repr

/-- Something the application sends. -/
inductive Output where
  /-- A command forwarded on the bus, and whether the bus takes it. -/
  | forward (cmd : ProcessUplinkCmd) (taken : Bool)
  /-- A binary downlink frame written to the serial line. -/
  | dl2 (frame : List UInt8)
  /-- A text line of a packet type written to the serial line. -/
  | line (packetType : UInt8)
  deriving DecidableEq

/-- Severities of the event messages. -/
inductive EventType where
  | information | error
  deriving DecidableEq, Repr

/-- Identifiers of the event messages. -/
inductive EventId where
  | serialWriteErr | serialReadErr | ackParseErr | crcFail | seqFail | linkLost | linkDegraded
  | linkRestored | routeSnapshot
  deriving DecidableEq, Repr

/-- An event message. -/
structure Event where
  id : EventId
  type : EventType
  text : String
  deriving DecidableEq, Repr

/-- The application data (`LORA_TDM_APP_Data_t`) with what the application has done so far. -/
structure State where
  linkState : LinkState
  packetType : UInt8
  downlinkSeq : UInt32
  /-- The sequence of the last downlink written, for comparison with acknowledgements. -/
  lastSentSeq : UInt32
  txCount : UInt32
  rxAckCount : UInt32
  rxCmdCount : UInt32
  rxErrorCount : UInt16
  noAckCount : UInt16
  ackReceivedThisCycle : Bool
  seqFailCount : UInt16
  lastAckTimestampMs : UInt32
  lastSerialOpenAttemptMs : UInt32
  /-- The feedback every downlink carries. -/
  pendingUplinkFeedback : Feedback
  linkStateInitialized : Bool
  uplinkLastAcceptedSequence : UInt16
  uplinkBootCount : UInt8
  routeReadbackPending : Bool
  routeType : UInt8
  routeWaypointCount : UInt8
  routePageIndex : UInt8
  routeTotalPages : UInt8
  routeWaypoints : WaypointArray
  /-- Whether the serial port is open. -/
  serialOpen : Bool
  useV2Downlink : Bool
  /-- The bytes of the frame being received. -/
  rxLineBuf : List UInt8
  rxFrameMode : RxFrameMode
  rxFrameTargetLen : Nat
  fcState : FcStateCache
  systemHealth : SystemHealthCache
  /-- What the application has sent, newest first. -/
  outputs : List Output
  /-- Events sent, newest first. -/
  events : List Event
  deriving DecidableEq

/-- Send an event message. -/
def sendEvent (id : EventId) (type : EventType) (text : String) (s : State) : State :=
  { s with events := ⟨id, type, text⟩ :: s.events }

/-- The state after a start without a state file. -/
def initialState : State where
  linkState := .disconnected
  packetType := 0
  downlinkSeq := 0
  lastSentSeq := 0
  txCount := 0
  rxAckCount := 0
  rxCmdCount := 0
  rxErrorCount := 0
  noAckCount := 0
  ackReceivedThisCycle := false
  seqFailCount := 0
  lastAckTimestampMs := 0
  lastSerialOpenAttemptMs := 0
  pendingUplinkFeedback := .ok
  linkStateInitialized := false
  uplinkLastAcceptedSequence := 0
  uplinkBootCount := 0
  routeReadbackPending := false
  routeType := 0
  routeWaypointCount := 0
  routePageIndex := 0
  routeTotalPages := 0
  routeWaypoints := WaypointArray.zero
  serialOpen := false
  useV2Downlink := true
  rxLineBuf := []
  rxFrameMode := .none
  rxFrameTargetLen := 0
  fcState := ⟨0, 0, 0, 0, 0, 0, 0, 0, 0, 0, 0, 0, 0, 0, 0, 0, 0, 0, 0, 0, 0⟩
  systemHealth := ⟨0, 0, 0⟩
  outputs := []
  events := []

end CfsTelemetry.Lora
