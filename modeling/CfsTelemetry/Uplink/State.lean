import CfsTelemetry.Library.Crc
import CfsTelemetry.Uplink.Messages
import CfsTelemetry.StateFile

/-!
# State of the uplink application

The application data, what one call reads from outside, and the two operations every handler
ends with: publishing the status message and saving the replay state. The state also holds
what the application has put on the software bus, the events it has sent and the contents of
its state file, so that a handler is a function from state to state.
-/
namespace CfsTelemetry.Uplink

open Words

/-- The status of the application (`UPLINK_APP_StatusTlm_t`). -/
structure StatusTlm where
  seq : UInt32
  timestampMs : UInt32
  lastRxTimestampMs : UInt32
  acceptedCount : UInt32
  rejectedCount : UInt32
  routingFailureCount : UInt32
  lastCommandCode : UInt16
  lastCommandSequence : UInt16
  lastCommandResult : UInt8
  linkState : UInt8
  valid : UInt8
  activeTransportId : UInt8
  lastRouteTarget : UInt8
  configPendingState : UInt8
  lastConfigResult : UInt8
  lastRollbackReason : UInt8
  fcMissionResult : UInt8
  fcMissionUploadState : UInt8
  bootCount : UInt8
  bootLoopSuspect : UInt8
  shortBootStreak : UInt8
  lastResetReason : UInt8
  fcMissionUploadSuccessCount : UInt32
  lastAcceptedSequence : UInt16
  deriving DecidableEq, Repr

/-- A recovery command for the core application (`RECOVERY_CMD_TLM_t`). -/
structure RecoveryCmdTlm where
  seq : UInt32
  timestampMs : UInt32
  sourceSequence : UInt16
  recoveryAction : UInt8
  targetComponent : UInt8
  reasonCode : UInt16
  requestToken : UInt32
  deriving DecidableEq, Repr

/-- A viewpoint command for the core application (`VIEWPOINT_CMD_TLM_t`). -/
structure ViewpointCmdTlm where
  seq : UInt32
  timestampMs : UInt32
  sourceSequence : UInt16
  viewpointType : UInt8
  positionFrame : UInt8
  x : UInt32
  y : UInt32
  z : UInt32
  yaw : UInt32
  pitch : UInt32
  holdTimeMs : UInt32
  deriving DecidableEq, Repr

/-- A configuration command for the applications (`CONFIG_CMD_TLM_t`). -/
structure ConfigCmdTlm where
  seq : UInt32
  timestampMs : UInt32
  sourceSequence : UInt16
  payloadLength : UInt8
  payload : Vector UInt8 maxPayloadLength
  deriving DecidableEq

/-- A mode command for the core application (`MODE_CMD_TLM_t`). -/
structure ModeCmdTlm where
  seq : UInt32
  timestampMs : UInt32
  sourceSequence : UInt16
  modeAction : UInt8
  requestedState : UInt8
  requestToken : UInt32
  deriving DecidableEq, Repr

/-- A diagnostic command for the downlink (`DIAGNOSTIC_CMD_TLM_t`). -/
structure DiagnosticCmdTlm where
  seq : UInt32
  timestampMs : UInt32
  sourceSequence : UInt16
  diagAction : UInt8
  diagTarget : UInt8
  requestToken : UInt32
  deriving DecidableEq, Repr

/-- A flight-mode command for the bridge (`UPLINK_APP_FlightModeCtrlCmd_t`). -/
structure FlightModeCtrlCmd where
  sourceSequence : UInt16
  flightMode : UInt8
  waypointStartIndex : UInt8
  deriving DecidableEq, Repr

/-- The housekeeping message (`UPLINK_APP_HkTlm_t`). -/
structure HkTlm where
  commandCounter : UInt8
  commandErrorCounter : UInt8
  publishCount : UInt32
  lastPublishTimestampMs : UInt32
  deriving DecidableEq, Repr

/-- A message the application transmits. -/
inductive Message where
  | status (tlm : StatusTlm)
  | housekeeping (tlm : HkTlm)
  | routeUpdate (tlm : RouteUpdate)
  | recovery (tlm : RecoveryCmdTlm)
  | viewpoint (tlm : ViewpointCmdTlm)
  | config (tlm : ConfigCmdTlm)
  | mode (tlm : ModeCmdTlm)
  | diagnostic (tlm : DiagnosticCmdTlm)
  | resetCounters (target : CounterScope)
  | flightMode (cmd : FlightModeCtrlCmd)
  deriving DecidableEq

/-- The messages that report on the application itself, as opposed to carrying out a command. -/
def Message.isReport : Message → Bool
  | status _ | housekeeping _ => true
  | _ => false

/-- Something the application does to the rest of the system or to its own counters. -/
inductive Output where
  /-- A message given to the bus, and whether the bus took it. -/
  | transmit (message : Message) (taken : Bool)
  /-- The local counters reset on behalf of a command. -/
  | countersReset
  deriving DecidableEq

/-- Event message severities. -/
inductive EventType where
  | debug | information | error
  deriving DecidableEq, Repr

/-- Event message identifiers of the application. -/
inductive EventId where
  | startup | commandErr | noop | reset | publish | stateBlock | authzBlock | duplicate
  | stateCorrupt | stateSaveFail
  deriving DecidableEq, Repr

/-- An event message. -/
structure Event where
  id : EventId
  type : EventType
  text : String
  deriving DecidableEq, Repr

/-! ## The state -/

/-- The application data (`UPLINK_APP_Data_t`) with what the application has done so far. -/
structure State where
  cmdCounter : UInt8
  errCounter : UInt8
  sequenceCounter : UInt32
  publishCount : UInt32
  lastPublishTimeMs : UInt32
  lastRxTimeMs : UInt32
  /-- Commands accepted; zero before the first. -/
  acceptedCount : UInt32
  rejectedCount : UInt32
  duplicateCount : UInt32
  routingFailureCount : UInt32
  /-- Sequence of the last accepted command. -/
  lastAcceptedSequence : UInt32
  bootCount : UInt8
  lastResetReason : UInt8
  /-- Whether this session has survived. -/
  survivedMark : UInt8
  /-- Whether the session before survived. -/
  prevSurvivedMark : UInt8
  shortBootStreak : UInt8
  /-- Whether the streak has reached its threshold. -/
  bootLoopSuspect : UInt8
  bootStartMs : UInt32
  lastCommandCode : UInt16
  /-- Sequence of the last command received. -/
  lastRxSequence : UInt16
  lastCommandResult : Result
  lastRouteTarget : RouteTarget
  linkState : LinkState
  valid : UInt8
  activeTransportId : UInt8
  configPendingState : ConfigPendingState
  lastConfigResult : UInt8
  lastRollbackReason : UInt8
  cfsHealthState : UInt8
  /-- Whether a health state has been received. -/
  cfsHealthReceived : Bool
  fcMissionResult : UInt8
  fcMissionUploadState : UInt8
  fcMissionUploadSuccessCount : UInt32
  flightModeCtrlCmd : FlightModeCtrlCmd
  /-- What the application has done, newest first. -/
  outputs : List Output
  /-- Events sent, newest first. -/
  events : List Event
  /-- Contents of the state file, when it exists. -/
  stateFile : Option (List UInt8)
  deriving DecidableEq

/-- How far the file operations of a state save get. -/
inductive SaveIo where
  | openFailed (errno : Int)
  | writeFailed (errno : Int)
  | renameFailed (errno : Int)
  | renamed
  deriving DecidableEq, Repr

/-- How far the file operations of a state load get. -/
inductive LoadIo where
  | openFailed (errno : Int)
  | readFailed
  | read
  deriving DecidableEq, Repr

/-- What one call reads from outside the application: readings of the millisecond clock, and
the outcomes of its bus and file operations. A call transmits at most one command message. -/
structure Env where
  /-- Clock reading at the start of the handler. -/
  nowMs : UInt32
  /-- Clock reading of the survival check. -/
  survivalMs : UInt32
  /-- Clock reading when the status is published. -/
  publishMs : UInt32
  /-- Whether the bus sets a function code. -/
  setFcnCode : Bool
  /-- Whether the bus takes the command message. -/
  transmit : Bool
  /-- Whether the bus takes the status or housekeeping message. -/
  reportTransmit : Bool
  /-- Outcome of a state save. -/
  save : SaveIo
  /-- Path of the state file. -/
  stateFilePath : String
  /-- Bytes of the command header of the bus. -/
  commandHeaderSize : Nat
  deriving DecidableEq

/-- Send an event message. -/
def sendEvent (id : EventId) (type : EventType) (text : String) (s : State) : State :=
  { s with events := ⟨id, type, text⟩ :: s.events }

/-- Give a message to the bus, noting whether the bus takes it. -/
def transmitMsg (message : Message) (taken : Bool) (s : State) : State :=
  { s with outputs := .transmit message taken :: s.outputs }

/-- The status message of a state at a time. -/
def statusTlm (nowMs : UInt32) (s : State) : StatusTlm where
  seq := s.sequenceCounter
  timestampMs := nowMs
  lastRxTimestampMs := s.lastRxTimeMs
  acceptedCount := s.acceptedCount
  rejectedCount := s.rejectedCount
  routingFailureCount := s.routingFailureCount
  lastCommandCode := s.lastCommandCode
  lastCommandSequence := s.lastRxSequence
  lastCommandResult := s.lastCommandResult.code
  linkState := s.linkState.code
  valid := s.valid
  activeTransportId := s.activeTransportId
  lastRouteTarget := s.lastRouteTarget.code
  configPendingState := s.configPendingState.code
  lastConfigResult := s.lastConfigResult
  lastRollbackReason := s.lastRollbackReason
  fcMissionResult := s.fcMissionResult
  fcMissionUploadState := s.fcMissionUploadState
  bootCount := s.bootCount
  bootLoopSuspect := s.bootLoopSuspect
  shortBootStreak := s.shortBootStreak
  lastResetReason := s.lastResetReason
  fcMissionUploadSuccessCount := s.fcMissionUploadSuccessCount
  lastAcceptedSequence := s.lastAcceptedSequence.toUInt16

/-- Publish the status; a time of zero asks for the clock to be read. -/
def updateStatusTelemetry (env : Env) (nowMs : UInt32) (s : State) : State :=
  let nowMs := if nowMs = 0 then env.publishMs else nowMs
  let counted := { s with
    lastPublishTimeMs := nowMs
    publishCount := s.publishCount + 1
    sequenceCounter := s.sequenceCounter + 1 }
  transmitMsg (.status (statusTlm nowMs counted)) env.reportTransmit counted

/-- Publish the housekeeping message. -/
def reportHousekeeping (env : Env) (s : State) : State :=
  transmitMsg (.housekeeping ⟨s.cmdCounter, s.errCounter, s.publishCount, s.lastPublishTimeMs⟩)
    env.reportTransmit s

/-! ## The state file -/

/-- The checksum of the application (`UPLINK_APP_CRC16`). -/
def crc16 (bytes : List UInt8) : UInt16 := Crc.checksum 0x1021 0xFFFF bytes

/-- The first word of a state file (`UPLINK_APP_STATE_MAGIC`). -/
def stateMagic : UInt32 := 0x55504C4B

/-- The record of the state file (`UPLINK_APP_PersistentState_t`). -/
structure PersistentState where
  magic : UInt32
  lastAcceptedSequence : UInt32
  bootCount : UInt32
  lastResetReason : UInt8
  survivedMark : UInt8
  shortBootStreak : UInt8
  bootReserved : UInt8
  checksum : UInt32
  deriving DecidableEq, Repr

namespace PersistentState

/-- The bytes before the checksum, in file order. -/
def covered (record : PersistentState) : List UInt8 :=
  bytes32 record.magic ++ (bytes32 record.lastAcceptedSequence ++ (bytes32 record.bootCount ++
    [record.lastResetReason, record.survivedMark, record.shortBootStreak, record.bootReserved]))

/-- The bytes of the record, in file order. -/
def encode (record : PersistentState) : List UInt8 := record.covered ++ bytes32 record.checksum

/-- The record of exactly as many bytes as a record has. -/
def decode (bytes : List UInt8) : Option PersistentState := do
  let (magic, rest) ← take32 bytes
  let (lastAcceptedSequence, rest) ← take32 rest
  let (bootCount, rest) ← take32 rest
  match rest with
  | lastResetReason :: survivedMark :: shortBootStreak :: bootReserved :: rest =>
    let (checksum, _) ← take32 rest
    some ⟨magic, lastAcceptedSequence, bootCount, lastResetReason, survivedMark,
      shortBootStreak, bootReserved, checksum⟩
  | _ => none

/-- A record has twenty bytes. -/
theorem encode_length (record : PersistentState) : record.encode.length = 20 := by
  simp [encode, covered, bytes32]

/-- A written record is read back. -/
theorem decode_encode (record : PersistentState) : decode record.encode = some record := by
  have tail := take32_bytes32 record.checksum []
  rw [List.append_nil] at tail
  simp [decode, encode, covered, List.append_assoc, take32_bytes32, tail]

end PersistentState

/-- The record a save writes. -/
def persistentState (s : State) : PersistentState :=
  let record : PersistentState := {
    magic := stateMagic
    lastAcceptedSequence := s.lastAcceptedSequence
    bootCount := s.bootCount.toUInt32
    lastResetReason := s.lastResetReason
    survivedMark := s.survivedMark
    shortBootStreak := s.shortBootStreak
    bootReserved := 0
    checksum := 0 }
  { record with checksum := (crc16 record.covered).toUInt32 }

/-- Save the replay state and the boot marker. A save that fails leaves the state file as it was:
the path is one that leaves room for the suffix of the temporary file. -/
def saveState (env : Env) (s : State) : State :=
  let path := env.stateFilePath
  match env.save with
  | .openFailed errno => sendEvent .stateSaveFail .error
      s!"UPLINK_APP: state save open failed path={StateFile.tmpPath path} errno={errno}" s
  | .writeFailed errno => sendEvent .stateSaveFail .error
      s!"UPLINK_APP: state save write failed path={StateFile.tmpPath path} errno={errno}" s
  | .renameFailed errno => sendEvent .stateSaveFail .error
      s!"UPLINK_APP: state save rename failed path={path} errno={errno}" s
  | .renamed => { s with stateFile := some (persistentState s).encode }

/-- Why the contents of a state file are not used. -/
inductive StateDefect where
  | truncated (size : Nat)
  | badMagic (magic : UInt32)
  | checksumMismatch
  deriving DecidableEq, Repr

/-- The record of a state file whose length, magic word and checksum are right. -/
def checkState (bytes : List UInt8) : Except StateDefect PersistentState :=
  match PersistentState.decode (bytes.take 20) with
  | none => .error (.truncated (bytes.take 20).length)
  | some record =>
    if record.magic ≠ stateMagic then .error (.badMagic record.magic)
    else if record.checksum ≠ (crc16 record.covered).toUInt32 then .error .checksumMismatch
    else .ok record

/-- A saved record passes the checks of a load. -/
theorem checkState_persistentState (s : State) :
    checkState (persistentState s).encode = .ok (persistentState s) := by
  have whole : (persistentState s).encode.take 20 = (persistentState s).encode :=
    List.take_of_length_le (PersistentState.encode_length _).le
  have magic : (persistentState s).magic = stateMagic := rfl
  have checksum : (persistentState s).checksum = (crc16 (persistentState s).covered).toUInt32 :=
    rfl
  rw [checkState, whole, PersistentState.decode_encode]
  simp only [← magic, ← checksum, ne_eq, not_true_eq_false, if_false]

/-- Restore the replay state and the boot marker from the state file. -/
def loadState (io : LoadIo) (s : State) : State :=
  match io, s.stateFile with
  | .openFailed errno, _ => sendEvent .stateCorrupt .error
      s!"UPLINK_APP: state file open failed errno={errno}, using defaults" s
  | _, none => s
  | .readFailed, some _ => sendEvent .stateCorrupt .error
      "UPLINK_APP: state file truncated (rc=-1), using defaults" s
  | .read, some bytes =>
    match checkState bytes with
    | .error (.truncated size) => sendEvent .stateCorrupt .error
        s!"UPLINK_APP: state file truncated (rc={size}), using defaults" s
    | .error (.badMagic magic) => sendEvent .stateCorrupt .error
        s!"UPLINK_APP: state file bad magic (0x{hexText 8 magic.toNat}), using defaults" s
    | .error .checksumMismatch => sendEvent .stateCorrupt .error
        "UPLINK_APP: state file checksum mismatch, using defaults" s
    | .ok record =>
      let restored := { s with
        lastAcceptedSequence := record.lastAcceptedSequence
        acceptedCount := 1
        bootCount := record.bootCount.toUInt8
        prevSurvivedMark := record.survivedMark
        shortBootStreak := record.shortBootStreak }
      sendEvent .startup .information
        (s!"UPLINK_APP: restored persistent state seq={record.lastAcceptedSequence} " ++
          s!"boot_count={restored.bootCount}") restored

/-- The sequence the state file would restore as the last accepted one. -/
def savedSequence (s : State) : Option UInt32 :=
  match s.stateFile with
  | none => none
  | some bytes => (checkState bytes).toOption.map (·.lastAcceptedSequence)

end CfsTelemetry.Uplink
