import CfsTelemetry.Bridge.State
import CfsTelemetry.StateFile
import CfsTelemetry.Uplink.State

/-!
# State of the core application

The application data with what the application has put on the bus, which applications it has
restarted, the events it has sent and the contents of its state file.
-/
namespace CfsTelemetry.Core

open Words

/-- Verdict on the system (`CFS_CORE_APP_HealthState_t`). -/
inductive HealthState where
  | nominal | degraded | recovery | failed
  deriving DecidableEq, Repr

/-- The code of a health state. -/
def HealthState.code : HealthState → UInt8
  | nominal => 0 | degraded => 1 | recovery => 2 | failed => 3

/-- The fault that a verdict reports (`CFS_CORE_APP_FaultCode_t`). -/
inductive FaultCode where
  | none | bridgeTimeout | gpsStale | ekfInvalid | localTimeout | attitudeTimeout | uplinkTimeout
  | loraTimeout
  deriving DecidableEq, Repr

/-- The code of a fault. -/
def FaultCode.code : FaultCode → UInt8
  | none => 0 | bridgeTimeout => 1 | gpsStale => 2 | ekfInvalid => 3 | localTimeout => 4
  | attitudeTimeout => 5 | uplinkTimeout => 6 | loraTimeout => 7

/-- What a recovery command asks for (`CFS_CORE_APP_RecoveryAction_t`). -/
inductive RecoveryAction where
  | resetCounter | restartBridge | parserReset | serialReconnect | restartUplink | restartLora
  deriving DecidableEq, Repr

/-- The code of a recovery action. -/
def RecoveryAction.code : RecoveryAction → UInt8
  | resetCounter => 0 | restartBridge => 1 | parserReset => 2 | serialReconnect => 3
  | restartUplink => 4 | restartLora => 5

/-- The action that a byte of a command names. -/
def RecoveryAction.ofByte : UInt8 → Option RecoveryAction
  | 0 => some resetCounter | 1 => some restartBridge | 2 => some parserReset
  | 3 => some serialReconnect | 4 => some restartUplink | 5 => some restartLora | _ => none

/-- An application that is supervised. -/
inductive App where
  | bridge | uplink | lora
  deriving DecidableEq, Repr

/-- A stream of state messages of the flight controller. -/
inductive Stream where
  | attitude | ekfLocal | gpsRaw | ekfStatus
  deriving DecidableEq, Repr

/-- Severities of the event messages. -/
inductive EventType where
  | debug | information | error
  deriving DecidableEq, Repr

/-- Identifiers of the event messages. -/
inductive EventId where
  | startup | hk | healthTransition | seqErr | timestampErr | bridgeRestart | seqGap | recoveryCmd
  | uplinkRestart | loraRestart | stateSaveFail | routeReadback | timebaseShift | nonfiniteValue
  | commandErr | stateCorrupt
  deriving DecidableEq, Repr

/-- An event message. -/
structure Event where
  id : EventId
  type : EventType
  text : String
  deriving DecidableEq, Repr

/-- What the health message says of a stream (`INPUT_STATUS_t`). -/
structure InputStatus where
  valid : UInt8
  stale : UInt8
  errorCode : UInt8
  timedOut : Bool
  deriving DecidableEq, Repr

/-- What the health message says of the bridge (`BRIDGE_STATUS_t`). -/
structure BridgeStatus where
  linkState : UInt8
  errorCode : UInt8
  timedOut : Bool
  deriving DecidableEq, Repr

/-- The health message (`SYSTEM_HEALTH_TLM_t`). -/
structure SystemHealthTlm where
  seq : UInt32
  timestampMs : UInt32
  lastValidInputTimestampMs : UInt32
  healthState : HealthState
  faultCode : FaultCode
  recoveryRequested : Bool
  attitudeStatus : InputStatus
  localStatus : InputStatus
  gpsStatus : InputStatus
  ekfStatus : InputStatus
  bridgeStatus : BridgeStatus
  uplinkTimedOut : Bool
  loraTimedOut : Bool
  deriving DecidableEq, Repr

/-- The housekeeping message (`CFS_CORE_APP_HkTlm_t`). -/
structure HkTlm where
  commandCounter : UInt8
  commandErrorCounter : UInt8
  missionRouteWaypointCount : UInt8
  publishCount : UInt32
  lastPublishTimestampMs : UInt32
  lastRouteUpdateTimestampMs : UInt32
  routeUpdateCount : UInt32
  bridgeRestartCount : UInt32
  uplinkRestartCount : UInt32
  loraRestartCount : UInt32
  lastFaultCode : UInt8
  timebaseShiftCount : UInt32
  deriving DecidableEq, Repr

/-- A command that the bridge is sent. -/
inductive BridgeCtrl where
  | parserReset | serialReconnect
  deriving DecidableEq, Repr

/-- A message the application transmits. -/
inductive Message where
  | systemHealth (tlm : SystemHealthTlm)
  | housekeeping (tlm : HkTlm)
  | execResult (tlm : ExecResult)
  | bridgeCtrl (cmd : BridgeCtrl)
  deriving DecidableEq

/-- Something the application does to the rest of the system. -/
inductive Output where
  /-- A message given to the bus. -/
  | message (message : Message)
  /-- An application restarted. -/
  | restartApp (app : App)
  deriving DecidableEq

/-! ## The application data -/

/-- The last message of a stream (`CFS_CORE_APP_StateCache_t`). -/
structure StateCache where
  /-- Time of the flight controller. -/
  timestampMs : UInt32
  /-- Time at which the message arrived. -/
  arrivalMs : UInt32
  seq : UInt32
  valid : UInt8
  stale : UInt8
  errorCode : UInt8
  received : Bool
  deriving DecidableEq, Repr

/-- The last housekeeping message of the bridge (`CFS_CORE_APP_BridgeCache_t`). -/
structure BridgeCache where
  linkState : UInt8
  lastErrorCode : UInt8
  lastRxTimestampMs : UInt32
  received : Bool
  deriving DecidableEq, Repr

/-- When the last housekeeping message of an application arrived
(`CFS_CORE_APP_AppHkCache_t`). -/
structure AppHkCache where
  lastHkRxMs : UInt32
  received : Bool
  deriving DecidableEq, Repr

/-- The mission as it was last reported (`CFS_CORE_APP_RouteCache_t`). -/
structure RouteCache where
  timestampMs : UInt32
  sourceSequence : UInt32
  updateCount : UInt32
  routeType : UInt8
  routeVersion : UInt8
  waypointCount : UInt8
  valid : Bool
  waypoints : WaypointArray
  deriving DecidableEq

/-- The supervision of an application: its automatic restarts, and when the next one is due;
zero while it is not timed out (`*RestartCount` and `Next*RestartMs`). -/
structure RestartTimer where
  count : UInt32
  nextMs : UInt32
  deriving DecidableEq, Repr

/-- The configured times (`CFS_CORE_APP_ConfigParams_t`). -/
structure ConfigParams where
  attitudeTimeoutMs : UInt32
  localTimeoutMs : UInt32
  gpsTimeoutMs : UInt32
  ekfTimeoutMs : UInt32
  bridgeTimeoutMs : UInt32
  publishPeriodMs : UInt32
  deriving DecidableEq, Repr

/-- The application data (`CFS_CORE_APP_Data_t`) with what the application has done so far. -/
structure State where
  cmdCounter : UInt8
  errCounter : UInt8
  /-- The health state published last, or restored at the start. -/
  lastHealthState : UInt8
  activeConfig : ConfigParams
  seqRejectedCount : UInt32
  seqGapCount : UInt32
  timestampRejectedCount : UInt32
  timebaseShiftCount : UInt32
  bridgeRestart : RestartTimer
  uplinkRestart : RestartTimer
  loraRestart : RestartTimer
  lastFaultCode : UInt8
  /-- Since when there was no fault; zero for no such time. -/
  nominalEligibleSince : UInt32
  /-- Since when the bridge was timed out; zero for no such time. -/
  recoveryStartMs : UInt32
  recoveryRequestedCount : UInt32
  sequenceCounter : UInt32
  publishCount : UInt32
  lastPublishTimeMs : UInt32
  attitudeState : StateCache
  localState : StateCache
  gpsState : StateCache
  ekfState : StateCache
  bridgeState : BridgeCache
  uplinkAppState : AppHkCache
  loraAppState : AppHkCache
  missionRoute : RouteCache
  /-- What the application has done, newest first. -/
  outputs : List Output
  /-- Events sent, newest first. -/
  events : List Event
  /-- Contents of the state file, when it exists. -/
  stateFile : Option (List UInt8)
  deriving DecidableEq

/-- The cache of a stream. -/
def State.cache (s : State) : Stream → StateCache
  | .attitude => s.attitudeState
  | .ekfLocal => s.localState
  | .gpsRaw => s.gpsState
  | .ekfStatus => s.ekfState

/-- Replace the cache of a stream. -/
def State.setCache (s : State) (stream : Stream) (cache : StateCache) : State :=
  match stream with
  | .attitude => { s with attitudeState := cache }
  | .ekfLocal => { s with localState := cache }
  | .gpsRaw => { s with gpsState := cache }
  | .ekfStatus => { s with ekfState := cache }

/-- The supervision of an application. -/
def State.timer (s : State) : App → RestartTimer
  | .bridge => s.bridgeRestart
  | .uplink => s.uplinkRestart
  | .lora => s.loraRestart

/-- Replace the supervision of an application. -/
def State.setTimer (s : State) (app : App) (timer : RestartTimer) : State :=
  match app with
  | .bridge => { s with bridgeRestart := timer }
  | .uplink => { s with uplinkRestart := timer }
  | .lora => { s with loraRestart := timer }

/-- How far the file operations of a state save get. A write that fails may have written a part of
the record. -/
inductive SaveIo where
  | openFailed (errno : Int)
  | writeFailed (errno : Int) (written : Fin 52)
  | renameFailed (errno : Int)
  | renamed
  deriving DecidableEq, Repr

/-- What a call meets outside: the time, of which the clock shows the low 32 bits, which
applications are found by name, the saves it makes, in order, and the answers of the bus to a
command. -/
structure Env where
  timeMs : Nat
  found : App → Bool
  save : Nat → SaveIo
  stateFilePath : String
  setFcnCode : Bool
  transmit : Bool

/-- The clock reading (`CFS_CORE_APP_GetTimeMs`). -/
def Env.nowMs (env : Env) : UInt32 := UInt32.ofNat env.timeMs

/-- A call at a time at which everything outside succeeds. -/
def Env.at (timeMs : Nat) : Env where
  timeMs := timeMs
  found := fun _ => true
  save := fun _ => .renamed
  stateFilePath := "cf/cfs_core_app_state.bin"
  setFcnCode := true
  transmit := true

/-- Send an event message. -/
def sendEvent (id : EventId) (type : EventType) (text : String) (s : State) : State :=
  { s with events := ⟨id, type, text⟩ :: s.events }

/-- Transmit a message on the bus. -/
def transmitMsg (message : Message) (s : State) : State :=
  { s with outputs := .message message :: s.outputs }

/-! ## The state file -/

/-- The record of the state file (`CFS_CORE_APP_PersistentState_t`). -/
structure PersistentState where
  magic : UInt32
  lastHealthState : UInt8
  configVersion : UInt8
  config : ConfigParams
  bridgeRestartCount : UInt32
  uplinkRestartCount : UInt32
  loraRestartCount : UInt32
  lastFaultCode : UInt8
  checksum : UInt32
  deriving DecidableEq, Repr

/-- The checksum of a record (`CFS_CORE_APP_ComputeStateChecksum`). -/
def computeStateChecksum (record : PersistentState) : UInt32 :=
  record.magic + record.lastHealthState.toUInt32 + record.configVersion.toUInt32 +
    record.config.attitudeTimeoutMs + record.config.localTimeoutMs + record.config.gpsTimeoutMs +
    record.config.ekfTimeoutMs + record.config.bridgeTimeoutMs + record.config.publishPeriodMs +
    record.bridgeRestartCount + record.uplinkRestartCount + record.loraRestartCount +
    record.lastFaultCode.toUInt32

/-- The bytes of a record, in file order. -/
def PersistentState.encode (record : PersistentState) : List UInt8 :=
  bytes32 record.magic ++ [record.lastHealthState, record.configVersion, 0, 0] ++
    bytes32 record.config.attitudeTimeoutMs ++ bytes32 record.config.localTimeoutMs ++
    bytes32 record.config.gpsTimeoutMs ++ bytes32 record.config.ekfTimeoutMs ++
    bytes32 record.config.bridgeTimeoutMs ++ bytes32 record.config.publishPeriodMs ++
    bytes32 record.bridgeRestartCount ++ bytes32 record.uplinkRestartCount ++
    bytes32 record.loraRestartCount ++ [record.lastFaultCode, 0, 0, 0] ++ bytes32 record.checksum

/-- The first word of a state file (`CFS_CORE_APP_STATE_MAGIC`). -/
def stateMagic : UInt32 := 0xCF5C0A00

/-- The version of the configuration (`CFS_CORE_APP_CONFIG_VERSION`). -/
def configVersion : UInt8 := 1

/-- The record that a save writes. -/
def persistentState (s : State) : PersistentState :=
  let record : PersistentState := {
    magic := stateMagic
    lastHealthState := s.lastHealthState
    configVersion := configVersion
    config := s.activeConfig
    bridgeRestartCount := s.bridgeRestart.count
    uplinkRestartCount := s.uplinkRestart.count
    loraRestartCount := s.loraRestart.count
    lastFaultCode := s.lastFaultCode
    checksum := 0 }
  { record with checksum := computeStateChecksum record }

/-- Save the health state, the configuration and the restarts. -/
def saveState (io : SaveIo) (path : String) (s : State) : State :=
  let bytes := (persistentState s).encode
  match io with
  | .openFailed errno => sendEvent .stateSaveFail .error
      s!"CFS_CORE_APP: state save open failed path={StateFile.tmpPath path} errno={errno}" s
  | .writeFailed errno written => sendEvent .stateSaveFail .error
      s!"CFS_CORE_APP: state save write failed path={StateFile.tmpPath path} errno={errno}"
      { s with stateFile := StateFile.unrenamed path s.stateFile (bytes.take written) }
  | .renameFailed errno => sendEvent .stateSaveFail .error
      s!"CFS_CORE_APP: state save rename failed path={path} errno={errno}"
      { s with stateFile := StateFile.unrenamed path s.stateFile bytes }
  | .renamed => { s with stateFile := some bytes }

/-- The configuration of a start without a state file. -/
def ConfigParams.default : ConfigParams where
  attitudeTimeoutMs := 2000
  localTimeoutMs := 2000
  gpsTimeoutMs := 3000
  ekfTimeoutMs := 2000
  bridgeTimeoutMs := 3000
  publishPeriodMs := 1000

/-- What a start restores from the state file. -/
structure Restored where
  lastHealthState : UInt8
  config : ConfigParams
  bridgeRestartCount : UInt32
  uplinkRestartCount : UInt32
  loraRestartCount : UInt32
  lastFaultCode : UInt8
  deriving DecidableEq, Repr

/-- What a start without a state file begins with. -/
def Restored.none : Restored := ⟨HealthState.nominal.code, ConfigParams.default, 0, 0, 0, 0⟩

/-- The cache of zeroed memory. -/
def StateCache.zero : StateCache := ⟨0, 0, 0, 0, 0, 0, false⟩

/-- The state after a start (`CFS_CORE_APP_Init`). -/
def initialState (restored : Restored) (stateFile : Option (List UInt8)) : State where
  cmdCounter := 0
  errCounter := 0
  lastHealthState := restored.lastHealthState
  activeConfig := restored.config
  seqRejectedCount := 0
  seqGapCount := 0
  timestampRejectedCount := 0
  timebaseShiftCount := 0
  bridgeRestart := ⟨restored.bridgeRestartCount, 0⟩
  uplinkRestart := ⟨restored.uplinkRestartCount, 0⟩
  loraRestart := ⟨restored.loraRestartCount, 0⟩
  lastFaultCode := restored.lastFaultCode
  nominalEligibleSince := 0
  recoveryStartMs := 0
  recoveryRequestedCount := 0
  sequenceCounter := 0
  publishCount := 0
  lastPublishTimeMs := 0
  attitudeState := StateCache.zero
  localState := StateCache.zero
  gpsState := StateCache.zero
  ekfState := StateCache.zero
  bridgeState := ⟨0, 0, 0, false⟩
  uplinkAppState := ⟨0, false⟩
  loraAppState := ⟨0, false⟩
  missionRoute := ⟨0, 0, 0, 0, 0, 0, false, WaypointArray.zero⟩
  outputs := []
  events := []
  stateFile := stateFile

end CfsTelemetry.Core
