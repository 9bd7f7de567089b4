import CfsTelemetry.Bridge.State
import CfsTelemetry.StateFile

/-!
# Configuration and flight mode

The two commands of the ground whose outcome is reported back: a configuration command sets one
parameter of the active configuration, and a flight mode command asks the flight controller for
a mode and, for a mission, for the item to begin with.
-/
namespace CfsTelemetry.Bridge

/-- Report how a command ended (`MAVLINK_BRIDGE_APP_PublishExecResult`). -/
def publishExecResult (sourceSequence : UInt16) (commandClass : UInt8) (ok : Bool)
    (detailCode : UInt8) (s : State) : State :=
  transmitMsg (.execResult ⟨sourceSequence, 2, commandClass, if ok then 0 else 1, detailCode⟩) s

/-- How a configuration command ends (`MAVLINK_BRIDGE_CONFIG_RESULT_*`). -/
inductive ConfigResult where
  | ok | badVersion | badParam | badValue | badLength | badChecksum
  deriving DecidableEq, Repr

/-- The code of the result of a configuration command. -/
def ConfigResult.code : ConfigResult → UInt8
  | ok => 0 | badVersion => 2 | badParam => 3 | badValue => 4 | badLength => 5 | badChecksum => 6

/-- The shortest interval of a stream. -/
def paramIntervalMinUs : UInt32 := 10000

/-- The longest interval of a stream. -/
def paramIntervalMaxUs : UInt32 := 10000000

/-- The shortest interval of the service. -/
def paramMsMin : UInt32 := 100

/-- The longest interval of the service. -/
def paramMsMax : UInt32 := 60000

/-- Set a parameter of a configuration (`MAVLINK_BRIDGE_APP_ParamId_t`). -/
def ConfigParams.set (parameterId : UInt16) (value : UInt32) (config : ConfigParams) :
    Except ConfigResult ConfigParams :=
  let interval := fun changed : ConfigParams =>
    if value < paramIntervalMinUs ∨ value > paramIntervalMaxUs then .error .badValue
    else .ok changed
  let duration := fun changed : ConfigParams =>
    if value < paramMsMin ∨ value > paramMsMax then .error .badValue else .ok changed
  if parameterId = 0 then interval { config with attitudeIntervalUs := value }
  else if parameterId = 1 then interval { config with localPositionIntervalUs := value }
  else if parameterId = 2 then interval { config with globalPositionIntervalUs := value }
  else if parameterId = 3 then interval { config with gpsRawIntervalUs := value }
  else if parameterId = 4 then interval { config with ekfStatusIntervalUs := value }
  else if parameterId = 5 then duration { config with reconnectIntervalMs := value }
  else if parameterId = 6 then duration { config with heartbeatIntervalMs := value }
  else .error .badParam

/-- Whether no interval of a configuration is too short. -/
def ConfigParams.consistent (config : ConfigParams) : Bool :=
  ¬ (config.attitudeIntervalUs < paramIntervalMinUs ∨
    config.localPositionIntervalUs < paramIntervalMinUs ∨
    config.globalPositionIntervalUs < paramIntervalMinUs ∨
    config.gpsRawIntervalUs < paramIntervalMinUs ∨
    config.ekfStatusIntervalUs < paramIntervalMinUs ∨
    config.reconnectIntervalMs < paramMsMin ∨ config.heartbeatIntervalMs < paramMsMin)

/-- The checksum a configuration command should carry (`MAVLINK_BRIDGE_APP_ConfigChecksum`). -/
def configChecksum (cmd : ConfigCmd) : UInt16 := cmd.sum

/-- How saving the configuration ends: at the path of the state file, with the error number of the
call that failed, or well. A write that fails may have written a part of the record. -/
inductive SaveResult where
  | openFailed (statePath : String) (errno : Nat)
  | writeFailed (statePath : String) (errno : Nat) (written : Fin 40)
  | renameFailed (statePath : String) (errno : Nat)
  | written
  deriving DecidableEq, Repr

/-- Save the configuration (`MAVLINK_BRIDGE_APP_SaveState`). -/
def saveState (result : SaveResult) (s : State) : State :=
  match result with
  | .openFailed statePath errno => sendEvent .stateSaveFail .error
      (s!"MAVLINK_BRIDGE_APP: state save open failed " ++
        s!"path={StateFile.tmpPath statePath} errno={errno}") s
  | .writeFailed statePath errno _ => sendEvent .stateSaveFail .error
      (s!"MAVLINK_BRIDGE_APP: state save write failed " ++
        s!"path={StateFile.tmpPath statePath} errno={errno}") s
  | .renameFailed statePath errno => sendEvent .stateSaveFail .error
      s!"MAVLINK_BRIDGE_APP: state save rename failed path={statePath} errno={errno}" s
  | .written => s

/-- Count and report a configuration command that is refused. -/
def rejectConfig (cmd : ConfigCmd) (result : ConfigResult) (s : State) : State :=
  publishExecResult cmd.sourceSequence 1 false result.code s

/-- Activate a configuration, save it, and have the streams asked for again. -/
def activateConfig (result : SaveResult) (cmd : ConfigCmd) (value : UInt32)
    (config : ConfigParams) (s : State) : State :=
  let active := saveState result { s with
    activeConfig := config
    configGeneration := s.configGeneration + 1
    cmdCounter := s.cmdCounter + 1 }
  publishExecResult cmd.sourceSequence 1 true ConfigResult.ok.code
    (sendEvent .stream .information
      (s!"MAVLINK_BRIDGE_APP: config activated param={cmd.parameterId} value={value} " ++
        s!"gen={active.configGeneration}") { active with streamRequestPending := true })

/-- Handle a configuration command, unless it is for another application. -/
def processConfigCommand (result : SaveResult) (cmd : ConfigCmd) (s : State) : State :=
  let refused := { s with errCounter := s.errCounter + 1 }
  if cmd.payloadLength < 8 then
    rejectConfig cmd .badLength (sendEvent .commandErr .error
      s!"MAVLINK_BRIDGE_APP: config payload too short len={cmd.payloadLength}" refused)
  else if cmd.byte 0 ≠ 2 then s
  else if cmd.byte 1 ≠ 1 then rejectConfig cmd .badVersion refused
  else if cmd.byte 5 ≠ 4 ∨ 8 + cmd.byte 5 > cmd.payloadLength then
    rejectConfig cmd .badLength refused
  else if cmd.checksum ≠ configChecksum cmd then
    rejectConfig cmd .badChecksum (sendEvent .commandErr .error
      (s!"MAVLINK_BRIDGE_APP: config checksum mismatch got=0x{hexText 4 cmd.checksum.toNat} " ++
        s!"expected=0x{hexText 4 (configChecksum cmd).toNat}") refused)
  else
    let value := Words.word32 (cmd.byte 8) (cmd.byte 9) (cmd.byte 10) (cmd.byte 11)
    match s.activeConfig.set cmd.parameterId value with
    | .error defect => rejectConfig cmd defect refused
    | .ok pending =>
      if pending.consistent then activateConfig result cmd value pending s
      else rejectConfig cmd .badValue refused

/-! ## Flight mode -/

/-- A flight mode command (`MAVLINK_BRIDGE_APP_SetFlightModeCmd_t`). -/
structure SetFlightModeCmd where
  sourceSequence : UInt16
  flightMode : UInt8
  waypointStartIndex : UInt8
  deriving DecidableEq, Repr

/-- The sub-mode of the autopilot for a flight mode: hover, waypoint or land. -/
def flightSubMode (flightMode : UInt8) : Option UInt8 :=
  if flightMode = 0 then some 3
  else if flightMode = 1 then some 4
  else if flightMode = 2 then some 6
  else none

/-- Ask the flight controller for a sub-mode of its automatic mode. -/
def sendSetMode (subMode : UInt8) (fault : Option TxFault) (s : State) : SendStatus × State :=
  sendMavlinkV2 .commandLong
    (Words.bytes32 0x3F800000 ++ Words.bytes32 0x40800000 ++
      Words.bytes32 subMode.toUInt32.toFloat32.toBits ++ List.replicate 16 0 ++
      Words.bytes16 176 ++ [s.targetSystemId, s.targetComponentId, 0]) fault s

/-- Name the item that the mission begins with. -/
def sendMissionSetCurrent (index : UInt8) (fault : Option TxFault) (s : State) :
    SendStatus × State :=
  sendMavlinkV2 .missionSetCurrent
    (Words.bytes16 index.toUInt16 ++ [s.targetSystemId, s.targetComponentId]) fault s

/-- Ask for a sub-mode, and for a mission also for the item to begin with. -/
def requestFlightMode (subMode : UInt8) (env : Env) (cmd : SetFlightModeCmd) (s : State) :
    SendStatus × State :=
  let (status, sent) := sendSetMode subMode (env.tx 0) s
  if status = .success ∧ cmd.flightMode = 1 then
    sendMissionSetCurrent cmd.waypointStartIndex (env.tx 1) sent
  else (status, sent)

/-- Handle a flight mode command. -/
def processSetFlightModeCmd (env : Env) (cmd : SetFlightModeCmd) (s : State) : State :=
  let report := fun ok s => publishExecResult cmd.sourceSequence 8 ok cmd.flightMode s
  match flightSubMode cmd.flightMode with
  | none => report false (sendEvent .commandErr .error
      s!"MAVLINK_BRIDGE_APP: invalid flight_mode={cmd.flightMode} seq={cmd.sourceSequence}"
      { s with errCounter := s.errCounter + 1 })
  | some subMode =>
    let (status, sent) := requestFlightMode subMode env cmd s
    if status = .success then
      report true (sendEvent .setFlightMode .information
        (s!"MAVLINK_BRIDGE_APP: flight mode set mode={cmd.flightMode} " ++
          s!"waypoint_idx={cmd.waypointStartIndex} seq={cmd.sourceSequence}")
        { sent with cmdCounter := sent.cmdCounter + 1 })
    else
      report false (sendEvent .setFlightMode .error
        (s!"MAVLINK_BRIDGE_APP: flight mode send failed mode={cmd.flightMode} " ++
          s!"seq={cmd.sourceSequence}")
        { sent with errCounter := sent.errCounter + 1 })

end CfsTelemetry.Bridge
