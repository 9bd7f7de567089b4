import CfsTelemetry.StateFile
import CfsTelemetry.Bridge.Commands

/-!
# Configuration of the bridge

The handler of configuration commands with all that the bridge holds of its configuration: the
pending and the previous one, how far the last command has got and how it ended. On the
application data of the other modules it is the handler given there. A change is saved at once,
and a start takes the configuration from the state file.
-/
namespace CfsTelemetry.Bridge

open Words

/-- How far a configuration command has got (`MAVLINK_BRIDGE_APP_ConfigPendingState_t`). -/
inductive ConfigPendingState where
  | idle | pending | rejected
  deriving DecidableEq, Repr

/-- The application with what it holds of its configuration besides the active one. -/
structure Configured where
  app : State
  pendingConfig : ConfigParams
  previousConfig : ConfigParams
  configPendingState : ConfigPendingState
  lastConfigResult : ConfigResult
  /-- Contents of the state file, when it exists. -/
  stateFile : Option (List UInt8)
  deriving DecidableEq

/-- Note how a configuration command that is refused ended. -/
def Configured.refuse (result : ConfigResult) (app : State) (c : Configured) : Configured :=
  { c with app := app, configPendingState := .rejected, lastConfigResult := result }

/-- The first word of a state file (`MAVLINK_BRIDGE_APP_STATE_MAGIC`). -/
def stateMagic : UInt32 := 0x3AB51DE0

/-- The version of the configuration (`MAVLINK_BRIDGE_APP_CONFIG_VERSION`). -/
def configVersion : UInt8 := 1

/-- The record of the state file (`MAVLINK_BRIDGE_APP_PersistentState_t`). -/
structure PersistentState where
  magic : UInt32
  configVersion : UInt8
  activeConfig : ConfigParams
  checksum : UInt32
  deriving DecidableEq, Repr

/-- The checksum of a record (`MAVLINK_BRIDGE_APP_ComputeStateChecksum`). -/
def computeStateChecksum (record : PersistentState) : UInt32 :=
  record.magic + record.configVersion.toUInt32 + record.activeConfig.attitudeIntervalUs +
    record.activeConfig.localPositionIntervalUs + record.activeConfig.globalPositionIntervalUs +
    record.activeConfig.gpsRawIntervalUs + record.activeConfig.ekfStatusIntervalUs +
    record.activeConfig.reconnectIntervalMs + record.activeConfig.heartbeatIntervalMs

namespace PersistentState

/-- The bytes of a record, in file order. -/
def encode (record : PersistentState) : List UInt8 :=
  bytes32 record.magic ++ (record.configVersion :: 0 :: 0 :: 0 ::
    (bytes32 record.activeConfig.attitudeIntervalUs ++
    (bytes32 record.activeConfig.localPositionIntervalUs ++
    (bytes32 record.activeConfig.globalPositionIntervalUs ++
    (bytes32 record.activeConfig.gpsRawIntervalUs ++
    (bytes32 record.activeConfig.ekfStatusIntervalUs ++
    (bytes32 record.activeConfig.reconnectIntervalMs ++
    (bytes32 record.activeConfig.heartbeatIntervalMs ++ bytes32 record.checksum))))))))

/-- The record of exactly as many bytes as a record has. -/
def decode (bytes : List UInt8) : Option PersistentState := do
  let (magic, rest) ← take32 bytes
  match rest with
  | configVersion :: _ :: _ :: _ :: rest =>
    let (attitudeIntervalUs, rest) ← take32 rest
    let (localPositionIntervalUs, rest) ← take32 rest
    let (globalPositionIntervalUs, rest) ← take32 rest
    let (gpsRawIntervalUs, rest) ← take32 rest
    let (ekfStatusIntervalUs, rest) ← take32 rest
    let (reconnectIntervalMs, rest) ← take32 rest
    let (heartbeatIntervalMs, rest) ← take32 rest
    let (checksum, _) ← take32 rest
    some {
      magic, configVersion
      activeConfig := {
        attitudeIntervalUs, localPositionIntervalUs, globalPositionIntervalUs, gpsRawIntervalUs,
        ekfStatusIntervalUs, reconnectIntervalMs, heartbeatIntervalMs }
      checksum }
  | _ => none

/-- A record that is read takes forty bytes. -/
theorem decode_length {bytes : List UInt8} {record : PersistentState}
    (read : decode bytes = some record) : 40 ≤ bytes.length := by
  rw [decode] at read
  obtain ⟨_, rest, magic, read⟩ := StateFile.take32_bind read
  dsimp only at read
  split at read
  · obtain ⟨_, rest1, word1, read⟩ := StateFile.take32_bind read
    obtain ⟨_, rest2, word2, read⟩ := StateFile.take32_bind read
    obtain ⟨_, rest3, word3, read⟩ := StateFile.take32_bind read
    obtain ⟨_, rest4, word4, read⟩ := StateFile.take32_bind read
    obtain ⟨_, rest5, word5, read⟩ := StateFile.take32_bind read
    obtain ⟨_, rest6, word6, read⟩ := StateFile.take32_bind read
    obtain ⟨_, rest7, word7, read⟩ := StateFile.take32_bind read
    obtain ⟨_, rest8, word8, -⟩ := StateFile.take32_bind read
    simp only [List.length_cons] at magic word2 word3 word4 word5 word6 word7 word8
    omega
  · cases read

/-- A record has forty bytes. -/
theorem encode_length (record : PersistentState) : record.encode.length = 40 := by
  simp [encode, bytes32]

/-- A written record is read back. -/
theorem decode_encode (record : PersistentState) : decode record.encode = some record := by
  have tail := take32_bytes32 record.checksum []
  rw [List.append_nil] at tail
  rw [encode, decode, StateFile.bind_take32]
  dsimp only
  repeat rw [StateFile.bind_take32]
  rw [tail]
  rfl

end PersistentState

/-- The record of the bridge. -/
def stateLayout : StateFile.Layout PersistentState where
  name := "MAVLINK_BRIDGE_APP"
  size := 40
  encode := PersistentState.encode
  decode := PersistentState.decode
  magicOf := PersistentState.magic
  magic := stateMagic
  checksumOf := PersistentState.checksum
  sum := computeStateChecksum
  versionOf := PersistentState.configVersion
  version := configVersion

/-- The record that a save writes. -/
def persistentState (config : ConfigParams) : PersistentState :=
  let record : PersistentState := ⟨stateMagic, configVersion, config, 0⟩
  { record with checksum := computeStateChecksum record }

/-- A saved record passes the checks of a load. -/
theorem persistentState_lawful (config : ConfigParams) :
    StateFile.Lawful stateLayout (persistentState config) where
  length := PersistentState.encode_length _
  decode := PersistentState.decode_encode _
  magic := rfl
  checksum := rfl
  version := rfl

/-- The state file after a save that ends in a way. -/
def savedFile (result : SaveResult) (config : ConfigParams) (stateFile : Option (List UInt8)) :
    Option (List UInt8) :=
  let bytes := (persistentState config).encode
  match result with
  | .openFailed _ _ => stateFile
  | .writeFailed statePath _ written =>
    StateFile.unrenamed statePath stateFile (bytes.take written)
  | .renameFailed statePath _ => StateFile.unrenamed statePath stateFile bytes
  | .written => some bytes

/-- Save the configuration. -/
def Configured.save (result : SaveResult) (c : Configured) : Configured :=
  { c with
    app := saveState result c.app
    stateFile := savedFile result c.app.activeConfig c.stateFile }

/-- Restore the configuration from the state file. -/
def loadState (io : StateFile.LoadIo) (c : Configured) : Configured :=
  match StateFile.load stateLayout io c.stateFile with
  | .absent => c
  | .corrupt text => { c with app := sendEvent .stateCorrupt .error text c.app }
  | .restored record =>
    let config := record.activeConfig
    let app := sendEvent .stream .information
      (s!"MAVLINK_BRIDGE_APP: restored config(att={config.attitudeIntervalUs} " ++
        s!"local={config.localPositionIntervalUs} global={config.globalPositionIntervalUs} " ++
        s!"gps={config.gpsRawIntervalUs} ekf={config.ekfStatusIntervalUs} " ++
        s!"reconnect={config.reconnectIntervalMs} hb={config.heartbeatIntervalMs})")
      { c.app with activeConfig := config }
    { c with app }

/-- A start over a state file (`MAVLINK_BRIDGE_APP_Init`). -/
def boot (io : StateFile.LoadIo) (stateFile : Option (List UInt8)) : Configured :=
  loadState io {
    app := initialState ConfigParams.default
    pendingConfig := ConfigParams.default
    previousConfig := ConfigParams.default
    configPendingState := .idle
    lastConfigResult := .ok
    stateFile := stateFile }

/-! ## Commands -/

/-- The scope of a configuration command for the bridge (`MAVLINK_BRIDGE_APP_CONFIG_SCOPE`). -/
def configScope : UInt8 := 2

/-- Activate the pending configuration and save it. -/
def Configured.activate (result : SaveResult) (cmd : ConfigCmd) (value : UInt32)
    (candidate : ConfigParams) (c : Configured) : Configured :=
  { app := activateConfig result cmd value candidate c.app
    pendingConfig := candidate
    previousConfig := c.app.activeConfig
    configPendingState := .idle
    lastConfigResult := .ok
    stateFile := savedFile result candidate c.stateFile }

/-- Handle a configuration command, unless it is for another application. -/
def Configured.processConfigCommand (result : SaveResult) (cmd : ConfigCmd) (c : Configured) :
    Configured :=
  let refused := { c.app with errCounter := c.app.errCounter + 1 }
  if cmd.payloadLength < 8 then
    c.refuse .badLength (rejectConfig cmd .badLength (sendEvent .commandErr .error
      s!"MAVLINK_BRIDGE_APP: config payload too short len={cmd.payloadLength}" refused))
  else if cmd.byte 0 ≠ configScope then c
  else if cmd.byte 1 ≠ configVersion then
    c.refuse .badVersion (rejectConfig cmd .badVersion refused)
  else if cmd.byte 5 ≠ 4 ∨ 8 + cmd.byte 5 > cmd.payloadLength then
    c.refuse .badLength (rejectConfig cmd .badLength refused)
  else if cmd.checksum ≠ configChecksum cmd then
    c.refuse .badChecksum (rejectConfig cmd .badChecksum (sendEvent .commandErr .error
      (s!"MAVLINK_BRIDGE_APP: config checksum mismatch got=0x{hexText 4 cmd.checksum.toNat} " ++
        s!"expected=0x{hexText 4 (configChecksum cmd).toNat}") refused))
  else
    let value := word32 (cmd.byte 8) (cmd.byte 9) (cmd.byte 10) (cmd.byte 11)
    let pending := { c with
      pendingConfig := c.app.activeConfig
      configPendingState := ConfigPendingState.pending }
    match c.app.activeConfig.set cmd.parameterId value with
    | .error defect => pending.refuse defect (rejectConfig cmd defect refused)
    | .ok candidate =>
      if candidate.consistent then c.activate result cmd value candidate
      else { pending with pendingConfig := candidate }.refuse .badValue
        (rejectConfig cmd .badValue refused)

/-- On the application data the handler is the one of the other modules. -/
theorem processConfigCommand_app (result : SaveResult) (cmd : ConfigCmd) (c : Configured) :
    (c.processConfigCommand result cmd).app = processConfigCommand result cmd c.app := by
  unfold Configured.processConfigCommand processConfigCommand
  dsimp only
  by_cases short : cmd.payloadLength < 8
  · rw [if_pos short, if_pos short]
    rfl
  rw [if_neg short, if_neg short]
  by_cases scope : cmd.byte 0 ≠ configScope
  · have other : cmd.byte 0 ≠ 2 := scope
    rw [if_pos scope, if_pos other]
  have own : ¬ cmd.byte 0 ≠ 2 := scope
  rw [if_neg scope, if_neg own]
  by_cases version : cmd.byte 1 ≠ configVersion
  · have other : cmd.byte 1 ≠ 1 := version
    rw [if_pos version, if_pos other]
    rfl
  have same : ¬ cmd.byte 1 ≠ 1 := version
  rw [if_neg version, if_neg same]
  by_cases length : cmd.byte 5 ≠ 4 ∨ 8 + cmd.byte 5 > cmd.payloadLength
  · rw [if_pos length, if_pos length]
    rfl
  rw [if_neg length, if_neg length]
  by_cases sum : cmd.checksum ≠ configChecksum cmd
  · rw [if_pos sum, if_pos sum]
    rfl
  rw [if_neg sum, if_neg sum]
  cases c.app.activeConfig.set cmd.parameterId _ with
  | error defect => rfl
  | ok candidate =>
    dsimp only
    split <;> rfl

end CfsTelemetry.Bridge
