import CfsTelemetry.StateFile
import CfsTelemetry.Core.State

/-!
# Configuration of the core application

A configuration command sets one of six times of the active configuration, and a change is
saved at once. A start takes the configuration from the state file when the record in it passes
the checks, and the compiled-in one otherwise.
-/
namespace CfsTelemetry.Core

open Words

/-- How far a configuration command has got (`CFS_CORE_APP_ConfigPendingState_t`). -/
inductive ConfigPendingState where
  | idle | pending | rejected
  deriving DecidableEq, Repr

/-- How a configuration command ends (`CFS_CORE_APP_ConfigResult_t`). -/
inductive ConfigResult where
  | ok | badScope | badVersion | badParam | badValue | badLength | badChecksum
  deriving DecidableEq, Repr

/-- The code of the result of a configuration command. -/
def ConfigResult.code : ConfigResult → UInt8
  | ok => 0 | badScope => 1 | badVersion => 2 | badParam => 3 | badValue => 4 | badLength => 5
  | badChecksum => 6

/-- The application with what it holds of its configuration besides the active one. -/
structure Configured where
  app : State
  pendingConfig : ConfigParams
  previousConfig : ConfigParams
  configGeneration : UInt32
  configPendingState : ConfigPendingState
  lastConfigResult : ConfigResult
  deriving DecidableEq

/-! ## Commands -/

/-- The scope of a configuration command for this application (`CFS_CORE_APP_CONFIG_SCOPE`). -/
def configScope : UInt8 := 1

/-- The shortest time that can be configured (`CFS_CORE_APP_PARAM_MIN_MS`). -/
def paramMinMs : UInt32 := 100

/-- The longest time that can be configured (`CFS_CORE_APP_PARAM_MAX_MS`). -/
def paramMaxMs : UInt32 := 60000

/-- Set a time of a configuration (`CFS_CORE_APP_ParamId_t`). -/
def ConfigParams.set (parameterId : UInt16) (value : UInt32) (config : ConfigParams) :
    Option ConfigParams :=
  if parameterId = 0 then some { config with attitudeTimeoutMs := value }
  else if parameterId = 1 then some { config with localTimeoutMs := value }
  else if parameterId = 2 then some { config with gpsTimeoutMs := value }
  else if parameterId = 3 then some { config with ekfTimeoutMs := value }
  else if parameterId = 4 then some { config with bridgeTimeoutMs := value }
  else if parameterId = 5 then some { config with publishPeriodMs := value }
  else none

/-- Whether no time of a configuration is too short. -/
def ConfigParams.consistent (config : ConfigParams) : Bool :=
  ¬ (config.attitudeTimeoutMs < paramMinMs ∨ config.localTimeoutMs < paramMinMs ∨
    config.gpsTimeoutMs < paramMinMs ∨ config.ekfTimeoutMs < paramMinMs ∨
    config.bridgeTimeoutMs < paramMinMs ∨ config.publishPeriodMs < paramMinMs)

/-- The checksum a configuration command should carry (`CFS_CORE_APP_ConfigChecksum`). -/
def configChecksum (msg : ConfigCmd) : UInt16 := msg.sum

/-- Report how a configuration command ended (`CFS_CORE_APP_PublishExecResult`). -/
def publishConfigResult (msg : ConfigCmd) (ok : Bool) (c : Configured) : Configured :=
  { c with app := transmitMsg (.execResult {
      sourceSequence := msg.sourceSequence
      sourceApp := 1
      commandClass := 1
      genericResult := if ok then 0 else 1
      detailCode := c.lastConfigResult.code }) c.app }

/-- Count a configuration command as refused. -/
def refuseConfig (result : ConfigResult) (c : Configured) : Configured :=
  { c with
    app := { c.app with errCounter := c.app.errCounter + 1 }
    configPendingState := .rejected
    lastConfigResult := result }

/-- Send an event message. -/
def Configured.event (id : EventId) (type : EventType) (text : String) (c : Configured) :
    Configured :=
  { c with app := sendEvent id type text c.app }

/-- Activate the pending configuration and save it. -/
def activateConfig (io : SaveIo) (path : String) (msg : ConfigCmd) (value : UInt32)
    (c : Configured) : Configured :=
  let active := { c with
    previousConfig := c.app.activeConfig
    configGeneration := c.configGeneration + 1
    configPendingState := .idle
    lastConfigResult := .ok
    app := saveState io path { c.app with
      activeConfig := c.pendingConfig
      cmdCounter := c.app.cmdCounter + 1 } }
  publishConfigResult msg true (active.event .startup .information
    (s!"CFS_CORE_APP: config activated param={msg.parameterId} value={value} " ++
      s!"gen={active.configGeneration}"))

/-- Handle a configuration command. -/
def processConfigCommand (io : SaveIo) (path : String) (msg : ConfigCmd) (c : Configured) :
    Configured :=
  if msg.payloadLength < 8 then
    publishConfigResult msg false ((refuseConfig .badLength c).event .commandErr .error
      s!"CFS_CORE_APP: config payload too short len={msg.payloadLength}")
  else if msg.byte 0 ≠ configScope then
    -- The command is for another application. It is counted and not answered.
    refuseConfig .badScope c
  else if msg.byte 1 ≠ configVersion then
    publishConfigResult msg false (refuseConfig .badVersion c)
  else if msg.byte 5 ≠ 4 ∨ 8 + msg.byte 5 > msg.payloadLength then
    publishConfigResult msg false (refuseConfig .badLength c)
  else if msg.checksum ≠ configChecksum msg then
    publishConfigResult msg false ((refuseConfig .badChecksum c).event .commandErr .error
      (s!"CFS_CORE_APP: config checksum mismatch got=0x{hexText 4 msg.checksum.toNat} " ++
        s!"expected=0x{hexText 4 (configChecksum msg).toNat}"))
  else
    let value := word32 (msg.byte 8) (msg.byte 9) (msg.byte 10) (msg.byte 11)
    if value < paramMinMs ∨ value > paramMaxMs then
      publishConfigResult msg false (refuseConfig .badValue c)
    else
      let pending := { c with
        pendingConfig := c.app.activeConfig
        configPendingState := ConfigPendingState.pending }
      match c.app.activeConfig.set msg.parameterId value with
      | none => publishConfigResult msg false (refuseConfig .badParam pending)
      | some candidate =>
        let pending := { pending with pendingConfig := candidate }
        if candidate.consistent then activateConfig io path msg value pending
        else publishConfigResult msg false (refuseConfig .badValue pending)

/-! ## The state file -/

namespace PersistentState

/-- The record of exactly as many bytes as a record has. -/
def decode (bytes : List UInt8) : Option PersistentState := do
  let (magic, rest) ← take32 bytes
  match rest with
  | lastHealthState :: configVersion :: _ :: _ :: rest =>
    let (attitudeTimeoutMs, rest) ← take32 rest
    let (localTimeoutMs, rest) ← take32 rest
    let (gpsTimeoutMs, rest) ← take32 rest
    let (ekfTimeoutMs, rest) ← take32 rest
    let (bridgeTimeoutMs, rest) ← take32 rest
    let (publishPeriodMs, rest) ← take32 rest
    let (bridgeRestartCount, rest) ← take32 rest
    let (uplinkRestartCount, rest) ← take32 rest
    let (loraRestartCount, rest) ← take32 rest
    match rest with
    | lastFaultCode :: _ :: _ :: _ :: rest =>
      let (checksum, _) ← take32 rest
      some {
        magic, lastHealthState, configVersion
        config := {
          attitudeTimeoutMs, localTimeoutMs, gpsTimeoutMs, ekfTimeoutMs, bridgeTimeoutMs,
          publishPeriodMs }
        bridgeRestartCount, uplinkRestartCount, loraRestartCount, lastFaultCode, checksum }
    | _ => none
  | _ => none

/-- A record that is read takes fifty-two bytes. -/
theorem decode_length {bytes : List UInt8} {record : PersistentState}
    (read : decode bytes = some record) : 52 ≤ bytes.length := by
  rw [decode] at read
  obtain ⟨_, rest, magic, read⟩ := StateFile.take32_bind read
  dsimp only at read
  split at read
  · obtain ⟨_, rest1, word1, read⟩ := StateFile.take32_bind read
    obtain ⟨_, rest2, word2, read⟩ := StateFile.take32_bind read
    obtain ⟨_, rest3, word3, read⟩ := StateFile.take32_bind read
    obtain ⟨_, rest4, word4, read⟩ := StateFile.take32_bind read
    obtain ⟨_, rest5, word5, read⟩ := StateFile.take32_bind read
    obtain ⟨_, rest6, word6, read⟩ := StateFile.take32_bind read
    obtain ⟨_, rest7, word7, read⟩ := StateFile.take32_bind read
    obtain ⟨_, rest8, word8, read⟩ := StateFile.take32_bind read
    obtain ⟨_, rest9, word9, read⟩ := StateFile.take32_bind read
    dsimp only at read
    split at read
    · obtain ⟨_, rest10, word10, -⟩ := StateFile.take32_bind read
      simp only [List.length_cons] at magic word2 word3 word4 word5 word6 word7 word8 word9
      omega
    · cases read
  · cases read

/-- A record has fifty-two bytes. -/
theorem encode_length (record : PersistentState) : record.encode.length = 52 := by
  simp [encode, bytes32]

/-- A written record is read back. -/
theorem decode_encode (record : PersistentState) : decode record.encode = some record := by
  have tail := take32_bytes32 record.checksum []
  rw [List.append_nil] at tail
  have layout : record.encode = bytes32 record.magic ++ (record.lastHealthState ::
      record.configVersion :: 0 :: 0 :: (bytes32 record.config.attitudeTimeoutMs ++
      (bytes32 record.config.localTimeoutMs ++ (bytes32 record.config.gpsTimeoutMs ++
      (bytes32 record.config.ekfTimeoutMs ++ (bytes32 record.config.bridgeTimeoutMs ++
      (bytes32 record.config.publishPeriodMs ++ (bytes32 record.bridgeRestartCount ++
      (bytes32 record.uplinkRestartCount ++ (bytes32 record.loraRestartCount ++
      (record.lastFaultCode :: 0 :: 0 :: 0 :: bytes32 record.checksum))))))))))) := by
    simp only [encode, List.append_assoc, List.cons_append, List.nil_append]
  rw [layout, decode, StateFile.bind_take32]
  dsimp only
  repeat rw [StateFile.bind_take32]
  dsimp only
  rw [tail]
  rfl

end PersistentState

/-- The record of the core application. -/
def stateLayout : StateFile.Layout PersistentState where
  name := "CFS_CORE_APP"
  size := 52
  encode := PersistentState.encode
  decode := PersistentState.decode
  magicOf := PersistentState.magic
  magic := stateMagic
  checksumOf := PersistentState.checksum
  sum := computeStateChecksum
  versionOf := PersistentState.configVersion
  version := configVersion

/-- A saved record passes the checks of a load. -/
theorem persistentState_lawful (s : State) :
    StateFile.Lawful stateLayout (persistentState s) where
  length := PersistentState.encode_length _
  decode := PersistentState.decode_encode _
  magic := rfl
  checksum := rfl
  version := rfl

/-- Restore the health state, the configuration and the restarts from the state file. -/
def loadState (io : StateFile.LoadIo) (s : State) : State :=
  match StateFile.load stateLayout io s.stateFile with
  | .absent => s
  | .corrupt text => sendEvent .stateCorrupt .error text s
  | .restored record =>
    let config := record.config
    sendEvent .startup .information
      (s!"CFS_CORE_APP: restored health state={record.lastHealthState} " ++
        s!"config(attitude={config.attitudeTimeoutMs} local={config.localTimeoutMs} " ++
        s!"gps={config.gpsTimeoutMs} ekf={config.ekfTimeoutMs} " ++
        s!"bridge={config.bridgeTimeoutMs} publish={config.publishPeriodMs})") { s with
        lastHealthState := record.lastHealthState
        activeConfig := config
        bridgeRestart := { s.bridgeRestart with count := record.bridgeRestartCount }
        uplinkRestart := { s.uplinkRestart with count := record.uplinkRestartCount }
        loraRestart := { s.loraRestart with count := record.loraRestartCount }
        lastFaultCode := record.lastFaultCode }

/-- A start over a state file (`CFS_CORE_APP_Init`). -/
def boot (io : StateFile.LoadIo) (stateFile : Option (List UInt8)) : Configured where
  app := sendEvent .startup .information "CFS_CORE_APP Initialized"
    (loadState io (initialState Restored.none stateFile))
  pendingConfig := ConfigParams.default
  previousConfig := ConfigParams.default
  configGeneration := 0
  configPendingState := .idle
  lastConfigResult := .ok

end CfsTelemetry.Core
