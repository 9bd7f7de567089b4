import CfsTelemetry.StateFile
import CfsTelemetry.Lora.Dispatch

/-!
# Configuration of the LoRa application

The downlink protocol is what the application keeps in its state file. A change is saved at once,
and a start takes the protocol from the file when the record in it passes the checks, and the
binary one otherwise.
-/
namespace CfsTelemetry.Lora

open Words

/-- The first word of a state file (`LORA_TDM_APP_STATE_MAGIC`). -/
def stateMagic : UInt32 := 0x10A7D3B0

/-- The version of the configuration (`LORA_TDM_APP_CONFIG_VERSION`). -/
def configVersion : UInt8 := 1

/-- The record of the state file (`LORA_TDM_APP_PersistentState_t`). -/
structure PersistentState where
  magic : UInt32
  configVersion : UInt8
  useV2Downlink : UInt8
  checksum : UInt32
  deriving DecidableEq, Repr

/-- The checksum of a record (`LORA_TDM_APP_ComputeStateChecksum`). -/
def computeStateChecksum (record : PersistentState) : UInt32 :=
  record.magic + record.configVersion.toUInt32 + record.useV2Downlink.toUInt32

namespace PersistentState

/-- The bytes of a record, in file order. -/
def encode (record : PersistentState) : List UInt8 :=
  bytes32 record.magic ++ (record.configVersion :: record.useV2Downlink :: 0 :: 0 ::
    bytes32 record.checksum)

/-- The record of exactly as many bytes as a record has. -/
def decode (bytes : List UInt8) : Option PersistentState := do
  let (magic, rest) ← take32 bytes
  match rest with
  | configVersion :: useV2Downlink :: _ :: _ :: rest =>
    let (checksum, _) ← take32 rest
    some ⟨magic, configVersion, useV2Downlink, checksum⟩
  | _ => none

/-- A record has twelve bytes. -/
theorem encode_length (record : PersistentState) : record.encode.length = 12 := by
  simp [encode, bytes32]

/-- A written record is read back. -/
theorem decode_encode (record : PersistentState) : decode record.encode = some record := by
  have tail := take32_bytes32 record.checksum []
  rw [List.append_nil] at tail
  rw [encode, decode, StateFile.bind_take32]
  dsimp only
  rw [tail]
  rfl

end PersistentState

/-- The record of the LoRa application. -/
def stateLayout : StateFile.Layout PersistentState where
  name := "LORA_TDM_APP"
  size := 12
  encode := PersistentState.encode
  decode := PersistentState.decode
  magicOf := PersistentState.magic
  magic := stateMagic
  checksumOf := PersistentState.checksum
  sum := computeStateChecksum
  versionOf := PersistentState.configVersion
  version := configVersion

/-- The record that a save writes. -/
def persistentState (s : State) : PersistentState :=
  let record : PersistentState := ⟨stateMagic, configVersion, if s.useV2Downlink then 1 else 0, 0⟩
  { record with checksum := computeStateChecksum record }

/-- A saved record passes the checks of a load. -/
theorem persistentState_lawful (s : State) :
    StateFile.Lawful stateLayout (persistentState s) where
  length := PersistentState.encode_length _
  decode := PersistentState.decode_encode _
  magic := rfl
  checksum := rfl
  version := rfl

/-- Restore the downlink protocol from the state file. -/
def loadState (io : StateFile.LoadIo) (stateFile : Option (List UInt8)) (app : App) : App :=
  match StateFile.load stateLayout io stateFile with
  | .absent => app
  | .corrupt text => report .stateCorrupt .error text app
  | .restored record =>
    let useV2 := record.useV2Downlink != 0
    report .setDlProto .information
      s!"LORA_TDM_APP: restored downlink protocol {protocolName useV2}"
      { app with data := { app.data with useV2Downlink := useV2 } }

/-- A start over a state file (`LORA_TDM_APP_Init`). -/
def boot (io : StateFile.LoadIo) (stateFile : Option (List UInt8)) : App :=
  loadState io stateFile ⟨initialState, 0, 0, [], []⟩

end CfsTelemetry.Lora
