import CfsTelemetry.Bridge.Config
import CfsTelemetry.Core.Config
import CfsTelemetry.Library.Durable
import CfsTelemetry.Lora.Config
import CfsTelemetry.Uplink.Commit

/-!
# State files and crashes

The uplink application, the core application, the bridge and the LoRa application save their
states in the same way: the record is written to a temporary file, the file is synced and renamed
over the state file, and the directory of the state file is synced. The names of the temporary
file and of the directory are put together in buffers of 256 bytes, so that for one length of the
path the temporary file is the state file itself.
-/
namespace CfsTelemetry.Mission

open Durable

/-- The bytes of a path of a file. -/
abbrev StatePath := List UInt8

/-- The byte between the names of a path. -/
def slash : UInt8 := 0x2F

/-- The text that fits into a buffer of 256 bytes, with the zero behind it (`snprintf`). -/
def fitted (text : List UInt8) : List UInt8 := text.take 255

/-- The temporary file of a save (`TmpPath`): the path with `.tmp` behind it. -/
def tmpPath (path : StatePath) : StatePath := fitted (path ++ [0x2E, 0x74, 0x6D, 0x70])

/-- What is before the last slash of a path, if it has one. -/
def parent (path : StatePath) : Option StatePath :=
  match path.reverse.dropWhile (· != slash) with
  | [] => none
  | _ :: above => some above.reverse

/-- The directory that a save opens to sync it (`DirPath`), unless its name is empty. -/
def dirPath (path : StatePath) : Option StatePath := (parent (fitted path)).filter (· ≠ [])

/-- Where an application keeps its state file. A path is in the directory of what is before its
last slash, and paths without a slash are in one directory. -/
def statePlace (path : StatePath) : Place StatePath (Option StatePath) where
  directory := parent
  path := path
  temporary := tmpPath path
  synced := (dirPath path).map some

/-- A path that is safe for a state file: it does not fill the buffer, and the directory that is
synced is its own where the entries of directories are late. A rename lasts only with the sync of
the directory that holds both names. -/
structure SafePath (late : Bool) (path : StatePath) : Prop where
  length : path.length ≠ 255
  directory : late = true → ∃ directory, dirPath path = some directory ∧
    parent path = some directory

/-- The temporary file is the state file exactly when the path fills the buffer. -/
theorem tmpPath_eq (path : StatePath) : path = tmpPath path ↔ path.length = 255 :=
  eq_comm.trans (StateFile.take_append_eq (List.cons_ne_nil _ _))

/-- The place of a state file is safe exactly when its path is. -/
theorem statePlace_safe (late : Bool) (path : StatePath) :
    (statePlace path).Safe late ↔ SafePath late path := by
  have covered : (statePlace path).synced = some ((statePlace path).directory path) ↔
      ∃ directory, dirPath path = some directory ∧ parent path = some directory := by
    simp only [statePlace, Option.map_eq_some_iff]
    exact exists_congr fun directory => and_congr_right fun _ => eq_comm
  constructor
  · intro safe
    exact ⟨fun full => safe.apart ((tmpPath_eq path).mpr full),
      fun delayed => covered.mp (safe.covered delayed)⟩
  · intro safe
    exact ⟨fun same => safe.length ((tmpPath_eq path).mp same),
      fun delayed => covered.mpr (safe.directory delayed)⟩

/-- The state file of the uplink application has the path `cf/uplink_app_state.bin`. -/
example : SafePath true
    [0x63, 0x66, 0x2F, 0x75, 0x70, 0x6C, 0x69, 0x6E, 0x6B, 0x5F, 0x61, 0x70, 0x70, 0x5F, 0x73,
      0x74, 0x61, 0x74, 0x65, 0x2E, 0x62, 0x69, 0x6E] :=
  ⟨by decide, fun _ => ⟨[0x63, 0x66], by decide, by decide⟩⟩

/-! ## The stores -/

/-- What the uplink application keeps. -/
structure UplinkValue where
  lastAcceptedSequence : UInt32
  bootCount : UInt8
  survivedMark : UInt8
  shortBootStreak : UInt8
  deriving DecidableEq

/-- The state file of the uplink application. -/
def uplinkStore : Store Uplink.State UplinkValue where
  bytes s := (Uplink.persistentState s).encode
  value s := ⟨s.lastAcceptedSequence, s.bootCount, s.survivedMark, s.shortBootStreak⟩
  load file :=
    let s := Uplink.loadState .read (Uplink.bootState file)
    ⟨s.lastAcceptedSequence, s.bootCount, s.prevSurvivedMark, s.shortBootStreak⟩

/-- The state file of the core application. -/
def coreStore : Store Core.State Core.Restored where
  bytes s := (Core.persistentState s).encode
  value s := ⟨s.lastHealthState, s.activeConfig, s.bridgeRestart.count, s.uplinkRestart.count,
    s.loraRestart.count, s.lastFaultCode⟩
  load file :=
    let s := (Core.boot .read file).app
    ⟨s.lastHealthState, s.activeConfig, s.bridgeRestart.count, s.uplinkRestart.count,
      s.loraRestart.count, s.lastFaultCode⟩

/-- The state file of the bridge. -/
def bridgeStore : Store Bridge.Configured Bridge.ConfigParams where
  bytes c := (Bridge.persistentState c.app.activeConfig).encode
  value c := c.app.activeConfig
  load file := (Bridge.boot .read file).app.activeConfig

/-- The state file of the LoRa application. -/
def loraStore : Store Lora.State Bool where
  bytes s := (Lora.persistentState s).encode
  value s := s.useV2Downlink
  load file := (Lora.boot .read file).data.useV2Downlink

/-- Loads of the uplink application find what its saves have written. -/
theorem uplinkStore_lawful : uplinkStore.Lawful where
  written s := by
    have file : (Uplink.bootState (some (Uplink.persistentState s).encode)).stateFile =
        some (Uplink.persistentState s).encode := rfl
    have checked := Uplink.checkState_persistentState s
    have count : s.bootCount.toUInt32.toUInt8 = s.bootCount := UInt8.toUInt8_toUInt32 _
    simp only [uplinkStore, Uplink.loadState, file, checked]
    simp only [Uplink.persistentState, Uplink.sendEvent, count]
  empty := rfl
  varies := ⟨{ Uplink.bootState none with bootCount := 1 }, by decide⟩

/-- Loads of the core application find what its saves have written. -/
theorem coreStore_lawful : coreStore.Lawful where
  written s := by
    have loaded : StateFile.load Core.stateLayout .read
        (some (Core.persistentState s).encode) = .restored (Core.persistentState s) :=
      StateFile.load_eq_restored.mpr ⟨rfl, (Core.persistentState_lawful s).accepted⟩
    have file : (Core.initialState Core.Restored.none
        (some (Core.persistentState s).encode)).stateFile =
          some (Core.persistentState s).encode := rfl
    simp only [coreStore, Core.boot, Core.loadState, file, loaded]
    rfl
  empty := rfl
  varies := ⟨{ Core.initialState Core.Restored.none none with lastFaultCode := 1 }, by decide⟩

/-- Loads of the bridge find what its saves have written. -/
theorem bridgeStore_lawful : bridgeStore.Lawful where
  written c := by
    have loaded : StateFile.load Bridge.stateLayout .read
        (some (Bridge.persistentState c.app.activeConfig).encode) =
          .restored (Bridge.persistentState c.app.activeConfig) :=
      StateFile.load_eq_restored.mpr ⟨rfl, (Bridge.persistentState_lawful _).accepted⟩
    simp only [bridgeStore, Bridge.boot, Bridge.loadState, loaded]
    rfl
  empty := rfl
  varies := by
    let config := { Bridge.ConfigParams.default with heartbeatIntervalMs := 100 }
    refine ⟨{ Bridge.boot .read none with app := Bridge.initialState config }, ?_⟩
    exact fun same => absurd (congrArg Bridge.ConfigParams.heartbeatIntervalMs same) (by decide)

/-- Loads of the LoRa application find what its saves have written. -/
theorem loraStore_lawful : loraStore.Lawful where
  written s := by
    have loaded : StateFile.load Lora.stateLayout .read
        (some (Lora.persistentState s).encode) = .restored (Lora.persistentState s) :=
      StateFile.load_eq_restored.mpr ⟨rfl, (Lora.persistentState_lawful s).accepted⟩
    have chosen : ((Lora.persistentState s).useV2Downlink != 0) = s.useV2Downlink := by
      have own : (Lora.persistentState s).useV2Downlink = if s.useV2Downlink then 1 else 0 := rfl
      rw [own]
      cases s.useV2Downlink <;> rfl
    simp only [loraStore, Lora.boot, Lora.loadState, loaded]
    exact chosen
  empty := rfl
  varies := ⟨{ Lora.initialState with useV2Downlink := false }, by decide⟩

/-- Whether a rename is late or not, the saves of each of the four applications are safe from
crashes exactly when the path of its state file is safe. The names of the temporary file and of the
directory are made in buffers that a long path fills. -/
theorem saves_crashSafe_iff (late : Bool) (path : StatePath) :
    (CrashSafe uplinkStore late (statePlace path) ↔ SafePath late path) ∧
      (CrashSafe coreStore late (statePlace path) ↔ SafePath late path) ∧
      (CrashSafe bridgeStore late (statePlace path) ↔ SafePath late path) ∧
      (CrashSafe loraStore late (statePlace path) ↔ SafePath late path) :=
  ⟨(crashSafe_iff uplinkStore_lawful).trans (statePlace_safe late path),
    (crashSafe_iff coreStore_lawful).trans (statePlace_safe late path),
    (crashSafe_iff bridgeStore_lawful).trans (statePlace_safe late path),
    (crashSafe_iff loraStore_lawful).trans (statePlace_safe late path)⟩

/-- A state file whose path has 255 bytes is lost in a crash after the temporary file has been
opened, and with late entries a state file without a directory in its path is lost in a crash
after the save. -/
theorem saves_not_crashSafe :
    ¬ CrashSafe uplinkStore false (statePlace (List.replicate 255 0x61)) ∧
      ¬ CrashSafe uplinkStore true (statePlace [0x61]) := by
  constructor
  · exact not_crashSafe_of_same uplinkStore_lawful ((tmpPath_eq _).mpr List.length_replicate)
  · exact not_crashSafe_of_uncovered uplinkStore_lawful (by decide) (by decide)

end CfsTelemetry.Mission
