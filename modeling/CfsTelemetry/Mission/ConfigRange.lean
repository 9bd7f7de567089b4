import CfsTelemetry.Library.Restore
import CfsTelemetry.Bridge.Config
import CfsTelemetry.Core.Config

/-!
# The range of the active configuration

Values enter the active configuration of the core application and of the bridge by commands,
which are checked against a range, and from the state file, which is checked for its first word,
its sum and its version. The values of a file that passes these checks are taken as they are.
What the applications write into the file themselves has passed the range check before.
-/
namespace CfsTelemetry

open Restore Run

namespace Core

/-- Whether a time is one that a command can configure. -/
def timeInRange (value : UInt32) : Prop := paramMinMs ≤ value ∧ value ≤ paramMaxMs

/-- Every time of a configuration is one that a command can configure. -/
structure ConfigParams.InRange (config : ConfigParams) : Prop where
  attitudeTimeoutMs : timeInRange config.attitudeTimeoutMs
  localTimeoutMs : timeInRange config.localTimeoutMs
  gpsTimeoutMs : timeInRange config.gpsTimeoutMs
  ekfTimeoutMs : timeInRange config.ekfTimeoutMs
  bridgeTimeoutMs : timeInRange config.bridgeTimeoutMs
  publishPeriodMs : timeInRange config.publishPeriodMs

/-- Something that happens to the configuration. -/
inductive ConfigInput where
  | command (io : SaveIo) (path : String) (msg : ConfigCmd)
  | save (io : SaveIo) (path : String)
  | restart (found : Found (Option (List UInt8)))

/-- What the application does about it. -/
def configStep (c : Configured) : ConfigInput → Configured
  | .command io path msg => processConfigCommand io path msg c
  | .save io path => { c with app := saveState io path c.app }
  | .restart found => boot .read (found.content c.app.stateFile)

/-- The active configuration and the state file that it is kept in. -/
def configKeeper : Keeper Configured ConfigInput ConfigParams (Option (List UInt8)) where
  value c := c.app.activeConfig
  content c := c.app.stateFile
  reads file := (StateFile.accepted stateLayout file).map PersistentState.config
  default := ConfigParams.default
  found
    | .restart found => some found
    | _ => none

section

variable {c : Configured} {config : ConfigParams}

/-- The default configuration is in range. -/
theorem default_inRange : ConfigParams.default.InRange := by
  constructor <;> exact ⟨by decide, by decide⟩

/-- A configuration stays in range when one of its times is set in range. -/
theorem set_inRange {parameterId : UInt16} {value : UInt32} {changed : ConfigParams}
    (inRange : config.InRange) (valid : timeInRange value)
    (set : config.set parameterId value = some changed) : changed.InRange := by
  obtain ⟨attitude, position, gps, ekf, bridge, publish⟩ := inRange
  unfold ConfigParams.set at set
  split at set
  · cases set
    exact ⟨valid, position, gps, ekf, bridge, publish⟩
  split at set
  · cases set
    exact ⟨attitude, valid, gps, ekf, bridge, publish⟩
  split at set
  · cases set
    exact ⟨attitude, position, valid, ekf, bridge, publish⟩
  split at set
  · cases set
    exact ⟨attitude, position, gps, valid, bridge, publish⟩
  split at set
  · cases set
    exact ⟨attitude, position, gps, ekf, valid, publish⟩
  split at set
  · cases set
    exact ⟨attitude, position, gps, ekf, bridge, valid⟩
  · cases set

/-- What is saved restores the active configuration. -/
theorem reads_saved (s : State) :
    configKeeper.reads (some (persistentState s).encode) = some s.activeConfig := by
  have bytes : (persistentState s).encode = stateLayout.encode (persistentState s) := rfl
  have reads (file : Option (List UInt8)) : configKeeper.reads file =
    (StateFile.accepted stateLayout file).map PersistentState.config := rfl
  rw [bytes, reads, (persistentState_lawful s).accepted]
  rfl

/-- A save that fails leaves the file as it was. Only where the path leaves no room for the suffix
of the temporary file, the file is written in its place, and then restores nothing or the active
configuration. -/
theorem saveState_unsaved {io : SaveIo} (fails : io ≠ .renamed) (path : String) (s : State) :
    (saveState io path s).stateFile = s.stateFile ∨ path.length = 255 ∧
      (configKeeper.reads (saveState io path s).stateFile = none ∨
        configKeeper.reads (saveState io path s).stateFile = some s.activeConfig) := by
  have lawful := persistentState_lawful s
  cases io with
  | renamed => exact absurd rfl fails
  | openFailed errno => exact .inl rfl
  | writeFailed errno written =>
    exact lawful.unrenamed PersistentState.config PersistentState.decode_length path s.stateFile
      written
  | renameFailed errno =>
    exact lawful.unrenamed_whole PersistentState.config PersistentState.decode_length path
      s.stateFile

/-- What the file restores after a save is what it restored before, or the active configuration. -/
theorem saveState_reads (io : SaveIo) (path : String) (s : State)
    (read : configKeeper.reads (saveState io path s).stateFile = some config) :
    configKeeper.reads s.stateFile = some config ∨ config = s.activeConfig := by
  by_cases renamed : io = .renamed
  · rw [renamed] at read
    exact .inr (Option.some.inj (read.symm.trans (reads_saved s)))
  · rcases saveState_unsaved renamed path s with same | ⟨-, nothing | active⟩
    · rw [same] at read
      exact .inl read
    · rw [nothing] at read
      cases read
    · exact .inr (Option.some.inj (read.symm.trans active))

/-- How a save ends does not change the configuration. -/
theorem saveState_activeConfig (io : SaveIo) (path : String) (s : State) :
    (saveState io path s).activeConfig = s.activeConfig := by
  cases io <;> rfl

/-- A save keeps what the file would restore in range. -/
theorem saveState_sound (io : SaveIo) (path : String)
    (sound : Sound configKeeper ConfigParams.InRange c) :
    Sound configKeeper ConfigParams.InRange { c with app := saveState io path c.app } := by
  constructor
  · change (saveState io path c.app).activeConfig.InRange
    rw [saveState_activeConfig]
    exact sound.held
  · intro value read
    rcases saveState_reads io path c.app read with before | active
    · exact sound.kept value before
    · rw [active]
      exact sound.held

/-- A report leaves the configuration alone. -/
theorem reported_sound {msg : ConfigCmd} {ok : Bool} {id : EventId} {type : EventType}
    {text : String} (sound : Sound configKeeper ConfigParams.InRange c) :
    Sound configKeeper ConfigParams.InRange
      (publishConfigResult msg ok (c.event id type text)) :=
  sound.congr rfl rfl

/-- The activation of a configuration in range keeps the active one in range. -/
theorem activateConfig_sound (io : SaveIo) (path : String) (msg : ConfigCmd) (value : UInt32)
    (inRange : c.pendingConfig.InRange) (sound : Sound configKeeper ConfigParams.InRange c) :
    Sound configKeeper ConfigParams.InRange (activateConfig io path msg value c) := by
  have activated : Sound configKeeper ConfigParams.InRange { c with
      app := { c.app with
        activeConfig := c.pendingConfig
        cmdCounter := c.app.cmdCounter + 1 } } := ⟨inRange, sound.kept⟩
  have saved := saveState_sound io path activated
  apply reported_sound
  exact saved.congr rfl rfl

/-- A command keeps the configuration in range. -/
theorem processConfigCommand_sound (io : SaveIo) (path : String) (msg : ConfigCmd)
    (sound : Sound configKeeper ConfigParams.InRange c) :
    Sound configKeeper ConfigParams.InRange (processConfigCommand io path msg c) := by
  unfold processConfigCommand
  split
  · exact sound.congr rfl rfl
  split
  · exact sound.congr rfl rfl
  split
  · exact sound.congr rfl rfl
  split
  · exact sound.congr rfl rfl
  split
  · exact sound.congr rfl rfl
  dsimp only
  split
  · exact sound.congr rfl rfl
  rename_i valid
  rw [not_or, UInt32.not_lt, UInt32.not_lt] at valid
  split
  · exact sound.congr rfl rfl
  rename_i candidate set
  split
  · have changed : candidate.InRange := set_inRange sound.held valid set
    have pending : Sound configKeeper ConfigParams.InRange { c with
        pendingConfig := candidate
        configPendingState := .pending } := sound.congr rfl rfl
    exact activateConfig_sound io path msg _ changed pending
  · exact sound.congr rfl rfl

/-- A start begins with the configuration that the file restores. -/
theorem boot_activeConfig (stateFile : Option (List UInt8)) :
    (boot .read stateFile).app.activeConfig =
        ((StateFile.accepted stateLayout stateFile).map PersistentState.config).getD
          ConfigParams.default ∧
      (boot .read stateFile).app.stateFile = stateFile := by
  have file : (initialState Restored.none stateFile).stateFile = stateFile := rfl
  unfold boot loadState
  cases loaded : StateFile.load stateLayout .read (initialState Restored.none stateFile).stateFile
    with
  | restored record =>
    have accepted := (StateFile.load_eq_restored.mp loaded).2
    rw [file] at accepted
    rw [accepted]
    exact ⟨rfl, rfl⟩
  | absent | corrupt text =>
    have refused : StateFile.accepted stateLayout stateFile = none := by
      by_contra some
      obtain ⟨record, accepted⟩ := Option.ne_none_iff_exists'.mp some
      rw [file, StateFile.load_eq_restored.mpr ⟨rfl, accepted⟩] at loaded
      cases loaded
    rw [refused]
    exact ⟨rfl, rfl⟩

/-- The application keeps its configuration in range, apart from what a restart finds. -/
theorem configStep_keeps : Keeps configKeeper ConfigParams.InRange configStep where
  default := default_inRange
  restart s input found restarts := by
    cases input with
    | restart content =>
      cases restarts
      exact boot_activeConfig _
    | command io path msg => cases restarts
    | save io path => cases restarts
  other s input runs sound := by
    cases input with
    | restart found => cases runs
    | command io path msg => exact processConfigCommand_sound io path msg sound
    | save io path => exact saveState_sound io path sound

/-- A first start is sound. -/
theorem boot_none_sound :
    Sound configKeeper ConfigParams.InRange (boot .read none) := by
  refine ⟨default_inRange, fun value read => ?_⟩
  cases read

end

end Core

/-! ## The bridge -/

namespace Bridge

/-- Whether an interval of a stream is one that a command can configure. -/
def intervalInRange (value : UInt32) : Prop :=
  paramIntervalMinUs ≤ value ∧ value ≤ paramIntervalMaxUs

/-- Whether an interval of the service is one that a command can configure. -/
def durationInRange (value : UInt32) : Prop := paramMsMin ≤ value ∧ value ≤ paramMsMax

/-- Every interval of a configuration is one that a command can configure. -/
structure ConfigParams.InRange (config : ConfigParams) : Prop where
  attitudeIntervalUs : intervalInRange config.attitudeIntervalUs
  localPositionIntervalUs : intervalInRange config.localPositionIntervalUs
  globalPositionIntervalUs : intervalInRange config.globalPositionIntervalUs
  gpsRawIntervalUs : intervalInRange config.gpsRawIntervalUs
  ekfStatusIntervalUs : intervalInRange config.ekfStatusIntervalUs
  reconnectIntervalMs : durationInRange config.reconnectIntervalMs
  heartbeatIntervalMs : durationInRange config.heartbeatIntervalMs

/-- Something that happens to the configuration. -/
inductive ConfigInput where
  | command (result : SaveResult) (cmd : ConfigCmd)
  | save (result : SaveResult)
  | restart (found : Found (Option (List UInt8)))

/-- What the bridge does about it. -/
def configStep (c : Configured) : ConfigInput → Configured
  | .command result cmd => c.processConfigCommand result cmd
  | .save result => c.save result
  | .restart found => boot .read (found.content c.stateFile)

/-- The active configuration and the state file that it is kept in. -/
def configKeeper : Keeper Configured ConfigInput ConfigParams (Option (List UInt8)) where
  value c := c.app.activeConfig
  content c := c.stateFile
  reads file := (StateFile.accepted stateLayout file).map PersistentState.activeConfig
  default := ConfigParams.default
  found
    | .restart found => some found
    | _ => none

section

variable {c : Configured} {config : ConfigParams}

/-- The default configuration is in range. -/
theorem default_inRange : ConfigParams.default.InRange := by
  constructor <;> exact ⟨by decide, by decide⟩

/-- A value that is taken is within its bounds. -/
theorem of_checked {low high value : UInt32} {result changed : ConfigParams}
    (accepted : (if value < low ∨ value > high then
      (.error .badValue : Except ConfigResult ConfigParams) else .ok result) = .ok changed) :
    (low ≤ value ∧ value ≤ high) ∧ result = changed := by
  split at accepted
  · cases accepted
  · rename_i valid
    rw [not_or, UInt32.not_lt, gt_iff_lt, UInt32.not_lt] at valid
    exact ⟨valid, Except.ok.inj accepted⟩

/-- A configuration stays in range when one of its intervals is set. -/
theorem set_inRange {parameterId : UInt16} {value : UInt32} {changed : ConfigParams}
    (inRange : config.InRange) (set : config.set parameterId value = .ok changed) :
    changed.InRange := by
  have ⟨attitude, position, global, gps, ekf, reconnect, heartbeat⟩ := inRange
  unfold ConfigParams.set at set
  extract_lets interval duration at set
  split at set
  · have ⟨valid, same⟩ := of_checked set
    exact same ▸ ⟨valid, position, global, gps, ekf, reconnect, heartbeat⟩
  split at set
  · have ⟨valid, same⟩ := of_checked set
    exact same ▸ ⟨attitude, valid, global, gps, ekf, reconnect, heartbeat⟩
  split at set
  · have ⟨valid, same⟩ := of_checked set
    exact same ▸ ⟨attitude, position, valid, gps, ekf, reconnect, heartbeat⟩
  split at set
  · have ⟨valid, same⟩ := of_checked set
    exact same ▸ ⟨attitude, position, global, valid, ekf, reconnect, heartbeat⟩
  split at set
  · have ⟨valid, same⟩ := of_checked set
    exact same ▸ ⟨attitude, position, global, gps, valid, reconnect, heartbeat⟩
  split at set
  · have ⟨valid, same⟩ := of_checked set
    exact same ▸ ⟨attitude, position, global, gps, ekf, valid, heartbeat⟩
  split at set
  · have ⟨valid, same⟩ := of_checked set
    exact same ▸ ⟨attitude, position, global, gps, ekf, reconnect, valid⟩
  · cases set

/-- What is saved restores the active configuration. -/
theorem reads_saved (config : ConfigParams) :
    configKeeper.reads (some (persistentState config).encode) = some config := by
  have bytes : (persistentState config).encode = stateLayout.encode (persistentState config) :=
    rfl
  have reads (file : Option (List UInt8)) : configKeeper.reads file =
    (StateFile.accepted stateLayout file).map PersistentState.activeConfig := rfl
  rw [bytes, reads, (persistentState_lawful config).accepted]
  rfl

/-- Whether a save fails over a path that leaves no room for the suffix of the temporary file. That
file is the state file then, and is emptied before it is written. -/
def SaveResult.Overwrites : SaveResult → Prop
  | .openFailed _ _ | .written => False
  | .writeFailed statePath _ _ | .renameFailed statePath _ => statePath.length = 255

/-- A save that fails leaves the file as it was, or has written it in its place; then it restores
nothing or the new configuration. -/
theorem savedFile_unsaved {result : SaveResult} (fails : result ≠ .written)
    (config : ConfigParams) (file : Option (List UInt8)) :
    savedFile result config file = file ∨ result.Overwrites ∧
      (configKeeper.reads (savedFile result config file) = none ∨
        configKeeper.reads (savedFile result config file) = some config) := by
  have lawful := persistentState_lawful config
  cases result with
  | written => exact absurd rfl fails
  | openFailed path errno => exact .inl rfl
  | writeFailed path errno written =>
    exact lawful.unrenamed PersistentState.activeConfig PersistentState.decode_length path file
      written
  | renameFailed path errno =>
    exact lawful.unrenamed_whole PersistentState.activeConfig PersistentState.decode_length path
      file

/-- What a save leaves in the file restores a configuration in range. -/
theorem savedFile_inRange (result : SaveResult) {file : Option (List UInt8)}
    (inRange : config.InRange)
    (kept : ∀ value, configKeeper.reads file = some value → value.InRange) (value : ConfigParams)
    (read : configKeeper.reads (savedFile result config file) = some value) :
    value.InRange := by
  by_cases written : result = .written
  · rw [written] at read
    rw [← Option.some.inj ((reads_saved config).symm.trans read)]
    exact inRange
  · rcases savedFile_unsaved written config file with same | ⟨-, nothing | saved⟩
    · rw [same] at read
      exact kept value read
    · rw [nothing] at read
      cases read
    · rw [← Option.some.inj (saved.symm.trans read)]
      exact inRange

/-- How a save ends does not change the configuration. -/
theorem saveState_activeConfig (result : SaveResult) (s : State) :
    (saveState result s).activeConfig = s.activeConfig := by
  cases result <;> rfl

/-- What is activated is in range, and what is saved of it. -/
theorem activate_sound (result : SaveResult) (cmd : ConfigCmd) (value : UInt32)
    (inRange : config.InRange) (sound : Sound configKeeper ConfigParams.InRange c) :
    Sound configKeeper ConfigParams.InRange (c.activate result cmd value config) := by
  have active : (c.activate result cmd value config).app.activeConfig = config :=
    saveState_activeConfig result _
  have file : (c.activate result cmd value config).stateFile =
      savedFile result config c.stateFile := rfl
  have kept := savedFile_inRange result inRange sound.kept
  change ∀ value, configKeeper.reads (savedFile result config c.stateFile) = some value → _
    at kept
  rw [← file] at kept
  rw [← active] at inRange
  exact ⟨inRange, kept⟩

/-- A command keeps the configuration in range. -/
theorem processConfigCommand_sound (result : SaveResult) (cmd : ConfigCmd)
    (sound : Sound configKeeper ConfigParams.InRange c) :
    Sound configKeeper ConfigParams.InRange (c.processConfigCommand result cmd) := by
  unfold Configured.processConfigCommand
  dsimp only
  split
  · exact sound.congr rfl rfl
  split
  · exact sound
  split
  · exact sound.congr rfl rfl
  split
  · exact sound.congr rfl rfl
  split
  · exact sound.congr rfl rfl
  split
  · exact sound.congr rfl rfl
  rename_i candidate set
  split
  · have changed : candidate.InRange := set_inRange sound.held set
    exact activate_sound result cmd _ changed sound
  · exact sound.congr rfl rfl

/-- A save keeps what the file would restore in range. -/
theorem save_sound (result : SaveResult) (sound : Sound configKeeper ConfigParams.InRange c) :
    Sound configKeeper ConfigParams.InRange (c.save result) := by
  have active : (c.save result).app.activeConfig = c.app.activeConfig :=
    saveState_activeConfig result c.app
  have file : (c.save result).stateFile = savedFile result c.app.activeConfig c.stateFile := rfl
  have kept := savedFile_inRange result sound.held sound.kept
  change ∀ value, configKeeper.reads (savedFile result c.app.activeConfig c.stateFile) =
    some value → _ at kept
  rw [← file] at kept
  have held := sound.held
  change c.app.activeConfig.InRange at held
  rw [← active] at held
  exact ⟨held, kept⟩

/-- A start begins with the configuration that the file restores. -/
theorem boot_activeConfig (stateFile : Option (List UInt8)) :
    (boot .read stateFile).app.activeConfig =
        ((StateFile.accepted stateLayout stateFile).map PersistentState.activeConfig).getD
          ConfigParams.default ∧
      (boot .read stateFile).stateFile = stateFile := by
  unfold boot loadState
  dsimp only
  cases loaded : StateFile.load stateLayout .read stateFile with
  | restored record =>
    have accepted := (StateFile.load_eq_restored.mp loaded).2
    rw [accepted]
    exact ⟨rfl, rfl⟩
  | absent | corrupt text =>
    have refused : StateFile.accepted stateLayout stateFile = none := by
      by_contra some
      obtain ⟨record, accepted⟩ := Option.ne_none_iff_exists'.mp some
      rw [StateFile.load_eq_restored.mpr ⟨rfl, accepted⟩] at loaded
      cases loaded
    rw [refused]
    exact ⟨rfl, rfl⟩

/-- The bridge keeps its configuration in range, apart from what a restart finds. -/
theorem configStep_keeps : Keeps configKeeper ConfigParams.InRange configStep where
  default := default_inRange
  restart s input found restarts := by
    cases input with
    | restart content =>
      cases restarts
      exact boot_activeConfig _
    | command result cmd => cases restarts
    | save result => cases restarts
  other s input runs sound := by
    cases input with
    | restart found => cases runs
    | command result cmd => exact processConfigCommand_sound result cmd sound
    | save result => exact save_sound result sound

/-- A first start is sound. -/
theorem boot_none_sound : Sound configKeeper ConfigParams.InRange (boot .read none) := by
  refine ⟨default_inRange, fun value read => ?_⟩
  cases read

end

end Bridge

/-! ## Both applications -/

namespace Mission

/-- In every run of commands, saves and restarts from a start without a file, the active
configurations of the core application and of the bridge stay in range exactly when every other
content that a restart finds holds values in range, or does not pass the checks of a load. A file
that cannot be read counts as none, and a start from any file is a restart that finds it. -/
theorem activeConfigs_inRange_iff :
    (∀ inputs : List Core.ConfigInput,
      (∀ before after, inputs = before ++ after →
        (run Core.configStep (Core.boot .read none) before).app.activeConfig.InRange) ↔
      ∀ input ∈ inputs, Usable Core.configKeeper Core.ConfigParams.InRange input) ∧
    ∀ inputs : List Bridge.ConfigInput,
      (∀ before after, inputs = before ++ after →
        (run Bridge.configStep (Bridge.boot .read none) before).app.activeConfig.InRange) ↔
      ∀ input ∈ inputs, Usable Bridge.configKeeper Bridge.ConfigParams.InRange input :=
  ⟨run_condition_iff Core.configStep_keeps Core.boot_none_sound,
    run_condition_iff Bridge.configStep_keeps Bridge.boot_none_sound⟩

/-- A record with a timeout of zero, its first word, checksum and version being right. -/
def zeroTimeout : Core.PersistentState :=
  Core.persistentState { (Core.boot .read none).app with
    activeConfig := { Core.ConfigParams.default with attitudeTimeoutMs := 0 } }

/-- A restart that finds a file with a timeout of zero begins with that timeout. -/
theorem zeroTimeout_activeConfig :
    ¬ (run Core.configStep (Core.boot .read none)
      [.restart (.other (some zeroTimeout.encode))]).app.activeConfig.InRange := by
  intro inRange
  have begins := (Core.boot_activeConfig (some zeroTimeout.encode)).1
  have accepted : StateFile.accepted Core.stateLayout (some zeroTimeout.encode) =
      some zeroTimeout := (Core.persistentState_lawful _).accepted
  rw [accepted] at begins
  change (Core.boot .read (some zeroTimeout.encode)).app.activeConfig.InRange at inRange
  rw [begins] at inRange
  exact absurd inRange.attitudeTimeoutMs.1 (by decide)

end Mission

end CfsTelemetry
