import CfsTelemetry.Mission.ConfigRange
import CfsTelemetry.Mission.Scopes

/-!
# Configuration messages take effect as a whole

The core application and the bridge check a configuration message in about ten steps and build the
new configuration beside the active one. Whatever the bytes are, the message either sets the
parameter that it names or leaves the configuration, and what is kept of it, as they were. An
application saves a new configuration at once, but does not ask how the save has ended.
-/
namespace CfsTelemetry

open Words Run

/-- The value that a configuration command carries. -/
def ConfigCmd.value (cmd : ConfigCmd) : UInt32 :=
  word32 (cmd.byte 8) (cmd.byte 9) (cmd.byte 10) (cmd.byte 11)

namespace Mission

/-- What an application holds of its configuration, and what it has answered. The values of a
configuration stand in the order of their parameters. -/
structure ConfigView where
  active : List UInt32
  previous : List UInt32
  generation : UInt32
  pending : Bool
  /-- Contents of the state file, when it exists. -/
  file : Option (List UInt8)
  /-- The values that the file restores, when it passes the checks. -/
  restored : Option (List UInt32)
  results : List ExecResult

/-- A command is accepted: the parameter that it names has the value that it carries, which is in
the range of the parameter, and when the save succeeds the file restores the new values. A save
that fails leaves the file as it was, unless it overwrites it: the file is its own temporary file
when the path leaves no room for the suffix, and then restores nothing or the new values. -/
structure AcceptsConfig (inRange : Nat → UInt32 → Prop) (saves overwrites : Prop)
    (cmd : ConfigCmd) (before after : ConfigView) : Prop where
  named : cmd.parameterId.toNat < before.active.length
  range : inRange cmd.parameterId.toNat cmd.value
  active : after.active = before.active.set cmd.parameterId.toNat cmd.value
  previous : after.previous = before.active
  generation : after.generation = before.generation + 1
  saved : saves → after.restored = some after.active
  unsaved : ¬ saves → after.file = before.file ∨
    overwrites ∧ (after.restored = none ∨ after.restored = some after.active)
  pending : after.pending = false
  answers : ∃ result, result.sourceSequence = cmd.sourceSequence ∧ result.genericResult = 0 ∧
    after.results = result :: before.results

/-- A command is not accepted: the configuration and the state file are as they were, and no
success is reported. -/
structure RefusesConfig (cmd : ConfigCmd) (before after : ConfigView) : Prop where
  active : after.active = before.active
  previous : after.previous = before.previous
  generation : after.generation = before.generation
  file : after.file = before.file
  pending : after.pending = false
  answers : after.results = before.results ∨
    ∃ result, result.sourceSequence = cmd.sourceSequence ∧ result.genericResult = 1 ∧
      after.results = result :: before.results

/-- Two commands agree in all but the bytes behind their payloads. -/
structure SamePayload (cmd cmd' : ConfigCmd) : Prop where
  sourceSequence : cmd.sourceSequence = cmd'.sourceSequence
  payloadLength : cmd.payloadLength = cmd'.payloadLength
  byte : ∀ index, index < cmd.payloadLength.toNat → cmd.byte index = cmd'.byte index

section

variable {cmd cmd' : ConfigCmd}

/-- The bytes of a value of four bytes. -/
theorem valueBytes (cmd : ConfigCmd) : (cmd.payload.toList.drop 8).take 4 =
    [cmd.byte 8, cmd.byte 9, cmd.byte 10, cmd.byte 11] := by
  apply List.ext_getElem?
  intro index
  have length : cmd.payload.toList.length = 196 := Vector.length_toList
  have byte (place : Nat) (inside : place < 196) :
      cmd.payload.toList[place]? = some (cmd.byte place) := by
    rw [ConfigCmd.byte, List.getElem?_eq_getElem (by omega)]
    simp [inside]
  rw [List.getElem?_take]
  match index with
  | 0 | 1 | 2 | 3 => exact (List.getElem?_drop ..).trans (byte _ (by decide))
  | index + 4 =>
    rw [if_neg (by omega)]
    rfl

/-- A header of eight bytes is read alike. -/
theorem SamePayload.header (same : SamePayload cmd cmd') (whole : ¬ cmd.payloadLength < 8)
    {index : Nat} (inside : index < 8) : cmd.byte index = cmd'.byte index := by
  have eight : (8 : UInt8).toNat = 8 := by decide
  rw [UInt8.not_lt, UInt8.le_iff_toNat_le] at whole
  exact same.byte index (by omega)

/-- So is the parameter. -/
theorem SamePayload.parameterId (same : SamePayload cmd cmd')
    (whole : ¬ cmd.payloadLength < 8) : cmd.parameterId = cmd'.parameterId := by
  rw [ConfigCmd.parameterId, same.header whole (by decide), same.header whole (by decide),
    ConfigCmd.parameterId]

/-- So is the checksum. -/
theorem SamePayload.checksum (same : SamePayload cmd cmd')
    (whole : ¬ cmd.payloadLength < 8) : cmd.checksum = cmd'.checksum := by
  rw [ConfigCmd.checksum, same.header whole (by decide), same.header whole (by decide),
    ConfigCmd.checksum]

/-- A value of four bytes that the payload has room for is read alike. -/
theorem SamePayload.word (same : SamePayload cmd cmd')
    (fits : ¬ (cmd.byte 5 ≠ 4 ∨ 8 + cmd.byte 5 > cmd.payloadLength)) {index : Nat}
    (inside : index < 12) : cmd.byte index = cmd'.byte index := by
  rw [not_or, not_not] at fits
  have room := fits.2
  rw [fits.1, gt_iff_lt, UInt8.not_lt, UInt8.le_iff_toNat_le] at room
  have twelve : (8 + 4 : UInt8).toNat = 12 := by decide
  exact same.byte index (by omega)

/-- Its sum is the same. -/
theorem SamePayload.sum (same : SamePayload cmd cmd')
    (fits : ¬ (cmd.byte 5 ≠ 4 ∨ 8 + cmd.byte 5 > cmd.payloadLength)) : cmd.sum = cmd'.sum := by
  have four : cmd.byte 5 = 4 := not_not.mp (not_or.mp fits).1
  have four' : cmd'.byte 5 = 4 := same.word fits (by decide : 5 < 12) ▸ four
  have bytes : (4 : UInt8).toNat = 4 := by decide
  unfold ConfigCmd.sum ConfigCmd.parameterId
  dsimp only
  rw [four, four', bytes, valueBytes, valueBytes]
  simp only [same.word fits (by decide : 0 < 12), same.word fits (by decide : 1 < 12),
    same.word fits (by decide : 2 < 12), same.word fits (by decide : 3 < 12),
    same.word fits (by decide : 4 < 12), same.word fits (by decide : 8 < 12),
    same.word fits (by decide : 9 < 12), same.word fits (by decide : 10 < 12),
    same.word fits (by decide : 11 < 12)]

/-- Its value is the same. -/
theorem SamePayload.value (same : SamePayload cmd cmd')
    (fits : ¬ (cmd.byte 5 ≠ 4 ∨ 8 + cmd.byte 5 > cmd.payloadLength)) :
    cmd.value = cmd'.value := by
  unfold ConfigCmd.value
  rw [same.word fits (by decide), same.word fits (by decide), same.word fits (by decide),
    same.word fits (by decide)]

end

end Mission

/-! ## The core application -/

namespace Core

open Mission

/-- The values of a configuration in the order of their parameters. -/
def ConfigParams.values (config : ConfigParams) : List UInt32 :=
  [config.attitudeTimeoutMs, config.localTimeoutMs, config.gpsTimeoutMs, config.ekfTimeoutMs,
    config.bridgeTimeoutMs, config.publishPeriodMs]

/-- What the application holds of its configuration. -/
def configView (c : Configured) : ConfigView where
  active := c.app.activeConfig.values
  previous := c.previousConfig.values
  generation := c.configGeneration
  pending := c.configPendingState = .pending
  file := c.app.stateFile
  restored := (configKeeper.reads c.app.stateFile).map ConfigParams.values
  results := execResults c

section

variable {cmd cmd' : ConfigCmd} {c after : Configured}

/-- The parameter that is set is one of the configuration, and the others stay. -/
theorem values_set {parameterId : UInt16} {value : UInt32} {config changed : ConfigParams}
    (set : config.set parameterId value = some changed) :
    parameterId.toNat < config.values.length ∧
      changed.values = config.values.set parameterId.toNat value := by
  have length : config.values.length = 6 := rfl
  rw [length]
  unfold ConfigParams.set at set
  repeat' split at set
  -- The last case is that of a parameter that the configuration does not have.
  all_goals first
    | contradiction
    | rename_i named
      cases named
      cases set
      exact ⟨by decide, rfl⟩

/-- A command that is answered as failed is refused when the configuration is as it was. -/
theorem answered_refuses (active : after.app.activeConfig = c.app.activeConfig)
    (previous : after.previousConfig = c.previousConfig)
    (generation : after.configGeneration = c.configGeneration)
    (file : after.app.stateFile = c.app.stateFile)
    (rejected : after.configPendingState = .rejected)
    (silent : execResults after = execResults c) :
    RefusesConfig cmd (configView c) (configView (publishConfigResult cmd false after)) where
  active := congrArg ConfigParams.values active
  previous := congrArg ConfigParams.values previous
  generation := generation
  file := file
  pending := by
    change decide (after.configPendingState = .pending) = false
    rw [rejected]
    rfl
  answers := .inr ⟨⟨cmd.sourceSequence, 1, 1, 1, after.lastConfigResult.code⟩, rfl, rfl,
    congrArg (List.cons _) silent⟩

/-- What is activated and saved, and what is answered. -/
theorem activateConfig_app (io : SaveIo) (path : String) (value : UInt32) :
    let changed := { c.app with
      activeConfig := c.pendingConfig
      cmdCounter := c.app.cmdCounter + 1 }
    let after := activateConfig io path cmd value c
    after.app.activeConfig = c.pendingConfig ∧
      after.app.stateFile = (saveState io path changed).stateFile ∧
      execResults after = ⟨cmd.sourceSequence, 1, 1, 0, 0⟩ :: execResults c := by
  cases io <;> exact ⟨rfl, rfl, rfl⟩

/-- A configuration that is activated is accepted. -/
theorem activateConfig_accepts (io : SaveIo) (path : String) {candidate : ConfigParams}
    (valid : timeInRange cmd.value)
    (set : c.app.activeConfig.set cmd.parameterId cmd.value = some candidate) :
    AcceptsConfig (fun _ => timeInRange) (io = .renamed) (path.length = 255) cmd (configView c)
      (configView (activateConfig io path cmd cmd.value { c with
        pendingConfig := candidate
        configPendingState := .pending })) := by
  have ⟨named, values⟩ := values_set set
  have ⟨active, file, answers⟩ := @activateConfig_app cmd { c with
    pendingConfig := candidate
    configPendingState := .pending } io path cmd.value
  constructor
  · exact named
  · exact valid
  · exact (congrArg ConfigParams.values active).trans values
  · rfl
  · rfl
  · rintro rfl
    unfold configView
    dsimp only
    rw [active, file]
    exact congrArg (Option.map ConfigParams.values) (reads_saved _)
  · intro fails
    unfold configView
    dsimp only
    rw [active, file]
    exact (saveState_unsaved fails path _).imp_right (And.imp_right (Or.imp
      (congrArg (Option.map ConfigParams.values)) (congrArg (Option.map ConfigParams.values))))
  · rfl
  · exact ⟨_, rfl, rfl, answers⟩

/-- Every command is accepted or refused. -/
theorem processConfigCommand_atomic (io : SaveIo) (path : String) (cmd : ConfigCmd)
    (c : Configured) :
    AcceptsConfig (fun _ => timeInRange) (io = .renamed) (path.length = 255) cmd (configView c)
        (configView (processConfigCommand io path cmd c)) ∨
      RefusesConfig cmd (configView c) (configView (processConfigCommand io path cmd c)) := by
  unfold processConfigCommand
  split
  · exact .inr (answered_refuses rfl rfl rfl rfl rfl rfl)
  split
  · exact .inr ⟨rfl, rfl, rfl, rfl, rfl, .inl rfl⟩
  split
  · exact .inr (answered_refuses rfl rfl rfl rfl rfl rfl)
  split
  · exact .inr (answered_refuses rfl rfl rfl rfl rfl rfl)
  split
  · exact .inr (answered_refuses rfl rfl rfl rfl rfl rfl)
  dsimp only
  split
  · exact .inr (answered_refuses rfl rfl rfl rfl rfl rfl)
  rename_i valid
  rw [not_or, UInt32.not_lt, gt_iff_lt, UInt32.not_lt] at valid
  split
  · exact .inr (answered_refuses rfl rfl rfl rfl rfl rfl)
  rename_i candidate set
  split
  · exact .inl (activateConfig_accepts io path valid set)
  · exact .inr (answered_refuses rfl rfl rfl rfl rfl rfl)

end

end Core

/-! ## The bridge -/

namespace Bridge

open Mission

/-- The values of a configuration in the order of their parameters. -/
def ConfigParams.values (config : ConfigParams) : List UInt32 :=
  [config.attitudeIntervalUs, config.localPositionIntervalUs, config.globalPositionIntervalUs,
    config.gpsRawIntervalUs, config.ekfStatusIntervalUs, config.reconnectIntervalMs,
    config.heartbeatIntervalMs]

/-- Whether a value of a parameter is one that a command can configure. -/
def parameterInRange (parameterId : Nat) (value : UInt32) : Prop :=
  if parameterId < 5 then intervalInRange value else durationInRange value

/-- What the bridge holds of its configuration. -/
def configView (c : Configured) : ConfigView where
  active := c.app.activeConfig.values
  previous := c.previousConfig.values
  generation := c.app.configGeneration
  pending := c.configPendingState = .pending
  file := c.stateFile
  restored := (configKeeper.reads c.stateFile).map ConfigParams.values
  results := execResults c

section

variable {cmd cmd' : ConfigCmd} {c : Configured}

/-- The parameter that is set is one of the configuration, its value is in its range, and the
others stay. -/
theorem values_set {parameterId : UInt16} {value : UInt32} {config changed : ConfigParams}
    (set : config.set parameterId value = .ok changed) :
    parameterId.toNat < config.values.length ∧ parameterInRange parameterId.toNat value ∧
      changed.values = config.values.set parameterId.toNat value := by
  have length : config.values.length = 7 := rfl
  rw [length]
  unfold ConfigParams.set at set
  extract_lets interval duration at set
  repeat' split at set
  all_goals first
    | contradiction
    | rename_i named
      obtain ⟨valid, same⟩ := of_checked set
      cases named
      cases same
      exact ⟨by decide, valid, rfl⟩

/-- A command that is answered as failed is refused when the configuration is as it was. -/
theorem refuse_refuses {pending : Configured} {app : State} (defect : ConfigResult)
    (active : app.activeConfig = c.app.activeConfig)
    (generation : app.configGeneration = c.app.configGeneration)
    (outputs : app.outputs = c.app.outputs) (previous : pending.previousConfig = c.previousConfig)
    (file : pending.stateFile = c.stateFile) :
    RefusesConfig cmd (configView c)
      (configView (pending.refuse defect (rejectConfig cmd defect app))) where
  active := congrArg ConfigParams.values active
  previous := congrArg ConfigParams.values previous
  generation := generation
  file := file
  pending := rfl
  answers := by
    have silent : execResults { c with app } = execResults c := by
      rw [execResults, outputs, execResults]
    exact .inr ⟨⟨cmd.sourceSequence, 2, 1, 1, defect.code⟩, rfl, rfl,
      congrArg (List.cons _) silent⟩

/-- What is activated and saved, and what is answered. -/
theorem activate_app (result : SaveResult) (value : UInt32) (candidate : ConfigParams) :
    let after := c.activate result cmd value candidate
    after.app.activeConfig = candidate ∧
      after.app.configGeneration = c.app.configGeneration + 1 ∧
      execResults after = ⟨cmd.sourceSequence, 2, 1, 0, 0⟩ :: execResults c := by
  cases result <;> exact ⟨rfl, rfl, rfl⟩

/-- A configuration that is activated is accepted. -/
theorem activate_accepts (result : SaveResult) {candidate : ConfigParams}
    (set : c.app.activeConfig.set cmd.parameterId cmd.value = .ok candidate) :
    AcceptsConfig parameterInRange (result = .written) result.Overwrites cmd (configView c)
      (configView (c.activate result cmd cmd.value candidate)) := by
  have ⟨named, valid, values⟩ := values_set set
  have ⟨active, generation, answers⟩ := @activate_app cmd c result cmd.value candidate
  constructor
  · exact named
  · exact valid
  · exact (congrArg ConfigParams.values active).trans values
  · rfl
  · exact generation
  · rintro rfl
    unfold configView
    dsimp only
    rw [active]
    exact congrArg (Option.map ConfigParams.values) (reads_saved candidate)
  · intro fails
    unfold configView
    dsimp only
    rw [active]
    exact (savedFile_unsaved fails candidate c.stateFile).imp_right (And.imp_right (Or.imp
      (congrArg (Option.map ConfigParams.values)) (congrArg (Option.map ConfigParams.values))))
  · rfl
  · exact ⟨_, rfl, rfl, answers⟩

/-- Every command is accepted, refused, or left to the application that it names. -/
theorem processConfigCommand_atomic (result : SaveResult) (cmd : ConfigCmd) (c : Configured) :
    AcceptsConfig parameterInRange (result = .written) result.Overwrites cmd (configView c)
        (configView (c.processConfigCommand result cmd)) ∨
      RefusesConfig cmd (configView c) (configView (c.processConfigCommand result cmd)) ∨
      cmd.byte 0 ≠ configScope ∧ c.processConfigCommand result cmd = c := by
  unfold Configured.processConfigCommand
  dsimp only
  split
  · exact .inr (.inl (refuse_refuses .badLength rfl rfl rfl rfl rfl))
  split
  · rename_i foreign
    exact .inr (.inr ⟨foreign, rfl⟩)
  split
  · exact .inr (.inl (refuse_refuses .badVersion rfl rfl rfl rfl rfl))
  split
  · exact .inr (.inl (refuse_refuses .badLength rfl rfl rfl rfl rfl))
  split
  · exact .inr (.inl (refuse_refuses .badChecksum rfl rfl rfl rfl rfl))
  split
  · exact .inr (.inl (refuse_refuses _ rfl rfl rfl rfl rfl))
  rename_i candidate set
  split
  · exact .inl (activate_accepts result set)
  · exact .inr (.inl (refuse_refuses .badValue rfl rfl rfl rfl rfl))

end

end Bridge

namespace Mission

end Mission

end CfsTelemetry
