import CfsTelemetry.Bridge.Purposes
import CfsTelemetry.Core.Application
import CfsTelemetry.Mission.ConfigAtomic

/-!
# What changes a configuration

Only a configuration command sets a parameter, and it sets the one that it names. Everything else
that happens to the core application or to the bridge leaves the active configuration as it is;
what the state file restores then is what it restored before, or the active configuration.
-/
namespace CfsTelemetry

/-- What a configuration command asks an application for. -/
structure ConfigEdit where
  scope : UInt8
  parameterId : UInt16
  value : UInt32
  deriving DecidableEq, Repr

/-- What a configuration command asks for. -/
def ConfigCmd.edit (cmd : ConfigCmd) : ConfigEdit := ⟨cmd.byte 0, cmd.parameterId, cmd.value⟩

/-- The values of a configuration after an edit. An edit for another application, or of a value
out of range, changes nothing. -/
def configure (scope : UInt8) (inRange : Nat → UInt32 → Prop)
    [∀ parameterId value, Decidable (inRange parameterId value)] (values : List UInt32)
    (edit : ConfigEdit) : List UInt32 :=
  if edit.scope = scope ∧ inRange edit.parameterId.toNat edit.value then
    values.set edit.parameterId.toNat edit.value
  else values

namespace Core

open Mission

instance (value : UInt32) : Decidable (timeInRange value) :=
  inferInstanceAs (Decidable (_ ∧ _))

/-- The values of the core application after an edit. -/
def configureValues : List UInt32 → ConfigEdit → List UInt32 :=
  configure configScope fun _ => timeInRange

/-! ## The core application -/

/-- The configuration that a state file restores. -/
abbrev restoredConfig (stateFile : Option (List UInt8)) : Option ConfigParams :=
  configKeeper.reads stateFile

/-- The active configuration stays, and the state file restores what it restored, or the active
configuration, or nothing. -/
structure Settled (s s' : State) : Prop where
  active : s'.activeConfig = s.activeConfig
  restored : ∀ config, restoredConfig s'.stateFile = some config →
    restoredConfig s.stateFile = some config ∨ config = s.activeConfig

section

variable {s s' s'' : State}

/-- What is settled twice is settled. -/
theorem Settled.trans (one : Settled s s') (two : Settled s' s'') : Settled s s'' := by
  refine ⟨two.active.trans one.active, fun config reads => ?_⟩
  rcases two.restored config reads with before | saved
  · exact one.restored config before
  · exact .inr (saved.trans one.active)

/-- What changes neither the configuration nor the file is settled. -/
theorem Settled.of_same (active : s'.activeConfig = s.activeConfig)
    (file : s'.stateFile = s.stateFile) : Settled s s' := by
  refine ⟨active, fun config reads => ?_⟩
  rw [file] at reads
  exact .inl reads

/-- A message is settled. -/
theorem transmitMsg_settled (message : Message) (s : State) :
    Settled s (transmitMsg message s) := .of_same rfl rfl

/-- A save is settled. -/
theorem saveState_settled (io : SaveIo) (path : String) (s : State) :
    Settled s (saveState io path s) :=
  ⟨saveState_activeConfig io path s, fun _ reads => saveState_reads io path s reads⟩

/-- A new timer is settled. -/
theorem setTimer_settled (app : App) (timer : RestartTimer) (s : State) :
    Settled s (s.setTimer app timer) := by
  cases app <;> exact .of_same rfl rfl

/-- A new cache is settled. -/
theorem setCache_settled (stream : Stream) (cache : StateCache) (s : State) :
    Settled s (s.setCache stream cache) := by
  cases stream <;> exact .of_same rfl rfl

/-- Taking a state message into its cache is settled. -/
theorem updateStateCache_settled (stream : Stream) (msg : Bridge.FcStatePrefix) (nowMs : UInt32)
    (s : State) : Settled s (updateStateCache stream msg nowMs s) := by
  have noted : Settled s (noteTimebaseShift (s.cache stream) msg s) := by
    unfold noteTimebaseShift
    split <;> exact .of_same rfl rfl
  unfold updateStateCache
  dsimp only
  split
  · exact .of_same rfl rfl
  · split
    · exact noted.trans (.of_same rfl rfl)
    · split
      · exact noted.trans (.of_same rfl rfl)
      · refine Settled.trans ?_ (setCache_settled _ _ _)
        split
        · exact noted.trans (.of_same rfl rfl)
        · exact noted

/-- Marking a cache as invalid is settled. -/
theorem markNonFinite_settled (stream : Stream) (name : String) (s : State) :
    Settled s (markNonFinite stream name s) :=
  (setCache_settled stream _ s).trans (.of_same rfl rfl)

/-- Caching a message is settled. -/
theorem cacheMessage_settled (message : StateMessage) (nowMs : UInt32) (s : State) :
    Settled s (cacheMessage message nowMs s) := by
  cases message with
  | attitude tlm =>
    have updated := updateStateCache_settled .attitude tlm.toFcStatePrefix nowMs s
    unfold cacheMessage
    dsimp only
    split
    · exact updated
    · exact updated.trans (markNonFinite_settled _ _ _)
  | ekfLocal tlm =>
    have updated := updateStateCache_settled .ekfLocal tlm.toFcStatePrefix nowMs s
    unfold cacheMessage
    dsimp only
    split
    · exact updated
    · exact updated.trans (markNonFinite_settled _ _ _)
  | gpsRaw tlm => exact updateStateCache_settled .gpsRaw tlm.toFcStatePrefix nowMs s
  | ekfStatus tlm => exact updateStateCache_settled .ekfStatus tlm.toFcStatePrefix nowMs s
  | routeUpdate msg =>
    unfold cacheMessage
    dsimp only
    split <;> exact .of_same rfl rfl
  | _ => exact .of_same rfl rfl

/-- A restart of an application is settled. -/
theorem restartApp_settled (app : App) (env : Env) (s : State) :
    Settled s (restartApp app env s) := by
  have issued : Settled s { s with outputs := .restartApp app :: s.outputs } := .of_same rfl rfl
  have counted := issued.trans (setTimer_settled app ⟨(s.timer app).count + 1,
    (s.timer app).nextMs⟩ _)
  have saved := counted.trans (saveState_settled (env.save 0) env.stateFilePath _)
  have armed := saved.trans (setTimer_settled app ⟨(s.timer app).count + 1,
    env.nowMs + restartIntervalMs⟩ _)
  exact armed.trans (.of_same rfl rfl)

/-- The supervision of an application is settled. -/
theorem superviseApp_settled (app : App) (timedOut : Bool) (env : Env) (s : State) :
    Settled s (superviseApp app timedOut env s).2 := by
  have observed := setTimer_settled app ((s.timer app).observe timedOut env.nowMs) s
  unfold superviseApp
  dsimp only
  split
  · exact observed.trans (restartApp_settled app env _)
  · exact observed

/-- The supervision of the applications is settled. -/
theorem checkAppRestarts_settled (bridge uplink lora : Bool) (env : Env) (s : State) :
    Settled s (checkAppRestarts bridge uplink lora env s) := by
  have first := superviseApp_settled .bridge bridge env s
  have second := first.trans (superviseApp_settled .uplink uplink env _)
  have third := second.trans (superviseApp_settled .lora lora env _)
  unfold checkAppRestarts
  dsimp only
  split
  · exact first
  · split
    · exact second
    · exact third

/-- Noting a new health state is settled. -/
theorem noteTransition_settled (verdict : Verdict) (env : Env) (s : State) :
    Settled s (noteTransition verdict env s) := by
  unfold noteTransition
  split
  · refine Settled.trans ?_ (saveState_settled _ _ _)
    exact .of_same rfl rfl
  · exact .of_same rfl rfl

/-- An evaluation is settled. -/
theorem evaluate_settled (env : Env) (s : State) : Settled s (evaluate env s) := by
  have supervised := checkAppRestarts_settled (findings env.nowMs s).bridge
    (findings env.nowMs s).uplink (findings env.nowMs s).lora env s
  unfold evaluate
  dsimp only
  refine Settled.trans (Settled.trans ?_ (noteTransition_settled _ _ _)) (transmitMsg_settled _ _)
  exact supervised.trans (.of_same rfl rfl)

/-- Going on with the health is settled. -/
theorem updateHealth_settled (forcePublish : Bool) (env : Env) (s : State) :
    Settled s (updateHealth forcePublish env s) := by
  unfold updateHealth
  split
  · exact .of_same rfl rfl
  · exact evaluate_settled env s

/-- A recovery command is settled. -/
theorem processRecoveryCommand_settled (msg : Uplink.RecoveryCmdTlm) (env : Env) (s : State) :
    Settled s (processRecoveryCommand msg env s) := by
  have restarted : ∀ app s, Settled s (commandRestart app env s).2 := by
    intro app s
    unfold commandRestart
    split <;> exact .of_same rfl rfl
  have controlled : ∀ cmd s, Settled s (sendBridgeCtrlCmd cmd env s).2 := by
    intro cmd s
    unfold sendBridgeCtrlCmd
    split <;> exact .of_same rfl rfl
  have recovered : ∀ s, Settled s (recover msg env s).2 := by
    intro s
    have noted : ∀ name,
        Settled s (sendEvent .recoveryCmd .information (recoveryText msg name) s) :=
      fun _ => .of_same rfl rfl
    unfold recover
    dsimp only
    split
    · have reset : Settled s (resetRestarts s) := .of_same rfl rfl
      exact (reset.trans (saveState_settled _ _ _)).trans (.of_same rfl rfl)
    · exact (noted _).trans (restarted _ _)
    · exact (noted _).trans (restarted _ _)
    · exact (noted _).trans (restarted _ _)
    · exact (noted _).trans (controlled _ _)
    · exact (noted _).trans (controlled _ _)
    · exact .of_same rfl rfl
  have counted : Settled s { s with
      recoveryRequestedCount := s.recoveryRequestedCount + 1
      cmdCounter := s.cmdCounter + 1 } := .of_same rfl rfl
  exact (counted.trans (recovered _)).trans (transmitMsg_settled _ _)

/-- A mode command is settled. -/
theorem processModeCommand_settled (msg : Uplink.ModeCmdTlm) (a : Application) :
    Settled a.data (processModeCommand msg a).data := by
  unfold processModeCommand
  dsimp only
  split <;> exact .of_same rfl rfl

/-- A diagnostic command is settled. -/
theorem processDiagnosticCommand_settled (msg : Uplink.DiagnosticCmdTlm) (a : Application) :
    Settled a.data (processDiagnosticCommand msg a).data := by
  unfold processDiagnosticCommand
  split
  · exact .of_same rfl rfl
  · split <;> exact .of_same rfl rfl

/-- A ground command is settled. -/
theorem command_settled (fcnCode : UInt16) (size : Nat) (env : Env) (a : Application) :
    Settled a.data (taskPipe env (.command fcnCode size) a).data := by
  have sized : ∀ handler : Application → Application, Settled a.data (handler a).data →
      Settled a.data (withCmdLength size handler a).data := by
    intro handler settled
    unfold withCmdLength
    split
    · exact .of_same rfl rfl
    · exact settled
  unfold taskPipe
  dsimp only
  split
  · exact sized noop (.of_same rfl rfl)
  · split
    · exact sized resetCounters (.of_same rfl rfl)
    · exact .of_same rfl rfl

/-- Whether a round handles a configuration command. -/
def configures (met : Env × Option PipeMessage) : Option ConfigCmd :=
  match met.2 with
  | some (.config cmd) => some cmd
  | _ => none

/-- A round without a configuration command is settled. -/
theorem round_settled (a : Application) {met : Env × Option PipeMessage}
    (other : configures met = none) : Settled a.data (round a met).data := by
  obtain ⟨env, message⟩ := met
  cases message with
  | none => exact updateHealth_settled false env a.data
  | some message =>
    cases message with
    | config cmd => cases other
    | state message =>
      exact (cacheMessage_settled message env.nowMs a.data).trans
        (updateHealth_settled true env _)
    | recovery msg => exact processRecoveryCommand_settled msg env a.data
    | mode msg => exact processModeCommand_settled msg a
    | diagnostic msg => exact processDiagnosticCommand_settled msg a
    | command fcnCode size => exact command_settled fcnCode size env a
    | unreadableId | unknownId | unreadableFcnCode | sendHk | viewpoint =>
      exact .of_same rfl rfl

/-- The values that a state file restores are those of one configuration. -/
theorem restored_values {file : Option (List UInt8)} {values : List UInt32}
    (restored : (restoredConfig file).map ConfigParams.values = some values)
    {config : ConfigParams} (reads : restoredConfig file = some config) :
    config.values = values := by
  rw [reads] at restored
  exact Option.some.inj restored

/-- A configuration command is an edit of the values, or changes nothing. What the state file
restores then is what it restored before, or the new values. -/
theorem processConfigCommand_edits (io : SaveIo) (path : String) (cmd : ConfigCmd)
    (c : Configured) :
    let after := processConfigCommand io path cmd c
    (after.app.activeConfig.values = c.app.activeConfig.values ∨
        after.app.activeConfig.values = configureValues c.app.activeConfig.values cmd.edit) ∧
      ∀ config, restoredConfig after.app.stateFile = some config →
        restoredConfig c.app.stateFile = some config ∨
          config.values = after.app.activeConfig.values := by
  intro after
  by_cases own : cmd.byte 0 = configScope
  · rcases processConfigCommand_atomic io path cmd c with accepts | refuses
    · refine ⟨.inr ?_, fun config reads => ?_⟩
      · have set : configureValues c.app.activeConfig.values cmd.edit =
            c.app.activeConfig.values.set cmd.parameterId.toNat cmd.value :=
          if_pos (And.intro own accepts.range)
        rw [set]
        exact accepts.active
      · by_cases saves : io = .renamed
        · exact .inr (restored_values (accepts.saved saves) reads)
        · rcases accepts.unsaved saves with file | ⟨-, nothing | restored⟩
          · have same : after.app.stateFile = c.app.stateFile := file
            rw [same] at reads
            exact .inl reads
          · have none : (restoredConfig after.app.stateFile).map ConfigParams.values = none :=
              nothing
            rw [reads] at none
            cases none
          · exact .inr (restored_values restored reads)
    · refine ⟨.inl refuses.active, fun config reads => ?_⟩
      have file : after.app.stateFile = c.app.stateFile := refuses.file
      rw [file] at reads
      exact .inl reads
  · have refused : after.app.activeConfig = c.app.activeConfig ∧
        after.app.stateFile = c.app.stateFile := by
      change (processConfigCommand io path cmd c).app.activeConfig = _ ∧
        (processConfigCommand io path cmd c).app.stateFile = _
      unfold processConfigCommand
      split <;> exact ⟨rfl, rfl⟩
    refine ⟨.inl (congrArg ConfigParams.values refused.1), fun config reads => ?_⟩
    rw [refused.2] at reads
    exact .inl reads

/-- A start takes the configuration that the state file restores, or the default one. -/
theorem boot_settles (io : StateFile.LoadIo) (file : Option (List UInt8)) :
    ((boot io file).app.activeConfig = ConfigParams.default ∨
        restoredConfig file = some (boot io file).app.activeConfig) ∧
      (boot io file).app.stateFile = file := by
  have same : (initialState Restored.none file).stateFile = file := rfl
  unfold boot loadState
  cases loaded : StateFile.load stateLayout io (initialState Restored.none file).stateFile with
  | restored record =>
    have accepted := (StateFile.load_eq_restored.mp loaded).2
    rw [same] at accepted
    exact ⟨.inr (congrArg (Option.map PersistentState.config) accepted), rfl⟩
  | absent | corrupt text => exact ⟨.inl rfl, rfl⟩

end

end Core

/-! ## The bridge -/

namespace Bridge

open Mission

instance (parameterId : Nat) (value : UInt32) :
    Decidable (parameterInRange parameterId value) :=
  inferInstanceAs (Decidable (if parameterId < 5 then
    (paramIntervalMinUs ≤ value ∧ value ≤ paramIntervalMaxUs)
    else (paramMsMin ≤ value ∧ value ≤ paramMsMax)))

/-- The values of the bridge after an edit. -/
def configureValues : List UInt32 → ConfigEdit → List UInt32 :=
  configure configScope parameterInRange

/-- A configuration command is an edit of the values, or changes nothing. -/
theorem processConfigCommand_edits (result : SaveResult) (cmd : ConfigCmd) (s : State) :
    (processConfigCommand result cmd s).activeConfig.values = s.activeConfig.values ∨
      (processConfigCommand result cmd s).activeConfig.values =
        configureValues s.activeConfig.values cmd.edit := by
  have same := processConfigCommand_app result cmd ⟨s, s.activeConfig, s.activeConfig, .idle, .ok,
    none⟩
  have foreign : cmd.byte 0 ≠ configScope →
      (processConfigCommand result cmd s).activeConfig = s.activeConfig := by
    intro foreign
    have other : cmd.byte 0 ≠ 2 := foreign
    unfold processConfigCommand
    dsimp only
    split <;> rfl
  rcases processConfigCommand_atomic result cmd ⟨s, s.activeConfig, s.activeConfig, .idle, .ok,
    none⟩ with accepts | refuses | ⟨-, left⟩
  · have active : (processConfigCommand result cmd s).activeConfig.values =
        s.activeConfig.values.set cmd.parameterId.toNat cmd.value := by
      rw [← same]
      exact accepts.active
    by_cases own : cmd.byte 0 = configScope
    · have set : configureValues s.activeConfig.values cmd.edit =
          s.activeConfig.values.set cmd.parameterId.toNat cmd.value :=
        if_pos (And.intro own accepts.range)
      rw [set]
      exact .inr active
    · exact .inl (congrArg ConfigParams.values (foreign own))
  · left
    rw [← same]
    exact refuses.active
  · left
    rw [← same, left]

/-- The configuration command that an input is. -/
def Input.configures : Input → Option ConfigCmd
  | .config cmd _ => some cmd
  | _ => none

/-- An input that is no configuration command leaves the configuration as it is. -/
theorem step_settled (s : State) {input : Input} (other : input.configures = none) :
    (step s input).activeConfig = s.activeConfig := by
  rcases (step_puts s input).config with settings | same
  · cases input with
    | config cmd saved => cases other
    | _ => simp [Input.purposes] at settings
  · exact same

end Bridge

end CfsTelemetry
