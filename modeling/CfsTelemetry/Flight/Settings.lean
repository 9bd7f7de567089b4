import CfsTelemetry.Flight.Commands
import CfsTelemetry.Library.Provenance
import CfsTelemetry.Mission.Settings
import CfsTelemetry.Uplink.Gating

/-!
# Configurations from the ground

The active configuration of the core application and that of the bridge are what configuration
commands of the ground have made of it: some of those that the uplink application has admitted, in
their order, over the configuration that the application started with. The core application keeps
its configuration in a state file; what a restart takes from the file the ground has made as well.
-/
namespace CfsTelemetry.Flight

open Run Provenance Words

/-- The edit of a configuration that a ground command orders. -/
def groundConfig (cmd : ProcessUplinkCmd) : Option ConfigEdit :=
  if Uplink.CommandClass.ofByte cmd.commandClass = some .config ∧
      Uplink.configValid cmd = true then
    some ⟨cmd.byte 0, word16 (cmd.byte 2) (cmd.byte 3),
      word32 (cmd.byte 8) (cmd.byte 9) (cmd.byte 10) (cmd.byte 11)⟩
  else none

/-- The edits that a message for the core application orders. -/
def coreEdits : Core.PipeMessage → List ConfigEdit
  | .config cmd => [cmd.edit]
  | _ => []

/-- The edits that a message for the bridge orders. -/
def BridgeOrder.configEdits : BridgeOrder → List ConfigEdit
  | config cmd => [cmd.edit]
  | _ => []

/-- The edits of the admitted commands. -/
def admittedConfigs (boot : Boot) (events : List Event) : List ConfigEdit :=
  (project step admitted boot.system events).filterMap groundConfig

/-- The message of a configuration command orders the edit that the command does. -/
theorem configTlm_edit {cmd : ProcessUplinkCmd} (s : Uplink.State)
    (valid : Uplink.configValid cmd = true) :
    (Mission.configCmd (Uplink.configTlm cmd s)).edit =
      ⟨cmd.byte 0, word16 (cmd.byte 2) (cmd.byte 3),
        word32 (cmd.byte 8) (cmd.byte 9) (cmd.byte 10) (cmd.byte 11)⟩ := by
  have twelve := UInt8.le_iff_toNat_le.mp (Uplink.configValid_length valid)
  have length : (12 : UInt8).toNat = 12 := by decide
  have byte : ∀ index, index < 12 →
      (Mission.configCmd (Uplink.configTlm cmd s)).byte index = cmd.byte index :=
    fun index small => Mission.configCmd_byte s (by omega) (by omega)
  unfold ConfigCmd.edit ConfigCmd.parameterId ConfigCmd.value
  simp only [byte 0 (by decide), byte 2 (by decide), byte 3 (by decide), byte 8 (by decide),
    byte 9 (by decide), byte 10 (by decide), byte 11 (by decide)]

/-- What messages order by their configuration commands alone is what the ground commands do. -/
theorem configs_agree {Order : Type} {pipe : Uplink.Message → Option Order}
    {read : Order → List ConfigEdit}
    (own : ∀ tlm, through pipe read (.config tlm) = [(Mission.configCmd tlm).edit])
    (others : ∀ message, (∀ tlm, message ≠ .config tlm) → through pipe read message = []) :
    Agrees (through pipe read) fun cmd => (groundConfig cmd).toList := by
  intro env cmd s message asked
  obtain ⟨commandClass, named, sends⟩ := Uplink.request_sends asked
  unfold groundConfig
  dsimp only
  rw [named]
  cases sends with
  | config valid =>
    rw [if_pos (And.intro rfl valid), own, configTlm_edit s valid]
    rfl
  | _ =>
    rw [if_neg (not_and_of_not_left _ (by decide))]
    refine others _ fun tlm impossible => ?_
    cases impossible

/-- The edits that the core application takes are a part of those of the admitted commands. -/
theorem taken_coreEdits (boot : Boot) (events : List Event) :
    ((project step takenCore boot.system events).flatMap coreEdits).Sublist
      (admittedConfigs boot events) := by
  rw [admittedConfigs, List.filterMap_eq_flatMap_toList]
  refine taken_core (configs_agree (fun tlm => rfl) fun message other => ?_) boot events
  cases message with
  | config tlm => exact absurd rfl (other tlm)
  | resetCounters scope => cases scope <;> rfl
  | _ => rfl

/-- So are those that the bridge takes. -/
theorem taken_bridgeEdits (boot : Boot) (events : List Event) :
    ((project step takenBridge boot.system events).flatMap BridgeOrder.configEdits).Sublist
      (admittedConfigs boot events) := by
  rw [admittedConfigs, List.filterMap_eq_flatMap_toList]
  refine taken_bridge (configs_agree (fun tlm => rfl) fun message other => ?_) (fun cmd => rfl)
    boot events
  cases message with
  | config tlm => exact absurd rfl (other tlm)
  | resetCounters scope => cases scope <;> rfl
  | _ => rfl

/-! ## The core application -/

/-- The values that the core application may start with: the default ones, or those of the state
file that it found first. -/
def CoreStart (boot : Boot) (values : List UInt32) : Prop :=
  values = Core.ConfigParams.default.values ∨
    ∃ config, Core.restoredConfig boot.coreFile = some config ∧ values = config.values

/-- The configuration of the core application, and the one that its state file restores, are
what edits have made. -/
structure CoreConfigs (boot : Boot) (edits : List ConfigEdit) (s : Core.State) : Prop where
  active : MadeFrom Core.configureValues (CoreStart boot) edits s.activeConfig.values
  restored : ∀ config, Core.restoredConfig s.stateFile = some config →
    MadeFrom Core.configureValues (CoreStart boot) edits config.values

/-- More edits are made, and none of them is applied. -/
theorem CoreConfigs.idle {boot : Boot} {edits : List ConfigEdit} {s : Core.State}
    (configs : CoreConfigs boot edits s) (new : List ConfigEdit) :
    CoreConfigs boot (edits ++ new) s :=
  ⟨configs.active.idle new, fun config reads => (configs.restored config reads).idle new⟩

/-- What is settled stays what edits have made. -/
theorem CoreConfigs.settled {boot : Boot} {edits : List ConfigEdit} {s s' : Core.State}
    (configs : CoreConfigs boot edits s) (settled : Core.Settled s s') :
    CoreConfigs boot edits s' := by
  constructor
  · rw [settled.active]
    exact configs.active
  · intro config reads
    rcases settled.restored config reads with before | saved
    · exact configs.restored config before
    · rw [saved]
      exact configs.active

/-- A start over what edits have made is what edits have made. -/
theorem CoreConfigs.start {boot : Boot} {edits : List ConfigEdit}
    {file : Option (List UInt8)} (io : StateFile.LoadIo)
    (restored : ∀ config, Core.restoredConfig file = some config →
      MadeFrom Core.configureValues (CoreStart boot) edits config.values) :
    CoreConfigs boot edits (Core.startApplication io file).data := by
  obtain ⟨active, same⟩ := Core.boot_settles io file
  constructor
  · change MadeFrom _ _ _ (Core.boot io file).app.activeConfig.values
    rcases active with default | reads
    · rw [default]
      exact .self (.inl rfl) edits
    · exact restored _ reads
  · intro config reads
    have found : Core.restoredConfig (Core.boot io file).app.stateFile = some config := reads
    rw [same] at found
    exact restored config found

/-- A round of the core application applies the edit of its message, or none. -/
theorem CoreConfigs.round {boot : Boot} {edits : List ConfigEdit} {a : Core.Application}
    (configs : CoreConfigs boot edits a.data) (met : Core.Env × Option Core.PipeMessage) :
    CoreConfigs boot (edits ++ (Core.configures met).toList.map ConfigCmd.edit)
      (Core.round a met).data := by
  cases own : Core.configures met with
  | none => exact (configs.settled (Core.round_settled a own)).idle _
  | some cmd =>
    obtain ⟨env, message⟩ := met
    have named : message = some (.config cmd) := by
      cases message with
      | none => cases own
      | some message =>
        cases message with
        | config other =>
          cases own
          rfl
        | _ => cases own
    cases named
    obtain ⟨active, restored⟩ := Core.processConfigCommand_edits (env.save 0) env.stateFilePath
      cmd a.configured
    have made : MadeFrom Core.configureValues (CoreStart boot) (edits ++ [cmd.edit])
        (Core.round a (env, some (.config cmd))).data.activeConfig.values := by
      rcases active with same | edited
      · change MadeFrom _ _ _
          (Core.processConfigCommand _ _ cmd a.configured).app.activeConfig.values
        rw [same]
        exact configs.active.idle _
      · change MadeFrom _ _ _
          (Core.processConfigCommand _ _ cmd a.configured).app.activeConfig.values
        rw [edited]
        exact configs.active.applied _
    refine ⟨made, fun config reads => ?_⟩
    rcases restored config reads with before | new
    · exact (configs.restored config before).idle _
    · rw [new]
      exact made

/-- What the core application is configured with is what the message taken orders. -/
theorem configures_eq {s : System} {event : Event} {met : Core.Env × Option Core.PipeMessage}
    (own : coreRound s event = some met) :
    (Core.configures met).toList.map ConfigCmd.edit =
      (takenCore s event).flatMap coreEdits := by
  have read : ∀ env message, (Core.configures (env, some message)).toList.map ConfigCmd.edit =
      coreEdits message := by
    intro env message
    cases message <;> rfl
  cases event with
  | core env message other bus =>
    cases own
    cases message with
    | none => rfl
    | some message =>
      cases message with
      | config cmd => cases other
      | _ => rfl
  | takeCore env bus =>
    cases pipe : s.toCore with
    | nil => simp [coreRound, pipe] at own
    | cons message rest =>
      rw [coreRound, pipe] at own
      cases own
      rw [read, takenCore, pipe]
      exact (List.append_nil _).symm
  | _ => cases own

/-- Over a run, the configuration of the core application is what the edits taken have made. -/
theorem run_coreConfigs (boot : Boot) (events : List Event) :
    CoreConfigs boot ((project step takenCore boot.system events).flatMap coreEdits)
      (run step boot.system events).core.data := by
  induction events using List.reverseRecOn with
  | nil =>
    exact .start boot.coreLoad fun config reads => .self (.inr ⟨config, reads, rfl⟩) _
  | append_singleton before event previous =>
    rw [project_snoc, run_snoc, List.flatMap_append]
    generalize run step boot.system before = s at previous ⊢
    cases round : coreRound s event with
    | none =>
      rcases core_of_none round with same | ⟨io, started⟩
      · rw [same]
        exact previous.idle _
      · rw [started]
        exact .start io (previous.idle _).restored
    | some met =>
      obtain ⟨rest, -, moved⟩ := step_core round
      rw [moved, ← configures_eq round]
      exact previous.round met

/-! ## The bridge -/

/-- The values that the bridge may start with: those of one of its starts. -/
def BridgeStart (boot : Boot) (events : List Event) (values : List UInt32) : Prop :=
  ∃ config, (config = boot.config ∨ .restartBridge config ∈ events) ∧ values = config.values

/-- What an input of the bridge configures is what the message taken orders. -/
theorem bridgeConfigures_eq {s : System} {event : Event} {input : Bridge.Input}
    (own : bridgeInput s event = some input) :
    input.configures.toList.map ConfigCmd.edit =
      (takenBridge s event).flatMap BridgeOrder.configEdits := by
  have read : ∀ (order : BridgeOrder) met,
      (order.input met).configures.toList.map ConfigCmd.edit = order.configEdits := by
    intro order met
    cases order with
    | control cmd => cases cmd <;> rfl
    | _ => rfl
  cases event with
  | bridge alone other bus =>
    cases own
    cases input with
    | config cmd saved => cases other
    | _ => rfl
  | takeBridge met bus =>
    cases pipe : s.toBridge with
    | nil => simp [bridgeInput, pipe] at own
    | cons order rest =>
      rw [bridgeInput, pipe] at own
      cases own
      rw [read, takenBridge, pipe]
      exact (List.append_nil _).symm
  | _ => cases own

/-- An input of the bridge applies the edit of its message, or none. -/
theorem bridge_edits {base : List UInt32 → Prop} {edits : List ConfigEdit} {s : Bridge.State}
    (made : MadeFrom Bridge.configureValues base edits s.activeConfig.values)
    (input : Bridge.Input) :
    MadeFrom Bridge.configureValues base
      (edits ++ input.configures.toList.map ConfigCmd.edit)
      (Bridge.step s input).activeConfig.values := by
  cases own : input.configures with
  | none =>
    rw [Bridge.step_settled s own]
    exact made.idle _
  | some cmd =>
    cases input with
    | config other saved =>
      cases own
      change MadeFrom _ _ _ (Bridge.processConfigCommand saved cmd s).activeConfig.values
      rcases Bridge.processConfigCommand_edits saved cmd s with same | edited
      · rw [same]
        exact made.idle _
      · rw [edited]
        exact made.applied _
    | _ => cases own

/-- Over a run, the configuration of the bridge is what the edits taken have made. -/
theorem run_bridgeConfigs (boot : Boot) (events : List Event) :
    MadeFrom Bridge.configureValues (BridgeStart boot events)
      ((project step takenBridge boot.system events).flatMap BridgeOrder.configEdits)
      (run step boot.system events).bridge.activeConfig.values := by
  induction events using List.reverseRecOn with
  | nil => exact .self ⟨boot.config, .inl rfl, rfl⟩ _
  | append_singleton before event previous =>
    have more : ∀ values, BridgeStart boot before values →
        BridgeStart boot (before ++ [event]) values := by
      rintro values ⟨config, first | again, same⟩
      · exact ⟨config, .inl first, same⟩
      · exact ⟨config, .inr (List.mem_append_left _ again), same⟩
    have known := previous.of_base more
    rw [project_snoc, run_snoc, List.flatMap_append]
    generalize run step boot.system before = s at known ⊢
    cases input : bridgeInput s event with
    | none =>
      rcases bridge_of_none input with same | ⟨config, restarts, started⟩
      · rw [same]
        exact known.idle _
      · rw [started]
        exact .self ⟨config, .inr (by simp [restarts]), rfl⟩ _
    | some taken =>
      obtain ⟨rest, -, moved⟩ := step_bridge input
      rw [moved, ← bridgeConfigures_eq input]
      exact bridge_edits known taken

/-- The active configuration of the core application, the one that its state file restores, and
the active configuration of the bridge are what some of the admitted configuration commands have
made, in their order, of the values that the application may start with. An edit sets the
parameter that it names, of the application that it names, to a value in the range of the
parameter. -/
theorem configs_from_ground (boot : Boot) (events : List Event) :
    let s := run step boot.system events
    let edits := admittedConfigs boot events
    CoreConfigs boot edits s.core.data ∧
      MadeFrom Bridge.configureValues (BridgeStart boot events) edits
        s.bridge.activeConfig.values := by
  intro s edits
  have core := run_coreConfigs boot events
  have part := taken_coreEdits boot events
  exact ⟨⟨core.active.of_sublist part,
      fun config reads => (core.restored config reads).of_sublist part⟩,
    (run_bridgeConfigs boot events).of_sublist (taken_bridgeEdits boot events)⟩

end CfsTelemetry.Flight
