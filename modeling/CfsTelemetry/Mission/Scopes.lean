import CfsTelemetry.Bridge.Config
import CfsTelemetry.Core.Config
import CfsTelemetry.Lora.Dispatch
import CfsTelemetry.Uplink.Commit

/-!
# The scope of a configuration message

A configuration message of the uplink application is received by the core application, the
bridge and the LoRa application alike, and its first byte names the one that it is for. The
bridge and the LoRa application leave a message for another application alone. The core
application does not answer it either, but counts it as an error of its own.
-/
namespace CfsTelemetry

/-- The scope of a configuration command for the application (`LORA_TDM_APP_CONFIG_SCOPE`). -/
def Lora.configScope : UInt8 := 3

/-- The results of commands that the core application has reported, newest first. -/
def Core.execResults (c : Core.Configured) : List ExecResult :=
  c.app.outputs.filterMap fun
    | .message (.execResult result) => some result
    | _ => none

/-- The results of commands that the bridge has reported, newest first. -/
def Bridge.execResults (c : Bridge.Configured) : List ExecResult :=
  c.app.outputs.filterMap fun
    | .message (.execResult result) => some result
    | _ => none

/-- The results of commands that the LoRa application has reported, newest first. -/
def Lora.execResults (app : Lora.App) : List ExecResult :=
  app.sent.filterMap fun
    | .execResult result => some result
    | _ => none

namespace Mission

/-- What an application makes of a message for an application: when it is named, it answers once
with the sequence of the message, and otherwise it does nothing. -/
structure Minds {App : Type} (results : App → List ExecResult) (named : Prop) (sequence : UInt16)
    (before after : App) : Prop where
  /-- The application that is named answers once. -/
  answers : named → ∃ result, result.sourceSequence = sequence ∧
    results after = result :: results before
  /-- An application that is not named does nothing. -/
  ignores : ¬ named → after = before

/-- The applications that receive the configuration messages. -/
structure Subscribers where
  core : Core.Configured
  bridge : Bridge.Configured
  lora : Lora.App

/-- What the applications meet when they handle a configuration message. -/
structure SubscriberEnv where
  coreSave : Core.SaveIo
  corePath : String
  bridgeSave : Bridge.SaveResult
  lora : Lora.PacketEnv

/-- What a receiver reads of a configuration message. -/
def configCmd (tlm : Uplink.ConfigCmdTlm) : ConfigCmd :=
  ⟨tlm.sourceSequence, tlm.payloadLength, tlm.payload⟩

/-- A byte of a configuration message is the byte of the command, as far as the payload goes. -/
theorem configCmd_byte {cmd : ProcessUplinkCmd} (s : Uplink.State) {index : Nat}
    (used : index < cmd.payloadLength.toNat) (inside : index < 196) :
    (configCmd (Uplink.configTlm cmd s)).byte index = cmd.byte index := by
  change (Uplink.usedPayload cmd)[index]?.getD 0 = cmd.byte index
  have available : index < maxPayloadLength := inside
  rw [Uplink.usedPayload, Vector.getElem?_eq_getElem available, Vector.getElem_ofFn, if_pos used]
  rfl

/-- The applications after they have handled a configuration message. -/
def receiveConfig (env : SubscriberEnv) (tlm : Uplink.ConfigCmdTlm) (apps : Subscribers) :
    Subscribers where
  core := Core.processConfigCommand env.coreSave env.corePath (configCmd tlm) apps.core
  bridge := apps.bridge.processConfigCommand env.bridgeSave (configCmd tlm)
  lora := Lora.processConfigCommand env.lora (configCmd tlm) apps.lora

/-- The uplink application publishes a configuration message for a ground command. -/
def Publishes (env : Uplink.Env) (cmd : ProcessUplinkCmd) (s : Uplink.State)
    (tlm : Uplink.ConfigCmdTlm) : Prop :=
  (Uplink.forwardConfigCommand env cmd s).2.outputs =
    .transmit (.config tlm) true :: s.outputs

/-- A message is handled by the application that its scope names, if any, and by no other. -/
structure Isolated (cmd : ConfigCmd) (before after : Subscribers) : Prop where
  core : Minds Core.execResults (cmd.byte 0 = Core.configScope) cmd.sourceSequence
    before.core after.core
  bridge : Minds Bridge.execResults (cmd.byte 0 = Bridge.configScope) cmd.sourceSequence
    before.bridge after.bridge
  lora : Minds Lora.execResults (cmd.byte 0 = Lora.configScope) cmd.sourceSequence
    before.lora after.lora

section

variable {env : SubscriberEnv} {cmd : ConfigCmd} {apps : Subscribers}

/-- A configuration message that is published has a whole header. -/
theorem Publishes.whole {uplinkEnv : Uplink.Env} {uplinkCmd : ProcessUplinkCmd} {s : Uplink.State}
    {tlm : Uplink.ConfigCmdTlm} (published : Publishes uplinkEnv uplinkCmd s tlm) :
    ¬ (configCmd tlm).payloadLength < 8 := by
  have grows : ∀ {after : List Uplink.Output}, after = s.outputs →
      after ≠ .transmit (.config tlm) true :: s.outputs := by
    intro after same grown
    have lengths := congrArg List.length (same.symm.trans grown)
    simp at lengths
  unfold Publishes Uplink.forwardConfigCommand at published
  dsimp only at published
  split at published
  · exact absurd published (grows rfl)
  rename_i whole
  split at published
  · exact absurd published (grows rfl)
  split at published
  · exact absurd published (grows rfl)
  · have sent := (List.cons.inj published).1
    simp only [Uplink.Output.transmit.injEq, Uplink.Message.config.injEq] at sent
    rw [← sent.1]
    exact whole

/-- A ground command with a right length and checksum is published. -/
theorem publishes_configTlm {uplinkEnv : Uplink.Env} {uplinkCmd : ProcessUplinkCmd}
    {s : Uplink.State} (taken : uplinkEnv.transmit = true)
    (whole : ¬ uplinkCmd.payloadLength < Uplink.configPayloadHdrSize)
    (length : ¬ ((Uplink.configPayloadHdr uplinkCmd).valueLength ≠ 4 ∨
      Uplink.configPayloadHdrSize + (Uplink.configPayloadHdr uplinkCmd).valueLength >
        uplinkCmd.payloadLength))
    (sum : ¬ (Uplink.configPayloadHdr uplinkCmd).checksum ≠ Uplink.expectedChecksum uplinkCmd) :
    Publishes uplinkEnv uplinkCmd s (Uplink.configTlm uplinkCmd s) := by
  unfold Publishes Uplink.forwardConfigCommand
  dsimp only
  rw [if_neg whole, if_neg length, if_neg sum, taken]
  rfl

/-! ## The core application -/

/-- A report is one answer. -/
theorem publishConfigResult_answers {c after : Core.Configured} (ok : Bool)
    (same : after.app.outputs = c.app.outputs) :
    ∃ result : ExecResult, result.sourceSequence = cmd.sourceSequence ∧
      Core.execResults (Core.publishConfigResult cmd ok after) = result :: Core.execResults c := by
  refine ⟨⟨cmd.sourceSequence, 1, 1, if ok then 0 else 1, after.lastConfigResult.code⟩, rfl, ?_⟩
  rw [Core.execResults, Core.execResults, ← same]
  rfl

/-- A save reports no result. -/
theorem coreSave_outputs (io : Core.SaveIo) (path : String) (s : Core.State) :
    (Core.saveState io path s).outputs = s.outputs := by
  cases io <;> rfl

/-- The core application answers a command of its scope once. -/
theorem core_answers (io : Core.SaveIo) (path : String) (c : Core.Configured)
    (whole : ¬ cmd.payloadLength < 8) (named : cmd.byte 0 = Core.configScope) :
    ∃ result : ExecResult, result.sourceSequence = cmd.sourceSequence ∧
      Core.execResults (Core.processConfigCommand io path cmd c) =
        result :: Core.execResults c := by
  unfold Core.processConfigCommand
  rw [if_neg whole, if_neg (not_not.mpr named)]
  split
  · exact publishConfigResult_answers false rfl
  split
  · exact publishConfigResult_answers false rfl
  split
  · exact publishConfigResult_answers false rfl
  dsimp only
  split
  · exact publishConfigResult_answers false rfl
  split
  · exact publishConfigResult_answers false rfl
  split
  · exact publishConfigResult_answers true (coreSave_outputs io path _)
  · exact publishConfigResult_answers false rfl

/-- The core application counts a command of another scope as an error. -/
theorem core_foreign (io : Core.SaveIo) (path : String) (c : Core.Configured)
    (whole : ¬ cmd.payloadLength < 8) (foreign : cmd.byte 0 ≠ Core.configScope) :
    (Core.processConfigCommand io path cmd c).app.errCounter = c.app.errCounter + 1 := by
  unfold Core.processConfigCommand
  rw [if_neg whole, if_pos foreign]
  rfl

/-- A message of another scope is not left to the application that it names. -/
theorem foreign_not_isolated {tlm : Uplink.ConfigCmdTlm}
    (whole : ¬ (configCmd tlm).payloadLength < 8)
    (foreign : (configCmd tlm).byte 0 ≠ Core.configScope) :
    ¬ Isolated (configCmd tlm) apps (receiveConfig env tlm apps) := by
  intro isolated
  have counted := core_foreign env.coreSave env.corePath apps.core whole foreign
  have same : (receiveConfig env tlm apps).core = apps.core := isolated.core.ignores foreign
  have unchanged : apps.core.app.errCounter + 1 = apps.core.app.errCounter := by
    rw [← counted]
    exact congrArg (fun c => c.app.errCounter) same
  simp at unchanged

/-- A report is one answer. -/
theorem rejectConfig_answers {c : Bridge.Configured} {app : Bridge.State}
    (defect : Bridge.ConfigResult) (same : app.outputs = c.app.outputs) :
    ∃ result : ExecResult, result.sourceSequence = cmd.sourceSequence ∧
      Bridge.execResults (c.refuse defect (Bridge.rejectConfig cmd defect app)) =
        result :: Bridge.execResults c := by
  refine ⟨⟨cmd.sourceSequence, 2, 1, 1, defect.code⟩, rfl, ?_⟩
  rw [Bridge.execResults, Bridge.execResults, ← same]
  rfl

/-- The bridge minds the scope of a command. -/
theorem bridge_minds (result : Bridge.SaveResult) (c : Bridge.Configured)
    (whole : ¬ cmd.payloadLength < 8) :
    Minds Bridge.execResults (cmd.byte 0 = Bridge.configScope) cmd.sourceSequence c
      (c.processConfigCommand result cmd) := by
  constructor
  · intro named
    unfold Bridge.Configured.processConfigCommand
    dsimp only
    rw [if_neg whole, if_neg (not_not.mpr named)]
    split
    · exact rejectConfig_answers .badVersion rfl
    split
    · exact rejectConfig_answers .badLength rfl
    split
    · exact rejectConfig_answers .badChecksum rfl
    split
    · exact @rejectConfig_answers _ { c with
        pendingConfig := c.app.activeConfig
        configPendingState := .pending } _ _ rfl
    rename_i candidate set
    split
    · have saved : (Bridge.saveState result { c.app with
          activeConfig := candidate
          configGeneration := c.app.configGeneration + 1
          cmdCounter := c.app.cmdCounter + 1 }).outputs = c.app.outputs := by
        cases result <;> rfl
      refine ⟨⟨cmd.sourceSequence, 2, 1, 0, 0⟩, rfl, ?_⟩
      rw [Bridge.execResults, Bridge.execResults, ← saved]
      rfl
    · exact @rejectConfig_answers _ { c with
        pendingConfig := candidate
        configPendingState := .pending } _ .badValue rfl
  · intro foreign
    unfold Bridge.Configured.processConfigCommand
    dsimp only
    rw [if_neg whole, if_pos foreign]

/-- A report is one answer. -/
theorem publishExecResult_answers {app after : Lora.App} (sequence : UInt16) (ok : Bool)
    (same : after.sent = app.sent) :
    ∃ result : ExecResult, result.sourceSequence = sequence ∧
      Lora.execResults (Lora.publishExecResult sequence 1 ok after) =
        result :: Lora.execResults app := by
  refine ⟨⟨sequence, 3, 1, if ok then 0 else 1, if ok then 0 else 1⟩, rfl, ?_⟩
  rw [Lora.execResults, Lora.execResults, ← same]
  rfl

/-- The LoRa application minds the scope of a command. -/
theorem lora_minds (packetEnv : Lora.PacketEnv) (app : Lora.App)
    (whole : ¬ cmd.payloadLength < 8) :
    Minds Lora.execResults (cmd.byte 0 = Lora.configScope) cmd.sourceSequence app
      (Lora.processConfigCommand packetEnv cmd app) := by
  constructor
  · intro named
    have own : ¬ cmd.byte 0 ≠ 3 := not_not.mpr named
    unfold Lora.processConfigCommand
    rw [if_neg whole, if_neg own]
    split
    · exact publishExecResult_answers _ false rfl
    split
    · exact publishExecResult_answers _ false rfl
    split
    · exact publishExecResult_answers _ false rfl
    dsimp only
    split
    · split
      · exact publishExecResult_answers _ false rfl
      · refine publishExecResult_answers _ true ?_
        unfold Lora.applyProtocol Lora.saveState
        cases packetEnv.save <;> rfl
    · exact publishExecResult_answers _ false rfl
  · intro foreign
    have other : cmd.byte 0 ≠ 3 := foreign
    unfold Lora.processConfigCommand
    rw [if_neg whole, if_pos other]

end

/-! ## All subscribers -/

/-- A configuration message that the uplink application publishes is handled by the application
that its scope names and by no other exactly when it names the core application. That one counts
an error for every other scope, where the bridge and the LoRa application do nothing. -/
theorem config_isolated_iff (uplinkEnv : Uplink.Env) (uplinkCmd : ProcessUplinkCmd)
    (s : Uplink.State) (tlm : Uplink.ConfigCmdTlm)
    (published : Publishes uplinkEnv uplinkCmd s tlm) (env : SubscriberEnv) (apps : Subscribers) :
    Isolated (configCmd tlm) apps (receiveConfig env tlm apps) ↔
      (configCmd tlm).byte 0 = Core.configScope := by
  have whole := published.whole
  constructor
  · intro isolated
    by_contra foreign
    exact foreign_not_isolated whole foreign isolated
  · intro named
    exact {
      core := ⟨core_answers env.coreSave env.corePath apps.core whole, absurd named⟩
      bridge := bridge_minds env.bridgeSave apps.bridge whole
      lora := lora_minds env.lora apps.lora whole }

/-- A ground command with the bytes of a configuration. -/
def configUplink (bytes : List UInt8) : ProcessUplinkCmd where
  version := 1
  commandClass := 1
  payloadLength := 12
  flags := 0
  sequence := 7
  checksum := 0
  payload := Vector.ofFn fun index => bytes.getD index 0

/-- A timeout of the core application of 500 ms. -/
def coreTimeout : ProcessUplinkCmd := configUplink [1, 1, 0, 0, 0, 4, 0xFB, 0, 0xF4, 1, 0, 0]

/-- An interval of a stream of the bridge of 20000 us. -/
def bridgeInterval : ProcessUplinkCmd := configUplink [2, 1, 0, 0, 0, 4, 0x75, 0, 0x20, 0x4E, 0, 0]

/-- The configuration message of a ground command that comes first. -/
def firstConfigTlm (cmd : ProcessUplinkCmd) : Uplink.ConfigCmdTlm :=
  Uplink.configTlm cmd (Uplink.bootState none)

/-- The applications after their start. -/
def startedSubscribers : Subscribers where
  core := Core.boot .read none
  bridge := Bridge.boot .read none
  lora := ⟨Lora.initialState, 0, 0, [], []⟩

/-- The applications handle a message while their saves succeed. -/
def savingSubscribers : SubscriberEnv where
  coreSave := .renamed
  corePath := "cf/cfs_core_app_state.bin"
  bridgeSave := .written
  lora := ⟨1000, "cf/lora_tdm_app_state.bin", .saved⟩

/-- The timeout is handled by the core application and by no other. -/
theorem config_isolated_coreTimeout :
    Isolated (configCmd (firstConfigTlm coreTimeout)) startedSubscribers
        (receiveConfig savingSubscribers (firstConfigTlm coreTimeout) startedSubscribers) ↔
      (configCmd (firstConfigTlm coreTimeout)).byte 0 = Core.configScope :=
  config_isolated_iff (Uplink.workingEnv 1000) coreTimeout (Uplink.bootState none)
    (firstConfigTlm coreTimeout)
    (publishes_configTlm rfl (by decide +kernel) (by decide +kernel) (by decide +kernel))
    savingSubscribers startedSubscribers

/-- The interval is published for the bridge, and the core application counts an error. -/
theorem bridgeInterval_not_isolated :
    Publishes (Uplink.workingEnv 1000) bridgeInterval (Uplink.bootState none)
        (firstConfigTlm bridgeInterval) ∧
      ¬ Isolated (configCmd (firstConfigTlm bridgeInterval)) startedSubscribers
        (receiveConfig savingSubscribers (firstConfigTlm bridgeInterval) startedSubscribers) := by
  have published : Publishes (Uplink.workingEnv 1000) bridgeInterval (Uplink.bootState none)
      (firstConfigTlm bridgeInterval) :=
    publishes_configTlm rfl (by decide +kernel) (by decide +kernel) (by decide +kernel)
  exact ⟨published, foreign_not_isolated published.whole (by decide +kernel)⟩

end Mission

end CfsTelemetry
