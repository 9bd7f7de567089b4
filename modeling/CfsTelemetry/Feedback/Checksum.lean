import CfsTelemetry.Feedback.System
import CfsTelemetry.Uplink.Verdicts

/-!
# The checksum of a forwarded command

The LoRa application writes the checksum and the length of a command that it forwards, from a
text line as from a binary frame, and the uplink application checks both. What is forwarded
passes both checks.
-/
namespace CfsTelemetry.Feedback

open Run

/-- The uplink application finds the checksum of a command right and its length within bounds,
and says so to every copy of the command in every state. -/
structure Agreed (cmd : ProcessUplinkCmd) : Prop where
  /-- The checksum is the one that the uplink application computes. -/
  checksum : cmd.checksum = Uplink.computeProxyCrc cmd
  /-- The payload fits. -/
  bounded : cmd.payloadLength ≤ 196
  /-- No answer is a wrong checksum. -/
  checksumAnswer : ∀ env s,
    (Uplink.processUplink env cmd s).lastCommandResult ≠ .rejectChecksum
  /-- No answer is a wrong length, unless there is no payload. -/
  lengthAnswer : ∀ env s, (Uplink.processUplink env cmd s).lastCommandResult = .rejectLength →
    cmd.payloadLength = 0

/-- A command with the right checksum and a payload that fits fails no check of them, unless it
has no payload. -/
theorem validateProxyCommand_agreed {cmd : ProcessUplinkCmd} {result : Uplink.Result}
    (checksum : cmd.checksum = Uplink.computeProxyCrc cmd) (bounded : cmd.payloadLength ≤ 196)
    (invalid : Uplink.validateProxyCommand cmd = .error result) :
    result ≠ .rejectChecksum ∧ (result = .rejectLength → cmd.payloadLength = 0) := by
  have fits : ¬ cmd.payloadLength > 196 := UInt8.not_lt.mpr bounded
  have right : ¬ Uplink.computeProxyCrc cmd ≠ cmd.checksum := not_not.mpr checksum.symm
  unfold Uplink.validateProxyCommand at invalid
  rw [if_neg fits, if_neg right] at invalid
  split at invalid
  · cases invalid
    exact ⟨by decide, fun impossible => by cases impossible⟩
  · split at invalid
    · cases invalid
      exact ⟨by decide, fun impossible => by cases impossible⟩
    · split at invalid
      · rename_i empty
        cases invalid
        exact ⟨by decide, fun _ => empty.2⟩
      · cases invalid

/-- What passes the two checks is answered so in every state. -/
theorem Agreed.of_checks {cmd : ProcessUplinkCmd}
    (checksum : cmd.checksum = Uplink.computeProxyCrc cmd) (bounded : cmd.payloadLength ≤ 196) :
    Agreed cmd := by
  have answers : ∀ env s,
      (Uplink.processUplink env cmd s).lastCommandResult ≠ .rejectChecksum ∧
        ((Uplink.processUplink env cmd s).lastCommandResult = .rejectLength →
          cmd.payloadLength = 0) := by
    intro env s
    have behind : ∀ result ∈ Uplink.gateVerdicts,
        result ≠ .rejectChecksum ∧ result ≠ .rejectLength := by decide
    rcases Uplink.processUplink_verdict env cmd s with
      ⟨-, result⟩ | ⟨-, result⟩ | ⟨-, invalid⟩ | ⟨-, -, gated⟩
    · rw [result]
      exact ⟨by decide, fun impossible => by cases impossible⟩
    · rw [result]
      exact ⟨by decide, fun impossible => by cases impossible⟩
    · exact validateProxyCommand_agreed checksum bounded invalid
    · obtain ⟨notChecksum, notLength⟩ := behind _ gated
      exact ⟨notChecksum, fun length => absurd length notLength⟩
  exact ⟨checksum, bounded, fun env s => (answers env s).1, fun env s => (answers env s).2⟩

/-- A command that is put together for forwarding agrees when its payload fits. -/
theorem forwardedCmd_agreed (version commandClass : UInt8) (seq : UInt16)
    (flags payloadLen : UInt8) (payload : Vector UInt8 maxPayloadLength)
    (bounded : payloadLen ≤ 196) :
    Agreed (Lora.forwardedCmd version commandClass seq flags payloadLen payload) := by
  have checksum : (Lora.forwardedCmd version commandClass seq flags payloadLen payload).checksum =
      Uplink.computeProxyCrc
        (Lora.forwardedCmd version commandClass seq flags payloadLen payload) := by
    rw [Lora.forwardedCmd, Uplink.computeProxyCrc, Lora.crc16, Uplink.crc16]
  exact Agreed.of_checks checksum bounded

/-- A command that is forwarded from a text line agrees. -/
theorem parseUpFrame_agreed {line : List UInt8} {cmd : ProcessUplinkCmd}
    (parsed : Lora.parseUpFrame line = .ok cmd) : Agreed cmd := by
  unfold Lora.parseUpFrame at parsed
  split at parsed
  · cases parsed
  · rename_i payloadHex _ _
    dsimp only at parsed
    split at parsed
    · cases parsed
    · split at parsed
      · cases parsed
      · split at parsed
        · cases parsed
        · rename_i even
          split at parsed
          · cases parsed
          · cases parsed
            apply forwardedCmd_agreed
            rw [not_or, Nat.not_lt] at even
            rw [UInt8.le_iff_toNat_le, Nat.toUInt8_eq, UInt8.toNat_ofNat']
            exact Nat.le_trans (Nat.mod_le _ _) even.2

/-- A command that is forwarded from a binary frame agrees. -/
theorem parseUp2Frame_agreed {buf : List UInt8} {decoded : Lora.Up2Decoded}
    (parsed : Lora.parseUp2Frame buf = some decoded) : Agreed decoded.command := by
  apply forwardedCmd_agreed
  unfold Lora.parseUp2Frame at parsed
  split at parsed
  · cases parsed
  · split at parsed
    · cases parsed
    · dsimp only at parsed
      split at parsed
      · cases parsed
      · rename_i fits
        split at parsed
        · cases parsed
        · cases parsed
          rw [not_or, gt_iff_lt, UInt8.not_lt] at fits
          exact fits.2

/-- A command that a text line means to be forwarded agrees. -/
theorem lineReception_agreed {line : List UInt8} {taken taken' : Bool} {cmd : ProcessUplinkCmd}
    (forwarded : Lora.lineReception line taken = .forwarded cmd taken') : Agreed cmd := by
  unfold Lora.lineReception at forwarded
  dsimp only at forwarded
  split at forwarded
  · cases forwarded
  · split at forwarded
    · split at forwarded
      · cases forwarded
      · rename_i parsed
        cases forwarded
        exact parseUpFrame_agreed parsed
    · cases forwarded

/-- A command that a binary frame means to be forwarded agrees. -/
theorem frameReception_agreed {buf : List UInt8} {taken taken' : Bool} {cmd : ProcessUplinkCmd}
    (forwarded : Lora.frameReception buf taken = .forwarded cmd taken') : Agreed cmd := by
  unfold Lora.frameReception at forwarded
  split at forwarded
  · cases forwarded
  · split at forwarded
    · split at forwarded
      · rename_i parsed
        cases forwarded
        exact parseUp2Frame_agreed parsed
      · cases forwarded
    · cases forwarded

/-- A command that a received byte completes agrees. -/
theorem byteReception_agreed {byte : UInt8} {taken taken' : Bool} {s : Lora.State}
    {cmd : ProcessUplinkCmd} (forwarded : Lora.byteReception byte taken s = .forwarded cmd taken') :
    Agreed cmd := by
  unfold Lora.byteReception at forwarded
  split at forwarded
  · unfold Lora.continueReception at forwarded
    split at forwarded
    · split at forwarded
      · exact lineReception_agreed forwarded
      · cases forwarded
    · split at forwarded
      · exact frameReception_agreed forwarded
      · cases forwarded
    · split at forwarded
      · exact frameReception_agreed forwarded
      · cases forwarded
    · cases forwarded
    · cases forwarded
  · cases forwarded

/-! ## Runs of both applications -/

/-- What a reception forwards is what it says. -/
theorem forwarded_of_outputs {reception : Lora.Reception} {s after : Lora.State}
    {cmd : ProcessUplinkCmd} {taken : Bool} (receives : Lora.Receives reception s after)
    (sent : after.outputs = .forward cmd taken :: s.outputs) :
    reception = .forwarded cmd taken := by
  have outputs := receives.outputs
  rw [sent] at outputs
  cases reception with
  | silent => simp [Lora.Reception.outputs] at outputs
  | damaged => simp [Lora.Reception.outputs] at outputs
  | forwarded own ownTaken =>
    simp only [Lora.Reception.outputs, List.cons_append, List.nil_append, List.cons.injEq,
      Lora.Output.forward.injEq, and_true] at outputs
    rw [outputs.1, outputs.2]

/-- What an event of the LoRa application adds to the pipe agrees. -/
theorem afterLora_agreed {s : System} {input : Lora.Input}
    (other : isStatus input = false) (before : ∀ cmd ∈ s.commands, Agreed cmd) :
    ∀ cmd ∈ (afterLora s (Lora.step s.lora input)).commands, Agreed cmd := by
  intro cmd waiting
  rcases List.mem_append.mp waiting with old | new
  · exact before cmd old
  · have said := (step_lora s other).2 cmd new
    unfold reception at said
    split at said
    · exact byteReception_agreed said
    · cases said

/-- An event leaves only commands that agree in the pipe. -/
theorem step_agreed {s : System} (event : Event) (before : ∀ cmd ∈ s.commands, Agreed cmd) :
    ∀ cmd ∈ (step s event).commands, Agreed cmd := by
  cases event with
  | lora input other => exact afterLora_agreed other before
  | uplink env input delivered => exact before
  | takeStatus =>
    cases pipe : s.statuses with
    | nil =>
      rw [step_takeStatus_nil pipe]
      exact before
    | cons tlm rest =>
      have unsent : (Lora.processUplinkStatus tlm s.lora).outputs = s.lora.outputs := by
        unfold Lora.processUplinkStatus
        rfl
      have none : forwarded s.lora (Lora.processUplinkStatus tlm s.lora) = [] := by
        simp [forwarded, unsent]
      rw [step_takeStatus_cons pipe]
      intro cmd waiting
      rw [afterLora, none, List.append_nil] at waiting
      exact before cmd waiting
  | takeCommand env delivered =>
    cases pipe : s.commands with
    | nil =>
      rw [step_takeCommand_nil pipe, pipe]
      exact List.forall_mem_nil _
    | cons first rest =>
      rw [step_takeCommand_cons pipe]
      intro cmd waiting
      exact before cmd (by rw [pipe]; exact List.mem_cons_of_mem _ waiting)

/-- Every command that is forwarded from a text line or a binary frame, and every command that
waits for the uplink application in a run of both applications, agrees. -/
theorem forwarded_checksum_agrees :
    (∀ line now taken (s : Lora.State) cmd sent,
      (Lora.processRxLine line now taken s).outputs = .forward cmd sent :: s.outputs →
        Agreed cmd) ∧
    (∀ buf now taken (s : Lora.State) cmd sent,
      (Lora.processRxBinaryFrame buf now taken s).outputs = .forward cmd sent :: s.outputs →
        Agreed cmd) ∧
    ∀ (boot : Boot) events, ∀ cmd ∈ (run step boot.system events).commands, Agreed cmd := by
  refine ⟨fun line now taken s cmd sent forwards => ?_,
    fun buf now taken s cmd sent forwards => ?_, fun boot events => ?_⟩
  · have receives := Lora.processRxLine_receives line now taken s
    exact lineReception_agreed (forwarded_of_outputs receives forwards)
  · have receives := Lora.processRxBinaryFrame_receives buf now taken s
    exact frameReception_agreed (forwarded_of_outputs receives forwards)
  · have none : ∀ cmd ∈ boot.system.commands, Agreed cmd := fun _ impossible => nomatch impossible
    exact @run_invariant _ _ step (fun s => ∀ cmd ∈ s.commands, Agreed cmd)
      (fun _ event before => step_agreed event before) events boot.system none

/-- The binary frame of a diagnostic command. -/
def diagnosticFrame : List UInt8 :=
  [0xB2, 6, 1, 6, 1, 0, 0x40, 0, 0, 0, 0, 0, 0, 0xB1, 0xBA]

/-- A diagnostic command is forwarded with the checksum that the uplink application checks. -/
theorem forwarded_checksum_agrees_diagnostic : Agreed (Uplink.diagnosticCmd 1 0x1DCD) :=
  forwarded_checksum_agrees.2.1 diagnosticFrame 0 true Lora.openState
    (Uplink.diagnosticCmd 1 0x1DCD) true (by decide +kernel)

end CfsTelemetry.Feedback
