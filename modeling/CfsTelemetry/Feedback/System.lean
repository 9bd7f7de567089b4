import CfsTelemetry.Lora.Cycle
import CfsTelemetry.Uplink.StatusPair

/-!
# The uplink path of two applications

The LoRa application forwards the commands it receives to the uplink application and takes the
status messages that come back, each application in its own time. A message on the way waits
in the pipe of its receiver, in the order of sending; the bus may lose one on the way into the
pipe.
-/
namespace CfsTelemetry.Feedback

open Run

/-- Both applications, the commands that wait for the uplink application and the statuses that
wait for the LoRa application, oldest first. -/
structure System where
  lora : Lora.State
  uplink : Uplink.State
  commands : List ProcessUplinkCmd
  statuses : List Uplink.StatusTlm

/-- Whether an input of the LoRa application is a status, which comes through its pipe. -/
def isStatus : Lora.Input → Bool
  | .packet (.uplinkStatus _) => true
  | _ => false

/-- Something that happens in the system. -/
inductive Event where
  /-- The LoRa application takes the status that has waited longest. -/
  | takeStatus
  /-- Something else happens to the LoRa application. -/
  | lora (input : Lora.Input) (other : isStatus input = false)
  /-- The uplink application takes the command that has waited longest. Its status may be
  lost on the way. -/
  | takeCommand (env : Uplink.Env) (delivered : Bool)
  /-- Any other round of the uplink application, whose status may be lost on the way. -/
  | uplink (env : Uplink.Env) (input : Uplink.Input) (delivered : Bool)

/-- The commands that the LoRa application has handed over, from its states before and after,
oldest first. -/
def forwarded (before after : Lora.State) : List ProcessUplinkCmd :=
  (after.outputs.take (after.outputs.length - before.outputs.length)).reverse.filterMap fun
    | .forward cmd true => some cmd
    | _ => none

/-- The statuses that the uplink application has published, from its states before and after,
oldest first. -/
def published (before after : Uplink.State) : List Uplink.StatusTlm :=
  (Uplink.newOutputs before after).reverse.filterMap fun
    | .transmit (.status tlm) true => some tlm
    | _ => none

/-- The system after the LoRa application has gone on. -/
def afterLora (s : System) (lora : Lora.State) : System :=
  { s with lora := lora, commands := s.commands ++ forwarded s.lora lora }

/-- The system after the uplink application has gone on. -/
def afterUplink (delivered : Bool) (s : System) (uplink : Uplink.State) : System :=
  { s with
    uplink := uplink
    statuses := s.statuses ++ if delivered then published s.uplink uplink else [] }

/-- What the uplink application does when it takes a command of its pipe. -/
def commandRound (env : Uplink.Env) (cmd : ProcessUplinkCmd) : Uplink.Env × Uplink.Input :=
  (env, .received (.command 2 204 cmd))

/-- What an event brings about. Nothing is taken from an empty pipe. -/
def step (s : System) (event : Event) : System :=
  match event with
  | .takeStatus =>
    match s.statuses with
    | [] => s
    | tlm :: rest =>
      afterLora { s with statuses := rest } (Lora.step s.lora (.packet (.uplinkStatus tlm)))
  | .lora input _ => afterLora s (Lora.step s.lora input)
  | .takeCommand env delivered =>
    match s.commands with
    | [] => s
    | cmd :: rest =>
      afterUplink delivered { s with commands := rest }
        (Uplink.step s.uplink (commandRound env cmd))
  | .uplink env input delivered =>
    afterUplink delivered s (Uplink.step s.uplink (env, input))

section

variable {s : System}

/-- No status is taken from an empty pipe. -/
theorem step_takeStatus_nil (pipe : s.statuses = []) : step s .takeStatus = s := by
  simp [step, pipe]

/-- The status that has waited longest is taken. -/
theorem step_takeStatus_cons {tlm : Uplink.StatusTlm} {rest : List Uplink.StatusTlm}
    (pipe : s.statuses = tlm :: rest) :
    step s .takeStatus =
      afterLora { s with statuses := rest } (Lora.processUplinkStatus tlm s.lora) := by
  simp [step, pipe, Lora.step, Lora.processCommandPacket]

/-- No command is taken from an empty pipe. -/
theorem step_takeCommand_nil {env : Uplink.Env} {delivered : Bool} (pipe : s.commands = []) :
    step s (.takeCommand env delivered) = s := by
  simp [step, pipe]

/-- The command that has waited longest is taken. -/
theorem step_takeCommand_cons {env : Uplink.Env} {delivered : Bool} {cmd : ProcessUplinkCmd}
    {rest : List ProcessUplinkCmd} (pipe : s.commands = cmd :: rest) :
    step s (.takeCommand env delivered) = afterUplink delivered { s with commands := rest }
      (Uplink.processUplink env cmd s.uplink) := by
  simp [step, pipe, commandRound, Uplink.step, Uplink.taskPipe, Uplink.withCmdLength]

end

/-- What both applications start with. -/
structure Boot where
  /-- Whether the stored configuration of the LoRa application asks for binary downlinks. -/
  useV2Downlink : Bool
  load : Uplink.LoadIo
  resetType : UInt8
  countEnv : Uplink.Env
  markerEnv : Uplink.Env
  stateFile : Option (List UInt8)

/-- The system after its start. -/
def Boot.system (boot : Boot) : System where
  lora := { Lora.initialState with useV2Downlink := boot.useV2Downlink }
  uplink := Uplink.init boot.load boot.resetType boot.countEnv boot.markerEnv boot.stateFile
  commands := []
  statuses := []

/-- The round of the uplink application that an event is. -/
def uplinkRound (s : System) : Event → List (Uplink.Env × Uplink.Input)
  | .takeStatus | .lora _ _ => []
  | .takeCommand env _ =>
    match s.commands with
    | [] => []
    | cmd :: _ => [commandRound env cmd]
  | .uplink env input _ => [(env, input)]

/-- The rounds of the uplink application in a run. -/
def uplinkRounds (start : System) (events : List Event) : List (Uplink.Env × Uplink.Input) :=
  project step uplinkRound start events

/-- The uplink application takes its rounds. -/
theorem run_uplink (start : System) (events : List Event) :
    (run step start events).uplink =
      run Uplink.step start.uplink (uplinkRounds start events) := by
  apply run_project System.uplink
  intro s event
  cases event with
  | takeStatus =>
    cases pipe : s.statuses with
    | nil => rw [step_takeStatus_nil pipe]; rfl
    | cons tlm rest => rw [step_takeStatus_cons pipe]; rfl
  | lora input other => rfl
  | uplink env input delivered => rfl
  | takeCommand env delivered =>
    unfold step uplinkRound
    cases s.commands <;> rfl

/-! ## Receptions -/

/-- What an event means for the feedback as a reception of an uplink frame. -/
def reception (s : System) : Event → Lora.Reception
  | .lora (.byte value _ taken) _ => Lora.byteReception value taken s.lora
  | _ => .silent

/-- The last of the receptions that mean something for the feedback. -/
def latest (receptions : List Lora.Reception) : Lora.Reception :=
  receptions.foldl (fun last next => if next = .silent then last else next) .silent

/-- The last uplink frame of a run: none, a damaged one, or a command that was forwarded. -/
def lastReception (start : System) (events : List Event) : Lora.Reception :=
  latest (project step (fun s event => [reception s event]) start events)

/-- Another event leaves the last frame as it is, unless it completes one. -/
theorem lastReception_snoc (start : System) (events : List Event) (event : Event) :
    lastReception start (events ++ [event]) =
      if reception (run step start events) event = .silent then lastReception start events
      else reception (run step start events) event := by
  simp [lastReception, latest]

/-- An event of the LoRa application that receives no byte leaves the feedback as it is, and
hands over no command. -/
theorem step_lora_silent (s : Lora.State) {input : Lora.Input} (other : isStatus input = false)
    (noByte : ∀ value now taken, input ≠ .byte value now taken) :
    (Lora.step s input).pendingUplinkFeedback = s.pendingUplinkFeedback ∧
      forwarded s (Lora.step s input) = [] := by
  have unsent : ∀ s' : Lora.State, s'.outputs = s.outputs → forwarded s s' = [] := by
    intro s' same
    simp [forwarded, same]
  cases input with
  | byte value now taken => exact absurd rfl (noByte value now taken)
  | packet message =>
    cases message with
    | uplinkStatus tlm => cases other
    | telemetry message => cases message <;> exact ⟨rfl, unsent _ rfl⟩
  | reopen | startWindow | readFailure | endWindow | judgeLink =>
    exact ⟨Lora.step_keeps Lora.State.pendingUplinkFeedback (fun _ _ => rfl) rfl s,
      unsent _ (Lora.step_keeps Lora.State.outputs (fun _ _ => rfl) rfl s)⟩
  | transmit env =>
    obtain ⟨feedback, quiet | ⟨type, line⟩ | ⟨frame, -, binary⟩⟩ := Lora.runTx_outputs env s
    · exact ⟨feedback, unsent _ quiet⟩
    · exact ⟨feedback, by simp [forwarded, Lora.step, line]⟩
    · exact ⟨feedback, by simp [forwarded, Lora.step, binary]⟩

/-- An event of the LoRa application does to feedback and pipe what its reception says. -/
theorem step_lora (s : System) {input : Lora.Input} (other : isStatus input = false) :
    (Lora.step s.lora input).pendingUplinkFeedback =
        (reception s (.lora input other)).feedback s.lora.pendingUplinkFeedback ∧
      ∀ cmd ∈ forwarded s.lora (Lora.step s.lora input),
        reception s (.lora input other) = .forwarded cmd true := by
  by_cases byte : ∃ value now taken, input = .byte value now taken
  · obtain ⟨value, now, taken, rfl⟩ := byte
    obtain ⟨feedback, outputs⟩ := Lora.receiveByte_receives value now taken s.lora
    refine ⟨feedback, fun cmd sent => ?_⟩
    simp only [Lora.step, forwarded, outputs, List.length_append, Nat.add_sub_cancel,
      List.take_left', List.mem_filterMap, List.mem_reverse] at sent
    obtain ⟨output, mem, reads⟩ := sent
    change Lora.byteReception value taken s.lora = _
    cases said : Lora.byteReception value taken s.lora with
    | silent => rw [said] at mem; cases mem
    | damaged => rw [said] at mem; cases mem
    | forwarded cmd' taken' =>
      rw [said] at mem
      simp only [Lora.Reception.outputs, List.mem_singleton] at mem
      subst mem
      cases taken' with
      | false => cases reads
      | true =>
        cases reads
        rfl
  · have noByte : ∀ value now taken, input ≠ .byte value now taken :=
      fun value now taken same => byte ⟨value, now, taken, same⟩
    obtain ⟨feedback, unsent⟩ := step_lora_silent s.lora other noByte
    have silent : reception s (.lora input other) = .silent := by
      unfold reception
      split
      · rename_i value now taken own same
        cases same
        exact absurd rfl (noByte _ _ _)
      · rfl
    rw [silent, feedback, unsent]
    exact ⟨rfl, fun _ impossible => nomatch impossible⟩

end CfsTelemetry.Feedback
