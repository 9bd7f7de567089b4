import CfsTelemetry.Feedback.System

/-!
# What the feedback is about

Every downlink carries the feedback, which is to be about the last uplink frame. The LoRa
application takes the verdict of every status without looking at its sequence, so the feedback
is about the last frame as long as the statuses with a verdict come while the last frame is
the command they are about.
-/
namespace CfsTelemetry.Feedback

open Run

variable {start : System} {events : List Event} {event : Event}

/-- The uplink application gave a command of a sequence the verdict that a feedback stands
for. -/
def Answered (start : System) (events : List Event) (sequence : UInt16)
    (feedback : Lora.Feedback) : Prop :=
  ∃ result : Uplink.Result, Lora.resultFeedback result.code = some feedback ∧
    Occurs (fun before round => Uplink.verdict (run Uplink.step start.uplink before) round =
      some (sequence, result)) (uplinkRounds start events)

/-- A feedback is about the last uplink frame: nothing to report before the first, a failed
check after a damaged one, and nothing to report or its verdict after a command. -/
def Concerns (start : System) (events : List Event) (feedback : Lora.Feedback) : Prop :=
  match lastReception start events with
  | .silent => feedback = .ok
  | .damaged => feedback = .crcFail
  | .forwarded cmd _ => feedback = .ok ∨ Answered start events cmd.sequence feedback

/-- An event transmits a binary downlink frame. -/
def Transmits (s : System) (event : Event) (frame : List UInt8) : Prop :=
  (step s event).lora.outputs = .dl2 frame :: s.lora.outputs

/-- The LoRa application takes a status about another command than the last one forwarded. -/
def TakesOther (start : System) (before : List Event) (event : Event) : Prop :=
  event = .takeStatus ∧ ∃ tlm rest cmd taken, (run step start before).statuses = tlm :: rest ∧
    lastReception start before = .forwarded cmd taken ∧ tlm.lastCommandSequence ≠ cmd.sequence

/-- Every downlink of a run carries feedback about the last uplink frame, and no status about
another command changes the feedback. -/
structure Attributed (start : System) (events : List Event) : Prop where
  /-- The frames transmitted. -/
  frames : Each (fun before event => ∀ frame, Transmits (run step start before) event frame →
    ∃ feedback : Lora.Feedback, Lora.byteAt frame 5 = feedback.code ∧
      Concerns start before feedback) events
  /-- The statuses taken. -/
  inert : Each (fun before event => TakesOther start before event →
    (step (run step start before) event).lora.pendingUplinkFeedback =
      (run step start before).lora.pendingUplinkFeedback) events

/-- A status with a verdict is taken while the last uplink frame is the command of its sequence. A
status sets the feedback without regard to its sequence. -/
def Matches (start : System) (before : List Event) (event : Event) : Prop :=
  event = .takeStatus → ∀ tlm rest, (run step start before).statuses = tlm :: rest →
    (Lora.resultFeedback tlm.lastCommandResult).isSome →
      ∃ cmd taken, lastReception start before = .forwarded cmd taken ∧
        cmd.sequence = tlm.lastCommandSequence

/-- What was answered stays so. -/
theorem Answered.snoc {sequence : UInt16} {feedback : Lora.Feedback}
    (answered : Answered start events sequence feedback) :
    Answered start (events ++ [event]) sequence feedback := by
  obtain ⟨result, stands, before, round, after, place, gives⟩ := answered
  refine ⟨result, stands, before, round,
    after ++ uplinkRound (run step start events) event, ?_, gives⟩
  rw [uplinkRounds, project_snoc]
  change uplinkRounds start events ++ _ = _
  rw [place, List.append_assoc, List.cons_append]

/-- The verdicts that have a feedback come neither from an execution nor from nothing. -/
theorem resultFeedback_given {result : Uplink.Result} {feedback : Lora.Feedback}
    (stands : Lora.resultFeedback result.code = some feedback) :
    result ≠ .none ∧ result.isExecuted = false := by
  cases result <;> first | exact ⟨by decide, rfl⟩ | cases stands

/-- The feedback that a status sets is the verdict of a command of its sequence. -/
def Reported (start : System) (events : List Event) (tlm : Uplink.StatusTlm) : Prop :=
  ∀ feedback, Lora.resultFeedback tlm.lastCommandResult = some feedback →
    Answered start events tlm.lastCommandSequence feedback

/-- A status that the uplink application has published reports a verdict. -/
theorem reported_of_published (boot : Boot) {tlm : Uplink.StatusTlm} {taken : Bool}
    (sent : Uplink.Output.transmit (.status tlm) taken ∈
      (run step boot.system events).uplink.outputs) : Reported boot.system events tlm := by
  intro feedback stands
  rw [run_uplink] at sent
  obtain ⟨result, code, given⟩ := (Uplink.pairsHold_given boot.load boot.resetType boot.countEnv
    boot.markerEnv boot.stateFile (uplinkRounds boot.system events)).published tlm taken sent
  rw [code] at stands
  obtain ⟨notNone, notExecuted⟩ := resultFeedback_given stands
  rcases given with none | executed | occurred
  · exact absurd none notNone
  · rw [notExecuted] at executed
    cases executed
  · exact ⟨result, stands, occurred⟩

/-- A status that was handed to the bus is among the outputs. -/
theorem mem_published {before after : Uplink.State} {tlm : Uplink.StatusTlm}
    (sent : tlm ∈ published before after) :
    Uplink.Output.transmit (.status tlm) true ∈ after.outputs := by
  simp only [published, List.mem_filterMap, List.mem_reverse] at sent
  obtain ⟨output, mem, reads⟩ := sent
  have stored : output ∈ after.outputs := List.mem_of_mem_take mem
  split at reads
  · cases reads
    exact stored
  · cases reads

/-- Statuses join the pipe of the LoRa application only from the uplink application. -/
theorem mem_statuses {s : System} {tlm : Uplink.StatusTlm} (waits : tlm ∈ (step s event).statuses) :
    tlm ∈ s.statuses ∨
      Uplink.Output.transmit (.status tlm) true ∈ (step s event).uplink.outputs := by
  have joins : ∀ (delivered : Bool) (s : System) (uplink : Uplink.State),
      tlm ∈ (afterUplink delivered s uplink).statuses → tlm ∈ s.statuses ∨
        Uplink.Output.transmit (.status tlm) true ∈ uplink.outputs := by
    intro delivered s uplink waits
    cases delivered with
    | false => exact .inl (by simpa [afterUplink] using waits)
    | true =>
      rcases List.mem_append.mp waits with earlier | sent
      · exact .inl earlier
      · exact .inr (mem_published sent)
  cases event with
  | lora input other => exact .inl waits
  | uplink env input delivered => exact joins delivered s _ waits
  | takeStatus =>
    cases pipe : s.statuses with
    | nil =>
      rw [step_takeStatus_nil pipe, pipe] at waits
      exact .inl waits
    | cons first rest =>
      rw [step_takeStatus_cons pipe] at waits
      exact .inl (List.mem_cons_of_mem _ waits)
  | takeCommand env delivered =>
    cases pipe : s.commands with
    | nil =>
      rw [step_takeCommand_nil pipe] at waits
      exact .inl waits
    | cons cmd rest =>
      rw [step_takeCommand_cons pipe] at waits ⊢
      exact joins delivered { s with commands := rest } _ waits

/-! ## Runs -/

/-- The feedback of a state is about the last frame, and the statuses on their way report
verdicts. -/
structure FeedbackInv (start : System) (events : List Event) : Prop where
  /-- The feedback. -/
  concerns : Concerns start events (run step start events).lora.pendingUplinkFeedback
  /-- The statuses. -/
  reported : ∀ tlm ∈ (run step start events).statuses, Reported start events tlm

/-- A feedback that stays is about the last frame when that stays too. -/
theorem concerns_snoc {feedback : Lora.Feedback} (concerns : Concerns start events feedback)
    (silent : reception (run step start events) event = .silent) :
    Concerns start (events ++ [event]) feedback := by
  unfold Concerns at concerns ⊢
  rw [lastReception_snoc, if_pos silent]
  split at concerns
  · exact concerns
  · exact concerns
  · exact concerns.imp_right Answered.snoc

/-- An event of the LoRa application other than taking a status leaves the feedback about the
last frame. -/
theorem concerns_lora {input : Lora.Input} (other : isStatus input = false)
    (concerns : Concerns start events (run step start events).lora.pendingUplinkFeedback) :
    Concerns start (events ++ [.lora input other])
      (Lora.step (run step start events).lora input).pendingUplinkFeedback := by
  rw [(step_lora (run step start events) other).1]
  cases said : reception (run step start events) (.lora input other) with
  | silent => exact concerns_snoc concerns said
  | damaged =>
    unfold Concerns
    rw [lastReception_snoc, said, if_neg (by simp)]
    rfl
  | forwarded cmd taken =>
    unfold Concerns
    rw [lastReception_snoc, said, if_neg (by simp)]
    exact .inl rfl

/-- A status that matches leaves the feedback about the last frame. -/
theorem concerns_takeStatus {tlm : Uplink.StatusTlm} {rest : List Uplink.StatusTlm}
    (inv : FeedbackInv start events) (matched : Matches start events .takeStatus)
    (pipe : (run step start events).statuses = tlm :: rest) :
    Concerns start (events ++ [.takeStatus])
      ((Lora.resultFeedback tlm.lastCommandResult).getD
        (run step start events).lora.pendingUplinkFeedback) := by
  cases stands : Lora.resultFeedback tlm.lastCommandResult with
  | none => exact concerns_snoc inv.concerns rfl
  | some feedback =>
    obtain ⟨cmd, taken, last, same⟩ := matched rfl tlm rest pipe (by rw [stands]; rfl)
    have answered := inv.reported tlm (by rw [pipe]; exact List.mem_cons_self ..) feedback stands
    have silent : reception (run step start events) .takeStatus = .silent := rfl
    unfold Concerns
    rw [lastReception_snoc, if_pos silent, last]
    exact .inr (same ▸ answered.snoc)

/-- The invariant holds at the start. -/
theorem feedbackInv_boot (boot : Boot) : FeedbackInv boot.system [] := by
  constructor
  · rfl
  · exact fun _ waits => nomatch waits

/-- An event keeps the invariant when the status it takes matches. -/
theorem feedbackInv_snoc (boot : Boot) (inv : FeedbackInv boot.system events)
    (matched : Matches boot.system events event) :
    FeedbackInv boot.system (events ++ [event]) := by
  constructor
  · rw [run_snoc]
    cases event with
    | lora input other => exact concerns_lora other inv.concerns
    | uplink env input delivered => exact concerns_snoc inv.concerns rfl
    | takeStatus =>
      cases pipe : (run step boot.system events).statuses with
      | nil =>
        rw [step_takeStatus_nil pipe]
        exact concerns_snoc inv.concerns rfl
      | cons tlm rest =>
        rw [step_takeStatus_cons pipe]
        exact concerns_takeStatus inv matched pipe
    | takeCommand env delivered =>
      cases pipe : (run step boot.system events).commands with
      | nil =>
        rw [step_takeCommand_nil pipe]
        exact concerns_snoc inv.concerns rfl
      | cons cmd rest =>
        rw [step_takeCommand_cons pipe]
        exact concerns_snoc inv.concerns rfl
  · intro tlm waits
    rw [run_snoc] at waits
    rcases mem_statuses waits with earlier | sent
    · exact fun feedback stands => (inv.reported tlm earlier feedback stands).snoc
    · apply @reported_of_published _ boot tlm true
      rw [run_snoc]
      exact sent

/-- A binary downlink carries the feedback that was pending. -/
theorem transmits_feedback {s : System} {frame : List UInt8} (sent : Transmits s event frame) :
    Lora.byteAt frame 5 = s.lora.pendingUplinkFeedback.code := by
  unfold Transmits at sent
  have grows : s.lora.outputs ≠ .dl2 frame :: s.lora.outputs := (List.cons_ne_self _ _).symm
  -- Only a transmission puts a binary frame out.
  have kept {input : Lora.Input} (upkeep : Lora.isUpkeep input = true) :
      (Lora.step s.lora input).outputs ≠ .dl2 frame :: s.lora.outputs := by
    rw [Lora.step_keeps Lora.State.outputs (fun _ _ => rfl) upkeep]
    exact grows
  cases event with
  | uplink env input delivered => exact absurd sent grows
  | takeCommand env delivered =>
    cases pipe : s.commands with
    | nil =>
      rw [step_takeCommand_nil pipe] at sent
      exact absurd sent grows
    | cons cmd rest =>
      rw [step_takeCommand_cons pipe] at sent
      exact absurd sent grows
  | takeStatus =>
    cases pipe : s.statuses with
    | nil =>
      rw [step_takeStatus_nil pipe] at sent
      exact absurd sent grows
    | cons tlm rest =>
      rw [step_takeStatus_cons pipe] at sent
      exact absurd sent grows
  | lora input other =>
    cases input with
    | transmit env =>
      obtain ⟨-, same | ⟨type, line⟩ | ⟨built, frameBuilt, binary⟩⟩ :=
        Lora.runTx_outputs env s.lora
      · exact absurd (same.symm.trans sent) grows
      · cases line.symm.trans sent
      · cases binary.symm.trans sent
        exact Lora.buildDl2Frame_feedback frameBuilt
    | byte value now taken =>
      have outputs := (Lora.receiveByte_receives value now taken s.lora).outputs
      have both := outputs.symm.trans sent
      cases said : Lora.byteReception value taken s.lora <;> rw [said] at both
      · exact absurd both grows
      · exact absurd both grows
      · cases both
    | packet message =>
      cases message with
      | uplinkStatus tlm => cases other
      | telemetry message => cases message <;> exact absurd sent grows
    | reopen | startWindow | readFailure | endWindow | judgeLink =>
      exact absurd sent (kept rfl)

/-- In every run in which every status with a verdict is taken while the last uplink frame is the
command of its sequence, the feedback of every downlink is about the last uplink frame, and no
status about another command changes it. A status sets the feedback whatever command it is about, so
that only the order of arrival can tell. -/
theorem feedback_attributed (boot : Boot) (events : List Event)
    (matched : Each (Matches boot.system) events) : Attributed boot.system events := by
  have holds : ∀ before, Each (Matches boot.system) before → FeedbackInv boot.system before :=
    history_induction (feedbackInv_boot boot)
      fun _ _ inv matches' => feedbackInv_snoc boot inv matches'
  constructor
  · intro before event after place frame sent
    have earlier : Each (Matches boot.system) before := by
      intro before' event' after' place'
      exact matched before' event' (after' ++ event :: after) (by simp [place, place'])
    exact ⟨_, transmits_feedback sent, (holds before earlier).concerns⟩
  · rintro before event after place ⟨rfl, tlm, rest, cmd, taken, pipe, last, differs⟩
    have matches' := matched before .takeStatus after place rfl tlm rest pipe
    rw [step_takeStatus_cons pipe]
    change (Lora.resultFeedback tlm.lastCommandResult).getD _ = _
    cases stands : Lora.resultFeedback tlm.lastCommandResult with
    | none => rfl
    | some feedback =>
      obtain ⟨cmd', taken', last', same⟩ := matches' (by rw [stands]; rfl)
      rw [last] at last'
      cases last'
      exact absurd same.symm differs

/-- The sequence of the command that was forwarded. -/
def forwardedSequence : Lora.Reception → Option UInt16
  | .forwarded cmd _ => some cmd.sequence
  | _ => none

/-- Only a command that was forwarded has a sequence. -/
theorem forwardedSequence_eq_some {last : Lora.Reception} {sequence : UInt16}
    (same : forwardedSequence last = some sequence) :
    ∃ cmd taken, last = .forwarded cmd taken ∧ cmd.sequence = sequence := by
  cases last with
  | silent => cases same
  | damaged => cases same
  | forwarded cmd taken => exact ⟨cmd, taken, rfl, Option.some.inj same⟩

/-- Both applications start without stored state. -/
def firstBoot : Boot where
  useV2Downlink := true
  load := .read
  resetType := 1
  countEnv := Uplink.workingEnv 1000
  markerEnv := Uplink.workingEnv 1000
  stateFile := none

/-- Bytes come in on the serial line. -/
def receiving (bytes : List UInt8) : List Event :=
  bytes.map fun value => .lora (.byte value 0 true) rfl

/-- A downlink is transmitted. -/
def transmission : Event := .lora (.transmit ⟨true, none⟩) rfl

/-- With an open port and binary downlinks, a frame is transmitted. -/
theorem transmits_transmission {s : System} (isOpen : s.lora.serialOpen = true)
    (binary : s.lora.useV2Downlink = true) : ∃ frame, Transmits s transmission frame :=
  Lora.runTx_dl2 isOpen binary rfl

/-- The port opens, and the uplink application learns that the system is well. -/
def started : List Event :=
  [.lora (.reopen 1000 true) rfl,
    .uplink (Uplink.workingEnv 1200) (.received (.systemHealth 0)) true]

/-- The binary frame of a diagnostic command with sequence 1. -/
def firstFrame : List UInt8 := [0xB2, 6, 1, 6, 1, 0, 0x40, 0, 0, 0, 0, 0, 0, 177, 186]

/-- The binary frame of a diagnostic command with sequence 2. -/
def secondFrame : List UInt8 := [0xB2, 6, 1, 6, 2, 0, 0x40, 0, 0, 0, 0, 0, 0, 245, 151]

/-- The first command is received and carried out. -/
def firstCommand : List Event :=
  started ++ receiving firstFrame ++ [.takeCommand (Uplink.workingEnv 1400) true]

/-- The verdict of the first command is taken before another frame. -/
theorem feedback_attributed_first :
    Attributed firstBoot.system (firstCommand ++ [.takeStatus]) := by
  apply feedback_attributed
  rw [each_snoc]
  constructor
  · apply each_of_forall
    intro event mem before taken
    subst taken
    simp [firstCommand, started, receiving] at mem
  · intro _ tlm rest pipe _
    have sequence : ((run step firstBoot.system firstCommand).statuses.head?.map
        fun tlm => tlm.lastCommandSequence) = some 1 := by decide +kernel
    rw [pipe] at sequence
    have last : forwardedSequence (lastReception firstBoot.system firstCommand) = some 1 := by
      decide +kernel
    obtain ⟨cmd, taken, said, same⟩ := forwardedSequence_eq_some last
    exact ⟨cmd, taken, said, same.trans (Option.some.inj sequence).symm⟩

/-- The status is published again before the second command is forwarded, and taken after it. -/
def republished : List Event :=
  firstCommand ++ [.takeStatus, .uplink (Uplink.workingEnv 3000) .timeout true] ++
    receiving secondFrame ++ [.takeStatus]

/-- A round of the uplink application that may give a command of a sequence a verdict. -/
def handles (sequence : UInt16) (round : Uplink.Env × Uplink.Input) : Bool :=
  match round.2 with
  | .received (.command _ _ cmd) => cmd.sequence == sequence
  | .received (.execResult msg) => msg.sourceSequence == sequence
  | _ => false

/-- A verdict comes from a round that handles the sequence. -/
theorem handles_of_verdict {s : Uplink.State} {round : Uplink.Env × Uplink.Input}
    {sequence : UInt16} {result : Uplink.Result}
    (gives : Uplink.verdict s round = some (sequence, result)) :
    handles sequence round = true := by
  unfold Uplink.verdict at gives
  unfold handles
  repeat' split at gives
  all_goals simp_all

/-- A downlink that reports a command as applied, which the uplink application has not handled,
is not about that command. -/
theorem not_attributed_of_unhandled {sequence : UInt16}
    (isOpen : (run step start events).lora.serialOpen = true)
    (binary : (run step start events).lora.useV2Downlink = true)
    (applied : (run step start events).lora.pendingUplinkFeedback = .applied)
    (last : forwardedSequence (lastReception start events) = some sequence)
    (unhandled : (uplinkRounds start events).all (fun round => !handles sequence round) = true) :
    ¬ Attributed start (events ++ [transmission]) := by
  intro attributed
  obtain ⟨frame, sent⟩ := transmits_transmission isOpen binary
  obtain ⟨feedback, carried, concerns⟩ := attributed.frames events transmission [] rfl frame sent
  have shown : feedback = .applied := by
    apply Lora.Feedback.code_injective
    rw [← carried, transmits_feedback sent, applied]
  obtain ⟨cmd, taken, said, same⟩ := forwardedSequence_eq_some last
  unfold Concerns at concerns
  rw [shown, said] at concerns
  rcases concerns with impossible | ⟨result, -, before, round, after, place, gives⟩
  · cases impossible
  · have mem : round ∈ uplinkRounds start events := by
      rw [place]
      exact List.mem_append_right _ (List.mem_cons_self ..)
    have unheard := List.all_eq_true.mp unhandled round mem
    have handled := handles_of_verdict gives
    rw [same] at handled
    rw [handled] at unheard
    cases unheard

/-- A periodic status about the first command is taken after the second was forwarded, and the
downlink reports the second command as applied, which the uplink application has not handled. -/
theorem feedback_misattributed :
    ¬ ∀ (boot : Boot) (events : List Event), Attributed boot.system events := by
  intro always
  have last : forwardedSequence (lastReception firstBoot.system republished) = some 2 := by
    decide +kernel
  exact not_attributed_of_unhandled (by decide +kernel) (by decide +kernel) (by decide +kernel)
    last (by decide +kernel) (always firstBoot (republished ++ [transmission]))

end CfsTelemetry.Feedback
