import CfsTelemetry.Feedback.Attribution

/-!
# Feedback on a command that is sent again

The ground sends a command several times. The uplink application answers the copies as
duplicates, which the LoRa application ignores, but every copy it forwards takes the verdict
back. So an applied command is reported as applied exactly as long as no copy is forwarded
after the last status that says so was taken.
-/
namespace CfsTelemetry.Feedback

open Run

/-- The uplink application takes a command, accepts and routes it, and its status reaches the
pipe of the LoRa application. The commands that wait behind it are copies. -/
structure Accepting (s : System) (env : Uplink.Env) (cmd : ProcessUplinkCmd) : Prop where
  /-- The commands that wait. -/
  pipe : ∃ copies, s.commands = cmd :: copies ∧ ∀ copy ∈ copies, copy.sequence = cmd.sequence
  /-- The command is accepted. -/
  accepted : ∃ message, Uplink.ending env cmd s.uplink = .accepted message
  /-- The bus takes the status. -/
  reported : env.reportTransmit = true

/-- An event brings no other command than one of a sequence to either application. -/
structure Repeats (sequence : UInt16) (s : System) (event : Event) : Prop where
  /-- What the LoRa application forwards. -/
  forwards : ∀ cmd taken, reception s event = .forwarded cmd taken → cmd.sequence = sequence
  /-- What the uplink application is sent from elsewhere. -/
  elsewhere : ∀ env cmd delivered,
    event = .uplink env (.received (.command 2 204 cmd)) delivered → cmd.sequence = sequence

/-- The LoRa application takes a status that sets a feedback. -/
def TakesVerdict (verdicts : Lora.Feedback → Prop) (s : System) (event : Event) : Prop :=
  event = .takeStatus ∧ ∃ tlm rest feedback, s.statuses = tlm :: rest ∧
    Lora.resultFeedback tlm.lastCommandResult = some feedback ∧ verdicts feedback

/-- The LoRa application takes a status that says a command was routed. -/
def TakesRouted (s : System) (event : Event) : Prop := TakesVerdict (· = .applied) s event

/-- An event takes the report of a routed command back: an uplink frame is received or, when
the count of accepted commands has wrapped to zero and the copies are checked as new commands,
a refusal is taken. -/
def TakesBack (wrapped : Prop) (s : System) (event : Event) : Prop :=
  reception s event ≠ .silent ∨ (wrapped ∧ TakesVerdict (· ≠ .applied) s event)

/-- A status whose verdict is ignored, or says that the command was routed. -/
def Harmless (result : UInt8) : Prop :=
  Lora.resultFeedback result = none ∨ Lora.resultFeedback result = some .applied

/-- The uplink application takes the commands of a sequence for duplicates, and has nothing
harmful to report. -/
structure Settled (sequence : UInt16) (uplink : Uplink.State) : Prop where
  /-- The sequence is that of the last accepted command. -/
  duplicate : Uplink.checkSequence uplink sequence = .duplicate
  /-- The verdict. -/
  harmless : Harmless uplink.lastCommandResult.code

variable {sequence : UInt16}

/-- Copies of the last accepted command are answered as duplicates. -/
theorem settled_processUplink {uplink : Uplink.State} (settled : Settled sequence uplink)
    (env : Uplink.Env) {cmd : ProcessUplinkCmd} (same : cmd.sequence = sequence) :
    Settled sequence (Uplink.processUplink env cmd uplink) := by
  have way : Uplink.ending env cmd uplink = .duplicate := by
    rw [Uplink.ending, if_pos (by rw [same]; exact settled.duplicate)]
  have ends := Uplink.processUplink_endsAs env cmd uplink
  rw [way] at ends
  constructor
  · have duplicate := settled.duplicate
    rw [Uplink.checkSequence_eq_duplicate] at duplicate ⊢
    have count : (Uplink.processUplink env cmd uplink).acceptedCount = uplink.acceptedCount :=
      ends.acceptedCount
    have last : (Uplink.processUplink env cmd uplink).lastAcceptedSequence =
        uplink.lastAcceptedSequence := ends.lastAcceptedSequence
    rw [count, last]
    exact duplicate
  · have verdict : (Uplink.processUplink env cmd uplink).lastCommandResult = .duplicate :=
      ends.verdict
    rw [verdict]
    exact .inl rfl

/-- A round that handles no other command keeps the application settled. -/
theorem settled_step {uplink : Uplink.State} (settled : Settled sequence uplink)
    (round : Uplink.Env × Uplink.Input)
    (repeats : ∀ cmd, round.2 = .received (.command 2 204 cmd) → cmd.sequence = sequence) :
    Settled sequence (Uplink.step uplink round) := by
  rcases Uplink.step_cases uplink round with ⟨cmd, command, same⟩ | ⟨msg, -, same⟩ | keeps
  · rw [same]
    exact settled_processUplink settled _ (repeats cmd command)
  · rw [same]
    unfold Uplink.processExecResult
    split
    · exact settled
    · refine ⟨settled.duplicate, ?_⟩
      change Harmless (if msg.genericResult = 0 then Uplink.Result.executedOk
        else .executedFailed).code
      split
      · exact .inl rfl
      · exact .inl rfl
  · constructor
    · have duplicate := settled.duplicate
      rw [Uplink.checkSequence_eq_duplicate] at duplicate ⊢
      rw [keeps.replay.1, keeps.replay.2]
      exact duplicate
    · rcases keeps.lastCommandResult with kept | retracted
      · rw [kept]
        exact settled.harmless
      · rw [retracted]
        exact .inl rfl

/-- A settled application publishes nothing harmful. -/
theorem harmless_published {uplink : Uplink.State} {round : Uplink.Env × Uplink.Input}
    (settled : Settled sequence (Uplink.step uplink round)) :
    ∀ tlm ∈ published uplink (Uplink.step uplink round), Harmless tlm.lastCommandResult := by
  intro tlm sent
  obtain ⟨outputs, appended, reports⟩ := Uplink.step_reports uplink round
  simp only [published, Uplink.newOutputs_eq appended, List.mem_filterMap,
    List.mem_reverse] at sent
  obtain ⟨output, mem, reads⟩ := sent
  split at reads
  · cases reads
    rw [(reports _ _ mem).2]
    exact settled.harmless
  · cases reads

/-- The status of an accepted command is the last one in the pipe, and says that the command
was routed. -/
theorem published_accepting {s : System} {env : Uplink.Env} {cmd : ProcessUplinkCmd}
    (accepting : Accepting s env cmd) :
    ∃ older tlm, published s.uplink (Uplink.processUplink env cmd s.uplink) = older ++ [tlm] ∧
      tlm.lastCommandResult = Uplink.Result.routed.code := by
  obtain ⟨message, way⟩ := accepting.accepted
  have ends := Uplink.processUplink_endsAs env cmd s.uplink
  obtain ⟨tlm, outputs, -, result⟩ := ends.published.status
  have verdict := ends.verdict
  rw [way] at verdict
  rw [accepting.reported, ← List.cons_append] at outputs
  rw [show (Uplink.processUplink env cmd s.uplink).lastCommandResult = .routed from verdict]
    at result
  rw [published, Uplink.newOutputs_eq outputs, List.reverse_cons, List.filterMap_append]
  exact ⟨_, tlm, rfl, result⟩

/-! ## The two phases -/

/-- Where the status of the accepted command is: in the pipe, with nothing harmful behind it, or
taken, and reported as long as it has not been taken back. Nothing is said of what is harmful
once the count of accepted commands has wrapped. -/
inductive Phase (wrapped : Prop) (start : System) (events : List Event) : Prop where
  | pending (older : List Uplink.StatusTlm) (routed : Uplink.StatusTlm)
      (newer : List Uplink.StatusTlm)
      (pipe : (run step start events).statuses = older ++ routed :: newer)
      (result : routed.lastCommandResult = Uplink.Result.routed.code)
      (harmless : ¬ wrapped → ∀ tlm ∈ newer, Harmless tlm.lastCommandResult)
  | taken
      (harmless : ¬ wrapped → ∀ tlm ∈ (run step start events).statuses,
        Harmless tlm.lastCommandResult)
      (shown : (run step start events).lora.pendingUplinkFeedback = .applied ↔
        Since (fun before event => TakesRouted (run step start before) event)
          (fun before event => TakesBack wrapped (run step start before) event) events)

/-- What holds while copies of an accepted command are sent. -/
structure RepeatInv (wrapped : Prop) (sequence : UInt16) (start : System)
    (events : List Event) : Prop where
  /-- Where the status of the command is. -/
  phase : Phase wrapped start events
  /-- The uplink application takes the copies for duplicates. -/
  settled : ¬ wrapped → Settled sequence (run step start events).uplink
  /-- The commands that wait are copies. -/
  copies : ∀ cmd ∈ (run step start events).commands, cmd.sequence = sequence

variable {start : System} {events : List Event} {event : Event} {wrapped : Prop}

/-- An event that takes no status takes none with a verdict. -/
theorem not_takesVerdict {verdicts : Lora.Feedback → Prop} {s : System}
    (other : event ≠ .takeStatus) : ¬ TakesVerdict verdicts s event :=
  fun takes => other takes.1

/-- An event of the LoRa application other than taking a status keeps the phase. -/
theorem phase_lora {input : Lora.Input} (other : isStatus input = false)
    (phase : Phase wrapped start events) : Phase wrapped start (events ++ [.lora input other]) := by
  cases phase with
  | pending older routed newer pipe result harmless =>
    exact .pending older routed newer (by rw [run_snoc]; exact pipe) result harmless
  | taken harmless shown =>
    refine .taken (by rw [run_snoc]; exact harmless) ?_
    have feedback := (step_lora (run step start events) other).1
    have unrouted : ¬ TakesRouted (run step start events) (.lora input other) :=
      not_takesVerdict (by simp)
    have unrefused : ¬ TakesVerdict (· ≠ .applied) (run step start events) (.lora input other) :=
      not_takesVerdict (by simp)
    rw [run_snoc, since_snoc]
    change (Lora.step _ _).pendingUplinkFeedback = _ ↔ _
    rw [feedback]
    cases said : reception (run step start events) (.lora input other) with
    | silent => simp [TakesBack, unrouted, unrefused, said, shown, Lora.Reception.feedback]
    | damaged => simp [TakesBack, unrouted, said, Lora.Reception.feedback]
    | forwarded cmd taken => simp [TakesBack, unrouted, said, Lora.Reception.feedback]

/-- A round of the uplink application that leaves it settled keeps the phase. -/
theorem phase_uplink {uplink : Uplink.State} {delivered : Bool} {commands : List ProcessUplinkCmd}
    (goes : step (run step start events) event =
      afterUplink delivered { run step start events with commands := commands } uplink)
    (other : event ≠ .takeStatus) (silent : reception (run step start events) event = .silent)
    (harmlessNew : ¬ wrapped → ∀ tlm ∈ published (run step start events).uplink uplink,
      Harmless tlm.lastCommandResult)
    (phase : Phase wrapped start events) : Phase wrapped start (events ++ [event]) := by
  have sent : ∃ new, (run step start (events ++ [event])).statuses =
      (run step start events).statuses ++ new ∧
        (¬ wrapped → ∀ tlm ∈ new, Harmless tlm.lastCommandResult) := by
    rw [run_snoc, goes]
    cases delivered with
    | false => exact ⟨[], rfl, fun _ _ impossible => nomatch impossible⟩
    | true => exact ⟨_, rfl, harmlessNew⟩
  obtain ⟨new, statuses, harmlessSent⟩ := sent
  cases phase with
  | pending older routed newer pipe result harmless =>
    refine .pending older routed (newer ++ new) (by rw [statuses, pipe]; simp) result ?_
    intro unwrapped tlm mem
    rcases List.mem_append.mp mem with earlier | added
    · exact harmless unwrapped tlm earlier
    · exact harmlessSent unwrapped tlm added
  | taken harmless shown =>
    refine .taken ?_ ?_
    · intro unwrapped tlm mem
      rw [statuses] at mem
      rcases List.mem_append.mp mem with earlier | added
      · exact harmless unwrapped tlm earlier
      · exact harmlessSent unwrapped tlm added
    · have unrouted : ¬ TakesRouted (run step start events) event := not_takesVerdict other
      have unrefused : ¬ TakesVerdict (· ≠ .applied) (run step start events) event :=
        not_takesVerdict other
      rw [since_snoc, run_snoc, goes]
      simp [TakesBack, unrouted, unrefused, silent, afterUplink, shown]

/-- A choice that gives a feedback gives it by the first branch or by the second. -/
theorem some_of_choice {choice : Prop} [Decidable choice] {first feedback : Lora.Feedback}
    {second : Option Lora.Feedback}
    (gives : (if choice then some first else second) = some feedback) :
    first = feedback ∨ second = some feedback := by
  by_cases holds : choice
  · rw [if_pos holds] at gives
    exact .inl (Option.some.inj gives)
  · rw [if_neg holds] at gives
    exact .inr gives

/-- The code of a routed command stands for an applied one, and no other does. -/
theorem resultFeedback_applied {result : UInt8} :
    Lora.resultFeedback result = some .applied ↔ result = Uplink.Result.routed.code := by
  constructor
  · intro stands
    unfold Lora.resultFeedback at stands
    iterate 12
      obtain impossible | rest := some_of_choice stands
      · cases impossible
      clear stands
      rename' rest => stands
    by_contra other
    have otherCode : ¬ result = 3 := other
    rw [if_neg otherCode] at stands
    cases stands
  · rintro rfl
    rfl

/-- The status that is taken is the first of those in the pipe. -/
theorem takesVerdict_cons {verdicts : Lora.Feedback → Prop} {s : System} {tlm : Uplink.StatusTlm}
    {rest : List Uplink.StatusTlm} (pipe : s.statuses = tlm :: rest) :
    TakesVerdict verdicts s .takeStatus ↔
      ∃ feedback, Lora.resultFeedback tlm.lastCommandResult = some feedback ∧
        verdicts feedback := by
  simp [TakesVerdict, pipe]

/-- Taking a status from an empty pipe keeps the phase. -/
theorem phase_takeStatus_nil (pipe : (run step start events).statuses = [])
    (phase : Phase wrapped start events) : Phase wrapped start (events ++ [.takeStatus]) := by
  have silent : reception (run step start events) .takeStatus = .silent := rfl
  have stays : run step start (events ++ [.takeStatus]) = run step start events := by
    rw [run_snoc, step_takeStatus_nil pipe]
  cases phase with
  | pending older routed newer waits => rw [pipe] at waits; simp at waits
  | taken harmless shown =>
    refine .taken (by rw [stays]; exact harmless) ?_
    rw [stays, since_snoc]
    simp [TakesBack, TakesRouted, TakesVerdict, silent, pipe, shown]

/-- Taking a status keeps the phase, or begins the second. -/
theorem phase_takeStatus (phase : Phase wrapped start events) :
    Phase wrapped start (events ++ [.takeStatus]) := by
  have silent : reception (run step start events) .takeStatus = .silent := rfl
  cases pipe : (run step start events).statuses with
  | nil => exact phase_takeStatus_nil pipe phase
  | cons tlm rest =>
    have goes : run step start (events ++ [.takeStatus]) =
        afterLora { run step start events with statuses := rest }
          (Lora.processUplinkStatus tlm (run step start events).lora) := by
      rw [run_snoc, step_takeStatus_cons pipe]
    have feedback : (run step start (events ++ [.takeStatus])).lora.pendingUplinkFeedback =
        (Lora.resultFeedback tlm.lastCommandResult).getD
          (run step start events).lora.pendingUplinkFeedback := by
      rw [goes]
      rfl
    have statuses : (run step start (events ++ [.takeStatus])).statuses = rest := by
      rw [goes]
      rfl
    cases phase with
    | pending older routed newer waits result harmless =>
      rw [pipe] at waits
      cases older with
      | nil =>
        obtain ⟨rfl, rfl⟩ := List.cons.inj waits
        have stands := resultFeedback_applied.mpr result
        refine .taken (by rw [statuses]; exact harmless) ?_
        rw [feedback, since_snoc, stands]
        have trigger : TakesRouted (run step start events) .takeStatus :=
          (takesVerdict_cons pipe).mpr ⟨.applied, stands, rfl⟩
        simp [trigger]
      | cons first older =>
        obtain ⟨rfl, rfl⟩ := List.cons.inj waits
        exact .pending older routed newer statuses result harmless
    | taken harmless shown =>
      rw [pipe] at harmless
      refine .taken ?_ ?_
      · rw [statuses]
        exact fun unwrapped other mem => harmless unwrapped other (List.mem_cons_of_mem _ mem)
      · rw [feedback, since_snoc]
        unfold TakesRouted TakesBack
        rw [takesVerdict_cons pipe, takesVerdict_cons pipe]
        cases stands : Lora.resultFeedback tlm.lastCommandResult with
        | none => simp [silent, shown, TakesRouted, TakesBack]
        | some verdict =>
          by_cases applied : verdict = .applied
          · simp [applied]
          · -- A refusal is harmful, so the count has wrapped, and the report is taken back.
            have isWrapped : wrapped := by
              by_contra unwrapped
              rcases harmless unwrapped tlm (List.mem_cons_self ..) with none | routed
              · rw [stands] at none
                cases none
              · rw [stands] at routed
                exact applied (Option.some.inj routed)
            simp [applied, isWrapped]

/-! ## Runs -/

/-- A round of the uplink application that leaves it settled keeps the invariant. -/
theorem repeatInv_uplink {round : Uplink.Env × Uplink.Input} {delivered : Bool}
    {commands : List ProcessUplinkCmd}
    (goes : step (run step start events) event =
      afterUplink delivered { run step start events with commands := commands }
        (Uplink.step (run step start events).uplink round))
    (other : event ≠ .takeStatus) (silent : reception (run step start events) event = .silent)
    (settled : ¬ wrapped → Settled sequence (Uplink.step (run step start events).uplink round))
    (fewer : ∀ cmd ∈ commands, cmd ∈ (run step start events).commands)
    (inv : RepeatInv wrapped sequence start events) :
    RepeatInv wrapped sequence start (events ++ [event]) := by
  have harmless (unwrapped : ¬ wrapped) := harmless_published (settled unwrapped)
  refine ⟨phase_uplink goes other silent harmless inv.phase, ?_, ?_⟩
  · rw [run_snoc, goes]
    exact settled
  · rw [run_snoc, goes]
    exact fun cmd mem => inv.copies cmd (fewer cmd mem)

/-- An event that brings no other command keeps the invariant. -/
theorem repeatInv_snoc (inv : RepeatInv wrapped sequence start events)
    (repeats : Repeats sequence (run step start events) event) :
    RepeatInv wrapped sequence start (events ++ [event]) := by
  cases event with
  | takeStatus =>
    refine ⟨phase_takeStatus inv.phase, ?_, ?_⟩
    all_goals
      rw [run_snoc]
      cases pipe : (run step start events).statuses with
      | nil => rw [step_takeStatus_nil pipe]; first | exact inv.settled | exact inv.copies
      | cons tlm rest =>
        rw [step_takeStatus_cons pipe]
        first
        | exact inv.settled
        | simpa [afterLora, forwarded, Lora.processUplinkStatus] using inv.copies
  | lora input other =>
    refine ⟨phase_lora other inv.phase, by rw [run_snoc]; exact inv.settled, ?_⟩
    rw [run_snoc]
    intro cmd waits
    rcases List.mem_append.mp waits with earlier | sent
    · exact inv.copies cmd earlier
    · exact repeats.forwards cmd true ((step_lora (run step start events) other).2 cmd sent)
  | takeCommand env delivered =>
    cases pipe : (run step start events).commands with
    | nil =>
      have goes : step (run step start events) (.takeCommand env delivered) =
          run step start events := step_takeCommand_nil pipe
      have idle : step (run step start events) (.takeCommand env delivered) =
          afterUplink false { run step start events with commands := [] }
            (run step start events).uplink := by
        rw [goes]
        simp [afterUplink, ← pipe]
      refine ⟨phase_uplink idle (by simp) rfl ?_ inv.phase, ?_, ?_⟩
      · intro _ tlm sent
        simp [published, Uplink.newOutputs] at sent
      · rw [run_snoc, goes]
        exact inv.settled
      · rw [run_snoc, goes]
        exact inv.copies
    | cons cmd rest =>
      have same : cmd.sequence = sequence :=
        inv.copies cmd (by rw [pipe]; exact List.mem_cons_self ..)
      have goes : step (run step start events) (.takeCommand env delivered) =
          afterUplink delivered { run step start events with commands := rest }
            (Uplink.processUplink env cmd (run step start events).uplink) :=
        step_takeCommand_cons pipe
      have answered : ¬ wrapped → Settled sequence
          (Uplink.processUplink env cmd (run step start events).uplink) :=
        fun unwrapped => settled_processUplink (inv.settled unwrapped) env same
      have round : Uplink.step (run step start events).uplink (commandRound env cmd) =
          Uplink.processUplink env cmd (run step start events).uplink := by
        simp [commandRound, Uplink.step, Uplink.taskPipe, Uplink.withCmdLength]
      rw [← round] at goes answered
      have fewer : ∀ copy ∈ rest, copy ∈ (run step start events).commands := by
        rw [pipe]
        exact fun copy mem => List.mem_cons_of_mem _ mem
      exact repeatInv_uplink goes (by simp) rfl answered fewer inv
  | uplink env input delivered =>
    have settled : ¬ wrapped → Settled sequence
        (Uplink.step (run step start events).uplink (env, input)) := fun unwrapped =>
      settled_step (inv.settled unwrapped) (env, input) fun cmd command =>
        repeats.elsewhere env cmd delivered (by rw [show input = _ from command])
    have goes : step (run step start events) (.uplink env input delivered) =
        afterUplink delivered { run step start events with
          commands := (run step start events).commands }
          (Uplink.step (run step start events).uplink (env, input)) := rfl
    exact repeatInv_uplink goes (by simp) rfl settled (fun _ mem => mem) inv

/-- The invariant holds once the command has been accepted. -/
theorem repeatInv_accepting {s : System} {env : Uplink.Env} {cmd : ProcessUplinkCmd}
    (accepting : Accepting s env cmd) :
    RepeatInv (s.uplink.acceptedCount = 0xFFFFFFFF) cmd.sequence
      (step s (.takeCommand env true)) [] := by
  obtain ⟨copies, pipe, same⟩ := accepting.pipe
  have goes : step s (.takeCommand env true) = afterUplink true { s with commands := copies }
      (Uplink.processUplink env cmd s.uplink) := step_takeCommand_cons pipe
  constructor
  · obtain ⟨older, tlm, sent, result⟩ := published_accepting accepting
    refine .pending (s.statuses ++ older) tlm [] ?_ result
      (fun _ _ impossible => nomatch impossible)
    rw [run_nil, goes]
    simp [afterUplink, sent]
  · intro unwrapped
    obtain ⟨message, way⟩ := accepting.accepted
    have ends := Uplink.processUplink_endsAs env cmd s.uplink
    have verdict := ends.verdict
    rw [way] at verdict
    rw [run_nil, goes]
    constructor
    · apply (Uplink.duplicate_after_commit (by rw [way]; rfl)).mpr
      exact unwrapped
    · have routed : (Uplink.processUplink env cmd s.uplink).lastCommandResult = .routed := verdict
      change Harmless (Uplink.processUplink env cmd s.uplink).lastCommandResult.code
      rw [routed]
      exact .inr rfl
  · rw [run_nil, goes]
    exact same

/-- The report of an applied command lasts: a status that says the command was routed is taken,
and no event takes the report back. -/
def Lasts (wrapped : Prop) (start : System) (events : List Event) : Prop :=
  Since (fun before event => TakesRouted (run step start before) event)
    (fun before event => TakesBack wrapped (run step start before) event) events

/-- After a command is accepted, however often and in whatever order its copies are forwarded,
handled and reported, once both pipes are empty the downlink reports it as applied exactly when the
report lasts. A copy that is forwarded clears the report, and the answer to it, a duplicate, does
not set it again. -/
theorem feedback_applied_iff (s : System) (env : Uplink.Env) (cmd : ProcessUplinkCmd)
    (accepting : Accepting s env cmd) (events : List Event)
    (repeats : Each (fun before event => Repeats cmd.sequence
      (run step (step s (.takeCommand env true)) before) event) events)
    (drained : (run step (step s (.takeCommand env true)) events).statuses = [])
    (event : Event) (frame : List UInt8)
    (sent : Transmits (run step (step s (.takeCommand env true)) events) event frame) :
    Lora.byteAt frame 5 = Lora.Feedback.applied.code ↔
      Lasts (s.uplink.acceptedCount = 0xFFFFFFFF) (step s (.takeCommand env true)) events := by
  have inv := history_induction (repeatInv_accepting accepting)
    (fun _ _ inv repeats => repeatInv_snoc inv repeats) events repeats
  rw [transmits_feedback sent, Lora.Feedback.code_injective.eq_iff]
  cases inv.phase with
  | pending older routed newer pipe => rw [drained] at pipe; simp at pipe
  | taken harmless shown => exact shown

/-- The command of the first frame. -/
def firstCmd : ProcessUplinkCmd where
  version := 1
  commandClass := 6
  payloadLength := 6
  flags := 0x40
  sequence := 1
  checksum := 0x1DCD
  payload := Vector.replicate maxPayloadLength 0

/-- The first command has been forwarded. -/
def firstForwarded : System := run step firstBoot.system (started ++ receiving firstFrame)

/-- The uplink application takes the first command. -/
def firstAccepted : System := step firstForwarded (.takeCommand (Uplink.workingEnv 1400) true)

/-- Only an accepted command is committed. -/
theorem accepted_of_commits {way : Uplink.Ending} (commits : way.commits = true) :
    ∃ message, way = .accepted message := by
  cases way with
  | accepted message => exact ⟨message, rfl⟩
  | duplicate | refused | undelivered | reset => cases commits

/-- The first command is accepted. -/
theorem accepting_firstCmd : Accepting firstForwarded (Uplink.workingEnv 1400) firstCmd where
  pipe := ⟨[], by decide +kernel, fun _ impossible => nomatch impossible⟩
  accepted := accepted_of_commits (by decide +kernel)
  reported := rfl

/-- A check that an event brings no other command than one of a sequence. -/
def repeatsCheck (sequence : UInt16) (s : System) (event : Event) : Bool :=
  (match forwardedSequence (reception s event) with
    | some forwarded => forwarded == sequence
    | none => true) &&
  match event with
  | .uplink _ (.received (.command _ _ cmd)) _ => cmd.sequence == sequence
  | _ => true

/-- The check is sound. -/
theorem repeats_of_check (sequence : UInt16) (s : System) (event : Event)
    (checks : repeatsCheck sequence s event = true) : Repeats sequence s event := by
  unfold repeatsCheck at checks
  rw [Bool.and_eq_true] at checks
  constructor
  · intro cmd taken said
    rw [said] at checks
    exact beq_iff_eq.mp checks.1
  · rintro env cmd delivered rfl
    exact beq_iff_eq.mp checks.2

/-- A run that passes the check brings no other command. -/
theorem repeats_of_checks (sequence : UInt16) (start : System) (events : List Event)
    (checks : (project step (fun s event => [repeatsCheck sequence s event]) start events).all id =
      true) :
    Each (fun before event => Repeats sequence (run step start before) event) events :=
  each_of_checks (repeats_of_check sequence) start events checks

/-- The status of the first command is taken. -/
def reportTaken : List Event := [.takeStatus]

/-- The status is taken, and then a copy of the command is received, handled and reported. -/
def copyAfterReport : List Event :=
  [.takeStatus] ++ receiving firstFrame ++ [.takeCommand (Uplink.workingEnv 1500) true, .takeStatus]

/-- A run of events ends with an open port, binary downlinks and an empty pipe. -/
def readyToReport (s : System) : Bool :=
  s.lora.serialOpen && s.lora.useV2Downlink && s.statuses.isEmpty

/-- A system that is ready to report transmits a frame, and has taken its statuses. -/
theorem reports_of_ready {s : System} (ready : readyToReport s = true) :
    s.statuses = [] ∧ ∃ frame, Transmits s transmission frame := by
  simp only [readyToReport, Bool.and_eq_true, List.isEmpty_iff] at ready
  exact ⟨ready.2, transmits_transmission ready.1.1 ready.1.2⟩

/-- A command that is not sent again is reported as applied exactly when its report lasts. -/
theorem feedback_applied_reportTaken :
    ∃ frame, Transmits (run step firstAccepted reportTaken) transmission frame ∧
      (Lora.byteAt frame 5 = Lora.Feedback.applied.code ↔
        Lasts (firstForwarded.uplink.acceptedCount = 0xFFFFFFFF) firstAccepted reportTaken) := by
  have repeats := repeats_of_checks 1 firstAccepted reportTaken (by decide +kernel)
  obtain ⟨drained, frame, sent⟩ := reports_of_ready
    (show readyToReport (run step firstAccepted reportTaken) = true by decide +kernel)
  exact ⟨frame, sent, feedback_applied_iff firstForwarded (Uplink.workingEnv 1400) firstCmd
    accepting_firstCmd reportTaken repeats drained transmission frame sent⟩

/-- A copy that is forwarded after the report was taken turns the feedback back into nothing to
report, although the uplink application has answered it. -/
theorem feedback_not_applied_copyAfterReport :
    ¬ ∀ (s : System) (env : Uplink.Env) (cmd : ProcessUplinkCmd), Accepting s env cmd →
      ∀ events, Each (fun before event => Repeats cmd.sequence
          (run step (step s (.takeCommand env true)) before) event) events →
        (run step (step s (.takeCommand env true)) events).statuses = [] →
        ∀ event frame,
          Transmits (run step (step s (.takeCommand env true)) events) event frame →
            Lora.byteAt frame 5 = Lora.Feedback.applied.code := by
  intro always
  have repeats := repeats_of_checks 1 firstAccepted copyAfterReport
    (by decide +kernel)
  obtain ⟨drained, frame, sent⟩ := reports_of_ready
    (show readyToReport (run step firstAccepted copyAfterReport) = true by decide +kernel)
  have shown := always firstForwarded (Uplink.workingEnv 1400) firstCmd accepting_firstCmd
    copyAfterReport repeats drained transmission frame sent
  rw [transmits_feedback sent, Lora.Feedback.code_injective.eq_iff] at shown
  have cleared : (run step firstAccepted copyAfterReport).lora.pendingUplinkFeedback = .ok := by
    decide +kernel
  rw [cleared] at shown
  cases shown

end CfsTelemetry.Feedback
