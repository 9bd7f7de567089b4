import CfsTelemetry.Uplink.Commit

/-!
# The sequence and the verdict of the status

The status reports the sequence of the last command received together with the last verdict.
The two are written together for every command, but the result of an execution is matched
against the last accepted sequence and published with the last received one. The pair is the
verdict of one command exactly as long as no result arrives between the reception of another
command and the next acceptance.
-/
namespace CfsTelemetry.Uplink

open Run

variable {s : State} {env : Env} {cmd : ProcessUplinkCmd}

/-- The verdict of an execution. -/
def ExecResult.verdict (msg : ExecResult) : Result :=
  if msg.genericResult = 0 then .executedOk else .executedFailed

/-- The command and the verdict that a round gives, if it gives one. -/
def verdict (s : State) (round : Env × Input) : Option (UInt16 × Result) :=
  match round.2 with
  | .received (.command fcnCode length cmd) =>
    if fcnCode = 2 ∧ length = 204 then
      some (cmd.sequence, (processUplink round.1 cmd s).lastCommandResult)
    else none
  | .received (.execResult msg) =>
    if msg.sourceSequence = s.lastAcceptedSequence.toUInt16 then
      some (msg.sourceSequence, ExecResult.verdict msg)
    else none
  | _ => none

/-- A round accepts a command with a sequence. -/
def Accepts (s : State) (round : Env × Input) (sequence : UInt16) : Prop :=
  ∃ cmd, round.2 = .received (.command 2 204 cmd) ∧ cmd.sequence = sequence ∧
    (ending round.1 cmd s).commits = true

/-- A round brings an execution result for a sequence. -/
def BringsResult (round : Env × Input) (sequence : UInt16) (result : Result) : Prop :=
  ∃ msg, round.2 = .received (.execResult msg) ∧ msg.sourceSequence = sequence ∧
    ExecResult.verdict msg = result

/-- Whether a verdict comes from an execution. -/
def Result.isExecuted : Result → Bool
  | executedOk | executedFailed => true
  | _ => false

/-- A pair is about one command: no verdict has been given, or it was given to a command of
that sequence, and when it comes from an execution, the result was received after the
acceptance. -/
structure OneCommand (start : State) (rounds : List (Env × Input)) (sequence : UInt16)
    (result : Result) : Prop where
  /-- The verdict was given to a command of the sequence. -/
  given : result = .none ∨
    Occurs (fun before round => verdict (run step start before) round = some (sequence, result))
      rounds
  /-- The result of an execution was received after the command was accepted. -/
  executed : result.isExecuted = true →
    Occurs (fun before round => BringsResult round sequence result ∧
      Occurs (fun earlier accepting => Accepts (run step start earlier) accepting sequence) before)
      rounds

/-- What is about one command stays so. -/
theorem OneCommand.snoc {start : State} {rounds : List (Env × Input)} {sequence : UInt16}
    {result : Result} (pair : OneCommand start rounds sequence result) (round : Env × Input) :
    OneCommand start (rounds ++ [round]) sequence result :=
  ⟨pair.given.imp_right fun given => occurs_snoc.mpr (.inl given),
    fun executed => occurs_snoc.mpr (.inl (pair.executed executed))⟩

/-- An execution result that the handler takes arrives while the last command received is the one it
is about, and that command has been accepted. The handler matches a result with the command accepted
last, whichever was received last. -/
def Timely (start : State) (before : List (Env × Input)) (round : Env × Input) : Prop :=
  ∀ msg, round.2 = .received (.execResult msg) →
    msg.sourceSequence = (run step start before).lastAcceptedSequence.toUInt16 →
      (run step start before).lastRxSequence = msg.sourceSequence ∧
        Occurs (fun earlier accepting =>
          Accepts (run step start earlier) accepting msg.sourceSequence) before

/-- What a round puts out comes before the outputs there were, and every status of it reports
the pair after the round. -/
def Reports (s after : State) : Prop :=
  ∃ outputs, after.outputs = outputs ++ s.outputs ∧
    ∀ tlm taken, Output.transmit (.status tlm) taken ∈ outputs →
      tlm.lastCommandSequence = after.lastRxSequence ∧
        tlm.lastCommandResult = after.lastCommandResult.code

/-- A handler that puts nothing out reports nothing. -/
theorem reports_of_outputs {after : State} (same : after.outputs = s.outputs) :
    Reports s after :=
  ⟨[], same, fun _ _ impossible => nomatch impossible⟩

/-- A publication of the status reports the pair. -/
theorem reports_updateStatusTelemetry {middle : State} (nowMs : UInt32)
    (same : middle.outputs = s.outputs) : Reports s (updateStatusTelemetry env nowMs middle) := by
  refine ⟨[_], congrArg (List.cons _) same, fun tlm taken reported => ?_⟩
  cases List.mem_singleton.mp reported
  exact ⟨rfl, rfl⟩

/-- A command is reported with its verdict. -/
theorem reports_processUplink : Reports s (processUplink env cmd s) := by
  have ends := processUplink_endsAs env cmd s
  obtain ⟨published, outputs, sequence, result⟩ := ends.published.status
  refine ⟨_ :: (ending env cmd s).effects, outputs, fun tlm taken' reported => ?_⟩
  rcases List.mem_cons.mp reported with equal | effect
  · cases equal
    exact ⟨sequence.trans ends.received.symm, result⟩
  · -- The effects of a command hold no status.
    rcases mem_effects effect with ⟨-, ⟨message, _, same, asked⟩ | ⟨impossible, -⟩⟩
    · cases same
      cases request_isReport asked
    · cases impossible

/-- A handler leaves the pair and the replay state, or takes the verdict back. -/
structure KeepsPair (s after : State) : Prop where
  /-- The statuses report the pair. -/
  reports : Reports s after
  /-- The sequence received stays. -/
  lastRxSequence : after.lastRxSequence = s.lastRxSequence
  /-- The verdict stays, or is taken back. -/
  lastCommandResult : after.lastCommandResult = s.lastCommandResult ∨
    after.lastCommandResult = .none
  /-- The replay state stays. -/
  replay : after.acceptedCount = s.acceptedCount ∧
    after.lastAcceptedSequence = s.lastAcceptedSequence

/-- The pair, the replay state and the outputs of a state are those of another. -/
structure SamePair (s after : State) : Prop where
  /-- The outputs. -/
  outputs : after.outputs = s.outputs
  /-- The sequence received. -/
  lastRxSequence : after.lastRxSequence = s.lastRxSequence
  /-- The verdict. -/
  lastCommandResult : after.lastCommandResult = s.lastCommandResult
  /-- The replay state. -/
  replay : after.acceptedCount = s.acceptedCount ∧
    after.lastAcceptedSequence = s.lastAcceptedSequence

/-- A handler that publishes nothing and changes nothing of the pair leaves it. -/
theorem SamePair.keeps {after : State} (same : SamePair s after) : KeepsPair s after :=
  ⟨reports_of_outputs same.outputs, same.lastRxSequence, .inl same.lastCommandResult, same.replay⟩

/-- A command whose length is wrong leaves the pair. -/
theorem withCmdLength_keepsPair {handler : State → State} (length expected : Nat)
    (keeps : KeepsPair s (handler s)) :
    KeepsPair s (withCmdLength env length expected handler s) := by
  unfold withCmdLength
  split
  · exact SamePair.keeps ⟨rfl, rfl, rfl, rfl, rfl⟩
  · exact keeps

/-- The survival check leaves the pair and the outputs. -/
theorem checkBootSurvival_same : SamePair s (checkBootSurvival env s) := by
  obtain ⟨outputs, acceptedCount, lastAcceptedSequence, lastRxSequence, lastCommandResult⟩ :=
    saveState_leaves env { s with survivedMark := 1 }
  unfold checkBootSurvival
  split
  · exact ⟨rfl, rfl, rfl, rfl, rfl⟩
  · split
    · exact ⟨outputs, lastRxSequence, lastCommandResult, acceptedCount, lastAcceptedSequence⟩
    · exact ⟨rfl, rfl, rfl, rfl, rfl⟩

/-- Serving a timeout leaves the pair. -/
theorem servicePrototype_keepsPair : KeepsPair s (servicePrototype env s) := by
  have same := @checkBootSurvival_same s env
  unfold servicePrototype
  dsimp only
  split
  · exact same.keeps
  · exact ⟨reports_updateStatusTelemetry _ same.outputs, same.lastRxSequence,
      .inl same.lastCommandResult, same.replay⟩

/-- A round handles a command, or an execution result, or leaves the pair. -/
theorem step_cases (s : State) (round : Env × Input) :
    (∃ cmd, round.2 = .received (.command 2 204 cmd) ∧
        step s round = processUplink round.1 cmd s) ∨
      (∃ msg, round.2 = .received (.execResult msg) ∧
        step s round = processExecResult round.1 msg s) ∨
      KeepsPair s (step s round) := by
  obtain ⟨env, input⟩ := round
  cases input with
  | timeout => exact .inr (.inr servicePrototype_keepsPair)
  | received message =>
    cases message with
    | execResult msg => exact .inr (.inl ⟨msg, rfl, rfl⟩)
    | unreadableId | unknownId | unreadableFcnCode | systemHealth _ | bridgeHk _ _ =>
      exact .inr (.inr (SamePair.keeps ⟨rfl, rfl, rfl, rfl, rfl⟩))
    | sendHk =>
      refine .inr (.inr ⟨⟨[_], rfl, fun tlm taken reported => ?_⟩, rfl, .inl rfl, rfl, rfl⟩)
      cases List.mem_singleton.mp reported
    | command fcnCode length cmd =>
      simp only [step, taskPipe]
      split
      · exact .inr (.inr (withCmdLength_keepsPair length 0
          (SamePair.keeps ⟨rfl, rfl, rfl, rfl, rfl⟩)))
      · split
        · exact .inr (.inr (withCmdLength_keepsPair length 0
            ⟨reports_of_outputs rfl, rfl, .inr rfl, rfl, rfl⟩))
        · split
          · rename_i code
            by_cases right : length = 204
            · subst code right
              exact .inl ⟨cmd, rfl, by simp [withCmdLength]⟩
            · refine .inr (.inr ?_)
              simp only [withCmdLength, ne_eq, right, not_false_eq_true, if_true]
              exact SamePair.keeps ⟨rfl, rfl, rfl, rfl, rfl⟩
          · exact .inr (.inr (SamePair.keeps ⟨rfl, rfl, rfl, rfl, rfl⟩))

/-- Every round reports the pair after it. -/
theorem step_reports (s : State) (round : Env × Input) : Reports s (step s round) := by
  rcases step_cases s round with ⟨cmd, -, same⟩ | ⟨msg, -, same⟩ | keeps
  · rw [same]
    exact reports_processUplink
  · rw [same]
    unfold processExecResult
    split
    · exact reports_of_outputs rfl
    · exact reports_updateStatusTelemetry 0 rfl
  · exact keeps.reports

/-- No command is given the verdict of an execution by its handler. -/
theorem processUplink_isExecuted :
    (processUplink env cmd s).lastCommandResult.isExecuted = false := by
  have gives := (processUplink_endsAs env cmd s).verdict
  cases way : ending env cmd s <;> rw [way] at gives
  case duplicate | reset | accepted =>
    rw [show (processUplink env cmd s).lastCommandResult = _ from gives]
    rfl
  case refused | undelivered =>
    cases result : (processUplink env cmd s).lastCommandResult <;> rw [result] at gives <;>
      first | rfl | exact absurd gives (by simp [Ending.Gives])

/-! ## Runs -/

/-- Every pair published in a run is about one command. -/
def PublishedPairs (start : State) (rounds : List (Env × Input)) : Prop :=
  ∀ tlm taken, Output.transmit (.status tlm) taken ∈ (run step start rounds).outputs →
    ∃ result : Result, tlm.lastCommandResult = result.code ∧
      OneCommand start rounds tlm.lastCommandSequence result

/-- The pair of a state, and every pair published on the way to it, stand in a relation to the
rounds so far. -/
structure PairsHold (about : List (Env × Input) → UInt16 → Result → Prop) (start : State)
    (rounds : List (Env × Input)) : Prop where
  /-- The pair the state holds. -/
  current : about rounds (run step start rounds).lastRxSequence
    (run step start rounds).lastCommandResult
  /-- The pairs published. -/
  published : ∀ tlm taken,
    Output.transmit (.status tlm) taken ∈ (run step start rounds).outputs →
      ∃ result : Result, tlm.lastCommandResult = result.code ∧
        about rounds tlm.lastCommandSequence result

section

variable {about : List (Env × Input) → UInt16 → Result → Prop} {start : State}
  {before : List (Env × Input)} {round : Env × Input}

/-- The pairs published keep a relation that lasts, when the pair after a round has it. -/
theorem pairsHold_of_current (holds : PairsHold about start before)
    (lasts : ∀ sequence result, about before sequence result →
      about (before ++ [round]) sequence result)
    (current : about (before ++ [round])
      (step (run step start before) round).lastRxSequence
      (step (run step start before) round).lastCommandResult) :
    PairsHold about start (before ++ [round]) := by
  constructor
  · rw [run_snoc]
    exact current
  · intro tlm taken reported
    obtain ⟨outputs, appended, new⟩ := step_reports (run step start before) round
    rw [run_snoc, appended] at reported
    rcases List.mem_append.mp reported with added | earlier
    · obtain ⟨sequence, result⟩ := new tlm taken added
      exact ⟨_, result, sequence ▸ current⟩
    · obtain ⟨result, code, pair⟩ := holds.published tlm taken earlier
      exact ⟨result, code, lasts _ _ pair⟩

/-- A round keeps a relation of the pairs to the rounds that lasts, when it is also that of no
verdict, of the verdict of a command, and of an execution result that is taken. -/
theorem pairsHold_snoc (holds : PairsHold about start before)
    (lasts : ∀ sequence result, about before sequence result →
      about (before ++ [round]) sequence result)
    (none : ∀ sequence, about (before ++ [round]) sequence .none)
    (command : ∀ cmd, round.2 = .received (.command 2 204 cmd) →
      about (before ++ [round]) cmd.sequence
        (processUplink round.1 cmd (run step start before)).lastCommandResult)
    (executed : ∀ msg, round.2 = .received (.execResult msg) →
      msg.sourceSequence = (run step start before).lastAcceptedSequence.toUInt16 →
        about (before ++ [round]) (run step start before).lastRxSequence
          (ExecResult.verdict msg)) :
    PairsHold about start (before ++ [round]) := by
  rcases step_cases (run step start before) round with
    ⟨cmd, received, same⟩ | ⟨msg, brought, same⟩ | keeps
  · apply pairsHold_of_current holds lasts
    rw [same, (processUplink_endsAs _ cmd _).received]
    exact command cmd received
  · by_cases taken : msg.sourceSequence =
        (run step start before).lastAcceptedSequence.toUInt16
    · have published : step (run step start before) round = updateStatusTelemetry round.1 0 _ :=
        same.trans (if_neg (not_not.mpr taken))
      apply pairsHold_of_current holds lasts
      rw [published]
      exact executed msg brought taken
    · have ignored : step (run step start before) round = run step start before :=
        same.trans (if_pos taken)
      apply pairsHold_of_current holds lasts
      rw [ignored]
      exact lasts _ _ holds.current
  · apply pairsHold_of_current holds lasts
    rw [keeps.lastRxSequence]
    rcases keeps.lastCommandResult with kept | retracted
    · rw [kept]
      exact lasts _ _ holds.current
    · rw [retracted]
      exact none _

end

/-- A round that handles a command gives it its verdict. -/
theorem verdict_command {round : Env × Input} (command : round.2 = .received (.command 2 204 cmd)) :
    verdict s round = some (cmd.sequence, (processUplink round.1 cmd s).lastCommandResult) := by
  simp [verdict, command]

/-- A round that takes its execution results in time keeps the pairs about one command. -/
theorem oneCommand_snoc {start : State} {before : List (Env × Input)} {round : Env × Input}
    (holds : PairsHold (OneCommand start) start before) (timely : Timely start before round) :
    PairsHold (OneCommand start) start (before ++ [round]) := by
  apply pairsHold_snoc holds
  · exact fun _ _ pair => pair.snoc round
  · exact fun _ => ⟨.inl rfl, by rintro ⟨⟩⟩
  · intro cmd command
    constructor
    · exact .inr (occurs_snoc.mpr (.inr (verdict_command command)))
    · intro executed
      rw [processUplink_isExecuted] at executed
      cases executed
  · intro msg brought taken
    obtain ⟨last, accepted⟩ := timely msg brought taken
    rw [last]
    constructor
    · refine .inr (occurs_snoc.mpr (.inr ?_))
      simp [verdict, brought, taken]
    · exact fun _ => occurs_snoc.mpr (.inr ⟨⟨msg, brought, rfl, rfl⟩, accepted⟩)

/-- A verdict other than that of an execution was given to a command of the sequence. -/
def Given (start : State) (rounds : List (Env × Input)) (sequence : UInt16) (result : Result) :
    Prop :=
  result = .none ∨ result.isExecuted = true ∨
    Occurs (fun before round => verdict (run step start before) round = some (sequence, result))
      rounds

/-- A round keeps the pairs given, in time or not. -/
theorem given_snoc {start : State} {before : List (Env × Input)} (round : Env × Input)
    (holds : PairsHold (Given start) start before) :
    PairsHold (Given start) start (before ++ [round]) := by
  apply pairsHold_snoc holds
  · exact fun _ _ given =>
      given.imp_right (Or.imp_right fun occurred => occurs_snoc.mpr (.inl occurred))
  · exact fun _ => .inl rfl
  · exact fun cmd command => .inr (.inr (occurs_snoc.mpr (.inr (verdict_command command))))
  · intro msg _ _
    unfold ExecResult.verdict
    split
    · exact .inr (.inl rfl)
    · exact .inr (.inl rfl)

/-- A load leaves the outputs and the verdict. -/
theorem loadState_leaves (io : LoadIo) (s : State) :
    (loadState io s).outputs = s.outputs ∧
      (loadState io s).lastCommandResult = s.lastCommandResult := by
  unfold loadState
  repeat' split
  all_goals exact ⟨rfl, rfl⟩

/-- The boot marker leaves the outputs and the verdict. -/
theorem processBootMarker_leaves (env : Env) (resetType : UInt8) (s : State) :
    (processBootMarker env resetType s).outputs = s.outputs ∧
      (processBootMarker env resetType s).lastCommandResult = s.lastCommandResult := by
  unfold processBootMarker
  dsimp only
  generalize (if s.prevSurvivedMark = 0 then
    if s.shortBootStreak < 255 then s.shortBootStreak + 1 else s.shortBootStreak else 0) = streak
  obtain ⟨outputs, -, -, -, lastCommandResult⟩ := saveState_leaves env _
  rw [outputs, lastCommandResult]
  constructor <;> dsimp only <;> split <;> rfl

/-- A session starts without an output and without a verdict. -/
theorem init_leaves (load : LoadIo) (resetType : UInt8) (countEnv markerEnv : Env)
    (stateFile : Option (List UInt8)) :
    (init load resetType countEnv markerEnv stateFile).outputs = [] ∧
      (init load resetType countEnv markerEnv stateFile).lastCommandResult = .none := by
  obtain ⟨loadedOutputs, loadedResult⟩ := loadState_leaves load (bootState stateFile)
  obtain ⟨countedOutputs, -, -, -, countedResult⟩ := saveState_leaves countEnv
    { loadState load (bootState stateFile) with
      bootCount := (loadState load (bootState stateFile)).bootCount + 1 }
  obtain ⟨markedOutputs, markedResult⟩ := processBootMarker_leaves markerEnv resetType
    (incrementBootCount countEnv (loadState load (bootState stateFile)))
  exact ⟨markedOutputs.trans (countedOutputs.trans loadedOutputs),
    markedResult.trans (countedResult.trans loadedResult)⟩

/-- A session starts with nothing published and no verdict. -/
theorem pairsHold_init {about : List (Env × Input) → UInt16 → Result → Prop} (load : LoadIo)
    (resetType : UInt8) (countEnv markerEnv : Env) (stateFile : Option (List UInt8))
    (none : ∀ sequence, about [] sequence .none) :
    PairsHold about (init load resetType countEnv markerEnv stateFile) [] := by
  obtain ⟨outputs, lastCommandResult⟩ := init_leaves load resetType countEnv markerEnv stateFile
  constructor
  · rw [run_nil, lastCommandResult]
    exact none _
  · intro tlm taken published
    rw [run_nil, outputs] at published
    cases published

/-- In every session, every verdict published was given to a command of its sequence, unless it
comes from an execution. -/
theorem pairsHold_given (load : LoadIo) (resetType : UInt8) (countEnv markerEnv : Env)
    (stateFile : Option (List UInt8)) (rounds : List (Env × Input)) :
    PairsHold (Given (init load resetType countEnv markerEnv stateFile))
      (init load resetType countEnv markerEnv stateFile) rounds := by
  have start := @pairsHold_init (Given (init load resetType countEnv markerEnv stateFile))
    load resetType countEnv markerEnv stateFile fun _ => .inl rfl
  induction rounds using List.reverseRecOn with
  | nil => exact start
  | append_singleton before round previous => exact given_snoc round previous

/-- In every session that takes its execution results in time, every pair published is about one
command. The status shows the number of the command received last, while a result is matched with
the one accepted last, so the condition is about what comes in between. -/
theorem status_pairs_consistent (load : LoadIo) (resetType : UInt8) (countEnv markerEnv : Env)
    (stateFile : Option (List UInt8)) (rounds : List (Env × Input))
    (timely : Each (Timely (init load resetType countEnv markerEnv stateFile)) rounds) :
    PublishedPairs (init load resetType countEnv markerEnv stateFile) rounds := by
  have start := @pairsHold_init (OneCommand (init load resetType countEnv markerEnv stateFile))
    load resetType countEnv markerEnv stateFile fun _ => ⟨.inl rfl, by rintro ⟨⟩⟩
  have holds := history_induction start
    (fun _ _ holds timely => oneCommand_snoc holds timely) rounds timely
  exact holds.published

/-- A diagnostic command with an empty request. -/
def diagnosticCmd (sequence checksum : UInt16) : ProcessUplinkCmd where
  version := 1
  commandClass := 6
  payloadLength := 6
  flags := 0x40
  sequence := sequence
  checksum := checksum
  payload := Vector.replicate maxPayloadLength 0

/-- The first session. -/
def firstSession : State := init .read 1 (workingEnv 1000) (workingEnv 1000) none

/-- The system reports that it is well. -/
def wellRound : Env × Input := (workingEnv 1200, .received (.systemHealth 0))

/-- A command with the right checksum. -/
def acceptedRound : Env × Input :=
  (workingEnv 1400, .received (.command 2 204 (diagnosticCmd 1 0x1DCD)))

/-- The next command, with a wrong checksum. -/
def rejectedRound : Env × Input :=
  (workingEnv 1600, .received (.command 2 204 (diagnosticCmd 2 0)))

/-- The result of the first command. -/
def resultRound : Env × Input := (workingEnv 1800, .received (.execResult ⟨1, 3, 6, 0, 0⟩))

/-- A result that arrives before the next command is published with its own command. -/
theorem status_pairs_consistent_inTime :
    PublishedPairs firstSession ((([] ++ [wellRound]) ++ [acceptedRound]) ++ [resultRound]) := by
  apply status_pairs_consistent
  rw [each_snoc, each_snoc, each_snoc]
  refine ⟨⟨⟨each_nil, fun msg brought => ?_⟩, fun msg brought => ?_⟩, fun msg brought _ => ?_⟩
  · cases brought
  · cases brought
  · cases brought
    exact ⟨by decide +kernel, [wellRound], acceptedRound, [], rfl, diagnosticCmd 1 0x1DCD, rfl, rfl,
      by decide +kernel⟩

/-- A result that arrives after the next command was rejected is published as the result of
that command, for which none was received. -/
theorem status_pairs_mixed :
    ¬ ∀ load resetType countEnv markerEnv stateFile rounds,
      PublishedPairs (init load resetType countEnv markerEnv stateFile) rounds := by
  intro always
  let rounds := [wellRound, acceptedRound, rejectedRound, resultRound]
  let after := run step firstSession rounds
  let tlm := statusTlm after.lastPublishTimeMs after
  have published : .transmit (.status tlm) true ∈ after.outputs := by decide +kernel
  have reads : tlm.lastCommandSequence = 2 ∧ tlm.lastCommandResult = 15 := by decide +kernel
  obtain ⟨result, code, pair⟩ :=
    always .read 1 (workingEnv 1000) (workingEnv 1000) none rounds tlm true published
  have executed : result = .executedOk := Result.code_injective (code.symm.trans reads.2)
  obtain ⟨before, round, after, place, ⟨msg, brought, same, -⟩, -⟩ :=
    pair.executed (by rw [executed]; rfl)
  have member : round ∈ rounds := by simp [place]
  simp only [rounds, List.mem_cons, List.not_mem_nil, or_false] at member
  rcases member with rfl | rfl | rfl | rfl <;> cases brought
  rw [reads.1] at same
  exact absurd same (by decide)

end CfsTelemetry.Uplink
