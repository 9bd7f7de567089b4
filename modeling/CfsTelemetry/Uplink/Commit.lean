import CfsTelemetry.Uplink.Ending

/-!
# Effects and the replay state

A command that takes effect is to be committed to the replay state, so that the same command
received again is answered as a duplicate. One class of command escapes: the reset of the local
counters leaves `processUplink` by an exit of its own, before the commit. Beside that exit, a
commit fails to protect when its save fails, or when the accepted count wraps to zero.
-/
namespace CfsTelemetry.Uplink

variable {env : Env} {cmd : ProcessUplinkCmd} {s after : State}

/-- The outputs of a call, newest first, from the states before and after it. -/
def newOutputs (s after : State) : List Output :=
  after.outputs.take (after.outputs.length - s.outputs.length)

/-- The outputs of a call are those before the outputs there were. -/
theorem newOutputs_eq {outputs : List Output} (appended : after.outputs = outputs ++ s.outputs) :
    newOutputs s after = outputs := by
  simp [newOutputs, appended]

/-- Whether an output is an effect of a command: a message delivered to another application,
or a reset of the local counters. -/
def Output.isEffect : Output → Bool
  | .transmit message taken => taken && !message.isReport
  | .countersReset => true

/-- Whether a call has taken effect. -/
def takesEffect (s after : State) : Bool := (newOutputs s after).any Output.isEffect

/-- What a command asks to be sent is not a report. -/
theorem request_isReport {message : Message} (asked : request env cmd s = .send message) :
    message.isReport = false := by
  unfold request counterRequest at asked
  repeat' split at asked
  all_goals first
    | cases asked; rfl
    | cases asked

/-- A call takes effect when it delivers a message or resets the local counters. -/
theorem takesEffect_processUplink :
    takesEffect s (processUplink env cmd s) =
      match ending env cmd s with
      | .accepted _ | .reset => true
      | _ => false := by
  have ends := processUplink_endsAs env cmd s
  obtain ⟨tlm, published, -, -⟩ := ends.published.status
  rw [takesEffect, newOutputs_eq (by rw [published, List.cons_append])]
  have quiet : Output.isEffect (.transmit (.status tlm) env.reportTransmit) = false := by
    simp [Output.isEffect, Message.isReport]
  rw [List.any_cons, quiet, Bool.false_or]
  cases way : ending env cmd s with
  | duplicate => rfl
  | refused => rfl
  | undelivered message => rfl
  | reset => rfl
  | accepted message =>
    have remote := request_isReport (ending_eq_accepted.mp way).2.1
    simp [Ending.effects, Output.isEffect, remote]

/-- A command is answered as a duplicate: one status is published, and nothing else changes
than the duplicate counter, what the status reports of the reception, and its bookkeeping. -/
structure AnsweredDuplicate (s after : State) : Prop where
  /-- The verdict is a duplicate. -/
  verdict : after.lastCommandResult = .duplicate
  /-- The duplicate is counted. -/
  counted : after.duplicateCount = s.duplicateCount + 1
  /-- One status is put out. -/
  published : ∃ tlm taken, newOutputs s after = [.transmit (.status tlm) taken]
  /-- The rest of the state is as before. -/
  unchanged : { after with
      sequenceCounter := s.sequenceCounter
      publishCount := s.publishCount
      lastPublishTimeMs := s.lastPublishTimeMs
      lastRxTimeMs := s.lastRxTimeMs
      duplicateCount := s.duplicateCount
      lastCommandCode := s.lastCommandCode
      lastRxSequence := s.lastRxSequence
      lastCommandResult := s.lastCommandResult
      outputs := s.outputs
      events := s.events } = s

/-- A command whose sequence is the last accepted one is answered as a duplicate. -/
theorem processUplink_answersDuplicate (duplicate : checkSequence s cmd.sequence = .duplicate) :
    AnsweredDuplicate s (processUplink env cmd s) := by
  have answered : processUplink env cmd s = answerDuplicate env cmd (receive env cmd s) := by
    have unchanged :
        checkSequence (receive env cmd s) cmd.sequence = checkSequence s cmd.sequence := rfl
    simp only [processUplink, unchanged, duplicate]
  rw [answered]
  exact ⟨rfl, rfl, ⟨_, _, newOutputs_eq rfl⟩, rfl⟩

/-- Only a command whose sequence is the last accepted one is answered as a duplicate. -/
theorem duplicate_of_answered (answered : AnsweredDuplicate s (processUplink env cmd s)) :
    checkSequence s cmd.sequence = .duplicate := by
  have verdict := (processUplink_endsAs env cmd s).verdict
  rw [answered.verdict] at verdict
  rw [← ending_eq_duplicate env]
  cases way : ending env cmd s <;> simp_all [Ending.Gives]

/-- A sequence is a duplicate when something has been accepted and it is the last of it. -/
theorem checkSequence_eq_duplicate {sequence : UInt16} :
    checkSequence s sequence = .duplicate ↔
      s.acceptedCount ≠ 0 ∧ sequence = s.lastAcceptedSequence.toUInt16 := by
  unfold checkSequence
  split
  · simp [*]
  · rename_i started
    dsimp only
    split
    · simp [*]
    · rename_i other
      split <;> simp [started, other]

/-! ## The commit -/

/-- Every effect of a call is committed to the replay state. What is not committed may be done once
more when the command is repeated after a restart. -/
structure CommitsEffect (env : Env) (cmd : ProcessUplinkCmd) (s : State) : Prop where
  /-- An effect moves the last accepted sequence to that of the command, and saves it. -/
  committed : takesEffect s (processUplink env cmd s) = true →
    (processUplink env cmd s).lastAcceptedSequence = cmd.sequence.toUInt32 ∧
      savedSequence (processUplink env cmd s) = some cmd.sequence.toUInt32
  /-- After an effect the same command is answered as a duplicate. -/
  retransmission : takesEffect s (processUplink env cmd s) = true →
    ∀ later, AnsweredDuplicate (processUplink env cmd s)
      (processUplink later cmd (processUplink env cmd s))
  /-- Without an effect the replay state stays. -/
  untouched : takesEffect s (processUplink env cmd s) = false →
    (processUplink env cmd s).lastAcceptedSequence = s.lastAcceptedSequence ∧
      (processUplink env cmd s).acceptedCount = s.acceptedCount

/-- A command asks for a reset of the counters of the uplink application itself. -/
structure AsksLocalReset (cmd : ProcessUplinkCmd) : Prop where
  /-- The class is counter management. -/
  counterMgmt : cmd.commandClass = CommandClass.counterMgmt.code
  /-- The payload is long enough. -/
  length : 6 ≤ cmd.payloadLength
  /-- The scope is the uplink application. -/
  scope : cmd.byte 0 = CounterScope.uplink.code
  /-- The action is a reset. -/
  action : cmd.byte 1 = 0

/-- The condition under which a call commits its effects. -/
structure Committable (env : Env) (cmd : ProcessUplinkCmd) (s : State) : Prop where
  /-- The command is not an admitted reset of the local counters. -/
  notLocalReset : Admits s cmd → ¬ AsksLocalReset cmd
  /-- When the command is admitted and its message delivered, the file ends up with its
  sequence and the accepted count does not wrap. -/
  saves : ∀ message, Admits s cmd → request env cmd (receive env cmd s) = .send message →
    env.transmit = true →
      (env.save = .renamed ∨ savedSequence s = some cmd.sequence.toUInt32) ∧
        s.acceptedCount ≠ 0xFFFFFFFF

/-- What a command asks for is a local reset exactly when its fields say so. -/
theorem request_eq_localReset :
    request env cmd s = .localReset ↔ AsksLocalReset cmd := by
  constructor
  · intro asked
    have counterMgmt : CommandClass.ofByte cmd.commandClass = some .counterMgmt := by
      unfold request at asked
      split at asked
      all_goals first
        | assumption
        | (repeat' split at asked) <;> cases asked
    have counter : counterRequest env cmd = .localReset := by
      simpa only [request, counterMgmt] using asked
    have scope := (counterRequest_eq_localReset (by rw [counter]; rintro ⟨⟩)).mp counter
    unfold counterRequest at counter
    split at counter
    · cases counter
    · rename_i enough
      split at counter
      · cases counter
      · rename_i reset
        exact ⟨CommandClass.ofByte_eq_some.mp counterMgmt, UInt8.not_lt.mp enough, scope,
          not_not.mp reset⟩
  · rintro ⟨counterMgmt, length, scope, action⟩
    have named := CommandClass.ofByte_eq_some.mpr counterMgmt
    have found := CounterScope.ofByte_eq_some.mpr scope
    simp only [request, named, counterRequest, UInt8.not_lt.mpr length, if_false, action, ne_eq,
      not_true_eq_false, found]

/-- After a commit, the same command is a duplicate unless the accepted count has wrapped. -/
theorem duplicate_after_commit (committed : (ending env cmd s).commits = true) :
    checkSequence (processUplink env cmd s) cmd.sequence = .duplicate ↔
      s.acceptedCount ≠ 0xFFFFFFFF := by
  have ends := processUplink_endsAs env cmd s
  rw [checkSequence_eq_duplicate, ends.acceptedCount, ends.lastAcceptedSequence, committed]
  simp only [if_true, UInt16.toUInt16_toUInt32, and_true]
  constructor
  · intro fresh last
    rw [last] at fresh
    exact fresh rfl
  · intro bound wrapped
    apply bound
    have back : s.acceptedCount = s.acceptedCount + 1 - 1 := by simp
    rw [back, wrapped]
    rfl

/-- The condition, in terms of how the command ends. -/
theorem committable_iff_ending :
    Committable env cmd s ↔ ending env cmd s ≠ .reset ∧
      ∀ message, ending env cmd s = .accepted message →
        (env.save = .renamed ∨ savedSequence s = some cmd.sequence.toUInt32) ∧
          s.acceptedCount ≠ 0xFFFFFFFF := by
  constructor
  · rintro ⟨notLocalReset, saves⟩
    refine ⟨fun reset => ?_, fun message accepted => ?_⟩
    · obtain ⟨admits, asked⟩ := ending_eq_reset.mp reset
      exact notLocalReset admits (request_eq_localReset.mp asked)
    · obtain ⟨admits, asked, taken⟩ := ending_eq_accepted.mp accepted
      exact saves message admits asked taken
  · rintro ⟨notReset, accepted⟩
    refine ⟨fun admits asks => notReset ?_, fun message admits asked taken => ?_⟩
    · exact ending_eq_reset.mpr ⟨admits, request_eq_localReset.mpr asks⟩
    · exact accepted message (ending_eq_accepted.mpr ⟨admits, asked, taken⟩)

/-- A call without an effect commits what there is to commit. -/
theorem commitsEffect_of_quiet (quiet : takesEffect s (processUplink env cmd s) = false)
    (uncommitted : (ending env cmd s).commits = false) : CommitsEffect env cmd s := by
  have ends := processUplink_endsAs env cmd s
  have sequence := ends.lastAcceptedSequence
  have count := ends.acceptedCount
  rw [uncommitted] at sequence count
  exact ⟨fun effect => by simp [quiet] at effect, fun effect => by simp [quiet] at effect,
    fun _ => ⟨sequence, count⟩⟩

/-- A local reset is not committed: the same command is carried out again. -/
theorem not_commitsEffect_of_reset (reset : ending env cmd s = .reset) :
    ¬ CommitsEffect env cmd s := by
  intro commits
  have ends := processUplink_endsAs env cmd s
  have effect : takesEffect s (processUplink env cmd s) = true := by
    rw [takesEffect_processUplink, reset]
  have duplicate := duplicate_of_answered (commits.retransmission effect env)
  -- The replay state is the one before the reset, where the sequence was new.
  rw [reset] at ends
  rw [checkSequence_eq_duplicate, ends.acceptedCount, ends.lastAcceptedSequence] at duplicate
  have fresh := (ending_eq_reset.mp reset).1.new
  rw [checkSequence_eq_duplicate.mpr duplicate] at fresh
  cases fresh

/-- A delivered command is committed when the file has its sequence in the end and the accepted
count does not wrap. -/
theorem commitsEffect_of_accepted {message : Message}
    (accepted : ending env cmd s = .accepted message) :
    CommitsEffect env cmd s ↔
      (env.save = .renamed ∨ savedSequence s = some cmd.sequence.toUInt32) ∧
        s.acceptedCount ≠ 0xFFFFFFFF := by
  have ends := processUplink_endsAs env cmd s
  have effect : takesEffect s (processUplink env cmd s) = true := by
    rw [takesEffect_processUplink, accepted]
  have committed : (ending env cmd s).commits = true := by rw [accepted]; rfl
  have duplicate := duplicate_after_commit committed
  constructor
  · intro commits
    refine ⟨?_, duplicate.mp (duplicate_of_answered (commits.retransmission effect env))⟩
    by_cases renamed : env.save = .renamed
    · exact .inl renamed
    · have file := ends.stateFile (by simp [renamed])
      have saved := (commits.committed effect).2
      unfold savedSequence at saved ⊢
      rw [file] at saved
      exact .inr saved
  · rintro ⟨saves, bound⟩
    refine ⟨fun _ => ⟨?_, ?_⟩, fun _ later => ?_, fun quiet => by simp [quiet] at effect⟩
    · rw [ends.lastAcceptedSequence, committed]
      rfl
    · by_cases renamed : env.save = .renamed
      · exact ends.saved committed renamed
      · have file := ends.stateFile (by simp [renamed])
        have saved := saves.resolve_left renamed
        unfold savedSequence at saved ⊢
        rwa [file]
    · exact processUplink_answersDuplicate (duplicate.mpr bound)

/-- A call commits its effects exactly under the condition. What fails it is a reset of the local
counters, which returns before the commit, and a save that leaves the old sequence in the file. -/
theorem commitsEffect_iff (env : Env) (cmd : ProcessUplinkCmd) (s : State) :
    CommitsEffect env cmd s ↔ Committable env cmd s := by
  have effect : takesEffect s (processUplink env cmd s) = _ := takesEffect_processUplink
  rw [committable_iff_ending]
  cases way : ending env cmd s with
  | accepted message =>
    rw [commitsEffect_of_accepted way]
    simp
  | reset => simpa using not_commitsEffect_of_reset way
  | duplicate =>
    rw [way] at effect
    simpa using commitsEffect_of_quiet effect (by rw [way]; rfl)
  | refused =>
    rw [way] at effect
    simpa using commitsEffect_of_quiet effect (by rw [way]; rfl)
  | undelivered message =>
    rw [way] at effect
    simpa using commitsEffect_of_quiet effect (by rw [way]; rfl)

/-- A bus and a file system that work, at one clock reading. -/
def workingEnv (nowMs : UInt32) : Env where
  nowMs := nowMs
  survivalMs := nowMs
  publishMs := nowMs
  setFcnCode := true
  transmit := true
  reportTransmit := true
  save := .renamed
  stateFilePath := "cf/uplink_app_state.bin"
  commandHeaderSize := 8

/-- The first session, once the system has reported that it is well. -/
def healthySession : State :=
  Run.run step (init .read 1 (workingEnv 1000) (workingEnv 1000) none)
    [(workingEnv 1200, .received (.systemHealth 0))]

/-- A level-3 command, with a token, to reset the counters of the uplink application. -/
def localResetCmd : ProcessUplinkCmd where
  version := 1
  commandClass := 7
  payloadLength := 6
  flags := 0xC0
  sequence := 1
  checksum := 0xC262
  payload := Vector.ofFn fun index => [3, 0, 1, 0, 0, 0].getD index 0

/-- The reset is carried out and is not committed: the last accepted sequence stays at zero. -/
theorem localResetCmd_not_committed :
    Reachable healthySession ∧ ¬ CommitsEffect (workingEnv 2000) localResetCmd healthySession := by
  refine ⟨⟨_, _, _, _, _, _, rfl⟩, fun commits => ?_⟩
  have moved := (commits.committed (by decide +kernel)).1
  exact absurd moved (by decide +kernel)

end CfsTelemetry.Uplink
