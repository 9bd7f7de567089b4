import CfsTelemetry.Uplink.Replay

/-!
# The survival mark

A session that has lasted long enough is to be marked as survived, in the state and in the state
file. The check of it is made when the receive call of the bus times out and at no other time:
a round that receives a message leaves the mark, whatever the time. The commands that are
accepted save the mark along with the replay state.
-/
namespace CfsTelemetry.Uplink

open Run

/-- What the next boot judges a session by. -/
structure BootMarker where
  survivedMark : UInt8
  shortBootStreak : UInt8
  deriving DecidableEq, Repr

/-- The marker of a session. -/
def bootMarker (s : State) : BootMarker := ⟨s.survivedMark, s.shortBootStreak⟩

/-- The marker that the state file would restore. -/
def savedMarker (s : State) : Option BootMarker :=
  match s.stateFile with
  | none => none
  | some bytes => (checkState bytes).toOption.map fun record =>
      ⟨record.survivedMark, record.shortBootStreak⟩

/-- The receive call of a round times out when the check finds the session to have lasted long
enough since its boot marker. -/
def findsSurvival (bootStartMs : UInt32) (round : Env × Input) : Bool :=
  decide (round.2 = .timeout) && decide (bootSurviveMs ≤ round.1.survivalMs - bootStartMs)

/-- Whether a round saves the state: with an accepted command, or when it finds the session to
have survived. -/
def savesState (s : State) (round : Env × Input) : Bool :=
  decide (round.1.save = .renamed) &&
    ((acceptedSequence s (.round round.1 round.2)).isSome ||
      (decide (s.survivedMark = 0) && findsSurvival s.bootStartMs round))

section

variable {s middle after : State} {env : Env} {cmd : ProcessUplinkCmd}

/-- A save leaves the marker. -/
theorem bootMarker_saveState (env : Env) (s : State) :
    bootMarker (saveState env s) = bootMarker s ∧
      (saveState env s).bootStartMs = s.bootStartMs := by
  unfold saveState
  cases env.save <;> exact ⟨rfl, rfl⟩

/-- A save that ends in a rename saves the marker, any other leaves the file. -/
theorem savedMarker_saveState (env : Env) (s : State) :
    savedMarker (saveState env s) =
      if env.save = .renamed then some (bootMarker s) else savedMarker s := by
  by_cases renamed : env.save = .renamed
  · rw [if_pos renamed]
    simp only [saveState, renamed, savedMarker]
    rw [checkState_persistentState]
    rfl
  · rw [if_neg renamed, savedMarker, saveState_stateFile env s renamed, savedMarker]

/-- A handler that leaves the marker, the file and the accepted count. -/
structure Undisturbed (s after : State) : Prop where
  /-- The marker stays. -/
  marker : bootMarker after = bootMarker s
  /-- The start of the session stays. -/
  bootStartMs : after.bootStartMs = s.bootStartMs
  /-- The state file stays. -/
  stateFile : after.stateFile = s.stateFile
  /-- The accepted count stays. -/
  acceptedCount : after.acceptedCount = s.acceptedCount

/-- What one handler leaves and the next leaves, both leave. -/
theorem Undisturbed.trans (first : Undisturbed s middle) (second : Undisturbed middle after) :
    Undisturbed s after where
  marker := second.marker.trans first.marker
  bootStartMs := second.bootStartMs.trans first.bootStartMs
  stateFile := second.stateFile.trans first.stateFile
  acceptedCount := second.acceptedCount.trans first.acceptedCount

/-- A handler that commits: it counts an acceptance, and saves the marker when its save
succeeds. -/
structure CommitsMarker (env : Env) (s after : State) : Prop where
  /-- The marker stays. -/
  marker : bootMarker after = bootMarker s
  /-- The start of the session stays. -/
  bootStartMs : after.bootStartMs = s.bootStartMs
  /-- The marker is saved. -/
  saved : savedMarker after = if env.save = .renamed then some (bootMarker s) else savedMarker s
  /-- The acceptance is counted. -/
  acceptedCount : after.acceptedCount = s.acceptedCount + 1

/-- What follows a handler that leaves the marker does the same to it over both. -/
theorem Undisturbed.followed (first : Undisturbed s middle)
    (second : Undisturbed middle after ∨ CommitsMarker env middle after) :
    Undisturbed s after ∨ CommitsMarker env s after := by
  rcases second with undisturbed | commits
  · exact .inl (first.trans undisturbed)
  · refine .inr ⟨commits.marker.trans first.marker, commits.bootStartMs.trans first.bootStartMs, ?_,
      commits.acceptedCount.trans (congrArg (· + 1) first.acceptedCount)⟩
    have file : savedMarker middle = savedMarker s := by
      rw [savedMarker, first.stateFile, savedMarker]
    rw [commits.saved, first.marker, file]

/-- The commit of a command that was carried out. -/
theorem acceptCommand_commitsMarker (target : RouteTarget) (undisturbed : Undisturbed s middle) :
    CommitsMarker env s (acceptCommand env cmd target middle) := by
  let counted : State := { middle with
    cmdCounter := middle.cmdCounter + 1
    acceptedCount := middle.acceptedCount + 1
    lastAcceptedSequence := cmd.sequence.toUInt32 }
  have marker := bootMarker_saveState env counted
  have saved := savedMarker_saveState env counted
  have accepted := (saveState_leaves env counted).2.1
  have own : bootMarker counted = bootMarker s := undisturbed.marker
  have file : savedMarker counted = savedMarker s := by
    have same : counted.stateFile = s.stateFile := undisturbed.stateFile
    rw [savedMarker, same, savedMarker]
  rw [own, file] at saved
  have count : counted.acceptedCount = s.acceptedCount + 1 :=
    congrArg (· + 1) undisturbed.acceptedCount
  exact ⟨marker.1.trans own, marker.2.trans undisturbed.bootStartMs, saved, accepted.trans count⟩

/-- The common exit leaves the marker or commits. -/
theorem finish_marker (target : RouteTarget) (text : String) {forwarded : Bool × State}
    (undisturbed : Undisturbed s forwarded.2) :
    Undisturbed s (finish env cmd target text forwarded) ∨
      CommitsMarker env s (finish env cmd target text forwarded) := by
  unfold finish
  split
  · exact .inl (undisturbed.trans ⟨rfl, rfl, rfl, rfl⟩)
  · exact .inr (acceptCommand_commitsMarker target undisturbed)

/-- So does the exit of counter management. -/
theorem finishCounterMgmt_marker (target : RouteTarget) {forwarded : Bool × State}
    (undisturbed : Undisturbed s forwarded.2) :
    Undisturbed s (finishCounterMgmt env cmd target forwarded) ∨
      CommitsMarker env s (finishCounterMgmt env cmd target forwarded) := by
  unfold finishCounterMgmt
  split
  · exact .inl (undisturbed.trans ⟨rfl, rfl, rfl, rfl⟩)
  · split
    · exact .inl (undisturbed.trans ⟨rfl, rfl, rfl, rfl⟩)
    · exact .inr (acceptCommand_commitsMarker target undisturbed)

/-- Forwarding a configuration command leaves the marker. -/
theorem forwardConfigCommand_undisturbed : Undisturbed s (forwardConfigCommand env cmd s).2 := by
  unfold forwardConfigCommand
  dsimp only
  split
  · exact ⟨rfl, rfl, rfl, rfl⟩
  · split
    · exact ⟨rfl, rfl, rfl, rfl⟩
    · split <;> exact ⟨rfl, rfl, rfl, rfl⟩

/-- Counter management leaves the marker. -/
theorem forwardCounterMgmtCommand_undisturbed :
    Undisturbed s (forwardCounterMgmtCommand env cmd s).2 := by
  unfold forwardCounterMgmtCommand
  split
  · exact ⟨rfl, rfl, rfl, rfl⟩
  · split
    · exact ⟨rfl, rfl, rfl, rfl⟩
    · split
      · exact ⟨rfl, rfl, rfl, rfl⟩
      · exact ⟨rfl, rfl, rfl, rfl⟩
      · split <;> exact ⟨rfl, rfl, rfl, rfl⟩

/-- Forwarding a message that is long enough leaves the marker. -/
theorem forwardMessage_undisturbed (short : Prop) [Decidable short] (message : Message) :
    Undisturbed s
      (if short then (false, s) else (env.transmit, transmitMsg message env.transmit s)).2 := by
  split <;> exact ⟨rfl, rfl, rfl, rfl⟩

/-- Forwarding a flight mode leaves the marker. -/
theorem forwardFlightModeCommand_undisturbed (payload : FlightModePayload) :
    Undisturbed s (forwardFlightModeCommand env cmd payload s).2 := by
  unfold forwardFlightModeCommand
  split <;> exact ⟨rfl, rfl, rfl, rfl⟩

/-- Carrying a command out leaves the marker or commits. -/
theorem carryOut_marker (target : RouteTarget) :
    Undisturbed s (carryOut env cmd target s) ∨
      CommitsMarker env s (carryOut env cmd target s) := by
  have rejected : ∀ result id text, Undisturbed s (rejectCommand env result id text s) :=
    fun _ _ _ => ⟨rfl, rfl, rfl, rfl⟩
  have self : Undisturbed s s := ⟨rfl, rfl, rfl, rfl⟩
  unfold carryOut
  split
  · split
    · exact .inl (rejected _ _ _)
    · exact finish_marker target _ ⟨rfl, rfl, rfl, rfl⟩
  · exact finish_marker target _ (forwardMessage_undisturbed _ _)
  · split
    · exact .inl (rejected _ _ _)
    · exact finish_marker target _ ⟨rfl, rfl, rfl, rfl⟩
  · exact finish_marker target _ forwardConfigCommand_undisturbed
  · exact finish_marker target _ (forwardMessage_undisturbed _ _)
  · exact finish_marker target _ (forwardMessage_undisturbed _ _)
  · exact finishCounterMgmt_marker target forwardCounterMgmtCommand_undisturbed
  · split
    · exact .inl (rejected _ _ _)
    · exact finish_marker target _ (forwardFlightModeCommand_undisturbed _)
  · exact .inr (acceptCommand_commitsMarker target self)

/-- The health gate leaves the marker. -/
theorem healthGate_undisturbed : Undisturbed s (healthGate cmd s).2 := by
  unfold healthGate
  dsimp only
  split
  · split
    · exact ⟨rfl, rfl, rfl, rfl⟩
    · split <;> exact ⟨rfl, rfl, rfl, rfl⟩
  · exact ⟨rfl, rfl, rfl, rfl⟩

/-- A command leaves the marker, or is committed and saves it. -/
theorem processUplink_marker (env : Env) (cmd : ProcessUplinkCmd) (s : State) :
    Undisturbed s (processUplink env cmd s) ∨ CommitsMarker env s (processUplink env cmd s) := by
  have received : Undisturbed s (receive env cmd s) := ⟨rfl, rfl, rfl, rfl⟩
  have gated : Undisturbed s (healthGate cmd (receive env cmd s)).2 :=
    received.trans healthGate_undisturbed
  have handled := processUplink_handled env cmd s
  generalize processUplink env cmd s = after at handled ⊢
  cases handled with
  | duplicate repeated => exact .inl (received.trans ⟨rfl, rfl, rfl, rfl⟩)
  | refused fresh barred gives stage =>
    rcases stage with rfl | rfl
    · exact .inl (received.trans ⟨rfl, rfl, rfl, rfl⟩)
    · exact .inl (gated.trans ⟨rfl, rfl, rfl, rfl⟩)
  | admitted admits => exact gated.followed (carryOut_marker _)

/-! ## Rounds -/

/-- What a round does to the marker. -/
structure Marks (s : State) (round : Env × Input) (after : State) : Prop where
  /-- The start of the session stays. -/
  bootStartMs : after.bootStartMs = s.bootStartMs
  /-- The streak stays. -/
  shortBootStreak : after.shortBootStreak = s.shortBootStreak
  /-- The mark is set by a round that finds the session to have survived, and stays otherwise. -/
  survivedMark : after.survivedMark =
    if s.survivedMark = 0 ∧ findsSurvival s.bootStartMs round = true then 1 else s.survivedMark
  /-- The marker is in the file when the round saves the state, which otherwise stays. -/
  saved : savedMarker after =
    if savesState s round = true then some (bootMarker after) else savedMarker s

/-- A round that receives a message and accepts nothing leaves the marker. -/
theorem Undisturbed.marks {message : PipeMessage} (undisturbed : Undisturbed s after)
    (none : acceptedSequence s (.round env (.received message)) = none) :
    Marks s (env, .received message) after := by
  have unsaved : savesState s (env, .received message) = false := by
    simp [savesState, findsSurvival, none]
  have unfound : findsSurvival s.bootStartMs (env, .received message) = false := by
    simp [findsSurvival]
  refine ⟨undisturbed.bootStartMs, congrArg BootMarker.shortBootStreak undisturbed.marker, ?_, ?_⟩
  · simpa [unfound, bootMarker] using congrArg BootMarker.survivedMark undisturbed.marker
  · rw [unsaved, savedMarker, undisturbed.stateFile, savedMarker]
    simp

/-- A command saves the marker exactly when it is accepted. -/
theorem processUplink_marks (env : Env) (cmd : ProcessUplinkCmd) (s : State) :
    Marks s (env, .received (.command 2 204 cmd)) (processUplink env cmd s) := by
  have counted := (processUplink_endsAs env cmd s).acceptedCount
  have grows : s.acceptedCount + 1 ≠ s.acceptedCount := by
    intro same
    have next := congrArg UInt32.toNat same
    rw [UInt32.toNat_add, UInt32.toNat_one] at next
    omega
  rcases processUplink_marker env cmd s with undisturbed | commits
  · have uncommitted : (ending env cmd s).commits = false := by
      by_contra committed
      rw [Bool.not_eq_false] at committed
      rw [undisturbed.acceptedCount, if_pos committed] at counted
      exact grows counted.symm
    exact undisturbed.marks (by simp [acceptedSequence, uncommitted])
  · have committed : (ending env cmd s).commits = true := by
      by_contra uncommitted
      rw [commits.acceptedCount, if_neg uncommitted] at counted
      exact grows counted
    have accepted : acceptedSequence s (.round env (.received (.command 2 204 cmd))) =
        some cmd.sequence := by
      simp [acceptedSequence, committed]
    refine ⟨commits.bootStartMs, congrArg BootMarker.shortBootStreak commits.marker, ?_, ?_⟩
    · simpa [findsSurvival, bootMarker] using congrArg BootMarker.survivedMark commits.marker
    · rw [commits.saved, commits.marker]
      simp [savesState, accepted]

/-- The check of the survival marks the session, and saves the mark. -/
theorem checkBootSurvival_marks (env : Env) (s : State) :
    Marks s (env, .timeout) (checkBootSurvival env s) := by
  have none : acceptedSequence s (.round env .timeout) = none := rfl
  unfold checkBootSurvival
  by_cases marked : s.survivedMark = 0
  · rw [if_neg (not_not.mpr marked)]
    by_cases lasted : bootSurviveMs ≤ env.survivalMs - s.bootStartMs
    · rw [if_pos lasted]
      let survived : State := { s with survivedMark := 1 }
      have leaves := bootMarker_saveState env survived
      have saved := savedMarker_saveState env survived
      have found : findsSurvival s.bootStartMs (env, .timeout) = true := by
        simp [findsSurvival, lasted]
      refine ⟨leaves.2, congrArg BootMarker.shortBootStreak leaves.1, ?_, ?_⟩
      · rw [if_pos ⟨marked, found⟩]
        exact congrArg BootMarker.survivedMark leaves.1
      · have own : savesState s (env, .timeout) = decide (env.save = .renamed) := by
          simp [savesState, none, marked, found]
        rw [own]
        change savedMarker (saveState env survived) =
          if _ then some (bootMarker (saveState env survived)) else savedMarker s
        rw [saved, leaves.1]
        simp only [decide_eq_true_eq]
        rfl
    · rw [if_neg lasted]
      have unfound : findsSurvival s.bootStartMs (env, .timeout) = false := by
        simp [findsSurvival, lasted]
      exact ⟨rfl, rfl, by simp [unfound], by simp [savesState, none, unfound]⟩
  · rw [if_pos marked]
    exact ⟨rfl, rfl, by simp [marked], by simp [savesState, none, marked]⟩

/-- Every round does to the marker what it finds. -/
theorem step_marks (s : State) (round : Env × Input) : Marks s round (step s round) := by
  obtain ⟨env, input⟩ := round
  cases input with
  | timeout =>
    have checked := checkBootSurvival_marks env s
    simp only [step, servicePrototype]
    split
    · exact checked
    · exact ⟨checked.bootStartMs, checked.shortBootStreak, checked.survivedMark, checked.saved⟩
  | received message =>
    cases message with
    | command fcnCode length cmd =>
      by_cases uplink : fcnCode = 2 ∧ length = 204
      · rw [uplink.1, uplink.2]
        simpa [step, taskPipe, withCmdLength] using processUplink_marks env cmd s
      · have none : acceptedSequence s (.round env (.received (.command fcnCode length cmd))) =
            none := by
          simp only [acceptedSequence, ite_eq_right_iff, reduceCtorEq, imp_false]
          exact fun own => uplink ⟨own.1, own.2.1⟩
        refine Undisturbed.marks ?_ none
        simp only [step, taskPipe, withCmdLength]
        split
        · split <;> exact ⟨rfl, rfl, rfl, rfl⟩
        · split
          · split <;> exact ⟨rfl, rfl, rfl, rfl⟩
          · split
            · rename_i own
              have wrong : length ≠ 204 := fun right => uplink ⟨own, right⟩
              rw [if_pos wrong]
              exact ⟨rfl, rfl, rfl, rfl⟩
            · exact ⟨rfl, rfl, rfl, rfl⟩
    | execResult msg =>
      refine Undisturbed.marks ?_ rfl
      simp only [step, taskPipe, processExecResult]
      split <;> exact ⟨rfl, rfl, rfl, rfl⟩
    | unreadableId | unknownId | unreadableFcnCode | sendHk | systemHealth _ | bridgeHk _ _ =>
      exact Undisturbed.marks ⟨rfl, rfl, rfl, rfl⟩ rfl

end

/-- The streak after a boot that finds a marker. -/
def nextStreak (marker : BootMarker) : UInt8 :=
  if marker.survivedMark = 0 then
    if marker.shortBootStreak < 255 then marker.shortBootStreak + 1 else marker.shortBootStreak
  else 0

/-- The marker that a boot finds. -/
def foundMarker (load : LoadIo) (stateFile : Option (List UInt8)) : BootMarker :=
  let loaded := loadState load (bootState stateFile)
  ⟨loaded.prevSurvivedMark, loaded.shortBootStreak⟩

/-- A boot that reads a marker finds it. -/
theorem foundMarker_read {s : State} {marker : BootMarker} (saved : savedMarker s = some marker) :
    foundMarker .read s.stateFile = marker := by
  unfold savedMarker at saved
  cases file : s.stateFile with
  | none =>
    rw [file] at saved
    cases saved
  | some bytes =>
    rw [file] at saved
    cases checked : checkState bytes with
    | error defect => simp [checked, Except.toOption] at saved
    | ok record =>
      have restored : (⟨record.survivedMark, record.shortBootStreak⟩ : BootMarker) = marker := by
        simpa [checked, Except.toOption] using saved
      have booted : (bootState (some bytes)).stateFile = some bytes := rfl
      simp only [foundMarker, loadState, booted, checked]
      exact restored

/-- What a boot makes of the marker that it finds. -/
structure Boots (s : State) (found : BootMarker) (markerEnv : Env) : Prop where
  /-- The session starts unmarked, with the next streak. -/
  marker : bootMarker s = ⟨0, nextStreak found⟩
  /-- The session starts when the marker is taken. -/
  bootStartMs : s.bootStartMs = markerEnv.nowMs
  /-- A streak that reaches the threshold is suspect. -/
  suspect : s.bootLoopSuspect = if bootLoopThreshold ≤ nextStreak found then 1 else 0
  /-- The marker is saved. -/
  saved : markerEnv.save = .renamed → savedMarker s = some ⟨0, nextStreak found⟩

/-- A save leaves the verdict about the streak. -/
theorem bootLoopSuspect_saveState (env : Env) (s : State) :
    (saveState env s).bootLoopSuspect = s.bootLoopSuspect := by
  unfold saveState
  cases env.save <;> rfl

/-- The boot marker judges the session before by the marker it was left. -/
theorem processBootMarker_boots (env : Env) (resetType : UInt8) (s : State) :
    Boots (processBootMarker env resetType s) ⟨s.prevSurvivedMark, s.shortBootStreak⟩ env := by
  unfold processBootMarker
  dsimp only
  generalize next : (if s.prevSurvivedMark = 0 then
    if s.shortBootStreak < 255 then s.shortBootStreak + 1 else s.shortBootStreak else 0) = streak
  have own : nextStreak ⟨s.prevSurvivedMark, s.shortBootStreak⟩ = streak := next
  have saves : ∀ reported : State, reported.shortBootStreak = streak →
      reported.bootStartMs = env.nowMs →
      reported.bootLoopSuspect = (if bootLoopThreshold ≤ streak then 1 else 0) →
      Boots (saveState env { reported with survivedMark := 0 })
        ⟨s.prevSurvivedMark, s.shortBootStreak⟩ env := by
    intro reported marked start suspect
    let unmarked : State := { reported with survivedMark := 0 }
    have leaves := bootMarker_saveState env unmarked
    have marker : bootMarker unmarked = ⟨0, streak⟩ := congrArg (BootMarker.mk 0) marked
    have verdict := bootLoopSuspect_saveState env unmarked
    refine ⟨?_, leaves.2.trans start, ?_, fun renamed => ?_⟩
    · rw [own]
      exact leaves.1.trans marker
    · rw [own]
      exact verdict.trans suspect
    · have saved := savedMarker_saveState env unmarked
      rw [if_pos renamed, marker] at saved
      rw [own]
      exact saved
  apply saves
  · split <;> rfl
  · split <;> rfl
  · split <;> rfl

/-- The save in front of the boot marker leaves what the marker is judged by. -/
theorem incrementBootCount_leaves (env : Env) (s : State) :
    (incrementBootCount env s).prevSurvivedMark = s.prevSurvivedMark ∧
      bootMarker (incrementBootCount env s) = bootMarker s := by
  unfold incrementBootCount saveState
  cases env.save <;> exact ⟨rfl, rfl⟩

/-- An initialisation makes of the marker that it finds what a boot makes of it. -/
theorem init_boots (load : LoadIo) (resetType : UInt8) (countEnv markerEnv : Env)
    (stateFile : Option (List UInt8)) :
    Boots (init load resetType countEnv markerEnv stateFile) (foundMarker load stateFile)
      markerEnv := by
  have leaves := incrementBootCount_leaves countEnv (loadState load (bootState stateFile))
  have boots := processBootMarker_boots markerEnv resetType
    (incrementBootCount countEnv (loadState load (bootState stateFile)))
  have streak := congrArg BootMarker.shortBootStreak leaves.2
  simp only [bootMarker] at streak
  rw [leaves.1, streak] at boots
  exact ⟨boots.marker, boots.bootStartMs, boots.suspect, boots.saved⟩

/-! ## The law -/

/-- A round of the main loop, with the milliseconds since the boot marker was taken. -/
structure TimedRound where
  elapsedMs : Nat
  env : Env
  input : Input

/-- The round, with the reading of the clock at its time. The clock has 32 bits. -/
def TimedRound.onClock (timed : TimedRound) (bootStartMs : UInt32) : Env × Input :=
  ({ timed.env with survivalMs := bootStartMs + UInt32.ofNat timed.elapsedMs }, timed.input)

/-- One round at its time. -/
def timedStep (s : State) (timed : TimedRound) : State := step s (timed.onClock s.bootStartMs)

/-- The session is marked as survived, the mark is in the file, and the next boot does not count
the session as a short one. -/
structure SurvivalRecorded (s : State) : Prop where
  /-- The session is marked. -/
  marked : s.survivedMark ≠ 0
  /-- The mark is in the file. -/
  persisted : ∃ marker ∈ savedMarker s, marker.survivedMark ≠ 0
  /-- The next boot starts from no short boots. -/
  uncounted : ∀ resetType countEnv markerEnv,
    (init .read resetType countEnv markerEnv s.stateFile).shortBootStreak = 0

/-- After every round that ends late enough in the session, its survival is recorded. A session that
is not recorded counts as a short boot. -/
def RecordsSurvival (start : State) (rounds : List TimedRound) : Prop :=
  Each (fun before timed => 120000 ≤ timed.elapsedMs →
    SurvivalRecorded (run timedStep start (before ++ [timed]))) rounds

/-- The receive call of a round times out when the clock has advanced far enough. -/
def TimedRound.checks (timed : TimedRound) : Prop :=
  timed.input = .timeout ∧ 120000 ≤ timed.elapsedMs % 2 ^ 32

/-- A round saves the state. -/
def SavesAt (start : State) (before : List TimedRound) (timed : TimedRound) : Prop :=
  let s := run timedStep start before
  savesState s (timed.onClock s.bootStartMs) = true

/-- A receive call has timed out in time, and the state has been saved then or since. Only a file
that no save of the session has replaced can hold a mark otherwise. -/
structure SurvivalServed (start : State) (rounds : List TimedRound) : Prop where
  /-- A receive call has timed out. -/
  checked : ∃ timed ∈ rounds, timed.checks
  /-- The state has been saved since. -/
  saved : Occurs (fun before timed => SavesAt start before timed ∧
      ∃ checking ∈ before ++ [timed], checking.checks) rounds ∨
    (∃ marker ∈ savedMarker start, marker.survivedMark ≠ 0) ∧ ¬ Occurs (SavesAt start) rounds

section

variable {start : State} {rounds : List TimedRound}

/-- A timeout finds the session to have survived when the clock has advanced far enough. -/
theorem findsSurvival_timed (bootStartMs : UInt32) (timed : TimedRound) :
    findsSurvival bootStartMs (timed.onClock bootStartMs) = true ↔ timed.checks := by
  have reading : bootStartMs + UInt32.ofNat timed.elapsedMs - bootStartMs =
      UInt32.ofNat timed.elapsedMs := by
    rw [UInt32.add_comm, UInt32.add_sub_cancel]
  have bound : bootSurviveMs.toNat = 120000 := rfl
  rw [findsSurvival, Bool.and_eq_true, decide_eq_true_eq, decide_eq_true_eq]
  simp [TimedRound.checks, TimedRound.onClock, reading, UInt32.le_iff_toNat_le, bound]

/-- A session is marked once a receive call has timed out in time. -/
theorem run_survivedMark (unmarked : start.survivedMark = 0) :
    (run timedStep start rounds).survivedMark ≠ 0 ↔ ∃ timed ∈ rounds, timed.checks := by
  induction rounds using List.reverseRecOn with
  | nil => simp [unmarked]
  | append_singleton before timed previous =>
    let s := run timedStep start before
    have marks := (step_marks s (timed.onClock s.bootStartMs)).survivedMark
    have found := findsSurvival_timed s.bootStartMs timed
    rw [run_snoc, timedStep, marks]
    have either : (∃ checking ∈ before ++ [timed], checking.checks) ↔
        (∃ checking ∈ before, checking.checks) ∨ timed.checks := by
      simp [or_and_right, exists_or]
    rw [either, ← previous, ← found]
    by_cases mark : s.survivedMark = 0
    · by_cases finds : findsSurvival s.bootStartMs (timed.onClock s.bootStartMs) = true
      · simp [mark, finds]
      · simp [s, mark, finds]
    · simp [s, mark]

/-- The file holds a mark once the state has been saved with it. -/
theorem run_savedMarker (unmarked : start.survivedMark = 0) :
    (∃ marker ∈ savedMarker (run timedStep start rounds), marker.survivedMark ≠ 0) ↔
      Occurs (fun before timed => SavesAt start before timed ∧
        ∃ checking ∈ before ++ [timed], checking.checks) rounds ∨
      (∃ marker ∈ savedMarker start, marker.survivedMark ≠ 0) ∧
        ¬ Occurs (SavesAt start) rounds := by
  induction rounds using List.reverseRecOn with
  | nil => simp
  | append_singleton before timed previous =>
    have marked := @run_survivedMark start (before ++ [timed]) unmarked
    let s := run timedStep start before
    have file := (step_marks s (timed.onClock s.bootStartMs)).saved
    rw [run_snoc] at marked
    rw [run_snoc, occurs_snoc, occurs_snoc, timedStep, file]
    by_cases saves : SavesAt start before timed
    · have own := saves
      simp only [SavesAt] at own
      rw [if_pos own]
      have first : (∃ marker ∈ some (bootMarker (timedStep (run timedStep start before) timed)),
          marker.survivedMark ≠ 0) ↔ ∃ checking ∈ before ++ [timed], checking.checks := by
        simp only [Option.mem_some, exists_eq_left']
        exact marked
      refine first.trans ⟨fun checked => .inl (.inr ⟨saves, checked⟩), ?_⟩
      rintro ((⟨earlier, checking, rest, place, -, other, among, checks⟩ | ⟨-, checked⟩) |
        ⟨-, unsaved⟩)
      · -- The check of an earlier save is a check of this one.
        refine ⟨other, ?_, checks⟩
        rw [place]
        simp only [List.mem_append, List.mem_cons, List.not_mem_nil, or_false] at among ⊢
        rcases among with early | own
        · exact .inl (.inl early)
        · exact .inl (.inr (.inl own))
      · exact checked
      · exact absurd (.inr saves) unsaved
    · have own := saves
      simp only [SavesAt] at own
      rw [if_neg own, previous]
      simp [saves]

/-- A session records its survival exactly when its receive calls time out in time and the state is
saved. The mark is set only when a receive call has timed out, which steady traffic prevents. -/
theorem recordsSurvival_iff (load : LoadIo) (resetType : UInt8) (countEnv markerEnv : Env)
    (stateFile : Option (List UInt8)) (rounds : List TimedRound) :
    RecordsSurvival (init load resetType countEnv markerEnv stateFile) rounds ↔
      Each (fun before timed => 120000 ≤ timed.elapsedMs →
        SurvivalServed (init load resetType countEnv markerEnv stateFile) (before ++ [timed]))
        rounds := by
  have boots := init_boots load resetType countEnv markerEnv stateFile
  generalize init load resetType countEnv markerEnv stateFile = start at boots
  have unmarked : start.survivedMark = 0 := congrArg BootMarker.survivedMark boots.marker
  have same : ∀ rounds, SurvivalRecorded (run timedStep start rounds) ↔
      SurvivalServed start rounds := by
    intro rounds
    constructor
    · intro recorded
      exact ⟨(run_survivedMark unmarked).mp recorded.marked,
        (run_savedMarker unmarked).mp recorded.persisted⟩
    · intro served
      have persisted := (run_savedMarker unmarked).mpr served.saved
      refine ⟨(run_survivedMark unmarked).mpr served.checked, persisted, ?_⟩
      intro resetType countEnv markerEnv
      obtain ⟨marker, saved, mark⟩ := persisted
      have next := (init_boots .read resetType countEnv markerEnv
        (run timedStep start rounds).stateFile).marker
      rw [foundMarker_read saved] at next
      exact (congrArg BootMarker.shortBootStreak next).trans (if_neg mark)
  simp only [RecordsSurvival, same]

/-- A message every hundred milliseconds, for two minutes. -/
def steadyTraffic : List TimedRound :=
  (List.range 1200).map fun index =>
    ⟨100 * (index + 1), workingEnv 1000, .received (.systemHealth 0)⟩

/-- A session that is never without a message for long is not marked, whatever its length. -/
theorem steadyTraffic_not_recorded :
    ¬ RecordsSurvival (init .read 1 (workingEnv 1000) (workingEnv 1000) none) steadyTraffic := by
  intro records
  have boots := init_boots .read 1 (workingEnv 1000) (workingEnv 1000) none
  have unmarked := congrArg BootMarker.survivedMark boots.marker
  have place : steadyTraffic = (List.range 1199).map (fun index =>
      ⟨100 * (index + 1), workingEnv 1000, .received (.systemHealth 0)⟩) ++
      [⟨120000, workingEnv 1000, .received (.systemHealth 0)⟩] := by
    rw [steadyTraffic, List.range_succ, List.map_append]
    rfl
  have recorded := records _ _ [] place (Nat.le_refl _)
  rw [← place] at recorded
  obtain ⟨timed, among, checks, -⟩ := (run_survivedMark unmarked).mp recorded.marked
  rw [steadyTraffic, List.mem_map] at among
  obtain ⟨index, -, own⟩ := among
  rw [← own] at checks
  cases checks

end

end CfsTelemetry.Uplink
