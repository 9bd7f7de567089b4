import CfsTelemetry.Library.Window
import CfsTelemetry.Uplink.StatusPair
import CfsTelemetry.Uplink.Verdicts

/-!
# The replay window over whole runs

The last accepted sequence is saved with every acceptance and restored at every boot, so a run
goes on over reboots. A sequence that has been accepted is not accepted again before the accepted
sequence has gone more than half of its cycle forward, and a sequence that is less than half of
the cycle ahead is not held back.
-/
namespace CfsTelemetry.Uplink

open Run Window

/-- What happens next: a round of the main loop, or a reboot. -/
inductive Turn where
  | round (env : Env) (input : Input)
  | reboot (load : LoadIo) (resetType : UInt8) (countEnv markerEnv : Env)

/-- A round, or a new session with the state file of the one before. -/
def turn (s : State) : Turn → State
  | .round env input => step s (env, input)
  | .reboot load resetType countEnv markerEnv =>
    init load resetType countEnv markerEnv s.stateFile

/-- Whether the state saves of a turn succeed. -/
def Turn.saves : Turn → Bool
  | .round env _ => env.save = .renamed
  | .reboot _ _ countEnv markerEnv => countEnv.save = .renamed ∧ markerEnv.save = .renamed

/-- Whether the state load of a turn gets to read the file. -/
def Turn.loads : Turn → Bool
  | .round _ _ => true
  | .reboot load _ _ _ => load = .read

/-- The sequence that a turn accepts. -/
def acceptedSequence (s : State) : Turn → Option UInt16
  | .round env (.received (.command fcnCode length cmd)) =>
    if fcnCode = 2 ∧ length = 204 ∧ (ending env cmd s).commits then some cmd.sequence else none
  | _ => none

/-- The sequences that a run accepts, in order. -/
def acceptedSequences (start : State) : List Turn → List UInt16
  | [] => []
  | first :: rest => (acceptedSequence start first).toList ++
      acceptedSequences (turn start first) rest

/-- How far the accepted sequence advances from one on, step by step. -/
def advance : UInt16 → List UInt16 → Nat
  | _, [] => 0
  | last, next :: rest => (next - last).toNat + advance next rest

/-- The last sequence accepted, in the state or in the run so far. -/
def IsLastAccepted (start : State) (turns : List Turn) (last : UInt16) : Prop :=
  last = (run turn start turns).lastAcceptedSequence.toUInt16 ∨
    last ∈ (acceptedSequences start turns).getLast?

/-- The verdict does not hold a command back for its sequence. -/
def NotHeldBack (result : Result) : Prop := result ∉ [Result.duplicate, .rejectSequence]

instance (result : Result) : Decidable (NotHeldBack result) := inferInstanceAs (Decidable (¬ _))

/-- An accepted sequence is not accepted again on the first half of the cycle, and one that lies
on the first half of the cycle ahead is not held back. -/
structure ReplayWindow (start : State) (turns : List Turn) : Prop where
  /-- While the accepted sequence has advanced by half of the cycle at most, no sequence is
  accepted again. -/
  unrepeated : ∀ before accepting between later rest sequence,
    turns = before ++ accepting :: (between ++ later :: rest) →
    acceptedSequence (run turn start before) accepting = some sequence →
    advance sequence (acceptedSequences (run turn start (before ++ [accepting])) between) ≤ 32768 →
    acceptedSequence (run turn start (before ++ accepting :: between)) later ≠ some sequence
  /-- A sequence ahead of the last accepted one is not refused as a duplicate or a replay. -/
  forward : ∀ before env cmd rest last,
    turns = before ++ .round env (.received (.command 2 204 cmd)) :: rest →
    IsLastAccepted start before last → 1 ≤ (cmd.sequence - last).toNat →
    (cmd.sequence - last).toNat ≤ 32767 →
    NotHeldBack (run turn start
      (before ++ [.round env (.received (.command 2 204 cmd))])).lastCommandResult

/-- The advance of one sequence over another is how far it is ahead. -/
theorem sub_toNat (next last : UInt16) :
    (next - last).toNat = ahead 65536 last.toNat next.toNat := by
  have bound : last.toNat % 65536 = last.toNat := Nat.mod_eq_of_lt last.toNat_lt
  rw [UInt16.toNat_sub, ahead, bound, Nat.add_comm]

/-- The advance is how far the sequences travel. -/
theorem advance_eq (last : UInt16) (sequences : List UInt16) :
    advance last sequences = travelled 65536 last.toNat (sequences.map UInt16.toNat) := by
  induction sequences generalizing last with
  | nil => rfl
  | cons next rest previous => rw [advance, List.map_cons, travelled, previous, sub_toNat]

/-- The last of some sequences, as a number. -/
theorem getLastD_toNat (last : UInt16) (sequences : List UInt16) :
    (sequences.map UInt16.toNat).getLastD last.toNat = (sequences.getLastD last).toNat := by
  induction sequences generalizing last with
  | nil => rfl
  | cons next rest previous =>
    rw [List.map_cons, List.getLastD_cons, List.getLastD_cons, previous]

/-- After the first acceptance, a sequence is new exactly on the first half of the cycle ahead
of the last accepted one. -/
theorem checkSequence_eq_new {s : State} (started : s.acceptedCount ≠ 0) {sequence : UInt16} :
    checkSequence s sequence = .new ↔
      Fresh 32768 s.lastAcceptedSequence.toUInt16.toNat sequence.toNat := by
  have distance := sub_toNat sequence s.lastAcceptedSequence.toUInt16
  unfold checkSequence Fresh
  rw [if_neg started, ← distance]
  dsimp only
  by_cases same : sequence = s.lastAcceptedSequence.toUInt16
  · rw [if_pos same, same]
    simp
  · have apart : sequence - s.lastAcceptedSequence.toUInt16 ≠ 0 := by
      intro none
      exact same (by rw [← UInt16.sub_add_cancel sequence s.lastAcceptedSequence.toUInt16, none,
        UInt16.zero_add])
    have positive : 0 < (sequence - s.lastAcceptedSequence.toUInt16).toNat := by
      rw [Nat.pos_iff_ne_zero]
      exact fun zero => apart (UInt16.toNat_inj.mp zero)
    rw [if_neg same]
    by_cases near : sequence - s.lastAcceptedSequence.toUInt16 < 0x8000
    · rw [if_pos near]
      exact ⟨fun _ => ⟨positive, UInt16.lt_iff_toNat_lt.mp near⟩, fun _ => rfl⟩
    · rw [if_neg near]
      constructor
      · intro impossible
        cases impossible
      · rintro ⟨-, close⟩
        exact absurd (UInt16.lt_iff_toNat_lt.mpr close) near

section

variable {s after : State} {env : Env} {input : Input}

/-- A turn accepts nothing: the replay state stays, in the file as well. -/
structure Unaccepted (s after : State) : Prop where
  /-- The accepted count stays. -/
  acceptedCount : after.acceptedCount = s.acceptedCount
  /-- The last accepted sequence stays. -/
  lastAcceptedSequence : after.lastAcceptedSequence = s.lastAcceptedSequence
  /-- The file keeps its sequence, or is given the one of the state. -/
  saved : savedSequence after = savedSequence s ∨
    savedSequence after = some s.lastAcceptedSequence

/-- A turn that leaves the replay state and the file accepts nothing. -/
theorem Unaccepted.of_eq (acceptedCount : after.acceptedCount = s.acceptedCount)
    (lastAcceptedSequence : after.lastAcceptedSequence = s.lastAcceptedSequence)
    (stateFile : after.stateFile = s.stateFile) : Unaccepted s after :=
  ⟨acceptedCount, lastAcceptedSequence, .inl (by rw [savedSequence, savedSequence, stateFile])⟩

/-- A save accepts nothing. -/
theorem saveState_unaccepted (env : Env) (s : State) : Unaccepted s (saveState env s) := by
  obtain ⟨-, acceptedCount, lastAcceptedSequence, -⟩ := saveState_leaves env s
  by_cases renamed : env.save = .renamed
  · exact ⟨acceptedCount, lastAcceptedSequence, .inr (savedSequence_saveState env s renamed)⟩
  · exact .of_eq acceptedCount lastAcceptedSequence (saveState_stateFile env s renamed)

/-- Serving a timeout accepts nothing. -/
theorem servicePrototype_unaccepted : Unaccepted s (servicePrototype env s) := by
  have survival : Unaccepted s (checkBootSurvival env s) := by
    have saving := saveState_unaccepted env { s with survivedMark := 1 }
    unfold checkBootSurvival
    split
    · exact .of_eq rfl rfl rfl
    · split
      · exact ⟨saving.acceptedCount, saving.lastAcceptedSequence, saving.saved⟩
      · exact .of_eq rfl rfl rfl
  unfold servicePrototype
  dsimp only
  split
  · exact survival
  · exact ⟨survival.acceptedCount, survival.lastAcceptedSequence, survival.saved⟩

/-- A command whose length is wrong accepts nothing. -/
theorem withCmdLength_unaccepted {handler : State → State} (length expected : Nat)
    (unaccepted : Unaccepted s (handler s)) :
    Unaccepted s (withCmdLength env length expected handler s) := by
  unfold withCmdLength
  split
  · exact .of_eq rfl rfl rfl
  · exact unaccepted

/-- A command that is not committed accepts nothing. -/
theorem processUplink_unaccepted {cmd : ProcessUplinkCmd}
    (uncommitted : (ending env cmd s).commits = false) :
    Unaccepted s (processUplink env cmd s) := by
  have ends := processUplink_endsAs env cmd s
  have acceptedCount := ends.acceptedCount
  have lastAcceptedSequence := ends.lastAcceptedSequence
  have stateFile := ends.stateFile (by simp [uncommitted])
  rw [uncommitted] at acceptedCount lastAcceptedSequence
  exact .of_eq acceptedCount lastAcceptedSequence stateFile

/-- A round that accepts no sequence accepts nothing. -/
theorem step_unaccepted (none : acceptedSequence s (.round env input) = none) :
    Unaccepted s (step s (env, input)) := by
  cases input with
  | timeout => exact servicePrototype_unaccepted
  | received message =>
    cases message with
    | execResult msg =>
      simp only [step, taskPipe, processExecResult]
      split
      · exact .of_eq rfl rfl rfl
      · exact .of_eq rfl rfl rfl
    | command fcnCode length cmd =>
      simp only [step, taskPipe]
      split
      · exact withCmdLength_unaccepted length 0 (.of_eq rfl rfl rfl)
      · split
        · exact withCmdLength_unaccepted length 0 (.of_eq rfl rfl rfl)
        · split
          · rename_i uplink
            unfold withCmdLength
            split
            · exact .of_eq rfl rfl rfl
            · rename_i right
              have uncommitted : (ending env cmd s).commits = false := by
                simpa [acceptedSequence, uplink, not_not.mp right] using none
              exact processUplink_unaccepted uncommitted
          · exact .of_eq rfl rfl rfl
    | unreadableId | unknownId | unreadableFcnCode | sendHk | systemHealth _ | bridgeHk _ _ =>
      exact .of_eq rfl rfl rfl

/-- A round that accepts a sequence handles a command of it, and commits it. -/
theorem acceptedSequence_eq_some {sequence : UInt16} {next : Turn}
    (accepted : acceptedSequence s next = some sequence) :
    ∃ env cmd, next = .round env (.received (.command 2 204 cmd)) ∧ cmd.sequence = sequence ∧
      (ending env cmd s).commits = true ∧ turn s next = processUplink env cmd s := by
  cases next with
  | reboot load resetType countEnv markerEnv => cases accepted
  | round env input =>
    cases input with
    | timeout => cases accepted
    | received message =>
      cases message with
      | command fcnCode length cmd =>
        simp only [acceptedSequence, Option.ite_none_right_eq_some, Option.some.injEq] at accepted
        obtain ⟨⟨rfl, rfl, commits⟩, own⟩ := accepted
        exact ⟨env, cmd, rfl, own, commits, by simp [turn, step, taskPipe, withCmdLength]⟩
      | _ => cases accepted

/-- The boot marker leaves the replay state, and saves it when its save succeeds. -/
theorem processBootMarker_saves (env : Env) (resetType : UInt8) (s : State) :
    (processBootMarker env resetType s).acceptedCount = s.acceptedCount ∧
      (processBootMarker env resetType s).lastAcceptedSequence = s.lastAcceptedSequence ∧
      (env.save = .renamed →
        savedSequence (processBootMarker env resetType s) = some s.lastAcceptedSequence) := by
  unfold processBootMarker
  dsimp only
  generalize (if s.prevSurvivedMark = 0 then
    if s.shortBootStreak < 255 then s.shortBootStreak + 1 else s.shortBootStreak else 0) = streak
  obtain ⟨-, acceptedCount, lastAcceptedSequence, -⟩ := saveState_leaves env _
  refine ⟨acceptedCount.trans ?_, lastAcceptedSequence.trans ?_, fun renamed =>
    (savedSequence_saveState env _ renamed).trans (congrArg some ?_)⟩ <;> dsimp only <;> split <;>
    rfl

/-- A session starts with the replay state that was loaded, and saves it when its saves
succeed. -/
theorem init_saves (load : LoadIo) (resetType : UInt8) (countEnv markerEnv : Env)
    (stateFile : Option (List UInt8)) :
    (init load resetType countEnv markerEnv stateFile).acceptedCount =
        (loadState load (bootState stateFile)).acceptedCount ∧
      (init load resetType countEnv markerEnv stateFile).lastAcceptedSequence =
        (loadState load (bootState stateFile)).lastAcceptedSequence ∧
      (markerEnv.save = .renamed →
        savedSequence (init load resetType countEnv markerEnv stateFile) =
          some (loadState load (bootState stateFile)).lastAcceptedSequence) := by
  let loaded := loadState load (bootState stateFile)
  obtain ⟨-, counted, sequence, -⟩ :=
    saveState_leaves countEnv { loaded with bootCount := loaded.bootCount + 1 }
  obtain ⟨markedCount, markedSequence, saved⟩ := processBootMarker_saves markerEnv resetType
    (incrementBootCount countEnv loaded)
  exact ⟨markedCount.trans counted, markedSequence.trans sequence, fun renamed =>
    (saved renamed).trans (congrArg some sequence)⟩

/-- A load counts at most one acceptance. -/
theorem loadState_acceptedCount (load : LoadIo) (stateFile : Option (List UInt8)) :
    (loadState load (bootState stateFile)).acceptedCount.toNat ≤ 1 := by
  unfold loadState
  repeat' split
  all_goals first
    | exact Nat.zero_le 1
    | exact Nat.le_refl 1

/-- A load that reads a sequence restores it. -/
theorem loadState_savedSequence {saved : UInt32}
    (own : savedSequence s = some saved) :
    (loadState .read (bootState s.stateFile)).lastAcceptedSequence = saved ∧
      (loadState .read (bootState s.stateFile)).acceptedCount = 1 := by
  unfold savedSequence at own
  cases file : s.stateFile with
  | none => rw [file] at own; cases own
  | some bytes =>
    rw [file] at own
    cases checked : checkState bytes with
    | error defect => simp [checked, Except.toOption] at own
    | ok record =>
      have restored : record.lastAcceptedSequence = saved := by
        simpa [checked, Except.toOption] using own
      have booted : (bootState (some bytes)).stateFile = some bytes := rfl
      simp only [loadState, booted, checked]
      exact ⟨restored, rfl⟩

end

/-! ## Runs -/

section

variable {start : State} {turns : List Turn}

/-- The sequences accepted in one run after another. -/
theorem acceptedSequences_append (start : State) (first second : List Turn) :
    acceptedSequences start (first ++ second) =
      acceptedSequences start first ++ acceptedSequences (run turn start first) second := by
  induction first generalizing start with
  | nil => rfl
  | cons head rest previous =>
    rw [List.cons_append, acceptedSequences, acceptedSequences, previous, run_cons,
      List.append_assoc]

/-- What the replay state says of the sequences that a run has accepted. -/
structure Remembers (sequences : List UInt16) (s : State) : Prop where
  /-- The last sequence accepted is the one of the state and the one of the file. -/
  last : ∀ sequence ∈ sequences.getLast?, s.lastAcceptedSequence = sequence.toUInt32 ∧
    savedSequence s = some sequence.toUInt32
  /-- The accepted count does not wrap, and says whether there is a last sequence. -/
  counted : sequences.length + 1 < 2 ^ 32 → s.acceptedCount.toNat ≤ sequences.length + 1 ∧
    (sequences ≠ [] → s.acceptedCount ≠ 0)

/-- A turn goes on remembering what the run has accepted. -/
theorem Remembers.turn {sequences : List UInt16} {s : State} (remembers : Remembers sequences s)
    {next : Turn} (saves : next.saves = true) (loads : next.loads = true) :
    Remembers (sequences ++ (acceptedSequence s next).toList) (turn s next) := by
  cases accepted : acceptedSequence s next with
  | some sequence =>
    obtain ⟨env, cmd, rfl, own, commits, handled⟩ := acceptedSequence_eq_some accepted
    have ends := processUplink_endsAs env cmd s
    have renamed : env.save = .renamed := of_decide_eq_true saves
    have length : (sequences ++ [sequence]).length = sequences.length + 1 := by simp
    rw [handled, Option.toList_some]
    constructor
    · intro last among
      rw [List.getLast?_concat, Option.mem_some] at among
      constructor
      · rw [ends.lastAcceptedSequence, if_pos commits, own, among]
      · rw [ends.saved commits renamed, own, among]
    · intro few
      rw [length] at few
      have bound := (remembers.counted (by omega)).1
      have grown : (s.acceptedCount + 1).toNat = s.acceptedCount.toNat + 1 := by
        rw [UInt32.toNat_add, UInt32.toNat_one]
        omega
      rw [ends.acceptedCount, if_pos commits, length, grown]
      refine ⟨by omega, fun _ none => ?_⟩
      have zero := congrArg UInt32.toNat none
      rw [grown] at zero
      cases zero
  | none =>
    rw [Option.toList_none, List.append_nil]
    cases next with
    | round env input =>
      have same := step_unaccepted accepted
      constructor
      · intro last among
        obtain ⟨sequence, saved⟩ := remembers.last last among
        refine ⟨same.lastAcceptedSequence.trans sequence, ?_⟩
        rcases same.saved with kept | given
        · exact kept.trans saved
        · exact given.trans (congrArg some sequence)
      · have counted := remembers.counted
        rwa [← same.acceptedCount] at counted
    | reboot load resetType countEnv markerEnv =>
      obtain ⟨counted, sequence, saved⟩ :=
        init_saves load resetType countEnv markerEnv s.stateFile
      have atMostOne := loadState_acceptedCount load s.stateFile
      have read : load = .read := of_decide_eq_true loads
      have renamed : markerEnv.save = .renamed := (of_decide_eq_true saves).2
      have restored : ∀ last ∈ sequences.getLast?,
          (loadState load (bootState s.stateFile)).lastAcceptedSequence = last.toUInt32 ∧
            (loadState load (bootState s.stateFile)).acceptedCount = 1 := by
        intro last among
        rw [read]
        exact loadState_savedSequence (remembers.last last among).2
      constructor
      · intro last among
        exact ⟨sequence.trans (restored last among).1,
          (saved renamed).trans (congrArg some (restored last among).1)⟩
      · intro _
        rw [Uplink.turn, counted]
        refine ⟨by omega, fun some => ?_⟩
        rw [(restored _ (List.getLast?_eq_some_getLast some)).2]
        decide

/-- A run of successful saves and loads remembers what it has accepted. -/
theorem run_remembers (before : start.acceptedCount.toNat ≤ 1)
    (saves : ∀ next ∈ turns, next.saves = true) (loads : ∀ next ∈ turns, next.loads = true) :
    Remembers (acceptedSequences start turns) (run turn start turns) := by
  induction turns using List.reverseRecOn with
  | nil =>
    constructor
    · intro last among
      cases among
    · intro _
      exact ⟨before, fun some => absurd rfl some⟩
  | append_singleton earlier next previous =>
    have remembers := previous (fun turn among => saves turn (List.mem_append_left _ among))
      (fun turn among => loads turn (List.mem_append_left _ among))
    rw [acceptedSequences_append, acceptedSequences, acceptedSequences, List.append_nil, run_snoc]
    exact remembers.turn (saves next (by simp)) (loads next (by simp))

/-- A run does not accept a sequence again on the first half of the cycle. -/
theorem acceptedSequence_unrepeated {s : State} {sequence : UInt16} {between : List UInt16}
    {earlier : List UInt16} {later : Turn}
    (remembers : Remembers (earlier ++ sequence :: between) s)
    (few : (earlier ++ sequence :: between).length + 1 < 2 ^ 32)
    (near : advance sequence between ≤ 32768) :
    acceptedSequence s later ≠ some sequence := by
  intro again
  obtain ⟨env, cmd, -, own, commits, -⟩ := acceptedSequence_eq_some again
  have latest : between.getLastD sequence ∈ (earlier ++ sequence :: between).getLast? := by
    rw [List.getLast?_append_cons, List.getLast?_cons, Option.mem_some, List.getLastD_eq_getLast?]
  have last := (remembers.last _ latest).1
  have started := (remembers.counted few).2 (by simp)
  have admits : Admits s cmd := by
    by_contra barred
    rcases ending_barred env barred with ⟨way, -⟩ | way <;> rw [way] at commits <;> cases commits
  have fresh := (checkSequence_eq_new started).mp admits.new
  rw [last, UInt16.toUInt16_toUInt32, own, ← getLastD_toNat] at fresh
  have far : 32768 < travelled 65536 _ _ := half_lt_travelled fresh
  rw [advance_eq] at near
  omega

end

section

variable {s : State} {env : Env} {cmd : ProcessUplinkCmd}

/-- A command is held back for its sequence only by the check of it. -/
theorem processUplink_notHeldBack (new : checkSequence s cmd.sequence = .new) :
    NotHeldBack (processUplink env cmd s).lastCommandResult := by
  have apart : ∀ result ∈ fieldVerdicts ++ gateVerdicts, NotHeldBack result := by decide
  rcases processUplink_verdict env cmd s with ⟨old, -⟩ | ⟨old, -⟩ | ⟨-, invalid⟩ | ⟨-, -, behind⟩
  · rw [new] at old
    cases old
  · rw [new] at old
    cases old
  · exact apart _ (List.mem_append_left _ (validateProxyCommand_verdict invalid))
  · exact apart _ (List.mem_append_right _ behind)

/-- A sequence less than half of the cycle ahead of the last accepted one is not held back. -/
theorem processUplink_forward {last : UInt16} (own : last = s.lastAcceptedSequence.toUInt16)
    (ahead : 1 ≤ (cmd.sequence - last).toNat) (near : (cmd.sequence - last).toNat ≤ 32767) :
    NotHeldBack (processUplink env cmd s).lastCommandResult := by
  apply processUplink_notHeldBack
  by_cases started : s.acceptedCount = 0
  · rw [checkSequence, if_pos started]
  · rw [checkSequence_eq_new started, ← own]
    rw [sub_toNat] at ahead near
    exact ⟨ahead, Nat.lt_succ_of_le near⟩

end

/-! ## The replay window -/

/-- In every run over reboots whose saves and loads of the state succeed, and which accepts fewer
than a full count of commands, the replay window holds. A count of zero is what tells that nothing
has been accepted yet, so that a count that wraps would open the window. -/
theorem replay_window (load : LoadIo) (resetType : UInt8) (countEnv markerEnv : Env)
    (stateFile : Option (List UInt8)) (turns : List Turn)
    (saves : ∀ next ∈ turns, next.saves = true) (loads : ∀ next ∈ turns, next.loads = true)
    (few : (acceptedSequences (init load resetType countEnv markerEnv stateFile) turns).length <
      2 ^ 32) :
    ReplayWindow (init load resetType countEnv markerEnv stateFile) turns := by
  have counted := (init_saves load resetType countEnv markerEnv stateFile).1
  have before := loadState_acceptedCount load stateFile
  rw [← counted] at before
  generalize init load resetType countEnv markerEnv stateFile = start at before few
  have remembers : ∀ earlier later, turns = earlier ++ later →
      Remembers (acceptedSequences start earlier) (run turn start earlier) := by
    intro earlier later place
    rw [place] at saves loads
    exact run_remembers before (fun next among => saves next (List.mem_append_left _ among))
      (fun next among => loads next (List.mem_append_left _ among))
  constructor
  · intro earlier accepting between later rest sequence place accepted near again
    have regroup : turns = (earlier ++ accepting :: between) ++ (later :: rest) := by
      rw [place, List.append_assoc, List.cons_append]
    have soFar : acceptedSequences start (earlier ++ accepting :: between) =
        acceptedSequences start earlier ++ sequence ::
          acceptedSequences (run turn start (earlier ++ [accepting])) between := by
      rw [acceptedSequences_append, acceptedSequences, accepted, run_snoc]
      rfl
    have known := remembers _ _ regroup
    rw [soFar] at known
    have longer : (acceptedSequences start earlier ++ sequence ::
        acceptedSequences (run turn start (earlier ++ [accepting])) between).length + 1 <
          2 ^ 32 := by
      rw [regroup, acceptedSequences_append, soFar, acceptedSequences, again, List.length_append]
        at few
      simp only [Option.toList_some, List.singleton_append, List.length_cons] at few
      omega
    exact acceptedSequence_unrepeated known longer near again
  · intro earlier env cmd rest last place own ahead near
    rw [run_snoc]
    refine processUplink_forward ?_ ahead near
    rcases own with own | among
    · exact own
    · rw [((remembers _ _ place).last last among).1, UInt16.toUInt16_toUInt32]

/-- The turn of a round. -/
def Turn.ofRound (round : Env × Input) : Turn := .round round.1 round.2

/-- A command is accepted, and received again after a reboot. -/
def repeatedOverReboot (load : LoadIo) : List Turn :=
  [.ofRound wellRound, .ofRound acceptedRound,
    .reboot load 1 (workingEnv 1000) (workingEnv 1000), .ofRound wellRound, .ofRound acceptedRound]

/-- A reboot that reads the state file keeps the replay window. -/
theorem replay_window_reboot :
    ReplayWindow (init .read 1 (workingEnv 1000) (workingEnv 1000) none)
      (repeatedOverReboot .read) :=
  replay_window .read 1 (workingEnv 1000) (workingEnv 1000) none (repeatedOverReboot .read)
    (by decide) (by decide) (by decide +kernel)

/-- A reboot that cannot open the state file starts with nothing accepted, and accepts the same
command again. -/
theorem replay_window_openFailed :
    (∀ next ∈ repeatedOverReboot (.openFailed 5), next.saves = true) ∧
      (acceptedSequences (init .read 1 (workingEnv 1000) (workingEnv 1000) none)
        (repeatedOverReboot (.openFailed 5))).length < 2 ^ 32 ∧
      ¬ ReplayWindow (init .read 1 (workingEnv 1000) (workingEnv 1000) none)
        (repeatedOverReboot (.openFailed 5)) := by
  refine ⟨by decide, by decide +kernel, fun holds => ?_⟩
  exact holds.unrepeated [.ofRound wellRound] (.ofRound acceptedRound)
    [.reboot (.openFailed 5) 1 (workingEnv 1000) (workingEnv 1000), .ofRound wellRound]
    (.ofRound acceptedRound) [] 1 rfl (by decide +kernel) (by decide +kernel) (by decide +kernel)

end CfsTelemetry.Uplink
