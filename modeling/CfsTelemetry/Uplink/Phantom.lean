import CfsTelemetry.Uplink.Replay

/-!
# Verdicts about nothing

Before the first acceptance every sequence is to be new. Whether there has been one is not in
the state file: a boot that reads the file counts one acceptance, and the file is there as soon
as a boot has been counted. After a reboot without an acceptance the sequences are therefore
judged against the sequence zero, which no command was accepted with. A file that was not written
with the last acceptance has the same effect with the sequence it holds.
-/
namespace CfsTelemetry.Uplink

open Run Window

/-- How the handler classifies the sequence of a command. -/
def classify (env : Env) (cmd : ProcessUplinkCmd) (s : State) : SeqCheck :=
  checkSequence (receive env cmd s) cmd.sequence

/-- No command is held back for an acceptance that never was. -/
structure NoPhantoms (start : State) (turns : List Turn) : Prop where
  /-- A replay follows an acceptance. -/
  replay : Each (fun before next => ∀ env cmd,
    next = .round env (.received (.command 2 204 cmd)) →
      classify env cmd (run turn start before) = .replay →
        acceptedSequences start before ≠ []) turns
  /-- A duplicate has the sequence accepted last. -/
  duplicate : Each (fun before next => ∀ env cmd,
    next = .round env (.received (.command 2 204 cmd)) →
      classify env cmd (run turn start before) = .duplicate →
        (acceptedSequences start before).getLast? = some cmd.sequence) turns
  /-- As long as nothing has been accepted, a command is new. -/
  first : Each (fun before next => ∀ env cmd,
    next = .round env (.received (.command 2 204 cmd)) →
      acceptedSequences start before = [] → classify env cmd (run turn start before) = .new) turns

/-- The sequence that a boot reads from the state file. -/
def bootReads (load : LoadIo) (s : State) : Option UInt32 :=
  if load = .read then savedSequence s else none

/-- The number that the session goes by after a turn: the sequence it accepts, or the one that its
boot reads. -/
def nextNumber (s : State) (number : Option UInt16) : Turn → Option UInt16
  | .reboot load _ _ _ => (bootReads load s).map UInt32.toUInt16
  | .round env input => (acceptedSequence s (.round env input)).or number

/-- The number that the session goes by after some turns. -/
def goesBy (start : State) (number : Option UInt16) : List Turn → Option UInt16
  | [] => number
  | first :: rest => goesBy (turn start first) (nextNumber start number first) rest

/-- A command that is judged by a number other than the sequence accepted last does not repeat
this number, and is on the first half of the cycle ahead of it while nothing has been accepted. A
boot restores the number that was saved, which is an older one where a later save has failed. -/
def JudgedWell (start : State) (before : List Turn) (next : Turn) : Prop :=
  ∀ env cmd number, next = .round env (.received (.command 2 204 cmd)) →
    goesBy start none before = some number →
    (acceptedSequences start before).getLast? ≠ some number →
      cmd.sequence ≠ number ∧
        (acceptedSequences start before = [] → (cmd.sequence - number).toNat ≤ 32767)

section

variable {start s : State} {before : List Turn}

/-- The number that the session goes by after one turn more. -/
theorem goesBy_snoc (number : Option UInt16) (next : Turn) :
    goesBy start number (before ++ [next]) =
      nextNumber (run turn start before) (goesBy start number before) next := by
  induction before generalizing start number with
  | nil => rfl
  | cons first rest previous =>
    rw [List.cons_append, goesBy, goesBy, run_cons]
    exact previous _

/-- What the replay state says of the number that the session goes by and of the sequence that
was accepted last. -/
structure Judges (number last : Option UInt16) (s : State) : Prop where
  /-- Without a number, nothing counts as accepted. -/
  new : number = none → s.acceptedCount = 0
  /-- A number is the last accepted sequence of the state. -/
  sequence : ∀ own, number = some own → s.lastAcceptedSequence.toUInt16 = own
  /-- A number that is not the sequence accepted last counts as an acceptance. -/
  counts : ∀ own, number = some own → last ≠ some own → s.acceptedCount ≠ 0

/-- A boot that reads no sequence counts no acceptance. -/
theorem loadState_unread {load : LoadIo} (unread : bootReads load s = none) :
    (loadState load (bootState s.stateFile)).acceptedCount = 0 := by
  have file : (bootState s.stateFile).stateFile = s.stateFile := rfl
  unfold loadState
  rw [file]
  cases load with
  | openFailed errno => rfl
  | readFailed => cases s.stateFile <;> rfl
  | read =>
    have saved : savedSequence s = none := by simpa [bootReads] using unread
    cases content : s.stateFile with
    | none => rfl
    | some bytes =>
      rw [savedSequence, content] at saved
      cases checked : checkState bytes with
      | ok record => simp [checked, Except.toOption] at saved
      | error defect => cases defect <;> simp only [checked] <;> rfl

/-- A boot goes by the sequence that it reads, and counts it as an acceptance. -/
theorem init_judges (load : LoadIo) (resetType : UInt8) (countEnv markerEnv : Env)
    (last : Option UInt16) :
    Judges ((bootReads load s).map UInt32.toUInt16) last
      (init load resetType countEnv markerEnv s.stateFile) := by
  have starts := init_saves load resetType countEnv markerEnv s.stateFile
  cases reads : bootReads load s with
  | none =>
    refine ⟨fun _ => starts.1.trans (loadState_unread reads), fun own number => ?_,
      fun own number => ?_⟩
    · cases number
    · cases number
  | some saved =>
    have ⟨read, own⟩ : load = .read ∧ savedSequence s = some saved := by
      simpa [bootReads] using reads
    have restored := loadState_savedSequence own
    rw [← read] at restored
    constructor
    · intro none
      cases none
    · intro number among
      cases among
      rw [starts.2.1, restored.1]
    · intro number among stale
      rw [starts.1, restored.2]
      decide

/-- A turn goes on judging by the number and the sequence accepted last. -/
theorem Judges.turn {number last : Option UInt16} (judges : Judges number last s) (next : Turn) :
    Judges (nextNumber s number next) ((acceptedSequence s next).or last) (turn s next) := by
  cases next with
  | reboot load resetType countEnv markerEnv =>
    exact init_judges load resetType countEnv markerEnv _
  | round env input =>
    rw [nextNumber]
    cases accepted : acceptedSequence s (.round env input) with
    | none =>
      have same := step_unaccepted accepted
      rw [Option.none_or, Option.none_or]
      constructor
      · intro none
        exact same.acceptedCount.trans (judges.new none)
      · intro own among
        have kept : (Uplink.turn s (.round env input)).lastAcceptedSequence =
            s.lastAcceptedSequence := same.lastAcceptedSequence
        rw [kept]
        exact judges.sequence own among
      · intro own among stale
        have kept : (Uplink.turn s (.round env input)).acceptedCount = s.acceptedCount :=
          same.acceptedCount
        rw [kept]
        exact judges.counts own among stale
    | some sequence =>
      obtain ⟨taken, cmd, same, own, commits, handled⟩ := acceptedSequence_eq_some accepted
      have ends := processUplink_endsAs taken cmd s
      rw [Option.some_or, Option.some_or, handled]
      constructor
      · intro none
        cases none
      · intro number among
        cases among
        rw [ends.lastAcceptedSequence, if_pos commits, own, UInt16.toUInt16_toUInt32]
      · intro number among stale
        exact absurd among stale

/-- A run goes on judging by the number and the sequence accepted last. -/
theorem run_judges (judges : Judges none none start) :
    Judges (goesBy start none before) (acceptedSequences start before).getLast?
      (run turn start before) := by
  induction before using List.reverseRecOn with
  | nil => exact judges
  | append_singleton earlier next previous =>
    have last : (acceptedSequences start (earlier ++ [next])).getLast? =
        (acceptedSequence (run turn start earlier) next).or
          (acceptedSequences start earlier).getLast? := by
      rw [acceptedSequences_append, acceptedSequences, acceptedSequences, List.append_nil,
        List.getLast?_append]
      cases acceptedSequence (run turn start earlier) next <;> rfl
    rw [goesBy_snoc, last, run_snoc]
    exact previous.turn next

/-- By a number that counts as an acceptance, a sequence is new on the first half of the cycle
ahead of it. -/
theorem classify_eq_new {number : UInt16} (env : Env) (cmd : ProcessUplinkCmd)
    (sequence : s.lastAcceptedSequence.toUInt16 = number) (counts : s.acceptedCount ≠ 0) :
    classify env cmd s = .new ↔
      cmd.sequence ≠ number ∧ (cmd.sequence - number).toNat ≤ 32767 := by
  have own : classify env cmd s = checkSequence s cmd.sequence := rfl
  have apart : cmd.sequence ≠ number ↔ 0 < (cmd.sequence - number).toNat := by
    rw [Nat.pos_iff_ne_zero, ← UInt16.toNat_zero, ne_eq, ne_eq, UInt16.toNat_inj, sub_eq_zero]
  have distance := sub_toNat cmd.sequence number
  rw [own, checkSequence_eq_new counts, sequence, apart, Fresh, distance]
  exact and_congr_right fun _ => Nat.lt_succ_iff

/-- While nothing has been accepted, a command that is judged well is new. -/
theorem Judges.first {number : Option UInt16} (judges : Judges number none s) (env : Env)
    (cmd : ProcessUplinkCmd)
    (well : ∀ own, number = some own →
      cmd.sequence ≠ own ∧ (cmd.sequence - own).toNat ≤ 32767) :
    classify env cmd s = .new := by
  cases goes : number with
  | none =>
    have own : classify env cmd s = checkSequence s cmd.sequence := rfl
    rw [own, checkSequence, if_pos (judges.new goes)]
  | some own =>
    have counts := judges.counts own goes (by simp)
    exact (classify_eq_new env cmd (judges.sequence own goes) counts).mpr (well own goes)

/-- A duplicate that is judged well has the sequence accepted last. -/
theorem Judges.duplicate {number last : Option UInt16} (judges : Judges number last s) {env : Env}
    {cmd : ProcessUplinkCmd} (duplicate : classify env cmd s = .duplicate)
    (well : ∀ own, number = some own → last ≠ some own → cmd.sequence ≠ own) :
    last = some cmd.sequence := by
  have repeated := checkSequence_eq_duplicate.mp duplicate
  cases goes : number with
  | none => exact absurd (judges.new goes) repeated.1
  | some own =>
    have same : cmd.sequence = own := repeated.2.trans (judges.sequence own goes)
    rw [same]
    by_contra stale
    exact well own goes stale same

end

/-- In every run over reboots from no state file, no command is held back for an acceptance that
never was exactly when every command is judged well by the number that its session goes by. The
bookkeeping of a start writes a number that was never accepted, and the next load takes it for one
that was. -/
theorem noPhantoms_iff (load : LoadIo) (resetType : UInt8) (countEnv markerEnv : Env)
    (turns : List Turn) :
    NoPhantoms (init load resetType countEnv markerEnv none) turns ↔
      Each (JudgedWell (init load resetType countEnv markerEnv none)) turns := by
  have started : Judges none none (init load resetType countEnv markerEnv none) := by
    have starts := @init_judges (bootState none) load resetType countEnv markerEnv none
    have unread : bootReads load (bootState none) = none := by
      cases load <;> rfl
    rwa [unread] at starts
  generalize init load resetType countEnv markerEnv none = start at started
  have judged : ∀ earlier, Judges (goesBy start none earlier)
      (acceptedSequences start earlier).getLast? (run turn start earlier) :=
    fun _ => run_judges started
  constructor
  · rintro phantoms earlier next rest place env cmd number rfl goes stale
    have sequence := (judged earlier).sequence number goes
    have counts := (judged earlier).counts number goes stale
    constructor
    · intro repeated
      have duplicate : classify env cmd (run turn start earlier) = .duplicate :=
        checkSequence_eq_duplicate.mpr ⟨counts, repeated.trans sequence.symm⟩
      have last := phantoms.duplicate earlier _ rest place env cmd rfl duplicate
      exact stale (last.trans (congrArg some repeated))
    · intro none
      have new := phantoms.first earlier _ rest place env cmd rfl none
      exact ((classify_eq_new env cmd sequence counts).mp new).2
  · intro well
    have first : ∀ earlier env cmd rest,
        turns = earlier ++ .round env (.received (.command 2 204 cmd)) :: rest →
        acceptedSequences start earlier = [] →
          classify env cmd (run turn start earlier) = .new := by
      intro earlier env cmd rest place none
      have judges := judged earlier
      rw [none, List.getLast?_nil] at judges
      apply judges.first env cmd
      intro number goes
      have near := well earlier _ rest place env cmd number rfl goes (by simp [none])
      exact ⟨near.1, near.2 none⟩
    constructor
    · rintro earlier next rest place env cmd rfl replayed none
      rw [first earlier env cmd rest place none] at replayed
      cases replayed
    · rintro earlier next rest place env cmd rfl duplicate
      apply (judged earlier).duplicate duplicate
      intro number goes stale
      exact (well earlier _ rest place env cmd number rfl goes stale).1
    · rintro earlier next rest place env cmd rfl none
      exact first earlier env cmd rest place none

/-- A reboot before the first command. -/
def rebootThenCommand (cmd : ProcessUplinkCmd) : List Turn :=
  [.reboot .read 1 (workingEnv 1000) (workingEnv 1000), .ofRound wellRound,
    .round (workingEnv 2000) (.received (.command 2 204 cmd))]

/-- A first command with sequence zero is a duplicate after a reboot, and one with a sequence on
the second half of the cycle a replay, though no command has been accepted. -/
theorem phantom_afterReboot :
    ¬ NoPhantoms (init .read 1 (workingEnv 1000) (workingEnv 1000) none)
        (rebootThenCommand { localResetCmd with sequence := 0 }) ∧
      ¬ NoPhantoms (init .read 1 (workingEnv 1000) (workingEnv 1000) none)
        (rebootThenCommand { localResetCmd with sequence := 0x8000 }) := by
  constructor
  · intro phantoms
    have new := phantoms.first [.reboot .read 1 (workingEnv 1000) (workingEnv 1000),
      .ofRound wellRound] _ [] rfl (workingEnv 2000) _ rfl (by decide +kernel)
    exact absurd new (by decide +kernel)
  · intro phantoms
    have new := phantoms.first [.reboot .read 1 (workingEnv 1000) (workingEnv 1000),
      .ofRound wellRound] _ [] rfl (workingEnv 2000) _ rfl (by decide +kernel)
    exact absurd new (by decide +kernel)

end CfsTelemetry.Uplink
