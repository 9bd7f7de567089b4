import CfsTelemetry.Library.Stopwatch
import CfsTelemetry.Lora.Link

/-!
# The law of the link

The link is to be disconnected after a time without an acknowledgement, degraded after a number
of cycles without one, and connected otherwise. Zero is the reading of an acknowledgement that
never was, a reading above the one of now counts as no time at all, and a command sets the count
to zero. The law holds in a run exactly when none of these hides a silence.
-/
namespace CfsTelemetry.Lora

open Run

/-- The time at which the link was judged last, or of the start. -/
def lastTime (startTime : Nat) (cycles : List LinkCycle) : Nat :=
  (cycles.getLast?.map LinkCycle.judgeTime).getD startTime

/-- The times of the cycles are in order, from the start on. -/
def InOrder (startTime : Nat) (cycles : List LinkCycle) : Prop :=
  Each (fun before cycle => lastTime startTime before ≤ cycle.judgeTime ∧
    ∀ round ∈ cycle.rounds, lastTime startTime before ≤ round.ackTime ∧
      round.ackTime ≤ cycle.judgeTime) cycles

/-- More than the timeout has gone by since the last acknowledgement, or since the start. -/
def Silent (startTime : Nat) (notes : List CycleNote) (time : Nat) : Prop :=
  5000 < time - (lastAck notes).getD startTime

instance (startTime : Nat) (notes : List CycleNote) (time : Nat) :
    Decidable (Silent startTime notes time) := inferInstanceAs (Decidable (_ < _))

/-- The state that the link is in at a time. -/
def dueLinkState (startTime : Nat) (notes : List CycleNote) (time : Nat) : LinkState :=
  if Silent startTime notes time then .disconnected
  else if 30 ≤ quietCycles notes then .degraded
  else .connected

/-- Each cycle judges the link as it is. -/
def JudgedRightly (startTime : Nat) (start : App) (before : List LinkCycle) (cycle : LinkCycle) :
    Prop :=
  (run runLinkCycle start (before ++ [cycle])).data.linkState =
    dueLinkState startTime (cycleNotes start (before ++ [cycle])) cycle.judgeTime

/-- The law of the link, for an application that starts at a time. -/
structure LinkLaw (startTime : Nat) (start : App) (cycles : List LinkCycle) : Prop where
  /-- Each cycle judges the link as it is. -/
  state : Each (JudgedRightly startTime start) cycles
  /-- The link is restored in a cycle with an acknowledgement only. -/
  restored : Each (fun before cycle =>
    (linkView (run runLinkCycle start (before ++ [cycle])).data).restored ≠
        (linkView (run runLinkCycle start before).data).restored →
      (cycleNote (run runLinkCycle start before) cycle).ack.isSome) cycles

/-- An acknowledgement was taken at a reading other than zero, and the reading at a time exceeds it
by more than the timeout. -/
def Overdue (notes : List CycleNote) (time : Nat) : Prop :=
  ∃ ack, lastAck notes = some ack ∧ clockMs ack ≠ 0 ∧
    (clockMs ack).toNat + 5000 < (clockMs time).toNat

/-- Nothing hides a silence at a time. After the timeout the clock shows it. Before, the cycles
without an acknowledgement are enough since the counters were set to zero, if they are enough at
all. -/
def Evident (startTime : Nat) (notes : List CycleNote) (time : Nat) : Prop :=
  if Silent startTime notes time then Overdue notes time
  else 30 ≤ quietCycles notes → 30 ≤ countedCycles notes

section

variable {startTime time : Nat} {start : App} {cycles before : List LinkCycle} {cycle : LinkCycle}
  {notes : List CycleNote} {note : CycleNote} {view after : LinkView}

/-- The notes of one cycle more. -/
theorem cycleNotes_snoc :
    cycleNotes start (before ++ [cycle]) =
      cycleNotes start before ++ [cycleNote (run runLinkCycle start before) cycle] :=
  project_snoc _ _ _ _

/-- The last acknowledgement after one cycle more. -/
theorem lastAck_snoc : lastAck (notes ++ [note]) = note.ack.or (lastAck notes) := by
  rw [lastAck, List.filterMap_append, List.getLast?_append]
  cases ack : note.ack <;> simp [lastAck, ack]

/-- The cycles without an acknowledgement after one cycle more. -/
theorem quietCycles_snoc :
    quietCycles (notes ++ [note]) = if note.ack.isSome then 0 else quietCycles notes + 1 := by
  rw [quietCycles, List.foldl_append]
  rfl

/-- The counted cycles after one cycle more. -/
theorem countedCycles_snoc :
    countedCycles (notes ++ [note]) =
      if note.ack.isSome then 0 else if note.resets then 1 else countedCycles notes + 1 := by
  rw [countedCycles, List.foldl_append]
  rfl

/-- Only cycles without an acknowledgement are counted. -/
theorem countedCycles_le (notes : List CycleNote) : countedCycles notes ≤ quietCycles notes := by
  induction notes using List.reverseRecOn with
  | nil => exact le_rfl
  | append_singleton earlier note previous =>
    rw [countedCycles_snoc, quietCycles_snoc]
    split
    · exact le_rfl
    · split
      · omega
      · omega

/-- The acknowledgements of a window are taken in its rounds. -/
theorem ackTimes_rounds {deadline : UInt32} {rounds : List Round} {s : State} {ack : Nat}
    (taken : ack ∈ ackTimes deadline rounds s) : ∃ round ∈ rounds, round.ackTime = ack := by
  induction rounds generalizing s with
  | nil => cases taken
  | cons round rest previous =>
    have later : ∀ {s : State}, ack ∈ ackTimes deadline rest s →
        ∃ other ∈ round :: rest, other.ackTime = ack := by
      intro s among
      have ⟨other, member, same⟩ := previous among
      exact ⟨other, List.mem_cons_of_mem _ member, same⟩
    rw [ackTimes] at taken
    split at taken
    · cases taken
    split at taken
    · cases taken
    split at taken
    · exact later taken
    · exact later taken
    · cases taken
    · cases taken
    · rcases List.mem_append.mp taken with here | among
      · refine ⟨round, List.mem_cons_self, ?_⟩
        split at here
        · exact (List.mem_singleton.mp here).symm
        · cases here
      · exact later among

/-- The last acknowledgement is no later than the last judgement. -/
theorem lastAck_le (inOrder : InOrder startTime cycles) {ack : Nat}
    (taken : lastAck (cycleNotes start cycles) = some ack) : ack ≤ lastTime startTime cycles := by
  induction cycles using List.reverseRecOn with
  | nil => cases taken
  | append_singleton before cycle previous =>
    rw [InOrder, each_snoc] at inOrder
    have last : lastTime startTime (before ++ [cycle]) = cycle.judgeTime := by simp [lastTime]
    rw [cycleNotes_snoc, lastAck_snoc] at taken
    rw [last]
    cases own : (cycleNote (run runLinkCycle start before) cycle).ack with
    | none =>
      rw [own, Option.none_or] at taken
      exact (previous inOrder.1 taken).trans inOrder.2.1
    | some time =>
      rw [own, Option.some_or] at taken
      have among := List.mem_of_getLast? own
      have ⟨round, member, same⟩ := ackTimes_rounds among
      have bound := (inOrder.2.2 round member).2
      have equal : time = ack := Option.some.inj taken
      omega

/-- The count and the reading say what has happened, as far as they can. -/
structure Reflects (notes : List CycleNote) (view : LinkView) : Prop where
  noAckCount : view.noAckCount.toNat = min 65535 (countedCycles notes)
  lastAckTimestampMs : view.lastAckTimestampMs = ((lastAck notes).map clockMs).getD 0
  initialized : view.initialized = true → notes ≠ []

/-- A start has nothing to say. -/
theorem boot_reflects (io : StateFile.LoadIo) (stateFile : Option (List UInt8)) :
    Reflects [] (linkView (boot io stateFile).data) := by
  have started : linkView (boot io stateFile).data = linkView initialState := by
    unfold boot loadState
    split <;> rfl
  rw [started]
  exact ⟨rfl, rfl, fun judged => by cases judged⟩

/-- A cycle keeps the count and the reading right. -/
theorem Reflects.judges (reflects : Reflects notes view) (judges : Judges view note time after) :
    Reflects (notes ++ [note]) after := by
  constructor
  · have count := reflects.noAckCount
    have full : (0xFFFF : UInt16).toNat = 65535 := rfl
    rw [judges.noAckCount, countedCycles_snoc]
    cases note.ack.isSome with
    | true => rfl
    | false =>
      cases note.resets with
      | true => rfl
      | false =>
        simp only [Bool.false_eq_true, if_false]
        split
        · rename_i room
          rw [UInt16.lt_iff_toNat_lt, full] at room
          rw [UInt16.toNat_add, UInt16.toNat_one]
          omega
        · rename_i room
          rw [UInt16.not_lt, UInt16.le_iff_toNat_le, full] at room
          omega
  · rw [judges.lastAckTimestampMs, reflects.lastAckTimestampMs, lastAck_snoc]
    cases note.ack <;> rfl
  · simp

/-- The count and the reading are right after every run. -/
theorem run_reflects (starts : Reflects [] (linkView start.data)) (cycles : List LinkCycle) :
    Reflects (cycleNotes start cycles) (linkView (run runLinkCycle start cycles).data) := by
  induction cycles using List.reverseRecOn with
  | nil => exact starts
  | append_singleton before cycle previous =>
    rw [cycleNotes_snoc, run_snoc]
    exact previous.judges (runLinkCycle_judges cycle)

/-- The link is disconnected when the reading exceeds another one that is not zero by more than the
timeout, and degraded by the count otherwise. -/
theorem judgedState_eq (now last : UInt32) (count : UInt16) :
    judgedState now last count =
      if last ≠ 0 ∧ last.toNat + 5000 < now.toNat then .disconnected
      else if 30 ≤ count.toNat then .degraded
      else .connected := by
  have timeout : linkTimeoutMs.toNat = 5000 := rfl
  have threshold : count ≥ linkLossThreshold ↔ 30 ≤ count.toNat := UInt16.le_iff_toNat_le
  have overdue : (if last = 0 then 0 else if now ≥ last then now - last else 0) > linkTimeoutMs ↔
      last ≠ 0 ∧ last.toNat + 5000 < now.toNat := by
    rw [gt_iff_lt, UInt32.lt_iff_toNat_lt, timeout]
    by_cases never : last = 0
    · rw [if_pos never]
      simp [never]
    rw [if_neg never]
    by_cases later : now ≥ last
    · have ordered : last.toNat ≤ now.toNat := UInt32.le_iff_toNat_le.mp later
      rw [if_pos later, UInt32.toNat_sub_of_le _ _ later]
      simp only [never, ne_eq, not_false_eq_true, true_and]
      omega
    · have before : now.toNat < last.toNat := UInt32.lt_iff_toNat_lt.mp (UInt32.not_le.mp later)
      rw [if_neg later]
      simp only [UInt32.toNat_zero, never, ne_eq, not_false_eq_true, true_and]
      omega
  simp only [judgedState, overdue, threshold]

/-- A clock that shows the timeout shows it after the timeout only. -/
theorem Overdue.silent (overdue : Overdue notes time)
    (ordered : ∀ ack, lastAck notes = some ack → ack ≤ time) : Silent startTime notes time := by
  have ⟨ack, taken, _, exceeds⟩ := overdue
  have passed : ack + 5001 ≤ time := Stopwatch.deadline_le (ordered ack taken) exceeds
  rw [Silent, taken, Option.getD_some]
  omega

/-- The link is judged as it is exactly when nothing hides a silence. -/
theorem linkState_eq_due (reflects : Reflects notes view)
    (ordered : ∀ ack, lastAck notes = some ack → ack ≤ time) :
    judgedState (clockMs time) view.lastAckTimestampMs view.noAckCount =
        dueLinkState startTime notes time ↔ Evident startTime notes time := by
  have shows : view.lastAckTimestampMs ≠ 0 ∧
      view.lastAckTimestampMs.toNat + 5000 < (clockMs time).toNat ↔ Overdue notes time := by
    rw [reflects.lastAckTimestampMs, Overdue]
    cases lastAck notes <;> simp
  have count := reflects.noAckCount
  have fewer := countedCycles_le notes
  have enough : 30 ≤ view.noAckCount.toNat ↔ 30 ≤ countedCycles notes := by omega
  rw [judgedState_eq, dueLinkState, Evident]
  by_cases silent : Silent startTime notes time
  · rw [if_pos silent, if_pos silent, ← shows]
    by_cases exceeds : view.lastAckTimestampMs ≠ 0 ∧
        view.lastAckTimestampMs.toNat + 5000 < (clockMs time).toNat
    · rw [if_pos exceeds]
      exact iff_of_true rfl exceeds
    · rw [if_neg exceeds]
      refine iff_of_false (fun same => ?_) exceeds
      split at same <;> cases same
  · have early : ¬ (view.lastAckTimestampMs ≠ 0 ∧
        view.lastAckTimestampMs.toNat + 5000 < (clockMs time).toNat) :=
      fun exceeds => silent ((shows.mp exceeds).silent ordered)
    rw [if_neg silent, if_neg silent, if_neg early]
    simp only [enough]
    by_cases counted : 30 ≤ countedCycles notes
    · have quiet : 30 ≤ quietCycles notes := counted.trans fewer
      simp [counted, quiet]
    · by_cases quiet : 30 ≤ quietCycles notes
      · simp [counted, quiet]
      · simp [counted, quiet]

/-! ## Runs -/

/-- A cycle of a run judges the link as it is exactly when nothing hides a silence. -/
theorem judgedRightly_iff (starts : Reflects [] (linkView start.data))
    (inOrder : InOrder startTime (before ++ [cycle])) :
    JudgedRightly startTime start before cycle ↔
      Evident startTime (cycleNotes start (before ++ [cycle])) cycle.judgeTime := by
  have last : lastTime startTime (before ++ [cycle]) = cycle.judgeTime := by simp [lastTime]
  have ordered : ∀ ack, lastAck (cycleNotes start (before ++ [cycle])) = some ack →
      ack ≤ cycle.judgeTime := by
    intro ack taken
    rw [← last]
    exact lastAck_le inOrder taken
  have reflects := run_reflects starts (before ++ [cycle])
  have judges := @runLinkCycle_judges (run runLinkCycle start before) cycle
  rw [← run_snoc runLinkCycle start before cycle] at judges
  have state : (run runLinkCycle start (before ++ [cycle])).data.linkState =
      judgedState (clockMs cycle.judgeTime)
        (linkView (run runLinkCycle start (before ++ [cycle])).data).lastAckTimestampMs
        (linkView (run runLinkCycle start (before ++ [cycle])).data).noAckCount :=
    judges.linkState
  rw [JudgedRightly, state]
  exact linkState_eq_due reflects ordered

/-- A link that is judged as it is, cycle by cycle, is restored by an acknowledgement only. -/
theorem restored_acknowledged (starts : Reflects [] (linkView start.data))
    (inOrder : InOrder startTime (before ++ [cycle]))
    (state : Each (JudgedRightly startTime start) (before ++ [cycle]))
    (restored : (linkView (run runLinkCycle start (before ++ [cycle])).data).restored ≠
      (linkView (run runLinkCycle start before).data).restored) :
    (cycleNote (run runLinkCycle start before) cycle).ack.isSome := by
  have judges := @runLinkCycle_judges (run runLinkCycle start before) cycle
  rw [← run_snoc runLinkCycle start before cycle] at judges
  have ⟨initialized, apart, connected⟩ := judges.restored.resolve_left restored
  have judged := (run_reflects starts before).initialized initialized
  rcases List.eq_nil_or_concat before with rfl | ⟨earlier, last, rfl⟩
  · exact absurd rfl judged
  rw [List.concat_eq_append] at *
  rw [each_snoc, each_snoc] at state
  rw [InOrder, each_snoc] at inOrder
  have lastly : lastTime startTime (earlier ++ [last]) = last.judgeTime := by simp [lastTime]
  have later : last.judgeTime ≤ cycle.judgeTime := lastly ▸ inOrder.2.1
  have was : dueLinkState startTime (cycleNotes start (earlier ++ [last])) last.judgeTime ≠
      .connected := state.1.2 ▸ apart
  have is : dueLinkState startTime (cycleNotes start (earlier ++ [last] ++ [cycle]))
      cycle.judgeTime = .connected := state.2.symm.trans connected
  by_contra unacknowledged
  rw [cycleNotes_snoc] at is
  generalize cycleNotes start (earlier ++ [last]) = notes at was is
  generalize cycleNote (run runLinkCycle start (earlier ++ [last])) cycle = note at *
  have unanswered : note.ack = none := by simpa using unacknowledged
  have heard : ¬ Silent startTime (notes ++ [note]) cycle.judgeTime := by
    intro silent
    rw [dueLinkState, if_pos silent] at is
    cases is
  rw [dueLinkState, if_neg heard] at is
  have few : ¬ 30 ≤ quietCycles (notes ++ [note]) := by
    intro quiet
    rw [if_pos quiet] at is
    cases is
  have more : quietCycles (notes ++ [note]) = quietCycles notes + 1 := by
    simp [quietCycles_snoc, unanswered]
  have heardBefore : ¬ Silent startTime notes last.judgeTime := by
    simp only [Silent, lastAck_snoc, unanswered, Option.none_or] at heard ⊢
    omega
  have fewBefore : ¬ 30 ≤ quietCycles notes := by omega
  rw [dueLinkState, if_neg heardBefore, if_neg fewBefore] at was
  exact was rfl

/-- A cycle of an application whose port does not open. -/
def closedCycle (time : Nat) : LinkCycle where
  deliveries := []
  reopenMs := clockMs time
  opens := false
  tx := ⟨true, none⟩
  entry := time
  rounds := [⟨time, .nothing, time, true⟩]
  judgeTime := time

/-- In every run whose times are in order, the law of the link holds exactly when nothing hides a
silence in any cycle. A silence is hidden when nothing was acknowledged before it, when the clock
wraps in it, or when the counters are reset. -/
theorem linkLaw_iff (io : StateFile.LoadIo) (stateFile : Option (List UInt8)) (startTime : Nat)
    (cycles : List LinkCycle) (inOrder : InOrder startTime cycles) :
    LinkLaw startTime (boot io stateFile) cycles ↔
      Each (fun before cycle => Evident startTime
        (cycleNotes (boot io stateFile) (before ++ [cycle])) cycle.judgeTime) cycles := by
  have starts := boot_reflects io stateFile
  generalize boot io stateFile = start at starts
  have each : ∀ before cycle after, cycles = before ++ cycle :: after →
      (JudgedRightly startTime start before cycle ↔
        Evident startTime (cycleNotes start (before ++ [cycle])) cycle.judgeTime) := by
    intro before cycle after place
    have regroup : cycles = (before ++ [cycle]) ++ after := by simp [place]
    rw [regroup] at inOrder
    exact judgedRightly_iff starts inOrder.upTo
  constructor
  · intro law before cycle after place
    exact (each before cycle after place).mp (law.state before cycle after place)
  · intro evident
    have state : Each (JudgedRightly startTime start) cycles := by
      intro before cycle after place
      exact (each before cycle after place).mpr (evident before cycle after place)
    refine ⟨state, ?_⟩
    intro before cycle after place restored
    have regroup : cycles = (before ++ [cycle]) ++ after := by simp [place]
    rw [regroup] at inOrder state
    exact restored_acknowledged starts inOrder.upTo state.upTo restored

/-- The first cycle of an application whose port does not open judges the link as it is. -/
theorem linkLaw_closedCycle : LinkLaw 0 (boot .read none) [closedCycle 1000] := by
  refine (linkLaw_iff .read none 0 [closedCycle 1000] ?_).mpr ?_
  · rw [InOrder, ← List.nil_append [closedCycle 1000], each_snoc]
    exact ⟨each_nil, by decide⟩
  · rw [← List.nil_append [closedCycle 1000], each_snoc]
    refine ⟨each_nil, ?_⟩
    rw [Evident, if_neg (by decide +kernel)]
    decide +kernel

/-- A link without an acknowledgement since the start is not disconnected after six seconds. -/
theorem closedPort_not_disconnected :
    ¬ LinkLaw 0 (boot .read none) ([1000, 2000, 3000, 4000, 5000, 6000].map closedCycle) := by
  intro law
  have last := law.state ([1000, 2000, 3000, 4000, 5000].map closedCycle) (closedCycle 6000) [] rfl
  have wrong : ¬ JudgedRightly 0 (boot .read none)
      ([1000, 2000, 3000, 4000, 5000].map closedCycle) (closedCycle 6000) := by
    unfold JudgedRightly
    decide +kernel
  exact wrong last

end

end CfsTelemetry.Lora
