import CfsTelemetry.Bridge.Additions

/-!
# The item to resume at

The item with which the vehicle resumes after an upload is marked when it is sent. An edit keeps
the mark at the waypoint it was at, and each `MISSION_CURRENT` of the flight controller moves it
to the item announced, also while the upload is under way.
-/
namespace CfsTelemetry.Bridge

open Slots Run

/-- An item that is marked as the current one. -/
def TxFrame.flagged (frame : TxFrame) : Bool :=
  (frame.kind = .missionItemInt ∨ frame.kind = .missionItem) ∧ itemCurrent frame.payload

/-- The current item that an input announces. -/
def announced : Input → Option Nat
  | .frame frame _ _ => (announcedCurrent frame).map UInt8.toNat
  | _ => none

/-- The current item announced last, or a default before the first announcement. -/
def lastAnnounced (default : Nat) (inputs : List Input) : Nat :=
  inputs.foldl (fun index input => (announced input).getD index) default

/-- An input that is no route update. -/
def Input.noUpdate : Input → Bool
  | .routeUpdate _ _ => false
  | _ => true

/-- Of the items sent, exactly the one at an index is marked, in the format that has a mark. -/
def FlagsOnly (mark : Nat) (frames : List TxFrame) : Prop :=
  ∀ frame ∈ frames, frame.flagged = true ↔
    frame.kind = .missionItemInt ∧ (itemSeq frame.payload).toNat = mark

/-- Where the waypoint to resume at stands after an edit. -/
structure StandsAt (edit : Edit Waypoint) (before after : List Waypoint) (resume place : Nat) :
    Prop where
  shift : place = resume ∨ (place = resume - 1 ∧ ∃ index < resume, edit = .delete index)
  item : after[place]? = before[resume]? ∨ ∃ item, edit = .modify resume item

/-- The answer to a request is marked exactly when it is the item to resume at. -/
theorem itemFrame_flagged (request : RxFrame) (s : State) :
    (itemFrame request s).flagged = true ↔
      (itemFrame request s).kind = .missionItemInt ∧
        (itemSeq (itemFrame request s).payload).toNat = s.activeResumeIndex.toNat := by
  unfold itemFrame
  dsimp only
  split
  · rw [itemSeq_missionItemInt, TxFrame.flagged]
    dsimp only
    rw [itemCurrent_missionItemInt]
    generalize (readU16LE request.payload 0).toUInt8 = index
    have wide : index.toUInt16.toNat = index.toNat := rfl
    rw [wide]
    constructor
    · intro flagged
      obtain ⟨-, same⟩ := of_decide_eq_true flagged
      exact ⟨rfl, congrArg UInt8.toNat (eq_of_beq same)⟩
    · rintro ⟨-, same⟩
      have equal : index = s.activeResumeIndex := UInt8.toNat_inj.mp same
      rw [equal, beq_self_eq_true]
      rfl
  · rw [TxFrame.flagged]
    dsimp only
    rw [itemCurrent_missionItem]
    constructor
    · intro flagged
      obtain ⟨-, impossible⟩ := of_decide_eq_true flagged
      cases impossible
    · rintro ⟨impossible, -⟩
      exact absurd impossible (by decide)

/-- The items of a step are marked by the index to resume at. -/
theorem step_flagsOnly {s : State} (inRange : InRange s) (input : Input) :
    FlagsOnly s.activeResumeIndex.toNat (sentFrames s (step s input)) := by
  obtain ⟨frames, moves, carries⟩ := step_moves inRange input
  rw [moves.emits.sentFrames]
  intro frame sent
  have count : ∀ seq, (countFrame seq s).flagged = true ↔
      (countFrame seq s).kind = .missionItemInt ∧
        (itemSeq (countFrame seq s).payload).toNat = s.activeResumeIndex.toNat := by
    intro seq
    have noItem : MessageKind.missionCount ≠ .missionItemInt := by decide
    have noLegacy : MessageKind.missionCount ≠ .missionItem := by decide
    apply iff_of_false
    · intro flagged
      obtain ⟨item | legacy, -⟩ := of_decide_eq_true flagged
      · exact noItem item
      · exact noLegacy legacy
    · rintro ⟨item, -⟩
      exact noItem item
  cases input with
  | checkUpload nowMs env =>
    simp only [Carries] at carries
    split at carries
    · rcases carries with none | ⟨seq, one⟩
      · rw [none] at sent
        cases sent
      · rw [one, List.mem_singleton] at sent
        rw [sent]
        exact count seq
    · rw [carries] at sent
      cases sent
  | frame request rxTimestampMs env =>
    rw [show frames = frameTx request env s from carries, frameTx] at sent
    split at sent
    · split at sent
      · rw [List.mem_singleton] at sent
        rw [sent]
        exact itemFrame_flagged request s
      · cases sent
    · cases sent
  | _ =>
    rw [show frames = [] from carries] at sent
    cases sent

/-- What an input other than a route update announces is the index to resume at after it. -/
theorem step_resume {s : State} (inRange : InRange s) {input : Input}
    (other : input.noUpdate = true) :
    (step s input).activeResumeIndex.toNat =
      (announced input).getD s.activeResumeIndex.toNat := by
  obtain ⟨frames, moves, -⟩ := step_moves inRange input
  have mark : (step s input).activeResumeIndex.toNat =
      ((plan s).step (uploadAction s input)).mark := congrArg Transfer.mark moves.plan
  rw [mark]
  cases input with
  | routeUpdate msg env => cases other
  | checkUpload nowMs env =>
    show ((plan s).step (checkAction nowMs s)).mark = _
    unfold checkAction
    repeat' split
    all_goals rfl
  | frame frame rxTimestampMs env =>
    show ((plan s).step (frameAction frame s)).mark =
      ((announcedCurrent frame).map UInt8.toNat).getD s.activeResumeIndex.toNat
    cases said : announcedCurrent frame with
    | some current =>
      obtain ⟨unasked, unacknowledged⟩ := others_of_announced said
      rw [frameAction, unasked, unacknowledged, said]
      rfl
    | none =>
      unfold frameAction
      rw [said]
      repeat' split
      all_goals first | rfl | contradiction
  | _ => rfl

/-! ## Runs -/

/-- The index to resume at is the one announced last. -/
theorem run_resume {s : State} (inRange : InRange s) {inputs : List Input}
    (alone : ∀ input ∈ inputs, input.noUpdate = true) :
    (run step s inputs).activeResumeIndex.toNat =
      lastAnnounced s.activeResumeIndex.toNat inputs := by
  induction inputs using List.reverseRecOn with
  | nil => rfl
  | append_singleton before input previous =>
    have earlier := previous fun other among => alone other (List.mem_append_left _ among)
    have other := alone input (by simp)
    rw [run_snoc, step_resume (run_inRange inRange before) other, earlier, lastAnnounced,
      lastAnnounced, List.foldl_append]
    rfl

/-- A started edit moves the mark with its waypoint. -/
theorem standsAt_place {s : State} (inRange : InRange s) {msg : RouteUpdate}
    (starts : startsUpload msg s = true) (edits : routeOp msg.routeType ≠ .replace)
    (inside : s.activeResumeIndex < s.activeWaypointCount) :
    StandsAt (routeEdit msg s) (activeList s) ((routeEdit msg s).apply (activeList s))
      s.activeResumeIndex.toNat ((routeEdit msg s).place s.activeResumeIndex.toNat) := by
  obtain ⟨-, -, accepted⟩ := of_decide_eq_true starts
  have within : s.activeResumeIndex.toNat < (activeList s).length := by
    rw [activeList, length_held inRange.active]
    exact UInt8.lt_iff_toNat_lt.mp inside
  have keeps := fun keeps => Edit.getElem?_apply_place (routeEdit msg s) within keeps
  unfold routeEdit at keeps ⊢
  unfold acceptsEdit at accepted
  cases op : routeOp msg.routeType with
  | replace => exact absurd op edits
  | add =>
    rw [op] at keeps
    exact ⟨.inl rfl, .inl (keeps trivial)⟩
  | delete =>
    rw [op] at keeps accepted
    obtain ⟨-, other⟩ := of_decide_eq_true accepted
    have apart : msg.waypointCount.toNat ≠ s.activeResumeIndex.toNat := by
      intro same
      exact other (UInt8.toNat_inj.mp same)
    refine ⟨?_, .inl (keeps apart)⟩
    by_cases earlier : msg.waypointCount.toNat < s.activeResumeIndex.toNat
    · exact .inr ⟨if_pos earlier, _, earlier, rfl⟩
    · exact .inl (if_neg earlier)
  | modify =>
    rw [op] at keeps
    refine ⟨.inl rfl, ?_⟩
    by_cases target : msg.waypointCount.toNat = s.activeResumeIndex.toNat
    · exact .inr ⟨_, by rw [target]⟩
    · exact .inl (keeps target)

/-- While an edited mission is uploaded, exactly the item announced last is marked, and before an
announcement the one to resume at, which stands where the edit moved it. -/
theorem flag_follows (config : ConfigParams) (earlier inputs : List Input) {s : State}
    (reached : run step (initialState config) earlier = s) (msg : RouteUpdate) (env : Env)
    (starts : startsUpload msg s = true) (edits : routeOp msg.routeType ≠ .replace)
    (inside : s.activeResumeIndex < s.activeWaypointCount)
    (alone : ∀ input ∈ inputs, input.noUpdate = true) :
    StandsAt (routeEdit msg s) (activeList s) (pendingList (step s (.routeUpdate msg env)))
        s.activeResumeIndex.toNat ((routeEdit msg s).place s.activeResumeIndex.toNat) ∧
      Each (fun before input =>
        FlagsOnly (lastAnnounced ((routeEdit msg s).place s.activeResumeIndex.toNat) before)
          (sentFrames (run step (step s (.routeUpdate msg env)) before)
            (step (run step (step s (.routeUpdate msg env)) before) input))) inputs := by
  have inRange : InRange s := by
    rw [← reached]
    exact run_inRange (initialState_inRange config) earlier
  obtain ⟨frames, moves, -⟩ := step_moves inRange (.routeUpdate msg env)
  have action : uploadAction s (.routeUpdate msg env) = .start (routeEdit msg s) := if_pos starts
  have moved := moves.plan
  rw [action] at moved
  have pending : pendingList (step s (.routeUpdate msg env)) =
      (routeEdit msg s).apply (activeList s) := congrArg Transfer.pending moved
  have resume : (step s (.routeUpdate msg env)).activeResumeIndex.toNat =
      (routeEdit msg s).place s.activeResumeIndex.toNat := congrArg Transfer.mark moved
  constructor
  · rw [pending]
    exact standsAt_place inRange starts edits inside
  · intro before input after place
    have alone' : ∀ other ∈ before, other.noUpdate = true :=
      fun other among => alone other (by simp [place, among])
    have follows := step_flagsOnly (run_inRange moves.inRange before) input
    rw [run_resume moves.inRange alone', resume] at follows
    exact follows

/-- Two waypoints are uploaded and read back, and the flight controller is at the second. -/
def survey : List Input :=
  connection ++ firstAddition ++ firstReadback ++ secondAddition ++
    [received .missionCount [2, 0, 255, 190, 0] 2740,
      received .missionItemInt (missionItemIntPayload 255 190 surveyWaypoints.1 0 false) 2750,
      received .missionItemInt (missionItemIntPayload 255 190 surveyWaypoints.2 1 false) 2760,
      received .missionCurrent [1, 0] 2770]

/-- The update that moves the first waypoint of the survey. -/
def surveyEdit : RouteUpdate where
  seq := 0
  timestampMs := 3000
  sourceSequence := 0
  routeType := 4
  routeVersion := 0
  waypointCount := 0
  waypoints := WaypointArray.zero.set 0 ⟨16, 0, 0, 0, 0, 370000500, 1270000500, 0x41F00000⟩

/-- The uploaded edit is requested after the flight controller announced its first item. -/
def surveyReset : List Input :=
  [.checkUpload 3300 (Env.at 3300), received .missionCurrent [0, 0] 3310]

/-- The edited survey resumes at its second waypoint while nothing else is announced. -/
theorem flag_follows_survey :
    FlagsOnly 1 (sentFrames
      (run step (step (run step (initialState .default) survey)
        (.routeUpdate surveyEdit (Env.at 3000))) [.checkUpload 3300 (Env.at 3300)])
      (step (run step (step (run step (initialState .default) survey)
        (.routeUpdate surveyEdit (Env.at 3000))) [.checkUpload 3300 (Env.at 3300)])
        (received .missionRequestInt [1, 0, 255, 190, 0] 3320))) := by
  have follows := flag_follows .default survey
    [.checkUpload 3300 (Env.at 3300), received .missionRequestInt [1, 0, 255, 190, 0] 3320] rfl
    surveyEdit (Env.at 3000) (by decide +kernel) (by decide +kernel) (by decide +kernel)
    (by decide +kernel)
  have second := follows.2 [.checkUpload 3300 (Env.at 3300)] _ [] rfl
  have place : lastAnnounced ((routeEdit surveyEdit (run step (initialState .default) survey)).place
      (run step (initialState .default) survey).activeResumeIndex.toNat)
      [.checkUpload 3300 (Env.at 3300)] = 1 := by decide +kernel
  beta_reduce at second
  rw [place] at second
  exact second

/-- An announcement after the clearing marks another item than the one to resume at. -/
theorem flag_moved :
    ¬ ∀ config earlier inputs s, run step (initialState config) earlier = s → ∀ msg env,
      startsUpload msg s = true → routeOp msg.routeType ≠ .replace →
      s.activeResumeIndex < s.activeWaypointCount →
      (∀ input ∈ inputs, input.noUpdate = true) →
      Each (fun before input => ∀ frame ∈
        sentFrames (run step (step s (.routeUpdate msg env)) before)
          (step (run step (step s (.routeUpdate msg env)) before) input),
        frame.flagged = true → (itemSeq frame.payload).toNat =
          (routeEdit msg s).place s.activeResumeIndex.toNat) inputs := by
  intro stays
  have first := stays .default survey
    (surveyReset ++ [received .missionRequestInt [0, 0, 255, 190, 0] 3320]) _ rfl surveyEdit
    (Env.at 3000) (by decide +kernel) (by decide +kernel) (by decide +kernel) (by decide +kernel)
    surveyReset _ [] rfl
  revert first
  decide +kernel

end CfsTelemetry.Bridge
