import CfsTelemetry.Bridge.Resume

/-!
# Uploads that come to nothing

An upload that is not accepted leaves the active waypoints alone, whatever ends it: they are
written by the commit only. The index to resume at is not written by the commit. A deletion
before it moves it when the upload starts, and the index stays moved when the upload comes to
nothing.
-/
namespace CfsTelemetry.Bridge

open Slots Run

/-- The number of active waypoints with all their entries. -/
def activeArray (s : State) : UInt8 × WaypointArray := (s.activeWaypointCount, s.activeWaypoints)

/-- An input after which an upload goes on or has come to nothing: no other update starts, and no
acknowledgement accepts. -/
def Spares (s : State) (input : Input) : Prop :=
  takenUp s input = false ∧ ¬ TakesAck s input

/-- What edits start from is as before, but for the current items announced since. -/
structure Restores (s s' : State) (since : List Input) : Prop where
  count : s'.activeWaypointCount = s.activeWaypointCount
  waypoints : s'.activeWaypoints = s.activeWaypoints
  resume : s'.activeResumeIndex.toNat = lastAnnounced s.activeResumeIndex.toNat since

/-- Whether a route update starts the upload of a deletion before the waypoint to resume at. -/
def shiftsResume (msg : RouteUpdate) (s : State) : Bool :=
  startsUpload msg s ∧ routeOp msg.routeType = .delete ∧ msg.waypointCount < s.activeResumeIndex

/-- Whether a current item was announced among the inputs. -/
def heardCurrent (inputs : List Input) : Bool := inputs.any fun input => (announced input).isSome

/-- The active waypoints depend on the view only. -/
theorem activeArray_of_view {s s' : State} (view : uploadView s' = uploadView s) :
    activeArray s' = activeArray s := by
  have count : s'.activeWaypointCount = s.activeWaypointCount :=
    congrArg UploadView.activeCount view
  have waypoints : s'.activeWaypoints = s.activeWaypoints :=
    congrArg UploadView.activeWaypoints view
  simp only [activeArray, count, waypoints]

/-- A route update leaves the active waypoints alone. -/
theorem startMissionUpload_activeArray {s : State} (inRange : InRange s) (env : Env)
    (msg : RouteUpdate) : activeArray (startMissionUpload env msg s) = activeArray s := by
  by_cases starts : startsUpload msg s = true
  · obtain ⟨text, newCount, built, builds, begins⟩ := startMissionUpload_begins inRange env starts
    have kept : activeArray built = activeArray s := by
      rw [builds.same]
      rfl
    have view := sendMavlinkV2_view .missionClearAll
      [built.targetSystemId, built.targetComponentId, missionTypeMission] (env.tx 0)
      { built with
        missionUploadWpCount := newCount
        missionUploadState := .clearing
        missionUploadRetry := 0
        missionUploadTimeoutMs := env.timeMs + missionClearDelayMs }
    rw [begins]
    exact (activeArray_of_view view).trans kept
  · have ignored : startsUpload msg s = false := by simpa using starts
    exact activeArray_of_view (startMissionUpload_silent env ignored).view

/-- The timeout of the upload leaves the active waypoints alone. -/
theorem checkMissionUploadTimeout_activeArray (nowMs : UInt32) (env : Env) (s : State) :
    activeArray (checkMissionUploadTimeout nowMs env s) = activeArray s := by
  have sent := fun kind payload fault s =>
    activeArray_of_view (sendMavlinkV2_view kind payload fault s)
  have announces : activeArray (announceMission nowMs env s) = activeArray s := sent _ _ _ _
  have retries : activeArray (retryUpload nowMs env s) = activeArray s :=
    (sent _ _ _ _).trans (sent _ _ _ _)
  unfold checkMissionUploadTimeout
  cases s.missionUploadState with
  | idle => rfl
  | clearing =>
    dsimp only
    split
    · exact announces
    · rfl
  | active =>
    dsimp only
    split
    · split
      · exact retries
      · rfl
    · rfl

/-- A request for an item leaves the active waypoints alone. -/
theorem handleMissionRequestInt_activeArray (env : Env) (frame : RxFrame)
    (rxTimestampMs : UInt32) (s : State) :
    activeArray (handleMissionRequestInt env frame rxTimestampMs s) = activeArray s := by
  have sent : ∀ s' : State, activeArray (sendMissionItemInt (readU16LE frame.payload 0).toUInt8
      (env.tx 0) s') = activeArray s' :=
    fun s' => activeArray_of_view (sendMavlinkV2_view _ _ _ _)
  unfold handleMissionRequestInt
  split
  · split
    · rw [sent]
      simp only [activeArray, awaitRequest]
    · rfl
  · rfl

/-- A legacy request for an item leaves the active waypoints alone. -/
theorem handleMissionRequest_activeArray (env : Env) (frame : RxFrame)
    (rxTimestampMs : UInt32) (s : State) :
    activeArray (handleMissionRequest env frame rxTimestampMs s) = activeArray s := by
  have sent : ∀ s' : State, activeArray (sendMissionItem (readU16LE frame.payload 0).toUInt8
      (env.tx 0) s') = activeArray s' :=
    fun s' => activeArray_of_view (sendMavlinkV2_view _ _ _ _)
  unfold handleMissionRequest
  dsimp only
  split
  · split
    · rw [sent]
      simp only [activeArray, awaitRequest, sendEvent]
    · rfl
  · rfl

/-- An acknowledgement that does not accept an upload leaves the active waypoints alone. -/
theorem handleMissionAck_activeArray (env : Env) {frame : RxFrame}
    (own : frame.msgId = MessageKind.missionAck.id) (rxTimestampMs : UInt32) {s : State}
    (unaccepted : ¬ TakesAck s (.frame frame rxTimestampMs env)) :
    activeArray (handleMissionAck env frame rxTimestampMs s) = activeArray s := by
  unfold handleMissionAck
  by_cases valid : frame.checks .missionAck = true ∧ frame.payloadLen ≥ 2
  · rw [if_pos valid]
    by_cases active : s.missionUploadState = .active
    · have refuses : ackResult frame ≠ missionAccepted := by
        intro accepts
        have acknowledged : acknowledgedResult frame = some (ackResult frame) :=
          if_pos (decide_eq_true ⟨own, valid⟩)
        rw [accepts] at acknowledged
        exact unaccepted ⟨frame, rxTimestampMs, env, rfl, acknowledged, active⟩
      rw [if_pos active, if_neg refuses]
      rfl
    · rw [if_neg active]
  · rw [if_neg valid]
    rfl

/-- The current item leaves the active waypoints alone. -/
theorem handleMissionCurrent_activeArray (env : Env) (frame : RxFrame) (rxTimestampMs : UInt32)
    (s : State) : activeArray (handleMissionCurrent env frame rxTimestampMs s) = activeArray s := by
  have noted : activeArray (noteReceived env rxTimestampMs s) = activeArray s :=
    activeArray_of_view (noteReceived_silent env rxTimestampMs s).view
  unfold handleMissionCurrent
  split
  · show activeArray (noteReceived env rxTimestampMs s) = activeArray s
    exact noted
  · rfl

/-- A frame that does not accept leaves the active waypoints alone. -/
theorem handleFrameComplete_activeArray (env : Env) {frame : RxFrame} (rxTimestampMs : UInt32)
    {s : State} (unaccepted : ¬ TakesAck s (.frame frame rxTimestampMs env)) :
    activeArray (handleFrameComplete env frame rxTimestampMs s) = activeArray s := by
  by_cases concerns : frame.concernsUpload
  · have handled := handleFrameComplete_concerned env frame rxTimestampMs s
    rcases concerns with own | own | own | own
    · rw [handled.missionRequestInt own]
      exact handleMissionRequestInt_activeArray env frame rxTimestampMs s
    · rw [handled.missionRequest own]
      exact handleMissionRequest_activeArray env frame rxTimestampMs s
    · rw [handled.missionAck own]
      exact handleMissionAck_activeArray env own rxTimestampMs unaccepted
    · rw [handled.missionCurrent own]
      exact handleMissionCurrent_activeArray env frame rxTimestampMs s
  · exact activeArray_of_view (handleFrameComplete_silent env rxTimestampMs s concerns).view

/-- The active waypoints are written by the commit of an accepted upload only. -/
theorem step_activeArray {s : State} (inRange : InRange s) {input : Input}
    (unaccepted : ¬ TakesAck s input) : activeArray (step s input) = activeArray s := by
  cases input with
  | routeUpdate msg env => exact startMissionUpload_activeArray inRange env msg
  | checkUpload nowMs env => exact checkMissionUploadTimeout_activeArray nowMs env s
  | frame frame rxTimestampMs env =>
    exact handleFrameComplete_activeArray env rxTimestampMs unaccepted
  | _ => exact activeArray_of_view (step_silent s rfl).view

/-- What an input announces that starts no upload is the index to resume at after it. -/
theorem Spares.resume {s : State} (inRange : InRange s) {input : Input}
    (spares : Spares s input) :
    (step s input).activeResumeIndex.toNat =
      (announced input).getD s.activeResumeIndex.toNat := by
  cases input with
  | routeUpdate msg env =>
    have silent := startMissionUpload_silent env spares.1
    exact congrArg (fun view => view.resume.toNat) silent.view
  | _ => exact step_resume inRange rfl

/-- The current item announced last is the same for two defaults exactly when these are the same
or an item was announced. -/
theorem lastAnnounced_inj {first second : Nat} {inputs : List Input} :
    lastAnnounced first inputs = lastAnnounced second inputs ↔
      first = second ∨ heardCurrent inputs = true := by
  induction inputs generalizing first second with
  | nil => simp [lastAnnounced, heardCurrent]
  | cons input rest later =>
    have next : ∀ default, lastAnnounced default (input :: rest) =
        lastAnnounced ((announced input).getD default) rest := fun _ => rfl
    have heard : heardCurrent (input :: rest) = ((announced input).isSome || heardCurrent rest) :=
      rfl
    rw [next, next, later, heard]
    cases announced input with
    | none => simp
    | some index => simp

/-- A started edit leaves the index to resume at where it is unless it deletes a waypoint before
it. -/
theorem place_eq_iff {s : State} {msg : RouteUpdate} (starts : startsUpload msg s = true) :
    (routeEdit msg s).place s.activeResumeIndex.toNat = s.activeResumeIndex.toNat ↔
      shiftsResume msg s = false := by
  unfold shiftsResume routeEdit
  rw [starts]
  cases op : routeOp msg.routeType with
  | replace => simp [Edit.place]
  | add => simp [Edit.place]
  | modify => simp [Edit.place]
  | delete =>
    by_cases earlier : msg.waypointCount.toNat < s.activeResumeIndex.toNat
    · have before : msg.waypointCount < s.activeResumeIndex := UInt8.lt_iff_toNat_lt.mpr earlier
      simp only [Edit.place, if_pos earlier, before]
      constructor
      · intro same
        omega
      · intro impossible
        cases impossible
    · have notBefore : ¬ msg.waypointCount < s.activeResumeIndex := by
        rwa [UInt8.lt_iff_toNat_lt]
      simp [Edit.place, if_neg earlier, notBefore]

/-- The index to resume at after a route update is the one before it, unless the update starts a
deletion before it. -/
theorem startMissionUpload_resume {s : State} (inRange : InRange s) (msg : RouteUpdate)
    (env : Env) :
    (step s (.routeUpdate msg env)).activeResumeIndex.toNat = s.activeResumeIndex.toNat ↔
      shiftsResume msg s = false := by
  by_cases starts : startsUpload msg s = true
  · have moves := startMissionUpload_starts inRange env starts
    have mark : (step s (.routeUpdate msg env)).activeResumeIndex.toNat =
        (routeEdit msg s).place s.activeResumeIndex.toNat := congrArg Transfer.mark moves.plan
    rw [mark]
    exact place_eq_iff starts
  · have ignored : startsUpload msg s = false := by simpa using starts
    have silent := startMissionUpload_silent env ignored
    have same : (step s (.routeUpdate msg env)).activeResumeIndex = s.activeResumeIndex :=
      congrArg UploadView.resume silent.view
    simp [same, shiftsResume, ignored]

/-! ## Runs -/

/-- Inputs that spare the upload leave the active waypoints alone, and the index to resume at to
the announcements. -/
theorem run_spares {s : State} (inRange : InRange s) {inputs : List Input}
    (spares : Each (fun before input => Spares (run step s before) input) inputs) :
    activeArray (run step s inputs) = activeArray s ∧
      (run step s inputs).activeResumeIndex.toNat =
        lastAnnounced s.activeResumeIndex.toNat inputs := by
  induction inputs using List.reverseRecOn with
  | nil => exact ⟨rfl, rfl⟩
  | append_singleton before input previous =>
    rw [each_snoc] at spares
    obtain ⟨array, resume⟩ := previous spares.1
    have inRange' := run_inRange inRange before
    rw [run_snoc, step_activeArray inRange' spares.2.2, spares.2.resume inRange', array, resume,
      lastAnnounced, lastAnnounced, List.foldl_append]
    exact ⟨rfl, rfl⟩

/-- After a route update whose upload is not accepted, what edits start from is as before, but for
the current items announced, exactly when the update did not start a deletion before the waypoint to
resume at, or an item was announced since. A deletion moves that index before its upload, and a
refusal does not move it back. -/
theorem abort_restores_iff (config : ConfigParams) (earlier inputs : List Input) {s : State}
    (reached : run step (initialState config) earlier = s) (msg : RouteUpdate) (env : Env)
    (spares : Each (fun before input =>
      Spares (run step (step s (.routeUpdate msg env)) before) input) inputs) :
    Restores s (run step (step s (.routeUpdate msg env)) inputs) inputs ↔
      (shiftsResume msg s = false ∨ heardCurrent inputs = true) := by
  have inRange : InRange s := by
    rw [← reached]
    exact run_inRange (initialState_inRange config) earlier
  obtain ⟨frames, moves, -⟩ := step_moves inRange (.routeUpdate msg env)
  obtain ⟨array, resume⟩ := run_spares moves.inRange spares
  have update : activeArray (step s (.routeUpdate msg env)) = activeArray s :=
    startMissionUpload_activeArray inRange env msg
  rw [update] at array
  rw [← startMissionUpload_resume inRange msg env, ← lastAnnounced_inj, ← resume]
  constructor
  · exact Restores.resume
  · exact fun same => ⟨congrArg Prod.fst array, congrArg Prod.snd array, same⟩

/-- What the bridge does about an update during an upload can be computed. -/
instance (s : State) (input : Input) : Decidable (Spares s input) :=
  inferInstanceAs (Decidable (_ ∧ _))

/-- The upload of an update is announced and refused by the flight controller. -/
def refusal : List Input :=
  [.checkUpload 3300 (Env.at 3300), received .missionAck [255, 190, 1, 0] 3310]

/-- A refused change of the first waypoint of the survey leaves what edits start from. -/
theorem abort_restores_survey :
    Restores (run step (initialState .default) survey)
      (run step (step (run step (initialState .default) survey)
        (.routeUpdate surveyEdit (Env.at 3000))) refusal) refusal := by
  have sound : ∀ (s : State) (input : Input), decide (Spares s input) = true → Spares s input :=
    fun s input passed => of_decide_eq_true passed
  exact (abort_restores_iff .default survey refusal rfl surveyEdit (Env.at 3000)
    (each_of_checks sound _ _ (by decide +kernel))).mpr (.inl (by decide +kernel))

/-- The refused deletion of the first waypoint of the survey leaves the index to resume at moved. -/
theorem abort_shifts :
    ¬ ∀ config earlier inputs s, run step (initialState config) earlier = s → ∀ msg env,
      Each (fun before input =>
        Spares (run step (step s (.routeUpdate msg env)) before) input) inputs →
      (run step (step s (.routeUpdate msg env)) inputs).missionUploadState = .idle →
      Restores s (run step (step s (.routeUpdate msg env)) inputs) inputs := by
  intro restores
  have sound : ∀ (s : State) (input : Input), decide (Spares s input) = true → Spares s input :=
    fun s input passed => of_decide_eq_true passed
  have kept := restores .default survey refusal _ rfl { surveyEdit with routeType := 3 }
    (Env.at 3000) (each_of_checks sound _ _ (by decide +kernel)) (by decide +kernel)
  have resume := kept.resume
  revert resume
  decide +kernel

end CfsTelemetry.Bridge
