import CfsTelemetry.Bridge.Success

/-!
# Additions

Each addition is computed from the committed mission, so that one that arrives during an upload
takes the place of the additions being uploaded, and one that arrives during a readback is
refused. All others are committed in the order of their arrival.
-/
namespace CfsTelemetry.Bridge

open Slots Run

/-- Whether an input is a route update that starts an upload. -/
def takenUp (s : State) : Input → Bool
  | .routeUpdate msg _ => startsUpload msg s
  | _ => false

/-- A route update, if the input is one, is an addition. -/
def Input.addsOnly : Input → Bool
  | .routeUpdate msg _ => routeOp msg.routeType = .add
  | _ => true

/-- The waypoints that a route update brings. -/
def added : Input → List Waypoint
  | .routeUpdate msg _ => held msg.waypointCount.toNat msg.waypoints
  | _ => []

/-- How many waypoints a route update announces. -/
def addedCount : Input → Nat
  | .routeUpdate msg _ => msg.waypointCount.toNat
  | _ => 0

/-- Whether a running upload is superseded: another one is started before it ends. -/
def superseded (s : State) : List Input → Bool
  | [] => false
  | input :: rest =>
    s.missionUploadState ≠ .idle ∧ (takenUp s input ∨ superseded (step s input) rest)

/-- The waypoints of the additions that are taken up and not superseded. -/
def keptAdds (s : State) : List Input → List Waypoint
  | [] => []
  | input :: rest =>
    (if takenUp s input ∧ ¬ superseded (step s input) rest then added input else []) ++
      keptAdds (step s input) rest

/-- An upload ends. -/
def EndsUpload (s : State) (input : Input) : Prop :=
  s.missionUploadState ≠ .idle ∧ (step s input).missionUploadState = .idle

/-- A route update that arrives during a readback on a connected link changes nothing and is
reported as refused. -/
def RefusedAloud (s : State) (input : Input) : Prop :=
  ∀ msg env, input = .routeUpdate msg env → s.linkState = .connected →
    s.missionDownloadState ≠ .idle →
    ∃ called refusal, step s input = { s with events := refusal :: called :: s.events } ∧
      refusal.type = .error

/-- An input that is not taken up starts nothing. -/
theorem takenUp_eq_false {s : State} {input : Input}
    (other : ∀ edit, uploadAction s input ≠ .start edit) : takenUp s input = false := by
  cases input with
  | routeUpdate msg env =>
    by_contra taken
    have starts : startsUpload msg s = true := by simpa [takenUp] using taken
    exact other (routeEdit msg s) (if_pos starts)
  | _ => rfl

/-- An upload is idle exactly when the transfer is. -/
theorem idle_iff (s : State) : (plan s).phase = .idle ↔ s.missionUploadState = .idle := by
  constructor
  · intro idle
    have same : s.missionUploadState.phase = UploadState.idle.phase := idle
    exact phase_injective same
  · intro idle
    exact congrArg UploadState.phase idle

/-- An idle upload is not superseded. -/
theorem superseded_of_idle {s : State} (idle : s.missionUploadState = .idle)
    (inputs : List Input) : superseded s inputs = false := by
  cases inputs with
  | nil => rfl
  | cons input rest => simp [superseded, idle]

/-- With room for it, an addition appends all its waypoints. -/
theorem routeEdit_add {msg : RouteUpdate} {s : State} (inRange : InRange s)
    (add : routeOp msg.routeType = .add)
    (room : (activeList s).length + msg.waypointCount.toNat ≤ routeMaxWaypoints) :
    routeEdit msg s = .append (held msg.waypointCount.toNat msg.waypoints) := by
  rw [activeList, length_held inRange.active] at room
  have least : min msg.waypointCount.toNat (routeMaxWaypoints - s.activeWaypointCount.toNat) =
      msg.waypointCount.toNat := by omega
  rw [routeEdit, add]
  dsimp only
  rw [routeWaypoints, least]

/-- A route update during a readback is refused. -/
theorem step_refusedAloud (s : State) (input : Input) : RefusedAloud s input := by
  rintro msg env rfl connected reading
  have refused : startMissionUpload env msg s =
      sendEvent .missionUploadErr .error
        ("MAVLINK_BRIDGE_APP: route update ignored - mission readback in progress " ++
          s!"state={s.missionDownloadState.code}")
        (sendEvent .missionUploadInf .information
          (s!"MAVLINK_BRIDGE_APP: StartMissionUpload called op={msg.routeType} " ++
            s!"wp={msg.waypointCount} active={s.activeWaypointCount} link={s.linkState.code}")
          s) := by
    unfold startMissionUpload
    dsimp only
    rw [if_neg (not_not.mpr connected), if_pos reading]
  exact ⟨_, _, refused, rfl⟩

/-- What an input does to the additions: what is on its way stays on its way, or is superseded by
another addition, or is committed. -/
inductive AddMove (s s' : State) (input : Input) (waiting : List Waypoint) : Prop where
  | goesOn (same : activeList s' = activeList s)
      (waits : (plan s').Waits (activeList s') waiting) (other : takenUp s input = false)
  | starts (same : activeList s' = activeList s)
      (waits : (plan s').Waits (activeList s') (added input)) (taken : takenUp s input = true)
      (fits : (added input).length ≤ addedCount input)
  | commits (busy : s.missionUploadState ≠ .idle) (idle : s'.missionUploadState = .idle)
      (grown : activeList s' = activeList s ++ waiting)
      (waits : (plan s').Waits (activeList s') []) (other : takenUp s input = false)

/-- What is on its way is there as long as the upload is not idle. -/
theorem busy_of_offered {s : State} (offered : (plan s).phase = .offered) :
    s.missionUploadState ≠ .idle := by
  intro idle
  rw [(idle_iff s).mpr idle] at offered
  cases offered

/-- What an input does when route updates are additions for which there is room, and an upload
ends only with its acceptance. -/
theorem step_adds {s : State} (inRange : InRange s) {input : Input} {waiting : List Waypoint}
    (waits : (plan s).Waits (activeList s) waiting) (adds : input.addsOnly = true)
    (room : (activeList s).length + addedCount input ≤ routeMaxWaypoints)
    (accepted : EndsUpload s input → TakesAck s input) :
    AddMove s (step s input) input waiting := by
  have ⟨frames, moves, _⟩ := step_moves inRange input
  have enabled := uploadAction_enabled inRange input
  have plan' := moves.plan
  have committed : activeList (step s input) = ((plan s).step (uploadAction s input)).committed :=
    congrArg Transfer.committed plan'
  have phase := congrArg Transfer.phase plan'
  by_cases goesOn : (uploadAction s input).goesOn = true
  · have same : activeList (step s input) = activeList s :=
      committed.trans (Transfer.step_lists goesOn).2
    refine .goesOn same ?_ ?_
    · rw [plan', same]
      exact waits.goesOn enabled goesOn
    · apply takenUp_eq_false
      intro edit starts
      rw [starts] at goesOn
      cases goesOn
  · cases action : uploadAction s input with
    | start edit =>
      have ⟨msg, env, update, starts, own⟩ := uploadAction_start action
      subst update own
      have add := routeEdit_add inRange (of_decide_eq_true adds) room
      rw [action, add] at committed plan'
      have same : activeList (step s (.routeUpdate msg env)) = activeList s := committed
      refine .starts same ?_ starts ?_
      · rw [plan', same]
        exact waits.start _
      · simp [added, addedCount, held]
    | accept =>
      rw [action] at enabled committed phase plan'
      have offered : (plan s).phase = .offered := enabled
      have accepts := waits.accept offered
      have grown : activeList (step s input) = activeList s ++ waiting :=
        committed.trans accepts.committed
      refine .commits (busy_of_offered offered) ((idle_iff _).mp phase) grown ?_ ?_
      · rw [plan', grown]
        exact accepts
      · apply takenUp_eq_false
        intro edit starts
        rw [action] at starts
        cases starts
    | drop =>
      rw [action] at enabled phase
      have ends : EndsUpload s input := ⟨busy_of_offered enabled, (idle_iff _).mp phase⟩
      have accepts := uploadAction_accept_iff.mpr (accepted ends)
      rw [action] at accepts
      cases accepts
    | offer => exact absurd (by rw [action]; rfl) goesOn
    | answer index => exact absurd (by rw [action]; rfl) goesOn
    | remark mark => exact absurd (by rw [action]; rfl) goesOn
    | silent => exact absurd (by rw [action]; rfl) goesOn

/-! ## Runs -/

/-- What additions add to the committed mission: what was on its way, unless it is superseded,
and then those that are kept. -/
theorem activeList_run {s : State} (inRange : InRange s) {inputs : List Input}
    {waiting : List Waypoint} (waits : (plan s).Waits (activeList s) waiting)
    (adds : ∀ input ∈ inputs, input.addsOnly = true)
    (room : (activeList s).length + waiting.length + (inputs.map addedCount).sum ≤
      routeMaxWaypoints)
    (accepted : Each (fun before input =>
      EndsUpload (run step s before) input → TakesAck (run step s before) input) inputs)
    (ended : (run step s inputs).missionUploadState = .idle) :
    activeList (run step s inputs) =
      activeList s ++ (if superseded s inputs then [] else waiting) ++ keptAdds s inputs := by
  induction inputs generalizing s waiting with
  | nil =>
    rw [waits.idle ((idle_iff s).mpr ended)]
    simp [superseded, keptAdds]
  | cons input rest previous =>
    have ⟨first, others⟩ := each_cons.mp accepted
    rw [List.map_cons, List.sum_cons] at room
    have moves := step_adds inRange waits (adds input List.mem_cons_self) (by omega) first
    have next : InRange (step s input) := run_inRange inRange [input]
    have later := fun waiting waits room => @previous _ next waiting waits
      (fun other among => adds other (List.mem_cons_of_mem _ among)) room others ended
    have idles : s.missionUploadState = .idle → waiting = [] :=
      fun idle => waits.idle ((idle_iff s).mpr idle)
    rw [run_cons, keptAdds, superseded]
    cases moves with
    | goesOn same waits' other =>
      rw [later waiting waits' (by rw [same]; omega), same, other]
      by_cases idle : s.missionUploadState = .idle
      · simp [idles idle]
      · simp [idle]
    | starts same waits' taken fits =>
      rw [later _ waits' (by rw [same]; omega), same, taken]
      by_cases idle : s.missionUploadState = .idle
      · rw [idles idle]
        cases superseded (step s input) rest <;> simp
      · cases superseded (step s input) rest <;> simp [idle]
    | commits busy idle grown waits' other =>
      have bound : (activeList (step s input)).length + ([] : List Waypoint).length +
          (rest.map addedCount).sum ≤ routeMaxWaypoints := by
        rw [grown, List.length_append, List.length_nil]
        omega
      rw [later [] waits' bound, grown, other, superseded_of_idle idle rest]
      simp

/-- When all route updates are additions for which there is room, and every upload that ends is
accepted, the active mission ends up with the waypoints of all additions, in order, that were taken
up and not superseded; an addition during a readback is refused, with an event. An addition is
appended to the active list, so that one that starts over an upload on its way supersedes what that
upload would add. -/
theorem additions_committed (config : ConfigParams) (earlier inputs : List Input)
    (idle : (run step (initialState config) earlier).missionUploadState = .idle)
    (adds : ∀ input ∈ inputs, input.addsOnly = true)
    (room : (activeList (run step (initialState config) earlier)).length +
      (inputs.map addedCount).sum ≤ routeMaxWaypoints)
    (accepted : Each (fun before input =>
      EndsUpload (run step (initialState config) (earlier ++ before)) input →
        TakesAck (run step (initialState config) (earlier ++ before)) input) inputs)
    (ended : (run step (initialState config) (earlier ++ inputs)).missionUploadState = .idle) :
    activeList (run step (initialState config) (earlier ++ inputs)) =
        activeList (run step (initialState config) earlier) ++
          keptAdds (run step (initialState config) earlier) inputs ∧
      Each (fun before input =>
        RefusedAloud (run step (initialState config) (earlier ++ before)) input) inputs := by
  simp only [run_append] at accepted ended ⊢
  have inRange := run_inRange (initialState_inRange config) earlier
  generalize run step (initialState config) earlier = s at *
  have waits : (plan s).Waits (activeList s) [] := by
    refine ⟨rfl, fun _ => rfl, fun busy => ?_⟩
    exact absurd ((idle_iff s).mpr idle) busy
  constructor
  · rw [activeList_run inRange waits adds room accepted ended, ite_self, List.append_nil]
  · exact each_of_forall fun input _ before => step_refusedAloud _ input

/-- Whether an accepting acknowledgement is taken can be computed. -/
instance (s : State) (input : Input) : Decidable (TakesAck s input) :=
  match input with
  | .frame ack rxTimestampMs env =>
    decidable_of_iff
      (acknowledgedResult ack = some missionAccepted ∧ s.missionUploadState = .active) (by
        constructor
        · rintro ⟨accepted, active⟩
          exact ⟨ack, rxTimestampMs, env, rfl, accepted, active⟩
        · rintro ⟨ack, rxTimestampMs, env, same, accepted, active⟩
          cases same
          exact ⟨accepted, active⟩)
  | .routeUpdate _ _ | .missionQuery _ | .command _ | .invalidCommand _ | .config _ _
  | .setFlightMode _ _ | .reportHousekeeping | .serialReconnect _ _ _ | .reconnect _ _ _ _
  | .companionHeartbeat _ _ | .serviceStreams _ _ | .checkUpload _ _ | .checkDownload _
  | .retryReadback _ _ | .bytes _ _ | .checkStale _ _ | .readFailure _ _ =>
    isFalse (by rintro ⟨ack, rxTimestampMs, env, impossible, -⟩; cases impossible)

/-- Whether an upload ends can be computed. -/
instance (s : State) (input : Input) : Decidable (EndsUpload s input) :=
  inferInstanceAs (Decidable (_ ∧ _))

/-- Two waypoints of a survey. -/
def surveyWaypoints : Waypoint × Waypoint :=
  (⟨16, 0, 0, 0, 0, 370000000, 1270000000, 0x41F00000⟩,
    ⟨16, 0, 0, 0, 0, 370001000, 1270001000, 0x41F00000⟩)

/-- The first waypoint is added and uploaded. -/
def firstAddition : List Input :=
  [routeUpdate 2 1 [surveyWaypoints.1] 2000, .checkUpload 2300 (Env.at 2300),
    received .missionRequestInt [0, 0, 255, 190, 0] 2310,
    received .missionAck [255, 190, 0, 0] 2320]

/-- The readback after the upload of the first waypoint. -/
def firstReadback : List Input :=
  [received .missionCount [1, 0, 255, 190, 0] 2340,
    received .missionItemInt (missionItemIntPayload 255 190 surveyWaypoints.1 0 false) 2350]

/-- The second waypoint is added after the readback. -/
def secondAddition : List Input :=
  [routeUpdate 2 1 [surveyWaypoints.2] 2400, .checkUpload 2700 (Env.at 2700),
    received .missionRequestInt [0, 0, 255, 190, 0] 2710,
    received .missionRequestInt [1, 0, 255, 190, 0] 2720,
    received .missionAck [255, 190, 0, 0] 2730]

/-- What of the inputs is checked of each of them for the additions of a run. -/
theorem each_accepted (config : ConfigParams) (earlier inputs : List Input)
    (checks : (project step (fun s input => [decide (EndsUpload s input → TakesAck s input)])
      (run step (initialState config) earlier) inputs).all id = true) :
    Each (fun before input =>
      EndsUpload (run step (initialState config) (earlier ++ before)) input →
        TakesAck (run step (initialState config) (earlier ++ before)) input) inputs := by
  simp only [run_append]
  exact each_of_checks (fun s input passed => of_decide_eq_true passed) _ inputs checks

/-- Two additions one after the other are both committed. -/
theorem additions_committed_inTurn :
    activeList (run step (initialState .default)
      (connection ++ (firstAddition ++ firstReadback ++ secondAddition))) =
        [surveyWaypoints.1, surveyWaypoints.2] := by
  have kept : keptAdds (run step (initialState .default) connection)
      (firstAddition ++ firstReadback ++ secondAddition) =
        [surveyWaypoints.1, surveyWaypoints.2] := by decide +kernel
  have committed := additions_committed .default connection
    (firstAddition ++ firstReadback ++ secondAddition) (by decide +kernel) (by decide +kernel)
    (by decide +kernel) (each_accepted _ _ _ (by decide +kernel)) (by decide +kernel)
  rw [committed.1, kept]
  decide +kernel

/-- An addition that arrives during the readback of the one before is lost. -/
theorem additions_lost :
    ¬ ∀ config earlier inputs,
      (run step (initialState config) earlier).missionUploadState = .idle →
      (∀ input ∈ inputs, input.addsOnly = true) →
      Each (fun before input => addedCount input ≠ 0 →
        (run step (initialState config) (earlier ++ before)).linkState = .connected) inputs →
      (activeList (run step (initialState config) earlier)).length +
        (inputs.map addedCount).sum ≤ routeMaxWaypoints →
      Each (fun before input =>
        EndsUpload (run step (initialState config) (earlier ++ before)) input →
          TakesAck (run step (initialState config) (earlier ++ before)) input) inputs →
      (run step (initialState config) (earlier ++ inputs)).missionUploadState = .idle →
      (run step (initialState config) (earlier ++ inputs)).missionDownloadState = .idle →
      List.Sublist (inputs.flatMap added)
        (activeList (run step (initialState config) (earlier ++ inputs))) := by
  intro kept
  let inputs := firstAddition ++ [routeUpdate 2 1 [surveyWaypoints.2] 2330] ++ firstReadback
  have connected : Each (fun before input => addedCount input ≠ 0 →
      (run step (initialState .default) (connection ++ before)).linkState = .connected) inputs := by
    have sound : ∀ (s : State) (input : Input),
        decide (addedCount input ≠ 0 → s.linkState = .connected) = true →
          (addedCount input ≠ 0 → s.linkState = .connected) :=
      fun s input passed => of_decide_eq_true passed
    simp only [run_append]
    exact each_of_checks sound _ inputs (by decide +kernel)
  have lost := kept .default connection inputs (by decide +kernel) (by decide +kernel) connected
    (by decide +kernel) (each_accepted _ _ _ (by decide +kernel)) (by decide +kernel)
    (by decide +kernel)
  revert lost
  decide +kernel

end CfsTelemetry.Bridge
