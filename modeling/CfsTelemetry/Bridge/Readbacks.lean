import CfsTelemetry.Bridge.Exclusion

/-!
# What a readback says and does

A readback publishes the items in the order of their arrival, which is the mission of the flight
controller when every item arrives in turn. It leaves the mission alone that edits start from:
that one is changed by accepted uploads only, and is empty after a start.
-/
namespace CfsTelemetry.Bridge

open Slots Run

/-- What a frame says about the mission agrees with the one the flight controller holds: its
count, and the item at the index the frame names. -/
def SpeaksOf (mission : List Waypoint) (frame : RxFrame) : Prop :=
  (frame.valid .missionCount = true → (readU16LE frame.payload 0).toNat = mission.length) ∧
    (frame.isItem = true →
      mission[(itemSeq frame.payload).toNat]? = some (itemWaypoint frame.payload))

/-- The input, if it is a frame, comes from a flight controller that holds the mission. -/
def Holds (mission : List Waypoint) : Input → Prop
  | .frame frame _ _ => SpeaksOf mission frame
  | _ => True

/-- An item that is waited for is the one whose turn it is. The bridge stores an item at the place
that it has counted to, whatever place the item names. -/
def ItemInTurn (s : State) : Input → Prop
  | .frame frame _ _ => frame.isItem = true → s.missionDownloadState = .waitItem →
      (itemSeq frame.payload).toNat = s.missionDownloadSeq.toNat
  | _ => True

/-- The readbacks that an input has published are a mission. -/
def PublishesOnly (mission : List Waypoint) (s : State) (input : Input) : Prop :=
  ∀ tlm ∈ publishedReadbacks s (step s input),
    tlm.waypointCount.toNat = mission.length ∧ readbackList tlm = mission

/-- What an input of the flight controller means for the fetch is in turn. -/
theorem FetchMeans.inTurn {mission : List Waypoint} {s : State} {input : Input}
    {action : Fetch.Action Waypoint} (means : FetchMeans s input action)
    (holds : Holds mission input) (turn : ItemInTurn s input) :
    (fetch s).InTurn mission action := by
  cases action with
  | count number =>
    obtain ⟨frame, rxTimestampMs, env, rfl, valid, named, -⟩ := means
    exact named.symm.trans (holds.1 valid)
  | take wp =>
    obtain ⟨frame, rxTimestampMs, env, rfl, item, carried, waiting⟩ := means
    refine ⟨congrArg DownloadState.phase waiting, ?_⟩
    have next := holds.2 item
    rw [turn item waiting, carried] at next
    exact next
  | request => trivial
  | giveUp => trivial
  | silent => trivial

/-- While every item comes in turn, a download goes on with the mission. -/
theorem run_follows {mission : List Waypoint} (fits : mission.length ≤ routeMaxWaypoints)
    (config : ConfigParams) {inputs : List Input} (holds : ∀ input ∈ inputs, Holds mission input)
    (turns : Each (fun before input =>
      ItemInTurn (run step (initialState config) before) input) inputs) :
    (fetch (run step (initialState config) inputs)).Follows mission := by
  have small : routeMaxWaypoints = 37 := rfl
  have limit : mission.length ≤ downloadLimit := by
    show _ ≤ 255
    omega
  induction inputs using List.reverseRecOn with
  | nil => exact fun impossible => nomatch impossible
  | append_singleton before input previous =>
    rw [each_snoc] at turns
    have earlier := previous (fun other among => holds other (by simp [among])) turns.1
    have inRange := run_inRange (initialState_inRange config) before
    have collects := run_collects (initialState_inRange config) (initialState_collects config)
      before
    obtain ⟨action, means, fetches⟩ := step_fetchStep inRange collects input
    rw [run_snoc, fetches.fetch]
    exact earlier.step limit fits (means.inTurn (holds input (by simp)) turns.2)

/-- While every item comes in turn, what is published is the mission the flight controller holds.
Items are stored at a running index, whatever index they name. -/
theorem readbacks_faithful (config : ConfigParams) (mission : List Waypoint)
    (fits : mission.length ≤ routeMaxWaypoints) (inputs : List Input)
    (holds : ∀ input ∈ inputs, Holds mission input)
    (turns : Each (fun before input =>
      ItemInTurn (run step (initialState config) before) input) inputs) :
    Each (fun before input =>
      PublishesOnly mission (run step (initialState config) before) input) inputs := by
  rintro before input after rfl tlm published
  have turns' : Each (fun before input =>
      ItemInTurn (run step (initialState config) before) input) before := by
    intro first chosen rest place
    exact turns first chosen (rest ++ input :: after) (by simp [place])
  have follows := run_follows fits config (fun other among => holds other (by simp [among])) turns'
  have inRange := run_inRange (initialState_inRange config) before
  have collects := run_collects (initialState_inRange config) (initialState_collects config) before
  obtain ⟨action, means, fetches⟩ := step_fetchStep inRange collects input
  obtain ⟨messages, publishes, lists⟩ := fetches.publishes
  rw [publishes.publishedReadbacks] at published
  have content : readbackContent tlm ∈ messages.map readbackContent :=
    List.mem_map.mpr ⟨tlm, published, rfl⟩
  rw [lists, Option.mem_toList] at content
  obtain ⟨list, ends, same⟩ := Option.map_eq_some_iff.mp content
  have inTurn := means.inTurn (holds input (by simp)) (turns before input after rfl)
  rw [Fetch.result_eq fits follows inTurn ends] at same
  exact ⟨congrArg Prod.fst same.symm, congrArg Prod.snd same.symm⟩

/-- Whether an input agrees with a mission can be computed. -/
instance (mission : List Waypoint) (input : Input) : Decidable (Holds mission input) := by
  unfold Holds SpeaksOf
  split <;> infer_instance

/-- Whether an item comes in turn can be computed. -/
instance (s : State) (input : Input) : Decidable (ItemInTurn s input) := by
  unfold ItemInTurn
  split <;> infer_instance

/-- A new connection to a flight controller that holds two waypoints, up to its first item. -/
def firstItem : List Input :=
  [.reconnect 1000 "/dev/serial0" (.opened 1000) (Env.at 1000),
    received .heartbeat [0, 0, 0, 0, 2, 3, 81, 4, 3] 1100,
    received .missionCount [2, 0, 255, 190, 0] 1200,
    received .missionItemInt (missionItemIntPayload 255 190 surveyWaypoints.1 0 false) 1210]

/-- The second item completes a faithful readback. -/
theorem readbacks_faithful_survey :
    PublishesOnly [surveyWaypoints.1, surveyWaypoints.2]
      (run step (initialState .default) firstItem)
      (received .missionItemInt
        (missionItemIntPayload 255 190 surveyWaypoints.2 1 false) 1220) := by
  have sound : ∀ (s : State) (input : Input), decide (ItemInTurn s input) = true →
      ItemInTurn s input := fun s input passed => of_decide_eq_true passed
  exact readbacks_faithful .default [surveyWaypoints.1, surveyWaypoints.2] (by decide)
    (firstItem ++
      [received .missionItemInt (missionItemIntPayload 255 190 surveyWaypoints.2 1 false) 1220])
    (by decide +kernel) (each_of_checks sound _ _ (by decide +kernel)) firstItem _ [] rfl

/-- The first item twice completes a readback of the first waypoint twice. -/
theorem readbacks_not_faithful :
    ¬ ∀ config (mission : List Waypoint) inputs, 1 ≤ mission.length →
      mission.length ≤ routeMaxWaypoints → (∀ input ∈ inputs, Holds mission input) →
      Each (fun before input =>
        PublishesOnly mission (run step (initialState config) before) input) inputs := by
  intro faithful
  let again :=
    received .missionItemInt (missionItemIntPayload 255 190 surveyWaypoints.1 0 false) 1220
  have published := faithful .default [surveyWaypoints.1, surveyWaypoints.2]
    (firstItem ++ [again]) (by decide) (by decide) (by decide +kernel) firstItem again [] rfl
  unfold PublishesOnly at published
  revert published
  decide +kernel

/-- What a step does to the mission that edits start from: an accepted upload commits its
pending mission, and nothing else changes it. -/
theorem step_activeList {s : State} (inRange : InRange s) (input : Input) :
    activeList (step s input) = if TakesAck s input then pendingList s else activeList s := by
  obtain ⟨frames, moves, -⟩ := step_moves inRange input
  have committed : activeList (step s input) = ((plan s).step (uploadAction s input)).committed :=
    congrArg Transfer.committed moves.plan
  rw [committed]
  by_cases accepts : TakesAck s input
  · rw [if_pos accepts, uploadAction_accept_iff.mpr accepts]
    rfl
  · rw [if_neg accepts]
    have other : uploadAction s input ≠ .accept :=
      fun accepted => accepts (uploadAction_accept_iff.mp accepted)
    cases action : uploadAction s input with
    | accept => exact absurd action other
    | _ => rfl

/-- A step that publishes a readback takes no acknowledgement. -/
theorem not_takesAck_of_published {s : State} (inRange : InRange s)
    (collects : (fetch s).Collects downloadLimit routeMaxWaypoints) {input : Input}
    (published : publishedReadbacks s (step s input) ≠ []) : ¬ TakesAck s input := by
  rintro ⟨ack, rxTimestampMs, env, rfl, accepted, -⟩
  have own : ack.msgId = MessageKind.missionAck.id := by
    unfold acknowledgedResult at accepted
    split at accepted
    · rename_i valid
      exact (of_decide_eq_true valid).1
    · cases accepted
  obtain ⟨action, means, fetches⟩ := step_fetchStep inRange collects
    (.frame ack rxTimestampMs env)
  obtain ⟨messages, publishes, contents⟩ := fetches.publishes
  rw [publishes.publishedReadbacks] at published
  have silent : (fetch s).result routeMaxWaypoints action = none := by
    cases action with
    | request => rfl
    | giveUp => rfl
    | silent => rfl
    | count number =>
      obtain ⟨frame, rxTimestampMs', env', same, valid, -⟩ := means
      cases same
      have other := (of_decide_eq_true valid).1
      rw [own] at other
      exact absurd other (by decide)
    | take wp =>
      obtain ⟨frame, rxTimestampMs', env', same, item, -⟩ := means
      cases same
      have other := (of_decide_eq_true item).1
      rw [own] at other
      exact absurd other (by decide)
  rw [silent] at contents
  exact published (List.map_eq_nil_iff.mp contents)

/-- Without an accepted upload there is no mission that edits start from. -/
theorem activeList_of_unaccepted (config : ConfigParams) {inputs : List Input}
    (unaccepted : Each (fun before input =>
      ¬ TakesAck (run step (initialState config) before) input) inputs) :
    activeList (run step (initialState config) inputs) = [] := by
  induction inputs using List.reverseRecOn with
  | nil => rfl
  | append_singleton before input previous =>
    rw [each_snoc] at unaccepted
    rw [run_snoc, step_activeList (run_inRange (initialState_inRange config) before),
      if_neg unaccepted.2]
    exact previous unaccepted.1

/-- Edits on a mission without waypoints: an addition is all there is to upload, and there is
nothing to delete or to modify. -/
structure EditsNothing (s : State) : Prop where
  add : ∀ msg env, routeOp msg.routeType = .add → startsUpload msg s = true →
    pendingList (step s (.routeUpdate msg env)) = routeWaypoints msg 0
  delete : ∀ msg, routeOp msg.routeType = .delete → startsUpload msg s = false
  modify : ∀ msg, routeOp msg.routeType = .modify → startsUpload msg s = false

/-- Edits of an empty mission start from nothing. -/
theorem editsNothing {s : State} (inRange : InRange s) (empty : activeList s = []) :
    EditsNothing s := by
  have none : s.activeWaypointCount.toNat = 0 := by
    rw [← length_held inRange.active s.activeWaypoints]
    exact congrArg List.length empty
  have outside : ∀ index : UInt8, ¬ index < s.activeWaypointCount := by
    intro index inside
    have below := UInt8.lt_iff_toNat_lt.mp inside
    omega
  constructor
  · intro msg env add starts
    obtain ⟨frames, moves, -⟩ := step_moves inRange (.routeUpdate msg env)
    have action : uploadAction s (.routeUpdate msg env) = .start (routeEdit msg s) :=
      if_pos starts
    have moved := moves.plan
    rw [action] at moved
    have pending : pendingList (step s (.routeUpdate msg env)) =
        (routeEdit msg s).apply (activeList s) := congrArg Transfer.pending moved
    rw [pending, empty, routeEdit, add, none]
    rfl
  · intro msg delete
    apply decide_eq_false
    rintro ⟨-, -, accepted⟩
    rw [acceptsEdit, delete] at accepted
    exact outside _ (of_decide_eq_true accepted).1
  · intro msg modify
    apply decide_eq_false
    rintro ⟨-, -, accepted⟩
    rw [acceptsEdit, modify] at accepted
    exact outside _ (of_decide_eq_true accepted)

/-- The mission that edits start from is the one of the last accepted upload: a published
readback leaves it as it is, and before the first accepted upload edits start from nothing. A
readback is for the core application, and only an acknowledgement confirms a mission here. -/
theorem readbacks_keep_active (config : ConfigParams) (inputs : List Input) :
    Each (fun before input =>
      (activeList (step (run step (initialState config) before) input) =
        if TakesAck (run step (initialState config) before) input then
          pendingList (run step (initialState config) before)
        else activeList (run step (initialState config) before)) ∧
      (publishedReadbacks (run step (initialState config) before)
          (step (run step (initialState config) before) input) ≠ [] →
        activeList (step (run step (initialState config) before) input) =
          activeList (run step (initialState config) before)) ∧
      (Each (fun first chosen => ¬ TakesAck (run step (initialState config) first) chosen)
          before → EditsNothing (run step (initialState config) before))) inputs := by
  apply each_of_forall
  intro input _ before
  have inRange := run_inRange (initialState_inRange config) before
  have collects := run_collects (initialState_inRange config) (initialState_collects config)
    before
  refine ⟨step_activeList inRange input, ?_, ?_⟩
  · intro published
    rw [step_activeList inRange, if_neg (not_takesAck_of_published inRange collects published)]
  · intro unaccepted
    exact editsNothing inRange (activeList_of_unaccepted config unaccepted)

/-- After a start, a completed readback of two waypoints leaves the mission that edits start from
empty. -/
theorem readbacks_not_active :
    ¬ ∀ config inputs, Each (fun before input =>
      ∀ tlm ∈ publishedReadbacks (run step (initialState config) before)
          (step (run step (initialState config) before) input),
        activeList (step (run step (initialState config) before) input) = readbackList tlm)
      inputs := by
  intro same
  let last :=
    received .missionItemInt (missionItemIntPayload 255 190 surveyWaypoints.2 1 false) 1220
  have active := same .default (firstItem ++ [last]) firstItem last [] rfl
  revert active
  decide +kernel

end CfsTelemetry.Bridge
