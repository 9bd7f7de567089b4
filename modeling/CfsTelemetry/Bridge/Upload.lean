import CfsTelemetry.Library.Edit
import CfsTelemetry.Bridge.Readback

/-!
# Uploading an edited mission

A route update edits the active mission into the pending one and starts its upload. The edit is
a loop of copies per operation; what the loops leave in the pending slots is the edited list.
-/
namespace CfsTelemetry.Bridge

open Slots

/-- Time for each answer of an upload. -/
def missionUploadTimeoutMs : UInt32 := 2000

/-- Time between clearing the mission and announcing the new one. -/
def missionClearDelayMs : UInt32 := 300

/-- How often an upload is tried again. -/
def missionMaxRetries : UInt8 := 3

/-- The operation of a route update (`MAVLINK_BRIDGE_ROUTE_OP_*`). -/
inductive RouteOp where
  | replace | add | delete | modify
  deriving DecidableEq, Repr

/-- The operation of a route type; a type that names no other operation replaces. -/
def routeOp (routeType : UInt8) : RouteOp :=
  if routeType = 2 then .add
  else if routeType = 3 then .delete
  else if routeType = 4 then .modify
  else .replace

/-- Copy an active waypoint to a pending slot. -/
def copyActiveToPending (dst src : Nat) (s : State) : State :=
  { s with missionPending := s.missionPending.setIfInBounds dst (slot s.activeWaypoints src) }

/-- Copy a waypoint of a message to a pending slot. -/
def copyMsgToPending (dst : Nat) (wp : Waypoint) (s : State) : State :=
  { s with missionPending := s.missionPending.setIfInBounds dst wp }

/-- Run a body for consecutive slots, the first of them first. -/
def forSlots (body : Nat → State → State) (first : Nat) : Nat → State → State
  | 0, s => s
  | count + 1, s => body (first + count) (forSlots body first count s)

/-- Append the waypoints of a message, as many as there is room for. -/
def addWaypoints (msg : RouteUpdate) (s : State) : UInt8 × State :=
  let activeCount := s.activeWaypointCount.toNat
  let newCountWide := activeCount + msg.waypointCount.toNat
  let truncated := decide (newCountWide > routeMaxWaypoints)
  let newCount := if truncated then routeMaxWaypoints else newCountWide
  let noted :=
    if truncated then sendEvent .missionUploadErr .error
      (s!"MAVLINK_BRIDGE_APP: add truncated active={s.activeWaypointCount} " ++
        s!"new={msg.waypointCount} max={routeMaxWaypoints}") s
    else s
  let kept := min activeCount newCount
  let copied := forSlots (fun i => copyActiveToPending i i) 0 kept noted
  (UInt8.ofNat newCount,
    forSlots (fun i => copyMsgToPending i (slot msg.waypoints (i - activeCount))) kept
      (newCount - kept) copied)

/-- Leave out the active waypoint at an index, which is not the one to resume at. -/
def deleteWaypoint (index : UInt8) (s : State) : Except State (UInt8 × State) :=
  if index ≥ s.activeWaypointCount then
    .error (sendEvent .missionUploadErr .error
      (s!"MAVLINK_BRIDGE_APP: DELETE index={index} out of range " ++
        s!"active={s.activeWaypointCount}") s)
  else if index = s.activeResumeIndex then
    .error (sendEvent .missionUploadErr .error
      s!"MAVLINK_BRIDGE_APP: DELETE rejected - index={index} is ActiveResumeIndex" s)
  else
    let newCount := s.activeWaypointCount - 1
    let copied := forSlots
      (fun i => copyActiveToPending i (if i < index.toNat then i else i + 1)) 0 newCount.toNat s
    .ok (newCount, { copied with
      activeResumeIndex :=
        if index < s.activeResumeIndex then s.activeResumeIndex - 1 else s.activeResumeIndex })

/-- Put the first waypoint of a message in the place of an active one. -/
def modifyWaypoint (index : UInt8) (msg : RouteUpdate) (s : State) :
    Except State (UInt8 × State) :=
  if index ≥ s.activeWaypointCount then
    .error (sendEvent .missionUploadErr .error
      (s!"MAVLINK_BRIDGE_APP: MODIFY index={index} out of range " ++
        s!"active={s.activeWaypointCount}") s)
  else
    let newCount := s.activeWaypointCount
    .ok (newCount, forSlots
      (fun i => if i = index.toNat then copyMsgToPending i (slot msg.waypoints 0)
        else copyActiveToPending i i) 0 newCount.toNat s)

/-- Replace the whole mission, by as many waypoints as there is room for. -/
def replaceWaypoints (msg : RouteUpdate) (s : State) : UInt8 × State :=
  let newCount :=
    if msg.waypointCount.toNat > routeMaxWaypoints then UInt8.ofNat routeMaxWaypoints
    else msg.waypointCount
  (newCount, forSlots (fun i => copyMsgToPending i (slot msg.waypoints i)) 0 newCount.toNat s)

/-- Build the pending mission of a route update: its number of waypoints, or the state after a
rejection. -/
def buildPending (msg : RouteUpdate) (s : State) : Except State (UInt8 × State) :=
  match routeOp msg.routeType with
  | .add => .ok (addWaypoints msg s)
  | .delete => deleteWaypoint msg.waypointCount s
  | .modify => modifyWaypoint msg.waypointCount msg s
  | .replace => .ok (replaceWaypoints msg s)

/-- A loop that writes pending slots fills them. -/
theorem forSlots_fill (s : State) {value : Nat → Waypoint} {body : Nat → State → State}
    (writes : ∀ (index : Nat) (pending : WaypointArray),
      body index { s with missionPending := pending } =
        { s with missionPending := pending.setIfInBounds index (value index) })
    (first count : Nat) (pending : WaypointArray) :
    forSlots body first count { s with missionPending := pending } =
      { s with missionPending := fill value first count pending } := by
  induction count with
  | zero => rfl
  | succ count previous =>
    rw [forSlots, previous, writes]
    rfl

/-- Whether the waypoint counts are within the arrays. -/
structure InRange (s : State) : Prop where
  active : s.activeWaypointCount.toNat ≤ routeMaxWaypoints
  pending : s.missionUploadWpCount.toNat ≤ routeMaxWaypoints

/-- The active mission as a list. -/
def activeList (s : State) : List Waypoint := held s.activeWaypointCount.toNat s.activeWaypoints

/-- The pending mission as a list. -/
def pendingList (s : State) : List Waypoint :=
  held s.missionUploadWpCount.toNat s.missionPending

/-- The waypoints of a route update that there is room for after a number of others. -/
def routeWaypoints (msg : RouteUpdate) (before : Nat) : List Waypoint :=
  held (min msg.waypointCount.toNat (routeMaxWaypoints - before)) msg.waypoints

/-- The edit that a route update stands for in a state. -/
def routeEdit (msg : RouteUpdate) (s : State) : Edit Waypoint :=
  match routeOp msg.routeType with
  | .replace => .replace (routeWaypoints msg 0)
  | .add => .append (routeWaypoints msg s.activeWaypointCount.toNat)
  | .delete => .delete msg.waypointCount.toNat
  | .modify => .modify msg.waypointCount.toNat (slot msg.waypoints 0)

/-- What a built pending mission has to do with an edit of the active one. -/
structure Builds (edit : Edit Waypoint) (s : State) (newCount : UInt8) (built : State) : Prop where
  fits : newCount.toNat ≤ routeMaxWaypoints
  list : held newCount.toNat built.missionPending = edit.apply (activeList s)
  resume : built.activeResumeIndex.toNat = edit.place s.activeResumeIndex.toNat
  same : built = { s with
    missionPending := built.missionPending
    activeResumeIndex := built.activeResumeIndex
    events := built.events }

/-- A replacement builds the waypoints of the message. -/
theorem replaceWaypoints_builds (msg : RouteUpdate) (s : State) :
    Builds (.replace (routeWaypoints msg 0)) s (replaceWaypoints msg s).1
      (replaceWaypoints msg s).2 := by
  have count : (replaceWaypoints msg s).1.toNat =
      min msg.waypointCount.toNat routeMaxWaypoints := by
    unfold replaceWaypoints
    dsimp only
    by_cases above : msg.waypointCount.toNat > routeMaxWaypoints
    · rw [if_pos above]
      have least : min msg.waypointCount.toNat routeMaxWaypoints = routeMaxWaypoints := by omega
      rw [least]
      rfl
    · rw [if_neg above]
      omega
  have fits : (replaceWaypoints msg s).1.toNat ≤ routeMaxWaypoints := by omega
  have loop : (replaceWaypoints msg s).2 = { s with
      missionPending := fill (slot msg.waypoints) 0 (replaceWaypoints msg s).1.toNat
        s.missionPending } :=
    forSlots_fill s (fun _ _ => rfl) _ _ _
  rw [loop]
  refine ⟨fits, ?_, rfl, rfl⟩
  show held _ (fill _ 0 _ _) = routeWaypoints msg 0
  rw [held_fill fits, map_slot_range fits, count]
  rfl

/-- A deletion builds the active mission without the waypoint. -/
theorem deleteWaypoint_builds {index : UInt8} {s : State} (inRange : InRange s)
    {newCount : UInt8} {built : State} (accepted : deleteWaypoint index s = .ok (newCount, built)) :
    Builds (.delete index.toNat) s newCount built := by
  unfold deleteWaypoint at accepted
  by_cases outside : index ≥ s.activeWaypointCount
  · rw [if_pos outside] at accepted
    cases accepted
  rw [if_neg outside] at accepted
  by_cases target : index = s.activeResumeIndex
  · rw [if_pos target] at accepted
    cases accepted
  rw [if_neg target] at accepted
  have inside : index.toNat < s.activeWaypointCount.toNat := by
    have below : index < s.activeWaypointCount := UInt8.not_le.mp outside
    exact UInt8.lt_iff_toNat_lt.mp below
  have less : (s.activeWaypointCount - 1).toNat = s.activeWaypointCount.toNat - 1 := by
    apply UInt8.toNat_sub_of_le
    rw [UInt8.le_iff_toNat_le]
    show 1 ≤ s.activeWaypointCount.toNat
    omega
  have bound := inRange.active
  have fits : (s.activeWaypointCount - 1).toNat ≤ routeMaxWaypoints := by omega
  let source := fun i => if i < index.toNat then i else i + 1
  have loop : forSlots (fun i => copyActiveToPending i (source i)) 0
        (s.activeWaypointCount - 1).toNat s = { s with
      missionPending := fill (fun i => slot s.activeWaypoints (source i)) 0
        (s.activeWaypointCount - 1).toNat s.missionPending } :=
    forSlots_fill s (fun _ _ => rfl) _ _ _
  cases accepted
  rw [loop]
  refine ⟨fits, ?_, ?_, rfl⟩
  · show held _ (fill _ 0 _ _) = (activeList s).eraseIdx index.toNat
    rw [held_fill fits, less, activeList, ← map_slot_range bound]
    exact (Edit.apply_delete_range inside).symm
  · show (if index < s.activeResumeIndex then s.activeResumeIndex - 1
      else s.activeResumeIndex).toNat = _
    by_cases earlier : index < s.activeResumeIndex
    · have before : index.toNat < s.activeResumeIndex.toNat := UInt8.lt_iff_toNat_lt.mp earlier
      rw [if_pos earlier, Edit.place, if_pos before]
      apply UInt8.toNat_sub_of_le
      rw [UInt8.le_iff_toNat_le]
      show 1 ≤ s.activeResumeIndex.toNat
      omega
    · have notBefore : ¬ index.toNat < s.activeResumeIndex.toNat := by
        rwa [← UInt8.lt_iff_toNat_lt]
      rw [if_neg earlier, Edit.place, if_neg notBefore]

/-- A modification builds the active mission with the waypoint exchanged. -/
theorem modifyWaypoint_builds {index : UInt8} {msg : RouteUpdate} {s : State}
    (inRange : InRange s) {newCount : UInt8} {built : State}
    (accepted : modifyWaypoint index msg s = .ok (newCount, built)) :
    Builds (.modify index.toNat (slot msg.waypoints 0)) s newCount built := by
  unfold modifyWaypoint at accepted
  by_cases outside : index ≥ s.activeWaypointCount
  · rw [if_pos outside] at accepted
    cases accepted
  rw [if_neg outside] at accepted
  have fits := inRange.active
  let source := fun i =>
    if i = index.toNat then slot msg.waypoints 0 else slot s.activeWaypoints i
  have loop : forSlots (fun i => if i = index.toNat then copyMsgToPending i (slot msg.waypoints 0)
        else copyActiveToPending i i) 0 s.activeWaypointCount.toNat s = { s with
      missionPending := fill source 0 s.activeWaypointCount.toNat s.missionPending } := by
    refine forSlots_fill s (fun i pending => ?_) _ _ _
    by_cases chosen : i = index.toNat
    · simp only [source, if_pos chosen]
      rfl
    · simp only [source, if_neg chosen]
      rfl
  cases accepted
  rw [loop]
  refine ⟨fits, ?_, rfl, rfl⟩
  show held _ (fill _ 0 _ _) = (activeList s).set index.toNat (slot msg.waypoints 0)
  rw [held_fill fits, activeList, ← map_slot_range fits]
  exact (Edit.apply_modify_range _).symm

/-- An addition builds the active mission with the waypoints after it. -/
theorem addWaypoints_builds (msg : RouteUpdate) {s : State} (inRange : InRange s) :
    Builds (.append (routeWaypoints msg s.activeWaypointCount.toNat)) s (addWaypoints msg s).1
      (addWaypoints msg s).2 := by
  have bound := inRange.active
  have small : routeMaxWaypoints = 37 := rfl
  let total := min (s.activeWaypointCount.toNat + msg.waypointCount.toNat) routeMaxWaypoints
  have chosen : (if decide (s.activeWaypointCount.toNat + msg.waypointCount.toNat >
      routeMaxWaypoints) = true then routeMaxWaypoints
      else s.activeWaypointCount.toNat + msg.waypointCount.toNat) = total := by
    by_cases above : s.activeWaypointCount.toNat + msg.waypointCount.toNat > routeMaxWaypoints
    · rw [if_pos (decide_eq_true above)]
      omega
    · rw [if_neg (by simpa using above)]
      omega
  have kept : min s.activeWaypointCount.toNat total = s.activeWaypointCount.toNat := by omega
  have count : (addWaypoints msg s).1.toNat = total := by
    unfold addWaypoints
    dsimp only
    rw [chosen]
    exact UInt8.toNat_ofNat_of_lt' (by show total < 256; omega)
  have loops : ∃ events, (addWaypoints msg s).2 = { s with
      missionPending := fill (fun i => slot msg.waypoints (i - s.activeWaypointCount.toNat))
        s.activeWaypointCount.toNat (total - s.activeWaypointCount.toNat)
        (fill (slot s.activeWaypoints) 0 s.activeWaypointCount.toNat s.missionPending)
      events := events } := by
    have noted : ∃ events, (if decide (s.activeWaypointCount.toNat + msg.waypointCount.toNat >
          routeMaxWaypoints) = true then sendEvent .missionUploadErr .error
            (s!"MAVLINK_BRIDGE_APP: add truncated active={s.activeWaypointCount} " ++
              s!"new={msg.waypointCount} max={routeMaxWaypoints}") s else s) =
        { s with events := events } := by
      split
      · exact ⟨_, rfl⟩
      · exact ⟨s.events, rfl⟩
    obtain ⟨events, noted⟩ := noted
    let base : State := { s with events := events }
    have first : forSlots (fun i => copyActiveToPending i i) 0 s.activeWaypointCount.toNat base =
        { base with
          missionPending := fill (slot s.activeWaypoints) 0 s.activeWaypointCount.toNat
            s.missionPending } :=
      forSlots_fill base (fun _ _ => rfl) _ _ _
    refine ⟨events, ?_⟩
    unfold addWaypoints
    dsimp only
    rw [chosen, kept, noted, first]
    exact forSlots_fill base (fun _ _ => rfl) _ _ _
  obtain ⟨events, loops⟩ := loops
  have fits : total ≤ routeMaxWaypoints := by omega
  rw [loops]
  refine ⟨by rw [count]; exact fits, ?_, rfl, rfl⟩
  show held _ (fill _ _ _ _) = activeList s ++ routeWaypoints msg s.activeWaypointCount.toNat
  rw [count, held_fill_fill (by omega) fits, activeList, map_slot_range bound, routeWaypoints]
  congr 1
  have room : total - s.activeWaypointCount.toNat =
      min msg.waypointCount.toNat (routeMaxWaypoints - s.activeWaypointCount.toNat) := by omega
  rw [room]
  simp only [Nat.add_sub_cancel_left]
  exact map_slot_range (by omega) _

/-- Whether the edit of a route update is carried out: an index must name an active waypoint, and
a deletion not the one to resume at. -/
def acceptsEdit (msg : RouteUpdate) (s : State) : Bool :=
  match routeOp msg.routeType with
  | .delete =>
    msg.waypointCount < s.activeWaypointCount ∧ msg.waypointCount ≠ s.activeResumeIndex
  | .modify => msg.waypointCount < s.activeWaypointCount
  | _ => true

/-- The pending mission of a route update whose edit is carried out is the edited active one. -/
theorem buildPending_accepted {msg : RouteUpdate} {s : State} (inRange : InRange s)
    (accepted : acceptsEdit msg s = true) :
    ∃ newCount built, buildPending msg s = .ok (newCount, built) ∧
      Builds (routeEdit msg s) s newCount built := by
  unfold acceptsEdit at accepted
  unfold buildPending routeEdit
  cases op : routeOp msg.routeType with
  | add => exact ⟨_, _, rfl, addWaypoints_builds msg inRange⟩
  | replace => exact ⟨_, _, rfl, replaceWaypoints_builds msg s⟩
  | delete =>
    rw [op] at accepted
    obtain ⟨inside, other⟩ := of_decide_eq_true accepted
    have ok : ∃ newCount built, deleteWaypoint msg.waypointCount s = .ok (newCount, built) := by
      unfold deleteWaypoint
      rw [if_neg (UInt8.not_le.mpr inside), if_neg other]
      exact ⟨_, _, rfl⟩
    obtain ⟨newCount, built, ok⟩ := ok
    exact ⟨newCount, built, ok, deleteWaypoint_builds inRange ok⟩
  | modify =>
    rw [op] at accepted
    have inside := of_decide_eq_true accepted
    have ok : ∃ newCount built,
        modifyWaypoint msg.waypointCount msg s = .ok (newCount, built) := by
      unfold modifyWaypoint
      rw [if_neg (UInt8.not_le.mpr inside)]
      exact ⟨_, _, rfl⟩
    obtain ⟨newCount, built, ok⟩ := ok
    exact ⟨newCount, built, ok, modifyWaypoint_builds inRange ok⟩

/-- A route update whose edit is not carried out leaves an event only. -/
theorem buildPending_rejected {msg : RouteUpdate} {s : State}
    (refused : acceptsEdit msg s = false) :
    ∃ events, buildPending msg s = .error { s with events := events } := by
  unfold acceptsEdit at refused
  unfold buildPending
  cases op : routeOp msg.routeType with
  | add =>
    rw [op] at refused
    cases refused
  | replace =>
    rw [op] at refused
    cases refused
  | delete =>
    rw [op] at refused
    have refused := of_decide_eq_false refused
    show ∃ events, deleteWaypoint msg.waypointCount s = _
    unfold deleteWaypoint
    by_cases outside : msg.waypointCount ≥ s.activeWaypointCount
    · rw [if_pos outside]
      exact ⟨_, rfl⟩
    · rw [if_neg outside]
      have target : msg.waypointCount = s.activeResumeIndex := by
        by_contra other
        exact refused ⟨UInt8.not_le.mp outside, other⟩
      rw [if_pos target]
      exact ⟨_, rfl⟩
  | modify =>
    rw [op] at refused
    have outside : msg.waypointCount ≥ s.activeWaypointCount :=
      UInt8.not_lt.mp (of_decide_eq_false refused)
    show ∃ events, modifyWaypoint msg.waypointCount msg s = _
    unfold modifyWaypoint
    rw [if_pos outside]
    exact ⟨_, rfl⟩

/-! ## The upload -/

/-- Start the upload of a pending mission of a number of waypoints. -/
def beginUpload (env : Env) (newCount : UInt8) (s : State) : State :=
  sendMissionClearAll (env.tx 0) { s with
    missionUploadWpCount := newCount
    missionUploadState := .clearing
    missionUploadRetry := 0
    missionUploadTimeoutMs := env.timeMs + missionClearDelayMs }

/-- Handle a route update. -/
def startMissionUpload (env : Env) (msg : RouteUpdate) (s : State) : State :=
  let called := sendEvent .missionUploadInf .information
    (s!"MAVLINK_BRIDGE_APP: StartMissionUpload called op={msg.routeType} " ++
      s!"wp={msg.waypointCount} active={s.activeWaypointCount} link={s.linkState.code}") s
  if s.linkState ≠ .connected then
    sendEvent .missionUploadErr .error
      "MAVLINK_BRIDGE_APP: route update ignored - FC link not connected" called
  else if s.missionDownloadState ≠ .idle then
    sendEvent .missionUploadErr .error
      ("MAVLINK_BRIDGE_APP: route update ignored - mission readback in progress " ++
        s!"state={s.missionDownloadState.code}") called
  else
    match buildPending msg called with
    | .error rejected => rejected
    | .ok (newCount, built) => beginUpload env newCount built

/-- Announce a cleared mission. -/
def announceMission (nowMs : UInt32) (env : Env) (s : State) : State :=
  sendMissionCount s.missionUploadWpCount (env.tx 0) { s with
    missionUploadState := .active
    missionUploadTimeoutMs := nowMs + missionUploadTimeoutMs }

/-- Try an upload again from its start, without the delay after the clearing. -/
def retryUpload (nowMs : UInt32) (env : Env) (s : State) : State :=
  let again := { s with
    missionUploadRetry := s.missionUploadRetry + 1
    missionUploadTimeoutMs := nowMs + missionUploadTimeoutMs }
  let sent := sendMissionCount s.missionUploadWpCount (env.tx 1)
    (sendMissionClearAll (env.tx 0) again)
  sendEvent .missionUploadErr .error
    s!"MAVLINK_BRIDGE_APP: mission upload timeout retry={again.missionUploadRetry}" sent

/-- Give an upload up. -/
def failUpload (s : State) : State :=
  sendEvent .missionUploadErr .error
    s!"MAVLINK_BRIDGE_APP: mission upload failed after {missionMaxRetries} retries" { s with
      missionUploadState := .idle
      missionUploadFailCount := s.missionUploadFailCount + 1
      lastUploadResult := .timeout }

/-- Announce a cleared mission when its delay has passed, and try an upload again, or give it
up, when an answer is overdue. -/
def checkMissionUploadTimeout (nowMs : UInt32) (env : Env) (s : State) : State :=
  match s.missionUploadState with
  | .clearing =>
    if expired nowMs s.missionUploadTimeoutMs then announceMission nowMs env s else s
  | .idle => s
  | .active =>
    if expired nowMs s.missionUploadTimeoutMs then
      if s.missionUploadRetry < missionMaxRetries then retryUpload nowMs env s else failUpload s
    else s

end CfsTelemetry.Bridge
