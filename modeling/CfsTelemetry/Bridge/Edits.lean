import CfsTelemetry.Bridge.Moves

/-!
# Edits of the mission

What a route update leaves to be uploaded is its edit of the active list, and an upload that is
accepted makes it the active list. A second reading of what handles waypoints, with every access
to an array of them checked against its size, comes to the same state after every run, so none
is outside.
-/
namespace CfsTelemetry.Bridge

open Slots

/-- The waypoints that a route update gives, as many as its count says and its array has. -/
def givenWaypoints (msg : RouteUpdate) : List Waypoint := held msg.waypointCount.toNat msg.waypoints

/-- The mission that a route update makes of a mission: the given one, the mission with the given
one behind it, without one waypoint, or with another one in its place. -/
def editedMission (msg : RouteUpdate) (mission : List Waypoint) : List Waypoint :=
  match routeOp msg.routeType with
  | .replace => (givenWaypoints msg).take routeMaxWaypoints
  | .add => (mission ++ givenWaypoints msg).take routeMaxWaypoints
  | .delete => mission.eraseIdx msg.waypointCount.toNat
  | .modify => mission.set msg.waypointCount.toNat (slot msg.waypoints 0)

/-- The edit of a route update makes this mission of the active one. -/
theorem routeEdit_apply {s : State} (inRange : InRange s) (msg : RouteUpdate) :
    (routeEdit msg s).apply (activeList s) = editedMission msg (activeList s) := by
  have bound := inRange.active
  have length : (activeList s).length = s.activeWaypointCount.toNat := length_held bound _
  unfold routeEdit editedMission
  cases routeOp msg.routeType with
  | replace =>
    show held (min _ (routeMaxWaypoints - 0)) _ = (held _ _).take _
    rw [held, held, List.take_take, Nat.sub_zero, Nat.min_comm]
  | add =>
    show activeList s ++ held (min _ _) _ = (activeList s ++ held _ _).take _
    rw [List.take_append, length, List.take_of_length_le (by rw [length]; exact bound), held, held,
      List.take_take, Nat.min_comm]
  | delete => rfl
  | modify => rfl

/-- Append the waypoints of a message, with every access checked. -/
def checkedAdd (msg : RouteUpdate) (s : State) : Option (UInt8 × State) :=
  let activeCount := s.activeWaypointCount.toNat
  let newCountWide := activeCount + msg.waypointCount.toNat
  let truncated := decide (newCountWide > routeMaxWaypoints)
  let newCount := if truncated then routeMaxWaypoints else newCountWide
  let noted :=
    if truncated then sendEvent .missionUploadErr .error
      (s!"MAVLINK_BRIDGE_APP: add truncated active={s.activeWaypointCount} " ++
        s!"new={msg.waypointCount} max={routeMaxWaypoints}") s
    else s
  let kept := min activeCount newCount
  let copied := fillChecked (fun i => s.activeWaypoints[i]?) 0 kept s.missionPending
  let added := copied.bind (fillChecked (fun i => msg.waypoints[i - activeCount]?) kept
    (newCount - kept))
  added.map fun pending => (UInt8.ofNat newCount, { noted with missionPending := pending })

/-- Leave out the active waypoint at an index, with every access checked. -/
def checkedDelete (index : UInt8) (s : State) : Option (Except State (UInt8 × State)) :=
  if index ≥ s.activeWaypointCount ∨ index = s.activeResumeIndex then some (deleteWaypoint index s)
  else
    let newCount := s.activeWaypointCount - 1
    let copied := fillChecked
      (fun i => s.activeWaypoints[if i < index.toNat then i else i + 1]?) 0 newCount.toNat
      s.missionPending
    copied.map fun pending => .ok (newCount, { s with
      missionPending := pending
      activeResumeIndex :=
        if index < s.activeResumeIndex then s.activeResumeIndex - 1 else s.activeResumeIndex })

/-- Put the first waypoint of a message in the place of an active one, with every access
checked. -/
def checkedModify (index : UInt8) (msg : RouteUpdate) (s : State) :
    Option (Except State (UInt8 × State)) :=
  if index ≥ s.activeWaypointCount then some (modifyWaypoint index msg s)
  else
    let copied := fillChecked
      (fun i => if i = index.toNat then msg.waypoints[0]? else s.activeWaypoints[i]?) 0
      s.activeWaypointCount.toNat s.missionPending
    copied.map fun pending =>
      .ok (s.activeWaypointCount, { s with missionPending := pending })

/-- Replace the whole mission, with every access checked. -/
def checkedReplace (msg : RouteUpdate) (s : State) : Option (UInt8 × State) :=
  let newCount :=
    if msg.waypointCount.toNat > routeMaxWaypoints then UInt8.ofNat routeMaxWaypoints
    else msg.waypointCount
  let copied := fillChecked (fun i => msg.waypoints[i]?) 0 newCount.toNat s.missionPending
  copied.map fun pending => (newCount, { s with missionPending := pending })

/-- Build the pending mission, with every access checked. -/
def checkedBuild (msg : RouteUpdate) (s : State) : Option (Except State (UInt8 × State)) :=
  match routeOp msg.routeType with
  | .add => (checkedAdd msg s).map .ok
  | .delete => checkedDelete msg.waypointCount s
  | .modify => checkedModify msg.waypointCount msg s
  | .replace => (checkedReplace msg s).map .ok

/-- Appending accesses slots that exist. -/
theorem checkedAdd_eq (msg : RouteUpdate) {s : State} (inRange : InRange s) :
    checkedAdd msg s = some (addWaypoints msg s) := by
  have bound := inRange.active
  have small : routeMaxWaypoints = 37 := rfl
  unfold checkedAdd addWaypoints
  extract_lets activeCount newCountWide truncated newCount noted kept copied added copied'
  have base : noted.missionPending = s.missionPending := by
    simp only [noted]
    split <;> rfl
  have active : noted.activeWaypoints = s.activeWaypoints := by
    simp only [noted]
    split <;> rfl
  have most : newCount ≤ routeMaxWaypoints := by
    simp only [newCount]
    split
    · exact Nat.le_refl _
    · rename_i other
      exact Nat.not_lt.mp fun above => other (decide_eq_true above)
  have sum : newCount ≤ activeCount + msg.waypointCount.toNat := by
    simp only [newCount]
    split
    · rename_i above
      exact Nat.le_of_lt (of_decide_eq_true above)
    · exact Nat.le_refl _
  have first : copied = some (fill (slot s.activeWaypoints) 0 kept s.missionPending) :=
    fillChecked_eq (by omega) (fun index _ before => getElem?_of_lt (by omega) _) _
  have second : added = some (fill (fun i => slot msg.waypoints (i - activeCount)) kept
      (newCount - kept) (fill (slot s.activeWaypoints) 0 kept s.missionPending)) := by
    simp only [added, first, Option.bind_some]
    exact fillChecked_eq (by omega) (fun index _ before => getElem?_of_lt (by omega) _) _
  have loop : copied' = { noted with
      missionPending := fill (slot s.activeWaypoints) 0 kept s.missionPending } := by
    rw [← active, ← base]
    exact forSlots_fill noted (fun _ _ => rfl) _ _ _
  rw [second, loop]
  have last := forSlots_fill noted
    (fun index pending => (rfl : copyMsgToPending index (slot msg.waypoints (index - activeCount))
      { noted with missionPending := pending } = _)) kept (newCount - kept)
    (fill (slot s.activeWaypoints) 0 kept s.missionPending)
  rw [last]
  rfl

/-- Leaving a waypoint out accesses slots that exist. -/
theorem checkedDelete_eq (index : UInt8) {s : State} (inRange : InRange s) :
    checkedDelete index s = some (deleteWaypoint index s) := by
  have bound := inRange.active
  unfold checkedDelete
  split
  · rfl
  · rename_i accepted
    have ⟨inside, other⟩ := not_or.mp accepted
    have below := UInt8.lt_iff_toNat_lt.mp (UInt8.not_le.mp inside)
    have less : (s.activeWaypointCount - 1).toNat = s.activeWaypointCount.toNat - 1 := by
      apply UInt8.toNat_sub_of_le
      rw [UInt8.le_iff_toNat_le]
      show 1 ≤ s.activeWaypointCount.toNat
      omega
    have copied := @fillChecked_eq _ _
      (fun i => s.activeWaypoints[if i < index.toNat then i else i + 1]?)
      (fun i => slot s.activeWaypoints (if i < index.toNat then i else i + 1)) 0
      (s.activeWaypointCount - 1).toNat (by omega)
      (fun i _ before => getElem?_of_lt (by split <;> omega) _) s.missionPending
    have loop : forSlots
        (fun i => copyActiveToPending i (if i < index.toNat then i else i + 1)) 0
        (s.activeWaypointCount - 1).toNat s = { s with
      missionPending := fill
        (fun i => slot s.activeWaypoints (if i < index.toNat then i else i + 1)) 0
        (s.activeWaypointCount - 1).toNat s.missionPending } :=
      forSlots_fill s (fun _ _ => rfl) _ _ _
    unfold deleteWaypoint
    dsimp only
    rw [if_neg inside, if_neg other, copied, loop]
    rfl

/-- Exchanging a waypoint accesses slots that exist. -/
theorem checkedModify_eq (index : UInt8) (msg : RouteUpdate) {s : State} (inRange : InRange s) :
    checkedModify index msg s = some (modifyWaypoint index msg s) := by
  have bound := inRange.active
  have small : routeMaxWaypoints = 37 := rfl
  unfold checkedModify
  split
  · rfl
  · rename_i inside
    have copied := @fillChecked_eq _ _
      (fun i => if i = index.toNat then msg.waypoints[0]? else s.activeWaypoints[i]?)
      (fun i => if i = index.toNat then slot msg.waypoints 0 else slot s.activeWaypoints i) 0
      s.activeWaypointCount.toNat (by omega)
      (fun i _ before => by
        split
        · exact getElem?_of_lt (by omega) _
        · exact getElem?_of_lt (by omega) _) s.missionPending
    have loop : forSlots (fun i => if i = index.toNat then copyMsgToPending i (slot msg.waypoints 0)
        else copyActiveToPending i i) 0 s.activeWaypointCount.toNat s = { s with
      missionPending := fill
        (fun i => if i = index.toNat then slot msg.waypoints 0 else slot s.activeWaypoints i) 0
        s.activeWaypointCount.toNat s.missionPending } := by
      refine forSlots_fill s (fun i pending => ?_) _ _ _
      by_cases chosen : i = index.toNat
      · simp only [if_pos chosen]
        rfl
      · simp only [if_neg chosen]
        rfl
    unfold modifyWaypoint
    dsimp only
    rw [if_neg inside, copied, loop]
    rfl

/-- Replacing the mission accesses slots that exist. -/
theorem checkedReplace_eq (msg : RouteUpdate) (s : State) :
    checkedReplace msg s = some (replaceWaypoints msg s) := by
  have fits := (replaceWaypoints_builds msg s).fits
  have copied := @fillChecked_eq _ _ (fun i => msg.waypoints[i]?) (slot msg.waypoints) 0
    (replaceWaypoints msg s).1.toNat (by omega)
    (fun i _ before => getElem?_of_lt (by omega) _) s.missionPending
  have loop : forSlots (fun i => copyMsgToPending i (slot msg.waypoints i)) 0
      (replaceWaypoints msg s).1.toNat s = { s with
    missionPending := fill (slot msg.waypoints) 0 (replaceWaypoints msg s).1.toNat
      s.missionPending } :=
    forSlots_fill s (fun _ _ => rfl) _ _ _
  unfold checkedReplace
  extract_lets newCount copied'
  have filled : copied' = some (fill (slot msg.waypoints) 0 (replaceWaypoints msg s).1.toNat
    s.missionPending) := copied
  rw [filled]
  exact congrArg (fun copied => some ((replaceWaypoints msg s).1, copied)) loop.symm

/-- Building the pending mission accesses slots that exist. -/
theorem checkedBuild_eq (msg : RouteUpdate) {s : State} (inRange : InRange s) :
    checkedBuild msg s = some (buildPending msg s) := by
  unfold checkedBuild buildPending
  cases routeOp msg.routeType with
  | add =>
    dsimp only
    rw [checkedAdd_eq msg inRange, Option.map_some]
  | delete => exact checkedDelete_eq msg.waypointCount inRange
  | modify => exact checkedModify_eq msg.waypointCount msg inRange
  | replace =>
    dsimp only
    rw [checkedReplace_eq, Option.map_some]

/-- Handle a route update, with every access checked. -/
def checkedStart (env : Env) (msg : RouteUpdate) (s : State) : Option State :=
  let called := sendEvent .missionUploadInf .information
    (s!"MAVLINK_BRIDGE_APP: StartMissionUpload called op={msg.routeType} " ++
      s!"wp={msg.waypointCount} active={s.activeWaypointCount} link={s.linkState.code}") s
  if s.linkState ≠ .connected then
    some (sendEvent .missionUploadErr .error
      "MAVLINK_BRIDGE_APP: route update ignored - FC link not connected" called)
  else if s.missionDownloadState ≠ .idle then
    some (sendEvent .missionUploadErr .error
      ("MAVLINK_BRIDGE_APP: route update ignored - mission readback in progress " ++
        s!"state={s.missionDownloadState.code}") called)
  else
    (checkedBuild msg called).map fun
      | .error rejected => rejected
      | .ok (newCount, built) => beginUpload env newCount built

/-- A route update accesses slots that exist. -/
theorem checkedStart_eq (env : Env) (msg : RouteUpdate) {s : State} (inRange : InRange s) :
    checkedStart env msg s = some (startMissionUpload env msg s) := by
  unfold checkedStart startMissionUpload
  extract_lets called
  have same : InRange called := ⟨inRange.active, inRange.pending⟩
  split
  · rfl
  · split
    · rfl
    · exact Option.map_eq_some_iff.mpr ⟨_, checkedBuild_eq msg same, rfl⟩

/-! ## Checked frames -/

/-- Send the pending waypoint at an index, with the access checked. -/
def checkedItemInt (seq : UInt8) (fault : Option TxFault) (s : State) : Option State :=
  s.missionPending[seq.toNat]?.map fun wp =>
    (sendMavlinkV2 .missionItemInt (missionItemIntPayload s.targetSystemId s.targetComponentId
      wp seq (seq == s.activeResumeIndex)) fault s).2

/-- Send the pending waypoint at an index as a legacy item, with the access checked. -/
def checkedItem (seq : UInt8) (fault : Option TxFault) (s : State) : Option State :=
  s.missionPending[seq.toNat]?.map fun wp =>
    (sendMavlinkV2 .missionItem (missionItemPayload s.targetSystemId s.targetComponentId
      wp seq) fault s).2

/-- Handle a request for an item, with the access checked. -/
def checkedMissionRequestInt (env : Env) (frame : RxFrame) (rxTimestampMs : UInt32) (s : State) :
    Option State :=
  if frame.checks .missionRequestInt ∧ frame.payloadLen ≥ 2 then
    if answersRequest frame s then
      checkedItemInt (readU16LE frame.payload 0).toUInt8 (env.tx 0)
        (awaitRequest (rxTimestampMs + missionUploadTimeoutMs) s)
    else some s
  else some (recordParseError .parseFail s)

/-- Handle a legacy request for an item, with the access checked. -/
def checkedMissionRequest (env : Env) (frame : RxFrame) (rxTimestampMs : UInt32) (s : State) :
    Option State :=
  let valid := frame.checks .missionRequest
  let noted := sendEvent .missionUploadInf .information
    (s!"MAVLINK_BRIDGE_APP: rx MISSION_REQUEST len={frame.payloadLen} " ++
      s!"crc_ok={if valid then 1 else 0} state={s.missionUploadState.code}") s
  if valid ∧ frame.payloadLen ≥ 2 then
    if answersRequest frame s then
      checkedItem (readU16LE frame.payload 0).toUInt8 (env.tx 0)
        (awaitRequest (rxTimestampMs + missionUploadTimeoutMs) noted)
    else some noted
  else some (recordParseError .parseFail noted)

/-- Commit the pending mission of an accepted upload, with every access checked. -/
def checkedCommit (env : Env) (rxTimestampMs : UInt32) (s : State) : Option State :=
  let confirmedCount := s.missionUploadWpCount
  let copied := fillChecked (fun j => s.missionPending[j]?) 0 confirmedCount.toNat s.activeWaypoints
  copied.map fun waypoints =>
    let committed := sendEvent .missionUploadInf .information
      s!"MAVLINK_BRIDGE_APP: mission upload success wp_count={confirmedCount}" { s with
        missionUploadState := .idle
        missionUploadSuccessCount := s.missionUploadSuccessCount + 1
        lastUploadResult := .success
        lastUploadTimestampMs := rxTimestampMs
        lastUploadWaypointCount := confirmedCount
        activeWaypointCount := confirmedCount
        activeWaypoints := waypoints }
    if s.missionDownloadState = .idle then startFcMissionReadback env committed else committed

/-- Handle a mission acknowledgement, with every access checked. -/
def checkedMissionAck (env : Env) (frame : RxFrame) (rxTimestampMs : UInt32) (s : State) :
    Option State :=
  if (frame.checks .missionAck ∧ frame.payloadLen ≥ 2) ∧ s.missionUploadState = .active ∧
      ackResult frame = missionAccepted then checkedCommit env rxTimestampMs s
  else some (handleMissionAck env frame rxTimestampMs s)

/-- Publish the downloaded mission, with every access checked. -/
def checkedReadback (env : Env) (s : State) : Option State :=
  let expected := s.missionDownloadExpectedCount
  let clamped := decide (expected.toNat > routeMaxWaypoints)
  let count := if clamped then UInt8.ofNat routeMaxWaypoints else expected
  let noted :=
    if clamped then sendEvent .missionReadback .information
      s!"MAVLINK_BRIDGE_APP: readback clamped {expected}->{routeMaxWaypoints} waypoints" s
    else s
  let seq := s.missionReadbackSeq + 1
  let copied := fillChecked (fun i => s.missionDownloadWaypoints[i]?) 0 count.toNat
    s.fcMissionReadbackTlm.waypoints
  copied.map fun waypoints =>
    let tlm : RouteUpdate := {
      seq := seq
      timestampMs := env.timeMs
      sourceSequence := 0
      routeType := 1
      routeVersion := 0
      waypointCount := count
      waypoints := waypoints }
    sendEvent .missionReadback .information
      s!"MAVLINK_BRIDGE_APP: FC mission readback published wp_count={count} seq={seq}"
      (transmitMsg (.fcMissionReadback tlm)
        { noted with missionReadbackSeq := seq, fcMissionReadbackTlm := tlm })

/-- Handle the item count of a download, with every access checked. -/
def checkedMissionCount (env : Env) (frame : RxFrame) (rxTimestampMs : UInt32) (s : State) :
    Option State :=
  if frame.checks .missionCount ∧ frame.payloadLen ≥ 2 then
    let count := readU16LE frame.payload 0
    let noted := sendEvent .missionDownloadInf .information
      s!"MAVLINK_BRIDGE_APP: MISSION_COUNT from FC: {count} waypoints" { s with
        missionDownloadExpectedCount := if count > 255 then 255 else count.toUInt8 }
    if count = 0 then
      checkedReadback env (sendEvent .missionDownloadInf .information
        "MAVLINK_BRIDGE_APP: MISSION download complete: 0 waypoints (empty)"
        (sendMissionAckAccepted (env.tx 0) { noted with missionDownloadState := .idle }))
    else
      some (sendMissionRequestIntDownload 0 (env.tx 0) { noted with
        missionDownloadState := .waitItem
        missionDownloadSeq := 0
        missionDownloadTimeoutMs := rxTimestampMs + missionDownloadTimeoutMs })
  else some (recordParseError .parseFail s)

/-- Handle an item of a download, with every access checked; an item without a slot is not
stored. -/
def checkedMissionItemInt (env : Env) (frame : RxFrame) (rxTimestampMs : UInt32) (s : State) :
    Option State :=
  if frame.checks .missionItemInt ∧ frame.payloadLen ≥ 32 then
    let wp := itemWaypoint frame.payload
    let noted := sendEvent .missionDownloadInf .information
      (s!"MAVLINK_BRIDGE_APP: [wp {itemSeq frame.payload}] " ++
        s!"lat={fixedText 7 (degreesE7 wp.latE7).toBits} " ++
        s!"lon={fixedText 7 (degreesE7 wp.lonE7).toBits} " ++
        s!"alt={fixedText 2 wp.z} cmd={readU16LE frame.payload 30}") s
    let seq := s.missionDownloadSeq + 1
    let written :=
      if s.missionDownloadSeq.toNat < routeMaxWaypoints then
        write s.missionDownloadSeq.toNat wp s.missionDownloadWaypoints
      else some s.missionDownloadWaypoints
    written.bind fun waypoints =>
      let stored := { noted with
        missionDownloadWaypoints := waypoints
        missionDownloadSeq := seq }
      if seq ≥ s.missionDownloadExpectedCount then
        let acknowledged := sendMissionAckAccepted (env.tx 0) stored
        checkedReadback env (sendEvent .missionDownloadInf .information
          ("MAVLINK_BRIDGE_APP: MISSION download complete: " ++
            s!"{s.missionDownloadExpectedCount} waypoints")
          { acknowledged with missionDownloadState := .idle })
      else
        some (sendMissionRequestIntDownload seq (env.tx 0)
          { stored with missionDownloadTimeoutMs := rxTimestampMs + missionDownloadTimeoutMs })
  else some (recordParseError .parseFail s)

/-- Handle a complete frame, with every access to waypoints checked. -/
def checkedFrame (env : Env) (frame : RxFrame) (rxTimestampMs : UInt32) (s : State) :
    Option State :=
  if frame.msgId = MessageKind.missionRequestInt.id then
    checkedMissionRequestInt env frame rxTimestampMs s
  else if frame.msgId = MessageKind.missionRequest.id then
    checkedMissionRequest env frame rxTimestampMs s
  else if frame.msgId = MessageKind.missionAck.id then
    checkedMissionAck env frame rxTimestampMs s
  else if frame.msgId = MessageKind.missionCount.id ∧ s.missionDownloadState = .waitCount then
    checkedMissionCount env frame rxTimestampMs s
  else if frame.msgId = MessageKind.missionItemInt.id ∧ s.missionDownloadState = .waitItem then
    checkedMissionItemInt env frame rxTimestampMs s
  else some (handleFrameComplete env frame rxTimestampMs s)

/-- What the bridge does when something happens to it, with every access to waypoints checked. -/
def checkedStep (s : State) : Input → Option State
  | .routeUpdate msg env => checkedStart env msg s
  | .frame frame rxTimestampMs env => checkedFrame env frame rxTimestampMs s
  | input => some (step s input)

/-- An answered request accesses a slot that exists. -/
theorem answered_lt {frame : RxFrame} {s : State} (inRange : InRange s)
    (answers : answersRequest frame s = true) :
    (readU16LE frame.payload 0).toUInt8.toNat < routeMaxWaypoints := by
  have ⟨_, inside⟩ := of_decide_eq_true answers
  have bound := inRange.pending
  rw [UInt16.toNat_toUInt8]
  have less := Nat.mod_le (readU16LE frame.payload 0).toNat (2 ^ 8)
  omega

/-- A request for an item accesses slots that exist. -/
theorem checkedMissionRequestInt_eq (env : Env) (frame : RxFrame) (rxTimestampMs : UInt32)
    {s : State} (inRange : InRange s) :
    checkedMissionRequestInt env frame rxTimestampMs s =
      some (handleMissionRequestInt env frame rxTimestampMs s) := by
  unfold checkedMissionRequestInt handleMissionRequestInt
  split
  · split
    · rename_i answers
      rw [checkedItemInt, getElem?_of_lt (answered_lt inRange answers)]
      rfl
    · rfl
  · rfl

/-- A legacy request accesses slots that exist. -/
theorem checkedMissionRequest_eq (env : Env) (frame : RxFrame) (rxTimestampMs : UInt32)
    {s : State} (inRange : InRange s) :
    checkedMissionRequest env frame rxTimestampMs s =
      some (handleMissionRequest env frame rxTimestampMs s) := by
  unfold checkedMissionRequest handleMissionRequest
  dsimp only
  split
  · split
    · rename_i answers
      rw [checkedItem, getElem?_of_lt (answered_lt inRange answers)]
      rfl
    · rfl
  · rfl

/-- Committing a mission accesses slots that exist. -/
theorem checkedCommit_eq (env : Env) (rxTimestampMs : UInt32) {s : State} (inRange : InRange s) :
    checkedCommit env rxTimestampMs s = some (commitUpload env rxTimestampMs s) := by
  have bound := inRange.pending
  have copied := @fillChecked_eq _ _ (fun j => s.missionPending[j]?) (slot s.missionPending) 0
    s.missionUploadWpCount.toNat (by omega) (fun j _ before => getElem?_of_lt (by omega) _)
    s.activeWaypoints
  unfold checkedCommit
  dsimp only
  rw [copied]
  rfl

/-- A mission acknowledgement accesses slots that exist. -/
theorem checkedMissionAck_eq (env : Env) (frame : RxFrame) (rxTimestampMs : UInt32) {s : State}
    (inRange : InRange s) :
    checkedMissionAck env frame rxTimestampMs s =
      some (handleMissionAck env frame rxTimestampMs s) := by
  unfold checkedMissionAck
  split
  · rename_i accepts
    have ⟨valid, active, accepted⟩ := accepts
    rw [checkedCommit_eq env rxTimestampMs inRange, handleMissionAck, if_pos valid, if_pos active,
      if_pos accepted]
  · rfl

/-- Publishing a downloaded mission accesses slots that exist. -/
theorem checkedReadback_eq (env : Env) (s : State) :
    checkedReadback env s = some (publishFcMissionReadback env s) := by
  have small : (UInt8.ofNat routeMaxWaypoints).toNat = routeMaxWaypoints := rfl
  unfold checkedReadback publishFcMissionReadback
  extract_lets expected clamped count noted seq copied tlm
  have fits : count.toNat ≤ routeMaxWaypoints := by
    simp only [count]
    split
    · rw [small]
    · rename_i other
      exact Nat.not_lt.mp fun above => other (decide_eq_true above)
  have filled : copied = some (fill (slot s.missionDownloadWaypoints) 0 count.toNat
      s.fcMissionReadbackTlm.waypoints) :=
    fillChecked_eq (by omega) (fun i _ before => getElem?_of_lt (by omega) _) _
  rw [filled]
  rfl

/-- The item count of a download accesses slots that exist. -/
theorem checkedMissionCount_eq (env : Env) (frame : RxFrame) (rxTimestampMs : UInt32)
    (s : State) :
    checkedMissionCount env frame rxTimestampMs s =
      some (handleMissionCount env frame rxTimestampMs s) := by
  unfold checkedMissionCount handleMissionCount
  split
  · dsimp only
    split
    · exact checkedReadback_eq env _
    · rfl
  · rfl

/-- An item of a download accesses slots that exist. -/
theorem checkedMissionItemInt_eq (env : Env) (frame : RxFrame) (rxTimestampMs : UInt32)
    (s : State) :
    checkedMissionItemInt env frame rxTimestampMs s =
      some (handleMissionItemInt env frame rxTimestampMs s) := by
  have written (wp : Waypoint) : (if s.missionDownloadSeq.toNat < routeMaxWaypoints then
        write s.missionDownloadSeq.toNat wp s.missionDownloadWaypoints
      else some s.missionDownloadWaypoints) =
        some (s.missionDownloadWaypoints.setIfInBounds s.missionDownloadSeq.toNat wp) := by
    split
    · rename_i inside
      exact if_pos inside
    · rename_i outside
      rw [Vector.setIfInBounds_eq_of_size_le (Nat.not_lt.mp outside)]
  unfold checkedMissionItemInt handleMissionItemInt
  split
  · dsimp only
    rw [written, Option.bind_some]
    split
    · exact checkedReadback_eq env _
    · rfl
  · rfl

/-- A complete frame accesses slots that exist. -/
theorem checkedFrame_eq (env : Env) (frame : RxFrame) (rxTimestampMs : UInt32) {s : State}
    (inRange : InRange s) :
    checkedFrame env frame rxTimestampMs s =
      some (handleFrameComplete env frame rxTimestampMs s) := by
  unfold checkedFrame
  by_cases requestInt : frame.msgId = MessageKind.missionRequestInt.id
  · have handler : (MessageKind.missionRequestInt, handleMissionRequestInt) ∈ ownHandlers := by
      simp [ownHandlers]
    rw [if_pos requestInt, handleFrameComplete_own handler env requestInt,
      checkedMissionRequestInt_eq env frame rxTimestampMs inRange]
  rw [if_neg requestInt]
  by_cases request : frame.msgId = MessageKind.missionRequest.id
  · have handler : (MessageKind.missionRequest, handleMissionRequest) ∈ ownHandlers := by
      simp [ownHandlers]
    rw [if_pos request, handleFrameComplete_own handler env request,
      checkedMissionRequest_eq env frame rxTimestampMs inRange]
  rw [if_neg request]
  by_cases ack : frame.msgId = MessageKind.missionAck.id
  · have handler : (MessageKind.missionAck, handleMissionAck) ∈ ownHandlers := by
      simp [ownHandlers]
    rw [if_pos ack, handleFrameComplete_own handler env ack,
      checkedMissionAck_eq env frame rxTimestampMs inRange]
  rw [if_neg ack]
  by_cases count : frame.msgId = MessageKind.missionCount.id ∧ s.missionDownloadState = .waitCount
  · rw [if_pos count, handleFrameComplete_missionCount env count.1, if_pos count.2,
      checkedMissionCount_eq]
  rw [if_neg count]
  by_cases item : frame.msgId = MessageKind.missionItemInt.id ∧ s.missionDownloadState = .waitItem
  · rw [if_pos item, handleFrameComplete_missionItemInt env item.1, if_pos item.2,
      checkedMissionItemInt_eq]
  · rw [if_neg item]

/-- Whatever happens to the bridge, it accesses slots that exist. -/
theorem checkedStep_eq {s : State} (inRange : InRange s) (input : Input) :
    checkedStep s input = some (step s input) := by
  cases input with
  | routeUpdate msg env => exact checkedStart_eq env msg inRange
  | frame frame rxTimestampMs env => exact checkedFrame_eq env frame rxTimestampMs inRange
  | _ => rfl

/-- After every run, a route update that is taken up leaves its edit of the active list to be
uploaded, and one that names no waypoint of it, or would leave out the one to resume at, starts no
upload; an accepting acknowledgement makes the pending list the active one; and the counts, and
every access to an array of waypoints, are within the arrays. -/
theorem mission_edits (config : ConfigParams) (inputs : List Input) :
    let s := Run.run step (initialState config) inputs
    (∀ (env : Env) (msg : RouteUpdate), startsUpload msg s = true →
      (startMissionUpload env msg s).missionUploadState = .clearing ∧
      pendingList (startMissionUpload env msg s) = editedMission msg (activeList s) ∧
      activeList (startMissionUpload env msg s) = activeList s) ∧
    (∀ (env : Env) (msg : RouteUpdate), startsUpload msg s = false →
      ∃ events, startMissionUpload env msg s = { s with events := events }) ∧
    (∀ msg : RouteUpdate,
      (routeOp msg.routeType = .delete ∨ routeOp msg.routeType = .modify →
        (activeList s).length ≤ msg.waypointCount.toNat → startsUpload msg s = false) ∧
      (routeOp msg.routeType = .delete → msg.waypointCount = s.activeResumeIndex →
        startsUpload msg s = false)) ∧
    (∀ (env : Env) (frame : RxFrame) (rxTimestampMs : UInt32),
      acknowledgedResult frame = some missionAccepted → s.missionUploadState = .active →
        activeList (handleFrameComplete env frame rxTimestampMs s) = pendingList s) ∧
    s.activeWaypointCount.toNat ≤ 37 ∧ s.missionUploadWpCount.toNat ≤ 37 ∧
    ∀ input : Input, checkedStep s input = some (step s input) := by
  intro s
  have inRange : InRange s := run_inRange (initialState_inRange config) inputs
  have length : (activeList s).length = s.activeWaypointCount.toNat :=
    length_held inRange.active _
  refine ⟨?_, ?_, ?_, ?_, inRange.active, inRange.pending, checkedStep_eq inRange⟩
  · intro env msg starts
    have moves := (startMissionUpload_starts inRange env starts).plan
    have phase := congrArg Transfer.phase moves
    have clearing : (startMissionUpload env msg s).missionUploadState = .clearing := by
      change UploadState.phase _ = .prepared at phase
      cases state : (startMissionUpload env msg s).missionUploadState with
      | clearing => rfl
      | idle =>
        rw [state] at phase
        cases phase
      | active =>
        rw [state] at phase
        cases phase
    have pending := congrArg Transfer.pending moves
    exact ⟨clearing, pending.trans (routeEdit_apply inRange msg),
      congrArg Transfer.committed moves⟩
  · exact fun env msg ignored => startMissionUpload_ignored env ignored
  · intro msg
    constructor
    · intro named outside
      rw [length] at outside
      have refused : acceptsEdit msg s = false := by
        unfold acceptsEdit
        rcases named with named | named
        · simp [named, UInt8.lt_iff_toNat_lt, outside]
        · simp [named, UInt8.le_iff_toNat_le, outside]
      simp [startsUpload, refused]
    · intro named target
      have refused : acceptsEdit msg s = false := by
        simp [acceptsEdit, named, target]
      simp [startsUpload, refused]
  · intro env frame rxTimestampMs acknowledged active
    have accepts : uploadAction s (.frame frame rxTimestampMs env) = .accept :=
      uploadAction_accept_iff.mpr ⟨frame, rxTimestampMs, env, rfl, acknowledged, active⟩
    have ⟨frames, moves, _⟩ := step_moves inRange (.frame frame rxTimestampMs env)
    rw [accepts] at moves
    exact congrArg Transfer.committed moves.plan

/-- A route update that replaces the mission by two waypoints. -/
def twoWaypoints : RouteUpdate where
  seq := 1
  timestampMs := 2000
  sourceSequence := 1
  routeType := 1
  routeVersion := 0
  waypointCount := 2
  waypoints := fill (fun index => ⟨16, 0, 0, 0, 0, 10 + Int32.ofNat index, 20, 30⟩) 0 2
    WaypointArray.zero

/-- On a new connection a route update replaces the mission. -/
theorem mission_edits_replaced :
    pendingList (startMissionUpload (Env.at 2000) twoWaypoints
      (Run.run step (initialState .default) connection)) =
        [⟨16, 0, 0, 0, 0, 10, 20, 30⟩, ⟨16, 0, 0, 0, 0, 11, 20, 30⟩] :=
  ((mission_edits .default connection).1 (Env.at 2000) twoWaypoints (by decide +kernel)).2.1.trans
    (by decide +kernel)

end CfsTelemetry.Bridge
