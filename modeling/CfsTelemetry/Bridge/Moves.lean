import CfsTelemetry.Bridge.Plan

/-!
# What moves the upload

Each input means an action of the transfer, and a step of the bridge carries that action out: on
the lists, on the frames it sends and on the success counter.
-/
namespace CfsTelemetry.Bridge

open Slots

/-- Whether a frame is a valid message of a kind with as many bytes as its handler reads. -/
def RxFrame.valid (frame : RxFrame) (kind : MessageKind) : Bool :=
  frame.msgId = kind.id ∧ frame.checks kind ∧ frame.payloadLen ≥ 2

/-- The item index a frame asks for. -/
def requestedIndex (frame : RxFrame) : Option UInt16 :=
  if frame.valid .missionRequestInt ∨ frame.valid .missionRequest then
    some (readU16LE frame.payload 0)
  else none

/-- A request asks for the index its payload begins with. -/
theorem requestedIndex_eq {frame : RxFrame} {index : UInt16}
    (asks : requestedIndex frame = some index) : readU16LE frame.payload 0 = index := by
  unfold requestedIndex at asks
  split at asks
  · exact Option.some.inj asks
  · cases asks

/-- The result that a frame acknowledges a mission with. -/
def acknowledgedResult (frame : RxFrame) : Option UInt8 :=
  if frame.valid .missionAck then some (ackResult frame) else none

/-- The current item a frame announces. -/
def announcedCurrent (frame : RxFrame) : Option UInt8 :=
  if frame.valid .missionCurrent then some (currentIndex frame) else none

/-- A message of one kind is no valid message of another. -/
theorem RxFrame.valid_of_ne {frame : RxFrame} {kind : MessageKind} (other : frame.msgId ≠ kind.id) :
    frame.valid kind = false := by
  simp [RxFrame.valid, other]

/-- Whether a route update starts an upload. -/
def startsUpload (msg : RouteUpdate) (s : State) : Bool :=
  s.linkState = .connected ∧ s.missionDownloadState = .idle ∧ acceptsEdit msg s

/-- What the timeout of the upload means for it. -/
def checkAction (nowMs : UInt32) (s : State) : Transfer.Action Waypoint :=
  match s.missionUploadState with
  | .idle => .silent
  | .clearing => if expired nowMs s.missionUploadTimeoutMs then .offer else .silent
  | .active =>
    if expired nowMs s.missionUploadTimeoutMs then
      if s.missionUploadRetry < missionMaxRetries then .offer else .drop
    else .silent

/-- What a frame means for the upload. -/
def frameAction (frame : RxFrame) (s : State) : Transfer.Action Waypoint :=
  match requestedIndex frame, acknowledgedResult frame, announcedCurrent frame with
  | some index, _, _ =>
    if answersRequest frame s then .answer index.toNat else .silent
  | none, some result, _ =>
    if s.missionUploadState = .active then
      if result = missionAccepted then .accept else .drop
    else .silent
  | none, none, some current => .remark current.toNat
  | none, none, none => .silent

/-- What an input means for the upload. -/
def uploadAction (s : State) : Input → Transfer.Action Waypoint
  | .routeUpdate msg _ => if startsUpload msg s then .start (routeEdit msg s) else .silent
  | .checkUpload nowMs _ => checkAction nowMs s
  | .frame frame _ _ => frameAction frame s
  | _ => .silent

/-- The frame that announces the pending mission. -/
def countFrame (seq : UInt8) (s : State) : TxFrame :=
  ⟨seq, .missionCount, Words.bytes16 s.missionUploadWpCount.toUInt16 ++
    [s.targetSystemId, s.targetComponentId, missionTypeMission]⟩

/-- The frame that answers a request for an item. -/
def itemFrame (frame : RxFrame) (s : State) : TxFrame :=
  let index := (readU16LE frame.payload 0).toUInt8
  let wp := slot s.missionPending index.toNat
  if frame.msgId = MessageKind.missionRequestInt.id then
    ⟨s.txSequence, .missionItemInt, missionItemIntPayload s.targetSystemId s.targetComponentId
      wp index (index == s.activeResumeIndex)⟩
  else
    ⟨s.txSequence, .missionItem, missionItemPayload s.targetSystemId s.targetComponentId wp
      index⟩

/-- The upload frames that a received frame is answered with. -/
def frameTx (frame : RxFrame) (env : Env) (s : State) : List TxFrame :=
  match frameAction frame s with
  | .answer _ => if takes (env.tx 0) s then [itemFrame frame s] else []
  | _ => []

/-- The upload frames that go with an input: the answer to a request when the line takes it, and
the count with an offer unless its write fails. -/
def Carries (s : State) (input : Input) (frames : List TxFrame) : Prop :=
  match input with
  | .frame frame _ env => frames = frameTx frame env s
  | .checkUpload nowMs _ =>
    match checkAction nowMs s with
    | .offer => frames = [] ∨ ∃ seq, frames = [countFrame seq s]
    | _ => frames = []
  | _ => frames = []

/-- The success counter after an action. -/
def countSuccess (action : Transfer.Action Waypoint) (count : UInt32) : UInt32 :=
  match action with
  | .accept => count + 1
  | _ => count

/-! ## Steps -/

/-- What a step does to the upload: an action of the transfer, and the frames it sends. -/
structure Moves (action : Transfer.Action Waypoint) (frames : List TxFrame) (s s' : State) :
    Prop where
  plan : plan s' = (plan s).step action
  inRange : InRange s'
  emits : Emits frames s s'
  success : s'.missionUploadSuccessCount = countSuccess action s.missionUploadSuccessCount

/-- The transfer depends on the view only. -/
theorem plan_of_view {s s' : State} (view : uploadView s' = uploadView s) : plan s' = plan s := by
  have equal := congrArg (fun view : UploadView => Transfer.mk view.state.phase
    (held view.wpCount.toNat view.pending) (held view.activeCount.toNat view.activeWaypoints)
    view.resume.toNat) view
  exact equal

/-- Being in range depends on the view only. -/
theorem inRange_of_view {s s' : State} (view : uploadView s' = uploadView s)
    (inRange : InRange s) : InRange s' := by
  have active : s'.activeWaypointCount = s.activeWaypointCount :=
    congrArg UploadView.activeCount view
  have pending : s'.missionUploadWpCount = s.missionUploadWpCount :=
    congrArg UploadView.wpCount view
  constructor
  · rw [active]
    exact inRange.active
  · rw [pending]
    exact inRange.pending

/-- What has nothing to do with the upload does not move it. -/
theorem Silent.moves {s s' : State} (inRange : InRange s) (silent : Silent s s') :
    Moves .silent [] s s' where
  plan := plan_of_view silent.view
  inRange := inRange_of_view silent.view inRange
  emits := silent.emits
  success := congrArg UploadView.successCount silent.view

/-- What has nothing to do with the upload may come after a move. -/
theorem Moves.silent {action : Transfer.Action Waypoint} {frames : List TxFrame}
    {s s' s'' : State} (moves : Moves action frames s s') (silent : Silent s' s'') :
    Moves action frames s s'' where
  plan := by rw [plan_of_view silent.view, moves.plan]
  inRange := inRange_of_view silent.view moves.inRange
  emits := moves.emits.trans silent.emits
  success := by
    rw [← moves.success]
    exact congrArg UploadView.successCount silent.view

/-- What has nothing to do with the upload may come before a move. -/
theorem Silent.before {action : Transfer.Action Waypoint} {frames : List TxFrame}
    {s s' s'' : State} (silent : Silent s s') (moves : Moves action frames s' s'') :
    Moves action frames s s'' where
  plan := by rw [moves.plan, plan_of_view silent.view]
  inRange := moves.inRange
  emits := by
    have both := silent.emits.trans moves.emits
    rwa [List.append_nil] at both
  success := by
    have same : s'.missionUploadSuccessCount = s.missionUploadSuccessCount :=
      congrArg UploadView.successCount silent.view
    rw [moves.success, same]

/-- A frame that is none of the transfer's may be sent after a move. -/
theorem Moves.sends {action : Transfer.Action Waypoint} {frames : List TxFrame} {s s' : State}
    (moves : Moves action frames s s') (kind : MessageKind) (payload : List UInt8)
    (fault : Option TxFault) (other : kind.ofUpload = false) :
    Moves action frames s (sendMavlinkV2 kind payload fault s').2 where
  plan := by rw [plan_of_view (sendMavlinkV2_view kind payload fault s'), moves.plan]
  inRange := inRange_of_view (sendMavlinkV2_view kind payload fault s') moves.inRange
  emits := moves.emits.trans (sendMavlinkV2_emits_nothing kind payload fault s' other)
  success := by
    rw [← moves.success]
    exact congrArg UploadView.successCount (sendMavlinkV2_view kind payload fault s')

/-- A pending mission that was built for an edit is uploaded. -/
theorem beginUpload_moves {edit : Edit Waypoint} {s built : State} {newCount : UInt8}
    (inRange : InRange s) (builds : Builds edit s newCount built) (env : Env) :
    Moves (.start edit) [] s (beginUpload env newCount built) := by
  let begun : State := { built with
    missionUploadWpCount := newCount
    missionUploadState := .clearing
    missionUploadRetry := 0
    missionUploadTimeoutMs := env.timeMs + missionClearDelayMs }
  refine Moves.sends ?_ .missionClearAll _ (env.tx 0) rfl
  show Moves (.start edit) [] s begun
  have active : activeList begun = activeList s := by
    show activeList built = activeList s
    rw [builds.same]
    rfl
  constructor
  · show Transfer.mk .prepared (held newCount.toNat built.missionPending) (activeList begun)
      built.activeResumeIndex.toNat = _
    rw [builds.list, active, builds.resume]
    rfl
  · constructor
    · show built.activeWaypointCount.toNat ≤ _
      rw [builds.same]
      exact inRange.active
    · exact builds.fits
  · apply Emits.nothing
    show built.outputs = s.outputs
    rw [builds.same]
  · show built.missionUploadSuccessCount = s.missionUploadSuccessCount
    rw [builds.same]

/-- A route update that starts an upload uploads the pending mission that it builds. -/
theorem startMissionUpload_begins {s : State} (inRange : InRange s) (env : Env)
    {msg : RouteUpdate} (starts : startsUpload msg s = true) :
    ∃ text newCount built,
      Builds (routeEdit msg s) (sendEvent .missionUploadInf .information text s) newCount built ∧
        startMissionUpload env msg s = beginUpload env newCount built := by
  obtain ⟨connected, idle, accepted⟩ := of_decide_eq_true starts
  unfold startMissionUpload
  dsimp only
  rw [if_neg (not_not.mpr connected), if_neg (not_not.mpr idle)]
  generalize message : (s!"MAVLINK_BRIDGE_APP: StartMissionUpload called op={msg.routeType} " ++
      s!"wp={msg.waypointCount} active={s.activeWaypointCount} link={s.linkState.code}") = text
  have inRange' : InRange (sendEvent .missionUploadInf .information text s) :=
    ⟨inRange.active, inRange.pending⟩
  obtain ⟨newCount, built, ok, builds⟩ := buildPending_accepted inRange' accepted
  rw [ok]
  exact ⟨text, newCount, built, builds, rfl⟩

/-- A route update that starts no upload leaves events only. -/
theorem startMissionUpload_ignored {s : State} (env : Env) {msg : RouteUpdate}
    (ignored : startsUpload msg s = false) :
    ∃ events, startMissionUpload env msg s = { s with events := events } := by
  have ignored := of_decide_eq_false ignored
  unfold startMissionUpload
  dsimp only
  by_cases connected : s.linkState = .connected
  · rw [if_neg (not_not.mpr connected)]
    by_cases idle : s.missionDownloadState = .idle
    · rw [if_neg (not_not.mpr idle)]
      have refused : acceptsEdit msg s = false := by
        by_contra accepted
        exact ignored ⟨connected, idle, by simpa using accepted⟩
      generalize message : (s!"MAVLINK_BRIDGE_APP: StartMissionUpload called op={msg.routeType} " ++
        s!"wp={msg.waypointCount} active={s.activeWaypointCount} link={s.linkState.code}") = text
      have refused' : acceptsEdit msg (sendEvent .missionUploadInf .information text s) = false :=
        refused
      obtain ⟨events, error⟩ := buildPending_rejected refused'
      rw [error]
      exact ⟨events, rfl⟩
    · rw [if_pos idle]
      exact ⟨_, rfl⟩
  · rw [if_pos connected]
    exact ⟨_, rfl⟩

/-- A route update that starts an upload does so with its edit. -/
theorem startMissionUpload_starts {s : State} (inRange : InRange s) (env : Env)
    {msg : RouteUpdate} (starts : startsUpload msg s = true) :
    Moves (.start (routeEdit msg s)) [] s (startMissionUpload env msg s) := by
  obtain ⟨text, newCount, built, builds, begins⟩ := startMissionUpload_begins inRange env starts
  have noted : Silent s (sendEvent .missionUploadInf .information text s) :=
    Silent.of_same rfl rfl
  rw [begins]
  exact noted.before (beginUpload_moves (inRange_of_view noted.view inRange) builds env)

/-- A route update that starts no upload has nothing to do with a running one. -/
theorem startMissionUpload_silent {s : State} (env : Env) {msg : RouteUpdate}
    (ignored : startsUpload msg s = false) : Silent s (startMissionUpload env msg s) := by
  obtain ⟨events, same⟩ := startMissionUpload_ignored env ignored
  rw [same]
  exact Silent.of_same rfl rfl

/-- A count fits a frame. -/
theorem countPayload_fits (wpCount system component : UInt8) :
    (Words.bytes16 wpCount.toUInt16 ++ [system, component, missionTypeMission]).length ≤ 52 := by
  simp [Words.bytes16]

/-- Announcing the mission offers it. -/
theorem announceMission_moves {s : State} (inRange : InRange s) (nowMs : UInt32) (env : Env) :
    Moves .offer (if takes (env.tx 0) s then [countFrame s.txSequence s] else []) s
      (announceMission nowMs env s) := by
  let announced : State := { s with
    missionUploadState := .active
    missionUploadTimeoutMs := nowMs + missionUploadTimeoutMs }
  have view : uploadView (announceMission nowMs env s) = uploadView announced :=
    sendMavlinkV2_view _ _ _ _
  constructor
  · rw [plan_of_view view]
    rfl
  · exact inRange_of_view view ⟨inRange.active, inRange.pending⟩
  · exact sendMavlinkV2_emits (countPayload_fits _ _ _) (env.tx 0) announced rfl
  · exact congrArg UploadView.successCount view

/-- Trying an active upload again offers the mission again. -/
theorem retryUpload_moves {s : State} (inRange : InRange s)
    (active : s.missionUploadState = .active) (nowMs : UInt32) (env : Env) :
    ∃ seq, Moves .offer (if takes (env.tx 1) s then [countFrame seq s] else []) s
      (retryUpload nowMs env s) := by
  let again : State := { s with
    missionUploadRetry := s.missionUploadRetry + 1
    missionUploadTimeoutMs := nowMs + missionUploadTimeoutMs }
  let cleared := sendMissionClearAll (env.tx 0) again
  obtain ⟨isOpen, system, component⟩ := sendMavlinkV2_line .missionClearAll
    [s.targetSystemId, s.targetComponentId, missionTypeMission] (env.tx 0) again
  have clears : Emits [] again cleared := sendMavlinkV2_emits_nothing _ _ _ _ rfl
  have view : uploadView (retryUpload nowMs env s) = uploadView s :=
    (sendMavlinkV2_view _ _ _ _).trans (sendMavlinkV2_view _ _ _ _)
  refine ⟨cleared.txSequence, ?_, inRange_of_view view inRange, ?_,
    congrArg UploadView.successCount view⟩
  · rw [plan_of_view view]
    simp only [plan, active, Transfer.step, UploadState.phase]
  · have counts := @sendMavlinkV2_emits .missionCount _ (countPayload_fits
      s.missionUploadWpCount cleared.targetSystemId cleared.targetComponentId) (env.tx 1) cleared
      rfl
    have both := clears.trans counts
    rw [List.append_nil] at both
    have line : takes (env.tx 1) cleared = takes (env.tx 1) s :=
      congrArg (· && (env.tx 1).isNone) isOpen
    have frame : TxFrame.mk cleared.txSequence .missionCount
        (Words.bytes16 s.missionUploadWpCount.toUInt16 ++
          [cleared.targetSystemId, cleared.targetComponentId, missionTypeMission]) =
        countFrame cleared.txSequence s := by
      show TxFrame.mk _ _ (_ ++ [(sendMissionClearAll _ _).targetSystemId,
        (sendMissionClearAll _ _).targetComponentId, _]) = _
      rw [show (sendMissionClearAll (env.tx 0) again).targetSystemId = s.targetSystemId from system,
        show (sendMissionClearAll (env.tx 0) again).targetComponentId = s.targetComponentId
          from component]
      rfl
    rw [line, frame] at both
    exact both

/-- Giving an upload up drops it. -/
theorem failUpload_moves {s : State} (inRange : InRange s) : Moves .drop [] s (failUpload s) :=
  ⟨rfl, ⟨inRange.active, inRange.pending⟩, Emits.nothing rfl, rfl⟩

/-- The timeout of the upload does what it means for it. -/
theorem checkMissionUploadTimeout_moves {s : State} (inRange : InRange s) (nowMs : UInt32)
    (env : Env) :
    ∃ frames, Moves (checkAction nowMs s) frames s (checkMissionUploadTimeout nowMs env s) ∧
      Carries s (.checkUpload nowMs env) frames := by
  have quiet : Moves .silent [] s s := Silent.moves inRange (Silent.of_same rfl rfl)
  have counted : ∀ (sent : Bool) seq, (if sent then [countFrame seq s] else []) = [] ∨
      ∃ seq', (if sent then [countFrame seq s] else []) = [countFrame seq' s] := by
    intro sent seq
    cases sent with
    | false => exact .inl rfl
    | true => exact .inr ⟨seq, rfl⟩
  unfold Carries checkMissionUploadTimeout checkAction
  generalize state : s.missionUploadState = progress
  cases progress with
  | idle => exact ⟨[], quiet, rfl⟩
  | clearing =>
    dsimp only
    by_cases due : expired nowMs s.missionUploadTimeoutMs = true
    · rw [if_pos due, if_pos due]
      exact ⟨_, announceMission_moves inRange nowMs env, counted _ _⟩
    · rw [if_neg due, if_neg due]
      exact ⟨[], quiet, rfl⟩
  | active =>
    dsimp only
    by_cases due : expired nowMs s.missionUploadTimeoutMs = true
    · rw [if_pos due, if_pos due]
      by_cases left : s.missionUploadRetry < missionMaxRetries
      · rw [if_pos left, if_pos left]
        obtain ⟨seq, moves⟩ := retryUpload_moves inRange state nowMs env
        exact ⟨_, moves, counted _ _⟩
      · rw [if_neg left, if_neg left]
        exact ⟨[], failUpload_moves inRange, rfl⟩
    · rw [if_neg due, if_neg due]
      exact ⟨[], quiet, rfl⟩

/-! ## Frames -/

/-- An item fits a frame. -/
theorem missionItemIntPayload_fits (system component : UInt8) (wp : Waypoint) (seq : UInt8)
    (current : Bool) : (missionItemIntPayload system component wp seq current).length ≤ 52 := by
  simp [missionItemIntPayload, Words.bytes16, Words.bytes32]

/-- A legacy item fits a frame. -/
theorem missionItemPayload_fits (system component : UInt8) (wp : Waypoint) (seq : UInt8) :
    (missionItemPayload system component wp seq).length ≤ 52 := by
  simp [missionItemPayload, Words.bytes16, Words.bytes32]

/-- An answered request moves nothing and sends the item. -/
theorem answer_moves {s s' : State} (inRange : InRange s) {frame : RxFrame} {env : Env}
    {index : Nat} (action : frameAction frame s = .answer index)
    (view : uploadView s' = uploadView s)
    (emits : Emits (if takes (env.tx 0) s then [itemFrame frame s] else []) s s') :
    Moves (frameAction frame s) (frameTx frame env s) s s' := by
  have tx : frameTx frame env s = if takes (env.tx 0) s then [itemFrame frame s] else [] := by
    rw [frameTx, action]
  rw [tx, action]
  exact ⟨plan_of_view view, inRange_of_view view inRange, emits,
    congrArg UploadView.successCount view⟩

/-- A frame that means nothing for the upload may have any effect that does not concern it. -/
theorem silent_moves {s s' : State} (inRange : InRange s) {frame : RxFrame} {env : Env}
    (action : frameAction frame s = .silent) (silent : Silent s s') :
    Moves (frameAction frame s) (frameTx frame env s) s s' := by
  have tx : frameTx frame env s = [] := by
    rw [frameTx, action]
  rw [tx, action]
  exact silent.moves inRange

/-- A frame that is no valid message of the upload means nothing for it. -/
theorem frameAction_silent {frame : RxFrame} (s : State)
    (noInt : frame.valid .missionRequestInt = false)
    (noLegacy : frame.valid .missionRequest = false) (noAck : frame.valid .missionAck = false)
    (noCurrent : frame.valid .missionCurrent = false) : frameAction frame s = .silent := by
  simp [frameAction, requestedIndex, acknowledgedResult, announcedCurrent, noInt, noLegacy, noAck,
    noCurrent]

/-- What a valid request means for the upload. -/
theorem frameAction_request {frame : RxFrame} (s : State)
    (asks : frame.valid .missionRequestInt = true ∨ frame.valid .missionRequest = true) :
    frameAction frame s =
      if answersRequest frame s then .answer (readU16LE frame.payload 0).toNat else .silent := by
  have asked : requestedIndex frame = some (readU16LE frame.payload 0) := if_pos asks
  rw [frameAction, asked]

/-- A request for an item. -/
theorem handleMissionRequestInt_moves {s : State} (inRange : InRange s) (env : Env)
    {frame : RxFrame} (own : frame.msgId = MessageKind.missionRequestInt.id)
    (rxTimestampMs : UInt32) :
    Moves (frameAction frame s) (frameTx frame env s) s
      (handleMissionRequestInt env frame rxTimestampMs s) := by
  unfold handleMissionRequestInt
  by_cases valid : frame.checks .missionRequestInt = true ∧ frame.payloadLen ≥ 2
  · rw [if_pos valid]
    have action := frameAction_request s (.inl (decide_eq_true ⟨own, valid⟩))
    by_cases answers : answersRequest frame s = true
    · rw [if_pos answers] at action
      rw [if_pos answers]
      generalize rxTimestampMs + missionUploadTimeoutMs = deadline
      refine answer_moves inRange action (sendMavlinkV2_view _ _ _ (awaitRequest deadline s)) ?_
      rw [itemFrame, if_pos own]
      exact sendMavlinkV2_emits (missionItemIntPayload_fits _ _ _ _ _) (env.tx 0)
        (awaitRequest deadline s) rfl
    · rw [if_neg answers] at action
      rw [if_neg answers]
      exact silent_moves inRange action (Silent.of_same rfl rfl)
  · rw [if_neg valid]
    have invalid : frame.valid .missionRequestInt = false :=
      decide_eq_false fun all => valid all.2
    refine silent_moves inRange (frameAction_silent s invalid ?_ ?_ ?_) (Silent.of_same rfl rfl)
    all_goals
      apply RxFrame.valid_of_ne
      rw [own]
      decide

/-- A legacy request for an item. -/
theorem handleMissionRequest_moves {s : State} (inRange : InRange s) (env : Env)
    {frame : RxFrame} (own : frame.msgId = MessageKind.missionRequest.id)
    (rxTimestampMs : UInt32) :
    Moves (frameAction frame s) (frameTx frame env s) s
      (handleMissionRequest env frame rxTimestampMs s) := by
  have notInt : frame.msgId ≠ MessageKind.missionRequestInt.id := by
    rw [own]
    decide
  unfold handleMissionRequest
  dsimp only
  by_cases valid : frame.checks .missionRequest = true ∧ frame.payloadLen ≥ 2
  · rw [if_pos valid]
    have action := frameAction_request s (.inr (decide_eq_true ⟨own, valid⟩))
    by_cases answers : answersRequest frame s = true
    · rw [if_pos answers] at action
      rw [if_pos answers]
      generalize rxTimestampMs + missionUploadTimeoutMs = deadline
      refine answer_moves inRange action
        (sendMavlinkV2_view _ _ _ (awaitRequest deadline (sendEvent _ _ _ s))) ?_
      rw [itemFrame, if_neg notInt]
      exact sendMavlinkV2_emits (missionItemPayload_fits _ _ _ _) (env.tx 0)
        (awaitRequest deadline (sendEvent _ _ _ s)) rfl
    · rw [if_neg answers] at action
      rw [if_neg answers]
      exact silent_moves inRange action (Silent.of_same rfl rfl)
  · rw [if_neg valid]
    have invalid : frame.valid .missionRequest = false :=
      decide_eq_false fun all => valid all.2
    refine silent_moves inRange (frameAction_silent s ?_ invalid ?_ ?_) (Silent.of_same rfl rfl)
    all_goals
      apply RxFrame.valid_of_ne
      rw [own]
      decide

/-- Committing the pending mission accepts the transfer. -/
theorem commitUpload_moves {s : State} (inRange : InRange s) (env : Env) (rxTimestampMs : UInt32) :
    Moves .accept [] s (commitUpload env rxTimestampMs s) := by
  let committed : State := { s with
    missionUploadState := .idle
    missionUploadSuccessCount := s.missionUploadSuccessCount + 1
    lastUploadResult := .success
    lastUploadTimestampMs := rxTimestampMs
    lastUploadWaypointCount := s.missionUploadWpCount
    activeWaypointCount := s.missionUploadWpCount
    activeWaypoints := fill (slot s.missionPending) 0 s.missionUploadWpCount.toNat
      s.activeWaypoints }
  have moves : Moves .accept [] s committed := by
    refine ⟨?_, ⟨inRange.pending, inRange.pending⟩, Emits.nothing rfl, rfl⟩
    have list : activeList committed = pendingList s := by
      show held _ (fill _ 0 _ _) = held _ _
      rw [held_fill inRange.pending, map_slot_range inRange.pending]
    show Transfer.mk .idle (pendingList s) (activeList committed) _ = _
    rw [list]
    rfl
  unfold commitUpload
  dsimp only
  have noted := sendEvent_silent .missionUploadInf .information
    s!"MAVLINK_BRIDGE_APP: mission upload success wp_count={s.missionUploadWpCount}"
    (Silent.of_same (rfl : uploadView committed = uploadView committed) rfl)
  split
  · exact moves.silent (noted.trans (startFcMissionReadback_silent env _))
  · exact moves.silent noted

/-- A mission acknowledgement. -/
theorem handleMissionAck_moves {s : State} (inRange : InRange s) (env : Env) {frame : RxFrame}
    (own : frame.msgId = MessageKind.missionAck.id) (rxTimestampMs : UInt32) :
    Moves (frameAction frame s) (frameTx frame env s) s
      (handleMissionAck env frame rxTimestampMs s) := by
  have noInt : frame.valid .missionRequestInt = false :=
    RxFrame.valid_of_ne (by rw [own]; decide)
  have noLegacy : frame.valid .missionRequest = false :=
    RxFrame.valid_of_ne (by rw [own]; decide)
  unfold handleMissionAck
  by_cases valid : frame.checks .missionAck = true ∧ frame.payloadLen ≥ 2
  · rw [if_pos valid]
    have acknowledged : acknowledgedResult frame = some (ackResult frame) :=
      if_pos (decide_eq_true ⟨own, valid⟩)
    have unasked : requestedIndex frame = none := by
      simp [requestedIndex, noInt, noLegacy]
    have action : frameAction frame s = if s.missionUploadState = .active then
        (if ackResult frame = missionAccepted then .accept else .drop) else .silent := by
      rw [frameAction, unasked, acknowledged]
    by_cases active : s.missionUploadState = .active
    · rw [if_pos active] at action ⊢
      have tx : frameTx frame env s = [] := by
        rw [frameTx, action]
        split <;> rename_i equal
        · split at equal <;> cases equal
        · rfl
      rw [tx, action]
      by_cases accepts : ackResult frame = missionAccepted
      · rw [if_pos accepts, if_pos accepts]
        exact commitUpload_moves inRange env rxTimestampMs
      · rw [if_neg accepts, if_neg accepts]
        exact ⟨rfl, ⟨inRange.active, inRange.pending⟩, Emits.nothing rfl, rfl⟩
    · rw [if_neg active] at action ⊢
      exact silent_moves inRange action (Silent.of_same rfl rfl)
  · rw [if_neg valid]
    have invalid : frame.valid .missionAck = false := decide_eq_false fun all => valid all.2
    have notCurrent : frame.valid .missionCurrent = false :=
      RxFrame.valid_of_ne (by rw [own]; decide)
    exact silent_moves inRange (frameAction_silent s noInt noLegacy invalid notCurrent)
      (Silent.of_same rfl rfl)

/-- The current item of the flight controller. -/
theorem handleMissionCurrent_moves {s : State} (inRange : InRange s) (env : Env)
    {frame : RxFrame} (own : frame.msgId = MessageKind.missionCurrent.id)
    (rxTimestampMs : UInt32) :
    Moves (frameAction frame s) (frameTx frame env s) s
      (handleMissionCurrent env frame rxTimestampMs s) := by
  have noInt : frame.valid .missionRequestInt = false :=
    RxFrame.valid_of_ne (by rw [own]; decide)
  have noLegacy : frame.valid .missionRequest = false :=
    RxFrame.valid_of_ne (by rw [own]; decide)
  have noAck : frame.valid .missionAck = false := RxFrame.valid_of_ne (by rw [own]; decide)
  unfold handleMissionCurrent
  by_cases valid : frame.checks .missionCurrent = true ∧ frame.payloadLen ≥ 2
  · rw [if_pos valid]
    have action : frameAction frame s = .remark (currentIndex frame).toNat := by
      have own' : frame.valid .missionCurrent = true := decide_eq_true ⟨own, valid⟩
      simp [frameAction, requestedIndex, acknowledgedResult, announcedCurrent, noInt, noLegacy,
        noAck, own']
    have tx : frameTx frame env s = [] := by
      rw [frameTx, action]
    have received := noteReceived_silent env rxTimestampMs s
    rw [tx, action]
    have inRange' := inRange_of_view received.view inRange
    have same := plan_of_view received.view
    refine ⟨?_, ⟨inRange'.active, inRange'.pending⟩, received.emits,
      congrArg UploadView.successCount received.view⟩
    show { plan (noteReceived env rxTimestampMs s) with mark := (currentIndex frame).toNat } = _
    rw [same]
    rfl
  · rw [if_neg valid]
    have invalid : frame.valid .missionCurrent = false := decide_eq_false fun all => valid all.2
    exact silent_moves inRange (frameAction_silent s noInt noLegacy noAck invalid)
      (Silent.of_same rfl rfl)

/-- Whether a frame is of a kind that the upload takes. -/
def RxFrame.concernsUpload (frame : RxFrame) : Prop :=
  frame.msgId = MessageKind.missionRequestInt.id ∨ frame.msgId = MessageKind.missionRequest.id ∨
    frame.msgId = MessageKind.missionAck.id ∨ frame.msgId = MessageKind.missionCurrent.id

/-- A frame of another kind has nothing to do with the upload. -/
theorem handleFrameComplete_silent (env : Env) {frame : RxFrame} (rxTimestampMs : UInt32)
    (s : State) (other : ¬ frame.concernsUpload) :
    Silent s (handleFrameComplete env frame rxTimestampMs s) := by
  simp only [RxFrame.concernsUpload, not_or] at other
  obtain ⟨notInt, notLegacy, notAck, notCurrent⟩ := other
  have handles := handleFrameComplete_handles env frame rxTimestampMs s
  generalize handleFrameComplete env frame rxTimestampMs s = s' at handles ⊢
  cases handles with
  | heartbeat own => exact handleHeartbeat_silent env frame rxTimestampMs s
  | commandAck own => exact (handleCommandAck_aside frame s).toSilent
  | telemetry listed own =>
    exact handleTelemetry_silent _ (telemetryHandlers_aside listed) env frame rxTimestampMs s
  | missionRequestInt own => exact absurd own notInt
  | missionRequest own => exact absurd own notLegacy
  | missionAck own => exact absurd own notAck
  | missionCount own waiting => exact handleMissionCount_silent env frame rxTimestampMs s
  | missionItemInt own waiting => exact handleMissionItemInt_silent env frame rxTimestampMs s
  | missionCurrent own => exact absurd own notCurrent
  | nothing noBeat noTelemetry noCurrent => exact Silent.of_same rfl rfl

/-- A frame of a kind that the upload takes is handled by the function for its kind. -/
structure HandledByKind (env : Env) (frame : RxFrame) (rxTimestampMs : UInt32) (s : State) :
    Prop where
  missionRequestInt : frame.msgId = MessageKind.missionRequestInt.id →
    handleFrameComplete env frame rxTimestampMs s =
      handleMissionRequestInt env frame rxTimestampMs s
  missionRequest : frame.msgId = MessageKind.missionRequest.id →
    handleFrameComplete env frame rxTimestampMs s =
      handleMissionRequest env frame rxTimestampMs s
  missionAck : frame.msgId = MessageKind.missionAck.id →
    handleFrameComplete env frame rxTimestampMs s = handleMissionAck env frame rxTimestampMs s
  missionCurrent : frame.msgId = MessageKind.missionCurrent.id →
    handleFrameComplete env frame rxTimestampMs s =
      handleMissionCurrent env frame rxTimestampMs s

/-- Each kind that the upload takes is handled by its own function. -/
theorem handleFrameComplete_concerned (env : Env) (frame : RxFrame) (rxTimestampMs : UInt32)
    (s : State) : HandledByKind env frame rxTimestampMs s := by
  constructor
  all_goals
    intro own
    unfold handleFrameComplete
    rw [own]
    rfl

/-- A frame does what it means for the upload. -/
theorem handleFrameComplete_moves {s : State} (inRange : InRange s) (env : Env) (frame : RxFrame)
    (rxTimestampMs : UInt32) :
    Moves (frameAction frame s) (frameTx frame env s) s
      (handleFrameComplete env frame rxTimestampMs s) := by
  by_cases concerns : frame.concernsUpload
  · have handled := handleFrameComplete_concerned env frame rxTimestampMs s
    rcases concerns with own | own | own | own
    · rw [handled.missionRequestInt own]
      exact handleMissionRequestInt_moves inRange env own rxTimestampMs
    · rw [handled.missionRequest own]
      exact handleMissionRequest_moves inRange env own rxTimestampMs
    · rw [handled.missionAck own]
      exact handleMissionAck_moves inRange env own rxTimestampMs
    · rw [handled.missionCurrent own]
      exact handleMissionCurrent_moves inRange env own rxTimestampMs
  · have other := concerns
    simp only [RxFrame.concernsUpload, not_or] at other
    obtain ⟨notInt, notLegacy, notAck, notCurrent⟩ := other
    have action := frameAction_silent s (RxFrame.valid_of_ne notInt)
      (RxFrame.valid_of_ne notLegacy) (RxFrame.valid_of_ne notAck)
      (RxFrame.valid_of_ne notCurrent)
    exact silent_moves inRange action (handleFrameComplete_silent env rxTimestampMs s concerns)

/-- Whether an input is of a kind that the upload takes. -/
def Input.concernsUpload : Input → Bool
  | .routeUpdate _ _ | .checkUpload _ _ | .frame _ _ _ => true
  | _ => false

/-- An input of another kind has nothing to do with the upload. -/
theorem step_silent (s : State) {input : Input} (other : input.concernsUpload = false) :
    Silent s (step s input) := by
  cases input with
  | routeUpdate msg env => cases other
  | checkUpload nowMs env => cases other
  | frame frame rxTimestampMs env => cases other
  | missionQuery env => exact missionQuery_silent env s
  | command command => cases command <;> exact Silent.of_same rfl rfl
  | invalidCommand defect => exact Silent.of_same rfl rfl
  | config cmd saved => exact (processConfigCommand_aside saved cmd s).toSilent
  | setFlightMode cmd env => exact (processSetFlightModeCmd_aside env cmd s).toSilent
  | reportHousekeeping => exact transmitMsg_silent _ (Silent.of_same rfl rfl)
  | serialReconnect path result env => exact serialReconnect_silent path result env s
  | reconnect nowMs path result env => exact reconnect_silent nowMs path result env s
  | companionHeartbeat nowMs env => exact (sendCompanionHeartbeat_aside nowMs env s).toSilent
  | serviceStreams nowMs env => exact (serviceStreams_aside nowMs env s).toSilent
  | checkDownload nowMs => exact checkMissionDownloadTimeout_silent nowMs s
  | retryReadback nowMs env => exact retryReadback_silent nowMs env s
  | bytes length nowMs => exact Silent.of_same rfl rfl
  | checkStale nowMs env => exact checkStale_silent nowMs env s
  | readFailure errno env => exact failRead_silent errno env s

/-- A step carries out what its input means for the upload. -/
theorem step_moves {s : State} (inRange : InRange s) (input : Input) :
    ∃ frames, Moves (uploadAction s input) frames s (step s input) ∧ Carries s input frames := by
  have quiet : ∀ s', Silent s s' → ∃ frames, Moves .silent frames s s' ∧ frames = [] :=
    fun s' silent => ⟨[], silent.moves inRange, rfl⟩
  cases input with
  | routeUpdate msg env =>
    by_cases starts : startsUpload msg s = true
    · refine ⟨[], ?_, rfl⟩
      simp only [uploadAction, if_pos starts]
      exact startMissionUpload_starts inRange env starts
    · refine ⟨[], ?_, rfl⟩
      simp only [uploadAction, if_neg starts]
      have ignored : startsUpload msg s = false := by simpa using starts
      exact (startMissionUpload_silent env ignored).moves inRange
  | checkUpload nowMs env => exact checkMissionUploadTimeout_moves inRange nowMs env
  | frame frame rxTimestampMs env =>
    exact ⟨_, handleFrameComplete_moves inRange env frame rxTimestampMs, rfl⟩
  | _ => exact quiet _ (step_silent s rfl)

/-- An acknowledgement is no request. -/
theorem requestedIndex_of_acknowledged {frame : RxFrame} {result : UInt8}
    (acknowledged : acknowledgedResult frame = some result) : requestedIndex frame = none := by
  unfold acknowledgedResult at acknowledged
  split at acknowledged
  · rename_i valid
    obtain ⟨own, -⟩ := of_decide_eq_true valid
    have noInt : frame.valid .missionRequestInt = false :=
      RxFrame.valid_of_ne (by rw [own]; decide)
    have noLegacy : frame.valid .missionRequest = false :=
      RxFrame.valid_of_ne (by rw [own]; decide)
    simp [requestedIndex, noInt, noLegacy]
  · cases acknowledged

/-- An announcement of the current item is neither a request nor an acknowledgement. -/
theorem others_of_announced {frame : RxFrame} {current : UInt8}
    (announced : announcedCurrent frame = some current) :
    requestedIndex frame = none ∧ acknowledgedResult frame = none := by
  unfold announcedCurrent at announced
  split at announced
  · rename_i valid
    obtain ⟨own, -⟩ := of_decide_eq_true valid
    have noInt : frame.valid .missionRequestInt = false :=
      RxFrame.valid_of_ne (by rw [own]; decide)
    have noLegacy : frame.valid .missionRequest = false :=
      RxFrame.valid_of_ne (by rw [own]; decide)
    have noAck : frame.valid .missionAck = false := RxFrame.valid_of_ne (by rw [own]; decide)
    simp [requestedIndex, acknowledgedResult, noInt, noLegacy, noAck]
  · cases announced

/-- The transfer is accepted by accepting acknowledgements while it is offered. -/
theorem uploadAction_accept_iff {s : State} {input : Input} :
    uploadAction s input = .accept ↔
      ∃ ack rxTimestampMs env, input = .frame ack rxTimestampMs env ∧
        acknowledgedResult ack = some missionAccepted ∧ s.missionUploadState = .active := by
  constructor
  · intro accepts
    cases input with
    | routeUpdate msg env =>
      simp only [uploadAction] at accepts
      split at accepts <;> cases accepts
    | checkUpload nowMs env =>
      simp only [uploadAction, checkAction] at accepts
      repeat' split at accepts
      all_goals cases accepts
    | frame frame rxTimestampMs env =>
      simp only [uploadAction, frameAction] at accepts
      split at accepts
      · split at accepts <;> cases accepts
      · rename_i result acknowledged
        split at accepts
        · rename_i active
          split at accepts
          · rename_i accepted
            exact ⟨frame, rxTimestampMs, env, rfl, accepted ▸ acknowledged, active⟩
          · cases accepts
        · cases accepts
      · cases accepts
      · cases accepts
    | _ => cases accepts
  · rintro ⟨ack, rxTimestampMs, env, rfl, acknowledged, active⟩
    have unasked := requestedIndex_of_acknowledged acknowledged
    simp only [uploadAction, frameAction, unasked, acknowledged, active, if_true]

/-- The transfer is started by route updates that are taken up. -/
theorem uploadAction_start {s : State} {input : Input} {edit : Edit Waypoint}
    (starts : uploadAction s input = .start edit) :
    ∃ msg env, input = .routeUpdate msg env ∧ startsUpload msg s = true ∧
      edit = routeEdit msg s := by
  cases input with
  | routeUpdate msg env =>
    simp only [uploadAction] at starts
    split at starts
    · rename_i taken
      cases starts
      exact ⟨msg, env, rfl, taken, rfl⟩
    · cases starts
  | checkUpload nowMs env =>
    simp only [uploadAction, checkAction] at starts
    repeat' split at starts
    all_goals cases starts
  | frame frame rxTimestampMs env =>
    simp only [uploadAction, frameAction] at starts
    repeat' split at starts
    all_goals cases starts
  | _ => cases starts

/-- An input means only what can happen to the transfer. -/
theorem uploadAction_enabled {s : State} (inRange : InRange s) (input : Input) :
    (plan s).Enabled (uploadAction s input) := by
  have offered : s.missionUploadState = .active → (plan s).phase = .offered := by
    intro active
    simp only [plan, active, UploadState.phase]
  cases input with
  | routeUpdate msg env =>
    simp only [uploadAction]
    split <;> trivial
  | checkUpload nowMs env =>
    simp only [uploadAction, checkAction]
    cases state : s.missionUploadState with
    | idle => trivial
    | clearing =>
      dsimp only
      split
      · simp [Transfer.Enabled, plan, state, UploadState.phase]
      · trivial
    | active =>
      dsimp only
      split
      · split
        · simp [Transfer.Enabled, plan, state, UploadState.phase]
        · exact offered state
      · trivial
  | frame frame rxTimestampMs env =>
    simp only [uploadAction, frameAction]
    split
    · rename_i index asked
      split
      · rename_i answers
        obtain ⟨active, inside⟩ := of_decide_eq_true answers
        refine ⟨offered active, ?_⟩
        show _ < (held _ _).length
        rw [length_held inRange.pending, ← requestedIndex_eq asked]
        exact inside
      · trivial
    · split
      · rename_i active
        split <;> exact offered active
      · trivial
    · trivial
    · trivial
  | _ => trivial

/-- The waypoint counts stay within the arrays. -/
theorem run_inRange {start : State} (inRange : InRange start) (inputs : List Input) :
    InRange (Run.run step start inputs) := by
  refine Run.run_invariant (fun s input inRange => ?_) inputs start inRange
  obtain ⟨frames, moves, -⟩ := step_moves inRange input
  exact moves.inRange

/-- A start has no waypoints. -/
theorem initialState_inRange (config : ConfigParams) : InRange (initialState config) :=
  ⟨Nat.zero_le _, Nat.zero_le _⟩

end CfsTelemetry.Bridge
