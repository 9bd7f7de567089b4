import CfsTelemetry.Bridge.Moves

/-!
# The link

What the state of the link is written by: opening the port, valid messages of the flight
controller, silence on the line and failed reads. Everything else leaves it, the target and the
time of the last data alone.
-/
namespace CfsTelemetry.Bridge

open Slots

/-- A readback that starts leaves the link alone. -/
@[simp] theorem startFcMissionReadback_link (env : Env) (s : State) :
    linkView (startFcMissionReadback env s) = linkView s := by
  have sent := sendMavlinkV2_link .missionRequestList
    [s.targetSystemId, s.targetComponentId, missionTypeMission] (env.tx 0)
    { awaitCount env s with missionReadbackPending := false }
  exact sent

/-- A published readback leaves the link alone. -/
@[simp] theorem publishFcMissionReadback_link (env : Env) (s : State) :
    linkView (publishFcMissionReadback env s) = linkView s := by
  unfold publishFcMissionReadback
  dsimp only
  split <;> rfl

/-- The timeout of the download leaves the link alone. -/
theorem checkMissionDownloadTimeout_link (nowMs : UInt32) (s : State) :
    linkView (checkMissionDownloadTimeout nowMs s) = linkView s := by
  unfold checkMissionDownloadTimeout
  dsimp only
  repeat' split
  all_goals rfl

/-- A readback that was put off leaves the link alone. -/
theorem retryReadback_link (nowMs : UInt32) (env : Env) (s : State) :
    linkView (retryReadback nowMs env s) = linkView s := by
  unfold retryReadback
  split
  · exact startFcMissionReadback_link env s
  · rfl

/-- The timeout of the upload leaves the link alone. -/
theorem checkMissionUploadTimeout_link (nowMs : UInt32) (env : Env) (s : State) :
    linkView (checkMissionUploadTimeout nowMs env s) = linkView s := by
  have announces : linkView (announceMission nowMs env s) = linkView s :=
    sendMavlinkV2_link ..
  have retries : linkView (retryUpload nowMs env s) = linkView s :=
    (sendMavlinkV2_link ..).trans (sendMavlinkV2_link ..)
  unfold checkMissionUploadTimeout
  repeat' split
  all_goals first | exact announces | exact retries | rfl

/-- A request for an item leaves the link alone. -/
theorem handleMissionRequestInt_link (env : Env) (frame : RxFrame) (rxTimestampMs : UInt32)
    (s : State) : linkView (handleMissionRequestInt env frame rxTimestampMs s) = linkView s := by
  have sent : ∀ s' : State, linkView (sendMissionItemInt (readU16LE frame.payload 0).toUInt8
      (env.tx 0) s') = linkView s' := fun s' => sendMavlinkV2_link ..
  unfold handleMissionRequestInt
  split
  · split
    · rw [sent]
      simp only [linkView, awaitRequest]
    · rfl
  · rfl

/-- A legacy request for an item leaves the link alone. -/
theorem handleMissionRequest_link (env : Env) (frame : RxFrame) (rxTimestampMs : UInt32)
    (s : State) : linkView (handleMissionRequest env frame rxTimestampMs s) = linkView s := by
  have sent : ∀ s' : State, linkView (sendMissionItem (readU16LE frame.payload 0).toUInt8
      (env.tx 0) s') = linkView s' := fun s' => sendMavlinkV2_link ..
  unfold handleMissionRequest
  dsimp only
  split
  · split
    · rw [sent]
      simp only [linkView, awaitRequest, sendEvent]
    · rfl
  · rfl

/-- An acknowledgement leaves the link alone. -/
theorem handleMissionAck_link (env : Env) (frame : RxFrame) (rxTimestampMs : UInt32)
    (s : State) : linkView (handleMissionAck env frame rxTimestampMs s) = linkView s := by
  have commits : linkView (commitUpload env rxTimestampMs s) = linkView s := by
    unfold commitUpload
    dsimp only
    split
    · rw [startFcMissionReadback_link]
      rfl
    · rfl
  unfold handleMissionAck
  split
  · split
    · split
      · exact commits
      · rfl
    · rfl
  · rfl

/-- The item count of a download leaves the link alone. -/
theorem handleMissionCount_link (env : Env) (frame : RxFrame) (rxTimestampMs : UInt32)
    (s : State) : linkView (handleMissionCount env frame rxTimestampMs s) = linkView s := by
  unfold handleMissionCount
  split
  · dsimp only
    split
    · rw [publishFcMissionReadback_link]
      exact sendMavlinkV2_link ..
    · exact sendMavlinkV2_link ..
  · rfl

/-- An item of a download leaves the link alone. -/
theorem handleMissionItemInt_link (env : Env) (frame : RxFrame) (rxTimestampMs : UInt32)
    (s : State) : linkView (handleMissionItemInt env frame rxTimestampMs s) = linkView s := by
  unfold handleMissionItemInt
  split
  · dsimp only
    split
    · rw [publishFcMissionReadback_link]
      exact sendMavlinkV2_link ..
    · exact sendMavlinkV2_link ..
  · rfl

/-! ## What moves the link -/

/-- Setting the state of the link does so, and leaves the rest alone. -/
@[simp] theorem setLinkState_link (newState : LinkState) (env : Env) (s : State) :
    linkView (setLinkState newState env s) = { linkView s with state := newState } := by
  unfold setLinkState
  dsimp only
  split
  · split
    · rw [startFcMissionReadback_link]
      rfl
    · rfl
  · split <;> rfl

/-- A valid message of the flight controller connects the link. -/
theorem noteReceived_link (env : Env) (rxTimestampMs : UInt32) (s : State) :
    linkView (noteReceived env rxTimestampMs s) =
      ⟨.connected, rxTimestampMs, s.targetSystemId⟩ := by
  rw [noteReceived, setLinkState_link]
  rfl

/-- A valid state message connects the link. -/
theorem handleTelemetry_link (kind : MessageKind) {publish : RxFrame → UInt32 → State → State}
    (publishes : ∀ frame rxTimestampMs s, Aside s (publish frame rxTimestampMs s)) (env : Env)
    (frame : RxFrame) (rxTimestampMs : UInt32) (s : State) :
    linkView (handleTelemetry kind publish env frame rxTimestampMs s) =
      if frame.checks kind then ⟨.connected, rxTimestampMs, s.targetSystemId⟩
      else linkView s := by
  unfold handleTelemetry
  split
  · rw [(publishes frame rxTimestampMs _).link, noteReceived_link]
  · rfl

/-- The current item of the flight controller connects the link. -/
theorem handleMissionCurrent_link (env : Env) (frame : RxFrame) (rxTimestampMs : UInt32)
    (s : State) :
    linkView (handleMissionCurrent env frame rxTimestampMs s) =
      if frame.checks .missionCurrent ∧ frame.payloadLen ≥ 2 then
        ⟨.connected, rxTimestampMs, s.targetSystemId⟩
      else linkView s := by
  unfold handleMissionCurrent
  split
  · exact noteReceived_link env rxTimestampMs s
  · rfl

/-- Whether a frame is a valid heartbeat. -/
def RxFrame.isHeartbeat (frame : RxFrame) : Bool :=
  frame.msgId = MessageKind.heartbeat.id ∧ frame.payloadLen ≥ 9 ∧ frame.checks .heartbeat

/-- The state messages of the flight controller. -/
def stateKinds : List MessageKind :=
  [.attitude, .localPositionNed, .globalPositionInt, .gpsRawInt, .ekfStatusReport, .sysTime]

/-- Whether a frame is a valid state message. -/
def RxFrame.isTelemetry (frame : RxFrame) : Bool :=
  stateKinds.any fun kind => frame.msgId = kind.id ∧ frame.checks kind

/-- The target after a frame: the first heartbeat of an autopilot locks it. -/
def lockedTarget (frame : RxFrame) (target : UInt8) : UInt8 :=
  if frame.isHeartbeat ∧ target = 0 ∧
      (payloadByte frame.payload 5 = 3 ∨ payloadByte frame.payload 5 = 12) then frame.sysId
  else target

/-- Whether a frame connects the link: a state message or a current item does whoever sends it,
and a heartbeat when the target sends it. -/
def promotes (frame : RxFrame) (target : UInt8) : Bool :=
  frame.isTelemetry ∨ frame.valid .missionCurrent ∨
    (frame.isHeartbeat ∧ frame.sysId = lockedTarget frame target)

/-- What is known about the link after a frame. -/
def LinkView.after (frame : RxFrame) (rxTimestampMs : UInt32) (view : LinkView) : LinkView :=
  if promotes frame view.targetSystemId then
    ⟨.connected, rxTimestampMs, lockedTarget frame view.targetSystemId⟩
  else { view with targetSystemId := lockedTarget frame view.targetSystemId }

/-- A heartbeat locks the target, and connects the link when the target sends it. -/
theorem handleHeartbeat_link (env : Env) {frame : RxFrame} (rxTimestampMs : UInt32) (s : State)
    (own : frame.msgId = MessageKind.heartbeat.id ∧ frame.payloadLen ≥ 9) :
    linkView (handleHeartbeat env frame rxTimestampMs s) =
      (linkView s).after frame rxTimestampMs := by
  have noTelemetry : frame.isTelemetry = false := by
    rw [RxFrame.isTelemetry, own.1]
    rfl
  have noCurrent : frame.valid .missionCurrent = false :=
    RxFrame.valid_of_ne (by rw [own.1]; decide)
  have beats : frame.isHeartbeat = frame.checks .heartbeat := by
    simp [RxFrame.isHeartbeat, own]
  unfold handleHeartbeat LinkView.after promotes
  rw [noTelemetry, noCurrent, beats]
  by_cases valid : frame.checks .heartbeat = true
  · rw [if_pos valid]
    have locks : linkView (lockTarget frame s) =
        { linkView s with targetSystemId := lockedTarget frame s.targetSystemId } := by
      unfold lockTarget lockedTarget
      rw [beats, valid]
      dsimp only
      split
      · rename_i first
        rw [if_pos ⟨rfl, first⟩]
        rfl
      · rename_i later
        rw [if_neg fun first => later first.2]
        rfl
    have target : (lockTarget frame s).targetSystemId = lockedTarget frame s.targetSystemId :=
      congrArg LinkView.targetSystemId locks
    dsimp only
    by_cases sends : frame.sysId = (lockTarget frame s).targetSystemId
    · have noted : linkView (setLinkState .connected env
          { lockTarget frame s with lastRxTimestampMs := rxTimestampMs }) =
            ⟨.connected, rxTimestampMs, (lockTarget frame s).targetSystemId⟩ := by
        rw [setLinkState_link]
        rfl
      have named : frame.sysId = lockedTarget frame (linkView s).targetSystemId :=
        sends.trans target
      rw [if_pos sends, if_pos (by simp [valid, ← named])]
      refine Eq.trans ?_ (noted.trans ?_)
      · rfl
      · rw [target]
        rfl
    · have unnamed : ¬ frame.sysId = lockedTarget frame (linkView s).targetSystemId :=
        fun named => sends (named.trans target.symm)
      rw [if_neg sends, if_neg (by simp [unnamed])]
      exact locks
  · rw [if_neg valid, if_neg (by simp [valid])]
    have unlocked : lockedTarget frame s.targetSystemId = s.targetSystemId := by
      unfold lockedTarget
      rw [beats, if_neg fun first => valid first.1]
    show linkView s = { linkView s with targetSystemId := lockedTarget frame s.targetSystemId }
    rw [unlocked]
    rfl

/-- A frame that is no valid message of the link leaves it alone. -/
theorem LinkView.after_other {frame : RxFrame} (noTelemetry : frame.isTelemetry = false)
    (noCurrent : frame.valid .missionCurrent = false) (noBeat : frame.isHeartbeat = false)
    (rxTimestampMs : UInt32) (view : LinkView) : view.after frame rxTimestampMs = view := by
  have quiet : promotes frame view.targetSystemId = false := by
    simp [promotes, noTelemetry, noCurrent, noBeat]
  have unlocked : lockedTarget frame view.targetSystemId = view.targetSystemId := by
    simp [lockedTarget, noBeat]
  rw [LinkView.after, quiet, unlocked]
  rfl

/-- A valid state message or current item connects the link, and locks nothing. -/
theorem LinkView.after_connecting {frame : RxFrame} (noBeat : frame.isHeartbeat = false)
    (connects : frame.isTelemetry = true ∨ frame.valid .missionCurrent = true)
    (rxTimestampMs : UInt32) (view : LinkView) :
    view.after frame rxTimestampMs = ⟨.connected, rxTimestampMs, view.targetSystemId⟩ := by
  have loud : promotes frame view.targetSystemId = true := by
    rcases connects with telemetry | current
    · simp [promotes, telemetry]
    · simp [promotes, current]
  have unlocked : lockedTarget frame view.targetSystemId = view.targetSystemId := by
    simp [lockedTarget, noBeat]
  rw [LinkView.after, loud, unlocked]
  rfl

/-- A state message connects the link when its checksum is right. -/
theorem telemetry_after {kind : MessageKind} {frame : RxFrame} (own : frame.msgId = kind.id)
    (among : kind ∈ stateKinds) (rxTimestampMs : UInt32) (view : LinkView) :
    (if frame.checks kind then ⟨.connected, rxTimestampMs, view.targetSystemId⟩ else view) =
      view.after frame rxTimestampMs := by
  have others : ∀ kind ∈ stateKinds, kind.id ≠ MessageKind.heartbeat.id ∧
      kind.id ≠ MessageKind.missionCurrent.id := by decide
  have apart := others kind among
  have ids : ∀ first ∈ stateKinds, ∀ second ∈ stateKinds, first.id = second.id →
      first = second := by decide
  have noBeat : frame.isHeartbeat = false := by
    simp [RxFrame.isHeartbeat, own, apart.1]
  by_cases valid : frame.checks kind = true
  · have telemetry : frame.isTelemetry = true :=
      List.any_eq_true.mpr ⟨kind, among, decide_eq_true ⟨own, valid⟩⟩
    rw [if_pos valid, LinkView.after_connecting noBeat (.inl telemetry)]
  · have noTelemetry : frame.isTelemetry = false := by
      rw [RxFrame.isTelemetry, List.any_eq_false]
      intro other listed both
      obtain ⟨same, passes⟩ := of_decide_eq_true both
      have equal : other = kind := ids other listed kind among (same.symm.trans own)
      rw [equal] at passes
      exact valid passes
    rw [if_neg valid, LinkView.after_other noTelemetry (RxFrame.valid_of_ne (by
      rw [own]
      exact apart.2)) noBeat]

/-- A frame changes what is known about the link as its kind says. -/
theorem handleFrameComplete_link (env : Env) (frame : RxFrame) (rxTimestampMs : UInt32)
    (s : State) :
    linkView (handleFrameComplete env frame rxTimestampMs s) =
      (linkView s).after frame rxTimestampMs := by
  have handles := handleFrameComplete_handles env frame rxTimestampMs s
  generalize handleFrameComplete env frame rxTimestampMs s = s' at handles ⊢
  have named : ∀ handler ∈ telemetryHandlers, handler.1 ∈ stateKinds := by
    simp [telemetryHandlers, stateKinds]
  have listed : ∀ kind ∈ stateKinds, ∃ handler ∈ telemetryHandlers, handler.1 = kind := by
    simp [telemetryHandlers, stateKinds]
  have other : ∀ {kind : MessageKind} {s' : State}, frame.msgId = kind.id →
      kind.id ≠ MessageKind.heartbeat.id → (∀ state ∈ stateKinds, kind.id ≠ state.id) →
      kind.id ≠ MessageKind.missionCurrent.id →
      linkView s' = linkView s → linkView s' = (linkView s).after frame rxTimestampMs := by
    intro kind s' own noBeat noState noCurrent same
    have noTelemetry : frame.isTelemetry = false := by
      rw [RxFrame.isTelemetry, List.any_eq_false]
      intro state among both
      exact noState state among (own.symm.trans (of_decide_eq_true both).1)
    rw [same, LinkView.after_other noTelemetry (RxFrame.valid_of_ne (by rwa [own]))
      (by simp [RxFrame.isHeartbeat, own, noBeat])]
  cases handles with
  | heartbeat own => exact handleHeartbeat_link env rxTimestampMs s own
  | commandAck own =>
    exact other own (by decide) (by decide) (by decide) (handleCommandAck_aside frame s).link
  | telemetry among own =>
    rw [handleTelemetry_link _ (telemetryHandlers_aside among)]
    exact telemetry_after own (named _ among) rxTimestampMs (linkView s)
  | missionRequestInt own =>
    exact other own (by decide) (by decide) (by decide)
      (handleMissionRequestInt_link env frame rxTimestampMs s)
  | missionRequest own =>
    exact other own (by decide) (by decide) (by decide)
      (handleMissionRequest_link env frame rxTimestampMs s)
  | missionAck own =>
    exact other own (by decide) (by decide) (by decide)
      (handleMissionAck_link env frame rxTimestampMs s)
  | missionCount own waiting =>
    exact other own (by decide) (by decide) (by decide)
      (handleMissionCount_link env frame rxTimestampMs s)
  | missionItemInt own waiting =>
    exact other own (by decide) (by decide) (by decide)
      (handleMissionItemInt_link env frame rxTimestampMs s)
  | missionCurrent own =>
    have noBeat : frame.isHeartbeat = false := by
      have apart : MessageKind.missionCurrent.id ≠ MessageKind.heartbeat.id := by decide
      simp [RxFrame.isHeartbeat, own, apart]
    have noTelemetry : frame.isTelemetry = false := by
      rw [RxFrame.isTelemetry, own]
      rfl
    rw [handleMissionCurrent_link]
    by_cases valid : frame.checks .missionCurrent = true ∧ frame.payloadLen ≥ 2
    · have announced : frame.valid .missionCurrent = true := decide_eq_true ⟨own, valid⟩
      rw [if_pos valid, LinkView.after_connecting noBeat (.inr announced)]
      rfl
    · have unannounced : frame.valid .missionCurrent = false :=
        decide_eq_false fun all => valid all.2
      rw [if_neg valid, LinkView.after_other noTelemetry unannounced noBeat]
  | nothing noBeat noState noCurrent =>
    have noTelemetry : frame.isTelemetry = false := by
      rw [RxFrame.isTelemetry, List.any_eq_false]
      intro kind among both
      obtain ⟨handler, present, rfl⟩ := listed kind among
      exact noState handler present (of_decide_eq_true both).1
    have unbeaten : frame.isHeartbeat = false :=
      decide_eq_false fun beats => noBeat ⟨beats.1, beats.2.1⟩
    rw [LinkView.after_other noTelemetry (RxFrame.valid_of_ne noCurrent) unbeaten]

/-- The link after opening the port: connected when it was opened. -/
def OpenResult.link (result : OpenResult) (view : LinkView) : LinkView :=
  match result with
  | opened _ => ⟨.connected, 0, view.targetSystemId⟩
  | _ => view

/-- Opening the port connects the link. -/
theorem openSerial_link (path : String) (result : OpenResult) (env : Env) (s : State) :
    linkView (openSerial path result env s) = result.link (linkView s) := by
  cases result with
  | opened timeMs =>
    have connects := setLinkState_link .connected env { s with
      serialOpen := true
      lastErrorCode := .none
      lastRxTimestampMs := 0
      lastHeartbeatTxMs := 0
      lastStreamRequestMs := 0
      targetDiscoveryStartMs := timeMs
      streamRequestPending := true }
    exact connects
  | _ => rfl

/-- A due attempt to open the port disconnects the link, and connects it when the port opens. -/
theorem reconnect_link (nowMs : UInt32) (path : String) (result : OpenResult) (env : Env)
    (s : State) :
    linkView (reconnect nowMs path result env s) =
      if nowMs - s.lastReconnectAttemptMs ≥ s.activeConfig.reconnectIntervalMs then
        result.link { linkView s with state := .disconnected }
      else linkView s := by
  unfold reconnect
  split
  · have tried := openSerial_link path result env (setLinkState .disconnected env { s with
      lastReconnectAttemptMs := nowMs
      reconnectAttemptCount := s.reconnectAttemptCount + 1 })
    rw [setLinkState_link] at tried
    dsimp only
    cases result with
    | _ => exact tried
  · rfl

/-- Silence for too long degrades the link. -/
theorem checkStale_link (nowMs : UInt32) (env : Env) (s : State) :
    linkView (checkStale nowMs env s) =
      if nowMs - s.lastRxTimestampMs ≥ staleTimeoutMs then
        { linkView s with state := .degraded }
      else linkView s := by
  unfold checkStale
  split
  · rw [setLinkState_link]
    rfl
  · rfl

/-- A failed read disconnects the link. -/
theorem failRead_link (errno : Nat) (env : Env) (s : State) :
    linkView (failRead errno env s) = { linkView s with state := .disconnected } := by
  have down := setLinkState_link .disconnected env
    (markOutputsStale { s with lastErrorCode := .linkDown })
  exact down

/-- Whether the link becomes disconnected: a read fails, or a due attempt to open the port is
made. -/
def disconnects (s : State) (input : Input) : Bool :=
  match input with
  | .readFailure _ _ => s.linkState ≠ .disconnected
  | .reconnect nowMs _ _ _ =>
    s.linkState ≠ .disconnected ∧
      nowMs - s.lastReconnectAttemptMs ≥ s.activeConfig.reconnectIntervalMs
  | _ => false

end CfsTelemetry.Bridge
