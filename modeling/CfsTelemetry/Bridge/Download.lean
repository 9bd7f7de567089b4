import CfsTelemetry.Library.Fetch
import CfsTelemetry.Bridge.Moves

/-!
# The download as a fetch

A readback fetches the mission of the flight controller item by item. Each input means an action
of the fetch, a step carries it out, and what it publishes is the list the fetch ends with.
-/
namespace CfsTelemetry.Bridge

open Slots

/-- Most items that a download expects. -/
def downloadLimit : Nat := 255

/-- The phase of the fetch in a download state. -/
def DownloadState.phase : DownloadState → Fetch.Phase
  | idle => .idle | waitCount => .counting | waitItem => .collecting

/-- The download as a fetch. -/
def fetch (s : State) : Fetch Waypoint where
  phase := s.missionDownloadState.phase
  expected := s.missionDownloadExpectedCount.toNat
  taken := s.missionDownloadSeq.toNat
  kept := held (min s.missionDownloadSeq.toNat routeMaxWaypoints) s.missionDownloadWaypoints

/-- The mission that a readback publishes. -/
def readbackList (tlm : RouteUpdate) : List Waypoint :=
  held tlm.waypointCount.toNat tlm.waypoints

/-- The number of waypoints that a readback names, and those it carries. -/
def readbackContent (tlm : RouteUpdate) : Nat × List Waypoint :=
  (tlm.waypointCount.toNat, readbackList tlm)

/-- What a step does to the download: an action of the fetch, and the mission it publishes. -/
structure Fetches (action : Fetch.Action Waypoint) (s s' : State) : Prop where
  fetch : fetch s' = (fetch s).step downloadLimit routeMaxWaypoints action
  publishes : ∃ messages, Publishes messages s s' ∧ messages.map readbackContent =
    (((Bridge.fetch s).result routeMaxWaypoints action).map fun list => (list.length, list)).toList

/-- The fetch depends on the view only. -/
theorem fetch_of_same {s s' : State} (same : downloadView s' = downloadView s) :
    fetch s' = fetch s := by
  have equal := congrArg (fun view : DownloadView => Fetch.mk view.state.phase
    view.expectedCount.toNat view.seq.toNat
    (held (min view.seq.toNat routeMaxWaypoints) view.waypoints)) same
  exact equal

/-- What has nothing to do with the download leaves the fetch alone. -/
theorem Calm.fetches {s s' : State} (calm : Calm s s') : Fetches .silent s s' :=
  ⟨fetch_of_same calm.same, [], calm.publishes, rfl⟩

/-- What has nothing to do with the download may come after an action. -/
theorem Fetches.calm {action : Fetch.Action Waypoint} {s s' s'' : State}
    (fetches : Fetches action s s') (calm : Calm s' s'') : Fetches action s s'' := by
  obtain ⟨messages, publishes, lists⟩ := fetches.publishes
  exact ⟨(fetch_of_same calm.same).trans fetches.fetch, messages,
    publishes.trans calm.publishes, lists⟩

/-- What has nothing to do with the download may come before an action. -/
theorem Calm.before {action : Fetch.Action Waypoint} {s s' s'' : State} (calm : Calm s s')
    (fetches : Fetches action s' s'') : Fetches action s s'' := by
  obtain ⟨messages, publishes, lists⟩ := fetches.publishes
  have same := fetch_of_same calm.same
  have both := calm.publishes.trans publishes
  rw [List.append_nil] at both
  constructor
  · rw [fetches.fetch, same]
  · exact ⟨messages, both, by rw [lists, same]⟩

/-- An event may come before what has nothing to do with the download. -/
theorem sendEvent_calm (id : EventId) (type : EventType) (text : String) {s s' : State}
    (calm : Calm s s') : Calm s (sendEvent id type text s') :=
  calm.trans (Calm.of_same rfl rfl)

/-- Waiting for the count and sending the request begins a fetch. -/
theorem request_fetches (env : Env) {s s' : State}
    (waiting : downloadView s' = downloadView (awaitCount env s))
    (outputs : s'.outputs = s.outputs) :
    Fetches .request s (sendMissionRequestList (env.tx 0) s') := by
  have begun : Fetches .request s s' := by
    constructor
    · rw [fetch_of_same waiting]
      rfl
    · exact ⟨[], Publishes.nothing outputs, rfl⟩
  exact begun.calm (sendMavlinkV2_calm _ _ _ _)

/-- Starting a readback begins a fetch. -/
theorem startFcMissionReadback_fetches (env : Env) (s : State) :
    Fetches .request s (startFcMissionReadback env s) :=
  have requested : Fetches .request s (sendMissionRequestList (env.tx 0)
      { awaitCount env s with missionReadbackPending := false }) := request_fetches env rfl rfl
  requested.calm (Calm.of_same rfl rfl)

/-- What a step does that may start a readback, when nothing is going on. -/
def MayRequest (s s' : State) : Prop :=
  Calm s s' ∨ (s.missionDownloadState = .idle ∧ s'.missionUploadState = .idle ∧
    Fetches .request s s')

/-- What has nothing to do with the download may come before a request. -/
theorem MayRequest.after {s s' s'' : State} (calm : Calm s s') (requests : MayRequest s' s'') :
    MayRequest s s'' := by
  rcases requests with other | ⟨idle, upload, fetches⟩
  · exact .inl (calm.trans other)
  · have same : s'.missionDownloadState = s.missionDownloadState :=
      congrArg DownloadView.state calm.same
    exact .inr ⟨same ▸ idle, upload, calm.before fetches⟩

/-- What has nothing to do with missions may come after a request. -/
theorem MayRequest.aside {s s' s'' : State} (requests : MayRequest s s') (aside : Aside s' s'') :
    MayRequest s s'' := by
  rcases requests with other | ⟨idle, upload, fetches⟩
  · exact .inl (other.trans aside.toCalm)
  · have same : s''.missionUploadState = s'.missionUploadState :=
      congrArg UploadView.state aside.view
    exact .inr ⟨idle, same ▸ upload, fetches.calm aside.toCalm⟩

/-- A change of the link starts a readback only when nothing is going on. -/
theorem setLinkState_mayRequest (newState : LinkState) (env : Env) {s s' : State}
    (calm : Calm s s') : MayRequest s (setLinkState newState env s') := by
  apply MayRequest.after calm
  unfold setLinkState
  dsimp only
  split
  · split
    · rename_i idle
      let reset : State := { s' with
        linkState := newState
        missionReadbackBackoffMs := readbackBackoffInitialMs
        missionReadbackPending := false }
      have begins := startFcMissionReadback_fetches env reset
      have resets : Calm s' reset := Calm.of_same rfl rfl
      have upload : (startFcMissionReadback env reset).missionUploadState =
          reset.missionUploadState :=
        congrArg UploadView.state (startFcMissionReadback_silent env reset).view
      exact .inr ⟨idle.2, upload.trans idle.1, resets.before begins⟩
    · exact .inl (Calm.of_same rfl rfl)
  · split <;> exact .inl (Calm.of_same rfl rfl)

/-- A valid message of the flight controller. -/
theorem noteReceived_mayRequest (env : Env) (rxTimestampMs : UInt32) (s : State) :
    MayRequest s (noteReceived env rxTimestampMs s) :=
  setLinkState_mayRequest _ env (Calm.of_same rfl rfl)

/-- A heartbeat. -/
theorem handleHeartbeat_mayRequest (env : Env) (frame : RxFrame) (rxTimestampMs : UInt32)
    (s : State) : MayRequest s (handleHeartbeat env frame rxTimestampMs s) := by
  have locked : Calm s (lockTarget frame s) := by
    unfold lockTarget
    dsimp only
    split <;> exact Calm.of_same rfl rfl
  unfold handleHeartbeat
  split
  · dsimp only
    split
    · have noted : Calm s { lockTarget frame s with lastRxTimestampMs := rxTimestampMs } :=
        locked.trans (Calm.of_same rfl rfl)
      have connects := setLinkState_mayRequest .connected env noted
      exact connects.aside (Aside.of_same rfl rfl)
    · exact .inl locked
  · exact .inl (Calm.of_same rfl rfl)

/-- A state message. -/
theorem handleTelemetry_mayRequest (kind : MessageKind)
    {publish : RxFrame → UInt32 → State → State}
    (publishes : ∀ frame rxTimestampMs s, Aside s (publish frame rxTimestampMs s)) (env : Env)
    (frame : RxFrame) (rxTimestampMs : UInt32) (s : State) :
    MayRequest s (handleTelemetry kind publish env frame rxTimestampMs s) := by
  unfold handleTelemetry
  split
  · exact (noteReceived_mayRequest env rxTimestampMs s).aside (publishes _ _ _)
  · exact .inl (Calm.of_same rfl rfl)

/-- The current item of the flight controller. -/
theorem handleMissionCurrent_mayRequest (env : Env) (frame : RxFrame) (rxTimestampMs : UInt32)
    (s : State) : MayRequest s (handleMissionCurrent env frame rxTimestampMs s) := by
  unfold handleMissionCurrent
  split
  · rcases noteReceived_mayRequest env rxTimestampMs s with calm | ⟨idle, upload, fetches⟩
    · exact .inl (calm.trans (Calm.of_same rfl rfl))
    · exact .inr ⟨idle, upload, fetches.calm (Calm.of_same rfl rfl)⟩
  · exact .inl (Calm.of_same rfl rfl)

/-- Opening the port. -/
theorem openSerial_mayRequest (path : String) (result : OpenResult) (env : Env) (s : State) :
    MayRequest s (openSerial path result env s) := by
  unfold openSerial
  cases result with
  | opened timeMs =>
    have opens : Calm s { s with
        serialOpen := true
        lastErrorCode := .none
        lastRxTimestampMs := 0
        lastHeartbeatTxMs := 0
        lastStreamRequestMs := 0
        targetDiscoveryStartMs := timeMs
        streamRequestPending := true } := Calm.of_same rfl rfl
    have connects := setLinkState_mayRequest .connected env opens
    exact connects.aside (Aside.of_same rfl rfl)
  | openFailed errno => exact .inl (Calm.of_same rfl rfl)
  | getattrFailed errno => exact .inl (Calm.of_same rfl rfl)
  | setattrFailed errno => exact .inl (Calm.of_same rfl rfl)

/-- A link that goes down or degrades. -/
theorem setLinkState_calm {newState : LinkState} (down : newState ≠ .connected) (env : Env)
    (s : State) : Calm s (setLinkState newState env s) := by
  unfold setLinkState
  dsimp only
  rw [if_neg fun both => down both.1]
  split <;> exact Calm.of_same rfl rfl

/-- Opening the port again by itself. -/
theorem reconnect_mayRequest (nowMs : UInt32) (path : String) (result : OpenResult) (env : Env)
    (s : State) : MayRequest s (reconnect nowMs path result env s) := by
  unfold reconnect
  split
  · dsimp only
    have noted : Calm s { s with
        lastReconnectAttemptMs := nowMs
        reconnectAttemptCount := s.reconnectAttemptCount + 1 } := Calm.of_same rfl rfl
    have notUp : LinkState.disconnected ≠ .connected := by decide
    have down := noted.trans (setLinkState_calm notUp env _)
    have tried := MayRequest.after down (openSerial_mayRequest path result env _)
    split
    · exact tried
    · exact tried.aside (Aside.of_same rfl rfl)
  · exact .inl (Calm.of_same rfl rfl)

/-- Opening the port again by command. -/
theorem serialReconnect_mayRequest (path : String) (result : OpenResult) (env : Env) (s : State) :
    MayRequest s (serialReconnect path result env s) := by
  have closed : Calm s (closeSerial s) := Calm.of_same rfl rfl
  have opened := MayRequest.after closed (openSerial_mayRequest path result env (closeSerial s))
  exact opened.aside (Aside.of_same rfl rfl)

/-- The retry of a readback. -/
theorem retryReadback_mayRequest (nowMs : UInt32) (env : Env) (s : State) :
    MayRequest s (retryReadback nowMs env s) := by
  unfold retryReadback
  split
  · rename_i due
    obtain ⟨-, -, -, upload, download⟩ := due
    have same := congrArg UploadView.state (startFcMissionReadback_silent env s).view
    exact .inr ⟨download, same.trans upload, startFcMissionReadback_fetches env s⟩
  · exact .inl (Calm.of_same rfl rfl)

/-- The command to read the mission back begins a fetch on a connected link. -/
theorem missionQuery_fetches (env : Env) {s : State} (connected : s.linkState = .connected) :
    Fetches .request s (missionQuery env s) := by
  unfold missionQuery
  rw [if_neg (not_not.mpr connected)]
  have requested : Fetches .request s (sendMissionRequestList (env.tx 0)
      { awaitCount env s with cmdCounter := s.cmdCounter + 1 }) := request_fetches env rfl rfl
  exact requested.calm (Calm.of_same rfl rfl)

/-- On another link it is only counted. -/
theorem missionQuery_calm (env : Env) {s : State} (other : s.linkState ≠ .connected) :
    Calm s (missionQuery env s) := by
  unfold missionQuery
  rw [if_pos other]
  exact Calm.of_same rfl rfl

/-- The timeout of a download gives it up or does nothing. -/
theorem checkMissionDownloadTimeout_fetches (nowMs : UInt32) (s : State) :
    Calm s (checkMissionDownloadTimeout nowMs s) ∨
      Fetches .giveUp s (checkMissionDownloadTimeout nowMs s) := by
  unfold checkMissionDownloadTimeout
  split
  · exact .inl (Calm.of_same rfl rfl)
  · split
    · exact .inl (Calm.of_same rfl rfl)
    · right
      dsimp only
      split
      · exact ⟨rfl, [], Publishes.nothing rfl, rfl⟩
      · exact ⟨rfl, [], Publishes.nothing rfl, rfl⟩

/-! ## The upload -/

/-- A route update. -/
theorem startMissionUpload_calm (env : Env) (msg : RouteUpdate) {s : State} (inRange : InRange s) :
    Calm s (startMissionUpload env msg s) := by
  by_cases starts : startsUpload msg s = true
  · obtain ⟨text, newCount, built, builds, begins⟩ := startMissionUpload_begins inRange env starts
    have kept : Calm s built := by
      rw [builds.same]
      exact Calm.of_same rfl rfl
    have begun : Calm s { built with
        missionUploadWpCount := newCount
        missionUploadState := .clearing
        missionUploadRetry := 0
        missionUploadTimeoutMs := env.timeMs + missionClearDelayMs } :=
      kept.trans (Calm.of_same rfl rfl)
    rw [begins]
    exact begun.trans (sendMavlinkV2_calm _ _ _ _)
  · have ignored : startsUpload msg s = false := by simpa using starts
    obtain ⟨events, same⟩ := startMissionUpload_ignored env ignored
    rw [same]
    exact Calm.of_same rfl rfl

/-- The timeout of the upload. -/
theorem checkMissionUploadTimeout_calm (nowMs : UInt32) (env : Env) (s : State) :
    Calm s (checkMissionUploadTimeout nowMs env s) := by
  unfold checkMissionUploadTimeout
  cases s.missionUploadState with
  | idle => exact Calm.of_same rfl rfl
  | clearing =>
    dsimp only
    split
    · have announced : Calm s { s with
          missionUploadState := .active
          missionUploadTimeoutMs := nowMs + missionUploadTimeoutMs } := Calm.of_same rfl rfl
      exact announced.trans (sendMavlinkV2_calm _ _ _ _)
    · exact Calm.of_same rfl rfl
  | active =>
    dsimp only
    split
    · split
      · have again : Calm s { s with
            missionUploadRetry := s.missionUploadRetry + 1
            missionUploadTimeoutMs := nowMs + missionUploadTimeoutMs } := Calm.of_same rfl rfl
        apply sendEvent_calm
        exact (again.trans (sendMavlinkV2_calm _ _ _ _)).trans (sendMavlinkV2_calm _ _ _ _)
      · exact Calm.of_same rfl rfl
    · exact Calm.of_same rfl rfl

/-- A request for an item. -/
theorem handleMissionRequestInt_calm (env : Env) (frame : RxFrame) (rxTimestampMs : UInt32)
    (s : State) : Calm s (handleMissionRequestInt env frame rxTimestampMs s) := by
  unfold handleMissionRequestInt
  split
  · split
    · generalize rxTimestampMs + missionUploadTimeoutMs = deadline
      have waiting : Calm s (awaitRequest deadline s) := Calm.of_same rfl rfl
      exact waiting.trans (sendMavlinkV2_calm _ _ _ _)
    · exact Calm.of_same rfl rfl
  · exact Calm.of_same rfl rfl

/-- A legacy request for an item. -/
theorem handleMissionRequest_calm (env : Env) (frame : RxFrame) (rxTimestampMs : UInt32)
    (s : State) : Calm s (handleMissionRequest env frame rxTimestampMs s) := by
  unfold handleMissionRequest
  dsimp only
  split
  · split
    · generalize rxTimestampMs + missionUploadTimeoutMs = deadline
      refine Calm.trans ?_ (sendMavlinkV2_calm _ _ _ _)
      exact Calm.of_same rfl rfl
    · exact Calm.of_same rfl rfl
  · exact Calm.of_same rfl rfl

/-- An accepted upload begins a fetch, unless one is going on. -/
theorem commitUpload_mayRequest (env : Env) (rxTimestampMs : UInt32) (s : State) :
    MayRequest s (commitUpload env rxTimestampMs s) := by
  unfold commitUpload
  dsimp only
  split
  · rename_i idle
    generalize committed : sendEvent _ _ _ _ = s'
    have kept : Calm s s' := by
      rw [← committed]
      exact Calm.of_same rfl rfl
    have ended : s'.missionUploadState = .idle := by
      rw [← committed]
      rfl
    have upload : (startFcMissionReadback env s').missionUploadState = s'.missionUploadState :=
      congrArg UploadView.state (startFcMissionReadback_silent env s').view
    exact .inr ⟨idle, upload.trans ended, kept.before (startFcMissionReadback_fetches env s')⟩
  · exact .inl (Calm.of_same rfl rfl)

/-- A mission acknowledgement. -/
theorem handleMissionAck_mayRequest (env : Env) (frame : RxFrame) (rxTimestampMs : UInt32)
    (s : State) : MayRequest s (handleMissionAck env frame rxTimestampMs s) := by
  unfold handleMissionAck
  split
  · split
    · split
      · exact commitUpload_mayRequest env rxTimestampMs s
      · exact .inl (Calm.of_same rfl rfl)
    · exact .inl (Calm.of_same rfl rfl)
  · exact .inl (Calm.of_same rfl rfl)

/-- Publishing a readback publishes the waypoints expected, as many as there is room for. -/
theorem publishFcMissionReadback_publishes (env : Env) (s : State) :
    downloadView (publishFcMissionReadback env s) = downloadView s ∧
      ∃ tlm, Publishes [tlm] s (publishFcMissionReadback env s) ∧
        readbackContent tlm = (min s.missionDownloadExpectedCount.toNat routeMaxWaypoints,
          held (min s.missionDownloadExpectedCount.toNat routeMaxWaypoints)
            s.missionDownloadWaypoints) := by
  have small : routeMaxWaypoints = 37 := rfl
  unfold publishFcMissionReadback
  dsimp only
  by_cases above : s.missionDownloadExpectedCount.toNat > routeMaxWaypoints
  · rw [if_pos (decide_eq_true above), if_pos (decide_eq_true above)]
    refine ⟨rfl, _, ⟨[_], rfl, rfl⟩, ?_⟩
    have count : min s.missionDownloadExpectedCount.toNat routeMaxWaypoints =
        (UInt8.ofNat routeMaxWaypoints).toNat := by
      show _ = 37
      omega
    have fits : (UInt8.ofNat routeMaxWaypoints).toNat ≤ routeMaxWaypoints := Nat.le_refl 37
    rw [count]
    show ((UInt8.ofNat routeMaxWaypoints).toNat,
      held (UInt8.ofNat routeMaxWaypoints).toNat (fill _ 0 _ _)) = _
    rw [held_fill fits, map_slot_range fits]
  · rw [if_neg (by simpa using above), if_neg (by simpa using above)]
    refine ⟨rfl, _, ⟨[_], rfl, rfl⟩, ?_⟩
    have fits : s.missionDownloadExpectedCount.toNat ≤ routeMaxWaypoints := by omega
    have count : min s.missionDownloadExpectedCount.toNat routeMaxWaypoints =
        s.missionDownloadExpectedCount.toNat := by omega
    rw [count]
    show (s.missionDownloadExpectedCount.toNat,
      held s.missionDownloadExpectedCount.toNat (fill _ 0 _ _)) = _
    rw [held_fill fits, map_slot_range fits]

/-- A download that is complete ends with the readback of what was stored. -/
theorem publish_fetches {action : Fetch.Action Waypoint} (env : Env) {s stored after : State}
    {list : List Waypoint} (outputs : stored.outputs = s.outputs) (calm : Calm stored after)
    (stepped : fetch stored = (fetch s).step downloadLimit routeMaxWaypoints action)
    (ends : (fetch s).result routeMaxWaypoints action = some list)
    (content : held (min stored.missionDownloadExpectedCount.toNat routeMaxWaypoints)
      stored.missionDownloadWaypoints = list) :
    Fetches action s (publishFcMissionReadback env after) := by
  obtain ⟨same, tlm, publishes, published⟩ := publishFcMissionReadback_publishes env after
  have expected : after.missionDownloadExpectedCount = stored.missionDownloadExpectedCount :=
    congrArg DownloadView.expectedCount calm.same
  have waypoints : after.missionDownloadWaypoints = stored.missionDownloadWaypoints :=
    congrArg DownloadView.waypoints calm.same
  refine ⟨?_, [tlm], ?_, ?_⟩
  · rw [fetch_of_same same, fetch_of_same calm.same, stepped]
  · have before : Publishes [] s stored := Publishes.nothing outputs
    have all := (before.trans calm.publishes).trans publishes
    rwa [List.append_nil, List.append_nil] at all
  · have length : min stored.missionDownloadExpectedCount.toNat routeMaxWaypoints =
        list.length := by
      rw [← content, length_held (Nat.min_le_right _ _)]
    rw [ends, List.map_singleton, published, expected, waypoints, content, length]
    rfl

/-- A valid item count begins the download of the items. -/
theorem handleMissionCount_counts (env : Env) {frame : RxFrame} (rxTimestampMs : UInt32)
    (s : State) (valid : frame.checks .missionCount = true ∧ frame.payloadLen ≥ 2) :
    Fetches (.count (readU16LE frame.payload 0).toNat) s
      (handleMissionCount env frame rxTimestampMs s) := by
  unfold handleMissionCount
  rw [if_pos valid]
  dsimp only
  generalize readU16LE frame.payload 0 = count
  let expected : UInt8 := if count > 255 then 255 else count.toUInt8
  by_cases empty : count = 0
  · subst empty
    rw [if_pos rfl]
    let stored : State := { s with
      missionDownloadExpectedCount := expected
      missionDownloadState := .idle }
    let noted := sendEvent .missionDownloadInf .information
      s!"MAVLINK_BRIDGE_APP: MISSION_COUNT from FC: {(0 : UInt16)} waypoints" stored
    have noting : Calm stored noted := Calm.of_same rfl rfl
    have calm := noting.trans (sendMavlinkV2_calm .missionAck
      [noted.targetSystemId, noted.targetComponentId, missionAccepted] (env.tx 0) noted)
    refine @publish_fetches (.count 0) env s stored _ [] rfl (sendEvent_calm _ _ _ calm) rfl rfl
      rfl
  · rw [if_neg empty]
    have positive : count.toNat ≠ 0 := fun zero => empty (UInt16.toNat_inj.mp zero)
    have bounded : expected.toNat = min count.toNat downloadLimit := by
      show (if count > 255 then (255 : UInt8) else count.toUInt8).toNat = min count.toNat 255
      by_cases wide : count > 255
      · have above : 255 < count.toNat := UInt16.lt_iff_toNat_lt.mp wide
        rw [if_pos wide]
        show 255 = _
        omega
      · have below : count.toNat ≤ 255 := UInt16.le_iff_toNat_le.mp (UInt16.not_lt.mp wide)
        rw [if_neg wide, UInt16.toNat_toUInt8]
        omega
    generalize rxTimestampMs + missionDownloadTimeoutMs = deadline
    have stored : Fetches (.count count.toNat) s { s with
        missionDownloadExpectedCount := expected
        missionDownloadState := .waitItem
        missionDownloadSeq := 0
        missionDownloadTimeoutMs := deadline } := by
      refine ⟨?_, [], Publishes.nothing rfl, ?_⟩
      · rw [Fetch.step, if_neg positive, ← bounded]
        rfl
      · rw [Fetch.result, if_neg positive]
        rfl
    refine Fetches.calm ?_ (sendMavlinkV2_calm _ _ _ _)
    exact stored.calm (Calm.of_same rfl rfl)

/-- The item count of a download. -/
theorem handleMissionCount_fetches (env : Env) (frame : RxFrame) (rxTimestampMs : UInt32)
    (s : State) :
    Calm s (handleMissionCount env frame rxTimestampMs s) ∨
      ((frame.checks .missionCount = true ∧ frame.payloadLen ≥ 2) ∧
        Fetches (.count (readU16LE frame.payload 0).toNat) s
          (handleMissionCount env frame rxTimestampMs s)) := by
  by_cases valid : frame.checks .missionCount = true ∧ frame.payloadLen ≥ 2
  · exact .inr ⟨valid, handleMissionCount_counts env rxTimestampMs s valid⟩
  · rw [handleMissionCount, if_neg valid]
    exact .inl (Calm.of_same rfl rfl)

/-- An item is stored at the position that is waited for, and nothing else of the download
changes. -/
structure StoresItem (s stored : State) (wp : Waypoint) : Prop where
  outputs : stored.outputs = s.outputs
  state : stored.missionDownloadState = s.missionDownloadState
  expected : stored.missionDownloadExpectedCount = s.missionDownloadExpectedCount
  seq : stored.missionDownloadSeq = s.missionDownloadSeq + 1
  waypoints : stored.missionDownloadWaypoints =
    s.missionDownloadWaypoints.setIfInBounds s.missionDownloadSeq.toNat wp

section

variable {s stored : State} {wp : Waypoint}

/-- While items are collected, the next position is one further. -/
theorem nextSeq_toNat (collects : (fetch s).Collects downloadLimit routeMaxWaypoints)
    (collecting : s.missionDownloadState = .waitItem) :
    (s.missionDownloadSeq + 1).toNat = s.missionDownloadSeq.toNat + 1 ∧
      s.missionDownloadSeq.toNat < s.missionDownloadExpectedCount.toNat := by
  have ⟨below, _⟩ := collects (congrArg DownloadState.phase collecting)
  have small : s.missionDownloadSeq.toNat < s.missionDownloadExpectedCount.toNat := below
  have top := s.missionDownloadExpectedCount.toNat_lt
  exact ⟨Words.byte_succ (by omega), small⟩

/-- The items that are stored are those before, and the one that is stored now. -/
theorem StoresItem.kept (stores : StoresItem s stored wp)
    (next : (s.missionDownloadSeq + 1).toNat = s.missionDownloadSeq.toNat + 1) :
    held (min stored.missionDownloadSeq.toNat routeMaxWaypoints) stored.missionDownloadWaypoints =
      (fetch s).keep routeMaxWaypoints wp := by
  rw [stores.seq, stores.waypoints, next, held_setIfInBounds]
  rfl

/-- An item that is not the last is taken. -/
theorem StoresItem.goesOn (stores : StoresItem s stored wp)
    (collects : (fetch s).Collects downloadLimit routeMaxWaypoints)
    (collecting : s.missionDownloadState = .waitItem)
    (more : ¬ s.missionDownloadSeq + 1 ≥ s.missionDownloadExpectedCount) (deadline : UInt32) :
    Fetches (.take wp) s { stored with missionDownloadTimeoutMs := deadline } := by
  have ⟨next, _⟩ := nextSeq_toNat collects collecting
  have kept := stores.kept next
  have incomplete : ¬ (fetch s).taken + 1 ≥ (fetch s).expected := by
    have under := UInt8.lt_iff_toNat_lt.mp (UInt8.not_le.mp more)
    rw [next] at under
    exact Nat.not_le.mpr under
  refine ⟨?_, [], Publishes.nothing stores.outputs, ?_⟩
  · rw [Fetch.step, if_neg incomplete]
    show Fetch.mk stored.missionDownloadState.phase stored.missionDownloadExpectedCount.toNat
      stored.missionDownloadSeq.toNat (held _ _) = _
    rw [kept, stores.state, stores.expected, stores.seq, next]
    rfl
  · rw [Fetch.result, if_neg incomplete]
    rfl

/-- The last item is taken, and ends the download with the readback. -/
theorem StoresItem.ends (stores : StoresItem s stored wp)
    (collects : (fetch s).Collects downloadLimit routeMaxWaypoints)
    (collecting : s.missionDownloadState = .waitItem)
    (last : s.missionDownloadSeq + 1 ≥ s.missionDownloadExpectedCount) (env : Env) {after : State}
    (calm : Calm { stored with missionDownloadState := .idle } after) :
    Fetches (.take wp) s (publishFcMissionReadback env after) := by
  have ⟨next, small⟩ := nextSeq_toNat collects collecting
  have kept := stores.kept next
  have above := UInt8.le_iff_toNat_le.mp last
  rw [next] at above
  have complete : (fetch s).taken + 1 ≥ (fetch s).expected := above
  have outputs : ({ stored with missionDownloadState := .idle } : State).outputs = s.outputs :=
    stores.outputs
  refine publish_fetches env outputs calm ?_ (if_pos complete) ?_
  · rw [Fetch.step, if_pos complete]
    show Fetch.mk _ stored.missionDownloadExpectedCount.toNat stored.missionDownloadSeq.toNat
      (held _ _) = _
    rw [kept, stores.expected, stores.seq, next]
    rfl
  · have all : stored.missionDownloadExpectedCount.toNat = stored.missionDownloadSeq.toNat := by
      rw [stores.expected, stores.seq, next]
      omega
    show held (min stored.missionDownloadExpectedCount.toNat routeMaxWaypoints)
      stored.missionDownloadWaypoints = _
    rw [all, kept]

end

/-- A valid item of a download is taken. -/
theorem handleMissionItemInt_takes (env : Env) {frame : RxFrame} (rxTimestampMs : UInt32)
    {s : State} (collects : (fetch s).Collects downloadLimit routeMaxWaypoints)
    (collecting : s.missionDownloadState = .waitItem)
    (valid : frame.checks .missionItemInt = true ∧ frame.payloadLen ≥ 32) :
    Fetches (.take (itemWaypoint frame.payload)) s
      (handleMissionItemInt env frame rxTimestampMs s) := by
  unfold handleMissionItemInt
  rw [if_pos valid]
  extract_lets wp noted seq stored acknowledged
  have stores : StoresItem s stored wp := ⟨rfl, rfl, rfl, rfl, rfl⟩
  by_cases last : s.missionDownloadSeq + 1 ≥ s.missionDownloadExpectedCount
  · rw [if_pos last]
    have acknowledges : Calm stored acknowledged := sendMavlinkV2_calm _ _ _ _
    have ending : Calm { stored with missionDownloadState := .idle }
        { acknowledged with missionDownloadState := .idle } := by
      refine ⟨?_, acknowledges.publishes⟩
      exact congrArg (fun view : DownloadView => { view with state := .idle }) acknowledges.same
    exact stores.ends collects collecting last env (sendEvent_calm _ _ _ ending)
  · rw [if_neg last]
    have goesOn := stores.goesOn collects collecting last
      (rxTimestampMs + missionDownloadTimeoutMs)
    exact goesOn.calm (sendMavlinkV2_calm _ _ _ _)

/-- An item of a download. -/
theorem handleMissionItemInt_fetches (env : Env) (frame : RxFrame) (rxTimestampMs : UInt32)
    {s : State} (collects : (fetch s).Collects downloadLimit routeMaxWaypoints)
    (collecting : s.missionDownloadState = .waitItem) :
    Calm s (handleMissionItemInt env frame rxTimestampMs s) ∨
      ((frame.checks .missionItemInt = true ∧ frame.payloadLen ≥ 32) ∧
        Fetches (.take (itemWaypoint frame.payload)) s
          (handleMissionItemInt env frame rxTimestampMs s)) := by
  by_cases valid : frame.checks .missionItemInt = true ∧ frame.payloadLen ≥ 32
  · exact .inr ⟨valid, handleMissionItemInt_takes env rxTimestampMs collects collecting valid⟩
  · rw [handleMissionItemInt, if_neg valid]
    exact .inl (Calm.of_same rfl rfl)

/-! ## All inputs -/

/-- Whether a frame is a valid mission item with as many bytes as its handler reads. -/
def RxFrame.isItem (frame : RxFrame) : Bool :=
  frame.msgId = MessageKind.missionItemInt.id ∧ frame.checks .missionItemInt ∧
    frame.payloadLen ≥ 32

/-- What an input has to do with an action of the fetch: a request comes from a command or while
nothing else is going on, and counts and items are those of frames waited for. -/
def FetchMeans (s : State) (input : Input) : Fetch.Action Waypoint → Prop
  | .request => (∃ env, input = .missionQuery env ∧ s.linkState = .connected) ∨
      (s.missionDownloadState = .idle ∧ (step s input).missionUploadState = .idle)
  | .count number => ∃ frame rxTimestampMs env, input = .frame frame rxTimestampMs env ∧
      frame.valid .missionCount = true ∧ (readU16LE frame.payload 0).toNat = number ∧
      s.missionDownloadState = .waitCount
  | .take wp => ∃ frame rxTimestampMs env, input = .frame frame rxTimestampMs env ∧
      frame.isItem = true ∧ itemWaypoint frame.payload = wp ∧ s.missionDownloadState = .waitItem
  | _ => True

/-- What a step may do to the fetch. -/
def FetchStep (s : State) (input : Input) (s' : State) : Prop :=
  ∃ action, FetchMeans s input action ∧ Fetches action s s'

/-- A step that has nothing to do with the download. -/
theorem Calm.fetchStep {s s' : State} (calm : Calm s s') (input : Input) : FetchStep s input s' :=
  ⟨.silent, trivial, calm.fetches⟩

/-- A step that starts a readback while nothing is going on. -/
theorem MayRequest.fetchStep {s : State} {input : Input} (requests : MayRequest s (step s input)) :
    FetchStep s input (step s input) := by
  rcases requests with calm | ⟨idle, upload, fetches⟩
  · exact calm.fetchStep input
  · exact ⟨.request, .inr ⟨idle, upload⟩, fetches⟩

/-- A complete frame. -/
theorem handleFrameComplete_fetchStep {s : State}
    (collects : (fetch s).Collects downloadLimit routeMaxWaypoints) (frame : RxFrame)
    (rxTimestampMs : UInt32) (env : Env) :
    FetchStep s (.frame frame rxTimestampMs env)
      (step s (.frame frame rxTimestampMs env)) := by
  have handles := handleFrameComplete_handles env frame rxTimestampMs s
  have calm := fun {s'} (calm : Calm s s') => calm.fetchStep (.frame frame rxTimestampMs env)
  show FetchStep s _ (handleFrameComplete env frame rxTimestampMs s)
  generalize handled : handleFrameComplete env frame rxTimestampMs s = s' at handles ⊢
  have may : MayRequest s s' → FetchStep s (.frame frame rxTimestampMs env) s' := by
    rw [← handled]
    exact @MayRequest.fetchStep s (.frame frame rxTimestampMs env)
  cases handles with
  | heartbeat own => exact may (handleHeartbeat_mayRequest env frame rxTimestampMs s)
  | commandAck own => exact calm (handleCommandAck_aside frame s).toCalm
  | telemetry listed own =>
    exact may (handleTelemetry_mayRequest _ (telemetryHandlers_aside listed) env frame
      rxTimestampMs s)
  | missionRequestInt own =>
    exact calm (handleMissionRequestInt_calm env frame rxTimestampMs s)
  | missionRequest own => exact calm (handleMissionRequest_calm env frame rxTimestampMs s)
  | missionAck own => exact may (handleMissionAck_mayRequest env frame rxTimestampMs s)
  | missionCount own waiting =>
    rcases handleMissionCount_fetches env frame rxTimestampMs s with same | ⟨valid, fetches⟩
    · exact calm same
    · exact ⟨.count _,
        ⟨frame, rxTimestampMs, env, rfl, decide_eq_true ⟨own, valid⟩, rfl, waiting⟩, fetches⟩
  | missionItemInt own waiting =>
    rcases handleMissionItemInt_fetches env frame rxTimestampMs collects waiting with
      same | ⟨valid, fetches⟩
    · exact calm same
    · exact ⟨.take _,
        ⟨frame, rxTimestampMs, env, rfl, decide_eq_true ⟨own, valid⟩, rfl, waiting⟩, fetches⟩
  | missionCurrent own => exact may (handleMissionCurrent_mayRequest env frame rxTimestampMs s)
  | nothing noBeat noTelemetry noCurrent => exact calm (Calm.of_same rfl rfl)

/-- A step carries out an action of the fetch that its input has to do with. -/
theorem step_fetchStep {s : State} (inRange : InRange s)
    (collects : (fetch s).Collects downloadLimit routeMaxWaypoints) (input : Input) :
    FetchStep s input (step s input) := by
  have may := fun requests => @MayRequest.fetchStep s input requests
  have calm := fun calm => @Calm.fetchStep s (step s input) calm input
  cases input with
  | routeUpdate msg env => exact calm (startMissionUpload_calm env msg inRange)
  | missionQuery env =>
    by_cases connected : s.linkState = .connected
    · exact ⟨.request, .inl ⟨env, rfl, connected⟩, missionQuery_fetches env connected⟩
    · exact calm (missionQuery_calm env connected)
  | command command =>
    apply calm
    cases command <;> exact Calm.of_same rfl rfl
  | invalidCommand defect => exact calm (Calm.of_same rfl rfl)
  | config cmd saved => exact calm (processConfigCommand_aside saved cmd s).toCalm
  | setFlightMode cmd env => exact calm (processSetFlightModeCmd_aside env cmd s).toCalm
  | reportHousekeeping =>
    have reported : Aside s (reportHousekeeping s) :=
      transmitMsg_aside rfl (Aside.of_same rfl rfl)
    exact calm reported.toCalm
  | serialReconnect path result env => exact may (serialReconnect_mayRequest path result env s)
  | reconnect nowMs path result env => exact may (reconnect_mayRequest nowMs path result env s)
  | companionHeartbeat nowMs env => exact calm (sendCompanionHeartbeat_aside nowMs env s).toCalm
  | serviceStreams nowMs env => exact calm (serviceStreams_aside nowMs env s).toCalm
  | checkUpload nowMs env => exact calm (checkMissionUploadTimeout_calm nowMs env s)
  | checkDownload nowMs =>
    rcases checkMissionDownloadTimeout_fetches nowMs s with same | fetches
    · exact calm same
    · exact ⟨.giveUp, trivial, fetches⟩
  | retryReadback nowMs env => exact may (retryReadback_mayRequest nowMs env s)
  | bytes length nowMs => exact calm (Calm.of_same rfl rfl)
  | frame frame rxTimestampMs env =>
    exact handleFrameComplete_fetchStep collects frame rxTimestampMs env
  | checkStale nowMs env =>
    apply calm
    show Calm s (checkStale nowMs env s)
    unfold checkStale
    split
    · have notUp : LinkState.degraded ≠ .connected := by decide
      have marked : Calm s (markOutputsStale { s with lastErrorCode := .readTimeout }) :=
        Calm.of_same rfl rfl
      exact marked.trans (setLinkState_calm notUp env _)
    · exact Calm.of_same rfl rfl
  | readFailure errno env =>
    have notUp : LinkState.disconnected ≠ .connected := by decide
    have marked : Calm s (markOutputsStale { s with lastErrorCode := .linkDown }) :=
      Calm.of_same rfl rfl
    have down := marked.trans (setLinkState_calm notUp env _)
    exact calm (down.trans (Calm.of_same rfl rfl))

/-- What an input has to do with the fetch can happen to it. -/
theorem FetchMeans.enabled {s : State} {input : Input} {action : Fetch.Action Waypoint}
    (means : FetchMeans s input action) : (fetch s).Enabled action := by
  cases action with
  | count number =>
    obtain ⟨frame, rxTimestampMs, env, -, -, -, waiting⟩ := means
    exact congrArg DownloadState.phase waiting
  | take wp =>
    obtain ⟨frame, rxTimestampMs, env, -, -, -, waiting⟩ := means
    exact congrArg DownloadState.phase waiting
  | request => trivial
  | giveUp => trivial
  | silent => trivial

/-- A download that waits for items has not taken all of them, in every state reached. -/
theorem run_collects {start : State} (inRange : InRange start)
    (collects : (fetch start).Collects downloadLimit routeMaxWaypoints) (inputs : List Input) :
    (fetch (Run.run step start inputs)).Collects downloadLimit routeMaxWaypoints := by
  induction inputs using List.reverseRecOn with
  | nil => exact collects
  | append_singleton before input previous =>
    obtain ⟨action, means, fetches⟩ := step_fetchStep (run_inRange inRange before) previous input
    rw [Run.run_snoc, fetches.fetch]
    exact previous.step (by decide) means.enabled

/-- A start downloads nothing. -/
theorem initialState_collects (config : ConfigParams) :
    (fetch (initialState config)).Collects downloadLimit routeMaxWaypoints :=
  fun impossible => nomatch impossible

/-- The readbacks that a step publishes. -/
def publishedReadbacks (s s' : State) : List RouteUpdate :=
  readbacks (s'.outputs.take (s'.outputs.length - s.outputs.length))

/-- The readbacks that a step publishes are those it says. -/
theorem Publishes.publishedReadbacks {messages : List RouteUpdate} {s s' : State}
    (publishes : Publishes messages s s') : publishedReadbacks s s' = messages := by
  obtain ⟨new, outputs, own⟩ := publishes
  rw [Bridge.publishedReadbacks, outputs]
  simp [own]

end CfsTelemetry.Bridge
