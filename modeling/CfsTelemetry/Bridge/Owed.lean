import CfsTelemetry.Bridge.Exclusion
import CfsTelemetry.Bridge.Link
import CfsTelemetry.Bridge.Success

/-!
# Readbacks that are owed

A connected bridge that has not read the mission back yet reads it now or has put the readback
off. Every step keeps this until a readback is published, but for one: a link that is connected
again during an upload drops a readback that was put off, and starts none.
-/
namespace CfsTelemetry.Bridge

open Slots

/-- What decides whether the mission will be read back. -/
structure ReadbackView where
  link : LinkState
  download : DownloadState
  pending : Bool

/-- The part of the state that decides whether the mission will be read back. -/
def readbackView (s : State) : ReadbackView where
  link := s.linkState
  download := s.missionDownloadState
  pending := s.missionReadbackPending

/-- A connected bridge reads the mission back, or has put that off. -/
def Awaits (s : State) : Prop :=
  s.linkState = .connected → s.missionDownloadState ≠ .idle ∨ s.missionReadbackPending = true

/-- Whether an input connects the link anew. -/
def connects (s : State) : Input → Bool
  | .frame frame _ _ => s.linkState ≠ .connected ∧ promotes frame s.targetSystemId
  | .reconnect nowMs _ result _ =>
    nowMs - s.lastReconnectAttemptMs ≥ s.activeConfig.reconnectIntervalMs ∧ result.errno = none
  | .serialReconnect _ result _ => s.linkState ≠ .connected ∧ result.errno = none
  | _ => false

/-- Whether an input drops the readback: it connects the link anew during an upload. -/
def forgetsReadback (s : State) (input : Input) : Bool :=
  connects s input ∧ s.missionUploadState ≠ .idle ∧ s.missionDownloadState = .idle

/-- Waiting depends on the view only. -/
theorem Awaits.of_same {s s' : State} (same : readbackView s' = readbackView s)
    (awaits : Awaits s) : Awaits s' := by
  intro connected
  have link : s'.linkState = s.linkState := congrArg ReadbackView.link same
  have download : s'.missionDownloadState = s.missionDownloadState :=
    congrArg ReadbackView.download same
  have pending : s'.missionReadbackPending = s.missionReadbackPending :=
    congrArg ReadbackView.pending same
  rw [download, pending]
  exact awaits (link.symm.trans connected)

/-- A download waits for the mission. -/
theorem Awaits.of_download {s : State} (busy : s.missionDownloadState ≠ .idle) : Awaits s :=
  fun _ => .inl busy

/-- Nothing is owed on a link that is not connected. -/
theorem Awaits.of_link {s : State} (down : s.linkState ≠ .connected) : Awaits s :=
  fun connected => absurd connected down

/-- What has nothing to do with missions leaves the readback alone. -/
theorem Aside.readbackView {s s' : State} (aside : Aside s s') :
    readbackView s' = readbackView s := by
  have link : s'.linkState = s.linkState := congrArg LinkView.state aside.link
  have download : s'.missionDownloadState = s.missionDownloadState :=
    congrArg DownloadView.state aside.same
  rw [Bridge.readbackView, link, download, aside.pending]
  rfl

/-- Sending a frame leaves the readback alone. -/
theorem sendMavlinkV2_readbackView (kind : MessageKind) (payload : List UInt8)
    (fault : Option TxFault) (s : State) :
    readbackView (sendMavlinkV2 kind payload fault s).2 = readbackView s := by
  have link := congrArg LinkView.state (sendMavlinkV2_link kind payload fault s)
  have download := congrArg DownloadView.state (sendMavlinkV2_calm kind payload fault s).same
  rw [readbackView, sendMavlinkV2_pending]
  exact congrArg₂ (fun link download => ReadbackView.mk link download s.missionReadbackPending)
    link download

/-! ## Steps of the upload -/

/-- A route update leaves the readback alone. -/
theorem startMissionUpload_readbackView {s : State} (inRange : InRange s) (env : Env)
    (msg : RouteUpdate) :
    readbackView (startMissionUpload env msg s) = readbackView s := by
  by_cases starts : startsUpload msg s = true
  · obtain ⟨text, newCount, built, builds, begins⟩ := startMissionUpload_begins inRange env starts
    have kept : readbackView built = readbackView s := by
      rw [builds.same]
      rfl
    rw [begins]
    exact (sendMavlinkV2_readbackView ..).trans kept
  · have ignored : startsUpload msg s = false := by simpa using starts
    obtain ⟨events, same⟩ := startMissionUpload_ignored env ignored
    rw [same]
    rfl

/-- The timeout of the upload leaves the readback alone. -/
theorem checkMissionUploadTimeout_readbackView (nowMs : UInt32) (env : Env) (s : State) :
    readbackView (checkMissionUploadTimeout nowMs env s) = readbackView s := by
  have announces : readbackView (announceMission nowMs env s) = readbackView s :=
    sendMavlinkV2_readbackView ..
  have retries : readbackView (retryUpload nowMs env s) = readbackView s :=
    (sendMavlinkV2_readbackView ..).trans (sendMavlinkV2_readbackView ..)
  unfold checkMissionUploadTimeout
  repeat' split
  all_goals first | exact announces | exact retries | rfl

/-- A request for an item leaves the readback alone. -/
theorem handleMissionRequestInt_readbackView (env : Env) (frame : RxFrame)
    (rxTimestampMs : UInt32) (s : State) :
    readbackView (handleMissionRequestInt env frame rxTimestampMs s) = readbackView s := by
  have sent : ∀ s' : State, readbackView (sendMissionItemInt (readU16LE frame.payload 0).toUInt8
      (env.tx 0) s') = readbackView s' := fun s' => sendMavlinkV2_readbackView ..
  unfold handleMissionRequestInt
  split
  · split
    · rw [sent]
      simp only [readbackView, awaitRequest]
    · rfl
  · rfl

/-- A legacy request for an item leaves the readback alone. -/
theorem handleMissionRequest_readbackView (env : Env) (frame : RxFrame) (rxTimestampMs : UInt32)
    (s : State) :
    readbackView (handleMissionRequest env frame rxTimestampMs s) = readbackView s := by
  have sent : ∀ s' : State, readbackView (sendMissionItem (readU16LE frame.payload 0).toUInt8
      (env.tx 0) s') = readbackView s' := fun s' => sendMavlinkV2_readbackView ..
  unfold handleMissionRequest
  dsimp only
  split
  · split
    · rw [sent]
      simp only [readbackView, awaitRequest, sendEvent]
    · rfl
  · rfl

/-- A readback that starts waits for the item count. -/
theorem startFcMissionReadback_waits (env : Env) (s : State) :
    (startFcMissionReadback env s).missionDownloadState = .waitCount := by
  have asked := sendMavlinkV2_calm .missionRequestList
    [s.targetSystemId, s.targetComponentId, missionTypeMission] (env.tx 0)
    { awaitCount env s with missionReadbackPending := false }
  exact congrArg DownloadView.state asked.same

/-- An accepted upload is read back. -/
theorem commitUpload_downloads (env : Env) (rxTimestampMs : UInt32) (s : State) :
    (commitUpload env rxTimestampMs s).missionDownloadState ≠ .idle := by
  unfold commitUpload
  dsimp only
  split
  · rw [startFcMissionReadback_waits]
    decide
  · assumption

/-- An acknowledgement keeps a readback waiting. -/
theorem handleMissionAck_awaits (env : Env) (frame : RxFrame) (rxTimestampMs : UInt32) {s : State}
    (awaits : Awaits s) : Awaits (handleMissionAck env frame rxTimestampMs s) := by
  unfold handleMissionAck
  split
  · split
    · split
      · exact .of_download (commitUpload_downloads env rxTimestampMs s)
      · exact awaits.of_same rfl
    · exact awaits
  · exact awaits.of_same rfl

/-- A command to read the mission back keeps a readback waiting. -/
theorem missionQuery_awaits (env : Env) {s : State} (awaits : Awaits s) :
    Awaits (missionQuery env s) := by
  unfold missionQuery
  split
  · exact awaits.of_same rfl
  · have asked := sendMavlinkV2_calm .missionRequestList
      [s.targetSystemId, s.targetComponentId, missionTypeMission] (env.tx 0)
      { awaitCount env s with cmdCounter := s.cmdCounter + 1 }
    have waits : (sendMissionRequestList (env.tx 0)
        { awaitCount env s with cmdCounter := s.cmdCounter + 1 }).missionDownloadState =
          .waitCount := congrArg DownloadView.state asked.same
    have busy : Awaits (sendMissionRequestList (env.tx 0)
        { awaitCount env s with cmdCounter := s.cmdCounter + 1 }) :=
      .of_download (by rw [waits]; decide)
    exact busy.of_same rfl

/-- A download that is given up is put off on a connected link. -/
theorem checkMissionDownloadTimeout_awaits (nowMs : UInt32) {s : State} (awaits : Awaits s) :
    Awaits (checkMissionDownloadTimeout nowMs s) := by
  unfold checkMissionDownloadTimeout
  split
  · exact awaits
  · split
    · exact awaits
    · dsimp only
      split
      · exact fun _ => .inr rfl
      · exact .of_link ‹_›

/-- The retry of a readback keeps it waiting. -/
theorem retryReadback_awaits (nowMs : UInt32) (env : Env) {s : State} (awaits : Awaits s) :
    Awaits (retryReadback nowMs env s) := by
  unfold retryReadback
  split
  · apply Awaits.of_download
    rw [startFcMissionReadback_waits]
    decide
  · exact awaits

/-- A change of the link keeps a readback waiting, unless it connects the link anew during an
upload. -/
theorem setLinkState_awaits {newState : LinkState} (env : Env) {s : State}
    (free : newState = .connected → s.linkState ≠ .connected →
      s.missionUploadState = .idle ∨ s.missionDownloadState ≠ .idle)
    (awaits : Awaits s) : Awaits (setLinkState newState env s) := by
  unfold setLinkState
  dsimp only
  split
  · rename_i anew
    split
    · apply Awaits.of_download
      rw [startFcMissionReadback_waits]
      decide
    · rename_i busy
      have downloads : s.missionDownloadState ≠ .idle := by
        intro idle
        rcases free anew.1 anew.2 with upload | download
        · exact busy ⟨upload, idle⟩
        · exact download idle
      exact .of_download downloads
  · rename_i known
    split
    · rename_i down
      apply Awaits.of_link
      show newState ≠ .connected
      rw [down]
      decide
    · intro connected
      have up : s.linkState = .connected := by
        by_contra anew
        exact known ⟨connected, anew⟩
      exact awaits up

section Frames

variable {s : State} (env : Env) (frame : RxFrame) (rxTimestampMs : UInt32)
    (free : s.linkState ≠ .connected →
      s.missionUploadState = .idle ∨ s.missionDownloadState ≠ .idle) (awaits : Awaits s)
include free awaits

/-- A valid message of the flight controller keeps a readback waiting. -/
theorem noteReceived_awaits : Awaits (noteReceived env rxTimestampMs s) := by
  refine setLinkState_awaits env (fun _ => ?_) ?_
  · exact free
  · exact awaits.of_same rfl

/-- A heartbeat keeps a readback waiting. -/
theorem handleHeartbeat_awaits : Awaits (handleHeartbeat env frame rxTimestampMs s) := by
  have locked : ∃ system component, lockTarget frame s = { s with
      targetSystemId := system, targetComponentId := component } := by
    unfold lockTarget
    dsimp only
    split <;> exact ⟨_, _, rfl⟩
  obtain ⟨system, component, locked⟩ := locked
  unfold handleHeartbeat
  rw [locked]
  split
  · dsimp only
    split
    · have connected : Awaits (setLinkState .connected env { s with
          targetSystemId := system
          targetComponentId := component
          lastRxTimestampMs := rxTimestampMs }) := by
        refine setLinkState_awaits env (fun _ => ?_) ?_
        · exact free
        · exact awaits.of_same rfl
      exact connected.of_same rfl
    · exact awaits.of_same rfl
  · exact awaits.of_same rfl

/-- A state message keeps a readback waiting. -/
theorem handleTelemetry_awaits {kind : MessageKind} {publish : RxFrame → UInt32 → State → State}
    (listed : (kind, publish) ∈ telemetryHandlers) :
    Awaits (handleTelemetry kind publish env frame rxTimestampMs s) := by
  unfold handleTelemetry
  split
  · have noted := noteReceived_awaits env rxTimestampMs free awaits
    have published := telemetryHandlers_aside listed frame rxTimestampMs
      (noteReceived env rxTimestampMs s)
    exact noted.of_same published.readbackView
  · exact awaits.of_same rfl

/-- The current item of the flight controller keeps a readback waiting. -/
theorem handleMissionCurrent_awaits : Awaits (handleMissionCurrent env frame rxTimestampMs s) := by
  unfold handleMissionCurrent
  split
  · exact (noteReceived_awaits env rxTimestampMs free awaits).of_same rfl
  · exact awaits.of_same rfl

end Frames

/-- Opening the port keeps a readback waiting, unless it connects the link anew during an
upload. -/
theorem openSerial_awaits (path : String) {result : OpenResult} (env : Env) {s : State}
    (free : result.errno = none → s.linkState ≠ .connected →
      s.missionUploadState = .idle ∨ s.missionDownloadState ≠ .idle)
    (awaits : Awaits s) : Awaits (openSerial path result env s) := by
  cases result with
  | opened timeMs =>
    have connected : Awaits (setLinkState .connected env { s with
        serialOpen := true
        lastErrorCode := .none
        lastRxTimestampMs := 0
        lastHeartbeatTxMs := 0
        lastStreamRequestMs := 0
        targetDiscoveryStartMs := timeMs
        streamRequestPending := true }) := by
      refine setLinkState_awaits env (fun _ => ?_) ?_
      · exact free rfl
      · exact awaits.of_same rfl
    exact connected.of_same rfl
  | _ => exact awaits.of_same rfl

/-- A due attempt to open the port keeps a readback waiting, unless it connects the link during
an upload. -/
theorem reconnect_awaits (nowMs : UInt32) (path : String) {result : OpenResult} (env : Env)
    {s : State}
    (free : nowMs - s.lastReconnectAttemptMs ≥ s.activeConfig.reconnectIntervalMs →
      result.errno = none → s.missionUploadState = .idle ∨ s.missionDownloadState ≠ .idle)
    (awaits : Awaits s) : Awaits (reconnect nowMs path result env s) := by
  unfold reconnect
  split
  · rename_i due
    have notUp : LinkState.disconnected ≠ .connected := by decide
    let tried : State := { s with
      lastReconnectAttemptMs := nowMs
      reconnectAttemptCount := s.reconnectAttemptCount + 1 }
    have upload : (setLinkState .disconnected env tried).missionUploadState =
        s.missionUploadState :=
      congrArg UploadView.state (setLinkState_silent .disconnected env
        (Silent.of_same rfl rfl : Silent s tried)).view
    have download : (setLinkState .disconnected env tried).missionDownloadState =
        s.missionDownloadState :=
      congrArg DownloadView.state (setLinkState_calm notUp env tried).same
    have down : (setLinkState .disconnected env tried).linkState = .disconnected :=
      congrArg LinkView.state (setLinkState_link .disconnected env tried)
    have opened : Awaits (openSerial path result env (setLinkState .disconnected env tried)) := by
      apply openSerial_awaits
      · intro opens _
        rw [upload, download]
        exact free due opens
      · apply Awaits.of_link
        rw [down]
        decide
    dsimp only
    split
    · exact opened
    · exact opened.of_same rfl
  · exact awaits

/-- A download that is not touched is still waited for. -/
theorem Calm.awaits {s s' : State} (calm : Calm s s') (busy : s.missionDownloadState ≠ .idle) :
    Awaits s' := by
  have same : s'.missionDownloadState = s.missionDownloadState :=
    congrArg DownloadView.state calm.same
  rw [← same] at busy
  exact .of_download busy

/-- A download that goes on is waited for. -/
theorem awaits_of_fetches {action : Fetch.Action Waypoint} {s s' : State}
    (fetches : Fetches action s s')
    (goesOn : ((fetch s).step downloadLimit routeMaxWaypoints action).phase ≠ .idle) :
    Awaits s' := by
  have phase := congrArg Fetch.phase fetches.fetch
  exact .of_download fun ended => goesOn (phase.symm.trans ((download_idle_iff s').mpr ended))

/-- A download that ends with a list publishes a readback. -/
theorem publishes_of_fetches {action : Fetch.Action Waypoint} {s s' : State}
    (fetches : Fetches action s s') (ends : (fetch s).result routeMaxWaypoints action ≠ none) :
    publishedReadbacks s s' ≠ [] := by
  intro nothing
  have ⟨messages, published, lists⟩ := fetches.publishes
  rw [published.publishedReadbacks] at nothing
  have ⟨list, ended⟩ := Option.ne_none_iff_exists'.mp ends
  rw [nothing, ended] at lists
  cases lists

/-- A complete frame publishes a readback, or keeps one waiting, unless it connects the link anew
during an upload. -/
theorem handleFrameComplete_awaits {s : State}
    (collects : (fetch s).Collects downloadLimit routeMaxWaypoints) (env : Env) (frame : RxFrame)
    (rxTimestampMs : UInt32)
    (remembered : forgetsReadback s (.frame frame rxTimestampMs env) = false)
    (awaits : Awaits s) :
    Awaits (handleFrameComplete env frame rxTimestampMs s) ∨
      publishedReadbacks s (handleFrameComplete env frame rxTimestampMs s) ≠ [] := by
  have handles := handleFrameComplete_handles env frame rxTimestampMs s
  have link := handleFrameComplete_link env frame rxTimestampMs s
  generalize handleFrameComplete env frame rxTimestampMs s = s' at handles link ⊢
  by_cases quiet : s.linkState ≠ .connected ∧ promotes frame s.targetSystemId = false
  · -- The frame leaves the link unconnected.
    left
    apply Awaits.of_link
    have state : s'.linkState = ((linkView s).after frame rxTimestampMs).state :=
      congrArg LinkView.state link
    have silent : promotes frame (linkView s).targetSystemId = false := quiet.2
    rw [state, LinkView.after, silent]
    exact quiet.1
  have free : s.linkState ≠ .connected →
      s.missionUploadState = .idle ∨ s.missionDownloadState ≠ .idle := by
    intro down
    have anew : connects s (.frame frame rxTimestampMs env) = true :=
      decide_eq_true ⟨down, by simpa [down] using quiet⟩
    by_contra busy
    obtain ⟨upload, download⟩ := not_or.mp busy
    exact of_decide_eq_false remembered ⟨anew, upload, not_not.mp download⟩
  cases handles with
  | heartbeat own => exact .inl (handleHeartbeat_awaits env frame rxTimestampMs free awaits)
  | commandAck own => exact .inl (awaits.of_same (handleCommandAck_aside frame s).readbackView)
  | telemetry listed own =>
    exact .inl (handleTelemetry_awaits env frame rxTimestampMs free awaits listed)
  | missionRequestInt own =>
    exact .inl (awaits.of_same (handleMissionRequestInt_readbackView env frame rxTimestampMs s))
  | missionRequest own =>
    exact .inl (awaits.of_same (handleMissionRequest_readbackView env frame rxTimestampMs s))
  | missionAck own => exact .inl (handleMissionAck_awaits env frame rxTimestampMs awaits)
  | missionCount own waiting =>
    rcases handleMissionCount_fetches env frame rxTimestampMs s with calm | ⟨-, fetches⟩
    · exact .inl (calm.awaits (by rw [waiting]; decide))
    · by_cases empty : (readU16LE frame.payload 0).toNat = 0
      · refine .inr (publishes_of_fetches fetches ?_)
        rw [Fetch.result, if_pos empty]
        exact Option.some_ne_none _
      · refine .inl (awaits_of_fetches fetches ?_)
        rw [Fetch.step, if_neg empty]
        intro ended
        cases ended
  | missionItemInt own waiting =>
    rcases handleMissionItemInt_fetches env frame rxTimestampMs collects waiting with
      calm | ⟨-, fetches⟩
    · exact .inl (calm.awaits (by rw [waiting]; decide))
    · by_cases last : (fetch s).taken + 1 ≥ (fetch s).expected
      · refine .inr (publishes_of_fetches fetches ?_)
        rw [Fetch.result, if_pos last]
        exact Option.some_ne_none _
      · refine .inl (awaits_of_fetches fetches ?_)
        rw [Fetch.step, if_neg last]
        intro ended
        have collecting : (fetch s).phase = .collecting := congrArg DownloadState.phase waiting
        rw [collecting] at ended
        cases ended
  | missionCurrent own =>
    exact .inl (handleMissionCurrent_awaits env frame rxTimestampMs free awaits)
  | nothing noBeat noTelemetry noCurrent => exact .inl awaits

/-- A step publishes a readback, or keeps one waiting, unless it connects the link anew during
an upload. -/
theorem step_awaits {s : State} (inRange : InRange s)
    (collects : (fetch s).Collects downloadLimit routeMaxWaypoints) {input : Input}
    (remembered : forgetsReadback s input = false) (awaits : Awaits s) :
    Awaits (step s input) ∨ publishedReadbacks s (step s input) ≠ [] := by
  have free : connects s input = true →
      s.missionUploadState = .idle ∨ s.missionDownloadState ≠ .idle := by
    intro anew
    by_contra busy
    obtain ⟨upload, download⟩ := not_or.mp busy
    exact of_decide_eq_false remembered ⟨anew, upload, not_not.mp download⟩
  cases input with
  | frame frame rxTimestampMs env =>
    exact handleFrameComplete_awaits collects env frame rxTimestampMs remembered awaits
  | routeUpdate msg env =>
    exact .inl (awaits.of_same (startMissionUpload_readbackView inRange env msg))
  | missionQuery env => exact .inl (missionQuery_awaits env awaits)
  | command command => exact .inl (awaits.of_same (by cases command <;> rfl))
  | invalidCommand defect => exact .inl (awaits.of_same rfl)
  | config cmd saved =>
    exact .inl (awaits.of_same (processConfigCommand_aside saved cmd s).readbackView)
  | setFlightMode cmd env =>
    exact .inl (awaits.of_same (processSetFlightModeCmd_aside env cmd s).readbackView)
  | reportHousekeeping => exact .inl (awaits.of_same rfl)
  | serialReconnect path result env =>
    have opened : Awaits (openSerial path result env (closeSerial s)) := by
      apply openSerial_awaits
      · exact fun opens down => free (decide_eq_true ⟨down, opens⟩)
      · exact awaits.of_same rfl
    exact .inl (opened.of_same rfl)
  | reconnect nowMs path result env =>
    exact .inl (reconnect_awaits nowMs path env
      (fun due opens => free (decide_eq_true ⟨due, opens⟩)) awaits)
  | companionHeartbeat nowMs env =>
    exact .inl (awaits.of_same (sendCompanionHeartbeat_aside nowMs env s).readbackView)
  | serviceStreams nowMs env =>
    exact .inl (awaits.of_same (serviceStreams_aside nowMs env s).readbackView)
  | checkUpload nowMs env =>
    exact .inl (awaits.of_same (checkMissionUploadTimeout_readbackView nowMs env s))
  | checkDownload nowMs => exact .inl (checkMissionDownloadTimeout_awaits nowMs awaits)
  | retryReadback nowMs env => exact .inl (retryReadback_awaits nowMs env awaits)
  | bytes length nowMs => exact .inl (awaits.of_same rfl)
  | checkStale nowMs env =>
    left
    show Awaits (checkStale nowMs env s)
    unfold checkStale
    split
    · exact setLinkState_awaits env nofun (awaits.of_same rfl)
    · exact awaits
  | readFailure errno env =>
    have down : Awaits (setLinkState .disconnected env
        (markOutputsStale { s with lastErrorCode := .linkDown })) :=
      setLinkState_awaits env nofun (awaits.of_same rfl)
    exact .inl (down.of_same rfl)

/-- An accepted upload is read back, or a readback is under way. -/
theorem TakesAck.downloads {s : State} {input : Input} (takes : TakesAck s input) :
    (step s input).missionDownloadState ≠ .idle := by
  obtain ⟨ack, rxTimestampMs, env, rfl, accepted, active⟩ := takes
  have valid : ack.valid .missionAck = true := by
    unfold acknowledgedResult at accepted
    split at accepted
    · assumption
    · cases accepted
  have result : ackResult ack = missionAccepted := by
    rw [acknowledgedResult, if_pos valid] at accepted
    exact Option.some.inj accepted
  obtain ⟨own, checks⟩ := of_decide_eq_true valid
  show (handleFrameComplete env ack rxTimestampMs s).missionDownloadState ≠ .idle
  rw [(handleFrameComplete_concerned env ack rxTimestampMs s).missionAck own, handleMissionAck,
    if_pos checks, if_pos active, if_pos result]
  exact commitUpload_downloads env rxTimestampMs s

end CfsTelemetry.Bridge
