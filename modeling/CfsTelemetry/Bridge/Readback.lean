import CfsTelemetry.Bridge.State

/-!
# Reading the mission back

The download of the flight controller's mission: how it starts, on a new connection, after an
upload, by command or as a retry, how it is published when it is complete, and how it is given
up and retried later.
-/
namespace CfsTelemetry.Bridge

open Slots

/-- Time for each answer of a download. -/
def missionDownloadTimeoutMs : UInt32 := 3000

/-- The first pause before a readback is retried. -/
def readbackBackoffInitialMs : UInt32 := 1000

/-- The longest pause before a readback is retried. -/
def readbackBackoffCapMs : UInt32 := 5000

/-- Whether a deadline of the 32-bit clock has passed. -/
def expired (nowMs deadlineMs : UInt32) : Bool := decide (0 ≤ (nowMs - deadlineMs).toInt32)

/-- Wait for the item count of a new download. -/
def awaitCount (env : Env) (s : State) : State :=
  { s with
    missionDownloadState := .waitCount
    missionDownloadSeq := 0
    missionDownloadExpectedCount := 0
    missionDownloadTimeoutMs := env.timeMs + missionDownloadTimeoutMs }

/-- Start a readback. -/
def startFcMissionReadback (env : Env) (s : State) : State :=
  let waiting := { awaitCount env s with missionReadbackPending := false }
  sendEvent .missionReadback .information "MAVLINK_BRIDGE_APP: FC mission readback started"
    (sendMissionRequestList (env.tx 0) waiting)

/-- Publish the downloaded mission. -/
def publishFcMissionReadback (env : Env) (s : State) : State :=
  let expected := s.missionDownloadExpectedCount
  let clamped := decide (expected.toNat > routeMaxWaypoints)
  let count := if clamped then UInt8.ofNat routeMaxWaypoints else expected
  let noted :=
    if clamped then sendEvent .missionReadback .information
      s!"MAVLINK_BRIDGE_APP: readback clamped {expected}->{routeMaxWaypoints} waypoints" s
    else s
  let seq := s.missionReadbackSeq + 1
  let tlm : RouteUpdate := {
    seq := seq
    timestampMs := env.timeMs
    sourceSequence := 0
    routeType := 1
    routeVersion := 0
    waypointCount := count
    waypoints := fill (slot s.missionDownloadWaypoints) 0 count.toNat
      s.fcMissionReadbackTlm.waypoints }
  sendEvent .missionReadback .information
    s!"MAVLINK_BRIDGE_APP: FC mission readback published wp_count={count} seq={seq}"
    (transmitMsg (.fcMissionReadback tlm)
      { noted with missionReadbackSeq := seq, fcMissionReadbackTlm := tlm })

/-- Handle the command to read the mission back. -/
def missionQuery (env : Env) (s : State) : State :=
  if s.linkState ≠ .connected then
    sendEvent .missionDownloadErr .error
      "MAVLINK_BRIDGE_APP: MISSION_QUERY ignored - FC link not connected"
      { s with errCounter := s.errCounter + 1 }
  else
    sendEvent .missionDownloadInf .information "MAVLINK_BRIDGE_APP: MISSION_QUERY started"
      (sendMissionRequestList (env.tx 0)
        { awaitCount env s with cmdCounter := s.cmdCounter + 1 })

/-- Give a download up when its answer is overdue, and retry it later on a connected link. -/
def checkMissionDownloadTimeout (nowMs : UInt32) (s : State) : State :=
  if s.missionDownloadState = .idle then s
  else if expired nowMs s.missionDownloadTimeoutMs = false then s
  else
    let ended := sendEvent .missionDownloadErr .error
      (s!"MAVLINK_BRIDGE_APP: MISSION_QUERY timeout (seq={s.missionDownloadSeq} " ++
        s!"expected={s.missionDownloadExpectedCount})")
      { s with missionDownloadState := .idle }
    if s.linkState = .connected then
      let backoff :=
        if s.missionReadbackBackoffMs < readbackBackoffInitialMs then readbackBackoffInitialMs
        else s.missionReadbackBackoffMs
      let doubled := backoff * 2
      sendEvent .missionReadback .information
        s!"MAVLINK_BRIDGE_APP: readback retry scheduled in {backoff}ms"
        { ended with
          missionReadbackPending := true
          missionReadbackNextRetryMs := nowMs + backoff
          missionReadbackBackoffMs :=
            if doubled > readbackBackoffCapMs then readbackBackoffCapMs else doubled }
    else ended

/-- Start a readback that was put off, when its time has come and nothing else is going on. -/
def retryReadback (nowMs : UInt32) (env : Env) (s : State) : State :=
  if s.missionReadbackPending = true ∧ expired nowMs s.missionReadbackNextRetryMs = true ∧
      s.linkState = .connected ∧ s.missionUploadState = .idle ∧
      s.missionDownloadState = .idle then
    startFcMissionReadback env s
  else s

/-- Set the state of the link; a new connection starts a readback. -/
def setLinkState (newState : LinkState) (env : Env) (s : State) : State :=
  let changed := { s with linkState := newState }
  if newState = .connected ∧ s.linkState ≠ .connected then
    let reset := { changed with
      missionReadbackBackoffMs := readbackBackoffInitialMs
      missionReadbackPending := false }
    if s.missionUploadState = .idle ∧ s.missionDownloadState = .idle then
      startFcMissionReadback env reset
    else reset
  else if newState = .disconnected then { changed with missionReadbackPending := false }
  else changed

end CfsTelemetry.Bridge
