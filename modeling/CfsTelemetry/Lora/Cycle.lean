import CfsTelemetry.Library.Run
import CfsTelemetry.Lora.Window
import CfsTelemetry.Uplink.State

/-!
# The cycle of the LoRa application

In a cycle the application drains its pipe, reopens the port if it is closed, transmits one
downlink, receives for the length of a window and judges the link. Here are the parts other
than the window, each of them a step of its own.
-/
namespace CfsTelemetry.Lora

/-- The feedback a result of the uplink application sets; the other results leave the feedback
as it is. -/
def resultFeedback (result : UInt8) : Option Feedback :=
  if result = 10 then some .seqFail
  else if result = 11 then some .stateBlocked
  else if result = 4 then some .failed
  else if result = 5 then some .rejectVersion
  else if result = 6 then some .rejectClass
  else if result = 7 then some .rejectLength
  else if result = 8 then some .routeMiss
  else if result = 9 then some .rejectRoute
  else if result = 12 then some .rejectChecksum
  else if result = 13 then some .rejectViewpoint
  else if result = 17 then some .rejectCounter
  else if result = 18 then some .rejectFlightMode
  else if result = 3 then some .applied
  else none

/-- Take a status of the uplink application. -/
def processUplinkStatus (tlm : Uplink.StatusTlm) (s : State) : State :=
  { s with
    uplinkLastAcceptedSequence := tlm.lastAcceptedSequence
    uplinkBootCount := tlm.bootCount
    pendingUplinkFeedback :=
      (resultFeedback tlm.lastCommandResult).getD s.pendingUplinkFeedback }

/-- A message of another application that the downlink reports on. -/
inductive Telemetry where
  | attitude (timestampMs : UInt32) (valid : UInt8) (rollRad pitchRad yawRad : UInt32)
  | ekfLocal (timestampMs : UInt32) (valid : UInt8) (x y z vx vy vz : UInt32)
  | gpsRaw (timestampMs : UInt32) (valid : UInt8) (latE7 lonE7 altMm : Int32)
      (fixType satellitesVisible : UInt8)
  | ekfStatus (timestampMs : UInt32) (valid : UInt8)
  | systemHealth (timestampMs : UInt32) (healthState faultCode : UInt8)
  | routeSnapshot (routeType waypointCount : UInt8) (waypoints : WaypointArray)

/-- Packet type of the flight-controller state. -/
def fcStatePacketType : UInt8 := 1

/-- Packet type of the system health. -/
def systemHealthPacketType : UInt8 := 2

/-- Start the pages of a route readback. -/
def processRouteSnapshot (routeType waypointCount : UInt8) (waypoints : WaypointArray)
    (s : State) : State :=
  let count := if waypointCount > 37 then 37 else waypointCount
  let totalPages := if count = 0 then 0 else (count + dl2WaypointsPerPage - 1) / dl2WaypointsPerPage
  sendEvent .routeSnapshot .information
    s!"LORA_TDM_APP: route snapshot received wp_count={count} total_pages={totalPages}"
    { s with
      routeType := routeType
      routeWaypointCount := count
      routeWaypoints := Vector.ofFn fun index =>
        if index.val < count.toNat then waypoints[index] else s.routeWaypoints[index]
      routePageIndex := 0
      routeTotalPages := totalPages
      routeReadbackPending := decide (totalPages > 0) }

/-- Take a message that the downlink reports on (`LORA_TDM_APP_UpdateCacheFromMsg`). -/
def updateCacheFromMsg (message : Telemetry) (s : State) : State :=
  match message with
  | .attitude timestampMs valid rollRad pitchRad yawRad =>
    { s with fcState := { s.fcState with
        timestampMs := timestampMs
        attitudeValid := valid
        rollRad := rollRad
        pitchRad := pitchRad
        yawRad := yawRad } }
  | .ekfLocal timestampMs valid x y z vx vy vz =>
    { s with fcState := { s.fcState with
        timestampMs := timestampMs
        localValid := valid
        posX := x
        posY := y
        posZ := z
        velX := vx
        velY := vy
        velZ := vz } }
  | .gpsRaw timestampMs valid latE7 lonE7 altMm fixType satellitesVisible =>
    { s with fcState := { s.fcState with
        timestampMs := timestampMs
        gpsValid := valid
        latE7 := latE7
        lonE7 := lonE7
        altMm := altMm
        gpsFix := fixType
        satellitesVisible := satellitesVisible } }
  | .ekfStatus timestampMs valid =>
    { s with
      fcState := { s.fcState with timestampMs := timestampMs, ekfValid := valid }
      packetType := fcStatePacketType }
  | .systemHealth timestampMs healthState faultCode =>
    { s with
      systemHealth := ⟨healthState, faultCode, timestampMs⟩
      packetType := systemHealthPacketType }
  | .routeSnapshot routeType waypointCount waypoints =>
    processRouteSnapshot routeType waypointCount waypoints s

/-! ## Transmission -/

/-- What a transmission meets: whether a text line fits its buffer, and the error of the write
if it fails. -/
structure TxEnv where
  lineFits : Bool
  writeError : Option Nat

/-- Close the port after a write that failed. -/
def failWrite (errno : Nat) (s : State) : State :=
  { sendEvent .serialWriteErr .error
      s!"LORA_TDM_APP: serial write failed errno={errno}, closing for reopen" s with
    serialOpen := false }

/-- Note a downlink that was written. -/
def noteSent (output : Output) (s : State) : State :=
  { s with
    outputs := output :: s.outputs
    txCount := s.txCount + 1
    lastSentSeq := s.downlinkSeq
    downlinkSeq := s.downlinkSeq + 1 }

/-- Go on to the next page of a route readback, or end it. The comparison is one of integers
wider than a page index. -/
def advancePage (s : State) : State :=
  if s.routeReadbackPending = false then s
  else if s.routePageIndex.toNat + 1 ≥ s.routeTotalPages.toNat then
    { s with routeReadbackPending := false, routePageIndex := 0 }
  else { s with routePageIndex := s.routePageIndex + 1 }

/-- Transmit a downlink (`LORA_TDM_APP_RunTx`). -/
def runTx (env : TxEnv) (s : State) : State :=
  if s.serialOpen = false then s
  else if s.useV2Downlink then
    match buildDl2Frame dl2MaxFrameLen s with
    | none => s
    | some frame =>
      match env.writeError with
      | none => advancePage (noteSent (.dl2 frame) s)
      | some errno => failWrite errno s
  else
    let type := if s.downlinkSeq % 2 = 0 then fcStatePacketType else systemHealthPacketType
    if env.lineFits then
      match env.writeError with
      | none => { noteSent (.line type) s with packetType := type }
      | some errno => failWrite errno s
    else s

/-- Going on with a readback changes neither feedback nor outputs. -/
theorem advancePage_receives (s : State) : Receives .silent s (advancePage s) := by
  unfold advancePage
  repeat' split
  all_goals exact ⟨rfl, rfl⟩

/-- A transmission leaves the feedback as it is, and puts out nothing, or a line, or the frame
that was built. -/
theorem runTx_outputs (env : TxEnv) (s : State) :
    (runTx env s).pendingUplinkFeedback = s.pendingUplinkFeedback ∧
      ((runTx env s).outputs = s.outputs ∨
        (∃ type, (runTx env s).outputs = .line type :: s.outputs) ∨
        ∃ frame, buildDl2Frame dl2MaxFrameLen s = some frame ∧
          (runTx env s).outputs = .dl2 frame :: s.outputs) := by
  unfold runTx
  by_cases closed : s.serialOpen = false
  · rw [if_pos closed]
    exact ⟨rfl, .inl rfl⟩
  · rw [if_neg closed]
    by_cases binary : s.useV2Downlink = true
    · rw [if_pos binary]
      cases built : buildDl2Frame dl2MaxFrameLen s with
      | none => exact ⟨rfl, .inl rfl⟩
      | some frame =>
        dsimp only
        cases env.writeError with
        | some errno => exact ⟨rfl, .inl rfl⟩
        | none =>
          have paged := advancePage_receives (noteSent (.dl2 frame) s)
          exact ⟨paged.feedback, .inr (.inr ⟨frame, rfl, paged.outputs⟩)⟩
    · rw [if_neg binary]
      dsimp only
      by_cases fits : env.lineFits = true
      · rw [if_pos fits]
        cases env.writeError with
        | some errno => exact ⟨rfl, .inl rfl⟩
        | none => exact ⟨rfl, .inr (.inl ⟨_, rfl⟩)⟩
      · rw [if_neg fits]
        exact ⟨rfl, .inl rfl⟩

/-- The state with what a transmission sets as it is in another. -/
def State.transmission (s after : State) : State :=
  { s with
    packetType := after.packetType
    downlinkSeq := after.downlinkSeq
    lastSentSeq := after.lastSentSeq
    txCount := after.txCount
    routeReadbackPending := after.routeReadbackPending
    routePageIndex := after.routePageIndex
    serialOpen := after.serialOpen
    outputs := after.outputs
    events := after.events }

/-- A transmission sets nothing else. -/
theorem runTx_transmission (env : TxEnv) (s : State) :
    runTx env s = s.transmission (runTx env s) := by
  unfold runTx advancePage
  dsimp only
  repeat' split
  all_goals rfl

/-- What does not look at these is the same after a transmission. -/
theorem runTx_keeps {α : Type} (look : State → α)
    (blind : ∀ s after : State, look (s.transmission after) = look s) (env : TxEnv) (s : State) :
    look (runTx env s) = look s :=
  (congrArg look (runTx_transmission env s)).trans (blind s _)

/-- With an open port, binary downlinks and a write that succeeds, a frame is transmitted. -/
theorem runTx_dl2 {env : TxEnv} {s : State} (isOpen : s.serialOpen = true)
    (binary : s.useV2Downlink = true) (written : env.writeError = none) :
    ∃ frame, (runTx env s).outputs = .dl2 frame :: s.outputs := by
  have built : ∃ frame, buildDl2Frame dl2MaxFrameLen s = some frame := by
    unfold buildDl2Frame
    rw [if_neg (by decide)]
    exact ⟨_, rfl⟩
  obtain ⟨frame, built⟩ := built
  refine ⟨frame, ?_⟩
  unfold runTx
  rw [if_neg (by simp [isOpen]), if_pos binary, built, written]
  exact (advancePage_receives _).outputs

/-! ## The link -/

/-- Cycles without an acknowledgement that degrade the link. -/
def linkLossThreshold : UInt16 := 30

/-- Time without an acknowledgement that disconnects the link (`LORA_TDM_APP_LINK_TIMEOUT_MS`). -/
def linkTimeoutMs : UInt32 := 5000

/-- Judge the link at a time. -/
def updateLinkState (now : UInt32) (s : State) : State :=
  let elapsed :=
    if s.lastAckTimestampMs = 0 then 0
    else if now ≥ s.lastAckTimestampMs then now - s.lastAckTimestampMs
    else 0
  let newState : LinkState :=
    if elapsed > linkTimeoutMs then .disconnected
    else if s.noAckCount ≥ linkLossThreshold then .degraded
    else .connected
  let change := s!"(state {s.linkState.code} -> {newState.code})"
  let judged := { s with linkState := newState, linkStateInitialized := true }
  if s.linkStateInitialized = false ∨ newState = s.linkState then judged
  else
    match newState with
    | .disconnected => sendEvent .linkLost .error s!"LORA_TDM_APP: link lost {change}" judged
    | .degraded => sendEvent .linkDegraded .error s!"LORA_TDM_APP: link degraded {change}" judged
    | .connected =>
      sendEvent .linkRestored .information s!"LORA_TDM_APP: link restored {change}" judged

/-- A message of the pipe. -/
inductive PipeMessage where
  | uplinkStatus (tlm : Uplink.StatusTlm)
  | telemetry (message : Telemetry)

/-- Handle a message of the pipe. -/
def processCommandPacket (message : PipeMessage) (s : State) : State :=
  match message with
  | .uplinkStatus tlm => processUplinkStatus tlm s
  | .telemetry message => updateCacheFromMsg message s

/-- Time between two attempts to reopen the port (`LORA_TDM_APP_SERIAL_REOPEN_BACKOFF_MS`). -/
def serialReopenBackoffMs : UInt32 := 1000

/-- Try to reopen a closed port at a time, unless the last attempt is too recent. -/
def reopen (now : UInt32) (opens : Bool) (s : State) : State :=
  if s.serialOpen = false ∧ now - s.lastSerialOpenAttemptMs ≥ serialReopenBackoffMs then
    { s with lastSerialOpenAttemptMs := now, serialOpen := opens }
  else s

/-- Something that happens to the application. -/
inductive Input where
  | packet (message : PipeMessage)
  | reopen (now : UInt32) (opens : Bool)
  | transmit (env : TxEnv)
  | startWindow
  | byte (value : UInt8) (now : UInt32) (taken : Bool)
  | readFailure (errno : Nat)
  | endWindow
  | judgeLink (now : UInt32)

/-- What the application does when something happens to it. -/
def step (s : State) (input : Input) : State :=
  match input with
  | .packet message => processCommandPacket message s
  | .reopen now opens => reopen now opens s
  | .transmit env => runTx env s
  | .startWindow => startWindow s
  | .byte value now taken => receiveByte value now taken s
  | .readFailure errno => failRead errno s
  | .endWindow => endWindow s
  | .judgeLink now => updateLinkState now s

/-- Whether something that happens to the application concerns the port, the window or the link
and brings neither a message nor a byte. -/
def isUpkeep : Input → Bool
  | .reopen .. | .startWindow | .readFailure _ | .endWindow | .judgeLink _ => true
  | _ => false

/-- The state with the port, the window, the link and the log of another. -/
def State.upkeep (s after : State) : State :=
  { s with
    serialOpen := after.serialOpen
    lastSerialOpenAttemptMs := after.lastSerialOpenAttemptMs
    ackReceivedThisCycle := after.ackReceivedThisCycle
    noAckCount := after.noAckCount
    linkState := after.linkState
    linkStateInitialized := after.linkStateInitialized
    events := after.events }

/-- Upkeep sets nothing else. -/
theorem step_upkeep {input : Input} (upkeep : isUpkeep input = true) (s : State) :
    step s input = s.upkeep (step s input) := by
  cases input with
  | packet message => cases upkeep
  | transmit env => cases upkeep
  | byte value now taken => cases upkeep
  | startWindow | readFailure errno => rfl
  | reopen now opens =>
    unfold step reopen
    dsimp only
    split <;> rfl
  | endWindow =>
    unfold step endWindow
    dsimp only
    split <;> rfl
  | judgeLink now =>
    unfold step updateLinkState
    dsimp only
    repeat' split
    all_goals rfl

/-- What does not look at these is the same after upkeep. -/
theorem step_keeps {α : Type} (look : State → α)
    (blind : ∀ s after : State, look (s.upkeep after) = look s) {input : Input}
    (upkeep : isUpkeep input = true) (s : State) : look (step s input) = look s :=
  (congrArg look (step_upkeep upkeep s)).trans (blind s _)

end CfsTelemetry.Lora
