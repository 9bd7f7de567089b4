import CfsTelemetry.Bridge.Service

/-!
# Numbers of the state messages

The bridge numbers the state messages of all streams by one counter, which starts at zero. What
it has published so far is numbered from one on without gaps, whatever else it has done.
-/
namespace CfsTelemetry.Bridge

open Run

/-- The number of a state message. -/
def Message.number : Message → Option UInt32
  | attitude tlm => some tlm.seq
  | ekfLocal tlm => some tlm.seq
  | gpsRaw tlm => some tlm.seq
  | ekfStatus tlm => some tlm.seq
  | sysTime tlm => some tlm.seq
  | fcMissionReadback _ | housekeeping _ | execResult _ => none

/-- The number of an output that is a state message. -/
def Output.number : Output → Option UInt32
  | message content => content.number
  | tx _ => none

/-- The counter, and the numbers of the state messages, newest first. -/
def ledger (s : State) : UInt32 × List UInt32 :=
  (s.sequenceCounter, s.outputs.filterMap Output.number)

/-- At most one state message is numbered. -/
def Numbers (s s' : State) : Prop :=
  ledger s' = ledger s ∨
    ledger s' = (s.sequenceCounter + 1, (s.sequenceCounter + 1) :: (ledger s).2)

/-- Numbers that are counted from one on, newest first. -/
def CountedUp : List UInt32 → Prop
  | [] => True
  | number :: earlier => number = UInt32.ofNat (earlier.length + 1) ∧ CountedUp earlier

@[simp] theorem sendEvent_ledger (id : EventId) (type : EventType) (text : String) (s : State) :
    ledger (sendEvent id type text s) = ledger s := rfl

/-- A frame sent on the line is not numbered. -/
@[simp] theorem sendMavlinkV2_ledger (kind : MessageKind) (payload : List UInt8)
    (fault : Option TxFault) (s : State) :
    ledger (sendMavlinkV2 kind payload fault s).2 = ledger s := by
  obtain ⟨txSequence, events, sent, same, frame⟩ := sendMavlinkV2_eq kind payload fault s
  rw [same]
  rcases frame with rfl | rfl <;> rfl

/-- A readback that starts is not numbered. -/
@[simp] theorem startFcMissionReadback_ledger (env : Env) (s : State) :
    ledger (startFcMissionReadback env s) = ledger s := by
  unfold startFcMissionReadback sendMissionRequestList
  rw [sendEvent_ledger, sendMavlinkV2_ledger]
  rfl

/-- A new state of the link is not numbered. -/
@[simp] theorem setLinkState_ledger (newState : LinkState) (env : Env) (s : State) :
    ledger (setLinkState newState env s) = ledger s := by
  unfold setLinkState
  dsimp only
  split
  · split
    · rw [startFcMissionReadback_ledger]
      rfl
    · rfl
  · split <;> rfl

/-- A published readback has a number of its own. -/
@[simp] theorem publishFcMissionReadback_ledger (env : Env) (s : State) :
    ledger (publishFcMissionReadback env s) = ledger s := by
  unfold publishFcMissionReadback
  dsimp only
  split <;> rfl

/-- A loop whose body numbers nothing numbers nothing. -/
theorem forSlots_ledger {body : Nat → State → State}
    (keeps : ∀ i s, ledger (body i s) = ledger s) (first count : Nat) (s : State) :
    ledger (forSlots body first count s) = ledger s := by
  induction count with
  | zero => rfl
  | succ count previous => rw [forSlots, keeps, previous]

/-- The state that a route update leaves when it is built. -/
def built : Except State (UInt8 × State) → State
  | .ok (_, s) => s
  | .error s => s

/-- A mission that is built is not numbered. -/
theorem buildPending_ledger (msg : RouteUpdate) (s : State) :
    ledger (built (buildPending msg s)) = ledger s := by
  have active : ∀ (source : Nat → Nat) (i : Nat) (s : State),
      ledger (copyActiveToPending i (source i) s) = ledger s := fun _ _ _ => rfl
  have own : ∀ (wp : Nat → Waypoint) (i : Nat) (s : State),
      ledger (copyMsgToPending i (wp i) s) = ledger s := fun _ _ _ => rfl
  unfold buildPending
  cases routeOp msg.routeType with
  | add =>
    unfold addWaypoints built
    dsimp only
    rw [forSlots_ledger (own _), forSlots_ledger (active _)]
    split <;> rfl
  | delete =>
    change ledger (built (deleteWaypoint msg.waypointCount s)) = _
    unfold deleteWaypoint
    by_cases outside : msg.waypointCount ≥ s.activeWaypointCount
    · rw [if_pos outside]
      rfl
    · rw [if_neg outside]
      by_cases resume : msg.waypointCount = s.activeResumeIndex
      · rw [if_pos resume]
        rfl
      · rw [if_neg resume]
        exact forSlots_ledger (active _) 0 _ s
  | modify =>
    change ledger (built (modifyWaypoint msg.waypointCount msg s)) = _
    unfold modifyWaypoint
    by_cases outside : msg.waypointCount ≥ s.activeWaypointCount
    · rw [if_pos outside]
      rfl
    · rw [if_neg outside]
      apply forSlots_ledger
      intro i s
      split <;> rfl
  | replace => exact forSlots_ledger (own _) 0 _ s

/-- A route update is not numbered. -/
theorem startMissionUpload_ledger (env : Env) (msg : RouteUpdate) (s : State) :
    ledger (startMissionUpload env msg s) = ledger s := by
  unfold startMissionUpload
  dsimp only
  split
  · rfl
  · split
    · rfl
    · generalize called : sendEvent _ _ _ s = noted
      have same := buildPending_ledger msg noted
      rw [← called, sendEvent_ledger] at same
      rw [← called]
      revert same
      cases buildPending msg (sendEvent _ _ _ s) with
      | error rejected => exact id
      | ok result =>
        intro same
        unfold beginUpload sendMissionClearAll
        dsimp only
        rw [sendMavlinkV2_ledger]
        exact same

/-- A mission query is not numbered. -/
theorem missionQuery_ledger (env : Env) (s : State) :
    ledger (missionQuery env s) = ledger s := by
  unfold missionQuery sendMissionRequestList
  split
  · rfl
  · rw [sendEvent_ledger, sendMavlinkV2_ledger]
    rfl

/-- A configuration command is not numbered. -/
theorem processConfigCommand_ledger (saved : SaveResult) (cmd : ConfigCmd) (s : State) :
    ledger (processConfigCommand saved cmd s) = ledger s := by
  unfold processConfigCommand
  dsimp only
  repeat' split
  any_goals rfl
  cases saved <;> rfl

/-- A flight mode command is not numbered. -/
theorem processSetFlightModeCmd_ledger (env : Env) (cmd : SetFlightModeCmd) (s : State) :
    ledger (processSetFlightModeCmd env cmd s) = ledger s := by
  have requested : ∀ subMode, ledger (requestFlightMode subMode env cmd s).2 = ledger s := by
    intro subMode
    unfold requestFlightMode
    dsimp only
    split
    · exact (sendMavlinkV2_ledger ..).trans (sendMavlinkV2_ledger ..)
    · exact sendMavlinkV2_ledger ..
  unfold processSetFlightModeCmd
  dsimp only
  split
  · rfl
  · rename_i subMode named
    split
    · exact requested subMode
    · exact requested subMode

/-- A checked upload is not numbered. -/
theorem checkMissionUploadTimeout_ledger (nowMs : UInt32) (env : Env) (s : State) :
    ledger (checkMissionUploadTimeout nowMs env s) = ledger s := by
  unfold checkMissionUploadTimeout
  split
  · split
    · unfold announceMission sendMissionCount
      rw [sendMavlinkV2_ledger]
      rfl
    · rfl
  · rfl
  · split
    · split
      · unfold retryUpload sendMissionCount sendMissionClearAll
        dsimp only
        rw [sendEvent_ledger, sendMavlinkV2_ledger, sendMavlinkV2_ledger]
        rfl
      · rfl
    · rfl

/-- A checked download is not numbered. -/
theorem checkMissionDownloadTimeout_ledger (nowMs : UInt32) (s : State) :
    ledger (checkMissionDownloadTimeout nowMs s) = ledger s := by
  unfold checkMissionDownloadTimeout
  split
  · rfl
  · split
    · rfl
    · dsimp only
      split <;> rfl

/-- An opened port is not numbered. -/
@[simp] theorem openSerial_ledger (path : String) (result : OpenResult) (env : Env) (s : State) :
    ledger (openSerial path result env s) = ledger s := by
  unfold openSerial
  cases result with
  | opened timeMs =>
    dsimp only
    rw [sendEvent_ledger, setLinkState_ledger]
    rfl
  | _ => rfl

/-- A reconnection is not numbered. -/
theorem reconnect_ledger (nowMs : UInt32) (path : String) (result : OpenResult) (env : Env)
    (s : State) : ledger (reconnect nowMs path result env s) = ledger s := by
  unfold reconnect
  split
  · dsimp only
    split
    · rw [openSerial_ledger, setLinkState_ledger]
      rfl
    · rw [sendEvent_ledger, openSerial_ledger, setLinkState_ledger]
      rfl
  · rfl

/-- A request for the streams is not numbered. -/
theorem requestIntervals_ledger (env : Env) (requests : List (UInt32 × UInt32)) :
    ∀ (index : Nat) (s : State), ledger (requestIntervals env index requests s).2 = ledger s := by
  induction requests with
  | nil => exact fun _ _ => rfl
  | cons request rest previous =>
    intro index s
    have sent : ledger (requestMessageInterval request.1 request.2 (env.tx index) s).2 =
        ledger s := sendMavlinkV2_ledger ..
    unfold requestIntervals
    dsimp only
    split
    · rw [previous, sent]
    · rw [sendEvent_ledger, sent]

/-- The service of the streams is not numbered. -/
theorem serviceStreams_ledger (nowMs : UInt32) (env : Env) (s : State) :
    ledger (serviceStreams nowMs env s) = ledger s := by
  unfold serviceStreams
  split
  · unfold requestTelemetryStreams
    split
    · rfl
    · dsimp only
      split
      · rw [sendEvent_ledger]
        change ledger (requestIntervals env 0 _ _).2 = _
        rw [requestIntervals_ledger]
        rfl
      · rw [requestIntervals_ledger]
        rfl
  · split <;> rfl

/-! ## What the bridge receives -/

/-- A heartbeat is not numbered. -/
theorem handleHeartbeat_ledger (env : Env) (frame : RxFrame) (rxTimestampMs : UInt32) (s : State) :
    ledger (handleHeartbeat env frame rxTimestampMs s) = ledger s := by
  have locked : ledger (lockTarget frame s) = ledger s := by
    unfold lockTarget
    dsimp only
    split <;> rfl
  unfold handleHeartbeat
  split
  · dsimp only
    split
    · change ledger (setLinkState .connected env _) = _
      rw [setLinkState_ledger]
      exact locked
    · exact locked
  · rfl

/-- The answer to a command is not numbered. -/
theorem handleCommandAck_ledger (frame : RxFrame) (s : State) :
    ledger (handleCommandAck frame s) = ledger s := by
  unfold handleCommandAck
  dsimp only
  split
  · split
    · split <;> rfl
    · rfl
  · rfl

/-- A message that keeps the link connected is not numbered. -/
@[simp] theorem noteReceived_ledger (env : Env) (rxTimestampMs : UInt32) (s : State) :
    ledger (noteReceived env rxTimestampMs s) = ledger s := by
  unfold noteReceived
  rw [setLinkState_ledger]
  rfl

/-- A new deadline is not numbered. -/
theorem awaitRequest_ledger (deadlineMs : UInt32) (s : State) :
    ledger (awaitRequest deadlineMs s) = ledger s := rfl

/-- A request for an item is not numbered. -/
theorem handleMissionRequestInt_ledger (env : Env) (frame : RxFrame) (rxTimestampMs : UInt32)
    (s : State) : ledger (handleMissionRequestInt env frame rxTimestampMs s) = ledger s := by
  unfold handleMissionRequestInt sendMissionItemInt
  split
  · split
    · rw [sendMavlinkV2_ledger]
      exact awaitRequest_ledger _ _
    · rfl
  · rfl

/-- A legacy request for an item is not numbered. -/
theorem handleMissionRequest_ledger (env : Env) (frame : RxFrame) (rxTimestampMs : UInt32)
    (s : State) : ledger (handleMissionRequest env frame rxTimestampMs s) = ledger s := by
  unfold handleMissionRequest sendMissionItem
  dsimp only
  split
  · split
    · rw [sendMavlinkV2_ledger]
      exact awaitRequest_ledger _ _
    · rfl
  · rfl

/-- A mission acknowledgement is not numbered. -/
theorem handleMissionAck_ledger (env : Env) (frame : RxFrame) (rxTimestampMs : UInt32)
    (s : State) : ledger (handleMissionAck env frame rxTimestampMs s) = ledger s := by
  unfold handleMissionAck
  split
  · split
    · split
      · unfold commitUpload
        dsimp only
        split
        · rw [startFcMissionReadback_ledger]
          rfl
        · rfl
      · rfl
    · rfl
  · rfl

/-- The item count of a download is not numbered. -/
theorem handleMissionCount_ledger (env : Env) (frame : RxFrame) (rxTimestampMs : UInt32)
    (s : State) : ledger (handleMissionCount env frame rxTimestampMs s) = ledger s := by
  unfold handleMissionCount sendMissionAckAccepted sendMissionRequestIntDownload
  dsimp only
  split
  · split
    · rw [publishFcMissionReadback_ledger, sendEvent_ledger, sendMavlinkV2_ledger]
      rfl
    · rw [sendMavlinkV2_ledger]
      rfl
  · rfl

/-- An item of a download is not numbered. -/
theorem handleMissionItemInt_ledger (env : Env) (frame : RxFrame) (rxTimestampMs : UInt32)
    (s : State) : ledger (handleMissionItemInt env frame rxTimestampMs s) = ledger s := by
  unfold handleMissionItemInt sendMissionAckAccepted sendMissionRequestIntDownload
  dsimp only
  split
  · split
    · rw [publishFcMissionReadback_ledger, sendEvent_ledger]
      change ledger (sendMavlinkV2 _ _ _ _).2 = _
      rw [sendMavlinkV2_ledger]
      rfl
    · rw [sendMavlinkV2_ledger]
      rfl
  · rfl

/-- The current item is not numbered. -/
theorem handleMissionCurrent_ledger (env : Env) (frame : RxFrame) (rxTimestampMs : UInt32)
    (s : State) : ledger (handleMissionCurrent env frame rxTimestampMs s) = ledger s := by
  unfold handleMissionCurrent
  split
  · change ledger (noteReceived env rxTimestampMs s) = _
    rw [noteReceived_ledger]
  · rfl

/-- A decoded message is published with the next number. -/
theorem publishDecoded_numbers {message : Message} {s counted : State} (report : String)
    (number : message.number = some (s.sequenceCounter + 1))
    (counts : ledger counted = (s.sequenceCounter + 1, (ledger s).2)) :
    Numbers s (publishDecoded message (s.sequenceCounter + 1) report counted) := by
  have published : ledger (transmitMsg message counted) =
      (s.sequenceCounter + 1, (s.sequenceCounter + 1) :: (ledger s).2) := by
    have listed : counted.outputs.filterMap Output.number = (ledger s).2 :=
      congrArg Prod.snd counts
    have counter : counted.sequenceCounter = s.sequenceCounter + 1 := congrArg Prod.fst counts
    have own : (Output.message message).number = some (s.sequenceCounter + 1) := number
    change (counted.sequenceCounter,
      (Output.message message :: counted.outputs).filterMap Output.number) = _
    rw [List.filterMap_cons, own, listed, counter]
  right
  unfold publishDecoded
  dsimp only
  split
  · exact published
  · exact published

/-- An attitude is numbered, unless it is refused. -/
theorem publishAttitude_numbers (frame : RxFrame) (rxTimestampMs : UInt32) (s : State) :
    Numbers s (publishAttitude frame rxTimestampMs s) := by
  unfold publishAttitude
  split
  · exact .inl rfl
  · split
    · exact .inl rfl
    · exact publishDecoded_numbers _ rfl rfl

/-- A local position is numbered, unless it is refused. -/
theorem publishEkfLocal_numbers (frame : RxFrame) (rxTimestampMs : UInt32) (s : State) :
    Numbers s (publishEkfLocal frame rxTimestampMs s) := by
  unfold publishEkfLocal
  split
  · exact .inl rfl
  · split
    · exact .inl rfl
    · exact publishDecoded_numbers _ rfl rfl

/-- A global position is numbered, unless it is refused. -/
theorem publishGlobalPositionAsLocal_numbers (frame : RxFrame) (rxTimestampMs : UInt32)
    (s : State) : Numbers s (publishGlobalPositionAsLocal frame rxTimestampMs s) := by
  unfold publishGlobalPositionAsLocal
  split
  · exact .inl rfl
  · exact publishDecoded_numbers _ rfl rfl

/-- A satellite fix is numbered, unless it is refused. -/
theorem publishGpsRaw_numbers (frame : RxFrame) (rxTimestampMs : UInt32) (s : State) :
    Numbers s (publishGpsRaw frame rxTimestampMs s) := by
  unfold publishGpsRaw
  split
  · exact .inl rfl
  · exact publishDecoded_numbers _ rfl rfl

/-- A state of the estimator is numbered, unless it is refused. -/
theorem publishEkfStatus_numbers (frame : RxFrame) (rxTimestampMs : UInt32) (s : State) :
    Numbers s (publishEkfStatus frame rxTimestampMs s) := by
  unfold publishEkfStatus
  split
  · exact .inl rfl
  · exact publishDecoded_numbers _ rfl rfl

/-- A system time is numbered, unless it is refused or unknown. -/
theorem handleSysTime_numbers (frame : RxFrame) (rxTimestampMs : UInt32) (s : State) :
    Numbers s (handleSysTime frame rxTimestampMs s) := by
  unfold handleSysTime
  split
  · exact .inl rfl
  · split
    · exact .inl rfl
    · exact publishDecoded_numbers _ rfl rfl

/-- A state message numbers what its publication does. -/
theorem handleTelemetry_numbers (kind : MessageKind) {publish : RxFrame → UInt32 → State → State}
    (numbers : ∀ frame rxTimestampMs s, Numbers s (publish frame rxTimestampMs s)) (env : Env)
    (frame : RxFrame) (rxTimestampMs : UInt32) (s : State) :
    Numbers s (handleTelemetry kind publish env frame rxTimestampMs s) := by
  unfold handleTelemetry
  split
  · have own := numbers frame rxTimestampMs (noteReceived env rxTimestampMs s)
    have same := noteReceived_ledger env rxTimestampMs s
    have counter : (noteReceived env rxTimestampMs s).sequenceCounter = s.sequenceCounter :=
      congrArg Prod.fst same
    unfold Numbers at own
    rw [same, counter] at own
    exact own
  · exact .inl rfl

/-- What publishes a state message numbers it, or publishes none. -/
theorem telemetryHandlers_numbers {kind : MessageKind}
    {publish : RxFrame → UInt32 → State → State} (listed : (kind, publish) ∈ telemetryHandlers)
    (frame : RxFrame) (rxTimestampMs : UInt32) (s : State) :
    Numbers s (publish frame rxTimestampMs s) := by
  have numbers : ∀ handler ∈ telemetryHandlers, ∀ frame rxTimestampMs s,
      Numbers s (handler.2 frame rxTimestampMs s) := by
    simp only [telemetryHandlers, List.forall_mem_cons]
    exact ⟨publishAttitude_numbers, publishEkfLocal_numbers, publishGlobalPositionAsLocal_numbers,
      publishGpsRaw_numbers, publishEkfStatus_numbers, handleSysTime_numbers,
      List.forall_mem_nil _⟩
  exact numbers (kind, publish) listed frame rxTimestampMs s

/-- A complete frame numbers one state message, or none. -/
theorem handleFrameComplete_numbers (env : Env) (frame : RxFrame) (rxTimestampMs : UInt32)
    (s : State) : Numbers s (handleFrameComplete env frame rxTimestampMs s) := by
  have handles := handleFrameComplete_handles env frame rxTimestampMs s
  generalize handleFrameComplete env frame rxTimestampMs s = s' at handles ⊢
  cases handles with
  | heartbeat own => exact .inl (handleHeartbeat_ledger env frame rxTimestampMs s)
  | commandAck own => exact .inl (handleCommandAck_ledger frame s)
  | telemetry listed own =>
    exact handleTelemetry_numbers _ (telemetryHandlers_numbers listed) env frame rxTimestampMs s
  | missionRequestInt own =>
    exact .inl (handleMissionRequestInt_ledger env frame rxTimestampMs s)
  | missionRequest own => exact .inl (handleMissionRequest_ledger env frame rxTimestampMs s)
  | missionAck own => exact .inl (handleMissionAck_ledger env frame rxTimestampMs s)
  | missionCount own waiting => exact .inl (handleMissionCount_ledger env frame rxTimestampMs s)
  | missionItemInt own waiting =>
    exact .inl (handleMissionItemInt_ledger env frame rxTimestampMs s)
  | missionCurrent own => exact .inl (handleMissionCurrent_ledger env frame rxTimestampMs s)
  | nothing noBeat noTelemetry noCurrent => exact .inl rfl

/-- Whether an input is a frame. -/
def Input.isFrame : Input → Bool
  | .frame .. => true
  | _ => false

/-- Only a frame is numbered. -/
theorem step_ledger (s : State) {input : Input} (other : input.isFrame = false) :
    ledger (step s input) = ledger s := by
  cases input with
  | frame frame rxTimestampMs env => cases other
  | routeUpdate msg env => exact startMissionUpload_ledger env msg s
  | missionQuery env => exact missionQuery_ledger env s
  | command command => cases command <;> exact rfl
  | invalidCommand defect => exact rfl
  | config cmd saved => exact processConfigCommand_ledger saved cmd s
  | setFlightMode cmd env => exact processSetFlightModeCmd_ledger env cmd s
  | reportHousekeeping => exact rfl
  | serialReconnect path result env =>
    have reopened : ledger (openSerial path result env (closeSerial s)) = ledger s :=
      openSerial_ledger path result env (closeSerial s)
    exact reopened
  | reconnect nowMs path result env => exact reconnect_ledger nowMs path result env s
  | companionHeartbeat nowMs env =>
    change ledger (sendCompanionHeartbeat nowMs env s) = _
    unfold sendCompanionHeartbeat
    split
    · rfl
    · have sent : ledger (sendMavlinkV2 .heartbeat [0, 0, 0, 0, 18, 8, 0, 0, 3] (env.tx 0) s).2 =
          ledger s := sendMavlinkV2_ledger ..
      dsimp only
      split
      · exact sent
      · exact sent
  | serviceStreams nowMs env => exact serviceStreams_ledger nowMs env s
  | checkUpload nowMs env => exact checkMissionUploadTimeout_ledger nowMs env s
  | checkDownload nowMs => exact checkMissionDownloadTimeout_ledger nowMs s
  | retryReadback nowMs env =>
    change ledger (retryReadback nowMs env s) = _
    unfold retryReadback
    split
    · exact startFcMissionReadback_ledger env s
    · rfl
  | bytes length nowMs => exact rfl
  | checkStale nowMs env =>
    change ledger (checkStale nowMs env s) = _
    unfold checkStale
    split
    · rw [setLinkState_ledger]
      rfl
    · rfl
  | readFailure errno env =>
    have closed : ledger (failRead errno env s) = ledger (setLinkState .disconnected env
        (markOutputsStale { s with lastErrorCode := .linkDown })) := rfl
    change ledger (failRead errno env s) = _
    rw [closed, setLinkState_ledger]
    rfl

/-- A step numbers one state message, or none. -/
theorem step_numbers (s : State) (input : Input) : Numbers s (step s input) := by
  cases input with
  | frame frame rxTimestampMs env => exact handleFrameComplete_numbers env frame rxTimestampMs s
  | _ => exact .inl (step_ledger s rfl)

/-- The counter counts the state messages. -/
def Counts (s : State) : Prop :=
  s.sequenceCounter = UInt32.ofNat (ledger s).2.length ∧ CountedUp (ledger s).2

/-- A step leaves the counter right. -/
theorem Counts.next {s : State} (counts : Counts s) (input : Input) : Counts (step s input) := by
  obtain ⟨counter, counted⟩ := counts
  have counter_eq : (step s input).sequenceCounter = (ledger (step s input)).1 := rfl
  unfold Counts
  rw [counter_eq]
  rcases step_numbers s input with same | numbered
  · rw [same]
    exact ⟨counter, counted⟩
  · have next : s.sequenceCounter + 1 = UInt32.ofNat ((ledger s).2.length + 1) := by
      rw [counter]
      exact (UInt32.ofNat_add _ 1).symm
    rw [numbered]
    exact ⟨next, next, counted⟩

/-- The state messages of a run are numbered from one on without gaps. -/
theorem run_counts (config : ConfigParams) (inputs : List Input) :
    Counts (run step (initialState config) inputs) :=
  run_invariant (fun _ input counts => counts.next input) inputs _ ⟨rfl, trivial⟩

/-- Numbers that are counted fall, newest first, while the counter does not wrap. -/
theorem CountedUp.pairwise {numbers : List UInt32} (counted : CountedUp numbers)
    (short : numbers.length < 2 ^ 32) :
    numbers.Pairwise (· > ·) ∧ ∀ number ∈ numbers, number.toNat ≤ numbers.length := by
  induction numbers with
  | nil => exact ⟨.nil, fun _ mem => nomatch mem⟩
  | cons number earlier previous =>
    rw [List.length_cons] at short
    obtain ⟨own, counted⟩ := counted
    obtain ⟨fall, bound⟩ := previous counted (by omega)
    have value : number.toNat = earlier.length + 1 := by
      rw [own]
      exact UInt32.toNat_ofNat_of_lt' short
    constructor
    · refine .cons (fun other mem => ?_) fall
      have below := bound other mem
      rw [gt_iff_lt, UInt32.lt_iff_toNat_lt]
      omega
    · intro other mem
      rw [List.length_cons]
      rcases List.mem_cons.mp mem with rfl | mem
      · omega
      · have below := bound other mem
        omega

end CfsTelemetry.Bridge
