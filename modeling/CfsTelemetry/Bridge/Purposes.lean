import CfsTelemetry.Bridge.Published

/-!
# What each input may put out

Everything that the bridge puts out serves a purpose: the mission protocol, its heartbeat, the
requests for streams, a command of the ground, the state of the flight controller, or
housekeeping. Each input puts out only what serves its own purposes, so that a flight mode is
asked for, and a command is answered, by nothing but a command. The configuration is a purpose of
its own, which only a configuration command serves.
-/
namespace CfsTelemetry.Bridge

open Run

/-- What the bridge does something for. -/
inductive Purpose where
  | mission | heartbeat | streams | flightMode | answer | telemetry | housekeeping | settings
  deriving DecidableEq, Repr

/-- What a frame is for. A request for an interval is told from one for a mode by the number of
the command in it. -/
def framePurpose (kind : MessageKind) (payload : List UInt8) : Purpose :=
  if kind = .heartbeat then .heartbeat
  else if kind = .commandLong then
    if readU16LE payload 28 = 511 then .streams else .flightMode
  else if kind = .missionSetCurrent then .flightMode
  else .mission

/-- A half word is read behind whatever is in front of it. -/
theorem readU16LE_append (front : List UInt8) (word : UInt16) (back : List UInt8) :
    readU16LE (front ++ (Words.bytes16 word ++ back)) front.length = word := by
  have behind : ∀ rest index, payloadByte (front ++ rest) (front.length + index) =
      payloadByte rest index := by
    intro rest index
    rw [payloadByte, List.getElem?_append_right (Nat.le_add_right _ _), Nat.add_sub_cancel_left,
      payloadByte]
  unfold readU16LE
  rw [behind, ← Nat.add_zero front.length, behind]
  exact Words.word16_bytes word

/-- What an output is for. -/
def Output.purpose : Output → Purpose
  | .tx frame => framePurpose frame.kind frame.payload
  | .message (.housekeeping _) => .housekeeping
  | .message (.execResult _) => .answer
  | .message _ => .telemetry

/-- What an input may serve. -/
def Input.purposes : Input → List Purpose
  | .routeUpdate .. | .missionQuery _ | .serialReconnect .. | .reconnect .. | .checkUpload .. |
    .retryReadback .. => [.mission]
  | .config .. => [.answer, .settings]
  | .setFlightMode .. => [.flightMode, .answer]
  | .reportHousekeeping => [.housekeeping]
  | .companionHeartbeat .. => [.heartbeat]
  | .serviceStreams .. => [.streams]
  | .frame .. => [.mission, .telemetry]
  | .command _ | .invalidCommand _ | .checkDownload _ | .bytes .. | .checkStale .. |
    .readFailure .. => []

/-- Nothing is put out on the way from one state to another, and the configuration stays. -/
structure Quiet (s s' : State) : Prop where
  outputs : s'.outputs = s.outputs
  config : s'.activeConfig = s.activeConfig

/-- What is put out on the way from one state to another serves one of some purposes, and the
configuration stays unless it is one of them. -/
structure Puts (purposes : List Purpose) (s s' : State) : Prop where
  outputs : ∃ new, s'.outputs = new ++ s.outputs ∧ ∀ output ∈ new, output.purpose ∈ purposes
  config : .settings ∈ purposes ∨ s'.activeConfig = s.activeConfig

section

variable {purposes : List Purpose} {s s' s'' : State}

/-- Two quiet steps are one. -/
theorem Quiet.trans (one : Quiet s s') (two : Quiet s' s'') : Quiet s s'' :=
  ⟨two.outputs.trans one.outputs, two.config.trans one.config⟩

/-- A quiet step serves any purposes. -/
theorem Puts.nothing (quiet : Quiet s s') : Puts purposes s s' :=
  ⟨⟨[], quiet.outputs, fun _ none => absurd none List.not_mem_nil⟩, .inr quiet.config⟩

/-- What two steps put out one after the other. -/
theorem Puts.trans (one : Puts purposes s s') (two : Puts purposes s' s'') :
    Puts purposes s s'' := by
  obtain ⟨⟨new, outputs, own⟩, config⟩ := one
  obtain ⟨⟨newer, outputs', own'⟩, config'⟩ := two
  constructor
  · refine ⟨newer ++ new, by rw [outputs', outputs, List.append_assoc], fun output mem => ?_⟩
    rcases List.mem_append.mp mem with mem | mem
    · exact own' output mem
    · exact own output mem
  · rcases config with settings | same
    · exact .inl settings
    · exact config'.imp_right fun same' => same'.trans same

/-- What comes after a quiet step. -/
theorem Puts.after (puts : Puts purposes s' s'') (quiet : Quiet s s') : Puts purposes s s'' :=
  (Puts.nothing quiet).trans puts

/-- What comes before a quiet step. -/
theorem Puts.before (puts : Puts purposes s s') (quiet : Quiet s' s'') : Puts purposes s s'' :=
  puts.trans (Puts.nothing quiet)

/-- An event puts out nothing. -/
theorem Puts.reported {id : EventId} {type : EventType} {text : String}
    (puts : Puts purposes s s') : Puts purposes s (sendEvent id type text s') :=
  puts.before ⟨rfl, rfl⟩

/-- More purposes are served as well. -/
theorem Puts.more {more : List Purpose} (puts : Puts purposes s s') (all : purposes ⊆ more) :
    Puts more s s' := by
  obtain ⟨⟨new, outputs, own⟩, config⟩ := puts
  exact ⟨⟨new, outputs, fun output mem => all (own output mem)⟩, config.imp_left fun own => all own⟩

/-- A frame sent on the line serves its purpose. -/
theorem sendMavlinkV2_puts {kind : MessageKind} {payload : List UInt8}
    (own : framePurpose kind payload ∈ purposes) (fault : Option TxFault) (s : State) :
    Puts purposes s (sendMavlinkV2 kind payload fault s).2 := by
  obtain ⟨txSequence, events, sent, same, frame⟩ := sendMavlinkV2_eq kind payload fault s
  rw [same]
  refine ⟨⟨sent, rfl, fun output mem => ?_⟩, .inr rfl⟩
  rcases frame with rfl | rfl
  · cases mem
  · rw [List.mem_singleton.mp mem]
    exact own

/-- A message on the bus serves its purpose. -/
theorem transmitMsg_puts {message : Message} (own : (Output.message message).purpose ∈ purposes)
    (s : State) : Puts purposes s (transmitMsg message s) := by
  refine ⟨⟨[.message message], rfl, fun output mem => ?_⟩, .inr rfl⟩
  rw [List.mem_singleton.mp mem]
  exact own

/-- A frame of the mission protocol serves the mission. -/
theorem sendMission_puts {kind : MessageKind} {payload : List UInt8} {fault : Option TxFault}
    (own : kind ∉ [MessageKind.heartbeat, .commandLong, .missionSetCurrent])
    (quiet : Quiet s s') :
    Puts [.mission] s (sendMavlinkV2 kind payload fault s').2 := by
  simp only [List.mem_cons, List.not_mem_nil, or_false, not_or] at own
  obtain ⟨noBeat, noCommand, noCurrent⟩ := own
  refine Puts.after (sendMavlinkV2_puts (List.mem_singleton.mpr ?_) fault s') quiet
  rw [framePurpose, if_neg noBeat, if_neg noCommand, if_neg noCurrent]

/-- A readback that starts asks for the mission. -/
theorem startFcMissionReadback_puts (env : Env) (s : State) :
    Puts [.mission] s (startFcMissionReadback env s) := by
  unfold startFcMissionReadback sendMissionRequestList
  exact Puts.reported (sendMission_puts (by decide) ⟨rfl, rfl⟩)

/-- A new state of the link may start a readback. -/
theorem setLinkState_puts (newState : LinkState) (env : Env) (s : State) :
    Puts [.mission] s (setLinkState newState env s) := by
  unfold setLinkState
  dsimp only
  split
  · split
    · exact (startFcMissionReadback_puts env _).after ⟨rfl, rfl⟩
    · exact .nothing ⟨rfl, rfl⟩
  · split <;> exact .nothing ⟨rfl, rfl⟩

/-- A loop whose body is quiet is quiet. -/
theorem forSlots_quiet {body : Nat → State → State} (quiet : ∀ i s, Quiet s (body i s))
    (first count : Nat) (s : State) : Quiet s (forSlots body first count s) := by
  induction count with
  | zero => exact ⟨rfl, rfl⟩
  | succ count previous => exact previous.trans (quiet _ _)

/-- The state that a mission which is built, or refused, leaves. -/
def pendingState : Except State (UInt8 × State) → State
  | .ok (_, s) => s
  | .error s => s

/-- Building a mission is quiet. -/
theorem buildPending_quiet (msg : RouteUpdate) (s : State) :
    Quiet s (pendingState (buildPending msg s)) := by
  have active : ∀ (source : Nat → Nat) (i : Nat) (s : State),
      Quiet s (copyActiveToPending i (source i) s) := fun _ _ _ => ⟨rfl, rfl⟩
  have own : ∀ (wp : Nat → Waypoint) (i : Nat) (s : State),
      Quiet s (copyMsgToPending i (wp i) s) := fun _ _ _ => ⟨rfl, rfl⟩
  unfold buildPending
  cases routeOp msg.routeType with
  | add =>
    unfold addWaypoints pendingState
    dsimp only
    refine Quiet.trans ?_ (forSlots_quiet (own _) _ _ _)
    refine Quiet.trans ?_ (forSlots_quiet (active _) _ _ _)
    split <;> exact ⟨rfl, rfl⟩
  | delete =>
    change Quiet s (pendingState (deleteWaypoint msg.waypointCount s))
    unfold deleteWaypoint
    by_cases outside : msg.waypointCount ≥ s.activeWaypointCount
    · rw [if_pos outside]
      exact ⟨rfl, rfl⟩
    · rw [if_neg outside]
      by_cases resume : msg.waypointCount = s.activeResumeIndex
      · rw [if_pos resume]
        exact ⟨rfl, rfl⟩
      · rw [if_neg resume]
        exact (forSlots_quiet (active _) 0 _ s).trans ⟨rfl, rfl⟩
  | modify =>
    change Quiet s (pendingState (modifyWaypoint msg.waypointCount msg s))
    unfold modifyWaypoint
    by_cases outside : msg.waypointCount ≥ s.activeWaypointCount
    · rw [if_pos outside]
      exact ⟨rfl, rfl⟩
    · rw [if_neg outside]
      apply forSlots_quiet
      intro i s
      split <;> exact ⟨rfl, rfl⟩
  | replace => exact forSlots_quiet (own _) 0 _ s

/-- A route update clears the mission of the flight controller, or puts out nothing. -/
theorem startMissionUpload_puts (env : Env) (msg : RouteUpdate) (s : State) :
    Puts [.mission] s (startMissionUpload env msg s) := by
  unfold startMissionUpload
  dsimp only
  split
  · exact .nothing ⟨rfl, rfl⟩
  · split
    · exact .nothing ⟨rfl, rfl⟩
    · generalize called : sendEvent _ _ _ s = noted
      have noting : Quiet s noted := by
        rw [← called]
        exact ⟨rfl, rfl⟩
      have same := noting.trans (buildPending_quiet msg noted)
      cases built : buildPending msg noted with
      | error rejected =>
        rw [built] at same
        exact .nothing same
      | ok result =>
        rw [built] at same
        unfold beginUpload sendMissionClearAll
        exact sendMission_puts (by decide) (same.trans ⟨rfl, rfl⟩)

/-- A mission query asks for the mission, or puts out nothing. -/
theorem missionQuery_puts (env : Env) (s : State) :
    Puts [.mission] s (missionQuery env s) := by
  unfold missionQuery sendMissionRequestList
  split
  · exact .nothing ⟨rfl, rfl⟩
  · exact Puts.reported (sendMission_puts (by decide) ⟨rfl, rfl⟩)

/-- A checked upload goes on with its mission, or puts out nothing. -/
theorem checkMissionUploadTimeout_puts (nowMs : UInt32) (env : Env) (s : State) :
    Puts [.mission] s (checkMissionUploadTimeout nowMs env s) := by
  have cleared : ∀ fault s, Puts [.mission] s (sendMissionClearAll fault s) :=
    fun _ _ => sendMission_puts (by decide) ⟨rfl, rfl⟩
  have announced : ∀ count fault s, Puts [.mission] s (sendMissionCount count fault s) :=
    fun _ _ _ => sendMission_puts (by decide) ⟨rfl, rfl⟩
  unfold checkMissionUploadTimeout
  split
  · split
    · exact (announced _ _ _).after ⟨rfl, rfl⟩
    · exact .nothing ⟨rfl, rfl⟩
  · exact .nothing ⟨rfl, rfl⟩
  · split
    · split
      · unfold retryUpload
        dsimp only
        refine Puts.reported (Puts.trans ?_ (announced _ _ _))
        exact (cleared _ _).after ⟨rfl, rfl⟩
      · exact .nothing ⟨rfl, rfl⟩
    · exact .nothing ⟨rfl, rfl⟩

/-- A checked download is quiet. -/
theorem checkMissionDownloadTimeout_quiet (nowMs : UInt32) (s : State) :
    Quiet s (checkMissionDownloadTimeout nowMs s) := by
  unfold checkMissionDownloadTimeout
  split
  · exact ⟨rfl, rfl⟩
  · split
    · exact ⟨rfl, rfl⟩
    · dsimp only
      split <;> exact ⟨rfl, rfl⟩

/-- A readback that was put off asks for the mission when its time has come. -/
theorem retryReadback_puts (nowMs : UInt32) (env : Env) (s : State) :
    Puts [.mission] s (retryReadback nowMs env s) := by
  unfold retryReadback
  split
  · exact startFcMissionReadback_puts env s
  · exact .nothing ⟨rfl, rfl⟩

/-- Silence for too long is quiet. -/
theorem checkStale_quiet (nowMs : UInt32) (env : Env) (s : State) :
    Quiet s (checkStale nowMs env s) := by
  unfold checkStale
  split <;> exact ⟨rfl, rfl⟩

/-- An opened port may start a readback. -/
theorem openSerial_puts (path : String) (result : OpenResult) (env : Env) (s : State) :
    Puts [.mission] s (openSerial path result env s) := by
  unfold openSerial
  cases result with
  | opened timeMs =>
    dsimp only
    exact Puts.reported ((setLinkState_puts .connected env _).after ⟨rfl, rfl⟩)
  | _ => exact .nothing ⟨rfl, rfl⟩

/-- A reconnection may start a readback. -/
theorem reconnect_puts (nowMs : UInt32) (path : String) (result : OpenResult) (env : Env)
    (s : State) : Puts [.mission] s (reconnect nowMs path result env s) := by
  unfold reconnect
  split
  · have down : Puts [.mission] s (setLinkState .disconnected env { s with
        lastReconnectAttemptMs := nowMs
        reconnectAttemptCount := s.reconnectAttemptCount + 1 }) :=
      (setLinkState_puts .disconnected env _).after ⟨rfl, rfl⟩
    have opened := down.trans (openSerial_puts path result env _)
    dsimp only
    split
    · exact opened
    · exact opened.reported
  · exact .nothing ⟨rfl, rfl⟩

/-- The command to open the port again may start a readback. -/
theorem serialReconnect_puts (path : String) (result : OpenResult) (env : Env) (s : State) :
    Puts [.mission] s (serialReconnect path result env s) := by
  have closed : Puts [.mission] s (openSerial path result env (closeSerial s)) :=
    (openSerial_puts path result env _).after ⟨rfl, rfl⟩
  exact closed.before ⟨rfl, rfl⟩

/-! ## What the bridge sends on its own -/

/-- The heartbeat is the only thing that the service of the heartbeat sends. -/
theorem sendCompanionHeartbeat_puts (nowMs : UInt32) (env : Env) (s : State) :
    Puts [.heartbeat] s (sendCompanionHeartbeat nowMs env s) := by
  unfold sendCompanionHeartbeat
  split
  · exact .nothing ⟨rfl, rfl⟩
  · have sent : Puts [.heartbeat] s
        (sendMavlinkV2 .heartbeat [0, 0, 0, 0, 18, 8, 0, 0, 3] (env.tx 0) s).2 :=
      sendMavlinkV2_puts (List.mem_singleton.mpr (by rfl)) _ _
    dsimp only
    split
    · exact sent.before ⟨rfl, rfl⟩
    · exact sent

/-- A request for an interval asks for a stream. -/
theorem requestMessageInterval_puts (msgId intervalUs : UInt32) (fault : Option TxFault)
    (s : State) : Puts [.streams] s (requestMessageInterval msgId intervalUs fault s).2 := by
  refine sendMavlinkV2_puts (List.mem_singleton.mpr ?_) _ _
  have command := readU16LE_append (Words.bytes32 msgId.toFloat32.toBits ++
    Words.bytes32 intervalUs.toFloat32.toBits ++ List.replicate 20 0) 511
    [s.targetSystemId, s.targetComponentId, 0]
  rw [← List.append_assoc] at command
  unfold framePurpose
  rw [if_neg (by decide), if_pos rfl]
  exact if_pos command

/-- Requests for intervals ask for streams. -/
theorem requestIntervals_puts (env : Env) (requests : List (UInt32 × UInt32)) :
    ∀ (index : Nat) (s : State),
      Puts [.streams] s (requestIntervals env index requests s).2 := by
  induction requests with
  | nil => exact fun _ _ => .nothing ⟨rfl, rfl⟩
  | cons request rest previous =>
    intro index s
    have sent := requestMessageInterval_puts request.1 request.2 (env.tx index) s
    unfold requestIntervals
    dsimp only
    split
    · exact sent.trans (previous _ _)
    · exact sent.before ⟨rfl, rfl⟩

/-- The service of the streams asks for streams only. -/
theorem serviceStreams_puts (nowMs : UInt32) (env : Env) (s : State) :
    Puts [.streams] s (serviceStreams nowMs env s) := by
  unfold serviceStreams
  split
  · unfold requestTelemetryStreams
    split
    · exact .nothing ⟨rfl, rfl⟩
    · dsimp only
      generalize requested : requestIntervals env 0 _ _ = result
      have sent : Puts [.streams] s result.2 := by
        rw [← requested]
        exact (requestIntervals_puts env _ 0 _).after ⟨rfl, rfl⟩
      split
      · exact Puts.reported (sent.before ⟨rfl, rfl⟩)
      · exact sent
  · split <;> exact .nothing ⟨rfl, rfl⟩

/-- Saving the configuration puts out nothing. -/
theorem saveState_outputs (result : SaveResult) (s : State) :
    (saveState result s).outputs = s.outputs := by
  cases result <;> rfl

/-- The report of how a command ended answers it. -/
theorem publishExecResult_puts (sourceSequence : UInt16) (commandClass : UInt8) (ok : Bool)
    (detailCode : UInt8) (s : State) :
    Puts [.answer] s (publishExecResult sourceSequence commandClass ok detailCode s) :=
  transmitMsg_puts (List.mem_singleton.mpr (by rfl)) s

/-- A configuration command is answered, or puts out nothing. -/
theorem processConfigCommand_puts (saved : SaveResult) (cmd : ConfigCmd) (s : State) :
    Puts [.answer, .settings] s (processConfigCommand saved cmd s) := by
  have settings : [Purpose.answer] ⊆ [.answer, .settings] := by simp
  have rejected : ∀ defect counted, Quiet s counted →
      Puts [.answer, .settings] s (rejectConfig cmd defect counted) :=
    fun defect counted quiet =>
      ((publishExecResult_puts _ _ _ _ counted).after quiet).more settings
  have activated : ∀ value pending,
      Puts [.answer, .settings] s (activateConfig saved cmd value pending s) := by
    intro value pending
    refine ⟨?_, .inl (by simp)⟩
    unfold activateConfig
    dsimp only
    generalize saving : saveState saved _ = active
    have same : active.outputs = s.outputs := by rw [← saving, saveState_outputs]
    rw [← same]
    exact ((publishExecResult_puts _ _ _ _ _).more settings).outputs
  unfold processConfigCommand
  dsimp only
  split
  · exact rejected _ _ ⟨rfl, rfl⟩
  · split
    · exact .nothing ⟨rfl, rfl⟩
    · split
      · exact rejected _ _ ⟨rfl, rfl⟩
      · split
        · exact rejected _ _ ⟨rfl, rfl⟩
        · split
          · exact rejected _ _ ⟨rfl, rfl⟩
          · split
            · exact rejected _ _ ⟨rfl, rfl⟩
            · split
              · exact activated _ _
              · exact rejected _ _ ⟨rfl, rfl⟩

/-- A request for a mode is no request for an interval. -/
theorem framePurpose_setMode (bits : UInt32) (system component : UInt8) :
    framePurpose .commandLong (Words.bytes32 0x3F800000 ++ Words.bytes32 0x40800000 ++
      Words.bytes32 bits ++ List.replicate 16 0 ++ Words.bytes16 176 ++
        [system, component, 0]) = .flightMode := by
  have command := readU16LE_append (Words.bytes32 0x3F800000 ++ Words.bytes32 0x40800000 ++
    Words.bytes32 bits ++ List.replicate 16 0) 176 [system, component, 0]
  rw [← List.append_assoc] at command
  unfold framePurpose
  rw [if_neg (by decide), if_pos rfl]
  exact if_neg fun streams => absurd (command.symm.trans streams) (by decide)

/-- A request for a mode is one for a flight mode. -/
theorem sendSetMode_puts (subMode : UInt8) (fault : Option TxFault) (s : State) :
    Puts [.flightMode] s (sendSetMode subMode fault s).2 :=
  sendMavlinkV2_puts (List.mem_singleton.mpr (framePurpose_setMode _ _ _)) _ _

/-- A flight mode command is answered after its requests. -/
theorem processSetFlightModeCmd_puts (env : Env) (cmd : SetFlightModeCmd) (s : State) :
    Puts [.flightMode, .answer] s (processSetFlightModeCmd env cmd s) := by
  have requested : ∀ subMode, Puts [.flightMode, .answer] s
      (requestFlightMode subMode env cmd s).2 := by
    intro subMode
    have mode : Puts [.flightMode, .answer] s (sendSetMode subMode (env.tx 0) s).2 :=
      (sendSetMode_puts subMode (env.tx 0) s).more (by simp)
    unfold requestFlightMode
    dsimp only
    split
    · exact mode.trans (sendMavlinkV2_puts (by exact List.mem_cons_self) _ _)
    · exact mode
  have answered : ∀ ok counted, Puts [.flightMode, .answer] counted
      (publishExecResult cmd.sourceSequence 8 ok cmd.flightMode counted) := fun ok counted =>
    (publishExecResult_puts _ _ _ _ counted).more (by simp)
  unfold processSetFlightModeCmd
  dsimp only
  split
  · exact (answered _ _).after ⟨rfl, rfl⟩
  · rename_i subMode named
    split
    · exact (requested subMode).trans ((answered _ _).after ⟨rfl, rfl⟩)
    · exact (requested subMode).trans ((answered _ _).after ⟨rfl, rfl⟩)

/-! ## Frames -/

/-- A heartbeat may connect the link. -/
theorem handleHeartbeat_puts (env : Env) (frame : RxFrame) (rxTimestampMs : UInt32) (s : State) :
    Puts [.mission] s (handleHeartbeat env frame rxTimestampMs s) := by
  have locked : Quiet s (lockTarget frame s) := by
    unfold lockTarget
    dsimp only
    split <;> exact ⟨rfl, rfl⟩
  unfold handleHeartbeat
  split
  · dsimp only
    split
    · have connected : Puts [.mission] s (setLinkState .connected env
          { lockTarget frame s with lastRxTimestampMs := rxTimestampMs }) :=
        (setLinkState_puts .connected env _).after (locked.trans ⟨rfl, rfl⟩)
      exact connected.before ⟨rfl, rfl⟩
    · exact .nothing locked
  · exact .nothing ⟨rfl, rfl⟩

/-- The answer to a command is quiet. -/
theorem handleCommandAck_quiet (frame : RxFrame) (s : State) :
    Quiet s (handleCommandAck frame s) := by
  unfold handleCommandAck
  dsimp only
  split
  · split
    · split <;> exact ⟨rfl, rfl⟩
    · exact ⟨rfl, rfl⟩
  · exact ⟨rfl, rfl⟩

/-- A message that keeps the link connected may connect it. -/
theorem noteReceived_puts (env : Env) (rxTimestampMs : UInt32) (s : State) :
    Puts [.mission] s (noteReceived env rxTimestampMs s) :=
  (setLinkState_puts .connected env _).after ⟨rfl, rfl⟩

/-- A new deadline is quiet. -/
theorem awaitRequest_quiet (deadlineMs : UInt32) (s : State) :
    Quiet s (awaitRequest deadlineMs s) := ⟨rfl, rfl⟩

/-- A request for an item is answered with it, or puts out nothing. -/
theorem handleMissionRequestInt_puts (env : Env) (frame : RxFrame) (rxTimestampMs : UInt32)
    (s : State) : Puts [.mission] s (handleMissionRequestInt env frame rxTimestampMs s) := by
  unfold handleMissionRequestInt sendMissionItemInt
  split
  · split
    · exact sendMission_puts (by decide) (awaitRequest_quiet _ s)
    · exact .nothing ⟨rfl, rfl⟩
  · exact .nothing ⟨rfl, rfl⟩

/-- A legacy request for an item is answered with it, or puts out nothing. -/
theorem handleMissionRequest_puts (env : Env) (frame : RxFrame) (rxTimestampMs : UInt32)
    (s : State) : Puts [.mission] s (handleMissionRequest env frame rxTimestampMs s) := by
  unfold handleMissionRequest sendMissionItem
  dsimp only
  split
  · split
    · refine sendMission_puts (by decide) (Quiet.trans ?_ (awaitRequest_quiet _ _))
      exact ⟨rfl, rfl⟩
    · exact .nothing ⟨rfl, rfl⟩
  · exact .nothing ⟨rfl, rfl⟩

/-- A mission acknowledgement may start a readback. -/
theorem handleMissionAck_puts (env : Env) (frame : RxFrame) (rxTimestampMs : UInt32)
    (s : State) : Puts [.mission] s (handleMissionAck env frame rxTimestampMs s) := by
  unfold handleMissionAck
  split
  · split
    · split
      · unfold commitUpload
        dsimp only
        split
        · exact (startFcMissionReadback_puts env _).after ⟨rfl, rfl⟩
        · exact .nothing ⟨rfl, rfl⟩
      · exact .nothing ⟨rfl, rfl⟩
    · exact .nothing ⟨rfl, rfl⟩
  · exact .nothing ⟨rfl, rfl⟩

/-- A published readback is a state of the flight controller. -/
theorem publishFcMissionReadback_puts (env : Env) (s : State) :
    Puts [.telemetry] s (publishFcMissionReadback env s) := by
  unfold publishFcMissionReadback
  dsimp only
  refine Puts.reported ((transmitMsg_puts (List.mem_singleton.mpr (by rfl)) _).after ?_)
  split <;> exact ⟨rfl, rfl⟩

/-- What a download puts out: its next request, or its end and the mission. -/
theorem download_puts {s middle : State} (own : Puts [.mission] s middle) (env : Env) :
    Puts [.mission, .telemetry] s (publishFcMissionReadback env middle) :=
  (own.more (by simp)).trans ((publishFcMissionReadback_puts env middle).more (by simp))

/-- The item count of a download is answered, and an empty mission published. -/
theorem handleMissionCount_puts (env : Env) (frame : RxFrame) (rxTimestampMs : UInt32)
    (s : State) :
    Puts [.mission, .telemetry] s (handleMissionCount env frame rxTimestampMs s) := by
  have mission : [Purpose.mission] ⊆ [.mission, .telemetry] := by simp
  unfold handleMissionCount sendMissionAckAccepted sendMissionRequestIntDownload
  dsimp only
  split
  · split
    · refine download_puts (Puts.reported ?_) env
      exact sendMission_puts (by decide) ⟨rfl, rfl⟩
    · exact Puts.more (sendMission_puts (by decide) ⟨rfl, rfl⟩) mission
  · exact .nothing ⟨rfl, rfl⟩

/-- An item of a download is answered, and the last one publishes the mission. -/
theorem handleMissionItemInt_puts (env : Env) (frame : RxFrame) (rxTimestampMs : UInt32)
    (s : State) :
    Puts [.mission, .telemetry] s (handleMissionItemInt env frame rxTimestampMs s) := by
  have mission : [Purpose.mission] ⊆ [.mission, .telemetry] := by simp
  unfold handleMissionItemInt sendMissionAckAccepted sendMissionRequestIntDownload
  dsimp only
  split
  · split
    · refine download_puts (Puts.reported ?_) env
      generalize sent : sendMavlinkV2 _ _ _ _ = acknowledged
      have own : Puts [.mission] s acknowledged.2 := by
        rw [← sent]
        exact sendMission_puts (by decide) ⟨rfl, rfl⟩
      exact own.before ⟨rfl, rfl⟩
    · exact Puts.more (sendMission_puts (by decide) ⟨rfl, rfl⟩) mission
  · exact .nothing ⟨rfl, rfl⟩

/-- The current item may connect the link. -/
theorem handleMissionCurrent_puts (env : Env) (frame : RxFrame) (rxTimestampMs : UInt32)
    (s : State) : Puts [.mission] s (handleMissionCurrent env frame rxTimestampMs s) := by
  unfold handleMissionCurrent
  split
  · exact (noteReceived_puts env rxTimestampMs s).before ⟨rfl, rfl⟩
  · exact .nothing ⟨rfl, rfl⟩

/-- A decoded message is a state of the flight controller. -/
theorem publishDecoded_puts {message : Message} (report : String)
    (own : (Output.message message).purpose = .telemetry) (seq : UInt32)
    (quiet : Quiet s s') : Puts [.telemetry] s (publishDecoded message seq report s') := by
  have published : Puts [.telemetry] s (transmitMsg message s') :=
    (transmitMsg_puts (List.mem_singleton.mpr own) s').after quiet
  unfold publishDecoded
  dsimp only
  split
  · exact published.reported
  · exact published

/-- What publishes a state message publishes it, or puts out nothing. -/
theorem telemetryHandlers_puts {kind : MessageKind}
    {publish : RxFrame → UInt32 → State → State} (listed : (kind, publish) ∈ telemetryHandlers)
    (frame : RxFrame) (rxTimestampMs : UInt32) (s : State) :
    Puts [.telemetry] s (publish frame rxTimestampMs s) := by
  simp only [telemetryHandlers, List.mem_cons, List.not_mem_nil, or_false, Prod.mk.injEq]
    at listed
  rcases listed with ⟨rfl, rfl⟩ | ⟨rfl, rfl⟩ | ⟨rfl, rfl⟩ | ⟨rfl, rfl⟩ | ⟨rfl, rfl⟩ | ⟨rfl, rfl⟩
  · unfold publishAttitude
    split
    · exact .nothing ⟨rfl, rfl⟩
    · split
      · exact .nothing ⟨rfl, rfl⟩
      · exact publishDecoded_puts _ rfl _ ⟨rfl, rfl⟩
  · unfold publishEkfLocal
    split
    · exact .nothing ⟨rfl, rfl⟩
    · split
      · exact .nothing ⟨rfl, rfl⟩
      · exact publishDecoded_puts _ rfl _ ⟨rfl, rfl⟩
  · unfold publishGlobalPositionAsLocal
    split
    · exact .nothing ⟨rfl, rfl⟩
    · exact publishDecoded_puts _ rfl _ ⟨rfl, rfl⟩
  · unfold publishGpsRaw
    split
    · exact .nothing ⟨rfl, rfl⟩
    · exact publishDecoded_puts _ rfl _ ⟨rfl, rfl⟩
  · unfold publishEkfStatus
    split
    · exact .nothing ⟨rfl, rfl⟩
    · exact publishDecoded_puts _ rfl _ ⟨rfl, rfl⟩
  · unfold handleSysTime
    split
    · exact .nothing ⟨rfl, rfl⟩
    · split
      · exact .nothing ⟨rfl, rfl⟩
      · exact publishDecoded_puts _ rfl _ ⟨rfl, rfl⟩

/-- A frame goes on with the mission, or tells the state of the flight controller. -/
theorem handleFrameComplete_puts (env : Env) (frame : RxFrame) (rxTimestampMs : UInt32)
    (s : State) :
    Puts [.mission, .telemetry] s (handleFrameComplete env frame rxTimestampMs s) := by
  have mission : [Purpose.mission] ⊆ [.mission, .telemetry] := by simp
  have handles := handleFrameComplete_handles env frame rxTimestampMs s
  generalize handleFrameComplete env frame rxTimestampMs s = s' at handles ⊢
  cases handles with
  | heartbeat own => exact (handleHeartbeat_puts env frame rxTimestampMs s).more mission
  | commandAck own => exact .nothing (handleCommandAck_quiet frame s)
  | telemetry listed own =>
    unfold handleTelemetry
    split
    · have published := telemetryHandlers_puts listed frame rxTimestampMs
        (noteReceived env rxTimestampMs s)
      exact ((noteReceived_puts env rxTimestampMs s).more mission).trans
        (published.more (by simp))
    · exact .nothing ⟨rfl, rfl⟩
  | missionRequestInt own =>
    exact (handleMissionRequestInt_puts env frame rxTimestampMs s).more mission
  | missionRequest own => exact (handleMissionRequest_puts env frame rxTimestampMs s).more mission
  | missionAck own => exact (handleMissionAck_puts env frame rxTimestampMs s).more mission
  | missionCount own waiting => exact handleMissionCount_puts env frame rxTimestampMs s
  | missionItemInt own waiting => exact handleMissionItemInt_puts env frame rxTimestampMs s
  | missionCurrent own => exact (handleMissionCurrent_puts env frame rxTimestampMs s).more mission
  | nothing noBeat noTelemetry noCurrent => exact .nothing ⟨rfl, rfl⟩

/-- An input puts out only what serves its purposes. -/
theorem step_puts (s : State) (input : Input) : Puts input.purposes s (step s input) := by
  cases input with
  | routeUpdate msg env => exact startMissionUpload_puts env msg s
  | missionQuery env => exact missionQuery_puts env s
  | command command => cases command <;> exact .nothing ⟨rfl, rfl⟩
  | invalidCommand defect => exact .nothing ⟨rfl, rfl⟩
  | config cmd saved => exact processConfigCommand_puts saved cmd s
  | setFlightMode cmd env => exact processSetFlightModeCmd_puts env cmd s
  | reportHousekeeping => exact transmitMsg_puts (List.mem_singleton.mpr (by rfl)) s
  | serialReconnect path result env => exact serialReconnect_puts path result env s
  | reconnect nowMs path result env => exact reconnect_puts nowMs path result env s
  | companionHeartbeat nowMs env => exact sendCompanionHeartbeat_puts nowMs env s
  | serviceStreams nowMs env => exact serviceStreams_puts nowMs env s
  | checkUpload nowMs env => exact checkMissionUploadTimeout_puts nowMs env s
  | checkDownload nowMs => exact .nothing (checkMissionDownloadTimeout_quiet nowMs s)
  | retryReadback nowMs env => exact retryReadback_puts nowMs env s
  | bytes length nowMs => exact .nothing ⟨rfl, rfl⟩
  | frame frame rxTimestampMs env => exact handleFrameComplete_puts env frame rxTimestampMs s
  | checkStale nowMs env => exact .nothing (checkStale_quiet nowMs env s)
  | readFailure errno env => exact .nothing ⟨rfl, rfl⟩

end

end CfsTelemetry.Bridge
