import CfsTelemetry.Library.Transfer
import CfsTelemetry.Bridge.Service

/-!
# The upload as a transfer

The bridge's upload is a transfer of the mission list: a route update starts it with an edit,
the upload timeout offers it with `MISSION_COUNT`, requests are answered with items, and an
acknowledgement accepts or drops it. Everything else that happens to the bridge leaves the
transfer alone and sends none of its frames.
-/
namespace CfsTelemetry.Bridge

open Slots

/-- Whether a message belongs to the transfer itself: the count or an item. -/
def MessageKind.ofUpload (kind : MessageKind) : Bool :=
  kind = .missionCount ∨ kind = .missionItemInt ∨ kind = .missionItem

/-- The upload frames among what the bridge sends. -/
def uploadFrames (outputs : List Output) : List TxFrame :=
  outputs.filterMap fun
    | .tx frame => if frame.kind.ofUpload then some frame else none
    | .message _ => none

/-- Whether a message belongs to an upload: the transfer, or the clearing before it. -/
def MessageKind.concernsUpload (kind : MessageKind) : Bool :=
  kind = .missionClearAll ∨ kind.ofUpload

/-- The frames among what the bridge sends that clear the mission. -/
def clearFrames (outputs : List Output) : List TxFrame :=
  outputs.filterMap fun
    | .tx frame => if frame.kind = .missionClearAll then some frame else none
    | .message _ => none

/-- The upload frames that a step sends. -/
def sentFrames (s s' : State) : List TxFrame :=
  uploadFrames (s'.outputs.take (s'.outputs.length - s.outputs.length))

/-- What a step sends: given upload frames, and anything else. -/
def Emits (frames : List TxFrame) (s s' : State) : Prop :=
  ∃ new, s'.outputs = new ++ s.outputs ∧ uploadFrames new = frames

/-- The upload frames that a step sends are those it emits. -/
theorem Emits.sentFrames {frames : List TxFrame} {s s' : State} (emits : Emits frames s s') :
    sentFrames s s' = frames := by
  obtain ⟨new, outputs, own⟩ := emits
  rw [Bridge.sentFrames, outputs]
  simp [own]

/-- A step that sends nothing emits nothing. -/
theorem Emits.nothing {s s' : State} (outputs : s'.outputs = s.outputs) : Emits [] s s' :=
  ⟨[], outputs, rfl⟩

/-- What two steps send one after the other. -/
theorem Emits.trans {first second : List TxFrame} {s s' s'' : State} (one : Emits first s s')
    (two : Emits second s' s'') : Emits (second ++ first) s s'' := by
  obtain ⟨new, outputs, own⟩ := one
  obtain ⟨later, outputs', own'⟩ := two
  refine ⟨later ++ new, ?_, ?_⟩
  · rw [outputs', outputs, List.append_assoc]
  · rw [uploadFrames, List.filterMap_append]
    exact congrArg₂ (· ++ ·) own' own

/-- What the upload depends on. -/
structure UploadView where
  state : UploadState
  wpCount : UInt8
  pending : WaypointArray
  activeWaypoints : WaypointArray
  activeCount : UInt8
  resume : UInt8
  successCount : UInt32

/-- The part of the state that the upload depends on. -/
def uploadView (s : State) : UploadView where
  state := s.missionUploadState
  wpCount := s.missionUploadWpCount
  pending := s.missionPending
  activeWaypoints := s.activeWaypoints
  activeCount := s.activeWaypointCount
  resume := s.activeResumeIndex
  successCount := s.missionUploadSuccessCount

/-- The phase of the transfer in an upload state. -/
def UploadState.phase : UploadState → Transfer.Phase
  | idle => .idle | clearing => .prepared | active => .offered

/-- The upload as a transfer. -/
def plan (s : State) : Transfer Waypoint where
  phase := s.missionUploadState.phase
  pending := pendingList s
  committed := activeList s
  mark := s.activeResumeIndex.toNat

/-- A step that has nothing to do with the upload. -/
structure Silent (s s' : State) : Prop where
  view : uploadView s' = uploadView s
  emits : Emits [] s s'
  clears : clearFrames s'.outputs = clearFrames s.outputs

/-- What has nothing to do with the upload twice has nothing to do with it. -/
theorem Silent.trans {s s' s'' : State} (one : Silent s s') (two : Silent s' s'') :
    Silent s s'' :=
  ⟨two.view.trans one.view, one.emits.trans two.emits, two.clears.trans one.clears⟩

/-- A change of other fields has nothing to do with the upload. -/
theorem Silent.of_same {s s' : State} (view : uploadView s' = uploadView s)
    (outputs : s'.outputs = s.outputs) : Silent s s' :=
  ⟨view, Emits.nothing outputs, by rw [outputs]⟩

/-- An event has nothing to do with the upload. -/
theorem sendEvent_silent (id : EventId) (type : EventType) (text : String) {s s' : State}
    (silent : Silent s s') : Silent s (sendEvent id type text s') :=
  silent.trans (Silent.of_same rfl rfl)

/-- A message on the bus has nothing to do with the upload. -/
theorem transmitMsg_silent (message : Message) {s s' : State} (silent : Silent s s') :
    Silent s (transmitMsg message s') :=
  silent.trans ⟨rfl, ⟨[.message message], rfl, rfl⟩, rfl⟩

/-- What the download depends on. -/
structure DownloadView where
  state : DownloadState
  seq : UInt8
  expectedCount : UInt8
  waypoints : WaypointArray

/-- The part of the state that the download depends on. -/
def downloadView (s : State) : DownloadView where
  state := s.missionDownloadState
  seq := s.missionDownloadSeq
  expectedCount := s.missionDownloadExpectedCount
  waypoints := s.missionDownloadWaypoints

/-- The readback that a message publishes. -/
def Message.readback : Message → Option RouteUpdate
  | .fcMissionReadback tlm => some tlm
  | _ => none

/-- The readbacks among what the bridge sends. -/
def readbacks (outputs : List Output) : List RouteUpdate :=
  outputs.filterMap fun
    | .tx _ => none
    | .message message => message.readback

/-- What a step publishes: given readbacks, and anything else. -/
def Publishes (messages : List RouteUpdate) (s s' : State) : Prop :=
  ∃ new, s'.outputs = new ++ s.outputs ∧ readbacks new = messages

/-- A step that sends nothing publishes nothing. -/
theorem Publishes.nothing {s s' : State} (outputs : s'.outputs = s.outputs) :
    Publishes [] s s' :=
  ⟨[], outputs, rfl⟩

/-- What two steps publish one after the other. -/
theorem Publishes.trans {first second : List RouteUpdate} {s s' s'' : State}
    (one : Publishes first s s') (two : Publishes second s' s'') :
    Publishes (second ++ first) s s'' := by
  obtain ⟨new, outputs, own⟩ := one
  obtain ⟨later, outputs', own'⟩ := two
  refine ⟨later ++ new, ?_, ?_⟩
  · rw [outputs', outputs, List.append_assoc]
  · rw [readbacks, List.filterMap_append]
    exact congrArg₂ (· ++ ·) own' own

/-- A step that has nothing to do with the download. -/
structure Calm (s s' : State) : Prop where
  same : downloadView s' = downloadView s
  publishes : Publishes [] s s'

/-- What has nothing to do with the download twice has nothing to do with it. -/
theorem Calm.trans {s s' s'' : State} (one : Calm s s') (two : Calm s' s'') : Calm s s'' :=
  ⟨two.same.trans one.same, one.publishes.trans two.publishes⟩

/-- A change of other fields has nothing to do with the download. -/
theorem Calm.of_same {s s' : State} (same : downloadView s' = downloadView s)
    (outputs : s'.outputs = s.outputs) : Calm s s' :=
  ⟨same, Publishes.nothing outputs⟩

/-! ## The link -/

/-- What is known about the link. -/
structure LinkView where
  state : LinkState
  lastRxTimestampMs : UInt32
  targetSystemId : UInt8

/-- The part of the state that is about the link. -/
def linkView (s : State) : LinkView where
  state := s.linkState
  lastRxTimestampMs := s.lastRxTimestampMs
  targetSystemId := s.targetSystemId

/-- What missions depend on: the upload, the download, the link, and whether a readback was put
off. -/
structure MissionView where
  upload : UploadView
  download : DownloadView
  link : LinkView
  readbackPending : Bool

/-- The part of the state that missions depend on. -/
def missionView (s : State) : MissionView where
  upload := uploadView s
  download := downloadView s
  link := linkView s
  readbackPending := s.missionReadbackPending

/-- A step that has nothing to do with missions or with the link. -/
structure Aside (s s' : State) : Prop extends Silent s s', Calm s s' where
  link : linkView s' = linkView s
  pending : s'.missionReadbackPending = s.missionReadbackPending

/-- What has nothing to do with missions twice has nothing to do with them. -/
theorem Aside.trans {s s' s'' : State} (one : Aside s s') (two : Aside s' s'') : Aside s s'' :=
  ⟨one.toSilent.trans two.toSilent, one.toCalm.trans two.toCalm, two.link.trans one.link,
    two.pending.trans one.pending⟩

/-- A change of other fields has nothing to do with missions. -/
theorem Aside.of_same {s s' : State} (view : missionView s' = missionView s)
    (outputs : s'.outputs = s.outputs) : Aside s s' :=
  ⟨Silent.of_same (congrArg MissionView.upload view) outputs,
    Calm.of_same (congrArg MissionView.download view) outputs, congrArg MissionView.link view,
    congrArg MissionView.readbackPending view⟩

/-- An event has nothing to do with missions. -/
theorem sendEvent_aside (id : EventId) (type : EventType) (text : String) {s s' : State}
    (aside : Aside s s') : Aside s (sendEvent id type text s') :=
  aside.trans (Aside.of_same rfl rfl)

/-- A message on the bus other than a readback has nothing to do with missions. -/
theorem transmitMsg_aside {message : Message} (other : message.readback = none) {s s' : State}
    (aside : Aside s s') : Aside s (transmitMsg message s') := by
  have calm : Calm s' (transmitMsg message s') :=
    ⟨rfl, [.message message], rfl, by simp [readbacks, other]⟩
  exact ⟨transmitMsg_silent message aside.toSilent, aside.toCalm.trans calm, aside.link,
    aside.pending⟩

/-- Whether the line takes a frame whose write ends in a given way. -/
def takes (fault : Option TxFault) (s : State) : Bool := s.serialOpen && fault.isNone

/-- Sending a frame changes nothing that the upload depends on. -/
theorem sendMavlinkV2_view (kind : MessageKind) (payload : List UInt8) (fault : Option TxFault)
    (s : State) : uploadView (sendMavlinkV2 kind payload fault s).2 = uploadView s := by
  obtain ⟨txSequence, events, sent, same, -⟩ := sendMavlinkV2_eq kind payload fault s
  rw [same]
  rfl

/-- Sending a frame changes nothing about the link. -/
theorem sendMavlinkV2_link (kind : MessageKind) (payload : List UInt8) (fault : Option TxFault)
    (s : State) : linkView (sendMavlinkV2 kind payload fault s).2 = linkView s := by
  obtain ⟨txSequence, events, sent, same, -⟩ := sendMavlinkV2_eq kind payload fault s
  rw [same]
  rfl

/-- Sending a frame puts no readback off. -/
theorem sendMavlinkV2_pending (kind : MessageKind) (payload : List UInt8)
    (fault : Option TxFault) (s : State) :
    (sendMavlinkV2 kind payload fault s).2.missionReadbackPending = s.missionReadbackPending := by
  obtain ⟨txSequence, events, sent, same, -⟩ := sendMavlinkV2_eq kind payload fault s
  rw [same]

/-- Sending a frame changes neither the port nor the target. -/
theorem sendMavlinkV2_line (kind : MessageKind) (payload : List UInt8) (fault : Option TxFault)
    (s : State) :
    (sendMavlinkV2 kind payload fault s).2.serialOpen = s.serialOpen ∧
      (sendMavlinkV2 kind payload fault s).2.targetSystemId = s.targetSystemId ∧
      (sendMavlinkV2 kind payload fault s).2.targetComponentId = s.targetComponentId := by
  obtain ⟨txSequence, events, sent, same, -⟩ := sendMavlinkV2_eq kind payload fault s
  rw [same]
  exact ⟨rfl, rfl, rfl⟩

/-- A frame that fits is sent when the line takes it. -/
theorem sendMavlinkV2_outputs (kind : MessageKind) {payload : List UInt8}
    (fits : payload.length ≤ 52) (fault : Option TxFault) (s : State) :
    (sendMavlinkV2 kind payload fault s).2.outputs =
      (if takes fault s then [.tx ⟨s.txSequence, kind, payload⟩] else []) ++ s.outputs := by
  have small : ¬ 10 + payload.length + 2 > maxFrameLen := by
    show ¬ 10 + payload.length + 2 > 64
    omega
  unfold sendMavlinkV2 takes
  by_cases closed : s.serialOpen = false
  · rw [if_pos closed, closed]
    rfl
  · have isOpen : s.serialOpen = true := by simpa using closed
    rw [if_neg closed, if_neg small, isOpen]
    cases fault with
    | none => rfl
    | some fault => rfl

/-- A frame that belongs to the upload is sent when the line takes it. -/
theorem sendMavlinkV2_emits {kind : MessageKind} {payload : List UInt8}
    (fits : payload.length ≤ 52) (fault : Option TxFault) (s : State)
    (own : kind.ofUpload = true) :
    Emits (if takes fault s then [⟨s.txSequence, kind, payload⟩] else []) s
      (sendMavlinkV2 kind payload fault s).2 := by
  refine ⟨_, sendMavlinkV2_outputs kind fits fault s, ?_⟩
  split
  · simp [uploadFrames, own]
  · rfl

/-- A frame of another kind is none of the transfer's. -/
theorem sendMavlinkV2_emits_nothing (kind : MessageKind) (payload : List UInt8)
    (fault : Option TxFault) (s : State) (other : kind.ofUpload = false) :
    Emits [] s (sendMavlinkV2 kind payload fault s).2 := by
  obtain ⟨txSequence, events, sent, same, frame⟩ := sendMavlinkV2_eq kind payload fault s
  rw [same]
  rcases frame with rfl | rfl
  · exact Emits.nothing rfl
  · exact ⟨_, rfl, by simp [uploadFrames, other]⟩

/-- A frame of another kind clears nothing. -/
theorem sendMavlinkV2_clears_nothing {kind : MessageKind} (payload : List UInt8)
    (fault : Option TxFault) (s : State) (other : kind ≠ .missionClearAll) :
    clearFrames (sendMavlinkV2 kind payload fault s).2.outputs = clearFrames s.outputs := by
  obtain ⟨txSequence, events, sent, same, frame⟩ := sendMavlinkV2_eq kind payload fault s
  rw [same]
  rcases frame with rfl | rfl
  · rfl
  · simp [clearFrames, other]

/-- A frame of another kind has nothing to do with the upload. -/
theorem sendMavlinkV2_silent (kind : MessageKind) (payload : List UInt8) (fault : Option TxFault)
    (s : State) (other : kind.concernsUpload = false) :
    Silent s (sendMavlinkV2 kind payload fault s).2 := by
  have apart : ¬ (kind = .missionClearAll ∨ kind.ofUpload = true) := of_decide_eq_false other
  obtain ⟨keeps, aside⟩ := not_or.mp apart
  have aside : kind.ofUpload = false := by simpa using aside
  exact ⟨sendMavlinkV2_view kind payload fault s,
    sendMavlinkV2_emits_nothing kind payload fault s aside,
    sendMavlinkV2_clears_nothing payload fault s keeps⟩

/-- Sending a frame has nothing to do with the download. -/
theorem sendMavlinkV2_calm (kind : MessageKind) (payload : List UInt8) (fault : Option TxFault)
    (s : State) : Calm s (sendMavlinkV2 kind payload fault s).2 := by
  obtain ⟨txSequence, events, sent, same, frame⟩ := sendMavlinkV2_eq kind payload fault s
  rw [same]
  rcases frame with rfl | rfl
  · exact Calm.of_same rfl rfl
  · exact ⟨rfl, _, rfl, rfl⟩

/-- A frame of another kind has nothing to do with missions. -/
theorem sendMavlinkV2_aside (kind : MessageKind) (payload : List UInt8) (fault : Option TxFault)
    (s : State) (other : kind.concernsUpload = false) :
    Aside s (sendMavlinkV2 kind payload fault s).2 :=
  ⟨sendMavlinkV2_silent kind payload fault s other, sendMavlinkV2_calm kind payload fault s,
    sendMavlinkV2_link kind payload fault s, sendMavlinkV2_pending kind payload fault s⟩

/-! ## What has nothing to do with missions -/

/-- The answer to a command. -/
theorem handleCommandAck_aside (frame : RxFrame) (s : State) :
    Aside s (handleCommandAck frame s) := by
  unfold handleCommandAck
  dsimp only
  repeat' split
  all_goals exact Aside.of_same rfl rfl

/-- Publishing a decoded message. -/
theorem publishDecoded_aside {message : Message} (other : message.readback = none)
    (seq : UInt32) (report : String) {s s' : State} (aside : Aside s s') :
    Aside s (publishDecoded message seq report s') := by
  have published : Aside s (transmitMsg message s') := transmitMsg_aside other aside
  unfold publishDecoded
  dsimp only
  split
  · exact sendEvent_aside _ _ _ published
  · exact published

/-- An attitude. -/
theorem publishAttitude_aside (frame : RxFrame) (rxTimestampMs : UInt32) (s : State) :
    Aside s (publishAttitude frame rxTimestampMs s) := by
  unfold publishAttitude
  dsimp only
  repeat' split
  any_goals exact Aside.of_same rfl rfl
  exact publishDecoded_aside rfl _ _ (Aside.of_same rfl rfl)

/-- A local position. -/
theorem publishEkfLocal_aside (frame : RxFrame) (rxTimestampMs : UInt32) (s : State) :
    Aside s (publishEkfLocal frame rxTimestampMs s) := by
  unfold publishEkfLocal
  dsimp only
  repeat' split
  any_goals exact Aside.of_same rfl rfl
  exact publishDecoded_aside rfl _ _ (Aside.of_same rfl rfl)

/-- A global position. -/
theorem publishGlobalPositionAsLocal_aside (frame : RxFrame) (rxTimestampMs : UInt32)
    (s : State) : Aside s (publishGlobalPositionAsLocal frame rxTimestampMs s) := by
  unfold publishGlobalPositionAsLocal
  dsimp only
  split
  · exact Aside.of_same rfl rfl
  · exact publishDecoded_aside rfl _ _ (Aside.of_same rfl rfl)

/-- A satellite fix. -/
theorem publishGpsRaw_aside (frame : RxFrame) (rxTimestampMs : UInt32) (s : State) :
    Aside s (publishGpsRaw frame rxTimestampMs s) := by
  unfold publishGpsRaw
  dsimp only
  by_cases short : frame.payloadLen < 30
  · rw [if_pos short]
    exact Aside.of_same rfl rfl
  · rw [if_neg short]
    exact publishDecoded_aside rfl _ _ (Aside.of_same rfl rfl)

/-- The state of the estimator. -/
theorem publishEkfStatus_aside (frame : RxFrame) (rxTimestampMs : UInt32) (s : State) :
    Aside s (publishEkfStatus frame rxTimestampMs s) := by
  unfold publishEkfStatus
  dsimp only
  by_cases short : frame.payloadLen < 21
  · rw [if_pos short]
    exact Aside.of_same rfl rfl
  · rw [if_neg short]
    exact publishDecoded_aside rfl _ _ (Aside.of_same rfl rfl)

/-- The time of the flight controller. -/
theorem handleSysTime_aside (frame : RxFrame) (rxTimestampMs : UInt32) (s : State) :
    Aside s (handleSysTime frame rxTimestampMs s) := by
  unfold handleSysTime
  dsimp only
  repeat' split
  any_goals exact Aside.of_same rfl rfl
  exact publishDecoded_aside rfl _ _ (Aside.of_same rfl rfl)

/-- What publishes a state message. -/
theorem telemetryHandlers_aside {kind : MessageKind}
    {publish : RxFrame → UInt32 → State → State} (listed : (kind, publish) ∈ telemetryHandlers)
    (frame : RxFrame) (rxTimestampMs : UInt32) (s : State) :
    Aside s (publish frame rxTimestampMs s) := by
  have asides : ∀ handler ∈ telemetryHandlers, ∀ frame rxTimestampMs s,
      Aside s (handler.2 frame rxTimestampMs s) := by
    simp only [telemetryHandlers, List.forall_mem_cons]
    exact ⟨publishAttitude_aside, publishEkfLocal_aside, publishGlobalPositionAsLocal_aside,
      publishGpsRaw_aside, publishEkfStatus_aside, handleSysTime_aside, List.forall_mem_nil _⟩
  exact asides (kind, publish) listed frame rxTimestampMs s

/-- A configuration command. -/
theorem processConfigCommand_aside (saved : SaveResult) (cmd : ConfigCmd) (s : State) :
    Aside s (processConfigCommand saved cmd s) := by
  have reported : ∀ {s' : State} ok detail, Aside s s' →
      Aside s (publishExecResult cmd.sourceSequence 1 ok detail s') :=
    fun ok detail => transmitMsg_aside rfl
  have counted : Aside s { s with errCounter := s.errCounter + 1 } := Aside.of_same rfl rfl
  unfold processConfigCommand
  dsimp only
  split
  · exact reported _ _ (sendEvent_aside _ _ _ counted)
  split
  · exact Aside.of_same rfl rfl
  split
  · exact reported _ _ counted
  split
  · exact reported _ _ counted
  split
  · exact reported _ _ (sendEvent_aside _ _ _ counted)
  split
  · exact reported _ _ counted
  split
  · cases saved <;> exact reported _ _ (Aside.of_same rfl rfl)
  · exact reported _ _ counted

/-- A request for a flight mode. -/
theorem requestFlightMode_aside (subMode : UInt8) (env : Env) (cmd : SetFlightModeCmd)
    (s : State) : Aside s (requestFlightMode subMode env cmd s).2 := by
  have mode : Aside s (sendSetMode subMode (env.tx 0) s).2 :=
    sendMavlinkV2_aside _ _ _ _ rfl
  unfold requestFlightMode
  dsimp only
  split
  · have item : Aside (sendSetMode subMode (env.tx 0) s).2
        (sendMissionSetCurrent cmd.waypointStartIndex (env.tx 1)
          (sendSetMode subMode (env.tx 0) s).2).2 :=
      sendMavlinkV2_aside _ _ _ _ rfl
    exact mode.trans item
  · exact mode

/-- A flight mode command. -/
theorem processSetFlightModeCmd_aside (env : Env) (cmd : SetFlightModeCmd) (s : State) :
    Aside s (processSetFlightModeCmd env cmd s) := by
  have reported : ∀ {s' : State} ok, Aside s s' →
      Aside s (publishExecResult cmd.sourceSequence 8 ok cmd.flightMode s') :=
    fun ok => transmitMsg_aside rfl
  unfold processSetFlightModeCmd
  dsimp only
  split
  · exact reported _ (sendEvent_aside _ _ _ (Aside.of_same rfl rfl))
  · rename_i subMode named
    have requested := requestFlightMode_aside subMode env cmd s
    split
    · exact reported _ (sendEvent_aside _ _ _ (requested.trans (Aside.of_same rfl rfl)))
    · exact reported _ (sendEvent_aside _ _ _ (requested.trans (Aside.of_same rfl rfl)))

/-- The heartbeat of the bridge. -/
theorem sendCompanionHeartbeat_aside (nowMs : UInt32) (env : Env) (s : State) :
    Aside s (sendCompanionHeartbeat nowMs env s) := by
  unfold sendCompanionHeartbeat
  split
  · exact Aside.of_same rfl rfl
  · dsimp only
    have sent := sendMavlinkV2_aside .heartbeat [0, 0, 0, 0, 18, 8, 0, 0, 3] (env.tx 0) s
      rfl
    split
    · exact sent.trans (Aside.of_same rfl rfl)
    · exact sent

/-- Requests for streams. -/
theorem requestIntervals_aside (env : Env) (requests : List (UInt32 × UInt32)) (index : Nat)
    {s s' : State} (aside : Aside s s') :
    Aside s (requestIntervals env index requests s').2 := by
  induction requests generalizing index s' with
  | nil => exact aside
  | cons request rest previous =>
    have sent : Aside s (requestMessageInterval request.1 request.2 (env.tx index) s').2 :=
      aside.trans (sendMavlinkV2_aside _ _ _ _ rfl)
    unfold requestIntervals
    dsimp only
    split
    · exact previous (index + 1) sent
    · exact sendEvent_aside _ _ _ sent

/-- The service of the streams. -/
theorem serviceStreams_aside (nowMs : UInt32) (env : Env) (s : State) :
    Aside s (serviceStreams nowMs env s) := by
  unfold serviceStreams
  split
  · have due : Aside s { s with streamRequestPending := true } := Aside.of_same rfl rfl
    refine due.trans ?_
    generalize { s with streamRequestPending := true } = asking
    unfold requestTelemetryStreams
    split
    · exact Aside.of_same rfl rfl
    · dsimp only
      have sent : ∀ requests text, Aside asking
          (requestIntervals env 0 requests (sendEvent .stream .information text asking)).2 :=
        fun requests text => requestIntervals_aside env requests 0
          (sendEvent_aside _ _ _ (Aside.of_same rfl rfl))
      have noted : ∀ s' text, Aside asking s' → Aside asking
          (sendEvent .stream .information text { s' with lastStreamRequestMs := env.timeMs }) :=
        fun s' text requested => sendEvent_aside _ _ _ (requested.trans (Aside.of_same rfl rfl))
      split
      · exact noted _ _ (sent _ _)
      · exact sent _ _
  · split <;> exact Aside.of_same rfl rfl

/-- Starting a readback. -/
theorem startFcMissionReadback_silent (env : Env) (s : State) :
    Silent s (startFcMissionReadback env s) := by
  apply sendEvent_silent
  have waiting : Silent s { awaitCount env s with missionReadbackPending := false } :=
    Silent.of_same rfl rfl
  exact waiting.trans (sendMavlinkV2_silent _ _ _ _ rfl)

/-- Publishing a readback. -/
theorem publishFcMissionReadback_silent (env : Env) (s : State) :
    Silent s (publishFcMissionReadback env s) := by
  apply sendEvent_silent
  apply transmitMsg_silent
  by_cases clamped : s.missionDownloadExpectedCount.toNat > routeMaxWaypoints
  · rw [if_pos (decide_eq_true clamped)]
    exact Silent.of_same rfl rfl
  · rw [if_neg (by simpa using clamped)]
    exact Silent.of_same rfl rfl

/-- A command to read the mission back. -/
theorem missionQuery_silent (env : Env) (s : State) : Silent s (missionQuery env s) := by
  unfold missionQuery
  split
  · exact Silent.of_same rfl rfl
  · apply sendEvent_silent
    have waiting : Silent s { awaitCount env s with cmdCounter := s.cmdCounter + 1 } :=
      Silent.of_same rfl rfl
    exact waiting.trans (sendMavlinkV2_silent _ _ _ _ rfl)

/-- The timeout of a download. -/
theorem checkMissionDownloadTimeout_silent (nowMs : UInt32) (s : State) :
    Silent s (checkMissionDownloadTimeout nowMs s) := by
  unfold checkMissionDownloadTimeout
  repeat' split
  all_goals exact Silent.of_same rfl rfl

/-- The retry of a readback. -/
theorem retryReadback_silent (nowMs : UInt32) (env : Env) (s : State) :
    Silent s (retryReadback nowMs env s) := by
  unfold retryReadback
  split
  · exact startFcMissionReadback_silent env s
  · exact Silent.of_same rfl rfl

/-- A change of the link. -/
theorem setLinkState_silent (newState : LinkState) (env : Env) {s s' : State}
    (silent : Silent s s') : Silent s (setLinkState newState env s') := by
  apply silent.trans
  unfold setLinkState
  dsimp only
  split
  · split
    · have reset : Silent s' { s' with
          linkState := newState
          missionReadbackBackoffMs := readbackBackoffInitialMs
          missionReadbackPending := false } := Silent.of_same rfl rfl
      exact reset.trans (startFcMissionReadback_silent env _)
    · exact Silent.of_same rfl rfl
  · split <;> exact Silent.of_same rfl rfl

/-- A heartbeat. -/
theorem handleHeartbeat_silent (env : Env) (frame : RxFrame) (rxTimestampMs : UInt32)
    (s : State) : Silent s (handleHeartbeat env frame rxTimestampMs s) := by
  have locked : Silent s (lockTarget frame s) := by
    unfold lockTarget
    dsimp only
    split <;> exact Silent.of_same rfl rfl
  unfold handleHeartbeat
  split
  · dsimp only
    split
    · have noted : Silent s { lockTarget frame s with lastRxTimestampMs := rxTimestampMs } :=
        locked.trans (Silent.of_same rfl rfl)
      have connected := setLinkState_silent .connected env noted
      generalize setLinkState .connected env _ = s' at connected ⊢
      exact connected.trans (Silent.of_same rfl rfl)
    · exact locked
  · exact Silent.of_same rfl rfl

/-- A valid message of the flight controller. -/
theorem noteReceived_silent (env : Env) (rxTimestampMs : UInt32) (s : State) :
    Silent s (noteReceived env rxTimestampMs s) :=
  setLinkState_silent _ env (Silent.of_same rfl rfl)

/-- A state message, when publishing it has nothing to do with the upload. -/
theorem handleTelemetry_silent (kind : MessageKind) {publish : RxFrame → UInt32 → State → State}
    (publishes : ∀ frame rxTimestampMs s, Aside s (publish frame rxTimestampMs s)) (env : Env)
    (frame : RxFrame) (rxTimestampMs : UInt32) (s : State) :
    Silent s (handleTelemetry kind publish env frame rxTimestampMs s) := by
  unfold handleTelemetry
  split
  · exact (noteReceived_silent env rxTimestampMs s).trans (publishes _ _ _).toSilent
  · exact Silent.of_same rfl rfl

/-- The item count of a download. -/
theorem handleMissionCount_silent (env : Env) (frame : RxFrame) (rxTimestampMs : UInt32)
    (s : State) : Silent s (handleMissionCount env frame rxTimestampMs s) := by
  unfold handleMissionCount
  dsimp only
  split
  · split
    · refine Silent.trans ?_ (publishFcMissionReadback_silent env _)
      apply sendEvent_silent
      refine Silent.trans ?_ (sendMavlinkV2_silent _ _ _ _ rfl)
      exact Silent.of_same rfl rfl
    · refine Silent.trans ?_ (sendMavlinkV2_silent _ _ _ _ rfl)
      exact Silent.of_same rfl rfl
  · exact Silent.of_same rfl rfl

/-- An item of a download. -/
theorem handleMissionItemInt_silent (env : Env) (frame : RxFrame) (rxTimestampMs : UInt32)
    (s : State) : Silent s (handleMissionItemInt env frame rxTimestampMs s) := by
  unfold handleMissionItemInt
  dsimp only
  split
  · split
    · refine Silent.trans ?_ (publishFcMissionReadback_silent env _)
      apply sendEvent_silent
      refine Silent.trans (Silent.trans ?_ (sendMavlinkV2_silent _ _ _ _ rfl))
        (Silent.of_same rfl rfl)
      exact Silent.of_same rfl rfl
    · refine Silent.trans ?_ (sendMavlinkV2_silent _ _ _ _ rfl)
      exact Silent.of_same rfl rfl
  · exact Silent.of_same rfl rfl

/-- Opening the port. -/
theorem openSerial_silent (path : String) (result : OpenResult) (env : Env) {s s' : State}
    (silent : Silent s s') : Silent s (openSerial path result env s') := by
  unfold openSerial
  cases result with
  | opened timeMs =>
    apply sendEvent_silent
    apply setLinkState_silent
    exact silent.trans (Silent.of_same rfl rfl)
  | openFailed errno => exact silent.trans (Silent.of_same rfl rfl)
  | getattrFailed errno => exact silent.trans (Silent.of_same rfl rfl)
  | setattrFailed errno => exact silent.trans (Silent.of_same rfl rfl)

/-- Opening the port again by itself. -/
theorem reconnect_silent (nowMs : UInt32) (path : String) (result : OpenResult) (env : Env)
    (s : State) : Silent s (reconnect nowMs path result env s) := by
  unfold reconnect
  split
  · dsimp only
    have down : Silent s (setLinkState .disconnected env { s with
        lastReconnectAttemptMs := nowMs
        reconnectAttemptCount := s.reconnectAttemptCount + 1 }) :=
      setLinkState_silent _ env (Silent.of_same rfl rfl)
    have tried := openSerial_silent path result env down
    split
    · exact tried
    · exact sendEvent_silent _ _ _ tried
  · exact Silent.of_same rfl rfl

/-- Opening the port again by command. -/
theorem serialReconnect_silent (path : String) (result : OpenResult) (env : Env) (s : State) :
    Silent s (serialReconnect path result env s) := by
  have closed : Silent s (closeSerial s) := Silent.of_same rfl rfl
  exact (openSerial_silent path result env closed).trans (Silent.of_same rfl rfl)

/-- A quiet line. -/
theorem checkStale_silent (nowMs : UInt32) (env : Env) (s : State) :
    Silent s (checkStale nowMs env s) := by
  unfold checkStale
  split
  · exact setLinkState_silent _ env (Silent.of_same rfl rfl)
  · exact Silent.of_same rfl rfl

/-- A failed read. -/
theorem failRead_silent (errno : Nat) (env : Env) (s : State) :
    Silent s (failRead errno env s) := by
  have down : Silent s (setLinkState .disconnected env
      (markOutputsStale { s with lastErrorCode := .linkDown })) :=
    setLinkState_silent _ env (Silent.of_same rfl rfl)
  have reported := sendEvent_silent .link .information
    s!"MAVLINK_BRIDGE_APP: serial read failed errno={errno}, forcing reconnect" down
  exact reported.trans (Silent.of_same rfl rfl)

end CfsTelemetry.Bridge
