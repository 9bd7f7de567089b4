import CfsTelemetry.Bridge.Service

/-!
# States that agree but for their diagnostics

The bridge counts frames that it could not read and answers to its requests, remembers what went
wrong last, and reports all of it. Nothing that it does otherwise depends on these: of two states
that agree in everything else, every step makes two states that agree again.
-/
namespace CfsTelemetry.Bridge

open Slots

/-- Whether an output is a report on the bridge itself. -/
def Output.isReport : Output → Bool
  | .message (.housekeeping _) => true
  | _ => false

/-- What a state tells about the bridge itself, with its outputs. -/
structure Diagnostics where
  parseErrorCount : UInt32
  streamRequestAckCount : UInt8
  lastErrorCode : ErrorCode
  outputs : List Output
  events : List Event

/-- The state with other diagnostics. -/
def State.diagnosed (d : Diagnostics) (s : State) : State :=
  { s with
    parseErrorCount := d.parseErrorCount
    streamRequestAckCount := d.streamRequestAckCount
    lastErrorCode := d.lastErrorCode
    outputs := d.outputs
    events := d.events }

/-- The state without its diagnostics. -/
def State.undiagnosed (s : State) : State :=
  s.diagnosed ⟨0, 0, .none, s.outputs.filter fun output => !output.isReport, []⟩

/-- Two states agree but for their diagnostics. -/
def Agree (s s' : State) : Prop := s.undiagnosed = s'.undiagnosed

/-- A change of the state that neither reads the diagnostics nor puts anything out. -/
structure Blind (f : State → State) : Prop where
  reads : ∀ (s : State) (d : Diagnostics), f (s.diagnosed d) = (f s).diagnosed d
  silent : ∀ s : State, (f s).outputs = s.outputs

namespace Agree

variable {s s' : State}

/-- A state agrees with itself under other diagnostics, when its outputs differ by reports. -/
theorem of_diagnosed {d : Diagnostics}
    (shown : d.outputs.filter (fun output => !output.isReport) =
      s.outputs.filter fun output => !output.isReport) : Agree s (s.diagnosed d) := by
  unfold Agree State.undiagnosed
  show s.diagnosed _ = s.diagnosed ⟨_, _, _, d.outputs.filter _, _⟩
  rw [shown]

/-- Nothing else agrees with it. -/
theorem diagnosed (same : Agree s s') : ∃ d : Diagnostics, s' = s.diagnosed d ∧
    d.outputs.filter (fun output => !output.isReport) =
      s.outputs.filter fun output => !output.isReport := by
  have equal : s.undiagnosed = s'.undiagnosed := same
  have outputs := congrArg State.outputs equal
  let own : Diagnostics := ⟨s'.parseErrorCount, s'.streamRequestAckCount, s'.lastErrorCode,
    s'.outputs, s'.events⟩
  have rest := congrArg (State.diagnosed own) equal
  exact ⟨own, rest.symm, outputs.symm⟩

/-- Agreement is kept by a change that is blind to the diagnostics. -/
theorem map (same : Agree s s') (f : State → State) (blind : Blind f) : Agree (f s) (f s') := by
  have ⟨d, equal, shown⟩ := same.diagnosed
  rw [equal, blind.reads]
  apply of_diagnosed
  rw [shown, blind.silent]

/-- Either branch is taken on both sides. -/
theorem ite {c c' : Prop} [Decidable c] [Decidable c'] {t t' e e' : State} (condition : c ↔ c')
    (holds : c → Agree t t') (fails : ¬ c → Agree e e') :
    Agree (if c then t else e) (if c' then t' else e') := by
  by_cases taken : c
  · rw [if_pos taken, if_pos (condition.mp taken)]
    exact holds taken
  · rw [if_neg taken, if_neg fun other => taken (condition.mpr other)]
    exact fails taken

/-- Events are not compared. -/
theorem sendEvent {id id' : EventId} {type type' : EventType} {text text' : String}
    (same : Agree s s') :
    Agree (Bridge.sendEvent id type text s) (Bridge.sendEvent id' type' text' s') := same

/-- A message is transmitted on both sides. -/
theorem transmitMsg (message : Message) (same : Agree s s') :
    Agree (Bridge.transmitMsg message s) (Bridge.transmitMsg message s') := by
  have ⟨d, equal, shown⟩ := same.diagnosed
  rw [equal]
  have more : (.message message :: d.outputs).filter (fun output => !output.isReport) =
      (.message message :: s.outputs).filter fun output => !output.isReport := by
    rw [List.filter_cons, List.filter_cons, shown]
  exact of_diagnosed (s := Bridge.transmitMsg message s)
    (d := { d with outputs := .message message :: d.outputs }) more

/-- Reports on the bridge are not compared. -/
theorem reportHousekeeping (same : Agree s s') :
    Agree (Bridge.reportHousekeeping s) (Bridge.reportHousekeeping s') := same

/-- Parse errors are not compared. -/
theorem recordParseError {code code' : ErrorCode} (same : Agree s s') :
    Agree (Bridge.recordParseError code s) (Bridge.recordParseError code' s') := same

/-- A frame is sent on both sides, or on none. -/
theorem sendMavlinkV2 (kind : MessageKind) (payload : List UInt8) (fault : Option TxFault)
    (same : Agree s s') :
    (Bridge.sendMavlinkV2 kind payload fault s).1 =
        (Bridge.sendMavlinkV2 kind payload fault s').1 ∧
      Agree (Bridge.sendMavlinkV2 kind payload fault s).2
        (Bridge.sendMavlinkV2 kind payload fault s').2 := by
  have ⟨d, equal, shown⟩ := same.diagnosed
  subst equal
  unfold Bridge.sendMavlinkV2
  have port : (s.diagnosed d).serialOpen = s.serialOpen := rfl
  rw [port]
  by_cases closed : s.serialOpen = false
  · rw [if_pos closed, if_pos closed]
    exact ⟨rfl, same⟩
  rw [if_neg closed, if_neg closed]
  by_cases long : 10 + payload.length + 2 > maxFrameLen
  · rw [if_pos long, if_pos long]
    exact ⟨rfl, same⟩
  rw [if_neg long, if_neg long]
  let sent : Output := .tx ⟨s.txSequence, kind, payload⟩
  have more : (sent :: d.outputs).filter (fun output => !output.isReport) =
      (sent :: s.outputs).filter fun output => !output.isReport := by
    rw [List.filter_cons, List.filter_cons, shown]
  let numbered : State := { s with txSequence := s.txSequence + 1 }
  cases fault with
  | none =>
    exact ⟨rfl, of_diagnosed (s := { numbered with outputs := sent :: s.outputs })
      (d := { d with outputs := sent :: d.outputs }) more⟩
  | some fault => exact ⟨rfl, of_diagnosed (s := numbered) (d := d) shown⟩

/-- So it is when what is sent does not depend on the diagnostics. -/
theorem sends (same : Agree s s') {f : State → State} {kind : MessageKind}
    {payload : State → List UInt8} {fault : Option TxFault}
    (sends : ∀ s : State, f s = (Bridge.sendMavlinkV2 kind (payload s) fault s).2)
    (reads : ∀ (s : State) (d : Diagnostics), payload (s.diagnosed d) = payload s) :
    Agree (f s) (f s') := by
  have ⟨d, equal, _⟩ := same.diagnosed
  have payloads : payload s' = payload s := by rw [equal, reads]
  rw [sends, sends, payloads]
  exact (same.sendMavlinkV2 kind (payload s) fault).2

/-- A readback is started on both sides. -/
theorem startFcMissionReadback (env : Env) (same : Agree s s') :
    Agree (Bridge.startFcMissionReadback env s) (Bridge.startFcMissionReadback env s') := by
  have waits := same.map (fun s => { awaitCount env s with missionReadbackPending := false })
    ⟨fun _ _ => rfl, fun _ => rfl⟩
  exact .sendEvent (waits.sends (fun _ => rfl) fun _ _ => rfl)

/-- The link is set on both sides. -/
theorem setLinkState (newState : LinkState) (env : Env) (same : Agree s s') :
    Agree (Bridge.setLinkState newState env s) (Bridge.setLinkState newState env s') := by
  have ⟨d, equal, _⟩ := same.diagnosed
  subst equal
  have changed := same.map (fun s => { s with linkState := newState })
    ⟨fun _ _ => rfl, fun _ => rfl⟩
  have reset := changed.map (fun s => { s with
    missionReadbackBackoffMs := readbackBackoffInitialMs
    missionReadbackPending := false }) ⟨fun _ _ => rfl, fun _ => rfl⟩
  have lost := changed.map (fun s => { s with missionReadbackPending := false })
    ⟨fun _ _ => rfl, fun _ => rfl⟩
  refine .ite Iff.rfl (fun _ => .ite Iff.rfl (fun _ => ?_) fun _ => reset) fun _ =>
    .ite Iff.rfl (fun _ => lost) fun _ => changed
  exact reset.startFcMissionReadback env

/-- The downloaded mission is published on both sides. -/
theorem publishFcMissionReadback (env : Env) (same : Agree s s') :
    Agree (Bridge.publishFcMissionReadback env s) (Bridge.publishFcMissionReadback env s') := by
  have ⟨d, equal, _⟩ := same.diagnosed
  subst equal
  unfold Bridge.publishFcMissionReadback
  extract_lets expected clamped count noted seq tlm expected' clamped' count' noted' seq' tlm'
  have notes : Agree noted noted' := .ite Iff.rfl (fun _ => .sendEvent same) fun _ => same
  have stored := notes.map (fun noted =>
    { noted with missionReadbackSeq := seq, fcMissionReadbackTlm := tlm })
      ⟨fun _ _ => rfl, fun _ => rfl⟩
  exact .sendEvent (stored.transmitMsg (.fcMissionReadback tlm))

/-- The command to read the mission back. -/
theorem missionQuery (env : Env) (same : Agree s s') :
    Agree (Bridge.missionQuery env s) (Bridge.missionQuery env s') := by
  have ⟨d, equal, _⟩ := same.diagnosed
  subst equal
  have refused := same.map (fun s => { s with errCounter := s.errCounter + 1 })
    ⟨fun _ _ => rfl, fun _ => rfl⟩
  have waits := same.map (fun s => { awaitCount env s with cmdCounter := s.cmdCounter + 1 })
    ⟨fun _ _ => rfl, fun _ => rfl⟩
  refine .ite Iff.rfl (fun _ => .sendEvent refused) fun _ => ?_
  exact .sendEvent (waits.sends (fun _ => rfl) fun _ _ => rfl)

/-- A download is given up on both sides. -/
theorem checkMissionDownloadTimeout (nowMs : UInt32) (same : Agree s s') :
    Agree (Bridge.checkMissionDownloadTimeout nowMs s)
      (Bridge.checkMissionDownloadTimeout nowMs s') := by
  have ⟨d, equal, _⟩ := same.diagnosed
  subst equal
  have ended := same.map (fun s => { s with missionDownloadState := .idle })
    ⟨fun _ _ => rfl, fun _ => rfl⟩
  let backoff :=
    if s.missionReadbackBackoffMs < readbackBackoffInitialMs then readbackBackoffInitialMs
    else s.missionReadbackBackoffMs
  have scheduled := ended.map (fun ended => { ended with
    missionReadbackPending := true
    missionReadbackNextRetryMs := nowMs + backoff
    missionReadbackBackoffMs :=
      if backoff * 2 > readbackBackoffCapMs then readbackBackoffCapMs else backoff * 2 })
        ⟨fun _ _ => rfl, fun _ => rfl⟩
  refine .ite Iff.rfl (fun _ => same) fun _ => .ite Iff.rfl (fun _ => same) fun _ => ?_
  exact .ite Iff.rfl (fun _ => .sendEvent (.sendEvent scheduled)) fun _ => .sendEvent ended

/-- A readback is retried on both sides. -/
theorem retryReadback (nowMs : UInt32) (env : Env) (same : Agree s s') :
    Agree (Bridge.retryReadback nowMs env s) (Bridge.retryReadback nowMs env s') := by
  have ⟨d, equal, _⟩ := same.diagnosed
  subst equal
  exact .ite Iff.rfl (fun _ => same.startFcMissionReadback env) fun _ => same

/-! ## The upload -/

/-- Copying a waypoint is blind to the diagnostics. -/
theorem copyActiveToPending_blind (dst src : Nat) : Blind (copyActiveToPending dst src) :=
  ⟨fun _ _ => rfl, fun _ => rfl⟩

theorem copyMsgToPending_blind (dst : Nat) (wp : Waypoint) : Blind (copyMsgToPending dst wp) :=
  ⟨fun _ _ => rfl, fun _ => rfl⟩

/-- A loop does on both sides what its body does. -/
theorem forSlots (same : Agree s s') {body : Nat → State → State} {first count : Nat}
    (blind : ∀ index : Nat, Blind (body index)) :
    Agree (Bridge.forSlots body first count s) (Bridge.forSlots body first count s') := by
  induction count with
  | zero => exact same
  | succ count previous => exact previous.map (body (first + count)) (blind _)

/-- The pending missions on both sides. -/
inductive Built : Except State (UInt8 × State) → Except State (UInt8 × State) → Prop where
  | rejected {s s' : State} (same : Agree s s') : Built (.error s) (.error s')
  | built {s s' : State} (newCount : UInt8) (same : Agree s s') :
    Built (.ok (newCount, s)) (.ok (newCount, s'))

/-- The pending mission is built on both sides, or the update is rejected on both. -/
theorem buildPending (msg : RouteUpdate) (same : Agree s s') :
    Built (Bridge.buildPending msg s) (Bridge.buildPending msg s') := by
  have ⟨d, equal, _⟩ := same.diagnosed
  subst equal
  unfold Bridge.buildPending
  cases routeOp msg.routeType with
  | add =>
    refine .built _ (.forSlots (.forSlots ?_ fun _ => copyActiveToPending_blind _ _)
      fun _ => copyMsgToPending_blind _ _)
    exact .ite Iff.rfl (fun _ => .sendEvent same) fun _ => same
  | replace => exact .built _ (same.forSlots fun _ => copyMsgToPending_blind _ _)
  | delete =>
    show Built (deleteWaypoint msg.waypointCount s) (deleteWaypoint msg.waypointCount _)
    unfold deleteWaypoint
    show Built (if msg.waypointCount ≥ s.activeWaypointCount then _ else _)
      (if msg.waypointCount ≥ s.activeWaypointCount then _ else _)
    by_cases outside : msg.waypointCount ≥ s.activeWaypointCount
    · rw [if_pos outside, if_pos outside]
      exact .rejected (.sendEvent same)
    rw [if_neg outside, if_neg outside]
    show Built (if msg.waypointCount = s.activeResumeIndex then _ else _)
      (if msg.waypointCount = s.activeResumeIndex then _ else _)
    by_cases target : msg.waypointCount = s.activeResumeIndex
    · rw [if_pos target, if_pos target]
      exact .rejected (.sendEvent same)
    rw [if_neg target, if_neg target]
    refine .built _ (.map ?_ (fun copied => { copied with
      activeResumeIndex :=
        if msg.waypointCount < s.activeResumeIndex then s.activeResumeIndex - 1
        else s.activeResumeIndex }) ⟨fun _ _ => rfl, fun _ => rfl⟩)
    exact same.forSlots fun _ => copyActiveToPending_blind _ _
  | modify =>
    show Built (modifyWaypoint msg.waypointCount msg s) (modifyWaypoint msg.waypointCount msg _)
    unfold modifyWaypoint
    show Built (if msg.waypointCount ≥ s.activeWaypointCount then _ else _)
      (if msg.waypointCount ≥ s.activeWaypointCount then _ else _)
    by_cases outside : msg.waypointCount ≥ s.activeWaypointCount
    · rw [if_pos outside, if_pos outside]
      exact .rejected (.sendEvent same)
    rw [if_neg outside, if_neg outside]
    refine .built _ (same.forSlots fun index => ?_)
    by_cases chosen : index = msg.waypointCount.toNat
    · simp only [if_pos chosen]
      exact copyMsgToPending_blind _ _
    · simp only [if_neg chosen]
      exact copyActiveToPending_blind _ _

/-- A route update is taken on both sides. -/
theorem startMissionUpload (env : Env) (msg : RouteUpdate) (same : Agree s s') :
    Agree (Bridge.startMissionUpload env msg s) (Bridge.startMissionUpload env msg s') := by
  have ⟨d, equal, _⟩ := same.diagnosed
  subst equal
  unfold Bridge.startMissionUpload
  extract_lets called called'
  have calls : Agree called called' := .sendEvent same
  refine .ite Iff.rfl (fun _ => .sendEvent calls) fun _ =>
    .ite Iff.rfl (fun _ => .sendEvent calls) fun _ => ?_
  have pending := calls.buildPending msg
  generalize Bridge.buildPending msg called = result at pending ⊢
  generalize Bridge.buildPending msg called' = result' at pending ⊢
  cases pending with
  | rejected rejected => exact rejected
  | built newCount built =>
    have cleared := built.map (fun s => { s with
      missionUploadWpCount := newCount
      missionUploadState := .clearing
      missionUploadRetry := 0
      missionUploadTimeoutMs := env.timeMs + missionClearDelayMs })
      ⟨fun _ _ => rfl, fun _ => rfl⟩
    exact cleared.sends (fun _ => rfl) fun _ _ => rfl

/-- An upload goes on, or is given up, on both sides. -/
theorem checkMissionUploadTimeout (nowMs : UInt32) (env : Env) (same : Agree s s') :
    Agree (Bridge.checkMissionUploadTimeout nowMs env s)
      (Bridge.checkMissionUploadTimeout nowMs env s') := by
  have ⟨d, equal, _⟩ := same.diagnosed
  subst equal
  have announced := same.map (fun s => { s with
    missionUploadState := .active
    missionUploadTimeoutMs := nowMs + missionUploadTimeoutMs }) ⟨fun _ _ => rfl, fun _ => rfl⟩
  have again := same.map (fun s => { s with
    missionUploadRetry := s.missionUploadRetry + 1
    missionUploadTimeoutMs := nowMs + missionUploadTimeoutMs }) ⟨fun _ _ => rfl, fun _ => rfl⟩
  have failed := same.map (fun s => { s with
    missionUploadState := .idle
    missionUploadFailCount := s.missionUploadFailCount + 1
    lastUploadResult := .timeout }) ⟨fun _ _ => rfl, fun _ => rfl⟩
  have cleared : Agree (sendMissionClearAll (env.tx 0) _) (sendMissionClearAll (env.tx 0) _) :=
    again.sends (fun _ => rfl) fun _ _ => rfl
  have counted : Agree (sendMissionCount s.missionUploadWpCount (env.tx 1) _)
      (sendMissionCount s.missionUploadWpCount (env.tx 1) _) :=
    cleared.sends (fun _ => rfl) fun _ _ => rfl
  unfold Bridge.checkMissionUploadTimeout
  have state : (s.diagnosed d).missionUploadState = s.missionUploadState := rfl
  rw [state]
  cases s.missionUploadState with
  | idle => exact same
  | clearing =>
    exact .ite Iff.rfl (fun _ => announced.sends (fun _ => rfl) fun _ _ => rfl) fun _ => same
  | active =>
    exact .ite Iff.rfl (fun _ => .ite Iff.rfl (fun _ => .sendEvent counted)
      fun _ => .sendEvent failed) fun _ => same

/-- A valid message keeps the link connected on both sides. -/
theorem noteReceived (env : Env) (rxTimestampMs : UInt32) (same : Agree s s') :
    Agree (Bridge.noteReceived env rxTimestampMs s)
      (Bridge.noteReceived env rxTimestampMs s') := by
  have noted := same.map (fun s => { s with lastRxTimestampMs := rxTimestampMs })
    ⟨fun _ _ => rfl, fun _ => rfl⟩
  have cleared : Agree
      { s with lastErrorCode := .none, lastRxTimestampMs := rxTimestampMs }
      { s' with lastErrorCode := .none, lastRxTimestampMs := rxTimestampMs } := noted
  exact cleared.setLinkState .connected env

/-- A decoded message is published on both sides. -/
theorem publishDecoded (message : Message) {seq : UInt32} {report : String}
    (same : Agree s s') :
    Agree (Bridge.publishDecoded message seq report s)
      (Bridge.publishDecoded message seq report s') := by
  have published := same.transmitMsg message
  exact .ite Iff.rfl (fun _ => .sendEvent published) fun _ => published

/-- A value that is not a number is refused on both sides. -/
theorem recordNonFiniteError (msgId : UInt32) (same : Agree s s') :
    Agree (Bridge.recordNonFiniteError msgId s) (Bridge.recordNonFiniteError msgId s') :=
  same.map (fun s => { s with nonFiniteValueCount := s.nonFiniteValueCount + 1 })
    ⟨fun _ _ => rfl, fun _ => rfl⟩

/-- Each state message is published on both sides. -/
theorem publishAttitude (frame : RxFrame) (rxTimestampMs : UInt32) (same : Agree s s') :
    Agree (Bridge.publishAttitude frame rxTimestampMs s)
      (Bridge.publishAttitude frame rxTimestampMs s') := by
  have ⟨d, equal, _⟩ := same.diagnosed
  subst equal
  unfold Bridge.publishAttitude
  refine .ite Iff.rfl (fun _ => same) fun _ =>
    .ite Iff.rfl (fun _ => same.recordNonFiniteError _) fun _ => ?_
  extract_lets seq tlm seq' tlm'
  have stored := same.map (fun s => { s with sequenceCounter := seq, attitudeTlm := tlm })
    ⟨fun _ _ => rfl, fun _ => rfl⟩
  exact stored.publishDecoded (.attitude tlm)

theorem publishEkfLocal (frame : RxFrame) (rxTimestampMs : UInt32) (same : Agree s s') :
    Agree (Bridge.publishEkfLocal frame rxTimestampMs s)
      (Bridge.publishEkfLocal frame rxTimestampMs s') := by
  have ⟨d, equal, _⟩ := same.diagnosed
  subst equal
  unfold Bridge.publishEkfLocal
  refine .ite Iff.rfl (fun _ => same) fun _ =>
    .ite Iff.rfl (fun _ => same.recordNonFiniteError _) fun _ => ?_
  extract_lets seq tlm seq' tlm'
  have stored := same.map (fun s => { s with sequenceCounter := seq, ekfLocalTlm := tlm })
    ⟨fun _ _ => rfl, fun _ => rfl⟩
  exact stored.publishDecoded (.ekfLocal tlm)

theorem publishGlobalPositionAsLocal (frame : RxFrame) (rxTimestampMs : UInt32)
    (same : Agree s s') :
    Agree (Bridge.publishGlobalPositionAsLocal frame rxTimestampMs s)
      (Bridge.publishGlobalPositionAsLocal frame rxTimestampMs s') := by
  have ⟨d, equal, _⟩ := same.diagnosed
  subst equal
  unfold Bridge.publishGlobalPositionAsLocal
  refine .ite Iff.rfl (fun _ => same) fun _ => ?_
  extract_lets seq relativeAltMm tlm seq' tlm'
  have stored := same.map (fun s => { s with sequenceCounter := seq, ekfLocalTlm := tlm })
    ⟨fun _ _ => rfl, fun _ => rfl⟩
  exact stored.publishDecoded (.ekfLocal tlm)

theorem publishGpsRaw (frame : RxFrame) (rxTimestampMs : UInt32) (same : Agree s s') :
    Agree (Bridge.publishGpsRaw frame rxTimestampMs s)
      (Bridge.publishGpsRaw frame rxTimestampMs s') := by
  have ⟨d, equal, _⟩ := same.diagnosed
  subst equal
  unfold Bridge.publishGpsRaw
  refine .ite Iff.rfl (fun _ => same) fun _ => ?_
  extract_lets seq fixType fixed tlm seq' tlm'
  have stored : Agree { s with
      sequenceCounter := seq
      gpsRawTlm := tlm
      lastErrorCode := if fixed then s.lastErrorCode else .gpsNoFix } { s.diagnosed d with
      sequenceCounter := seq
      gpsRawTlm := tlm
      lastErrorCode := if fixed then d.lastErrorCode else .gpsNoFix } :=
    same.map (fun s => { s with sequenceCounter := seq, gpsRawTlm := tlm })
      ⟨fun _ _ => rfl, fun _ => rfl⟩
  exact stored.publishDecoded (.gpsRaw tlm)

theorem publishEkfStatus (frame : RxFrame) (rxTimestampMs : UInt32) (same : Agree s s') :
    Agree (Bridge.publishEkfStatus frame rxTimestampMs s)
      (Bridge.publishEkfStatus frame rxTimestampMs s') := by
  have ⟨d, equal, _⟩ := same.diagnosed
  subst equal
  unfold Bridge.publishEkfStatus
  refine .ite Iff.rfl (fun _ => same) fun _ => ?_
  extract_lets seq flags healthy tlm seq' tlm'
  have stored : Agree { s with
      sequenceCounter := seq
      ekfStatusTlm := tlm
      lastErrorCode := if healthy then s.lastErrorCode else .ekfUnhealthy } { s.diagnosed d with
      sequenceCounter := seq
      ekfStatusTlm := tlm
      lastErrorCode := if healthy then d.lastErrorCode else .ekfUnhealthy } :=
    same.map (fun s => { s with sequenceCounter := seq, ekfStatusTlm := tlm })
      ⟨fun _ _ => rfl, fun _ => rfl⟩
  exact stored.publishDecoded (.ekfStatus tlm)

theorem handleSysTime (frame : RxFrame) (rxTimestampMs : UInt32) (same : Agree s s') :
    Agree (Bridge.handleSysTime frame rxTimestampMs s)
      (Bridge.handleSysTime frame rxTimestampMs s') := by
  have ⟨d, equal, _⟩ := same.diagnosed
  subst equal
  unfold Bridge.handleSysTime
  refine .ite Iff.rfl (fun _ => same) fun _ => .ite Iff.rfl (fun _ => same) fun _ => ?_
  extract_lets seq tlm seq' tlm'
  have stored := same.map (fun s => { s with sequenceCounter := seq, sysTimeTlm := tlm })
    ⟨fun _ _ => rfl, fun _ => rfl⟩
  exact stored.publishDecoded (.sysTime tlm)

/-- A state message is handled on both sides. -/
theorem handleTelemetry {kind : MessageKind} {publish : RxFrame → UInt32 → State → State}
    (env : Env) (frame : RxFrame) (rxTimestampMs : UInt32)
    (publishes : ∀ {s s' : State}, Agree s s' →
      Agree (publish frame rxTimestampMs s) (publish frame rxTimestampMs s'))
    (same : Agree s s') :
    Agree (Bridge.handleTelemetry kind publish env frame rxTimestampMs s)
      (Bridge.handleTelemetry kind publish env frame rxTimestampMs s') :=
  .ite Iff.rfl (fun _ => publishes (same.noteReceived env rxTimestampMs)) fun _ => same

/-- A target is fixed on both sides. -/
theorem lockTarget (frame : RxFrame) (same : Agree s s') :
    Agree (Bridge.lockTarget frame s) (Bridge.lockTarget frame s') := by
  have ⟨d, equal, _⟩ := same.diagnosed
  subst equal
  have locked := same.map (fun s =>
    { s with targetSystemId := frame.sysId, targetComponentId := frame.compId })
      ⟨fun _ _ => rfl, fun _ => rfl⟩
  exact .ite Iff.rfl (fun _ => locked) fun _ => same

/-- A heartbeat is taken on both sides. -/
theorem handleHeartbeat (env : Env) (frame : RxFrame) (rxTimestampMs : UInt32)
    (same : Agree s s') :
    Agree (Bridge.handleHeartbeat env frame rxTimestampMs s)
      (Bridge.handleHeartbeat env frame rxTimestampMs s') := by
  have locks := same.lockTarget frame
  have ⟨d, equal, _⟩ := locks.diagnosed
  have known : (Bridge.lockTarget frame s').targetSystemId =
      (Bridge.lockTarget frame s).targetSystemId := by
    rw [equal]
    rfl
  refine .ite Iff.rfl (fun _ => .ite (by rw [known]) (fun _ => ?_) fun _ => locks) fun _ => same
  have noted := locks.map (fun s => { s with lastRxTimestampMs := rxTimestampMs })
    ⟨fun _ _ => rfl, fun _ => rfl⟩
  exact (noted.setLinkState .connected env).map
    (updateFromHeartbeat (payloadByte frame.payload 6) (payloadByte frame.payload 7))
    ⟨fun _ _ => rfl, fun _ => rfl⟩

/-- The answer to a command changes the diagnostics only. -/
theorem handleCommandAck_self (frame : RxFrame) (s : State) :
    Agree (Bridge.handleCommandAck frame s) s := by
  unfold Bridge.handleCommandAck
  split
  · dsimp only
    split
    · split <;> rfl
    · rfl
  · rfl

theorem handleCommandAck (frame : RxFrame) (same : Agree s s') :
    Agree (Bridge.handleCommandAck frame s) (Bridge.handleCommandAck frame s') :=
  (handleCommandAck_self frame s).trans (same.trans (handleCommandAck_self frame s').symm)

/-- The next request is waited for on both sides. -/
theorem awaitRequest (deadlineMs : UInt32) (same : Agree s s') :
    Agree (Bridge.awaitRequest deadlineMs s) (Bridge.awaitRequest deadlineMs s') :=
  same.map (Bridge.awaitRequest deadlineMs) ⟨fun _ _ => rfl, fun _ => rfl⟩

/-- A request for an item is answered on both sides. -/
theorem handleMissionRequestInt (env : Env) (frame : RxFrame) (rxTimestampMs : UInt32)
    (same : Agree s s') :
    Agree (Bridge.handleMissionRequestInt env frame rxTimestampMs s)
      (Bridge.handleMissionRequestInt env frame rxTimestampMs s') := by
  have ⟨d, equal, _⟩ := same.diagnosed
  subst equal
  have waits := same.awaitRequest (rxTimestampMs + missionUploadTimeoutMs)
  refine .ite Iff.rfl (fun _ => .ite Iff.rfl (fun _ => ?_) fun _ => same) fun _ => same
  exact waits.sends (fun _ => rfl) fun _ _ => rfl

theorem handleMissionRequest (env : Env) (frame : RxFrame) (rxTimestampMs : UInt32)
    (same : Agree s s') :
    Agree (Bridge.handleMissionRequest env frame rxTimestampMs s)
      (Bridge.handleMissionRequest env frame rxTimestampMs s') := by
  have ⟨d, equal, _⟩ := same.diagnosed
  subst equal
  unfold Bridge.handleMissionRequest
  extract_lets valid noted noted'
  have notes : Agree noted noted' := .sendEvent same
  have waits := notes.awaitRequest (rxTimestampMs + missionUploadTimeoutMs)
  refine .ite Iff.rfl (fun _ => .ite Iff.rfl (fun _ => ?_) fun _ => notes) fun _ => notes
  exact waits.sends (fun _ => rfl) fun _ _ => rfl

/-- An upload is accepted or refused on both sides. -/
theorem handleMissionAck (env : Env) (frame : RxFrame) (rxTimestampMs : UInt32)
    (same : Agree s s') :
    Agree (Bridge.handleMissionAck env frame rxTimestampMs s)
      (Bridge.handleMissionAck env frame rxTimestampMs s') := by
  have ⟨d, equal, _⟩ := same.diagnosed
  subst equal
  have committed := same.map (fun s => { s with
    missionUploadState := .idle
    missionUploadSuccessCount := s.missionUploadSuccessCount + 1
    lastUploadResult := .success
    lastUploadTimestampMs := rxTimestampMs
    lastUploadWaypointCount := s.missionUploadWpCount
    activeWaypointCount := s.missionUploadWpCount
    activeWaypoints :=
      fill (slot s.missionPending) 0 s.missionUploadWpCount.toNat s.activeWaypoints })
        ⟨fun _ _ => rfl, fun _ => rfl⟩
  have refused := same.map (fun s => { s with
    missionUploadState := .idle
    missionUploadFailCount := s.missionUploadFailCount + 1
    lastUploadResult := .nak }) ⟨fun _ _ => rfl, fun _ => rfl⟩
  have commits : Agree (commitUpload env rxTimestampMs s)
      (commitUpload env rxTimestampMs (s.diagnosed d)) := by
    unfold commitUpload
    extract_lets confirmedCount done confirmedCount' done'
    have finished : Agree done done' := .sendEvent committed
    exact .ite Iff.rfl (fun _ => finished.startFcMissionReadback env) fun _ => finished
  exact .ite Iff.rfl (fun _ => .ite Iff.rfl (fun _ => .ite Iff.rfl (fun _ => commits)
    fun _ => .sendEvent refused) fun _ => same) fun _ => same

/-- An item count is taken on both sides. -/
theorem handleMissionCount (env : Env) (frame : RxFrame) (rxTimestampMs : UInt32)
    (same : Agree s s') :
    Agree (Bridge.handleMissionCount env frame rxTimestampMs s)
      (Bridge.handleMissionCount env frame rxTimestampMs s') := by
  unfold Bridge.handleMissionCount
  extract_lets count noted noted'
  have expected := same.map (fun s => { s with
    missionDownloadExpectedCount := if count > 255 then 255 else count.toUInt8 })
      ⟨fun _ _ => rfl, fun _ => rfl⟩
  have notes : Agree noted noted' := .sendEvent expected
  have ended := notes.map (fun s => { s with missionDownloadState := .idle })
    ⟨fun _ _ => rfl, fun _ => rfl⟩
  have waits := notes.map (fun s => { s with
    missionDownloadState := .waitItem
    missionDownloadSeq := 0
    missionDownloadTimeoutMs := rxTimestampMs + missionDownloadTimeoutMs })
      ⟨fun _ _ => rfl, fun _ => rfl⟩
  have acknowledged : Agree (sendMissionAckAccepted (env.tx 0) _)
      (sendMissionAckAccepted (env.tx 0) _) := ended.sends (fun _ => rfl) fun _ _ => rfl
  refine .ite Iff.rfl (fun _ => .ite Iff.rfl (fun _ => ?_) fun _ => ?_) fun _ => same
  · exact .publishFcMissionReadback env (.sendEvent acknowledged)
  · exact waits.sends (fun _ => rfl) fun _ _ => rfl

/-- An item is taken on both sides. -/
theorem handleMissionItemInt (env : Env) (frame : RxFrame) (rxTimestampMs : UInt32)
    (same : Agree s s') :
    Agree (Bridge.handleMissionItemInt env frame rxTimestampMs s)
      (Bridge.handleMissionItemInt env frame rxTimestampMs s') := by
  have ⟨d, equal, _⟩ := same.diagnosed
  subst equal
  unfold Bridge.handleMissionItemInt
  extract_lets wp noted seq stored acknowledged noted' seq' stored' acknowledged'
  have notes : Agree noted noted' := .sendEvent same
  have stores : Agree stored stored' := notes.map (fun noted => { noted with
    missionDownloadWaypoints :=
      s.missionDownloadWaypoints.setIfInBounds s.missionDownloadSeq.toNat wp
    missionDownloadSeq := seq }) ⟨fun _ _ => rfl, fun _ => rfl⟩
  have acknowledges : Agree acknowledged acknowledged' := stores.sends (fun _ => rfl) fun _ _ => rfl
  have ended := acknowledges.map (fun s => { s with missionDownloadState := .idle })
    ⟨fun _ _ => rfl, fun _ => rfl⟩
  have waits := stores.map (fun s => { s with
    missionDownloadTimeoutMs := rxTimestampMs + missionDownloadTimeoutMs })
      ⟨fun _ _ => rfl, fun _ => rfl⟩
  refine .ite Iff.rfl (fun _ => .ite Iff.rfl (fun _ => ?_) fun _ => ?_) fun _ => same
  · exact .publishFcMissionReadback env (.sendEvent ended)
  · exact waits.sends (fun _ => rfl) fun _ _ => rfl

/-- The current item is taken on both sides. -/
theorem handleMissionCurrent (env : Env) (frame : RxFrame) (rxTimestampMs : UInt32)
    (same : Agree s s') :
    Agree (Bridge.handleMissionCurrent env frame rxTimestampMs s)
      (Bridge.handleMissionCurrent env frame rxTimestampMs s') := by
  have noted := same.noteReceived env rxTimestampMs
  have current := noted.map (fun s => { s with activeResumeIndex := currentIndex frame })
    ⟨fun _ _ => rfl, fun _ => rfl⟩
  exact .ite Iff.rfl (fun _ => current) fun _ => same

/-- A complete frame is handled on both sides. -/
theorem handleFrameComplete (env : Env) (frame : RxFrame) (rxTimestampMs : UInt32)
    (same : Agree s s') :
    Agree (Bridge.handleFrameComplete env frame rxTimestampMs s)
      (Bridge.handleFrameComplete env frame rxTimestampMs s') := by
  have ⟨d, equal, _⟩ := same.diagnosed
  subst equal
  refine .ite Iff.rfl (fun _ => same.handleHeartbeat env frame rxTimestampMs) fun _ => ?_
  refine .ite Iff.rfl (fun _ => same.handleCommandAck frame) fun _ => ?_
  refine .ite Iff.rfl (fun _ => same.handleTelemetry env frame _ (publishAttitude frame _))
    fun _ => ?_
  refine .ite Iff.rfl (fun _ => same.handleTelemetry env frame _ (publishEkfLocal frame _))
    fun _ => ?_
  refine .ite Iff.rfl (fun _ => same.handleTelemetry env frame _
    (publishGlobalPositionAsLocal frame _)) fun _ => ?_
  refine .ite Iff.rfl (fun _ => same.handleTelemetry env frame _ (publishGpsRaw frame _))
    fun _ => ?_
  refine .ite Iff.rfl (fun _ => same.handleTelemetry env frame _ (publishEkfStatus frame _))
    fun _ => ?_
  refine .ite Iff.rfl (fun _ => same.handleTelemetry env frame _ (handleSysTime frame _))
    fun _ => ?_
  refine .ite Iff.rfl (fun _ => same.handleMissionRequestInt env frame _) fun _ => ?_
  refine .ite Iff.rfl (fun _ => same.handleMissionRequest env frame _) fun _ => ?_
  refine .ite Iff.rfl (fun _ => same.handleMissionAck env frame _) fun _ => ?_
  refine .ite Iff.rfl (fun _ => same.handleMissionCount env frame _) fun _ => ?_
  refine .ite Iff.rfl (fun _ => same.handleMissionItemInt env frame _) fun _ => ?_
  exact .ite Iff.rfl (fun _ => same.handleMissionCurrent env frame _) fun _ => same

/-! ## Commands -/

/-- A command is refused on both sides. -/
theorem countError (same : Agree s s') :
    Agree { s with errCounter := s.errCounter + 1 } { s' with errCounter := s'.errCounter + 1 } :=
  same.map (fun s => { s with errCounter := s.errCounter + 1 }) ⟨fun _ _ => rfl, fun _ => rfl⟩

/-- A command is carried out on both sides. -/
theorem countCommand (same : Agree s s') :
    Agree { s with cmdCounter := s.cmdCounter + 1 } { s' with cmdCounter := s'.cmdCounter + 1 } :=
  same.map (fun s => { s with cmdCounter := s.cmdCounter + 1 }) ⟨fun _ _ => rfl, fun _ => rfl⟩

/-- A command without parameters. -/
theorem handleCommand (command : GroundCommand) (same : Agree s s') :
    Agree (Bridge.handleCommand command s) (Bridge.handleCommand command s') := by
  cases command with
  | noop => exact .sendEvent same.countCommand
  | resetCounters =>
    exact same.map (fun s => { s with cmdCounter := 0, errCounter := 0 })
      ⟨fun _ _ => rfl, fun _ => rfl⟩
  | parserReset => exact .sendEvent same.countCommand

/-- A configuration command. -/
theorem processConfigCommand (result : SaveResult) (cmd : ConfigCmd) (same : Agree s s') :
    Agree (Bridge.processConfigCommand result cmd s)
      (Bridge.processConfigCommand result cmd s') := by
  have ⟨d, equal, _⟩ := same.diagnosed
  subst equal
  have refuses {t t' : State} (ended : Agree t t') (defect : ConfigResult) :
      Agree (rejectConfig cmd defect t) (rejectConfig cmd defect t') := ended.transmitMsg _
  have refused := same.countError
  have saves {t t' : State} (ended : Agree t t') :
      Agree (saveState result t) (saveState result t') := by
    cases result <;> exact ended
  have activates (value : UInt32) (config : ConfigParams) :
      Agree (activateConfig result cmd value config s)
        (activateConfig result cmd value config (s.diagnosed d)) := by
    have active := saves (same.map (fun s => { s with
      activeConfig := config
      configGeneration := s.configGeneration + 1
      cmdCounter := s.cmdCounter + 1 }) ⟨fun _ _ => rfl, fun _ => rfl⟩)
    have asked := active.map (fun s => { s with streamRequestPending := true })
      ⟨fun _ _ => rfl, fun _ => rfl⟩
    exact .transmitMsg _ (.sendEvent asked)
  unfold Bridge.processConfigCommand
  extract_lets refusal value refusal'
  refine .ite Iff.rfl (fun _ => refuses (.sendEvent refused) _) fun _ =>
    .ite Iff.rfl (fun _ => same) fun _ => .ite Iff.rfl (fun _ => refuses refused _) fun _ =>
    .ite Iff.rfl (fun _ => refuses refused _) fun _ =>
    .ite Iff.rfl (fun _ => refuses (.sendEvent refused) _) fun _ => ?_
  have config : (s.diagnosed d).activeConfig = s.activeConfig := rfl
  rw [config]
  cases s.activeConfig.set cmd.parameterId value with
  | error defect => exact refuses refused defect
  | ok pending => exact .ite Iff.rfl (fun _ => activates value pending) fun _ => refuses refused _

/-- A mode is asked for on both sides. -/
theorem requestFlightMode (subMode : UInt8) (env : Env) (cmd : SetFlightModeCmd)
    (same : Agree s s') :
    (Bridge.requestFlightMode subMode env cmd s).1 =
        (Bridge.requestFlightMode subMode env cmd s').1 ∧
      Agree (Bridge.requestFlightMode subMode env cmd s).2
        (Bridge.requestFlightMode subMode env cmd s').2 := by
  have ⟨d, equal, _⟩ := same.diagnosed
  subst equal
  have sends : (sendSetMode subMode (env.tx 0) s).1 =
        (sendSetMode subMode (env.tx 0) (s.diagnosed d)).1 ∧
      Agree (sendSetMode subMode (env.tx 0) s).2
        (sendSetMode subMode (env.tx 0) (s.diagnosed d)).2 := same.sendMavlinkV2 _ _ _
  unfold Bridge.requestFlightMode
  generalize sendSetMode subMode (env.tx 0) s = asked at sends ⊢
  generalize sendSetMode subMode (env.tx 0) (s.diagnosed d) = asked' at sends ⊢
  have ⟨status, sent⟩ := sends
  dsimp only
  rw [status]
  by_cases more : asked'.1 = .success ∧ cmd.flightMode = 1
  · rw [if_pos more, if_pos more]
    have ⟨d, equal, _⟩ := sent.diagnosed
    rw [equal] at sent ⊢
    exact sent.sendMavlinkV2 _ _ _
  · rw [if_neg more, if_neg more]
    exact ⟨rfl, sent⟩

/-- A flight mode command. -/
theorem processSetFlightModeCmd (env : Env) (cmd : SetFlightModeCmd) (same : Agree s s') :
    Agree (Bridge.processSetFlightModeCmd env cmd s)
      (Bridge.processSetFlightModeCmd env cmd s') := by
  unfold Bridge.processSetFlightModeCmd
  cases flightSubMode cmd.flightMode with
  | none => exact .transmitMsg _ (.sendEvent same.countError)
  | some subMode =>
    have asks := same.requestFlightMode subMode env cmd
    dsimp only
    generalize Bridge.requestFlightMode subMode env cmd s = asked at asks ⊢
    generalize Bridge.requestFlightMode subMode env cmd s' = asked' at asks ⊢
    have ⟨status, sent⟩ := asks
    exact .ite (by rw [status]) (fun _ => .transmitMsg _ (.sendEvent sent.countCommand))
      fun _ => .transmitMsg _ (.sendEvent sent.countError)

/-- The port is opened on both sides. -/
theorem openSerial (path : String) (result : OpenResult) (env : Env) (same : Agree s s') :
    Agree (Bridge.openSerial path result env s) (Bridge.openSerial path result env s') := by
  cases result with
  | openFailed errno => exact same
  | getattrFailed errno => exact same
  | setattrFailed errno => exact same
  | opened timeMs =>
    have opened := same.map (fun s => { s with
      serialOpen := true
      lastRxTimestampMs := 0
      lastHeartbeatTxMs := 0
      lastStreamRequestMs := 0
      targetDiscoveryStartMs := timeMs
      streamRequestPending := true }) ⟨fun _ _ => rfl, fun _ => rfl⟩
    have cleared : Agree
        { s with
          serialOpen := true
          lastErrorCode := .none
          lastRxTimestampMs := 0
          lastHeartbeatTxMs := 0
          lastStreamRequestMs := 0
          targetDiscoveryStartMs := timeMs
          streamRequestPending := true }
        { s' with
          serialOpen := true
          lastErrorCode := .none
          lastRxTimestampMs := 0
          lastHeartbeatTxMs := 0
          lastStreamRequestMs := 0
          targetDiscoveryStartMs := timeMs
          streamRequestPending := true } := opened
    exact .sendEvent (cleared.setLinkState .connected env)

/-- The port is tried again on both sides. -/
theorem reconnect (nowMs : UInt32) (path : String) (result : OpenResult) (env : Env)
    (same : Agree s s') :
    Agree (Bridge.reconnect nowMs path result env s)
      (Bridge.reconnect nowMs path result env s') := by
  have ⟨d, equal, _⟩ := same.diagnosed
  subst equal
  have tries := same.map (fun s => { s with
    lastReconnectAttemptMs := nowMs
    reconnectAttemptCount := s.reconnectAttemptCount + 1 }) ⟨fun _ _ => rfl, fun _ => rfl⟩
  have tried := (tries.setLinkState .disconnected env).openSerial path result env
  refine .ite Iff.rfl (fun _ => ?_) fun _ => same
  cases result.errno with
  | none => exact tried
  | some errno => exact .sendEvent tried

/-- The port is opened again by command on both sides. -/
theorem serialReconnect (path : String) (result : OpenResult) (env : Env) (same : Agree s s') :
    Agree (Bridge.serialReconnect path result env s)
      (Bridge.serialReconnect path result env s') := by
  have closed := same.map closeSerial ⟨fun _ _ => rfl, fun _ => rfl⟩
  exact .sendEvent (closed.openSerial path result env).countCommand

/-- The heartbeat of the bridge is sent on both sides. -/
theorem sendCompanionHeartbeat (nowMs : UInt32) (env : Env) (same : Agree s s') :
    Agree (Bridge.sendCompanionHeartbeat nowMs env s)
      (Bridge.sendCompanionHeartbeat nowMs env s') := by
  have ⟨d, equal, _⟩ := same.diagnosed
  subst equal
  refine .ite Iff.rfl (fun _ => same) fun _ => ?_
  have sends := same.sendMavlinkV2 .heartbeat [0, 0, 0, 0, 18, 8, 0, 0, 3] (env.tx 0)
  dsimp only
  generalize Bridge.sendMavlinkV2 .heartbeat _ _ s = sent at sends ⊢
  generalize Bridge.sendMavlinkV2 .heartbeat _ _ (s.diagnosed d) = sent' at sends ⊢
  have ⟨status, sent⟩ := sends
  have noted := sent.map (fun sent => { sent with lastHeartbeatTxMs := nowMs })
    ⟨fun _ _ => rfl, fun _ => rfl⟩
  exact .ite (by rw [status]) (fun _ => noted) fun _ => sent

/-- The streams are asked for on both sides, up to the same one. -/
theorem requestIntervals (env : Env) (index : Nat) (streams : List (UInt32 × UInt32))
    (same : Agree s s') :
    (Bridge.requestIntervals env index streams s).1 =
        (Bridge.requestIntervals env index streams s').1 ∧
      Agree (Bridge.requestIntervals env index streams s).2
        (Bridge.requestIntervals env index streams s').2 := by
  induction streams generalizing index s s' with
  | nil => exact ⟨rfl, same⟩
  | cons stream rest later =>
    have ⟨d, equal, _⟩ := same.diagnosed
    subst equal
    have sends : (requestMessageInterval stream.1 stream.2 (env.tx index) s).1 =
          (requestMessageInterval stream.1 stream.2 (env.tx index) (s.diagnosed d)).1 ∧
        Agree (requestMessageInterval stream.1 stream.2 (env.tx index) s).2
          (requestMessageInterval stream.1 stream.2 (env.tx index) (s.diagnosed d)).2 :=
      same.sendMavlinkV2 _ _ _
    rw [Bridge.requestIntervals, Bridge.requestIntervals]
    generalize requestMessageInterval stream.1 stream.2 (env.tx index) s = sent at sends ⊢
    generalize requestMessageInterval stream.1 stream.2 (env.tx index) (s.diagnosed d) = sent'
      at sends ⊢
    have ⟨status, sent⟩ := sends
    dsimp only
    rw [status]
    split
    · exact later (index + 1) sent
    · exact ⟨rfl, .sendEvent sent⟩

/-- The state messages are asked for on both sides. -/
theorem requestTelemetryStreams (env : Env) (same : Agree s s') :
    Agree (Bridge.requestTelemetryStreams env s) (Bridge.requestTelemetryStreams env s') := by
  have ⟨d, equal, _⟩ := same.diagnosed
  subst equal
  unfold Bridge.requestTelemetryStreams
  extract_lets target asked config target' asked' config'
  have configs : config' = config := rfl
  rw [configs]
  refine .ite Iff.rfl (fun _ => same) fun _ => ?_
  have asks : Agree asked asked' := .sendEvent same
  have sends := asks.requestIntervals env 0
    [(MessageKind.attitude.id, config.attitudeIntervalUs),
      (MessageKind.localPositionNed.id, config.localPositionIntervalUs),
      (MessageKind.globalPositionInt.id, config.globalPositionIntervalUs),
      (MessageKind.gpsRawInt.id, config.gpsRawIntervalUs),
      (MessageKind.ekfStatusReport.id, config.ekfStatusIntervalUs),
      (MessageKind.sysTime.id, 1000000)]
  generalize Bridge.requestIntervals env 0 _ asked = sent at sends ⊢
  generalize Bridge.requestIntervals env 0 _ asked' = sent' at sends ⊢
  have ⟨complete, sent⟩ := sends
  have noted := sent.map (fun sent => { sent with lastStreamRequestMs := env.timeMs })
    ⟨fun _ _ => rfl, fun _ => rfl⟩
  exact .ite (by rw [complete]) (fun _ => .sendEvent noted) fun _ => sent

/-- The streams are serviced on both sides. -/
theorem serviceStreams (nowMs : UInt32) (env : Env) (same : Agree s s') :
    Agree (Bridge.serviceStreams nowMs env s) (Bridge.serviceStreams nowMs env s') := by
  have ⟨d, equal, _⟩ := same.diagnosed
  subst equal
  have pending := same.map (fun s => { s with streamRequestPending := true })
    ⟨fun _ _ => rfl, fun _ => rfl⟩
  have missing := same.map (fun s => { s with targetDiscoveryStartMs := nowMs })
    ⟨fun _ _ => rfl, fun _ => rfl⟩
  exact .ite Iff.rfl (fun _ => pending.requestTelemetryStreams env) fun _ =>
    .ite Iff.rfl (fun _ => .sendEvent missing) fun _ => same

/-- Bytes are noted on both sides. -/
theorem noteBytes (length : Nat) (nowMs : UInt32) (same : Agree s s') :
    Agree (Bridge.noteBytes length nowMs s) (Bridge.noteBytes length nowMs s') := by
  have noted := same.map (fun s => { s with
    lastRxTimestampMs := nowMs
    bytesReceived := s.bytesReceived + UInt32.ofNat length }) ⟨fun _ _ => rfl, fun _ => rfl⟩
  exact noted

/-- The published state is marked on both sides. -/
theorem markOutputsStale (same : Agree s s') (code : ErrorCode) :
    Agree (Bridge.markOutputsStale { s with lastErrorCode := code })
      (Bridge.markOutputsStale { s' with lastErrorCode := code }) :=
  same.map Bridge.markOutputsStale ⟨fun _ _ => rfl, fun _ => rfl⟩

/-- The link is degraded on both sides. -/
theorem checkStale (nowMs : UInt32) (env : Env) (same : Agree s s') :
    Agree (Bridge.checkStale nowMs env s) (Bridge.checkStale nowMs env s') := by
  have ⟨d, equal, _⟩ := same.diagnosed
  subst equal
  have marked := same.markOutputsStale .readTimeout
  exact .ite Iff.rfl (fun _ => marked.setLinkState .degraded env) fun _ => same

/-- The port is closed on both sides. -/
theorem failRead (errno : Nat) (env : Env) (same : Agree s s') :
    Agree (Bridge.failRead errno env s) (Bridge.failRead errno env s') := by
  have lost := (same.markOutputsStale .linkDown).setLinkState .disconnected env
  exact lost.map closeSerial ⟨fun _ _ => rfl, fun _ => rfl⟩

/-- Whatever happens, states that agree are taken to states that agree. -/
theorem step (input : Input) (same : Agree s s') :
    Agree (Bridge.step s input) (Bridge.step s' input) := by
  cases input with
  | routeUpdate msg env => exact same.startMissionUpload env msg
  | missionQuery env => exact same.missionQuery env
  | command command => exact same.handleCommand command
  | invalidCommand defect => exact .sendEvent same.countError
  | config cmd saved => exact same.processConfigCommand saved cmd
  | setFlightMode cmd env => exact same.processSetFlightModeCmd env cmd
  | reportHousekeeping => exact same.reportHousekeeping
  | serialReconnect path result env => exact same.serialReconnect path result env
  | reconnect nowMs path result env => exact same.reconnect nowMs path result env
  | companionHeartbeat nowMs env => exact same.sendCompanionHeartbeat nowMs env
  | serviceStreams nowMs env => exact same.serviceStreams nowMs env
  | checkUpload nowMs env => exact same.checkMissionUploadTimeout nowMs env
  | checkDownload nowMs => exact same.checkMissionDownloadTimeout nowMs
  | retryReadback nowMs env => exact same.retryReadback nowMs env
  | bytes length nowMs => exact same.noteBytes length nowMs
  | frame frame rxTimestampMs env => exact same.handleFrameComplete env frame rxTimestampMs
  | checkStale nowMs env => exact same.checkStale nowMs env
  | readFailure errno env => exact same.failRead errno env

end Agree

end CfsTelemetry.Bridge
