import CfsTelemetry.Library.Noninterference
import CfsTelemetry.Bridge.Agreement
import CfsTelemetry.Bridge.Liveness

/-!
# Frames of other systems

Only heartbeats are checked for the system that sends them. A frame of another system that the
bridge acts on is taken for one of the target; any other frame of another system changes the
diagnostics of the bridge and nothing else, at whatever moment it comes.
-/
namespace CfsTelemetry.Bridge

open Framing Noninterference Run

/-- Whether a frame with a right checksum changes the state but for its diagnostics when another
system than the target sends it. -/
def RxFrame.actedOn (frame : RxFrame) (s : State) : Bool :=
  frame.isTelemetry ∨ frame.valid .missionCurrent ∨
    ((frame.valid .missionRequestInt ∨ frame.valid .missionRequest) ∧ answersRequest frame s) ∨
    (frame.valid .missionAck ∧ s.missionUploadState = .active) ∨
    (frame.valid .missionCount ∧ s.missionDownloadState = .waitCount) ∨
    (frame.msgId = MessageKind.missionItemInt.id ∧ frame.checks .missionItemInt ∧
      frame.payloadLen ≥ 32 ∧ s.missionDownloadState = .waitItem)

/-- A heartbeat of another system changes nothing. -/
theorem handleHeartbeat_foreign (env : Env) {frame : RxFrame} (rxTimestampMs : UInt32) {s : State}
    (locked : s.targetSystemId ≠ 0) (other : frame.sysId ≠ s.targetSystemId) :
    Agree (handleHeartbeat env frame rxTimestampMs s) s := by
  have stays : lockTarget frame s = s := if_neg fun first => locked first.1
  unfold handleHeartbeat
  by_cases checks : frame.checks .heartbeat = true
  · rw [if_pos checks, stays]
    dsimp only
    rw [if_neg other]
    rfl
  · rw [if_neg checks]
    rfl

/-- A frame of another system that is not acted on leaves a state that agrees with the one
before it. -/
theorem handleFrameComplete_foreign (env : Env) {frame : RxFrame} (rxTimestampMs : UInt32)
    {s : State} (locked : s.targetSystemId ≠ 0) (other : frame.sysId ≠ s.targetSystemId)
    (ignored : frame.actedOn s = false) :
    Agree (handleFrameComplete env frame rxTimestampMs s) s := by
  have ignored := of_decide_eq_false ignored
  simp only [not_or] at ignored
  have ⟨noTelemetry, noCurrent, noRequest, noAck, noCount, noItem⟩ := ignored
  have handles := handleFrameComplete_handles env frame rxTimestampMs s
  generalize handleFrameComplete env frame rxTimestampMs s = after at handles ⊢
  cases handles with
  | nothing => rfl
  | heartbeat own => exact handleHeartbeat_foreign env rxTimestampMs locked other
  | commandAck own => exact Agree.handleCommandAck_self frame s
  | telemetry listed own =>
    rename_i kind publish
    have kinds : telemetryHandlers.map Prod.fst = stateKinds := rfl
    have among : kind ∈ stateKinds := kinds ▸ List.mem_map_of_mem listed
    have fails : ¬ frame.checks kind = true := fun checks =>
      noTelemetry (List.any_eq_true.mpr ⟨kind, among, decide_eq_true ⟨own, checks⟩⟩)
    rw [handleTelemetry, if_neg fails]
    rfl
  | missionCurrent own =>
    rw [handleMissionCurrent, if_neg fun taken => noCurrent (decide_eq_true ⟨own, taken⟩)]
    rfl
  | missionRequestInt own =>
    unfold handleMissionRequestInt
    by_cases taken : frame.checks .missionRequestInt = true ∧ frame.payloadLen ≥ 2
    · have asks : frame.valid .missionRequestInt = true := decide_eq_true ⟨own, taken⟩
      rw [if_pos taken, if_neg fun answers => noRequest ⟨.inl asks, answers⟩]
      rfl
    · rw [if_neg taken]
      rfl
  | missionRequest own =>
    unfold handleMissionRequest
    dsimp only
    by_cases taken : frame.checks .missionRequest = true ∧ frame.payloadLen ≥ 2
    · have asks : frame.valid .missionRequest = true := decide_eq_true ⟨own, taken⟩
      rw [if_pos taken, if_neg fun answers => noRequest ⟨.inr asks, answers⟩]
      rfl
    · rw [if_neg taken]
      rfl
  | missionAck own =>
    unfold handleMissionAck
    by_cases taken : frame.checks .missionAck = true ∧ frame.payloadLen ≥ 2
    · have acknowledges : frame.valid .missionAck = true := decide_eq_true ⟨own, taken⟩
      rw [if_pos taken, if_neg fun active => noAck ⟨acknowledges, active⟩]
      rfl
    · rw [if_neg taken]
      rfl
  | missionCount own waiting =>
    have short : ¬ (frame.checks .missionCount = true ∧ frame.payloadLen ≥ 2) := fun taken =>
      noCount ⟨decide_eq_true ⟨own, taken⟩, waiting⟩
    rw [handleMissionCount, if_neg short]
    rfl
  | missionItemInt own waiting =>
    have short : ¬ (frame.checks .missionItemInt = true ∧ frame.payloadLen ≥ 32) := fun taken =>
      noItem ⟨own, taken.1, taken.2, waiting⟩
    rw [handleMissionItemInt, if_neg short]
    rfl

/-- Something that comes to the bridge: an input, a byte of the line, or bytes of the line that
another system sends. -/
inductive Arrival where
  | input (input : Input)
  | byte (byte : UInt8) (rxTimestampMs : UInt32) (env : Env)
  | foreign (bytes : List UInt8) (rxTimestampMs : UInt32) (env : Env)

/-- Whether it does not come from another system. -/
def Arrival.own : Arrival → Bool
  | .foreign _ _ _ => false
  | _ => true

/-- Take what comes, with the parser of the line. -/
def arrive (line : Parser × State) : Arrival → Parser × State
  | .input input => (line.1, step line.2 input)
  | .byte byte rxTimestampMs env => processReceivedByte env rxTimestampMs line byte
  | .foreign bytes rxTimestampMs env => bytes.foldl (processReceivedByte env rxTimestampMs) line

/-- Bytes are a complete frame of another system than the locked target, with the right checksum
for its message. -/
structure Foreign (line : Parser × State) (bytes : List UInt8) (frame : RxFrame) : Prop where
  waiting : line.1.state = .waitStx
  complete : feed parseByte line.1 bytes = (resetParser, [.frame frame])
  valid : ∀ kind ∈ knownKinds, frame.msgId = kind.id → frame.checks kind = true
  locked : line.2.targetSystemId ≠ 0
  other : frame.sysId ≠ line.2.targetSystemId

/-- Parsers that take the bytes of the line alike. -/
def Alike (p p' : Parser) : Prop := p = p' ∨ (p.state = .waitStx ∧ p'.state = .waitStx)

/-- Alike parsers complete the same items and stay alike. -/
theorem Alike.parseByte {p p' : Parser} (alike : Alike p p') (byte : UInt8) :
    Alike (Bridge.parseByte p byte).1 (Bridge.parseByte p' byte).1 ∧
      (Bridge.parseByte p byte).2 = (Bridge.parseByte p' byte).2 := by
  rcases alike with same | ⟨waiting, waiting'⟩
  · rw [same]
    exact ⟨.inl rfl, rfl⟩
  · unfold Bridge.parseByte
    rw [waiting, waiting']
    dsimp only
    split
    · exact ⟨.inl rfl, rfl⟩
    · split
      · exact ⟨.inl rfl, rfl⟩
      · exact ⟨.inr ⟨waiting, waiting'⟩, rfl⟩

/-- Items are handled on both sides. -/
theorem Agree.handleItems {s s' : State} (same : Agree s s') (env : Env) (rxTimestampMs : UInt32)
    (items : List ParseItem) :
    Agree (items.foldl (handleItem env rxTimestampMs) s)
      (items.foldl (handleItem env rxTimestampMs) s') := by
  induction items generalizing s s' with
  | nil => exact same
  | cons item rest later =>
    apply later
    cases item with
    | frame frame => exact same.handleFrameComplete env frame rxTimestampMs
    | parseError => exact same.recordParseError

/-- What comes from another system is a frame that is not acted on. -/
def Harmless (line : Parser × State) (arrival : Arrival) : Prop :=
  ∀ bytes rxTimestampMs env, arrival = .foreign bytes rxTimestampMs env →
    ∃ frame, Foreign line bytes frame ∧ frame.actedOn line.2 = false

/-- What is not acted on is not seen in states that agree behind parsers that are alike. -/
theorem arrive_unwinds :
    Unwinds arrive Arrival.own Harmless fun line line' =>
      Alike line.1 line'.1 ∧ Agree line.2 line'.2 where
  own_step := by
    intro line line' arrival own same
    have ⟨alike, agree⟩ := same
    cases arrival with
    | foreign bytes rxTimestampMs env => cases own
    | input input => exact ⟨alike, agree.step input⟩
    | byte byte rxTimestampMs env =>
      have ⟨stays, items⟩ := alike.parseByte byte
      refine ⟨stays, ?_⟩
      show Agree ((parseByte line.1 byte).2.foldl _ line.2)
        ((parseByte line'.1 byte).2.foldl _ line'.2)
      rw [items]
      exact agree.handleItems env rxTimestampMs _
  other_step := by
    intro line line' arrival other harmless same
    have ⟨alike, agree⟩ := same
    cases arrival with
    | input input => cases other
    | byte byte rxTimestampMs env => cases other
    | foreign bytes rxTimestampMs env =>
      have ⟨frame, foreign, ignored⟩ := harmless bytes rxTimestampMs env rfl
      have waiting' : line'.1.state = .waitStx := by
        rcases alike with equal | both
        · rw [← equal]
          exact foreign.waiting
        · exact both.2
      have taken : arrive line (.foreign bytes rxTimestampMs env) =
          (resetParser, handleFrameComplete env frame rxTimestampMs line.2) := by
        rw [arrive, foldl_processReceivedByte, foreign.complete]
        rfl
      rw [taken]
      exact ⟨.inr ⟨rfl, waiting'⟩, (handleFrameComplete_foreign env rxTimestampMs foreign.locked
        foreign.other ignored).trans agree⟩

/-! ## Runs -/

/-- Complete frames of other systems than the locked target leave no trace but in the diagnostics,
whenever they come, as long as none of them is one that the bridge acts on. Of all handlers only
that of the heartbeat looks at the sender. -/
theorem foreign_frames_harmless (line : Parser × State) (arrivals : List Arrival)
    (harmless : Each (fun before arrival => Harmless (run arrive line before) arrival) arrivals) :
    Agree (run arrive line arrivals).2 (run arrive line (arrivals.filter Arrival.own)).2 := by
  have start : Alike line.1 line.1 ∧ Agree line.2 line.2 := ⟨.inl rfl, rfl⟩
  have each : Each (fun before arrival => Arrival.own arrival = false →
      Harmless (run arrive line before) arrival) arrivals := by
    intro before arrival after split _
    exact harmless before arrival after split
  exact (arrive_unwinds.run start each).2

/-- A frame of system 42. -/
def otherFrame (kind : MessageKind) (payload : List UInt8)
    (fits : payload.length ≤ maxPayloadLen) (named : kind.id.toNat < 2 ^ 24) : WireFrame where
  isV2 := true
  seq := 0
  sysId := 42
  compId := 100
  msgId := kind.id
  payload := payload
  crcExtra := kind.crcExtra
  fits := fits
  named := named

/-- The line of a bridge that is connected to system 1. -/
def connectedLine : Parser × State :=
  (resetParser, run step (initialState ConfigParams.default) connection)

/-- The heartbeat of a camera. -/
def cameraHeartbeat : WireFrame :=
  otherFrame .heartbeat [0, 0, 0, 0, 30, 8, 0x80, 4, 3] (by decide) heartbeat_named

/-- An acknowledgement that a ground station gets. -/
def otherAck : WireFrame := otherFrame .missionAck [1, 1, 0, 0] (by decide) (by decide)

/-- The current item of another vehicle. -/
def otherCurrent : WireFrame := otherFrame .missionCurrent [7, 0] (by decide) (by decide)

/-- The heartbeat of a camera before a current item, and an acknowledgement for a ground station
after it, leave no trace on a connected bridge. -/
theorem foreign_frames_harmless_camera :
    Agree
      (run arrive connectedLine
        [.foreign cameraHeartbeat.bytes 1300 (Env.at 1300),
          .input (received .missionCurrent [3, 0] 1400),
          .foreign otherAck.bytes 1500 (Env.at 1500)]).2
      (run arrive connectedLine
        [.input (received .missionCurrent [3, 0] 1400)]).2 := by
  refine foreign_frames_harmless connectedLine _ ?_
  rw [each_cons, each_cons, each_cons]
  refine ⟨?_, nofun, ?_, each_nil⟩
  · intro bytes rxTimestampMs env same
    cases same
    refine ⟨cameraHeartbeat.received, ⟨rfl, feed_frame cameraHeartbeat rfl, ?_, ?_, ?_⟩, ?_⟩
    all_goals decide +kernel
  · intro bytes rxTimestampMs env same
    cases same
    refine ⟨otherAck.received, ⟨?_, ?_, ?_, ?_, ?_⟩, ?_⟩
    · decide +kernel
    · apply feed_frame otherAck
      decide +kernel
    all_goals decide +kernel

/-- The bridge resumes at the current item of another vehicle: not every frame of another system
leaves no trace. -/
theorem foreign_current_taken : ¬ ∀ (line : Parser × State) (arrivals : List Arrival),
    Each (fun before arrival => ∀ bytes rxTimestampMs env,
      arrival = .foreign bytes rxTimestampMs env →
        ∃ frame, Foreign (run arrive line before) bytes frame) arrivals →
      (run arrive line arrivals).2.activeResumeIndex =
        (run arrive line (arrivals.filter Arrival.own)).2.activeResumeIndex := by
  intro always
  have same := always connectedLine [.foreign otherCurrent.bytes 1300 (Env.at 1300)] (by
    rw [each_cons]
    refine ⟨?_, each_nil⟩
    intro bytes rxTimestampMs env same
    cases same
    refine ⟨otherCurrent.received, rfl, feed_frame otherCurrent rfl, ?_, ?_, ?_⟩
    all_goals decide +kernel)
  revert same
  decide +kernel

end CfsTelemetry.Bridge
