import Mathlib.Data.List.DropRight
import CfsTelemetry.Bridge.Link
import CfsTelemetry.Bridge.Parser

/-!
# Payloads without their trailing zeros

A sender of version 2 leaves out the zeros that a payload ends with, but for its first byte. The
decoders read zeros after the last byte, so a shorter frame says the same; but most handlers take
frames of some length only. A frame whose payload has nothing but zeros from the last byte of that
length on is refused when it is sent without them.
-/
namespace CfsTelemetry.Bridge

/-- As many elements are kept of a list as there are up to its last one of another kind. -/
theorem lt_length_rdropWhile {α : Type} (p : α → Bool) (list : List α) (count : Nat) :
    count < (list.rdropWhile p).length ↔ ∃ element ∈ list.drop count, ¬ p element = true := by
  have whole : list.rdropWhile p ++ list.rtakeWhile p = list := List.rdropWhile_append_rtakeWhile
  have split : list.drop count = (list.rdropWhile p).drop count ++
      (list.rtakeWhile p).drop (count - (list.rdropWhile p).length) := by
    rw [← List.drop_append, whole]
  rw [split]
  constructor
  · intro inside
    have some : list.rdropWhile p ≠ [] := List.ne_nil_of_length_pos (by omega)
    refine ⟨(list.rdropWhile p).getLast some, ?_, List.rdropWhile_last_not p list some⟩
    apply List.mem_append_left
    have rest : (list.rdropWhile p).drop count ≠ [] := by
      rw [ne_eq, List.drop_eq_nil_iff]
      omega
    rw [← List.getLast_drop rest]
    exact List.getLast_mem rest
  · intro ⟨element, among, other⟩
    by_contra past
    rw [List.drop_eq_nil_of_le (by omega), List.nil_append] at among
    exact other (List.mem_rtakeWhile_imp (List.mem_of_mem_drop among))

/-- A payload without the zeros that it ends with, down to its first byte. -/
def trimmed : List UInt8 → List UInt8
  | [] => []
  | first :: rest => first :: rest.rdropWhile (· = 0)

/-- A list is what is kept of it, followed by zeros. -/
theorem trimmed_append (payload : List UInt8) :
    ∃ zeros, payload = trimmed payload ++ zeros ∧ ∀ byte ∈ zeros, byte = 0 := by
  cases payload with
  | nil => exact ⟨[], rfl, nofun⟩
  | cons first rest =>
    refine ⟨rest.rtakeWhile (· = 0), ?_, ?_⟩
    · rw [trimmed, List.cons_append, List.rdropWhile_append_rtakeWhile]
    · intro byte among
      have zero := List.mem_rtakeWhile_imp among
      exact of_decide_eq_true zero

/-- The bytes of a payload are those of what is kept of it. -/
theorem payloadByte_trimmed (payload : List UInt8) :
    payloadByte (trimmed payload) = payloadByte payload := by
  have ⟨zeros, whole, all⟩ := trimmed_append payload
  generalize trimmed payload = kept at whole ⊢
  rw [whole, payloadByte_append_zeros all]

/-- What is kept of a payload is no longer than it. -/
theorem length_trimmed_le (payload : List UInt8) :
    (trimmed payload).length ≤ payload.length := by
  have ⟨zeros, whole, _⟩ := trimmed_append payload
  have lengths := congrArg List.length whole
  rw [List.length_append] at lengths
  omega

/-- Whether a payload has a byte other than zero from the last byte of a length on. A sender leaves
out the zeros at the end of a payload, and what is left is all that a handler sees the length of. -/
def Reaches (least : Nat) (payload : List UInt8) : Prop :=
  least ≤ 1 ∨ ∃ byte ∈ payload.drop (least - 1), byte ≠ 0

/-- As much as a length is kept of a payload when it reaches it. -/
theorem le_length_trimmed {payload : List UInt8} (some : payload ≠ []) (least : Nat) :
    least ≤ (trimmed payload).length ↔ Reaches least payload := by
  cases payload with
  | nil => exact absurd rfl some
  | cons first rest =>
    rw [Reaches, trimmed, List.length_cons]
    by_cases single : least ≤ 1
    · exact iff_of_true (by omega) (.inl single)
    · have kept := lt_length_rdropWhile (· = 0) rest (least - 2)
      have next : least - 1 = least - 2 + 1 := by omega
      rw [next, List.drop_succ_cons, or_iff_right single]
      simp only [decide_eq_true_eq] at kept
      rw [← kept]
      omega

/-- The frame without the trailing zeros of its payload. -/
def WireFrame.truncated (frame : WireFrame) : WireFrame :=
  { frame with
    payload := trimmed frame.payload
    fits := Nat.le_trans (length_trimmed_le frame.payload) frame.fits }

/-- Two frames of a message with right checksums, from the same sender, with the same bytes for
every read. -/
structure SaysSame (kind : MessageKind) (frame frame' : RxFrame) : Prop where
  reads : payloadByte frame.payload = payloadByte frame'.payload
  sysId : frame.sysId = frame'.sysId
  compId : frame.compId = frame'.compId
  own : frame.msgId = kind.id
  own' : frame'.msgId = kind.id
  checks : frame.checks kind = true
  checks' : frame'.checks kind = true

/-- A frame and the one without its trailing zeros say the same. -/
theorem WireFrame.truncated_says (frame : WireFrame) {kind : MessageKind}
    (own : frame.msgId = kind.id) (constant : frame.crcExtra = kind.crcExtra) :
    SaysSame kind frame.truncated.received frame.received where
  reads := payloadByte_trimmed frame.payload
  sysId := rfl
  compId := rfl
  own := own
  own' := own
  checks := frame.truncated.received_checks constant
  checks' := frame.received_checks constant

section

variable {payload payload' : List UInt8}

/-- Words are read as bytes are. -/
theorem readU16LE_congr (reads : payloadByte payload = payloadByte payload') :
    readU16LE payload = readU16LE payload' := by
  funext offset
  rw [readU16LE, reads, readU16LE]

theorem readU32LE_congr (reads : payloadByte payload = payloadByte payload') :
    readU32LE payload = readU32LE payload' := by
  funext offset
  rw [readU32LE, reads, readU32LE]

theorem readU64LE_congr (reads : payloadByte payload = payloadByte payload') :
    readU64LE payload = readU64LE payload' := by
  funext offset
  rw [readU64LE, readU32LE_congr reads, readU64LE]

theorem sixFloats_congr (reads : payloadByte payload = payloadByte payload') :
    sixFloats payload = sixFloats payload' := by
  rw [sixFloats, readU32LE_congr reads, sixFloats]

theorem speedCms_congr (reads : payloadByte payload = payloadByte payload') :
    speedCms payload = speedCms payload' := by
  funext offset
  rw [speedCms, readU16LE_congr reads, speedCms]

/-- So are the waypoints of items. -/
theorem itemWaypoint_congr (reads : payloadByte payload = payloadByte payload') :
    itemWaypoint payload = itemWaypoint payload' := by
  rw [itemWaypoint, readU16LE_congr reads, readU32LE_congr reads, itemWaypoint]

end

/-! ## The handlers -/

section

variable {frame frame' : RxFrame} (env : Env) (rxTimestampMs : UInt32) (s : State)

/-- A heartbeat. -/
theorem handleHeartbeat_congr (same : SaysSame .heartbeat frame frame') :
    handleHeartbeat env frame rxTimestampMs s = handleHeartbeat env frame' rxTimestampMs s := by
  have locked : lockTarget frame s = lockTarget frame' s := by
    rw [lockTarget, same.reads, same.sysId, same.compId, lockTarget]
  simp only [handleHeartbeat, same.checks, same.checks', same.reads, same.sysId, locked, if_true]

/-- The answer to a command. -/
theorem handleCommandAck_congr (same : SaysSame .commandAck frame frame')
    (long : frame.payloadLen ≥ 3) (long' : frame'.payloadLen ≥ 3) :
    handleCommandAck frame s = handleCommandAck frame' s := by
  simp only [handleCommandAck, same.checks, same.checks', long, long', same.reads,
    readU16LE_congr same.reads, and_self, if_true]

/-- A state message, when it is published in the same way. -/
theorem handleTelemetry_congr {kind : MessageKind}
    {publish : RxFrame → UInt32 → State → State} (same : SaysSame kind frame frame')
    (publishes : ∀ s, publish frame rxTimestampMs s = publish frame' rxTimestampMs s) :
    handleTelemetry kind publish env frame rxTimestampMs s =
      handleTelemetry kind publish env frame' rxTimestampMs s := by
  rw [handleTelemetry, if_pos same.checks, handleTelemetry, if_pos same.checks', publishes]

/-- Whether a request is answered. -/
theorem answersRequest_congr (reads : payloadByte frame.payload = payloadByte frame'.payload) :
    answersRequest frame s = answersRequest frame' s := by
  rw [answersRequest, readU16LE_congr reads, answersRequest]

/-- A request for an item. -/
theorem handleMissionRequestInt_congr (same : SaysSame .missionRequestInt frame frame')
    (long : frame.payloadLen ≥ 2) (long' : frame'.payloadLen ≥ 2) :
    handleMissionRequestInt env frame rxTimestampMs s =
      handleMissionRequestInt env frame' rxTimestampMs s := by
  simp only [handleMissionRequestInt, answersRequest_congr s same.reads, same.checks, same.checks',
    long, long', readU16LE_congr same.reads, and_self, if_true]

/-- A mission acknowledgement. -/
theorem handleMissionAck_congr (same : SaysSame .missionAck frame frame')
    (result : ackResult frame = ackResult frame')
    (long : frame.payloadLen ≥ 2) (long' : frame'.payloadLen ≥ 2) :
    handleMissionAck env frame rxTimestampMs s = handleMissionAck env frame' rxTimestampMs s := by
  simp only [handleMissionAck, same.checks, same.checks', long, long', result, and_self, if_true]

/-- The item count of a download. -/
theorem handleMissionCount_congr (same : SaysSame .missionCount frame frame')
    (long : frame.payloadLen ≥ 2) (long' : frame'.payloadLen ≥ 2) :
    handleMissionCount env frame rxTimestampMs s =
      handleMissionCount env frame' rxTimestampMs s := by
  simp only [handleMissionCount, same.checks, same.checks', long, long',
    readU16LE_congr same.reads, and_self, if_true]

/-- An item of a download. -/
theorem handleMissionItemInt_congr (same : SaysSame .missionItemInt frame frame')
    (long : frame.payloadLen ≥ 32) (long' : frame'.payloadLen ≥ 32) :
    handleMissionItemInt env frame rxTimestampMs s =
      handleMissionItemInt env frame' rxTimestampMs s := by
  have seq : itemSeq frame.payload = itemSeq frame'.payload := by
    rw [itemSeq, readU16LE_congr same.reads, itemSeq]
  have valid : frame.checks .missionItemInt = true ∧ frame.payloadLen ≥ 32 :=
    ⟨same.checks, long⟩
  have valid' : frame'.checks .missionItemInt = true ∧ frame'.payloadLen ≥ 32 :=
    ⟨same.checks', long'⟩
  unfold handleMissionItemInt
  rw [if_pos valid, if_pos valid', itemWaypoint_congr same.reads, readU16LE_congr same.reads, seq]

/-- The current item. -/
theorem handleMissionCurrent_congr (same : SaysSame .missionCurrent frame frame')
    (long : frame.payloadLen ≥ 2) (long' : frame'.payloadLen ≥ 2) :
    handleMissionCurrent env frame rxTimestampMs s =
      handleMissionCurrent env frame' rxTimestampMs s := by
  simp only [handleMissionCurrent, currentIndex, same.checks, same.checks', long, long',
    readU16LE_congr same.reads, and_self, if_true]

/-! What is published of a state message depends on the bytes that are read, once its length is
one that is taken. -/

/-- An attitude. -/
theorem publishAttitude_congr (reads : payloadByte frame.payload = payloadByte frame'.payload)
    (short : ¬ frame.payloadLen > 28) (short' : ¬ frame'.payloadLen > 28) :
    publishAttitude frame rxTimestampMs s = publishAttitude frame' rxTimestampMs s := by
  unfold publishAttitude
  rw [if_neg short, if_neg short', sixFloats_congr reads, readU32LE_congr reads]

/-- A local position. -/
theorem publishEkfLocal_congr (reads : payloadByte frame.payload = payloadByte frame'.payload)
    (short : ¬ frame.payloadLen > 28) (short' : ¬ frame'.payloadLen > 28) :
    publishEkfLocal frame rxTimestampMs s = publishEkfLocal frame' rxTimestampMs s := by
  unfold publishEkfLocal
  rw [if_neg short, if_neg short', sixFloats_congr reads, readU32LE_congr reads]

/-- A global position. -/
theorem publishGlobalPositionAsLocal_congr
    (reads : payloadByte frame.payload = payloadByte frame'.payload)
    (short : ¬ frame.payloadLen > 28) (short' : ¬ frame'.payloadLen > 28) :
    publishGlobalPositionAsLocal frame rxTimestampMs s =
      publishGlobalPositionAsLocal frame' rxTimestampMs s := by
  unfold publishGlobalPositionAsLocal
  rw [if_neg short, if_neg short', readU32LE_congr reads, speedCms_congr reads]

/-- A satellite fix. -/
theorem publishGpsRaw_congr (reads : payloadByte frame.payload = payloadByte frame'.payload)
    (long : ¬ frame.payloadLen < 30) (long' : ¬ frame'.payloadLen < 30) :
    publishGpsRaw frame rxTimestampMs s = publishGpsRaw frame' rxTimestampMs s := by
  unfold publishGpsRaw
  rw [if_neg long, if_neg long', reads, readU32LE_congr reads, readU64LE_congr reads]

/-- The state of the estimator. -/
theorem publishEkfStatus_congr (reads : payloadByte frame.payload = payloadByte frame'.payload)
    (long : ¬ frame.payloadLen < 21) (long' : ¬ frame'.payloadLen < 21) :
    publishEkfStatus frame rxTimestampMs s = publishEkfStatus frame' rxTimestampMs s := by
  unfold publishEkfStatus
  rw [if_neg long, if_neg long', readU16LE_congr reads]

/-- The time. -/
theorem handleSysTime_congr (reads : payloadByte frame.payload = payloadByte frame'.payload)
    (short : ¬ frame.payloadLen > 12) (short' : ¬ frame'.payloadLen > 12) :
    handleSysTime frame rxTimestampMs s = handleSysTime frame' rxTimestampMs s := by
  unfold handleSysTime
  rw [if_neg short, if_neg short', readU64LE_congr reads]

/-- The state without its log. -/
def State.unlogged (s : State) : State := { s with events := [] }

/-- Sending a frame has the same effect whatever was logged before. -/
theorem sendMavlinkV2_unlogged (kind : MessageKind) (payload : List UInt8)
    (fault : Option TxFault) (events : List Event) (s : State) :
    (sendMavlinkV2 kind payload fault { s with events := events }).2.unlogged =
      (sendMavlinkV2 kind payload fault s).2.unlogged := by
  unfold sendMavlinkV2
  split
  · rfl
  · split
    · rfl
    · cases fault with
      | none => rfl
      | some fault => rfl

/-- A legacy request for an item, but for the length that is logged. -/
theorem handleMissionRequest_congr (same : SaysSame .missionRequest frame frame')
    (long : frame.payloadLen ≥ 2) (long' : frame'.payloadLen ≥ 2) :
    (handleMissionRequest env frame rxTimestampMs s).unlogged =
      (handleMissionRequest env frame' rxTimestampMs s).unlogged := by
  have answered : ∀ (seq : UInt8) (deadlineMs : UInt32) (type : EventType) (text : String),
      (sendMissionItem seq (env.tx 0)
        (awaitRequest deadlineMs (sendEvent .missionUploadInf type text s))).unlogged =
      (sendMissionItem seq (env.tx 0) (awaitRequest deadlineMs s)).unlogged :=
    fun seq deadlineMs type text => sendMavlinkV2_unlogged _ _ _ _ (awaitRequest deadlineMs s)
  have valid : frame.checks .missionRequest = true ∧ frame.payloadLen ≥ 2 := ⟨same.checks, long⟩
  have valid' : frame'.checks .missionRequest = true ∧ frame'.payloadLen ≥ 2 :=
    ⟨same.checks', long'⟩
  unfold handleMissionRequest
  dsimp only
  rw [if_pos valid, if_pos valid', answersRequest_congr s same.reads, readU16LE_congr same.reads]
  split
  · rw [answered, answered]
  · rfl

end

/-- A handled message with its lengths. -/
structure Layout where
  kind : MessageKind
  /-- Bytes of the fields of the message. -/
  length : Nat
  /-- Whether fields may be added after them. -/
  extensible : Bool
  /-- Bytes without which a frame is refused. -/
  least : Nat

/-- The messages that a complete frame is handled as. -/
def layouts : List Layout :=
  [⟨.heartbeat, 9, false, 9⟩, ⟨.commandAck, 3, true, 3⟩, ⟨.attitude, 28, false, 0⟩,
    ⟨.localPositionNed, 28, false, 0⟩, ⟨.globalPositionInt, 28, false, 0⟩,
    ⟨.gpsRawInt, 30, true, 30⟩, ⟨.ekfStatusReport, 22, true, 21⟩, ⟨.sysTime, 12, false, 0⟩,
    ⟨.missionRequestInt, 4, true, 2⟩, ⟨.missionRequest, 4, true, 2⟩, ⟨.missionAck, 3, true, 2⟩,
    ⟨.missionCount, 4, true, 2⟩, ⟨.missionItemInt, 37, true, 32⟩, ⟨.missionCurrent, 2, true, 2⟩]

/-- Whether a payload of so many bytes has all fields of the message. -/
def Layout.Full (layout : Layout) (length : Nat) : Prop :=
  layout.length ≤ length ∧ (layout.extensible = false → length = layout.length)

/-! ## Frames that are long enough -/

/-- What two frames come to: the same but for the log, and all the same unless the log tells the
length. -/
def SameEffect (kind : MessageKind) (s s' : State) : Prop :=
  s.unlogged = s'.unlogged ∧ (kind ≠ .missionRequest → s = s')

/-- The same states are the same effect. -/
theorem SameEffect.of_eq {kind : MessageKind} {s s' : State} (same : s = s') :
    SameEffect kind s s' :=
  ⟨congrArg State.unlogged same, fun _ => same⟩

/-- Two frames come to the same when the handler of their message takes them for the same. -/
theorem SameEffect.of_handler {kind : MessageKind}
    (handler : Env → RxFrame → UInt32 → State → State) (listed : (kind, handler) ∈ ownHandlers)
    {frame frame' : RxFrame} (same : SaysSame kind frame frame') {env : Env}
    {rxTimestampMs : UInt32} {s : State}
    (equal : handler env frame rxTimestampMs s = handler env frame' rxTimestampMs s) :
    SameEffect kind (handleFrameComplete env frame rxTimestampMs s)
      (handleFrameComplete env frame' rxTimestampMs s) := by
  apply SameEffect.of_eq
  rw [handleFrameComplete_own listed env same.own, handleFrameComplete_own listed env same.own',
    equal]

/-- Two frames that say the same, both as long as is taken, come to the same. -/
theorem handleFrameComplete_congr {layout : Layout} (listed : layout ∈ layouts)
    {frame frame' : RxFrame} (same : SaysSame layout.kind frame frame')
    (result : ackResult frame = ackResult frame')
    (long : layout.least ≤ frame.payloadLen.toNat) (long' : layout.least ≤ frame'.payloadLen.toNat)
    (short : layout.extensible = false → frame.payloadLen.toNat ≤ layout.length)
    (short' : layout.extensible = false → frame'.payloadLen.toNat ≤ layout.length)
    (env : Env) (rxTimestampMs : UInt32) (s : State) :
    SameEffect layout.kind (handleFrameComplete env frame rxTimestampMs s)
      (handleFrameComplete env frame' rxTimestampMs s) := by
  have own := same.own
  have own' := same.own'
  have reads := same.reads
  have takes (least : UInt8) {length : UInt8} (holds : least.toNat ≤ length.toNat) :
      length ≥ least := UInt8.le_iff_toNat_le.mpr holds
  have reaches (least : UInt8) {length : UInt8} (holds : least.toNat ≤ length.toNat) :
      ¬ length < least := UInt8.not_lt.mpr (UInt8.le_iff_toNat_le.mpr holds)
  have within (most : UInt8) {length : UInt8} (holds : length.toNat ≤ most.toNat) :
      ¬ length > most := UInt8.not_lt.mpr (UInt8.le_iff_toNat_le.mpr holds)
  simp only [layouts, List.mem_cons, List.not_mem_nil, or_false] at listed
  rcases listed with rfl | rfl | rfl | rfl | rfl | rfl | rfl | rfl | rfl | rfl | rfl | rfl | rfl |
    rfl
  · -- HEARTBEAT
    apply SameEffect.of_eq
    rw [handleFrameComplete_heartbeat env own, handleFrameComplete_heartbeat env own',
      if_pos (takes 9 long), if_pos (takes 9 long'), handleHeartbeat_congr env rxTimestampMs s same]
  · -- COMMAND_ACK
    exact .of_handler (fun _ frame _ s => handleCommandAck frame s) (by simp [ownHandlers]) same
      (handleCommandAck_congr s same (takes 3 long) (takes 3 long'))
  · -- ATTITUDE
    have publishes (s : State) := publishAttitude_congr rxTimestampMs s reads
      (within 28 (short rfl)) (within 28 (short' rfl))
    exact .of_handler (handleTelemetry .attitude publishAttitude)
      (by simp [ownHandlers]) same (handleTelemetry_congr env rxTimestampMs s same publishes)
  · -- LOCAL_POSITION_NED
    have publishes (s : State) := publishEkfLocal_congr rxTimestampMs s reads
      (within 28 (short rfl)) (within 28 (short' rfl))
    exact .of_handler (handleTelemetry .localPositionNed publishEkfLocal)
      (by simp [ownHandlers]) same (handleTelemetry_congr env rxTimestampMs s same publishes)
  · -- GLOBAL_POSITION_INT
    have publishes (s : State) := publishGlobalPositionAsLocal_congr rxTimestampMs s reads
      (within 28 (short rfl)) (within 28 (short' rfl))
    exact .of_handler (handleTelemetry .globalPositionInt publishGlobalPositionAsLocal)
      (by simp [ownHandlers]) same (handleTelemetry_congr env rxTimestampMs s same publishes)
  · -- GPS_RAW_INT
    have publishes (s : State) := publishGpsRaw_congr rxTimestampMs s reads
      (reaches 30 long) (reaches 30 long')
    exact .of_handler (handleTelemetry .gpsRawInt publishGpsRaw)
      (by simp [ownHandlers]) same (handleTelemetry_congr env rxTimestampMs s same publishes)
  · -- EKF_STATUS_REPORT
    have publishes (s : State) := publishEkfStatus_congr rxTimestampMs s reads
      (reaches 21 long) (reaches 21 long')
    exact .of_handler (handleTelemetry .ekfStatusReport publishEkfStatus)
      (by simp [ownHandlers]) same (handleTelemetry_congr env rxTimestampMs s same publishes)
  · -- SYSTEM_TIME
    have publishes (s : State) := handleSysTime_congr rxTimestampMs s reads
      (within 12 (short rfl)) (within 12 (short' rfl))
    exact .of_handler (handleTelemetry .sysTime handleSysTime)
      (by simp [ownHandlers]) same (handleTelemetry_congr env rxTimestampMs s same publishes)
  · -- MISSION_REQUEST_INT
    exact .of_handler handleMissionRequestInt (by simp [ownHandlers]) same
      (handleMissionRequestInt_congr env rxTimestampMs s same (takes 2 long) (takes 2 long'))
  · -- MISSION_REQUEST, whose length is logged
    have handler : (MessageKind.missionRequest, handleMissionRequest) ∈ ownHandlers := by
      simp [ownHandlers]
    refine ⟨?_, fun other => absurd rfl other⟩
    rw [handleFrameComplete_own handler env own, handleFrameComplete_own handler env own']
    exact handleMissionRequest_congr env rxTimestampMs s same (takes 2 long) (takes 2 long')
  · -- MISSION_ACK
    exact .of_handler handleMissionAck (by simp [ownHandlers]) same
      (handleMissionAck_congr env rxTimestampMs s same result (takes 2 long) (takes 2 long'))
  · -- MISSION_COUNT
    apply SameEffect.of_eq
    rw [handleFrameComplete_missionCount env own, handleFrameComplete_missionCount env own',
      handleMissionCount_congr env rxTimestampMs s same (takes 2 long) (takes 2 long')]
  · -- MISSION_ITEM_INT
    apply SameEffect.of_eq
    rw [handleFrameComplete_missionItemInt env own, handleFrameComplete_missionItemInt env own',
      handleMissionItemInt_congr env rxTimestampMs s same (takes 32 long) (takes 32 long')]
  · -- MISSION_CURRENT
    exact .of_handler handleMissionCurrent (by simp [ownHandlers]) same
      (handleMissionCurrent_congr env rxTimestampMs s same (takes 2 long) (takes 2 long'))

/-- A frame tells the length of its payload. -/
theorem WireFrame.payloadLen_received (frame : WireFrame) :
    frame.received.payloadLen.toNat = frame.payload.length := by
  have fits := frame.fits
  have most : maxPayloadLen = 255 := rfl
  exact UInt8.toNat_ofNat_of_lt' (by show _ < 256; omega)

/-- The result of an acknowledgement is its third byte, which is zero when it was left out. -/
theorem WireFrame.ackResult_received (frame : WireFrame) :
    ackResult frame.received = payloadByte frame.payload 2 := by
  unfold ackResult
  split
  · rfl
  · rename_i short
    have few : frame.payload.length < 3 := by
      rw [← frame.payloadLen_received]
      exact UInt8.lt_iff_toNat_lt.mp (UInt8.not_le.mp short)
    rw [payloadByte, List.getElem?_eq_none (by omega)]
    rfl

/-- A frame that reaches the least length of its message is taken without its trailing zeros. -/
theorem truncated_sameEffect {layout : Layout} (listed : layout ∈ layouts) {frame : WireFrame}
    (own : frame.msgId = layout.kind.id) (constant : frame.crcExtra = layout.kind.crcExtra)
    (full : layout.Full frame.payload.length) (reaches : Reaches layout.least frame.payload)
    (env : Env) (rxTimestampMs : UInt32) (s : State) :
    SameEffect layout.kind (handleFrameComplete env frame.truncated.received rxTimestampMs s)
      (handleFrameComplete env frame.received rxTimestampMs s) := by
  have fewer := length_trimmed_le frame.payload
  have length := frame.payloadLen_received
  have kept : frame.truncated.received.payloadLen.toNat = (trimmed frame.payload).length :=
    frame.truncated.payloadLen_received
  have fields : ∀ layout ∈ layouts, 0 < layout.length ∧ layout.least ≤ layout.length := by decide
  have ⟨positive, least⟩ := fields layout listed
  have some : frame.payload ≠ [] := List.ne_nil_of_length_pos (Nat.lt_of_lt_of_le positive full.1)
  have long := (le_length_trimmed some layout.least).mpr reaches
  have long' := Nat.le_trans least full.1
  have same := frame.truncated_says own constant
  have result : ackResult frame.truncated.received = ackResult frame.received := by
    rw [frame.ackResult_received, frame.truncated.ackResult_received]
    exact congrFun (payloadByte_trimmed frame.payload) 2
  apply handleFrameComplete_congr listed same result
  · rw [kept]
    exact long
  · rw [length]
    exact long'
  · intro fixed
    rw [kept, ← full.2 fixed]
    exact fewer
  · intro fixed
    rw [length, full.2 fixed]

/-- A frame that is sent is no parse error. -/
theorem sendMavlinkV2_parseErrors (kind : MessageKind) (payload : List UInt8)
    (fault : Option TxFault) (s : State) :
    (sendMavlinkV2 kind payload fault s).2.parseErrorCount = s.parseErrorCount := by
  have ⟨_, _, _, same, _⟩ := sendMavlinkV2_eq kind payload fault s
  rw [same]

/-- Neither is an item that is sent. -/
theorem sendMissionItemInt_parseErrors (seq : UInt8) (fault : Option TxFault) (s : State) :
    (sendMissionItemInt seq fault s).parseErrorCount = s.parseErrorCount :=
  sendMavlinkV2_parseErrors _ _ _ _

/-- Neither is a legacy item. -/
theorem sendMissionItem_parseErrors (seq : UInt8) (fault : Option TxFault) (s : State) :
    (sendMissionItem seq fault s).parseErrorCount = s.parseErrorCount :=
  sendMavlinkV2_parseErrors _ _ _ _

/-- Neither is the end of a download that is acknowledged. -/
theorem sendMissionAckAccepted_parseErrors (fault : Option TxFault) (s : State) :
    (sendMissionAckAccepted fault s).parseErrorCount = s.parseErrorCount :=
  sendMavlinkV2_parseErrors _ _ _ _

/-- Neither is the next item of a download that is requested. -/
theorem sendMissionRequestIntDownload_parseErrors (seq : UInt8) (fault : Option TxFault)
    (s : State) : (sendMissionRequestIntDownload seq fault s).parseErrorCount = s.parseErrorCount :=
  sendMavlinkV2_parseErrors _ _ _ _

/-- Neither is a readback that is published. -/
theorem publishFcMissionReadback_parseErrors (env : Env) (s : State) :
    (publishFcMissionReadback env s).parseErrorCount = s.parseErrorCount := by
  unfold publishFcMissionReadback
  by_cases clamped : s.missionDownloadExpectedCount.toNat > routeMaxWaypoints
  · simp only [decide_eq_true clamped, if_true]
    rfl
  · simp only [decide_eq_false clamped, Bool.false_eq_true, if_false]
    rfl

/-- Neither is a message that keeps the link connected. -/
theorem noteReceived_parseErrors (env : Env) (rxTimestampMs : UInt32) (s : State) :
    (noteReceived env rxTimestampMs s).parseErrorCount = s.parseErrorCount := by
  unfold noteReceived setLinkState
  dsimp only
  repeat' split
  all_goals first | rfl | exact sendMavlinkV2_parseErrors _ _ _ _

/-- Neither is a decoded message that is published. -/
theorem publishDecoded_parseErrors (message : Message) (seq : UInt32) (report : String)
    (s : State) : (publishDecoded message seq report s).parseErrorCount = s.parseErrorCount := by
  unfold publishDecoded
  dsimp only
  split <;> rfl

section

variable {frame : RxFrame} (env : Env) (rxTimestampMs : UInt32) (s : State)

/-- A short answer to a command is a parse error. -/
theorem handleCommandAck_parseErrors (checks : frame.checks .commandAck = true) :
    (handleCommandAck frame s).parseErrorCount =
      if frame.payloadLen ≥ 3 then s.parseErrorCount else s.parseErrorCount + 1 := by
  unfold handleCommandAck
  dsimp only
  by_cases long : frame.payloadLen ≥ 3
  · rw [if_pos ⟨checks, long⟩, if_pos long]
    repeat' split
    all_goals rfl
  · rw [if_neg fun both => long both.2, if_neg long]
    rfl

/-- A short satellite fix is a parse error. -/
theorem handleTelemetry_gpsRaw_parseErrors (checks : frame.checks .gpsRawInt = true) :
    (handleTelemetry .gpsRawInt publishGpsRaw env frame rxTimestampMs s).parseErrorCount =
      if frame.payloadLen ≥ 30 then s.parseErrorCount else s.parseErrorCount + 1 := by
  rw [handleTelemetry, if_pos checks, ← noteReceived_parseErrors env rxTimestampMs s]
  unfold publishGpsRaw
  by_cases long : frame.payloadLen ≥ 30
  · rw [if_neg (UInt8.not_lt.mpr long), if_pos long]
    exact publishDecoded_parseErrors _ _ _ _
  · rw [if_pos (UInt8.not_le.mp long), if_neg long]
    rfl

/-- A short state of the estimator is a parse error. -/
theorem handleTelemetry_ekfStatus_parseErrors (checks : frame.checks .ekfStatusReport = true) :
    (handleTelemetry .ekfStatusReport publishEkfStatus env frame rxTimestampMs s).parseErrorCount =
      if frame.payloadLen ≥ 21 then s.parseErrorCount else s.parseErrorCount + 1 := by
  rw [handleTelemetry, if_pos checks, ← noteReceived_parseErrors env rxTimestampMs s]
  unfold publishEkfStatus
  by_cases long : frame.payloadLen ≥ 21
  · rw [if_neg (UInt8.not_lt.mpr long), if_pos long]
    exact publishDecoded_parseErrors _ _ _ _
  · rw [if_pos (UInt8.not_le.mp long), if_neg long]
    rfl

/-- A short request for an item is a parse error. -/
theorem handleMissionRequestInt_parseErrors (checks : frame.checks .missionRequestInt = true) :
    (handleMissionRequestInt env frame rxTimestampMs s).parseErrorCount =
      if frame.payloadLen ≥ 2 then s.parseErrorCount else s.parseErrorCount + 1 := by
  unfold handleMissionRequestInt
  by_cases long : frame.payloadLen ≥ 2
  · rw [if_pos ⟨checks, long⟩, if_pos long]
    split
    · rw [sendMissionItemInt_parseErrors, awaitRequest]
    · rfl
  · rw [if_neg fun both => long both.2, if_neg long]
    rfl

/-- A short legacy request is one. -/
theorem handleMissionRequest_parseErrors (checks : frame.checks .missionRequest = true) :
    (handleMissionRequest env frame rxTimestampMs s).parseErrorCount =
      if frame.payloadLen ≥ 2 then s.parseErrorCount else s.parseErrorCount + 1 := by
  unfold handleMissionRequest
  dsimp only
  by_cases long : frame.payloadLen ≥ 2
  · rw [if_pos ⟨checks, long⟩, if_pos long]
    split
    · rw [sendMissionItem_parseErrors, awaitRequest, sendEvent]
    · rfl
  · rw [if_neg fun both => long both.2, if_neg long]
    rfl

/-- A short mission acknowledgement is one. -/
theorem handleMissionAck_parseErrors (checks : frame.checks .missionAck = true) :
    (handleMissionAck env frame rxTimestampMs s).parseErrorCount =
      if frame.payloadLen ≥ 2 then s.parseErrorCount else s.parseErrorCount + 1 := by
  unfold handleMissionAck
  by_cases long : frame.payloadLen ≥ 2
  · rw [if_pos ⟨checks, long⟩, if_pos long]
    split
    · split
      · unfold commitUpload
        dsimp only
        split
        · exact sendMavlinkV2_parseErrors _ _ _ _
        · rfl
      · rfl
    · rfl
  · rw [if_neg fun both => long both.2, if_neg long]
    rfl

/-- A short item count is one. -/
theorem handleMissionCount_parseErrors (checks : frame.checks .missionCount = true) :
    (handleMissionCount env frame rxTimestampMs s).parseErrorCount =
      if frame.payloadLen ≥ 2 then s.parseErrorCount else s.parseErrorCount + 1 := by
  unfold handleMissionCount
  by_cases long : frame.payloadLen ≥ 2
  · rw [if_pos ⟨checks, long⟩, if_pos long]
    dsimp only
    split
    · rw [publishFcMissionReadback_parseErrors]
      exact sendMissionAckAccepted_parseErrors _ _
    · exact sendMissionRequestIntDownload_parseErrors _ _ _
  · rw [if_neg fun both => long both.2, if_neg long]
    rfl

/-- A short item is one. -/
theorem handleMissionItemInt_parseErrors (checks : frame.checks .missionItemInt = true) :
    (handleMissionItemInt env frame rxTimestampMs s).parseErrorCount =
      if frame.payloadLen ≥ 32 then s.parseErrorCount else s.parseErrorCount + 1 := by
  unfold handleMissionItemInt
  by_cases long : frame.payloadLen ≥ 32
  · rw [if_pos ⟨checks, long⟩, if_pos long]
    dsimp only
    split
    · rw [publishFcMissionReadback_parseErrors]
      exact sendMissionAckAccepted_parseErrors _ _
    · exact sendMissionRequestIntDownload_parseErrors _ _ _
  · rw [if_neg fun both => long both.2, if_neg long]
    rfl

/-- A short current item is one. -/
theorem handleMissionCurrent_parseErrors (checks : frame.checks .missionCurrent = true) :
    (handleMissionCurrent env frame rxTimestampMs s).parseErrorCount =
      if frame.payloadLen ≥ 2 then s.parseErrorCount else s.parseErrorCount + 1 := by
  unfold handleMissionCurrent
  by_cases long : frame.payloadLen ≥ 2
  · rw [if_pos ⟨checks, long⟩, if_pos long]
    exact noteReceived_parseErrors env rxTimestampMs s
  · rw [if_neg fun both => long both.2, if_neg long]
    rfl

end

/-- A frame that is taken and one of its message that is too short come to something else. -/
theorem unlogged_ne_of_parseErrors {least length length' : UInt8} {s s₁ s₂ : State}
    (short : ¬ length ≥ least) (long : length' ≥ least)
    (counts : s₁.parseErrorCount =
      if length ≥ least then s.parseErrorCount else s.parseErrorCount + 1)
    (counts' : s₂.parseErrorCount =
      if length' ≥ least then s.parseErrorCount else s.parseErrorCount + 1) :
    s₁.unlogged ≠ s₂.unlogged := by
  intro same
  have equal := congrArg State.parseErrorCount same
  change s₁.parseErrorCount = s₂.parseErrorCount at equal
  rw [counts, counts', if_neg short, if_pos long] at equal
  grind

/-- The payload of a heartbeat fits a frame. -/
theorem heartbeat_fits : 9 ≤ maxPayloadLen := by decide

/-- A heartbeat of an autopilot. -/
def autopilotHeartbeat (sysId : UInt8) : WireFrame where
  isV2 := true
  seq := 0
  sysId := sysId
  compId := 1
  msgId := MessageKind.heartbeat.id
  payload := [0, 0, 0, 0, 2, 3, 81, 4, 3]
  crcExtra := MessageKind.heartbeat.crcExtra
  fits := heartbeat_fits
  named := heartbeat_named

/-- After a heartbeat of the autopilot, a short heartbeat comes to nothing and a long one keeps the
link connected. -/
theorem heartbeat_truncated_differs {frame frame' : RxFrame}
    (same : SaysSame .heartbeat frame frame') (short : ¬ frame.payloadLen ≥ 9)
    (long : frame'.payloadLen ≥ 9) :
    ∃ (inputs : List Input) (env : Env) (rxTimestampMs : UInt32),
      (handleFrameComplete env frame rxTimestampMs
        (Run.run step (initialState .default) inputs)).unlogged ≠
      (handleFrameComplete env frame' rxTimestampMs
        (Run.run step (initialState .default) inputs)).unlogged := by
  let first := (autopilotHeartbeat frame'.sysId).received
  refine ⟨[.frame first 0 (Env.at 0)], Env.at 1, 1, ?_⟩
  have valid : first.isHeartbeat = true :=
    decide_eq_true
    ⟨rfl, show UInt8.ofNat 9 ≥ 9 by decide, (autopilotHeartbeat _).received_checks rfl⟩
  have start : Run.run step (initialState .default) [.frame first 0 (Env.at 0)] =
      handleFrameComplete (Env.at 0) first 0 (initialState .default) := rfl
  have view := handleFrameComplete_link (Env.at 0) first 0 (initialState .default)
  rw [start]
  generalize handleFrameComplete (Env.at 0) first 0 (initialState .default) = s at view ⊢
  have locks : lockedTarget first (linkView (initialState .default)).targetSystemId =
      frame'.sysId := if_pos ⟨valid, rfl, .inl rfl⟩
  have connects : promotes first (linkView (initialState .default)).targetSystemId = true :=
    decide_eq_true (.inr (.inr ⟨valid, locks.symm⟩))
  rw [LinkView.after, if_pos connects, locks] at view
  have beats : frame'.isHeartbeat = true := decide_eq_true ⟨same.own', long, same.checks'⟩
  have target : lockedTarget frame' (linkView s).targetSystemId = frame'.sysId := by
    rw [view, lockedTarget]
    split <;> rfl
  have keeps : promotes frame' (linkView s).targetSystemId = true :=
    decide_eq_true (.inr (.inr ⟨beats, target.symm⟩))
  have after := handleFrameComplete_link (Env.at 1) frame' 1 s
  rw [LinkView.after, if_pos keeps] at after
  intro equal
  rw [handleFrameComplete_heartbeat _ same.own, if_neg short] at equal
  have heard := congrArg State.lastRxTimestampMs equal
  change s.lastRxTimestampMs =
    (handleFrameComplete (Env.at 1) frame' 1 s).lastRxTimestampMs at heard
  have before : s.lastRxTimestampMs = 0 := congrArg LinkView.lastRxTimestampMs view
  have now : (handleFrameComplete (Env.at 1) frame' 1 s).lastRxTimestampMs = 1 :=
    congrArg LinkView.lastRxTimestampMs after
  rw [before, now] at heard
  exact absurd heard (by decide)

/-- A handler that counts a parse error for a frame that is too short tells the two apart. -/
theorem differs_of_handler {kind : MessageKind}
    (handler : Env → RxFrame → UInt32 → State → State) (listed : (kind, handler) ∈ ownHandlers)
    {frame frame' : RxFrame} (same : SaysSame kind frame frame') {least : UInt8}
    (counts : ∀ {frame : RxFrame} (env : Env) (rxTimestampMs : UInt32) (s : State),
      frame.checks kind = true → (handler env frame rxTimestampMs s).parseErrorCount =
        if frame.payloadLen ≥ least then s.parseErrorCount else s.parseErrorCount + 1)
    (short : ¬ frame.payloadLen ≥ least) (long : frame'.payloadLen ≥ least) :
    ∃ (inputs : List Input) (env : Env) (rxTimestampMs : UInt32),
      (handleFrameComplete env frame rxTimestampMs
        (Run.run step (initialState .default) inputs)).unlogged ≠
      (handleFrameComplete env frame' rxTimestampMs
        (Run.run step (initialState .default) inputs)).unlogged := by
  refine ⟨[], Env.at 0, 0, ?_⟩
  rw [handleFrameComplete_own listed _ same.own, handleFrameComplete_own listed _ same.own']
  exact unlogged_ne_of_parseErrors short long (counts _ _ _ same.checks) (counts _ _ _ same.checks')

/-- What has happened when the bridge waits for an item count. -/
def countAwaited : List Input :=
  [.reconnect 1000 "/dev/serial0" (.opened 1000) (Env.at 1000),
    received .heartbeat [0, 0, 0, 0, 2, 3, 81, 4, 3] 1100]

/-- What has happened when the bridge waits for an item. -/
def itemAwaited : List Input := countAwaited ++ [received .missionCount [2, 0, 255, 190, 0] 1200]

/-- A frame that is too short and one of its message that is long enough come to something else
after some run. -/
theorem short_differs {layout : Layout} (listed : layout ∈ layouts) {frame frame' : RxFrame}
    (same : SaysSame layout.kind frame frame') (short : ¬ layout.least ≤ frame.payloadLen.toNat)
    (long : layout.least ≤ frame'.payloadLen.toNat) :
    ∃ (inputs : List Input) (env : Env) (rxTimestampMs : UInt32),
      (handleFrameComplete env frame rxTimestampMs
        (Run.run step (initialState .default) inputs)).unlogged ≠
      (handleFrameComplete env frame' rxTimestampMs
        (Run.run step (initialState .default) inputs)).unlogged := by
  have own := same.own
  have own' := same.own'
  have refused (least : UInt8) {length : UInt8} (holds : ¬ least.toNat ≤ length.toNat) :
      ¬ length ≥ least := fun takes => holds (UInt8.le_iff_toNat_le.mp takes)
  have takes (least : UInt8) {length : UInt8} (holds : least.toNat ≤ length.toNat) :
      length ≥ least := UInt8.le_iff_toNat_le.mpr holds
  simp only [layouts, List.mem_cons, List.not_mem_nil, or_false] at listed
  rcases listed with rfl | rfl | rfl | rfl | rfl | rfl | rfl | rfl | rfl | rfl | rfl | rfl | rfl |
    rfl
  · -- HEARTBEAT
    exact heartbeat_truncated_differs same (refused 9 short) (takes 9 long)
  · -- COMMAND_ACK
    exact differs_of_handler (fun _ frame _ s => handleCommandAck frame s) (by simp [ownHandlers])
      same (fun _ _ s => handleCommandAck_parseErrors s) (refused 3 short) (takes 3 long)
  · -- ATTITUDE
    exact absurd (Nat.zero_le _) short
  · -- LOCAL_POSITION_NED
    exact absurd (Nat.zero_le _) short
  · -- GLOBAL_POSITION_INT
    exact absurd (Nat.zero_le _) short
  · -- GPS_RAW_INT
    exact differs_of_handler (handleTelemetry .gpsRawInt publishGpsRaw) (by simp [ownHandlers]) same
      handleTelemetry_gpsRaw_parseErrors (refused 30 short) (takes 30 long)
  · -- EKF_STATUS_REPORT
    exact differs_of_handler (handleTelemetry .ekfStatusReport publishEkfStatus)
      (by simp [ownHandlers]) same handleTelemetry_ekfStatus_parseErrors (refused 21 short)
      (takes 21 long)
  · -- SYSTEM_TIME
    exact absurd (Nat.zero_le _) short
  · -- MISSION_REQUEST_INT
    exact differs_of_handler handleMissionRequestInt (by simp [ownHandlers]) same
      handleMissionRequestInt_parseErrors (refused 2 short) (takes 2 long)
  · -- MISSION_REQUEST
    exact differs_of_handler handleMissionRequest (by simp [ownHandlers]) same
      handleMissionRequest_parseErrors (refused 2 short) (takes 2 long)
  · -- MISSION_ACK
    exact differs_of_handler handleMissionAck (by simp [ownHandlers]) same
      handleMissionAck_parseErrors (refused 2 short) (takes 2 long)
  · -- MISSION_COUNT
    have waiting : (Run.run step (initialState .default) countAwaited).missionDownloadState =
        .waitCount := by decide +kernel
    refine ⟨countAwaited, Env.at 0, 0, ?_⟩
    rw [handleFrameComplete_missionCount _ own, handleFrameComplete_missionCount _ own',
      if_pos waiting, if_pos waiting]
    exact unlogged_ne_of_parseErrors (refused 2 short) (takes 2 long)
      (handleMissionCount_parseErrors _ _ _ same.checks)
      (handleMissionCount_parseErrors _ _ _ same.checks')
  · -- MISSION_ITEM_INT
    have waiting : (Run.run step (initialState .default) itemAwaited).missionDownloadState =
        .waitItem := by decide +kernel
    refine ⟨itemAwaited, Env.at 0, 0, ?_⟩
    rw [handleFrameComplete_missionItemInt _ own, handleFrameComplete_missionItemInt _ own',
      if_pos waiting, if_pos waiting]
    exact unlogged_ne_of_parseErrors (refused 32 short) (takes 32 long)
      (handleMissionItemInt_parseErrors _ _ _ same.checks)
      (handleMissionItemInt_parseErrors _ _ _ same.checks')
  · -- MISSION_CURRENT
    exact differs_of_handler handleMissionCurrent (by simp [ownHandlers]) same
      handleMissionCurrent_parseErrors (refused 2 short) (takes 2 long)

/-- A frame of a handled message with all its fields, and the one without the trailing zeros of its
payload, have the same effect after every run exactly when the payload reaches the least length of
the message; then they have it in every state, and even the log is the same, unless it tells the
length. Each handler asks for a least length instead of reading zeros behind the payload. -/
theorem truncation_invariant_iff {layout : Layout} (listed : layout ∈ layouts) (frame : WireFrame)
    (own : frame.msgId = layout.kind.id) (constant : frame.crcExtra = layout.kind.crcExtra)
    (full : layout.Full frame.payload.length) :
    ((∀ (config : ConfigParams) (inputs : List Input) (env : Env) (rxTimestampMs : UInt32),
      (handleFrameComplete env frame.truncated.received rxTimestampMs
        (Run.run step (initialState config) inputs)).unlogged =
      (handleFrameComplete env frame.received rxTimestampMs
        (Run.run step (initialState config) inputs)).unlogged) ↔
      Reaches layout.least frame.payload) ∧
    (Reaches layout.least frame.payload →
      ∀ (env : Env) (rxTimestampMs : UInt32) (s : State), SameEffect layout.kind
        (handleFrameComplete env frame.truncated.received rxTimestampMs s)
        (handleFrameComplete env frame.received rxTimestampMs s)) := by
  have keeps (reaches : Reaches layout.least frame.payload) :=
    truncated_sameEffect listed own constant full reaches
  refine ⟨⟨?_, fun reaches _ _ _ _ => (keeps reaches _ _ _).1⟩, keeps⟩
  intro always
  by_contra other
  have fields : ∀ layout ∈ layouts, 0 < layout.length ∧ layout.least ≤ layout.length := by decide
  have ⟨positive, least⟩ := fields layout listed
  have some : frame.payload ≠ [] := List.ne_nil_of_length_pos (Nat.lt_of_lt_of_le positive full.1)
  have short : ¬ layout.least ≤ frame.truncated.received.payloadLen.toNat := by
    rw [frame.truncated.payloadLen_received]
    exact fun long => other ((le_length_trimmed some layout.least).mp long)
  have long : layout.least ≤ frame.received.payloadLen.toNat := by
    rw [frame.payloadLen_received]
    exact Nat.le_trans least full.1
  have ⟨inputs, env, rxTimestampMs, differs⟩ :=
    short_differs listed (frame.truncated_says own constant) short long
  exact differs (always .default inputs env rxTimestampMs)

/-- An answer that a command was accepted. -/
def acceptingAnswer (sequence : UInt8) : WireFrame where
  isV2 := true
  seq := sequence
  sysId := 1
  compId := 1
  msgId := MessageKind.commandAck.id
  payload := [255, 1, 0]
  crcExtra := MessageKind.commandAck.crcExtra
  fits := by show 3 ≤ 255; decide
  named := by decide

/-- The answer that a command was accepted is refused without its last byte. -/
theorem truncation_invariant_iff_accepting :
    ((∀ (config : ConfigParams) (inputs : List Input) (env : Env) (rxTimestampMs : UInt32),
      (handleFrameComplete env (acceptingAnswer 0).truncated.received rxTimestampMs
        (Run.run step (initialState config) inputs)).unlogged =
      (handleFrameComplete env (acceptingAnswer 0).received rxTimestampMs
        (Run.run step (initialState config) inputs)).unlogged) ↔
      Reaches 3 (acceptingAnswer 0).payload) ∧
    ¬ Reaches 3 (acceptingAnswer 0).payload := by
  refine ⟨(@truncation_invariant_iff ⟨.commandAck, 3, true, 3⟩ (by simp [layouts])
    (acceptingAnswer 0) rfl rfl ⟨Nat.le_refl 3, nofun⟩).1, ?_⟩
  unfold Reaches
  decide

/-- The trailing zeros of a payload make a difference: the answer that a command was accepted is
counted with its last byte, and a parse error without it. -/
theorem truncation_differs : ¬ ∀ (layout : Layout) (frame : WireFrame), layout ∈ layouts →
    frame.isV2 = true → frame.msgId = layout.kind.id → frame.crcExtra = layout.kind.crcExtra →
    layout.Full frame.payload.length →
      ∀ (config : ConfigParams) (inputs : List Input) (env : Env) (rxTimestampMs : UInt32),
        (handleFrameComplete env frame.truncated.received rxTimestampMs
          (Run.run step (initialState config) inputs)).unlogged =
        (handleFrameComplete env frame.received rxTimestampMs
          (Run.run step (initialState config) inputs)).unlogged := by
  intro always
  have same := always ⟨.commandAck, 3, true, 3⟩ (acceptingAnswer 0) (by simp [layouts]) rfl rfl rfl
    ⟨Nat.le_refl 3, nofun⟩ .default [] (Env.at 0) 0
  have counts := congrArg State.streamRequestAckCount same
  revert counts
  decide +kernel

end CfsTelemetry.Bridge
