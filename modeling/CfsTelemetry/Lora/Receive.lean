import CfsTelemetry.Lora.Frames

/-!
# Receiving

What a completed line or binary frame does to the application, and the bytes that complete
one. A received byte either only changes the receive buffer or completes a frame, which is then
handled whole.
-/
namespace CfsTelemetry.Lora

open Text

/-- An acknowledgement that passed its check, taken at a given time; `mismatch` is the event for
a sequence that is not the last one sent. -/
def acknowledge (inSequence : Bool) (mismatch : String) (now : UInt32) (s : State) : State :=
  let s :=
    if inSequence then s
    else sendEvent .seqFail .error mismatch { s with seqFailCount := s.seqFailCount + 1 }
  { s with
    rxAckCount := s.rxAckCount + 1
    noAckCount := 0
    ackReceivedThisCycle := true
    lastAckTimestampMs := now }

/-- A command frame that failed its check. -/
def failFrame (s : State) : State :=
  { s with
    pendingUplinkFeedback := .crcFail
    rxErrorCount := s.rxErrorCount + 1 }

/-- Forward a command to the uplink application, with nothing to report until it answers. -/
def forward (cmd : ProcessUplinkCmd) (taken : Bool) (s : State) : State :=
  { s with
    outputs := .forward cmd taken :: s.outputs
    pendingUplinkFeedback := .ok
    rxCmdCount := s.rxCmdCount + 1 }

/-- Handle a text command. -/
def processUpFrame (line : List UInt8) (taken : Bool) (s : State) : State :=
  match parseUpFrame line with
  | .error .format =>
    sendEvent .crcFail .error "LORA_TDM_APP: UP frame parse error" (failFrame s)
  | .error (.checksum expected actual) =>
    sendEvent .crcFail .error
      (s!"LORA_TDM_APP: UP frame CRC fail expected={hexText 4 expected.toNat} " ++
        s!"actual={hexText 4 actual.toNat}") (failFrame s)
  | .error .tooLong => failFrame s
  | .error .payload => failFrame s
  | .ok cmd => forward cmd taken s

/-- Handle a received line. -/
def processRxLine (line : List UInt8) (now : UInt32) (taken : Bool) (s : State) : State :=
  let line := cString line
  if line.take 4 = codes "ACK," then
    match parseAckFrame line with
    | some seqEcho =>
      acknowledge (seqEcho == s.lastSentSeq)
        s!"LORA_TDM_APP: ACK seq mismatch tx={s.lastSentSeq} rx={seqEcho}" now s
    | none =>
      sendEvent .ackParseErr .error "LORA_TDM_APP: bad ACK frame"
        { s with rxErrorCount := s.rxErrorCount + 1 }
  else if line.take 3 = codes "UP," then processUpFrame line taken s
  else s

/-- The command the uplink application is sent for a decoded binary command. -/
def Up2Decoded.command (decoded : Up2Decoded) : ProcessUplinkCmd :=
  forwardedCmd decoded.version decoded.commandClass decoded.seq decoded.flags decoded.payloadLen
    decoded.payload

/-- Handle a received binary frame. -/
def processRxBinaryFrame (buf : List UInt8) (now : UInt32) (taken : Bool) (s : State) : State :=
  if buf = [] then s
  else if byteAt buf 0 = ack2Magic then
    match parseAck2Frame buf with
    | some seqEcho =>
      -- The frame carries 16 bits of the sequence, so both sides are cut to 16.
      acknowledge (seqEcho.toUInt16 == s.lastSentSeq.toUInt16)
        s!"LORA_TDM_APP: ACK2 seq mismatch tx={s.lastSentSeq} rx={seqEcho}" now s
    | none =>
      sendEvent .ackParseErr .error "LORA_TDM_APP: bad ACK2 frame"
        { s with rxErrorCount := s.rxErrorCount + 1 }
  else if byteAt buf 0 = up2Magic then
    match parseUp2Frame buf with
    | some decoded => forward decoded.command taken s
    | none => sendEvent .crcFail .error "LORA_TDM_APP: UP2 frame parse error" (failFrame s)
  else s

/-! ## Received bytes -/

/-- Bytes of the receive buffer (`LORA_TDM_APP_LINE_BUF_LEN`). -/
def lineBufLen : Nat := 256

/-- Wait for the first byte of a frame. -/
def resynchronize (s : State) : State :=
  { s with rxLineBuf := [], rxFrameMode := .none }

/-- The state in which the first byte of a frame was stored: the byte decides what follows. -/
def startFrame (byte : UInt8) (s : State) : State :=
  if byte = ack2Magic then { s with rxFrameMode := .ack2, rxFrameTargetLen := 5 }
  else if byte = up2Magic then { s with rxFrameMode := .up2Hdr }
  else { s with rxFrameMode := .text }

/-- What a frame is handled with when a byte completes it: the clock for an acknowledgement and
whether the bus takes a command. -/
def continueFrame (byte : UInt8) (now : UInt32) (taken : Bool) (s : State) : State :=
  match s.rxFrameMode with
  | .text =>
    if byte = 10 then resynchronize (processRxLine s.rxLineBuf now taken s) else s
  | .up2Hdr =>
    if s.rxLineBuf.length = 2 then
      let plen := byteAt s.rxLineBuf 1
      if plen > 196 then resynchronize s
      else { s with rxFrameTargetLen := 7 + plen.toNat + 2, rxFrameMode := .up2Body }
    else s
  | .ack2 | .up2Body =>
    if s.rxLineBuf.length ≥ s.rxFrameTargetLen then
      resynchronize (processRxBinaryFrame s.rxLineBuf now taken s)
    else s
  | .none => s

/-- Store a byte of a frame, which decides what follows when it is the first. -/
def storeByte (byte : UInt8) (s : State) : State :=
  let s := { s with rxLineBuf := s.rxLineBuf ++ [byte] }
  if s.rxLineBuf.length = 1 then startFrame byte s else s

/-- Take one byte from the serial line. -/
def receiveByte (byte : UInt8) (now : UInt32) (taken : Bool) (s : State) : State :=
  if s.rxLineBuf.length < lineBufLen - 1 then continueFrame byte now taken (storeByte byte s)
  else resynchronize s

/-- What a received frame means for the feedback: nothing, a failed check, or a command that
was forwarded. -/
inductive Reception where
  | silent | damaged | forwarded (cmd : ProcessUplinkCmd) (taken : Bool)
  deriving DecidableEq

/-- What a text line means for the feedback. -/
def lineReception (line : List UInt8) (taken : Bool) : Reception :=
  let line := cString line
  if line.take 4 = codes "ACK," then .silent
  else if line.take 3 = codes "UP," then
    match parseUpFrame line with
    | .error _ => .damaged
    | .ok cmd => .forwarded cmd taken
  else .silent

/-- What a binary frame means for the feedback. -/
def frameReception (buf : List UInt8) (taken : Bool) : Reception :=
  if byteAt buf 0 = ack2Magic then .silent
  else if byteAt buf 0 = up2Magic then
    match parseUp2Frame buf with
    | some decoded => .forwarded decoded.command taken
    | none => .damaged
  else .silent

/-- What a byte means for the feedback, after it was stored. -/
def continueReception (byte : UInt8) (taken : Bool) (s : State) : Reception :=
  match s.rxFrameMode with
  | .text => if byte = 10 then lineReception s.rxLineBuf taken else .silent
  | .ack2 | .up2Body =>
    if s.rxLineBuf.length ≥ s.rxFrameTargetLen then frameReception s.rxLineBuf taken else .silent
  | .up2Hdr | .none => .silent

/-- What a received byte means for the feedback. -/
def byteReception (byte : UInt8) (taken : Bool) (s : State) : Reception :=
  if s.rxLineBuf.length < lineBufLen - 1 then continueReception byte taken (storeByte byte s)
  else .silent

/-- The feedback after a reception. -/
def Reception.feedback : Reception → Feedback → Feedback
  | .silent, feedback => feedback
  | .damaged, _ => .crcFail
  | .forwarded _ _, _ => .ok

/-- What a reception sends on the bus, newest first. -/
def Reception.outputs : Reception → List Output
  | .forwarded cmd taken => [.forward cmd taken]
  | _ => []

/-- The states agree on what a reception changes: feedback and outputs. -/
structure Receives (reception : Reception) (s s' : State) : Prop where
  feedback : s'.pendingUplinkFeedback = reception.feedback s.pendingUplinkFeedback
  outputs : s'.outputs = reception.outputs ++ s.outputs

/-- An acknowledgement means nothing for the feedback. -/
theorem acknowledge_receives (inSequence : Bool) (mismatch : String) (now : UInt32) (s : State) :
    Receives .silent s (acknowledge inSequence mismatch now s) := by
  cases inSequence <;> exact ⟨rfl, rfl⟩

/-- A text line does what its reception says. -/
theorem processRxLine_receives (line : List UInt8) (now : UInt32) (taken : Bool) (s : State) :
    Receives (lineReception line taken) s (processRxLine line now taken s) := by
  unfold processRxLine lineReception
  dsimp only
  by_cases ack : (cString line).take 4 = codes "ACK,"
  · rw [if_pos ack, if_pos ack]
    cases parseAckFrame (cString line) with
    | none => exact ⟨rfl, rfl⟩
    | some seqEcho => exact acknowledge_receives _ _ _ _
  · rw [if_neg ack, if_neg ack]
    by_cases up : (cString line).take 3 = codes "UP,"
    · rw [if_pos up, if_pos up]
      unfold processUpFrame
      cases parseUpFrame (cString line) with
      | error defect => cases defect <;> exact ⟨rfl, rfl⟩
      | ok cmd => exact ⟨rfl, rfl⟩
    · rw [if_neg up, if_neg up]
      exact ⟨rfl, rfl⟩

/-- A binary frame does what its reception says. -/
theorem processRxBinaryFrame_receives (buf : List UInt8) (now : UInt32) (taken : Bool)
    (s : State) :
    Receives (frameReception buf taken) s (processRxBinaryFrame buf now taken s) := by
  unfold processRxBinaryFrame frameReception
  by_cases empty : buf = []
  · subst empty
    exact ⟨rfl, rfl⟩
  · rw [if_neg empty]
    by_cases ack : byteAt buf 0 = ack2Magic
    · rw [if_pos ack, if_pos ack]
      cases parseAck2Frame buf with
      | none => exact ⟨rfl, rfl⟩
      | some seqEcho => exact acknowledge_receives _ _ _ _
    · rw [if_neg ack, if_neg ack]
      by_cases up : byteAt buf 0 = up2Magic
      · rw [if_pos up, if_pos up]
        cases parseUp2Frame buf <;> exact ⟨rfl, rfl⟩
      · rw [if_neg up, if_neg up]
        exact ⟨rfl, rfl⟩

/-- The state with zeros in what receiving changes. -/
def State.unreceived (s : State) : State :=
  { s with
    rxAckCount := 0
    rxCmdCount := 0
    rxErrorCount := 0
    noAckCount := 0
    ackReceivedThisCycle := false
    seqFailCount := 0
    lastAckTimestampMs := 0
    pendingUplinkFeedback := .ok
    rxLineBuf := []
    rxFrameMode := .none
    rxFrameTargetLen := 0
    outputs := []
    events := [] }

/-- An acknowledgement changes nothing but what receiving changes. -/
theorem acknowledge_unreceived (inSequence : Bool) (mismatch : String) (now : UInt32)
    (s : State) : (acknowledge inSequence mismatch now s).unreceived = s.unreceived := by
  cases inSequence <;> rfl

/-- A text line changes nothing but what receiving changes. -/
theorem processRxLine_unreceived (line : List UInt8) (now : UInt32) (taken : Bool) (s : State) :
    (processRxLine line now taken s).unreceived = s.unreceived := by
  unfold processRxLine processUpFrame
  dsimp only
  repeat' split
  all_goals first | rfl | exact acknowledge_unreceived _ _ _ _

/-- A binary frame changes nothing but what receiving changes. -/
theorem processRxBinaryFrame_unreceived (buf : List UInt8) (now : UInt32) (taken : Bool)
    (s : State) : (processRxBinaryFrame buf now taken s).unreceived = s.unreceived := by
  unfold processRxBinaryFrame
  repeat' split
  all_goals first | rfl | exact acknowledge_unreceived _ _ _ _

/-- A received byte changes nothing but what receiving changes. -/
theorem receiveByte_unreceived (byte : UInt8) (now : UInt32) (taken : Bool) (s : State) :
    (receiveByte byte now taken s).unreceived = s.unreceived := by
  have continued (s : State) : (continueFrame byte now taken s).unreceived = s.unreceived := by
    unfold continueFrame
    dsimp only
    repeat' split
    all_goals
      first
      | rfl
      | exact processRxLine_unreceived _ _ _ _
      | exact processRxBinaryFrame_unreceived _ _ _ _
  have stored : (storeByte byte s).unreceived = s.unreceived := by
    unfold storeByte startFrame
    dsimp only
    repeat' split
    all_goals rfl
  unfold receiveByte
  by_cases room : s.rxLineBuf.length < lineBufLen - 1
  · rw [if_pos room]
    exact (continued _).trans stored
  · rw [if_neg room]
    rfl

/-- A received byte leaves the port as it is. -/
theorem receiveByte_serialOpen (byte : UInt8) (now : UInt32) (taken : Bool) (s : State) :
    (receiveByte byte now taken s).serialOpen = s.serialOpen := by
  have same := congrArg State.serialOpen (receiveByte_unreceived byte now taken s)
  exact same

/-- Storing a byte changes neither feedback nor outputs. -/
theorem storeByte_receives (byte : UInt8) (s : State) : Receives .silent s (storeByte byte s) := by
  unfold storeByte startFrame
  dsimp only
  repeat' split
  all_goals exact ⟨rfl, rfl⟩

/-- A stored byte does what its reception says. -/
theorem continueFrame_receives (byte : UInt8) (now : UInt32) (taken : Bool) (s : State) :
    Receives (continueReception byte taken s) s (continueFrame byte now taken s) := by
  unfold continueFrame continueReception
  cases s.rxFrameMode with
  | none => exact ⟨rfl, rfl⟩
  | text =>
    dsimp only
    by_cases newline : byte = 10
    · rw [if_pos newline, if_pos newline]
      have handled := processRxLine_receives s.rxLineBuf now taken s
      exact ⟨handled.feedback, handled.outputs⟩
    · rw [if_neg newline, if_neg newline]
      exact ⟨rfl, rfl⟩
  | up2Hdr =>
    dsimp only
    split_ifs <;> exact ⟨rfl, rfl⟩
  | ack2 | up2Body =>
    dsimp only
    by_cases complete : s.rxLineBuf.length ≥ s.rxFrameTargetLen
    · rw [if_pos complete, if_pos complete]
      have handled := processRxBinaryFrame_receives s.rxLineBuf now taken s
      exact ⟨handled.feedback, handled.outputs⟩
    · rw [if_neg complete, if_neg complete]
      exact ⟨rfl, rfl⟩

/-- A received byte does what its reception says: it completes a frame, which is handled whole,
or leaves feedback and outputs alone. -/
theorem receiveByte_receives (byte : UInt8) (now : UInt32) (taken : Bool) (s : State) :
    Receives (byteReception byte taken s) s (receiveByte byte now taken s) := by
  unfold receiveByte byteReception
  by_cases room : s.rxLineBuf.length < lineBufLen - 1
  · rw [if_pos room, if_pos room]
    have stored := storeByte_receives byte s
    have continued := continueFrame_receives byte now taken (storeByte byte s)
    constructor
    · rw [continued.feedback, stored.feedback]
      rfl
    · rw [continued.outputs, stored.outputs]
      rfl
  · rw [if_neg room, if_neg room]
    exact ⟨rfl, rfl⟩

end CfsTelemetry.Lora
