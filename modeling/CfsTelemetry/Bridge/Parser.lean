import CfsTelemetry.Library.Framing
import CfsTelemetry.Bridge.Service

/-!
# The byte parser

The parser of the serial line takes one byte at a time and hands a frame over when its last byte
arrives. Frames of both versions, with anything but start markers between them, are handed over
one by one, however the bytes are cut into reads; and whatever arrives, the parser waits for a
start marker again soon.
-/
namespace CfsTelemetry.Bridge

open Framing Slots Words

/-- Most payload bytes of a frame. -/
def maxPayloadLen : Nat := 255

/-- Start marker of a frame of version 1. -/
def stxV1 : UInt8 := 0xFE

/-- Start marker of a frame of version 2. -/
def stxV2 : UInt8 := 0xFD

/-- What the parser waits for (`MAVLINK_BRIDGE_APP_ParseState_t`). -/
inductive ParseState where
  | waitStx | gotLength | gotIncompat | gotCompat | gotSeq | gotSysId | gotCompId | gotMsgId1
  | gotMsgId2 | gotMsgId3 | readingPayload | gotCrc1 | gotCrc2
  deriving DecidableEq, Repr

/-- The parser with what it has of a frame (`MAVLINK_BRIDGE_APP_ParserContext_t`). -/
structure Parser where
  state : ParseState
  isV2 : Bool
  payloadLen : UInt8
  payloadIndex : UInt8
  seq : UInt8
  sysId : UInt8
  compId : UInt8
  msgId : UInt32
  crcLow : UInt8
  crcHigh : UInt8
  payload : Vector UInt8 maxPayloadLen
  deriving DecidableEq, Repr

/-- The parser that waits for a start marker, with everything else cleared. -/
def resetParser : Parser where
  state := .waitStx
  isV2 := false
  payloadLen := 0
  payloadIndex := 0
  seq := 0
  sysId := 0
  compId := 0
  msgId := 0
  crcLow := 0
  crcHigh := 0
  payload := Vector.replicate maxPayloadLen 0

/-- The frame that the parser hands over; the buffer holds zeros after the payload. -/
def Parser.frame (p : Parser) : RxFrame where
  isV2 := p.isV2
  payloadLen := p.payloadLen
  seq := p.seq
  sysId := p.sysId
  compId := p.compId
  msgId := p.msgId
  payload := held p.payloadLen.toNat p.payload
  receivedCrc := word16 p.crcLow p.crcHigh

/-- What becomes of a byte besides the parser's own change. -/
inductive ParseItem where
  | frame (frame : RxFrame)
  | parseError
  deriving DecidableEq, Repr

/-- Take a byte. -/
def parseByte (p : Parser) (byte : UInt8) : Parser × List ParseItem :=
  match p.state with
  | .waitStx =>
    if byte = stxV1 then ({ resetParser with isV2 := false, state := .gotLength }, [])
    else if byte = stxV2 then ({ resetParser with isV2 := true, state := .gotLength }, [])
    else (p, [])
  | .gotLength =>
    if byte.toNat > maxPayloadLen then (resetParser, [.parseError])
    else
      ({ p with
        payloadLen := byte
        state := if p.isV2 then .gotIncompat else .gotSeq }, [])
  | .gotIncompat => ({ p with state := .gotCompat }, [])
  | .gotCompat => ({ p with state := .gotSeq }, [])
  | .gotSeq => ({ p with seq := byte, state := .gotSysId }, [])
  | .gotSysId => ({ p with sysId := byte, state := .gotCompId }, [])
  | .gotCompId => ({ p with compId := byte, state := .gotMsgId1 }, [])
  | .gotMsgId1 =>
    ({ p with
      msgId := byte.toUInt32
      state :=
        if p.isV2 then .gotMsgId2
        else if p.payloadLen = 0 then .gotCrc1 else .readingPayload }, [])
  | .gotMsgId2 =>
    ({ p with msgId := p.msgId ||| (byte.toUInt32 <<< 8), state := .gotMsgId3 }, [])
  | .gotMsgId3 =>
    ({ p with
      msgId := p.msgId ||| (byte.toUInt32 <<< 16)
      state := if p.payloadLen = 0 then .gotCrc1 else .readingPayload }, [])
  | .readingPayload =>
    let index := p.payloadIndex + 1
    ({ p with
      payload := p.payload.setIfInBounds p.payloadIndex.toNat byte
      payloadIndex := index
      state := if index ≥ p.payloadLen then .gotCrc1 else p.state }, [])
  | .gotCrc1 => ({ p with crcLow := byte, state := .gotCrc2 }, [])
  | .gotCrc2 => (resetParser, [.frame { p with crcHigh := byte }.frame])

/-- What the bridge does with what the parser hands over. -/
def handleItem (env : Env) (rxTimestampMs : UInt32) (s : State) : ParseItem → State
  | .frame frame => handleFrameComplete env frame rxTimestampMs s
  | .parseError => recordParseError .parseFail s

/-- Take a byte, and handle a frame when it is the last one of it. -/
def processReceivedByte (env : Env) (rxTimestampMs : UInt32) (line : Parser × State)
    (byte : UInt8) : Parser × State :=
  ((parseByte line.1 byte).1,
    (parseByte line.1 byte).2.foldl (handleItem env rxTimestampMs) line.2)

/-- Take the bytes of a read. -/
def handleReceivedBytes (env : Env) (buffer : List UInt8) (timestampMs : UInt32)
    (line : Parser × State) : Parser × State :=
  buffer.foldl (processReceivedByte env timestampMs)
    (line.1, noteBytes buffer.length timestampMs line.2)

/-- A frame of the protocol without a signature, of either version, with the constant that its
checksum ends with. -/
structure WireFrame where
  isV2 : Bool
  seq : UInt8
  sysId : UInt8
  compId : UInt8
  msgId : UInt32
  payload : List UInt8
  crcExtra : UInt8
  fits : payload.length ≤ maxPayloadLen
  named : msgId.toNat < if isV2 then 2 ^ 24 else 2 ^ 8

/-- The number of a heartbeat fits a frame. -/
theorem heartbeat_named : MessageKind.heartbeat.id.toNat < 2 ^ 24 := by decide

namespace WireFrame

/-- The bytes that the checksum covers. -/
def covered (frame : WireFrame) : List UInt8 :=
  let length := UInt8.ofNat frame.payload.length
  if frame.isV2 then
    [length, 0, 0, frame.seq, frame.sysId, frame.compId, frame.msgId.toUInt8,
      (frame.msgId >>> 8).toUInt8, (frame.msgId >>> 16).toUInt8] ++ frame.payload
  else
    [length, frame.seq, frame.sysId, frame.compId, frame.msgId.toUInt8] ++ frame.payload

/-- The checksum. -/
def crc (frame : WireFrame) : UInt16 :=
  (frame.covered ++ [frame.crcExtra]).foldl crcAccumulate 0xFFFF

/-- The bytes on the line. -/
def bytes (frame : WireFrame) : List UInt8 :=
  [if frame.isV2 then stxV2 else stxV1] ++ frame.covered ++ bytes16 frame.crc

/-- The frame as the parser hands it over. -/
def received (frame : WireFrame) : RxFrame where
  isV2 := frame.isV2
  payloadLen := UInt8.ofNat frame.payload.length
  seq := frame.seq
  sysId := frame.sysId
  compId := frame.compId
  msgId := frame.msgId
  payload := frame.payload
  receivedCrc := frame.crc

/-- The checksum that the parser computes covers the same bytes. -/
theorem received_covered (frame : WireFrame) : frame.received.covered = frame.covered := by
  have length : (UInt8.ofNat frame.payload.length).toNat = frame.payload.length := by
    have fits := frame.fits
    apply UInt8.toNat_ofNat_of_lt'
    show _ < 256
    have most : maxPayloadLen = 255 := rfl
    omega
  have payload : (List.range frame.payload.length).map (payloadByte frame.payload) =
      frame.payload := by
    apply List.ext_getElem?
    intro index
    by_cases inside : index < frame.payload.length
    · simp [payloadByte, inside]
    · simp [inside]
  unfold RxFrame.covered covered
  dsimp only [received]
  rw [length, payload]
  by_cases second : frame.isV2 = true
  · simp [second]
  · simp [second]

/-- The checksum of a frame is right for a message of its identifier and constant. -/
theorem received_checks (frame : WireFrame) {kind : MessageKind}
    (constant : frame.crcExtra = kind.crcExtra) : frame.received.checks kind = true := by
  have same : computeFrameCrc frame.received kind.crcExtra = frame.received.receivedCrc := by
    rw [computeFrameCrc, received_covered, ← constant]
    rfl
  rw [RxFrame.checks, same]
  exact beq_self_eq_true _

end WireFrame

/-! ## Frame by frame -/

/-- The parser after the header of a frame. -/
def WireFrame.header (frame : WireFrame) : Parser :=
  { resetParser with
    isV2 := frame.isV2
    payloadLen := UInt8.ofNat frame.payload.length
    seq := frame.seq
    sysId := frame.sysId
    compId := frame.compId
    msgId := frame.msgId
    state := if UInt8.ofNat frame.payload.length = 0 then .gotCrc1 else .readingPayload }

/-- The identifier of a frame of version 2 is that of its three bytes. -/
theorem msgId_bytes {msgId : UInt32} (named : msgId.toNat < 2 ^ 24) :
    msgId.toUInt8.toUInt32 ||| ((msgId >>> 8).toUInt8.toUInt32 <<< 8) |||
      ((msgId >>> 16).toUInt8.toUInt32 <<< 16) = msgId := by
  have top : (msgId >>> 24).toUInt8 = 0 := by
    apply UInt8.toNat_inj.mp
    rw [UInt32.toNat_toUInt8, UInt32.toNat_shiftRight]
    show msgId.toNat >>> 24 % 256 = 0
    rw [Nat.shiftRight_eq_div_pow]
    omega
  have all := word32_bytes msgId
  rw [top, word32] at all
  have nothing : (0 : UInt8).toUInt32 <<< 24 = 0 := rfl
  rw [nothing, UInt32.or_zero] at all
  exact all

/-- The identifier of a frame of version 1 is its byte. -/
theorem msgId_byte {msgId : UInt32} (named : msgId.toNat < 2 ^ 8) :
    msgId.toUInt8.toUInt32 = msgId := by
  apply UInt32.toNat_inj.mp
  rw [UInt8.toNat_toUInt32, UInt32.toNat_toUInt8]
  exact Nat.mod_eq_of_lt named

/-- From a start marker on, the parser takes the header. -/
theorem feed_header (frame : WireFrame) {p : Parser} (waiting : p.state = .waitStx) :
    ∃ header : List UInt8, [if frame.isV2 then stxV2 else stxV1] ++ frame.covered =
        header ++ frame.payload ∧ feed parseByte p header = (frame.header, []) := by
  have fits := frame.fits
  have named := frame.named
  have small : ¬ (UInt8.ofNat frame.payload.length).toNat > maxPayloadLen :=
    Nat.not_lt.mpr (Nat.le_of_lt_succ (UInt8.toNat_lt _))
  by_cases second : frame.isV2 = true
  · rw [if_pos second] at named
    refine ⟨[stxV2, UInt8.ofNat frame.payload.length, 0, 0, frame.seq, frame.sysId, frame.compId,
      frame.msgId.toUInt8, (frame.msgId >>> 8).toUInt8, (frame.msgId >>> 16).toUInt8], ?_, ?_⟩
    · simp [WireFrame.covered, second]
    · have other : stxV2 ≠ stxV1 := by decide
      simp only [feed, parseByte, waiting, other, if_false, if_true, small, WireFrame.header,
        second, msgId_bytes named, List.append_nil]
  · rw [if_neg second] at named
    refine ⟨[stxV1, UInt8.ofNat frame.payload.length, frame.seq, frame.sysId, frame.compId,
      frame.msgId.toUInt8], ?_, ?_⟩
    · simp [WireFrame.covered, second]
    · simp only [feed, parseByte, waiting, if_false, if_true, small, WireFrame.header,
        second, msgId_byte named, List.append_nil, Bool.false_eq_true]

/-- The parser takes payload bytes until it has as many as the header says. -/
theorem feed_payload (rest : List UInt8) (more : rest ≠ []) (p : Parser) (taken : List UInt8)
    (reading : p.state = .readingPayload) (index : p.payloadIndex.toNat = taken.length)
    (length : p.payloadLen.toNat = taken.length + rest.length)
    (stored : held taken.length p.payload = taken) :
    ∃ payload index, feed parseByte p rest =
        ({ p with payload := payload, payloadIndex := index, state := .gotCrc1 }, []) ∧
      held p.payloadLen.toNat payload = taken ++ rest := by
  induction rest generalizing p taken with
  | nil => exact absurd rfl more
  | cons byte rest previous =>
    have bound := p.payloadLen.toNat_lt
    have most : maxPayloadLen = 255 := rfl
    rw [List.length_cons] at length
    have next : (p.payloadIndex + 1).toNat = taken.length + 1 := by
      rw [byte_succ (by omega), index]
    have room : taken.length < maxPayloadLen := by omega
    have stores : held (taken.length + 1)
        (p.payload.setIfInBounds p.payloadIndex.toNat byte) = taken ++ [byte] := by
      have written := held_setIfInBounds taken.length byte p.payload
      rw [if_pos room, Nat.min_eq_left (by omega), Nat.min_eq_left (by omega), stored] at written
      rw [index]
      exact written
    by_cases last : rest = []
    · subst last
      have complete : p.payloadIndex + 1 ≥ p.payloadLen := by
        rw [ge_iff_le, UInt8.le_iff_toNat_le, next, length]
        simp
      refine ⟨p.payload.setIfInBounds p.payloadIndex.toNat byte, p.payloadIndex + 1, ?_, ?_⟩
      · simp only [feed, parseByte, reading, complete, if_true, List.append_nil]
      · rw [length]
        exact stores
    · have positive := List.length_pos_of_ne_nil last
      have incomplete : ¬ p.payloadIndex + 1 ≥ p.payloadLen := by
        rw [ge_iff_le, UInt8.le_iff_toNat_le, next, length]
        omega
      let p' : Parser := { p with
        payload := p.payload.setIfInBounds p.payloadIndex.toNat byte
        payloadIndex := p.payloadIndex + 1
        state := .readingPayload }
      have step : parseByte p byte = (p', []) := by
        simp only [parseByte, reading, incomplete, if_false]
        rfl
      have grown : (taken ++ [byte]).length = taken.length + 1 := by simp
      obtain ⟨payload, index', fed, all⟩ := previous last p' (taken ++ [byte]) rfl
        (by rw [grown]; exact next) (by rw [grown]; show p.payloadLen.toNat = _; omega)
        (by rw [grown]; exact stores)
      refine ⟨payload, index', ?_, ?_⟩
      · rw [feed, step, fed]
        rfl
      · rw [List.append_assoc] at all
        exact all

/-- From a start marker on, the parser takes the bytes that the checksum of a frame covers. -/
theorem feed_covered (frame : WireFrame) {p : Parser} (waiting : p.state = .waitStx) :
    ∃ payload index,
      feed parseByte p ([if frame.isV2 then stxV2 else stxV1] ++ frame.covered) =
        ({ frame.header with payload := payload, payloadIndex := index, state := .gotCrc1 }, []) ∧
      held frame.payload.length payload = frame.payload := by
  have fits := frame.fits
  have most : maxPayloadLen = 255 := rfl
  have length : (UInt8.ofNat frame.payload.length).toNat = frame.payload.length :=
    UInt8.toNat_ofNat_of_lt' (by show _ < 256; omega)
  obtain ⟨header, split, taken⟩ := feed_header frame waiting
  rw [split, feed_append, taken]
  by_cases empty : frame.payload = []
  · refine ⟨resetParser.payload, 0, ?_, ?_⟩
    · rw [empty]
      simp only [feed, WireFrame.header, empty]
      rfl
    · rw [empty]
      rfl
  · have positive := List.length_pos_of_ne_nil empty
    have some : UInt8.ofNat frame.payload.length ≠ 0 := by
      intro zero
      rw [zero] at length
      change 0 = _ at length
      omega
    have reading : frame.header.state = .readingPayload := if_neg some
    obtain ⟨payload, index, fed, all⟩ := feed_payload frame.payload empty frame.header []
      reading rfl (by show (UInt8.ofNat frame.payload.length).toNat = _; simp [length]) rfl
    refine ⟨payload, index, ?_, ?_⟩
    · rw [fed]
      rfl
    · change held (UInt8.ofNat frame.payload.length).toNat payload = _ at all
      rw [length] at all
      exact all

/-- With any two bytes for its checksum, a frame is handed over. -/
theorem feed_checksum (frame : WireFrame) {p : Parser} (waiting : p.state = .waitStx)
    (crcLow crcHigh : UInt8) :
    feed parseByte p ([if frame.isV2 then stxV2 else stxV1] ++ frame.covered ++
        [crcLow, crcHigh]) =
      (resetParser, [.frame { frame.received with receivedCrc := word16 crcLow crcHigh }]) := by
  have fits := frame.fits
  have most : maxPayloadLen = 255 := rfl
  have length : (UInt8.ofNat frame.payload.length).toNat = frame.payload.length :=
    UInt8.toNat_ofNat_of_lt' (by show _ < 256; omega)
  obtain ⟨payload, index, fed, all⟩ := feed_covered frame waiting
  have complete : ({ frame.header with
      payload := payload
      payloadIndex := index
      crcLow := crcLow
      crcHigh := crcHigh
      state := .gotCrc2 } : Parser).frame =
        { frame.received with receivedCrc := word16 crcLow crcHigh } := by
    simp only [Parser.frame, WireFrame.header, WireFrame.received, length, all]
  rw [feed_append, fed]
  simp only [feed, parseByte, List.append_nil, List.nil_append]
  rw [← complete]

/-- From a start marker on, the parser takes a frame and hands it over. -/
theorem feed_frame (frame : WireFrame) {p : Parser} (waiting : p.state = .waitStx) :
    feed parseByte p frame.bytes = (resetParser, [.frame frame.received]) := by
  have taken := feed_checksum frame waiting frame.crc.toUInt8 (frame.crc >>> 8).toUInt8
  rw [word16_bytes] at taken
  exact taken

/-- A piece of the stream: a frame, or a byte between frames that starts none. -/
inductive Piece where
  | frame (frame : WireFrame)
  | gap (byte : UInt8) (other : byte ≠ stxV1 ∧ byte ≠ stxV2)

/-- The bytes of a piece. -/
def Piece.bytes : Piece → List UInt8
  | .frame sent => sent.bytes
  | .gap byte _ => [byte]

/-- The frame of a piece. -/
def Piece.received : Piece → List RxFrame
  | .frame sent => [sent.received]
  | .gap _ _ => []

/-- From a parser that waits for a start marker, the frames of a stream are handed over one by
one. -/
theorem feed_stream (pieces : List Piece) {p : Parser} (waiting : p.state = .waitStx) :
    (feed parseByte p (pieces.flatMap Piece.bytes)).1.state = .waitStx ∧
      (feed parseByte p (pieces.flatMap Piece.bytes)).2 =
        (pieces.flatMap Piece.received).map .frame := by
  have each : ∀ (p : Parser) (piece : Piece), p.state = .waitStx →
      (feed parseByte p piece.bytes).1.state = .waitStx ∧
        (feed parseByte p piece.bytes).2 = piece.received.map ParseItem.frame := by
    intro p piece waiting
    cases piece with
    | frame frame =>
      rw [Piece.bytes, feed_frame frame waiting]
      exact ⟨rfl, rfl⟩
    | gap byte other =>
      simp only [Piece.bytes, Piece.received, feed, parseByte, waiting, other.1, other.2, if_false,
        List.map_nil, List.append_nil]
      exact ⟨trivial, trivial⟩
  obtain ⟨last, items⟩ := feed_pieces each pieces p waiting
  refine ⟨last, ?_⟩
  rw [items, List.map_flatMap]

/-- Whether the parser is within the header of a frame. -/
def ParseState.inHeader : ParseState → Bool
  | gotLength | gotIncompat | gotCompat | gotSeq | gotSysId | gotCompId | gotMsgId1 | gotMsgId2
  | gotMsgId3 => true
  | _ => false

/-- What holds of the parser whatever was received: no payload byte is taken within a header, and
the next one has a place. -/
structure Parser.Sound (p : Parser) : Prop where
  header : p.state.inHeader = true → p.payloadIndex = 0
  payload : p.state = .readingPayload → p.payloadIndex.toNat < p.payloadLen.toNat

/-- The bytes that the parser takes at most until it waits for a start marker. -/
def Parser.rank (p : Parser) : Nat :=
  let length := p.payloadLen.toNat
  match p.state with
  | .waitStx => 0
  | .gotLength => 266
  | .gotIncompat => 10 + length
  | .gotCompat => 9 + length
  | .gotSeq => 8 + length
  | .gotSysId => 7 + length
  | .gotCompId => 6 + length
  | .gotMsgId1 => 5 + length
  | .gotMsgId2 => 4 + length
  | .gotMsgId3 => 3 + length
  | .readingPayload => 2 + (length - p.payloadIndex.toNat)
  | .gotCrc1 => 2
  | .gotCrc2 => 1

/-- A parser that has taken no payload byte and is not reading any is sound. -/
theorem Parser.Sound.of_first {p : Parser} (first : p.payloadIndex = 0)
    (other : p.state ≠ .readingPayload) : p.Sound :=
  ⟨fun _ => first, fun reading => absurd reading other⟩

/-- A parser behind the payload is sound. -/
theorem Parser.Sound.of_behind {p : Parser} (past : p.state.inHeader = false)
    (other : p.state ≠ .readingPayload) : p.Sound :=
  ⟨fun within => absurd within (by simp [past]), fun reading => absurd reading other⟩

/-- The parser behind the header. -/
def Parser.afterHeader (p : Parser) (msgId : UInt32) : Parser :=
  { p with msgId := msgId, state := if p.payloadLen = 0 then .gotCrc1 else .readingPayload }

/-- Behind the header the parser reads the payload, if there is any. -/
theorem Parser.afterHeader_sound {p : Parser} (first : p.payloadIndex = 0) (msgId : UInt32) :
    (p.afterHeader msgId).Sound ∧ (p.afterHeader msgId).rank ≤ 2 + p.payloadLen.toNat := by
  unfold Parser.afterHeader
  by_cases empty : p.payloadLen = 0
  · rw [if_pos empty]
    refine ⟨.of_behind rfl (by simp), ?_⟩
    simp only [Parser.rank]
    omega
  · rw [if_neg empty]
    have some : p.payloadLen.toNat ≠ 0 := fun zero => empty (UInt8.toNat_inj.mp zero)
    have start : p.payloadIndex.toNat = 0 := by rw [first, UInt8.toNat_zero]
    refine ⟨⟨fun _ => first, fun _ => ?_⟩, ?_⟩
    · dsimp only
      omega
    · simp only [Parser.rank]
      omega

/-- The parser behind a byte of the payload. -/
def Parser.afterPayload (p : Parser) (byte : UInt8) : Parser :=
  { p with
    payload := p.payload.setIfInBounds p.payloadIndex.toNat byte
    payloadIndex := p.payloadIndex + 1
    state := if p.payloadIndex + 1 ≥ p.payloadLen then .gotCrc1 else .readingPayload }

/-- A payload byte that is not the last leaves a place for the next one. -/
theorem Parser.afterPayload_sound {p : Parser}
    (place : p.payloadIndex.toNat < p.payloadLen.toNat) (byte : UInt8) :
    (p.afterPayload byte).Sound ∧
      (p.afterPayload byte).rank < 2 + (p.payloadLen.toNat - p.payloadIndex.toNat) := by
  have most := p.payloadLen.toNat_lt
  have taken := @byte_succ p.payloadIndex (by omega)
  unfold Parser.afterPayload
  by_cases last : p.payloadIndex + 1 ≥ p.payloadLen
  · rw [if_pos last]
    refine ⟨.of_behind rfl (by simp), ?_⟩
    simp only [Parser.rank]
    omega
  · rw [if_neg last]
    have below := UInt8.lt_iff_toNat_lt.mp (UInt8.not_le.mp last)
    refine ⟨⟨(fun within => nomatch within), fun _ => below⟩, ?_⟩
    simp only [Parser.rank, taken]
    omega

/-- A byte leaves the parser sound, and brings it nearer to waiting for a start marker. -/
theorem parseByte_sound {p : Parser} (sound : p.Sound) (byte : UInt8) :
    (parseByte p byte).1.Sound ∧
      (p.state ≠ .waitStx → (parseByte p byte).1.rank < p.rank) := by
  have cleared : resetParser.Sound := .of_behind rfl (by decide)
  have bound := byte.toNat_lt
  have first : p.state.inHeader = true → p.payloadIndex = 0 := sound.header
  unfold parseByte
  cases state : p.state with
  | waitStx =>
    refine ⟨?_, fun other => absurd rfl other⟩
    dsimp only
    split
    · exact .of_first rfl (by decide)
    · split
      · exact .of_first rfl (by decide)
      · exact sound
  | gotLength =>
    rw [state] at first
    have small : ¬ byte.toNat > maxPayloadLen := Nat.not_lt.mpr (Nat.le_of_lt_succ bound)
    dsimp only
    rw [if_neg small]
    cases p.isV2 with
    | true =>
      refine ⟨.of_first (first rfl) (by simp), fun _ => ?_⟩
      simp only [Parser.rank, state, if_true]
      omega
    | false =>
      refine ⟨.of_first (first rfl) (by simp), fun _ => ?_⟩
      simp only [Parser.rank, state, Bool.false_eq_true, if_false]
      omega
  | gotIncompat | gotCompat | gotSeq | gotSysId | gotCompId | gotMsgId2 =>
    rw [state] at first
    refine ⟨.of_first (first rfl) (by simp), fun _ => ?_⟩
    simp only [Parser.rank, state]
    omega
  | gotMsgId1 =>
    rw [state] at first
    dsimp only
    by_cases second : p.isV2 = true
    · rw [if_pos second]
      refine ⟨.of_first (first rfl) (by simp), fun _ => ?_⟩
      simp only [Parser.rank, state]
      omega
    · rw [if_neg second]
      have ⟨still, lower⟩ := Parser.afterHeader_sound (first rfl) byte.toUInt32
      refine ⟨still, fun _ => Nat.lt_of_le_of_lt lower ?_⟩
      simp only [Parser.rank, state]
      omega
  | gotMsgId3 =>
    rw [state] at first
    have ⟨still, lower⟩ := Parser.afterHeader_sound (first rfl)
      (p.msgId ||| (byte.toUInt32 <<< 16))
    refine ⟨still, fun _ => Nat.lt_of_le_of_lt lower ?_⟩
    simp only [Parser.rank, state]
    omega
  | readingPayload =>
    have ⟨still, lower⟩ := Parser.afterPayload_sound (sound.payload state) byte
    refine ⟨still, fun _ => Nat.lt_of_lt_of_le lower ?_⟩
    simp only [Parser.rank, state, Nat.le_refl]
  | gotCrc1 =>
    refine ⟨.of_behind rfl (by simp), fun _ => ?_⟩
    simp only [Parser.rank, state]
    omega
  | gotCrc2 =>
    refine ⟨cleared, fun _ => ?_⟩
    simp only [Parser.rank, state]
    exact Nat.one_pos

/-- A parser that was reset is sound whatever it received. -/
theorem feed_sound (bytes : List UInt8) : (feed parseByte resetParser bytes).1.Sound := by
  have cleared : resetParser.Sound :=
    ⟨(fun impossible => nomatch impossible), fun impossible => nomatch impossible⟩
  exact @feed_invariant _ _ _ parseByte Parser.Sound
    (fun p byte sound => (parseByte_sound sound byte).1) bytes resetParser cleared

/-- After a start marker the parser waits for the next one within 266 bytes. -/
theorem waits_within {p : Parser} (sound : p.Sound) (waiting : p.state = .waitStx) {marker : UInt8}
    (starts : marker = stxV1 ∨ marker = stxV2) {rest : List UInt8} (long : 266 ≤ rest.length) :
    ∃ count ≤ 266, (feed parseByte p (marker :: rest.take count)).1.state = .waitStx := by
  have header : (parseByte p marker).1.state = .gotLength := by
    rcases starts with rfl | rfl
    · simp only [parseByte, waiting, if_true]
    · have other : stxV2 ≠ stxV1 := by decide
      simp only [parseByte, waiting, other, if_false, if_true]
  have rank : (parseByte p marker).1.rank = 266 := by
    simp only [Parser.rank, header]
  have within := @ready_within _ _ _ parseByte _ (fun p => p.state = .waitStx) Parser.Sound
    Parser.rank (fun p byte sound => (parseByte_sound sound byte).1)
    (fun p byte sound other => (parseByte_sound sound byte).2 other) rest (parseByte p marker).1
    (parseByte_sound sound marker).1 (by rw [rank]; exact long)
  rw [rank] at within
  exact within

/-- A read of the port: its bytes, its time and what the bridge meets while it handles them. -/
structure Read where
  buffer : List UInt8
  timeMs : UInt32
  env : Env

/-- Take reads one after another. -/
def serveReads (reads : List Read) (line : Parser × State) : Parser × State :=
  reads.foldl (fun line read => handleReceivedBytes read.env read.buffer read.timeMs line) line

/-- The frame among what the parser hands over. -/
def ParseItem.frame? : ParseItem → Option RxFrame
  | .frame complete => some complete
  | .parseError => none

/-- What happens to the bridge when reads are taken: their bytes are noted, and each frame that
the parser hands over is handled. -/
def readInputs (p : Parser) : List Read → List Input
  | [] => []
  | read :: rest =>
    .bytes read.buffer.length read.timeMs ::
      ((feed parseByte p read.buffer).2.filterMap ParseItem.frame?).map
        (fun complete => .frame complete read.timeMs read.env) ++
      readInputs (feed parseByte p read.buffer).1 rest

/-- The frames that are handled, in order. -/
def handedOver (inputs : List Input) : List RxFrame :=
  inputs.filterMap fun
    | .frame complete _ _ => some complete
    | _ => none

/-- A byte completes frames only: no length is too large for the buffer. -/
theorem parseByte_items (p : Parser) (byte : UInt8) :
    ∃ complete : List RxFrame, (parseByte p byte).2 = complete.map .frame := by
  have small : ¬ byte.toNat > maxPayloadLen := Nat.not_lt.mpr (Nat.le_of_lt_succ byte.toNat_lt)
  unfold parseByte
  cases p.state with
  | waitStx =>
    dsimp only
    split
    · exact ⟨[], rfl⟩
    · split <;> exact ⟨[], rfl⟩
  | gotLength =>
    dsimp only
    rw [if_neg small]
    exact ⟨[], rfl⟩
  | gotCrc2 => exact ⟨[_], rfl⟩
  | _ => exact ⟨[], rfl⟩

/-- The bytes of a read change the bridge as the frames that they complete. -/
theorem foldl_processReceivedByte (env : Env) (timeMs : UInt32) (buffer : List UInt8)
    (line : Parser × State) :
    buffer.foldl (processReceivedByte env timeMs) line =
      ((feed parseByte line.1 buffer).1, Run.run step line.2
        (((feed parseByte line.1 buffer).2.filterMap ParseItem.frame?).map
          fun complete => .frame complete timeMs env)) := by
  induction buffer generalizing line with
  | nil => rfl
  | cons byte rest previous =>
    obtain ⟨complete, items⟩ := parseByte_items line.1 byte
    have handled : ∀ s, (complete.map ParseItem.frame).foldl (handleItem env timeMs) s =
        Run.run step s (complete.map fun frame => .frame frame timeMs env) := by
      intro s
      rw [List.foldl_map, Run.run, List.foldl_map]
      rfl
    have names : (complete.map ParseItem.frame).filterMap ParseItem.frame? = complete := by
      rw [List.filterMap_map]
      exact List.filterMap_some
    rw [List.foldl_cons, previous, processReceivedByte, feed, List.filterMap_append,
      List.map_append, Run.run_append, items, handled, names]

/-- Taking reads is a run of what happens to the bridge with them. -/
theorem serveReads_run (reads : List Read) (p : Parser) (s : State) :
    serveReads reads (p, s) = ((feedReads parseByte p (reads.map Read.buffer)).1,
      Run.run step s (readInputs p reads)) := by
  induction reads generalizing p s with
  | nil => rfl
  | cons read rest previous =>
    have first : handleReceivedBytes read.env read.buffer read.timeMs (p, s) =
        ((feed parseByte p read.buffer).1, Run.run step s
          (.bytes read.buffer.length read.timeMs ::
            ((feed parseByte p read.buffer).2.filterMap ParseItem.frame?).map
              fun complete => .frame complete read.timeMs read.env)) := by
      rw [handleReceivedBytes, foldl_processReceivedByte]
      rfl
    rw [serveReads, List.foldl_cons, first, readInputs, Run.run_append]
    exact previous _ _

/-- The frames that are handled with reads are those of their bytes. -/
theorem handedOver_readInputs (reads : List Read) (p : Parser) :
    handedOver (readInputs p reads) =
      (feedReads parseByte p (reads.map Read.buffer)).2.filterMap ParseItem.frame? := by
  induction reads generalizing p with
  | nil => rfl
  | cons read rest previous =>
    have names : ∀ complete : List RxFrame, handedOver
        (complete.map fun frame => .frame frame read.timeMs read.env) = complete := by
      intro complete
      rw [handedOver, List.filterMap_map]
      exact List.filterMap_some
    have split : ∀ first second, handedOver (first ++ second) =
        handedOver first ++ handedOver second := fun first second => List.filterMap_append
    rw [readInputs, split, previous, List.map_cons, feedReads, List.filterMap_append]
    exact congrArg (· ++ _) (names _)

/-! ## What the bridge sends -/

/-- A sent frame as one of the line. -/
def TxFrame.wire (frame : TxFrame) (fits : frame.payload.length ≤ maxPayloadLen) : WireFrame where
  isV2 := true
  seq := frame.seq
  sysId := systemId
  compId := componentId
  msgId := frame.kind.id &&& 0xFFFFFF
  payload := frame.payload
  crcExtra := frame.kind.crcExtra
  fits := fits
  named := by
    rw [if_pos rfl, UInt32.toNat_and]
    exact Nat.lt_of_le_of_lt Nat.and_le_right (by decide)

/-- The bytes of a sent frame are those of the frame of the line. -/
theorem TxFrame.wire_bytes (frame : TxFrame) (fits : frame.payload.length ≤ maxPayloadLen) :
    (frame.wire fits).bytes = frame.bytes := by
  have low : (frame.kind.id &&& 0xFFFFFF).toNat = frame.kind.id.toNat % 2 ^ 24 := by
    rw [UInt32.toNat_and]
    exact Nat.and_two_pow_sub_one_eq_mod _ 24
  have id0 : (frame.kind.id &&& 0xFFFFFF).toUInt8 = frame.kind.id.toUInt8 := by
    apply UInt8.toNat_inj.mp
    rw [UInt32.toNat_toUInt8, UInt32.toNat_toUInt8, low]
    omega
  have id1 : ((frame.kind.id &&& 0xFFFFFF) >>> 8).toUInt8 = (frame.kind.id >>> 8).toUInt8 := by
    apply UInt8.toNat_inj.mp
    rw [UInt32.toNat_toUInt8, UInt32.toNat_toUInt8, UInt32.toNat_shiftRight,
      UInt32.toNat_shiftRight, low]
    show _ >>> 8 % _ = _ >>> 8 % _
    rw [Nat.shiftRight_eq_div_pow, Nat.shiftRight_eq_div_pow]
    omega
  have id2 : ((frame.kind.id &&& 0xFFFFFF) >>> 16).toUInt8 = (frame.kind.id >>> 16).toUInt8 := by
    apply UInt8.toNat_inj.mp
    rw [UInt32.toNat_toUInt8, UInt32.toNat_toUInt8, UInt32.toNat_shiftRight,
      UInt32.toNat_shiftRight, low]
    show _ >>> 16 % _ = _ >>> 16 % _
    rw [Nat.shiftRight_eq_div_pow, Nat.shiftRight_eq_div_pow]
    omega
  simp only [WireFrame.bytes, WireFrame.crc, WireFrame.covered, TxFrame.wire, TxFrame.bytes,
    if_true, id0, id1, id2]
  rfl

/-- What a send writes is a frame of the line with the payload and the message. -/
theorem sendMavlinkV2_writes (kind : MessageKind) (payload : List UInt8) (fault : Option TxFault)
    (s : State) {tx : TxFrame}
    (sent : (sendMavlinkV2 kind payload fault s).2.outputs = .tx tx :: s.outputs) :
    tx = ⟨s.txSequence, kind, payload⟩ ∧ payload.length ≤ maxPayloadLen := by
  have other : ∀ outputs : List Output, outputs ≠ .tx tx :: outputs := fun outputs same => by
    simpa using congrArg List.length same
  unfold sendMavlinkV2 at sent
  split at sent
  · exact absurd sent (other _)
  · split at sent
    · exact absurd sent (other _)
    · rename_i fits
      have most : maxFrameLen = 64 := rfl
      have room : maxPayloadLen = 255 := rfl
      cases fault with
      | none =>
        simp only [List.cons.injEq, Output.tx.injEq, and_true] at sent
        exact ⟨sent.symm, by omega⟩
      | some fault => exact absurd sent (other _)

/-- Frames of both versions are handed over once each, in order and as they were sent, however
the bytes of the line are cut into reads; their checksums are right; what is sent are such frames;
and whatever is received, the payload stays within its buffer and the parser waits for a start
marker within 266 bytes of the last one. -/
theorem parser_frames :
    (∀ (p : Parser) (s : State) (reads : List Read) (pieces : List Piece), p.state = .waitStx →
      (reads.map Read.buffer).flatten = pieces.flatMap Piece.bytes →
        (serveReads reads (p, s)).1.state = .waitStx ∧
        (serveReads reads (p, s)).2 = Run.run step s (readInputs p reads) ∧
        handedOver (readInputs p reads) = pieces.flatMap Piece.received) ∧
    (∀ (frame : WireFrame) (kind : MessageKind), frame.crcExtra = kind.crcExtra →
      frame.received.checks kind = true) ∧
    (∀ (kind : MessageKind) (payload : List UInt8) (fault : Option TxFault) (s : State)
      (tx : TxFrame), (sendMavlinkV2 kind payload fault s).2.outputs = .tx tx :: s.outputs →
        ∃ frame : WireFrame, tx.bytes = frame.bytes ∧ frame.isV2 = true ∧
          frame.seq = s.txSequence ∧ frame.sysId = systemId ∧ frame.compId = componentId ∧
          frame.msgId = kind.id &&& 0xFFFFFF ∧ frame.payload = payload ∧
          frame.crcExtra = kind.crcExtra) ∧
    (∀ bytes : List UInt8,
      ((feed parseByte resetParser bytes).1.state = .readingPayload →
        (feed parseByte resetParser bytes).1.payloadIndex.toNat < maxPayloadLen) ∧
      ((feed parseByte resetParser bytes).1.state = .waitStx →
        ∀ (marker : UInt8) (rest : List UInt8), marker = stxV1 ∨ marker = stxV2 →
          266 ≤ rest.length → ∃ count ≤ 266,
            (feed parseByte (feed parseByte resetParser bytes).1
              (marker :: rest.take count)).1.state = .waitStx)) := by
  refine ⟨?_, ?_, ?_, ?_⟩
  · intro p s reads pieces waiting cut
    obtain ⟨last, items⟩ := feed_stream pieces waiting
    rw [serveReads_run, handedOver_readInputs, feedReads_eq, cut, items]
    refine ⟨last, rfl, ?_⟩
    rw [List.filterMap_map]
    exact List.filterMap_some
  · intro frame kind constant
    exact frame.received_checks constant
  · intro kind payload fault s tx sent
    obtain ⟨written, fits⟩ := sendMavlinkV2_writes kind payload fault s sent
    subst written
    exact ⟨TxFrame.wire ⟨s.txSequence, kind, payload⟩ fits,
      (TxFrame.wire_bytes ⟨s.txSequence, kind, payload⟩ fits).symm, rfl, rfl, rfl, rfl, rfl, rfl,
      rfl⟩
  · intro bytes
    have sound := feed_sound bytes
    constructor
    · intro reading
      have place := sound.payload reading
      have most := (feed parseByte resetParser bytes).1.payloadLen.toNat_lt
      have size : maxPayloadLen = 255 := rfl
      omega
    · intro waiting marker rest starts long
      exact waits_within sound waiting starts long

end CfsTelemetry.Bridge
