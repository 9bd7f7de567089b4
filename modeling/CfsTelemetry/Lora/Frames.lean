import CfsTelemetry.Library.Crc
import CfsTelemetry.Library.Words
import CfsTelemetry.Lora.State
import CfsTelemetry.Lora.Text

/-!
# Frames of the LoRa link

What comes up: acknowledgements and commands, each as a text line of version 1 or as a binary
frame of version 2. What goes down: the binary frame of version 2, which carries the feedback
on the last uplink frame in its sixth byte.
-/
namespace CfsTelemetry.Lora

open Words Text

/-- The checksum of the link (`LORA_TDM_APP_Crc16`). -/
def crc16 (bytes : List UInt8) : UInt16 := Crc.checksum 0x1021 0xFFFF bytes

/-- First byte of a binary downlink frame. -/
def dl2Magic : UInt8 := 0xD2

/-- First byte of a binary command. -/
def up2Magic : UInt8 := 0xB2

/-- First byte of a binary acknowledgement. -/
def ack2Magic : UInt8 := 0xA2

/-- A byte of a frame; the length checks keep the reads inside. -/
def byteAt (buf : List UInt8) (index : Nat) : UInt8 := buf[index]?.getD 0

/-- The 16-bit word at an offset of a frame (`GetU16LE`). -/
def getU16LE (buf : List UInt8) (offset : Nat) : UInt16 :=
  word16 (byteAt buf offset) (byteAt buf (offset + 1))

/-- The sequence a text acknowledgement echoes. -/
def parseAckFrame (line : List UInt8) : Option UInt32 :=
  if line.take 4 ≠ codes "ACK," then none
  else
    match strtoul 10 (line.drop 4) with
    | none => none
    | some (value, rest) =>
      if rest.head? = some 10 ∨ rest.head? = some 13 ∨ rest = [] then some (UInt32.ofNat value)
      else none

/-- The sequence a binary acknowledgement echoes. -/
def parseAck2Frame (buf : List UInt8) : Option UInt32 :=
  if buf.length < 5 then none
  else if byteAt buf 0 ≠ ack2Magic then none
  else if crc16 (buf.take 3) ≠ getU16LE buf 3 then none
  else some (getU16LE buf 1).toUInt32

/-- A decoded binary command (`LORA_TDM_APP_Up2Decoded_t`). -/
structure Up2Decoded where
  version : UInt8
  commandClass : UInt8
  seq : UInt16
  flags : UInt8
  payloadLen : UInt8
  payload : Vector UInt8 maxPayloadLength
  deriving DecidableEq

/-- The payload array that holds a list of bytes, with zeros after it. -/
def payloadOf (bytes : List UInt8) : Vector UInt8 maxPayloadLength :=
  Vector.ofFn fun index => bytes[index.val]?.getD 0

/-- Decode a binary command. -/
def parseUp2Frame (buf : List UInt8) : Option Up2Decoded :=
  if buf.length < 8 then none
  else if byteAt buf 0 ≠ up2Magic then none
  else
    let plen := byteAt buf 1
    if buf.length < 7 + plen.toNat + 2 ∨ plen > 196 then none
    else if crc16 (buf.take (7 + plen.toNat)) ≠ getU16LE buf (7 + plen.toNat) then none
    else some {
      version := byteAt buf 2
      commandClass := byteAt buf 3
      seq := getU16LE buf 4
      flags := byteAt buf 6
      payloadLen := plen
      payload := payloadOf ((buf.drop 7).take plen.toNat) }

/-- The command the uplink application is sent for the fields of a frame, with the checksum it
checks. -/
def forwardedCmd (version commandClass : UInt8) (seq : UInt16) (flags payloadLen : UInt8)
    (payload : Vector UInt8 maxPayloadLength) : ProcessUplinkCmd where
  version := version
  commandClass := commandClass
  payloadLength := payloadLen
  flags := flags
  sequence := seq
  checksum := crc16 ([version, commandClass, payloadLen, flags, seq.toUInt8,
    (seq >>> 8).toUInt8] ++ payload.toList.take payloadLen.toNat)
  payload := payload

/-- Why a text command is not forwarded. -/
inductive UpDefect where
  | format | tooLong | checksum (expected actual : UInt16) | payload
  deriving DecidableEq, Repr

/-- The fields of a text command: version, class, sequence, flags, payload and checksum. The
second format is for a payload field without characters, which the first cannot read. -/
def scanUpFields (text : List UInt8) :
    Option (List UInt8 × List UInt8 × List UInt8 × List UInt8 × List UInt8 × List UInt8) :=
  let first := do
    let (version, text) ← scanField 7 text
    let text ← scanComma text
    let (commandClass, text) ← scanField 7 text
    let text ← scanComma text
    let (seq, text) ← scanField 7 text
    let text ← scanComma text
    let (flags, text) ← scanField 7 text
    let text ← scanComma text
    some (version, commandClass, seq, flags, text)
  let full := do
    let (version, commandClass, seq, flags, text) ← first
    let (payload, text) ← scanField text.length text
    let text ← scanComma text
    let (crc, _) ← scanWord 7 text
    some (version, commandClass, seq, flags, payload, crc)
  let empty := do
    let (version, commandClass, seq, flags, text) ← first
    let text ← scanComma text
    let (crc, _) ← scanWord 7 text
    some (version, commandClass, seq, flags, [], crc)
  full <|> empty

/-- Decode a text command, the text of a line that starts with `UP,`. -/
def parseUpFrame (line : List UInt8) : Except UpDefect ProcessUplinkCmd :=
  match scanUpFields (line.drop 3) with
  | none => .error .format
  | some (versionStr, classStr, seqStr, flagsStr, payloadHex, crcStr) =>
    let version := (strtoulValue 0 versionStr).toUInt8
    let commandClass := (strtoulValue 0 classStr).toUInt8
    let seq := (strtoulValue 0 seqStr).toUInt16
    let flags := (strtoulValue 0 flagsStr).toUInt8
    let expected := (strtoulValue 16 crcStr).toUInt16
    let canonical := codes "UP," ++ versionStr ++ [comma] ++ classStr ++ [comma] ++ seqStr ++
      [comma] ++ flagsStr ++ [comma] ++ payloadHex
    if canonical.length ≥ 640 then .error .tooLong
    else if crc16 canonical ≠ expected then .error (.checksum expected (crc16 canonical))
    else if payloadHex.length % 2 ≠ 0 ∨ payloadHex.length / 2 > 196 then .error .payload
    else
      match hexBytes payloadHex with
      | none => .error .payload
      | some bytes => .ok (forwardedCmd version commandClass seq flags
          (payloadHex.length / 2).toUInt8 (payloadOf bytes))

/-! ## The binary downlink frame -/

/-- Radians in units of 1e-4, cut to 16 bits. -/
def scaleRadToI16 (rad : UInt32) : Int16 :=
  let value := (Float32.ofBits rad).toFloat * 10000.0
  let clamped := if value > 32767.0 then 32767.0 else if value < -32768.0 then -32768.0 else value
  clamped.toInt16

/-- Metres in centimetres, cut to 16 bits, and whether the cut was needed. -/
def scaleMeterToI16Cm (meters : UInt32) : Int16 × Bool :=
  let centimeters := (Float32.ofBits meters).toFloat * 100.0
  if centimeters > 32767.0 then ((32767.0 : Float).toInt16, true)
  else if centimeters < -32768.0 then ((-32768.0 : Float).toInt16, true)
  else (centimeters.toInt16, false)

/-- Bytes of a signed 16-bit value. -/
def bytesI16 (value : Int16) : List UInt8 := bytes16 value.toUInt16

/-- Bytes of a signed 32-bit value. -/
def bytesI32 (value : Int32) : List UInt8 := bytes32 value.toUInt32

/-- Bytes of a 64-bit value. -/
def bytes64 (value : UInt64) : List UInt8 :=
  bytes32 value.toUInt32 ++ bytes32 (value >>> 32).toUInt32

/-- Length of the fields that every frame has, without the tail. -/
def dl2BaseLen : Nat := 45

/-- Length of the tail. -/
def dl2TailLen : Nat := 3

/-- Length of the shortest frame. -/
def dl2FrameLen : Nat := 50

/-- Length of the block with the system time. -/
def dl2SystimeBlockLen : Nat := 8

/-- Length of the block with a page of waypoints. -/
def dl2WaypointBlockLen : Nat := 30

/-- Length of the longest frame. -/
def dl2MaxFrameLen : Nat := 88

/-- Waypoints of one page. -/
def dl2WaypointsPerPage : UInt8 := 2

/-- A waypoint of a page, or zeros. -/
def waypointSlot (present : Bool) (waypoint : Waypoint) : List UInt8 :=
  if present then
    waypoint.cmdType :: (bytesI32 waypoint.latE7 ++ bytesI32 waypoint.lonE7 ++ bytes32 waypoint.z)
  else List.replicate 13 0

/-- The page of waypoints of a route readback. -/
def waypointBlock (s : State) : List UInt8 :=
  let startIdx := s.routePageIndex * dl2WaypointsPerPage
  let remaining := if startIdx ≥ s.routeWaypointCount then 0 else s.routeWaypointCount - startIdx
  let inPage := if remaining < dl2WaypointsPerPage then remaining else dl2WaypointsPerPage
  let waypoint (index : Nat) := s.routeWaypoints[index]?.getD .zero
  [s.routeType, s.routePageIndex, s.routeTotalPages, inPage] ++
    waypointSlot (inPage ≥ 1) (waypoint startIdx.toNat) ++
    waypointSlot (inPage ≥ 2) (waypoint (startIdx.toNat + 1))

/-- The flags of a frame: a saturated coordinate, and which blocks follow. -/
def dl2Flags (systime waypoints : Bool) (s : State) : UInt8 :=
  let saturated := [s.fcState.posX, s.fcState.posY, s.fcState.posZ, s.fcState.velX,
    s.fcState.velY, s.fcState.velZ].any fun value => (scaleMeterToI16Cm value).2
  (if saturated then 0x02 else 0) ||| (if systime then 0x01 else 0) |||
    (if waypoints then 0x04 else 0)

/-- The first six bytes of a frame. -/
def dl2Header (flags bodyLen : UInt8) (s : State) : List UInt8 :=
  [dl2Magic, bodyLen, s.downlinkSeq.toUInt8, (s.downlinkSeq >>> 8).toUInt8, flags,
    s.pendingUplinkFeedback.code]

/-- The bytes of a frame between its header and its checksum, with the blocks it is to have. -/
def dl2Fields (systime waypoints : Bool) (s : State) : List UInt8 :=
  bytes32 s.fcState.timestampMs ++
    bytesI16 (scaleRadToI16 s.fcState.rollRad) ++ bytesI16 (scaleRadToI16 s.fcState.pitchRad) ++
    bytesI16 (scaleRadToI16 s.fcState.yawRad) ++
    bytesI16 (scaleMeterToI16Cm s.fcState.posX).1 ++
    bytesI16 (scaleMeterToI16Cm s.fcState.posY).1 ++
    bytesI16 (scaleMeterToI16Cm s.fcState.posZ).1 ++
    bytesI16 (scaleMeterToI16Cm s.fcState.velX).1 ++
    bytesI16 (scaleMeterToI16Cm s.fcState.velY).1 ++
    bytesI16 (scaleMeterToI16Cm s.fcState.velZ).1 ++
    bytesI32 s.fcState.latE7 ++ bytesI32 s.fcState.lonE7 ++ bytesI32 s.fcState.altMm ++
    [s.fcState.gpsFix, s.fcState.satellitesVisible, s.systemHealth.systemHealthState,
      s.systemHealth.faultCode, s.linkState.code] ++
    (if systime then bytes64 s.fcState.timeUnixUsec else []) ++
    bytes16 s.uplinkLastAcceptedSequence ++ [s.uplinkBootCount] ++
    (if waypoints then waypointBlock s else [])

/-- Build a binary downlink frame for a buffer of a given length. -/
def buildDl2Frame (bufLen : Nat) (s : State) : Option (List UInt8) :=
  if bufLen < dl2FrameLen then none
  else
    let systime := s.fcState.timeValid != 0 && decide (dl2MaxFrameLen ≤ bufLen)
    let waypointOffset := dl2BaseLen + (if systime then dl2SystimeBlockLen else 0) + dl2TailLen
    let waypoints := s.routeReadbackPending &&
      decide (waypointOffset + dl2WaypointBlockLen + 2 ≤ bufLen)
    let bodyLen := waypointOffset + (if waypoints then dl2WaypointBlockLen else 0)
    let body := dl2Header (dl2Flags systime waypoints s) bodyLen.toUInt8 s ++
      dl2Fields systime waypoints s
    some (body ++ bytes16 (crc16 body))

/-- The sixth byte of a downlink frame is the feedback. -/
theorem buildDl2Frame_feedback {bufLen : Nat} {s : State} {frame : List UInt8}
    (built : buildDl2Frame bufLen s = some frame) :
    byteAt frame 5 = s.pendingUplinkFeedback.code := by
  unfold buildDl2Frame at built
  by_cases short : bufLen < dl2FrameLen
  · rw [if_pos short] at built
    cases built
  · rw [if_neg short] at built
    rw [← Option.some.inj built, dl2Header, List.append_assoc]
    exact rfl

end CfsTelemetry.Lora
