import CfsTelemetry.Shared
import CfsTelemetry.Library.Words

/-!
# Frames of the flight-controller line

The received frame as the parser holds it when its last byte arrives, its checksum, and the
frames the bridge sends. The checksum of a frame covers a constant of its message, so each
message of the source comes with its identifier and its constant.
-/
namespace CfsTelemetry.Bridge

open Words

/-- Fold a byte into the checksum register. -/
def crcAccumulate (crc : UInt16) (data : UInt8) : UInt16 :=
  let low := data ^^^ crc.toUInt8
  let tmp := low ^^^ (low <<< 4)
  (crc >>> 8) ^^^ (tmp.toUInt16 <<< 8) ^^^ (tmp.toUInt16 <<< 3) ^^^ (tmp.toUInt16 >>> 4)

/-- A message of the protocol: its identifier and the constant its checksum ends with. -/
structure MessageKind where
  id : UInt32
  crcExtra : UInt8
  deriving DecidableEq, Repr

namespace MessageKind

/-- `HEARTBEAT` -/
def heartbeat : MessageKind := ⟨0, 50⟩

/-- `SYSTEM_TIME` -/
def sysTime : MessageKind := ⟨2, 137⟩

/-- `GPS_RAW_INT` -/
def gpsRawInt : MessageKind := ⟨24, 24⟩

/-- `ATTITUDE` -/
def attitude : MessageKind := ⟨30, 39⟩

/-- `LOCAL_POSITION_NED` -/
def localPositionNed : MessageKind := ⟨32, 185⟩

/-- `GLOBAL_POSITION_INT` -/
def globalPositionInt : MessageKind := ⟨33, 104⟩

/-- `MISSION_ITEM` -/
def missionItem : MessageKind := ⟨39, 254⟩

/-- `MISSION_REQUEST` -/
def missionRequest : MessageKind := ⟨40, 230⟩

/-- `MISSION_SET_CURRENT` -/
def missionSetCurrent : MessageKind := ⟨41, 28⟩

/-- `MISSION_CURRENT` -/
def missionCurrent : MessageKind := ⟨42, 28⟩

/-- `MISSION_REQUEST_LIST` -/
def missionRequestList : MessageKind := ⟨43, 132⟩

/-- `MISSION_COUNT` -/
def missionCount : MessageKind := ⟨44, 221⟩

/-- `MISSION_CLEAR_ALL` -/
def missionClearAll : MessageKind := ⟨45, 232⟩

/-- `MISSION_ACK` -/
def missionAck : MessageKind := ⟨47, 153⟩

/-- `MISSION_REQUEST_INT` -/
def missionRequestInt : MessageKind := ⟨51, 196⟩

/-- `MISSION_ITEM_INT` -/
def missionItemInt : MessageKind := ⟨73, 38⟩

/-- `COMMAND_LONG` -/
def commandLong : MessageKind := ⟨76, 152⟩

/-- `COMMAND_ACK` -/
def commandAck : MessageKind := ⟨77, 143⟩

/-- `EKF_STATUS_REPORT` -/
def ekfStatusReport : MessageKind := ⟨193, 71⟩

end MessageKind

/-- A frame whose last byte has arrived (`MAVLINK_BRIDGE_APP_ParserContext_t`). -/
structure RxFrame where
  isV2 : Bool
  payloadLen : UInt8
  seq : UInt8
  sysId : UInt8
  compId : UInt8
  msgId : UInt32
  payload : List UInt8
  /-- The two checksum bytes that ended the frame. -/
  receivedCrc : UInt16
  deriving DecidableEq, Repr

/-- A byte of a payload; the parser's buffer holds zeros after the bytes received. -/
def payloadByte (payload : List UInt8) (index : Nat) : UInt8 := payload[index]?.getD 0

/-- The 16-bit word at an offset of a payload. -/
def readU16LE (payload : List UInt8) (offset : Nat) : UInt16 :=
  word16 (payloadByte payload offset) (payloadByte payload (offset + 1))

/-- The 32-bit word at an offset of a payload. -/
def readU32LE (payload : List UInt8) (offset : Nat) : UInt32 :=
  word32 (payloadByte payload offset) (payloadByte payload (offset + 1))
    (payloadByte payload (offset + 2)) (payloadByte payload (offset + 3))

/-- Zeros that are left out at the end are read all the same. -/
theorem payloadByte_append_zeros {kept zeros : List UInt8} (all : ∀ byte ∈ zeros, byte = 0) :
    payloadByte (kept ++ zeros) = payloadByte kept := by
  funext index
  rw [payloadByte, payloadByte]
  by_cases inside : index < kept.length
  · rw [List.getElem?_append_left inside]
  · rw [List.getElem?_append_right (by omega), @List.getElem?_eq_none _ kept index (by omega)]
    cases found : zeros[index - kept.length]? with
    | none => rfl
    | some byte => exact all byte (List.mem_of_getElem? found)

/-- A word is read from its bytes. -/
theorem readU32LE_bytes32 (word : UInt32) (rest : List UInt8) :
    readU32LE (bytes32 word ++ rest) 0 = word := word32_bytes word

/-- A word is read behind another. -/
theorem readU32LE_skip (word : UInt32) (rest : List UInt8) (offset : Nat) :
    readU32LE (bytes32 word ++ rest) (offset + 4) = readU32LE rest offset := rfl

/-- A half word is read from its bytes. -/
theorem readU16LE_bytes16 (word : UInt16) (rest : List UInt8) :
    readU16LE (bytes16 word ++ rest) 0 = word := word16_bytes word

/-- A byte is read behind a word. -/
theorem payloadByte_skip (word : UInt32) (rest : List UInt8) (offset : Nat) :
    payloadByte (bytes32 word ++ rest) (offset + 4) = payloadByte rest offset := by
  simp [payloadByte, bytes32]

/-- A byte is read behind a half word. -/
theorem payloadByte_skip16 (word : UInt16) (rest : List UInt8) (offset : Nat) :
    payloadByte (bytes16 word ++ rest) (offset + 2) = payloadByte rest offset := by
  simp [payloadByte, bytes16]

/-- A half word is read behind a word. -/
theorem readU16LE_skip (word : UInt32) (rest : List UInt8) (offset : Nat) :
    readU16LE (bytes32 word ++ rest) (offset + 4) = readU16LE rest offset := by
  rw [readU16LE, payloadByte_skip, Nat.add_right_comm, payloadByte_skip, readU16LE]

/-- A half word is read behind another. -/
theorem readU16LE_skip16 (word : UInt16) (rest : List UInt8) (offset : Nat) :
    readU16LE (bytes16 word ++ rest) (offset + 2) = readU16LE rest offset := by
  rw [readU16LE, payloadByte_skip16, Nat.add_right_comm, payloadByte_skip16, readU16LE]

/-- The bytes of a received frame that its checksum covers. The flag bytes of version 2 count as
zeros. -/
def RxFrame.covered (frame : RxFrame) : List UInt8 :=
  let flags : List UInt8 := if frame.isV2 then [0, 0] else []
  let highId : List UInt8 :=
    if frame.isV2 then [(frame.msgId >>> 8).toUInt8, (frame.msgId >>> 16).toUInt8] else []
  [frame.payloadLen] ++ flags ++ [frame.seq, frame.sysId, frame.compId, frame.msgId.toUInt8] ++
    highId ++ (List.range frame.payloadLen.toNat).map (payloadByte frame.payload)

/-- The checksum of a received frame for a constant of its message. -/
def computeFrameCrc (frame : RxFrame) (crcExtra : UInt8) : UInt16 :=
  (frame.covered ++ [crcExtra]).foldl crcAccumulate 0xFFFF

/-- A frame of a message whose checksum is right. -/
def RxFrame.checks (frame : RxFrame) (kind : MessageKind) : Bool :=
  computeFrameCrc frame kind.crcExtra == frame.receivedCrc

/-- A frame of version 2 with a right checksum. -/
def RxFrame.of (kind : MessageKind) (payload : List UInt8) : RxFrame :=
  let frame : RxFrame := {
    isV2 := true
    payloadLen := UInt8.ofNat payload.length
    seq := 0
    sysId := 1
    compId := 1
    msgId := kind.id
    payload := payload
    receivedCrc := 0 }
  { frame with receivedCrc := computeFrameCrc frame kind.crcExtra }

/-- The checksum of such a frame is right. -/
theorem RxFrame.of_checks (kind : MessageKind) (payload : List UInt8) :
    (RxFrame.of kind payload).checks kind = true := by
  have same : computeFrameCrc (RxFrame.of kind payload) kind.crcExtra =
      (RxFrame.of kind payload).receivedCrc := rfl
  rw [RxFrame.checks, same]
  exact beq_self_eq_true _

/-! ## Sent frames -/

/-- A frame written to the line. -/
structure TxFrame where
  seq : UInt8
  kind : MessageKind
  payload : List UInt8
  deriving DecidableEq, Repr

/-- System identifier of the bridge. -/
def systemId : UInt8 := 255

/-- Component identifier of the bridge. -/
def componentId : UInt8 := 190

/-- Bytes that a sent frame has room for. -/
def maxFrameLen : Nat := 64

/-- The bytes of a sent frame. -/
def TxFrame.bytes (frame : TxFrame) : List UInt8 :=
  let covered := [UInt8.ofNat frame.payload.length, 0, 0, frame.seq, systemId, componentId,
    frame.kind.id.toUInt8, (frame.kind.id >>> 8).toUInt8, (frame.kind.id >>> 16).toUInt8] ++
    frame.payload
  [0xFD] ++ covered ++ bytes16 ((covered ++ [frame.kind.crcExtra]).foldl crcAccumulate 0xFFFF)

/-- Which mission of the flight controller is meant: the flight plan. -/
def missionTypeMission : UInt8 := 0

/-- The frame of item coordinates: global, with the altitude above home. -/
def frameGlobalRelativeAlt : UInt8 := 3

/-- The result of an accepted mission transfer, and of an accepted command. -/
def missionAccepted : UInt8 := 0

/-- The payload of a `MISSION_ITEM_INT` for a target system and component. -/
def missionItemIntPayload (system component : UInt8) (wp : Waypoint) (seq : UInt8)
    (current : Bool) : List UInt8 :=
  bytes32 wp.param1 ++ bytes32 wp.param2 ++ bytes32 wp.param3 ++ bytes32 wp.param4 ++
    bytes32 wp.latE7.toUInt32 ++ bytes32 wp.lonE7.toUInt32 ++ bytes32 wp.z ++
    bytes16 seq.toUInt16 ++ bytes16 wp.cmdType.toUInt16 ++
    [system, component, frameGlobalRelativeAlt, if current then 1 else 0, 1, missionTypeMission]

/-- A coordinate in degrees, in single precision. -/
def degreesE7 (coordinate : Int32) : Float32 := coordinate.toFloat32 / 10000000

/-- The payload of a legacy `MISSION_ITEM` for a target system and component. -/
def missionItemPayload (system component : UInt8) (wp : Waypoint) (seq : UInt8) : List UInt8 :=
  List.replicate 16 0 ++ bytes32 (degreesE7 wp.latE7).toBits ++
    bytes32 (degreesE7 wp.lonE7).toBits ++ bytes32 wp.z ++ bytes16 seq.toUInt16 ++
    bytes16 wp.cmdType.toUInt16 ++ [system, component, frameGlobalRelativeAlt, 0, 1]

/-- The index that the payload of an item names. -/
def itemSeq (payload : List UInt8) : UInt16 := readU16LE payload 28

/-- Whether the payload of an item marks it as the current one. -/
def itemCurrent (payload : List UInt8) : Bool := payloadByte payload 35 == 1

/-- An item names its index. -/
theorem itemSeq_missionItemInt (system component : UInt8) (wp : Waypoint) (seq : UInt8)
    (current : Bool) :
    itemSeq (missionItemIntPayload system component wp seq current) = seq.toUInt16 := by
  have word : itemSeq (missionItemIntPayload system component wp seq current) =
      word16 seq.toUInt16.toUInt8 (seq.toUInt16 >>> 8).toUInt8 := rfl
  rw [word, word16_bytes]

/-- An item is marked as the current one when it is built as such. -/
theorem itemCurrent_missionItemInt (system component : UInt8) (wp : Waypoint) (seq : UInt8)
    (current : Bool) :
    itemCurrent (missionItemIntPayload system component wp seq current) = current := by
  cases current <;> rfl

/-- No legacy item is marked as the current one. -/
theorem itemCurrent_missionItem (system component : UInt8) (wp : Waypoint) (seq : UInt8) :
    itemCurrent (missionItemPayload system component wp seq) = false := rfl

end CfsTelemetry.Bridge
