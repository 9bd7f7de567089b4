import CfsTelemetry.Lora.Frames

/-!
# The downlink decoder of the ground station

What the ground makes of the bytes that come down: binary frames of version 2 and text lines of
version 1, mixed in one stream, with the encoder that the decoder is tested against. A read
outside the bytes of a frame raises an error, here the value `none`. The real-valued fields of a
frame are held as the scaled integers that the frame carries, and a height as its bit pattern.
-/
namespace CfsTelemetry.Ground

open Words Lora

/-- One shift of the register, cut to 16 bits. -/
def shiftCrc (crc : Nat) : Nat :=
  if crc &&& 0x8000 ≠ 0 then ((crc <<< 1) ^^^ 0x1021) &&& 0xFFFF else (crc <<< 1) &&& 0xFFFF

/-- The checksum of a frame, on integers of any size. -/
def crc16Ccitt (data : List UInt8) : Nat :=
  data.foldl (fun crc byte => Nat.repeat shiftCrc 8 (crc ^^^ (byte.toNat <<< 8))) 0xFFFF

/-- The byte at an offset (format `B`). -/
def unpackB (frame : List UInt8) (offset : Nat) : Option UInt8 := frame[offset]?

/-- The 16-bit word at an offset (format `<H`). -/
def unpackH (frame : List UInt8) (offset : Nat) : Option UInt16 :=
  match frame.drop offset with
  | b0 :: b1 :: _ => some (word16 b0 b1)
  | _ => none

/-- The signed 16-bit word at an offset (format `<h`). -/
def unpackSignedH (frame : List UInt8) (offset : Nat) : Option Int16 :=
  (unpackH frame offset).map UInt16.toInt16

/-- The 32-bit word at an offset (formats `<I` and `<f`, a float by its pattern). -/
def unpackI (frame : List UInt8) (offset : Nat) : Option UInt32 :=
  (take32 (frame.drop offset)).map Prod.fst

/-- The signed 32-bit word at an offset (format `<i`). -/
def unpackSignedI (frame : List UInt8) (offset : Nat) : Option Int32 :=
  (unpackI frame offset).map UInt32.toInt32

/-- The 64-bit word at an offset (format `<Q`). -/
def unpackQ (frame : List UInt8) (offset : Nat) : Option UInt64 := do
  let low ← unpackI frame offset
  let high ← unpackI frame (offset + 4)
  some (low.toUInt64 ||| (high.toUInt64 <<< 32))

/-! ## Frames -/

/-- A waypoint of a page. -/
structure PageWaypoint where
  cmdType : UInt8
  latE7 : Int32
  lonE7 : Int32
  z : UInt32
  deriving DecidableEq, Repr

/-- A decoded frame (`Dl2Frame`), real-valued fields as scaled integers. -/
structure Dl2Frame where
  seq : UInt16
  flags : UInt8
  ufb : UInt8
  tsMs : UInt32
  rollRad : Int16
  pitchRad : Int16
  yawRad : Int16
  xM : Int16
  yM : Int16
  zM : Int16
  vxMps : Int16
  vyMps : Int16
  vzMps : Int16
  latE7 : Int32
  lonE7 : Int32
  altMm : Int32
  fix : UInt8
  sats : UInt8
  health : UInt8
  fault : UInt8
  linkstate : UInt8
  sysTimeUnixUsec : Option UInt64
  uplinkLastSeq : UInt16
  uplinkBootCount : UInt8
  wpRouteType : Option UInt8
  wpPageIndex : Option UInt8
  wpTotalPages : Option UInt8
  wpWaypoints : Option (List PageWaypoint)
  deriving DecidableEq, Repr

/-- Flag of the block with the system time. -/
def dl2FlagSystime : UInt8 := 0x01

/-- Flag of the block with a page of waypoints. -/
def dl2FlagWaypoint : UInt8 := 0x04

/-- The waypoint at an offset (format `<Biif`). -/
def unpackWaypoint (frame : List UInt8) (offset : Nat) : Option PageWaypoint := do
  let cmdType ← unpackB frame offset
  let latE7 ← unpackSignedI frame (offset + 1)
  let lonE7 ← unpackSignedI frame (offset + 5)
  let z ← unpackI frame (offset + 9)
  some ⟨cmdType, latE7, lonE7, z⟩

/-- A page of waypoints. -/
structure Page where
  routeType : UInt8
  pageIndex : UInt8
  totalPages : UInt8
  waypoints : List PageWaypoint

/-- The page at an offset, with as many of its two waypoints as it says it has. -/
def unpackPage (frame : List UInt8) (offset : Nat) : Option Page := do
  let routeType ← unpackB frame offset
  let pageIndex ← unpackB frame (offset + 1)
  let totalPages ← unpackB frame (offset + 2)
  let inPage ← unpackB frame (offset + 3)
  let first ← unpackWaypoint frame (offset + 4)
  let second ← unpackWaypoint frame (offset + 4 + 13)
  some ⟨routeType, pageIndex, totalPages, [first, second].take inPage.toNat⟩

/-- Whether a frame has the block with the system time. -/
def hasSysTime (flags : UInt8) (frame : List UInt8) : Bool :=
  flags &&& dl2FlagSystime != 0 &&
    decide (frame.length ≥ dl2BaseLen + dl2SystimeBlockLen + dl2TailLen + 2)

/-- Where the tail of a frame begins. -/
def tailOffset (flags : UInt8) (frame : List UInt8) : Nat :=
  if hasSysTime flags frame then dl2BaseLen + dl2SystimeBlockLen else dl2BaseLen

/-- The system time of a frame. -/
def unpackSysTime (flags : UInt8) (frame : List UInt8) : Option (Option UInt64) :=
  if hasSysTime flags frame then (unpackQ frame dl2BaseLen).map some else some none

/-- The tail of a frame. -/
def unpackTail (flags : UInt8) (frame : List UInt8) : Option (UInt16 × UInt8) :=
  if frame.length ≥ tailOffset flags frame + dl2TailLen + 2 then do
    let lastSeq ← unpackH frame (tailOffset flags frame)
    let bootCount ← unpackB frame (tailOffset flags frame + 2)
    some (lastSeq, bootCount)
  else some (0, 0)

/-- The page of a frame. -/
def unpackPageBlock (flags : UInt8) (frame : List UInt8) : Option (Option Page) :=
  let wpOffset := tailOffset flags frame + dl2TailLen
  if flags &&& dl2FlagWaypoint != 0 &&
      decide (frame.length ≥ wpOffset + dl2WaypointBlockLen + 2) then
    (unpackPage frame wpOffset).map some
  else some none

/-- Decode a complete frame, from its first byte to its checksum. -/
def decodeDl2 (frame : List UInt8) : Option Dl2Frame := do
  let seq ← unpackH frame 2
  let flags ← unpackB frame 4
  let ufb ← unpackB frame 5
  let tsMs ← unpackI frame 6
  let rollRad ← unpackSignedH frame 10
  let pitchRad ← unpackSignedH frame 12
  let yawRad ← unpackSignedH frame 14
  let xM ← unpackSignedH frame 16
  let yM ← unpackSignedH frame 18
  let zM ← unpackSignedH frame 20
  let vxMps ← unpackSignedH frame 22
  let vyMps ← unpackSignedH frame 24
  let vzMps ← unpackSignedH frame 26
  let latE7 ← unpackSignedI frame 28
  let lonE7 ← unpackSignedI frame 32
  let altMm ← unpackSignedI frame 36
  let fix ← unpackB frame 40
  let sats ← unpackB frame 41
  let health ← unpackB frame 42
  let fault ← unpackB frame 43
  let linkstate ← unpackB frame 44
  let sysTime ← unpackSysTime flags frame
  let tail ← unpackTail flags frame
  let page ← unpackPageBlock flags frame
  some {
    seq := seq
    flags := flags
    ufb := ufb
    tsMs := tsMs
    rollRad := rollRad
    pitchRad := pitchRad
    yawRad := yawRad
    xM := xM
    yM := yM
    zM := zM
    vxMps := vxMps
    vyMps := vyMps
    vzMps := vzMps
    latE7 := latE7
    lonE7 := lonE7
    altMm := altMm
    fix := fix
    sats := sats
    health := health
    fault := fault
    linkstate := linkstate
    sysTimeUnixUsec := sysTime
    uplinkLastSeq := tail.1
    uplinkBootCount := tail.2
    wpRouteType := page.map Page.routeType
    wpPageIndex := page.map Page.pageIndex
    wpTotalPages := page.map Page.totalPages
    wpWaypoints := page.map Page.waypoints }

/-- The bytes of a waypoint (format `<Biif`). -/
def packWaypoint (waypoint : PageWaypoint) : List UInt8 :=
  waypoint.cmdType :: (bytesI32 waypoint.latE7 ++ bytesI32 waypoint.lonE7 ++ bytes32 waypoint.z)

/-- The waypoint of a slot that is not used. -/
def PageWaypoint.zero : PageWaypoint := ⟨0, 0, 0, 0⟩

/-- The bytes of the page of a frame. -/
def packPage (frame : Dl2Frame) (waypoints : List PageWaypoint) : List UInt8 :=
  let slots := waypoints ++ List.replicate (2 - waypoints.length) PageWaypoint.zero
  [frame.wpRouteType.getD 0, frame.wpPageIndex.getD 0, frame.wpTotalPages.getD 0,
      UInt8.ofNat waypoints.length] ++
    packWaypoint (slots[0]?.getD .zero) ++ packWaypoint (slots[1]?.getD .zero)

/-- The bytes of the block with the system time (format `<Q`), if there is one. -/
def packSysTime : Option UInt64 → List UInt8
  | some usec => bytes64 usec
  | none => []

/-- The bytes of the block with a page, if there is one. -/
def packPageBlock (frame : Dl2Frame) : List UInt8 :=
  match frame.wpWaypoints with
  | some waypoints => packPage frame waypoints
  | none => []

/-- Encode a frame. More waypoints than fit a byte raise an error. -/
def encodeDl2 (frame : Dl2Frame) : Option (List UInt8) :=
  if (frame.wpWaypoints.getD []).length > 255 then none
  else
    let systime := frame.sysTimeUnixUsec.isSome
    let waypoints := frame.wpWaypoints.isSome
    let flags := frame.flags ||| (if systime then dl2FlagSystime else 0) |||
      (if waypoints then dl2FlagWaypoint else 0)
    let bodyLen := dl2BaseLen + (if systime then dl2SystimeBlockLen else 0) + dl2TailLen +
      (if waypoints then dl2WaypointBlockLen else 0)
    let body := [dl2Magic, UInt8.ofNat bodyLen] ++ bytes16 frame.seq ++ [flags, frame.ufb] ++
      bytes32 frame.tsMs ++
      bytesI16 frame.rollRad ++ bytesI16 frame.pitchRad ++ bytesI16 frame.yawRad ++
      bytesI16 frame.xM ++ bytesI16 frame.yM ++ bytesI16 frame.zM ++
      bytesI16 frame.vxMps ++ bytesI16 frame.vyMps ++ bytesI16 frame.vzMps ++
      bytesI32 frame.latE7 ++ bytesI32 frame.lonE7 ++ bytesI32 frame.altMm ++
      [frame.fix, frame.sats, frame.health, frame.fault, frame.linkstate] ++
      packSysTime frame.sysTimeUnixUsec ++
      bytes16 frame.uplinkLastSeq ++ [frame.uplinkBootCount] ++ packPageBlock frame
    some (body ++ bytes16 (UInt16.ofNat (crc16Ccitt body)))

/-! ## The stream -/

/-- What the stream makes of its bytes. -/
inductive StreamEvent where
  | frame (frame : Dl2Frame)
  | line (text : String)
  | decodeError (reason : String)
  deriving DecidableEq, Repr

/-- The longest unfinished text line (`MAX_V1_LINE`). -/
def maxV1Line : Nat := 256

/-- The character of a byte, where a byte that is not ASCII is replaced. -/
def asciiChar (byte : UInt8) : Char :=
  if byte < 128 then Char.ofNat byte.toNat else Char.ofNat 0xFFFD

/-- The characters of a line without carriage returns at its ends. -/
def stripReturns (chars : List Char) : List Char :=
  ((chars.dropWhile (· == '\r')).reverse.dropWhile (· == '\r')).reverse

/-- Two bytes in lower-case hexadecimal digits. -/
def hexPair (bytes : List UInt8) : String :=
  String.ofList (bytes.flatMap fun byte =>
    List.leftpad 2 '0' (Nat.toDigits 16 byte.toNat))

/-- Try to take a frame from the front of the buffer: the event and the bytes it takes up, of
which there are none while the frame is not complete. -/
def tryParseDl2 (buf : List UInt8) : Option (Option StreamEvent × Nat) :=
  if buf.length < 2 then some (none, 0)
  else
    let bodyLen := (byteAt buf 1).toNat
    let minLen := dl2BaseLen + dl2TailLen
    let maxLen := dl2BaseLen + dl2SystimeBlockLen + dl2TailLen + dl2WaypointBlockLen
    if bodyLen < minLen ∨ bodyLen > maxLen then
      some (some (.decodeError s!"bad DL2 len {bodyLen}"), 1)
    else if buf.length < bodyLen + 2 then some (none, 0)
    else do
      let frame := buf.take (bodyLen + 2)
      let rxCrc ← unpackH frame bodyLen
      if crc16Ccitt (frame.take bodyLen) ≠ rxCrc.toNat then
        some (some (.decodeError s!"DL2 crc fail seq_area={hexPair ((frame.drop 2).take 2)}"), 1)
      else
        let decoded ← decodeDl2 frame
        some (some (.frame decoded), bodyLen + 2)

/-- Try to take a text line from the front of the buffer. The first byte of a frame ends what is
before it. -/
def tryParseV1Line (buf : List UInt8) : Option StreamEvent × Nat :=
  let newline := buf.findIdx? (· == 10)
  let start := buf.findIdx? (· == dl2Magic)
  let beforeMagic := match start, newline with
    | some index, some ending => decide (index < ending)
    | some _, none => true
    | none, _ => false
  if beforeMagic then
    let index := start.getD 0
    (some (.decodeError s!"garbage before DL2 magic ({index} bytes)"), index)
  else
    match newline with
    | none =>
      if buf.length > maxV1Line then (some (.decodeError "v1 line overflow"), buf.length)
      else (none, 0)
    | some ending =>
      (some (.line (String.ofList (stripReturns ((buf.take ending).map asciiChar)))), ending + 1)

/-- Try to take an event from the front of the buffer. -/
def tryParse (buf : List UInt8) : Option (Option StreamEvent × Nat) :=
  match buf with
  | [] => some (none, 0)
  | first :: _ =>
    if first = dl2Magic then tryParseDl2 buf
    else if first = up2Magic ∨ first = ack2Magic then
      some (some (.decodeError s!"unexpected magic 0x{hexText 2 first.toNat}"), 1)
    else if (0x20 ≤ first ∧ first < 0x7F) ∨ first = 0x0A ∨ first = 0x0D then
      some (tryParseV1Line buf)
    else some (some (.decodeError s!"garbage byte 0x{hexText 2 first.toNat}"), 1)

/-- Take events from the front of the buffer as long as there are any: the events, and the bytes
that are left. -/
def drain (buf : List UInt8) : Option (List StreamEvent × List UInt8) := do
  let (event, consumed) ← tryParse buf
  if 0 < consumed ∧ 0 < buf.length then
    let (events, rest) ← drain (buf.drop consumed)
    some (event.toList ++ events, rest)
  else some ([], buf)
termination_by buf.length
decreasing_by
  rw [List.length_drop]
  omega

/-- Feed a stream with a chunk of bytes (`DownlinkStream.feed`). -/
def feed (buf chunk : List UInt8) : Option (List StreamEvent × List UInt8) := drain (buf ++ chunk)

/-- Feed a stream with chunks in order. -/
def feedAll (buf : List UInt8) : List (List UInt8) → Option (List StreamEvent × List UInt8)
  | [] => some ([], buf)
  | chunk :: rest => do
    let (events, buf) ← feed buf chunk
    let (later, buf) ← feedAll buf rest
    some (events ++ later, buf)

end CfsTelemetry.Ground
