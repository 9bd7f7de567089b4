import CfsTelemetry.Bridge.State

/-!
# State of the vehicle

What the bridge makes of the state messages of the flight controller. A payload may have lost
its trailing zeros on the way, so the decoders read zeros after its last byte.
-/
namespace CfsTelemetry.Bridge

/-- Record a frame with a wrong checksum or length. -/
def recordParseError (code : ErrorCode) (s : State) : State :=
  sendEvent .parse .information s!"MAVLINK_BRIDGE_APP: Parse/data error code={code.code}"
    { s with lastErrorCode := code, parseErrorCount := s.parseErrorCount + 1 }

/-- Record a state message with a wrong length. -/
def recordLengthError (msgId : UInt32) (actualLength expectedLength : UInt8) (s : State) : State :=
  sendEvent .parse .information
    (s!"MAVLINK_BRIDGE_APP: invalid payload msgid={msgId} actual={actualLength} " ++
      s!"expected={expectedLength}")
    { s with lastErrorCode := .invalidValue, parseErrorCount := s.parseErrorCount + 1 }

/-- Record a state message with a value that is not a number. -/
def recordNonFiniteError (msgId : UInt32) (s : State) : State :=
  sendEvent .nonFiniteValueErr .error
    s!"MAVLINK_BRIDGE_APP: non-finite value rejected msgid={msgId}"
    { s with
      lastErrorCode := .invalidValue
      nonFiniteValueCount := s.nonFiniteValueCount + 1 }

/-- Whether a decoded message is reported: the first ones, and then every 25th. -/
def shouldLogDecoded (sequence : UInt32) : Bool := sequence ≤ 3 ∨ sequence % 25 = 0

/-- Publish a decoded message, and report it now and then. -/
def publishDecoded (message : Message) (seq : UInt32) (report : String) (s : State) : State :=
  let published := transmitMsg message s
  if shouldLogDecoded seq then sendEvent .parse .information report published else published

/-- The 64-bit word at an offset of a payload. -/
def readU64LE (payload : List UInt8) (offset : Nat) : UInt64 :=
  (readU32LE payload offset).toUInt64 ||| ((readU32LE payload (offset + 4)).toUInt64 <<< 32)

/-- The six numbers that an attitude or a local position ends with. -/
def sixFloats (payload : List UInt8) : List UInt32 :=
  [4, 8, 12, 16, 20, 24].map (readU32LE payload)

/-- Publish an attitude. -/
def publishAttitude (frame : RxFrame) (rxTimestampMs : UInt32) (s : State) : State :=
  if frame.payloadLen > 28 then
    recordLengthError MessageKind.attitude.id frame.payloadLen 28 s
  else if (sixFloats frame.payload).all isFinite = false then
    recordNonFiniteError MessageKind.attitude.id s
  else
    let seq := s.sequenceCounter + 1
    let tlm : AttitudeTlm := {
      timestampMs := readU32LE frame.payload 0
      seq := seq
      valid := 1
      stale := 0
      errorCode := ErrorCode.none.code
      rollRad := readU32LE frame.payload 4
      pitchRad := readU32LE frame.payload 8
      yawRad := readU32LE frame.payload 12
      rollspeedRps := readU32LE frame.payload 16
      pitchspeedRps := readU32LE frame.payload 20
      yawspeedRps := readU32LE frame.payload 24 }
    publishDecoded (.attitude tlm) seq
      (s!"MAVLINK_BRIDGE_APP: ATTITUDE decoded seq={seq} boot_ms={tlm.timestampMs} " ++
        s!"rx_ms={rxTimestampMs}")
      { s with sequenceCounter := seq, attitudeTlm := tlm }

/-- Publish a local position. -/
def publishEkfLocal (frame : RxFrame) (rxTimestampMs : UInt32) (s : State) : State :=
  if frame.payloadLen > 28 then
    recordLengthError MessageKind.localPositionNed.id frame.payloadLen 28 s
  else if (sixFloats frame.payload).all isFinite = false then
    recordNonFiniteError MessageKind.localPositionNed.id s
  else
    let seq := s.sequenceCounter + 1
    let tlm : EkfLocalTlm := {
      timestampMs := readU32LE frame.payload 0
      seq := seq
      valid := 1
      stale := 0
      errorCode := ErrorCode.none.code
      x := readU32LE frame.payload 4
      y := readU32LE frame.payload 8
      z := readU32LE frame.payload 12
      vx := readU32LE frame.payload 16
      vy := readU32LE frame.payload 20
      vz := readU32LE frame.payload 24 }
    publishDecoded (.ekfLocal tlm) seq
      (s!"MAVLINK_BRIDGE_APP: LOCAL_POSITION_NED decoded seq={seq} " ++
        s!"boot_ms={tlm.timestampMs} rx_ms={rxTimestampMs}")
      { s with sequenceCounter := seq, ekfLocalTlm := tlm }

/-- A speed in metres per second. -/
def speedCms (payload : List UInt8) (offset : Nat) : UInt32 :=
  ((readU16LE payload offset).toInt16.toFloat32 / 100).toBits

/-- Publish height and speed of a global position as a local position. -/
def publishGlobalPositionAsLocal (frame : RxFrame) (rxTimestampMs : UInt32) (s : State) : State :=
  if frame.payloadLen > 28 then
    recordLengthError MessageKind.globalPositionInt.id frame.payloadLen 28 s
  else
    let seq := s.sequenceCounter + 1
    let relativeAltMm := (readU32LE frame.payload 16).toInt32
    let tlm : EkfLocalTlm := {
      timestampMs := readU32LE frame.payload 0
      seq := seq
      valid := 1
      stale := 0
      errorCode := ErrorCode.none.code
      x := 0
      y := 0
      z := (-(relativeAltMm.toFloat32 / 1000)).toBits
      vx := speedCms frame.payload 20
      vy := speedCms frame.payload 22
      vz := speedCms frame.payload 24 }
    publishDecoded (.ekfLocal tlm) seq
      (s!"MAVLINK_BRIDGE_APP: GLOBAL_POSITION_INT mapped seq={seq} " ++
        s!"boot_ms={tlm.timestampMs} rx_ms={rxTimestampMs}")
      { s with sequenceCounter := seq, ekfLocalTlm := tlm }

/-- Publish a satellite fix, as invalid without a fix in three dimensions. -/
def publishGpsRaw (frame : RxFrame) (rxTimestampMs : UInt32) (s : State) : State :=
  if frame.payloadLen < 30 then
    recordLengthError MessageKind.gpsRawInt.id frame.payloadLen 30 s
  else
    let seq := s.sequenceCounter + 1
    let fixType := payloadByte frame.payload 28
    let fixed := decide (fixType ≥ 3)
    let tlm : GpsRawTlm := {
      timestampMs := (readU64LE frame.payload 0 / 1000).toUInt32
      seq := seq
      valid := if fixed then 1 else 0
      stale := 0
      errorCode := if fixed then ErrorCode.none.code else ErrorCode.gpsNoFix.code
      fixType := fixType
      satellitesVisible := payloadByte frame.payload 29
      latE7 := (readU32LE frame.payload 8).toInt32
      lonE7 := (readU32LE frame.payload 12).toInt32
      altMm := (readU32LE frame.payload 16).toInt32 }
    publishDecoded (.gpsRaw tlm) seq
      (s!"MAVLINK_BRIDGE_APP: GPS_RAW_INT decoded seq={seq} fix={fixType} " ++
        s!"sats={tlm.satellitesVisible} rx_ms={rxTimestampMs}")
      { s with
        sequenceCounter := seq
        gpsRawTlm := tlm
        lastErrorCode := if fixed then s.lastErrorCode else .gpsNoFix }

/-- Publish the state of the estimator, as invalid when no flag is set. -/
def publishEkfStatus (frame : RxFrame) (rxTimestampMs : UInt32) (s : State) : State :=
  if frame.payloadLen < 21 then
    recordLengthError MessageKind.ekfStatusReport.id frame.payloadLen 21 s
  else
    let seq := s.sequenceCounter + 1
    let flags := readU16LE frame.payload 20
    let healthy := decide (flags ≠ 0)
    let tlm : EkfStatusTlm := {
      timestampMs := rxTimestampMs
      seq := seq
      valid := if healthy then 1 else 0
      stale := 0
      errorCode := if healthy then ErrorCode.none.code else ErrorCode.ekfUnhealthy.code
      flags := flags }
    publishDecoded (.ekfStatus tlm) seq
      (s!"MAVLINK_BRIDGE_APP: EKF_STATUS_REPORT decoded seq={seq} " ++
        s!"flags=0x{hexText 4 flags.toNat} rx_ms={rxTimestampMs}")
      { s with
        sequenceCounter := seq
        ekfStatusTlm := tlm
        lastErrorCode := if healthy then s.lastErrorCode else .ekfUnhealthy }

/-- Publish the time of the flight controller, once it has one. -/
def handleSysTime (frame : RxFrame) (rxTimestampMs : UInt32) (s : State) : State :=
  if frame.payloadLen > 12 then
    recordLengthError MessageKind.sysTime.id frame.payloadLen 12 s
  else if readU64LE frame.payload 0 = 0 then s
  else
    let seq := s.sequenceCounter + 1
    let tlm : SysTimeTlm := {
      timestampMs := rxTimestampMs
      seq := seq
      valid := 1
      stale := 0
      errorCode := ErrorCode.none.code
      timeUnixUsec := readU64LE frame.payload 0 }
    publishDecoded (.sysTime tlm) seq
      (s!"MAVLINK_BRIDGE_APP: SYSTEM_TIME decoded seq={seq} unix_us={tlm.timeUnixUsec} " ++
        s!"rx_ms={rxTimestampMs}")
      { s with sequenceCounter := seq, sysTimeTlm := tlm }

/-- Mark the published state as out of date. -/
def markOutputsStale (s : State) : State :=
  { s with
    attitudeTlm := { s.attitudeTlm with stale := 1 }
    ekfLocalTlm := { s.ekfLocalTlm with stale := 1 }
    gpsRawTlm := { s.gpsRawTlm with stale := 1 }
    ekfStatusTlm := { s.ekfStatusTlm with stale := 1 } }

end CfsTelemetry.Bridge
