import CfsTelemetry.Uplink.Gate

/-!
# Carrying out an uplink command

The parsers of the payloads that are checked field by field, and the functions that turn an
admitted command into a message for another application. Each of the latter returns whether
the command was carried out, as its source function does.
-/
namespace CfsTelemetry.Uplink

open Words

/-- The lowest altitude of a waypoint (`UPLINK_APP_ROUTE_ALTITUDE_MIN_M`). -/
def routeAltitudeMinM : Float32 := 2.0

/-- The highest altitude of a waypoint (`UPLINK_APP_ROUTE_ALTITUDE_MAX_M`). -/
def routeAltitudeMaxM : Float32 := 8.0

/-- The payload version accepted (`UPLINK_APP_ROUTE_VERSION`). -/
def routeVersion : UInt8 := 2

/-- A parsed route update (`UPLINK_APP_RouteUpdatePayload_t`). -/
structure RouteUpdatePayload where
  routeType : UInt8
  routeVersion : UInt8
  waypointCount : UInt8
  reserved : UInt8
  waypoints : WaypointArray
  deriving DecidableEq

/-- Whether the parameters and the altitude are numbers. -/
def isWaypointFinite (waypoint : Waypoint) : Bool :=
  isFinite waypoint.param1 && isFinite waypoint.param2 && isFinite waypoint.param3 &&
    isFinite waypoint.param4 && isFinite waypoint.z

/-- Whether the altitude is in range. -/
def isWaypointAltitudeValid (waypoint : Waypoint) : Bool :=
  decide (routeAltitudeMinM ≤ Float32.ofBits waypoint.z) &&
    decide (Float32.ofBits waypoint.z ≤ routeAltitudeMaxM)

/-- The waypoint whose wire form starts at an offset of the payload. -/
def parseWaypointWire (cmd : ProcessUplinkCmd) (offset : Nat) : Waypoint where
  cmdType := cmd.byte offset
  param1 := tokenAt cmd (offset + 1)
  param2 := tokenAt cmd (offset + 5)
  param3 := tokenAt cmd (offset + 9)
  param4 := tokenAt cmd (offset + 13)
  latE7 := (tokenAt cmd (offset + 17)).toInt32
  lonE7 := (tokenAt cmd (offset + 21)).toInt32
  z := tokenAt cmd (offset + 25)

/-- Parse waypoints into an array from an index on, stopping at the first that is not valid. -/
def parseWaypoints (cmd : ProcessUplinkCmd) : Nat → Nat → WaypointArray → Option WaypointArray
  | 0, _, waypoints => some waypoints
  | remaining + 1, index, waypoints =>
    let waypoint := parseWaypointWire cmd (4 + index * routeWaypointWireSize)
    if !isWaypointFinite waypoint then none
    else if !isWaypointAltitudeValid waypoint then none
    else parseWaypoints cmd remaining (index + 1) (waypoints.setIfInBounds index waypoint)

/-- Parse the payload of a route update. -/
def parseRouteUpdatePayload (cmd : ProcessUplinkCmd) : Option RouteUpdatePayload :=
  if cmd.payloadLength < 4 then none
  else
    let payload : RouteUpdatePayload :=
      ⟨cmd.byte 0, cmd.byte 1, cmd.byte 2, cmd.byte 3, WaypointArray.zero⟩
    if payload.routeVersion ≠ routeVersion then none
    else if payload.routeType ≠ RouteOp.replace.code ∧ payload.routeType ≠ RouteOp.add.code ∧
        payload.routeType ≠ RouteOp.delete.code ∧ payload.routeType ≠ RouteOp.modify.code then
      none
    else if payload.routeType = RouteOp.delete.code then
      if payload.waypointCount ≥ 37 then none
      else if cmd.payloadLength ≠ 4 then none
      else some payload
    else if payload.routeType = RouteOp.modify.code then
      if payload.waypointCount ≥ 37 then none
      else if cmd.payloadLength.toNat ≠ 4 + routeWaypointWireSize then none
      else (parseWaypoints cmd 1 0 payload.waypoints).map ({ payload with waypoints := · })
    else if payload.waypointCount = 0 ∨ payload.waypointCount > 37 then none
    else if cmd.payloadLength.toNat ≠
        4 + payload.waypointCount.toNat * routeWaypointWireSize then none
    else
      (parseWaypoints cmd payload.waypointCount.toNat 0 payload.waypoints).map
        ({ payload with waypoints := · })

/-- The route update of a payload. -/
def routeUpdateTlm (cmd : ProcessUplinkCmd) (payload : RouteUpdatePayload) (s : State) :
    RouteUpdate where
  seq := s.sequenceCounter + 1
  timestampMs := s.lastRxTimeMs
  sourceSequence := cmd.sequence.toUInt32
  routeType := payload.routeType
  routeVersion := payload.routeVersion
  waypointCount := payload.waypointCount
  waypoints := payload.waypoints

/-- Publish a route update for the bridge. -/
def publishRouteUpdate (env : Env) (cmd : ProcessUplinkCmd) (payload : RouteUpdatePayload)
    (s : State) : Bool × State :=
  (env.transmit, transmitMsg (.routeUpdate (routeUpdateTlm cmd payload s)) env.transmit s)

/-! ## Viewpoints -/

/-- A parsed viewpoint (`UPLINK_APP_ViewpointPayload_t`). -/
structure ViewpointPayload where
  viewpointType : UInt8
  viewpointVersion : UInt8
  positionFrame : UInt8
  x : UInt32
  y : UInt32
  z : UInt32
  yaw : UInt32
  pitch : UInt32
  holdTimeMs : UInt32
  deriving DecidableEq, Repr

/-- Bytes of a viewpoint payload. -/
def viewpointPayloadSize : UInt8 := 28

/-- Whether a bit pattern is a number between two bounds. -/
def inRange (bits : UInt32) (low high : Float32) : Bool :=
  isFinite bits && !decide (Float32.ofBits bits < low) && !decide (Float32.ofBits bits > high)

/-- Parse the payload of a viewpoint command. -/
def parseViewpointPayload (cmd : ProcessUplinkCmd) : Option ViewpointPayload :=
  if cmd.payloadLength ≠ viewpointPayloadSize then none
  else
    let payload : ViewpointPayload := {
      viewpointType := cmd.byte 0
      viewpointVersion := cmd.byte 1
      positionFrame := cmd.byte 2
      x := tokenAt cmd 4
      y := tokenAt cmd 8
      z := tokenAt cmd 12
      yaw := tokenAt cmd 16
      pitch := tokenAt cmd 20
      holdTimeMs := tokenAt cmd 24 }
    if payload.viewpointVersion ≠ 1 then none
    else if payload.viewpointType > 2 then none
    else if payload.positionFrame > 0 then none
    else if !inRange payload.x (-50.0) 50.0 then none
    else if !inRange payload.y (-50.0) 50.0 then none
    else if !inRange payload.z 2.0 8.0 then none
    else if !inRange payload.yaw (-3.14159265) 3.14159265 then none
    else if !inRange payload.pitch (-1.57079632) 1.57079632 then none
    else if payload.holdTimeMs > 30000 then none
    else some payload

/-- The viewpoint command of a payload. -/
def viewpointTlm (cmd : ProcessUplinkCmd) (payload : ViewpointPayload) (s : State) :
    ViewpointCmdTlm where
  seq := s.sequenceCounter + 1
  timestampMs := s.lastRxTimeMs
  sourceSequence := cmd.sequence
  viewpointType := payload.viewpointType
  positionFrame := payload.positionFrame
  x := payload.x
  y := payload.y
  z := payload.z
  yaw := payload.yaw
  pitch := payload.pitch
  holdTimeMs := payload.holdTimeMs

/-- Forward a viewpoint to the core application. -/
def forwardViewpointCommand (env : Env) (cmd : ProcessUplinkCmd) (payload : ViewpointPayload)
    (s : State) : Bool × State :=
  (env.transmit, transmitMsg (.viewpoint (viewpointTlm cmd payload s)) env.transmit s)

/-- The recovery command of a ground command. -/
def recoveryTlm (cmd : ProcessUplinkCmd) (s : State) : RecoveryCmdTlm where
  seq := s.sequenceCounter + 1
  timestampMs := s.lastRxTimeMs
  sourceSequence := cmd.sequence
  recoveryAction := cmd.byte 0
  targetComponent := cmd.byte 1
  reasonCode := word16 (cmd.byte 2) (cmd.byte 3)
  requestToken := tokenAt cmd 4

/-- Forward a recovery command to the core application. -/
def forwardRecoveryCommand (env : Env) (cmd : ProcessUplinkCmd) (s : State) : Bool × State :=
  if cmd.payloadLength < 8 then (false, s)
  else (env.transmit, transmitMsg (.recovery (recoveryTlm cmd s)) env.transmit s)

/-- The mode command of a ground command. -/
def modeTlm (cmd : ProcessUplinkCmd) (s : State) : ModeCmdTlm where
  seq := s.sequenceCounter + 1
  timestampMs := s.lastRxTimeMs
  sourceSequence := cmd.sequence
  modeAction := cmd.byte 0
  requestedState := cmd.byte 1
  requestToken := tokenAt cmd 2

/-- Forward a mode command to the core application. -/
def forwardModeCommand (env : Env) (cmd : ProcessUplinkCmd) (s : State) : Bool × State :=
  if cmd.payloadLength < 6 then (false, s)
  else (env.transmit, transmitMsg (.mode (modeTlm cmd s)) env.transmit s)

/-- The diagnostic command of a ground command. -/
def diagnosticTlm (cmd : ProcessUplinkCmd) (s : State) : DiagnosticCmdTlm where
  seq := s.sequenceCounter + 1
  timestampMs := s.lastRxTimeMs
  sourceSequence := cmd.sequence
  diagAction := cmd.byte 0
  diagTarget := cmd.byte 1
  requestToken := tokenAt cmd 2

/-- Forward a diagnostic command to the downlink. -/
def forwardDiagnosticCommand (env : Env) (cmd : ProcessUplinkCmd) (s : State) : Bool × State :=
  if cmd.payloadLength < 6 then (false, s)
  else (env.transmit, transmitMsg (.diagnostic (diagnosticTlm cmd s)) env.transmit s)

/-- Reset the counters of an application: the local ones in place, those of another
application by a command message to it. -/
def forwardCounterMgmtCommand (env : Env) (cmd : ProcessUplinkCmd) (s : State) :
    Bool × State :=
  if cmd.payloadLength < 6 then (false, s)
  else if cmd.byte 1 ≠ 0 then (false, s)
  else
    match CounterScope.ofByte (cmd.byte 0) with
    | none => (false, s)
    | some .uplink =>
      (true, { s with cmdCounter := 0, errCounter := 0, outputs := .countersReset :: s.outputs })
    | some target =>
      if !env.setFcnCode then (false, s)
      else (env.transmit, transmitMsg (.resetCounters target) env.transmit s)

/-- A parsed flight-mode payload (`UPLINK_APP_FlightModePayload_t`). -/
structure FlightModePayload where
  flightMode : UInt8
  waypointStartIndex : UInt8
  requestToken : UInt32
  deriving DecidableEq, Repr

/-- Parse the payload of a flight-mode command. -/
def parseFlightModePayload (cmd : ProcessUplinkCmd) : Option FlightModePayload :=
  if cmd.payloadLength < 6 then none
  else if cmd.byte 0 > FlightMode.land.code then none
  else if cmd.byte 0 ≠ FlightMode.waypoint.code ∧ cmd.byte 1 ≠ 0 then none
  else some ⟨cmd.byte 0, cmd.byte 1, tokenAt cmd 2⟩

/-- The flight-mode command of a payload. -/
def flightModeCmd (cmd : ProcessUplinkCmd) (payload : FlightModePayload) : FlightModeCtrlCmd :=
  ⟨cmd.sequence, payload.flightMode, payload.waypointStartIndex⟩

/-- Forward a flight mode to the bridge. -/
def forwardFlightModeCommand (env : Env) (cmd : ProcessUplinkCmd) (payload : FlightModePayload)
    (s : State) : Bool × State :=
  if !env.setFcnCode then (false, s)
  else
    let flightModeCtrlCmd := flightModeCmd cmd payload
    (env.transmit, transmitMsg (.flightMode flightModeCtrlCmd) env.transmit
      { s with flightModeCtrlCmd })

/-- The header of a configuration payload (`UPLINK_APP_ConfigPayloadHdr_t`). -/
structure ConfigPayloadHdr where
  configScope : UInt8
  configVersion : UInt8
  parameterId : UInt16
  valueType : UInt8
  valueLength : UInt8
  checksum : UInt16
  deriving DecidableEq, Repr

/-- Bytes of a configuration header. -/
def configPayloadHdrSize : UInt8 := 8

/-- The configuration header at the start of a payload. -/
def configPayloadHdr (cmd : ProcessUplinkCmd) : ConfigPayloadHdr where
  configScope := cmd.byte 0
  configVersion := cmd.byte 1
  parameterId := word16 (cmd.byte 2) (cmd.byte 3)
  valueType := cmd.byte 4
  valueLength := cmd.byte 5
  checksum := word16 (cmd.byte 6) (cmd.byte 7)

/-- The sum of a configuration header and its value bytes. -/
def configChecksum (hdr : ConfigPayloadHdr) (valueBytes : List UInt8) : UInt16 :=
  let sum := hdr.configScope.toUInt16 + hdr.configVersion.toUInt16 +
    (hdr.parameterId &&& (0xFF : UInt16)) + ((hdr.parameterId >>> 8) &&& (0xFF : UInt16)) +
    hdr.valueType.toUInt16 + hdr.valueLength.toUInt16
  valueBytes.foldl (fun sum byte => sum + byte.toUInt16) sum

/-- The payload bytes in use, in a zeroed array. -/
def usedPayload (cmd : ProcessUplinkCmd) : Vector UInt8 maxPayloadLength :=
  Vector.ofFn fun index => if index.val < cmd.payloadLength.toNat then cmd.byte index else 0

/-- The sum a configuration command should carry. -/
def expectedChecksum (cmd : ProcessUplinkCmd) : UInt16 :=
  let hdr := configPayloadHdr cmd
  configChecksum hdr ((List.range hdr.valueLength.toNat).map (cmd.byte <| 8 + ·))

/-- The configuration message of a ground command. -/
def configTlm (cmd : ProcessUplinkCmd) (s : State) : ConfigCmdTlm where
  seq := s.sequenceCounter + 1
  timestampMs := s.lastRxTimeMs
  sourceSequence := cmd.sequence
  payloadLength := cmd.payloadLength
  payload := usedPayload cmd

/-- Forward a configuration command to the applications. -/
def forwardConfigCommand (env : Env) (cmd : ProcessUplinkCmd) (s : State) : Bool × State :=
  let hdr := configPayloadHdr cmd
  if cmd.payloadLength < configPayloadHdrSize then
    (false, sendEvent .commandErr .error
      s!"UPLINK_APP: config payload too short len={cmd.payloadLength}"
      { s with errCounter := s.errCounter + 1 })
  else if hdr.valueLength ≠ 4 ∨ configPayloadHdrSize + hdr.valueLength > cmd.payloadLength then
    (false, sendEvent .commandErr .error
      (s!"UPLINK_APP: config checksum validation error: invalid length " ++
        s!"payload_len={cmd.payloadLength} hdr_len={configPayloadHdrSize} " ++
        s!"val_len={hdr.valueLength}")
      { s with errCounter := s.errCounter + 1 })
  else if hdr.checksum ≠ expectedChecksum cmd then
    (false, sendEvent .commandErr .error
      (s!"UPLINK_APP: config checksum mismatch got=0x{hexText 4 hdr.checksum.toNat} " ++
        s!"expected=0x{hexText 4 (expectedChecksum cmd).toNat}")
      { s with errCounter := s.errCounter + 1 })
  else
    let pending := { s with configPendingState := .pending }
    let sent := transmitMsg (.config (configTlm cmd pending)) env.transmit pending
    -- The send is synchronous, so the pending progress never outlives the call.
    (env.transmit, { sent with
      configPendingState := if env.transmit then .idle else .rejected
      lastConfigResult := if env.transmit then 0 else 1 })

end CfsTelemetry.Uplink
