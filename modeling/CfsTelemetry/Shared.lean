import CfsTelemetry.Library.Words

/-!
# Messages shared between the applications

The software-bus messages that more than one application reads or writes, with the fields of
their source structures apart from the bus headers. A single-precision value is held as the
32-bit pattern that the wire and the memory copies carry; `isFinite` and `Float32.ofBits` read
it as a number where the source does arithmetic or comparisons on it.
-/
namespace CfsTelemetry

/-- The test `isfinite` of a single-precision bit pattern: the exponent is not all ones. -/
def isFinite (bits : UInt32) : Bool := (bits >>> 23) &&& 0xFF != 0xFF

/-- A number in upper-case hexadecimal digits, filled with zeros to a width. -/
def hexText (width number : Nat) : String :=
  String.ofList (List.leftpad width '0' ((Nat.toDigits 16 number).map Char.toUpper))

/-- Waypoints that a route message and a mission list have room for (`ROUTE_MAX_WAYPOINTS`). -/
def routeMaxWaypoints : Nat := 37

/-- Bytes of one waypoint on the wire (`ROUTE_WAYPOINT_WIRE_SIZE`). -/
def routeWaypointWireSize : Nat := 29

/-- Payload bytes that a forwarded uplink command has room for
(`UPLINK_FWD_CMD_MAX_PAYLOAD_LENGTH`). -/
def maxPayloadLength : Nat := 196

/-- A mission waypoint (`ROUTE_WAYPOINT_t`). -/
structure Waypoint where
  cmdType : UInt8
  param1 : UInt32
  param2 : UInt32
  param3 : UInt32
  param4 : UInt32
  latE7 : Int32
  lonE7 : Int32
  z : UInt32
  deriving DecidableEq, Repr

namespace Waypoint

/-- The waypoint of zeroed memory. -/
def zero : Waypoint := ⟨0, 0, 0, 0, 0, 0, 0, 0⟩

instance : Inhabited Waypoint := ⟨zero⟩

end Waypoint

/-- A waypoint array of a route message or of a mission list. -/
abbrev WaypointArray := Vector Waypoint routeMaxWaypoints

/-- The array of zeroed memory. -/
def WaypointArray.zero : WaypointArray := Vector.replicate routeMaxWaypoints Waypoint.zero

/-- A route update from the uplink application to the flight-controller bridge
(`ROUTE_UPDATE_TLM_t`). -/
structure RouteUpdate where
  seq : UInt32
  timestampMs : UInt32
  sourceSequence : UInt32
  routeType : UInt8
  routeVersion : UInt8
  waypointCount : UInt8
  waypoints : WaypointArray
  deriving DecidableEq

/-- A ground command as the LoRa application forwards it (`UPLINK_FWD_CMD_TLM_t`). -/
structure ProcessUplinkCmd where
  version : UInt8
  commandClass : UInt8
  payloadLength : UInt8
  flags : UInt8
  sequence : UInt16
  checksum : UInt16
  payload : Vector UInt8 maxPayloadLength
  deriving DecidableEq

/-- The payload byte at an index; the array ends the reads the length checks allow. -/
def ProcessUplinkCmd.byte (cmd : ProcessUplinkCmd) (index : Nat) : UInt8 :=
  cmd.payload[index]?.getD 0

/-- A configuration command (`CONFIG_CMD_TLM_t`). -/
structure ConfigCmd where
  sourceSequence : UInt16
  payloadLength : UInt8
  payload : Vector UInt8 196

namespace ConfigCmd

/-- A byte of the payload of a configuration command. -/
def byte (cmd : ConfigCmd) (index : Nat) : UInt8 := cmd.payload[index]?.getD 0

/-- The parameter a configuration command names. -/
def parameterId (cmd : ConfigCmd) : UInt16 := Words.word16 (cmd.byte 2) (cmd.byte 3)

/-- The checksum that a configuration command carries. -/
def checksum (cmd : ConfigCmd) : UInt16 := Words.word16 (cmd.byte 6) (cmd.byte 7)

/-- The sum over the other fields of the header and the bytes of the value. -/
def sum (cmd : ConfigCmd) : UInt16 :=
  let low := cmd.parameterId &&& 0xFF
  let high := (cmd.parameterId >>> 8) &&& 0xFF
  let header := (cmd.byte 0).toUInt16 + (cmd.byte 1).toUInt16 + low + high +
    (cmd.byte 4).toUInt16 + (cmd.byte 5).toUInt16
  ((cmd.payload.toList.drop 8).take (cmd.byte 5).toNat).foldl
    (fun sum byte => sum + byte.toUInt16) header

end ConfigCmd

/-- The result of a command in the application that ran it (`EXEC_RESULT_TLM_t`). -/
structure ExecResult where
  sourceSequence : UInt16
  sourceApp : UInt8
  commandClass : UInt8
  genericResult : UInt8
  detailCode : UInt8
  deriving DecidableEq, Repr

end CfsTelemetry
