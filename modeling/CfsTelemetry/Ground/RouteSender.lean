import CfsTelemetry.Library.Words
import Mathlib.Data.List.Forall2

/-!
# The route sender of the ground station

The packing of waypoints and route updates by the command-line sender. A value that does not
fit its format raises an error, which is `none` here.
-/
namespace CfsTelemetry.Ground

open Words

/-- Pack an unsigned byte (format `B`). -/
def packByte (value : Int) : Option UInt8 :=
  if 0 ≤ value ∧ value ≤ 255 then some value.toNat.toUInt8 else none

/-- Pack a signed word (format `i`). -/
def packInt (value : Int) : Option Int32 :=
  if -2147483648 ≤ value ∧ value ≤ 2147483647 then some (Int32.ofInt value) else none

/-- Pack a number in single precision (format `f`). -/
def packFloat (value : Float) : Option UInt32 :=
  let single := value.toFloat32
  if single.isInf && !value.isInf then none else some single.toBits

/-- A waypoint to be sent (`Waypoint`). -/
structure SenderWaypoint where
  latE7 : Int
  lonE7 : Int
  zM : Float
  cmdType : Int
  param1 : Float
  param2 : Float
  param3 : Float
  param4 : Float

/-- Pack a waypoint. -/
def SenderWaypoint.pack (waypoint : SenderWaypoint) : Option (List UInt8) := do
  some ((← packByte waypoint.cmdType) :: (bytes32 (← packFloat waypoint.param1) ++
    (bytes32 (← packFloat waypoint.param2) ++ (bytes32 (← packFloat waypoint.param3) ++
      (bytes32 (← packFloat waypoint.param4) ++ (bytes32 (← packInt waypoint.latE7).toUInt32 ++
        (bytes32 (← packInt waypoint.lonE7).toUInt32 ++
          bytes32 (← packFloat waypoint.zM))))))))

/-- The version of the route payload (`ROUTE_VERSION`). -/
def routeVersion : Int := 2

/-- Build the payload of a route update: the header, and the waypoints one after the other. -/
def buildRoutePayload (routeOp indexOrCount : Int) (waypoints : List SenderWaypoint) :
    Option (List UInt8) := do
  let header := [← packByte routeOp, ← packByte routeVersion, ← packByte indexOrCount,
    ← packByte 0]
  waypoints.foldlM (fun payload waypoint => do some (payload ++ (← waypoint.pack))) header

end CfsTelemetry.Ground
