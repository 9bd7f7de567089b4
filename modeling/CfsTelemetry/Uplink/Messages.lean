import CfsTelemetry.Shared
import CfsTelemetry.Library.Words

/-!
# Values of the uplink application

The enumerations of the uplink application with the codes they have on the wire, the payloads
it parses from a command, and the messages it puts on the software bus. A byte of a received
command is read through `ofByte`, which is the `switch` of the source over the known codes.
-/
namespace CfsTelemetry.Uplink

/-- Verdict on a command (`UPLINK_APP_Result_t`). -/
inductive Result where
  | none | accept | reject | routed | failed | rejectVersion | rejectClass | rejectLength
  | routeMiss | rejectRoute | rejectSequence | rejectState | rejectChecksum | rejectViewpoint
  | duplicate | executedOk | executedFailed | rejectCounter | rejectFlightMode
  deriving DecidableEq, Repr

/-- The code of a verdict in the status message. -/
def Result.code : Result → UInt8
  | none => 0 | accept => 1 | reject => 2 | routed => 3 | failed => 4 | rejectVersion => 5
  | rejectClass => 6 | rejectLength => 7 | routeMiss => 8 | rejectRoute => 9
  | rejectSequence => 10 | rejectState => 11 | rejectChecksum => 12 | rejectViewpoint => 13
  | duplicate => 14 | executedOk => 15 | executedFailed => 16 | rejectCounter => 17
  | rejectFlightMode => 18

/-- Distinct verdicts have distinct codes. -/
theorem Result.code_injective : Function.Injective Result.code := by
  intro first second equal
  cases first <;> cases second <;> first | rfl | exact absurd equal (by decide)

/-- State of the ground link (`UPLINK_APP_LinkState_t`). -/
inductive LinkState where
  | nominal | degraded | lost | failed
  deriving DecidableEq, Repr

/-- The code of a link state in the status message. -/
def LinkState.code : LinkState → UInt8
  | nominal => 0 | degraded => 1 | lost => 2 | failed => 3

/-- Class of a command (`UPLINK_APP_CommandClass_t`). -/
inductive CommandClass where
  | none | config | routeUpdate | viewpoint | recovery | mode | diagnostic | counterMgmt
  | flightMode
  deriving DecidableEq, Repr

/-- The code of a command class. -/
def CommandClass.code : CommandClass → UInt8
  | none => 0 | config => 1 | routeUpdate => 2 | viewpoint => 3 | recovery => 4 | mode => 5
  | diagnostic => 6 | counterMgmt => 7 | flightMode => 8

/-- The class a byte of a command names. -/
def CommandClass.ofByte : UInt8 → Option CommandClass
  | 0 => some .none | 1 => some .config | 2 => some .routeUpdate | 3 => some .viewpoint
  | 4 => some .recovery | 5 => some .mode | 6 => some .diagnostic | 7 => some .counterMgmt
  | 8 => some .flightMode | _ => Option.none

/-- Only the code of a class names it. -/
theorem CommandClass.ofByte_eq_some {byte : UInt8} {named : CommandClass} :
    CommandClass.ofByte byte = some named ↔ byte = named.code := by
  constructor
  · intro found
    unfold CommandClass.ofByte at found
    split at found <;> cases found <;> rfl
  · rintro rfl
    cases named <;> rfl

/-- Flight mode of a flight-mode command (`UPLINK_APP_FlightMode_t`). -/
inductive FlightMode where
  | hover | waypoint | land
  deriving DecidableEq, Repr

/-- The code of a flight mode. -/
def FlightMode.code : FlightMode → UInt8
  | hover => 0 | waypoint => 1 | land => 2

/-- Application whose counters a command resets (`UPLINK_APP_CounterScope_t`). -/
inductive CounterScope where
  | mavlinkBridge | cfsCore | uplink | loraTdm
  deriving DecidableEq, Repr

/-- The code of a counter scope. -/
def CounterScope.code : CounterScope → UInt8
  | mavlinkBridge => 1 | cfsCore => 2 | uplink => 3 | loraTdm => 4

/-- The scope a byte of a command names. -/
def CounterScope.ofByte : UInt8 → Option CounterScope
  | 1 => some mavlinkBridge | 2 => some cfsCore | 3 => some uplink | 4 => some loraTdm
  | _ => none

/-- Only the code of a scope names it. -/
theorem CounterScope.ofByte_eq_some {byte : UInt8} {named : CounterScope} :
    CounterScope.ofByte byte = some named ↔ byte = named.code := by
  constructor
  · intro found
    unfold CounterScope.ofByte at found
    split at found <;> cases found <;> rfl
  · rintro rfl
    cases named <;> rfl

/-- Edit of the mission a route update asks for (`UPLINK_APP_RouteOpType_t`). -/
inductive RouteOp where
  | none | replace | add | delete | modify
  deriving DecidableEq, Repr

/-- The code of a route operation. -/
def RouteOp.code : RouteOp → UInt8
  | none => 0 | replace => 1 | add => 2 | delete => 3 | modify => 4

/-- Where a command is routed (`UPLINK_APP_RouteTarget_t`). -/
inductive RouteTarget where
  | none | core | downlink | counterMgmt | flightMode
  deriving DecidableEq, Repr

/-- The code of a route target. -/
def RouteTarget.code : RouteTarget → UInt8
  | none => 0 | core => 1 | downlink => 2 | counterMgmt => 3 | flightMode => 4

/-- Progress of a configuration command (`UPLINK_APP_ConfigPendingState_t`). -/
inductive ConfigPendingState where
  | idle | pending | validating | rejected
  deriving DecidableEq, Repr

/-- The code of a configuration progress. -/
def ConfigPendingState.code : ConfigPendingState → UInt8
  | idle => 0 | pending => 1 | validating => 2 | rejected => 3

end CfsTelemetry.Uplink
