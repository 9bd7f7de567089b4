import CfsTelemetry.Uplink.State

/-!
# Admission of an uplink command

The checks that a command passes before anything is done for it: its sequence against the last
accepted one, its own fields, the health of the system, and its authorization.
-/
namespace CfsTelemetry.Uplink

open Words

/-- How a sequence relates to the last accepted one (`UPLINK_APP_SeqCheck_t`). -/
inductive SeqCheck where
  | new | duplicate | replay
  deriving DecidableEq, Repr

/-- Classify a sequence. Before the first acceptance every sequence is new; afterwards a
sequence is new when it is ahead of the last accepted one by less than half of the cycle. -/
def checkSequence (s : State) (sequence : UInt16) : SeqCheck :=
  if s.acceptedCount = 0 then .new
  else
    let last := s.lastAcceptedSequence.toUInt16
    if sequence = last then .duplicate
    else if sequence - last < 0x8000 then .new else .replay

/-- The protocol version accepted (`UPLINK_APP_PROTOCOL_VERSION`). -/
def protocolVersion : UInt8 := 1

/-- The checksum of a command: its header and as much payload as the array holds. -/
def computeProxyCrc (cmd : ProcessUplinkCmd) : UInt16 :=
  crc16 ([cmd.version, cmd.commandClass, cmd.payloadLength, cmd.flags,
    cmd.sequence.toUInt8, (cmd.sequence >>> 8).toUInt8] ++
    cmd.payload.toList.take cmd.payloadLength.toNat)

/-- Whether a byte names a class that is carried out. -/
def knownClass (commandClass : UInt8) : Bool :=
  match CommandClass.ofByte commandClass with
  | some .config | some .routeUpdate | some .viewpoint | some .recovery | some .mode
  | some .diagnostic | some .counterMgmt | some .flightMode => true
  | _ => false

/-- Check version, length, class and checksum, in that order. -/
def validateProxyCommand (cmd : ProcessUplinkCmd) : Except Result Unit :=
  if cmd.version ≠ protocolVersion then .error .rejectVersion
  else if cmd.payloadLength > 196 then .error .rejectLength
  else if !knownClass cmd.commandClass then .error .rejectClass
  else if (cmd.commandClass = CommandClass.routeUpdate.code ∨
      cmd.commandClass = CommandClass.viewpoint.code) ∧ cmd.payloadLength = 0 then
    .error .rejectLength
  else if computeProxyCrc cmd ≠ cmd.checksum then .error .rejectChecksum
  else .ok ()

/-- Where a class of command is routed. -/
def resolveRouteTarget (commandClass : UInt8) : RouteTarget :=
  match CommandClass.ofByte commandClass with
  | some .config | some .routeUpdate | some .viewpoint | some .recovery | some .mode => .core
  | some .diagnostic => .downlink
  | some .counterMgmt => .counterMgmt
  | some .flightMode => .flightMode
  | _ => .none

/-- Whether a command asks for a flight mode. -/
def asksFlightMode (cmd : ProcessUplinkCmd) (mode : FlightMode) : Bool :=
  cmd.commandClass == CommandClass.flightMode.code && cmd.payloadLength ≥ 1 &&
    cmd.byte 0 == mode.code

/-- Whether a class of command goes through when the system has failed or is recovering. -/
def intervenes (commandClass : UInt8) : Bool :=
  commandClass == CommandClass.recovery.code || commandClass == CommandClass.diagnostic.code

/-- Whether a health state blocks a command, exemptions apart. -/
def healthBlocks (health : UInt8) (cmd : ProcessUplinkCmd) : Bool :=
  if health = 3 then !intervenes cmd.commandClass
  else if health = 2 then !intervenes cmd.commandClass
  else if health = 1 then
    cmd.commandClass == CommandClass.viewpoint.code ||
      cmd.commandClass == CommandClass.config.code || asksFlightMode cmd .waypoint
  else false

/-- Whether a command only holds or ends the flight. -/
def reducesRisk (cmd : ProcessUplinkCmd) : Bool :=
  asksFlightMode cmd .hover || asksFlightMode cmd .land

/-- Whether a command carries the force flag (`UPLINK_APP_FORCE_FLAG`). -/
def forced (cmd : ProcessUplinkCmd) : Bool := (cmd.flags &&& 0x01) != 0

/-- Whether the health gate blocks a command, after both exemptions. -/
def healthRefuses (health : UInt8) (cmd : ProcessUplinkCmd) : Bool :=
  healthBlocks health cmd && !reducesRisk cmd && !forced cmd

/-- The health gate: whether the command is blocked, with an event for each exemption used. -/
def healthGate (cmd : ProcessUplinkCmd) (s : State) : Bool × State :=
  let health := s.cfsHealthState
  if healthBlocks health cmd then
    if reducesRisk cmd then
      (false, sendEvent .stateBlock .information
        (s!"UPLINK_APP: FLIGHT_MODE HOVER/LAND exempt from health gate " ++
          s!"(state={health} seq={cmd.sequence})") s)
    else if forced cmd then
      (false, sendEvent .stateBlock .information
        (s!"UPLINK_APP: FORCED THROUGH health gate " ++
          s!"(state={health} class={cmd.commandClass} seq={cmd.sequence})") s)
    else (true, s)
  else (false, s)

/-- The authorization level a class needs. -/
def getClassRequiredLevel (commandClass : UInt8) : UInt8 :=
  match CommandClass.ofByte commandClass with
  | some .none => 1
  | some .config => 2
  | some .routeUpdate => 2
  | some .viewpoint => 2
  | some .recovery => 3
  | some .mode => 3
  | some .diagnostic => 1
  | some .counterMgmt => 3
  | some .flightMode => 3
  | none => 0xFF

/-- The authorization level in the flags. -/
def authLevel (cmd : ProcessUplinkCmd) : UInt8 := (cmd.flags >>> 6) &&& 0x3

/-- The token at an offset of the payload. -/
def tokenAt (cmd : ProcessUplinkCmd) (offset : Nat) : UInt32 :=
  word32 (cmd.byte offset) (cmd.byte (offset + 1)) (cmd.byte (offset + 2)) (cmd.byte (offset + 3))

/-- The token that is checked: where its class keeps it, or zero. -/
def requestToken (cmd : ProcessUplinkCmd) : UInt32 :=
  if getClassRequiredLevel cmd.commandClass = 3 ∧ cmd.payloadLength ≥ 4 then
    match CommandClass.ofByte cmd.commandClass with
    | some .recovery => if cmd.payloadLength ≥ 8 then tokenAt cmd 4 else 0
    | some .mode => if cmd.payloadLength ≥ 6 then tokenAt cmd 2 else 0
    | some .counterMgmt => if cmd.payloadLength ≥ 6 then tokenAt cmd 2 else 0
    | some .flightMode => if cmd.payloadLength ≥ 6 then tokenAt cmd 2 else 0
    | _ => 0
  else 0

/-- Whether a command has the level its class needs, and a token when that level is 3. -/
def isAuthorized (cmd : ProcessUplinkCmd) (token : UInt32) : Bool :=
  let requiredLevel := getClassRequiredLevel cmd.commandClass
  if authLevel cmd < requiredLevel then false
  else if requiredLevel = 3 ∧ token = 0 then false
  else true

/-- The state passes every check of a command that comes before it is carried out. -/
structure Admits (s : State) (cmd : ProcessUplinkCmd) : Prop where
  /-- The sequence is new. -/
  new : checkSequence s cmd.sequence = .new
  /-- The fields are right. -/
  valid : validateProxyCommand cmd = .ok ()
  /-- The system has reported its health. -/
  healthReceived : s.cfsHealthReceived = true
  /-- The health gate lets the command through. -/
  healthy : healthRefuses s.cfsHealthState cmd = false
  /-- The command is authorized. -/
  authorized : isAuthorized cmd (requestToken cmd) = true

instance (s : State) (cmd : ProcessUplinkCmd) : Decidable (Admits s cmd) :=
  decidable_of_iff (checkSequence s cmd.sequence = .new ∧ validateProxyCommand cmd = .ok () ∧
    s.cfsHealthReceived = true ∧ healthRefuses s.cfsHealthState cmd = false ∧
    isAuthorized cmd (requestToken cmd) = true)
    ⟨fun ⟨a, b, c, d, e⟩ => ⟨a, b, c, d, e⟩, fun ⟨a, b, c, d, e⟩ => ⟨a, b, c, d, e⟩⟩

end CfsTelemetry.Uplink
