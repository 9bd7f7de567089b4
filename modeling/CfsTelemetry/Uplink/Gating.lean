import CfsTelemetry.Uplink.Commit

/-!
# What the gates guarantee

A command that makes the application transmit anything but its own status, or reset counters,
has passed every gate. The guarantee is stated here in the terms of the command and of the
health of the system, class by class, and follows from how the handler ends the command.
-/
namespace CfsTelemetry.Uplink

variable {env : Env} {cmd : ProcessUplinkCmd} {s : State}

/-- The shortest payload of a class that is carried out. -/
def CommandClass.minLength : CommandClass → UInt8
  | none => 0
  | config => 12
  | routeUpdate => 4
  | viewpoint => 28
  | recovery => 8
  | mode => 6
  | diagnostic => 6
  | counterMgmt => 6
  | flightMode => 6

/-- The token a message passes on. -/
def Message.requestToken : Message → Option UInt32
  | recovery tlm => some tlm.requestToken
  | mode tlm => some tlm.requestToken
  | diagnostic tlm => some tlm.requestToken
  | _ => none

/-- Whether an output is the status of the application. -/
def Output.isStatus : Output → Bool
  | .transmit (.status _) _ => true
  | _ => false

/-- A command asks to hold or to end the flight. -/
def HoldsOrLands (cmd : ProcessUplinkCmd) : Prop :=
  cmd.commandClass = CommandClass.flightMode.code ∧ 1 ≤ cmd.payloadLength ∧
    (cmd.byte 0 = FlightMode.hover.code ∨ cmd.byte 0 = FlightMode.land.code)

/-- A command carries the force flag. -/
def CarriesForce (cmd : ProcessUplinkCmd) : Prop := cmd.flags &&& 0x01 ≠ 0

/-- What the gates guarantee of a command of a class, in a state, that an output acts for. -/
structure Gated (s : State) (cmd : ProcessUplinkCmd) (commandClass : CommandClass)
    (output : Output) : Prop where
  /-- The sequence is new. -/
  new : checkSequence s cmd.sequence = .new
  /-- The version is the supported one. -/
  version : cmd.version = protocolVersion
  /-- The payload fits. -/
  atMost : cmd.payloadLength ≤ 196
  /-- The payload is long enough for the class. -/
  atLeast : commandClass.minLength ≤ cmd.payloadLength
  /-- The class is that of the command. -/
  named : cmd.commandClass = commandClass.code
  /-- The class is one of the eight that are carried out. -/
  known : commandClass ∈ [CommandClass.config, .routeUpdate, .viewpoint, .recovery, .mode,
    .diagnostic, .counterMgmt, .flightMode]
  /-- The checksum is that of the command. -/
  checksum : computeProxyCrc cmd = cmd.checksum
  /-- The system has reported its health. -/
  healthReceived : s.cfsHealthReceived = true
  /-- When the system recovers or has failed, the class intervenes. -/
  failing : s.cfsHealthState = 2 ∨ s.cfsHealthState = 3 →
    commandClass ∈ [CommandClass.recovery, .diagnostic] ∨ HoldsOrLands cmd ∨ CarriesForce cmd
  /-- When the system is degraded, the command relies on nothing that is. -/
  degraded : s.cfsHealthState = 1 →
    commandClass ∉ [CommandClass.viewpoint, .config] ∧
        ¬ (commandClass = .flightMode ∧ cmd.byte 0 = FlightMode.waypoint.code) ∨
      HoldsOrLands cmd ∨ CarriesForce cmd
  /-- The level in the flags is enough for the class. -/
  authorized : getClassRequiredLevel cmd.commandClass ≤ authLevel cmd
  /-- A command of level 3 carries a token. -/
  token : getClassRequiredLevel cmd.commandClass = 3 → requestToken cmd ≠ 0
  /-- The token a message of level 3 passes on is the one that was checked. -/
  passedOn : ∀ message taken passed, output = .transmit message taken →
    getClassRequiredLevel cmd.commandClass = 3 → message.requestToken = some passed →
      passed = requestToken cmd

/-- A valid command has the supported version, a payload that fits, and its own checksum. -/
theorem valid_fields (valid : validateProxyCommand cmd = .ok ()) :
    cmd.version = protocolVersion ∧ cmd.payloadLength ≤ 196 ∧
      computeProxyCrc cmd = cmd.checksum := by
  unfold validateProxyCommand at valid
  split at valid
  · cases valid
  rename_i version
  split at valid
  · cases valid
  rename_i length
  split at valid
  · cases valid
  split at valid
  · cases valid
  split at valid
  · cases valid
  rename_i checksum
  exact ⟨not_not.mp version, UInt8.not_lt.mp length, not_not.mp checksum⟩

/-- A known class is one of the eight. -/
theorem known_class (known : knownClass cmd.commandClass = true) :
    ∃ commandClass ∈ [CommandClass.config, .routeUpdate, .viewpoint, .recovery, .mode,
      .diagnostic, .counterMgmt, .flightMode], cmd.commandClass = commandClass.code := by
  cases named : CommandClass.ofByte cmd.commandClass with
  | none => simp [knownClass, named] at known
  | some commandClass =>
    refine ⟨commandClass, ?_, CommandClass.ofByte_eq_some.mp named⟩
    cases commandClass <;> first | decide | simp [knownClass, named] at known

/-- A parsed route update has a header. -/
theorem parseRouteUpdatePayload_length {payload : RouteUpdatePayload}
    (parsed : parseRouteUpdatePayload cmd = some payload) : 4 ≤ cmd.payloadLength := by
  unfold parseRouteUpdatePayload at parsed
  split at parsed
  · cases parsed
  · exact UInt8.not_lt.mp ‹_›

/-- A parsed viewpoint is as long as its record. -/
theorem parseViewpointPayload_length {payload : ViewpointPayload}
    (parsed : parseViewpointPayload cmd = some payload) : 28 ≤ cmd.payloadLength := by
  unfold parseViewpointPayload at parsed
  split at parsed
  · cases parsed
  · rename_i same
    rw [not_not.mp same]
    decide

/-- A parsed flight mode is as long as its record. -/
theorem parseFlightModePayload_length {payload : FlightModePayload}
    (parsed : parseFlightModePayload cmd = some payload) : 6 ≤ cmd.payloadLength := by
  unfold parseFlightModePayload at parsed
  split at parsed
  · cases parsed
  · exact UInt8.not_lt.mp ‹_›

/-- A valid configuration has a header and a value. -/
theorem configValid_length (valid : configValid cmd = true) : 12 ≤ cmd.payloadLength := by
  simp only [configValid, Bool.and_eq_true, Bool.not_eq_true', decide_eq_false_iff_not, not_or,
    not_not] at valid
  obtain ⟨⟨-, valueLength, fits⟩, -⟩ := valid
  rw [valueLength] at fits
  exact UInt8.not_lt.mp fits

/-- A counter-management command that asks for something is as long as its record. -/
theorem counterRequest_length (asks : counterRequest env cmd ≠ .nothing) :
    6 ≤ cmd.payloadLength := by
  unfold counterRequest at asks
  split at asks
  · exact absurd rfl asks
  · exact UInt8.not_lt.mp ‹_›

/-- What a command asks for is asked for with a payload long enough for its class. -/
theorem request_length {commandClass : CommandClass}
    (named : cmd.commandClass = commandClass.code) (asks : request env cmd s ≠ .nothing) :
    commandClass.minLength ≤ cmd.payloadLength := by
  have found := CommandClass.ofByte_eq_some.mpr named
  cases commandClass <;> simp only [request, found] at asks
  case none => exact absurd rfl asks
  case config =>
    split at asks
    · exact configValid_length ‹_›
    · exact absurd rfl asks
  case routeUpdate =>
    split at asks
    · exact absurd rfl asks
    · exact parseRouteUpdatePayload_length ‹_›
  case viewpoint =>
    split at asks
    · exact absurd rfl asks
    · exact parseViewpointPayload_length ‹_›
  case recovery =>
    split at asks
    · exact absurd rfl asks
    · exact UInt8.not_lt.mp ‹_›
  case mode =>
    split at asks
    · exact absurd rfl asks
    · exact UInt8.not_lt.mp ‹_›
  case diagnostic =>
    split at asks
    · exact absurd rfl asks
    · exact UInt8.not_lt.mp ‹_›
  case counterMgmt => exact counterRequest_length asks
  case flightMode =>
    split at asks
    · exact absurd rfl asks
    · exact parseFlightModePayload_length ‹_›

/-- The token of a recovery command is checked where it is. -/
theorem requestToken_recovery (named : CommandClass.ofByte cmd.commandClass = some .recovery)
    (length : 8 ≤ cmd.payloadLength) : requestToken cmd = tokenAt cmd 4 := by
  have long : 4 ≤ cmd.payloadLength := UInt8.le_trans (by decide) length
  simp only [requestToken, getClassRequiredLevel, named, ge_iff_le, long, length, and_self,
    if_true]

/-- The token of a mode command is checked where it is. -/
theorem requestToken_mode (named : CommandClass.ofByte cmd.commandClass = some .mode)
    (length : 6 ≤ cmd.payloadLength) : requestToken cmd = tokenAt cmd 2 := by
  have long : 4 ≤ cmd.payloadLength := UInt8.le_trans (by decide) length
  simp only [requestToken, getClassRequiredLevel, named, ge_iff_le, long, length, and_self,
    if_true]

/-- The token of a message of level 3 is the one that is checked. -/
theorem request_token {commandClass : CommandClass} {message : Message} {passed : UInt32}
    (named : cmd.commandClass = commandClass.code)
    (asked : request env cmd s = .send message)
    (level : getClassRequiredLevel cmd.commandClass = 3)
    (token : message.requestToken = some passed) : passed = requestToken cmd := by
  have found := CommandClass.ofByte_eq_some.mpr named
  have length : commandClass.minLength ≤ cmd.payloadLength :=
    request_length named (by rw [asked]; rintro ⟨⟩)
  cases commandClass <;> simp only [getClassRequiredLevel, found] at level
  case none | config | routeUpdate | viewpoint | diagnostic => exact absurd level (by decide)
  case recovery =>
    rw [requestToken_recovery found length]
    simp only [request, found] at asked
    split at asked <;> cases asked
    exact (Option.some.inj token).symm
  case mode =>
    rw [requestToken_mode found length]
    simp only [request, found] at asked
    split at asked <;> cases asked
    exact (Option.some.inj token).symm
  -- The other two classes of level 3 pass no token on.
  case counterMgmt =>
    simp only [request, found, counterRequest] at asked
    repeat' split at asked
    all_goals cases asked; try cases token
  case flightMode =>
    simp only [request, found] at asked
    repeat' split at asked
    all_goals cases asked; try cases token

/-- An authorized command has the level of its class, and a token if that is 3. -/
theorem authorized_fields (authorized : isAuthorized cmd (requestToken cmd) = true) :
    getClassRequiredLevel cmd.commandClass ≤ authLevel cmd ∧
      (getClassRequiredLevel cmd.commandClass = 3 → requestToken cmd ≠ 0) := by
  unfold isAuthorized at authorized
  dsimp only at authorized
  split at authorized
  · cases authorized
  · rename_i enough
    split at authorized
    · cases authorized
    · rename_i token
      exact ⟨UInt8.not_lt.mp enough, fun level zero => token ⟨level, zero⟩⟩

/-- A mode asked for is asked for by a flight-mode command. -/
theorem asksFlightMode_iff {mode : FlightMode} :
    asksFlightMode cmd mode = true ↔ cmd.commandClass = CommandClass.flightMode.code ∧
      1 ≤ cmd.payloadLength ∧ cmd.byte 0 = mode.code := by
  simp [asksFlightMode, and_assoc]

/-- The commands that reduce the risk hold or end the flight. -/
theorem reducesRisk_iff : reducesRisk cmd = true ↔ HoldsOrLands cmd := by
  rw [reducesRisk, Bool.or_eq_true, asksFlightMode_iff, asksFlightMode_iff, HoldsOrLands]
  tauto

/-- A command that the health gate lets through is not blocked, or is exempt. -/
theorem healthy_cases {health : UInt8} (healthy : healthRefuses health cmd = false) :
    healthBlocks health cmd = false ∨ HoldsOrLands cmd ∨ CarriesForce cmd := by
  rw [← reducesRisk_iff]
  unfold healthRefuses forced at healthy
  unfold CarriesForce
  cases blocked : healthBlocks health cmd
  · exact .inl rfl
  · cases reduces : reducesRisk cmd
    · simp only [blocked, reduces, Bool.not_false, Bool.and_true, Bool.true_and,
        Bool.not_eq_false', bne_iff_ne] at healthy
      exact .inr (.inr healthy)
    · exact .inr (.inl rfl)

/-- A code names its class. -/
theorem code_beq (first second : CommandClass) :
    (first.code == second.code) = decide (first = second) := by
  cases first <;> cases second <;> rfl

/-- When the system fails or recovers, only the classes that intervene are not blocked. -/
theorem failing_class {health : UInt8} {commandClass : CommandClass}
    (named : cmd.commandClass = commandClass.code) (failing : health = 2 ∨ health = 3)
    (unblocked : healthBlocks health cmd = false) :
    commandClass ∈ [CommandClass.recovery, .diagnostic] := by
  have intervening : intervenes cmd.commandClass = true := by
    rcases failing with rfl | rfl <;> simpa [healthBlocks] using unblocked
  simpa [intervenes, named, code_beq] using intervening

/-- When the system is degraded, the classes that rely on it are blocked. -/
theorem degraded_class {commandClass : CommandClass}
    (named : cmd.commandClass = commandClass.code) (length : commandClass.minLength ≤
      cmd.payloadLength) (unblocked : healthBlocks 1 cmd = false) :
    commandClass ∉ [CommandClass.viewpoint, .config] ∧
      ¬ (commandClass = .flightMode ∧ cmd.byte 0 = FlightMode.waypoint.code) := by
  have parts : (commandClass ≠ .viewpoint ∧ commandClass ≠ .config) ∧
      asksFlightMode cmd .waypoint = false := by
    simpa [healthBlocks, named, code_beq] using unblocked
  refine ⟨by simpa using parts.1, ?_⟩
  rintro ⟨rfl, waypoint⟩
  have asks : asksFlightMode cmd .waypoint = true :=
    asksFlightMode_iff.mpr ⟨named, UInt8.le_trans (by decide) length, waypoint⟩
  rw [parts.2] at asks
  cases asks

/-! ## The guarantee -/

/-- Every output of a command but the status comes from a command that has passed every gate. The
handlers are called behind the last gate, and nothing else puts a message on the bus. -/
theorem processUplink_gated (env : Env) (cmd : ProcessUplinkCmd) (s : State) (output : Output)
    (put : output ∈ newOutputs s (processUplink env cmd s)) (acts : output.isStatus = false) :
    ∃ commandClass, Gated s cmd commandClass output := by
  obtain ⟨tlm, published, -, -⟩ := (processUplink_endsAs env cmd s).published.status
  rw [newOutputs_eq (by rw [published, List.cons_append]), List.mem_cons] at put
  have effect : output ∈ (ending env cmd s).effects := by
    rcases put with rfl | effect
    · cases acts
    · exact effect
  obtain ⟨admits, asked⟩ := mem_effects effect
  have asks : request env cmd (receive env cmd s) ≠ .nothing := by
    rcases asked with ⟨message, taken, -, asked⟩ | ⟨-, asked⟩ <;> rw [asked] <;> rintro ⟨⟩
  obtain ⟨version, atMost, checksum⟩ := valid_fields admits.valid
  obtain ⟨commandClass, known, named⟩ := known_class (knownClass_of_valid admits.valid)
  obtain ⟨authorized, token⟩ := authorized_fields admits.authorized
  have atLeast := request_length named asks
  refine ⟨commandClass, admits.new, version, atMost, atLeast, named, known, checksum,
    admits.healthReceived, fun failing => ?_, fun degraded => ?_, authorized, token,
    fun message taken passed sent level carries => ?_⟩
  · exact (healthy_cases admits.healthy).imp_left (failing_class named failing)
  · have healthy := admits.healthy
    rw [degraded] at healthy
    exact (healthy_cases healthy).imp_left (degraded_class named atLeast)
  · rcases asked with ⟨other, _, rfl, asked⟩ | ⟨rfl, -⟩
    · cases sent
      exact request_token named asked level carries
    · cases sent

/-- The reset of the local counters, in a session whose system is well, passes the gates. -/
theorem processUplink_gated_localReset :
    ∃ commandClass, Gated healthySession localResetCmd commandClass .countersReset :=
  processUplink_gated (workingEnv 2000) localResetCmd healthySession .countersReset
    (by decide +kernel) rfl

end CfsTelemetry.Uplink
