import CfsTelemetry.Ground.Senders
import CfsTelemetry.Mission.Settings

/-!
# The configuration sender of the ground station

The sender names the parameters of the core application and of the bridge, and sends their
identifiers. The application that is named then sets the parameter of this name, unless the value
is out of its range, and no other application does anything.
-/
namespace CfsTelemetry.Ground

open Words Lora

/-- The parameters of the core application that the sender names (`CFS_CORE_PARAMS`). -/
inductive CoreParam where
  | attitudeTimeoutMs | localTimeoutMs | gpsTimeoutMs | ekfTimeoutMs | bridgeTimeoutMs
  | publishPeriodMs
  deriving DecidableEq, Repr

/-- The parameters of the bridge that the sender names (`MAVLINK_BRIDGE_PARAMS`). -/
inductive BridgeParam where
  | attitudeIntervalUs | localPositionIntervalUs | globalPositionIntervalUs | gpsRawIntervalUs
  | ekfStatusIntervalUs | reconnectIntervalMs | heartbeatIntervalMs
  deriving DecidableEq, Repr

/-- The identifier of a parameter of the core application. -/
def CoreParam.id : CoreParam → Nat
  | attitudeTimeoutMs => 0 | localTimeoutMs => 1 | gpsTimeoutMs => 2 | ekfTimeoutMs => 3
  | bridgeTimeoutMs => 4 | publishPeriodMs => 5

/-- The identifier of a parameter of the bridge. -/
def BridgeParam.id : BridgeParam → Nat
  | attitudeIntervalUs => 0 | localPositionIntervalUs => 1 | globalPositionIntervalUs => 2
  | gpsRawIntervalUs => 3 | ekfStatusIntervalUs => 4 | reconnectIntervalMs => 5
  | heartbeatIntervalMs => 6

/-- What the sender sends a value to (`target` and `param`). -/
inductive ConfigTarget where
  | cfsCore (param : CoreParam)
  | mavlinkBridge (param : BridgeParam)
  deriving DecidableEq, Repr

/-- The scope of a target (`SCOPE_CFS_CORE_APP`, `SCOPE_MAVLINK_BRIDGE`). -/
def ConfigTarget.scope : ConfigTarget → Nat
  | cfsCore _ => 1
  | mavlinkBridge _ => 2

/-- The identifier of the parameter of a target. -/
def ConfigTarget.paramId : ConfigTarget → Nat
  | cfsCore param => param.id
  | mavlinkBridge param => param.id

/-- The sum over a header and a value. -/
def configChecksum (scope version paramId valueType valueLength : Nat)
    (valueBytes : List UInt8) : Nat :=
  let s := (scope &&& 0xFF) + (version &&& 0xFF) + (paramId &&& 0xFF) +
    ((paramId >>> 8) &&& 0xFF) + (valueType &&& 0xFF) + (valueLength &&& 0xFF)
  valueBytes.foldl (fun s byte => s + byte.toNat) s &&& 0xFFFF

/-- Build the payload that sets a parameter. -/
def buildConfigPayload (scope paramId : Nat) (value : Int) : Option (List UInt8) := do
  let valueBytes := bytes32 (← packWord value)
  let checksum := configChecksum scope 1 paramId 0 valueBytes.length valueBytes
  some ([← packByte scope, ← packByte 1] ++ bytes16 (← packHalf paramId) ++
    [← packByte 0, ← packByte valueBytes.length] ++ bytes16 (← packHalf checksum) ++ valueBytes)

/-- The class of the commands that set a parameter (`UPLINK_CLASS_CONFIG`). -/
def uplinkClassConfig : UInt8 := 1

/-- The sum over a header that the receivers expect. -/
def headerSum (scope : UInt8) (parameterId : UInt16) : UInt16 :=
  let low := parameterId &&& 0xFF
  let high := (parameterId >>> 8) &&& 0xFF
  scope.toUInt16 + 1 + low + high + 0 + 4

/-- The sum that the receivers expect. -/
def expectedSum (scope : UInt8) (parameterId : UInt16) (value : UInt32) : UInt16 :=
  (bytes32 value).foldl (fun sum byte => sum + byte.toUInt16) (headerSum scope parameterId)

/-- The payload for given bytes and words. -/
def configBytes (scope : UInt8) (parameterId : UInt16) (value : UInt32) : List UInt8 :=
  [scope, 1] ++ bytes16 parameterId ++ [0, 4] ++ bytes16 (expectedSum scope parameterId value) ++
    bytes32 value

/-- A sum of bytes is one of words. -/
theorem foldl_toUInt16 (bytes : List UInt8) (start : Nat) :
    (bytes.foldl (fun s byte => s + byte.toNat) start).toUInt16 =
      bytes.foldl (fun sum byte => sum + byte.toUInt16) start.toUInt16 := by
  induction bytes generalizing start with
  | nil => rfl
  | cons byte rest previous =>
    have next : (start + byte.toNat).toUInt16 = start.toUInt16 + byte.toUInt16 := by
      rw [Nat.toUInt16_eq, UInt16.ofNat_add, UInt16.ofNat_uInt8ToNat, Nat.toUInt16_eq]
    rw [List.foldl_cons, List.foldl_cons, previous, next]

/-- The sender's sum is the one that the receivers expect. -/
theorem configChecksum_eq (scope : UInt8) (parameterId : UInt16) (value : UInt32) :
    configChecksum scope.toNat 1 parameterId.toNat 0 4 (bytes32 value) =
      (expectedSum scope parameterId value).toNat := by
  have low : scope.toNat &&& 0xFF = scope.toNat :=
    Nat.and_two_pow_sub_one_of_lt_two_pow scope.toNat_lt
  have header : ((scope.toNat &&& 0xFF) + (1 &&& 0xFF) + (parameterId.toNat &&& 0xFF) +
      ((parameterId.toNat >>> 8) &&& 0xFF) + (0 &&& 0xFF) + (4 &&& 0xFF)).toUInt16 =
        headerSum scope parameterId := by
    have first : (parameterId.toNat &&& 0xFF).toUInt16 = parameterId &&& 0xFF := by
      rw [Nat.toUInt16_eq, UInt16.ofNat_and, UInt16.ofNat_toNat]
      rfl
    have second : ((parameterId.toNat >>> 8) &&& 0xFF).toUInt16 =
        (parameterId >>> 8) &&& 0xFF := by
      have shifted : parameterId.toNat >>> 8 = (parameterId >>> 8).toNat :=
        (UInt16.toNat_shiftRight parameterId 8).symm
      rw [shifted, Nat.toUInt16_eq, UInt16.ofNat_and, UInt16.ofNat_toNat]
      rfl
    unfold headerSum
    dsimp only
    rw [low, ← first, ← second]
    simp only [Nat.toUInt16_eq, UInt16.ofNat_add, UInt16.ofNat_uInt8ToNat]
    rfl
  have folded := foldl_toUInt16 (bytes32 value)
    ((scope.toNat &&& 0xFF) + (1 &&& 0xFF) + (parameterId.toNat &&& 0xFF) +
      ((parameterId.toNat >>> 8) &&& 0xFF) + (0 &&& 0xFF) + (4 &&& 0xFF))
  rw [header] at folded
  unfold configChecksum expectedSum
  rw [← folded, Nat.toUInt16_eq, UInt16.toNat_ofNat', ← Nat.and_two_pow_sub_one_eq_mod]

/-- A payload is built exactly for a value of four bytes. -/
theorem buildConfigPayload_eq_some {scope : UInt8} {parameterId : UInt16} {value : Int}
    {payload : List UInt8} :
    buildConfigPayload scope.toNat parameterId.toNat value = some payload ↔
      ∃ word : UInt32, value = word.toNat ∧ payload = configBytes scope parameterId word := by
  have built : ∀ word : UInt32, value = word.toNat →
      buildConfigPayload scope.toNat parameterId.toNat value =
        some (configBytes scope parameterId word) := by
    rintro word rfl
    have checksum : packHalf (configChecksum scope.toNat 1 parameterId.toNat 0
        (bytes32 word).length (bytes32 word)) = some (expectedSum scope parameterId word) :=
      packHalf_eq_some.mpr (congrArg Nat.cast (configChecksum_eq scope parameterId word))
    have four : (bytes32 word).length = 4 := rfl
    have length : packByte (4 : Nat) = some 4 := rfl
    have version : packByte 1 = some 1 := rfl
    have valueType : packByte 0 = some 0 := rfl
    have target : packByte scope.toNat = some scope := packByte_eq_some.mpr rfl
    have param : packHalf parameterId.toNat = some parameterId := packHalf_eq_some.mpr rfl
    rw [four] at checksum
    unfold buildConfigPayload
    rw [packWord_eq_some.mpr rfl]
    simp only [bind, Option.bind, four, checksum, target, param, version, valueType, length]
    simp only [configBytes, List.append_assoc]
  constructor
  · intro made
    cases packed : packWord value with
    | none => simp [buildConfigPayload, packed] at made
    | some word =>
      have own := packWord_eq_some.mp packed
      exact ⟨word, own, Option.some.inj (made.symm.trans (built word own))⟩
  · rintro ⟨word, own, rfl⟩
    exact built word own

/-! ## What is received -/

/-- A whole configuration command that sets a parameter of an application. -/
structure Sets (cmd : ConfigCmd) (scope : UInt8) (parameterId : UInt16) (value : UInt32) :
    Prop where
  payloadLength : cmd.payloadLength = 12
  scope : cmd.byte 0 = scope
  version : cmd.byte 1 = 1
  parameterId : cmd.parameterId = parameterId
  valueLength : cmd.byte 5 = 4
  checksum : cmd.checksum = cmd.sum
  value : cmd.value = value

section

variable {sequence : UInt16} {force : Bool} {auth : Nat} {scope : UInt8} {parameterId : UInt16}
  {value : UInt32}

/-- The command that sets a parameter. -/
abbrev configCommand (sequence : UInt16) (force : Bool) (auth : Nat) (payload : List UInt8) :
    ProcessUplinkCmd :=
  classCommand sequence uplinkClassConfig force auth payload

/-- The message for the command sets the parameter. -/
theorem configCommand_sets (s : Uplink.State) :
    Sets (Mission.configCmd (Uplink.configTlm
      (configCommand sequence force auth (configBytes scope parameterId value)) s))
      scope parameterId value := by
  generalize message : Mission.configCmd (Uplink.configTlm
    (configCommand sequence force auth (configBytes scope parameterId value)) s) = cmd
  have read : ∀ index, index < 12 →
      cmd.byte index = (configBytes scope parameterId value)[index]?.getD 0 := by
    intro index inside
    have wide : index < 196 := by omega
    rw [← message]
    exact (Mission.configCmd_byte s inside wide).trans (classCommand_byte wide)
  have named : cmd.parameterId = parameterId := by
    rw [ConfigCmd.parameterId, read 2 (by decide), read 3 (by decide)]
    exact word16_bytes parameterId
  have summed : cmd.checksum = expectedSum scope parameterId value := by
    rw [ConfigCmd.checksum, read 6 (by decide), read 7 (by decide)]
    exact word16_bytes _
  have length : cmd.byte 5 = 4 := read 5 (by decide)
  have four : (4 : UInt8).toNat = 4 := by decide
  refine ⟨by rw [← message]; rfl, read 0 (by decide), read 1 (by decide), named, length, ?_, ?_⟩
  · rw [summed]
    unfold ConfigCmd.sum
    dsimp only
    rw [named, length, four, Mission.valueBytes, read 0 (by decide), read 1 (by decide),
      read 4 (by decide), read 8 (by decide), read 9 (by decide), read 10 (by decide),
      read 11 (by decide)]
    rfl
  · rw [ConfigCmd.value, read 8 (by decide), read 9 (by decide), read 10 (by decide),
      read 11 (by decide)]
    exact word32_bytes value

/-- The uplink application takes the command for a message. -/
theorem configCommand_request (env : Uplink.Env) (s : Uplink.State) :
    Uplink.request env (configCommand sequence force auth (configBytes scope parameterId value))
      s = .send (.config (Uplink.configTlm
        (configCommand sequence force auth (configBytes scope parameterId value)) s)) := by
  generalize own : configCommand sequence force auth (configBytes scope parameterId value) = cmd
  have read : ∀ index, index < 12 →
      cmd.byte index = (configBytes scope parameterId value)[index]?.getD 0 := by
    intro index inside
    rw [← own]
    exact classCommand_byte (by omega)
  have length : cmd.payloadLength = 12 := by
    rw [← own]
    rfl
  have named : (Uplink.configPayloadHdr cmd).parameterId = parameterId := by
    rw [Uplink.configPayloadHdr, read 2 (by decide), read 3 (by decide)]
    exact word16_bytes parameterId
  have four : (Uplink.configPayloadHdr cmd).valueLength = 4 := read 5 (by decide)
  have summed : (Uplink.configPayloadHdr cmd).checksum = expectedSum scope parameterId value := by
    rw [Uplink.configPayloadHdr, read 6 (by decide), read 7 (by decide)]
    exact word16_bytes _
  have expected : Uplink.expectedChecksum cmd = expectedSum scope parameterId value := by
    have first : (Uplink.configPayloadHdr cmd).configScope = scope := read 0 (by decide)
    have second : (Uplink.configPayloadHdr cmd).configVersion = 1 := read 1 (by decide)
    have fifth : (Uplink.configPayloadHdr cmd).valueType = 0 := read 4 (by decide)
    have range : List.range (4 : UInt8).toNat = [0, 1, 2, 3] := by decide
    unfold Uplink.expectedChecksum Uplink.configChecksum
    dsimp only
    rw [named, first, second, fifth, four, range]
    simp only [List.map_cons, List.map_nil, Nat.reduceAdd]
    rw [read 8 (by decide), read 9 (by decide), read 10 (by decide), read 11 (by decide)]
    rfl
  have valid : Uplink.configValid cmd = true := by
    have same : (!decide (expectedSum scope parameterId value ≠
        expectedSum scope parameterId value)) = true := by simp
    unfold Uplink.configValid
    dsimp only
    rw [length, four, summed, expected, same]
    decide
  have kind : Uplink.CommandClass.ofByte cmd.commandClass = some .config := by
    rw [← own, configCommand, classCommand_eq]
    rfl
  unfold Uplink.request
  rw [kind]
  exact if_pos valid

section

variable {cmd : ProcessUplinkCmd}

/-- When the system is not healthy, the command is refused unless it is forced. -/
theorem healthRefuses_config (kind : cmd.commandClass = 1) (forces : Uplink.forced cmd = force)
    (health : UInt8) :
    Uplink.healthRefuses health cmd = false ↔ (Impaired health → force = true) := by
  have risky : Uplink.reducesRisk cmd = false := by
    unfold Uplink.reducesRisk Uplink.asksFlightMode
    rw [kind]
    rfl
  have blocks : Uplink.healthBlocks health cmd = true ↔ Impaired health := by
    refine healthBlocks_iff ?_ (.inl kind) health
    rw [kind]
    decide
  unfold Uplink.healthRefuses
  rw [risky, forces, ← blocks]
  cases Uplink.healthBlocks health cmd <;> cases force <;> decide

/-- The command needs level 2. -/
theorem isAuthorized_config (kind : cmd.commandClass = 1) (level : auth ≤ 3)
    (leveled : Uplink.authLevel cmd = auth.toUInt8) :
    Uplink.isAuthorized cmd (Uplink.requestToken cmd) = true ↔ 2 ≤ auth := by
  have required : Uplink.getClassRequiredLevel cmd.commandClass = 2 := by
    rw [kind]
    decide
  have each : ∀ auth : Fin 4, ¬ auth.val.toUInt8 < 2 ↔ 2 ≤ auth.val := by decide
  unfold Uplink.isAuthorized
  dsimp only
  rw [required, leveled, ← each ⟨auth, by omega⟩]
  by_cases low : auth.toUInt8 < 2 <;> simp [low]

end

/-- The command is admitted when it is new, its level is 2 or 3, and the system is healthy or the
command is forced. -/
theorem configCommand_admits (level : auth ≤ 3) (s : Uplink.State) :
    Uplink.Admits s
        (configCommand sequence force auth (configBytes scope parameterId value)) ↔
      Uplink.checkSequence s sequence = .new ∧ s.cfsHealthReceived = true ∧
        (Impaired s.cfsHealthState → force = true) ∧ 2 ≤ auth := by
  have used : configBytes scope parameterId value ≠ [] := List.cons_ne_nil _ _
  have small : (configBytes scope parameterId value).length ≤ 196 := by
    change 12 ≤ 196
    decide
  have kind : (configCommand sequence force auth
      (configBytes scope parameterId value)).commandClass = 1 := by
    rw [configCommand, classCommand_eq]
    rfl
  obtain ⟨leveled, forces⟩ := @classCommand_flags sequence uplinkClassConfig force auth
    (configBytes scope parameterId value) level
  rw [classCommand_admits (by decide) used small, healthRefuses_config kind forces,
    isAuthorized_config kind level leveled]

end

/-! ## What the applications do -/

/-- A configuration of the core application with a parameter set to a value. -/
def CoreParam.set (value : UInt32) (config : Core.ConfigParams) : CoreParam → Core.ConfigParams
  | attitudeTimeoutMs => { config with attitudeTimeoutMs := value }
  | localTimeoutMs => { config with localTimeoutMs := value }
  | gpsTimeoutMs => { config with gpsTimeoutMs := value }
  | ekfTimeoutMs => { config with ekfTimeoutMs := value }
  | bridgeTimeoutMs => { config with bridgeTimeoutMs := value }
  | publishPeriodMs => { config with publishPeriodMs := value }

/-- A configuration of the bridge with a parameter set to a value. -/
def BridgeParam.set (value : UInt32) (config : Bridge.ConfigParams) :
    BridgeParam → Bridge.ConfigParams
  | attitudeIntervalUs => { config with attitudeIntervalUs := value }
  | localPositionIntervalUs => { config with localPositionIntervalUs := value }
  | globalPositionIntervalUs => { config with globalPositionIntervalUs := value }
  | gpsRawIntervalUs => { config with gpsRawIntervalUs := value }
  | ekfStatusIntervalUs => { config with ekfStatusIntervalUs := value }
  | reconnectIntervalMs => { config with reconnectIntervalMs := value }
  | heartbeatIntervalMs => { config with heartbeatIntervalMs := value }

/-- The active configurations of the core application and of the bridge. -/
def activeConfigs (apps : Mission.Subscribers) : Core.ConfigParams × Bridge.ConfigParams :=
  (apps.core.app.activeConfig, apps.bridge.app.activeConfig)

/-- The configurations after a target was given a value: the one of the target has the parameter
set, when the value is in its range and no other value of the configuration is too short. -/
def ConfigTarget.apply (value : UInt32) (configs : Core.ConfigParams × Bridge.ConfigParams) :
    ConfigTarget → Core.ConfigParams × Bridge.ConfigParams
  | cfsCore param =>
    (if Core.timeInRange value ∧ (param.set value configs.1).consistent then
        param.set value configs.1
      else configs.1, configs.2)
  | mavlinkBridge param =>
    (configs.1, if Bridge.parameterInRange param.id value ∧
        (param.set value configs.2).consistent then param.set value configs.2
      else configs.2)

section

variable {cmd : ConfigCmd} {scope : UInt8} {parameterId : UInt16} {value : UInt32}

/-- A command that sets a parameter passes the checks of its header. -/
theorem Sets.checked (sets : Sets cmd scope parameterId value) :
    ¬ cmd.payloadLength < 8 ∧ ¬ cmd.byte 0 ≠ scope ∧ ¬ cmd.byte 1 ≠ 1 ∧
      ¬ (cmd.byte 5 ≠ 4 ∨ 8 + cmd.byte 5 > cmd.payloadLength) ∧ ¬ cmd.checksum ≠ cmd.sum := by
  rw [sets.payloadLength, sets.valueLength]
  exact ⟨by decide, not_not.mpr sets.scope, not_not.mpr sets.version, by decide,
    not_not.mpr sets.checksum⟩

/-- A value is out of bounds exactly when it is not within them. -/
theorem outside_iff {low high : UInt32} :
    (value < low ∨ value > high) ↔ ¬ (low ≤ value ∧ value ≤ high) := by
  rw [not_and_or, UInt32.not_le, UInt32.not_le]

/-- The core application sets the parameter, or keeps its configuration. -/
theorem core_configured (io : Core.SaveIo) (path : String) (c : Core.Configured)
    {param : CoreParam} (sets : Sets cmd Core.configScope param.id.toUInt16 value) :
    (Core.processConfigCommand io path cmd c).app.activeConfig =
      if Core.timeInRange value ∧ (param.set value c.app.activeConfig).consistent then
        param.set value c.app.activeConfig
      else c.app.activeConfig := by
  obtain ⟨whole, own, version, length, sum⟩ := sets.checked
  have carried : word32 (cmd.byte 8) (cmd.byte 9) (cmd.byte 10) (cmd.byte 11) = value := sets.value
  have candidate : c.app.activeConfig.set param.id.toUInt16 value =
      some (param.set value c.app.activeConfig) := by
    cases param <;> rfl
  have versioned : ¬ cmd.byte 1 ≠ Core.configVersion := version
  have summed : ¬ cmd.checksum ≠ Core.configChecksum cmd := sum
  unfold Core.processConfigCommand
  rw [if_neg whole, if_neg own, if_neg versioned, if_neg length, if_neg summed]
  dsimp only
  rw [carried, sets.parameterId, candidate]
  by_cases range : Core.timeInRange value
  · rw [if_neg fun outside => outside_iff.mp outside range]
    dsimp only
    by_cases consistent : (param.set value c.app.activeConfig).consistent = true
    · rw [if_pos consistent, if_pos (And.intro range consistent)]
      cases io <;> rfl
    · rw [if_neg consistent, if_neg (not_and_of_not_right _ consistent)]
      rfl
  · rw [if_pos (outside_iff.mpr range), if_neg (not_and_of_not_left _ range)]
    rfl

/-- The core application does not touch its configuration for another application. -/
theorem core_unconfigured (io : Core.SaveIo) (path : String) (c : Core.Configured)
    (sets : Sets cmd scope parameterId value) (other : scope ≠ Core.configScope) :
    (Core.processConfigCommand io path cmd c).app.activeConfig = c.app.activeConfig := by
  obtain ⟨whole, -⟩ := sets.checked
  have foreign : cmd.byte 0 ≠ Core.configScope := sets.scope ▸ other
  unfold Core.processConfigCommand
  rw [if_neg whole, if_pos foreign]
  rfl

/-- The bridge makes a candidate exactly of a value in the range of its parameter. -/
theorem bridge_candidate (config : Bridge.ConfigParams) (param : BridgeParam) :
    (Bridge.parameterInRange param.id value →
        config.set param.id.toUInt16 value = .ok (param.set value config)) ∧
      (¬ Bridge.parameterInRange param.id value →
        config.set param.id.toUInt16 value = .error .badValue) := by
  constructor
  · intro range
    cases param <;> exact if_neg fun outside => outside_iff.mp outside range
  · intro range
    cases param <;> exact if_pos (outside_iff.mpr range)

/-- The bridge sets the parameter, or keeps its configuration. -/
theorem bridge_configured (result : Bridge.SaveResult) (c : Bridge.Configured)
    {param : BridgeParam} (sets : Sets cmd Bridge.configScope param.id.toUInt16 value) :
    (c.processConfigCommand result cmd).app.activeConfig =
      if Bridge.parameterInRange param.id value ∧
          (param.set value c.app.activeConfig).consistent then
        param.set value c.app.activeConfig
      else c.app.activeConfig := by
  obtain ⟨whole, own, version, length, sum⟩ := sets.checked
  have carried : word32 (cmd.byte 8) (cmd.byte 9) (cmd.byte 10) (cmd.byte 11) = value := sets.value
  have named : ¬ cmd.byte 0 ≠ 2 := own
  have summed : ¬ cmd.checksum ≠ Bridge.configChecksum cmd := sum
  rw [Bridge.processConfigCommand_app]
  unfold Bridge.processConfigCommand
  rw [if_neg whole, if_neg named, if_neg version, if_neg length, if_neg summed]
  dsimp only
  rw [carried, sets.parameterId]
  by_cases range : Bridge.parameterInRange param.id value
  · rw [(bridge_candidate _ _).1 range]
    dsimp only
    by_cases consistent : (param.set value c.app.activeConfig).consistent = true
    · rw [if_pos consistent, if_pos (And.intro range consistent)]
      cases result <;> rfl
    · rw [if_neg consistent, if_neg (not_and_of_not_right _ consistent)]
      rfl
  · rw [(bridge_candidate _ _).2 range, if_neg (not_and_of_not_left _ range)]
    rfl

/-- The application that a target names sets the parameter or keeps its configuration, and no
other configuration changes. -/
theorem receiveConfig_applies (target : ConfigTarget) {tlm : Uplink.ConfigCmdTlm}
    (sets : Sets (Mission.configCmd tlm) target.scope.toUInt8 target.paramId.toUInt16 value)
    (env : Mission.SubscriberEnv) (apps : Mission.Subscribers) :
    activeConfigs (Mission.receiveConfig env tlm apps) =
        target.apply value (activeConfigs apps) ∧
      (Mission.receiveConfig env tlm apps).lora = apps.lora := by
  have whole := sets.checked.1
  have lora : (Mission.configCmd tlm).byte 0 ≠ Lora.configScope := by
    rw [sets.scope]
    cases target with
    | cfsCore param =>
      change (1 : UInt8) ≠ 3
      decide
    | mavlinkBridge param =>
      change (2 : UInt8) ≠ 3
      decide
  refine And.intro ?_ ((Mission.lora_minds env.lora apps.lora whole).ignores lora)
  cases target with
  | cfsCore param =>
    have bridge : (Mission.configCmd tlm).byte 0 ≠ Bridge.configScope := by
      rw [sets.scope]
      change (1 : UInt8) ≠ 2
      decide
    have kept := (Mission.bridge_minds env.bridgeSave apps.bridge whole).ignores bridge
    exact Prod.ext (core_configured _ _ _ sets)
      (congrArg (fun bridge : Bridge.Configured => bridge.app.activeConfig) kept)
  | mavlinkBridge param =>
    exact Prod.ext (core_unconfigured _ _ _ sets (by change (2 : UInt8) ≠ 1; decide))
      (bridge_configured _ _ sets)

end

/-- The sender builds a payload exactly for a value of four bytes. Exactly when its command is new,
a health has been received, it has level 2 or more and is forced or meets a healthy system, and the
bus takes the message, the uplink application forwards it as a configuration message. The
application that was named then sets the parameter of that name exactly when the value is in its
range and no other value of the configuration is too short, and no other configuration changes. -/
theorem configSender_sets (target : ConfigTarget) (value : Int) :
    (buildConfigPayload target.scope target.paramId value = none ↔
      ¬ (0 ≤ value ∧ value ≤ 4294967295)) ∧
    ∀ payload, buildConfigPayload target.scope target.paramId value = some payload →
      ∀ sequence force auth, auth ≤ 3 → ∀ env s,
        (Uplink.ending env (configCommand sequence force auth payload) s = .accepted (.config
            (Uplink.configTlm (configCommand sequence force auth payload) (Uplink.receive env
              (configCommand sequence force auth payload) s))) ↔
          (Uplink.checkSequence s sequence = .new ∧ s.cfsHealthReceived = true ∧
            (Impaired s.cfsHealthState → force = true) ∧ 2 ≤ auth) ∧ env.transmit = true) ∧
        ∀ subscriberEnv s' apps,
          activeConfigs (Mission.receiveConfig subscriberEnv
              (Uplink.configTlm (configCommand sequence force auth payload) s') apps) =
            target.apply value.toNat.toUInt32 (activeConfigs apps) ∧
          (Mission.receiveConfig subscriberEnv
              (Uplink.configTlm (configCommand sequence force auth payload) s') apps).lora =
            apps.lora := by
  have scope : target.scope = target.scope.toUInt8.toNat := by cases target <;> rfl
  have named : target.paramId = target.paramId.toUInt16.toNat := by
    cases target with
    | cfsCore param => cases param <;> rfl
    | mavlinkBridge param => cases param <;> rfl
  have built : ∀ payload, buildConfigPayload target.scope target.paramId value = some payload ↔
      ∃ word : UInt32, value = word.toNat ∧
        payload = configBytes target.scope.toUInt8 target.paramId.toUInt16 word := by
    intro payload
    have own := @buildConfigPayload_eq_some target.scope.toUInt8 target.paramId.toUInt16 value
      payload
    rw [← scope, ← named] at own
    exact own
  constructor
  · constructor
    · rintro none ⟨low, high⟩
      have own : value = value.toNat.toUInt32.toNat := by
        rw [UInt32.toNat_ofNat_of_lt' (by change _ < 4294967296; omega), Int.toNat_of_nonneg low]
      rw [(built _).mpr ⟨_, own, rfl⟩] at none
      cases none
    · intro outside
      by_contra some
      obtain ⟨payload, made⟩ := Option.ne_none_iff_exists'.mp some
      obtain ⟨word, rfl, -⟩ := (built payload).mp made
      have bound := word.toNat_lt
      omega
  · intro payload made sequence force auth level env s
    obtain ⟨word, rfl, rfl⟩ := (built payload).mp made
    constructor
    · rw [Uplink.ending_eq_accepted, configCommand_admits level, configCommand_request]
      simp
    · intro subscriberEnv s' apps
      rw [Int.toNat_natCast, Nat.toUInt32_eq, UInt32.ofNat_toNat]
      have sets := @configCommand_sets sequence force auth target.scope.toUInt8
        target.paramId.toUInt16 word s'
      exact receiveConfig_applies target sets subscriberEnv apps

/-- A longer timeout for the bridge is built, and set by the core application. -/
theorem configSender_sets_timeout :
    ∃ payload, buildConfigPayload (ConfigTarget.cfsCore .bridgeTimeoutMs).scope
        (ConfigTarget.cfsCore .bridgeTimeoutMs).paramId 3000 = some payload ∧
      ∀ env s apps, activeConfigs (Mission.receiveConfig env
          (Uplink.configTlm (configCommand 7 false 2 payload) s) apps) =
        (ConfigTarget.cfsCore .bridgeTimeoutMs).apply 3000 (activeConfigs apps) := by
  have made : (buildConfigPayload (ConfigTarget.cfsCore .bridgeTimeoutMs).scope
      (ConfigTarget.cfsCore .bridgeTimeoutMs).paramId 3000).isSome = true := by decide +kernel
  obtain ⟨payload, built⟩ := Option.isSome_iff_exists.mp made
  refine ⟨payload, built, fun env s apps => ?_⟩
  exact (((configSender_sets (.cfsCore .bridgeTimeoutMs) 3000).2 payload built 7 false 2
    (by decide) (Uplink.workingEnv 1000) s).2 env s apps).1

end CfsTelemetry.Ground
