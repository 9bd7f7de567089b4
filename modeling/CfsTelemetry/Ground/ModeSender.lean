import CfsTelemetry.Bridge.Modes
import CfsTelemetry.Ground.Senders

/-!
# The flight mode sender of the ground station

The sender names the flight modes, and sends their codes with the item that a mission goes on with
and the token that the highest level of authorization needs. The command is carried out at that
level only, and the flight controller is then asked for the mode of that name.
-/
namespace CfsTelemetry.Ground

open Words Lora

/-- The flight modes that the sender names (`MODE_NAMES`). -/
inductive ModeName where
  | hover | waypoint | land
  deriving DecidableEq, Repr

/-- The code of a flight mode. -/
def ModeName.code : ModeName → Int
  | hover => 0 | waypoint => 1 | land => 2

/-- Build the payload that asks for a flight mode. -/
def buildFlightModePayload (flightMode waypointStartIndex requestToken : Int) :
    Option (List UInt8) := do
  some ([← packByte flightMode, ← packByte waypointStartIndex] ++
    bytes32 (← packWord requestToken))

/-- The item that is sent: only a mission has one. -/
def ModeName.startIndex (waypointIndex : Int) : ModeName → Int
  | waypoint => waypointIndex
  | _ => 0

/-- The payload that the sender sends for its arguments. -/
def modePayload (mode : ModeName) (waypointIndex token : Int) : Option (List UInt8) :=
  buildFlightModePayload mode.code (mode.startIndex waypointIndex) token

/-- The class of the commands that ask for a flight mode (`UPLINK_CLASS_FLIGHT_MODE`). -/
def uplinkClassFlightMode : UInt8 := 8

/-- The command that asks for a flight mode. It is never forced. -/
abbrev modeCommand (sequence : UInt16) (auth : Nat) (payload : List UInt8) : ProcessUplinkCmd :=
  classCommand sequence uplinkClassFlightMode false auth payload

/-! ## What is sent -/

/-- The mode that the uplink application reads in the code. -/
def ModeName.flightMode : ModeName → Uplink.FlightMode
  | hover => .hover
  | waypoint => .waypoint
  | land => .land

/-- The payload for a mode, an item and a token. -/
def modeBytes (mode : ModeName) (index : UInt8) (token : UInt32) : List UInt8 :=
  [mode.flightMode.code, index] ++ bytes32 token

section

variable {mode : ModeName} {waypointIndex token : Int} {index : UInt8} {word : UInt32}
  {sequence : UInt16} {auth : Nat}

/-- A payload is built exactly for an item of one byte and a token of four. -/
theorem modePayload_eq_some {payload : List UInt8} :
    modePayload mode waypointIndex token = some payload ↔
      ∃ (index : UInt8) (word : UInt32), mode.startIndex waypointIndex = index.toNat ∧
        token = word.toNat ∧ payload = modeBytes mode index word := by
  have code : packByte mode.code = some mode.flightMode.code := by cases mode <;> rfl
  unfold modePayload buildFlightModePayload
  rw [code]
  constructor
  · intro made
    cases packed : packByte (mode.startIndex waypointIndex) with
    | none => simp [packed] at made
    | some index =>
      cases worded : packWord token with
      | none => simp [packed, worded] at made
      | some word =>
        rw [packed, worded] at made
        exact ⟨index, word, packByte_eq_some.mp packed, packWord_eq_some.mp worded,
          (Option.some.inj made).symm⟩
  · rintro ⟨index, word, own, rfl, rfl⟩
    rw [packByte_eq_some.mpr own, packWord_eq_some.mpr rfl]
    rfl

/-- A byte of the command is one of its payload. -/
theorem modeCommand_byte {place : Nat} (inside : place < 6) :
    (modeCommand sequence auth (modeBytes mode index word)).byte place =
      (modeBytes mode index word)[place]?.getD 0 := classCommand_byte (by omega)

/-- The token of the command stands where the gates and the parser look for it. -/
theorem modeCommand_token :
    Uplink.tokenAt (modeCommand sequence auth (modeBytes mode index word)) 2 = word := by
  rw [Uplink.tokenAt, modeCommand_byte (by decide), modeCommand_byte (by decide),
    modeCommand_byte (by decide), modeCommand_byte (by decide)]
  exact word32_bytes word

/-- The command is read as the mode, the item and the token. -/
theorem modeCommand_parsed (lawful : mode ≠ .waypoint → index = 0) :
    Uplink.parseFlightModePayload (modeCommand sequence auth (modeBytes mode index word)) =
      some ⟨mode.flightMode.code, index, word⟩ := by
  have first : (modeCommand sequence auth (modeBytes mode index word)).byte 0 =
      mode.flightMode.code := modeCommand_byte (by decide)
  have second : (modeCommand sequence auth (modeBytes mode index word)).byte 1 = index :=
    modeCommand_byte (by decide)
  have whole : ¬ (modeCommand sequence auth (modeBytes mode index word)).payloadLength < 6 := by
    change ¬ (6 : UInt8) < 6
    decide
  have known : ¬ mode.flightMode.code > Uplink.FlightMode.land.code := by cases mode <;> decide
  have placed : ¬ (mode.flightMode.code ≠ Uplink.FlightMode.waypoint.code ∧ index ≠ 0) := by
    rintro ⟨other, some⟩
    exact some (lawful fun same => other (by rw [same]; rfl))
  unfold Uplink.parseFlightModePayload
  rw [if_neg whole, first, if_neg known, second, if_neg placed, modeCommand_token]

/-- The uplink application takes the command for a message to the bridge. -/
theorem modeCommand_request (lawful : mode ≠ .waypoint → index = 0) (env : Uplink.Env)
    (s : Uplink.State) :
    Uplink.request env (modeCommand sequence auth (modeBytes mode index word)) s =
      if env.setFcnCode then .send (.flightMode ⟨sequence, mode.flightMode.code, index⟩)
      else .nothing := by
  have kind : Uplink.CommandClass.ofByte
      (modeCommand sequence auth (modeBytes mode index word)).commandClass =
        some .flightMode := by
    rw [modeCommand, classCommand_eq]
    rfl
  have numbered : (modeCommand sequence auth (modeBytes mode index word)).sequence =
      sequence := by
    rw [modeCommand, classCommand_eq]
    rfl
  unfold Uplink.request
  rw [kind]
  dsimp only
  rw [modeCommand_parsed lawful]
  dsimp only
  rw [Uplink.flightModeCmd, numbered]

section

variable {cmd : ProcessUplinkCmd}

/-- When the system is not healthy, only a mission is refused. -/
theorem healthRefuses_mode (kind : cmd.commandClass = 8) (length : cmd.payloadLength = 6)
    (first : cmd.byte 0 = mode.flightMode.code) (unforced : Uplink.forced cmd = false)
    (health : UInt8) :
    Uplink.healthRefuses health cmd = false ↔ (Impaired health → mode ≠ .waypoint) := by
  have asks : ∀ named, Uplink.asksFlightMode cmd named = decide (mode.flightMode = named) := by
    intro named
    unfold Uplink.asksFlightMode
    rw [kind, length, first]
    cases mode <;> cases named <;> decide
  have blocks : mode = .waypoint → (Uplink.healthBlocks health cmd = true ↔ Impaired health) := by
    rintro rfl
    refine healthBlocks_iff ?_ (.inr (asks .waypoint)) health
    rw [kind]
    decide
  unfold Uplink.healthRefuses Uplink.reducesRisk
  rw [asks, asks, unforced]
  cases mode with
  | hover | land => simp [ModeName.flightMode]
  | waypoint =>
    rw [← blocks rfl]
    simp [ModeName.flightMode]

/-- The command needs level 3 and a token. -/
theorem isAuthorized_mode (kind : cmd.commandClass = 8) (length : cmd.payloadLength = 6)
    (token : Uplink.tokenAt cmd 2 = word) (level : auth ≤ 3)
    (leveled : Uplink.authLevel cmd = auth.toUInt8) :
    Uplink.isAuthorized cmd (Uplink.requestToken cmd) = true ↔ auth = 3 ∧ word ≠ 0 := by
  have required : Uplink.getClassRequiredLevel cmd.commandClass = 3 := by
    rw [kind]
    decide
  have named : Uplink.CommandClass.ofByte cmd.commandClass = some .flightMode := by
    rw [kind]
    decide
  have asked : Uplink.requestToken cmd = word := by
    unfold Uplink.requestToken
    rw [required, named, length, if_pos (by decide)]
    dsimp only
    rw [if_pos (by decide), token]
  have each : ∀ auth : Fin 4, ¬ auth.val.toUInt8 < 3 ↔ auth.val = 3 := by decide
  unfold Uplink.isAuthorized
  dsimp only
  rw [required, asked, leveled, ← each ⟨auth, by omega⟩]
  by_cases low : auth.toUInt8 < 3
  · simp [low]
  · by_cases none : word = 0
    · simp [low, none]
    · simp [low, none]

end

/-- The command is admitted when it is new, its level is 3 and its token not zero, and the system
is healthy or the mode ends the mission. -/
theorem modeCommand_admits (level : auth ≤ 3) (s : Uplink.State) :
    Uplink.Admits s (modeCommand sequence auth (modeBytes mode index word)) ↔
      Uplink.checkSequence s sequence = .new ∧ s.cfsHealthReceived = true ∧
        (Impaired s.cfsHealthState → mode ≠ .waypoint) ∧ auth = 3 ∧ word ≠ 0 := by
  have used : modeBytes mode index word ≠ [] := List.cons_ne_nil _ _
  have small : (modeBytes mode index word).length ≤ 196 := by
    change 6 ≤ 196
    decide
  have kind : (modeCommand sequence auth (modeBytes mode index word)).commandClass = 8 := by
    rw [modeCommand, classCommand_eq]
    rfl
  have length : (modeCommand sequence auth (modeBytes mode index word)).payloadLength = 6 := rfl
  obtain ⟨leveled, unforced⟩ := @classCommand_flags sequence uplinkClassFlightMode false auth
    (modeBytes mode index word) level
  rw [classCommand_admits (by decide) used small,
    healthRefuses_mode kind length (modeCommand_byte (by decide)) unforced,
    isAuthorized_mode kind length modeCommand_token level leveled]

/-- What the flight controller is asked for in the end. -/
def ModeName.requests (index : UInt8) : ModeName → List Bridge.ModeRequest
  | hover => [.subMode (3 : UInt8).toUInt32.toFloat32.toBits]
  | waypoint => [.subMode (4 : UInt8).toUInt32.toFloat32.toBits, .firstItem index.toUInt16]
  | land => [.subMode (6 : UInt8).toUInt32.toFloat32.toBits]

/-- The bridge asks for what the name says, as far as the line takes it. -/
theorem bridge_asks (env : Bridge.Env) (s : Bridge.State) :
    Bridge.requestsBetween s (Bridge.step s
        (.setFlightMode ⟨sequence, mode.flightMode.code, index⟩ env)) =
      (mode.requests index).take (Bridge.requestsSent env s) := by
  rw [Bridge.step_requests]
  cases mode <;> rfl

end

/-- The item and the token of a command fit their places. -/
def ModeFits (mode : ModeName) (waypointIndex token : Int) : Prop :=
  (mode = .waypoint → 0 ≤ waypointIndex ∧ waypointIndex ≤ 255) ∧ 0 ≤ token ∧ token ≤ 4294967295

/-- What fits is an item of one byte and a token of four. -/
theorem modeFits_iff {mode : ModeName} {waypointIndex token : Int} :
    ModeFits mode waypointIndex token ↔ ∃ (index : UInt8) (word : UInt32),
      mode.startIndex waypointIndex = index.toNat ∧ token = word.toNat := by
  constructor
  · rintro ⟨placed, low, high⟩
    have worded : token = token.toNat.toUInt32.toNat := by
      rw [UInt32.toNat_ofNat_of_lt' (by change _ < 4294967296; omega), Int.toNat_of_nonneg low]
    cases mode with
    | hover | land => exact ⟨0, _, rfl, worded⟩
    | waypoint =>
      obtain ⟨least, most⟩ := placed rfl
      have own : waypointIndex = waypointIndex.toNat.toUInt8.toNat := by
        rw [UInt8.toNat_ofNat_of_lt' (by change _ < 256; omega), Int.toNat_of_nonneg least]
      exact ⟨_, _, own, worded⟩
  · rintro ⟨index, word, own, rfl⟩
    have bound := word.toNat_lt
    have small := index.toNat_lt
    refine ⟨?_, by omega, by omega⟩
    rintro rfl
    change waypointIndex = index.toNat at own
    omega

/-- The sender builds a payload exactly for an item of one byte, if any, and a token of four. Its
command is accepted exactly when it is new, a health has been received, it has level 3 and a token
other than zero, and asks to hold or to land or meets a healthy system, and the bus takes the
message. Before the first health nothing is known of the system, and every mode is refused. The
bridge then asks the flight controller for the mode of the name, and for a mission for its item, as
far as the line takes it. -/
theorem modeSender_requests (mode : ModeName) (waypointIndex token : Int) :
    (modePayload mode waypointIndex token = none ↔ ¬ ModeFits mode waypointIndex token) ∧
    ∀ payload, modePayload mode waypointIndex token = some payload →
      ∀ sequence auth, auth ≤ 3 → ∃ cmd : Uplink.FlightModeCtrlCmd,
        (∀ env s, Uplink.ending env (modeCommand sequence auth payload) s =
            .accepted (.flightMode cmd) ↔
          (Uplink.checkSequence s sequence = .new ∧ s.cfsHealthReceived = true ∧
            (Impaired s.cfsHealthState → mode ≠ .waypoint) ∧ auth = 3 ∧ token ≠ 0) ∧
          env.setFcnCode = true ∧ env.transmit = true) ∧
        (∀ env s message, Uplink.ending env (modeCommand sequence auth payload) s =
          .accepted message → message = .flightMode cmd) ∧
        ∀ env bridge, Bridge.requestsBetween bridge (Bridge.step bridge (.setFlightMode
            ⟨cmd.sourceSequence, cmd.flightMode, cmd.waypointStartIndex⟩ env)) =
          (mode.requests waypointIndex.toNat.toUInt8).take (Bridge.requestsSent env bridge) := by
  constructor
  · rw [modeFits_iff]
    constructor
    · rintro none ⟨index, word, own, worded⟩
      rw [modePayload_eq_some.mpr ⟨index, word, own, worded, rfl⟩] at none
      cases none
    · intro unfit
      by_contra some
      obtain ⟨payload, made⟩ := Option.ne_none_iff_exists'.mp some
      obtain ⟨index, word, own, worded, -⟩ := modePayload_eq_some.mp made
      exact unfit ⟨index, word, own, worded⟩
  · intro payload made sequence auth level
    obtain ⟨index, word, own, rfl, rfl⟩ := modePayload_eq_some.mp made
    have lawful : mode ≠ .waypoint → index = 0 := by
      intro other
      have zero : mode.startIndex waypointIndex = 0 := by
        cases mode with
        | waypoint => exact absurd rfl other
        | hover | land => rfl
      rw [zero] at own
      exact UInt8.toNat_inj.mp (by
        change index.toNat = 0
        omega)
    have requests : mode.requests waypointIndex.toNat.toUInt8 = mode.requests index := by
      cases mode with
      | hover | land => rfl
      | waypoint =>
        have same : waypointIndex = index.toNat := own
        rw [same, Int.toNat_natCast, Nat.toUInt8_eq, UInt8.ofNat_toNat]
    have some : word ≠ 0 ↔ (word.toNat : Int) ≠ 0 := by
      rw [ne_eq, ne_eq, ← UInt32.toNat_inj]
      exact not_congr Int.natCast_eq_zero.symm
    refine ⟨⟨sequence, mode.flightMode.code, index⟩, fun env s => ?_, fun env s message way => ?_,
      fun env bridge => ?_⟩
    · rw [Uplink.ending_eq_accepted, modeCommand_admits level, modeCommand_request lawful, some]
      cases env.setFcnCode <;> simp
    · obtain ⟨-, asked, -⟩ := Uplink.ending_eq_accepted.mp way
      rw [modeCommand_request lawful] at asked
      cases taken : env.setFcnCode with
      | false => simp [taken] at asked
      | true =>
        rw [taken, if_pos rfl] at asked
        cases asked
        rfl
    · rw [requests]
      exact bridge_asks env bridge

/-- A mission from its third item on is accepted and asked for. -/
theorem modeSender_requests_waypoint :
    ∃ payload, modePayload .waypoint 2 1 = some payload ∧
      ∃ cmd : Uplink.FlightModeCtrlCmd, ∀ env bridge, Bridge.requestsBetween bridge
          (Bridge.step bridge (.setFlightMode
            ⟨cmd.sourceSequence, cmd.flightMode, cmd.waypointStartIndex⟩ env)) =
        (ModeName.waypoint.requests 2).take (Bridge.requestsSent env bridge) := by
  have made : (modePayload .waypoint 2 1).isSome = true := by decide +kernel
  obtain ⟨payload, built⟩ := Option.isSome_iff_exists.mp made
  obtain ⟨cmd, -, -, asks⟩ := (modeSender_requests .waypoint 2 1).2 payload built 7 3 (by decide)
  exact ⟨payload, built, cmd, asks⟩

end CfsTelemetry.Ground
