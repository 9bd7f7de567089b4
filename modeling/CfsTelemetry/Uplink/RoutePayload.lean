import CfsTelemetry.Library.Slots
import CfsTelemetry.Uplink.Commit

/-!
# The grammar of route updates

A route update is an edit of the mission in a small binary grammar: a header of four bytes, and
as many waypoints of 29 bytes as the operation takes. `RouteEdit` is the edit and `encode` its
wire form; the parser takes exactly the wire forms of valid edits, and returns the edit. A
second reading of the parser, with every access to the payload checked against the declared
length, comes to the same result, so no byte behind that length is read.
-/
namespace CfsTelemetry.Uplink

open Words Slots

variable {env : Env} {cmd : ProcessUplinkCmd} {s : State}

/-- A waypoint that the flight controller may be given: the parameters and the altitude are
numbers, and the altitude is in range. -/
structure Flyable (waypoint : Waypoint) : Prop where
  /-- The parameters and the altitude are finite. -/
  finite : isFinite waypoint.param1 ∧ isFinite waypoint.param2 ∧ isFinite waypoint.param3 ∧
    isFinite waypoint.param4 ∧ isFinite waypoint.z
  /-- The altitude is between two and eight metres. -/
  altitude : routeAltitudeMinM ≤ Float32.ofBits waypoint.z ∧
    Float32.ofBits waypoint.z ≤ routeAltitudeMaxM

/-- An edit of the mission. -/
inductive RouteEdit where
  | replace (waypoints : List Waypoint)
  | add (waypoints : List Waypoint)
  | delete (index : UInt8)
  | modify (index : UInt8) (waypoint : Waypoint)
  deriving DecidableEq, Repr

/-- The wire form of a waypoint: the command, four parameters, two coordinates, the altitude. -/
def waypointBytes (waypoint : Waypoint) : List UInt8 :=
  waypoint.cmdType :: (bytes32 waypoint.param1 ++ (bytes32 waypoint.param2 ++
    (bytes32 waypoint.param3 ++ (bytes32 waypoint.param4 ++ (bytes32 waypoint.latE7.toUInt32 ++
      (bytes32 waypoint.lonE7.toUInt32 ++ bytes32 waypoint.z))))))

/-- The array of a message that holds a list of waypoints, zeros behind them. -/
def routeArray (waypoints : List Waypoint) : WaypointArray :=
  Vector.ofFn fun index => waypoints.getD index Waypoint.zero

namespace RouteEdit

/-- The operation of an edit. -/
def op : RouteEdit → RouteOp
  | replace _ => .replace
  | add _ => .add
  | delete _ => .delete
  | modify _ _ => .modify

/-- The index of an edit, or the number of its waypoints. -/
def indexOrCount : RouteEdit → UInt8
  | replace waypoints | add waypoints => waypoints.length.toUInt8
  | delete index | modify index _ => index

/-- The waypoints that an edit carries. -/
def waypoints : RouteEdit → List Waypoint
  | replace waypoints | add waypoints => waypoints
  | delete _ => []
  | modify _ waypoint => [waypoint]

/-- An edit that names a place of the mission list, or fills it at most, with waypoints that
may be flown. -/
structure Valid (edit : RouteEdit) : Prop where
  /-- An index is one of the list. -/
  index : edit.op = .delete ∨ edit.op = .modify → edit.indexOrCount < 37
  /-- A list of waypoints is not empty, and fits. -/
  count : edit.op = .replace ∨ edit.op = .add →
    1 ≤ edit.waypoints.length ∧ edit.waypoints.length ≤ 37
  /-- Every waypoint may be flown. -/
  flyable : ∀ waypoint ∈ edit.waypoints, Flyable waypoint

/-- The wire form of an edit, with the reserved byte of its header. -/
def encode (edit : RouteEdit) (reserved : UInt8) : List UInt8 :=
  edit.op.code :: routeVersion :: edit.indexOrCount :: reserved ::
    edit.waypoints.flatMap waypointBytes

/-- The parsed form of an edit. -/
def payload (edit : RouteEdit) (reserved : UInt8) : RouteUpdatePayload where
  routeType := edit.op.code
  routeVersion := routeVersion
  waypointCount := edit.indexOrCount
  reserved := reserved
  waypoints := routeArray edit.waypoints

end RouteEdit

/-- The payload bytes of a command that its length declares. -/
def declared (cmd : ProcessUplinkCmd) : List UInt8 :=
  cmd.payload.toList.take cmd.payloadLength.toNat

/-- Consecutive payload bytes of a command. -/
def slice (cmd : ProcessUplinkCmd) (offset count : Nat) : List UInt8 :=
  (List.range count).map fun index => cmd.byte (offset + index)

/-- Consecutive bytes come one slice after another. -/
theorem slice_append (offset first second : Nat) :
    slice cmd offset (first + second) =
      slice cmd offset first ++ slice cmd (offset + first) second := by
  simp only [slice, List.range_add, List.map_append, List.map_map]
  congr 1
  apply List.map_congr_left
  intro index _
  simp [Nat.add_assoc]

/-- The declared bytes are the first ones, as long as the array holds them. -/
theorem declared_eq_slice (fits : cmd.payloadLength ≤ 196) :
    declared cmd = slice cmd 0 cmd.payloadLength.toNat := by
  have bound : cmd.payloadLength.toNat ≤ 196 := UInt8.le_iff_toNat_le.mp fits
  apply List.ext_getElem?
  intro index
  by_cases inside : index < cmd.payloadLength.toNat
  · have available : index < maxPayloadLength := by
      unfold maxPayloadLength
      omega
    simp [declared, slice, inside, ProcessUplinkCmd.byte, available]
  · simp [declared, slice, inside]

/-- The bytes of a waypoint are those it was parsed from. -/
theorem waypointBytes_parse (cmd : ProcessUplinkCmd) (offset : Nat) :
    waypointBytes (parseWaypointWire cmd offset) = slice cmd offset 29 := by
  simp only [waypointBytes, parseWaypointWire, tokenAt, UInt32.toUInt32_toInt32, bytes32_word32]
  rfl

/-- A waypoint has 29 bytes. -/
theorem length_waypointBytes (waypoint : Waypoint) : (waypointBytes waypoint).length = 29 := by
  simp [waypointBytes, bytes32]

/-- Waypoints with the same bytes are the same. -/
theorem waypointBytes_injective : Function.Injective waypointBytes := by
  intro first second same
  have ⟨cmdType, tail⟩ := List.cons.inj same
  have ⟨param1, tail⟩ := List.append_inj tail rfl
  have ⟨param2, tail⟩ := List.append_inj tail rfl
  have ⟨param3, tail⟩ := List.append_inj tail rfl
  have ⟨param4, tail⟩ := List.append_inj tail rfl
  have ⟨latE7, tail⟩ := List.append_inj tail rfl
  have ⟨lonE7, z⟩ := List.append_inj tail rfl
  have coordinate (one other : Int32) (equal : bytes32 one.toUInt32 = bytes32 other.toUInt32) :
      one = other := congrArg Int32.ofUInt32 (bytes32_injective equal)
  cases first
  cases second
  simp only [Waypoint.mk.injEq]
  exact ⟨cmdType, bytes32_injective param1, bytes32_injective param2, bytes32_injective param3,
    bytes32_injective param4, coordinate _ _ latE7, coordinate _ _ lonE7, bytes32_injective z⟩

/-- Lists of waypoints with the same bytes are the same. -/
theorem flatMap_waypointBytes_injective :
    Function.Injective (List.flatMap waypointBytes) := by
  intro first second same
  induction first generalizing second with
  | nil => cases second with
    | nil => rfl
    | cons waypoint rest => cases same
  | cons waypoint rest previous => cases second with
    | nil => cases same
    | cons other others =>
      simp only [List.flatMap_cons] at same
      have ⟨head, tail⟩ := List.append_inj same rfl
      rw [waypointBytes_injective head, previous tail]

/-- The waypoint of a payload at a place of the list. -/
def waypointAt (cmd : ProcessUplinkCmd) (index : Nat) : Waypoint :=
  parseWaypointWire cmd (4 + index * routeWaypointWireSize)

/-- The checks of the loop are those of a waypoint that may be flown. -/
theorem checks_iff_flyable (waypoint : Waypoint) :
    isWaypointFinite waypoint = true ∧ isWaypointAltitudeValid waypoint = true ↔
      Flyable waypoint := by
  simp only [isWaypointFinite, isWaypointAltitudeValid, Bool.and_eq_true, decide_eq_true_eq]
  constructor
  · rintro ⟨⟨⟨⟨⟨one, two⟩, three⟩, four⟩, z⟩, altitude⟩
    exact ⟨⟨one, two, three, four, z⟩, altitude⟩
  · rintro ⟨⟨one, two, three, four, z⟩, altitude⟩
    exact ⟨⟨⟨⟨⟨one, two⟩, three⟩, four⟩, z⟩, altitude⟩

/-- The loop fills the array with the waypoints, when all of them may be flown. -/
theorem parseWaypoints_eq_some (remaining index : Nat) (slots filled : WaypointArray) :
    parseWaypoints cmd remaining index slots = some filled ↔
      (∀ place, index ≤ place → place < index + remaining → Flyable (waypointAt cmd place)) ∧
        filled = fill (waypointAt cmd) index remaining slots := by
  induction remaining generalizing index slots with
  | zero =>
    simp only [parseWaypoints, fill, Option.some.injEq]
    constructor
    · intro same
      exact ⟨fun place low high => by omega, same.symm⟩
    · rintro ⟨-, same⟩
      exact same.symm
  | succ remaining previous =>
    unfold parseWaypoints
    have here : parseWaypointWire cmd (4 + index * routeWaypointWireSize) =
        waypointAt cmd index := rfl
    simp only [here]
    by_cases flyable : Flyable (waypointAt cmd index)
    · obtain ⟨finite, altitude⟩ := (checks_iff_flyable _).mpr flyable
      simp only [finite, altitude, Bool.not_true, Bool.false_eq_true, if_false]
      rw [previous, fill_setIfInBounds]
      constructor
      · rintro ⟨later, same⟩
        refine ⟨fun place low high => ?_, same⟩
        rcases Nat.eq_or_lt_of_le low with rfl | above
        · exact flyable
        · exact later place above (by omega)
      · rintro ⟨all, same⟩
        exact ⟨fun place low high => all place (by omega) (by omega), same⟩
    · have refused : (!isWaypointFinite (waypointAt cmd index)) = true ∨
          (!isWaypointAltitudeValid (waypointAt cmd index)) = true := by
        rw [← checks_iff_flyable] at flyable
        simp only [Bool.not_eq_true']
        by_contra both
        simp only [not_or, Bool.not_eq_false] at both
        exact flyable both
      constructor
      · intro parsed
        rcases refused with infinite | outside
        · simp [infinite] at parsed
        · rw [if_pos outside] at parsed
          split at parsed <;> cases parsed
      · rintro ⟨all, -⟩
        exact absurd (all index (by omega) (by omega)) flyable

/-! ## The parser -/

/-- An operation with its index or count takes a number of waypoints. -/
inductive Takes (operation indexOrCount : UInt8) : Nat → Prop
  | list (known : operation = RouteOp.replace.code ∨ operation = RouteOp.add.code)
      (some : 1 ≤ indexOrCount.toNat) (fits : indexOrCount.toNat ≤ 37) :
      Takes operation indexOrCount indexOrCount.toNat
  | delete (known : operation = RouteOp.delete.code) (inside : indexOrCount < 37) :
      Takes operation indexOrCount 0
  | modify (known : operation = RouteOp.modify.code) (inside : indexOrCount < 37) :
      Takes operation indexOrCount 1

/-- How many waypoints an operation takes. -/
theorem takes_iff {operation indexOrCount : UInt8} {count : Nat} :
    Takes operation indexOrCount count ↔
      (operation = RouteOp.delete.code ∧ indexOrCount < 37 ∧ count = 0) ∨
      (operation = RouteOp.modify.code ∧ indexOrCount < 37 ∧ count = 1) ∨
      ((operation = RouteOp.replace.code ∨ operation = RouteOp.add.code) ∧
        count = indexOrCount.toNat ∧ 1 ≤ count ∧ count ≤ 37) := by
  constructor
  · rintro (⟨known, some, fits⟩ | ⟨known, inside⟩ | ⟨known, inside⟩)
    · exact .inr (.inr ⟨known, rfl, some, fits⟩)
    · exact .inl ⟨known, inside, rfl⟩
    · exact .inr (.inl ⟨known, inside, rfl⟩)
  · rintro (⟨known, inside, rfl⟩ | ⟨known, inside, rfl⟩ | ⟨known, rfl, some, fits⟩)
    · exact .delete known inside
    · exact .modify known inside
    · exact .list known some fits

/-- The parser takes a header, and behind it the waypoints that its operation takes. -/
theorem parseRouteUpdatePayload_eq_some {payload : RouteUpdatePayload} :
    parseRouteUpdatePayload cmd = some payload ↔
      cmd.byte 1 = routeVersion ∧ ∃ count, Takes (cmd.byte 0) (cmd.byte 2) count ∧
        cmd.payloadLength.toNat = 4 + count * routeWaypointWireSize ∧
        ∃ filled, parseWaypoints cmd count 0 WaypointArray.zero = some filled ∧
          payload = ⟨cmd.byte 0, cmd.byte 1, cmd.byte 2, cmd.byte 3, filled⟩ := by
  have short : cmd.payloadLength < 4 ↔ cmd.payloadLength.toNat < 4 := UInt8.lt_iff_toNat_lt
  have four : cmd.payloadLength = 4 ↔ cmd.payloadLength.toNat = 4 := by
    rw [← UInt8.toNat_inj]; rfl
  have nothing : cmd.byte 2 = 0 ↔ (cmd.byte 2).toNat = 0 := by rw [← UInt8.toNat_inj]; rfl
  have most : cmd.byte 2 > 37 ↔ 37 < (cmd.byte 2).toNat := UInt8.lt_iff_toNat_lt
  have inside : cmd.byte 2 ≥ 37 ↔ ¬ cmd.byte 2 < 37 := by rw [UInt8.not_lt]
  simp only [parseRouteUpdatePayload, short, nothing, most, inside, ne_eq, four, takes_iff]
  generalize cmd.byte 0 = operation
  generalize cmd.byte 2 = indexOrCount
  by_cases tooShort : cmd.payloadLength.toNat < 4
  · have never (count : Nat) : cmd.payloadLength.toNat ≠ 4 + count * routeWaypointWireSize := by
      omega
    simp [tooShort, never]
  by_cases version : cmd.byte 1 = routeVersion
  · simp only [tooShort, version, not_true_eq_false, if_false, true_and]
    by_cases delete : operation = RouteOp.delete.code
    · subst delete
      have codes : RouteOp.delete.code ≠ RouteOp.modify.code ∧
          RouteOp.delete.code ≠ RouteOp.replace.code ∧ RouteOp.delete.code ≠ RouteOp.add.code := by
        decide
      by_cases bound : indexOrCount < 37
      · by_cases alone : cmd.payloadLength.toNat = 4
        · have empty : parseWaypoints cmd 0 0 WaypointArray.zero = some WaypointArray.zero := rfl
          simp [codes, bound, alone, empty, @eq_comm _ payload]
        · simp [codes, bound, alone]
      · simp [codes, bound]
    by_cases modify : operation = RouteOp.modify.code
    · subst modify
      have codes : RouteOp.modify.code ≠ RouteOp.delete.code ∧
          RouteOp.modify.code ≠ RouteOp.replace.code ∧ RouteOp.modify.code ≠ RouteOp.add.code := by
        decide
      by_cases bound : indexOrCount < 37
      · by_cases whole : cmd.payloadLength.toNat = 4 + routeWaypointWireSize
        · simp [codes, bound, whole, @eq_comm _ payload]
        · simp [codes, bound, whole]
      · simp [codes, bound]
    by_cases list : operation = RouteOp.replace.code ∨ operation = RouteOp.add.code
    · have known : ¬ (¬ operation = RouteOp.replace.code ∧ ¬ operation = RouteOp.add.code ∧
          ¬ operation = RouteOp.delete.code ∧ ¬ operation = RouteOp.modify.code) := by tauto
      rw [if_neg known]
      simp only [delete, modify, list, if_false, false_and, false_or, true_and]
      by_cases range : indexOrCount.toNat = 0 ∨ 37 < indexOrCount.toNat
      · have outside (count : Nat) : ¬ (count = indexOrCount.toNat ∧ 1 ≤ count ∧ count ≤ 37) := by
          omega
        simp only [range, if_true, outside, false_and, exists_false, reduceCtorEq]
      · have within : 1 ≤ indexOrCount.toNat ∧ indexOrCount.toNat ≤ 37 := by omega
        by_cases whole : cmd.payloadLength.toNat =
            4 + indexOrCount.toNat * routeWaypointWireSize
        · simp only [range, whole, not_true_eq_false, if_false, and_assoc, exists_eq_left,
            within, true_and, Option.map_eq_some_iff, @eq_comm _ payload]
        · simp only [range, whole, not_false_eq_true, if_true, if_false, and_assoc,
            exists_eq_left, false_and, and_false, reduceCtorEq]
    · have unknown : ¬ operation = RouteOp.replace.code ∧ ¬ operation = RouteOp.add.code ∧
          ¬ operation = RouteOp.delete.code ∧ ¬ operation = RouteOp.modify.code := by tauto
      simp [unknown]
  · simp [tooShort, version]

/-! ## Parsing and encoding -/

/-- The waypoints of a payload, as many as there are to be. -/
def wireWaypoints (cmd : ProcessUplinkCmd) (count : Nat) : List Waypoint :=
  (List.range count).map (waypointAt cmd)

/-- The bytes of the waypoints of a payload are those behind its header. -/
theorem flatMap_wireWaypoints (cmd : ProcessUplinkCmd) (count : Nat) :
    (wireWaypoints cmd count).flatMap waypointBytes =
      slice cmd 4 (count * routeWaypointWireSize) := by
  induction count with
  | zero => rfl
  | succ count previous =>
    have last : (wireWaypoints cmd (count + 1)) =
        wireWaypoints cmd count ++ [waypointAt cmd count] := by
      simp [wireWaypoints, List.range_succ]
    rw [last, List.flatMap_append, previous, Nat.succ_mul, slice_append, List.flatMap_singleton,
      waypointAt, waypointBytes_parse]
    rfl

/-- Filling an array with the waypoints of a payload makes the array of their list. -/
theorem fill_waypointAt (cmd : ProcessUplinkCmd) {count : Nat} (fits : count ≤ 37) :
    fill (waypointAt cmd) 0 count WaypointArray.zero = routeArray (wireWaypoints cmd count) := by
  apply ext_getElem?
  intro index
  rw [getElem?_fill]
  by_cases inside : index < count
  · have available : index < routeMaxWaypoints := by
      unfold routeMaxWaypoints
      omega
    simp [inside, available, routeArray, wireWaypoints]
  · by_cases available : index < routeMaxWaypoints
    · simp [inside, available, routeArray, wireWaypoints, WaypointArray.zero]
    · simp [inside, available]

/-- The declared bytes of a payload that holds a header and waypoints. -/
theorem declared_eq {count : Nat} (fits : cmd.payloadLength ≤ 196)
    (length : cmd.payloadLength.toNat = 4 + count * routeWaypointWireSize) :
    declared cmd = cmd.byte 0 :: cmd.byte 1 :: cmd.byte 2 :: cmd.byte 3 ::
      (wireWaypoints cmd count).flatMap waypointBytes := by
  rw [declared_eq_slice fits, length, slice_append, flatMap_wireWaypoints]
  rfl

/-- An operation with waypoints that may be flown, as many as it takes, is a valid edit. -/
theorem exists_edit {operation indexOrCount : UInt8} {waypoints : List Waypoint}
    (takes : Takes operation indexOrCount waypoints.length)
    (flyable : ∀ waypoint ∈ waypoints, Flyable waypoint) :
    ∃ edit, RouteEdit.Valid edit ∧ edit.op.code = operation ∧
      edit.indexOrCount = indexOrCount ∧ edit.waypoints = waypoints := by
  rcases takes_iff.mp takes with ⟨rfl, inside, empty⟩ | ⟨rfl, inside, single⟩ | ⟨known, same, range⟩
  · have none := List.length_eq_zero_iff.mp empty
    refine ⟨.delete indexOrCount, ⟨fun _ => inside, ?_, ?_⟩, rfl, rfl, none.symm⟩
    · rintro (impossible | impossible) <;> cases impossible
    · exact fun waypoint mem => by cases mem
  · have ⟨waypoint, only⟩ := List.length_eq_one_iff.mp single
    subst only
    refine ⟨.modify indexOrCount waypoint, ⟨fun _ => inside, ?_, flyable⟩, rfl, rfl, rfl⟩
    rintro (impossible | impossible) <;> cases impossible
  · have code : waypoints.length.toUInt8 = indexOrCount := by
      rw [same]
      simp
    rcases known with rfl | rfl
    · refine ⟨.replace waypoints, ⟨?_, fun _ => range, flyable⟩, rfl, code, rfl⟩
      rintro (impossible | impossible) <;> cases impossible
    · refine ⟨.add waypoints, ⟨?_, fun _ => range, flyable⟩, rfl, code, rfl⟩
      rintro (impossible | impossible) <;> cases impossible

/-- A valid edit carries as many waypoints as its operation takes. -/
theorem takes_edit {edit : RouteEdit} (valid : edit.Valid) :
    Takes edit.op.code edit.indexOrCount edit.waypoints.length := by
  have list (waypoints : List Waypoint) (fits : waypoints.length ≤ 37) :
      waypoints.length.toUInt8.toNat = waypoints.length := by
    have size : UInt8.size = 256 := rfl
    exact UInt8.toNat_ofNat_of_lt' (by omega)
  rw [takes_iff]
  cases edit with
  | replace waypoints =>
    have range := valid.count (.inl rfl)
    exact .inr (.inr ⟨.inl rfl, (list waypoints range.2).symm, range⟩)
  | add waypoints =>
    have range := valid.count (.inr rfl)
    exact .inr (.inr ⟨.inr rfl, (list waypoints range.2).symm, range⟩)
  | delete index => exact .inl ⟨rfl, valid.index (.inl rfl), rfl⟩
  | modify index waypoint => exact .inr (.inl ⟨rfl, valid.index (.inr rfl), rfl⟩)

/-- An operation takes no more waypoints than the array holds. -/
theorem takes_le {operation indexOrCount : UInt8} {count : Nat}
    (takes : Takes operation indexOrCount count) : count ≤ 37 := by
  rcases takes_iff.mp takes with ⟨-, -, rfl⟩ | ⟨-, -, rfl⟩ | ⟨-, -, -, most⟩ <;> omega

/-- What the parser takes is the wire form of a valid edit, and what it returns is that edit. -/
theorem parseRouteUpdatePayload_sound {payload : RouteUpdatePayload}
    (fits : cmd.payloadLength ≤ 196) (parsed : parseRouteUpdatePayload cmd = some payload) :
    ∃ edit reserved, RouteEdit.Valid edit ∧ declared cmd = edit.encode reserved ∧
      payload = edit.payload reserved := by
  have ⟨version, count, takes, length, filled, loop, same⟩ :=
    parseRouteUpdatePayload_eq_some.mp parsed
  have ⟨flyable, array⟩ := (parseWaypoints_eq_some ..).mp loop
  have bytes := declared_eq fits length
  have all : ∀ waypoint ∈ wireWaypoints cmd count, Flyable waypoint := by
    intro waypoint mem
    have ⟨index, inside, equal⟩ := List.mem_map.mp mem
    rw [← equal]
    exact flyable index (Nat.zero_le _) (by simpa using inside)
  have counted : (wireWaypoints cmd count).length = count := by simp [wireWaypoints]
  have ⟨edit, valid, op, indexOrCount, waypoints⟩ := exists_edit (counted.symm ▸ takes) all
  refine ⟨edit, cmd.byte 3, valid, ?_, ?_⟩
  · rw [bytes, version, RouteEdit.encode, op, indexOrCount, waypoints]
  · rw [same, version, array, fill_waypointAt cmd (takes_le takes), RouteEdit.payload, op,
      indexOrCount, waypoints]

/-- The wire form of a valid edit is parsed as that edit. -/
theorem parseRouteUpdatePayload_complete {edit : RouteEdit} {reserved : UInt8}
    (fits : cmd.payloadLength ≤ 196) (valid : edit.Valid)
    (encoded : declared cmd = edit.encode reserved) :
    parseRouteUpdatePayload cmd = some (edit.payload reserved) := by
  have width : (edit.waypoints.flatMap waypointBytes).length =
      edit.waypoints.length * routeWaypointWireSize := by
    induction edit.waypoints with
    | nil => rfl
    | cons waypoint rest previous =>
      simp only [List.flatMap_cons, List.length_append, previous, length_waypointBytes,
        List.length_cons, routeWaypointWireSize]
      omega
  have length : cmd.payloadLength.toNat = 4 + edit.waypoints.length * routeWaypointWireSize := by
    have bound : cmd.payloadLength.toNat ≤ 196 := UInt8.le_iff_toNat_le.mp fits
    have whole : cmd.payload.toList.length = 196 := cmd.payload.length_toList
    have sizes := congrArg List.length encoded
    simp only [RouteEdit.encode, List.length_cons, width, declared, List.length_take, whole]
      at sizes
    omega
  have bytes := (declared_eq fits length).symm.trans encoded
  simp only [RouteEdit.encode, List.cons.injEq] at bytes
  have ⟨operation, version, indexOrCount, reservedByte, wire⟩ := bytes
  have waypoints := flatMap_waypointBytes_injective wire
  have takes := takes_edit valid
  rw [parseRouteUpdatePayload_eq_some, version, operation, indexOrCount, reservedByte]
  refine ⟨rfl, edit.waypoints.length, takes, length, _, (parseWaypoints_eq_some ..).mpr ⟨?_, rfl⟩,
    ?_⟩
  · intro place _ inside
    have inside : place < edit.waypoints.length := by omega
    have here : waypointAt cmd place ∈ wireWaypoints cmd edit.waypoints.length :=
      List.mem_map_of_mem (List.mem_range.mpr inside)
    rw [waypoints] at here
    exact valid.flyable _ here
  · rw [fill_waypointAt cmd (takes_le takes), waypoints]
    rfl

/-! ## The reads of the parser

The parser once more, reading the payload through a function that may refuse a byte; `none` is
a read that was refused.
-/

/-- Read a word, byte by byte. -/
def readU32LE (read : Nat → Option UInt8) (offset : Nat) : Option UInt32 := do
  some (word32 (← read offset) (← read (offset + 1)) (← read (offset + 2)) (← read (offset + 3)))

/-- Read the waypoint whose wire form starts at an offset. -/
def readWaypointWire (read : Nat → Option UInt8) (offset : Nat) : Option Waypoint := do
  let cmdType ← read offset
  let param1 ← readU32LE read (offset + 1)
  let param2 ← readU32LE read (offset + 5)
  let param3 ← readU32LE read (offset + 9)
  let param4 ← readU32LE read (offset + 13)
  let latE7 ← readU32LE read (offset + 17)
  let lonE7 ← readU32LE read (offset + 21)
  let z ← readU32LE read (offset + 25)
  some ⟨cmdType, param1, param2, param3, param4, latE7.toInt32, lonE7.toInt32, z⟩

/-- Read waypoints into an array, stopping at the first that is not valid. -/
def readWaypoints (read : Nat → Option UInt8) :
    Nat → Nat → WaypointArray → Option (Option WaypointArray)
  | 0, _, waypoints => some (some waypoints)
  | remaining + 1, index, waypoints => do
    let waypoint ← readWaypointWire read (4 + index * routeWaypointWireSize)
    if !isWaypointFinite waypoint then some none
    else if !isWaypointAltitudeValid waypoint then some none
    else readWaypoints read remaining (index + 1) (waypoints.setIfInBounds index waypoint)

/-- Read the payload of a route update of a declared length. -/
def readRouteUpdatePayload (payloadLength : UInt8) (read : Nat → Option UInt8) :
    Option (Option RouteUpdatePayload) :=
  if payloadLength < 4 then some none
  else do
    let payload : RouteUpdatePayload :=
      ⟨← read 0, ← read 1, ← read 2, ← read 3, WaypointArray.zero⟩
    if payload.routeVersion ≠ routeVersion then some none
    else if payload.routeType ≠ RouteOp.replace.code ∧ payload.routeType ≠ RouteOp.add.code ∧
        payload.routeType ≠ RouteOp.delete.code ∧ payload.routeType ≠ RouteOp.modify.code then
      some none
    else if payload.routeType = RouteOp.delete.code then
      if payload.waypointCount ≥ 37 then some none
      else if payloadLength ≠ 4 then some none
      else some (some payload)
    else if payload.routeType = RouteOp.modify.code then
      if payload.waypointCount ≥ 37 then some none
      else if payloadLength.toNat ≠ 4 + routeWaypointWireSize then some none
      else do
        let parsed ← readWaypoints read 1 0 payload.waypoints
        some (parsed.map ({ payload with waypoints := · }))
    else if payload.waypointCount = 0 ∨ payload.waypointCount > 37 then some none
    else if payloadLength.toNat ≠ 4 + payload.waypointCount.toNat * routeWaypointWireSize then
      some none
    else do
      let parsed ← readWaypoints read payload.waypointCount.toNat 0 payload.waypoints
      some (parsed.map ({ payload with waypoints := · }))

/-- The payload bytes of a command, refused behind the declared length. -/
def withinLength (cmd : ProcessUplinkCmd) (index : Nat) : Option UInt8 :=
  if index < cmd.payloadLength.toNat then some (cmd.byte index) else none

/-- A word inside the declared length is read. -/
theorem readU32LE_withinLength {offset : Nat} (inside : offset + 4 ≤ cmd.payloadLength.toNat) :
    readU32LE (withinLength cmd) offset = some (tokenAt cmd offset) := by
  have byte (index : Nat) (before : index < offset + 4) :
      withinLength cmd index = some (cmd.byte index) := if_pos (by omega)
  simp only [readU32LE, byte offset (by omega), byte (offset + 1) (by omega),
    byte (offset + 2) (by omega), byte (offset + 3) (by omega)]
  rfl

/-- A waypoint inside the declared length is read. -/
theorem readWaypointWire_withinLength {offset : Nat}
    (inside : offset + 29 ≤ cmd.payloadLength.toNat) :
    readWaypointWire (withinLength cmd) offset = some (parseWaypointWire cmd offset) := by
  have byte : withinLength cmd offset = some (cmd.byte offset) := if_pos (by omega)
  have word (place : Nat) (before : place + 4 ≤ offset + 29) :
      readU32LE (withinLength cmd) place = some (tokenAt cmd place) :=
    readU32LE_withinLength (by omega)
  simp only [readWaypointWire, byte, word (offset + 1) (by omega), word (offset + 5) (by omega),
    word (offset + 9) (by omega), word (offset + 13) (by omega), word (offset + 17) (by omega),
    word (offset + 21) (by omega), word (offset + 25) (by omega)]
  rfl

/-- The loop reads inside a declared length that holds its waypoints. -/
theorem readWaypoints_withinLength (remaining index : Nat) (slots : WaypointArray)
    (inside : 4 + (index + remaining) * routeWaypointWireSize ≤ cmd.payloadLength.toNat) :
    readWaypoints (withinLength cmd) remaining index slots =
      some (parseWaypoints cmd remaining index slots) := by
  unfold routeWaypointWireSize at inside
  induction remaining generalizing index slots with
  | zero => rfl
  | succ remaining previous =>
    have here : readWaypointWire (withinLength cmd) (4 + index * routeWaypointWireSize) =
        some (parseWaypointWire cmd (4 + index * routeWaypointWireSize)) := by
      apply readWaypointWire_withinLength
      unfold routeWaypointWireSize
      omega
    unfold readWaypoints parseWaypoints
    rw [here]
    simp only [Option.bind_eq_bind, Option.bind_some]
    split_ifs
    · rfl
    · rfl
    · exact previous _ _ (by omega)

/-- The parser reads nothing behind the declared length. -/
theorem readRouteUpdatePayload_withinLength (cmd : ProcessUplinkCmd) :
    readRouteUpdatePayload cmd.payloadLength (withinLength cmd) =
      some (parseRouteUpdatePayload cmd) := by
  unfold readRouteUpdatePayload parseRouteUpdatePayload
  by_cases short : cmd.payloadLength < 4
  · rw [if_pos short, if_pos short]
  have header : 4 ≤ cmd.payloadLength.toNat := UInt8.le_iff_toNat_le.mp (UInt8.not_lt.mp short)
  have byte (index : Nat) (before : index < 4) :
      withinLength cmd index = some (cmd.byte index) := if_pos (by omega)
  rw [if_neg short, if_neg short, byte 0 (by omega), byte 1 (by omega), byte 2 (by omega),
    byte 3 (by omega)]
  simp only [Option.bind_eq_bind, Option.bind_some]
  split_ifs
  all_goals first
    | rfl
    | rw [readWaypoints_withinLength _ _ _ (by simp_all)]
      rfl

/-- What is left of a command that is not carried out: no route is published, and the history
of accepted commands stays. -/
structure PublishesNoRoute (s after : State) : Prop where
  /-- No route is put out. -/
  noRoute : ∀ tlm taken, Output.transmit (.routeUpdate tlm) taken ∉ newOutputs s after
  /-- The accepted count stays. -/
  acceptedCount : after.acceptedCount = s.acceptedCount
  /-- The last accepted sequence stays. -/
  lastAcceptedSequence : after.lastAcceptedSequence = s.lastAcceptedSequence
  /-- The state file stays. -/
  stateFile : after.stateFile = s.stateFile

/-- A route update that is not parsed ends as a duplicate or refused. -/
theorem ending_unparsed (named : CommandClass.ofByte cmd.commandClass = some .routeUpdate)
    (unparsed : parseRouteUpdatePayload cmd = none) :
    ending env cmd s = .duplicate ∨ ending env cmd s = .refused := by
  by_cases admits : Admits s cmd
  · have asked : request env cmd (receive env cmd s) = .nothing := by
      simp only [request, named, unparsed]
    rw [ending_admitted admits, asked]
    exact .inr rfl
  · have barred := ending_barred env admits
    tauto

/-- A route update that is not parsed publishes no route and is not accepted. -/
theorem processUplink_unparsed (env : Env) (s : State)
    (named : CommandClass.ofByte cmd.commandClass = some .routeUpdate)
    (unparsed : parseRouteUpdatePayload cmd = none) :
    PublishesNoRoute s (processUplink env cmd s) := by
  have ends := processUplink_endsAs env cmd s
  have way := @ending_unparsed env cmd s named unparsed
  have quiet : (ending env cmd s).commits = false ∧ (ending env cmd s).effects = [] := by
    rcases way with way | way <;> rw [way] <;> exact ⟨rfl, rfl⟩
  have ⟨tlm, published, _, _⟩ := ends.published.status
  rw [quiet.2] at published
  constructor
  · have outputs : newOutputs s (processUplink env cmd s) =
        [.transmit (.status tlm) env.reportTransmit] := newOutputs_eq published
    intro route taken
    rw [outputs]
    simp
  · simpa [quiet.1] using ends.acceptedCount
  · simpa [quiet.1] using ends.lastAcceptedSequence
  · exact ends.stateFile (by simp [quiet.1])

end CfsTelemetry.Uplink
