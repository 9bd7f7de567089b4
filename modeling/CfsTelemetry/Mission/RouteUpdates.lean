import CfsTelemetry.Ground.RouteSender
import CfsTelemetry.Uplink.RoutePayload

/-!
# Route updates from the ground to the uplink application

The route payload is written by the sender of the ground station and read by the parser of the
uplink application. The two share one grammar: what the sender packs is the wire form of the
edit it was given, and the parser takes the wire forms of the valid edits and no others.
-/
namespace CfsTelemetry.Mission

open Words Ground Uplink

/-- A waypoint with the values of one to be sent, its numbers in single precision. -/
structure Carries (sent : SenderWaypoint) (waypoint : Waypoint) : Prop where
  cmdType : (waypoint.cmdType.toNat : Int) = sent.cmdType
  param1 : waypoint.param1 = sent.param1.toFloat32.toBits
  param2 : waypoint.param2 = sent.param2.toFloat32.toBits
  param3 : waypoint.param3 = sent.param3.toFloat32.toBits
  param4 : waypoint.param4 = sent.param4.toFloat32.toBits
  latE7 : waypoint.latE7.toInt = sent.latE7
  lonE7 : waypoint.lonE7.toInt = sent.lonE7
  z : waypoint.z = sent.zM.toFloat32.toBits

/-- An edit with the arguments that the sender was given. -/
structure Describes (routeOp indexOrCount : Int) (sent : List SenderWaypoint) (edit : RouteEdit) :
    Prop where
  routeOp : (edit.op.code.toNat : Int) = routeOp
  indexOrCount : (edit.indexOrCount.toNat : Int) = indexOrCount
  waypoints : List.Forall₂ Carries sent edit.waypoints

/-- A packed byte has its value. -/
theorem packByte_eq {value : Int} {byte packed : UInt8} (same : (byte.toNat : Int) = value)
    (done : packByte value = some packed) : packed = byte := by
  subst same
  unfold packByte at done
  split at done
  · have result := Option.some.inj done
    rw [← result]
    simp
  · cases done

/-- A packed word has its value. -/
theorem packInt_eq {value : Int} {word packed : Int32} (same : word.toInt = value)
    (done : packInt value = some packed) : packed = word := by
  subst same
  unfold packInt at done
  split at done
  · have result := Option.some.inj done
    rw [← result]
    simp
  · cases done

/-- A packed number has its bits. -/
theorem packFloat_eq {value : Float} {packed : UInt32} (done : packFloat value = some packed) :
    packed = value.toFloat32.toBits := by
  unfold packFloat at done
  dsimp only at done
  split at done
  · cases done
  · exact (Option.some.inj done).symm

/-- A packed waypoint is the wire form of the waypoint with its values. -/
theorem pack_eq {sent : SenderWaypoint} {waypoint : Waypoint} {packed : List UInt8}
    (carries : Carries sent waypoint) (done : sent.pack = some packed) :
    packed = waypointBytes waypoint := by
  simp only [SenderWaypoint.pack, Option.bind_eq_bind, Option.bind_eq_some_iff] at done
  have ⟨cmdType, packedCmd, param1, packed1, param2, packed2, param3, packed3, param4, packed4,
    latE7, packedLat, lonE7, packedLon, z, packedZ, result⟩ := done
  rw [← Option.some.inj result, packByte_eq carries.cmdType packedCmd, packFloat_eq packed1,
    packFloat_eq packed2, packFloat_eq packed3, packFloat_eq packed4,
    packInt_eq carries.latE7 packedLat, packInt_eq carries.lonE7 packedLon, packFloat_eq packedZ,
    ← carries.param1, ← carries.param2, ← carries.param3, ← carries.param4, ← carries.z]
  rfl

/-- The sender's loop puts the wire forms of the waypoints behind what it starts with. -/
theorem foldlM_pack_eq {sent : List SenderWaypoint} {waypoints : List Waypoint}
    (carry : List.Forall₂ Carries sent waypoints) {start bytes : List UInt8}
    (built : sent.foldlM (fun payload waypoint => do some (payload ++ (← waypoint.pack))) start =
      some bytes) : bytes = start ++ waypoints.flatMap waypointBytes := by
  induction carry generalizing start with
  | nil =>
    have same := Option.some.inj built
    simp [same]
  | cons head tail previous =>
    simp only [List.foldlM_cons, Option.bind_eq_bind, Option.bind_eq_some_iff] at built
    have ⟨middle, ⟨packed, done, joined⟩, rest⟩ := built
    have joined := Option.some.inj joined
    rw [previous rest, ← joined, pack_eq head done, List.flatMap_cons, List.append_assoc]

/-- A payload that the sender builds is the wire form of the edit it was given. -/
theorem buildRoutePayload_eq {routeOp indexOrCount : Int} {sent : List SenderWaypoint}
    {edit : RouteEdit} {bytes : List UInt8} (describes : Describes routeOp indexOrCount sent edit)
    (built : buildRoutePayload routeOp indexOrCount sent = some bytes) :
    bytes = edit.encode 0 := by
  simp only [buildRoutePayload, Option.bind_eq_bind, Option.bind_eq_some_iff] at built
  have ⟨op, packedOp, version, packedVersion, place, packedPlace, reserved, packedReserved,
    rest⟩ := built
  rw [foldlM_pack_eq describes.waypoints rest, packByte_eq describes.routeOp packedOp,
    packByte_eq describes.indexOrCount packedPlace,
    @packByte_eq _ Uplink.routeVersion _ rfl packedVersion, @packByte_eq _ 0 _ rfl packedReserved]
  rfl

/-! ## The grammar -/

/-- The parser succeeds exactly on the wire forms of valid edits and returns the edit, also for
what the ground builds of it; it reads nothing behind the declared length, where the message may
hold anything, and a route update that it refuses is neither published nor accepted. -/
theorem route_updates_parsed (cmd : ProcessUplinkCmd) (fits : cmd.payloadLength ≤ 196) :
    ((parseRouteUpdatePayload cmd).isSome ↔
        ∃ edit reserved, RouteEdit.Valid edit ∧ declared cmd = edit.encode reserved) ∧
      (∀ edit reserved, RouteEdit.Valid edit → declared cmd = edit.encode reserved →
        parseRouteUpdatePayload cmd = some (edit.payload reserved)) ∧
      (∀ routeOp indexOrCount sent edit, Describes routeOp indexOrCount sent edit → edit.Valid →
        buildRoutePayload routeOp indexOrCount sent = some (declared cmd) →
        parseRouteUpdatePayload cmd = some (edit.payload 0)) ∧
      readRouteUpdatePayload cmd.payloadLength (withinLength cmd) =
        some (parseRouteUpdatePayload cmd) ∧
      (CommandClass.ofByte cmd.commandClass = some .routeUpdate →
        parseRouteUpdatePayload cmd = none →
        ∀ env s, PublishesNoRoute s (processUplink env cmd s)) := by
  refine ⟨⟨?_, ?_⟩, ?_, ?_, readRouteUpdatePayload_withinLength cmd, ?_⟩
  · intro parsed
    have ⟨payload, parsed⟩ := Option.isSome_iff_exists.mp parsed
    have ⟨edit, reserved, valid, encoded, _⟩ := parseRouteUpdatePayload_sound fits parsed
    exact ⟨edit, reserved, valid, encoded⟩
  · rintro ⟨edit, reserved, valid, encoded⟩
    rw [parseRouteUpdatePayload_complete fits valid encoded]
    rfl
  · intro edit reserved valid encoded
    exact parseRouteUpdatePayload_complete fits valid encoded
  · intro routeOp indexOrCount sent edit describes valid built
    exact parseRouteUpdatePayload_complete fits valid (buildRoutePayload_eq describes built)
  · intro named unparsed env s
    exact processUplink_unparsed env s named unparsed

/-- A mission of one waypoint, three metres high. -/
def oneWaypoint : RouteEdit := .replace [⟨16, 0, 0, 0, 0, 375665000, 1269780000, 0x40400000⟩]

/-- A route command with an edit. -/
def payloadCmd (edit : RouteEdit) (payloadLength : UInt8) : ProcessUplinkCmd where
  version := 1
  commandClass := 2
  payloadLength := payloadLength
  flags := 0x80
  sequence := 1
  checksum := 0
  payload := Vector.ofFn fun index => (edit.encode 0).getD index 0

/-- A waypoint with the single-precision number 3 for all its numbers. -/
def threes : Waypoint :=
  ⟨16, 0x40400000, 0x40400000, 0x40400000, 0x40400000, 375665000, 1269780000, 0x40400000⟩

/-- The waypoint as the sender is given it, of a number that is packed as 3. -/
def sentThrees (number : Float) : SenderWaypoint where
  latE7 := 375665000
  lonE7 := 1269780000
  zM := number
  cmdType := 16
  param1 := number
  param2 := number
  param3 := number
  param4 := number

/-- The sender builds the wire form of the mission of that waypoint. -/
theorem buildRoutePayload_threes {number : Float} (three : packFloat number = some 0x40400000) :
    buildRoutePayload 1 1 [sentThrees number] =
      some (declared (payloadCmd (.replace [threes]) 33)) := by
  have packed : (sentThrees number).pack = some (waypointBytes threes) := by
    unfold SenderWaypoint.pack sentThrees
    dsimp only
    rw [three]
    decide +kernel
  unfold buildRoutePayload
  simp only [List.foldlM_cons, List.foldlM_nil, packed]
  decide +kernel

/-- A mission of one waypoint is parsed as it was encoded, with no read behind its 33 bytes, and
a mission and a deletion as the ground builds them. What the numbers of the ground are in single
precision is not for a proof to evaluate, so that the mission has any number that is packed as
3. -/
theorem route_updates_parsed_oneWaypoint :
    parseRouteUpdatePayload (payloadCmd oneWaypoint 33) = some (oneWaypoint.payload 0) ∧
      readRouteUpdatePayload 33 (withinLength (payloadCmd oneWaypoint 33)) =
        some (parseRouteUpdatePayload (payloadCmd oneWaypoint 33)) ∧
      (∀ number, packFloat number = some 0x40400000 →
        buildRoutePayload 1 1 [sentThrees number] =
          some (declared (payloadCmd (.replace [threes]) 33)) ∧
        parseRouteUpdatePayload (payloadCmd (.replace [threes]) 33) =
          some ((RouteEdit.replace [threes]).payload 0)) ∧
      buildRoutePayload 3 1 [] = some (declared (payloadCmd (.delete 1) 4)) ∧
      parseRouteUpdatePayload (payloadCmd (.delete 1) 4) =
        some ((RouteEdit.delete 1).payload 0) := by
  have ⟨_, parses, _, reads, _⟩ := route_updates_parsed (payloadCmd oneWaypoint 33) (by decide)
  have ⟨_, _, ground, _⟩ := route_updates_parsed (payloadCmd (.delete 1) 4) (by decide)
  have ⟨_, _, mission, _⟩ := route_updates_parsed (payloadCmd (.replace [threes]) 33)
    (by decide)
  have valid : oneWaypoint.Valid := by
    constructor
    · rintro (impossible | impossible) <;> cases impossible
    · exact fun _ => by decide
    · intro waypoint mem
      rw [List.mem_singleton.mp mem]
      constructor
      · decide
      · decide +kernel
  have replaces : (RouteEdit.replace [threes]).Valid := by
    constructor
    · rintro (impossible | impossible) <;> cases impossible
    · exact fun _ => by decide
    · intro waypoint mem
      rw [List.mem_singleton.mp mem]
      constructor
      · decide
      · decide +kernel
  have deletes : (RouteEdit.delete 1).Valid := by
    constructor
    · exact fun _ => by decide
    · rintro (impossible | impossible) <;> cases impossible
    · exact fun waypoint mem => by cases mem
  have built : buildRoutePayload 3 1 [] = some (declared (payloadCmd (.delete 1) 4)) := by
    decide +kernel
  refine ⟨parses oneWaypoint 0 valid (by decide +kernel), reads, ?_, built,
    ground 3 1 [] (.delete 1) ⟨rfl, rfl, .nil⟩ deletes built⟩
  intro number three
  have sent := buildRoutePayload_threes three
  have same : number.toFloat32.toBits = 0x40400000 := (packFloat_eq three).symm
  have carries : Carries (sentThrees number) threes := by
    constructor
    · rfl
    · exact same.symm
    · exact same.symm
    · exact same.symm
    · exact same.symm
    · rfl
    · rfl
    · exact same.symm
  exact ⟨sent, mission 1 1 [sentThrees number] (.replace [threes])
    ⟨rfl, rfl, .cons carries .nil⟩ replaces sent⟩

end CfsTelemetry.Mission
