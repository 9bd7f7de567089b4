import CfsTelemetry.Ground.Decoder

/-!
# Reading a frame

What the LoRa application puts into a frame, and that the decoder of the ground reads it back
from left to right: the fields that every frame has, the block with the system time and the page
of waypoints if they were sent, and the tail between them.
-/
namespace CfsTelemetry.Ground

open Words Lora

/-- What a frame has from an offset on. -/
def Follows (frame : List UInt8) (offset : Nat) (bytes : List UInt8) : Prop :=
  frame.drop offset = bytes

section

variable {frame rest : List UInt8} {offset : Nat}

/-- Behind some bytes there follow the others. -/
theorem Follows.skip {bytes : List UInt8} (follows : Follows frame offset (bytes ++ rest)) :
    Follows frame (offset + bytes.length) rest := by
  unfold Follows at follows ⊢
  rw [← List.drop_drop, follows, List.drop_left]

/-- A byte that follows is read. -/
theorem Follows.unpackB {value : UInt8} (follows : Follows frame offset ([value] ++ rest)) :
    unpackB frame offset = some value := by
  have first : (frame.drop offset)[0]? = some value := by rw [follows]; rfl
  rw [List.getElem?_drop] at first
  exact first

/-- A 16-bit word that follows is read. -/
theorem Follows.unpackH {word : UInt16} (follows : Follows frame offset (bytes16 word ++ rest)) :
    unpackH frame offset = some word := by
  unfold Ground.unpackH
  rw [follows]
  exact congrArg some (word16_bytes word)

/-- A signed 16-bit word that follows is read. -/
theorem Follows.unpackSignedH {word : Int16}
    (follows : Follows frame offset (bytesI16 word ++ rest)) :
    unpackSignedH frame offset = some word := by
  unfold Ground.unpackSignedH
  rw [follows.unpackH, Option.map_some, Int16.toInt16_toUInt16]

/-- A 32-bit word that follows is read. -/
theorem Follows.unpackI {word : UInt32} (follows : Follows frame offset (bytes32 word ++ rest)) :
    unpackI frame offset = some word := by
  unfold Ground.unpackI
  rw [follows, take32_bytes32, Option.map_some]

/-- A signed 32-bit word that follows is read. -/
theorem Follows.unpackSignedI {word : Int32}
    (follows : Follows frame offset (bytesI32 word ++ rest)) :
    unpackSignedI frame offset = some word := by
  unfold Ground.unpackSignedI
  rw [follows.unpackI, Option.map_some, Int32.toInt32_toUInt32]

/-- The halves of a 64-bit word, each moved back to its place, make up the word. -/
theorem word64_halves (word : UInt64) :
    word.toUInt32.toUInt64 ||| ((word >>> 32).toUInt32.toUInt64 <<< 32) = word := by
  apply UInt64.toBitVec_inj.mp
  ext index bound
  rw [← BitVec.getLsbD_eq_getElem, ← BitVec.getLsbD_eq_getElem]
  show ((word.toBitVec.setWidth 32).setWidth 64 |||
    ((word.toBitVec >>> 32).setWidth 32).setWidth 64 <<< 32).getLsbD index =
      word.toBitVec.getLsbD index
  simp only [BitVec.getLsbD_or, BitVec.getLsbD_setWidth, BitVec.getLsbD_shiftLeft,
    BitVec.getLsbD_ushiftRight]
  grind

/-- A 64-bit word that follows is read. -/
theorem Follows.unpackQ {word : UInt64} (follows : Follows frame offset (bytes64 word ++ rest)) :
    unpackQ frame offset = some word := by
  unfold bytes64 at follows
  rw [List.append_assoc] at follows
  unfold Ground.unpackQ
  rw [follows.unpackI, show offset + 4 = offset + (bytes32 word.toUInt32).length from rfl,
    follows.skip.unpackI]
  exact congrArg some (word64_halves word)

/-- A waypoint that follows is read. -/
theorem Follows.unpackWaypoint {waypoint : PageWaypoint}
    (follows : Follows frame offset (packWaypoint waypoint ++ rest)) :
    unpackWaypoint frame offset = some waypoint := by
  have kind : Follows frame offset ([waypoint.cmdType] ++ (bytesI32 waypoint.latE7 ++
      (bytesI32 waypoint.lonE7 ++ (bytes32 waypoint.z ++ rest)))) := by
    unfold packWaypoint at follows
    rw [List.cons_append, List.append_assoc, List.append_assoc] at follows
    exact follows
  have latitude : Follows frame (offset + 1) (bytesI32 waypoint.latE7 ++
      (bytesI32 waypoint.lonE7 ++ (bytes32 waypoint.z ++ rest))) := kind.skip
  have longitude : Follows frame (offset + 5)
      (bytesI32 waypoint.lonE7 ++ (bytes32 waypoint.z ++ rest)) := latitude.skip
  have height : Follows frame (offset + 9) (bytes32 waypoint.z ++ rest) := longitude.skip
  unfold Ground.unpackWaypoint
  rw [kind.unpackB, latitude.unpackSignedI, longitude.unpackSignedI, height.unpackI]
  rfl

end

/-! ## What a frame is built of -/

/-- A waypoint as a page carries it. -/
def pageWaypoint (waypoint : Waypoint) : PageWaypoint where
  cmdType := waypoint.cmdType
  latE7 := waypoint.latE7
  lonE7 := waypoint.lonE7
  z := waypoint.z

/-- Index of the first waypoint of the page to be sent. -/
def pageStart (s : State) : Nat := (s.routePageIndex * dl2WaypointsPerPage).toNat

/-- Number of waypoints of the page to be sent: two, or what is left of the route. -/
def inPage (s : State) : Nat := min 2 (s.routeWaypointCount.toNat - pageStart s)

/-- The waypoints of the page to be sent. -/
def pageWaypoints (s : State) : List PageWaypoint :=
  (List.range' (pageStart s) (inPage s)).map fun index =>
    pageWaypoint (s.routeWaypoints[index]?.getD .zero)

/-- What the application puts into a frame, of which a decoded frame is to consist. -/
def dl2Of (s : State) : Dl2Frame where
  seq := s.downlinkSeq.toUInt16
  flags := dl2Flags (s.fcState.timeValid != 0) s.routeReadbackPending s
  ufb := s.pendingUplinkFeedback.code
  tsMs := s.fcState.timestampMs
  rollRad := scaleRadToI16 s.fcState.rollRad
  pitchRad := scaleRadToI16 s.fcState.pitchRad
  yawRad := scaleRadToI16 s.fcState.yawRad
  xM := (scaleMeterToI16Cm s.fcState.posX).1
  yM := (scaleMeterToI16Cm s.fcState.posY).1
  zM := (scaleMeterToI16Cm s.fcState.posZ).1
  vxMps := (scaleMeterToI16Cm s.fcState.velX).1
  vyMps := (scaleMeterToI16Cm s.fcState.velY).1
  vzMps := (scaleMeterToI16Cm s.fcState.velZ).1
  latE7 := s.fcState.latE7
  lonE7 := s.fcState.lonE7
  altMm := s.fcState.altMm
  fix := s.fcState.gpsFix
  sats := s.fcState.satellitesVisible
  health := s.systemHealth.systemHealthState
  fault := s.systemHealth.faultCode
  linkstate := s.linkState.code
  sysTimeUnixUsec := if s.fcState.timeValid != 0 then some s.fcState.timeUnixUsec else none
  uplinkLastSeq := s.uplinkLastAcceptedSequence
  uplinkBootCount := s.uplinkBootCount
  wpRouteType := if s.routeReadbackPending then some s.routeType else none
  wpPageIndex := if s.routeReadbackPending then some s.routePageIndex else none
  wpTotalPages := if s.routeReadbackPending then some s.routeTotalPages else none
  wpWaypoints := if s.routeReadbackPending then some (pageWaypoints s) else none

/-- A page has as many waypoints as are counted for it. -/
theorem pageWaypoints_length (s : State) : (pageWaypoints s).length = inPage s := by
  unfold pageWaypoints
  rw [List.length_map, List.length_range']

/-- The numbers below a bound that are on a page of two. -/
theorem filter_half (page count : Nat) :
    (List.range count).filter (· / 2 = page) =
      List.range' (2 * page) (min 2 (count - 2 * page)) := by
  induction count with
  | zero => simp
  | succ count previous =>
    rw [List.range_succ, List.filter_append, previous]
    by_cases inside : count / 2 = page
    · have more : min 2 (count + 1 - 2 * page) = min 2 (count - 2 * page) + 1 := by omega
      have last : 2 * page + 1 * min 2 (count - 2 * page) = count := by omega
      rw [List.filter_singleton, decide_eq_true inside, more, List.range'_concat, last]
      rfl
    · have same : min 2 (count + 1 - 2 * page) = min 2 (count - 2 * page) := by omega
      rw [List.filter_singleton, decide_eq_false inside, same]
      exact List.append_nil _

/-- The waypoints of the route that belong to the page to be sent by its number, two to a page. -/
def numberedWaypoints (s : State) : List PageWaypoint :=
  ((List.range s.routeWaypointCount.toNat).filter (· / 2 = s.routePageIndex.toNat)).map
    fun index => pageWaypoint (s.routeWaypoints[index]?.getD .zero)

/-- A page lists the waypoints of its number while twice the number fits a byte. -/
theorem pageWaypoints_eq {s : State} (small : s.routePageIndex < 128) :
    pageWaypoints s = numberedWaypoints s := by
  have start : pageStart s = 2 * s.routePageIndex.toNat := by
    have bound : s.routePageIndex.toNat < 128 := UInt8.lt_iff_toNat_lt.mp small
    unfold pageStart
    rw [UInt8.toNat_mul, show dl2WaypointsPerPage.toNat = 2 from rfl]
    omega
  unfold pageWaypoints inPage numberedWaypoints
  rw [filter_half, start]

/-- The bytes of a page, of which two waypoints or zeros in their place. -/
theorem waypointBlock_eq (s : State) :
    waypointBlock s =
      [s.routeType, s.routePageIndex, s.routeTotalPages, UInt8.ofNat (inPage s)] ++
        waypointSlot (1 ≤ inPage s) (s.routeWaypoints[pageStart s]?.getD .zero) ++
        waypointSlot (2 ≤ inPage s) (s.routeWaypoints[pageStart s + 1]?.getD .zero) := by
  let startIdx := s.routePageIndex * dl2WaypointsPerPage
  let remaining := if startIdx ≥ s.routeWaypointCount then 0 else s.routeWaypointCount - startIdx
  have left : remaining.toNat = s.routeWaypointCount.toNat - startIdx.toNat := by
    dsimp only [remaining]
    by_cases beyond : startIdx ≥ s.routeWaypointCount
    · have above : s.routeWaypointCount.toNat ≤ startIdx.toNat := UInt8.le_iff_toNat_le.mp beyond
      rw [if_pos beyond, show (0 : UInt8).toNat = 0 from rfl]
      omega
    · rw [if_neg beyond]
      exact UInt8.toNat_sub_of_le _ _ (UInt8.le_of_lt (UInt8.not_le.mp beyond))
  have count : (if remaining < dl2WaypointsPerPage then remaining else dl2WaypointsPerPage) =
      UInt8.ofNat (inPage s) := by
    have page : inPage s = min 2 remaining.toNat := by rw [left]; rfl
    rw [page]
    by_cases few : remaining < dl2WaypointsPerPage
    · have below : remaining.toNat < 2 := UInt8.lt_iff_toNat_lt.mp few
      rw [if_pos few, Nat.min_eq_right (by omega), UInt8.ofNat_toNat]
    · have above : 2 ≤ remaining.toNat := UInt8.le_iff_toNat_le.mp (UInt8.not_lt.mp few)
      rw [if_neg few, Nat.min_eq_left above]
      rfl
  have bound : inPage s ≤ 2 := Nat.min_le_left _ _
  have used (least : Nat) (small : least ≤ 2) :
      (UInt8.ofNat (inPage s) ≥ UInt8.ofNat least) = (least ≤ inPage s) := by
    apply propext
    show UInt8.ofNat least ≤ UInt8.ofNat (inPage s) ↔ least ≤ inPage s
    rw [UInt8.le_iff_toNat_le, UInt8.toNat_ofNat', UInt8.toNat_ofNat']
    omega
  unfold waypointBlock
  dsimp only
  rw [count]
  simp only [← used 1 (by decide), ← used 2 (by decide)]
  rfl

/-- What the ground finds in a place of a page. -/
def slotWaypoint (present : Bool) (waypoint : Waypoint) : PageWaypoint :=
  if present then pageWaypoint waypoint else .zero

/-- A place of a page is packed as the encoder of the ground packs it. -/
theorem waypointSlot_eq (present : Bool) (waypoint : Waypoint) :
    waypointSlot present waypoint = packWaypoint (slotWaypoint present waypoint) := by
  cases present with
  | true => rfl
  | false =>
    show List.replicate 13 0 = packWaypoint .zero
    decide

/-- The places that are in use hold the waypoints of the page, and zeros fill the others. -/
theorem slots_eq (s : State) :
    [slotWaypoint (1 ≤ inPage s) (s.routeWaypoints[pageStart s]?.getD .zero),
        slotWaypoint (2 ≤ inPage s) (s.routeWaypoints[pageStart s + 1]?.getD .zero)] =
      pageWaypoints s ++ List.replicate (2 - inPage s) .zero := by
  have bound : inPage s ≤ 2 := Nat.min_le_left _ _
  unfold pageWaypoints
  generalize inPage s = count at bound
  match count with
  | 0 => rfl
  | 1 => rfl
  | 2 => rfl

/-- The page of a frame is the one that the encoder of the ground packs. -/
theorem waypointBlock_packPage {s : State} (pending : s.routeReadbackPending = true) :
    waypointBlock s = packPage (dl2Of s) (pageWaypoints s) := by
  unfold packPage
  dsimp only
  rw [waypointBlock_eq, waypointSlot_eq, waypointSlot_eq, pageWaypoints_length, ← slots_eq]
  simp [dl2Of, pending]

/-- The page that follows in a frame is read. -/
theorem unpackPage_waypointBlock {s : State} {frame rest : List UInt8} {offset : Nat}
    (follows : Follows frame offset (waypointBlock s ++ rest)) :
    unpackPage frame offset =
      some ⟨s.routeType, s.routePageIndex, s.routeTotalPages, pageWaypoints s⟩ := by
  rw [waypointBlock_eq, waypointSlot_eq, waypointSlot_eq, List.append_assoc,
    List.append_assoc] at follows
  let first := slotWaypoint (1 ≤ inPage s) (s.routeWaypoints[pageStart s]?.getD .zero)
  let second := slotWaypoint (2 ≤ inPage s) (s.routeWaypoints[pageStart s + 1]?.getD .zero)
  have head : Follows frame offset ([s.routeType] ++ ([s.routePageIndex] ++
      ([s.routeTotalPages] ++ ([UInt8.ofNat (inPage s)] ++
        (packWaypoint first ++ (packWaypoint second ++ rest)))))) := follows
  have bound : inPage s ≤ 2 := Nat.min_le_left _ _
  have counted : (UInt8.ofNat (inPage s)).toNat = inPage s := by
    rw [UInt8.toNat_ofNat']
    omega
  have listed : [first, second].take (inPage s) = pageWaypoints s := by
    rw [slots_eq, ← pageWaypoints_length, List.take_left]
  have routeType : unpackB frame offset = _ := head.unpackB
  have pageIndex : unpackB frame (offset + 1) = _ := head.skip.unpackB
  have totalPages : unpackB frame (offset + 2) = _ := head.skip.skip.unpackB
  have used : unpackB frame (offset + 3) = _ := head.skip.skip.skip.unpackB
  have places := head.skip.skip.skip.skip
  have one : unpackWaypoint frame (offset + 4) = _ := places.unpackWaypoint
  have two : unpackWaypoint frame (offset + 4 + 13) = _ := places.skip.unpackWaypoint
  unfold unpackPage
  rw [routeType, pageIndex, totalPages, used, one, two]
  dsimp only [Option.bind_eq_bind, Option.bind_some]
  rw [counted, listed]

section

variable (s : State)

/-- Whether a frame carries the system time. -/
def sendsTime : Bool := s.fcState.timeValid != 0

/-- Length of a frame without its checksum. -/
def dl2BodyLen : Nat :=
  dl2BaseLen + (if sendsTime s then dl2SystimeBlockLen else 0) + dl2TailLen +
    (if s.routeReadbackPending then dl2WaypointBlockLen else 0)

/-- A frame without its checksum. -/
def dl2Body : List UInt8 :=
  dl2Header (dl2Flags (sendsTime s) s.routeReadbackPending s) (dl2BodyLen s).toUInt8 s ++
    dl2Fields (sendsTime s) s.routeReadbackPending s

/-- The longest buffer has room for both blocks. -/
theorem buildDl2Frame_dl2Body :
    buildDl2Frame dl2MaxFrameLen s = some (dl2Body s ++ bytes16 (crc16 (dl2Body s))) := by
  have room (systime : Bool) :
      (s.routeReadbackPending && decide (dl2BaseLen + (if systime then dl2SystimeBlockLen else 0) +
        dl2TailLen + dl2WaypointBlockLen + 2 ≤ dl2MaxFrameLen)) = s.routeReadbackPending := by
    cases systime <;> exact Bool.and_true _
  unfold buildDl2Frame
  rw [if_neg (by decide)]
  dsimp only
  rw [room, decide_eq_true (Nat.le_refl dl2MaxFrameLen), Bool.and_true]
  rfl

/-- A page is as long as its block. -/
theorem waypointBlock_length : (waypointBlock s).length = dl2WaypointBlockLen := by
  rw [waypointBlock_eq, waypointSlot_eq, waypointSlot_eq]
  rfl

/-- The block with the system time, if it is sent. -/
def timeBlock : List UInt8 := if sendsTime s then bytes64 s.fcState.timeUnixUsec else []

/-- The block with a page, if it is sent. -/
def pageBlock : List UInt8 := if s.routeReadbackPending then waypointBlock s else []

/-- What a frame carries behind the fields that every frame has. -/
def dl2Rest : List UInt8 :=
  timeBlock s ++ (bytes16 s.uplinkLastAcceptedSequence ++ ([s.uplinkBootCount] ++ pageBlock s))

/-- A frame from left to right. -/
theorem dl2Body_eq :
    dl2Body s =
      [dl2Magic, (dl2BodyLen s).toUInt8] ++ (bytes16 (dl2Of s).seq ++ ([(dl2Of s).flags] ++
        ([(dl2Of s).ufb] ++ (bytes32 (dl2Of s).tsMs ++ (bytesI16 (dl2Of s).rollRad ++
        (bytesI16 (dl2Of s).pitchRad ++ (bytesI16 (dl2Of s).yawRad ++
        (bytesI16 (dl2Of s).xM ++ (bytesI16 (dl2Of s).yM ++ (bytesI16 (dl2Of s).zM ++
        (bytesI16 (dl2Of s).vxMps ++ (bytesI16 (dl2Of s).vyMps ++ (bytesI16 (dl2Of s).vzMps ++
        (bytesI32 (dl2Of s).latE7 ++ (bytesI32 (dl2Of s).lonE7 ++ (bytesI32 (dl2Of s).altMm ++
        ([(dl2Of s).fix] ++ ([(dl2Of s).sats] ++ ([(dl2Of s).health] ++ ([(dl2Of s).fault] ++
        ([(dl2Of s).linkstate] ++ dl2Rest s))))))))))))))))))))) := by
  have low : s.downlinkSeq.toUInt16.toUInt8 = s.downlinkSeq.toUInt8 := by
    apply UInt8.toNat_inj.mp
    rw [UInt16.toNat_toUInt8, UInt32.toNat_toUInt16, UInt32.toNat_toUInt8]
    omega
  have high : (s.downlinkSeq.toUInt16 >>> 8).toUInt8 = (s.downlinkSeq >>> 8).toUInt8 := by
    apply UInt8.toNat_inj.mp
    rw [UInt16.toNat_toUInt8, UInt16.toNat_shiftRight, UInt32.toNat_toUInt16,
      UInt32.toNat_toUInt8, UInt32.toNat_shiftRight]
    show (s.downlinkSeq.toNat % 2 ^ 16) >>> 8 % 2 ^ 8 = s.downlinkSeq.toNat >>> 8 % 2 ^ 8
    rw [Nat.shiftRight_eq_div_pow, Nat.shiftRight_eq_div_pow]
    omega
  unfold dl2Body dl2Header dl2Fields dl2Rest timeBlock pageBlock bytes16
  simp only [dl2Of, sendsTime, low, high, List.append_assoc, List.cons_append, List.nil_append]

/-- The blocks and the tail of a frame are as long as its length says. -/
theorem dl2Rest_length : 45 + (dl2Rest s).length = dl2BodyLen s := by
  have page := waypointBlock_length s
  unfold dl2Rest timeBlock pageBlock dl2BodyLen
  rw [List.length_append, List.length_append, List.length_append]
  cases sendsTime s <;> cases s.routeReadbackPending
  · rfl
  · rw [if_pos rfl, page]
    rfl
  · rfl
  · rw [if_pos rfl, if_pos rfl, page]
    rfl

/-- A frame without its checksum is as long as its second byte says. -/
theorem dl2Body_length : (dl2Body s).length = dl2BodyLen s := by
  rw [← dl2Rest_length, dl2Body_eq]
  simp only [List.length_append]
  show 2 + (2 + (1 + (1 + (4 + (2 + (2 + (2 + (2 + (2 + (2 + (2 + (2 + (2 + (4 + (4 + (4 + (1 +
    (1 + (1 + (1 + (1 + (dl2Rest s).length))))))))))))))))))))) = 45 + (dl2Rest s).length
  omega

/-- A frame without its checksum has one of four lengths. -/
theorem dl2BodyLen_bounds : 48 ≤ dl2BodyLen s ∧ dl2BodyLen s ≤ 86 := by
  unfold dl2BodyLen
  cases sendsTime s <;> cases s.routeReadbackPending <;> decide

end

/-! ## Decoding -/

/-- The flags of a frame tell which blocks it has. -/
theorem dl2Flags_blocks (systime waypoints : Bool) (s : State) :
    (dl2Flags systime waypoints s &&& dl2FlagSystime != 0) = systime ∧
      (dl2Flags systime waypoints s &&& dl2FlagWaypoint != 0) = waypoints := by
  unfold dl2Flags
  dsimp only
  generalize List.any _ _ = saturated
  cases saturated <;> cases systime <;> cases waypoints <;> decide

section

variable {s : State} {frame : List UInt8} {crc : UInt16}

/-- A frame has the length that its second byte says, and two bytes. -/
theorem frame_length (whole : frame = dl2Body s ++ bytes16 crc) :
    frame.length = dl2BodyLen s + 2 := by
  rw [whole, List.length_append, dl2Body_length]
  rfl

/-- The system time is found exactly if it was sent. -/
theorem hasSysTime_eq (whole : frame = dl2Body s ++ bytes16 crc) :
    hasSysTime (dl2Of s).flags frame = sendsTime s := by
  have flagged : ((dl2Of s).flags &&& dl2FlagSystime != 0) = sendsTime s :=
    (dl2Flags_blocks _ _ s).1
  unfold hasSysTime
  rw [flagged, frame_length whole]
  unfold dl2BodyLen
  cases sendsTime s <;> cases s.routeReadbackPending <;> rfl

/-- The block with the system time is eight bytes long, if it is sent. -/
theorem timeBlock_length (s : State) :
    (timeBlock s).length = if sendsTime s then dl2SystimeBlockLen else 0 := by
  unfold timeBlock
  cases sendsTime s <;> rfl

/-- The tail begins behind the block with the system time. -/
theorem tailOffset_eq (whole : frame = dl2Body s ++ bytes16 crc) :
    tailOffset (dl2Of s).flags frame = dl2BaseLen + (timeBlock s).length := by
  unfold tailOffset
  rw [hasSysTime_eq whole, timeBlock_length]
  cases sendsTime s <;> rfl

/-- The system time is read, if there is one. -/
theorem unpackSysTime_eq {rest : List UInt8} (whole : frame = dl2Body s ++ bytes16 crc)
    (behind : Follows frame dl2BaseLen (timeBlock s ++ rest)) :
    unpackSysTime (dl2Of s).flags frame = some (dl2Of s).sysTimeUnixUsec := by
  unfold unpackSysTime timeBlock at *
  rw [hasSysTime_eq whole]
  show _ = some (if sendsTime s then some s.fcState.timeUnixUsec else none)
  by_cases sent : sendsTime s = true
  · rw [if_pos sent] at behind ⊢
    rw [behind.unpackQ, if_pos sent]
    rfl
  · rw [if_neg sent, if_neg sent]

/-- The tail is read. -/
theorem unpackTail_eq {rest : List UInt8} (whole : frame = dl2Body s ++ bytes16 crc)
    (behind : Follows frame (dl2BaseLen + (timeBlock s).length)
      (bytes16 s.uplinkLastAcceptedSequence ++ ([s.uplinkBootCount] ++ rest))) :
    unpackTail (dl2Of s).flags frame =
      some ((dl2Of s).uplinkLastSeq, (dl2Of s).uplinkBootCount) := by
  have long : frame.length ≥ dl2BaseLen + (timeBlock s).length + dl2TailLen + 2 := by
    rw [frame_length whole, timeBlock_length]
    unfold dl2BodyLen
    omega
  have count : unpackB frame (dl2BaseLen + (timeBlock s).length + 2) = some s.uplinkBootCount :=
    behind.skip.unpackB
  unfold unpackTail
  rw [tailOffset_eq whole, if_pos long, behind.unpackH, count]
  rfl

/-- The page is read, if there is one. -/
theorem unpackPageBlock_eq {rest : List UInt8} (whole : frame = dl2Body s ++ bytes16 crc)
    (behind : Follows frame (dl2BaseLen + (timeBlock s).length + dl2TailLen)
      (pageBlock s ++ rest)) :
    ∃ page, unpackPageBlock (dl2Of s).flags frame = some page ∧
      page.map Page.routeType = (dl2Of s).wpRouteType ∧
      page.map Page.pageIndex = (dl2Of s).wpPageIndex ∧
      page.map Page.totalPages = (dl2Of s).wpTotalPages ∧
      page.map Page.waypoints = (dl2Of s).wpWaypoints := by
  have flagged : ((dl2Of s).flags &&& dl2FlagWaypoint != 0) = s.routeReadbackPending :=
    (dl2Flags_blocks _ _ s).2
  let sent : Page := ⟨s.routeType, s.routePageIndex, s.routeTotalPages, pageWaypoints s⟩
  have field {α : Type} (read : Page → α) :
      (if s.routeReadbackPending then some sent else none).map read =
        if s.routeReadbackPending then some (read sent) else none :=
    apply_ite (Option.map read) ..
  refine ⟨if s.routeReadbackPending then some sent else none, ?_, field _, field _, field _,
    field _⟩
  unfold unpackPageBlock
  dsimp only
  rw [flagged, tailOffset_eq whole]
  by_cases pending : s.routeReadbackPending = true
  · have long : frame.length ≥
        dl2BaseLen + (timeBlock s).length + dl2TailLen + dl2WaypointBlockLen + 2 := by
      rw [frame_length whole, timeBlock_length]
      unfold dl2BodyLen
      rw [if_pos pending]
    unfold pageBlock at behind
    rw [if_pos pending] at behind ⊢
    rw [pending, decide_eq_true long, unpackPage_waypointBlock behind]
    rfl
  · rw [Bool.eq_false_iff.mpr pending]
    rfl

/-- A frame is decoded to what it was built of. -/
theorem decodeDl2_dl2Body (whole : frame = dl2Body s ++ bytes16 crc) :
    decodeDl2 frame = some (dl2Of s) := by
  have start : Follows frame 0 (dl2Body s ++ bytes16 crc) := whole
  rw [dl2Body_eq] at start
  unfold dl2Rest at start
  simp only [List.append_assoc] at start
  have time := fun rest behind => @unpackSysTime_eq s frame crc rest whole behind
  have tail := fun rest behind => @unpackTail_eq s frame crc rest whole behind
  have page := fun rest behind => @unpackPageBlock_eq s frame crc rest whole behind
  generalize dl2Of s = decoded at start time tail page ⊢
  have seq : Follows frame 2 _ := (start.skip :)
  have flags : Follows frame 4 _ := (seq.skip :)
  have ufb : Follows frame 5 _ := (flags.skip :)
  have tsMs : Follows frame 6 _ := (ufb.skip :)
  have rollRad : Follows frame 10 _ := (tsMs.skip :)
  have pitchRad : Follows frame 12 _ := (rollRad.skip :)
  have yawRad : Follows frame 14 _ := (pitchRad.skip :)
  have xM : Follows frame 16 _ := (yawRad.skip :)
  have yM : Follows frame 18 _ := (xM.skip :)
  have zM : Follows frame 20 _ := (yM.skip :)
  have vxMps : Follows frame 22 _ := (zM.skip :)
  have vyMps : Follows frame 24 _ := (vxMps.skip :)
  have vzMps : Follows frame 26 _ := (vyMps.skip :)
  have latE7 : Follows frame 28 _ := (vzMps.skip :)
  have lonE7 : Follows frame 32 _ := (latE7.skip :)
  have altMm : Follows frame 36 _ := (lonE7.skip :)
  have fix : Follows frame 40 _ := (altMm.skip :)
  have sats : Follows frame 41 _ := (fix.skip :)
  have health : Follows frame 42 _ := (sats.skip :)
  have fault : Follows frame 43 _ := (health.skip :)
  have linkstate : Follows frame 44 _ := (fault.skip :)
  have afterBase : Follows frame dl2BaseLen _ := (linkstate.skip :)
  have afterTime : Follows frame (dl2BaseLen + (timeBlock s).length) _ := (afterBase.skip :)
  have afterTail : Follows frame (dl2BaseLen + (timeBlock s).length + dl2TailLen) _ :=
    (afterTime.skip.skip :)
  obtain ⟨block, found, routeType, pageIndex, totalPages, waypoints⟩ := page _ afterTail
  unfold decodeDl2
  rw [seq.unpackH, flags.unpackB, ufb.unpackB, tsMs.unpackI, rollRad.unpackSignedH,
    pitchRad.unpackSignedH, yawRad.unpackSignedH, xM.unpackSignedH, yM.unpackSignedH,
    zM.unpackSignedH, vxMps.unpackSignedH, vyMps.unpackSignedH, vzMps.unpackSignedH,
    latE7.unpackSignedI, lonE7.unpackSignedI, altMm.unpackSignedI, fix.unpackB, sats.unpackB,
    health.unpackB, fault.unpackB, linkstate.unpackB]
  dsimp only [Option.bind_eq_bind, Option.bind_some]
  rw [time _ afterBase, tail _ afterTime, found]
  dsimp only [Option.bind_some]
  rw [routeType, pageIndex, totalPages, waypoints]

end

end CfsTelemetry.Ground
