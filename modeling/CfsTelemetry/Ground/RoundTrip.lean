import CfsTelemetry.Ground.Reading
import CfsTelemetry.Ground.Stream
import CfsTelemetry.Lora.Pages

/-!
# Frames round trip to the ground

Every frame that the LoRa application builds is decoded to what it was built of, however the
serial line cuts it, and is the frame that the encoder of the ground makes of what was decoded.
-/
namespace CfsTelemetry.Ground

open Words Lora

/-- A shift of the register on integers is one of the 16-bit register. -/
theorem shiftCrc_toNat (crc : UInt16) : shiftCrc crc.toNat = (Crc.shift 0x1021 crc).toNat := by
  have cut (value : Nat) : value &&& 0xFFFF = value % 2 ^ 16 :=
    Nat.and_two_pow_sub_one_eq_mod value 16
  have shifted : (crc <<< 1).toNat = (crc.toNat <<< 1) % 2 ^ 16 := UInt16.toNat_shiftLeft ..
  have top : (crc.toNat &&& 0x8000 ≠ 0) ↔ crc &&& 0x8000 ≠ 0 := by
    rw [ne_eq, ne_eq, ← UInt16.toNat_inj, UInt16.toNat_and]
    exact Iff.rfl
  unfold shiftCrc Crc.shift
  by_cases one : crc &&& 0x8000 ≠ 0
  · rw [if_pos (top.mpr one), if_pos one, UInt16.toNat_xor, shifted, cut, Nat.xor_mod_two_pow]
    rfl
  · rw [if_neg (fun set => one (top.mp set)), if_neg one, shifted, cut]

/-- Shifts of the register on integers are those of the 16-bit register. -/
theorem repeat_shiftCrc (count : Nat) (crc : UInt16) :
    Nat.repeat shiftCrc count crc.toNat = (Nat.repeat (Crc.shift 0x1021) count crc).toNat := by
  induction count with
  | zero => rfl
  | succ count previous => rw [Nat.repeat, Nat.repeat, previous, shiftCrc_toNat]

/-- The ground and the LoRa application compute the same checksum. -/
theorem crc16Ccitt_eq (data : List UInt8) : crc16Ccitt data = (crc16 data).toNat := by
  have folded (crc : UInt16) :
      data.foldl (fun crc byte => Nat.repeat shiftCrc 8 (crc ^^^ (byte.toNat <<< 8))) crc.toNat =
        (data.foldl (Crc.feed 0x1021) crc).toNat := by
    induction data generalizing crc with
    | nil => rfl
    | cons byte rest previous =>
      have high : (byte.toUInt16 <<< 8).toNat = byte.toNat <<< 8 := by
        have bound := byte.toNat_lt
        rw [UInt16.toNat_shiftLeft, UInt8.toNat_toUInt16]
        show byte.toNat <<< 8 % 2 ^ 16 = byte.toNat <<< 8
        rw [Nat.shiftLeft_eq]
        omega
      rw [List.foldl_cons, List.foldl_cons, ← high, ← UInt16.toNat_xor, repeat_shiftCrc]
      exact previous _
  exact folded 0xFFFF

section

variable (s : State)

/-- The encoder of the ground adds no flag to those of a frame. -/
theorem dl2Of_flags :
    (dl2Of s).flags ||| (if sendsTime s then dl2FlagSystime else 0) |||
      (if s.routeReadbackPending then dl2FlagWaypoint else 0) = (dl2Of s).flags := by
  show dl2Flags (sendsTime s) s.routeReadbackPending s ||| _ ||| _ =
    dl2Flags (sendsTime s) s.routeReadbackPending s
  unfold dl2Flags
  dsimp only
  generalize List.any _ _ = saturated
  cases saturated <;> cases sendsTime s <;> cases s.routeReadbackPending <;> decide

/-- The system time is there exactly if it was sent, and packed as it was sent. -/
theorem dl2Of_sysTime :
    (dl2Of s).sysTimeUnixUsec.isSome = sendsTime s ∧
      packSysTime (dl2Of s).sysTimeUnixUsec = timeBlock s := by
  have time : (dl2Of s).sysTimeUnixUsec =
    if sendsTime s then some s.fcState.timeUnixUsec else none := rfl
  unfold timeBlock
  rw [time]
  cases sendsTime s <;> exact ⟨rfl, rfl⟩

/-- A page is there exactly if it was sent, and packed as it was sent. -/
theorem dl2Of_page :
    (dl2Of s).wpWaypoints.isSome = s.routeReadbackPending ∧
      packPageBlock (dl2Of s) = pageBlock s := by
  have page : (dl2Of s).wpWaypoints =
    if s.routeReadbackPending then some (pageWaypoints s) else none := rfl
  unfold packPageBlock pageBlock
  rw [page]
  by_cases pending : s.routeReadbackPending = true
  · rw [if_pos pending, if_pos pending, pending]
    exact ⟨rfl, (waypointBlock_packPage pending).symm⟩
  · rw [if_neg pending, if_neg pending, Bool.eq_false_iff.mpr pending]
    exact ⟨rfl, rfl⟩

/-- The encoder of the ground makes the frame out of what it was built of. -/
theorem encodeDl2_dl2Of :
    encodeDl2 (dl2Of s) = some (dl2Body s ++ bytes16 (crc16 (dl2Body s))) := by
  have few : ((dl2Of s).wpWaypoints.getD []).length ≤ 2 := by
    have page : (dl2Of s).wpWaypoints =
      if s.routeReadbackPending then some (pageWaypoints s) else none := rfl
    have bound : inPage s ≤ 2 := Nat.min_le_left _ _
    rw [page]
    cases s.routeReadbackPending with
    | false => exact Nat.zero_le _
    | true => exact (pageWaypoints_length s).trans_le bound
  have same (body : List UInt8) : UInt16.ofNat (crc16Ccitt body) = crc16 body := by
    rw [crc16Ccitt_eq, UInt16.ofNat_toNat]
  unfold encodeDl2
  rw [if_neg (by omega)]
  dsimp only
  rw [(dl2Of_sysTime s).1, (dl2Of_sysTime s).2, (dl2Of_page s).1, (dl2Of_page s).2, dl2Of_flags,
    same]
  have body : [dl2Magic, UInt8.ofNat (dl2BodyLen s)] ++ bytes16 (dl2Of s).seq ++
      [(dl2Of s).flags, (dl2Of s).ufb] ++ bytes32 (dl2Of s).tsMs ++
      bytesI16 (dl2Of s).rollRad ++ bytesI16 (dl2Of s).pitchRad ++ bytesI16 (dl2Of s).yawRad ++
      bytesI16 (dl2Of s).xM ++ bytesI16 (dl2Of s).yM ++ bytesI16 (dl2Of s).zM ++
      bytesI16 (dl2Of s).vxMps ++ bytesI16 (dl2Of s).vyMps ++ bytesI16 (dl2Of s).vzMps ++
      bytesI32 (dl2Of s).latE7 ++ bytesI32 (dl2Of s).lonE7 ++ bytesI32 (dl2Of s).altMm ++
      [(dl2Of s).fix, (dl2Of s).sats, (dl2Of s).health, (dl2Of s).fault, (dl2Of s).linkstate] ++
      timeBlock s ++ bytes16 (dl2Of s).uplinkLastSeq ++ [(dl2Of s).uplinkBootCount] ++
      pageBlock s = dl2Body s := by
    rw [dl2Body_eq]
    unfold dl2Rest
    simp only [List.append_assoc, List.cons_append, List.nil_append]
    rfl
  exact congrArg (fun body => some (body ++ bytes16 (crc16 body))) body

end

/-! ## The stream -/

section

variable (s : State)

/-- The frame that is sent. -/
def frameOf : List UInt8 := dl2Body s ++ bytes16 (crc16 (dl2Body s))

/-- A frame begins with its magic byte and its length. -/
theorem frameOf_eq : ∃ rest, frameOf s = dl2Magic :: (dl2BodyLen s).toUInt8 :: rest := by
  unfold frameOf
  rw [dl2Body_eq]
  exact ⟨_, rfl⟩

/-- The length that the frame states. -/
theorem statedLen_frameOf : statedLen (frameOf s) = dl2BodyLen s := by
  have bounds := dl2BodyLen_bounds s
  have ⟨behind, shape⟩ := frameOf_eq s
  have second : byteAt (frameOf s) 1 = (dl2BodyLen s).toUInt8 := by
    rw [shape]
    rfl
  rw [statedLen, second, Nat.toUInt8, UInt8.toNat_ofNat']
  omega

/-- What is sent is a frame of allowed length with its checksum. -/
theorem isDl2_frameOf : IsDl2 (frameOf s) := by
  have bounds := dl2BodyLen_bounds s
  have ⟨behind, shape⟩ := frameOf_eq s
  have magic : (frameOf s).head? = some dl2Magic := by rw [shape, List.head?_cons]
  have allowed : AllowedLen (dl2BodyLen s) := by
    unfold AllowedLen dl2BaseLen dl2TailLen dl2SystimeBlockLen dl2WaypointBlockLen
    omega
  have follows : Follows (frameOf s) (dl2BodyLen s) (bytes16 (crc16 (dl2Body s)) ++ []) := by
    rw [Follows, frameOf, ← dl2Body_length, List.drop_left, List.append_nil]
  have body : (frameOf s).take (dl2BodyLen s) = dl2Body s := by
    rw [frameOf, ← dl2Body_length, List.take_left]
  constructor
  · exact magic
  · rw [statedLen_frameOf]
    exact allowed
  · rw [statedLen_frameOf]
    exact frame_length rfl
  · rw [statedLen_frameOf, follows.unpackH, body, crc16Ccitt_eq, Option.map_some]

/-- A frame in front of other bytes is taken whole. -/
theorem tryParse_frameOf (rest : List UInt8) :
    tryParse (frameOf s ++ rest) = some (some (.frame (dl2Of s)), (frameOf s).length) := by
  have ⟨decoded, reads, parsed⟩ := tryParse_frame (isDl2_frameOf s) rest
  have sent : decodeDl2 (frameOf s) = some (dl2Of s) := decodeDl2_dl2Body rfl
  have same : decoded = dl2Of s := Option.some.inj (reads.symm.trans sent)
  rw [parsed, same]

/-- A frame that is not complete yet is left in the buffer. -/
theorem tryParse_piece {piece missing : List UInt8} (cut : piece ++ missing = frameOf s)
    (more : missing ≠ []) : tryParse piece = some (none, 0) := by
  have length : (frameOf s).length = dl2BodyLen s + 2 := frame_length rfl
  have ⟨behind, shape⟩ := frameOf_eq s
  have short : piece.length < dl2BodyLen s + 2 := by
    have positive := List.length_pos_iff.mpr more
    rw [← length, ← cut, List.length_append]
    omega
  cases piece with
  | nil => rfl
  | cons magic piece =>
    have first : magic = dl2Magic := by
      rw [shape] at cut
      exact (List.cons.inj cut).1
    rw [first] at cut short ⊢
    apply tryParse_unfinished
    rintro ⟨two, enough⟩
    have stated : statedLen (dl2Magic :: piece) = dl2BodyLen s := by
      rw [← statedLen_append two missing, cut, statedLen_frameOf]
    rw [stated] at enough
    have allowed := (isDl2_frameOf s).allowed
    rw [statedLen_frameOf] at allowed
    have held := enough allowed
    omega

end

/-- Nothing happens while the front of the buffer is not complete. -/
theorem drain_waiting {buf : List UInt8} (waiting : tryParse buf = some (none, 0)) :
    drain buf = some ([], buf) :=
  drain_scans (.stop waiting)

/-- A frame in front of other bytes is an event before theirs. -/
theorem drain_frameOf (s : State) {rest left : List UInt8} {events : List StreamEvent}
    (later : drain rest = some (events, left)) :
    drain (frameOf s ++ rest) = some (.frame (dl2Of s) :: events, left) := by
  have sent : decodeDl2 (frameOf s) = some (dl2Of s) := decodeDl2_dl2Body rfl
  exact drain_scans (scans_frame (isDl2_frameOf s) sent (drain_eq_some.mp later))

/-- The events of frames. -/
def frameEvents (states : List State) : List StreamEvent :=
  states.map fun s => .frame (dl2Of s)

/-- Of the first bytes of some frames, those of complete frames are taken and the others kept. -/
theorem drain_frames (states : List State) (piece later : List UInt8)
    (cut : piece ++ later = states.flatMap frameOf) :
    ∃ taken left rest, states = taken ++ left ∧ drain piece = some (frameEvents taken, rest) ∧
      rest ++ later = left.flatMap frameOf ∧ (later = [] → left = [] ∧ rest = []) := by
  induction states generalizing piece with
  | nil =>
    obtain ⟨none, _⟩ := List.append_eq_nil_iff.mp cut
    subst none
    exact ⟨[], [], [], rfl, drain_waiting rfl, cut, fun _ => ⟨rfl, rfl⟩⟩
  | cons s states previous =>
    rw [List.flatMap_cons] at cut
    have split : (∃ missing, piece ++ missing = frameOf s ∧ missing ≠ [] ∧ later ≠ []) ∨
        ∃ behind, piece = frameOf s ++ behind ∧ behind ++ later = states.flatMap frameOf := by
      rcases List.append_eq_append_iff.mp cut with ⟨missing, whole, rest⟩ | ⟨behind, whole, rest⟩
      · by_cases complete : missing = []
        · subst complete
          exact .inr ⟨[], by rw [whole, List.append_nil, List.append_nil], rest⟩
        · refine .inl ⟨missing, whole.symm, complete, ?_⟩
          rw [rest]
          exact fun none => complete (List.append_eq_nil_iff.mp none).1
      · exact .inr ⟨behind, whole, rest.symm⟩
    rcases split with ⟨missing, whole, some, more⟩ | ⟨behind, whole, rest⟩
    · refine ⟨[], s :: states, piece, rfl, drain_waiting (tryParse_piece s whole some), ?_,
        fun none => absurd none more⟩
      rw [List.flatMap_cons]
      exact cut
    · obtain ⟨taken, left, kept, parts, drained, remaining, last⟩ := previous behind rest
      refine ⟨s :: taken, left, kept, ?_, ?_, remaining, last⟩
      · rw [parts]
        rfl
      · rw [whole]
        exact drain_frameOf s drained

/-- However frames are cut into chunks, the stream has one event for each, in order, and keeps
nothing. -/
theorem feedAll_frames (chunks : List (List UInt8)) :
    ∀ (states : List State) (buf : List UInt8),
      buf ++ chunks.flatten = states.flatMap frameOf → (chunks.flatten = [] → buf = []) →
      feedAll buf chunks = some (frameEvents states, []) := by
  induction chunks with
  | nil =>
    intro states buf cut last
    have empty : buf = [] := last rfl
    rw [empty] at cut ⊢
    match states, cut with
    | [], _ => rfl
    | s :: _, cut =>
      obtain ⟨behind, shape⟩ := frameOf_eq s
      rw [List.flatMap_cons, shape] at cut
      cases cut
  | cons chunk chunks previous =>
    intro states buf cut last
    rw [List.flatten_cons, ← List.append_assoc] at cut
    obtain ⟨taken, left, rest, parts, drained, remaining, ended⟩ := drain_frames states _ _ cut
    have later := previous left rest remaining fun none => (ended none).2
    unfold feedAll feed
    rw [drained]
    dsimp only [Option.bind_eq_bind, Option.bind_some]
    rw [later, parts]
    unfold frameEvents
    rw [List.map_append]
    rfl

/-- A frame holds the checksum of what is in front of it. -/
theorem frameOf_checksum (s : State) :
    crc16 ((frameOf s).take (dl2BodyLen s)) = getU16LE (frameOf s) (dl2BodyLen s) := by
  have body : (frameOf s).take (dl2BodyLen s) = dl2Body s := by
    unfold frameOf
    rw [← dl2Body_length, List.take_left]
  have low : byteAt (frameOf s) (dl2BodyLen s) = (crc16 (dl2Body s)).toUInt8 := by
    unfold byteAt frameOf
    rw [← dl2Body_length, List.getElem?_append_right (Nat.le_refl _), Nat.sub_self]
    rfl
  have high : byteAt (frameOf s) (dl2BodyLen s + 1) = (crc16 (dl2Body s) >>> 8).toUInt8 := by
    unfold byteAt frameOf
    rw [← dl2Body_length, List.getElem?_append_right (by omega), Nat.add_sub_cancel_left]
    rfl
  unfold getU16LE
  rw [body, low, high, word16_bytes]

/-- What holds between a frame and the state it is built of: the frame has the length that its
second byte says and two bytes more, which are its checksum; it is decoded to what was put in;
the encoder of the ground makes the same frame out of that. -/
structure RoundTrips (s : State) (frame : List UInt8) : Prop where
  declared : frame.length = (byteAt frame 1).toNat + 2
  length : frame.length = dl2FrameLen +
    (if s.fcState.timeValid ≠ 0 then dl2SystimeBlockLen else 0) +
    (if s.routeReadbackPending then dl2WaypointBlockLen else 0)
  fits : frame.length ≤ dl2MaxFrameLen
  checksum : crc16 (frame.take (frame.length - 2)) = getU16LE frame (frame.length - 2)
  decoded : decodeDl2 frame = some (dl2Of s)
  encoded : encodeDl2 (dl2Of s) = some frame

/-- Every frame round trips. -/
theorem frameOf_roundTrips (s : State) : RoundTrips s (frameOf s) := by
  have length : (frameOf s).length = dl2BodyLen s + 2 := frame_length rfl
  have bounds := dl2BodyLen_bounds s
  constructor
  · obtain ⟨behind, shape⟩ := frameOf_eq s
    have second : byteAt (frameOf s) 1 = (dl2BodyLen s).toUInt8 := by
      rw [shape]
      rfl
    rw [length, second, Nat.toUInt8, UInt8.toNat_ofNat']
    omega
  · rw [length]
    unfold dl2BodyLen sendsTime dl2FrameLen dl2BaseLen dl2TailLen
    simp only [bne_iff_ne]
    omega
  · rw [length]
    unfold dl2MaxFrameLen
    omega
  · rw [length]
    exact frameOf_checksum s
  · exact decodeDl2_dl2Body rfl
  · exact encodeDl2_dl2Of s

open Run

/-- The state after a start without a state file. -/
def startState (useV2Downlink : Bool) : State :=
  { initialState with useV2Downlink := useV2Downlink }

/-- The pages are sound at the start. -/
theorem startState_pagesSound (useV2Downlink : Bool) : PagesSound (startState useV2Downlink) where
  count := Nat.zero_le _
  total := show (0 : UInt8).toNat = ((0 : UInt8).toNat + 1) / 2 by decide
  index := .inl rfl
  pending pending := nomatch pending

/-- Of every state the application builds a frame that round trips. A stream of such frames,
however it is cut into chunks, is decoded to what each was built of, in order, with nothing left
over. In every run a page lists exactly the waypoints of its number. -/
theorem dl2_roundTrip :
    (∀ s, ∃ frame, buildDl2Frame dl2MaxFrameLen s = some frame ∧ RoundTrips s frame) ∧
      (∀ (states : List State) (frames : List (List UInt8)) (chunks : List (List UInt8)),
        frames.map some = states.map (buildDl2Frame dl2MaxFrameLen) →
        chunks.flatten = frames.flatten →
        feedAll [] chunks = some (states.map fun s => .frame (dl2Of s), [])) ∧
      ∀ (useV2Downlink : Bool) (inputs : List Input),
        pageWaypoints (run step (startState useV2Downlink) inputs) =
          numberedWaypoints (run step (startState useV2Downlink) inputs) := by
  refine ⟨?_, ?_, ?_⟩
  · intro s
    exact ⟨frameOf s, buildDl2Frame_dl2Body s, frameOf_roundTrips s⟩
  · intro states frames chunks built cut
    have sent : frames = states.map frameOf := by
      apply List.map_injective_iff.mpr (Option.some_injective _)
      rw [built, List.map_map]
      exact List.map_congr_left fun s _ => buildDl2Frame_dl2Body s
    apply feedAll_frames chunks states []
    · rw [List.nil_append, cut, sent, List.flatMap_def]
    · exact fun _ => rfl
  · intro useV2Downlink inputs
    have each : ∀ s input, PagesSound s → PagesSound (step s input) :=
      fun _ input holds => step_pagesSound holds input
    have sound := run_invariant each inputs _ (startState_pagesSound useV2Downlink)
    have small := sound.small
    apply pageWaypoints_eq
    apply UInt8.lt_iff_toNat_lt.mpr
    exact Nat.lt_trans small (by decide)

/-- Fed byte by byte, the first frame after a start is one event. -/
theorem dl2_roundTrip_bytewise :
    feedAll [] ((frameOf initialState).map fun byte => [byte]) =
      some ([.frame (dl2Of initialState)], []) :=
  dl2_roundTrip.2.1 [initialState] [frameOf initialState] _
    (congrArg (fun frame => [frame]) (buildDl2Frame_dl2Body initialState).symm)
    (by rw [← List.flatMap_def, List.flatMap_singleton', List.flatten_singleton])

end CfsTelemetry.Ground
