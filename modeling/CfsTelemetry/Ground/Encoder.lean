import CfsTelemetry.Ground.RoundTrip
import CfsTelemetry.Lora.Lossless

/-!
# The binary uplink encoder of the ground station

The encoder refuses a payload that one length byte could not describe together with the rest of
the frame; the receiver takes payloads of at most 196 bytes. A frame that the encoder makes is
understood exactly when its payload is within the limit of the receiver.
-/
namespace CfsTelemetry.Ground

open Words Lora

/-- A byte of a frame (format `B`), refused when the value does not fit. -/
def packB (value : Nat) : Option UInt8 := if value ≤ 255 then some value.toUInt8 else none

/-- Encode a binary uplink command; an error is raised for a payload that is too large, or a
field that does not fit its byte. -/
def buildUp2 (version commandClass seq : Nat) (payload : List UInt8) (flags : Nat) :
    Option (List UInt8) := do
  let plen := payload.length
  if plen > 255 - 9 then none
  else
    let head := [up2Magic, ← packB plen, ← packB version, ← packB commandClass] ++
      bytes16 (seq &&& 0xFFFF).toUInt16 ++ [← packB flags]
    let body := head ++ payload
    some (body ++ bytes16 (crc16Ccitt body).toUInt16)

/-- A decoded frame has the fields that were encoded. -/
structure Fields (version commandClass seq : Nat) (payload : List UInt8) (flags : Nat)
    (decoded : Up2Decoded) : Prop where
  version : decoded.version.toNat = version
  commandClass : decoded.commandClass.toNat = commandClass
  seq : decoded.seq.toNat = seq
  flags : decoded.flags.toNat = flags
  payloadLen : decoded.payloadLen.toNat = payload.length
  payload : decoded.payload.toList.take payload.length = payload

/-- The receiver hands a frame on once and is in step after it, and the parser returns what was
encoded. -/
structure Understood (version commandClass seq : Nat) (payload : List UInt8) (flags : Nat)
    (frame : List UInt8) : Prop where
  /-- In whatever windows the frame arrives, it is handed on once, and the receiver waits for
  the next frame. -/
  dispatched : ∀ (s : State) (visits : List Visit), s.receiver.Ready →
    (visitReads s visits).map RxByte.value = frame →
      (visits.foldl visited s).receiver.Ready ∧
        (visitDispatches s visits).map Dispatch.unit = [.binary frame]
  /-- The parser accepts the frame and returns its fields. -/
  parsed : ∃ decoded, parseUp2Frame frame = some decoded ∧
    Fields version commandClass seq payload flags decoded

/-! ## The frame -/

section

variable {version commandClass seq flags : Nat} {payload frame : List UInt8}

/-- The bytes of a frame before its payload. -/
def up2Head (version commandClass seq : Nat) (payload : List UInt8) (flags : Nat) : List UInt8 :=
  [up2Magic, payload.length.toUInt8, version.toUInt8, commandClass.toUInt8] ++
    bytes16 (seq &&& 0xFFFF).toUInt16 ++ [flags.toUInt8]

/-- The encoder puts out head, payload and checksum, and its fields fit. -/
theorem buildUp2_eq_some (built : buildUp2 version commandClass seq payload flags = some frame) :
    (payload.length ≤ 246 ∧ version ≤ 255 ∧ commandClass ≤ 255 ∧ flags ≤ 255) ∧
      frame = up2Head version commandClass seq payload flags ++ payload ++
        bytes16 (crc16 (up2Head version commandClass seq payload flags ++ payload)) := by
  have fits : ∀ {value : Nat} {byte : UInt8}, packB value = some byte →
      value ≤ 255 ∧ byte = value.toUInt8 := by
    intro value byte packed
    unfold packB at packed
    by_cases small : value ≤ 255
    · rw [if_pos small] at packed
      exact ⟨small, (Option.some.inj packed).symm⟩
    · rw [if_neg small] at packed
      cases packed
  unfold buildUp2 at built
  dsimp only at built
  by_cases large : payload.length > 255 - 9
  · rw [if_pos large] at built
    cases built
  · rw [if_neg large] at built
    simp only [bind, Option.bind_eq_some_iff] at built
    obtain ⟨length, lengthFits, versionByte, versionFits, classByte, classFits, flagsByte,
      flagsFit, whole⟩ := built
    obtain ⟨-, rfl⟩ := fits lengthFits
    obtain ⟨versionBound, rfl⟩ := fits versionFits
    obtain ⟨classBound, rfl⟩ := fits classFits
    obtain ⟨flagsBound, rfl⟩ := fits flagsFit
    refine ⟨⟨by omega, versionBound, classBound, flagsBound⟩, ?_⟩
    have same : ∀ data, (crc16Ccitt data).toUInt16 = crc16 data := by
      intro data
      rw [crc16Ccitt_eq]
      exact UInt16.ofNat_toNat
    rw [same] at whole
    exact (Option.some.inj whole).symm

/-- A word at the end of a list of bytes is read there. -/
theorem getU16LE_append (bytes : List UInt8) (word : UInt16) :
    getU16LE (bytes ++ bytes16 word) bytes.length = word := by
  have low : byteAt (bytes ++ bytes16 word) bytes.length = word.toUInt8 := by
    simp [byteAt, bytes16]
  have high : byteAt (bytes ++ bytes16 word) (bytes.length + 1) = (word >>> 8).toUInt8 := by
    simp [byteAt, bytes16]
  rw [getU16LE, low, high, word16_bytes]

/-- The payload array holds the payload at its front. -/
theorem payloadOf_take (small : payload.length ≤ 196) :
    (payloadOf payload).toList.take payload.length = payload := by
  apply List.ext_getElem?
  intro index
  by_cases within : index < payload.length
  · have bound : index < maxPayloadLength := Nat.lt_of_lt_of_le within small
    rw [List.getElem?_take_of_lt within, payloadOf, Vector.getElem?_toList,
      Vector.getElem?_eq_getElem bound, Vector.getElem_ofFn, List.getElem?_eq_getElem within]
    rfl
  · rw [List.getElem?_eq_none (by rw [List.length_take]; omega),
      List.getElem?_eq_none (by omega)]

/-- What the parser makes of a frame of the encoder whose payload is within its limit. -/
def up2Of (version commandClass seq : Nat) (payload : List UInt8) (flags : Nat) : Up2Decoded where
  version := version.toUInt8
  commandClass := commandClass.toUInt8
  seq := (seq &&& 0xFFFF).toUInt16
  flags := flags.toUInt8
  payloadLen := payload.length.toUInt8
  payload := payloadOf payload

/-- The parser accepts a frame of the encoder exactly when its payload is within its limit. -/
theorem parseUp2Frame_built (built : buildUp2 version commandClass seq payload flags = some frame) :
    parseUp2Frame frame =
      if payload.length ≤ 196 then some (up2Of version commandClass seq payload flags)
      else none := by
  obtain ⟨⟨bound, -⟩, whole⟩ := buildUp2_eq_some built
  have headLength : (up2Head version commandClass seq payload flags).length = 7 := rfl
  have bodyLength : (up2Head version commandClass seq payload flags ++ payload).length =
      7 + payload.length := by
    rw [List.length_append, headLength]
  have length : frame.length = 7 + payload.length + 2 := by
    rw [whole, List.length_append, bodyLength]
    rfl
  have magic : byteAt frame 0 = up2Magic := by
    rw [whole]
    rfl
  have plen : byteAt frame 1 = payload.length.toUInt8 := by
    rw [whole]
    rfl
  have plenNat : (payload.length.toUInt8).toNat = payload.length := by
    show payload.length % 2 ^ 8 = payload.length
    omega
  have body : frame.take (7 + payload.length) =
      up2Head version commandClass seq payload flags ++ payload := by
    rw [whole, ← bodyLength, List.take_left]
  have crc : getU16LE frame (7 + payload.length) =
      crc16 (up2Head version commandClass seq payload flags ++ payload) := by
    rw [whole, ← bodyLength, getU16LE_append]
  have behind : (frame.drop 7).take payload.length = payload := by
    rw [whole, List.append_assoc, ← headLength, List.drop_left, List.take_left]
  unfold parseUp2Frame
  rw [if_neg (by omega), if_neg (not_not.mpr magic)]
  dsimp only
  rw [plen, plenNat, body, crc, behind]
  by_cases small : payload.length ≤ 196
  · have fits : ¬ (frame.length < 7 + payload.length + 2 ∨ payload.length.toUInt8 > 196) := by
      rw [gt_iff_lt, UInt8.lt_iff_toNat_lt, plenNat]
      show ¬ (frame.length < 7 + payload.length + 2 ∨ 196 < payload.length)
      omega
    have seqRead : getU16LE frame 4 = (seq &&& 0xFFFF).toUInt16 := by
      rw [whole]
      exact word16_bytes _
    rw [if_neg fits, if_neg (not_not.mpr rfl), if_pos small, seqRead, whole]
    rfl
  · have large : frame.length < 7 + payload.length + 2 ∨ payload.length.toUInt8 > 196 := by
      rw [gt_iff_lt, UInt8.lt_iff_toNat_lt, plenNat]
      show frame.length < 7 + payload.length + 2 ∨ 196 < payload.length
      omega
    rw [if_pos large, if_neg small]

/-- What the parser makes of the frame has the fields that were encoded. -/
theorem up2Of_fields (bounds : version ≤ 255 ∧ commandClass ≤ 255 ∧ flags ≤ 255)
    (seqBound : seq ≤ 65535) (small : payload.length ≤ 196) :
    Fields version commandClass seq payload flags
      (up2Of version commandClass seq payload flags) := by
  obtain ⟨versionBound, classBound, flagsBound⟩ := bounds
  have cut : seq &&& 0xFFFF = seq % 2 ^ 16 := Nat.and_two_pow_sub_one_eq_mod seq 16
  refine ⟨?_, ?_, ?_, ?_, ?_, payloadOf_take small⟩
  · show version % 2 ^ 8 = version
    omega
  · show commandClass % 2 ^ 8 = commandClass
    omega
  · show (seq &&& 0xFFFF) % 2 ^ 16 = seq
    omega
  · show flags % 2 ^ 8 = flags
    omega
  · show payload.length % 2 ^ 8 = payload.length
    omega

/-- A frame of the encoder whose payload is within the limit is a unit of the line. -/
theorem buildUp2_unit (built : buildUp2 version commandClass seq payload flags = some frame)
    (small : payload.length ≤ 196) :
    ∃ unit : WireUnit, unit.bytes = frame ∧ unit.received = .binary frame := by
  obtain ⟨-, whole⟩ := buildUp2_eq_some built
  have plen : payload.length.toUInt8 ≤ 196 := by
    rw [UInt8.le_iff_toNat_le]
    show payload.length % 2 ^ 8 ≤ 196
    omega
  have length : ([version.toUInt8, commandClass.toUInt8] ++ bytes16 (seq &&& 0xFFFF).toUInt16 ++
      [flags.toUInt8] ++ payload ++
      bytes16 (crc16 (up2Head version commandClass seq payload flags ++ payload))).length =
        payload.length.toUInt8.toNat + 7 := by
    have nat : payload.length.toUInt8.toNat = payload.length := by
      show payload.length % 2 ^ 8 = payload.length
      omega
    rw [nat, List.length_append, List.length_append]
    show 5 + payload.length + 2 = payload.length + 7
    omega
  refine ⟨.up2 payload.length.toUInt8 plen _ length, ?_, ?_⟩
  · rw [whole]
    rfl
  · rw [whole]
    rfl

/-- A frame that the encoder makes is understood by the receiver exactly when its payload is within
the limit of the receiver. The encoder allows payloads up to 246 bytes, which is the limit of a
length and not of the receiver. -/
theorem buildUp2_understood_iff (seqBound : seq ≤ 65535)
    (built : buildUp2 version commandClass seq payload flags = some frame) :
    Understood version commandClass seq payload flags frame ↔ payload.length ≤ 196 := by
  have parsed := parseUp2Frame_built built
  obtain ⟨⟨-, bounds⟩, -⟩ := buildUp2_eq_some built
  constructor
  · intro understood
    obtain ⟨decoded, accepted, -⟩ := understood.parsed
    by_contra large
    rw [parsed, if_neg large] at accepted
    cases accepted
  · intro small
    rw [if_pos small] at parsed
    refine ⟨fun s visits ready sent => ?_, _, parsed, up2Of_fields bounds seqBound small⟩
    obtain ⟨unit, bytes, received⟩ := buildUp2_unit built small
    have handed := visits_units [unit] ready (by
      rw [sent, List.flatMap_cons, List.flatMap_nil, List.append_nil, bytes])
    rwa [List.map_singleton, received] at handed

end

/-- The frame of a command without a payload is understood. -/
theorem buildUp2_understood_empty :
    Understood 1 6 7 [] 0x40 [0xB2, 0, 1, 6, 7, 0, 0x40, 0xC5, 0x23] :=
  (@buildUp2_understood_iff 1 6 7 0x40 [] _ (by decide) (by decide +kernel)).mpr (by decide)

/-- The encoder makes a frame for a payload of 197 bytes, which is not understood. -/
theorem buildUp2_not_understood :
    ∃ frame, buildUp2 1 6 7 (List.replicate 197 0) 0x40 = some frame ∧
      ¬ Understood 1 6 7 (List.replicate 197 0) 0x40 frame := by
  have made : (buildUp2 1 6 7 (List.replicate 197 0) 0x40).isSome = true := by decide +kernel
  obtain ⟨frame, built⟩ := Option.isSome_iff_exists.mp made
  refine ⟨frame, built, fun understood => ?_⟩
  obtain ⟨decoded, accepted, -⟩ := understood.parsed
  have large : ¬ (List.replicate 197 (0 : UInt8)).length ≤ 196 := by
    rw [List.length_replicate]
    decide
  rw [parseUp2Frame_built built, if_neg large] at accepted
  cases accepted

end CfsTelemetry.Ground
