import CfsTelemetry.Library.Crc
import CfsTelemetry.Bridge.Parser

/-!
# Frames with a changed byte

The checksum of a frame tells every change of one byte that it covers. The parser keeps all of a
frame but the two flag bytes of version 2, for which the check takes zeros. So a changed byte is
found out in every frame whose flags are zeros, unless it is one of the flags.
-/
namespace CfsTelemetry.Bridge

open Framing Words

/-- The register is linear in what it holds and what it takes. -/
theorem crcAccumulate_xor (crc crc' : UInt16) (data data' : UInt8) :
    crcAccumulate (crc ^^^ crc') (data ^^^ data') =
      crcAccumulate crc data ^^^ crcAccumulate crc' data' := by
  simp only [crcAccumulate, UInt16.toUInt8_xor, UInt16.shiftRight_xor, UInt16.shiftLeft_xor,
    UInt8.shiftLeft_xor, UInt8.toUInt16_xor]
  grind

/-- What a byte comes to before it is folded in. -/
private def mixed (low : BitVec 8) : BitVec 8 := low ^^^ (low <<< 4)

/-- The register after such a byte is folded in. -/
private def folded (crc : BitVec 16) (tmp : BitVec 8) : BitVec 16 :=
  (crc >>> 8) ^^^ (tmp.setWidth 16 <<< 8) ^^^ (tmp.setWidth 16 <<< 3) ^^^ (tmp.setWidth 16 >>> 4)

/-- The high byte of the register is that of the byte folded in. -/
private theorem folded_high (crc : BitVec 16) (tmp : BitVec 8) :
    (folded crc tmp >>> 8).setWidth 8 = tmp ^^^ (tmp >>> 5) := by
  unfold folded
  ext index bound
  rw [← BitVec.getLsbD_eq_getElem, ← BitVec.getLsbD_eq_getElem]
  simp only [BitVec.getLsbD_xor, BitVec.getLsbD_setWidth, BitVec.getLsbD_shiftLeft,
    BitVec.getLsbD_ushiftRight]
  have past : crc.getLsbD (8 + (8 + index)) = false := BitVec.getLsbD_of_ge _ _ (by omega)
  grind

/-- Only a zero byte leaves the high byte zero. -/
private theorem mixed_high_zero :
    ∀ low : BitVec 8, mixed low ^^^ (mixed low >>> 5) = 0 → low = 0 := by
  decide

/-- The high byte of the register is zero only when the byte taken was that of the register. -/
theorem crcAccumulate_high {crc : UInt16} {data : UInt8} (zero : crcAccumulate crc data >>> 8 = 0) :
    data = crc.toUInt8 ∧ crcAccumulate crc data = crc >>> 8 := by
  have high := folded_high crc.toBitVec (mixed (data ^^^ crc.toUInt8).toBitVec)
  have register : folded crc.toBitVec (mixed (data ^^^ crc.toUInt8).toBitVec) =
      (crcAccumulate crc data).toBitVec := rfl
  have none : (crcAccumulate crc data).toBitVec >>> 8 = 0 := congrArg UInt16.toBitVec zero
  rw [register, none] at high
  have low : data ^^^ crc.toUInt8 = 0 := UInt8.toBitVec_inj.mp (mixed_high_zero _ high.symm)
  rw [UInt8.xor_eq_zero_iff] at low
  refine ⟨low, ?_⟩
  rw [low]
  simp [crcAccumulate]

/-- The register is zero only after its own low byte, with a high byte of zero. -/
theorem crcAccumulate_eq_zero {crc : UInt16} {data : UInt8} (zero : crcAccumulate crc data = 0) :
    data = crc.toUInt8 ∧ crc >>> 8 = 0 := by
  have ⟨low, rest⟩ := crcAccumulate_high (show crcAccumulate crc data >>> 8 = 0 by rw [zero]; rfl)
  exact ⟨low, by rw [← rest, zero]⟩

/-- A byte keeps two registers apart. -/
theorem crcAccumulate_keeps (data : UInt8) :
    Function.Injective fun crc => crcAccumulate crc data := by
  intro crc crc' same
  change crcAccumulate crc data = crcAccumulate crc' data at same
  have sum := crcAccumulate_xor crc crc' data data
  rw [same, UInt8.xor_self, UInt16.xor_self] at sum
  have ⟨low, high⟩ := crcAccumulate_eq_zero sum
  have bytes := word16_bytes (crc ^^^ crc')
  rw [← low, high] at bytes
  exact UInt16.xor_eq_zero_iff.mp bytes.symm

/-- A register keeps two bytes apart. -/
theorem crcAccumulate_tells (crc : UInt16) : Function.Injective (crcAccumulate crc) := by
  intro data data' same
  have sum := crcAccumulate_xor crc crc data data'
  rw [same, UInt16.xor_self, UInt16.xor_self] at sum
  exact UInt8.xor_eq_zero_iff.mp (crcAccumulate_eq_zero sum).1

/-- A register keeps two bytes in a row apart from two zeros. -/
theorem crcAccumulate_pair {crc : UInt16} {first second : UInt8}
    (same : crcAccumulate (crcAccumulate crc first) second =
      crcAccumulate (crcAccumulate crc 0) 0) : first = 0 ∧ second = 0 := by
  have sum := crcAccumulate_xor (crcAccumulate crc first) (crcAccumulate crc 0) second 0
  rw [same, UInt16.xor_self, ← crcAccumulate_xor, UInt16.xor_self, UInt8.xor_zero,
    UInt8.xor_zero] at sum
  have ⟨low, high⟩ := crcAccumulate_eq_zero sum
  have ⟨zero, rest⟩ := crcAccumulate_high high
  refine ⟨zero, ?_⟩
  rw [low, rest]
  rfl

/-- The two bytes of the register, taken in turn, and no others, empty it. -/
theorem crcAccumulate_residue (crc : UInt16) (low high : UInt8) :
    crcAccumulate (crcAccumulate crc low) high = 0 ↔ crc = word16 low high := by
  have clears : ∀ crc : UInt16, crcAccumulate crc crc.toUInt8 = crc >>> 8 := by
    intro crc
    simp [crcAccumulate]
  constructor
  · intro zero
    have ⟨last, empty⟩ := crcAccumulate_eq_zero zero
    have ⟨first, rest⟩ := crcAccumulate_high empty
    rw [last, rest, first, word16_bytes]
  · intro whole
    have bytes := bytes16_word16 low high
    simp only [bytes16, ← whole, List.cons.injEq, and_true] at bytes
    rw [← bytes.1, clears, ← bytes.2, clears]
    have bound := crc.toNat_lt
    apply UInt16.toNat_inj.mp
    rw [UInt16.toNat_shiftRight, UInt16.toNat_shiftRight]
    show crc.toNat >>> 8 >>> 8 = 0
    rw [Nat.shiftRight_eq_div_pow, Nat.shiftRight_eq_div_pow]
    omega

/-- Data and two bytes more empty the register when the data leave it as the word of these. -/
theorem foldl_residue (data : List UInt8) (low high : UInt8) :
    (data ++ [low, high]).foldl crcAccumulate 0xFFFF = 0 ↔
      data.foldl crcAccumulate 0xFFFF = word16 low high := by
  rw [List.foldl_append]
  exact crcAccumulate_residue _ _ _

/-! ## Frames with any flags and checksum -/

/-- A frame as it is on the line: with the flags of version 2, and two bytes for the checksum. -/
structure LineFrame extends WireFrame where
  incompat : UInt8
  compat : UInt8
  crcLow : UInt8
  crcHigh : UInt8

namespace LineFrame

/-- The bytes between the start marker and the payload. -/
def opening (frame : LineFrame) : List UInt8 :=
  let length := UInt8.ofNat frame.payload.length
  if frame.isV2 then
    [length, frame.incompat, frame.compat, frame.seq, frame.sysId, frame.compId,
      frame.msgId.toUInt8, (frame.msgId >>> 8).toUInt8, (frame.msgId >>> 16).toUInt8]
  else [length, frame.seq, frame.sysId, frame.compId, frame.msgId.toUInt8]

/-- The bytes between the start marker and the checksum. -/
def body (frame : LineFrame) : List UInt8 := frame.opening ++ frame.payload

/-- The bytes on the line. -/
def bytes (frame : LineFrame) : List UInt8 :=
  [if frame.isV2 then stxV2 else stxV1] ++ frame.body ++ [frame.crcLow, frame.crcHigh]

/-- The frame as the parser hands it over. -/
def received (frame : LineFrame) : RxFrame :=
  { frame.toWireFrame.received with receivedCrc := word16 frame.crcLow frame.crcHigh }

/-- A frame is well formed when its checksum is that of its bytes and the constant. -/
def WellFormed (frame : LineFrame) : Prop :=
  (frame.body ++ [frame.crcExtra]).foldl crcAccumulate 0xFFFF = word16 frame.crcLow frame.crcHigh

/-- Whether a byte of the frame is one of the message identifier. -/
def namesMessage (frame : LineFrame) (place : Nat) : Prop :=
  if frame.isV2 then 7 ≤ place ∧ place ≤ 9 else place = 5

/-- The bytes that the checksum is made over, followed by the checksum. -/
def codeword (frame : LineFrame) : List UInt8 :=
  frame.body ++ [frame.crcExtra, frame.crcLow, frame.crcHigh]

/-- The same with zeros for the flags, as the check takes them. -/
def checked (frame : LineFrame) : List UInt8 :=
  frame.covered ++ [frame.crcExtra, frame.crcLow, frame.crcHigh]

/-- The parser takes the flags of version 2 without keeping them. -/
theorem feed_flags {p : Parser} (waiting : p.state = .waitStx) (length incompat compat : UInt8)
    (rest : List UInt8) :
    feed parseByte p (stxV2 :: length :: incompat :: compat :: rest) =
      feed parseByte p (stxV2 :: length :: 0 :: 0 :: rest) := by
  have small : ¬ length.toNat > maxPayloadLen :=
    Nat.not_lt.mpr (Nat.le_of_lt_succ (UInt8.toNat_lt _))
  have other : stxV2 ≠ stxV1 := by decide
  simp only [feed, parseByte, waiting, other, if_false, if_true, small]

/-- A frame is handed over whatever its flags and its checksum are. -/
theorem feed_bytes (frame : LineFrame) {p : Parser} (waiting : p.state = .waitStx) :
    feed parseByte p frame.bytes = (resetParser, [.frame frame.received]) := by
  rw [received, ← feed_checksum frame.toWireFrame waiting, bytes, body, opening,
    WireFrame.covered]
  by_cases second : frame.isV2 = true
  · simp only [second, if_true]
    exact feed_flags waiting _ _ _ _
  · simp [second]

/-- The checksum of a frame is right when its codeword, with zeros for the flags, empties the
register. -/
theorem checks_iff (frame : LineFrame) {kind : MessageKind}
    (constant : frame.crcExtra = kind.crcExtra) :
    frame.received.checks kind = true ↔ frame.checked.foldl crcAccumulate 0xFFFF = 0 := by
  have covered : frame.received.covered = frame.covered := frame.toWireFrame.received_covered
  have split : frame.checked = frame.covered ++ [frame.crcExtra] ++ [frame.crcLow, frame.crcHigh] :=
    by simp [checked]
  rw [RxFrame.checks, beq_iff_eq, computeFrameCrc, covered, ← constant, split, foldl_residue]
  exact Iff.rfl

/-- A frame is well formed when its codeword empties the register. -/
theorem wellFormed_iff (frame : LineFrame) :
    frame.WellFormed ↔ frame.codeword.foldl crcAccumulate 0xFFFF = 0 := by
  have split : frame.codeword = frame.body ++ [frame.crcExtra] ++ [frame.crcLow, frame.crcHigh] :=
    by simp [codeword]
  rw [WellFormed, split, foldl_residue]

/-- Where a byte of the frame is in its codeword, which has the constant before the checksum. -/
def codePlace (frame : LineFrame) (place : Nat) : Nat :=
  if place ≤ frame.body.length then place - 1 else place

/-- One frame is another one with a byte changed. -/
structure Changes (frame : LineFrame) (place : Nat) (byte : UInt8) (arrived : LineFrame) :
    Prop where
  bytes : frame.bytes.set place byte = arrived.bytes
  codeword : arrived.codeword = frame.codeword.set (frame.codePlace place) byte
  isV2 : arrived.isV2 = frame.isV2
  msgId : arrived.msgId = frame.msgId
  crcExtra : arrived.crcExtra = frame.crcExtra

/-- The bytes before the payload are nine or five. -/
theorem length_opening (frame : LineFrame) :
    frame.opening.length = if frame.isV2 then 9 else 5 := by
  unfold opening
  by_cases second : frame.isV2 = true
  · simp [second]
  · simp [second]

/-- A byte in the middle of a list is changed there. -/
private theorem set_middle (before middle after : List UInt8) {index : Nat}
    (inside : index < middle.length) (byte : UInt8) :
    (before ++ middle ++ after).set (before.length + index) byte =
      before ++ middle.set index byte ++ after := by
  rw [List.append_assoc, List.set_append_right _ _ (Nat.le_add_right _ _), Nat.add_sub_cancel_left,
    List.set_append_left _ _ inside, List.append_assoc]

/-- A frame whose body differs in one byte is one with that byte changed. -/
theorem changes_of_body {frame arrived : LineFrame} {index : Nat} {byte : UInt8}
    (inside : index < frame.body.length) (isV2 : arrived.isV2 = frame.isV2)
    (msgId : arrived.msgId = frame.msgId) (crcExtra : arrived.crcExtra = frame.crcExtra)
    (crcLow : arrived.crcLow = frame.crcLow) (crcHigh : arrived.crcHigh = frame.crcHigh)
    (body : arrived.body = frame.body.set index byte) :
    frame.Changes (index + 1) byte arrived := by
  have first : frame.codePlace (index + 1) = index := by
    rw [codePlace, if_pos (Nat.succ_le_of_lt inside), Nat.add_sub_cancel]
  constructor
  · rw [bytes, bytes, body, isV2, crcLow, crcHigh, Nat.add_comm]
    exact set_middle [_] _ _ inside byte
  · rw [first, codeword, codeword, body, crcExtra, crcLow, crcHigh]
    exact (List.set_append_left _ _ inside).symm
  · exact isV2
  · exact msgId
  · exact crcExtra

/-- A byte of the payload can be changed. -/
theorem changes_payload (frame : LineFrame) {index : Nat} (inside : index < frame.payload.length)
    (byte : UInt8) :
    ∃ arrived, frame.Changes (frame.opening.length + index + 1) byte arrived := by
  have fits : (frame.payload.set index byte).length ≤ maxPayloadLen := by
    rw [List.length_set]
    exact frame.fits
  let arrived : LineFrame := { frame with payload := frame.payload.set index byte, fits := fits }
  have same : arrived.opening = frame.opening := by simp [arrived, opening]
  refine ⟨arrived, changes_of_body ?_ rfl rfl rfl rfl rfl ?_⟩
  · rw [body, List.length_append]
    omega
  · rw [body, body, same, List.set_append_right _ _ (Nat.le_add_right _ _), Nat.add_sub_cancel_left]

/-- A byte before the payload that is neither the length nor of the identifier can be changed. -/
theorem changes_opening (frame : LineFrame) {index : Nat} (inside : index < frame.opening.length)
    (later : index ≠ 0) (free : ¬ frame.namesMessage (index + 1)) (byte : UInt8) :
    ∃ arrived, frame.Changes (index + 1) byte arrived := by
  have short : index < frame.body.length := by
    rw [body, List.length_append]
    omega
  unfold namesMessage at free
  rw [length_opening] at inside
  by_cases second : frame.isV2 = true
  · rw [if_pos second] at inside free
    have each : index = 1 ∨ index = 2 ∨ index = 3 ∨ index = 4 ∨ index = 5 := by omega
    rcases each with rfl | rfl | rfl | rfl | rfl
    · exact ⟨{ frame with incompat := byte }, changes_of_body short rfl rfl rfl rfl rfl
        (by simp [body, opening, second])⟩
    · exact ⟨{ frame with compat := byte }, changes_of_body short rfl rfl rfl rfl rfl
        (by simp [body, opening, second])⟩
    · exact ⟨{ frame with seq := byte }, changes_of_body short rfl rfl rfl rfl rfl
        (by simp [body, opening, second])⟩
    · exact ⟨{ frame with sysId := byte }, changes_of_body short rfl rfl rfl rfl rfl
        (by simp [body, opening, second])⟩
    · exact ⟨{ frame with compId := byte }, changes_of_body short rfl rfl rfl rfl rfl
        (by simp [body, opening, second])⟩
  · rw [if_neg second] at inside free
    have each : index = 1 ∨ index = 2 ∨ index = 3 := by omega
    rcases each with rfl | rfl | rfl
    · exact ⟨{ frame with seq := byte }, changes_of_body short rfl rfl rfl rfl rfl
        (by simp [body, opening, second])⟩
    · exact ⟨{ frame with sysId := byte }, changes_of_body short rfl rfl rfl rfl rfl
        (by simp [body, opening, second])⟩
    · exact ⟨{ frame with compId := byte }, changes_of_body short rfl rfl rfl rfl rfl
        (by simp [body, opening, second])⟩

/-- A byte of the checksum can be changed. -/
theorem changes_checksum (frame : LineFrame) {place : Nat} (past : frame.body.length < place)
    (inside : place < frame.bytes.length) (byte : UInt8) :
    ∃ arrived, frame.Changes place byte arrived := by
  have late : frame.codePlace place = place := by
    rw [codePlace, if_neg (by omega)]
  have line : (frame.body ++ [frame.crcExtra]).length = frame.body.length + 1 := by simp
  have code : frame.codeword = frame.body ++ [frame.crcExtra] ++ [frame.crcLow, frame.crcHigh] :=
    by simp [codeword]
  have all : frame.bytes.length = frame.body.length + 3 := by
    simp [bytes]
  have marker : ([if frame.isV2 then stxV2 else stxV1] ++ frame.body).length =
      frame.body.length + 1 := by
    simp
  have each : place = frame.body.length + 1 ∨ place = frame.body.length + 2 := by omega
  rcases each with rfl | rfl
  · refine ⟨{ frame with crcLow := byte }, ?_, ?_, rfl, rfl, rfl⟩
    · rw [bytes, List.set_append_right _ _ (by omega), marker]
      simp [bytes, body, opening]
    · rw [late, code, List.set_append_right _ _ (by omega), line]
      simp [codeword, body, opening]
  · refine ⟨{ frame with crcHigh := byte }, ?_, ?_, rfl, rfl, rfl⟩
    · rw [bytes, List.set_append_right _ _ (by omega), marker]
      simp [bytes, body, opening]
    · rw [late, code, List.set_append_right _ _ (by omega), line]
      simp [codeword, body, opening]

/-- Every byte but the start marker, the length and the identifier can be changed. -/
theorem exists_changes (frame : LineFrame) {place : Nat} (inside : place < frame.bytes.length)
    (later : place ≠ 0 ∧ place ≠ 1) (free : ¬ frame.namesMessage place) (byte : UInt8) :
    ∃ arrived, frame.Changes place byte arrived := by
  have length : frame.body.length = frame.opening.length + frame.payload.length := by
    rw [body, List.length_append]
  by_cases past : frame.body.length < place
  · exact frame.changes_checksum past inside byte
  · by_cases early : place ≤ frame.opening.length
    · have next : place = place - 1 + 1 := by omega
      rw [next] at free ⊢
      exact frame.changes_opening (by omega) (by omega) free byte
    · have next : place = frame.opening.length + (place - frame.opening.length - 1) + 1 := by
        omega
      rw [next]
      exact frame.changes_payload (by omega) byte

/-! ## What the check finds out -/

/-- The difference between what the checksum was made over and what it is checked over, when a
byte of a frame of version 2 changes. -/
def difference (frame : LineFrame) (place : Nat) (byte : UInt8) : List UInt8 :=
  List.zipWith (· ^^^ ·) frame.codeword
    (((frame.codeword.set (frame.codePlace place) byte).set 1 0).set 2 0)

/-- The changes of a byte that are found out: all but those of zero flags of version 2. Flags that
are not zeros are found out themselves, unless the change makes up for them. -/
def Caught (frame : LineFrame) (place : Nat) (byte : UInt8) : Prop :=
  if frame.isV2 = false then True
  else if frame.incompat = 0 ∧ frame.compat = 0 then place ≠ 2 ∧ place ≠ 3
  else place = 2 ∨ place = 3 ∨ (frame.difference place byte).foldl crcAccumulate 0 ≠ 0

/-- The codeword has the bytes of the frame. -/
theorem codeword_getElem? (frame : LineFrame) {place : Nat} (later : place ≠ 0) :
    frame.codeword[frame.codePlace place]? = frame.bytes[place]? := by
  have next : place = place - 1 + 1 := by omega
  have tail : frame.bytes[place]? = (frame.body ++ [frame.crcLow, frame.crcHigh])[place - 1]? := by
    rw [next, bytes, List.append_assoc]
    exact List.getElem?_cons_succ
  rw [tail, codeword, codePlace]
  by_cases early : place ≤ frame.body.length
  · rw [if_pos early, List.getElem?_append_left (by omega), List.getElem?_append_left (by omega)]
  · have past : place - frame.body.length = place - 1 - frame.body.length + 1 := by omega
    rw [if_neg early, List.getElem?_append_right (by omega), List.getElem?_append_right (by omega),
      past]
    exact List.getElem?_cons_succ

/-- A changed byte is within the codeword. -/
theorem codePlace_lt (frame : LineFrame) {place : Nat} (later : place ≠ 0)
    (inside : place < frame.bytes.length) : frame.codePlace place < frame.codeword.length := by
  have at_place := frame.codeword_getElem? later
  rw [List.getElem?_eq_getElem inside] at at_place
  exact (List.getElem?_eq_some_iff.mp at_place).1

/-- The check of version 1 takes the codeword. -/
theorem checked_first {frame : LineFrame} (first : frame.isV2 = false) :
    frame.checked = frame.codeword := by
  simp [checked, codeword, body, opening, WireFrame.covered, first]

/-- The codeword of version 2 begins with the length and the flags. -/
theorem codeword_second {frame : LineFrame} (second : frame.isV2 = true) :
    ∃ length rest, frame.codeword = length :: frame.incompat :: frame.compat :: rest ∧
      frame.checked = length :: 0 :: 0 :: rest := by
  simp only [codeword, body, opening, checked, WireFrame.covered, second, if_true]
  exact ⟨_, _, rfl, rfl⟩

/-- The check of version 2 takes the codeword with zeros for the flags. -/
theorem checked_second {frame : LineFrame} (second : frame.isV2 = true) :
    frame.checked = (frame.codeword.set 1 0).set 2 0 := by
  have ⟨length, rest, code, zeros⟩ := codeword_second second
  rw [zeros, code]
  rfl

/-- A frame whose codeword is that of a well-formed one with a byte changed empties no
register. -/
theorem changed_ne_zero {frame : LineFrame} (formed : frame.WellFormed) {place : Nat}
    (inside : place < frame.bytes.length) (later : place ≠ 0) {byte : UInt8}
    (other : frame.bytes[place]? ≠ some byte) :
    (frame.codeword.set (frame.codePlace place) byte).foldl crcAccumulate 0xFFFF ≠ 0 := by
  have differs := Crc.foldl_set_ne crcAccumulate_keeps crcAccumulate_tells
    (frame.codePlace_lt later inside) (by rwa [frame.codeword_getElem? later]) 0xFFFF
  rwa [frame.wellFormed_iff.mp formed] at differs

/-- A flag that changes is not seen. -/
theorem checked_of_flag {frame arrived : LineFrame} {place : Nat} {byte : UInt8}
    (changes : frame.Changes place byte arrived) (second : frame.isV2 = true)
    (flag : place = 2 ∨ place = 3) : arrived.checked = frame.checked := by
  have long : frame.body.length = 9 + frame.payload.length := by
    rw [body, List.length_append, length_opening, if_pos second]
  have early : frame.codePlace place = place - 1 := by
    rw [codePlace, if_pos (by omega)]
  have ⟨length, rest, code, zeros⟩ := codeword_second second
  rw [checked_second (changes.isV2.trans second), changes.codeword, early, zeros, code]
  rcases flag with rfl | rfl
  · rfl
  · rfl

/-- Flags that are not zeros are found out. -/
theorem checked_ne_zero {frame : LineFrame} (formed : frame.WellFormed)
    (second : frame.isV2 = true) (flags : ¬ (frame.incompat = 0 ∧ frame.compat = 0)) :
    frame.checked.foldl crcAccumulate 0xFFFF ≠ 0 := by
  have ⟨length, rest, code, zeros⟩ := codeword_second second
  have empty := frame.wellFormed_iff.mp formed
  intro same
  rw [code] at empty
  rw [zeros, ← empty] at same
  have both := Crc.foldl_injective crcAccumulate_keeps rest same
  exact flags (crcAccumulate_pair both.symm)

/-- A change is found out by the check exactly when it is among these. -/
theorem caught_iff {frame arrived : LineFrame} {place : Nat} {byte : UInt8}
    (formed : frame.WellFormed) (inside : place < frame.bytes.length)
    (later : place ≠ 0 ∧ place ≠ 1) (other : frame.bytes[place]? ≠ some byte)
    (changes : frame.Changes place byte arrived) :
    arrived.checked.foldl crcAccumulate 0xFFFF ≠ 0 ↔ frame.Caught place byte := by
  unfold Caught
  by_cases first : frame.isV2 = false
  · rw [if_pos first, checked_first (changes.isV2.trans first), changes.codeword]
    exact iff_of_true (changed_ne_zero formed inside later.1 other) trivial
  · have second : frame.isV2 = true := Bool.eq_true_of_not_eq_false first
    rw [if_neg first]
    by_cases flags : frame.incompat = 0 ∧ frame.compat = 0
    · rw [if_pos flags]
      have ⟨length, rest, code, zeros⟩ := codeword_second second
      rw [flags.1, flags.2, ← zeros] at code
      by_cases flag : place = 2 ∨ place = 3
      · rw [checked_of_flag changes second flag, ← code]
        have empty := frame.wellFormed_iff.mp formed
        exact iff_of_false (fun differs => differs empty) (by omega)
      · have past : ∃ index, frame.codePlace place = index + 3 := by
          refine ⟨frame.codePlace place - 3, ?_⟩
          unfold codePlace
          split <;> omega
        have ⟨index, same⟩ := past
        have differs := changed_ne_zero formed inside later.1 other
        rw [checked_second (changes.isV2.trans second), changes.codeword]
        rw [code, zeros, same] at differs ⊢
        exact iff_of_true differs (by omega)
    · rw [if_neg flags]
      by_cases flag : place = 2 ∨ place = 3
      · rw [checked_of_flag changes second flag]
        exact iff_of_true (checked_ne_zero formed second flags) (by omega)
      · have sum : (frame.difference place byte).foldl crcAccumulate 0 =
            frame.codeword.foldl crcAccumulate 0xFFFF ^^^
              arrived.checked.foldl crcAccumulate 0xFFFF := by
          rw [difference, ← changes.codeword, ← checked_second (changes.isV2.trans second)]
          refine Crc.foldl_zipWith crcAccumulate_xor ?_ 0xFFFF 0xFFFF
          rw [checked_second (changes.isV2.trans second), changes.codeword]
          simp
        rw [sum, frame.wellFormed_iff.mp formed, UInt16.zero_xor]
        constructor
        · exact fun differs => .inr (.inr differs)
        · intro found
          have ⟨notFirst, notSecond⟩ := not_or.mp flag
          exact (found.resolve_left notFirst).resolve_left notSecond

/-- The frame of a message with the checksum of its bytes. -/
def withChecksum (wire : WireFrame) (incompat compat : UInt8) : LineFrame :=
  let frame : LineFrame := { wire with
    incompat := incompat
    compat := compat
    crcLow := 0
    crcHigh := 0 }
  let crc := (frame.body ++ [frame.crcExtra]).foldl crcAccumulate 0xFFFF
  { frame with crcLow := crc.toUInt8, crcHigh := (crc >>> 8).toUInt8 }

/-- Such a frame is well formed. -/
theorem withChecksum_wellFormed (wire : WireFrame) (incompat compat : UInt8) :
    (withChecksum wire incompat compat).WellFormed := (word16_bytes _).symm

end LineFrame

/-- The messages that a complete frame is handled as. -/
def handledKinds : List MessageKind :=
  [.heartbeat, .commandAck, .attitude, .localPositionNed, .globalPositionInt, .gpsRawInt,
    .ekfStatusReport, .sysTime, .missionRequestInt, .missionRequest, .missionAck, .missionCount,
    .missionItemInt, .missionCurrent]

/-- These messages have identifiers of their own. -/
theorem handledKinds_unique : ∀ kind ∈ handledKinds, ∀ kind' ∈ handledKinds,
    kind.id = kind'.id → kind = kind' := by
  decide

/-- The state messages are among them. -/
theorem mem_handledKinds_of_telemetry : ∀ handler ∈ telemetryHandlers,
    handler.1 ∈ handledKinds := by
  simp [telemetryHandlers, handledKinds]

/-- A frame comes to nothing but an error that is counted and logged. -/
def RxFrame.Ignored (frame : RxFrame) : Prop :=
  ∀ (env : Env) (rxTimestampMs : UInt32) (s : State),
    handleFrameComplete env frame rxTimestampMs s = s ∨
      ∃ logged, handleFrameComplete env frame rxTimestampMs s = { s with
        lastErrorCode := .parseFail
        parseErrorCount := s.parseErrorCount + 1
        events := logged ++ s.events }

/-- An error that is counted after some events is logged with them. -/
theorem recordParseError_logged (logged : List Event) (s : State) :
    ∃ logged', recordParseError .parseFail { s with events := logged ++ s.events } = { s with
      lastErrorCode := .parseFail
      parseErrorCount := s.parseErrorCount + 1
      events := logged' ++ s.events } :=
  ⟨⟨.parse, .information,
    s!"MAVLINK_BRIDGE_APP: Parse/data error code={ErrorCode.parseFail.code}"⟩ :: logged, rfl⟩

/-- A frame of a handled message whose check fails is ignored. -/
theorem ignored_of_fails {frame : RxFrame} {kind : MessageKind} (handled : kind ∈ handledKinds)
    (own : frame.msgId = kind.id) (fails : frame.checks kind = false) : frame.Ignored := by
  intro env rxTimestampMs s
  have wrong : ∀ kind' ∈ handledKinds, frame.msgId = kind'.id → ¬ frame.checks kind' = true := by
    intro kind' handled' own' checks
    have same := handledKinds_unique kind handled kind' handled' (own.symm.trans own')
    rw [← same, fails] at checks
    exact Bool.false_ne_true checks
  have refused : ∀ kind' ∈ handledKinds, frame.msgId = kind'.id → ∀ least : UInt8,
      ¬ (frame.checks kind' = true ∧ frame.payloadLen ≥ least) :=
    fun kind' handled' own' _ both => wrong kind' handled' own' both.1
  have counted := recordParseError_logged [] s
  have handles := handleFrameComplete_handles env frame rxTimestampMs s
  generalize handleFrameComplete env frame rxTimestampMs s = s' at handles ⊢
  cases handles with
  | heartbeat own =>
    rw [handleHeartbeat, if_neg (wrong .heartbeat (by decide) own.1)]
    exact .inr counted
  | commandAck own =>
    rw [handleCommandAck, if_neg (refused .commandAck (by decide) own 3)]
    exact .inr counted
  | telemetry listed own =>
    rw [handleTelemetry, if_neg (wrong _ (mem_handledKinds_of_telemetry _ listed) own)]
    exact .inr (recordParseError_logged [_] s)
  | missionRequestInt own =>
    rw [handleMissionRequestInt, if_neg (refused .missionRequestInt (by decide) own 2)]
    exact .inr counted
  | missionRequest own =>
    rw [handleMissionRequest, if_neg (refused .missionRequest (by decide) own 2)]
    exact .inr (recordParseError_logged [_] s)
  | missionAck own =>
    rw [handleMissionAck, if_neg (refused .missionAck (by decide) own 2)]
    exact .inr counted
  | missionCount own waiting =>
    rw [handleMissionCount, if_neg (refused .missionCount (by decide) own 2)]
    exact .inr counted
  | missionItemInt own waiting =>
    rw [handleMissionItemInt, if_neg (refused .missionItemInt (by decide) own 32)]
    exact .inr counted
  | missionCurrent own =>
    rw [handleMissionCurrent, if_neg (refused .missionCurrent (by decide) own 2)]
    exact .inr counted
  | nothing noBeat noTelemetry noCurrent => exact .inl rfl

/-- Changing one byte of a well-formed frame of a handled message, other than the start marker, the
length and the identifier, hands over one frame of the same message; and it is refused by the check,
and ignored, exactly when the change is among those that are found out. The parser does not keep the
flags of a frame, and the check counts them as zeros. -/
theorem changed_byte_refused_iff (frame : LineFrame) {kind : MessageKind}
    (handled : kind ∈ handledKinds) (own : frame.msgId = kind.id)
    (constant : frame.crcExtra = kind.crcExtra) (formed : frame.WellFormed) {place : Nat}
    {byte : UInt8} (inside : place < frame.bytes.length) (later : place ≠ 0 ∧ place ≠ 1)
    (free : ¬ frame.namesMessage place) (other : frame.bytes[place]? ≠ some byte) {p : Parser}
    (waiting : p.state = .waitStx) :
    ∃ arrived : RxFrame,
      feed parseByte p (frame.bytes.set place byte) = (resetParser, [.frame arrived]) ∧
      arrived.msgId = kind.id ∧
      (arrived.checks kind = false ∧ arrived.Ignored ↔ frame.Caught place byte) := by
  have ⟨arrived, changes⟩ := frame.exists_changes inside later free byte
  have id : arrived.received.msgId = kind.id := changes.msgId.trans own
  refine ⟨arrived.received, ?_, id, ?_⟩
  · rw [changes.bytes]
    exact arrived.feed_bytes waiting
  · rw [← LineFrame.caught_iff formed inside later other changes, ne_eq,
      ← arrived.checks_iff (changes.crcExtra.trans constant), Bool.not_eq_true]
    exact and_iff_left_of_imp fun fails => ignored_of_fails handled id fails

/-- A heartbeat of an armed flight controller. -/
def armedHeartbeat : WireFrame where
  isV2 := true
  seq := 0
  sysId := 1
  compId := 1
  msgId := MessageKind.heartbeat.id
  payload := [0, 0, 0, 0, 2, 3, 0x80, 4, 3]
  crcExtra := MessageKind.heartbeat.crcExtra
  fits := by decide
  named := heartbeat_named

/-- A changed sequence number of a heartbeat is refused, a changed flag is not. -/
theorem changed_byte_refused_iff_heartbeat :
    (∃ arrived : RxFrame,
      feed parseByte resetParser ((LineFrame.withChecksum armedHeartbeat 0 0).bytes.set 4 9) =
        (resetParser, [.frame arrived]) ∧
      arrived.msgId = MessageKind.heartbeat.id ∧
      (arrived.checks .heartbeat = false ∧ arrived.Ignored ↔
        (LineFrame.withChecksum armedHeartbeat 0 0).Caught 4 9)) ∧
    (LineFrame.withChecksum armedHeartbeat 0 0).Caught 4 9 ∧
    ¬ (LineFrame.withChecksum armedHeartbeat 0 0).Caught 2 1 := by
  refine ⟨changed_byte_refused_iff _ (by decide) rfl rfl
    (LineFrame.withChecksum_wellFormed _ 0 0) (by decide +kernel) (by decide)
    (by unfold LineFrame.namesMessage; decide) (by decide +kernel) rfl, ?_, ?_⟩
  · unfold LineFrame.Caught
    decide +kernel
  · unfold LineFrame.Caught
    decide +kernel

/-- A heartbeat whose flag byte changed on the line passes the check and connects the link: not
every changed byte is refused. -/
theorem changed_flag_accepted : ¬ ∀ (frame : LineFrame) (kind : MessageKind),
    kind ∈ handledKinds → frame.msgId = kind.id → frame.crcExtra = kind.crcExtra →
    frame.WellFormed → ∀ (place : Nat) (byte : UInt8), place < frame.bytes.length →
      place ≠ 0 ∧ place ≠ 1 → ¬ frame.namesMessage place → frame.bytes[place]? ≠ some byte →
        ∀ p : Parser, p.state = .waitStx → ∃ arrived : RxFrame,
          feed parseByte p (frame.bytes.set place byte) = (resetParser, [.frame arrived]) ∧
          arrived.checks kind = false ∧ arrived.Ignored := by
  intro always
  have ⟨arrived, handed, fails, _⟩ := always (LineFrame.withChecksum armedHeartbeat 0 0)
    .heartbeat (by decide) rfl rfl (LineFrame.withChecksum_wellFormed _ 0 0) 2 1
    (by decide +kernel) (by decide) (by unfold LineFrame.namesMessage; decide) (by decide +kernel)
    resetParser rfl
  have changed : (LineFrame.withChecksum armedHeartbeat 0 0).bytes.set 2 1 =
      ({ LineFrame.withChecksum armedHeartbeat 0 0 with incompat := 1 } : LineFrame).bytes := by
    decide +kernel
  rw [changed, LineFrame.feed_bytes _ rfl] at handed
  simp only [Prod.mk.injEq, true_and, List.cons.injEq, and_true, ParseItem.frame.injEq] at handed
  rw [← handed] at fails
  revert fails
  decide +kernel

end CfsTelemetry.Bridge
