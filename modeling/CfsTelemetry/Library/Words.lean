import Mathlib.Data.UInt

/-!
# Little-endian words

Words of two and four bytes, least significant byte first, with the law that a word written
as bytes is read back.
-/
namespace CfsTelemetry.Words

/-- The 16-bit word of two bytes. -/
def word16 (b0 b1 : UInt8) : UInt16 := b0.toUInt16 ||| (b1.toUInt16 <<< 8)

/-- The 32-bit word of four bytes. -/
def word32 (b0 b1 b2 b3 : UInt8) : UInt32 :=
  b0.toUInt32 ||| (b1.toUInt32 <<< 8) ||| (b2.toUInt32 <<< 16) ||| (b3.toUInt32 <<< 24)

/-- The bytes of a 16-bit word. -/
def bytes16 (word : UInt16) : List UInt8 := [word.toUInt8, (word >>> 8).toUInt8]

/-- The bytes of a 32-bit word. -/
def bytes32 (word : UInt32) : List UInt8 :=
  [word.toUInt8, (word >>> 8).toUInt8, (word >>> 16).toUInt8, (word >>> 24).toUInt8]

/-- Read a 32-bit word from the front of a list, returning the bytes after it. -/
def take32 : List UInt8 → Option (UInt32 × List UInt8)
  | b0 :: b1 :: b2 :: b3 :: rest => some (word32 b0 b1 b2 b3, rest)
  | _ => none

/-- A word that is read takes four bytes. -/
theorem take32_length {bytes rest : List UInt8} {word : UInt32}
    (read : take32 bytes = some (word, rest)) : bytes.length = rest.length + 4 := by
  unfold take32 at read
  split at read
  · cases read
    rfl
  · cases read

/-- The two bytes of a word, each moved back to its place, make up the word. -/
private theorem halves_union (word : BitVec 16) :
    (word.setWidth 8).setWidth 16 ||| ((word >>> 8).setWidth 8).setWidth 16 <<< 8 = word := by
  ext index bound
  rw [← BitVec.getLsbD_eq_getElem, ← BitVec.getLsbD_eq_getElem]
  simp only [BitVec.getLsbD_or, BitVec.getLsbD_setWidth, BitVec.getLsbD_shiftLeft,
    BitVec.getLsbD_ushiftRight]
  grind

/-- A 16-bit word is the word of its bytes. -/
theorem word16_bytes (word : UInt16) : word16 word.toUInt8 (word >>> 8).toUInt8 = word := by
  apply UInt16.toBitVec_inj.mp
  exact halves_union word.toBitVec

/-- Each half is read back from its place. -/
private theorem halves_bytes (b0 b1 : BitVec 8) :
    (b0.setWidth 16 ||| b1.setWidth 16 <<< 8).setWidth 8 = b0 ∧
      ((b0.setWidth 16 ||| b1.setWidth 16 <<< 8) >>> 8).setWidth 8 = b1 := by
  refine ⟨?_, ?_⟩ <;>
  · ext index bound
    rw [← BitVec.getLsbD_eq_getElem, ← BitVec.getLsbD_eq_getElem]
    simp only [BitVec.getLsbD_or, BitVec.getLsbD_setWidth, BitVec.getLsbD_shiftLeft,
      BitVec.getLsbD_ushiftRight]
    grind

/-- The bytes of the word of two bytes are these bytes. -/
theorem bytes16_word16 (b0 b1 : UInt8) : bytes16 (word16 b0 b1) = [b0, b1] := by
  have ⟨first, second⟩ := halves_bytes b0.toBitVec b1.toBitVec
  simp only [bytes16, List.cons.injEq, and_true]
  exact ⟨UInt8.toBitVec_inj.mp first, UInt8.toBitVec_inj.mp second⟩

/-- The four bytes of a word, each moved back to its place, make up the word. -/
private theorem places_union (word : BitVec 32) :
    (word.setWidth 8).setWidth 32 ||| ((word >>> 8).setWidth 8).setWidth 32 <<< 8 |||
      ((word >>> 16).setWidth 8).setWidth 32 <<< 16 |||
      ((word >>> 24).setWidth 8).setWidth 32 <<< 24 = word := by
  ext index bound
  rw [← BitVec.getLsbD_eq_getElem, ← BitVec.getLsbD_eq_getElem]
  -- Bit `index` of the word is bit `index % 8` of byte `index / 8`.
  simp only [BitVec.getLsbD_or, BitVec.getLsbD_setWidth, BitVec.getLsbD_shiftLeft,
    BitVec.getLsbD_ushiftRight]
  grind

/-- A word is the word of its bytes. -/
theorem word32_bytes (word : UInt32) :
    word32 word.toUInt8 (word >>> 8).toUInt8 (word >>> 16).toUInt8 (word >>> 24).toUInt8
      = word := by
  apply UInt32.toBitVec_inj.mp
  exact places_union word.toBitVec

/-- Four bytes, each moved to its place in a word. -/
private def places (b0 b1 b2 b3 : BitVec 8) : BitVec 32 :=
  b0.setWidth 32 ||| b1.setWidth 32 <<< 8 ||| b2.setWidth 32 <<< 16 ||| b3.setWidth 32 <<< 24

/-- Each byte is read back from its place. -/
private theorem places_bytes (b0 b1 b2 b3 : BitVec 8) :
    (places b0 b1 b2 b3).setWidth 8 = b0 ∧ (places b0 b1 b2 b3 >>> 8).setWidth 8 = b1 ∧
      (places b0 b1 b2 b3 >>> 16).setWidth 8 = b2 ∧
      (places b0 b1 b2 b3 >>> 24).setWidth 8 = b3 := by
  unfold places
  refine ⟨?_, ?_, ?_, ?_⟩ <;>
  · ext index bound
    rw [← BitVec.getLsbD_eq_getElem, ← BitVec.getLsbD_eq_getElem]
    simp only [BitVec.getLsbD_or, BitVec.getLsbD_setWidth, BitVec.getLsbD_shiftLeft,
      BitVec.getLsbD_ushiftRight]
    grind

/-- The bytes of the word of four bytes are these bytes. -/
theorem bytes32_word32 (b0 b1 b2 b3 : UInt8) :
    bytes32 (word32 b0 b1 b2 b3) = [b0, b1, b2, b3] := by
  have ⟨first, second, third, fourth⟩ :=
    places_bytes b0.toBitVec b1.toBitVec b2.toBitVec b3.toBitVec
  simp only [bytes32, List.cons.injEq, and_true]
  exact ⟨UInt8.toBitVec_inj.mp first, UInt8.toBitVec_inj.mp second, UInt8.toBitVec_inj.mp third,
    UInt8.toBitVec_inj.mp fourth⟩

/-- A written word is read back with the bytes after it. -/
theorem take32_bytes32 (word : UInt32) (rest : List UInt8) :
    take32 (bytes32 word ++ rest) = some (word, rest) := by
  simp [take32, bytes32, word32_bytes]

/-- Words with the same bytes are the same. -/
theorem bytes32_injective : Function.Injective bytes32 := by
  intro first second same
  have back := congrArg take32 same
  have whole (word : UInt32) : take32 (bytes32 word) = some (word, []) := by
    have read := take32_bytes32 word []
    rwa [List.append_nil] at read
  rw [whole, whole] at back
  exact congrArg Prod.fst (Option.some.inj back)

/-- A byte that is not the last one has a successor. -/
theorem byte_succ {byte : UInt8} (below : byte.toNat < 255) :
    (byte + 1).toNat = byte.toNat + 1 := by
  rw [UInt8.toNat_add, UInt8.toNat_one]
  omega

end CfsTelemetry.Words
