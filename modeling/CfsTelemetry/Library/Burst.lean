import CfsTelemetry.Library.Crc

/-!
# Burst errors

The register of a CRC takes the bits of a string one at a time, the most significant bit of each
byte first. It is linear, and a shift loses nothing when the polynomial is odd. So two strings
that differ in at most sixteen bits in a row leave different registers: after the first bit that
differs the difference of the registers is the polynomial, and a register that the next fifteen
bits empty is even.
-/
namespace CfsTelemetry.Crc

/-- The bits of a byte, most significant first. -/
def bits (byte : UInt8) : List Bool := (List.range 8).map byte.toBitVec.getMsbD

/-- The bits of a string, in the order in which a register takes them. -/
def bitsOf (bytes : List UInt8) : List Bool := bytes.flatMap bits

/-- The highest bit of a register that takes a bit. -/
def topBit (bit : Bool) : UInt16 := if bit then 0x8000 else 0

/-- Fold one bit into the register. -/
def feedBit (polynomial crc : UInt16) (bit : Bool) : UInt16 :=
  shift polynomial (crc ^^^ topBit bit)

/-- Two strings of one length differ, in bits that lie within sixteen in a row. -/
structure Burst (data data' : List UInt8) : Prop where
  length : data.length = data'.length
  differs : data ≠ data'
  within : ∃ start, ∀ place, (bitsOf data)[place]? ≠ (bitsOf data')[place]? →
    start ≤ place ∧ place < start + 16

/-- A byte has eight bits. -/
theorem length_bits (byte : UInt8) : (bits byte).length = 8 := by
  rw [bits, List.length_map, List.length_range]

/-- A byte is told by its bits. -/
theorem bits_injective : Function.Injective bits := by
  intro byte byte' same
  apply UInt8.toBitVec_inj.mp
  apply BitVec.eq_of_getMsbD_eq
  intro place inside
  have bit := congrArg (fun list => list[place]?) same
  simpa [bits, inside] using bit

/-- A string is told by its bits. -/
theorem bitsOf_injective {data data' : List UInt8} (length : data.length = data'.length)
    (same : bitsOf data = bitsOf data') : data = data' := by
  induction data generalizing data' with
  | nil => exact (List.eq_nil_of_length_eq_zero length.symm).symm
  | cons byte rest previous =>
    cases data' with
    | nil => exact absurd length (Nat.succ_ne_zero _)
    | cons byte' rest' =>
      have parts : bits byte ++ bitsOf rest = bits byte' ++ bitsOf rest' := same
      have ⟨first, others⟩ := List.append_inj parts (by rw [length_bits, length_bits])
      rw [bits_injective first, previous (Nat.succ.inj length) others]

/-- A string has eight bits for each byte. -/
theorem length_bitsOf (data : List UInt8) : (bitsOf data).length = 8 * data.length := by
  induction data with
  | nil => rfl
  | cons byte rest previous =>
    rw [bitsOf, List.flatMap_cons, List.length_append, length_bits, List.length_cons]
    rw [bitsOf] at previous
    omega

/-- One byte that changes is a burst. -/
theorem Burst.of_byte {byte byte' : UInt8} (changes : byte ≠ byte') (front back : List UInt8) :
    Burst (front ++ byte :: back) (front ++ byte' :: back) where
  length := by rw [List.length_append, List.length_append, List.length_cons, List.length_cons]
  differs same := changes (List.cons.inj (List.append_cancel_left same)).1
  within := by
    refine ⟨(bitsOf front).length, fun place differs => ?_⟩
    have parts (byte : UInt8) : bitsOf (front ++ byte :: back) =
        bitsOf front ++ (bits byte ++ bitsOf back) := by
      rw [bitsOf, List.flatMap_append, List.flatMap_cons]
      rfl
    rw [parts, parts] at differs
    constructor
    · by_contra before
      rw [Nat.not_le] at before
      rw [List.getElem?_append_left before, List.getElem?_append_left before] at differs
      exact differs rfl
    · by_contra behind
      have lengths := length_bits byte
      have lengths' := length_bits byte'
      rw [List.getElem?_append_right (by omega), List.getElem?_append_right (by omega),
        List.getElem?_append_right (by omega), List.getElem?_append_right (by omega),
        lengths, lengths'] at differs
      exact differs rfl

section

variable {polynomial : UInt16}

/-- The highest bit of a register. -/
theorem and_top (crc : UInt16) : crc &&& 0x8000 = topBit (crc.toBitVec.getLsbD 15) := by
  have power : crc.toBitVec &&& BitVec.twoPow 16 15 =
      if crc.toBitVec.getLsbD 15 then BitVec.twoPow 16 15 else 0 := BitVec.and_twoPow ..
  apply UInt16.toBitVec_inj.mp
  rw [UInt16.toBitVec_and]
  show crc.toBitVec &&& BitVec.twoPow 16 15 = _
  rw [power, topBit]
  split <;> rfl

/-- It decides how the register is shifted. -/
theorem shift_eq (polynomial crc : UInt16) : shift polynomial crc =
    if crc.toBitVec.getLsbD 15 then (crc <<< 1) ^^^ polynomial else crc <<< 1 := by
  unfold shift
  rw [and_top]
  cases crc.toBitVec.getLsbD 15 <;> rfl

/-- A polynomial that is folded in twice is gone. -/
theorem xor_twice (crc crc' : UInt16) :
    crc ^^^ polynomial ^^^ (crc' ^^^ polynomial) = crc ^^^ crc' := by
  rw [UInt16.xor_comm crc' polynomial, ← UInt16.xor_assoc, UInt16.xor_assoc crc polynomial,
    UInt16.xor_self, UInt16.xor_zero]

/-- A shift is linear. -/
theorem shift_xor (polynomial crc crc' : UInt16) :
    shift polynomial (crc ^^^ crc') = shift polynomial crc ^^^ shift polynomial crc' := by
  simp only [shift_eq, UInt16.toBitVec_xor, BitVec.getLsbD_xor, UInt16.shiftLeft_xor]
  cases crc.toBitVec.getLsbD 15 <;> cases crc'.toBitVec.getLsbD 15 <;>
    simp only [Bool.bne_false, Bool.bne_true, Bool.not_false, Bool.not_true, Bool.false_eq_true,
      if_true, if_false]
  · rw [UInt16.xor_assoc]
  · rw [UInt16.xor_assoc, UInt16.xor_assoc, UInt16.xor_comm (crc' <<< 1)]
  · exact (xor_twice _ _).symm

/-- A bit is folded in linearly. -/
theorem feedBit_xor (polynomial crc crc' : UInt16) (bit bit' : Bool) :
    feedBit polynomial (crc ^^^ crc') (bit ^^ bit') =
      feedBit polynomial crc bit ^^^ feedBit polynomial crc' bit' := by
  have tops : topBit (bit ^^ bit') = topBit bit ^^^ topBit bit' := by
    cases bit <;> cases bit' <;> rfl
  have sorted : crc ^^^ crc' ^^^ (topBit bit ^^^ topBit bit') =
      crc ^^^ topBit bit ^^^ (crc' ^^^ topBit bit') := by ac_rfl
  rw [feedBit, tops, sorted, shift_xor]
  rfl

/-! ## Registers that bits empty -/

/-- The lowest bits of a register are zeros. -/
def Clear (count : Nat) (crc : UInt16) : Prop := ∀ place < count, crc.toBitVec.getLsbD place = false

/-- A register without ones is zero. -/
theorem clear_all {crc : UInt16} : Clear 16 crc ↔ crc = 0 := by
  constructor
  · intro clear
    apply UInt16.toBitVec_inj.mp
    apply BitVec.eq_of_getLsbD_eq
    intro place inside
    rw [clear place inside]
    exact BitVec.getLsbD_zero.symm
  · rintro rfl place -
    exact BitVec.getLsbD_zero

/-- A shift with an odd polynomial leaves zeros at the end only if nothing fell out at the top,
and moves the zeros there were. -/
theorem clear_shift (odd : polynomial.toBitVec.getLsbD 0 = true) {crc : UInt16} {count : Nat}
    (clear : Clear (count + 1) (shift polynomial crc)) (small : count < 16) :
    Clear count crc ∧ crc.toBitVec.getLsbD 15 = false := by
  have last := clear 0 (Nat.succ_pos _)
  rw [shift_eq] at clear last
  cases top : crc.toBitVec.getLsbD 15 with
  | true =>
    rw [if_pos top, UInt16.toBitVec_xor, BitVec.getLsbD_xor, odd] at last
    have none : (crc <<< 1).toBitVec.getLsbD 0 = false := by simp
    rw [none] at last
    cases last
  | false =>
    rw [if_neg (by rw [top]; exact Bool.false_ne_true)] at clear
    refine ⟨fun place below => ?_, rfl⟩
    have moved := clear (place + 1) (Nat.succ_lt_succ below)
    simpa [show place + 1 < 16 by omega, BitVec.getLsbD_eq_getElem (show place < 16 by omega)]
      using moved

/-- A bit that leaves zeros at the end was folded into a register that ends with one zero fewer at
most. -/
theorem clear_feedBit (odd : polynomial.toBitVec.getLsbD 0 = true) {crc : UInt16} {bit : Bool}
    {count : Nat} (clear : Clear (count + 1) (feedBit polynomial crc bit)) (small : count < 16) :
    Clear count crc := by
  intro place below
  have folded := (clear_shift odd clear small).1 place below
  have apart : (topBit bit).toBitVec.getLsbD place = false := by
    cases bit with
    | false => exact BitVec.getLsbD_zero
    | true =>
      show (BitVec.twoPow 16 15).getLsbD place = false
      rw [BitVec.getLsbD_twoPow]
      simp
      omega
  rw [UInt16.toBitVec_xor, BitVec.getLsbD_xor, apart] at folded
  simpa using folded

/-- A register that a few bits empty ends with zeros. -/
theorem clear_of_emptied (odd : polynomial.toBitVec.getLsbD 0 = true) {tail : List Bool}
    (short : tail.length ≤ 16) {crc : UInt16} (emptied : tail.foldl (feedBit polynomial) crc = 0) :
    Clear (16 - tail.length) crc := by
  induction tail generalizing crc with
  | nil => exact clear_all.mpr emptied
  | cons bit rest previous =>
    rw [List.length_cons] at short
    have later := previous (by omega) emptied
    have count : 16 - rest.length = 16 - (rest.length + 1) + 1 := by omega
    have few : 16 - (rest.length + 1) < 16 := by omega
    rw [count] at later
    exact clear_feedBit odd later few

/-- Zeros do not empty a register. -/
theorem zero_of_emptied (odd : polynomial.toBitVec.getLsbD 0 = true) {tail : List Bool}
    (zeros : ∀ bit ∈ tail, bit = false) {crc : UInt16}
    (emptied : tail.foldl (feedBit polynomial) crc = 0) : crc = 0 := by
  induction tail generalizing crc with
  | nil => exact emptied
  | cons bit rest previous =>
    have none := zeros bit (List.mem_cons_self ..)
    have shifted := previous (fun other among => zeros other (List.mem_cons_of_mem _ among)) emptied
    rw [none, feedBit, topBit, if_neg Bool.false_ne_true, UInt16.xor_zero] at shifted
    have ⟨low, top⟩ := clear_shift odd (clear_all.mpr shifted) (Nat.lt_succ_self 15)
    apply clear_all.mp
    intro place inside
    rcases Nat.lt_succ_iff_lt_or_eq.mp inside with below | rfl
    · exact low place below
    · exact top

/-- A one in an empty register leaves the polynomial. -/
theorem feedBit_one (polynomial : UInt16) : feedBit polynomial 0 true = polynomial := by
  have out : (0 ^^^ topBit true) <<< 1 = 0 := by decide
  have top : (0 ^^^ topBit true).toBitVec.getLsbD 15 = true := by decide
  rw [feedBit, shift_eq, if_pos top, out, UInt16.zero_xor]

/-- Bits that leave an empty register empty are zeros, when all ones lie within sixteen bits. -/
theorem zeros_of_emptied (odd : polynomial.toBitVec.getLsbD 0 = true) {start : Nat}
    {difference : List Bool}
    (within : ∀ place, difference[place]? = some true → start ≤ place ∧ place < start + 16)
    (emptied : difference.foldl (feedBit polynomial) 0 = 0) : ∀ bit ∈ difference, bit = false := by
  induction difference generalizing start with
  | nil => exact fun _ impossible => nomatch impossible
  | cons bit rest previous =>
    cases bit with
    | false =>
      have before : ∀ place, rest[place]? = some true →
          start - 1 ≤ place ∧ place < start - 1 + 16 := by
        intro place one
        have ⟨low, high⟩ := within (place + 1) one
        omega
      have none : feedBit polynomial 0 false = 0 := rfl
      rw [List.foldl_cons, none] at emptied
      exact List.forall_mem_cons.mpr ⟨rfl, previous before emptied⟩
    | true =>
      exfalso
      have first := (within 0 rfl).1
      rw [List.foldl_cons, feedBit_one, ← List.take_append_drop 15 rest, List.foldl_append]
        at emptied
      have zeros : ∀ bit ∈ rest.drop 15, bit = false := by
        intro bit among
        obtain ⟨place, found⟩ := List.mem_iff_getElem?.mp among
        rw [List.getElem?_drop] at found
        cases bit with
        | false => rfl
        | true =>
          have inside := (within (15 + place + 1) found).2
          omega
      have short : (rest.take 15).length ≤ 15 := by
        rw [List.length_take]
        exact Nat.min_le_left _ _
      have even := clear_of_emptied odd (Nat.le_succ_of_le short)
        (zero_of_emptied odd zeros emptied)
      rw [even 0 (by omega)] at odd
      cases odd

/-- The highest bits of a word, in order. -/
def topBits : Nat → UInt16 → List Bool
  | 0, _ => []
  | count + 1, word => word.toBitVec.getLsbD 15 :: topBits count (word <<< 1)

/-- Shifts that begin with the last one. -/
theorem repeat_succ {α : Type} (f : α → α) (count : Nat) (value : α) :
    Nat.repeat f (count + 1) value = Nat.repeat f count (f value) := by
  induction count with
  | zero => rfl
  | succ count previous => exact congrArg f previous

/-- A word is folded in by its highest bit and the rest of it. -/
theorem shift_word (polynomial crc word : UInt16) : shift polynomial (crc ^^^ word) =
    feedBit polynomial crc (word.toBitVec.getLsbD 15) ^^^ (word <<< 1) := by
  have parts : shift polynomial word =
      feedBit polynomial 0 (word.toBitVec.getLsbD 15) ^^^ (word <<< 1) := by
    rw [shift_eq]
    cases word.toBitVec.getLsbD 15 with
    | false => exact UInt16.zero_xor.symm
    | true =>
      rw [feedBit_one, UInt16.xor_comm polynomial]
      rfl
  have sum := feedBit_xor polynomial crc 0 false (word.toBitVec.getLsbD 15)
  rw [Bool.false_xor, UInt16.xor_zero] at sum
  rw [shift_xor, parts, sum, UInt16.xor_assoc]
  congr 1
  exact congrArg (shift polynomial) UInt16.xor_zero.symm

/-- Shifting a word in takes its bits one by one. -/
theorem repeat_shift (polynomial : UInt16) {count : Nat} (fits : count ≤ 16) {word : UInt16}
    (clear : Clear (16 - count) word) (crc : UInt16) :
    Nat.repeat (shift polynomial) count (crc ^^^ word) =
      (topBits count word).foldl (feedBit polynomial) crc := by
  induction count generalizing word crc with
  | zero =>
    rw [clear_all.mp clear]
    exact UInt16.xor_zero
  | succ count previous =>
    have moved : Clear (16 - count) (word <<< 1) := by
      intro place below
      cases place with
      | zero => simp
      | succ place =>
        have bit := clear place (by omega)
        simpa [show place + 1 < 16 by omega,
          BitVec.getLsbD_eq_getElem (show place < 16 by omega)] using bit
    rw [repeat_succ, shift_word, previous (by omega) moved]
    rfl

/-- A byte is taken bit by bit. -/
theorem feed_bits (polynomial crc : UInt16) (byte : UInt8) :
    feed polynomial crc byte = (bits byte).foldl (feedBit polynomial) crc := by
  have clear : Clear (16 - 8) (byte.toUInt16 <<< 8) := by
    intro place below
    simp [show place < 8 from below]
  have all : ∀ byte : BitVec 8,
      topBits 8 ((UInt8.ofBitVec byte).toUInt16 <<< 8) = bits (UInt8.ofBitVec byte) := by
    decide +kernel
  have same : topBits 8 (byte.toUInt16 <<< 8) = bits byte := all byte.toBitVec
  rw [← same, ← repeat_shift polynomial (by decide) clear, feed]

/-- A string is taken bit by bit. -/
theorem checksum_bitsOf (polynomial initial : UInt16) (data : List UInt8) :
    checksum polynomial initial data = (bitsOf data).foldl (feedBit polynomial) initial := by
  induction data generalizing initial with
  | nil => rfl
  | cons byte rest previous =>
    have parts : bitsOf (byte :: rest) = bits byte ++ bitsOf rest := rfl
    rw [parts, List.foldl_append, ← feed_bits, ← previous]
    rfl

/-- A burst changes the checksum when the polynomial is odd. -/
theorem Burst.checksum_ne (odd : polynomial.toBitVec.getLsbD 0 = true)
    {data data' : List UInt8} (burst : Burst data data') (initial : UInt16) :
    checksum polynomial initial data ≠ checksum polynomial initial data' := by
  intro same
  obtain ⟨start, within⟩ := burst.within
  have lengths : (bitsOf data).length = (bitsOf data').length := by
    rw [length_bitsOf, length_bitsOf, burst.length]
  have sum := foldl_zipWith (feedBit_xor polynomial) lengths initial initial
  rw [← checksum_bitsOf, ← checksum_bitsOf, same, UInt16.xor_self, UInt16.xor_self] at sum
  have apart : ∀ place, (List.zipWith (· ^^ ·) (bitsOf data) (bitsOf data'))[place]? = some true →
      start ≤ place ∧ place < start + 16 := by
    intro place one
    apply within place
    intro equal
    rw [List.getElem?_zipWith, equal] at one
    cases found : (bitsOf data')[place]? with
    | none => simp [found] at one
    | some bit => simp [found] at one
  have zeros := zeros_of_emptied odd apart sum
  apply burst.differs
  apply bitsOf_injective burst.length
  apply List.ext_getElem lengths
  intro place inside inside'
  have bit := zeros ((bitsOf data)[place] ^^ (bitsOf data')[place]) ?_
  · simpa using bit
  · exact List.mem_iff_getElem.mpr ⟨place, by simp [inside, inside'], by simp⟩

end

end CfsTelemetry.Crc
