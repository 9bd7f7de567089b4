import Mathlib.Data.List.TakeWhile
import CfsTelemetry.Ground.RoundTrip

/-!
# Fields of a text command

The ground writes the fields of a text command in decimal and its payload and checksum in upper
case hexadecimal. Each of them is read back by the function of the C library that the receiver
reads it with.
-/
namespace CfsTelemetry.Ground

open Lora Lora.Text

/-- A number in decimal (format `d`). -/
def decimalText (value : Nat) : List UInt8 :=
  (Nat.toDigits 10 value).map fun digit => digit.toNat.toUInt8

/-- The upper case digit of four bits. -/
def hexDigit (nibble : Nat) : UInt8 := if nibble < 10 then (48 + nibble).toUInt8
  else (55 + nibble).toUInt8

/-- Bytes as pairs of upper case digits (`hex().upper()`). -/
def hexUpper (bytes : List UInt8) : List UInt8 :=
  bytes.flatMap fun byte => [hexDigit (byte.toNat / 16), hexDigit (byte.toNat % 16)]

/-- A word as four upper case digits (format `04X`). -/
def hexWord (word : Nat) : List UInt8 :=
  [hexDigit (word / 4096 % 16), hexDigit (word / 256 % 16), hexDigit (word / 16 % 16),
    hexDigit (word % 16)]

/-- A word has four digits. -/
@[simp] theorem hexWord_length (word : Nat) : (hexWord word).length = 4 := by
  simp [hexWord]

/-- What a property of all upper case digits holds of is checked digit by digit. -/
theorem hexDigit_cases {property : Nat → UInt8 → Prop}
    (each : ∀ nibble : Fin 16, property nibble (hexDigit nibble)) {nibble : Nat}
    (small : nibble < 16) : property nibble (hexDigit nibble) := each ⟨nibble, small⟩

/-- The code of a character that stands for itself. -/
def IsPlain (code : UInt8) : Prop :=
  (48 ≤ code ∧ code ≤ 57) ∨ (65 ≤ code ∧ code ≤ 70)

instance (code : UInt8) : Decidable (IsPlain code) := inferInstanceAs (Decidable (_ ∨ _))

/-- A digit in decimal is a digit from 0 to 9 of its value. -/
theorem decimalText_digits (value : Nat) :
    ∀ code ∈ decimalText value, 48 ≤ code ∧ code ≤ 57 := by
  intro code among
  obtain ⟨digit, written, rfl⟩ := List.mem_map.mp among
  have decimal : digit.isDigit = true :=
    Nat.isDigit_of_mem_toDigits (by decide) (by decide) written
  have range : 48 ≤ digit.toNat ∧ digit.toNat ≤ 57 := Char.isDigit_iff_toNat.mp decimal
  have small : digit.toNat.toUInt8.toNat = digit.toNat := by
    show digit.toNat % 2 ^ 8 = digit.toNat
    omega
  rw [UInt8.le_iff_toNat_le, UInt8.le_iff_toNat_le, small]
  exact range

/-- A digit in hexadecimal is an upper case digit. -/
theorem hexDigit_plain {nibble : Nat} (small : nibble < 16) : IsPlain (hexDigit nibble) :=
  @hexDigit_cases (fun _ code => IsPlain code) (by decide) nibble small

/-- The digits of bytes are upper case digits. -/
theorem hexUpper_plain (bytes : List UInt8) : ∀ code ∈ hexUpper bytes, IsPlain code := by
  intro code among
  obtain ⟨byte, -, written⟩ := List.mem_flatMap.mp among
  have bound := byte.toNat_lt
  rcases List.mem_cons.mp written with rfl | last
  · exact hexDigit_plain (by omega)
  · rw [List.mem_singleton.mp last]
    exact hexDigit_plain (Nat.mod_lt _ (by decide))

/-- The digits of a word are upper case digits. -/
theorem hexWord_plain (word : Nat) : ∀ code ∈ hexWord word, IsPlain code := by
  have digit : ∀ value, IsPlain (hexDigit (value % 16)) :=
    fun value => hexDigit_plain (Nat.mod_lt _ (by decide))
  intro code among
  simp only [hexWord, List.mem_cons, List.not_mem_nil, or_false] at among
  rcases among with rfl | rfl | rfl | rfl <;> exact digit _

/-! ## Reading digits -/

/-- Two digits for every byte. -/
theorem hexUpper_length (bytes : List UInt8) : (hexUpper bytes).length = 2 * bytes.length := by
  induction bytes with
  | nil => rfl
  | cons byte rest previous =>
    have split : hexUpper (byte :: rest) =
        [hexDigit (byte.toNat / 16), hexDigit (byte.toNat % 16)] ++ hexUpper rest := rfl
    rw [split, List.length_append, previous, List.length_cons]
    show 2 + 2 * rest.length = 2 * (rest.length + 1)
    omega

/-- A nibble is read back from its digit. -/
theorem hexNibble_hexDigit {nibble : Nat} (small : nibble < 16) :
    hexNibble (hexDigit nibble) = some nibble.toUInt8 :=
  @hexDigit_cases (fun nibble code => hexNibble code = some nibble.toUInt8) (by decide) nibble small

/-- A byte is made up of its two nibbles. -/
theorem nibbles_union (byte : UInt8) :
    ((byte.toNat / 16).toUInt8 <<< 4) ||| (byte.toNat % 16).toUInt8 = byte := by
  have bound := byte.toNat_lt
  have high : ((byte.toNat / 16).toUInt8 <<< 4).toNat = (byte.toNat / 16) <<< 4 := by
    rw [UInt8.toNat_shiftLeft]
    show (byte.toNat / 16 % 2 ^ 8) <<< 4 % 2 ^ 8 = (byte.toNat / 16) <<< 4
    rw [Nat.shiftLeft_eq, Nat.shiftLeft_eq]
    omega
  have low : ((byte.toNat % 16).toUInt8).toNat = byte.toNat % 16 := by
    show byte.toNat % 16 % 2 ^ 8 = byte.toNat % 16
    omega
  apply UInt8.toNat_inj.mp
  rw [UInt8.toNat_or, high, low,
    ← Nat.shiftLeft_add_eq_or_of_lt (show byte.toNat % 16 < 2 ^ 4 by omega), Nat.shiftLeft_eq]
  omega

/-- The payload is read back from its digits. -/
theorem hexBytes_hexUpper (bytes : List UInt8) : hexBytes (hexUpper bytes) = some bytes := by
  induction bytes with
  | nil => rfl
  | cons byte rest previous =>
    have bound := byte.toNat_lt
    have split : hexUpper (byte :: rest) =
        hexDigit (byte.toNat / 16) :: hexDigit (byte.toNat % 16) :: hexUpper rest := rfl
    rw [split, hexBytes, hexNibble_hexDigit (by omega), hexNibble_hexDigit (by omega), previous]
    show some _ = some (byte :: rest)
    rw [nibbles_union]

/-- The value of a decimal digit. -/
theorem digitValue_decimal {code : UInt8} (decimal : 48 ≤ code ∧ code ≤ 57) :
    digitValue code = some (code.toNat - 48) := if_pos decimal

/-- A code that stands for itself is neither a space nor a sign. -/
theorem plain_code {code : UInt8} (plain : IsPlain code) :
    isSpace code = false ∧ code ≠ 45 ∧ code ≠ 43 := by
  have lower : 48 ≤ code.toNat := by
    rcases plain with ⟨lower, -⟩ | ⟨lower, -⟩
    · exact UInt8.le_iff_toNat_le.mp lower
    · exact Nat.le_trans (by decide) (UInt8.le_iff_toNat_le.mp lower)
  have apart : ∀ other : UInt8, other.toNat < 48 → code ≠ other := by
    intro other below same
    rw [same] at lower
    omega
  have below : ¬ code ≤ 13 := by
    rw [UInt8.le_iff_toNat_le]
    show ¬ code.toNat ≤ 13
    omega
  refine ⟨?_, apart 45 (by decide), apart 43 (by decide)⟩
  simp [isSpace, below, apart 32 (by decide)]

/-- Digits of a base are read as their number. -/
theorem strtoulValue_digits {asked base value : Nat} {first : UInt8} {rest : List UInt8}
    (front : isSpace first = false ∧ first ≠ 45 ∧ first ≠ 43)
    (based : numberBase asked (first :: rest) = (base, first :: rest))
    (digits : ∀ code ∈ first :: rest, isDigit base code = true)
    (number : (first :: rest).foldl
      (fun value code => value * base + (digitValue code).getD 0) 0 = value)
    (small : value ≤ ulongMax) : strtoulValue asked (first :: rest) = value := by
  have ⟨notSpace, notMinus, notPlus⟩ := front
  have start : (first :: rest).dropWhile isSpace = first :: rest := by
    rw [List.dropWhile_cons, notSpace]
    rfl
  have whole : (first :: rest).takeWhile (isDigit base) = first :: rest :=
    List.takeWhile_eq_self_iff.mpr digits
  have unsigned : ¬ ((first :: rest).head? = some 45 ∨ (first :: rest).head? = some 43) := by
    simp [notMinus, notPlus]
  have positive : ¬ (first :: rest).head? = some 45 := by simp [notMinus]
  have read : strtoul asked (first :: rest) = some (value, []) := by
    unfold strtoul
    dsimp only
    rw [start, if_neg unsigned, based]
    dsimp only
    rw [whole, number, if_neg (by simp), if_neg (by omega), if_neg (by simpa using positive)]
    simp
  unfold strtoulValue
  rw [read]

/-- A number above zero does not start with a zero. -/
theorem toDigits_head {value : Nat} (positive : 0 < value) :
    (Nat.toDigits 10 value).head? ≠ some '0' := by
  induction value using Nat.strongRecOn with
  | _ value previous =>
    by_cases small : value < 10
    · rw [Nat.toDigits_of_lt_base small]
      have each : ∀ digit : Fin 10, 0 < digit.val → some digit.val.digitChar ≠ some '0' := by
        decide
      exact each ⟨value, small⟩ positive
    · have shorter := previous (value / 10) (by omega) (by omega)
      rw [Nat.toDigits_of_base_le (by decide) (by omega)]
      rwa [List.head?_append_of_ne_nil _ Nat.toDigits_ne_nil]

/-- The number of decimal text. -/
theorem decimalText_number (value : Nat) :
    (decimalText value).foldl (fun value code => value * 10 + (digitValue code).getD 0) 0 =
      value := by
  have folded : ∀ (digits : List Char) (start : Nat), (∀ digit ∈ digits, digit.isDigit = true) →
      (digits.map fun digit => digit.toNat.toUInt8).foldl
        (fun value code => value * 10 + (digitValue code).getD 0) start =
          Nat.ofDigitChars 10 digits start := by
    intro digits
    induction digits with
    | nil => exact fun _ _ => rfl
    | cons digit rest previous =>
      intro start decimal
      have range : 48 ≤ digit.toNat ∧ digit.toNat ≤ 57 :=
        Char.isDigit_iff_toNat.mp (decimal digit (List.mem_cons_self ..))
      have code : digit.toNat.toUInt8.toNat = digit.toNat := by
        show digit.toNat % 2 ^ 8 = digit.toNat
        omega
      have bounds : 48 ≤ digit.toNat.toUInt8 ∧ digit.toNat.toUInt8 ≤ 57 := by
        rw [UInt8.le_iff_toNat_le, UInt8.le_iff_toNat_le, code]
        exact range
      rw [List.map_cons, List.foldl_cons, digitValue_decimal bounds, code, Nat.ofDigitChars_cons,
        Nat.mul_comm 10]
      exact previous _ fun other among => decimal other (List.mem_cons_of_mem _ among)
  unfold decimalText
  rw [folded _ 0 fun digit among => Nat.isDigit_of_mem_toDigits (by decide) (by decide) among,
    Nat.ofDigitChars_ten_toDigits]

/-- A number is read back from its decimal text. -/
theorem strtoulValue_decimalText {value : Nat} (small : value ≤ ulongMax) :
    strtoulValue 0 (decimalText value) = value := by
  by_cases positive : 0 < value
  · have head := toDigits_head positive
    have number := decimalText_number value
    have digits := decimalText_digits value
    cases text : decimalText value with
    | nil =>
      have none : Nat.toDigits 10 value = [] := List.map_eq_nil_iff.mp text
      exact absurd none Nat.toDigits_ne_nil
    | cons first rest =>
      rw [text] at number digits
      have nonzero : first ≠ 48 := by
        intro zero
        cases written : Nat.toDigits 10 value with
        | nil => exact Nat.toDigits_ne_nil written
        | cons digit others =>
          have among : digit ∈ Nat.toDigits 10 value := by
            rw [written]
            exact List.mem_cons_self ..
          have decimal : digit.isDigit = true :=
            Nat.isDigit_of_mem_toDigits (by decide) (by decide) among
          have range : 48 ≤ digit.toNat ∧ digit.toNat ≤ 57 := Char.isDigit_iff_toNat.mp decimal
          have same : digit.toNat.toUInt8 = first := by
            unfold decimalText at text
            rw [written, List.map_cons] at text
            exact (List.cons.inj text).1
          have code : digit.toNat % 2 ^ 8 = 48 := by
            rw [zero] at same
            exact congrArg UInt8.toNat same
          have isZero : digit = '0' := Char.toNat_inj.mp (show digit.toNat = 48 by omega)
          rw [written, isZero] at head
          exact head rfl
      have based : numberBase 0 (first :: rest) = (10, first :: rest) := by
        unfold numberBase
        split
        · rename_i same
          exact absurd (List.cons.inj same).1 nonzero
        · rename_i same
          exact absurd (List.cons.inj same).1 nonzero
        · rfl
      have tens : ∀ code ∈ first :: rest, isDigit 10 code = true := by
        intro code among
        have upper : code.toNat ≤ 57 := UInt8.le_iff_toNat_le.mp (digits code among).2
        unfold isDigit
        rw [digitValue_decimal (digits code among)]
        exact decide_eq_true (by omega)
      exact strtoulValue_digits (plain_code (.inl (digits first (List.mem_cons_self ..)))) based
        tens number small
  · have zero : value = 0 := by omega
    rw [zero]
    decide

/-- The value of an upper case digit. -/
theorem digitValue_hexDigit {nibble : Nat} (small : nibble < 16) :
    digitValue (hexDigit nibble) = some nibble :=
  @hexDigit_cases (fun nibble code => digitValue code = some nibble) (by decide) nibble small

/-- A word is read back from its upper case digits. -/
theorem strtoulValue_hexWord {word : Nat} (small : word < 65536) :
    strtoulValue 16 (hexWord word) = word := by
  have digit : ∀ value, digitValue (hexDigit (value % 16)) = some (value % 16) :=
    fun value => digitValue_hexDigit (Nat.mod_lt _ (by decide))
  have based : numberBase 16 (hexWord word) = (16, hexWord word) := by
    have plain := hexWord_plain word
    have unmarked : ∀ code, IsPlain code → ¬ (code = 120 ∨ code = 88) := by
      rintro code own (rfl | rfl) <;> exact absurd own (by decide)
    unfold numberBase
    split
    · rename_i mark _ _ same
      have marked := unmarked mark (plain mark (by rw [same]; simp))
      simp [marked]
    · rfl
    · rfl
  have digits : ∀ code ∈ hexWord word, isDigit 16 code = true := by
    intro code among
    have each : ∀ value, isDigit 16 (hexDigit (value % 16)) = true := by
      intro value
      unfold isDigit
      rw [digit]
      exact decide_eq_true (Nat.mod_lt _ (by decide))
    simp only [hexWord, List.mem_cons, List.not_mem_nil, or_false] at among
    rcases among with rfl | rfl | rfl | rfl <;> exact each _
  have number : (hexWord word).foldl
      (fun value code => value * 16 + (digitValue code).getD 0) 0 = word := by
    simp only [hexWord, List.foldl_cons, List.foldl_nil, digit, Option.getD_some]
    omega
  have large : word ≤ ulongMax := by
    unfold ulongMax
    omega
  exact strtoulValue_digits (plain_code (hexWord_plain word _ (List.mem_cons_self ..))) based
    digits number large

end CfsTelemetry.Ground
