import Mathlib.Data.UInt

/-!
# Text of the version 1 uplink

The functions of the C library that the text protocol is read with, on character codes: the
conversions of `sscanf` that its formats use, and `strtoul`. A text ends at its first zero.
-/
namespace CfsTelemetry.Lora.Text

/-- The code of the comma that separates fields. -/
def comma : UInt8 := 44

/-- The characters of a C string in a buffer. -/
def cString (buffer : List UInt8) : List UInt8 := buffer.takeWhile (· != 0)

/-- The codes of an ASCII text. -/
def codes (text : String) : List UInt8 := text.toList.map (·.toNat.toUInt8)

/-- The test `isspace`. -/
def isSpace (code : UInt8) : Bool := code == 32 || (decide (9 ≤ code) && decide (code ≤ 13))

/-- A conversion `%[^,]` of a given width: the longest text without a comma, not empty. -/
def scanField (width : Nat) (text : List UInt8) : Option (List UInt8 × List UInt8) :=
  let field := (text.take width).takeWhile (· != comma)
  if field.isEmpty then none else some (field, text.drop field.length)

/-- A conversion `%s` of a given width: the next word, not empty. -/
def scanWord (width : Nat) (text : List UInt8) : Option (List UInt8 × List UInt8) :=
  let start := text.dropWhile isSpace
  let word := (start.take width).takeWhile (! isSpace ·)
  if word.isEmpty then none else some (word, start.drop word.length)

/-- A literal comma of a format. -/
def scanComma : List UInt8 → Option (List UInt8)
  | code :: rest => if code = comma then some rest else none
  | [] => none

/-- The value of a digit in any base up to 36. -/
def digitValue (code : UInt8) : Option Nat :=
  if 48 ≤ code ∧ code ≤ 57 then some (code.toNat - 48)
  else if 97 ≤ code ∧ code ≤ 122 then some (code.toNat - 97 + 10)
  else if 65 ≤ code ∧ code ≤ 90 then some (code.toNat - 65 + 10)
  else none

/-- Whether a code is a digit of a base. -/
def isDigit (base : Nat) (code : UInt8) : Bool :=
  match digitValue code with
  | some value => decide (value < base)
  | none => false

/-- The base a number is written in and its digits, when the base is asked for as 0 or 16. -/
def numberBase (base : Nat) (text : List UInt8) : Nat × List UInt8 :=
  match text with
  | 48 :: mark :: digit :: rest =>
    if (base = 0 ∨ base = 16) ∧ (mark = 120 ∨ mark = 88) ∧ isDigit 16 digit then
      (16, digit :: rest)
    else (if base = 0 then 8 else base, text)
  | 48 :: _ => (if base = 0 then 8 else base, text)
  | _ => (if base = 0 then 10 else base, text)

/-- The largest `unsigned long`. -/
def ulongMax : Nat := 2 ^ 64 - 1

/-- The function `strtoul`: the number at the front of a text and what follows it, or nothing
when there is no number. -/
def strtoul (base : Nat) (text : List UInt8) : Option (Nat × List UInt8) :=
  let text := text.dropWhile isSpace
  let negative := text.head? = some 45
  let text := if text.head? = some 45 ∨ text.head? = some 43 then text.tail else text
  let (base, text) := numberBase base text
  let digits := text.takeWhile (isDigit base)
  if digits.isEmpty then none
  else
    let magnitude := digits.foldl (fun value code => value * base + (digitValue code).getD 0) 0
    let value :=
      if magnitude > ulongMax then ulongMax
      else if negative then (2 ^ 64 - magnitude) % 2 ^ 64 else magnitude
    some (value, text.drop digits.length)

/-- The value of `strtoul` where the end of the number is not asked for. -/
def strtoulValue (base : Nat) (text : List UInt8) : Nat :=
  match strtoul base text with
  | some (value, _) => value
  | none => 0

/-- The value of a hexadecimal digit (`HexNibble`). -/
def hexNibble (code : UInt8) : Option UInt8 :=
  if 48 ≤ code ∧ code ≤ 57 then some (code - 48)
  else if 97 ≤ code ∧ code ≤ 102 then some (code - 97 + 10)
  else if 65 ≤ code ∧ code ≤ 70 then some (code - 65 + 10)
  else none

/-- The bytes of pairs of hexadecimal digits. -/
def hexBytes : List UInt8 → Option (List UInt8)
  | high :: low :: rest => do
    let high ← hexNibble high
    let low ← hexNibble low
    let bytes ← hexBytes rest
    some (((high <<< 4) ||| low) :: bytes)
  | _ => some []

end CfsTelemetry.Lora.Text
