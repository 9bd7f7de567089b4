import CfsTelemetry.Ground.TextLine

/-!
# What the fields of a text command say

The receiver reads the numbers of a text command in whatever base they are written in, and cuts
them to the width of their fields without looking at what follows them. So a command can be
forwarded with other numbers than those that stand in its line, unless the line is written
plainly.
-/
namespace CfsTelemetry.Ground

open Lora Lora.Text

/-- The number of hexadecimal digits. -/
def hexValue (digits : List UInt8) : Nat :=
  digits.foldl (fun value code => value * 16 + (digitValue code).getD 0) 0

/-- A text command as it is written: the numbers of its fields, and its payload and its checksum
as digits. -/
structure WrittenCommand where
  version : Nat
  commandClass : Nat
  seq : Nat
  flags : Nat
  payload : List UInt8
  checksum : List UInt8

namespace WrittenCommand

/-- The text that the checksum covers. -/
def canonical (written : WrittenCommand) : List UInt8 :=
  codes "UP," ++ decimalText written.version ++ [comma] ++ decimalText written.commandClass ++
    [comma] ++ decimalText written.seq ++ [comma] ++ decimalText written.flags ++ [comma] ++
    written.payload

/-- A line is the text of a command with its checksum, and ends there. -/
def On (written : WrittenCommand) (line : List UInt8) : Prop :=
  ∃ ending, (∀ code ∈ ending, code = 13 ∨ code = 10) ∧
    line = written.canonical ++ [comma] ++ written.checksum ++ ending

/-- The numbers are within the range of their fields, the payload is hexadecimal, and the checksum
is a number of 16 bits. -/
structure WellFormed (written : WrittenCommand) : Prop where
  version : written.version ≤ 255
  commandClass : written.commandClass ≤ 255
  seq : written.seq ≤ 65535
  flags : written.flags ≤ 255
  payload : ∀ code ∈ written.payload, isDigit 16 code = true
  number : written.checksum ≠ []
  digits : ∀ code ∈ written.checksum, isDigit 16 code = true
  word : hexValue written.checksum ≤ 65535

/-- A command has the numbers and the bytes that are written. -/
structure Carries (written : WrittenCommand) (cmd : ProcessUplinkCmd) : Prop where
  version : cmd.version.toNat = written.version
  commandClass : cmd.commandClass.toNat = written.commandClass
  seq : cmd.sequence.toNat = written.seq
  flags : cmd.flags.toNat = written.flags
  length : 2 * cmd.payloadLength.toNat = written.payload.length
  payload : hexBytes written.payload =
    some (cmd.payload.toList.take cmd.payloadLength.toNat)

end WrittenCommand

/-- A line means what it says: it is the text of a command with numbers in range and the right
checksum, and the command forwarded for it carries what is written. -/
def Says (line : List UInt8) (cmd : ProcessUplinkCmd) : Prop :=
  ∃ written : WrittenCommand, written.WellFormed ∧ written.On line ∧
    hexValue written.checksum = (crc16 written.canonical).toNat ∧ written.Carries cmd

/-- More digits do not make a number smaller. -/
theorem hexValue_le_foldl (start : Nat) (digits : List UInt8) :
    start ≤ digits.foldl (fun value code => value * 16 + (digitValue code).getD 0) start := by
  induction digits generalizing start with
  | nil => exact Nat.le_refl start
  | cons code rest later =>
    rw [List.foldl_cons]
    have more := later (start * 16 + (digitValue code).getD 0)
    omega

/-- The first digits of a number are no larger than the number. -/
theorem hexValue_take_le (digits : List UInt8) (count : Nat) :
    hexValue (digits.take count) ≤ hexValue digits := by
  have whole : hexValue digits = (digits.drop count).foldl
      (fun value code => value * 16 + (digitValue code).getD 0) (hexValue (digits.take count)) := by
    rw [hexValue, hexValue, ← List.foldl_append, List.take_append_drop]
  rw [whole]
  exact hexValue_le_foldl _ _

/-- A hexadecimal digit is one of three ranges of characters. -/
theorem isDigit_codes {code : UInt8} (digit : isDigit 16 code = true) :
    isSpace code = false ∧ code ≠ 45 ∧ code ≠ 43 ∧ code ≠ 120 ∧ code ≠ 88 ∧ code ≠ comma ∧
      code ≠ 0 := by
  have each : ∀ code : BitVec 8, isDigit 16 ⟨code⟩ = true →
      isSpace ⟨code⟩ = false ∧ (⟨code⟩ : UInt8) ≠ 45 ∧ (⟨code⟩ : UInt8) ≠ 43 ∧
        (⟨code⟩ : UInt8) ≠ 120 ∧ (⟨code⟩ : UInt8) ≠ 88 ∧ (⟨code⟩ : UInt8) ≠ comma ∧
        (⟨code⟩ : UInt8) ≠ 0 := by decide +kernel
  exact each code.toBitVec digit

/-- The value of a digit is below the base. -/
theorem digitValue_lt {code : UInt8} (digit : isDigit 16 code = true) :
    (digitValue code).getD 0 < 16 := by
  unfold isDigit at digit
  cases found : digitValue code with
  | none => decide
  | some value =>
    rw [found] at digit
    exact of_decide_eq_true digit

/-- A number is below the power of its number of digits. -/
theorem hexValue_lt {digits : List UInt8} (all : ∀ code ∈ digits, isDigit 16 code = true) :
    hexValue digits < 16 ^ digits.length := by
  induction digits using List.reverseRecOn with
  | nil => decide
  | append_singleton before code previous =>
    have earlier := previous fun code among => all code (List.mem_append_left _ among)
    have last := digitValue_lt (all code (by simp))
    rw [List.length_append, List.length_singleton, Nat.pow_succ, hexValue, List.foldl_append]
    show hexValue before * 16 + (digitValue code).getD 0 < _
    omega

/-- Up to seven digits are read as their number. -/
theorem strtoulValue_hex {digits : List UInt8} (some : digits ≠ [])
    (all : ∀ code ∈ digits, isDigit 16 code = true) (few : digits.length ≤ 7) :
    strtoulValue 16 digits = hexValue digits := by
  have small : hexValue digits ≤ ulongMax := by
    have bound := hexValue_lt all
    have power : 16 ^ digits.length ≤ 16 ^ 7 := Nat.pow_le_pow_right (by decide) few
    have room : 16 ^ 7 ≤ ulongMax := by decide
    omega
  cases digits with
  | nil => exact absurd rfl some
  | cons first rest =>
    have ⟨notSpace, notMinus, notPlus, _⟩ := isDigit_codes (all first (by simp))
    have based : numberBase 16 (first :: rest) = (16, first :: rest) := by
      unfold numberBase
      split
      · rename_i mark _ _ same
        have ⟨_, _, _, lower, upper, _⟩ := isDigit_codes (all mark (by rw [same]; simp))
        simp [lower, upper]
      · rfl
      · rfl
    exact strtoulValue_digits ⟨notSpace, notMinus, notPlus⟩ based all rfl small

/-- A checksum at the end of a line is scanned up to its seventh digit. -/
theorem scanWord_digits {digits ending : List UInt8} (some : digits ≠ [])
    (all : ∀ code ∈ digits, isDigit 16 code = true) (ends : ∀ code ∈ ending, isSpace code = true) :
    ∃ behind, scanWord 7 (digits ++ ending) = .some (digits.take 7, behind) := by
  have solid : ∀ code ∈ digits, isSpace code = false := fun code among =>
    (isDigit_codes (all code among)).1
  have start : (digits ++ ending).dropWhile isSpace = digits ++ ending := by
    cases digits with
    | nil => exact absurd rfl some
    | cons first rest =>
      rw [List.cons_append, List.dropWhile_cons, solid first (by simp)]
      rfl
  have taken : ((digits ++ ending).take 7).takeWhile (! isSpace ·) = digits.take 7 := by
    rw [List.take_append, List.takeWhile_append_of_pos]
    · have none : (ending.take (7 - digits.length)).takeWhile (! isSpace ·) = [] := by
        cases found : ending.take (7 - digits.length) with
        | nil => rfl
        | cons first rest =>
          have among : first ∈ ending.take (7 - digits.length) := by rw [found]; simp
          simp [ends first (List.mem_of_mem_take among)]
      rw [none, List.append_nil]
    · intro code among
      rw [solid code (List.mem_of_mem_take among)]
      rfl
  have nonempty : digits.take 7 ≠ [] := by
    intro empty
    cases List.take_eq_nil_iff.mp empty with
    | inl zero => cases zero
    | inr none => exact some none
  unfold scanWord
  dsimp only
  rw [start, taken, if_neg (by simpa using nonempty)]
  exact ⟨_, rfl⟩

/-- A payload that is read as bytes has hexadecimal digits only, two for every byte. -/
theorem hexBytes_digits {text bytes : List UInt8} (read : hexBytes text = some bytes)
    (even : text.length % 2 = 0) :
    (∀ code ∈ text, isDigit 16 code = true) ∧ text.length = 2 * bytes.length := by
  have nibble {code value : UInt8} (known : hexNibble code = some value) :
      isDigit 16 code = true := by
    have each : ∀ code : BitVec 8, (hexNibble ⟨code⟩).isSome = true →
        isDigit 16 ⟨code⟩ = true := by decide +kernel
    exact each code.toBitVec (by rw [known]; rfl)
  induction text using hexBytes.induct generalizing bytes with
  | case1 high low rest later =>
    rw [hexBytes] at read
    cases upper : hexNibble high with
    | none => simp [upper] at read
    | some first =>
      cases lower : hexNibble low with
      | none => simp [upper, lower] at read
      | some second =>
        cases behind : hexBytes rest with
        | none => simp [upper, lower, behind] at read
        | some more =>
          simp only [upper, lower, behind, Option.bind_eq_bind, Option.bind_some,
            Option.some.injEq] at read
          rw [List.length_cons, List.length_cons] at even
          obtain ⟨digits, length⟩ := later behind (by omega)
          refine ⟨?_, ?_⟩
          · simp only [List.forall_mem_cons]
            exact ⟨nibble upper, nibble lower, digits⟩
          · rw [← read]
            simp only [List.length_cons, length]
            omega
  | case2 text short =>
    have empty : text = [] := by
      cases text with
      | nil => rfl
      | cons high tail =>
        cases tail with
        | nil => cases even
        | cons low rest => exact absurd rfl (short high low rest)
    subst empty
    rw [hexBytes] at read
    · cases read
      exact ⟨List.forall_mem_nil _, rfl⟩
    · exact short

/-! ## What the receiver makes of a line -/

/-- The fields that the receiver finds in a line. -/
structure ScannedFields where
  version : List UInt8
  commandClass : List UInt8
  seq : List UInt8
  flags : List UInt8
  payload : List UInt8
  checksum : List UInt8

namespace ScannedFields

/-- The text that the receiver computes the checksum of. -/
def canonical (fields : ScannedFields) : List UInt8 :=
  codes "UP," ++ fields.version ++ [comma] ++ fields.commandClass ++ [comma] ++ fields.seq ++
    [comma] ++ fields.flags ++ [comma] ++ fields.payload

/-- The receiver finds these fields in a text. -/
def In (fields : ScannedFields) (text : List UInt8) : Prop :=
  scanUpFields (text.drop 3) = some (fields.version, fields.commandClass, fields.seq, fields.flags,
    fields.payload, fields.checksum)

/-- The fields pass the checks of the receiver: the checksum as it is read is the one of the
canonical text, and the payload is read as bytes that fit. -/
structure Pass (fields : ScannedFields) : Prop where
  short : fields.canonical.length < 640
  checksum : crc16 fields.canonical = (strtoulValue 16 fields.checksum).toUInt16
  even : fields.payload.length % 2 = 0
  fits : fields.payload.length / 2 ≤ 196
  hexadecimal : (hexBytes fields.payload).isSome

/-- The command that is forwarded for fields with a payload. -/
def command (fields : ScannedFields) (bytes : List UInt8) : ProcessUplinkCmd :=
  forwardedCmd (strtoulValue 0 fields.version).toUInt8 (strtoulValue 0 fields.commandClass).toUInt8
    (strtoulValue 0 fields.seq).toUInt16 (strtoulValue 0 fields.flags).toUInt8
    (fields.payload.length / 2).toUInt8 (payloadOf bytes)

end ScannedFields

/-- A text is parsed as a command exactly when fields are found that pass the checks. -/
theorem parseUpFrame_ok_iff {text : List UInt8} {cmd : ProcessUplinkCmd} :
    parseUpFrame text = .ok cmd ↔ ∃ (fields : ScannedFields) (bytes : List UInt8),
      fields.In text ∧ fields.Pass ∧ hexBytes fields.payload = some bytes ∧
        cmd = fields.command bytes := by
  unfold parseUpFrame
  constructor
  · intro parsed
    split at parsed
    · cases parsed
    · rename_i versionStr classStr seqStr flagsStr payloadHex crcStr scanned
      let fields : ScannedFields :=
        ⟨versionStr, classStr, seqStr, flagsStr, payloadHex, crcStr⟩
      dsimp only at parsed
      split at parsed
      · cases parsed
      rename_i short
      split at parsed
      · cases parsed
      rename_i right
      split at parsed
      · cases parsed
      rename_i payload
      rw [not_or, not_not, Nat.not_lt] at payload
      split at parsed
      · cases parsed
      rename_i bytes read
      cases parsed
      refine ⟨fields, bytes, scanned, ?_, read, rfl⟩
      exact ⟨Nat.not_le.mp short, not_not.mp right, payload.1, payload.2, by
        show (hexBytes payloadHex).isSome = true
        rw [read]
        rfl⟩
  · intro ⟨fields, bytes, scanned, pass, read, equal⟩
    have canonical := pass.short
    have checksum := pass.checksum
    unfold ScannedFields.canonical at canonical checksum
    rw [scanned]
    dsimp only
    rw [if_neg (Nat.not_le.mpr canonical), if_neg (not_not.mpr checksum),
      if_neg (not_or.mpr ⟨not_not.mpr pass.even, Nat.not_lt.mpr pass.fits⟩), read, equal]
    rfl

namespace WrittenCommand

/-- What the receiver finds of a written command: its checksum up to the seventh digit. -/
def fields (written : WrittenCommand) : ScannedFields where
  version := decimalText written.version
  commandClass := decimalText written.commandClass
  seq := decimalText written.seq
  flags := decimalText written.flags
  payload := written.payload
  checksum := written.checksum.take 7

variable {written : WrittenCommand} {line : List UInt8}

/-- The receiver finds what is written in a line, and no other fields. -/
theorem found (formed : written.WellFormed) (on : written.On line) :
    cString line = line ∧ ∀ fields : ScannedFields,
      fields.In line ↔ fields = written.fields := by
  have ⟨ending, ends, whole⟩ := on
  have tag : codes "UP," = [85, 80, 44] := by decide
  have decimal (value : Nat) : ∀ code ∈ decimalText value, code ≠ 0 := by
    rintro code among rfl
    exact absurd (decimalText_digits value 0 among) (by decide)
  have spaces : ∀ code ∈ ending, isSpace code = true := by
    intro code among
    rcases ends code among with rfl | rfl <;> decide
  have single : comma ∉ written.payload := fun among =>
    (isDigit_codes (formed.payload comma among)).2.2.2.2.2.1 rfl
  have ⟨behind, word⟩ := scanWord_digits formed.number formed.digits spaces
  have scanned := scanUpFields_fields
    (decimalText_isField (Nat.le_trans formed.version (by decide)))
    (decimalText_isField (Nat.le_trans formed.commandClass (by decide)))
    (decimalText_isField formed.seq)
    (decimalText_isField (Nat.le_trans formed.flags (by decide))) single word
  constructor
  · apply cString_whole
    have tagged : ∀ code ∈ codes "UP,", code ≠ 0 := by decide +kernel
    have point : comma ≠ 0 := by decide
    have payload : ∀ code ∈ written.payload, code ≠ 0 :=
      fun code own => (isDigit_codes (formed.payload code own)).2.2.2.2.2.2
    have checksum : ∀ code ∈ written.checksum, code ≠ 0 :=
      fun code own => (isDigit_codes (formed.digits code own)).2.2.2.2.2.2
    have ended : ∀ code ∈ ending, code ≠ 0 := by
      intro code own
      rcases ends code own with rfl | rfl <;> decide
    rw [whole, canonical]
    simp only [List.forall_mem_append, List.forall_mem_singleton, and_assoc]
    exact ⟨tagged, decimal _, point, decimal _, point, decimal _, point, decimal _, point, payload,
      point, checksum, ended⟩
  · intro fields
    have text : line.drop 3 = decimalText written.version ++ comma ::
        (decimalText written.commandClass ++ comma :: (decimalText written.seq ++ comma ::
          (decimalText written.flags ++ comma :: (written.payload ++ comma ::
            (written.checksum ++ ending))))) := by
      rw [whole, canonical, tag]
      simp only [List.append_assoc, List.cons_append, List.nil_append, List.drop_succ_cons,
        List.drop_zero]
    rw [ScannedFields.In, text, scanned]
    simp only [Option.some.injEq, Prod.mk.injEq]
    constructor
    · intro ⟨version, commandClass, seq, flags, payload, checksum⟩
      cases fields
      simp only at version commandClass seq flags payload checksum
      simp only [WrittenCommand.fields, version, commandClass, seq, flags, payload, checksum]
    · intro equal
      rw [equal]
      exact ⟨rfl, rfl, rfl, rfl, rfl, rfl⟩

end WrittenCommand

/-- A line that starts with the tag of a command is forwarded as it is parsed, or not at all. -/
theorem processRxLine_outputs {line : List UInt8} (tag : (cString line).take 3 = codes "UP,")
    (now : UInt32) (taken : Bool) (s : State) :
    (processRxLine line now taken s).outputs =
      match parseUpFrame (cString line) with
      | .ok cmd => .forward cmd taken :: s.outputs
      | .error _ => s.outputs := by
  have notAck : (cString line).take 4 ≠ codes "ACK," := by
    intro ack
    have front : ((cString line).take 4).take 3 = codes "UP," := by
      rw [List.take_take]
      exact tag
    rw [ack] at front
    revert front
    decide
  have outputs := (processRxLine_receives line now taken s).outputs
  rw [lineReception, if_neg notAck, if_pos tag] at outputs
  rw [outputs]
  cases parseUpFrame (cString line) <;> rfl

/-- A line is forwarded as what it says, or not at all. -/
def Faithful (line : List UInt8) : Prop :=
  ∀ (now : UInt32) (taken : Bool) (s : State),
    (processRxLine line now taken s).outputs = s.outputs ∨
      ∃ cmd, (processRxLine line now taken s).outputs = .forward cmd taken :: s.outputs ∧
        Says line cmd

/-- A line is written plainly: it is the text of a command with numbers in range, and the first
seven digits of its checksum are the checksum. The receiver reads no more than seven digits of it.
-/
def WrittenPlainly (line : List UInt8) : Prop :=
  ∃ written : WrittenCommand, written.WellFormed ∧ written.On line ∧
    hexValue (written.checksum.take 7) = hexValue written.checksum

/-- Whether the fields that the receiver finds in a line pass its checks. -/
def PassesChecks (line : List UInt8) : Prop :=
  ∃ fields : ScannedFields, fields.In (cString line) ∧ fields.Pass

/-- A number within a width is not changed by the cut to it. -/
theorem toUInt8_toNat {value : Nat} (small : value ≤ 255) : value.toUInt8.toNat = value :=
  UInt8.toNat_ofNat_of_lt' (by show value < 256; omega)

theorem toUInt16_toNat {value : Nat} (small : value ≤ 65535) : value.toUInt16.toNat = value :=
  UInt16.toNat_ofNat_of_lt' (by show value < 65536; omega)

/-- A decimal number is read back from its text. -/
theorem strtoulValue_field {value : Nat} (small : value ≤ 65535) :
    strtoulValue 0 (decimalText value) = value :=
  strtoulValue_decimalText (Nat.le_trans small (by decide))

/-- The checksum of a written command is read as the number of its first digits. -/
theorem WrittenCommand.WellFormed.checksum_read {written : WrittenCommand}
    (formed : written.WellFormed) :
    strtoulValue 16 written.fields.checksum = hexValue (written.checksum.take 7) := by
  have some : written.checksum.take 7 ≠ [] := by
    simpa using formed.number
  exact strtoulValue_hex some (fun code among => formed.digits code (List.mem_of_mem_take among))
    (List.length_take_le 7 written.checksum)

/-- The command that is forwarded for a written one carries what is written. -/
theorem WrittenCommand.WellFormed.carries {written : WrittenCommand} (formed : written.WellFormed)
    (pass : written.fields.Pass) {bytes : List UInt8}
    (read : hexBytes written.payload = some bytes) :
    written.Carries (written.fields.command bytes) := by
  have even : written.payload.length % 2 = 0 := pass.even
  have fits : written.payload.length / 2 ≤ 196 := pass.fits
  have length := (hexBytes_digits read even).2
  have count : (written.payload.length / 2).toUInt8.toNat = bytes.length := by
    rw [toUInt8_toNat (by omega)]
    omega
  constructor
  · show (strtoulValue 0 (decimalText written.version)).toUInt8.toNat = _
    rw [strtoulValue_field (Nat.le_trans formed.version (by decide)),
      toUInt8_toNat formed.version]
  · show (strtoulValue 0 (decimalText written.commandClass)).toUInt8.toNat = _
    rw [strtoulValue_field (Nat.le_trans formed.commandClass (by decide)),
      toUInt8_toNat formed.commandClass]
  · show (strtoulValue 0 (decimalText written.seq)).toUInt16.toNat = _
    rw [strtoulValue_field formed.seq, toUInt16_toNat formed.seq]
  · show (strtoulValue 0 (decimalText written.flags)).toUInt8.toNat = _
    rw [strtoulValue_field (Nat.le_trans formed.flags (by decide)), toUInt8_toNat formed.flags]
  · show 2 * (written.payload.length / 2).toUInt8.toNat = _
    omega
  · show hexBytes written.payload =
      some ((payloadOf bytes).toList.take (written.payload.length / 2).toUInt8.toNat)
    rw [count, payloadOf_take (by omega), read]

/-- A line that starts with the tag of a command is forwarded as what it says, or not at all,
exactly when it fails the checks of the receiver or is written plainly. The fields are read by
`strtoul`, whose end and range are not looked at. -/
theorem text_fields_faithful_iff {line : List UInt8}
    (tag : (cString line).take 3 = codes "UP,") :
    Faithful line ↔ (PassesChecks line → WrittenPlainly line) := by
  constructor
  · intro faithful ⟨fields, found, pass⟩
    have ⟨bytes, read⟩ := Option.isSome_iff_exists.mp pass.hexadecimal
    have parsed := parseUpFrame_ok_iff.mpr ⟨fields, bytes, found, pass, read, rfl⟩
    have outputs := processRxLine_outputs tag 0 true initialState
    rw [parsed] at outputs
    rcases faithful 0 true initialState with nothing | ⟨cmd, forwarded, written, formed, on, right,
      carries⟩
    · rw [outputs] at nothing
      exact absurd nothing (List.cons_ne_self _ _)
    · have ⟨whole, finds⟩ := WrittenCommand.found formed on
      rw [whole] at found
      have same := (finds fields).mp found
      rw [same] at pass
      have compared : crc16 written.canonical =
          (hexValue (written.checksum.take 7)).toUInt16 := by
        rw [← formed.checksum_read]
        exact pass.checksum
      have first := hexValue_take_le written.checksum 7
      have word := formed.word
      rw [compared, toUInt16_toNat (by omega)] at right
      exact ⟨written, formed, on, right.symm⟩
  · intro plainly now taken s
    have outputs := processRxLine_outputs tag now taken s
    cases parsed : parseUpFrame (cString line) with
    | error defect =>
      rw [parsed] at outputs
      exact .inl outputs
    | ok cmd =>
      rw [parsed] at outputs
      refine .inr ⟨cmd, outputs, ?_⟩
      have ⟨fields, bytes, found, pass, read, forwarded⟩ := parseUpFrame_ok_iff.mp parsed
      have ⟨written, formed, on, first⟩ := plainly ⟨fields, found, pass⟩
      have ⟨whole, finds⟩ := WrittenCommand.found formed on
      rw [whole] at found
      have same := (finds fields).mp found
      rw [same] at pass read forwarded
      have compared : crc16 written.canonical = (hexValue written.checksum).toUInt16 := by
        rw [← first, ← formed.checksum_read]
        exact pass.checksum
      have right : hexValue written.checksum = (crc16 written.canonical).toNat := by
        rw [compared, toUInt16_toNat formed.word]
      exact ⟨written, formed, on, right, forwarded ▸ formed.carries pass read⟩

/-- A configuration command that is written plainly. -/
def plainLine : List UInt8 := codes "UP,1,1,5,0,ab,3e06\n"

/-- The same with a sequence number that is too large by 65536. -/
def largeLine : List UInt8 := codes "UP,1,1,65541,0,ab,F573\n"

/-- A line that is written plainly is forwarded as what it says. -/
theorem text_fields_faithful_plain : Faithful plainLine := by
  refine (text_fields_faithful_iff (by decide +kernel)).mpr fun _ => ?_
  refine ⟨⟨1, 1, 5, 0, codes "ab", codes "3e06"⟩, ?_, ⟨[10], by decide +kernel, by decide +kernel⟩,
    by decide +kernel⟩
  constructor
  all_goals decide +kernel

/-- A sequence number that is too large is forwarded as another one. -/
theorem large_sequence_forwarded : ¬ ∀ line : List UInt8,
    (cString line).take 3 = codes "UP," → Faithful line := by
  intro always
  let fields : ScannedFields :=
    ⟨codes "1", codes "1", codes "65541", codes "0", codes "ab", codes "F573"⟩
  have tag : (cString largeLine).take 3 = codes "UP," := by decide +kernel
  have found : fields.In (cString largeLine) := rfl
  have pass : fields.Pass := by
    constructor
    all_goals decide +kernel
  have parsed := parseUpFrame_ok_iff.mpr ⟨fields, [0xAB], found, pass, by decide +kernel, rfl⟩
  have outputs := processRxLine_outputs tag 0 true initialState
  rw [parsed] at outputs
  rcases always largeLine tag 0 true initialState with nothing | ⟨cmd, same, meant⟩
  · rw [outputs] at nothing
    exact absurd nothing (List.cons_ne_self _ _)
  · rw [outputs] at same
    simp only [List.cons.injEq, Output.forward.injEq, and_true] at same
    have ⟨written, _, ⟨ending, _, whole⟩, _, carries⟩ := meant
    rw [← same] at carries
    have version : 1 = written.version := by
      rw [← carries.version]
      decide +kernel
    have commandClass : 1 = written.commandClass := by
      rw [← carries.commandClass]
      decide +kernel
    have seq : 5 = written.seq := by
      rw [← carries.seq]
      decide +kernel
    have front := congrArg (List.take 8) whole
    have one : decimalText 1 = [49] := by decide
    have five : decimalText 5 = [53] := by decide
    have tag : codes "UP," = [85, 80, 44] := by decide
    rw [WrittenCommand.canonical, ← version, ← commandClass, ← seq, one, five, tag] at front
    simp only [List.append_assoc, List.cons_append, List.nil_append, List.take_succ_cons,
      List.take_zero] at front
    revert front
    decide +kernel

end CfsTelemetry.Ground
