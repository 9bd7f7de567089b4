import CfsTelemetry.Ground.Encoder
import CfsTelemetry.Ground.TextFields

/-!
# The text line and the binary frame of a command

The ground can send a command as a text line or as a binary frame. The receiver forwards the same
command for both exactly when the line fits its buffer, which holds 255 bytes with the newline,
although the scan behind it takes payloads as long as those of a binary frame.
-/
namespace CfsTelemetry.Ground

open Framing Lora Lora.Text

section

variable (version commandClass seq : Nat) (payload : List UInt8) (flags : Nat)

/-- The fields of a line behind its tag, up to the checksum. -/
def lineFields : List UInt8 :=
  decimalText version ++ [comma] ++ decimalText commandClass ++ [comma] ++ decimalText seq ++
    [comma] ++ decimalText flags ++ [comma] ++ hexUpper payload

/-- The text of a line without its checksum. -/
def canonicalWithoutCrc : List UInt8 :=
  codes "UP," ++ lineFields version commandClass seq payload flags

/-- Build the text of an uplink command. -/
def buildLoraUplinkFrame : List UInt8 :=
  let canonicalWithoutCrc := canonicalWithoutCrc version commandClass seq payload flags
  let crc := crc16Ccitt canonicalWithoutCrc
  canonicalWithoutCrc ++ [comma] ++ hexWord crc

/-- The line that is written to the port. -/
def lineOf : List UInt8 := buildLoraUplinkFrame version commandClass seq payload flags ++ [10]

/-- The number of characters of a number. -/
def digits (value : Nat) : Nat := (decimalText value).length

/-- The number of bytes of a line, with its newline. -/
def lineLength : Nat :=
  13 + (digits version + digits commandClass + digits seq + digits flags) + 2 * payload.length

end

/-! ## What the receiver scans -/

section

variable {version commandClass seq flags : Nat} {payload : List UInt8}

/-- A line has the length that its fields say. -/
theorem lineOf_length : (lineOf version commandClass seq payload flags).length =
    lineLength version commandClass seq payload flags := by
  have tag : (codes "UP,").length = 3 := by decide
  simp only [lineOf, buildLoraUplinkFrame, canonicalWithoutCrc, lineFields, List.length_append,
    List.length_singleton, hexUpper_length, hexWord_length, tag, lineLength, digits]
  omega

/-- The number of characters of a byte, and of a word. -/
theorem digits_le {value width : Nat} (positive : 0 < width) (small : value < 10 ^ width) :
    digits value ≤ width := by
  unfold digits decimalText
  rw [List.length_map]
  exact (Nat.length_toDigits_le_iff (by decide) positive).mpr small

/-- A field without a comma, followed by a comma, is scanned whole. -/
theorem scanField_comma {width : Nat} {field rest : List UInt8} (some : field ≠ [])
    (single : comma ∉ field) (fits : field.length ≤ width) :
    scanField width (field ++ comma :: rest) = .some (field, comma :: rest) := by
  have taken : ((field ++ comma :: rest).take width).takeWhile (· != comma) = field := by
    have front : (field ++ comma :: rest).take width =
        field ++ (comma :: rest).take (width - field.length) := by
      rw [List.take_append, List.take_of_length_le fits]
    have plain : ∀ code ∈ field, (code != comma) = true := by
      intro code among
      rw [bne_iff_ne]
      intro same
      exact single (same ▸ among)
    rw [front, List.takeWhile_append_of_pos plain]
    cases width - field.length with
    | zero => simp
    | succ more => simp
  unfold scanField
  rw [taken]
  dsimp only
  rw [if_neg (by simpa using some), List.drop_left]

/-- A comma is scanned. -/
theorem scanComma_comma (rest : List UInt8) : scanComma (comma :: rest) = some rest := by
  simp [scanComma]

/-- No field is scanned at a comma. -/
theorem scanField_none (width : Nat) (rest : List UInt8) :
    scanField width (comma :: rest) = none := by
  unfold scanField
  cases width <;> rfl

/-- The checksum at the end of a line is scanned. -/
theorem scanWord_hexWord (word : Nat) :
    scanWord 7 (hexWord word ++ [10]) = some (hexWord word, [10]) := by
  have plain : ∀ code ∈ hexWord word, isSpace code = false :=
    fun code among => (plain_code (hexWord_plain word code among)).1
  have start : (hexWord word ++ [10]).dropWhile isSpace = hexWord word ++ [10] := by
    have first := plain _ (List.mem_cons_self ..)
    unfold hexWord at first ⊢
    rw [List.cons_append, List.dropWhile_cons, first]
    rfl
  have taken : ((hexWord word ++ [10]).take 7).takeWhile (! isSpace ·) = hexWord word := by
    have short : (hexWord word ++ [10]).take 7 = hexWord word ++ [10] := rfl
    have each : ∀ code ∈ hexWord word, (! isSpace code) = true := by
      intro code among
      rw [plain code among]
      rfl
    rw [short, List.takeWhile_append_of_pos each]
    simp [isSpace]
  unfold scanWord
  dsimp only
  rw [start, taken]
  rfl

/-- Decimal text is not empty and has no comma. -/
theorem decimalText_field (value : Nat) : decimalText value ≠ [] ∧ comma ∉ decimalText value := by
  constructor
  · intro none
    exact Nat.toDigits_ne_nil (List.map_eq_nil_iff.mp none)
  · intro among
    exact absurd (decimalText_digits value comma among) (by decide)

/-- The digits of bytes have no comma. -/
theorem hexUpper_comma (bytes : List UInt8) : comma ∉ hexUpper bytes :=
  fun among => absurd (hexUpper_plain bytes comma among) (by decide)

/-- A field that is scanned whole before a comma. -/
structure IsField (field : List UInt8) : Prop where
  some : field ≠ []
  single : comma ∉ field
  fits : field.length ≤ 7

/-- Decimal text of a number of a field is scanned whole. -/
theorem decimalText_isField {value : Nat} (small : value ≤ 65535) :
    IsField (decimalText value) where
  some := (decimalText_field value).1
  single := (decimalText_field value).2
  fits := digits_le (by decide) (by omega)

/-- Fields between commas are scanned as they are, and the word after the last comma. -/
theorem scanUpFields_fields {version commandClass seq flags payload rest word behind : List UInt8}
    (isVersion : IsField version) (isClass : IsField commandClass) (isSeq : IsField seq)
    (isFlags : IsField flags) (single : comma ∉ payload)
    (scanned : scanWord 7 rest = some (word, behind)) :
    scanUpFields (version ++ comma :: (commandClass ++ comma :: (seq ++ comma :: (flags ++
        comma :: (payload ++ comma :: rest))))) =
      some (version, commandClass, seq, flags, payload, word) := by
  have field {field : List UInt8} (own : IsField field) (rest : List UInt8) :
      scanField 7 (field ++ comma :: rest) = .some (field, comma :: rest) :=
    scanField_comma own.some own.single own.fits
  unfold scanUpFields
  simp only [field isVersion, field isClass, field isSeq, field isFlags, scanComma_comma,
    Option.bind_eq_bind, Option.bind_some]
  by_cases empty : payload = []
  · rw [empty, List.nil_append, scanField_none]
    simp only [Option.bind_none, scanComma_comma, Option.bind_some, scanned]
    rfl
  · rw [scanField_comma empty single (by simp)]
    simp only [Option.bind_some, scanComma_comma, scanned]
    rfl

/-- The fields of a line are scanned as they were written. -/
theorem scanUpFields_line (bounds : version ≤ 255 ∧ commandClass ≤ 255 ∧ flags ≤ 255)
    (seqBound : seq ≤ 65535) (word : Nat) :
    scanUpFields (lineFields version commandClass seq payload flags ++
        comma :: (hexWord word ++ [10])) =
      some (decimalText version, decimalText commandClass, decimalText seq, decimalText flags,
        hexUpper payload, hexWord word) := by
  have shaped : lineFields version commandClass seq payload flags ++
      comma :: (hexWord word ++ [10]) =
        decimalText version ++ comma :: (decimalText commandClass ++ comma :: (decimalText seq ++
          comma :: (decimalText flags ++ comma :: (hexUpper payload ++
            comma :: (hexWord word ++ [10]))))) := by
    simp only [lineFields, List.append_assoc, List.nil_append, List.cons_append]
  rw [shaped]
  exact scanUpFields_fields (decimalText_isField (by omega)) (decimalText_isField (by omega))
    (decimalText_isField seqBound) (decimalText_isField (by omega)) (hexUpper_comma payload)
    (scanWord_hexWord word)

/-- A line has at most this many bytes. -/
theorem lineLength_le (bounds : version ≤ 255 ∧ commandClass ≤ 255 ∧ flags ≤ 255)
    (seqBound : seq ≤ 65535) (small : payload.length ≤ 196) :
    lineLength version commandClass seq payload flags ≤ 425 := by
  have versionDigits := @digits_le version 5 (by decide) (by omega)
  have classDigits := @digits_le commandClass 5 (by decide) (by omega)
  have seqDigits := @digits_le seq 5 (by decide) (by omega)
  have flagsDigits := @digits_le flags 5 (by decide) (by omega)
  unfold lineLength
  omega

/-- The canonical text is within the limit of the receiver. -/
theorem canonical_length (bounds : version ≤ 255 ∧ commandClass ≤ 255 ∧ flags ≤ 255)
    (seqBound : seq ≤ 65535) (small : payload.length ≤ 196) :
    (canonicalWithoutCrc version commandClass seq payload flags).length < 640 := by
  have length := @lineOf_length version commandClass seq flags payload
  have limit := @lineLength_le version commandClass seq flags payload bounds seqBound small
  have behind : (lineOf version commandClass seq payload flags).length =
      (canonicalWithoutCrc version commandClass seq payload flags).length + 6 := by
    simp only [lineOf, buildLoraUplinkFrame, List.length_append, List.length_singleton,
      hexWord_length]
  omega

/-- The command that is forwarded for what the encoder was given. -/
def commandOf (version commandClass seq : Nat) (payload : List UInt8) (flags : Nat) :
    ProcessUplinkCmd := (up2Of version commandClass seq payload flags).command

/-- A line is parsed as the command that it was built from. -/
theorem parseUpFrame_line (bounds : version ≤ 255 ∧ commandClass ≤ 255 ∧ flags ≤ 255)
    (seqBound : seq ≤ 65535) (small : payload.length ≤ 196) :
    parseUpFrame (lineOf version commandClass seq payload flags) =
      .ok (commandOf version commandClass seq payload flags) := by
  have crcBound : crc16Ccitt (canonicalWithoutCrc version commandClass seq payload flags) <
      65536 := by
    rw [crc16Ccitt_eq]
    exact UInt16.toNat_lt _
  have behind : (lineOf version commandClass seq payload flags).drop 3 =
      lineFields version commandClass seq payload flags ++ comma ::
        (hexWord (crc16Ccitt (canonicalWithoutCrc version commandClass seq payload flags)) ++
          [10]) := by
    have tag : codes "UP," = [85, 80, 44] := by decide
    simp only [lineOf, buildLoraUplinkFrame, canonicalWithoutCrc, tag, List.append_assoc,
      List.cons_append, List.nil_append, List.drop_succ_cons, List.drop_zero]
  have value : ∀ value, value ≤ 65535 → strtoulValue 0 (decimalText value) = value := by
    intro value bound
    exact strtoulValue_decimalText (Nat.le_trans bound (by decide))
  have canonical : codes "UP," ++ decimalText version ++ [comma] ++ decimalText commandClass ++
      [comma] ++ decimalText seq ++ [comma] ++ decimalText flags ++ [comma] ++ hexUpper payload =
        canonicalWithoutCrc version commandClass seq payload flags := by
    simp only [canonicalWithoutCrc, lineFields, List.append_assoc]
  have limit := @canonical_length version commandClass seq flags payload bounds seqBound small
  have even : ¬ ((hexUpper payload).length % 2 ≠ 0 ∨ (hexUpper payload).length / 2 > 196) := by
    rw [hexUpper_length]
    omega
  have half : (hexUpper payload).length / 2 = payload.length := by
    rw [hexUpper_length]
    omega
  have checksum : crc16 (canonicalWithoutCrc version commandClass seq payload flags) =
      (strtoulValue 16 (hexWord (crc16Ccitt
        (canonicalWithoutCrc version commandClass seq payload flags)))).toUInt16 := by
    rw [strtoulValue_hexWord crcBound, crc16Ccitt_eq]
    exact UInt16.ofNat_toNat.symm
  have whole : seq &&& 0xFFFF = seq := by
    rw [show seq &&& 0xFFFF = seq % 2 ^ 16 from Nat.and_two_pow_sub_one_eq_mod seq 16]
    omega
  unfold parseUpFrame
  rw [behind, scanUpFields_line bounds seqBound]
  dsimp only
  rw [canonical, ← checksum, if_neg (by omega), if_neg (not_not.mpr rfl), if_neg even,
    hexBytes_hexUpper, value version (by omega), value commandClass (by omega), value seq seqBound,
    value flags (by omega), half]
  dsimp only
  rw [commandOf, Up2Decoded.command, up2Of, whole]

/-! ## What is forwarded -/

/-- What a unit means for the feedback. -/
def unitReception (taken : Bool) : RxUnit → Reception
  | .line text => lineReception text taken
  | .binary buf => frameReception buf taken

/-- Handling a unit does what its reception says. -/
theorem handle_receives (dispatch : Dispatch) (s : State) :
    Receives (unitReception dispatch.taken dispatch.unit) s (dispatch.handle s) := by
  unfold Dispatch.handle
  cases dispatch.unit with
  | line text => exact processRxLine_receives text dispatch.now dispatch.taken s
  | binary buf => exact processRxBinaryFrame_receives buf dispatch.now dispatch.taken s

/-- Bytes that come up the line, in whatever windows, are handled by forwarding a command once,
and nothing else. -/
def Forwards (bytes : List UInt8) (cmd : ProcessUplinkCmd) : Prop :=
  ∀ (s : State) (visits : List Visit), s.receiver.Ready →
    (visitReads s visits).map RxByte.value = bytes → ∃ taken, ∀ app : State,
      ((visitDispatches s visits).foldl Dispatch.handle app).outputs =
        .forward cmd taken :: app.outputs

/-- Two encodings of a command are equivalent: one and the same command is forwarded for both. -/
def Equivalent (line frame : List UInt8) : Prop :=
  ∃ cmd, Forwards line cmd ∧ Forwards frame cmd

/-- A unit that means a command is forwarded. -/
theorem forwards_of_unit {bytes : List UInt8} {unit : WireUnit} {cmd : ProcessUplinkCmd}
    (written : unit.bytes = bytes)
    (means : ∀ taken, unitReception taken unit.received = .forwarded cmd taken) :
    Forwards bytes cmd := by
  intro s visits ready sent
  have handed := (visits_units [unit] ready (by
    rw [sent, List.flatMap_cons, List.flatMap_nil, List.append_nil, written])).2
  rw [List.map_singleton] at handed
  obtain ⟨dispatch, one, own⟩ := List.map_eq_singleton_iff.mp handed
  refine ⟨dispatch.taken, fun app => ?_⟩
  rw [one]
  have outputs := (handle_receives dispatch app).outputs
  rw [own, means] at outputs
  exact outputs

/-- A frame of the encoder whose payload is within the limit is a unit that means its command. -/
theorem frame_unit {frame : List UInt8}
    (built : buildUp2 version commandClass seq payload flags = some frame)
    (small : payload.length ≤ 196) :
    ∃ unit : WireUnit, unit.bytes = frame ∧ ∀ taken, unitReception taken unit.received =
      .forwarded (commandOf version commandClass seq payload flags) taken := by
  obtain ⟨unit, written, received⟩ := buildUp2_unit built small
  obtain ⟨-, whole⟩ := buildUp2_eq_some built
  have magic : byteAt frame 0 = up2Magic := by
    rw [whole]
    rfl
  have parsed := parseUp2Frame_built built
  rw [if_pos small] at parsed
  refine ⟨unit, written, fun taken => ?_⟩
  rw [received, unitReception, frameReception, magic, if_neg (by decide), if_pos rfl, parsed]
  rfl

/-- A frame of the encoder whose payload is within the limit is forwarded. -/
theorem frame_forwards {frame : List UInt8}
    (built : buildUp2 version commandClass seq payload flags = some frame)
    (small : payload.length ≤ 196) :
    Forwards frame (commandOf version commandClass seq payload flags) := by
  obtain ⟨unit, written, means⟩ := frame_unit built small
  exact forwards_of_unit written means

/-- The codes of a line behind its tag: digits, commas, and the newline at the end. -/
theorem lineFields_codes :
    ∀ code ∈ lineFields version commandClass seq payload flags, IsPlain code ∨ code = comma := by
  have decimal : ∀ value, ∀ code ∈ decimalText value, IsPlain code :=
    fun value code among => .inl (decimalText_digits value code among)
  intro code among
  simp only [lineFields, List.mem_append, List.mem_singleton] at among
  rcases among with
    (((((((own | own) | own) | own) | own) | own) | own) | own) | own
  · exact .inl (decimal _ code own)
  · exact .inr own
  · exact .inl (decimal _ code own)
  · exact .inr own
  · exact .inl (decimal _ code own)
  · exact .inr own
  · exact .inl (decimal _ code own)
  · exact .inr own
  · exact .inl (hexUpper_plain _ code own)

/-- The text of a line has neither a newline nor a zero. -/
theorem buildLoraUplinkFrame_codes :
    ∀ code ∈ buildLoraUplinkFrame version commandClass seq payload flags,
      code ≠ 10 ∧ code ≠ 0 := by
  have plain : ∀ code, IsPlain code ∨ code = comma → code ≠ 10 ∧ code ≠ 0 := by
    intro code own
    constructor
    · rintro rfl
      exact absurd own (by decide)
    · rintro rfl
      exact absurd own (by decide)
  have tag : ∀ code ∈ codes "UP,", code ≠ 10 ∧ code ≠ 0 := by
    have checked : (codes "UP,").all (fun code => code != 10 && code != 0) = true := by decide
    intro code mem
    have both := List.all_eq_true.mp checked code mem
    rw [Bool.and_eq_true, bne_iff_ne, bne_iff_ne] at both
    exact both
  intro code among
  simp only [buildLoraUplinkFrame, canonicalWithoutCrc, List.mem_append, List.mem_singleton]
    at among
  rcases among with ((own | own) | own) | own
  · exact tag code own
  · exact plain code (lineFields_codes code own)
  · exact plain code (.inr own)
  · exact plain code (.inl (hexWord_plain _ code own))

/-- A line without a zero is the text that the receiver sees. -/
theorem cString_whole {text : List UInt8} (each : ∀ code ∈ text, code ≠ 0) :
    cString text = text := by
  rw [cString, List.takeWhile_eq_self_iff]
  intro code among
  exact bne_iff_ne.mpr (each code among)

/-- A line starts with its tag. -/
theorem lineOf_tag : ∃ rest, buildLoraUplinkFrame version commandClass seq payload flags =
    85 :: 80 :: 44 :: rest := by
  have tag : codes "UP," = [85, 80, 44] := by decide
  unfold buildLoraUplinkFrame canonicalWithoutCrc
  rw [tag]
  exact ⟨_, rfl⟩

/-- A line means the command that it was built from. -/
theorem lineReception_lineOf (bounds : version ≤ 255 ∧ commandClass ≤ 255 ∧ flags ≤ 255)
    (seqBound : seq ≤ 65535) (small : payload.length ≤ 196) (taken : Bool) :
    lineReception (lineOf version commandClass seq payload flags) taken =
      .forwarded (commandOf version commandClass seq payload flags) taken := by
  have parsed := @parseUpFrame_line version commandClass seq flags payload bounds seqBound small
  have text : cString (lineOf version commandClass seq payload flags) =
      lineOf version commandClass seq payload flags := by
    apply cString_whole
    intro code among
    rcases List.mem_append.mp among with own | last
    · exact (buildLoraUplinkFrame_codes code own).2
    · rw [List.mem_singleton.mp last]
      decide
  obtain ⟨rest, shaped⟩ := @lineOf_tag version commandClass seq flags payload
  have front :
      lineOf version commandClass seq payload flags = 85 :: 80 :: 44 :: (rest ++ [10]) := by
    unfold lineOf
    rw [shaped]
    rfl
  have notAck : (lineOf version commandClass seq payload flags).take 4 ≠ codes "ACK," := by
    rw [front, show codes "ACK," = [65, 67, 75, 44] by decide]
    intro same
    cases same
  have up : (lineOf version commandClass seq payload flags).take 3 = codes "UP," := by
    rw [front]
    rfl
  unfold lineReception
  dsimp only
  rw [text, if_neg notAck, if_pos up, parsed]

/-- A line that fits the buffer is a unit that means its command. -/
theorem line_unit (bounds : version ≤ 255 ∧ commandClass ≤ 255 ∧ flags ≤ 255)
    (seqBound : seq ≤ 65535) (small : payload.length ≤ 196)
    (fits : lineLength version commandClass seq payload flags ≤ 255) :
    ∃ unit : WireUnit, unit.bytes = lineOf version commandClass seq payload flags ∧
      ∀ taken, unitReception taken unit.received =
        .forwarded (commandOf version commandClass seq payload flags) taken := by
  have single : 10 ∉ buildLoraUplinkFrame version commandClass seq payload flags :=
    fun among => (buildLoraUplinkFrame_codes 10 among).1 rfl
  have length : (buildLoraUplinkFrame version commandClass seq payload flags).length + 1 ≤ 255 := by
    have whole := @lineOf_length version commandClass seq flags payload
    rw [lineOf, List.length_append, List.length_singleton] at whole
    omega
  have plain : ∀ byte ∈ (buildLoraUplinkFrame version commandClass seq payload flags).head?,
      byte ≠ ack2Magic ∧ byte ≠ up2Magic := by
    intro byte first
    obtain ⟨rest, shaped⟩ := @lineOf_tag version commandClass seq flags payload
    rw [shaped] at first
    cases first
    exact ⟨by decide, by decide⟩
  have written : (WireUnit.line _ single length plain).bytes =
      lineOf version commandClass seq payload flags := rfl
  refine ⟨_, written, fun taken => ?_⟩
  have received : (WireUnit.line _ single length plain).received =
      .line (lineOf version commandClass seq payload flags) := congrArg RxUnit.line written
  rw [received, unitReception]
  exact lineReception_lineOf bounds seqBound small taken

/-- A line that fits the buffer is forwarded. -/
theorem line_forwards (bounds : version ≤ 255 ∧ commandClass ≤ 255 ∧ flags ≤ 255)
    (seqBound : seq ≤ 65535) (small : payload.length ≤ 196)
    (fits : lineLength version commandClass seq payload flags ≤ 255) :
    Forwards (lineOf version commandClass seq payload flags)
      (commandOf version commandClass seq payload flags) := by
  obtain ⟨unit, written, means⟩ := line_unit bounds seqBound small fits
  exact forwards_of_unit written means

/-- A text of digits, commas and newlines means nothing to the receiver. -/
theorem lineReception_silent {text : List UInt8}
    (each : ∀ code ∈ text, IsPlain code ∨ code = comma ∨ code = 10) (taken : Bool) :
    lineReception text taken = .silent := by
  have whole : cString text = text := by
    apply cString_whole
    intro code among zero
    rw [zero] at among
    exact absurd (each 0 among) (by decide)
  -- The third letter of one tag and the first of the other are none of these codes.
  have notAck : text.take 4 ≠ codes "ACK," := by
    intro same
    have letter : (75 : UInt8) ∈ text.take 4 := by
      rw [same]
      decide
    exact absurd (each 75 (List.mem_of_mem_take letter)) (by decide)
  have notUp : text.take 3 ≠ codes "UP," := by
    intro same
    have letter : (85 : UInt8) ∈ text.take 3 := by
      rw [same]
      decide
    exact absurd (each 85 (List.mem_of_mem_take letter)) (by decide)
  unfold lineReception
  dsimp only
  rw [whole, if_neg notAck, if_neg notUp]

/-- The codes of a line behind its tag are digits and commas. -/
theorem buildLoraUplinkFrame_drop :
    ∀ code ∈ (buildLoraUplinkFrame version commandClass seq payload flags).drop 3,
      IsPlain code ∨ code = comma := by
  have behind : (buildLoraUplinkFrame version commandClass seq payload flags).drop 3 =
      lineFields version commandClass seq payload flags ++ [comma] ++
        hexWord (crc16Ccitt (canonicalWithoutCrc version commandClass seq payload flags)) := by
    have tag : codes "UP," = [85, 80, 44] := by decide
    simp only [buildLoraUplinkFrame, canonicalWithoutCrc, tag, List.append_assoc,
      List.cons_append, List.nil_append, List.drop_succ_cons, List.drop_zero]
  intro code among
  rw [behind, List.mem_append, List.mem_append, List.mem_singleton] at among
  rcases among with (own | own) | own
  · exact lineFields_codes code own
  · exact .inr own
  · exact .inl (hexWord_plain _ code own)

/-- What the receiver makes of the bytes of a line that does not fit means nothing. -/
theorem feed_longLine {r : Receiver} (ready : r.Ready)
    (bounds : version ≤ 255 ∧ commandClass ≤ 255 ∧ flags ≤ 255) (seqBound : seq ≤ 65535)
    (small : payload.length ≤ 196)
    (long : 255 < lineLength version commandClass seq payload flags) :
    ∀ unit ∈ (Framing.feed Receiver.step r (lineOf version commandClass seq payload flags)).2,
      ∀ taken, unitReception taken unit = .silent := by
  have limit := @lineLength_le version commandClass seq flags payload bounds seqBound small
  have length := @lineOf_length version commandClass seq flags payload
  have codes := @buildLoraUplinkFrame_codes version commandClass seq flags payload
  have behind := @buildLoraUplinkFrame_drop version commandClass seq flags payload
  obtain ⟨later, shaped⟩ := @lineOf_tag version commandClass seq flags payload
  unfold lineOf at length ⊢
  generalize buildLoraUplinkFrame version commandClass seq payload flags = text at *
  rw [List.length_append, List.length_singleton] at length
  -- The first 255 bytes fill the buffer.
  have filled : text.take 255 = 85 :: (80 :: 44 :: later).take 254 := by
    rw [shaped]
    rfl
  have full : (85 :: (80 :: 44 :: later).take 254).length = 255 := by
    rw [← filled, List.length_take]
    omega
  have single : (10 : UInt8) ∉ 85 :: (80 :: 44 :: later).take 254 := by
    rw [← filled]
    exact fun among => (codes 10 (List.mem_of_mem_take among)).1 rfl
  have split : text = 85 :: (80 :: 44 :: later).take 254 ++ text.drop 255 := by
    rw [← filled, List.take_append_drop]
  have overflow := fun byte => @feed_overflow r ready 85 ((80 :: 44 :: later).take 254) byte
    ⟨by decide, by decide⟩ single full
  cases rest : text.drop 255 with
  | nil =>
    rw [rest, List.append_nil] at split
    rw [split, List.cons_append, (overflow 10).2]
    exact fun _ impossible => nomatch impossible
  | cons byte last =>
    have among : ∀ code ∈ last, code ∈ text.drop 3 := by
      intro code own
      have dropped : code ∈ text.drop 255 := by
        rw [rest]
        exact List.mem_cons_of_mem _ own
      have deeper : text.drop 255 = (text.drop 3).drop 252 := by rw [List.drop_drop]
      rw [deeper] at dropped
      exact List.mem_of_mem_drop dropped
    have plain : ∀ code ∈ last, IsPlain code ∨ code = comma :=
      fun code own => behind code (among code own)
    have lineSingle : 10 ∉ last := fun own => absurd (plain 10 own) (by decide)
    have fits : last.length + 1 ≤ 255 := by
      have dropped := congrArg List.length rest
      rw [List.length_drop, List.length_cons] at dropped
      omega
    have first : ∀ code ∈ last.head?, code ≠ ack2Magic ∧ code ≠ up2Magic := by
      intro code own
      have known := plain code (List.mem_of_mem_head? own)
      constructor
      · rintro rfl
        exact absurd known (by decide)
      · rintro rfl
        exact absurd known (by decide)
    have regroup : text ++ [10] =
        85 :: ((80 :: 44 :: later).take 254 ++ [byte]) ++ (last ++ [10]) := by
      rw [split, rest]
      simp only [List.cons_append, List.append_assoc, List.nil_append]
    obtain ⟨again, quiet⟩ := overflow byte
    have handed := (feed_unit again (.line last lineSingle fits first)).2
    have written : (WireUnit.line last lineSingle fits first).bytes = last ++ [10] := rfl
    rw [written] at handed
    rw [regroup, feed_append, quiet, List.nil_append, handed]
    intro unit own taken
    rw [List.mem_singleton.mp own]
    show lineReception (last ++ [10]) taken = .silent
    apply lineReception_silent
    intro code own
    rcases List.mem_append.mp own with own | own
    · exact (plain code own).imp_right .inl
    · exact .inr (.inr (List.mem_singleton.mp own))

/-- Units that mean nothing are handled without an output. -/
theorem foldl_handle_silent (dispatches : List Dispatch)
    (silent : ∀ dispatch ∈ dispatches, unitReception dispatch.taken dispatch.unit = .silent)
    (app : State) : (dispatches.foldl Dispatch.handle app).outputs = app.outputs := by
  induction dispatches generalizing app with
  | nil => rfl
  | cons dispatch rest previous =>
    have outputs := (handle_receives dispatch app).outputs
    rw [silent dispatch (List.mem_cons_self ..)] at outputs
    rw [List.foldl_cons, previous (fun other among => silent other (List.mem_cons_of_mem _ among))]
    exact outputs

/-- The bytes of a window at its start are read. -/
theorem visitReads_byteVisit (bytes : List UInt8) :
    (visitReads openState [byteVisit bytes]).map RxByte.value = bytes := by
  have each : ∀ bytes : List UInt8, (Lora.reads (deadlineMs 0) true
      (bytes.map fun value => ⟨0, .byte value, 0, true⟩)).map RxByte.value = bytes := by
    intro bytes
    induction bytes with
    | nil => rfl
    | cons byte rest previous =>
      have early : ¬ clockMs 0 ≥ deadlineMs 0 := by decide
      rw [List.map_cons, Lora.reads, if_neg early, if_neg (by decide)]
      dsimp only
      rw [List.map_cons, previous]
  show (_ ++ []).map RxByte.value = bytes
  rw [List.append_nil]
  exact each bytes

/-- A line that does not fit is not forwarded. -/
theorem longLine_not_forwards (bounds : version ≤ 255 ∧ commandClass ≤ 255 ∧ flags ≤ 255)
    (seqBound : seq ≤ 65535) (small : payload.length ≤ 196)
    (long : 255 < lineLength version commandClass seq payload flags) (cmd : ProcessUplinkCmd) :
    ¬ Forwards (lineOf version commandClass seq payload flags) cmd := by
  intro forwards
  have read := visitReads_byteVisit (lineOf version commandClass seq payload flags)
  obtain ⟨taken, outputs⟩ := forwards openState [byteVisit _] ⟨rfl, rfl⟩ read
  have silent := @feed_longLine version commandClass seq flags payload openState.receiver
    ⟨rfl, rfl⟩ bounds seqBound small long
  rw [← read, ← dispatched_units, ← (visits_eq _ openState).2] at silent
  have quiet := foldl_handle_silent _ (fun dispatch among =>
    silent dispatch.unit (List.mem_map_of_mem among) dispatch.taken) openState
  rw [outputs openState] at quiet
  exact absurd (congrArg List.length quiet) (by simp)

/-- For every command, its text line and its binary frame are equivalent exactly when the line fits
the buffer of the receiver. A line has two digits for each byte of its payload, and the buffer has
256 bytes. -/
theorem textLine_equivalent_iff {frame : List UInt8}
    (bounds : version ≤ 255 ∧ commandClass ≤ 255 ∧ flags ≤ 255) (seqBound : seq ≤ 65535)
    (small : payload.length ≤ 196)
    (built : buildUp2 version commandClass seq payload flags = some frame) :
    Equivalent (lineOf version commandClass seq payload flags) frame ↔
      lineLength version commandClass seq payload flags ≤ 255 := by
  constructor
  · rintro ⟨cmd, forwards, -⟩
    by_contra long
    exact longLine_not_forwards bounds seqBound small (Nat.lt_of_not_le long) cmd forwards
  · intro fits
    exact ⟨_, line_forwards bounds seqBound small fits, frame_forwards built small⟩

end

/-- The two encodings of a diagnostic command are equivalent. -/
theorem textLine_equivalent_diagnostic :
    ∃ frame, buildUp2 1 6 7 [0, 0, 0, 0, 0, 0] 0x40 = some frame ∧
      Equivalent (lineOf 1 6 7 [0, 0, 0, 0, 0, 0] 0x40) frame := by
  have made : (buildUp2 1 6 7 [0, 0, 0, 0, 0, 0] 0x40).isSome = true := by decide +kernel
  obtain ⟨frame, built⟩ := Option.isSome_iff_exists.mp made
  exact ⟨frame, built, (textLine_equivalent_iff (by decide) (by decide) (by decide) built).mpr
    (by decide)⟩

/-- The line of a command with the longest payload is not forwarded. -/
theorem textLine_not_equivalent :
    ∃ frame, buildUp2 1 2 7 (List.replicate 196 0) 0x80 = some frame ∧
      ¬ Equivalent (lineOf 1 2 7 (List.replicate 196 0) 0x80) frame := by
  have made : (buildUp2 1 2 7 (List.replicate 196 0) 0x80).isSome = true := by decide +kernel
  obtain ⟨frame, built⟩ := Option.isSome_iff_exists.mp made
  have small : (List.replicate 196 (0 : UInt8)).length ≤ 196 := by rw [List.length_replicate]
  have long : 255 < lineLength 1 2 7 (List.replicate 196 0) 0x80 := by
    unfold lineLength
    rw [List.length_replicate]
    omega
  refine ⟨frame, built, ?_⟩
  rintro ⟨cmd, forwards, -⟩
  exact longLine_not_forwards (by decide) (by decide) small long cmd forwards

end CfsTelemetry.Ground
