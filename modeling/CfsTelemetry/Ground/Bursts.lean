import CfsTelemetry.Ground.RoundTrip
import CfsTelemetry.Library.Burst

/-!
# Bursts on the radio

A burst of up to sixteen bits changes the checksum of every string, on the vehicle as on the
ground. So a frame is not accepted when a burst has damaged the bytes that its checksum covers,
unless it has changed the length by which the frame says where its checksum is.
-/
namespace CfsTelemetry.Ground

open Crc Lora

/-- One burst has damaged the covered bytes of a buffer, and nothing else. -/
structure Damaged (covered : Nat) (buf buf' : List UInt8) : Prop where
  burst : Burst (buf.take covered) (buf'.take covered)
  behind : buf'.drop covered = buf.drop covered

section

variable {covered : Nat} {data data' buf buf' : List UInt8}

/-- A burst changes the checksum that the LoRa application computes. -/
theorem crc16_ne (burst : Burst data data') : crc16 data ≠ crc16 data' :=
  burst.checksum_ne (by decide) 0xFFFF

/-- So it does on the ground. -/
theorem crc16Ccitt_ne (burst : Burst data data') : crc16Ccitt data ≠ crc16Ccitt data' := by
  intro same
  rw [crc16Ccitt_eq, crc16Ccitt_eq] at same
  exact crc16_ne burst (UInt16.toNat_inj.mp same)

/-- The bytes behind the covered ones are read as before. -/
theorem Damaged.byteAt (damaged : Damaged covered buf buf') {index : Nat}
    (behind : covered ≤ index) : Lora.byteAt buf' index = Lora.byteAt buf index := by
  have same := congrArg (fun list => list[index - covered]?) damaged.behind
  simp only [List.getElem?_drop, Nat.add_sub_cancel' behind] at same
  rw [Lora.byteAt, same, Lora.byteAt]

/-- So is the checksum. -/
theorem Damaged.getU16LE (damaged : Damaged covered buf buf') :
    Lora.getU16LE buf' covered = Lora.getU16LE buf covered := by
  rw [Lora.getU16LE, damaged.byteAt (Nat.le_refl _), damaged.byteAt (Nat.le_succ _), Lora.getU16LE]

/-- The checksum is no longer right. -/
theorem Damaged.mismatch (damaged : Damaged covered buf buf')
    (right : crc16 (buf.take covered) = Lora.getU16LE buf covered) :
    crc16 (buf'.take covered) ≠ Lora.getU16LE buf' covered := by
  intro same
  rw [damaged.getU16LE, ← right] at same
  exact crc16_ne damaged.burst same.symm

/-- A change of one covered byte damages a buffer. -/
theorem Damaged.set {index : Nat} {byte : UInt8} (covers : index < covered)
    (whole : covered ≤ buf.length) (changes : Lora.byteAt buf index ≠ byte) :
    Damaged covered buf (buf.set index byte) where
  burst := by
    have inside : index < (buf.take covered).length := by
      rw [List.length_take]
      omega
    have here : (buf.take covered)[index] ≠ byte := by
      rw [Lora.byteAt, List.getElem?_eq_getElem (by omega), Option.getD_some] at changes
      rwa [List.getElem_take]
    have burst := Burst.of_byte here ((buf.take covered).take index)
      ((buf.take covered).drop (index + 1))
    rwa [← List.drop_eq_getElem_cons inside, List.take_append_drop,
      ← List.set_eq_take_cons_drop byte inside, ← List.take_set] at burst
  behind := List.drop_set_of_lt covers

/-- A damaged acknowledgement is not accepted. -/
theorem parseAck2Frame_damaged {seq : UInt32} (accepted : parseAck2Frame buf = some seq)
    (damaged : Damaged 3 buf buf') : parseAck2Frame buf' = none := by
  have right : crc16 (buf.take 3) = Lora.getU16LE buf 3 := by
    unfold parseAck2Frame at accepted
    by_contra wrong
    rw [if_pos wrong] at accepted
    repeat' split at accepted
    all_goals cases accepted
  unfold parseAck2Frame
  rw [if_pos (damaged.mismatch right)]
  repeat' split
  all_goals rfl

/-- A damaged command is not accepted, when its length is as it was. -/
theorem parseUp2Frame_damaged {command : Up2Decoded} (accepted : parseUp2Frame buf = some command)
    (length : Lora.byteAt buf' 1 = Lora.byteAt buf 1)
    (damaged : Damaged (7 + (Lora.byteAt buf 1).toNat) buf buf') : parseUp2Frame buf' = none := by
  have right : crc16 (buf.take (7 + (Lora.byteAt buf 1).toNat)) =
      Lora.getU16LE buf (7 + (Lora.byteAt buf 1).toNat) := by
    unfold parseUp2Frame at accepted
    dsimp only at accepted
    by_contra wrong
    rw [if_pos wrong] at accepted
    repeat' split at accepted
    all_goals cases accepted
  unfold parseUp2Frame
  dsimp only
  rw [length, if_pos (damaged.mismatch right)]
  repeat' split
  all_goals rfl

/-- A frame that the ground takes is in front of the buffer. -/
theorem isDl2_of_tryParse {decoded : Dl2Frame} {count : Nat}
    (accepted : tryParse buf = some (some (.frame decoded), count)) :
    ∃ frame rest, buf = frame ++ rest ∧ IsDl2 frame ∧ frame.length = count := by
  have ⟨event, taken, parsed, found⟩ := tryParse_found buf
  rw [accepted, Option.some.injEq, Prod.mk.injEq] at parsed
  obtain ⟨rfl, rfl⟩ := parsed
  cases found with
  | frame whole reads => exact ⟨_, _, rfl, whole, rfl⟩

/-- A word inside a frame is that of its two bytes. -/
theorem unpackH_eq {frame : List UInt8} {offset : Nat} (inside : offset + 2 ≤ frame.length) :
    unpackH frame offset = some (Lora.getU16LE frame offset) := by
  have enough : 2 ≤ (frame.drop offset).length := by
    rw [List.length_drop]
    omega
  have first := @List.getElem?_drop _ frame offset 0
  have second := @List.getElem?_drop _ frame offset 1
  unfold unpackH
  match held : frame.drop offset, enough with
  | b0 :: b1 :: rest, _ =>
    rw [held] at first second
    rw [Lora.getU16LE, Lora.byteAt, Lora.byteAt, ← second, ← Nat.add_zero offset, ← first]
    rfl

/-- The checksum of a frame in front of a buffer, from the bytes of the buffer. -/
theorem IsDl2.right {frame rest : List UInt8} (whole : IsDl2 frame) :
    crc16 ((frame ++ rest).take (statedLen frame)) =
      Lora.getU16LE (frame ++ rest) (statedLen frame) := by
  have length := whole.length
  have checksum := whole.checksum
  have covers : (frame ++ rest).take (statedLen frame) = frame.take (statedLen frame) :=
    List.take_append_of_le_length (by omega)
  have byte (index : Nat) (inside : index < frame.length) :
      Lora.byteAt (frame ++ rest) index = Lora.byteAt frame index := by
    rw [Lora.byteAt, List.getElem?_append_left inside, Lora.byteAt]
  have word := @unpackH_eq frame (statedLen frame) length.ge
  rw [word, crc16Ccitt_eq, Option.map_some, Option.some.injEq, UInt16.toNat_inj] at checksum
  rw [covers, ← checksum, Lora.getU16LE, Lora.getU16LE, byte _ (by omega), byte _ (by omega)]

/-- A damaged frame is not taken, when its length is as it was. -/
theorem tryParse_damaged {decoded : Dl2Frame} {count : Nat}
    (accepted : tryParse buf = some (some (.frame decoded), count))
    (length : Lora.byteAt buf' 1 = Lora.byteAt buf 1) (damaged : Damaged (count - 2) buf buf') :
    ∃ event taken, tryParse buf' = some (event, taken) ∧
      ∀ decoded', event ≠ some (.frame decoded') := by
  obtain ⟨frame, rest, rfl, whole, rfl⟩ := isDl2_of_tryParse accepted
  have ⟨event, taken, parsed, _⟩ := tryParse_found buf'
  refine ⟨event, taken, parsed, ?_⟩
  rintro decoded' rfl
  obtain ⟨frame', rest', rfl, whole', rfl⟩ := isDl2_of_tryParse parsed
  have stated : statedLen frame' = statedLen frame := by
    rw [← whole.statedLen_append rest, ← whole'.statedLen_append rest', statedLen, statedLen,
      length]
  have covered : frame.length - 2 = statedLen frame := by
    rw [whole.length, Nat.add_sub_cancel]
  rw [covered] at damaged
  have right := @IsDl2.right frame' rest' whole'
  rw [stated] at right
  exact damaged.mismatch whole.right right

end

/-- Two byte strings of one length that differ only within sixteen bits in a row have different
checksums, and no frame is accepted whose covered bytes, but for its length, are damaged so. A
damaged length moves the place of the checksum itself. -/
theorem bursts_detected :
    (∀ data data', Burst data data' →
      crc16 data ≠ crc16 data' ∧ crc16Ccitt data ≠ crc16Ccitt data') ∧
    (∀ buf buf' seq, parseAck2Frame buf = some seq → Damaged 3 buf buf' →
      parseAck2Frame buf' = none) ∧
    (∀ buf buf' command, parseUp2Frame buf = some command →
      Lora.byteAt buf' 1 = Lora.byteAt buf 1 →
      Damaged (7 + (Lora.byteAt buf 1).toNat) buf buf' → parseUp2Frame buf' = none) ∧
    ∀ buf buf' decoded count, tryParse buf = some (some (.frame decoded), count) →
      Lora.byteAt buf' 1 = Lora.byteAt buf 1 → Damaged (count - 2) buf buf' →
      ∃ event taken, tryParse buf' = some (event, taken) ∧
        ∀ decoded', event ≠ some (.frame decoded') :=
  ⟨fun _ _ burst => ⟨crc16_ne burst, crc16Ccitt_ne burst⟩,
    fun _ _ _ accepted damaged => parseAck2Frame_damaged accepted damaged,
    fun _ _ _ accepted length damaged => parseUp2Frame_damaged accepted length damaged,
    fun _ _ _ _ accepted length damaged => tryParse_damaged accepted length damaged⟩

/-- An acknowledgement, a command and a first frame of the vehicle in which one byte has
changed. -/
theorem bursts_detected_byte :
    parseAck2Frame [0xA2, 7, 0, 0x95, 0xE0] = none ∧
    parseUp2Frame [0xB2, 1, 1, 3, 9, 0, 0, 5, 0xB0, 0xC3] = none ∧
    ∃ event taken, tryParse ((frameOf (startState true)).set 2 1) = some (event, taken) ∧
      ∀ decoded, event ≠ some (.frame decoded) := by
  have ⟨_, acknowledgement, command, frame⟩ := bursts_detected
  refine ⟨?_, ?_, ?_⟩
  · exact acknowledgement [0xA2, 5, 0, 0x95, 0xE0] _ 5 (by decide +kernel)
      (Damaged.set (by decide : 1 < 3) (by decide) (by decide))
  · have ⟨decoded, read⟩ :
        ∃ decoded, parseUp2Frame [0xB2, 1, 1, 3, 8, 0, 0, 5, 0xB0, 0xC3] = some decoded := by
      unfold parseUp2Frame
      dsimp only
      rw [if_neg (by decide), if_neg (by decide), if_neg (by decide),
        if_neg (by decide +kernel)]
      exact ⟨_, rfl⟩
    exact command _ _ decoded read rfl
      (Damaged.set (by decide : 4 < 8) (by decide) (by decide))
  · have taken := tryParse_frameOf (startState true) []
    rw [List.append_nil] at taken
    have length : (frameOf (startState true)).length = dl2BodyLen (startState true) + 2 :=
      frame_length rfl
    have bounds := dl2BodyLen_bounds (startState true)
    have third : Lora.byteAt (frameOf (startState true)) 2 = 0 := by
      rw [frameOf, dl2Body_eq]
      rfl
    refine frame _ _ _ _ taken ?_ (Damaged.set ?_ ?_ ?_)
    · rw [Lora.byteAt, List.getElem?_set_ne (by decide), Lora.byteAt]
    · omega
    · omega
    · rw [third]
      decide

end CfsTelemetry.Ground
