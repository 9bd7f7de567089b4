import CfsTelemetry.Library.Framing
import CfsTelemetry.Lora.Window

/-!
# Framing of the serial line

What the bytes of the serial line do to the receive buffer, apart from the rest of the
application: a machine that now and then completes a line or a binary frame, which is then
handled whole.
-/
namespace CfsTelemetry.Lora

open Framing

/-- The receive buffer with what it is in the middle of. -/
structure Receiver where
  buf : List UInt8
  mode : RxFrameMode
  targetLen : Nat
  deriving DecidableEq

/-- Something that the bytes of the line complete. -/
inductive RxUnit where
  | line (text : List UInt8)
  | binary (buf : List UInt8)
  deriving DecidableEq

namespace Receiver

/-- Wait for the first byte of a frame. -/
def reset (r : Receiver) : Receiver := { r with buf := [], mode := .none }

/-- The first byte of a frame decides what follows. -/
def start (byte : UInt8) (r : Receiver) : Receiver :=
  if byte = ack2Magic then { r with mode := .ack2, targetLen := 5 }
  else if byte = up2Magic then { r with mode := .up2Hdr }
  else { r with mode := .text }

/-- Store a byte. -/
def store (byte : UInt8) (r : Receiver) : Receiver :=
  let r := { r with buf := r.buf ++ [byte] }
  if r.buf.length = 1 then r.start byte else r

/-- Go on after a stored byte: the receiver, and what the byte completes. -/
def goOn (byte : UInt8) (r : Receiver) : Receiver × List RxUnit :=
  match r.mode with
  | .text => if byte = 10 then (r.reset, [.line r.buf]) else (r, [])
  | .up2Hdr =>
    if r.buf.length = 2 then
      if byteAt r.buf 1 > 196 then (r.reset, [])
      else ({ r with targetLen := 7 + (byteAt r.buf 1).toNat + 2, mode := .up2Body }, [])
    else (r, [])
  | .ack2 | .up2Body =>
    if r.buf.length ≥ r.targetLen then (r.reset, [.binary r.buf]) else (r, [])
  | .none => (r, [])

/-- Take a byte: the receiver, and what the byte completes. -/
def step (r : Receiver) (byte : UInt8) : Receiver × List RxUnit :=
  if r.buf.length < lineBufLen - 1 then (r.store byte).goOn byte else (r.reset, [])

/-- Whether the receiver waits for the first byte of a frame. -/
def Ready (r : Receiver) : Prop := r.buf = [] ∧ r.mode = .none

end Receiver

/-! ## The machine in the application -/

/-- The receiver of the application. -/
def State.receiver (s : State) : Receiver where
  buf := s.rxLineBuf
  mode := s.rxFrameMode
  targetLen := s.rxFrameTargetLen

/-- The application with another receiver. -/
def State.withReceiver (r : Receiver) (s : State) : State :=
  { s with rxLineBuf := r.buf, rxFrameMode := r.mode, rxFrameTargetLen := r.targetLen }

/-- A replaced receiver is the receiver. -/
@[simp] theorem State.receiver_withReceiver (r : Receiver) (s : State) :
    (s.withReceiver r).receiver = r := rfl

/-- Only the receiver that is put in last counts. -/
@[simp] theorem State.withReceiver_withReceiver (first last : Receiver) (s : State) :
    (s.withReceiver first).withReceiver last = s.withReceiver last := rfl

/-- Handle what was completed. -/
def RxUnit.handle (now : UInt32) (taken : Bool) (s : State) : RxUnit → State
  | .line text => processRxLine text now taken s
  | .binary buf => processRxBinaryFrame buf now taken s

/-- Handling neither reads nor changes the receiver. -/
theorem RxUnit.handle_withReceiver (now : UInt32) (taken : Bool) (r : Receiver) (s : State)
    (unit : RxUnit) :
    unit.handle now taken (s.withReceiver r) = (unit.handle now taken s).withReceiver r := by
  have acknowledged (inSequence : Bool) (mismatch : String) :
      acknowledge inSequence mismatch now (s.withReceiver r) =
        (acknowledge inSequence mismatch now s).withReceiver r := by
    cases inSequence <;> rfl
  cases unit with
  | line text =>
    show processRxLine text now taken (s.withReceiver r) =
      (processRxLine text now taken s).withReceiver r
    unfold processRxLine
    dsimp only
    by_cases ack : (Text.cString text).take 4 = Text.codes "ACK,"
    · rw [if_pos ack, if_pos ack]
      cases parseAckFrame (Text.cString text) with
      | none => rfl
      | some seqEcho => exact acknowledged _ _
    · rw [if_neg ack, if_neg ack]
      by_cases up : (Text.cString text).take 3 = Text.codes "UP,"
      · rw [if_pos up, if_pos up]
        unfold processUpFrame
        cases parseUpFrame (Text.cString text) with
        | error defect => cases defect <;> rfl
        | ok cmd => rfl
      · rw [if_neg up, if_neg up]
  | binary buf =>
    show processRxBinaryFrame buf now taken (s.withReceiver r) =
      (processRxBinaryFrame buf now taken s).withReceiver r
    unfold processRxBinaryFrame
    by_cases empty : buf = []
    · rw [if_pos empty, if_pos empty]
    · rw [if_neg empty, if_neg empty]
      by_cases ack : byteAt buf 0 = ack2Magic
      · rw [if_pos ack, if_pos ack]
        cases parseAck2Frame buf with
        | none => rfl
        | some seqEcho => exact acknowledged _ _
      · rw [if_neg ack, if_neg ack]
        by_cases up : byteAt buf 0 = up2Magic
        · rw [if_pos up, if_pos up]
          cases parseUp2Frame buf <;> rfl
        · rw [if_neg up, if_neg up]

/-- Storing a byte is what the machine does. -/
theorem storeByte_eq (byte : UInt8) (s : State) :
    storeByte byte s = s.withReceiver (s.receiver.store byte) := by
  have buf : s.receiver.buf = s.rxLineBuf := rfl
  unfold storeByte startFrame Receiver.store Receiver.start
  dsimp only
  rw [buf]
  by_cases first : (s.rxLineBuf ++ [byte]).length = 1
  · rw [if_pos first, if_pos first]
    by_cases ack : byte = ack2Magic
    · rw [if_pos ack, if_pos ack]
      rfl
    · rw [if_neg ack, if_neg ack]
      by_cases up : byte = up2Magic
      · rw [if_pos up, if_pos up]
        rfl
      · rw [if_neg up, if_neg up]
        rfl
  · rw [if_neg first, if_neg first]
    rfl

/-- Handling one unit after another neither reads nor changes the receiver. -/
theorem foldl_handle_withReceiver (now : UInt32) (taken : Bool) (r : Receiver)
    (units : List RxUnit) (s : State) :
    units.foldl (RxUnit.handle now taken) (s.withReceiver r) =
      (units.foldl (RxUnit.handle now taken) s).withReceiver r := by
  induction units generalizing s with
  | nil => rfl
  | cons unit rest previous =>
    rw [List.foldl_cons, List.foldl_cons, RxUnit.handle_withReceiver, previous]

/-- Going on after a stored byte is what the machine does, and what the byte completes is
handled. -/
theorem continueFrame_eq (byte : UInt8) (now : UInt32) (taken : Bool) (s : State) :
    continueFrame byte now taken s =
      ((s.receiver.goOn byte).2.foldl (RxUnit.handle now taken) s).withReceiver
        (s.receiver.goOn byte).1 := by
  have handled (unit : RxUnit) : resynchronize (unit.handle now taken s) =
      (unit.handle now taken s).withReceiver s.receiver.reset := by
    have kept := unit.handle_withReceiver now taken s.receiver s
    calc resynchronize (unit.handle now taken s)
        = resynchronize ((unit.handle now taken s).withReceiver s.receiver) :=
          congrArg resynchronize kept
      _ = (unit.handle now taken s).withReceiver s.receiver.reset := rfl
  have mode : s.receiver.mode = s.rxFrameMode := rfl
  have buf : s.receiver.buf = s.rxLineBuf := rfl
  have targetLen : s.receiver.targetLen = s.rxFrameTargetLen := rfl
  unfold continueFrame Receiver.goOn
  rw [mode, buf, targetLen]
  cases s.rxFrameMode with
  | none => rfl
  | text =>
    dsimp only
    by_cases newline : byte = 10
    · rw [if_pos newline, if_pos newline]
      exact handled (.line s.rxLineBuf)
    · rw [if_neg newline, if_neg newline]
      rfl
  | up2Hdr =>
    dsimp only
    by_cases two : s.rxLineBuf.length = 2
    · rw [if_pos two, if_pos two]
      by_cases large : byteAt s.rxLineBuf 1 > 196
      · rw [if_pos large, if_pos large]
        rfl
      · rw [if_neg large, if_neg large]
        rfl
    · rw [if_neg two, if_neg two]
      rfl
  | ack2 | up2Body =>
    dsimp only
    by_cases complete : s.rxLineBuf.length ≥ s.rxFrameTargetLen
    · rw [if_pos complete, if_pos complete]
      exact handled (.binary s.rxLineBuf)
    · rw [if_neg complete, if_neg complete]
      rfl

/-- A byte does to the application what it does to its receiver, and what it completes is
handled. -/
theorem receiveByte_eq (byte : UInt8) (now : UInt32) (taken : Bool) (s : State) :
    receiveByte byte now taken s =
      ((s.receiver.step byte).2.foldl (RxUnit.handle now taken) s).withReceiver
        (s.receiver.step byte).1 := by
  have buf : s.receiver.buf = s.rxLineBuf := rfl
  unfold receiveByte Receiver.step
  rw [buf]
  by_cases room : s.rxLineBuf.length < lineBufLen - 1
  · rw [if_pos room, if_pos room, storeByte_eq, continueFrame_eq, foldl_handle_withReceiver,
      State.receiver_withReceiver, State.withReceiver_withReceiver]
  · rw [if_neg room, if_neg room]
    rfl

namespace Receiver

variable {r : Receiver}

/-- While there is room, a byte is stored. -/
theorem step_room (byte : UInt8) (room : r.buf.length < 255) :
    r.step byte = (r.store byte).goOn byte := if_pos room

/-- A further byte of a frame is stored. -/
theorem store_next (byte : UInt8) (some : r.buf ≠ []) :
    r.store byte = { r with buf := r.buf ++ [byte] } := by
  have length : (r.buf ++ [byte]).length ≠ 1 := by
    have positive := List.length_pos_iff.mpr some
    rw [List.length_append, List.length_singleton]
    omega
  unfold store
  dsimp only
  rw [if_neg length]

/-- The first byte of a frame decides what the frame is; a newline is a line of its own. -/
theorem step_first (byte : UInt8) (empty : r.buf = []) :
    r.step byte =
      if byte = ack2Magic then (⟨[byte], .ack2, 5⟩, [])
      else if byte = up2Magic then (⟨[byte], .up2Hdr, r.targetLen⟩, [])
      else if byte = 10 then (r.reset, [.line [byte]])
      else (⟨[byte], .text, r.targetLen⟩, []) := by
  have stored : r.store byte = start byte { r with buf := [byte] } := by
    unfold store
    rw [empty]
    rfl
  have room : r.buf.length < 255 := by
    rw [empty]
    decide
  rw [step_room byte room, stored]
  unfold start
  by_cases ack : byte = ack2Magic
  · rw [if_pos ack, if_pos ack]
    rfl
  · rw [if_neg ack, if_neg ack]
    by_cases up : byte = up2Magic
    · rw [if_pos up, if_pos up]
      rfl
    · rw [if_neg up, if_neg up]
      rfl

/-- A byte of a line that is not full is stored, and a newline completes the line. -/
theorem step_text (byte : UInt8) (mode : r.mode = .text) (some : r.buf ≠ [])
    (room : r.buf.length < 255) :
    r.step byte =
      if byte = 10 then (r.reset, [.line (r.buf ++ [byte])])
      else ({ r with buf := r.buf ++ [byte] }, []) := by
  rw [step_room byte room, store_next byte some]
  unfold goOn
  rw [mode]
  rfl

/-- The second byte of a binary command is the length of its payload. -/
theorem step_up2Hdr (byte first : UInt8) (mode : r.mode = .up2Hdr) (one : r.buf = [first]) :
    r.step byte =
      if byte > 196 then (r.reset, [])
      else (⟨[first, byte], .up2Body, 7 + byte.toNat + 2⟩, []) := by
  have some : r.buf ≠ [] := by
    rw [one]
    exact List.cons_ne_nil _ _
  have room : r.buf.length < 255 := by
    rw [one, List.length_singleton]
    decide
  rw [step_room byte room, store_next byte some, one]
  unfold goOn
  rw [mode]
  rfl

/-- A byte of a binary frame is stored, and the last one completes the frame. -/
theorem step_binary (byte : UInt8) (mode : r.mode = .ack2 ∨ r.mode = .up2Body)
    (some : r.buf ≠ []) (room : r.buf.length < 255) :
    r.step byte =
      if r.buf.length + 1 ≥ r.targetLen then (r.reset, [.binary (r.buf ++ [byte])])
      else ({ r with buf := r.buf ++ [byte] }, []) := by
  have length : (r.buf ++ [byte]).length = r.buf.length + 1 := List.length_append
  rw [step_room byte room, store_next byte some]
  unfold goOn
  rw [← length]
  rcases mode with ack | body
  · rw [ack]
    rfl
  · rw [body]
    rfl

/-- With a full buffer the receiver starts anew. -/
theorem step_full (byte : UInt8) (full : ¬ r.buf.length < 255) : r.step byte = (r.reset, []) :=
  if_neg full

/-- The buffer fits what the receiver is in the middle of. -/
structure Sound (r : Receiver) : Prop where
  target : r.targetLen ≤ 205
  short : r.buf.length ≤ 255
  waiting : r.mode = .none ↔ r.buf = []
  header : r.mode = .up2Hdr → ∃ first, r.buf = [first]

/-- The receiver of a start is sound. -/
theorem sound_empty : Sound ⟨[], .none, 0⟩ where
  target := Nat.zero_le _
  short := Nat.zero_le _
  waiting := iff_of_true rfl rfl
  header mode := nomatch mode

/-- A receiver that waits for a frame again is sound. -/
theorem Sound.reset (sound : Sound r) : Sound r.reset where
  target := sound.target
  short := Nat.zero_le _
  waiting := iff_of_true rfl rfl
  header mode := nomatch mode

/-- A receiver with one byte more is sound, when it expects more than two. -/
theorem Sound.push (sound : Sound r) (byte : UInt8) (some : r.buf ≠ [])
    (room : r.buf.length < 255) (further : r.mode ≠ .up2Hdr) :
    Sound { r with buf := r.buf ++ [byte] } where
  target := sound.target
  short := by
    show (r.buf ++ [byte]).length ≤ 255
    rw [List.length_append, List.length_singleton]
    omega
  waiting := by
    have busy : r.mode ≠ .none := fun none => some (sound.waiting.mp none)
    exact iff_of_false busy (List.append_ne_nil_of_right_ne_nil _ (List.cons_ne_nil _ _))
  header mode := absurd mode further

/-- A byte keeps the receiver sound. -/
theorem step_sound (byte : UInt8) (sound : Sound r) : Sound (r.step byte).1 := by
  by_cases empty : r.buf = []
  · have first (mode : RxFrameMode) (target : Nat) (busy : mode ≠ .none) (fits : target ≤ 205) :
        Sound ⟨[byte], mode, target⟩ :=
      ⟨fits, show 1 ≤ 255 by decide, iff_of_false busy (List.cons_ne_nil _ _), fun _ => ⟨byte, rfl⟩⟩
    rw [step_first byte empty]
    split_ifs
    · exact first .ack2 5 (by decide) (by decide)
    · exact first .up2Hdr r.targetLen (by decide) sound.target
    · exact sound.reset
    · exact first .text r.targetLen (by decide) sound.target
  · by_cases room : r.buf.length < 255
    · have binary (mode : r.mode = .ack2 ∨ r.mode = .up2Body) : Sound (r.step byte).1 := by
        have further : r.mode ≠ .up2Hdr := by
          rcases mode with mode | mode <;> rw [mode] <;> decide
        rw [step_binary byte mode empty room]
        split_ifs
        · exact sound.reset
        · exact sound.push byte empty room further
      cases mode : r.mode with
      | none => exact absurd (sound.waiting.mp mode) empty
      | text =>
        rw [step_text byte mode empty room]
        split_ifs
        · exact sound.reset
        · exact sound.push byte empty room (by rw [mode]; decide)
      | up2Hdr =>
        obtain ⟨first, one⟩ := sound.header mode
        rw [step_up2Hdr byte first mode one]
        by_cases large : byte > 196
        · rw [if_pos large]
          exact sound.reset
        · have small : byte.toNat ≤ 196 := UInt8.le_iff_toNat_le.mp (UInt8.not_lt.mp large)
          rw [if_neg large]
          refine ⟨?_, show 2 ≤ 255 by decide,
            iff_of_false (fun none => nomatch none) (List.cons_ne_nil _ _),
            fun mode => nomatch mode⟩
          show 7 + byte.toNat + 2 ≤ 205
          omega
      | ack2 => exact binary (.inl mode)
      | up2Body => exact binary (.inr mode)
    · rw [step_full byte room]
      exact sound.reset

/-- How many bytes more the receiver is in the middle of a frame at most. -/
def rank (r : Receiver) : Nat := if r.buf = [] then 0 else 256 - r.buf.length

/-- Every byte of a frame that is not complete brings its end closer. -/
theorem step_rank (byte : UInt8) (sound : Sound r) (busy : ¬ r.Ready) :
    rank (r.step byte).1 < rank r := by
  have some : r.buf ≠ [] := fun empty => busy ⟨empty, sound.waiting.mpr empty⟩
  have short := sound.short
  have before : rank r = 256 - r.buf.length := if_neg some
  have ended : rank r.reset = 0 := if_pos rfl
  have longer (mode : RxFrameMode) (target : Nat) :
      rank ⟨r.buf ++ [byte], mode, target⟩ = 256 - (r.buf.length + 1) := by
    unfold rank
    rw [if_neg (List.append_ne_nil_of_right_ne_nil _ (List.cons_ne_nil _ _)),
      List.length_append, List.length_singleton]
  by_cases room : r.buf.length < 255
  · have closer (mode : RxFrameMode) (target : Nat) :
        rank ⟨r.buf ++ [byte], mode, target⟩ < rank r := by
      rw [longer, before]
      omega
    have zero : rank r.reset < rank r := by
      rw [ended, before]
      omega
    have binary (mode : r.mode = .ack2 ∨ r.mode = .up2Body) : rank (r.step byte).1 < rank r := by
      rw [step_binary byte mode some room]
      split_ifs
      · exact zero
      · exact closer _ _
    cases mode : r.mode with
    | none => exact absurd (sound.waiting.mp mode) some
    | text =>
      rw [step_text byte mode some room]
      split_ifs
      · exact zero
      · exact closer _ _
    | up2Hdr =>
      obtain ⟨first, one⟩ := sound.header mode
      rw [step_up2Hdr byte first mode one]
      by_cases large : byte > 196
      · rw [if_pos large]
        exact zero
      · rw [if_neg large]
        have grown := closer .up2Body (7 + byte.toNat + 2)
        rw [one] at grown
        exact grown
    | ack2 => exact binary (.inl mode)
    | up2Body => exact binary (.inr mode)
  · rw [step_full byte room, ended, before]
    omega

end Receiver

end CfsTelemetry.Lora
