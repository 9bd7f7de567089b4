import CfsTelemetry.Lora.Link
import CfsTelemetry.Lora.Lossless

/-!
# What acknowledgements echo

An acknowledgement echoes the sequence of a downlink. It is counted, and as out of sequence when
it does not echo the last one sent; no other unit of the line touches either counter.
-/
namespace CfsTelemetry.Lora

open Text

/-- The sequence that a unit of the line echoes, if it is an acknowledgement that passes its
check. -/
def RxUnit.echo : RxUnit → Option UInt32
  | .line text =>
    if (cString text).take 4 = codes "ACK," then parseAckFrame (cString text) else none
  | .binary buf => if byteAt buf 0 = ack2Magic then parseAck2Frame buf else none

/-- The counters of acknowledgements. -/
def ackCounters (s : State) : UInt32 × UInt16 := (s.rxAckCount, s.seqFailCount)

variable {s : State} {now : UInt32} {taken : Bool} {unit : RxUnit}

/-- A unit that echoes nothing leaves the counters alone. -/
theorem handle_silent (silent : unit.echo = none) :
    ackCounters (unit.handle now taken s) = ackCounters s := by
  cases unit with
  | line text =>
    rw [RxUnit.echo] at silent
    rw [RxUnit.handle, processRxLine]
    by_cases ack : (cString text).take 4 = codes "ACK,"
    · rw [if_pos ack] at silent ⊢
      rw [silent]
      rfl
    · rw [if_neg ack]
      split
      · unfold processUpFrame
        split <;> rfl
      · rfl
  | binary buf =>
    rw [RxUnit.echo] at silent
    rw [RxUnit.handle, processRxBinaryFrame]
    by_cases empty : buf = []
    · rw [if_pos empty]
    · rw [if_neg empty]
      by_cases ack : byteAt buf 0 = ack2Magic
      · rw [if_pos ack] at silent ⊢
        rw [silent]
        rfl
      · rw [if_neg ack]
        split
        · split <;> rfl
        · rfl

/-- A binary acknowledgement that echoes the last sequence sent, as far as its 16 bits go, is not
out of sequence. -/
theorem handle_inSequence {buf : List UInt8} {echo : UInt32}
    (echoes : (RxUnit.binary buf).echo = some echo)
    (last : echo.toUInt16 = s.lastSentSeq.toUInt16) :
    ((RxUnit.binary buf).handle now taken s).seqFailCount = s.seqFailCount := by
  rw [RxUnit.echo] at echoes
  rw [RxUnit.handle, processRxBinaryFrame]
  split
  · rfl
  · by_cases ack : byteAt buf 0 = ack2Magic
    · rw [if_pos ack] at echoes ⊢
      rw [echoes]
      dsimp only
      rw [beq_iff_eq.mpr last]
      rfl
    · rw [if_neg ack] at echoes
      cases echoes

/-- A byte completes one unit at most. -/
theorem step_units (r : Receiver) (byte : UInt8) :
    (r.step byte).2 = [] ∨ ∃ unit, (r.step byte).2 = [unit] := by
  unfold Receiver.step Receiver.goOn
  split
  · split
    · split
      · exact .inr ⟨_, rfl⟩
      · exact .inl rfl
    · split
      · split <;> exact .inl rfl
      · exact .inl rfl
    · split
      · exact .inr ⟨_, rfl⟩
      · exact .inl rfl
    · split
      · exact .inr ⟨_, rfl⟩
      · exact .inl rfl
    · exact .inl rfl
  · exact .inl rfl

/-- A byte counts what the unit counts that it completes. -/
theorem receiveByte_counters {byte : UInt8} (completes : (s.receiver.step byte).2 = [unit]) :
    ackCounters (receiveByte byte now taken s) = ackCounters (unit.handle now taken s) := by
  rw [receiveByte_eq, completes]
  rfl

/-- A byte that completes nothing counts nothing. -/
theorem receiveByte_nothing {byte : UInt8} (completes : (s.receiver.step byte).2 = []) :
    ackCounters (receiveByte byte now taken s) = ackCounters s := by
  rw [receiveByte_eq, completes]
  rfl

end CfsTelemetry.Lora
