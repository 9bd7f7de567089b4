import CfsTelemetry.Ground.Encoder
import CfsTelemetry.Lora.Echo

/-!
# Acknowledgements of the ground

The ground acknowledges a downlink frame with its sequence. The LoRa application takes the
acknowledgement as a unit of its line, and reads the sequence that was put in.
-/
namespace CfsTelemetry.Ground

open Words Lora

/-- Acknowledge a sequence. -/
def buildAck2 (seqEcho : Nat) : List UInt8 :=
  let head := ack2Magic :: bytes16 (seqEcho &&& 0xFFFF).toUInt16
  head ++ bytes16 (crc16Ccitt head).toUInt16

/-- The acknowledgement of the sequence of a frame, as a unit of the line. -/
def ackUnit (seq : UInt16) : WireUnit :=
  let head := ack2Magic :: bytes16 seq
  .ack2 #v[seq.toUInt8, (seq >>> 8).toUInt8, (crc16 head).toUInt8, (crc16 head >>> 8).toUInt8]

/-- A unit that the ground sends beside its acknowledgements: a command, or another line that
acknowledges nothing. -/
def Commands (unit : WireUnit) : Prop := unit.received.echo = none

variable (seq : UInt16)

/-- The acknowledgement echoes the sequence. -/
theorem ackUnit_echo : (ackUnit seq).received.echo = some seq.toUInt32 := by
  have front : ((ackUnit seq).bytes).take 3 = ack2Magic :: bytes16 seq := rfl
  have magic : byteAt (ackUnit seq).bytes 0 = ack2Magic := rfl
  have length : (ackUnit seq).bytes.length = 5 := rfl
  have crc : getU16LE (ackUnit seq).bytes 3 = crc16 (ack2Magic :: bytes16 seq) := word16_bytes _
  have echoed : getU16LE (ackUnit seq).bytes 1 = seq := word16_bytes _
  have received : (ackUnit seq).received = .binary (ackUnit seq).bytes := rfl
  rw [received, RxUnit.echo, if_pos magic, parseAck2Frame, length, if_neg (by decide),
    if_neg (not_not.mpr magic), front, crc, if_neg (not_not.mpr rfl), echoed]

end CfsTelemetry.Ground
