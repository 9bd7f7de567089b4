import CfsTelemetry.Feedback.System
import CfsTelemetry.Flight.Missions
import CfsTelemetry.Flight.Relays
import CfsTelemetry.Flight.Results
import CfsTelemetry.Ground.TextLine
import CfsTelemetry.Library.Line
import CfsTelemetry.Lora.Echo
import CfsTelemetry.Lora.Reopen

/-!
# The ground and the flight

The ground sends commands over the radio, as text lines or as binary frames, and other units
between them. Their bytes come up the line of the LoRa application, which forwards the commands in
them to the pipe of the uplink application. Whatever radio and bus lose, the commands that are
admitted there are commands of the ground, in the order of sending and each at most once. So
everything that the applications do on command goes back to what the ground has sent.
-/
namespace CfsTelemetry.Flight

open Run
open Ground (unitReception lineOf lineLength commandOf buildUp2)
open Lora (RxUnit WireUnit)

/-- A unit of the line carries a command as the ground encodes it: as a text line that fits the
buffer of the receiver, or as a binary frame. -/
inductive Encodes (unit : WireUnit) : ProcessUplinkCmd → Prop where
  | text {version commandClass seq flags : Nat} {payload : List UInt8}
      (bounds : version ≤ 255 ∧ commandClass ≤ 255 ∧ flags ≤ 255) (seqBound : seq ≤ 65535)
      (small : payload.length ≤ 196)
      (short : lineLength version commandClass seq payload flags ≤ 255)
      (written : unit.bytes = lineOf version commandClass seq payload flags) :
      Encodes unit (commandOf version commandClass seq payload flags)
  | binary {version commandClass seq flags : Nat} {payload : List UInt8}
      (small : payload.length ≤ 196)
      (written : buildUp2 version commandClass seq payload flags = some unit.bytes) :
      Encodes unit (commandOf version commandClass seq payload flags)

/-- The command that a unit means. -/
def unitCommand (unit : RxUnit) : Option ProcessUplinkCmd :=
  match unitReception true unit with
  | .forwarded cmd _ => some cmd
  | .silent | .damaged => none

/-- The flight, the bytes on the line of its LoRa application, and the commands that wait for its
uplink application, oldest first. -/
structure Contact where
  flight : System
  line : List UInt8
  commands : List ProcessUplinkCmd

/-- Whether an event of the flight takes a byte of the line or a ground command. -/
def takesUplink : Event → Bool
  | .radio (.byte ..) _ => true
  | .uplink env input _ _ => (Uplink.handled (env, input)).isSome
  | _ => false

/-- Something that happens to ground or flight. -/
inductive ContactEvent where
  /-- The ground sends a command, and the radio may lose it. -/
  | send (cmd : ProcessUplinkCmd) (unit : WireUnit) (encodes : Encodes unit cmd)
      (delivered : Bool)
  /-- A unit that means no command comes up the line. -/
  | other (unit : WireUnit) (none : unitCommand unit.received = none)
  /-- The LoRa application takes the next byte of its line. The bus may lose what it forwards. -/
  | byte (now : UInt32) (taken : Bool)
  /-- The uplink application takes the command that has waited longest. -/
  | takeCommand (env : Uplink.Env) (bus : Bus)
  /-- Something else happens in the flight. -/
  | flight (event : Event) (other : takesUplink event = false)

section

variable (boot : Boot) (events : List ContactEvent)

end

/-- Neither radio nor bus loses anything with an event, and neither end of the uplink starts
again. -/
def ContactEvent.Keeps : ContactEvent → Prop
  | .send _ _ _ delivered => delivered = true
  | .byte _ taken => taken = true
  | .flight event _ =>
    uplinkPipe.emptied event = false ∧ ∀ io stateFile, event ≠ .restartLora io stateFile
  | .other .. | .takeCommand .. => True

/-! ## What units mean -/

/-- Units with the same bytes are received alike. -/
theorem received_eq {first second : WireUnit} (same : first.bytes = second.bytes) :
    first.received = second.received := by
  have ready : (Lora.initialState.receiver).Ready := ⟨rfl, rfl⟩
  have one := (Lora.feed_unit ready first).2
  rw [same, (Lora.feed_unit ready second).2] at one
  exact (List.singleton_inj.mp one).symm

/-- A unit that is received as a command is means it. -/
theorem unitCommand_of_means {unit : RxUnit} {cmd : ProcessUplinkCmd}
    (means : ∀ taken, unitReception taken unit = .forwarded cmd taken) :
    unitCommand unit = some cmd := by
  rw [unitCommand, means]

/-- A unit means the command that it carries. -/
theorem Encodes.means {unit : WireUnit} {cmd : ProcessUplinkCmd} (encodes : Encodes unit cmd) :
    unitCommand unit.received = some cmd := by
  cases encodes with
  | text bounds seqBound small short written =>
    obtain ⟨own, same, means⟩ := Ground.line_unit bounds seqBound small short
    rw [received_eq (written.trans same.symm)]
    exact unitCommand_of_means means
  | binary small written =>
    obtain ⟨own, same, means⟩ := Ground.frame_unit written small
    rw [← received_eq same]
    exact unitCommand_of_means means

section

variable {s : Contact} {event : ContactEvent}

/-- The units that are put on the line with an event. -/
def putUnits : ContactEvent → List WireUnit
  | .send _ unit _ delivered => if delivered then [unit] else []
  | .other unit _ => [unit]
  | .byte .. | .takeCommand .. | .flight .. => []

/-- The units that the LoRa application takes whole with an event. -/
def takenUnits (s : Contact) : ContactEvent → List RxUnit
  | .byte .. =>
    match s.line with
    | [] => []
    | value :: _ => (s.flight.lora.data.receiver.step value).2
  | _ => []

/-- An event of the flight that takes no byte leaves the receiver alone, unless the LoRa application
starts again. -/
theorem step_receiver {s : System} {event : Event} (other : takesUplink event = false)
    (stays : ∀ io stateFile, event ≠ .restartLora io stateFile) :
    (step s event).lora.data.receiver = s.lora.data.receiver := by
  cases own : loraPacket s event with
  | some met =>
    obtain ⟨env, packet⟩ := met
    obtain ⟨rest, -, moved⟩ := step_lora own
    rw [moved]
    exact (Lora.deliver_port ⟨env, packet⟩).1
  | none =>
    cases event with
    | restartLora io stateFile => exact absurd rfl (stays io stateFile)
    | radio input link =>
      refine Lora.step_receiver input s.lora.data ?_
      cases input with
      | byte => cases other
      | _ => rfl
    | lora => cases own
    | takeLora env bus =>
      cases pipe : s.toLora with
      | nil => simp only [step, pipe]
      | cons packet rest => simp [loraPacket, pipe] at own
    | uplink | core | bridge | restartUplink | restartCore | restartBridge => rfl
    | takeResult | takeCore | takeBridge =>
      unfold step
      dsimp only
      split <;> rfl

end

section

variable {s : Contact} {event : ContactEvent}

end

end CfsTelemetry.Flight
