import CfsTelemetry.Flight.Pipes
import Mathlib.Data.List.Flatten

/-!
# Ground commands and the messages they become

What the uplink application orders in an event is the message of an accepted command, and an
accepted command is an admitted one: new, valid, healthy and authorized. What the messages mean to
their receivers is then what the commands mean, over every run, in their order.
-/
namespace CfsTelemetry.Flight

open Run

/-- The ground command of an event, if the uplink application admits it. -/
def admitted (s : System) (event : Event) : List ProcessUplinkCmd :=
  ((uplinkRound s event).bind Uplink.handled).toList.filter (Uplink.Admits s.uplink ·)

/-- The ground command of an event, if its message is delivered. -/
def accepted (s : System) (event : Event) : List ProcessUplinkCmd :=
  ((uplinkRound s event).bind fun round =>
    (Uplink.handled round).filter fun cmd =>
      (Uplink.ending round.1 cmd s.uplink).commits).toList

/-- An accepted command is an admitted one. -/
theorem accepted_sublist (s : System) (event : Event) :
    (accepted s event).Sublist (admitted s event) := by
  unfold accepted admitted
  cases uplinkRound s event with
  | none => exact .slnil
  | some round =>
    cases handled : Uplink.handled round with
    | none => simp [handled]
    | some cmd =>
      cases way : Uplink.ending round.1 cmd s.uplink with
      | accepted message =>
        obtain ⟨admits, -⟩ := Uplink.ending_eq_accepted.mp way
        simp [handled, way, Uplink.Ending.commits, Option.filter, admits]
      | _ => simp [handled, way, Uplink.Ending.commits, Option.filter]

section

variable {Meaning : Type} {ground : ProcessUplinkCmd → List Meaning}

/-- What the message of every command means is what the command means. -/
def Agrees (receive : Uplink.Message → List Meaning) (ground : ProcessUplinkCmd → List Meaning) :
    Prop :=
  ∀ env cmd s message, Uplink.request env cmd s = .send message → receive message = ground cmd

/-- What is ordered in an event means what its accepted command means. -/
theorem orders_flatMap {receive : Uplink.Message → List Meaning} (agrees : Agrees receive ground)
    (s : System) (event : Event) :
    (orders s event).flatMap receive = (accepted s event).flatMap ground := by
  unfold orders accepted Uplink.ordered
  cases uplinkRound s event with
  | none => rfl
  | some round =>
    cases handled : Uplink.handled round with
    | none => simp [handled]
    | some cmd =>
      cases way : Uplink.ending round.1 cmd s.uplink with
      | accepted message =>
        obtain ⟨-, asked, -⟩ := Uplink.ending_eq_accepted.mp way
        have same := agrees _ _ _ _ asked
        simp [handled, way, Uplink.Ending.delivered, Uplink.Ending.commits, Option.filter, same]
      | _ => simp [handled, way, Uplink.Ending.delivered, Uplink.Ending.commits, Option.filter]

variable {Order : Type}

/-- What a message means to the receiver whose pipe turns it into an order. -/
def through (pipe : Uplink.Message → Option Order) (read : Order → List Meaning)
    (message : Uplink.Message) : List Meaning :=
  (pipe message).toList.flatMap read

/-- What the orders of some messages mean. -/
theorem flatMap_through (pipe : Uplink.Message → Option Order) (read : Order → List Meaning)
    (messages : List Uplink.Message) :
    (messages.filterMap pipe).flatMap read = messages.flatMap (through pipe read) := by
  induction messages with
  | nil => rfl
  | cons message rest later =>
    rw [List.filterMap_cons, List.flatMap_cons, ← later, through]
    cases pipe message <;> simp

/-- What a receiver takes over a run means a part of what the admitted commands mean, in their
order, when what is sent to it in an event means what the accepted command does. -/
theorem taken_part {pipe : Pipe Order} {read : Order → List Meaning} (lawful : pipe.Lawful)
    {boot : Boot} (empty : pipe.waiting boot.system = [])
    (sent : ∀ s event, (pipe.sent s event).flatMap read = (accepted s event).flatMap ground)
    (events : List Event) :
    ((project step pipe.taken boot.system events).flatMap read).Sublist
      ((project step admitted boot.system events).flatMap ground) := by
  have part := (lawful.sublist boot.system events).flatMap read
  rw [empty, List.nil_append] at part
  calc
    ((project step pipe.taken boot.system events).flatMap read).Sublist
        ((project step pipe.taken boot.system events ++
          pipe.waiting (run step boot.system events)).flatMap read) := by
      rw [List.flatMap_append]
      exact List.sublist_append_left _ _
    List.Sublist _ ((project step pipe.sent boot.system events).flatMap read) := part
    List.Sublist _ ((project step accepted boot.system events).flatMap ground) := by
      rw [Channel.flatMap_project, Channel.flatMap_project]
      simp only [sent]
      exact .refl _
    List.Sublist _ ((project step admitted boot.system events).flatMap ground) :=
      (Channel.project_sublist accepted_sublist boot.system events).flatMap ground

/-- What the core application takes over a run means a part of what the admitted commands mean,
in their order. -/
theorem taken_core {read : Core.PipeMessage → List Meaning}
    (agrees : Agrees (through forCore read) ground) (boot : Boot) (events : List Event) :
    ((project step takenCore boot.system events).flatMap read).Sublist
      ((project step admitted boot.system events).flatMap ground) := by
  refine taken_part corePipe_lawful rfl (fun s event => ?_) events
  rw [← orders_flatMap agrees]
  exact flatMap_through forCore read _

/-- What is sent to the bridge in an event means what the accepted command means, when the
commands of the core application mean nothing. -/
theorem sent_bridge {read : BridgeOrder → List Meaning}
    (agrees : Agrees (through forBridge read) ground)
    (quiet : ∀ cmd, read (.control cmd) = []) (s : System) (event : Event) :
    (bridgePipe.sent s event).flatMap read = (accepted s event).flatMap ground := by
  rw [← orders_flatMap agrees, ← flatMap_through]
  change ((orders s event).filterMap forBridge ++
    (controls s event).map BridgeOrder.control).flatMap read = _
  rw [List.flatMap_append, List.flatMap_map, List.flatMap_eq_nil_iff.mpr fun cmd _ => quiet cmd,
    List.append_nil]

/-- What the bridge takes over a run means a part of what the admitted commands mean, in their
order. -/
theorem taken_bridge {read : BridgeOrder → List Meaning}
    (agrees : Agrees (through forBridge read) ground)
    (quiet : ∀ cmd, read (.control cmd) = []) (boot : Boot) (events : List Event) :
    ((project step takenBridge boot.system events).flatMap read).Sublist
      ((project step admitted boot.system events).flatMap ground) :=
  taken_part bridgePipe_lawful rfl (sent_bridge agrees quiet) events

end

end CfsTelemetry.Flight
