import CfsTelemetry.Bridge.Modes
import CfsTelemetry.Flight.Commands

/-!
# Flight modes from the ground to the flight controller

A flight mode that the flight controller is asked for goes back to a ground command that the
uplink application has admitted: new, valid, healthy and authorized. The requests come in the
order of the commands, and none comes twice. When nothing is lost on the way, every accepted
command has been asked for once, or waits in the pipe of the bridge.
-/
namespace CfsTelemetry.Flight

open Run

/-- What a ground command asks the flight controller to fly. -/
def groundRequests (cmd : ProcessUplinkCmd) : List Bridge.ModeRequest :=
  if Uplink.CommandClass.ofByte cmd.commandClass = some .flightMode then
    match Uplink.parseFlightModePayload cmd with
    | none => []
    | some payload =>
      Bridge.SetFlightModeCmd.requests
        ⟨cmd.sequence, payload.flightMode, payload.waypointStartIndex⟩
  else []

/-- What a message that waits for the bridge asks the flight controller to fly. -/
def BridgeOrder.requests : BridgeOrder → List Bridge.ModeRequest
  | flightMode cmd =>
    Bridge.SetFlightModeCmd.requests ⟨cmd.sourceSequence, cmd.flightMode, cmd.waypointStartIndex⟩
  | _ => []

/-- What the flight controller is asked to fly in an event. -/
def modeRequests (s : System) (event : Event) : List Bridge.ModeRequest :=
  Bridge.requestsBetween s.bridge (step s event).bridge

/-- The message of a command asks for what the command does. -/
theorem requests_agree : Agrees (through forBridge BridgeOrder.requests) groundRequests := by
  intro env cmd s message asked
  obtain ⟨commandClass, named, sends⟩ := Uplink.request_sends asked
  unfold groundRequests
  rw [named]
  cases sends with
  | flightMode parsed =>
    rw [if_pos rfl, parsed]
    exact List.append_nil _
  | counterMgmt scope => cases scope <;> rfl
  | _ => rfl

/-- A message that the bridge takes asks for what it stands for, as far as the line takes it. -/
theorem order_requests (order : BridgeOrder) (met : BridgeEnv) (s : Bridge.State) :
    Bridge.requestsBetween s (Bridge.step s (order.input met)) =
      order.requests.take (Bridge.requestsSent met.env s) := by
  rw [Bridge.step_requests]
  cases order with
  | flightMode cmd => rfl
  | control cmd => cases cmd <;> exact List.take_nil.symm
  | _ => exact List.take_nil.symm

/-- Where the bridge has no input, the flight controller is asked for nothing. -/
theorem modeRequests_of_none {s : System} {event : Event} (none : bridgeInput s event = none) :
    modeRequests s event = [] := by
  rcases bridge_of_none none with same | ⟨config, -, same⟩
  · rw [modeRequests, same, Bridge.requestsBetween, Bridge.newOutputs, Nat.sub_self]
    rfl
  · have silent : (Bridge.initialState config).outputs = [] := rfl
    rw [modeRequests, same, Bridge.requestsBetween, Bridge.newOutputs, silent, List.take_nil]
    rfl

/-- What the flight controller is asked to fly in an event is what the message that the bridge
takes stands for, as far as the line takes it. -/
theorem modeRequests_eq (s : System) (event : Event) :
    ∃ count, modeRequests s event =
        ((takenBridge s event).flatMap BridgeOrder.requests).take count ∧
      ∀ met bus, event = .takeBridge met bus → count = Bridge.requestsSent met.env s.bridge := by
  cases input : bridgeInput s event with
  | none =>
    cases event with
    | takeBridge met bus =>
      refine ⟨Bridge.requestsSent met.env s.bridge, ?_, ?_⟩
      · rw [modeRequests_of_none input, takenBridge_of_none input, List.flatMap_nil, List.take_nil]
      · rintro other bus' same
        cases same
        rfl
    | _ =>
      refine ⟨0, ?_, ?_⟩
      · rw [modeRequests_of_none input, List.take_zero]
      · rintro met bus same
        cases same
  | some taken =>
    obtain ⟨rest, waited, moved⟩ := step_bridge input
    have asked : modeRequests s event =
        Bridge.requestsBetween s.bridge (Bridge.step s.bridge taken) := by
      rw [modeRequests, moved]
      rfl
    cases event with
    | takeBridge met bus =>
      refine ⟨Bridge.requestsSent met.env s.bridge, ?_, ?_⟩
      · cases pipe : s.toBridge with
        | nil => simp [bridgeInput, pipe] at input
        | cons order others =>
          rw [bridgeInput, pipe] at input
          cases input
          rw [asked, order_requests, takenBridge, pipe]
          simp
      · rintro other bus' same
        cases same
        rfl
    | bridge own other bus =>
      refine ⟨0, ?_, ?_⟩
      · cases input
        rw [asked, Bridge.step_requests, List.take_zero]
        cases taken with
        | setFlightMode cmd env => cases other
        | _ => rfl
      · rintro met bus' same
        cases same
    | _ => cases input

/-- The line takes all that the bridge sends while it handles a message of its pipe. A request that
the line does not take is not sent again. -/
def LineTakes (s : System) : Event → Prop
  | .takeBridge met _ => s.bridge.serialOpen = true ∧ ∀ index, met.env.tx index = none
  | _ => True

/-- What a message stands for are two requests at most. -/
theorem requests_length (order : BridgeOrder) : order.requests.length ≤ 2 := by
  cases order with
  | flightMode cmd =>
    change (Bridge.SetFlightModeCmd.requests _).length ≤ 2
    unfold Bridge.SetFlightModeCmd.requests
    split
    · decide
    · rw [List.length_cons]
      split <;> simp
  | _ => exact Nat.zero_le 2

/-- Where the line takes all, the flight controller is asked for all that the message stands
for. -/
theorem modeRequests_whole {s : System} {event : Event} (line : LineTakes s event) :
    modeRequests s event = (takenBridge s event).flatMap BridgeOrder.requests := by
  obtain ⟨count, asked, sent⟩ := modeRequests_eq s event
  rw [asked]
  apply List.take_of_length_le
  cases event with
  | takeBridge met bus =>
    obtain ⟨isOpen, faultless⟩ := line
    have both : count = 2 := by
      rw [sent met bus rfl, Bridge.requestsSent, Bridge.takes, Bridge.takes, faultless, faultless,
        isOpen]
      rfl
    rw [both, takenBridge]
    cases s.toBridge with
    | nil => simp
    | cons order rest => simpa using requests_length order
  | _ => simp [takenBridge]

/-! ## Over a run -/

/-- The flight controller is asked for some of what the messages taken stand for, in their
order. -/
theorem modeRequests_taken (start : System) (events : List Event) :
    (project step modeRequests start events).Sublist
      ((project step takenBridge start events).flatMap BridgeOrder.requests) := by
  rw [Channel.flatMap_project]
  refine Channel.project_sublist (fun s event => ?_) start events
  obtain ⟨count, asked, -⟩ := modeRequests_eq s event
  rw [asked]
  exact List.take_sublist _ _

/-- The flight controller is asked to fly only what admitted commands ask for, in their order and
each at most once. The pipes may lose messages, but neither copy nor reorder them. -/
theorem flight_modes_ordered (boot : Boot) (events : List Event) :
    (project step modeRequests boot.system events).Sublist
      ((project step admitted boot.system events).flatMap groundRequests) :=
  (modeRequests_taken boot.system events).trans
    (taken_bridge requests_agree (fun _ => rfl) boot events)

/-- When no message for the bridge is lost and the line takes all, the flight controller has been
asked for all that accepted commands ask for, in their order, but for what waits in the pipe. -/
theorem flight_modes_delivered (boot : Boot) (events : List Event)
    (keeps : ∀ event ∈ events, bridgePipe.Keeps event)
    (line : Each (fun before event => LineTakes (run step boot.system before) event) events) :
    project step modeRequests boot.system events ++
        (run step boot.system events).toBridge.flatMap BridgeOrder.requests =
      (project step accepted boot.system events).flatMap groundRequests := by
  have whole : project step modeRequests boot.system events =
      (project step takenBridge boot.system events).flatMap BridgeOrder.requests := by
    rw [Channel.flatMap_project]
    apply Channel.project_eq
    intro before event after place
    exact modeRequests_whole (line before event after place)
  calc
    _ = (project step takenBridge boot.system events ++
        (run step boot.system events).toBridge).flatMap BridgeOrder.requests := by
      rw [whole, List.flatMap_append]
    _ = (project step bridgePipe.sent boot.system events).flatMap BridgeOrder.requests :=
      congrArg _ (bridgePipe_lawful.eq keeps)
    _ = _ := by
      rw [Channel.flatMap_project, Channel.flatMap_project]
      simp only [sent_bridge requests_agree fun cmd => rfl]

/-- A start from empty state files. -/
def firstBoot : Boot where
  load := .read
  resetType := 1
  countEnv := Uplink.workingEnv 1000
  markerEnv := Uplink.workingEnv 1000
  uplinkFile := none
  coreLoad := .read
  coreFile := none
  config := .default
  loraLoad := .read
  loraFile := none

/-- A command to fly the mission from its fourth item on. -/
def waypointModeCmd : ProcessUplinkCmd where
  version := 1
  commandClass := 8
  payloadLength := 6
  flags := 0xC0
  sequence := 1
  checksum := 0x2CC3
  payload := Vector.ofFn fun index => [1, 3, 1, 0, 0, 0].getD index 0

/-- The ground commands a flight mode once the system is well, and the bridge takes it. -/
def modeFlight : List Event :=
  [.uplink (Uplink.workingEnv 1200) (.received (.systemHealth 0)) rfl .lossless,
    .bridge (.reconnect 5000 "/dev/ttyAMA0" (.opened 5000) (.at 5000)) rfl .lossless,
    .uplink (Uplink.workingEnv 1400) (.received (.command 2 204 waypointModeCmd)) rfl .lossless,
    .takeBridge ⟨.at 6000, .written, "/dev/ttyAMA0", .opened 6000⟩ .lossless]

/-- The flight controller is asked for the mission and its fourth item. -/
theorem flight_modes_delivered_waypoint :
    project step modeRequests firstBoot.system modeFlight = groundRequests waypointModeCmd := by
  have line : Each (fun before event =>
      LineTakes (run step firstBoot.system before) event) modeFlight := by
    rw [modeFlight, each_cons, each_cons, each_cons, each_cons]
    exact ⟨trivial, trivial, trivial, ⟨by decide +kernel, fun index => rfl⟩, each_nil⟩
  have taken : (run step firstBoot.system modeFlight).toBridge = [] := by
    rw [← List.isEmpty_iff]
    decide +kernel
  have commands : project step accepted firstBoot.system modeFlight = [waypointModeCmd] := by
    decide +kernel
  have all := flight_modes_delivered firstBoot modeFlight
    (by simp [modeFlight, Pipe.Keeps, bridgePipe, Event.bus, Bus.lossless]) line
  rw [taken, commands, List.flatMap_nil, List.append_nil, List.flatMap_cons, List.flatMap_nil,
    List.append_nil] at all
  exact all

end CfsTelemetry.Flight
