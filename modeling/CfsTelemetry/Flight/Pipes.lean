import CfsTelemetry.Flight.System

/-!
# The pipes of the command plane

What an event does to each of the four pipes: its receiver may take the message that has waited
longest, the messages that the event sends come behind what waits, as far as the bus loses none,
and a receiver that starts again finds its pipe empty. Over a run, what a receiver takes is a part
of what was sent, in the order of sending, and all of it when nothing is lost.
-/
namespace CfsTelemetry.Flight

open Run

/-- The bus that an event meets. -/
def Event.bus : Event → Bus
  | .uplink _ _ _ bus | .takeResult _ bus | .core _ _ _ bus | .takeCore _ bus | .bridge _ _ bus
  | .takeBridge _ bus | .lora _ _ _ bus | .takeLora _ bus => bus
  | _ => .lossless

/-- A pipe: what waits in it, what its receiver takes, what is sent into it, whether the bus loses
nothing on the way, and whether the receiver starts again. -/
structure Pipe (Message : Type) where
  waiting : System → List Message
  taken : System → Event → List Message
  sent : System → Event → List Message
  room : Bus → Bool
  emptied : Event → Bool

/-- The pipe of the core application. -/
def corePipe : Pipe Core.PipeMessage where
  waiting := System.toCore
  taken := takenCore
  sent := fun s event => (orders s event).filterMap forCore
  room := Bus.core
  emptied := fun
    | .restartCore _ => true
    | _ => false

/-- The pipe of the bridge. -/
def bridgePipe : Pipe BridgeOrder where
  waiting := System.toBridge
  taken := takenBridge
  sent := fun s event =>
    (orders s event).filterMap forBridge ++ (controls s event).map .control
  room := Bus.bridge
  emptied := fun
    | .restartBridge _ => true
    | _ => false

/-- The pipe of the LoRa application. -/
def loraPipe : Pipe Lora.Packet where
  waiting := System.toLora
  taken := takenLora
  sent := fun s event =>
    (orders s event).filterMap forLora ++ (snapshots s event).map snapshotPacket
  room := Bus.lora
  emptied := fun
    | .restartLora _ _ => true
    | _ => false

/-- The pipe of the uplink application, as far as results come through it. -/
def uplinkPipe : Pipe ExecResult where
  waiting := System.results
  taken := takenResults
  sent := reported
  room := Bus.uplink
  emptied := fun
    | .restartUplink .. => true
    | _ => false

/-- What an event does to a pipe: it is emptied, or goes on with what is sent into it. -/
def Pipe.Lawful {Message : Type} (pipe : Pipe Message) : Prop :=
  ∀ s event,
    (pipe.emptied event = true ∧ pipe.taken s event = [] ∧ pipe.waiting (step s event) = []) ∨
      pipe.taken s event ++ pipe.waiting (step s event) =
        pipe.waiting s ++ reach (pipe.room event.bus) (pipe.sent s event)

section

variable {Message : Type} {pipe : Pipe Message}

/-- What a pipe takes is a part of what is sent. -/
theorem reach_sublist (taken : Bool) (messages : List Message) :
    (reach taken messages).Sublist messages := by
  unfold reach
  split
  · exact .refl _
  · exact List.nil_sublist _

/-- Of nothing, nothing is taken. -/
@[simp] theorem reach_nil (taken : Bool) : reach taken ([] : List Message) = [] := by
  cases taken <;> rfl

/-- In a run, what is taken and what still waits is a part of what waited and what was sent. -/
theorem Pipe.Lawful.sublist (lawful : pipe.Lawful) (start : System) (events : List Event) :
    (project step pipe.taken start events ++ pipe.waiting (run step start events)).Sublist
      (pipe.waiting start ++ project step pipe.sent start events) := by
  apply Channel.taken_sublist
  intro s event
  rcases lawful s event with ⟨-, taken, waiting⟩ | goesOn
  · rw [taken, waiting]
    exact List.nil_sublist _
  · rw [goesOn]
    exact (List.Sublist.refl _).append (reach_sublist _ _)

/-- An event loses nothing that goes through a pipe. The bus may lose what is put in, and an
application that starts again finds its pipe empty. -/
def Pipe.Keeps (pipe : Pipe Message) (event : Event) : Prop :=
  pipe.emptied event = false ∧ pipe.room event.bus = true

/-- In a run that loses nothing, what is taken and what still waits is what waited and what was
sent. -/
theorem Pipe.Lawful.eq (lawful : pipe.Lawful) {start : System} {events : List Event}
    (keeps : ∀ event ∈ events, pipe.Keeps event) :
    project step pipe.taken start events ++ pipe.waiting (run step start events) =
      pipe.waiting start ++ project step pipe.sent start events := by
  apply Channel.taken_eq
  apply each_of_forall
  intro event mem before
  obtain ⟨stays, room⟩ := keeps event mem
  rcases lawful (run step start before) event with ⟨emptied, -⟩ | goesOn
  · rw [stays] at emptied
    cases emptied
  · rw [goesOn, room]
    rfl

end

section

variable {s : System} {event : Event}

/-- An event of the uplink application is a round of it, after which its orders are on their
way. -/
theorem step_uplink {round : Uplink.Env × Uplink.Input} (own : uplinkRound s event = some round) :
    ∃ rest, takenResults s event ++ rest = s.results ∧
      step s event = afterUplink event.bus round { s with results := rest } ∧
        Uplink.ordersBetween s.uplink (Uplink.step s.uplink round) = orders s event := by
  have ordered : Uplink.ordersBetween s.uplink (Uplink.step s.uplink round) = orders s event := by
    rw [Uplink.step_orders, orders, own]
    rfl
  cases event with
  | uplink env input other bus =>
    cases own
    exact ⟨s.results, rfl, rfl, ordered⟩
  | takeResult env bus =>
    cases pipe : s.results with
    | nil => simp [uplinkRound, pipe] at own
    | cons result rest =>
      rw [uplinkRound, pipe] at own
      cases own
      refine ⟨rest, ?_, ?_, ordered⟩
      · rw [takenResults, pipe]
        rfl
      · simp only [step, pipe]
        rfl
  | _ => cases own

/-- An event of the core application is a round of it. -/
theorem step_core {met : Core.Env × Option Core.PipeMessage} (own : coreRound s event = some met) :
    ∃ rest, takenCore s event ++ rest = s.toCore ∧
      step s event = afterCore event.bus met { s with toCore := rest } := by
  cases event with
  | core env message other bus =>
    cases own
    exact ⟨s.toCore, rfl, rfl⟩
  | takeCore env bus =>
    cases pipe : s.toCore with
    | nil => simp [coreRound, pipe] at own
    | cons message rest =>
      rw [coreRound, pipe] at own
      cases own
      refine ⟨rest, ?_, ?_⟩
      · rw [takenCore, pipe]
        rfl
      · simp only [step, pipe]
        rfl
  | _ => cases own

/-- An event of the bridge is an input of it. -/
theorem step_bridge {input : Bridge.Input} (own : bridgeInput s event = some input) :
    ∃ rest, takenBridge s event ++ rest = s.toBridge ∧
      step s event = afterBridge event.bus input { s with toBridge := rest } := by
  cases event with
  | bridge input other bus =>
    cases own
    exact ⟨s.toBridge, rfl, rfl⟩
  | takeBridge met bus =>
    cases pipe : s.toBridge with
    | nil => simp [bridgeInput, pipe] at own
    | cons order rest =>
      rw [bridgeInput, pipe] at own
      cases own
      refine ⟨rest, ?_, ?_⟩
      · rw [takenBridge, pipe]
        rfl
      · simp only [step, pipe]
        rfl
  | _ => cases own

/-- An event of the LoRa application that brings a message is the handling of it. -/
theorem step_lora {env : Lora.PacketEnv} {packet : Lora.Packet}
    (own : loraPacket s event = some (env, packet)) :
    ∃ rest, takenLora s event ++ rest = s.toLora ∧
      step s event = afterLora event.bus env packet { s with toLora := rest } := by
  cases event with
  | lora env packet other bus =>
    cases own
    exact ⟨s.toLora, rfl, rfl⟩
  | takeLora env bus =>
    cases pipe : s.toLora with
    | nil => simp [loraPacket, pipe] at own
    | cons message rest =>
      rw [loraPacket, pipe] at own
      cases own
      refine ⟨rest, ?_, ?_⟩
      · rw [takenLora, pipe]
        rfl
      · simp only [step, pipe]
        rfl
  | _ => cases own

/-- Whether an event is the start of an application or one on the link of the LoRa application. -/
def Event.aside : Event → Bool
  | .restartUplink .. | .restartCore _ | .restartBridge _ | .restartLora .. | .radio .. => true
  | _ => false

/-- An event that is no round of any application finds nothing to be taken. -/
theorem step_idle (uplink : uplinkRound s event = none) (core : coreRound s event = none)
    (bridge : bridgeInput s event = none) (lora : loraPacket s event = none)
    (within : event.aside = false) :
    step s event = s ∧ takenCore s event = [] ∧ takenBridge s event = [] ∧
      takenLora s event = [] ∧ takenResults s event = [] := by
  cases event with
  | uplink | core | bridge | lora => cases uplink <;> cases core <;> cases bridge <;> cases lora
  | restartUplink | restartCore | restartBridge | restartLora | radio => cases within
  | takeResult env bus =>
    cases pipe : s.results with
    | nil => simp [step, takenCore, takenBridge, takenLora, takenResults, pipe]
    | cons result rest => simp [uplinkRound, pipe] at uplink
  | takeCore env bus =>
    cases pipe : s.toCore with
    | nil => simp [step, takenCore, takenBridge, takenLora, takenResults, pipe]
    | cons message rest => simp [coreRound, pipe] at core
  | takeBridge met bus =>
    cases pipe : s.toBridge with
    | nil => simp [step, takenCore, takenBridge, takenLora, takenResults, pipe]
    | cons order rest => simp [bridgeInput, pipe] at bridge
  | takeLora env bus =>
    cases pipe : s.toLora with
    | nil => simp [step, takenCore, takenBridge, takenLora, takenResults, pipe]
    | cons packet rest => simp [loraPacket, pipe] at lora

end

/-! ## The four pipes -/

section

variable {s : System} {event : Event}

/-- A round of the uplink application is no round of another one. -/
theorem others_of_uplink {round : Uplink.Env × Uplink.Input}
    (own : uplinkRound s event = some round) :
    coreRound s event = none ∧ bridgeInput s event = none ∧ loraPacket s event = none := by
  cases event <;> first | exact ⟨rfl, rfl, rfl⟩ | cases own

/-- A round of the core application is no round of the bridge or the LoRa application. -/
theorem others_of_core {met : Core.Env × Option Core.PipeMessage}
    (own : coreRound s event = some met) :
    uplinkRound s event = none ∧ bridgeInput s event = none ∧ loraPacket s event = none := by
  cases event <;> first | exact ⟨rfl, rfl, rfl⟩ | cases own

/-- Where the uplink application has no round, nothing is ordered. -/
theorem orders_of_none (none : uplinkRound s event = none) : orders s event = [] := by
  rw [orders, none]
  rfl

/-- Where the core application has no round, the bridge gets no command from it. -/
theorem controls_of_none (none : coreRound s event = none) : controls s event = [] := by
  rw [controls, none]

/-- Where the core application has no round, no snapshot is published. -/
theorem snapshots_of_none (none : coreRound s event = none) : snapshots s event = [] := by
  rw [snapshots, none]

/-- Where the core application has a round, its commands for the bridge are those it has put
out. -/
theorem controls_of_some {met : Core.Env × Option Core.PipeMessage}
    (own : coreRound s event = some met) :
    controls s event =
      Channel.added (coreControls s.core.data) (coreControls (Core.round s.core met).data) := by
  rw [controls, own]

/-- Where the core application has a round, its snapshots are those it has published. -/
theorem snapshots_of_some {met : Core.Env × Option Core.PipeMessage}
    (own : coreRound s event = some met) :
    snapshots s event = Channel.added s.core.snapshots (Core.round s.core met).snapshots := by
  rw [snapshots, own]

/-- Only the core application takes from its pipe. -/
theorem takenCore_of_none (none : coreRound s event = none) : takenCore s event = [] := by
  cases event with
  | takeCore env bus =>
    cases pipe : s.toCore with
    | nil => simp [takenCore, pipe]
    | cons message rest => simp [coreRound, pipe] at none
  | _ => rfl

/-- Only the bridge takes from its pipe. -/
theorem takenBridge_of_none (none : bridgeInput s event = none) : takenBridge s event = [] := by
  cases event with
  | takeBridge met bus =>
    cases pipe : s.toBridge with
    | nil => simp [takenBridge, pipe]
    | cons order rest => simp [bridgeInput, pipe] at none
  | _ => rfl

/-- Only the LoRa application takes from its pipe. -/
theorem takenLora_of_none (none : loraPacket s event = none) : takenLora s event = [] := by
  cases event with
  | takeLora env bus =>
    cases pipe : s.toLora with
    | nil => simp [takenLora, pipe]
    | cons packet rest => simp [loraPacket, pipe] at none
  | _ => rfl

/-- Only the uplink application takes a result. -/
theorem takenResults_of_none (none : uplinkRound s event = none) : takenResults s event = [] := by
  cases event with
  | takeResult env bus =>
    cases pipe : s.results with
    | nil => simp [takenResults, pipe]
    | cons result rest => simp [uplinkRound, pipe] at none
  | _ => rfl

end

/-- An event that is no round of any application, or only of others, leaves the bridge as it is,
unless the bridge starts again. -/
theorem bridge_of_none {s : System} {event : Event} (none : bridgeInput s event = none) :
    (step s event).bridge = s.bridge ∨
      ∃ config, event = .restartBridge config ∧
        (step s event).bridge = Bridge.initialState config := by
  cases uplink : uplinkRound s event with
  | some round =>
    obtain ⟨rest, -, moved, -⟩ := step_uplink uplink
    left
    rw [moved]
    rfl
  | none =>
    cases core : coreRound s event with
    | some met =>
      obtain ⟨rest, -, moved⟩ := step_core core
      left
      rw [moved]
      rfl
    | none =>
      cases lora : loraPacket s event with
      | some met =>
        obtain ⟨rest, -, moved⟩ := step_lora lora
        left
        rw [moved]
        rfl
      | none =>
        cases aside : event.aside with
        | false => exact .inl (congrArg System.bridge (step_idle uplink core none lora aside).1)
        | true =>
          cases event with
          | restartBridge config => exact .inr ⟨config, rfl, rfl⟩
          | restartUplink | restartCore | restartLora | radio => exact .inl rfl
          | _ => cases aside

/-- So it is with the core application. -/
theorem core_of_none {s : System} {event : Event} (none : coreRound s event = none) :
    (step s event).core = s.core ∨
      ∃ io, (step s event).core = Core.startApplication io s.core.data.stateFile := by
  cases uplink : uplinkRound s event with
  | some round =>
    obtain ⟨rest, -, moved, -⟩ := step_uplink uplink
    left
    rw [moved]
    rfl
  | none =>
    cases bridge : bridgeInput s event with
    | some input =>
      obtain ⟨rest, -, moved⟩ := step_bridge bridge
      left
      rw [moved]
      rfl
    | none =>
      cases lora : loraPacket s event with
      | some met =>
        obtain ⟨rest, -, moved⟩ := step_lora lora
        left
        rw [moved]
        rfl
      | none =>
        cases aside : event.aside with
        | false => exact .inl (congrArg System.core (step_idle uplink none bridge lora aside).1)
        | true =>
          cases event with
          | restartCore io => exact .inr ⟨io, rfl⟩
          | restartUplink | restartBridge | restartLora | radio => exact .inl rfl
          | _ => cases aside

/-! ## The laws of the pipes -/

/-- The pipe of the core application is lawful. -/
theorem corePipe_lawful : corePipe.Lawful := by
  intro s event
  change (corePipe.emptied event = true ∧ takenCore s event = [] ∧ (step s event).toCore = []) ∨
    takenCore s event ++ (step s event).toCore =
      s.toCore ++ reach event.bus.core ((orders s event).filterMap forCore)
  cases uplink : uplinkRound s event with
  | some round =>
    obtain ⟨rest, -, moved, ordered⟩ := step_uplink uplink
    right
    rw [takenCore_of_none (others_of_uplink uplink).1, moved, ← ordered]
    rfl
  | none =>
    rw [orders_of_none uplink, List.filterMap_nil, reach_nil, List.append_nil]
    cases core : coreRound s event with
    | some met =>
      obtain ⟨rest, taken, moved⟩ := step_core core
      right
      rw [moved, ← taken]
      rfl
    | none =>
      rw [takenCore_of_none core, List.nil_append]
      cases bridge : bridgeInput s event with
      | some input =>
        obtain ⟨rest, -, moved⟩ := step_bridge bridge
        right
        rw [moved]
        rfl
      | none =>
        cases lora : loraPacket s event with
        | some met =>
          obtain ⟨rest, -, moved⟩ := step_lora lora
          right
          rw [moved]
          rfl
        | none =>
          cases aside : event.aside with
          | false =>
            obtain ⟨same, -⟩ := step_idle uplink core bridge lora aside
            exact .inr (congrArg System.toCore same)
          | true =>
            cases event with
            | restartCore io => exact .inl ⟨rfl, rfl, rfl⟩
            | restartUplink | restartBridge | restartLora | radio => exact .inr rfl
            | _ => cases aside

/-- The pipe of the bridge is lawful. -/
theorem bridgePipe_lawful : bridgePipe.Lawful := by
  intro s event
  change (bridgePipe.emptied event = true ∧ takenBridge s event = [] ∧
      (step s event).toBridge = []) ∨
    takenBridge s event ++ (step s event).toBridge =
      s.toBridge ++ reach event.bus.bridge
        ((orders s event).filterMap forBridge ++ (controls s event).map .control)
  cases uplink : uplinkRound s event with
  | some round =>
    obtain ⟨rest, -, moved, ordered⟩ := step_uplink uplink
    obtain ⟨core, bridge, -⟩ := others_of_uplink uplink
    right
    rw [takenBridge_of_none bridge, controls_of_none core, moved, ← ordered, List.map_nil,
      List.append_nil]
    rfl
  | none =>
    rw [orders_of_none uplink, List.filterMap_nil, List.nil_append]
    cases core : coreRound s event with
    | some met =>
      obtain ⟨rest, -, moved⟩ := step_core core
      right
      rw [takenBridge_of_none (others_of_core core).2.1, controls_of_some core, moved]
      rfl
    | none =>
      rw [controls_of_none core, List.map_nil, reach_nil, List.append_nil]
      cases bridge : bridgeInput s event with
      | some input =>
        obtain ⟨rest, taken, moved⟩ := step_bridge bridge
        right
        rw [moved, ← taken]
        rfl
      | none =>
        rw [takenBridge_of_none bridge, List.nil_append]
        cases lora : loraPacket s event with
        | some met =>
          obtain ⟨rest, -, moved⟩ := step_lora lora
          right
          rw [moved]
          rfl
        | none =>
          cases aside : event.aside with
          | false =>
            obtain ⟨same, -⟩ := step_idle uplink core bridge lora aside
            exact .inr (congrArg System.toBridge same)
          | true =>
            cases event with
            | restartBridge config => exact .inl ⟨rfl, rfl, rfl⟩
            | restartUplink | restartCore | restartLora | radio => exact .inr rfl
            | _ => cases aside

/-- The pipe of the LoRa application is lawful. -/
theorem loraPipe_lawful : loraPipe.Lawful := by
  intro s event
  change (loraPipe.emptied event = true ∧ takenLora s event = [] ∧
      (step s event).toLora = []) ∨
    takenLora s event ++ (step s event).toLora =
      s.toLora ++ reach event.bus.lora
        ((orders s event).filterMap forLora ++ (snapshots s event).map snapshotPacket)
  cases uplink : uplinkRound s event with
  | some round =>
    obtain ⟨rest, -, moved, ordered⟩ := step_uplink uplink
    obtain ⟨core, -, lora⟩ := others_of_uplink uplink
    right
    rw [takenLora_of_none lora, snapshots_of_none core, moved, ← ordered, List.map_nil,
      List.append_nil]
    rfl
  | none =>
    rw [orders_of_none uplink, List.filterMap_nil, List.nil_append]
    cases core : coreRound s event with
    | some met =>
      obtain ⟨rest, -, moved⟩ := step_core core
      right
      rw [takenLora_of_none (others_of_core core).2.2, snapshots_of_some core, moved]
      rfl
    | none =>
      rw [snapshots_of_none core, List.map_nil, reach_nil, List.append_nil]
      cases lora : loraPacket s event with
      | some met =>
        obtain ⟨rest, taken, moved⟩ := step_lora lora
        right
        rw [moved, ← taken]
        rfl
      | none =>
        rw [takenLora_of_none lora, List.nil_append]
        cases bridge : bridgeInput s event with
        | some input =>
          obtain ⟨rest, -, moved⟩ := step_bridge bridge
          right
          rw [moved]
          rfl
        | none =>
          cases aside : event.aside with
          | false =>
            obtain ⟨same, -⟩ := step_idle uplink core bridge lora aside
            exact .inr (congrArg System.toLora same)
          | true =>
            cases event with
            | restartLora io stateFile => exact .inl ⟨rfl, rfl, rfl⟩
            | restartUplink | restartCore | restartBridge | radio => exact .inr rfl
            | _ => cases aside

/-- The pipe of the uplink application is lawful. -/
theorem uplinkPipe_lawful : uplinkPipe.Lawful := by
  intro s event
  change (uplinkPipe.emptied event = true ∧ takenResults s event = [] ∧
      (step s event).results = []) ∨
    takenResults s event ++ (step s event).results =
      s.results ++ reach event.bus.uplink (reported s event)
  cases uplink : uplinkRound s event with
  | some round =>
    obtain ⟨rest, taken, moved, -⟩ := step_uplink uplink
    obtain ⟨core, bridge, lora⟩ := others_of_uplink uplink
    right
    rw [moved, reported, core, bridge, lora, reach_nil, List.append_nil, ← taken]
    rfl
  | none =>
    rw [takenResults_of_none uplink, List.nil_append]
    cases core : coreRound s event with
    | some met =>
      obtain ⟨rest, -, moved⟩ := step_core core
      right
      rw [moved, reported, core]
      rfl
    | none =>
      cases bridge : bridgeInput s event with
      | some input =>
        obtain ⟨rest, -, moved⟩ := step_bridge bridge
        right
        rw [moved, reported, core, bridge]
        rfl
      | none =>
        cases lora : loraPacket s event with
        | some met =>
          obtain ⟨rest, -, moved⟩ := step_lora lora
          right
          rw [moved, reported, core, bridge, lora]
          rfl
        | none =>
          rw [reported, core, bridge, lora, reach_nil, List.append_nil]
          cases aside : event.aside with
          | false =>
            obtain ⟨same, -⟩ := step_idle uplink core bridge lora aside
            exact .inr (congrArg System.results same)
          | true =>
            cases event with
            | restartUplink => exact .inl ⟨rfl, rfl, rfl⟩
            | restartCore | restartBridge | restartLora | radio => exact .inr rfl
            | _ => cases aside

end CfsTelemetry.Flight
