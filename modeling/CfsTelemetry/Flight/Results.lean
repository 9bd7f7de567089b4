import CfsTelemetry.Flight.Modes
import CfsTelemetry.Uplink.Gating

/-!
# Results on the way back to the ground

A result that the uplink application takes names an application, and the sequence and the class of
a command. It goes back to a ground command that the uplink application has admitted and that this
application owes an answer to, and no command is answered twice. When nothing is lost on the way,
every accepted command that is owed an answer has been answered, or its message or its result
still waits in a pipe.
-/
namespace CfsTelemetry.Flight

open Run

/-- The answer that a ground command is owed. -/
def groundOwed (cmd : ProcessUplinkCmd) : Option Answer :=
  match Uplink.CommandClass.ofByte cmd.commandClass with
  | some .config =>
    if cmd.byte 0 ∈ [Core.configScope, Bridge.configScope, Lora.configScope] then
      some ⟨cmd.byte 0, cmd.sequence, 1⟩
    else none
  | some .viewpoint => some ⟨1, cmd.sequence, 3⟩
  | some .recovery => some ⟨1, cmd.sequence, 4⟩
  | some .mode => some ⟨1, cmd.sequence, 5⟩
  | some .flightMode => some ⟨2, cmd.sequence, 8⟩
  | _ => none

/-- The answer that the bridge owes a message of its pipe. -/
def BridgeOrder.owed : BridgeOrder → Option Answer
  | config cmd => bridgeConfigOwed cmd
  | flightMode cmd => some ⟨2, cmd.sourceSequence, 8⟩
  | _ => none

/-- The answers that the messages taken in an event are owed. -/
def takenOwed (s : System) (event : Event) : List Answer :=
  (takenCore s event).filterMap coreOwed ++
    ((takenBridge s event).filterMap BridgeOrder.owed ++ (takenLora s event).filterMap loraOwed)

/-- The answers that the messages sent in an event are owed. -/
def sentOwed (s : System) (event : Event) : List Answer :=
  (corePipe.sent s event).filterMap coreOwed ++
    ((bridgePipe.sent s event).filterMap BridgeOrder.owed ++
      (loraPipe.sent s event).filterMap loraOwed)

/-- The bridge answers a message as it is owed. -/
theorem owed_input (order : BridgeOrder) (met : BridgeEnv) :
    bridgeOwed (order.input met) = order.owed := by
  cases order with
  | control cmd => cases cmd <;> rfl
  | _ => rfl

/-- What a single message is owed. -/
theorem filterMap_single {Message : Type} (owed : Message → Option Answer) (message : Message) :
    [message].filterMap owed = (owed message).toList := by
  cases answer : owed message <;> simp [answer]

/-- What is reported in an event are the answers that the messages taken are owed. -/
theorem reported_answers (s : System) (event : Event) :
    (reported s event).map answerOf = takenOwed s event := by
  cases event with
  | core env message other bus =>
    have unowed : message.bind coreOwed = none := by
      cases message with
      | none => rfl
      | some message =>
        cases message with
        | config | viewpoint | recovery | mode => cases other
        | _ => rfl
    have answers := (round_answers s.core (env, message)).added
    rw [unowed] at answers
    exact answers
  | takeCore env bus =>
    cases pipe : s.toCore with
    | nil => simp [reported, coreRound, bridgeInput, loraPacket, takenOwed, takenCore, takenBridge,
        takenLora, pipe]
    | cons message rest =>
      have answers := (round_answers s.core (env, some message)).added
      have taken : takenOwed s (.takeCore env bus) = (coreOwed message).toList := by
        rw [← filterMap_single, takenOwed, takenCore, pipe]
        exact List.append_nil _
      rw [taken, reported, coreRound, pipe]
      exact answers
  | bridge input other bus =>
    have unowed : bridgeOwed input = none := by
      cases input with
      | config | setFlightMode => cases other
      | _ => rfl
    have answers := (step_answers s.bridge input).added
    rw [unowed] at answers
    exact answers
  | takeBridge met bus =>
    cases pipe : s.toBridge with
    | nil => simp [reported, coreRound, bridgeInput, loraPacket, takenOwed, takenCore, takenBridge,
        takenLora, pipe]
    | cons order rest =>
      have answers := (step_answers s.bridge (order.input met)).added
      have taken : takenOwed s (.takeBridge met bus) = order.owed.toList := by
        rw [← filterMap_single, takenOwed, takenBridge, pipe]
        exact List.append_nil _
      rw [taken, ← owed_input order met, reported, bridgeInput, pipe]
      exact answers
  | lora env packet other bus =>
    have unowed : loraOwed packet = none := by
      cases packet with
      | config => cases other
      | _ => rfl
    have answers := (processPacket_answers env packet s.lora).added
    rw [unowed] at answers
    exact answers
  | takeLora env bus =>
    cases pipe : s.toLora with
    | nil => simp [reported, coreRound, bridgeInput, loraPacket, takenOwed, takenCore, takenBridge,
        takenLora, pipe]
    | cons packet rest =>
      have answers := (processPacket_answers env packet s.lora).added
      have taken : takenOwed s (.takeLora env bus) = (loraOwed packet).toList := by
        rw [← filterMap_single, takenOwed, takenLora, pipe]
        rfl
      rw [taken, reported, loraPacket, pipe]
      exact answers
  | uplink | takeResult | restartUplink | restartCore | restartBridge | restartLora | radio => rfl

/-- The scope of a configuration message is the scope of its command. -/
theorem scope_configCmd {cmd : ProcessUplinkCmd} (long : 12 ≤ cmd.payloadLength)
    (s : Uplink.State) : (Mission.configCmd (Uplink.configTlm cmd s)).byte 0 = cmd.byte 0 := by
  have used : 0 < cmd.payloadLength.toNat := by
    have bound := UInt8.le_iff_toNat_le.mp long
    have twelve : (12 : UInt8).toNat = 12 := rfl
    omega
  exact Mission.configCmd_byte s used (by decide)

/-- A configuration message is owed an answer by the application that it names, if any. -/
theorem owed_config {cmd : ConfigCmd} (long : ¬ cmd.payloadLength < 8) :
    (coreConfigOwed cmd).toList ++ ((bridgeConfigOwed cmd).toList ++ (loraConfigOwed cmd).toList) =
      (if cmd.byte 0 ∈ [Core.configScope, Bridge.configScope, Lora.configScope] then
        some (⟨cmd.byte 0, cmd.sourceSequence, 1⟩ : Answer) else none).toList := by
  unfold coreConfigOwed bridgeConfigOwed loraConfigOwed
  generalize cmd.byte 0 = scope
  by_cases core : scope = Core.configScope
  · subst core
    simp [long, Core.configScope, Bridge.configScope, Lora.configScope]
  · by_cases bridge : scope = Bridge.configScope
    · subst bridge
      simp [long, Core.configScope, Bridge.configScope, Lora.configScope]
    · by_cases lora : scope = Lora.configScope
      · subst lora
        simp [long, Core.configScope, Bridge.configScope, Lora.configScope]
      · simp [long, core, bridge, lora]

/-- The answers that a message of the uplink application is owed. -/
def messageOwed (message : Uplink.Message) : List Answer :=
  ((forCore message).bind coreOwed).toList ++
    (((forBridge message).bind BridgeOrder.owed).toList ++
      ((forLora message).bind loraOwed).toList)

/-- The message of a command is owed what the command is owed, by one application. -/
theorem owed_agree : Agrees messageOwed fun cmd => (groundOwed cmd).toList := by
  intro env cmd s message asked
  obtain ⟨commandClass, named, sends⟩ := Uplink.request_sends asked
  unfold messageOwed groundOwed
  dsimp only
  rw [named]
  cases sends with
  | config valid =>
    have long := Uplink.configValid_length valid
    have header : ¬ cmd.payloadLength < 8 := by
      rw [UInt8.lt_iff_toNat_lt]
      have bound := UInt8.le_iff_toNat_le.mp long
      have twelve : (12 : UInt8).toNat = 12 := rfl
      have eight : (8 : UInt8).toNat = 8 := rfl
      omega
    rw [← scope_configCmd long s]
    exact owed_config header
  | counterMgmt scope => cases scope <;> rfl
  | _ => rfl

/-- What is sent in an event is owed what its accepted command is. -/
theorem sentOwed_eq (s : System) (event : Event) :
    sentOwed s event = (accepted s event).filterMap groundOwed := by
  have own : sentOwed s event = ((orders s event).filterMap forCore).filterMap coreOwed ++
      (((orders s event).filterMap forBridge).filterMap BridgeOrder.owed ++
        ((orders s event).filterMap forLora).filterMap loraOwed) := by
    change ((orders s event).filterMap forCore).filterMap coreOwed ++
      (((orders s event).filterMap forBridge ++
        (controls s event).map BridgeOrder.control).filterMap BridgeOrder.owed ++
        ((orders s event).filterMap forLora ++
          (snapshots s event).map snapshotPacket).filterMap loraOwed) = _
    have unowed : ((controls s event).map BridgeOrder.control).filterMap BridgeOrder.owed = [] := by
      simp [List.filterMap_eq_nil_iff, BridgeOrder.owed]
    have published : ((snapshots s event).map snapshotPacket).filterMap loraOwed = [] := by
      simp [List.filterMap_eq_nil_iff, loraOwed, snapshotPacket]
    rw [List.filterMap_append, List.filterMap_append, unowed, published, List.append_nil,
      List.append_nil]
  rw [own, List.filterMap_eq_flatMap_toList groundOwed, ← orders_flatMap owed_agree]
  unfold orders
  cases (uplinkRound s event).bind (Uplink.ordered s.uplink) with
  | none => rfl
  | some message =>
    simp only [Option.toList_some, List.filterMap_filterMap, filterMap_single, List.flatMap_cons,
      List.flatMap_nil, List.append_nil]
    rfl

/-! ## Over a run -/

/-- What is reported over a run are the answers that the messages taken are owed. -/
theorem run_reported (start : System) (events : List Event) :
    ((project step reported start events).map answerOf).Perm
      ((project step takenCore start events).filterMap coreOwed ++
        ((project step takenBridge start events).filterMap BridgeOrder.owed ++
          (project step takenLora start events).filterMap loraOwed)) := by
  have each : (project step reported start events).map answerOf =
      project step takenOwed start events := by
    rw [Channel.map_project]
    simp only [reported_answers]
  rw [each, Channel.filterMap_project, Channel.filterMap_project, Channel.filterMap_project]
  exact (Channel.project_append_perm _ _ _ _).trans
    ((Channel.project_append_perm _ _ _ _).append_left _)

/-- What is sent over a run is owed what the accepted commands are. -/
theorem run_sent (start : System) (events : List Event) :
    ((project step corePipe.sent start events).filterMap coreOwed ++
      ((project step bridgePipe.sent start events).filterMap BridgeOrder.owed ++
        (project step loraPipe.sent start events).filterMap loraOwed)).Perm
      ((project step accepted start events).filterMap groundOwed) := by
  have each : (project step accepted start events).filterMap groundOwed =
      project step sentOwed start events := by
    rw [Channel.filterMap_project]
    simp only [← sentOwed_eq]
  rw [each, Channel.filterMap_project, Channel.filterMap_project, Channel.filterMap_project]
  exact ((Channel.project_append_perm _ _ _ _).trans
    ((Channel.project_append_perm _ _ _ _).append_left _)).symm

/-- The results that the uplink application takes are some of those that accepted commands are
owed, each as often at most as it is owed. -/
theorem answers_owed (boot : Boot) (events : List Event) :
    ((project step takenResults boot.system events).map answerOf).Subperm
      ((project step accepted boot.system events).filterMap groundOwed) := by
  have taken : ∀ {Message : Type} (pipe : Pipe Message), pipe.Lawful →
      pipe.waiting boot.system = [] →
        (project step pipe.taken boot.system events).Sublist
          (project step pipe.sent boot.system events) := by
    intro Message pipe lawful clear
    have part := lawful.sublist boot.system events
    rw [clear, List.nil_append] at part
    exact (List.sublist_append_left _ _).trans part
  have results := taken uplinkPipe uplinkPipe_lawful rfl
  have core := taken corePipe corePipe_lawful rfl
  have bridge := taken bridgePipe bridgePipe_lawful rfl
  have lora := taken loraPipe loraPipe_lawful rfl
  have whole := (core.filterMap coreOwed).append
    ((bridge.filterMap BridgeOrder.owed).append (lora.filterMap loraOwed))
  have answered := (results.map answerOf).subperm.trans (run_reported boot.system events).subperm
  exact answered.trans (whole.subperm.trans (run_sent boot.system events).subperm)

/-- Each result that the uplink application takes answers an admitted command that is owed an
answer by the application that reports it, and no two results answer the same command. -/
theorem results_answer_commands (boot : Boot) (events : List Event) :
    ((project step takenResults boot.system events).map answerOf).Subperm
      ((project step admitted boot.system events).filterMap groundOwed) := by
  have commands : (project step accepted boot.system events).Sublist
      (project step admitted boot.system events) :=
    Channel.project_sublist accepted_sublist boot.system events
  exact (answers_owed boot events).trans (commands.filterMap groundOwed).subperm

/-- An event loses nothing in any of the four pipes. -/
def Event.Keeps (event : Event) : Prop :=
  corePipe.Keeps event ∧ bridgePipe.Keeps event ∧ loraPipe.Keeps event ∧ uplinkPipe.Keeps event

/-- When nothing is lost, the answers that accepted commands are owed are those of the results
taken, of the results on the way, and of the messages that still wait for an application. -/
theorem answers_conserved (boot : Boot) (events : List Event)
    (keeps : ∀ event ∈ events, event.Keeps) :
    ((project step accepted boot.system events).filterMap groundOwed).Perm
      ((project step takenResults boot.system events).map answerOf ++
        ((run step boot.system events).results.map answerOf ++
          ((run step boot.system events).toCore.filterMap coreOwed ++
            ((run step boot.system events).toBridge.filterMap BridgeOrder.owed ++
              (run step boot.system events).toLora.filterMap loraOwed)))) := by
  have conserved : ∀ {Message : Type} (pipe : Pipe Message), pipe.Lawful →
      pipe.waiting boot.system = [] → (∀ event ∈ events, pipe.Keeps event) →
        project step pipe.sent boot.system events =
          project step pipe.taken boot.system events ++
            pipe.waiting (run step boot.system events) := by
    intro Message pipe lawful clear kept
    rw [lawful.eq kept, clear, List.nil_append]
  have results : project step reported boot.system events =
      project step takenResults boot.system events ++ (run step boot.system events).results :=
    conserved uplinkPipe uplinkPipe_lawful rfl fun event mem => (keeps event mem).2.2.2
  have core : project step corePipe.sent boot.system events =
      project step takenCore boot.system events ++ (run step boot.system events).toCore :=
    conserved corePipe corePipe_lawful rfl fun event mem => (keeps event mem).1
  have bridge : project step bridgePipe.sent boot.system events =
      project step takenBridge boot.system events ++ (run step boot.system events).toBridge :=
    conserved bridgePipe bridgePipe_lawful rfl fun event mem => (keeps event mem).2.1
  have lora : project step loraPipe.sent boot.system events =
      project step takenLora boot.system events ++ (run step boot.system events).toLora :=
    conserved loraPipe loraPipe_lawful rfl fun event mem => (keeps event mem).2.2.1
  have sent := run_sent boot.system events
  have reports := run_reported boot.system events
  rw [core, bridge, lora, List.filterMap_append, List.filterMap_append, List.filterMap_append]
    at sent
  rw [results, List.map_append] at reports
  -- How often each answer is owed adds up.
  rw [List.perm_iff_count] at sent reports ⊢
  intro answer
  have owed := sent answer
  have answered := reports answer
  simp only [List.count_append] at owed answered ⊢
  omega

/-- The ground commands a flight mode, the bridge takes it, and its result comes back. -/
def answeredFlight : List Event :=
  modeFlight ++ [.takeResult (Uplink.workingEnv 1600) .lossless]

/-- The flight mode is answered by the bridge, and nothing else is. -/
theorem answers_conserved_waypoint :
    ([⟨2, 1, 8⟩] : List Answer).Perm
      ((project step takenResults firstBoot.system answeredFlight).map answerOf) := by
  have keeps : ∀ event ∈ answeredFlight, event.Keeps := by
    simp [answeredFlight, modeFlight, Event.Keeps, Pipe.Keeps, corePipe, bridgePipe, loraPipe,
      uplinkPipe, Event.bus, Bus.lossless]
  have commands : (project step accepted firstBoot.system answeredFlight).filterMap groundOwed =
      [⟨2, 1, 8⟩] := by decide +kernel
  have results : (run step firstBoot.system answeredFlight).results = [] := by
    rw [← List.isEmpty_iff]
    decide +kernel
  have core : (run step firstBoot.system answeredFlight).toCore = [] := by
    rw [← List.isEmpty_iff]
    decide +kernel
  have bridge : (run step firstBoot.system answeredFlight).toBridge = [] := by
    rw [← List.isEmpty_iff]
    decide +kernel
  have lora : (run step firstBoot.system answeredFlight).toLora = [] := by
    rw [← List.isEmpty_iff]
    decide +kernel
  have all := answers_conserved firstBoot answeredFlight keeps
  rw [commands, results, core, bridge, lora] at all
  simpa using all

end CfsTelemetry.Flight
