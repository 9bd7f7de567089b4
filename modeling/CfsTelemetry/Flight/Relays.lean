import CfsTelemetry.Core.Acts
import CfsTelemetry.Flight.Commands

/-!
# What the core application passes on

Two kinds of ground commands go through the core application to their receivers. Recovery commands
restart applications, or become commands for the bridge; diagnostic commands become snapshots of
the route that the core application mirrors, for the LoRa application. What is carried out at the
end of either way goes back, in order and each at most once, to what the uplink application has
admitted. What else the core application restarts, an evaluation has found timed out.
-/
namespace CfsTelemetry.Flight

open Run

/-- What a ground command asks to be done to other applications. -/
def groundActs (cmd : ProcessUplinkCmd) : List Core.Act :=
  if Uplink.CommandClass.ofByte cmd.commandClass = some .recovery ∧ ¬ cmd.payloadLength < 8 then
    Core.actOfByte (cmd.byte 0)
  else []

/-- What a message for the core application asks to be done. -/
def messageActs : Core.PipeMessage → List Core.Act
  | .recovery msg => Core.actOfByte msg.recoveryAction
  | _ => []

/-- What the core application does to other applications in an event. -/
def coreActs (s : System) (event : Event) : List Core.Act :=
  (coreRound s event).toList.flatMap (Core.roundActs s.core)

/-- What it does on command. -/
def commandedActs (s : System) (event : Event) : List Core.Act :=
  (coreRound s event).toList.flatMap Core.commanded

/-- What it restarts without being told to. -/
def supervisedRestarts (s : System) (event : Event) : List Core.App :=
  (coreRound s event).toList.flatMap (Core.supervised s.core)

/-- The message of a command asks for what the command does. -/
theorem acts_agree : Agrees (through forCore messageActs) groundActs := by
  intro env cmd s message asked
  obtain ⟨commandClass, named, sends⟩ := Uplink.request_sends asked
  unfold groundActs
  rw [named]
  cases sends with
  | recovery whole =>
    rw [if_pos (And.intro rfl whole)]
    exact List.append_nil _
  | counterMgmt scope => cases scope <;> rfl
  | _ => rfl

/-- What is done on command in an event is asked for by the message taken. -/
theorem commandedActs_sublist (s : System) (event : Event) :
    (commandedActs s event).Sublist ((takenCore s event).flatMap messageActs) := by
  have asked : ∀ (env : Core.Env) (message : Core.PipeMessage),
      (Core.commanded (env, some message)).Sublist (messageActs message) := by
    intro env message
    cases message with
    | recovery msg => exact List.filter_sublist
    | _ => exact List.nil_sublist _
  cases event with
  | core env message other bus =>
    have nothing : Core.commanded (env, message) = [] := by
      cases message with
      | none => rfl
      | some message =>
        cases message with
        | recovery msg => cases other
        | _ => rfl
    have unasked : commandedActs s (.core env message other bus) = [] :=
      (List.append_nil _).trans nothing
    rw [unasked]
    exact List.nil_sublist _
  | takeCore env bus =>
    cases pipe : s.toCore with
    | nil =>
      have idle : commandedActs s (.takeCore env bus) = [] := by
        simp [commandedActs, coreRound, pipe]
      rw [idle]
      exact List.nil_sublist _
    | cons message rest =>
      have round : commandedActs s (.takeCore env bus) = Core.commanded (env, some message) := by
        simp [commandedActs, coreRound, pipe]
      have taken : (takenCore s (.takeCore env bus)).flatMap messageActs =
          messageActs message := by
        simp [takenCore, pipe]
      rw [round, taken]
      exact asked env message
  | _ => exact List.nil_sublist _

/-- What an event does to other applications is what it is told to, and what it restarts. -/
theorem coreActs_eq (s : System) (event : Event) :
    coreActs s event =
      commandedActs s event ++ (supervisedRestarts s event).map .restart := by
  unfold coreActs commandedActs supervisedRestarts
  cases coreRound s event with
  | none => rfl
  | some met => simpa using Core.roundActs_eq s.core met

/-- A restart without a command is due: it is the only one of its event, and the evaluation has
found the application timed out, by name, when its time had come. -/
def RestartsDue (boot : Boot) (before : List Event) (event : Event) : Prop :=
  let s := run step boot.system before
  coreActs s event = commandedActs s event ++ (supervisedRestarts s event).map .restart ∧
    (supervisedRestarts s event).length ≤ 1 ∧
    ∀ app ∈ supervisedRestarts s event, ∃ met state, coreRound s event = some met ∧
      Core.evaluated s.core met = some state ∧
      (Core.findings met.1.nowMs state).out app = true ∧ met.1.found app = true ∧
      (state.timer app).due true met.1.nowMs = true

/-- What is done on command over a run is a part of what admitted commands ask for. -/
theorem commandedActs_part (boot : Boot) (events : List Event) :
    (project step commandedActs boot.system events).Sublist
      ((project step admitted boot.system events).flatMap groundActs) := by
  refine List.Sublist.trans ?_ (taken_core acts_agree boot events)
  rw [Channel.flatMap_project]
  exact Channel.project_sublist commandedActs_sublist boot.system events

/-- Over every run, what the core application does to other applications on command is, in order
and each at most once, what admitted recovery commands ask for; and whatever else it restarts an
evaluation has found timed out. -/
theorem acts_from_ground (boot : Boot) (events : List Event) :
    (project step commandedActs boot.system events).Sublist
        ((project step admitted boot.system events).flatMap groundActs) ∧
      Each (RestartsDue boot) events := by
  refine ⟨commandedActs_part boot events, ?_⟩
  intro before event after _
  unfold RestartsDue
  dsimp only
  generalize run step boot.system before = s
  refine ⟨coreActs_eq s event, ?_⟩
  unfold supervisedRestarts
  cases round : coreRound s event with
  | none => exact ⟨Nat.zero_le 1, fun app none => by cases none⟩
  | some met =>
    rw [Option.toList_some, List.flatMap_singleton]
    unfold Core.supervised
    cases evaluates : Core.evaluated s.core met with
    | none => exact ⟨Nat.zero_le 1, fun app none => by cases none⟩
    | some state =>
      rw [Option.toList_some, List.flatMap_singleton]
      exact ⟨Core.restartsDue_length met.1 state, fun app due =>
        ⟨met, state, rfl, evaluates, Core.mem_restartsDue due⟩⟩

/-! ## Commands for the bridge -/

/-- The command for the bridge that an act is. -/
def actControl : Core.Act → Option Core.BridgeCtrl
  | .control cmd => some cmd
  | .restart _ => none

/-- The command of the core application that an input of the bridge carries out. -/
def inputControl : Bridge.Input → Option Core.BridgeCtrl
  | .command .parserReset => some .parserReset
  | .serialReconnect .. => some .serialReconnect
  | _ => none

/-- The command of the core application that a message for the bridge is. -/
def orderControl : BridgeOrder → Option Core.BridgeCtrl
  | .control cmd => some cmd
  | _ => none

/-- The commands of the core application that the bridge carries out in an event. -/
def carriedOut (s : System) (event : Event) : List Core.BridgeCtrl :=
  (bridgeInput s event).toList.filterMap inputControl

/-- What the bridge carries out in an event is what it has taken. -/
theorem carriedOut_eq (s : System) (event : Event) :
    carriedOut s event = (takenBridge s event).filterMap orderControl := by
  have read : ∀ (order : BridgeOrder) met,
      [order.input met].filterMap inputControl = [order].filterMap orderControl := by
    intro order met
    cases order with
    | control cmd => cases cmd <;> rfl
    | _ => rfl
  cases event with
  | bridge input other bus =>
    have nothing : [input].filterMap inputControl = [] := by
      cases input with
      | command command =>
        cases command with
        | parserReset => cases other
        | noop | resetCounters => rfl
      | serialReconnect => cases other
      | _ => rfl
    exact nothing
  | takeBridge met bus =>
    cases pipe : s.toBridge with
    | nil => simp [carriedOut, bridgeInput, takenBridge, pipe]
    | cons order rest =>
      have carried : carriedOut s (.takeBridge met bus) =
          [order.input met].filterMap inputControl := by
        simp [carriedOut, bridgeInput, pipe]
      have taken : takenBridge s (.takeBridge met bus) = [order] := by simp [takenBridge, pipe]
      rw [carried, taken, read]
  | _ => rfl

/-- The commands for the bridge that the core application sends in an event are among what it
does. -/
theorem controls_eq (s : System) (event : Event) :
    controls s event = (commandedActs s event).filterMap actControl := by
  have chosen : ∀ s : Core.State, coreControls s = (Core.acts s).filterMap actControl := by
    intro s
    unfold coreControls Core.acts
    rw [List.filterMap_filterMap]
    congr 1
    funext output
    cases output with
    | restartApp app => rfl
    | message content => cases content <;> rfl
  have restarts : ∀ apps : List Core.App,
      (apps.map Core.Act.restart).filterMap actControl = [] := by
    intro apps
    induction apps with
    | nil => rfl
    | cons app rest later => exact later
  unfold controls commandedActs
  cases coreRound s event with
  | none => rfl
  | some met =>
    dsimp only
    rw [chosen, chosen, Core.round_acts, List.filterMap_append, Channel.added_append,
      List.filterMap_reverse, List.reverse_reverse, List.filterMap_append, restarts,
      List.append_nil, Option.toList_some, List.flatMap_singleton]

/-- Over every run, the commands of the core application that the bridge carries out are, in order
and each at most once, those that admitted recovery commands ask for. -/
theorem controls_from_ground (boot : Boot) (events : List Event) :
    (project step carriedOut boot.system events).Sublist
      (((project step admitted boot.system events).flatMap groundActs).filterMap actControl) := by
  have part := bridgePipe_lawful.sublist boot.system events
  have carried : project step carriedOut boot.system events =
      (project step takenBridge boot.system events).filterMap orderControl := by
    rw [Channel.filterMap_project]
    exact Channel.project_eq (each_of_forall fun event _ before => carriedOut_eq _ event)
  have sent : (project step bridgePipe.sent boot.system events).filterMap orderControl =
      (project step commandedActs boot.system events).filterMap actControl := by
    rw [Channel.filterMap_project, Channel.filterMap_project]
    refine Channel.project_eq (each_of_forall fun event _ before => ?_)
    generalize run step boot.system before = s
    change ((orders s event).filterMap forBridge ++
      (controls s event).map BridgeOrder.control).filterMap orderControl = _
    rw [List.filterMap_append, List.filterMap_map, ← controls_eq]
    have orders : ((orders s event).filterMap forBridge).filterMap orderControl = [] := by
      rw [List.filterMap_filterMap, List.filterMap_eq_nil_iff]
      intro message _
      cases message with
      | resetCounters scope => cases scope <;> rfl
      | _ => rfl
    rw [orders, List.nil_append]
    exact List.filterMap_some
  rw [carried]
  calc
    ((project step takenBridge boot.system events).filterMap orderControl).Sublist
        ((project step takenBridge boot.system events ++
          (run step boot.system events).toBridge).filterMap orderControl) :=
      (List.sublist_append_left _ _).filterMap _
    List.Sublist _ ((project step bridgePipe.sent boot.system events).filterMap orderControl) :=
      part.filterMap _
    List.Sublist _ ((project step commandedActs boot.system events).filterMap actControl) := by
      rw [sent]
    List.Sublist _ (((project step admitted boot.system events).flatMap groundActs).filterMap
        actControl) := (commandedActs_part boot events).filterMap _

/-! ## Route snapshots -/

/-- The sequence of a ground command that asks for the route of the core application. -/
def groundReadbacks (cmd : ProcessUplinkCmd) : List UInt16 :=
  if Uplink.CommandClass.ofByte cmd.commandClass = some .diagnostic ∧ ¬ cmd.payloadLength < 6 ∧
      cmd.byte 1 = Core.diagTarget ∧ cmd.byte 0 = Core.routeReadbackRequest then
    [cmd.sequence]
  else []

/-- The sequence of a message for the core application that asks for the route. -/
def messageReadbacks : Core.PipeMessage → List UInt16
  | .diagnostic msg =>
    if msg.diagTarget = Core.diagTarget ∧ msg.diagAction = Core.routeReadbackRequest then
      [msg.sourceSequence]
    else []
  | _ => []

/-- The snapshots that a round publishes: one for each request, of the route as it is. -/
def roundSnapshots (a : Core.Application) : Core.Env × Option Core.PipeMessage → List RouteUpdate
  | (_, some message) =>
    (messageReadbacks message).map fun sequence => Core.routeSnapshot sequence a.data.missionRoute
  | (_, none) => []

/-- A round publishes a snapshot for each request. -/
theorem round_snapshots (a : Core.Application) (met : Core.Env × Option Core.PipeMessage) :
    Channel.added a.snapshots (Core.round a met).snapshots = roundSnapshots a met := by
  obtain ⟨env, message⟩ := met
  cases message with
  | none => exact Channel.added_self _
  | some message =>
    cases message with
    | diagnostic msg =>
      change Channel.added a.snapshots (Core.processDiagnosticCommand msg a).snapshots = _
      unfold Core.processDiagnosticCommand roundSnapshots messageReadbacks
      dsimp only
      by_cases foreign : msg.diagTarget ≠ Core.diagTarget
      · rw [if_pos foreign, if_neg (not_and_of_not_left _ foreign)]
        exact Channel.added_self _
      · rw [if_neg foreign]
        by_cases unknown : msg.diagAction ≠ Core.routeReadbackRequest
        · rw [if_pos unknown, if_neg (not_and_of_not_right _ unknown)]
          exact Channel.added_self _
        · rw [if_neg unknown, if_pos (And.intro (not_not.mp foreign) (not_not.mp unknown))]
          exact Channel.added_cons _ _
    | mode msg =>
      change Channel.added a.snapshots (Core.processModeCommand msg a).snapshots = _
      unfold Core.processModeCommand
      dsimp only
      split <;> exact Channel.added_self _
    | command fcnCode size =>
      have sized : ∀ handler : Core.Application → Core.Application,
          (handler a).snapshots = a.snapshots →
            (Core.withCmdLength size handler a).snapshots = a.snapshots := by
        intro handler quiet
        unfold Core.withCmdLength
        split
        · rfl
        · exact quiet
      have quiet : (Core.taskPipe env (.command fcnCode size) a).snapshots = a.snapshots := by
        unfold Core.taskPipe
        dsimp only
        split
        · exact sized Core.noop rfl
        · split
          · exact sized Core.resetCounters rfl
          · rfl
      change Channel.added a.snapshots (Core.taskPipe env (.command fcnCode size) a).snapshots = _
      rw [quiet]
      exact Channel.added_self _
    | _ => exact Channel.added_self _

/-- The message of a command asks for the route when the command does. -/
theorem readbacks_agree : Agrees (through forCore messageReadbacks) groundReadbacks := by
  intro env cmd s message asked
  obtain ⟨commandClass, named, sends⟩ := Uplink.request_sends asked
  unfold groundReadbacks
  rw [named]
  cases sends with
  | diagnostic whole =>
    change messageReadbacks _ ++ [] = _
    rw [List.append_nil]
    simp only [messageReadbacks, whole, not_false_eq_true, true_and]
    rfl
  | counterMgmt scope => cases scope <;> rfl
  | _ => rfl

/-- What an event publishes are snapshots of the route as it is, one for each request taken. -/
theorem snapshots_eq (s : System) (event : Event) :
    snapshots s event = ((takenCore s event).flatMap messageReadbacks).map fun sequence =>
      Core.routeSnapshot sequence s.core.data.missionRoute := by
  have sent : snapshots s event = (coreRound s event).toList.flatMap (roundSnapshots s.core) := by
    unfold snapshots
    cases coreRound s event with
    | none => rfl
    | some met =>
      dsimp only
      rw [round_snapshots, Option.toList_some, List.flatMap_singleton]
  rw [sent]
  cases event with
  | core env message other bus =>
    have unasked : roundSnapshots s.core (env, message) = [] := by
      cases message with
      | none => rfl
      | some message =>
        cases message with
        | diagnostic => cases other
        | _ => rfl
    exact (List.append_nil _).trans unasked
  | takeCore env bus =>
    cases pipe : s.toCore with
    | nil => simp [coreRound, takenCore, pipe]
    | cons message rest => simp [coreRound, takenCore, pipe, roundSnapshots]
  | _ => rfl

/-- The route that a snapshot shows, as the LoRa application takes it. -/
def shownRoute : Lora.Packet → Option (UInt8 × UInt8 × WaypointArray)
  | .telemetry (.routeSnapshot routeType waypointCount waypoints) =>
    some (routeType, waypointCount, waypoints)
  | _ => none

/-- The routes that the LoRa application is given to show in an event. -/
def shownRoutes (s : System) (event : Event) : List (UInt8 × UInt8 × WaypointArray) :=
  (loraPacket s event).toList.filterMap fun met => shownRoute met.2

/-- The route that the core application mirrors. -/
def mirroredRoute (s : System) : UInt8 × UInt8 × WaypointArray :=
  (0, s.core.data.missionRoute.waypointCount, s.core.data.missionRoute.waypoints)

/-- The requests for the route that the core application takes in an event, with the route that
it mirrors then. -/
def answeredReadbacks (s : System) (event : Event) :
    List (UInt16 × UInt8 × UInt8 × WaypointArray) :=
  ((takenCore s event).flatMap messageReadbacks).map fun sequence => (sequence, mirroredRoute s)

/-- What is shown in an event is what has been taken. -/
theorem shownRoutes_eq (s : System) (event : Event) :
    shownRoutes s event = (takenLora s event).filterMap shownRoute := by
  cases event with
  | lora env packet other bus =>
    have nothing : [packet].filterMap shownRoute = [] := by
      cases packet with
      | telemetry message =>
        cases message with
        | routeSnapshot => cases other
        | _ => rfl
      | _ => rfl
    exact nothing
  | takeLora env bus =>
    cases pipe : s.toLora with
    | nil => simp [shownRoutes, loraPacket, takenLora, pipe]
    | cons packet rest => simp [shownRoutes, loraPacket, takenLora, pipe, List.filterMap_cons]
  | _ => rfl

/-- The routes that are sent to the LoRa application in an event are those of the requests. -/
theorem sent_routes (s : System) (event : Event) :
    (loraPipe.sent s event).filterMap shownRoute = (answeredReadbacks s event).map Prod.snd := by
  change ((orders s event).filterMap forLora ++
    (snapshots s event).map snapshotPacket).filterMap shownRoute = _
  have orders : ((orders s event).filterMap forLora).filterMap shownRoute = [] := by
    rw [List.filterMap_filterMap, List.filterMap_eq_nil_iff]
    intro message _
    cases message with
    | resetCounters scope => cases scope <;> rfl
    | _ => rfl
  rw [List.filterMap_append, orders, List.nil_append, snapshots_eq, answeredReadbacks,
    List.map_map, List.map_map, List.filterMap_map]
  exact congrFun List.filterMap_eq_map' _

/-- Over every run, the routes that the LoRa application is given to show are, in order and each
at most once, those that the core application mirrored when it took requests for the route; and
these requests are, in order and each at most once, admitted diagnostic commands. -/
theorem snapshots_from_ground (boot : Boot) (events : List Event) :
    let answered := project step answeredReadbacks boot.system events
    (project step shownRoutes boot.system events).Sublist (answered.map Prod.snd) ∧
      (answered.map Prod.fst).Sublist
        ((project step admitted boot.system events).flatMap groundReadbacks) := by
  intro answered
  constructor
  · have part := (loraPipe_lawful.sublist boot.system events).filterMap shownRoute
    have shown : project step shownRoutes boot.system events =
        (project step takenLora boot.system events).filterMap shownRoute := by
      rw [Channel.filterMap_project]
      exact Channel.project_eq (each_of_forall fun event _ before => shownRoutes_eq _ event)
    have sent : (project step loraPipe.sent boot.system events).filterMap shownRoute =
        answered.map Prod.snd := by
      rw [Channel.filterMap_project, Channel.map_project]
      exact Channel.project_eq (each_of_forall fun event _ before => sent_routes _ event)
    rw [shown]
    calc
      ((project step takenLora boot.system events).filterMap shownRoute).Sublist
          ((project step takenLora boot.system events ++
            (run step boot.system events).toLora).filterMap shownRoute) :=
        (List.sublist_append_left _ _).filterMap _
      List.Sublist _ ((project step loraPipe.sent boot.system events).filterMap shownRoute) := part
      List.Sublist _ (answered.map Prod.snd) := by
        rw [sent]
  · have asked : answered.map Prod.fst =
        (project step takenCore boot.system events).flatMap messageReadbacks := by
      rw [Channel.map_project, Channel.flatMap_project]
      refine Channel.project_eq (each_of_forall fun event _ before => ?_)
      rw [answeredReadbacks, List.map_map]
      exact List.map_id' _
    rw [asked]
    exact taken_core readbacks_agree boot events

end CfsTelemetry.Flight
