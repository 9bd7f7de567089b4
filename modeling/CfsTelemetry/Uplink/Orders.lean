import CfsTelemetry.Uplink.Commit

/-!
# What the uplink application orders

A round of the application delivers at most one message for another application: the one of an
admitted command whose message the bus takes. What else it puts out are its own reports.
-/
namespace CfsTelemetry.Uplink

/-- The message for another application that an output delivers. -/
def Output.order : Output → Option Message
  | .transmit message taken => if taken && !message.isReport then some message else none
  | .countersReset => none

/-- The messages for other applications that have been delivered from one state to another, in
the order of sending. -/
def ordersBetween (before after : State) : List Message :=
  (newOutputs before after).reverse.filterMap Output.order

/-- The ground command that a round handles. -/
def handled (round : Env × Input) : Option ProcessUplinkCmd :=
  match round.2 with
  | .received (.command fcnCode length cmd) =>
    if fcnCode = 2 ∧ length = 204 then some cmd else none
  | _ => none

/-- The message that an ending delivers. -/
def Ending.delivered : Ending → Option Message
  | accepted message => some message
  | _ => none

/-- The message that a round orders. -/
def ordered (s : State) (round : Env × Input) : Option Message :=
  (handled round).bind fun cmd => (ending round.1 cmd s).delivered

/-- The message that a command of a class is made into. -/
inductive Sends (cmd : ProcessUplinkCmd) (s : State) : CommandClass → Message → Prop where
  | routeUpdate {payload : RouteUpdatePayload}
    (parsed : parseRouteUpdatePayload cmd = some payload) :
    Sends cmd s .routeUpdate (.routeUpdate (routeUpdateTlm cmd payload s))
  | recovery (whole : ¬ cmd.payloadLength < 8) :
    Sends cmd s .recovery (.recovery (recoveryTlm cmd s))
  | viewpoint {payload : ViewpointPayload} (parsed : parseViewpointPayload cmd = some payload) :
    Sends cmd s .viewpoint (.viewpoint (viewpointTlm cmd payload s))
  | config (valid : configValid cmd = true) : Sends cmd s .config (.config (configTlm cmd s))
  | mode (whole : ¬ cmd.payloadLength < 6) : Sends cmd s .mode (.mode (modeTlm cmd s))
  | diagnostic (whole : ¬ cmd.payloadLength < 6) :
    Sends cmd s .diagnostic (.diagnostic (diagnosticTlm cmd s))
  | counterMgmt (scope : CounterScope) : Sends cmd s .counterMgmt (.resetCounters scope)
  | flightMode {payload : FlightModePayload} (parsed : parseFlightModePayload cmd = some payload) :
    Sends cmd s .flightMode (.flightMode (flightModeCmd cmd payload))

/-- A command that asks for a message is made into the one of its class. -/
theorem request_sends {env : Env} {cmd : ProcessUplinkCmd} {s : State} {message : Message}
    (asked : request env cmd s = .send message) :
    ∃ commandClass, CommandClass.ofByte cmd.commandClass = some commandClass ∧
      Sends cmd s commandClass message := by
  cases named : CommandClass.ofByte cmd.commandClass with
  | none =>
    rw [request, named] at asked
    cases asked
  | some commandClass =>
    refine ⟨commandClass, rfl, ?_⟩
    rw [request, named] at asked
    cases commandClass with
    | none => cases asked
    | routeUpdate =>
      dsimp only at asked
      split at asked
      · cases asked
      · cases asked
        exact .routeUpdate ‹_›
    | viewpoint =>
      dsimp only at asked
      split at asked
      · cases asked
      · cases asked
        exact .viewpoint ‹_›
    | counterMgmt =>
      dsimp only [counterRequest] at asked
      repeat' split at asked
      all_goals first
        | cases asked; exact .counterMgmt _
        | cases asked
    | flightMode =>
      dsimp only at asked
      split at asked
      · cases asked
      · split at asked
        · cases asked
          exact .flightMode ‹_›
        · cases asked
    | recovery =>
      dsimp only at asked
      split at asked
      · cases asked
      · cases asked
        exact .recovery ‹_›
    | mode =>
      dsimp only at asked
      split at asked
      · cases asked
      · cases asked
        exact .mode ‹_›
    | diagnostic =>
      dsimp only at asked
      split at asked
      · cases asked
      · cases asked
        exact .diagnostic ‹_›
    | config =>
      dsimp only at asked
      split at asked
      · cases asked
        exact .config ‹_›
      · cases asked

/-! ## What a round delivers -/

section

variable {s after : State}

/-- What puts out nothing orders nothing. -/
theorem ordersBetween_quiet (same : after.outputs = s.outputs) : ordersBetween s after = [] := by
  rw [ordersBetween, newOutputs_eq (show after.outputs = [] ++ s.outputs from same)]
  rfl

/-- A report orders nothing. -/
theorem ordersBetween_report {message : Message} {taken : Bool} (report : message.isReport = true)
    (outputs : after.outputs = .transmit message taken :: s.outputs) :
    ordersBetween s after = [] := by
  rw [ordersBetween, newOutputs_eq (show after.outputs = [_] ++ s.outputs from outputs)]
  simp [Output.order, report]

/-- A save puts out nothing. -/
theorem saveState_outputs (env : Env) (s : State) : (saveState env s).outputs = s.outputs :=
  (saveState_leaves env s).1

/-- The mark of survival puts out nothing. -/
theorem checkBootSurvival_outputs (env : Env) (s : State) :
    (checkBootSurvival env s).outputs = s.outputs := by
  unfold checkBootSurvival
  split
  · rfl
  · split
    · exact saveState_outputs env _
    · rfl

/-- A report delivers no order. -/
theorem order_report {message : Message} (report : message.isReport = true) (taken : Bool) :
    (Output.transmit message taken).order = none := by
  simp [Output.order, report]

/-- The effects of an ending deliver its message, if any. -/
theorem effects_order {way : Ending}
    (commands : ∀ message, way = .accepted message → message.isReport = false) :
    way.effects.reverse.filterMap Output.order = way.delivered.toList := by
  cases way with
  | accepted message =>
    have command := commands message rfl
    simp [Ending.effects, Ending.delivered, Output.order, command]
  | undelivered message => simp [Ending.effects, Ending.delivered, Output.order]
  | reset => rfl
  | duplicate => rfl
  | refused => rfl

/-- A command orders the message that it ends with. -/
theorem processUplink_orders (env : Env) (cmd : ProcessUplinkCmd) (s : State) :
    ordersBetween s (processUplink env cmd s) = (ending env cmd s).delivered.toList := by
  obtain ⟨tlm, outputs, -⟩ := (processUplink_endsAs env cmd s).published.status
  have commands : ∀ message, ending env cmd s = .accepted message → message.isReport = false :=
    fun message way => request_isReport (ending_eq_accepted.mp way).2.1
  rw [ordersBetween, newOutputs_eq (by rw [outputs, List.cons_append]), List.reverse_cons,
    List.filterMap_append, effects_order commands]
  simp [order_report (show (Message.status tlm).isReport = true from rfl)]

/-- A round delivers what it orders, and nothing else. -/
theorem step_orders (s : State) (round : Env × Input) :
    ordersBetween s (step s round) = (ordered s round).toList := by
  obtain ⟨env, input⟩ := round
  cases input with
  | timeout =>
    have served : ordersBetween s (servicePrototype env s) = [] := by
      have marked := checkBootSurvival_outputs env s
      unfold servicePrototype
      dsimp only
      split
      · exact ordersBetween_quiet marked
      · exact ordersBetween_report rfl (congrArg _ marked)
    exact served
  | received message =>
    cases message with
    | command fcnCode length cmd =>
      have sized : ∀ expected (handler : State → State),
          ordersBetween s (handler s) = [] →
            ordersBetween s (withCmdLength env length expected handler s) = [] := by
        intro expected handler quiet
        unfold withCmdLength
        split
        · exact ordersBetween_quiet rfl
        · exact quiet
      change ordersBetween s (taskPipe env (.command fcnCode length cmd) s) = _
      unfold ordered handled
      by_cases uplink : fcnCode = 2
      · rw [uplink]
        by_cases whole : length = 204
        · rw [whole]
          exact processUplink_orders env cmd s
        · have short : withCmdLength env length 204 (processUplink env cmd) s =
              withCmdLength env length 204 id s := by
            rw [withCmdLength, if_pos whole, withCmdLength, if_pos whole]
          dsimp only
          rw [if_neg fun both => whole both.2]
          exact (congrArg _ short).trans (sized 204 id (ordersBetween_quiet rfl))
      · dsimp only
        rw [if_neg fun both => uplink both.1]
        unfold taskPipe
        dsimp only
        split
        · exact sized 0 noop (ordersBetween_quiet rfl)
        · split
          · exact sized 0 resetCounters (ordersBetween_quiet rfl)
          · exact ordersBetween_quiet rfl
    | execResult msg =>
      change ordersBetween s (processExecResult env msg s) = []
      unfold processExecResult
      split
      · exact ordersBetween_quiet rfl
      · exact ordersBetween_report rfl rfl
    | sendHk => exact ordersBetween_report rfl rfl
    | unreadableId | systemHealth | bridgeHk | unknownId | unreadableFcnCode =>
      exact ordersBetween_quiet rfl

end

end CfsTelemetry.Uplink
