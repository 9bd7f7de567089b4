import CfsTelemetry.Bridge.Purposes
import CfsTelemetry.Core.Application
import CfsTelemetry.Core.Soundness
import CfsTelemetry.Library.Channel
import CfsTelemetry.Mission.Scopes

/-!
# Answers to commands

An application that carries out a command answers it with a result, which names the application
and the sequence and class of the command. Each of the three applications answers a message that
it owes an answer to with one result, and any other message, and whatever else happens to it, with
none.
-/
namespace CfsTelemetry.Flight

/-- What the answer to a command names: the application that carried it out, and the sequence
and the class of the command. -/
structure Answer where
  sourceApp : UInt8
  sourceSequence : UInt16
  commandClass : UInt8
  deriving DecidableEq, Repr

/-- What a result names. -/
def answerOf (result : ExecResult) : Answer :=
  ⟨result.sourceApp, result.sourceSequence, result.commandClass⟩

/-- The reported results, newest first, grow by the one that is owed, if any. -/
inductive Answers (before : List ExecResult) : Option Answer → List ExecResult → Prop where
  | nothing : Answers before none before
  | result (result : ExecResult) : Answers before (some (answerOf result)) (result :: before)

/-- What is reported is what is owed. -/
theorem Answers.added {before after : List ExecResult} {owed : Option Answer}
    (answers : Answers before owed after) :
    (Channel.added before after).map answerOf = owed.toList := by
  cases answers with
  | nothing => simp
  | result result => simp

/-- What the core application owes a configuration command. -/
def coreConfigOwed (cmd : ConfigCmd) : Option Answer :=
  if cmd.payloadLength < 8 ∨ cmd.byte 0 = Core.configScope then some ⟨1, cmd.sourceSequence, 1⟩
  else none

/-- What the core application owes a message of its pipe. -/
def coreOwed : Core.PipeMessage → Option Answer
  | .config cmd => coreConfigOwed cmd
  | .viewpoint msg => some ⟨1, msg.sourceSequence, 3⟩
  | .recovery msg => some ⟨1, msg.sourceSequence, 4⟩
  | .mode msg => some ⟨1, msg.sourceSequence, 5⟩
  | _ => none

/-- The result that an output of the core application is. -/
def coreResult : Core.Output → Option ExecResult
  | .message (.execResult result) => some result
  | _ => none

/-- The results among what the core application has put out, newest first. -/
def coreResults (s : Core.State) : List ExecResult := s.outputs.filterMap coreResult

section

variable {s s' : Core.State}

/-- A step that puts out nothing reports nothing. -/
theorem coreResults_same (same : s'.outputs = s.outputs) : coreResults s' = coreResults s := by
  rw [coreResults, same, coreResults]

/-- A result is reported in front of the others. -/
theorem coreResults_transmit (result : ExecResult) (same : s'.outputs = s.outputs) :
    coreResults (Core.transmitMsg (.execResult result) s') = result :: coreResults s := by
  rw [coreResults, coreResults, ← same]
  rfl

/-- Restarts are no results. -/
theorem coreResults_restarts (apps : List Core.App) :
    coreResults { s with outputs := apps.map .restartApp ++ s.outputs } = coreResults s := by
  induction apps with
  | nil => rfl
  | cons app rest previous => exact previous

/-- An evaluation reports no result. -/
theorem evaluate_results (env : Core.Env) (s : Core.State) :
    coreResults (Core.evaluate env s) = coreResults s := by
  obtain ⟨_, _, _, apps, tlm, _, _, _, evaluated, -, -⟩ := Core.evaluate_eq env s
  rw [evaluated]
  exact coreResults_restarts apps

/-- Updating the health reports no result. -/
theorem updateHealth_results (forcePublish : Bool) (env : Core.Env) (s : Core.State) :
    coreResults (Core.updateHealth forcePublish env s) = coreResults s := by
  unfold Core.updateHealth
  split
  · rfl
  · exact evaluate_results env s

/-- Carrying out a recovery command reports no result. -/
theorem recover_results (msg : Uplink.RecoveryCmdTlm) (env : Core.Env) (s : Core.State) :
    coreResults (Core.recover msg env s).2 = coreResults s := by
  have restarts : ∀ app (s' : Core.State), s'.outputs = s.outputs →
      coreResults (Core.commandRestart app env s').2 = coreResults s := by
    intro app s' same
    have own := coreResults_same same
    unfold Core.commandRestart
    split
    · exact own
    · exact own
  have orders : ∀ cmd (s' : Core.State), s'.outputs = s.outputs →
      coreResults (Core.sendBridgeCtrlCmd cmd env s').2 = coreResults s := by
    intro cmd s' same
    have own := coreResults_same same
    unfold Core.sendBridgeCtrlCmd
    split
    · exact own
    · exact own
  unfold Core.recover
  dsimp only
  cases Core.RecoveryAction.ofByte msg.recoveryAction with
  | none => rfl
  | some action =>
    cases action with
    | resetCounter =>
      exact coreResults_same (Mission.coreSave_outputs _ _ (Core.resetRestarts s))
    | restartBridge => exact restarts _ _ rfl
    | restartUplink => exact restarts _ _ rfl
    | restartLora => exact restarts _ _ rfl
    | parserReset => exact orders _ _ rfl
    | serialReconnect => exact orders _ _ rfl

/-- A configuration command is answered as the core application owes it. -/
theorem coreConfig_answers (io : Core.SaveIo) (path : String) (cmd : ConfigCmd)
    (c : Core.Configured) :
    Answers (coreResults c.app) (coreConfigOwed cmd)
      (coreResults (Core.processConfigCommand io path cmd c).app) := by
  have answered : ∀ (ok : Bool) (after : Core.Configured), after.app.outputs = c.app.outputs →
      coreConfigOwed cmd = some ⟨1, cmd.sourceSequence, 1⟩ →
        Answers (coreResults c.app) (coreConfigOwed cmd)
          (coreResults (Core.publishConfigResult cmd ok after).app) := by
    intro ok after same owed
    rw [owed, Core.publishConfigResult, coreResults_transmit _ same]
    exact .result ⟨cmd.sourceSequence, 1, 1, if ok then 0 else 1, after.lastConfigResult.code⟩
  unfold Core.processConfigCommand
  by_cases short : cmd.payloadLength < 8
  · rw [if_pos short]
    exact answered _ _ rfl (if_pos (.inl short))
  rw [if_neg short]
  by_cases foreign : cmd.byte 0 ≠ Core.configScope
  · rw [if_pos foreign, coreConfigOwed, if_neg fun owed => owed.elim short foreign]
    exact .nothing
  rw [if_neg foreign]
  have owed : coreConfigOwed cmd = some ⟨1, cmd.sourceSequence, 1⟩ :=
    if_pos (.inr (not_not.mp foreign))
  split
  · exact answered _ _ rfl owed
  · split
    · exact answered _ _ rfl owed
    · split
      · exact answered _ _ rfl owed
      · dsimp only
        split
        · exact answered _ _ rfl owed
        · split
          · exact answered _ _ rfl owed
          · split
            · exact answered _ _ (Mission.coreSave_outputs _ _ _) owed
            · exact answered _ _ rfl owed

/-- A message of the pipe is answered as the core application owes it. -/
theorem taskPipe_answers (env : Core.Env) (message : Core.PipeMessage) (a : Core.Application) :
    Answers (coreResults a.data) (coreOwed message)
      (coreResults (Core.taskPipe env message a).data) := by
  cases message with
  | config cmd => exact coreConfig_answers _ _ cmd a.configured
  | viewpoint msg => exact .result ⟨msg.sourceSequence, 1, 3, 1, msg.viewpointType⟩
  | recovery msg =>
    have recovered := recover_results msg env { a.data with
      recoveryRequestedCount := a.data.recoveryRequestedCount + 1
      cmdCounter := a.data.cmdCounter + 1 }
    change Answers _ _ (coreResults (Core.processRecoveryCommand msg env a.data))
    rw [← show coreResults _ = coreResults a.data from recovered]
    exact .result ⟨msg.sourceSequence, 1, 4, _, msg.recoveryAction⟩
  | mode msg =>
    change Answers _ _ (coreResults (Core.processModeCommand msg a).data)
    unfold Core.processModeCommand
    dsimp only
    cases Core.nextMode msg.modeAction msg.requestedState a.currentModeState with
    | some mode => exact .result ⟨msg.sourceSequence, 1, 5, 0, msg.requestedState⟩
    | none => exact .result ⟨msg.sourceSequence, 1, 5, 1, msg.requestedState⟩
  | state message =>
    have cached := (Core.cacheMessage_keeps message env.nowMs a.data).outputs
    have same : coreResults (Core.processStateMessage message env a.data) = coreResults a.data :=
      (updateHealth_results true env _).trans (coreResults_same cached)
    rw [show coreOwed (.state message) = none from rfl]
    change Answers _ none (coreResults (Core.processStateMessage message env a.data))
    rw [same]
    exact .nothing
  | diagnostic msg =>
    change Answers _ none (coreResults (Core.processDiagnosticCommand msg a).data)
    unfold Core.processDiagnosticCommand
    split
    · exact .nothing
    · split
      · exact .nothing
      · exact .nothing
  | command fcnCode size =>
    have sized : ∀ handler : Core.Application → Core.Application,
        coreResults (handler a).data = coreResults a.data →
          coreResults (Core.withCmdLength size handler a).data = coreResults a.data := by
      intro handler quiet
      unfold Core.withCmdLength
      split
      · rfl
      · exact quiet
    have quiet : coreResults (Core.taskPipe env (.command fcnCode size) a).data =
        coreResults a.data := by
      unfold Core.taskPipe
      dsimp only
      split
      · exact sized Core.noop rfl
      · split
        · exact sized Core.resetCounters rfl
        · rfl
    rw [quiet]
    exact .nothing
  | unreadableId | unknownId | unreadableFcnCode | sendHk => exact .nothing

/-- A round is answered as the message that it takes is owed. -/
theorem round_answers (a : Core.Application) (met : Core.Env × Option Core.PipeMessage) :
    Answers (coreResults a.data) (met.2.bind coreOwed) (coreResults (Core.round a met).data) := by
  obtain ⟨env, message⟩ := met
  cases message with
  | some message => exact taskPipe_answers env message a
  | none =>
    have served : coreResults (Core.servicePrototype env a.data) = coreResults a.data :=
      updateHealth_results false env a.data
    change Answers _ none (coreResults (Core.servicePrototype env a.data))
    rw [served]
    exact .nothing

end

/-! ## The bridge -/

/-- What the bridge owes a configuration command. -/
def bridgeConfigOwed (cmd : ConfigCmd) : Option Answer :=
  if cmd.payloadLength < 8 ∨ cmd.byte 0 = Bridge.configScope then some ⟨2, cmd.sourceSequence, 1⟩
  else none

/-- What the bridge owes an input. -/
def bridgeOwed : Bridge.Input → Option Answer
  | .config cmd _ => bridgeConfigOwed cmd
  | .setFlightMode cmd _ => some ⟨2, cmd.sourceSequence, 8⟩
  | _ => none

/-- The result that an output of the bridge is. -/
def bridgeResult : Bridge.Output → Option ExecResult
  | .message (.execResult result) => some result
  | _ => none

/-- The results among what the bridge has put out, newest first. -/
def bridgeResults (s : Bridge.State) : List ExecResult := s.outputs.filterMap bridgeResult

section

variable {s s' : Bridge.State}

/-- A step that puts out nothing reports nothing. -/
theorem bridgeResults_same (same : s'.outputs = s.outputs) :
    bridgeResults s' = bridgeResults s := by
  rw [bridgeResults, same, bridgeResults]

/-- What answers no command is no result. -/
theorem bridgeResults_puts {purposes : List Bridge.Purpose} (puts : Bridge.Puts purposes s s')
    (other : Bridge.Purpose.answer ∉ purposes) : bridgeResults s' = bridgeResults s := by
  obtain ⟨new, outputs, own⟩ := puts.outputs
  have quiet : new.filterMap bridgeResult = [] := by
    rw [List.filterMap_eq_nil_iff]
    intro output mem
    have serves := own output mem
    cases output with
    | tx frame => rfl
    | message content =>
      cases content with
      | execResult result => exact absurd serves other
      | _ => rfl
  rw [bridgeResults, outputs, List.filterMap_append, quiet]
  rfl

/-- A sent frame is no result. -/
theorem sendMavlinkV2_results (kind : Bridge.MessageKind) (payload : List UInt8)
    (fault : Option Bridge.TxFault) (s : Bridge.State) :
    bridgeResults (Bridge.sendMavlinkV2 kind payload fault s).2 = bridgeResults s := by
  obtain ⟨txSequence, events, sent, same, frame⟩ :=
    Bridge.sendMavlinkV2_eq kind payload fault s
  rw [same]
  rcases frame with rfl | rfl <;> rfl

/-- A configuration command is answered as the bridge owes it. -/
theorem bridgeConfig_answers (saved : Bridge.SaveResult) (cmd : ConfigCmd) (s : Bridge.State) :
    Answers (bridgeResults s) (bridgeConfigOwed cmd)
      (bridgeResults (Bridge.processConfigCommand saved cmd s)) := by
  have answered : ∀ (ok : Bool) (detailCode : UInt8) (after : Bridge.State),
      after.outputs = s.outputs → bridgeConfigOwed cmd = some ⟨2, cmd.sourceSequence, 1⟩ →
        Answers (bridgeResults s) (bridgeConfigOwed cmd)
          (bridgeResults (Bridge.publishExecResult cmd.sourceSequence 1 ok detailCode after)) := by
    intro ok detailCode after same owed
    rw [owed, ← bridgeResults_same same]
    exact .result ⟨cmd.sourceSequence, 2, 1, if ok then 0 else 1, detailCode⟩
  unfold Bridge.processConfigCommand
  dsimp only
  by_cases short : cmd.payloadLength < 8
  · rw [if_pos short]
    exact answered _ _ _ rfl (if_pos (.inl short))
  rw [if_neg short]
  by_cases foreign : cmd.byte 0 ≠ 2
  · rw [if_pos foreign, bridgeConfigOwed, if_neg fun owed => owed.elim short foreign]
    exact .nothing
  rw [if_neg foreign]
  have owed : bridgeConfigOwed cmd = some ⟨2, cmd.sourceSequence, 1⟩ :=
    if_pos (.inr (not_not.mp foreign))
  split
  · exact answered _ _ _ rfl owed
  · split
    · exact answered _ _ _ rfl owed
    · split
      · exact answered _ _ _ rfl owed
      · split
        · exact answered _ _ _ rfl owed
        · split
          · exact answered _ _ _ (Bridge.saveState_outputs saved _) owed
          · exact answered _ _ _ rfl owed

/-- Asking for a flight mode reports no result. -/
theorem requestFlightMode_results (subMode : UInt8) (env : Bridge.Env)
    (cmd : Bridge.SetFlightModeCmd) (s : Bridge.State) :
    bridgeResults (Bridge.requestFlightMode subMode env cmd s).2 = bridgeResults s := by
  have mode : bridgeResults (Bridge.sendSetMode subMode (env.tx 0) s).2 = bridgeResults s :=
    sendMavlinkV2_results ..
  unfold Bridge.requestFlightMode
  dsimp only
  split
  · exact (sendMavlinkV2_results ..).trans mode
  · exact mode

/-- A flight mode command is answered. -/
theorem setFlightMode_answers (env : Bridge.Env) (cmd : Bridge.SetFlightModeCmd)
    (s : Bridge.State) :
    Answers (bridgeResults s) (some ⟨2, cmd.sourceSequence, 8⟩)
      (bridgeResults (Bridge.processSetFlightModeCmd env cmd s)) := by
  unfold Bridge.processSetFlightModeCmd
  dsimp only
  split
  · exact .result ⟨cmd.sourceSequence, 2, 8, 1, cmd.flightMode⟩
  · rename_i subMode named
    rw [← requestFlightMode_results subMode env cmd s]
    split
    · exact .result ⟨cmd.sourceSequence, 2, 8, 0, cmd.flightMode⟩
    · exact .result ⟨cmd.sourceSequence, 2, 8, 1, cmd.flightMode⟩

/-- An input is answered as the bridge owes it. -/
theorem step_answers (s : Bridge.State) (input : Bridge.Input) :
    Answers (bridgeResults s) (bridgeOwed input) (bridgeResults (Bridge.step s input)) := by
  by_cases other : Bridge.Purpose.answer ∈ input.purposes
  · cases input with
    | config cmd saved => exact bridgeConfig_answers saved cmd s
    | setFlightMode cmd env => exact setFlightMode_answers env cmd s
    | _ => simp [Bridge.Input.purposes] at other
  · have unanswered : bridgeOwed input = none := by
      cases input with
      | config cmd saved => exact absurd List.mem_cons_self other
      | setFlightMode cmd env => exact absurd (List.mem_cons_of_mem _ List.mem_cons_self) other
      | _ => rfl
    rw [unanswered, bridgeResults_puts (Bridge.step_puts s input) other]
    exact .nothing

end

/-! ## The LoRa application -/

/-- What the LoRa application owes a configuration command. -/
def loraConfigOwed (cmd : ConfigCmd) : Option Answer :=
  if ¬ cmd.payloadLength < 8 ∧ cmd.byte 0 = Lora.configScope then
    some ⟨3, cmd.sourceSequence, 1⟩
  else none

/-- What the LoRa application owes a message of its pipe. -/
def loraOwed : Lora.Packet → Option Answer
  | .config cmd => loraConfigOwed cmd
  | _ => none

/-- The result that a message of the LoRa application is. -/
def loraResult : Lora.Sent → Option ExecResult
  | .execResult result => some result
  | _ => none

/-- The results among what the LoRa application has sent, newest first. -/
def loraResults (app : Lora.App) : List ExecResult := app.sent.filterMap loraResult

section

variable {app after : Lora.App}

/-- A step that sends nothing reports nothing. -/
theorem loraResults_same (same : after.sent = app.sent) : loraResults after = loraResults app := by
  rw [loraResults, same, loraResults]

/-- Saving the state sends nothing. -/
theorem loraSave_sent (env : Lora.PacketEnv) (app : Lora.App) :
    (Lora.saveState env app).sent = app.sent := by
  unfold Lora.saveState
  cases env.save <;> rfl

/-- A configuration command is answered as the LoRa application owes it. -/
theorem loraConfig_answers (env : Lora.PacketEnv) (cmd : ConfigCmd) (app : Lora.App) :
    Answers (loraResults app) (loraConfigOwed cmd)
      (loraResults (Lora.processConfigCommand env cmd app)) := by
  have answered : ∀ (ok : Bool) (after : Lora.App), after.sent = app.sent →
      loraConfigOwed cmd = some ⟨3, cmd.sourceSequence, 1⟩ →
        Answers (loraResults app) (loraConfigOwed cmd)
          (loraResults (Lora.publishExecResult cmd.sourceSequence 1 ok after)) := by
    intro ok after same owed
    rw [owed, ← loraResults_same same]
    exact .result ⟨cmd.sourceSequence, 3, 1, if ok then 0 else 1, if ok then 0 else 1⟩
  unfold Lora.processConfigCommand
  by_cases short : cmd.payloadLength < 8
  · rw [if_pos short, loraConfigOwed, if_neg fun owed => owed.1 short]
    exact .nothing
  rw [if_neg short]
  by_cases foreign : cmd.byte 0 ≠ 3
  · rw [if_pos foreign, loraConfigOwed, if_neg fun owed => foreign owed.2]
    exact .nothing
  rw [if_neg foreign]
  have owed : loraConfigOwed cmd = some ⟨3, cmd.sourceSequence, 1⟩ :=
    if_pos ⟨short, not_not.mp foreign⟩
  split
  · exact answered _ _ rfl owed
  · split
    · exact answered _ _ rfl owed
    · split
      · exact answered _ _ rfl owed
      · dsimp only
        split
        · split
          · exact answered _ _ rfl owed
          · exact answered _ _ (loraSave_sent env _) owed
        · exact answered _ _ rfl owed

/-- A message of the pipe is answered as the LoRa application owes it. -/
theorem processPacket_answers (env : Lora.PacketEnv) (packet : Lora.Packet) (app : Lora.App) :
    Answers (loraResults app) (loraOwed packet)
      (loraResults (Lora.processPacket env packet app)) := by
  have quiet : ∀ after : Lora.App, after.sent = app.sent →
      Answers (loraResults app) none (loraResults after) := by
    intro after same
    rw [loraResults_same same]
    exact .nothing
  cases packet with
  | config cmd => exact loraConfig_answers env cmd app
  | sendHk => exact .nothing
  | groundCommand fcnCode size useV2 =>
    refine quiet _ ?_
    change (Lora.processGroundCommand env fcnCode size useV2 app).sent = app.sent
    unfold Lora.processGroundCommand Lora.setDownlinkProtocol
    split_ifs
    · rfl
    · rfl
    · rfl
    · rfl
    · rfl
    · exact loraSave_sent env _
    · rfl
    · rfl
  | diagnostic cmd =>
    refine quiet _ ?_
    change (Lora.processDiagnosticCommand cmd app).sent = app.sent
    unfold Lora.processDiagnosticCommand
    dsimp only
    split_ifs <;> rfl
  | telemetry message =>
    cases message <;> exact .nothing
  | other msgId foreign =>
    rw [Lora.processPacket_other]
    exact .nothing
  | sysTime | uplinkStatus => exact .nothing

end

end CfsTelemetry.Flight
