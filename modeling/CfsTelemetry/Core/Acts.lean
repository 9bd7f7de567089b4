import CfsTelemetry.Core.Application
import CfsTelemetry.Core.Restarts
import CfsTelemetry.Core.Soundness
import CfsTelemetry.Library.Channel

/-!
# What the core application does to the others

The core application restarts other applications and sends the bridge commands. It does so for a
recovery command, which names what is to be done, and an evaluation restarts an application that
it finds timed out. Nothing else that it handles, and no turn of the main loop that does not
evaluate, touches another application.
-/
namespace CfsTelemetry.Core

open Run

/-- What the core application does to another one. -/
inductive Act where
  | restart (app : App)
  | control (cmd : BridgeCtrl)
  deriving DecidableEq, Repr

/-- What an output does to another application. -/
def Output.act : Output → Option Act
  | .restartApp app => some (.restart app)
  | .message (.bridgeCtrl cmd) => some (.control cmd)
  | .message _ => none

/-- What was done to other applications, newest first. -/
def acts (s : State) : List Act := s.outputs.filterMap Output.act

/-- What a recovery action does to another application. -/
def RecoveryAction.act : RecoveryAction → Option Act
  | resetCounter => none
  | restartBridge => some (.restart .bridge)
  | restartUplink => some (.restart .uplink)
  | restartLora => some (.restart .lora)
  | parserReset => some (.control .parserReset)
  | serialReconnect => some (.control .serialReconnect)

/-- Whether something can be done to another application: it is found, or the bus takes the
command. -/
def Env.allows (env : Env) : Act → Bool
  | .restart app => env.found app
  | .control _ => env.setFcnCode && env.transmit

/-- What the byte of a recovery command asks for. -/
def actOfByte (action : UInt8) : List Act :=
  ((RecoveryAction.ofByte action).bind RecoveryAction.act).toList

/-- Whether an evaluation finds an application timed out. -/
def Findings.out (found : Findings) : App → Bool
  | .bridge => found.bridge
  | .uplink => found.uplink
  | .lora => found.lora

/-- The applications that an evaluation restarts. -/
def restartsDue (env : Env) (s : State) : List App :=
  [App.bridge, .uplink, .lora].filter fun app =>
    reaches s (findings env.nowMs s).out env app && fires s (findings env.nowMs s).out env app

section

variable {s s' : State}

/-- A step that puts out nothing does nothing. -/
theorem acts_same (same : s'.outputs = s.outputs) : acts s' = acts s := by
  rw [acts, same, acts]

/-- A message that is no command of the bridge does nothing. -/
theorem acts_transmit {message : Message} (none : (Output.message message).act = none)
    (s : State) : acts (transmitMsg message s) = acts s :=
  List.filterMap_cons_none none

/-- An evaluation restarts the applications that are due. -/
theorem evaluate_acts (env : Env) (s : State) :
    acts (evaluate env s) = (restartsDue env s).map .restart ++ acts s := by
  have supervised := (checkAppRestarts_spec (findings env.nowMs s).out env s).2
  have noted : ∀ verdict s, (noteTransition verdict env s).outputs = s.outputs := by
    intro verdict s
    unfold noteTransition
    split
    · exact saveState_outputs _ _ _
    · rfl
  have restarts : ∀ apps : List App,
      (apps.map Output.restartApp).filterMap Output.act = apps.map .restart := by
    intro apps
    rw [List.filterMap_map]
    exact congrFun List.filterMap_eq_map' apps
  unfold evaluate
  dsimp only
  rw [acts_transmit rfl, acts_same (noted _ _)]
  change List.filterMap Output.act (checkAppRestarts _ _ _ env s).outputs = _
  rw [show (checkAppRestarts (findings env.nowMs s).bridge (findings env.nowMs s).uplink
    (findings env.nowMs s).lora env s).outputs = _ from supervised, List.filterMap_append, restarts]
  rfl

/-- An evaluation restarts at most one application. -/
theorem restartsDue_length (env : Env) (s : State) : (restartsDue env s).length ≤ 1 := by
  have one := restartedBy_length s (.evaluation (findings env.nowMs s).out env)
  rw [restartedBy_evaluation, List.length_reverse] at one
  exact one

/-- An application that an evaluation restarts is found timed out, by the evaluation and by
name, and its time has come. -/
theorem mem_restartsDue {env : Env} {s : State} {app : App} (due : app ∈ restartsDue env s) :
    (findings env.nowMs s).out app = true ∧ env.found app = true ∧
      (s.timer app).due true env.nowMs = true := by
  have fired := (Bool.and_eq_true _ _ ▸ (List.mem_filter.mp due).2).2
  have out := timedOut_of_fires fired
  rw [fires, out, Bool.and_eq_true] at fired
  exact ⟨out, fired.2, fired.1⟩

/-- Carrying out a recovery command does what its action asks for, if it can be done. -/
theorem recover_acts (msg : Uplink.RecoveryCmdTlm) (env : Env) (s : State) :
    acts (recover msg env s).2 = (actOfByte msg.recoveryAction).filter env.allows ++ acts s := by
  have restarts : ∀ app (s' : State), s'.outputs = s.outputs →
      acts (commandRestart app env s').2 = [Act.restart app].filter env.allows ++ acts s := by
    intro app s' same
    unfold commandRestart
    split
    · rename_i found
      rw [List.filter_cons_of_pos (show env.allows (.restart app) = true from found)]
      exact congrArg (_ :: ·) (acts_same same)
    · rename_i absent
      rw [List.filter_cons_of_neg (show ¬ env.allows (.restart app) = true from absent)]
      exact acts_same same
  have controls : ∀ cmd (s' : State), s'.outputs = s.outputs →
      acts (sendBridgeCtrlCmd cmd env s').2 = [Act.control cmd].filter env.allows ++ acts s := by
    intro cmd s' same
    unfold sendBridgeCtrlCmd
    split
    · rename_i taken
      rw [List.filter_cons_of_pos (show env.allows (.control cmd) = true from taken)]
      exact congrArg (_ :: ·) (acts_same same)
    · rename_i refused
      rw [List.filter_cons_of_neg (show ¬ env.allows (.control cmd) = true from refused)]
      exact acts_same same
  unfold recover actOfByte
  dsimp only
  cases RecoveryAction.ofByte msg.recoveryAction with
  | none => rfl
  | some action =>
    cases action with
    | resetCounter => exact acts_same (saveState_outputs _ _ (resetRestarts s))
    | restartBridge => exact restarts _ _ rfl
    | restartUplink => exact restarts _ _ rfl
    | restartLora => exact restarts _ _ rfl
    | parserReset => exact controls _ _ rfl
    | serialReconnect => exact controls _ _ rfl

/-- So does a recovery command. -/
theorem processRecoveryCommand_acts (msg : Uplink.RecoveryCmdTlm) (env : Env) (s : State) :
    acts (processRecoveryCommand msg env s) =
      (actOfByte msg.recoveryAction).filter env.allows ++ acts s := by
  unfold processRecoveryCommand
  dsimp only
  rw [acts_transmit rfl, recover_acts]
  rfl

/-- A configuration command does nothing to other applications. -/
theorem processConfigCommand_acts (io : SaveIo) (path : String) (cmd : ConfigCmd)
    (c : Configured) : acts (processConfigCommand io path cmd c).app = acts c.app := by
  have answered : ∀ (ok : Bool) (after : Configured), after.app.outputs = c.app.outputs →
      acts (publishConfigResult cmd ok after).app = acts c.app := by
    intro ok after same
    unfold publishConfigResult
    dsimp only
    rw [acts_transmit rfl, acts_same same]
  unfold processConfigCommand
  split
  · exact answered _ _ rfl
  · split
    · rfl
    · split
      · exact answered _ _ rfl
      · split
        · exact answered _ _ rfl
        · split
          · exact answered _ _ rfl
          · dsimp only
            split
            · exact answered _ _ rfl
            · split
              · exact answered _ _ rfl
              · split
                · exact answered _ _ (saveState_outputs _ _ _)
                · exact answered _ _ rfl

/-! ## Rounds -/

/-- What a round does on command: what the recovery command asks for, if it can be done. -/
def commanded : Env × Option PipeMessage → List Act
  | (env, some (.recovery msg)) => (actOfByte msg.recoveryAction).filter env.allows
  | _ => []

/-- The state that a round evaluates, if it evaluates one. -/
def evaluated (a : Application) : Env × Option PipeMessage → Option State
  | (env, some (.state message)) => some (cacheMessage message env.nowMs a.data)
  | (env, none) => if tooEarly env.nowMs a.data then none else some a.data
  | _ => none

/-- The applications that a round restarts without being told to. -/
def supervised (a : Application) (met : Env × Option PipeMessage) : List App :=
  (evaluated a met).toList.flatMap (restartsDue met.1)

/-- What a round does to other applications, oldest first. -/
def roundActs (a : Application) (met : Env × Option PipeMessage) : List Act :=
  Channel.added (acts a.data) (acts (round a met).data)

/-- A list of at most one action is its own reverse. -/
theorem reverse_short {own : List Act} (short : own.length ≤ 1) : own.reverse = own := by
  cases own with
  | nil => rfl
  | cons act rest =>
    cases rest with
    | nil => rfl
    | cons other rest => simp at short

/-- A recovery command asks for at most one action. -/
theorem commanded_length (action : UInt8) (env : Env) :
    ((actOfByte action).filter env.allows).length ≤ 1 := by
  refine (List.length_filter_le _ _).trans ?_
  unfold actOfByte
  cases (RecoveryAction.ofByte action).bind RecoveryAction.act <;> simp

/-- What a message that is neither does to other applications is nothing. -/
theorem taskPipe_acts (env : Env) (a : Application) (message : PipeMessage)
    (noState : ∀ content, message ≠ .state content) (noRecovery : ∀ msg, message ≠ .recovery msg) :
    acts (taskPipe env message a).data = acts a.data := by
  cases message with
  | state content => exact absurd rfl (noState content)
  | recovery msg => exact absurd rfl (noRecovery msg)
  | config cmd => exact processConfigCommand_acts _ _ cmd a.configured
  | mode msg =>
    change acts (processModeCommand msg a).data = _
    unfold processModeCommand
    dsimp only
    split <;> rfl
  | diagnostic msg =>
    change acts (processDiagnosticCommand msg a).data = _
    unfold processDiagnosticCommand
    split
    · rfl
    · split <;> rfl
  | command fcnCode size =>
    have sized : ∀ handler : Application → Application,
        acts (handler a).data = acts a.data → acts (withCmdLength size handler a).data =
          acts a.data := by
      intro handler quiet
      unfold withCmdLength
      split
      · rfl
      · exact quiet
    unfold taskPipe
    dsimp only
    split
    · exact sized noop rfl
    · split
      · exact sized resetCounters rfl
      · rfl
  | unreadableId | unknownId | unreadableFcnCode | sendHk | viewpoint => rfl

/-- A round adds what it is told to do, or what its evaluation finds due. -/
theorem round_acts (a : Application) (met : Env × Option PipeMessage) :
    acts (round a met).data =
      (commanded met ++ (supervised a met).map Act.restart).reverse ++ acts a.data := by
  have restarts : ∀ (env : Env) (s : State), acts s = acts a.data →
      acts (evaluate env s) =
        (([s].flatMap (restartsDue env)).map .restart).reverse ++ acts a.data := by
    intro env s same
    have one : ((restartsDue env s).map Act.restart).length ≤ 1 := by
      rw [List.length_map]
      exact restartsDue_length env s
    rw [evaluate_acts, same, List.flatMap_singleton, reverse_short one]
  obtain ⟨env, message⟩ := met
  cases message with
  | none =>
    change acts (updateHealth false env a.data) = _
    unfold updateHealth supervised evaluated
    by_cases early : tooEarly env.nowMs a.data
    · simp [early, commanded]
    · simp only [early, Bool.not_false, Bool.and_false]
      exact restarts env a.data rfl
  | some message =>
    cases message with
    | state content =>
      have cached := acts_same (cacheMessage_keeps content env.nowMs a.data).outputs
      exact restarts env _ cached
    | recovery msg =>
      change acts (processRecoveryCommand msg env a.data) = (_ ++ []).reverse ++ _
      rw [processRecoveryCommand_acts, List.append_nil]
      exact congrArg (· ++ _) (reverse_short (commanded_length msg.recoveryAction env)).symm
    | _ =>
      refine (taskPipe_acts env a _ ?_ ?_).trans rfl
      all_goals
        intro content other
        cases other

/-- A round does what it is told to, and restarts what its evaluation finds due. -/
theorem roundActs_eq (a : Application) (met : Env × Option PipeMessage) :
    roundActs a met = commanded met ++ (supervised a met).map .restart := by
  rw [roundActs, round_acts, Channel.added_append, List.reverse_reverse]

end

end CfsTelemetry.Core
