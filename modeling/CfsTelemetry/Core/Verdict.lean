import CfsTelemetry.Core.Health

/-!
# Soundness of the verdicts

Every verdict that the core application publishes names the most urgent fault that its evaluation
found. A system that was not nominal is nominal again only when no evaluation has found a fault
for ten seconds, and it has failed only when every evaluation of thirty seconds has found the
bridge timed out and the counters were not reset in between.
-/
namespace CfsTelemetry.Core

open Run Stopwatch

/-- What a step has done, newest first. -/
def newOutputs (before after : State) : List Output :=
  after.outputs.take (after.outputs.length - before.outputs.length)

/-- The health messages of a step, oldest first. -/
def published (before after : State) : List SystemHealthTlm :=
  (newOutputs before after).reverse.filterMap fun
    | .message (.systemHealth tlm) => some tlm
    | _ => none

/-- The applications that a step restarts, oldest first. -/
def restarted (before after : State) : List App :=
  (newOutputs before after).reverse.filterMap fun
    | .restartApp app => some app
    | _ => none

/-- What a step adds to the outputs is new. -/
theorem newOutputs_eq {before after : State} {new : List Output}
    (outputs : after.outputs = new ++ before.outputs) : newOutputs before after = new := by
  rw [newOutputs, outputs]
  simp

/-- A step without outputs publishes nothing. -/
theorem published_nil {before after : State} (same : after.outputs = before.outputs) :
    published before after = [] := by
  have new : newOutputs before after = [] := newOutputs_eq same
  rw [published, new]
  rfl

/-- Saving the state changes the file and the events only. -/
theorem saveState_eq (io : SaveIo) (path : String) (s : State) :
    ∃ events file, saveState io path s = { s with events := events, stateFile := file } := by
  cases io with
  | renamed => exact ⟨s.events, _, rfl⟩
  | openFailed errno => exact ⟨_, s.stateFile, rfl⟩
  | writeFailed | renameFailed => exact ⟨_, StateFile.unrenamed path s.stateFile _, rfl⟩

/-- Supervision changes its timers and restarts applications. -/
def Supervises (s s' : State) : Prop :=
  ∃ (bridge uplink lora : RestartTimer) (apps : List App) (events : List Event)
    (file : Option (List UInt8)), s' = { s with
      bridgeRestart := bridge
      uplinkRestart := uplink
      loraRestart := lora
      outputs := apps.map .restartApp ++ s.outputs
      events := events
      stateFile := file }

/-- Supervision goes on. -/
theorem Supervises.trans {s s' s'' : State} (one : Supervises s s') (two : Supervises s' s'') :
    Supervises s s'' := by
  obtain ⟨_, _, _, first, _, _, rfl⟩ := one
  obtain ⟨bridge, uplink, lora, second, events, file, rfl⟩ := two
  refine ⟨bridge, uplink, lora, second ++ first, events, file, ?_⟩
  rw [List.map_append, List.append_assoc]

/-- Supervision goes on with a change of one timer. -/
theorem Supervises.setTimer {s s' : State} (supervises : Supervises s s') (app : App)
    (timer : RestartTimer) : Supervises s (s'.setTimer app timer) := by
  apply supervises.trans
  cases app with
  | bridge => exact ⟨timer, s'.uplinkRestart, s'.loraRestart, [], s'.events, s'.stateFile, rfl⟩
  | uplink => exact ⟨s'.bridgeRestart, timer, s'.loraRestart, [], s'.events, s'.stateFile, rfl⟩
  | lora => exact ⟨s'.bridgeRestart, s'.uplinkRestart, timer, [], s'.events, s'.stateFile, rfl⟩

/-- Supervision goes on with an event. -/
theorem Supervises.sendEvent {s s' : State} (supervises : Supervises s s') (id : EventId)
    (type : EventType) (text : String) : Supervises s (sendEvent id type text s') := by
  apply supervises.trans
  exact ⟨s'.bridgeRestart, s'.uplinkRestart, s'.loraRestart, [], _, s'.stateFile, rfl⟩

/-- Supervision goes on when the state is saved. -/
theorem Supervises.saveState {s s' : State} (supervises : Supervises s s') (io : SaveIo)
    (path : String) : Supervises s (saveState io path s') := by
  apply supervises.trans
  obtain ⟨events, file, saved⟩ := saveState_eq io path s'
  exact ⟨s'.bridgeRestart, s'.uplinkRestart, s'.loraRestart, [], events, file, saved⟩

/-- Nothing is supervision. -/
theorem Supervises.refl (s : State) : Supervises s s :=
  ⟨s.bridgeRestart, s.uplinkRestart, s.loraRestart, [], s.events, s.stateFile, rfl⟩

/-- A restart is supervision. -/
theorem restartApp_supervises (app : App) (env : Env) (s : State) :
    Supervises s (restartApp app env s) := by
  have issued : Supervises s { s with outputs := .restartApp app :: s.outputs } :=
    ⟨s.bridgeRestart, s.uplinkRestart, s.loraRestart, [app], s.events, s.stateFile, rfl⟩
  apply Supervises.sendEvent
  apply Supervises.setTimer
  apply Supervises.saveState
  apply Supervises.setTimer
  exact issued

/-- The supervision of an application is supervision. -/
theorem superviseApp_supervises (app : App) (timedOut : Bool) (env : Env) (s : State) :
    Supervises s (superviseApp app timedOut env s).2 := by
  have observed := (Supervises.refl s).setTimer app ((s.timer app).observe timedOut env.nowMs)
  unfold superviseApp
  dsimp only
  split
  · exact observed.trans (restartApp_supervises app env _)
  · exact observed

/-- The supervision of the applications is supervision. -/
theorem checkAppRestarts_supervises (bridge uplink lora : Bool) (env : Env) (s : State) :
    Supervises s (checkAppRestarts bridge uplink lora env s) := by
  have first := superviseApp_supervises .bridge bridge env s
  unfold checkAppRestarts
  dsimp only
  split
  · exact first
  · have second := first.trans (superviseApp_supervises .uplink uplink env _)
    split
    · exact second
    · exact second.trans (superviseApp_supervises .lora lora env _)

/-- Whether a fault was found. -/
def Findings.has (found : Findings) : FaultCode → Bool
  | .bridgeTimeout => found.bridge
  | .ekfInvalid => found.ekf
  | .localTimeout => found.ekfLocal
  | .attitudeTimeout => found.attitude
  | .uplinkTimeout => found.uplink
  | .loraTimeout => found.lora
  | .gpsStale | .none => false

/-- The faults, the most urgent first. -/
def FaultCode.urgency : List FaultCode :=
  [bridgeTimeout, ekfInvalid, localTimeout, attitudeTimeout, uplinkTimeout, loraTimeout]

/-- The most urgent fault that was found. -/
def Findings.highest (found : Findings) : FaultCode :=
  (FaultCode.urgency.find? found.has).getD .none

/-- No fault was found when none of them holds. -/
theorem Findings.highest_eq_none {found : Findings} : found.highest = .none ↔
    found.bridge = false ∧ found.ekf = false ∧ found.ekfLocal = false ∧ found.attitude = false ∧
      found.uplink = false ∧ found.lora = false := by
  obtain ⟨bridge, gps, ekf, ekfLocal, attitude, uplink, lora⟩ := found
  simp only [highest, FaultCode.urgency, List.find?_cons, has]
  cases bridge with
  | true => simp
  | false =>
  cases ekf with
  | true => simp
  | false =>
  cases ekfLocal with
  | true => simp
  | false =>
  cases attitude with
  | true => simp
  | false =>
  cases uplink with
  | true => simp
  | false => cases lora <;> simp

/-- The verdict without a fault. -/
theorem judge_clear {found : Findings} (clear : found.highest = .none) (nowMs : UInt32)
    (s : State) :
    judge found nowMs s =
      if s.lastHealthState = HealthState.nominal.code ∨
          nowMs - startedAt s.nominalEligibleSince nowMs ≥ nominalStabilityMs then
        ⟨.nominal, .none, false, 0, 0⟩
      else ⟨.degraded, .none, false, 0, startedAt s.nominalEligibleSince nowMs⟩ := by
  obtain ⟨bridge, ekf, ekfLocal, attitude, uplink, lora⟩ := Findings.highest_eq_none.mp clear
  unfold judge
  rw [bridge, ekf, ekfLocal, attitude, uplink, lora]
  by_cases nominal : s.lastHealthState = HealthState.nominal.code
  · simp [nominal]
  · simp [nominal]

/-- The verdict while the bridge is timed out. -/
theorem judge_bridge {found : Findings} (timedOut : found.bridge = true) (nowMs : UInt32)
    (s : State) :
    judge found nowMs s = {
      healthState :=
        if nowMs - startedAt s.recoveryStartMs nowMs ≥ failedEscalationMs then .failed
        else .recovery
      faultCode := .bridgeTimeout
      recoveryRequested := true
      recoveryStartMs := startedAt s.recoveryStartMs nowMs
      nominalEligibleSince := 0 } := by
  unfold judge
  rw [if_pos timedOut]

/-- The verdict on any other fault. -/
theorem judge_other {found : Findings} (live : found.bridge = false)
    (faulty : found.highest ≠ .none) (nowMs : UInt32) (s : State) :
    judge found nowMs s = degradedBy found.highest := by
  obtain ⟨bridge, gps, ekf, ekfLocal, attitude, uplink, lora⟩ := found
  change bridge = false at live
  subst live
  unfold judge
  cases ekf with
  | true => rfl
  | false =>
  cases ekfLocal with
  | true => rfl
  | false =>
  cases attitude with
  | true => rfl
  | false =>
  cases uplink with
  | true => rfl
  | false =>
  cases lora with
  | true => rfl
  | false => exact absurd rfl faulty

/-- A fault of the bridge is the most urgent one. -/
theorem Findings.highest_bridge {found : Findings} (timedOut : found.bridge = true) :
    found.highest = .bridgeTimeout := by
  simp [highest, FaultCode.urgency, has, timedOut]

/-- A verdict names the most urgent fault. -/
theorem judge_faultCode (found : Findings) (nowMs : UInt32) (s : State) :
    (judge found nowMs s).faultCode = found.highest := by
  cases timedOut : found.bridge with
  | true => rw [judge_bridge timedOut, Findings.highest_bridge timedOut]
  | false =>
    by_cases clear : found.highest = .none
    · rw [judge_clear clear, clear]
      split <;> rfl
    · rw [judge_other timedOut clear]
      rfl

/-- A verdict on a fault stops the timer of the stability. -/
theorem judge_faulty {found : Findings} (faulty : found.highest ≠ .none) (nowMs : UInt32)
    (s : State) : (judge found nowMs s).nominalEligibleSince = 0 ∧
      (judge found nowMs s).healthState ≠ .nominal := by
  cases timedOut : found.bridge with
  | true =>
    rw [judge_bridge timedOut]
    refine ⟨rfl, ?_⟩
    dsimp only
    split <;> decide
  | false =>
    rw [judge_other timedOut faulty]
    exact ⟨rfl, fun impossible => nomatch impossible⟩

/-- The timer of the recovery runs while the bridge is timed out. -/
theorem judge_recoveryStartMs (found : Findings) (nowMs : UInt32) (s : State) :
    (judge found nowMs s).recoveryStartMs =
      if found.bridge then startedAt s.recoveryStartMs nowMs else 0 := by
  cases timedOut : found.bridge with
  | true => rw [judge_bridge timedOut, if_pos rfl]
  | false =>
    by_cases clear : found.highest = .none
    · rw [judge_clear clear]
      split <;> rfl
    · rw [judge_other timedOut clear]
      rfl

/-- Only the timer of the stability makes a system nominal that was not. -/
theorem judge_nominal {found : Findings} {nowMs : UInt32} {s : State}
    (nominal : (judge found nowMs s).healthState = .nominal)
    (other : s.lastHealthState ≠ HealthState.nominal.code) :
    found.highest = .none ∧
      nominalStabilityMs ≤ nowMs - startedAt s.nominalEligibleSince nowMs := by
  have clear : found.highest = .none := by
    by_contra faulty
    exact (judge_faulty faulty nowMs s).2 nominal
  refine ⟨clear, ?_⟩
  rw [judge_clear clear] at nominal
  by_contra short
  rw [if_neg (not_or.mpr ⟨other, short⟩)] at nominal
  cases nominal

/-- Only the timer of the recovery makes a system failed. -/
theorem judge_failed {found : Findings} {nowMs : UInt32} {s : State}
    (failed : (judge found nowMs s).healthState = .failed) :
    found.bridge = true ∧ failedEscalationMs ≤ nowMs - startedAt s.recoveryStartMs nowMs := by
  cases timedOut : found.bridge with
  | true =>
    rw [judge_bridge timedOut] at failed
    refine ⟨rfl, ?_⟩
    by_contra short
    dsimp only at failed
    rw [if_neg short] at failed
    cases failed
  | false =>
    by_cases clear : found.highest = .none
    · rw [judge_clear clear] at failed
      split at failed <;> cases failed
    · rw [judge_other timedOut clear] at failed
      cases failed

/-! ## An evaluation -/

/-- What an evaluation finds its faults in. -/
structure Evidence where
  cache : Stream → StateCache
  bridgeState : BridgeCache
  uplinkAppState : AppHkCache
  loraAppState : AppHkCache
  activeConfig : ConfigParams

/-- The part of the state that an evaluation finds its faults in. -/
def evidence (s : State) : Evidence where
  cache := s.cache
  bridgeState := s.bridgeState
  uplinkAppState := s.uplinkAppState
  loraAppState := s.loraAppState
  activeConfig := s.activeConfig

/-- What an evaluation does to the part of the state that verdicts depend on. -/
structure Evaluates (env : Env) (s s' : State) : Prop where
  evidence : evidence s' = evidence s
  lastHealthState :
    s'.lastHealthState = (judge (findings env.nowMs s) env.nowMs s).healthState.code
  recoveryStartMs :
    s'.recoveryStartMs = (judge (findings env.nowMs s) env.nowMs s).recoveryStartMs
  nominalEligibleSince :
    s'.nominalEligibleSince = (judge (findings env.nowMs s) env.nowMs s).nominalEligibleSince
  lastPublishTimeMs : s'.lastPublishTimeMs = env.nowMs
  published : ∃ tlm, published s s' = [tlm] ∧
    tlm.healthState = (judge (findings env.nowMs s) env.nowMs s).healthState ∧
    tlm.faultCode = (judge (findings env.nowMs s) env.nowMs s).faultCode

/-- A noted transition leaves the new health state, and touches the file and the events. -/
theorem noteTransition_eq (verdict : Verdict) (env : Env) (s : State) :
    ∃ fault events file, noteTransition verdict env s = { s with
      lastHealthState := verdict.healthState.code
      lastFaultCode := fault
      events := events
      stateFile := file } := by
  unfold noteTransition
  by_cases new : verdict.healthState.code ≠ s.lastHealthState
  · rw [if_pos new]
    obtain ⟨events, file, saved⟩ := saveState_eq (env.save 1) env.stateFilePath
      (sendEvent .healthTransition .information
        (s!"CFS_CORE_APP: health {s.lastHealthState}->{verdict.healthState.code} " ++
          s!"fault={verdict.faultCode.code}")
        { s with
          lastHealthState := verdict.healthState.code
          lastFaultCode := verdict.faultCode.code })
    exact ⟨_, events, file, saved⟩
  · rw [if_neg new, not_not.mp new]
    exact ⟨s.lastFaultCode, s.events, s.stateFile, rfl⟩

/-- The health messages among restarts are none. -/
private theorem healthMessages_restarts (apps : List App) :
    (apps.map Output.restartApp).filterMap (fun
      | .message (.systemHealth tlm) => some tlm
      | _ => none) = [] := by
  induction apps with
  | nil => rfl
  | cons app rest previous => exact previous

/-- What an evaluation changes. -/
theorem evaluate_eq (env : Env) (s : State) :
    ∃ (bridge uplink lora : RestartTimer) (apps : List App) (tlm : SystemHealthTlm)
      (fault : UInt8) (events : List Event) (file : Option (List UInt8)), evaluate env s = { s with
      lastHealthState := (judge (findings env.nowMs s) env.nowMs s).healthState.code
      lastFaultCode := fault
      bridgeRestart := bridge
      uplinkRestart := uplink
      loraRestart := lora
      recoveryStartMs := (judge (findings env.nowMs s) env.nowMs s).recoveryStartMs
      nominalEligibleSince := (judge (findings env.nowMs s) env.nowMs s).nominalEligibleSince
      lastPublishTimeMs := env.nowMs
      publishCount := s.publishCount + 1
      sequenceCounter := s.sequenceCounter + 1
      outputs := .message (.systemHealth tlm) :: (apps.map .restartApp ++ s.outputs)
      events := events
      stateFile := file } ∧
      tlm.healthState = (judge (findings env.nowMs s) env.nowMs s).healthState ∧
      tlm.faultCode = (judge (findings env.nowMs s) env.nowMs s).faultCode := by
  obtain ⟨bridge, uplink, lora, apps, events, file, supervised⟩ := checkAppRestarts_supervises
    (findings env.nowMs s).bridge (findings env.nowMs s).uplink (findings env.nowMs s).lora env s
  unfold evaluate
  dsimp only
  rw [supervised]
  obtain ⟨fault, events', file', noted⟩ := noteTransition_eq
    (judge (findings env.nowMs s) env.nowMs s) env { s with
      bridgeRestart := bridge
      uplinkRestart := uplink
      loraRestart := lora
      recoveryStartMs := (judge (findings env.nowMs s) env.nowMs s).recoveryStartMs
      nominalEligibleSince := (judge (findings env.nowMs s) env.nowMs s).nominalEligibleSince
      lastPublishTimeMs := env.nowMs
      publishCount := s.publishCount + 1
      sequenceCounter := s.sequenceCounter + 1
      outputs := apps.map .restartApp ++ s.outputs
      events := events
      stateFile := file }
  exact ⟨bridge, uplink, lora, apps, _, fault, events', file', congrArg (transmitMsg _) noted, rfl,
    rfl⟩

/-- An evaluation passes the verdict and publishes it. -/
theorem evaluate_evaluates (env : Env) (s : State) : Evaluates env s (evaluate env s) := by
  obtain ⟨bridge, uplink, lora, apps, tlm, fault, events, file, evaluated, health, faultCode⟩ :=
    evaluate_eq env s
  rw [evaluated]
  refine ⟨rfl, rfl, rfl, rfl, rfl, tlm, ?_, health, faultCode⟩
  have new : ∀ after : State,
      after.outputs = .message (.systemHealth tlm) :: (apps.map .restartApp ++ s.outputs) →
        newOutputs s after = .message (.systemHealth tlm) :: apps.map .restartApp :=
    fun after outputs => newOutputs_eq outputs
  rw [published, new _ rfl, List.reverse_cons, List.filterMap_append, ← List.map_reverse,
    healthMessages_restarts]
  rfl

end CfsTelemetry.Core
