import CfsTelemetry.Core.Soundness

/-!
# Restarts of the supervised applications

An evaluation restarts at most one application, and one that was found timed out at every
evaluation of the last five seconds and was not restarted by itself in that time. The discipline
rests on two things that the supervision does not provide for: a deadline that does not wrap with
the clock, and no timer of an application found alive that a restart before it leaves running.
-/
namespace CfsTelemetry.Core

open Run Stopwatch

/-- Whether an evaluation that gets to an application restarts it. -/
def fires (s : State) (timedOut : App → Bool) (env : Env) (app : App) : Bool :=
  (s.timer app).due (timedOut app) env.nowMs && env.found app

/-- Whether an evaluation gets to an application: no other is restarted before it. -/
def reaches (s : State) (timedOut : App → Bool) (env : Env) : App → Bool
  | .bridge => true
  | .uplink => !fires s timedOut env .bridge
  | .lora => !fires s timedOut env .bridge && !fires s timedOut env .uplink

/-- A replaced timer is the new one. -/
@[simp] theorem setTimer_timer (s : State) (app : App) (timer : RestartTimer) :
    (s.setTimer app timer).timer app = timer := by
  cases app <;> rfl

/-- The other timers stay. -/
theorem setTimer_timer_ne (s : State) {app other : App} (ne : other ≠ app) (timer : RestartTimer) :
    (s.setTimer app timer).timer other = s.timer other := by
  cases app <;> cases other <;> first | rfl | exact absurd rfl ne

/-- A replaced timer adds no output. -/
@[simp] theorem setTimer_outputs (s : State) (app : App) (timer : RestartTimer) :
    (s.setTimer app timer).outputs = s.outputs := by
  cases app <;> rfl

/-- Saving the state changes no timer. -/
@[simp] theorem saveState_timer (io : SaveIo) (path : String) (s : State) (app : App) :
    (saveState io path s).timer app = s.timer app := by
  obtain ⟨events, file, saved⟩ := saveState_eq io path s
  rw [saved]
  cases app <;> rfl

/-- Saving the state adds no output. -/
@[simp] theorem saveState_outputs (io : SaveIo) (path : String) (s : State) :
    (saveState io path s).outputs = s.outputs := by
  obtain ⟨events, file, saved⟩ := saveState_eq io path s
  rw [saved]

/-- An event changes no timer. -/
@[simp] theorem sendEvent_timer (id : EventId) (type : EventType) (text : String) (s : State)
    (app : App) : (sendEvent id type text s).timer app = s.timer app := by
  cases app <;> rfl

/-- What the supervision of an application does to timers and outputs. -/
theorem superviseApp_spec (app : App) (timedOut : App → Bool) (env : Env) (s : State) :
    (superviseApp app (timedOut app) env s).1 = fires s timedOut env app ∧
      ((superviseApp app (timedOut app) env s).2.timer app).nextMs =
        (if fires s timedOut env app then env.nowMs + restartIntervalMs
        else ((s.timer app).observe (timedOut app) env.nowMs).nextMs) ∧
      (∀ other, other ≠ app →
        (superviseApp app (timedOut app) env s).2.timer other = s.timer other) ∧
      (superviseApp app (timedOut app) env s).2.outputs =
        (if fires s timedOut env app then [.restartApp app] else []) ++ s.outputs := by
  unfold superviseApp
  dsimp only
  cases restart : fires s timedOut env app with
  | true =>
    unfold fires at restart
    rw [restart]
    simp only [if_true, restartApp]
    refine ⟨trivial, by simp, fun other ne => ?_, ?_⟩
    · rw [sendEvent_timer, setTimer_timer_ne _ ne, saveState_timer, setTimer_timer_ne _ ne,
        ← setTimer_timer_ne s ne ((s.timer app).observe (timedOut app) env.nowMs)]
      cases other <;> rfl
    · change (State.setTimer _ _ _).outputs = _
      rw [setTimer_outputs, saveState_outputs, setTimer_outputs]
      simp
  | false =>
    unfold fires at restart
    rw [restart]
    simp only [Bool.false_eq_true, if_false]
    exact ⟨trivial, by simp, fun other ne => setTimer_timer_ne s ne _, by simp⟩

/-- Whether an application fires depends on its own timer only. -/
theorem fires_of_timer {s s' : State} {app : App} (same : s'.timer app = s.timer app)
    (timedOut : App → Bool) (env : Env) : fires s' timedOut env app = fires s timedOut env app := by
  rw [fires, fires, same]

/-- What the supervision of the applications does to timers and outputs. -/
theorem checkAppRestarts_spec (timedOut : App → Bool) (env : Env) (s : State) :
    (∀ app, ((checkAppRestarts (timedOut .bridge) (timedOut .uplink) (timedOut .lora) env
        s).timer app).nextMs =
      if reaches s timedOut env app then
        if fires s timedOut env app then env.nowMs + restartIntervalMs
        else ((s.timer app).observe (timedOut app) env.nowMs).nextMs
      else (s.timer app).nextMs) ∧
    (checkAppRestarts (timedOut .bridge) (timedOut .uplink) (timedOut .lora) env s).outputs =
      (([App.bridge, .uplink, .lora].filter fun app =>
        reaches s timedOut env app && fires s timedOut env app).map .restartApp) ++ s.outputs := by
  obtain ⟨fired, own, others, outputs⟩ := superviseApp_spec .bridge timedOut env s
  unfold checkAppRestarts
  dsimp only
  rw [fired]
  cases bridge : fires s timedOut env .bridge with
  | true =>
    rw [bridge] at own outputs
    rw [if_pos rfl, outputs]
    refine ⟨fun app => ?_, by simp [reaches, bridge]⟩
    cases app with
    | bridge => simpa [reaches, bridge] using own
    | uplink => simp [reaches, bridge, others]
    | lora => simp [reaches, bridge, others]
  | false =>
    rw [bridge] at own outputs
    obtain ⟨fired', own', others', outputs'⟩ := superviseApp_spec .uplink timedOut env
      (superviseApp .bridge (timedOut .bridge) env s).2
    rw [fires_of_timer (others .uplink (by decide))] at fired' own' outputs'
    rw [if_neg (by decide), fired']
    cases uplink : fires s timedOut env .uplink with
    | true =>
      rw [uplink] at own' outputs'
      rw [if_pos rfl, outputs', outputs]
      refine ⟨fun app => ?_, by simp [reaches, bridge, uplink]⟩
      cases app with
      | bridge =>
        rw [others' .bridge (by decide)]
        simpa [reaches, bridge] using own
      | uplink => simpa [reaches, bridge, uplink] using own'
      | lora => simp [reaches, bridge, uplink, others, others']
    | false =>
      rw [uplink] at own' outputs'
      obtain ⟨-, last, others'', outputs''⟩ := superviseApp_spec .lora timedOut env
        (superviseApp .uplink (timedOut .uplink) env
          (superviseApp .bridge (timedOut .bridge) env s).2).2
      have untouched := (others' .lora (by decide)).trans (others .lora (by decide))
      rw [fires_of_timer untouched] at last outputs''
      rw [if_neg (by decide), outputs'', outputs', outputs]
      refine ⟨fun app => ?_, ?_⟩
      · cases app with
        | bridge =>
          rw [others'' .bridge (by decide), others' .bridge (by decide)]
          simpa [reaches, bridge] using own
        | uplink =>
          rw [others'' .uplink (by decide)]
          rw [others .uplink (by decide)] at own'
          simpa [reaches, bridge, uplink] using own'
        | lora =>
          rw [untouched] at last
          simpa [reaches, bridge, uplink] using last
      · cases lora : fires s timedOut env .lora <;> simp [reaches, bridge, uplink, lora]

/-! ## Runs of the supervision -/

/-- Something that happens to the supervision: an evaluation that finds applications timed out or
a recovery command. -/
inductive SupervisionInput where
  | evaluation (timedOut : App → Bool) (env : Env)
  | recovery (msg : Uplink.RecoveryCmdTlm) (env : Env)

/-- What the supervision does when something happens to it. -/
def supervise (s : State) : SupervisionInput → State
  | .evaluation timedOut env =>
    checkAppRestarts (timedOut .bridge) (timedOut .uplink) (timedOut .lora) env s
  | .recovery msg env => processRecoveryCommand msg env s

/-- The time of an input. -/
def SupervisionInput.timeMs : SupervisionInput → Nat
  | evaluation _ env | recovery _ env => env.timeMs

/-- Whether an input finds an application timed out. -/
def SupervisionInput.findsOut (app : App) : SupervisionInput → Bool
  | evaluation timedOut _ => timedOut app
  | recovery _ _ => false

/-- Whether an input finds an application alive. -/
def SupervisionInput.findsAlive (app : App) : SupervisionInput → Bool
  | evaluation timedOut _ => !timedOut app
  | recovery _ _ => false

/-- The applications that an input restarts without being told to. -/
def restartedBy (s : State) : SupervisionInput → List App
  | .evaluation timedOut env => restarted s (supervise s (.evaluation timedOut env))
  | .recovery _ _ => []

/-- The applications that are supervised before an application. -/
def App.earlier : App → List App
  | bridge => []
  | uplink => [bridge]
  | lora => [bridge, uplink]

/-- Whether an application is found timed out when its deadline has come. -/
def ready (s : State) (timedOut : App → Bool) (env : Env) (app : App) : Bool :=
  timedOut app && env.found app && decide ((s.timer app).nextMs ≠ 0) &&
    decide ((s.timer app).nextMs ≤ env.nowMs)

/-- Whether an evaluation keeps the deadline of an application right. One that gets to the
application does not set a deadline that wraps, and one that does not get to it because of another
restart leaves no timer running of an application it finds alive. -/
def keepsDeadline (s : State) (timedOut : App → Bool) (env : Env) (app : App) : Bool :=
  if app.earlier.any (ready s timedOut env) then
    timedOut app || decide ((s.timer app).nextMs = 0)
  else
    !(timedOut app && (decide ((s.timer app).nextMs = 0) || ready s timedOut env app)) ||
      decide (env.nowMs.toNat + 5000 < 2 ^ 32)

/-- Whether an input keeps all deadlines right. -/
def keepsDeadlines (s : State) : SupervisionInput → Bool
  | .evaluation timedOut env => [App.bridge, .uplink, .lora].all (keepsDeadline s timedOut env)
  | .recovery _ _ => true

section

variable {s : State} {timedOut : App → Bool} {env : Env} {app : App}

/-- A deadline that does not wrap is the reading and the interval. -/
theorem deadline_toNat (near : env.nowMs.toNat + 5000 < 2 ^ 32) :
    (env.nowMs + restartIntervalMs).toNat = env.nowMs.toNat + 5000 := by
  rw [UInt32.toNat_add]
  exact Nat.mod_eq_of_lt near

/-- An evaluation that keeps the deadline of an application it gets to restarts the application
when it is ready. -/
theorem fires_eq_ready (keeps : keepsDeadline s timedOut env app = true)
    (first : app.earlier.any (ready s timedOut env) = false) :
    fires s timedOut env app = ready s timedOut env app := by
  rw [keepsDeadline, first, if_neg (by decide)] at keeps
  unfold fires RestartTimer.due RestartTimer.observe ready
  cases out : timedOut app with
  | false => simp
  | true =>
    by_cases idle : (s.timer app).nextMs = 0
    · have near : env.nowMs.toNat + 5000 < 2 ^ 32 := by simpa [out, idle] using keeps
      have later := deadline_toNat near
      have early : ¬ env.nowMs + restartIntervalMs ≤ env.nowMs := by
        rw [UInt32.le_iff_toNat_le]
        omega
      simp [idle, early]
    · simp [idle, Bool.and_comm]

/-- An evaluation that keeps the deadlines gets to the applications before which none is ready. -/
theorem reaches_eq_first (keeps : ∀ app, keepsDeadline s timedOut env app = true) :
    reaches s timedOut env app = !app.earlier.any (ready s timedOut env) := by
  have bridge : fires s timedOut env .bridge = ready s timedOut env .bridge :=
    fires_eq_ready (keeps .bridge) rfl
  cases app with
  | bridge => rfl
  | uplink => simp [reaches, App.earlier, bridge]
  | lora =>
    cases first : ready s timedOut env .bridge with
    | true => simp [reaches, App.earlier, bridge, first]
    | false =>
      have uplink := fires_eq_ready (keeps .uplink) (by simpa [App.earlier] using first)
      simp [reaches, App.earlier, bridge, uplink, first]

/-- The applications that an evaluation restarts. -/
theorem restartedBy_evaluation (s : State) (timedOut : App → Bool) (env : Env) :
    restartedBy s (.evaluation timedOut env) =
      ([App.bridge, .uplink, .lora].filter fun app =>
        reaches s timedOut env app && fires s timedOut env app).reverse := by
  have outputs := (checkAppRestarts_spec timedOut env s).2
  have new := newOutputs_eq outputs
  change restarted s (checkAppRestarts (timedOut .bridge) (timedOut .uplink) (timedOut .lora) env
    s) = _
  rw [restarted, new, ← List.map_reverse, List.filterMap_map]
  exact List.filterMap_some

/-- An evaluation restarts the applications that it gets to and that are due. -/
theorem mem_restartedBy :
    app ∈ restartedBy s (.evaluation timedOut env) ↔
      reaches s timedOut env app = true ∧ fires s timedOut env app = true := by
  rw [restartedBy_evaluation, List.mem_reverse, List.mem_filter, Bool.and_eq_true]
  have supervised : app ∈ [App.bridge, .uplink, .lora] := by cases app <;> simp
  simp only [supervised, true_and]

/-- An input restarts at most one application. -/
theorem restartedBy_length (s : State) (input : SupervisionInput) :
    (restartedBy s input).length ≤ 1 := by
  cases input with
  | recovery msg env => exact Nat.zero_le 1
  | evaluation timedOut env =>
    rw [restartedBy_evaluation, List.length_reverse]
    cases bridge : fires s timedOut env .bridge with
    | true => simp [reaches, bridge]
    | false =>
      cases uplink : fires s timedOut env .uplink with
      | true => simp [reaches, bridge, uplink]
      | false => cases lora : fires s timedOut env .lora <;> simp [reaches, bridge, uplink, lora]

/-- An evaluation restarts only what it finds timed out. -/
theorem timedOut_of_fires (restart : fires s timedOut env app = true) : timedOut app = true := by
  unfold fires RestartTimer.due at restart
  simp only [Bool.and_eq_true] at restart
  exact restart.1.1

/-- An evaluation that keeps the deadlines stops the timer of an application, starts it for an
application that is timed out, or lets it run for one that stays timed out. -/
theorem nextMs_of_keepsDeadline (keeps : ∀ app, keepsDeadline s timedOut env app = true) :
    ((supervise s (.evaluation timedOut env)).timer app).nextMs = 0 ∨
      (((supervise s (.evaluation timedOut env)).timer app).nextMs.toNat =
        env.nowMs.toNat + 5000 ∧ timedOut app = true) ∨
      (((supervise s (.evaluation timedOut env)).timer app).nextMs = (s.timer app).nextMs ∧
        timedOut app = true ∧ app ∉ restartedBy s (.evaluation timedOut env)) := by
  have timer := (checkAppRestarts_spec timedOut env s).1 app
  change ((supervise s (.evaluation timedOut env)).timer app).nextMs = _ at timer
  have own := keeps app
  have restarts := @mem_restartedBy s timedOut env app
  rw [timer, restarts]
  rw [reaches_eq_first keeps]
  cases first : app.earlier.any (ready s timedOut env) with
  | true =>
    rw [keepsDeadline, first, if_pos rfl, Bool.or_eq_true, decide_eq_true_eq] at own
    simp only [Bool.not_true, Bool.false_eq_true, if_false, false_and, not_false_eq_true,
      and_true, true_and]
    rcases own with out | idle
    · exact .inr (.inr out)
    · exact .inl idle
  | false =>
    have fires := fires_eq_ready own first
    rw [keepsDeadline, first, if_neg (by decide)] at own
    rw [fires]
    simp only [Bool.not_false, if_true, true_and]
    cases out : timedOut app with
    | false =>
      left
      simp [ready, out, RestartTimer.observe]
    | true =>
      cases due : ready s timedOut env app with
      | true =>
        right; left
        have near : env.nowMs.toNat + 5000 < 2 ^ 32 := by simpa [out, due] using own
        simpa using deadline_toNat near
      | false =>
        by_cases idle : (s.timer app).nextMs = 0
        · right; left
          have near : env.nowMs.toNat + 5000 < 2 ^ 32 := by simpa [out, idle] using own
          simpa [RestartTimer.observe, idle] using deadline_toNat near
        · right; right
          simp [RestartTimer.observe, idle]

/-- An evaluation that keeps the deadlines restarts an application when its deadline has come. -/
theorem nextMs_of_restarted (keeps : ∀ app, keepsDeadline s timedOut env app = true)
    (restart : app ∈ restartedBy s (.evaluation timedOut env)) :
    (s.timer app).nextMs ≠ 0 ∧ (s.timer app).nextMs.toNat ≤ env.nowMs.toNat ∧
      timedOut app = true := by
  obtain ⟨reached, restart⟩ := mem_restartedBy.mp restart
  rw [reaches_eq_first keeps, Bool.not_eq_true'] at reached
  rw [fires_eq_ready (keeps app) reached] at restart
  simp only [ready, Bool.and_eq_true, decide_eq_true_eq] at restart
  exact ⟨restart.1.2, UInt32.le_iff_toNat_le.mp restart.2, restart.1.1.1⟩

/-- A recovery command stops all timers or none. -/
theorem processRecoveryCommand_timer (msg : Uplink.RecoveryCmdTlm) (env : Env) (s : State) :
    (∀ app, ((processRecoveryCommand msg env s).timer app).nextMs = 0) ∨
      ∀ app, (processRecoveryCommand msg env s).timer app = s.timer app := by
  have restarts : ∀ (app other : App) (s : State),
      (commandRestart app env s).2.timer other = s.timer other := by
    intro app other s
    unfold commandRestart
    split <;> cases other <;> rfl
  have commands : ∀ (cmd : BridgeCtrl) (app : App) (s : State),
      (sendBridgeCtrlCmd cmd env s).2.timer app = s.timer app := by
    intro cmd app s
    unfold sendBridgeCtrlCmd
    split <;> cases app <;> rfl
  have counted : ∀ app, ({ s with
      recoveryRequestedCount := s.recoveryRequestedCount + 1
      cmdCounter := s.cmdCounter + 1 } : State).timer app = s.timer app := by
    intro app
    cases app <;> rfl
  have reported : ∀ app, (processRecoveryCommand msg env s).timer app =
      (recover msg env { s with
        recoveryRequestedCount := s.recoveryRequestedCount + 1
        cmdCounter := s.cmdCounter + 1 }).2.timer app := by
    intro app
    cases app <;> rfl
  simp only [reported, recover]
  cases RecoveryAction.ofByte msg.recoveryAction with
  | none => exact .inr fun app => by rw [sendEvent_timer, counted]
  | some action =>
    cases action with
    | resetCounter =>
      left
      intro app
      rw [sendEvent_timer, saveState_timer]
      cases app <;> rfl
    | parserReset => exact .inr fun app => by rw [commands, sendEvent_timer, counted]
    | serialReconnect => exact .inr fun app => by rw [commands, sendEvent_timer, counted]
    | _ => exact .inr fun app => by rw [restarts, sendEvent_timer, counted]

end

section

variable (start : State)

/-- An evaluation that finds an application alive, or restarts it. -/
def EndsOut (app : App) (before : List SupervisionInput) (input : SupervisionInput) : Prop :=
  input.findsAlive app = true ∨ app ∈ restartedBy (run supervise start before) input

/-- The restarts of an input are disciplined. It restarts at most one application, one that no
evaluation of the last five seconds found alive and that was not restarted in that time. -/
def Disciplined (before : List SupervisionInput) (input : SupervisionInput) : Prop :=
  (restartedBy (run supervise start before) input).length ≤ 1 ∧
    ∀ app ∈ restartedBy (run supervise start before) input,
      (∀ evaluation ∈ before ++ [input], input.timeMs < evaluation.timeMs + 5000 →
        evaluation.findsAlive app = false) ∧
      Each (fun earlier previous => app ∈ restartedBy (run supervise start earlier) previous →
        previous.timeMs + 5000 ≤ input.timeMs) before

/-- The deadline of an application is five seconds after an evaluation that found it timed out,
and since then none has found it alive and it was not restarted. -/
def DeadlineTracks (inputs : List SupervisionInput) (app : App) : Prop :=
  ((run supervise start inputs).timer app).nextMs ≠ 0 → ∃ armedMs,
    ((run supervise start inputs).timer app).nextMs.toNat = (UInt32.ofNat armedMs).toNat + 5000 ∧
      HeldFrom SupervisionInput.timeMs (fun _ input => input.findsOut app = true)
        (EndsOut start app) armedMs inputs

variable {start} {inputs : List SupervisionInput} {input : SupervisionInput}

/-- An input that keeps the deadlines right leaves them right. -/
theorem DeadlineTracks.snoc {app : App} (tracks : DeadlineTracks start inputs app)
    (keeps : keepsDeadlines (run supervise start inputs) input = true) :
    DeadlineTracks start (inputs ++ [input]) app := by
  intro runs
  rw [run_snoc] at runs ⊢
  -- A timer that goes on shows the deadline it has shown.
  have goesOn : ((supervise (run supervise start inputs) input).timer app).nextMs =
      ((run supervise start inputs).timer app).nextMs → ¬ EndsOut start app inputs input →
      ∃ armedMs, ((supervise (run supervise start inputs) input).timer app).nextMs.toNat =
          (UInt32.ofNat armedMs).toNat + 5000 ∧
        HeldFrom SupervisionInput.timeMs (fun _ input => input.findsOut app = true)
          (EndsOut start app) armedMs (inputs ++ [input]) := by
    intro same unbroken
    rw [same] at runs ⊢
    obtain ⟨armedMs, shown, held⟩ := tracks runs
    exact ⟨armedMs, shown, since_snoc.mpr (.inr ⟨held, unbroken⟩)⟩
  cases input with
  | recovery msg env =>
    rcases processRecoveryCommand_timer msg env (run supervise start inputs) with stopped | same
    · exact absurd (stopped app) runs
    · apply goesOn
      · change ((processRecoveryCommand msg env _).timer app).nextMs = _
        rw [same]
      · rintro (alive | restart)
        · cases alive
        · cases restart
  | evaluation timedOut env =>
    have keeps : ∀ app, keepsDeadline (run supervise start inputs) timedOut env app = true := by
      intro app
      rw [keepsDeadlines, List.all_eq_true] at keeps
      exact keeps app (by cases app <;> simp)
    rcases nextMs_of_keepsDeadline keeps with stopped | ⟨armed, out⟩ | ⟨same, out, other⟩
    · exact absurd stopped runs
    · exact ⟨env.timeMs, armed, since_snoc.mpr (.inl ⟨out, rfl⟩)⟩
    · apply goesOn same
      rintro (alive | restart)
      · rw [SupervisionInput.findsAlive, out] at alive
        cases alive
      · exact other restart

/-- The deadlines are right in every run that keeps them so. -/
theorem deadlineTracks (restored : Restored) (stateFile : Option (List UInt8)) (app : App)
    (inputs : List SupervisionInput) :
    Each (fun before input => keepsDeadlines
        (run supervise (initialState restored stateFile) before) input = true) inputs →
      DeadlineTracks (initialState restored stateFile) inputs app := by
  apply history_induction
  · intro runs
    cases app <;> exact absurd rfl runs
  · intro before input tracks keeps
    exact tracks.snoc keeps

/-- What a restart ends has lasted for the restart interval. -/
theorem DeadlineTracks.lasting {app : App} (tracks : DeadlineTracks start inputs app)
    (ordered : Ordered SupervisionInput.timeMs (inputs ++ [input]))
    (keeps : keepsDeadlines (run supervise start inputs) input = true)
    (restart : app ∈ restartedBy (run supervise start inputs) input) :
    Lasting SupervisionInput.timeMs (fun _ input => input.findsOut app = true)
      (EndsOut start app) 5000 inputs input.timeMs := by
  cases input with
  | recovery msg env => cases restart
  | evaluation timedOut env =>
    have keeps : ∀ app, keepsDeadline (run supervise start inputs) timedOut env app = true := by
      intro app
      rw [keepsDeadlines, List.all_eq_true] at keeps
      exact keeps app (by cases app <;> simp)
    obtain ⟨runs, reached, -⟩ := nextMs_of_restarted keeps restart
    obtain ⟨armedMs, shown, held⟩ := tracks runs
    obtain ⟨earlier, mem, time⟩ := held.mem
    have inOrder : armedMs ≤ env.timeMs := by
      rw [← time]
      exact (each_snoc.mp ordered).2 earlier mem
    rw [shown] at reached
    exact ⟨armedMs, deadline_le inOrder reached, held⟩

/-- What has lasted for the restart interval was not ended in it. -/
theorem lasting_endsOut {app : App} {nowMs : Nat}
    (lasting : Lasting SupervisionInput.timeMs (fun _ input => input.findsOut app = true)
      (EndsOut start app) 5000 inputs nowMs)
    (ordered : Ordered SupervisionInput.timeMs inputs) :
    Each (fun before earlier => EndsOut start app before earlier →
      earlier.timeMs + 5000 ≤ nowMs) inputs := by
  obtain ⟨armedMs, lasts, held⟩ := lasting
  intro before earlier after place ended
  have bound := held.of_breaks ordered place ended
  omega

/-- The restarts of a run are disciplined when every evaluation keeps the deadlines right, whatever
was restored at the start. A deadline is a reading of a clock that wraps, and a restart returns
before the deadlines of the applications behind it are cleared. -/
theorem restarts_disciplined (restored : Restored) (stateFile : Option (List UInt8))
    (inputs : List SupervisionInput) (ordered : Ordered SupervisionInput.timeMs inputs)
    (keeps : Each (fun before input => keepsDeadlines
      (run supervise (initialState restored stateFile) before) input = true) inputs) :
    Each (Disciplined (initialState restored stateFile)) inputs := by
  intro before input after equal
  refine ⟨restartedBy_length _ input, ?_⟩
  intro app restart
  have upTo := ordered.upTo equal
  have kept : Each (fun before input => keepsDeadlines
      (run supervise (initialState restored stateFile) before) input = true) before := by
    intro earlier next rest place
    apply keeps earlier next (rest ++ input :: after)
    rw [equal, place]
    simp
  have tracks := deadlineTracks restored stateFile app before kept
  have own := keeps before input after equal
  have ended := lasting_endsOut (tracks.lasting upTo own restart) (each_snoc.mp upTo).1
  constructor
  · intro evaluation mem recent
    rcases List.mem_append.mp mem with earlier | last
    · obtain ⟨first, rest, place⟩ := List.append_of_mem earlier
      by_contra alive
      have bound := ended first evaluation rest place (.inl (by simpa using alive))
      omega
    · rw [List.mem_singleton.mp last]
      cases input with
      | recovery msg env => rfl
      | evaluation timedOut env =>
        have out := timedOut_of_fires (mem_restartedBy.mp restart).2
        rw [SupervisionInput.findsAlive, out]
        rfl
  · intro earlier previous rest place again
    exact ended earlier previous rest place (.inr again)

end

/-- The bridge is timed out twice, and the clock wraps in between. -/
def silentSupervision : List SupervisionInput :=
  [.evaluation (fun app => app = .bridge) (Env.at 4294950000),
    .evaluation (fun app => app = .bridge) (Env.at 4294956000),
    .evaluation (fun _ => false) (Env.at 4294967400),
    .evaluation (fun app => app = .bridge) (Env.at 4294967500),
    .evaluation (fun app => app = .bridge) (Env.at 4294972500)]

/-- The bridge is restarted twice, with discipline. -/
theorem restarts_disciplined_silentSupervision :
    Each (Disciplined (initialState Restored.none none)) silentSupervision ∧
      restarted (initialState Restored.none none)
        (run supervise (initialState Restored.none none) silentSupervision) =
          [.bridge, .bridge] := by
  constructor
  · apply restarts_disciplined Restored.none none silentSupervision
    · exact ordered_of_pairwise (by decide)
    · exact each_of_checks (fun _ _ check => check) _ _ (by decide +kernel)
  · decide +kernel

/-- The bridge is timed out for the first time just before the clock wraps. -/
def wrappingSupervision : List SupervisionInput :=
  [.evaluation (fun _ => false) (Env.at 4294961796),
    .evaluation (fun app => app = .bridge) (Env.at 4294962796)]

/-- The uplink is heard of at the evaluation that restarts the bridge. -/
def overtakenSupervision : List SupervisionInput :=
  [.evaluation (fun app => app = .bridge ∨ app = .uplink) (Env.at 100000),
    .evaluation (fun app => app = .bridge) (Env.at 105000),
    .evaluation (fun app => app = .bridge ∨ app = .uplink) (Env.at 105200)]

/-- An application is restarted when it has just been timed out, because its deadline has wrapped
or because its timer was not stopped by the evaluation that restarted another. -/
theorem restarts_undisciplined :
    (Ordered SupervisionInput.timeMs wrappingSupervision ∧
      ¬ Each (Disciplined (initialState Restored.none none)) wrappingSupervision) ∧
    (Ordered SupervisionInput.timeMs overtakenSupervision ∧
      ¬ Each (Disciplined (initialState Restored.none none)) overtakenSupervision) := by
  refine ⟨⟨ordered_of_pairwise (by decide), ?_⟩, ordered_of_pairwise (by decide), ?_⟩
  · intro disciplined
    have last := disciplined [.evaluation (fun _ => false) (Env.at 4294961796)]
      (.evaluation (fun app => app = .bridge) (Env.at 4294962796)) [] rfl
    have alive := (last.2 .bridge (by decide +kernel)).1
      (.evaluation (fun _ => false) (Env.at 4294961796)) (by simp) (by decide)
    cases alive
  · intro disciplined
    have last := disciplined
      [.evaluation (fun app => app = .bridge ∨ app = .uplink) (Env.at 100000),
        .evaluation (fun app => app = .bridge) (Env.at 105000)]
      (.evaluation (fun app => app = .bridge ∨ app = .uplink) (Env.at 105200)) [] rfl
    have alive := (last.2 .uplink (by decide +kernel)).1
      (.evaluation (fun app => app = .bridge) (Env.at 105000)) (by simp) (by decide)
    cases alive

end CfsTelemetry.Core
