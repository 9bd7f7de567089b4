import CfsTelemetry.Core.Verdict

/-!
# Soundness of the published health

A system that was not nominal is published as nominal only when no evaluation has found a fault
for ten seconds, it is published as failed only when every evaluation of thirty seconds has found
the bridge timed out and the counters were not reset in between, and every health message names
the most urgent fault that was found with it.
-/
namespace CfsTelemetry.Core

open Run Stopwatch

/-- What caching a message leaves alone. -/
structure KeepsVerdict (s s' : State) : Prop where
  outputs : s'.outputs = s.outputs
  lastHealthState : s'.lastHealthState = s.lastHealthState
  recoveryStartMs : s'.recoveryStartMs = s.recoveryStartMs
  nominalEligibleSince : s'.nominalEligibleSince = s.nominalEligibleSince
  activeConfig : s'.activeConfig = s.activeConfig
  lastPublishTimeMs : s'.lastPublishTimeMs = s.lastPublishTimeMs

/-- What is left alone twice is left alone. -/
theorem KeepsVerdict.trans {s s' s'' : State} (one : KeepsVerdict s s')
    (two : KeepsVerdict s' s'') : KeepsVerdict s s'' where
  outputs := two.outputs.trans one.outputs
  lastHealthState := two.lastHealthState.trans one.lastHealthState
  recoveryStartMs := two.recoveryStartMs.trans one.recoveryStartMs
  nominalEligibleSince := two.nominalEligibleSince.trans one.nominalEligibleSince
  activeConfig := two.activeConfig.trans one.activeConfig
  lastPublishTimeMs := two.lastPublishTimeMs.trans one.lastPublishTimeMs

/-- A new cache leaves the verdict alone. -/
theorem KeepsVerdict.setCache {s s' : State} (keeps : KeepsVerdict s s') (stream : Stream)
    (cache : StateCache) : KeepsVerdict s (s'.setCache stream cache) := by
  apply keeps.trans
  cases stream <;> exact ⟨rfl, rfl, rfl, rfl, rfl, rfl⟩

/-- Noting a time base shift leaves the verdict alone. -/
theorem noteTimebaseShift_keeps (cache : StateCache) (msg : Bridge.FcStatePrefix) (s : State) :
    KeepsVerdict s (noteTimebaseShift cache msg s) := by
  unfold noteTimebaseShift
  split <;> exact ⟨rfl, rfl, rfl, rfl, rfl, rfl⟩

/-- Taking a state message into its cache leaves the verdict alone. -/
theorem updateStateCache_keeps (stream : Stream) (msg : Bridge.FcStatePrefix) (nowMs : UInt32)
    (s : State) : KeepsVerdict s (updateStateCache stream msg nowMs s) := by
  have noted := noteTimebaseShift_keeps (s.cache stream) msg s
  have counted : ∀ (events : List Event) (gaps rejected : UInt32),
      KeepsVerdict s { noteTimebaseShift (s.cache stream) msg s with
        events := events
        seqGapCount := gaps
        seqRejectedCount := rejected } := fun _ _ _ =>
    noted.trans ⟨rfl, rfl, rfl, rfl, rfl, rfl⟩
  unfold updateStateCache
  dsimp only
  split
  · exact ⟨rfl, rfl, rfl, rfl, rfl, rfl⟩
  · split
    · exact counted _ _ _
    · split
      · exact counted _ _ _
      · apply KeepsVerdict.setCache
        split
        · exact counted _ _ _
        · exact noted

/-- Marking a cache as invalid leaves the verdict alone. -/
theorem KeepsVerdict.markNonFinite {s s' : State} (keeps : KeepsVerdict s s') (stream : Stream)
    (name : String) : KeepsVerdict s (markNonFinite stream name s') :=
  (keeps.setCache stream _).trans ⟨rfl, rfl, rfl, rfl, rfl, rfl⟩

/-- Caching a message leaves the verdict alone. -/
theorem cacheMessage_keeps (message : StateMessage) (nowMs : UInt32) (s : State) :
    KeepsVerdict s (cacheMessage message nowMs s) := by
  cases message with
  | attitude tlm =>
    have updated := updateStateCache_keeps .attitude tlm.toFcStatePrefix nowMs s
    unfold cacheMessage
    dsimp only
    split
    · exact updated
    · exact updated.markNonFinite _ _
  | ekfLocal tlm =>
    have updated := updateStateCache_keeps .ekfLocal tlm.toFcStatePrefix nowMs s
    unfold cacheMessage
    dsimp only
    split
    · exact updated
    · exact updated.markNonFinite _ _
  | gpsRaw tlm => exact updateStateCache_keeps .gpsRaw tlm.toFcStatePrefix nowMs s
  | ekfStatus tlm => exact updateStateCache_keeps .ekfStatus tlm.toFcStatePrefix nowMs s
  | routeUpdate msg =>
    unfold cacheMessage
    dsimp only
    split <;> exact ⟨rfl, rfl, rfl, rfl, rfl, rfl⟩
  | _ => exact ⟨rfl, rfl, rfl, rfl, rfl, rfl⟩

/-- The state that an input evaluates, when it leads to an evaluation. -/
def Input.evaluated (s : State) : Input → Option State
  | .message content env => some (cacheMessage content env.nowMs s)
  | .noMessage env => if tooEarly env.nowMs s then none else some s
  | .recovery _ _ | .reportHousekeeping _ => none

/-- Whether an input resets the counters. -/
def Input.resetsCounter : Input → Bool
  | .recovery msg _ => RecoveryAction.ofByte msg.recoveryAction == some .resetCounter
  | _ => false

/-- An input that leads to an evaluation caches its message and evaluates. -/
theorem step_evaluated {s s' : State} {input : Input} (evaluates : input.evaluated s = some s') :
    step s input = evaluate input.env s' ∧ KeepsVerdict s s' := by
  cases input with
  | message message env =>
    obtain rfl := Option.some.inj evaluates
    exact ⟨rfl, cacheMessage_keeps message env.nowMs s⟩
  | noMessage env =>
    rw [Input.evaluated] at evaluates
    by_cases early : tooEarly env.nowMs s = true
    · rw [if_pos early] at evaluates
      cases evaluates
    · rw [if_neg early] at evaluates
      obtain rfl := Option.some.inj evaluates
      refine ⟨?_, ⟨rfl, rfl, rfl, rfl, rfl, rfl⟩⟩
      simp [step, servicePrototype, updateHealth, early, Input.env]
  | recovery msg env => cases evaluates
  | reportHousekeeping env => cases evaluates

/-- An input that leads to an evaluation publishes what the evaluation does. -/
theorem published_evaluated {s s' : State} {input : Input}
    (evaluates : input.evaluated s = some s') :
    published s (step s input) = published s' (evaluate input.env s') := by
  obtain ⟨evaluated, keeps⟩ := step_evaluated evaluates
  rw [evaluated, published, published, newOutputs, newOutputs, keeps.outputs]

/-- Whether an output is a health message. -/
def Output.isHealth : Output → Bool
  | .message (.systemHealth _) => true
  | _ => false

/-- A step whose outputs are no health messages publishes none. -/
theorem published_of_other {before after : State} {new : List Output}
    (outputs : after.outputs = new ++ before.outputs)
    (other : ∀ output ∈ new, output.isHealth = false) : published before after = [] := by
  rw [published, newOutputs_eq outputs, List.filterMap_eq_nil_iff]
  intro output mem
  have own := other output (List.mem_reverse.mp mem)
  cases output with
  | restartApp app => rfl
  | message message =>
    cases message with
    | systemHealth tlm => cases own
    | _ => rfl

/-- What a recovery command does. -/
theorem recover_eq (msg : Uplink.RecoveryCmdTlm) (env : Env) (s : State) :
    ∃ startMs bridge uplink lora new events file, (recover msg env s).2 = { s with
        recoveryStartMs := startMs
        bridgeRestart := bridge
        uplinkRestart := uplink
        loraRestart := lora
        outputs := new ++ s.outputs
        events := events
        stateFile := file } ∧ (∀ output ∈ new, output.isHealth = false) ∧
      startMs =
        if RecoveryAction.ofByte msg.recoveryAction = some .resetCounter then 0
        else s.recoveryStartMs := by
  have restarts : ∀ (app : App) (s : State), ∃ new events,
      (commandRestart app env s).2 = { s with
        outputs := new ++ s.outputs
        events := events } ∧ ∀ output ∈ new, output.isHealth = false := by
    intro app s
    unfold commandRestart
    split
    · exact ⟨[.restartApp app], _, rfl, by simp [Output.isHealth]⟩
    · exact ⟨[], s.events, rfl, by simp⟩
  have commands : ∀ (cmd : BridgeCtrl) (s : State), ∃ new,
      (sendBridgeCtrlCmd cmd env s).2 = { s with outputs := new ++ s.outputs } ∧
        ∀ output ∈ new, output.isHealth = false := by
    intro cmd s
    unfold sendBridgeCtrlCmd
    split
    · exact ⟨[.message (.bridgeCtrl cmd)], rfl, by simp [Output.isHealth]⟩
    · exact ⟨[], rfl, by simp⟩
  unfold recover
  dsimp only
  cases RecoveryAction.ofByte msg.recoveryAction with
  | none => exact ⟨_, _, _, _, [], _, _, rfl, by simp, rfl⟩
  | some action =>
    cases action with
    | resetCounter =>
      obtain ⟨events, file, saved⟩ := saveState_eq (env.save 0) env.stateFilePath
        (resetRestarts s)
      dsimp only
      rw [saved]
      exact ⟨_, _, _, _, [], _, _, rfl, by simp, rfl⟩
    | restartBridge =>
      obtain ⟨new, events, restarted, other⟩ := restarts .bridge
        (sendEvent .recoveryCmd .information (recoveryText msg "RESTART_BRIDGE") s)
      exact ⟨_, _, _, _, new, _, _, restarted, other, rfl⟩
    | restartUplink =>
      obtain ⟨new, events, restarted, other⟩ := restarts .uplink
        (sendEvent .recoveryCmd .information (recoveryText msg "RESTART_UPLINK") s)
      exact ⟨_, _, _, _, new, _, _, restarted, other, rfl⟩
    | restartLora =>
      obtain ⟨new, events, restarted, other⟩ := restarts .lora
        (sendEvent .recoveryCmd .information (recoveryText msg "RESTART_LORA") s)
      exact ⟨_, _, _, _, new, _, _, restarted, other, rfl⟩
    | parserReset =>
      obtain ⟨new, sent, other⟩ := commands .parserReset
        (sendEvent .recoveryCmd .information (recoveryText msg "PARSER_RESET") s)
      exact ⟨_, _, _, _, new, _, _, sent, other, rfl⟩
    | serialReconnect =>
      obtain ⟨new, sent, other⟩ := commands .serialReconnect
        (sendEvent .recoveryCmd .information (recoveryText msg "SERIAL_RECONNECT") s)
      exact ⟨_, _, _, _, new, _, _, sent, other, rfl⟩

/-- What a recovery command does to the verdict. -/
theorem processRecoveryCommand_verdict (msg : Uplink.RecoveryCmdTlm) (env : Env) (s : State) :
    published s (processRecoveryCommand msg env s) = [] ∧
      (processRecoveryCommand msg env s).lastHealthState = s.lastHealthState ∧
      (processRecoveryCommand msg env s).nominalEligibleSince = s.nominalEligibleSince ∧
      (processRecoveryCommand msg env s).recoveryStartMs =
        if (Input.recovery msg env).resetsCounter then 0 else s.recoveryStartMs := by
  obtain ⟨startMs, bridge, uplink, lora, new, events, file, recovered, other, timer⟩ :=
    recover_eq msg env { s with
      recoveryRequestedCount := s.recoveryRequestedCount + 1
      cmdCounter := s.cmdCounter + 1 }
  unfold processRecoveryCommand
  dsimp only
  rw [recovered]
  refine ⟨?_, rfl, rfl, ?_⟩
  · have outputs : ∀ tlm, Output.message (.execResult tlm) :: (new ++ s.outputs) =
        (.message (.execResult tlm) :: new) ++ s.outputs := fun tlm => rfl
    apply published_of_other (outputs _)
    intro output mem
    rcases List.mem_cons.mp mem with rfl | mem
    · rfl
    · exact other output mem
  · change startMs = _
    rw [timer]
    simp only [Input.resetsCounter, beq_iff_eq]

/-- An input without an evaluation publishes no health. -/
theorem step_unevaluated {s : State} {input : Input} (evaluates : input.evaluated s = none) :
    published s (step s input) = [] ∧
      (step s input).lastHealthState = s.lastHealthState ∧
      (step s input).nominalEligibleSince = s.nominalEligibleSince ∧
      (step s input).recoveryStartMs =
        if input.resetsCounter then 0 else s.recoveryStartMs := by
  cases input with
  | message message env => cases evaluates
  | noMessage env =>
    have early : tooEarly env.nowMs s = true := by
      by_contra late
      rw [Input.evaluated, if_neg late] at evaluates
      cases evaluates
    have same : step s (.noMessage env) = s := by
      simp [step, servicePrototype, updateHealth, early]
    rw [same]
    exact ⟨published_nil rfl, rfl, rfl, rfl⟩
  | recovery msg env => exact processRecoveryCommand_verdict msg env s
  | reportHousekeeping env =>
    refine ⟨?_, rfl, rfl, rfl⟩
    have outputs : ∀ tlm, Output.message (.housekeeping tlm) :: s.outputs =
        [.message (.housekeeping tlm)] ++ s.outputs := fun tlm => rfl
    exact published_of_other (outputs _) (by simp [Output.isHealth])

/-! ## Runs -/

section

variable (start : State)

/-- An input whose evaluation finds no fault. -/
def FindsNone (before : List Input) (input : Input) : Prop :=
  ∃ s, input.evaluated (run step start before) = some s ∧
    (findings input.env.nowMs s).highest = .none

/-- An input whose evaluation finds a fault. -/
def FindsFault (before : List Input) (input : Input) : Prop :=
  ∃ s, input.evaluated (run step start before) = some s ∧
    (findings input.env.nowMs s).highest ≠ .none

/-- An input whose evaluation finds the bridge timed out. -/
def FindsBridgeOut (before : List Input) (input : Input) : Prop :=
  ∃ s, input.evaluated (run step start before) = some s ∧
    (findings input.env.nowMs s).bridge = true

/-- An input whose evaluation finds the bridge alive, or a reset of the counters. -/
def EndsBridgeOut (before : List Input) (input : Input) : Prop :=
  (∃ s, input.evaluated (run step start before) = some s ∧
    (findings input.env.nowMs s).bridge = false) ∨ input.resetsCounter = true

/-- The health message of an input is sound. -/
def SoundHealth (before : List Input) (input : Input) : Prop :=
  ∀ tlm ∈ published (run step start before) (step (run step start before) input),
    (tlm.healthState = .nominal →
      (run step start before).lastHealthState ≠ HealthState.nominal.code →
        Lasting Input.timeMs (FindsNone start) (FindsFault start) 10000 (before ++ [input])
          input.timeMs) ∧
    (tlm.healthState = .failed →
      Lasting Input.timeMs (FindsBridgeOut start) (EndsBridgeOut start) 30000 (before ++ [input])
        input.timeMs) ∧
    ∃ s, input.evaluated (run step start before) = some s ∧
      tlm.faultCode = (findings input.env.nowMs s).highest

/-- The timers of the verdict show what they measure. -/
structure TimersTrack (inputs : List Input) : Prop where
  stability : Tracks Input.timeMs (FindsNone start) (FindsFault start)
    (run step start inputs).nominalEligibleSince inputs
  recovery : Tracks Input.timeMs (FindsBridgeOut start) (EndsBridgeOut start)
    (run step start inputs).recoveryStartMs inputs

variable {start} {inputs : List Input} {input : Input}

/-- Without a fault, the timer of the stability is started or goes on. -/
theorem TimersTrack.stable {s : State} (track : TimersTrack start inputs)
    (evaluates : input.evaluated (run step start inputs) = some s)
    (clear : (findings input.env.nowMs s).highest = .none) :
    Tracks Input.timeMs (FindsNone start) (FindsFault start)
      (startedAt s.nominalEligibleSince input.env.nowMs) (inputs ++ [input]) := by
  rw [(step_evaluated evaluates).2.nominalEligibleSince]
  apply track.stability.started ⟨s, evaluates, clear⟩
  rintro ⟨s', same, fault⟩
  obtain rfl := Option.some.inj (evaluates.symm.trans same)
  exact fault clear

/-- While the bridge is timed out, the timer of the recovery is started or goes on. -/
theorem TimersTrack.recovering {s : State} (track : TimersTrack start inputs)
    (evaluates : input.evaluated (run step start inputs) = some s)
    (timedOut : (findings input.env.nowMs s).bridge = true) :
    Tracks Input.timeMs (FindsBridgeOut start) (EndsBridgeOut start)
      (startedAt s.recoveryStartMs input.env.nowMs) (inputs ++ [input]) := by
  rw [(step_evaluated evaluates).2.recoveryStartMs]
  apply track.recovery.started ⟨s, evaluates, timedOut⟩
  rintro (⟨s', same, alive⟩ | resets)
  · obtain rfl := Option.some.inj (evaluates.symm.trans same)
    rw [timedOut] at alive
    cases alive
  · cases input with
    | recovery msg env => cases evaluates
    | _ => cases resets

/-- An input leaves the timers right. -/
theorem TimersTrack.snoc (track : TimersTrack start inputs) :
    TimersTrack start (inputs ++ [input]) := by
  cases evaluates : input.evaluated (run step start inputs) with
  | none =>
    have unevaluated : ∀ s, input.evaluated (run step start inputs) ≠ some s := by
      intro s some
      rw [evaluates] at some
      cases some
    obtain ⟨-, -, stability, recovery⟩ := step_unevaluated evaluates
    constructor
    · rw [run_snoc, stability]
      apply track.stability.goesOn
      rintro ⟨s, some, -⟩
      exact unevaluated s some
    · rw [run_snoc, recovery]
      by_cases resets : input.resetsCounter = true
      · rw [if_pos resets]
        exact tracks_zero
      · rw [if_neg resets]
        apply track.recovery.goesOn
        rintro (⟨s, some, -⟩ | reset)
        · exact unevaluated s some
        · exact resets reset
  | some s =>
    obtain ⟨evaluated, keeps⟩ := step_evaluated evaluates
    have evaluation := evaluate_evaluates input.env s
    constructor
    · rw [run_snoc, evaluated, evaluation.nominalEligibleSince]
      by_cases clear : (findings input.env.nowMs s).highest = .none
      · rw [judge_clear clear]
        split
        · exact tracks_zero
        · exact track.stable evaluates clear
      · rw [(judge_faulty clear _ _).1]
        exact tracks_zero
    · rw [run_snoc, evaluated, evaluation.recoveryStartMs, judge_recoveryStartMs]
      by_cases timedOut : (findings input.env.nowMs s).bridge = true
      · rw [if_pos timedOut]
        exact track.recovering evaluates timedOut
      · rw [if_neg timedOut]
        exact tracks_zero

/-- The timers of the verdict are right in every run. -/
theorem timersTrack (restored : Restored) (stateFile : Option (List UInt8))
    (inputs : List Input) : TimersTrack (initialState restored stateFile) inputs := by
  induction inputs using List.reverseRecOn with
  | nil => exact ⟨tracks_zero, tracks_zero⟩
  | append_singleton before input previous => exact previous.snoc

/-- The health messages of a run whose clock does not go back are sound, whatever was restored at
its start and however often its clock wraps. -/
theorem health_sound (restored : Restored) (stateFile : Option (List UInt8))
    (inputs : List Input) (ordered : Ordered Input.timeMs inputs) :
    Each (SoundHealth (initialState restored stateFile)) inputs := by
  intro before input after equal tlm mem
  have track := timersTrack restored stateFile before
  have ordered := ordered.upTo equal
  cases evaluates : input.evaluated (run step (initialState restored stateFile) before) with
  | none =>
    rw [(step_unevaluated evaluates).1] at mem
    cases mem
  | some s =>
    obtain ⟨evaluated, keeps⟩ := step_evaluated evaluates
    obtain ⟨sent, own, health, fault⟩ := (evaluate_evaluates input.env s).published
    rw [published_evaluated evaluates, own, List.mem_singleton] at mem
    rw [mem, health, fault, judge_faultCode]
    refine ⟨?_, ?_, s, rfl, rfl⟩
    · intro nominal other
      rw [← keeps.lastHealthState] at other
      obtain ⟨clear, elapsed⟩ := judge_nominal nominal other
      exact (track.stable evaluates clear).lasting ordered (by decide)
        (UInt32.le_iff_toNat_le.mp elapsed)
    · intro failed
      obtain ⟨timedOut, elapsed⟩ := judge_failed failed
      exact (track.recovering evaluates timedOut).lasting ordered (by decide)
        (UInt32.le_iff_toNat_le.mp elapsed)

end

/-- The bridge is never heard, and the clock wraps meanwhile. -/
def silentBridge : List Input :=
  [.noMessage (Env.at 4294966296), .noMessage (Env.at 4294967400), .noMessage (Env.at 4294996296)]

/-- The health messages of a run in which the system fails are sound. -/
theorem health_sound_silentBridge :
    Each (SoundHealth (initialState Restored.none none)) silentBridge ∧
      (published (initialState Restored.none none)
        (run step (initialState Restored.none none) silentBridge)).map
          SystemHealthTlm.healthState = [.recovery, .recovery, .failed] :=
  ⟨health_sound Restored.none none silentBridge (ordered_of_pairwise (by decide)),
    by decide +kernel⟩

end CfsTelemetry.Core
