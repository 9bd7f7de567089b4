import CfsTelemetry.Core.Acceptance

/-!
# The clock of the flight controller

The times in the messages of the flight controller count from its own start. Two runs that differ
in the moment of that start only are to be judged alike. They are, exactly when the one comparison
of such a time with the clock of the application comes out the same in both for every message
that follows the one before it.
-/
namespace CfsTelemetry.Core

open Run

/-- The message with the time of the flight controller shifted. The state of the estimator bears
the time of the bridge. -/
def StateMessage.shift (offset : UInt32) : StateMessage → StateMessage
  | attitude tlm => attitude { tlm with timestampMs := tlm.timestampMs + offset }
  | ekfLocal tlm => ekfLocal { tlm with timestampMs := tlm.timestampMs + offset }
  | gpsRaw tlm => gpsRaw { tlm with timestampMs := tlm.timestampMs + offset }
  | other => other

/-- The input with the time of the flight controller shifted. -/
def Input.shift (offset : UInt32) : Input → Input
  | message content env => message (content.shift offset) env
  | other => other

/-- The decisions on the state messages of a run. -/
def decisions (start : State) (inputs : List Input) : List Bool :=
  project step (fun s input => input.decision (evidence s)) start inputs

/-- The verdicts that an input publishes. -/
def publishedVerdicts (s : State) (input : Input) : List (HealthState × FaultCode) :=
  (published s (step s input)).map fun tlm => (tlm.healthState, tlm.faultCode)

/-- The verdicts that a run publishes. -/
def verdicts (start : State) (inputs : List Input) : List (HealthState × FaultCode) :=
  project step publishedVerdicts start inputs

/-- Whether the time of a message is as far in the future with the shift as without it, unless the
message does not follow the cached one anyway. -/
def clockFree (offset : UInt32) (s : State) : Input → Bool
  | .message content env =>
    match content.state, (content.shift offset).state with
    | some (stream, msg, _), some (_, shifted, _) =>
      !(s.cache stream).follows msg.seq ||
        isFuture msg.timestampMs env.nowMs == isFuture shifted.timestampMs env.nowMs
    | _, _ => true
  | _ => true

/-- A cache without the time of the flight controller. -/
def StateCache.timeless (cache : StateCache) : StateCache := { cache with timestampMs := 0 }

/-- The evidence without the times of the flight controller. -/
def Evidence.timeless (found : Evidence) : Evidence :=
  { found with cache := fun stream => (found.cache stream).timeless }

/-- States of which the same is found and judged. -/
structure JudgedAlike (s s' : State) : Prop where
  evidence : (evidence s).timeless = (evidence s').timeless
  lastHealthState : s.lastHealthState = s'.lastHealthState
  recoveryStartMs : s.recoveryStartMs = s'.recoveryStartMs
  nominalEligibleSince : s.nominalEligibleSince = s'.nominalEligibleSince
  lastPublishTimeMs : s.lastPublishTimeMs = s'.lastPublishTimeMs

section

variable {s s' : State} {found found' : Evidence}

/-- The same evidence has the same caches. -/
theorem cache_timeless (same : found.timeless = found'.timeless) (stream : Stream) :
    (found.cache stream).timeless = (found'.cache stream).timeless :=
  congrFun (congrArg Evidence.cache same) stream

/-- A sequence number follows a cache whatever its time. -/
theorem follows_timeless {cache cache' : StateCache} (same : cache.timeless = cache'.timeless)
    (seq : UInt32) : cache.follows seq = cache'.follows seq := by
  have timeless : ∀ cache : StateCache, cache.follows seq = cache.timeless.follows seq :=
    fun _ => rfl
  rw [timeless, timeless cache', same]

/-- A stream is timed out whatever the times of the flight controller are. -/
theorem streamTimedOut_timeless (same : (evidence s).timeless = (evidence s').timeless)
    (stream : Stream) (nowMs : UInt32) :
    streamTimedOut stream nowMs s = streamTimedOut stream nowMs s' := by
  have cache : (s.cache stream).timeless = (s'.cache stream).timeless := cache_timeless same stream
  have config : s.activeConfig = s'.activeConfig := congrArg Evidence.activeConfig same
  have judged : ∀ s : State, streamTimedOut stream nowMs s =
      ((s.cache stream).timeless.expired nowMs (s.activeConfig.timeoutMs stream) ||
        (s.cache stream).timeless.valid == 0 || (s.cache stream).timeless.stale != 0) :=
    fun _ => rfl
  rw [judged, judged, cache, config]

/-- The same is timed out whatever the times of the flight controller are. -/
theorem findings_timeless (same : (evidence s).timeless = (evidence s').timeless)
    (nowMs : UInt32) : findings nowMs s = findings nowMs s' := by
  have bridge : s.bridgeState = s'.bridgeState := congrArg Evidence.bridgeState same
  have uplink : s.uplinkAppState = s'.uplinkAppState := congrArg Evidence.uplinkAppState same
  have lora : s.loraAppState = s'.loraAppState := congrArg Evidence.loraAppState same
  have config : s.activeConfig = s'.activeConfig := congrArg Evidence.activeConfig same
  unfold findings bridgeTimedOut
  rw [bridge, uplink, lora, config]
  simp only [streamTimedOut_timeless same]

/-- The verdict on the same findings is the same. -/
theorem judge_congr (lastHealthState : s.lastHealthState = s'.lastHealthState)
    (recoveryStartMs : s.recoveryStartMs = s'.recoveryStartMs)
    (nominalEligibleSince : s.nominalEligibleSince = s'.nominalEligibleSince)
    (found : Findings) (nowMs : UInt32) : judge found nowMs s = judge found nowMs s' := by
  unfold judge
  rw [lastHealthState, recoveryStartMs, nominalEligibleSince]

/-- Evaluations of states that are judged alike pass the same verdict. -/
theorem JudgedAlike.evaluate (alike : JudgedAlike s s') (env : Env) :
    JudgedAlike (evaluate env s) (evaluate env s') ∧
      (published s (evaluate env s)).map (fun tlm => (tlm.healthState, tlm.faultCode)) =
        (published s' (evaluate env s')).map fun tlm => (tlm.healthState, tlm.faultCode) := by
  have first := evaluate_evaluates env s
  have second := evaluate_evaluates env s'
  have found := findings_timeless alike.evidence env.nowMs
  have verdict : judge (findings env.nowMs s) env.nowMs s =
      judge (findings env.nowMs s') env.nowMs s' := by
    rw [found]
    exact judge_congr alike.lastHealthState alike.recoveryStartMs alike.nominalEligibleSince _ _
  constructor
  · constructor
    · rw [first.evidence, second.evidence, alike.evidence]
    · rw [first.lastHealthState, second.lastHealthState, verdict]
    · rw [first.recoveryStartMs, second.recoveryStartMs, verdict]
    · rw [first.nominalEligibleSince, second.nominalEligibleSince, verdict]
    · rw [first.lastPublishTimeMs, second.lastPublishTimeMs]
  · obtain ⟨tlm, sent, health, fault⟩ := first.published
    obtain ⟨tlm', sent', health', fault'⟩ := second.published
    rw [sent, sent', List.map_singleton, List.map_singleton, health, fault, health', fault',
      verdict]

/-! ## Messages with another time -/

/-- The same cache of a stream leaves the same evidence. -/
theorem setCache_timeless (same : found.timeless = found'.timeless) {cache cache' : StateCache}
    (caches : cache.timeless = cache'.timeless) (stream : Stream) :
    (found.setCache stream cache).timeless = (found'.setCache stream cache').timeless := by
  have cached : ∀ (found : Evidence) (cache : StateCache),
      (found.setCache stream cache).timeless = { found.timeless with
        cache := Function.update found.timeless.cache stream cache.timeless } := by
    intro found cache
    unfold Evidence.setCache Evidence.timeless
    congr 1
    funext other
    by_cases own : other = stream
    · simp [own]
    · simp [own]
  rw [cached, cached, same, caches]

/-- A message with another time that is decided alike leaves the same cache. -/
theorem take_timeless {cache cache' : StateCache} (same : cache.timeless = cache'.timeless)
    (msg : Bridge.FcStatePrefix) (timestampMs nowMs : UInt32) (finite : Bool)
    (decided : cache.accepts msg nowMs =
      cache'.accepts { msg with timestampMs := timestampMs } nowMs) :
    ((cache.take msg nowMs).check finite).timeless =
      ((cache'.take { msg with timestampMs := timestampMs } nowMs).check finite).timeless := by
  have checked : ∀ cache : StateCache,
      (cache.check finite).timeless = cache.timeless.check finite := by
    intro cache
    unfold StateCache.check
    split <;> rfl
  rw [checked, checked]
  congr 1
  unfold StateCache.take
  rw [decided]
  split
  · rfl
  · exact same

/-- The decision on a message does not depend on the times of the cached messages. -/
theorem accepts_timeless {cache cache' : StateCache} (same : cache.timeless = cache'.timeless)
    (msg : Bridge.FcStatePrefix) (nowMs : UInt32) :
    cache.accepts msg nowMs = cache'.accepts msg nowMs := by
  rw [StateCache.accepts, StateCache.accepts, follows_timeless same]

/-- A message that is decided alike with the shift leaves the same evidence. -/
theorem after_timeless (same : found.timeless = found'.timeless) {input : Input} {offset : UInt32}
    (decided : input.decision found = (input.shift offset).decision found') :
    (found.after input).timeless = (found'.after (input.shift offset)).timeless := by
  have taken : ∀ (stream : Stream) (msg : Bridge.FcStatePrefix) (timestampMs nowMs : UInt32)
      (finite : Bool), (found.cache stream).accepts msg nowMs =
        (found'.cache stream).accepts { msg with timestampMs := timestampMs } nowMs →
      (found.setCache stream (((found.cache stream).take msg nowMs).check finite)).timeless =
        (found'.setCache stream (((found'.cache stream).take
          { msg with timestampMs := timestampMs } nowMs).check finite)).timeless := by
    intro stream msg timestampMs nowMs finite decided
    apply setCache_timeless same
    exact take_timeless (cache_timeless same stream) msg timestampMs nowMs finite decided
  cases input with
  | message content env =>
    cases content with
    | attitude tlm =>
      exact taken .attitude tlm.toFcStatePrefix _ env.nowMs _ (List.head_eq_of_cons_eq decided)
    | ekfLocal tlm =>
      exact taken .ekfLocal tlm.toFcStatePrefix _ env.nowMs _ (List.head_eq_of_cons_eq decided)
    | gpsRaw tlm =>
      exact taken .gpsRaw tlm.toFcStatePrefix _ env.nowMs _ (List.head_eq_of_cons_eq decided)
    | ekfStatus tlm =>
      exact taken .ekfStatus tlm.toFcStatePrefix _ env.nowMs _ (List.head_eq_of_cons_eq decided)
    | bridgeHk tlm =>
      exact congrArg (fun found : Evidence => { found with bridgeState := ⟨tlm.linkState,
        tlm.lastErrorCode, tlm.lastRxTimestampMs, true⟩ }) same
    | uplinkHk =>
      exact congrArg (fun found : Evidence => { found with uplinkAppState := ⟨env.nowMs, true⟩ })
        same
    | loraHk =>
      exact congrArg (fun found : Evidence => { found with loraAppState := ⟨env.nowMs, true⟩ })
        same
    | missionReadback msg => exact same
    | routeUpdate msg => exact same
  | _ => exact same

/-- A message is decided alike with the shift when its time is as far in the future, or it does
not follow the cached one. -/
theorem decision_shift (same : (evidence s).timeless = (evidence s').timeless) (input : Input)
    (offset : UInt32) :
    input.decision (evidence s) = (input.shift offset).decision (evidence s') ↔
      clockFree offset s input = true := by
  have decided : ∀ (stream : Stream) (msg shifted : Bridge.FcStatePrefix) (nowMs : UInt32),
      shifted.seq = msg.seq →
      ([((evidence s).cache stream).accepts msg nowMs] =
          [((evidence s').cache stream).accepts shifted nowMs] ↔
        (!(s.cache stream).follows msg.seq ||
          isFuture msg.timestampMs nowMs == isFuture shifted.timestampMs nowMs) = true) := by
    intro stream msg shifted nowMs number
    have follows := follows_timeless (cache_timeless same stream) msg.seq
    change (s.cache stream).follows msg.seq = _ at follows
    rw [← accepts_timeless (cache_timeless same stream)]
    unfold StateCache.accepts
    rw [number]
    change [_ && (s.cache stream).follows msg.seq] = [_ && (s.cache stream).follows msg.seq] ↔ _
    cases (s.cache stream).follows msg.seq with
    | false => simp
    | true => simp
  cases input with
  | message content env =>
    cases content with
    | attitude tlm => exact decided .attitude tlm.toFcStatePrefix _ env.nowMs rfl
    | ekfLocal tlm => exact decided .ekfLocal tlm.toFcStatePrefix _ env.nowMs rfl
    | gpsRaw tlm => exact decided .gpsRaw tlm.toFcStatePrefix _ env.nowMs rfl
    | ekfStatus tlm => exact decided .ekfStatus tlm.toFcStatePrefix _ env.nowMs rfl
    | _ => exact ⟨fun _ => rfl, fun _ => rfl⟩
  | _ => exact ⟨fun _ => rfl, fun _ => rfl⟩

end

section

variable {s s' : State} {offset : UInt32}

/-- An input with the shift evaluates when the input does. -/
theorem JudgedAlike.evaluated (alike : JudgedAlike s s') {input : Input}
    (decided : input.decision (Core.evidence s) =
      (input.shift offset).decision (Core.evidence s')) :
    (input.evaluated s = none ∧ (input.shift offset).evaluated s' = none) ∨
      ∃ t t', input.evaluated s = some t ∧ (input.shift offset).evaluated s' = some t' ∧
        JudgedAlike t t' := by
  have after := after_timeless alike.evidence decided
  have judged : ∀ {t t'}, input.evaluated s = some t →
      (input.shift offset).evaluated s' = some t' → JudgedAlike t t' := by
    intro t t' first second
    have keeps := (step_evaluated first).2
    have keeps' := (step_evaluated second).2
    constructor
    · rw [evaluated_evidence first, evaluated_evidence second, after]
    · rw [keeps.lastHealthState, keeps'.lastHealthState, alike.lastHealthState]
    · rw [keeps.recoveryStartMs, keeps'.recoveryStartMs, alike.recoveryStartMs]
    · rw [keeps.nominalEligibleSince, keeps'.nominalEligibleSince, alike.nominalEligibleSince]
    · rw [keeps.lastPublishTimeMs, keeps'.lastPublishTimeMs, alike.lastPublishTimeMs]
  cases input with
  | message content env => exact .inr ⟨_, _, rfl, rfl, judged rfl rfl⟩
  | noMessage env =>
    have config : s.activeConfig = s'.activeConfig :=
      congrArg Evidence.activeConfig alike.evidence
    have early : tooEarly env.nowMs s = tooEarly env.nowMs s' := by
      rw [tooEarly, tooEarly, alike.lastPublishTimeMs, config]
    cases wait : tooEarly env.nowMs s' with
    | true =>
      rw [wait] at early
      have first : Input.evaluated s (.noMessage env) = none := by
        rw [Input.evaluated, if_pos early]
      have second : Input.evaluated s' (.noMessage env) = none := by
        rw [Input.evaluated, if_pos wait]
      exact .inl ⟨first, second⟩
    | false =>
      rw [wait] at early
      have first : Input.evaluated s (.noMessage env) = some s := by
        rw [Input.evaluated, if_neg (by rw [early]; decide)]
      have second : Input.evaluated s' (.noMessage env) = some s' := by
        rw [Input.evaluated, if_neg (by rw [wait]; decide)]
      exact .inr ⟨s, s', first, second, judged first second⟩
  | recovery msg env => exact .inl ⟨rfl, rfl⟩
  | reportHousekeeping env => exact .inl ⟨rfl, rfl⟩

/-- An input that is decided alike with the shift is judged alike. -/
theorem JudgedAlike.next (alike : JudgedAlike s s') {input : Input}
    (decided : input.decision (Core.evidence s) =
      (input.shift offset).decision (Core.evidence s')) :
    JudgedAlike (step s input) (step s' (input.shift offset)) ∧
      publishedVerdicts s input = publishedVerdicts s' (input.shift offset) := by
  have env : (input.shift offset).env = input.env := by cases input <;> rfl
  have resets : (input.shift offset).resetsCounter = input.resetsCounter := by cases input <;> rfl
  rcases alike.evaluated decided with ⟨first, second⟩ | ⟨t, t', first, second, judged⟩
  · obtain ⟨sent, health, stability, recovery⟩ := step_unevaluated first
    obtain ⟨sent', health', stability', recovery'⟩ := step_unevaluated second
    constructor
    · constructor
      · rw [step_evidence, step_evidence]
        exact after_timeless alike.evidence decided
      · rw [health, health', alike.lastHealthState]
      · rw [recovery, recovery', resets, alike.recoveryStartMs]
      · rw [stability, stability', alike.nominalEligibleSince]
      · rw [unevaluated_lastPublishTimeMs first, unevaluated_lastPublishTimeMs second,
          alike.lastPublishTimeMs]
    · rw [publishedVerdicts, publishedVerdicts, sent, sent']
  · obtain ⟨next, same⟩ := judged.evaluate input.env
    constructor
    · rw [(step_evaluated first).1, (step_evaluated second).1, env]
      exact next
    · rw [publishedVerdicts, publishedVerdicts, published_evaluated first,
        published_evaluated second, env]
      exact same

end

section

variable {start : State} {offset : UInt32} {inputs : List Input} {input : Input}

/-- The decisions of a run with one more input. -/
theorem decisions_snoc : decisions start (inputs ++ [input]) =
    decisions start inputs ++ input.decision (evidence (run step start inputs)) :=
  project_snoc _ start inputs input

/-- The verdicts of a run with one more input. -/
theorem verdicts_snoc : verdicts start (inputs ++ [input]) =
    verdicts start inputs ++ publishedVerdicts (run step start inputs) input :=
  project_snoc _ start inputs input

/-- The shift of a run with one more input. -/
theorem map_shift_snoc : (inputs ++ [input]).map (Input.shift offset) =
    inputs.map (Input.shift offset) ++ [input.shift offset] := by
  simp

/-- Runs of which every message is decided alike are judged alike. -/
theorem judgedAlike_run (start : State) (offset : UInt32) (inputs : List Input) :
    Each (fun before input => clockFree offset (run step start before) input = true) inputs →
      JudgedAlike (run step start inputs) (run step start (inputs.map (Input.shift offset))) ∧
        decisions start inputs = decisions start (inputs.map (Input.shift offset)) ∧
        verdicts start inputs = verdicts start (inputs.map (Input.shift offset)) := by
  apply history_induction
  · exact ⟨⟨rfl, rfl, rfl, rfl, rfl⟩, rfl, rfl⟩
  · rintro before input ⟨alike, decided, judged⟩ free
    have own := (decision_shift alike.evidence input offset).mpr free
    obtain ⟨next, same⟩ := alike.next own
    rw [map_shift_snoc, run_snoc, run_snoc, decisions_snoc, decisions_snoc, verdicts_snoc,
      verdicts_snoc, decided, own, judged, same]
    exact ⟨next, rfl, rfl⟩

/-- As many messages are decided on with the shift as without it. -/
theorem decision_length (input : Input) (offset : UInt32) (found found' : Evidence) :
    (input.decision found).length = ((input.shift offset).decision found').length := by
  cases input with
  | message content env => cases content <;> rfl
  | _ => rfl

/-- Only runs of which every message is decided alike make the same decisions. -/
theorem clockFree_of_decisions (start : State) (offset : UInt32) (inputs : List Input)
    (same : decisions start inputs = decisions start (inputs.map (Input.shift offset))) :
    Each (fun before input => clockFree offset (run step start before) input = true) inputs := by
  induction inputs using List.reverseRecOn with
  | nil => exact each_nil
  | append_singleton before input previous =>
    rw [map_shift_snoc, decisions_snoc, decisions_snoc] at same
    obtain ⟨earlier, own⟩ := List.append_inj' same (decision_length input offset _ _)
    have free := previous earlier
    have alike := (judgedAlike_run start offset before free).1
    rw [each_snoc]
    exact ⟨free, (decision_shift alike.evidence input offset).mp own⟩

/-- A run makes the same decisions and publishes the same verdicts whenever the flight controller
was started, exactly when the time of each message that follows the one before it is as far in the
future with the other start. The test for the future sets the clock of the flight controller
against the one of the companion, where the others compare readings of one clock. -/
theorem clockBase_free_iff (restored : Restored) (stateFile : Option (List UInt8))
    (offset : UInt32) (inputs : List Input) :
    (decisions (initialState restored stateFile) inputs =
        decisions (initialState restored stateFile) (inputs.map (Input.shift offset)) ∧
      verdicts (initialState restored stateFile) inputs =
        verdicts (initialState restored stateFile) (inputs.map (Input.shift offset))) ↔
    Each (fun before input => clockFree offset
      (run step (initialState restored stateFile) before) input = true) inputs := by
  constructor
  · rintro ⟨decided, -⟩
    exact clockFree_of_decisions _ offset inputs decided
  · intro free
    exact (judgedAlike_run _ offset inputs free).2

end

/-- Bridge and estimator are heard of, then a position and an attitude of a flight controller that
was started a second before. -/
def earlyMessages : List Input :=
  [.message (.bridgeHk ⟨0, 0, 2, 0, 0, 0, 0, 0, 100000, 0, 0, 0, 0, 0⟩) (Env.at 100000),
    .message (.ekfStatus ⟨⟨100000, 1, 1, 0, 0⟩, 1⟩) (Env.at 100000),
    .message (.ekfLocal ⟨⟨1000, 2, 1, 0, 0⟩, 0, 0, 0, 0, 0, 0⟩) (Env.at 100000),
    .message (.attitude ⟨⟨1000, 3, 1, 0, 0⟩, 0, 0, 0, 0, 0, 0⟩) (Env.at 100000)]

/-- The messages of a flight controller that was started long before the companion are refused and
reported missing. -/
theorem clockBase_matters :
    decisions (initialState Restored.none none) earlyMessages = [true, true, true] ∧
    decisions (initialState Restored.none none) (earlyMessages.map (Input.shift 200000)) =
      [true, false, false] ∧
    verdicts (initialState Restored.none none) earlyMessages ≠
      verdicts (initialState Restored.none none) (earlyMessages.map (Input.shift 200000)) := by
  decide +kernel

end CfsTelemetry.Core
