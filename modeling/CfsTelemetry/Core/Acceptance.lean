import Mathlib.Logic.Function.Basic
import CfsTelemetry.Core.Soundness

/-!
# Acceptance of state messages

What a message does to the evidence that evaluations find their faults in: a state message is
taken into the cache of its stream or refused, and a value in it that is not a number marks the
cache as invalid either way.
-/
namespace CfsTelemetry.Core

open Run

/-- The cache of an accepted message. -/
def StateCache.ofMessage (msg : Bridge.FcStatePrefix) (nowMs : UInt32) : StateCache where
  timestampMs := msg.timestampMs
  arrivalMs := nowMs
  seq := msg.seq
  valid := msg.valid
  stale := msg.stale
  errorCode := msg.errorCode
  received := true

/-- The cache after a message, which is refused when it does not follow the one before it. -/
def StateCache.take (cache : StateCache) (msg : Bridge.FcStatePrefix) (nowMs : UInt32) :
    StateCache :=
  if cache.accepts msg nowMs then .ofMessage msg nowMs else cache

/-- The cache, invalid when the last message had a value that is not a number. -/
def StateCache.check (cache : StateCache) (finite : Bool) : StateCache :=
  if finite then cache else { cache with valid := 0 }

/-- The stream of a state message of the flight controller, with its prefix and whether its numbers
are finite. -/
def StateMessage.state : StateMessage → Option (Stream × Bridge.FcStatePrefix × Bool)
  | .attitude tlm => some (.attitude, tlm.toFcStatePrefix, attitudeFieldsFinite tlm)
  | .ekfLocal tlm => some (.ekfLocal, tlm.toFcStatePrefix, ekfLocalFieldsFinite tlm)
  | .gpsRaw tlm => some (.gpsRaw, tlm.toFcStatePrefix, true)
  | .ekfStatus tlm => some (.ekfStatus, tlm.toFcStatePrefix, true)
  | _ => none

/-- The evidence with a new cache of a stream. -/
def Evidence.setCache (found : Evidence) (stream : Stream) (cache : StateCache) : Evidence :=
  { found with cache := Function.update found.cache stream cache }

/-- The evidence after a message. -/
def Evidence.take (found : Evidence) (message : StateMessage) (nowMs : UInt32) : Evidence :=
  match message.state with
  | some (stream, msg, finite) =>
    found.setCache stream (((found.cache stream).take msg nowMs).check finite)
  | none =>
    match message with
    | .bridgeHk tlm => { found with bridgeState := {
        linkState := tlm.linkState
        lastErrorCode := tlm.lastErrorCode
        lastRxTimestampMs := tlm.lastRxTimestampMs
        received := true } }
    | .uplinkHk => { found with uplinkAppState := ⟨nowMs, true⟩ }
    | .loraHk => { found with loraAppState := ⟨nowMs, true⟩ }
    | _ => found

/-- The decision on a message: whether it is accepted, when it is a state message. -/
def Evidence.decision (found : Evidence) (message : StateMessage) (nowMs : UInt32) : List Bool :=
  match message.state with
  | some (stream, msg, _) => [(found.cache stream).accepts msg nowMs]
  | none => []

/-- The decision on the message of an input. -/
def Input.decision (found : Evidence) : Input → List Bool
  | message content env => found.decision content env.nowMs
  | _ => []

/-- The evidence after an input. -/
def Evidence.after (found : Evidence) : Input → Evidence
  | .message message env => found.take message env.nowMs
  | _ => found

/-- A cache that is replaced. -/
theorem evidence_setCache (s : State) (stream : Stream) (cache : StateCache) :
    evidence (s.setCache stream cache) = (evidence s).setCache stream cache := by
  unfold evidence Evidence.setCache
  have caches : (s.setCache stream cache).cache = Function.update s.cache stream cache := by
    funext other
    cases stream <;> cases other <;> rfl
  rw [caches]
  cases stream <;> rfl

/-- A time base shift is no evidence. -/
theorem noteTimebaseShift_evidence (cache : StateCache) (msg : Bridge.FcStatePrefix) (s : State) :
    evidence (noteTimebaseShift cache msg s) = evidence s := by
  unfold noteTimebaseShift
  split <;> rfl

/-- A replaced cache that is the same is no change. -/
@[simp] theorem Evidence.setCache_self (found : Evidence) (stream : Stream) :
    found.setCache stream (found.cache stream) = found := by
  unfold setCache
  rw [Function.update_eq_self]

/-- A message that is too far in the future or does not follow the cached one is refused. -/
theorem StateCache.take_refused {cache : StateCache} {msg : Bridge.FcStatePrefix} {nowMs : UInt32}
    (refused : isFuture msg.timestampMs nowMs = true ∨
      (cache.received = true ∧ msg.seq ≤ cache.seq)) :
    cache.take msg nowMs = cache := by
  rw [take, if_neg]
  unfold accepts follows
  rcases refused with future | ⟨received, old⟩
  · simp [future]
  · simp [received, UInt32.not_lt.mpr old]

/-- A message that is not too far in the future and follows the cached one is accepted. -/
theorem StateCache.take_accepted {cache : StateCache} {msg : Bridge.FcStatePrefix} {nowMs : UInt32}
    (present : isFuture msg.timestampMs nowMs ≠ true)
    (next : cache.received = true → cache.seq < msg.seq) :
    cache.take msg nowMs = .ofMessage msg nowMs := by
  rw [take, if_pos]
  unfold accepts follows
  cases received : cache.received with
  | true => simp [present, next received]
  | false => simp [present]

/-- A replaced cache is the new one. -/
@[simp] theorem Evidence.setCache_cache (found : Evidence) (stream : Stream) (cache : StateCache) :
    (found.setCache stream cache).cache stream = cache :=
  Function.update_self ..

/-- The other caches stay. -/
theorem Evidence.setCache_cache_ne (found : Evidence) {stream other : Stream}
    (ne : other ≠ stream) (cache : StateCache) :
    (found.setCache stream cache).cache other = found.cache other :=
  Function.update_of_ne ne ..

/-- The evidence after a state message. -/
theorem updateStateCache_evidence (stream : Stream) (msg : Bridge.FcStatePrefix) (nowMs : UInt32)
    (s : State) :
    evidence (updateStateCache stream msg nowMs s) =
      (evidence s).setCache stream ((s.cache stream).take msg nowMs) := by
  have same : (evidence s).setCache stream (s.cache stream) = evidence s :=
    Evidence.setCache_self (evidence s) stream
  have noted := noteTimebaseShift_evidence (s.cache stream) msg s
  unfold updateStateCache
  dsimp only
  split
  · rename_i future
    rw [StateCache.take_refused (.inl future), same]
    rfl
  · rename_i present
    split
    · rename_i duplicate
      rw [StateCache.take_refused (.inr ⟨duplicate.1, UInt32.le_of_eq duplicate.2⟩), same]
      exact noted
    · rename_i distinct
      split
      · rename_i regressed
        rw [StateCache.take_refused (.inr ⟨regressed.1, UInt32.le_of_lt regressed.2⟩), same]
        exact noted
      · rename_i newer
        have next : (s.cache stream).received = true → (s.cache stream).seq < msg.seq := by
          intro received
          have notLess : ¬ msg.seq < (s.cache stream).seq := fun less => newer ⟨received, less⟩
          have notEqual : msg.seq ≠ (s.cache stream).seq := fun equal => distinct ⟨received, equal⟩
          exact UInt32.lt_of_le_of_ne (UInt32.not_lt.mp notLess) (Ne.symm notEqual)
        rw [evidence_setCache, StateCache.take_accepted present next]
        split
        · exact congrArg (fun found => Evidence.setCache found stream _) noted
        · rw [noted]
          rfl

/-- The evidence after a message with a value that is not a number. -/
theorem markNonFinite_evidence (stream : Stream) (name : String) (s : State) :
    evidence (markNonFinite stream name s) =
      (evidence s).setCache stream { s.cache stream with valid := 0 } :=
  evidence_setCache s stream _

/-- The evidence after a cached message. -/
theorem cacheMessage_evidence (message : StateMessage) (nowMs : UInt32) (s : State) :
    evidence (cacheMessage message nowMs s) = (evidence s).take message nowMs := by
  have checked : ∀ (stream : Stream) (msg : Bridge.FcStatePrefix) (finite : Bool) (name : String),
      evidence (if finite then updateStateCache stream msg nowMs s
        else markNonFinite stream name (updateStateCache stream msg nowMs s)) =
      (evidence s).setCache stream (((s.cache stream).take msg nowMs).check finite) := by
    intro stream msg finite name
    have updated := updateStateCache_evidence stream msg nowMs s
    cases finite with
    | true => exact updated
    | false =>
      have cached : (updateStateCache stream msg nowMs s).cache stream =
          (s.cache stream).take msg nowMs := by
        change (evidence (updateStateCache stream msg nowMs s)).cache stream = _
        rw [updated, Evidence.setCache_cache]
      rw [if_neg (by decide), markNonFinite_evidence, cached, updated]
      unfold Evidence.setCache
      rw [Function.update_idem]
      rfl
  cases message with
  | attitude tlm => exact checked .attitude _ _ _
  | ekfLocal tlm => exact checked .ekfLocal _ _ _
  | gpsRaw tlm => exact updateStateCache_evidence .gpsRaw _ nowMs s
  | ekfStatus tlm => exact updateStateCache_evidence .ekfStatus _ nowMs s
  | routeUpdate msg =>
    unfold cacheMessage
    dsimp only
    split <;> rfl
  | _ => rfl

/-- A recovery command changes neither the evidence nor the time of the last evaluation. -/
theorem processRecoveryCommand_evidence (msg : Uplink.RecoveryCmdTlm) (env : Env) (s : State) :
    evidence (processRecoveryCommand msg env s) = evidence s ∧
      (processRecoveryCommand msg env s).lastPublishTimeMs = s.lastPublishTimeMs := by
  obtain ⟨startMs, bridge, uplink, lora, new, events, file, recovered, -, -⟩ :=
    recover_eq msg env { s with
      recoveryRequestedCount := s.recoveryRequestedCount + 1
      cmdCounter := s.cmdCounter + 1 }
  unfold processRecoveryCommand
  dsimp only
  rw [recovered]
  exact ⟨rfl, rfl⟩

/-- The evidence after a step is the evidence that the step evaluates, when it does. -/
theorem step_evidence (s : State) (input : Input) :
    evidence (step s input) = (evidence s).after input := by
  cases input with
  | message message env =>
    rw [Evidence.after, ← cacheMessage_evidence]
    exact (evaluate_evaluates env (cacheMessage message env.nowMs s)).evidence
  | noMessage env =>
    change evidence (updateHealth false env s) = evidence s
    unfold updateHealth
    split
    · rfl
    · exact (evaluate_evaluates env s).evidence
  | recovery msg env => exact (processRecoveryCommand_evidence msg env s).1
  | reportHousekeeping env => rfl

/-- The evidence that an evaluation finds its faults in. -/
theorem evaluated_evidence {s s' : State} {input : Input}
    (evaluates : input.evaluated s = some s') : evidence s' = (evidence s).after input := by
  rw [← step_evidence, (step_evaluated evaluates).1]
  exact (evaluate_evaluates input.env s').evidence.symm

/-- An input without an evaluation leaves the time of the last one. -/
theorem unevaluated_lastPublishTimeMs {s : State} {input : Input}
    (evaluates : input.evaluated s = none) :
    (step s input).lastPublishTimeMs = s.lastPublishTimeMs := by
  cases input with
  | message message env => cases evaluates
  | noMessage env =>
    change (updateHealth false env s).lastPublishTimeMs = _
    have early : tooEarly env.nowMs s = true := by
      by_contra late
      rw [Input.evaluated, if_neg late] at evaluates
      cases evaluates
    simp [updateHealth, early]
  | recovery msg env => exact (processRecoveryCommand_evidence msg env s).2
  | reportHousekeeping env => rfl

end CfsTelemetry.Core
