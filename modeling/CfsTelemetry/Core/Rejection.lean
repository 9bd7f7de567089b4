import CfsTelemetry.Core.BridgeRestart

/-!
# Rejected state messages

A state message that is too far in the future or does not follow the cached one is refused, and
is to leave the cached one alone. The check of its numbers is made behind the acceptance and
knows nothing of it, so a refused attitude or local position with a number that is not finite
marks the cached message invalid. What is marked valid is always an accepted message with finite
numbers.
-/
namespace CfsTelemetry.Core

open Run

/-- A message that `updateStateCache` rejects: its time is too far in the future, or its number
is the cached one or below it. -/
def Rejected (cache : StateCache) (msg : Bridge.FcStatePrefix) (nowMs : UInt32) : Prop :=
  isFuture msg.timestampMs nowMs = true ∨ (cache.received = true ∧ msg.seq ≤ cache.seq)

/-- A message is rejected when it is not accepted. -/
theorem rejected_iff {cache : StateCache} {msg : Bridge.FcStatePrefix} {nowMs : UInt32} :
    Rejected cache msg nowMs ↔ cache.accepts msg nowMs = false := by
  unfold Rejected StateCache.accepts StateCache.follows
  cases isFuture msg.timestampMs nowMs <;> cases cache.received <;> simp

/-- The cache of a stream after a step. -/
theorem step_cache_of_state {content : StateMessage} {stream : Stream}
    {msg : Bridge.FcStatePrefix} {finite : Bool}
    (state : content.state = some (stream, msg, finite)) (env : Env) (s : State) :
    (step s (.message content env)).cache stream =
      ((s.cache stream).take msg env.nowMs).check finite := by
  have found := congrArg (Evidence.cache · stream) (step_evidence s (.message content env))
  simp only [Evidence.after, Evidence.take, state, Evidence.setCache_cache] at found
  exact found

/-- The caches of the other streams stay. -/
theorem step_cache_of_ne {content : StateMessage} {stream other : Stream}
    {msg : Bridge.FcStatePrefix} {finite : Bool} (state : content.state = some (other, msg, finite))
    (ne : stream ≠ other) (env : Env) (s : State) :
    (step s (.message content env)).cache stream = s.cache stream := by
  have found := congrArg (Evidence.cache · stream) (step_evidence s (.message content env))
  simp only [Evidence.after, Evidence.take, state, Evidence.setCache_cache_ne _ ne] at found
  exact found

/-- A cache stays as it is under the check of a message exactly if the numbers of the message are
finite or the cache is already invalid. -/
theorem StateCache.check_eq_self {cache : StateCache} {finite : Bool} :
    cache.check finite = cache ↔ finite = true ∨ cache.valid = 0 := by
  cases finite with
  | true => simp [check]
  | false =>
    simp only [check, Bool.false_eq_true, if_false, false_or]
    constructor
    · intro same
      rw [← same]
    · intro invalid
      rw [← invalid]

/-- A rejected message leaves the cache alone exactly if its numbers are finite or the cache is
already invalid. -/
theorem rejected_keeps_iff {content : StateMessage} {stream : Stream}
    {msg : Bridge.FcStatePrefix} {finite : Bool} {env : Env} {s : State}
    (state : content.state = some (stream, msg, finite))
    (rejected : Rejected (s.cache stream) msg env.nowMs) :
    (step s (.message content env)).cache stream = s.cache stream ↔
      finite = true ∨ (s.cache stream).valid = 0 := by
  rw [step_cache_of_state state, StateCache.take_refused rejected, StateCache.check_eq_self]

/-- The state message that an input has accepted into the cache of a stream, and its arrival. -/
def Input.taken (stream : Stream) (s : State) : Input → List (StateMessage × UInt32)
  | message content env =>
    match content.state with
    | some (other, msg, _) =>
      if other = stream ∧ (s.cache stream).accepts msg env.nowMs then [(content, env.nowMs)] else []
    | none => []
  | _ => []

/-- The state messages accepted into the cache of a stream along a run, in order. -/
def takenMessages (stream : Stream) (start : State) (inputs : List Input) :
    List (StateMessage × UInt32) :=
  project step (fun s input => input.taken stream s) start inputs

/-- A cache that is not marked valid, or holds the message accepted last, whose numbers are
finite. -/
def ValidOnlyFinite (stream : Stream) (cache : StateCache)
    (taken : List (StateMessage × UInt32)) : Prop :=
  cache.valid ≠ 0 → ∃ content nowMs msg, taken.getLast? = some (content, nowMs) ∧
    content.state = some (stream, msg, true) ∧ cache = .ofMessage msg nowMs

/-- A step that leaves the cache of a stream and accepts nothing into it keeps it. -/
theorem ValidOnlyFinite.same {stream : Stream} {cache cache' : StateCache}
    {taken : List (StateMessage × UInt32)} (holds : ValidOnlyFinite stream cache taken)
    (same : cache' = cache) : ValidOnlyFinite stream cache' (taken ++ []) := by
  rw [same, List.append_nil]
  exact holds

/-- Every step keeps what is marked valid to accepted messages with finite numbers. -/
theorem step_validOnlyFinite (stream : Stream) (s : State) (input : Input)
    {taken : List (StateMessage × UInt32)} (holds : ValidOnlyFinite stream (s.cache stream) taken) :
    ValidOnlyFinite stream ((step s input).cache stream) (taken ++ input.taken stream s) := by
  have kept (bare : (evidence s).after input = evidence s) :
      (step s input).cache stream = s.cache stream := by
    have found := congrArg (Evidence.cache · stream) (step_evidence s input)
    rw [bare] at found
    exact found
  cases input with
  | noMessage env => exact holds.same (kept rfl)
  | recovery msg env => exact holds.same (kept rfl)
  | reportHousekeeping env => exact holds.same (kept rfl)
  | message content env =>
    cases state : content.state with
    | none =>
      have cache : (step s (.message content env)).cache stream = s.cache stream := by
        have found := congrArg (Evidence.cache · stream) (step_evidence s (.message content env))
        simp only [Evidence.after, Evidence.take, state] at found
        refine found.trans ?_
        cases content <;> rfl
      have bare : (Input.message content env).taken stream s = [] := by
        simp only [Input.taken, state]
      rw [bare]
      exact holds.same cache
    | some read =>
      obtain ⟨other, msg, finite⟩ := read
      by_cases own : other = stream
      · subst own
        have cache := step_cache_of_state state env s
        cases accepted : (s.cache other).accepts msg env.nowMs with
        | true =>
          have here : (Input.message content env).taken other s = [(content, env.nowMs)] := by
            simp [Input.taken, state, accepted]
          have stored : (s.cache other).take msg env.nowMs = .ofMessage msg env.nowMs :=
            if_pos accepted
          rw [cache, here, stored]
          intro valid
          cases finite with
          | false => exact absurd rfl valid
          | true => exact ⟨content, env.nowMs, msg, by simp, state, rfl⟩
        | false =>
          have here : (Input.message content env).taken other s = [] := by
            simp [Input.taken, state, accepted]
          rw [StateCache.take_refused (rejected_iff.mpr accepted)] at cache
          rw [here]
          cases finite with
          | true => exact holds.same cache
          | false =>
            rw [cache]
            exact fun valid => absurd rfl valid
      · have here : (Input.message content env).taken stream s = [] := by
          simp [Input.taken, state, own]
        rw [here]
        exact holds.same (step_cache_of_ne state (Ne.symm own) env s)

/-- Along every run what is marked valid is an accepted message with finite numbers. -/
theorem run_validOnlyFinite (stream : Stream) (restored : Restored)
    (stateFile : Option (List UInt8)) (inputs : List Input) :
    ValidOnlyFinite stream ((run step (initialState restored stateFile) inputs).cache stream)
      (takenMessages stream (initialState restored stateFile) inputs) := by
  induction inputs using List.reverseRecOn with
  | nil =>
    intro valid
    cases stream <;> exact absurd rfl valid
  | append_singleton before input previous =>
    have taken : takenMessages stream (initialState restored stateFile) (before ++ [input]) =
        takenMessages stream (initialState restored stateFile) before ++
          input.taken stream (run step (initialState restored stateFile) before) :=
      project_snoc ..
    rw [run_snoc, taken]
    exact step_validOnlyFinite stream _ input previous

/-- An attitude that is marked valid is the one accepted last, with all six numbers finite. -/
theorem attitude_valid_finite (restored : Restored) (stateFile : Option (List UInt8))
    (inputs : List Input)
    (valid : (run step (initialState restored stateFile) inputs).attitudeState.valid ≠ 0) :
    ∃ tlm nowMs, (takenMessages .attitude (initialState restored stateFile) inputs).getLast? =
        some (.attitude tlm, nowMs) ∧ attitudeFieldsFinite tlm = true ∧
      (run step (initialState restored stateFile) inputs).attitudeState =
        .ofMessage tlm.toFcStatePrefix nowMs := by
  have ⟨content, nowMs, msg, last, state, cache⟩ :=
    run_validOnlyFinite .attitude restored stateFile inputs valid
  cases content with
  | attitude tlm =>
    simp only [StateMessage.state, Option.some.injEq, Prod.mk.injEq, true_and] at state
    rw [← state.1] at cache
    exact ⟨tlm, nowMs, last, state.2, cache⟩
  | _ => cases state

/-- A local position that is marked valid is the one accepted last, with all six numbers
finite. -/
theorem ekfLocal_valid_finite (restored : Restored) (stateFile : Option (List UInt8))
    (inputs : List Input)
    (valid : (run step (initialState restored stateFile) inputs).localState.valid ≠ 0) :
    ∃ tlm nowMs, (takenMessages .ekfLocal (initialState restored stateFile) inputs).getLast? =
        some (.ekfLocal tlm, nowMs) ∧ ekfLocalFieldsFinite tlm = true ∧
      (run step (initialState restored stateFile) inputs).localState =
        .ofMessage tlm.toFcStatePrefix nowMs := by
  have ⟨content, nowMs, msg, last, state, cache⟩ :=
    run_validOnlyFinite .ekfLocal restored stateFile inputs valid
  cases content with
  | ekfLocal tlm =>
    simp only [StateMessage.state, Option.some.injEq, Prod.mk.injEq, true_and] at state
    rw [← state.1] at cache
    exact ⟨tlm, nowMs, last, state.2, cache⟩
  | _ => cases state

/-- A rejected message leaves the cache of its stream alone exactly if its numbers are finite or the
cached message is already marked invalid; and in every state reached what is marked valid is an
accepted attitude or local position with all six numbers finite. The numbers are checked after the
rejection as well, and it is the rejected message that is looked at. -/
theorem rejected_messages_iff (restored : Restored) (stateFile : Option (List UInt8))
    (inputs : List Input) :
    (∀ s content env stream msg finite,
        StateMessage.state content = some (stream, msg, finite) →
        Rejected (State.cache s stream) msg (Env.nowMs env) →
        ((step s (.message content env)).cache stream = s.cache stream ↔
          finite = true ∨ (s.cache stream).valid = 0)) ∧
      ((run step (initialState restored stateFile) inputs).attitudeState.valid ≠ 0 →
        ∃ tlm nowMs,
          (takenMessages .attitude (initialState restored stateFile) inputs).getLast? =
            some (.attitude tlm, nowMs) ∧ attitudeFieldsFinite tlm = true ∧
          (run step (initialState restored stateFile) inputs).attitudeState =
            .ofMessage tlm.toFcStatePrefix nowMs) ∧
      ((run step (initialState restored stateFile) inputs).localState.valid ≠ 0 →
        ∃ tlm nowMs,
          (takenMessages .ekfLocal (initialState restored stateFile) inputs).getLast? =
            some (.ekfLocal tlm, nowMs) ∧ ekfLocalFieldsFinite tlm = true ∧
          (run step (initialState restored stateFile) inputs).localState =
            .ofMessage tlm.toFcStatePrefix nowMs) := by
  refine ⟨?_, attitude_valid_finite restored stateFile inputs,
    ekfLocal_valid_finite restored stateFile inputs⟩
  intro s content env stream msg finite state rejected
  exact rejected_keeps_iff state rejected

/-- A copy of an earlier attitude leaves the cache alone, and the cached attitude is the last
one accepted. -/
theorem rejected_messages_copy :
    let s := run step (initialState Restored.none none) [levelAttitude 2 5000]
    (step s (levelAttitude 1 5200)).cache .attitude = s.cache .attitude ∧
      (takenMessages .attitude (initialState Restored.none none)
        [levelAttitude 2 5000]).getLast? ≠ none := by
  dsimp only
  constructor
  · exact ((rejected_messages_iff Restored.none none []).1 (run step
      (initialState Restored.none none) [levelAttitude 2 5000]) _ _ _ _ _ rfl
      (.inr (by decide +kernel))).mpr (.inl (by decide))
  · have ⟨tlm, nowMs, last, _⟩ := (rejected_messages_iff Restored.none none
      [levelAttitude 2 5000]).2.1 (by decide +kernel)
    rw [last]
    exact Option.some_ne_none _

/-- An attitude whose roll is not a number. -/
def brokenAttitude (seq : UInt32) (timeMs : Nat) : Input :=
  .message (.attitude ⟨⟨1000, seq, 1, 0, 0⟩, 0x7FC00000, 0, 0, 0, 0, 0⟩) (Env.at timeMs)

/-- A broken attitude with an old number is rejected, and marks the cached one invalid. -/
theorem rejected_messages_marked :
    let s := run step (initialState Restored.none none) [levelAttitude 2 5000]
    Rejected (s.cache .attitude) ⟨1000, 1, 1, 0, 0⟩ 5200 ∧
      (step s (brokenAttitude 1 5200)).cache .attitude ≠ s.cache .attitude ∧
      ((step s (brokenAttitude 1 5200)).cache .attitude).valid = 0 := by
  refine ⟨.inr ?_, ?_, ?_⟩ <;> decide +kernel

end CfsTelemetry.Core
