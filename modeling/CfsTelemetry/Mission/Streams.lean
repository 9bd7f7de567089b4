import CfsTelemetry.Bridge.Published
import CfsTelemetry.Core.Gaps

/-!
# Gaps in the streams

The bridge numbers the state messages of all streams by one counter, and the core application looks
for gaps in the numbers of each stream on its own. On a bus that loses and reorders nothing, no gap
is counted exactly when the bridge publishes nothing between a message that is accepted and the one
that was accepted in its stream before.
-/
namespace CfsTelemetry.Mission

open Run

/-- The bridge, the core application, and the state messages that wait for it, oldest first, each
with the count of the state messages that the bridge had published with it. -/
structure Streams where
  bridge : Bridge.State
  pipe : List (Core.StateMessage × Nat)
  core : Core.State

/-- Something that happens to the streams. -/
inductive StreamEvent where
  /-- Something happens to the bridge. -/
  | bridge (input : Bridge.Input)
  /-- The core application takes the state message that has waited longest. -/
  | take (env : Core.Env)
  /-- Something else happens to the core application. -/
  | core (input : Core.Input) (other : input.delivers = none)

/-- The state messages for the core application that the bridge publishes with an input. -/
def sentStates (s : Bridge.State) (input : Bridge.Input) : List (Core.StateMessage × Nat) :=
  ((Bridge.newOutputs s (Bridge.step s input)).reverse.filterMap Core.stateMessage).map
    fun message => (message, Bridge.publishedCount (Bridge.step s input))

/-- What an event brings about. Nothing is taken from an empty pipe. -/
def streamStep (s : Streams) : StreamEvent → Streams
  | .bridge input =>
    { s with
      bridge := Bridge.step s.bridge input
      pipe := s.pipe ++ sentStates s.bridge input }
  | .take env =>
    match s.pipe with
    | [] => s
    | (message, _) :: rest =>
      { s with core := Core.step s.core (.message message env), pipe := rest }
  | .core input _ => { s with core := Core.step s.core input }

/-- What the streams start with. The bridge may have been running when the core application
starts. -/
structure StreamBoot where
  config : Bridge.ConfigParams
  earlier : List Bridge.Input
  restored : Core.Restored
  coreFile : Option (List UInt8)

/-- The streams when the core application starts. -/
def StreamBoot.streams (boot : StreamBoot) : Streams where
  bridge := run Bridge.step (Bridge.initialState boot.config) boot.earlier
  pipe := []
  core := Core.initialState boot.restored boot.coreFile

/-- The streams after events. -/
def StreamBoot.after (boot : StreamBoot) (events : List StreamEvent) : Streams :=
  run streamStep boot.streams events

/-- The message that an event accepts: its stream, and the count of the state messages that had
been published with it. -/
def acceptances (s : Streams) : StreamEvent → List (Core.Stream × Nat)
  | .take env =>
    match s.pipe with
    | [] => []
    | (message, place) :: _ =>
      match message.state with
      | some (stream, msg, _) =>
        if (s.core.cache stream).accepts msg env.nowMs then [(stream, place)] else []
      | none => []
  | _ => []

/-- The count that an accepted message came with, when it is one of a stream. -/
def placeIn (stream : Core.Stream) (accepted : Core.Stream × Nat) : Option Nat :=
  if accepted.1 = stream then some accepted.2 else none

/-- The count that the message of a stream came with that was accepted last. -/
def lastAccepted (boot : StreamBoot) (events : List StreamEvent) (stream : Core.Stream) :
    Option Nat :=
  ((project streamStep acceptances boot.streams events).filterMap (placeIn stream)).getLast?

/-- Between a message that an event accepts and the one that was accepted in its stream before, the
bridge has published nothing, or as much as brings its counter back to where it was. The numbers of
a stream count the messages of all streams. -/
def GoesOn (boot : StreamBoot) (before : List StreamEvent) (event : StreamEvent) : Prop :=
  ∀ accepted ∈ acceptances (boot.after before) event,
    ∀ last ∈ lastAccepted boot before accepted.1, (accepted.2 - 1 - last) % 2 ^ 32 = 0

/-- No gap has been counted or reported. -/
def NoGap (boot : StreamBoot) (before : List StreamEvent) (event : StreamEvent) : Prop :=
  Core.gapLog (boot.after (before ++ [event])).core = (0, [])

section

variable {boot : StreamBoot} {before events : List StreamEvent} {event : StreamEvent}
  {s : Streams} {stream : Core.Stream}

/-- Without a number there is no state message. -/
theorem states_of_unnumbered {new : List Bridge.Output}
    (none : new.filterMap Bridge.Output.number = []) :
    new.reverse.filterMap Core.stateMessage = [] := by
  rw [List.filterMap_eq_nil_iff] at none ⊢
  intro output member
  have unnumbered := none output (List.mem_reverse.mp member)
  cases brings : Core.stateMessage output with
  | none => rfl
  | some message =>
    have ⟨number, own, _⟩ := Core.stateMessage_number brings
    rw [own] at unnumbered
    cases unnumbered

/-- With one number there is one state message at most, of that number. -/
theorem states_of_numbered {new : List Bridge.Output} {number : UInt32}
    (one : new.filterMap Bridge.Output.number = [number]) :
    new.reverse.filterMap Core.stateMessage = [] ∨
      ∃ message, new.reverse.filterMap Core.stateMessage = [message] ∧
        Core.NumberedBy number message := by
  have ⟨later, output, earlier, place, unnumbered, own, rest⟩ :=
    List.filterMap_eq_cons_iff.mp one
  have before := states_of_unnumbered rest
  have after := states_of_unnumbered (List.filterMap_eq_nil_iff.mpr unnumbered)
  have split : new.reverse.filterMap Core.stateMessage =
      (Core.stateMessage output).toList := by
    rw [place, List.reverse_append, List.reverse_cons, List.filterMap_append,
      List.filterMap_append, before, after]
    cases brings : Core.stateMessage output <;> simp [brings]
  rw [split]
  cases brings : Core.stateMessage output with
  | none => exact .inl rfl
  | some message =>
    have ⟨same, named, numbered⟩ := Core.stateMessage_number brings
    have equal : same = number := Option.some.inj (named.symm.trans own)
    exact .inr ⟨message, rfl, equal ▸ numbered⟩

/-- What the bridge sends with an input: nothing, or one message that is numbered by the count of
the state messages. -/
theorem sentStates_eq {s : Bridge.State} (inRange : Bridge.InRange s) (counts : Bridge.Counts s)
    (input : Bridge.Input) :
    sentStates s input = [] ∨
      ∃ message, sentStates s input = [(message, Bridge.publishedCount s + 1)] ∧
        Bridge.publishedCount (Bridge.step s input) = Bridge.publishedCount s + 1 ∧
        Core.NumberedBy (UInt32.ofNat (Bridge.publishedCount s + 1)) message := by
  rcases Bridge.step_newNumbers inRange input with ⟨none, _⟩ | ⟨one, count⟩
  · left
    rw [sentStates, states_of_unnumbered none]
    rfl
  · have next : s.sequenceCounter + 1 = UInt32.ofNat (Bridge.publishedCount s + 1) := by
      rw [counts.counter]
      exact (UInt32.ofNat_add _ 1).symm
    rw [next] at one
    rcases states_of_numbered one with nothing | ⟨message, own, numbered⟩
    · left
      rw [sentStates, nothing]
      rfl
    · right
      refine ⟨message, ?_, count, numbered⟩
      rw [sentStates, own, count]
      rfl

/-- The bridge never takes back a message. -/
theorem publishedCount_le {s : Bridge.State} (inRange : Bridge.InRange s) (input : Bridge.Input) :
    Bridge.publishedCount s ≤ Bridge.publishedCount (Bridge.step s input) := by
  rcases Bridge.step_newNumbers inRange input with ⟨_, count⟩ | ⟨_, count⟩ <;> omega

/-- The cache of a stream has the number of the message that was accepted last, if there is one. -/
def CachedAt (cache : Core.StateCache) : Option Nat → Prop
  | none => cache.received = false
  | some last => cache.received = true ∧ cache.seq = UInt32.ofNat last

/-- What has been received is cached with its number only. -/
theorem CachedAt.congr {cache cache' : Core.StateCache} {last : Option Nat}
    (cached : CachedAt cache last) (received : cache'.received = cache.received)
    (seq : cache'.seq = cache.seq) : CachedAt cache' last := by
  cases last with
  | none => exact received.trans cached
  | some place => exact ⟨received.trans cached.1, seq.trans cached.2⟩

/-- The cache of a stream after a step of the core application. -/
theorem step_cache (s : Core.State) (input : Core.Input) :
    (Core.step s input).cache stream = ((Core.evidence s).after input).cache stream := by
  rw [← Core.step_evidence]
  rfl

/-- A state message is taken into the cache of its stream, or refused. -/
theorem step_cache_own {s : Core.State} {message : Core.StateMessage} {env : Core.Env}
    {msg : Bridge.FcStatePrefix} {finite : Bool}
    (state : message.state = some (stream, msg, finite)) :
    (Core.step s (.message message env)).cache stream =
      ((s.cache stream).take msg env.nowMs).check finite := by
  rw [step_cache, Core.Evidence.after]
  unfold Core.Evidence.take
  rw [state]
  exact Core.Evidence.setCache_cache _ _ _

/-- An accepted message is cached. -/
theorem cachedAt_of_accepted {s : Core.State} {message : Core.StateMessage} {env : Core.Env}
    {msg : Bridge.FcStatePrefix} {finite : Bool} {place : Nat}
    (state : message.state = some (stream, msg, finite))
    (accepts : (s.cache stream).accepts msg env.nowMs = true)
    (number : msg.seq = UInt32.ofNat place) :
    CachedAt ((Core.step s (.message message env)).cache stream) (some place) := by
  rw [step_cache_own state, Core.StateCache.take, if_pos accepts]
  cases finite <;> exact ⟨rfl, number⟩

/-- A refused message of a stream leaves its number alone, and one of another stream its cache. -/
theorem cachedAt_of_refused {s : Core.State} {message : Core.StateMessage} {env : Core.Env}
    {last : Option Nat} (cached : CachedAt (s.cache stream) last)
    (refused : ∀ msg finite, message.state = some (stream, msg, finite) →
      (s.cache stream).accepts msg env.nowMs = false) :
    CachedAt ((Core.step s (.message message env)).cache stream) last := by
  have elsewhere (silent : (Core.Input.message message env).arrival stream = none) :
      CachedAt ((Core.step s (.message message env)).cache stream) last := by
    rw [step_cache, Core.after_cache_of_none silent]
    exact cached
  cases state : message.state with
  | none => exact elsewhere (by simp [Core.Input.arrival, state])
  | some delivered =>
    obtain ⟨own, msg, finite⟩ := delivered
    by_cases same : own = stream
    · subst same
      rw [step_cache_own state, Core.StateCache.take, refused msg finite state,
        if_neg Bool.false_ne_true]
      cases finite <;> exact cached.congr rfl rfl
    · exact elsewhere (by simp [Core.Input.arrival, state, same])

/-! ## The invariant -/

/-- The messages in the pipe are numbered by their counts, which rise, and the caches have the
numbers of the messages that were accepted last. -/
structure InStep (s : Streams) (accepted : Core.Stream → Option Nat) : Prop where
  inRange : Bridge.InRange s.bridge
  counts : Bridge.Counts s.bridge
  rises : s.pipe.Pairwise (·.2 < ·.2)
  numbered : ∀ entry ∈ s.pipe, Core.NumberedBy (UInt32.ofNat entry.2) entry.1
  sent : ∀ entry ∈ s.pipe, entry.2 ≤ Bridge.publishedCount s.bridge
  cached : ∀ stream, CachedAt (s.core.cache stream) (accepted stream)
  passed : ∀ stream, ∀ last ∈ accepted stream,
    last ≤ Bridge.publishedCount s.bridge ∧ ∀ entry ∈ s.pipe, last < entry.2

/-- The streams after one event more. -/
theorem after_snoc : boot.after (before ++ [event]) = streamStep (boot.after before) event :=
  run_snoc _ _ _ _

/-- The last message that was accepted of a stream, after one event more. -/
theorem lastAccepted_snoc :
    lastAccepted boot (before ++ [event]) stream =
      ((acceptances (boot.after before) event).filterMap (placeIn stream)).getLast?.or
        (lastAccepted boot before stream) := by
  have more := @project_snoc _ _ _ streamStep acceptances boot.streams before event
  rw [lastAccepted, more, List.filterMap_append, List.getLast?_append]
  rfl

/-- An event that accepts nothing of a stream leaves the last message that was. -/
theorem lastAccepted_of_nil (nothing : acceptances (boot.after before) event = []) :
    lastAccepted boot (before ++ [event]) stream = lastAccepted boot before stream := by
  rw [lastAccepted_snoc, nothing]
  rfl

/-- A start is in step. -/
theorem streams_inStep (boot : StreamBoot) :
    InStep boot.streams (lastAccepted boot []) where
  inRange := Bridge.run_inRange (Bridge.initialState_inRange boot.config) boot.earlier
  counts := Bridge.run_counts boot.config boot.earlier
  rises := .nil
  numbered := by simp [StreamBoot.streams]
  sent := by simp [StreamBoot.streams]
  cached stream := by cases stream <;> rfl
  passed stream last accepted := by cases accepted

variable {accepted : Core.Stream → Option Nat}

/-- The bridge keeps the streams in step. -/
theorem InStep.bridge (inStep : InStep s accepted) (input : Bridge.Input) :
    InStep (streamStep s (.bridge input)) accepted := by
  have more := publishedCount_le inStep.inRange input
  have bridge : (streamStep s (.bridge input)).bridge = Bridge.step s.bridge input := rfl
  have pipe : (streamStep s (.bridge input)).pipe = s.pipe ++ sentStates s.bridge input := rfl
  -- What is new in the pipe.
  have new : ∀ entry ∈ sentStates s.bridge input,
      entry.2 = Bridge.publishedCount s.bridge + 1 ∧
        Bridge.publishedCount (Bridge.step s.bridge input) = entry.2 ∧
        Core.NumberedBy (UInt32.ofNat entry.2) entry.1 := by
    intro entry member
    rcases sentStates_eq inStep.inRange inStep.counts input with none | ⟨message, one, count, own⟩
    · simp [none] at member
    · rw [one, List.mem_singleton] at member
      rw [member]
      exact ⟨rfl, count, own⟩
  have single : (sentStates s.bridge input).Pairwise (·.2 < ·.2) := by
    rcases sentStates_eq inStep.inRange inStep.counts input with none | ⟨message, one, _⟩
    · simp [none]
    · simp [one]
  constructor
  · exact Bridge.run_inRange inStep.inRange [input]
  · exact inStep.counts.next input
  · rw [pipe, List.pairwise_append]
    refine ⟨inStep.rises, single, fun entry old fresh member => ?_⟩
    have bound := inStep.sent entry old
    have place := (new fresh member).1
    omega
  · intro entry member
    rw [pipe, List.mem_append] at member
    rcases member with old | fresh
    · exact inStep.numbered entry old
    · exact (new entry fresh).2.2
  · intro entry member
    rw [pipe, List.mem_append] at member
    rw [bridge]
    rcases member with old | fresh
    · exact (inStep.sent entry old).trans more
    · exact (new entry fresh).2.1.ge
  · exact inStep.cached
  · intro stream last member
    have ⟨bound, below⟩ := inStep.passed stream last member
    rw [bridge, pipe]
    refine ⟨bound.trans more, fun entry waiting => ?_⟩
    rcases List.mem_append.mp waiting with old | fresh
    · exact below entry old
    · have place := (new entry fresh).1
      omega

/-- What else happens to the core application keeps the streams in step. -/
theorem InStep.core (inStep : InStep s accepted) (input : Core.Input)
    (other : input.delivers = none) : InStep (streamStep s (.core input other)) accepted := by
  have silent : ∀ stream, input.arrival stream = none := by
    intro stream
    cases input with
    | message content env =>
      cases state : content.state with
      | none => simp [Core.Input.arrival, state]
      | some delivered => simp [Core.Input.delivers, state] at other
    | _ => rfl
  have cached : ∀ stream,
      CachedAt ((streamStep s (.core input other)).core.cache stream) (accepted stream) := by
    intro stream
    have same : (Core.step s.core input).cache stream = s.core.cache stream := by
      rw [step_cache, Core.after_cache_of_none (silent stream)]
    change CachedAt ((Core.step s.core input).cache stream) (accepted stream)
    rw [same]
    exact inStep.cached stream
  exact { inStep with cached := cached }

/-- What taking a message from the front of the pipe does to the cache of a stream, and to the last
message that was accepted in it. -/
theorem InStep.taken (inStep : InStep s accepted) {env : Core.Env} {message : Core.StateMessage}
    {count : Nat} {rest : List (Core.StateMessage × Nat)}
    (pipe : s.pipe = (message, count) :: rest) (stream : Core.Stream) :
    ∃ last, ((acceptances s (.take env)).filterMap (placeIn stream)).getLast?.or
        (accepted stream) = last ∧
      CachedAt ((Core.step s.core (.message message env)).cache stream) last ∧
      (last = accepted stream ∨ last = some count) := by
  by_cases taken : ∃ msg finite, message.state = some (stream, msg, finite) ∧
      (s.core.cache stream).accepts msg env.nowMs = true
  · have ⟨msg, finite, state, accepts⟩ := taken
    have number := inStep.numbered (message, count) (by simp [pipe]) stream msg finite state
    refine ⟨some count, ?_, cachedAt_of_accepted state accepts number, .inr rfl⟩
    rw [acceptances, pipe]
    simp [state, accepts, placeIn]
  · have refused : ∀ msg finite, message.state = some (stream, msg, finite) →
        (s.core.cache stream).accepts msg env.nowMs = false := by
      intro msg finite state
      by_contra accepts
      exact taken ⟨msg, finite, state, Bool.eq_true_of_not_eq_false accepts⟩
    have none : (acceptances s (.take env)).filterMap (placeIn stream) = [] := by
      rw [acceptances, pipe]
      cases state : message.state with
      | none => simp [state]
      | some delivered =>
        have ⟨own, msg, finite⟩ := delivered
        by_cases same : own = stream
        · subst same
          simp [state, refused msg finite state]
        · cases accepts : (s.core.cache own).accepts msg env.nowMs <;>
            simp [state, accepts, placeIn, same]
    refine ⟨accepted stream, ?_, cachedAt_of_refused (inStep.cached stream) refused, .inl rfl⟩
    rw [none]
    rfl

/-- A message from the front of the pipe keeps the streams in step. -/
theorem InStep.take (inStep : InStep s accepted) {env : Core.Env} {message : Core.StateMessage}
    {count : Nat} {rest : List (Core.StateMessage × Nat)}
    (pipe : s.pipe = (message, count) :: rest) :
    InStep (streamStep s (.take env)) fun stream =>
      ((acceptances s (.take env)).filterMap (placeIn stream)).getLast?.or (accepted stream) := by
  have next : streamStep s (.take env) =
      { s with core := Core.step s.core (.message message env), pipe := rest } := by
    rw [streamStep, pipe]
  have rises := inStep.rises
  rw [pipe, List.pairwise_cons] at rises
  have sent := inStep.sent (message, count) (by simp [pipe])
  have later : ∀ entry ∈ rest, entry ∈ s.pipe := by
    intro entry member
    rw [pipe]
    exact List.mem_cons_of_mem _ member
  rw [next]
  constructor
  · exact inStep.inRange
  · exact inStep.counts
  · exact rises.2
  · exact fun entry member => inStep.numbered entry (later entry member)
  · exact fun entry member => inStep.sent entry (later entry member)
  · intro stream
    have ⟨last, own, cached, _⟩ := @InStep.taken _ _ inStep env _ _ _ pipe stream
    rw [own]
    exact cached
  · intro stream place member
    have ⟨last, own, _, found⟩ := @InStep.taken _ _ inStep env _ _ _ pipe stream
    rw [own] at member
    rcases found with same | now
    · rw [same] at member
      have ⟨bound, below⟩ := inStep.passed stream place member
      exact ⟨bound, fun entry waiting => below entry (later entry waiting)⟩
    · rw [now, Option.mem_some_iff] at member
      rw [← member]
      exact ⟨sent, fun entry waiting => rises.1 entry waiting⟩

/-- In every run the streams are in step. -/
theorem run_inStep (boot : StreamBoot) (events : List StreamEvent) :
    InStep (boot.after events) (lastAccepted boot events) := by
  induction events using List.reverseRecOn with
  | nil => exact streams_inStep boot
  | append_singleton before event previous =>
    have idle (nothing : acceptances (boot.after before) event = []) :
        lastAccepted boot (before ++ [event]) = lastAccepted boot before := by
      funext stream
      exact lastAccepted_of_nil nothing
    rw [after_snoc]
    cases event with
    | bridge input =>
      rw [idle rfl]
      exact previous.bridge input
    | core input other =>
      rw [idle rfl]
      exact previous.core input other
    | take env =>
      cases pipe : (boot.after before).pipe with
      | nil =>
        have same : streamStep (boot.after before) (.take env) = boot.after before := by
          rw [streamStep, pipe]
        rw [same, idle (by rw [acceptances, pipe])]
        exact previous
      | cons entry rest =>
        have accepted : lastAccepted boot (before ++ [.take env]) = fun stream =>
            ((acceptances (boot.after before) (.take env)).filterMap (placeIn stream)).getLast?.or
              (lastAccepted boot before stream) := by
          funext stream
          exact lastAccepted_snoc
        rw [accepted]
        exact previous.take pipe

/-- A number that is higher than an earlier one skips numbers unless it is the next. -/
theorem skips_iff {last place : Nat} (earlier : last < place)
    (higher : UInt32.ofNat last < UInt32.ofNat place) :
    UInt32.ofNat last + 1 < UInt32.ofNat place ↔ (place - 1 - last) % 2 ^ 32 ≠ 0 := by
  have one : (1 : UInt32).toNat = 1 := rfl
  rw [UInt32.lt_iff_toNat_lt, UInt32.toNat_ofNat', UInt32.toNat_ofNat'] at higher
  rw [UInt32.lt_iff_toNat_lt, UInt32.toNat_add, UInt32.toNat_ofNat', UInt32.toNat_ofNat', one]
  omega

/-- A message from the front of the pipe skips a number exactly when it is accepted and does not go
on from what was accepted in its stream before. -/
theorem take_skips {env : Core.Env} {message : Core.StateMessage} {count : Nat}
    {rest : List (Core.StateMessage × Nat)}
    (pipe : (boot.after before).pipe = (message, count) :: rest) :
    (Core.Input.message message env).skips (boot.after before).core = false ↔
      GoesOn boot before (.take env) := by
  have inStep := run_inStep boot before
  cases state : message.state with
  | none => simp [Core.Input.skips, GoesOn, acceptances, pipe, state]
  | some delivered =>
    obtain ⟨stream, msg, finite⟩ := delivered
    have number := inStep.numbered (message, count) (by simp [pipe]) stream msg finite state
    have cached := inStep.cached stream
    have skips : (Core.Input.message message env).skips (boot.after before).core =
        ((boot.after before).core.cache stream).skipped msg env.nowMs := by
      simp [Core.Input.skips, state]
    rw [skips]
    by_cases accepts : ((boot.after before).core.cache stream).accepts msg env.nowMs = true
    · have one : acceptances (boot.after before) (.take env) = [(stream, count)] := by
        simp [acceptances, pipe, state, accepts]
      rw [GoesOn, one]
      cases accepted : lastAccepted boot before stream with
      | none =>
        rw [accepted] at cached
        have first : ((boot.after before).core.cache stream).received = false := cached
        simp [Core.StateCache.skipped, first, accepted]
      | some last =>
        rw [accepted] at cached
        obtain ⟨received, seq⟩ := cached
        obtain ⟨-, below⟩ := inStep.passed stream last accepted
        have earlier : last < count := below (message, count) (by simp [pipe])
        have higher : UInt32.ofNat last < UInt32.ofNat count := by
          simp only [Core.StateCache.accepts, Core.StateCache.follows, received, seq, number,
            Bool.not_true, Bool.false_or, Bool.and_eq_true, decide_eq_true_eq] at accepts
          exact accepts.2
        have skipped : ((boot.after before).core.cache stream).skipped msg env.nowMs =
            decide (UInt32.ofNat last + 1 < UInt32.ofNat count) := by
          simp [Core.StateCache.skipped, accepts, received, seq, number]
        rw [skipped, decide_eq_false_iff_not, skips_iff earlier higher]
        simp [accepted]
    · have none : acceptances (boot.after before) (.take env) = [] := by
        simp [acceptances, pipe, state, accepts]
      rw [GoesOn, none]
      simp [Core.StateCache.skipped, accepts]

/-- What else happens to the core application skips nothing. -/
theorem other_skips {s : Core.State} {input : Core.Input} (other : input.delivers = none) :
    input.skips s = false := by
  cases input with
  | message content env =>
    cases state : content.state with
    | none => simp [Core.Input.skips, state]
    | some delivered => simp [Core.Input.delivers, state] at other
  | _ => rfl

/-- What the core application does in an event counts a gap exactly when what it accepts does not go
on from what was accepted in the stream before. -/
theorem event_logs (boot : StreamBoot) (before : List StreamEvent) (event : StreamEvent) :
    ∃ skips, Core.Logs skips (boot.after before).core (boot.after (before ++ [event])).core ∧
      (skips = false ↔ GoesOn boot before event) := by
  rw [after_snoc]
  cases event with
  | bridge input => exact ⟨false, rfl, by simp [GoesOn, acceptances]⟩
  | core input other =>
    have logs := Core.step_logs (boot.after before).core input
    rw [other_skips other] at logs
    exact ⟨false, logs, by simp [GoesOn, acceptances]⟩
  | take env =>
    cases pipe : (boot.after before).pipe with
    | nil =>
      refine ⟨false, ?_, by simp [GoesOn, acceptances, pipe]⟩
      rw [streamStep, pipe]
      rfl
    | cons entry rest =>
      have ⟨message, count⟩ := entry
      refine ⟨(Core.Input.message message env).skips (boot.after before).core, ?_, take_skips pipe⟩
      rw [streamStep, pipe]
      exact Core.step_logs _ _

/-- In every run of bridge and core application on a bus that loses and reorders nothing, whatever
the streams and their interleaving, no gap is ever counted or reported exactly when nothing has been
published between any message that is accepted and the one accepted in its stream before. The bridge
numbers all streams by one counter, and gaps are counted for each stream. -/
theorem noGaps_iff (boot : StreamBoot) (events : List StreamEvent) :
    Each (NoGap boot) events ↔ Each (GoesOn boot) events := by
  have start : Core.gapLog (boot.after []).core = (0, []) := rfl
  induction events using List.reverseRecOn with
  | nil => exact iff_of_true each_nil each_nil
  | append_singleton before event previous =>
    have ⟨skips, logs, goesOn⟩ := event_logs boot before event
    refine each_snoc.trans (Iff.trans ?_ each_snoc.symm)
    refine (and_congr_left' previous).trans (and_congr_right fun earlier => ?_)
    have clear : Core.gapLog (boot.after before).core = (0, []) := by
      rcases List.eq_nil_or_concat before with rfl | ⟨first, last, rfl⟩
      · exact start
      · rw [List.concat_eq_append] at previous earlier ⊢
        exact (each_snoc.mp (previous.mpr earlier)).2
    rw [← goesOn, NoGap]
    cases skips with
    | false =>
      have kept : Core.gapLog (boot.after (before ++ [event])).core =
          Core.gapLog (boot.after before).core := logs
      exact iff_of_true (kept.trans clear) rfl
    | true =>
      have ⟨_, reported⟩ : (boot.after (before ++ [event])).core.seqGapCount =
          (boot.after before).core.seqGapCount + 1 ∧ _ := logs
      refine iff_of_false (fun none => reported (congrArg Prod.snd none)) (by decide)

/-- Without a gap the count is zero. -/
theorem NoGap.count (none : NoGap boot before event) :
    (boot.after (before ++ [event])).core.seqGapCount = 0 := congrArg Prod.fst none

/-- Two attitudes are published with a state of the estimator between them, and all but the last
are taken. -/
def interleavedStreams : List StreamEvent :=
  [.bridge (Bridge.received .attitude (Words.bytes32 1000 ++ List.replicate 24 0) 6900),
    .take (Core.Env.at 6901),
    .bridge (Bridge.received .ekfStatusReport (List.replicate 20 0 ++ [1, 0]) 6910),
    .take (Core.Env.at 6911),
    .bridge (Bridge.received .attitude (Words.bytes32 1020 ++ List.replicate 24 0) 6920)]

/-- The state of the estimator counts as a missed attitude when the last one is taken. -/
theorem interleaved_counts_gap :
    ¬ Each (NoGap ⟨.default, [], .none, none⟩)
      (interleavedStreams ++ [.take (Core.Env.at 6921)]) := by
  intro each
  have last := (each_snoc.mp each).2
  have counted : ((StreamBoot.mk .default [] .none none).after
      (interleavedStreams ++ [.take (Core.Env.at 6921)])).core.seqGapCount ≠ 0 := by
    decide +kernel
  exact counted last.count

end

end CfsTelemetry.Mission
