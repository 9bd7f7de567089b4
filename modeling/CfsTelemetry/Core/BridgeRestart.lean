import CfsTelemetry.Bridge.Numbering
import CfsTelemetry.Core.Acceptance

/-!
# Recovery after a restart of the bridge

A restarted bridge numbers its messages from one on again, and the core application refuses a
message that is numbered below the one it has cached, whichever session of the bridge that one is
from. The streams of a restarted bridge are accepted and fresh again exactly when their first
numbers are above the cached ones.
-/
namespace CfsTelemetry.Core

open Run Stopwatch

/-- The state message that an output of the bridge brings. -/
def stateMessage : Bridge.Output → Option StateMessage
  | .message (.attitude tlm) => some (.attitude tlm)
  | .message (.ekfLocal tlm) => some (.ekfLocal tlm)
  | .message (.gpsRaw tlm) => some (.gpsRaw tlm)
  | .message (.ekfStatus tlm) => some (.ekfStatus tlm)
  | _ => none

/-- The state messages that the bridge has published, oldest first. -/
def publishedStates (s : Bridge.State) : List StateMessage :=
  s.outputs.reverse.filterMap stateMessage

/-- The state message that an input delivers. -/
def Input.delivers : Input → Option StateMessage
  | message content _ => if content.state.isSome then some content else none
  | _ => none

/-- The number of a message of a stream. -/
def StateMessage.numberIn (stream : Stream) (message : StateMessage) : Option UInt32 :=
  match message.state with
  | some (own, msg, _) => if own = stream then some msg.seq else none
  | none => none

/-- The message of a stream that an input delivers, and when. -/
def Input.arrival (stream : Stream) : Input → Option (Bridge.FcStatePrefix × Nat)
  | message content env =>
    match content.state with
    | some (own, msg, _) => if own = stream then some (msg, env.timeMs) else none
    | none => none
  | _ => none

/-- The messages of a stream that a run delivers, and when. -/
def arrivals (stream : Stream) (inputs : List Input) : List (Bridge.FcStatePrefix × Nat) :=
  inputs.filterMap (Input.arrival stream)

/-- Whether a state message is valid, finite and not from the future. -/
def Input.sound : Input → Bool
  | message content env =>
    match content.state with
    | some (_, msg, finite) =>
      finite && msg.valid != 0 && msg.stale == 0 && !isFuture msg.timestampMs env.nowMs
    | none => true
  | _ => true

/-- The newest message of each stream is not older than the timeout of the stream, once it has
sent one. -/
def Regular (config : ConfigParams) (before : List Input) (input : Input) : Prop :=
  ∀ stream, ∀ arrival ∈ (arrivals stream (before ++ [input])).getLast?,
    input.timeMs ≤ arrival.2 + (config.timeoutMs stream).toNat

/-- The fault that reports a stream. -/
def Stream.fault : Stream → FaultCode
  | attitude => .attitudeTimeout
  | ekfLocal => .localTimeout
  | gpsRaw => .gpsStale
  | ekfStatus => .ekfInvalid

/-- An input accepts its message, and finds the streams heard of so far alive. -/
def Recovered (start : State) (before : List Input) (input : Input) : Prop :=
  (∀ decision ∈ input.decision (evidence (run step start before)), decision = true) ∧
    ∀ stream, arrivals stream (before ++ [input]) ≠ [] →
      (∀ s, input.evaluated (run step start before) = some s →
        streamTimedOut stream input.env.nowMs s = false) ∧
      ∀ tlm ∈ published (run step start before) (step (run step start before) input),
        tlm.faultCode ≠ stream.fault

/-- The first message of a stream is numbered above the cached one. A bridge that has started again
counts anew, and the cache refuses what is not numbered above what it holds. -/
def Overtakes (start : State) (messages : List StateMessage) (stream : Stream) : Prop :=
  ∀ first ∈ (messages.filterMap (StateMessage.numberIn stream)).head?,
    (start.cache stream).follows first = true

instance (start : State) (messages : List StateMessage) (stream : Stream) :
    Decidable (Overtakes start messages stream) :=
  decidable_of_iff ((messages.filterMap (StateMessage.numberIn stream)).head?.all
    (fun first => (start.cache stream).follows first) = true) (by
      simp only [Overtakes, Option.all_eq_true, Option.mem_def])

/-! ## Numbers of a restarted bridge -/

/-- A state message has a number. -/
def NumberedBy (number : UInt32) (message : StateMessage) : Prop :=
  ∀ stream msg finite, message.state = some (stream, msg, finite) → msg.seq = number

/-- A state message has the number that it says. -/
theorem numberedBy_of_state {message : StateMessage} {stream : Stream}
    {msg : Bridge.FcStatePrefix} {finite : Bool}
    (state : message.state = some (stream, msg, finite)) : NumberedBy msg.seq message := by
  intro own other finite' same
  rw [state] at same
  cases same
  rfl

/-- A state message of the bridge has the number of its output. -/
theorem stateMessage_number {output : Bridge.Output} {message : StateMessage}
    (brings : stateMessage output = some message) :
    ∃ number, output.number = some number ∧ NumberedBy number message := by
  cases output with
  | tx frame => cases brings
  | message content =>
    cases content with
    | attitude tlm | ekfLocal tlm | gpsRaw tlm | ekfStatus tlm =>
      cases brings
      exact ⟨tlm.seq, rfl, numberedBy_of_state rfl⟩
    | _ => cases brings

/-- The number of a message of a stream is the one it is numbered by. -/
theorem NumberedBy.numberIn {message : StateMessage} {stream : Stream} {number own : UInt32}
    (numbered : NumberedBy number message) (among : message.numberIn stream = some own) :
    own = number := by
  rw [StateMessage.numberIn] at among
  cases state : message.state with
  | none => simp [state] at among
  | some delivered =>
    have ⟨other, msg, finite⟩ := delivered
    by_cases same : other = stream
    · simp only [state, if_pos same, Option.some.injEq] at among
      rw [← among]
      exact numbered other msg finite state
    · simp [state, same] at among

/-- A list of which more is kept has the list of which less is kept among it. -/
private theorem filterMap_sublist {α β : Type} {less more : α → Option β}
    (kept : ∀ element value, less element = some value → more element = some value)
    (list : List α) : (list.filterMap less).Sublist (list.filterMap more) := by
  induction list with
  | nil => exact .slnil
  | cons head rest previous =>
    rw [List.filterMap_cons, List.filterMap_cons]
    cases own : less head with
    | none =>
      cases more head with
      | none => exact previous
      | some value => exact previous.cons value
    | some value =>
      rw [kept head value own]
      exact previous.cons_cons value

/-- The numbers of a stream of a restarted bridge rise, while its counter does not wrap. -/
theorem publishedStates_rise (config : Bridge.ConfigParams) (inputs : List Bridge.Input)
    (short : (Bridge.ledger (run Bridge.step (Bridge.initialState config) inputs)).2.length <
      2 ^ 32) (stream : Stream) :
    ((publishedStates (run Bridge.step (Bridge.initialState config) inputs)).filterMap
      (StateMessage.numberIn stream)).Pairwise (· < ·) := by
  have counts := (Bridge.run_counts config inputs).2
  have fall := (counts.pairwise short).1
  have numbered : ∀ output number, (stateMessage output).bind (StateMessage.numberIn stream) =
      some number → output.number = some number := by
    intro output number own
    have ⟨message, brings, among⟩ := Option.bind_eq_some_iff.mp own
    have ⟨named, outputNumber, numbered⟩ := stateMessage_number brings
    rw [outputNumber, numbered.numberIn among]
  rw [publishedStates, List.filterMap_filterMap]
  apply List.Pairwise.sublist (filterMap_sublist numbered _)
  rw [List.filterMap_reverse, List.pairwise_reverse]
  exact fall

section

variable {start s : State} {before inputs : List Input} {input : Input} {stream : Stream}

/-- An input that delivers a message of a stream. -/
theorem arrival_eq_some {arrival : Bridge.FcStatePrefix × Nat}
    (arrives : input.arrival stream = some arrival) :
    ∃ content env finite, input = .message content env ∧
      content.state = some (stream, arrival.1, finite) ∧ arrival.2 = env.timeMs := by
  cases input with
  | message content env =>
    rw [Input.arrival] at arrives
    cases state : content.state with
    | none =>
      rw [state] at arrives
      cases arrives
    | some delivered =>
      obtain ⟨own, msg, finite⟩ := delivered
      rw [state] at arrives
      dsimp only at arrives
      by_cases same : own = stream
      · rw [if_pos same] at arrives
        obtain rfl := Option.some.inj arrives
        rw [← same]
        exact ⟨content, env, finite, rfl, state, rfl⟩
      · rw [if_neg same] at arrives
        cases arrives
  | _ => cases arrives

/-- The evidence after an input has the cache of a stream that the input delivers nothing of. -/
theorem after_cache_of_none (none : input.arrival stream = none) :
    ((evidence s).after input).cache stream = s.cache stream := by
  cases input with
  | message content env =>
    rw [Evidence.after]
    unfold Evidence.take
    rw [Input.arrival] at none
    cases state : content.state with
    | some delivered =>
      obtain ⟨own, msg, finite⟩ := delivered
      rw [state] at none
      apply Evidence.setCache_cache_ne
      rintro rfl
      simp at none
    | none => cases content <;> rfl
  | _ => rfl

/-- A sound message is accepted exactly when its number follows the cached one, and is cached
then. -/
theorem after_cache_of_some {arrival : Bridge.FcStatePrefix × Nat}
    (arrives : input.arrival stream = some arrival) (sound : input.sound = true) :
    input.decision (evidence s) = [(s.cache stream).follows arrival.1.seq] ∧
      arrival.2 = input.timeMs ∧ arrival.1.valid ≠ 0 ∧ arrival.1.stale = 0 ∧
      ((s.cache stream).follows arrival.1.seq = true →
        ((evidence s).after input).cache stream =
          .ofMessage arrival.1 (UInt32.ofNat arrival.2)) := by
  obtain ⟨content, env, finite, rfl, state, time⟩ := arrival_eq_some arrives
  simp only [Input.sound, state, Bool.and_eq_true, Bool.not_eq_true', bne_iff_ne, beq_iff_eq]
    at sound
  obtain ⟨⟨⟨finite_eq, valid⟩, stale⟩, present⟩ := sound
  have accepts : (s.cache stream).accepts arrival.1 env.nowMs =
      (s.cache stream).follows arrival.1.seq := by
    rw [StateCache.accepts, present]
    rfl
  refine ⟨?_, time, valid, stale, ?_⟩
  · rw [Input.decision, Evidence.decision, state, ← accepts]
    rfl
  · intro follows
    rw [Evidence.after]
    unfold Evidence.take
    rw [state, finite_eq]
    dsimp only
    rw [Evidence.setCache_cache]
    change (((s.cache stream).take arrival.1 env.nowMs).check true) = _
    rw [StateCache.take, accepts, if_pos follows, time]
    rfl

/-- The arrivals of a run with one more input. -/
theorem arrivals_snoc : arrivals stream (before ++ [input]) =
    arrivals stream before ++ (input.arrival stream).toList := by
  cases own : input.arrival stream <;> simp [arrivals, own]

/-- The cache of a stream after a run with one more input. -/
theorem run_cache : (run step start (before ++ [input])).cache stream =
    ((evidence (run step start before)).after input).cache stream := by
  rw [run_snoc, ← step_evidence]
  rfl

/-- A stream of which nothing arrives keeps its cache. -/
theorem run_cache_of_nil (silent : arrivals stream before = []) :
    (run step start before).cache stream = start.cache stream := by
  induction before using List.reverseRecOn with
  | nil => rfl
  | append_singleton before input previous =>
    rw [arrivals_snoc, List.append_eq_nil_iff] at silent
    have none : input.arrival stream = none := by
      cases own : input.arrival stream with
      | none => rfl
      | some arrival =>
        rw [own] at silent
        cases silent.2
    rw [run_cache, after_cache_of_none none, previous silent.1]

/-- The cache of a stream has the newest message that has arrived. -/
def HoldsNewest (start : State) (inputs : List Input) (stream : Stream) : Prop :=
  ∀ arrival ∈ (arrivals stream inputs).getLast?,
    (run step start inputs).cache stream = .ofMessage arrival.1 (UInt32.ofNat arrival.2) ∧
      arrival.1.valid ≠ 0 ∧ arrival.1.stale = 0

/-- The numbers of the messages that arrive rise from the cached one on. -/
def Rises (start : State) (inputs : List Input) (stream : Stream) : Prop :=
  ((arrivals stream inputs).map (·.1.seq)).Pairwise (· < ·) ∧
    ∀ first ∈ ((arrivals stream inputs).map (·.1.seq)).head?,
      (start.cache stream).follows first = true

/-- What arrives in a run is what arrived before an input, what it delivers, and the rest. -/
theorem arrivals_append_cons {rest : List Input} {arrival : Bridge.FcStatePrefix × Nat}
    (arrives : input.arrival stream = some arrival) :
    arrivals stream (before ++ input :: rest) =
      arrivals stream before ++ arrival :: arrivals stream rest := by
  rw [arrivals, List.filterMap_append, List.filterMap_cons_some arrives]
  rfl

/-- The next message of a stream whose numbers rise follows the cached one. -/
theorem Rises.follows {rest : List Input} {arrival : Bridge.FcStatePrefix × Nat}
    (rises : Rises start (before ++ input :: rest) stream)
    (newest : HoldsNewest start before stream)
    (arrives : input.arrival stream = some arrival) :
    ((run step start before).cache stream).follows arrival.1.seq = true := by
  obtain ⟨rising, first⟩ := rises
  rw [arrivals_append_cons arrives, List.map_append, List.map_cons] at rising first
  rcases List.eq_nil_or_concat (arrivals stream before) with silent | ⟨earlier, last, heard⟩
  · rw [run_cache_of_nil silent]
    apply first
    rw [silent]
    rfl
  · rw [List.concat_eq_append] at heard
    obtain ⟨cached, -, -⟩ := newest last (by rw [heard]; simp)
    have less : last.1.seq < arrival.1.seq := by
      apply (List.pairwise_append.mp rising).2.2
      · rw [heard]
        simp
      · exact List.mem_cons_self ..
    rw [cached]
    simp [StateCache.follows, StateCache.ofMessage, less]

/-- A sound input leaves the newest message of a stream in the cache, when it is accepted. -/
theorem HoldsNewest.snoc (newest : HoldsNewest start before stream) (sound : input.sound = true)
    (accepted : ∀ arrival, input.arrival stream = some arrival →
      ((run step start before).cache stream).follows arrival.1.seq = true) :
    HoldsNewest start (before ++ [input]) stream := by
  intro arrival last
  rw [run_cache]
  rw [arrivals_snoc] at last
  cases arrives : input.arrival stream with
  | none =>
    rw [arrives, Option.toList_none, List.append_nil] at last
    rw [after_cache_of_none arrives]
    exact newest arrival last
  | some delivered =>
    rw [arrives, Option.toList_some, List.getLast?_concat] at last
    obtain rfl := Option.mem_some.mp last
    obtain ⟨-, -, valid, stale, cached⟩ :=
      @after_cache_of_some (run step start before) input stream _ arrives sound
    exact ⟨cached (accepted _ arrives), valid, stale⟩

/-- No input changes the configuration. -/
theorem run_activeConfig (start : State) (inputs : List Input) :
    (run step start inputs).activeConfig = start.activeConfig := by
  induction inputs using List.reverseRecOn with
  | nil => rfl
  | append_singleton before input previous =>
    have config := congrArg Evidence.activeConfig (step_evidence (run step start before) input)
    have kept : ((evidence (run step start before)).after input).activeConfig =
        (run step start before).activeConfig := by
      cases input with
      | message content env => cases content <;> rfl
      | _ => rfl
    rw [run_snoc]
    exact (config.trans kept).trans previous

/-- What arrives in a run arrives no later than the run is. -/
theorem arrival_time_le {arrival : Bridge.FcStatePrefix × Nat}
    (ordered : Ordered Input.timeMs (before ++ [input]))
    (mem : arrival ∈ arrivals stream (before ++ [input])) : arrival.2 ≤ input.timeMs := by
  obtain ⟨other, among, arrives⟩ := List.mem_filterMap.mp mem
  obtain ⟨content, env, finite, rfl, -, time⟩ := arrival_eq_some arrives
  have own : (Input.message content env).timeMs = env.timeMs := rfl
  rw [time, ← own]
  rcases List.mem_append.mp among with earlier | last
  · exact (each_snoc.mp ordered).2 _ earlier
  · rw [List.mem_singleton.mp last]

/-- A stream whose newest message is cached and young is not timed out. -/
theorem streamTimedOut_of_newest (newest : HoldsNewest start (before ++ [input]) stream)
    (regular : Regular start.activeConfig before input)
    (ordered : Ordered Input.timeMs (before ++ [input]))
    (heard : arrivals stream (before ++ [input]) ≠ [])
    (evaluates : input.evaluated (run step start before) = some s) :
    streamTimedOut stream input.env.nowMs s = false := by
  have found := evaluated_evidence evaluates
  have cache : s.cache stream = (run step start (before ++ [input])).cache stream := by
    rw [run_cache, ← found]
    rfl
  have config : s.activeConfig = start.activeConfig := by
    rw [← run_activeConfig start (before ++ [input]), run_snoc]
    have same := congrArg Evidence.activeConfig found
    rw [← step_evidence] at same
    exact same
  obtain ⟨arrival, last⟩ := List.getLast?_isSome.mpr heard |> Option.isSome_iff_exists.mp
  obtain ⟨cached, valid, stale⟩ := newest arrival last
  have young := regular stream arrival last
  have past := arrival_time_le ordered (List.mem_of_getLast? last)
  have elapsed := elapsed_le past
  have fresh : ¬ input.env.nowMs - UInt32.ofNat arrival.2 >
      start.activeConfig.timeoutMs stream := by
    rw [gt_iff_lt, UInt32.lt_iff_toNat_lt]
    change ¬ _ < (UInt32.ofNat input.timeMs - UInt32.ofNat arrival.2).toNat
    omega
  unfold streamTimedOut StateCache.expired
  rw [cache, cached, config]
  simp [StateCache.ofMessage, fresh, valid, stale]

/-- A fault that is reported was found. -/
theorem Findings.has_of_highest {found : Findings} {fault : FaultCode}
    (highest : found.highest = fault) (real : fault ≠ .none) : found.has fault = true := by
  unfold Findings.highest at highest
  cases first : FaultCode.urgency.find? found.has with
  | none =>
    rw [first] at highest
    exact absurd highest.symm real
  | some chosen =>
    rw [first] at highest
    rw [← show chosen = fault from highest]
    exact List.find?_some first

/-- A stream that is not timed out is not reported. -/
theorem published_ne_fault (alive : ∀ s, input.evaluated (run step start before) = some s →
      streamTimedOut stream input.env.nowMs s = false) :
    ∀ tlm ∈ published (run step start before) (step (run step start before) input),
      tlm.faultCode ≠ stream.fault := by
  intro tlm mem reported
  cases evaluates : input.evaluated (run step start before) with
  | none =>
    rw [(step_unevaluated evaluates).1] at mem
    cases mem
  | some s =>
    obtain ⟨sent, own, -, fault⟩ := (evaluate_evaluates input.env s).published
    rw [published_evaluated evaluates, own, List.mem_singleton] at mem
    rw [mem, fault, judge_faultCode] at reported
    have found := Findings.has_of_highest reported (by cases stream <;> decide)
    have silent := alive s evaluates
    cases stream with
    | gpsRaw => cases found
    | _ => exact Bool.noConfusion (found.symm.trans silent)

/-- An input with a message of no stream is decided on by nobody. -/
theorem decision_of_none (none : ∀ stream, input.arrival stream = none) (found : Evidence) :
    input.decision found = [] := by
  cases input with
  | message content env =>
    rw [Input.decision, Evidence.decision]
    cases state : content.state with
    | none => rfl
    | some delivered =>
      obtain ⟨own, msg, finite⟩ := delivered
      have arrives := none own
      simp [Input.arrival, state] at arrives
  | _ => rfl

/-- Streams whose numbers rise from the cached ones on are accepted and alive. -/
theorem recovered_of_rises (start : State) (inputs : List Input)
    (ordered : Ordered Input.timeMs inputs) (sound : ∀ input ∈ inputs, input.sound = true)
    (regular : Each (Regular start.activeConfig) inputs)
    (rises : ∀ stream, Rises start inputs stream) : Each (Recovered start) inputs := by
  have follows : ∀ before input rest, inputs = before ++ input :: rest →
      (∀ stream, HoldsNewest start before stream) → ∀ stream arrival,
        input.arrival stream = some arrival →
          ((run step start before).cache stream).follows arrival.1.seq = true := by
    intro before input rest equal newest stream arrival arrives
    have own := rises stream
    rw [equal] at own
    exact own.follows (newest stream) arrives
  -- What the caches hold, by induction on the inputs so far.
  have newest : ∀ before rest, inputs = before ++ rest →
      ∀ stream, HoldsNewest start before stream := by
    intro before
    induction before using List.reverseRecOn with
    | nil => exact fun _ _ _ _ mem => nomatch mem
    | append_singleton before input previous =>
      intro rest equal stream
      rw [List.append_assoc, List.singleton_append] at equal
      have earlier := previous _ equal
      apply (earlier stream).snoc
      · exact sound input (by rw [equal]; simp)
      · exact follows before input rest equal earlier stream
  intro before input rest equal
  have held := newest (before ++ [input]) rest (by rw [equal]; simp)
  constructor
  · intro decision mem
    by_cases silent : ∀ stream, input.arrival stream = none
    · rw [decision_of_none silent] at mem
      cases mem
    · obtain ⟨stream, heard⟩ := not_forall.mp silent
      obtain ⟨arrival, arrives⟩ := Option.ne_none_iff_exists'.mp heard
      obtain ⟨decided, -⟩ := @after_cache_of_some (run step start before) input stream _ arrives
        (sound input (by rw [equal]; simp))
      rw [decided, List.mem_singleton] at mem
      rw [mem]
      exact follows before input rest equal (newest before _ equal) stream arrival arrives
  · intro stream heard
    have alive : ∀ s, input.evaluated (run step start before) = some s →
        streamTimedOut stream input.env.nowMs s = false := by
      intro s evaluates
      exact streamTimedOut_of_newest (held stream) (regular before input rest equal)
        (ordered.upTo equal) heard evaluates
    exact ⟨alive, published_ne_fault alive⟩

/-- The first message of a stream that is accepted follows the cached one. -/
theorem overtakes_of_recovered (sound : ∀ input ∈ inputs, input.sound = true)
    (recovered : Each (Recovered start) inputs) :
    ∀ first ∈ ((arrivals stream inputs).map (·.1.seq)).head?,
      (start.cache stream).follows first = true := by
  intro first mem
  cases heard : arrivals stream inputs with
  | nil =>
    rw [heard] at mem
    cases mem
  | cons arrival later =>
    rw [heard] at mem
    obtain rfl := Option.some.inj mem
    obtain ⟨before, input, rest, equal, silent, arrives, -⟩ :=
      List.filterMap_eq_cons_iff.mp heard
    have none : arrivals stream before = [] := List.filterMap_eq_nil_iff.mpr silent
    obtain ⟨decided, -⟩ := @after_cache_of_some (run step start before) input stream _ arrives
      (sound input (by rw [equal]; simp))
    have accepted := (recovered before input rest equal).1 _
      (by rw [decided]; exact List.mem_singleton_self _)
    rw [run_cache_of_nil none] at accepted
    exact accepted

/-- What arrives of a stream has the numbers of what is delivered. -/
theorem arrivals_numbers (inputs : List Input) (stream : Stream) :
    (arrivals stream inputs).map (·.1.seq) =
      (inputs.filterMap Input.delivers).filterMap (StateMessage.numberIn stream) := by
  rw [arrivals, List.map_filterMap, List.filterMap_filterMap]
  congr 1
  funext input
  cases input with
  | message content env =>
    rw [Input.arrival, Input.delivers]
    cases state : content.state with
    | none => rfl
    | some delivered =>
      obtain ⟨own, msg, finite⟩ := delivered
      rw [Option.isSome_some, if_pos rfl, Option.bind_some, StateMessage.numberIn, state]
      dsimp only
      split <;> rfl
  | _ => rfl

end

/-- After a restart of the bridge its valid messages, delivered without loss and at their normal
rate, are all accepted and their streams are alive again, when the first of each stream is numbered
above the cached one and the counter does not wrap. The first is necessary for it. A restarted
bridge numbers from the beginning, and the cache refuses what is not numbered above what it holds.
-/
theorem bridge_restart_recovers (restored : Restored) (stateFile : Option (List UInt8))
    (earlier inputs : List Input) (config : Bridge.ConfigParams)
    (bridgeInputs : List Bridge.Input)
    (lossless : inputs.filterMap Input.delivers =
      publishedStates (run Bridge.step (Bridge.initialState config) bridgeInputs))
    (ordered : Ordered Input.timeMs inputs) (sound : ∀ input ∈ inputs, input.sound = true)
    (regular : Each (Regular
      (run step (initialState restored stateFile) earlier).activeConfig) inputs) :
    let start := run step (initialState restored stateFile) earlier
    let bridge := run Bridge.step (Bridge.initialState config) bridgeInputs
    ((∀ stream, Overtakes start (publishedStates bridge) stream) →
      (Bridge.ledger bridge).2.length < 2 ^ 32 → Each (Recovered start) inputs) ∧
    (Each (Recovered start) inputs →
      ∀ stream, Overtakes start (publishedStates bridge) stream) := by
  intro start bridge
  constructor
  · intro overtakes short
    apply recovered_of_rises start inputs ordered sound regular
    intro stream
    unfold Rises
    rw [arrivals_numbers, lossless]
    exact ⟨publishedStates_rise config bridgeInputs short stream, overtakes stream⟩
  · intro recovered stream
    have first := @overtakes_of_recovered start inputs stream sound recovered
    rw [arrivals_numbers, lossless] at first
    exact first

/-- A valid attitude of a number, delivered at a time. -/
def levelAttitude (seq : UInt32) (timeMs : Nat) : Input :=
  .message (.attitude ⟨⟨1000, seq, 1, 0, 0⟩, 0, 0, 0, 0, 0, 0⟩) (Env.at timeMs)

/-- The ground has the bridge restarted at a time. -/
def bridgeRestartCommand (timeMs : Nat) : Input :=
  .recovery ⟨0, 0, 1, RecoveryAction.restartBridge.code, 0, 0, 0⟩ (Env.at timeMs)

/-- The flight controller reports estimator, position, satellites and attitude. -/
def reportedStates : List Bridge.Input :=
  [Bridge.received .ekfStatusReport (List.replicate 20 0 ++ [1, 0]) 6900,
    Bridge.received .localPositionNed (Words.bytes32 1000 ++ List.replicate 24 0) 6900,
    Bridge.received .gpsRawInt (List.replicate 28 0 ++ [3, 0]) 6900,
    Bridge.received .attitude (Words.bytes32 1000 ++ List.replicate 24 0) 6900]

/-- The reported states are delivered. -/
def deliveredStates : List Input :=
  [.message (.ekfStatus ⟨⟨6900, 1, 1, 0, 0⟩, 1⟩) (Env.at 7000),
    .message (.ekfLocal ⟨⟨1000, 2, 1, 0, 0⟩, 0, 0, 0, 0, 0, 0⟩) (Env.at 7000),
    .message (.gpsRaw ⟨⟨0, 3, 1, 0, 0⟩, 3, 0, 0, 0, 0⟩) (Env.at 7000),
    levelAttitude 4 7000]

/-- After a session of one attitude all streams recover. -/
theorem bridge_restart_recovers_shortSession :
    Each (Recovered (run step (initialState Restored.none none)
      [levelAttitude 1 5000, bridgeRestartCommand 5400])) deliveredStates := by
  refine (bridge_restart_recovers Restored.none none
    [levelAttitude 1 5000, bridgeRestartCommand 5400] deliveredStates Bridge.ConfigParams.default
    reportedStates (by decide +kernel) (ordered_of_pairwise (by decide)) (by decide +kernel)
    ?_).1 ?_ (by decide +kernel)
  · rw [run_activeConfig]
    have listed : deliveredStates = (((([] : List Input) ++ [deliveredStates[0]]) ++
      [deliveredStates[1]]) ++ [deliveredStates[2]]) ++ [deliveredStates[3]] := rfl
    rw [listed]
    simp only [each_snoc, each_nil, true_and]
    refine ⟨⟨⟨?_, ?_⟩, ?_⟩, ?_⟩ <;> intro stream <;> cases stream <;> decide +kernel
  · intro stream
    cases stream <;> decide +kernel

/-- After a session of two attitudes the first attitude of the restarted bridge is refused. -/
theorem bridge_restart_refused :
    App.bridge ∈ restarted
      (run step (initialState Restored.none none) [levelAttitude 1 5000, levelAttitude 2 5200])
      (run step (initialState Restored.none none)
        [levelAttitude 1 5000, levelAttitude 2 5200, bridgeRestartCommand 5400]) ∧
    [levelAttitude 1 7000].filterMap Input.delivers =
      publishedStates (run Bridge.step (Bridge.initialState Bridge.ConfigParams.default)
        [Bridge.received .attitude (Words.bytes32 1000 ++ List.replicate 24 0) 6900]) ∧
    (levelAttitude 1 7000).sound = true ∧
    Regular ConfigParams.default [] (levelAttitude 1 7000) ∧
    ¬ Each (Recovered (run step (initialState Restored.none none)
      [levelAttitude 1 5000, levelAttitude 2 5200, bridgeRestartCommand 5400]))
      [levelAttitude 1 7000] := by
  refine ⟨by decide +kernel, by decide +kernel, by decide +kernel, ?_, ?_⟩
  · intro stream
    cases stream <;> decide +kernel
  · intro recovered
    have accepted := (recovered [] (levelAttitude 1 7000) [] rfl).1 false (by decide +kernel)
    cases accepted

end CfsTelemetry.Core
