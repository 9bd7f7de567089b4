import CfsTelemetry.Bridge.Readings
import CfsTelemetry.Library.Channel
import CfsTelemetry.Library.Sampling
import CfsTelemetry.Mission.TimeBase

/-!
# What the downlink shows of the vehicle

Attitude, position and satellite fix go from the flight controller by way of the bridge and the
bus to the LoRa application, which keeps the last of each and shows it with every frame of the
downlink. Whatever the bus loses and however the messages wait, the frames of a run show readings
of the flight controller in the order in which they were received, none of them mixed of two, and
none after a later one.
-/
namespace CfsTelemetry.Mission

open Bridge (Aspect Reading)
open Ground (Content Turn contentOf held dl2Of)
open Run

/-- The kind of telemetry that tells of an aspect. -/
def kindOf : Aspect → Ground.Kind
  | .attitude => .attitude
  | .position => .ekfLocal
  | .fix => .gpsRaw

/-- The content of the telemetry with a reading. -/
def contentOfReading : Reading → Content
  | .attitude valid rollRad pitchRad yawRad => .attitude valid rollRad pitchRad yawRad
  | .position valid x y z vx vy vz => .ekfLocal valid x y z vx vy vz
  | .fix valid latE7 lonE7 altMm fixType satellitesVisible =>
    .gpsRaw valid latE7 lonE7 altMm fixType satellitesVisible

/-- The content of a reading, if it tells of an aspect. -/
def tells (aspect : Aspect) (reading : Reading) : Option Content :=
  if reading.aspect = aspect then some (contentOfReading reading) else none

/-- What a message of the bridge tells of an aspect. -/
def messageTells (aspect : Aspect) (message : Bridge.Message) : Option Content :=
  message.reading.bind (tells aspect)

/-- What the flight controller tells of an aspect with an event. -/
def told (aspect : Aspect) : DownlinkEvent → Option Content
  | .bridge input _ => input.reading.bind (tells aspect)
  | .take _ | .lora _ _ => none

/-- What is kept of an aspect before anything is told. -/
def blank : Aspect → Content
  | .attitude => .attitude 0 0 0 0
  | .position => .ekfLocal 0 0 0 0 0 0 0
  | .fix => .gpsRaw 0 0 0 0 0 0

/-- What the flight controller tells of an aspect in a run, after what is kept before it. -/
def tellings (aspect : Aspect) (events : List DownlinkEvent) : List Content :=
  blank aspect :: events.filterMap (told aspect)

/-- The bus loses nothing. -/
def Lossless (events : List DownlinkEvent) : Prop := ∀ input, .bridge input false ∉ events

/-- The downlink follows an aspect: its frames carry what is sampled off what is told, and when
the bus has lost nothing and nothing waits, the last that was told is kept, and the next frame
carries it. -/
structure Follows (boot : DownlinkBoot) (events : List DownlinkEvent) (aspect : Aspect) :
    Prop where
  sampled : ∃ contents, Sampled contents (tellings aspect events) ∧
    List.Forall₂ (fun frame content => Ground.Carries frame.2 content) (shown boot events) contents
  current : Lossless events → (boot.after events).pipe = [] →
    (tellings aspect events).getLast? = some (held (kindOf aspect) (boot.after events).lora.data)
  next : Lossless events → (boot.after events).pipe = [] →
    ∀ event, ∀ frame ∈ shows (boot.after events) event,
      ∃ content, (tellings aspect events).getLast? = some content ∧ Ground.Carries frame.2 content

section

variable {aspect : Aspect} {boot : DownlinkBoot} {events : List DownlinkEvent} {s : Downlink}

/-- What the LoRa application reads of a message is what the message tells. -/
theorem packetOf_tells (aspect : Aspect) (message : Bridge.Message) :
    (packetOf message).bind (contentOf (kindOf aspect)) = messageTells aspect message := by
  cases message <;> cases aspect <;> rfl

/-- What a turn brings of an aspect into the cache. -/
def turnTells (aspect : Aspect) : Turn → Option Content
  | .message delivery => contentOf (kindOf aspect) delivery.packet
  | .act (.packet (.telemetry message)) => contentOf (kindOf aspect) (.telemetry message)
  | .act _ => none

/-- What happens within a cycle leaves the cache alone, unless it is a message with a content. -/
theorem act_held (aspect : Aspect) (s : Lora.State) (input : Lora.Input) :
    held (kindOf aspect) (Lora.step s input) =
      (turnTells aspect (.act input)).getD (held (kindOf aspect) s) := by
  cases input with
  | packet message =>
    cases message with
    | uplinkStatus tlm => cases aspect <;> rfl
    | telemetry message => cases message <;> cases aspect <;> rfl
  | transmit env =>
    exact Lora.runTx_keeps (held (kindOf aspect)) (fun _ _ => by cases aspect <;> rfl) env s
  | byte value now taken =>
    refine Ground.held_congr ?_ _
    have kept := congrArg Ground.cacheOf (Lora.receiveByte_unreceived value now taken s)
    exact kept
  | reopen | startWindow | readFailure | endWindow | judgeLink =>
    exact Lora.step_keeps (held (kindOf aspect)) (fun _ _ => by cases aspect <;> rfl) rfl s

/-- The LoRa application keeps the last content of an aspect. -/
theorem turn_held (aspect : Aspect) (app : Lora.App) (turn : Turn) :
    held (kindOf aspect) (Ground.turn app turn).data =
      (turnTells aspect turn).getD (held (kindOf aspect) app.data) := by
  cases turn with
  | message delivery =>
    refine Ground.processPacket_held delivery.env (fun time => ?_) app
    cases aspect <;> cases time
  | act input => exact act_held aspect app.data input

/-- What has a content of an aspect has a time of its own. -/
theorem turnTells_untimed {turn : Turn} (untimed : turnTimestamp turn = none) :
    turnTells aspect turn = none := by
  cases turn with
  | message delivery =>
    obtain ⟨env, packet⟩ := delivery
    cases packet with
    | telemetry message =>
      cases message with
      | systemHealth | routeSnapshot => cases aspect <;> rfl
      | _ => cases untimed
    | _ => cases aspect <;> rfl
  | act input =>
    cases input with
    | packet message =>
      cases message with
      | uplinkStatus tlm => rfl
      | telemetry message =>
        cases message with
        | systemHealth | routeSnapshot => cases aspect <;> rfl
        | _ => cases untimed
    | _ => rfl

/-- A start keeps nothing. -/
theorem boot_held (boot : DownlinkBoot) (aspect : Aspect) :
    held (kindOf aspect) boot.downlink.lora.data = blank aspect := by
  change held (kindOf aspect) (Lora.boot boot.io boot.loraFile).data = blank aspect
  unfold Lora.boot Lora.loadState
  split <;> cases aspect <;> rfl

/-! ## The bus -/

/-- What the LoRa application takes of an aspect with an event. -/
def takesOf (aspect : Aspect) (s : Downlink) : DownlinkEvent → List Content
  | .take _ => (s.pipe.head?.bind (messageTells aspect)).toList
  | .bridge _ _ | .lora _ _ => []

/-- What the bridge publishes of an aspect with an event. -/
def sendsOf (aspect : Aspect) (s : Downlink) : DownlinkEvent → List Content
  | .bridge input _ => (sentMessages s.bridge input).filterMap (messageTells aspect)
  | .take _ | .lora _ _ => []

/-- What waits for the LoRa application of an aspect. -/
def waitsOf (aspect : Aspect) (s : Downlink) : List Content :=
  s.pipe.filterMap (messageTells aspect)

/-- What the bridge publishes of an aspect is what the flight controller tells with the event. -/
theorem sendsOf_told (inRange : Bridge.InRange s.bridge) (aspect : Aspect) (event : DownlinkEvent) :
    sendsOf aspect s event = (told aspect event).toList := by
  cases event with
  | take env => rfl
  | lora turn untimed => rfl
  | bridge input delivered =>
    have each (output : Bridge.Output) :
        (subscribedMessage output).bind (messageTells aspect) =
          output.reading.bind (tells aspect) := by
      cases output with
      | tx frame => rfl
      | message content => cases content <;> rfl
    have published := Bridge.step_newReadings inRange input
    calc (sentMessages s.bridge input).filterMap (messageTells aspect)
      _ = (((Bridge.newOutputs s.bridge (Bridge.step s.bridge input)).filterMap
            Bridge.Output.reading).filterMap (tells aspect)).reverse := by
        rw [sentMessages, List.filterMap_filterMap, List.filterMap_reverse,
          List.filterMap_filterMap]
        simp only [each]
      _ = (input.reading.bind (tells aspect)).toList := by
        rw [published]
        cases input.reading with
        | none => rfl
        | some reading =>
          rw [Option.toList_some, List.filterMap_cons, Option.bind_some]
          cases tells aspect reading <;> rfl

/-- What an event takes and what still waits is what waited and what it sends, unless the bus
loses it. -/
theorem takesOf_eq (aspect : Aspect) (s : Downlink) {event : DownlinkEvent}
    (delivered : ∀ input, event ≠ .bridge input false) :
    takesOf aspect s event ++ waitsOf aspect (downlinkStep s event) =
      waitsOf aspect s ++ sendsOf aspect s event := by
  cases event with
  | bridge input kept =>
    cases kept with
    | false => exact absurd rfl (delivered input)
    | true => exact List.filterMap_append
  | lora turn untimed => exact (List.append_nil _).symm
  | take env =>
    rw [sendsOf, List.append_nil, takesOf, waitsOf, waitsOf]
    have pipe : (downlinkStep s (.take env)).pipe = s.pipe.tail := rfl
    rw [pipe]
    cases s.pipe with
    | nil => rfl
    | cons message rest =>
      rw [List.filterMap_cons, List.head?_cons, Option.bind_some, List.tail_cons]
      cases messageTells aspect message <;> rfl

/-- What an event takes and what still waits is a part of what waited and what it sends. -/
theorem takesOf_sublist (aspect : Aspect) (s : Downlink) (event : DownlinkEvent) :
    (takesOf aspect s event ++ waitsOf aspect (downlinkStep s event)).Sublist
      (waitsOf aspect s ++ sendsOf aspect s event) := by
  by_cases lost : ∃ input, event = .bridge input false
  · obtain ⟨input, rfl⟩ := lost
    have pipe : (downlinkStep s (.bridge input false)).pipe = s.pipe := List.append_nil _
    rw [takesOf, List.nil_append, waitsOf, pipe]
    exact List.sublist_append_left _ _
  · rw [takesOf_eq aspect s (fun input same => lost ⟨input, same⟩)]

/-- The cache holds the last of what it held and what an event takes. -/
theorem takesOf_held (aspect : Aspect) (s : Downlink) (event : DownlinkEvent) :
    (held (kindOf aspect) s.lora.data :: takesOf aspect s event).getLast? =
      some (held (kindOf aspect) (downlinkStep s event).lora.data) := by
  have turned : (downlinkStep s event).lora = afterTurn s.lora (turnOf s event) := by
    cases event <;> rfl
  have taken : takesOf aspect s event = ((turnOf s event).bind (turnTells aspect)).toList := by
    cases event with
    | bridge input delivered => rfl
    | lora turn untimed =>
      have nothing : turnTells aspect turn = none := turnTells_untimed untimed
      rw [turnOf, Option.bind_some, nothing]
      rfl
    | take env =>
      rw [takesOf, turnOf]
      cases s.pipe.head? with
      | none => rfl
      | some message =>
        rw [Option.bind_some, Option.bind_some, ← packetOf_tells, messageTurn]
        cases packetOf message <;> rfl
  rw [taken, turned]
  cases turnOf s event with
  | none => rfl
  | some turn =>
    rw [Option.bind_some, afterTurn, Option.elim_some, turn_held]
    cases turnTells aspect turn <;> rfl

/-- The bridge keeps its indices in range. -/
theorem downlink_inRange (boot : DownlinkBoot) (events : List DownlinkEvent) :
    Bridge.InRange (boot.after events).bridge := by
  induction events using List.reverseRecOn with
  | nil => exact Bridge.initialState_inRange boot.config
  | append_singleton before event previous =>
    rw [downlink_snoc]
    cases event with
    | bridge input delivered => exact Bridge.run_inRange previous [input]
    | take env => exact previous
    | lora turn untimed => exact previous

/-- What is published of an aspect in a run is what is told. -/
theorem project_sendsOf (boot : DownlinkBoot) (events : List DownlinkEvent) (aspect : Aspect) :
    project downlinkStep (sendsOf aspect) boot.downlink events =
      events.filterMap (told aspect) := by
  rw [List.filterMap_eq_flatMap_toList,
    ← Channel.project_inputs (fun event => (told aspect event).toList) boot.downlink events]
  refine Channel.project_eq (each_of_forall fun event _ before => ?_)
  exact sendsOf_told (downlink_inRange boot before) aspect event

/-- What is taken in a run is a part of what is told. -/
theorem project_takesOf (boot : DownlinkBoot) (events : List DownlinkEvent) (aspect : Aspect) :
    (project downlinkStep (takesOf aspect) boot.downlink events).Sublist
      (events.filterMap (told aspect)) := by
  have taken := Channel.taken_sublist (takesOf_sublist aspect) boot.downlink events
  rw [project_sendsOf] at taken
  exact (List.sublist_append_left _ _).trans taken

/-- What is held of an aspect when a frame is written. -/
def heldBy (aspect : Aspect) (s : Downlink) (event : DownlinkEvent) : List Content :=
  (shows s event).map fun _ => held (kindOf aspect) s.lora.data

/-- The frames of a run carry what is held when they are written. -/
theorem shown_carries (boot : DownlinkBoot) (events : List DownlinkEvent) (aspect : Aspect) :
    List.Forall₂ (fun frame content => Ground.Carries frame.2 content) (shown boot events)
      (project downlinkStep (heldBy aspect) boot.downlink events) := by
  induction events using List.reverseRecOn with
  | nil => exact .nil
  | append_singleton before event previous =>
    rw [shown_snoc, project_snoc]
    refine List.rel_append previous ?_
    change List.Forall₂ _ _ (heldBy aspect (boot.after before) event)
    rw [heldBy]
    rcases shows_cases (boot.after before) event with ⟨nothing, -⟩ | ⟨one, -⟩
    · rw [nothing]
      exact .nil
    · rw [one]
      exact .cons (Ground.dl2Of_carries _ _) .nil

/-- In every run of bridge, bus and LoRa application, whatever is lost and however messages wait,
the downlink follows attitude, position and satellite fix. -/
theorem downlink_follows (boot : DownlinkBoot) (events : List DownlinkEvent) (aspect : Aspect) :
    Follows boot events aspect := by
  have own : ∀ s event, ∀ content ∈ heldBy aspect s event,
      content = held (kindOf aspect) s.lora.data := by
    intro s event content among
    obtain ⟨frame, -, same⟩ := List.mem_map.mp among
    exact same.symm
  obtain ⟨sampled, last⟩ := run_sampled own (takesOf_held aspect) boot.downlink events
  rw [boot_held] at sampled last
  have current : Lossless events → (boot.after events).pipe = [] →
      (tellings aspect events).getLast? =
        some (held (kindOf aspect) (boot.after events).lora.data) := by
    intro lossless empty
    have each : Each (fun before event =>
        takesOf aspect (boot.after before) event ++
            waitsOf aspect (downlinkStep (boot.after before) event) =
          waitsOf aspect (boot.after before) ++ sendsOf aspect (boot.after before) event)
        events := by
      refine each_of_forall fun event among before => takesOf_eq aspect _ fun input lost => ?_
      rw [lost] at among
      exact lossless input among
    have taken := Channel.taken_eq each
    have waiting : waitsOf aspect (run downlinkStep boot.downlink events) = [] := by
      change (boot.after events).pipe.filterMap _ = []
      rw [empty]
      rfl
    rw [waiting, List.append_nil, project_sendsOf] at taken
    rw [tellings, ← List.nil_append (events.filterMap _)]
    rw [taken] at last
    exact last
  constructor
  · refine ⟨_, sampled.of_sublist ?_, shown_carries boot events aspect⟩
    exact (project_takesOf boot events aspect).cons_cons _
  · exact current
  · intro lossless empty event frame among
    refine ⟨_, current lossless empty, ?_⟩
    rcases shows_cases (boot.after events) event with ⟨nothing, -⟩ | ⟨one, -⟩
    · rw [nothing] at among
      cases among
    · rw [one] at among
      rw [List.mem_singleton.mp among]
      exact Ground.dl2Of_carries _ _

end

end CfsTelemetry.Mission
