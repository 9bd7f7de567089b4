import CfsTelemetry.Bridge.Stamps
import CfsTelemetry.Ground.Readback
import CfsTelemetry.Lora.Config

/-!
# The time base of the downlink

The LoRa application keeps one time for all the state messages it takes, and every downlink frame
shows it. The bridge stamps attitude, position and satellite fix by the clock of the flight
controller and the state of the estimator by its own. The frames of a run show one time base
exactly when they are not sent partly after the one and partly after the other.
-/
namespace CfsTelemetry.Mission

open Bridge (ClockSource Stamp)
open Ground (Dl2Frame Turn dl2Frames dl2Of)
open Run

/-- What the LoRa application reads of a message of the bridge that it subscribes to. -/
def packetOf : Bridge.Message → Option Lora.Packet
  | .attitude tlm =>
    some (.telemetry (.attitude tlm.timestampMs tlm.valid tlm.rollRad tlm.pitchRad tlm.yawRad))
  | .ekfLocal tlm =>
    some (.telemetry (.ekfLocal tlm.timestampMs tlm.valid tlm.x tlm.y tlm.z tlm.vx tlm.vy tlm.vz))
  | .gpsRaw tlm =>
    some (.telemetry (.gpsRaw tlm.timestampMs tlm.valid tlm.latE7 tlm.lonE7 tlm.altMm tlm.fixType
      tlm.satellitesVisible))
  | .ekfStatus tlm => some (.telemetry (.ekfStatus tlm.timestampMs tlm.valid))
  | .sysTime tlm => some (.sysTime tlm.valid tlm.timeUnixUsec)
  | .fcMissionReadback _ | .housekeeping _ | .execResult _ => none

/-- The bridge, the messages that wait for the LoRa application, oldest first, and that
application. -/
structure Downlink where
  bridge : Bridge.State
  pipe : List Bridge.Message
  lora : Lora.App
  /-- The clock that the time was read off that the LoRa application keeps. -/
  source : Option ClockSource

/-- The time of a message, when the LoRa application keeps it. -/
def turnTimestamp : Turn → Option UInt32
  | .message delivery => Ground.timestampOf delivery.packet
  | .act (.packet (.telemetry message)) => Ground.timestampOf (.telemetry message)
  | .act _ => none

/-- Something that happens to the downlink. -/
inductive DownlinkEvent where
  /-- Something happens to the bridge, and the bus may lose what it publishes. -/
  | bridge (input : Bridge.Input) (delivered : Bool)
  /-- The LoRa application takes the message that has waited longest. -/
  | take (env : Lora.PacketEnv)
  /-- Something else happens to the LoRa application. -/
  | lora (turn : Turn) (untimed : turnTimestamp turn = none)

/-- The message of an output that the LoRa application subscribes to. -/
def subscribedMessage : Bridge.Output → Option Bridge.Message
  | .message content => if (packetOf content).isSome then some content else none
  | .tx _ => none

/-- The messages for the LoRa application that the bridge publishes with an input. -/
def sentMessages (s : Bridge.State) (input : Bridge.Input) : List Bridge.Message :=
  (Bridge.newOutputs s (Bridge.step s input)).reverse.filterMap subscribedMessage

/-- What the LoRa application does when it takes a message of the bridge. -/
def messageTurn (env : Lora.PacketEnv) (message : Bridge.Message) : Option Turn :=
  (packetOf message).map fun packet => .message ⟨env, packet⟩

/-- What an event is for the LoRa application. -/
def turnOf (s : Downlink) : DownlinkEvent → Option Turn
  | .bridge _ _ => none
  | .take env => s.pipe.head?.bind (messageTurn env)
  | .lora turn _ => some turn

/-- The LoRa application after a turn, if there is one. -/
def afterTurn (app : Lora.App) (turn : Option Turn) : Lora.App := turn.elim app (Ground.turn app)

/-- What an event brings about. Nothing is taken from an empty pipe. -/
def downlinkStep (s : Downlink) (event : DownlinkEvent) : Downlink :=
  let lora := afterTurn s.lora (turnOf s event)
  match event with
  | .bridge input delivered =>
    { s with
      bridge := Bridge.step s.bridge input
      pipe := s.pipe ++ if delivered then sentMessages s.bridge input else [] }
  | .take _ =>
    { s with
      pipe := s.pipe.tail
      lora := lora
      source := (s.pipe.head?.bind Bridge.Message.stamp).map Prod.fst <|> s.source }
  | .lora _ _ => { s with lora := lora }

/-- What the downlink starts with. -/
structure DownlinkBoot where
  config : Bridge.ConfigParams
  io : StateFile.LoadIo
  loraFile : Option (List UInt8)

/-- The downlink after its start. -/
def DownlinkBoot.downlink (boot : DownlinkBoot) : Downlink where
  bridge := Bridge.initialState boot.config
  pipe := []
  lora := Lora.boot boot.io boot.loraFile
  source := none

/-- The downlink after events. -/
def DownlinkBoot.after (boot : DownlinkBoot) (events : List DownlinkEvent) : Downlink :=
  run downlinkStep boot.downlink events

/-- The reading of a clock with an event: the time that the flight controller gives in a frame,
or that at which the bridge has received it. -/
def readingOf (clock : ClockSource) : DownlinkEvent → Option Nat
  | .bridge (.frame frame rxTimestampMs _) _ =>
    match clock with
    | .flightController => frame.timeMs
    | .companion => some rxTimestampMs.toNat
  | _ => none

/-- The readings of a clock in a run. -/
def readings (clock : ClockSource) (events : List DownlinkEvent) : List Nat :=
  events.filterMap (readingOf clock)

/-- Neither clock goes back or wraps. -/
structure Timely (events : List DownlinkEvent) : Prop where
  rises : ∀ clock, (readings clock events).Pairwise (· ≤ ·)
  fits : ∀ time ∈ readings .flightController events, time < 2 ^ 32

/-- The frames that are sent with an event, as they are decoded, each with the clock that its time
was read off. -/
def shows (s : Downlink) (event : DownlinkEvent) : List (Option ClockSource × Dl2Frame) :=
  ((dl2Frames (downlinkStep s event).lora).drop (dl2Frames s.lora).length).filterMap fun frame =>
    (Ground.decodeDl2 frame).map (s.source, ·)

/-- The frames of a run, oldest first. -/
def shown (boot : DownlinkBoot) (events : List DownlinkEvent) :
    List (Option ClockSource × Dl2Frame) :=
  project downlinkStep shows boot.downlink events

/-- The frames of a run have one time base: their times do not decrease, and are read off one
clock. -/
structure OneTimeBase (boot : DownlinkBoot) (events : List DownlinkEvent) : Prop where
  rises : (shown boot events).Pairwise (·.2.tsMs ≤ ·.2.tsMs)
  oneClock : ∀ first ∈ shown boot events, ∀ second ∈ shown boot events,
    ∀ clock ∈ first.1, ∀ other ∈ second.1, clock = other

/-- Whether a message with a time of its own tells the state of the estimator. -/
def ofEstimator : Bridge.Message → Option Bool
  | .attitude _ | .ekfLocal _ | .gpsRaw _ => some false
  | .ekfStatus _ => some true
  | _ => none

/-- What the LoRa application learns by taking a message with a time of its own. -/
def takings (s : Downlink) : DownlinkEvent → List Bool
  | .take _ => (s.pipe.head?.bind ofEstimator).toList
  | _ => []

/-- Whether the message with a time of its own that was taken last tells the state of the
estimator. -/
def lastTaken (boot : DownlinkBoot) (events : List DownlinkEvent) : Option Bool :=
  (project downlinkStep takings boot.downlink events).getLast?

/-- A frame is written, and the message with a time of its own that was taken last tells the state
of the estimator, or it does not. -/
def WritesAfter (boot : DownlinkBoot) (estimator : Bool) (before : List DownlinkEvent)
    (event : DownlinkEvent) : Prop :=
  (∃ turn ∈ turnOf (boot.after before) event, Ground.writes (boot.after before).lora turn ≠ []) ∧
    lastTaken boot before = some estimator

section

variable {boot : DownlinkBoot} {before events : List DownlinkEvent} {event : DownlinkEvent}
  {s : Downlink}

/-- What happens within a cycle leaves the cached time alone, unless it is a message with a time
of its own. -/
theorem act_timestampMs (s : Lora.State) (input : Lora.Input) :
    (Lora.step s input).fcState.timestampMs =
      (turnTimestamp (.act input)).getD s.fcState.timestampMs := by
  cases input with
  | packet message =>
    cases message with
    | uplinkStatus tlm => rfl
    | telemetry message => cases message <;> rfl
  | transmit env => exact Lora.runTx_keeps (·.fcState.timestampMs) (fun _ _ => rfl) env s
  | byte value now taken =>
    have kept := congrArg Lora.State.fcState (Lora.receiveByte_unreceived value now taken s)
    exact congrArg Lora.FcStateCache.timestampMs kept
  | reopen | startWindow | readFailure | endWindow | judgeLink =>
    exact Lora.step_keeps (·.fcState.timestampMs) (fun _ _ => rfl) rfl s

/-- The LoRa application keeps the time of the last message that has one. -/
theorem turn_timestampMs (app : Lora.App) (turn : Turn) :
    (Ground.turn app turn).data.fcState.timestampMs =
      (turnTimestamp turn).getD app.data.fcState.timestampMs := by
  cases turn with
  | message delivery => exact Ground.processPacket_timestampMs delivery.env delivery.packet app
  | act input => exact act_timestampMs app.data input

/-- The LoRa application reads the stamp of a message. -/
theorem packetOf_timestamp {message : Bridge.Message} {packet : Lora.Packet}
    (read : packetOf message = some packet) :
    Ground.timestampOf packet = message.stamp.map Prod.snd := by
  cases message <;> cases read <;> rfl

/-- A start keeps the time zero. -/
theorem boot_timestampMs (boot : DownlinkBoot) :
    boot.downlink.lora.data.fcState.timestampMs = 0 := by
  change (Lora.boot boot.io boot.loraFile).data.fcState.timestampMs = 0
  unfold Lora.boot Lora.loadState
  split <;> rfl

/-! ## What the frames show -/

/-- The frames of an event show what the LoRa application kept before it. -/
theorem shows_eq (s : Downlink) (event : DownlinkEvent) :
    shows s event = (turnOf s event).elim [] fun turn =>
      (Ground.writes s.lora turn).map fun data => (s.source, dl2Of data) := by
  have turned : (downlinkStep s event).lora = afterTurn s.lora (turnOf s event) := by
    cases event <;> rfl
  have decoded (data : Lora.State) : Ground.decodeDl2 (Ground.frameOf data) = some (dl2Of data) :=
    Ground.decodeDl2_dl2Body rfl
  rw [shows, turned]
  cases turnOf s event with
  | none => simp [afterTurn]
  | some turn =>
    have frames := Ground.dl2Frames_run s.lora [turn]
    have written : Ground.written s.lora [turn] = Ground.writes s.lora turn := List.append_nil _
    rw [written] at frames
    change dl2Frames (Ground.turn s.lora turn) = _ at frames
    rw [afterTurn, Option.elim_some, Option.elim_some, frames, List.drop_left]
    simp [List.filterMap_map, decoded]

/-- An event shows one frame at most, of the data before it. -/
theorem shows_cases (s : Downlink) (event : DownlinkEvent) :
    (shows s event = [] ∧ ∀ turn ∈ turnOf s event, Ground.writes s.lora turn = []) ∨
      (shows s event = [(s.source, dl2Of s.lora.data)] ∧
        ∃ turn ∈ turnOf s event, Ground.writes s.lora turn ≠ []) := by
  rw [shows_eq]
  cases turnOf s event with
  | none => simp
  | some turn =>
    have single : Ground.writes s.lora turn = [] ∨ Ground.writes s.lora turn = [s.lora.data] := by
      cases turn with
      | message delivery => exact .inl rfl
      | act input =>
        cases input with
        | transmit env =>
          unfold Ground.writes
          dsimp only
          split_ifs
          · exact .inr rfl
          · exact .inl rfl
        | _ => exact .inl rfl
    rcases single with none | one
    · simp [none]
    · simp [one]

/-- A frame shows what the LoRa application kept before the event. -/
theorem mem_shows {frame : Option ClockSource × Dl2Frame} (shown : frame ∈ shows s event) :
    frame = (s.source, dl2Of s.lora.data) := by
  rcases shows_cases s event with ⟨nothing, _⟩ | ⟨one, _⟩
  · simp [nothing] at shown
  · rw [one, List.mem_singleton] at shown
    exact shown

/-- The time that the LoRa application keeps, and the clock it was read off. -/
def keptTime (s : Downlink) : Option ClockSource × UInt32 :=
  (s.source, s.lora.data.fcState.timestampMs)

/-- The stamps of the messages that wait, oldest first. -/
def pipeStamps (s : Downlink) : List Stamp := s.pipe.filterMap Bridge.Message.stamp

/-- A stamp is a reading of its clock with an event, cut to 32 bits. -/
def ReadWith (stamp : Stamp) (event : DownlinkEvent) : Prop :=
  ∃ time, readingOf stamp.1 event = some time ∧ stamp.2 = UInt32.ofNat time

/-- What an event does to the stamps: one joins those that wait, or the first of them is taken. -/
inductive StampMove (s s' : Downlink) (event : DownlinkEvent) : Prop where
  | joins (sent : Option Stamp) (kept : keptTime s' = keptTime s)
      (pipe : pipeStamps s' = pipeStamps s ++ sent.toList)
      (read : ∀ stamp ∈ sent, ReadWith stamp event)
  | taken (stamp : Stamp) (kept : keptTime s' = (some stamp.1, stamp.2))
      (pipe : pipeStamps s = stamp :: pipeStamps s')

/-- A message with a stamp is subscribed to. -/
theorem packetOf_of_stamp {message : Bridge.Message} {stamp : Stamp}
    (stamped : message.stamp = some stamp) : ∃ packet, packetOf message = some packet := by
  cases message with
  | attitude | ekfLocal | gpsRaw | ekfStatus => exact ⟨_, rfl⟩
  | _ => cases stamped

/-- Of what the bridge puts out, everything with a stamp is sent to the LoRa application. -/
theorem sentMessages_stamps (s : Bridge.State) (input : Bridge.Input) :
    (sentMessages s input).filterMap Bridge.Message.stamp =
      ((Bridge.newOutputs s (Bridge.step s input)).filterMap Bridge.Output.stamp).reverse := by
  have each (output : Bridge.Output) :
      (subscribedMessage output).bind Bridge.Message.stamp = output.stamp := by
    cases output with
    | tx frame => rfl
    | message content => cases content <;> rfl
  rw [sentMessages, List.filterMap_filterMap, ← List.filterMap_reverse]
  simp only [each]

/-- What an input of the bridge sends has no stamp, or one that is read with it. -/
theorem sentMessages_read {s : Bridge.State} (inRange : Bridge.InRange s) (input : Bridge.Input)
    (delivered : Bool) :
    ∃ sent : Option Stamp,
      (sentMessages s input).filterMap Bridge.Message.stamp = sent.toList ∧
        ∀ stamp ∈ sent, ReadWith stamp (.bridge input delivered) := by
  rw [sentMessages_stamps]
  rcases Bridge.step_newStamps inRange input with
    nothing | ⟨frame, rx, env, stamp, same, one, read⟩
  · exact ⟨none, by rw [nothing]; rfl, by simp⟩
  · refine ⟨some stamp, by rw [one]; rfl, ?_⟩
    intro own member
    rw [← Option.mem_some_iff.mp member, same]
    have ⟨clock, value⟩ := stamp
    cases clock with
    | flightController => exact read
    | companion =>
      have received : value = rx := read
      exact ⟨rx.toNat, rfl, by rw [received, UInt32.ofNat_toNat]⟩

/-- What a message does that is taken. -/
theorem take_moves {env : Lora.PacketEnv} {message : Bridge.Message} {rest : List Bridge.Message}
    (pipe : s.pipe = message :: rest) :
    StampMove s (downlinkStep s (.take env)) (.take env) := by
  have left : (downlinkStep s (.take env)).pipe = rest := by simp [downlinkStep, pipe]
  have source : (downlinkStep s (.take env)).source =
      (message.stamp.map Prod.fst <|> s.source) := by
    simp [downlinkStep, pipe]
  have turn : (downlinkStep s (.take env)).lora = afterTurn s.lora (messageTurn env message) := by
    simp [downlinkStep, turnOf, pipe]
  have time : (downlinkStep s (.take env)).lora.data.fcState.timestampMs =
      (message.stamp.map Prod.snd).getD s.lora.data.fcState.timestampMs := by
    rw [turn, messageTurn]
    cases read : packetOf message with
    | none =>
      have unstamped : message.stamp = none := by
        cases stamped : message.stamp with
        | none => rfl
        | some stamp =>
          have ⟨packet, found⟩ := packetOf_of_stamp stamped
          rw [read] at found
          cases found
      rw [unstamped]
      rfl
    | some packet =>
      rw [← packetOf_timestamp read]
      exact turn_timestampMs s.lora (.message ⟨env, packet⟩)
  cases stamped : message.stamp with
  | none =>
    rw [stamped] at source time
    refine .joins none (Prod.ext source time) ?_ (by simp)
    simp [pipeStamps, left, pipe, stamped]
  | some stamp =>
    rw [stamped] at source time
    refine .taken stamp (Prod.ext source time) ?_
    simp [pipeStamps, left, pipe, stamped]

/-- What an event does to the stamps. -/
theorem downlinkStep_moves (inRange : Bridge.InRange s.bridge) (event : DownlinkEvent) :
    StampMove s (downlinkStep s event) event := by
  have idle {s' : Downlink} (kept : keptTime s' = keptTime s) (pipe : s'.pipe = s.pipe) :
      StampMove s s' event :=
    .joins none kept (by simp [pipeStamps, pipe]) (by simp)
  cases event with
  | bridge input delivered =>
    have pipe : (downlinkStep s (.bridge input delivered)).pipe =
      s.pipe ++ if delivered then sentMessages s.bridge input else [] := rfl
    cases delivered with
    | false => exact idle rfl (by simp [pipe])
    | true =>
      have ⟨sent, own, read⟩ := sentMessages_read inRange input true
      exact .joins sent rfl (by simp [pipeStamps, pipe, own]) read
  | take env =>
    cases pipe : s.pipe with
    | nil =>
      apply idle
      · simp [keptTime, downlinkStep, turnOf, afterTurn, pipe]
      · simp [downlinkStep, pipe]
    | cons message rest => exact take_moves pipe
  | lora turn untimed =>
    have time := turn_timestampMs s.lora turn
    rw [untimed] at time
    exact idle (Prod.ext rfl time) rfl

/-! ## The invariant -/

/-- Of two stamps of one clock, the first is not above the second. -/
def NotAbove (first second : Stamp) : Prop := first.1 = second.1 → first.2 ≤ second.2

/-- The stamp that the LoRa application keeps and those that wait, oldest first. -/
def waiting (s : Downlink) : List Stamp :=
  (s.source.map (·, s.lora.data.fcState.timestampMs)).toList ++ pipeStamps s

/-- The stamps that frames show. -/
def shownStamps (frames : List (Option ClockSource × Dl2Frame)) : List Stamp :=
  frames.filterMap fun frame => frame.1.map (·, frame.2.tsMs)

/-- The stamps that wait are in order, and behind those that frames have shown. Without a clock
the time is zero. -/
structure InOrder (events : List DownlinkEvent) (s : Downlink)
    (frames : List (Option ClockSource × Dl2Frame)) : Prop where
  inRange : Bridge.InRange s.bridge
  ordered : (waiting s).Pairwise NotAbove
  passed : ∀ stamp ∈ shownStamps frames, ∀ next ∈ waiting s, NotAbove stamp next
  read : ∀ stamp ∈ shownStamps frames ++ waiting s, stamp.2.toNat ∈ readings stamp.1 events
  start : s.source = none →
    s.lora.data.fcState.timestampMs = 0 ∧ ∀ frame ∈ frames, frame.1 = none
  bare : ∀ frame ∈ frames, frame.1 = none → frame.2.tsMs = 0

/-- The stamp that is kept is the first that waits. -/
theorem waiting_of_source {clock : ClockSource} (source : s.source = some clock) :
    waiting s = (clock, s.lora.data.fcState.timestampMs) :: pipeStamps s := by
  rw [waiting, source]
  rfl

/-- What waits after an event has waited before it, or is a new stamp. -/
theorem StampMove.waiting {s' : Downlink} (moves : StampMove s s' event) :
    ∃ sent : Option Stamp, (waiting s').Sublist (waiting s ++ sent.toList) ∧
      ∀ stamp ∈ sent, ReadWith stamp event := by
  cases moves with
  | joins sent kept pipe read =>
    refine ⟨sent, ?_, read⟩
    have ⟨source, time⟩ := Prod.mk.inj kept
    rw [Mission.waiting, Mission.waiting, source, time, pipe, List.append_assoc]
  | taken stamp kept pipe =>
    refine ⟨none, ?_, by simp⟩
    have ⟨source, time⟩ := Prod.mk.inj kept
    rw [waiting_of_source source, time, Mission.waiting, pipe]
    simp

/-- A clock keeps its readings. -/
theorem readings_snoc (clock : ClockSource) :
    readings clock (before ++ [event]) =
      readings clock before ++ (readingOf clock event).toList := by
  rw [readings, List.filterMap_append]
  cases reads : readingOf clock event <;> simp [reads, readings]

/-- A timely run is timely without its last event. -/
theorem Timely.earlier (timely : Timely (before ++ [event])) : Timely before := by
  constructor
  · intro clock
    have rises := timely.rises clock
    rw [readings_snoc, List.pairwise_append] at rises
    exact rises.1
  · intro time member
    apply timely.fits
    rw [readings_snoc]
    exact List.mem_append_left _ member

/-- A new stamp is a reading, and not below the readings of its clock before it. -/
theorem ReadWith.latest {stamp : Stamp} (timely : Timely (before ++ [event]))
    (read : ReadWith stamp event) :
    stamp.2.toNat ∈ readings stamp.1 (before ++ [event]) ∧
      ∀ time ∈ readings stamp.1 before, time ≤ stamp.2.toNat := by
  have ⟨time, reading, value⟩ := read
  have rises := timely.rises stamp.1
  have listed : time ∈ readings stamp.1 (before ++ [event]) := by
    rw [readings_snoc, reading]
    simp
  have whole : stamp.2.toNat = time := by
    have small : time < 2 ^ 32 := by
      have ⟨clock, stored⟩ := stamp
      cases clock with
      | flightController => exact timely.fits time listed
      | companion =>
        cases event with
        | bridge input delivered =>
          cases input with
          | frame frame rxTimestampMs env =>
            rw [← Option.some.inj reading]
            exact rxTimestampMs.toNat_lt
          | _ => cases reading
        | _ => cases reading
    rw [value, UInt32.toNat_ofNat', Nat.mod_eq_of_lt small]
  rw [whole]
  refine ⟨listed, fun earlier member => ?_⟩
  rw [readings_snoc, reading, List.pairwise_append] at rises
  exact rises.2.2 earlier member time (by simp)

/-- The downlink after one event more. -/
theorem downlink_snoc : boot.after (before ++ [event]) = downlinkStep (boot.after before) event :=
  run_snoc _ _ _ _

/-- The frames after one event more. -/
theorem shown_snoc :
    shown boot (before ++ [event]) = shown boot before ++ shows (boot.after before) event :=
  @project_snoc _ _ _ downlinkStep shows boot.downlink before event

/-- A start is in order. -/
theorem downlink_inOrder (boot : DownlinkBoot) : InOrder [] boot.downlink [] where
  inRange := Bridge.initialState_inRange boot.config
  ordered := .nil
  passed := by simp [shownStamps]
  read := by simp [shownStamps, waiting, pipeStamps, DownlinkBoot.downlink]
  start _ := ⟨boot_timestampMs boot, by simp⟩
  bare := by simp

variable {frames : List (Option ClockSource × Dl2Frame)}

/-- The stamps that an event shows are kept before it. -/
theorem shownStamps_shows {stamp : Stamp} (member : stamp ∈ shownStamps (shows s event)) :
    s.source = some stamp.1 ∧ stamp.2 = s.lora.data.fcState.timestampMs := by
  rw [shownStamps, List.mem_filterMap] at member
  have ⟨frame, now, own⟩ := member
  rw [mem_shows now, Option.map_eq_some_iff] at own
  have ⟨clock, source, same⟩ := own
  rw [← same]
  exact ⟨source, rfl⟩

/-- What has been shown after an event was shown before it, or waited first. -/
theorem mem_shownStamps {stamp : Stamp} (member : stamp ∈ shownStamps (frames ++ shows s event)) :
    stamp ∈ shownStamps frames ∨ waiting s = stamp :: pipeStamps s := by
  rw [shownStamps, List.filterMap_append, List.mem_append] at member
  rcases member with earlier | now
  · exact .inl earlier
  · have ⟨source, time⟩ := shownStamps_shows now
    right
    rw [waiting_of_source source, ← time]

/-- What has been shown after an event is known before it. -/
theorem shownStamps_known {stamp : Stamp}
    (member : stamp ∈ shownStamps (frames ++ shows s event)) :
    stamp ∈ shownStamps frames ++ waiting s := by
  rcases mem_shownStamps member with earlier | first
  · exact List.mem_append_left _ earlier
  · apply List.mem_append_right
    rw [first]
    exact List.mem_cons_self

/-- What an event shows is not above what waits. -/
theorem InOrder.passed_shows (inOrder : InOrder before s frames) {stamp next : Stamp}
    (member : stamp ∈ shownStamps (frames ++ shows s event)) (waits : next ∈ waiting s) :
    NotAbove stamp next := by
  rcases mem_shownStamps member with earlier | first
  · exact inOrder.passed stamp earlier next waits
  · have sorted := inOrder.ordered
    rw [first] at waits sorted
    rcases List.mem_cons.mp waits with rfl | behind
    · exact fun _ => UInt32.le_refl _
    · exact (List.pairwise_cons.mp sorted).1 next behind

/-- A new stamp is not below anything that is known before it. -/
theorem InOrder.newest (inOrder : InOrder before s frames) (timely : Timely (before ++ [event]))
    {stamp next : Stamp} (known : stamp ∈ shownStamps frames ++ waiting s)
    (read : ReadWith next event) : NotAbove stamp next := by
  intro same
  have ⟨_, latest⟩ := read.latest timely
  have earlier := inOrder.read stamp known
  rw [same] at earlier
  exact UInt32.le_iff_toNat_le.mpr (latest _ earlier)

/-- What an event shows without a clock has the time zero. -/
theorem InOrder.bare_shows (inOrder : InOrder before s frames)
    {frame : Option ClockSource × Dl2Frame} (member : frame ∈ frames ++ shows s event)
    (bare : frame.1 = none) : frame.2.tsMs = 0 := by
  rcases List.mem_append.mp member with earlier | now
  · exact inOrder.bare frame earlier bare
  · rw [mem_shows now] at bare ⊢
    exact (inOrder.start bare).1

/-- Without a clock after an event, nothing has been kept or shown by then. -/
theorem InOrder.start_next (inOrder : InOrder before s frames)
    (moves : StampMove s (downlinkStep s event) event)
    (source : (downlinkStep s event).source = none) :
    (downlinkStep s event).lora.data.fcState.timestampMs = 0 ∧
      ∀ frame ∈ frames ++ shows s event, frame.1 = none := by
  cases moves with
  | taken stamp kept pipe =>
    have ⟨same, _⟩ := Prod.mk.inj kept
    rw [same] at source
    cases source
  | joins sent kept pipe read =>
    have ⟨same, time⟩ := Prod.mk.inj kept
    rw [same] at source
    have ⟨zero, bare⟩ := inOrder.start source
    refine ⟨time.trans zero, fun frame member => ?_⟩
    rcases List.mem_append.mp member with earlier | now
    · exact bare frame earlier
    · rw [mem_shows now]
      exact source

/-- Events keep the downlink in order. -/
theorem InOrder.step (inOrder : InOrder before s frames) (timely : Timely (before ++ [event])) :
    InOrder (before ++ [event]) (downlinkStep s event) (frames ++ shows s event) := by
  have moves := downlinkStep_moves inOrder.inRange event
  have ⟨sent, part, read⟩ := moves.waiting
  have fresh : ∀ next ∈ sent.toList, ReadWith next event :=
    fun next member => read next (Option.mem_toList.mp member)
  constructor
  · cases event with
    | bridge input delivered => exact Bridge.run_inRange inOrder.inRange [input]
    | _ => exact inOrder.inRange
  · apply List.Pairwise.sublist part
    rw [List.pairwise_append]
    refine ⟨inOrder.ordered, ?_, fun stamp member next new => ?_⟩
    · cases sent <;> simp
    · exact inOrder.newest timely (List.mem_append_right _ member) (fresh next new)
  · intro stamp member next waits
    rcases List.mem_append.mp (part.subset waits) with earlier | new
    · exact inOrder.passed_shows member earlier
    · exact inOrder.newest timely (shownStamps_known member) (fresh next new)
  · intro stamp member
    have known : stamp ∈ shownStamps frames ++ waiting s ∨ stamp ∈ sent.toList := by
      rcases List.mem_append.mp member with frame | waits
      · exact .inl (shownStamps_known frame)
      · rcases List.mem_append.mp (part.subset waits) with earlier | new
        · exact .inl (List.mem_append_right _ earlier)
        · exact .inr new
    rcases known with earlier | new
    · rw [readings_snoc]
      exact List.mem_append_left _ (inOrder.read stamp earlier)
    · exact ((fresh stamp new).latest timely).1
  · exact inOrder.start_next moves
  · exact fun frame member bare => inOrder.bare_shows member bare

/-- Every timely run is in order. -/
theorem run_inOrder (boot : DownlinkBoot) (events : List DownlinkEvent) (timely : Timely events) :
    InOrder events (boot.after events) (shown boot events) := by
  induction events using List.reverseRecOn with
  | nil => exact downlink_inOrder boot
  | append_singleton before event previous =>
    rw [downlink_snoc, shown_snoc]
    exact (previous timely.earlier).step timely

/-- The clock that the messages of a kind are stamped by. -/
def clockOf (estimator : Bool) : ClockSource :=
  if estimator then .companion else .flightController

/-- What a message is stamped by is told by its kind. -/
theorem stamp_clock (message : Bridge.Message) :
    message.stamp.map Prod.fst = (ofEstimator message).map clockOf := by
  cases message <;> rfl

/-- The clock that the kept time was read off is that of the message with a time of its own that
was taken last. -/
theorem source_eq (boot : DownlinkBoot) (events : List DownlinkEvent) :
    (boot.after events).source = (lastTaken boot events).map clockOf := by
  induction events using List.reverseRecOn with
  | nil => rfl
  | append_singleton before event previous =>
    have taken : lastTaken boot (before ++ [event]) =
        (takings (boot.after before) event).getLast?.or (lastTaken boot before) := by
      have more := @project_snoc _ _ _ downlinkStep takings boot.downlink before event
      rw [lastTaken, more, List.getLast?_append]
      rfl
    rw [downlink_snoc, taken]
    cases event with
    | bridge input delivered => exact previous
    | lora turn untimed => exact previous
    | take env =>
      have source : (downlinkStep (boot.after before) (.take env)).source =
          (((boot.after before).pipe.head?.bind Bridge.Message.stamp).map Prod.fst <|>
            (boot.after before).source) := rfl
      have clock : ((boot.after before).pipe.head?.bind Bridge.Message.stamp).map Prod.fst =
          ((boot.after before).pipe.head?.bind ofEstimator).map clockOf := by
        cases (boot.after before).pipe.head? with
        | none => rfl
        | some message => exact stamp_clock message
      rw [source, clock, previous, takings]
      cases (boot.after before).pipe.head?.bind ofEstimator <;> rfl

/-- A frame that is written after a message of a kind shows its clock, and only such a frame. -/
theorem occurs_writesAfter (boot : DownlinkBoot) (estimator : Bool)
    (events : List DownlinkEvent) :
    Occurs (WritesAfter boot estimator) events ↔
      ∃ frame ∈ shown boot events, frame.1 = some (clockOf estimator) := by
  induction events using List.reverseRecOn with
  | nil => simp [shown, project]
  | append_singleton before event previous =>
    have source : (boot.after before).source = some (clockOf estimator) ↔
        lastTaken boot before = some estimator := by
      rw [source_eq]
      cases lastTaken boot before with
      | none => simp
      | some last => cases last <;> cases estimator <;> simp [clockOf]
    have last : WritesAfter boot estimator before event ↔
        ∃ frame ∈ shows (boot.after before) event, frame.1 = some (clockOf estimator) := by
      rw [WritesAfter, ← source]
      rcases shows_cases (boot.after before) event with ⟨nothing, idle⟩ | ⟨one, written⟩
      · rw [nothing]
        refine iff_of_false ?_ (by simp)
        rintro ⟨⟨turn, own, writes⟩, _⟩
        exact writes (idle turn own)
      · constructor
        · rintro ⟨_, clock⟩
          exact ⟨_, by rw [one]; exact List.mem_singleton_self _, clock⟩
        · rintro ⟨frame, member, clock⟩
          rw [mem_shows member] at clock
          exact ⟨written, clock⟩
    rw [occurs_snoc, previous, last, shown_snoc]
    simp only [List.mem_append, or_and_right, exists_or]

/-- In a timely run the times of frames of one clock do not decrease. -/
theorem shown_rises (timely : Timely events)
    (oneClock : ∀ first ∈ shown boot events, ∀ second ∈ shown boot events,
      ∀ clock ∈ first.1, ∀ other ∈ second.1, clock = other) :
    (shown boot events).Pairwise (·.2.tsMs ≤ ·.2.tsMs) := by
  induction events using List.reverseRecOn with
  | nil => exact .nil
  | append_singleton before event previous =>
    have inOrder := run_inOrder boot before timely.earlier
    have old : ∀ frame ∈ shown boot before, frame ∈ shown boot (before ++ [event]) := by
      intro frame member
      rw [shown_snoc]
      exact List.mem_append_left _ member
    have rises := previous timely.earlier fun first member second other =>
      oneClock first (old first member) second (old second other)
    rw [shown_snoc, List.pairwise_append]
    refine ⟨rises, ?_, ?_⟩
    · rcases shows_cases (boot.after before) event with ⟨nothing, _⟩ | ⟨one, _⟩
      · simp [nothing]
      · simp [one]
    · intro frame earlier last now
      have place : last ∈ shown boot (before ++ [event]) := by
        rw [shown_snoc]
        exact List.mem_append_right _ now
      have agree := oneClock frame (old frame earlier) last place
      have own := mem_shows now
      cases source : frame.1 with
      | none =>
        rw [inOrder.bare frame earlier source]
        exact UInt32.zero_le
      | some clock =>
        -- Both times are read off one clock, and the earlier one has been shown already.
        cases kept : (boot.after before).source with
        | none =>
          have bare := (inOrder.start kept).2 frame earlier
          rw [source] at bare
          cases bare
        | some other =>
          have same : clock = other := agree clock source other (by rw [own]; exact kept)
          have showed : (clock, frame.2.tsMs) ∈ shownStamps (shown boot before) := by
            rw [shownStamps, List.mem_filterMap]
            exact ⟨frame, earlier, by rw [source]; rfl⟩
          have first : (other, (boot.after before).lora.data.fcState.timestampMs) ∈
              waiting (boot.after before) := by
            rw [waiting_of_source kept]
            exact List.mem_cons_self
          rw [own]
          exact inOrder.passed _ showed _ first same

/-- In every run of bridge and LoRa application in which neither clock goes back or wraps, whatever
the interleaving of the messages, the frames of the downlink have one time base exactly when they
are not written partly after a state of the estimator and partly after another message with a time
of its own. The bridge stamps the state of the estimator by its own clock, and the others by the
clock of the flight controller. -/
theorem oneTimeBase_iff (boot : DownlinkBoot) (events : List DownlinkEvent)
    (timely : Timely events) :
    OneTimeBase boot events ↔
      ¬ (Occurs (WritesAfter boot true) events ∧ Occurs (WritesAfter boot false) events) := by
  rw [occurs_writesAfter, occurs_writesAfter]
  constructor
  · rintro base ⟨⟨first, member, companion⟩, ⟨second, other, controller⟩⟩
    have same := base.oneClock first member second other _ companion _ controller
    cases same
  · intro apart
    have oneClock : ∀ first ∈ shown boot events, ∀ second ∈ shown boot events,
        ∀ clock ∈ first.1, ∀ other ∈ second.1, clock = other := by
      intro first member second place clock own other theirs
      cases clock with
      | flightController =>
        cases other with
        | flightController => rfl
        | companion => exact absurd ⟨⟨second, place, theirs⟩, ⟨first, member, own⟩⟩ apart
      | companion =>
        cases other with
        | flightController => exact absurd ⟨⟨first, member, own⟩, ⟨second, place, theirs⟩⟩ apart
        | companion => rfl
    exact ⟨shown_rises timely oneClock, oneClock⟩

/-- The clock and the time that a frame shows. -/
def clockAndTime (frame : Option ClockSource × Dl2Frame) : Option ClockSource × UInt32 :=
  (frame.1, frame.2.tsMs)

/-- The clocks and times that the frames of an event show. -/
def timesOf (s : Downlink) (event : DownlinkEvent) : List (Option ClockSource × UInt32) :=
  (turnOf s event).elim [] fun turn =>
    (Ground.writes s.lora turn).map fun data => (s.source, data.fcState.timestampMs)

/-- The clocks and times that the frames of a run show. -/
theorem shown_times (boot : DownlinkBoot) (events : List DownlinkEvent) :
    (shown boot events).map clockAndTime = project downlinkStep timesOf boot.downlink events := by
  induction events using List.reverseRecOn with
  | nil => rfl
  | append_singleton before event previous =>
    have more := @project_snoc _ _ _ downlinkStep timesOf boot.downlink before event
    have last : (shows (boot.after before) event).map clockAndTime =
        timesOf (boot.after before) event := by
      rw [shows_eq, timesOf]
      cases turnOf (boot.after before) event with
      | none => rfl
      | some turn =>
        rw [Option.elim_some, Option.elim_some, List.map_map]
        rfl
    rw [shown_snoc, List.map_append, previous, last, more]
    rfl

/-- A message is taken and a frame is written. -/
def takeAndWrite : List DownlinkEvent :=
  [.take Ground.quietEnv, .lora (.act (.transmit ⟨true, none⟩)) rfl]

/-- An attitude is received when the port has been opened, and goes down. -/
def attitudeDown : List DownlinkEvent :=
  [.lora (.act (.reopen 5000 true)) rfl,
    .bridge (Bridge.received .attitude (Words.bytes32 1000 ++ List.replicate 24 0) 700000) true] ++
    takeAndWrite

/-- A state of the estimator goes down as well, and then another attitude. -/
def alternatingDown : List DownlinkEvent :=
  attitudeDown ++
    [.bridge (Bridge.received .ekfStatusReport (List.replicate 20 0 ++ [1, 0]) 700010) true] ++
    takeAndWrite ++
    [.bridge (Bridge.received .attitude (Words.bytes32 1020 ++ List.replicate 24 0) 700020) true] ++
    takeAndWrite

/-- Attitudes alone have one time base. -/
theorem attitudeDown_oneTimeBase :
    Timely attitudeDown ∧ OneTimeBase ⟨.default, .read, none⟩ attitudeDown := by
  have timely : Timely attitudeDown := by
    constructor
    · intro clock
      cases clock <;> decide +kernel
    · decide +kernel
  have apart : ¬ Occurs (WritesAfter ⟨.default, .read, none⟩ true) attitudeDown := by
    rw [occurs_writesAfter]
    rintro ⟨frame, member, clock⟩
    have times := @List.mem_map_of_mem _ _ _ frame clockAndTime member
    have one : project downlinkStep timesOf (DownlinkBoot.downlink ⟨.default, .read, none⟩)
        attitudeDown = [(some .flightController, 1000)] := by decide +kernel
    rw [shown_times, one, List.mem_singleton] at times
    have source : frame.1 = some .flightController := congrArg Prod.fst times
    rw [clock] at source
    cases source
  exact ⟨timely, (oneTimeBase_iff _ _ timely).mpr fun both => apart both.1⟩

/-- Between two attitudes a state of the estimator shows the other clock: the times go forth and
back. -/
theorem alternatingDown_times :
    Timely alternatingDown ∧
      (shown ⟨.default, .read, none⟩ alternatingDown).map clockAndTime =
        [(some .flightController, 1000), (some .companion, 700010),
          (some .flightController, 1020)] ∧
      ¬ OneTimeBase ⟨.default, .read, none⟩ alternatingDown := by
  have timely : Timely alternatingDown := by
    constructor
    · intro clock
      cases clock <;> decide +kernel
    · decide +kernel
  have times : (shown ⟨.default, .read, none⟩ alternatingDown).map clockAndTime =
      [(some .flightController, 1000), (some .companion, 700010),
        (some .flightController, 1020)] := by
    rw [shown_times]
    decide +kernel
  refine ⟨timely, times, fun base => ?_⟩
  have rises : ((shown ⟨.default, .read, none⟩ alternatingDown).map clockAndTime).Pairwise
      (·.2 ≤ ·.2) := List.pairwise_map.mpr base.rises
  rw [times] at rises
  exact absurd rises (by decide)

end

end CfsTelemetry.Mission
