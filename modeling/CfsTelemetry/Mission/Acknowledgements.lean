import CfsTelemetry.Ground.Acks
import CfsTelemetry.Library.Channel
import CfsTelemetry.Library.Line
import CfsTelemetry.Lora.Reopen
import CfsTelemetry.Ground.Readback

/-!
# Acknowledgements of the downlink

The ground answers every frame that it decodes with an acknowledgement, and the aircraft counts
the acknowledgements that come up its line, between the commands of the ground. Bytes wait in the
air both ways and are read in pieces of any size. Whatever frames and answers the radio loses,
the aircraft counts one acknowledgement at most for each frame that it has written, and in the
order of the frames; and when it writes only while nothing is in the air, none is ever out of
sequence.
-/
namespace CfsTelemetry.Mission

open Ground (Dl2Frame StreamEvent Turn ackUnit dl2Of frameOf)
open Lora (RxUnit WireUnit)
open Run

/-- The aircraft, the ground, and what is in the air between them. -/
structure Radio where
  app : Lora.App
  /-- The bytes on their way to the ground, oldest first. -/
  down : List UInt8
  /-- The bytes that the stream of the ground keeps. -/
  stream : List UInt8
  /-- The bytes on their way to the aircraft, oldest first. -/
  up : List UInt8

/-- Whether a turn of the aircraft takes a byte of its line. -/
def takesByte : Turn → Bool
  | .act (.byte ..) => true
  | _ => false

/-- Something that happens to aircraft or ground. -/
inductive RadioEvent where
  /-- A turn of the aircraft, and the radio may lose what it writes. -/
  | turn (turn : Turn) (other : takesByte turn = false) (delivered : Bool)
  /-- The ground reads some bytes at most and answers the frames in them, and the radio may lose
  any of the answers. -/
  | read (count : Nat) (delivered : Dl2Frame → Bool)
  /-- The ground sends something that acknowledges nothing. -/
  | send (unit : WireUnit) (commands : Ground.Commands unit)
  /-- The aircraft takes the next byte of its line. -/
  | byte (now : UInt32) (taken : Bool)

/-- The frames that a turn writes. -/
def turnFrames (app : Lora.App) (turn : Turn) : List (List UInt8) :=
  (Ground.dl2Frames (Ground.turn app turn)).drop (Ground.dl2Frames app).length

/-- The frame of an event of the stream. -/
def frameOfEvent : StreamEvent → Option Dl2Frame
  | .frame frame => some frame
  | .line _ | .decodeError _ => none

/-- The frames that the ground decodes of the next bytes, and the bytes that its stream keeps. -/
def hears (s : Radio) (count : Nat) : List Dl2Frame × List UInt8 :=
  match Ground.feed s.stream (s.down.take count) with
  | some (events, kept) => (events.filterMap frameOfEvent, kept)
  -- The stream fails on no buffer.
  | none => ([], s.stream ++ s.down.take count)

/-- What an event brings about. -/
def radioStep (s : Radio) : RadioEvent → Radio
  | .turn turn _ delivered =>
    { s with
      app := Ground.turn s.app turn
      down := s.down ++ if delivered then (turnFrames s.app turn).flatten else [] }
  | .read count delivered =>
    let (frames, kept) := hears s count
    { s with
      down := s.down.drop count
      stream := kept
      up := s.up ++ (frames.filter delivered).flatMap fun frame =>
        Ground.buildAck2 frame.seq.toNat }
  | .send unit _ => { s with up := s.up ++ unit.bytes }
  | .byte now taken =>
    match s.up with
    | [] => s
    | value :: rest =>
      { s with
        app := Ground.turn s.app (.act (.byte value now taken))
        up := rest }

/-- Aircraft and ground after the start of the aircraft. -/
def startRadio (io : StateFile.LoadIo) (stateFile : Option (List UInt8)) : Radio :=
  ⟨Lora.boot io stateFile, [], [], []⟩

/-- The units of the line that the aircraft takes whole with an event. -/
def takenUnits (s : Radio) : RadioEvent → List RxUnit
  | .byte _ _ =>
    match s.up with
    | [] => []
    | value :: _ => (s.app.data.receiver.step value).2
  | _ => []

/-- The sequences that the acknowledgements echo that the aircraft counts with an event. -/
def echoedBy (s : Radio) (event : RadioEvent) : List UInt16 :=
  (takenUnits s event).filterMap fun unit => unit.echo.map UInt32.toUInt16

/-- Nothing is in the air. -/
structure Quiet (s : Radio) : Prop where
  down : s.down = []
  stream : s.stream = []
  up : s.up = []

section

variable (io : StateFile.LoadIo) (stateFile : Option (List UInt8))

/-- The sequences that have been echoed in a run. -/
def echoed (events : List RadioEvent) : List UInt16 :=
  project radioStep echoedBy (startRadio io stateFile) events

end

section

variable {io : StateFile.LoadIo} {stateFile : Option (List UInt8)} {before events : List RadioEvent}
  {event : RadioEvent} {s : Radio}

/-! ## The aircraft -/

/-- A turn that takes no byte leaves the counters of acknowledgements alone, or sets that of those
taken to zero. -/
theorem turn_counters {turn : Turn} (other : takesByte turn = false) (app : Lora.App) :
    Lora.ackCounters (Ground.turn app turn).data = Lora.ackCounters app.data ∨
      Lora.ackCounters (Ground.turn app turn).data = (0, app.data.seqFailCount) := by
  cases turn with
  | message delivery =>
    have handled := Lora.processPacket_handled delivery.env delivery.packet app
    change Lora.ackCounters (Lora.processPacket delivery.env delivery.packet app).data = _ ∨
      Lora.ackCounters (Lora.processPacket delivery.env delivery.packet app).data = _
    generalize (Lora.processPacket delivery.env delivery.packet app).data = s at handled ⊢
    cases handled with
    | taken message own =>
      left
      cases message with
      | uplinkStatus tlm => rfl
      | telemetry content => cases content <;> rfl
    | nothing | protocol => exact .inl rfl
    | counters => exact .inr rfl
  | act input =>
    left
    cases input with
    | byte => cases other
    | packet message =>
      cases message with
      | uplinkStatus tlm => rfl
      | telemetry content => cases content <;> rfl
    | transmit env => exact Lora.runTx_keeps Lora.ackCounters (fun _ _ => rfl) env app.data
    | reopen | startWindow | readFailure | endWindow | judgeLink =>
      exact Lora.step_keeps Lora.ackCounters (fun _ _ => rfl) rfl app.data

/-- The frames of a turn are those of the data that it writes. -/
theorem turnFrames_eq (app : Lora.App) (turn : Turn) :
    turnFrames app turn = (Ground.writes app turn).map frameOf := by
  have frames := Ground.dl2Frames_run app [turn]
  have written : Ground.written app [turn] = Ground.writes app turn := List.append_nil _
  rw [written] at frames
  change Ground.dl2Frames (Ground.turn app turn) = _ at frames
  rw [turnFrames, frames, List.drop_left]

/-- A turn that writes a frame writes one of its data, whose sequence is then the last one sent. -/
theorem turn_writes {turn : Turn} {app : Lora.App} (some : Ground.writes app turn ≠ []) :
    Ground.writes app turn = [app.data] ∧
      (Ground.turn app turn).data.lastSentSeq = app.data.downlinkSeq := by
  have does := Ground.turn_does app turn
  cases does with
  | takes snapshot comes unwritten after => exact absurd unwritten some
  | neither undisturbed unwritten kept silent => exact absurd unwritten some
  | writes undisturbed written after =>
    refine ⟨written, ?_⟩
    rw [after, Ground.afterFrame]
    unfold Lora.advancePage
    split
    · rfl
    · split <;> rfl

/-- A byte leaves the last sequence sent alone. -/
theorem byte_lastSentSeq (app : Lora.App) (value : UInt8) (now : UInt32) (taken : Bool) :
    (Ground.turn app (.act (.byte value now taken))).data.lastSentSeq = app.data.lastSentSeq := by
  have kept := congrArg Lora.State.lastSentSeq
    (Lora.receiveByte_unreceived value now taken app.data)
  exact kept

/-- The units that are put on the line of the aircraft with an event. -/
def putUnits (s : Radio) : RadioEvent → List WireUnit
  | .read count delivered =>
    ((hears s count).1.filter delivered).map fun frame => ackUnit frame.seq
  | .send unit _ => [unit]
  | .turn .. | .byte .. => []

/-- The data of the frames that a turn writes and the radio delivers. -/
def sentData (s : Radio) : RadioEvent → List Lora.State
  | .turn turn _ delivered => if delivered then Ground.writes s.app turn else []
  | _ => []

/-- The frames that the ground decodes with an event. -/
def heardFrames (s : Radio) : RadioEvent → List Dl2Frame
  | .read count _ => (hears s count).1
  | _ => []

/-- What is on its way to the ground or kept by its stream is made of whole frames. -/
def Frames (s : Radio) (waiting : List Lora.State) : Prop :=
  s.stream ++ s.down = waiting.flatMap frameOf

/-- The frames of whole frames' events are the frames. -/
theorem frameEvents_frames (data : List Lora.State) :
    (Ground.frameEvents data).filterMap frameOfEvent = data.map dl2Of := by
  rw [Ground.frameEvents, List.filterMap_map]
  exact congrFun List.filterMap_eq_map data

/-- An event takes the first of the frames that wait or are sent with it. -/
theorem radioStep_frames {waiting : List Lora.State} (frames : Frames s waiting)
    (event : RadioEvent) :
    ∃ heard left, waiting ++ sentData s event = heard ++ left ∧ Frames (radioStep s event) left ∧
      heardFrames s event = heard.map dl2Of := by
  cases event with
  | turn turn other delivered =>
    refine ⟨[], waiting ++ sentData s (.turn turn other delivered), rfl, ?_, rfl⟩
    change s.stream ++ (s.down ++ _) = _
    rw [← List.append_assoc, frames, List.flatMap_append, turnFrames_eq, ← List.flatMap_def]
    cases delivered with
    | false => rfl
    | true => rfl
  | send unit commands => exact ⟨[], waiting, List.append_nil _, frames, rfl⟩
  | byte now taken =>
    refine ⟨[], waiting, List.append_nil _, ?_, rfl⟩
    rw [radioStep]
    cases s.up with
    | nil => exact frames
    | cons value rest => exact frames
  | read count delivered =>
    have cut : (s.stream ++ s.down.take count) ++ s.down.drop count = waiting.flatMap frameOf := by
      rw [List.append_assoc, List.take_append_drop]
      exact frames
    obtain ⟨heard, left, kept, parts, drained, remaining, -⟩ :=
      Ground.drain_frames waiting _ _ cut
    have found : hears s count = (heard.map dl2Of, kept) := by
      rw [hears, Ground.feed, drained]
      exact congrArg (·, kept) (frameEvents_frames heard)
    refine ⟨heard, left, (List.append_nil _).trans parts, ?_, congrArg Prod.fst found⟩
    change (hears s count).2 ++ s.down.drop count = _
    rw [found]
    exact remaining

/-- Whole frames without bytes are none. -/
theorem Frames.nothing {waiting : List Lora.State} (frames : Frames s waiting)
    (down : s.down = []) (stream : s.stream = []) : waiting = [] := by
  cases waiting with
  | nil => rfl
  | cons data rest =>
    obtain ⟨behind, shape⟩ := Ground.frameOf_eq data
    rw [Frames, down, stream, List.flatMap_cons, shape] at frames
    cases frames

/-- A unit acknowledges the last sequence sent, or nothing. -/
def InTurn (s : Radio) (unit : WireUnit) : Prop :=
  Ground.Commands unit ∨ unit = ackUnit s.app.data.lastSentSeq.toUInt16

/-- All that is in the air is of the last sequence sent, and no acknowledgement has been counted as
out of sequence. -/
structure InSequence (s : Radio) (left : List WireUnit) (waiting : List Lora.State) : Prop where
  frames : Frames s waiting
  last : ∀ data ∈ waiting, data.downlinkSeq.toUInt16 = s.app.data.lastSentSeq.toUInt16
  units : ∀ unit ∈ left, InTurn s unit
  counted : s.app.data.seqFailCount = 0

/-- A unit in turn that is taken whole counts nothing as out of sequence. -/
theorem InTurn.counted {unit : WireUnit} (inTurn : InTurn s unit) (now : UInt32) (taken : Bool) :
    (unit.received.handle now taken s.app.data).seqFailCount = s.app.data.seqFailCount := by
  rcases inTurn with commands | rfl
  · exact congrArg Prod.snd (Lora.handle_silent commands)
  · exact Lora.handle_inSequence (Ground.ackUnit_echo _) (by rw [UInt16.toUInt16_toUInt32])

/-- A turn keeps what is in the air in sequence, and goes on to another sequence only while nothing
is in the air. -/
theorem InSequence.turn {left : List WireUnit} {waiting : List Lora.State}
    (inSequence : InSequence s left waiting) {turn : Turn} (other : takesByte turn = false)
    (delivered : Bool)
    (alone : (Ground.turn s.app turn).data.lastSentSeq ≠ s.app.data.lastSentSeq →
      left = [] ∧ waiting = []) :
    InSequence (radioStep s (.turn turn other delivered)) left
      (waiting ++ sentData s (.turn turn other delivered)) := by
  have last : (radioStep s (.turn turn other delivered)).app.data.lastSentSeq =
      (Ground.turn s.app turn).data.lastSentSeq := rfl
  have earlier : (left = [] ∧ waiting = []) ∨
      (Ground.turn s.app turn).data.lastSentSeq = s.app.data.lastSentSeq := by
    by_cases same : (Ground.turn s.app turn).data.lastSentSeq = s.app.data.lastSentSeq
    · exact .inr same
    · exact .inl (alone same)
  constructor
  · obtain ⟨heard, rest, split, frames, none⟩ :=
      radioStep_frames inSequence.frames (.turn turn other delivered)
    have nothing : heard = [] := List.map_eq_nil_iff.mp none.symm
    rw [split, nothing]
    exact frames
  · intro data among
    rw [last]
    rcases List.mem_append.mp among with old | new
    · rcases earlier with ⟨-, none⟩ | same
      · rw [none] at old
        cases old
      · rw [same]
        exact inSequence.last data old
    · cases delivered with
      | false => cases new
      | true =>
        have some : Ground.writes s.app turn ≠ [] := List.ne_nil_of_mem new
        obtain ⟨one, sent⟩ := turn_writes some
        have own : data ∈ Ground.writes s.app turn := new
        rw [one, List.mem_singleton] at own
        rw [own, sent]
  · intro unit among
    rcases earlier with ⟨none, -⟩ | same
    · rw [none] at among
      cases among
    · rcases inSequence.units unit among with commands | own
      · exact .inl commands
      · exact .inr (by rw [own, last, same])
  · have counters := turn_counters other s.app
    have kept : (Ground.turn s.app turn).data.seqFailCount = s.app.data.seqFailCount := by
      rcases counters with same | reset
      · exact congrArg Prod.snd same
      · exact congrArg Prod.snd reset
    exact kept.trans inSequence.counted

/-- A byte keeps what is in the air in sequence. -/
theorem InSequence.byte {left : List WireUnit} {waiting : List Lora.State}
    (inSequence : InSequence s left waiting) (now : UInt32) (taken : Bool)
    (first : takenUnits s (.byte now taken) <+: left.map WireUnit.received) :
    InSequence (radioStep s (.byte now taken))
      (left.drop (takenUnits s (.byte now taken)).length) waiting := by
  rw [takenUnits] at first ⊢
  rw [radioStep]
  cases up : s.up with
  | nil => exact inSequence
  | cons value rest =>
    rw [up] at first
    dsimp only at first ⊢
    have last := byte_lastSentSeq s.app value now taken
    have inTurn : ∀ unit ∈ left, InTurn
        { s with app := Ground.turn s.app (.act (.byte value now taken)), up := rest } unit := by
      intro unit among
      rcases inSequence.units unit among with commands | own
      · exact .inl commands
      · exact .inr (by rw [own, last])
    refine ⟨inSequence.frames, fun data among => ?_, fun unit among => ?_, ?_⟩
    · rw [last]
      exact inSequence.last data among
    · exact inTurn unit (List.mem_of_mem_drop among)
    · have counts : (Ground.turn s.app (.act (.byte value now taken))).data.seqFailCount =
          (Lora.ackCounters (Lora.receiveByte value now taken s.app.data)).2 := rfl
      rw [counts]
      rcases Lora.step_units s.app.data.receiver value with nothing | ⟨unit, one⟩
      · rw [Lora.receiveByte_nothing nothing]
        exact inSequence.counted
      · rw [Lora.receiveByte_counters one]
        rw [one] at first
        cases left with
        | nil =>
          obtain ⟨_, impossible⟩ := first
          cases impossible
        | cons next others =>
          obtain ⟨same, -⟩ := List.cons_prefix_cons.mp first
          rw [same]
          exact ((inSequence.units next List.mem_cons_self).counted now taken).trans
            inSequence.counted

/-- An event keeps what is in the air in sequence. -/
theorem InSequence.step {left : List WireUnit} {waiting : List Lora.State}
    (inSequence : InSequence s left waiting) (event : RadioEvent)
    (taken : takenUnits s event <+: (left ++ putUnits s event).map WireUnit.received)
    (bare : s.up = [] → left = [])
    (turns : (radioStep s event).app.data.lastSentSeq ≠ s.app.data.lastSentSeq → Quiet s) :
    ∃ waiting', InSequence (radioStep s event)
      ((left ++ putUnits s event).drop (takenUnits s event).length) waiting' := by
  cases event with
  | turn turn other delivered =>
    refine ⟨waiting ++ sentData s (.turn turn other delivered), ?_⟩
    rw [putUnits, List.append_nil]
    refine inSequence.turn other delivered fun moves => ?_
    have quiet := turns moves
    exact ⟨bare quiet.up, inSequence.frames.nothing quiet.down quiet.stream⟩
  | send unit commands =>
    refine ⟨waiting, inSequence.frames, inSequence.last, ?_, inSequence.counted⟩
    intro other among
    rcases List.mem_append.mp among with old | new
    · exact inSequence.units other old
    · rw [List.mem_singleton.mp new]
      exact .inl commands
  | read count delivered =>
    obtain ⟨heard, rest, split, frames, decoded⟩ :=
      radioStep_frames inSequence.frames (.read count delivered)
    have parts : waiting = heard ++ rest := (List.append_nil _).symm.trans split
    rw [parts] at inSequence
    refine ⟨rest, frames, ?_, ?_, inSequence.counted⟩
    · exact fun data among => inSequence.last data (List.mem_append_right _ among)
    · intro unit among
      rcases List.mem_append.mp among with old | new
      · exact inSequence.units unit old
      · -- An answer echoes a frame that was waiting.
        obtain ⟨frame, answered, rfl⟩ := List.mem_map.mp new
        have found : frame ∈ heard.map dl2Of := by
          rw [← decoded]
          exact (List.mem_filter.mp answered).1
        obtain ⟨data, old, rfl⟩ := List.mem_map.mp found
        have last := inSequence.last data (List.mem_append_left _ old)
        exact .inr (congrArg ackUnit last)
  | byte now noted =>
    refine ⟨waiting, ?_⟩
    rw [putUnits, List.append_nil] at taken ⊢
    exact inSequence.byte now noted taken

end

end CfsTelemetry.Mission
