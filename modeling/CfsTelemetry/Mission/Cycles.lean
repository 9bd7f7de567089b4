import CfsTelemetry.Ground.Readback
import CfsTelemetry.Lora.Link

/-!
# Cycles of the LoRa application

The application shares the radio with the ground by time division: a cycle handles the messages of
the pipe, tries to reopen a closed port, writes one downlink, reads for the length of a window and
judges the link. Other results are about these parts in any order. Here a cycle is a run of its
parts, so that these results hold of the main loop, and the loop writes nothing while it listens.
-/
namespace CfsTelemetry.Mission

open Ground (Turn turn)
open Lora (App Input LinkCycle Output Round)
open Run

/-- What the loop of a window does, over the rounds it meets. -/
def windowInputs (deadline : UInt32) : List Round → Lora.State → List Input
  | [], _ => []
  | round :: rest, s =>
    if Lora.clockMs round.time ≥ deadline then []
    else if s.serialOpen = false then []
    else
      match round.read with
      | .nothing | .interrupted => windowInputs deadline rest s
      | .wouldBlock => []
      | .failed errno => [.readFailure errno]
      | .byte value =>
        .byte value (Lora.clockMs round.ackTime) round.taken ::
          windowInputs deadline rest
            (Lora.receiveByte value (Lora.clockMs round.ackTime) round.taken s)

/-- The parts of a cycle before its window. -/
def sendingTurns (cycle : LinkCycle) : List Turn :=
  cycle.deliveries.map .message ++
    [.act (.reopen cycle.reopenMs cycle.opens), .act (.transmit cycle.tx)]

/-- What a cycle does from the beginning of its window on. -/
def listeningInputs (cycle : LinkCycle) (s : Lora.State) : List Input :=
  .startWindow ::
    (windowInputs (Lora.deadlineMs cycle.entry) cycle.rounds (Lora.startWindow s) ++
      [.endWindow, .judgeLink (Lora.clockMs cycle.judgeTime)])

/-- The parts of a cycle. -/
def cycleTurns (app : App) (cycle : LinkCycle) : List Turn :=
  sendingTurns cycle ++ (listeningInputs cycle (Lora.beforeWindow app cycle).data).map .act

/-- The parts of some cycles, in order. -/
def loopTurns (start : App) (cycles : List LinkCycle) : List Turn :=
  project Lora.runLinkCycle cycleTurns start cycles

/-- Whether an output goes down the line. -/
def isDownlink : Output → Bool
  | .dl2 _ | .line _ => true
  | .forward .. => false

/-- What the application has written to the line, newest first. -/
def downlinks (app : App) : List Output := app.data.outputs.filter isDownlink

/-- The cycles are runs of their parts, and each of them writes one downlink at most, before its
window begins. -/
structure TimeDivided (start : App) (cycles : List LinkCycle) : Prop where
  parts : run Lora.runLinkCycle start cycles = run turn start (loopTurns start cycles)
  sends : Each (fun before cycle =>
    let app := run Lora.runLinkCycle start before
    (downlinks (Lora.beforeWindow app cycle)).length ≤ (downlinks app).length + 1) cycles
  listens : Each (fun before cycle =>
    let app := run Lora.runLinkCycle start before
    downlinks (Lora.runLinkCycle app cycle) = downlinks (Lora.beforeWindow app cycle)) cycles

section

variable {app : App} {cycle : LinkCycle}

/-! ## A cycle as a run -/

/-- The loop of a window is the run of what it does. -/
theorem rxLoop_run (deadline : UInt32) (rounds : List Round) (s : Lora.State) :
    (Lora.rxLoop deadline rounds s).state =
      run Lora.step s (windowInputs deadline rounds s) := by
  induction rounds generalizing s with
  | nil => rfl
  | cons round rest previous =>
    unfold Lora.rxLoop windowInputs
    by_cases expired : Lora.clockMs round.time ≥ deadline
    · rw [if_pos expired, if_pos expired]
      rfl
    rw [if_neg expired, if_neg expired]
    by_cases closed : s.serialOpen = false
    · rw [if_pos closed, if_pos closed]
      rfl
    rw [if_neg closed, if_neg closed]
    cases round.read with
    | nothing | interrupted => exact previous s
    | wouldBlock | failed errno => rfl
    | byte value => exact previous _

/-- A run of parts that are no messages is a run on the data. -/
theorem run_acts (inputs : List Input) (app : App) :
    run turn app (inputs.map .act) = { app with data := run Lora.step app.data inputs } := by
  induction inputs generalizing app with
  | nil => rfl
  | cons input rest previous => exact previous _

/-- A cycle up to its window is the run of its first parts. -/
theorem beforeWindow_run (app : App) (cycle : LinkCycle) :
    Lora.beforeWindow app cycle = run turn app (sendingTurns cycle) := by
  have drained : run turn app (cycle.deliveries.map .message) =
      run Lora.deliver app cycle.deliveries := by
    rw [run, List.foldl_map]
    rfl
  rw [sendingTurns, run_append, drained]
  rfl

/-- A cycle is the run of its parts. -/
theorem runLinkCycle_run (app : App) (cycle : LinkCycle) :
    Lora.runLinkCycle app cycle = run turn app (cycleTurns app cycle) := by
  rw [cycleTurns, run_append, ← beforeWindow_run, run_acts, listeningInputs, run_cons,
    run_append]
  unfold Lora.runLinkCycle
  dsimp only
  rw [rxLoop_run]
  rfl

/-- A part of the data that writes nothing. -/
theorem step_downlinks {input : Input} (silent : ∀ env, input ≠ .transmit env)
    (s : Lora.State) :
    (Lora.step s input).outputs.filter isDownlink = s.outputs.filter isDownlink := by
  cases input with
  | transmit env => exact absurd rfl (silent env)
  | packet message =>
    cases message with
    | uplinkStatus tlm => rfl
    | telemetry message => cases message <;> rfl
  | byte value now taken =>
    have received := (Lora.receiveByte_receives value now taken s).outputs
    change (Lora.receiveByte value now taken s).outputs.filter isDownlink = _
    rw [received, List.filter_append]
    cases Lora.byteReception value taken s <;> rfl
  | reopen | startWindow | readFailure | endWindow | judgeLink =>
    exact Lora.step_keeps (·.outputs.filter isDownlink) (fun _ _ => rfl) rfl s

/-- So does a message of the pipe. -/
theorem deliver_downlinks (app : App) (delivery : Lora.Delivery) :
    downlinks (Lora.deliver app delivery) = downlinks app := by
  have handled := Lora.processPacket_handled delivery.env delivery.packet app
  change (Lora.processPacket delivery.env delivery.packet app).data.outputs.filter _ = _
  generalize (Lora.processPacket delivery.env delivery.packet app).data = s at handled ⊢
  cases handled with
  | taken message own => exact @step_downlinks (.packet message) (by simp) app.data
  | nothing | protocol | counters => rfl

/-- A transmission writes one downlink at most. -/
theorem transmit_downlinks (env : Lora.TxEnv) (s : Lora.State) :
    ((Lora.runTx env s).outputs.filter isDownlink).length ≤
      (s.outputs.filter isDownlink).length + 1 := by
  rcases (Lora.runTx_outputs env s).2 with none | ⟨type, line⟩ | ⟨frame, -, binary⟩
  · rw [none]
    exact Nat.le_succ _
  · rw [line]
    exact Nat.le_refl _
  · rw [binary]
    exact Nat.le_refl _

/-- What a cycle does before its window writes one downlink at most. -/
theorem beforeWindow_downlinks (app : App) (cycle : LinkCycle) :
    (downlinks (Lora.beforeWindow app cycle)).length ≤ (downlinks app).length + 1 := by
  have drained : downlinks (run Lora.deliver app cycle.deliveries) = downlinks app := by
    generalize cycle.deliveries = deliveries
    induction deliveries using List.reverseRecOn with
    | nil => rfl
    | append_singleton before delivery previous =>
      rw [run_snoc, deliver_downlinks, previous]
  have opened := @step_downlinks (.reopen cycle.reopenMs cycle.opens) (by simp)
    (run Lora.deliver app cycle.deliveries).data
  have sent := transmit_downlinks cycle.tx
    (Lora.reopen cycle.reopenMs cycle.opens (run Lora.deliver app cycle.deliveries).data)
  change _ ≤ ((Lora.step _ (.reopen cycle.reopenMs cycle.opens)).outputs.filter _).length + 1
    at sent
  rw [opened] at sent
  rw [← drained]
  exact sent

/-- A window has no transmission. -/
theorem windowInputs_silent (deadline : UInt32) (rounds : List Round) (s : Lora.State) :
    ∀ input ∈ windowInputs deadline rounds s, ∀ env, input ≠ .transmit env := by
  induction rounds generalizing s with
  | nil => exact fun input among => absurd among List.not_mem_nil
  | cons round rest previous =>
    unfold windowInputs
    split
    · simp
    split
    · simp
    cases round.read with
    | nothing | interrupted => exact previous s
    | wouldBlock | failed errno => simp
    | byte value =>
      intro input among env
      rcases List.mem_cons.mp among with rfl | later
      · simp
      · exact previous _ input later env

/-- From the beginning of its window on, a cycle writes nothing. -/
theorem listening_downlinks (app : App) (cycle : LinkCycle) :
    downlinks (Lora.runLinkCycle app cycle) = downlinks (Lora.beforeWindow app cycle) := by
  have silent : ∀ input ∈ listeningInputs cycle (Lora.beforeWindow app cycle).data,
      ∀ env, input ≠ .transmit env := by
    intro input among env
    rcases List.mem_cons.mp among with rfl | among
    · simp
    rcases List.mem_append.mp among with window | last
    · exact windowInputs_silent _ _ _ input window env
    · rcases List.mem_pair.mp last with rfl | rfl <;> simp
  have kept (inputs : List Input) (s : Lora.State)
      (silent : ∀ input ∈ inputs, ∀ env, input ≠ .transmit env) :
      (run Lora.step s inputs).outputs.filter isDownlink = s.outputs.filter isDownlink := by
    induction inputs generalizing s with
    | nil => rfl
    | cons input rest previous =>
      rw [run_cons, previous _ fun other among => silent other (List.mem_cons_of_mem _ among),
        step_downlinks (silent input List.mem_cons_self)]
  rw [runLinkCycle_run, cycleTurns, run_append, ← beforeWindow_run, run_acts]
  exact kept _ _ silent

end

/-- Every run of cycles is a run of their parts, and is divided in time; and the clock of the
application shows the milliseconds of the executive's time, cut to 32 bits, as the times of a
cycle are. -/
theorem cycles_timeDivided :
    (∀ start cycles, TimeDivided start cycles) ∧
      ∀ time : Lora.SysTime, Lora.getTimeMs time = Lora.clockMs time.millis := by
  refine ⟨fun start cycles => ⟨?_, ?_, ?_⟩, Lora.getTimeMs_eq⟩
  · exact run_project id runLinkCycle_run start cycles
  · exact each_of_forall fun cycle _ before => beforeWindow_downlinks _ cycle
  · exact each_of_forall fun cycle _ before => listening_downlinks _ cycle

end CfsTelemetry.Mission
