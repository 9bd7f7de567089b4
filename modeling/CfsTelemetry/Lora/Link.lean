import CfsTelemetry.Library.Stopwatch
import CfsTelemetry.Lora.Config
import CfsTelemetry.Lora.Framing

/-!
# The state of the link

The application judges the link at the end of each cycle, by the reading of its clock at the last
acknowledgement and by a count of cycles without one. Here is what it judges by, what leaves that
alone, and what a cycle makes of it.
-/
namespace CfsTelemetry.Lora

open Run Text

/-- What the link is judged by, and what has been said of it. -/
structure LinkView where
  linkState : LinkState
  initialized : Bool
  noAckCount : UInt16
  ackReceived : Bool
  lastAckTimestampMs : UInt32
  /-- The events of a restored link, newest first. -/
  restored : List Event
  deriving DecidableEq

/-- What the application judges the link by. -/
def linkView (s : State) : LinkView where
  linkState := s.linkState
  initialized := s.linkStateInitialized
  noAckCount := s.noAckCount
  ackReceived := s.ackReceivedThisCycle
  lastAckTimestampMs := s.lastAckTimestampMs
  restored := s.events.filter (·.id = .linkRestored)

/-- An acknowledgement is taken at a reading of the clock. -/
def LinkView.acknowledged (now : UInt32) (view : LinkView) : LinkView :=
  { view with noAckCount := 0, ackReceived := true, lastAckTimestampMs := now }

/-- The counters are set to zero. -/
def LinkView.reset (view : LinkView) : LinkView := { view with noAckCount := 0 }

/-- A window begins. -/
def LinkView.started (view : LinkView) : LinkView := { view with ackReceived := false }

/-- A window ends: a cycle without an acknowledgement is counted. -/
def LinkView.ended (view : LinkView) : LinkView :=
  if view.ackReceived = false ∧ view.noAckCount < 0xFFFF then
    { view with noAckCount := view.noAckCount + 1 }
  else view

/-- Whether a completed line or frame is an acknowledgement that passes its check. -/
def RxUnit.acknowledges : RxUnit → Bool
  | .line text =>
    (cString text).take 4 == codes "ACK," && (parseAckFrame (cString text)).isSome
  | .binary buf => buf != [] && byteAt buf 0 == ack2Magic && (parseAck2Frame buf).isSome

/-- Whether a byte completes an acknowledgement. -/
def acknowledgedBy (byte : UInt8) (s : State) : Bool :=
  (s.receiver.step byte).2.any RxUnit.acknowledges

/-- The times at which the loop of a window takes an acknowledgement. -/
def ackTimes (deadline : UInt32) : List Round → State → List Nat
  | [], _ => []
  | round :: rest, s =>
    if clockMs round.time ≥ deadline then []
    else if s.serialOpen = false then []
    else
      match round.read with
      | .nothing | .interrupted => ackTimes deadline rest s
      | .wouldBlock | .failed _ => []
      | .byte value =>
        (if acknowledgedBy value s then [round.ackTime] else []) ++
          ackTimes deadline rest (receiveByte value (clockMs round.ackTime) round.taken s)

/-! ## Cycles -/

/-- What a cycle meets. -/
structure LinkCycle where
  deliveries : List Delivery
  reopenMs : UInt32
  opens : Bool
  tx : TxEnv
  entry : Nat
  rounds : List Round
  /-- The time at which the link is judged. -/
  judgeTime : Nat

/-- The application when it enters the receive window. -/
def beforeWindow (app : App) (cycle : LinkCycle) : App :=
  let drained := run deliver app cycle.deliveries
  { drained with data := runTx cycle.tx (reopen cycle.reopenMs cycle.opens drained.data) }

/-- One cycle (`LORA_TDM_APP_RunCycle`). The window is left after the rounds at the latest. -/
def runLinkCycle (app : App) (cycle : LinkCycle) : App :=
  let ready := beforeWindow app cycle
  let window := rxLoop (deadlineMs cycle.entry) cycle.rounds (startWindow ready.data)
  { ready with data := updateLinkState (clockMs cycle.judgeTime) (endWindow window.state) }

/-- What happens to the link in a cycle: the time of the last acknowledgement, if there is one, and
whether the counters are set to zero. -/
structure CycleNote where
  ack : Option Nat
  resets : Bool

/-- What happens to the link in a cycle. -/
def cycleNote (app : App) (cycle : LinkCycle) : CycleNote where
  ack := (ackTimes (deadlineMs cycle.entry) cycle.rounds
    (startWindow (beforeWindow app cycle).data)).getLast?
  resets := cycle.deliveries.any (·.packet.resetsCounters)

/-- What happens to the link in some cycles, in order. -/
def cycleNotes (start : App) (cycles : List LinkCycle) : List CycleNote :=
  project runLinkCycle (fun app cycle => [cycleNote app cycle]) start cycles

/-- The time of the last acknowledgement, if there was one. -/
def lastAck (notes : List CycleNote) : Option Nat := (notes.filterMap CycleNote.ack).getLast?

/-- The consecutive cycles, up to the last one, without an acknowledgement. -/
def quietCycles (notes : List CycleNote) : Nat :=
  notes.foldl (fun count note => if note.ack.isSome then 0 else count + 1) 0

/-- Those of the consecutive cycles without an acknowledgement that end after the counters were
set to zero last. -/
def countedCycles (notes : List CycleNote) : Nat :=
  notes.foldl (fun count note =>
    if note.ack.isSome then 0 else if note.resets then 1 else count + 1) 0

section

variable {s : State} {app : App}

/-- An event that is not of a restored link does not count. -/
theorem linkView_sendEvent {id : EventId} (other : id ≠ .linkRestored) (type : EventType)
    (text : String) : linkView (sendEvent id type text s) = linkView s := by
  simp [linkView, sendEvent, other]

/-- An acknowledgement is taken. -/
theorem acknowledge_linkView (inSequence : Bool) (mismatch : String) (now : UInt32) :
    linkView (acknowledge inSequence mismatch now s) = (linkView s).acknowledged now := by
  cases inSequence <;> rfl

/-- A completed line or frame is an acknowledgement, or leaves the link alone. -/
theorem handle_linkView (now : UInt32) (taken : Bool) (unit : RxUnit) :
    linkView (unit.handle now taken s) =
      if unit.acknowledges then (linkView s).acknowledged now else linkView s := by
  cases unit with
  | line text =>
    rw [RxUnit.acknowledges, RxUnit.handle, processRxLine]
    by_cases ack : (cString text).take 4 = codes "ACK,"
    · rw [if_pos ack]
      cases parsed : parseAckFrame (cString text) with
      | none => simp [ack, linkView, sendEvent]
      | some seqEcho => simp [ack, acknowledge_linkView]
    · rw [if_neg ack]
      have unaffected : linkView (if (cString text).take 3 = codes "UP," then
          processUpFrame (cString text) taken s else s) = linkView s := by
        split
        · unfold processUpFrame
          split <;> rfl
        · rfl
      rw [unaffected]
      simp [ack]
  | binary buf =>
    rw [RxUnit.acknowledges, RxUnit.handle, processRxBinaryFrame]
    by_cases empty : buf = []
    · simp [empty]
    · rw [if_neg empty]
      by_cases ack : byteAt buf 0 = ack2Magic
      · rw [if_pos ack]
        cases parsed : parseAck2Frame buf with
        | none => simp [ack, linkView, sendEvent]
        | some seqEcho => simp [empty, ack, acknowledge_linkView]
      · rw [if_neg ack]
        have silent : ¬ (buf != [] && byteAt buf 0 == ack2Magic &&
            (parseAck2Frame buf).isSome) = true := by
          simp [ack]
        rw [if_neg silent]
        split
        · split <;> rfl
        · rfl

/-- Completed lines and frames hold an acknowledgement, or leave the link alone. -/
theorem foldl_handle_linkView (now : UInt32) (taken : Bool) (units : List RxUnit) :
    linkView (units.foldl (RxUnit.handle now taken) s) =
      if units.any RxUnit.acknowledges then (linkView s).acknowledged now else linkView s := by
  induction units generalizing s with
  | nil => rfl
  | cons unit rest previous =>
    rw [List.foldl_cons, previous, handle_linkView, List.any_cons]
    cases unit.acknowledges <;> cases rest.any RxUnit.acknowledges <;> rfl

/-- A byte completes an acknowledgement, or leaves the link alone. -/
theorem receiveByte_linkView (byte : UInt8) (now : UInt32) (taken : Bool) :
    linkView (receiveByte byte now taken s) =
      if acknowledgedBy byte s then (linkView s).acknowledged now else linkView s := by
  rw [receiveByte_eq]
  exact foldl_handle_linkView now taken _

/-- The loop of a window takes the last acknowledgement in it, if there is one. -/
theorem rxLoop_linkView (deadline : UInt32) (rounds : List Round) :
    linkView (rxLoop deadline rounds s).state =
      match (ackTimes deadline rounds s).getLast? with
      | none => linkView s
      | some time => (linkView s).acknowledged (clockMs time) := by
  induction rounds generalizing s with
  | nil => rfl
  | cons round rest previous =>
    rw [rxLoop, ackTimes]
    by_cases expired : clockMs round.time ≥ deadline
    · rw [if_pos expired, if_pos expired]
      rfl
    rw [if_neg expired, if_neg expired]
    by_cases closed : s.serialOpen = false
    · rw [if_pos closed, if_pos closed]
      rfl
    rw [if_neg closed, if_neg closed]
    cases round.read with
    | nothing => exact previous
    | interrupted => exact previous
    | wouldBlock => rfl
    | failed errno => exact @linkView_sendEvent s .serialReadErr (by decide) _ _
    | byte value =>
      dsimp only
      rw [previous, receiveByte_linkView, List.getLast?_append]
      cases acknowledgedBy value s <;>
        cases (ackTimes deadline rest
          (receiveByte value (clockMs round.ackTime) round.taken s)).getLast? <;> rfl

/-- A reopening leaves the link alone. -/
theorem reopen_linkView (now : UInt32) (opens : Bool) :
    linkView (reopen now opens s) = linkView s := by
  unfold reopen
  split <;> rfl

/-- A transmission leaves the link alone. -/
theorem runTx_linkView (env : TxEnv) : linkView (runTx env s) = linkView s := by
  have failed (errno : Nat) : linkView (failWrite errno s) = linkView s :=
    @linkView_sendEvent s .serialWriteErr (by decide) _ _
  unfold runTx
  split
  · rfl
  split
  · split
    · rfl
    · split
      · unfold advancePage
        repeat' split
        all_goals rfl
      · exact failed _
  · dsimp only
    split
    · split
      · rfl
      · exact failed _
    · rfl

/-- A message sets the count to zero, or leaves the link alone. -/
theorem deliver_linkView (delivery : Delivery) :
    linkView (deliver app delivery).data =
      if delivery.packet.resetsCounters then (linkView app.data).reset else linkView app.data := by
  have ⟨env, packet⟩ := delivery
  have handled := processPacket_handled env packet app
  rw [deliver]
  dsimp only
  generalize (processPacket env packet app).data = s at handled ⊢
  cases handled with
  | taken message own =>
    have keeps : packet.resetsCounters = false := by
      cases packet with
      | groundCommand => cases own
      | _ => rfl
    rw [keeps, if_neg Bool.false_ne_true]
    cases message with
    | uplinkStatus tlm => rfl
    | telemetry content =>
      cases content with
      | routeSnapshot routeType waypointCount waypoints =>
        exact @linkView_sendEvent _ .routeSnapshot (by decide) _ _
      | _ => rfl
  | nothing command keeps => rw [keeps, if_neg Bool.false_ne_true]
  | protocol useV2 command keeps =>
    rw [keeps, if_neg Bool.false_ne_true]
    rfl
  | counters command resets =>
    rw [resets, if_pos rfl]
    rfl

/-- The messages of a cycle set the count to zero, or leave the link alone. -/
theorem drain_linkView (deliveries : List Delivery) :
    linkView (run deliver app deliveries).data =
      if deliveries.any (·.packet.resetsCounters) then (linkView app.data).reset
      else linkView app.data := by
  induction deliveries using List.reverseRecOn with
  | nil => rfl
  | append_singleton earlier delivery previous =>
    rw [run_snoc, deliver_linkView, previous, List.any_append, List.any_cons, List.any_nil,
      Bool.or_false]
    cases delivery.packet.resetsCounters <;>
      cases earlier.any (·.packet.resetsCounters) <;> rfl

/-! ## The judgement -/

/-- The state that the application takes the link to be in, by the readings of the clock now and at
the last acknowledgement and by the count of cycles without one. -/
def judgedState (now lastAckTimestampMs : UInt32) (noAckCount : UInt16) : LinkState :=
  let elapsed :=
    if lastAckTimestampMs = 0 then 0
    else if now ≥ lastAckTimestampMs then now - lastAckTimestampMs
    else 0
  if elapsed > linkTimeoutMs then .disconnected
  else if noAckCount ≥ linkLossThreshold then .degraded
  else .connected

/-- What a cycle makes of what the link is judged by. -/
structure Judges (view : LinkView) (note : CycleNote) (time : Nat) (after : LinkView) : Prop where
  /-- The count goes on, up to its cap, or starts anew. -/
  noAckCount : after.noAckCount =
    if note.ack.isSome then 0
    else if (if note.resets then 0 else view.noAckCount) < 0xFFFF then
      (if note.resets then 0 else view.noAckCount) + 1
    else if note.resets then 0 else view.noAckCount
  /-- The reading is the one at the last acknowledgement. -/
  lastAckTimestampMs : after.lastAckTimestampMs =
    (note.ack.map clockMs).getD view.lastAckTimestampMs
  /-- The link has been judged. -/
  initialized : after.initialized = true
  /-- It is judged by the count and the reading. -/
  linkState : after.linkState =
    judgedState (clockMs time) after.lastAckTimestampMs after.noAckCount
  /-- It is restored only from another state, and not when it is judged for the first time. -/
  restored : after.restored = view.restored ∨ view.initialized = true ∧
    view.linkState ≠ .connected ∧ after.linkState = .connected

/-- The judgement of the link. -/
theorem updateLinkState_linkView (now : UInt32) :
    (updateLinkState now s).linkState = judgedState now s.lastAckTimestampMs s.noAckCount ∧
      (updateLinkState now s).noAckCount = s.noAckCount ∧
      (updateLinkState now s).lastAckTimestampMs = s.lastAckTimestampMs ∧
      (updateLinkState now s).linkStateInitialized = true ∧
      ((linkView (updateLinkState now s)).restored = (linkView s).restored ∨
        s.linkStateInitialized = true ∧ s.linkState ≠ .connected ∧
          judgedState now s.lastAckTimestampMs s.noAckCount = .connected) := by
  unfold updateLinkState
  extract_lets elapsed newState change judged
  have law : judgedState now s.lastAckTimestampMs s.noAckCount = newState := rfl
  rw [law]
  clear_value newState
  by_cases same : s.linkStateInitialized = false ∨ newState = s.linkState
  · rw [if_pos same]
    exact ⟨rfl, rfl, rfl, rfl, .inl rfl⟩
  · rw [if_neg same]
    rw [not_or, Bool.not_eq_false] at same
    cases newState with
    | disconnected => exact ⟨rfl, rfl, rfl, rfl, .inl rfl⟩
    | degraded => exact ⟨rfl, rfl, rfl, rfl, .inl rfl⟩
    | connected =>
      exact ⟨rfl, rfl, rfl, rfl, .inr ⟨same.1, fun connected => same.2 connected.symm, rfl⟩⟩

/-- The end of a window counts a cycle without an acknowledgement. -/
theorem endWindow_linkView : linkView (endWindow s) = (linkView s).ended := by
  unfold endWindow LinkView.ended
  by_cases quiet : s.ackReceivedThisCycle = false ∧ s.noAckCount < 0xFFFF
  · have counted : (linkView s).ackReceived = false ∧ (linkView s).noAckCount < 0xFFFF := quiet
    rw [if_pos quiet, if_pos counted]
    rfl
  · have kept : ¬ ((linkView s).ackReceived = false ∧ (linkView s).noAckCount < 0xFFFF) := quiet
    rw [if_neg quiet, if_neg kept]

/-- What the messages and the window of a cycle make of what the link is judged by. -/
def LinkView.received (note : CycleNote) (view : LinkView) : LinkView :=
  let started := (if note.resets then view.reset else view).started
  match note.ack with
  | none => started.ended
  | some time => (started.acknowledged (clockMs time)).ended

/-- The end of a window changes the count only. -/
theorem LinkView.ended_kept (view : LinkView) :
    view.ended.linkState = view.linkState ∧ view.ended.initialized = view.initialized ∧
      view.ended.restored = view.restored ∧
      view.ended.lastAckTimestampMs = view.lastAckTimestampMs := by
  unfold ended
  split <;> exact ⟨rfl, rfl, rfl, rfl⟩

/-- The messages and the window of a cycle change the count and the reading only. -/
theorem LinkView.received_kept (note : CycleNote) (view : LinkView) :
    (view.received note).linkState = view.linkState ∧
      (view.received note).initialized = view.initialized ∧
      (view.received note).restored = view.restored ∧
      (view.received note).lastAckTimestampMs =
        (note.ack.map clockMs).getD view.lastAckTimestampMs := by
  obtain ⟨ack, resets⟩ := note
  cases ack <;> cases resets <;> exact ended_kept _

/-- The messages and the window of a cycle count it, or start the count anew. -/
theorem LinkView.received_noAckCount (note : CycleNote) (view : LinkView) :
    (view.received note).noAckCount =
      if note.ack.isSome then 0
      else if (if note.resets then 0 else view.noAckCount) < 0xFFFF then
        (if note.resets then 0 else view.noAckCount) + 1
      else if note.resets then 0 else view.noAckCount := by
  obtain ⟨ack, resets⟩ := note
  cases ack with
  | some time => cases resets <;> rfl
  | none =>
    cases resets with
    | true => rfl
    | false =>
      by_cases room : view.noAckCount < 0xFFFF
      · simp [received, ended, started, room]
      · simp [received, ended, started, room]

/-- The window of a cycle receives what happens to the link in it. -/
theorem window_received (cycle : LinkCycle) :
    linkView (endWindow (rxLoop (deadlineMs cycle.entry) cycle.rounds
      (startWindow (beforeWindow app cycle).data)).state) =
        (linkView app.data).received (cycleNote app cycle) := by
  have ready : linkView (beforeWindow app cycle).data =
      if (cycleNote app cycle).resets then (linkView app.data).reset else linkView app.data := by
    rw [beforeWindow]
    dsimp only
    rw [runTx_linkView, reopen_linkView]
    exact drain_linkView cycle.deliveries
  have window := @rxLoop_linkView (startWindow (beforeWindow app cycle).data)
    (deadlineMs cycle.entry) cycle.rounds
  have started : linkView (startWindow (beforeWindow app cycle).data) =
      (linkView (beforeWindow app cycle).data).started := rfl
  have own : (cycleNote app cycle).ack = (ackTimes (deadlineMs cycle.entry) cycle.rounds
      (startWindow (beforeWindow app cycle).data)).getLast? := rfl
  rw [endWindow_linkView, window, started, ready, LinkView.received, own]
  split <;> rfl

/-- At its end a cycle is judged by what it has received. -/
theorem updateLinkState_judges {view : LinkView} {note : CycleNote}
    (received : linkView s = view.received note) (time : Nat) :
    Judges view note time (linkView (updateLinkState (clockMs time) s)) := by
  have ⟨state, count, reading, initialized, restored⟩ :=
    @updateLinkState_linkView s (clockMs time)
  have counted : s.noAckCount = (view.received note).noAckCount :=
    congrArg LinkView.noAckCount received
  have taken : s.lastAckTimestampMs = (view.received note).lastAckTimestampMs :=
    congrArg LinkView.lastAckTimestampMs received
  have unrestored := congrArg LinkView.restored received
  have previous := congrArg LinkView.linkState received
  have known := congrArg LinkView.initialized received
  have same := view.received_kept note
  constructor
  · exact (count.trans counted).trans (view.received_noAckCount note)
  · exact (reading.trans taken).trans same.2.2.2
  · exact initialized
  · change (updateLinkState (clockMs time) s).linkState = judgedState _
      (updateLinkState (clockMs time) s).lastAckTimestampMs
      (updateLinkState (clockMs time) s).noAckCount
    rw [state, count, reading]
  · rcases restored with quiet | ⟨before, apart, connected⟩
    · exact .inl (quiet.trans (unrestored.trans same.2.2.1))
    · refine .inr ⟨same.2.1.symm.trans (known.symm.trans before), fun already => ?_,
        state.trans connected⟩
      exact apart (previous.trans (same.1.trans already))

/-- A cycle judges the link by what happens to it. -/
theorem runLinkCycle_judges (cycle : LinkCycle) :
    Judges (linkView app.data) (cycleNote app cycle) cycle.judgeTime
      (linkView (runLinkCycle app cycle).data) :=
  updateLinkState_judges (window_received cycle) cycle.judgeTime

end

end CfsTelemetry.Lora
