import CfsTelemetry.Lora.Link
import CfsTelemetry.Lora.Lossless

/-!
# Receiving after a reopening

When the serial port fails it is closed, and a later cycle opens it again. The receiver is not part
of the port: what it was in the middle of is still there when the port is open again. Nothing that
is handled then is affected by what came before exactly when there was nothing in the middle.
-/
namespace CfsTelemetry.Lora

open Framing Run

/-- The bytes of a completed line or frame. -/
def RxUnit.bytes : RxUnit → List UInt8
  | .line text => text
  | .binary buf => buf

/-- The bytes that the window of a cycle reads. -/
def cycleReads (app : App) (cycle : LinkCycle) : List RxByte :=
  reads (deadlineMs cycle.entry) (beforeWindow app cycle).data.serialOpen cycle.rounds

/-- The lines and frames that the window of a cycle handles. -/
def cycleDispatches (app : App) (cycle : LinkCycle) : List Dispatch :=
  dispatched (beforeWindow app cycle).data.receiver (cycleReads app cycle)

/-- The bytes that the windows of some cycles read. -/
def readsOf (start : App) (cycles : List LinkCycle) : List RxByte :=
  project runLinkCycle cycleReads start cycles

/-- The lines and frames that the windows of some cycles handle. -/
def dispatchesOf (start : App) (cycles : List LinkCycle) : List Dispatch :=
  project runLinkCycle cycleDispatches start cycles

/-- A cycle opens the port, which is closed. -/
def Reopens (app : App) (cycle : LinkCycle) : Prop :=
  app.data.serialOpen = false ∧
    (reopen cycle.reopenMs cycle.opens (run deliver app cycle.deliveries).data).serialOpen = true

/-- The receiver that a start initialises. -/
def freshReceiver : Receiver := initialState.receiver

/-- What is handled in some cycles is not affected by what was read before them. Bytes kept from
before would be the beginning of another unit. -/
structure Isolated (app : App) (cycles : List LinkCycle) : Prop where
  /-- The lines and frames are those that a receiver completes that is initialised then. -/
  fresh : dispatchesOf app cycles = dispatched freshReceiver (readsOf app cycles)
  /-- No line or frame is longer than what has been read since. -/
  unmixed : Each (fun before byte =>
    ∀ unit ∈ ((received app.data.receiver before).step byte.value).2,
      unit.bytes.length ≤ before.length + 1) (readsOf app cycles)

section

variable {s : State} {app : App} {r r' : Receiver}

/-- A message leaves receiver and port alone. -/
theorem deliver_port (delivery : Delivery) :
    (deliver app delivery).data.receiver = app.data.receiver ∧
      (deliver app delivery).data.serialOpen = app.data.serialOpen := by
  have handled := processPacket_handled delivery.env delivery.packet app
  rw [deliver]
  generalize (processPacket delivery.env delivery.packet app).data = s at handled ⊢
  cases handled with
  | taken message own =>
    cases message with
    | uplinkStatus tlm => exact ⟨rfl, rfl⟩
    | telemetry content => cases content <;> exact ⟨rfl, rfl⟩
  | nothing | protocol | counters => exact ⟨rfl, rfl⟩

/-- The messages of a cycle leave receiver and port alone. -/
theorem drain_port (deliveries : List Delivery) :
    (run deliver app deliveries).data.receiver = app.data.receiver ∧
      (run deliver app deliveries).data.serialOpen = app.data.serialOpen := by
  induction deliveries using List.reverseRecOn with
  | nil => exact ⟨rfl, rfl⟩
  | append_singleton earlier delivery previous =>
    have last := @deliver_port (run deliver app earlier) delivery
    rw [run_snoc]
    exact ⟨last.1.trans previous.1, last.2.trans previous.2⟩

/-- The receiver of a window is the one that the cycle before left. -/
theorem beforeWindow_receiver (cycle : LinkCycle) :
    (beforeWindow app cycle).data.receiver = app.data.receiver := by
  have drained := (@drain_port app cycle.deliveries).1
  have opened := step_receiver (.reopen cycle.reopenMs cycle.opens)
    (run deliver app cycle.deliveries).data rfl
  have sent := step_receiver (.transmit cycle.tx)
    (reopen cycle.reopenMs cycle.opens (run deliver app cycle.deliveries).data) rfl
  exact sent.trans (opened.trans drained)

/-- A cycle takes the receiver where the bytes of its window take it. -/
theorem runLinkCycle_receiver (cycle : LinkCycle) :
    (runLinkCycle app cycle).data.receiver =
      received app.data.receiver (cycleReads app cycle) := by
  have ⟨failure, loop⟩ := rxLoop_eq (deadlineMs cycle.entry) cycle.rounds
    (startWindow (beforeWindow app cycle).data)
  have judged (s : State) :
      (updateLinkState (clockMs cycle.judgeTime) (endWindow s)).receiver = s.receiver :=
    (step_receiver (.judgeLink (clockMs cycle.judgeTime)) (endWindow s) rfl).trans
      (step_receiver .endWindow s rfl)
  have closed (s : State) : (afterReads failure s).receiver = s.receiver := by
    cases failure <;> rfl
  have kept : (startWindow (beforeWindow app cycle).data).receiver = app.data.receiver :=
    beforeWindow_receiver cycle
  rw [runLinkCycle]
  dsimp only
  rw [judged, loop, closed, foldl_receiveByte, State.receiver_withReceiver, kept]
  rfl

/-- Over cycles, the receiver is where all their bytes take it, and what they complete is
handled. -/
theorem run_receiver (cycles : List LinkCycle) :
    (run runLinkCycle app cycles).data.receiver =
        received app.data.receiver (readsOf app cycles) ∧
      dispatchesOf app cycles = dispatched app.data.receiver (readsOf app cycles) := by
  induction cycles using List.reverseRecOn with
  | nil => exact ⟨rfl, rfl⟩
  | append_singleton before cycle previous =>
    have ⟨place, handled⟩ := previous
    have more : readsOf app (before ++ [cycle]) =
        readsOf app before ++ cycleReads (run runLinkCycle app before) cycle :=
      project_snoc _ _ _ _
    have moreHandled : dispatchesOf app (before ++ [cycle]) =
        dispatchesOf app before ++ cycleDispatches (run runLinkCycle app before) cycle :=
      project_snoc _ _ _ _
    constructor
    · rw [run_snoc, runLinkCycle_receiver, place, more, received_append]
    · rw [moreHandled, handled, more, dispatched_append, ← place, cycleDispatches,
        beforeWindow_receiver]

namespace Receiver

/-- A byte is stored at the end. -/
theorem store_buf (byte : UInt8) : (r.store byte).buf = r.buf ++ [byte] := by
  unfold store start
  dsimp only
  split_ifs <;> rfl

/-- What is completed is all that was stored. -/
theorem goOn_bytes (byte : UInt8) {unit : RxUnit} (completed : unit ∈ (r.goOn byte).2) :
    unit.bytes = r.buf := by
  unfold goOn at completed
  cases mode : r.mode with
  | none => simp [mode] at completed
  | text =>
    have line : unit = .line r.buf := by
      simp only [mode] at completed
      split at completed <;> simp_all
    rw [line, RxUnit.bytes]
  | up2Hdr =>
    simp only [mode] at completed
    split_ifs at completed <;> cases completed
  | ack2 | up2Body =>
    have frame : unit = .binary r.buf := by
      simp only [mode] at completed
      split at completed <;> simp_all
    rw [frame, RxUnit.bytes]

/-- What a byte completes is what was stored with the byte. -/
theorem step_bytes {byte : UInt8} {unit : RxUnit} (completed : unit ∈ (r.step byte).2) :
    unit.bytes = r.buf ++ [byte] := by
  unfold step at completed
  split at completed
  · rw [goOn_bytes byte completed, store_buf]
  · cases completed

/-- After a byte nothing is stored, or the byte with what was stored. -/
theorem step_buf (byte : UInt8) :
    (r.step byte).1.buf = [] ∨ (r.step byte).1.buf = r.buf ++ [byte] := by
  unfold step
  split
  · have stored := @store_buf r byte
    unfold goOn
    repeat' split
    all_goals first | exact .inl rfl | exact .inr stored
  · exact .inl rfl

/-- What is stored is the end of what was stored and read. -/
theorem received_buf (bytes : List RxByte) :
    (received r bytes).buf <:+ r.buf ++ bytes.map RxByte.value := by
  induction bytes generalizing r with
  | nil =>
    rw [List.map_nil, List.append_nil]
    exact List.suffix_rfl
  | cons byte rest previous =>
    have onward : (received r (byte :: rest)).buf <:+
        (r.step byte.value).1.buf ++ rest.map RxByte.value := previous
    rcases @step_buf r byte.value with empty | stored
    · rw [empty, List.nil_append] at onward
      exact onward.trans ⟨r.buf ++ [byte.value], by simp⟩
    · rw [stored] at onward
      simpa using onward

/-- Receivers that complete the same of the same bytes. -/
structure Alike (r r' : Receiver) : Prop where
  buf : r.buf = r'.buf
  mode : r.mode = r'.mode
  targetLen : r.mode = .ack2 ∨ r.mode = .up2Body → r.targetLen = r'.targetLen

/-- Receivers that wait for a frame are alike. -/
theorem alike_ready (ready : r.Ready) (ready' : r'.Ready) : Alike r r' where
  buf := ready.1.trans ready'.1.symm
  mode := ready.2.trans ready'.2.symm
  targetLen busy := by simp [ready.2] at busy

/-- A stored byte leaves receivers alike. -/
theorem Alike.store (alike : Alike r r') (byte : UInt8) :
    Alike (r.store byte) (r'.store byte) := by
  have ⟨buf, mode, targetLen⟩ := alike
  unfold Receiver.store Receiver.start
  dsimp only
  rw [buf]
  split_ifs
  · exact ⟨rfl, rfl, fun _ => rfl⟩
  · exact ⟨rfl, rfl, fun busy => by simp at busy⟩
  · exact ⟨rfl, rfl, fun busy => by simp at busy⟩
  · exact ⟨rfl, mode, targetLen⟩

/-- Going on after a stored byte leaves receivers alike, and completes the same. -/
theorem Alike.goOn (alike : Alike r r') (byte : UInt8) :
    Alike (r.goOn byte).1 (r'.goOn byte).1 ∧ (r.goOn byte).2 = (r'.goOn byte).2 := by
  have ⟨buf, mode, targetLen⟩ := alike
  have waits : Alike r.reset r'.reset := alike_ready ⟨rfl, rfl⟩ ⟨rfl, rfl⟩
  unfold Receiver.goOn
  rw [← mode, ← buf]
  cases own : r.mode with
  | none => exact ⟨alike, rfl⟩
  | text =>
    dsimp only
    split_ifs
    · exact ⟨waits, rfl⟩
    · exact ⟨alike, rfl⟩
  | up2Hdr =>
    dsimp only
    split_ifs
    · exact ⟨waits, rfl⟩
    · exact ⟨⟨rfl, rfl, fun _ => rfl⟩, rfl⟩
    · exact ⟨alike, rfl⟩
  | ack2 | up2Body =>
    have target : r.targetLen = r'.targetLen := targetLen (by simp [own])
    dsimp only
    rw [← target]
    split_ifs
    · exact ⟨waits, rfl⟩
    · exact ⟨alike, rfl⟩

/-- A byte leaves receivers alike, and completes the same. -/
theorem Alike.step (alike : Alike r r') (byte : UInt8) :
    Alike (r.step byte).1 (r'.step byte).1 ∧ (r.step byte).2 = (r'.step byte).2 := by
  unfold Receiver.step
  rw [← alike.buf]
  split_ifs
  · exact (alike.store byte).goOn byte
  · exact ⟨alike_ready ⟨rfl, rfl⟩ ⟨rfl, rfl⟩, rfl⟩

/-- Receivers that are alike complete the same. -/
theorem Alike.dispatched (alike : Alike r r') (bytes : List RxByte) :
    Lora.dispatched r bytes = Lora.dispatched r' bytes := by
  induction bytes generalizing r r' with
  | nil => rfl
  | cons byte rest previous =>
    have ⟨next, units⟩ := alike.step byte.value
    rw [Lora.dispatched, Lora.dispatched, units, previous next]

end Receiver

/-! ## Reopenings -/

/-- A start initialises the receiver. -/
theorem boot_receiver (io : StateFile.LoadIo) (stateFile : Option (List UInt8)) :
    (boot io stateFile).data.receiver = freshReceiver := by
  unfold boot loadState
  split <;> rfl

/-- In every run the receiver is sound. -/
theorem run_sound (io : StateFile.LoadIo) (stateFile : Option (List UInt8))
    (cycles : List LinkCycle) :
    (run runLinkCycle (boot io stateFile) cycles).data.receiver.Sound := by
  rw [(run_receiver cycles).1, boot_receiver]
  have each : ∀ r byte, Receiver.Sound r → Receiver.Sound (r.step byte).1 :=
    fun r byte sound => r.step_sound byte sound
  exact feed_invariant each _ freshReceiver Receiver.sound_empty

/-- With nothing in the middle, what is handled in some cycles is not affected by what was read
before. -/
theorem isolated_of_ready (ready : app.data.receiver.Ready) (cycles : List LinkCycle) :
    Isolated app cycles := by
  constructor
  · have alike : Receiver.Alike app.data.receiver freshReceiver :=
      Receiver.alike_ready ready ⟨rfl, rfl⟩
    rw [(run_receiver cycles).2, alike.dispatched]
  · intro before byte after place unit completed
    have stored := (@Receiver.received_buf app.data.receiver before).length_le
    have whole := congrArg List.length (Receiver.step_bytes completed)
    rw [ready.1, List.nil_append, List.length_map] at stored
    rw [List.length_append, List.length_singleton] at whole
    omega

/-- A transmission that does not fail leaves the port open. -/
theorem runTx_serialOpen {env : TxEnv} (written : env.writeError = none) :
    (runTx env s).serialOpen = s.serialOpen := by
  have paged (s : State) : (advancePage s).serialOpen = s.serialOpen := by
    unfold advancePage
    split_ifs <;> rfl
  unfold runTx
  rw [written]
  dsimp only
  repeat' split
  all_goals first | rfl | exact paged _

/-- A cycle in which a closed port is opened, and a newline is read. -/
def newlineCycle (app : App) : LinkCycle where
  deliveries := []
  reopenMs := app.data.lastSerialOpenAttemptMs + serialReopenBackoffMs
  opens := true
  tx := ⟨true, none⟩
  entry := 0
  rounds := [⟨0, .byte 10, 0, true⟩]
  judgeTime := 0

/-- A closed port is opened when the last attempt is long enough ago. -/
theorem newlineCycle_reopens (closed : app.data.serialOpen = false) :
    Reopens app (newlineCycle app) := by
  refine ⟨closed, ?_⟩
  have due : app.data.lastSerialOpenAttemptMs + serialReopenBackoffMs -
      app.data.lastSerialOpenAttemptMs ≥ serialReopenBackoffMs := by
    rw [UInt32.add_comm, UInt32.add_sub_cancel]
    exact UInt32.le_refl _
  have opened : reopen (newlineCycle app).reopenMs true app.data =
      { app.data with
        lastSerialOpenAttemptMs := (newlineCycle app).reopenMs
        serialOpen := true } := if_pos ⟨closed, due⟩
  exact congrArg State.serialOpen opened

/-- The newline is read. -/
theorem newlineCycle_reads (closed : app.data.serialOpen = false) :
    cycleReads app (newlineCycle app) = [⟨10, 0, true⟩] := by
  have isOpen : (beforeWindow app (newlineCycle app)).data.serialOpen = true :=
    (runTx_serialOpen rfl).trans (newlineCycle_reopens closed).2
  rw [cycleReads, isOpen]
  rfl

/-- A newline that is read after the port was closed in the middle of a frame tells. -/
theorem newlineCycle_not_isolated (closed : app.data.serialOpen = false)
    (pending : app.data.receiver.buf ≠ []) : ¬ Isolated app [newlineCycle app] := by
  intro isolated
  have bytes : readsOf app [newlineCycle app] = [⟨10, 0, true⟩] := by
    have one : readsOf app [newlineCycle app] = cycleReads app (newlineCycle app) :=
      List.append_nil _
    rw [one, newlineCycle_reads closed]
  have handled := isolated.fresh
  rw [(run_receiver _).2, bytes] at handled
  have line : dispatched freshReceiver [⟨10, 0, true⟩] = [⟨.line [10], 0, true⟩] := rfl
  have units := congrArg (List.map Dispatch.unit) handled
  rw [line, dispatched_units] at units
  have completed : RxUnit.line [10] ∈ (app.data.receiver.step 10).2 := by
    have only : (app.data.receiver.step 10).2 = [.line [10]] := by simpa [feed] using units
    rw [only]
    exact List.mem_singleton_self _
  have whole : [10] = app.data.receiver.buf ++ [10] := Receiver.step_bytes completed
  simp at whole
  exact pending whole

/-- In every run, and wherever the port is closed in it: whatever is read when it is open again is
handled as if the application had just started exactly when nothing was in the middle. Closing the
port leaves the receiver as it is. -/
theorem reopenings_isolated_iff (io : StateFile.LoadIo) (stateFile : Option (List UInt8))
    (before : List LinkCycle) :
    (∀ cycle later, Reopens (run runLinkCycle (boot io stateFile) before) cycle →
      Each (fun between next => ¬ Reopens (run runLinkCycle (boot io stateFile)
        (before ++ cycle :: between)) next) later →
      Isolated (run runLinkCycle (boot io stateFile) before) (cycle :: later)) ↔
    ((run runLinkCycle (boot io stateFile) before).data.serialOpen = false →
      (run runLinkCycle (boot io stateFile) before).data.receiver.buf = []) := by
  have sound := run_sound io stateFile before
  constructor
  · intro isolated closed
    by_contra pending
    have probed := isolated (newlineCycle _) [] (newlineCycle_reopens closed) each_nil
    exact newlineCycle_not_isolated closed pending probed
  · intro nothing cycle later reopens _
    have empty := nothing reopens.1
    exact isolated_of_ready ⟨empty, sound.waiting.mpr empty⟩ (cycle :: later)

/-- A cycle in which the port is opened, the first bytes of a command are read, and then a read
fails. -/
def brokenCycle : LinkCycle where
  deliveries := []
  reopenMs := 1000
  opens := true
  tx := ⟨true, none⟩
  entry := 1000
  rounds := [⟨1000, .byte 85, 1000, true⟩, ⟨1001, .byte 80, 1001, true⟩,
    ⟨1002, .byte 44, 1002, true⟩, ⟨1003, .failed 5, 1003, true⟩]
  judgeTime := 1003

/-- The beginning of a command that was cut off by a failed read is the beginning of what is read
after the reopening. -/
theorem brokenCycle_not_isolated :
    (run runLinkCycle (boot .read none) [brokenCycle]).data.serialOpen = false ∧
      ¬ Isolated (run runLinkCycle (boot .read none) [brokenCycle])
        [newlineCycle (run runLinkCycle (boot .read none) [brokenCycle])] := by
  have closed : (run runLinkCycle (boot .read none) [brokenCycle]).data.serialOpen = false := by
    decide +kernel
  have pending : (run runLinkCycle (boot .read none) [brokenCycle]).data.receiver.buf ≠ [] := by
    decide +kernel
  exact ⟨closed, newlineCycle_not_isolated closed pending⟩

end

end CfsTelemetry.Lora
