import CfsTelemetry.Lora.Cycle
import CfsTelemetry.Lora.Framing

/-!
# Receiving loses nothing

Lines and binary frames that come up the serial line are handled once each and in order, however
the receive windows cut the bytes, and whatever comes up the line, the buffer is never overrun
and no frame stays incomplete forever.
-/
namespace CfsTelemetry.Lora

open Framing Run

/-- Something that is sent up the line: a text line, an acknowledgement or a command. -/
inductive WireUnit where
  | line (text : List UInt8) (single : 10 ∉ text) (fits : text.length + 1 ≤ 255)
      (plain : ∀ byte ∈ text.head?, byte ≠ ack2Magic ∧ byte ≠ up2Magic)
  | ack2 (body : Vector UInt8 4)
  | up2 (plen : UInt8) (small : plen ≤ 196) (body : List UInt8)
      (length : body.length = plen.toNat + 7)

/-- The bytes of a unit. -/
def WireUnit.bytes : WireUnit → List UInt8
  | .line text _ _ _ => text ++ [10]
  | .ack2 body => ack2Magic :: body.toList
  | .up2 plen _ body _ => up2Magic :: plen :: body

/-- What is to be handled of a unit. -/
def WireUnit.received (unit : WireUnit) : RxUnit :=
  match unit with
  | .line .. => .line unit.bytes
  | .ack2 .. | .up2 .. => .binary unit.bytes

section

variable {r : Receiver}

/-- The bytes of a line that goes on are stored. -/
theorem feed_storing (text : List UInt8) (single : 10 ∉ text) (mode : r.mode = .text)
    (some : r.buf ≠ []) (room : r.buf.length + text.length ≤ 255) :
    feed Receiver.step r text = ({ r with buf := r.buf ++ text }, []) := by
  induction text generalizing r with
  | nil =>
    rw [feed, List.append_nil]
  | cons byte rest previous =>
    have other : byte ≠ 10 := fun same => single (same ▸ List.mem_cons_self ..)
    have later : 10 ∉ rest := fun mem => single (List.mem_cons_of_mem _ mem)
    rw [List.length_cons] at room
    have grown : (r.buf ++ [byte]).length = r.buf.length + 1 := List.length_append
    have onward := @previous { r with buf := r.buf ++ [byte] } later mode
      (List.append_ne_nil_of_left_ne_nil some _)
      (show (r.buf ++ [byte]).length + rest.length ≤ 255 by omega)
    rw [feed, r.step_text byte mode some (by omega), if_neg other]
    dsimp only
    rw [onward]
    dsimp only
    rw [List.append_assoc, List.nil_append]
    rfl

/-- The bytes of a line are stored up to its newline. -/
theorem feed_text (text : List UInt8) (single : 10 ∉ text) (mode : r.mode = .text)
    (some : r.buf ≠ []) (room : r.buf.length + text.length < 255) :
    feed Receiver.step r (text ++ [10]) = (r.reset, [.line (r.buf ++ text ++ [10])]) := by
  have stored := feed_storing text single mode some (Nat.le_of_lt room)
  have full : (r.buf ++ text).length < 255 := by
    rw [List.length_append]
    exact room
  have ended := @Receiver.step_text { r with buf := r.buf ++ text } 10 mode
    (List.append_ne_nil_of_left_ne_nil some _) full
  rw [feed_append, stored]
  dsimp only
  rw [feed, ended, if_pos rfl]
  rfl

/-- A line that fills the buffer is dropped with the next byte. -/
theorem feed_overflow (ready : r.Ready) {first : UInt8} {text : List UInt8} (byte : UInt8)
    (plain : first ≠ ack2Magic ∧ first ≠ up2Magic) (single : 10 ∉ first :: text)
    (full : (first :: text).length = 255) :
    (feed Receiver.step r (first :: (text ++ [byte]))).1.Ready ∧
      (feed Receiver.step r (first :: (text ++ [byte]))).2 = [] := by
  have other : first ≠ 10 := fun same => single (same ▸ List.mem_cons_self ..)
  have later : 10 ∉ text := fun mem => single (List.mem_cons_of_mem _ mem)
  rw [List.length_cons] at full
  have stored := @feed_storing ⟨[first], .text, r.targetLen⟩ text later rfl
    (List.cons_ne_nil _ _) (show 1 + text.length ≤ 255 by omega)
  have dropped := @Receiver.step_full ⟨[first] ++ text, .text, r.targetLen⟩ byte
    (show ¬ (first :: text).length < 255 by rw [List.length_cons]; omega)
  rw [feed, r.step_first first ready.1, if_neg plain.1, if_neg plain.2, if_neg other]
  dsimp only
  rw [feed_append, stored]
  dsimp only
  rw [feed, dropped]
  exact ⟨⟨rfl, rfl⟩, rfl⟩

/-- The bytes of a binary frame are stored up to its last one. -/
theorem feed_binary (body : List UInt8) (mode : r.mode = .ack2 ∨ r.mode = .up2Body)
    (some : r.buf ≠ []) (more : body ≠ []) (room : r.targetLen ≤ 255)
    (whole : r.buf.length + body.length = r.targetLen) :
    feed Receiver.step r body = (r.reset, [.binary (r.buf ++ body)]) := by
  induction body generalizing r with
  | nil => exact absurd rfl more
  | cons byte rest previous =>
    rw [List.length_cons] at whole
    rw [feed, r.step_binary byte mode some (by omega)]
    by_cases last : rest = []
    · subst last
      rw [List.length_nil] at whole
      rw [if_pos (by omega)]
      rfl
    · have positive := List.length_pos_iff.mpr last
      have grown : (r.buf ++ [byte]).length = r.buf.length + 1 := List.length_append
      have onward := @previous { r with buf := r.buf ++ [byte] } mode
        (List.append_ne_nil_of_left_ne_nil some _) last room
        (show (r.buf ++ [byte]).length + rest.length = r.targetLen by omega)
      rw [if_neg (by omega)]
      dsimp only
      rw [onward]
      dsimp only
      rw [List.append_assoc, List.nil_append]
      rfl

/-- The bytes of a unit take the receiver from one start of a frame to the next, and complete
the unit. -/
theorem feed_unit (ready : r.Ready) (unit : WireUnit) :
    (feed Receiver.step r unit.bytes).1.Ready ∧
      (feed Receiver.step r unit.bytes).2 = [unit.received] := by
  obtain ⟨empty, waiting⟩ := ready
  cases unit with
  | line text single fits plain =>
    have line : feed Receiver.step r (text ++ [10]) = (r.reset, [.line (text ++ [10])]) := by
      cases text with
      | nil =>
        rw [List.nil_append, feed, r.step_first 10 empty, if_neg (by decide), if_neg (by decide),
          if_pos rfl]
        rfl
      | cons byte rest =>
        obtain ⟨notAck, notUp⟩ := plain byte rfl
        have other : byte ≠ 10 := fun same => single (same ▸ List.mem_cons_self ..)
        have later : 10 ∉ rest := fun mem => single (List.mem_cons_of_mem _ mem)
        rw [List.length_cons] at fits
        rw [List.cons_append, feed, r.step_first byte empty, if_neg notAck, if_neg notUp,
          if_neg other]
        dsimp only
        rw [feed_text rest later rfl (List.cons_ne_nil _ _)
          (by rw [List.length_singleton]; omega)]
        rfl
    show (feed Receiver.step r (text ++ [10])).1.Ready ∧
      (feed Receiver.step r (text ++ [10])).2 = [.line (text ++ [10])]
    rw [line]
    exact ⟨⟨rfl, rfl⟩, rfl⟩
  | ack2 body =>
    have length : body.toList.length = 4 := Vector.length_toList
    have frame : feed Receiver.step r (ack2Magic :: body.toList) =
        (⟨[], .none, 5⟩, [.binary (ack2Magic :: body.toList)]) := by
      rw [feed, r.step_first ack2Magic empty, if_pos rfl]
      dsimp only
      rw [feed_binary body.toList (.inl rfl) (List.cons_ne_nil _ _)
        (List.length_pos_iff.mp (by omega)) (show 5 ≤ 255 by decide)
        (by rw [List.length_singleton, length])]
      rfl
    show (feed Receiver.step r (ack2Magic :: body.toList)).1.Ready ∧
      (feed Receiver.step r (ack2Magic :: body.toList)).2 = [.binary (ack2Magic :: body.toList)]
    rw [frame]
    exact ⟨⟨rfl, rfl⟩, rfl⟩
  | up2 plen small body length =>
    have bound : plen.toNat ≤ 196 := UInt8.le_iff_toNat_le.mp small
    have frame : feed Receiver.step r (up2Magic :: plen :: body) =
        (⟨[], .none, 7 + plen.toNat + 2⟩, [.binary (up2Magic :: plen :: body)]) := by
      have differs : up2Magic ≠ ack2Magic := by decide
      have onward := @feed_binary ⟨[up2Magic, plen], .up2Body, 7 + plen.toNat + 2⟩ body (.inr rfl)
        (List.cons_ne_nil _ _) (List.length_pos_iff.mp (by omega))
        (show 7 + plen.toNat + 2 ≤ 255 by omega)
        (show 2 + body.length = 7 + plen.toNat + 2 by omega)
      rw [feed, r.step_first up2Magic empty, if_neg differs, if_pos rfl]
      dsimp only
      rw [feed, Receiver.step_up2Hdr plen up2Magic rfl rfl, if_neg (UInt8.not_lt.mpr small)]
      dsimp only
      rw [onward]
      rfl
    show (feed Receiver.step r (up2Magic :: plen :: body)).1.Ready ∧
      (feed Receiver.step r (up2Magic :: plen :: body)).2 =
        [.binary (up2Magic :: plen :: body)]
    rw [frame]
    exact ⟨⟨rfl, rfl⟩, rfl⟩

end

/-! ## Windows -/

/-- A byte that is read, with the clock and the bus it meets. -/
structure RxByte where
  value : UInt8
  now : UInt32
  taken : Bool

/-- The bytes that the loop of a window reads. -/
def reads (deadline : UInt32) (isOpen : Bool) : List Round → List RxByte
  | [] => []
  | round :: rest =>
    if clockMs round.time ≥ deadline then []
    else if isOpen = false then []
    else
      match round.read with
      | .nothing | .interrupted => reads deadline isOpen rest
      | .wouldBlock | .failed _ => []
      | .byte value => ⟨value, clockMs round.ackTime, round.taken⟩ :: reads deadline isOpen rest

/-- A unit that is handled, with the clock and the bus of the byte that completes it. -/
structure Dispatch where
  unit : RxUnit
  now : UInt32
  taken : Bool

/-- Handle a unit. -/
def Dispatch.handle (s : State) (dispatch : Dispatch) : State :=
  dispatch.unit.handle dispatch.now dispatch.taken s

/-- What bytes complete. -/
def dispatched (r : Receiver) : List RxByte → List Dispatch
  | [] => []
  | byte :: rest =>
    (r.step byte.value).2.map (fun unit => ⟨unit, byte.now, byte.taken⟩) ++
      dispatched (r.step byte.value).1 rest

/-- The units are those that the machine completes. -/
theorem dispatched_units (r : Receiver) (bytes : List RxByte) :
    (dispatched r bytes).map Dispatch.unit =
      (feed Receiver.step r (bytes.map RxByte.value)).2 := by
  induction bytes generalizing r with
  | nil => rfl
  | cons byte rest previous =>
    have names (units : List RxUnit) :
        (units.map fun unit => (⟨unit, byte.now, byte.taken⟩ : Dispatch)).map Dispatch.unit =
          units := by
      rw [List.map_map]
      exact List.map_id units
    rw [dispatched, List.map_append, names, previous, List.map_cons, feed]

/-- The receiver after bytes. -/
def received (r : Receiver) (bytes : List RxByte) : Receiver :=
  (feed Receiver.step r (bytes.map RxByte.value)).1

/-- The receiver takes one list of bytes after another. -/
theorem received_append (r : Receiver) (first second : List RxByte) :
    received r (first ++ second) = received (received r first) second := by
  rw [received, List.map_append, feed_append]
  rfl

/-- What the first bytes complete comes before what the others complete. -/
theorem dispatched_append (r : Receiver) (first second : List RxByte) :
    dispatched r (first ++ second) =
      dispatched r first ++ dispatched (received r first) second := by
  induction first generalizing r with
  | nil => rfl
  | cons byte rest previous =>
    rw [List.cons_append, dispatched, previous, dispatched, List.append_assoc]
    rfl

/-- Bytes do to the application what they do to its receiver, and what they complete is handled
in order. -/
theorem foldl_receiveByte (bytes : List RxByte) (s : State) :
    bytes.foldl (fun s byte => receiveByte byte.value byte.now byte.taken s) s =
      ((dispatched s.receiver bytes).foldl Dispatch.handle s).withReceiver
        (received s.receiver bytes) := by
  induction bytes generalizing s with
  | nil => rfl
  | cons byte rest previous =>
    have mapped (units : List RxUnit) (s : State) :
        (units.map fun unit => (⟨unit, byte.now, byte.taken⟩ : Dispatch)).foldl
          Dispatch.handle s = units.foldl (RxUnit.handle byte.now byte.taken) s := by
      rw [List.foldl_map]
      rfl
    have kept (dispatches : List Dispatch) (r : Receiver) (s : State) :
        dispatches.foldl Dispatch.handle (s.withReceiver r) =
          (dispatches.foldl Dispatch.handle s).withReceiver r := by
      induction dispatches generalizing s with
      | nil => rfl
      | cons dispatch later onward =>
        have first : Dispatch.handle (s.withReceiver r) dispatch =
            (Dispatch.handle s dispatch).withReceiver r :=
          dispatch.unit.handle_withReceiver dispatch.now dispatch.taken r s
        rw [List.foldl_cons, List.foldl_cons, first, onward]
    have receiver (r : Receiver) (s : State) : (s.withReceiver r).receiver = r := rfl
    rw [List.foldl_cons, previous, receiveByte_eq, receiver, kept, dispatched, List.foldl_append,
      mapped]
    rfl

/-- Close the port if a read failed. -/
def afterReads (failure : Option Nat) (s : State) : State :=
  match failure with
  | none => s
  | some errno => failRead errno s

/-- The loop of a window does nothing but read, and handle what the bytes complete. -/
theorem rxLoop_eq (deadline : UInt32) (rounds : List Round) (s : State) :
    ∃ failure, (rxLoop deadline rounds s).state =
      afterReads failure ((reads deadline s.serialOpen rounds).foldl
        (fun s byte => receiveByte byte.value byte.now byte.taken s) s) := by
  induction rounds generalizing s with
  | nil => exact ⟨none, rfl⟩
  | cons round rest previous =>
    unfold rxLoop reads
    by_cases expired : clockMs round.time ≥ deadline
    · rw [if_pos expired, if_pos expired]
      exact ⟨none, rfl⟩
    · rw [if_neg expired, if_neg expired]
      by_cases closed : s.serialOpen = false
      · rw [if_pos closed, if_pos closed]
        exact ⟨none, rfl⟩
      · rw [if_neg closed, if_neg closed]
        cases round.read with
        | nothing => exact previous s
        | interrupted => exact previous s
        | wouldBlock => exact ⟨none, rfl⟩
        | failed errno => exact ⟨some errno, rfl⟩
        | byte value =>
          obtain ⟨failure, same⟩ :=
            previous (receiveByte value (clockMs round.ackTime) round.taken s)
          refine ⟨failure, ?_⟩
          rw [receiveByte_serialOpen] at same
          exact same

/-- Count the window if it was left. -/
def afterLoop (left : Bool) (s : State) : State := if left then endWindow s else s

/-- A window looks for an acknowledgement anew, handles in order what the bytes that it reads
complete, and keeps what they leave incomplete. -/
theorem runRxWindow_eq (entry : Nat) (rounds : List Round) (s : State) :
    ∃ failure left, (runRxWindow entry rounds s).state =
      afterLoop left (afterReads failure
        (((dispatched s.receiver (reads (deadlineMs entry) s.serialOpen rounds)).foldl
          Dispatch.handle (startWindow s)).withReceiver
            (received s.receiver (reads (deadlineMs entry) s.serialOpen rounds)))) := by
  obtain ⟨failure, same⟩ := rxLoop_eq (deadlineMs entry) rounds (startWindow s)
  refine ⟨failure, (rxLoop (deadlineMs entry) rounds (startWindow s)).left.isSome, ?_⟩
  have bytes := foldl_receiveByte (reads (deadlineMs entry) s.serialOpen rounds) (startWindow s)
  have receiver : (startWindow s).receiver = s.receiver := rfl
  have isOpen : (startWindow s).serialOpen = s.serialOpen := rfl
  rw [receiver] at bytes
  rw [isOpen] at same
  rw [← bytes, ← same]
  unfold runRxWindow afterLoop
  dsimp only
  split <;> rfl

/-- Whether something that happens to the application is a byte of the line. -/
def isByte : Input → Bool
  | .byte .. => true
  | _ => false

/-- A window with what happens to the application before it, which is no byte of the line. -/
structure Visit where
  before : List Input
  others : ∀ input ∈ before, isByte input = false
  entry : Nat
  rounds : List Round

/-- The application before the window of a visit. -/
def Visit.entered (visit : Visit) (s : State) : State := run step s visit.before

/-- The application after a visit. -/
def visited (s : State) (visit : Visit) : State :=
  (runRxWindow visit.entry visit.rounds (visit.entered s)).state

/-- The bytes that the window of a visit reads. -/
def Visit.reads (visit : Visit) (s : State) : List RxByte :=
  Lora.reads (deadlineMs visit.entry) (visit.entered s).serialOpen visit.rounds

/-- The bytes that are read in visits. -/
def visitReads (s : State) : List Visit → List RxByte
  | [] => []
  | visit :: rest => visit.reads s ++ visitReads (visited s visit) rest

/-- What the windows of visits handle. -/
def visitDispatches (s : State) : List Visit → List Dispatch
  | [] => []
  | visit :: rest =>
    dispatched (visit.entered s).receiver (visit.reads s) ++
      visitDispatches (visited s visit) rest

/-- Nothing but a byte changes the receiver. -/
theorem step_receiver (input : Input) (s : State) (other : isByte input = false) :
    (step s input).receiver = s.receiver := by
  cases input with
  | byte value now taken => cases other
  | packet message =>
    cases message with
    | uplinkStatus tlm => rfl
    | telemetry message => cases message <;> rfl
  | transmit env => exact runTx_keeps State.receiver (fun _ _ => rfl) env s
  | reopen | startWindow | readFailure | endWindow | judgeLink =>
    exact step_keeps State.receiver (fun _ _ => rfl) rfl s

/-- What happens before a window leaves the receiver alone. -/
theorem entered_receiver (visit : Visit) (s : State) :
    (visit.entered s).receiver = s.receiver := by
  have kept : ∀ (inputs : List Input) (s : State), (∀ input ∈ inputs, isByte input = false) →
      (run step s inputs).receiver = s.receiver := by
    intro inputs
    induction inputs with
    | nil => exact fun _ _ => rfl
    | cons input rest previous =>
      intro s others
      have later := previous (step s input) fun other mem =>
        others other (List.mem_cons_of_mem _ mem)
      rw [run_cons, later, step_receiver input s (others input (List.mem_cons_self ..))]
  exact kept visit.before s visit.others

/-- After a visit the receiver is where the bytes of its window take it. -/
theorem visited_receiver (visit : Visit) (s : State) :
    (visited s visit).receiver = received s.receiver (visit.reads s) := by
  have closed (failure : Option Nat) (s : State) :
      (afterReads failure s).receiver = s.receiver := by
    cases failure <;> rfl
  have counted (left : Bool) (s : State) : (afterLoop left s).receiver = s.receiver := by
    unfold afterLoop endWindow
    repeat' split
    all_goals rfl
  have stored (r : Receiver) (s : State) : (s.withReceiver r).receiver = r := rfl
  obtain ⟨failure, left, same⟩ := runRxWindow_eq visit.entry visit.rounds (visit.entered s)
  unfold visited
  rw [same, counted, closed, stored, entered_receiver]
  rfl

/-- Over visits, the receiver is where all their bytes take it, and what they complete is
handled, however the bytes are spread over the windows. -/
theorem visits_eq (visits : List Visit) (s : State) :
    (visits.foldl visited s).receiver = received s.receiver (visitReads s visits) ∧
      visitDispatches s visits = dispatched s.receiver (visitReads s visits) := by
  induction visits generalizing s with
  | nil => exact ⟨rfl, rfl⟩
  | cons visit rest previous =>
    obtain ⟨state, units⟩ := previous (visited s visit)
    have first := visited_receiver visit s
    constructor
    · rw [List.foldl_cons, state, first, visitReads, received_append]
    · rw [visitDispatches, units, first, visitReads, dispatched_append, entered_receiver]

/-- Units whose bytes are spread over the windows of visits are handled once each and in order,
and the receiver waits for a frame again. -/
theorem visits_units {s : State} {visits : List Visit} (units : List WireUnit)
    (ready : s.receiver.Ready)
    (sent : (visitReads s visits).map RxByte.value = units.flatMap WireUnit.bytes) :
    (visits.foldl visited s).receiver.Ready ∧
      (visitDispatches s visits).map Dispatch.unit = units.map WireUnit.received := by
  obtain ⟨state, dispatches⟩ := visits_eq visits s
  have each : ∀ r unit, Receiver.Ready r → (feed Receiver.step r unit.bytes).1.Ready ∧
      (feed Receiver.step r unit.bytes).2 = [WireUnit.received unit] :=
    fun r unit holds => feed_unit holds unit
  obtain ⟨last, completed⟩ := feed_pieces each units s.receiver ready
  rw [← sent] at last completed
  constructor
  · rw [state]
    exact last
  · rw [dispatches, dispatched_units, completed, List.map_eq_flatMap]

/-- From a receiver that waits for a frame, units that come up the line are handled once each
and in order, however their bytes are spread over receive windows and whatever else happens
between the windows, and the receiver waits for a frame again; a window does nothing else with
its bytes. Whatever bytes come up the line after the start, the buffer and the length that is
waited for stay within their bounds, and within 255 bytes more the receiver waits for a frame
again. -/
theorem rx_lossless :
    (∀ (s : State) (visits : List Visit) (units : List WireUnit), s.receiver.Ready →
      (visitReads s visits).map RxByte.value = units.flatMap WireUnit.bytes →
        (visits.foldl visited s).receiver.Ready ∧
          (visitDispatches s visits).map Dispatch.unit = units.map WireUnit.received) ∧
    (∀ (entry : Nat) (rounds : List Round) (s : State),
      ∃ failure left, (runRxWindow entry rounds s).state =
        afterLoop left (afterReads failure
          (((dispatched s.receiver (reads (deadlineMs entry) s.serialOpen rounds)).foldl
            Dispatch.handle (startWindow s)).withReceiver
              (received s.receiver (reads (deadlineMs entry) s.serialOpen rounds))))) ∧
    ∀ bytes : List UInt8,
      (feed Receiver.step initialState.receiver bytes).1.buf.length ≤ 255 ∧
      (feed Receiver.step initialState.receiver bytes).1.targetLen ≤ 205 ∧
      ∀ more : List UInt8, 255 ≤ more.length → ∃ count ≤ 255,
        (feed Receiver.step initialState.receiver (bytes ++ more.take count)).1.Ready := by
  refine ⟨?_, runRxWindow_eq, ?_⟩
  · intro s visits units ready sent
    exact visits_units units ready sent
  · intro bytes
    have each : ∀ r byte, Receiver.Sound r → Receiver.Sound (r.step byte).1 :=
      fun r byte sound => r.step_sound byte sound
    have sound := feed_invariant each bytes initialState.receiver Receiver.sound_empty
    refine ⟨sound.short, sound.target, ?_⟩
    intro more long
    have bound (r : Receiver) : r.rank ≤ 255 := by
      unfold Receiver.rank
      by_cases empty : r.buf = []
      · rw [if_pos empty]
        exact Nat.zero_le _
      · have positive := List.length_pos_iff.mpr empty
        rw [if_neg empty]
        omega
    have lowers : ∀ r byte, Receiver.Sound r → ¬ r.Ready → (r.step byte).1.rank < r.rank :=
      fun r byte holds busy => r.step_rank byte holds busy
    obtain ⟨count, within, ready⟩ := ready_within each lowers more _ sound
      (Nat.le_trans (bound _) long)
    refine ⟨count, Nat.le_trans within (bound _), ?_⟩
    rw [feed_append]
    exact ready

/-- A window in which bytes are read at its start. -/
def byteVisit (bytes : List UInt8) : Visit where
  before := []
  others := by simp
  entry := 0
  rounds := bytes.map fun value => ⟨0, .byte value, 0, true⟩

/-- A line and an acknowledgement that two windows cut apart are handled one after the other. -/
theorem rx_lossless_cut :
    (visitDispatches openState [byteVisit [85, 10, 0xA2, 10], byteVisit [0xB2, 7, 9]]).map
        Dispatch.unit =
      [.line [85, 10], .binary [0xA2, 10, 0xB2, 7, 9]] :=
  (rx_lossless.1 openState [byteVisit [85, 10, 0xA2, 10], byteVisit [0xB2, 7, 9]]
    [.line [85] (by decide) (by decide) (by simp [ack2Magic, up2Magic]), .ack2 #v[10, 0xB2, 7, 9]]
    ⟨rfl, rfl⟩ rfl).2

end CfsTelemetry.Lora
