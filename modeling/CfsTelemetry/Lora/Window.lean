import CfsTelemetry.Library.Clock
import CfsTelemetry.Lora.Receive

/-!
# The receive window

After a downlink the application reads the serial line until a deadline. Deadline and readings
are 32-bit milliseconds, compared as absolute values, so what the comparison says is right
exactly when the clock does not wrap between the reading and the deadline. A time here is a
count of milliseconds that does not wrap; the clock shows it cut to 32 bits.
-/
namespace CfsTelemetry.Lora

open Clock

/-- A time of the executive, in seconds and parts of 2^32 of a second (`CFE_TIME_SysTime_t`). -/
structure SysTime where
  seconds : UInt32
  subseconds : UInt32

/-- The whole milliseconds of a time. -/
def SysTime.millis (time : SysTime) : Nat :=
  time.seconds.toNat * 1000 + time.subseconds.toNat * 1000 / 2 ^ 32

/-- The 32-bit clock (`GetTimeMs`). -/
def getTimeMs (time : SysTime) : UInt32 :=
  (time.seconds.toUInt64 * 1000 + time.subseconds.toUInt64 * 1000 / 0x100000000).toUInt32

/-- What the 32-bit clock shows at a time in milliseconds. -/
def clockMs (time : Nat) : UInt32 := UInt32.ofNat time

/-- The 32-bit clock shows the milliseconds of the executive's time. -/
theorem getTimeMs_eq (time : SysTime) : getTimeMs time = clockMs time.millis := by
  have seconds := time.seconds.toNat_lt
  have subseconds := time.subseconds.toNat_lt
  apply UInt32.toNat_inj.mp
  simp only [getTimeMs, clockMs, SysTime.millis, UInt64.toNat_toUInt32, UInt64.toNat_add,
    UInt64.toNat_mul, UInt64.toNat_div, UInt32.toNat_toUInt64, UInt32.toNat_ofNat']
  have factor : (1000 : UInt64).toNat = 1000 := rfl
  have unit : (0x100000000 : UInt64).toNat = 2 ^ 32 := rfl
  rw [factor, unit, Nat.mod_eq_of_lt (show time.seconds.toNat * 1000 < 2 ^ 64 by omega),
    Nat.mod_eq_of_lt (show time.subseconds.toNat * 1000 < 2 ^ 64 by omega),
    Nat.mod_eq_of_lt (show time.seconds.toNat * 1000 +
      time.subseconds.toNat * 1000 / 2 ^ 32 < 2 ^ 64 by omega)]

/-- What a read of one byte gives. -/
inductive ReadResult where
  | byte (value : UInt8)
  | nothing
  | interrupted
  | wouldBlock
  | failed (errno : Nat)
  deriving DecidableEq, Repr

/-- What the loop meets in one round: the time of its clock reading, the read, the time an
acknowledgement is taken at, and whether the bus takes a command. -/
structure Round where
  time : Nat
  read : ReadResult
  ackTime : Nat
  taken : Bool

/-- How the loop is left. -/
inductive Exit where
  | expired | closed | wouldBlock | failed
  deriving DecidableEq, Repr

/-- What a window comes to: the state, how the loop was left if it was, and the times of the
clock readings the loop made. -/
structure Window where
  state : State
  left : Option Exit
  readings : List Nat

/-- The length of the window (`LORA_TDM_APP_RX_WINDOW_MS`). -/
def rxWindowMs : Nat := 50

/-- The deadline of a window that is entered at a time. -/
def deadlineMs (entry : Nat) : UInt32 := clockMs entry + clockMs rxWindowMs

/-- Begin to look for an acknowledgement. -/
def startWindow (s : State) : State := { s with ackReceivedThisCycle := false }

/-- Close the port after a read that failed. -/
def failRead (errno : Nat) (s : State) : State :=
  { sendEvent .serialReadErr .error
      s!"LORA_TDM_APP: serial read failed errno={errno}, closing for reopen" s with
    serialOpen := false }

/-- Count a cycle without an acknowledgement. -/
def endWindow (s : State) : State :=
  if s.ackReceivedThisCycle = false ∧ s.noAckCount < 0xFFFF then
    { s with noAckCount := s.noAckCount + 1 }
  else s

/-- The loop of the receive window, over the rounds it meets. -/
def rxLoop (deadline : UInt32) : List Round → State → Window
  | [], s => ⟨s, none, []⟩
  | round :: rest, s =>
    if clockMs round.time ≥ deadline then ⟨s, some .expired, [round.time]⟩
    else if s.serialOpen = false then ⟨s, some .closed, [round.time]⟩
    else
      match round.read with
      | .nothing | .interrupted =>
        let window := rxLoop deadline rest s
        { window with readings := round.time :: window.readings }
      | .wouldBlock => ⟨s, some .wouldBlock, [round.time]⟩
      | .failed errno => ⟨failRead errno s, some .failed, [round.time]⟩
      | .byte value =>
        let window :=
          rxLoop deadline rest (receiveByte value (clockMs round.ackTime) round.taken s)
        { window with readings := round.time :: window.readings }

/-- The receive window (`LORA_TDM_APP_RunRxWindow`) that is entered at a time. -/
def runRxWindow (entry : Nat) (rounds : List Round) (s : State) : Window :=
  let window := rxLoop (deadlineMs entry) rounds (startWindow s)
  if window.left.isSome then { window with state := endWindow window.state } else window

/-! ## Leaving in time -/

/-- A time at least the length of the window after the entry. -/
def Due (entry time : Nat) : Prop := entry + rxWindowMs ≤ time

instance (entry time : Nat) : Decidable (Due entry time) := inferInstanceAs (Decidable (_ ≤ _))

/-- The loop is left in time: at the first due reading, before anything is read, and on account
of the clock at no other reading. -/
structure OnTime (entry : Nat) (rounds : List Round) (window : Window) : Prop where
  /-- The loop expires at a due reading only. -/
  notEarly : window.left = some .expired → ∃ time, window.readings.getLast? = some time ∧
    Due entry time
  /-- A due reading is the last, and nothing is read after it. -/
  notLate : ∀ before time after, window.readings = before ++ time :: after → Due entry time →
    after = [] ∧ (window.left = some .expired ∨ window.left = some .closed)
  /-- The loop does not outlast a due time. -/
  ends : (∃ round ∈ rounds, Due entry round.time) → window.left.isSome

/-- Whether a read ends the loop. -/
def ReadResult.ends : ReadResult → Bool
  | .wouldBlock | .failed _ => true
  | _ => false

/-- The readings that decide whether the loop goes on: all up to the first due one, unless a
read ends the loop before. A closed port is met at the first reading, which then decides only
when it is not due. -/
def deciding (isOpen : Bool) (entry : Nat) : List Round → List Nat
  | [] => []
  | round :: rest =>
    if isOpen = false then if Due entry round.time then [] else [round.time]
    else if Due entry round.time ∨ round.read.ends then [round.time]
    else round.time :: deciding isOpen entry rest

/-- The clock does not wrap between a reading and the deadline. -/
def InPhase (entry time : Nat) : Prop :=
  if Due entry time then Steady (2 ^ 32) (entry + rxWindowMs) time
  else Steady (2 ^ 32) time (entry + rxWindowMs)

instance (entry time : Nat) : Decidable (InPhase entry time) := by
  unfold InPhase
  infer_instance

variable {entry : Nat}

/-- What the loop compares: time and deadline, cut to 32 bits. -/
theorem deadline_le_iff (entry time : Nat) :
    clockMs time ≥ deadlineMs entry ↔ (entry + rxWindowMs) % 2 ^ 32 ≤ time % 2 ^ 32 := by
  have deadline : (deadlineMs entry).toNat = (entry + rxWindowMs) % 2 ^ 32 := by
    simp only [deadlineMs, clockMs, UInt32.toNat_add, UInt32.toNat_ofNat']
    rw [← Nat.add_mod]
  have now : (clockMs time).toNat = time % 2 ^ 32 := UInt32.toNat_ofNat'
  rw [ge_iff_le, UInt32.le_iff_toNat_le, deadline, now]

/-- The comparison is right exactly when the clock does not wrap between time and deadline. -/
theorem inPhase_iff {time : Nat} (later : entry ≤ time) :
    InPhase entry time ↔ (clockMs time ≥ deadlineMs entry ↔ Due entry time) := by
  rw [deadline_le_iff]
  unfold InPhase
  by_cases due : Due entry time
  · rw [if_pos due, ← mod_le_mod_iff (by decide) due]
    exact (iff_true_right due).symm
  · rw [if_neg due]
    have before : time < entry + rxWindowMs := Nat.lt_of_not_le due
    have close : entry + rxWindowMs - time < 2 ^ 32 := by
      unfold rxWindowMs
      omega
    rw [← mod_lt_mod_iff before close, iff_false_right due, Nat.not_le]

variable {round : Round} {rest : List Round} {window : Window}

/-- A window of one reading is left in time when it expires at a due reading, and at no other. -/
theorem onTime_single (s : State) (exit : Exit) :
    OnTime entry (round :: rest) ⟨s, some exit, [round.time]⟩ ↔
      (exit = .expired → Due entry round.time) ∧
        (Due entry round.time → exit = .expired ∨ exit = .closed) := by
  constructor
  · intro onTime
    constructor
    · rintro rfl
      obtain ⟨time, last, due⟩ := onTime.notEarly rfl
      cases last
      exact due
    · intro due
      have left := (onTime.notLate [] round.time [] rfl due).2
      simpa using left
  · rintro ⟨early, late⟩
    constructor
    · intro left
      exact ⟨round.time, rfl, early (by simpa using left)⟩
    · intro before time after readings due
      have only : before = [] ∧ round.time = time ∧ after = [] := by
        cases before with
        | nil => simpa using readings
        | cons _ before => simp at readings
      obtain ⟨-, rfl, rfl⟩ := only
      exact ⟨rfl, by simpa using late due⟩
    · exact fun _ => rfl

/-- After a reading that is not due, what counts is the rest of the window. -/
theorem onTime_cons (notDue : ¬ Due entry round.time)
    (read : window.left.isSome → window.readings ≠ []) :
    OnTime entry (round :: rest) { window with readings := round.time :: window.readings } ↔
      OnTime entry rest window := by
  constructor
  · intro onTime
    constructor
    · intro left
      obtain ⟨time, last, due⟩ := onTime.notEarly left
      refine ⟨time, ?_, due⟩
      have nonempty := read (by rw [left]; rfl)
      rwa [List.getLast?_cons_of_ne_nil nonempty] at last
    · intro before time after readings due
      have shown : round.time :: window.readings = (round.time :: before) ++ time :: after := by
        rw [readings, List.cons_append]
      exact onTime.notLate _ time after shown due
    · rintro ⟨later, mem, due⟩
      exact onTime.ends ⟨later, List.mem_cons_of_mem _ mem, due⟩
  · intro onTime
    constructor
    · intro left
      obtain ⟨time, last, due⟩ := onTime.notEarly left
      refine ⟨time, ?_, due⟩
      have nonempty := read (by rw [show window.left = _ from left]; rfl)
      rwa [List.getLast?_cons_of_ne_nil nonempty]
    · intro before time after readings due
      cases before with
      | nil =>
        have first : round.time = time := by simpa using (List.cons.inj readings).1
        exact absurd (first ▸ due) notDue
      | cons _ before =>
        have shown : window.readings = before ++ time :: after := by
          simpa using (List.cons.inj readings).2
        exact onTime.notLate before time after shown due
    · rintro ⟨later, mem, due⟩
      rcases List.mem_cons.mp mem with rfl | mem
      · exact absurd due notDue
      · exact onTime.ends ⟨later, mem, due⟩

/-- A window that goes on after a due reading is not left in time. -/
theorem not_onTime_cons (due : Due entry round.time)
    (read : window.left.isSome → window.readings ≠ []) :
    ¬ OnTime entry (round :: rest)
      { window with readings := round.time :: window.readings } := by
  intro onTime
  obtain ⟨last, left⟩ := onTime.notLate [] round.time window.readings rfl due
  apply read _ last
  rcases left with left | left <;> rw [show window.left = _ from left] <;> rfl

/-- A loop that was left made a reading. -/
theorem rxLoop_readings (deadline : UInt32) (rounds : List Round) (s : State)
    (left : (rxLoop deadline rounds s).left.isSome) :
    (rxLoop deadline rounds s).readings ≠ [] := by
  cases rounds with
  | nil => cases left
  | cons round rest =>
    unfold rxLoop
    repeat' split
    all_goals simp

/-- The loop is left in time exactly when the clock wraps between no deciding reading and the
deadline. -/
theorem rxLoop_onTime_iff (rounds : List Round) (s : State)
    (later : ∀ round ∈ rounds, entry ≤ round.time) :
    OnTime entry rounds (rxLoop (deadlineMs entry) rounds s) ↔
      ∀ time ∈ deciding s.serialOpen entry rounds, InPhase entry time := by
  induction rounds generalizing s with
  | nil =>
    simp only [deciding, List.not_mem_nil, false_implies, implies_true, iff_true]
    constructor
    · intro left
      cases left
    · intro before time after readings
      simp [rxLoop] at readings
    · rintro ⟨round, mem, -⟩
      cases mem
  | cons round rest previous =>
    have phase := inPhase_iff (later round (List.mem_cons_self ..))
    have onward := fun s => previous s fun next mem => later next (List.mem_cons_of_mem _ mem)
    unfold rxLoop deciding
    by_cases expired : clockMs round.time ≥ deadlineMs entry
    · rw [if_pos expired, onTime_single]
      simp only [expired, true_iff] at phase
      by_cases due : Due entry round.time
      · simp [due, phase]
      · by_cases closed : s.serialOpen = false
        · simp [due, phase, closed]
        · by_cases ends : round.read.ends
          · simp [due, phase, closed, ends]
          · simp [due, phase, closed, ends]
    · rw [if_neg expired]
      simp only [expired, false_iff] at phase
      by_cases closed : s.serialOpen = false
      · rw [if_pos closed, if_pos closed, onTime_single]
        by_cases due : Due entry round.time
        · simp [due]
        · simp [due, phase]
      · rw [if_neg closed, if_neg closed]
        have isOpen : s.serialOpen = true := by simpa using closed
        -- A read that does not end the loop leads to its rest, with the port still open.
        have continues : ∀ s', s'.serialOpen = true →
            (OnTime entry (round :: rest)
              { rxLoop (deadlineMs entry) rest s' with
                readings := round.time :: (rxLoop (deadlineMs entry) rest s').readings } ↔
            ∀ time ∈ (if Due entry round.time ∨ false = true then [round.time]
              else round.time :: deciding true entry rest), InPhase entry time) := by
          intro s' open'
          have read := rxLoop_readings (deadlineMs entry) rest s'
          by_cases due : Due entry round.time
          · have notOnTime := @not_onTime_cons _ _ rest _ due read
            simp [due, phase, notOnTime]
          · rw [onTime_cons due read, onward s', open']
            simp [due, phase]
        have stops : ∀ s' exit, exit ≠ .expired → exit ≠ .closed →
            (OnTime entry (round :: rest) ⟨s', some exit, [round.time]⟩ ↔
              ∀ time ∈ (if Due entry round.time ∨ true = true then [round.time]
                else round.time :: deciding true entry rest), InPhase entry time) := by
          intro s' exit notExpired notClosed
          rw [onTime_single]
          simp [phase, notExpired, notClosed]
        rw [isOpen]
        cases read : round.read with
        | nothing => exact continues s isOpen
        | interrupted => exact continues s isOpen
        | byte value => exact continues _ (by rw [receiveByte_serialOpen, isOpen])
        | wouldBlock => exact stops s .wouldBlock (by decide) (by decide)
        | failed errno => exact stops _ .failed (by decide) (by decide)

/-- The bookkeeping after the loop changes neither how it was left nor its readings. -/
theorem runRxWindow_loop (entry : Nat) (rounds : List Round) (s : State) :
    ∃ s', runRxWindow entry rounds s =
      { rxLoop (deadlineMs entry) rounds (startWindow s) with state := s' } := by
  unfold runRxWindow
  dsimp only
  split
  · exact ⟨_, rfl⟩
  · exact ⟨_, rfl⟩

/-- For every entry and every rounds with readings not before it, the receive window is left in time
exactly when the clock wraps between no deciding reading and the deadline. The loop compares
readings with the deadline instead of the time gone by, so that a wrap turns the comparison around.
-/
theorem runRxWindow_onTime_iff (entry : Nat) (rounds : List Round) (s : State)
    (later : ∀ round ∈ rounds, entry ≤ round.time) :
    OnTime entry rounds (runRxWindow entry rounds s) ↔
      ∀ time ∈ deciding s.serialOpen entry rounds, InPhase entry time := by
  obtain ⟨s', loop⟩ := runRxWindow_loop entry rounds s
  rw [loop, show s.serialOpen = (startWindow s).serialOpen from rfl,
    ← rxLoop_onTime_iff rounds (startWindow s) later]
  constructor
  · intro onTime
    exact ⟨onTime.notEarly, onTime.notLate, onTime.ends⟩
  · intro onTime
    exact ⟨onTime.notEarly, onTime.notLate, onTime.ends⟩

/-- Rounds without data at given times. -/
def quietRounds (times : List Nat) : List Round := times.map fun time => ⟨time, .nothing, 0, true⟩

/-- The application with an open port. -/
def openState : State := { initialState with serialOpen := true }

/-- A window that starts at the clock's zero is left at its deadline. -/
theorem runRxWindow_onTime_zero :
    OnTime 0 (quietRounds [0, 10, 49, 50]) (runRxWindow 0 (quietRounds [0, 10, 49, 50])
      openState) :=
  (runRxWindow_onTime_iff 0 (quietRounds [0, 10, 49, 50]) openState (by decide)).mpr (by decide)

/-- Entered 50 milliseconds before the clock wraps, the window ends at its first reading, and
entered 60 milliseconds before it, with a reading after the wrap, it goes on. -/
theorem runRxWindow_not_onTime :
    ¬ OnTime (2 ^ 32 - 50) (quietRounds [2 ^ 32 - 50]) (runRxWindow (2 ^ 32 - 50)
        (quietRounds [2 ^ 32 - 50]) openState) ∧
      ¬ OnTime (2 ^ 32 - 60) (quietRounds [2 ^ 32 - 11, 2 ^ 32]) (runRxWindow (2 ^ 32 - 60)
        (quietRounds [2 ^ 32 - 11, 2 ^ 32]) openState) := by
  constructor
  · intro onTime
    obtain ⟨time, last, due⟩ := onTime.notEarly (by decide)
    revert due
    have first : time = 2 ^ 32 - 50 := by
      simpa using (show some time = some (2 ^ 32 - 50) by rw [← last]; decide)
    rw [first]
    decide
  · intro onTime
    exact absurd (onTime.ends (by decide)) (by decide)

end CfsTelemetry.Lora
