import CfsTelemetry.Bridge.Link
import CfsTelemetry.Bridge.Loop

/-!
# What a connected link means

A link is live when a valid frame was heard since the port was opened and within the timeout, and
a target is known. Opening the port connects the link before anything was heard, bytes of any
kind put the timeout off, and state messages connect it whoever sends them; a closed port is not
watched at all. What is handed over by the parser in a service, and the link before it, say
exactly when the link is live after it.
-/
namespace CfsTelemetry.Bridge

open Run

/-- The messages whose checksum constant the bridge has. -/
def knownKinds : List MessageKind :=
  [.heartbeat, .sysTime, .gpsRawInt, .attitude, .localPositionNed, .globalPositionInt,
    .missionItem, .missionRequest, .missionSetCurrent, .missionCurrent, .missionRequestList,
    .missionCount, .missionClearAll, .missionAck, .missionRequestInt, .missionItemInt,
    .commandLong, .commandAck, .ekfStatusReport]

/-- Whether a frame is one of these messages with a right checksum. -/
def RxFrame.checksumValid (frame : RxFrame) : Bool :=
  knownKinds.any fun kind => frame.msgId = kind.id ∧ frame.checks kind

/-- Whether a frame names a target: a valid heartbeat of an autopilot. -/
def RxFrame.identifies (frame : RxFrame) : Bool :=
  frame.isHeartbeat ∧
    (payloadByte frame.payload 5 = 3 ∨ payloadByte frame.payload 5 = 12) ∧ frame.sysId ≠ 0

/-- A frame of a known message with a right checksum is valid. -/
theorem RxFrame.checksumValid_of {frame : RxFrame} {kind : MessageKind}
    (known : kind ∈ knownKinds) (own : frame.msgId = kind.id)
    (checks : frame.checks kind = true) : frame.checksumValid = true :=
  List.any_eq_true.mpr ⟨kind, known, decide_eq_true ⟨own, checks⟩⟩

/-- What connects the link is a valid frame. -/
theorem checksumValid_of_promotes {frame : RxFrame} {target : UInt8}
    (connects : promotes frame target = true) : frame.checksumValid = true := by
  rcases of_decide_eq_true connects with telemetry | current | beats
  · obtain ⟨kind, among, both⟩ := List.any_eq_true.mp telemetry
    have known : ∀ kind ∈ stateKinds, kind ∈ knownKinds := by decide
    have valid := of_decide_eq_true both
    exact RxFrame.checksumValid_of (known kind among) valid.1 valid.2
  · have valid := of_decide_eq_true current
    exact RxFrame.checksumValid_of (by decide) valid.1 valid.2.1
  · have valid := of_decide_eq_true beats.1
    exact RxFrame.checksumValid_of (by decide) valid.1 valid.2.2

/-- A target is known after a frame when one was before, or the frame names one. -/
theorem lockedTarget_ne_zero (frame : RxFrame) (target : UInt8) :
    lockedTarget frame target ≠ 0 ↔ target ≠ 0 ∨ frame.identifies = true := by
  unfold lockedTarget RxFrame.identifies
  by_cases known : target = 0
  · by_cases autopilot : frame.isHeartbeat = true ∧
        (payloadByte frame.payload 5 = 3 ∨ payloadByte frame.payload 5 = 12)
    · rw [if_pos ⟨autopilot.1, known, autopilot.2⟩]
      simp [known, autopilot]
    · rw [if_neg fun locks => autopilot ⟨locks.1, locks.2.2⟩]
      have other : ¬ (frame.isHeartbeat = true ∧
          (payloadByte frame.payload 5 = 3 ∨ payloadByte frame.payload 5 = 12) ∧
            frame.sysId ≠ 0) := fun names => autopilot ⟨names.1, names.2.1⟩
      rw [decide_eq_false other]
      simp [known]
  · rw [if_neg fun locks => known locks.2.1]
    simp [known]

/-- Frames were handed over between two views of the link. -/
structure HandedOver (frames : List RxFrame) (view view' : LinkView) : Prop where
  identified : view'.targetSystemId ≠ 0 ↔
    view.targetSystemId ≠ 0 ∨ ∃ frame ∈ frames, frame.identifies = true
  connects : view'.state = .connected →
    view.state = .connected ∨ ∃ frame ∈ frames, frame.checksumValid = true
  stays : view.state = .connected → view'.state = .connected
  anonymous : view'.targetSystemId = 0 →
    (view'.state = .connected ↔
      view.state = .connected ∨ ∃ frame ∈ frames, promotes frame 0 = true)

namespace HandedOver

variable {frames later : List RxFrame} {view view' view'' : LinkView}

/-- No frame is handed over where state and target stay. -/
theorem of_same (state : view'.state = view.state)
    (target : view'.targetSystemId = view.targetSystemId) : HandedOver [] view view' where
  identified := by simp [target]
  connects := fun connected => .inl (state ▸ connected)
  stays := fun connected => state.trans connected
  anonymous := fun _ => by simp [state]

/-- A frame is handed over to its handler. -/
theorem of_frame (frame : RxFrame) (rxTimestampMs : UInt32) (view : LinkView) :
    HandedOver [frame] view (view.after frame rxTimestampMs) := by
  have target : (view.after frame rxTimestampMs).targetSystemId =
      lockedTarget frame view.targetSystemId := by
    unfold LinkView.after
    split <;> rfl
  have state : (view.after frame rxTimestampMs).state = .connected ↔
      view.state = .connected ∨ promotes frame view.targetSystemId = true := by
    unfold LinkView.after
    split
    · simp [*]
    · simp [*]
  constructor
  · rw [target, lockedTarget_ne_zero]
    simp
  · intro connected
    rcases state.mp connected with before | promoted
    · exact .inl before
    · exact .inr ⟨frame, by simp, checksumValid_of_promotes promoted⟩
  · exact fun connected => state.mpr (.inl connected)
  · intro unknown
    have before : view.targetSystemId = 0 := by
      by_contra known
      exact (lockedTarget_ne_zero frame view.targetSystemId).mpr (.inl known)
        (target.symm.trans unknown)
    rw [state, before]
    simp

/-- Frames are handed over one after another. -/
theorem trans (first : HandedOver frames view view') (second : HandedOver later view' view'') :
    HandedOver (frames ++ later) view view'' := by
  constructor
  · rw [second.identified, first.identified, or_assoc]
    simp [or_and_right, exists_or]
  · intro connected
    rcases second.connects connected with before | ⟨frame, among, valid⟩
    · rcases first.connects before with start | ⟨frame, among, valid⟩
      · exact .inl start
      · exact .inr ⟨frame, by simp [among], valid⟩
    · exact .inr ⟨frame, by simp [among], valid⟩
  · exact fun connected => second.stays (first.stays connected)
  · intro unknown
    have before : view'.targetSystemId = 0 := by
      by_contra known
      exact second.identified.mpr (.inl known) unknown
    rw [second.anonymous unknown, first.anonymous before, or_assoc]
    simp [or_and_right, exists_or]

end HandedOver

/-- The frame that an input hands over. -/
def Input.frame? : Input → Option RxFrame
  | .frame complete _ _ => some complete
  | _ => none

/-- Whether an input is part of reading the port. -/
def Input.isRead : Input → Bool
  | .bytes _ _ | .frame _ _ _ => true
  | _ => false

/-- Reading the port hands its frames over. -/
theorem reads_handedOver (inputs : List Input)
    (reads : ∀ input ∈ inputs, input.isRead = true) (s : State) :
    HandedOver (inputs.filterMap Input.frame?) (linkView s) (linkView (run step s inputs)) := by
  induction inputs generalizing s with
  | nil => exact .of_same rfl rfl
  | cons input rest later =>
    have others := later (fun next among => reads next (List.mem_cons_of_mem _ among))
      (step s input)
    have isRead := reads input List.mem_cons_self
    rw [run_cons]
    cases input with
    | bytes length nowMs =>
      have noted : HandedOver [] (linkView s) (linkView (noteBytes length nowMs s)) :=
        .of_same rfl rfl
      exact noted.trans others
    | frame frame rxTimestampMs env =>
      have handled : HandedOver [frame] (linkView s)
          (linkView (handleFrameComplete env frame rxTimestampMs s)) := by
        rw [handleFrameComplete_link]
        exact .of_frame frame rxTimestampMs (linkView s)
      exact handled.trans others
    | _ => cases isRead

/-- The frames that bytes complete are part of reading the port. -/
theorem byteInputs_isRead (nowMs : UInt32) (chunk : Chunk) (parser : Parser) :
    ∀ input ∈ byteInputs nowMs parser chunk, input.isRead = true := by
  induction chunk generalizing parser with
  | nil => simp [byteInputs]
  | cons met rest later =>
    intro input among
    rw [byteInputs, List.mem_append] at among
    rcases among with here | there
    · obtain ⟨frame, -, rfl⟩ := List.mem_map.mp here
      rfl
    · exact later _ input there

/-- Reads of the port are part of reading the port. -/
theorem readsInputs_isRead (nowMs : UInt32) (reads : List Chunk) (parser : Parser) :
    ∀ input ∈ readsInputs nowMs parser reads, input.isRead = true := by
  induction reads generalizing parser with
  | nil => simp [readsInputs]
  | cons chunk rest later =>
    intro input among
    rw [readsInputs, List.cons_append, List.mem_cons, List.mem_append] at among
    rcases among with rfl | here | there
    · rfl
    · exact byteInputs_isRead nowMs chunk parser input here
    · exact later _ input there

/-- The frames that the reads of a service complete. -/
def Service.frames (service : Service) (app : App) : List RxFrame :=
  if app.state.serialOpen = false then []
  else (readsInputs service.nowMs app.parser service.reads).filterMap Input.frame?

/-- What a service does before it reads leaves the link alone. -/
theorem supervise_link (service : Service) (s : State) :
    linkView (supervise service s) = linkView s := by
  unfold supervise
  rw [retryReadback_link, checkMissionDownloadTimeout_link, checkMissionUploadTimeout_link,
    (serviceStreams_aside ..).link, (sendCompanionHeartbeat_aside ..).link]

/-- A service of an open port that reads hands over the frames of its reads. -/
theorem serviceSerial_handedOver (service : Service) {app : App}
    (portOpen : app.state.serialOpen = true) (reads : service.reads ≠ []) :
    HandedOver (service.frames app) (linkView app.state)
      (linkView (serviceSerial service app).state) := by
  have opened : ¬ app.state.serialOpen = false := by simp [portOpen]
  have some : ¬ service.reads.isEmpty = true := fun none => reads (List.isEmpty_iff.mp none)
  have handed := reads_handedOver (readsInputs service.nowMs app.parser service.reads)
    (readsInputs_isRead service.nowMs service.reads app.parser) (supervise service app.state)
  unfold serviceSerial Service.frames
  rw [if_neg opened, if_neg opened]
  dsimp only
  rw [if_neg some, takeChunks_run]
  rwa [supervise_link] at handed

/-- A service of an open port that reads nothing ends as the link was before it tells. -/
theorem serviceSerial_link_of_quiet (service : Service) {app : App}
    (portOpen : app.state.serialOpen = true) (quiet : service.reads = []) :
    linkView (serviceSerial service app).state =
      match service.ending with
      | .drained =>
        if service.nowMs - app.state.lastRxTimestampMs ≥ staleTimeoutMs then
          { linkView app.state with state := .degraded }
        else linkView app.state
      | .failed _ => { linkView app.state with state := .disconnected } := by
  have opened : ¬ app.state.serialOpen = false := by simp [portOpen]
  have kept := supervise_link service app.state
  have rx : (supervise service app.state).lastRxTimestampMs = app.state.lastRxTimestampMs :=
    congrArg LinkView.lastRxTimestampMs kept
  unfold serviceSerial
  rw [if_neg opened, quiet]
  show linkView (endReading service (supervise service app.state)) = _
  unfold endReading
  cases service.ending with
  | drained =>
    dsimp only
    rw [checkStale_link, kept, rx]
  | failed errno =>
    dsimp only
    rw [failRead_link, kept]

/-- A service of a closed port tries to open it when that is due. -/
theorem serviceSerial_link_of_closed (service : Service) {app : App}
    (closed : app.state.serialOpen = false) :
    linkView (serviceSerial service app).state =
      if reconnectDue service.nowMs app.state = true then
        service.opening.link { linkView app.state with state := .disconnected }
      else linkView app.state := by
  unfold serviceSerial
  rw [if_pos closed]
  show linkView (reconnect service.nowMs service.path service.opening service.openEnv
    app.state) = _
  rw [reconnect_link]
  exact if_congr decide_eq_true_iff.symm rfl rfl

/-! ## Live links -/

/-- Whether a message opens the port. -/
def PipeMessage.opens : PipeMessage → Bool
  | .serialReconnect _ result _ => result.errno = none
  | _ => false

/-- Whether a service opens the port. -/
def Service.opens (service : Service) (app : App) : Bool :=
  app.state.serialOpen = false ∧ reconnectDue service.nowMs app.state = true ∧
    service.opening.errno = none

/-- The application as a turn comes to the service of the port, after the turns before it. -/
def atService (config : ConfigParams) (before : List Turn) (turn : Turn) : App :=
  (run App.turn (startApp config) before).receive turn

/-- A turn opens the port. -/
def Opens (config : ConfigParams) (before : List Turn) (turn : Turn) : Prop :=
  (turn.message.any PipeMessage.opens = true) ∨
    turn.service.opens (atService config before turn) = true

/-- A turn hears a valid frame, within the timeout before a time. -/
def Hears (config : ConfigParams) (clockMs : Nat) (before : List Turn) (turn : Turn) : Prop :=
  clockMs < turn.service.clockMs + staleTimeoutMs.toNat ∧
    ∃ frame ∈ turn.service.frames (atService config before turn), frame.checksumValid = true

/-- A valid frame was heard since the port was opened, within the timeout before a time. -/
def HeardRecently (config : ConfigParams) (clockMs : Nat) : List Turn → Prop :=
  Since (Hears config clockMs) (Opens config)

/-- After a turn, a connected link is live. -/
def Live (config : ConfigParams) (before : List Turn) (turn : Turn) : Prop :=
  let s := (run App.turn (startApp config) (before ++ [turn])).state
  s.linkState = .connected →
    HeardRecently config turn.service.clockMs (before ++ [turn]) ∧ s.targetSystemId ≠ 0

/-- What a service meets keeps a connected link live. A closed port is not opened, and a
connected link on it is live or an attempt to open it is due. An open port that has nothing to
read leaves no connected link that is not live within the timeout. Bytes of an open port hold a
valid frame where the link is connected and nothing was heard recently, and name a target where
none is known and the link is connected, or will be. An open port is called connected before a byte
of it is read. -/
def Vouched (config : ConfigParams) (before : List Turn) (turn : Turn) : Prop :=
  let app := atService config before turn
  let frames := turn.service.frames app
  let recent := HeardRecently config turn.service.clockMs before ∧ ¬ Opens config before turn
  if app.state.serialOpen = false then
    turn.service.opens app = false ∧
      (reconnectDue turn.service.nowMs app.state = true ∨
        (app.state.linkState = .connected → recent ∧ app.state.targetSystemId ≠ 0))
  else if turn.service.reads = [] then
    turn.service.ending = .drained → app.state.linkState = .connected →
      turn.service.nowMs - app.state.lastRxTimestampMs < staleTimeoutMs →
        recent ∧ app.state.targetSystemId ≠ 0
  else
    (app.state.linkState = .connected →
      recent ∨ ∃ frame ∈ frames, frame.checksumValid = true) ∧
    (app.state.targetSystemId ≠ 0 ∨ (∃ frame ∈ frames, frame.identifies = true) ∨
      ¬ (app.state.linkState = .connected ∨ ∃ frame ∈ frames, promotes frame 0 = true))

section Turns

variable (config : ConfigParams) (before : List Turn) (turn : Turn)

/-- The application after a turn. -/
theorem run_turn : run App.turn (startApp config) (before ++ [turn]) =
    serviceSerial turn.service (atService config before turn) := by
  rw [run_snoc]
  rfl

/-- A frame was heard recently after a turn when the turn hears one, or one was heard before and
the port is not opened. -/
theorem heardRecently_snoc :
    HeardRecently config turn.service.clockMs (before ++ [turn]) ↔
      (∃ frame ∈ turn.service.frames (atService config before turn),
        frame.checksumValid = true) ∨
      (HeardRecently config turn.service.clockMs before ∧ ¬ Opens config before turn) := by
  have now : turn.service.clockMs < turn.service.clockMs + staleTimeoutMs.toNat :=
    Nat.lt_add_of_pos_right (by decide)
  rw [HeardRecently, since_snoc, Hears]
  simp [now]

/-- Nothing is heard on a port that is closed or quiet. -/
theorem heardRecently_of_silent
    (silent : turn.service.frames (atService config before turn) = []) :
    HeardRecently config turn.service.clockMs (before ++ [turn]) ↔
      HeardRecently config turn.service.clockMs before ∧ ¬ Opens config before turn := by
  rw [heardRecently_snoc, silent]
  simp

/-- On a closed port, a connected link is live after a turn exactly when what the service meets
vouches for it. -/
theorem live_iff_of_closed (closed : (atService config before turn).state.serialOpen = false) :
    Live config before turn ↔ Vouched config before turn := by
  have link := serviceSerial_link_of_closed turn.service closed
  have silent : turn.service.frames (atService config before turn) = [] := if_pos closed
  have heard := heardRecently_of_silent config before turn silent
  unfold Live Vouched
  dsimp only
  rw [if_pos closed, heard, run_turn]
  by_cases due : reconnectDue turn.service.nowMs (atService config before turn).state = true
  · rw [if_pos due] at link
    by_cases opens : turn.service.opening.errno = none
    · -- The port is opened: the link is connected, and nothing has been heard since.
      have opened : turn.service.opens (atService config before turn) = true :=
        decide_eq_true ⟨closed, due, opens⟩
      have connected : (serviceSerial turn.service
          (atService config before turn)).state.linkState = .connected := by
        refine (congrArg LinkView.state link).trans ?_
        cases result : turn.service.opening with
        | opened timeMs => rfl
        | _ =>
          rw [result] at opens
          cases opens
      constructor
      · intro live
        exact absurd (.inr opened) (live connected).1.2
      · intro vouched
        rw [opened] at vouched
        cases vouched.1
    · have unopened : turn.service.opens (atService config before turn) = false :=
        decide_eq_false fun all => opens all.2.2
      have down : (serviceSerial turn.service
          (atService config before turn)).state.linkState = .disconnected := by
        refine (congrArg LinkView.state link).trans ?_
        cases result : turn.service.opening with
        | opened timeMs =>
          rw [result] at opens
          exact absurd rfl opens
        | _ => rfl
      refine iff_of_true ?_ ⟨unopened, .inl due⟩
      intro connected
      rw [down] at connected
      cases connected
  · -- The attempt is not due: the link stays as it was.
    rw [if_neg due] at link
    have unopened : turn.service.opens (atService config before turn) = false :=
      decide_eq_false fun all => due all.2.1
    have state := congrArg LinkView.state link
    have target := congrArg LinkView.targetSystemId link
    dsimp only [linkView] at state target
    rw [state, target]
    simp [unopened, due]

/-- On an open port with nothing to read, a connected link is live after a turn exactly when what
the service meets vouches for it. -/
theorem live_iff_of_quiet (portOpen : (atService config before turn).state.serialOpen = true)
    (quiet : turn.service.reads = []) :
    Live config before turn ↔ Vouched config before turn := by
  have opened : ¬ (atService config before turn).state.serialOpen = false := by simp [portOpen]
  have link := serviceSerial_link_of_quiet turn.service portOpen quiet
  have silent : turn.service.frames (atService config before turn) = [] := by
    rw [Service.frames, quiet]
    exact ite_self []
  have heard := heardRecently_of_silent config before turn silent
  unfold Live Vouched
  dsimp only
  rw [if_neg opened, if_pos quiet, heard, run_turn]
  cases ending : turn.service.ending with
  | drained =>
    rw [ending] at link
    by_cases stale : turn.service.nowMs -
        (atService config before turn).state.lastRxTimestampMs ≥ staleTimeoutMs
    · rw [if_pos stale] at link
      have degraded : (serviceSerial turn.service
          (atService config before turn)).state.linkState = .degraded :=
        congrArg LinkView.state link
      refine iff_of_true ?_ ?_
      · intro connected
        rw [degraded] at connected
        cases connected
      · intro _ _ fresh
        exact absurd stale (UInt32.not_le.mpr fresh)
    · rw [if_neg stale] at link
      have fresh : turn.service.nowMs -
          (atService config before turn).state.lastRxTimestampMs < staleTimeoutMs :=
        UInt32.not_le.mp stale
      have state := congrArg LinkView.state link
      have target := congrArg LinkView.targetSystemId link
      dsimp only [linkView] at state target
      rw [state, target]
      simp [fresh]
  | failed errno =>
    rw [ending] at link
    have down : (serviceSerial turn.service
        (atService config before turn)).state.linkState = .disconnected :=
      congrArg LinkView.state link
    refine iff_of_true ?_ nofun
    intro connected
    rw [down] at connected
    cases connected

/-- On an open port that is read, a connected link is live after a turn exactly when what the
service meets vouches for it. -/
theorem live_iff_of_reads (portOpen : (atService config before turn).state.serialOpen = true)
    (reads : turn.service.reads ≠ []) :
    Live config before turn ↔ Vouched config before turn := by
  have opened : ¬ (atService config before turn).state.serialOpen = false := by simp [portOpen]
  have handed := serviceSerial_handedOver turn.service portOpen reads
  have heard := heardRecently_snoc config before turn
  unfold Live Vouched
  dsimp only
  rw [if_neg opened, if_neg reads, heard, run_turn]
  have identified := handed.identified
  have connects := handed.connects
  have stays := handed.stays
  have anonymous := handed.anonymous
  dsimp only [linkView] at identified connects stays anonymous
  constructor
  · intro live
    constructor
    · intro connected
      exact (live (stays connected)).1.symm
    · rw [← or_assoc, ← identified]
      by_cases known : (serviceSerial turn.service
          (atService config before turn)).state.targetSystemId = 0
      · right
        intro up
        exact (live ((anonymous known).mpr up)).2 known
      · exact .inl known
  · rintro ⟨recent, named⟩ connected
    constructor
    · rcases connects connected with up | valid
      · exact (recent up).symm
      · exact .inl valid
    · intro unknown
      rw [← or_assoc, ← identified] at named
      rcases named with known | down
      · exact known unknown
      · exact down ((anonymous unknown).mp connected)

/-- A connected link is live after a turn exactly when what the service meets vouches for it. -/
theorem live_iff : Live config before turn ↔ Vouched config before turn := by
  cases portOpen : (atService config before turn).state.serialOpen with
  | false => exact live_iff_of_closed config before turn portOpen
  | true =>
    by_cases quiet : turn.service.reads = []
    · exact live_iff_of_quiet config before turn portOpen quiet
    · exact live_iff_of_reads config before turn portOpen quiet

end Turns

/-- In every run of the loop, a connected link is live at the end of every service exactly when what
every service meets vouches for it. Opening the port connects the link before anything is heard, and
from then on any byte counts as a sign of life. -/
theorem connected_live_iff (config : ConfigParams) (turns : List Turn) :
    Each (Live config) turns ↔ Each (Vouched config) turns := by
  constructor
  · intro live before turn after place
    exact (live_iff config before turn).mp (live before turn after place)
  · intro vouched before turn after place
    exact (live_iff config before turn).mpr (vouched before turn after place)

/-- The port that has just been opened is reported connected before anything was heard. -/
theorem connected_not_live : ¬ ∀ config turns, Each (Live config) turns := by
  intro always
  have live := always .default [Turn.silent 1000 .drained] [] (Turn.silent 1000 .drained) [] rfl
  have connected : (run App.turn (startApp .default)
      ([] ++ [Turn.silent 1000 .drained])).state.linkState = .connected := by decide +kernel
  have heard := (live connected).1
  rw [List.nil_append, HeardRecently, ← List.nil_append [Turn.silent 1000 .drained],
    since_snoc] at heard
  rcases heard with ⟨-, frame, among, -⟩ | ⟨before, -⟩
  · cases among
  · exact since_nil before

end CfsTelemetry.Bridge
