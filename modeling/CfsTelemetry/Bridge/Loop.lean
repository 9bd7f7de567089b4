import CfsTelemetry.Bridge.Parser

/-!
# The main loop

Each turn of the loop handles a message of the pipe, if one has come in time, and then services
the serial port: a closed port is opened again, an open one is supervised and read. What a turn
does to the application data is a run of single inputs, in the order of the service.
-/
namespace CfsTelemetry.Bridge

open Run

/-- Bytes that one read of the port returns at most. -/
def readChunkSize : Nat := 256

/-- Reads of the port that return data in one service at most. -/
def maxReadsPerService : Nat := 32

/-- The application: the parser of the line and the application data. -/
structure App where
  parser : Parser
  state : State

/-- The application after a start with a configuration. -/
def startApp (config : ConfigParams) : App := ⟨resetParser, initialState config⟩

/-- A message of the pipe with what its handler meets. -/
inductive PipeMessage where
  | sendHk
  | routeUpdate (msg : RouteUpdate) (env : Env)
  | config (cmd : ConfigCmd) (saved : SaveResult)
  | command (command : GroundCommand)
  | missionQuery (env : Env)
  | serialReconnect (path : String) (result : OpenResult) (env : Env)
  | setFlightMode (cmd : SetFlightModeCmd) (env : Env)
  | invalid (defect : CommandDefect)

/-- The parser after an attempt to open the port. -/
def openParser (result : OpenResult) (parser : Parser) : Parser :=
  match result with
  | .opened _ => resetParser
  | _ => parser

/-- Handle a message of the pipe. -/
def taskPipe (message : PipeMessage) (app : App) : App :=
  match message with
  | .sendHk => { app with state := reportHousekeeping app.state }
  | .routeUpdate msg env => { app with state := startMissionUpload env msg app.state }
  | .config cmd saved => { app with state := processConfigCommand saved cmd app.state }
  | .command command =>
    { parser := if command = .parserReset then resetParser else app.parser
      state := handleCommand command app.state }
  | .missionQuery env => { app with state := missionQuery env app.state }
  | .serialReconnect path result env =>
    { parser := openParser result app.parser
      state := serialReconnect path result env app.state }
  | .setFlightMode cmd env => { app with state := processSetFlightModeCmd env cmd app.state }
  | .invalid defect => { app with state := rejectCommand defect app.state }

/-- Bytes of a read, each with what the bridge meets while it takes it. -/
abbrev Chunk := List (UInt8 × Env)

/-- How reading the port ends when a read returns no data. -/
inductive ReadEnd where
  | drained
  | failed (errno : Nat)
  deriving DecidableEq, Repr

/-- What one service of the port meets: the clock, how opening the port ends, the line at each
part of the service, and what the reads return. -/
structure Service where
  /-- The clock, of which the bridge sees the lower 32 bits. -/
  clockMs : Nat
  path : String
  opening : OpenResult
  openEnv : Env
  heartbeatEnv : Env
  streamsEnv : Env
  uploadEnv : Env
  readbackEnv : Env
  reads : List Chunk
  ending : ReadEnd
  endEnv : Env
  few : reads.length ≤ maxReadsPerService
  sized : ∀ chunk ∈ reads, 0 < chunk.length ∧ chunk.length ≤ readChunkSize

/-- The time that a service reads from the clock. -/
def Service.nowMs (service : Service) : UInt32 := UInt32.ofNat service.clockMs

/-- Whether it is time to open the closed port again. -/
def reconnectDue (nowMs : UInt32) (s : State) : Bool :=
  nowMs - s.lastReconnectAttemptMs ≥ s.activeConfig.reconnectIntervalMs

/-- Open the closed port when it is time to. -/
def reopen (service : Service) (app : App) : App where
  parser :=
    if reconnectDue service.nowMs app.state then openParser service.opening app.parser
    else app.parser
  state := reconnect service.nowMs service.path service.opening service.openEnv app.state

/-- What the service of an open port does before it reads. -/
def supervise (service : Service) (s : State) : State :=
  retryReadback service.nowMs service.readbackEnv
    (checkMissionDownloadTimeout service.nowMs
      (checkMissionUploadTimeout service.nowMs service.uploadEnv
        (serviceStreams service.nowMs service.streamsEnv
          (sendCompanionHeartbeat service.nowMs service.heartbeatEnv s))))

/-- Take the bytes of a read (`MAVLINK_BRIDGE_APP_HandleReceivedBytes`). -/
def takeChunk (nowMs : UInt32) (app : App) (chunk : Chunk) : App :=
  let line := chunk.foldl (fun line met => processReceivedByte met.2 nowMs line met.1)
    (app.parser, noteBytes chunk.length nowMs app.state)
  ⟨line.1, line.2⟩

/-- End a service that has read nothing. -/
def endReading (service : Service) (s : State) : State :=
  match service.ending with
  | .drained => checkStale service.nowMs service.endEnv s
  | .failed errno => failRead errno service.endEnv s

/-- Service the serial port. -/
def serviceSerial (service : Service) (app : App) : App :=
  if app.state.serialOpen = false then reopen service app
  else
    let read := service.reads.foldl (takeChunk service.nowMs)
      { app with state := supervise service app.state }
    if service.reads.isEmpty then { read with state := endReading service read.state } else read

/-- A turn of the loop: the message that came in time, if any, and the service after it. -/
structure Turn where
  message : Option PipeMessage
  service : Service

/-- Handle the message of a turn. -/
def App.receive (app : App) (turn : Turn) : App :=
  match turn.message with
  | some message => taskPipe message app
  | none => app

/-- The application after a turn. -/
def App.turn (app : App) (turn : Turn) : App := serviceSerial turn.service (app.receive turn)

/-! ## Turns as inputs -/

/-- What happens to the application data with a message of the pipe. -/
def PipeMessage.input : PipeMessage → Input
  | .sendHk => .reportHousekeeping
  | .routeUpdate msg env => .routeUpdate msg env
  | .config cmd saved => .config cmd saved
  | .command asked => .command asked
  | .missionQuery env => .missionQuery env
  | .serialReconnect path result env => .serialReconnect path result env
  | .setFlightMode cmd env => .setFlightMode cmd env
  | .invalid defect => .invalidCommand defect

/-- The frames that bytes complete. -/
def byteInputs (nowMs : UInt32) (parser : Parser) : Chunk → List Input
  | [] => []
  | (byte, env) :: rest =>
    ((parseByte parser byte).2.filterMap ParseItem.frame?).map
        (fun complete => .frame complete nowMs env) ++
      byteInputs nowMs (parseByte parser byte).1 rest

/-- The parser after bytes. -/
def parserAfter (parser : Parser) (chunk : Chunk) : Parser :=
  chunk.foldl (fun parser met => (parseByte parser met.1).1) parser

/-- What happens to the application data with the reads of a service. -/
def readsInputs (nowMs : UInt32) (parser : Parser) : List Chunk → List Input
  | [] => []
  | chunk :: rest =>
    .bytes chunk.length nowMs :: byteInputs nowMs parser chunk ++
      readsInputs nowMs (parserAfter parser chunk) rest

/-- How a service ends that has read nothing. -/
def Service.endInput (service : Service) : Input :=
  match service.ending with
  | .drained => .checkStale service.nowMs service.endEnv
  | .failed errno => .readFailure errno service.endEnv

/-- What happens to the application data before the reads of an open port. -/
def Service.supervision (service : Service) : List Input :=
  [.companionHeartbeat service.nowMs service.heartbeatEnv,
    .serviceStreams service.nowMs service.streamsEnv,
    .checkUpload service.nowMs service.uploadEnv,
    .checkDownload service.nowMs,
    .retryReadback service.nowMs service.readbackEnv]

/-- What happens to the application data with a service of the port. -/
def Service.inputs (service : Service) (app : App) : List Input :=
  if app.state.serialOpen = false then
    [.reconnect service.nowMs service.path service.opening service.openEnv]
  else
    service.supervision ++ readsInputs service.nowMs app.parser service.reads ++
      if service.reads.isEmpty then [service.endInput] else []

/-- What happens to the application data in a turn. -/
def turnInputs (app : App) (turn : Turn) : List Input :=
  (turn.message.map PipeMessage.input).toList ++ turn.service.inputs (app.receive turn)

/-- What happens to the application data in turns after a start. -/
def loopInputs (config : ConfigParams) (turns : List Turn) : List Input :=
  project App.turn turnInputs (startApp config) turns

/-- Handling a message is its input. -/
theorem taskPipe_state (message : PipeMessage) (app : App) :
    (taskPipe message app).state = step app.state message.input := by
  cases message <;> rfl

/-- Receiving the message of a turn is the run of its input. -/
theorem receive_state (app : App) (turn : Turn) :
    (app.receive turn).state = run step app.state (turn.message.map PipeMessage.input).toList := by
  unfold App.receive
  cases turn.message with
  | none => rfl
  | some message => exact taskPipe_state message app

/-- Taking a byte is the run of the frames that it completes. -/
theorem processReceivedByte_run (env : Env) (nowMs : UInt32) (parser : Parser) (s : State)
    (byte : UInt8) :
    processReceivedByte env nowMs (parser, s) byte =
      ((parseByte parser byte).1, run step s
        (((parseByte parser byte).2.filterMap ParseItem.frame?).map
          fun complete => .frame complete nowMs env)) := by
  obtain ⟨complete, items⟩ := parseByte_items parser byte
  have names : (complete.map ParseItem.frame).filterMap ParseItem.frame? = complete := by
    rw [List.filterMap_map]
    exact List.filterMap_some
  rw [processReceivedByte, items, names, List.foldl_map, run, List.foldl_map]
  rfl

/-- Taking the bytes of a read is the run of the frames that they complete. -/
theorem takeBytes_run (nowMs : UInt32) (chunk : Chunk) (parser : Parser) (s : State) :
    chunk.foldl (fun line met => processReceivedByte met.2 nowMs line met.1) (parser, s) =
      (parserAfter parser chunk, run step s (byteInputs nowMs parser chunk)) := by
  induction chunk generalizing parser s with
  | nil => rfl
  | cons met rest later =>
    rw [List.foldl_cons, processReceivedByte_run, later, byteInputs, run_append]
    rfl

/-- Taking reads is the run of their inputs. -/
theorem takeChunks_run (nowMs : UInt32) (reads : List Chunk) (app : App) :
    (reads.foldl (takeChunk nowMs) app).state =
      run step app.state (readsInputs nowMs app.parser reads) := by
  induction reads generalizing app with
  | nil => rfl
  | cons chunk rest later =>
    have first : takeChunk nowMs app chunk = ⟨parserAfter app.parser chunk,
        run step (noteBytes chunk.length nowMs app.state)
          (byteInputs nowMs app.parser chunk)⟩ := by
      rw [takeChunk, takeBytes_run]
    rw [List.foldl_cons, later, first, readsInputs, List.cons_append, run_cons, run_append]
    rfl

/-- A service of the port is the run of its inputs. -/
theorem serviceSerial_state (service : Service) (app : App) :
    (serviceSerial service app).state = run step app.state (service.inputs app) := by
  unfold serviceSerial Service.inputs
  by_cases closed : app.state.serialOpen = false
  · rw [if_pos closed, if_pos closed]
    rfl
  · rw [if_neg closed, if_neg closed]
    have supervised : run step app.state service.supervision = supervise service app.state := rfl
    dsimp only
    by_cases nothing : service.reads.isEmpty = true
    · have none : service.reads = [] := List.isEmpty_iff.mp nothing
      rw [if_pos nothing, if_pos nothing, run_append, run_append, supervised, none]
      show endReading service (supervise service app.state) =
        step (supervise service app.state) service.endInput
      unfold endReading Service.endInput
      cases service.ending <;> rfl
    · rw [if_neg nothing, if_neg nothing, List.append_nil, run_append, supervised,
        takeChunks_run]

/-- A turn is the run of its inputs. -/
theorem turn_state (app : App) (turn : Turn) :
    (app.turn turn).state = run step app.state (turnInputs app turn) := by
  rw [App.turn, serviceSerial_state, receive_state, turnInputs, run_append]

/-- The application data after turns are those after the inputs of the turns, so that what holds of
every run of inputs holds of the main loop. -/
theorem loop_state (config : ConfigParams) (turns : List Turn) :
    (run App.turn (startApp config) turns).state =
      run step (initialState config) (loopInputs config turns) := by
  induction turns using List.reverseRecOn with
  | nil => rfl
  | append_singleton before turn previous =>
    have last : loopInputs config (before ++ [turn]) = loopInputs config before ++
        turnInputs (run App.turn (startApp config) before) turn := project_snoc ..
    rw [run_snoc, turn_state, previous, last, run_append]

/-- A service that opens a closed port, and reads nothing from an open one. -/
def Service.silent (clockMs : Nat) (ending : ReadEnd) : Service where
  clockMs := clockMs
  path := "/dev/serial0"
  opening := .opened (UInt32.ofNat clockMs)
  openEnv := Env.at (UInt32.ofNat clockMs)
  heartbeatEnv := Env.at (UInt32.ofNat clockMs)
  streamsEnv := Env.at (UInt32.ofNat clockMs)
  uploadEnv := Env.at (UInt32.ofNat clockMs)
  readbackEnv := Env.at (UInt32.ofNat clockMs)
  reads := []
  ending := ending
  endEnv := Env.at (UInt32.ofNat clockMs)
  few := Nat.zero_le _
  sized := fun _ none => absurd none List.not_mem_nil

/-- A turn without a message and without data. -/
def Turn.silent (clockMs : Nat) (ending : ReadEnd) : Turn := ⟨none, Service.silent clockMs ending⟩

/-- A turn without a message in which one read returns bytes. -/
def Turn.reading (clockMs : Nat) (bytes : List UInt8)
    (sized : 0 < bytes.length ∧ bytes.length ≤ readChunkSize) : Turn where
  message := none
  service := { Service.silent clockMs .drained with
    reads := [bytes.map fun byte => (byte, Env.at (UInt32.ofNat clockMs))]
    few := Nat.succ_le_succ (Nat.zero_le 31)
    sized := by simpa using sized }

/-- The bytes of a frame of the flight controller. -/
def frameBytes (kind : MessageKind) (payload : List UInt8)
    (fits : payload.length ≤ maxPayloadLen) (named : kind.id.toNat < 2 ^ 24) : List UInt8 :=
  WireFrame.bytes {
    isV2 := true
    seq := 0
    sysId := 1
    compId := 1
    msgId := kind.id
    payload := payload
    crcExtra := kind.crcExtra
    fits := fits
    named := named }

/-- The port is opened, the autopilot is heard, and the readback finds no mission. -/
def connectionTurns : List Turn :=
  [Turn.silent 1000 .drained,
    Turn.reading 1100
      (frameBytes .heartbeat [0, 0, 0, 0, 2, 3, 81, 4, 3] (by decide) heartbeat_named)
      (by decide +kernel),
    Turn.reading 1200 (frameBytes .missionCount [0, 0, 255, 190, 0] (by decide) (by decide))
      (by decide +kernel)]

end CfsTelemetry.Bridge
