import CfsTelemetry.Bridge.Receive
import CfsTelemetry.Core.Config
import CfsTelemetry.Core.Health

/-!
# The pipe of the core application

The application as a whole: beside its health and its configuration it keeps a mode, the last
viewpoint and the route snapshots that it publishes on request. Every message of its pipe has a
branch of the dispatcher, and a turn of the main loop without a message goes on with the health.
-/
namespace CfsTelemetry.Core

/-- The mode of the system (`CFS_CORE_APP_ModeState_t`). -/
inductive ModeState where
  | normal | recovery
  deriving DecidableEq, Repr

/-- The code of a mode. -/
def ModeState.code : ModeState → UInt8
  | normal => 0 | recovery => 1

/-- What a mode command asks for (`CFS_CORE_APP_ModeAction_t`). -/
inductive ModeAction where
  | enter | exit
  deriving DecidableEq, Repr

/-- The action that a byte of a mode command names. -/
def ModeAction.ofByte : UInt8 → Option ModeAction
  | 0 => some enter | 1 => some exit | _ => none

/-- The last viewpoint (`CFS_CORE_APP_ViewpointCache_t`). -/
structure ViewpointCache where
  timestampMs : UInt32
  sourceSequence : UInt32
  viewpointType : UInt8
  positionFrame : UInt8
  valid : Bool
  x : UInt32
  y : UInt32
  z : UInt32
  yaw : UInt32
  pitch : UInt32
  holdTimeMs : UInt32
  deriving DecidableEq, Repr

/-- Identifiers of the event messages of the dispatcher. -/
inductive NoteId where
  | commandErr | noop | reset | viewpoint | modeCmd | routeReadback
  deriving DecidableEq, Repr

/-- An event message of the dispatcher. -/
structure Note where
  id : NoteId
  type : EventType
  text : String
  deriving DecidableEq, Repr

/-- The application with what its other commands keep. -/
structure Application where
  configured : Configured
  currentModeState : ModeState
  lastModeRequestToken : UInt32
  viewpointCmd : ViewpointCache
  /-- Route snapshots published, newest first. -/
  snapshots : List RouteUpdate
  /-- Event messages of the dispatcher, newest first. -/
  notes : List Note
  deriving DecidableEq

/-- The application data. -/
abbrev Application.data (a : Application) : State := a.configured.app

/-- The application with other data. -/
def Application.withData (s : State) (a : Application) : Application :=
  { a with configured := { a.configured with app := s } }

/-- Send an event message. -/
def Application.note (id : NoteId) (type : EventType) (text : String) (a : Application) :
    Application :=
  { a with notes := ⟨id, type, text⟩ :: a.notes }

/-- Report how a command ended (`CFS_CORE_APP_PublishExecResult`). -/
def publishExecResult (sourceSequence : UInt16) (commandClass : UInt8) (ok : Bool)
    (detailCode : UInt8) (a : Application) : Application :=
  a.withData (transmitMsg (.execResult {
    sourceSequence := sourceSequence
    sourceApp := 1
    commandClass := commandClass
    genericResult := if ok then 0 else 1
    detailCode := detailCode }) a.data)

/-- Keep a viewpoint, and report that nothing carries it out. -/
def processViewpointCommand (msg : Uplink.ViewpointCmdTlm) (a : Application) : Application :=
  let kept := { a with viewpointCmd := {
    timestampMs := msg.timestampMs
    sourceSequence := msg.sourceSequence.toUInt32
    viewpointType := msg.viewpointType
    positionFrame := msg.positionFrame
    valid := true
    x := msg.x
    y := msg.y
    z := msg.z
    yaw := msg.yaw
    pitch := msg.pitch
    holdTimeMs := msg.holdTimeMs } }
  publishExecResult msg.sourceSequence 3 false msg.viewpointType
    (kept.note .viewpoint .information
      (s!"CFS_CORE_APP: viewpoint cmd type={msg.viewpointType} seq={msg.sourceSequence} " ++
        s!"x={Bridge.fixedText 1 msg.x} y={Bridge.fixedText 1 msg.y} " ++
        s!"z={Bridge.fixedText 1 msg.z} hold={msg.holdTimeMs}ms"))

/-- The mode that a mode command leads to, if the transition is allowed. -/
def nextMode (modeAction requestedState : UInt8) (current : ModeState) : Option ModeState :=
  match ModeAction.ofByte modeAction with
  | some .enter =>
    if requestedState = ModeState.recovery.code ∧ current = .normal then some .recovery else none
  | some .exit =>
    if requestedState = ModeState.normal.code ∧ current = .recovery then some .normal else none
  | none => none

/-- Handle a mode command. -/
def processModeCommand (msg : Uplink.ModeCmdTlm) (a : Application) : Application :=
  let counted := (a.withData { a.data with cmdCounter := a.data.cmdCounter + 1 })
  let noted := { counted with lastModeRequestToken := msg.requestToken }
  let answered :=
    match nextMode msg.modeAction msg.requestedState a.currentModeState with
    | some mode => { noted with currentModeState := mode }.note .modeCmd .information
        (s!"CFS_CORE_APP: mode cmd TRANSITION seq={msg.sourceSequence} action={msg.modeAction} " ++
          s!"state={msg.requestedState} token={msg.requestToken}")
    | none => (noted.withData { noted.data with errCounter := noted.data.errCounter + 1 }).note
        .modeCmd .error
        (s!"CFS_CORE_APP: mode cmd REJECTED seq={msg.sourceSequence} action={msg.modeAction} " ++
          s!"state={msg.requestedState} current={a.currentModeState.code}")
  publishExecResult msg.sourceSequence 5
    (nextMode msg.modeAction msg.requestedState a.currentModeState).isSome msg.requestedState
    answered

/-- The snapshot of the route that answers a diagnostic command
(`CFS_CORE_APP_RouteSnapshotTlm_t`). -/
def routeSnapshot (sourceSequence : UInt16) (route : RouteCache) : RouteUpdate where
  seq := route.updateCount
  timestampMs := route.timestampMs
  sourceSequence := sourceSequence.toUInt32
  routeType := 0
  routeVersion := route.routeVersion
  waypointCount := route.waypointCount
  waypoints := route.waypoints

/-- The target of a diagnostic command for this application
(`CFS_CORE_APP_DIAG_TARGET_CFS_CORE`). -/
def diagTarget : UInt8 := 1

/-- The action that asks for the route (`CFS_CORE_APP_DIAG_ACTION_ROUTE_READBACK_REQUEST`). -/
def routeReadbackRequest : UInt8 := 3

/-- Handle a diagnostic command, unless it is for another application. -/
def processDiagnosticCommand (msg : Uplink.DiagnosticCmdTlm) (a : Application) : Application :=
  if msg.diagTarget ≠ diagTarget then a
  else if msg.diagAction ≠ routeReadbackRequest then
    a.note .routeReadback .error
      s!"CFS_CORE_APP: diag UNKNOWN action={msg.diagAction} seq={msg.sourceSequence}"
  else
    let counted := a.withData { a.data with cmdCounter := a.data.cmdCounter + 1 }
    let snapshot := routeSnapshot msg.sourceSequence a.data.missionRoute
    { counted.note .routeReadback .information
        (s!"CFS_CORE_APP: route readback requested seq={msg.sourceSequence} " ++
          s!"wp_count={snapshot.waypointCount} token={msg.requestToken}") with
      snapshots := snapshot :: a.snapshots }

/-- Count a command that does nothing. -/
def noop (a : Application) : Application :=
  (a.withData { a.data with cmdCounter := a.data.cmdCounter + 1 }).note .noop .information
    "CFS_CORE_APP: NOOP"

/-- Set the command counters to zero. -/
def resetCounters (a : Application) : Application :=
  (a.withData { a.data with cmdCounter := 0, errCounter := 0 }).note .reset .information
    "CFS_CORE_APP: RESET"

/-- Count an error. -/
def countError (a : Application) : Application :=
  a.withData { a.data with errCounter := a.data.errCounter + 1 }

/-! ## The dispatcher -/

/-- A message of the pipe, as `CFS_CORE_APP_TaskPipe` tells them apart. A ground command carries
its size. -/
inductive PipeMessage where
  | unreadableId
  | sendHk
  | state (message : StateMessage)
  | config (cmd : ConfigCmd)
  | viewpoint (msg : Uplink.ViewpointCmdTlm)
  | recovery (msg : Uplink.RecoveryCmdTlm)
  | mode (msg : Uplink.ModeCmdTlm)
  | diagnostic (msg : Uplink.DiagnosticCmdTlm)
  | unknownId
  | unreadableFcnCode
  | command (fcnCode : UInt16) (size : Nat)

/-- Bytes of the header of a command. -/
def commandHeaderSize : Nat := 8

/-- Run a command without parameters if it has the size of one (`CFS_CORE_APP_VerifyCmdLength`). -/
def withCmdLength (size : Nat) (handler : Application → Application) (a : Application) :
    Application :=
  if size ≠ commandHeaderSize then
    (countError a).note .commandErr .error
      s!"CFS_CORE_APP: Invalid cmd length expected={commandHeaderSize} actual={size}"
  else handler a

/-- Handle a message of the pipe (`CFS_CORE_APP_TaskPipe`). -/
def taskPipe (env : Env) (message : PipeMessage) (a : Application) : Application :=
  match message with
  | .unreadableId | .unknownId | .unreadableFcnCode => countError a
  | .sendHk => a.withData (reportHousekeeping a.data)
  | .state message => a.withData (processStateMessage message env a.data)
  | .config cmd => { a with
      configured := processConfigCommand (env.save 0) env.stateFilePath cmd a.configured }
  | .viewpoint msg => processViewpointCommand msg a
  | .recovery msg => a.withData (processRecoveryCommand msg env a.data)
  | .mode msg => processModeCommand msg a
  | .diagnostic msg => processDiagnosticCommand msg a
  | .command fcnCode size =>
    if fcnCode = 0 then withCmdLength size noop a
    else if fcnCode = 1 then withCmdLength size resetCounters a
    else (countError a).note .commandErr .error s!"CFS_CORE_APP: invalid command code {fcnCode}"

/-- A round of the main loop: a message of the pipe, or none in time. -/
def round (a : Application) (met : Env × Option PipeMessage) : Application :=
  match met.2 with
  | some message => taskPipe met.1 message a
  | none => a.withData (servicePrototype met.1 a.data)

/-- The application after its start (`CFS_CORE_APP_Init`). -/
def startApplication (io : StateFile.LoadIo) (stateFile : Option (List UInt8)) : Application where
  configured := boot io stateFile
  currentModeState := .normal
  lastModeRequestToken := 0
  viewpointCmd := ⟨0, 0, 0, 0, false, 0, 0, 0, 0, 0, 0⟩
  snapshots := []
  notes := []

end CfsTelemetry.Core
