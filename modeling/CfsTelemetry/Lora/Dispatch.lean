import CfsTelemetry.Lora.Cycle
import CfsTelemetry.StateFile

/-!
# The dispatcher of the LoRa application

The messages that the application subscribes to, and what it does with each message that its
pipe delivers. Subscription, dispatch and the update of the cache each have their own list of
identifiers.
-/
namespace CfsTelemetry.Lora

/-- Identifier of a message on the bus. -/
abbrev MsgId := UInt16

/-- Ground commands (`LORA_TDM_APP_CMD_MID_VALUE`). -/
def cmdMid : MsgId := 0x18E0

/-- Requests for housekeeping (`LORA_TDM_APP_SEND_HK_MID_VALUE`). -/
def sendHkMid : MsgId := 0x18E1

/-- The system health (`LORA_TDM_APP_SYSTEM_HEALTH_MID_VALUE`). -/
def systemHealthMid : MsgId := 0x1904

/-- The local position (`LORA_TDM_APP_FC_EKF_LOCAL_STATE_MID_VALUE`). -/
def fcEkfLocalStateMid : MsgId := 0x1905

/-- The attitude (`LORA_TDM_APP_FC_ATTITUDE_STATE_MID_VALUE`). -/
def fcAttitudeStateMid : MsgId := 0x1906

/-- The position fix (`LORA_TDM_APP_FC_GPS_RAW_STATE_MID_VALUE`). -/
def fcGpsRawStateMid : MsgId := 0x1907

/-- The filter status (`LORA_TDM_APP_FC_EKF_STATUS_MID_VALUE`). -/
def fcEkfStatusMid : MsgId := 0x1908

/-- The system time (`LORA_TDM_APP_FC_SYS_TIME_MID_VALUE`). -/
def fcSysTimeMid : MsgId := 0x1909

/-- The status of the uplink application (`LORA_TDM_APP_UPLINK_STATUS_MID_VALUE`). -/
def uplinkStatusMid : MsgId := 0x190A

/-- Configuration commands (`LORA_TDM_APP_CONFIG_CMD_MID_VALUE`). -/
def configCmdMid : MsgId := 0x190E

/-- Diagnostic commands (`LORA_TDM_APP_DIAGNOSTIC_CMD_MID_VALUE`). -/
def diagnosticCmdMid : MsgId := 0x1910

/-- Route snapshots (`LORA_TDM_APP_ROUTE_SNAPSHOT_MID_VALUE`). -/
def routeSnapshotMid : MsgId := 0x1913

/-- The identifiers that the application subscribes to (`LORA_TDM_APP_Init`). -/
def subscriptions : List MsgId :=
  [cmdMid, sendHkMid, systemHealthMid, fcEkfLocalStateMid, fcAttitudeStateMid, fcGpsRawStateMid,
    fcEkfStatusMid, fcSysTimeMid, diagnosticCmdMid, uplinkStatusMid, configCmdMid,
    routeSnapshotMid]

/-- A diagnostic command (`DIAGNOSTIC_CMD_TLM_t`). -/
structure DiagnosticCmd where
  sourceSequence : UInt16
  diagAction : UInt8
  diagTarget : UInt8
  requestToken : UInt32

/-- A message that the pipe delivers, by its identifier and with the fields that are read. -/
inductive Packet where
  /-- A ground command with its code, its size, and its first byte behind the header. -/
  | groundCommand (fcnCode : UInt16) (size : Nat) (useV2 : UInt8)
  | sendHk
  | telemetry (message : Telemetry)
  | sysTime (valid : UInt8) (timeUnixUsec : UInt64)
  | diagnostic (cmd : DiagnosticCmd)
  | config (cmd : ConfigCmd)
  | uplinkStatus (tlm : Uplink.StatusTlm)
  /-- A message of another identifier, of which nothing else is read. -/
  | other (msgId : MsgId) (foreign : msgId ∉ subscriptions)

/-- The identifier of a message that the downlink reports on. -/
def Telemetry.msgId : Telemetry → MsgId
  | .attitude .. => fcAttitudeStateMid
  | .ekfLocal .. => fcEkfLocalStateMid
  | .gpsRaw .. => fcGpsRawStateMid
  | .ekfStatus .. => fcEkfStatusMid
  | .systemHealth .. => systemHealthMid
  | .routeSnapshot .. => routeSnapshotMid

/-- The identifier of a message. -/
def Packet.msgId : Packet → MsgId
  | .groundCommand .. => cmdMid
  | .sendHk => sendHkMid
  | .telemetry message => message.msgId
  | .sysTime .. => fcSysTimeMid
  | .diagnostic _ => diagnosticCmdMid
  | .config _ => configCmdMid
  | .uplinkStatus _ => uplinkStatusMid
  | .other msgId _ => msgId

/-- The housekeeping message (`LORA_TDM_APP_HkPayload_t`). -/
structure HkPayload where
  commandCounter : UInt8
  commandErrorCounter : UInt8
  linkState : UInt8
  packetType : UInt8
  attitudeValid : UInt8
  localValid : UInt8
  gpsValid : UInt8
  ekfValid : UInt8
  systemHealthState : UInt8
  pendingUplinkFeedback : UInt8
  txCount : UInt32
  rxAckCount : UInt32
  rxCmdCount : UInt32
  rxErrorCount : UInt16
  noAckCount : UInt16
  lastAckTimestampMs : UInt32
  deriving DecidableEq, Repr

/-- The message on the link (`LORA_TDM_APP_LinkStatusTlm_t`). -/
structure LinkStatusTlm where
  seq : UInt32
  timestampMs : UInt32
  linkState : UInt8
  lastAckTimestampMs : UInt32
  noAckCount : UInt16
  rxErrorCount : UInt16
  txCount : UInt32
  rxAckCount : UInt32
  rxCmdCount : UInt32
  deriving DecidableEq, Repr

/-- A message that the dispatcher puts on the bus. -/
inductive Sent where
  | housekeeping (payload : HkPayload)
  | linkStatus (tlm : LinkStatusTlm)
  | execResult (result : ExecResult)
  deriving DecidableEq, Repr

/-- Identifiers of the event messages of the dispatcher. -/
inductive ReportId where
  | noop | reset | midErr | cmdLenErr | ccErr | crcFail | diagnosticCmd | setDlProto
  | setDlProtoErr | stateSaveFail | stateCorrupt
  deriving DecidableEq, Repr

/-- An event message of the dispatcher. -/
structure Report where
  id : ReportId
  type : EventType
  text : String
  deriving DecidableEq, Repr

/-- The application data with the command counters and what the dispatcher has put out. -/
structure App where
  data : State
  cmdCounter : UInt8
  errCounter : UInt8
  /-- Messages sent, newest first. -/
  sent : List Sent
  /-- Event messages, newest first. -/
  reports : List Report

/-- How saving the state ends. -/
inductive SaveResult where
  | saved | openFailed (errno : Nat) | writeFailed (errno : Nat) | renameFailed (errno : Nat)
  deriving DecidableEq, Repr

/-- What a message meets: the clock, the path of the state file and how saving it ends. -/
structure PacketEnv where
  now : UInt32
  statePath : String
  save : SaveResult

/-- Send an event message. -/
def report (id : ReportId) (type : EventType) (text : String) (app : App) : App :=
  { app with reports := ⟨id, type, text⟩ :: app.reports }

/-- Count a command that was refused. -/
def refuse (app : App) : App := { app with errCounter := app.errCounter + 1 }

/-! ## Ground commands -/

/-- Bytes of the header of a command. -/
def commandHeaderSize : Nat := 8

/-- A command whose size is not the one of its type is refused
(`LORA_TDM_APP_VerifyCmdLength`). -/
def failCmdLength (fcnCode : UInt16) (expected actual : Nat) (app : App) : App :=
  report .cmdLenErr .error
    (s!"LORA_TDM_APP: Invalid cmd length MID=0x{hexText 4 cmdMid.toNat} CC={fcnCode} " ++
      s!"expected={expected} actual={actual}") (refuse app)

/-- The command that does nothing. -/
def noop (app : App) : App :=
  report .noop .information "LORA_TDM_APP: NOOP command"
    { app with cmdCounter := app.cmdCounter + 1 }

/-- Set the counters to zero. -/
def resetCounters (app : App) : App :=
  report .reset .information "LORA_TDM_APP: ResetCounters command"
    { app with
      cmdCounter := 0
      errCounter := 0
      data := { app.data with
        txCount := 0
        rxAckCount := 0
        rxCmdCount := 0
        rxErrorCount := 0
        noAckCount := 0 } }

/-- Save the state: what fails is reported. -/
def saveState (env : PacketEnv) (app : App) : App :=
  match env.save with
  | .saved => app
  | .openFailed errno =>
    report .stateSaveFail .error
      (s!"LORA_TDM_APP: state save open failed " ++
        s!"path={StateFile.tmpPath env.statePath} errno={errno}") app
  | .writeFailed errno =>
    report .stateSaveFail .error
      (s!"LORA_TDM_APP: state save write failed " ++
        s!"path={StateFile.tmpPath env.statePath} errno={errno}") app
  | .renameFailed errno =>
    report .stateSaveFail .error
      s!"LORA_TDM_APP: state save rename failed path={env.statePath} errno={errno}" app

/-- Saving the state leaves the data alone. -/
theorem saveState_data (env : PacketEnv) (app : App) : (saveState env app).data = app.data := by
  unfold saveState
  cases env.save <;> rfl

/-- The name of a downlink protocol. -/
def protocolName (useV2 : Bool) : String := if useV2 then "v2(DL2)" else "v1(text)"

/-- Choose the downlink protocol, save the choice and report it. -/
def applyProtocol (env : PacketEnv) (useV2 : Bool) (suffix : String) (app : App) : App :=
  report .setDlProto .information
    s!"LORA_TDM_APP: downlink protocol set to {protocolName useV2}{suffix}"
    (saveState env { app with
      data := { app.data with useV2Downlink := useV2 }
      cmdCounter := app.cmdCounter + 1 })

/-- Choose the downlink protocol by a ground command. -/
def setDownlinkProtocol (env : PacketEnv) (useV2 : UInt8) (app : App) : App :=
  if useV2 ≠ 0 ∧ useV2 ≠ 1 then
    report .setDlProtoErr .error
      s!"LORA_TDM_APP: rejected downlink protocol value={useV2} (only 0/1 accepted)" (refuse app)
  else applyProtocol env (useV2 != 0) "" app

/-- Handle a ground command. -/
def processGroundCommand (env : PacketEnv) (fcnCode : UInt16) (size : Nat) (useV2 : UInt8)
    (app : App) : App :=
  if fcnCode = 0 then
    if size = commandHeaderSize then noop app
    else failCmdLength fcnCode commandHeaderSize size app
  else if fcnCode = 1 then
    if size = commandHeaderSize then resetCounters app
    else failCmdLength fcnCode commandHeaderSize size app
  else if fcnCode = 2 then
    if size = commandHeaderSize + 4 then setDownlinkProtocol env useV2 app
    else failCmdLength fcnCode (commandHeaderSize + 4) size app
  else report .ccErr .error s!"LORA_TDM_APP: Invalid command code {fcnCode}" (refuse app)

/-- Send a message. -/
def send (message : Sent) (app : App) : App := { app with sent := message :: app.sent }

/-- The housekeeping message (`LORA_TDM_APP_ReportHousekeeping`). -/
def hkPayload (app : App) : HkPayload where
  commandCounter := app.cmdCounter
  commandErrorCounter := app.errCounter
  linkState := app.data.linkState.code
  packetType := app.data.packetType
  attitudeValid := app.data.fcState.attitudeValid
  localValid := app.data.fcState.localValid
  gpsValid := app.data.fcState.gpsValid
  ekfValid := app.data.fcState.ekfValid
  systemHealthState := app.data.systemHealth.systemHealthState
  pendingUplinkFeedback := app.data.pendingUplinkFeedback.code
  txCount := app.data.txCount
  rxAckCount := app.data.rxAckCount
  rxCmdCount := app.data.rxCmdCount
  rxErrorCount := app.data.rxErrorCount
  noAckCount := app.data.noAckCount
  lastAckTimestampMs := app.data.lastAckTimestampMs

/-- The message on the link (`LORA_TDM_APP_ReportLinkStatus`). -/
def linkStatusTlm (now : UInt32) (app : App) : LinkStatusTlm where
  seq := app.data.downlinkSeq
  timestampMs := now
  linkState := app.data.linkState.code
  lastAckTimestampMs := app.data.lastAckTimestampMs
  noAckCount := app.data.noAckCount
  rxErrorCount := app.data.rxErrorCount
  txCount := app.data.txCount
  rxAckCount := app.data.rxAckCount
  rxCmdCount := app.data.rxCmdCount

/-- Answer a request for housekeeping. -/
def sendHousekeeping (now : UInt32) (app : App) : App :=
  send (.linkStatus (linkStatusTlm now app)) (send (.housekeeping (hkPayload app)) app)

/-- Handle a diagnostic command, unless it is for another application. -/
def processDiagnosticCommand (cmd : DiagnosticCmd) (app : App) : App :=
  if cmd.diagTarget ≠ 0 then app
  else
    let counted := { app with cmdCounter := app.cmdCounter + 1 }
    if cmd.diagAction = 0 then
      report .diagnosticCmd .information
        (s!"LORA_TDM_APP: diag LINK_STATUS seq={cmd.sourceSequence} " ++
          s!"link={app.data.linkState.code} noack={app.data.noAckCount} " ++
          s!"dlseq={app.data.downlinkSeq} token={cmd.requestToken}") counted
    else if cmd.diagAction = 1 then
      report .diagnosticCmd .information
        (s!"LORA_TDM_APP: diag RX_STATS seq={cmd.sourceSequence} rxcmd={app.data.rxCmdCount} " ++
          s!"rxack={app.data.rxAckCount} rxerr={app.data.rxErrorCount} " ++
          s!"token={cmd.requestToken}") counted
    else if cmd.diagAction = 2 then
      report .diagnosticCmd .information
        (s!"LORA_TDM_APP: diag TX_STATS seq={cmd.sourceSequence} " ++
          s!"txcount={app.data.txCount} token={cmd.requestToken}") counted
    else
      report .diagnosticCmd .error
        s!"LORA_TDM_APP: diag UNKNOWN action={cmd.diagAction} seq={cmd.sourceSequence}" counted

/-- The checksum a configuration command should carry (`ConfigChecksum`). -/
def configChecksum (cmd : ConfigCmd) : UInt16 := cmd.sum

/-- Report how a configuration command ended (`LORA_TDM_APP_PublishExecResult`). -/
def publishExecResult (sourceSequence : UInt16) (commandClass : UInt8) (ok : Bool) (app : App) :
    App :=
  let result := if ok then 0 else 1
  send (.execResult ⟨sourceSequence, 3, commandClass, result, result⟩) app

/-- Handle a configuration command, unless it is for another application. -/
def processConfigCommand (env : PacketEnv) (cmd : ConfigCmd) (app : App) : App :=
  if cmd.payloadLength < 8 then app
  else if cmd.byte 0 ≠ 3 then app
  else if cmd.byte 1 ≠ 1 then publishExecResult cmd.sourceSequence 1 false (refuse app)
  else if cmd.byte 5 ≠ 4 ∨ 8 + cmd.byte 5 > cmd.payloadLength then
    publishExecResult cmd.sourceSequence 1 false (refuse app)
  else if cmd.checksum ≠ configChecksum cmd then
    publishExecResult cmd.sourceSequence 1 false
      (report .crcFail .error
        (s!"LORA_TDM_APP: config checksum mismatch got=0x{hexText 4 cmd.checksum.toNat} " ++
          s!"expected=0x{hexText 4 (configChecksum cmd).toNat}") (refuse app))
  else
    let value := Words.word32 (cmd.byte 8) (cmd.byte 9) (cmd.byte 10) (cmd.byte 11)
    if cmd.parameterId = 0 then
      if value ≠ 0 ∧ value ≠ 1 then
        publishExecResult cmd.sourceSequence 1 false
          (report .setDlProtoErr .error
            (s!"LORA_TDM_APP: rejected downlink protocol value={value} " ++
              "via CONFIG_CMD_MID (only 0/1 accepted)") (refuse app))
      else
        publishExecResult cmd.sourceSequence 1 true
          (applyProtocol env (value != 0) " (via CONFIG_CMD_MID)" app)
    else publishExecResult cmd.sourceSequence 1 false (refuse app)

/-! ## Dispatch -/

/-- Update the cache (`LORA_TDM_APP_UpdateCacheFromMsg`). A route snapshot is none of the
messages it looks for; the system time is one. -/
def updateCache (packet : Packet) (s : State) : State :=
  match packet with
  | .telemetry (.routeSnapshot ..) => s
  | .telemetry message => updateCacheFromMsg message s
  | .sysTime valid timeUnixUsec =>
    { s with fcState := { s.fcState with timeUnixUsec := timeUnixUsec, timeValid := valid } }
  | _ => s

/-- The branches of the dispatcher. -/
inductive Branch where
  | groundCommand | sendHk | cache | diagnostic | routeSnapshot | config | uplinkStatus | unknown
  deriving DecidableEq, Repr

/-- The branch that an identifier takes (`LORA_TDM_APP_ProcessCommandPacket`). -/
def branch (msgId : MsgId) : Branch :=
  if msgId = cmdMid then .groundCommand
  else if msgId = sendHkMid then .sendHk
  else if msgId = fcAttitudeStateMid ∨ msgId = fcEkfLocalStateMid ∨ msgId = fcGpsRawStateMid ∨
      msgId = fcEkfStatusMid ∨ msgId = systemHealthMid then .cache
  else if msgId = diagnosticCmdMid then .diagnostic
  else if msgId = routeSnapshotMid then .routeSnapshot
  else if msgId = configCmdMid then .config
  else if msgId = uplinkStatusMid then .uplinkStatus
  else .unknown

/-- Refuse a message of an identifier that no branch is for. -/
def failMid (msgId : MsgId) (app : App) : App :=
  report .midErr .error s!"LORA_TDM_APP: Unknown MID 0x{hexText 4 msgId.toNat}" (refuse app)

/-- Handle a message of the pipe. A branch reads a message as the type of its identifier, so
that no branch meets a message of another type. -/
def processPacket (env : PacketEnv) (packet : Packet) (app : App) : App :=
  match branch packet.msgId, packet with
  | .groundCommand, .groundCommand fcnCode size useV2 =>
    processGroundCommand env fcnCode size useV2 app
  | .sendHk, .sendHk => sendHousekeeping env.now app
  | .cache, packet => { app with data := updateCache packet app.data }
  | .diagnostic, .diagnostic cmd => processDiagnosticCommand cmd app
  | .routeSnapshot, .telemetry (.routeSnapshot routeType waypointCount waypoints) =>
    { app with data := processRouteSnapshot routeType waypointCount waypoints app.data }
  | .config, .config cmd => processConfigCommand env cmd app
  | .uplinkStatus, .uplinkStatus tlm => { app with data := processUplinkStatus tlm app.data }
  | .unknown, packet => failMid packet.msgId app
  | _, _ => app

/-- No branch is for an identifier that is not subscribed to. -/
theorem branch_foreign {msgId : MsgId} (foreign : msgId ∉ subscriptions) :
    branch msgId = .unknown := by
  have differs (subscribed : MsgId) (mem : subscribed ∈ subscriptions) : msgId ≠ subscribed :=
    fun same => foreign (same ▸ mem)
  unfold branch
  rw [if_neg (differs cmdMid (by decide)), if_neg (differs sendHkMid (by decide)), if_neg,
    if_neg (differs diagnosticCmdMid (by decide)), if_neg (differs routeSnapshotMid (by decide)),
    if_neg (differs configCmdMid (by decide)), if_neg (differs uplinkStatusMid (by decide))]
  intro cached
  rcases cached with same | same | same | same | same
  · exact differs fcAttitudeStateMid (by decide) same
  · exact differs fcEkfLocalStateMid (by decide) same
  · exact differs fcGpsRawStateMid (by decide) same
  · exact differs fcEkfStatusMid (by decide) same
  · exact differs systemHealthMid (by decide) same

/-- A message of another identifier is refused. -/
theorem processPacket_other (env : PacketEnv) {msgId : MsgId} (foreign : msgId ∉ subscriptions)
    (app : App) : processPacket env (.other msgId foreign) app = failMid msgId app := by
  have unknown : branch (Packet.other msgId foreign).msgId = .unknown := branch_foreign foreign
  unfold processPacket
  rw [unknown]
  rfl

/-- The message of another application that a message of the pipe is. -/
def Packet.message : Packet → Option PipeMessage
  | .telemetry message => some (.telemetry message)
  | .uplinkStatus tlm => some (.uplinkStatus tlm)
  | _ => none

/-- Whether a message is a command that sets the counters to zero. -/
def Packet.resetsCounters : Packet → Bool
  | .groundCommand fcnCode size _ => fcnCode = 1 ∧ size = commandHeaderSize
  | _ => false

/-- What a message does to the application data: a message of another application is taken, and a
command chooses the protocol, sets the counters to zero or leaves the data alone. -/
inductive Handled (s : State) (packet : Packet) : State → Prop where
  | taken (message : PipeMessage) (own : packet.message = some message) :
    Handled s packet (processCommandPacket message s)
  | nothing (command : packet.message = none) (keeps : packet.resetsCounters = false) :
    Handled s packet s
  | protocol (useV2 : Bool) (command : packet.message = none)
      (keeps : packet.resetsCounters = false) :
    Handled s packet { s with useV2Downlink := useV2 }
  | counters (command : packet.message = none) (resets : packet.resetsCounters = true) :
    Handled s packet { s with
      txCount := 0
      rxAckCount := 0
      rxCmdCount := 0
      rxErrorCount := 0
      noAckCount := 0 }

/-- Choosing the downlink protocol changes nothing else of the data. -/
theorem applyProtocol_data (env : PacketEnv) (useV2 : Bool) (suffix : String) (app : App) :
    (applyProtocol env useV2 suffix app).data = { app.data with useV2Downlink := useV2 } := by
  unfold applyProtocol report
  rw [saveState_data]

/-- What a ground command does to the data. -/
theorem processGroundCommand_handled (env : PacketEnv) (fcnCode : UInt16) (size : Nat)
    (useV2 : UInt8) (app : App) :
    Handled app.data (.groundCommand fcnCode size useV2)
      (processGroundCommand env fcnCode size useV2 app).data := by
  have keeps (other : ¬ (fcnCode = 1 ∧ size = commandHeaderSize)) :
      (Packet.groundCommand fcnCode size useV2).resetsCounters = false := decide_eq_false other
  unfold processGroundCommand
  by_cases reset : fcnCode = 1
  · have other : ¬ fcnCode = 0 := by
      rw [reset]
      decide
    rw [if_neg other, if_pos reset]
    by_cases length : size = commandHeaderSize
    · rw [if_pos length]
      exact .counters rfl (decide_eq_true ⟨reset, length⟩)
    · rw [if_neg length]
      exact .nothing rfl (keeps fun both => length both.2)
  · have own := keeps fun both => reset both.1
    rw [if_neg reset]
    unfold setDownlinkProtocol
    split_ifs
    · exact .nothing rfl own
    · exact .nothing rfl own
    · exact .nothing rfl own
    · rw [applyProtocol_data]
      exact .protocol _ rfl own
    · exact .nothing rfl own
    · exact .nothing rfl own

/-- A diagnostic command leaves the data alone. -/
theorem processDiagnosticCommand_data (cmd : DiagnosticCmd) (app : App) :
    (processDiagnosticCommand cmd app).data = app.data := by
  unfold processDiagnosticCommand
  dsimp only
  split_ifs <;> rfl

/-- What a configuration command does to the data. -/
theorem processConfigCommand_handled (env : PacketEnv) (cmd : ConfigCmd) (app : App) :
    Handled app.data (.config cmd) (processConfigCommand env cmd app).data := by
  have refused : Handled app.data (.config cmd) app.data := .nothing rfl rfl
  unfold processConfigCommand
  dsimp only
  split_ifs
  · exact refused
  · exact refused
  · exact refused
  · exact refused
  · exact refused
  · exact refused
  · change Handled _ _ (applyProtocol _ _ " (via CONFIG_CMD_MID)" _).data
    rw [applyProtocol_data]
    exact .protocol _ rfl rfl
  · exact refused

/-- A message of another application is taken as in a cycle. -/
theorem processPacket_message (env : PacketEnv) {packet : Packet} {message : PipeMessage}
    (own : packet.message = some message) (app : App) :
    (processPacket env packet app).data = processCommandPacket message app.data := by
  cases packet with
  | telemetry content =>
    cases own
    cases content <;> rfl
  | uplinkStatus tlm =>
    cases own
    rfl
  | _ => cases own

/-- What a message does to the data. -/
theorem processPacket_handled (env : PacketEnv) (packet : Packet) (app : App) :
    Handled app.data packet (processPacket env packet app).data := by
  cases packet with
  | telemetry message =>
    rw [processPacket_message env rfl app]
    exact .taken (.telemetry message) rfl
  | uplinkStatus tlm =>
    rw [processPacket_message env rfl app]
    exact .taken (.uplinkStatus tlm) rfl
  | groundCommand fcnCode size useV2 =>
    exact processGroundCommand_handled env fcnCode size useV2 app
  | diagnostic cmd =>
    have same : (processPacket env (.diagnostic cmd) app).data = app.data :=
      processDiagnosticCommand_data cmd app
    rw [same]
    exact .nothing rfl rfl
  | config cmd => exact processConfigCommand_handled env cmd app
  | other msgId foreign =>
    rw [processPacket_other]
    exact .nothing rfl rfl
  | sendHk | sysTime => exact .nothing rfl rfl

/-- A message with what it meets. -/
structure Delivery where
  env : PacketEnv
  packet : Packet

/-- Handle a message that the pipe delivers. -/
def deliver (app : App) (delivery : Delivery) : App :=
  processPacket delivery.env delivery.packet app

end CfsTelemetry.Lora
