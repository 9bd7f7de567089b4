import CfsTelemetry.Bridge.Telemetry
import CfsTelemetry.Bridge.Upload

/-!
# Receiving

What a complete frame does to the bridge. The messages of the mission protocol move the upload
and the download on, a valid message of the vehicle keeps the link connected, and a frame with a
wrong checksum is only counted.
-/
namespace CfsTelemetry.Bridge

open Slots

/-- Take the flight mode and the arming state of a heartbeat. -/
def updateFromHeartbeat (baseMode systemStatus : UInt8) (s : State) : State :=
  { s with
    fcBaseMode := baseMode
    fcSystemStatus := systemStatus
    isArmed := decide (baseMode &&& 0x80 ≠ 0) }

/-- Fix whom the bridge talks to by the first heartbeat of an autopilot. -/
def lockTarget (frame : RxFrame) (s : State) : State :=
  let autopilotType := payloadByte frame.payload 5
  if s.targetSystemId = 0 ∧ (autopilotType = 3 ∨ autopilotType = 12) then
    { s with targetSystemId := frame.sysId, targetComponentId := frame.compId }
  else s

/-- Handle a heartbeat. -/
def handleHeartbeat (env : Env) (frame : RxFrame) (rxTimestampMs : UInt32) (s : State) : State :=
  if frame.checks .heartbeat then
    let locked := lockTarget frame s
    if frame.sysId = locked.targetSystemId then
      updateFromHeartbeat (payloadByte frame.payload 6) (payloadByte frame.payload 7)
        (setLinkState .connected env { locked with lastRxTimestampMs := rxTimestampMs })
    else locked
  else recordParseError .parseFail s

/-- Handle the answer to a command. -/
def handleCommandAck (frame : RxFrame) (s : State) : State :=
  if frame.checks .commandAck ∧ frame.payloadLen ≥ 3 then
    let command := readU16LE frame.payload 0
    let result := payloadByte frame.payload 2
    -- 511 is the command that asks for a stream of messages.
    if command = 511 then
      let counted :=
        if result = missionAccepted then
          { s with streamRequestAckCount := s.streamRequestAckCount + 1 }
        else s
      sendEvent .stream .information
        (s!"MAVLINK_BRIDGE_APP: COMMAND_ACK cmd={command} result={result} " ++
          s!"ack_count={counted.streamRequestAckCount}") counted
    else s
  else recordParseError .parseFail s

/-- Note a valid message of the flight controller, which keeps the link connected. -/
def noteReceived (env : Env) (rxTimestampMs : UInt32) (s : State) : State :=
  setLinkState .connected env
    { s with lastErrorCode := .none, lastRxTimestampMs := rxTimestampMs }

/-- Handle a state message, published by its own function when its checksum is right. -/
def handleTelemetry (kind : MessageKind) (publish : RxFrame → UInt32 → State → State) (env : Env)
    (frame : RxFrame) (rxTimestampMs : UInt32) (s : State) : State :=
  if frame.checks kind then publish frame rxTimestampMs (noteReceived env rxTimestampMs s)
  else
    recordParseError .parseFail (sendEvent .parse .information
      (s!"MAVLINK_BRIDGE_APP: crc fail msgid={frame.msgId} " ++
        s!"got=0x{hexText 4 frame.receivedCrc.toNat} " ++
        s!"expected=0x{hexText 4 (computeFrameCrc frame kind.crcExtra).toNat}") s)

/-- Whether a valid request for an item is answered. -/
def answersRequest (frame : RxFrame) (s : State) : Bool :=
  s.missionUploadState = .active ∧
    (readU16LE frame.payload 0).toNat < s.missionUploadWpCount.toNat

/-- Wait for the next request until a deadline. -/
def awaitRequest (deadlineMs : UInt32) (s : State) : State :=
  { s with missionUploadTimeoutMs := deadlineMs }

/-- Handle a request for an item. -/
def handleMissionRequestInt (env : Env) (frame : RxFrame) (rxTimestampMs : UInt32) (s : State) :
    State :=
  if frame.checks .missionRequestInt ∧ frame.payloadLen ≥ 2 then
    if answersRequest frame s then
      sendMissionItemInt (readU16LE frame.payload 0).toUInt8 (env.tx 0)
        (awaitRequest (rxTimestampMs + missionUploadTimeoutMs) s)
    else s
  else recordParseError .parseFail s

/-- Handle a legacy request for an item. -/
def handleMissionRequest (env : Env) (frame : RxFrame) (rxTimestampMs : UInt32) (s : State) :
    State :=
  let valid := frame.checks .missionRequest
  let noted := sendEvent .missionUploadInf .information
    (s!"MAVLINK_BRIDGE_APP: rx MISSION_REQUEST len={frame.payloadLen} " ++
      s!"crc_ok={if valid then 1 else 0} state={s.missionUploadState.code}") s
  if valid ∧ frame.payloadLen ≥ 2 then
    if answersRequest frame s then
      sendMissionItem (readU16LE frame.payload 0).toUInt8 (env.tx 0)
        (awaitRequest (rxTimestampMs + missionUploadTimeoutMs) noted)
    else noted
  else recordParseError .parseFail noted

/-- The result of a mission acknowledgement; a short one accepts. -/
def ackResult (frame : RxFrame) : UInt8 :=
  if frame.payloadLen ≥ 3 then payloadByte frame.payload 2 else 0

/-- Commit the pending mission of an accepted upload, and read the mission back. -/
def commitUpload (env : Env) (rxTimestampMs : UInt32) (s : State) : State :=
  let confirmedCount := s.missionUploadWpCount
  let committed := sendEvent .missionUploadInf .information
    s!"MAVLINK_BRIDGE_APP: mission upload success wp_count={confirmedCount}" { s with
      missionUploadState := .idle
      missionUploadSuccessCount := s.missionUploadSuccessCount + 1
      lastUploadResult := .success
      lastUploadTimestampMs := rxTimestampMs
      lastUploadWaypointCount := confirmedCount
      activeWaypointCount := confirmedCount
      activeWaypoints := fill (slot s.missionPending) 0 confirmedCount.toNat s.activeWaypoints }
  if s.missionDownloadState = .idle then startFcMissionReadback env committed else committed

/-- Handle a mission acknowledgement. -/
def handleMissionAck (env : Env) (frame : RxFrame) (rxTimestampMs : UInt32) (s : State) : State :=
  if frame.checks .missionAck ∧ frame.payloadLen ≥ 2 then
    if s.missionUploadState = .active then
      if ackResult frame = missionAccepted then commitUpload env rxTimestampMs s
      else
        sendEvent .missionUploadErr .error
          s!"MAVLINK_BRIDGE_APP: mission upload NAK result={ackResult frame}" { s with
            missionUploadState := .idle
            missionUploadFailCount := s.missionUploadFailCount + 1
            lastUploadResult := .nak }
    else s
  else recordParseError .parseFail s

/-- Handle the item count of a download. -/
def handleMissionCount (env : Env) (frame : RxFrame) (rxTimestampMs : UInt32) (s : State) :
    State :=
  if frame.checks .missionCount ∧ frame.payloadLen ≥ 2 then
    let count := readU16LE frame.payload 0
    let noted := sendEvent .missionDownloadInf .information
      s!"MAVLINK_BRIDGE_APP: MISSION_COUNT from FC: {count} waypoints" { s with
        missionDownloadExpectedCount := if count > 255 then 255 else count.toUInt8 }
    if count = 0 then
      publishFcMissionReadback env (sendEvent .missionDownloadInf .information
        "MAVLINK_BRIDGE_APP: MISSION download complete: 0 waypoints (empty)"
        (sendMissionAckAccepted (env.tx 0) { noted with missionDownloadState := .idle }))
    else
      sendMissionRequestIntDownload 0 (env.tx 0) { noted with
        missionDownloadState := .waitItem
        missionDownloadSeq := 0
        missionDownloadTimeoutMs := rxTimestampMs + missionDownloadTimeoutMs }
  else recordParseError .parseFail s

/-- The waypoint that a `MISSION_ITEM_INT` carries. -/
def itemWaypoint (payload : List UInt8) : Waypoint where
  cmdType := (readU16LE payload 30).toUInt8
  param1 := readU32LE payload 0
  param2 := readU32LE payload 4
  param3 := readU32LE payload 8
  param4 := readU32LE payload 12
  latE7 := (readU32LE payload 16).toInt32
  lonE7 := (readU32LE payload 20).toInt32
  z := readU32LE payload 24

/-- A single-precision number with a fixed number of decimals, rounded half to even
(`printf`). -/
def fixedText (decimals : Nat) (bits : UInt32) : String :=
  let sign := if bits >>> 31 = 1 then "-" else ""
  let exponent := ((bits >>> 23) &&& 0xFF).toNat
  let fraction := (bits &&& 0x7FFFFF).toNat
  if exponent = 255 then sign ++ (if fraction = 0 then "inf" else "nan")
  else
    let mantissa := if exponent = 0 then fraction else fraction + 2 ^ 23
    let scaled := mantissa * 2 ^ max exponent 1 * 10 ^ decimals
    let unit := 2 ^ 150
    let quotient := scaled / unit
    let remainder := scaled % unit
    let up := 2 * remainder > unit ∨ (2 * remainder = unit ∧ quotient % 2 = 1)
    let rounded := if up then quotient + 1 else quotient
    let decimalDigits := Nat.toDigits 10 (rounded % 10 ^ decimals)
    s!"{sign}{rounded / 10 ^ decimals}." ++
      String.ofList (List.leftpad decimals '0' decimalDigits)

/-- Handle an item of a download; the bridge counts the items itself. -/
def handleMissionItemInt (env : Env) (frame : RxFrame) (rxTimestampMs : UInt32) (s : State) :
    State :=
  if frame.checks .missionItemInt ∧ frame.payloadLen ≥ 32 then
    let wp := itemWaypoint frame.payload
    let noted := sendEvent .missionDownloadInf .information
      (s!"MAVLINK_BRIDGE_APP: [wp {itemSeq frame.payload}] " ++
        s!"lat={fixedText 7 (degreesE7 wp.latE7).toBits} " ++
        s!"lon={fixedText 7 (degreesE7 wp.lonE7).toBits} " ++
        s!"alt={fixedText 2 wp.z} cmd={readU16LE frame.payload 30}") s
    let seq := s.missionDownloadSeq + 1
    let stored := { noted with
      missionDownloadWaypoints :=
        s.missionDownloadWaypoints.setIfInBounds s.missionDownloadSeq.toNat wp
      missionDownloadSeq := seq }
    if seq ≥ s.missionDownloadExpectedCount then
      let acknowledged := sendMissionAckAccepted (env.tx 0) stored
      publishFcMissionReadback env (sendEvent .missionDownloadInf .information
        ("MAVLINK_BRIDGE_APP: MISSION download complete: " ++
          s!"{s.missionDownloadExpectedCount} waypoints")
        { acknowledged with missionDownloadState := .idle })
    else
      sendMissionRequestIntDownload seq (env.tx 0)
        { stored with missionDownloadTimeoutMs := rxTimestampMs + missionDownloadTimeoutMs }
  else recordParseError .parseFail s

/-- The resume index that a `MISSION_CURRENT` sets. -/
def currentIndex (frame : RxFrame) : UInt8 :=
  let seq := readU16LE frame.payload 0
  if seq > 255 then 255 else seq.toUInt8

/-- Handle the current item of the flight controller. -/
def handleMissionCurrent (env : Env) (frame : RxFrame) (rxTimestampMs : UInt32) (s : State) :
    State :=
  if frame.checks .missionCurrent ∧ frame.payloadLen ≥ 2 then
    { noteReceived env rxTimestampMs s with activeResumeIndex := currentIndex frame }
  else recordParseError .parseFail s

/-! ## A complete frame -/

/-- Handle a complete frame. -/
def handleFrameComplete (env : Env) (frame : RxFrame) (rxTimestampMs : UInt32) (s : State) :
    State :=
  if frame.msgId = MessageKind.heartbeat.id ∧ frame.payloadLen ≥ 9 then
    handleHeartbeat env frame rxTimestampMs s
  else if frame.msgId = MessageKind.commandAck.id then handleCommandAck frame s
  else if frame.msgId = MessageKind.attitude.id then
    handleTelemetry .attitude publishAttitude env frame rxTimestampMs s
  else if frame.msgId = MessageKind.localPositionNed.id then
    handleTelemetry .localPositionNed publishEkfLocal env frame rxTimestampMs s
  else if frame.msgId = MessageKind.globalPositionInt.id then
    handleTelemetry .globalPositionInt publishGlobalPositionAsLocal env frame rxTimestampMs s
  else if frame.msgId = MessageKind.gpsRawInt.id then
    handleTelemetry .gpsRawInt publishGpsRaw env frame rxTimestampMs s
  else if frame.msgId = MessageKind.ekfStatusReport.id then
    handleTelemetry .ekfStatusReport publishEkfStatus env frame rxTimestampMs s
  else if frame.msgId = MessageKind.sysTime.id then
    handleTelemetry .sysTime handleSysTime env frame rxTimestampMs s
  else if frame.msgId = MessageKind.missionRequestInt.id then
    handleMissionRequestInt env frame rxTimestampMs s
  else if frame.msgId = MessageKind.missionRequest.id then
    handleMissionRequest env frame rxTimestampMs s
  else if frame.msgId = MessageKind.missionAck.id then
    handleMissionAck env frame rxTimestampMs s
  else if frame.msgId = MessageKind.missionCount.id ∧ s.missionDownloadState = .waitCount then
    handleMissionCount env frame rxTimestampMs s
  else if frame.msgId = MessageKind.missionItemInt.id ∧ s.missionDownloadState = .waitItem then
    handleMissionItemInt env frame rxTimestampMs s
  else if frame.msgId = MessageKind.missionCurrent.id then
    handleMissionCurrent env frame rxTimestampMs s
  else s

/-- The state messages, each with what publishes it. -/
def telemetryHandlers : List (MessageKind × (RxFrame → UInt32 → State → State)) :=
  [(.attitude, publishAttitude), (.localPositionNed, publishEkfLocal),
    (.globalPositionInt, publishGlobalPositionAsLocal), (.gpsRawInt, publishGpsRaw),
    (.ekfStatusReport, publishEkfStatus), (.sysTime, handleSysTime)]

/-- What a complete frame may come to: the handler of its kind, or nothing. -/
inductive Handles (env : Env) (frame : RxFrame) (rxTimestampMs : UInt32) (s : State) :
    State → Prop where
  | heartbeat (own : frame.msgId = MessageKind.heartbeat.id ∧ frame.payloadLen ≥ 9) :
    Handles env frame rxTimestampMs s (handleHeartbeat env frame rxTimestampMs s)
  | commandAck (own : frame.msgId = MessageKind.commandAck.id) :
    Handles env frame rxTimestampMs s (handleCommandAck frame s)
  | telemetry {kind : MessageKind} {publish : RxFrame → UInt32 → State → State}
      (listed : (kind, publish) ∈ telemetryHandlers) (own : frame.msgId = kind.id) :
    Handles env frame rxTimestampMs s (handleTelemetry kind publish env frame rxTimestampMs s)
  | missionRequestInt (own : frame.msgId = MessageKind.missionRequestInt.id) :
    Handles env frame rxTimestampMs s (handleMissionRequestInt env frame rxTimestampMs s)
  | missionRequest (own : frame.msgId = MessageKind.missionRequest.id) :
    Handles env frame rxTimestampMs s (handleMissionRequest env frame rxTimestampMs s)
  | missionAck (own : frame.msgId = MessageKind.missionAck.id) :
    Handles env frame rxTimestampMs s (handleMissionAck env frame rxTimestampMs s)
  | missionCount (own : frame.msgId = MessageKind.missionCount.id)
      (waiting : s.missionDownloadState = .waitCount) :
    Handles env frame rxTimestampMs s (handleMissionCount env frame rxTimestampMs s)
  | missionItemInt (own : frame.msgId = MessageKind.missionItemInt.id)
      (waiting : s.missionDownloadState = .waitItem) :
    Handles env frame rxTimestampMs s (handleMissionItemInt env frame rxTimestampMs s)
  | missionCurrent (own : frame.msgId = MessageKind.missionCurrent.id) :
    Handles env frame rxTimestampMs s (handleMissionCurrent env frame rxTimestampMs s)
  | nothing (noBeat : ¬ (frame.msgId = MessageKind.heartbeat.id ∧ frame.payloadLen ≥ 9))
      (noTelemetry : ∀ handler ∈ telemetryHandlers, frame.msgId ≠ handler.1.id)
      (noCurrent : frame.msgId ≠ MessageKind.missionCurrent.id) :
    Handles env frame rxTimestampMs s s

/-- A complete frame comes to the handler of its kind, or to nothing. -/
theorem handleFrameComplete_handles (env : Env) (frame : RxFrame) (rxTimestampMs : UInt32)
    (s : State) :
    Handles env frame rxTimestampMs s (handleFrameComplete env frame rxTimestampMs s) := by
  have listed : ∀ handler ∈ telemetryHandlers, frame.msgId = handler.1.id →
      Handles env frame rxTimestampMs s
        (handleTelemetry handler.1 handler.2 env frame rxTimestampMs s) :=
    fun _ listed own => .telemetry listed own
  simp only [telemetryHandlers, List.forall_mem_cons] at listed
  obtain ⟨ofAttitude, ofPosition, ofGlobal, ofGps, ofEkf, ofTime, -⟩ := listed
  unfold handleFrameComplete
  by_cases heartbeat : frame.msgId = MessageKind.heartbeat.id ∧ frame.payloadLen ≥ 9
  · rw [if_pos heartbeat]
    exact .heartbeat heartbeat
  rw [if_neg heartbeat]
  by_cases commandAck : frame.msgId = MessageKind.commandAck.id
  · rw [if_pos commandAck]
    exact .commandAck commandAck
  rw [if_neg commandAck]
  by_cases attitude : frame.msgId = MessageKind.attitude.id
  · rw [if_pos attitude]
    exact ofAttitude attitude
  rw [if_neg attitude]
  by_cases position : frame.msgId = MessageKind.localPositionNed.id
  · rw [if_pos position]
    exact ofPosition position
  rw [if_neg position]
  by_cases global : frame.msgId = MessageKind.globalPositionInt.id
  · rw [if_pos global]
    exact ofGlobal global
  rw [if_neg global]
  by_cases gps : frame.msgId = MessageKind.gpsRawInt.id
  · rw [if_pos gps]
    exact ofGps gps
  rw [if_neg gps]
  by_cases ekf : frame.msgId = MessageKind.ekfStatusReport.id
  · rw [if_pos ekf]
    exact ofEkf ekf
  rw [if_neg ekf]
  by_cases time : frame.msgId = MessageKind.sysTime.id
  · rw [if_pos time]
    exact ofTime time
  rw [if_neg time]
  by_cases requestInt : frame.msgId = MessageKind.missionRequestInt.id
  · rw [if_pos requestInt]
    exact .missionRequestInt requestInt
  rw [if_neg requestInt]
  by_cases request : frame.msgId = MessageKind.missionRequest.id
  · rw [if_pos request]
    exact .missionRequest request
  rw [if_neg request]
  by_cases ack : frame.msgId = MessageKind.missionAck.id
  · rw [if_pos ack]
    exact .missionAck ack
  rw [if_neg ack]
  by_cases count : frame.msgId = MessageKind.missionCount.id ∧ s.missionDownloadState = .waitCount
  · rw [if_pos count]
    exact .missionCount count.1 count.2
  rw [if_neg count]
  by_cases item : frame.msgId = MessageKind.missionItemInt.id ∧ s.missionDownloadState = .waitItem
  · rw [if_pos item]
    exact .missionItemInt item.1 item.2
  rw [if_neg item]
  by_cases current : frame.msgId = MessageKind.missionCurrent.id
  · rw [if_pos current]
    exact .missionCurrent current
  · rw [if_neg current]
    have noTelemetry : ∀ handler ∈ telemetryHandlers, frame.msgId ≠ handler.1.id := by
      simp only [telemetryHandlers, List.forall_mem_cons]
      exact ⟨attitude, position, global, gps, ekf, time, nofun⟩
    exact .nothing heartbeat noTelemetry current

/-- The handlers that a frame comes to by its message alone. -/
def ownHandlers : List (MessageKind × (Env → RxFrame → UInt32 → State → State)) :=
  [(.commandAck, fun _ frame _ s => handleCommandAck frame s),
    (.attitude, handleTelemetry .attitude publishAttitude),
    (.localPositionNed, handleTelemetry .localPositionNed publishEkfLocal),
    (.globalPositionInt, handleTelemetry .globalPositionInt publishGlobalPositionAsLocal),
    (.gpsRawInt, handleTelemetry .gpsRawInt publishGpsRaw),
    (.ekfStatusReport, handleTelemetry .ekfStatusReport publishEkfStatus),
    (.sysTime, handleTelemetry .sysTime handleSysTime),
    (.missionRequestInt, handleMissionRequestInt), (.missionRequest, handleMissionRequest),
    (.missionAck, handleMissionAck), (.missionCurrent, handleMissionCurrent)]

/-- A frame comes to the handler of its message. -/
theorem handleFrameComplete_own {kind : MessageKind}
    {handler : Env → RxFrame → UInt32 → State → State} (listed : (kind, handler) ∈ ownHandlers)
    (env : Env) {frame : RxFrame} (own : frame.msgId = kind.id) (rxTimestampMs : UInt32)
    (s : State) :
    handleFrameComplete env frame rxTimestampMs s = handler env frame rxTimestampMs s := by
  simp only [ownHandlers, List.mem_cons, Prod.mk.injEq, List.not_mem_nil, or_false] at listed
  unfold handleFrameComplete
  rcases listed with ⟨rfl, rfl⟩ | ⟨rfl, rfl⟩ | ⟨rfl, rfl⟩ | ⟨rfl, rfl⟩ | ⟨rfl, rfl⟩ | ⟨rfl, rfl⟩ |
    ⟨rfl, rfl⟩ | ⟨rfl, rfl⟩ | ⟨rfl, rfl⟩ | ⟨rfl, rfl⟩ | ⟨rfl, rfl⟩
  all_goals
    simp [own, MessageKind.heartbeat, MessageKind.commandAck, MessageKind.attitude,
      MessageKind.localPositionNed, MessageKind.globalPositionInt, MessageKind.gpsRawInt,
      MessageKind.ekfStatusReport, MessageKind.sysTime, MessageKind.missionRequestInt,
      MessageKind.missionRequest, MessageKind.missionAck, MessageKind.missionCount,
      MessageKind.missionItemInt, MessageKind.missionCurrent]

/-- A heartbeat that is too short comes to nothing. -/
theorem handleFrameComplete_heartbeat (env : Env) {frame : RxFrame}
    (own : frame.msgId = MessageKind.heartbeat.id) (rxTimestampMs : UInt32) (s : State) :
    handleFrameComplete env frame rxTimestampMs s =
      if frame.payloadLen ≥ 9 then handleHeartbeat env frame rxTimestampMs s else s := by
  unfold handleFrameComplete
  rw [own]
  by_cases long : frame.payloadLen ≥ 9
  · rw [if_pos ⟨rfl, long⟩, if_pos long]
  · rw [if_neg fun both => long both.2, if_neg long]
    rfl

/-- An item count is taken while it is waited for. -/
theorem handleFrameComplete_missionCount (env : Env) {frame : RxFrame}
    (own : frame.msgId = MessageKind.missionCount.id) (rxTimestampMs : UInt32) (s : State) :
    handleFrameComplete env frame rxTimestampMs s =
      if s.missionDownloadState = .waitCount then handleMissionCount env frame rxTimestampMs s
      else s := by
  unfold handleFrameComplete
  rw [own]
  cases s.missionDownloadState <;> rfl

/-- An item is taken while it is waited for. -/
theorem handleFrameComplete_missionItemInt (env : Env) {frame : RxFrame}
    (own : frame.msgId = MessageKind.missionItemInt.id) (rxTimestampMs : UInt32) (s : State) :
    handleFrameComplete env frame rxTimestampMs s =
      if s.missionDownloadState = .waitItem then handleMissionItemInt env frame rxTimestampMs s
      else s := by
  unfold handleFrameComplete
  rw [own]
  cases s.missionDownloadState <;> rfl

end CfsTelemetry.Bridge
