import CfsTelemetry.Bridge.Stamps

/-!
# Readings of the vehicle

What a frame of the flight controller tells of attitude, position and satellite fix. The bridge
publishes the readings of the frames that it receives, each once and in their order, and nothing
else that tells of the three.
-/
namespace CfsTelemetry.Bridge

/-- What a reading tells of. -/
inductive Aspect where
  | attitude | position | fix
  deriving DecidableEq, Repr

/-- A reading of the vehicle, its numbers as they are received, and whether it is valid. -/
inductive Reading where
  | attitude (valid : UInt8) (rollRad pitchRad yawRad : UInt32)
  | position (valid : UInt8) (x y z vx vy vz : UInt32)
  | fix (valid : UInt8) (latE7 lonE7 altMm : Int32) (fixType satellitesVisible : UInt8)
  deriving DecidableEq, Repr

/-- What a reading tells of. -/
def Reading.aspect : Reading → Aspect
  | attitude .. => .attitude
  | position .. => .position
  | fix .. => .fix

/-- The reading of a message of the bridge. -/
def Message.reading : Message → Option Reading
  | attitude tlm => some (.attitude tlm.valid tlm.rollRad tlm.pitchRad tlm.yawRad)
  | ekfLocal tlm => some (.position tlm.valid tlm.x tlm.y tlm.z tlm.vx tlm.vy tlm.vz)
  | gpsRaw tlm =>
    some (.fix tlm.valid tlm.latE7 tlm.lonE7 tlm.altMm tlm.fixType tlm.satellitesVisible)
  | ekfStatus _ | sysTime _ | fcMissionReadback _ | housekeeping _ | execResult _ => none

/-- The reading of an output. -/
def Output.reading : Output → Option Reading
  | message content => content.reading
  | tx _ => none

/-- The reading of a frame of the flight controller. A global position tells of height and speed
only, and a satellite fix is valid in three dimensions. -/
def RxFrame.reading (frame : RxFrame) : Option Reading :=
  let payload := frame.payload
  if frame.isOf .attitude then
    if frame.payloadLen ≤ 28 ∧ (sixFloats payload).all isFinite then
      some (.attitude 1 (readU32LE payload 4) (readU32LE payload 8) (readU32LE payload 12))
    else none
  else if frame.isOf .localPositionNed then
    if frame.payloadLen ≤ 28 ∧ (sixFloats payload).all isFinite then
      some (.position 1 (readU32LE payload 4) (readU32LE payload 8) (readU32LE payload 12)
        (readU32LE payload 16) (readU32LE payload 20) (readU32LE payload 24))
    else none
  else if frame.isOf .globalPositionInt then
    if frame.payloadLen ≤ 28 then
      some (.position 1 0 0 (-((readU32LE payload 16).toInt32.toFloat32 / 1000)).toBits
        (speedCms payload 20) (speedCms payload 22) (speedCms payload 24))
    else none
  else if frame.isOf .gpsRawInt then
    if 30 ≤ frame.payloadLen then
      let fixType := payloadByte payload 28
      some (.fix (if fixType ≥ 3 then 1 else 0) (readU32LE payload 8).toInt32
        (readU32LE payload 12).toInt32 (readU32LE payload 16).toInt32 fixType
        (payloadByte payload 29))
    else none
  else none

/-- The reading that the bridge receives with an input. -/
def Input.reading : Input → Option Reading
  | frame content _ _ => content.reading
  | _ => none

/-- The readings of what has been put out, newest first. -/
def readings (s : State) : List Reading := s.outputs.filterMap Output.reading

section

variable {s s' : State} {frame : RxFrame} {kind : MessageKind}

/-- What has a reading has a stamp. -/
theorem stamp_of_reading {output : Output} {reading : Reading}
    (read : output.reading = some reading) : output.stamp.isSome := by
  cases output with
  | tx frame => cases read
  | message content => cases content <;> first | rfl | cases read

/-- Without a new stamp there is no new reading. -/
theorem readings_of_stamps (outputs : ∃ new, s'.outputs = new ++ s.outputs)
    (same : stamps s' = stamps s) : readings s' = readings s := by
  obtain ⟨new, grown⟩ := outputs
  have stampless : new.filterMap Output.stamp = [] := by
    rw [stamps, stamps, grown, List.filterMap_append] at same
    exact List.append_left_eq_self.mp same
  have none : new.filterMap Output.reading = [] := by
    rw [List.filterMap_eq_nil_iff] at stampless ⊢
    intro output member
    have unstamped := stampless output member
    cases read : output.reading with
    | none => rfl
    | some reading =>
      have stamped := stamp_of_reading read
      simp [unstamped] at stamped
  rw [readings, grown, List.filterMap_append, none]
  rfl

/-- A decoded message adds its reading. -/
theorem publishDecoded_readings (message : Message) (seq : UInt32) (report : String) (s : State) :
    readings (publishDecoded message seq report s) = message.reading.toList ++ readings s := by
  have outputs : (publishDecoded message seq report s).outputs = .message message :: s.outputs := by
    unfold publishDecoded
    dsimp only
    split
    · rfl
    · rfl
  have own : (Output.message message).reading = message.reading := rfl
  rw [readings, outputs]
  cases read : message.reading <;> simp [own, read, readings]

/-! ## Frames -/

/-- A frame of a kind is of no other. -/
theorem isOf_other {other : MessageKind} (own : frame.isOf kind = true)
    (differs : kind.id ≠ other.id) : ¬ frame.isOf other = true := by
  intro same
  exact differs ((of_decide_eq_true own).1.symm.trans (of_decide_eq_true same).1)

/-- The kinds of frames that have a reading. -/
def readingKinds : List MessageKind :=
  [.attitude, .localPositionNed, .globalPositionInt, .gpsRawInt]

/-- A frame that is of none of the kinds has no reading. -/
theorem reading_eq_none (other : ∀ kind ∈ readingKinds, ¬ frame.isOf kind = true) :
    frame.reading = none := by
  simp only [readingKinds, List.forall_mem_cons] at other
  obtain ⟨attitude, position, global, gps, -⟩ := other
  unfold RxFrame.reading
  dsimp only
  rw [if_neg attitude, if_neg position, if_neg global, if_neg gps]

/-- A frame with the identifier of another kind has no reading. -/
theorem reading_of_other (own : frame.msgId = kind.id)
    (other : kind.id ∉ readingKinds.map MessageKind.id) : frame.reading = none := by
  refine reading_eq_none fun reading among valid => other ?_
  rw [← own, (of_decide_eq_true valid).1]
  exact List.mem_map_of_mem among

/-- What publishes a state message adds the reading of its frame, if it has one. -/
theorem telemetryHandlers_readings {publish : RxFrame → UInt32 → State → State}
    (listed : (kind, publish) ∈ telemetryHandlers) (own : frame.isOf kind = true)
    (rxTimestampMs : UInt32) (s : State) :
    readings (publish frame rxTimestampMs s) = frame.reading.toList ++ readings s := by
  have apart {other : MessageKind} (differs : kind.id ≠ other.id) : ¬ frame.isOf other = true :=
    isOf_other own differs
  simp only [telemetryHandlers, List.mem_cons, List.not_mem_nil, or_false, Prod.mk.injEq]
    at listed
  rcases listed with ⟨rfl, rfl⟩ | ⟨rfl, rfl⟩ | ⟨rfl, rfl⟩ | ⟨rfl, rfl⟩ | ⟨rfl, rfl⟩ | ⟨rfl, rfl⟩
  · unfold publishAttitude RxFrame.reading
    dsimp only
    rw [if_pos own]
    split
    · rename_i long
      rw [if_neg (not_and_of_not_left _ (UInt8.not_le.mpr long))]
      rfl
    · rename_i short
      split
      · rename_i broken
        rw [if_neg (not_and_of_not_right _ (by rw [broken]; exact Bool.false_ne_true))]
        rfl
      · rename_i finite
        rw [if_pos ⟨UInt8.not_lt.mp short, Bool.eq_true_of_not_eq_false finite⟩]
        exact publishDecoded_readings _ _ _ _
  · unfold publishEkfLocal RxFrame.reading
    dsimp only
    rw [if_neg (apart (by decide)), if_pos own]
    split
    · rename_i long
      rw [if_neg (not_and_of_not_left _ (UInt8.not_le.mpr long))]
      rfl
    · rename_i short
      split
      · rename_i broken
        rw [if_neg (not_and_of_not_right _ (by rw [broken]; exact Bool.false_ne_true))]
        rfl
      · rename_i finite
        rw [if_pos ⟨UInt8.not_lt.mp short, Bool.eq_true_of_not_eq_false finite⟩]
        exact publishDecoded_readings _ _ _ _
  · unfold publishGlobalPositionAsLocal RxFrame.reading
    dsimp only
    rw [if_neg (apart (by decide)), if_neg (apart (by decide)), if_pos own]
    split
    · rename_i long
      rw [if_neg (UInt8.not_le.mpr long)]
      rfl
    · rename_i short
      rw [if_pos (UInt8.not_lt.mp short)]
      exact publishDecoded_readings _ _ _ _
  · unfold publishGpsRaw RxFrame.reading
    dsimp only
    rw [if_neg (apart (by decide)), if_neg (apart (by decide)), if_neg (apart (by decide)),
      if_pos own]
    split
    · rename_i short
      rw [if_neg (UInt8.not_le.mpr short)]
      rfl
    · rename_i long
      rw [if_pos (UInt8.not_lt.mp long)]
      simp only [decide_eq_true_eq]
      exact publishDecoded_readings _ _ _ _
  · rw [reading_of_other (of_decide_eq_true own).1 (by decide)]
    unfold publishEkfStatus
    split
    · rfl
    · exact publishDecoded_readings _ _ _ _
  · rw [reading_of_other (of_decide_eq_true own).1 (by decide)]
    unfold handleSysTime
    split
    · rfl
    · split
      · rfl
      · exact publishDecoded_readings _ _ _ _

/-- Every kind of frames that have a reading is a state message. -/
theorem readingKinds_handled (reads : kind ∈ readingKinds) :
    kind ∈ telemetryHandlers.map Prod.fst := by
  have all : ∀ kind ∈ readingKinds, kind ∈ telemetryHandlers.map Prod.fst := by decide
  exact all kind reads

/-- The kinds are told apart by their identifiers. -/
theorem readingKinds_unique : ∀ kind ∈ telemetryHandlers.map Prod.fst, ∀ other ∈ readingKinds,
    kind.id = other.id → kind = other := by
  decide

/-- A complete frame adds its reading, if it has one. -/
theorem handleFrameComplete_readings (inRange : InRange s) (env : Env) (frame : RxFrame)
    (rxTimestampMs : UInt32) :
    readings (handleFrameComplete env frame rxTimestampMs s) =
      frame.reading.toList ++ readings s := by
  have grown : ∃ new, (handleFrameComplete env frame rxTimestampMs s).outputs = new ++ s.outputs :=
    ⟨_, step_outputs inRange (.frame frame rxTimestampMs env)⟩
  have handles := handleFrameComplete_handles env frame rxTimestampMs s
  generalize handleFrameComplete env frame rxTimestampMs s = s' at handles grown ⊢
  -- A frame of no state message has no reading, and nothing is published for it.
  have plain {kind : MessageKind} (own : frame.msgId = kind.id)
      (other : kind.id ∉ readingKinds.map MessageKind.id) (same : ledger s' = ledger s) :
      readings s' = frame.reading.toList ++ readings s := by
    rw [reading_of_other own other]
    exact readings_of_stamps grown (stamps_of_ledger grown same)
  cases handles with
  | telemetry listed own =>
    rename_i kind publish
    unfold handleTelemetry
    split
    · rename_i checks
      have noted : readings (noteReceived env rxTimestampMs s) = readings s := by
        obtain ⟨new, outputs, _⟩ := (noteReceived_silent env rxTimestampMs s).emits
        have same := noteReceived_ledger env rxTimestampMs s
        exact readings_of_stamps ⟨new, outputs⟩ (stamps_of_ledger ⟨new, outputs⟩ same)
      have valid : frame.isOf kind = true := decide_eq_true ⟨own, checks⟩
      rw [telemetryHandlers_readings listed valid, noted]
    · rename_i wrong
      have among : kind ∈ telemetryHandlers.map Prod.fst := List.mem_map_of_mem listed
      have nothing : frame.reading = none := by
        refine reading_eq_none fun other reads valid => ?_
        obtain ⟨theirs, checks⟩ := of_decide_eq_true valid
        rw [readingKinds_unique kind among other reads (own.symm.trans theirs)] at wrong
        exact wrong checks
      rw [nothing]
      rfl
  | heartbeat own =>
    exact plain own.1 (by decide) (handleHeartbeat_ledger env frame rxTimestampMs s)
  | commandAck own => exact plain own (by decide) (handleCommandAck_ledger frame s)
  | missionRequestInt own =>
    exact plain own (by decide) (handleMissionRequestInt_ledger env frame rxTimestampMs s)
  | missionRequest own =>
    exact plain own (by decide) (handleMissionRequest_ledger env frame rxTimestampMs s)
  | missionAck own =>
    exact plain own (by decide) (handleMissionAck_ledger env frame rxTimestampMs s)
  | missionCount own waiting =>
    exact plain own (by decide) (handleMissionCount_ledger env frame rxTimestampMs s)
  | missionItemInt own waiting =>
    exact plain own (by decide) (handleMissionItemInt_ledger env frame rxTimestampMs s)
  | missionCurrent own =>
    exact plain own (by decide) (handleMissionCurrent_ledger env frame rxTimestampMs s)
  | nothing noBeat noTelemetry noCurrent =>
    have nothing : frame.reading = none := by
      refine reading_eq_none fun kind reads valid => ?_
      obtain ⟨handler, listed, same⟩ := List.mem_map.mp (readingKinds_handled reads)
      exact noTelemetry handler listed ((of_decide_eq_true valid).1.trans (by rw [same]))
    rw [nothing]
    rfl

/-- What a step puts out has the reading of its frame, if it is of a frame that has one, and no
other. -/
theorem step_newReadings (inRange : InRange s) (input : Input) :
    (newOutputs s (step s input)).filterMap Output.reading = input.reading.toList := by
  have grown := step_outputs inRange input
  have split : readings (step s input) =
      (newOutputs s (step s input)).filterMap Output.reading ++ readings s := by
    have outputs := congrArg (List.filterMap Output.reading) grown
    rw [List.filterMap_append] at outputs
    exact outputs
  have all : readings (step s input) = input.reading.toList ++ readings s := by
    by_cases own : input.isFrame = true
    · cases input with
      | frame frame rxTimestampMs env =>
        exact handleFrameComplete_readings inRange env frame rxTimestampMs
      | _ => cases own
    · have other : input.isFrame = false := by simpa using own
      have same := step_ledger s other
      have nothing : input.reading = none := by
        cases input with
        | frame => cases other
        | _ => rfl
      rw [nothing]
      exact readings_of_stamps ⟨_, grown⟩ (stamps_of_ledger ⟨_, grown⟩ same)
  exact List.append_cancel_right (split.symm.trans all)

end

end CfsTelemetry.Bridge
