import CfsTelemetry.Bridge.Published

/-!
# Stamps of the state messages

The bridge stamps attitude, position and satellite fix with the time that the flight controller
gives in its frame, and the state of the estimator with the time at which it received the frame.
-/
namespace CfsTelemetry.Bridge

/-- A clock that state messages are stamped by. -/
inductive ClockSource where
  | flightController | companion
  deriving DecidableEq, Repr

/-- A clock and its reading. -/
abbrev Stamp : Type := ClockSource × UInt32

/-- The stamp of a message that tells the state of the vehicle. -/
def Message.stamp : Message → Option Stamp
  | attitude tlm => some (.flightController, tlm.timestampMs)
  | ekfLocal tlm => some (.flightController, tlm.timestampMs)
  | gpsRaw tlm => some (.flightController, tlm.timestampMs)
  | ekfStatus tlm => some (.companion, tlm.timestampMs)
  | sysTime _ | fcMissionReadback _ | housekeeping _ | execResult _ => none

/-- The stamp of an output. -/
def Output.stamp : Output → Option Stamp
  | message content => content.stamp
  | tx _ => none

/-- The stamps of what has been put out, newest first. -/
def stamps (s : State) : List Stamp := s.outputs.filterMap Output.stamp

/-- Whether a frame is a valid one of a kind. -/
def RxFrame.isOf (frame : RxFrame) (kind : MessageKind) : Bool :=
  frame.msgId = kind.id ∧ frame.checks kind

/-- The time that the flight controller gives in a valid frame of the state of the vehicle, in
milliseconds. -/
def RxFrame.timeMs (frame : RxFrame) : Option Nat :=
  if frame.isOf .attitude ∨ frame.isOf .localPositionNed ∨ frame.isOf .globalPositionInt then
    some (readU32LE frame.payload 0).toNat
  else if frame.isOf .gpsRawInt then some ((readU64LE frame.payload 0).toNat / 1000)
  else none

/-- A stamp is the time in a frame, cut to 32 bits, or the time of its reception. -/
def ReadOff (stamp : Stamp) (frame : RxFrame) (rxTimestampMs : UInt32) : Prop :=
  match stamp.1 with
  | .flightController => ∃ time, frame.timeMs = some time ∧ stamp.2 = UInt32.ofNat time
  | .companion => stamp.2 = rxTimestampMs

/-- At most one stamp is added, which is read off a frame. -/
def Stamps (frame : RxFrame) (rxTimestampMs : UInt32) (s s' : State) : Prop :=
  stamps s' = stamps s ∨
    ∃ stamp, stamps s' = stamp :: stamps s ∧ ReadOff stamp frame rxTimestampMs

section

variable {s s' : State} {frame : RxFrame}

/-- What has a stamp has a number. -/
theorem number_of_stamp {output : Output} {stamp : Stamp} (stamped : output.stamp = some stamp) :
    output.number.isSome := by
  cases output with
  | tx frame => cases stamped
  | message content => cases content <;> first | rfl | cases stamped

/-- Without a new number there is no new stamp. -/
theorem stamps_of_ledger (outputs : ∃ new, s'.outputs = new ++ s.outputs)
    (same : ledger s' = ledger s) : stamps s' = stamps s := by
  have ⟨new, grown⟩ := outputs
  have numbers : new.filterMap Output.number = [] := by
    have listed := congrArg Prod.snd same
    change s'.outputs.filterMap Output.number = s.outputs.filterMap Output.number at listed
    rw [grown, List.filterMap_append] at listed
    exact List.append_left_eq_self.mp listed
  have none : new.filterMap Output.stamp = [] := by
    rw [List.filterMap_eq_nil_iff] at numbers ⊢
    intro output member
    have unnumbered := numbers output member
    cases stamped : output.stamp with
    | none => rfl
    | some stamp =>
      have numbered := number_of_stamp stamped
      simp [unnumbered] at numbered
  rw [stamps, grown, List.filterMap_append, none]
  rfl

/-- A decoded message adds its stamp. -/
theorem publishDecoded_stamps (message : Message) (seq : UInt32) (report : String) (s : State) :
    stamps (publishDecoded message seq report s) = message.stamp.toList ++ stamps s := by
  have published : stamps (transmitMsg message s) = message.stamp.toList ++ stamps s := by
    change (Output.message message :: s.outputs).filterMap Output.stamp = _
    have own : (Output.message message).stamp = message.stamp := rfl
    cases stamped : message.stamp <;> simp [own, stamped, stamps]
  unfold publishDecoded
  dsimp only
  split
  · exact published
  · exact published

/-- A stamp of the flight controller is the time in its frame. -/
theorem readOff_boot {kind : MessageKind} (own : frame.isOf kind = true)
    (among : kind = .attitude ∨ kind = .localPositionNed ∨ kind = .globalPositionInt)
    (rxTimestampMs : UInt32) :
    ReadOff (.flightController, readU32LE frame.payload 0) frame rxTimestampMs := by
  have time : frame.timeMs = some (readU32LE frame.payload 0).toNat := by
    have found : frame.isOf .attitude ∨ frame.isOf .localPositionNed ∨
        frame.isOf .globalPositionInt := by
      rcases among with rfl | rfl | rfl
      · exact .inl own
      · exact .inr (.inl own)
      · exact .inr (.inr own)
    rw [RxFrame.timeMs, if_pos found]
  exact ⟨_, time, UInt32.ofNat_toNat.symm⟩

/-- A stamp of a satellite fix is the time in its frame. -/
theorem readOff_gps (own : frame.isOf .gpsRawInt = true) (rxTimestampMs : UInt32) :
    ReadOff (.flightController, (readU64LE frame.payload 0 / 1000).toUInt32) frame
      rxTimestampMs := by
  have msgId : frame.msgId = MessageKind.gpsRawInt.id := (of_decide_eq_true own).1
  have other (kind : MessageKind) (differs : MessageKind.gpsRawInt.id ≠ kind.id) :
      ¬ frame.isOf kind = true := by
    intro same
    exact differs (msgId.symm.trans (of_decide_eq_true same).1)
  have time : frame.timeMs = some ((readU64LE frame.payload 0).toNat / 1000) := by
    have none : ¬ (frame.isOf .attitude ∨ frame.isOf .localPositionNed ∨
        frame.isOf .globalPositionInt) := by
      simp [other .attitude (by decide), other .localPositionNed (by decide),
        other .globalPositionInt (by decide)]
    rw [RxFrame.timeMs, if_neg none, if_pos own]
  refine ⟨_, time, ?_⟩
  apply UInt32.toNat_inj.mp
  rw [UInt64.toNat_toUInt32, UInt64.toNat_div, UInt32.toNat_ofNat']
  rfl

/-- What publishes a state message adds its stamp, or nothing. -/
theorem telemetryHandlers_stamps {kind : MessageKind}
    {publish : RxFrame → UInt32 → State → State} (listed : (kind, publish) ∈ telemetryHandlers)
    (own : frame.isOf kind = true) (rxTimestampMs : UInt32) (s : State) :
    Stamps frame rxTimestampMs s (publish frame rxTimestampMs s) := by
  simp only [telemetryHandlers, List.mem_cons, List.not_mem_nil, or_false, Prod.mk.injEq]
    at listed
  rcases listed with ⟨rfl, rfl⟩ | ⟨rfl, rfl⟩ | ⟨rfl, rfl⟩ | ⟨rfl, rfl⟩ | ⟨rfl, rfl⟩ | ⟨rfl, rfl⟩
  · unfold publishAttitude
    split
    · exact .inl rfl
    · split
      · exact .inl rfl
      · exact .inr ⟨_, publishDecoded_stamps _ _ _ _, readOff_boot own (.inl rfl) rxTimestampMs⟩
  · unfold publishEkfLocal
    split
    · exact .inl rfl
    · split
      · exact .inl rfl
      · exact .inr ⟨_, publishDecoded_stamps _ _ _ _,
          readOff_boot own (.inr (.inl rfl)) rxTimestampMs⟩
  · unfold publishGlobalPositionAsLocal
    split
    · exact .inl rfl
    · exact .inr ⟨_, publishDecoded_stamps _ _ _ _,
        readOff_boot own (.inr (.inr rfl)) rxTimestampMs⟩
  · unfold publishGpsRaw
    split
    · exact .inl rfl
    · exact .inr ⟨_, publishDecoded_stamps _ _ _ _, readOff_gps own rxTimestampMs⟩
  · unfold publishEkfStatus
    split
    · exact .inl rfl
    · exact .inr ⟨_, publishDecoded_stamps _ _ _ _, rfl⟩
  · unfold handleSysTime
    split
    · exact .inl rfl
    · split
      · exact .inl rfl
      · exact .inl (publishDecoded_stamps _ _ _ _)

/-- A complete frame adds its stamp, or nothing. -/
theorem handleFrameComplete_stamps (inRange : InRange s) (env : Env) (frame : RxFrame)
    (rxTimestampMs : UInt32) :
    Stamps frame rxTimestampMs s (handleFrameComplete env frame rxTimestampMs s) := by
  have grown : ∃ new, (handleFrameComplete env frame rxTimestampMs s).outputs = new ++ s.outputs :=
    ⟨_, step_outputs inRange (.frame frame rxTimestampMs env)⟩
  have handles := handleFrameComplete_handles env frame rxTimestampMs s
  generalize handleFrameComplete env frame rxTimestampMs s = s' at handles grown ⊢
  have plain (same : ledger s' = ledger s) : Stamps frame rxTimestampMs s s' :=
    .inl (stamps_of_ledger grown same)
  cases handles with
  | telemetry listed own =>
    rename_i kind publish
    unfold handleTelemetry
    split
    · rename_i checks
      have noted : stamps (noteReceived env rxTimestampMs s) = stamps s := by
        have ⟨new, outputs, _⟩ := (noteReceived_silent env rxTimestampMs s).emits
        exact stamps_of_ledger ⟨new, outputs⟩ (noteReceived_ledger env rxTimestampMs s)
      have valid : frame.isOf kind = true := decide_eq_true ⟨own, checks⟩
      have added := telemetryHandlers_stamps listed valid rxTimestampMs
        (noteReceived env rxTimestampMs s)
      rw [Stamps, noted] at added
      exact added
    · exact .inl rfl
  | heartbeat own => exact plain (handleHeartbeat_ledger env frame rxTimestampMs s)
  | commandAck own => exact plain (handleCommandAck_ledger frame s)
  | missionRequestInt own => exact plain (handleMissionRequestInt_ledger env frame rxTimestampMs s)
  | missionRequest own => exact plain (handleMissionRequest_ledger env frame rxTimestampMs s)
  | missionAck own => exact plain (handleMissionAck_ledger env frame rxTimestampMs s)
  | missionCount own waiting => exact plain (handleMissionCount_ledger env frame rxTimestampMs s)
  | missionItemInt own waiting =>
    exact plain (handleMissionItemInt_ledger env frame rxTimestampMs s)
  | missionCurrent own => exact plain (handleMissionCurrent_ledger env frame rxTimestampMs s)
  | nothing noBeat noTelemetry noCurrent => exact .inl rfl

/-- What a step puts out has no stamp, or it is of a frame and has one that is read off it. -/
theorem step_newStamps (inRange : InRange s) (input : Input) :
    (newOutputs s (step s input)).filterMap Output.stamp = [] ∨
      ∃ frame rxTimestampMs env stamp, input = .frame frame rxTimestampMs env ∧
        (newOutputs s (step s input)).filterMap Output.stamp = [stamp] ∧
        ReadOff stamp frame rxTimestampMs := by
  have grown := step_outputs inRange input
  have split : stamps (step s input) =
      (newOutputs s (step s input)).filterMap Output.stamp ++ stamps s := by
    have outputs := congrArg (List.filterMap Output.stamp) grown
    rw [List.filterMap_append] at outputs
    exact outputs
  have plain (same : stamps (step s input) = stamps s) :
      (newOutputs s (step s input)).filterMap Output.stamp = [] :=
    List.append_left_eq_self.mp (split.symm.trans same)
  by_cases own : input.isFrame = true
  · cases input with
    | frame frame rxTimestampMs env =>
      rcases handleFrameComplete_stamps inRange env frame rxTimestampMs with
        same | ⟨stamp, added, read⟩
      · exact .inl (plain same)
      · refine .inr ⟨frame, rxTimestampMs, env, stamp, rfl, ?_, read⟩
        exact List.append_cancel_right (split.symm.trans added)
    | _ => cases own
  · have other : input.isFrame = false := by simpa using own
    exact .inl (plain (stamps_of_ledger ⟨_, grown⟩ (step_ledger s other)))

end

end CfsTelemetry.Bridge
