import CfsTelemetry.Bridge.Purposes

/-!
# What the flight controller is asked to fly

The bridge asks the flight controller for a sub-mode of its automatic mode, and for the item that
a mission goes on with. It does so for a flight mode command only: whatever else happens to the
bridge, the flight controller is asked for nothing. A send that fails leaves out what comes after
it, so that what is sent is a part of what the command stands for.
-/
namespace CfsTelemetry.Bridge

/-- What the flight controller is asked to fly. -/
inductive ModeRequest where
  /-- A sub-mode of the automatic mode, as it stands in the parameter of the request. -/
  | subMode (bits : UInt32)
  /-- The item that the mission goes on with. -/
  | firstItem (index : UInt16)
  deriving DecidableEq, Repr

/-- What an output asks the flight controller to fly. -/
def Output.modeRequest : Output → Option ModeRequest
  | .tx frame =>
    if framePurpose frame.kind frame.payload = .flightMode then
      some (if frame.kind = .commandLong then .subMode (readU32LE frame.payload 8)
        else .firstItem (readU16LE frame.payload 0))
    else none
  | .message _ => none

/-- What the flight controller has been asked to fly from one state to another, in order. -/
def requestsBetween (s s' : State) : List ModeRequest :=
  (newOutputs s s').reverse.filterMap Output.modeRequest

/-- What a flight mode command stands for. -/
def SetFlightModeCmd.requests (cmd : SetFlightModeCmd) : List ModeRequest :=
  match flightSubMode cmd.flightMode with
  | none => []
  | some subMode =>
    .subMode subMode.toUInt32.toFloat32.toBits ::
      if cmd.flightMode = 1 then [.firstItem cmd.waypointStartIndex.toUInt16] else []

/-- How many of its requests a flight mode command gets to the line. -/
def requestsSent (env : Env) (s : State) : Nat :=
  if takes (env.tx 0) s then if takes (env.tx 1) s then 2 else 1 else 0

/-- What is put out on the way from one state to another asks for some modes, in order. -/
def Asks (requests : List ModeRequest) (s s' : State) : Prop :=
  ∃ new, s'.outputs = new ++ s.outputs ∧ new.reverse.filterMap Output.modeRequest = requests

section

variable {requests : List ModeRequest} {s s' s'' : State}

/-- What is asked for on the way, read from the states. -/
theorem Asks.between (asks : Asks requests s s') : requestsBetween s s' = requests := by
  obtain ⟨new, outputs, asked⟩ := asks
  rw [← asked, requestsBetween, newOutputs, outputs]
  simp

/-- What two steps ask for one after the other. -/
theorem Asks.trans {more : List ModeRequest} (one : Asks requests s s')
    (two : Asks more s' s'') : Asks (requests ++ more) s s'' := by
  obtain ⟨new, outputs, rfl⟩ := one
  obtain ⟨newer, outputs', rfl⟩ := two
  exact ⟨newer ++ new, by rw [outputs', outputs, List.append_assoc], by simp⟩

/-- What serves no flight mode asks for none. -/
theorem Puts.asks {purposes : List Purpose} (puts : Puts purposes s s')
    (other : Purpose.flightMode ∉ purposes) : Asks [] s s' := by
  obtain ⟨new, outputs, own⟩ := puts.outputs
  refine ⟨new, outputs, List.filterMap_eq_nil_iff.mpr fun output mem => ?_⟩
  have serves := own output (List.mem_reverse.mp mem)
  cases output with
  | message content => rfl
  | tx frame =>
    refine if_neg fun mode => other ?_
    rw [← mode]
    exact serves

/-- A frame that fits is sent when the line takes it. -/
theorem sendMavlinkV2_success (kind : MessageKind) {payload : List UInt8}
    (fits : payload.length ≤ 52) (fault : Option TxFault) (s : State) :
    (sendMavlinkV2 kind payload fault s).1 = .success ↔ takes fault s = true := by
  have small : ¬ 10 + payload.length + 2 > maxFrameLen := by
    show ¬ 10 + payload.length + 2 > 64
    omega
  unfold sendMavlinkV2 takes
  cases isOpen : s.serialOpen
  · simp
  · rw [if_neg (by decide), if_neg small]
    cases fault <;> simp

/-- The frame that asks for a sub-mode. -/
theorem modeRequest_setMode (bits : UInt32) (sequence system component : UInt8) :
    (Output.tx ⟨sequence, .commandLong, Words.bytes32 0x3F800000 ++ Words.bytes32 0x40800000 ++
      Words.bytes32 bits ++ List.replicate 16 0 ++ Words.bytes16 176 ++
        [system, component, 0]⟩).modeRequest = some (.subMode bits) := by
  unfold Output.modeRequest
  dsimp only
  rw [if_pos (framePurpose_setMode bits system component), if_pos rfl]
  simp only [List.append_assoc]
  rw [readU32LE_skip _ _ 4, readU32LE_skip _ _ 0, readU32LE_bytes32]

/-- The frame that names the item to go on with. -/
theorem modeRequest_setCurrent (index : UInt16) (sequence system component : UInt8) :
    (Output.tx ⟨sequence, .missionSetCurrent, Words.bytes16 index ++
      [system, component]⟩).modeRequest = some (.firstItem index) := by
  have purpose : framePurpose .missionSetCurrent (Words.bytes16 index ++ [system, component]) =
      .flightMode := rfl
  unfold Output.modeRequest
  dsimp only
  rw [if_pos purpose, if_neg (by decide), readU16LE_bytes16]

/-- A frame asks for what it carries, when the line takes it. -/
theorem sendMavlinkV2_asks {kind : MessageKind} {payload : List UInt8} {request : ModeRequest}
    (fits : payload.length ≤ 52)
    (carries : ∀ sequence, (Output.tx ⟨sequence, kind, payload⟩).modeRequest = some request)
    (fault : Option TxFault) (s : State) :
    Asks (if takes fault s then [request] else []) s (sendMavlinkV2 kind payload fault s).2 := by
  refine ⟨_, sendMavlinkV2_outputs kind fits fault s, ?_⟩
  cases takes fault s with
  | true => simp [carries]
  | false => rfl

/-- A flight mode command with a known mode gets its requests to the line as far as the line
takes them. -/
theorem requestFlightMode_asks {cmd : SetFlightModeCmd} {subMode : UInt8}
    (named : flightSubMode cmd.flightMode = some subMode) (env : Env) (s : State) :
    Asks (cmd.requests.take (requestsSent env s)) s (requestFlightMode subMode env cmd s).2 := by
  have asked : cmd.requests = .subMode subMode.toUInt32.toFloat32.toBits ::
      if cmd.flightMode = 1 then [.firstItem cmd.waypointStartIndex.toUInt16] else [] := by
    rw [SetFlightModeCmd.requests, named]
  have first : (sendSetMode subMode (env.tx 0) s).1 = .success ↔ takes (env.tx 0) s = true :=
    sendMavlinkV2_success _ (by simp [Words.bytes32, Words.bytes16]) _ s
  have mode : Asks (if takes (env.tx 0) s then [.subMode subMode.toUInt32.toFloat32.toBits]
      else []) s (sendSetMode subMode (env.tx 0) s).2 :=
    sendMavlinkV2_asks (by simp [Words.bytes32, Words.bytes16])
      (fun sequence => modeRequest_setMode _ sequence _ _) _ s
  have line : ∀ fault, takes fault (sendSetMode subMode (env.tx 0) s).2 = takes fault s := by
    intro fault
    rw [takes, sendSetMode, (sendMavlinkV2_line _ _ _ s).1, takes]
  rw [asked]
  unfold requestFlightMode requestsSent
  dsimp only
  by_cases taken : takes (env.tx 0) s = true
  · have sent := first.mpr taken
    rw [if_pos taken] at mode ⊢
    by_cases mission : cmd.flightMode = 1
    · rw [if_pos mission, if_pos (And.intro sent mission)]
      have current : Asks (if takes (env.tx 1) s then
          [.firstItem cmd.waypointStartIndex.toUInt16] else [])
          (sendSetMode subMode (env.tx 0) s).2
          (sendMissionSetCurrent cmd.waypointStartIndex (env.tx 1)
            (sendSetMode subMode (env.tx 0) s).2).2 := by
        rw [← line]
        exact sendMavlinkV2_asks (by simp [Words.bytes16])
          (fun sequence => modeRequest_setCurrent _ sequence _ _) _ _
      have both := mode.trans current
      by_cases second : takes (env.tx 1) s = true
      · rw [if_pos second] at both ⊢
        exact both
      · rw [if_neg second] at both ⊢
        exact both
    · rw [if_neg mission, if_neg (not_and_of_not_right _ mission)]
      have all : ∀ count request, 0 < count →
          List.take count [request] = [(request : ModeRequest)] := by
        intro count request positive
        exact List.take_of_length_le positive
      rw [all _ _ (by split <;> decide)]
      exact mode
  · rw [if_neg taken] at mode ⊢
    rw [if_neg (not_and_of_not_left _ fun sent => taken (first.mp sent))]
    exact mode

/-- A flight mode command asks for what it stands for, as far as the line takes it. -/
theorem processSetFlightModeCmd_asks (env : Env) (cmd : SetFlightModeCmd) (s : State) :
    Asks (cmd.requests.take (requestsSent env s)) s (processSetFlightModeCmd env cmd s) := by
  have answered : ∀ ok counted, Asks [] counted
      (publishExecResult cmd.sourceSequence 8 ok cmd.flightMode counted) := fun ok counted =>
    (publishExecResult_puts _ _ _ _ counted).asks (by decide)
  unfold processSetFlightModeCmd
  dsimp only
  split
  · rename_i unnamed
    have nothing : cmd.requests = [] := by rw [SetFlightModeCmd.requests, unnamed]
    rw [nothing, List.take_nil]
    exact Asks.trans ⟨[], rfl, rfl⟩ (answered false _)
  · rename_i subMode named
    have asks := requestFlightMode_asks named env s
    have counted : ∀ ok after, after.outputs = (requestFlightMode subMode env cmd s).2.outputs →
        Asks (cmd.requests.take (requestsSent env s)) s
          (publishExecResult cmd.sourceSequence 8 ok cmd.flightMode after) := by
      intro ok after same
      have whole := (asks.trans ⟨[], same, rfl⟩).trans (answered ok after)
      rw [List.reverse_nil, List.filterMap_nil, List.append_nil, List.append_nil] at whole
      exact whole
    split
    · exact counted true _ rfl
    · exact counted false _ rfl

/-- Only a flight mode command asks the flight controller for anything. -/
theorem step_requests (s : State) (input : Input) :
    requestsBetween s (step s input) =
      match input with
      | .setFlightMode cmd env => cmd.requests.take (requestsSent env s)
      | _ => [] := by
  cases input with
  | setFlightMode cmd env => exact (processSetFlightModeCmd_asks env cmd s).between
  | _ => exact ((step_puts s _).asks (by simp [Input.purposes])).between

end

end CfsTelemetry.Bridge
