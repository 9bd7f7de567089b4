import CfsTelemetry.Bridge.Abort
import CfsTelemetry.Bridge.Link
import CfsTelemetry.Bridge.Loop

/-!
# The upload after the link is lost

Losing the link leaves the upload where it is. It goes on by itself when the port is open again:
when its timer has run out it is announced or tried again, requests are answered, and an
acknowledgement commits it. Nothing else goes on with it.
-/
namespace CfsTelemetry.Bridge

open Slots Run

/-- The frames of an upload that a step sends: the clearing, the count and the items. -/
def sentUpload (s s' : State) : List TxFrame :=
  (s'.outputs.take (s'.outputs.length - s.outputs.length)).filterMap fun
    | .tx frame => if frame.kind.concernsUpload then some frame else none
    | .message _ => none

/-- A step goes on with the upload: it sends one of its frames or declares it successful. -/
def GoesOn (s : State) (input : Input) : Prop :=
  sentUpload s (step s input) ≠ [] ∨ DeclaresSuccess s input

/-- An input meets an upload that is still in progress in a state to go on: its timer has run out
and there is a next try, or the flight controller asks for an item or accepts. A loss of the link in
between leaves the upload as it is. -/
def Revives (s : State) : Input → Prop
  | .checkUpload nowMs env =>
    expired nowMs s.missionUploadTimeoutMs = true ∧
      (s.missionUploadState = .clearing ∧ takes (env.tx 0) s = true ∨
        s.missionUploadState = .active ∧ s.missionUploadRetry < missionMaxRetries ∧
          (takes (env.tx 0) s = true ∨ takes (env.tx 1) s = true))
  | .frame frame _ env =>
    s.missionUploadState = .active ∧
      ((∃ index, requestedIndex frame = some index ∧
          index.toNat < s.missionUploadWpCount.toNat ∧ takes (env.tx 0) s = true) ∨
        acknowledgedResult frame = some missionAccepted)
  | _ => False

/-- What a step sends of an upload, when it clears nothing, is what it sends of the transfer. -/
theorem sentUpload_eq_nil_iff {frames : List TxFrame} {s s' : State} (emits : Emits frames s s')
    (clears : clearFrames s'.outputs = clearFrames s.outputs) :
    sentUpload s s' = [] ↔ frames = [] := by
  obtain ⟨new, outputs, own⟩ := emits
  have none : clearFrames new = [] := by
    rw [outputs, clearFrames, List.filterMap_append] at clears
    exact List.append_left_eq_self.mp clears
  have taken : s'.outputs.take (s'.outputs.length - s.outputs.length) = new := by
    rw [outputs]
    simp
  rw [sentUpload, taken, ← own, uploadFrames, List.filterMap_eq_nil_iff,
    List.filterMap_eq_nil_iff]
  have kept : ∀ frame, .tx frame ∈ new → frame.kind ≠ .missionClearAll := by
    intro frame sent clearing
    have cleared := List.filterMap_eq_nil_iff.mp none _ sent
    simp [clearing] at cleared
  constructor
  · intro nothing output sent
    have silent := nothing output sent
    cases output with
    | message message => rfl
    | tx frame =>
      have apart := kept frame sent
      simpa [MessageKind.concernsUpload, apart] using silent
  · intro nothing output sent
    have silent := nothing output sent
    cases output with
    | message message => rfl
    | tx frame =>
      have apart := kept frame sent
      simpa [MessageKind.concernsUpload, apart] using silent

/-- A frame that clears the mission is one of the upload. -/
theorem sentUpload_ne_nil {s s' : State} {frame : TxFrame}
    (outputs : ∃ new, s'.outputs = new ++ s.outputs)
    (clears : clearFrames s'.outputs = [frame] ++ clearFrames s.outputs) :
    sentUpload s s' ≠ [] := by
  obtain ⟨new, outputs⟩ := outputs
  have taken : s'.outputs.take (s'.outputs.length - s.outputs.length) = new := by
    rw [outputs]
    simp
  have own : clearFrames new = [frame] := by
    rw [outputs, clearFrames, List.filterMap_append] at clears
    exact List.append_cancel_right clears
  intro nothing
  rw [sentUpload, taken, List.filterMap_eq_nil_iff] at nothing
  have among : frame ∈ clearFrames new := by simp [own]
  obtain ⟨output, sent, named⟩ := List.mem_filterMap.mp among
  have silent := nothing output sent
  cases output with
  | message message => cases named
  | tx other =>
    by_cases clearing : other.kind = .missionClearAll
    · simp [MessageKind.concernsUpload, clearing] at silent
    · simp [clearing] at named

/-- A request for an item clears nothing. -/
theorem handleMissionRequestInt_clears (env : Env) (frame : RxFrame) (rxTimestampMs : UInt32)
    (s : State) :
    clearFrames (handleMissionRequestInt env frame rxTimestampMs s).outputs =
      clearFrames s.outputs := by
  have item : MessageKind.missionItemInt ≠ .missionClearAll := by decide
  have sent : ∀ s' : State, clearFrames (sendMissionItemInt (readU16LE frame.payload 0).toUInt8
      (env.tx 0) s').outputs = clearFrames s'.outputs :=
    fun s' => sendMavlinkV2_clears_nothing _ _ _ item
  unfold handleMissionRequestInt
  split
  · split
    · rw [sent]
      simp only [awaitRequest]
    · rfl
  · rfl

/-- A legacy request for an item clears nothing. -/
theorem handleMissionRequest_clears (env : Env) (frame : RxFrame) (rxTimestampMs : UInt32)
    (s : State) :
    clearFrames (handleMissionRequest env frame rxTimestampMs s).outputs =
      clearFrames s.outputs := by
  have item : MessageKind.missionItem ≠ .missionClearAll := by decide
  have sent : ∀ s' : State, clearFrames (sendMissionItem (readU16LE frame.payload 0).toUInt8
      (env.tx 0) s').outputs = clearFrames s'.outputs :=
    fun s' => sendMavlinkV2_clears_nothing _ _ _ item
  unfold handleMissionRequest
  dsimp only
  split
  · split
    · rw [sent]
      simp only [awaitRequest, sendEvent]
    · rfl
  · rfl

/-- An acknowledgement clears nothing. -/
theorem handleMissionAck_clears (env : Env) (frame : RxFrame) (rxTimestampMs : UInt32)
    (s : State) :
    clearFrames (handleMissionAck env frame rxTimestampMs s).outputs = clearFrames s.outputs := by
  have commits : clearFrames (commitUpload env rxTimestampMs s).outputs =
      clearFrames s.outputs := by
    unfold commitUpload
    dsimp only
    split
    · exact (startFcMissionReadback_silent env _).clears
    · rfl
  unfold handleMissionAck
  split
  · split
    · split
      · exact commits
      · rfl
    · rfl
  · rfl

/-- The current item clears nothing. -/
theorem handleMissionCurrent_clears (env : Env) (frame : RxFrame) (rxTimestampMs : UInt32)
    (s : State) :
    clearFrames (handleMissionCurrent env frame rxTimestampMs s).outputs =
      clearFrames s.outputs := by
  unfold handleMissionCurrent
  split
  · exact (noteReceived_silent env rxTimestampMs s).clears
  · rfl

/-- No frame has the mission cleared. -/
theorem handleFrameComplete_clears (env : Env) (frame : RxFrame) (rxTimestampMs : UInt32)
    (s : State) :
    clearFrames (handleFrameComplete env frame rxTimestampMs s).outputs =
      clearFrames s.outputs := by
  by_cases concerns : frame.concernsUpload
  · have handled := handleFrameComplete_concerned env frame rxTimestampMs s
    rcases concerns with own | own | own | own
    · rw [handled.missionRequestInt own]
      exact handleMissionRequestInt_clears env frame rxTimestampMs s
    · rw [handled.missionRequest own]
      exact handleMissionRequest_clears env frame rxTimestampMs s
    · rw [handled.missionAck own]
      exact handleMissionAck_clears env frame rxTimestampMs s
    · rw [handled.missionCurrent own]
      exact handleMissionCurrent_clears env frame rxTimestampMs s
  · exact (handleFrameComplete_silent env rxTimestampMs s concerns).clears

/-- What has nothing to do with the upload does not go on with it. -/
theorem Silent.sentUpload {s s' : State} (silent : Silent s s') : sentUpload s s' = [] :=
  (sentUpload_eq_nil_iff silent.emits silent.clears).mpr rfl

/-- A new try sends something when the line takes the clearing or the count. -/
theorem retryUpload_sentUpload {s : State} (inRange : InRange s)
    (active : s.missionUploadState = .active) (nowMs : UInt32) (env : Env) :
    sentUpload s (retryUpload nowMs env s) ≠ [] ↔
      (takes (env.tx 0) s = true ∨ takes (env.tx 1) s = true) := by
  obtain ⟨seq, moves⟩ := retryUpload_moves inRange active nowMs env
  let again : State := { s with
    missionUploadRetry := s.missionUploadRetry + 1
    missionUploadTimeoutMs := nowMs + missionUploadTimeoutMs }
  have cleared := sendMavlinkV2_outputs .missionClearAll (show [s.targetSystemId,
    s.targetComponentId, missionTypeMission].length ≤ 52 by simp) (env.tx 0) again
  have count : MessageKind.missionCount ≠ .missionClearAll := by decide
  have counted : clearFrames (retryUpload nowMs env s).outputs =
      clearFrames (sendMissionClearAll (env.tx 0) again).outputs :=
    sendMavlinkV2_clears_nothing _ _ _ count
  rw [sendMissionClearAll, cleared, show takes (env.tx 0) again = takes (env.tx 0) s from rfl]
    at counted
  by_cases first : takes (env.tx 0) s = true
  · rw [if_pos first] at counted
    obtain ⟨new, outputs, -⟩ := moves.emits
    exact iff_of_true (sentUpload_ne_nil ⟨new, outputs⟩ counted) (.inl first)
  · rw [if_neg first] at counted
    rw [ne_eq, sentUpload_eq_nil_iff moves.emits counted]
    by_cases second : takes (env.tx 1) s = true
    · simp [second]
    · simp [first, second]

/-- An announcement sends the count when the line takes it. -/
theorem announceMission_sentUpload {s : State} (inRange : InRange s) (nowMs : UInt32)
    (env : Env) :
    sentUpload s (announceMission nowMs env s) ≠ [] ↔ takes (env.tx 0) s = true := by
  have moves := announceMission_moves inRange nowMs env
  have count : MessageKind.missionCount ≠ .missionClearAll := by decide
  have clears : clearFrames (announceMission nowMs env s).outputs = clearFrames s.outputs :=
    sendMavlinkV2_clears_nothing _ _ { s with
      missionUploadState := .active
      missionUploadTimeoutMs := nowMs + missionUploadTimeoutMs } count
  rw [ne_eq, sentUpload_eq_nil_iff moves.emits clears]
  simp

/-- The timeout goes on with an upload that it meets in a state to go on. -/
theorem checkMissionUploadTimeout_sentUpload {s : State} (inRange : InRange s) (nowMs : UInt32)
    (env : Env) :
    sentUpload s (checkMissionUploadTimeout nowMs env s) ≠ [] ↔
      Revives s (.checkUpload nowMs env) := by
  have still : sentUpload s s = [] := Silent.sentUpload (Silent.of_same rfl rfl)
  have failed : sentUpload s (failUpload s) = [] :=
    (sentUpload_eq_nil_iff (failUpload_moves inRange).emits rfl).mpr rfl
  unfold checkMissionUploadTimeout Revives
  cases progress : s.missionUploadState with
  | idle => simp [still]
  | clearing =>
    dsimp only
    by_cases due : expired nowMs s.missionUploadTimeoutMs = true
    · rw [if_pos due, announceMission_sentUpload inRange]
      simp [due]
    · rw [if_neg due]
      simp [still, due]
  | active =>
    dsimp only
    by_cases due : expired nowMs s.missionUploadTimeoutMs = true
    · rw [if_pos due]
      by_cases left : s.missionUploadRetry < missionMaxRetries
      · rw [if_pos left, retryUpload_sentUpload inRange progress]
        simp [due, left]
      · rw [if_neg left]
        simp [failed, left]
    · rw [if_neg due]
      simp [still, due]

/-- Only requests are answered. -/
theorem frameTx_of_unasked {frame : RxFrame} (unasked : requestedIndex frame = none) (env : Env)
    (s : State) : frameTx frame env s = [] := by
  rw [frameTx, frameAction, unasked]
  cases acknowledgedResult frame with
  | none => cases announcedCurrent frame <;> rfl
  | some result =>
    dsimp only
    by_cases active : s.missionUploadState = .active
    · by_cases accepts : result = missionAccepted
      · rw [if_pos active, if_pos accepts]
      · rw [if_pos active, if_neg accepts]
    · rw [if_neg active]

/-- An item is sent in answer to a request for an index of the mission being uploaded. -/
theorem frameTx_ne_nil {frame : RxFrame} {env : Env} {s : State} :
    frameTx frame env s ≠ [] ↔ s.missionUploadState = .active ∧
      ∃ index, requestedIndex frame = some index ∧
        index.toNat < s.missionUploadWpCount.toNat ∧ takes (env.tx 0) s = true := by
  cases asked : requestedIndex frame with
  | none => simp [frameTx_of_unasked asked]
  | some index =>
    have action : frameAction frame s =
        if answersRequest frame s then .answer index.toNat else .silent := by
      rw [frameAction, asked]
    have answers : answersRequest frame s = decide (s.missionUploadState = .active ∧
        index.toNat < s.missionUploadWpCount.toNat) := by
      rw [answersRequest, requestedIndex_eq asked]
    rw [frameTx, action, answers]
    by_cases inside : s.missionUploadState = .active ∧
        index.toNat < s.missionUploadWpCount.toNat
    · rw [if_pos (decide_eq_true inside)]
      simp [inside]
    · rw [if_neg (by simpa using inside)]
      simp only [ne_eq, not_true_eq_false, false_iff, not_and, not_exists]
      rintro active other same below -
      cases same
      exact inside ⟨active, below⟩

/-- A frame goes on with an upload that it meets in a state to go on. -/
theorem frame_goesOn {s : State} (inRange : InRange s) (frame : RxFrame)
    (rxTimestampMs : UInt32) (env : Env) :
    GoesOn s (.frame frame rxTimestampMs env) ↔ Revives s (.frame frame rxTimestampMs env) := by
  have moves := handleFrameComplete_moves inRange env frame rxTimestampMs
  have clears := handleFrameComplete_clears env frame rxTimestampMs s
  have sends : sentUpload s (step s (.frame frame rxTimestampMs env)) ≠ [] ↔
      frameTx frame env s ≠ [] := not_congr (sentUpload_eq_nil_iff moves.emits clears)
  have accepts : TakesAck s (.frame frame rxTimestampMs env) ↔
      acknowledgedResult frame = some missionAccepted ∧ s.missionUploadState = .active := by
    constructor
    · rintro ⟨ack, timeMs, met, same, accepted, active⟩
      cases same
      exact ⟨accepted, active⟩
    · rintro ⟨accepted, active⟩
      exact ⟨frame, rxTimestampMs, env, rfl, accepted, active⟩
  unfold GoesOn Revives
  rw [declaresSuccess_iff inRange, accepts, sends, frameTx_ne_nil]
  dsimp only
  rw [and_or_left]
  exact or_congr_right and_comm

/-- After anything but a route update, the bridge goes on with an upload exactly when the input
meets it in a state to go on. -/
theorem goesOn_iff {s : State} (inRange : InRange s) {input : Input}
    (other : input.noUpdate = true) : GoesOn s input ↔ Revives s input := by
  have undeclared : (∀ ack timeMs env, input ≠ .frame ack timeMs env) →
      ¬ DeclaresSuccess s input := by
    intro noFrame declares
    obtain ⟨ack, timeMs, env, same, -⟩ := (declaresSuccess_iff inRange input).mp declares
    exact noFrame ack timeMs env same
  have quiet : (∀ ack timeMs env, input ≠ .frame ack timeMs env) → Silent s (step s input) →
      ¬ GoesOn s input := by
    rintro noFrame silent (sends | declares)
    · exact sends silent.sentUpload
    · exact undeclared noFrame declares
  cases input with
  | routeUpdate msg env => cases other
  | checkUpload nowMs env =>
    rw [GoesOn, or_iff_left (undeclared fun _ _ _ => nofun)]
    exact checkMissionUploadTimeout_sentUpload inRange nowMs env
  | frame frame rxTimestampMs env => exact frame_goesOn inRange frame rxTimestampMs env
  | _ => exact iff_of_false (quiet (fun _ _ _ => nofun) (step_silent s rfl)) id

/-! ## Runs -/

/-- When an upload is in progress as the link becomes disconnected, a condition holds of every
input from that one on, until the next route update. -/
def FromLossOn (config : ConfigParams) (holds : State → Input → Prop) (inputs : List Input) :
    Prop :=
  ∀ before loss after, inputs = before ++ loss :: after →
    disconnects (run step (initialState config) before) loss = true →
    (run step (initialState config) before).missionUploadState ≠ .idle →
    ∀ between next rest, loss :: after = between ++ next :: rest →
      (∀ input ∈ between ++ [next], input.noUpdate = true) →
      holds (run step (initialState config) (before ++ between)) next

/-- The bridge does not go on with an upload after a loss of the link, in any run of its loop,
exactly when no input meets the upload in a state to go on until the next route update. The loss of
the link leaves the state of the upload and its timer as they are. -/
theorem uploads_abandoned_iff (config : ConfigParams) (turns : List Turn) :
    FromLossOn config (fun s input => ¬ GoesOn s input) (loopInputs config turns) ↔
      FromLossOn config (fun s input => ¬ Revives s input) (loopInputs config turns) := by
  have agree : ∀ before input, Input.noUpdate input = true →
      (GoesOn (run step (initialState config) before) input ↔
        Revives (run step (initialState config) before) input) :=
    fun before input other =>
      goesOn_iff (run_inRange (initialState_inRange config) before) other
  constructor
  · intro abandoned before loss after place disconnects busy between next rest within others
    rw [← agree _ next (others next (by simp))]
    exact abandoned before loss after place disconnects busy between next rest within others
  · intro unmet before loss after place disconnects busy between next rest within others
    rw [agree _ next (others next (by simp))]
    exact unmet before loss after place disconnects busy between next rest within others

/-- Whether a step goes on with an upload can be computed. -/
instance (s : State) (input : Input) : Decidable (GoesOn s input) :=
  have : Decidable (DeclaresSuccess s input) := inferInstanceAs (Decidable (_ ∧ _))
  inferInstanceAs (Decidable (_ ∨ _))

/-- An upload is started, the read of the port fails, and the port is opened again and served. -/
def lossTurns : List Turn :=
  connectionTurns ++
    [⟨some (.routeUpdate ⟨0, 2000, 0, 2, 0, 1, WaypointArray.zero⟩ (Env.at 2000)),
        Service.silent 2000 .drained⟩,
      Turn.silent 2100 (.failed 5), Turn.silent 3200 .drained, Turn.silent 3400 .drained]

/-- What holds from a loss on holds of an input after it, both named by their places. -/
theorem FromLossOn.at {config : ConfigParams} {holds : State → Input → Prop}
    {inputs : List Input} (given : FromLossOn config holds inputs)
    {loss next : Fin inputs.length} (after : loss ≤ next)
    (down : disconnects (run step (initialState config) (inputs.take loss)) (inputs.get loss) =
      true)
    (busy : (run step (initialState config) (inputs.take loss)).missionUploadState ≠ .idle)
    (others : ∀ input ∈ (inputs.drop loss).take (next - loss + 1), input.noUpdate = true) :
    holds (run step (initialState config) (inputs.take next)) (inputs.get next) := by
  have ordered : loss.val + (next.val - loss.val) = next.val := Nat.add_sub_cancel' after
  have here : ∀ place : Fin inputs.length,
      inputs.drop place = inputs.get place :: inputs.drop (place + 1) :=
    fun place => (List.getElem_cons_drop place.isLt).symm
  have whole : inputs = inputs.take loss ++ inputs.get loss :: inputs.drop (loss + 1) := by
    rw [← here, List.take_append_drop]
  have later : inputs.get loss :: inputs.drop (loss + 1) =
      (inputs.drop loss).take (next - loss) ++ inputs.get next :: inputs.drop (next + 1) := by
    have rest : inputs.drop next = (inputs.drop loss).drop (next - loss) := by
      rw [List.drop_drop, ordered]
    rw [← here, ← here, rest, List.take_append_drop]
  have last : (inputs.drop loss).take (next - loss + 1) =
      (inputs.drop loss).take (next - loss) ++ [inputs.get next] := by
    have inside : next.val - loss.val < (inputs.drop loss).length := by
      have bound := next.isLt
      rw [List.length_drop]
      omega
    rw [List.take_succ_eq_append_getElem inside, List.getElem_drop]
    simp only [ordered, List.get_eq_getElem]
  have held := given _ _ _ whole down busy _ _ _ later (by rwa [← last])
  rwa [← List.take_add, ordered] at held

/-- The upload that the loss of the link interrupts is announced when the port is open again. -/
theorem uploads_not_abandoned :
    ¬ ∀ config turns,
      FromLossOn config (fun s input => ¬ GoesOn s input) (loopInputs config turns) := by
  intro abandoned
  have silent := @FromLossOn.at _ _ _ (abandoned .default lossTurns)
    ⟨27, by decide +kernel⟩ ⟨31, by decide +kernel⟩ (by decide +kernel) (by decide +kernel)
    (by decide +kernel) (by decide +kernel)
  revert silent
  decide +kernel

end CfsTelemetry.Bridge
