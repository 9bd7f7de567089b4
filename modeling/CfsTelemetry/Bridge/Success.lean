import CfsTelemetry.Bridge.Moves

/-!
# When an upload succeeds

The bridge declares an upload successful at the first accepting acknowledgement after
`MISSION_COUNT`. The flight controller acknowledges the clearing of its mission with the same
message, and a retry clears and counts back to back, so that the acknowledgement need not be
about the items. Success means that all items were sent exactly when the flight controller
acknowledges only after it has requested all items.
-/
namespace CfsTelemetry.Bridge

open Slots Run

/-- A frame that carries a waypoint as the item of an index. -/
def TxFrame.CarriesItem (frame : TxFrame) (index : Nat) (wp : Waypoint) : Prop :=
  (frame.kind = .missionItemInt ∧ ∃ system component current, frame.payload =
    missionItemIntPayload system component wp (UInt8.ofNat index) current) ∨
  (frame.kind = .missionItem ∧ ∃ system component, frame.payload =
    missionItemPayload system component wp (UInt8.ofNat index))

/-- The input is a request for an item, and the bridge sends the item in answer to it. -/
def SendsItem (index : Nat) (wp : Waypoint) (s : State) (input : Input) : Prop :=
  ∃ request rxTimestampMs env, input = .frame request rxTimestampMs env ∧
    (requestedIndex request).map UInt16.toNat = some index ∧
    ∃ frame ∈ sentFrames s (step s input), frame.CarriesItem index wp

/-- The bridge sends `MISSION_COUNT`. -/
def SendsCount (s : State) (input : Input) : Prop :=
  ∃ frame ∈ sentFrames s (step s input), frame.kind = .missionCount

/-- A route update starts an upload. -/
def StartsUpload (s : State) (input : Input) : Prop :=
  ∃ msg env, input = .routeUpdate msg env ∧ startsUpload msg s = true

/-- The bridge declares an upload successful: it counts the success and commits the pending
mission. -/
def DeclaresSuccess (s : State) (input : Input) : Prop :=
  (step s input).missionUploadSuccessCount = s.missionUploadSuccessCount + 1 ∧
    activeList (step s input) = pendingList s

/-- The input is an accepting acknowledgement, and an upload is active. An acknowledgement does not
tell what it acknowledges. -/
def TakesAck (s : State) (input : Input) : Prop :=
  ∃ ack rxTimestampMs env, input = .frame ack rxTimestampMs env ∧
    acknowledgedResult ack = some missionAccepted ∧ s.missionUploadState = .active

/-- The input is a request for an item, received while the line takes an answer. -/
def AsksItem (index : Nat) (s : State) (input : Input) : Prop :=
  ∃ request rxTimestampMs env, input = .frame request rxTimestampMs env ∧
    (requestedIndex request).map UInt16.toNat = some index ∧ takes (env.tx 0) s = true

/-- What an input brings about in the state after the inputs before it. -/
def During (start : State) (event : State → Input → Prop) (before : List Input) (input : Input) :
    Prop :=
  event (run step start before) input

/-- Something that happened in an upload after the last `MISSION_COUNT` sent for it. -/
def SinceCount (start : State) (event : State → Input → Prop) (inputs : List Input) : Prop :=
  Since (During start event)
    (During start fun s input => SendsCount s input ∨ StartsUpload s input) inputs

/-- `MISSION_COUNT` was sent for the upload that was started last. -/
def Counted (start : State) (inputs : List Input) : Prop :=
  Since (During start SendsCount) (During start StartsUpload) inputs

/-- Since the last `MISSION_COUNT` sent for the upload, every item of the pending mission was
sent in answer to a request. -/
def ItemsSent (start : State) (inputs : List Input) : Prop :=
  Counted start inputs ∧
    ∀ index < (run step start inputs).missionUploadWpCount.toNat,
      SinceCount start
        (SendsItem index (slot (run step start inputs).missionPending index)) inputs

/-- Since the last `MISSION_COUNT` sent for the upload, every item of the pending mission was
requested. -/
def ItemsRequested (start : State) (inputs : List Input) : Prop :=
  Counted start inputs ∧
    ∀ index < (run step start inputs).missionUploadWpCount.toNat,
      SinceCount start (AsksItem index) inputs

/-- Success is declared at the accepting acknowledgements taken by an active upload. -/
theorem declaresSuccess_iff {s : State} (inRange : InRange s) (input : Input) :
    DeclaresSuccess s input ↔ TakesAck s input := by
  obtain ⟨frames, moves, -⟩ := step_moves inRange input
  have success := moves.success
  have committed := congrArg Transfer.committed moves.plan
  unfold DeclaresSuccess TakesAck
  rw [← uploadAction_accept_iff]
  constructor
  · rintro ⟨counted, -⟩
    rw [counted] at success
    cases action : uploadAction s input with
    | accept => rfl
    | _ =>
      rw [action] at success
      simp [countSuccess] at success
  · intro accepts
    rw [accepts] at success committed
    exact ⟨success, committed⟩

/-- The answer to a request is no count. -/
theorem itemFrame_kind (request : RxFrame) (s : State) :
    (itemFrame request s).kind ≠ .missionCount := by
  unfold itemFrame
  split
  · exact show MessageKind.missionItemInt ≠ .missionCount by decide
  · exact show MessageKind.missionItem ≠ .missionCount by decide

/-- `MISSION_COUNT` is sent only by an offer. -/
theorem SendsCount.offer {s : State} (inRange : InRange s) {input : Input}
    (sends : SendsCount s input) : uploadAction s input = .offer := by
  obtain ⟨frame, sent, kind⟩ := sends
  obtain ⟨frames, moves, carries⟩ := step_moves inRange input
  rw [moves.emits.sentFrames] at sent
  cases input with
  | checkUpload nowMs env =>
    simp only [Carries] at carries
    show checkAction nowMs s = .offer
    split at carries
    · assumption
    · rw [carries] at sent
      cases sent
  | frame request rxTimestampMs env =>
    simp only [Carries, frameTx] at carries
    rw [carries] at sent
    split at sent
    · split at sent
      · rw [List.mem_singleton] at sent
        rw [sent] at kind
        exact absurd kind (itemFrame_kind request s)
      · cases sent
    · cases sent
  | _ =>
    rw [show frames = [] from carries] at sent
    cases sent

/-- The frame that answers a request carries the item. -/
theorem itemFrame_carries (request : RxFrame) {s : State} {index : Nat}
    (asks : (readU16LE request.payload 0).toNat = index) (small : index < 256) :
    (itemFrame request s).CarriesItem index (slot s.missionPending index) := by
  have narrow : (readU16LE request.payload 0).toUInt8 = UInt8.ofNat index := by
    apply UInt8.toNat_inj.mp
    rw [UInt16.toNat_toUInt8, UInt8.toNat_ofNat', asks]
  have place : (UInt8.ofNat index).toNat = index := UInt8.toNat_ofNat_of_lt' small
  unfold itemFrame
  dsimp only
  rw [narrow, place]
  split
  · exact .inl ⟨rfl, _, _, _, rfl⟩
  · exact .inr ⟨rfl, _, _, rfl⟩

/-- While an upload is active, its items are sent exactly in answer to the requests that the line
takes an answer to. -/
theorem sendsItem_iff_asksItem {s : State} (inRange : InRange s)
    (active : s.missionUploadState = .active) {index : Nat}
    (inside : index < s.missionUploadWpCount.toNat) (input : Input) :
    SendsItem index (slot s.missionPending index) s input ↔ AsksItem index s input := by
  constructor
  · rintro ⟨request, rxTimestampMs, env, rfl, asks, frame, sent, -⟩
    refine ⟨request, rxTimestampMs, env, rfl, asks, ?_⟩
    obtain ⟨frames, moves, carries⟩ := step_moves inRange (.frame request rxTimestampMs env)
    rw [moves.emits.sentFrames, show frames = frameTx request env s from carries, frameTx] at sent
    split at sent
    · by_contra refused
      rw [if_neg refused] at sent
      cases sent
    · cases sent
  · rintro ⟨request, rxTimestampMs, env, rfl, asks, taken⟩
    obtain ⟨asked, found, same⟩ := Option.map_eq_some_iff.mp asks
    have named : (readU16LE request.payload 0).toNat = index := by
      rw [requestedIndex_eq found, same]
    have small : index < 256 := by
      have bound := s.missionUploadWpCount.toNat_lt
      omega
    refine ⟨request, rxTimestampMs, env, rfl, asks, itemFrame request s, ?_,
      itemFrame_carries request named small⟩
    obtain ⟨frames, moves, carries⟩ := step_moves inRange (.frame request rxTimestampMs env)
    have answers : answersRequest request s = true :=
      decide_eq_true ⟨active, by rw [named]; exact inside⟩
    have action : frameAction request s = .answer (readU16LE request.payload 0).toNat := by
      rw [frameAction, found, ← requestedIndex_eq found]
      exact if_pos answers
    rw [moves.emits.sentFrames, show frames = frameTx request env s from carries, frameTx, action]
    show itemFrame request s ∈ if takes (env.tx 0) s then _ else _
    rw [if_pos taken]
    exact List.mem_singleton.mpr rfl

/-- An upload state is given by its phase. -/
theorem phase_injective : Function.Injective UploadState.phase := by
  intro first second equal
  cases first <;> cases second <;> first | rfl | cases equal

/-- The upload state after a step is given by the phase that the transfer comes to. -/
theorem step_state {s : State} (inRange : InRange s) (input : Input) :
    (step s input).missionUploadState.phase = ((plan s).step (uploadAction s input)).phase := by
  obtain ⟨frames, moves, -⟩ := step_moves inRange input
  exact congrArg Transfer.phase moves.plan

/-- Other inputs than a starting route update mean no start. -/
theorem noStart {s : State} {input : Input} (other : ¬ StartsUpload s input)
    (edit : Edit Waypoint) : uploadAction s input ≠ .start edit := by
  intro starts
  obtain ⟨msg, env, same, taken, -⟩ := uploadAction_start starts
  exact other ⟨msg, env, same, taken⟩

/-- A sent count makes the upload active. -/
theorem SendsCount.active {s : State} (inRange : InRange s) {input : Input}
    (sends : SendsCount s input) : (step s input).missionUploadState = .active := by
  apply phase_injective
  rw [step_state inRange, sends.offer inRange]
  rfl

/-- Only a starting route update clears. -/
theorem clearing_of_step {s : State} (inRange : InRange s) {input : Input}
    (other : ¬ StartsUpload s input) (clearing : (step s input).missionUploadState = .clearing) :
    s.missionUploadState = .clearing := by
  have after := step_state inRange input
  rw [clearing] at after
  have before : s.missionUploadState.phase = UploadState.clearing.phase :=
    Transfer.step_prepared (noStart other) after.symm
  exact phase_injective before

/-- The same pending list has the same waypoints in the slots in use. -/
theorem pending_of_list {s s' : State} (inRange : InRange s) (inRange' : InRange s')
    (list : pendingList s' = pendingList s) :
    s'.missionUploadWpCount.toNat = s.missionUploadWpCount.toNat ∧
      ∀ index < s.missionUploadWpCount.toNat,
        slot s'.missionPending index = slot s.missionPending index := by
  have count : s'.missionUploadWpCount.toNat = s.missionUploadWpCount.toNat := by
    have lengths := congrArg List.length list
    rwa [pendingList, pendingList, length_held inRange'.pending, length_held inRange.pending]
      at lengths
  refine ⟨count, fun index inside => ?_⟩
  have elements := congrArg (fun list : List Waypoint => list[index]?) list
  simp only [pendingList, getElem?_held_of_lt inRange.pending inside,
    getElem?_held_of_lt inRange'.pending (count ▸ inside), Option.some.injEq] at elements
  exact elements

/-- An upload that is active after an input, and was not clearing before it, was active with the
same mission, unless the input started it. -/
theorem active_of_step {s : State} (inRange : InRange s) {input : Input}
    (other : ¬ StartsUpload s input) (active : (step s input).missionUploadState = .active)
    (notClearing : s.missionUploadState ≠ .clearing) :
    s.missionUploadState = .active ∧ pendingList (step s input) = pendingList s := by
  obtain ⟨frames, moves, -⟩ := step_moves inRange input
  have after := step_state inRange input
  rw [active] at after
  obtain ⟨before, pending⟩ := Transfer.step_offered (uploadAction_enabled inRange input)
    (noStart other) after.symm
  have list := congrArg Transfer.pending moves.plan
  refine ⟨?_, list.trans pending⟩
  rcases before with prepared | offered
  · have clearing : s.missionUploadState.phase = UploadState.clearing.phase := prepared
    exact absurd (phase_injective clearing) notClearing
  · have active : s.missionUploadState.phase = UploadState.active.phase := offered
    exact phase_injective active

/-! ## Runs -/

section

variable {start : State}

/-- An upload whose count was sent is not clearing. -/
theorem Counted.notClearing (inRange : InRange start) {inputs : List Input}
    (counted : Counted start inputs) :
    (run step start inputs).missionUploadState ≠ .clearing := by
  induction inputs using List.reverseRecOn with
  | nil => exact absurd counted since_nil
  | append_singleton before input previous =>
    have inRange' := run_inRange inRange before
    rw [run_snoc]
    rcases since_snoc.mp counted with sends | ⟨earlier, other⟩
    · rw [sends.active inRange']
      exact fun impossible => nomatch impossible
    · intro clearing
      exact previous earlier (clearing_of_step inRange' other clearing)

/-- An input that sends a count is no request. -/
theorem SendsCount.unasked {s : State} (inRange : InRange s) {request : RxFrame}
    {rxTimestampMs : UInt32} {env : Env}
    (sends : SendsCount s (.frame request rxTimestampMs env)) : requestedIndex request = none := by
  have offers : frameAction request s = .offer := sends.offer inRange
  by_contra asked
  obtain ⟨index, found⟩ := Option.ne_none_iff_exists'.mp asked
  unfold frameAction at offers
  rw [found] at offers
  dsimp only at offers
  split at offers <;> cases offers

/-- While an upload is active after its count, the items sent since the count are those
requested. -/
theorem sent_iff_requested (inRange : InRange start) {inputs : List Input}
    (counted : Counted start inputs)
    (active : (run step start inputs).missionUploadState = .active) {index : Nat}
    (inside : index < (run step start inputs).missionUploadWpCount.toNat) :
    SinceCount start (SendsItem index (slot (run step start inputs).missionPending index)) inputs ↔
      SinceCount start (AsksItem index) inputs := by
  induction inputs using List.reverseRecOn with
  | nil => exact absurd counted since_nil
  | append_singleton before input previous =>
    have inRange' := run_inRange inRange before
    rw [run_snoc] at active inside ⊢
    unfold SinceCount
    by_cases sends : SendsCount (run step start before) input
    · -- The count is no answer, and nothing happened since it.
      have breaks : During start (fun s input => SendsCount s input ∨ StartsUpload s input)
          before input := .inl sends
      rw [since_snoc_of_breaks breaks, since_snoc_of_breaks breaks]
      apply iff_of_false
      · rintro ⟨request, rxTimestampMs, env, rfl, asks, -⟩
        rw [sends.unasked inRange'] at asks
        cases asks
      · rintro ⟨request, rxTimestampMs, env, rfl, asks, -⟩
        rw [sends.unasked inRange'] at asks
        cases asks
    · rcases since_snoc.mp counted with impossible | ⟨earlier, other⟩
      · exact absurd impossible sends
      have notClearing := Counted.notClearing inRange earlier
      obtain ⟨wasActive, list⟩ := active_of_step inRange' other active notClearing
      have inRangeAfter := run_inRange inRange (before ++ [input])
      rw [run_snoc] at inRangeAfter
      obtain ⟨count, slots⟩ := pending_of_list inRange' inRangeAfter list
      rw [count] at inside
      have now := sendsItem_iff_asksItem inRange' wasActive inside input
      have since := previous earlier wasActive inside
      rw [slots index inside, since_snoc, since_snoc]
      exact or_congr now (and_congr_left' since)

/-- When an accepting acknowledgement is taken, all items were sent exactly when all were
requested. -/
theorem itemsSent_iff (inRange : InRange start) {inputs : List Input}
    (active : (run step start inputs).missionUploadState = .active) :
    ItemsSent start inputs ↔ ItemsRequested start inputs := by
  apply and_congr_right
  intro counted
  apply forall₂_congr
  intro index inside
  exact sent_iff_requested inRange counted active inside

/-- Items that no input asks for are not sent. -/
theorem not_itemsSent {inputs : List Input}
    (waypoints : 0 < (run step start inputs).missionUploadWpCount.toNat)
    (unasked : ∀ request rxTimestampMs env, Input.frame request rxTimestampMs env ∈ inputs →
      requestedIndex request = none) : ¬ ItemsSent start inputs := by
  rintro ⟨-, sent⟩
  obtain ⟨before, input, after, place, ⟨request, rxTimestampMs, env, rfl, asks, -⟩, -⟩ :=
    sent 0 waypoints
  rw [unasked request rxTimestampMs env (by simp [place])] at asks
  cases asks

end

/-- Every upload that is declared successful had all its items sent since its last count exactly
when every accepting acknowledgement is taken only after all of them were requested. During a retry
the acknowledgement of the clearing is taken for that of the mission, so that nothing else vouches
for the items. -/
theorem uploads_sound_iff (config : ConfigParams) (inputs : List Input) :
    Each (fun before input => DeclaresSuccess (run step (initialState config) before) input →
        ItemsSent (initialState config) before) inputs ↔
      Each (fun before input => TakesAck (run step (initialState config) before) input →
        ItemsRequested (initialState config) before) inputs := by
  have inRange := initialState_inRange config
  have agree : ∀ before input,
      (DeclaresSuccess (run step (initialState config) before) input →
        ItemsSent (initialState config) before) ↔
      (TakesAck (run step (initialState config) before) input →
        ItemsRequested (initialState config) before) := by
    intro before input
    rw [declaresSuccess_iff (run_inRange inRange before)]
    apply imp_congr_right
    rintro ⟨ack, rxTimestampMs, env, -, -, active⟩
    exact itemsSent_iff inRange active
  constructor
  · intro each before input after place
    exact (agree before input).mp (each before input after place)
  · intro each before input after place
    exact (agree before input).mpr (each before input after place)

/-- An upload of one waypoint whose count goes unanswered, so that it is cleared and counted
again. -/
def retriedUpload : List Input :=
  connection ++ [routeUpdate 1 1 [⟨16, 0, 0, 0, 0, 370000000, 1270000000, 0x41F00000⟩] 2000,
    .checkUpload 2300 (Env.at 2300), .checkUpload 4300 (Env.at 4300)]

/-- The flight controller's answer to the clearing of the retry ends the upload with success,
though no item was sent. -/
theorem uploads_not_sound :
    ¬ ∀ config inputs, Each (fun before input =>
      DeclaresSuccess (run step (initialState config) before) input →
        ItemsSent (initialState config) before) inputs := by
  intro sound
  let acknowledged := received .missionAck [255, 190, 0, 0] 4310
  have success : DeclaresSuccess (run step (initialState .default) retriedUpload) acknowledged :=
    (declaresSuccess_iff (run_inRange (initialState_inRange .default) _) _).mpr
      ⟨_, _, _, rfl, by decide +kernel, by decide +kernel⟩
  have sent := sound .default (retriedUpload ++ [acknowledged]) retriedUpload acknowledged []
    rfl success
  refine not_itemsSent (by decide +kernel) ?_ sent
  intro request rxTimestampMs env among
  simp only [retriedUpload, connection, received, routeUpdate, List.cons_append, List.nil_append,
    List.mem_cons, List.not_mem_nil, or_false, reduceCtorEq, false_or, Input.frame.injEq] at among
  rcases among with ⟨rfl, -⟩ | ⟨rfl, -⟩ <;> decide +kernel

end CfsTelemetry.Bridge
