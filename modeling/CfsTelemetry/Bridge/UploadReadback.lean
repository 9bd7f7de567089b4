import CfsTelemetry.Bridge.Readbacks
import CfsTelemetry.Bridge.Truncation

/-!
# Upload and readback

A flight controller that keeps the items of an upload as they were sent, and returns them to the
next download, may leave out the zeros that a payload ends with. The item is read as it was
written all the same, the download takes every item, and what it publishes is the mission that
was uploaded.
-/
namespace CfsTelemetry.Bridge

open Slots Run Words

/-- The payloads that a flight controller has stored are those that the bridge has sent for the
items of a pending mission. -/
structure Stores (pending : WaypointArray) (count : Nat) (stored : List (List UInt8)) : Prop where
  length : stored.length = count
  sent : ∀ index payload, stored[index]? = some payload → ∃ s fault txSequence,
    s.missionPending = pending ∧ (sendMissionItemInt (UInt8.ofNat index) fault s).outputs =
      .tx ⟨txSequence, .missionItemInt, payload⟩ :: s.outputs

/-- A valid frame announces a number of items. -/
structure Announces (count : Nat) (frame : RxFrame) : Prop where
  valid : frame.valid .missionCount = true
  count : (readU16LE frame.payload 0).toNat = count

/-- A frame with a right checksum returns a stored payload, or what is left of it without zeros at
its end. -/
structure Returns (payload : List UInt8) (frame : RxFrame) : Prop where
  own : frame.msgId = MessageKind.missionItemInt.id
  checks : frame.checks .missionItemInt = true
  length : frame.payloadLen.toNat = frame.payload.length
  whole : ∃ zeros, (∀ byte ∈ zeros, byte = 0) ∧ payload = frame.payload ++ zeros

/-- A frame is a valid item that carries a waypoint. -/
def ItemOf (wp : Waypoint) (frame : RxFrame) : Prop :=
  frame.isItem = true ∧ itemWaypoint frame.payload = wp

/-- Inputs by which the bridge receives frames in order, and in between nothing that has to do
with the download. -/
inductive Receives : State → List Input → List RxFrame → Prop
  | ended {s : State} : Receives s [] []
  | other {s : State} {input : Input} {inputs : List Input} {frames : List RxFrame}
      (calm : Calm s (step s input)) (rest : Receives (step s input) inputs frames) :
      Receives s (input :: inputs) frames
  | frame {s : State} {frame : RxFrame} {rxTimestampMs : UInt32} {env : Env}
      {inputs : List Input} {frames : List RxFrame}
      (rest : Receives (step s (.frame frame rxTimestampMs env)) inputs frames) :
      Receives s (.frame frame rxTimestampMs env :: inputs) (frame :: frames)

/-- An item is read as it was written. -/
theorem itemWaypoint_missionItemInt (system component : UInt8) (wp : Waypoint) (seq : UInt8)
    (current : Bool) :
    itemWaypoint (missionItemIntPayload system component wp seq current) = wp := by
  unfold itemWaypoint missionItemIntPayload
  simp only [List.append_assoc, readU32LE_skip, readU32LE_bytes32, readU16LE_skip,
    readU16LE_skip16, readU16LE_bytes16, Int32.toInt32_toUInt32, UInt8.toUInt8_toUInt16]

/-- The last byte of an item but one is not zero. -/
theorem payloadByte_autocontinue (system component : UInt8) (wp : Waypoint) (seq : UInt8)
    (current : Bool) :
    payloadByte (missionItemIntPayload system component wp seq current) 36 = 1 := by
  unfold missionItemIntPayload
  simp only [List.append_assoc, payloadByte_skip, payloadByte_skip16]
  rfl

/-- What is sent for an item is its payload. -/
theorem Stores.payload {pending : WaypointArray} {count : Nat} {stored : List (List UInt8)}
    (stores : Stores pending count stored) {index : Nat} {payload : List UInt8}
    (held : stored[index]? = some payload) (fits : count ≤ routeMaxWaypoints) :
    ∃ system component current, payload = missionItemIntPayload system component
      (slot pending index) (UInt8.ofNat index) current := by
  have ⟨s, fault, txSequence, same, outputs⟩ := stores.sent index payload held
  have below : index < stored.length := (List.getElem?_eq_some_iff.mp held).1
  have small : routeMaxWaypoints = 37 := rfl
  have exact : (UInt8.ofNat index).toNat = index := by
    rw [stores.length] at below
    exact Nat.mod_eq_of_lt (by omega)
  have sent := sendMavlinkV2_outputs .missionItemInt (missionItemIntPayload_fits s.targetSystemId
    s.targetComponentId (slot s.missionPending (UInt8.ofNat index).toNat) (UInt8.ofNat index)
    (UInt8.ofNat index == s.activeResumeIndex)) fault s
  rw [← sendMissionItemInt, outputs] at sent
  by_cases taken : takes fault s = true
  · rw [if_pos taken, exact, same] at sent
    have frame := Output.tx.inj (List.cons.inj sent).1
    exact ⟨_, _, _, congrArg TxFrame.payload frame⟩
  · rw [if_neg taken] at sent
    exact absurd sent (List.cons_ne_self _ _)

/-- A returned item is long enough, and says what the stored one says. -/
theorem Returns.item {payload : List UInt8} {frame : RxFrame} (returns : Returns payload frame)
    {system component seq : UInt8} {wp : Waypoint} {current : Bool}
    (written : payload = missionItemIntPayload system component wp seq current) :
    frame.payloadLen ≥ 32 ∧ itemWaypoint frame.payload = wp := by
  have ⟨zeros, all, whole⟩ := returns.whole
  have reads : payloadByte payload = payloadByte frame.payload := by
    rw [whole, payloadByte_append_zeros all]
  constructor
  · have last : payloadByte frame.payload 36 = 1 := by
      rw [← reads, written, payloadByte_autocontinue]
    have long : 36 < frame.payload.length := by
      by_contra short
      rw [payloadByte, List.getElem?_eq_none (by omega)] at last
      cases last
    rw [ge_iff_le, UInt8.le_iff_toNat_le, returns.length]
    exact Nat.le_of_lt (Nat.lt_trans (by decide) long)
  · rw [← itemWaypoint_congr reads, written, itemWaypoint_missionItemInt]

/-! ## The download -/

/-- When no frame is left to receive, the download is left alone. -/
theorem Receives.calm {s : State} {inputs : List Input} {frames : List RxFrame}
    (receives : Receives s inputs frames) (none : frames = []) : Calm s (run step s inputs) := by
  induction receives with
  | ended => exact Calm.of_same rfl rfl
  | other calm rest later => exact calm.trans (later none)
  | frame rest later => cases none

/-- The download state is told by its phase. -/
theorem DownloadState.phase_injective : Function.Injective DownloadState.phase := by
  rintro ⟨⟩ ⟨⟩ same <;> first | rfl | cases same

/-- An item in turn is taken. -/
theorem step_takes {s : State} {frame : RxFrame} (item : frame.isItem = true)
    (collecting : s.missionDownloadState = .waitItem)
    (collects : (fetch s).Collects downloadLimit routeMaxWaypoints) (rxTimestampMs : UInt32)
    (env : Env) :
    Fetches (.take (itemWaypoint frame.payload)) s (step s (.frame frame rxTimestampMs env)) := by
  have ⟨own, valid⟩ := of_decide_eq_true item
  have steps : step s (.frame frame rxTimestampMs env) =
      handleMissionItemInt env frame rxTimestampMs s := by
    rw [step, handleFrameComplete_missionItemInt env own, if_pos collecting]
  rw [steps]
  exact handleMissionItemInt_takes env rxTimestampMs collects collecting valid

/-- A download that goes on with a mission ends with it when the rest of its items is
received. -/
theorem Receives.collects {mission : List Waypoint} (fits : mission.length ≤ routeMaxWaypoints)
    {s : State} {inputs : List Input} {frames : List RxFrame} (receives : Receives s inputs frames)
    (collecting : s.missionDownloadState = .waitItem) (follows : (fetch s).Follows mission)
    (items : List.Forall₂ ItemOf (mission.drop (fetch s).taken) frames) :
    (run step s inputs).missionDownloadState = .idle ∧
      ∃ messages, Publishes messages s (run step s inputs) ∧
        messages.map readbackContent = [(mission.length, mission)] := by
  have small : mission.length ≤ downloadLimit := Nat.le_trans fits (by decide)
  induction receives with
  | ended =>
    obtain ⟨-, below, -⟩ := follows (congrArg DownloadState.phase collecting)
    have nothing := List.drop_eq_nil_iff.mp (List.forall₂_nil_right_iff.mp items)
    omega
  | other calm rest later =>
    have same := fetch_of_same calm.same
    have state := congrArg DownloadView.state calm.same
    rw [← same] at follows items
    obtain ⟨ends, messages, publishes, content⟩ := later (state.trans collecting) follows items
    have both := calm.publishes.trans publishes
    rw [List.append_nil] at both
    exact ⟨ends, messages, both, content⟩
  | @frame s frame rxTimestampMs env inputs frames rest later =>
    obtain ⟨expected, below, kept⟩ := follows (congrArg DownloadState.phase collecting)
    rw [List.drop_eq_getElem_cons below, List.forall₂_cons] at items
    obtain ⟨⟨item, carried⟩, others⟩ := items
    have inTurn : (fetch s).InTurn mission (.take (itemWaypoint frame.payload)) := by
      refine ⟨congrArg DownloadState.phase collecting, ?_⟩
      rw [carried, List.getElem?_eq_getElem below]
    have fetches := step_takes item collecting (follows.collects small fits) rxTimestampMs env
    have next := follows.step small fits inTurn
    rw [← fetches.fetch] at next
    obtain ⟨messages, publishes, lists⟩ := fetches.publishes
    rw [run_cons]
    generalize step s (.frame frame rxTimestampMs env) = s' at *
    by_cases last : (fetch s).taken + 1 ≥ (fetch s).expected
    · have none : frames = [] := by
        rw [List.drop_eq_nil_of_le (by omega)] at others
        exact List.forall₂_nil_left_iff.mp others
      have calm := rest.calm none
      have ends : (fetch s).result routeMaxWaypoints (.take (itemWaypoint frame.payload)) =
        some ((fetch s).keep routeMaxWaypoints (itemWaypoint frame.payload)) := if_pos last
      have whole := Fetch.result_eq fits follows inTurn ends
      rw [ends, whole] at lists
      have phase : (fetch s').phase = .idle := by
        rw [fetches.fetch]
        exact if_pos last
      have idle : s'.missionDownloadState = .idle := DownloadState.phase_injective phase
      have state := congrArg DownloadView.state calm.same
      exact ⟨state.trans idle, messages, publishes.trans calm.publishes, lists⟩
    · have goesOn : (fetch s).result routeMaxWaypoints (.take (itemWaypoint frame.payload)) =
        none := if_neg last
      have phase : (fetch s').phase = .collecting := by
        rw [fetches.fetch]
        exact (if_neg last).trans (congrArg DownloadState.phase collecting)
      have taken : (fetch s').taken = (fetch s).taken + 1 := congrArg Fetch.taken fetches.fetch
      rw [← taken] at others
      obtain ⟨idle, rest, publishes', content⟩ :=
        later (DownloadState.phase_injective phase) next others
      rw [goesOn] at lists
      have silent : messages = [] := List.map_eq_nil_iff.mp lists
      have both := publishes.trans publishes'
      rw [silent, List.append_nil] at both
      exact ⟨idle, rest, both, content⟩

/-- A download of a stored mission that is announced ends with it. -/
theorem Receives.counts {mission : List Waypoint} (some : mission ≠ [])
    (fits : mission.length ≤ routeMaxWaypoints) {s : State} {inputs : List Input}
    {frames items : List RxFrame} {announced : RxFrame}
    (receives : Receives s inputs frames) (order : frames = announced :: items)
    (waiting : s.missionDownloadState = .waitCount)
    (announces : Announces mission.length announced)
    (returned : List.Forall₂ ItemOf mission items) :
    (run step s inputs).missionDownloadState = .idle ∧
      ∃ messages, Publishes messages s (run step s inputs) ∧
        messages.map readbackContent = [(mission.length, mission)] := by
  induction receives with
  | ended => cases order
  | other calm rest later =>
    have state := congrArg DownloadView.state calm.same
    obtain ⟨ends, messages, publishes, content⟩ := later order (state.trans waiting)
    have both := calm.publishes.trans publishes
    rw [List.append_nil] at both
    exact ⟨ends, messages, both, content⟩
  | @frame s frame rxTimestampMs env inputs frames rest later =>
    obtain ⟨rfl, rfl⟩ := List.cons.inj order
    have ⟨own, valid⟩ := of_decide_eq_true announces.valid
    have steps : step s (.frame frame rxTimestampMs env) =
        handleMissionCount env frame rxTimestampMs s := by
      rw [step, handleFrameComplete_missionCount env own, if_pos waiting]
    have fetches := handleMissionCount_counts env rxTimestampMs s valid
    rw [← steps, announces.count] at fetches
    have positive : mission.length ≠ 0 := fun empty => some (List.eq_nil_of_length_eq_zero empty)
    obtain ⟨messages, publishes, lists⟩ := fetches.publishes
    rw [run_cons]
    generalize step s (.frame frame rxTimestampMs env) = s' at *
    have begun : fetch s' = ⟨.collecting, min mission.length downloadLimit, 0, []⟩ := by
      rw [fetches.fetch]
      exact if_neg positive
    have phase := congrArg Fetch.phase begun
    have follows : (fetch s').Follows mission := by
      rw [fetches.fetch]
      refine Fetch.Follows.step (by exact Nat.le_trans fits (by decide)) fits ?_ rfl
      intro collecting
      rw [fetch, waiting] at collecting
      cases collecting
    have begins : (fetch s').taken = 0 := congrArg Fetch.taken begun
    obtain ⟨idle, rest, publishes', content⟩ := rest.collects fits
      (DownloadState.phase_injective phase) follows (by rwa [begins, List.drop_zero])
    rw [Fetch.result, if_neg positive] at lists
    have silent : messages = [] := List.map_eq_nil_iff.mp lists
    have both := publishes.trans publishes'
    rw [silent, List.append_nil] at both
    exact ⟨idle, rest, both, content⟩

/-- What a flight controller returns of a stored mission are its items. -/
theorem Stores.items {pending : WaypointArray} {count : Nat} {stored : List (List UInt8)}
    (stores : Stores pending count stored) (fits : count ≤ routeMaxWaypoints)
    {frames : List RxFrame} (returned : List.Forall₂ Returns stored frames) :
    List.Forall₂ ItemOf (held count pending) frames := by
  have ⟨lengths, each⟩ := List.forall₂_iff_get.mp returned
  have length : (held count pending).length = count := length_held fits pending
  refine List.forall₂_iff_get.mpr ⟨?_, fun index inside inside' => ?_⟩
  · rw [length, ← stores.length, lengths]
  have below : index < stored.length := lengths ▸ inside'
  have returns := each index below inside'
  obtain ⟨system, component, current, written⟩ :=
    stores.payload (List.getElem?_eq_getElem below) fits
  have ⟨long, carried⟩ := returns.item written
  have wp : (held count pending).get ⟨index, inside⟩ = slot pending index := by
    have there := getElem?_held_of_lt fits (length ▸ inside) pending
    rw [List.getElem?_eq_getElem inside] at there
    exact Option.some.inj there
  rw [wp]
  exact ⟨decide_eq_true ⟨returns.own, returns.checks, long⟩, carried⟩

/-- When a flight controller stores the items of a mission as they are sent, and returns them in
order to a download, the download completes, and the readback is the mission. It may leave out the
zeros at the end of an item, which the bridge reads all the same. -/
theorem upload_readback (pending : WaypointArray) (count : Nat) (atLeast : 1 ≤ count)
    (fits : count ≤ routeMaxWaypoints) (stored : List (List UInt8))
    (stores : Stores pending count stored) (s : State)
    (waiting : s.missionDownloadState = .waitCount) (announced : RxFrame)
    (announces : Announces count announced) (items : List RxFrame)
    (returned : List.Forall₂ Returns stored items) (inputs : List Input)
    (receives : Receives s inputs (announced :: items)) :
    (run step s inputs).missionDownloadState = .idle ∧
      (publishedReadbacks s (run step s inputs)).map readbackContent =
        [(count, held count pending)] := by
  have length : (held count pending).length = count := length_held fits pending
  have some : held count pending ≠ [] := by
    apply List.ne_nil_of_length_pos
    omega
  have said := stores.items fits returned
  have small : (held count pending).length ≤ routeMaxWaypoints := length.le.trans fits
  rw [← length] at announces
  obtain ⟨idle, messages, publishes, content⟩ :=
    receives.counts some small rfl waiting announces said
  rw [publishes.publishedReadbacks, content, length]
  exact ⟨idle, rfl⟩

/-- The bridge while the survey is uploaded. -/
def surveyUpload : State :=
  { initialState .default with
    serialOpen := true
    missionPending :=
      (WaypointArray.zero.setIfInBounds 0 surveyWaypoints.1).setIfInBounds 1 surveyWaypoints.2 }

/-- The items of the survey as they are sent. -/
def surveyItems : List (List UInt8) :=
  [missionItemIntPayload 0 0 surveyWaypoints.1 0 true,
    missionItemIntPayload 0 0 surveyWaypoints.2 1 false]

/-- The survey is returned without the zeros that its items end with. -/
theorem upload_readback_survey :
    let s := run step (initialState .default) (firstItem.take 2)
    let inputs := received .missionCount [2, 0, 255, 190, 0] 1200 ::
      surveyItems.map fun payload => received .missionItemInt payload.dropLast 1210
    (run step s inputs).missionDownloadState = .idle ∧
      (publishedReadbacks s (run step s inputs)).map readbackContent =
        [(2, [surveyWaypoints.1, surveyWaypoints.2])] := by
  intro s inputs
  have stores : Stores surveyUpload.missionPending 2 surveyItems := by
    refine ⟨rfl, fun index payload held => ?_⟩
    match index, held with
    | 0, held =>
      cases held
      exact ⟨surveyUpload, none, 0, rfl, by decide +kernel⟩
    | 1, held =>
      cases held
      exact ⟨surveyUpload, none, 0, rfl, by decide +kernel⟩
  have returns (wp : Waypoint) (seq : UInt8) (current : Bool) :
      Returns (missionItemIntPayload 0 0 wp seq current)
        (RxFrame.of .missionItemInt (missionItemIntPayload 0 0 wp seq current).dropLast) :=
    ⟨rfl, RxFrame.of_checks _ _, rfl, [0], by simp, rfl⟩
  have announces : Announces 2 (RxFrame.of .missionCount [2, 0, 255, 190, 0]) :=
    ⟨by decide +kernel, by decide⟩
  exact upload_readback surveyUpload.missionPending 2 (by decide) (by decide) surveyItems stores s
    (by decide +kernel) _ announces _
    (.cons (returns _ 0 true) (.cons (returns _ 1 false) .nil)) inputs
    (.frame (.frame (.frame .ended)))

end CfsTelemetry.Bridge
