import CfsTelemetry.Bridge.Additions

/-!
# The two requests for an item

The flight controller asks for each item of an upload with `MISSION_REQUEST_INT` or with the older
`MISSION_REQUEST`, and is answered with a message of its own for either. The older answer has been
left behind: it carries neither the parameters of a waypoint nor the mark of the current item. So
which mission is flown depends on the requests, unless there is nothing to carry.
-/
namespace CfsTelemetry.Bridge

open Slots Run Words

/-- An item of a mission as its message describes it. The numbers are bit patterns, the position
is in degrees. -/
structure MissionItem where
  seq : UInt16
  frame : UInt8
  command : UInt16
  current : UInt8
  autocontinue : UInt8
  param1 : UInt32
  param2 : UInt32
  param3 : UInt32
  param4 : UInt32
  latitude : UInt32
  longitude : UInt32
  z : UInt32
  deriving DecidableEq

/-- The item of a payload, for a position that is encoded apart. -/
def payloadItem (payload : List UInt8) (latitude longitude : UInt32) : MissionItem where
  seq := itemSeq payload
  frame := payloadByte payload 34
  command := readU16LE payload 30
  current := payloadByte payload 35
  autocontinue := payloadByte payload 36
  param1 := readU32LE payload 0
  param2 := readU32LE payload 4
  param3 := readU32LE payload 8
  param4 := readU32LE payload 12
  latitude := latitude
  longitude := longitude
  z := readU32LE payload 24

/-- The item that a frame describes. A `MISSION_ITEM_INT` has its position in units of 1e-7
degrees, a `MISSION_ITEM` in degrees. -/
def describedItem (frame : TxFrame) : Option MissionItem :=
  let x := readU32LE frame.payload 16
  let y := readU32LE frame.payload 20
  if frame.kind = .missionItemInt then
    some (payloadItem frame.payload (degreesE7 x.toInt32).toBits (degreesE7 y.toInt32).toBits)
  else if frame.kind = .missionItem then some (payloadItem frame.payload x y)
  else none

/-- Whether a mission begins anew with a frame. -/
def beginsMission : Output → Bool
  | .tx frame => frame.kind = .missionClearAll ∨ frame.kind = .missionCount
  | .message _ => false

/-- The items sent since the mission began, newest first. -/
def sentItems (outputs : List Output) : List MissionItem :=
  (outputs.takeWhile fun output => !beginsMission output).filterMap fun
    | .tx frame => describedItem frame
    | .message _ => none

/-- The mission that the flight controller ends up with: at each index the item sent last. -/
def flownMission (outputs : List Output) (seq : UInt16) : Option MissionItem :=
  (sentItems outputs).find? fun item => item.seq == seq

/-- The message that an item is requested with. -/
inductive RequestKind where
  | int | legacy
  deriving DecidableEq

/-- A request for an item, with a valid frame for either message. -/
structure ItemRequest where
  seq : UInt16
  int : RxFrame
  legacy : RxFrame
  rxTimestampMs : UInt32
  env : Env
  int_valid : int.valid .missionRequestInt = true
  legacy_valid : legacy.valid .missionRequest = true
  int_seq : readU16LE int.payload 0 = seq
  legacy_seq : readU16LE legacy.payload 0 = seq

/-- The request as it is received. -/
def ItemRequest.input (request : ItemRequest) : RequestKind → Input
  | .int => .frame request.int request.rxTimestampMs request.env
  | .legacy => .frame request.legacy request.rxTimestampMs request.env

/-- Whether a request is answered: an upload that has the item is active, and the line takes the
answer. -/
def ItemRequest.answered (request : ItemRequest) (s : State) : Bool :=
  decide (s.missionUploadState = .active ∧
    request.seq.toNat < s.missionUploadWpCount.toNat) && takes (request.env.tx 0) s

/-- The item that a request for an index is answered with. -/
def answerItem (kind : RequestKind) (s : State) (seq : UInt16) : MissionItem :=
  let wp := slot s.missionPending seq.toUInt8.toNat
  let legacy : MissionItem := {
    seq := seq.toUInt8.toUInt16
    frame := frameGlobalRelativeAlt
    command := wp.cmdType.toUInt16
    current := 0
    autocontinue := 1
    param1 := 0
    param2 := 0
    param3 := 0
    param4 := 0
    latitude := (degreesE7 wp.latE7).toBits
    longitude := (degreesE7 wp.lonE7).toBits
    z := wp.z }
  match kind with
  | .int => { legacy with
      current := if seq.toUInt8 == s.activeResumeIndex then 1 else 0
      param1 := wp.param1
      param2 := wp.param2
      param3 := wp.param3
      param4 := wp.param4 }
  | .legacy => legacy

/-- An item of the pending mission that both messages can describe: it is not the one to resume at,
and its parameters are zero. The older message is sent with zeros for both. -/
def Plain (s : State) (seq : UInt16) : Prop :=
  let wp := slot s.missionPending seq.toUInt8.toNat
  seq.toUInt8 ≠ s.activeResumeIndex ∧
    wp.param1 = 0 ∧ wp.param2 = 0 ∧ wp.param3 = 0 ∧ wp.param4 = 0

section

variable {s s' : State}

/-- The answers agree for the plain items. -/
theorem answerItem_eq_iff (s : State) (seq : UInt16) :
    answerItem .int s seq = answerItem .legacy s seq ↔ Plain s seq := by
  unfold answerItem Plain
  dsimp only
  by_cases current : seq.toUInt8 = s.activeResumeIndex
  · simp [current]
  · simp [current]

/-- A `MISSION_ITEM_INT` describes the item. -/
theorem describedItem_int (txSequence system component : UInt8) (s : State) (seq : UInt16) :
    describedItem ⟨txSequence, .missionItemInt, missionItemIntPayload system component
      (slot s.missionPending seq.toUInt8.toNat) seq.toUInt8
      (seq.toUInt8 == s.activeResumeIndex)⟩ = some (answerItem .int s seq) := by
  unfold describedItem answerItem payloadItem missionItemIntPayload itemSeq
  rw [if_pos rfl]
  simp only [List.append_assoc, readU32LE_skip, readU32LE_bytes32, readU16LE_skip,
    readU16LE_skip16, readU16LE_bytes16, payloadByte_skip, payloadByte_skip16,
    Int32.toInt32_toUInt32]
  rfl

/-- A legacy `MISSION_ITEM` describes the rest of the item. -/
theorem describedItem_legacy (txSequence system component : UInt8) (s : State) (seq : UInt16) :
    describedItem ⟨txSequence, .missionItem, missionItemPayload system component
      (slot s.missionPending seq.toUInt8.toNat) seq.toUInt8⟩ = some (answerItem .legacy s seq) := by
  have other : ¬ MessageKind.missionItem = .missionItemInt := by decide
  have zeros : List.replicate 16 (0 : UInt8) =
      bytes32 0 ++ (bytes32 0 ++ (bytes32 0 ++ bytes32 0)) := rfl
  unfold describedItem answerItem payloadItem missionItemPayload itemSeq
  rw [if_neg other, if_pos rfl, zeros]
  simp only [List.append_assoc, readU32LE_skip, readU32LE_bytes32, readU16LE_skip,
    readU16LE_skip16, readU16LE_bytes16, payloadByte_skip, payloadByte_skip16]
  rfl

/-! ## Answers -/

/-- What a request does: the answer, if any, is sent, and the next request finds the bridge as
this one did. -/
structure Answers (kind : RequestKind) (request : ItemRequest) (s s' : State) : Prop where
  sends : ∃ frame, describedItem frame = some (answerItem kind s request.seq) ∧
    beginsMission (.tx frame) = false ∧
    s'.outputs = (if request.answered s then [.tx frame] else []) ++ s.outputs
  view : uploadView s' = uploadView s
  port : s'.serialOpen = s.serialOpen

/-- The item depends on the upload only. -/
theorem answerItem_of_view (view : uploadView s' = uploadView s) (kind : RequestKind)
    (seq : UInt16) : answerItem kind s' seq = answerItem kind s seq := by
  have pending : s'.missionPending = s.missionPending := congrArg UploadView.pending view
  have resume : s'.activeResumeIndex = s.activeResumeIndex := congrArg UploadView.resume view
  unfold answerItem
  rw [pending, resume]

/-- A request that the upload has an item for is answered when the line takes the item. -/
theorem answers_of_send {kind : RequestKind} {request : ItemRequest} {frame : RxFrame}
    {message : MessageKind} {payload : List UInt8} {noted : State}
    (seq : readU16LE frame.payload 0 = request.seq) (asked : answersRequest frame s = true)
    (fits : payload.length ≤ 52)
    (describes : describedItem ⟨noted.txSequence, message, payload⟩ =
      some (answerItem kind noted request.seq))
    (begins : beginsMission (.tx ⟨noted.txSequence, message, payload⟩) = false)
    (outputs : noted.outputs = s.outputs) (view : uploadView noted = uploadView s)
    (port : noted.serialOpen = s.serialOpen) :
    Answers kind request s (sendMavlinkV2 message payload (request.env.tx 0) noted).2 := by
  constructor
  · rw [answerItem_of_view view] at describes
    refine ⟨_, describes, begins, ?_⟩
    have sent := sendMavlinkV2_outputs message fits (request.env.tx 0) noted
    have takes' : takes (request.env.tx 0) noted = takes (request.env.tx 0) s := by
      rw [takes, takes, port]
    rw [answersRequest, seq] at asked
    rw [sent, takes', outputs, ItemRequest.answered, asked, Bool.true_and]
  · rw [sendMavlinkV2_view, view]
  · rw [(sendMavlinkV2_line message payload (request.env.tx 0) noted).1, port]

/-- A request that the upload has no item for is not answered. -/
theorem answers_of_silent (kind : RequestKind) {request : ItemRequest} {frame : RxFrame}
    (seq : readU16LE frame.payload 0 = request.seq) (silent : ¬ answersRequest frame s = true)
    (outputs : s'.outputs = s.outputs) (view : uploadView s' = uploadView s)
    (port : s'.serialOpen = s.serialOpen) : Answers kind request s s' := by
  have unanswered : request.answered s = false := by
    rw [answersRequest, seq, Bool.not_eq_true] at silent
    rw [ItemRequest.answered, silent, Bool.false_and]
  refine ⟨?_, view, port⟩
  rw [unanswered, outputs]
  cases kind with
  | int => exact ⟨_, describedItem_int 0 0 0 s request.seq, rfl, rfl⟩
  | legacy => exact ⟨_, describedItem_legacy 0 0 0 s request.seq, rfl, rfl⟩

/-- A request with a valid frame is answered by its kind. -/
theorem step_answers (kind : RequestKind) (request : ItemRequest) (s : State) :
    Answers kind request s (step s (request.input kind)) := by
  cases kind with
  | int =>
    obtain ⟨own, checks, long⟩ := of_decide_eq_true request.int_valid
    have handler : (MessageKind.missionRequestInt, handleMissionRequestInt) ∈ ownHandlers := by
      simp [ownHandlers]
    have steps : step s (request.input .int) = handleMissionRequestInt request.env request.int
        request.rxTimestampMs s := handleFrameComplete_own handler request.env own _ s
    rw [steps, handleMissionRequestInt, if_pos ⟨checks, long⟩]
    generalize request.rxTimestampMs + missionUploadTimeoutMs = deadline
    by_cases asked : answersRequest request.int s = true
    · rw [if_pos asked, request.int_seq, sendMissionItemInt]
      exact answers_of_send request.int_seq asked (missionItemIntPayload_fits _ _ _ _ _)
        (describedItem_int _ _ _ _ request.seq) rfl rfl rfl rfl
    · rw [if_neg asked]
      exact answers_of_silent .int request.int_seq asked rfl rfl rfl
  | legacy =>
    obtain ⟨own, checks, long⟩ := of_decide_eq_true request.legacy_valid
    have handler : (MessageKind.missionRequest, handleMissionRequest) ∈ ownHandlers := by
      simp [ownHandlers]
    have steps : step s (request.input .legacy) = handleMissionRequest request.env request.legacy
        request.rxTimestampMs s := handleFrameComplete_own handler request.env own _ s
    rw [steps, handleMissionRequest, if_pos ⟨checks, long⟩]
    generalize request.rxTimestampMs + missionUploadTimeoutMs = deadline
    by_cases asked : answersRequest request.legacy s = true
    · rw [if_pos asked, request.legacy_seq, sendMissionItem]
      exact answers_of_send request.legacy_seq asked (missionItemPayload_fits _ _ _ _)
        (describedItem_legacy _ _ _ _ request.seq) rfl rfl rfl rfl
    · rw [if_neg asked]
      exact answers_of_silent .legacy request.legacy_seq asked rfl rfl rfl

/-- Requests as they are received, each by its kind. -/
def inputsOf (mixed : List (ItemRequest × RequestKind)) : List Input :=
  mixed.map fun asked => asked.1.input asked.2

/-- The answer adds its item to those sent. -/
theorem Answers.sentItems {kind : RequestKind} {request : ItemRequest}
    (answers : Answers kind request s s') :
    sentItems s'.outputs =
      (if request.answered s then [answerItem kind s request.seq] else []) ++
        sentItems s.outputs := by
  obtain ⟨frame, describes, begins, outputs⟩ := answers.sends
  rw [outputs]
  cases request.answered s with
  | false => rfl
  | true =>
    have first : Bridge.sentItems (.tx frame :: s.outputs) =
        (describedItem frame).toList ++ Bridge.sentItems s.outputs := by
      unfold Bridge.sentItems
      rw [List.takeWhile_cons, begins]
      cases found : describedItem frame <;> simp [found]
    rw [if_pos rfl, if_pos rfl, List.singleton_append, first, describes]
    rfl

/-- The next request is answered as this one would have been. -/
theorem Answers.answered {kind : RequestKind} {request : ItemRequest}
    (answers : Answers kind request s s') (next : ItemRequest) :
    next.answered s' = next.answered s := by
  have upload : s'.missionUploadState = s.missionUploadState :=
    congrArg UploadView.state answers.view
  have count : s'.missionUploadWpCount = s.missionUploadWpCount :=
    congrArg UploadView.wpCount answers.view
  rw [ItemRequest.answered, upload, count, takes, answers.port, ItemRequest.answered, takes]

/-- The items sent in a session are those of its answered requests, in order. -/
theorem sentItems_run (mixed : List (ItemRequest × RequestKind)) (s : State) :
    sentItems (run step s (inputsOf mixed)).outputs =
      ((mixed.filter fun asked => asked.1.answered s).map fun asked =>
        answerItem asked.2 s asked.1.seq).reverse ++ sentItems s.outputs := by
  induction mixed generalizing s with
  | nil => rfl
  | cons first rest later =>
    have answers := step_answers first.2 first.1 s
    have steps : run step s (inputsOf (first :: rest)) =
        run step (step s (first.1.input first.2)) (inputsOf rest) := rfl
    rw [steps, later, answers.sentItems]
    simp only [answers.answered, answerItem_of_view answers.view, List.filter_cons]
    cases first.1.answered s <;> simp

/-- When all answered items are plain, it does not matter what they were requested with. -/
theorem answerItems_plain {mixed : List (ItemRequest × RequestKind)}
    (plain : ∀ request ∈ mixed.map Prod.fst, request.answered s = true → Plain s request.seq) :
    ((mixed.filter fun asked => asked.1.answered s).map fun asked =>
        answerItem asked.2 s asked.1.seq) =
      ((mixed.map Prod.fst).filter fun request => request.answered s).map fun request =>
        answerItem .int s request.seq := by
  rw [List.filter_map, List.map_map]
  apply List.map_congr_left
  intro asked among
  have ⟨member, answered⟩ := List.mem_filter.mp among
  have same := (answerItem_eq_iff s asked.1.seq).mpr
    (plain asked.1 (List.mem_map_of_mem member) answered)
  change answerItem asked.2 s asked.1.seq = answerItem .int s asked.1.seq
  cases asked.2 with
  | int => rfl
  | legacy => exact same.symm

/-- After requests of one kind, the mission has at an answered index the item of that kind. -/
theorem flownMission_run (kind : RequestKind) {requests : List ItemRequest}
    {request : ItemRequest} (among : request ∈ requests) (answered : request.answered s = true) :
    flownMission (run step s (inputsOf (requests.map fun asked => (asked, kind)))).outputs
      request.seq.toUInt8.toUInt16 = some (answerItem kind s request.seq) := by
  have named (seq : UInt16) : (answerItem kind s seq).seq = seq.toUInt8.toUInt16 := by
    cases kind <;> rfl
  have told {seq : UInt16} (same : seq.toUInt8 = request.seq.toUInt8) :
      answerItem kind s seq = answerItem kind s request.seq := by
    unfold answerItem
    rw [same]
  rw [flownMission, sentItems_run, List.find?_append]
  generalize sent : List.reverse _ = items
  have member : ∀ item, item ∈ items ↔ ∃ other ∈ requests, other.answered s = true ∧
      answerItem kind s other.seq = item := by
    intro item
    rw [← sent]
    simp [and_assoc]
  have present : answerItem kind s request.seq ∈ items :=
    (member _).mpr ⟨request, among, answered, rfl⟩
  have found : (items.find? fun item => item.seq == request.seq.toUInt8.toUInt16).isSome := by
    rw [List.find?_isSome]
    exact ⟨_, present, by rw [named, beq_self_eq_true]⟩
  have ⟨item, first⟩ := Option.isSome_iff_exists.mp found
  have ⟨other, _, _, same⟩ := (member item).mp (List.mem_of_find?_eq_some first)
  have index := List.find?_some first
  rw [← same, named, beq_iff_eq] at index
  rw [first, Option.some_or, ← same, told (UInt8.toUInt16_inj.mp index)]

end

/-- Both messages are answered with the same item exactly when it is plain, if they are
answered. -/
theorem answers_agree_iff (s : State) (request : ItemRequest) :
    sentItems (step s (request.input .int)).outputs =
        sentItems (step s (request.input .legacy)).outputs ↔
      (request.answered s = true → Plain s request.seq) := by
  rw [(step_answers .int request s).sentItems, (step_answers .legacy request s).sentItems,
    List.append_left_inj]
  cases request.answered s with
  | false => simp
  | true => simp [answerItem_eq_iff]

/-- In every state, both messages are answered with the same item exactly when the item is plain, if
they are answered. After every series of requests the flight controller has the same mission,
however the two messages are mixed, exactly when all answered items are plain. The older message
leaves out the parameters and the mark of the current item. -/
theorem requests_agree_iff (s : State) :
    (∀ request : ItemRequest,
      sentItems (step s (request.input .int)).outputs =
          sentItems (step s (request.input .legacy)).outputs ↔
        (request.answered s = true → Plain s request.seq)) ∧
    ∀ requests : List ItemRequest,
      (∀ mixed mixed', mixed.map Prod.fst = requests → mixed'.map Prod.fst = requests →
        flownMission (run step s (inputsOf mixed)).outputs =
          flownMission (run step s (inputsOf mixed')).outputs) ↔
        ∀ request ∈ requests, request.answered s = true → Plain s request.seq := by
  refine ⟨answers_agree_iff s, fun requests => ⟨?_, ?_⟩⟩
  · intro agree request among answered
    have kinds (kind : RequestKind) :
        (requests.map fun asked => (asked, kind)).map Prod.fst = requests := by
      rw [List.map_map]
      exact List.map_id requests
    have same := agree _ _ (kinds .int) (kinds .legacy)
    have items := congrFun same request.seq.toUInt8.toUInt16
    rw [flownMission_run .int among answered, flownMission_run .legacy among answered] at items
    exact (answerItem_eq_iff s request.seq).mp (Option.some.inj items)
  · rintro plain mixed mixed' rfl asked
    have plain' := plain
    rw [← asked] at plain'
    funext seq
    rw [flownMission, flownMission, sentItems_run, sentItems_run, answerItems_plain plain,
      answerItems_plain plain', asked]

/-- A mission of one waypoint, at which the vehicle waits for five seconds, is uploaded. -/
def waitingUpload : State :=
  run step (initialState .default) (connection ++
    [routeUpdate 2 1 [⟨16, 0x40A00000, 0, 0, 0, 370000000, 1270000000, 0x41F00000⟩] 2000,
      .checkUpload 2300 (Env.at 2300)])

/-- The request for its waypoint. -/
def waitingRequest : ItemRequest where
  seq := 0
  int := RxFrame.of .missionRequestInt [0, 0, 255, 190, 0]
  legacy := RxFrame.of .missionRequest [0, 0, 255, 190, 0]
  rxTimestampMs := 2310
  env := Env.at 2310
  int_valid := by decide +kernel
  legacy_valid := by decide +kernel
  int_seq := by decide
  legacy_seq := by decide

/-- The five seconds are lost when the waypoint is asked for with the older message. -/
theorem waiting_lost :
    sentItems (step waitingUpload (waitingRequest.input .int)).outputs ≠
        sentItems (step waitingUpload (waitingRequest.input .legacy)).outputs ∧
      (flownMission (step waitingUpload (waitingRequest.input .int)).outputs 0).map
        (fun item => (item.param1, item.current)) = some (0x40A00000, 1) ∧
      (flownMission (step waitingUpload (waitingRequest.input .legacy)).outputs 0).map
        (fun item => (item.param1, item.current)) = some (0, 0) := by
  refine ⟨fun same => ?_, by decide +kernel, by decide +kernel⟩
  have plain := (answers_agree_iff waitingUpload waitingRequest).mp same (by decide +kernel)
  exact absurd plain.1 (by decide +kernel)

end CfsTelemetry.Bridge
