import CfsTelemetry.Bridge.Edits
import CfsTelemetry.Bridge.Success
import CfsTelemetry.Flight.Commands
import CfsTelemetry.Library.Provenance
import CfsTelemetry.Uplink.Gating
import CfsTelemetry.Uplink.RoutePayload

/-!
# Missions from the ground to the flight controller

The active mission of the bridge is what route updates of the ground have made of it: some of the
edits that the uplink application has admitted, in their order, one applied to what the ones
before it have left. The mission on its way to the flight controller is one as well. So no
waypoint is ever sent that did not come from an admitted route update, and all of them may be
flown.
-/
namespace CfsTelemetry.Flight

open Run Slots Provenance
open Uplink (RouteEdit Flyable)

/-- The edit that an operation, an index or a count, and waypoints stand for. -/
def readEdit (routeType indexOrCount : UInt8) (waypoints : WaypointArray) : RouteEdit :=
  match Bridge.routeOp routeType with
  | .replace => .replace (held indexOrCount.toNat waypoints)
  | .add => .add (held indexOrCount.toNat waypoints)
  | .delete => .delete indexOrCount
  | .modify => .modify indexOrCount (slot waypoints 0)

/-- The mission that an edit makes of a mission. -/
def revise (mission : List Waypoint) : RouteEdit → List Waypoint
  | .replace waypoints => waypoints.take routeMaxWaypoints
  | .add waypoints => (mission ++ waypoints).take routeMaxWaypoints
  | .delete index => mission.eraseIdx index.toNat
  | .modify index waypoint => mission.set index.toNat waypoint

/-- The edit that a ground command orders. -/
def groundEdit (cmd : ProcessUplinkCmd) : Option RouteEdit :=
  if Uplink.CommandClass.ofByte cmd.commandClass = some .routeUpdate then
    (Uplink.parseRouteUpdatePayload cmd).map fun payload =>
      readEdit payload.routeType payload.waypointCount payload.waypoints
  else none

/-- The edits that a message for the bridge orders. -/
def BridgeOrder.edits : BridgeOrder → List RouteEdit
  | routeUpdate msg => [readEdit msg.routeType msg.waypointCount msg.waypoints]
  | _ => []

/-- The edits that an input of the bridge orders. -/
def inputEdits : Bridge.Input → List RouteEdit
  | .routeUpdate msg _ => [readEdit msg.routeType msg.waypointCount msg.waypoints]
  | _ => []

/-- The bridge makes of a mission what the edit of a route update does. -/
theorem editedMission_eq (msg : RouteUpdate) (mission : List Waypoint) :
    Bridge.editedMission msg mission =
      revise mission (readEdit msg.routeType msg.waypointCount msg.waypoints) := by
  unfold Bridge.editedMission readEdit
  cases Bridge.routeOp msg.routeType <;> rfl

/-- The array of a message holds its waypoints. -/
theorem held_routeArray {waypoints : List Waypoint} (fits : waypoints.length ≤ 37) :
    held waypoints.length.toUInt8.toNat (Uplink.routeArray waypoints) = waypoints := by
  have count : waypoints.length.toUInt8.toNat = waypoints.length :=
    UInt8.toNat_ofNat_of_lt' (by change _ < 256; omega)
  rw [count]
  apply List.ext_getElem?
  intro index
  by_cases inside : index < waypoints.length
  · have available : index < routeMaxWaypoints := by
      unfold routeMaxWaypoints
      omega
    simp [held, Uplink.routeArray, inside, available]
  · simp [held, inside]

/-- The operation to replace. -/
theorem readEdit_replace (count : UInt8) (waypoints : WaypointArray) :
    readEdit 1 count waypoints = .replace (held count.toNat waypoints) := rfl

/-- The operation to add. -/
theorem readEdit_add (count : UInt8) (waypoints : WaypointArray) :
    readEdit 2 count waypoints = .add (held count.toNat waypoints) := rfl

/-- The operation to modify. -/
theorem readEdit_modify (index : UInt8) (waypoints : WaypointArray) :
    readEdit 4 index waypoints = .modify index (slot waypoints 0) := rfl

/-- The parsed form of a valid edit stands for the edit. -/
theorem readEdit_payload {edit : RouteEdit} (valid : edit.Valid) (reserved : UInt8) :
    readEdit (edit.payload reserved).routeType (edit.payload reserved).waypointCount
      (edit.payload reserved).waypoints = edit := by
  cases edit with
  | replace waypoints =>
    have array := held_routeArray (valid.count (.inl rfl)).2
    exact (readEdit_replace _ _).trans (congrArg _ array)
  | add waypoints =>
    have array := held_routeArray (valid.count (.inr rfl)).2
    exact (readEdit_add _ _).trans (congrArg _ array)
  | delete index => rfl
  | modify index waypoint =>
    have first : slot (Uplink.routeArray [waypoint]) 0 = waypoint := by
      rw [slot, Uplink.routeArray, Vector.getElem?_eq_getElem (by decide), Vector.getElem_ofFn]
      rfl
    exact (readEdit_modify _ _).trans (congrArg _ first)

/-- The edit that an admitted command orders is a valid one. -/
theorem groundEdit_valid {cmd : ProcessUplinkCmd} {s : Uplink.State} {edit : RouteEdit}
    (admits : Uplink.Admits s cmd) (orders : groundEdit cmd = some edit) : edit.Valid := by
  obtain ⟨named, parsed⟩ := Option.ite_none_right_eq_some.mp orders
  obtain ⟨payload, found, same⟩ := Option.map_eq_some_iff.mp parsed
  obtain ⟨original, reserved, valid, -, rfl⟩ :=
    Uplink.parseRouteUpdatePayload_sound (Uplink.valid_fields admits.valid).2.1 found
  rw [readEdit_payload valid] at same
  rw [← same]
  exact valid

/-- A waypoint of a revised mission is one of the mission before, or of the edit. -/
theorem mem_revise {mission : List Waypoint} {edit : RouteEdit} {waypoint : Waypoint}
    (mem : waypoint ∈ revise mission edit) : waypoint ∈ mission ∨ waypoint ∈ edit.waypoints := by
  cases edit with
  | replace waypoints => exact .inr (List.mem_of_mem_take mem)
  | add waypoints => exact List.mem_append.mp (List.mem_of_mem_take mem)
  | delete index => exact .inl (List.mem_of_mem_eraseIdx mem)
  | modify index other =>
    rcases List.mem_or_eq_of_mem_set mem with mem | same
    · exact .inl mem
    · exact .inr (List.mem_singleton.mpr same)

/-- The message of a command orders the edit that the command does. -/
theorem edits_agree :
    Agrees (through forBridge BridgeOrder.edits) fun cmd => (groundEdit cmd).toList := by
  intro env cmd s message asked
  obtain ⟨commandClass, named, sends⟩ := Uplink.request_sends asked
  unfold groundEdit
  dsimp only
  rw [named]
  cases sends with
  | routeUpdate parsed =>
    rw [if_pos rfl, parsed]
    rfl
  | counterMgmt scope => cases scope <;> rfl
  | _ => rfl

/-- A message of the pipe orders the edits that its input does. -/
theorem edits_input (order : BridgeOrder) (met : BridgeEnv) :
    inputEdits (order.input met) = order.edits := by
  cases order with
  | control cmd => cases cmd <;> rfl
  | _ => rfl

/-! ## The bridge -/

/-- A mission that some edits have made of none, in their order. -/
def MadeOf (edits : List RouteEdit) (mission : List Waypoint) : Prop :=
  MadeFrom revise (· = []) edits mission

/-- No mission is made of any edits. -/
theorem madeOf_nil (edits : List RouteEdit) : MadeOf edits [] := by
  apply MadeFrom.self
  rfl

/-- A waypoint of a mission is one of the edits that made it. -/
theorem waypoint_of_edit {edits : List RouteEdit} {mission : List Waypoint}
    (made : MadeOf edits mission) :
    ∀ waypoint ∈ mission, ∃ edit ∈ edits, waypoint ∈ edit.waypoints := by
  apply MadeFrom.invariant made fun mission =>
    ∀ waypoint ∈ mission, ∃ edit ∈ edits, waypoint ∈ edit.waypoints
  · rintro start rfl waypoint mem
    cases mem
  · intro mission edit among before waypoint mem
    rcases mem_revise mem with earlier | own
    · exact before waypoint earlier
    · exact ⟨edit, among, own⟩

/-- The missions of the bridge are what edits have made. -/
structure Missions (edits : List RouteEdit) (s : Bridge.State) : Prop where
  /-- The counts of waypoints are within the arrays. -/
  inRange : Bridge.InRange s
  /-- Edits have made the active mission. -/
  active : MadeOf edits (Bridge.activeList s)
  /-- Edits have made the mission on its way. -/
  pending : s.missionUploadState ≠ .idle → MadeOf edits (Bridge.pendingList s)

/-- A transfer is idle exactly when the upload is. -/
theorem phase_eq_idle (s : Bridge.State) :
    (Bridge.plan s).phase = .idle ↔ s.missionUploadState = .idle := by
  change s.missionUploadState.phase = .idle ↔ _
  cases s.missionUploadState <;> simp [Bridge.UploadState.phase]

/-- An input keeps the missions of the bridge what edits have made. -/
theorem Missions.step {edits : List RouteEdit} {s : Bridge.State} (missions : Missions edits s)
    (input : Bridge.Input) : Missions (edits ++ inputEdits input) (Bridge.step s input) := by
  obtain ⟨frames, moves, -⟩ := Bridge.step_moves missions.inRange input
  have enabled := Bridge.uploadAction_enabled missions.inRange input
  have committed : Bridge.activeList (Bridge.step s input) =
      ((Bridge.plan s).step (Bridge.uploadAction s input)).committed :=
    congrArg Transfer.committed moves.plan
  have pending : Bridge.pendingList (Bridge.step s input) =
      ((Bridge.plan s).step (Bridge.uploadAction s input)).pending :=
    congrArg Transfer.pending moves.plan
  have phase : (Bridge.plan (Bridge.step s input)).phase =
      ((Bridge.plan s).step (Bridge.uploadAction s input)).phase :=
    congrArg Transfer.phase moves.plan
  have busy : (Bridge.plan s).phase ≠ .idle → MadeOf (edits ++ inputEdits input)
      (Bridge.plan s).pending := fun busy =>
    (missions.pending fun idle => busy ((phase_eq_idle s).mpr idle)).idle _
  refine ⟨moves.inRange, ?_, ?_⟩
  · rw [committed]
    cases action : Bridge.uploadAction s input with
    | accept =>
      rw [action] at enabled
      refine busy fun idle => ?_
      rw [show (Bridge.plan s).phase = .offered from enabled] at idle
      cases idle
    | _ => exact missions.active.idle _
  · have made : ((Bridge.plan s).step (Bridge.uploadAction s input)).phase ≠ .idle →
        MadeOf (edits ++ inputEdits input)
          ((Bridge.plan s).step (Bridge.uploadAction s input)).pending := by
      cases action : Bridge.uploadAction s input with
      | start edit =>
        intro
        obtain ⟨msg, env, rfl, -, rfl⟩ := Bridge.uploadAction_start action
        change MadeOf _ ((Bridge.routeEdit msg s).apply (Bridge.activeList s))
        rw [Bridge.routeEdit_apply missions.inRange, editedMission_eq]
        exact missions.active.applied _
      | offer =>
        rw [action] at enabled
        exact fun _ => busy enabled
      | accept => exact fun impossible => absurd rfl impossible
      | drop => exact fun impossible => absurd rfl impossible
      | answer index => exact busy
      | remark mark => exact busy
      | silent => exact busy
    intro busyAfter
    rw [pending]
    refine made fun idle => busyAfter ((phase_eq_idle _).mp ?_)
    rw [phase, idle]

/-- More edits are taken, and none of them is applied. -/
theorem Missions.more {edits : List RouteEdit} {s : Bridge.State} (missions : Missions edits s)
    (new : List RouteEdit) : Missions (edits ++ new) s :=
  ⟨missions.inRange, missions.active.idle new, fun busy => (missions.pending busy).idle new⟩

/-- A bridge that starts has no mission. -/
theorem missions_initial (edits : List RouteEdit) (config : Bridge.ConfigParams) :
    Missions edits (Bridge.initialState config) :=
  ⟨Bridge.initialState_inRange config, madeOf_nil edits, fun busy => absurd rfl busy⟩

/-! ## Over a run -/

/-- What an input of the bridge orders is what the message taken does. -/
theorem inputEdits_eq {s : System} {event : Event} {input : Bridge.Input}
    (own : bridgeInput s event = some input) :
    inputEdits input = (takenBridge s event).flatMap BridgeOrder.edits := by
  cases event with
  | bridge alone other bus =>
    cases own
    cases input with
    | routeUpdate msg env => cases other
    | _ => rfl
  | takeBridge met bus =>
    cases pipe : s.toBridge with
    | nil => simp [bridgeInput, pipe] at own
    | cons order rest =>
      rw [bridgeInput, pipe] at own
      cases own
      rw [edits_input, takenBridge, pipe]
      exact (List.append_nil _).symm
  | _ => cases own

/-- The missions of the bridge are what the edits taken have made. -/
theorem run_missions (boot : Boot) (events : List Event) :
    Missions ((project step takenBridge boot.system events).flatMap BridgeOrder.edits)
      (run step boot.system events).bridge := by
  induction events using List.reverseRecOn with
  | nil => exact missions_initial _ boot.config
  | append_singleton before event previous =>
    rw [project_snoc, run_snoc, List.flatMap_append]
    generalize run step boot.system before = s at previous ⊢
    cases input : bridgeInput s event with
    | none =>
      rcases bridge_of_none input with same | ⟨config, -, same⟩
      · rw [same]
        exact previous.more _
      · rw [same]
        exact missions_initial _ config
    | some taken =>
      obtain ⟨rest, -, moved⟩ := step_bridge input
      rw [moved, ← inputEdits_eq input]
      exact previous.step taken

/-- The edits of the admitted commands. -/
def admittedEdits (boot : Boot) (events : List Event) : List RouteEdit :=
  (project step admitted boot.system events).filterMap groundEdit

/-- The edits taken are a part of those of the admitted commands. -/
theorem taken_edits (boot : Boot) (events : List Event) :
    ((project step takenBridge boot.system events).flatMap BridgeOrder.edits).Sublist
      (admittedEdits boot events) := by
  rw [admittedEdits, List.filterMap_eq_flatMap_toList]
  exact taken_bridge edits_agree (fun cmd => rfl) boot events

/-- The edits of the admitted commands are valid. -/
theorem admittedEdits_valid {boot : Boot} {events : List Event} {edit : RouteEdit}
    (mem : edit ∈ admittedEdits boot events) : edit.Valid := by
  obtain ⟨cmd, among, orders⟩ := List.mem_filterMap.mp mem
  obtain ⟨before, event, -, -, admits⟩ := Channel.mem_project.mp among
  rw [admitted, List.mem_filter, decide_eq_true_eq] at admits
  exact groundEdit_valid admits.2 orders

/-- The active mission of the bridge, and the one on its way to the flight controller, are what
some edits of admitted commands have made, in their order; all of these edits are valid. -/
theorem missions_from_ground (boot : Boot) (events : List Event) :
    let s := (run step boot.system events).bridge
    (∀ edit ∈ admittedEdits boot events, edit.Valid) ∧
      MadeOf (admittedEdits boot events) (Bridge.activeList s) ∧
      (s.missionUploadState ≠ .idle →
        MadeOf (admittedEdits boot events) (Bridge.pendingList s)) := by
  intro s
  have missions := run_missions boot events
  have part := taken_edits boot events
  exact ⟨fun edit => admittedEdits_valid, missions.active.of_sublist part,
    fun busy => (missions.pending busy).of_sublist part⟩

/-- A frame that announces a mission, or carries one of its waypoints. -/
def Announces (mission : List Waypoint) (frame : Bridge.TxFrame) : Prop :=
  (frame.kind = .missionCount ∧ (Bridge.readU16LE frame.payload 0).toNat = mission.length) ∨
    ∃ index waypoint, frame.CarriesItem index waypoint ∧ mission[index]? = some waypoint ∧
      Flyable waypoint

/-- The frames of an upload that an event sends are about a mission that edits of admitted
commands have made. -/
def UploadsAdmitted (boot : Boot) (before : List Event) (event : Event) : Prop :=
  let s := run step boot.system before
  ∀ frame ∈ Bridge.sentFrames s.bridge (step s event).bridge,
    ∃ mission, MadeOf (admittedEdits boot before) mission ∧ Announces mission frame

/-- The frames of an upload that an input of the bridge sends are about the pending mission. -/
theorem sentFrames_pending {s : Bridge.State} (inRange : Bridge.InRange s) (input : Bridge.Input)
    {frame : Bridge.TxFrame} (sent : frame ∈ Bridge.sentFrames s (Bridge.step s input)) :
    s.missionUploadState ≠ .idle ∧
      ((frame.kind = .missionCount ∧
        (Bridge.readU16LE frame.payload 0).toNat = (Bridge.pendingList s).length) ∨
      ∃ index waypoint, frame.CarriesItem index waypoint ∧
        (Bridge.pendingList s)[index]? = some waypoint) := by
  obtain ⟨frames, moves, carries⟩ := Bridge.step_moves inRange input
  have enabled := Bridge.uploadAction_enabled inRange input
  rw [moves.emits.sentFrames] at sent
  cases input with
  | checkUpload nowMs env =>
    simp only [Bridge.Carries] at carries
    split at carries
    · rename_i offers
      rw [show Bridge.uploadAction s (.checkUpload nowMs env) = .offer from offers] at enabled
      refine ⟨fun idle => enabled ((phase_eq_idle s).mpr idle), .inl ?_⟩
      rcases carries with rfl | ⟨seq, rfl⟩
      · cases sent
      · rw [List.mem_singleton.mp sent]
        refine ⟨rfl, ?_⟩
        change (Bridge.readU16LE (Words.bytes16 s.missionUploadWpCount.toUInt16 ++ _) 0).toNat = _
        rw [Bridge.readU16LE_bytes16, UInt8.toNat_toUInt16, Bridge.pendingList,
          length_held inRange.pending]
    · rw [carries] at sent
      cases sent
  | frame request rxTimestampMs env =>
    simp only [Bridge.Carries, Bridge.frameTx] at carries
    rw [carries] at sent
    cases action : Bridge.frameAction request s with
    | answer index =>
      rw [action] at sent
      dsimp only at sent
      split at sent
      · have answers : Bridge.answersRequest request s = true := by
          unfold Bridge.frameAction at action
          repeat' split at action
          all_goals first
            | assumption
            | cases action
        obtain ⟨active, inside⟩ := of_decide_eq_true answers
        have small : (Bridge.readU16LE request.payload 0).toNat < 256 := by
          have bound := s.missionUploadWpCount.toNat_lt
          omega
        rw [List.mem_singleton.mp sent]
        refine ⟨fun idle => ?_, .inr ⟨_, _, Bridge.itemFrame_carries request rfl small, ?_⟩⟩
        · rw [active] at idle
          cases idle
        · rw [Bridge.pendingList, getElem?_held_of_lt inRange.pending inside]
      · cases sent
    | _ =>
      rw [action] at sent
      cases sent
  | _ =>
    rw [show frames = [] from carries] at sent
    cases sent

/-- Over every run, the frames of an upload that are sent are about missions that edits of admitted
commands have made: `MISSION_COUNT` announces their length, and each item carries a waypoint at
its place that may be flown. -/
theorem uploads_from_ground (boot : Boot) (events : List Event) :
    Each (UploadsAdmitted boot) events := by
  intro before event after _
  have missions := run_missions boot before
  have part := taken_edits boot before
  unfold UploadsAdmitted
  dsimp only
  generalize run step boot.system before = s at missions ⊢
  intro frame sent
  cases input : bridgeInput s event with
  | none =>
    have silent : Bridge.sentFrames s.bridge (step s event).bridge = [] := by
      rcases bridge_of_none input with same | ⟨config, -, same⟩
      · rw [same, Bridge.sentFrames, Nat.sub_self]
        rfl
      · have initial : (Bridge.initialState config).outputs = [] := rfl
        rw [same, Bridge.sentFrames, initial, List.take_nil]
        rfl
    rw [silent] at sent
    cases sent
  | some taken =>
    obtain ⟨rest, -, moved⟩ := step_bridge input
    rw [moved] at sent
    obtain ⟨busy, about⟩ := sentFrames_pending missions.inRange taken sent
    have made := (missions.pending busy).of_sublist part
    refine ⟨Bridge.pendingList s.bridge, made, ?_⟩
    rcases about with counts | ⟨index, waypoint, carries, here⟩
    · exact .inl counts
    · refine .inr ⟨index, waypoint, carries, here, ?_⟩
      obtain ⟨edit, mem, own⟩ := waypoint_of_edit made waypoint (List.mem_of_getElem? here)
      exact (admittedEdits_valid mem).flyable waypoint own

end CfsTelemetry.Flight
