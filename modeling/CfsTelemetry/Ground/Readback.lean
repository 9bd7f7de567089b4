import CfsTelemetry.Ground.Assembler
import CfsTelemetry.Ground.Delivery

/-!
# Delivery of a route readback

A snapshot of a route goes down page by page, one page with each frame that is written whole,
whatever else happens to the application. The ground puts these pages together to the list of
the snapshot.
-/
namespace CfsTelemetry.Ground

open Lora Pages Run

/-- Something that happens to the application: a message of the pipe, or another part of a
cycle. -/
inductive Turn where
  | message (delivery : Delivery)
  | act (input : Input)

/-- What the application does when something happens to it. -/
def turn (app : App) : Turn → App
  | .message delivery => deliver app delivery
  | .act input => { app with data := step app.data input }

/-- A snapshot of a route (`LORA_TDM_APP_RouteSnapshotTlm_t`). -/
structure Snapshot where
  routeType : UInt8
  waypointCount : UInt8
  waypoints : WaypointArray

/-- The list of a snapshot, as pages carry it. An array has no more than its waypoints. -/
def Snapshot.list (snapshot : Snapshot) : List PageWaypoint :=
  (snapshot.waypoints.toList.take snapshot.waypointCount.toNat).map pageWaypoint

/-- The number of pages of a snapshot, two waypoints to a page. -/
def Snapshot.pageCount (snapshot : Snapshot) : Nat := (snapshot.list.length + 1) / 2

/-- The page of a number. -/
def Snapshot.page (snapshot : Snapshot) (number : Nat) : Page where
  routeType := snapshot.routeType
  pageIndex := UInt8.ofNat number
  totalPages := UInt8.ofNat snapshot.pageCount
  waypoints := Pages.page 2 snapshot.list number

/-- The message with a snapshot. -/
def Snapshot.packet (snapshot : Snapshot) : Packet :=
  .telemetry (.routeSnapshot snapshot.routeType snapshot.waypointCount snapshot.waypoints)

/-- The snapshot that comes with a message. -/
def telemetrySnapshot : Telemetry → Option Snapshot
  | .routeSnapshot routeType waypointCount waypoints => some ⟨routeType, waypointCount, waypoints⟩
  | _ => none

/-- The snapshot that the application takes in a turn. -/
def snapshotOf : Turn → Option Snapshot
  | .message ⟨_, .telemetry message⟩ => telemetrySnapshot message
  | .act (.packet (.telemetry message)) => telemetrySnapshot message
  | _ => none

/-- The state in which a frame is built that is written whole in a turn. -/
def writes (app : App) : Turn → List State
  | .act (.transmit env) =>
    if app.data.serialOpen = true ∧ app.data.useV2Downlink = true ∧ env.writeError = none then
      [app.data]
    else []
  | _ => []

/-- The frame of an output. -/
def frameOfOutput : Output → Option (List UInt8)
  | .dl2 frame => some frame
  | _ => none

/-- The frames that were written, oldest first. -/
def dl2Frames (app : App) : List (List UInt8) := app.data.outputs.reverse.filterMap frameOfOutput

/-- What pages are made of. -/
def pageData (s : State) : (UInt8 × WaypointArray) × (UInt8 × UInt8 × UInt8 × Bool) :=
  ((s.routeType, s.routeWaypoints), s.readback)

/-- A part of a cycle that is no transmission leaves pages and frames as they are. -/
theorem step_pageData {s : State} {input : Input}
    (silent : ∀ env, input ≠ .transmit env) (undisturbed : snapshotOf (.act input) = none) :
    pageData (step s input) = pageData s ∧
      (step s input).outputs.reverse.filterMap frameOfOutput =
        s.outputs.reverse.filterMap frameOfOutput := by
  cases input with
  | packet message =>
    cases message with
    | uplinkStatus tlm => exact ⟨rfl, rfl⟩
    | telemetry message =>
      cases message with
      | routeSnapshot => cases undisturbed
      | _ => exact ⟨rfl, rfl⟩
  | transmit env => exact absurd rfl (silent env)
  | byte value now taken =>
    have kept := congrArg pageData (receiveByte_unreceived value now taken s)
    have received := (receiveByte_receives value now taken s).outputs
    refine ⟨kept, ?_⟩
    unfold step
    dsimp only
    rw [received, List.reverse_append, List.filterMap_append]
    cases byteReception value taken s <;> simp [Reception.outputs, frameOfOutput]
  | reopen | startWindow | readFailure | endWindow | judgeLink =>
    exact ⟨step_keeps pageData (fun _ _ => rfl) rfl s,
      step_keeps (·.outputs.reverse.filterMap frameOfOutput) (fun _ _ => rfl) rfl s⟩

/-- What the written frame leaves of a state: the frame is noted, and a readback goes on. -/
def afterFrame (s : State) : State := advancePage (noteSent (.dl2 (frameOf s)) s)

/-- What a turn does to a readback: it takes a snapshot, writes a frame, or does neither. -/
inductive Does (app app' : App) (t : Turn) : Prop where
  | takes (snapshot : Snapshot) (comes : snapshotOf t = some snapshot)
      (unwritten : writes app t = [])
      (after : app'.data = processRouteSnapshot snapshot.routeType snapshot.waypointCount
        snapshot.waypoints app.data)
  | writes (undisturbed : snapshotOf t = none) (written : writes app t = [app.data])
      (after : app'.data = afterFrame app.data)
  | neither (undisturbed : snapshotOf t = none) (unwritten : Ground.writes app t = [])
      (kept : pageData app'.data = pageData app.data)
      (silent : dl2Frames app' = dl2Frames app)

/-- A message that is no snapshot leaves pages and frames as they are. -/
theorem deliver_pageData {app : App} {delivery : Delivery}
    (undisturbed : snapshotOf (.message delivery) = none) :
    pageData (deliver app delivery).data = pageData app.data ∧
      (deliver app delivery).data.outputs = app.data.outputs := by
  have ⟨env, packet⟩ := delivery
  have handled := processPacket_handled env packet app
  rw [deliver]
  generalize (processPacket env packet app).data = s at handled ⊢
  cases handled with
  | taken message own =>
    cases packet with
    | telemetry content =>
      cases own
      cases content with
      | routeSnapshot => cases undisturbed
      | _ => exact ⟨rfl, rfl⟩
    | uplinkStatus tlm =>
      cases own
      exact ⟨rfl, rfl⟩
    | _ => cases own
  | nothing | protocol | counters => exact ⟨rfl, rfl⟩

/-- With an open port, binary downlinks and a write that succeeds, the frame is written. -/
theorem runTx_written {env : TxEnv} {s : State} (opened : s.serialOpen = true)
    (binary : s.useV2Downlink = true) (whole : env.writeError = none) :
    runTx env s = afterFrame s := by
  unfold runTx
  rw [if_neg (by rw [opened]; decide), if_pos binary, buildDl2Frame_dl2Body, whole]
  rfl

/-- Otherwise a transmission leaves pages and frames as they are. -/
theorem runTx_unwritten {env : TxEnv} {s : State}
    (fails : ¬ (s.serialOpen = true ∧ s.useV2Downlink = true ∧ env.writeError = none)) :
    pageData (runTx env s) = pageData s ∧
      (runTx env s).outputs.reverse.filterMap frameOfOutput =
        s.outputs.reverse.filterMap frameOfOutput := by
  have line (type : UInt8) :
      (noteSent (.line type) s).outputs.reverse.filterMap frameOfOutput =
        s.outputs.reverse.filterMap frameOfOutput := by
    unfold noteSent
    rw [List.reverse_cons, List.filterMap_append]
    exact List.append_nil _
  unfold runTx
  by_cases closed : s.serialOpen = false
  · rw [if_pos closed]
    exact ⟨rfl, rfl⟩
  · rw [if_neg closed]
    have opened : s.serialOpen = true := Bool.eq_true_of_not_eq_false closed
    by_cases binary : s.useV2Downlink = true
    · rw [if_pos binary, buildDl2Frame_dl2Body]
      dsimp only
      cases error : env.writeError with
      | none => exact absurd ⟨opened, binary, error⟩ fails
      | some errno => exact ⟨rfl, rfl⟩
    · rw [if_neg binary]
      dsimp only
      by_cases fits : env.lineFits = true
      · rw [if_pos fits]
        cases env.writeError with
        | none => exact ⟨rfl, line _⟩
        | some errno => exact ⟨rfl, rfl⟩
      · rw [if_neg fits]
        exact ⟨rfl, rfl⟩

/-- What a turn does to a readback. -/
theorem turn_does (app : App) (t : Turn) : Does app (turn app t) t := by
  cases taken : snapshotOf t with
  | some snapshot =>
    cases t with
    | message delivery =>
      obtain ⟨env, packet⟩ := delivery
      cases packet with
      | telemetry message =>
        cases message with
        | routeSnapshot routeType waypointCount waypoints =>
          cases taken
          exact .takes _ rfl rfl rfl
        | _ => cases taken
      | _ => cases taken
    | act input =>
      cases input with
      | packet message =>
        cases message with
        | uplinkStatus tlm => cases taken
        | telemetry message =>
          cases message with
          | routeSnapshot routeType waypointCount waypoints =>
            cases taken
            exact .takes _ rfl rfl rfl
          | _ => cases taken
      | _ => cases taken
  | none =>
    cases t with
    | message delivery =>
      obtain ⟨kept, silent⟩ := @deliver_pageData app delivery taken
      refine .neither taken rfl kept ?_
      unfold dl2Frames
      rw [show (turn app (.message delivery)).data.outputs = app.data.outputs from silent]
    | act input =>
      by_cases transmits : ∃ env, input = .transmit env
      · obtain ⟨env, same⟩ := transmits
        subst same
        by_cases whole : app.data.serialOpen = true ∧ app.data.useV2Downlink = true ∧
            env.writeError = none
        · refine .writes taken (if_pos whole) ?_
          exact runTx_written whole.1 whole.2.1 whole.2.2
        · obtain ⟨kept, silent⟩ := runTx_unwritten whole
          exact .neither taken (if_neg whole) kept silent
      · have other : ∀ env, input ≠ .transmit env := fun env same => transmits ⟨env, same⟩
        have unwritten : writes app (.act input) = [] := by
          cases input with
          | transmit env => exact absurd rfl (other env)
          | _ => rfl
        obtain ⟨kept, silent⟩ := step_pageData other taken
        exact .neither taken unwritten kept silent

/-! ## Sending the pages of a snapshot -/

/-- The state when a number of frames was written since a snapshot came: the next page has that
number, if there is one. -/
structure Reading (snapshot : Snapshot) (number : Nat) (s : State) : Prop where
  sound : PagesSound s
  routeType : s.routeType = snapshot.routeType
  route : routeOf s = snapshot.list
  pending : s.routeReadbackPending = decide (number < snapshot.pageCount)
  index : number < snapshot.pageCount → s.routePageIndex.toNat = number

section

variable {snapshot : Snapshot} {number : Nat} {s s' : State}

/-- The application counts the pages of a snapshot. -/
theorem Reading.total (reading : Reading snapshot number s) :
    s.routeTotalPages.toNat = snapshot.pageCount := by
  have length := routeOf_length reading.sound
  rw [reading.route] at length
  rw [reading.sound.total, ← length]
  rfl

/-- A snapshot has at most 19 pages. -/
theorem Snapshot.pageCount_le (snapshot : Snapshot) : snapshot.pageCount ≤ 19 := by
  have length : snapshot.list.length ≤ 37 := by
    unfold Snapshot.list
    rw [List.length_map, List.length_take, Vector.length_toList]
    exact Nat.min_le_right _ _
  unfold Snapshot.pageCount
  omega

/-- How far a readback has come depends on what pages are made of. -/
theorem Reading.congr (reading : Reading snapshot number s) (same : pageData s' = pageData s) :
    Reading snapshot number s' := by
  obtain ⟨route, counts⟩ := Prod.mk.inj same
  obtain ⟨routeType, waypoints⟩ := Prod.mk.inj route
  have sound := reading.sound.congr counts
  obtain ⟨count, rest⟩ := Prod.mk.inj counts
  obtain ⟨-, rest⟩ := Prod.mk.inj rest
  obtain ⟨index, pending⟩ := Prod.mk.inj rest
  constructor
  · exact sound
  · rw [routeType]
    exact reading.routeType
  · unfold routeOf
    rw [waypoints, count]
    exact reading.route
  · rw [pending]
    exact reading.pending
  · rw [index]
    exact reading.index

/-- The page that is sent next. -/
theorem Reading.page (reading : Reading snapshot number s) :
    pageOf s = if number < snapshot.pageCount then some (snapshot.page number) else none := by
  unfold pageOf
  rw [reading.pending]
  by_cases more : number < snapshot.pageCount
  · have index := reading.index more
    have total := reading.total
    rw [if_pos (decide_eq_true more), if_pos more, pageWaypoints_page reading.sound,
      reading.route, reading.routeType]
    unfold Snapshot.page
    rw [← total, index, UInt8.ofNat_toNat, ← index, UInt8.ofNat_toNat]
  · rw [if_neg (by rw [decide_eq_false more]; decide), if_neg more]

/-- A snapshot starts with its first page. -/
theorem processRouteSnapshot_reading (snapshot : Snapshot) (s : State) :
    Reading snapshot 0 (processRouteSnapshot snapshot.routeType snapshot.waypointCount
      snapshot.waypoints s) := by
  let after := processRouteSnapshot snapshot.routeType snapshot.waypointCount
    snapshot.waypoints s
  have sound : PagesSound after := processRouteSnapshot_pagesSound _ _ _ s
  have clamped : after.routeWaypointCount.toNat = min snapshot.waypointCount.toNat 37 := by
    show (if snapshot.waypointCount > 37 then 37 else snapshot.waypointCount).toNat = _
    by_cases many : snapshot.waypointCount > 37
    · have above : 37 < snapshot.waypointCount.toNat := UInt8.lt_iff_toNat_lt.mp many
      rw [if_pos many, Nat.min_eq_right (by omega)]
      rfl
    · have below : snapshot.waypointCount.toNat ≤ 37 :=
        UInt8.le_iff_toNat_le.mp (UInt8.not_lt.mp many)
      rw [if_neg many, Nat.min_eq_left below]
  have route : routeOf after = snapshot.list := by
    unfold routeOf Snapshot.list
    congr 1
    apply List.ext_getElem?
    intro index
    by_cases inside : index < after.routeWaypointCount.toNat
    · have room : index < routeMaxWaypoints := Nat.lt_of_lt_of_le inside sound.count
      have copied : after.routeWaypoints[index] = snapshot.waypoints[index] := by
        show (Vector.ofFn _)[index] = _
        rw [Vector.getElem_ofFn]
        exact if_pos inside
      rw [List.getElem?_take_of_lt inside, List.getElem?_take_of_lt (by omega),
        Vector.getElem?_toList, Vector.getElem?_toList, Vector.getElem?_eq_getElem room,
        Vector.getElem?_eq_getElem room, copied]
    · have length (waypoints : WaypointArray) : waypoints.toList.length = 37 :=
        Vector.length_toList
      rw [List.getElem?_eq_none, List.getElem?_eq_none]
      · rw [List.length_take, length]
        omega
      · rw [List.length_take, length]
        omega
  have total : after.routeTotalPages.toNat = snapshot.pageCount := by
    have length := routeOf_length sound
    rw [route] at length
    rw [sound.total, ← length]
    rfl
  constructor
  · exact sound
  · rfl
  · exact route
  · have same : after.routeTotalPages > 0 ↔ 0 < snapshot.pageCount := by
      rw [← total]
      exact UInt8.lt_iff_toNat_lt
    exact decide_eq_decide.mpr same
  · exact fun _ => rfl

/-- After a frame, the readback has come one page further. -/
theorem Reading.afterFrame (reading : Reading snapshot number s) :
    Reading snapshot (number + 1) (afterFrame s) := by
  let noted := noteSent (.dl2 (frameOf s)) s
  have same : Reading snapshot number noted := reading.congr rfl
  have sound : PagesSound (advancePage noted) := advancePage_pagesSound same.sound
  have total := same.total
  show Reading snapshot (number + 1) (advancePage noted)
  unfold advancePage at sound ⊢
  by_cases more : number < snapshot.pageCount
  · have index := same.index more
    rw [if_neg (by rw [same.pending, decide_eq_true more]; decide)] at sound ⊢
    by_cases last : noted.routePageIndex.toNat + 1 ≥ noted.routeTotalPages.toNat
    · rw [if_pos last] at sound ⊢
      have none : ¬ number + 1 < snapshot.pageCount := by omega
      exact ⟨sound, same.routeType, same.route, (decide_eq_false none).symm, (absurd · none)⟩
    · rw [if_neg last] at sound ⊢
      have next : number + 1 < snapshot.pageCount := by omega
      have small := same.sound.small
      refine ⟨sound, same.routeType, same.route, ?_, fun _ => ?_⟩
      · rw [decide_eq_true next]
        exact same.pending.trans (decide_eq_true more)
      · show (noted.routePageIndex + 1).toNat = number + 1
        rw [Words.byte_succ (by omega), index]
  · have none : ¬ number + 1 < snapshot.pageCount := by omega
    rw [if_pos (same.pending.trans (decide_eq_false more))] at sound ⊢
    refine ⟨sound, same.routeType, same.route, ?_, (absurd · none)⟩
    rw [decide_eq_false none]
    exact same.pending.trans (decide_eq_false more)

end

/-- The states in which frames were built that were written whole. -/
def written (app : App) (turns : List Turn) : List State := project turn writes app turns

/-- What was written are the frames of these states. -/
theorem dl2Frames_run (app : App) (turns : List Turn) :
    dl2Frames (run turn app turns) = dl2Frames app ++ (written app turns).map frameOf := by
  unfold written
  induction turns using List.reverseRecOn with
  | nil => exact (List.append_nil _).symm
  | append_singleton turns t previous =>
    rw [run_snoc, project_snoc, List.map_append, ← List.append_assoc, ← previous]
    let app' := run turn app turns
    have unchanged {after : App} (same : dl2Frames after = dl2Frames app')
        (unwritten : writes app' t = []) :
        dl2Frames after = dl2Frames app' ++ (writes app' t).map frameOf := by
      rw [unwritten, same]
      exact (List.append_nil _).symm
    cases turn_does app' t with
    | takes snapshot comes unwritten after =>
      refine unchanged ?_ unwritten
      unfold dl2Frames
      rw [after]
      rfl
    | neither undisturbed unwritten kept silent => exact unchanged silent unwritten
    | writes undisturbed alone after =>
      have outputs := (advancePage_receives (noteSent (.dl2 (frameOf app'.data)) app'.data)).outputs
      rw [alone]
      unfold dl2Frames
      rw [after]
      unfold Ground.afterFrame
      rw [outputs]
      show ((Output.dl2 (frameOf app'.data) :: app'.data.outputs).reverse).filterMap _ = _
      rw [List.reverse_cons, List.filterMap_append]
      rfl

/-- Without another snapshot, the frames carry the pages of a snapshot in order and then none. -/
theorem run_reading {snapshot : Snapshot} {app : App} (start : Reading snapshot 0 app.data)
    (turns : List Turn) (undisturbed : ∀ t ∈ turns, snapshotOf t = none) :
    Reading snapshot (written app turns).length (run turn app turns).data ∧
      (written app turns).map pageOf = (List.range (written app turns).length).map fun number =>
        if number < snapshot.pageCount then some (snapshot.page number) else none := by
  unfold written
  induction turns using List.reverseRecOn with
  | nil => exact ⟨start, rfl⟩
  | append_singleton turns t previous =>
    have earlier := previous fun t mem => undisturbed t (List.mem_append_left _ mem)
    have last := undisturbed t (List.mem_append_right _ (List.mem_singleton_self t))
    obtain ⟨reading, pages⟩ := earlier
    rw [run_snoc, project_snoc]
    cases turn_does (run turn app turns) t with
    | takes snapshot comes unwritten after =>
      rw [last] at comes
      cases comes
    | neither _ unwritten kept silent =>
      rw [unwritten, List.append_nil]
      exact ⟨reading.congr kept, pages⟩
    | writes _ alone after =>
      rw [alone, List.length_append, after, List.map_append, pages]
      refine ⟨reading.afterFrame, ?_⟩
      show _ = (List.range (_ + 1)).map _
      rw [List.range_succ, List.map_append]
      congr 1
      exact congrArg (fun page => [page]) reading.page

/-! ## Putting the pages together -/

/-- The assembler when a number of pages of a snapshot has come. -/
structure Collected (snapshot : Snapshot) (number : Nat) (a : RouteReadbackAssembler) : Prop where
  routeType : a.routeType = some snapshot.routeType
  totalPages : a.totalPages = some (UInt8.ofNat snapshot.pageCount)
  count : a.pages.keys.length = number
  keys : ∀ key ∈ a.pages, ∃ earlier < number, key = some (UInt8.ofNat earlier)
  pages : ∀ earlier < number,
    a.pages.lookup (some (UInt8.ofNat earlier)) = some (Pages.page 2 snapshot.list earlier)

section

variable {snapshot : Snapshot} {number : Nat} {a : RouteReadbackAssembler}

/-- The first page begins a readback, whatever was there. -/
theorem take_first (snapshot : Snapshot) (a : RouteReadbackAssembler) :
    Collected snapshot 1 (a.take (snapshot.page 0)) := by
  have empty : (if a.Fresh (snapshot.page 0) then ∅ else a.pages) = ∅ := by
    by_cases fresh : a.Fresh (snapshot.page 0)
    · exact if_pos fresh
    · have none : a.pages.keys = [] := by
        unfold RouteReadbackAssembler.Fresh at fresh
        rw [not_or, not_or, not_and] at fresh
        exact not_not.mp (fresh.2.2 rfl)
      rw [if_neg fresh]
      exact AList.ext (List.map_eq_nil_iff.mp none)
  have pages : (a.take (snapshot.page 0)).pages =
      AList.singleton (some 0) (Pages.page 2 snapshot.list 0) := by
    unfold RouteReadbackAssembler.take
    dsimp only
    rw [empty]
    exact AList.insert_empty _ _
  constructor
  · rfl
  · rfl
  · rw [pages]
    rfl
  · intro key mem
    rw [pages] at mem
    exact ⟨0, Nat.one_pos, List.mem_singleton.mp mem⟩
  · intro earlier below
    rw [pages, Nat.lt_one_iff.mp below]
    exact AList.lookup_insert ∅

/-- A further page is added to those before it. -/
theorem Collected.take (collected : Collected snapshot number a) (positive : 0 < number)
    (more : number < snapshot.pageCount) :
    Collected snapshot (number + 1) (a.take (snapshot.page number)) := by
  have few := snapshot.pageCount_le
  have differ {earlier : Nat} (below : earlier < number) :
      (some (UInt8.ofNat earlier) : Option UInt8) ≠ some (UInt8.ofNat number) := by
    intro same
    have values := congrArg UInt8.toNat (Option.some.inj same)
    rw [UInt8.toNat_ofNat', UInt8.toNat_ofNat'] at values
    omega
  have goes : ¬ a.Fresh (snapshot.page number) := by
    intro fresh
    rcases fresh with total | type | first
    · exact total collected.totalPages
    · exact type collected.routeType
    · exact differ positive (congrArg some first.1.symm)
  have new : some (UInt8.ofNat number) ∉ a.pages := by
    intro mem
    obtain ⟨earlier, below, same⟩ := collected.keys _ mem
    exact differ below same.symm
  have pages : (a.take (snapshot.page number)).pages =
      a.pages.insert (some (UInt8.ofNat number)) (Pages.page 2 snapshot.list number) := by
    unfold RouteReadbackAssembler.take
    dsimp only
    rw [if_neg goes]
    rfl
  constructor
  · rfl
  · rfl
  · rw [pages, length_keys_insert new, collected.count]
  · intro key mem
    rw [pages, AList.mem_insert] at mem
    rcases mem with same | before
    · exact ⟨number, Nat.lt_succ_self number, same⟩
    · obtain ⟨earlier, below, same⟩ := collected.keys key before
      exact ⟨earlier, Nat.lt_succ_of_lt below, same⟩
  · intro earlier below
    rw [pages]
    by_cases last : earlier = number
    · rw [last]
      exact AList.lookup_insert a.pages
    · have before : earlier < number := by omega
      rw [AList.lookup_insert_ne (differ before)]
      exact collected.pages earlier before

/-- The list is there with the last of its pages, and not before. -/
theorem Collected.assembled (collected : Collected snapshot number a)
    (most : number ≤ snapshot.pageCount) (some : 0 < snapshot.pageCount) :
    a.assembled = if number = snapshot.pageCount then Option.some snapshot.list else none := by
  have few := snapshot.pageCount_le
  have total : (UInt8.ofNat snapshot.pageCount).toNat = snapshot.pageCount := by
    rw [UInt8.toNat_ofNat']
    omega
  by_cases last : number = snapshot.pageCount
  · have whole : (List.range snapshot.pageCount).flatMap (Pages.page 2 snapshot.list) =
        snapshot.list := by
      apply firstPages_all
      unfold Snapshot.pageCount
      omega
    have positive : UInt8.ofNat snapshot.pageCount ≠ 0 := by
      intro zero
      rw [zero] at total
      exact Nat.ne_of_lt some total
    rw [if_pos last, RouteReadbackAssembler.assembled_complete collected.totalPages positive
      (by rw [collected.count, total, last]) (by rw [total, ← last]; exact collected.pages),
      total, whole]
  · rw [if_neg last]
    apply RouteReadbackAssembler.assembled_waiting collected.totalPages
    rw [collected.count, total]
    omega

end

/-- Of frames with the pages of a snapshot in order, the one with the last page completes its
list. -/
theorem feedEach_pages {snapshot : Snapshot} (a : RouteReadbackAssembler) (states : List State)
    (pages : states.map pageOf = (List.range states.length).map fun number =>
      if number < snapshot.pageCount then some (snapshot.page number) else none) :
    (a.feedEach (states.map dl2Of) = (List.range states.length).map fun number =>
      if number + 1 = snapshot.pageCount then some snapshot.list else none) ∧
      (0 < states.length → 0 < snapshot.pageCount →
        Collected snapshot (min states.length snapshot.pageCount)
          (a.after (states.map dl2Of))) := by
  induction states using List.reverseRecOn with
  | nil => exact ⟨rfl, fun none => absurd none (Nat.lt_irrefl 0)⟩
  | append_singleton states s previous =>
    rw [List.map_append, List.length_append, show [s].length = 1 from rfl, List.range_succ,
      List.map_append] at pages
    obtain ⟨before, last⟩ := List.append_inj' pages rfl
    have page : pageOf s = if states.length < snapshot.pageCount then
      some (snapshot.page states.length) else none := (List.cons.inj last).1
    obtain ⟨earlier, collected⟩ := previous before
    rw [List.map_append, List.length_append, show [s].length = 1 from rfl, List.range_succ,
      List.map_append, show [s].map dl2Of = [dl2Of s] from rfl,
      RouteReadbackAssembler.feedEach_snoc, RouteReadbackAssembler.after_snoc, earlier,
      RouteReadbackAssembler.feed_dl2Of]
    let number := states.length
    by_cases more : number < snapshot.pageCount
    · have next : Collected snapshot (number + 1)
          ((a.after (states.map dl2Of)).take (snapshot.page number)) := by
        by_cases first : number = 0
        · rw [first]
          exact take_first snapshot _
        · have positive : 0 < number := Nat.pos_of_ne_zero first
          have held := collected positive (by omega)
          rw [Nat.min_eq_left (by omega)] at held
          exact held.take positive more
      rw [page.trans (if_pos more)]
      dsimp only
      refine ⟨?_, fun _ _ => ?_⟩
      · rw [next.assembled (by omega) (by omega)]
        rfl
      · rw [Nat.min_eq_left (by omega)]
        exact next
    · have beyond : ¬ number + 1 = snapshot.pageCount := by omega
      rw [page.trans (if_neg more)]
      dsimp only
      refine ⟨?_, fun _ some => ?_⟩
      · rw [List.map_singleton, if_neg beyond]
      · have held := collected (by omega) some
        rw [Nat.min_eq_right (by omega)] at held
        rw [Nat.min_eq_right (by omega)]
        exact held

/-- The turn in which a snapshot comes. -/
def Snapshot.turn (snapshot : Snapshot) (env : PacketEnv) : Turn := .message ⟨env, snapshot.packet⟩

/-- After a snapshot and any turns without another, the frames that were written whole carry its
pages in order and then none, the pages make up its list, and an assembler that receives these
frames returns the list with the last page and nothing otherwise, whatever it held before. -/
theorem snapshot_delivered (app : App) (snapshot : Snapshot) (env : PacketEnv) (turns : List Turn)
    (undisturbed : ∀ t ∈ turns, snapshotOf t = none) :
    ∃ (frames : List (List UInt8)) (events : List Dl2Frame),
      dl2Frames (run turn app (snapshot.turn env :: turns)) = dl2Frames app ++ frames ∧
      frames.map decodeDl2 = events.map some ∧
      (events.map Dl2Frame.page? = (List.range frames.length).map fun number =>
        if number < snapshot.pageCount then some (snapshot.page number) else none) ∧
      ((List.range snapshot.pageCount).flatMap fun number => (snapshot.page number).waypoints) =
        snapshot.list ∧
      ∀ a : RouteReadbackAssembler, a.feedEach events =
        (List.range frames.length).map fun number =>
          if number + 1 = snapshot.pageCount then some snapshot.list else none := by
  let taken := Ground.turn app (snapshot.turn env)
  let states := written taken turns
  have start : Reading snapshot 0 taken.data := processRouteSnapshot_reading snapshot app.data
  have pages := (run_reading start turns undisturbed).2
  have unsent : dl2Frames taken = dl2Frames app := rfl
  have decoded (s : State) : decodeDl2 (frameOf s) = some (dl2Of s) :=
    (frameOf_roundTrips s).decoded
  refine ⟨states.map frameOf, states.map dl2Of, ?_, ?_, ?_, ?_, ?_⟩
  · rw [run_cons, dl2Frames_run, unsent]
  · rw [List.map_map, List.map_map]
    apply List.map_congr_left
    intro s _
    rw [Function.comp_apply, Function.comp_apply, decoded]
  · rw [List.map_map, List.length_map, ← pages]
    apply List.map_congr_left
    intro s _
    rw [Function.comp_apply, dl2Of_page?]
  · apply firstPages_all
    unfold Snapshot.pageCount
    omega
  · intro a
    rw [List.length_map]
    exact (feedEach_pages a states pages).1

/-- A snapshot of three waypoints. -/
def threeWaypoints : Snapshot := ⟨0, 3, WaypointArray.zero⟩

/-- A page that is written, one whose write fails, and once the port is open again, the page. -/
def retried : List Turn :=
  [.act (.reopen 1000 true), .act (.transmit ⟨true, none⟩), .act (.transmit ⟨true, some 5⟩),
    .act (.reopen 2000 true), .act (.transmit ⟨true, none⟩)]

/-- Three waypoints arrive although a write fails. -/
theorem snapshot_delivered_retried :
    ∃ (frames : List (List UInt8)) (events : List Dl2Frame),
      dl2Frames (run turn initialApp (threeWaypoints.turn quietEnv :: retried)) =
        dl2Frames initialApp ++ frames ∧
      frames.map decodeDl2 = events.map some ∧
      (events.map Dl2Frame.page? = (List.range frames.length).map fun number =>
        if number < threeWaypoints.pageCount then some (threeWaypoints.page number) else none) ∧
      ((List.range threeWaypoints.pageCount).flatMap fun number =>
        (threeWaypoints.page number).waypoints) = threeWaypoints.list ∧
      ∀ a : RouteReadbackAssembler, a.feedEach events =
        (List.range frames.length).map fun number =>
          if number + 1 = threeWaypoints.pageCount then some threeWaypoints.list else none := by
  apply snapshot_delivered initialApp threeWaypoints quietEnv retried
  unfold retried
  simp [snapshotOf]

end CfsTelemetry.Ground
