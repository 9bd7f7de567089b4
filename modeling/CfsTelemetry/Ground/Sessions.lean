import CfsTelemetry.Ground.Readback

/-!
# Readbacks with losses

Pages tell neither the snapshot they are of nor when it was sent, so the ground takes them for one
readback from a first page on, until another first page comes or a page of another type or of
another number of pages. What it puts together is one snapshot if such pages, once they have all
numbers, are of snapshots with one list.
-/
namespace CfsTelemetry.Ground

open Lora Pages Run

/-- Whether a page is not taken to go on with the one received before it. -/
def Begins (previous next : State) : Prop :=
  next.routePageIndex = 0 ∨ previous.routeType ≠ next.routeType ∨
    previous.routeTotalPages ≠ next.routeTotalPages

instance : DecidableRel Begins := fun previous next => by
  unfold Begins
  infer_instance

/-- The received pages that are taken for one readback, when frames have been received. -/
def heard (received : List State) : List State :=
  session Begins (received.filter (·.routeReadbackPending))

/-- Pages that have every number there is to be. -/
def Complete (pages : List State) : Prop :=
  ∀ s ∈ pages, ∀ number < s.routeTotalPages.toNat, ∃ t ∈ pages, t.routePageIndex.toNat = number

/-- Whenever pages that are taken for one readback have all numbers, they are of one list. -/
def Unmixed (received : List State) : Prop :=
  ∀ before ∈ received.inits, Complete (heard before) →
    ∀ s ∈ heard before, ∀ t ∈ heard before, routeOf s = routeOf t

instance (pages : List State) : Decidable (Complete pages) := by
  unfold Complete
  infer_instance

instance (received : List State) : Decidable (Unmixed received) := by
  unfold Unmixed
  infer_instance

/-- The assembler when some pages have come that are taken for one readback. -/
structure Holds (pages : List State) (a : RouteReadbackAssembler) : Prop where
  kind : ∀ s ∈ pages, a.routeType = some s.routeType ∧ a.totalPages = some s.routeTotalPages
  started : pages ≠ [] → a.pages.keys ≠ []
  unused : pages = [] → a.totalPages = none
  sent : ∀ key waypoints, a.pages.lookup key = some waypoints →
    ∃ s ∈ pages, key = some s.routePageIndex ∧ waypoints = pageWaypoints s

section

variable {pages : List State} {a : RouteReadbackAssembler} {s : State}

/-- The page that is sent from a state whose readback is pending. -/
def sentPage (s : State) : Page :=
  ⟨s.routeType, s.routePageIndex, s.routeTotalPages, pageWaypoints s⟩

/-- The assembler begins anew with exactly the pages that are not taken to go on. -/
theorem Holds.fresh_iff (holds : Holds pages a) {previous : State} (before : previous ∈ pages) :
    a.Fresh (sentPage s) ↔ Begins previous s := by
  obtain ⟨type, total⟩ := holds.kind previous before
  have keys := holds.started (List.ne_nil_of_mem before)
  unfold RouteReadbackAssembler.Fresh Begins sentPage
  rw [type, total]
  simp only [ne_eq, Option.some.injEq, keys, not_false_eq_true, and_true]
  constructor
  · rintro (total | type | first)
    · exact .inr (.inr total)
    · exact .inr (.inl type)
    · exact .inl first
  · rintro (first | type | total)
    · exact .inr (.inr first)
    · exact .inr (.inl type)
    · exact .inl total

/-- A page that begins anew is all that is held. -/
theorem holds_begun (fresh : a.Fresh (sentPage s)) : Holds [s] (a.take (sentPage s)) where
  kind t mem := by
    rw [List.mem_singleton.mp mem]
    exact ⟨rfl, rfl⟩
  started _ := RouteReadbackAssembler.take_keys a _
  unused none := nomatch none
  sent key waypoints found := by
    rw [RouteReadbackAssembler.take_lookup] at found
    refine ⟨s, List.mem_singleton_self s, ?_⟩
    by_cases own : key = some (sentPage s).pageIndex
    · rw [if_pos own] at found
      exact ⟨own, (Option.some.inj found).symm⟩
    · rw [if_neg own, if_pos fresh] at found
      cases found

/-- A page that goes on is held with those before it. -/
theorem Holds.goOn (holds : Holds pages a) {previous : State} (before : previous ∈ pages)
    (goes : ¬ Begins previous s) : Holds (pages ++ [s]) (a.take (sentPage s)) := by
  have kept : ¬ a.Fresh (sentPage s) := mt (holds.fresh_iff before).mp goes
  unfold Begins at goes
  rw [not_or, not_or, not_not, not_not] at goes
  obtain ⟨type, total⟩ := holds.kind previous before
  constructor
  · intro t mem
    rcases List.mem_append.mp mem with earlier | last
    · obtain ⟨type', total'⟩ := holds.kind t earlier
      refine ⟨?_, ?_⟩
      · rw [← type', type, goes.2.1]
        rfl
      · rw [← total', total, goes.2.2]
        rfl
    · rw [List.mem_singleton.mp last]
      exact ⟨rfl, rfl⟩
  · exact fun _ => RouteReadbackAssembler.take_keys a _
  · intro none
    exact absurd none (List.append_ne_nil_of_right_ne_nil _ (List.cons_ne_nil _ _))
  · intro key waypoints found
    rw [RouteReadbackAssembler.take_lookup] at found
    by_cases own : key = some (sentPage s).pageIndex
    · rw [if_pos own] at found
      exact ⟨s, List.mem_append_right _ (List.mem_singleton_self s), own,
        (Option.some.inj found).symm⟩
    · rw [if_neg own, if_neg kept] at found
      obtain ⟨t, earlier, rest⟩ := holds.sent key waypoints found
      exact ⟨t, List.mem_append_left _ earlier, rest⟩

/-- With a page more, the assembler holds what is taken for one readback then. -/
theorem Holds.take (holds : Holds pages a) :
    Holds (extend Begins pages s) (a.take (sentPage s)) := by
  unfold extend
  cases latest : pages.getLast? with
  | none =>
    have none := holds.unused (List.getLast?_eq_none_iff.mp latest)
    apply holds_begun
    refine .inl ?_
    rw [none]
    exact (Option.some_ne_none _).symm
  | some previous =>
    have before : previous ∈ pages := List.mem_of_getLast? latest
    dsimp only
    by_cases begins : Begins previous s
    · rw [if_pos begins]
      exact holds_begun ((holds.fresh_iff before).mpr begins)
    · rw [if_neg begins]
      exact holds.goOn before begins

end

/-- After any frames, the assembler holds pages of what is taken for one readback. -/
theorem after_holds (received : List State) :
    Holds (heard received) (RouteReadbackAssembler.initial.after (received.map dl2Of)) := by
  induction received using List.reverseRecOn with
  | nil =>
    refine ⟨fun s mem => (nomatch mem), (absurd rfl ·), fun _ => rfl, ?_⟩
    intro key waypoints found
    cases found
  | append_singleton received s previous =>
    unfold heard at previous ⊢
    rw [List.map_append, show [s].map dl2Of = [dl2Of s] from rfl,
      RouteReadbackAssembler.after_snoc, RouteReadbackAssembler.feed_dl2Of, List.filter_append]
    by_cases pending : s.routeReadbackPending = true
    · have page : pageOf s = some (sentPage s) := if_pos pending
      rw [List.filter_singleton, pending, page]
      show Holds (session Begins (_ ++ [s])) _
      rw [session_snoc]
      exact previous.take
    · have page : pageOf s = none := if_neg pending
      rw [List.filter_singleton, Bool.eq_false_iff.mpr pending, page]
      show Holds (session Begins (_ ++ [])) _
      rw [List.append_nil]
      exact previous

/-! ## What was sent -/

/-- A state that sends pages of one of some snapshots, if it sends any. -/
structure Serving (snapshots : List Snapshot) (s : State) : Prop where
  sound : PagesSound s
  route : s.routeReadbackPending = true → ∃ snapshot ∈ snapshots, routeOf s = snapshot.list

section

variable {snapshots : List Snapshot} {s s' : State}

/-- More snapshots may come. -/
theorem Serving.mono {more : List Snapshot} (serving : Serving snapshots s)
    (subset : snapshots ⊆ more) : Serving more s := by
  refine ⟨serving.sound, fun pending => ?_⟩
  obtain ⟨snapshot, mem, route⟩ := serving.route pending
  exact ⟨snapshot, subset mem, route⟩

/-- What is sent depends on what pages are made of. -/
theorem Serving.congr (serving : Serving snapshots s) (same : pageData s' = pageData s) :
    Serving snapshots s' := by
  obtain ⟨route, counts⟩ := Prod.mk.inj same
  obtain ⟨-, waypoints⟩ := Prod.mk.inj route
  have sound := serving.sound.congr counts
  obtain ⟨count, rest⟩ := Prod.mk.inj counts
  obtain ⟨-, rest⟩ := Prod.mk.inj rest
  obtain ⟨-, pending⟩ := Prod.mk.inj rest
  refine ⟨sound, fun readback => ?_⟩
  unfold routeOf
  rw [waypoints, count]
  exact serving.route (pending ▸ readback)

/-- After a frame, the rest of the route is sent. -/
theorem Serving.afterFrame (serving : Serving snapshots s) :
    Serving snapshots (afterFrame s) := by
  have noted : Serving snapshots (noteSent (.dl2 (frameOf s)) s) := serving.congr rfl
  refine ⟨advancePage_pagesSound noted.sound, ?_⟩
  unfold Ground.afterFrame advancePage
  by_cases idle : (noteSent (.dl2 (frameOf s)) s).routeReadbackPending = false
  · rw [if_pos idle]
    exact noted.route
  · have pending := Bool.eq_true_of_not_eq_false idle
    rw [if_neg idle]
    by_cases last : (noteSent (.dl2 (frameOf s)) s).routePageIndex.toNat + 1 ≥
        (noteSent (.dl2 (frameOf s)) s).routeTotalPages.toNat
    · rw [if_pos last]
      exact fun none => nomatch none
    · rw [if_neg last]
      exact fun _ => noted.route pending

end

/-- The snapshots of turns. -/
def snapshots (turns : List Turn) : List Snapshot := turns.filterMap snapshotOf

/-- In every run the application sends pages of the snapshots that came. -/
theorem run_serving {app : App} (start : Serving [] app.data) (turns : List Turn) :
    Serving (snapshots turns) (run turn app turns).data ∧
      ∀ s ∈ written app turns, Serving (snapshots turns) s := by
  unfold written
  induction turns using List.reverseRecOn with
  | nil => exact ⟨start, fun s mem => nomatch mem⟩
  | append_singleton turns t previous =>
    obtain ⟨now, before⟩ := previous
    have subset : snapshots turns ⊆ snapshots (turns ++ [t]) := by
      unfold snapshots
      rw [List.filterMap_append]
      exact List.subset_append_left _ _
    have earlier {s : State} (mem : s ∈ project turn writes app turns) :
        Serving (snapshots (turns ++ [t])) s := (before s mem).mono subset
    rw [run_snoc, project_snoc]
    cases turn_does (run turn app turns) t with
    | takes snapshot comes unwritten after =>
      rw [unwritten, List.append_nil, after]
      have reading := processRouteSnapshot_reading snapshot (run turn app turns).data
      refine ⟨⟨reading.sound, fun _ => ⟨snapshot, ?_, reading.route⟩⟩, fun s mem => earlier mem⟩
      unfold snapshots
      rw [List.filterMap_append]
      apply List.mem_append_right
      rw [List.filterMap_cons_some comes]
      exact List.mem_singleton_self snapshot
    | neither _ unwritten kept _ =>
      rw [unwritten, List.append_nil]
      exact ⟨(now.mono subset).congr kept, fun s mem => earlier mem⟩
    | writes _ alone after =>
      rw [alone, after]
      refine ⟨(now.mono subset).afterFrame, fun s mem => ?_⟩
      rcases List.mem_append.mp mem with old | new
      · exact earlier old
      · rw [List.mem_singleton.mp new]
        exact now.mono subset

/-- A route that is there when pages of one list were taken for one readback is that list. -/
theorem Holds.route {pages : List State} {a : RouteReadbackAssembler} {route : List PageWaypoint}
    (holds : Holds pages a) (sound : ∀ s ∈ pages, PagesSound s)
    (there : a.assembled = some route)
    (unmixed : Complete pages → ∀ s ∈ pages, ∀ t ∈ pages, routeOf s = routeOf t) :
    ∃ s ∈ pages, route = routeOf s := by
  obtain ⟨total, held, announced, found, whole⟩ := RouteReadbackAssembler.assembled_eq_some there
  have member : ∃ s, s ∈ pages := by
    apply List.exists_mem_of_ne_nil
    intro empty
    rw [holds.unused empty] at announced
    cases announced
  obtain ⟨s, mem⟩ := member
  have counted {t : State} (other : t ∈ pages) : t.routeTotalPages = total := by
    have same := (holds.kind t other).2
    rw [announced] at same
    exact (Option.some.inj same).symm
  have few : total.toNat ≤ 19 := by
    have count := (sound s mem).count
    have sum := (sound s mem).total
    unfold routeMaxWaypoints at count
    rw [counted mem] at sum
    omega
  have under (number : Nat) (below : number < total.toNat) :
      ∃ t ∈ pages, t.routePageIndex.toNat = number ∧ held number = pageWaypoints t := by
    obtain ⟨t, other, key, waypoints⟩ := holds.sent _ _ (found number below)
    refine ⟨t, other, ?_, waypoints⟩
    have index := congrArg UInt8.toNat (Option.some.inj key)
    rw [UInt8.toNat_ofNat'] at index
    omega
  have complete : Complete pages := by
    intro t other number below
    rw [counted other] at below
    obtain ⟨t', there, index, -⟩ := under number below
    exact ⟨t', there, index⟩
  have same := unmixed complete
  refine ⟨s, mem, ?_⟩
  have each : ∀ number ∈ List.range total.toNat, held number = page 2 (routeOf s) number := by
    intro number inside
    obtain ⟨t, other, index, waypoints⟩ := under number (List.mem_range.mp inside)
    rw [waypoints, pageWaypoints_page (sound t other), same t other s mem, index]
  have enough : (routeOf s).length ≤ 2 * total.toNat := by
    have length := routeOf_length (sound s mem)
    have sum := (sound s mem).total
    rw [counted mem] at sum
    omega
  rw [whole, List.flatMap_congr each]
  exact firstPages_all 2 (routeOf s) enough

/-- A route that frames complete is there after one of them. -/
theorem mem_feedEach {received : List State} {route : List PageWaypoint}
    (completed : some route ∈ RouteReadbackAssembler.initial.feedEach (received.map dl2Of)) :
    ∃ before ∈ received.inits,
      (RouteReadbackAssembler.initial.after (before.map dl2Of)).assembled = some route := by
  induction received using List.reverseRecOn with
  | nil => cases completed
  | append_singleton received s previous =>
    rw [List.map_append, show [s].map dl2Of = [dl2Of s] from rfl,
      RouteReadbackAssembler.feedEach_snoc] at completed
    rcases List.mem_append.mp completed with earlier | last
    · obtain ⟨before, prefixed, there⟩ := previous earlier
      refine ⟨before, ?_, there⟩
      rw [List.mem_inits] at prefixed ⊢
      exact prefixed.trans (List.prefix_append _ _)
    · refine ⟨received ++ [s], ?_, ?_⟩
      · rw [List.mem_inits]
      · rw [List.map_append, show [s].map dl2Of = [dl2Of s] from rfl,
          RouteReadbackAssembler.after_snoc]
        rw [RouteReadbackAssembler.feed_dl2Of] at last ⊢
        cases page : pageOf s with
        | none =>
          rw [page] at last
          cases List.mem_singleton.mp last
        | some page' =>
          rw [page] at last
          exact (List.mem_singleton.mp last).symm

/-- The application after a start with a downlink protocol. -/
def startApp (useV2Downlink : Bool) : App := { initialApp with data := startState useV2Downlink }

/-- Nothing is sent at the start. -/
theorem startApp_serving (useV2Downlink : Bool) : Serving [] (startApp useV2Downlink).data :=
  ⟨startState_pagesSound useV2Downlink, fun pending => nomatch pending⟩

/-- Whatever frames are lost, every route that is put together is the list of a snapshot, if pages
that are taken for one readback are of one list once they have all numbers. The assembler begins
anew only at a page that shows it is of another readback, and the page 0 that would show it may be
lost. -/
theorem route_unmixed (useV2Downlink : Bool) (turns : List Turn) (received : List State)
    (lossy : received.Sublist (written (startApp useV2Downlink) turns))
    (unmixed : Unmixed received) :
    ∀ route, some route ∈ RouteReadbackAssembler.initial.feedEach (received.map dl2Of) →
      ∃ snapshot ∈ snapshots turns, route = snapshot.list := by
  intro route completed
  obtain ⟨before, prefixed, there⟩ := mem_feedEach completed
  have serving := (run_serving (startApp_serving useV2Downlink) turns).2
  have sent {s : State} (mem : s ∈ heard before) :
      Serving (snapshots turns) s ∧ s.routeReadbackPending = true := by
    have pending := List.mem_filter.mp (session_subset Begins _ mem)
    have within : s ∈ received := (List.mem_inits _ _).mp prefixed |>.subset pending.1
    exact ⟨serving s (lossy.subset within), pending.2⟩
  obtain ⟨s, mem, same⟩ := (after_holds before).route (fun s mem => (sent mem).1.sound) there
    (unmixed before prefixed)
  obtain ⟨snapshot, comes, list⟩ := (sent mem).1.route (sent mem).2
  exact ⟨snapshot, comes, same.trans list⟩

/-- A snapshot of three waypoints, from a latitude on. -/
def snapshotFrom (latE7 : Int32) : Snapshot where
  routeType := 0
  waypointCount := 3
  waypoints := Vector.ofFn fun index => { Waypoint.zero with latE7 := latE7 + Int32.ofNat index }

/-- Two snapshots one after another, both pages of each. -/
def twoSnapshots : List Turn :=
  let page := .act (.transmit ⟨true, none⟩)
  [.act (.reopen 1000 true), (snapshotFrom 10).turn quietEnv, page, page,
    (snapshotFrom 20).turn quietEnv, page, page]

/-- The frames of the two snapshots. -/
def fourFrames : List State := written (startApp true) twoSnapshots

/-- When no frame is lost, a route that is put together is the list of one of them. -/
theorem route_unmixed_lossless :
    fourFrames.length = 4 ∧
      ∀ route, some route ∈ RouteReadbackAssembler.initial.feedEach (fourFrames.map dl2Of) →
        ∃ snapshot ∈ snapshots twoSnapshots, route = snapshot.list :=
  ⟨by decide +kernel,
    route_unmixed true twoSnapshots fourFrames (List.Sublist.refl _) (by decide +kernel)⟩

/-- When the second page of the first snapshot and the first page of the second are lost, the
other two are put together. -/
theorem route_mixed :
    ¬ ∀ (useV2Downlink : Bool) (turns : List Turn) (received : List State),
      received.Sublist (written (startApp useV2Downlink) turns) →
      ∀ route, some route ∈ RouteReadbackAssembler.initial.feedEach (received.map dl2Of) →
        ∃ snapshot ∈ snapshots turns, route = snapshot.list := by
  intro single
  let received := fourFrames.take 1 ++ fourFrames.drop 3
  let mixed : List PageWaypoint := [⟨0, 10, 0, 0⟩, ⟨0, 11, 0, 0⟩, ⟨0, 22, 0, 0⟩]
  have lossy : received.Sublist fourFrames := by
    have later : (fourFrames.drop 3).Sublist (fourFrames.drop 1) :=
      List.drop_sublist_drop_left fourFrames (by decide)
    have both := later.append_left (fourFrames.take 1)
    rw [List.take_append_drop] at both
    exact both
  have completed :
      RouteReadbackAssembler.initial.takeEach (received.map pageOf) = [none, some mixed] := by
    decide +kernel
  have other : ∀ snapshot ∈ snapshots twoSnapshots, mixed ≠ snapshot.list := by decide +kernel
  obtain ⟨snapshot, comes, same⟩ := single true twoSnapshots received lossy mixed (by
    rw [RouteReadbackAssembler.feedEach_dl2Of, completed]
    exact List.mem_cons_of_mem _ (List.mem_singleton_self _))
  exact other snapshot comes same

end CfsTelemetry.Ground
