import CfsTelemetry.Ground.RoundTrip
import CfsTelemetry.Library.Pages

/-!
# The assembler of route readbacks

The ground puts the pages of a route together under their numbers. A page begins a readback anew
if its type or its number of pages is not that of the pages before it, or if it is the first page
and some were there.
-/
namespace CfsTelemetry.Ground

open Lora Pages

/-- The pages of a readback that have come so far. -/
structure RouteReadbackAssembler where
  routeType : Option UInt8
  totalPages : Option UInt8
  pages : AList fun _ : Option UInt8 => List PageWaypoint

/-- Whether a frame says that it has a page. -/
def Dl2Frame.hasWaypointPage (event : Dl2Frame) : Bool := event.flags &&& dl2FlagWaypoint != 0

namespace RouteReadbackAssembler

/-- An assembler that has seen nothing. -/
def initial : RouteReadbackAssembler := ⟨none, none, ∅⟩

/-- Whether a page begins a readback anew. -/
def isNewSession (a : RouteReadbackAssembler) (event : Dl2Frame) : Bool :=
  a.totalPages != event.wpTotalPages || a.routeType != event.wpRouteType ||
    (event.wpPageIndex == some 0 && decide (a.pages.keys.length > 0))

/-- The route, if all its pages have come. -/
def assembled (a : RouteReadbackAssembler) : Option (List PageWaypoint) :=
  match a.totalPages with
  | none => none
  | some total =>
    if total ≠ 0 ∧ a.pages.keys.length ≥ total.toNat then
      ((List.range total.toNat).mapM fun index =>
        a.pages.lookup (some (UInt8.ofNat index))).map List.flatten
    else none

/-- The route is there when a page is there under every number. -/
theorem assembled_complete {a : RouteReadbackAssembler} {total : UInt8}
    {pages : Nat → List PageWaypoint} (announced : a.totalPages = some total) (some : total ≠ 0)
    (enough : a.pages.keys.length ≥ total.toNat)
    (found : ∀ number < total.toNat,
      a.pages.lookup (Option.some (UInt8.ofNat number)) = Option.some (pages number)) :
    a.assembled = Option.some ((List.range total.toNat).flatMap pages) := by
  have read : (List.range total.toNat).mapM
      (fun number => a.pages.lookup (Option.some (UInt8.ofNat number))) =
        Option.some ((List.range total.toNat).map pages) := by
    rw [mapM_eq_some_iff, List.map_map]
    exact List.map_congr_left fun number mem => found number (List.mem_range.mp mem)
  unfold assembled
  rw [announced]
  dsimp only
  rw [if_pos ⟨some, enough⟩, read, List.flatMap_def]
  rfl

/-- The route is not there while there are too few pages. -/
theorem assembled_waiting {a : RouteReadbackAssembler} {total : UInt8}
    (announced : a.totalPages = some total) (few : a.pages.keys.length < total.toNat) :
    a.assembled = none := by
  unfold assembled
  rw [announced]
  exact if_neg fun complete => Nat.not_le.mpr few complete.2

/-- A route that is there is made of a page under every number. -/
theorem assembled_eq_some {a : RouteReadbackAssembler} {route : List PageWaypoint}
    (there : a.assembled = some route) :
    ∃ (total : UInt8) (pages : Nat → List PageWaypoint), a.totalPages = some total ∧
      (∀ number < total.toNat,
        a.pages.lookup (some (UInt8.ofNat number)) = some (pages number)) ∧
      route = (List.range total.toNat).flatMap pages := by
  unfold assembled at there
  cases announced : a.totalPages with
  | none =>
    rw [announced] at there
    cases there
  | some total =>
    rw [announced] at there
    dsimp only at there
    by_cases complete : total ≠ 0 ∧ a.pages.keys.length ≥ total.toNat
    · rw [if_pos complete, Option.map_eq_some_iff] at there
      obtain ⟨values, read, whole⟩ := there
      rw [mapM_eq_some_iff] at read
      have length : values.length = total.toNat := by
        have lengths := congrArg List.length read
        rw [List.length_map, List.length_map, List.length_range] at lengths
        exact lengths.symm
      have each (number : Nat) (below : number < total.toNat) :
          a.pages.lookup (some (UInt8.ofNat number)) = some (values[number]?.getD []) := by
        have same := congrArg (fun list => list[number]?) read
        rw [List.getElem?_map, List.getElem?_map, List.getElem?_range below,
          List.getElem?_eq_getElem (by omega)] at same
        rw [List.getElem?_eq_getElem (by omega), Option.getD_some]
        exact Option.some.inj same
      refine ⟨total, fun number => values[number]?.getD [], rfl, each, ?_⟩
      have listed : (List.range total.toNat).map (fun number => values[number]?.getD []) =
          values := by
        apply List.ext_getElem
        · rw [List.length_map, List.length_range, length]
        · intro number inside inside'
          rw [List.getElem_map, List.getElem_range, List.getElem?_eq_getElem inside',
            Option.getD_some]
      rw [List.flatMap_def, listed, whole]
    · rw [if_neg complete] at there
      cases there

/-- Take a frame, and the route if it completes one. -/
def feed (a : RouteReadbackAssembler) (event : Dl2Frame) :
    RouteReadbackAssembler × Option (List PageWaypoint) :=
  if event.hasWaypointPage = false then (a, none)
  else
    match event.wpWaypoints with
    | none => (a, none)
    | some waypoints =>
      let session :=
        if a.isNewSession event then ⟨event.wpRouteType, event.wpTotalPages, ∅⟩ else a
      let fed := { session with pages := session.pages.insert event.wpPageIndex waypoints }
      (fed, fed.assembled)

/-- What frames taken one after another complete. -/
def feedEach (a : RouteReadbackAssembler) : List Dl2Frame → List (Option (List PageWaypoint))
  | [] => []
  | event :: events => (a.feed event).2 :: (a.feed event).1.feedEach events

/-- The assembler after frames taken one after another. -/
def after (a : RouteReadbackAssembler) (events : List Dl2Frame) : RouteReadbackAssembler :=
  events.foldl (fun a event => (a.feed event).1) a

/-- What comes last is completed after what comes before it. -/
theorem feedEach_snoc (a : RouteReadbackAssembler) (events : List Dl2Frame) (event : Dl2Frame) :
    a.feedEach (events ++ [event]) = a.feedEach events ++ [((a.after events).feed event).2] := by
  induction events generalizing a with
  | nil => rfl
  | cons first events previous => exact congrArg _ (previous (a.feed first).1)

/-- The last frame is taken after those before it. -/
@[simp] theorem after_snoc (a : RouteReadbackAssembler) (events : List Dl2Frame)
    (event : Dl2Frame) : a.after (events ++ [event]) = ((a.after events).feed event).1 :=
  List.foldl_concat ..

end RouteReadbackAssembler

/-! ## The route that the application holds -/

/-- The route of which pages are sent, as pages carry it. -/
def routeOf (s : State) : List PageWaypoint :=
  (s.routeWaypoints.toList.take s.routeWaypointCount.toNat).map pageWaypoint

/-- A route has as many waypoints as are counted. -/
theorem routeOf_length {s : State} (sound : PagesSound s) :
    (routeOf s).length = s.routeWaypointCount.toNat := by
  unfold routeOf
  rw [List.length_map, List.length_take, Vector.length_toList]
  exact Nat.min_eq_left sound.count

/-- A waypoint of the route. -/
theorem routeOf_getElem? {s : State} {index : Nat} (below : index < s.routeWaypointCount.toNat)
    (sound : PagesSound s) :
    (routeOf s)[index]? = some (pageWaypoint (s.routeWaypoints[index]?.getD .zero)) := by
  have room : index < routeMaxWaypoints := Nat.lt_of_lt_of_le below sound.count
  have inside : s.routeWaypoints.toList[index]? = some s.routeWaypoints[index] := by
    rw [Vector.getElem?_toList, Vector.getElem?_eq_getElem room]
  unfold routeOf
  rw [List.getElem?_map, List.getElem?_take_of_lt below, inside,
    Vector.getElem?_eq_getElem room]
  rfl

/-- The page to be sent is the one of its number. -/
theorem pageWaypoints_page {s : State} (sound : PagesSound s) :
    pageWaypoints s = page 2 (routeOf s) s.routePageIndex.toNat := by
  have start : pageStart s = 2 * s.routePageIndex.toNat := by
    have small := sound.small
    unfold pageStart
    rw [UInt8.toNat_mul, show dl2WaypointsPerPage.toNat = 2 from rfl]
    omega
  have length := routeOf_length sound
  apply List.ext_getElem?
  intro place
  unfold pageWaypoints page
  rw [List.getElem?_map, start]
  by_cases inside : place < inPage s
  · have below : 2 * s.routePageIndex.toNat + place < s.routeWaypointCount.toNat := by
      unfold inPage at inside
      omega
    have two : place < 2 := by
      unfold inPage at inside
      omega
    rw [List.getElem?_range' inside, List.getElem?_take_of_lt two, List.getElem?_drop,
      routeOf_getElem? below sound, Nat.one_mul]
    rfl
  · have outside :
        ((List.drop (2 * s.routePageIndex.toNat) (routeOf s)).take 2).length ≤ place := by
      rw [List.length_take, List.length_drop, length]
      unfold inPage at inside
      omega
    rw [List.getElem?_eq_none outside, List.getElem?_eq_none]
    · rfl
    · rw [List.length_range']
      omega

/-- The page of a decoded frame. -/
def Dl2Frame.page? (event : Dl2Frame) : Option Page := do
  let routeType ← event.wpRouteType
  let pageIndex ← event.wpPageIndex
  let totalPages ← event.wpTotalPages
  let waypoints ← event.wpWaypoints
  some ⟨routeType, pageIndex, totalPages, waypoints⟩

/-- The page that the application is to send. -/
def pageOf (s : State) : Option Page :=
  if s.routeReadbackPending then
    some ⟨s.routeType, s.routePageIndex, s.routeTotalPages, pageWaypoints s⟩
  else none

/-- A decoded frame has the page that was sent. -/
theorem dl2Of_page? (s : State) : (dl2Of s).page? = pageOf s := by
  unfold Dl2Frame.page? pageOf dl2Of
  cases s.routeReadbackPending <;> rfl

namespace RouteReadbackAssembler

/-- Whether a page does not go on with those that have come. -/
def Fresh (a : RouteReadbackAssembler) (page : Page) : Prop :=
  a.totalPages ≠ some page.totalPages ∨ a.routeType ≠ some page.routeType ∨
    (page.pageIndex = 0 ∧ a.pages.keys ≠ [])

instance (a : RouteReadbackAssembler) (page : Page) : Decidable (a.Fresh page) := by
  unfold Fresh
  infer_instance

/-- The assembler with a page more. -/
def take (a : RouteReadbackAssembler) (page : Page) : RouteReadbackAssembler where
  routeType := some page.routeType
  totalPages := some page.totalPages
  pages := (if a.Fresh page then ∅ else a.pages).insert (some page.pageIndex) page.waypoints

/-- A page is under its number, and the others are kept unless it begins a readback anew. -/
theorem take_lookup (a : RouteReadbackAssembler) (page : Page) (key : Option UInt8) :
    (a.take page).pages.lookup key =
      if key = some page.pageIndex then some page.waypoints
      else if a.Fresh page then none
      else a.pages.lookup key := by
  unfold take
  by_cases own : key = some page.pageIndex
  · rw [if_pos own, own, AList.lookup_insert]
  · rw [if_neg own, AList.lookup_insert_ne own]
    by_cases fresh : a.Fresh page
    · rw [if_pos fresh, if_pos fresh, AList.lookup_empty]
    · rw [if_neg fresh, if_neg fresh]

/-- After a page, some page is there. -/
theorem take_keys (a : RouteReadbackAssembler) (page : Page) : (a.take page).pages.keys ≠ [] := by
  unfold take
  rw [AList.keys_insert]
  exact List.cons_ne_nil _ _

/-- A frame is taken for the page that was sent with it. -/
theorem feed_dl2Of (a : RouteReadbackAssembler) (s : State) :
    a.feed (dl2Of s) =
      match pageOf s with
      | none => (a, none)
      | some page => (a.take page, (a.take page).assembled) := by
  have flagged : (dl2Of s).hasWaypointPage = s.routeReadbackPending := (dl2Flags_blocks _ _ s).2
  unfold feed pageOf
  rw [flagged]
  by_cases pending : s.routeReadbackPending = true
  · have waypoints : (dl2Of s).wpWaypoints = some (pageWaypoints s) := if_pos pending
    have routeType : (dl2Of s).wpRouteType = some s.routeType := if_pos pending
    have totalPages : (dl2Of s).wpTotalPages = some s.routeTotalPages := if_pos pending
    have pageIndex : (dl2Of s).wpPageIndex = some s.routePageIndex := if_pos pending
    have fresh : a.isNewSession (dl2Of s) = true ↔
        a.Fresh ⟨s.routeType, s.routePageIndex, s.routeTotalPages, pageWaypoints s⟩ := by
      unfold isNewSession Fresh
      rw [routeType, totalPages, pageIndex]
      simp only [Bool.or_eq_true, Bool.and_eq_true, bne_iff_ne, beq_iff_eq, decide_eq_true_eq,
        Option.some.injEq, gt_iff_lt, List.length_pos_iff, or_assoc]
    rw [if_neg (by rw [pending]; decide), if_pos pending, waypoints]
    dsimp only
    unfold take
    by_cases new : a.isNewSession (dl2Of s) = true
    · rw [if_pos new, if_pos (fresh.mp new), routeType, totalPages, pageIndex]
    · have same := mt fresh.mpr new
      have kept : a.totalPages = some s.routeTotalPages ∧ a.routeType = some s.routeType := by
        unfold Fresh at same
        rw [not_or, not_or] at same
        exact ⟨not_not.mp same.1, not_not.mp same.2.1⟩
      rw [if_neg new, if_neg same, pageIndex, kept.1, kept.2]
  · rw [if_pos (Bool.eq_false_iff.mpr pending), if_neg pending]

/-- What pages taken one after another complete; a frame may have none. -/
def takeEach (a : RouteReadbackAssembler) : List (Option Page) → List (Option (List PageWaypoint))
  | [] => []
  | none :: pages => none :: a.takeEach pages
  | some page :: pages => (a.take page).assembled :: (a.take page).takeEach pages

/-- Frames complete what the pages that were sent with them complete. -/
theorem feedEach_dl2Of (a : RouteReadbackAssembler) (states : List State) :
    a.feedEach (states.map dl2Of) = a.takeEach (states.map pageOf) := by
  induction states generalizing a with
  | nil => rfl
  | cons s states previous =>
    rw [List.map_cons, List.map_cons, feedEach, feed_dl2Of]
    cases pageOf s with
    | none => exact congrArg _ (previous a)
    | some page => exact congrArg _ (previous (a.take page))

end RouteReadbackAssembler

end CfsTelemetry.Ground
