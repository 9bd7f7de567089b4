import CfsTelemetry.Lora.Cycle

/-!
# The pages of a route readback

A route that the application is to send down is cut into pages of two waypoints, and every
transmitted frame carries the next page. In every run the number of the page stays below the
number of pages, which the room for waypoints bounds, so an index computed from it fits a byte.
-/
namespace CfsTelemetry.Lora

/-- The pages of a readback are those of a route that fits the message, and the next one is one
of them. -/
structure PagesSound (s : State) : Prop where
  count : s.routeWaypointCount.toNat ≤ routeMaxWaypoints
  total : s.routeTotalPages.toNat = (s.routeWaypointCount.toNat + 1) / 2
  index : s.routePageIndex.toNat = 0 ∨ s.routePageIndex.toNat < s.routeTotalPages.toNat
  pending : s.routeReadbackPending = true → s.routePageIndex.toNat < s.routeTotalPages.toNat

/-- What a readback consists of, apart from its waypoints. -/
def State.readback (s : State) : UInt8 × UInt8 × UInt8 × Bool :=
  (s.routeWaypointCount, s.routeTotalPages, s.routePageIndex, s.routeReadbackPending)

section

variable {s s' : State}

/-- Whether the pages are sound depends on nothing but what the readback consists of. -/
theorem PagesSound.congr (sound : PagesSound s) (same : s'.readback = s.readback) :
    PagesSound s' := by
  unfold State.readback at same
  obtain ⟨count, rest⟩ := Prod.mk.inj same
  obtain ⟨total, rest⟩ := Prod.mk.inj rest
  obtain ⟨index, pending⟩ := Prod.mk.inj rest
  constructor
  · rw [count]
    exact sound.count
  · rw [total, count]
    exact sound.total
  · rw [index, total]
    exact sound.index
  · rw [index, total, pending]
    exact sound.pending

/-- The number of a page is far below what a byte holds. -/
theorem PagesSound.small (sound : PagesSound s) : s.routePageIndex.toNat < 19 := by
  have count := sound.count
  have total := sound.total
  have index := sound.index
  unfold routeMaxWaypoints at count
  omega

end

/-- A route starts with its first page, if it has any. -/
theorem processRouteSnapshot_pagesSound (routeType waypointCount : UInt8)
    (waypoints : WaypointArray) (s : State) :
    PagesSound (processRouteSnapshot routeType waypointCount waypoints s) := by
  let count := if waypointCount > 37 then 37 else waypointCount
  let totalPages := if count = 0 then 0 else (count + dl2WaypointsPerPage - 1) / dl2WaypointsPerPage
  have bound : count.toNat ≤ 37 := by
    dsimp only [count]
    by_cases many : waypointCount > 37
    · rw [if_pos many]
      decide
    · rw [if_neg many]
      exact UInt8.le_iff_toNat_le.mp (UInt8.not_lt.mp many)
  have total : totalPages.toNat = (count.toNat + 1) / 2 := by
    dsimp only [totalPages]
    by_cases none : count = 0
    · rw [if_pos none, none]
      rfl
    · have positive : count.toNat ≠ 0 := fun zero => none (UInt8.toNat_inj.mp zero)
      have two : dl2WaypointsPerPage.toNat = 2 := rfl
      have one : (1 : UInt8).toNat = 1 := rfl
      rw [if_neg none, UInt8.toNat_div, UInt8.toNat_sub_of_le, UInt8.toNat_add, two, one]
      · omega
      · rw [UInt8.le_iff_toNat_le, UInt8.toNat_add, two, one]
        omega
  constructor
  · exact bound
  · exact total
  · exact .inl rfl
  · intro pending
    have some : totalPages > 0 := of_decide_eq_true pending
    exact UInt8.lt_iff_toNat_lt.mp some

/-- A transmitted page is followed by the next one, or ends the readback. -/
theorem advancePage_pagesSound {s : State} (sound : PagesSound s) : PagesSound (advancePage s) := by
  unfold advancePage
  by_cases idle : s.routeReadbackPending = false
  · rw [if_pos idle]
    exact sound
  · rw [if_neg idle]
    by_cases last : s.routePageIndex.toNat + 1 ≥ s.routeTotalPages.toNat
    · rw [if_pos last]
      exact ⟨sound.count, sound.total, .inl rfl, fun pending => nomatch pending⟩
    · have small := sound.small
      have next := @Words.byte_succ s.routePageIndex (by omega)
      have below : (s.routePageIndex + 1).toNat < s.routeTotalPages.toNat := by omega
      rw [if_neg last]
      exact ⟨sound.count, sound.total, .inr below, fun _ => below⟩

/-- A transmission keeps the pages sound. -/
theorem runTx_pagesSound (env : TxEnv) {s : State} (sound : PagesSound s) :
    PagesSound (runTx env s) := by
  unfold runTx
  by_cases closed : s.serialOpen = false
  · rw [if_pos closed]
    exact sound
  · rw [if_neg closed]
    by_cases binary : s.useV2Downlink = true
    · rw [if_pos binary]
      cases buildDl2Frame dl2MaxFrameLen s with
      | none => exact sound
      | some frame =>
        cases env.writeError with
        | some errno => exact sound.congr rfl
        | none => exact advancePage_pagesSound (sound.congr rfl)
    · rw [if_neg binary]
      dsimp only
      by_cases fits : env.lineFits = true
      · rw [if_pos fits]
        cases env.writeError with
        | some errno => exact sound.congr rfl
        | none => exact sound.congr rfl
      · rw [if_neg fits]
        exact sound

/-- Nothing but a route and a transmission changes what a readback consists of. -/
theorem step_pagesSound {s : State} (sound : PagesSound s) (input : Input) :
    PagesSound (step s input) := by
  cases input with
  | packet message =>
    cases message with
    | uplinkStatus tlm => exact sound.congr rfl
    | telemetry message =>
      cases message with
      | routeSnapshot routeType waypointCount waypoints =>
        exact processRouteSnapshot_pagesSound routeType waypointCount waypoints s
      | _ => exact sound.congr rfl
  | transmit env => exact runTx_pagesSound env sound
  | byte value now taken =>
    have same := congrArg State.readback (receiveByte_unreceived value now taken s)
    exact sound.congr same
  | reopen | startWindow | readFailure | endWindow | judgeLink =>
    exact sound.congr (step_keeps State.readback (fun _ _ => rfl) rfl s)

end CfsTelemetry.Lora
