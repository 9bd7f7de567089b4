import CfsTelemetry.Core.Soundness

/-!
# The mission as the core application shows it

The route cache is written by the readbacks of the bridge, and by a route update that replaces
the whole route as soon as it is asked for. Nothing else writes it.
-/
namespace CfsTelemetry.Core

/-- The route that a message puts into the cache. -/
def StateMessage.route? : StateMessage → Option RouteUpdate
  | missionReadback msg => some msg
  | routeUpdate msg => if msg.routeType = routeOpReplace then some msg else none
  | _ => none

/-- The cache after a message of another application. -/
def RouteCache.after (cache : RouteCache) (message : StateMessage) : RouteCache :=
  match message.route? with
  | some msg => cache.take msg
  | none => cache

/-- A state message leaves the route alone. -/
theorem updateStateCache_missionRoute (stream : Stream) (msg : Bridge.FcStatePrefix)
    (nowMs : UInt32) (s : State) :
    (updateStateCache stream msg nowMs s).missionRoute = s.missionRoute := by
  have replaced : ∀ (s : State) (cache : StateCache),
      (s.setCache stream cache).missionRoute = s.missionRoute := by
    intro s cache
    cases stream <;> rfl
  have noted : (noteTimebaseShift (s.cache stream) msg s).missionRoute = s.missionRoute := by
    unfold noteTimebaseShift
    split <;> rfl
  unfold updateStateCache
  dsimp only
  generalize noteTimebaseShift (s.cache stream) msg s = shifted at noted ⊢
  split
  · rfl
  · split
    · exact noted
    · split
      · exact noted
      · rw [replaced]
        split <;> exact noted

/-- A message of another application puts its route into the cache. -/
theorem cacheMessage_missionRoute (message : StateMessage) (nowMs : UInt32) (s : State) :
    (cacheMessage message nowMs s).missionRoute = s.missionRoute.after message := by
  have checked : ∀ (stream : Stream) (msg : Bridge.FcStatePrefix) (finite : Bool) (name : String),
      (if finite then updateStateCache stream msg nowMs s
        else markNonFinite stream name (updateStateCache stream msg nowMs s)).missionRoute =
      s.missionRoute := by
    intro stream msg finite name
    have updated := updateStateCache_missionRoute stream msg nowMs s
    generalize updateStateCache stream msg nowMs s = s' at updated ⊢
    cases finite with
    | true => exact updated
    | false => cases stream <;> exact updated
  cases message with
  | attitude tlm => exact checked .attitude _ _ _
  | ekfLocal tlm => exact checked .ekfLocal _ _ _
  | gpsRaw tlm => exact updateStateCache_missionRoute .gpsRaw _ nowMs s
  | ekfStatus tlm => exact updateStateCache_missionRoute .ekfStatus _ nowMs s
  | routeUpdate msg =>
    unfold cacheMessage RouteCache.after StateMessage.route?
    dsimp only
    split
    · rfl
    · rfl
  | _ => rfl

/-- An evaluation leaves the route alone. -/
theorem evaluate_missionRoute (env : Env) (s : State) :
    (evaluate env s).missionRoute = s.missionRoute := by
  obtain ⟨bridge, uplink, lora, apps, tlm, fault, events, file, evaluated, -⟩ := evaluate_eq env s
  rw [evaluated]

/-- The route in the cache after an input. -/
theorem step_missionRoute (s : State) (input : Input) :
    (step s input).missionRoute =
      match input with
      | .message message _ => s.missionRoute.after message
      | _ => s.missionRoute := by
  cases input with
  | message message env =>
    show (evaluate env (cacheMessage message env.nowMs s)).missionRoute = _
    rw [evaluate_missionRoute, cacheMessage_missionRoute]
  | noMessage env =>
    show (updateHealth false env s).missionRoute = s.missionRoute
    unfold updateHealth
    split
    · rfl
    · exact evaluate_missionRoute env s
  | recovery msg env =>
    show (processRecoveryCommand msg env s).missionRoute = s.missionRoute
    obtain ⟨startMs, bridge, uplink, lora, new, events, file, recovered, -, -⟩ :=
      recover_eq msg env { s with
        recoveryRequestedCount := s.recoveryRequestedCount + 1
        cmdCounter := s.cmdCounter + 1 }
    unfold processRecoveryCommand
    dsimp only
    rw [recovered]
    rfl
  | reportHousekeeping env => rfl

end CfsTelemetry.Core
