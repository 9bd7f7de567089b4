import CfsTelemetry.Bridge.Owed
import CfsTelemetry.Bridge.Resume
import CfsTelemetry.Core.Mirror
import CfsTelemetry.Uplink.Commit
import Mathlib.Tactic.MkIffOfInductiveProp

/-!
# The mission in three applications

The uplink application publishes route updates for the bridge and for the core application, and
the bridge publishes the missions that it reads back for the core application. A message waits in
the pipe of its receiver, in the order of sending. The supervision may restart the uplink
application and the bridge at any time; what waits for the bridge is lost then.
-/
namespace CfsTelemetry.Mission

open Run Slots

/-- The applications, the route updates that wait for the bridge, and the route updates and
readbacks that wait for the core application, oldest first. -/
structure System where
  uplink : Uplink.State
  core : Core.State
  bridge : Bridge.State
  routes : List RouteUpdate
  messages : List Core.StateMessage

/-- Whether an input of the core application is a message about the route, which comes through
its pipe. -/
def isRoute : Core.Input → Bool
  | .message (.routeUpdate _) _ | .message (.missionReadback _) _ => true
  | _ => false

/-- Something that happens in the system. -/
inductive Event where
  /-- A round of the uplink application. -/
  | uplink (env : Uplink.Env) (input : Uplink.Input)
  /-- The uplink application starts again. -/
  | restartUplink (load : Uplink.LoadIo) (resetType : UInt8) (countEnv markerEnv : Uplink.Env)
  /-- The bridge takes the route update that has waited longest. -/
  | takeRoute (env : Bridge.Env)
  /-- Something else happens to the bridge. -/
  | bridge (input : Bridge.Input) (other : Bridge.Input.noUpdate input = true)
  /-- The bridge starts again. -/
  | restartBridge (config : Bridge.ConfigParams)
  /-- The core application takes the message about the route that has waited longest. -/
  | takeMessage (env : Core.Env)
  /-- Something else happens to the core application. -/
  | core (input : Core.Input) (other : isRoute input = false)

/-- The route updates that the uplink application has published, from its states before and
after, oldest first. -/
def publishedRoutes (before after : Uplink.State) : List RouteUpdate :=
  (Uplink.newOutputs before after).reverse.filterMap fun
    | .transmit (.routeUpdate msg) true => some msg
    | _ => none

/-- The readbacks that the bridge publishes with an input, oldest first. -/
def readbacks (s : Bridge.State) (input : Bridge.Input) : List RouteUpdate :=
  (Bridge.publishedReadbacks s (Bridge.step s input)).reverse

/-- The system after the uplink application has published route updates. -/
def afterUplink (s : System) (uplink : Uplink.State) : System :=
  { s with
    uplink := uplink
    routes := s.routes ++ publishedRoutes s.uplink uplink
    messages := s.messages ++ (publishedRoutes s.uplink uplink).map .routeUpdate }

/-- The system after an input of the bridge. -/
def afterBridge (s : System) (input : Bridge.Input) : System :=
  { s with
    bridge := Bridge.step s.bridge input
    messages := s.messages ++ (readbacks s.bridge input).map .missionReadback }

/-- What an event brings about. Nothing is taken from an empty pipe. -/
def step (s : System) : Event → System
  | .uplink env input => afterUplink s (Uplink.step s.uplink (env, input))
  | .restartUplink load resetType countEnv markerEnv =>
    { s with uplink := Uplink.init load resetType countEnv markerEnv s.uplink.stateFile }
  | .takeRoute env =>
    match s.routes with
    | [] => s
    | msg :: rest => afterBridge { s with routes := rest } (.routeUpdate msg env)
  | .bridge input _ => afterBridge s input
  | .restartBridge config => { s with bridge := Bridge.initialState config, routes := [] }
  | .takeMessage env =>
    match s.messages with
    | [] => s
    | message :: rest =>
      { s with core := Core.step s.core (.message message env), messages := rest }
  | .core input _ => { s with core := Core.step s.core input }

/-- What the applications start with. -/
structure Boot where
  load : Uplink.LoadIo
  resetType : UInt8
  countEnv : Uplink.Env
  markerEnv : Uplink.Env
  uplinkFile : Option (List UInt8)
  restored : Core.Restored
  coreFile : Option (List UInt8)
  config : Bridge.ConfigParams

/-- The system after its start. -/
def Boot.system (boot : Boot) : System where
  uplink := Uplink.init boot.load boot.resetType boot.countEnv boot.markerEnv boot.uplinkFile
  core := Core.initialState boot.restored boot.coreFile
  bridge := Bridge.initialState boot.config
  routes := []
  messages := []

/-- The system after events. -/
def Boot.after (boot : Boot) (events : List Event) : System := run step boot.system events

/-- The route updates that an event publishes. -/
def routesOf (s : System) : Event → List RouteUpdate
  | .uplink env input => publishedRoutes s.uplink (Uplink.step s.uplink (env, input))
  | _ => []

/-- The input of the bridge that an event is, if it is one. -/
def bridgeInput (s : System) : Event → Option Bridge.Input
  | .takeRoute env => s.routes.head?.map fun msg => .routeUpdate msg env
  | .bridge input _ => some input
  | _ => none

/-- Whether an input of the bridge is an accepting acknowledgement taken by an active upload. -/
def acceptsUpload (s : Bridge.State) : Bridge.Input → Bool
  | .frame frame _ _ =>
    Bridge.acknowledgedResult frame = some Bridge.missionAccepted ∧ s.missionUploadState = .active
  | _ => false

/-- The missions that the flight controller confirms in an event: an upload that it accepts, and
a mission that is read back from it. -/
def confirmations (s : System) (event : Event) : List (List Waypoint) :=
  match bridgeInput s event with
  | some input =>
    (if acceptsUpload s.bridge input then [Bridge.pendingList s.bridge] else []) ++
      (readbacks s.bridge input).map Bridge.readbackList
  | none => []

/-- The mission that the flight controller has confirmed last. -/
def lastConfirmed (boot : Boot) (events : List Event) : Option (List Waypoint) :=
  (project step confirmations boot.system events).getLast?

/-- The waypoints of the route that the core application shows. -/
def routeList (cache : Core.RouteCache) : List Waypoint :=
  held cache.waypointCount.toNat cache.waypoints

/-- Nothing is in progress: the link is connected, no upload, download or readback is going on
or put off, and all messages have been taken. -/
@[mk_iff] structure Quiescent (s : System) : Prop where
  link : s.bridge.linkState = .connected
  upload : s.bridge.missionUploadState = .idle
  download : s.bridge.missionDownloadState = .idle
  readback : s.bridge.missionReadbackPending = false
  routes : s.routes = []
  messages : s.messages = []

/-- An accepting acknowledgement taken by an active upload is what the bridge takes for one. -/
theorem acceptsUpload_iff {s : Bridge.State} {input : Bridge.Input} :
    acceptsUpload s input = true ↔ Bridge.TakesAck s input := by
  unfold acceptsUpload Bridge.TakesAck
  constructor
  · intro accepts
    cases input with
    | frame frame rxTimestampMs env =>
      obtain ⟨accepted, active⟩ := of_decide_eq_true accepts
      exact ⟨frame, rxTimestampMs, env, rfl, accepted, active⟩
    | _ => cases accepts
  · rintro ⟨ack, rxTimestampMs, env, rfl, accepted, active⟩
    exact decide_eq_true ⟨accepted, active⟩

/-! ## The bridge in the system -/

/-- What every state of the bridge in the system meets. -/
structure BridgeSound (s : Bridge.State) : Prop where
  inRange : Bridge.InRange s
  collects : (Bridge.fetch s).Collects Bridge.downloadLimit routeMaxWaypoints

/-- A bridge that starts is sound. -/
theorem initialState_sound (config : Bridge.ConfigParams) :
    BridgeSound (Bridge.initialState config) :=
  ⟨Bridge.initialState_inRange config, Bridge.initialState_collects config⟩

/-- Inputs keep the bridge sound. -/
theorem BridgeSound.step {s : Bridge.State} (sound : BridgeSound s) (input : Bridge.Input) :
    BridgeSound (Bridge.step s input) :=
  ⟨Bridge.run_inRange sound.inRange [input],
    Bridge.run_collects sound.inRange sound.collects [input]⟩

/-- The bridge after an event: restarted, after its input, or as it was. -/
theorem step_bridge (s : System) (event : Event) :
    (∃ config, event = .restartBridge config ∧
        (step s event).bridge = Bridge.initialState config) ∨
      (step s event).bridge = (bridgeInput s event).elim s.bridge (Bridge.step s.bridge) := by
  cases event with
  | restartBridge config => exact .inl ⟨config, rfl, rfl⟩
  | takeRoute env =>
    right
    unfold step bridgeInput
    cases s.routes <;> rfl
  | takeMessage env =>
    right
    unfold step
    dsimp only
    split <;> rfl
  | _ => exact .inr rfl

/-- The bridge is sound after every run of the system. -/
theorem run_bridgeSound (boot : Boot) (events : List Event) :
    BridgeSound (boot.after events).bridge := by
  refine @run_invariant _ _ step (fun s => BridgeSound s.bridge) (fun s event sound => ?_) events
    boot.system (initialState_sound boot.config)
  rcases step_bridge s event with ⟨config, -, restarted⟩ | goesOn
  · rw [restarted]
    exact initialState_sound config
  · rw [goesOn]
    cases bridgeInput s event with
    | none => exact sound
    | some input => exact sound.step input

end CfsTelemetry.Mission
