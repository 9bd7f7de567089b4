import CfsTelemetry.Bridge.Additions
import CfsTelemetry.Mission.System
import CfsTelemetry.Uplink.StatusPair

/-!
# The mission snapshot of the core application

Once nothing is in progress and every message has been taken, the core application shows what
was said last about the mission: the mission that the flight controller confirmed last, or a
whole route that was asked for after it. A route that the flight controller refuses, ignores or
never answers therefore stays in the snapshot until the next confirmation.
-/
namespace CfsTelemetry.Mission

open Run Slots

/-- The waypoints of a message that carries a whole route. -/
def wholeRoute (message : Core.StateMessage) : Option (List Waypoint) :=
  message.route?.map Bridge.readbackList

/-- The cache once the core application has taken all messages. -/
def settledCache (s : System) : Core.RouteCache :=
  s.messages.foldl Core.RouteCache.after s.core.missionRoute

/-- The route that the core application shows once it has taken all messages. -/
def mirrored (s : System) : List Waypoint := routeList (settledCache s)

/-- The readbacks that an event publishes. -/
def readbacksOf (s : System) (event : Event) : List RouteUpdate :=
  match bridgeInput s event with
  | some input => readbacks s.bridge input
  | none => []

/-- The routes that are asked for as a whole in an event. -/
def requests (s : System) (event : Event) : List (List Waypoint) :=
  (routesOf s event).filterMap fun msg => wholeRoute (.routeUpdate msg)

/-- The missions that are read back in an event. -/
def completions (s : System) (event : Event) : List (List Waypoint) :=
  (readbacksOf s event).map Bridge.readbackList

/-- The route that was last asked for as a whole. -/
def lastRequested (boot : Boot) (events : List Event) : Option (List Waypoint) :=
  (project step requests boot.system events).getLast?

/-- What an event puts into the pipe of the core application. -/
def sentToCore (s : System) (event : Event) : List Core.StateMessage :=
  (routesOf s event).map .routeUpdate ++ (readbacksOf s event).map .missionReadback

/-- The route that a message leaves in the cache. -/
theorem routeList_after (cache : Core.RouteCache) (message : Core.StateMessage) :
    routeList (cache.after message) = (wholeRoute message).getD (routeList cache) := by
  unfold Core.RouteCache.after wholeRoute
  cases message.route? <;> rfl

/-- The route that messages leave in the cache is that of the last one that carries a route. -/
theorem routeList_foldl (messages : List Core.StateMessage) (cache : Core.RouteCache) :
    routeList (messages.foldl Core.RouteCache.after cache) =
      (messages.filterMap wholeRoute).getLast?.getD (routeList cache) :=
  @run_latest _ _ _ Core.RouteCache.after routeList wholeRoute cache messages
    (fun message _ cache => routeList_after cache message)

/-- Only messages about the route write the cache. -/
theorem step_missionRoute_of_other {input : Core.Input} (other : isRoute input = false)
    (s : Core.State) : (Core.step s input).missionRoute = s.missionRoute := by
  rw [Core.step_missionRoute]
  cases input with
  | message message env =>
    cases message with
    | routeUpdate msg => cases other
    | missionReadback msg => cases other
    | _ => rfl
  | _ => rfl

/-- An event adds what it sends to what the core application is going to take. -/
theorem step_settledCache (s : System) (event : Event) :
    settledCache (step s event) =
      (sentToCore s event).foldl Core.RouteCache.after (settledCache s) := by
  have appended : ∀ (s' : System) (sent : List Core.StateMessage),
      s'.messages = s.messages ++ sent → s'.core = s.core →
        settledCache s' = sent.foldl Core.RouteCache.after (settledCache s) := by
    intro s' sent messages core
    rw [settledCache, messages, core, List.foldl_append]
    rfl
  cases event with
  | uplink env input =>
    apply appended
    · simp [step, afterUplink, sentToCore, routesOf, readbacksOf, bridgeInput]
    · rfl
  | restartUplink load resetType countEnv markerEnv => rfl
  | takeRoute env =>
    cases routes : s.routes with
    | nil => simp [step, routes, sentToCore, routesOf, readbacksOf, bridgeInput]
    | cons msg rest =>
      apply appended
      · simp [step, routes, afterBridge, sentToCore, routesOf, readbacksOf, bridgeInput]
      · simp [step, routes, afterBridge]
  | bridge input other => exact appended _ _ rfl rfl
  | restartBridge config => rfl
  | takeMessage env =>
    cases messages : s.messages with
    | nil => simp [step, messages, sentToCore, routesOf, readbacksOf, bridgeInput]
    | cons message rest =>
      simp only [step, messages, settledCache, Core.step_missionRoute]
      rfl
  | core input other =>
    simp only [step, settledCache, step_missionRoute_of_other other]
    rfl

/-- An event changes what the core application is going to show to the route that it asks for
or that is read back. -/
theorem step_mirrored (s : System) (event : Event) :
    mirrored (step s event) =
      (requests s event ++ completions s event).getLast?.getD (mirrored s) := by
  have asked : ((routesOf s event).map Core.StateMessage.routeUpdate).filterMap wholeRoute =
      requests s event := by
    rw [List.filterMap_map]
    rfl
  have read : ((readbacksOf s event).map Core.StateMessage.missionReadback).filterMap wholeRoute =
      completions s event := by
    rw [List.filterMap_map]
    exact congrFun List.filterMap_eq_map' (readbacksOf s event)
  rw [mirrored, step_settledCache, routeList_foldl, sentToCore, List.filterMap_append, asked,
    read]
  rfl

/-- An event asks for a whole route. -/
def Replaces (boot : Boot) (before : List Event) (event : Event) : Prop :=
  requests (boot.after before) event ≠ []

/-- The flight controller confirms a mission in an event. -/
def Confirms (boot : Boot) (before : List Event) (event : Event) : Prop :=
  confirmations (boot.after before) event ≠ []

/-- A readback is completed in an event. -/
def Completes (boot : Boot) (before : List Event) (event : Event) : Prop :=
  completions (boot.after before) event ≠ []

/-- The flight controller accepts an upload in an event. -/
def Accepts (boot : Boot) (before : List Event) (event : Event) : Prop :=
  (bridgeInput (boot.after before) event).any (acceptsUpload (boot.after before).bridge) = true

/-- A readback is owed: none has been completed yet, or an upload has been accepted since. -/
def Owed (boot : Boot) (before : List Event) : Prop :=
  ¬ Since (Completes boot) (Accepts boot) before

/-- A readback that is owed is dropped in an event. -/
def Forgets (boot : Boot) (before : List Event) (event : Event) : Prop :=
  Owed boot before ∧ (bridgeInput (boot.after before) event).any
    (Bridge.forgetsReadback (boot.after before).bridge) = true

/-- A readback is going on after an event. -/
def Reads (boot : Boot) (before : List Event) (event : Event) : Prop :=
  (step (boot.after before) event).bridge.missionDownloadState ≠ .idle

section History

variable {boot : Boot} {events : List Event} {event : Event}

/-- The system after one more event. -/
theorem Boot.after_snoc : boot.after (events ++ [event]) = step (boot.after events) event :=
  run_snoc step boot.system events event

/-- What is confirmed in an event is an accepted upload or a completed readback. -/
theorem confirms_iff : Confirms boot events event ↔
    Accepts boot events event ∨ Completes boot events event := by
  unfold Confirms Accepts Completes confirmations completions readbacksOf
  cases bridgeInput (boot.after events) event with
  | none => simp
  | some input => by_cases accepts : acceptsUpload (boot.after events).bridge input <;>
      simp [accepts]

/-- One more event and the debt of a readback. -/
theorem owed_snoc : Owed boot (events ++ [event]) ↔
    ¬ Completes boot events event ∧ (Owed boot events ∨ Accepts boot events event) := by
  unfold Owed
  rw [since_snoc, not_or, not_and_or, not_not]

/-- A readback that is owed and not dropped is going on or put off, on a link that is
connected. -/
theorem awaits_of_owed (remembered : ¬ Since (Forgets boot) (Reads boot) events)
    (owed : Owed boot events) : Bridge.Awaits (boot.after events).bridge := by
  induction events using List.reverseRecOn with
  | nil => exact .of_link nofun
  | append_singleton before event previous =>
    rw [Boot.after_snoc]
    by_cases reads : Reads boot before event
    · exact .of_download reads
    have kept := fun forgets => remembered (since_snoc.mpr (.inl forgets))
    have earlier : ¬ Since (Forgets boot) (Reads boot) before :=
      fun since => remembered (since_snoc.mpr (.inr ⟨since, reads⟩))
    obtain ⟨unread, owes⟩ := owed_snoc.mp owed
    have sound := run_bridgeSound boot before
    rcases step_bridge (boot.after before) event with ⟨config, -, restarted⟩ | goesOn
    · rw [restarted]
      exact .of_link nofun
    cases taken : bridgeInput (boot.after before) event with
    | none =>
      have idle : ¬ Accepts boot before event := by simp [Accepts, taken]
      rw [goesOn, taken]
      exact previous earlier (owes.resolve_right idle)
    | some input =>
      have stepped : (step (boot.after before) event).bridge =
          Bridge.step (boot.after before).bridge input := by
        rw [goesOn, taken]
        rfl
      by_cases accepts : Accepts boot before event
      · have takes : acceptsUpload (boot.after before).bridge input = true := by
          simpa [Accepts, taken] using accepts
        have downloads := (acceptsUpload_iff.mp takes).downloads
        exact absurd (by rw [Reads, stepped]; exact downloads) reads
      have owedBefore := owes.resolve_right accepts
      have unforgotten : Bridge.forgetsReadback (boot.after before).bridge input = false := by
        by_contra forgets
        exact kept ⟨owedBefore, by simpa [taken] using forgets⟩
      have awaits := Bridge.step_awaits sound.inRange sound.collects unforgotten
        (previous earlier owedBefore)
      rcases awaits with awaits | published
      · rw [stepped]
        exact awaits
      · exact absurd (by simpa [Completes, completions, readbacksOf, taken, readbacks] using
          published) unread

/-- What is confirmed last in an event that completes a readback is that readback. -/
theorem confirmations_getLast? {s : System} (read : completions s event ≠ []) :
    (confirmations s event).getLast? = (completions s event).getLast? := by
  unfold confirmations completions readbacksOf at *
  cases taken : bridgeInput s event with
  | none => rfl
  | some input =>
    rw [taken] at read
    simp only [List.getLast?_append]
    rw [List.getLast?_eq_some_getLast read, Option.some_or]

/-- The mission confirmed last, with one more event. -/
theorem lastConfirmed_snoc : lastConfirmed boot (events ++ [event]) =
    (confirmations (boot.after events) event).getLast?.or (lastConfirmed boot events) := by
  rw [lastConfirmed, project_snoc, List.getLast?_append]
  rfl

/-- The route asked for last as a whole, with one more event. -/
theorem lastRequested_snoc : lastRequested boot (events ++ [event]) =
    (requests (boot.after events) event).getLast?.or (lastRequested boot events) := by
  rw [lastRequested, project_snoc, List.getLast?_append]
  rfl

/-- A readback that nothing has replaced since, and that no accepted upload has followed, is both
the mission confirmed last and the route that the core application is going to show. -/
theorem mirrored_of_read (unreplaced : ¬ Since (Replaces boot) (Completes boot) events)
    (read : Since (Completes boot) (Accepts boot) events) :
    lastConfirmed boot events = some (mirrored (boot.after events)) := by
  induction events using List.reverseRecOn with
  | nil => exact absurd read since_nil
  | append_singleton before event previous =>
    have quiet : requests (boot.after before) event = [] := by
      by_contra asks
      exact unreplaced (since_snoc.mpr (.inl asks))
    rw [Boot.after_snoc, step_mirrored, quiet, List.nil_append, lastConfirmed_snoc]
    by_cases completes : completions (boot.after before) event = []
    · have unread : ¬ Completes boot before event := not_not.mpr completes
      obtain ⟨earlier, unaccepted⟩ := (since_snoc.mp read).resolve_left unread
      have nothing : confirmations (boot.after before) event = [] := by
        by_contra confirms
        exact (confirms_iff.mp confirms).elim unaccepted unread
      rw [nothing, completes]
      exact previous (fun since => unreplaced (since_snoc.mpr (.inr ⟨since, unread⟩))) earlier
    · rw [confirmations_getLast? completes, List.getLast?_eq_some_getLast completes]
      rfl

/-- An event that asks for a route reads none back. -/
theorem completions_of_requests {s : System} (asks : requests s event ≠ []) :
    completions s event = [] := by
  cases event with
  | uplink env input => rfl
  | _ => exact absurd rfl asks

/-- A route that was asked for as a whole after all that is confirmed is the route that the core
application is going to show. -/
theorem mirrored_of_requested (replaced : Since (Replaces boot) (Confirms boot) events) :
    lastRequested boot events = some (mirrored (boot.after events)) := by
  induction events using List.reverseRecOn with
  | nil => exact absurd replaced since_nil
  | append_singleton before event previous =>
    rw [Boot.after_snoc, step_mirrored, lastRequested_snoc]
    by_cases asks : requests (boot.after before) event = []
    · have kept : ¬ Replaces boot before event := not_not.mpr asks
      obtain ⟨earlier, unconfirmed⟩ := (since_snoc.mp replaced).resolve_left kept
      have unread : completions (boot.after before) event = [] := by
        by_contra completes
        exact unconfirmed (confirms_iff.mpr (.inr completes))
      rw [asks, unread]
      exact previous earlier
    · rw [completions_of_requests asks, List.append_nil, List.getLast?_eq_some_getLast asks]
      rfl

/-- A route that no readback has followed is one that nothing has confirmed since, or a readback
is owed. -/
theorem replaced_or_owed (replaced : Since (Replaces boot) (Completes boot) events) :
    Since (Replaces boot) (Confirms boot) events ∨ Owed boot events := by
  induction events using List.reverseRecOn with
  | nil => exact absurd replaced since_nil
  | append_singleton before event previous =>
    rcases since_snoc.mp replaced with asks | ⟨earlier, unread⟩
    · exact .inl (since_snoc.mpr (.inl asks))
    · rw [owed_snoc, since_snoc]
      by_cases accepts : Accepts boot before event
      · exact .inr ⟨unread, .inr accepts⟩
      · have unconfirmed : ¬ Confirms boot before event := by
          rw [confirms_iff]
          exact not_or.mpr ⟨accepts, unread⟩
        rcases previous earlier with since | owed
        · exact .inl (.inr ⟨since, unconfirmed⟩)
        · exact .inr ⟨unread, .inl owed⟩

/-- Where nothing is in progress, no readback waits. -/
theorem Quiescent.not_awaits {s : System} (quiescent : Quiescent s) :
    ¬ Bridge.Awaits s.bridge := by
  intro awaits
  rcases awaits quiescent.link with downloads | pending
  · exact downloads quiescent.download
  · rw [quiescent.readback] at pending
    cases pending

/-- Where nothing is in progress, the core application shows what it is going to show. -/
theorem Quiescent.mirrored {s : System} (quiescent : Quiescent s) :
    mirrored s = routeList s.core.missionRoute := by
  rw [Mission.mirrored, settledCache, quiescent.messages]
  rfl

end History

/-- Where nothing is in progress, and no readback that was owed has been dropped without another
one having begun since, the core application shows the mission that the flight controller
confirmed last, or the route that was asked for as a whole after it. -/
theorem snapshot_latest (boot : Boot) (events : List Event)
    (quiescent : Quiescent (boot.after events))
    (remembered : ¬ Since (Forgets boot) (Reads boot) events) :
    (¬ Since (Replaces boot) (Confirms boot) events →
      lastConfirmed boot events = some (routeList (boot.after events).core.missionRoute)) ∧
    (Since (Replaces boot) (Confirms boot) events →
      lastRequested boot events = some (routeList (boot.after events).core.missionRoute)) := by
  have unowed : ¬ Owed boot events := fun owed =>
    quiescent.not_awaits (awaits_of_owed remembered owed)
  rw [← quiescent.mirrored]
  constructor
  · intro confirmed
    apply mirrored_of_read
    · exact fun replaced => (replaced_or_owed replaced).elim confirmed unowed
    · exact not_not.mp unowed
  · exact mirrored_of_requested

/-! ## Runs of the system -/

/-- All applications start without stored state. -/
def coldBoot : Boot where
  load := .read
  resetType := 1
  countEnv := Uplink.workingEnv 1000
  markerEnv := Uplink.workingEnv 1000
  uplinkFile := none
  restored := Core.Restored.none
  coreFile := none
  config := .default

/-- The waypoint of the route commands. -/
def askedWaypoint : Waypoint := ⟨16, 0, 0, 0, 0, 0, 0, 0x40A00000⟩

/-- A route command of one waypoint. -/
def routeCmd (routeType : UInt8) (sequence checksum : UInt16) : ProcessUplinkCmd where
  version := 1
  commandClass := 2
  payloadLength := 33
  flags := 0x80
  sequence := sequence
  checksum := checksum
  payload := Vector.ofFn fun index =>
    ([routeType, 2, 1, 0, 16] ++ List.replicate 26 0 ++ [0xA0, 0x40]).getD index 0

/-- The ground asks for a route. -/
def asked (routeType : UInt8) (sequence checksum : UInt16) (timeMs : UInt32) : Event :=
  .uplink (Uplink.workingEnv timeMs)
    (.received (.command 2 204 (routeCmd routeType sequence checksum)))

/-- The link is connected, the readback finds no mission, and the system is well. -/
def connected : List Event :=
  [.bridge (.reconnect 1000 "/dev/serial0" (.opened 1000) (Bridge.Env.at 1000)) rfl,
    .bridge (Bridge.received .heartbeat [0, 0, 0, 0, 2, 3, 81, 4, 3] 1100) rfl,
    .bridge (Bridge.received .missionCount [0, 0, 255, 190, 0] 1200) rfl,
    .uplink (Uplink.workingEnv 1200) (.received (.systemHealth 0))]

/-- A route of one waypoint is uploaded, and the flight controller answers with a result. -/
def uploaded (result : UInt8) (timeMs : UInt32) : List Event :=
  [.takeRoute (Bridge.Env.at timeMs),
    .bridge (.checkUpload (timeMs + 300) (Bridge.Env.at (timeMs + 300))) rfl,
    .bridge (Bridge.received .missionRequestInt [0, 0, 255, 190, 0] (timeMs + 310)) rfl,
    .bridge (Bridge.received .missionAck [255, 190, result, 0] (timeMs + 320)) rfl]

/-- The core application takes messages. -/
def taken (count timeMs : Nat) : List Event :=
  List.replicate count (.takeMessage (Core.Env.at timeMs))

/-- A route is asked for as a whole, accepted and read back. -/
def acceptedRoute : List Event :=
  connected ++ [asked 1 1 2351 1400] ++ uploaded 0 2000 ++
    [.bridge (Bridge.received .missionCount [1, 0, 255, 190, 0] 2340) rfl,
      .bridge (Bridge.received .missionItemInt
        (Bridge.missionItemIntPayload 255 190 askedWaypoint 0 false) 2350) rfl] ++ taken 3 2400

/-- A route is asked for as a whole, and the flight controller refuses it. -/
def refusedRoute : List Event :=
  connected ++ [asked 1 1 2351 1400] ++ uploaded 1 2000 ++ taken 2 2400

/-- A waypoint is added and accepted, its readback times out, and the link is lost and connected
again during the upload of another one, which the flight controller refuses. -/
def droppedReadback : List Event :=
  connected ++ [asked 2 1 36714 1400] ++ uploaded 0 2000 ++
    [.bridge (.checkDownload 6000) rfl, asked 2 2 9781 6100, .takeRoute (Bridge.Env.at 6200),
      .bridge (.readFailure 5 (Bridge.Env.at 6300)) rfl,
      .bridge (.reconnect 7000 "/dev/serial0" (.opened 7000) (Bridge.Env.at 7000)) rfl,
      .bridge (.checkUpload 7300 (Bridge.Env.at 7300)) rfl,
      .bridge (Bridge.received .missionRequestInt [0, 0, 255, 190, 0] 7310) rfl,
      .bridge (Bridge.received .missionAck [255, 190, 1, 0] 7320) rfl] ++ taken 3 7400

instance (s : System) : Decidable (Quiescent s) := decidable_of_iff' _ (quiescent_iff s)

/-- The core application shows the route that was accepted and read back. -/
theorem snapshot_latest_accepted :
    (¬ Since (Replaces coldBoot) (Confirms coldBoot) acceptedRoute →
      lastConfirmed coldBoot acceptedRoute =
        some (routeList (coldBoot.after acceptedRoute).core.missionRoute)) ∧
    (Since (Replaces coldBoot) (Confirms coldBoot) acceptedRoute →
      lastRequested coldBoot acceptedRoute =
        some (routeList (coldBoot.after acceptedRoute).core.missionRoute)) := by
  apply snapshot_latest
  · decide +kernel
  · rintro ⟨before, event, after, place, ⟨-, forgets⟩, -⟩
    have sound : ∀ s event, (!(bridgeInput s event).any (Bridge.forgetsReadback s.bridge)) = true →
        (bridgeInput s event).any (Bridge.forgetsReadback s.bridge) ≠ true := by
      intro s event check
      simpa using check
    have kept := @each_of_checks _ _ step _ _ sound coldBoot.system acceptedRoute
      (by decide +kernel)
    exact kept before event after place forgets

/-- A route that was refused stays in the snapshot, and a mission that was accepted is missing
when its readback is dropped. -/
theorem snapshot_not_confirmed :
    (Quiescent (coldBoot.after refusedRoute) ∧ lastConfirmed coldBoot refusedRoute = some [] ∧
      routeList (coldBoot.after refusedRoute).core.missionRoute = [askedWaypoint]) ∧
    (Quiescent (coldBoot.after droppedReadback) ∧
      lastConfirmed coldBoot droppedReadback = some [askedWaypoint] ∧
        routeList (coldBoot.after droppedReadback).core.missionRoute = []) := by
  decide +kernel

end CfsTelemetry.Mission
