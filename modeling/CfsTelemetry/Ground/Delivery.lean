import CfsTelemetry.Ground.RoundTrip
import CfsTelemetry.Lora.Dispatch

/-!
# What the ground learns of delivered telemetry

The cache of the LoRa application holds one content of each kind of telemetry. When every
message that was delivered has found its branch, the cache holds the last content of each kind,
and so does the next frame, as far as its layout has a place for it.
-/
namespace CfsTelemetry.Ground

open Lora Run

/-- The kinds of telemetry that the cache holds. -/
inductive Kind where
  | attitude | ekfLocal | gpsRaw | ekfStatus | systemHealth | sysTime
  deriving DecidableEq, Repr

/-- The content of a message of a kind of telemetry. -/
inductive Content where
  | attitude (valid : UInt8) (rollRad pitchRad yawRad : UInt32)
  | ekfLocal (valid : UInt8) (x y z vx vy vz : UInt32)
  | gpsRaw (valid : UInt8) (latE7 lonE7 altMm : Int32) (fixType satellitesVisible : UInt8)
  | ekfStatus (valid : UInt8)
  | systemHealth (timestampMs : UInt32) (healthState faultCode : UInt8)
  | sysTime (valid : UInt8) (timeUnixUsec : UInt64)
  deriving DecidableEq, Repr

/-- The content of a kind that a message has. -/
def contentOf (kind : Kind) (packet : Packet) : Option Content :=
  match kind, packet with
  | .attitude, .telemetry (.attitude _ valid rollRad pitchRad yawRad) =>
    some (.attitude valid rollRad pitchRad yawRad)
  | .ekfLocal, .telemetry (.ekfLocal _ valid x y z vx vy vz) =>
    some (.ekfLocal valid x y z vx vy vz)
  | .gpsRaw, .telemetry (.gpsRaw _ valid latE7 lonE7 altMm fixType satellitesVisible) =>
    some (.gpsRaw valid latE7 lonE7 altMm fixType satellitesVisible)
  | .ekfStatus, .telemetry (.ekfStatus _ valid) => some (.ekfStatus valid)
  | .systemHealth, .telemetry (.systemHealth timestampMs healthState faultCode) =>
    some (.systemHealth timestampMs healthState faultCode)
  | .sysTime, .sysTime valid timeUnixUsec => some (.sysTime valid timeUnixUsec)
  | _, _ => none

/-- The content of a kind that the cache holds. -/
def held (kind : Kind) (s : State) : Content :=
  match kind with
  | .attitude =>
    .attitude s.fcState.attitudeValid s.fcState.rollRad s.fcState.pitchRad s.fcState.yawRad
  | .ekfLocal =>
    .ekfLocal s.fcState.localValid s.fcState.posX s.fcState.posY s.fcState.posZ s.fcState.velX
      s.fcState.velY s.fcState.velZ
  | .gpsRaw =>
    .gpsRaw s.fcState.gpsValid s.fcState.latE7 s.fcState.lonE7 s.fcState.altMm s.fcState.gpsFix
      s.fcState.satellitesVisible
  | .ekfStatus => .ekfStatus s.fcState.ekfValid
  | .systemHealth =>
    .systemHealth s.systemHealth.timestampMs s.systemHealth.systemHealthState
      s.systemHealth.faultCode
  | .sysTime => .sysTime s.fcState.timeValid s.fcState.timeUnixUsec

/-- The time of a message of the flight controller, for which the cache has one place. -/
def timestampOf : Packet → Option UInt32
  | .telemetry (.attitude timestampMs ..) => some timestampMs
  | .telemetry (.ekfLocal timestampMs ..) => some timestampMs
  | .telemetry (.gpsRaw timestampMs ..) => some timestampMs
  | .telemetry (.ekfStatus timestampMs ..) => some timestampMs
  | _ => none

/-- A decoded frame carries a content, as far as the layout has a place for it. -/
def Carries (frame : Dl2Frame) : Content → Prop
  | .attitude _ rollRad pitchRad yawRad =>
    frame.rollRad = scaleRadToI16 rollRad ∧ frame.pitchRad = scaleRadToI16 pitchRad ∧
      frame.yawRad = scaleRadToI16 yawRad
  | .ekfLocal _ x y z vx vy vz =>
    (frame.xM = (scaleMeterToI16Cm x).1 ∧ frame.yM = (scaleMeterToI16Cm y).1 ∧
      frame.zM = (scaleMeterToI16Cm z).1) ∧ frame.vxMps = (scaleMeterToI16Cm vx).1 ∧
      frame.vyMps = (scaleMeterToI16Cm vy).1 ∧ frame.vzMps = (scaleMeterToI16Cm vz).1
  | .gpsRaw _ latE7 lonE7 altMm fixType satellitesVisible =>
    frame.latE7 = latE7 ∧ frame.lonE7 = lonE7 ∧ frame.altMm = altMm ∧ frame.fix = fixType ∧
      frame.sats = satellitesVisible
  | .ekfStatus _ => True
  | .systemHealth _ healthState faultCode =>
    frame.health = healthState ∧ frame.fault = faultCode
  | .sysTime valid timeUnixUsec =>
    frame.sysTimeUnixUsec = if valid != 0 then some timeUnixUsec else none

/-- A frame carries what the cache holds. -/
theorem dl2Of_carries (kind : Kind) (s : State) : Carries (dl2Of s) (held kind s) := by
  cases kind with
  | attitude => exact ⟨rfl, rfl, rfl⟩
  | ekfLocal => exact ⟨⟨rfl, rfl, rfl⟩, rfl, rfl, rfl⟩
  | gpsRaw => exact ⟨rfl, rfl, rfl, rfl, rfl⟩
  | ekfStatus => trivial
  | systemHealth => exact ⟨rfl, rfl⟩
  | sysTime => exact rfl

/-- The part of the application data that holds telemetry. -/
def cacheOf (s : State) : FcStateCache × SystemHealthCache := (s.fcState, s.systemHealth)

/-- What the cache holds depends on its part of the data only. -/
theorem held_congr {s s' : State} (same : cacheOf s' = cacheOf s) (kind : Kind) :
    held kind s' = held kind s := by
  obtain ⟨fc, health⟩ := Prod.mk.inj same
  unfold held
  rw [fc, health]

/-- The cache takes the content of a message and keeps what the message has no content of. -/
theorem updateCache_held (kind : Kind) (packet : Packet) (s : State) :
    held kind (updateCache packet s) = (contentOf kind packet).getD (held kind s) := by
  cases packet with
  | telemetry message => cases message <;> cases kind <;> rfl
  | sysTime valid timeUnixUsec => cases kind <;> rfl
  | _ => cases kind <;> rfl

/-- The cache takes the time of a message of the flight controller. -/
theorem updateCache_timestampMs (packet : Packet) (s : State) :
    (updateCache packet s).fcState.timestampMs =
      (timestampOf packet).getD s.fcState.timestampMs := by
  cases packet with
  | telemetry message => cases message <;> rfl
  | _ => rfl

/-- What is no message of another application leaves the cache alone. -/
theorem processPacket_cache (env : PacketEnv) {packet : Packet} (command : packet.message = none)
    (app : App) : cacheOf (processPacket env packet app).data = cacheOf app.data := by
  have handled := processPacket_handled env packet app
  generalize (processPacket env packet app).data = s at handled ⊢
  cases handled with
  | taken message own =>
    rw [own] at command
    cases command
  | nothing | protocol | counters => rfl

/-- Whether a message is a system time. -/
def IsSysTime : Packet → Prop
  | .sysTime .. => True
  | _ => False

instance (packet : Packet) : Decidable (IsSysTime packet) := by
  cases packet <;> unfold IsSysTime <;> infer_instance

/-- Every message but a system time brings its content into the cache, and nothing else changes
what the cache holds. -/
theorem processPacket_held (env : PacketEnv) {packet : Packet} {kind : Kind}
    (found : kind = .sysTime → ¬ IsSysTime packet) (app : App) :
    held kind (processPacket env packet app).data =
      (contentOf kind packet).getD (held kind app.data) := by
  have without (same : cacheOf (processPacket env packet app).data = cacheOf app.data)
      (none : contentOf kind packet = none) :
      held kind (processPacket env packet app).data =
        (contentOf kind packet).getD (held kind app.data) := by
    rw [none]
    exact held_congr same kind
  cases packet with
  | telemetry message =>
    cases message with
    | routeSnapshot routeType waypointCount waypoints =>
      exact without rfl (by cases kind <;> rfl)
    | _ => exact updateCache_held kind (.telemetry _) app.data
  | sysTime valid timeUnixUsec =>
    cases kind with
    | sysTime => exact absurd trivial (found rfl)
    | _ => exact without (processPacket_cache env rfl app) rfl
  | uplinkStatus tlm => exact without rfl (by cases kind <;> rfl)
  | _ => exact without (processPacket_cache env rfl app) (by cases kind <;> rfl)

/-- Every message of the flight controller with a time of its own brings it into the cache. -/
theorem processPacket_timestampMs (env : PacketEnv) (packet : Packet) (app : App) :
    (processPacket env packet app).data.fcState.timestampMs =
      (timestampOf packet).getD app.data.fcState.timestampMs := by
  have without (same : cacheOf (processPacket env packet app).data = cacheOf app.data) :
      (processPacket env packet app).data.fcState.timestampMs =
        app.data.fcState.timestampMs := by
    obtain ⟨fc, -⟩ := Prod.mk.inj same
    exact congrArg FcStateCache.timestampMs fc
  cases packet with
  | telemetry message =>
    cases message with
    | routeSnapshot routeType waypointCount waypoints => exact without rfl
    | _ => exact updateCache_timestampMs (.telemetry _) app.data
  | uplinkStatus tlm => exact without rfl
  | _ => exact without (processPacket_cache env rfl app)

/-- The number of event messages on an unknown identifier. -/
def unknownMids (app : App) : Nat := app.reports.countP fun report => report.id == .midErr

/-- Saving the state reports no unknown identifier. -/
theorem saveState_unknownMids (env : PacketEnv) (app : App) :
    unknownMids (saveState env app) = unknownMids app := by
  unfold saveState
  cases env.save <;> rfl

/-- Choosing the downlink protocol reports no unknown identifier. -/
theorem applyProtocol_unknownMids (env : PacketEnv) (useV2 : Bool) (suffix : String) (app : App) :
    unknownMids (applyProtocol env useV2 suffix app) = unknownMids app := by
  unfold applyProtocol
  exact saveState_unknownMids env _

/-- A ground command reports no unknown identifier. -/
theorem processGroundCommand_unknownMids (env : PacketEnv) (fcnCode : UInt16) (size : Nat)
    (useV2 : UInt8) (app : App) :
    unknownMids (processGroundCommand env fcnCode size useV2 app) = unknownMids app := by
  unfold processGroundCommand setDownlinkProtocol
  repeat' split
  all_goals first | rfl | exact applyProtocol_unknownMids _ _ _ _

/-- A diagnostic command reports no unknown identifier. -/
theorem processDiagnosticCommand_unknownMids (cmd : DiagnosticCmd) (app : App) :
    unknownMids (processDiagnosticCommand cmd app) = unknownMids app := by
  unfold processDiagnosticCommand
  dsimp only
  repeat' split
  all_goals rfl

/-- A configuration command reports no unknown identifier. -/
theorem processConfigCommand_unknownMids (env : PacketEnv) (cmd : ConfigCmd) (app : App) :
    unknownMids (processConfigCommand env cmd app) = unknownMids app := by
  unfold processConfigCommand
  dsimp only
  repeat' split
  all_goals first | rfl | exact applyProtocol_unknownMids _ _ " (via CONFIG_CMD_MID)" _

/-- A refused message reports an unknown identifier. -/
theorem failMid_unknownMids (msgId : MsgId) (app : App) :
    unknownMids (failMid msgId app) = unknownMids app + 1 := by
  unfold unknownMids failMid report
  exact List.countP_cons_of_pos rfl

/-- Of the messages that are subscribed to, only a system time finds no branch. -/
theorem branch_eq_unknown_iff {packet : Packet} (subscribed : packet.msgId ∈ subscriptions) :
    branch packet.msgId = .unknown ↔ IsSysTime packet := by
  cases packet with
  | telemetry message =>
    cases message <;> exact iff_of_false (fun unknown => nomatch unknown) id
  | sysTime valid timeUnixUsec => exact iff_of_true rfl trivial
  | other msgId foreign => exact absurd subscribed foreign
  | _ => exact iff_of_false (fun unknown => nomatch unknown) id

/-- A message reports an unknown identifier exactly if no branch is for it. -/
theorem processPacket_unknownMids (env : PacketEnv) (packet : Packet) (app : App) :
    unknownMids (processPacket env packet app) =
      unknownMids app + if branch packet.msgId = .unknown then 1 else 0 := by
  cases packet with
  | telemetry message => cases message <;> rfl
  | sysTime valid timeUnixUsec => exact failMid_unknownMids fcSysTimeMid app
  | groundCommand fcnCode size useV2 =>
    exact processGroundCommand_unknownMids env fcnCode size useV2 app
  | sendHk => rfl
  | diagnostic cmd => exact processDiagnosticCommand_unknownMids cmd app
  | config cmd => exact processConfigCommand_unknownMids env cmd app
  | uplinkStatus tlm => rfl
  | other msgId foreign =>
    have unknown : branch (Packet.other msgId foreign).msgId = .unknown := branch_foreign foreign
    rw [processPacket_other, failMid_unknownMids, if_pos unknown]

/-! ## Delivered telemetry -/

/-- The branch that is there for a message. -/
def ownBranch : Packet → Branch
  | .groundCommand .. => .groundCommand
  | .sendHk => .sendHk
  | .telemetry (.routeSnapshot ..) => .routeSnapshot
  | .telemetry _ => .cache
  | .sysTime .. => .cache
  | .diagnostic _ => .diagnostic
  | .config _ => .config
  | .uplinkStatus _ => .uplinkStatus
  | .other .. => .unknown

/-- A message that is subscribed to and is no system time finds its branch. -/
theorem branch_eq_ownBranch {packet : Packet} (found : ¬ IsSysTime packet) :
    branch packet.msgId = ownBranch packet := by
  cases packet with
  | telemetry message => cases message <;> rfl
  | sysTime valid timeUnixUsec => exact absurd trivial found
  | other msgId foreign => exact branch_foreign foreign
  | _ => rfl

section

variable (app : App) (deliveries : List Delivery)

/-- The last content of a kind that was delivered, or else what the cache held before. -/
def lastContent (kind : Kind) : Content :=
  (deliveries.filterMap fun delivery => contentOf kind delivery.packet).getLast?.getD
    (held kind app.data)

/-- The last time that was delivered, or else the one that the cache held before. -/
def lastTimestampMs : UInt32 :=
  (deliveries.filterMap fun delivery => timestampOf delivery.packet).getLast?.getD
    app.data.fcState.timestampMs

/-- Delivered telemetry reaches the downlink: every message is handled by its own branch and no
identifier is reported as unknown, the cache holds the last content of each kind, and so does
what the ground decodes of the next frame. -/
structure Reaches : Prop where
  handled : ∀ delivery ∈ deliveries, branch delivery.packet.msgId = ownBranch delivery.packet
  known : unknownMids (run deliver app deliveries) = unknownMids app
  cached : ∀ kind, held kind (run deliver app deliveries).data = lastContent app deliveries kind
  newest : (run deliver app deliveries).data.fcState.timestampMs = lastTimestampMs app deliveries
  carried : ∃ frame decoded,
    buildDl2Frame dl2MaxFrameLen (run deliver app deliveries).data = some frame ∧
      decodeDl2 frame = some decoded ∧ decoded.tsMs = lastTimestampMs app deliveries ∧
      ∀ kind, Carries decoded (lastContent app deliveries kind)

variable {app deliveries}

/-- The cache holds the last content of every kind, unless a system time was delivered, and of
every kind but the system time in any case. -/
theorem run_held {kind : Kind}
    (found : kind = .sysTime → ∀ delivery ∈ deliveries, ¬ IsSysTime delivery.packet) :
    held kind (run deliver app deliveries).data = lastContent app deliveries kind := by
  apply @run_latest _ _ _ deliver (fun app => held kind app.data)
  intro delivery mem app
  exact processPacket_held delivery.env (fun time => found time delivery mem) app

/-- The cache holds the last time. -/
theorem run_timestampMs :
    (run deliver app deliveries).data.fcState.timestampMs = lastTimestampMs app deliveries := by
  apply @run_latest _ _ _ deliver (fun app => app.data.fcState.timestampMs)
  intro delivery _ app
  exact processPacket_timestampMs delivery.env delivery.packet app

/-- A run reports as many unknown identifiers as messages find no branch. -/
theorem run_unknownMids :
    unknownMids (run deliver app deliveries) = unknownMids app +
      deliveries.countP fun delivery => branch delivery.packet.msgId = .unknown := by
  induction deliveries generalizing app with
  | nil => rfl
  | cons delivery rest previous =>
    have first : unknownMids (deliver app delivery) = _ :=
      processPacket_unknownMids delivery.env delivery.packet app
    rw [run_cons, previous, first, List.countP_cons, Nat.add_assoc, Nat.add_comm (ite _ _ _)]
    simp only [decide_eq_true_eq]

/-- Delivered telemetry that is subscribed to reaches the downlink exactly if no system time is
delivered. The dispatcher has no branch for the system time, though it is subscribed to and cached.
-/
theorem reaches_iff
    (subscribed : ∀ delivery ∈ deliveries, delivery.packet.msgId ∈ subscriptions) :
    Reaches app deliveries ↔ ∀ delivery ∈ deliveries, ¬ IsSysTime delivery.packet := by
  constructor
  · intro reaches delivery mem time
    have unknown := (branch_eq_unknown_iff (subscribed delivery mem)).mpr time
    have counted : 0 < deliveries.countP fun delivery =>
        branch delivery.packet.msgId = .unknown :=
      List.countP_pos_iff.mpr ⟨delivery, mem, decide_eq_true unknown⟩
    have reported := @run_unknownMids app deliveries
    rw [reaches.known] at reported
    omega
  · intro found
    have cached (kind : Kind) : held kind (run deliver app deliveries).data =
        lastContent app deliveries kind := run_held fun _ => found
    constructor
    · exact fun delivery mem => branch_eq_ownBranch (found delivery mem)
    · have none : (deliveries.countP fun delivery =>
          branch delivery.packet.msgId = .unknown) = 0 := by
        apply List.countP_eq_zero.mpr
        intro delivery mem unknown
        exact found delivery mem
          ((branch_eq_unknown_iff (subscribed delivery mem)).mp (of_decide_eq_true unknown))
      rw [run_unknownMids, none]
      rfl
    · exact cached
    · exact run_timestampMs
    · refine ⟨_, _, buildDl2Frame_dl2Body _, decodeDl2_dl2Body rfl, run_timestampMs, ?_⟩
      intro kind
      rw [← cached kind]
      exact dl2Of_carries kind _

end

/-- The application after its start. -/
def initialApp : App where
  data := initialState
  cmdCounter := 0
  errCounter := 0
  sent := []
  reports := []

/-- What a message meets when nothing fails. -/
def quietEnv : PacketEnv := ⟨0, "cf/lora_tdm_app_state.bin", .saved⟩

/-- An attitude and a request for housekeeping reach the downlink. -/
theorem reaches_attitude :
    Reaches initialApp [⟨quietEnv, .telemetry (.attitude 7 1 0 0 0)⟩, ⟨quietEnv, .sendHk⟩] :=
  (reaches_iff (by simp [Packet.msgId, Telemetry.msgId, subscriptions])).mpr
    (by simp [IsSysTime])

/-- A system time that is delivered is refused, and neither the cache nor the next frame has
it. -/
theorem sysTime_refused :
    (∀ delivery ∈ [(⟨quietEnv, .sysTime 1 1700000000000000⟩ : Delivery)],
        delivery.packet.msgId ∈ subscriptions) ∧
      ¬ Reaches initialApp [⟨quietEnv, .sysTime 1 1700000000000000⟩] := by
  constructor
  · simp [Packet.msgId, subscriptions]
  · intro reaches
    have kept := reaches.cached .sysTime
    exact absurd kept (by decide)

end CfsTelemetry.Ground
