import CfsTelemetry.Core.BridgeRestart

/-!
# Gaps in the numbers of a stream

A state message that is numbered more than one above the cached message of its stream counts as a
gap, and the numbers in between are reported as missed. Nothing else counts a gap.
-/
namespace CfsTelemetry.Core

open Run

/-- The gaps that were counted, and the reports of missed messages, newest first. -/
def gapLog (s : State) : UInt32 × List Event :=
  (s.seqGapCount, s.events.filter (·.id = .seqGap))

/-- Whether a message is accepted with a number that does not go on from the cached one. -/
def StateCache.skipped (cache : StateCache) (msg : Bridge.FcStatePrefix) (nowMs : UInt32) : Bool :=
  cache.accepts msg nowMs && cache.received && decide (msg.seq > cache.seq + 1)

/-- Whether an input is such a message. -/
def Input.skips (s : State) : Input → Bool
  | message content env =>
    match content.state with
    | some (stream, msg, _) => (s.cache stream).skipped msg env.nowMs
    | none => false
  | _ => false

/-- A gap is counted and reported, or the log stays as it is. -/
def Logs (skips : Bool) (s s' : State) : Prop :=
  if skips then s'.seqGapCount = s.seqGapCount + 1 ∧ (gapLog s').2 ≠ []
  else gapLog s' = gapLog s

section

variable {s s' : State} {skips : Bool}

/-- An event of another kind is no report. -/
theorem sendEvent_gapLog {id : EventId} (other : id ≠ .seqGap) (type : EventType) (text : String)
    (s : State) : gapLog (sendEvent id type text s) = gapLog s := by
  simp [gapLog, sendEvent, other]

/-- A cache is no gap. -/
@[simp] theorem setCache_gapLog (stream : Stream) (cache : StateCache) (s : State) :
    gapLog (s.setCache stream cache) = gapLog s := by
  cases stream <;> rfl

/-- A timer is no gap. -/
@[simp] theorem setTimer_gapLog (app : App) (timer : RestartTimer) (s : State) :
    gapLog (s.setTimer app timer) = gapLog s := by
  cases app <;> rfl

/-- A save counts no gap. -/
@[simp] theorem saveState_gapLog (io : SaveIo) (path : String) (s : State) :
    gapLog (saveState io path s) = gapLog s := by
  cases io with
  | renamed => rfl
  | _ => exact sendEvent_gapLog (by decide) _ _ s

/-- A time base shift is no gap. -/
theorem noteTimebaseShift_gapLog (cache : StateCache) (msg : Bridge.FcStatePrefix) (s : State) :
    gapLog (noteTimebaseShift cache msg s) = gapLog s := by
  unfold noteTimebaseShift
  split
  · exact sendEvent_gapLog (by decide) _ _ _
  · rfl

/-- A restart is no gap. -/
theorem restartEvent_ne (app : App) : app.restartEvent ≠ .seqGap := by
  cases app <;> decide

/-- The supervision of an application counts no gap. -/
theorem superviseApp_gapLog (app : App) (timedOut : Bool) (env : Env) (s : State) :
    gapLog (superviseApp app timedOut env s).2 = gapLog s := by
  unfold superviseApp
  dsimp only
  split
  · unfold restartApp
    dsimp only
    rw [sendEvent_gapLog (restartEvent_ne app), setTimer_gapLog, saveState_gapLog,
      setTimer_gapLog]
    exact setTimer_gapLog app _ s
  · exact setTimer_gapLog app _ s

/-- The supervision counts no gap. -/
theorem checkAppRestarts_gapLog (bridge uplink lora : Bool) (env : Env) (s : State) :
    gapLog (checkAppRestarts bridge uplink lora env s) = gapLog s := by
  have first := superviseApp_gapLog .bridge bridge env s
  unfold checkAppRestarts
  dsimp only
  split
  · exact first
  · split
    · rw [superviseApp_gapLog, first]
    · rw [superviseApp_gapLog, superviseApp_gapLog, first]

/-- An evaluation counts no gap. -/
theorem evaluate_gapLog (env : Env) (s : State) : gapLog (evaluate env s) = gapLog s := by
  have noted (verdict : Verdict) (s : State) :
      gapLog (noteTransition verdict env s) = gapLog s := by
    unfold noteTransition
    split
    · rw [saveState_gapLog, sendEvent_gapLog (by decide)]
      rfl
    · rfl
  unfold evaluate
  dsimp only
  refine (noted _ _).trans ?_
  exact checkAppRestarts_gapLog _ _ _ env s

/-- An evaluation that may have to wait counts no gap. -/
theorem updateHealth_gapLog (forcePublish : Bool) (env : Env) (s : State) :
    gapLog (updateHealth forcePublish env s) = gapLog s := by
  unfold updateHealth
  split
  · rfl
  · exact evaluate_gapLog env s

/-- A recovery command counts no gap. -/
theorem processRecoveryCommand_gapLog (msg : Uplink.RecoveryCmdTlm) (env : Env) (s : State) :
    gapLog (processRecoveryCommand msg env s) = gapLog s := by
  have noted (type : EventType) (text : String) (s : State) :
      gapLog (sendEvent .recoveryCmd type text s) = gapLog s :=
    sendEvent_gapLog (by decide) _ _ s
  have restarts (app : App) (s : State) : gapLog (commandRestart app env s).2 = gapLog s := by
    unfold commandRestart
    split
    · exact sendEvent_gapLog (restartEvent_ne app) _ _ _
    · rfl
  have commands (cmd : BridgeCtrl) (s : State) :
      gapLog (sendBridgeCtrlCmd cmd env s).2 = gapLog s := by
    unfold sendBridgeCtrlCmd
    split <;> rfl
  have recovered (s : State) : gapLog (recover msg env s).2 = gapLog s := by
    unfold recover
    dsimp only
    split
    · rw [noted, saveState_gapLog]
      rfl
    · rw [restarts, noted]
    · rw [restarts, noted]
    · rw [restarts, noted]
    · rw [commands, noted]
    · rw [commands, noted]
    · exact noted _ _ _
  exact recovered _

/-! ## What counts a gap -/

/-- A state message that does not go on from the cached one counts a gap. -/
theorem updateStateCache_logs (stream : Stream) (msg : Bridge.FcStatePrefix) (nowMs : UInt32)
    (s : State) :
    Logs ((s.cache stream).skipped msg nowMs) s (updateStateCache stream msg nowMs s) := by
  have noted := noteTimebaseShift_gapLog (s.cache stream) msg s
  have rejected : ∀ (id : EventId) (type : EventType) (text : String) (count : UInt32),
      id ≠ .seqGap → gapLog (sendEvent id type text
        { noteTimebaseShift (s.cache stream) msg s with seqRejectedCount := count }) =
          gapLog s := by
    intro id type text count other
    rw [sendEvent_gapLog other]
    exact noted
  unfold updateStateCache
  dsimp only
  by_cases future : isFuture msg.timestampMs nowMs = true
  · have not : (s.cache stream).skipped msg nowMs = false := by
      simp [StateCache.skipped, StateCache.accepts, future]
    rw [if_pos future, not]
    exact sendEvent_gapLog (by decide) _ _ _
  rw [if_neg future]
  by_cases duplicate : (s.cache stream).received = true ∧ msg.seq = (s.cache stream).seq
  · have not : (s.cache stream).skipped msg nowMs = false := by
      simp [StateCache.skipped, StateCache.accepts, StateCache.follows, duplicate]
    rw [if_pos duplicate, not]
    exact rejected _ _ _ _ (by decide)
  rw [if_neg duplicate]
  by_cases regressed : (s.cache stream).received = true ∧ msg.seq < (s.cache stream).seq
  · have less : ¬ (s.cache stream).seq < msg.seq := UInt32.lt_asymm regressed.2
    have not : (s.cache stream).skipped msg nowMs = false := by
      simp [StateCache.skipped, StateCache.accepts, StateCache.follows, regressed.1, less]
    rw [if_pos regressed, not]
    exact rejected _ _ _ _ (by decide)
  rw [if_neg regressed]
  by_cases gap : (s.cache stream).received = true ∧ msg.seq > (s.cache stream).seq + 1
  · have next : (s.cache stream).seq < msg.seq := by
      have notLess : ¬ msg.seq < (s.cache stream).seq := fun less => regressed ⟨gap.1, less⟩
      have notEqual : msg.seq ≠ (s.cache stream).seq := fun equal => duplicate ⟨gap.1, equal⟩
      exact UInt32.lt_of_le_of_ne (UInt32.not_lt.mp notLess) (Ne.symm notEqual)
    have skips : (s.cache stream).skipped msg nowMs = true := by
      simp [StateCache.skipped, StateCache.accepts, StateCache.follows, future, gap.1, next, gap.2]
    have count : (noteTimebaseShift (s.cache stream) msg s).seqGapCount = s.seqGapCount :=
      congrArg Prod.fst noted
    rw [if_pos gap, skips, Logs, if_pos rfl, setCache_gapLog]
    constructor
    · rw [← count]
      cases stream <;> rfl
    · simp [gapLog, sendEvent]
  · have not : (s.cache stream).skipped msg nowMs = false := by
      cases received : (s.cache stream).received with
      | false => simp [StateCache.skipped, received]
      | true =>
        have adjacent : ¬ msg.seq > (s.cache stream).seq + 1 := fun less => gap ⟨received, less⟩
        simp [StateCache.skipped, adjacent]
    rw [if_neg gap, not]
    exact (setCache_gapLog stream _ _).trans noted

/-- What happens after a message is logged leaves the log right. -/
theorem Logs.andThen (logs : Logs skips s s') {s'' : State} (kept : gapLog s'' = gapLog s') :
    Logs skips s s'' := by
  have count : s''.seqGapCount = s'.seqGapCount := congrArg Prod.fst kept
  cases skips with
  | true => exact ⟨count.trans logs.1, fun nothing => logs.2 (kept ▸ nothing)⟩
  | false => exact kept.trans logs

/-- A message of another application counts a gap when it is a state message that does not go on
from the cached one. -/
theorem cacheMessage_logs (message : StateMessage) (env : Env) (s : State) :
    Logs ((Input.message message env).skips s) s (cacheMessage message env.nowMs s) := by
  have marked (stream : Stream) (name : String) (s : State) :
      gapLog (markNonFinite stream name s) = gapLog s :=
    (@sendEvent_gapLog .nonfiniteValue (by decide) _ _ _).trans (setCache_gapLog stream _ s)
  cases message with
  | attitude tlm =>
    have logs := updateStateCache_logs .attitude tlm.toFcStatePrefix env.nowMs s
    unfold cacheMessage
    dsimp only
    split
    · exact logs
    · exact logs.andThen (marked _ _ _)
  | ekfLocal tlm =>
    have logs := updateStateCache_logs .ekfLocal tlm.toFcStatePrefix env.nowMs s
    unfold cacheMessage
    dsimp only
    split
    · exact logs
    · exact logs.andThen (marked _ _ _)
  | gpsRaw tlm => exact updateStateCache_logs .gpsRaw tlm.toFcStatePrefix env.nowMs s
  | ekfStatus tlm => exact updateStateCache_logs .ekfStatus tlm.toFcStatePrefix env.nowMs s
  | missionReadback msg => exact sendEvent_gapLog (by decide) _ _ _
  | routeUpdate msg =>
    have cached : gapLog (if msg.routeType = routeOpReplace then
        { s with missionRoute := s.missionRoute.take msg } else s) = gapLog s := by
      split <;> rfl
    exact (@sendEvent_gapLog .startup (by decide) _ _ _).trans cached
  | _ => exact rfl

/-- A step counts a gap exactly when its input is a state message that does not go on from the
cached one. -/
theorem step_logs (s : State) (input : Input) : Logs (input.skips s) s (step s input) := by
  cases input with
  | message message env =>
    exact (cacheMessage_logs message env s).andThen (updateHealth_gapLog true env _)
  | noMessage env => exact updateHealth_gapLog false env s
  | recovery msg env => exact processRecoveryCommand_gapLog msg env s
  | reportHousekeeping env =>
    change gapLog (sendEvent .hk .information _ s) = gapLog s
    exact sendEvent_gapLog (by decide) _ _ s

end

end CfsTelemetry.Core
