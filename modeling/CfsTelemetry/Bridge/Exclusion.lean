import CfsTelemetry.Bridge.Additions
import CfsTelemetry.Bridge.Download

/-!
# Upload and download

A route update is refused during a download, and a readback starts by itself only when nothing
is going on, so that the two transfers exclude each other. The command to read the mission back
looks at the link alone.
-/
namespace CfsTelemetry.Bridge

open Run

/-- Not both an upload and a download are in progress. -/
def Exclusive (s : State) : Prop :=
  s.missionUploadState = .idle ∨ s.missionDownloadState = .idle

/-- Whether two transfers exclude each other can be computed. -/
instance (s : State) : Decidable (Exclusive s) := inferInstanceAs (Decidable (_ ∨ _))

/-- A command to read the mission back is taken up only while no upload is in progress. The handler
of the command does not look at the upload. -/
def QueriesIdle (s : State) (input : Input) : Prop :=
  (∃ env, input = .missionQuery env) → s.linkState = .connected → s.missionUploadState = .idle

/-- A download is idle exactly when the fetch is. -/
theorem download_idle_iff (s : State) :
    (fetch s).phase = .idle ↔ s.missionDownloadState = .idle := by
  show s.missionDownloadState.phase = .idle ↔ _
  cases s.missionDownloadState <;> simp [DownloadState.phase]

/-- A step keeps upload and download exclusive, unless it is a query during an upload. -/
theorem step_exclusive {s : State} (inRange : InRange s)
    (collects : (fetch s).Collects downloadLimit routeMaxWaypoints) {input : Input}
    (exclusive : Exclusive s) (queries : QueriesIdle s input) : Exclusive (step s input) := by
  by_contra both
  obtain ⟨upload, download⟩ := not_or.mp both
  obtain ⟨frames, moves, -⟩ := step_moves inRange input
  obtain ⟨action, means, fetches⟩ := step_fetchStep inRange collects input
  have collecting : ((fetch s).step downloadLimit routeMaxWaypoints action).phase ≠ .idle := by
    rw [← fetches.fetch]
    exact fun idle => download ((download_idle_iff _).mp idle)
  have transferring : ((plan s).step (uploadAction s input)).phase ≠ .idle := by
    rw [← moves.plan]
    exact fun idle => upload ((idle_iff _).mp idle)
  -- Nothing is downloaded before: a start is refused during a download, and an upload that was
  -- in progress before excluded one.
  have idle : s.missionDownloadState = .idle := by
    by_cases starts : ∃ edit, uploadAction s input = .start edit
    · obtain ⟨edit, starts⟩ := starts
      obtain ⟨msg, env, -, taken, -⟩ := uploadAction_start starts
      exact (of_decide_eq_true taken).2.1
    · have noStart : ∀ edit, uploadAction s input ≠ .start edit :=
        fun edit starting => starts ⟨edit, starting⟩
      have busy := Transfer.busy_of_step (uploadAction_enabled inRange input) noStart transferring
      exact exclusive.resolve_left fun ended => busy ((idle_iff s).mpr ended)
  cases action with
  | request =>
    rcases means with ⟨⟨env, rfl, connected⟩⟩ | ⟨-, ended⟩
    · have silent : uploadView (missionQuery env s) = uploadView s :=
        (missionQuery_silent env s).view
      have same : (missionQuery env s).missionUploadState = s.missionUploadState :=
        congrArg UploadView.state silent
      exact upload (same.trans (queries ⟨env, rfl⟩ connected))
    · exact upload ended
  | count number =>
    obtain ⟨frame, rxTimestampMs, env, -, -, -, waiting⟩ := means
    rw [idle] at waiting
    cases waiting
  | take wp =>
    obtain ⟨frame, rxTimestampMs, env, -, -, -, waiting⟩ := means
    rw [idle] at waiting
    cases waiting
  | giveUp => exact collecting rfl
  | silent => exact collecting ((download_idle_iff s).mpr idle)

/-- A query on a connected link during an upload starts a download beside it. -/
theorem query_not_exclusive (env : Env) {s : State} (connected : s.linkState = .connected)
    (busy : s.missionUploadState ≠ .idle) : ¬ Exclusive (step s (.missionQuery env)) := by
  rintro (upload | download)
  · have same : (missionQuery env s).missionUploadState = s.missionUploadState :=
      congrArg UploadView.state (missionQuery_silent env s).view
    exact busy (same.symm.trans upload)
  · have begun := congrArg Fetch.phase (missionQuery_fetches env connected).fetch
    have idle := (download_idle_iff (missionQuery env s)).mpr download
    rw [begun] at idle
    cases idle

/-- Upload and download exclude each other throughout a run exactly when no command to read the
mission back is taken up during an upload. The command looks at the link only, where every other
start of a transfer looks at both. -/
theorem transfers_exclusive_iff (config : ConfigParams) (inputs : List Input) :
    (∀ before after, inputs = before ++ after →
        Exclusive (run step (initialState config) before)) ↔
      Each (fun before input => QueriesIdle (run step (initialState config) before) input)
        inputs := by
  have inRange := run_inRange (initialState_inRange config)
  have collects := run_collects (initialState_inRange config) (initialState_collects config)
  constructor
  · rintro throughout before input after rfl ⟨env, rfl⟩ connected
    by_contra busy
    have exclusive := throughout (before ++ [.missionQuery env]) after (by simp)
    rw [run_snoc] at exclusive
    exact query_not_exclusive env connected busy exclusive
  · intro queries before after place
    induction before using List.reverseRecOn generalizing after with
    | nil => exact .inl rfl
    | append_singleton before input previous =>
      have earlier : inputs = before ++ input :: after := by simp [place]
      rw [run_snoc]
      exact step_exclusive (inRange before) (collects before) (previous _ earlier)
        (queries before input after earlier)

/-- A query while a mission is uploaded starts a download beside the upload. -/
theorem transfers_not_exclusive :
    ¬ ∀ config inputs, Exclusive (run step (initialState config) inputs) := by
  intro exclusive
  have both := exclusive .default (connection ++
    [routeUpdate 1 1 [surveyWaypoints.1] 2000, .missionQuery (Env.at 2100)])
  revert both
  decide +kernel

end CfsTelemetry.Bridge
