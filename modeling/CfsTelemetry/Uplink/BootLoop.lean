import CfsTelemetry.Uplink.Survival

/-!
# The boot-loop law

The streak of short boots is to be the number of sessions in a row that have not survived. An
initialisation saves the state twice, once when it counts the boot and once when it takes the
boot marker. The first save already writes the mark of the new session, and still the streak of
the one before, so a session that is cut off between the two leaves a marker in which it is
confounded with that session.
-/
namespace CfsTelemetry.Uplink

open Run

/-- A session: one that is cut off between the two saves of its initialisation, or one that is
cut off after some rounds of its main loop. -/
inductive Boot where
  | cut (load : LoadIo) (countEnv : Env)
  | ran (load : LoadIo) (resetType : UInt8) (countEnv markerEnv : Env)
      (rounds : List (Env × Input))

namespace Boot

/-- The state in which a session is cut off. -/
def last (stateFile : Option (List UInt8)) : Boot → State
  | cut load countEnv => incrementBootCount countEnv (loadState load (bootState stateFile))
  | ran load resetType countEnv markerEnv rounds =>
    run step (init load resetType countEnv markerEnv stateFile) rounds

/-- Whether the file operations of a session succeed. -/
def fileWorks : Boot → Bool
  | cut load countEnv => load = .read ∧ countEnv.save = .renamed
  | ran load _ countEnv markerEnv rounds => load = .read ∧ countEnv.save = .renamed ∧
      markerEnv.save = .renamed ∧ rounds.all fun round => round.1.save = .renamed

/-- Whether a session has reached the survival mark. -/
def survives (stateFile : Option (List UInt8)) (boot : Boot) : Bool :=
  (boot.last stateFile).survivedMark != 0

end Boot

/-- The state file after one session more. -/
def bootFile (stateFile : Option (List UInt8)) (boot : Boot) : Option (List UInt8) :=
  (boot.last stateFile).stateFile

/-- Whether each session has reached the survival mark, in order. -/
def survivals (stateFile : Option (List UInt8)) : List Boot → List Bool
  | [] => []
  | boot :: rest => boot.survives stateFile :: survivals (bootFile stateFile boot) rest

/-- The sessions in a row, at the end, that have not survived. -/
def shortBoots (outcomes : List Bool) : Nat := (outcomes.reverse.takeWhile (!·)).length

/-- An initialisation that completes after some sessions holds the streak of them, and is
suspect exactly when the streak is long. -/
def CountsShortBoots (before : List Boot) : Prop :=
  ∀ resetType countEnv markerEnv,
    let s := init .read resetType countEnv markerEnv (run bootFile none before)
    s.shortBootStreak.toNat = min 255 (shortBoots (survivals none before)) ∧
      (s.bootLoopSuspect ≠ 0 ↔ 5 ≤ s.shortBootStreak.toNat)

/-- The law: an initialisation that completes at any place of the sequence of boots holds the
streak of the sessions before it. -/
def BootLoopLaw (boots : List Boot) : Prop :=
  ∀ before after, boots = before ++ after → CountsShortBoots before

/-- A session that is cut off between its two saves does no harm when the marker it finds is of
a session that survived without a streak before it, or when the streak has reached its cap. -/
def Boot.harmless (stateFile : Option (List UInt8)) : Boot → Prop
  | cut _ _ =>
    let found := foundMarker .read stateFile
    if found.survivedMark = 0 then 254 ≤ found.shortBootStreak.toNat
    else found.shortBootStreak = 0
  | ran _ _ _ _ _ => True

section

/-- The next streak counts one session more, up to the cap, unless the session survived. -/
theorem nextStreak_toNat (marker : BootMarker) :
    (nextStreak marker).toNat =
      if marker.survivedMark = 0 then min 255 (marker.shortBootStreak.toNat + 1) else 0 := by
  unfold nextStreak
  have bound := marker.shortBootStreak.toNat_lt
  have cap : (255 : UInt8).toNat = 255 := rfl
  split
  · split
    · rename_i below
      rw [UInt8.lt_iff_toNat_lt, cap] at below
      rw [Words.byte_succ below]
      omega
    · rename_i full
      rw [UInt8.not_lt, UInt8.le_iff_toNat_le, cap] at full
      omega
  · rfl

/-- The streak of one session more. -/
theorem shortBoots_snoc (outcomes : List Bool) (survived : Bool) :
    shortBoots (outcomes ++ [survived]) = if survived then 0 else shortBoots outcomes + 1 := by
  cases survived <;> simp [shortBoots]

/-- The outcome of one session more. -/
theorem survivals_snoc (stateFile : Option (List UInt8)) (before : List Boot) (boot : Boot) :
    survivals stateFile (before ++ [boot]) =
      survivals stateFile before ++ [boot.survives (run bootFile stateFile before)] := by
  induction before generalizing stateFile with
  | nil => rfl
  | cons first rest previous =>
    rw [List.cons_append, survivals, survivals, previous, run_cons, List.cons_append]

/-- The rounds of a session whose saves succeed keep the file up to date with the marker. -/
theorem run_bootMarker {start : State} {rounds : List (Env × Input)}
    (saves : ∀ round ∈ rounds, round.1.save = .renamed)
    (saved : savedMarker start = some (bootMarker start)) :
    savedMarker (run step start rounds) = some (bootMarker (run step start rounds)) ∧
      (run step start rounds).shortBootStreak = start.shortBootStreak := by
  induction rounds using List.reverseRecOn with
  | nil => exact ⟨saved, rfl⟩
  | append_singleton before round previous =>
    have earlier := previous fun other among => saves other (List.mem_append_left _ among)
    have renamed := saves round (by simp)
    have marks := step_marks (run step start before) round
    rw [run_snoc]
    refine ⟨?_, marks.shortBootStreak.trans earlier.2⟩
    by_cases own : savesState (run step start before) round = true
    · rw [marks.saved, if_pos own]
    · have unfound : ¬ ((run step start before).survivedMark = 0 ∧
          findsSurvival (run step start before).bootStartMs round = true) := by
        rintro ⟨unmarked, finds⟩
        exact own (by simp [savesState, renamed, unmarked, finds])
      have mark := marks.survivedMark
      rw [if_neg unfound] at mark
      have same : bootMarker (step (run step start before) round) =
          bootMarker (run step start before) := by
        rw [bootMarker, mark, marks.shortBootStreak, bootMarker]
      rw [marks.saved, if_neg own, earlier.1, same]

/-- A load leaves the mark of the new session unset. -/
theorem loadState_survivedMark (load : LoadIo) (stateFile : Option (List UInt8)) :
    (loadState load (bootState stateFile)).survivedMark = 0 := by
  unfold loadState
  repeat' split
  all_goals rfl

/-- What a session leaves for the next boot to find. -/
theorem foundMarker_bootFile {stateFile : Option (List UInt8)} {boot : Boot}
    (works : boot.fileWorks = true) :
    foundMarker .read (bootFile stateFile boot) =
      match boot with
      | .cut _ _ => ⟨0, (foundMarker .read stateFile).shortBootStreak⟩
      | .ran _ _ _ _ _ =>
        ⟨(boot.last stateFile).survivedMark, nextStreak (foundMarker .read stateFile)⟩ := by
  cases boot with
  | cut load countEnv =>
    simp only [Boot.fileWorks, Bool.decide_and, Bool.and_eq_true, decide_eq_true_eq] at works
    let counted : State :=
      { loadState load (bootState stateFile) with
        bootCount := (loadState load (bootState stateFile)).bootCount + 1 }
    have saved := savedMarker_saveState countEnv counted
    rw [if_pos works.2] at saved
    have marker : bootMarker counted = ⟨0, (foundMarker .read stateFile).shortBootStreak⟩ := by
      rw [← works.1]
      exact congrArg (BootMarker.mk · _) (loadState_survivedMark load stateFile)
    rw [marker] at saved
    exact foundMarker_read saved
  | ran load resetType countEnv markerEnv rounds =>
    simp only [Boot.fileWorks, Bool.decide_and, Bool.and_eq_true, decide_eq_true_eq,
      List.all_eq_true] at works
    obtain ⟨read, -, renamed, saves⟩ := works
    have boots := init_boots load resetType countEnv markerEnv stateFile
    have kept := run_bootMarker saves ((boots.saved renamed).trans (by rw [boots.marker]))
    have streak := congrArg BootMarker.shortBootStreak boots.marker
    have marker : bootMarker (Boot.last stateFile (.ran load resetType countEnv markerEnv rounds)) =
        ⟨(Boot.last stateFile (.ran load resetType countEnv markerEnv rounds)).survivedMark,
          nextStreak (foundMarker .read stateFile)⟩ := by
      rw [← read]
      exact congrArg (BootMarker.mk _) (kept.2.trans streak)
    exact (foundMarker_read kept.1).trans marker

/-! ## Sequences of boots -/

variable {boots before : List Boot} {boot : Boot}

/-- An initialisation counts the sessions before it exactly when the marker it finds does. -/
theorem countsShortBoots_iff :
    CountsShortBoots before ↔
      (nextStreak (foundMarker .read (run bootFile none before))).toNat =
        min 255 (shortBoots (survivals none before)) := by
  have streak : ∀ resetType countEnv markerEnv,
      (init .read resetType countEnv markerEnv (run bootFile none before)).shortBootStreak =
        nextStreak (foundMarker .read (run bootFile none before)) := by
    intro resetType countEnv markerEnv
    exact congrArg BootMarker.shortBootStreak
      (init_boots .read resetType countEnv markerEnv (run bootFile none before)).marker
  constructor
  · intro counts
    have own := (counts 0 (workingEnv 0) (workingEnv 0)).1
    rwa [streak] at own
  · intro equal resetType countEnv markerEnv
    have suspect := (init_boots .read resetType countEnv markerEnv
      (run bootFile none before)).suspect
    have threshold : bootLoopThreshold.toNat = 5 := rfl
    refine ⟨(congrArg UInt8.toNat (streak _ _ _)).trans equal, ?_⟩
    rw [suspect, streak]
    split
    · rename_i long
      rw [UInt8.le_iff_toNat_le, threshold] at long
      exact ⟨fun _ => long, fun _ => by decide⟩
    · rename_i short
      rw [UInt8.le_iff_toNat_le, threshold] at short
      exact ⟨fun suspected => absurd rfl suspected, fun long => absurd long short⟩

/-- Before the first session there are no short boots. -/
theorem countsShortBoots_nil : CountsShortBoots [] := by
  rw [countsShortBoots_iff]
  decide

/-- A session keeps the count exactly when it does no harm. -/
theorem countsShortBoots_snoc (works : boot.fileWorks = true) (counts : CountsShortBoots before) :
    CountsShortBoots (before ++ [boot]) ↔ boot.harmless (run bootFile none before) := by
  rw [countsShortBoots_iff] at counts ⊢
  rw [run_snoc, survivals_snoc, shortBoots_snoc, foundMarker_bootFile works]
  generalize run bootFile none before = stateFile at counts ⊢
  rw [nextStreak_toNat] at counts ⊢
  cases boot with
  | cut load countEnv =>
    have unmarked : Boot.survives stateFile (.cut load countEnv) = false := by
      have saved := bootMarker_saveState countEnv
        { loadState load (bootState stateFile) with
          bootCount := (loadState load (bootState stateFile)).bootCount + 1 }
      have mark := (congrArg BootMarker.survivedMark saved.1).trans
        (loadState_survivedMark load stateFile)
      rw [Boot.survives, bne_eq_false_iff_eq]
      exact mark
    have bound := (foundMarker .read stateFile).shortBootStreak.toNat_lt
    have zero : (foundMarker .read stateFile).shortBootStreak = 0 ↔
        (foundMarker .read stateFile).shortBootStreak.toNat = 0 := by
      rw [← UInt8.toNat_inj, UInt8.toNat_zero]
    simp only [unmarked, Bool.false_eq_true, if_true, if_false, Boot.harmless, zero]
    split at counts
    · rename_i short
      rw [if_pos short]
      omega
    · rename_i survived
      rw [if_neg survived]
      omega
  | ran load resetType countEnv markerEnv rounds =>
    have survives : Boot.survives stateFile (.ran load resetType countEnv markerEnv rounds) = true ↔
        (Boot.last stateFile (.ran load resetType countEnv markerEnv rounds)).survivedMark ≠ 0 := by
      rw [Boot.survives, bne_iff_ne]
    simp only [Boot.harmless, iff_true]
    by_cases mark :
        (Boot.last stateFile (.ran load resetType countEnv markerEnv rounds)).survivedMark = 0
    · rw [if_pos mark, if_neg (by rw [survives]; exact not_not.mpr mark), nextStreak_toNat, counts]
      omega
    · rw [if_neg mark, if_pos (survives.mpr mark)]
      omega

/-- In every sequence of boots whose file operations succeed, the law holds exactly when every
session that is cut off between its two saves does no harm. The first of the two saves has the new
mark with the old streak. -/
theorem bootLoopLaw_iff (boots : List Boot) (works : ∀ boot ∈ boots, boot.fileWorks = true) :
    BootLoopLaw boots ↔
      Each (fun before boot => boot.harmless (run bootFile none before)) boots := by
  constructor
  · intro law before boot after place
    have own : boot.fileWorks = true := works boot (by rw [place]; simp)
    have next : boots = (before ++ [boot]) ++ after := by rw [place]; simp
    exact (countsShortBoots_snoc own (law before _ place)).mp (law _ after next)
  · intro harmless before after place
    rw [place] at works harmless
    clear place
    induction before using List.reverseRecOn generalizing after with
    | nil => exact countsShortBoots_nil
    | append_singleton earlier boot previous =>
      have regroup : (earlier ++ [boot]) ++ after = earlier ++ boot :: after := by simp
      rw [regroup] at works harmless
      have counts := previous (boot :: after) harmless works
      exact (countsShortBoots_snoc (works boot (by simp)) counts).mpr
        (harmless earlier boot after rfl)

/-- A session that runs briefly. -/
def shortBoot : Boot := .ran .read 1 (workingEnv 1000) (workingEnv 1000) []

/-- The first session is cut off after its first save, and the next one runs. -/
def cutAtFirstBoot : List Boot := [.cut .read (workingEnv 1000), shortBoot]

/-- A cut does no harm when it meets no file, and the sessions after it are counted. -/
theorem bootLoopLaw_cutAtFirstBoot :
    BootLoopLaw cutAtFirstBoot ↔
      Each (fun before boot => boot.harmless (run bootFile none before)) cutAtFirstBoot :=
  bootLoopLaw_iff cutAtFirstBoot (by decide)

/-- A session that runs briefly, and five that are cut off after their first save. -/
def cutBootLoop : List Boot := shortBoot :: List.replicate 5 (.cut .read (workingEnv 1000))

/-- After a short session, the next boot finds a mark of no survival and no streak. -/
theorem foundMarker_shortBoot : foundMarker .read (bootFile none shortBoot) = ⟨0, 0⟩ := by
  have works : shortBoot.fileWorks = true := by decide
  have boots := init_boots .read 1 (workingEnv 1000) (workingEnv 1000) none
  have mark : (shortBoot.last none).survivedMark = 0 :=
    congrArg BootMarker.survivedMark boots.marker
  refine (foundMarker_bootFile works).trans ?_
  change BootMarker.mk (shortBoot.last none).survivedMark _ = _
  rw [mark]
  rfl

/-- Six sessions in a row have not survived, and already the second is not counted. -/
theorem cutBootLoop_not_counted : ¬ BootLoopLaw cutBootLoop := by
  intro law
  have first : CountsShortBoots [shortBoot] := law [shortBoot] _ rfl
  have second : CountsShortBoots ([shortBoot] ++ [.cut .read (workingEnv 1000)]) :=
    law [shortBoot, .cut .read (workingEnv 1000)] _ rfl
  rw [countsShortBoots_snoc (by decide) first] at second
  simp only [run_cons, run_nil, Boot.harmless, foundMarker_shortBoot] at second
  exact absurd second (by decide)

end

end CfsTelemetry.Uplink
