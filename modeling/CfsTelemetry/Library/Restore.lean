import CfsTelemetry.Library.Run

/-!
# Values that outlive a restart

A system holds a value and keeps it in a store. A restart takes the value from the store, which
may have been replaced by then, when the content can be read as a value, and begins with a
default otherwise. A condition on the value that every other input keeps holds in every state of
a run exactly when it holds of every value that is read from a replaced content.
-/
namespace CfsTelemetry.Restore

open Run

/-- What a restart finds in the store: the content the system left, or another one. -/
inductive Found (Content : Type) where
  | own
  | other (content : Content)

/-- The content that is found. -/
def Found.content {Content : Type} (left : Content) : Found Content → Content
  | own => left
  | other content => content

/-- A system with a value that is kept in a store. -/
structure Keeper (State Input Value Content : Type) where
  /-- The value in a state. -/
  value : State → Value
  /-- The content of the store in a state. -/
  content : State → Content
  /-- The value that a content is read as. -/
  reads : Content → Option Value
  /-- The value of a start from a content that cannot be read. -/
  default : Value
  /-- What an input finds, when it is a restart. -/
  found : Input → Option (Found Content)

section

variable {State Input Value Content : Type} (keeper : Keeper State Input Value Content)

/-- The value meets a condition, and so does the value that a restart would read. -/
structure Sound (condition : Value → Prop) (s : State) : Prop where
  /-- The value held meets the condition. -/
  held : condition (keeper.value s)
  /-- The value kept meets the condition. -/
  kept : ∀ value, keeper.reads (keeper.content s) = some value → condition value

/-- How a system treats its store: a restart reads it, every other input keeps a condition. -/
structure Keeps (condition : Value → Prop) (step : State → Input → State) : Prop where
  /-- The default meets the condition. -/
  default : condition keeper.default
  /-- A restart begins with the value it reads. -/
  restart : ∀ s input found, keeper.found input = some found →
    keeper.value (step s input) =
        (keeper.reads (found.content (keeper.content s))).getD keeper.default ∧
      keeper.content (step s input) = found.content (keeper.content s)
  /-- Every other input keeps the condition. -/
  other : ∀ s input, keeper.found input = none → Sound keeper condition s →
    Sound keeper condition (step s input)

/-- A replaced content is one that can be used, or one that is not read as a value. -/
def Usable (condition : Value → Prop) (input : Input) : Prop :=
  ∀ content, keeper.found input = some (.other content) →
    ∀ value, keeper.reads content = some value → condition value

variable {keeper} {condition : Value → Prop} {step : State → Input → State}

/-- Soundness depends on the value and on the content only. -/
theorem Sound.congr {s s' : State} (sound : Sound keeper condition s)
    (value : keeper.value s' = keeper.value s) (content : keeper.content s' = keeper.content s) :
    Sound keeper condition s' := by
  constructor
  · rw [value]
    exact sound.held
  · rw [content]
    exact sound.kept

/-- A restart that finds what can be used keeps the condition. -/
theorem Sound.next {s : State} {input : Input} (keeps : Keeps keeper condition step)
    (sound : Sound keeper condition s) (usable : Usable keeper condition input) :
    Sound keeper condition (step s input) := by
  cases restarts : keeper.found input with
  | none => exact keeps.other s input restarts sound
  | some found =>
    have begins := keeps.restart s input found restarts
    have reads : ∀ value, keeper.reads (found.content (keeper.content s)) = some value →
        condition value := by
      cases found with
      | own => exact sound.kept
      | other content => exact usable content restarts
    constructor
    · rw [begins.1]
      cases read : keeper.reads (found.content (keeper.content s)) with
      | none => exact keeps.default
      | some value => exact reads value read
    · rw [begins.2]
      exact reads

/-- The condition holds in every state of a run exactly when every content that replaces another
can be used. -/
theorem run_condition_iff (keeps : Keeps keeper condition step) {start : State}
    (sound : Sound keeper condition start) (inputs : List Input) :
    (∀ before after, inputs = before ++ after → condition (keeper.value (run step start before))) ↔
      ∀ input ∈ inputs, Usable keeper condition input := by
  constructor
  · intro holds input among content restarts value read
    obtain ⟨before, after, place⟩ := List.append_of_mem among
    have next : inputs = (before ++ [input]) ++ after := by simp [place]
    have begins := (keeps.restart (run step start before) input _ restarts).1
    have reached := holds _ _ next
    rw [run_snoc, begins, Found.content, read] at reached
    exact reached
  · intro usable before after place
    have reached : Sound keeper condition (run step start before) := by
      rw [place] at usable
      clear place
      induction before using List.reverseRecOn generalizing after with
      | nil => exact sound
      | append_singleton earlier input previous =>
        have regroup : (earlier ++ [input]) ++ after = earlier ++ input :: after := by simp
        rw [regroup] at usable
        rw [run_snoc]
        exact (previous (input :: after)
          fun other among => usable other (by simp at among ⊢; tauto)).next keeps
            (usable input (by simp))
    exact reached.held

end

end CfsTelemetry.Restore
