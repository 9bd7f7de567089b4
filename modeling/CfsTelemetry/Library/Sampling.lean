import CfsTelemetry.Library.Run

/-!
# Sampling

What keeps the last of the values that it is given, and shows now and then what it keeps, shows
the values in their order: each any number of times, or never, and none after a later one.
-/
namespace CfsTelemetry

variable {Value Other : Type}

/-- The values shown are sampled off the values given: they come in the same order, each any
number of times, or never. -/
inductive Sampled : List Value → List Value → Prop where
  | nothing (values : List Value) : Sampled [] values
  | again {shown values : List Value} {value : Value} (rest : Sampled shown (value :: values)) :
    Sampled (value :: shown) (value :: values)
  | pass {shown values : List Value} {value : Value} (rest : Sampled shown values) :
    Sampled shown (value :: values)

namespace Sampled

variable {shown values values' more : List Value} {value : Value}

/-- What is sampled off values is sampled off values with more behind them. -/
theorem append_right (sampled : Sampled shown values) (more : List Value) :
    Sampled shown (values ++ more) := by
  induction sampled with
  | nothing values => exact .nothing _
  | again rest previous => exact .again previous
  | pass rest previous => exact .pass previous

/-- What is sampled off a part of some values is sampled off these. -/
theorem of_sublist (sampled : Sampled shown values) (part : values.Sublist values') :
    Sampled shown values' := by
  induction part generalizing shown with
  | slnil => exact sampled
  | cons value part previous => exact .pass (previous sampled)
  | @cons_cons front back value part previous =>
    induction shown with
    | nil => exact .nothing _
    | cons first shown later =>
      cases sampled with
      | again rest => exact .again (later rest)
      | pass rest => exact .pass (previous rest)

/-- The last value can be shown again. -/
theorem show_last (sampled : Sampled shown values) (last : values.getLast? = some value) :
    Sampled (shown ++ [value]) values := by
  induction sampled with
  | nothing values =>
    induction values with
    | nil => cases last
    | cons first rest previous =>
      cases rest with
      | nil =>
        cases last
        exact .again (.nothing _)
      | cons second rest => exact .pass (previous last)
  | again rest previous => exact .again (previous last)
  | @pass shown values first rest previous =>
    cases values with
    | nil =>
      cases last
      cases rest with
      | nothing => exact .again (.nothing _)
    | cons second values => exact .pass (previous last)

end Sampled

section

open Run

variable {State Input : Type} {step : State → Input → State}

/-- What a run shows is sampled off what it starts with and what it takes, when it shows what it
keeps, and keeps what it has taken last. -/
theorem run_sampled {takes shows : State → Input → List Value} {keeps : State → Value}
    (shown : ∀ s input, ∀ value ∈ shows s input, value = keeps s)
    (kept : ∀ s input, (keeps s :: takes s input).getLast? = some (keeps (step s input)))
    (start : State) (inputs : List Input) :
    Sampled (project step shows start inputs) (keeps start :: project step takes start inputs) ∧
      (keeps start :: project step takes start inputs).getLast? =
        some (keeps (run step start inputs)) := by
  induction inputs using List.reverseRecOn with
  | nil => exact ⟨.nothing _, rfl⟩
  | append_singleton before input previous =>
    obtain ⟨sampled, last⟩ := previous
    rw [project_snoc, project_snoc, run_snoc]
    have repeated : ∀ new : List Value,
        (∀ value ∈ new, value = keeps (run step start before)) →
        Sampled (project step shows start before ++ new)
          (keeps start :: project step takes start before) := by
      intro new same
      induction new using List.reverseRecOn with
      | nil =>
        rw [List.append_nil]
        exact sampled
      | append_singleton front value another =>
        rw [← List.append_assoc]
        refine (another fun other among => same other (List.mem_append_left _ among)).show_last ?_
        rw [last, same value (List.mem_append_right _ (List.mem_singleton_self _))]
    constructor
    · rw [← List.cons_append]
      exact (repeated _ (shown _ input)).append_right _
    · have next := kept (run step start before) input
      rw [← List.cons_append, List.getLast?_append]
      cases taken : takes (run step start before) input with
      | nil =>
        rw [taken] at next
        simpa [last] using next
      | cons first rest =>
        rw [taken, List.getLast?_cons_cons] at next
        rw [next]
        rfl

end

end CfsTelemetry
