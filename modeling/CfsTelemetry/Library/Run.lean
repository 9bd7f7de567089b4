import Mathlib.Data.List.Induction

/-!
# Runs and their histories

A deterministic system takes one input after another. Its history is the list of inputs so far,
and what is required of an input, or what an input brings about, is stated of the history
before it and the input itself. `Each` requires something of every input of a history, `Occurs`
says that some input brought something about, and both are read off the end of a history one
input at a time.
-/
namespace CfsTelemetry.Run

variable {State Input : Type}

/-- The state after inputs taken in order. -/
def run (step : State → Input → State) (start : State) (inputs : List Input) : State :=
  inputs.foldl step start

/-- No input leaves the state as it is. -/
@[simp] theorem run_nil (step : State → Input → State) (start : State) :
    run step start [] = start := rfl

/-- A run is one run after another. -/
theorem run_append (step : State → Input → State) (start : State) (first second : List Input) :
    run step start (first ++ second) = run step (run step start first) second :=
  List.foldl_append

/-- The first input is taken in the state at the start. -/
@[simp] theorem run_cons (step : State → Input → State) (start : State) (input : Input)
    (inputs : List Input) :
    run step start (input :: inputs) = run step (step start input) inputs := rfl

/-- The last input is taken in the state after those before it. -/
@[simp] theorem run_snoc (step : State → Input → State) (start : State) (inputs : List Input)
    (input : Input) :
    run step start (inputs ++ [input]) = step (run step start inputs) input := by
  simp [run]

/-- Every input meets a condition on the history before it. -/
def Each (condition : List Input → Input → Prop) (inputs : List Input) : Prop :=
  ∀ before input after, inputs = before ++ input :: after → condition before input

/-- Some input brings an event about, given the history before it. -/
def Occurs (event : List Input → Input → Prop) (inputs : List Input) : Prop :=
  ∃ before input after, inputs = before ++ input :: after ∧ event before input

variable {condition event : List Input → Input → Prop} {inputs : List Input} {input : Input}

/-- A place in a history with one more input is that input's, or a place in the history. -/
private theorem snoc_eq_append_cons {before after : List Input} {chosen : Input} :
    inputs ++ [input] = before ++ chosen :: after ↔
      (after = [] ∧ before = inputs ∧ chosen = input) ∨
        ∃ shorter, after = shorter ++ [input] ∧ inputs = before ++ chosen :: shorter := by
  rcases List.eq_nil_or_concat after with rfl | ⟨shorter, last, rfl⟩
  · constructor
    · intro equal
      obtain ⟨same, rest⟩ := List.append_inj' equal rfl
      simp only [List.cons.injEq, and_true] at rest
      exact .inl ⟨rfl, same.symm, rest.symm⟩
    · rintro (⟨-, rfl, rfl⟩ | ⟨shorter, impossible, -⟩)
      · rfl
      · simp at impossible
  · have regroup : before ++ chosen :: (shorter ++ [last]) =
        (before ++ chosen :: shorter) ++ [last] := by simp
    rw [List.concat_eq_append, regroup]
    constructor
    · intro equal
      obtain ⟨same, rest⟩ := List.append_inj' equal rfl
      simp only [List.cons.injEq, and_true] at rest
      exact .inr ⟨shorter, by rw [rest], same⟩
    · rintro (⟨impossible, -, -⟩ | ⟨other, equal, rfl⟩)
      · simp at impossible
      · obtain ⟨rfl, last_eq⟩ := List.append_inj' equal rfl
        simp only [List.cons.injEq, and_true] at last_eq
        rw [last_eq]

/-- Nothing is required of an empty history. -/
@[simp] theorem each_nil : Each condition ([] : List Input) := by
  intro before input after equal
  simp at equal

/-- A condition on one more input is one on the history and one on that input. -/
@[simp] theorem each_snoc :
    Each condition (inputs ++ [input]) ↔ Each condition inputs ∧ condition inputs input := by
  constructor
  · intro each
    constructor
    · intro before chosen shorter equal
      exact each before chosen (shorter ++ [input]) (by simp [equal])
    · exact each inputs input [] rfl
  · rintro ⟨each, last⟩ before chosen after equal
    rcases snoc_eq_append_cons.mp equal with ⟨-, rfl, rfl⟩ | ⟨shorter, -, earlier⟩
    · exact last
    · exact each before chosen shorter earlier

/-- What is required of a history is required of its beginnings. -/
theorem Each.upTo {first second : List Input} (each : Each condition (first ++ second)) :
    Each condition first := by
  intro before chosen after equal
  exact each before chosen (after ++ second) (by simp [equal])

/-- A condition on one more input at the front is one on that input and one on the rest. -/
theorem each_cons :
    Each condition (input :: inputs) ↔
      condition [] input ∧ Each (fun before => condition (input :: before)) inputs := by
  constructor
  · intro each
    constructor
    · exact each [] input inputs rfl
    · intro before chosen after equal
      exact each (input :: before) chosen after (by rw [equal, List.cons_append])
  · rintro ⟨first, each⟩ before chosen after equal
    cases before with
    | nil =>
      simp only [List.nil_append, List.cons.injEq] at equal
      rw [← equal.1]
      exact first
    | cons head before =>
      simp only [List.cons_append, List.cons.injEq] at equal
      rw [← equal.1]
      exact each before chosen after equal.2

/-- A condition on the input alone is one on the inputs. -/
theorem each_of_forall (holds : ∀ input ∈ inputs, ∀ before, condition before input) :
    Each condition inputs := by
  intro before input after equal
  exact holds input (by simp [equal]) before

/-- Nothing occurs in an empty history. -/
@[simp] theorem occurs_nil : ¬ Occurs event ([] : List Input) := by
  rintro ⟨before, input, after, equal, -⟩
  simp at equal

/-- What occurs with one more input occurred before it or is brought about by it. -/
@[simp] theorem occurs_snoc :
    Occurs event (inputs ++ [input]) ↔ Occurs event inputs ∨ event inputs input := by
  constructor
  · rintro ⟨before, chosen, after, equal, happens⟩
    rcases snoc_eq_append_cons.mp equal with ⟨-, rfl, rfl⟩ | ⟨shorter, -, earlier⟩
    · exact .inr happens
    · exact .inl ⟨before, chosen, shorter, earlier, happens⟩
  · rintro (⟨before, chosen, after, rfl, happens⟩ | happens)
    · exact ⟨before, chosen, after ++ [input], by simp, happens⟩
    · exact ⟨inputs, input, [], rfl, happens⟩

/-- Some input brings one event about, and no input after it brings another about. -/
def Since (event breaks : List Input → Input → Prop) (inputs : List Input) : Prop :=
  ∃ before input after, inputs = before ++ input :: after ∧ event before input ∧
    ∀ between next rest, after = between ++ next :: rest →
      ¬ breaks (before ++ input :: between) next

/-- Nothing has happened since an event in an empty history. -/
@[simp] theorem since_nil {breaks : List Input → Input → Prop} :
    ¬ Since event breaks ([] : List Input) := by
  rintro ⟨before, input, after, equal, -⟩
  simp at equal

/-- With one more input, the event is brought about by it, or was before and is not broken by
it. -/
@[simp] theorem since_snoc {breaks : List Input → Input → Prop} :
    Since event breaks (inputs ++ [input]) ↔
      event inputs input ∨ (Since event breaks inputs ∧ ¬ breaks inputs input) := by
  constructor
  · rintro ⟨before, chosen, after, equal, happens, unbroken⟩
    rcases snoc_eq_append_cons.mp equal with ⟨-, rfl, rfl⟩ | ⟨shorter, rfl, rfl⟩
    · exact .inl happens
    · refine .inr ⟨⟨before, chosen, shorter, rfl, happens, ?_⟩, unbroken shorter input [] rfl⟩
      intro between next rest place
      exact unbroken between next (rest ++ [input]) (by simp [place])
  · rintro (happens | ⟨⟨before, chosen, after, rfl, happens, unbroken⟩, last⟩)
    · refine ⟨inputs, input, [], rfl, happens, ?_⟩
      intro between next rest place
      simp at place
    · refine ⟨before, chosen, after ++ [input], by simp, happens, ?_⟩
      intro between next rest place
      rcases snoc_eq_append_cons.mp place with ⟨-, rfl, rfl⟩ | ⟨shorter, -, earlier⟩
      · exact last
      · exact unbroken between next shorter earlier

/-- What breaks the time since an event leaves only what it brings about itself. -/
theorem since_snoc_of_breaks {breaks : List Input → Input → Prop} (broken : breaks inputs input) :
    Since event breaks (inputs ++ [input]) ↔ event inputs input := by
  rw [since_snoc]
  constructor
  · rintro (happens | ⟨-, unbroken⟩)
    · exact happens
    · exact absurd broken unbroken
  · exact Or.inl

/-- What each admissible input preserves holds of every history of admissible inputs. -/
theorem history_induction {invariant : List Input → Prop} (start : invariant [])
    (preserved : ∀ before input, invariant before → condition before input →
      invariant (before ++ [input])) :
    ∀ inputs, Each condition inputs → invariant inputs := by
  intro inputs
  induction inputs using List.reverseRecOn with
  | nil => exact fun _ => start
  | append_singleton before input previous =>
    intro each
    rw [each_snoc] at each
    exact preserved before input (previous each.1) each.2

/-- What every step preserves holds after every run. -/
theorem run_invariant {step : State → Input → State} {invariant : State → Prop}
    (preserved : ∀ s input, invariant s → invariant (step s input)) (inputs : List Input) :
    ∀ start, invariant start → invariant (run step start inputs) := by
  induction inputs with
  | nil => exact fun _ holds => holds
  | cons input rest previous => exact fun start holds => previous _ (preserved start input holds)

/-- A value that an input either sets or leaves is, after a run, what the last input that sets
it sets. -/
theorem run_latest {Value : Type} {step : State → Input → State} {view : State → Value}
    {sets : Input → Option Value} (start : State) (inputs : List Input)
    (each : ∀ input ∈ inputs, ∀ s, view (step s input) = (sets input).getD (view s)) :
    view (run step start inputs) = (inputs.filterMap sets).getLast?.getD (view start) := by
  induction inputs using List.reverseRecOn with
  | nil => rfl
  | append_singleton before input previous =>
    have last := each input (List.mem_append_right _ (List.mem_singleton_self input))
    have earlier := previous fun other mem => each other (List.mem_append_left _ mem)
    rw [run_snoc, last, earlier, List.filterMap_append]
    cases chosen : sets input with
    | none => simp [chosen]
    | some value => simp [chosen]

/-! ## Parts of a system -/

section

variable {Part PartInput : Type} {step : State → Input → State}

/-- What the inputs of a run mean for a part of the system, when an input means a list of
inputs for it. -/
def project (step : State → Input → State) (view : State → Input → List PartInput)
    (start : State) : List Input → List PartInput
  | [] => []
  | input :: rest => view start input ++ project step view (step start input) rest

/-- The last input comes last for the part as well. -/
@[simp] theorem project_snoc (view : State → Input → List PartInput) (start : State)
    (inputs : List Input) (input : Input) :
    project step view start (inputs ++ [input]) =
      project step view start inputs ++ view (run step start inputs) input := by
  induction inputs generalizing start with
  | nil => simp [project]
  | cons first rest previous =>
    rw [List.cons_append, project, project, previous, List.append_assoc]
    rfl

/-- What a check of state and input stands for holds at every input of a run that passes the
check throughout. -/
theorem each_of_checks {check : State → Input → Bool} {holds : State → Input → Prop}
    (sound : ∀ s input, check s input = true → holds s input) (start : State)
    (inputs : List Input)
    (checks : (project step (fun s input => [check s input]) start inputs).all id = true) :
    Each (fun before input => holds (run step start before) input) inputs := by
  induction inputs using List.reverseRecOn with
  | nil => exact each_nil
  | append_singleton before input previous =>
    rw [project_snoc, List.all_append, Bool.and_eq_true] at checks
    rw [each_snoc]
    exact ⟨previous checks.1, sound _ _ (by simpa using checks.2)⟩

/-- A part that takes the inputs meant for it runs on what the inputs of the system mean. -/
theorem run_project (part : State → Part) {partStep : Part → PartInput → Part}
    {view : State → Input → List PartInput}
    (agrees : ∀ s input, part (step s input) = run partStep (part s) (view s input))
    (start : State) (inputs : List Input) :
    part (run step start inputs) = run partStep (part start) (project step view start inputs) := by
  induction inputs using List.reverseRecOn with
  | nil => rfl
  | append_singleton before input previous =>
    rw [run_snoc, project_snoc, run_append, agrees, previous]

end

end CfsTelemetry.Run
