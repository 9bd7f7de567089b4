import CfsTelemetry.Library.Run

/-!
# Messages between the parts of a system

The parts of a system send one another messages through queues. What an input does to a queue is
what it sends into it and what it takes from it; the bus may lose a message on the way in, and a
receiver that starts again loses what waits for it. Over a whole run, what has been taken is then
a part of what has been sent, in the order of sending and each message at most once, and all of
it when nothing is lost and nothing waits.
-/
namespace CfsTelemetry.Channel

open Run

variable {State Input Message Other : Type} {step : State → Input → State}

/-- A trace whose parts are parts of another's is a part of it. -/
theorem project_sublist {some all : State → Input → List Message}
    (parts : ∀ s input, (some s input).Sublist (all s input)) (start : State)
    (inputs : List Input) :
    (project step some start inputs).Sublist (project step all start inputs) := by
  induction inputs generalizing start with
  | nil => exact .slnil
  | cons input rest later => exact (parts start input).append (later (step start input))

/-- What is made of a trace piece by piece is made of it input by input. -/
theorem map_project_of {make : List Message → List Other} (nothing : make [] = [])
    (pieces : ∀ first second, make (first ++ second) = make first ++ make second)
    (trace : State → Input → List Message) (start : State) (inputs : List Input) :
    make (project step trace start inputs) =
      project step (fun s input => make (trace s input)) start inputs := by
  induction inputs generalizing start with
  | nil => exact nothing
  | cons input rest later => rw [project, project, pieces, later]

/-- A trace is selected from input by input. -/
theorem filterMap_project (choose : Message → Option Other) (trace : State → Input → List Message)
    (start : State) (inputs : List Input) :
    (project step trace start inputs).filterMap choose =
      project step (fun s input => (trace s input).filterMap choose) start inputs :=
  map_project_of rfl (fun _ _ => List.filterMap_append) trace start inputs

/-- A trace is renamed input by input. -/
theorem map_project (rename : Message → Other) (trace : State → Input → List Message)
    (start : State) (inputs : List Input) :
    (project step trace start inputs).map rename =
      project step (fun s input => (trace s input).map rename) start inputs :=
  map_project_of rfl (fun _ _ => List.map_append) trace start inputs

/-- A trace is unfolded input by input. -/
theorem flatMap_project (unfold : Message → List Other) (trace : State → Input → List Message)
    (start : State) (inputs : List Input) :
    (project step trace start inputs).flatMap unfold =
      project step (fun s input => (trace s input).flatMap unfold) start inputs :=
  map_project_of rfl (fun _ _ => List.flatMap_append) trace start inputs

/-- Traces that agree at every input of a run agree over the run. -/
theorem project_eq {first second : State → Input → List Message} {start : State}
    {inputs : List Input}
    (agree : Each (fun before input =>
      first (run step start before) input = second (run step start before) input) inputs) :
    project step first start inputs = project step second start inputs := by
  induction inputs using List.reverseRecOn with
  | nil => rfl
  | append_singleton before input previous =>
    rw [each_snoc] at agree
    rw [project_snoc, project_snoc, previous agree.1, agree.2]

/-- A trace that is of the inputs alone is read off them. -/
theorem project_inputs (read : Input → List Message) (start : State) (inputs : List Input) :
    project step (fun _ input => read input) start inputs = inputs.flatMap read := by
  induction inputs generalizing start with
  | nil => rfl
  | cons input rest later => rw [project, later, List.flatMap_cons]

/-- Two traces taken together hold what each of them holds. -/
theorem project_append_perm (first second : State → Input → List Message) (start : State)
    (inputs : List Input) :
    (project step (fun s input => first s input ++ second s input) start inputs).Perm
      (project step first start inputs ++ project step second start inputs) := by
  induction inputs generalizing start with
  | nil => exact .nil
  | cons input rest later =>
    rw [project, project, project, List.append_assoc, List.append_assoc]
    refine List.Perm.append_left _ (((later _).append_left _).trans ?_)
    rw [← List.append_assoc, ← List.append_assoc]
    exact List.perm_append_comm.append_right _

/-- What is in a trace was put there by some input. -/
theorem mem_project {trace : State → Input → List Message} {start : State} {inputs : List Input}
    {message : Message} : message ∈ project step trace start inputs ↔
      Occurs (fun before input => message ∈ trace (run step start before) input) inputs := by
  induction inputs using List.reverseRecOn with
  | nil => simp [project]
  | append_singleton before input previous =>
    rw [project_snoc, List.mem_append, previous, occurs_snoc]

/-- What a log that keeps the newest in front has grown by, oldest first. -/
def added (before after : List Message) : List Message :=
  (after.take (after.length - before.length)).reverse

/-- A log that is what it was has grown by nothing. -/
@[simp] theorem added_self (log : List Message) : added log log = [] := by simp [added]

/-- A log with one entry in front has grown by it. -/
@[simp] theorem added_cons (entry : Message) (log : List Message) :
    added log (entry :: log) = [entry] := by simp [added]

/-- A log with entries in front has grown by them. -/
theorem added_append (new log : List Message) : added log (new ++ log) = new.reverse := by
  simp [added]

/-! ## Queues -/

section

variable {queue : State → List Message} {sends takes : State → Input → List Message}

/-- What is taken and what still waits is a part of what waited and what was sent. -/
theorem taken_sublist
    (conserves : ∀ s input, (takes s input ++ queue (step s input)).Sublist
      (queue s ++ sends s input)) (start : State) (inputs : List Input) :
    (project step takes start inputs ++ queue (run step start inputs)).Sublist
      (queue start ++ project step sends start inputs) := by
  induction inputs using List.reverseRecOn with
  | nil => simp [project]
  | append_singleton before input previous =>
    have last := conserves (run step start before) input
    rw [project_snoc, project_snoc, run_snoc, List.append_assoc, ← List.append_assoc (queue start)]
    calc
      (project step takes start before ++ (takes (run step start before) input ++
          queue (step (run step start before) input))).Sublist
        (project step takes start before ++ (queue (run step start before) ++
          sends (run step start before) input)) := (List.Sublist.refl _).append last
      List.Sublist _ (queue start ++ project step sends start before ++
          sends (run step start before) input) := by
        rw [← List.append_assoc]
        exact previous.append (.refl _)

/-- When no input loses a message, what is taken and what still waits is all that waited and
all that was sent. -/
theorem taken_eq {start : State} {inputs : List Input}
    (conserves : Each (fun before input =>
      takes (run step start before) input ++ queue (step (run step start before) input) =
        queue (run step start before) ++ sends (run step start before) input) inputs) :
    project step takes start inputs ++ queue (run step start inputs) =
      queue start ++ project step sends start inputs := by
  induction inputs using List.reverseRecOn with
  | nil => simp [project]
  | append_singleton before input previous =>
    rw [each_snoc] at conserves
    rw [project_snoc, project_snoc, run_snoc, List.append_assoc, conserves.2,
      ← List.append_assoc, previous conserves.1, List.append_assoc]

end

end CfsTelemetry.Channel
