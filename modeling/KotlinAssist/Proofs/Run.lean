import Mathlib.Data.List.Basic

/-!
# Steps of a run

A run feeds one input after the other to a step function, and ends in the state that `List.foldl`
gives.  What is said about every moment of a run is said about its steps: every input, together with
the state that it meets.

## Main statements

* `mem_visits_iff` — a step is an input, met in the state that the inputs before it lead to
* `forall_visits` — what holds at first and is kept by every step holds in all states that are met
-/

namespace KotlinAssist

variable {State Input : Type} (step : State → Input → State)

/-- The steps of a run: every input, and the state that it meets. -/
def visits (state : State) : List Input → List (State × Input)
  | [] => []
  | input :: rest => (state, input) :: visits (step state input) rest

@[simp] theorem visits_nil (state : State) : visits step state [] = [] := rfl

theorem visits_append (state : State) (front back : List Input) :
    visits step state (front ++ back) =
      visits step state front ++ visits step (front.foldl step state) back := by
  induction front generalizing state with
  | nil => rfl
  | cons input rest ih => simp only [List.cons_append, visits, ih, List.foldl_cons]

/-- The last step is made in the state that all inputs before it lead to. -/
@[simp] theorem visits_concat (state : State) (inputs : List Input) (last : Input) :
    visits step state (inputs ++ [last]) =
      visits step state inputs ++ [(inputs.foldl step state, last)] := by
  rw [visits_append]
  rfl

theorem mem_visits_iff {state met : State} {inputs : List Input} {input : Input} :
    (met, input) ∈ visits step state inputs ↔
      ∃ before rest, inputs = before ++ input :: rest ∧ met = before.foldl step state := by
  constructor
  · intro visited
    induction inputs generalizing state with
    | nil => cases visited
    | cons first inputs ih =>
      rcases List.mem_cons.mp visited with same | later
      · cases same
        exact ⟨[], inputs, rfl, rfl⟩
      · obtain ⟨before, rest, rfl, rfl⟩ := ih later
        exact ⟨first :: before, rest, rfl, rfl⟩
  · rintro ⟨before, rest, rfl, rfl⟩
    rw [visits_append]
    exact List.mem_append_right _ (List.mem_cons_self ..)

/-- What holds at first and is kept by every step of a run holds in every state that the run meets,
and in the state it ends in. -/
theorem forall_visits {Holds : State → Prop} {state : State} {inputs : List Input}
    (first : Holds state)
    (kept : ∀ met input, (met, input) ∈ visits step state inputs → Holds met →
      Holds (step met input)) :
    (∀ met input, (met, input) ∈ visits step state inputs → Holds met) ∧
      Holds (inputs.foldl step state) := by
  induction inputs generalizing state with
  | nil => exact ⟨fun _ _ visited => (List.not_mem_nil visited).elim, first⟩
  | cons input inputs ih =>
    have next := kept state input (List.mem_cons_self ..) first
    obtain ⟨later, last⟩ := ih next fun met other visited =>
      kept met other (List.mem_cons_of_mem _ visited)
    refine ⟨?_, last⟩
    intro met other visited
    rcases List.mem_cons.mp visited with same | visited
    · cases same
      exact first
    · exact later met other visited

end KotlinAssist
