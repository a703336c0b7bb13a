import Mathlib.Data.List.Basic

/-! Runs of a deterministic action system. Every list of actions is a run: an
action that is not enabled leaves the state as it is. Conditions on the steps
of a run and properties of the states it passes are kept apart. -/
namespace CustomerService.Transition

variable {State Action : Type*}

def run (step : State → Action → State) (initial : State) (actions : List Action) : State :=
  actions.foldl step initial

/-- Every step of the run is taken in a state where the condition holds. -/
def Along (step : State → Action → State) (condition : State → Action → Prop) :
    State → List Action → Prop
  | _, [] => True
  | state, action::rest => condition state action ∧ Along step condition (step state action) rest

/-- Every state of the run, the first and the last included, has the property. -/
def Throughout (step : State → Action → State) (property : State → Prop) :
    State → List Action → Prop
  | state, [] => property state
  | state, action::rest => property state ∧ Throughout step property (step state action) rest

variable {step : State → Action → State}

theorem run_nil (initial : State) : run step initial [] = initial := rfl

theorem run_cons (initial : State) (action : Action) (rest : List Action) :
    run step initial (action::rest) = run step (step initial action) rest := rfl

theorem run_append (initial : State) (first second : List Action) :
    run step initial (first ++ second) = run step (run step initial first) second :=
  List.foldl_append

/-- What every step keeps, every run keeps. -/
theorem run_invariant {invariant : State → Prop}
    (keeps : ∀ state action, invariant state → invariant (step state action)) {initial : State}
    (holds : invariant initial) (actions : List Action) : invariant (run step initial actions) := by
  induction actions generalizing initial with
  | nil => exact holds
  | cons action rest ih => exact ih (keeps initial action holds)

theorem Along.imp {first second : State → Action → Prop} {initial : State} {actions : List Action}
    (weaken : ∀ state action, first state action → second state action)
    (all : Along step first initial actions) : Along step second initial actions := by
  induction actions generalizing initial with
  | nil => trivial
  | cons action rest ih => exact ⟨weaken _ _ all.1,ih all.2⟩

theorem Along.and {first second : State → Action → Prop} {initial : State} {actions : List Action}
    (one : Along step first initial actions) (two : Along step second initial actions) :
    Along step (fun state action => first state action ∧ second state action) initial actions := by
  induction actions generalizing initial with
  | nil => trivial
  | cons action rest ih => exact ⟨⟨one.1,two.1⟩,ih one.2 two.2⟩

instance instDecidableAlong (step : State → Action → State) (condition : State → Action → Prop)
    [∀ state action, Decidable (condition state action)] :
    (initial : State) → (actions : List Action) → Decidable (Along step condition initial actions)
  | _, [] => .isTrue trivial
  | state, action::rest =>
    @instDecidableAnd _ _ _ (instDecidableAlong step condition (step state action) rest)

theorem Throughout.last {property : State → Prop} {initial : State} {actions : List Action}
    (always : Throughout step property initial actions) : property (run step initial actions) := by
  induction actions generalizing initial with
  | nil => exact always
  | cons action rest ih => exact ih always.2

theorem Throughout.imp {first second : State → Prop} {initial : State} {actions : List Action}
    (weaken : ∀ state, first state → second state)
    (always : Throughout step first initial actions) : Throughout step second initial actions := by
  induction actions generalizing initial with
  | nil => exact weaken _ always
  | cons action rest ih => exact ⟨weaken _ always.1,ih always.2⟩

/-- The induction behind every conditional invariant: what one allowed step
keeps, a run of allowed steps keeps. -/
theorem Throughout.of_along {condition : State → Action → Prop} {invariant : State → Prop}
    (keeps : ∀ state action, invariant state → condition state action →
      invariant (step state action))
    {initial : State} (holds : invariant initial) {actions : List Action}
    (allowed : Along step condition initial actions) :
    Throughout step invariant initial actions := by
  induction actions generalizing initial with
  | nil => exact holds
  | cons action rest ih =>
    exact ⟨holds,ih (keeps initial action holds allowed.1) allowed.2⟩

theorem along_append {condition : State → Action → Prop} (initial : State)
    (first second : List Action) :
    Along step condition initial (first ++ second) ↔
      Along step condition initial first ∧ Along step condition (run step initial first) second := by
  induction first generalizing initial with
  | nil => exact ⟨fun rest => ⟨trivial,rest⟩,fun both => both.2⟩
  | cons action rest ih => simp only [List.cons_append,Along,run_cons,ih,and_assoc]

/-- When every forbidden step breaks the property at once, the runs that keep
the property throughout are exactly the runs of allowed steps. -/
theorem throughout_iff_along {condition : State → Action → Prop}
    (invariant : State → Prop) {property : State → Prop}
    (implies : ∀ state, invariant state → property state)
    (keeps : ∀ state action, invariant state → condition state action →
      invariant (step state action))
    (breaks : ∀ state action, invariant state → ¬condition state action →
      ¬property (step state action))
    {initial : State} (holds : invariant initial) (actions : List Action) :
    Throughout step property initial actions ↔ Along step condition initial actions := by
  constructor
  · intro always
    induction actions generalizing initial with
    | nil => trivial
    | cons action rest ih =>
      have allowed : condition initial action := by
        by_contra forbidden
        have next : property (step initial action) := by
          cases rest with
          | nil => exact always.2
          | cons _ _ => exact always.2.1
        exact breaks initial action holds forbidden next
      exact ⟨allowed,ih (keeps initial action holds allowed) always.2⟩
  · intro allowed
    exact (Throughout.of_along keeps holds allowed).imp implies

end CustomerService.Transition
