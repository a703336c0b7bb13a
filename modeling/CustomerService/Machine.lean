import Mathlib.Data.List.Induction

/-! Machines that answer every event. Conditions on a run are conditions on the
list of its events, so a step is judged by all that has happened before it. -/
namespace CustomerService

structure Machine (State Event Answer : Type*) where
  initial : State
  step : State → Event → Answer × State

namespace Machine

variable {State Other Event Answer : Type*}

def after (machine : Machine State Event Answer) (events : List Event) : State :=
  events.foldl (fun state event => (machine.step state event).2) machine.initial

def answersFrom (machine : Machine State Event Answer) : State → List Event → List Answer
  | _, [] => []
  | state, event::rest =>
    (machine.step state event).1 :: answersFrom machine (machine.step state event).2 rest

def answers (machine : Machine State Event Answer) (events : List Event) : List Answer :=
  machine.answersFrom machine.initial events

private theorem after_snoc (machine : Machine State Event Answer) (events : List Event) (event : Event) :
    machine.after (events ++ [event]) = (machine.step (machine.after events) event).2 := by
  simp [after,List.foldl_append]

private theorem answersFrom_append (machine : Machine State Event Answer) (state : State)
    (first second : List Event) :
    machine.answersFrom state (first ++ second) = machine.answersFrom state first ++
      machine.answersFrom (first.foldl (fun state event => (machine.step state event).2) state)
        second := by
  induction first generalizing state with
  | nil => rfl
  | cons event rest ih => simp only [List.cons_append,answersFrom,ih,List.foldl_cons]

private theorem answers_snoc (machine : Machine State Event Answer) (events : List Event) (event : Event) :
    machine.answers (events ++ [event]) =
      machine.answers events ++ [(machine.step (machine.after events) event).1] :=
  machine.answersFrom_append machine.initial events [event]

variable {admissible : List Event → Prop}

/-- What holds at the start and is kept by every admissible event holds after
every admissible run. -/
theorem invariant (machine : Machine State Event Answer)
    (closed : ∀ past event, admissible (past ++ [event]) → admissible past)
    {holds : List Event → State → Prop} (start : holds [] machine.initial)
    (keeps : ∀ past event state, admissible (past ++ [event]) → holds past state →
      holds (past ++ [event]) (machine.step state event).2)
    {events : List Event} (allowed : admissible events) : holds events (machine.after events) := by
  induction events using List.reverseRecOn with
  | nil => exact start
  | append_singleton past event ih =>
    rw [after_snoc]
    exact keeps past event _ allowed (ih (closed past event allowed))

/-- Two machines give the same answers when related states answer alike and
stay related. -/
theorem lockstep (first : Machine State Event Answer) (second : Machine Other Event Answer)
    (closed : ∀ past event, admissible (past ++ [event]) → admissible past)
    {related : List Event → State → Other → Prop}
    (start : related [] first.initial second.initial)
    (keeps : ∀ past event state other, admissible (past ++ [event]) → related past state other →
      (first.step state event).1 = (second.step other event).1 ∧
        related (past ++ [event]) (first.step state event).2 (second.step other event).2)
    {events : List Event} (allowed : admissible events) :
    first.answers events = second.answers events ∧
      related events (first.after events) (second.after events) := by
  induction events using List.reverseRecOn with
  | nil => exact ⟨rfl,start⟩
  | append_singleton past event ih =>
    obtain ⟨same,before⟩ := ih (closed past event allowed)
    obtain ⟨answer,next⟩ := keeps past event _ _ allowed before
    rw [answers_snoc,answers_snoc,after_snoc,after_snoc,same,answer]
    exact ⟨rfl,next⟩

end Machine
end CustomerService
