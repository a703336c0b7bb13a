import Mathlib.Data.List.Basic

/-! Programs that keep their state when they fail: what holds at either end of a program, and
programs that run in lockstep from two states. -/
namespace CustomerService.FailingPrograms

variable {Err State First Second Value : Type}

/-! ### Both ends -/

/-- What holds of the value and the state after, or of the error and the state after. -/
def Ends (told : Value → State → Prop) (failed : Err → State → Prop)
    (program : EStateM Err State Value) (state : State) : Prop :=
  match program state with
  | .ok value after => told value after
  | .error err after => failed err after

section Rules
variable {told : Value → State → Prop} {failed : Err → State → Prop} {state : State}

theorem ends_of_ok {program : EStateM Err State Value} {value : Value} {after : State}
    (ends : Ends told failed program state) (ran : program state = .ok value after) : told value after := by
  unfold Ends at ends
  rw [ran] at ends
  exact ends

theorem ends_of_error {program : EStateM Err State Value} {err : Err} {after : State}
    (ends : Ends told failed program state) (ran : program state = .error err after) : failed err after := by
  unfold Ends at ends
  rw [ran] at ends
  exact ends

theorem ends_iff {program : EStateM Err State Value} : Ends told failed program state ↔
    (∀ value after, program state = .ok value after → told value after) ∧
      ∀ err after, program state = .error err after → failed err after := by
  constructor
  · exact fun ends => ⟨fun _ _ => ends_of_ok ends,fun _ _ => ends_of_error ends⟩
  · intro both
    unfold Ends
    split
    · exact both.1 _ _ ‹_›
    · exact both.2 _ _ ‹_›

theorem ends_pure {value : Value} (holds : told value state) : Ends told failed (pure value) state := holds

theorem ends_throw {err : Err} (holds : failed err state) :
    Ends told failed (throw err : EStateM Err State Value) state := holds

theorem ends_get {told : State → State → Prop} (holds : told state state) :
    Ends told failed (get : EStateM Err State State) state := holds

theorem ends_modify {told : Unit → State → Prop} {change : State → State} (holds : told () (change state)) :
    Ends told failed (modify change : EStateM Err State Unit) state := holds

theorem ends_bind {program : EStateM Err State First} {rest : First → EStateM Err State Value}
    (ends : Ends (fun value after => Ends told failed (rest value) after) failed program state) :
    Ends told failed (program >>= rest) state := by
  unfold Ends at ends ⊢
  change (match EStateM.bind program rest state with
    | .ok value after => told value after
    | .error err after => failed err after)
  unfold EStateM.bind
  cases ran : program state with
  | ok value after =>
    rw [ran] at ends
    exact ends
  | error err after =>
    rw [ran] at ends
    exact ends

theorem ends_catch {program : EStateM Err State Value} {handle : Err → EStateM Err State Value}
    (ends : Ends told (fun err after => Ends told failed (handle err) after) program state) :
    Ends told failed (tryCatch program handle) state := by
  unfold Ends at ends ⊢
  change (match EStateM.tryCatch program handle state with
    | .ok value after => told value after
    | .error err after => failed err after)
  unfold EStateM.tryCatch
  dsimp only [EStateM.Backtrackable.save,EStateM.Backtrackable.restore]
  cases ran : program state with
  | ok value after =>
    rw [ran] at ends
    exact ends
  | error err after =>
    rw [ran] at ends
    exact ends

theorem Ends.weaken {program : EStateM Err State Value} {told' : Value → State → Prop}
    {failed' : Err → State → Prop} (ends : Ends told failed program state)
    (tell : ∀ value after, told value after → told' value after)
    (fail : ∀ err after, failed err after → failed' err after) : Ends told' failed' program state := by
  rw [ends_iff] at ends ⊢
  exact ⟨fun value after ran => tell value after (ends.1 value after ran),
    fun err after ran => fail err after (ends.2 err after ran)⟩

end Rules

/-! ### Lockstep -/

/-- Two runs of a program that end alike, in related states. -/
def Lockstep (related : State → State → Prop) (program : EStateM Err State Value) (state other : State) :
    Prop :=
  match program state, program other with
  | .ok value after,.ok value' after' => value = value' ∧ related after after'
  | .error err after,.error err' after' => err = err' ∧ related after after'
  | _,_ => False

section Rules
variable {related : State → State → Prop} {state other : State}

theorem lockstep_pure (holds : related state other) (value : Value) :
    Lockstep related (pure value : EStateM Err State Value) state other := ⟨rfl,holds⟩

theorem lockstep_throw (holds : related state other) (err : Err) :
    Lockstep related (throw err : EStateM Err State Value) state other := ⟨rfl,holds⟩

theorem lockstep_bind {program : EStateM Err State First} {rest : First → EStateM Err State Value}
    (first : Lockstep related program state other)
    (later : ∀ value after after', related after after' → Lockstep related (rest value) after after') :
    Lockstep related (program >>= rest) state other := by
  unfold Lockstep at first
  change (match EStateM.bind program rest state, EStateM.bind program rest other with
    | .ok value after,.ok value' after' => value = value' ∧ related after after'
    | .error err after,.error err' after' => err = err' ∧ related after after'
    | _,_ => False)
  unfold EStateM.bind
  cases one : program state with
  | ok value after =>
    cases two : program other with
    | ok value' after' =>
      rw [one,two] at first
      obtain ⟨rfl,holds⟩ := first
      exact later value after after' holds
    | error err' after' =>
      rw [one,two] at first
      exact first.elim
  | error err after =>
    cases two : program other with
    | ok value' after' =>
      rw [one,two] at first
      exact first.elim
    | error err' after' =>
      rw [one,two] at first
      exact first

theorem lockstep_catch {program : EStateM Err State Value} {handle : Err → EStateM Err State Value}
    (first : Lockstep related program state other)
    (later : ∀ err after after', related after after' → Lockstep related (handle err) after after') :
    Lockstep related (tryCatch program handle) state other := by
  unfold Lockstep at first
  change (match EStateM.tryCatch program handle state, EStateM.tryCatch program handle other with
    | .ok value after,.ok value' after' => value = value' ∧ related after after'
    | .error err after,.error err' after' => err = err' ∧ related after after'
    | _,_ => False)
  unfold EStateM.tryCatch
  dsimp only [EStateM.Backtrackable.save,EStateM.Backtrackable.restore]
  cases one : program state with
  | ok value after =>
    cases two : program other with
    | ok value' after' =>
      rw [one,two] at first
      exact first
    | error err' after' =>
      rw [one,two] at first
      exact first.elim
  | error err after =>
    cases two : program other with
    | ok value' after' =>
      rw [one,two] at first
      exact first.elim
    | error err' after' =>
      rw [one,two] at first
      obtain ⟨rfl,holds⟩ := first
      exact later err after after' holds

end Rules

end CustomerService.FailingPrograms
