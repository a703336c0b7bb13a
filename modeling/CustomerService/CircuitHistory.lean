import CustomerService.CircuitBreaker

/-! The breaker fields against the whole history of guard, success and failure
steps. The history functions read the events newest first and know nothing of
the breaker state. -/
namespace CustomerService.CircuitHistory
open CircuitBreaker Transition

inductive Event where
  | guard (now : ℚ)
  | success (now : ℚ)
  | failure (now : ℚ)

def apply (settings : Settings) (global : Option BreakerState) : Event → Option BreakerState
  | .guard now => (guardLlmCircuit settings now global).2
  | .success _ => recordLlmSuccess global
  | .failure now => (recordLlmFailure settings now global).2

def failuresSinceSuccess : List Event → Nat
  | [] => 0
  | .guard _::earlier => failuresSinceSuccess earlier
  | .success _::_ => 0
  | .failure _::earlier => failuresSinceSuccess earlier+1

/-- The time of the latest failure since the last success that found the count
at or past the threshold. -/
def lastTrip (threshold : Int) : List Event → Option ℚ
  | [] => none
  | .guard _::earlier => lastTrip threshold earlier
  | .success _::_ => none
  | .failure now::earlier =>
    if threshold ≤ (failuresSinceSuccess earlier : Int)+1 then some now
    else lastTrip threshold earlier

private theorem guard_openedAt (settings : Settings) (now : ℚ) (global : Option BreakerState) :
    openedAt (guardLlmCircuit settings now global).2 = openedAt global ∧
      failures (guardLlmCircuit settings now global).2 = failures global := by
  unfold openedAt failures
  rcases guard_cases settings now global with ⟨_,_,_,_,state⟩ | ⟨_,_,state⟩ | ⟨_,_,_,state⟩
  · rw [state]
    exact ⟨rfl,rfl⟩
  · rw [state]
    exact ⟨rfl,rfl⟩
  · rw [state]
    exact ⟨rfl,rfl⟩

def Records (settings : Settings) (global : Option BreakerState) (history : List Event) : Prop :=
  failures global = failuresSinceSuccess history ∧
    openedAt global = lastTrip settings.threshold history

private theorem apply_records (settings : Settings) (positive : 0 < settings.threshold)
    (global : Option BreakerState) (history : List Event) (event : Event)
    (records : Records settings global history) :
    Records settings (apply settings global event) (event::history) := by
  obtain ⟨count,opened⟩ := records
  cases event with
  | guard now =>
    have same := guard_openedAt settings now global
    exact ⟨same.2.trans count,same.1.trans opened⟩
  | success now => exact ⟨rfl,rfl⟩
  | failure now =>
    rcases failure_cases settings now global with
      ⟨off,_⟩ | ⟨_,tripped,_,counted,reopened⟩ | ⟨_,short,_,counted,kept⟩
    · omega
    · rw [count] at tripped
      exact ⟨by rw [apply,counted,count,failuresSinceSuccess],
        by rw [apply,reopened,lastTrip,if_pos tripped]⟩
    · rw [count] at short
      exact ⟨by rw [apply,counted,count,failuresSinceSuccess],
        by rw [apply,kept,opened,lastTrip,if_neg (not_le.mpr short)]⟩

private theorem run_records (settings : Settings) (positive : 0 < settings.threshold)
    (events : List Event) (global : Option BreakerState) (history : List Event)
    (records : Records settings global history) :
    Records settings (run (apply settings) global events) (events.reverse ++ history) := by
  induction events generalizing global history with
  | nil => exact records
  | cons event rest ih =>
    have next := ih _ _ (apply_records settings positive global history event records)
    simpa [run_cons] using next

private theorem lastTrip_isSome (threshold : Int) (positive : 0 < threshold) (history : List Event) :
    (lastTrip threshold history).isSome = true ↔
      threshold ≤ (failuresSinceSuccess history : Int) := by
  induction history with
  | nil => simp [lastTrip,failuresSinceSuccess,positive]
  | cons event earlier ih =>
    cases event with
    | guard now => simpa [lastTrip,failuresSinceSuccess] using ih
    | success now => simp [lastTrip,failuresSinceSuccess,positive]
    | failure now =>
      by_cases tripped : threshold ≤ (failuresSinceSuccess earlier : Int)+1
      · simp [lastTrip,failuresSinceSuccess,tripped]
      · have below : ¬threshold ≤ (failuresSinceSuccess earlier : Int) := by omega
        simp [lastTrip,failuresSinceSuccess,tripped,ih,below]

/-- The admission law over every run of guard, success and failure steps from
the unset module state. -/
theorem breaker_admission_law (settings : Settings) (positive : 0 < settings.threshold)
    (events : List Event) :
    ((openedAt (run (apply settings) none events)).isSome = true ↔
      settings.threshold ≤ (failuresSinceSuccess events.reverse : Int)) ∧
    openedAt (run (apply settings) none events) = lastTrip settings.threshold events.reverse ∧
    ∀ now, (guardLlmCircuit settings now (run (apply settings) none events)).1.admitted = true →
      (failuresSinceSuccess events.reverse : Int) < settings.threshold ∨
        ∃ trip, lastTrip settings.threshold events.reverse = some trip ∧
          settings.cooldown ≤ now - trip := by
  have records : Records settings (run (apply settings) none events) events.reverse := by
    simpa using run_records settings positive events none [] ⟨rfl,rfl⟩
  have opened := records.2
  refine ⟨by rw [opened,lastTrip_isSome _ positive],opened,?_⟩
  intro now admitted
  rcases guard_cases settings now (run (apply settings) none events) with
    ⟨_,_,_,elapsed,_⟩ | ⟨_,off | closed,_⟩ | ⟨rejected,_⟩
  · obtain ⟨trip,at',cooled⟩ := elapsed
    exact Or.inr ⟨trip,opened.symm.trans at',cooled⟩
  · omega
  · refine Or.inl (not_le.mp fun tripped => ?_)
    have some' := (lastTrip_isSome settings.threshold positive events.reverse).mpr tripped
    rw [← opened,closed] at some'
    cases some'
  · rw [rejected] at admitted
    cases admitted

theorem breaker_admission_law_second_failure :
    ((openedAt (run (apply ⟨2,30⟩) none [.failure 1,.guard 2,.failure 3])).isSome = true ↔
      (2 : Int) ≤ 2) ∧
    openedAt (run (apply ⟨2,30⟩) none [.failure 1,.guard 2,.failure 3]) = some 3 ∧
    ∀ now, (guardLlmCircuit ⟨2,30⟩ now
        (run (apply ⟨2,30⟩) none [.failure 1,.guard 2,.failure 3])).1.admitted = true →
      (2 : Int) < 2 ∨ ∃ trip, some 3 = some trip ∧ (30 : ℚ) ≤ now - trip :=
  breaker_admission_law ⟨2,30⟩ (by decide) [.failure 1,.guard 2,.failure 3]

end CustomerService.CircuitHistory
