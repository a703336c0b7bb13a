import CustomerService.Transition
import Mathlib.Algebra.Order.Field.Rat

/-! The LLM circuit breaker and the exits of the gateway calls it guards. The
module state `_STATE` is an optional record, time is the monotonic clock in
seconds, and every function runs under the module lock, so it is one step. -/
namespace CustomerService.CircuitBreaker

/-- `llm_circuit_failure_threshold` and `llm_circuit_cooldown_seconds`. -/
structure Settings where
  threshold : Int
  cooldown : ℚ

structure BreakerState where
  failures : Nat := 0
  openedAt : Option ℚ := none
  probeInFlight : Bool := false
deriving DecidableEq

structure LlmCircuitOpenError where
  failures : Nat
  cooldown : ℚ
deriving DecidableEq

/-- The ways out of the guard: it returns without touching the probe flag,
returns after setting it, or raises. -/
inductive Admission where
  | pass
  | probe
  | reject (error : LlmCircuitOpenError)
deriving DecidableEq

def Admission.admitted : Admission → Bool
  | .reject _ => false
  | _ => true

def guardLlmCircuit (settings : Settings) (now : ℚ) (global : Option BreakerState) :
    Admission × Option BreakerState :=
  if settings.threshold ≤ 0 then (.pass,global)
  else
    let state := global.getD {}
    match state.openedAt with
    | none => (.pass,some state)
    | some openedAt =>
      if now - openedAt < settings.cooldown then
        (.reject ⟨state.failures,settings.cooldown⟩,some state)
      else if state.probeInFlight then
        (.reject ⟨state.failures,settings.cooldown⟩,some state)
      else (.probe,some {state with probeInFlight := true})

def recordLlmSuccess (_ : Option BreakerState) : Option BreakerState :=
  some {}

/-- The first component is `just_opened`, which feeds the `open` metric. -/
def recordLlmFailure (settings : Settings) (now : ℚ) (global : Option BreakerState) :
    Bool × Option BreakerState :=
  let state := {global.getD {} with probeInFlight := false}
  if settings.threshold ≤ 0 then (false,some state)
  else
    let wasOpen := state.openedAt.isSome
    let counted := {state with failures := state.failures+1}
    if settings.threshold ≤ counted.failures then
      (!wasOpen,some {counted with openedAt := some now})
    else (false,some counted)

inductive Label where
  | closed
  | openNow
  | halfOpen
deriving DecidableEq

structure CircuitSnapshot where
  state : Label
  failures : Nat
  cooldownRemaining : ℚ

def snapshotLocked (settings : Settings) (now : ℚ) (state : BreakerState) : CircuitSnapshot :=
  match state.openedAt with
  | none => ⟨.closed,state.failures,0⟩
  | some openedAt =>
    let remaining := max 0 (settings.cooldown - (now - openedAt))
    ⟨if remaining ≤ 0 then .halfOpen else .openNow,state.failures,remaining⟩

def snapshotLlmBreaker (settings : Settings) (now : ℚ) (global : Option BreakerState) :
    CircuitSnapshot :=
  snapshotLocked settings now (global.getD {})

def probeFlag (global : Option BreakerState) : Bool :=
  (global.getD {}).probeInFlight

def openedAt (global : Option BreakerState) : Option ℚ :=
  (global.getD {}).openedAt

def failures (global : Option BreakerState) : Nat :=
  (global.getD {}).failures

theorem halfOpen_iff (settings : Settings) (now : ℚ) (global : Option BreakerState) :
    (snapshotLlmBreaker settings now global).state = .halfOpen ↔
      ∃ at', openedAt global = some at' ∧ settings.cooldown ≤ now - at' := by
  unfold snapshotLlmBreaker snapshotLocked openedAt
  cases opened : (global.getD {}).openedAt with
  | none => simp
  | some at' =>
    simp only [Option.some.injEq,exists_eq_left',max_le_iff,le_refl,true_and]
    split_ifs with elapsed
    · simpa [sub_nonpos] using elapsed
    · simpa [sub_nonpos] using elapsed

/-- Everything the guard does: a probe is admitted exactly in a half-open
breaker without a probe, and no other verdict touches the state. -/
theorem guard_cases (settings : Settings) (now : ℚ) (global : Option BreakerState) :
    ((guardLlmCircuit settings now global).1 = .probe ∧ 0 < settings.threshold ∧
      probeFlag global = false ∧
      (∃ at', openedAt global = some at' ∧ settings.cooldown ≤ now - at') ∧
      (guardLlmCircuit settings now global).2 =
        some {global.getD {} with probeInFlight := true}) ∨
    ((guardLlmCircuit settings now global).1 = .pass ∧
      (settings.threshold ≤ 0 ∨ openedAt global = none) ∧
      (guardLlmCircuit settings now global).2.getD {} = global.getD {}) ∨
    ((guardLlmCircuit settings now global).1.admitted = false ∧ 0 < settings.threshold ∧
      (∃ at', openedAt global = some at' ∧
        (now - at' < settings.cooldown ∨ probeFlag global = true)) ∧
      (guardLlmCircuit settings now global).2.getD {} = global.getD {}) := by
  unfold guardLlmCircuit openedAt probeFlag
  by_cases off : settings.threshold ≤ 0
  · simp [off]
  · have on : 0 < settings.threshold := not_le.mp off
    simp only [off,if_false]
    cases opened : (global.getD {}).openedAt with
    | none => simp
    | some at' =>
      by_cases cooling : now - at' < settings.cooldown
      · simp [cooling,on,Admission.admitted]
      · cases flag : (global.getD {}).probeInFlight with
        | true => simp [cooling,on,Admission.admitted]
        | false => simp [cooling,on,not_lt.mp cooling]

theorem failure_flag (settings : Settings) (now : ℚ) (global : Option BreakerState) :
    probeFlag (recordLlmFailure settings now global).2 = false := by
  unfold recordLlmFailure probeFlag
  dsimp only
  split_ifs <;> rfl

theorem failure_cases (settings : Settings) (now : ℚ) (global : Option BreakerState) :
    (settings.threshold ≤ 0 ∧ (recordLlmFailure settings now global).1 = false ∧
      failures (recordLlmFailure settings now global).2 = failures global ∧
      openedAt (recordLlmFailure settings now global).2 = openedAt global) ∨
    (0 < settings.threshold ∧ settings.threshold ≤ (failures global : Int)+1 ∧
      (recordLlmFailure settings now global).1 = (openedAt global).isNone ∧
      failures (recordLlmFailure settings now global).2 = failures global+1 ∧
      openedAt (recordLlmFailure settings now global).2 = some now) ∨
    (0 < settings.threshold ∧ (failures global : Int)+1 < settings.threshold ∧
      (recordLlmFailure settings now global).1 = false ∧
      failures (recordLlmFailure settings now global).2 = failures global+1 ∧
      openedAt (recordLlmFailure settings now global).2 = openedAt global) := by
  unfold recordLlmFailure failures openedAt
  by_cases off : settings.threshold ≤ 0
  · simp [off]
  · have on : 0 < settings.threshold := not_le.mp off
    by_cases tripped : settings.threshold ≤ ((global.getD {}).failures : Int)+1
    · cases opened : (global.getD {}).openedAt <;> simp [off,on,tripped,opened]
    · simp [off,on,tripped,not_le.mp tripped]

inductive Method where
  | invoke
  | ainvoke
  | stream
  | astream
deriving DecidableEq

/-- How an admitted call ends. `interrupted` stands for the exceptions that are
not `Exception`: `asyncio.CancelledError`, and the `GeneratorExit` that a
closed or abandoned stream receives at its `yield`. -/
inductive Ending where
  | returned
  | quotaExceeded
  | circuitOpen
  | providerError
  | interrupted
deriving DecidableEq

inductive Record where
  | success
  | failure
  | nothing
deriving DecidableEq

/-- The handlers of `_call_with_circuit` and `_acall_with_circuit`. -/
def callWithCircuit : Ending → Record
  | .returned => .success
  | .quotaExceeded => .nothing
  | .circuitOpen => .nothing
  | .providerError => .failure
  | .interrupted => .nothing

/-- The handlers of `stream` and `astream`; success is the `else` branch. -/
def streamHandlers : Ending → Record
  | .quotaExceeded => .nothing
  | .circuitOpen => .nothing
  | .providerError => .failure
  | .returned => .success
  | .interrupted => .nothing

def exitRecord : Method → Ending → Record
  | .invoke => callWithCircuit
  | .ainvoke => callWithCircuit
  | .stream => streamHandlers
  | .astream => streamHandlers

end CustomerService.CircuitBreaker
