import CustomerService.Dict
import CustomerService.Transition
import Mathlib.Algebra.Order.Ring.Rat
import Mathlib.Logic.Function.Basic

/-! The order pool, line by line: any number of calls of `run_order`, each at some
line of it, and the workers that run what was submitted. One action is one line
of one call, or one thing a worker does to a future. -/
namespace CustomerService.ToolPool
open Transition

structure Settings where
  orderToolWorkers : Int
  /-- `none` when the settings do not give an integer. -/
  toolPoolQueueFactor : Option Int
  orderToolTimeoutSeconds : ℚ
  deriving DecidableEq

/-- The permits of the semaphore: running and waiting tasks together. -/
def poolCapacity (settings : Settings) (workers : Int) : Nat :=
  let factor := match settings.toolPoolQueueFactor with
    | some value => max 1 value
    | none => 2
  (max 1 (max 1 workers * factor)).toNat

structure ThreadPoolExecutor where
  maxWorkers : Int
  deriving DecidableEq

inductive Status
  | pending
  | running
  | finished
  | cancelled
  deriving DecidableEq

def Status.done : Status → Bool
  | .finished | .cancelled => true
  | .pending | .running => false

structure Future where
  status : Status
  /-- `_release` is among the callbacks. -/
  callback : Bool
  /-- `_invoke_callbacks` has run. -/
  invoked : Bool
  /-- `_release` has run. -/
  released : Bool
  deriving DecidableEq

inductive Line
  | testPool
  | createPool
  | createSemaphore
  | returnPool
  | testReentry
  | inline
  | acquire
  | observe
  | poolSubmit
  | addCallback
  | disown
  | result
  | cancel
  | invokeCallbacks
  | finallyBlock
  | returned
  deriving DecidableEq

/-- A call of `run_order` and `_submit`: its line and its local variables. The permits
it took and gave back are counted beside them. -/
structure Submission where
  /-- `_TLS.pool_key` of its thread is the key of the pool. -/
  onWorker : Bool
  line : Line
  pool : Option ThreadPoolExecutor
  semaphore : Option Nat
  acquired : Bool
  future : Option Future
  taken : Nat
  given : Nat
  deriving DecidableEq

/-- The module's globals, the value of every semaphore made so far, and the calls. -/
structure State where
  orderPool : Option ThreadPoolExecutor
  orderSemaphore : Option Nat
  semaphores : Nat
  value : Nat → Nat
  calls : Dict Nat Submission

def initial : State := ⟨none,none,0,fun _ => 0,∅⟩

namespace State

def put (state : State) (id : Nat) (call : Submission) : State :=
  {state with calls := state.calls.set id call}

/-- `semaphore.release()` on behalf of the call. -/
def giveBack (state : State) (id : Nat) (call : Submission) : State :=
  match call.semaphore with
  | some semaphore =>
    {state with
      value := Function.update state.value semaphore (state.value semaphore + 1)
      calls := state.calls.set id {call with given := call.given + 1}}
  | none => state.put id call

/-- `_invoke_callbacks` of the future of the call. -/
def invoke (state : State) (id : Nat) (call : Submission) (future : Future) : State :=
  if future.callback then
    state.giveBack id {call with future := some {future with invoked := true,released := true}}
  else state.put id {call with future := some {future with invoked := true}}

/-- `future.add_done_callback(_release)`: at once when the future is done. -/
def addDoneCallback (state : State) (id : Nat) (call : Submission) (future : Future) : State :=
  if future.status.done then
    state.giveBack id {call with future := some {future with released := true}}
  else state.put id {call with future := some {future with callback := true}}

/-- The next line of a call; `raises` says whether a metric or `pool.submit` raises in it. -/
def advance (settings : Settings) (state : State) (id : Nat) (call : Submission) (raises : Bool) :
    State :=
  match call.line with
  | .testPool =>
    if settings.orderToolWorkers ≤ 0 then state.put id {call with line := .testReentry}
    else if state.orderPool.isNone then state.put id {call with line := .createPool}
    else state.put id {call with line := .returnPool}
  | .createPool =>
    State.put {state with orderPool := some ⟨settings.orderToolWorkers⟩} id
      {call with line := .createSemaphore}
  | .createSemaphore =>
    State.put
      {state with
        orderSemaphore := some state.semaphores
        semaphores := state.semaphores + 1
        value := Function.update state.value state.semaphores
          (poolCapacity settings settings.orderToolWorkers)}
      id {call with line := .returnPool}
  | .returnPool =>
    state.put id {call with
      line := .testReentry,pool := state.orderPool,semaphore := state.orderSemaphore}
  | .testReentry =>
    if call.pool.isNone || call.onWorker then state.put id {call with line := .inline}
    else if call.semaphore.isNone then state.put id {call with line := .observe}
    else state.put id {call with line := .acquire}
  | .inline => state.put id {call with line := .returned}
  | .acquire =>
    match call.semaphore with
    | some semaphore =>
      if 0 < state.value semaphore then
        State.put {state with
            value := Function.update state.value semaphore (state.value semaphore - 1)} id
          {call with line := .observe,acquired := true,taken := call.taken + 1}
      -- the wait is over: ToolPoolBusyError, or what the metric of rejections raises
      else state.put id {call with line := .finallyBlock}
    | none => state
  | .observe => state.put id {call with line := if raises then .finallyBlock else .poolSubmit}
  | .poolSubmit =>
    if raises then state.put id {call with line := .finallyBlock}
    else state.put id {call with
      line := if call.semaphore.isSome then .addCallback else .result
      future := some ⟨.pending,false,false,false⟩}
  | .addCallback =>
    match call.future with
    | some future => state.addDoneCallback id {call with line := .disown} future
    | none => state
  | .disown => state.put id {call with line := .result,acquired := false}
  | .result =>
    match call.future with
    | some future =>
      if future.status.done then state.put id {call with line := .finallyBlock} else state
    | none => state
  | .cancel =>
    match call.future with
    | some future =>
      if future.status = .pending then
        state.put id {call with
          line := .invokeCallbacks,future := some {future with status := .cancelled}}
      else state.put id {call with line := .finallyBlock}
    | none => state
  | .invokeCallbacks =>
    match call.future with
    | some future => state.invoke id {call with line := .finallyBlock} future
    | none => state
  | .finallyBlock =>
    if call.acquired && call.semaphore.isSome then state.giveBack id {call with line := .returned}
    else state.put id {call with line := .returned}
  | .returned => state

end State

/-- What a worker does to a future: it takes the task up, ends it, and then runs the
callbacks. -/
inductive Deed
  | start
  | finish
  | invokeCallbacks
  deriving DecidableEq

inductive Action
  /-- `run_order` is called, by the task that a worker runs or from outside the pool. -/
  | call (id : Nat) (caller : Option Nat)
  | advance (id : Nat) (raises : Bool)
  /-- The wait in `future.result(timeout=timeout)` is over. -/
  | timeout (id : Nat)
  | work (id : Nat) (deed : Deed)
  deriving DecidableEq

namespace State

/-- The task of the call is in the hands of a worker, whose `_TLS.pool_key` is set. -/
def runs (state : State) (id : Nat) : Bool :=
  ((state.calls.get? id).bind Submission.future).any (fun future => future.status = .running)

def work (state : State) (id : Nat) (call : Submission) (future : Future) : Deed → State
  | .start =>
    if future.status = .pending then
      state.put id {call with future := some {future with status := .running}}
    else state
  | .finish =>
    if future.status = .running then
      state.put id {call with future := some {future with status := .finished}}
    else state
  | .invokeCallbacks =>
    if future.status = .finished ∧ future.invoked = false then state.invoke id call future else state

def step (settings : Settings) (state : State) : Action → State
  | .call id caller =>
    if (state.calls.get? id).isSome then state
    else state.put id ⟨caller.any state.runs,.testPool,none,none,false,none,0,0⟩
  | .advance id raises =>
    match state.calls.get? id with
    | some call => state.advance settings id call raises
    | none => state
  | .timeout id =>
    match state.calls.get? id with
    | some call =>
      if call.line = .result ∧ 0 < settings.orderToolTimeoutSeconds then
        state.put id {call with line := .cancel}
      else state
    | none => state
  | .work id deed =>
    match state.calls.get? id with
    | some call =>
      match call.future with
      | some future => state.work id call future deed
      | none => state
    | none => state

end State

/-! What is conserved. -/

/-- The task was accepted and has not finished. With a semaphore it finishes when its
callback has run, or when the call that could not submit it gives the permit back. -/
def Submission.unfinished (call : Submission) : Bool :=
  match call.future with
  | some future => if call.semaphore.isSome then !future.released else !future.status.done
  | none =>
    match call.line with
    | .observe | .poolSubmit => true
    | .finallyBlock => call.acquired
    | _ => false

/-- The call has returned and no worker will touch its future again. -/
def Submission.settled (call : Submission) : Bool :=
  call.line = .returned && call.future.all (fun future => future.status.done && future.invoked)

def State.unfinished (state : State) : Nat := state.calls.tally Submission.unfinished

structure Conserved (settings : Settings) (state : State) : Prop where
  once : ∀ id call, state.calls.get? id = some call →
    call.taken ≤ 1 ∧ call.given ≤ call.taken ∧ (call.settled = true → call.given = call.taken)
  balance : ∀ semaphore, state.orderSemaphore = some semaphore →
    state.value semaphore + state.unfinished = poolCapacity settings settings.orderToolWorkers
  unused : state.orderSemaphore = none → state.unfinished = 0
  reentry : ∀ id call, state.calls.get? id = some call → call.onWorker = true → call.taken = 0

def Line.creating : Line → Bool
  | .createPool | .createSemaphore => true
  | _ => false

def State.creating (state : State) : Bool :=
  state.calls.values.any (fun call => call.line.creating)

/-- No call tests whether there is a pool while another one is creating it. -/
def Alone (state : State) : Action → Prop
  | .advance id _ =>
    (state.calls.get? id).any (fun call => call.line = .testPool) = true → state.creating = false
  | _ => True

instance (state : State) : DecidablePred (Alone state)
  | .advance id _ => inferInstanceAs (Decidable
      ((state.calls.get? id).any (fun call => call.line = .testPool) = true → state.creating = false))
  | .call _ _ | .timeout _ | .work _ _ => .isTrue trivial

end CustomerService.ToolPool
