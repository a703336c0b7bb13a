import CustomerService.Transition
import Mathlib.Logic.Function.Basic

/-! The context of the process, line by line: any number of callers fetch it, install another one or
drop it, and use its graph. One action is one line of one caller. -/
namespace CustomerService.AppContext
open Transition

/-- The objects a context is built of, by their identities. -/
structure Handles where
  checkpointer : Nat
  userStore : Nat
  sessionLock : Nat
  deriving DecidableEq

/-- What `build_graph` compiles into the graph. -/
structure CompiledGraph where
  checkpointer : Nat
  userStore : Nat
  deriving DecidableEq

structure Context where
  handles : Handles
  graph : Option CompiledGraph
  deriving DecidableEq

def Context.fresh (handles : Handles) : Context := ⟨handles,none⟩

def buildGraph (context : Context) : CompiledGraph := ⟨context.handles.checkpointer,context.handles.userStore⟩

/-- Where a caller is, with its local variables. A context is named by its place among all that were
made. -/
inductive Line
  | idle
  | raised
  -- get_app_context
  | fastTest
  | fastReturn
  | acquire
  | lockedTest
  | build
  | publish (context : Nat)
  | setSessionLock
  | lockedReturn
  | returned (result : Option Nat)
  -- AppContext.graph
  | graphTest (context : Nat)
  | compile (context : Nat)
  | assign (context : Nat) (graph : CompiledGraph)
  | graphReturn (context : Nat)
  | graphReturned (context : Nat) (result : Option CompiledGraph)
  -- install_app_context
  | installAcquire (context : Nat)
  | install (context : Nat)
  | installLock (previous : Option Nat)
  | installReturn (previous : Option Nat)
  | installed (previous : Option Nat)
  -- clear_app_context
  | clearAcquire
  | clear
  deriving DecidableEq

/-- The caller holds `_LOCK`. -/
def Line.inside : Line → Bool
  | .lockedTest | .build | .publish _ | .setSessionLock | .lockedReturn | .install _ | .installLock _ |
    .installReturn _ | .clear => true
  | _ => false

def Line.atRest : Line → Bool
  | .idle | .raised | .returned _ | .graphReturned _ _ | .installed _ => true
  | _ => false

/-- The globals, every context made so far, and the callers. Beside them it is counted how often a
context was built, offered for installation and dropped. -/
structure State (Caller : Type) where
  process : Option Nat
  sessionLock : Option Nat
  contexts : List Context
  holder : Option Caller
  lines : Caller → Line
  built : Nat
  offered : Nat
  cleared : Nat

variable {Caller : Type} [DecidableEq Caller]

def initial : State Caller := ⟨none,none,[],none,fun _ => .idle,0,0,0⟩

/-- How `build_app_context` ends; when it raises, it may have set a session lock before. -/
inductive Outcome
  | builds (handles : Handles)
  | raises (sessionLock : Option Nat)

inductive Call
  | get
  | install (handles : Handles)
  | clear
  /-- The graph of the context that the caller has got. -/
  | graph

inductive Action (Caller : Type)
  | start (caller : Caller) (call : Call)
  | advance (caller : Caller) (outcome : Outcome)

namespace State

def goto (state : State Caller) (caller : Caller) (line : Line) : State Caller :=
  { state with lines := Function.update state.lines caller line }

def start (state : State Caller) (caller : Caller) : Call → State Caller
  | .get => state.goto caller .fastTest
  | .install handles =>
    { state with contexts := state.contexts ++ [Context.fresh handles], offered := state.offered + 1 }.goto caller
      (.installAcquire state.contexts.length)
  | .clear => state.goto caller .clearAcquire
  | .graph =>
    match state.lines caller with
    | .returned (some context) => state.goto caller (.graphTest context)
    | .returned none => state.goto caller .raised
    | _ => state

def take (state : State Caller) (caller : Caller) (line : Line) : State Caller :=
  if state.holder.isNone then { state with holder := some caller }.goto caller line else state

/-- `set_session_lock(_PROCESS.session_lock)`, which writes the same lock back into the context. -/
def setLock (state : State Caller) (caller : Caller) (line : Line) : State Caller :=
  match state.process.bind (fun context => state.contexts[context]?) with
  | some context => { state with sessionLock := some context.handles.sessionLock }.goto caller line
  | none => { state with holder := none }.goto caller .raised

def advance (state : State Caller) (caller : Caller) (outcome : Outcome) : State Caller :=
  match state.lines caller with
  | .fastTest => state.goto caller (if state.process.isSome then .fastReturn else .acquire)
  | .fastReturn => state.goto caller (.returned state.process)
  | .acquire => state.take caller .lockedTest
  | .lockedTest => state.goto caller (if state.process.isNone then .build else .lockedReturn)
  | .build =>
    match outcome with
    | .builds handles =>
      { state with
        contexts := state.contexts ++ [Context.fresh handles]
        sessionLock := some handles.sessionLock
        built := state.built + 1 }.goto caller (.publish state.contexts.length)
    | .raises sessionLock =>
      { state with sessionLock := sessionLock.or state.sessionLock, holder := none }.goto caller .raised
  | .publish context => { state with process := some context }.goto caller .setSessionLock
  | .setSessionLock => state.setLock caller .lockedReturn
  | .lockedReturn => { state with holder := none }.goto caller (.returned state.process)
  | .graphTest context =>
    state.goto caller
      (if (state.contexts[context]?.bind Context.graph).isNone then .compile context
        else .graphReturn context)
  | .compile context =>
    match state.contexts[context]? with
    | some found => state.goto caller (.assign context (buildGraph found))
    | none => state
  | .assign context graph =>
    { state with
      contexts := state.contexts.modify context (fun found => { found with graph := some graph }) }.goto caller
      (.graphReturn context)
  | .graphReturn context =>
    state.goto caller (.graphReturned context (state.contexts[context]?.bind Context.graph))
  | .installAcquire context => state.take caller (.install context)
  | .install context => { state with process := some context }.goto caller (.installLock state.process)
  | .installLock previous => state.setLock caller (.installReturn previous)
  | .installReturn previous => { state with holder := none }.goto caller (.installed previous)
  | .clearAcquire => state.take caller .clear
  | .clear => { state with process := none, holder := none, cleared := state.cleared + 1 }.goto caller .idle
  | .idle | .raised | .returned _ | .graphReturned _ _ | .installed _ => state

def step (state : State Caller) : Action Caller → State Caller
  | .start caller call => if (state.lines caller).atRest then state.start caller call else state
  | .advance caller outcome => state.advance caller outcome

end State

/-! ### What holds at each line -/

namespace State

/-- What a caller can rely on at its line, whatever the others do. -/
def Fits (state : State Caller) : Line → Prop
  | .fastReturn | .setSessionLock | .lockedReturn => state.cleared = 0 → state.process ≠ none
  | .returned result =>
    (state.cleared = 0 → result ≠ none) ∧ ∀ context ∈ result, context < state.contexts.length
  | .publish context | .installAcquire context | .install context | .graphTest context |
    .compile context => context < state.contexts.length
  | .assign context graph => ∃ found, state.contexts[context]? = some found ∧ graph = buildGraph found
  | .graphReturn context => ∃ found, state.contexts[context]? = some found ∧ found.graph ≠ none
  | .graphReturned context result =>
    ∃ found, state.contexts[context]? = some found ∧ result = some (buildGraph found)
  | _ => True

/-- Contexts are never taken back, their handles stay, and a graph that is there stays there. -/
structure Grows (before after : State Caller) : Prop where
  cleared : before.cleared ≤ after.cleared
  process : after.cleared = 0 → before.process ≠ none → after.process ≠ none
  contexts : ∀ (context : Nat) (found : Context), before.contexts[context]? = some found →
    ∃ later : Context, after.contexts[context]? = some later ∧ later.handles = found.handles ∧
      (found.graph ≠ none → later.graph ≠ none)

variable {state before after : State Caller}

omit [DecidableEq Caller] in
theorem Grows.length (grows : before.Grows after) {context : Nat} (inside : context < before.contexts.length) :
    context < after.contexts.length := by
  obtain ⟨later,found,_⟩ := grows.contexts context _ (List.getElem?_eq_getElem inside)
  exact (List.getElem?_eq_some_iff.mp found).1

omit [DecidableEq Caller] in
theorem Fits.mono {line : Line} (fits : before.Fits line) (grows : before.Grows after) : after.Fits line := by
  have fresh : after.cleared = 0 → before.cleared = 0 := fun none' => by
    have kept := grows.cleared
    omega
  cases line with
  | fastReturn => exact fun none' => grows.process none' (fits (fresh none'))
  | setSessionLock => exact fun none' => grows.process none' (fits (fresh none'))
  | lockedReturn => exact fun none' => grows.process none' (fits (fresh none'))
  | returned result =>
    exact ⟨fun none' => fits.1 (fresh none'),fun context got => grows.length (fits.2 context got)⟩
  | publish context => exact grows.length fits
  | installAcquire context => exact grows.length fits
  | install context => exact grows.length fits
  | graphTest context => exact grows.length fits
  | compile context => exact grows.length fits
  | assign context graph =>
    obtain ⟨found,here,same⟩ := fits
    obtain ⟨later,there,handles,_⟩ := grows.contexts context found here
    refine ⟨later,there,?_⟩
    rw [same,buildGraph,buildGraph,handles]
  | graphReturn context =>
    obtain ⟨found,here,compiled⟩ := fits
    obtain ⟨later,there,_,kept⟩ := grows.contexts context found here
    exact ⟨later,there,kept compiled⟩
  | graphReturned context result =>
    obtain ⟨found,here,same⟩ := fits
    obtain ⟨later,there,handles,_⟩ := grows.contexts context found here
    refine ⟨later,there,?_⟩
    rw [same,buildGraph,buildGraph,handles]
  | _ => trivial

omit [DecidableEq Caller] in
theorem grows_of_same (cleared : after.cleared = before.cleared) (process : after.process = before.process)
    (contexts : after.contexts = before.contexts) : before.Grows after :=
  ⟨Nat.le_of_eq cleared.symm,fun _ some' => by rw [process]; exact some',
    fun _ found here => ⟨found,by rw [contexts]; exact here,rfl,id⟩⟩

omit [DecidableEq Caller] in
theorem grows_of_append {added : Context} (cleared : after.cleared = before.cleared)
    (process : after.process = before.process) (contexts : after.contexts = before.contexts ++ [added]) :
    before.Grows after := by
  refine ⟨Nat.le_of_eq cleared.symm,fun _ some' => by rw [process]; exact some',fun context found here => ⟨found,?_,rfl,id⟩⟩
  rw [contexts,List.getElem?_append_left (List.getElem?_eq_some_iff.mp here).1]
  exact here

theorem grows_start (caller : Caller) (call : Call) : state.Grows (state.start caller call) := by
  cases call with
  | get => exact grows_of_same rfl rfl rfl
  | install handles => exact grows_of_append rfl rfl rfl
  | clear => exact grows_of_same rfl rfl rfl
  | graph =>
    simp only [start]
    split <;> exact grows_of_same rfl rfl rfl

theorem grows_setLock (caller : Caller) (line : Line) : state.Grows (state.setLock caller line) := by
  unfold setLock
  split <;> exact grows_of_same rfl rfl rfl

theorem grows_take (caller : Caller) (line : Line) : state.Grows (state.take caller line) := by
  unfold take
  split <;> exact grows_of_same rfl rfl rfl

omit [DecidableEq Caller] in
theorem grows_modify {context : Nat} {graph : CompiledGraph} (cleared : after.cleared = before.cleared)
    (process : after.process = before.process)
    (contexts : after.contexts = before.contexts.modify context (fun found => { found with graph := some graph })) :
    before.Grows after := by
  refine ⟨Nat.le_of_eq cleared.symm,fun _ some' => by rw [process]; exact some',fun other found here => ?_⟩
  rw [contexts,List.getElem?_modify,here,Option.map_eq_map,Option.map_some]
  refine ⟨_,rfl,?_⟩
  split_ifs
  · exact ⟨rfl,fun _ => Option.some_ne_none graph⟩
  · exact ⟨rfl,id⟩

theorem grows_advance (caller : Caller) (outcome : Outcome) : state.Grows (state.advance caller outcome) := by
  unfold advance
  cases state.lines caller with
  | build =>
    cases outcome with
    | builds handles => exact grows_of_append rfl rfl rfl
    | raises left => exact grows_of_same rfl rfl rfl
  | publish context => exact ⟨Nat.le_refl _,fun _ _ => Option.some_ne_none context,fun _ found here => ⟨found,here,rfl,id⟩⟩
  | install context => exact ⟨Nat.le_refl _,fun _ _ => Option.some_ne_none context,fun _ found here => ⟨found,here,rfl,id⟩⟩
  | clear => exact ⟨Nat.le_succ _,fun none' => absurd none' (Nat.succ_ne_zero _),fun _ found here => ⟨found,here,rfl,id⟩⟩
  | acquire => exact grows_take caller .lockedTest
  | installAcquire context => exact grows_take caller (.install context)
  | clearAcquire => exact grows_take caller .clear
  | setSessionLock => exact grows_setLock caller .lockedReturn
  | installLock previous => exact grows_setLock caller (.installReturn previous)
  | compile context =>
    dsimp only
    split <;> exact grows_of_same rfl rfl rfl
  | assign context graph => exact grows_modify rfl rfl rfl
  | _ => exact grows_of_same rfl rfl rfl

end State

end CustomerService.AppContext
