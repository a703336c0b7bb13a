import Mathlib.Data.List.Basic
import Mathlib.Logic.Relation

/-! Graphs of nodes that run one after another. A node reads the state and gives an update or
fails, the update goes into the state, and the edge out of the node is chosen there. -/
namespace CustomerService.NodeGraph

structure Graph (Node State Update Failure : Type*) where
  run : State → Node → Except Failure Update
  apply : State → Update → State
  next : State → Node → Option Node
  rank : Node → Nat
  descends : ∀ state node follower, next state node = some follower → rank follower < rank node

/-- One node of a walk, the state it found and what came of it. -/
structure Visit (Node State Update Failure : Type*) where
  node : Node
  before : State
  result : Except Failure Update

variable {Node State Update Failure : Type*} (graph : Graph Node State Update Failure)

def Graph.visit (state : State) (node : Node) : Visit Node State Update Failure :=
  ⟨node,state,graph.run state node⟩

def Graph.visits : Nat → State → Node → List (Visit Node State Update Failure)
  | 0,_,_ => []
  | bound + 1,state,node =>
    graph.visit state node ::
      match graph.run state node with
      | .error _ => []
      | .ok update =>
        let after := graph.apply state update
        match graph.next after node with
        | none => []
        | some follower => Graph.visits bound after follower

/-- The walk from a node to a failure or to a node without an edge. -/
def Graph.walk (state : State) (node : Node) : List (Visit Node State Update Failure) :=
  graph.visits (graph.rank node + 1) state node

def Graph.after (visit : Visit Node State Update Failure) : State :=
  match visit.result with
  | .ok update => graph.apply visit.before update
  | .error _ => visit.before

def Graph.final (state : State) (visits : List (Visit Node State Update Failure)) : State :=
  visits.getLast?.elim state graph.after

variable {graph} {state : State} {node : Node}

private theorem visits_eq {first second : Nat} (one : graph.rank node < first) (two : graph.rank node < second) :
    graph.visits first state node = graph.visits second state node := by
  induction first generalizing second state node with
  | zero => omega
  | succ first ih =>
    cases second with
    | zero => omega
    | succ second =>
      unfold Graph.visits
      congr 1
      cases graph.run state node with
      | error _ => rfl
      | ok update =>
        dsimp only
        cases edge : graph.next (graph.apply state update) node with
        | none => rfl
        | some follower =>
          have lower := graph.descends _ _ _ edge
          exact ih (by omega) (by omega)

theorem walk_of_error {failure : Failure} (failed : graph.run state node = .error failure) :
    graph.walk state node = [graph.visit state node] := by
  simp only [Graph.walk,Graph.visits,failed]

theorem walk_of_last {update : Update} (ran : graph.run state node = .ok update)
    (last : graph.next (graph.apply state update) node = none) :
    graph.walk state node = [graph.visit state node] := by
  simp only [Graph.walk,Graph.visits,ran,last]

theorem walk_of_edge {update : Update} {follower : Node} (ran : graph.run state node = .ok update)
    (edge : graph.next (graph.apply state update) node = some follower) :
    graph.walk state node =
      graph.visit state node :: graph.walk (graph.apply state update) follower := by
  have lower := graph.descends _ _ _ edge
  unfold Graph.walk
  rw [Graph.visits]
  simp only [ran,edge]
  exact congrArg _ (visits_eq (by omega) (by omega))

/-- Induction over a walk: it stops at a failure, it stops at a node without an edge, or an edge
leads to the rest of it. -/
theorem walk_induction {motive : State → Node → List (Visit Node State Update Failure) → Prop}
    (failed : ∀ state node failure, graph.run state node = .error failure →
      motive state node [graph.visit state node])
    (ended : ∀ state node update, graph.run state node = .ok update →
      graph.next (graph.apply state update) node = none → motive state node [graph.visit state node])
    (moved : ∀ state node update follower, graph.run state node = .ok update →
      graph.next (graph.apply state update) node = some follower →
      motive (graph.apply state update) follower (graph.walk (graph.apply state update) follower) →
      motive state node (graph.visit state node :: graph.walk (graph.apply state update) follower))
    (state : State) (node : Node) : motive state node (graph.walk state node) := by
  induction size : graph.rank node using Nat.strongRecOn generalizing state node with
  | _ rank ih =>
    cases ran : graph.run state node with
    | error failure =>
      rw [walk_of_error ran]
      exact failed state node failure ran
    | ok update =>
      cases edge : graph.next (graph.apply state update) node with
      | none =>
        rw [walk_of_last ran edge]
        exact ended state node update ran edge
      | some follower =>
        rw [walk_of_edge ran edge]
        have lower := graph.descends _ _ _ edge
        exact moved state node update follower ran edge (ih _ (size ▸ lower) _ _ rfl)

/-- What holds where a walk starts, and along every edge from an allowed visit, holds at each visit
of a walk whose visits are allowed. -/
theorem walk_invariant_of {Inv : Node → State → Prop} {Allowed : Visit Node State Update Failure → Prop}
    (keeps : ∀ state node update follower, Inv node state → Allowed (graph.visit state node) →
      graph.run state node = .ok update →
      graph.next (graph.apply state update) node = some follower →
      Inv follower (graph.apply state update))
    (start : Inv node state) (allowed : ∀ visit ∈ graph.walk state node, Allowed visit) :
    ∀ visit ∈ graph.walk state node, Inv visit.node visit.before := by
  revert start allowed
  refine walk_induction (motive := fun state node visits => Inv node state →
    (∀ visit ∈ visits, Allowed visit) → ∀ visit ∈ visits, Inv visit.node visit.before) ?_ ?_ ?_ state node
  · intro state node failure failed start allowed visit member
    obtain rfl := List.mem_singleton.mp member
    exact start
  · intro state node update ran last start allowed visit member
    obtain rfl := List.mem_singleton.mp member
    exact start
  · intro state node update follower ran edge ih start allowed visit member
    obtain ⟨here,later⟩ := List.forall_mem_cons.mp allowed
    cases member with
    | head => exact start
    | tail _ inside => exact ih (keeps _ _ _ _ start here ran edge) later visit inside

theorem walk_invariant {Inv : Node → State → Prop}
    (keeps : ∀ state node update follower, Inv node state → graph.run state node = .ok update →
      graph.next (graph.apply state update) node = some follower →
      Inv follower (graph.apply state update))
    (start : Inv node state) : ∀ visit ∈ graph.walk state node, Inv visit.node visit.before :=
  walk_invariant_of (fun state node update follower holds _ ran edge =>
    keeps state node update follower holds ran edge) start (fun _ _ => trivial)

theorem result_of_mem {visit : Visit Node State Update Failure} (member : visit ∈ graph.walk state node) :
    visit.result = graph.run visit.before visit.node := by
  revert visit
  refine walk_induction (motive := fun _ _ visits => ∀ {visit : Visit Node State Update Failure},
    visit ∈ visits → visit.result = graph.run visit.before visit.node) ?_ ?_ ?_ state node
  · intro state node failure failed visit member
    obtain rfl := List.mem_singleton.mp member
    rfl
  · intro state node update ran last visit member
    obtain rfl := List.mem_singleton.mp member
    rfl
  · intro state node update follower ran edge ih visit member
    cases member with
    | head => rfl
    | tail _ later => exact ih later

theorem final_cons (visit : Visit Node State Update Failure) (rest : List (Visit Node State Update Failure)) :
    graph.final state (visit :: rest) = graph.final (graph.after visit) rest := by
  unfold Graph.final
  rw [List.getLast?_cons]
  cases rest.getLast? <;> rfl

theorem final_take {before after : List (Visit Node State Update Failure)}
    {visit : Visit Node State Update Failure}
    (split : graph.walk state node = before ++ visit :: after) :
    graph.final state before = visit.before := by
  have single {only : Visit Node State Update Failure} {before : List (Visit Node State Update Failure)}
      (split : [only] = before ++ visit :: after) : before = [] ∧ visit = only := by
    cases before with
    | nil => exact ⟨rfl,(List.cons.inj split).1.symm⟩
    | cons first rest => exact absurd (List.cons.inj split).2 (by simp)
  revert before
  refine walk_induction (motive := fun state node visits => ∀ {before}, visits = before ++ visit :: after →
    graph.final state before = visit.before) ?_ ?_ ?_ state node
  · intro state node failure failed before split
    obtain ⟨rfl,rfl⟩ := single split
    rfl
  · intro state node update ran last before split
    obtain ⟨rfl,rfl⟩ := single split
    rfl
  · intro state node update follower ran edge ih before split
    cases before with
    | nil =>
      obtain ⟨rfl,_⟩ := List.cons.inj split
      rfl
    | cons first rest =>
      obtain ⟨rfl,later⟩ := List.cons.inj split
      rw [final_cons]
      have left : graph.after (graph.visit state node) = graph.apply state update := by
        simp only [Graph.after,Graph.visit,ran]
      rw [left]
      exact ih later

theorem walk_ends (graph : Graph Node State Update Failure) (state : State) (node : Node) :
    ∃ inner last, graph.walk state node = inner ++ [last] ∧
      (∀ visit ∈ inner, ∃ update follower, visit.result = .ok update ∧
        graph.next (graph.apply visit.before update) visit.node = some follower) ∧
      ((∃ failure, last.result = .error failure) ∨ ∃ update, last.result = .ok update ∧
        graph.next (graph.apply last.before update) last.node = none) := by
  refine walk_induction (motive := fun _ _ visits => ∃ inner last, visits = inner ++ [last] ∧
    (∀ visit ∈ inner, ∃ update follower, visit.result = .ok update ∧
      graph.next (graph.apply visit.before update) visit.node = some follower) ∧
    ((∃ failure, last.result = .error failure) ∨ ∃ update, last.result = .ok update ∧
      graph.next (graph.apply last.before update) last.node = none)) ?_ ?_ ?_ state node
  · intro state node failure failed
    exact ⟨[],_,rfl,fun _ listed => (by cases listed),Or.inl ⟨failure,failed⟩⟩
  · intro state node update ran last
    exact ⟨[],_,rfl,fun _ listed => (by cases listed),Or.inr ⟨update,ran,last⟩⟩
  · intro state node update follower ran edge ih
    obtain ⟨inner,last,split,passed,ended⟩ := ih
    refine ⟨graph.visit state node :: inner,last,congrArg _ split,?_,ended⟩
    exact List.forall_mem_cons.mpr ⟨⟨update,follower,ran,edge⟩,passed⟩

end CustomerService.NodeGraph
