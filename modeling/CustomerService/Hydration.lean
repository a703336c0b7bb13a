import CustomerService.Transition
import Mathlib.Logic.Function.Basic
import Mathlib.Data.List.Nodup

/-! Cold hydration of a session from its archive. A turn probes the checkpoint,
reads the archive on a miss and keeps it in its graph inputs; only then does it
take the session lock and run the graph. Turns interleave between these steps. -/
namespace CustomerService.Hydration
open Transition

variable {Text Memory : Type}

/-- A history message. `archived` follows a message of the session archive
through every copy of it; the program has no such field. -/
structure Message (Text : Type) where
  text : Text
  archived : Option Nat
deriving DecidableEq

/-- The fields a checkpoint and an archive share: the messages and the slots
with the session summary. -/
structure Conversation (Text Memory : Type) where
  messages : List (Message Text)
  memory : Memory
deriving DecidableEq

/-- What the graph does with a turn once the inputs are in the checkpoint: the
next checkpoint, and what `persist_respond_turn` writes, if it gets that far. -/
structure Graph (Text Memory : Type) where
  blank : Memory
  nodes : Nat → Conversation Text Memory → Conversation Text Memory
  persisted : Nat → Conversation Text Memory → Option (Conversation Text Memory)

/-- The archive part of the graph inputs of a turn, empty without hydration. -/
abbrev Inputs (Text Memory : Type) := Option (Conversation Text Memory)

inductive Phase (Text Memory : Type) where
  | start
  | missed
  | ready (inputs : Inputs Text Memory)
  | holding (inputs : Inputs Text Memory)
  | running
  | finished

structure Session (Text Memory : Type) where
  checkpoint : Option (Conversation Text Memory)
  archive : Option (Conversation Text Memory)
  holder : Option Nat
  turns : Nat → Phase Text Memory
  /-- The archived messages that entered the history, in order. -/
  entered : List Nat
  /-- The checkpointed and the archived memory of every input that replaced one. -/
  replaced : List (Memory × Memory)

inductive Action where
  | probe (turn : Nat) (fails : Bool)
  | read (turn : Nat) (fails : Bool)
  | acquire (turn : Nat)
  | busy (turn : Nat)
  | enter (turn : Nat)
  | leave (turn : Nat)

/-- `acheckpoint_exists`; a read that raises counts as a miss. -/
def acheckpointExists (session : Session Text Memory) (fails : Bool) : Bool :=
  !fails && session.checkpoint.isSome

/-- `load_session_archive` and `_merge_archive`; a read that raises, and an
absent archive, leave the inputs as they are. -/
def mergeArchive (session : Session Text Memory) (fails : Bool) : Inputs Text Memory :=
  if fails then none else session.archive

/-- The input checkpoint: `add_messages` appends messages without an id, every
other input field overwrites. -/
def applyInputs (graph : Graph Text Memory) (session : Session Text Memory)
    (inputs : Inputs Text Memory) : Conversation Text Memory :=
  let current := session.checkpoint.getD ⟨[],graph.blank⟩
  match inputs with
  | none => current
  | some archived => ⟨current.messages ++ archived.messages,archived.memory⟩

def enteredBy (inputs : Inputs Text Memory) : List Nat :=
  match inputs with
  | none => []
  | some archived => archived.messages.filterMap Message.archived

def replacedBy (session : Session Text Memory) (inputs : Inputs Text Memory) :
    List (Memory × Memory) :=
  match session.checkpoint, inputs with
  | some current,some archived => [(current.memory,archived.memory)]
  | _,_ => []

def Session.move (session : Session Text Memory) (turn : Nat) (phase : Phase Text Memory) :
    Session Text Memory :=
  {session with turns := Function.update session.turns turn phase}

def step (graph : Graph Text Memory) (session : Session Text Memory) :
    Action → Session Text Memory
  | .probe turn fails =>
    match session.turns turn with
    | .start =>
      session.move turn (if acheckpointExists session fails then .ready none else .missed)
    | _ => session
  | .read turn fails =>
    match session.turns turn with
    | .missed => session.move turn (.ready (mergeArchive session fails))
    | _ => session
  | .acquire turn =>
    match session.turns turn, session.holder with
    | .ready inputs,none => {session.move turn (.holding inputs) with holder := some turn}
    | _,_ => session
  | .busy turn =>
    match session.turns turn with
    | .ready _ => session.move turn .finished
    | _ => session
  | .enter turn =>
    match session.turns turn with
    | .holding inputs =>
      {session.move turn .running with
        checkpoint := some (applyInputs graph session inputs)
        entered := session.entered ++ enteredBy inputs
        replaced := session.replaced ++ replacedBy session inputs}
    | _ => session
  | .leave turn =>
    match session.turns turn, session.checkpoint with
    | .running,some current =>
      let result := graph.nodes turn current
      {session.move turn .finished with
        checkpoint := some result
        archive := (graph.persisted turn result).or session.archive
        holder := none}
    | _,_ => session

/-- An archive of the given texts, each message tagged with its position. -/
def archiveOf (texts : List Text) (memory : Memory) : Conversation Text Memory :=
  ⟨texts.zipIdx.map (fun item => ⟨item.1,some item.2⟩),memory⟩

def cold (texts : List Text) (memory : Memory) : Session Text Memory where
  checkpoint := none
  archive := some (archiveOf texts memory)
  holder := none
  turns := fun _ => .start
  entered := []
  replaced := []

/-- Every archived message entered at most once, and no input put another
memory in the place of a checkpointed one. -/
def HydratedOnce (session : Session Text Memory) : Prop :=
  session.entered.Nodup ∧ ∀ pair ∈ session.replaced, pair.2 = pair.1

/-- A turn that merged the archive starts its graph run while the thread still
has no checkpoint. -/
def EntersCold (session : Session Text Memory) : Action → Prop
  | .enter turn =>
    ∀ archived, session.turns turn = .holding (some archived) → session.checkpoint = none
  | _ => True

def Phase.inputs : Phase Text Memory → Inputs Text Memory
  | .ready inputs => inputs
  | .holding inputs => inputs
  | _ => none

/-- As long as no graph run has begun, the archive is the original one and so is
every copy of it in a turn's inputs. -/
structure Untouched (original : Conversation Text Memory) (session : Session Text Memory) :
    Prop where
  archive : session.archive = some original
  copies : ∀ turn archived, (session.turns turn).inputs = some archived → archived = original
  still : ∀ turn, session.turns turn ≠ .running
  entered : session.entered = []
  replaced : session.replaced = []

structure Inv (original : Conversation Text Memory) (session : Session Text Memory) : Prop where
  before : session.checkpoint = none → Untouched original session
  once : HydratedOnce session

private theorem copies_move {original : Conversation Text Memory} {session : Session Text Memory}
    (untouched : Untouched original session) (turn : Nat) (phase : Phase Text Memory)
    (copy : ∀ archived, phase.inputs = some archived → archived = original)
    (idle : phase ≠ .running) : Untouched original (session.move turn phase) := by
  refine ⟨untouched.archive,?_,?_,untouched.entered,untouched.replaced⟩
  · intro other archived found
    by_cases same : other = turn
    · subst same
      simp only [Session.move,Function.update_self] at found
      exact copy archived found
    · simp only [Session.move,Function.update_of_ne same] at found
      exact untouched.copies other archived found
  · intro other
    by_cases same : other = turn
    · subst same
      simpa [Session.move] using idle
    · simpa [Session.move,Function.update_of_ne same] using untouched.still other

private theorem inv_move {original : Conversation Text Memory} {session : Session Text Memory}
    (inv : Inv original session) (turn : Nat) (phase : Phase Text Memory)
    (copy : session.checkpoint = none →
      ∀ archived, phase.inputs = some archived → archived = original)
    (idle : phase ≠ .running) : Inv original (session.move turn phase) :=
  ⟨fun none' => copies_move (inv.before none') turn phase (copy none') idle,inv.once⟩

private theorem archiveOf_entered (texts : List Text) (memory : Memory) :
    (enteredBy (some (archiveOf texts memory))).Nodup := by
  have tags : enteredBy (some (archiveOf texts memory)) = List.range' 0 texts.length := by
    simp [enteredBy,archiveOf,List.filterMap_map,List.zipIdx_map_snd]
  rw [tags]
  exact List.nodup_range'

private theorem inv_hold {original : Conversation Text Memory} {session : Session Text Memory}
    (inv : Inv original session) (holder : Option Nat) :
    Inv original {session with holder := holder} := by
  refine ⟨fun none' => ?_,inv.once⟩
  obtain ⟨archive,copies,still,entered,replaced⟩ := inv.before none'
  exact ⟨archive,copies,still,entered,replaced⟩

private theorem once_enter {original : Conversation Text Memory} {session : Session Text Memory}
    (inv : Inv original session) (distinct : (enteredBy (some original)).Nodup) {turn : Nat}
    {inputs : Inputs Text Memory} (phase : session.turns turn = .holding inputs)
    (allowed : EntersCold session (.enter turn)) :
    (session.entered ++ enteredBy inputs).Nodup ∧
      ∀ pair ∈ session.replaced ++ replacedBy session inputs, pair.2 = pair.1 := by
  cases inputs with
  | none =>
    have nothing : replacedBy session none = [] := by
      unfold replacedBy
      cases session.checkpoint <;> rfl
    simpa [HydratedOnce,enteredBy,nothing] using inv.once
  | some archived =>
    have none' := allowed archived phase
    have untouched := inv.before none'
    have same := untouched.copies turn archived (by rw [phase]; rfl)
    simpa [untouched.entered,untouched.replaced,replacedBy,none',same] using distinct

private theorem step_inv (graph : Graph Text Memory) (texts : List Text) (memory : Memory)
    (session : Session Text Memory) (action : Action)
    (inv : Inv (archiveOf texts memory) session) (allowed : EntersCold session action) :
    Inv (archiveOf texts memory) (step graph session action) := by
  cases action with
  | probe turn fails =>
    cases phase : session.turns turn with
    | start =>
      simp only [step,phase]
      refine inv_move inv turn _ ?_ ?_
      · intro _ archived found
        split at found <;> cases found
      · split <;> simp
    | _ => simpa only [step,phase] using inv
  | read turn fails =>
    cases phase : session.turns turn with
    | missed =>
      simp only [step,phase]
      refine inv_move inv turn _ ?_ (by simp)
      intro none' archived found
      have untouched := inv.before none'
      simp only [Phase.inputs,mergeArchive,untouched.archive] at found
      split at found
      · cases found
      · exact (Option.some.inj found).symm
    | _ => simpa only [step,phase] using inv
  | acquire turn =>
    cases phase : session.turns turn with
    | ready inputs =>
      cases held : session.holder with
      | none =>
        simp only [step,phase,held]
        apply inv_hold
        refine inv_move inv turn (.holding inputs) (fun none' archived found => ?_) (by simp)
        exact (inv.before none').copies turn archived (by rw [phase]; exact found)
      | some other => simpa only [step,phase,held] using inv
    | _ => simpa only [step,phase] using inv
  | busy turn =>
    cases phase : session.turns turn with
    | ready inputs =>
      simp only [step,phase]
      exact inv_move inv turn .finished (fun _ _ found => by cases found) (by simp)
    | _ => simpa only [step,phase] using inv
  | enter turn =>
    cases phase : session.turns turn with
    | holding inputs =>
      simp only [step,phase]
      have once := once_enter inv (archiveOf_entered texts memory) phase allowed
      exact ⟨fun none' => (by cases none'),once⟩
    | _ => simpa only [step,phase] using inv
  | leave turn =>
    cases phase : session.turns turn with
    | running =>
      cases current : session.checkpoint with
      | none => exact absurd phase ((inv.before current).still turn)
      | some conversation =>
        simp only [step,phase,current]
        exact ⟨fun none' => (by cases none'),inv.once⟩
    | _ => simpa only [step,phase] using inv

private theorem cold_inv (texts : List Text) (memory : Memory) :
    Inv (archiveOf texts memory) (cold texts memory) := by
  refine ⟨fun _ => ⟨rfl,?_,?_,rfl,rfl⟩,?_⟩
  · intro turn archived found
    cases found
  · intro turn running
    cases running
  · simp [HydratedOnce,cold]

/-- In every run in which no hydrated turn starts its graph on an existing
checkpoint, hydration happens once and replaces nothing, in every state. -/
theorem hydrated_once_of_cold_entries (graph : Graph Text Memory) (texts : List Text)
    (memory : Memory) (actions : List Action)
    (allowed : Along (step graph) EntersCold (cold texts memory) actions) :
    Throughout (step graph) HydratedOnce (cold texts memory) actions :=
  (Throughout.of_along (step_inv graph texts memory) (cold_inv texts memory) allowed).imp
    (fun _ inv => inv.once)

/-- A graph whose every turn answers "paid" and leaves memory 1. -/
def answering : Graph String Nat where
  blank := 0
  nodes := fun _ current => ⟨current.messages ++ [⟨"paid",none⟩],1⟩
  persisted := fun _ current => some current

theorem hydrated_once_of_cold_entries_single :
    Throughout (step answering) HydratedOnce (cold ["order?"] 5)
      [.probe 0 false,.read 0 false,.acquire 0,.enter 0,.leave 0] := by
  refine hydrated_once_of_cold_entries answering _ _ _ ⟨trivial,trivial,trivial,?_,trivial,trivial⟩
  intro _ _
  rfl

/-- Two turns probe the cold thread before either runs. The second run appends
the archived message again and puts the archived memory back. -/
theorem hydrated_twice_by_two_probes :
    ¬∀ (graph : Graph String Nat) (texts : List String) (memory : Nat) (actions : List Action),
      Throughout (step graph) HydratedOnce (cold texts memory) actions := by
  intro law
  have once := (law answering ["order?"] 5 [.probe 0 false,.probe 1 false,.read 0 false,
    .read 1 false,.acquire 0,.enter 0,.leave 0,.acquire 1,.enter 1,.leave 1]).last
  exact absurd once.1 (by decide)

end CustomerService.Hydration
