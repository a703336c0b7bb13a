import CustomerService.Dict
import CustomerService.Machine
import CustomerService.Text
import Mathlib.Algebra.Order.Field.Rat

/-! The session locks of one process: the class with a lock object for each thread id and the
class with a set of the ids that are held grant alike, whatever the interleaving. -/
namespace CustomerService.LocalLocks

/-! What a class keeps, and what it does with it while it has `_meta`. -/

structure LockTable (State Handle : Type) where
  initial : State
  find : State → Text → Handle × State
  attempt : State → Handle → Bool × State
  release : State → Text → Option State

namespace DictSessionLock

/-- The lock objects, numbered as they are made, and those that are locked. -/
structure State where
  locks : Dict Text Nat
  made : Nat
  locked : List Nat

def lockFor (state : State) (threadId : Text) : Nat × State :=
  match state.locks.get? threadId with
  | some lock => (lock,state)
  | none =>
    (state.made,{ state with locks := state.locks.set threadId state.made, made := state.made + 1 })

/-- `lock.acquire(blocking=False)`. -/
def attempt (state : State) (lock : Nat) : Bool × State :=
  if lock ∈ state.locked then (false,state) else (true,{ state with locked := lock::state.locked })

/-- `release`; a lock that is not locked raises RuntimeError. -/
def release (state : State) (threadId : Text) : Option State :=
  let found := lockFor state threadId
  if found.1 ∈ found.2.locked then
    some { found.2 with locked := found.2.locked.filter (· ≠ found.1) }
  else none

def table : LockTable State Nat where
  initial := ⟨∅,0,[]⟩
  find := lockFor
  attempt := attempt
  release := release

end DictSessionLock

namespace AsyncDictSessionLock

/-- `_held`. -/
abbrev State := List Text

def attempt (held : State) (threadId : Text) : Bool × State :=
  if held.contains threadId then (false,held) else (true,threadId::held)

/-- `_held.discard(thread_id)`. -/
def release (held : State) (threadId : Text) : Option State := some (held.filter (· ≠ threadId))

def table : LockTable State Text where
  initial := []
  find held threadId := (threadId,held)
  attempt := attempt
  release := release

end AsyncDictSessionLock

/-! The loop of `aacquire`, and the body of `ahold`. -/

/-- A call of `ahold`: before it, before an attempt, after one that failed, in the sleep after
it, in the body, or at its end. -/
inductive Phase (Handle : Type)
  | idle
  | trying (threadId : Text) (handle : Handle) (deadline : ℚ)
  | refused (threadId : Text) (handle : Handle) (deadline : ℚ)
  | sleeping (threadId : Text) (handle : Handle) (deadline wakeAt : ℚ)
  | holding (threadId : Text)
  | ended
deriving DecidableEq

inductive Action
  | enter (threadId : Text)
  | attempt
  | check
  | wake
  | cancel
  | leave

/-- What a call does, at a time of the monotonic clock. -/
structure Event where
  now : ℚ
  call : Nat
  action : Action

inductive Answer
  | started
  | granted
  | refused
  | asleep
  | sessionBusy
  | awake
  | cancelled
  | released
  | runtimeError
  | ignored
deriving DecidableEq

structure Process (State Handle : Type) where
  locks : State
  phase : Nat → Phase Handle

section
variable {State Handle : Type} (table : LockTable State Handle) (wait interval : ℚ)

def Process.put (process : Process State Handle) (call : Nat) (locks : State)
    (phase : Phase Handle) : Process State Handle :=
  ⟨locks,fun other => if other = call then phase else process.phase other⟩

/-- A sleep is the one place where a call before its body can be cancelled. The body ends in
any way. -/
def step (process : Process State Handle) (event : Event) : Answer × Process State Handle :=
  match event.action, process.phase event.call with
  | .enter threadId, .idle =>
    let found := table.find process.locks threadId
    (.started,process.put event.call found.2 (.trying threadId found.1 (event.now + wait)))
  | .attempt, .trying threadId handle deadline =>
    let tried := table.attempt process.locks handle
    if tried.1 then (.granted,process.put event.call tried.2 (.holding threadId))
    else (.refused,process.put event.call tried.2 (.refused threadId handle deadline))
  | .check, .refused threadId handle deadline =>
    if deadline ≤ event.now then (.sessionBusy,process.put event.call process.locks .ended)
    else (.asleep,process.put event.call process.locks
      (.sleeping threadId handle deadline (event.now + interval)))
  | .wake, .sleeping threadId handle deadline wakeAt =>
    if wakeAt ≤ event.now then
      (.awake,process.put event.call process.locks (.trying threadId handle deadline))
    else (.ignored,process)
  | .cancel, .sleeping _ _ _ _ => (.cancelled,process.put event.call process.locks .ended)
  | .leave, .holding threadId =>
    match table.release process.locks threadId with
    | some locks => (.released,process.put event.call locks .ended)
    | none => (.runtimeError,process.put event.call process.locks .ended)
  | _, _ => (.ignored,process)

def machine : Machine (Process State Handle) Event Answer where
  initial := ⟨table.initial,fun _ => .idle⟩
  step := step table wait interval

end

/-! What the classes have in common: each keeps which ids are held. -/

structure Keeps {State Handle : Type} (table : LockTable State Handle) where
  valid : State → Prop
  held : State → Text → Bool
  names : State → Handle → Text → Prop
  initial : valid table.initial ∧ ∀ threadId, held table.initial threadId = false
  find : ∀ {state}, valid state → ∀ threadId,
    valid (table.find state threadId).2 ∧
    (∀ other, held (table.find state threadId).2 other = held state other) ∧
    names (table.find state threadId).2 (table.find state threadId).1 threadId ∧
    ∀ handle other, names state handle other → names (table.find state threadId).2 handle other
  attempt : ∀ {state}, valid state → ∀ {handle threadId}, names state handle threadId →
    (table.attempt state handle).1 = !held state threadId ∧
    valid (table.attempt state handle).2 ∧
    (∀ other, held (table.attempt state handle).2 other = (held state other || other == threadId)) ∧
    ∀ handle' other, names state handle' other → names (table.attempt state handle).2 handle' other
  release : ∀ {state}, valid state → ∀ {threadId}, held state threadId = true →
    ∃ next, table.release state threadId = some next ∧ valid next ∧
    (∀ other, held next other = (held state other && other != threadId)) ∧
    ∀ handle other, names state handle other → names next handle other

def AsyncDictSessionLock.keeps : Keeps AsyncDictSessionLock.table where
  valid _ := True
  held held threadId := held.contains threadId
  names _ handle threadId := handle = threadId
  initial := ⟨trivial,fun _ => rfl⟩
  find _ _ := ⟨trivial,fun _ => rfl,rfl,fun _ _ named => named⟩
  attempt := by
    intro held _ handle threadId named
    subst named
    dsimp only [table,attempt]
    by_cases taken : held.contains handle = true
    · rw [if_pos taken]
      refine ⟨by simpa using taken,trivial,fun other => ?_,fun _ _ named => named⟩
      by_cases same : other = handle
      · subst same
        simpa using taken
      · simp [same]
    · rw [if_neg taken]
      refine ⟨by simpa using taken,trivial,fun other => ?_,fun _ _ named => named⟩
      rw [List.contains_cons,Bool.or_comm]
  release := by
    intro held _ threadId _
    refine ⟨_,rfl,trivial,fun other => ?_,fun _ _ named => named⟩
    by_cases same : other = threadId
    · simp [same]
    · simp [same]

namespace DictSessionLock

structure Valid (state : State) : Prop where
  made : ∀ threadId lock, state.locks.get? threadId = some lock → lock < state.made
  apart : ∀ first second lock, state.locks.get? first = some lock →
    state.locks.get? second = some lock → first = second
  locked : ∀ lock ∈ state.locked, lock < state.made

def held (state : State) (threadId : Text) : Bool :=
  match state.locks.get? threadId with
  | some lock => state.locked.contains lock
  | none => false

private theorem lockFor_found {state : State} {threadId : Text} {lock : Nat}
    (found : state.locks.get? threadId = some lock) : lockFor state threadId = (lock,state) := by
  rw [lockFor,found]

private theorem lockFor_new {state : State} {threadId : Text}
    (missing : state.locks.get? threadId = none) : lockFor state threadId =
      (state.made,⟨state.locks.set threadId state.made,state.made + 1,state.locked⟩) := by
  rw [lockFor,missing]

private theorem held_found {state : State} {threadId : Text} {lock : Nat}
    (found : state.locks.get? threadId = some lock) :
    held state threadId = state.locked.contains lock := by
  rw [held,found]

private theorem held_missing {state : State} {threadId : Text}
    (missing : state.locks.get? threadId = none) : held state threadId = false := by
  rw [held,missing]

private theorem find_keeps {state : State} (valid : Valid state) (threadId : Text) :
    Valid (lockFor state threadId).2 ∧
    (∀ other, held (lockFor state threadId).2 other = held state other) ∧
    (lockFor state threadId).2.locks.get? threadId = some (lockFor state threadId).1 ∧
    ∀ lock other, state.locks.get? other = some lock →
      (lockFor state threadId).2.locks.get? other = some lock := by
  cases found : state.locks.get? threadId with
  | some lock =>
    rw [lockFor_found found]
    exact ⟨valid,fun _ => rfl,found,fun _ _ named => named⟩
  | none =>
    rw [lockFor_new found]
    have others {other : Text} (apart : other ≠ threadId) :
        (state.locks.set threadId state.made).get? other = state.locks.get? other := by
      rw [Dict.get?_set,if_neg apart]
    have own : (state.locks.set threadId state.made).get? threadId = some state.made := by
      rw [Dict.get?_set,if_pos rfl]
    have cases' {other : Text} {lock : Nat}
        (named : (state.locks.set threadId state.made).get? other = some lock) :
        other = threadId ∧ lock = state.made ∨ state.locks.get? other = some lock := by
      by_cases same : other = threadId
      · subst same
        rw [own] at named
        exact Or.inl ⟨rfl,(Option.some.inj named).symm⟩
      · rw [others same] at named
        exact Or.inr named
    refine ⟨⟨?_,?_,?_⟩,fun other => ?_,own,fun lock other named => ?_⟩
    · intro other lock named
      rcases cases' named with ⟨_,rfl⟩ | old
      · exact Nat.lt_succ_self _
      · exact Nat.lt_succ_of_lt (valid.made _ _ old)
    · intro first second lock one two
      rcases cases' one with ⟨rfl,rfl⟩ | old
      · rcases cases' two with ⟨rfl,_⟩ | older
        · rfl
        · exact absurd (valid.made _ _ older) (Nat.lt_irrefl _)
      · rcases cases' two with ⟨rfl,rfl⟩ | older
        · exact absurd (valid.made _ _ old) (Nat.lt_irrefl _)
        · exact valid.apart _ _ _ old older
    · exact fun lock listed => Nat.lt_succ_of_lt (valid.locked lock listed)
    · by_cases same : other = threadId
      · subst same
        rw [held_found own,held_missing found]
        have fresh : state.made ∉ state.locked :=
          fun listed => Nat.lt_irrefl _ (valid.locked _ listed)
        simpa using fresh
      · unfold held
        dsimp only
        rw [others same]
    · have apart : other ≠ threadId := by
        rintro rfl
        rw [found] at named
        cases named
      exact (others apart).trans named

private theorem attempt_keeps {state : State} (valid : Valid state) {lock : Nat} {threadId : Text}
    (named : state.locks.get? threadId = some lock) :
    (attempt state lock).1 = !held state threadId ∧ Valid (attempt state lock).2 ∧
    (∀ other, held (attempt state lock).2 other = (held state other || other == threadId)) ∧
    ∀ lock' other, state.locks.get? other = some lock' →
      (attempt state lock).2.locks.get? other = some lock' := by
  rw [held_found named,attempt]
  by_cases taken : lock ∈ state.locked
  · rw [if_pos taken]
    refine ⟨by simpa using taken,valid,fun other => ?_,fun _ _ named => named⟩
    by_cases same : other = threadId
    · subst same
      rw [held_found named]
      simpa using taken
    · simp [same]
  · rw [if_neg taken]
    refine ⟨by simpa using taken,⟨valid.made,valid.apart,?_⟩,fun other => ?_,fun _ _ named => named⟩
    · intro other listed
      rcases List.mem_cons.mp listed with rfl | old
      · exact valid.made _ _ named
      · exact valid.locked _ old
    · unfold held
      dsimp only
      cases found : state.locks.get? other with
      | none =>
        have apart : other ≠ threadId := by
          rintro rfl
          rw [found] at named
          cases named
        simp [apart]
      | some lock' =>
        by_cases same : other = threadId
        · subst same
          rw [found] at named
          cases named
          simp
        · have apart : lock' ≠ lock := by
            rintro rfl
            exact same (valid.apart _ _ _ found named)
          simp [same,apart]

private theorem release_keeps {state : State} (valid : Valid state) {threadId : Text}
    (taken : held state threadId = true) :
    ∃ next, release state threadId = some next ∧ Valid next ∧
    (∀ other, held next other = (held state other && other != threadId)) ∧
    ∀ lock other, state.locks.get? other = some lock → next.locks.get? other = some lock := by
  cases named : state.locks.get? threadId with
  | none =>
    rw [held_missing named] at taken
    cases taken
  | some lock =>
    have locked : lock ∈ state.locked := by simpa [held_found named] using taken
    unfold release
    rw [lockFor_found named]
    dsimp only
    rw [if_pos locked]
    refine ⟨_,rfl,⟨valid.made,valid.apart,?_⟩,fun other => ?_,fun _ _ named => named⟩
    · exact fun other listed => valid.locked other (List.mem_filter.mp listed).1
    · unfold held
      dsimp only
      cases found : state.locks.get? other with
      | none => rfl
      | some lock' =>
        by_cases same : other = threadId
        · subst same
          rw [found] at named
          cases named
          simp
        · have apart : lock' ≠ lock := by
            rintro rfl
            exact same (valid.apart _ _ _ found named)
          simp [same,apart]

def keeps : Keeps table where
  valid := Valid
  held := held
  names state lock threadId := state.locks.get? threadId = some lock
  initial := by
    refine ⟨⟨fun _ _ named => ?_,fun _ _ _ named => ?_,fun _ listed => ?_⟩,fun _ => rfl⟩
    · cases named
    · cases named
    · cases listed
  find := find_keeps
  attempt := attempt_keeps
  release := release_keeps

end DictSessionLock

/-! What a lock is for: a call is granted unless a body for its id is running. -/

section
variable {Handle : Type}

def Phase.erase : Phase Handle → Phase Unit
  | .idle => .idle
  | .trying threadId _ deadline => .trying threadId () deadline
  | .refused threadId _ deadline => .refused threadId () deadline
  | .sleeping threadId _ deadline wakeAt => .sleeping threadId () deadline wakeAt
  | .holding threadId => .holding threadId
  | .ended => .ended

def Phase.awaited : Phase Handle → Option (Text × Handle)
  | .trying threadId handle _ => some (threadId,handle)
  | .refused threadId handle _ => some (threadId,handle)
  | .sleeping threadId handle _ _ => some (threadId,handle)
  | _ => none

def Phase.body : Phase Handle → Option Text
  | .holding threadId => some threadId
  | _ => none

theorem Phase.body_erase (phase : Phase Handle) : phase.erase.body = phase.body := by
  cases phase <;> rfl

end

def set (phases : Nat → Phase Unit) (call : Nat) (phase : Phase Unit) : Nat → Phase Unit :=
  fun other => if other = call then phase else phases other

section
variable (wait interval : ℚ)

open Classical in
noncomputable def idealStep (phases : Nat → Phase Unit) (event : Event) :
    Answer × (Nat → Phase Unit) :=
  match event.action, phases event.call with
  | .enter threadId, .idle => (.started,set phases event.call (.trying threadId () (event.now + wait)))
  | .attempt, .trying threadId _ deadline =>
    if ∃ other, (phases other).body = some threadId then
      (.refused,set phases event.call (.refused threadId () deadline))
    else (.granted,set phases event.call (.holding threadId))
  | .check, .refused threadId _ deadline =>
    if deadline ≤ event.now then (.sessionBusy,set phases event.call .ended)
    else (.asleep,set phases event.call (.sleeping threadId () deadline (event.now + interval)))
  | .wake, .sleeping threadId _ deadline wakeAt =>
    if wakeAt ≤ event.now then (.awake,set phases event.call (.trying threadId () deadline))
    else (.ignored,phases)
  | .cancel, .sleeping _ _ _ _ => (.cancelled,set phases event.call .ended)
  | .leave, .holding _ => (.released,set phases event.call .ended)
  | _, _ => (.ignored,phases)

noncomputable def ideal : Machine (Nat → Phase Unit) Event Answer where
  initial := fun _ => .idle
  step := idealStep wait interval

end

section
variable {State Handle : Type} {table : LockTable State Handle} (keeps : Keeps table)

/-- What is held is held by one call in its body. -/
structure Sound (process : Process State Handle) : Prop where
  valid : keeps.valid process.locks
  named : ∀ call threadId handle, (process.phase call).awaited = some (threadId,handle) →
    keeps.names process.locks handle threadId
  holders : ∀ threadId, keeps.held process.locks threadId = true ↔
    ∃ call, (process.phase call).body = some threadId
  exclusive : ∀ first second threadId, (process.phase first).body = some threadId →
    (process.phase second).body = some threadId → first = second

variable {keeps} {process : Process State Handle}

theorem Sound.put (sound : Sound keeps process) {call : Nat} {locks : State} {phase : Phase Handle}
    (valid : keeps.valid locks)
    (kept : ∀ handle threadId, keeps.names process.locks handle threadId →
      keeps.names locks handle threadId)
    (named : ∀ threadId handle, phase.awaited = some (threadId,handle) →
      keeps.names locks handle threadId)
    (holders : ∀ threadId, keeps.held locks threadId = true ↔ phase.body = some threadId ∨
      keeps.held process.locks threadId = true ∧ (process.phase call).body ≠ some threadId)
    (free : ∀ threadId, phase.body = some threadId → keeps.held process.locks threadId = false) :
    Sound keeps (process.put call locks phase) := by
  have own : (process.put call locks phase).phase call = phase := if_pos rfl
  have others {other : Nat} (apart : other ≠ call) :
      (process.put call locks phase).phase other = process.phase other := if_neg apart
  refine ⟨valid,fun other threadId handle waits => ?_,fun threadId => ?_,?_⟩
  · by_cases same : other = call
    · rw [same,own] at waits
      exact named _ _ waits
    · rw [others same] at waits
      exact kept _ _ (sound.named _ _ _ waits)
  · refine (holders threadId).trans ⟨?_,?_⟩
    · rintro (taken | ⟨held,left⟩)
      · exact ⟨call,by rw [own]; exact taken⟩
      · obtain ⟨other,inside⟩ := (sound.holders threadId).mp held
        refine ⟨other,?_⟩
        rw [others (by rintro rfl; exact left inside)]
        exact inside
    · rintro ⟨other,inside⟩
      by_cases same : other = call
      · rw [same,own] at inside
        exact Or.inl inside
      · rw [others same] at inside
        refine Or.inr ⟨(sound.holders threadId).mpr ⟨other,inside⟩,fun left => ?_⟩
        exact same (sound.exclusive _ _ _ inside left)
  · have new {other : Nat} {threadId : Text} (apart : other ≠ call)
        (taken : phase.body = some threadId) : (process.phase other).body ≠ some threadId := by
      intro inside
      have held := (sound.holders threadId).mpr ⟨other,inside⟩
      rw [free threadId taken] at held
      cases held
    intro first second threadId one two
    by_cases same : first = call
    · rw [same,own] at one
      by_contra differ
      have apart : second ≠ call := fun same' => differ (same.trans same'.symm)
      rw [others apart] at two
      exact new apart one two
    · rw [others same] at one
      by_cases same' : second = call
      · rw [same',own] at two
        exact absurd one (new same two)
      · rw [others same'] at two
        exact sound.exclusive _ _ _ one two

theorem Sound.move (sound : Sound keeps process) {call : Nat} {phase : Phase Handle}
    (before : (process.phase call).body = none) (after : phase.body = none)
    (named : ∀ threadId handle, phase.awaited = some (threadId,handle) →
      keeps.names process.locks handle threadId) :
    Sound keeps (process.put call process.locks phase) := by
  refine sound.put sound.valid (fun _ _ named => named) named (fun threadId => ?_)
    (fun threadId taken => ?_)
  · rw [before,after]
    simp
  · rw [after] at taken
    cases taken

def Process.erased (process : Process State Handle) : Nat → Phase Unit :=
  fun call => (process.phase call).erase

private theorem erased_put (call : Nat) (locks : State) (phase : Phase Handle) :
    (process.put call locks phase).erased = set process.erased call phase.erase := by
  funext other
  simp only [Process.erased,Process.put,set]
  split_ifs
  · rfl
  · rfl

theorem Sound.held_iff (sound : Sound keeps process) (threadId : Text) :
    keeps.held process.locks threadId = true ↔
      ∃ other, (process.erased other).body = some threadId := by
  simp only [Process.erased,Phase.body_erase]
  exact sound.holders threadId

variable (wait interval : ℚ)

variable (keeps) in
structure Follows (process : Process State Handle) (made : Answer × Process State Handle)
    (meant : Answer × (Nat → Phase Unit)) : Prop where
  answer : made.1 = meant.1
  sound : Sound keeps made.2
  erased : made.2.erased = meant.2

private theorem follows_put {answer : Answer} {call : Nat} {locks : State} {phase : Phase Handle}
    (sound : Sound keeps (process.put call locks phase)) :
    Follows keeps process (answer,process.put call locks phase)
      (answer,set process.erased call phase.erase) :=
  ⟨rfl,sound,erased_put call locks phase⟩

private theorem follows_attempt (sound : Sound keeps process) (now : ℚ) {call : Nat} {threadId : Text}
    {handle : Handle} {deadline : ℚ} (at' : process.phase call = .trying threadId handle deadline) :
    Follows keeps process (step table wait interval process ⟨now,call,.attempt⟩)
      (idealStep wait interval process.erased ⟨now,call,.attempt⟩) := by
  have erased : process.erased call = .trying threadId () deadline := by
    rw [Process.erased,at']
    rfl
  have before : (process.phase call).body = none := by rw [at']; rfl
  have named := sound.named call threadId handle (by rw [at']; rfl)
  obtain ⟨granted,valid,held,kept⟩ := keeps.attempt sound.valid named
  unfold step idealStep
  dsimp only
  rw [at',erased]
  dsimp only
  rw [granted]
  by_cases taken : keeps.held process.locks threadId = true
  · rw [taken,if_neg (by decide),if_pos ((sound.held_iff threadId).mp taken)]
    refine follows_put (sound.put valid kept (fun _ _ waits => ?_) (fun other => ?_) (fun _ body => ?_))
    · cases waits
      exact kept _ _ named
    · rw [held,before]
      by_cases same : other = threadId
      · subst same
        simp [taken]
      · simp [same,Phase.body]
    · cases body
  · have free : keeps.held process.locks threadId = false := by simpa using taken
    rw [free,if_pos (by decide),if_neg (fun inside => taken ((sound.held_iff threadId).mpr inside))]
    refine follows_put (sound.put valid kept (fun _ _ waits => ?_) (fun other => ?_) (fun _ body => ?_))
    · cases waits
    · rw [held,before]
      by_cases same : other = threadId
      · simp [same,Phase.body]
      · simp [same,Phase.body,Ne.symm same]
    · cases body
      exact free

private theorem follows_leave (sound : Sound keeps process) (now : ℚ) {call : Nat} {threadId : Text}
    (at' : process.phase call = .holding threadId) :
    Follows keeps process (step table wait interval process ⟨now,call,.leave⟩)
      (idealStep wait interval process.erased ⟨now,call,.leave⟩) := by
  have erased : process.erased call = .holding threadId := by
    rw [Process.erased,at']
    rfl
  have inside : (process.phase call).body = some threadId := by rw [at']; rfl
  have taken := (sound.holders threadId).mpr ⟨call,inside⟩
  obtain ⟨next,released,valid,held,kept⟩ := keeps.release sound.valid taken
  unfold step idealStep
  dsimp only
  rw [at',erased]
  dsimp only
  rw [released]
  refine follows_put (sound.put valid kept (fun _ _ waits => ?_) (fun other => ?_) (fun _ body => ?_))
  · cases waits
  · rw [held,inside]
    by_cases same : other = threadId
    · simp [same,Phase.body]
    · simp [same,Phase.body,Ne.symm same]
  · cases body

private theorem step_follows (sound : Sound keeps process) (event : Event) :
    Follows keeps process (step table wait interval process event)
      (idealStep wait interval process.erased event) := by
  obtain ⟨now,call,action⟩ := event
  have erased : process.erased call = (process.phase call).erase := rfl
  have stays : Follows keeps process (.ignored,process) (.ignored,process.erased) :=
    ⟨rfl,sound,rfl⟩
  cases action with
  | enter threadId =>
    unfold step idealStep
    dsimp only
    rw [erased]
    cases at' : process.phase call with
    | idle =>
      obtain ⟨valid,held,named,kept⟩ := keeps.find sound.valid threadId
      refine follows_put (sound.put valid kept (fun _ _ waits => ?_) (fun other => ?_)
        (fun _ body => ?_))
      · cases waits
        exact named
      · rw [held,at']
        simp [Phase.body]
      · cases body
    | _ => exact stays
  | attempt =>
    cases at' : process.phase call with
    | trying threadId handle deadline => exact follows_attempt wait interval sound now at'
    | _ =>
      unfold step idealStep
      dsimp only
      rw [erased,at']
      exact stays
  | check =>
    unfold step idealStep
    dsimp only
    rw [erased]
    cases at' : process.phase call with
    | refused threadId handle deadline =>
      have before : (process.phase call).body = none := by rw [at']; rfl
      have named := sound.named call threadId handle (by rw [at']; rfl)
      dsimp only [Phase.erase]
      split_ifs
      · exact follows_put (sound.move before rfl (fun _ _ waits => nomatch waits))
      · refine follows_put (sound.move before rfl (fun _ _ waits => ?_))
        cases waits
        exact named
    | _ => exact stays
  | wake =>
    unfold step idealStep
    dsimp only
    rw [erased]
    cases at' : process.phase call with
    | sleeping threadId handle deadline wakeAt =>
      have before : (process.phase call).body = none := by rw [at']; rfl
      have named := sound.named call threadId handle (by rw [at']; rfl)
      dsimp only [Phase.erase]
      split_ifs
      · refine follows_put (sound.move before rfl (fun _ _ waits => ?_))
        cases waits
        exact named
      · exact stays
    | _ => exact stays
  | cancel =>
    unfold step idealStep
    dsimp only
    rw [erased]
    cases at' : process.phase call with
    | sleeping threadId handle deadline wakeAt =>
      have before : (process.phase call).body = none := by rw [at']; rfl
      exact follows_put (sound.move before rfl (fun _ _ waits => nomatch waits))
    | _ => exact stays
  | leave =>
    cases at' : process.phase call with
    | holding threadId => exact follows_leave wait interval sound now at'
    | _ =>
      unfold step idealStep
      dsimp only
      rw [erased,at']
      exact stays

theorem sound_start : Sound keeps (machine table wait interval).initial where
  valid := keeps.initial.1
  named _ _ _ waits := nomatch waits
  holders threadId := by
    rw [show keeps.held (machine table wait interval).initial.locks threadId = false from
      keeps.initial.2 threadId]
    constructor
    · intro held
      cases held
    · rintro ⟨_,inside⟩
      cases inside
  exclusive _ _ _ inside := nomatch inside

private theorem machine_is_ideal (keeps : Keeps table) (events : List Event) :
    (machine table wait interval).answers events = (ideal wait interval).answers events ∧
      Sound keeps ((machine table wait interval).after events) ∧
      ((machine table wait interval).after events).erased = (ideal wait interval).after events := by
  refine @Machine.lockstep _ _ _ _ (fun _ => True) (machine table wait interval)
    (ideal wait interval) (fun _ _ _ => trivial)
    (fun _ process phases => Sound keeps process ∧ process.erased = phases)
    ⟨sound_start wait interval,rfl⟩ (fun _ event process phases _ related => ?_) events trivial
  obtain ⟨sound,rfl⟩ := related
  have follows := step_follows wait interval sound event
  exact ⟨follows.answer,follows.sound,follows.erased⟩

end

/-- In every interleaving both classes answer as the ideal lock does: a call is granted
exactly when no body for its id is running, and there is never more than one. -/
theorem local_locks_are_ideal (wait interval : ℚ) (events : List Event) :
    (machine DictSessionLock.table wait interval).answers events =
        (ideal wait interval).answers events ∧
      (machine AsyncDictSessionLock.table wait interval).answers events =
        (ideal wait interval).answers events ∧
      ∀ first second threadId, (ideal wait interval).after events first = .holding threadId →
        (ideal wait interval).after events second = .holding threadId → first = second := by
  have dict := machine_is_ideal wait interval DictSessionLock.keeps events
  have set := machine_is_ideal wait interval AsyncDictSessionLock.keeps events
  refine ⟨dict.1,set.1,fun first second threadId one two => ?_⟩
  rw [← dict.2.2] at one two
  have inside {call : Nat} (at' : ((machine DictSessionLock.table wait interval).after
      events).erased call = .holding threadId) :
      (((machine DictSessionLock.table wait interval).after events).phase call).body =
        some threadId := by
    rw [← Phase.body_erase]
    exact congrArg Phase.body at'
  exact dict.2.1.exclusive first second threadId (inside one) (inside two)

end CustomerService.LocalLocks
