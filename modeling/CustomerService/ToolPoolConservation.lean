import CustomerService.ToolPool

/-! Permits and unfinished tasks along a run. Until the pool exists no call has passed
its creation; from then on each call's line says whether it owns a permit. -/
namespace CustomerService.ToolPool
open Transition

namespace Submission

structure Untouched (call : Submission) : Prop where
  acquired : call.acquired = false
  future : call.future = none
  taken : call.taken = 0
  given : call.given = 0

/-- The call has a permit of the semaphore and no future yet. -/
structure Owns (semaphore : Nat) (call : Submission) : Prop where
  acquired : call.acquired = true
  future : call.future = none
  taken : call.taken = 1
  given : call.given = 0
  semaphore : call.semaphore = some semaphore
  outside : call.onWorker = false

/-- The future of the call has `_release`, or has run it already. -/
structure Handed (semaphore : Nat) (call : Submission) (future : Future) : Prop where
  holds : call.future = some future
  taken : call.taken = 1
  given : call.given = future.released.toNat
  semaphore : call.semaphore = some semaphore
  outside : call.onWorker = false
  attached : future.callback = true ∧ future.released = future.invoked ∧
      (future.invoked = true → future.status.done = true) ∨
    future.callback = false ∧ future.released = true ∧ future.status.done = true

def Sound (semaphore : Nat) (call : Submission) : Prop :=
  match call.line with
  | .testPool => call.Untouched ∧ call.pool = none
  | .returnPool | .inline => call.Untouched
  | .createPool | .createSemaphore => False
  | .testReentry => call.Untouched ∧ (call.pool.isSome = true → call.semaphore = some semaphore)
  | .acquire => call.Untouched ∧ call.semaphore = some semaphore ∧ call.onWorker = false
  | .observe | .poolSubmit => call.Owns semaphore
  | .addCallback => call.acquired = true ∧ call.taken = 1 ∧ call.given = 0 ∧
      call.semaphore = some semaphore ∧ call.onWorker = false ∧
      ∃ future, call.future = some future ∧ future.callback = false ∧ future.released = false ∧
        (future.invoked = true → future.status.done = true) ∧ future.status ≠ .cancelled
  | .disown => ∃ future, call.Handed semaphore future ∧ future.status ≠ .cancelled
  | .result | .cancel => call.acquired = false ∧
      ∃ future, call.Handed semaphore future ∧ future.status ≠ .cancelled
  | .invokeCallbacks => call.acquired = false ∧
      ∃ future, call.Handed semaphore future ∧ future.status = .cancelled ∧ future.invoked = false
  | .finallyBlock => call.Untouched ∨ call.Owns semaphore ∨
      call.acquired = false ∧ ∃ future, call.Handed semaphore future
  | .returned => call.future = none ∧ call.given = call.taken ∧ call.taken ≤ 1 ∧
        (call.onWorker = true → call.taken = 0) ∨
      ∃ future, call.Handed semaphore future

variable {call : Submission} {semaphore : Nat} {future : Future}

theorem Untouched.unfinished (untouched : call.Untouched) (line : call.line ≠ .observe)
    (other : call.line ≠ .poolSubmit) : call.unfinished = false := by
  rw [Submission.unfinished,untouched.future]
  cases at' : call.line <;> simp_all [untouched.acquired]

theorem Handed.unfinished (handed : call.Handed semaphore future) :
    call.unfinished = !future.released := by
  rw [Submission.unfinished,handed.holds,handed.semaphore]
  rfl

theorem Sound.with_future (sound : call.Sound semaphore) (holds : call.future = some future) :
    call.line = .addCallback ∨ call.Handed semaphore future := by
  have moved {other : Future} (handed : call.Handed semaphore other) :
      call.Handed semaphore future := by
    obtain rfl : other = future := Option.some.inj (handed.holds.symm.trans holds)
    exact handed
  cases line : call.line <;> simp only [Sound,line] at sound
  case addCallback => exact Or.inl rfl
  case disown => exact Or.inr (moved sound.choose_spec.1)
  case result | cancel | invokeCallbacks => exact Or.inr (moved sound.2.choose_spec.1)
  case finallyBlock =>
    rcases sound with untouched | owns | ⟨_,_,handed⟩
    · exact absurd (untouched.future.symm.trans holds) (by simp)
    · exact absurd (owns.future.symm.trans holds) (by simp)
    · exact Or.inr (moved handed)
  case returned =>
    rcases sound with ⟨absent,_⟩ | ⟨_,handed⟩
    · exact absurd (absent.symm.trans holds) (by simp)
    · exact Or.inr (moved handed)
  case testPool | testReentry | acquire => exact absurd (sound.1.future.symm.trans holds) (by simp)
  case returnPool | inline | observe | poolSubmit =>
    exact absurd (sound.future.symm.trans holds) (by simp)

theorem Handed.once (handed : call.Handed semaphore future) :
    call.taken ≤ 1 ∧ call.given ≤ call.taken ∧ (call.settled = true → call.given = call.taken) := by
  rw [handed.taken,handed.given]
  refine ⟨le_rfl,Bool.toNat_le _,fun ended => ?_⟩
  simp only [settled,handed.holds,Option.all_some,Bool.and_eq_true] at ended
  rcases handed.attached with ⟨_,released,_⟩ | ⟨_,released,_⟩
  · rw [released,ended.2.2]
    rfl
  · rw [released]
    rfl

theorem Sound.once (sound : call.Sound semaphore) :
    call.taken ≤ 1 ∧ call.given ≤ call.taken ∧ (call.settled = true → call.given = call.taken) := by
  have untouched (free : call.Untouched) : call.taken ≤ 1 ∧ call.given ≤ call.taken ∧
      (call.settled = true → call.given = call.taken) := by simp [free.taken,free.given]
  have before (line : call.line ≠ .returned) (taken : call.taken = 1) (given : call.given = 0) :
      call.taken ≤ 1 ∧ call.given ≤ call.taken ∧
        (call.settled = true → call.given = call.taken) := by
    simp [taken,given,settled,line]
  cases line : call.line <;> simp only [Sound,line] at sound
  case testPool | testReentry | acquire => exact untouched sound.1
  case returnPool | inline => exact untouched sound
  case observe | poolSubmit => exact before (by simp [line]) sound.taken sound.given
  case addCallback => exact before (by simp [line]) sound.2.1 sound.2.2.1
  case disown => exact sound.choose_spec.1.once
  case result | cancel | invokeCallbacks => exact sound.2.choose_spec.1.once
  case finallyBlock =>
    rcases sound with free | owns | ⟨_,_,handed⟩
    · exact untouched free
    · exact before (by simp [line]) owns.taken owns.given
    · exact handed.once
  case returned =>
    rcases sound with ⟨_,given,taken,_⟩ | ⟨_,handed⟩
    · exact ⟨taken,given.le,fun _ => given⟩
    · exact handed.once

theorem Sound.reentry (sound : call.Sound semaphore) (worker : call.onWorker = true) :
    call.taken = 0 := by
  cases line : call.line <;> simp only [Sound,line] at sound
  case testPool | testReentry => exact sound.1.taken
  case acquire => exact sound.1.taken
  case returnPool | inline => exact sound.taken
  case observe | poolSubmit => exact absurd worker (by simp [sound.outside])
  case addCallback => exact absurd worker (by simp [sound.2.2.2.2.1])
  case disown => exact absurd worker (by simp [sound.choose_spec.1.outside])
  case result | cancel | invokeCallbacks =>
    exact absurd worker (by simp [sound.2.choose_spec.1.outside])
  case finallyBlock =>
    rcases sound with free | owns | ⟨_,_,handed⟩
    · exact free.taken
    · exact absurd worker (by simp [owns.outside])
    · exact absurd worker (by simp [handed.outside])
  case returned =>
    rcases sound with ⟨_,_,_,inside⟩ | ⟨_,handed⟩
    · exact inside worker
    · exact absurd worker (by simp [handed.outside])

theorem Sound.worked (sound : call.Sound semaphore) (handed : call.Handed semaphore future)
    (alive : future.status ≠ .cancelled) {next : Submission} (line : next.line = call.line)
    (acquired : next.acquired = call.acquired) {other : Future}
    (moved : next.Handed semaphore other) (still : other.status ≠ .cancelled) :
    next.Sound semaphore := by
  have same {found : Future} (one : call.future = some found) : found = future :=
    Option.some.inj (one.symm.trans handed.holds)
  have present (absent : call.future = none) : False := by
    rw [handed.holds] at absent
    cases absent
  unfold Sound
  rw [line]
  cases here : call.line <;> simp only [Sound,here] at sound ⊢
  case testPool | testReentry | acquire => exact (present sound.1.future).elim
  case returnPool | inline | observe | poolSubmit => exact (present sound.future).elim
  case addCallback =>
    obtain ⟨_,_,_,_,_,found,one,callback,released,_⟩ := sound
    rw [same one] at callback released
    rcases handed.attached with ⟨yes,_⟩ | ⟨_,yes,_⟩
    · simp [callback] at yes
    · simp [released] at yes
  case disown => exact ⟨other,moved,still⟩
  case result | cancel => exact ⟨acquired.trans sound.1,other,moved,still⟩
  case invokeCallbacks =>
    obtain ⟨_,found,one,cancelled,_⟩ := sound
    rw [same one.holds] at cancelled
    exact absurd cancelled alive
  case finallyBlock =>
    rcases sound with untouched | owns | ⟨disowned,_⟩
    · exact (present untouched.future).elim
    · exact (present owns.future).elim
    · exact Or.inr (Or.inr ⟨acquired.trans disowned,other,moved⟩)
  case returned => exact Or.inr ⟨other,moved⟩

end Submission

structure Steady (settings : Settings) (semaphore : Nat) (state : State) : Prop where
  pool : state.orderPool.isSome = true
  current : state.orderSemaphore = some semaphore
  sound : ∀ id call, state.calls.get? id = some call → call.Sound semaphore
  balance : state.value semaphore + state.unfinished =
    poolCapacity settings settings.orderToolWorkers

theorem State.giveBack_eq (state : State) (id : Nat) {call : Submission} {semaphore : Nat}
    (own : call.semaphore = some semaphore) :
    state.giveBack id call = {state with
      value := Function.update state.value semaphore (state.value semaphore + 1)
      calls := state.calls.set id {call with given := call.given + 1}} := by
  cases call
  cases own
  rfl

namespace Steady

variable {settings : Settings} {semaphore : Nat} {state : State}
  (steady : Steady settings semaphore state)
include steady

theorem set {id : Nat} {call next : Submission} (found : state.calls.get? id = some call)
    (sound : next.Sound semaphore) {value : Nat → Nat}
    (even : value semaphore + next.unfinished.toNat =
      state.value semaphore + call.unfinished.toNat) :
    Steady settings semaphore {state with value := value,calls := state.calls.set id next} where
  pool := steady.pool
  current := steady.current
  sound := by
    intro other moved listed
    simp only [Dict.get?_set] at listed
    split at listed
    · cases listed
      exact sound
    · exact steady.sound other moved listed
  balance := by
    have counted := Dict.tally_set_present Submission.unfinished state.calls found next
    have before := steady.balance
    simp only [State.unfinished] at before ⊢
    omega

theorem put {id : Nat} {call next : Submission} (found : state.calls.get? id = some call)
    (sound : next.Sound semaphore) (same : next.unfinished = call.unfinished) :
    Steady settings semaphore (state.put id next) :=
  steady.set found sound (by rw [same])

theorem giveBack {id : Nat} {call next : Submission} (found : state.calls.get? id = some call)
    (own : next.semaphore = some semaphore) (ends : call.unfinished = true)
    (ended : Submission.unfinished {next with given := next.given + 1} = false)
    (sound : Submission.Sound semaphore {next with given := next.given + 1}) :
    Steady settings semaphore (state.giveBack id next) := by
  rw [State.giveBack_eq state id own]
  refine steady.set found sound ?_
  rw [Function.update_self,ends,ended]
  rfl

/-- The callbacks of a done future run: `_release` among them gives the permit back. -/
theorem invoke {id : Nat} {call next : Submission} {future : Future}
    (found : state.calls.get? id = some call) (handed : call.Handed semaphore future)
    (moved : next.Handed semaphore future) (fresh : future.invoked = false)
    (done : future.status.done = true)
    (sound : ∀ after : Submission, after.line = next.line → after.acquired = next.acquired →
      ∀ ended : Future, ended.status = future.status → ended.invoked = true →
        after.Handed semaphore ended → after.Sound semaphore) :
    Steady settings semaphore (state.invoke id next future) := by
  have owned := handed.unfinished
  unfold State.invoke
  rcases handed.attached with ⟨callback,released,_⟩ | ⟨callback,released,_⟩
  · rw [if_pos callback]
    have unreleased : future.released = false := released.trans fresh
    have given : next.given = 0 := by rw [moved.given,unreleased]; rfl
    refine steady.giveBack found moved.semaphore (by rw [owned,unreleased]; rfl) ?_ ?_
    · simp [Submission.unfinished,moved.semaphore]
    · refine sound _ rfl rfl {future with invoked := true,released := true} rfl rfl ?_
      exact ⟨rfl,moved.taken,by simp [given],moved.semaphore,moved.outside,
        Or.inl ⟨callback,rfl,fun _ => done⟩⟩
  · rw [if_neg (by simp [callback])]
    have after : Submission.Handed semaphore
        {next with future := some {future with invoked := true}} {future with invoked := true} :=
      ⟨rfl,moved.taken,moved.given,moved.semaphore,moved.outside,Or.inr ⟨callback,released,done⟩⟩
    refine steady.put found (sound _ rfl rfl {future with invoked := true} rfl rfl after) ?_
    rw [after.unfinished,owned]

theorem pass {id : Nat} {call : Submission} (found : state.calls.get? id = some call)
    (untouched : call.Untouched) (from' : call.line ≠ .observe ∧ call.line ≠ .poolSubmit)
    {next : Submission} (still : next.Untouched)
    (to' : next.line ≠ .observe ∧ next.line ≠ .poolSubmit) (sound : next.Sound semaphore) :
    Steady settings semaphore (state.put id next) :=
  steady.put found sound ((still.unfinished to'.1 to'.2).trans
    (untouched.unfinished from'.1 from'.2).symm)

theorem carry {id : Nat} {call next : Submission} {future : Future}
    (found : state.calls.get? id = some call) (handed : call.Handed semaphore future)
    {other : Future} (moved : next.Handed semaphore other) (same : other.released = future.released)
    (sound : next.Sound semaphore) : Steady settings semaphore (state.put id next) :=
  steady.put found sound (by rw [moved.unfinished,handed.unfinished,same])

omit steady in
theorem untouched_of {call next : Submission} (untouched : call.Untouched)
    (acquired : next.acquired = call.acquired) (future : next.future = call.future)
    (taken : next.taken = call.taken) (given : next.given = call.given) : next.Untouched :=
  ⟨acquired.trans untouched.acquired,future.trans untouched.future,taken.trans untouched.taken,
    given.trans untouched.given⟩

section Lines

variable {id : Nat} {call : Submission} (found : state.calls.get? id = some call)
include found

theorem testPool (line : call.line = .testPool) (raises : Bool) :
    Steady settings semaphore (state.advance settings id call raises) := by
  have sound := steady.sound id call found
  simp only [Submission.Sound,line] at sound
  have next (line : Line) : Submission.Untouched {call with line := line} :=
    untouched_of sound.1 rfl rfl rfl rfl
  simp only [State.advance,line]
  split
  · refine steady.pass found sound.1 (by simp [line]) (next _) (by simp) ⟨next _,fun pool => ?_⟩
    exact absurd pool (by simp [sound.2])
  split
  · rename_i missing
    exact absurd steady.pool (by simpa using missing)
  · exact steady.pass found sound.1 (by simp [line]) (next _) (by simp) (next _)

theorem returnPool (line : call.line = .returnPool) (raises : Bool) :
    Steady settings semaphore (state.advance settings id call raises) := by
  have sound := steady.sound id call found
  simp only [Submission.Sound,line] at sound
  have next : Submission.Untouched {call with
      line := .testReentry,pool := state.orderPool,semaphore := state.orderSemaphore} :=
    untouched_of sound rfl rfl rfl rfl
  simp only [State.advance,line]
  exact steady.pass found sound (by simp [line]) next (by simp) ⟨next,fun _ => steady.current⟩

theorem testReentry (line : call.line = .testReentry) (raises : Bool) :
    Steady settings semaphore (state.advance settings id call raises) := by
  have sound := steady.sound id call found
  simp only [Submission.Sound,line] at sound
  have next (line : Line) : Submission.Untouched {call with line := line} :=
    untouched_of sound.1 rfl rfl rfl rfl
  simp only [State.advance,line]
  split
  · exact steady.pass found sound.1 (by simp [line]) (next _) (by simp) (next _)
  rename_i enters
  simp only [Bool.or_eq_true,not_or,Option.isNone_iff_eq_none,Bool.not_eq_true] at enters
  have own : call.semaphore = some semaphore := sound.2 (Option.isSome_iff_ne_none.mpr enters.1)
  split
  · rename_i missing
    exact absurd missing (by simp [own])
  · exact steady.pass found sound.1 (by simp [line]) (next _) (by simp) ⟨next _,own,enters.2⟩

theorem inline (line : call.line = .inline) (raises : Bool) :
    Steady settings semaphore (state.advance settings id call raises) := by
  have sound := steady.sound id call found
  simp only [Submission.Sound,line] at sound
  have next : Submission.Untouched {call with line := .returned} :=
    untouched_of sound rfl rfl rfl rfl
  simp only [State.advance,line]
  refine steady.pass found sound (by simp [line]) next (by simp) (Or.inl ?_)
  exact ⟨next.future,next.given.trans next.taken.symm,next.taken.le.trans zero_le_one,
    fun _ => next.taken⟩

theorem acquire (line : call.line = .acquire) (raises : Bool) :
    Steady settings semaphore (state.advance settings id call raises) := by
  have sound := steady.sound id call found
  simp only [Submission.Sound,line] at sound
  obtain ⟨untouched,own,outside⟩ := sound
  simp only [State.advance,line]
  split
  · rename_i held listed
    obtain rfl : semaphore = held := Option.some.inj (own.symm.trans listed)
    split
    · rename_i free
      have before : call.unfinished = false :=
        untouched.unfinished (by simp [line]) (by simp [line])
      refine steady.set found ?_ ?_
      · exact ⟨rfl,untouched.future,by simp [untouched.taken],untouched.given,own,outside⟩
      · have after : Submission.unfinished {call with
            line := .observe,acquired := true,taken := call.taken + 1} = true := by
          simp [Submission.unfinished,untouched.future]
        simp only [before,after,Function.update_self]
        exact Nat.sub_add_cancel free
    · have next : Submission.Untouched {call with line := .finallyBlock} :=
        untouched_of untouched rfl rfl rfl rfl
      exact steady.pass found untouched (by simp [line]) next (by simp) (Or.inl next)
  · exact steady

theorem observe (line : call.line = .observe) (raises : Bool) :
    Steady settings semaphore (state.advance settings id call raises) := by
  have sound := steady.sound id call found
  simp only [Submission.Sound,line] at sound
  have next (line : Line) : Submission.Owns semaphore {call with line := line} :=
    ⟨sound.acquired,sound.future,sound.taken,sound.given,sound.semaphore,sound.outside⟩
  simp only [State.advance,line]
  cases raises with
  | true =>
    refine steady.put found (Or.inr (Or.inl (next _))) ?_
    simp [Submission.unfinished,line,sound.future,sound.acquired]
  | false =>
    refine steady.put found (next _) ?_
    simp [Submission.unfinished,line,sound.future]

theorem poolSubmit (line : call.line = .poolSubmit) (raises : Bool) :
    Steady settings semaphore (state.advance settings id call raises) := by
  have sound := steady.sound id call found
  simp only [Submission.Sound,line] at sound
  simp only [State.advance,line]
  split
  · refine steady.put found (Or.inr (Or.inl ?_)) ?_
    · exact ⟨sound.acquired,sound.future,sound.taken,sound.given,sound.semaphore,sound.outside⟩
    · simp [Submission.unfinished,line,sound.future,sound.acquired]
  · have own : call.semaphore.isSome = true := by rw [sound.semaphore]; rfl
    simp only [own,if_true]
    refine steady.put found ?_ ?_
    · exact ⟨sound.acquired,sound.taken,sound.given,sound.semaphore,sound.outside,_,rfl,rfl,rfl,
        by simp,by simp⟩
    · simp [Submission.unfinished,line,sound.future,own]

theorem addCallback (line : call.line = .addCallback) (raises : Bool) :
    Steady settings semaphore (state.advance settings id call raises) := by
  have sound := steady.sound id call found
  simp only [Submission.Sound,line] at sound
  obtain ⟨acquired,taken,given,own,outside,future,holds,callback,released,invoked,kept⟩ := sound
  have owned : call.unfinished = true := by simp [Submission.unfinished,holds,own,released]
  simp only [State.advance,line,holds,State.addDoneCallback]
  split
  · rename_i done
    refine steady.giveBack found own owned (by simp [Submission.unfinished,own]) ?_
    exact ⟨_,⟨rfl,taken,by simp [given],own,outside,Or.inr ⟨callback,rfl,done⟩⟩,kept⟩
  · rename_i undone
    have idle : future.invoked = false := Bool.eq_false_iff.mpr (fun ran => undone (invoked ran))
    have next : Submission.Handed semaphore
        {call with line := .disown,future := some {future with callback := true}}
        {future with callback := true} :=
      ⟨rfl,taken,by simp [given,released],own,outside,
        Or.inl ⟨rfl,released.trans idle.symm,invoked⟩⟩
    refine steady.put found ⟨_,next,kept⟩ ?_
    rw [next.unfinished,owned,released]
    rfl

theorem disown (line : call.line = .disown) (raises : Bool) :
    Steady settings semaphore (state.advance settings id call raises) := by
  have sound := steady.sound id call found
  simp only [Submission.Sound,line] at sound
  obtain ⟨future,handed,kept⟩ := sound
  have next : Submission.Handed semaphore {call with line := .result,acquired := false} future :=
    ⟨handed.holds,handed.taken,handed.given,handed.semaphore,handed.outside,handed.attached⟩
  simp only [State.advance,line]
  exact steady.carry found handed next rfl ⟨rfl,future,next,kept⟩

omit steady found in
theorem handed_of {call next : Submission} {future : Future} (handed : call.Handed semaphore future)
    (same : next.future = call.future) (taken : next.taken = call.taken)
    (given : next.given = call.given) (own : next.semaphore = call.semaphore)
    (thread : next.onWorker = call.onWorker) : next.Handed semaphore future :=
  ⟨same.trans handed.holds,taken.trans handed.taken,given.trans handed.given,
    own.trans handed.semaphore,thread.trans handed.outside,handed.attached⟩

theorem result (line : call.line = .result) (raises : Bool) :
    Steady settings semaphore (state.advance settings id call raises) := by
  have sound := steady.sound id call found
  simp only [Submission.Sound,line] at sound
  obtain ⟨acquired,future,handed,_⟩ := sound
  have next : Submission.Handed semaphore
      {call with line := .finallyBlock,future := some future} future :=
    handed_of handed handed.holds.symm rfl rfl rfl rfl
  simp only [State.advance,line,handed.holds]
  split
  · exact steady.carry found handed next rfl (Or.inr (Or.inr ⟨acquired,future,next⟩))
  · exact steady

theorem cancel (line : call.line = .cancel) (raises : Bool) :
    Steady settings semaphore (state.advance settings id call raises) := by
  have sound := steady.sound id call found
  simp only [Submission.Sound,line] at sound
  obtain ⟨acquired,future,handed,_⟩ := sound
  simp only [State.advance,line,handed.holds]
  split
  · rename_i pending
    have undone : future.status.done = false := by rw [pending]; rfl
    obtain ⟨callback,released,invoked⟩ :=
      handed.attached.resolve_right (fun right => by simp [undone] at right)
    have idle : future.invoked = false :=
      Bool.eq_false_iff.mpr (fun ran => absurd (invoked ran) (by simp [undone]))
    have next : Submission.Handed semaphore {call with
          line := .invokeCallbacks,future := some {future with status := .cancelled}}
        {future with status := .cancelled} :=
      ⟨rfl,handed.taken,handed.given,handed.semaphore,handed.outside,
        Or.inl ⟨callback,released,fun _ => rfl⟩⟩
    exact steady.carry found handed next rfl ⟨acquired,_,next,rfl,idle⟩
  · have next : Submission.Handed semaphore
        {call with line := .finallyBlock,future := some future} future :=
      handed_of handed handed.holds.symm rfl rfl rfl rfl
    exact steady.carry found handed next rfl (Or.inr (Or.inr ⟨acquired,future,next⟩))

theorem invokeCallbacks (line : call.line = .invokeCallbacks) (raises : Bool) :
    Steady settings semaphore (state.advance settings id call raises) := by
  have sound := steady.sound id call found
  simp only [Submission.Sound,line] at sound
  obtain ⟨acquired,future,handed,cancelled,idle⟩ := sound
  have next : Submission.Handed semaphore
      {call with line := .finallyBlock,future := some future} future :=
    handed_of handed handed.holds.symm rfl rfl rfl rfl
  simp only [State.advance,line,handed.holds]
  refine steady.invoke found handed next idle (by rw [cancelled]; rfl) ?_
  intro after line' disowned ended _ _ moved
  have last : after.line = .finallyBlock := line'
  simp only [Submission.Sound,last]
  exact Or.inr (Or.inr ⟨disowned.trans acquired,ended,moved⟩)

theorem finallyBlock (line : call.line = .finallyBlock) (raises : Bool) :
    Steady settings semaphore (state.advance settings id call raises) := by
  have sound := steady.sound id call found
  simp only [Submission.Sound,line] at sound
  simp only [State.advance,line]
  rcases sound with untouched | owns | ⟨acquired,future,handed⟩
  · have next : Submission.Untouched {call with line := .returned} :=
      untouched_of untouched rfl rfl rfl rfl
    rw [if_neg (by simp [untouched.acquired])]
    refine steady.pass found untouched (by simp [line]) next (by simp) (Or.inl ?_)
    exact ⟨next.future,next.given.trans next.taken.symm,next.taken.le.trans zero_le_one,
      fun _ => next.taken⟩
  · rw [if_pos (by simp [owns.acquired,owns.semaphore])]
    refine steady.giveBack found owns.semaphore ?_ ?_ (Or.inl ?_)
    · simp [Submission.unfinished,owns.future,line,owns.acquired]
    · simp [Submission.unfinished,owns.future]
    · exact ⟨owns.future,by simp [owns.given,owns.taken],owns.taken.le,
        fun worker => by simp [owns.outside] at worker⟩
  · have next : Submission.Handed semaphore {call with line := .returned} future :=
      handed_of handed rfl rfl rfl rfl rfl
    rw [if_neg (by simp [acquired])]
    exact steady.carry found handed next rfl (Or.inr ⟨future,next⟩)

theorem advance (raises : Bool) :
    Steady settings semaphore (state.advance settings id call raises) := by
  cases line : call.line with
  | testPool => exact steady.testPool found line raises
  | createPool =>
    have sound := steady.sound id call found
    simp only [Submission.Sound,line] at sound
  | createSemaphore =>
    have sound := steady.sound id call found
    simp only [Submission.Sound,line] at sound
  | returnPool => exact steady.returnPool found line raises
  | testReentry => exact steady.testReentry found line raises
  | inline => exact steady.inline found line raises
  | acquire => exact steady.acquire found line raises
  | observe => exact steady.observe found line raises
  | poolSubmit => exact steady.poolSubmit found line raises
  | addCallback => exact steady.addCallback found line raises
  | disown => exact steady.disown found line raises
  | result => exact steady.result found line raises
  | cancel => exact steady.cancel found line raises
  | invokeCallbacks => exact steady.invokeCallbacks found line raises
  | finallyBlock => exact steady.finallyBlock found line raises
  | returned => simpa only [State.advance,line] using steady

private theorem proceed {future : Future} (holds : call.future = some future) {status : Status}
    (undone : future.status.done = false) (alive : status ≠ .cancelled) :
    Steady settings semaphore
      (state.put id {call with future := some {future with status := status}}) := by
  have sound := steady.sound id call found
  have before : future.status ≠ .cancelled := fun cancelled => by simp [cancelled,Status.done] at undone
  rcases sound.with_future holds with line | handed
  · simp only [Submission.Sound,line] at sound
    obtain ⟨acquired,taken,given,own,outside,other,one,callback,released,invoked,_⟩ := sound
    obtain rfl : other = future := Option.some.inj (one.symm.trans holds)
    refine steady.put found ?_ ?_
    · simp only [Submission.Sound,line]
      exact ⟨acquired,taken,given,own,outside,_,rfl,callback,released,
        fun ran => absurd (invoked ran) (by simp [undone]),alive⟩
    · simp [Submission.unfinished,own,holds]
  · obtain ⟨callback,released,invoked⟩ :=
      handed.attached.resolve_right (fun right => by simp [undone] at right)
    have next : Submission.Handed semaphore
        {call with future := some {future with status := status}} {future with status := status} :=
      ⟨rfl,handed.taken,handed.given,handed.semaphore,handed.outside,
        Or.inl ⟨callback,released,fun ran => absurd (invoked ran) (by simp [undone])⟩⟩
    exact steady.carry found handed next rfl (sound.worked handed before rfl rfl next alive)

theorem callbacks {future : Future} (holds : call.future = some future)
    (finished : future.status = .finished) (idle : future.invoked = false) :
    Steady settings semaphore (state.invoke id call future) := by
  have sound := steady.sound id call found
  have done : future.status.done = true := by rw [finished]; rfl
  rcases sound.with_future holds with line | handed
  · simp only [Submission.Sound,line] at sound
    obtain ⟨acquired,taken,given,own,outside,other,one,callback,released,_,kept⟩ := sound
    obtain rfl : other = future := Option.some.inj (one.symm.trans holds)
    rw [State.invoke,if_neg (by simp [callback])]
    refine steady.put found ?_ ?_
    · simp only [Submission.Sound,line]
      exact ⟨acquired,taken,given,own,outside,_,rfl,callback,released,fun _ => done,kept⟩
    · simp [Submission.unfinished,own,holds]
  · refine steady.invoke found handed handed idle done ?_
    intro after line acquired ended status _ moved
    exact sound.worked handed (by simp [finished]) line acquired moved (by simp [status,finished])

theorem work {future : Future} (holds : call.future = some future) (deed : Deed) :
    Steady settings semaphore (state.work id call future deed) := by
  cases deed with
  | start =>
    rw [State.work]
    split
    · rename_i pending
      exact steady.proceed found holds (by simp [pending,Status.done]) (by simp)
    · exact steady
  | finish =>
    rw [State.work]
    split
    · rename_i running
      exact steady.proceed found holds (by simp [running,Status.done]) (by simp)
    · exact steady
  | invokeCallbacks =>
    rw [State.work]
    split
    · rename_i ready
      exact steady.callbacks found holds ready.1 ready.2
    · exact steady

theorem timeout (line : call.line = .result) :
    Steady settings semaphore (state.put id {call with line := .cancel}) := by
  have sound := steady.sound id call found
  simp only [Submission.Sound,line] at sound
  obtain ⟨acquired,future,handed,kept⟩ := sound
  have next : Submission.Handed semaphore {call with line := .cancel} future :=
    handed_of handed rfl rfl rfl rfl rfl
  exact steady.carry found handed next rfl ⟨acquired,future,next,kept⟩

end Lines

theorem enter {id : Nat} (absent : state.calls.get? id = none) (onWorker : Bool) :
    Steady settings semaphore
      (state.put id ⟨onWorker,.testPool,none,none,false,none,0,0⟩) where
  pool := steady.pool
  current := steady.current
  sound := by
    intro other call listed
    simp only [State.put,Dict.get?_set] at listed
    split at listed
    · cases listed
      exact ⟨⟨rfl,rfl,rfl,rfl⟩,rfl⟩
    · exact steady.sound other call listed
  balance := by
    have counted := Dict.tally_set_absent Submission.unfinished state.calls absent
      ⟨onWorker,.testPool,none,none,false,none,0,0⟩
    have before := steady.balance
    simp only [State.unfinished,State.put] at before ⊢
    rw [counted]
    exact before

theorem step (action : Action) : Steady settings semaphore (state.step settings action) := by
  cases action with
  | call id caller =>
    rw [State.step]
    split
    · exact steady
    · rename_i fresh
      exact steady.enter (Option.not_isSome_iff_eq_none.mp fresh) _
  | advance id raises =>
    simp only [State.step]
    split
    · rename_i call found
      exact steady.advance found raises
    · exact steady
  | timeout id =>
    simp only [State.step]
    split
    · rename_i call found
      split
      · rename_i waits
        exact steady.timeout found waits.1
      · exact steady
    · exact steady
  | work id deed =>
    simp only [State.step]
    split
    · rename_i call found
      split
      · rename_i future holds
        exact steady.work found holds deed
      · exact steady
    · exact steady

theorem conserved : Conserved settings state where
  once := fun id call found => (steady.sound id call found).once
  balance := by
    intro current listed
    obtain rfl : semaphore = current := Option.some.inj (steady.current.symm.trans listed)
    exact steady.balance
  unused := fun missing => by simp [steady.current] at missing
  reentry := fun id call found worker => (steady.sound id call found).reentry worker

end Steady
/-! Before the semaphore exists. -/

def Line.early : Line → Bool
  | .testPool | .createPool | .createSemaphore | .testReentry | .inline | .returned => true
  | _ => false

/-- The call has not got past the creation, or it runs without a pool. -/
structure Submission.Early (call : Submission) : Prop where
  untouched : call.Untouched
  pool : call.pool = none
  line : call.line.early = true

theorem Submission.Early.sound {call : Submission} (early : call.Early) (semaphore : Nat)
    (past : call.line.creating = false) : call.Sound semaphore := by
  have untouched := early.untouched
  have among := early.line
  cases line : call.line <;> simp only [line,Line.early,Line.creating,reduceCtorEq] at among past
  case testPool =>
    simp only [Sound,line]
    exact ⟨untouched,early.pool⟩
  case testReentry =>
    simp only [Sound,line]
    exact ⟨untouched,fun pool => absurd pool (by simp [early.pool])⟩
  case inline =>
    simp only [Sound,line]
    exact untouched
  case returned =>
    simp only [Sound,line]
    exact Or.inl ⟨untouched.future,untouched.given.trans untouched.taken.symm,
      untouched.taken.le.trans zero_le_one,fun _ => untouched.taken⟩

theorem State.creating_iff (state : State) : state.creating = true ↔
    ∃ id call, state.calls.get? id = some call ∧ call.line.creating = true := by
  simp only [State.creating,Dict.values,List.any_map,List.any_eq_true,Function.comp_apply]
  constructor
  · rintro ⟨entry,listed,creating⟩
    exact ⟨entry.1,entry.2,(Dict.get?_eq_some _ _ _).mpr listed,creating⟩
  · rintro ⟨id,call,found,creating⟩
    exact ⟨(id,call),(Dict.get?_eq_some _ _ _).mp found,creating⟩

structure Opening (state : State) : Prop where
  missing : state.orderSemaphore = none
  early : ∀ id call, state.calls.get? id = some call → call.Early
  single : ∀ id other call found, state.calls.get? id = some call →
    state.calls.get? other = some found → call.line.creating = true →
      found.line.creating = true → id = other
  begun : state.orderPool.isSome = true ↔
    ∃ id call, state.calls.get? id = some call ∧ call.line = .createSemaphore

namespace Opening

variable {settings : Settings} {state : State} (opening : Opening state)
include opening

theorem set {id : Nat} {next : Submission} (early : next.Early) {pool : Option ThreadPoolExecutor}
    (only : next.line.creating = true →
      ∀ other found, other ≠ id → state.calls.get? other = some found → found.line.creating = false)
    (begun : pool.isSome = true ↔ next.line = .createSemaphore ∨ ∃ other found, other ≠ id ∧
      state.calls.get? other = some found ∧ found.line = .createSemaphore) :
    Opening {state with orderPool := pool,calls := state.calls.set id next} where
  missing := opening.missing
  early := by
    intro other found listed
    simp only [Dict.get?_set] at listed
    split at listed
    · cases listed
      exact early
    · exact opening.early other found listed
  single := by
    intro first second call found one two creating also
    simp only [Dict.get?_set] at one two
    split at one
    · rename_i here
      cases one
      split at two
      · rename_i there
        exact here.trans there.symm
      · rename_i apart
        exact absurd also (by simp [only creating second found apart two])
    · rename_i apart
      split at two
      · cases two
        exact absurd creating (by simp [only also first call apart one])
      · exact opening.single first second call found one two creating also
  begun := by
    rw [begun]
    simp only [Dict.get?_set]
    constructor
    · rintro (here | ⟨other,found,apart,listed,line⟩)
      · exact ⟨id,next,if_pos rfl,here⟩
      · exact ⟨other,found,(if_neg apart).trans listed,line⟩
    · rintro ⟨other,found,listed,line⟩
      split at listed
      · cases listed
        exact Or.inl line
      · rename_i apart
        exact Or.inr ⟨other,found,apart,listed,line⟩

theorem put {id : Nat} {next : Submission} (early : next.Early)
    (apart : next.line.creating = false)
    (before : ∀ call, state.calls.get? id = some call → call.line.creating = false) :
    Opening (state.put id next) := by
  refine opening.set early (fun creating => by simp [apart] at creating) ?_
  rw [opening.begun]
  constructor
  · rintro ⟨other,found,listed,line⟩
    refine Or.inr ⟨other,found,?_,listed,line⟩
    rintro rfl
    have idle := before found listed
    rw [line] at idle
    cases idle
  · rintro (here | ⟨other,found,_,listed,line⟩)
    · rw [here] at apart
      cases apart
    · exact ⟨other,found,listed,line⟩

private theorem pool_missing (quiet : state.creating = false) : state.orderPool = none := by
  rw [← Option.not_isSome_iff_eq_none]
  intro exists'
  obtain ⟨id,call,found,line⟩ := opening.begun.mp exists'
  have creating := state.creating_iff.mpr ⟨id,call,found,by rw [line]; rfl⟩
  rw [quiet] at creating
  cases creating

theorem unfinished : state.unfinished = 0 := by
  refine Dict.tally_eq_zero (fun id call found => ?_)
  have early := opening.early id call found
  have among := early.line
  refine early.untouched.unfinished ?_ ?_
  · intro line
    rw [line] at among
    cases among
  · intro line
    rw [line] at among
    cases among

theorem steady {id : Nat} {call : Submission} (found : state.calls.get? id = some call)
    (line : call.line = .createSemaphore) (raises : Bool) :
    Steady settings state.semaphores (state.advance settings id call raises) := by
  have untouched := (opening.early id call found).untouched
  simp only [State.advance,line,State.put]
  refine ⟨opening.begun.mpr ⟨id,call,found,line⟩,rfl,?_,?_⟩
  · intro other next listed
    simp only [Dict.get?_set] at listed
    split at listed
    · cases listed
      exact Steady.untouched_of untouched rfl rfl rfl rfl
    · rename_i apart
      refine (opening.early other next listed).sound _ (Bool.eq_false_iff.mpr (fun creating => ?_))
      exact apart (opening.single other id next call listed found creating (by rw [line]; rfl))
  · have counted := Dict.tally_set_present Submission.unfinished state.calls found
      {call with line := .returnPool}
    have none' := opening.unfinished
    have next : Submission.Untouched {call with line := .returnPool} :=
      Steady.untouched_of untouched rfl rfl rfl rfl
    rw [next.unfinished (by simp) (by simp),untouched.unfinished (by simp [line]) (by simp [line])]
      at counted
    simp only [State.unfinished,Function.update_self] at none' ⊢
    omega

theorem advance {id : Nat} {call : Submission} (found : state.calls.get? id = some call)
    (alone : call.line = .testPool → state.creating = false) (raises : Bool) :
    Opening (state.advance settings id call raises) ∨
      ∃ semaphore, Steady settings semaphore (state.advance settings id call raises) := by
  have early := opening.early id call found
  have among := early.line
  have next {line : Line} (listed : line.early = true) : Submission.Early {call with line := line} :=
    ⟨Steady.untouched_of early.untouched rfl rfl rfl rfl,early.pool,listed⟩
  have here (past : call.line.creating = false) (same : Submission)
      (one : state.calls.get? id = some same) : same.line.creating = false := by
    obtain rfl : call = same := Option.some.inj (found.symm.trans one)
    exact past
  cases line : call.line <;> simp only [line,Line.early,reduceCtorEq] at among
  case testPool =>
    have quiet := alone line
    refine Or.inl ?_
    simp only [State.advance,line,opening.pool_missing quiet,Option.isNone_none,if_true]
    split
    · exact opening.put (next rfl) rfl (here (by rw [line]; rfl))
    · refine opening.set (next rfl) (fun _ other moved _ listed => ?_) ?_
      · refine Bool.eq_false_iff.mpr (fun creating => ?_)
        have busy := state.creating_iff.mpr ⟨other,moved,listed,creating⟩
        rw [quiet] at busy
        cases busy
      · rw [opening.begun]
        constructor
        · rintro ⟨other,moved,listed,created⟩
          have busy := state.creating_iff.mpr ⟨other,moved,listed,by rw [created]; rfl⟩
          rw [quiet] at busy
          cases busy
        · rintro (created | ⟨other,moved,_,listed,created⟩)
          · cases created
          · exact ⟨other,moved,listed,created⟩
  case createPool =>
    refine Or.inl ?_
    simp only [State.advance,line,State.put]
    refine opening.set (next rfl) (fun _ other moved apart listed => ?_) ?_
    · refine Bool.eq_false_iff.mpr (fun creating => apart ?_)
      exact opening.single other id moved call listed found creating (by rw [line]; rfl)
    · simp
  case createSemaphore => exact Or.inr ⟨_,opening.steady found line raises⟩
  case testReentry =>
    simp only [State.advance,line]
    rw [if_pos (by simp [early.pool])]
    exact Or.inl (opening.put (next rfl) rfl (here (by rw [line]; rfl)))
  case inline =>
    simp only [State.advance,line]
    exact Or.inl (opening.put (next rfl) rfl (here (by rw [line]; rfl)))
  case returned => exact Or.inl (by simpa only [State.advance,line] using opening)

theorem step {action : Action} (alone : Alone state action) :
    Opening (state.step settings action) ∨
      ∃ semaphore, Steady settings semaphore (state.step settings action) := by
  cases action with
  | call id caller =>
    rw [State.step]
    split
    · exact Or.inl opening
    · rename_i fresh
      have absent := Option.not_isSome_iff_eq_none.mp fresh
      refine Or.inl (opening.put ⟨⟨rfl,rfl,rfl,rfl⟩,rfl,rfl⟩ rfl (fun call found => ?_))
      rw [absent] at found
      cases found
  | advance id raises =>
    simp only [State.step]
    split
    · rename_i call found
      refine opening.advance found (fun line => alone ?_) raises
      simp [found,line]
    · exact Or.inl opening
  | timeout id =>
    simp only [State.step]
    split
    · rename_i call found
      have among := (opening.early id call found).line
      split
      · rename_i waits
        rw [waits.1] at among
        cases among
      · exact Or.inl opening
    · exact Or.inl opening
  | work id deed =>
    simp only [State.step]
    split
    · rename_i call found
      simp only [(opening.early id call found).untouched.future]
      exact Or.inl opening
    · exact Or.inl opening

theorem conserved : Conserved settings state where
  once := by
    intro id call found
    have untouched := (opening.early id call found).untouched
    simp [untouched.taken,untouched.given]
  balance := fun semaphore listed => by simp [opening.missing] at listed
  unused := fun _ => opening.unfinished
  reentry := fun id call found _ => (opening.early id call found).untouched.taken

end Opening

private theorem opening_initial : Opening initial where
  missing := rfl
  early := by
    intro id call found
    cases found
  single := by
    intro id other call found listed
    cases listed
  begun := by
    constructor
    · intro exists'
      cases exists'
    · rintro ⟨id,call,found,_⟩
      cases found

/-- In a run in which no call tests the pool while another one creates it, every
permit goes back once and the balance holds in every state. -/
theorem permits_conserved (settings : Settings) (actions : List Action)
    (alone : Along (State.step settings) Alone initial actions) :
    Throughout (State.step settings) (Conserved settings) initial actions := by
  have keeps (state : State) (action : Action)
      (holds : Opening state ∨ ∃ semaphore, Steady settings semaphore state)
      (allowed : Alone state action) : Opening (state.step settings action) ∨
        ∃ semaphore, Steady settings semaphore (state.step settings action) := by
    rcases holds with opening | ⟨semaphore,steady⟩
    · exact opening.step allowed
    · exact Or.inr ⟨semaphore,steady.step action⟩
  refine (Throughout.of_along keeps (Or.inl opening_initial) alone).imp (fun state holds => ?_)
  rcases holds with opening | ⟨semaphore,steady⟩
  · exact opening.conserved
  · exact steady.conserved

def lines (id count : Nat) : List Action := List.replicate count (.advance id false)

/-- A task that times out while it runs, and one that is cancelled before it starts. -/
def twoTimeouts : List Action := List.flatten [[.call 0 none],lines 0 10,[.work 0 .start,.timeout 0],
  lines 0 2,[.call 1 (some 0)],lines 1 4,[.call 2 none],lines 2 8,[.timeout 2],lines 2 3,
  [.work 0 .finish,.work 0 .invokeCallbacks]]

theorem permits_conserved_two_timeouts :
    Throughout (State.step ⟨4,some 2,10⟩) (Conserved ⟨4,some 2,10⟩) initial twoTimeouts :=
  permits_conserved ⟨4,some 2,10⟩ twoTimeouts (by decide +kernel)

/-- The second caller finds the pool of the first one, whose semaphore is yet to be made. -/
def firstUse : List Action :=
  List.flatten [[.call 0 none],lines 0 2,[.call 1 none],lines 1 5,lines 0 1]

theorem first_use_without_permit : ¬∀ settings actions,
    Throughout (State.step settings) (Conserved settings) initial actions := by
  intro always
  have balance := (always ⟨4,some 2,10⟩ firstUse).last.balance 0 (by decide +kernel)
  revert balance
  decide +kernel

end CustomerService.ToolPool
