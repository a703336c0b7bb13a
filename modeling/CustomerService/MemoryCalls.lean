import CustomerService.LongTermMemory
import CustomerService.Transition
import Mathlib.Data.List.Nodup
import Mathlib.Logic.Function.Iterate

/-! Calls of `save_user_memory` and `load_user_memory` for one user, from any sessions and
workers. Every access to a store is a step of its own, and the steps of different calls
alternate; the hot copy may expire between any two. -/
namespace CustomerService.MemoryCalls
open Text OrderAccess LongTermMemory Transition

/-- How far a call has come: about to read the Store, or after a miss the row, about to
write the row back, about to put the merged profile, or to upsert it. -/
inductive Phase
  | started
  | missed
  | found (archived : UserMemory)
  | loaded (current : UserMemory)
  | stored (value : UserMemory)
  | done
  deriving DecidableEq

/-- A call with what it saves, and when; a load saves nothing. -/
structure Call where
  saves : Option (SaveArgs × Text)
  phase : Phase
  deriving DecidableEq

structure World where
  stores : Stores
  calls : List Call
  deriving DecidableEq

inductive Action
  | call (saves : Option (SaveArgs × Text))
  | advance (index : Nat)
  | expire

/-- A load ends with the profile, a save goes on with it. -/
def Call.withProfile (call : Call) (memory : UserMemory) : Call :=
  {call with phase := if call.saves.isSome then .loaded memory else .done}

def Call.advance (stores : Stores) (call : Call) : Stores × Call :=
  match call.phase with
  | .started =>
    match stores.hot with
    | some value => (stores,call.withProfile (fromValue value))
    | none => (stores,{call with phase := .missed})
  | .missed =>
    match stores.cold with
    | some archived => (stores,{call with phase := .found archived})
    | none => (stores,call.withProfile blank)
  | .found archived =>
    ({stores with hot := some (toValue (fromValue archived))},call.withProfile (fromValue archived))
  | .loaded current =>
    match call.saves with
    | some (args,now) =>
      let value := toValue (merge current args now)
      ({stores with hot := some value},{call with phase := .stored value})
    | none => (stores,{call with phase := .done})
  | .stored value => ({stores with cold := some value},{call with phase := .done})
  | .done => (stores,call)

def step (world : World) : Action → World
  | .call saves => {world with calls := world.calls ++ [⟨saves,.started⟩]}
  | .advance index =>
    match world.calls[index]? with
    | some call =>
      let advanced := call.advance world.stores
      ⟨advanced.1,world.calls.set index advanced.2⟩
    | none => world
  | .expire => {world with stores := {world.stores with hot := none}}

def World.start (stores : Stores) : World := ⟨stores,[]⟩

/-- The copies before the first call: the row as a save leaves it, the hot copy gone or the same. -/
structure Agree (stores : Stores) : Prop where
  hot : ∀ value, stores.hot = some value → stores.cold = some value
  settled : ∀ value, stores.cold = some value → Settled value

def World.Quiet (world : World) : Prop := ∀ call ∈ world.calls, call.phase = .done

instance (world : World) : Decidable world.Quiet := inferInstanceAs (Decidable (∀ _ ∈ _, _))

/-! A call by itself. -/

/-- A save that nothing interrupts does what `save_user_memory` does. -/
theorem save_alone {userId : Text} (persistent : isPersistentUser userId = true) (stores : Stores)
    (args : SaveArgs) (now : Text) :
    (fun state : Stores × Call => state.2.advance state.1)^[5] (stores,⟨some (args,now),.started⟩) =
      (saveUserMemory userId true stores ⟨true,true,true,true⟩ args now,⟨some (args,now),.done⟩) := by
  obtain ⟨hot,cold⟩ := stores
  cases hot with
  | some value =>
    simp [Call.advance,Call.withProfile,saveUserMemory,loadUserMemory,persistent]
  | none =>
    cases cold <;>
      simp [Call.advance,Call.withProfile,saveUserMemory,loadUserMemory,persistent,Option.filter]

/-! Calls whose writes do not cross. -/

def Call.storing (call : Call) : Bool :=
  match call.phase with
  | .stored _ => true
  | _ => false

/-- A save that has the profile it merges into, and has not upserted yet. -/
def Call.updating (call : Call) : Bool :=
  match call.phase with
  | .loaded _ | .stored _ => true
  | _ => false

/-- The row that a call has read is still the row, and no save is about to replace it. -/
def World.Fresh (world : World) (archived : UserMemory) : Prop :=
  world.stores.cold = some archived ∧ ∀ call ∈ world.calls, call.storing = false

instance (world : World) (archived : UserMemory) : Decidable (world.Fresh archived) :=
  inferInstanceAs (Decidable (_ ∧ ∀ _ ∈ _, _))

/-- A row is written back only while it is fresh, and the save whose profile is the hot copy
upserts only when no other save is between its put and its upsert. -/
def Phase.Uncrossed (world : World) (index : Nat) : Phase → Prop
  | .found archived => world.Fresh archived
  | .stored value =>
    world.stores.hot = some value → ∀ call ∈ world.calls.eraseIdx index, call.storing = false
  | _ => True

instance (world : World) (index : Nat) : DecidablePred (Phase.Uncrossed world index)
  | .found archived => inferInstanceAs (Decidable (world.Fresh archived))
  | .stored _ => inferInstanceAs (Decidable (_ → ∀ _ ∈ _, _))
  | .started | .missed | .loaded _ | .done => .isTrue trivial

def Uncrossed (world : World) : Action → Prop
  | .advance index => ∀ call ∈ world.calls[index]?, call.phase.Uncrossed world index
  | _ => True

instance (world : World) : DecidablePred (Uncrossed world)
  | .call _ => .isTrue trivial
  | .advance _ => inferInstanceAs (Decidable (∀ _ ∈ _, _))
  | .expire => .isTrue trivial

/-- The hot copy is the row, or what a save has put that will make it the row. -/
def World.Follows (world : World) (value : UserMemory) : Prop :=
  world.stores.cold = some value ∧ (∀ call ∈ world.calls, call.storing = false) ∨
    ∃ call ∈ world.calls, call.phase = .stored value

structure World.Sound (world : World) : Prop where
  hot : ∀ value, world.stores.hot = some value → world.Follows value
  settled : ∀ value, world.stores.cold = some value → Settled value
  loaded : ∀ call ∈ world.calls, ∀ current, call.phase = .loaded current →
    fromValue current = current
  stored : ∀ call ∈ world.calls, ∀ value, call.phase = .stored value → Settled value

theorem World.Sound.start {stores : Stores} (agree : Agree stores) : (World.start stores).Sound where
  hot := by
    intro value same
    refine Or.inl ⟨agree.hot value same,fun call listed => ?_⟩
    cases listed
  settled := agree.settled
  loaded := by
    intro call listed
    cases listed
  stored := by
    intro call listed
    cases listed

/-! One step. -/

variable {world : World} {index : Nat} {call call' : Call} {stores : Stores}

theorem mem_set_cases {other : Call} (listed : other ∈ world.calls.set index call') :
    other = call' ∨ other ∈ world.calls.eraseIdx index := by
  obtain ⟨place,here⟩ := List.mem_iff_getElem?.mp listed
  rw [List.getElem?_set] at here
  split at here
  · split at here
    · exact Or.inl (Option.some.inj here).symm
    · cases here
  · rename_i apart
    exact Or.inr (List.mem_eraseIdx_iff_getElem?.mpr ⟨place,Ne.symm apart,here⟩)

theorem mem_cases (here : world.calls[index]? = some call) {other : Call}
    (listed : other ∈ world.calls) : other = call ∨ other ∈ world.calls.eraseIdx index := by
  obtain ⟨place,found⟩ := List.mem_iff_getElem?.mp listed
  by_cases same : place = index
  · subst same
    exact Or.inl (Option.some.inj (found.symm.trans here))
  · exact Or.inr (List.mem_eraseIdx_iff_getElem?.mpr ⟨place,same,found⟩)

theorem mem_set_other (here : world.calls[index]? = some call) {other : Call}
    (listed : other ∈ world.calls) (apart : other ≠ call) : other ∈ world.calls.set index call' := by
  obtain ⟨place,found⟩ := List.mem_iff_getElem?.mp listed
  apply List.mem_iff_getElem?.mpr
  refine ⟨place,?_⟩
  rw [List.getElem?_set_ne,found]
  rintro rfl
  exact apart (Option.some.inj (found.symm.trans here))

theorem Call.not_storing_iff : call.storing = false ↔ ∀ value, call.phase ≠ .stored value := by
  unfold Call.storing
  cases call.phase <;> simp

theorem Call.storing_of_updating (idle : call.updating = false) : call.storing = false := by
  unfold Call.updating at idle
  unfold Call.storing
  cases phase : call.phase with
  | stored value =>
    rw [phase] at idle
    cases idle
  | _ => rfl

theorem Call.withProfile_storing (call : Call) (memory : UserMemory) :
    (call.withProfile memory).storing = false := by
  unfold Call.withProfile Call.storing
  cases call.saves <;> rfl

theorem Call.withProfile_loaded {memory current : UserMemory}
    (phase : (call.withProfile memory).phase = .loaded current) : current = memory := by
  unfold Call.withProfile at phase
  split at phase
  · exact (Phase.loaded.inj phase).symm
  · cases phase

theorem Call.withProfile_done {memory : UserMemory}
    (phase : (call.withProfile memory).phase = .done) : call.saves = none := by
  unfold Call.withProfile at phase
  split at phase
  · cases phase
  · rename_i load
    exact Option.not_isSome_iff_eq_none.mp load

inductive Call.Move (stores : Stores) (call : Call) : Stores × Call → Prop
  | reads {call' : Call} (saves : call'.saves = call.saves) (idle : call.storing = false)
      (idle' : call'.storing = false)
      (loaded : ∀ current, call'.phase = .loaded current →
        (∃ value, stores.hot = some value ∧ current = fromValue value) ∨
          stores.cold = none ∧ current = blank)
      (done : call'.phase = .done → call.phase = .done ∨ call.saves = none) :
      Call.Move stores call (stores,call')
  | writesBack {archived : UserMemory} (phase : call.phase = .found archived) :
      Call.Move stores call
        ({stores with hot := some (toValue (fromValue archived))},call.withProfile (fromValue archived))
  | puts {current : UserMemory} {args : SaveArgs} {now : Text} (phase : call.phase = .loaded current)
      (saves : call.saves = some (args,now)) :
      Call.Move stores call ({stores with hot := some (toValue (merge current args now))},
        {call with phase := .stored (toValue (merge current args now))})
  | upserts {value : UserMemory} (phase : call.phase = .stored value) :
      Call.Move stores call ({stores with cold := some value},{call with phase := .done})

theorem Call.advance_move (stores : Stores) (call : Call) : call.Move stores (call.advance stores) := by
  unfold Call.advance
  cases phase : call.phase with
  | started =>
    have idle : call.storing = false := by rw [Call.storing,phase]
    cases hot : stores.hot with
    | none =>
      refine .reads rfl idle rfl (fun current loaded => ?_) (fun done => ?_)
      · cases loaded
      · cases done
    | some value =>
      refine .reads rfl idle (call.withProfile_storing _) (fun current loaded => ?_) (fun done => ?_)
      · exact Or.inl ⟨value,hot,Call.withProfile_loaded loaded⟩
      · exact Or.inr (Call.withProfile_done done)
  | missed =>
    have idle : call.storing = false := by rw [Call.storing,phase]
    cases cold : stores.cold with
    | none =>
      refine .reads rfl idle (call.withProfile_storing _) (fun current loaded => ?_) (fun done => ?_)
      · exact Or.inr ⟨cold,Call.withProfile_loaded loaded⟩
      · exact Or.inr (Call.withProfile_done done)
    | some archived =>
      refine .reads rfl idle rfl (fun current loaded => ?_) (fun done => ?_)
      · cases loaded
      · cases done
  | found archived => exact .writesBack phase
  | loaded current =>
    cases saves : call.saves with
    | none =>
      refine .reads saves.symm (by rw [Call.storing,phase]) rfl (fun current loaded => ?_) (fun _ => ?_)
      · cases loaded
      · exact Or.inr saves
    | some saved =>
      let value := toValue (merge current saved.1 saved.2)
      have move : call.Move stores ({stores with hot := some value},{call with phase := .stored value}) :=
        .puts phase saves
      rwa [saves] at move
  | stored value => exact .upserts phase
  | done =>
    have idle : call.storing = false := by rw [Call.storing,phase]
    refine .reads rfl idle idle (fun current loaded => ?_) (fun _ => Or.inl phase)
    rw [phase] at loaded
    cases loaded

theorem Call.Move.saves_eq {advanced : Stores × Call}
    (move : call.Move stores advanced) : advanced.2.saves = call.saves := by
  cases move with
  | reads saves => exact saves
  | writesBack => rfl
  | puts => rfl
  | upserts => rfl

theorem World.Follows.reads {value : UserMemory} (follows : world.Follows value)
    (here : world.calls[index]? = some call) (idle : call.storing = false)
    (idle' : call'.storing = false) :
    World.Follows ⟨world.stores,world.calls.set index call'⟩ value := by
  rcases follows with ⟨cold,free⟩ | ⟨other,listed,phase⟩
  · refine Or.inl ⟨cold,fun other listed => ?_⟩
    rcases mem_set_cases listed with rfl | old
    · exact idle'
    · exact free other (List.mem_of_mem_eraseIdx old)
  · refine Or.inr ⟨other,mem_set_other here listed ?_,phase⟩
    rintro rfl
    exact Call.not_storing_iff.mp idle value phase

theorem World.Sound.set (sound : world.Sound)
    (hot : ∀ value, stores.hot = some value →
      World.Follows ⟨stores,world.calls.set index call'⟩ value)
    (settled : ∀ value, stores.cold = some value → Settled value)
    (loaded : ∀ current, call'.phase = .loaded current → fromValue current = current)
    (stored : ∀ value, call'.phase = .stored value → Settled value) :
    World.Sound ⟨stores,world.calls.set index call'⟩ where
  hot := hot
  settled := settled
  loaded := by
    intro other listed
    rcases mem_set_cases listed with rfl | old
    · exact loaded
    · exact sound.loaded other (List.mem_of_mem_eraseIdx old)
  stored := by
    intro other listed
    rcases mem_set_cases listed with rfl | old
    · exact stored
    · exact sound.stored other (List.mem_of_mem_eraseIdx old)

theorem World.Sound.reads (sound : world.Sound) (here : world.calls[index]? = some call)
    (idle : call.storing = false) (idle' : call'.storing = false)
    (loaded : ∀ current, call'.phase = .loaded current → fromValue current = current) :
    World.Sound ⟨world.stores,world.calls.set index call'⟩ := by
  apply sound.set _ sound.settled loaded
  · intro value stored
    exact absurd stored (Call.not_storing_iff.mp idle' value)
  · intro value hot
    exact (sound.hot value hot).reads here idle idle'

theorem World.Sound.writesBack (sound : world.Sound) {archived : UserMemory}
    (fresh : world.Fresh archived) : World.Sound
      ⟨{world.stores with hot := some (toValue (fromValue archived))},
        world.calls.set index (call.withProfile (fromValue archived))⟩ := by
  obtain ⟨cold,free⟩ := fresh
  have settled := sound.settled archived cold
  refine sound.set ?_ sound.settled ?_ ?_
  · intro value hot
    rw [settled.from_value,settled.to_value] at hot
    refine Or.inl ⟨cold.trans hot,fun other member => ?_⟩
    rcases mem_set_cases member with rfl | old
    · exact call.withProfile_storing _
    · exact free other (List.mem_of_mem_eraseIdx old)
  · intro current loaded
    rw [Call.withProfile_loaded loaded,fromValue_fromValue]
  · intro value stored
    exact absurd stored (Call.not_storing_iff.mp (call.withProfile_storing _) value)

theorem World.Sound.puts (sound : world.Sound) (inside : index < world.calls.length)
    {value : UserMemory} (settled : Settled value) : World.Sound
      ⟨{world.stores with hot := some value},world.calls.set index {call with phase := .stored value}⟩ := by
  refine sound.set ?_ sound.settled ?_ ?_
  · intro other hot
    refine Or.inr ⟨_,List.mem_set inside _,?_⟩
    rw [Option.some.inj hot]
  · intro current loaded
    cases loaded
  · intro other stored
    rw [← Phase.stored.inj stored]
    exact settled

theorem World.Sound.upserts (sound : world.Sound) (here : world.calls[index]? = some call)
    {value : UserMemory} (phase : call.phase = .stored value)
    (uncrossed : world.stores.hot = some value →
      ∀ other ∈ world.calls.eraseIdx index, other.storing = false) : World.Sound
      ⟨{world.stores with cold := some value},world.calls.set index {call with phase := .done}⟩ := by
  have listed := List.mem_of_getElem? here
  apply sound.set
  · intro other hot
    by_cases own : other = value
    · subst own
      refine Or.inl ⟨rfl,fun one member => ?_⟩
      rcases mem_set_cases member with rfl | old
      · rfl
      · exact uncrossed hot one old
    · rcases sound.hot other hot with ⟨_,free⟩ | ⟨one,member,stored⟩
      · exact absurd phase (Call.not_storing_iff.mp (free call listed) value)
      · refine Or.inr ⟨one,mem_set_other here member ?_,stored⟩
        rintro rfl
        exact own (Phase.stored.inj (stored.symm.trans phase))
  · intro other cold
    rw [← Option.some.inj cold]
    exact sound.stored call listed value phase
  · intro current loaded
    cases loaded
  · intro other stored
    cases stored

theorem World.Sound.advance (sound : world.Sound) (uncrossed : Uncrossed world (.advance index)) :
    (step world (.advance index)).Sound := by
  unfold MemoryCalls.step
  dsimp only
  cases here : world.calls[index]? with
  | none => exact sound
  | some call =>
    have listed := List.mem_of_getElem? here
    have uncrossed := uncrossed call here
    dsimp only
    have move := call.advance_move world.stores
    generalize call.advance world.stores = advanced at move ⊢
    cases move with
    | reads saves idle idle' loaded _ =>
      refine sound.reads here idle idle' (fun current phase => ?_)
      rcases loaded current phase with ⟨value,_,rfl⟩ | ⟨_,rfl⟩
      · exact fromValue_fromValue value
      · exact fromValue_blank
    | writesBack phase =>
      rw [phase] at uncrossed
      exact sound.writesBack uncrossed
    | puts phase saves =>
      apply sound.puts (List.getElem?_eq_some_iff.mp here).1
      exact settled_merge (sound.loaded call listed _ phase) _ _
    | upserts phase =>
      rw [phase] at uncrossed
      exact sound.upserts here phase uncrossed

theorem mem_called {saves : Option (SaveArgs × Text)} {other : Call}
    (listed : other ∈ (step world (.call saves)).calls) :
    other ∈ world.calls ∨ other.phase = .started := by
  rcases List.mem_append.mp listed with old | new
  · exact Or.inl old
  · rw [List.mem_singleton.mp new]
    exact Or.inr rfl

theorem World.Sound.called (sound : world.Sound) (saves : Option (SaveArgs × Text)) :
    (step world (.call saves)).Sound where
  hot := by
    intro value hot
    rcases sound.hot value hot with ⟨cold,free⟩ | ⟨call,listed,phase⟩
    · refine Or.inl ⟨cold,fun call listed => ?_⟩
      rcases mem_called listed with old | started
      · exact free call old
      · rw [Call.storing,started]
    · exact Or.inr ⟨call,List.mem_append_left _ listed,phase⟩
  settled := sound.settled
  loaded := by
    intro call listed current phase
    rcases mem_called listed with old | started
    · exact sound.loaded call old current phase
    · cases started.symm.trans phase
  stored := by
    intro call listed value phase
    rcases mem_called listed with old | started
    · exact sound.stored call old value phase
    · cases started.symm.trans phase

theorem World.Sound.expire (sound : world.Sound) : (step world .expire).Sound where
  hot := by
    intro value same
    cases same
  settled := sound.settled
  loaded := sound.loaded
  stored := sound.stored

theorem World.Sound.step (world : World) (action : Action) (sound : world.Sound)
    (uncrossed : Uncrossed world action) : (step world action).Sound := by
  cases action with
  | call saves => exact sound.called saves
  | advance index => exact sound.advance uncrossed
  | expire => exact sound.expire

theorem World.Quiet.not_storing (quiet : world.Quiet) : ∀ call ∈ world.calls, call.storing = false := by
  intro call listed
  rw [Call.storing,quiet call listed]

theorem World.Sound.hot_of_free (sound : world.Sound)
    (free : ∀ call ∈ world.calls, call.storing = false) {value : UserMemory}
    (hot : world.stores.hot = some value) : world.stores.cold = some value := by
  rcases sound.hot value hot with ⟨cold,_⟩ | ⟨call,listed,phase⟩
  · exact cold
  · exact absurd phase (Call.not_storing_iff.mp (free call listed) value)

/-- When no writes cross, the copies agree once no call is running. -/
theorem copies_agree {start : Stores} (agree : Agree start) {actions : List Action}
    (uncrossed : Along step Uncrossed (World.start start) actions)
    (quiet : (run step (World.start start) actions).Quiet) {value : UserMemory}
    (hot : (run step (World.start start) actions).stores.hot = some value) :
    (run step (World.start start) actions).stores.cold = some value := by
  have sound := (Throughout.of_along World.Sound.step (.start agree) uncrossed).last
  exact sound.hot_of_free quiet.not_storing hot

def newUser : Stores := ⟨none,none⟩

theorem newUser_agree : Agree newUser where
  hot := by
    intro value same
    cases same
  settled := by
    intro value same
    cases same

def saveOrder (number : String) : Option (SaveArgs × Text) :=
  some (⟨none,some number.toList,none,none,none⟩,[])

/-- One save after the other, the second after an expiry. -/
def savesInTurn : List Action :=
  .call (saveOrder "20251114001") :: List.replicate 4 (.advance 0) ++
    .expire :: .call (saveOrder "20251114002") :: List.replicate 5 (.advance 1)

theorem copies_agree_in_turn :
    (run step (World.start newUser) savesInTurn).stores.cold =
      (run step (World.start newUser) savesInTurn).stores.hot := by
  obtain ⟨value,hot⟩ : ∃ value, (run step (World.start newUser) savesInTurn).stores.hot = some value :=
    Option.isSome_iff_exists.mp (by decide +kernel)
  rw [hot]
  exact copies_agree newUser_agree (by decide +kernel) (by decide +kernel) hot

/-- Both saves read before either puts; the first to put is the last to upsert. -/
def savesAcross : List Action :=
  [.call (saveOrder "20251114001"),.call (saveOrder "20251114002"),.advance 0,.advance 0,
    .advance 1,.advance 1,.advance 0,.advance 1,.advance 1,.advance 0]

theorem copies_differ : ¬∀ start, Agree start → ∀ actions,
    (run step (World.start start) actions).Quiet → ∀ value,
      (run step (World.start start) actions).stores.hot = some value →
        (run step (World.start start) actions).stores.cold = some value := by
  intro agree
  have differ : (run step (World.start newUser) savesAcross).stores.hot ≠
      (run step (World.start newUser) savesAcross).stores.cold := by
    decide +kernel
  obtain ⟨value,hot⟩ : ∃ value, (run step (World.start newUser) savesAcross).stores.hot = some value :=
    Option.isSome_iff_exists.mp (by decide +kernel)
  exact differ (hot.trans (agree newUser newUser_agree savesAcross (by decide +kernel) value hot).symm)

end CustomerService.MemoryCalls
