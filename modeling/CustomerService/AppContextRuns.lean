import CustomerService.AppContext

/-! What holds of the context of the process after any steps of its callers: first of what each of them
has in hand, then of what the lock protects. -/
namespace CustomerService.AppContext
open Transition

variable {Caller : Type} [DecidableEq Caller]

namespace State

variable {state before after : State Caller}

structure Sound (state : State Caller) : Prop where
  fits : ∀ caller, state.Fits (state.lines caller)
  process : ∀ context ∈ state.process, context < state.contexts.length
  graphs : ∀ (context : Nat) (found : Context), state.contexts[context]? = some found →
    ∀ graph ∈ found.graph, graph = buildGraph found
  count : state.contexts.length = state.built + state.offered

private theorem fits_goto {caller : Caller} {line : Line} (sound : state.Sound) (grows : state.Grows after)
    (lines : after.lines = Function.update state.lines caller line) (fits : after.Fits line) :
    ∀ other, after.Fits (after.lines other) := by
  intro other
  rw [lines]
  by_cases same : other = caller
  · rw [same,Function.update_self]
    exact fits
  · rw [Function.update_of_ne same]
    exact (sound.fits other).mono grows

theorem Sound.quiet {caller : Caller} {line : Line} (sound : state.Sound) (grows : state.Grows after)
    (lines : after.lines = Function.update state.lines caller line) (fits : after.Fits line)
    (process : ∀ context ∈ after.process, context < state.contexts.length)
    (same : after.contexts = state.contexts ∧ after.built = state.built ∧ after.offered = state.offered) :
    after.Sound := by
  obtain ⟨contexts,built,offered⟩ := same
  refine ⟨fits_goto sound grows lines fits,?_,?_,?_⟩
  · rw [contexts]
    exact process
  · rw [contexts]
    exact sound.graphs
  · rw [contexts,built,offered]
    exact sound.count

theorem Sound.take {caller : Caller} {line : Line} (sound : state.Sound) (fits : state.Fits line) :
    (state.take caller line).Sound := by
  have grows := @grows_take _ _ state caller line
  revert grows
  unfold State.take
  split <;> intro grows
  · exact sound.quiet grows rfl (fits.mono grows) sound.process ⟨rfl,rfl,rfl⟩
  · exact sound

theorem Sound.setLock {caller : Caller} {line : Line} (sound : state.Sound) (fits : state.Fits line) :
    (state.setLock caller line).Sound := by
  have grows := @grows_setLock _ _ state caller line
  revert grows
  unfold State.setLock
  split <;> intro grows
  · exact sound.quiet grows rfl (fits.mono grows) sound.process ⟨rfl,rfl,rfl⟩
  · exact sound.quiet grows rfl trivial sound.process ⟨rfl,rfl,rfl⟩

theorem Sound.append {caller : Caller} {line : Line} {handles : Handles} (sound : state.Sound)
    (lines : after.lines = Function.update state.lines caller line) (fits : after.Fits line)
    (contexts : after.contexts = state.contexts ++ [Context.fresh handles])
    (same : after.process = state.process ∧ after.cleared = state.cleared)
    (count : after.built + after.offered = state.built + state.offered + 1) : after.Sound := by
  refine ⟨fits_goto sound (grows_of_append same.2 same.1 contexts) lines fits,?_,?_,?_⟩
  · intro context current
    rw [same.1] at current
    rw [contexts,List.length_append]
    exact Nat.lt_add_right _ (sound.process context current)
  · intro context found here graph compiled
    rw [contexts,List.getElem?_append] at here
    split_ifs at here with old
    · exact sound.graphs context found here graph compiled
    · obtain rfl := List.mem_singleton.mp (List.mem_of_getElem? here)
      cases compiled
  · rw [contexts,List.length_append,sound.count,count]
    rfl

omit [DecidableEq Caller] in
theorem modified {contexts : List Context} {context other : Nat} {graph : CompiledGraph} {later : Context}
    (shown : (contexts.modify context (fun found => { found with graph := some graph }))[other]? = some later) :
    ∃ before, contexts[other]? = some before ∧
      later = if context = other then { before with graph := some graph } else before := by
  rw [List.getElem?_modify,Option.map_eq_map] at shown
  obtain ⟨before,old,same⟩ := Option.map_eq_some_iff.mp shown
  refine ⟨before,old,?_⟩
  rw [← same]

theorem Sound.advance (sound : state.Sound) (caller : Caller) (outcome : Outcome) :
    (state.advance caller outcome).Sound := by
  have grows := @grows_advance _ _ state caller outcome
  have fits := sound.fits caller
  unfold State.advance at grows ⊢
  cases at' : state.lines caller with
  | fastTest =>
    simp only [at'] at grows ⊢
    refine sound.quiet grows rfl ?_ sound.process ⟨rfl,rfl,rfl⟩
    split_ifs with some'
    · exact fun _ => Option.isSome_iff_ne_none.mp some'
    · trivial
  | fastReturn =>
    simp only [at'] at grows fits ⊢
    exact sound.quiet grows rfl ⟨fits,sound.process⟩ sound.process ⟨rfl,rfl,rfl⟩
  | acquire => exact sound.take trivial
  | lockedTest =>
    simp only [at'] at grows ⊢
    refine sound.quiet grows rfl ?_ sound.process ⟨rfl,rfl,rfl⟩
    split_ifs with none'
    · trivial
    · exact fun _ absent => none' (Option.isNone_iff_eq_none.mpr absent)
  | build =>
    cases outcome with
    | builds handles =>
      have longer : state.contexts.length < (state.contexts ++ [Context.fresh handles]).length := by simp
      exact sound.append rfl longer rfl ⟨rfl,rfl⟩ (Nat.add_right_comm _ _ _)
    | raises left =>
      simp only [at'] at grows ⊢
      exact sound.quiet grows rfl trivial sound.process ⟨rfl,rfl,rfl⟩
  | publish context =>
    simp only [at'] at grows fits ⊢
    refine sound.quiet grows rfl (fun _ => Option.some_ne_none context) ?_ ⟨rfl,rfl,rfl⟩
    rintro _ ⟨⟩
    exact fits
  | setSessionLock =>
    rw [at'] at fits
    exact sound.setLock fits
  | lockedReturn =>
    simp only [at'] at grows fits ⊢
    exact sound.quiet grows rfl ⟨fits,sound.process⟩ sound.process ⟨rfl,rfl,rfl⟩
  | graphTest context =>
    simp only [at'] at grows fits ⊢
    refine sound.quiet grows rfl ?_ sound.process ⟨rfl,rfl,rfl⟩
    split_ifs with none'
    · exact fits
    · rw [List.getElem?_eq_getElem fits] at none'
      exact ⟨_,List.getElem?_eq_getElem fits,fun absent => none' (Option.isNone_iff_eq_none.mpr absent)⟩
  | compile context =>
    simp only [at'] at grows fits ⊢
    rw [List.getElem?_eq_getElem fits] at grows ⊢
    exact sound.quiet grows rfl ⟨_,List.getElem?_eq_getElem fits,rfl⟩ sound.process ⟨rfl,rfl,rfl⟩
  | assign context graph =>
    simp only [at'] at grows fits ⊢
    obtain ⟨found,here,same⟩ := fits
    have there : (state.contexts.modify context (fun found => { found with graph := some graph }))[context]? =
        some { found with graph := some graph } := by
      rw [List.getElem?_modify,here,Option.map_eq_map,Option.map_some,if_pos rfl]
    refine ⟨fits_goto sound grows rfl ⟨_,there,Option.some_ne_none graph⟩,?_,?_,?_⟩
    · intro current shown
      exact grows.length (sound.process current shown)
    · intro other later shown compiled given
      obtain ⟨before,old,changed⟩ := modified shown
      split_ifs at changed with chosen
      · subst chosen
        obtain rfl := Option.some.inj (old.symm.trans here)
        obtain rfl := changed
        obtain rfl := Option.some.inj given
        exact same
      · obtain rfl := changed
        exact sound.graphs other later old compiled given
    · exact (List.length_modify _ _ _).trans sound.count
  | graphReturn context =>
    simp only [at'] at grows fits ⊢
    obtain ⟨found,here,compiled⟩ := fits
    obtain ⟨graph,there⟩ := Option.ne_none_iff_exists'.mp compiled
    refine sound.quiet grows rfl ⟨found,here,?_⟩ sound.process ⟨rfl,rfl,rfl⟩
    rw [here,Option.bind_some,there,sound.graphs context found here graph there]
  | installAcquire context =>
    rw [at'] at fits
    exact sound.take fits
  | install context =>
    simp only [at'] at grows fits ⊢
    refine sound.quiet grows rfl trivial ?_ ⟨rfl,rfl,rfl⟩
    rintro _ ⟨⟩
    exact fits
  | installLock previous => exact sound.setLock trivial
  | installReturn previous =>
    simp only [at'] at grows ⊢
    exact sound.quiet grows rfl trivial sound.process ⟨rfl,rfl,rfl⟩
  | clearAcquire => exact sound.take trivial
  | clear =>
    simp only [at'] at grows ⊢
    refine sound.quiet grows rfl trivial ?_ ⟨rfl,rfl,rfl⟩
    rintro _ ⟨⟩
  | _ => exact sound

theorem Sound.start (sound : state.Sound) {caller : Caller} (call : Call) : (state.start caller call).Sound := by
  cases call with
  | get => exact sound.quiet (grows_start caller .get) rfl trivial sound.process ⟨rfl,rfl,rfl⟩
  | install handles =>
    have longer : state.contexts.length < (state.contexts ++ [Context.fresh handles]).length := by simp
    exact sound.append rfl longer rfl ⟨rfl,rfl⟩ rfl
  | clear => exact sound.quiet (grows_start caller .clear) rfl trivial sound.process ⟨rfl,rfl,rfl⟩
  | graph =>
    have fits := sound.fits caller
    have grows := @grows_start _ _ state caller .graph
    revert grows
    unfold State.start
    dsimp only
    split
    · rename_i context at'
      intro grows
      rw [at'] at fits
      exact sound.quiet grows rfl (fits.2 context rfl) sound.process ⟨rfl,rfl,rfl⟩
    · intro grows
      exact sound.quiet grows rfl trivial sound.process ⟨rfl,rfl,rfl⟩
    · intro grows
      exact sound

/-! ### What the lock protects -/

end State

def Line.syncs : Line → Bool
  | .setSessionLock | .installLock _ => true
  | _ => false

def Line.publishes : Line → Bool
  | .publish _ => true
  | _ => false

theorem Line.inside_of_syncs {line : Line} (syncs : line.syncs = true) : line.inside = true := by
  cases line <;> first | rfl | cases syncs

theorem Line.inside_of_publishes {line : Line} (publishes : line.publishes = true) : line.inside = true := by
  cases line <;> first | rfl | cases publishes

namespace State

variable {state before after : State Caller}

/-- The session lock is that of the context, or the context has none. -/
def Synced (state : State Caller) : Prop :=
  ∀ (context : Nat) (found : Context), state.process = some context →
    state.contexts[context]? = some found → state.sessionLock = some found.handles.sessionLock

structure Locked (state : State Caller) : Prop where
  mutex : ∀ caller, (state.lines caller).inside = true ↔ state.holder = some caller
  building : ∀ caller, state.lines caller = .build → state.process = none
  first : state.built ≤ state.cleared + 1
  vacant : state.process = none → (∀ caller, (state.lines caller).publishes = false) →
    state.built ≤ state.cleared
  synced : state.Synced ∨ ∃ caller, (state.lines caller).syncs = true

private theorem locked_inside {caller : Caller} {line : Line}
    (alone : ∀ other, other ≠ caller → (state.lines other).inside = false) (lines : after.lines = Function.update state.lines caller line)
    (holder : after.holder = if line.inside then some caller else none)
    (building : line = .build → after.process = none) (first : after.built ≤ after.cleared + 1)
    (vacant : after.process = none → line.publishes = false → after.built ≤ after.cleared)
    (synced : after.Synced ∨ line.syncs = true) : after.Locked := by
  have here : after.lines caller = line := by rw [lines,Function.update_self]
  have there (other : Caller) (apart : other ≠ caller) : after.lines other = state.lines other := by
    rw [lines,Function.update_of_ne apart]
  have out (other : Caller) (apart : other ≠ caller) : (after.lines other).inside = false := by
    rw [there other apart]
    exact alone other apart
  refine ⟨?_,?_,first,?_,?_⟩
  · intro other
    rw [holder]
    by_cases same : other = caller
    · subst same
      rw [here]
      cases line.inside <;> simp
    · rw [out other same]
      cases line.inside <;> simp [Ne.symm same]
  · intro other builds
    by_cases same : other = caller
    · subst same
      exact building (here.symm.trans builds)
    · have inside := out other same
      rw [builds] at inside
      cases inside
  · intro none' nobody
    exact vacant none' (here ▸ nobody caller)
  · rcases synced with now | later
    · exact Or.inl now
    · exact Or.inr ⟨caller,here ▸ later⟩

private theorem locked_outside {caller : Caller} {line : Line} (locked : state.Locked) (grows : state.Grows after)
    (sound : state.Sound)
    (left : (state.lines caller).inside = false) (lines : after.lines = Function.update state.lines caller line)
    (out : line.inside = false)
    (same : after.process = state.process ∧ after.holder = state.holder ∧ after.sessionLock = state.sessionLock ∧
      after.built = state.built ∧ after.cleared = state.cleared) : after.Locked := by
  obtain ⟨process,holder,sessionLock,built,cleared⟩ := same
  have lines' (other : Caller) : after.lines other = if other = caller then line else state.lines other := by
    rw [lines,Function.update_apply]
  have keeps (class' : Line → Bool) (within : ∀ line, class' line = true → line.inside = true) (other : Caller) :
      class' (after.lines other) = class' (state.lines other) := by
    rw [lines']
    split_ifs with chosen
    · subst chosen
      have one : class' line = false := by
        by_contra yes
        rw [within line (by simpa using yes)] at out
        cases out
      have two : class' (state.lines other) = false := by
        by_contra yes
        rw [within _ (by simpa using yes)] at left
        cases left
      rw [one,two]
    · rfl
  refine ⟨?_,?_,?_,?_,?_⟩
  · intro other
    rw [keeps Line.inside (fun _ inside => inside) other,holder]
    exact locked.mutex other
  · intro other builds
    rw [lines'] at builds
    split_ifs at builds with chosen
    · rw [builds] at out
      cases out
    · rw [process]
      exact locked.building other builds
  · rw [built,cleared]
    exact locked.first
  · intro none' nobody
    rw [built,cleared]
    apply locked.vacant (process ▸ none')
    intro other
    rw [← keeps Line.publishes (fun _ => Line.inside_of_publishes) other]
    exact nobody other
  · rcases locked.synced with now | ⟨other,later⟩
    · left
      intro context found current shown
      rw [process] at current
      obtain ⟨old,here⟩ : ∃ old, state.contexts[context]? = some old :=
        ⟨_,List.getElem?_eq_getElem (sound.process context current)⟩
      obtain ⟨later,there,handles,_⟩ := grows.contexts context old here
      obtain rfl := Option.some.inj (there.symm.trans shown)
      rw [sessionLock,handles]
      exact now context old current here
    · exact Or.inr ⟨other,(keeps Line.syncs (fun _ => Line.inside_of_syncs) other).trans later⟩

omit [DecidableEq Caller] in
theorem Locked.alone {caller : Caller} (locked : state.Locked) (holder : ∀ other ∈ state.holder, other = caller)
    (other : Caller) (apart : other ≠ caller) : (state.lines other).inside = false := by
  by_contra inside
  exact apart (holder other ((locked.mutex other).mp (by simpa using inside)))

omit [DecidableEq Caller] in
theorem Locked.isSynced {caller : Caller} (locked : state.Locked) (holder : ∀ other ∈ state.holder, other = caller)
    (plain : (state.lines caller).syncs = false) : state.Synced := by
  rcases locked.synced with now | ⟨other,later⟩
  · exact now
  · obtain rfl := holder other ((locked.mutex other).mp (Line.inside_of_syncs later))
    rw [plain] at later
    cases later

omit [DecidableEq Caller] in
theorem Locked.isVacant {caller : Caller} (locked : state.Locked) (holder : ∀ other ∈ state.holder, other = caller)
    (plain : (state.lines caller).publishes = false) (none' : state.process = none) :
    state.built ≤ state.cleared := by
  apply locked.vacant none'
  intro other
  by_contra publishes
  have publishes : (state.lines other).publishes = true := by simpa using publishes
  obtain rfl := holder other ((locked.mutex other).mp (Line.inside_of_publishes publishes))
  rw [plain] at publishes
  cases publishes

private theorem locked_take {caller : Caller} {line : Line} (locked : state.Locked) (inside : line.inside = true)
    (plain : line.syncs = false ∧ line.publishes = false ∧ line ≠ .build)
    (out : (state.lines caller).inside = false) : (state.take caller line).Locked := by
  unfold take
  split
  · rename_i free
    have holder : ∀ other ∈ state.holder, other = caller := by
      rw [Option.isNone_iff_eq_none.mp free]
      rintro _ ⟨⟩
    have unsynced : (state.lines caller).syncs = false := by
      by_contra syncs
      rw [Line.inside_of_syncs (by simpa using syncs)] at out
      cases out
    have unpublished : (state.lines caller).publishes = false := by
      by_contra publishes
      rw [Line.inside_of_publishes (by simpa using publishes)] at out
      cases out
    apply locked_inside (locked.alone holder) rfl
    · rw [if_pos inside]
      rfl
    · exact fun builds => absurd builds plain.2.2
    · exact locked.first
    · exact fun none' _ => locked.isVacant holder unpublished none'
    · exact Or.inl (locked.isSynced holder unsynced)
  · exact locked

private theorem locked_setLock {caller : Caller} {line : Line} (locked : state.Locked)
    (holder : ∀ other ∈ state.holder, other = caller) (held : state.holder = some caller)
    (unpublished : (state.lines caller).publishes = false)
    (plain : line.publishes = false ∧ line ≠ .build ∧ line.inside = true) : (state.setLock caller line).Locked := by
  have alone := locked.alone holder
  unfold setLock
  split
  · rename_i found shown
    apply locked_inside alone rfl
    · rw [if_pos plain.2.2]
      exact held
    · exact fun builds => absurd builds plain.2.1
    · exact locked.first
    · exact fun none' _ => locked.isVacant holder unpublished none'
    · left
      intro context later current there
      have same : state.process.bind (fun context => state.contexts[context]?) = some later :=
        Option.bind_eq_some_iff.mpr ⟨context,current,there⟩
      obtain rfl := Option.some.inj (shown.symm.trans same)
      rfl
  · rename_i absent
    apply locked_inside alone rfl rfl
    · exact nofun
    · exact locked.first
    · exact fun none' _ => locked.isVacant holder unpublished none'
    · left
      intro context later current there
      have found : state.process.bind (fun context => state.contexts[context]?) = some later :=
        Option.bind_eq_some_iff.mpr ⟨context,current,there⟩
      rw [absent] at found
      cases found

theorem Locked.advance (locked : state.Locked) (sound : state.Sound) (caller : Caller) (outcome : Outcome) :
    (state.advance caller outcome).Locked := by
  have grows := @grows_advance _ _ state caller outcome
  have held : (state.lines caller).inside = true → state.holder = some caller := (locked.mutex caller).mp
  have holder : (state.lines caller).inside = true → ∀ other ∈ state.holder, other = caller :=
    fun inside other held' => Option.some.inj (held'.symm.trans (held inside))
  have synced := fun inside => locked.isSynced (holder inside)
  have vacant := fun inside => locked.isVacant (holder inside)
  unfold State.advance at grows ⊢
  cases at' : state.lines caller with
  | fastTest =>
    simp only [at'] at grows ⊢
    apply locked_outside locked grows sound (by rw [at']; rfl) rfl _ ⟨rfl,rfl,rfl,rfl,rfl⟩
    split_ifs <;> rfl
  | fastReturn =>
    simp only [at'] at grows ⊢
    exact locked_outside locked grows sound (by rw [at']; rfl) rfl rfl ⟨rfl,rfl,rfl,rfl,rfl⟩
  | acquire => exact locked_take locked rfl ⟨rfl,rfl,nofun⟩ (by rw [at']; rfl)
  | installAcquire context => exact locked_take locked rfl ⟨rfl,rfl,nofun⟩ (by rw [at']; rfl)
  | clearAcquire => exact locked_take locked rfl ⟨rfl,rfl,nofun⟩ (by rw [at']; rfl)
  | lockedTest =>
    simp only [at'] at held holder synced vacant ⊢
    cases current : state.process with
    | none =>
      apply locked_inside (locked.alone (holder rfl)) rfl (held rfl)
      · exact fun _ => current
      · exact locked.first
      · exact fun none' _ => vacant rfl rfl none'
      · exact Or.inl (synced rfl rfl)
    | some context =>
      apply locked_inside (locked.alone (holder rfl)) rfl (held rfl)
      · exact nofun
      · exact locked.first
      · exact fun none' _ => vacant rfl rfl none'
      · exact Or.inl (synced rfl rfl)
  | build =>
    have none' := locked.building caller at'
    simp only [at'] at held holder synced vacant ⊢
    cases outcome with
    | builds handles =>
      apply locked_inside (locked.alone (holder rfl)) rfl (held rfl)
      · exact nofun
      · exact Nat.succ_le_succ (vacant rfl rfl none')
      · exact fun _ => nofun
      · exact Or.inl (fun context found current _ => absurd (none'.symm.trans current) nofun)
    | raises left =>
      apply locked_inside (locked.alone (holder rfl)) rfl rfl
      · exact nofun
      · exact locked.first
      · exact fun none' _ => vacant rfl rfl none'
      · exact Or.inl (fun context found current _ => absurd (none'.symm.trans current) nofun)
  | publish context =>
    simp only [at'] at held holder ⊢
    apply locked_inside (locked.alone (holder rfl)) rfl (held rfl)
    · exact nofun
    · exact locked.first
    · exact nofun
    · exact Or.inr rfl
  | install context =>
    simp only [at'] at held holder ⊢
    apply locked_inside (locked.alone (holder rfl)) rfl (held rfl)
    · exact nofun
    · exact locked.first
    · exact nofun
    · exact Or.inr rfl
  | setSessionLock =>
    simp only [at'] at held holder ⊢
    exact locked_setLock locked (holder rfl) (held rfl) (by rw [at']; rfl) ⟨rfl,nofun,rfl⟩
  | installLock previous =>
    simp only [at'] at held holder ⊢
    exact locked_setLock locked (holder rfl) (held rfl) (by rw [at']; rfl) ⟨rfl,nofun,rfl⟩
  | lockedReturn =>
    simp only [at'] at held holder synced vacant ⊢
    apply locked_inside (locked.alone (holder rfl)) rfl rfl
    · exact nofun
    · exact locked.first
    · exact fun none' _ => vacant rfl rfl none'
    · exact Or.inl (synced rfl rfl)
  | installReturn previous =>
    simp only [at'] at held holder synced vacant ⊢
    apply locked_inside (locked.alone (holder rfl)) rfl rfl
    · exact nofun
    · exact locked.first
    · exact fun none' _ => vacant rfl rfl none'
    · exact Or.inl (synced rfl rfl)
  | clear =>
    simp only [at'] at held holder ⊢
    apply locked_inside (locked.alone (holder rfl)) rfl rfl
    · exact nofun
    · exact Nat.le_succ_of_le locked.first
    · exact fun _ _ => locked.first
    · exact Or.inl nofun
  | graphTest context =>
    simp only [at'] at grows ⊢
    apply locked_outside locked grows sound (by rw [at']; rfl) rfl _ ⟨rfl,rfl,rfl,rfl,rfl⟩
    split_ifs <;> rfl
  | compile context =>
    simp only [at'] at grows ⊢
    revert grows
    split <;> intro grows
    · exact locked_outside locked grows sound (by rw [at']; rfl) rfl rfl ⟨rfl,rfl,rfl,rfl,rfl⟩
    · exact locked
  | assign context graph =>
    simp only [at'] at grows ⊢
    exact locked_outside locked grows sound (by rw [at']; rfl) rfl rfl ⟨rfl,rfl,rfl,rfl,rfl⟩
  | graphReturn context =>
    simp only [at'] at grows ⊢
    exact locked_outside locked grows sound (by rw [at']; rfl) rfl rfl ⟨rfl,rfl,rfl,rfl,rfl⟩
  | _ => exact locked

theorem Locked.start (locked : state.Locked) (sound : state.Sound) {caller : Caller} (call : Call)
    (rests : (state.lines caller).atRest = true) : (state.start caller call).Locked := by
  have out : (state.lines caller).inside = false := by
    cases at' : state.lines caller <;> first | rfl | (rw [at'] at rests; cases rests)
  cases call with
  | get => exact locked_outside locked (grows_start caller .get) sound out rfl rfl ⟨rfl,rfl,rfl,rfl,rfl⟩
  | install handles =>
    exact locked_outside locked (grows_start caller (.install handles)) sound out rfl rfl ⟨rfl,rfl,rfl,rfl,rfl⟩
  | clear => exact locked_outside locked (grows_start caller .clear) sound out rfl rfl ⟨rfl,rfl,rfl,rfl,rfl⟩
  | graph =>
    have grows := @grows_start _ _ state caller .graph
    revert grows
    unfold State.start
    dsimp only
    split <;> intro grows
    · exact locked_outside locked grows sound out rfl rfl ⟨rfl,rfl,rfl,rfl,rfl⟩
    · exact locked_outside locked grows sound out rfl rfl ⟨rfl,rfl,rfl,rfl,rfl⟩
    · exact locked

private theorem kept_step (state : State Caller) (action : Action Caller) (kept : state.Sound ∧ state.Locked) :
    (state.step action).Sound ∧ (state.step action).Locked := by
  obtain ⟨sound,locked⟩ := kept
  cases action with
  | start caller call =>
    unfold step
    dsimp only
    split
    · rename_i rests
      exact ⟨sound.start call,locked.start sound call rests⟩
    · exact ⟨sound,locked⟩
  | advance caller outcome => exact ⟨sound.advance caller outcome,locked.advance sound caller outcome⟩

omit [DecidableEq Caller] in
theorem kept_initial : (initial : State Caller).Sound ∧ (initial : State Caller).Locked := by
  refine ⟨⟨fun _ => trivial,nofun,?_,rfl⟩,⟨?_,nofun,Nat.zero_le _,?_,?_⟩⟩
  · exact nofun
  · exact fun _ => ⟨nofun,nofun⟩
  · exact fun _ _ => Nat.le_refl _
  · exact Or.inl nofun

end State

/-- Whatever the callers do, and in whatever order their lines are run, a context is built at most once
until it is dropped; as long as none is dropped every fetch gives a context, and when none is installed
either they all give the same one. A graph that is got is compiled of its context's own handles, and while
nobody holds the lock the session lock is that of the context. -/
theorem one_context (actions : List (Action Caller)) :
    let state : State Caller := run State.step initial actions
    state.built ≤ state.cleared + 1 ∧
      (state.cleared = 0 → ∀ caller, state.lines caller ≠ .returned none) ∧
      (state.cleared = 0 → state.offered = 0 → ∀ first second one two, state.lines first = .returned one →
        state.lines second = .returned two → one = two) ∧
      (∀ caller context result, state.lines caller = .graphReturned context result →
        ∃ found, state.contexts[context]? = some found ∧ result = some (buildGraph found)) ∧
      (state.holder = none → state.Synced) := by
  intro state
  obtain ⟨sound,locked⟩ := run_invariant State.kept_step State.kept_initial actions
  have given (none' : state.cleared = 0) {caller : Caller} {result : Option Nat}
      (returned : state.lines caller = .returned result) :
      ∃ context, result = some context ∧ context < state.contexts.length := by
    have fits := sound.fits caller
    rw [returned] at fits
    obtain ⟨context,got⟩ := Option.ne_none_iff_exists'.mp (fits.1 none')
    exact ⟨context,got,fits.2 context got⟩
  refine ⟨locked.first,?_,?_,?_,?_⟩
  · intro none' caller returned
    obtain ⟨context,got,_⟩ := given none' returned
    cases got
  · intro none' offered first second one two here there
    obtain ⟨context,rfl,low⟩ := given none' here
    obtain ⟨other,rfl,low'⟩ := given none' there
    have few : state.built ≤ state.cleared + 1 := locked.first
    have count : state.contexts.length = state.built + state.offered := sound.count
    congr 1
    omega
  · intro caller context result returned
    have fits := sound.fits caller
    rw [returned] at fits
    exact fits
  · intro free
    rcases locked.synced with now | ⟨caller,later⟩
    · exact now
    · have held := (locked.mutex caller).mp (Line.inside_of_syncs later)
      rw [free] at held
      cases held

end CustomerService.AppContext
