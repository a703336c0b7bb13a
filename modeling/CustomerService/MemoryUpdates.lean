import CustomerService.MemoryCalls
import Mathlib.Data.List.Perm.Subperm

/-! What becomes of the order numbers and the course names that the calls save: each list
keeps the latest `MAX_RECENT`. -/
namespace CustomerService.MemoryUpdates
open Text LongTermMemory MemoryCalls Transition

/-- One of the two lists of the profile, with what a save adds to it. -/
structure Recent where
  saved : SaveArgs → Option Text
  items : UserMemory → List Text
  saved_ne : ∀ args value, saved args = some value → value ≠ []
  items_blank : items blank = []
  items_merge : ∀ memory args now, items (toValue (merge memory args now)) =
    (remember (items memory) (saved args)).take MAX_RECENT

def recentOrders : Recent where
  saved := SaveArgs.order
  items := UserMemory.recentOrderNos
  saved_ne := fun _ _ => order_ne
  items_blank := rfl
  items_merge := fun _ _ _ => rfl

def recentCourses : Recent where
  saved := SaveArgs.course
  items := UserMemory.recentCourseNames
  saved_ne := fun _ _ => course_ne
  items_blank := rfl
  items_merge := fun _ _ _ => rfl

variable (recent : Recent)

def value (call : Call) : Option Text := call.saves.bind (fun saved => recent.saved saved.1)

def Saved (world : World) (text : Text) : Prop := ∃ call ∈ world.calls, value recent call = some text

/-- At most `MAX_RECENT` distinct values are saved. -/
def Fits (world : World) : Prop :=
  ∀ values : List Text, values.Nodup → (∀ text ∈ values, Saved recent world text) →
    values.length ≤ MAX_RECENT

/-- What is saved is in the row, and in the hot copy while there is one. -/
def Kept (world : World) : Prop :=
  ∀ text, Saved recent world text →
    ∃ row, world.stores.cold = some row ∧ text ∈ recent.items row ∧
      ∀ copy, world.stores.hot = some copy → text ∈ recent.items copy

/-- The list of the row starts with values that were saved, those of finished calls among them. -/
structure Recalls (world : World) (news : List Text) : Prop where
  nodup : news.Nodup
  front : news <+: recent.items (world.stores.cold.getD blank)
  passed : ∀ text ∈ news, Saved recent world text
  kept : ∀ call ∈ world.calls, call.phase = .done → ∀ text, value recent call = some text →
    text ∈ news

variable {recent}

private theorem nodup_front {news : List Text} (nodup : news.Nodup) (text : Text) :
    (text::news.filter (fun item => item ≠ text)).Nodup :=
  List.nodup_cons.mpr ⟨fun inside => by simpa using List.of_mem_filter inside,nodup.filter _⟩

private theorem remember_front {world : World} {news : List Text} (recalls : Recalls recent world news)
    (fits : Fits recent world) {call : Call} (listed : call ∈ world.calls) {args : SaveArgs}
    {now : Text} (saves : call.saves = some (args,now)) :
    ∃ news', news'.Nodup ∧
      news' <+: (remember (recent.items (world.stores.cold.getD blank)) (recent.saved args)).take MAX_RECENT ∧
      ∀ text, text ∈ news' ↔ recent.saved args = some text ∨ text ∈ news := by
  have valued : value recent call = recent.saved args := by rw [value,saves]; rfl
  cases saved : recent.saved args with
  | none =>
    refine ⟨news,recalls.nodup,?_,fun text => by simp⟩
    exact List.prefix_take_iff.mpr ⟨recalls.front,fits news recalls.nodup recalls.passed⟩
  | some text =>
    refine ⟨text::news.filter (fun item => item ≠ text),nodup_front recalls.nodup text,?_,?_⟩
    · rw [remember,prependUnique,if_neg (recent.saved_ne args text saved),List.take_take,Nat.min_self]
      apply List.prefix_take_iff.mpr
      constructor
      · exact List.cons_prefix_cons.mpr ⟨rfl,recalls.front.filter _⟩
      · apply fits _ (nodup_front recalls.nodup text)
        intro other inside
        rcases List.mem_cons.mp inside with rfl | old
        · exact ⟨call,listed,valued.trans saved⟩
        · exact recalls.passed other (List.mem_of_mem_filter old)
    · intro other
      by_cases same : other = text
      · simp [same]
      · simp [same,Ne.symm same]

/-! Saves that keep apart. -/

/-- A row is written back only while it is fresh, and a save puts and upserts only while no
other save is between its read and its upsert. -/
def Phase.Apart (world : World) (index : Nat) : Phase → Prop
  | .found archived => world.Fresh archived
  | .loaded _ | .stored _ => ∀ call ∈ world.calls.eraseIdx index, call.updating = false
  | _ => True

instance (world : World) (index : Nat) : DecidablePred (Phase.Apart world index)
  | .found archived => inferInstanceAs (Decidable (world.Fresh archived))
  | .loaded _ | .stored _ => inferInstanceAs (Decidable (∀ _ ∈ _, _))
  | .started | .missed | .done => .isTrue trivial

def Apart (world : World) : Action → Prop
  | .advance index => ∀ call ∈ world.calls[index]?, Phase.Apart world index call.phase
  | _ => True

instance (world : World) : DecidablePred (Apart world)
  | .call _ => .isTrue trivial
  | .advance _ => inferInstanceAs (Decidable (∀ _ ∈ _, _))
  | .expire => .isTrue trivial

variable {world : World}

theorem Apart.uncrossed (world : World) (action : Action) (apart : Apart world action) :
    Uncrossed world action := by
  cases action with
  | call saves => trivial
  | expire => trivial
  | advance index =>
    intro call here
    have apart := apart call here
    cases phase : call.phase with
    | found archived =>
      rw [phase] at apart
      exact apart
    | stored value =>
      rw [phase] at apart
      exact fun _ other listed => Call.storing_of_updating (apart other listed)
    | started => trivial
    | missed => trivial
    | loaded current => trivial
    | done => trivial

/-- What a save goes by: a profile that has been read is that of the row, unless a save is
about to replace the row, which then has to wait. -/
structure Based (world : World) : Prop where
  loaded : (∀ call ∈ world.calls, call.storing = false) →
    ∀ call ∈ world.calls, ∀ current, call.phase = .loaded current →
      current = world.stores.cold.getD blank
  stored : ∀ call ∈ world.calls, ∀ value, call.phase = .stored value →
    ∃ args now, call.saves = some (args,now) ∧
      value = toValue (merge (world.stores.cold.getD blank) args now)

theorem Based.start (stores : Stores) : Based (World.start stores) where
  loaded := by
    intro _ call listed
    cases listed
  stored := by
    intro call listed
    cases listed

theorem Based.called (based : Based world) (saves : Option (SaveArgs × Text)) :
    Based (step world (.call saves)) where
  loaded := by
    intro free call listed current phase
    rcases mem_called listed with old | started
    · exact based.loaded (fun other member => free other (List.mem_append_left _ member)) call old
        current phase
    · cases started.symm.trans phase
  stored := by
    intro call listed value phase
    rcases mem_called listed with old | started
    · exact based.stored call old value phase
    · cases started.symm.trans phase

theorem Based.expire (based : Based world) : Based (step world .expire) where
  loaded := based.loaded
  stored := based.stored

variable {index : Nat} {call call' : Call}

theorem Based.reads (based : Based world) (sound : world.Sound) (here : world.calls[index]? = some call)
    (idle : call.storing = false) (idle' : call'.storing = false)
    (loaded : ∀ current, call'.phase = .loaded current →
      (∃ value, world.stores.hot = some value ∧ current = fromValue value) ∨
        world.stores.cold = none ∧ current = blank) :
    Based ⟨world.stores,world.calls.set index call'⟩ where
  loaded := by
    intro free' other member current phase
    have free : ∀ one ∈ world.calls, one.storing = false := by
      intro one old
      by_cases same : one = call
      · exact same ▸ idle
      · exact free' one (mem_set_other here old same)
    rcases mem_set_cases member with rfl | old
    · rcases loaded current phase with ⟨value,hot,rfl⟩ | ⟨cold,rfl⟩
      · have cold := sound.hot_of_free free hot
        rw [(sound.settled value cold).from_value]
        dsimp only
        rw [cold]
        rfl
      · dsimp only
        rw [cold]
        rfl
    · exact based.loaded free other (List.mem_of_mem_eraseIdx old) current phase
  stored := by
    intro other member value phase
    rcases mem_set_cases member with rfl | old
    · exact absurd phase (Call.not_storing_iff.mp idle' value)
    · exact based.stored other (List.mem_of_mem_eraseIdx old) value phase

theorem Based.writesBack (based : Based world) (sound : world.Sound) {archived : UserMemory}
    (fresh : world.Fresh archived) {hot : Option UserMemory} :
    Based ⟨{world.stores with hot := hot},
      world.calls.set index (call.withProfile (fromValue archived))⟩ where
  loaded := by
    intro _ other member current loaded
    rcases mem_set_cases member with rfl | old
    · rw [Call.withProfile_loaded loaded,(sound.settled archived fresh.1).from_value]
      dsimp only
      rw [fresh.1]
      rfl
    · exact based.loaded fresh.2 other (List.mem_of_mem_eraseIdx old) current loaded
  stored := by
    intro other member value stored
    rcases mem_set_cases member with rfl | old
    · exact absurd stored (Call.not_storing_iff.mp (call.withProfile_storing _) value)
    · exact based.stored other (List.mem_of_mem_eraseIdx old) value stored

theorem Based.puts (based : Based world) (here : world.calls[index]? = some call)
    {current : UserMemory} {args : SaveArgs} {now : Text} (phase : call.phase = .loaded current)
    (saves : call.saves = some (args,now))
    (apart : ∀ other ∈ world.calls.eraseIdx index, other.updating = false)
    {hot : Option UserMemory} :
    Based ⟨{world.stores with hot := hot},
      world.calls.set index {call with phase := .stored (toValue (merge current args now))}⟩ where
  loaded := by
    intro none
    have inside := (List.getElem?_eq_some_iff.mp here).1
    exact absurd rfl (Call.not_storing_iff.mp (none _ (List.mem_set inside _)) _)
  stored := by
    intro other member value stored
    rcases mem_set_cases member with rfl | old
    · have free : ∀ one ∈ world.calls, one.storing = false := by
        intro one listed
        rcases mem_cases here listed with rfl | old
        · rw [Call.storing,phase]
        · exact Call.storing_of_updating (apart one old)
      refine ⟨args,now,saves,?_⟩
      rw [← Phase.stored.inj stored,
        based.loaded free call (List.mem_of_getElem? here) current phase]
    · exact based.stored other (List.mem_of_mem_eraseIdx old) value stored

theorem Based.upserts (apart : ∀ other ∈ world.calls.eraseIdx index, other.updating = false)
    {stores : Stores} : Based ⟨stores,world.calls.set index {call with phase := .done}⟩ where
  loaded := by
    intro _ other member current loaded
    rcases mem_set_cases member with rfl | old
    · cases loaded
    · have idle := apart other old
      rw [Call.updating,loaded] at idle
      cases idle
  stored := by
    intro other member value stored
    rcases mem_set_cases member with rfl | old
    · cases stored
    · have idle := apart other old
      rw [Call.updating,stored] at idle
      cases idle

theorem Based.advance (based : Based world) (sound : world.Sound)
    (apart : Apart world (.advance index)) : Based (step world (.advance index)) := by
  unfold MemoryCalls.step
  dsimp only
  cases here : world.calls[index]? with
  | none => exact based
  | some call =>
    have apart := apart call here
    dsimp only
    have move := call.advance_move world.stores
    generalize call.advance world.stores = advanced at move ⊢
    cases move with
    | reads _ idle idle' loaded _ => exact based.reads sound here idle idle' loaded
    | writesBack phase =>
      rw [phase] at apart
      exact based.writesBack sound apart
    | puts phase saves =>
      rw [phase] at apart
      exact based.puts here phase saves apart
    | upserts phase =>
      rw [phase] at apart
      exact Based.upserts apart

/-! Steps. -/

theorem Saved.step {text : Text} (saved : Saved recent world text) (action : Action) :
    Saved recent (step world action) text := by
  obtain ⟨call,listed,saved⟩ := saved
  cases action with
  | call saves => exact ⟨call,List.mem_append_left _ listed,saved⟩
  | expire => exact ⟨call,listed,saved⟩
  | advance index =>
    unfold MemoryCalls.step
    dsimp only
    cases here : world.calls[index]? with
    | none => exact ⟨call,listed,saved⟩
    | some one =>
      obtain ⟨place,found⟩ := List.mem_iff_getElem?.mp listed
      by_cases same : place = index
      · subst same
        cases here.symm.trans found
        refine ⟨_,List.mem_set (List.getElem?_eq_some_iff.mp here).1 _,?_⟩
        rw [value,(Call.advance_move world.stores _).saves_eq]
        exact saved
      · refine ⟨call,List.mem_iff_getElem?.mpr ⟨place,?_⟩,saved⟩
        rwa [List.getElem?_set_ne (Ne.symm same)]

theorem Fits.before {action : Action} (fits : Fits recent (step world action)) : Fits recent world :=
  fun values nodup passed => fits values nodup (fun text inside => (passed text inside).step action)

variable {news : List Text}

theorem Recalls.called (recalls : Recalls recent world news) (saves : Option (SaveArgs × Text)) :
    Recalls recent (step world (.call saves)) news where
  nodup := recalls.nodup
  front := recalls.front
  passed := fun text inside => (recalls.passed text inside).step _
  kept := by
    intro call listed done text saved
    rcases mem_called listed with old | started
    · exact recalls.kept call old done text saved
    · cases started.symm.trans done

theorem Recalls.expire (recalls : Recalls recent world news) :
    Recalls recent (step world .expire) news where
  nodup := recalls.nodup
  front := recalls.front
  passed := recalls.passed
  kept := recalls.kept

theorem Recalls.advance (recalls : Recalls recent world news) (based : Based world)
    (fits : Fits recent world) (index : Nat) :
    ∃ news', Recalls recent (step world (.advance index)) news' := by
  have passed (text : Text) (saved : Saved recent world text) := saved.step (.advance index)
  unfold MemoryCalls.step at passed ⊢
  dsimp only at passed ⊢
  cases here : world.calls[index]? with
  | none => exact ⟨news,recalls⟩
  | some call =>
    rw [here] at passed
    dsimp only at passed ⊢
    have listed := List.mem_of_getElem? here
    have move := call.advance_move world.stores
    generalize call.advance world.stores = advanced at move passed ⊢
    -- the row only changes with an upsert
    have same (cold : advanced.1.cold = world.stores.cold)
        (done : advanced.2.phase = .done → call.phase = .done ∨ call.saves = none) :
        Recalls recent ⟨advanced.1,world.calls.set index advanced.2⟩ news := by
      refine ⟨recalls.nodup,?_,fun text inside => passed text (recalls.passed text inside),?_⟩
      · dsimp only
        rw [cold]
        exact recalls.front
      · intro other member ended text saved
        rcases mem_set_cases member with rfl | old
        · rw [value,move.saves_eq] at saved
          rcases done ended with before | load
          · exact recalls.kept call listed before text saved
          · rw [load] at saved
            cases saved
        · exact recalls.kept other (List.mem_of_mem_eraseIdx old) ended text saved
    cases move with
    | reads _ _ _ _ done => exact ⟨news,same rfl done⟩
    | writesBack => exact ⟨news,same rfl (fun done => Or.inr (Call.withProfile_done done))⟩
    | puts => exact ⟨news,same rfl (fun done => by cases done)⟩
    | upserts phase =>
      obtain ⟨args,now,saves,rfl⟩ := based.stored call listed _ phase
      obtain ⟨news',nodup,front,members⟩ := remember_front recalls fits listed saves
      refine ⟨news',nodup,?_,?_,?_⟩
      · dsimp only
        rw [Option.getD_some,recent.items_merge]
        exact front
      · intro text inside
        apply passed
        rcases (members text).mp inside with saved | old
        · exact ⟨call,listed,by rw [value,saves]; exact saved⟩
        · exact recalls.passed text old
      · intro other member done text saved
        apply (members text).mpr
        rcases mem_set_cases member with rfl | old
        · exact Or.inl (by simpa [value,saves] using saved)
        · exact Or.inr (recalls.kept other (List.mem_of_mem_eraseIdx old) done text saved)

/-! Runs. -/

variable (recent) in
/-- What holds all along a run of saves that keep apart. -/
structure Carries (world : World) : Prop where
  sound : world.Sound
  based : Based world
  recalls : Fits recent world → ∃ news, Recalls recent world news

theorem Carries.start {start : Stores} (agree : Agree start) :
    Carries recent (World.start start) where
  sound := .start agree
  based := .start start
  recalls := by
    refine fun _ => ⟨[],List.nodup_nil,List.nil_prefix,?_,?_⟩
    · intro text inside
      cases inside
    · intro call listed
      cases listed

theorem Carries.step (world : World) (action : Action) (carries : Carries recent world)
    (apart : Apart world action) : Carries recent (step world action) where
  sound := World.Sound.step world action carries.sound (apart.uncrossed world action)
  based := by
    cases action with
    | call saves => exact carries.based.called saves
    | advance index => exact carries.based.advance carries.sound apart
    | expire => exact carries.based.expire
  recalls := by
    intro fits
    obtain ⟨news,recalls⟩ := carries.recalls fits.before
    cases action with
    | call saves => exact ⟨news,recalls.called saves⟩
    | advance index => exact recalls.advance carries.based fits.before index
    | expire => exact ⟨news,recalls.expire⟩

theorem Carries.kept (carries : Carries recent world) (quiet : world.Quiet)
    (fits : Fits recent world) : Kept recent world := by
  obtain ⟨news,recalls⟩ := carries.recalls fits
  intro text saved
  obtain ⟨call,listed,passed⟩ := saved
  have inside := recalls.front.subset (recalls.kept call listed (quiet call listed) text passed)
  cases cold : world.stores.cold with
  | none =>
    rw [cold,Option.getD_none,recent.items_blank] at inside
    cases inside
  | some row =>
    rw [cold] at inside
    refine ⟨row,rfl,inside,fun copy hot => ?_⟩
    have same := carries.sound.hot_of_free quiet.not_storing hot
    rw [cold] at same
    cases same
    exact inside

/-- When the saves keep apart, no order number and no course name that was saved is lost, as
long as they fit. -/
theorem no_save_lost {start : Stores} (agree : Agree start) {actions : List Action}
    (apart : Along step Apart (World.start start) actions)
    (quiet : (run step (World.start start) actions).Quiet) :
    (Fits recentOrders (run step (World.start start) actions) →
        Kept recentOrders (run step (World.start start) actions)) ∧
      (Fits recentCourses (run step (World.start start) actions) →
        Kept recentCourses (run step (World.start start) actions)) := by
  have carries (recent : Recent) : Carries recent (run step (World.start start) actions) :=
    (Throughout.of_along Carries.step (.start agree) apart).last
  constructor
  · exact (carries recentOrders).kept quiet
  · exact (carries recentCourses).kept quiet

private theorem fits_of_calls (few : world.calls.length ≤ MAX_RECENT) : Fits recent world := by
  intro values nodup saved
  have inside : values ⊆ world.calls.filterMap (value recent) := by
    intro text member
    exact List.mem_filterMap.mpr (saved text member)
  calc values.length ≤ (world.calls.filterMap (value recent)).length :=
        (List.Nodup.subperm nodup inside).length_le
    _ ≤ world.calls.length := List.length_filterMap_le _ _
    _ ≤ MAX_RECENT := few

theorem no_save_lost_in_turn : Kept recentOrders (run step (World.start newUser) savesInTurn) :=
  (no_save_lost newUser_agree (by decide +kernel) (by decide +kernel)).1
    (fits_of_calls (by decide +kernel))

theorem save_lost : ¬∀ start, Agree start → ∀ actions, (run step (World.start start) actions).Quiet →
    (Fits recentOrders (run step (World.start start) actions) →
        Kept recentOrders (run step (World.start start) actions)) ∧
      (Fits recentCourses (run step (World.start start) actions) →
        Kept recentCourses (run step (World.start start) actions)) := by
  intro keeps
  have kept := (keeps newUser newUser_agree savesAcross (by decide +kernel)).1
    (fits_of_calls (by decide +kernel))
  have saved : Saved recentOrders (run step (World.start newUser) savesAcross) "20251114002".toList :=
    ⟨⟨saveOrder "20251114002",.done⟩,by decide +kernel,by decide +kernel⟩
  obtain ⟨row,cold,inside,_⟩ := kept _ saved
  have missing : (run step (World.start newUser) savesAcross).stores.cold.any
      (fun row => row.recentOrderNos.contains "20251114002".toList) = false := by
    decide +kernel
  rw [cold,Option.any_some,List.contains_eq_mem,decide_eq_false_iff_not] at missing
  exact missing inside

end CustomerService.MemoryUpdates
