import CustomerService.CheckpointRefinement

/-! Concurrent `aput` and `aput_writes` calls on one thread of one instance. A call
is suspended at the GET of `_aload` and at the SET of `_apersist`; what lies
between runs without interruption, on an in-memory saver the calls share. -/
namespace CustomerService.CheckpointSaver

variable {Version Blob Content Tuple : Type} [DecidableEq Version]

/-! What the entry of a thread has to keep of the completed operations. -/
namespace Slice

variable {lib : InMemorySaver Version Blob Content Tuple} {slice : Slice Version Blob}

/-- The namespace has a latest checkpoint, at least as new as the id. -/
def Covers (slice : Slice Version Blob) (ns id : String) : Prop :=
  ∃ latest, slice.Latest ns latest ∧ id ≤ latest

omit [DecidableEq Version] in
theorem Covers.latest {after : Slice Version Blob} {ns id : String} (covers : slice.Covers ns id)
    (kept : ∀ other, (slice.checkpoint ns other).isSome = true →
      (after.checkpoint ns other).isSome = true)
    (newest : after.Latest ns id) : slice.Latest ns id := by
  obtain ⟨latest,top,below⟩ := covers
  have same : id = latest := le_antisymm below (newest.2 latest (kept latest top.1))
  exact same ▸ top

structure Retains (lib : InMemorySaver Version Blob Content Tuple)
    (completed : Request Version Content → Prop) (slice : Slice Version Blob) : Prop where
  latest : ∀ args, completed (.put args) → slice.Covers args.ns args.id
  source : ∀ ns id saved, slice.checkpoint ns id = some saved →
    ∃ args, completed (.put args) ∧ args.ns = ns ∧ args.id = id ∧ lib.saved args = saved
  blobs : ∀ args, completed (.put args) → slice.Latest args.ns args.id →
    ∀ pair ∈ args.newVersions, pair ∈ args.channelVersions →
      (slice.blob args.ns pair.1 pair.2).isSome = true
  target : ∀ args, completed (.putWrites args) → slice.Covers args.ns args.checkpointId
  recorded : ∀ args, completed (.putWrites args) → slice.Latest args.ns args.checkpointId →
    ∀ entry ∈ lib.writesOf args,
      ((slice.pending args.ns args.checkpointId).get? entry.1).isSome = true
  given : ∀ ns id key write, (slice.pending ns id).get? key = some write →
    ∃ args, completed (.putWrites args) ∧ args.ns = ns ∧ args.checkpointId = id ∧
      (key,write) ∈ lib.writesOf args

variable {completed : Request Version Content → Prop}

omit [DecidableEq Version] in
theorem Retains.exists_latest (retains : slice.Retains lib completed) {ns id : String}
    (stored : (slice.checkpoint ns id).isSome = true) : ∃ latest, slice.Latest ns latest := by
  obtain ⟨saved,found⟩ := Option.isSome_iff_exists.mp stored
  obtain ⟨args,done,rfl,_⟩ := retains.source ns id saved found
  obtain ⟨latest,top,_⟩ := retains.latest args done
  exact ⟨latest,top⟩

private theorem put_stored (args : PutArgs Version Content) (ns id : String)
    (stored : (slice.checkpoint ns id).isSome = true) :
    ((slice.put lib args).checkpoint ns id).isSome = true := by
  simp only [put]
  split_ifs
  · rfl
  · exact stored

theorem Retains.put_top (retains : slice.Retains lib completed) (args : PutArgs Version Content) :
    ∃ top, (slice.put lib args).Latest args.ns top ∧ args.id ≤ top ∧
      ∀ latest, slice.Latest args.ns latest → latest ≤ top := by
  have here : ((slice.put lib args).checkpoint args.ns args.id).isSome = true := by simp [put]
  have split (other : String)
      (found : ((slice.put lib args).checkpoint args.ns other).isSome = true) :
      other = args.id ∨ (slice.checkpoint args.ns other).isSome = true := by
    by_cases same : other = args.id
    · exact Or.inl same
    · exact Or.inr (by simpa [put,same] using found)
  by_cases older : ∃ latest, slice.Latest args.ns latest ∧ args.id < latest
  · obtain ⟨latest,top,below⟩ := older
    refine ⟨latest,⟨put_stored args _ _ top.1,fun other found => ?_⟩,below.le,
      fun other newest => (newest.unique top).le⟩
    rcases split other found with rfl | stored
    · exact below.le
    · exact top.2 other stored
  · have above (latest : String) (top : slice.Latest args.ns latest) : latest ≤ args.id :=
      not_lt.mp (fun below => older ⟨latest,top,below⟩)
    refine ⟨args.id,⟨here,fun other found => ?_⟩,le_rfl,above⟩
    rcases split other found with rfl | stored
    · exact le_rfl
    · obtain ⟨latest,top⟩ := retains.exists_latest stored
      exact (top.2 other stored).trans (above latest top)

theorem Retains.put_covers (retains : slice.Retains lib completed)
    (args : PutArgs Version Content) {ns id : String} (covers : slice.Covers ns id) :
    (slice.put lib args).Covers ns id := by
  obtain ⟨latest,newest,below⟩ := covers
  by_cases same : ns = args.ns
  · subst same
    obtain ⟨top,highest,_,above⟩ := retains.put_top args
    exact ⟨top,highest,below.trans (above latest newest)⟩
  · exact ⟨latest,(Latest.congr (fun id => by simp [put,same]) latest).mpr newest,below⟩

theorem Retains.put (retains : slice.Retains lib completed) (args : PutArgs Version Content) :
    (slice.put lib args).Retains lib (fun request => completed request ∨ request = .put args) := by
  constructor
  · rintro other (done | now)
    · exact retains.put_covers args (retains.latest other done)
    · cases now
      obtain ⟨top,highest,above,_⟩ := retains.put_top args
      exact ⟨top,highest,above⟩
  · intro ns id saved stored
    by_cases here : ns = args.ns ∧ id = args.id
    · exact ⟨args,Or.inr rfl,here.1.symm,here.2.symm,by simpa [Slice.put,here] using stored⟩
    · simp only [Slice.put,here,if_false] at stored
      obtain ⟨other,done,rest⟩ := retains.source ns id saved stored
      exact ⟨other,Or.inl done,rest⟩
  · rintro other done newest pair new listed
    by_cases written : other.ns = args.ns ∧ pair ∈ args.newVersions
    · simp [Slice.put,written]
    · have earlier : completed (.put other) := by
        rcases done with done | now
        · exact done
        · cases now
          exact absurd ⟨rfl,new⟩ written
      have before := (retains.latest other earlier).latest (put_stored args other.ns) newest
      simpa [Slice.put,written] using retains.blobs other earlier before pair new listed
  · rintro other (done | now)
    · exact retains.put_covers args (retains.target other done)
    · cases now
  · rintro other (done | now) newest
    · exact retains.recorded other done
        ((retains.target other done).latest (put_stored args other.ns) newest)
    · cases now
  · intro ns id key write found
    obtain ⟨other,done,rest⟩ := retains.given ns id key write found
    exact ⟨other,Or.inl done,rest⟩

theorem Retains.putWrites (documented : Documented lib) (retains : slice.Retains lib completed)
    {args : WritesArgs Content} (target : slice.Covers args.ns args.checkpointId) :
    (slice.putWrites lib args).Retains lib
      (fun request => completed request ∨ request = .putWrites args) := by
  constructor
  · rintro other (done | now)
    · exact retains.latest other done
    · cases now
  · intro ns id saved stored
    obtain ⟨other,done,rest⟩ := retains.source ns id saved stored
    exact ⟨other,Or.inl done,rest⟩
  · rintro other (done | now)
    · exact retains.blobs other done
    · cases now
  · rintro other (done | now)
    · exact retains.target other done
    · cases now
      exact target
  · rintro other done newest entry listed
    by_cases here : other.ns = args.ns ∧ other.checkpointId = args.checkpointId
    · simp only [Slice.putWrites,here,and_self,if_true]
      rcases done with done | now
      · have before := retains.recorded other done newest entry listed
        rw [here.1,here.2] at before
        exact documented.writes_kept args _ entry.1 before
      · cases now
        exact documented.writes_recorded args _ entry listed
    · simp only [Slice.putWrites,here,if_false]
      rcases done with done | now
      · exact retains.recorded other done newest entry listed
      · cases now
        exact absurd ⟨rfl,rfl⟩ here
  · intro ns id key write found
    by_cases here : ns = args.ns ∧ id = args.checkpointId
    · simp only [Slice.putWrites,here,and_self,if_true] at found
      rcases documented.writes_given args _ key write found with before | now
      · obtain ⟨other,done,rest⟩ := retains.given args.ns args.checkpointId key write before
        exact ⟨other,Or.inl done,by rw [here.1,here.2]; exact rest⟩
      · exact ⟨args,Or.inr rfl,here.1.symm,here.2.symm,now⟩
    · simp only [Slice.putWrites,here,if_false] at found
      obtain ⟨other,done,rest⟩ := retains.given ns id key write found
      exact ⟨other,Or.inl done,rest⟩

theorem Retains.pruned (documented : Documented lib) (retains : slice.Retains lib completed)
    (distinct : ∀ first second, completed (.put first) → completed (.put second) →
      first.ns = second.ns → first.id = second.id → first = second) :
    (slice.pruned lib.channelVersions).Retains lib completed := by
  have covers {ns id : String} (covers : slice.Covers ns id) :
      (slice.pruned lib.channelVersions).Covers ns id := by
    obtain ⟨latest,newest,below⟩ := covers
    exact ⟨latest,pruned_latest.mpr newest,below⟩
  constructor
  · exact fun args done => covers (retains.latest args done)
  · intro ns id saved stored
    have newest : slice.Latest ns id := pruned_isSome.mp (Option.isSome_of_eq_some stored)
    exact retains.source ns id saved ((pruned_checkpoint newest).symm.trans stored)
  · intro args done newest pair new listed
    have newest' := pruned_latest.mp newest
    obtain ⟨saved,stored⟩ := Option.isSome_iff_exists.mp newest'.1
    obtain ⟨other,earlier,ns,id,rfl⟩ := retains.source _ _ _ stored
    have same := distinct other args earlier done ns id
    have referenced : slice.References lib.channelVersions args.ns pair.1 pair.2 :=
      ⟨args.id,_,args.channelVersions,newest',stored,same ▸ documented.saved_versions other,listed⟩
    rw [pruned_blob referenced]
    exact retains.blobs args done newest' pair new listed
  · exact fun args done => covers (retains.target args done)
  · intro args done newest entry listed
    have newest' := pruned_latest.mp newest
    rw [pruned_pending newest']
    exact retains.recorded args done newest' entry listed
  · intro ns id key write found
    by_cases newest : slice.Latest ns id
    · rw [pruned_pending newest] at found
      exact retains.given ns id key write found
    · have nothing : (slice.pruned lib.channelVersions).pending ns id = ∅ := if_neg newest
      rw [nothing] at found
      cases found

end Slice

/-- Where a call is: not started, suspended at its GET's answer, suspended at its
SET, about to evict, returned. The local variables of the coroutine go along. -/
inductive Phase (Version Content : Type)
  | idle
  | reading (request : Request Version Content) (raw : Option Bytes)
  | writing (request : Request Version Content) (raw entry : Option Bytes)
  | written (request : Request Version Content)
  | returned (request : Request Version Content)

def Phase.request? : Phase Version Content → Option (Request Version Content)
  | .idle => none
  | .reading request _ => some request
  | .writing request _ _ => some request
  | .written request => some request
  | .returned request => some request

def Phase.completed? : Phase Version Content → Option (Request Version Content)
  | .idle => none
  | .reading _ _ => none
  | .writing _ _ _ => none
  | .written request => some request
  | .returned request => some request

/-- One instance, its cache and the calls on one thread. -/
structure Shared (Version Blob Content : Type) where
  cache : Cache
  saver : Saver Version Blob
  phase : Nat → Phase Version Content

def Shared.initial : Shared Version Blob Content := ⟨∅,Saver.empty,fun _ => .idle⟩

/-- One call moves on; the cache and the saver are what it leaves. -/
def Shared.moved (state : Shared Version Blob Content) (cache : Cache)
    (saver : Saver Version Blob) (call : Nat) (phase : Phase Version Content) :
    Shared Version Blob Content :=
  ⟨cache,saver,Function.update state.phase call phase⟩

omit [DecidableEq Version] in
theorem moved_own (state : Shared Version Blob Content) (cache : Cache) (saver : Saver Version Blob)
    (call : Nat) (phase : Phase Version Content) :
    (state.moved cache saver call phase).phase call = phase := Function.update_self ..

omit [DecidableEq Version] in
theorem moved_other (state : Shared Version Blob Content) (cache : Cache)
    (saver : Saver Version Blob) (phase : Phase Version Content) {call other : Nat}
    (apart : other ≠ call) :
    (state.moved cache saver call phase).phase other = state.phase other :=
  Function.update_of_ne apart ..

inductive Action (Version Content : Type)
  | get (call : Nat) (request : Request Version Content)
  | resume (call : Nat)
  | set (call : Nat)
  | finish (call : Nat)

def Shared.step (lib : InMemorySaver Version Blob Content Tuple) (codec : Codec Version Blob)
    (thread : String) (state : Shared Version Blob Content) :
    Action Version Content → Shared Version Blob Content
  | .get call request =>
    match state.phase call with
    | .idle => state.moved state.cache state.saver call
        (.reading request (state.cache.get? (cacheKey thread)))
    | _ => state
  | .resume call =>
    match state.phase call with
    | .reading request raw =>
      let loaded := reload codec state.saver thread raw
      let result := snapshot codec lib.channelVersions (request.apply lib thread loaded) thread
      state.moved (discard codec state.cache thread raw) result.1 call
        (.writing request raw result.2)
    | _ => state
  | .set call =>
    match state.phase call with
    | .writing request _ entry =>
      state.moved (store state.cache thread entry) state.saver call (.written request)
    | _ => state
  | .finish call =>
    match state.phase call with
    | .written request =>
      state.moved state.cache (evictThread state.saver thread) call (.returned request)
    | _ => state

private theorem uninterrupted (lib : InMemorySaver Version Blob Content Tuple) (codec : Codec Version Blob)
    (thread : String) (state : Shared Version Blob Content) (call : Nat)
    (request : Request Version Content) (idle : state.phase call = .idle) :
    Transition.run (Shared.step lib codec thread) state
        [.get call request,.resume call,.set call,.finish call] =
      { cache := (request.call lib codec state.cache state.saver thread).1
        saver := (request.call lib codec state.cache state.saver thread).2
        phase := Function.update state.phase call (.returned request) } := by
  simp only [Transition.run,List.foldl_cons,List.foldl_nil,Shared.step,idle,moved_own]
  simp only [Shared.moved,Function.update_idem]
  cases request <;> rfl

def Issued (state : Shared Version Blob Content) (request : Request Version Content) : Prop :=
  ∃ call, (state.phase call).request? = some request

def Completed (state : Shared Version Blob Content) (request : Request Version Content) : Prop :=
  ∃ call, (state.phase call).completed? = some request

/-- The thread's entry has the newest completed put of every namespace with its new
blobs, and under it every write the completed calls put there, each with a value
one of them gave it. -/
def NothingLost (lib : InMemorySaver Version Blob Content Tuple) (codec : Codec Version Blob)
    (thread : String) (state : Shared Version Blob Content) : Prop :=
  ∃ slice, Holds codec state.cache thread slice ∧
    (∀ args, Completed state (.put args) →
      (∀ other, Completed state (.put other) → other.ns = args.ns → other.id ≤ args.id) →
      slice.Latest args.ns args.id ∧ slice.checkpoint args.ns args.id = some (lib.saved args) ∧
        ∀ pair ∈ args.newVersions, pair ∈ args.channelVersions →
          (slice.blob args.ns pair.1 pair.2).isSome = true) ∧
    ∀ args, Completed state (.putWrites args) → slice.Latest args.ns args.checkpointId →
      ∀ entry ∈ lib.writesOf args, ∃ write,
        (slice.pending args.ns args.checkpointId).get? entry.1 = some write ∧
        ∃ other, Completed state (.putWrites other) ∧ other.ns = args.ns ∧
          other.checkpointId = args.checkpointId ∧ (entry.1,write) ∈ lib.writesOf other

def FreshId (state : Shared Version Blob Content) : Action Version Content → Prop
  | .get _ (.put args) =>
    ∀ other, Issued state (.put other) → other.ns = args.ns → other.id ≠ args.id
  | _ => True

/-- A SET finds the entry its own GET has read, and writes go to no checkpoint
newer than the latest one in that entry. -/
def Undisturbed (codec : Codec Version Blob) (thread : String)
    (state : Shared Version Blob Content) : Action Version Content → Prop
  | .set call =>
    match state.phase call with
    | .writing (.put _) raw _ => state.cache.get? (cacheKey thread) = raw
    | .writing (.putWrites args) raw _ => state.cache.get? (cacheKey thread) = raw ∧
      ∃ slice : Slice Version Blob, Stands codec thread slice raw ∧
        slice.Covers args.ns args.checkpointId
    | _ => True
  | _ => True

def DistinctIds (state : Shared Version Blob Content) : Prop :=
  ∀ first second a b, (state.phase first).request? = some (.put a) →
    (state.phase second).request? = some (.put b) → a.ns = b.ns → a.id = b.id → first = second

structure Inv (lib : InMemorySaver Version Blob Content Tuple) (codec : Codec Version Blob)
    (thread : String) (state : Shared Version Blob Content) : Prop where
  retained : ∃ slice, Holds codec state.cache thread slice ∧ slice.Retains lib (Completed state)
  reading : ∀ call request raw, state.phase call = .reading request raw →
    ∃ slice : Slice Version Blob, Stands codec thread slice raw
  writing : ∀ call request raw entry, state.phase call = .writing request raw entry →
    ∀ slice, Stands codec thread slice raw →
      Stands codec thread ((request.perform lib slice).pruned lib.channelVersions) entry
  distinct : DistinctIds state

variable {lib : InMemorySaver Version Blob Content Tuple} {codec : Codec Version Blob}
  {thread : String} {state : Shared Version Blob Content}

section
omit [DecidableEq Version]

private theorem completed_moved (cache : Cache) (saver : Saver Version Blob) {call : Nat}
    {phase : Phase Version Content}
    (same : phase.completed? = (state.phase call).completed?) :
    Completed (state.moved cache saver call phase) = Completed state := by
  have pointwise (other : Nat) : ((state.moved cache saver call phase).phase other).completed? =
      (state.phase other).completed? := by
    by_cases own : other = call
    · rw [own,moved_own,same]
    · rw [moved_other _ _ _ _ own]
  funext request
  simp only [Completed,pointwise]

private theorem completed_written (cache : Cache) (saver : Saver Version Blob) {call : Nat}
    (request : Request Version Content) (pending : (state.phase call).completed? = none) :
    Completed (state.moved cache saver call (.written request)) =
      fun other => Completed state other ∨ other = request := by
  funext other
  apply propext
  constructor
  · rintro ⟨known,done⟩
    by_cases own : known = call
    · rw [own,moved_own] at done
      exact Or.inr (Option.some.inj done).symm
    · rw [moved_other _ _ _ _ own] at done
      exact Or.inl ⟨known,done⟩
  · rintro (⟨known,done⟩ | rfl)
    · have own : known ≠ call := by
        rintro rfl
        rw [pending] at done
        cases done
      exact ⟨known,(congrArg _ (moved_other _ _ _ _ own)).trans done⟩
    · exact ⟨call,congrArg _ (moved_own ..)⟩

theorem DistinctIds.completed (distinct : DistinctIds state) (a b : PutArgs Version Content)
    (first : Completed state (.put a)) (second : Completed state (.put b)) (ns : a.ns = b.ns)
    (id : a.id = b.id) : a = b := by
  have issued {phase : Phase Version Content} {request : Request Version Content}
      (done : phase.completed? = some request) : phase.request? = some request := by
    cases phase <;> first | exact done | cases done
  obtain ⟨one,done⟩ := first
  obtain ⟨two,done'⟩ := second
  have same := distinct one two a b (issued done) (issued done') ns id
  rw [same,done'] at done
  cases done
  rfl

theorem DistinctIds.moved (distinct : DistinctIds state) (cache : Cache)
    (saver : Saver Version Blob) (call : Nat) (phase : Phase Version Content)
    (fresh : ∀ a, phase.request? = some (.put a) → ∀ other b, other ≠ call →
      (state.phase other).request? = some (.put b) → a.ns = b.ns → a.id ≠ b.id) :
    DistinctIds (state.moved cache saver call phase) := by
  intro first second a b one two ns id
  by_cases left : first = call
  · by_cases right : second = call
    · exact left.trans right.symm
    · rw [left,moved_own] at one
      rw [moved_other _ _ _ _ right] at two
      exact absurd id (fresh a one second b right two ns)
  · rw [moved_other _ _ _ _ left] at one
    by_cases right : second = call
    · rw [right,moved_own] at two
      exact absurd id.symm (fresh b two first a left one ns.symm)
    · rw [moved_other _ _ _ _ right] at two
      exact distinct first second a b one two ns id

theorem DistinctIds.advance (distinct : DistinctIds state) (cache : Cache)
    (saver : Saver Version Blob) (call : Nat) (phase : Phase Version Content)
    (same : phase.request? = (state.phase call).request?) :
    DistinctIds (state.moved cache saver call phase) :=
  distinct.moved cache saver call phase (fun a mine other b apart theirs ns id =>
    apart (distinct call other a b (same.symm.trans mine) theirs ns id).symm)

end

private theorem inv_initial : Inv lib codec thread Shared.initial := by
  refine ⟨⟨Slice.empty,rfl,?_⟩,?_,?_,?_⟩
  · constructor <;> simp [Completed,Shared.initial,Phase.completed?,Slice.empty]
  · rintro call request raw ⟨⟩
  · rintro call request raw entry ⟨⟩
  · rintro first second a b ⟨⟩

theorem Inv.moved (inv : Inv lib codec thread state) (cache : Cache) (saver : Saver Version Blob)
    (call : Nat) (phase : Phase Version Content)
    (retained : ∃ slice, Holds codec cache thread slice ∧
      slice.Retains lib (Completed (state.moved cache saver call phase)))
    (reading : ∀ request raw, phase = .reading request raw →
      ∃ slice : Slice Version Blob, Stands codec thread slice raw)
    (writing : ∀ request raw entry, phase = .writing request raw entry →
      ∀ slice, Stands codec thread slice raw →
        Stands codec thread ((request.perform lib slice).pruned lib.channelVersions) entry)
    (distinct : DistinctIds (state.moved cache saver call phase)) :
    Inv lib codec thread (state.moved cache saver call phase) := by
  refine ⟨retained,fun other request raw at' => ?_,fun other request raw entry at' => ?_,distinct⟩
  · by_cases own : other = call
    · rw [own,moved_own] at at'
      exact reading request raw at'
    · rw [moved_other _ _ _ _ own] at at'
      exact inv.reading other request raw at'
  · by_cases own : other = call
    · rw [own,moved_own] at at'
      exact writing request raw entry at'
    · rw [moved_other _ _ _ _ own] at at'
      exact inv.writing other request raw entry at'

theorem Inv.get (inv : Inv lib codec thread state) (call : Nat)
    (request : Request Version Content) (fresh : FreshId state (.get call request)) :
    Inv lib codec thread (state.step lib codec thread (.get call request)) := by
  cases phase : state.phase call with
  | idle =>
    obtain ⟨slice,holds,retains⟩ := inv.retained
    simp only [Shared.step,phase]
    refine inv.moved _ _ _ _ ⟨slice,holds,?_⟩ ?_ ?_ (inv.distinct.moved _ _ _ _ ?_)
    · rwa [completed_moved _ _ (by rw [phase]; rfl)]
    · rintro _ _ ⟨⟩
      exact ⟨slice,holds⟩
    · rintro _ _ _ ⟨⟩
    · rintro a ⟨⟩ other b _ theirs ns id
      exact fresh b ⟨other,theirs⟩ ns.symm id.symm
  | _ => simpa only [Shared.step,phase] using inv

theorem Inv.resume (documented : Documented lib) (trips : RoundTrips codec)
    (inv : Inv lib codec thread state) (call : Nat) :
    Inv lib codec thread (state.step lib codec thread (.resume call)) := by
  cases phase : state.phase call with
  | reading request raw =>
    obtain ⟨slice,holds,retains⟩ := inv.retained
    obtain ⟨read,stands⟩ := inv.reading call request raw phase
    simp only [Shared.step,phase]
    rw [discard_stands codec trips _ stands]
    refine inv.moved _ _ _ _ ⟨slice,holds,?_⟩ ?_ ?_
      (inv.distinct.advance _ _ _ _ (by rw [phase]; rfl))
    · rwa [completed_moved _ _ (by rw [phase]; rfl)]
    · rintro _ _ ⟨⟩
    · rintro _ _ _ ⟨⟩ known stands'
      exact perform_stands documented trips _ request stands'
  | _ => simpa only [Shared.step,phase] using inv

theorem Inv.set (documented : Documented lib) (trips : RoundTrips codec)
    (inv : Inv lib codec thread state) (call : Nat)
    (undisturbed : Undisturbed codec thread state (.set call)) :
    Inv lib codec thread (state.step lib codec thread (.set call)) := by
  cases phase : state.phase call with
  | writing request raw entry =>
    obtain ⟨slice,holds,retains⟩ := inv.retained
    simp only [Undisturbed,phase] at undisturbed
    have added : state.cache.get? (cacheKey thread) = raw ∧
        (request.perform lib slice).Retains lib
          (fun other => Completed state other ∨ other = request) := by
      cases request with
      | put args => exact ⟨undisturbed,retains.put args⟩
      | putWrites args =>
        obtain ⟨same,read,stands,covers⟩ := undisturbed
        have equal : read = slice := stands.unique trips (same ▸ holds)
        exact ⟨same,retains.putWrites documented (equal ▸ covers)⟩
    obtain ⟨same,retains'⟩ := added
    have stands := inv.writing call request raw entry phase slice (same ▸ holds)
    simp only [Shared.step,phase]
    have distinct : DistinctIds
        (state.moved (store state.cache thread entry) state.saver call (.written request)) :=
      inv.distinct.advance _ _ _ _ (by rw [phase]; rfl)
    rw [← completed_written (store state.cache thread entry) state.saver request
      (by rw [phase]; rfl : (state.phase call).completed? = none)] at retains'
    refine inv.moved _ _ _ _ ⟨_,?_,retains'.pruned documented distinct.completed⟩ ?_ ?_ distinct
    · rw [Holds,store_own]
      exact stands
    · rintro _ _ ⟨⟩
    · rintro _ _ _ ⟨⟩
  | _ => simpa only [Shared.step,phase] using inv

theorem Inv.finish (inv : Inv lib codec thread state) (call : Nat) :
    Inv lib codec thread (state.step lib codec thread (.finish call)) := by
  cases phase : state.phase call with
  | written request =>
    obtain ⟨slice,holds,retains⟩ := inv.retained
    simp only [Shared.step,phase]
    refine inv.moved _ _ _ _ ⟨slice,holds,?_⟩ ?_ ?_
      (inv.distinct.advance _ _ _ _ (by rw [phase]; rfl))
    · rwa [completed_moved _ _ (by rw [phase]; rfl)]
    · rintro _ _ ⟨⟩
    · rintro _ _ _ ⟨⟩
  | _ => simpa only [Shared.step,phase] using inv

theorem Inv.nothing_lost (inv : Inv lib codec thread state) : NothingLost lib codec thread state := by
  obtain ⟨slice,holds,retains⟩ := inv.retained
  refine ⟨slice,holds,fun args done newest => ?_,fun args done top entry listed => ?_⟩
  · obtain ⟨latest,top,below⟩ := retains.latest args done
    obtain ⟨saved,stored⟩ := Option.isSome_iff_exists.mp top.1
    obtain ⟨other,earlier,ns,id,own⟩ := retains.source _ _ _ stored
    have same : args.id = latest := le_antisymm below (id ▸ newest other earlier ns)
    have equal := inv.distinct.completed other args earlier done ns (id.trans same.symm)
    subst equal
    subst same
    exact ⟨top,own ▸ stored,retains.blobs other done top⟩
  · obtain ⟨write,found⟩ := Option.isSome_iff_exists.mp (retains.recorded args done top entry listed)
    obtain ⟨other,earlier,ns,id,given⟩ := retains.given _ _ _ _ found
    exact ⟨write,found,other,earlier,ns,id,given⟩

/-- When the ids of the puts are distinct, no call is disturbed between its GET and
its SET, and writes go to checkpoints the entry has reached, nothing is lost. -/
theorem nothing_lost_undisturbed (documented : Documented lib) (trips : RoundTrips codec)
    (actions : List (Action Version Content))
    (allowed : Transition.Along (Shared.step lib codec thread)
      (fun state action => FreshId state action ∧ Undisturbed codec thread state action)
      Shared.initial actions) :
    Transition.Throughout (Shared.step lib codec thread) (NothingLost lib codec thread)
      Shared.initial actions := by
  refine (Transition.Throughout.of_along ?_ inv_initial allowed).imp
    (fun _ inv => Inv.nothing_lost inv)
  rintro state action inv ⟨fresh,undisturbed⟩
  cases action with
  | get call request => exact inv.get call request fresh
  | resume call => exact inv.resume documented trips call
  | set call => exact inv.set documented trips call undisturbed
  | finish call => exact inv.finish call

def overlap (first second : Nat) (a b : Request Version Content) : List (Action Version Content) :=
  [.get first a,.get second b,.resume first,.set first,.finish first,.resume second,.set second,
    .finish second]

private theorem overlap_forgets (documented : Documented lib) (trips : RoundTrips codec)
    {slice : Slice Version Blob} (holds : Holds codec state.cache thread slice)
    {first second : Nat} (apart : first ≠ second) (idle : state.phase first = .idle)
    (idle' : state.phase second = .idle) (a b : Request Version Content) :
    Holds codec (Transition.run (Shared.step lib codec thread) state
      (overlap first second a b)).cache thread ((b.perform lib slice).pruned lib.channelVersions) ∧
      (Transition.run (Shared.step lib codec thread) state (overlap first second a b)).phase =
        Function.update (Function.update state.phase first (.returned a)) second (.returned b) := by
  have result (saver : Saver Version Blob) := perform_stands documented trips saver b holds
  simp only [overlap,Transition.run,List.foldl_cons,List.foldl_nil,Shared.step,idle,moved_own,
    moved_other _ _ _ _ apart,moved_other _ _ _ _ apart.symm,idle']
  constructor
  · rw [Holds]
    simp only [Shared.moved,store_own]
    exact result _
  · simp only [Shared.moved]
    funext call
    by_cases one : call = first
    · subst one
      simp [Function.update_of_ne apart]
    · by_cases two : call = second
      · subst two
        simp
      · simp [Function.update_of_ne one,Function.update_of_ne two]

/-- A new write of the call that stores first is lost when the other call does not
write under its key. -/
theorem overlap_loses (documented : Documented lib) (trips : RoundTrips codec)
    {slice : Slice Version Blob} (holds : Holds codec state.cache thread slice)
    {first second : Nat} (apart : first ≠ second) (idle : state.phase first = .idle)
    (idle' : state.phase second = .idle) {a b : WritesArgs Content}
    (newest : slice.Latest a.ns a.checkpointId) {entry : InnerKey × Write Blob}
    (given : entry ∈ lib.writesOf a)
    (unknown : (slice.pending a.ns a.checkpointId).get? entry.1 = none)
    (other : ∀ write, (entry.1,write) ∉ lib.writesOf b) :
    ¬NothingLost lib codec thread (Transition.run (Shared.step lib codec thread) state
      (overlap first second (.putWrites a) (.putWrites b))) := by
  obtain ⟨stored,phases⟩ := overlap_forgets documented trips holds apart idle idle'
    (.putWrites a) (.putWrites b)
  rintro ⟨after,holds',_,writes⟩
  have same := Stands.unique trips holds' stored
  have top : after.Latest a.ns a.checkpointId := by
    rw [same]
    exact Slice.pruned_latest.mpr newest
  have returned : Completed (Transition.run (Shared.step lib codec thread) state
      (overlap first second (.putWrites a) (.putWrites b))) (.putWrites a) := by
    refine ⟨first,?_⟩
    rw [phases,Function.update_of_ne apart,Function.update_self]
    rfl
  obtain ⟨write,found,_⟩ := writes a returned top entry given
  have pending : after.pending a.ns a.checkpointId =
      (slice.putWrites lib b).pending a.ns a.checkpointId := by
    rw [same]
    exact Slice.pruned_pending newest
  rw [pending,Slice.putWrites] at found
  dsimp only at found
  split_ifs at found
  · rcases documented.writes_given b _ _ _ found with before | now
    · rw [unknown] at before
      cases before
    · exact other write now
  · rw [unknown] at found
    cases found

private theorem undisturbed_alone (trips : RoundTrips codec) {slice : Slice Version Blob}
    (holds : Holds codec state.cache thread slice) {call : Nat} (idle : state.phase call = .idle)
    {request : Request Version Content} (fresh : FreshId state (.get call request))
    (target : ∀ args, request = .putWrites args → slice.Covers args.ns args.checkpointId) :
    Transition.Along (Shared.step lib codec thread)
      (fun state action => FreshId state action ∧ Undisturbed codec thread state action) state
      [.get call request,.resume call,.set call,.finish call] := by
  have kept : discard codec state.cache thread (state.cache.get? (cacheKey thread)) = state.cache :=
    discard_stands codec trips state.cache holds
  refine ⟨⟨fresh,trivial⟩,⟨trivial,trivial⟩,⟨trivial,?_⟩,⟨trivial,trivial⟩,trivial⟩
  simp only [Shared.step,idle,moved_own,Undisturbed]
  cases request with
  | put args => exact congrArg (Dict.get? · (cacheKey thread)) kept
  | putWrites args =>
    exact ⟨congrArg (Dict.get? · (cacheKey thread)) kept,slice,holds,target args rfl⟩

private theorem first_put_slice :
    ((Slice.empty.put Memory.saver Memory.firstPut).pruned Memory.saver.channelVersions).Latest
        "" "1" ∧
      ((Slice.empty.put Memory.saver Memory.firstPut).pruned Memory.saver.channelVersions).pending
        "" "1" = ∅ := by
  have grows (id : String) (stored : ((Slice.empty : Slice String Memory.Stored).checkpoint
      Memory.firstPut.ns id).isSome = true) : id < Memory.firstPut.id := by
    cases stored
  have newest : (Slice.empty.put Memory.saver Memory.firstPut).Latest "" "1" :=
    (Slice.put_latest grows "" "1").mpr rfl
  exact ⟨Slice.pruned_latest.mpr newest,(Slice.pruned_pending newest).trans rfl⟩

def firstCall : List (Action String String) :=
  [.get 0 (.put Memory.firstPut),.resume 0,.set 0,.finish 0]

private theorem initial_holds : Holds Memory.codec
    (Shared.initial : Shared String Memory.Stored String).cache "t" Slice.empty := rfl

private theorem first_call_holds :
    Holds Memory.codec (Transition.run (Shared.step Memory.saver Memory.codec "t") Shared.initial
      firstCall).cache "t"
      ((Slice.empty.put Memory.saver Memory.firstPut).pruned Memory.saver.channelVersions) := by
  rw [firstCall,uninterrupted _ _ _ _ _ _ rfl]
  exact call_holds Memory.documented Memory.roundTrips Saver.empty (.put Memory.firstPut)
    initial_holds

/-- A put and then the writes of a task. -/
theorem nothing_lost_undisturbed_one_task :
    Transition.Throughout (Shared.step Memory.saver Memory.codec "t")
      (NothingLost Memory.saver Memory.codec "t") Shared.initial
      (firstCall ++
        [.get 1 (.putWrites (Memory.taskWrites "a")),.resume 1,.set 1,.finish 1]) := by
  apply nothing_lost_undisturbed Memory.documented Memory.roundTrips
  refine (Transition.along_append ..).mpr
    ⟨undisturbed_alone Memory.roundTrips initial_holds rfl ?_ ?_,
      undisturbed_alone Memory.roundTrips first_call_holds rfl ?_ ?_⟩
  · rintro other ⟨call,⟨⟩⟩
  · rintro args ⟨⟩
  · trivial
  · rintro args ⟨⟩
    exact ⟨"1",first_put_slice.1,le_rfl⟩

def lostWrite : List (Action String String) :=
  firstCall ++ overlap 1 2 (.putWrites (Memory.taskWrites "a")) (.putWrites (Memory.taskWrites "b"))

/-- Two tasks write at the same time: all calls return, and the write of the one that
stores first is not in the cache. -/
theorem write_lost_by_overlap :
    Transition.Along (Shared.step Memory.saver Memory.codec "t") FreshId Shared.initial lostWrite ∧
      (∀ call, (Transition.run (Shared.step Memory.saver Memory.codec "t") Shared.initial
          lostWrite).phase call = .idle ∨ ∃ request, (Transition.run
            (Shared.step Memory.saver Memory.codec "t") Shared.initial lostWrite).phase call =
              .returned request) ∧
      ¬NothingLost Memory.saver Memory.codec "t"
        (Transition.run (Shared.step Memory.saver Memory.codec "t") Shared.initial lostWrite) := by
  have idle (call : Nat) (later : call ≠ 0) : (Transition.run
      (Shared.step Memory.saver Memory.codec "t") Shared.initial firstCall).phase call = .idle := by
    rw [firstCall,uninterrupted _ _ _ _ _ _ rfl]
    exact Function.update_of_ne later _ _
  refine ⟨⟨?_,trivial,trivial,trivial,trivial,trivial,trivial,trivial,trivial,trivial,trivial,
    trivial,trivial⟩,fun call => ?_,?_⟩
  · rintro other ⟨call,⟨⟩⟩
  · match call with
    | 0 => exact Or.inr ⟨_,rfl⟩
    | 1 => exact Or.inr ⟨_,rfl⟩
    | 2 => exact Or.inr ⟨_,rfl⟩
    | _ + 3 => exact Or.inl rfl
  · rw [lostWrite,Transition.run_append]
    refine overlap_loses Memory.documented Memory.roundTrips first_call_holds (by decide)
      (idle 1 Nat.one_ne_zero) (idle 2 two_ne_zero) first_put_slice.1 List.mem_cons_self ?_ ?_
    · exact congrArg (Dict.get? · _) first_put_slice.2
    · rintro write listed
      have same : "a" = "b" := congrArg (fun entry => entry.1.1) (List.mem_singleton.mp listed)
      exact absurd same (by decide)

end CustomerService.CheckpointSaver
