import CustomerService.CheckpointLibrary
import CustomerService.Transition
import Mathlib.Logic.Function.Basic

/-! The cached saver refines the plain one. Any number of instances share one
cache; the plain saver receives the same operations in the same order. A cache
entry always stands for the pruned slice of the plain saver's thread. -/
namespace CustomerService.CheckpointSaver

variable {Version Blob Content Tuple : Type} [DecidableEq Version]

/-! What pruning forgets is never looked at again. -/
namespace Slice

variable {lib : InMemorySaver Version Blob Content Tuple} {slice : Slice Version Blob}

omit [DecidableEq Version] in
theorem Returns.pruned {thread ns : String} {result : Option Tuple}
    (returns : slice.Returns lib thread ns result) :
    (slice.pruned lib.channelVersions).Returns lib thread ns result := by
  cases returns with
  | absent none' =>
    refine .absent (fun id => ?_)
    by_cases newest : slice.Latest ns id
    · rw [pruned_checkpoint newest,none']
    · exact if_neg newest
  | latest id saved versions newest stored loads =>
    have blobs (pair : String × Version) (member : pair ∈ versions) :
        (slice.pruned lib.channelVersions).blob ns pair.1 pair.2 = slice.blob ns pair.1 pair.2 :=
      pruned_blob ⟨id,saved,versions,newest,stored,loads,member⟩
    have same : versions.map (fun pair => (pair.1,slice.blob ns pair.1 pair.2)) =
        versions.map (fun pair =>
          (pair.1,(slice.pruned lib.channelVersions).blob ns pair.1 pair.2)) :=
      List.map_congr_left (fun pair member => by rw [blobs pair member])
    rw [same,← pruned_pending newest]
    exact .latest id saved versions (pruned_latest.mpr newest)
      ((pruned_checkpoint newest).trans stored) loads

omit [DecidableEq Version] in
theorem Latest.congr {first second : Slice Version Blob} {ns : String}
    (same : ∀ id, (first.checkpoint ns id).isSome = (second.checkpoint ns id).isSome) (id : String) :
    first.Latest ns id ↔ second.Latest ns id := by
  simp only [Latest,same]

omit [DecidableEq Version] in
/-- Two slices with the same latest checkpoints, and the same writes and
referenced blobs under them, prune to the same slice. -/
theorem pruned_congr {channelVersions : Blob → Option (List (String × Version))}
    {first second : Slice Version Blob}
    (latest : ∀ ns id, first.Latest ns id ↔ second.Latest ns id)
    (checkpoint : ∀ ns id, first.Latest ns id → first.checkpoint ns id = second.checkpoint ns id)
    (pending : ∀ ns id, first.Latest ns id → first.pending ns id = second.pending ns id)
    (blob : ∀ ns channel version, first.References channelVersions ns channel version →
      first.blob ns channel version = second.blob ns channel version) :
    first.pruned channelVersions = second.pruned channelVersions := by
  have references (ns channel : String) (version : Version) :
      first.References channelVersions ns channel version ↔
        second.References channelVersions ns channel version := by
    constructor
    · rintro ⟨id,saved,versions,newest,stored,loads,member⟩
      exact ⟨id,saved,versions,(latest ns id).mp newest,(checkpoint ns id newest) ▸ stored,loads,
        member⟩
    · rintro ⟨id,saved,versions,newest,stored,loads,member⟩
      have newest' := (latest ns id).mpr newest
      exact ⟨id,saved,versions,newest',(checkpoint ns id newest').trans stored,loads,member⟩
  apply Slice.ext
  · funext ns id
    by_cases newest : first.Latest ns id
    · rw [pruned_checkpoint newest,pruned_checkpoint ((latest ns id).mp newest),
        checkpoint ns id newest]
    · exact (if_neg newest).trans (if_neg (mt (latest ns id).mpr newest)).symm
  · funext ns id
    by_cases newest : first.Latest ns id
    · rw [pruned_pending newest,pruned_pending ((latest ns id).mp newest),pending ns id newest]
    · exact (if_neg newest).trans (if_neg (mt (latest ns id).mpr newest)).symm
  · funext ns channel version
    by_cases referenced : first.References channelVersions ns channel version
    · rw [pruned_blob referenced,pruned_blob ((references ns channel version).mp referenced),
        blob ns channel version referenced]
    · exact (if_neg referenced).trans
        (if_neg (mt (references ns channel version).mpr referenced)).symm

omit [DecidableEq Version] in
theorem References.of_pruned {channelVersions : Blob → Option (List (String × Version))}
    {ns channel : String} {version : Version}
    (referenced : (slice.pruned channelVersions).References channelVersions ns channel version) :
    slice.References channelVersions ns channel version := by
  obtain ⟨id,saved,versions,newest,stored,rest⟩ := referenced
  have newest' := pruned_latest.mp newest
  exact ⟨id,saved,versions,newest',(pruned_checkpoint newest').symm.trans stored,rest⟩

variable {args : PutArgs Version Content}

theorem put_latest (grows : ∀ id, (slice.checkpoint args.ns id).isSome = true → id < args.id)
    (ns id : String) :
    (slice.put lib args).Latest ns id ↔
      if ns = args.ns then id = args.id else slice.Latest ns id := by
  have here : ((slice.put lib args).checkpoint args.ns args.id).isSome = true := by simp [put]
  have top : (slice.put lib args).Latest args.ns args.id := by
    refine ⟨here,fun other found => ?_⟩
    by_cases same : other = args.id
    · exact same.le
    · exact (grows other (by simpa [put,same] using found)).le
  split_ifs with same
  · subst same
    exact ⟨fun newest => newest.unique top,fun equal => equal ▸ top⟩
  · exact Latest.congr (fun id => by simp [put,same]) id

/-- The versions of a put are written by it or were referenced before it. -/
def Carries (channelVersions : Blob → Option (List (String × Version)))
    (slice : Slice Version Blob) (args : PutArgs Version Content) : Prop :=
  ∀ pair ∈ args.channelVersions,pair ∈ args.newVersions ∨
    slice.References channelVersions args.ns pair.1 pair.2

private theorem pruned_put (versions : ∀ args, lib.channelVersions (lib.saved args).dumped =
      some args.channelVersions)
    (grows : ∀ id, (slice.checkpoint args.ns id).isSome = true → id < args.id)
    (fresh : slice.pending args.ns args.id = ∅)
    (carries : slice.Carries lib.channelVersions args) :
    ((slice.pruned lib.channelVersions).put lib args).pruned lib.channelVersions =
      (slice.put lib args).pruned lib.channelVersions := by
  have grows' : ∀ id, ((slice.pruned lib.channelVersions).checkpoint args.ns id).isSome = true →
      id < args.id := fun id found => grows id (pruned_isSome.mp found).1
  have latest (ns id : String) : ((slice.pruned lib.channelVersions).put lib args).Latest ns id ↔
      (slice.put lib args).Latest ns id := by
    rw [put_latest grows',put_latest grows,pruned_latest]
  have older (ns id : String) (newest : (slice.put lib args).Latest ns id) (other : ns ≠ args.ns) :
      slice.Latest ns id := by
    rw [put_latest grows,if_neg other] at newest
    exact newest
  refine pruned_congr latest ?_ ?_ ?_
  · intro ns id newest
    by_cases here : ns = args.ns ∧ id = args.id
    · simp [put,here]
    · have other : ns ≠ args.ns := fun same => here ⟨same,by
        rw [put_latest grows',if_pos same] at newest
        exact newest⟩
      simp only [put,here,if_false]
      exact pruned_checkpoint (older ns id ((latest ns id).mp newest) other)
  · intro ns id newest
    by_cases same : ns = args.ns
    · subst same
      rw [put_latest grows',if_pos rfl] at newest
      subst newest
      change (slice.pruned lib.channelVersions).pending args.ns args.id = _
      by_cases stored : slice.Latest args.ns args.id
      · exact pruned_pending stored
      · exact (if_neg stored).trans fresh.symm
    · change (slice.pruned lib.channelVersions).pending ns id = slice.pending ns id
      exact pruned_pending (older ns id ((latest ns id).mp newest) same)
  · rintro ns channel version ⟨id,saved,held,newest,stored,loads,member⟩
    by_cases written : ns = args.ns ∧ (channel,version) ∈ args.newVersions
    · simp [put,written]
    · simp only [put,written,if_false]
      by_cases same : ns = args.ns
      · subst same
        rw [put_latest grows',if_pos rfl] at newest
        subst newest
        have own : saved = lib.saved args := by simpa [put] using stored.symm
        rw [own,versions] at loads
        cases loads
        rcases carries (channel,version) member with new | referenced
        · exact absurd ⟨rfl,new⟩ written
        · exact pruned_blob referenced
      · have newest' := older ns id ((latest ns id).mp newest) same
        have stored' : slice.checkpoint ns id = some saved := by
          have kept : (slice.pruned lib.channelVersions).checkpoint ns id = some saved := by
            simpa [put,same] using stored
          rwa [pruned_checkpoint newest'] at kept
        exact pruned_blob ⟨id,saved,held,newest',stored',loads,member⟩

omit [DecidableEq Version] in
theorem pruned_putWrites {args : WritesArgs Content} :
    ((slice.pruned lib.channelVersions).putWrites lib args).pruned lib.channelVersions =
      (slice.putWrites lib args).pruned lib.channelVersions := by
  have latest (ns id : String) :
      (slice.pruned lib.channelVersions).Latest ns id ↔ slice.Latest ns id := pruned_latest
  refine pruned_congr latest (fun ns id newest => ?_) (fun ns id newest => ?_)
    (fun ns channel version referenced => ?_)
  · change (slice.pruned lib.channelVersions).checkpoint ns id = slice.checkpoint ns id
    exact pruned_checkpoint ((latest ns id).mp newest)
  · have same : (slice.pruned lib.channelVersions).pending ns id = slice.pending ns id :=
      pruned_pending ((latest ns id).mp newest)
    simp only [putWrites,same]
  · exact pruned_blob (References.of_pruned referenced)

/-- Writes wait only under stored checkpoints, and every stored checkpoint loads. -/
structure Sound (channelVersions : Blob → Option (List (String × Version)))
    (slice : Slice Version Blob) : Prop where
  pending : ∀ ns id, slice.checkpoint ns id = none → slice.pending ns id = ∅
  loads : ∀ ns id saved, slice.checkpoint ns id = some saved →
    (channelVersions saved.dumped).isSome = true

omit [DecidableEq Version] in
theorem sound_empty (channelVersions : Blob → Option (List (String × Version))) :
    (empty : Slice Version Blob).Sound channelVersions :=
  ⟨fun _ _ _ => rfl,fun _ _ _ found => nomatch found⟩

theorem Sound.put (versions : ∀ args, lib.channelVersions (lib.saved args).dumped =
      some args.channelVersions) (sound : slice.Sound lib.channelVersions)
    (args : PutArgs Version Content) : (slice.put lib args).Sound lib.channelVersions := by
  constructor
  · intro ns id missing
    by_cases here : ns = args.ns ∧ id = args.id
    · simp [Slice.put,here] at missing
    · simp only [Slice.put,here,if_false] at missing
      exact sound.pending ns id missing
  · intro ns id saved stored
    by_cases here : ns = args.ns ∧ id = args.id
    · have own : lib.saved args = saved := by simpa [Slice.put,here] using stored
      rw [← own,versions]
      rfl
    · simp only [Slice.put,here,if_false] at stored
      exact sound.loads ns id saved stored

omit [DecidableEq Version] in
theorem Sound.putWrites (sound : slice.Sound lib.channelVersions) {args : WritesArgs Content}
    (target : slice.Latest args.ns args.checkpointId) :
    (slice.putWrites lib args).Sound lib.channelVersions := by
  refine ⟨fun ns id missing => ?_,sound.loads⟩
  have other : ¬(ns = args.ns ∧ id = args.checkpointId) := by
    rintro ⟨rfl,rfl⟩
    have stored := target.1
    rw [show slice.checkpoint args.ns args.checkpointId = none from missing] at stored
    cases stored
  simp only [Slice.putWrites,other,if_false]
  exact sound.pending ns id missing

end Slice

theorem exists_latest (saver : Saver Version Blob) (thread ns : String) :
    (∀ id, (saver.slice thread).checkpoint ns id = none) ∨
      ∃ id, (saver.slice thread).Latest ns id := by
  cases found : latestId ((saver.storage.getD thread ∅).getD ns ∅) with
  | none => exact Or.inl ((latestId_eq_none _).mp found)
  | some id => exact Or.inr ⟨id,(latestId_slice saver thread ns id).mp found⟩

private theorem exists_returns (lib : InMemorySaver Version Blob Content Tuple)
    (saver : Saver Version Blob) (thread ns : String)
    (sound : (saver.slice thread).Sound lib.channelVersions) :
    ∃ result, (saver.slice thread).Returns lib thread ns result := by
  rcases exists_latest saver thread ns with none' | ⟨id,newest⟩
  · exact ⟨none,.absent none'⟩
  · obtain ⟨saved,stored⟩ := Option.isSome_iff_exists.mp newest.1
    obtain ⟨versions,loads⟩ := Option.isSome_iff_exists.mp (sound.loads ns id saved stored)
    exact ⟨_,.latest id saved versions newest stored loads⟩

/-- An operation as both savers receive it; the synchronous and asynchronous
variants are the same function. -/
inductive Op (Version Content : Type)
  | put (thread : String) (args : PutArgs Version Content)
  | putWrites (thread : String) (args : WritesArgs Content)
  | getTuple (thread ns : String)
  | deleteThread (thread : String)

def Op.thread : Op Version Content → String
  | .put thread _ => thread
  | .putWrites thread _ => thread
  | .getTuple thread _ => thread
  | .deleteThread thread => thread

def cachedStep (lib : InMemorySaver Version Blob Content Tuple) (codec : Codec Version Blob)
    (cache : Cache) (saver : Saver Version Blob) : Op Version Content → Cache × Saver Version Blob
  | .put thread args => put lib codec cache saver thread args
  | .putWrites thread args => putWrites lib codec cache saver thread args
  | .getTuple thread ns => (getTuple lib codec cache saver thread ns).2
  | .deleteThread thread => deleteThread lib cache saver thread

def plainStep (lib : InMemorySaver Version Blob Content Tuple) (saver : Saver Version Blob) :
    Op Version Content → Saver Version Blob
  | .put thread args => lib.put thread args saver
  | .putWrites thread args => lib.putWrites thread args saver
  | .getTuple thread ns => (lib.getTuple thread ns saver).2
  | .deleteThread thread => lib.deleteThread thread saver

/-- The instances' local savers, the cache they share, and the plain saver. -/
structure Deployment (Instance Version Blob : Type) where
  cache : Cache
  savers : Instance → Saver Version Blob
  plain : Saver Version Blob

variable {Instance : Type} [DecidableEq Instance]

def Deployment.initial : Deployment Instance Version Blob :=
  ⟨∅,fun _ => Saver.empty,Saver.empty⟩

def Deployment.step (lib : InMemorySaver Version Blob Content Tuple) (codec : Codec Version Blob)
    (world : Deployment Instance Version Blob) (action : Instance × Op Version Content) :
    Deployment Instance Version Blob :=
  let next := cachedStep lib codec world.cache (world.savers action.1) action.2
  ⟨next.1,Function.update world.savers action.1 next.2,plainStep lib world.plain action.2⟩

/-- What `get_tuple` returns on the instance. -/
def Deployment.answer (lib : InMemorySaver Version Blob Content Tuple)
    (codec : Codec Version Blob) (world : Deployment Instance Version Blob) (inst : Instance)
    (thread ns : String) : Option Tuple :=
  (getTuple lib codec world.cache (world.savers inst) thread ns).1

/-- How the graph uses a checkpointer: ids grow in a namespace, a checkpoint's
versions are new or those of the latest one, and writes go to the latest one. -/
def Disciplined (lib : InMemorySaver Version Blob Content Tuple) (plain : Saver Version Blob) :
    Op Version Content → Prop
  | .put thread args =>
    (∀ id, ((plain.slice thread).checkpoint args.ns id).isSome = true → id < args.id) ∧
      (plain.slice thread).Carries lib.channelVersions args
  | .putWrites thread args => (plain.slice thread).Latest args.ns args.checkpointId
  | .getTuple _ _ => True
  | .deleteThread _ => True

/-- Every cache entry stands for what pruning leaves of the plain saver's thread. -/
def Refines (lib : InMemorySaver Version Blob Content Tuple) (codec : Codec Version Blob)
    (world : Deployment Instance Version Blob) : Prop :=
  ∀ thread, (world.plain.slice thread).Sound lib.channelVersions ∧
    Holds codec world.cache thread ((world.plain.slice thread).pruned lib.channelVersions)

variable {lib : InMemorySaver Version Blob Content Tuple} {codec : Codec Version Blob}

private theorem holds_congr {first second : Cache} {thread : String} {slice : Slice Version Blob}
    (same : first.get? (cacheKey thread) = second.get? (cacheKey thread)) :
    Holds codec first thread slice ↔ Holds codec second thread slice := by
  rw [Holds,Holds,same]

omit [DecidableEq Version] in
theorem discard_other (cache : Cache) (thread other : String) (raw : Option Bytes)
    (different : other ≠ thread) :
    (discard codec cache thread raw).get? (cacheKey other) = cache.get? (cacheKey other) := by
  have keys : cacheKey other ≠ cacheKey thread := fun same => different (cacheKey_injective same)
  unfold discard
  split
  · rfl
  · split_ifs
    · simp [Dict.get?_erase,keys]
    · rfl

private theorem cachedStep_other (cache : Cache) (saver : Saver Version Blob) (op : Op Version Content)
    (other : String) (different : other ≠ op.thread) :
    (cachedStep lib codec cache saver op).1.get? (cacheKey other) =
      cache.get? (cacheKey other) := by
  cases op with
  | put thread args =>
    exact (store_other _ thread other _ different).trans (discard_other cache thread other _ different)
  | putWrites thread args =>
    exact (store_other _ thread other _ different).trans (discard_other cache thread other _ different)
  | getTuple thread ns => exact discard_other cache thread other _ different
  | deleteThread thread => exact store_other cache thread other none different

private theorem plainStep_other (documented : Documented lib) (saver : Saver Version Blob)
    (op : Op Version Content) (other : String) (different : other ≠ op.thread) :
    (plainStep lib saver op).slice other = saver.slice other := by
  cases op with
  | put thread args => exact documented.put_other thread args saver other different
  | putWrites thread args => exact documented.writes_other thread args saver other different
  | getTuple thread ns => exact documented.tuple_slice thread ns saver other
  | deleteThread thread => exact documented.delete_other thread saver other different

private theorem refines_own (documented : Documented lib) (trips : RoundTrips codec) {cache : Cache}
    (saver plain : Saver Version Blob) (op : Op Version Content)
    (sound : (plain.slice op.thread).Sound lib.channelVersions)
    (holds : Holds codec cache op.thread ((plain.slice op.thread).pruned lib.channelVersions))
    (disciplined : Disciplined lib plain op) :
    ((plainStep lib plain op).slice op.thread).Sound lib.channelVersions ∧
      Holds codec (cachedStep lib codec cache saver op).1 op.thread
        (((plainStep lib plain op).slice op.thread).pruned lib.channelVersions) := by
  cases op with
  | put thread args =>
    obtain ⟨grows,carries⟩ := disciplined
    have missing : (plain.slice thread).checkpoint args.ns args.id = none := by
      by_contra stored
      exact lt_irrefl _ (grows args.id (Option.isSome_iff_ne_none.mpr stored))
    have result := call_holds documented trips saver (.put args) holds
    rw [Op.thread,Request.perform,Slice.pruned_put documented.saved_versions grows
      (sound.pending _ _ missing) carries] at result
    simp only [plainStep,cachedStep,Op.thread,documented.put_slice]
    exact ⟨sound.put documented.saved_versions args,result⟩
  | putWrites thread args =>
    have result := call_holds documented trips saver (.putWrites args) holds
    rw [Op.thread,Request.perform,Slice.pruned_putWrites] at result
    simp only [plainStep,cachedStep,Op.thread,documented.writes_slice]
    exact ⟨sound.putWrites disciplined,result⟩
  | getTuple thread ns =>
    have same : discard codec cache thread (cache.get? (cacheKey thread)) = cache :=
      discard_stands codec trips cache holds
    simp only [plainStep,cachedStep,Op.thread,getTuple,load,documented.tuple_slice]
    rw [same]
    exact ⟨sound,holds⟩
  | deleteThread thread =>
    have gone : (Slice.empty : Slice Version Blob).pruned lib.channelVersions = Slice.empty :=
      Slice.pruned_empty (fun _ _ => rfl)
    simp only [plainStep,cachedStep,Op.thread,deleteThread,documented.delete_slice,gone]
    exact ⟨Slice.sound_empty lib.channelVersions,by simp [Holds,Stands,Dict.get?_erase]⟩

private theorem refines_step (documented : Documented lib) (trips : RoundTrips codec)
    (world : Deployment Instance Version Blob) (action : Instance × Op Version Content)
    (refines : Refines lib codec world) (disciplined : Disciplined lib world.plain action.2) :
    Refines lib codec (world.step lib codec action) := by
  intro thread
  obtain ⟨sound,holds⟩ := refines thread
  by_cases own : thread = action.2.thread
  · subst own
    exact refines_own documented trips _ _ _ sound holds disciplined
  · have kept : (world.step lib codec action).cache.get? (cacheKey thread) =
        world.cache.get? (cacheKey thread) := cachedStep_other _ _ _ thread own
    have after : (world.step lib codec action).plain.slice thread = world.plain.slice thread :=
      plainStep_other documented _ _ thread own
    rw [after,holds_congr kept]
    exact ⟨sound,holds⟩

omit [DecidableEq Instance] in
theorem answer_of_holds (documented : Documented lib) (trips : RoundTrips codec)
    (world : Deployment Instance Version Blob) (inst : Instance) {thread ns : String}
    {slice : Slice Version Blob} (holds : Holds codec world.cache thread slice)
    {result : Option Tuple} (returns : slice.Returns lib thread ns result) :
    world.answer lib codec inst thread ns = result := by
  have loaded := reload_stands codec trips (world.savers inst) holds
  exact documented.tuple_result _ _ _ _ (loaded.symm ▸ returns)

/-- The instances answer as the plain saver, and an operation on one thread
leaves what the others return. -/
def Agrees (lib : InMemorySaver Version Blob Content Tuple) (codec : Codec Version Blob)
    (world : Deployment Instance Version Blob) : Prop :=
  ∀ inst thread ns, world.answer lib codec inst thread ns = (lib.getTuple thread ns world.plain).1 ∧
    ∀ action : Instance × Op Version Content, thread ≠ action.2.thread →
      (world.step lib codec action).answer lib codec inst thread ns =
        world.answer lib codec inst thread ns

theorem Refines.agrees (documented : Documented lib) (trips : RoundTrips codec)
    {world : Deployment Instance Version Blob} (refines : Refines lib codec world) :
    Agrees lib codec world := by
  intro inst thread ns
  obtain ⟨sound,holds⟩ := refines thread
  obtain ⟨result,returns⟩ := exists_returns lib world.plain thread ns sound
  have now := answer_of_holds documented trips world inst holds returns.pruned
  refine ⟨now.trans (documented.tuple_result _ _ _ _ returns).symm,fun action different => ?_⟩
  have kept : (world.step lib codec action).cache.get? (cacheKey thread) =
      world.cache.get? (cacheKey thread) := cachedStep_other _ _ _ thread different
  have later := answer_of_holds documented trips (world.step lib codec action) inst
    ((holds_congr kept).mpr holds) returns.pruned
  exact later.trans now.symm

omit [DecidableEq Instance] in
theorem refines_initial : Refines lib codec (Deployment.initial : Deployment Instance Version Blob) := by
  intro thread
  refine ⟨Slice.sound_empty lib.channelVersions,?_⟩
  exact Slice.pruned_empty (fun _ _ => rfl)

/-- After every sequence of operations the graph can issue, on any instances,
each instance returns what the plain saver returns. -/
theorem cached_refines_plain (documented : Documented lib) (trips : RoundTrips codec)
    (actions : List (Instance × Op Version Content))
    (disciplined : Transition.Along (Deployment.step lib codec)
      (fun world action => Disciplined lib world.plain action.2) Deployment.initial actions) :
    Transition.Throughout (Deployment.step lib codec) (Agrees lib codec)
      (Deployment.initial : Deployment Instance Version Blob) actions :=
  (Transition.Throughout.of_along (refines_step documented trips) refines_initial disciplined).imp
    (fun _ refines => refines.agrees documented trips)

theorem cached_refines_plain_two_instances :
    Transition.Throughout (Deployment.step Memory.saver Memory.codec)
      (Agrees Memory.saver Memory.codec)
      (Deployment.initial : Deployment Bool String Memory.Stored)
      [(true,.put "t" Memory.firstPut),(false,.putWrites "t" (Memory.taskWrites "task")),
        (true,.put "t" Memory.secondPut)] := by
  apply cached_refines_plain Memory.documented Memory.roundTrips
  have written : ((plainStep Memory.saver Saver.empty (.put "t" Memory.firstPut)).slice "t").Latest
      "" "1" := (latestId_slice _ _ _ _).mp (by decide)
  refine ⟨⟨fun id stored => (nomatch stored),fun pair listed => Or.inl listed⟩,written,
    ⟨fun id stored => ?_,fun pair listed => ?_⟩,trivial⟩
  · exact lt_of_le_of_lt (written.2 id stored) (by decide)
  · rcases List.mem_cons.mp listed with rfl | new
    · exact Or.inr ⟨"1",_,_,written,rfl,rfl,by decide⟩
    · exact Or.inl new

end CustomerService.CheckpointSaver
