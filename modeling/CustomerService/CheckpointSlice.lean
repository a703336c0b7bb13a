import CustomerService.CheckpointSaver
import Mathlib.Data.List.MinMax

/-! What one thread's part of a saver, or a cached payload, answers to lookups.
Slices ignore how the dictionaries are laid out; loading, pruning and persisting
are stated on them once, and nothing above unfolds the loops. -/
namespace CustomerService.CheckpointSaver

@[ext] structure Slice (Version Blob : Type) where
  checkpoint : String → String → Option (Saved Blob)
  pending : String → String → Pending Blob
  blob : String → String → Version → Option Blob

namespace Slice

variable {Version Blob : Type}

def empty : Slice Version Blob := ⟨fun _ _ => none,fun _ _ => ∅,fun _ _ _ => none⟩

def Latest (slice : Slice Version Blob) (ns id : String) : Prop :=
  (slice.checkpoint ns id).isSome = true ∧
    ∀ other, (slice.checkpoint ns other).isSome = true → other ≤ id

def References (channelVersions : Blob → Option (List (String × Version)))
    (slice : Slice Version Blob) (ns channel : String) (version : Version) : Prop :=
  ∃ id saved versions, slice.Latest ns id ∧ slice.checkpoint ns id = some saved ∧
    channelVersions saved.dumped = some versions ∧ (channel,version) ∈ versions

open Classical in
/-- Only the latest checkpoint of each namespace, its pending writes and the
blobs it references. -/
noncomputable def pruned (channelVersions : Blob → Option (List (String × Version)))
    (slice : Slice Version Blob) : Slice Version Blob where
  checkpoint ns id := if slice.Latest ns id then slice.checkpoint ns id else none
  pending ns id := if slice.Latest ns id then slice.pending ns id else ∅
  blob ns channel version :=
    if slice.References channelVersions ns channel version then slice.blob ns channel version
    else none

variable {channelVersions : Blob → Option (List (String × Version))} {slice : Slice Version Blob}

theorem Latest.unique {ns first second : String} (a : slice.Latest ns first)
    (b : slice.Latest ns second) : first = second :=
  le_antisymm (b.2 first a.1) (a.2 second b.1)

theorem pruned_checkpoint {ns id : String} (latest : slice.Latest ns id) :
    (slice.pruned channelVersions).checkpoint ns id = slice.checkpoint ns id := if_pos latest

theorem pruned_pending {ns id : String} (latest : slice.Latest ns id) :
    (slice.pruned channelVersions).pending ns id = slice.pending ns id := if_pos latest

theorem pruned_isSome {ns id : String} :
    ((slice.pruned channelVersions).checkpoint ns id).isSome = true ↔ slice.Latest ns id := by
  unfold pruned
  dsimp only
  split_ifs with latest
  · exact iff_of_true latest.1 latest
  · simpa using latest

theorem pruned_latest {ns id : String} :
    (slice.pruned channelVersions).Latest ns id ↔ slice.Latest ns id := by
  constructor
  · exact fun latest => pruned_isSome.mp latest.1
  · intro latest
    exact ⟨pruned_isSome.mpr latest,fun other found =>
      ((pruned_isSome.mp found).unique latest).le⟩

theorem pruned_blob {ns channel : String} {version : Version}
    (referenced : slice.References channelVersions ns channel version) :
    (slice.pruned channelVersions).blob ns channel version = slice.blob ns channel version :=
  if_pos referenced

theorem pruned_empty (none' : ∀ ns id, slice.checkpoint ns id = none) :
    slice.pruned channelVersions = empty := by
  have never (ns id : String) : ¬slice.Latest ns id := fun latest => by
    simpa [none'] using latest.1
  have unreferenced (ns channel : String) (version : Version) :
      ¬slice.References channelVersions ns channel version := by
    rintro ⟨id,_,_,latest,_⟩
    exact never ns id latest
  simp only [pruned,never,unreferenced,if_false,empty]

end Slice

variable {Version Blob : Type} [DecidableEq Version]

def Saver.slice (saver : Saver Version Blob) (thread : String) : Slice Version Blob where
  checkpoint ns id := ((saver.storage.getD thread ∅).getD ns ∅).get? id
  pending ns id := saver.writes.getD (thread,ns,id) ∅
  blob ns channel version := saver.blobs.get? (thread,ns,channel,version)

def Payload.slice (payload : Payload Version Blob) (thread : String) : Slice Version Blob where
  checkpoint ns id := (payload.storage.getD ns ∅).get? id
  pending ns id := payload.writes.getD (thread,ns,id) ∅
  blob ns channel version := payload.blobs.get? (thread,ns,channel,version)

theorem slice_evict (saver : Saver Version Blob) (thread : String) :
    (evictThread saver thread).slice thread = Slice.empty := by
  simp [Saver.slice,Slice.empty,evictThread,Dict.getD,Dict.get?_erase,Dict.get?_filter]

private theorem updateEntry_none {Key Value : Type} [DecidableEq Key] (added : Dict Key Value) :
    updateEntry none added = added := Dict.update_empty added

private theorem install_storage (thread : String) (entries : List (String × Checkpoints Blob))
    (storage : Dict String (Dict String (Checkpoints Blob))) :
    (entries.foldl (fun storage entry =>
      let nsMap := storage.getD thread ∅
      storage.set thread (nsMap.set entry.1 (updateEntry (nsMap.get? entry.1) entry.2)))
        storage).getD thread ∅ = (storage.getD thread ∅).mergeWith updateEntry entries := by
  induction entries generalizing storage with
  | nil => rfl
  | cons entry rest ih =>
    rw [List.foldl_cons,ih,Dict.mergeWith_cons]
    simp [Dict.getD,Dict.get?_set]

private theorem slice_install (saver : Saver Version Blob) (thread : String)
    (payload : Payload Version Blob) (fresh : saver.slice thread = Slice.empty)
    (absent : saver.storage.get? thread = none)
    (unwritten : ∀ key, key.1 = thread → saver.writes.get? key = none) :
    (install saver thread payload).slice thread = payload.slice thread := by
  have blobs (ns channel : String) (version : Version) :
      saver.blobs.get? (thread,ns,channel,version) = none :=
    congrFun (congrFun (congrFun (congrArg Slice.blob fresh) ns) channel) version
  have storage : (install saver thread payload).storage.getD thread ∅ =
      (∅ : Dict String (Checkpoints Blob)).mergeWith updateEntry payload.storage.entries := by
    rw [install,install_storage,Dict.getD,absent,Option.getD_none]
  unfold Saver.slice Payload.slice
  rw [storage]
  congr 1
  · funext ns id
    rw [Dict.getD,Dict.get?_mergeWith,Dict.getD]
    cases payload.storage.get? ns with
    | none => rfl
    | some checkpoints => simp [updateEntry_none]
  · funext ns id
    rw [install,Dict.getD,Dict.get?_mergeWith,Dict.getD,unwritten _ rfl]
    cases payload.writes.get? (thread,ns,id) with
    | none => rfl
    | some writes => simp [updateEntry_none]
  · funext ns channel version
    rw [install,Dict.get?_update,blobs,Option.or_none]

private theorem reload_slice (codec : Codec Version Blob) (saver : Saver Version Blob) (thread : String)
    (raw : Bytes) (payload : Payload Version Blob)
    (decoded : decodeCheckpointBlob codec raw = some payload) :
    (reload codec saver thread (some raw)).slice thread = payload.slice thread := by
  rw [reload,Option.bind_some,decoded]
  apply slice_install _ _ _ (slice_evict saver thread)
  · simp [evictThread,Dict.get?_erase]
  · rintro ⟨_,rest⟩ rfl
    simp [evictThread,Dict.get?_filter]

private theorem latestId_iff (checkpoints : Checkpoints Blob) (id : String) :
    latestId checkpoints = some id ↔ (checkpoints.get? id).isSome = true ∧
      ∀ other, (checkpoints.get? other).isSome = true → other ≤ id := by
  simp only [latestId,List.max?_eq_some_iff,Dict.get?_isSome]

theorem latestId_slice (saver : Saver Version Blob) (thread ns id : String) :
    latestId ((saver.storage.getD thread ∅).getD ns ∅) = some id ↔
      (saver.slice thread).Latest ns id := latestId_iff _ _

private theorem latestId_empty : latestId (∅ : Checkpoints Blob) = none := rfl

theorem pruneNamespace_get? (ns id : String) (checkpoints : Checkpoints Blob) :
    ((pruneNamespace ns checkpoints).getD ∅).get? id =
      if latestId checkpoints = some id then checkpoints.get? id else none := by
  unfold pruneNamespace
  cases found : latestId checkpoints with
  | none => simp
  | some latest =>
    simp only [Option.map_some,Option.getD_some,Dict.get?_filter,Option.some.injEq]
    split_ifs with same
    · subst same
      cases checkpoints.get? latest <;> simp
    · have other : (id == latest) = false := by simpa using fun equal => same equal.symm
      cases checkpoints.get? id <;> simp [other]

private theorem filterMap_getD (nsMap : Dict String (Checkpoints Blob)) (ns id : String) :
    ((nsMap.filterMap pruneNamespace).getD ns ∅).get? id =
      if latestId (nsMap.getD ns ∅) = some id then (nsMap.getD ns ∅).get? id else none := by
  rw [Dict.getD,Dict.get?_filterMap,Dict.getD]
  cases nsMap.get? ns with
  | none => simp [latestId_empty]
  | some checkpoints => exact pruneNamespace_get? ns id checkpoints

private theorem mem_keepCheckpoints (nsMap : Dict String (Checkpoints Blob)) (ns id : String) :
    (ns,id) ∈ keepCheckpoints nsMap ↔ latestId (nsMap.getD ns ∅) = some id := by
  simp only [keepCheckpoints,List.mem_filterMap,Option.map_eq_some_iff,Prod.mk.injEq]
  constructor
  · rintro ⟨entry,member,latest,found,rfl,rfl⟩
    rw [Dict.getD,(Dict.get?_eq_some nsMap entry.1 entry.2).mpr member]
    exact found
  · intro found
    cases present : nsMap.get? ns with
    | none =>
      rw [Dict.getD,present] at found
      cases found
    | some checkpoints =>
      rw [Dict.getD,present] at found
      exact ⟨(ns,checkpoints),(Dict.get?_eq_some nsMap ns checkpoints).mp present,id,found,rfl,rfl⟩

omit [DecidableEq Version] in
theorem mem_keepBlobs (channelVersions : Blob → Option (List (String × Version)))
    (nsMap : Dict String (Checkpoints Blob)) (ns channel : String) (version : Version) :
    (ns,channel,version) ∈ keepBlobs channelVersions nsMap ↔
      ∃ id saved versions, latestId (nsMap.getD ns ∅) = some id ∧
        (nsMap.getD ns ∅).get? id = some saved ∧ channelVersions saved.dumped = some versions ∧
        (channel,version) ∈ versions := by
  simp only [keepBlobs,List.mem_flatMap]
  constructor
  · rintro ⟨entry,member,inside⟩
    have value : nsMap.getD entry.1 ∅ = entry.2 := by
      rw [Dict.getD,(Dict.get?_eq_some nsMap entry.1 entry.2).mpr member,Option.getD_some]
    cases found : (latestId entry.2).bind entry.2.get? with
    | none => simp [found] at inside
    | some saved =>
      obtain ⟨id,latest,stored⟩ := Option.bind_eq_some_iff.mp found
      simp only [found,List.mem_map,Prod.mk.injEq] at inside
      obtain ⟨pair,referenced,rfl,rfl⟩ := inside
      cases loaded : channelVersions saved.dumped with
      | none => simp [loaded] at referenced
      | some versions =>
        rw [loaded,Option.getD_some] at referenced
        exact ⟨id,saved,versions,by rw [value,latest],by rw [value,stored],loaded,referenced⟩
  · rintro ⟨id,saved,versions,latest,stored,loaded,referenced⟩
    cases present : nsMap.get? ns with
    | none =>
      rw [Dict.getD,present] at latest
      cases latest
    | some checkpoints =>
      rw [Dict.getD,present,Option.getD_some] at latest stored
      refine ⟨(ns,checkpoints),(Dict.get?_eq_some nsMap ns checkpoints).mp present,?_⟩
      simp [latest,stored,loaded,referenced]

private theorem slice_prune (channelVersions : Blob → Option (List (String × Version)))
    (saver : Saver Version Blob) (thread : String) (nsMap : Dict String (Checkpoints Blob))
    (present : saver.storage.get? thread = some nsMap) (inhabited : nsMap.isEmpty = false) :
    (pruneThread channelVersions saver thread).storage.get? thread =
        some (nsMap.filterMap pruneNamespace) ∧
      (pruneThread channelVersions saver thread).slice thread =
        (saver.slice thread).pruned channelVersions := by
  have own : saver.storage.getD thread ∅ = nsMap := by rw [Dict.getD,present,Option.getD_some]
  have latest (ns id : String) :
      latestId (nsMap.getD ns ∅) = some id ↔ (saver.slice thread).Latest ns id := by
    rw [← own]
    exact latestId_slice saver thread ns id
  have references (ns channel : String) (version : Version) :
      (ns,channel,version) ∈ keepBlobs channelVersions nsMap ↔
        (saver.slice thread).References channelVersions ns channel version := by
    rw [mem_keepBlobs]
    simp only [latest,Slice.References,Saver.slice,own]
  simp only [pruneThread,present,inhabited,Bool.false_eq_true,if_false]
  refine ⟨by simp [Dict.get?_set],Slice.ext ?_ ?_ ?_⟩
  · funext ns id
    have kept := filterMap_getD nsMap ns id
    by_cases newest : (saver.slice thread).Latest ns id
    · rw [if_pos ((latest ns id).mpr newest)] at kept
      rw [Slice.pruned_checkpoint newest]
      simpa [Saver.slice,Dict.getD,Dict.get?_set,present] using kept
    · rw [if_neg (mt (latest ns id).mp newest)] at kept
      refine Eq.trans ?_ (if_neg newest).symm
      simpa [Saver.slice,Dict.getD,Dict.get?_set] using kept
  · funext ns id
    have kept := (mem_keepCheckpoints nsMap ns id).trans (latest ns id)
    by_cases newest : (saver.slice thread).Latest ns id
    · rw [Slice.pruned_pending newest]
      simp [Saver.slice,Dict.getD,Dict.get?_filterKeys,kept.mpr newest]
    · refine Eq.trans ?_ (if_neg newest).symm
      simp [Saver.slice,Dict.getD,Dict.get?_filterKeys,mt kept.mp newest]
  · funext ns channel version
    by_cases referenced : (saver.slice thread).References channelVersions ns channel version
    · rw [Slice.pruned_blob referenced]
      simp [Saver.slice,Dict.get?_filterKeys,(references ns channel version).mpr referenced]
    · refine Eq.trans ?_ (if_neg referenced).symm
      simp [Saver.slice,Dict.get?_filterKeys,mt (references ns channel version).mp referenced]

private theorem slice_payloadOf (saver : Saver Version Blob) (thread : String)
    (nsMap : Dict String (Checkpoints Blob)) (present : saver.storage.get? thread = some nsMap) :
    (payloadOf saver thread nsMap).slice thread = saver.slice thread := by
  ext1 <;> simp [Payload.slice,Saver.slice,payloadOf,Dict.getD,Dict.get?_filterKeys,present]

def RoundTrips (codec : Codec Version Blob) : Prop :=
  ∀ payload, codec.unpackb (codec.packb payload) = some payload

omit [DecidableEq Version] in
theorem decode_encode (codec : Codec Version Blob) (trips : RoundTrips codec)
    (payload : Payload Version Blob) :
    decodeCheckpointBlob codec (encodeCheckpointBlob codec payload) = some payload := by
  have magic : envelopeMagic.isPrefixOf (encodeCheckpointBlob codec payload) = true :=
    List.isPrefixOf_iff_prefix.mpr (List.prefix_append _ _)
  have body : (encodeCheckpointBlob codec payload).drop envelopeMagic.length =
      codec.packb payload := List.drop_left
  have nonempty : encodeCheckpointBlob codec payload ≠ [] := by
    simp [encodeCheckpointBlob,envelopeMagic]
  rw [decodeCheckpointBlob,if_neg nonempty,if_pos magic,body,trips]

/-- What the cache has for a thread stands for the slice; nothing, for the empty one. -/
def Stands (codec : Codec Version Blob) (thread : String) (slice : Slice Version Blob) :
    Option Bytes → Prop
  | none => slice = Slice.empty
  | some raw => ∃ payload, raw = encodeCheckpointBlob codec payload ∧ payload.slice thread = slice

def Holds (codec : Codec Version Blob) (cache : Cache) (thread : String)
    (slice : Slice Version Blob) : Prop :=
  Stands codec thread slice (cache.get? (cacheKey thread))

theorem Stands.unique {codec : Codec Version Blob} (trips : RoundTrips codec) {thread : String}
    {first second : Slice Version Blob} {raw : Option Bytes} (a : Stands codec thread first raw)
    (b : Stands codec thread second raw) : first = second := by
  cases raw with
  | none => exact Eq.trans a (Eq.symm b)
  | some bytes =>
    obtain ⟨payload,rfl,rfl⟩ := a
    obtain ⟨other,same,rfl⟩ := b
    have decoded := decode_encode codec trips payload
    rw [same,decode_encode codec trips other] at decoded
    rw [Option.some.inj decoded]

theorem reload_stands (codec : Codec Version Blob) (trips : RoundTrips codec)
    (saver : Saver Version Blob) {thread : String} {slice : Slice Version Blob}
    {raw : Option Bytes} (stands : Stands codec thread slice raw) :
    (reload codec saver thread raw).slice thread = slice := by
  cases raw with
  | none =>
    cases stands
    exact slice_evict saver thread
  | some bytes =>
    obtain ⟨payload,rfl,rfl⟩ := stands
    exact reload_slice codec saver thread _ payload (decode_encode codec trips payload)

theorem discard_stands (codec : Codec Version Blob) (trips : RoundTrips codec) (cache : Cache)
    {thread : String} {slice : Slice Version Blob} {raw : Option Bytes}
    (stands : Stands codec thread slice raw) : discard codec cache thread raw = cache := by
  cases raw with
  | none => rfl
  | some bytes =>
    obtain ⟨payload,rfl,_⟩ := stands
    simp [discard,decode_encode codec trips payload]

theorem cacheKey_injective {first second : String} (same : cacheKey first = cacheKey second) :
    first = second := by
  unfold cacheKey at same
  have chars := congrArg String.toList same
  simp only [String.toList_append] at chars
  have inner := List.append_cancel_left (List.append_cancel_right chars)
  exact String.toList_inj.mp inner

theorem store_own (cache : Cache) (thread : String) (entry : Option Bytes) :
    (store cache thread entry).get? (cacheKey thread) = entry := by
  cases entry <;> simp [store,Dict.get?_erase,Dict.get?_set]

theorem store_other (cache : Cache) (thread other : String) (entry : Option Bytes)
    (different : other ≠ thread) :
    (store cache thread entry).get? (cacheKey other) = cache.get? (cacheKey other) := by
  have keys : cacheKey other ≠ cacheKey thread := fun same => different (cacheKey_injective same)
  cases entry <;> simp [store,Dict.get?_erase,Dict.get?_set,keys]

private theorem empty_of_no_entries (saver : Saver Version Blob) (thread : String)
    (none' : ∀ ns, (saver.storage.getD thread ∅).get? ns = none) (ns id : String) :
    (saver.slice thread).checkpoint ns id = none := by
  simp only [Saver.slice]
  rw [Dict.getD,none' ns]
  rfl

theorem latestId_eq_none (checkpoints : Checkpoints Blob) :
    latestId checkpoints = none ↔ ∀ id, checkpoints.get? id = none := by
  rw [latestId,List.max?_eq_none_iff]
  simp only [Dict.get?_eq_none,List.eq_nil_iff_forall_not_mem]

private theorem empty_of_no_latest (saver : Saver Version Blob) (thread : String)
    (none' : ∀ ns, latestId ((saver.storage.getD thread ∅).getD ns ∅) = none) (ns id : String) :
    (saver.slice thread).checkpoint ns id = none :=
  (latestId_eq_none _).mp (none' ns) id

private theorem latestId_of_pruned_empty (nsMap : Dict String (Checkpoints Blob))
    (left : (nsMap.filterMap pruneNamespace).isEmpty = true) (ns : String) :
    latestId (nsMap.getD ns ∅) = none := by
  have gone := (Dict.isEmpty_iff _).mp left ns
  rw [Dict.get?_filterMap] at gone
  cases present : nsMap.get? ns with
  | none =>
    rw [Dict.getD,present]
    exact latestId_empty
  | some checkpoints =>
    rw [Dict.getD,present]
    simpa [present,pruneNamespace] using gone

theorem snapshot_stands (codec : Codec Version Blob)
    (channelVersions : Blob → Option (List (String × Version))) (saver : Saver Version Blob)
    (thread : String) :
    Stands codec thread ((saver.slice thread).pruned channelVersions)
      (snapshot codec channelVersions saver thread).2 := by
  cases present : saver.storage.get? thread with
  | none =>
    have same : (snapshot codec channelVersions saver thread).2 = none := by
      simp [snapshot,pruneThread,present]
    rw [same]
    exact Slice.pruned_empty
      (empty_of_no_entries saver thread (fun ns => by simp [Dict.getD,present]))
  | some nsMap =>
    have own : saver.storage.getD thread ∅ = nsMap := by rw [Dict.getD,present,Option.getD_some]
    cases inhabited : nsMap.isEmpty with
    | true =>
      have same : (snapshot codec channelVersions saver thread).2 = none := by
        simp [snapshot,pruneThread,present,inhabited]
      rw [same]
      refine Slice.pruned_empty (empty_of_no_entries saver thread (fun ns => ?_))
      rw [own]
      exact (Dict.isEmpty_iff nsMap).mp inhabited ns
    | false =>
      obtain ⟨stored,pruned⟩ := slice_prune channelVersions saver thread nsMap present inhabited
      cases left : (nsMap.filterMap pruneNamespace).isEmpty with
      | true =>
        have same : (snapshot codec channelVersions saver thread).2 = none := by
          simp [snapshot,stored,left]
        rw [same]
        refine Slice.pruned_empty (empty_of_no_latest saver thread (fun ns => ?_))
        rw [own]
        exact latestId_of_pruned_empty nsMap left ns
      | false =>
        have same : (snapshot codec channelVersions saver thread).2 =
            some (encodeCheckpointBlob codec
              (payloadOf (pruneThread channelVersions saver thread) thread
                (nsMap.filterMap pruneNamespace))) := by
          simp [snapshot,stored,left]
        rw [same]
        exact ⟨_,rfl,(slice_payloadOf _ _ _ stored).trans pruned⟩

end CustomerService.CheckpointSaver
