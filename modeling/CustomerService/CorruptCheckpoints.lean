import CustomerService.CheckpointEnvelope

/-! What may stand under the key of a thread: any bytes. They are an envelope, or a pickle of any
object, and what they decode to is installed as it is. -/
namespace CustomerService.CorruptCheckpoints
open CheckpointSaver (Saved Write Cache cacheKey)
open CheckpointEnvelope (Typed OuterKey BlobKey InnerKey.tuple Libraries Loaded LoadedSaved LoadedWrite
  decodeCheckpointBlob)
open Py

abbrev Entries := List (Obj × Obj)

abbrev Nested := List (Obj × Entries)

/-- The dictionaries of the saver: `storage` by thread and namespace. -/
structure Memory where
  storage : List (String × Nested)
  writes : Nested
  blobs : Entries

def update (current pairs : Entries) : Entries :=
  alterAll Obj.same Prod.fst (fun item _ => item.2) current pairs

/-- `nested[key].update(pairs)` for each of the items, on a defaultdict. -/
def updateAll (nested : Nested) (items : List (Obj × Entries)) : Nested :=
  alterAll Obj.same Prod.fst (fun item inner => update (inner.getD []) item.2) nested items

/-! ### What a payload holds -/

mutual

def object : Msg → Obj
  | .atom value => .atom value
  | .list items => .list (objects items)
  | .map entries => .dict (objectEntries entries)

def objects : List Msg → List Obj
  | [] => []
  | item :: rest => object item :: objects rest

def objectEntries : List (String × Msg) → Entries
  | [] => []
  | (name,value) :: rest => (.str name,object value) :: objectEntries rest

end

def keyObject (key : List Atom) : Obj := .tuple (key.map .atom)

def typedObject (typed : Typed) : Obj := .tuple [.str typed.1,.atom (.bytes typed.2)]

def savedEntry (saved : String × LoadedSaved) : Obj × Obj :=
  (.str saved.1,.tuple [typedObject saved.2.dumped,typedObject saved.2.metadata,object saved.2.parent])

def writeEntry (write : List Atom × LoadedWrite) : Obj × Obj :=
  (keyObject write.1,.tuple [object write.2.taskId,object write.2.channel,typedObject write.2.value,
    object write.2.taskPath])

def blobEntry (blob : List Atom × Typed) : Obj × Obj := (keyObject blob.1,typedObject blob.2)

/-- The dictionary that `_payload_from_msgpack` returns. -/
def loadedEntries (loaded : Loaded) : Entries :=
  [(.str "storage",.dict (loaded.storage.map (fun entry => (.str entry.1,.dict (entry.2.map savedEntry))))),
    (.str "writes",.dict (loaded.writes.map (fun entry =>
      (keyObject entry.1,.dict (entry.2.map writeEntry))))),
    (.str "blobs",.dict (loaded.blobs.map blobEntry))]

/-- What `pickle.loads` does when it raises no `Exception`. -/
inductive Unpickled
  | exits
  | object (loaded : Obj)

/-- `decode_checkpoint_blob`, none where it raises: the dictionary, if there is one. -/
def decoded (lib : Libraries Unpickled) (raw : Bytes) : Option (Option Entries) :=
  match decodeCheckpointBlob lib raw with
  | none => some none
  | some (.envelope loaded) => some (some (loadedEntries loaded))
  | some (.pickle .exits) => none
  | some (.pickle (.object (.dict entries))) => some (some entries)
  | some (.pickle (.object _)) => some none

/-- `(payload.get(name) or {})`. -/
def part (payload : Entries) (name : String) : Option Obj :=
  match payload.find? (fun entry => entry.1.same (.str name)) with
  | none => some (.dict [])
  | some entry => entry.2.truthy.map (fun truth => if truth then entry.2 else .dict [])

def hashed (pairs : Entries) : Option Entries :=
  if pairs.all (fun pair => pair.1.hashable) then some pairs else none

def pairsOf (object : Obj) : Option Entries := object.pairs?.bind hashed

/-- The items of a part, each with what `update` takes from its value. -/
def itemsOf (object : Obj) : Option (List (Obj × Entries)) := do
  (← hashed (← object.entries?)).mapM (fun item => (pairsOf item.2).map (fun pairs => (item.1,pairs)))

structure Content where
  storage : List (Obj × Entries)
  writes : List (Obj × Entries)
  blobs : Entries

def contentOf (payload : Entries) : Option Content := do
  return ⟨← itemsOf (← part payload "storage"),← itemsOf (← part payload "writes"),
    ← pairsOf (← part payload "blobs")⟩

/-! ### Loading -/

def ofThread (thread : String) (key : Obj) : Bool := key.first?.any (fun first => first.same (.str thread))

def Memory.others (thread : String) (memory : Memory) : Memory where
  storage := memory.storage.filter (fun entry => entry.1 ≠ thread)
  writes := memory.writes.filter (fun entry => ofThread thread entry.1 = false)
  blobs := memory.blobs.filter (fun entry => ofThread thread entry.1 = false)

def Memory.own (thread : String) (memory : Memory) : Memory where
  storage := memory.storage.filter (fun entry => entry.1 = thread)
  writes := memory.writes.filter (fun entry => ofThread thread entry.1)
  blobs := memory.blobs.filter (fun entry => ofThread thread entry.1)

/-- `_evict_thread` raises at a key without a first item. -/
def evictThread (memory : Memory) (thread : String) : Option Memory :=
  if (memory.writes.map Prod.fst ++ memory.blobs.map Prod.fst).all (fun key => key.first?.isSome) then
    some (memory.others thread)
  else none

/-- The loops of `_load`; the thread has been evicted. -/
def install (memory : Memory) (thread : String) (content : Content) : Memory where
  storage := if content.storage.isEmpty then memory.storage
    else memory.storage ++ [(thread,updateAll [] content.storage)]
  writes := updateAll memory.writes content.writes
  blobs := update memory.blobs content.blobs

/-- The body of `_load` and of `_aload`, none where it raises. -/
def loadFrom (lib : Libraries Unpickled) (cache : Cache) (memory : Memory) (thread : String) :
    Option (Cache × Memory) :=
  match cache.get? (cacheKey thread) with
  | none => (evictThread memory thread).map (fun evicted => (cache,evicted))
  | some raw =>
    if raw.isEmpty then (evictThread memory thread).map (fun evicted => (cache,evicted))
    else
      match decoded lib raw with
      | none => none
      | some none =>
        (evictThread memory thread).map (fun evicted => (cache.erase (cacheKey thread),evicted))
      | some (some payload) => do
        let evicted ← evictThread memory thread
        if payload.isEmpty then return (cache,evicted)
        return (cache,install evicted thread (← contentOf payload))

structure Caches where
  cache : Cache
  asyncCache : Option Cache

def load (lib : Libraries Unpickled) (caches : Caches) (memory : Memory) (thread : String) :
    Option (Caches × Memory) :=
  (loadFrom lib caches.cache memory thread).map (fun done => (⟨done.1,caches.asyncCache⟩,done.2))

def aload (lib : Libraries Unpickled) (caches : Caches) (memory : Memory) (thread : String) :
    Option (Caches × Memory) :=
  match caches.asyncCache with
  | some cache =>
    (loadFrom lib cache memory thread).map (fun done => (⟨caches.cache,some done.1⟩,done.2))
  | none => load lib caches memory thread

def Caches.awaited (caches : Caches) : Cache := caches.asyncCache.getD caches.cache

/-! ### Well-formed states -/

def savedObject (saved : Saved Typed) : Obj :=
  .tuple [typedObject saved.dumped,typedObject saved.metadata,saved.parent.elim (.atom .none) .str]

def writeObject (write : Write Typed) : Obj :=
  .tuple [.str write.taskId,.str write.channel,typedObject write.value,.str write.taskPath]

def Hold {Key Value : Type} (key : Key → Obj) (value : Value → Obj) (entries : Entries) : Prop :=
  ∀ entry ∈ entries, ∃ k v, entry = (key k,value v)

def Namespaces (nested : Nested) : Prop :=
  ∀ entry ∈ nested, ∃ ns, entry.1 = .str ns ∧ Hold .str savedObject entry.2

def Pendings (keys : OuterKey → Prop) (nested : Nested) : Prop :=
  ∀ entry ∈ nested, ∃ key, keys key ∧ entry.1 = keyObject (OuterKey.tuple key) ∧
    Hold (fun inner => keyObject (InnerKey.tuple inner)) writeObject entry.2

def Blobs (keys : BlobKey → Prop) (entries : Entries) : Prop :=
  ∀ entry ∈ entries, ∃ key typed, keys key ∧ entry = (keyObject (BlobKey.tuple key),typedObject typed)

structure Memory.WellFormed (memory : Memory) : Prop where
  storage : ∀ entry ∈ memory.storage, Namespaces entry.2
  writes : Pendings (fun _ => True) memory.writes
  blobs : Blobs (fun _ => True) memory.blobs

/-- The dictionaries that the parts make up hold well-formed entries of the thread. -/
structure Content.Of (thread : String) (content : Content) : Prop where
  storage : Namespaces (updateAll [] content.storage)
  writes : Pendings (fun key => key.1 = thread) (updateAll [] content.writes)
  blobs : Blobs (fun key => key.1 = thread) (update [] content.blobs)

/-- The bytes are no dictionary, or one with a state of the thread in its three parts. -/
def Sound (lib : Libraries Unpickled) (thread : String) (raw : Bytes) : Prop :=
  raw = [] ∨ ∃ dictionary, decoded lib raw = some dictionary ∧ ∀ payload, dictionary = some payload →
    ∃ content, contentOf payload = some content ∧ content.Of thread

/-- The thread has a well-formed state or, with its entry gone, none; the others are as they were. -/
structure Settled (thread : String) (cache : Cache) (memory : Memory) (done : Cache × Memory) :
    Prop where
  formed : done.2.WellFormed
  others : done.2.others thread = memory.others thread
  entry : done.1 = cache ∨
    done.1 = cache.erase (cacheKey thread) ∧ done.2.own thread = ⟨[],[],[]⟩

/-! ### Keys -/

/-- A tuple whose first item is a string, as the keys of `writes` and `blobs` are. -/
def Started (key : Obj) : Prop := ∃ text rest, key = .tuple (.str text :: rest)

private theorem outer_started (key : OuterKey) : Started (keyObject (OuterKey.tuple key)) := ⟨key.1,_,rfl⟩

private theorem blob_started (key : BlobKey) : Started (keyObject (BlobKey.tuple key)) := ⟨key.1,_,rfl⟩

private theorem ofThread_started (thread text : String) (rest : List Obj) :
    ofThread thread (.tuple (.str text :: rest)) = (text == thread) := by
  change (Obj.atom (.str text)).same (.atom (.str thread)) = _
  rw [Obj.same,Atom.same_str]

private theorem same_ofThread (thread : String) {key other : Obj} (started : Started key)
    (equal : key.same other = true) : ofThread thread other = ofThread thread key := by
  obtain ⟨text,rest,rfl⟩ := started
  unfold ofThread
  rw [Obj.same_started equal]
  rfl

private theorem alterAll_own {Value Item : Type} (thread : String) (key : Item → Obj)
    (change : Item → Option Value → Value) {front : List (Obj × Value)} {items : List Item}
    (others : ∀ entry ∈ front, Started entry.1 ∧ ofThread thread entry.1 = false)
    (own : ∀ entry ∈ alterAll Obj.same key change [] items,
      Started entry.1 ∧ ofThread thread entry.1 = true) :
    alterAll Obj.same key change front items =
        front ++ alterAll Obj.same key change [] items ∧
      (alterAll Obj.same key change front items).filter
        (fun entry => ofThread thread entry.1 = false) = front := by
  have entered : ∀ item ∈ items, ofThread thread (key item) = true := by
    intro item listed
    obtain ⟨held,here,equal⟩ := (alterAll_keys Obj.same key change [] items).2 item listed
    obtain ⟨entry,inside,rfl⟩ := List.mem_map.mp here
    have its := own entry inside
    obtain same | same := equal
    · exact same ▸ its.2
    · exact (same_ofThread thread its.1 same).trans its.2
  have grown := alterAll_append Obj.same key change front [] items (fun item listed entry here => by
    by_contra clash
    have equal := same_ofThread thread (others entry here).1 (Bool.not_eq_false _ ▸ clash)
    rw [entered item listed,(others entry here).2] at equal
    cases equal)
  rw [List.append_nil] at grown
  refine ⟨grown,?_⟩
  rw [grown,List.filter_append]
  have kept : front.filter (fun entry => ofThread thread entry.1 = false) = front :=
    List.filter_eq_self.mpr (fun entry here => decide_eq_true (others entry here).2)
  have none' : (alterAll Obj.same key change [] items).filter
      (fun entry => ofThread thread entry.1 = false) = [] :=
    List.filter_eq_nil_iff.mpr (fun entry here => by simp [(own entry here).2])
  rw [kept,none',List.append_nil]

/-! ### One load -/

theorem Memory.WellFormed.evicts {memory : Memory} (formed : memory.WellFormed) (thread : String) :
    evictThread memory thread = some (memory.others thread) := by
  refine if_pos (List.all_eq_true.mpr (fun key listed => ?_))
  obtain here | here := List.mem_append.mp listed
  · obtain ⟨entry,inside,rfl⟩ := List.mem_map.mp here
    obtain ⟨outer,_,same,_⟩ := formed.writes entry inside
    rw [same]
    rfl
  · obtain ⟨entry,inside,rfl⟩ := List.mem_map.mp here
    obtain ⟨blob,_,_,same⟩ := formed.blobs entry inside
    rw [same]
    rfl

theorem Memory.WellFormed.others {memory : Memory} (formed : memory.WellFormed) (thread : String) :
    (memory.others thread).WellFormed :=
  ⟨fun entry listed => formed.storage entry (List.mem_of_mem_filter listed),
    fun entry listed => formed.writes entry (List.mem_of_mem_filter listed),
    fun entry listed => formed.blobs entry (List.mem_of_mem_filter listed)⟩

private theorem empty_wellFormed : (⟨[],[],[]⟩ : Memory).WellFormed := by
  refine ⟨?_,?_,?_⟩ <;> exact fun _ listed => by cases listed

private theorem others_others (memory : Memory) (thread : String) :
    (memory.others thread).others thread = memory.others thread := by
  simp [Memory.others,List.filter_filter]

private theorem own_others (memory : Memory) (thread : String) :
    (memory.others thread).own thread = ⟨[],[],[]⟩ := by
  simp [Memory.others,Memory.own,List.filter_filter]

private theorem others_installed_storage (memory : Memory) (thread : String) (content : Content) :
    (install (memory.others thread) thread content).storage.filter (fun entry => entry.1 ≠ thread) =
      (memory.others thread).storage := by
  have kept : (memory.others thread).storage.filter (fun entry => entry.1 ≠ thread) = _ :=
    congrArg Memory.storage (others_others memory thread)
  unfold install
  dsimp only
  split
  · exact kept
  · rw [List.filter_append,kept,List.filter_singleton]
    simp

private theorem install_settles {memory : Memory} (formed : memory.WellFormed) {thread : String}
    {content : Content} (its : content.Of thread) :
    (install (memory.others thread) thread content).WellFormed ∧
      (install (memory.others thread) thread content).others thread = memory.others thread := by
  have kept := formed.others thread
  have pending : ∀ entry ∈ updateAll [] content.writes,
      Started entry.1 ∧ ofThread thread entry.1 = true := by
    intro entry listed
    obtain ⟨key,same,held,_⟩ := its.writes entry listed
    rw [held]
    exact ⟨outer_started key,(ofThread_started _ _ _).trans (beq_iff_eq.mpr same)⟩
  have blob : ∀ entry ∈ update [] content.blobs,
      Started entry.1 ∧ ofThread thread entry.1 = true := by
    intro entry listed
    obtain ⟨key,_,same,rfl⟩ := its.blobs entry listed
    exact ⟨blob_started key,(ofThread_started _ _ _).trans (beq_iff_eq.mpr same)⟩
  have writes := alterAll_own thread Prod.fst
    (fun (item : Obj × Entries) inner => update (inner.getD []) item.2) (fun entry listed => by
      obtain ⟨key,_,held,_⟩ := kept.writes entry listed
      exact ⟨held ▸ outer_started key,of_decide_eq_true (List.mem_filter.mp listed).2⟩) pending
  have blobs := alterAll_own thread Prod.fst (fun (item : Obj × Obj) _ => item.2)
    (fun entry listed => by
      obtain ⟨key,_,_,held⟩ := kept.blobs entry listed
      exact ⟨held ▸ blob_started key,of_decide_eq_true (List.mem_filter.mp listed).2⟩) blob
  refine ⟨⟨?_,?_,?_⟩,?_⟩
  · intro entry listed
    unfold install at listed
    dsimp only at listed
    split at listed
    · exact kept.storage entry listed
    · obtain old | new := List.mem_append.mp listed
      · exact kept.storage entry old
      · obtain rfl := List.mem_singleton.mp new
        exact its.storage
  · intro entry listed
    change entry ∈ updateAll _ _ at listed
    rw [updateAll,writes.1] at listed
    obtain old | new := List.mem_append.mp listed
    · exact kept.writes entry old
    · obtain ⟨key,_,same⟩ := its.writes entry new
      exact ⟨key,trivial,same⟩
  · intro entry listed
    change entry ∈ update _ _ at listed
    rw [update,blobs.1] at listed
    obtain old | new := List.mem_append.mp listed
    · exact kept.blobs entry old
    · obtain ⟨key,typed,_,same⟩ := its.blobs entry new
      exact ⟨key,typed,trivial,same⟩
  · change (⟨_,_,_⟩ : Memory) = _
    rw [others_installed_storage]
    exact congrArg₂ (Memory.mk _) writes.2 blobs.2

private theorem of_settles {cache : Cache} {thread : String} {content : Content} {done : Cache}
    (settled : Settled thread cache ⟨[],[],[]⟩ (done,install ⟨[],[],[]⟩ thread content)) :
    content.Of thread := by
  obtain ⟨⟨storage,writes,blobs⟩,others,_⟩ := settled
  have nothing : (install ⟨[],[],[]⟩ thread content).others thread = ⟨[],[],[]⟩ := others
  obtain ⟨_,noWrites,noBlobs⟩ := Memory.mk.inj nothing
  refine ⟨?_,fun entry listed => ?_,fun entry listed => ?_⟩
  · by_cases blank : content.storage.isEmpty = true
    · rw [List.isEmpty_iff.mp blank]
      exact fun _ listed => by cases listed
    · refine storage (thread,updateAll [] content.storage) ?_
      change _ ∈ if _ then _ else _
      rw [if_neg blank]
      exact List.mem_cons_self
  · obtain ⟨key,_,held,inner⟩ := writes entry listed
    have mine := List.filter_eq_nil_iff.mp noWrites entry listed
    rw [held] at mine
    change ¬decide (ofThread thread (.tuple (.str key.1 :: _)) = false) = true at mine
    rw [ofThread_started] at mine
    exact ⟨key,by simpa using mine,held,inner⟩
  · obtain ⟨key,typed,_,held⟩ := blobs entry listed
    have mine := List.filter_eq_nil_iff.mp noBlobs entry listed
    rw [held] at mine
    change ¬decide (ofThread thread (.tuple (.str key.1 :: _)) = false) = true at mine
    rw [ofThread_started] at mine
    exact ⟨key,typed,by simpa using mine,held⟩

section
variable {lib : Libraries Unpickled} {thread : String} {raw : Bytes}

private theorem loadFrom_settles (sound : Sound lib thread raw) {cache : Cache} {memory : Memory}
    (formed : memory.WellFormed) (found : cache.get? (cacheKey thread) = some raw) :
    ∃ done, loadFrom lib cache memory thread = some done ∧ Settled thread cache memory done := by
  have evicts := formed.evicts thread
  have emptied : Settled thread cache memory (cache,memory.others thread) :=
    ⟨formed.others thread,others_others memory thread,.inl rfl⟩
  unfold loadFrom
  rw [found,evicts]
  dsimp only
  obtain rfl | ⟨dictionary,reads,payload⟩ := sound
  · exact ⟨_,rfl,emptied⟩
  · split
    · exact ⟨_,rfl,emptied⟩
    · rw [reads]
      cases dictionary with
      | none =>
        exact ⟨_,rfl,formed.others thread,others_others memory thread,.inr ⟨rfl,own_others memory thread⟩⟩
      | some entries =>
        obtain ⟨content,holds,its⟩ := payload entries rfl
        dsimp only [Option.bind_eq_bind,Option.bind_some]
        split
        · exact ⟨_,rfl,emptied⟩
        · rw [holds]
          have installed := install_settles formed its
          exact ⟨_,rfl,installed.1,installed.2,.inl rfl⟩

private theorem sound_of_settles (settles : ∀ (cache : Cache) (memory : Memory), memory.WellFormed →
      cache.get? (cacheKey thread) = some raw →
        ∃ done, loadFrom lib cache memory thread = some done ∧ Settled thread cache memory done) :
    Sound lib thread raw := by
  by_cases blank : raw = []
  · exact .inl blank
  have here : ((∅ : Cache).set (cacheKey thread) raw).get? (cacheKey thread) = some raw := by
    rw [Dict.get?_set,if_pos rfl]
  obtain ⟨done,ran,settled⟩ := settles _ _ empty_wellFormed here
  unfold loadFrom at ran
  rw [here] at ran
  dsimp only at ran
  rw [if_neg (by simpa using blank)] at ran
  cases reads : decoded lib raw with
  | none =>
    rw [reads] at ran
    cases ran
  | some dictionary =>
    refine .inr ⟨dictionary,reads,fun payload same => ?_⟩
    obtain rfl := same
    rw [reads] at ran
    cases entries : payload with
    | nil =>
      refine ⟨⟨[],[],[]⟩,rfl,?_,?_,?_⟩ <;> exact fun _ listed => by cases listed
    | cons first rest =>
      have evicted : evictThread ⟨[],[],[]⟩ thread = some ⟨[],[],[]⟩ := rfl
      rw [entries,evicted] at ran
      dsimp only [Option.bind_eq_bind,Option.bind_some] at ran
      rw [if_neg (by simp)] at ran
      cases holds : contentOf (first :: rest) with
      | none =>
        rw [holds] at ran
        cases ran
      | some content =>
        rw [holds] at ran
        obtain rfl := Option.some.inj ran
        exact ⟨content,rfl,of_settles settled⟩

end

/-- From every state of the memory and of the caches, both loads settle the thread. -/
def Discards (lib : Libraries Unpickled) (thread : String) (raw : Bytes) : Prop :=
  ∀ (caches : Caches) (memory : Memory), memory.WellFormed →
    (caches.cache.get? (cacheKey thread) = some raw → ∃ caches' memory',
      load lib caches memory thread = some (caches',memory') ∧
        caches'.asyncCache = caches.asyncCache ∧
        Settled thread caches.cache memory (caches'.cache,memory')) ∧
    (caches.awaited.get? (cacheKey thread) = some raw → ∃ caches' memory',
      aload lib caches memory thread = some (caches',memory') ∧
        Settled thread caches.awaited memory (caches'.awaited,memory'))

theorem discards_iff (lib : Libraries Unpickled) (thread : String) (raw : Bytes) :
    Discards lib thread raw ↔ Sound lib thread raw := by
  constructor
  · intro discards
    refine sound_of_settles (fun cache memory formed found => ?_)
    obtain ⟨caches,after,ran,_,settled⟩ := (discards ⟨cache,none⟩ memory formed).1 found
    obtain ⟨done,inner,same⟩ := Option.map_eq_some_iff.mp ran
    obtain ⟨rfl,rfl⟩ := Prod.mk.inj same
    exact ⟨done,inner,settled⟩
  · intro sound caches memory formed
    constructor
    · intro found
      obtain ⟨done,ran,settled⟩ := loadFrom_settles sound formed found
      exact ⟨_,_,Option.map_eq_some_iff.mpr ⟨done,ran,rfl⟩,rfl,settled⟩
    · intro found
      obtain ⟨done,ran,settled⟩ := loadFrom_settles sound formed found
      obtain ⟨cache,asyncCache⟩ := caches
      cases asyncCache with
      | none => exact ⟨_,_,Option.map_eq_some_iff.mpr ⟨done,ran,rfl⟩,settled⟩
      | some awaited => exact ⟨_,_,Option.map_eq_some_iff.mpr ⟨done,ran,rfl⟩,settled⟩

/-! ### Envelopes -/

private theorem hashable_keyObject (key : List Atom) : (keyObject key).hashable = true := by
  change Obj.allHashable (key.map .atom) = true
  induction key with
  | nil => rfl
  | cons atom rest ih =>
    rw [List.map_cons,Obj.allHashable,ih]
    rfl

private theorem hashed_of {pairs : Entries} (keys : ∀ pair ∈ pairs, pair.1.hashable = true) :
    hashed pairs = some pairs := if_pos (List.all_eq_true.mpr keys)

private theorem itemsOf_dict {Item : Type} (key : Item → Obj) (inner : Item → Entries) (items : List Item)
    (keys : ∀ item, (key item).hashable = true ∧ ∀ pair ∈ inner item, pair.1.hashable = true) :
    itemsOf (.dict (items.map (fun item => (key item,.dict (inner item))))) =
      some (items.map (fun item => (key item,inner item))) := by
  have outer : hashed (items.map (fun item => (key item,.dict (inner item)))) = some _ :=
    hashed_of (fun pair listed => by
      obtain ⟨item,_,rfl⟩ := List.mem_map.mp listed
      exact (keys item).1)
  unfold itemsOf
  simp only [Obj.entries?,Option.bind_eq_bind,Option.bind_some,outer]
  refine mapM_map_some _ _ (fun item => (key item,inner item)) items (fun item _ => ?_)
  change (hashed (inner item)).map _ = _
  rw [hashed_of (keys item).2]
  rfl

private theorem part_dict {payload : Entries} {name : String} {entries : Entries}
    (held : payload.find? (fun entry => entry.1.same (.str name)) = some (.str name,.dict entries)) :
    part payload name = some (.dict entries) := by
  unfold part
  rw [held]
  cases entries <;> rfl

theorem envelope_content (loaded : Loaded) : ∃ content, contentOf (loadedEntries loaded) = some content := by
  have storage := itemsOf_dict (fun entry : String × List (String × LoadedSaved) => .str entry.1)
    (fun entry => entry.2.map savedEntry) loaded.storage (fun entry => ⟨rfl,fun pair listed => by
      obtain ⟨saved,_,rfl⟩ := List.mem_map.mp listed
      rfl⟩)
  have writes := itemsOf_dict (fun entry : List Atom × List (List Atom × LoadedWrite) => keyObject entry.1)
    (fun entry => entry.2.map writeEntry) loaded.writes
    (fun entry => ⟨hashable_keyObject entry.1,fun pair listed => by
      obtain ⟨write,_,rfl⟩ := List.mem_map.mp listed
      exact hashable_keyObject write.1⟩)
  have blobs : pairsOf (.dict (loaded.blobs.map blobEntry)) = some _ := hashed_of (fun pair listed => by
    obtain ⟨entry,_,rfl⟩ := List.mem_map.mp listed
    exact hashable_keyObject entry.1)
  have parts : part (loadedEntries loaded) "storage" = some (.dict (loaded.storage.map
        (fun entry => (.str entry.1,.dict (entry.2.map savedEntry))))) ∧
      part (loadedEntries loaded) "writes" = some (.dict (loaded.writes.map
        (fun entry => (keyObject entry.1,.dict (entry.2.map writeEntry))))) ∧
      part (loadedEntries loaded) "blobs" = some (.dict (loaded.blobs.map blobEntry)) := by
    refine ⟨part_dict ?_,part_dict ?_,part_dict ?_⟩ <;> simp [loadedEntries,Obj.same]
  unfold contentOf
  rw [parts.1,parts.2.1,parts.2.2]
  simp only [Option.bind_eq_bind,Option.bind_some]
  rw [storage,writes,blobs]
  exact ⟨_,rfl⟩

theorem envelope_loads {lib : Libraries Unpickled} {thread : String} {raw : Bytes} {loaded : Loaded}
    (decodes : decodeCheckpointBlob lib raw = some (.envelope loaded)) {cache : Cache} {memory : Memory}
    (formed : memory.WellFormed) (found : cache.get? (cacheKey thread) = some raw) :
    ∃ done, loadFrom lib cache memory thread = some done := by
  obtain ⟨content,holds⟩ := envelope_content loaded
  unfold loadFrom decoded
  rw [found,formed.evicts thread]
  dsimp only
  split
  · exact ⟨_,rfl⟩
  · rw [decodes]
    dsimp only [Option.bind_eq_bind,Option.bind_some]
    rw [holds]
    exact ⟨_,rfl⟩

/-! ### Entries that do harm -/

/-- `pickle.dumps({"storage": [1]}, protocol=4)`. -/
def listed : Bytes :=
  [128,4,149,19,0,0,0,0,0,0,0,125,148,140,7,115,116,111,114,97,103,101,148,93,148,75,1,97,115,46]

/-- The envelope of `{"writes": [[["b", "", "1"], []]]}`. -/
def foreign : Bytes :=
  [67,83,75,49,129,166,119,114,105,116,101,115,145,146,147,161,98,160,161,49,144]

def libraries : Libraries Unpickled where
  packb _ := none
  unpackb raw := if raw = foreign.drop 4 then
      some (.map [("writes",.list [.list [.list [.str "b",.str "",.str "1"],.list []]])])
    else none
  pickleLoads raw := if raw = listed then
      some (.object (.dict [(.str "storage",.list [.atom (.int 1)])]))
    else none
  render _ := ""

def under (thread : String) (raw : Bytes) : Caches := ⟨(∅ : Cache).set (cacheKey thread) raw,none⟩

/-- The pickle makes the load of `a` raise, the envelope gives the thread `b` an entry. -/
theorem entries_harm :
    (load libraries (under "a" listed) ⟨[],[],[]⟩ "a").isNone = true ∧
      (load libraries (under "a" foreign) ⟨[],[],[]⟩ "a").map
        (fun done => (done.2.others "a").writes.length) = some 1 ∧
      ¬∀ lib thread raw, Discards lib thread raw := by
  have raises : (load libraries (under "a" listed) ⟨[],[],[]⟩ "a").isNone = true := by decide +kernel
  refine ⟨raises,by decide +kernel,fun discards => ?_⟩
  have found : (under "a" listed).cache.get? (cacheKey "a") = some listed :=
    (Dict.get?_set _ _ _ _).trans (if_pos rfl)
  obtain ⟨_,_,ran,_⟩ := (discards libraries "a" listed _ _ empty_wellFormed).1 found
  rw [ran] at raises
  cases raises

end CustomerService.CorruptCheckpoints
