import CustomerService.Dict
import Mathlib.Data.String.Basic
import Mathlib.Order.Basic

/-! `CachedInMemorySaver`: the three dictionaries of the in-memory saver, and
the loading, pruning and persisting of one thread of them. The in-memory saver
itself is a third-party class; its operations and the checkpoint serialiser are
parameters. -/
namespace CustomerService.CheckpointSaver

abbrev Bytes := List UInt8

/-- An entry of `storage`: the dumped checkpoint, the dumped metadata and the
parent checkpoint id. -/
structure Saved (Blob : Type) where
  dumped : Blob
  metadata : Blob
  parent : Option String
deriving DecidableEq

structure Write (Blob : Type) where
  taskId : String
  channel : String
  value : Blob
  taskPath : String
deriving DecidableEq

/-- A task id and the index of the write in the task. -/
abbrev InnerKey := String × Int

abbrev Checkpoints (Blob : Type) := Dict String (Saved Blob)
abbrev Pending (Blob : Type) := Dict InnerKey (Write Blob)

/-- `storage` by thread, namespace and checkpoint id; `writes` by thread,
namespace and checkpoint id; `blobs` by thread, namespace, channel and version. -/
structure Saver (Version Blob : Type) where
  storage : Dict String (Dict String (Checkpoints Blob))
  writes : Dict (String × String × String) (Pending Blob)
  blobs : Dict (String × String × String × Version) Blob

structure Payload (Version Blob : Type) where
  storage : Dict String (Checkpoints Blob)
  writes : Dict (String × String × String) (Pending Blob)
  blobs : Dict (String × String × String × Version) Blob

variable {Version Blob : Type} [DecidableEq Version]

def Saver.empty : Saver Version Blob := ⟨∅,∅,∅⟩

/-- `ormsgpack` on the payload, and `pickle` for the entries of old sessions. -/
structure Codec (Version Blob : Type) where
  packb : Payload Version Blob → Bytes
  unpackb : Bytes → Option (Payload Version Blob)
  pickleLoads : Bytes → Option (Payload Version Blob)

/-- `CSK1`. -/
def envelopeMagic : Bytes := [67,83,75,49]

def encodeCheckpointBlob (codec : Codec Version Blob) (payload : Payload Version Blob) : Bytes :=
  envelopeMagic ++ codec.packb payload

def decodeCheckpointBlob (codec : Codec Version Blob) (raw : Bytes) :
    Option (Payload Version Blob) :=
  if raw = [] then none
  else if envelopeMagic.isPrefixOf raw then codec.unpackb (raw.drop envelopeMagic.length)
  else codec.pickleLoads raw

abbrev Cache := Dict String Bytes

def cacheKey (thread : String) : String := "cs:session:\x7b" ++ thread ++ "\x7d"

def evictThread (saver : Saver Version Blob) (thread : String) : Saver Version Blob where
  storage := saver.storage.erase thread
  writes := saver.writes.filter (fun key _ => key.1 != thread)
  blobs := saver.blobs.filter (fun key _ => key.1 != thread)

/-- `current.update(checkpoints)` on a defaultdict entry. -/
def updateEntry {Key Value : Type} [DecidableEq Key] (current : Option (Dict Key Value))
    (added : Dict Key Value) : Dict Key Value :=
  (current.getD ∅).update added.entries

def install (saver : Saver Version Blob) (thread : String) (payload : Payload Version Blob) :
    Saver Version Blob where
  storage := payload.storage.entries.foldl (fun storage entry =>
    let nsMap := storage.getD thread ∅
    storage.set thread (nsMap.set entry.1 (updateEntry (nsMap.get? entry.1) entry.2)))
      saver.storage
  writes := saver.writes.mergeWith updateEntry payload.writes.entries
  blobs := saver.blobs.update payload.blobs.entries

/-- The part of `_load` after the cache has answered: the thread's local copy is
replaced, or dropped when nothing could be decoded. -/
def reload (codec : Codec Version Blob) (saver : Saver Version Blob) (thread : String)
    (raw : Option Bytes) : Saver Version Blob :=
  match raw.bind (decodeCheckpointBlob codec) with
  | none => evictThread saver thread
  | some payload => install (evictThread saver thread) thread payload

/-- The cache after `_load`: an entry that cannot be decoded is deleted. -/
def discard (codec : Codec Version Blob) (cache : Cache) (thread : String)
    (raw : Option Bytes) : Cache :=
  match raw with
  | none => cache
  | some bytes =>
    if bytes ≠ [] ∧ (decodeCheckpointBlob codec bytes).isNone then cache.erase (cacheKey thread)
    else cache

/-- `_load` and `_aload`; `touch` renews a deadline and no content. -/
def load (codec : Codec Version Blob) (cache : Cache) (saver : Saver Version Blob)
    (thread : String) : Cache × Saver Version Blob :=
  let raw := cache.get? (cacheKey thread)
  (discard codec cache thread raw,reload codec saver thread raw)

/-- `max(checkpoints.keys())`. -/
def latestId (checkpoints : Checkpoints Blob) : Option String := checkpoints.keys.max?

/-- A namespace keeps its latest checkpoint, and goes when it has none. -/
def pruneNamespace (_ : String) (checkpoints : Checkpoints Blob) : Option (Checkpoints Blob) :=
  (latestId checkpoints).map (fun latest => checkpoints.filter (fun id _ => id == latest))

def keepCheckpoints (nsMap : Dict String (Checkpoints Blob)) : List (String × String) :=
  nsMap.entries.filterMap (fun entry => (latestId entry.2).map (fun latest => (entry.1,latest)))

/-- The blobs the latest checkpoints reference; a checkpoint that does not load
references none. -/
def keepBlobs (channelVersions : Blob → Option (List (String × Version)))
    (nsMap : Dict String (Checkpoints Blob)) : List (String × String × Version) :=
  nsMap.entries.flatMap (fun entry =>
    match (latestId entry.2).bind entry.2.get? with
    | none => []
    | some saved => ((channelVersions saved.dumped).getD []).map (fun pair => (entry.1,pair)))

def pruneThread (channelVersions : Blob → Option (List (String × Version)))
    (saver : Saver Version Blob) (thread : String) : Saver Version Blob :=
  match saver.storage.get? thread with
  | none => saver
  | some nsMap =>
    if nsMap.isEmpty then saver
    else
      { storage := saver.storage.set thread (nsMap.filterMap pruneNamespace)
        writes := saver.writes.filter (fun key _ =>
          key.1 != thread || (keepCheckpoints nsMap).contains key.2)
        blobs := saver.blobs.filter (fun key _ =>
          key.1 != thread || (keepBlobs channelVersions nsMap).contains key.2) }

def payloadOf (saver : Saver Version Blob) (thread : String)
    (nsMap : Dict String (Checkpoints Blob)) : Payload Version Blob where
  storage := nsMap
  writes := saver.writes.filter (fun key _ => key.1 == thread)
  blobs := saver.blobs.filter (fun key _ => key.1 == thread)

/-- The part of `_persist` before the cache is written: the pruned saver and the
new entry, `none` when the thread has no checkpoint and its entry goes. -/
def snapshot (codec : Codec Version Blob)
    (channelVersions : Blob → Option (List (String × Version))) (saver : Saver Version Blob)
    (thread : String) : Saver Version Blob × Option Bytes :=
  let pruned := pruneThread channelVersions saver thread
  match pruned.storage.get? thread with
  | none => (pruned,none)
  | some nsMap =>
    if nsMap.isEmpty then (pruned,none)
    else (pruned,some (encodeCheckpointBlob codec (payloadOf pruned thread nsMap)))

def store (cache : Cache) (thread : String) (entry : Option Bytes) : Cache :=
  match entry with
  | none => cache.erase (cacheKey thread)
  | some bytes => cache.set (cacheKey thread) bytes

/-- `_persist` and `_apersist`. -/
def persist (codec : Codec Version Blob)
    (channelVersions : Blob → Option (List (String × Version))) (cache : Cache)
    (saver : Saver Version Blob) (thread : String) : Cache × Saver Version Blob :=
  let result := snapshot codec channelVersions saver thread
  (store cache thread result.2,result.1)

/-- The arguments of `put`: the namespace and parent id of the config, the
checkpoint's id, channel versions, channel values and the rest of it, the
metadata and the new versions. -/
structure PutArgs (Version Content : Type) where
  ns : String
  parent : Option String
  id : String
  channelVersions : List (String × Version)
  channelValues : List (String × Content)
  rest : Content
  metadata : Content
  newVersions : List (String × Version)

structure WritesArgs (Content : Type) where
  ns : String
  checkpointId : String
  writes : List (String × Content)
  taskId : String
  taskPath : String

/-- The in-memory saver: what `put` stores for its arguments, the writes that
`put_writes` is given with their keys and how it adds them to the pending ones,
and the operations themselves. -/
structure InMemorySaver (Version Blob Content Tuple : Type) where
  channelVersions : Blob → Option (List (String × Version))
  saved : PutArgs Version Content → Saved Blob
  channelBlob : PutArgs Version Content → String → Blob
  writesOf : WritesArgs Content → List (InnerKey × Write Blob)
  addWrites : WritesArgs Content → Pending Blob → Pending Blob
  tuple : String → String → String → Saved Blob → List (String × Option Blob) →
    List (Write Blob) → Tuple
  put : String → PutArgs Version Content → Saver Version Blob → Saver Version Blob
  putWrites : String → WritesArgs Content → Saver Version Blob → Saver Version Blob
  getTuple : String → String → Saver Version Blob → Option Tuple × Saver Version Blob
  deleteThread : String → Saver Version Blob → Saver Version Blob

variable {Content Tuple : Type}

/-- `get_tuple` and `aget_tuple`. -/
def getTuple (lib : InMemorySaver Version Blob Content Tuple) (codec : Codec Version Blob)
    (cache : Cache) (saver : Saver Version Blob) (thread ns : String) :
    Option Tuple × Cache × Saver Version Blob :=
  let loaded := load codec cache saver thread
  let result := lib.getTuple thread ns loaded.2
  (result.1,loaded.1,result.2)

/-- `put` and `aput`. -/
def put (lib : InMemorySaver Version Blob Content Tuple) (codec : Codec Version Blob)
    (cache : Cache) (saver : Saver Version Blob) (thread : String)
    (args : PutArgs Version Content) : Cache × Saver Version Blob :=
  let loaded := load codec cache saver thread
  let persisted := persist codec lib.channelVersions loaded.1 (lib.put thread args loaded.2) thread
  (persisted.1,evictThread persisted.2 thread)

/-- `put_writes` and `aput_writes`. -/
def putWrites (lib : InMemorySaver Version Blob Content Tuple) (codec : Codec Version Blob)
    (cache : Cache) (saver : Saver Version Blob) (thread : String) (args : WritesArgs Content) :
    Cache × Saver Version Blob :=
  let loaded := load codec cache saver thread
  let persisted :=
    persist codec lib.channelVersions loaded.1 (lib.putWrites thread args loaded.2) thread
  (persisted.1,evictThread persisted.2 thread)

/-- `delete_thread` and `adelete_thread`. -/
def deleteThread (lib : InMemorySaver Version Blob Content Tuple) (cache : Cache)
    (saver : Saver Version Blob) (thread : String) : Cache × Saver Version Blob :=
  (cache.erase (cacheKey thread),lib.deleteThread thread saver)

end CustomerService.CheckpointSaver
