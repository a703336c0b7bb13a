import CustomerService.CheckpointSaver
import CustomerService.PyValue

/-! The envelope of a checkpoint: three dictionaries with composite keys written
as lists under `CSK1`, and read back from whatever `unpackb` returns. -/
namespace CustomerService.CheckpointEnvelope
open CheckpointSaver (Payload Saved Write InnerKey Checkpoints Pending envelopeMagic)
open Py

/-- A version of a channel: a string, an integer or a float. -/
inductive Version
  | str (text : String)
  | int (value : Int)
  | float (value : Double)
deriving DecidableEq

def Version.atom : Version → Atom
  | .str text => .str text
  | .int value => .int value
  | .float value => .float value

/-- What `dumps_typed` returns. -/
abbrev Typed := String × Bytes

abbrev OuterKey := String × String × String
abbrev BlobKey := String × String × String × Version

def OuterKey.tuple (key : OuterKey) : List Atom := [.str key.1,.str key.2.1,.str key.2.2]

def InnerKey.tuple (key : InnerKey) : List Atom := [.str key.1,.int key.2]

def BlobKey.tuple (key : BlobKey) : List Atom :=
  [.str key.1,.str key.2.1,.str key.2.2.1,key.2.2.2.atom]

/-- `ormsgpack`, which refuses what it cannot pack; `pickle` for the entries of
old sessions; and `str()` of what is no string. -/
structure Libraries (Pickled : Type) where
  packb : Msg → Option Bytes
  unpackb : Bytes → Option Msg
  pickleLoads : Bytes → Option Pickled
  render : Msg → String

/-! ### `encode_checkpoint_blob` -/

def parentMsg : Option String → Msg
  | none => .atom .none
  | some parent => .str parent

def typedToList (typed : Typed) : Msg := .list [.str typed.1,.atom (.bytes typed.2)]

def savedToList (saved : Saved Typed) : Msg :=
  .list [typedToList saved.dumped,typedToList saved.metadata,parentMsg saved.parent]

def storageOut (storage : Dict String (Checkpoints Typed)) : Msg :=
  .map (storage.entries.map (fun entry =>
    (entry.1,.map (entry.2.entries.map (fun saved => (saved.1,savedToList saved.2))))))

def tupleToList (key : List Atom) : Msg := .list (key.map .atom)

def writeToList (write : Write Typed) : Msg :=
  .list [.str write.taskId,.str write.channel,typedToList write.value,.str write.taskPath]

def writesOut (writes : Dict OuterKey (Pending Typed)) : Msg :=
  .list (writes.entries.map (fun entry => .list [tupleToList (OuterKey.tuple entry.1),
    .list (entry.2.entries.map (fun item =>
      .list [tupleToList (InnerKey.tuple item.1),writeToList item.2]))]))

def blobsOut (blobs : Dict BlobKey Typed) : Msg :=
  .list (blobs.entries.map (fun entry =>
    .list [tupleToList (BlobKey.tuple entry.1),typedToList entry.2]))

def envelope (payload : Payload Version Typed) : Msg :=
  .map [("v",.int 1),("storage",storageOut payload.storage),
    ("writes",writesOut payload.writes),("blobs",blobsOut payload.blobs)]

variable {Pickled : Type}

/-- None where `packb` raises. -/
def encodeCheckpointBlob (lib : Libraries Pickled) (payload : Payload Version Typed) :
    Option Bytes :=
  (lib.packb (envelope payload)).map (fun packed => envelopeMagic ++ packed)

/-! ### `decode_checkpoint_blob` -/

structure LoadedSaved where
  dumped : Typed
  metadata : Typed
  parent : Msg

structure LoadedWrite where
  taskId : Msg
  channel : Msg
  value : Typed
  taskPath : Msg

/-- The three dictionaries read from an envelope, their entries in order. -/
structure Loaded where
  storage : List (String × List (String × LoadedSaved))
  writes : List (List Atom × List (List Atom × LoadedWrite))
  blobs : List (List Atom × Typed)

/-- An envelope gives its dictionaries, a pickle whatever dictionary it holds. -/
inductive Decoded (Pickled : Type)
  | envelope (loaded : Loaded)
  | pickle (loaded : Pickled)

def listToTyped (lib : Libraries Pickled) (pair : Msg) : Option Typed :=
  match pair.items? with
  | some [typ,data] => data.toBytes?.map (fun bytes => (typ.toStr lib.render,bytes))
  | _ => none

/-- `(loaded.get(name) or default)`. -/
def field (entries : List (String × Msg)) (name : String) (default : Msg) : Msg :=
  match entries.lookup name with
  | none => default
  | some value => if value.truthy then value else default

def readSaved (lib : Libraries Pickled) (saved : Msg) : Option LoadedSaved :=
  match saved.items? with
  | some [dumped,metadata,parent] => do
    return ⟨← listToTyped lib dumped,← listToTyped lib metadata,parent⟩
  | _ => none

def readCheckpoints (lib : Libraries Pickled) (entry : String × Msg) :
    Option (String × List (String × LoadedSaved)) := do
  let saved ← (← entry.2.entries?).mapM (fun item => do
    return (item.1,← readSaved lib item.2))
  return (entry.1,dictOf (· == ·) saved)

def readStorage (lib : Libraries Pickled) (storage : Msg) :
    Option (List (String × List (String × LoadedSaved))) := do
  let namespaces ← (← storage.entries?).mapM (readCheckpoints lib)
  return dictOf (· == ·) namespaces

/-- A key that is unpacked into `arity` names and put together again. -/
def readKey (arity : Nat) (key : Msg) : Option (List Atom) := do
  let items ← key.items?
  if items.length = arity then items.mapM Msg.hashable? else none

def readWrite (lib : Libraries Pickled) (value : Msg) : Option LoadedWrite :=
  match value.items? with
  | some [taskId,channel,typed,taskPath] => do
    return ⟨taskId,channel,← listToTyped lib typed,taskPath⟩
  | _ => none

/-- `tuple(inner_key)` takes any number of items. -/
def readItem (lib : Libraries Pickled) (item : Msg) : Option (List Atom × LoadedWrite) :=
  match item.items? with
  | some [innerKey,value] => do
    let key ← (← innerKey.items?).mapM Msg.hashable?
    return (key,← readWrite lib value)
  | _ => none

def readPending (lib : Libraries Pickled) (entry : Msg) :
    Option (List Atom × List (List Atom × LoadedWrite)) :=
  match entry.items? with
  | some [outerKey,items] => do
    let key ← readKey 3 outerKey
    let inner ← (← items.items?).mapM (readItem lib)
    return (key,dictOf sameTuple inner)
  | _ => none

def readWrites (lib : Libraries Pickled) (writes : Msg) :
    Option (List (List Atom × List (List Atom × LoadedWrite))) := do
  let pending ← (← writes.items?).mapM (readPending lib)
  return dictOf sameTuple pending

def readBlob (lib : Libraries Pickled) (entry : Msg) : Option (List Atom × Typed) :=
  match entry.items? with
  | some [blobKey,typed] => do
    return (← readKey 4 blobKey,← listToTyped lib typed)
  | _ => none

def readBlobs (lib : Libraries Pickled) (blobs : Msg) : Option (List (List Atom × Typed)) := do
  let entries ← (← blobs.items?).mapM (readBlob lib)
  return dictOf sameTuple entries

def payloadFromMsgpack (lib : Libraries Pickled) (loaded : List (String × Msg)) :
    Option Loaded := do
  return ⟨← readStorage lib (field loaded "storage" (.map [])),
    ← readWrites lib (field loaded "writes" (.list [])),
    ← readBlobs lib (field loaded "blobs" (.list []))⟩

def decodeCheckpointBlob (lib : Libraries Pickled) (raw : Bytes) : Option (Decoded Pickled) :=
  if raw = [] then none
  else if envelopeMagic.isPrefixOf raw then
    match lib.unpackb (raw.drop envelopeMagic.length) with
    | some (.map loaded) => (payloadFromMsgpack lib loaded).map .envelope
    | _ => none
  else (lib.pickleLoads raw).map .pickle

/-! ### The round trip -/

def loadedSaved (saved : Saved Typed) : LoadedSaved :=
  ⟨saved.dumped,saved.metadata,parentMsg saved.parent⟩

def loadedWrite (write : Write Typed) : LoadedWrite :=
  ⟨.str write.taskId,.str write.channel,write.value,.str write.taskPath⟩

/-- The payload itself, as `decode_checkpoint_blob` would hand it back: every key
the same tuple, every entry in its place. -/
def loadedOf (payload : Payload Version Typed) : Loaded where
  storage := payload.storage.entries.map (fun entry =>
    (entry.1,entry.2.entries.map (fun saved => (saved.1,loadedSaved saved.2))))
  writes := payload.writes.entries.map (fun entry =>
    (OuterKey.tuple entry.1,entry.2.entries.map (fun item =>
      (InnerKey.tuple item.1,loadedWrite item.2))))
  blobs := payload.blobs.entries.map (fun entry => (BlobKey.tuple entry.1,entry.2))

/-- The keys of a Python dictionary are pairwise unequal; of the keys of a payload
only versions have equal values of two types. -/
structure PyPayload where
  payload : Payload Version Typed
  hashed : payload.blobs.entries.Pairwise (fun first second =>
    sameTuple (BlobKey.tuple first.1) (BlobKey.tuple second.1) = false)

private theorem pairwise_keys {Key Value : Type} (dict : Dict Key Value) :
    dict.entries.Pairwise (fun first second => first.1 ≠ second.1) :=
  List.pairwise_map.mp dict.distinct

theorem OuterKey.same_tuple (first second : OuterKey) (differ : first ≠ second) :
    sameTuple (OuterKey.tuple first) (OuterKey.tuple second) = false := by
  obtain ⟨thread,ns,id⟩ := first
  obtain ⟨thread',ns',id'⟩ := second
  by_contra same
  apply differ
  simpa [OuterKey.tuple,sameTuple] using same

theorem InnerKey.same_tuple (first second : InnerKey) (differ : first ≠ second) :
    sameTuple (InnerKey.tuple first) (InnerKey.tuple second) = false := by
  obtain ⟨task,index⟩ := first
  obtain ⟨task',index'⟩ := second
  by_contra same
  apply differ
  simpa [InnerKey.tuple,sameTuple] using same

variable (lib : Libraries Pickled)

private theorem listToTyped_typedToList (typed : Typed) :
    listToTyped lib (typedToList typed) = some typed := rfl

private theorem readSaved_savedToList (saved : Saved Typed) :
    readSaved lib (savedToList saved) = some (loadedSaved saved) := rfl

private theorem hashable_atoms (key : List Atom) :
    (key.map Msg.atom).mapM Msg.hashable? = some key := by
  have read := mapM_map_some Msg.hashable? Msg.atom id key (fun _ _ => rfl)
  simpa using read

private theorem readKey_tupleToList (key : List Atom) (arity : Nat) (length : key.length = arity) :
    readKey arity (tupleToList key) = some key := by
  show (if (key.map Msg.atom).length = arity then _ else _) = _
  rw [if_pos (by simpa using length),hashable_atoms]

private theorem readCheckpoints_out (entry : String × Checkpoints Typed) :
    readCheckpoints lib (entry.1,.map (entry.2.entries.map (fun saved =>
      (saved.1,savedToList saved.2)))) =
      some (entry.1,entry.2.entries.map (fun saved => (saved.1,loadedSaved saved.2))) := by
  have read := mapM_map_some (fun item : String × Msg => do
      return (item.1,← readSaved lib item.2)) (fun saved => (saved.1,savedToList saved.2))
    (fun saved => (saved.1,loadedSaved saved.2)) entry.2.entries
    (fun saved _ => by simp [readSaved_savedToList])
  have kept := dictOf_distinct (· == ·)
    (entry.2.entries.map (fun saved => (saved.1,loadedSaved saved.2)))
    (List.pairwise_map.mpr ((pairwise_keys entry.2).imp (by simp)))
  simp only [readCheckpoints,Msg.entries?,Option.bind_eq_bind,Option.bind_some] at read ⊢
  rw [read,Option.bind_some,kept]
  rfl

private theorem readStorage_out (storage : Dict String (Checkpoints Typed)) :
    readStorage lib (storageOut storage) = some (storage.entries.map (fun entry =>
      (entry.1,entry.2.entries.map (fun saved => (saved.1,loadedSaved saved.2))))) := by
  have read := mapM_map_some (readCheckpoints lib) _ _ storage.entries
    (fun entry _ => readCheckpoints_out lib entry)
  have kept := dictOf_distinct (· == ·) (storage.entries.map (fun entry =>
      (entry.1,entry.2.entries.map (fun saved => (saved.1,loadedSaved saved.2)))))
    (List.pairwise_map.mpr ((pairwise_keys storage).imp (by simp)))
  simp only [readStorage,storageOut,Msg.entries?,Option.bind_eq_bind,Option.bind_some]
  rw [read,Option.bind_some,kept]
  rfl

private theorem readItem_out (item : InnerKey × Write Typed) :
    readItem lib (.list [tupleToList (InnerKey.tuple item.1),writeToList item.2]) =
      some (InnerKey.tuple item.1,loadedWrite item.2) := rfl

private theorem readPending_out (entry : OuterKey × Pending Typed) :
    readPending lib (.list [tupleToList (OuterKey.tuple entry.1),
      .list (entry.2.entries.map (fun item =>
        .list [tupleToList (InnerKey.tuple item.1),writeToList item.2]))]) =
      some (OuterKey.tuple entry.1,entry.2.entries.map (fun item =>
        (InnerKey.tuple item.1,loadedWrite item.2))) := by
  have key := readKey_tupleToList (OuterKey.tuple entry.1) 3 rfl
  have read := mapM_map_some (readItem lib) _ _ entry.2.entries
    (fun item _ => readItem_out lib item)
  have kept := dictOf_distinct sameTuple
    (entry.2.entries.map (fun item => (InnerKey.tuple item.1,loadedWrite item.2)))
    (List.pairwise_map.mpr ((pairwise_keys entry.2).imp
      (fun differ => InnerKey.same_tuple _ _ differ)))
  simp only [readPending,Msg.items?,Option.bind_eq_bind,key,Option.bind_some]
  rw [read,Option.bind_some,kept]
  rfl

private theorem readWrites_out (writes : Dict OuterKey (Pending Typed)) :
    readWrites lib (writesOut writes) = some (writes.entries.map (fun entry =>
      (OuterKey.tuple entry.1,entry.2.entries.map (fun item =>
        (InnerKey.tuple item.1,loadedWrite item.2))))) := by
  have read := mapM_map_some (readPending lib) _ _ writes.entries
    (fun entry _ => readPending_out lib entry)
  have kept := dictOf_distinct sameTuple (writes.entries.map (fun entry =>
      (OuterKey.tuple entry.1,entry.2.entries.map (fun item =>
        (InnerKey.tuple item.1,loadedWrite item.2)))))
    (List.pairwise_map.mpr ((pairwise_keys writes).imp
      (fun differ => OuterKey.same_tuple _ _ differ)))
  simp only [readWrites,writesOut,Msg.items?,Option.bind_eq_bind,Option.bind_some]
  rw [read,Option.bind_some,kept]
  rfl

private theorem readBlob_out (entry : BlobKey × Typed) :
    readBlob lib (.list [tupleToList (BlobKey.tuple entry.1),typedToList entry.2]) =
      some (BlobKey.tuple entry.1,entry.2) := by
  have key := readKey_tupleToList (BlobKey.tuple entry.1) 4 rfl
  simp [readBlob,Msg.items?,key,listToTyped_typedToList]

private theorem readBlobs_out (py : PyPayload) :
    readBlobs lib (blobsOut py.payload.blobs) =
      some (py.payload.blobs.entries.map (fun entry => (BlobKey.tuple entry.1,entry.2))) := by
  have read := mapM_map_some (readBlob lib) _ _ py.payload.blobs.entries
    (fun entry _ => readBlob_out lib entry)
  have kept := dictOf_distinct sameTuple
    (py.payload.blobs.entries.map (fun entry => (BlobKey.tuple entry.1,entry.2)))
    (List.pairwise_map.mpr py.hashed)
  simp only [readBlobs,blobsOut,Msg.items?,Option.bind_eq_bind,Option.bind_some]
  rw [read,Option.bind_some,kept]
  rfl

private theorem field_present (entries : List (String × Msg)) (name : String) (value default : Msg)
    (present : entries.lookup name = some value) (empty : value.truthy = false → value = default) :
    field entries name default = value := by
  unfold field
  rw [present]
  cases truthy : value.truthy with
  | true => simp [truthy]
  | false => simp [empty truthy]

private theorem payloadFromMsgpack_envelope (py : PyPayload) :
    payloadFromMsgpack lib [("v",.int 1),("storage",storageOut py.payload.storage),
      ("writes",writesOut py.payload.writes),("blobs",blobsOut py.payload.blobs)] =
      some (loadedOf py.payload) := by
  unfold payloadFromMsgpack
  rw [field_present _ "storage" (storageOut py.payload.storage) _ rfl (by
      simp [storageOut,Msg.truthy]),
    field_present _ "writes" (writesOut py.payload.writes) _ rfl (by simp [writesOut,Msg.truthy]),
    field_present _ "blobs" (blobsOut py.payload.blobs) _ rfl (by simp [blobsOut,Msg.truthy]),
    readStorage_out,readWrites_out,readBlobs_out]
  rfl

/-! ### Nothing is merged -/

theorem Version.atom_injective : Function.Injective Version.atom := by
  intro first second same
  cases first <;> cases second <;> simp_all [Version.atom]

theorem OuterKey.tuple_injective : Function.Injective OuterKey.tuple := by
  intro first second same
  obtain ⟨thread,ns,id⟩ := first
  obtain ⟨thread',ns',id'⟩ := second
  simpa [OuterKey.tuple] using same

theorem InnerKey.tuple_injective : Function.Injective InnerKey.tuple := by
  intro first second same
  obtain ⟨task,index⟩ := first
  obtain ⟨task',index'⟩ := second
  simpa [InnerKey.tuple] using same

theorem BlobKey.tuple_injective : Function.Injective BlobKey.tuple := by
  intro first second same
  obtain ⟨thread,ns,channel,version⟩ := first
  obtain ⟨thread',ns',channel',version'⟩ := second
  simpa [BlobKey.tuple,Version.atom_injective.eq_iff] using same

private theorem parentMsg_injective : Function.Injective parentMsg := by
  intro first second same
  cases first <;> cases second <;> simp_all [parentMsg]

private theorem loadedSaved_injective : Function.Injective loadedSaved := by
  intro first second same
  obtain ⟨dumped,metadata,parent⟩ := first
  obtain ⟨dumped',metadata',parent'⟩ := second
  simpa [loadedSaved,parentMsg_injective.eq_iff] using same

private theorem loadedWrite_injective : Function.Injective loadedWrite := by
  intro first second same
  obtain ⟨task,channel,value,path⟩ := first
  obtain ⟨task',channel',value',path'⟩ := second
  simpa [loadedWrite] using same

private theorem entries_injective {Key Value : Type} :
    Function.Injective (Dict.entries : Dict Key Value → List (Key × Value)) :=
  fun _ _ same => Dict.ext' same

private theorem map_entries_injective {Key Value Key' Value' : Type} {key : Key → Key'}
    {value : Value → Value'} (keys : Function.Injective key) (values : Function.Injective value) :
    Function.Injective (List.map (fun entry : Key × Value => (key entry.1,value entry.2))) :=
  List.map_injective_iff.mpr (keys.prodMap values)

private theorem checkpoints_injective : Function.Injective (fun checkpoints : Checkpoints Typed =>
    checkpoints.entries.map (fun saved => (saved.1,loadedSaved saved.2))) :=
  (map_entries_injective Function.injective_id loadedSaved_injective).comp entries_injective

private theorem pending_injective : Function.Injective (fun pending : Pending Typed =>
    pending.entries.map (fun item => (InnerKey.tuple item.1,loadedWrite item.2))) :=
  (map_entries_injective InnerKey.tuple_injective loadedWrite_injective).comp entries_injective

private theorem loadedOf_injective : Function.Injective loadedOf := by
  intro first second same
  obtain ⟨storage,writes,blobs⟩ := first
  obtain ⟨storage',writes',blobs'⟩ := second
  obtain ⟨sameStorage,sameWrites,sameBlobs⟩ := Loaded.mk.inj same
  have storageEq : storage = storage' :=
    entries_injective (map_entries_injective Function.injective_id checkpoints_injective sameStorage)
  have writesEq : writes = writes' :=
    entries_injective (map_entries_injective OuterKey.tuple_injective pending_injective sameWrites)
  have blobsEq : blobs = blobs' :=
    entries_injective (map_entries_injective BlobKey.tuple_injective Function.injective_id sameBlobs)
  rw [storageEq,writesEq,blobsEq]

/-- `ormsgpack` reads back what it has packed. -/
def RoundTrips (lib : Libraries Pickled) : Prop :=
  ∀ value raw, lib.packb value = some raw → lib.unpackb raw = some value

/-- Encoding fails only where `packb` refuses the envelope; what it returns is
decoded to the payload itself, and to no other. -/
theorem checkpoint_envelope_round_trip (trips : RoundTrips lib) (py : PyPayload) :
    (encodeCheckpointBlob lib py.payload = none ↔ lib.packb (envelope py.payload) = none) ∧
    (∀ raw, encodeCheckpointBlob lib py.payload = some raw →
      decodeCheckpointBlob lib raw = some (.envelope (loadedOf py.payload))) ∧
    ∀ other : PyPayload, loadedOf other.payload = loadedOf py.payload →
      other.payload = py.payload := by
  refine ⟨Option.map_eq_none_iff,?_,fun other same => loadedOf_injective same⟩
  intro raw encoded
  obtain ⟨packed,packs,rfl⟩ := Option.map_eq_some_iff.mp encoded
  have magic : envelopeMagic.isPrefixOf (envelopeMagic ++ packed) = true :=
    List.isPrefixOf_iff_prefix.mpr (List.prefix_append _ _)
  have body : (envelopeMagic ++ packed).drop envelopeMagic.length = packed := List.drop_left
  have nonempty : envelopeMagic ++ packed ≠ [] := by simp [envelopeMagic]
  have loaded := trips _ _ packs
  rw [decodeCheckpointBlob,if_neg nonempty,if_pos magic,body,loaded]
  show (payloadFromMsgpack lib _).map Decoded.envelope = _
  rw [payloadFromMsgpack_envelope]
  rfl

namespace Sample

def saved : Saved Typed := ⟨("msgpack",[0x80]),("msgpack",[0x80]),none⟩

def payload : Payload Version Typed where
  storage := ⟨[("",⟨[("1",saved)],by decide⟩)],by decide⟩
  writes := ⟨[(("t","","1"),⟨[(("a",0),⟨"a","c",("null",[]),""⟩)],by decide⟩)],by decide⟩
  blobs := ⟨[(("t","","c",.int 1),("null",[]))],by decide⟩

def packed : Bytes :=
  [132,161,118,1,167,115,116,111,114,97,103,101,129,160,129,161,49,147,146,167,109,115,103,112,97,
    99,107,196,1,128,146,167,109,115,103,112,97,99,107,196,1,128,192,166,119,114,105,116,101,115,
    145,146,147,161,116,160,161,49,145,146,146,161,97,0,148,161,97,161,99,146,164,110,117,108,108,
    196,0,160,165,98,108,111,98,115,145,146,148,161,116,160,161,99,1,146,164,110,117,108,108,196,0]

open Classical in
/-- `packb` of the one payload, in the bytes of the format. -/
noncomputable def ormsgpack : Libraries Unit where
  packb value := if value = envelope payload then some packed else none
  unpackb raw := if raw = packed then some (envelope payload) else none
  pickleLoads _ := none
  render _ := ""

theorem roundTrips : RoundTrips ormsgpack := by
  intro value raw packs
  simp only [ormsgpack] at packs ⊢
  split at packs
  · rename_i same
    rw [if_pos (Option.some.inj packs).symm,same]
  · cases packs

end Sample

theorem checkpoint_envelope_round_trip_sample :
    encodeCheckpointBlob Sample.ormsgpack Sample.payload = some (envelopeMagic ++ Sample.packed) ∧
      decodeCheckpointBlob Sample.ormsgpack (envelopeMagic ++ Sample.packed) =
        some (.envelope (loadedOf Sample.payload)) := by
  have encoded : encodeCheckpointBlob Sample.ormsgpack Sample.payload =
      some (envelopeMagic ++ Sample.packed) := by
    simp [encodeCheckpointBlob,Sample.ormsgpack]
  have trip := checkpoint_envelope_round_trip Sample.ormsgpack Sample.roundTrips
    ⟨Sample.payload,List.pairwise_singleton _ _⟩
  exact ⟨encoded,trip.2.1 _ encoded⟩

end CustomerService.CheckpointEnvelope
