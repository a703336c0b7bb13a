import CustomerService.CheckpointSlice
import Mathlib.Tactic.DeriveEncodable
import Mathlib.Logic.Equiv.List
import Mathlib.Data.Nat.Digits.Defs

/-! What the third-party in-memory saver documents, thread by thread, and a
saver and a codec that behave so. -/
namespace CustomerService.CheckpointSaver

variable {Version Blob Content Tuple : Type}

namespace Slice

def put (lib : InMemorySaver Version Blob Content Tuple) (args : PutArgs Version Content)
    [DecidableEq Version] (slice : Slice Version Blob) : Slice Version Blob where
  checkpoint ns id := if ns = args.ns ∧ id = args.id then some (lib.saved args)
    else slice.checkpoint ns id
  pending := slice.pending
  blob ns channel version :=
    if ns = args.ns ∧ (channel,version) ∈ args.newVersions then some (lib.channelBlob args channel)
    else slice.blob ns channel version

def putWrites (lib : InMemorySaver Version Blob Content Tuple) (args : WritesArgs Content)
    (slice : Slice Version Blob) : Slice Version Blob where
  checkpoint := slice.checkpoint
  pending ns id := if ns = args.ns ∧ id = args.checkpointId then
    lib.addWrites args (slice.pending ns id) else slice.pending ns id
  blob := slice.blob

/-- What `get_tuple` without a checkpoint id returns: the latest checkpoint of
the namespace, the blobs of its channel versions and its pending writes. -/
inductive Returns (lib : InMemorySaver Version Blob Content Tuple) (thread ns : String)
    (slice : Slice Version Blob) : Option Tuple → Prop
  | absent (none' : ∀ id, slice.checkpoint ns id = none) : Returns lib thread ns slice none
  | latest (id : String) (saved : Saved Blob) (versions : List (String × Version))
      (newest : slice.Latest ns id) (stored : slice.checkpoint ns id = some saved)
      (loads : lib.channelVersions saved.dumped = some versions) :
      Returns lib thread ns slice (some (lib.tuple thread ns id saved
        (versions.map (fun pair => (pair.1,slice.blob ns pair.1 pair.2)))
        (slice.pending ns id).values))

end Slice

variable [DecidableEq Version]

/-- The documented behaviour of the in-memory saver, thread by thread. -/
structure Documented (lib : InMemorySaver Version Blob Content Tuple) : Prop where
  saved_versions : ∀ args, lib.channelVersions (lib.saved args).dumped = some args.channelVersions
  put_slice : ∀ thread args saver,
    (lib.put thread args saver).slice thread = (saver.slice thread).put lib args
  put_other : ∀ thread args saver other, other ≠ thread →
    (lib.put thread args saver).slice other = saver.slice other
  writes_slice : ∀ thread args saver,
    (lib.putWrites thread args saver).slice thread = (saver.slice thread).putWrites lib args
  writes_other : ∀ thread args saver other, other ≠ thread →
    (lib.putWrites thread args saver).slice other = saver.slice other
  writes_recorded : ∀ args pending entry, entry ∈ lib.writesOf args →
    ((lib.addWrites args pending).get? entry.1).isSome = true
  writes_kept : ∀ args pending key, (pending.get? key).isSome = true →
    ((lib.addWrites args pending).get? key).isSome = true
  writes_given : ∀ args pending key write, (lib.addWrites args pending).get? key = some write →
    pending.get? key = some write ∨ (key,write) ∈ lib.writesOf args
  tuple_result : ∀ thread ns saver result, (saver.slice thread).Returns lib thread ns result →
    (lib.getTuple thread ns saver).1 = result
  tuple_slice : ∀ thread ns saver other,
    (lib.getTuple thread ns saver).2.slice other = saver.slice other
  delete_slice : ∀ thread saver, (lib.deleteThread thread saver).slice thread = Slice.empty
  delete_other : ∀ thread saver other, other ≠ thread →
    (lib.deleteThread thread saver).slice other = saver.slice other

inductive Request (Version Content : Type)
  | put (args : PutArgs Version Content)
  | putWrites (args : WritesArgs Content)

def Request.perform (lib : InMemorySaver Version Blob Content Tuple) (slice : Slice Version Blob) :
    Request Version Content → Slice Version Blob
  | .put args => slice.put lib args
  | .putWrites args => slice.putWrites lib args

def Request.apply (lib : InMemorySaver Version Blob Content Tuple) (thread : String)
    (saver : Saver Version Blob) : Request Version Content → Saver Version Blob
  | .put args => lib.put thread args saver
  | .putWrites args => lib.putWrites thread args saver

theorem perform_stands {lib : InMemorySaver Version Blob Content Tuple}
    (documented : Documented lib) {codec : Codec Version Blob} (trips : RoundTrips codec)
    (saver : Saver Version Blob) {thread : String} (request : Request Version Content)
    {slice : Slice Version Blob} {raw : Option Bytes} (stands : Stands codec thread slice raw) :
    Stands codec thread ((request.perform lib slice).pruned lib.channelVersions)
      (snapshot codec lib.channelVersions
        (request.apply lib thread (reload codec saver thread raw)) thread).2 := by
  have loaded := reload_stands codec trips saver stands
  have result := snapshot_stands codec lib.channelVersions
    (request.apply lib thread (reload codec saver thread raw)) thread
  cases request with
  | put args => rwa [Request.apply,documented.put_slice,loaded] at result
  | putWrites args => rwa [Request.apply,documented.writes_slice,loaded] at result

/-- Both kinds of request as the operations of the cached saver. -/
def Request.call (lib : InMemorySaver Version Blob Content Tuple) (codec : Codec Version Blob)
    (cache : Cache) (saver : Saver Version Blob) (thread : String) :
    Request Version Content → Cache × Saver Version Blob
  | .put args => CheckpointSaver.put lib codec cache saver thread args
  | .putWrites args => CheckpointSaver.putWrites lib codec cache saver thread args

theorem call_holds {lib : InMemorySaver Version Blob Content Tuple}
    (documented : Documented lib) {codec : Codec Version Blob} (trips : RoundTrips codec)
    {cache : Cache} (saver : Saver Version Blob) {thread : String}
    (request : Request Version Content) {slice : Slice Version Blob}
    (holds : Holds codec cache thread slice) :
    Holds codec (request.call lib codec cache saver thread).1 thread
      ((request.perform lib slice).pruned lib.channelVersions) := by
  have result := perform_stands documented trips saver request holds
  cases request with
  | put args =>
    rw [Holds,Request.call,put,persist,store_own]
    exact result
  | putWrites args =>
    rw [Holds,Request.call,putWrites,persist,store_own]
    exact result

/-! A saver that keeps what it is given. -/
namespace Memory

inductive Stored
  | checkpoint (id : String) (versions : List (String × String)) (rest : String)
  | value (text : String)
  | empty
deriving DecidableEq

/-- The checkpoint tuple `get_tuple` builds. -/
structure CheckpointTuple where
  thread : String
  ns : String
  id : String
  saved : Saved Stored
  channelValues : List (String × Stored)
  pendingWrites : List (Write Stored)
deriving DecidableEq

def channelVersions : Stored → Option (List (String × String))
  | .checkpoint _ versions _ => some versions
  | .value _ => none
  | .empty => none

def saved (args : PutArgs String String) : Saved Stored :=
  ⟨.checkpoint args.id args.channelVersions args.rest,.value args.metadata,args.parent⟩

def channelBlob (args : PutArgs String String) (channel : String) : Stored :=
  match args.channelValues.lookup channel with
  | none => .empty
  | some value => .value value

def writesIndex (channel : String) (index : Nat) : Int :=
  if channel = "__error__" then -1
  else if channel = "__scheduled__" then -2
  else if channel = "__interrupt__" then -3
  else if channel = "__resume__" then -4
  else index

def writesOf (args : WritesArgs String) : List (InnerKey × Write Stored) :=
  args.writes.zipIdx.map (fun item => ((args.taskId,writesIndex item.1.1 item.2),
    ⟨args.taskId,item.1.1,.value item.1.2,args.taskPath⟩))

/-- A write with a regular index is recorded once; the others are overwritten. -/
def addWrite (pending : Pending Stored) (entry : InnerKey × Write Stored) : Pending Stored :=
  if 0 ≤ entry.1.2 ∧ (pending.get? entry.1).isSome then pending
  else pending.set entry.1 entry.2

def addWrites (args : WritesArgs String) (pending : Pending Stored) : Pending Stored :=
  (writesOf args).foldl addWrite pending

def tuple (thread ns id : String) (saved : Saved Stored)
    (blobs : List (String × Option Stored)) (writes : List (Write Stored)) : CheckpointTuple where
  thread := thread
  ns := ns
  id := id
  saved := saved
  channelValues := blobs.filterMap (fun pair =>
    match pair.2 with
    | none => none
    | some .empty => none
    | some value => some (pair.1,value))
  pendingWrites := writes

def put (thread : String) (args : PutArgs String String) (saver : Saver String Stored) :
    Saver String Stored :=
  let nsMap := saver.storage.getD thread ∅
  { storage := saver.storage.set thread
      (nsMap.set args.ns ((nsMap.getD args.ns ∅).set args.id (saved args)))
    writes := saver.writes
    blobs := args.newVersions.foldl (fun blobs pair =>
      blobs.set (thread,args.ns,pair.1,pair.2) (channelBlob args pair.1)) saver.blobs }

def putWrites (thread : String) (args : WritesArgs String) (saver : Saver String Stored) :
    Saver String Stored :=
  let key := (thread,args.ns,args.checkpointId)
  { saver with writes := saver.writes.set key (addWrites args (saver.writes.getD key ∅)) }

/-- Reading creates the thread's and the namespace's entry. -/
def getTuple (thread ns : String) (saver : Saver String Stored) :
    Option CheckpointTuple × Saver String Stored :=
  let nsMap := saver.storage.getD thread ∅
  let checkpoints := nsMap.getD ns ∅
  let touched := { saver with storage := saver.storage.set thread (nsMap.set ns checkpoints) }
  match latestId checkpoints with
  | none => (none,touched)
  | some id =>
    match checkpoints.get? id with
    | none => (none,touched)
    | some found =>
      let versions := (channelVersions found.dumped).getD []
      (some (tuple thread ns id found
        (versions.map (fun pair => (pair.1,saver.blobs.get? (thread,ns,pair.1,pair.2))))
        (saver.writes.getD (thread,ns,id) ∅).values),touched)

def saver : InMemorySaver String Stored String CheckpointTuple where
  channelVersions := channelVersions
  saved := saved
  channelBlob := channelBlob
  writesOf := writesOf
  addWrites := addWrites
  tuple := tuple
  put := put
  putWrites := putWrites
  getTuple := getTuple
  deleteThread thread saver := evictThread saver thread

theorem get?_setBlobs (args : PutArgs String String) (thread : String)
    (versions : List (String × String)) (blobs : Dict (String × String × String × String) Stored)
    (other ns channel version : String) :
    (versions.foldl (fun blobs pair =>
      blobs.set (thread,args.ns,pair.1,pair.2) (channelBlob args pair.1)) blobs).get?
        (other,ns,channel,version) =
      if other = thread ∧ ns = args.ns ∧ (channel,version) ∈ versions then
        some (channelBlob args channel)
      else blobs.get? (other,ns,channel,version) := by
  induction versions generalizing blobs with
  | nil => simp
  | cons pair rest ih =>
    obtain ⟨first,second⟩ := pair
    rw [List.foldl_cons,ih,Dict.get?_set]
    simp only [Prod.mk.injEq,List.mem_cons]
    by_cases own : other = thread ∧ ns = args.ns
    · obtain ⟨rfl,rfl⟩ := own
      by_cases now : channel = first ∧ version = second
      · obtain ⟨rfl,rfl⟩ := now
        simp
      · simp [now]
    · simp only [← and_assoc,own,false_and,if_false]

private theorem slice_put_storage (saver : Saver String Stored) (thread other ns id : String)
    (checkpoints : Checkpoints Stored) :
    (((saver.storage.set thread ((saver.storage.getD thread ∅).set ns checkpoints)).getD other
      ∅).getD id ∅) = if other = thread ∧ id = ns then checkpoints
      else (saver.storage.getD other ∅).getD id ∅ := by
  by_cases own : other = thread
  · subst own
    by_cases here : id = ns <;> simp [Dict.getD,Dict.get?_set,here]
  · simp [Dict.getD,Dict.get?_set,own]

private theorem touched_slice (saver : Saver String Stored) (thread ns other : String) :
    ({ saver with
        storage := saver.storage.set thread ((saver.storage.getD thread ∅).set ns
          ((saver.storage.getD thread ∅).getD ns ∅)) } : Saver String Stored).slice other =
      saver.slice other := by
  refine Slice.ext ?_ rfl rfl
  funext space id
  simp only [Saver.slice,slice_put_storage]
  split_ifs with own
  · rw [own.1,own.2]
  · rfl

private theorem getTuple_slice (thread ns : String) (saver : Saver String Stored) (other : String) :
    (getTuple thread ns saver).2.slice other = saver.slice other := by
  unfold getTuple
  dsimp only
  split
  · exact touched_slice saver thread ns other
  · split <;> exact touched_slice saver thread ns other

private theorem getTuple_returns (thread ns : String) (store : Saver String Stored)
    (result : Option CheckpointTuple)
    (returns : (store.slice thread).Returns saver thread ns result) :
    (getTuple thread ns store).1 = result := by
  cases returns with
  | absent none' =>
    have nothing : latestId ((store.storage.getD thread ∅).getD ns ∅) = none :=
      (latestId_eq_none _).mpr none'
    simp [getTuple,nothing]
  | latest id found versions newest stored loads =>
    have latest := (latestId_slice store thread ns id).mpr newest
    have present : ((store.storage.getD thread ∅).getD ns ∅).get? id = some found := stored
    have decoded : channelVersions found.dumped = some versions := loads
    simp only [getTuple,latest,present,decoded,Option.getD_some]
    rfl

private theorem addWrite_kept (pending : Pending Stored) (entry : InnerKey × Write Stored) (key : InnerKey)
    (present : (pending.get? key).isSome = true) :
    ((addWrite pending entry).get? key).isSome = true := by
  unfold addWrite
  split_ifs
  · exact present
  · rw [Dict.get?_set]
    split_ifs
    · rfl
    · exact present

private theorem addWrite_recorded (pending : Pending Stored) (entry : InnerKey × Write Stored) :
    ((addWrite pending entry).get? entry.1).isSome = true := by
  unfold addWrite
  split_ifs with recorded
  · exact recorded.2
  · simp [Dict.get?_set]

private theorem addWrite_given (pending : Pending Stored) (entry : InnerKey × Write Stored)
    (key : InnerKey) (write : Write Stored)
    (found : (addWrite pending entry).get? key = some write) :
    pending.get? key = some write ∨ (key,write) = entry := by
  unfold addWrite at found
  split_ifs at found
  · exact Or.inl found
  · rw [Dict.get?_set] at found
    split_ifs at found with same
    · exact Or.inr (Prod.ext same (Option.some.inj found).symm)
    · exact Or.inl found

private theorem addWrites_kept (entries : List (InnerKey × Write Stored)) (pending : Pending Stored)
    (key : InnerKey) (present : (pending.get? key).isSome = true) :
    ((entries.foldl addWrite pending).get? key).isSome = true := by
  induction entries generalizing pending with
  | nil => exact present
  | cons entry rest ih => exact ih _ (addWrite_kept pending entry key present)

private theorem addWrites_recorded (entries : List (InnerKey × Write Stored)) (pending : Pending Stored)
    (entry : InnerKey × Write Stored) (listed : entry ∈ entries) :
    ((entries.foldl addWrite pending).get? entry.1).isSome = true := by
  induction entries generalizing pending with
  | nil => cases listed
  | cons first rest ih =>
    rcases List.mem_cons.mp listed with rfl | later
    · exact addWrites_kept rest _ _ (addWrite_recorded pending entry)
    · exact ih _ later

private theorem addWrites_given (entries : List (InnerKey × Write Stored)) (pending : Pending Stored)
    (key : InnerKey) (write : Write Stored)
    (found : (entries.foldl addWrite pending).get? key = some write) :
    pending.get? key = some write ∨ (key,write) ∈ entries := by
  induction entries generalizing pending with
  | nil => exact Or.inl found
  | cons entry rest ih =>
    rcases ih _ found with earlier | later
    · rcases addWrite_given pending entry key write earlier with before | now
      · exact Or.inl before
      · exact Or.inr (now ▸ List.mem_cons_self)
    · exact Or.inr (List.mem_cons_of_mem _ later)

theorem documented : Documented saver where
  saved_versions _ := rfl
  put_slice thread args store := by
    refine Slice.ext ?_ rfl ?_
    · funext ns id
      simp only [saver,put,Saver.slice,Slice.put,slice_put_storage,true_and]
      by_cases here : ns = args.ns
      · subst here
        simp [Dict.get?_set]
      · simp [here]
    · funext ns channel version
      simp [saver,put,Saver.slice,Slice.put,get?_setBlobs]
  put_other thread args store other different := by
    refine Slice.ext ?_ rfl ?_
    · funext ns id
      simp [saver,put,Saver.slice,slice_put_storage,different]
    · funext ns channel version
      simp [saver,put,Saver.slice,get?_setBlobs,different]
  writes_slice thread args store := by
    refine Slice.ext rfl ?_ rfl
    funext ns id
    by_cases here : ns = args.ns ∧ id = args.checkpointId
    · simp [saver,putWrites,Saver.slice,Slice.putWrites,Dict.getD,Dict.get?_set,here]
    · simp [saver,putWrites,Saver.slice,Slice.putWrites,Dict.getD,Dict.get?_set,here]
  writes_other thread args store other different := by
    refine Slice.ext rfl ?_ rfl
    funext ns id
    simp [saver,putWrites,Saver.slice,Dict.getD,Dict.get?_set,different]
  writes_recorded args pending := addWrites_recorded (writesOf args) pending
  writes_kept args pending := addWrites_kept (writesOf args) pending
  writes_given args pending := addWrites_given (writesOf args) pending
  tuple_result := getTuple_returns
  tuple_slice := getTuple_slice
  delete_slice thread store := slice_evict store thread
  delete_other thread store other different := by
    simp [saver,evictThread,Saver.slice,Dict.getD,Dict.get?_erase,Dict.get?_filterKeys,different]

/-! A turn of a small graph: a checkpoint, a write of one of its tasks, and the
next checkpoint, which carries the version of the slots over. -/

def firstPut : PutArgs String String where
  ns := ""
  parent := none
  id := "1"
  channelVersions := [("slots","1")]
  channelValues := [("slots","a")]
  rest := "first"
  metadata := "input"
  newVersions := [("slots","1")]

def taskWrites (task : String) : WritesArgs String where
  ns := ""
  checkpointId := "1"
  writes := [("messages",task)]
  taskId := task
  taskPath := ""

def secondPut : PutArgs String String where
  ns := ""
  parent := some "1"
  id := "2"
  channelVersions := [("slots","1"),("messages","2")]
  channelValues := [("slots","a"),("messages","hi")]
  rest := "second"
  metadata := "loop"
  newVersions := [("messages","2")]

/-! Payloads as numbers, numbers as bytes. -/

instance encodableString : Encodable String :=
  Encodable.ofLeftInverse (fun text => text.toList.map Char.toNat)
    (fun codes => String.ofList (codes.map Char.ofNat)) (fun text => by
      simp [List.map_map,Function.comp_def])

instance {Key Value : Type} [DecidableEq Key] [Encodable Key] [Encodable Value] :
    Encodable (Dict Key Value) :=
  Encodable.ofLeftInjection Dict.entries
    (fun entries => if distinct : (entries.map Prod.fst).Nodup then some ⟨entries,distinct⟩ else none)
    (fun dict => by simp [dict.distinct])

deriving instance Encodable for Stored
deriving instance Encodable for Saved
deriving instance Encodable for Write

instance encodablePayload : Encodable (Payload String Stored) :=
  Encodable.ofLeftInverse (fun payload => (payload.storage,payload.writes,payload.blobs))
    (fun parts => ⟨parts.1,parts.2.1,parts.2.2⟩) (fun _ => rfl)

def codec : Codec String Stored where
  packb payload := (Nat.digits 256 (Encodable.encode payload)).map UInt8.ofNat
  unpackb bytes := Encodable.decode (Nat.ofDigits 256 (bytes.map UInt8.toNat))
  pickleLoads _ := none

theorem roundTrips : RoundTrips codec := by
  intro payload
  have bytes : ((Nat.digits 256 (Encodable.encode payload)).map UInt8.ofNat).map UInt8.toNat =
      Nat.digits 256 (Encodable.encode payload) := by
    rw [List.map_map]
    refine (List.map_congr_left (fun digit member => ?_)).trans (List.map_id _)
    have small : digit < 256 := Nat.digits_lt_base (by decide) member
    simpa using Nat.mod_eq_of_lt small
  simp only [codec,bytes,Nat.ofDigits_digits,Encodable.encodek]

end Memory

end CustomerService.CheckpointSaver
