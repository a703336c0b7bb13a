import CustomerService.KnowledgeIngest

/-! The embeddings behind an index. Each vector remembers the embedding that made it; a process may be
configured for another one than the index on the disk was built with. -/
namespace CustomerService.Dict

variable {Key Value Other : Type*}

def map (change : Value → Other) (dict : Dict Key Value) : Dict Key Other :=
  ⟨dict.entries.map (fun entry => (entry.1,change entry.2)),by
    rw [List.map_map]
    exact dict.distinct⟩

private theorem keys_map (change : Value → Other) (dict : Dict Key Value) : (dict.map change).keys = dict.keys :=
  List.map_map

theorem isEmpty_map (change : Value → Other) (dict : Dict Key Value) :
    (dict.map change).isEmpty = dict.isEmpty :=
  List.isEmpty_map

variable [DecidableEq Key]

theorem get?_map (change : Value → Other) (dict : Dict Key Value) (key : Key) :
    (dict.map change).get? key = (dict.get? key).map change := by
  rw [get?,get?,map,List.find?_map,Option.map_map,Option.map_map]
  rfl

theorem set_map (change : Value → Other) (dict : Dict Key Value) (key : Key) (value : Value) :
    (dict.set key value).map change = (dict.map change).set key (change value) := by
  apply ext'
  by_cases present : key ∈ dict.keys
  · rw [set,dif_pos present,set,dif_pos (keys_map change dict ▸ present)]
    show (dict.entries.map _).map _ = (dict.entries.map _).map _
    rw [List.map_map,List.map_map]
    apply List.map_congr_left
    intro entry _
    simp only [Function.comp_apply,replaceEntry]
    split_ifs <;> rfl
  · rw [set,dif_neg present,set,dif_neg (keys_map change dict ▸ present)]
    exact List.map_append

end CustomerService.Dict

namespace CustomerService.EmbeddingGuard

open Text Knowledge

inductive Backend
  | huggingface | ngram
deriving DecidableEq

def Backend.name : Backend → Text
  | huggingface => "huggingface".toList
  | ngram => "ngram".toList

structure EmbeddingSettings where
  embeddingBackend : Backend
  embeddingModel : Text
  embeddingDim : Nat

structure EmbeddingSpec where
  backend : Text
  model : Text
  dim : Nat
deriving DecidableEq

/-- The length of the vectors of a Hugging Face model comes from outside. -/
def currentEmbeddingSpec (modelDim : Text → Nat) (settings : EmbeddingSettings) : EmbeddingSpec :=
  match settings.embeddingBackend with
  | .ngram => ⟨Backend.ngram.name,"ngram".toList,settings.embeddingDim⟩
  | .huggingface => ⟨Backend.huggingface.name,settings.embeddingModel,modelDim settings.embeddingModel⟩

def formatEmbeddingSpec (spec : EmbeddingSpec) : Text :=
  spec.backend ++ ['/'] ++ spec.model ++ " dim=".toList ++ Nat.toDigits 10 spec.dim

/-! ### Stores -/

structure Vector where
  document : Document
  spec : EmbeddingSpec

abbrev VectorStore := List Vector

abbrev VectorStores := Dict Text VectorStore

def documentsOf (store : VectorStore) : Store := store.map Vector.document

def forget (stores : VectorStores) : Stores := stores.map documentsOf

/-- `FAISS.from_documents` and `add_documents`. -/
def embed (spec : EmbeddingSpec) (documents : List Document) : VectorStore := documents.map (⟨·,spec⟩)

/-- The `d` of a FAISS index, which its first vector has given it. -/
def indexDim (store : VectorStore) : Option Nat := store.head?.map (fun vector => vector.spec.dim)

/-- `embedding.json`, which may not hold a dictionary. -/
inductive MetaFile
  | missing
  | unreadable
  | holds (spec : EmbeddingSpec)
deriving DecidableEq

/-- The folders of the tenants that hold an index, and the index of all tenants that older versions wrote. -/
structure Disk where
  folders : VectorStores
  legacy : Option VectorStore
  embeddingMeta : MetaFile
  generation : Nat

def Disk.hasIndex (disk : Disk) : Bool := !disk.folders.isEmpty || disk.legacy.isSome

/-- `_peek_index_dim`. -/
def peekIndexDim (disk : Disk) : Option Nat :=
  match sortedByName disk.folders.entries with
  | first::_ => indexDim first.2
  | [] => disk.legacy.bind indexDim

def loadEmbeddingMeta (disk : Disk) : Option EmbeddingSpec :=
  match disk.embeddingMeta with
  | .holds spec => some spec
  | _ => none

inductive Unavailable
  | unrecorded (dim : Nat) (current : EmbeddingSpec)
  | builtBy (stored current : EmbeddingSpec)
  | missing
deriving DecidableEq

def Unavailable.message (path : Text) : Unavailable → Text
  | .unrecorded dim current => "现有 FAISS 索引未记录 embedding 元数据（维度 ".toList ++ Nat.toDigits 10 dim ++ "），当前配置为 ".toList ++
      formatEmbeddingSpec current ++ "。换模型或换维度必须重建索引：python main.py ingest".toList
  | .builtBy stored current => "FAISS 索引由 ".toList ++ formatEmbeddingSpec stored ++ " 构建，当前配置为 ".toList ++
      formatEmbeddingSpec current ++ "。换模型或换维度必须重建索引：python main.py ingest".toList
  | .missing => "FAISS 索引不存在或无法加载：".toList ++ path ++ "。请先执行 python main.py ingest".toList

/-- `assert_embedding_compatible`. -/
def assertEmbeddingCompatible (disk : Disk) (current : EmbeddingSpec) : Except Unavailable Unit :=
  if disk.hasIndex = false then .ok ()
  else
    match loadEmbeddingMeta disk with
    | none =>
      match peekIndexDim disk with
      | none => .ok ()
      | some dim =>
        if dim ≠ current.dim ∨ current.backend ≠ Backend.ngram.name then .error (.unrecorded dim current) else .ok ()
    | some stored => if stored ≠ current then .error (.builtBy stored current) else .ok ()

/-- `_partition_store`: the documents in use are embedded once more. -/
def partitionStore (current : EmbeddingSpec) (store : VectorStore) : VectorStores :=
  (storesFromGroups (groupDocuments (iterStoreDocuments (documentsOf store)))).map (embed current)

/-- `_read_indexes`; without an index there is nothing. -/
def readIndexes (disk : Disk) (current : EmbeddingSpec) : Except Unavailable (Option VectorStores) :=
  if disk.hasIndex = false then .ok none
  else
    (assertEmbeddingCompatible disk current).map (fun _ =>
      if disk.folders.isEmpty then some (partitionStore current (disk.legacy.getD [])) else some disk.folders)

inductive IndexStatus
  | ok | missing | mismatch
deriving DecidableEq

def faissIndexStatus (disk : Disk) (current : EmbeddingSpec) : IndexStatus :=
  if disk.hasIndex = false then .missing
  else
    match assertEmbeddingCompatible disk current with
    | .ok _ => .ok
    | .error _ => .mismatch

/-! ### The process and the disk -/

/-- A process with its configuration; settings and embeddings are cached as long as it runs. -/
structure Process where
  settings : EmbeddingSettings
  indexes : Option VectorStores
  pinned : Bool
  revision : Option Revision
  lexical : LexicalCache

def Process.fresh (settings : EmbeddingSettings) : Process := ⟨settings,none,false,none,∅⟩

structure Host where
  process : Process
  disk : Disk
  time : Nat

section
variable (modelDim : Text → Nat)

def Host.spec (host : Host) : EmbeddingSpec := currentEmbeddingSpec modelDim host.process.settings

/-- `_install_indexes`. -/
def Host.install (host : Host) (stores : VectorStores) (pinned : Bool) (revision : Revision) : Host :=
  { host with process := ⟨host.process.settings,some stores,pinned,some revision,∅⟩ }

/-- `_persist_indexes`. -/
def Host.persist (host : Host) (stores : VectorStores) : Host :=
  { host with
    disk := ⟨stores,none,.holds (host.spec modelDim),host.time + 1⟩
    time := host.time + 1 }

/-- What is installed at the end of a build or an ingest. -/
def Host.publish (host : Host) (stores : VectorStores) (persist changed : Bool) : Host :=
  if persist then
    let host := if changed then host.persist modelDim stores else host
    host.install stores false (.disk host.disk.generation)
  else { host with time := host.time + 1 }.install stores true (.memory (host.time + 1))

def Host.current (host : Host) : Bool :=
  host.process.indexes.isSome &&
    (host.process.pinned || host.process.revision == some (.disk host.disk.generation))

/-- `get_indexes`. -/
def Host.getIndexes (host : Host) : Except Unavailable Host :=
  if host.current then .ok host
  else
    match readIndexes host.disk (host.spec modelDim) with
    | .error reason => .error reason
    | .ok none => .error .missing
    | .ok (some stores) => .ok (host.install stores false (.disk host.disk.generation))

/-- `_read_indexes_or_rebuild`, unless a map is installed. -/
def Host.existing (host : Host) : VectorStores :=
  match host.process.indexes with
  | some stores => stores
  | none =>
    match readIndexes host.disk (host.spec modelDim) with
    | .error _ => ∅
    | .ok stores => stores.getD ∅

/-! ### The ingest -/

structure Progress where
  shared : VectorStores
  lexical : LexicalCache
  working : VectorStores
  added : Nat
  retired : Nat

def planFor (grouped : Dict Text (List Document)) (stores : VectorStores) (tenantId : Text) : TenantPlan :=
  planTenant (liveSourceHashes (documentsOf (stores.getD tenantId []))) (grouped.getD tenantId [])

/-- The embedding raises, or the new vectors do not have the length of those in the store. -/
def failsAt (spec : EmbeddingSpec) (grouped : Dict Text (List Document)) (stores : VectorStores)
    (raises : Text → Bool) (tenantId : Text) : Bool :=
  (planFor grouped stores tenantId).newDocs ≠ [] ∧ (raises tenantId = true ∨
    ∃ dim ∈ (stores.get? tenantId).bind indexDim, dim ≠ spec.dim)

/-- `_soft_delete_stale`. -/
def softDeleteStale (sources : List Text) (keepHash : Dict Text Text) (store : VectorStore) : VectorStore :=
  store.map (fun vector => { vector with document := retire sources keepHash vector.document })

def ingestTenant (spec : EmbeddingSpec) (grouped : Dict Text (List Document)) (progress : Progress)
    (tenantId : Text) : Progress :=
  let plan := planFor grouped progress.working tenantId
  let keepHash := wantedHashes (grouped.getD tenantId [])
  if plan.isEmpty then progress
  else match progress.working.get? tenantId with
    | none =>
      { progress with
        working := progress.working.set tenantId (embed spec plan.newDocs)
        added := progress.added + plan.newDocs.length }
    | some store =>
      let filled := store ++ embed spec plan.newDocs
      let marked := softDeleteStale plan.retireSources keepHash filled
      { shared := progress.shared.set tenantId marked
        lexical := markLexical progress.lexical tenantId
          (Knowledge.softDeleteStale plan.retireSources keepHash)
        working := progress.working.set tenantId marked
        added := progress.added + plan.newDocs.length
        retired := progress.retired + (documentsOf filled).countP (isStale plan.retireSources keepHash) }

def ingestTenants (spec : EmbeddingSpec) (grouped : Dict Text (List Document)) (raises : Text → Bool) :
    List Text → Progress → Progress × Bool
  | [], progress => (progress,false)
  | tenantId::rest, progress =>
    if failsAt spec grouped progress.working raises tenantId then (progress,true)
    else ingestTenants spec grouped raises rest (ingestTenant spec grouped progress tenantId)

def Host.interrupted (host : Host) (progress : Progress) : Host :=
  match host.process.indexes with
  | none => host
  | some _ => { host with process := { host.process with
      indexes := some progress.shared, lexical := progress.lexical } }

variable (tools : Tools) (defaultTenant : Text)

/-- `build_faiss_index`. -/
def buildFaissIndex (host : Host) (persist : Bool) (directory : Directory) (raises : Text → Bool) :
    Except Failure Host :=
  match buildStores tools defaultTenant directory with
  | .error failure => .error failure
  | .ok stores =>
    if stores.keys.any raises then .error .embedding
    else .ok (host.publish modelDim (stores.map (embed (host.spec modelDim))) persist true)

/-- `ingest_indexes`: the host afterwards, and the failure it raises. -/
def ingestIndexes (host : Host) (persist rebuild : Bool) (directory : Directory) (raises : Text → Bool) :
    Host × Option Failure :=
  if rebuild || (host.existing modelDim).isEmpty then
    match buildFaissIndex modelDim tools defaultTenant host persist directory raises with
    | .error failure => (host,some failure)
    | .ok host => (host,none)
  else
    match loadKnowledgeDocuments tools defaultTenant directory with
    | .error failure => (host,some failure)
    | .ok fresh =>
      if fresh = [] then (host,some .emptyKnowledge)
      else
        let existing := host.existing modelDim
        let grouped := groupDocuments fresh
        let run := ingestTenants (host.spec modelDim) grouped raises (ingestOrder (forget existing) grouped)
          ⟨existing,host.process.lexical,existing,0,0⟩
        if run.2 then (host.interrupted run.1,some .embedding)
        else
          (host.publish modelDim run.1.working persist (decide (run.1.added ≠ 0 ∨ run.1.retired ≠ 0)),none)

/-- `_bm25_index`. -/
def Host.bm25Index (host : Host) (scope : Text) : Host × Option (List Document) :=
  match host.process.lexical.get? scope with
  | some entry => (host,entry)
  | none =>
    match host.getIndexes modelDim with
    | .error _ => (host,none)
    | .ok host =>
      let built := (((host.process.indexes.getD ∅).get? scope).map documentsOf).bind buildLexical
      ({ host with process := { host.process with
        lexical := host.process.lexical.set scope built } },built)

/-! ### Runs -/

structure World where
  processes : Nat → Process
  disk : Disk
  time : Nat

def World.start (settings : Nat → EmbeddingSettings) (disk : Disk) : World where
  processes := fun index => .fresh (settings index)
  disk := disk
  time := disk.generation

def World.host (world : World) (index : Nat) : Host := ⟨world.processes index,world.disk,world.time⟩

def World.put (world : World) (index : Nat) (host : Host) : World where
  processes := fun other => if other = index then host.process else world.processes other
  disk := host.disk
  time := host.time

/-- A process comes up again, perhaps with another configuration. -/
inductive Action
  | ingest (persist rebuild : Bool) (directory : Directory) (raises : Text → Bool)
  | load
  | search (scope : Text)
  | restart (settings : EmbeddingSettings)

def Host.act (host : Host) : Action → Host
  | .ingest persist rebuild directory raises =>
    (ingestIndexes modelDim tools defaultTenant host persist rebuild directory raises).1
  | .load =>
    match host.getIndexes modelDim with
    | .error _ => host
    | .ok next => next
  | .search scope => (host.bm25Index modelDim scope).1
  | .restart settings => { host with process := .fresh settings }

def World.step (world : World) (event : Nat × Action) : World :=
  world.put event.1 ((world.host event.1).act modelDim tools defaultTenant event.2)

def World.run (world : World) (events : List (Nat × Action)) : World :=
  Transition.run (World.step modelDim tools defaultTenant) world events

end

/-! ### One embedding -/

def Own (spec : EmbeddingSpec) (stores : VectorStores) : Prop :=
  ∀ tenantId store, stores.get? tenantId = some store → store ≠ [] ∧ ∀ vector ∈ store, vector.spec = spec

theorem own_empty (spec : EmbeddingSpec) : Own spec ∅ := nofun

theorem own_embed (spec : EmbeddingSpec) (documents : List Document) :
    ∀ vector ∈ embed spec documents, vector.spec = spec :=
  List.forall_mem_map.mpr (fun _ _ => rfl)

theorem Own.set {spec : EmbeddingSpec} {stores : VectorStores} (own : Own spec stores) (tenantId : Text)
    {store : VectorStore} (some' : store ≠ []) (mine : ∀ vector ∈ store, vector.spec = spec) :
    Own spec (stores.set tenantId store) := by
  intro other held found
  rw [Dict.get?_set] at found
  split_ifs at found
  · cases found
    exact ⟨some',mine⟩
  · exact own other held found

theorem own_stores (spec : EmbeddingSpec) (grouped : Dict Text (List Document)) :
    Own spec ((storesFromGroups grouped).map (embed spec)) := by
  intro tenantId store found
  rw [Dict.get?_map] at found
  obtain ⟨documents,listed,rfl⟩ := Option.map_eq_some_iff.mp found
  rw [storesFromGroups,Dict.get?_filter] at listed
  obtain ⟨-,kept⟩ := Option.filter_eq_some_iff.mp listed
  refine ⟨?_,own_embed spec documents⟩
  intro empty
  rw [List.map_eq_nil_iff.mp empty] at kept
  cases kept

private theorem currentEmbeddingSpec_ngram (modelDim : Text → Nat) (settings : EmbeddingSettings)
    (ngram : (currentEmbeddingSpec modelDim settings).backend = Backend.ngram.name) :
    (currentEmbeddingSpec modelDim settings).model = "ngram".toList := by
  unfold currentEmbeddingSpec at ngram ⊢
  cases backend : settings.embeddingBackend with
  | ngram => rfl
  | huggingface =>
    rw [backend] at ngram
    have other : Backend.huggingface.name ≠ Backend.ngram.name := by decide
    exact absurd ngram other

private theorem readIndexes_ok {disk : Disk} {current : EmbeddingSpec} {read : Option VectorStores}
    (done : readIndexes disk current = .ok read) :
    (disk.hasIndex = false ∧ read = none) ∨
      (disk.hasIndex = true ∧ assertEmbeddingCompatible disk current = .ok () ∧
        read = some (if disk.folders.isEmpty then partitionStore current (disk.legacy.getD []) else disk.folders)) := by
  unfold readIndexes at done
  by_cases absent : disk.hasIndex = false
  · rw [if_pos absent] at done
    cases done
    exact Or.inl ⟨absent,rfl⟩
  · rw [if_neg absent] at done
    cases compatible : assertEmbeddingCompatible disk current with
    | error reason =>
      rw [compatible] at done
      cases done
    | ok nothing =>
      rw [compatible] at done
      refine Or.inr ⟨Bool.eq_true_of_not_eq_false absent,rfl,?_⟩
      rw [← Except.ok.inj done]
      split_ifs <;> rfl

theorem assertEmbeddingCompatible_ok {disk : Disk} {current : EmbeddingSpec} (present : disk.hasIndex = true)
    (compatible : assertEmbeddingCompatible disk current = .ok ()) :
    loadEmbeddingMeta disk = some current ∨ (loadEmbeddingMeta disk = none ∧
      (peekIndexDim disk = none ∨ peekIndexDim disk = some current.dim ∧ current.backend = Backend.ngram.name)) := by
  unfold assertEmbeddingCompatible at compatible
  rw [if_neg (by rw [present]; decide)] at compatible
  cases stored : loadEmbeddingMeta disk with
  | some spec =>
    rw [stored] at compatible
    dsimp only at compatible
    split_ifs at compatible with differs
    exact Or.inl (congrArg some (not_not.mp differs))
  | none =>
    rw [stored] at compatible
    cases found : peekIndexDim disk with
    | none => exact Or.inr ⟨rfl,Or.inl rfl⟩
    | some dim =>
      rw [found] at compatible
      dsimp only at compatible
      split_ifs at compatible with differs
      obtain ⟨same,backend⟩ := not_or.mp differs
      exact Or.inr ⟨rfl,Or.inr ⟨congrArg some (not_not.mp same),not_not.mp backend⟩⟩

/-- What is saved was made by one embedding: by the one in `embedding.json`, and by bigrams when none is. -/
def Disk.Honest (disk : Disk) : Prop :=
  ∃ made, Own made disk.folders ∧
    (∀ spec, loadEmbeddingMeta disk = some spec → spec = made) ∧
    (loadEmbeddingMeta disk = none → made.backend = Backend.ngram.name ∧ made.model = "ngram".toList)

private theorem peekIndexDim_own {disk : Disk} {made : EmbeddingSpec} (own : Own made disk.folders)
    (some' : disk.folders.isEmpty = false) : peekIndexDim disk = some made.dim := by
  unfold peekIndexDim
  have same := (List.perm_insertionSort (fun first second : Text × VectorStore => first.1 ≤ second.1)
    disk.folders.entries)
  cases shape : sortedByName disk.folders.entries with
  | nil =>
    rw [sortedByName] at shape
    rw [shape] at same
    rw [Dict.isEmpty,same.nil_eq.symm] at some'
    cases some'
  | cons first rest =>
    have listed : first ∈ disk.folders.entries := same.subset (by
      rw [sortedByName] at shape
      rw [shape]
      exact List.mem_cons_self)
    obtain ⟨full,mine⟩ := own first.1 first.2 ((Dict.get?_eq_some _ _ _).mpr listed)
    obtain ⟨vector,others,made'⟩ := List.exists_cons_of_ne_nil full
    dsimp only
    rw [indexDim,made',List.head?_cons,Option.map_some,mine vector (made' ▸ List.mem_cons_self)]

theorem own_readIndexes {modelDim : Text → Nat} {settings : EmbeddingSettings} {disk : Disk} (honest : disk.Honest)
    {stores : VectorStores} (read : readIndexes disk (currentEmbeddingSpec modelDim settings) = .ok (some stores)) :
    Own (currentEmbeddingSpec modelDim settings) stores := by
  obtain ⟨made,own,recorded,unrecorded⟩ := honest
  rcases readIndexes_ok read with ⟨-,nothing⟩ | ⟨present,compatible,shape⟩
  · cases nothing
  obtain rfl := Option.some.inj shape
  by_cases bare : disk.folders.isEmpty = true
  · rw [if_pos bare]
    exact own_stores _ _
  rw [if_neg bare]
  have full : disk.folders.isEmpty = false := Bool.eq_false_iff.mpr bare
  have same : currentEmbeddingSpec modelDim settings = made := by
    rcases assertEmbeddingCompatible_ok present compatible with stored | ⟨stored,unread | ⟨dim,backend⟩⟩
    · exact recorded _ stored
    · rw [peekIndexDim_own own full] at unread
      cases unread
    · rw [peekIndexDim_own own full] at dim
      obtain ⟨bigrams,model⟩ := unrecorded stored
      have model' := currentEmbeddingSpec_ngram modelDim settings backend
      cases made
      rw [EmbeddingSpec.mk.injEq]
      exact ⟨backend.trans bigrams.symm,model'.trans model.symm,(Option.some.inj dim).symm⟩
  exact same ▸ own

end CustomerService.EmbeddingGuard
