import CustomerService.KnowledgeIndex
import CustomerService.Transition
import Mathlib.Data.List.Dedup

/-! Ingesting the knowledge directory, in full or by differences. A store is an object that
the installed map, the working copy of an ingest and the lexical cache share. -/
namespace CustomerService.Knowledge

open Text

/-! The differences of a tenant. -/

def liveSourceHashes (store : Store) : Dict Text Text :=
  (∅ : Dict Text Text).update (((iterStoreDocuments store).filter (fun document =>
    document.source ≠ [])).map (fun document => (document.source,document.contentHash)))

def wantedHashes (wanted : List Document) : Dict Text Text :=
  (∅ : Dict Text Text).update (wanted.map (fun document => (document.source,document.contentHash)))

def isChanged (live : Dict Text Text) (entry : Text × Text) : Bool :=
  !(entry.2 != [] && live.get? entry.1 == some entry.2)

structure TenantPlan where
  newDocs : List Document
  retireSources : List Text
deriving DecidableEq

def planTenant (live : Dict Text Text) (wanted : List Document) : TenantPlan where
  newDocs := ((wantedHashes wanted).entries.filter (isChanged live)).flatMap (fun entry =>
    (collect Document.source wanted).getD entry.1 [])
  retireSources := (((wantedHashes wanted).entries.filter (isChanged live)).map Prod.fst).filter
      live.keys.contains ++
    live.keys.filter (fun source => !(wantedHashes wanted).keys.contains source)

def TenantPlan.isEmpty (plan : TenantPlan) : Bool := plan.newDocs.isEmpty && plan.retireSources.isEmpty

/-- A live document of one of the sources that does not have the digest to keep. -/
def isStale (sources : List Text) (keepHash : Dict Text Text) (document : Document) : Bool :=
  sources.contains document.source && !document.deleted &&
    !(keepHash.getD document.source [] != [] &&
      document.contentHash == keepHash.getD document.source [])

def retire (sources : List Text) (keepHash : Dict Text Text) (document : Document) : Document :=
  if isStale sources keepHash document then { document with deleted := true } else document

/-- `_soft_delete_stale`: the documents afterwards; it returns how many are marked. -/
def softDeleteStale (sources : List Text) (keepHash : Dict Text Text) (store : Store) : Store :=
  store.map (retire sources keepHash)

/-! The process and the disk. -/

/-- A generation on the disk, or a time in memory. -/
inductive Revision
  | disk (generation : Nat)
  | memory (time : Nat)
deriving DecidableEq

abbrev LexicalCache := Dict Text (Option (List Document))

structure Memory where
  indexes : Option Stores
  pinned : Bool
  revision : Option Revision
  lexical : LexicalCache
deriving DecidableEq

/-- A process with the index directory it shares: the stores saved there with the marker
of their generation, and the time. -/
structure Host where
  memory : Memory
  saved : Option Stores
  generation : Nat
  time : Nat
deriving DecidableEq

/-- `_install_indexes`. -/
def Host.install (host : Host) (stores : Stores) (pinned : Bool) (revision : Revision) : Host :=
  { host with memory := ⟨some stores,pinned,some revision,∅⟩ }

/-- `_persist_indexes`: the marker is the time of the write. -/
def Host.persist (host : Host) (stores : Stores) : Host :=
  { host with saved := some stores, generation := host.time + 1, time := host.time + 1 }

/-- What is installed at the end of a build or an ingest. -/
def Host.publish (host : Host) (stores : Stores) (persist changed : Bool) : Host :=
  if persist then
    let host := if changed then host.persist stores else host
    host.install stores false (.disk host.generation)
  else { host with time := host.time + 1 }.install stores true (.memory (host.time + 1))

def Host.current (host : Host) : Bool :=
  host.memory.indexes.isSome &&
    (host.memory.pinned || host.memory.revision == some (.disk host.generation))

/-- `get_indexes`: a host whose installed map is in use, unless there is no index. -/
def Host.getIndexes (host : Host) : Option Host :=
  if host.current then some host
  else host.saved.map (fun stores => host.install stores false (.disk host.generation))

section
variable (tools : Tools) (defaultTenant : Text)

/-! The build and the ingest; `raises` says for which tenants the embedding call raises. -/

def buildFaissIndex (host : Host) (persist : Bool) (directory : Directory) (raises : Text → Bool) :
    Except Failure Host :=
  match buildStores tools defaultTenant directory with
  | .error failure => .error failure
  | .ok stores =>
    if stores.keys.any raises then .error .embedding else .ok (host.publish stores persist true)

/-- What an ingest has done so far: the shared stores and cached documents as they are now,
the working copy of the map, and how many documents were added and retired. -/
structure Progress where
  shared : Stores
  lexical : LexicalCache
  working : Stores
  added : Nat
  retired : Nat

def planFor (grouped : Dict Text (List Document)) (stores : Stores) (tenantId : Text) : TenantPlan :=
  planTenant (liveSourceHashes (stores.getD tenantId [])) (grouped.getD tenantId [])

def failsAt (grouped : Dict Text (List Document)) (stores : Stores) (raises : Text → Bool)
    (tenantId : Text) : Bool :=
  (planFor grouped stores tenantId).newDocs ≠ [] ∧ raises tenantId = true

/-- The cached documents of a tenant after some of its documents are marked. -/
def markLexical (lexical : LexicalCache) (tenantId : Text) (mark : Store → Store) : LexicalCache :=
  lexical.filterMap (fun scope entry => some (if scope = tenantId then entry.map mark else entry))

/-- One round of the loop over the tenants that does not raise. -/
def ingestTenant (grouped : Dict Text (List Document)) (progress : Progress) (tenantId : Text) :
    Progress :=
  let plan := planFor grouped progress.working tenantId
  let keepHash := wantedHashes (grouped.getD tenantId [])
  if plan.isEmpty then progress
  else match progress.working.get? tenantId with
    | none =>
      { progress with
        working := progress.working.set tenantId plan.newDocs
        added := progress.added + plan.newDocs.length }
    | some store =>
      let filled := store ++ plan.newDocs
      let marked := softDeleteStale plan.retireSources keepHash filled
      { shared := progress.shared.set tenantId marked
        lexical := markLexical progress.lexical tenantId (softDeleteStale plan.retireSources keepHash)
        working := progress.working.set tenantId marked
        added := progress.added + plan.newDocs.length
        retired := progress.retired + filled.countP (isStale plan.retireSources keepHash) }

/-- The loop over the tenants, up to the first call that raises. -/
def ingestTenants (grouped : Dict Text (List Document)) (raises : Text → Bool) :
    List Text → Progress → Progress × Bool
  | [], progress => (progress,false)
  | tenantId::rest, progress =>
    if failsAt grouped progress.working raises tenantId then (progress,true)
    else ingestTenants grouped raises rest (ingestTenant grouped progress tenantId)

/-- `sorted(set(working) | set(grouped))`. -/
def ingestOrder (working : Stores) (grouped : Dict Text (List Document)) : List Text :=
  ((working.keys ++ grouped.keys).dedup).insertionSort (· ≤ ·)

def Host.existing (host : Host) : Stores := (host.memory.indexes.or host.saved).getD ∅

/-- An ingest that a call has interrupted: the stores of the installed map and the cached
documents are as the rounds before it have made them; a map read from the disk is dropped. -/
def Host.interrupted (host : Host) (progress : Progress) : Host :=
  match host.memory.indexes with
  | none => host
  | some _ => { host with memory := { host.memory with
      indexes := some progress.shared, lexical := progress.lexical } }

/-- `ingest_indexes`: the host afterwards, and the failure it raises. -/
def ingestIndexes (host : Host) (persist rebuild : Bool) (directory : Directory)
    (raises : Text → Bool) : Host × Option Failure :=
  if rebuild || host.existing.isEmpty then
    match buildFaissIndex tools defaultTenant host persist directory raises with
    | .error failure => (host,some failure)
    | .ok host => (host,none)
  else
    match loadKnowledgeDocuments tools defaultTenant directory with
    | .error failure => (host,some failure)
    | .ok fresh =>
      if fresh = [] then (host,some .emptyKnowledge)
      else
        let grouped := groupDocuments fresh
        let run := ingestTenants grouped raises (ingestOrder host.existing grouped)
          ⟨host.existing,host.memory.lexical,host.existing,0,0⟩
        if run.2 then (host.interrupted run.1,some .embedding)
        else
          (host.publish run.1.working persist (decide (run.1.added ≠ 0 ∨ run.1.retired ≠ 0)),none)

end

/-! The lexical cache. -/

/-- `Bm25Index.build` over the retrieval chunks in use; there is no index over nothing. -/
def buildLexical (store : Store) : Option (List Document) :=
  let documents := (iterStoreDocuments store).filter isRetrievalChunk
  if documents = [] then none else some documents

/-- `_bm25_index`: the host afterwards, and the documents of the scope's index. -/
def Host.bm25Index (host : Host) (scope : Text) : Host × Option (List Document) :=
  match host.memory.lexical.get? scope with
  | some entry => (host,entry)
  | none =>
    match host.getIndexes with
    | none => (host,none)
    | some host =>
      let built := ((host.memory.indexes.getD ∅).get? scope).bind buildLexical
      ({ host with memory := { host.memory with
        lexical := host.memory.lexical.set scope built } },built)

/-! Runs of several processes that share the index directory. -/

structure World where
  memories : Nat → Memory
  saved : Option Stores
  generation : Nat
  time : Nat

def Memory.fresh : Memory := ⟨none,false,none,∅⟩

def World.start : World := ⟨fun _ => .fresh,none,0,0⟩

def World.host (world : World) (worker : Nat) : Host :=
  ⟨world.memories worker,world.saved,world.generation,world.time⟩

def World.put (world : World) (worker : Nat) (host : Host) : World where
  memories := fun other => if other = worker then host.memory else world.memories other
  saved := host.saved
  generation := host.generation
  time := host.time

/-- What a process does: an ingest in which no call raises, a search that needs the installed
map or the lexical index of a scope, or a restart. -/
inductive Action
  | ingest (persist rebuild : Bool) (directory : Directory)
  | load
  | search (scope : Text)
  | restart

def Host.act (tools : Tools) (defaultTenant : Text) (host : Host) : Action → Host
  | .ingest persist rebuild directory =>
    (ingestIndexes tools defaultTenant host persist rebuild directory (fun _ => false)).1
  | .load => host.getIndexes.getD host
  | .search scope => (host.bm25Index scope).1
  | .restart => { host with memory := .fresh }

def World.step (tools : Tools) (defaultTenant : Text) (world : World) (event : Nat × Action) : World :=
  world.put event.1 ((world.host event.1).act tools defaultTenant event.2)

def World.run (tools : Tools) (defaultTenant : Text) (events : List (Nat × Action)) : World :=
  Transition.run (World.step tools defaultTenant) World.start events

/-- The contents of the knowledge directory that the ingests of a run find. -/
def contents (events : List (Nat × Action)) : List Directory :=
  events.filterMap (fun event =>
    match event.2 with
    | .ingest _ _ directory => some directory
    | _ => none)

/-! The rounds. -/

def ingested (grouped : Dict Text (List Document)) (stores : Stores) (tenantId : Text) : Store :=
  softDeleteStale (planFor grouped stores tenantId).retireSources
    (wantedHashes (grouped.getD tenantId []))
    (stores.getD tenantId [] ++ (planFor grouped stores tenantId).newDocs)

private theorem softDeleteStale_none (keepHash : Dict Text Text) (store : Store) :
    softDeleteStale [] keepHash store = store := by
  refine (List.map_congr_left (fun document _ => ?_)).trans (List.map_id store)
  simp [retire,isStale]

theorem isEmpty_iff {plan : TenantPlan} :
    plan.isEmpty = true ↔ plan.newDocs = [] ∧ plan.retireSources = [] := by
  simp [TenantPlan.isEmpty]

theorem ingested_of_empty {grouped : Dict Text (List Document)} {stores : Stores} {tenantId : Text}
    (empty : (planFor grouped stores tenantId).isEmpty = true) :
    ingested grouped stores tenantId = stores.getD tenantId [] := by
  obtain ⟨nothing,nobody⟩ := isEmpty_iff.mp empty
  rw [ingested,nothing,nobody,softDeleteStale_none,List.append_nil]

theorem retire_none_of_new {grouped : Dict Text (List Document)} {stores : Stores} {tenantId : Text}
    (new : stores.get? tenantId = none) : (planFor grouped stores tenantId).retireSources = [] := by
  have live : (liveSourceHashes (stores.getD tenantId [])).keys = [] := by
    rw [Dict.getD,new]
    rfl
  simp [planFor,planTenant,live]

private theorem working_ingestTenant (grouped : Dict Text (List Document)) (progress : Progress)
    (tenantId : Text) :
    (ingestTenant grouped progress tenantId).working.getD tenantId [] =
      ingested grouped progress.working tenantId := by
  unfold ingestTenant
  dsimp only
  split_ifs with empty
  · exact (ingested_of_empty empty).symm
  · cases found : progress.working.get? tenantId with
    | none =>
      dsimp only
      rw [ingested,retire_none_of_new found,softDeleteStale_none,Dict.getD_set,if_pos rfl,
        Dict.getD_of_none found,List.nil_append]
    | some store =>
      dsimp only
      rw [ingested,Dict.getD_set,if_pos rfl,Dict.getD_of_some found]

theorem working_ingestTenant_other (grouped : Dict Text (List Document)) (progress : Progress)
    {tenantId other : Text} (apart : other ≠ tenantId) :
    (ingestTenant grouped progress tenantId).working.get? other = progress.working.get? other := by
  unfold ingestTenant
  dsimp only
  split_ifs
  · rfl
  · cases progress.working.get? tenantId <;> dsimp only <;> rw [Dict.get?_set,if_neg apart]

theorem planFor_congr {grouped : Dict Text (List Document)} {stores others : Stores} {tenantId : Text}
    (same : stores.get? tenantId = others.get? tenantId) :
    planFor grouped stores tenantId = planFor grouped others tenantId := by
  unfold planFor Dict.getD
  rw [same]

private theorem failsAt_congr {grouped : Dict Text (List Document)} {stores others : Stores} {tenantId : Text}
    {raises : Text → Bool} (same : stores.get? tenantId = others.get? tenantId) :
    failsAt grouped stores raises tenantId = failsAt grouped others raises tenantId := by
  rw [failsAt,failsAt,planFor_congr same]

private theorem takeWhile_congr {Item : Type*} {items : List Item} {first second : Item → Bool}
    (same : ∀ item ∈ items, first item = second item) :
    items.takeWhile first = items.takeWhile second := by
  induction items with
  | nil => rfl
  | cons item rest ih =>
    rw [List.takeWhile_cons,List.takeWhile_cons,same item List.mem_cons_self,
      ih (fun other listed => same other (List.mem_cons_of_mem _ listed))]

theorem ingestTenants_eq (grouped : Dict Text (List Document)) (raises : Text → Bool)
    {order : List Text} (once : order.Nodup) (progress : Progress) :
    ingestTenants grouped raises order progress =
      ((order.takeWhile (fun tenantId =>
          !failsAt grouped progress.working raises tenantId)).foldl (ingestTenant grouped) progress,
        order.any (failsAt grouped progress.working raises)) := by
  induction order generalizing progress with
  | nil => rfl
  | cons tenantId rest ih =>
    obtain ⟨fresh,once⟩ := List.nodup_cons.mp once
    have same : ∀ other ∈ rest,
        failsAt grouped (ingestTenant grouped progress tenantId).working raises other =
          failsAt grouped progress.working raises other := fun other listed =>
      failsAt_congr (working_ingestTenant_other grouped progress
        (fun equal => fresh (equal ▸ listed)))
    rw [ingestTenants]
    split_ifs with fails
    · simp [fails]
    · have rounds := takeWhile_congr (fun other listed => congrArg (!·) (same other listed))
      have calls : rest.any (failsAt grouped (ingestTenant grouped progress tenantId).working raises) =
          rest.any (failsAt grouped progress.working raises) := by
        rw [Bool.eq_iff_iff,List.any_eq_true,List.any_eq_true]
        refine exists_congr (fun other => and_congr_right (fun listed => ?_))
        rw [same other listed]
      rw [ih once,rounds,calls,List.takeWhile_cons,List.any_cons]
      simp [fails]

theorem working_rounds (grouped : Dict Text (List Document)) {rounds : List Text}
    (once : rounds.Nodup) (progress : Progress) (tenantId : Text) :
    (rounds.foldl (ingestTenant grouped) progress).working.getD tenantId [] =
      if tenantId ∈ rounds then ingested grouped progress.working tenantId
      else progress.working.getD tenantId [] := by
  induction rounds generalizing progress with
  | nil => rfl
  | cons first rest ih =>
    obtain ⟨fresh,once⟩ := List.nodup_cons.mp once
    rw [List.foldl_cons,ih once]
    by_cases here : tenantId = first
    · subst here
      rw [if_neg fresh,if_pos List.mem_cons_self,working_ingestTenant]
    · have same := working_ingestTenant_other grouped progress here
      have plan := @planFor_congr grouped _ _ _ same
      simp only [List.mem_cons,here,false_or,ingested,plan,Dict.getD,same]

theorem nodup_ingestOrder (working : Stores) (grouped : Dict Text (List Document)) :
    (ingestOrder working grouped).Nodup :=
  (List.perm_insertionSort _ _).nodup_iff.mpr (List.nodup_dedup _)

theorem mem_ingestOrder {working : Stores} {grouped : Dict Text (List Document)} {tenantId : Text} :
    tenantId ∈ ingestOrder working grouped ↔ tenantId ∈ working.keys ∨ tenantId ∈ grouped.keys := by
  rw [ingestOrder,(List.perm_insertionSort _ _).mem_iff,List.mem_dedup,List.mem_append]

/-! Invariants of runs: what holds of the stores in memory and on the disk, and of what a
lexical cache keeps for a scope. -/

structure Host.Holds (storesOk : Stores → Prop) (entryOk : Text → List Document → Prop)
    (host : Host) : Prop where
  memory : ∀ indexes, host.memory.indexes = some indexes → storesOk indexes
  saved : ∀ stores, host.saved = some stores → storesOk stores
  lexical : ∀ scope documents, host.memory.lexical.get? scope = some (some documents) →
    entryOk scope documents

section
variable {storesOk : Stores → Prop} {entryOk : Text → List Document → Prop} {host : Host}

theorem Host.Holds.existing (holds : host.Holds storesOk entryOk) (empty : storesOk ∅) :
    storesOk host.existing := by
  unfold Host.existing
  cases here : host.memory.indexes with
  | some indexes => exact holds.memory indexes here
  | none =>
    cases there : host.saved with
    | some stores => exact holds.saved stores there
    | none => exact empty

theorem Host.Holds.publish (holds : host.Holds storesOk entryOk) {stores : Stores}
    (good : storesOk stores) (persist changed : Bool) :
    (host.publish stores persist changed).Holds storesOk entryOk := by
  cases persist <;> cases changed
  all_goals
    refine ⟨fun indexes installed => ?_,fun saved written => ?_,
      fun _ _ cached => (nomatch cached)⟩
    · cases installed
      exact good
    · first
      | exact holds.saved saved written
      | (cases written; exact good)

theorem Host.Holds.getIndexes {next : Host} (holds : host.Holds storesOk entryOk)
    (got : host.getIndexes = some next) :
    next.Holds storesOk entryOk ∧ ∃ indexes, next.memory.indexes = some indexes := by
  unfold Host.getIndexes at got
  split_ifs at got with used
  · cases got
    simp only [Host.current,Bool.and_eq_true] at used
    exact ⟨holds,Option.isSome_iff_exists.mp used.1⟩
  · obtain ⟨stores,written,rfl⟩ := Option.map_eq_some_iff.mp got
    refine ⟨⟨fun indexes installed => ?_,holds.saved,fun _ _ cached => (nomatch cached)⟩,stores,rfl⟩
    cases installed
    exact holds.saved stores written

theorem Host.Holds.load (holds : host.Holds storesOk entryOk) :
    (host.getIndexes.getD host).Holds storesOk entryOk := by
  cases got : host.getIndexes with
  | none => exact holds
  | some next => exact (holds.getIndexes got).1

theorem Host.Holds.restart (holds : host.Holds storesOk entryOk) :
    ({ host with memory := .fresh } : Host).Holds storesOk entryOk :=
  ⟨fun _ installed => (nomatch installed),holds.saved,fun _ _ cached => (nomatch cached)⟩

theorem Host.Holds.bm25Index (holds : host.Holds storesOk entryOk)
    (build : ∀ indexes scope store documents, storesOk indexes → indexes.get? scope = some store →
      buildLexical store = some documents → entryOk scope documents) (scope : Text) :
    (host.bm25Index scope).1.Holds storesOk entryOk ∧
      ∀ documents, (host.bm25Index scope).2 = some documents → entryOk scope documents := by
  unfold Host.bm25Index
  cases cached : host.memory.lexical.get? scope with
  | some entry => exact ⟨holds,fun documents same => holds.lexical scope documents (same ▸ cached)⟩
  | none =>
    cases got : host.getIndexes with
    | none => exact ⟨holds,fun _ same => (nomatch same)⟩
    | some next =>
      obtain ⟨held,indexes,installed⟩ := holds.getIndexes got
      have good : ∀ documents, ((next.memory.indexes.getD ∅).get? scope).bind buildLexical =
          some documents → entryOk scope documents := by
        intro documents built
        rw [installed,Option.getD_some] at built
        obtain ⟨store,listed,made⟩ := Option.bind_eq_some_iff.mp built
        exact build indexes scope store documents (held.memory indexes installed) listed made
      refine ⟨⟨held.memory,held.saved,fun other documents kept => ?_⟩,good⟩
      dsimp only at kept
      rw [Dict.get?_set] at kept
      split_ifs at kept with same
      · exact same ▸ good documents (Option.some.inj kept)
      · exact held.lexical other documents kept

def World.Holds (storesOk : Stores → Prop) (entryOk : Text → List Document → Prop) (world : World) :
    Prop := ∀ worker, (world.host worker).Holds storesOk entryOk

theorem World.Holds.put {world : World} (holds : world.Holds storesOk entryOk)
    (good : host.Holds storesOk entryOk) (worker : Nat) :
    (world.put worker host).Holds storesOk entryOk := by
  intro other
  by_cases same : other = worker
  · refine ⟨?_,good.saved,?_⟩ <;> simp only [World.put,World.host,if_pos same]
    · exact good.memory
    · exact good.lexical
  · refine ⟨?_,good.saved,?_⟩ <;> simp only [World.put,World.host,if_neg same]
    · exact (holds other).memory
    · exact (holds other).lexical

theorem World.holds_run {tools : Tools} {defaultTenant : Text} (events : List (Nat × Action))
    (keeps : ∀ event ∈ events, ∀ host : Host, host.Holds storesOk entryOk →
      (host.act tools defaultTenant event.2).Holds storesOk entryOk) :
    (World.run tools defaultTenant events).Holds storesOk entryOk := by
  induction events using List.reverseRecOn with
  | nil =>
    exact fun _ => ⟨fun _ installed => (nomatch installed),fun _ written => (nomatch written),
      fun _ _ cached => (nomatch cached)⟩
  | append_singleton events last ih =>
    have holds := ih (fun event listed => keeps event (List.mem_append_left _ listed))
    rw [World.run,Transition.run_append]
    exact holds.put (keeps last (List.mem_append_right _ (List.mem_singleton_self _)) _
      (holds last.1)) last.1

end

end CustomerService.Knowledge
