import CustomerService.EmbeddingGuard

/-! Runs of processes with embeddings of their own over one index directory. No search compares vectors of two
embeddings; and where all have the same, the guard is never in the way. -/
namespace CustomerService.EmbeddingGuard

open Text Knowledge

variable {modelDim : Text → Nat}

structure Host.Sound (modelDim : Text → Nat) (host : Host) : Prop where
  process : ∀ stores, host.process.indexes = some stores → Own (host.spec modelDim) stores
  disk : host.disk.Honest

theorem Host.Sound.install {host : Host} (disk : host.disk.Honest) {stores : VectorStores}
    (own : Own (host.spec modelDim) stores) (pinned : Bool) (revision : Revision) :
    (host.install stores pinned revision).Sound modelDim where
  process := by
    intro installed same
    cases same
    exact own
  disk := disk

private theorem honest_persist {host : Host} {stores : VectorStores} (own : Own (host.spec modelDim) stores) :
    (host.persist modelDim stores).disk.Honest := by
  refine ⟨host.spec modelDim,own,?_,nofun⟩
  intro spec stored
  exact (Option.some.inj stored).symm

theorem Host.Sound.publish {host : Host} (sound : host.Sound modelDim) {stores : VectorStores}
    (own : Own (host.spec modelDim) stores) (persist changed : Bool) :
    (host.publish modelDim stores persist changed).Sound modelDim := by
  cases persist with
  | false =>
    refine ⟨fun installed same => ?_,sound.disk⟩
    cases same
    exact own
  | true =>
    cases changed with
    | false => exact Host.Sound.install sound.disk own false _
    | true => exact Host.Sound.install (honest_persist own) own false _

theorem Host.Sound.getIndexes {host next : Host} (sound : host.Sound modelDim)
    (got : host.getIndexes modelDim = .ok next) :
    next.Sound modelDim ∧ next.process.settings = host.process.settings ∧ next.process.indexes ≠ none := by
  unfold Host.getIndexes at got
  split_ifs at got with current
  · cases got
    refine ⟨sound,rfl,?_⟩
    rw [Host.current,Bool.and_eq_true] at current
    exact Option.isSome_iff_ne_none.mp current.1
  · cases read : readIndexes host.disk (host.spec modelDim) with
    | error reason =>
      rw [read] at got
      cases got
    | ok loaded =>
      cases loaded with
      | none =>
        rw [read] at got
        cases got
      | some stores =>
        rw [read] at got
        cases got
        exact ⟨Host.Sound.install sound.disk (own_readIndexes sound.disk read) false _,rfl,Option.some_ne_none _⟩

theorem Host.Sound.existing {host : Host} (sound : host.Sound modelDim) :
    Own (host.spec modelDim) (host.existing modelDim) := by
  unfold Host.existing
  cases installed : host.process.indexes with
  | some stores => exact sound.process stores installed
  | none =>
    cases read : readIndexes host.disk (host.spec modelDim) with
    | error reason => exact own_empty _
    | ok loaded =>
      cases loaded with
      | none => exact own_empty _
      | some stores => exact own_readIndexes sound.disk read

/-! ### The rounds -/

theorem own_softDeleteStale {spec : EmbeddingSpec} {store : VectorStore} (mine : ∀ vector ∈ store, vector.spec = spec)
    (sources : List Text) (keepHash : Dict Text Text) :
    ∀ vector ∈ softDeleteStale sources keepHash store, vector.spec = spec :=
  List.forall_mem_map.mpr mine

private theorem documents_embed (spec : EmbeddingSpec) (documents : List Document) :
    documentsOf (embed spec documents) = documents := by
  rw [documentsOf,embed,List.map_map]
  exact List.map_id documents

private theorem getD_forget (stores : VectorStores) (tenantId : Text) :
    (forget stores).getD tenantId [] = documentsOf (stores.getD tenantId []) := by
  rw [Dict.getD,forget,Dict.get?_map,Dict.getD]
  cases stores.get? tenantId <;> rfl

private theorem planFor_forget (grouped : Dict Text (List Document)) (stores : VectorStores) (tenantId : Text) :
    planFor grouped stores tenantId = Knowledge.planFor grouped (forget stores) tenantId := by
  rw [planFor,Knowledge.planFor,getD_forget]

private theorem newDocs_of_new {grouped : Dict Text (List Document)} {stores : VectorStores} {tenantId : Text}
    (new : stores.get? tenantId = none) (some' : (planFor grouped stores tenantId).isEmpty = false) :
    (planFor grouped stores tenantId).newDocs ≠ [] := by
  intro none'
  have nobody : (planFor grouped stores tenantId).retireSources = [] := by
    rw [planFor_forget]
    exact retire_none_of_new (by rw [forget,Dict.get?_map,new]; rfl)
  rw [isEmpty_iff.mpr ⟨none',nobody⟩] at some'
  cases some'

structure Progress.Own (spec : EmbeddingSpec) (progress : Progress) : Prop where
  shared : EmbeddingGuard.Own spec progress.shared
  working : EmbeddingGuard.Own spec progress.working

theorem Progress.Own.ingestTenant {spec : EmbeddingSpec} {progress : Progress} (own : progress.Own spec)
    (grouped : Dict Text (List Document)) (tenantId : Text) :
    (ingestTenant spec grouped progress tenantId).Own spec := by
  unfold EmbeddingGuard.ingestTenant
  dsimp only
  split_ifs with empty
  · exact own
  · cases found : progress.working.get? tenantId with
    | none =>
      have new := newDocs_of_new found (Bool.eq_false_iff.mpr empty)
      exact ⟨own.shared,own.working.set tenantId (fun nothing => new (List.map_eq_nil_iff.mp nothing))
        (own_embed spec _)⟩
    | some store =>
      obtain ⟨full,mine⟩ := own.working tenantId store found
      have filled : ∀ vector ∈ store ++ embed spec (planFor grouped progress.working tenantId).newDocs,
          vector.spec = spec := List.forall_mem_append.mpr ⟨mine,own_embed spec _⟩
      have marked := own_softDeleteStale filled (planFor grouped progress.working tenantId).retireSources
        (wantedHashes (grouped.getD tenantId []))
      have kept : softDeleteStale (planFor grouped progress.working tenantId).retireSources
          (wantedHashes (grouped.getD tenantId []))
          (store ++ embed spec (planFor grouped progress.working tenantId).newDocs) ≠ [] := fun nothing =>
        full (List.append_eq_nil_iff.mp (List.map_eq_nil_iff.mp nothing)).1
      exact ⟨own.shared.set tenantId kept marked,own.working.set tenantId kept marked⟩

theorem Progress.Own.ingestTenants {spec : EmbeddingSpec} (grouped : Dict Text (List Document)) (raises : Text → Bool)
    (order : List Text) {progress : Progress} (own : progress.Own spec) :
    (ingestTenants spec grouped raises order progress).1.Own spec := by
  induction order generalizing progress with
  | nil => exact own
  | cons tenantId rest ih =>
    rw [EmbeddingGuard.ingestTenants]
    split_ifs
    · exact own
    · exact ih (own.ingestTenant grouped tenantId)

theorem Host.Sound.interrupted {host : Host} (sound : host.Sound modelDim) {progress : Progress}
    (own : progress.Own (host.spec modelDim)) : (host.interrupted progress).Sound modelDim := by
  unfold Host.interrupted
  cases host.process.indexes with
  | none => exact sound
  | some stores =>
    refine ⟨fun installed same => ?_,sound.disk⟩
    cases same
    exact own.shared

theorem Host.Sound.ingestIndexes {host : Host} (sound : host.Sound modelDim) (tools : Tools) (defaultTenant : Text)
    (persist rebuild : Bool) (directory : Directory) (raises : Text → Bool) :
    (ingestIndexes modelDim tools defaultTenant host persist rebuild directory raises).1.Sound modelDim := by
  unfold EmbeddingGuard.ingestIndexes
  split_ifs
  · unfold buildFaissIndex
    cases built : buildStores tools defaultTenant directory with
    | error failure => exact sound
    | ok stores =>
      dsimp only
      split_ifs
      · exact sound
      · rw [buildStores_ok tools built]
        exact sound.publish (own_stores _ _) persist true
  · cases loaded : loadKnowledgeDocuments tools defaultTenant directory with
    | error failure => exact sound
    | ok fresh =>
      dsimp only
      have own := Progress.Own.ingestTenants (groupDocuments fresh) raises
        (ingestOrder (forget (host.existing modelDim)) (groupDocuments fresh))
        (⟨sound.existing,sound.existing⟩ : Progress.Own (host.spec modelDim)
          ⟨host.existing modelDim,host.process.lexical,host.existing modelDim,0,0⟩)
      split_ifs
      · exact sound
      · exact sound.interrupted own
      · exact sound.publish own.working persist _

theorem Host.Sound.bm25Index {host : Host} (sound : host.Sound modelDim) (scope : Text) :
    (host.bm25Index modelDim scope).1.Sound modelDim := by
  unfold Host.bm25Index
  cases host.process.lexical.get? scope with
  | some entry => exact sound
  | none =>
    cases got : host.getIndexes modelDim with
    | error reason => exact sound
    | ok next =>
      have held := (sound.getIndexes got).1
      exact ⟨held.process,held.disk⟩

theorem Host.Sound.act {host : Host} (sound : host.Sound modelDim) (tools : Tools) (defaultTenant : Text)
    (action : Action) : (host.act modelDim tools defaultTenant action).Sound modelDim := by
  cases action with
  | ingest persist rebuild directory raises =>
    exact sound.ingestIndexes tools defaultTenant persist rebuild directory raises
  | load =>
    unfold Host.act
    cases got : host.getIndexes modelDim with
    | error reason => exact sound
    | ok next => exact (sound.getIndexes got).1
  | search scope => exact sound.bm25Index scope
  | restart settings => exact ⟨nofun,sound.disk⟩

/-! ### One embedding for all -/

/-- The disk as processes of one embedding leave it. -/
structure Plain (spec : EmbeddingSpec) (disk : Disk) : Prop where
  legacy : disk.legacy = none
  recorded : disk.folders.isEmpty = false → disk.embeddingMeta = .holds spec

def forgetSaved (disk : Disk) : Option Stores := if disk.folders.isEmpty then none else some (forget disk.folders)

def Host.forget (host : Host) : Knowledge.Host where
  memory := ⟨host.process.indexes.map EmbeddingGuard.forget,host.process.pinned,host.process.revision,
    host.process.lexical⟩
  saved := forgetSaved host.disk
  generation := host.disk.generation
  time := host.time

def Progress.forget (progress : Progress) : Knowledge.Progress :=
  ⟨EmbeddingGuard.forget progress.shared,progress.lexical,EmbeddingGuard.forget progress.working,progress.added,
    progress.retired⟩

private theorem readIndexes_plain {spec : EmbeddingSpec} {disk : Disk} (plain : Plain spec disk) :
    readIndexes disk spec = .ok (if disk.folders.isEmpty then none else some disk.folders) := by
  unfold readIndexes
  cases bare : disk.folders.isEmpty with
  | true =>
    have absent : disk.hasIndex = false := by
      rw [Disk.hasIndex,bare,plain.legacy]
      rfl
    rw [if_pos absent]
    rfl
  | false =>
    have present : ¬disk.hasIndex = false := by
      rw [Disk.hasIndex,bare]
      exact Bool.noConfusion
    have compatible : assertEmbeddingCompatible disk spec = .ok () := by
      have stored : loadEmbeddingMeta disk = some spec := by
        unfold loadEmbeddingMeta
        rw [plain.recorded bare]
      unfold assertEmbeddingCompatible
      rw [if_neg present,stored]
      exact if_neg (not_not.mpr rfl)
    rw [if_neg present,compatible]
    rfl

private theorem current_forget (host : Host) : host.forget.current = host.current := by
  rw [Knowledge.Host.current,Host.current]
  unfold Host.forget
  rw [Option.isSome_map]

private theorem getIndexes_forget {host : Host} (plain : Plain (host.spec modelDim) host.disk) :
    host.forget.getIndexes = (host.getIndexes modelDim).toOption.map Host.forget := by
  unfold Knowledge.Host.getIndexes Host.getIndexes
  rw [current_forget,readIndexes_plain plain]
  have saved : host.forget.saved = forgetSaved host.disk := rfl
  rw [saved,forgetSaved]
  by_cases current : host.current = true
  · rw [if_pos current,if_pos current]
    rfl
  · rw [if_neg current,if_neg current]
    cases host.disk.folders.isEmpty <;> rfl

private theorem existing_forget {host : Host} (plain : Plain (host.spec modelDim) host.disk) :
    host.forget.existing = forget (host.existing modelDim) := by
  unfold Knowledge.Host.existing Host.existing
  rw [readIndexes_plain plain]
  show ((host.process.indexes.map EmbeddingGuard.forget).or (forgetSaved host.disk)).getD ∅ = _
  cases host.process.indexes with
  | some stores => rfl
  | none =>
    unfold forgetSaved
    split_ifs <;> rfl

private theorem publish_forget (host : Host) {stores : VectorStores} (some' : stores.isEmpty = false)
    (persist changed : Bool) : (host.publish modelDim stores persist changed).forget =
      host.forget.publish (forget stores) persist changed := by
  cases persist with
  | false => rfl
  | true =>
    cases changed with
    | false => rfl
    | true =>
      unfold Host.publish Knowledge.Host.publish Host.forget forgetSaved Host.persist Host.install
        Knowledge.Host.persist Knowledge.Host.install
      simp only [if_true,some',if_neg Bool.false_ne_true]
      rfl

private theorem softDeleteStale_forget (sources : List Text) (keepHash : Dict Text Text) (store : VectorStore) :
    documentsOf (softDeleteStale sources keepHash store) =
      Knowledge.softDeleteStale sources keepHash (documentsOf store) := by
  rw [documentsOf,softDeleteStale,List.map_map,Knowledge.softDeleteStale,documentsOf,List.map_map]
  rfl

private theorem filled_forget (spec : EmbeddingSpec) (store : VectorStore) (documents : List Document) :
    documentsOf (store ++ embed spec documents) = documentsOf store ++ documents := by
  rw [documentsOf,List.map_append]
  exact congrArg (documentsOf store ++ ·) (documents_embed spec documents)

theorem ingestTenant_forget (spec : EmbeddingSpec) (grouped : Dict Text (List Document)) (progress : Progress)
    (tenantId : Text) : (ingestTenant spec grouped progress tenantId).forget =
      Knowledge.ingestTenant grouped progress.forget tenantId := by
  have plan : planFor grouped progress.working tenantId =
      Knowledge.planFor grouped progress.forget.working tenantId := planFor_forget ..
  unfold ingestTenant Knowledge.ingestTenant
  dsimp only
  rw [← plan]
  split_ifs
  · rfl
  · have found : progress.forget.working.get? tenantId = (progress.working.get? tenantId).map documentsOf :=
      Dict.get?_map ..
    rw [found]
    cases progress.working.get? tenantId with
    | none =>
      unfold Progress.forget EmbeddingGuard.forget
      simp only [Option.map_none,Dict.set_map,documents_embed]
    | some store =>
      unfold Progress.forget EmbeddingGuard.forget
      simp only [Option.map_some,Dict.set_map,softDeleteStale_forget,filled_forget]

private theorem failsAt_forget {spec : EmbeddingSpec} (grouped : Dict Text (List Document)) {stores : VectorStores}
    (own : Own spec stores) (raises : Text → Bool) (tenantId : Text) :
    failsAt spec grouped stores raises tenantId = Knowledge.failsAt grouped (forget stores) raises tenantId := by
  have fits : ¬∃ dim ∈ (stores.get? tenantId).bind indexDim, dim ≠ spec.dim := by
    rintro ⟨dim,found,other⟩
    obtain ⟨store,listed,first⟩ := Option.bind_eq_some_iff.mp found
    obtain ⟨vector,head,rfl⟩ := Option.map_eq_some_iff.mp first
    have mine := (own tenantId store listed).2 vector (List.mem_of_mem_head? head)
    exact other (congrArg EmbeddingSpec.dim mine)
  rw [failsAt,Knowledge.failsAt,planFor_forget,decide_eq_decide,or_iff_left fits]

theorem ingestTenants_forget {spec : EmbeddingSpec} (grouped : Dict Text (List Document)) (raises : Text → Bool)
    (order : List Text) {progress : Progress} (own : progress.Own spec) :
    (ingestTenants spec grouped raises order progress).1.forget =
        (Knowledge.ingestTenants grouped raises order progress.forget).1 ∧
      (ingestTenants spec grouped raises order progress).2 =
        (Knowledge.ingestTenants grouped raises order progress.forget).2 := by
  induction order generalizing progress with
  | nil => exact ⟨rfl,rfl⟩
  | cons tenantId rest ih =>
    have same : failsAt spec grouped progress.working raises tenantId =
        Knowledge.failsAt grouped progress.forget.working raises tenantId := failsAt_forget grouped own.working ..
    rw [ingestTenants,Knowledge.ingestTenants,same]
    split_ifs
    · exact ⟨rfl,rfl⟩
    · rw [← ingestTenant_forget spec]
      exact ih (own.ingestTenant grouped tenantId)

theorem keys_ingestTenant (spec : EmbeddingSpec) (grouped : Dict Text (List Document)) (progress : Progress)
    (tenantId : Text) : progress.working.isEmpty = false →
      (ingestTenant spec grouped progress tenantId).working.isEmpty = false := by
  intro full
  have kept (store : VectorStore) : (progress.working.set tenantId store).isEmpty = false := by
    rw [← Bool.not_eq_true,Dict.isEmpty_iff]
    intro nothing
    have here := nothing tenantId
    rw [Dict.get?_set,if_pos rfl] at here
    cases here
  unfold ingestTenant
  dsimp only
  split_ifs
  · exact full
  · cases progress.working.get? tenantId with
    | none => exact kept _
    | some store => exact kept _

theorem keys_ingestTenants {spec : EmbeddingSpec} (grouped : Dict Text (List Document)) (raises : Text → Bool)
    (order : List Text) {progress : Progress} (full : progress.working.isEmpty = false) :
    (ingestTenants spec grouped raises order progress).1.working.isEmpty = false := by
  induction order generalizing progress with
  | nil => exact full
  | cons tenantId rest ih =>
    rw [ingestTenants]
    split_ifs
    · exact full
    · exact ih (keys_ingestTenant spec grouped progress tenantId full)

private theorem interrupted_forget (host : Host) (progress : Progress) :
    (host.interrupted progress).forget = host.forget.interrupted progress.forget := by
  obtain ⟨process,disk,time⟩ := host
  obtain ⟨settings,indexes,pinned,revision,lexical⟩ := process
  cases indexes <;> rfl

private theorem buildStores_some {tools : Tools} {defaultTenant : Text} {directory : Directory} {stores : Stores}
    (built : buildStores tools defaultTenant directory = .ok stores) : stores.isEmpty = false := by
  unfold buildStores at built
  cases loaded : loadKnowledgeDocuments tools defaultTenant directory with
  | error failure =>
    rw [loaded] at built
    cases built
  | ok documents =>
    rw [loaded] at built
    dsimp only at built
    split_ifs at built with nothing
    cases built
    obtain ⟨first,rest,shape⟩ := List.exists_cons_of_ne_nil nothing
    rw [← Bool.not_eq_true,Dict.isEmpty_iff]
    intro none'
    have here := none' first.tenantId
    rw [get?_storesFromGroups,groupDocuments,get?_collect,shape] at here
    split_ifs at here with empty
    rw [withKey,List.filter_cons,if_pos (beq_self_eq_true _)] at empty
    cases empty

theorem forget_embed (spec : EmbeddingSpec) (stores : Stores) : forget (stores.map (embed spec)) = stores := by
  apply Dict.ext'
  show (stores.entries.map _).map _ = stores.entries
  rw [List.map_map]
  refine (List.map_congr_left (fun entry _ => ?_)).trans (List.map_id _)
  exact congrArg (Prod.mk entry.1) (documents_embed spec entry.2)

theorem ingestIndexes_forget {host : Host} (sound : host.Sound modelDim) (plain : Plain (host.spec modelDim) host.disk)
    (tools : Tools) (defaultTenant : Text) (persist rebuild : Bool) (directory : Directory) (raises : Text → Bool) :
    (ingestIndexes modelDim tools defaultTenant host persist rebuild directory raises).1.forget =
        (Knowledge.ingestIndexes tools defaultTenant host.forget persist rebuild directory raises).1 ∧
      (ingestIndexes modelDim tools defaultTenant host persist rebuild directory raises).2 =
        (Knowledge.ingestIndexes tools defaultTenant host.forget persist rebuild directory raises).2 := by
  have empty : (host.existing modelDim).isEmpty = host.forget.existing.isEmpty := by
    rw [existing_forget plain,forget,Dict.isEmpty_map]
  unfold ingestIndexes Knowledge.ingestIndexes
  rw [← empty]
  by_cases full : (rebuild || (host.existing modelDim).isEmpty) = true
  · rw [if_pos full,if_pos full]
    unfold buildFaissIndex Knowledge.buildFaissIndex
    cases built : buildStores tools defaultTenant directory with
    | error failure => exact ⟨rfl,rfl⟩
    | ok stores =>
      dsimp only
      split_ifs
      · exact ⟨rfl,rfl⟩
      · have some' : (stores.map (embed (host.spec modelDim))).isEmpty = false := by
          rw [Dict.isEmpty_map]
          exact buildStores_some built
        refine ⟨?_,rfl⟩
        rw [publish_forget host some',forget_embed]
  · rw [if_neg full,if_neg full]
    rw [Bool.or_eq_true,not_or,Bool.not_eq_true,Bool.not_eq_true] at full
    cases loaded : loadKnowledgeDocuments tools defaultTenant directory with
    | error failure => exact ⟨rfl,rfl⟩
    | ok fresh =>
      dsimp only
      rw [existing_forget plain]
      have own : Progress.Own (host.spec modelDim)
          ⟨host.existing modelDim,host.process.lexical,host.existing modelDim,0,0⟩ := ⟨sound.existing,sound.existing⟩
      obtain ⟨same,failed⟩ := ingestTenants_forget (groupDocuments fresh) raises
        (ingestOrder (forget (host.existing modelDim)) (groupDocuments fresh)) own
      have kept : (ingestTenants (host.spec modelDim) (groupDocuments fresh) raises
          (ingestOrder (forget (host.existing modelDim)) (groupDocuments fresh))
          ⟨host.existing modelDim,host.process.lexical,host.existing modelDim,0,0⟩).1.working.isEmpty = false :=
        keys_ingestTenants _ _ _ full.2
      have start : Progress.forget
          ⟨host.existing modelDim,host.process.lexical,host.existing modelDim,0,0⟩ =
            ⟨forget (host.existing modelDim),host.forget.memory.lexical,forget (host.existing modelDim),0,0⟩ := rfl
      rw [start] at same failed
      generalize ingestTenants _ _ _ _ _ = run at same failed kept ⊢
      generalize Knowledge.ingestTenants _ _ _ _ = plainRun at same failed ⊢
      split_ifs with nothing raised other other
      · exact ⟨rfl,rfl⟩
      · exact ⟨(interrupted_forget host run.1).trans (congrArg _ same),rfl⟩
      · exact absurd (failed ▸ raised) other
      · exact absurd (failed ▸ other) raised
      · refine ⟨?_,rfl⟩
        rw [publish_forget host kept,← same]
        rfl

private theorem bm25Index_forget {host : Host} (plain : Plain (host.spec modelDim) host.disk) (scope : Text) :
    (host.bm25Index modelDim scope).1.forget = (host.forget.bm25Index scope).1 := by
  have cached : host.forget.memory.lexical = host.process.lexical := rfl
  unfold Host.bm25Index Knowledge.Host.bm25Index
  rw [cached,getIndexes_forget plain]
  cases host.process.lexical.get? scope with
  | some entry => rfl
  | none =>
    cases host.getIndexes modelDim with
    | error reason => rfl
    | ok next =>
      have store : ((next.forget.memory.indexes.getD ∅).get? scope) =
          ((next.process.indexes.getD ∅).get? scope).map documentsOf := by
        show ((next.process.indexes.map forget).getD ∅).get? scope = _
        cases next.process.indexes with
        | none => rfl
        | some stores => exact Dict.get?_map ..
      show Host.forget _ = Knowledge.Host.mk _ _ _ _
      rw [store]
      rfl

/-! ### Both levels of a run -/

/-- An action where every process keeps its configuration and no embedding fails. -/
def lift (settings : Nat → EmbeddingSettings) (event : Nat × Knowledge.Action) : Nat × Action :=
  (event.1,match event.2 with
    | .ingest persist rebuild directory => .ingest persist rebuild directory (fun _ => false)
    | .load => .load
    | .search scope => .search scope
    | .restart => .restart (settings event.1))

def World.forget (world : World) : Knowledge.World where
  memories := fun index => (world.host index).forget.memory
  saved := forgetSaved world.disk
  generation := world.disk.generation
  time := world.time

def World.Sound (modelDim : Text → Nat) (world : World) : Prop := ∀ index, (world.host index).Sound modelDim

/-- All processes are configured for one embedding, which has also made what is saved. -/
structure World.Plain (modelDim : Text → Nat) (settings : Nat → EmbeddingSettings) (spec : EmbeddingSpec)
    (world : World) : Prop where
  sound : world.Sound modelDim
  settings : ∀ index, (world.processes index).settings = settings index
  disk : EmbeddingGuard.Plain spec world.disk

theorem Plain.publish {spec : EmbeddingSpec} {host : Host} (plain : Plain spec host.disk)
    (own : host.spec modelDim = spec) (stores : VectorStores) (persist changed : Bool) :
    Plain spec (host.publish modelDim stores persist changed).disk := by
  cases persist with
  | false => exact plain
  | true =>
    cases changed with
    | false => exact plain
    | true => exact ⟨rfl,fun _ => congrArg MetaFile.holds own⟩

theorem Plain.getIndexes {spec : EmbeddingSpec} {host next : Host} (plain : Plain spec host.disk)
    (got : host.getIndexes modelDim = .ok next) :
    Plain spec next.disk ∧ next.process.settings = host.process.settings := by
  unfold Host.getIndexes at got
  split_ifs at got
  · cases got
    exact ⟨plain,rfl⟩
  · cases read : readIndexes host.disk (host.spec modelDim) with
    | error reason =>
      rw [read] at got
      cases got
    | ok loaded =>
      rw [read] at got
      cases loaded with
      | none => cases got
      | some stores =>
        cases got
        exact ⟨plain,rfl⟩

private theorem settings_publish (host : Host) (stores : VectorStores) (persist changed : Bool) :
    (host.publish modelDim stores persist changed).process.settings = host.process.settings := by
  cases persist with
  | false => rfl
  | true => cases changed <;> rfl

theorem Plain.ingestIndexes {spec : EmbeddingSpec} {host : Host} (plain : Plain spec host.disk)
    (own : host.spec modelDim = spec) (tools : Tools) (defaultTenant : Text) (persist rebuild : Bool)
    (directory : Directory) (raises : Text → Bool) :
    Plain spec (ingestIndexes modelDim tools defaultTenant host persist rebuild directory raises).1.disk ∧
      (ingestIndexes modelDim tools defaultTenant host persist rebuild directory raises).1.process.settings =
        host.process.settings := by
  unfold EmbeddingGuard.ingestIndexes
  split_ifs
  · unfold buildFaissIndex
    cases buildStores tools defaultTenant directory with
    | error failure => exact ⟨plain,rfl⟩
    | ok stores =>
      dsimp only
      split_ifs
      · exact ⟨plain,rfl⟩
      · exact ⟨plain.publish own _ _ _,settings_publish ..⟩
  · cases loadKnowledgeDocuments tools defaultTenant directory with
    | error failure => exact ⟨plain,rfl⟩
    | ok fresh =>
      dsimp only
      split_ifs
      · exact ⟨plain,rfl⟩
      · unfold Host.interrupted
        cases host.process.indexes <;> exact ⟨plain,rfl⟩
      · exact ⟨plain.publish own _ _ _,settings_publish ..⟩

theorem World.Plain.spec {settings : Nat → EmbeddingSettings} {spec : EmbeddingSpec} {world : World}
    (plain : world.Plain modelDim settings spec)
    (same : ∀ index, currentEmbeddingSpec modelDim (settings index) = spec) (index : Nat) :
    (world.host index).spec modelDim = spec :=
  (congrArg (currentEmbeddingSpec modelDim) (plain.settings index)).trans (same index)

theorem World.Plain.act {settings : Nat → EmbeddingSettings} {spec : EmbeddingSpec} {world : World}
    (plain : world.Plain modelDim settings spec)
    (same : ∀ index, currentEmbeddingSpec modelDim (settings index) = spec) (tools : Tools) (defaultTenant : Text)
    (event : Nat × Knowledge.Action) :
    let next := (world.host event.1).act modelDim tools defaultTenant (lift settings event).2
    EmbeddingGuard.Plain spec next.disk ∧ next.process.settings = settings event.1 ∧
      next.forget = (world.host event.1).forget.act tools defaultTenant event.2 := by
  obtain ⟨index,action⟩ := event
  have own := plain.spec same index
  have here : EmbeddingGuard.Plain ((world.host index).spec modelDim) (world.host index).disk := own ▸ plain.disk
  have mine : (world.host index).process.settings = settings index := plain.settings index
  cases action with
  | ingest persist rebuild directory =>
    obtain ⟨kept,configured⟩ := EmbeddingGuard.Plain.ingestIndexes plain.disk own tools defaultTenant persist rebuild
      directory (fun _ => false)
    exact ⟨kept,configured.trans mine,
      (ingestIndexes_forget (plain.sound index) here tools defaultTenant persist rebuild directory _).1⟩
  | load =>
    have level := getIndexes_forget here
    unfold lift Host.act Knowledge.Host.act
    dsimp only
    rw [level]
    cases got : (world.host index).getIndexes modelDim with
    | error reason => exact ⟨plain.disk,mine,rfl⟩
    | ok next =>
      obtain ⟨kept,configured⟩ := EmbeddingGuard.Plain.getIndexes plain.disk got
      exact ⟨kept,configured.trans mine,rfl⟩
  | search scope =>
    have level := bm25Index_forget here scope
    refine ⟨?_,?_,level⟩
    all_goals
      unfold lift Host.act Host.bm25Index
      dsimp only
      cases (world.host index).process.lexical.get? scope with
      | some entry => first | exact plain.disk | exact mine
      | none =>
        cases got : (world.host index).getIndexes modelDim with
        | error reason => first | exact plain.disk | exact mine
        | ok next =>
          obtain ⟨kept,configured⟩ := EmbeddingGuard.Plain.getIndexes plain.disk got
          first | exact kept | exact configured.trans mine
  | restart => exact ⟨plain.disk,rfl,rfl⟩

theorem World.host_put (world : World) (index other : Nat) (host : Host) :
    (world.put index host).host other =
      ⟨if other = index then host.process else world.processes other,host.disk,host.time⟩ := rfl

theorem World.Sound.put {world : World} (sound : world.Sound modelDim) {index : Nat} {host : Host}
    (good : host.Sound modelDim) : (world.put index host).Sound modelDim := by
  intro other
  refine ⟨?_,good.disk⟩
  unfold Host.spec
  rw [World.host_put]
  dsimp only
  split_ifs
  · exact good.process
  · exact (sound other).process

theorem World.Sound.step {world : World} (sound : world.Sound modelDim) (tools : Tools) (defaultTenant : Text)
    (event : Nat × Action) : (world.step modelDim tools defaultTenant event).Sound modelDim :=
  sound.put ((sound event.1).act tools defaultTenant event.2)

theorem World.forget_put (world : World) (index : Nat) (host : Host) :
    (world.put index host).forget = world.forget.put index host.forget := by
  unfold World.forget Knowledge.World.put
  rw [Knowledge.World.mk.injEq]
  refine ⟨funext (fun other => ?_),rfl,rfl,rfl⟩
  rw [World.host_put]
  split_ifs <;> rfl

theorem World.Plain.step {settings : Nat → EmbeddingSettings} {spec : EmbeddingSpec} {world : World}
    (plain : world.Plain modelDim settings spec)
    (same : ∀ index, currentEmbeddingSpec modelDim (settings index) = spec) (tools : Tools) (defaultTenant : Text)
    (event : Nat × Knowledge.Action) :
    (world.step modelDim tools defaultTenant (lift settings event)).Plain modelDim settings spec ∧
      (world.step modelDim tools defaultTenant (lift settings event)).forget =
        world.forget.step tools defaultTenant event := by
  obtain ⟨disk,configured,level⟩ := plain.act same tools defaultTenant event
  refine ⟨⟨?_,?_,disk⟩,?_⟩
  · exact plain.sound.step tools defaultTenant _
  · intro other
    show (if other = event.1 then _ else world.processes other).settings = _
    split_ifs with here
    · exact here ▸ configured
    · exact plain.settings other
  · exact (World.forget_put ..).trans (congrArg _ level)

private theorem readIndexes_other {disk : Disk} {stored current : EmbeddingSpec} (present : disk.hasIndex = true)
    (recorded : loadEmbeddingMeta disk = some stored) (other : stored ≠ current) :
    readIndexes disk current = .error (.builtBy stored current) := by
  have absent : ¬disk.hasIndex = false := by
    rw [present]
    exact Bool.noConfusion
  unfold readIndexes assertEmbeddingCompatible
  rw [if_neg absent,if_neg absent,recorded]
  dsimp only
  rw [if_pos other]
  rfl

private theorem status_ok_iff {host : Host} (idle : host.current = false) :
    faissIndexStatus host.disk (host.spec modelDim) = .ok ↔ ∃ next, host.getIndexes modelDim = .ok next := by
  have stale : ¬host.current = true := by
    rw [idle]
    exact Bool.false_ne_true
  unfold faissIndexStatus Host.getIndexes readIndexes
  rw [if_neg stale]
  by_cases absent : host.disk.hasIndex = false
  · rw [if_pos absent,if_pos absent]
    exact iff_of_false nofun nofun
  · rw [if_neg absent,if_neg absent]
    cases assertEmbeddingCompatible host.disk (host.spec modelDim) with
    | error reason => exact iff_of_false nofun nofun
    | ok nothing => cases host.disk.folders.isEmpty <;> exact iff_of_true rfl ⟨_,rfl⟩

/-- Whatever the processes are configured for and however often this changes: what `get_indexes` gives a process was
made by its own embedding, and where the disk was written under another one it gives nothing. -/
theorem specs_are_kept_apart (modelDim : Text → Nat) (tools : Tools) (defaultTenant : Text)
    (settings : Nat → EmbeddingSettings) (disk : Disk) (honest : disk.Honest) (events : List (Nat × Action))
    (index : Nat) :
    let host := (World.run modelDim tools defaultTenant (World.start settings disk) events).host index
    (∀ next, host.getIndexes modelDim = .ok next →
      ∃ stores, next.process.indexes = some stores ∧ Own (host.spec modelDim) stores) ∧
    (∀ stored, host.disk.hasIndex = true → loadEmbeddingMeta host.disk = some stored → stored ≠ host.spec modelDim →
      host.current = false → host.getIndexes modelDim = .error (.builtBy stored (host.spec modelDim))) ∧
    (host.current = false →
      (faissIndexStatus host.disk (host.spec modelDim) = .ok ↔ ∃ next, host.getIndexes modelDim = .ok next)) := by
  have start : (World.start settings disk).Sound modelDim := fun _ => ⟨nofun,honest⟩
  have sound : (World.run modelDim tools defaultTenant (World.start settings disk) events).Sound modelDim :=
    Transition.run_invariant (fun _ event good => good.step tools defaultTenant event) start events
  intro host
  refine ⟨?_,?_,?_⟩
  · intro next got
    obtain ⟨held,configured,some'⟩ := (sound index).getIndexes got
    obtain ⟨stores,installed⟩ := Option.ne_none_iff_exists'.mp some'
    refine ⟨stores,installed,?_⟩
    have own := held.process stores installed
    rw [Host.spec,configured] at own
    exact own
  · intro stored present recorded other idle
    unfold Host.getIndexes
    rw [if_neg (by rw [idle]; exact Bool.false_ne_true),readIndexes_other present recorded other]
  · exact status_ok_iff

def bareTools : Tools where
  sha256 := fun _ => ['0']
  digest_ne := fun _ => List.cons_ne_nil _ _
  splitHeaders := fun _ => []
  splitFallback := fun text => [text]
  splitChildren := fun text => [text]

def onePage : Document :=
  ⟨⟨⟨none,"go.md".toList⟩,0⟩,"Go".toList,"go.md".toList,"go".toList,"demo".toList,['0'],false,0,.child,none,[],[],[],none,
    none,none⟩

/-- An index of bigrams, and a process for a model from outside that finds it. -/
theorem specs_are_kept_apart_models :
    let bigrams : EmbeddingSpec := ⟨Backend.ngram.name,"ngram".toList,512⟩
    let host := (World.run (fun _ => 512) bareTools "demo".toList
      (World.start (fun _ => ⟨.huggingface,"BAAI/bge-small-zh-v1.5".toList,512⟩)
        ⟨(∅ : VectorStores).set "demo".toList [⟨onePage,bigrams⟩],none,.holds bigrams,1⟩) [(0,.load)]).host 1
    host.getIndexes (fun _ => 512) = .error (.builtBy bigrams (host.spec (fun _ => 512))) := by
  intro bigrams host
  have honest : Disk.Honest ⟨(∅ : VectorStores).set "demo".toList [⟨onePage,bigrams⟩],none,.holds bigrams,1⟩ := by
    refine ⟨bigrams,(own_empty bigrams).set _ (List.cons_ne_nil _ _) ?_,?_,nofun⟩
    · intro vector inside
      rw [List.mem_singleton.mp inside]
    · intro spec stored
      exact (Option.some.inj stored).symm
  exact (specs_are_kept_apart (fun _ => 512) bareTools "demo".toList
    (fun _ => ⟨.huggingface,"BAAI/bge-small-zh-v1.5".toList,512⟩) _ honest [(0,.load)] 1).2.1 bigrams
      (by decide) (by decide) (by decide) (by decide)

/-- Where all processes are configured for one embedding, the guard and the embeddings change nothing. -/
theorem one_spec_is_plain (modelDim : Text → Nat) (tools : Tools) (defaultTenant : Text)
    (settings : Nat → EmbeddingSettings) (spec : EmbeddingSpec)
    (same : ∀ index, currentEmbeddingSpec modelDim (settings index) = spec) (events : List (Nat × Knowledge.Action)) :
    (World.run modelDim tools defaultTenant (World.start settings ⟨∅,none,.missing,0⟩)
      (events.map (lift settings))).forget = Knowledge.World.run tools defaultTenant events := by
  have start : (World.start settings ⟨∅,none,.missing,0⟩).Plain modelDim settings spec :=
    ⟨fun _ => ⟨nofun,⟨Backend.ngram.name,"ngram".toList,0⟩,own_empty _,nofun,fun _ => ⟨rfl,rfl⟩⟩,fun _ => rfl,rfl,nofun⟩
  have both : (World.run modelDim tools defaultTenant (World.start settings ⟨∅,none,.missing,0⟩)
        (events.map (lift settings))).Plain modelDim settings spec ∧
      (World.run modelDim tools defaultTenant (World.start settings ⟨∅,none,.missing,0⟩)
        (events.map (lift settings))).forget = Knowledge.World.run tools defaultTenant events := by
    induction events using List.reverseRecOn with
    | nil => exact ⟨start,rfl⟩
    | append_singleton events last ih =>
      obtain ⟨plain,level⟩ := ih
      rw [World.run,List.map_append,Transition.run_append,Knowledge.World.run,Transition.run_append]
      obtain ⟨next,step⟩ := plain.step same tools defaultTenant last
      exact ⟨next,step.trans (congrArg (Knowledge.World.step tools defaultTenant · last) level)⟩
  exact both.2

theorem one_spec_is_plain_bigrams :
    (World.run (fun _ => 512) bareTools "demo".toList (World.start (fun _ => ⟨.ngram,[],384⟩) ⟨∅,none,.missing,0⟩)
      ([(0,.ingest true false ⟨(∅ : Dict Text Bytes).set "go.md".toList [71,111],∅⟩),(1,.load)].map
        (lift (fun _ => ⟨.ngram,[],384⟩)))).forget =
      Knowledge.World.run bareTools "demo".toList
        [(0,.ingest true false ⟨(∅ : Dict Text Bytes).set "go.md".toList [71,111],∅⟩),(1,.load)] :=
  one_spec_is_plain (fun _ => 512) bareTools "demo".toList (fun _ => ⟨.ngram,[],384⟩)
    ⟨Backend.ngram.name,"ngram".toList,384⟩ (fun _ => rfl) _

end CustomerService.EmbeddingGuard
