import CustomerService.IngestEquivalence

/-! An ingest in which a call raises: nothing has changed exactly when no tenant before it
that has a store had a difference, or searches do not use the installed map. -/
namespace CustomerService.Knowledge

open Text

/-! What can be seen of a host. -/

/-- The map and the lexical cache that a search of this process finds. -/
def Host.visible (host : Host) : Option (Stores × LexicalCache) :=
  if host.current then host.memory.indexes.map (·,host.memory.lexical)
  else host.saved.map (·,∅)

/-- The documents behind the lexical index of a scope: the cached one, or a fresh one. -/
def bm25Documents (seen : Stores × LexicalCache) (scope : Text) : Option (List Document) :=
  match seen.2.get? scope with
  | some entry => entry
  | none => (seen.1.get? scope).bind buildLexical

/-- The live documents, the BM25 data and the index on the disk are the same. -/
structure Unchanged (host after : Host) : Prop where
  live : ∀ tenantId, after.visible.map (fun seen => iterStoreDocuments (seen.1.getD tenantId [])) =
    host.visible.map (fun seen => iterStoreDocuments (seen.1.getD tenantId []))
  lexical : ∀ scope, after.visible.map (bm25Documents · scope) =
    host.visible.map (bm25Documents · scope)
  saved : after.saved = host.saved
  generation : after.generation = host.generation

theorem Unchanged.refl (host : Host) : Unchanged host host :=
  ⟨fun _ => rfl,fun _ => rfl,rfl,rfl⟩

/-! Differences of a tenant. -/

def Differs (grouped : Dict Text (List Document)) (stores : Stores) (tenantId : Text) : Prop :=
  ∃ source, (liveSourceHashes (stores.getD tenantId [])).get? source ≠
    (wantedHashes (grouped.getD tenantId [])).get? source

/-- The wanted documents have digests and sources. -/
structure Proper (wanted : List Document) : Prop where
  digests : ∀ document ∈ wanted, document.contentHash ≠ []
  sources : ∀ document ∈ wanted, document.source ≠ []
  fresh : ∀ document ∈ wanted, document.deleted = false

section
variable {store : Store} {wanted : List Document} (proper : Proper wanted)
include proper

private theorem wanted_digest_ne {source digest : Text} (found : (wantedHashes wanted).get? source = some digest) :
    digest ≠ [] := by
  obtain ⟨document,member,_,rfl⟩ := mem_hashes found
  exact proper.digests document member

theorem changed_iff {live : Dict Text Text} {source : Text} : Changed live wanted source ↔
    (wantedHashes wanted).get? source ≠ none ∧
      live.get? source ≠ (wantedHashes wanted).get? source := by
  constructor
  · rintro ⟨digest,found,changed⟩
    rw [found]
    refine ⟨Option.some_ne_none _,fun same => ?_⟩
    simp [isChanged,same,wanted_digest_ne proper found] at changed
  · rintro ⟨some',other⟩
    obtain ⟨digest,found⟩ := Option.ne_none_iff_exists'.mp some'
    rw [found] at other
    exact ⟨digest,found,by simp [isChanged,other]⟩

private theorem plan_isEmpty_iff (live : Dict Text Text) : (planTenant live wanted).isEmpty = true ↔
    ∀ source, live.get? source = (wantedHashes wanted).get? source := by
  rw [isEmpty_iff]
  constructor
  · rintro ⟨nothing,nobody⟩ source
    by_contra other
    have same : ¬Changed live wanted source := by
      intro changed
      have documents := withKey_newDocs_changed live wanted changed
      rw [nothing] at documents
      exact ((changed_iff proper).mp changed).1 (hashes_none.mpr documents.symm)
    have missing : (wantedHashes wanted).get? source = none := by
      by_contra found
      exact same ((changed_iff proper).mpr ⟨found,other⟩)
    rw [missing] at other
    have listed := (mem_retireSources live wanted).mpr ⟨other,Or.inr missing⟩
    rw [nobody] at listed
    cases listed
  · intro same
    have unchanged (source : Text) : ¬Changed live wanted source := fun changed =>
      ((changed_iff proper).mp changed).2 (same source)
    constructor
    · rw [newDocs_eq]
      refine List.flatMap_eq_nil_iff.mpr (fun source listed => ?_)
      exact absurd ((mem_changed live wanted).mp listed) (unchanged source)
    · refine List.eq_nil_iff_forall_not_mem.mpr (fun source listed => ?_)
      obtain ⟨present,changed | missing⟩ := (mem_retireSources live wanted).mp listed
      · exact unchanged source changed
      · exact present ((same source).trans missing)

omit proper in
theorem mem_liveSourceHashes {source digest : Text}
    (found : (liveSourceHashes store).get? source = some digest) :
    ∃ document ∈ iterStoreDocuments store, document.source = source ∧
      document.contentHash = digest := by
  obtain ⟨document,member,rest⟩ := mem_hashes found
  exact ⟨document,List.mem_of_mem_filter member,rest⟩

omit proper in
theorem liveSourceHashes_present {document : Document} (member : document ∈ iterStoreDocuments store)
    (named : document.source ≠ []) : (liveSourceHashes store).get? document.source ≠ none :=
  hashes_present (List.mem_filter.mpr ⟨member,decide_eq_true named⟩)

omit proper in
theorem retired_gone {source digest : Text}
    (found : (liveSourceHashes store).get? source = some digest)
    (retired : source ∈ (planTenant (liveSourceHashes store) wanted).retireSources)
    (other : (wantedHashes wanted).get? source ≠ some digest) :
    ∃ document ∈ iterStoreDocuments store,
      isStale (planTenant (liveSourceHashes store) wanted).retireSources (wantedHashes wanted)
        document = true := by
  obtain ⟨document,member,rfl,rfl⟩ := mem_liveSourceHashes found
  have alive : document.deleted = false := by simpa using (List.mem_filter.mp member).2
  refine ⟨document,member,?_⟩
  rw [isStale,List.contains_iff_mem.mpr retired,alive]
  cases known : (wantedHashes wanted).get? document.source with
  | none => simp [Dict.getD_of_none known]
  | some wantedDigest =>
    rw [known] at other
    have apart : document.contentHash ≠ wantedDigest := fun same => other (same ▸ rfl)
    simp [Dict.getD_of_some known,apart]

private theorem live_ingested_ne (differs : ∃ source, (liveSourceHashes store).get? source ≠
      (wantedHashes wanted).get? source) :
    iterStoreDocuments (softDeleteStale (planTenant (liveSourceHashes store) wanted).retireSources
        (wantedHashes wanted) (store ++ (planTenant (liveSourceHashes store) wanted).newDocs)) ≠
      iterStoreDocuments store := by
  intro same
  rw [iter_softDelete,iterStoreDocuments_append,List.filter_append] at same
  have gone {source digest : Text} (found : (liveSourceHashes store).get? source = some digest)
      (retired : source ∈ (planTenant (liveSourceHashes store) wanted).retireSources)
      (other : (wantedHashes wanted).get? source ≠ some digest) : False := by
    obtain ⟨document,member,stale⟩ := retired_gone found retired other
    rw [← same] at member
    rcases List.mem_append.mp member with old | new
    · simpa [stale] using (List.mem_filter.mp old).2
    · simpa [stale] using (List.mem_filter.mp new).2
  obtain ⟨source,other⟩ := differs
  cases known : (wantedHashes wanted).get? source with
  | none =>
    rw [known] at other
    obtain ⟨digest,found⟩ := Option.ne_none_iff_exists'.mp other
    refine gone found ((mem_retireSources _ _).mpr ⟨other,Or.inr known⟩) ?_
    rw [known]
    exact (Option.some_ne_none _).symm
  | some digest =>
    have changed := (changed_iff proper).mpr ⟨known ▸ Option.some_ne_none _,other⟩
    obtain ⟨document,member,rfl,rfl⟩ := mem_hashes known
    have new : document ∈ (planTenant (liveSourceHashes store) wanted).newDocs := by
      refine ((@mem_withKey Document.source document.source _ _).mp ?_).1
      rw [withKey_newDocs_changed _ _ changed]
      exact mem_withKey.mpr ⟨member,rfl⟩
    have here : document ∈ iterStoreDocuments store := by
      rw [← same]
      refine List.mem_append_right _ (List.mem_filter.mpr ⟨List.mem_filter.mpr ⟨new,?_⟩,?_⟩)
      · simp [proper.fresh document member]
      · simp [isStale,Dict.getD_of_some known,proper.digests document member]
    have present := liveSourceHashes_present here (proper.sources document member)
    obtain ⟨live,found⟩ := Option.ne_none_iff_exists'.mp present
    refine gone found ((mem_retireSources _ _).mpr ⟨present,Or.inl changed⟩) ?_
    rw [known]
    exact fun equal => other (found.trans (equal.symm.trans known.symm))

end

/-! The rounds before the failure. -/

private theorem shared_ingestTenant_other (grouped : Dict Text (List Document)) (progress : Progress)
    {tenantId other : Text} (apart : other ≠ tenantId) :
    (ingestTenant grouped progress tenantId).shared.get? other = progress.shared.get? other := by
  unfold ingestTenant
  dsimp only
  split_ifs
  · rfl
  · cases progress.working.get? tenantId with
    | none => rfl
    | some store =>
      dsimp only
      rw [Dict.get?_set,if_neg apart]

private theorem shared_ingestTenant_quiet {grouped : Dict Text (List Document)} {progress : Progress}
    {tenantId : Text} (quiet : progress.working.get? tenantId ≠ none →
      (planFor grouped progress.working tenantId).isEmpty = true) :
    (ingestTenant grouped progress tenantId).shared = progress.shared ∧
      (ingestTenant grouped progress tenantId).lexical = progress.lexical := by
  unfold ingestTenant
  dsimp only
  split_ifs with empty
  · exact ⟨rfl,rfl⟩
  · cases found : progress.working.get? tenantId with
    | none => exact ⟨rfl,rfl⟩
    | some store => exact absurd (quiet (found ▸ Option.some_ne_none _)) empty

theorem shared_rounds_quiet {grouped : Dict Text (List Document)} {rounds : List Text}
    (once : rounds.Nodup) {progress : Progress} (quiet : ∀ tenantId ∈ rounds,
      progress.working.get? tenantId ≠ none →
        (planFor grouped progress.working tenantId).isEmpty = true) :
    (rounds.foldl (ingestTenant grouped) progress).shared = progress.shared ∧
      (rounds.foldl (ingestTenant grouped) progress).lexical = progress.lexical := by
  induction rounds generalizing progress with
  | nil => exact ⟨rfl,rfl⟩
  | cons first rest ih =>
    obtain ⟨fresh,once⟩ := List.nodup_cons.mp once
    obtain ⟨shared,lexical⟩ := shared_ingestTenant_quiet (quiet first List.mem_cons_self)
    rw [List.foldl_cons,← shared,← lexical]
    refine ih once (fun tenantId listed present => ?_)
    have same := working_ingestTenant_other grouped progress
      (fun equal : tenantId = first => fresh (equal ▸ listed))
    rw [same] at present
    rw [planFor_congr same]
    exact quiet tenantId (List.mem_cons_of_mem _ listed) present

private theorem shared_rounds_other (grouped : Dict Text (List Document)) {rounds : List Text}
    (progress : Progress) {tenantId : Text} (apart : tenantId ∉ rounds) :
    (rounds.foldl (ingestTenant grouped) progress).shared.get? tenantId =
      progress.shared.get? tenantId := by
  induction rounds generalizing progress with
  | nil => rfl
  | cons first rest ih =>
    rw [List.mem_cons,not_or] at apart
    rw [List.foldl_cons,ih _ apart.2,shared_ingestTenant_other _ _ apart.1]

private theorem shared_ingestTenant_touched {grouped : Dict Text (List Document)} {progress : Progress}
    {tenantId : Text} (present : progress.working.get? tenantId ≠ none)
    (differs : (planFor grouped progress.working tenantId).isEmpty = false) :
    (ingestTenant grouped progress tenantId).shared.getD tenantId [] =
      ingested grouped progress.working tenantId := by
  obtain ⟨store,found⟩ := Option.ne_none_iff_exists'.mp present
  have here : progress.working.getD tenantId [] = store := Dict.getD_of_some found []
  unfold ingestTenant ingested
  dsimp only
  rw [differs,if_neg Bool.false_ne_true,found,here]
  exact (Dict.getD_set _ _ _ _ _).trans (if_pos rfl)

private theorem shared_rounds_touched {grouped : Dict Text (List Document)} {rounds : List Text}
    (once : rounds.Nodup) {progress : Progress} {tenantId : Text} (listed : tenantId ∈ rounds)
    (present : progress.working.get? tenantId ≠ none)
    (differs : (planFor grouped progress.working tenantId).isEmpty = false) :
    (rounds.foldl (ingestTenant grouped) progress).shared.getD tenantId [] =
      ingested grouped progress.working tenantId := by
  induction rounds generalizing progress with
  | nil => cases listed
  | cons first rest ih =>
    obtain ⟨fresh,once⟩ := List.nodup_cons.mp once
    by_cases here : tenantId = first
    · subst here
      have later := shared_rounds_other grouped (ingestTenant grouped progress tenantId) fresh
      rw [List.foldl_cons,← shared_ingestTenant_touched present differs,Dict.getD,Dict.getD,later]
    · have same := working_ingestTenant_other grouped progress here
      have plan := @planFor_congr grouped _ _ _ same
      have still : (ingestTenant grouped progress first).working.get? tenantId ≠ none := by
        rwa [same]
      have again : (planFor grouped (ingestTenant grouped progress first).working tenantId).isEmpty =
          false := by
        rwa [plan]
      have store : (ingestTenant grouped progress first).working.getD tenantId [] =
          progress.working.getD tenantId [] := congrArg (·.getD []) same
      rw [List.foldl_cons,ih once ((List.mem_cons.mp listed).resolve_left here) still again,ingested,
        ingested,plan,store]

/-! The failing ingest. -/

section
variable (tools : Tools) (defaultTenant : Text)

/-- The tenants whose rounds are over when the first call raises, in the order of their names. -/
def finishedTenants (host : Host) (directory : Directory) (raises : Text → Bool) : List Text :=
  let grouped := groupDocuments (directoryDocuments tools defaultTenant directory)
  (ingestOrder host.existing grouped).takeWhile (fun tenantId =>
    !failsAt grouped host.existing raises tenantId)

def progressAtFailure (host : Host) (directory : Directory) (raises : Text → Bool) : Progress :=
  (finishedTenants tools defaultTenant host directory raises).foldl
    (ingestTenant (groupDocuments (directoryDocuments tools defaultTenant directory)))
    ⟨host.existing,host.memory.lexical,host.existing,0,0⟩

/-- Searches do not use the installed map, or no tenant before the failing one that has a
store has a difference. -/
def NothingShared (host : Host) (rebuild : Bool) (directory : Directory) (raises : Text → Bool) :
    Prop :=
  rebuild = false → host.current = true →
    ∀ tenantId ∈ finishedTenants tools defaultTenant host directory raises,
      host.existing.get? tenantId ≠ none →
        ¬Differs (groupDocuments (directoryDocuments tools defaultTenant directory)) host.existing
          tenantId

private theorem proper_group (directory : Directory) (tenantId : Text) :
    Proper ((groupDocuments (directoryDocuments tools defaultTenant directory)).getD tenantId []) := by
  have group : (groupDocuments (directoryDocuments tools defaultTenant directory)).getD tenantId [] =
      withKey Document.tenantId tenantId (directoryDocuments tools defaultTenant directory) :=
    getD_collect _ _ _
  have built {document : Document} (member : document ∈ withKey Document.tenantId tenantId
      (directoryDocuments tools defaultTenant directory)) :
      ∃ file ∈ knowledgeFiles defaultTenant directory, document ∈ fileDocuments tools file :=
    List.mem_flatMap.mp (mem_withKey.mp member).1
  rw [group]
  refine ⟨fun document member => ?_,fun document member => ?_,fun document member => ?_⟩
  · obtain ⟨file,_,here⟩ := built member
    rw [(hash_of_file here).2]
    exact tools.digest_ne _
  · obtain ⟨file,listed,here⟩ := built member
    intro nothing
    have markdown := (mem_knowledgeFiles listed).1
    rw [← (hash_of_file here).1,nothing] at markdown
    cases markdown
  · exact fresh_directoryDocuments tools defaultTenant directory document (mem_withKey.mp member).1

theorem differs_iff (directory : Directory) (stores : Stores) (tenantId : Text) :
    Differs (groupDocuments (directoryDocuments tools defaultTenant directory)) stores tenantId ↔
      (planFor (groupDocuments (directoryDocuments tools defaultTenant directory)) stores
        tenantId).isEmpty = false := by
  have same := plan_isEmpty_iff (proper_group tools defaultTenant directory tenantId)
    (liveSourceHashes (stores.getD tenantId []))
  rw [Differs,← not_forall,← same,Bool.not_eq_true]
  rfl

private theorem loadFiles_error {files : List File} {failure : Failure}
    (loaded : loadFiles tools files = .error failure) : failure = .unicodeDecode := by
  induction files with
  | nil => cases loaded
  | cons file rest ih =>
    unfold loadFiles at loaded
    cases built : buildParentChildDocuments tools file with
    | none =>
      rw [built] at loaded
      cases loaded
      rfl
    | some documents =>
      rw [built] at loaded
      cases more : loadFiles tools rest with
      | error other =>
        rw [more] at loaded
        cases loaded
        exact ih more
      | ok tail =>
        rw [more] at loaded
        cases loaded

private theorem interrupted_ingest {host : Host} {persist rebuild : Bool} {directory : Directory}
    {raises : Text → Bool} (failed : (ingestIndexes tools defaultTenant host persist rebuild
      directory raises).2 = some .embedding) :
    ((rebuild = true ∨ host.existing.isEmpty = true) ∧
        (ingestIndexes tools defaultTenant host persist rebuild directory raises).1 = host) ∨
      rebuild = false ∧
        (ingestIndexes tools defaultTenant host persist rebuild directory raises).1 =
          host.interrupted (progressAtFailure tools defaultTenant host directory raises) := by
  unfold ingestIndexes at failed ⊢
  split_ifs at failed ⊢ with full
  · refine Or.inl ⟨by simpa using full,?_⟩
    cases built : buildFaissIndex tools defaultTenant host persist directory raises with
    | error failure => rfl
    | ok after =>
      rw [built] at failed
      cases failed
  · have partial' : rebuild = false := by
      cases rebuild
      · rfl
      · exact absurd rfl full
    cases loaded : loadKnowledgeDocuments tools defaultTenant directory with
    | error failure =>
      rw [loaded] at failed
      cases Option.some.inj failed
      cases loadFiles_error tools loaded
    | ok documents =>
      obtain rfl : documents = directoryDocuments tools defaultTenant directory :=
        loadFiles_ok tools loaded
      simp only [loaded,ingestTenants_eq _ _ (nodup_ingestOrder _ _)] at failed ⊢
      split_ifs at failed ⊢ with nothing raised
      · cases failed
      · exact Or.inr ⟨partial',rfl⟩

private theorem interrupted_visible {host : Host} {progress : Progress} (used : host.current = true) :
    (host.interrupted progress).visible = some (progress.shared,progress.lexical) := by
  unfold Host.interrupted
  unfold Host.current at used
  cases installed : host.memory.indexes with
  | none => simp [installed] at used
  | some indexes =>
    rw [installed] at used
    dsimp only
    rw [Host.visible,if_pos]
    · rfl
    · exact used

private theorem interrupted_unused {host : Host} {progress : Progress} (unused : host.current = false) :
    (host.interrupted progress).visible = host.visible := by
  unfold Host.interrupted
  cases installed : host.memory.indexes with
  | none => rfl
  | some indexes =>
    have still : ({ host with memory := { host.memory with
        indexes := some progress.shared, lexical := progress.lexical } } : Host).current = false := by
      simpa [Host.current,installed] using unused
    dsimp only
    rw [Host.visible,Host.visible,still,unused]
    rfl

private theorem interrupted_saved (host : Host) (progress : Progress) :
    (host.interrupted progress).saved = host.saved ∧
      (host.interrupted progress).generation = host.generation := by
  unfold Host.interrupted
  cases host.memory.indexes <;> exact ⟨rfl,rfl⟩

private theorem existing_of_current {host : Host} (used : host.current = true) :
    host.visible = some (host.existing,host.memory.lexical) := by
  rw [Host.visible,if_pos used,Host.existing]
  unfold Host.current at used
  cases installed : host.memory.indexes with
  | none => simp [installed] at used
  | some indexes => rfl

private theorem nodup_finishedTenants (host : Host) (directory : Directory) (raises : Text → Bool) :
    (finishedTenants tools defaultTenant host directory raises).Nodup :=
  (nodup_ingestOrder _ _).sublist (List.takeWhile_sublist _)

private theorem progress_quiet {host : Host} {directory : Directory} {raises : Text → Bool}
    (quiet : ∀ tenantId ∈ finishedTenants tools defaultTenant host directory raises,
      host.existing.get? tenantId ≠ none →
        ¬Differs (groupDocuments (directoryDocuments tools defaultTenant directory)) host.existing
          tenantId) :
    (progressAtFailure tools defaultTenant host directory raises).shared = host.existing ∧
      (progressAtFailure tools defaultTenant host directory raises).lexical =
        host.memory.lexical := by
  refine shared_rounds_quiet (nodup_finishedTenants tools defaultTenant host directory raises)
    (fun tenantId listed present => ?_)
  have same := quiet tenantId listed present
  rwa [differs_iff,Bool.not_eq_false] at same

private theorem progress_touched {host : Host} {directory : Directory} {raises : Text → Bool}
    {tenantId : Text} (listed : tenantId ∈ finishedTenants tools defaultTenant host directory raises)
    (present : host.existing.get? tenantId ≠ none)
    (differs : Differs (groupDocuments (directoryDocuments tools defaultTenant directory))
      host.existing tenantId) :
    iterStoreDocuments ((progressAtFailure tools defaultTenant host directory raises).shared.getD
        tenantId []) ≠ iterStoreDocuments (host.existing.getD tenantId []) := by
  have plan := (differs_iff tools defaultTenant directory host.existing tenantId).mp differs
  have touched := @shared_rounds_touched _ _
    (nodup_finishedTenants tools defaultTenant host directory raises)
    ⟨host.existing,host.memory.lexical,host.existing,0,0⟩ tenantId listed present plan
  rw [progressAtFailure,touched]
  exact live_ingested_ne (proper_group tools defaultTenant directory tenantId) differs

/-- An ingest in which an embedding call raises changes nothing exactly when nothing that is
shared was touched before. -/
theorem failed_ingest_unchanged_iff (host : Host) (persist rebuild : Bool) (directory : Directory)
    (raises : Text → Bool) (failed : (ingestIndexes tools defaultTenant host persist rebuild
      directory raises).2 = some .embedding) :
    Unchanged host (ingestIndexes tools defaultTenant host persist rebuild directory raises).1 ↔
      NothingShared tools defaultTenant host rebuild directory raises := by
  rcases interrupted_ingest tools defaultTenant failed with ⟨full,same⟩ | ⟨partial',interrupted⟩
  · rw [same]
    refine iff_of_true (Unchanged.refl host) (fun partial' _ tenantId _ present => ?_)
    rcases full with rebuild' | empty
    · rw [partial'] at rebuild'
      cases rebuild'
    · exact absurd ((Dict.isEmpty_iff _).mp empty tenantId) present
  · rw [interrupted]
    obtain ⟨saved,generation⟩ := interrupted_saved host
      (progressAtFailure tools defaultTenant host directory raises)
    by_cases used : host.current = true
    · have seen := @interrupted_visible host
        (progressAtFailure tools defaultTenant host directory raises) used
      constructor
      · intro unchanged _ _ tenantId listed present differs
        have live := unchanged.live tenantId
        rw [seen,existing_of_current used] at live
        exact progress_touched tools defaultTenant listed present differs (Option.some.inj live)
      · intro nothing
        obtain ⟨shared,lexical⟩ := progress_quiet tools defaultTenant (nothing partial' used)
        rw [shared,lexical,← existing_of_current used] at seen
        exact ⟨fun _ => by rw [seen],fun _ => by rw [seen],saved,generation⟩
    · have unused : host.current = false := by simpa using used
      refine iff_of_true ?_ (fun _ used' => absurd used' used)
      have seen := @interrupted_unused host
        (progressAtFailure tools defaultTenant host directory raises) unused
      exact ⟨fun _ => by rw [seen],fun _ => by rw [seen],saved,generation⟩

end

/-! Two tenants of which one raises. -/

def twoTenants (first second : String) : Directory where
  files := ∅
  folders := ((∅ : Dict Text (Dict Text Bytes)).set "acme".toList
      ((∅ : Dict Text Bytes).set "a.md".toList first.toUTF8.data.toList)).set "beta".toList
    ((∅ : Dict Text Bytes).set "b.md".toList second.toUTF8.data.toList)

def ingestedHost : Host :=
  (ingestIndexes plainTools "demo".toList ⟨.fresh,none,0,0⟩ true false (twoTenants "x" "y")
    (fun _ => false)).1

/-- The call for the first tenant raises: nothing has changed. -/
theorem failed_ingest_unchanged_first :
    Unchanged ingestedHost (ingestIndexes plainTools "demo".toList ingestedHost true false
      (twoTenants "z" "w") (fun tenantId => tenantId == "acme".toList)).1 := by
  refine (failed_ingest_unchanged_iff plainTools "demo".toList ingestedHost true false
    (twoTenants "z" "w") (fun tenantId => tenantId == "acme".toList) (by decide +kernel)).mpr ?_
  intro _ _ tenantId listed
  have nobody : finishedTenants plainTools "demo".toList ingestedHost (twoTenants "z" "w")
      (fun tenantId => tenantId == "acme".toList) = [] := by decide +kernel
  rw [nobody] at listed
  cases listed

/-- The call for the second tenant raises after the first has been edited in place. -/
theorem failed_ingest_edits_first_tenant :
    ¬∀ (tools : Tools) (defaultTenant : Text) (host : Host) (persist rebuild : Bool)
      (directory : Directory) (raises : Text → Bool),
      (ingestIndexes tools defaultTenant host persist rebuild directory raises).2 =
          some .embedding →
        Unchanged host (ingestIndexes tools defaultTenant host persist rebuild directory raises).1 := by
  intro law
  have unchanged := law plainTools "demo".toList ingestedHost true false (twoTenants "z" "w")
    (fun tenantId => tenantId == "beta".toList) (by decide +kernel)
  have live := unchanged.live "acme".toList
  revert live
  decide +kernel

end CustomerService.Knowledge
