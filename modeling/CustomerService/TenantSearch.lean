import CustomerService.Retrieval
import Mathlib.Algebra.GroupWithZero.Nat

/-! Tenant isolation of retrieval: whatever the history of the index, the hits of a tenant
come from its own files or the platform's. -/
namespace CustomerService.Knowledge

open Text Ranking

/-! Documents that a search may combine. -/

structure Admissible (allowed : Document → Prop) (documents : List Document) : Prop where
  allowed : ∀ document ∈ documents, allowed document
  distinct : (documents.map documentKey).Nodup

theorem Admissible.sublist {allowed : Document → Prop} {documents part : List Document}
    (good : Admissible allowed documents) (inside : part.Sublist documents) :
    Admissible allowed part :=
  ⟨fun document listed => good.allowed document (inside.subset listed),
    good.distinct.sublist (inside.map documentKey)⟩

theorem Admissible.perm {allowed : Document → Prop} {documents other : List Document}
    (good : Admissible allowed documents) (same : other.Perm documents) : Admissible allowed other :=
  ⟨fun document listed => good.allowed document (same.subset listed),
    (same.map documentKey).nodup_iff.mpr good.distinct⟩

theorem Admissible.nil (allowed : Document → Prop) : Admissible allowed [] :=
  ⟨fun _ listed => (nomatch listed),List.nodup_nil⟩

section
variable {Score : Type*} {search : SearchTools Score} {settings : RagSettings}
  {allowed : Document → Prop}

/-- The documents of a fusion are allowed and stand under their keys. -/
def Fusion.Holds (allowed : Document → Prop) (fusion : Fusion Score) : Prop :=
  ∀ key document, fusion.docs.get? key = some document → documentKey document = key ∧ allowed document

/-- What is ranked is allowed; vector search gives each key once. -/
structure Ranked.Holds (allowed : Document → Prop) (ranked : Ranked Score) : Prop where
  vector : Admissible allowed (ranked.vector.map Prod.fst)
  bm25 : ∀ document ∈ ranked.bm25.map Prod.fst, allowed document

private theorem lookup_keys {docs : Dict (Text × Text) Document}
    (exact : ∀ key document, docs.get? key = some document → documentKey document = key)
    (entries : List ((Text × Text) × Score)) :
    ((entries.filterMap (fun entry => (docs.get? entry.1).map (fun document =>
      (document,entry.2)))).map (fun hit => documentKey hit.1)).Sublist (entries.map Prod.fst) := by
  induction entries with
  | nil => exact List.Sublist.slnil
  | cons entry rest ih =>
    cases found : docs.get? entry.1 with
    | none =>
      rw [List.filterMap_cons_none (by simp [found])]
      exact ih.trans (List.sublist_cons_self _ _)
    | some document =>
      rw [List.filterMap_cons_some (b := (document,entry.2)) (by simp [found]),List.map_cons,
        List.map_cons,exact _ _ found]
      exact ih.cons_cons _

section
variable [LinearOrder Score]

theorem perm_sortDescending {Item : Type*} (score : Item → Score) (items : List Item) :
    (sortDescending score items).Perm items := List.perm_insertionSort _ _

private theorem admissible_rerank {query : Text} {hits reranked : List (SearchHit Score)} {topK : Nat}
    (good : Admissible allowed (hits.map SearchHit.document))
    (result : rerankHits search query hits topK = some reranked) :
    Admissible allowed (reranked.map SearchHit.document) := by
  unfold rerankHits at result
  split_ifs at result
  · cases result
    exact Admissible.nil allowed
  · cases result
    exact good
  · cases predicted : search.predictScores query (hits.map (fun hit => hit.document.pageContent)) with
    | none =>
      rw [predicted] at result
      cases result
      rw [List.map_take]
      exact good.sublist (List.take_sublist _ _)
    | some scores =>
      rw [predicted] at result
      dsimp only at result
      split_ifs at result with whole
      cases result
      have same : ((sortDescending Prod.snd (hits.zip scores)).map (fun pair =>
          pair.1.document)).Perm (hits.map SearchHit.document) := by
        refine ((perm_sortDescending Prod.snd (hits.zip scores)).map _).trans (List.Perm.of_eq ?_)
        have firsts := List.map_fst_zip (Nat.le_of_eq whole.symm)
        exact List.map_map.symm.trans (congrArg (List.map SearchHit.document) firsts)
      rw [List.map_map]
      exact (good.perm same).sublist ((List.take_sublist _ _).map _)

end

/-! Fusion. -/

section
variable [Field Score]

theorem documents_fusedHits (fused : List (Document × Score))
    (vectorMap bm25Map : Dict (Text × Text) Score) :
    (fusedHits fused vectorMap bm25Map).map SearchHit.document = fused.map Prod.fst := by
  rw [fusedHits,List.map_map]
  rfl

theorem documents_vectorHits (ranked : List (Document × Score)) :
    (vectorHits ranked).map SearchHit.document = ranked.map Prod.fst := by
  rw [vectorHits,List.map_map]
  rfl

theorem Fusion.Holds.rank {fusion : Fusion Score} (holds : fusion.Holds allowed) (rrfK : Nat)
    {ranked : Document × Nat} (good : allowed ranked.1) :
    (fuseRank search rrfK fusion ranked).Holds allowed := by
  intro key document found
  rw [fuseRank,Dict.get?_set] at found
  split_ifs at found with same
  · cases found
    exact ⟨same.symm,good⟩
  · exact holds key document found

theorem Fusion.Holds.rankings {rankedLists : List (List Document)} {fusion : Fusion Score}
    (holds : fusion.Holds allowed) (rrfK : Nat)
    (good : ∀ ranking ∈ rankedLists, ∀ document ∈ ranking, allowed document) :
    (rankedLists.foldl (fuseRanking search rrfK) fusion).Holds allowed :=
  List.foldlRecOn rankedLists _ holds (fun _ held ranking listed =>
    List.foldlRecOn (ranking.zipIdx 1) _ held (fun _ kept _ here =>
      kept.rank rrfK (good ranking listed _ (List.fst_mem_of_mem_zipIdx here))))

variable [LinearOrder Score]

private theorem admissible_fusion {rankedLists : List (List Document)}
    (good : ∀ ranking ∈ rankedLists, ∀ document ∈ ranking, allowed document) (rrfK limit : Nat) :
    Admissible allowed ((reciprocalRankFusion search rankedLists rrfK limit).map Prod.fst) := by
  have holds : (rankedLists.foldl (fuseRanking search rrfK) ⟨∅,∅⟩).Holds allowed :=
    Fusion.Holds.rankings (fun _ _ found => by cases found) rrfK good
  constructor
  · intro document listed
    obtain ⟨hit,member,rfl⟩ := List.mem_map.mp listed
    obtain ⟨entry,_,found⟩ := List.mem_filterMap.mp member
    obtain ⟨document,stored,rfl⟩ := Option.map_eq_some_iff.mp found
    exact (holds _ _ stored).2
  · have keys := lookup_keys (fun key document found => (holds key document found).1)
      ((sortDescending Prod.snd (rankedLists.foldl (fuseRanking search rrfK)
        ⟨∅,∅⟩).scores.entries).take limit)
    have sorted := (perm_sortDescending Prod.snd (rankedLists.foldl (fuseRanking search rrfK)
      ⟨∅,∅⟩).scores.entries).map Prod.fst
    have distinct := sorted.nodup_iff.mpr (rankedLists.foldl (fuseRanking search rrfK)
      ⟨∅,∅⟩).scores.distinct
    rw [List.map_map]
    exact distinct.sublist (keys.trans ((List.take_sublist _ _).map Prod.fst))

theorem Ranked.Holds.hits {ranked : Ranked Score} (holds : ranked.Holds allowed) (limit : Nat) :
    Admissible allowed ((ranked.hits search settings limit).map SearchHit.document) := by
  unfold Ranked.hits
  split_ifs
  · rw [fuseHits,documents_fusedHits]
    apply admissible_fusion
    intro ranking listed
    rcases List.mem_cons.mp listed with rfl | listed
    · exact holds.vector.allowed
    · obtain rfl := List.mem_singleton.mp listed
      exact holds.bm25
  · rw [documents_vectorHits,List.map_take]
    exact holds.vector.sublist (List.take_sublist _ _)

private theorem admissible_rankedLists {rankings : List (Ranked Score)}
    (holds : ∀ ranked ∈ rankings, ranked.Holds allowed) (fuseLimit limit : Nat)
    (vectorMaps bm25Maps : List (Dict (Text × Text) Score)) (rrfK : Nat) :
    Admissible allowed ((hitsFromRankedLists search (rankings.map (fun ranked =>
      (ranked.hits search settings fuseLimit).map SearchHit.document)) vectorMaps bm25Maps rrfK
        limit).map SearchHit.document) := by
  rw [hitsFromRankedLists,documents_fusedHits]
  apply admissible_fusion
  intro ranking listed
  obtain ⟨ranked,member,rfl⟩ := List.mem_map.mp listed
  exact ((holds ranked member).hits fuseLimit).allowed

end

end

/-! Where the documents of a scope come from. -/

section
variable (tools : Tools) (defaultTenant : Text)

/-- A document of a scope is built, apart from its mark, from a file of the scope that some
of the contents have. -/
def FromScope (found : List Directory) (scope : Text) (document : Document) : Prop :=
  ∃ file, Occurs defaultTenant found file ∧ file.tenantId = scope ∧
    { document with deleted := false } ∈ fileDocuments tools file

def ScopedStores (found : List Directory) (stores : Stores) : Prop :=
  ∀ scope, ∀ document ∈ stores.getD scope [], FromScope tools defaultTenant found scope document

def ScopedEntry (found : List Directory) (scope : Text) (documents : List Document) : Prop :=
  ∀ document ∈ documents, document.deleted = false ∧ isRetrievalChunk document = true ∧
    FromScope tools defaultTenant found scope document

variable {tools defaultTenant}

private theorem fromScope_wanted {found : List Directory} {directory : Directory} (inside : directory ∈ found)
    {scope : Text} {document : Document} (member : document ∈
      withKey Document.tenantId scope (directoryDocuments tools defaultTenant directory)) :
    FromScope tools defaultTenant found scope document := by
  obtain ⟨listed,own⟩ := mem_withKey.mp member
  obtain ⟨file,here,built⟩ := List.mem_flatMap.mp listed
  obtain ⟨tenant,_,fresh⟩ := file_of_document tools built
  refine ⟨file,⟨directory,inside,here⟩,tenant.symm.trans own,?_⟩
  rwa [← fresh]

private theorem scoped_build {found : List Directory} {directory : Directory} (inside : directory ∈ found) :
    ScopedStores tools defaultTenant found
      (storesFromGroups (groupDocuments (directoryDocuments tools defaultTenant directory))) := by
  intro scope document member
  rw [getD_storesFromGroups] at member
  exact fromScope_wanted inside member

private theorem mem_newDocs {live : Dict Text Text} {wanted : List Document} {document : Document}
    (member : document ∈ (planTenant live wanted).newDocs) : document ∈ wanted := by
  obtain ⟨entry,_,listed⟩ := List.mem_flatMap.mp member
  rw [getD_collect] at listed
  exact (mem_withKey.mp listed).1

private theorem unmarked_retire (sources : List Text) (keepHash : Dict Text Text) (document : Document) :
    { retire sources keepHash document with deleted := false } =
      { document with deleted := false } := by
  unfold retire
  split_ifs <;> rfl

private theorem scoped_ingested {found : List Directory} {directory : Directory} (inside : directory ∈ found)
    {stores result : Stores} (origin : ScopedStores tools defaultTenant found stores)
    (made : ∀ tenantId, result.getD tenantId [] =
      ingested (groupDocuments (directoryDocuments tools defaultTenant directory)) stores tenantId) :
    ScopedStores tools defaultTenant found result := by
  intro scope document member
  rw [made,ingested] at member
  obtain ⟨before,listed,rfl⟩ := List.mem_map.mp member
  have from' : FromScope tools defaultTenant found scope before := by
    rcases List.mem_append.mp listed with old | new
    · exact origin scope before old
    · have wanted := mem_newDocs new
      rw [groupDocuments,getD_collect] at wanted
      exact fromScope_wanted inside wanted
  obtain ⟨file,occurs,own,built⟩ := from'
  refine ⟨file,occurs,own,?_⟩
  rwa [unmarked_retire]

private theorem scoped_lexical {found : List Directory} {indexes : Stores} {scope : Text} {store : Store}
    {documents : List Document} (origin : ScopedStores tools defaultTenant found indexes)
    (listed : indexes.get? scope = some store) (built : buildLexical store = some documents) :
    ScopedEntry tools defaultTenant found scope documents := by
  unfold buildLexical at built
  dsimp only at built
  split_ifs at built
  cases built
  intro document member
  obtain ⟨live,chunk⟩ := List.mem_filter.mp member
  obtain ⟨stored,alive⟩ := List.mem_filter.mp live
  refine ⟨by simpa using alive,chunk,origin scope document ?_⟩
  rwa [Dict.getD_of_some listed]

private theorem scoped_empty {found : List Directory} : ScopedStores tools defaultTenant found ∅ :=
  fun _ _ listed => absurd listed List.not_mem_nil

/-- After any run, every document of a scope comes from a file of the scope, and the lexical
caches hold chunks in use. -/
theorem scoped_run (events : List (Nat × Action)) :
    (World.run tools defaultTenant events).Holds
      (ScopedStores tools defaultTenant (contents events))
      (ScopedEntry tools defaultTenant (contents events)) := by
  refine World.holds_run events (fun event listed host origin => ?_)
  obtain ⟨worker,action⟩ := event
  cases action with
  | ingest persist rebuild directory =>
    have inside : directory ∈ contents events := List.mem_filterMap.mpr ⟨_,listed,rfl⟩
    cases built : buildStores tools defaultTenant directory with
    | error failure =>
      rw [Host.act,ingest_rejected tools defaultTenant built]
      exact origin
    | ok stores =>
      obtain ⟨result,changed,published,made⟩ :=
        ingest_published tools defaultTenant built host persist rebuild
      rw [Host.act,published]
      refine origin.publish ?_ persist changed
      rcases made with rfl | made
      · rw [(load_of_build tools defaultTenant built).2.2]
        exact scoped_build inside
      · exact scoped_ingested inside (origin.existing scoped_empty) made
  | load => exact origin.load
  | search scope => exact (origin.bm25Index (fun _ _ _ _ => scoped_lexical) scope).1
  | restart => exact origin.restart

end

/-! The search of a tenant. -/

section
variable (tools : Tools) (defaultTenant : Text)

/-- A chunk that a search of the tenant may return: in use, not a parent, of the course, and
built from a file of the tenant or, without a course code, of the platform. -/
structure Retrievable (found : List Directory) (tenantId courseCode : Text) (document : Document) :
    Prop where
  alive : document.deleted = false
  chunk : isRetrievalChunk document = true
  course : courseCode ≠ [] → document.courseCode = courseCode
  origin : ∃ file, Occurs defaultTenant found file ∧
    (file.tenantId = tenantId ∨ courseCode = [] ∧ file.tenantId = platformTenant) ∧
    document ∈ fileDocuments tools file

variable {tools defaultTenant} {found : List Directory} {tenantId courseCode : Text}

private theorem scope_cases {indexes : Stores} {scope : Text}
    (listed : scope ∈ searchScopes indexes tenantId courseCode) :
    scope = tenantId ∨ courseCode = [] ∧ scope = platformTenant := by
  rw [searchScopes_eq] at listed
  have wanted := (List.mem_filter.mp listed).1
  unfold wantedScopes at wanted
  split_ifs at wanted with only
  · exact Or.inl (List.mem_singleton.mp wanted)
  · rw [not_or,not_not] at only
    simpa [only.1] using wanted

private theorem retrievable_of_scope {indexes : Stores} {scope : Text} {document : Document}
    (listed : scope ∈ searchScopes indexes tenantId courseCode) (alive : document.deleted = false)
    (chunk : isRetrievalChunk document = true) (course : matchesCourse courseCode document = true)
    (origin : FromScope tools defaultTenant found scope document) :
    Retrievable tools defaultTenant found tenantId courseCode document := by
  obtain ⟨file,occurs,own,built⟩ := origin
  refine ⟨alive,chunk,fun given => ?_,file,occurs,own ▸ scope_cases listed,?_⟩
  · simpa [matchesCourse,given] using course
  · rwa [← alive] at built

variable {Score : Type*} {search : SearchTools Score} {settings : RagSettings}
  {host next : Host} {query : Text} {fetchK : Nat}

section
variable [Field Score] [LinearOrder Score]

private theorem searchVector_retrievable (stored : StoredHits search.engine)
    (holds : host.Holds (ScopedStores tools defaultTenant found) (ScopedEntry tools defaultTenant found))
    {ranked : List (Document × Score)}
    (got : host.searchVector search query tenantId fetchK courseCode = some (next,ranked)) :
    next.Holds (ScopedStores tools defaultTenant found) (ScopedEntry tools defaultTenant found) ∧
      Admissible (Retrievable tools defaultTenant found tenantId courseCode) (ranked.map Prod.fst) := by
  obtain ⟨reached,loaded,same⟩ := Option.map_eq_some_iff.mp got
  cases same
  obtain ⟨held,indexes,installed⟩ := holds.getIndexes loaded
  refine ⟨held,?_⟩
  rw [searchVector_documents,installed,Option.getD_some]
  refine ⟨fun document listed => ?_,
    (nodup_distinctBy documentKey _).sublist ((List.take_sublist _ _).map documentKey)⟩
  have window := (distinctBy_sublist documentKey _).subset (List.mem_of_mem_take listed)
  obtain ⟨inside,eligible⟩ := List.mem_filter.mp window
  obtain ⟨hit,member,rfl⟩ := List.mem_map.mp inside
  rw [List.mem_insertionSort] at member
  obtain ⟨scope,searched,here⟩ := scored_stored stored member
  simp only [isEligible,Bool.and_eq_true,Bool.not_eq_true'] at eligible
  exact retrievable_of_scope searched eligible.1.1 eligible.2 eligible.1.2
    (held.memory indexes installed scope _ here)

end

section
variable [LinearOrder Score]

theorem keepBest_holds (allowed : Text × Text → Document × Score → Prop)
    {best : Dict (Text × Text) (Document × Score)}
    (good : ∀ key hit, best.get? key = some hit → allowed key hit) {hit : Document × Score}
    (new : matchesCourse courseCode hit.1 = true → allowed (documentKey hit.1) hit) :
    ∀ key other, (keepBest courseCode best hit).get? key = some other → allowed key other := by
  intro key other found
  have stored (course : matchesCourse courseCode hit.1 = true)
      (here : (best.set (documentKey hit.1) hit).get? key = some other) : allowed key other := by
    rw [Dict.get?_set] at here
    split_ifs at here with same
    · cases here
      exact same ▸ new course
    · exact good key other here
  unfold keepBest at found
  split_ifs at found with course
  · exact good key other found
  · have matching : matchesCourse courseCode hit.1 = true := by simpa using course
    cases before : best.get? (documentKey hit.1) with
    | none =>
      rw [before] at found
      exact stored matching found
    | some previous =>
      rw [before] at found
      dsimp only at found
      split_ifs at found
      · exact stored matching found
      · exact good key other found

variable [Field Score]

private theorem mem_bm25Search {documents : List Document} {k : Nat} {hit : Document × Score}
    (member : hit ∈ bm25Search search documents query k) : hit.1 ∈ documents := by
  unfold bm25Search at member
  dsimp only at member
  split_ifs at member
  · cases member
  · have sorted := List.mem_of_mem_take member
    rw [(perm_sortDescending _ _).mem_iff] at sorted
    exact (List.of_mem_zip (List.mem_filter.mp sorted).1).1

private theorem bm25Scope_holds {indexes : Stores} {scope : Text} {lexicalFetch : Nat}
    (listed : scope ∈ searchScopes indexes tenantId courseCode)
    {state : Host × Dict (Text × Text) (Document × Score)}
    (holds : state.1.Holds (ScopedStores tools defaultTenant found)
      (ScopedEntry tools defaultTenant found))
    (good : ∀ key hit, state.2.get? key = some hit →
      Retrievable tools defaultTenant found tenantId courseCode hit.1) :
    (bm25Scope search query lexicalFetch courseCode state scope).1.Holds
        (ScopedStores tools defaultTenant found) (ScopedEntry tools defaultTenant found) ∧
      ∀ key hit, (bm25Scope search query lexicalFetch courseCode state scope).2.get? key = some hit →
        Retrievable tools defaultTenant found tenantId courseCode hit.1 := by
  obtain ⟨held,entries⟩ := holds.bm25Index (fun _ _ _ _ => scoped_lexical) scope
  unfold bm25Scope
  cases index : (state.1.bm25Index scope).2 with
  | none => exact ⟨held,good⟩
  | some documents =>
    refine ⟨held,?_⟩
    refine List.foldlRecOn (bm25Search search documents query lexicalFetch) (keepBest courseCode)
      (motive := fun best : Dict (Text × Text) (Document × Score) =>
        ∀ key hit, best.get? key = some hit →
          Retrievable tools defaultTenant found tenantId courseCode hit.1) good
      (fun best kept hit member => keepBest_holds (fun _ hit =>
        Retrievable tools defaultTenant found tenantId courseCode hit.1) kept (fun course => ?_))
    obtain ⟨alive,chunk,origin⟩ := entries documents index hit.1 (mem_bm25Search member)
    exact retrievable_of_scope listed alive chunk course origin

private theorem searchBm25_retrievable
    (holds : host.Holds (ScopedStores tools defaultTenant found) (ScopedEntry tools defaultTenant found))
    {ranked : List (Document × Score)}
    (got : host.searchBm25 search query tenantId fetchK courseCode = some (next,ranked)) :
    next.Holds (ScopedStores tools defaultTenant found) (ScopedEntry tools defaultTenant found) ∧
      ∀ document ∈ ranked.map Prod.fst,
        Retrievable tools defaultTenant found tenantId courseCode document := by
  obtain ⟨reached,loaded,same⟩ := Option.map_eq_some_iff.mp got
  cases same
  obtain ⟨held,_⟩ := holds.getIndexes loaded
  have run := List.foldlRecOn (searchScopes (reached.memory.indexes.getD ∅) tenantId courseCode)
    (bm25Scope search query (if courseCode ≠ [] then max (fetchK * 4) 16 else fetchK) courseCode)
    (b := (reached,∅))
    (motive := fun state : Host × Dict (Text × Text) (Document × Score) =>
      state.1.Holds (ScopedStores tools defaultTenant found)
        (ScopedEntry tools defaultTenant found) ∧
      ∀ key hit, state.2.get? key = some hit →
        Retrievable tools defaultTenant found tenantId courseCode hit.1)
    ⟨held,fun _ _ found => (nomatch found)⟩
    (fun state kept scope listed => bm25Scope_holds listed kept.1 kept.2)
  refine ⟨run.1,fun document listed => ?_⟩
  obtain ⟨hit,member,rfl⟩ := List.mem_map.mp listed
  have sorted := List.mem_of_mem_take member
  rw [(perm_sortDescending _ _).mem_iff] at sorted
  obtain ⟨⟨key,_⟩,entry,rfl⟩ := List.mem_map.mp sorted
  exact run.2 key _ ((Dict.get?_eq_some _ _ _).mpr entry)

end

variable [Field Score] [LinearOrder Score]

private theorem rankQuery_holds (stored : StoredHits search.engine)
    (holds : host.Holds (ScopedStores tools defaultTenant found) (ScopedEntry tools defaultTenant found))
    {ranked : Ranked Score} (got : host.rankQuery search settings query tenantId fetchK courseCode =
      some (next,ranked)) :
    next.Holds (ScopedStores tools defaultTenant found) (ScopedEntry tools defaultTenant found) ∧
      ranked.Holds (Retrievable tools defaultTenant found tenantId courseCode) := by
  unfold Host.rankQuery at got
  cases first : host.searchVector search query tenantId fetchK courseCode with
  | none => simp [first] at got
  | some pair =>
    obtain ⟨middle,vector⟩ := pair
    obtain ⟨held,good⟩ := searchVector_retrievable stored holds first
    rw [first] at got
    dsimp only at got
    split_ifs at got
    · cases second : middle.searchBm25 search query tenantId fetchK courseCode with
      | none => simp [second] at got
      | some pair =>
        obtain ⟨last,bm25⟩ := pair
        rw [second] at got
        cases got
        obtain ⟨kept,also⟩ := searchBm25_retrievable held second
        exact ⟨kept,good,also⟩
    · cases got
      exact ⟨held,good,fun _ listed => (nomatch listed)⟩

private theorem rankQueries_holds (stored : StoredHits search.engine)
    (holds : host.Holds (ScopedStores tools defaultTenant found) (ScopedEntry tools defaultTenant found))
    {queries : List Text} {rankings : List (Ranked Score)}
    (got : host.rankQueries search settings tenantId fetchK courseCode queries =
      some (next,rankings)) :
    ∀ ranked ∈ rankings, ranked.Holds (Retrievable tools defaultTenant found tenantId courseCode) := by
  induction queries generalizing host rankings with
  | nil =>
    cases got
    exact fun _ listed => (nomatch listed)
  | cons query rest ih =>
    unfold Host.rankQueries at got
    cases first : host.rankQuery search settings query tenantId fetchK courseCode with
    | none => simp [first] at got
    | some pair =>
      obtain ⟨middle,ranked⟩ := pair
      obtain ⟨held,good⟩ := rankQuery_holds stored holds first
      rw [first] at got
      obtain ⟨⟨last,others⟩,second,same⟩ := Option.map_eq_some_iff.mp got
      cases same
      intro other listed
      rcases List.mem_cons.mp listed with rfl | listed
      · exact good
      · exact ih held second other listed

private theorem found_holds (stored : StoredHits search.engine)
    (holds : host.Holds (ScopedStores tools defaultTenant found) (ScopedEntry tools defaultTenant found))
    {queries : List Text} {fuseLimit : Nat} {hits : List (SearchHit Score)} {ranked : Ranked Score}
    (got : (if 1 < queries.length then
        host.multiQueryHits search settings queries tenantId fetchK fuseLimit courseCode
      else host.singleQueryHits search settings query tenantId fetchK fuseLimit courseCode) =
        some (next,hits,ranked)) :
    Admissible (Retrievable tools defaultTenant found tenantId courseCode)
        (hits.map SearchHit.document) ∧
      ranked.Holds (Retrievable tools defaultTenant found tenantId courseCode) := by
  split_ifs at got
  · obtain ⟨⟨last,rankings⟩,searched,same⟩ := Option.map_eq_some_iff.mp got
    cases same
    have all := rankQueries_holds stored holds searched
    refine ⟨admissible_rankedLists all _ _ _ _ _,?_⟩
    cases listed : rankings.getLast? with
    | none =>
      rw [List.getLastD_eq_getLast?,listed]
      exact ⟨Admissible.nil _,fun _ listed => (nomatch listed)⟩
    | some ranked =>
      rw [List.getLastD_eq_getLast?,listed]
      exact all ranked (List.mem_of_getLast? listed)
  · obtain ⟨⟨last,ranked⟩,searched,same⟩ := Option.map_eq_some_iff.mp got
    cases same
    have good := (rankQuery_holds stored holds searched).2
    exact ⟨good.hits fuseLimit,good⟩

/-- Whatever a run has built and ingested, a search of a tenant returns at most the hits
asked for, each of a key of its own, a chunk in use of the course from a file of the tenant
or of the platform. -/
theorem search_tenant_documents_isolated (events : List (Nat × Action)) (worker : Nat)
    (stored : StoredHits search.engine) (query : Text) (k : Nat) (retrievalQueries : List Text)
    {result : TenantSearchResult Score}
    (returned : ((World.run tools defaultTenant events).host worker).searchTenantDocuments search
      settings query tenantId k courseCode retrievalQueries = some (next,result)) :
    (∀ hit ∈ result.hits, Retrievable tools defaultTenant (contents events) tenantId courseCode
        hit.document) ∧
      (result.hits.map (fun hit => documentKey hit.document)).Nodup ∧ result.hits.length ≤ k := by
  unfold Host.searchTenantDocuments at returned
  dsimp only at returned
  split at returned
  · cases returned
  · rename_i middle fused ranked found
    obtain ⟨good,source⟩ := found_holds stored (scoped_run events worker) found
    obtain ⟨hits,reranked,same⟩ := Option.map_eq_some_iff.mp returned
    cases same
    have kept : Admissible (Retrievable tools defaultTenant (contents events) tenantId courseCode)
        (hits.map SearchHit.document) := by
      split_ifs at reranked
      · exact admissible_rerank good reranked
      · cases reranked
        rw [List.map_take]
        exact good.sublist (List.take_sublist _ _)
    have other : Admissible (Retrievable tools defaultTenant (contents events) tenantId courseCode)
        ((if courseCode ≠ [] ∧ hits.isEmpty = true then relaxedHits search settings ranked k
          else []).map SearchHit.document) := by
      split_ifs
      · rw [relaxedHits,List.map_map]
        exact source.hits k
      · exact Admissible.nil _
    have whole {relaxed : List (SearchHit Score)}
        (good : Admissible (Retrievable tools defaultTenant (contents events) tenantId courseCode)
          (relaxed.map SearchHit.document)) :
        Admissible (Retrievable tools defaultTenant (contents events) tenantId courseCode)
          ((if relaxed.isEmpty = true then hits else relaxed).map SearchHit.document) := by
      split_ifs
      · exact kept
      · exact good
    have part := (whole other).sublist ((List.take_sublist k _).map SearchHit.document)
    refine ⟨fun hit listed => part.allowed _ (List.mem_map_of_mem listed),?_,List.length_take_le _ _⟩
    have distinct := part.distinct
    rwa [List.map_map] at distinct

end

/-- A search over files that equal the query or do not, without a reranking model. -/
def equalityTools : SearchTools ℚ where
  engine := sortingEngine (fun query text => if query = text then 0 else 1) (fun _ => false)
  tokenize text := [text]
  bm25Scores corpus tokens := corpus.map (fun words => if words = tokens then 1 else 0)
  reciprocal count := 1000 / count
  predictScores _ _ := none

def hybridSettings : RagSettings := ⟨true,60,false,24,6,true,12,32⟩

/-- A root file, a file of the platform and one of another tenant. -/
def threeScopes : Directory where
  files := (∅ : Dict Text Bytes).set "a.md".toList "x".toUTF8.data.toList
  folders := ((∅ : Dict Text (Dict Text Bytes)).set "platform".toList
      ((∅ : Dict Text Bytes).set "p.md".toList "y".toUTF8.data.toList)).set "rival".toList
    ((∅ : Dict Text Bytes).set "r.md".toList "x".toUTF8.data.toList)

/-- The file of the other tenant is not found. -/
theorem search_tenant_documents_isolated_three :
    ∃ next result,
      ((World.run plainTools "demo".toList [(0,.ingest true false threeScopes)]).host
        0).searchTenantDocuments equalityTools hybridSettings "x".toList "demo".toList 8 [] [] =
          some (next,result) ∧
      result.hits.map (fun hit => hit.document.source) = ["a.md".toList,"p.md".toList] ∧
      (∀ hit ∈ result.hits, Retrievable plainTools "demo".toList
        (contents [(0,.ingest true false threeScopes)]) "demo".toList [] hit.document) ∧
      (result.hits.map (fun hit => documentKey hit.document)).Nodup ∧ result.hits.length ≤ 8 := by
  have sources : (((World.run plainTools "demo".toList [(0,.ingest true false threeScopes)]).host
      0).searchTenantDocuments equalityTools hybridSettings "x".toList "demo".toList 8 [] []).map
        (fun found => found.2.hits.map (fun hit => hit.document.source)) =
          some ["a.md".toList,"p.md".toList] := by
    decide +kernel
  obtain ⟨⟨next,result⟩,returned,same⟩ := Option.map_eq_some_iff.mp sources
  exact ⟨next,result,returned,same,search_tenant_documents_isolated
    [(0,.ingest true false threeScopes)] 0 (sortingEngine_searches _ _).stored "x".toList 8 []
      returned⟩

end CustomerService.Knowledge
