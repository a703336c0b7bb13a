import CustomerService.FusionDominance

/-! What a course question retrieves: the ranked candidates behind the score gate, and when there are none. -/
namespace CustomerService.Knowledge

open Text

section
variable {Score : Type*} [LinearOrder Score]

section
variable [Field Score]

/-- `SearchHit.passes_min_score`. -/
def SearchHit.passesMinScore (hit : SearchHit Score) (minScore : Score) : Bool :=
  if minScore ≤ 0 then true else decide (minScore ≤ hit.vectorSim) || decide (0 < hit.bm25Score)

structure Retrieved where
  hits : List Document
  lowConfidence : Bool
  rejectedLowScore : Bool

/-- The part of `retrieve_course_docs` between the search and the expansion of its hits. -/
def gateHits (minScore : Score) (k : Nat) (courseCode : Text) (result : TenantSearchResult Score) : Retrieved :=
  let passing := ((result.hits.filter (fun hit => hit.passesMinScore minScore)).map SearchHit.document).take k
  let low := (result.hits.take k).any SearchHit.lowConfidence
  if passing.isEmpty ∧ courseCode ≠ [] ∧ result.hits ≠ [] then
    let hits := ((result.hits.filter (fun hit => hit.lowConfidence || hit.passesMinScore 0)).map
      SearchHit.document).take k
    ⟨hits,low || result.lowConfidenceFallback,hits.isEmpty⟩
  else ⟨passing,low,!result.hits.isEmpty && passing.isEmpty⟩

end

/-- The bounds that the settings are checked for when they are read. -/
structure RagSettings.Checked (settings : RagSettings) : Prop where
  rerankFetchK : 1 ≤ settings.ragRerankFetchK
  rerankTopK : 1 ≤ settings.ragRerankTopK
  fetchKMin : 1 ≤ settings.ragFetchKMin
  fetchKMax : settings.ragFetchKMin ≤ settings.ragFetchKMax

section
variable [Field Score] (search : SearchTools Score)
  (settings : RagSettings)

/-- The search behind `retrieve_course_docs`, and its gate. -/
def Host.retrieveCourseHits (host : Host) (minScore : Score) (query tenantId : Text) (k : Nat) (courseCode : Text)
    (retrievalQueries : List Text) : Option (Host × Retrieved) :=
  (host.searchTenantDocuments search settings query tenantId k courseCode retrievalQueries).map (fun found =>
    (found.1,gateHits minScore k courseCode found.2))

def fetchLimit (query : Text) (k : Nat) (courseCode : Text) : Nat :=
  if settings.ragDynamicKEnabled then (resolveRetrievalPlan settings query k courseCode).fetchK else fixedFetchK k

def fuseLimit (fetchK : Nat) : Nat :=
  if settings.ragRerankEnabled then max fetchK settings.ragRerankFetchK else fetchK

/-- What the searches rank, one entry for each query that is searched. -/
def Host.rankings (host : Host) (query tenantId : Text) (k : Nat) (courseCode : Text)
    (retrievalQueries : List Text) : Option (Host × List (Ranked Score)) :=
  let queries := activeQueries query retrievalQueries
  let fetchK := fetchLimit settings query k courseCode
  if 1 < queries.length then host.rankQueries search settings tenantId fetchK courseCode queries
  else (host.rankQuery search settings query tenantId fetchK courseCode).map (fun found => (found.1,[found.2]))

def candidates (limit : Nat) (rankings : List (Ranked Score)) : List (SearchHit Score) :=
  match rankings with
  | [ranked] => ranked.hits search settings limit
  | several => multiQueryFusion search settings limit limit several

end

theorem RagSettings.Checked.fetchLimit_pos {settings : RagSettings} (checked : settings.Checked)
    (query : Text) (k : Nat) (courseCode : Text) : 1 ≤ fetchLimit settings query k courseCode := by
  obtain ⟨_,_,least,most⟩ := checked
  have clamped (value : Nat) : 1 ≤ clamp value settings.ragFetchKMin settings.ragFetchKMax := by
    unfold clamp
    omega
  unfold fetchLimit resolveRetrievalPlan
  dsimp only
  split_ifs
  · exact clamped _
  · exact clamped _
  · exact least.trans most
  · exact clamped _
  · unfold fixedFetchK
    omega

private theorem fuseLimit_pos (settings : RagSettings) {fetchK : Nat} (some' : 1 ≤ fetchK) :
    1 ≤ fuseLimit settings fetchK := by
  unfold fuseLimit
  split_ifs <;> omega

/-! ### Nothing found -/

section
variable [Field Score] {search : SearchTools Score} {settings : RagSettings}

theorem reciprocalRankFusion_nil {rankedLists : List (List Document)} {rrfK limit : Nat} (some' : 1 ≤ limit) :
    reciprocalRankFusion search rankedLists rrfK limit = [] ↔ ∀ ranking ∈ rankedLists, ranking = [] := by
  have matched := @matched_fusion _ _ search rrfK rankedLists
  have present := fun key => @isSome_fusion _ _ search rrfK rankedLists ⟨∅,∅⟩ key
  unfold reciprocalRankFusion
  dsimp only
  generalize rankedLists.foldl (fuseRanking search rrfK) ⟨∅,∅⟩ = fusion at matched present
  have same := perm_sortDescending Prod.snd fusion.scores.entries
  constructor
  · intro none' ranking listed
    cases ranking with
    | nil => rfl
    | cons document rest =>
      have there := (present (documentKey document)).mpr (Or.inr ⟨_,List.mem_map_of_mem listed,List.mem_cons_self⟩)
      obtain ⟨value,held⟩ := Option.isSome_iff_exists.mp there
      have inside := same.symm.subset ((Dict.get?_eq_some _ _ _).mp held)
      cases sorted : sortDescending Prod.snd fusion.scores.entries with
      | nil => rw [sorted] at inside; cases inside
      | cons first others =>
        obtain ⟨count,rfl⟩ : ∃ count, limit = count + 1 := ⟨limit - 1,by omega⟩
        have kept : first ∈ fusion.scores.entries := same.subset (sorted ▸ List.mem_cons_self)
        have found := matched first.1
        rw [(Dict.get?_eq_some _ _ _).mpr kept] at found
        obtain ⟨document',there'⟩ := Option.isSome_iff_exists.mp found
        rw [sorted,List.take_succ_cons,List.filterMap_cons_some (b := (document',first.2))
          (by rw [there']; rfl)] at none'
        cases none'
  · intro none'
    have empty : fusion.scores.entries = [] := by
      rw [List.eq_nil_iff_forall_not_mem]
      intro entry inside
      have there := (present entry.1).mp (Option.isSome_iff_exists.mpr
        ⟨_,(Dict.get?_eq_some _ _ _).mpr inside⟩)
      rcases there with held | ⟨keys,listed,inside⟩
      · cases held
      · obtain ⟨ranking,asked,rfl⟩ := List.mem_map.mp listed
        rw [none' ranking asked] at inside
        cases inside
    have unsorted : sortDescending Prod.snd fusion.scores.entries = [] :=
      List.perm_nil.mp (same.trans (List.Perm.of_eq empty))
    rw [unsorted,List.take_nil]
    rfl

private theorem hits_nil {ranked : Ranked Score} {limit : Nat} (some' : 1 ≤ limit)
    (plain : settings.ragHybridEnabled = false → ranked.bm25 = []) :
    ranked.hits search settings limit = [] ↔ ranked.vector = [] ∧ ranked.bm25 = [] := by
  unfold Ranked.hits
  cases hybrid : settings.ragHybridEnabled with
  | true =>
    rw [if_pos rfl,fuseHits,fusedHits,List.map_eq_nil_iff,reciprocalRankFusion_nil some']
    simp
  | false =>
    rw [if_neg (by simp),vectorHits,List.map_eq_nil_iff,List.take_eq_nil_iff,plain hybrid]
    simp
    omega

private theorem candidates_nil {rankings : List (Ranked Score)} {limit : Nat} (some' : 1 ≤ limit)
    (plain : ∀ ranked ∈ rankings, settings.ragHybridEnabled = false → ranked.bm25 = []) :
    candidates search settings limit rankings = [] ↔
      ∀ ranked ∈ rankings, ranked.vector = [] ∧ ranked.bm25 = [] := by
  have each : ∀ ranked ∈ rankings, (ranked.hits search settings limit = [] ↔ ranked.vector = [] ∧ ranked.bm25 = []) :=
    fun ranked asked => hits_nil some' (plain ranked asked)
  have several : multiQueryFusion search settings limit limit rankings = [] ↔
      ∀ ranked ∈ rankings, ranked.vector = [] ∧ ranked.bm25 = [] := by
    rw [multiQueryFusion,hitsFromRankedLists,fusedHits,List.map_eq_nil_iff,reciprocalRankFusion_nil some',
      List.forall_mem_map]
    refine forall₂_congr (fun ranked asked => ?_)
    rw [List.map_eq_nil_iff,each ranked asked]
  unfold candidates
  split
  · rename_i ranked
    rw [List.forall_mem_singleton]
    exact each ranked List.mem_cons_self
  · exact several

end

/-! ### Order -/

def BestFirst {Item : Type*} (score : Item → Score) (items : List Item) : Prop :=
  items.Pairwise (fun first second => score second ≤ score first)

theorem bestFirst_fusedHits [Field Score] {fused : List (Document × Score)} (ordered : BestFirst Prod.snd fused)
    (vectorMap bm25Map : Dict (Text × Text) Score) :
    BestFirst SearchHit.score (fusedHits fused vectorMap bm25Map) := by
  unfold BestFirst fusedHits
  rw [List.pairwise_map]
  exact ordered

section
variable [Field Score] {search : SearchTools Score} {settings : RagSettings}

private theorem bestFirst_fusion (rankedLists : List (List Document)) (rrfK limit : Nat) :
    BestFirst Prod.snd (reciprocalRankFusion search rankedLists rrfK limit) := by
  unfold BestFirst reciprocalRankFusion
  dsimp only
  refine List.Pairwise.filterMap _ ?_ ((sorted_sortDescending _ _).sublist (List.take_sublist _ _))
  intro first second below one found other found'
  obtain ⟨_,_,rfl⟩ := Option.map_eq_some_iff.mp found
  obtain ⟨_,_,rfl⟩ := Option.map_eq_some_iff.mp found'
  exact below

/-- What `_search_vector` and `_search_bm25` rank: each key once, the most similar first, and nothing lexical when
that search is off. -/
structure Ranked.Sound (settings : RagSettings) (ranked : Ranked Score) : Prop where
  ordered : BestFirst Prod.snd ranked.vector
  plain : settings.ragHybridEnabled = false → ranked.bm25 = []
  vectorOnce : (ranked.vector.map hitKey).Nodup
  bm25Once : (ranked.bm25.map hitKey).Nodup
  similarities : ∀ found ∈ ranked.vector, 0 ≤ found.2
  weights : ∀ found ∈ ranked.bm25, 0 ≤ found.2

private theorem bestFirst_hits {ranked : Ranked Score} (sound : ranked.Sound settings) (limit : Nat) :
    BestFirst SearchHit.score (ranked.hits search settings limit) := by
  unfold Ranked.hits
  split_ifs
  · exact bestFirst_fusedHits (bestFirst_fusion _ _ _) _ _
  · unfold BestFirst vectorHits
    rw [List.pairwise_map]
    exact sound.ordered.sublist (List.take_sublist _ _)

private theorem bestFirst_candidates {rankings : List (Ranked Score)}
    (sound : ∀ ranked ∈ rankings, ranked.Sound settings) (limit : Nat) :
    BestFirst SearchHit.score (candidates search settings limit rankings) := by
  unfold candidates
  split
  · exact bestFirst_hits (sound _ List.mem_cons_self) limit
  · exact bestFirst_fusedHits (bestFirst_fusion _ _ _) _ _

private theorem confident_candidates {rankings : List (Ranked Score)} {limit : Nat} {hit : SearchHit Score}
    (listed : hit ∈ candidates search settings limit rankings) : hit.lowConfidence = false := by
  have fused {items : List (Document × Score)} {vectorMap bm25Map : Dict (Text × Text) Score}
      (inside : hit ∈ fusedHits items vectorMap bm25Map) : hit.lowConfidence = false := by
    obtain ⟨_,_,rfl⟩ := List.mem_map.mp inside
    rfl
  unfold candidates at listed
  split at listed
  · unfold Ranked.hits at listed
    split_ifs at listed
    · exact fused listed
    · obtain ⟨_,_,rfl⟩ := List.mem_map.mp listed
      rfl
  · exact fused listed

end

/-! ### The scores of a hit -/

section
variable [Field Score]

/-- The score that searches give to a key: the greatest of those it is ranked with, and zero where it is not ranked. -/
structure ScoredBy (lists : List (List (Document × Score))) (key : Text × Text) (score : Score) : Prop where
  greatest : ∀ ranked ∈ lists, ∀ found ∈ ranked, documentKey found.1 = key → found.2 ≤ score
  given : (∃ ranked ∈ lists, ∃ found ∈ ranked, documentKey found.1 = key ∧ found.2 = score) ∨
    score = 0 ∧ ∀ ranked ∈ lists, ∀ found ∈ ranked, documentKey found.1 ≠ key

omit [LinearOrder Score] [Field Score] in
private theorem get?_scoreMap {ranked : List (Document × Score)} (once : (ranked.map hitKey).Nodup)
    (key : Text × Text) (score : Score) :
    (scoreMap ranked).get? key = some score ↔ ∃ found ∈ ranked, documentKey found.1 = key ∧ found.2 = score := by
  have entries : (scoreMap ranked).entries = ranked.map (fun hit => (documentKey hit.1,hit.2)) := by
    apply Dict.update_disjoint
    rwa [Dict.entries_empty,List.map_nil,List.nil_append,List.map_map]
  rw [Dict.get?_eq_some,entries,List.mem_map]
  exact exists_congr (fun found => and_congr_right (fun _ => Prod.mk.injEq .. ▸ Iff.rfl))

private theorem scoredBy_scoreMap {ranked : List (Document × Score)} (once : (ranked.map hitKey).Nodup)
    (key : Text × Text) : ScoredBy [ranked] key ((scoreMap ranked).getD key 0) := by
  cases held : (scoreMap ranked).get? key with
  | none =>
    rw [Dict.getD_of_none held]
    have missing : ∀ found ∈ ranked, documentKey found.1 ≠ key := by
      intro found listed same
      rw [(get?_scoreMap once key found.2).mpr ⟨found,listed,same,rfl⟩] at held
      cases held
    refine ⟨List.forall_mem_singleton.mpr (fun found listed same => absurd same (missing found listed)),
      Or.inr ⟨rfl,List.forall_mem_singleton.mpr missing⟩⟩
  | some score =>
    rw [Dict.getD_of_some held]
    refine ⟨List.forall_mem_singleton.mpr (fun found listed same => ?_),
      Or.inl ⟨ranked,List.mem_singleton_self _,(get?_scoreMap once key score).mp held⟩⟩
    rw [(get?_scoreMap once key found.2).mpr ⟨found,listed,same,rfl⟩] at held
    exact (Option.some.inj held).le

theorem ScoredBy.append {lists others : List (List (Document × Score))} {key : Text × Text} {first second : Score}
    (before : ScoredBy lists key first) (after : ScoredBy others key second) (low : 0 ≤ first) (low' : 0 ≤ second) :
    ScoredBy (lists ++ others) key (max first second) := by
  constructor
  · intro ranked listed found inside same
    rcases List.mem_append.mp listed with early | late
    · exact (before.greatest ranked early found inside same).trans (le_max_left _ _)
    · exact (after.greatest ranked late found inside same).trans (le_max_right _ _)
  · rcases before.given with ⟨ranked,listed,one⟩ | ⟨rfl,missing⟩
    · rcases after.given with ⟨ranked',listed',two⟩ | ⟨rfl,_⟩
      · rcases le_total first second with below | below
        · rw [max_eq_right below]
          exact Or.inl ⟨ranked',List.mem_append_right _ listed',two⟩
        · rw [max_eq_left below]
          exact Or.inl ⟨ranked,List.mem_append_left _ listed,one⟩
      · rw [max_eq_left low]
        exact Or.inl ⟨ranked,List.mem_append_left _ listed,one⟩
    · rw [max_eq_right low']
      rcases after.given with ⟨ranked,listed,two⟩ | ⟨nothing,missing'⟩
      · exact Or.inl ⟨ranked,List.mem_append_right _ listed,two⟩
      · refine Or.inr ⟨nothing,fun ranked listed => ?_⟩
        exact (List.mem_append.mp listed).elim (missing ranked) (missing' ranked)

theorem ScoredBy.nonneg {lists : List (List (Document × Score))} {key : Text × Text} {score : Score}
    (scored : ScoredBy lists key score) (low : ∀ ranked ∈ lists, ∀ found ∈ ranked, 0 ≤ found.2) : 0 ≤ score := by
  rcases scored.given with ⟨ranked,listed,found,inside,_,rfl⟩ | ⟨rfl,_⟩
  · exact low ranked listed found inside
  · exact le_refl 0

private theorem scoredBy_maximumMap (lists : List (List (Document × Score)))
    (once : ∀ ranked ∈ lists, (ranked.map hitKey).Nodup)
    (low : ∀ ranked ∈ lists, ∀ found ∈ ranked, 0 ≤ found.2) (key : Text × Text) :
    ScoredBy lists key ((maximumMap (lists.map scoreMap)).getD key 0) := by
  induction lists using List.reverseRecOn with
  | nil => exact ⟨nofun,Or.inr ⟨rfl,nofun⟩⟩
  | append_singleton lists ranked ih =>
    have first := ih (fun each listed => once each (List.mem_append_left _ listed))
      (fun each listed => low each (List.mem_append_left _ listed))
    have last : ranked ∈ lists ++ [ranked] := List.mem_append_right _ (List.mem_singleton_self _)
    have second := scoredBy_scoreMap (once ranked last) key
    have before := first.nonneg (fun each listed => low each (List.mem_append_left _ listed))
    have after := second.nonneg (List.forall_mem_singleton.mpr (low ranked last))
    have whole : (maximumMap ((lists ++ [ranked]).map scoreMap)).get? key = ((maximumMap (lists.map scoreMap)).mergeWith
        (fun previous value => max (previous.getD 0) value) (scoreMap ranked).entries).get? key := by
      rw [maximumMap,List.map_append,List.foldl_append]
      rfl
    rw [Dict.get?_mergeWith] at whole
    have greater : (maximumMap ((lists ++ [ranked]).map scoreMap)).getD key 0 =
        max ((maximumMap (lists.map scoreMap)).getD key 0) ((scoreMap ranked).getD key 0) := by
      cases held : (scoreMap ranked).get? key with
      | none =>
        rw [held] at whole
        rw [Dict.getD,whole,Dict.getD_of_none held,max_eq_left before]
        rfl
      | some score =>
        rw [held] at whole
        rw [Dict.getD,whole,Dict.getD_of_some held]
        rfl
    rw [greater]
    exact first.append second before after

theorem scored_candidates {search : SearchTools Score} {settings : RagSettings} {rankings : List (Ranked Score)}
    (sound : ∀ ranked ∈ rankings, ranked.Sound settings) {limit : Nat} {hit : SearchHit Score}
    (listed : hit ∈ candidates search settings limit rankings) :
    ScoredBy (rankings.map Ranked.vector) (documentKey hit.document) hit.vectorSim ∧
      ScoredBy (rankings.map Ranked.bm25) (documentKey hit.document) hit.bm25Score := by
  unfold candidates at listed
  split at listed
  · rename_i ranked
    have facts := sound ranked List.mem_cons_self
    unfold Ranked.hits at listed
    split_ifs at listed with hybrid
    · obtain ⟨_,_,rfl⟩ := List.mem_map.mp listed
      exact ⟨scoredBy_scoreMap facts.vectorOnce _,scoredBy_scoreMap facts.bm25Once _⟩
    · obtain ⟨found,inside,rfl⟩ := List.mem_map.mp listed
      have there := List.mem_of_mem_take inside
      constructor
      · refine ⟨List.forall_mem_singleton.mpr (fun other listed same => ?_),
          Or.inl ⟨_,List.mem_singleton_self _,found,there,rfl,rfl⟩⟩
        rw [List.inj_on_of_nodup_map facts.vectorOnce listed there same]
      · rw [List.map_singleton,facts.plain (Bool.eq_false_iff.mpr hybrid)]
        exact ⟨List.forall_mem_singleton.mpr nofun,Or.inr ⟨rfl,List.forall_mem_singleton.mpr nofun⟩⟩
  · obtain ⟨_,_,rfl⟩ := List.mem_map.mp listed
    have similar := scoredBy_maximumMap (rankings.map Ranked.vector)
      (List.forall_mem_map.mpr (fun ranked asked => (sound ranked asked).vectorOnce))
      (List.forall_mem_map.mpr (fun ranked asked => (sound ranked asked).similarities))
    have lexical := scoredBy_maximumMap (rankings.map Ranked.bm25)
      (List.forall_mem_map.mpr (fun ranked asked => (sound ranked asked).bm25Once))
      (List.forall_mem_map.mpr (fun ranked asked => (sound ranked asked).weights))
    rw [List.map_map] at similar lexical
    exact ⟨similar _,lexical _⟩

end

/-! ### Reranking -/

/-- A reranked list: as long as there are hits there are some of them left, in the order of their new scores,
and none is left out for one that the model scores lower. -/
structure Reranks (search : SearchTools Score) (query : Text) (topK : Nat)
    (hits reranked : List (SearchHit Score)) : Prop where
  few : reranked.length ≤ topK
  empty : reranked = [] ↔ hits = []
  ordered : BestFirst SearchHit.score reranked
  kept : ∀ hit ∈ reranked, ∃ original ∈ hits, hit = { original with score := hit.score }
  best : ∀ scores, search.predictScores query (hits.map (fun hit => hit.document.pageContent)) = some scores →
    ∀ pair ∈ hits.zip scores, { pair.1 with score := pair.2 } ∈ reranked ∨ hits.length = 1 ∨
      ∀ hit ∈ reranked, pair.2 ≤ hit.score

private theorem reranks {search : SearchTools Score} {query : Text} {hits reranked : List (SearchHit Score)}
    {topK : Nat} (some' : 1 ≤ topK) (ordered : BestFirst SearchHit.score hits)
    (result : rerankHits search query hits topK = some reranked) : Reranks search query topK hits reranked := by
  unfold rerankHits at result
  have positive : topK ≠ 0 := by omega
  split_ifs at result with none' single
  · cases result
    have empty : hits = [] := by simpa [positive] using none'
    subst empty
    exact ⟨Nat.zero_le _,Iff.rfl,List.Pairwise.nil,nofun,fun _ _ pair inside => by cases inside⟩
  · cases result
    exact ⟨by omega,Iff.rfl,ordered,fun hit inside => ⟨hit,inside,rfl⟩,fun _ _ _ _ => Or.inr (Or.inl single)⟩
  · cases predicted : search.predictScores query (hits.map (fun hit => hit.document.pageContent)) with
    | none =>
      rw [predicted] at result
      cases result
      refine ⟨List.length_take_le _ _,?_,ordered.sublist (List.take_sublist _ _),
        fun hit inside => ⟨hit,List.mem_of_mem_take inside,rfl⟩,
        fun scores same => by rw [predicted] at same; cases same⟩
      rw [List.take_eq_nil_iff]
      exact or_iff_right positive
    | some scores =>
      rw [predicted] at result
      dsimp only at result
      split_ifs at result with whole
      cases result
      have same := perm_sortDescending Prod.snd (hits.zip scores)
      have sorted := sorted_sortDescending Prod.snd (hits.zip scores)
      refine ⟨by rw [List.length_map]; exact List.length_take_le _ _,?_,?_,?_,?_⟩
      · rw [List.map_eq_nil_iff,List.take_eq_nil_iff,or_iff_right positive]
        have size := same.length_eq
        rw [List.length_zip,whole,Nat.min_self] at size
        rw [← List.length_eq_zero_iff,size,List.length_eq_zero_iff]
      · unfold BestFirst
        rw [List.pairwise_map]
        exact sorted.sublist (List.take_sublist _ _)
      · intro hit inside
        obtain ⟨pair,listed,rfl⟩ := List.mem_map.mp inside
        exact ⟨pair.1,(List.of_mem_zip (same.subset (List.mem_of_mem_take listed))).1,rfl⟩
      · intro other same' pair inside
        cases predicted.symm.trans same'
        have there := same.symm.subset inside
        rw [← List.take_append_drop topK (sortDescending Prod.snd (hits.zip scores))] at there sorted
        rcases List.mem_append.mp there with kept | left
        · exact Or.inl (List.mem_map_of_mem kept)
        · refine Or.inr (Or.inr (fun hit listed => ?_))
          obtain ⟨pair',kept,rfl⟩ := List.mem_map.mp listed
          exact (List.pairwise_append.mp sorted).2.2 pair' kept pair left

/-! ### The search -/

section
variable [Field Score] {search : SearchTools Score}
  {settings : RagSettings} {host next : Host} {query tenantId courseCode : Text} {fetchK k : Nat}

theorem antitone_l2ToSimilarity [IsStrictOrderedRing Score] : Antitone (l2ToSimilarity : Score → Score) := by
  intro first second below
  have half : first / 2 ≤ second / 2 := div_le_div_of_nonneg_right below zero_le_two
  exact max_le_max_left 0 (sub_le_sub_left half 1)

variable (search query tenantId courseCode fetchK) in
theorem sound_searchVector [IsStrictOrderedRing Score] (indexes : Stores) :
    let vector := searchVector search.engine indexes query tenantId fetchK courseCode
    BestFirst Prod.snd vector ∧ (vector.map hitKey).Nodup ∧ ∀ found ∈ vector, 0 ≤ found.2 := by
  intro vector
  refine ⟨?_,?_,?_⟩
  · have total : Std.Total (fun first second : Document × Score => first.2 ≤ second.2) :=
      ⟨fun first second => le_total first.2 second.2⟩
    have trans : IsTrans (Document × Score) (fun first second => first.2 ≤ second.2) :=
      ⟨fun _ _ _ before after => le_trans before after⟩
    have nearest := List.pairwise_insertionSort (fun first second : Document × Score => first.2 ≤ second.2)
      (scoredVectors search.engine indexes query tenantId fetchK courseCode)
    unfold vector BestFirst searchVector
    rw [List.pairwise_map,rankVectors_eq,List.nil_append]
    refine (nearest.sublist ?_).imp (fun below => antitone_l2ToSimilarity below)
    exact (List.take_sublist _ _).trans (List.filter_sublist.trans
      ((Ranking.distinctBy_sublist _ _).trans List.filter_sublist))
  · have documents : vector.map hitKey = (vector.map Prod.fst).map documentKey := by
      rw [List.map_map]
      rfl
    rw [documents,searchVector_documents]
    exact (Ranking.nodup_distinctBy documentKey _).sublist ((List.take_sublist _ _).map documentKey)
  · intro found listed
    obtain ⟨hit,_,rfl⟩ := List.mem_map.mp listed
    exact le_max_left _ _

private theorem positive_bm25Search {documents : List Document} {k : Nat} {hit : Document × Score}
    (member : hit ∈ bm25Search search documents query k) : 0 < hit.2 := by
  unfold bm25Search at member
  dsimp only at member
  split_ifs at member
  · cases member
  · have sorted := List.mem_of_mem_take member
    rw [(perm_sortDescending _ _).mem_iff] at sorted
    exact of_decide_eq_true (List.mem_filter.mp sorted).2

private theorem sound_searchBm25 {ranked : List (Document × Score)}
    (got : host.searchBm25 search query tenantId fetchK courseCode = some (next,ranked)) :
    (ranked.map hitKey).Nodup ∧ ∀ found ∈ ranked, 0 ≤ found.2 := by
  obtain ⟨reached,_,same⟩ := Option.map_eq_some_iff.mp got
  cases same
  have run := List.foldlRecOn (searchScopes (reached.memory.indexes.getD ∅) tenantId courseCode)
    (bm25Scope search query (if courseCode ≠ [] then max (fetchK * 4) 16 else fetchK) courseCode)
    (b := (reached,∅))
    (motive := fun state : Host × Dict (Text × Text) (Document × Score) =>
      ∀ key hit, state.2.get? key = some hit → documentKey hit.1 = key ∧ 0 < hit.2)
    (fun _ _ found => nomatch found) (fun state kept scope _ => by
      unfold bm25Scope
      cases (state.1.bm25Index scope).2 with
      | none => exact kept
      | some documents =>
        refine List.foldlRecOn (bm25Search search documents query _) (keepBest courseCode)
          (motive := fun best : Dict (Text × Text) (Document × Score) =>
            ∀ key hit, best.get? key = some hit → documentKey hit.1 = key ∧ 0 < hit.2) kept
          (fun best held hit member =>
            keepBest_holds (fun key hit => documentKey hit.1 = key ∧ 0 < hit.2) held (fun _ => ⟨rfl,?_⟩))
        exact positive_bm25Search member)
  generalize (searchScopes (reached.memory.indexes.getD ∅) tenantId courseCode).foldl
    (bm25Scope search query (if courseCode ≠ [] then max (fetchK * 4) 16 else fetchK) courseCode)
      (reached,∅) = last at run
  have same := perm_sortDescending Prod.snd last.2.values
  have held : ∀ entry ∈ last.2.entries, documentKey entry.2.1 = entry.1 ∧ 0 < entry.2.2 := fun entry inside =>
    run entry.1 entry.2 ((Dict.get?_eq_some _ _ _).mpr inside)
  have keys : last.2.values.map hitKey = last.2.keys := by
    rw [Dict.values,Dict.keys,List.map_map]
    exact List.map_congr_left (fun entry inside => (held entry inside).1)
  constructor
  · rw [List.map_take]
    refine List.Nodup.sublist (List.take_sublist _ _) ((same.map hitKey).nodup_iff.mpr ?_)
    rw [keys]
    exact last.2.distinct
  · intro found listed
    obtain ⟨entry,inside,rfl⟩ := List.mem_map.mp (same.subset (List.mem_of_mem_take listed))
    exact (held entry inside).2.le

private theorem sound_rankQuery [IsStrictOrderedRing Score] {ranked : Ranked Score}
    (got : host.rankQuery search settings query tenantId fetchK courseCode = some (next,ranked)) :
    ranked.Sound settings := by
  unfold Host.rankQuery at got
  cases first : host.searchVector search query tenantId fetchK courseCode with
  | none => simp [first] at got
  | some pair =>
    obtain ⟨middle,vector⟩ := pair
    obtain ⟨reached,_,same⟩ := Option.map_eq_some_iff.mp first
    cases same
    rw [first] at got
    dsimp only at got
    obtain ⟨ordered,once,low⟩ := sound_searchVector search query tenantId courseCode fetchK
      (middle.memory.indexes.getD ∅)
    split_ifs at got with hybrid
    · cases second : middle.searchBm25 search query tenantId fetchK courseCode with
      | none => simp [second] at got
      | some pair =>
        rw [second] at got
        cases got
        obtain ⟨once',low'⟩ := sound_searchBm25 second
        exact ⟨ordered,(fun off => by rw [hybrid] at off; cases off),once,once',low,low'⟩
    · cases got
      exact ⟨ordered,fun _ => rfl,once,List.nodup_nil,low,nofun⟩

private theorem sound_rankQueries [IsStrictOrderedRing Score] {queries : List Text}
    {rankings : List (Ranked Score)}
    (got : host.rankQueries search settings tenantId fetchK courseCode queries = some (next,rankings)) :
    rankings.length = queries.length ∧ ∀ ranked ∈ rankings, ranked.Sound settings := by
  induction queries generalizing host rankings with
  | nil =>
    cases got
    exact ⟨rfl,nofun⟩
  | cons query rest ih =>
    unfold Host.rankQueries at got
    cases first : host.rankQuery search settings query tenantId fetchK courseCode with
    | none => simp [first] at got
    | some pair =>
      obtain ⟨middle,ranked⟩ := pair
      rw [first] at got
      obtain ⟨⟨last,others⟩,second,same⟩ := Option.map_eq_some_iff.mp got
      cases same
      obtain ⟨size,sound⟩ := ih second
      refine ⟨congrArg Nat.succ size,List.forall_mem_cons.mpr ⟨sound_rankQuery first,sound⟩⟩

theorem found_candidates [IsStrictOrderedRing Score] {retrievalQueries : List Text} {limit : Nat} {fused : List (SearchHit Score)}
    {ranked : Ranked Score}
    (got : (if 1 < (activeQueries query retrievalQueries).length then
        host.multiQueryHits search settings (activeQueries query retrievalQueries) tenantId
          (fetchLimit settings query k courseCode) limit courseCode
      else host.singleQueryHits search settings query tenantId (fetchLimit settings query k courseCode) limit
        courseCode) = some (next,fused,ranked)) :
    ∃ rankings, host.rankings search settings query tenantId k courseCode retrievalQueries = some (next,rankings) ∧
      (∀ each ∈ rankings, each.Sound settings) ∧ ranked ∈ rankings ∧
      fused = candidates search settings limit rankings := by
  unfold Host.rankings
  dsimp only
  split_ifs at got ⊢ with several
  · rw [multiQueryHits_eq] at got
    obtain ⟨⟨last,rankings⟩,searched,same⟩ := Option.map_eq_some_iff.mp got
    cases same
    obtain ⟨size,sound⟩ := sound_rankQueries searched
    rw [← size] at several
    refine ⟨rankings,searched,sound,?_,?_⟩
    · rw [List.getLastD_eq_getLast?]
      cases listed : rankings.getLast? with
      | none =>
        rw [List.getLast?_eq_none_iff.mp listed] at several
        cases several
      | some ranked => exact List.mem_of_getLast? listed
    · cases rankings with
      | nil => cases several
      | cons first rest =>
        cases rest with
        | nil => exact absurd several (lt_irrefl 1)
        | cons second rest => rfl
  · obtain ⟨⟨last,found⟩,searched,same⟩ := Option.map_eq_some_iff.mp got
    cases same
    refine ⟨[found],by rw [searched]; rfl,?_,List.mem_singleton_self _,rfl⟩
    rw [List.forall_mem_singleton]
    exact sound_rankQuery searched

/-- The hits of a search: none only when nothing is ranked, the best first, each with the similarity and the
lexical score that the searches give to its key, and never one of low confidence. Where the reranking model scores
them, no candidate is left out for one with a lower score. -/
structure Searched (search : SearchTools Score) (settings : RagSettings) (query : Text) (limit : Nat)
    (rankings : List (Ranked Score)) (result : TenantSearchResult Score) : Prop where
  empty : result.hits = [] ↔ ∀ ranked ∈ rankings, ranked.vector = [] ∧ ranked.bm25 = []
  ordered : BestFirst SearchHit.score result.hits
  confident : result.lowConfidenceFallback = false ∧ ∀ hit ∈ result.hits, hit.lowConfidence = false
  scored : ∀ hit ∈ result.hits, ScoredBy (rankings.map Ranked.vector) (documentKey hit.document) hit.vectorSim ∧
    ScoredBy (rankings.map Ranked.bm25) (documentKey hit.document) hit.bm25Score
  reranked : settings.ragRerankEnabled = true → ∀ scores, search.predictScores query
    ((candidates search settings limit rankings).map (fun hit => hit.document.pageContent)) = some scores →
      ∀ pair ∈ (candidates search settings limit rankings).zip scores,
        { pair.1 with score := pair.2 } ∈ result.hits ∨ (candidates search settings limit rankings).length = 1 ∨
          ∀ hit ∈ result.hits, pair.2 ≤ hit.score

private theorem search_searched [IsStrictOrderedRing Score] (checked : settings.Checked) (asked : 1 ≤ k)
    {retrievalQueries : List Text} {result : TenantSearchResult Score}
    (returned : host.searchTenantDocuments search settings query tenantId k courseCode retrievalQueries =
      some (next,result)) :
    ∃ rankings, host.rankings search settings query tenantId k courseCode retrievalQueries = some (next,rankings) ∧
      Searched search settings query (fuseLimit settings (fetchLimit settings query k courseCode)) rankings
        result := by
  unfold Host.searchTenantDocuments at returned
  dsimp only at returned
  split at returned
  · cases returned
  · rename_i middle fused ranked found
    obtain ⟨rankings,searched,sound,last,same⟩ := found_candidates found
    obtain ⟨hits,reranked,shape⟩ := Option.map_eq_some_iff.mp returned
    have limit := fuseLimit_pos settings (checked.fetchLimit_pos query k courseCode)
    have none' : candidates search settings (fuseLimit settings (fetchLimit settings query k courseCode)) rankings =
        [] ↔ ∀ each ∈ rankings, each.vector = [] ∧ each.bm25 = [] :=
      candidates_nil limit (fun each asked => (sound each asked).plain)
    have ordered : BestFirst SearchHit.score (candidates search settings
        (fuseLimit settings (fetchLimit settings query k courseCode)) rankings) := bestFirst_candidates sound _
    have fused' : fused = candidates search settings (fuseLimit settings (fetchLimit settings query k courseCode))
        rankings := same
    rw [← fused'] at none' ordered
    have kept : (hits = [] ↔ fused = []) ∧ BestFirst SearchHit.score hits ∧
        (∀ hit ∈ hits, ∃ original ∈ fused, hit = { original with score := hit.score }) ∧ hits.length ≤ k ∧
        (settings.ragRerankEnabled = true → ∀ scores, search.predictScores query
          (fused.map (fun hit => hit.document.pageContent)) = some scores → ∀ pair ∈ fused.zip scores,
            { pair.1 with score := pair.2 } ∈ hits ∨ fused.length = 1 ∨ ∀ hit ∈ hits, pair.2 ≤ hit.score) := by
      split_ifs at reranked with rerank
      · have least := checked.rerankTopK
        have facts := reranks (by omega) ordered reranked
        exact ⟨facts.empty,facts.ordered,facts.kept,facts.few.trans (Nat.min_le_right _ _),fun _ => facts.best⟩
      · cases reranked
        refine ⟨?_,ordered.sublist (List.take_sublist _ _),fun hit inside => ⟨hit,List.mem_of_mem_take inside,rfl⟩,
          List.length_take_le _ _,?_⟩
        · rw [List.take_eq_nil_iff]
          exact or_iff_right (by omega)
        · intro on scores _ pair inside
          have bare : fused = [] := by simpa [on] using rerank
          rw [bare] at inside
          cases inside
    obtain ⟨empty,best,origin,few,models⟩ := kept
    have relaxed : (if courseCode ≠ [] ∧ hits.isEmpty = true then relaxedHits search settings ranked k
        else []) = [] := by
      split_ifs with bare
      · have nothing := none'.mp (empty.mp (List.isEmpty_iff.mp bare.2)) ranked last
        rw [relaxedHits,(hits_nil asked (sound ranked last).plain).mpr nothing]
        rfl
      · rfl
    rw [relaxed] at shape
    cases shape
    refine ⟨rankings,searched,?_,?_,⟨rfl,?_⟩,?_,?_⟩
    · rw [List.isEmpty_nil,if_pos rfl,List.take_eq_nil_iff,or_iff_right (by omega),empty]
      exact none'
    · exact best.sublist (List.take_sublist _ _)
    · intro hit inside
      obtain ⟨original,there,copied⟩ := origin hit (List.mem_of_mem_take inside)
      rw [copied]
      rw [fused'] at there
      have sure := confident_candidates there
      exact sure
    · intro hit inside
      obtain ⟨original,there,copied⟩ := origin hit (List.mem_of_mem_take inside)
      rw [fused'] at there
      rw [copied]
      have scores := scored_candidates sound there
      exact scores
    · rw [← fused']
      intro on scores predicted pair inside
      have all : (if ([] : List (SearchHit Score)).isEmpty = true then hits else []).take k = hits := by
        rw [List.isEmpty_nil,if_pos rfl]
        exact List.take_of_length_le few
      rw [all]
      exact models on scores predicted pair inside

end

/-! ### The gate -/

section
variable [Field Score] {search : SearchTools Score} {settings : RagSettings} {query : Text}
  {fetchK k : Nat}

/-- A document that a lexical search finds, or a vector search with the similarity asked for. -/
def Recalled (minScore : Score) (rankings : List (Ranked Score)) (document : Document) : Prop :=
  ∃ ranked ∈ rankings, (∃ found ∈ ranked.bm25, documentKey found.1 = documentKey document) ∨
    ∃ found ∈ ranked.vector, documentKey found.1 = documentKey document ∧ minScore ≤ found.2

/-- A question is left without documents only when nothing is ranked for it or, if no course is bound, when
none of the best hits is recalled; only recalled documents are used where there is one. -/
structure Grounded (minScore : Score) (courseCode : Text) (rankings : List (Ranked Score))
    (result : TenantSearchResult Score) (retrieved : Retrieved) : Prop where
  recalled : 0 < minScore → ∀ document ∈ retrieved.hits, Recalled minScore rankings document ∨
    courseCode ≠ [] ∧ ∀ hit ∈ result.hits, hit.passesMinScore minScore = false
  empty : retrieved.hits = [] ↔ (∀ ranked ∈ rankings, ranked.vector = [] ∧ ranked.bm25 = []) ∨
    courseCode = [] ∧ ∀ hit ∈ result.hits, hit.passesMinScore minScore = false
  rejected : retrieved.rejectedLowScore = true ↔ retrieved.hits = [] ∧ result.hits ≠ []
  confident : retrieved.lowConfidence = false
  ordered : ∃ chosen : List (SearchHit Score), chosen.Sublist result.hits ∧
    retrieved.hits = chosen.map SearchHit.document

private theorem recalled_of_passing {minScore : Score} (positive : 0 < minScore) {rankings : List (Ranked Score)}
    {result : TenantSearchResult Score} (searched : Searched search settings query fetchK rankings result)
    {hit : SearchHit Score} (listed : hit ∈ result.hits) (passes : hit.passesMinScore minScore = true) :
    Recalled minScore rankings hit.document := by
  rw [SearchHit.passesMinScore,if_neg (not_le.mpr positive),Bool.or_eq_true,decide_eq_true_eq,
    decide_eq_true_eq] at passes
  obtain ⟨similarity,weight⟩ := searched.scored hit listed
  rcases passes with similar | lexical
  · rcases similarity.given with ⟨vector,ranking,found,there,same,equal⟩ | ⟨zero,_⟩
    · obtain ⟨ranked,asked,rfl⟩ := List.mem_map.mp ranking
      exact ⟨ranked,asked,Or.inr ⟨found,there,same,equal ▸ similar⟩⟩
    · rw [zero] at similar
      exact absurd similar (not_le.mpr positive)
  · rcases weight.given with ⟨bm25,ranking,found,there,same,_⟩ | ⟨zero,_⟩
    · obtain ⟨ranked,asked,rfl⟩ := List.mem_map.mp ranking
      exact ⟨ranked,asked,Or.inl ⟨found,there,same⟩⟩
    · rw [zero] at lexical
      exact absurd lexical (lt_irrefl 0)

theorem gate_grounded {minScore : Score} (asked : 1 ≤ k) (courseCode : Text) {rankings : List (Ranked Score)}
    {result : TenantSearchResult Score} (searched : Searched search settings query fetchK rankings result) :
    Grounded minScore courseCode rankings result (gateHits minScore k courseCode result) := by
  have positive : k ≠ 0 := by omega
  have sure : (result.hits.take k).any SearchHit.lowConfidence = false := by
    rw [List.any_eq_false]
    exact fun hit inside => by rw [searched.confident.2 hit (List.mem_of_mem_take inside)]; exact Bool.false_ne_true
  have chosen (keep : SearchHit Score → Bool) : ∃ chosen : List (SearchHit Score), chosen.Sublist result.hits ∧
      ((result.hits.filter keep).map SearchHit.document).take k = chosen.map SearchHit.document :=
    ⟨(result.hits.filter keep).take k,(List.take_sublist _ _).trans List.filter_sublist,List.map_take.symm⟩
  have bare : (((result.hits.filter (fun hit => hit.passesMinScore minScore)).map SearchHit.document).take k
      ).isEmpty = true ↔ ∀ hit ∈ result.hits, hit.passesMinScore minScore = false := by
    rw [List.isEmpty_iff,List.take_eq_nil_iff,or_iff_right positive,List.map_eq_nil_iff,List.filter_eq_nil_iff]
    simp
  unfold gateHits
  dsimp only
  split_ifs with relaxed
  · obtain ⟨low,bound,some'⟩ := relaxed
    have all : ∀ hit ∈ result.hits, (hit.lowConfidence || hit.passesMinScore 0) = true := by
      intro hit _
      rw [SearchHit.passesMinScore,if_pos (le_refl 0),Bool.or_true]
    have full : ((result.hits.filter (fun hit => hit.lowConfidence || hit.passesMinScore 0)).map
        SearchHit.document).take k ≠ [] := by
      rw [List.filter_eq_self.mpr all,ne_eq,List.take_eq_nil_iff,or_iff_right positive,List.map_eq_nil_iff]
      exact some'
    refine ⟨fun _ _ _ => Or.inr ⟨bound,bare.mp low⟩,?_,?_,?_,chosen _⟩
    · refine iff_of_false full ?_
      rintro (nothing | ⟨free,_⟩)
      · exact some' (searched.empty.mpr nothing)
      · exact bound free
    · simp only [List.isEmpty_iff]
      exact (iff_of_false full (fun both => full both.1))
    · simp only [sure,searched.confident.1,Bool.or_false]
  · refine ⟨?_,?_,?_,sure,chosen _⟩
    · intro gated document inside
      obtain ⟨hit,listed,rfl⟩ := List.mem_map.mp (List.mem_of_mem_take inside)
      obtain ⟨there,passes⟩ := List.mem_filter.mp listed
      exact Or.inl (recalled_of_passing gated searched there passes)
    · rw [← List.isEmpty_iff,bare,← searched.empty]
      constructor
      · intro low
        by_cases free : courseCode = []
        · exact Or.inr ⟨free,low⟩
        · by_contra other
          exact relaxed ⟨bare.mpr low,free,fun nothing => other (Or.inl nothing)⟩
      · rintro (nothing | ⟨_,low⟩)
        · rw [nothing]
          exact nofun
        · exact low
    · rw [Bool.and_eq_true,Bool.not_eq_true',List.isEmpty_eq_false_iff,List.isEmpty_iff,and_comm]

variable {host next : Host} {tenantId courseCode : Text}

/-- Course retrieval over any index and any queries. -/
theorem retrieval_is_grounded [IsStrictOrderedRing Score] (checked : settings.Checked)
    (asked : 1 ≤ k) (minScore : Score) {retrievalQueries : List Text} {retrieved : Retrieved}
    (returned : host.retrieveCourseHits search settings minScore query tenantId k courseCode retrievalQueries =
      some (next,retrieved)) :
    ∃ rankings result,
      host.rankings search settings query tenantId k courseCode retrievalQueries = some (next,rankings) ∧
      host.searchTenantDocuments search settings query tenantId k courseCode retrievalQueries =
        some (next,result) ∧
      Searched search settings query (fuseLimit settings (fetchLimit settings query k courseCode)) rankings result ∧
      Grounded minScore courseCode rankings result retrieved := by
  obtain ⟨⟨reached,result⟩,found,same⟩ := Option.map_eq_some_iff.mp returned
  cases same
  obtain ⟨rankings,ranked,searched⟩ := search_searched checked asked found
  exact ⟨rankings,result,ranked,found,searched,gate_grounded asked courseCode searched⟩

end

end

/-- Vectors at distance 0 or 2, and words that are the text itself. -/
def twoStepTools : SearchTools ℚ where
  engine := sortingEngine (fun query text => if query = text then 0 else 2) (fun _ => false)
  tokenize text := [text]
  bm25Scores corpus tokens := corpus.map (fun words => if words = tokens then 1 else 0)
  reciprocal count := 1 / count
  predictScores _ _ := none

/-- The platform's page is among the hits and is not used: it is neither similar nor has it the words. -/
theorem retrieval_is_grounded_three : ∃ next retrieved,
    ((World.run plainTools "demo".toList [(0,.ingest true false threeScopes)]).host 0).retrieveCourseHits
      twoStepTools hybridSettings (1 / 5) "x".toList "demo".toList 8 [] [] = some (next,retrieved) ∧
    retrieved.hits.map Document.source = ["a.md".toList] ∧
    ∃ rankings result,
      ((World.run plainTools "demo".toList [(0,.ingest true false threeScopes)]).host 0).rankings
        twoStepTools hybridSettings "x".toList "demo".toList 8 [] [] = some (next,rankings) ∧
      ((World.run plainTools "demo".toList [(0,.ingest true false threeScopes)]).host 0).searchTenantDocuments
        twoStepTools hybridSettings "x".toList "demo".toList 8 [] [] = some (next,result) ∧
      Searched twoStepTools hybridSettings "x".toList
        (fuseLimit hybridSettings (fetchLimit hybridSettings "x".toList 8 [])) rankings result ∧
      Grounded (1 / 5) [] rankings result retrieved := by
  have sources : (((World.run plainTools "demo".toList [(0,.ingest true false threeScopes)]).host
      0).retrieveCourseHits twoStepTools hybridSettings (1 / 5) "x".toList "demo".toList 8 [] []).map
        (fun found => found.2.hits.map Document.source) = some ["a.md".toList] := by
    decide +kernel
  obtain ⟨⟨next,retrieved⟩,returned,same⟩ := Option.map_eq_some_iff.mp sources
  exact ⟨next,retrieved,returned,same,retrieval_is_grounded ⟨by decide,by decide,by decide,by decide⟩
    (by decide) (1 / 5) returned⟩

end CustomerService.Knowledge
