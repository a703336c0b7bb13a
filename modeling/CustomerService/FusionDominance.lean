import CustomerService.Dominance
import CustomerService.TenantSearch
import Mathlib.Algebra.Order.Field.Basic
import Mathlib.Algebra.Order.Field.Rat

/-! The fusion of ranked lists puts a document behind each that is ahead of it wherever it is found, also when
the fusions of several queries are fused. -/
namespace CustomerService.Knowledge

open Text Dominance

def documentKeys (documents : List Document) : List (Text × Text) := documents.map documentKey

private theorem documentKeys_cons (document : Document) (rest : List Document) :
    documentKeys (document::rest) = documentKey document::documentKeys rest := rfl

section
variable {Score : Type*}

private theorem lookup_keys_eq {docs : Dict (Text × Text) Document}
    (exact : ∀ key document, docs.get? key = some document → documentKey document = key)
    {entries : List ((Text × Text) × Score)}
    (found : ∀ entry ∈ entries, (docs.get? entry.1).isSome = true) :
    documentKeys ((entries.filterMap (fun entry => (docs.get? entry.1).map (fun document =>
      (document,entry.2)))).map Prod.fst) = entries.map Prod.fst := by
  induction entries with
  | nil => rfl
  | cons entry rest ih =>
    obtain ⟨document,there⟩ := Option.isSome_iff_exists.mp (found entry List.mem_cons_self)
    have others := ih (fun entry later => found entry (List.mem_cons_of_mem _ later))
    rw [List.filterMap_cons_some (by rw [there]; rfl),List.map_cons,List.map_cons,documentKeys_cons,others,
      exact _ _ there]

theorem sorted_sortDescending [LinearOrder Score] {Item : Type*} (score : Item → Score) (items : List Item) :
    (sortDescending score items).Pairwise (fun first second => score second ≤ score first) := by
  have total : Std.Total (fun first second : Item => score second ≤ score first) :=
    ⟨fun first second => le_total (score second) (score first)⟩
  have trans : IsTrans Item (fun first second => score second ≤ score first) :=
    ⟨fun _ _ _ before after => le_trans after before⟩
  exact List.pairwise_insertionSort _ _

variable [Field Score] {search : SearchTools Score} {rrfK : Nat}

variable (search rrfK) in
def rankWeight (rank : Nat) : Score := search.reciprocal (rrfK + rank)

private theorem scores_foldl_fuseRank (ranking : List Document) (rank : Nat) (fusion : Fusion Score)
    (key : Text × Text) :
    ((ranking.zipIdx rank).foldl (fuseRank search rrfK) fusion).scores.getD key 0 =
      fusion.scores.getD key 0 + points (rankWeight search rrfK) rank (documentKeys ranking) key := by
  induction ranking generalizing rank fusion with
  | nil => exact (add_zero _).symm
  | cons document rest ih =>
    rw [List.zipIdx_cons,List.foldl_cons,ih,fuseRank,Dict.getD_set,documentKeys_cons,points]
    by_cases same : documentKey document = key
    · rw [if_pos same.symm,if_pos same,same,add_assoc]
      rfl
    · rw [if_neg (Ne.symm same),if_neg same,zero_add]

private theorem scores_fusion (rankedLists : List (List Document)) (fusion : Fusion Score) (key : Text × Text) :
    (rankedLists.foldl (fuseRanking search rrfK) fusion).scores.getD key 0 =
      fusion.scores.getD key 0 + score (rankWeight search rrfK) (rankedLists.map documentKeys) key := by
  induction rankedLists generalizing fusion with
  | nil => exact (add_zero _).symm
  | cons ranking rest ih =>
    rw [List.foldl_cons,ih,fuseRanking,scores_foldl_fuseRank,List.map_cons,score_cons,add_assoc]

private theorem isSome_foldl_fuseRank (ranking : List Document) (rank : Nat) (fusion : Fusion Score)
    (key : Text × Text) :
    (((ranking.zipIdx rank).foldl (fuseRank search rrfK) fusion).scores.get? key).isSome = true ↔
      (fusion.scores.get? key).isSome = true ∨ key ∈ documentKeys ranking := by
  induction ranking generalizing rank fusion with
  | nil => simp [documentKeys]
  | cons document rest ih =>
    rw [List.zipIdx_cons,List.foldl_cons,ih,fuseRank,Dict.get?_set,documentKeys_cons,
      List.mem_cons]
    by_cases same : key = documentKey document
    · simp [same]
    · simp [same]

theorem isSome_fusion (rankedLists : List (List Document)) (fusion : Fusion Score) (key : Text × Text) :
    ((rankedLists.foldl (fuseRanking search rrfK) fusion).scores.get? key).isSome = true ↔
      (fusion.scores.get? key).isSome = true ∨ ∃ keys ∈ rankedLists.map documentKeys, key ∈ keys := by
  induction rankedLists generalizing fusion with
  | nil => simp
  | cons ranking rest ih =>
    rw [List.foldl_cons,ih,fuseRanking,isSome_foldl_fuseRank,List.map_cons,List.exists_mem_cons_iff,or_assoc]

def Fusion.Matched (fusion : Fusion Score) : Prop :=
  ∀ key, (fusion.docs.get? key).isSome = (fusion.scores.get? key).isSome

theorem Fusion.Matched.rank {fusion : Fusion Score} (matched : fusion.Matched) (ranked : Document × Nat) :
    (fuseRank search rrfK fusion ranked).Matched := by
  intro key
  rw [fuseRank,Dict.get?_set,Dict.get?_set]
  split_ifs
  · rfl
  · exact matched key

theorem matched_fusion (rankedLists : List (List Document)) :
    (rankedLists.foldl (fuseRanking search rrfK) ⟨∅,∅⟩).Matched :=
  List.foldlRecOn rankedLists _ (fun _ => rfl) (fun _ held ranking _ =>
    List.foldlRecOn (ranking.zipIdx 1) _ held (fun _ kept ranked _ => kept.rank ranked))

variable [LinearOrder Score] [IsStrictOrderedRing Score]
  (positive : ∀ rank, 0 < rank → 0 < rankWeight search rrfK rank)
  (decreasing : ∀ rank, 0 < rank → rankWeight search rrfK (rank + 1) < rankWeight search rrfK rank)
include positive decreasing

private theorem fused_reciprocalRankFusion {rankedLists : List (List Document)}
    (distinct : ∀ keys ∈ rankedLists.map documentKeys, keys.Nodup) (limit : Nat) :
    Fused (rankedLists.map documentKeys) ((rankedLists.map documentKeys).flatten.length ≤ limit)
      (documentKeys ((reciprocalRankFusion search rankedLists rrfK limit).map Prod.fst)) := by
  have holds : (rankedLists.foldl (fuseRanking search rrfK) ⟨∅,∅⟩).Holds (fun _ => True) :=
    Fusion.Holds.rankings (fun _ _ found => by cases found) rrfK (fun _ _ _ _ => trivial)
  have matched := @matched_fusion _ _ search rrfK rankedLists
  have value := fun key => @scores_fusion _ _ search rrfK rankedLists ⟨∅,∅⟩ key
  have present := fun key => @isSome_fusion _ _ search rrfK rankedLists ⟨∅,∅⟩ key
  unfold reciprocalRankFusion
  dsimp only
  generalize rankedLists.foldl (fuseRanking search rrfK) ⟨∅,∅⟩ = fusion at holds matched value present
  have same := perm_sortDescending Prod.snd fusion.scores.entries
  have held : ∀ entry ∈ sortDescending Prod.snd fusion.scores.entries,
      fusion.scores.get? entry.1 = some entry.2 := by
    intro entry listed
    exact (Dict.get?_eq_some _ _ _).mpr (same.subset listed)
  rw [lookup_keys_eq (fun key document found => (holds key document found).1),List.map_take]
  · apply fused_of_sorted positive decreasing distinct
    · exact (same.map Prod.fst).nodup_iff.mpr fusion.scores.distinct
    · intro key
      have listed := present key
      rw [Dict.get?_isSome] at listed
      rw [(same.map Prod.fst).mem_iff]
      exact listed.trans (or_iff_right (by simp))
    · refine List.pairwise_map.mpr ((sorted_sortDescending _ _).imp_of_mem ?_)
      intro first second listed listed' below
      have one := value first.1
      have two := value second.1
      rw [Dict.getD_of_some (held first listed)] at one
      rw [Dict.getD_of_some (held second listed')] at two
      rw [Dict.getD_of_none rfl,zero_add] at one two
      rw [← one,← two]
      exact below
  · intro entry listed
    rw [matched,held entry (List.mem_of_mem_take listed)]
    rfl

end

/-! Several queries. -/

section
variable {Score : Type*}

def Ranked.rankings (settings : RagSettings) (ranked : Ranked Score) : List (List (Text × Text)) :=
  if settings.ragHybridEnabled then
    [documentKeys (ranked.vector.map Prod.fst),documentKeys (ranked.bm25.map Prod.fst)]
  else [documentKeys (ranked.vector.map Prod.fst)]

section
variable [Field Score] [LinearOrder Score]
  (search : SearchTools Score) (settings : RagSettings)

/-- The fusion of `_multi_query_hits`, with a limit of its own for that of each query. -/
def multiQueryFusion (inner outer : Nat) (found : List (Ranked Score)) : List (SearchHit Score) :=
  hitsFromRankedLists search
    (found.map (fun ranked => (ranked.hits search settings inner).map SearchHit.document))
    (found.map (fun ranked => scoreMap ranked.vector)) (found.map (fun ranked => scoreMap ranked.bm25))
    settings.ragRrfK outer

theorem multiQueryHits_eq (host : Host) (queries : List Text) (tenantId : Text) (fetchK fuseLimit : Nat)
    (courseCode : Text) :
    host.multiQueryHits search settings queries tenantId fetchK fuseLimit courseCode =
      (host.rankQueries search settings tenantId fetchK courseCode queries).map (fun found =>
        (found.1,multiQueryFusion search settings fuseLimit fuseLimit found.2,found.2.getLastD ⟨[],[]⟩)) := rfl

end

variable [Field Score] [LinearOrder Score] [IsStrictOrderedRing Score]
  {search : SearchTools Score} {settings : RagSettings}
  (positive : ∀ rank, 0 < rank → 0 < rankWeight search settings.ragRrfK rank)
  (decreasing : ∀ rank, 0 < rank →
    rankWeight search settings.ragRrfK (rank + 1) < rankWeight search settings.ragRrfK rank)
include positive decreasing

private theorem fused_hits {ranked : Ranked Score} (distinct : ∀ keys ∈ ranked.rankings settings, keys.Nodup)
    (limit : Nat) :
    Fused (ranked.rankings settings) ((ranked.rankings settings).flatten.length ≤ limit)
      (documentKeys ((ranked.hits search settings limit).map SearchHit.document)) := by
  unfold Ranked.rankings at distinct ⊢
  unfold Ranked.hits
  split_ifs at distinct ⊢
  · rw [fuseHits,documents_fusedHits]
    exact @fused_reciprocalRankFusion _ _ _ _ _ _ positive decreasing
      [ranked.vector.map Prod.fst,ranked.bm25.map Prod.fst] distinct limit
  · rw [documents_vectorHits,List.map_take]
    unfold documentKeys at distinct ⊢
    rw [List.map_take]
    exact Fused.single (distinct _ List.mem_cons_self) limit

private theorem fused_multiQueryFusion {found : List (Ranked Score)}
    (distinct : ∀ ranked ∈ found, ∀ keys ∈ ranked.rankings settings, keys.Nodup) (inner outer : Nat) :
    Fused (found.flatMap (Ranked.rankings settings))
      ((∀ ranked ∈ found, (ranked.rankings settings).flatten.length ≤ inner) ∧
        (found.flatMap (Ranked.rankings settings)).flatten.length ≤ outer)
      (documentKeys ((multiQueryFusion search settings inner outer found).map SearchHit.document)) := by
  have each := fun ranked asked => fused_hits positive decreasing (distinct ranked asked) inner
  refine Fused.compose each ?_
  have final := @fused_reciprocalRankFusion _ _ _ _ _ _ positive decreasing
    (found.map (fun ranked => (ranked.hits search settings inner).map SearchHit.document)) ?_ outer
  · rw [List.map_map] at final
    rw [multiQueryFusion,hitsFromRankedLists,documents_fusedHits]
    exact final
  · intro keys listed
    rw [List.map_map] at listed
    obtain ⟨ranked,asked,rfl⟩ := List.mem_map.mp listed
    exact (each ranked asked).once

end

private theorem reciprocals_positive {search : SearchTools ℚ}
    (exact : ∀ count, search.reciprocal count = 1 / count) (rrfK : Nat) {rank : Nat} (counted : 0 < rank) :
    0 < rankWeight search rrfK rank := by
  rw [rankWeight,exact]
  exact one_div_pos.mpr (Nat.cast_pos.mpr (Nat.add_pos_right rrfK counted))

private theorem reciprocals_decrease {search : SearchTools ℚ}
    (exact : ∀ count, search.reciprocal count = 1 / count) (rrfK : Nat) {rank : Nat} (counted : 0 < rank) :
    rankWeight search rrfK (rank + 1) < rankWeight search rrfK rank := by
  rw [rankWeight,rankWeight,exact,exact]
  apply one_div_lt_one_div_of_lt
  · exact Nat.cast_pos.mpr (Nat.add_pos_right rrfK counted)
  · exact Nat.cast_lt.mpr (by omega)

/-- With exact scores a document stands before each that it precedes wherever the other is ranked, whatever
the limit; so it does when the queries of a search are fused one by one and then together. -/
theorem fusion_respects_dominance (search : SearchTools ℚ)
    (exact : ∀ count, search.reciprocal count = 1 / count) :
    (∀ (rankedLists : List (List Document)) (rrfK limit : Nat),
      (∀ keys ∈ rankedLists.map documentKeys, keys.Nodup) →
        Fused (rankedLists.map documentKeys) ((rankedLists.map documentKeys).flatten.length ≤ limit)
          (documentKeys ((reciprocalRankFusion search rankedLists rrfK limit).map Prod.fst))) ∧
      ∀ (settings : RagSettings) (found : List (Ranked ℚ)) (inner outer : Nat),
        (∀ ranked ∈ found, ∀ keys ∈ ranked.rankings settings, keys.Nodup) →
          Fused (found.flatMap (Ranked.rankings settings))
            ((∀ ranked ∈ found, (ranked.rankings settings).flatten.length ≤ inner) ∧
              (found.flatMap (Ranked.rankings settings)).flatten.length ≤ outer)
            (documentKeys ((multiQueryFusion search settings inner outer found).map SearchHit.document)) := by
  constructor
  · intro rankedLists rrfK limit distinct
    exact fused_reciprocalRankFusion (fun _ => reciprocals_positive exact rrfK)
      (fun _ => reciprocals_decrease exact rrfK) distinct limit
  · intro settings found inner outer distinct
    exact fused_multiQueryFusion (fun _ => reciprocals_positive exact settings.ragRrfK)
      (fun _ => reciprocals_decrease exact settings.ragRrfK) distinct inner outer

def exactTools : SearchTools ℚ where
  engine store _ count := (store.map (fun document => (document,0))).take count
  tokenize text := [text]
  bm25Scores corpus _ := corpus.map (fun _ => 0)
  reciprocal count := 1 / count
  predictScores _ _ := none

def page (text : String) : Document where
  origin := ⟨⟨none,"a.md".toList⟩,0⟩
  pageContent := text.toList
  source := "a.md".toList
  courseCode := []
  tenantId := []
  contentHash := []
  deleted := false
  chunk := 0
  chunkRole := .child
  chunkKind := none
  parentId := []
  sectionPath := []
  moduleName := []
  title := none
  sectionTitle := none
  subsection := none

/-- The page that one ranking alone has at its top stays behind the two that both rankings have. -/
theorem fusion_respects_dominance_pages :
    let rankedLists := [[page "x",page "y"],[page "z",page "x",page "y"]]
    (reciprocalRankFusion exactTools rankedLists 60 2).map Prod.fst = [page "x",page "y"] ∧
      Fused (rankedLists.map documentKeys) ((rankedLists.map documentKeys).flatten.length ≤ 2)
        (documentKeys ((reciprocalRankFusion exactTools rankedLists 60 2).map Prod.fst)) :=
  ⟨by decide +kernel,(fusion_respects_dominance exactTools (fun _ => rfl)).1 _ 60 2 (by decide +kernel)⟩

end CustomerService.Knowledge
