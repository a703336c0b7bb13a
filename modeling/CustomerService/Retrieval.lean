import CustomerService.RagCompact
import CustomerService.VectorSearch

/-! Retrieval: vector and lexical search over the scopes of a tenant, fused, reranked and
cut to the hits that are returned. -/
namespace CustomerService.Knowledge

open Text SummaryFacts Ranking

structure SearchHit (Score : Type*) where
  document : Document
  score : Score
  vectorSim : Score
  bm25Score : Score
  lowConfidence : Bool

structure TenantSearchResult (Score : Type*) where
  hits : List (SearchHit Score)
  fetchK : Nat
  queryProfile : Text
  fusedCount : Nat
  rerankEnabled : Bool
  rerankTopK : Nat
  lowConfidenceFallback : Bool
  retrievalQueries : List Text

structure RagSettings where
  ragHybridEnabled : Bool
  ragRrfK : Nat
  ragRerankEnabled : Bool
  ragRerankFetchK : Nat
  ragRerankTopK : Nat
  ragDynamicKEnabled : Bool
  ragFetchKMin : Nat
  ragFetchKMax : Nat

/-- The vector store, the word segmentation, the BM25 scores of a tokenized corpus, the
quotient `1.0 / n`, and the scores of the reranking model, which may fail or time out. -/
structure SearchTools (Score : Type*) where
  engine : VectorEngine Score
  tokenize : Text → List Text
  bm25Scores : List (List Text) → List Text → List Score
  reciprocal : Nat → Score
  predictScores : Text → List Text → Option (List Score)

/-! The plan of a retrieval. -/

structure RetrievalPlan where
  fetchK : Nat
  resultK : Nat
  profile : Text
deriving DecidableEq

def followupHints : List String := ["这个","那个","难吗","怎么样","如何","可以吗"]

def complexHints : List String :=
  ["哪些","包含","区别","对比","适合","路径","模块","大纲","学习","内容"]

def clamp (value low high : Nat) : Nat := max low (min high value)

def resolveRetrievalPlan (settings : RagSettings) (query : Text) (resultK : Nat) (courseCode : Text) :
    RetrievalPlan :=
  let text := strip query
  let kMin := settings.ragFetchKMin
  let kMax := settings.ragFetchKMax
  if courseCode ≠ [] then
    ⟨clamp (max (resultK * 2) kMin) kMin kMax,resultK,"explicit_course".toList⟩
  else if text.length < 8 ∨ followupHints.any (fun hint => contains hint.toList text) = true then
    ⟨clamp (max (resultK * 3) kMin) kMin kMax,resultK,"followup".toList⟩
  else if 16 ≤ text.length ∨ complexHints.any (fun hint => contains hint.toList text) = true then
    ⟨kMax,resultK,"complex".toList⟩
  else ⟨clamp (max (resultK * 3) kMin) kMin kMax,resultK,"default".toList⟩

/-- `_fetch_k`. -/
def fixedFetchK (k : Nat) : Nat := max (k * 3) 12

section
variable {Score : Type*} [Field Score] [LinearOrder Score]

/-- `sorted(items, key=score, reverse=True)`. -/
def sortDescending {Item : Type*} (score : Item → Score) (items : List Item) : List Item :=
  items.insertionSort (fun first second => score second ≤ score first)

/-! Lexical search. -/

/-- `Bm25Index.search`. -/
def bm25Search (search : SearchTools Score) (documents : List Document) (query : Text)
    (k : Nat) : List (Document × Score) :=
  let tokens := search.tokenize query
  if tokens.isEmpty || k == 0 then []
  else
    let tokenized := documents.map (fun document =>
      let words := search.tokenize document.pageContent
      if words.isEmpty then [[]] else words)
    (sortDescending Prod.snd ((documents.zip (search.bm25Scores tokenized tokens)).filter
      (fun hit => 0 < hit.2))).take k

/-- The better of two hits of a key, the one found first when the scores are equal. -/
def keepBest (courseCode : Text) (best : Dict (Text × Text) (Document × Score))
    (hit : Document × Score) : Dict (Text × Text) (Document × Score) :=
  if !matchesCourse courseCode hit.1 then best
  else match best.get? (documentKey hit.1) with
    | none => best.set (documentKey hit.1) hit
    | some previous => if previous.2 < hit.2 then best.set (documentKey hit.1) hit else best

def bm25Scope (search : SearchTools Score) (query : Text) (lexicalFetch : Nat)
    (courseCode : Text) (state : Host × Dict (Text × Text) (Document × Score)) (scope : Text) :
    Host × Dict (Text × Text) (Document × Score) :=
  match (state.1.bm25Index scope).2 with
  | none => ((state.1.bm25Index scope).1,state.2)
  | some documents => ((state.1.bm25Index scope).1,
      (bm25Search search documents query lexicalFetch).foldl (keepBest courseCode) state.2)

/-- `_search_bm25`; there is no result when there is no index. -/
def Host.searchBm25 (search : SearchTools Score) (host : Host) (query tenantId : Text)
    (fetchK : Nat) (courseCode : Text) : Option (Host × List (Document × Score)) :=
  host.getIndexes.map (fun host =>
    let lexicalFetch := if courseCode ≠ [] then max (fetchK * 4) 16 else fetchK
    let found := (searchScopes (host.memory.indexes.getD ∅) tenantId courseCode).foldl
      (bm25Scope search query lexicalFetch courseCode) (host,∅)
    (found.1,(sortDescending Prod.snd found.2.values).take fetchK))

/-- `_search_vector` over the map that `get_indexes` gives. -/
def Host.searchVector (search : SearchTools Score) (host : Host) (query tenantId : Text)
    (fetchK : Nat) (courseCode : Text) : Option (Host × List (Document × Score)) :=
  host.getIndexes.map (fun host => (host,Knowledge.searchVector search.engine
    (host.memory.indexes.getD ∅) query tenantId fetchK courseCode))

/-! Fusion. -/

structure Fusion (Score : Type*) where
  docs : Dict (Text × Text) Document
  scores : Dict (Text × Text) Score

def fuseRank (search : SearchTools Score) (rrfK : Nat) (fusion : Fusion Score)
    (ranked : Document × Nat) : Fusion Score where
  docs := fusion.docs.set (documentKey ranked.1) ranked.1
  scores := fusion.scores.set (documentKey ranked.1)
    (fusion.scores.getD (documentKey ranked.1) 0 + search.reciprocal (rrfK + ranked.2))

def fuseRanking (search : SearchTools Score) (rrfK : Nat) (fusion : Fusion Score)
    (ranking : List Document) : Fusion Score :=
  (ranking.zipIdx 1).foldl (fuseRank search rrfK) fusion

def reciprocalRankFusion (search : SearchTools Score) (rankedLists : List (List Document))
    (rrfK limit : Nat) : List (Document × Score) :=
  let fusion := rankedLists.foldl (fuseRanking search rrfK) ⟨∅,∅⟩
  ((sortDescending Prod.snd fusion.scores.entries).take limit).filterMap (fun entry =>
    (fusion.docs.get? entry.1).map (fun document => (document,entry.2)))

/-- `{document_key(document): score for document, score in ranked}`. -/
def scoreMap (ranked : List (Document × Score)) : Dict (Text × Text) Score :=
  (∅ : Dict (Text × Text) Score).update (ranked.map (fun hit => (documentKey hit.1,hit.2)))

def fusedHits (fused : List (Document × Score)) (vectorMap bm25Map : Dict (Text × Text) Score) :
    List (SearchHit Score) :=
  fused.map (fun hit => ⟨hit.1,hit.2,vectorMap.getD (documentKey hit.1) 0,
    bm25Map.getD (documentKey hit.1) 0,false⟩)

def fuseHits (search : SearchTools Score) (vectorRanked bm25Ranked : List (Document × Score))
    (rrfK limit : Nat) : List (SearchHit Score) :=
  fusedHits (reciprocalRankFusion search [vectorRanked.map Prod.fst,bm25Ranked.map Prod.fst] rrfK
    limit) (scoreMap vectorRanked) (scoreMap bm25Ranked)

/-- `vector_map[key] = max(vector_map.get(key, 0.0), value)`, over all maps. -/
def maximumMap (maps : List (Dict (Text × Text) Score)) : Dict (Text × Text) Score :=
  maps.foldl (fun whole item => whole.mergeWith (fun previous value =>
    max (previous.getD 0) value) item.entries) ∅

def hitsFromRankedLists (search : SearchTools Score) (rankedLists : List (List Document))
    (vectorMaps bm25Maps : List (Dict (Text × Text) Score)) (rrfK limit : Nat) :
    List (SearchHit Score) :=
  fusedHits (reciprocalRankFusion search rankedLists rrfK limit) (maximumMap vectorMaps)
    (maximumMap bm25Maps)

def vectorHits (ranked : List (Document × Score)) : List (SearchHit Score) :=
  ranked.map (fun hit => ⟨hit.1,hit.2,hit.2,0,false⟩)

/-! The search. -/

structure Ranked (Score : Type*) where
  vector : List (Document × Score)
  bm25 : List (Document × Score)

variable (search : SearchTools Score) (settings : RagSettings)

def Host.rankQuery (host : Host) (query tenantId : Text) (fetchK : Nat) (courseCode : Text) :
    Option (Host × Ranked Score) :=
  match host.searchVector search query tenantId fetchK courseCode with
  | none => none
  | some (host,vector) =>
    if settings.ragHybridEnabled then
      match host.searchBm25 search query tenantId fetchK courseCode with
      | none => none
      | some (host,bm25) => some (host,⟨vector,bm25⟩)
    else some (host,⟨vector,[]⟩)

def Ranked.hits (ranked : Ranked Score) (limit : Nat) : List (SearchHit Score) :=
  if settings.ragHybridEnabled then
    fuseHits search ranked.vector ranked.bm25 settings.ragRrfK limit
  else vectorHits (ranked.vector.take limit)

def Host.singleQueryHits (host : Host) (query tenantId : Text) (fetchK fuseLimit : Nat)
    (courseCode : Text) : Option (Host × List (SearchHit Score) × Ranked Score) :=
  (host.rankQuery search settings query tenantId fetchK courseCode).map (fun found =>
    (found.1,found.2.hits search settings fuseLimit,found.2))

def Host.rankQueries (tenantId : Text) (fetchK : Nat) (courseCode : Text) (host : Host) :
    List Text → Option (Host × List (Ranked Score))
  | [] => some (host,[])
  | query::rest =>
    match host.rankQuery search settings query tenantId fetchK courseCode with
    | none => none
    | some (host,ranked) =>
      (Host.rankQueries tenantId fetchK courseCode host rest).map (fun found =>
        (found.1,ranked::found.2))

/-- `_multi_query_hits`; what the last query ranks is kept for the fallback. -/
def Host.multiQueryHits (host : Host) (queries : List Text) (tenantId : Text)
    (fetchK fuseLimit : Nat) (courseCode : Text) :
    Option (Host × List (SearchHit Score) × Ranked Score) :=
  (host.rankQueries search settings tenantId fetchK courseCode queries).map (fun found =>
    (found.1,
      hitsFromRankedLists search
        (found.2.map (fun ranked => (ranked.hits search settings fuseLimit).map SearchHit.document))
        (found.2.map (fun ranked => scoreMap ranked.vector))
        (found.2.map (fun ranked => scoreMap ranked.bm25)) settings.ragRrfK fuseLimit,
      found.2.getLastD ⟨[],[]⟩))

/-- `rerank_hits`; the strict `zip` raises when there are fewer or more scores than hits. -/
def rerankHits (query : Text) (hits : List (SearchHit Score)) (topK : Nat) :
    Option (List (SearchHit Score)) :=
  if hits.isEmpty || topK == 0 then some []
  else if hits.length = 1 then some hits
  else match search.predictScores query (hits.map (fun hit => hit.document.pageContent)) with
    | none => some (hits.take topK)
    | some scores =>
      if scores.length = hits.length then
        some (((sortDescending Prod.snd (hits.zip scores)).take topK).map (fun pair =>
          { pair.1 with score := pair.2 }))
      else none

def activeQueries (query : Text) (retrievalQueries : List Text) : List Text :=
  let parts := ((if retrievalQueries.isEmpty then [query] else retrievalQueries).map strip).filter
    (fun part => !part.isEmpty)
  if parts.isEmpty then [query] else parts

/-- The candidates of a search that has a course code and no hits. -/
def relaxedHits (ranked : Ranked Score) (k : Nat) : List (SearchHit Score) :=
  ((ranked.hits search settings k)).map (fun hit => { hit with lowConfidence := true })

/-- `search_tenant_documents`; there is no result when a call in it raises. -/
def Host.searchTenantDocuments (host : Host) (query tenantId : Text) (k : Nat) (courseCode : Text)
    (retrievalQueries : List Text) : Option (Host × TenantSearchResult Score) :=
  let plan := resolveRetrievalPlan settings query k courseCode
  let fetchK := if settings.ragDynamicKEnabled then plan.fetchK else fixedFetchK k
  let fuseLimit := if settings.ragRerankEnabled then max fetchK settings.ragRerankFetchK else fetchK
  let queries := activeQueries query retrievalQueries
  let found := if 1 < queries.length then
      host.multiQueryHits search settings queries tenantId fetchK fuseLimit courseCode
    else host.singleQueryHits search settings query tenantId fetchK fuseLimit courseCode
  match found with
  | none => none
  | some (host,fused,ranked) =>
    let rerankEnabled := settings.ragRerankEnabled && !fused.isEmpty
    let rerankTopK := if rerankEnabled then min settings.ragRerankTopK k else 0
    let reranked := if rerankEnabled then rerankHits search query fused rerankTopK
      else some (fused.take k)
    reranked.map (fun hits =>
      let relaxed := if courseCode ≠ [] ∧ hits.isEmpty = true then relaxedHits search settings ranked k
        else []
      (host,⟨(if relaxed.isEmpty then hits else relaxed).take k,fetchK,plan.profile,fused.length,
        rerankEnabled,rerankTopK,!relaxed.isEmpty,queries⟩))

end

end CustomerService.Knowledge
