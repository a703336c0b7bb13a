import CustomerService.IngestEquivalence
import CustomerService.Ranking
import Mathlib.Algebra.Order.Field.Basic
import Mathlib.Algebra.Order.Field.Rat
import Mathlib.Data.Prod.Lex

/-! Filtered vector search: the nearest vectors are asked for first and filtered after, so
what it finds depends on what the filters leave of them. -/
namespace CustomerService.Knowledge

open Text Ranking

def documentKey (document : Document) : Text × Text := (document.source,document.pageContent)

/-- `similarity_search_with_score` of the vector store: documents of a store with their distances. -/
abbrev VectorEngine (Score : Type*) := Store → Text → Nat → List (Document × Score)

def l2ToSimilarity {Score : Type*} [Field Score] [LinearOrder Score] (distance : Score) : Score :=
  max 0 (1 - distance / 2)

def vectorInnerK (fetchK : Nat) (courseCode : Text) (total : Nat) : Nat :=
  min total (if courseCode = [] then max (fetchK * 4) 16 else max (fetchK * 8) 32)

def isEligible (courseCode : Text) (document : Document) : Bool :=
  !document.deleted && matchesCourse courseCode document && isRetrievalChunk document

section
variable {Score : Type*} (engine : VectorEngine Score)

/-- What the searches over the scopes return, one after the other. -/
def scoredVectors (indexes : Stores) (query tenantId : Text) (fetchK : Nat) (courseCode : Text) :
    List (Document × Score) :=
  (searchScopes indexes tenantId courseCode).flatMap (fun scope =>
    let store := indexes.getD scope []
    if store.length ≤ 0 then []
    else engine store query (vectorInnerK fetchK courseCode store.length))

/-- The loop over the sorted hits, with the keys seen and the hits ranked so far. -/
def rankVectors (courseCode : Text) (fetchK : Nat) :
    List (Document × Score) → List (Text × Text) → List (Document × Score) →
      List (Document × Score)
  | [], _, ranked => ranked
  | hit::rest, seen, ranked =>
    if hit.1.deleted || !matchesCourse courseCode hit.1 then rankVectors courseCode fetchK rest seen ranked
    else if !isRetrievalChunk hit.1 then rankVectors courseCode fetchK rest seen ranked
    else if seen.contains (documentKey hit.1) then rankVectors courseCode fetchK rest seen ranked
    else if fetchK ≤ (ranked ++ [hit]).length then ranked ++ [hit]
    else rankVectors courseCode fetchK rest (documentKey hit.1::seen) (ranked ++ [hit])

def searchVector [Field Score] [LinearOrder Score] (indexes : Stores) (query tenantId : Text) (fetchK : Nat)
    (courseCode : Text) : List (Document × Score) :=
  (rankVectors courseCode fetchK ((scoredVectors engine indexes query tenantId fetchK
    courseCode).insertionSort (fun first second => first.2 ≤ second.2)) [] []).map
      (fun hit => (hit.1,l2ToSimilarity hit.2))

/-- What the search over a store returns is stored there. -/
def StoredHits : Prop :=
  ∀ store query count, ∀ hit ∈ engine store query count, hit.1 ∈ store

/-! The loop. -/

def hitKey (hit : Document × Score) : Text × Text := documentKey hit.1

private theorem rankVectors_skip {courseCode : Text} {hit : Document × Score}
    (skipped : isEligible courseCode hit.1 = false) (fetchK : Nat)
    (rest : List (Document × Score)) (seen : List (Text × Text))
    (ranked : List (Document × Score)) :
    rankVectors courseCode fetchK (hit::rest) seen ranked =
      rankVectors courseCode fetchK rest seen ranked := by
  unfold isEligible at skipped
  rw [rankVectors]
  cases deleted : hit.1.deleted <;> cases course : matchesCourse courseCode hit.1 <;>
    cases chunk : isRetrievalChunk hit.1 <;> simp [deleted,course,chunk] at skipped ⊢

private theorem rankVectors_take {courseCode : Text} {hit : Document × Score}
    (eligible : isEligible courseCode hit.1 = true) (fetchK : Nat)
    (rest : List (Document × Score)) (seen : List (Text × Text))
    (ranked : List (Document × Score)) :
    rankVectors courseCode fetchK (hit::rest) seen ranked =
      if seen.contains (hitKey hit) then rankVectors courseCode fetchK rest seen ranked
      else if fetchK ≤ ranked.length + 1 then ranked ++ [hit]
      else rankVectors courseCode fetchK rest (hitKey hit::seen) (ranked ++ [hit]) := by
  simp only [isEligible,Bool.and_eq_true,Bool.not_eq_true'] at eligible
  rw [rankVectors]
  simp only [eligible,Bool.not_true,Bool.or_self,Bool.false_eq_true,if_false,List.length_append,
    List.length_singleton]
  rfl

theorem rankVectors_eq (courseCode : Text) (fetchK : Nat) (hits : List (Document × Score))
    (seen : List (Text × Text)) (ranked : List (Document × Score)) :
    rankVectors courseCode fetchK hits seen ranked =
      ranked ++ ((distinctBy hitKey (hits.filter (fun hit => isEligible courseCode hit.1))).filter
        (fun hit => hitKey hit ∉ seen)).take (max 1 (fetchK - ranked.length)) := by
  induction hits generalizing seen ranked with
  | nil => simp [rankVectors,distinctBy]
  | cons hit rest ih =>
    cases eligible : isEligible courseCode hit.1 with
    | false => rw [rankVectors_skip eligible,ih,List.filter_cons_of_neg (by simp [eligible])]
    | true =>
      rw [rankVectors_take eligible,List.filter_cons_of_pos
        (p := fun hit : Document × Score => isEligible courseCode hit.1) eligible,distinctBy]
      split_ifs with known enough
      all_goals rw [List.contains_iff_mem] at known
      · have others : ∀ other : Document × Score,
            (decide (hitKey other ∉ seen) && decide (hitKey other ≠ hitKey hit)) =
              decide (hitKey other ∉ seen) := by
          intro other
          by_cases same : hitKey other = hitKey hit
          · simp [same,known]
          · simp [same]
        rw [ih,List.filter_cons_of_neg (by simp [known]),List.filter_filter]
        simp only [others]
      · have one : max 1 (fetchK - ranked.length) = 1 := by omega
        rw [List.filter_cons_of_pos (by simp [known]),one]
        rfl
      · have more : max 1 (fetchK - ranked.length) =
            max 1 (fetchK - (ranked ++ [hit]).length) + 1 := by
          rw [List.length_append,List.length_singleton]
          omega
        rw [ih,List.filter_cons_of_pos (by simp [known]),more,List.take_succ_cons,
          List.append_assoc,List.singleton_append,List.filter_filter]
        simp only [List.mem_cons,not_or,Bool.decide_and,Bool.and_comm]

/-! The search. -/

/-- The documents of the nearest vectors of a store that a search asks for. -/
def nearestStored (query : Text) (fetchK : Nat) (courseCode : Text) (store : Store) : Store :=
  (engine store query (vectorInnerK fetchK courseCode store.length)).map Prod.fst

/-- The eligible chunks among the nearest vectors of the searched scopes. -/
def windowDocuments (indexes : Stores) (query tenantId : Text) (fetchK : Nat) (courseCode : Text) :
    List Document :=
  ((searchScopes indexes tenantId courseCode).flatMap (fun scope =>
    nearestStored engine query fetchK courseCode (indexes.getD scope []))).filter
      (isEligible courseCode)

/-- The chunks of the searched scopes that a search may return. -/
def eligibleDocuments (indexes : Stores) (tenantId courseCode : Text) : List Document :=
  (iterTenantDocuments indexes tenantId courseCode).filter isRetrievalChunk

private theorem mem_eligibleDocuments {indexes : Stores} {tenantId courseCode : Text} {document : Document} :
    document ∈ eligibleDocuments indexes tenantId courseCode ↔
      (∃ scope ∈ searchScopes indexes tenantId courseCode, document ∈ indexes.getD scope []) ∧
        isEligible courseCode document = true := by
  simp only [eligibleDocuments,iterTenantDocuments,iterStoreDocuments,List.mem_filter,
    List.mem_flatMap,isEligible,Bool.and_eq_true]
  constructor
  · rintro ⟨⟨⟨scope,listed,member,alive⟩,course⟩,chunk⟩
    exact ⟨⟨scope,listed,member⟩,⟨alive,course⟩,chunk⟩
  · rintro ⟨⟨scope,listed,member⟩,⟨alive,course⟩,chunk⟩
    exact ⟨⟨⟨scope,listed,member,alive⟩,course⟩,chunk⟩

variable {engine}

theorem scored_stored (stored : StoredHits engine) {indexes : Stores}
    {query tenantId courseCode : Text} {fetchK : Nat} {hit : Document × Score}
    (member : hit ∈ scoredVectors engine indexes query tenantId fetchK courseCode) :
    ∃ scope ∈ searchScopes indexes tenantId courseCode, hit.1 ∈ indexes.getD scope [] := by
  obtain ⟨scope,listed,found⟩ := List.mem_flatMap.mp member
  dsimp only at found
  split_ifs at found
  · cases found
  · exact ⟨scope,listed,stored _ _ _ hit found⟩

end

section
variable {Score : Type*} [Field Score] [LinearOrder Score] {engine : VectorEngine Score}
  (indexes : Stores) (query tenantId : Text) (fetchK : Nat) (courseCode : Text)

/-- The documents of the sorted hits that the filters leave. -/
def sortedWindow (engine : VectorEngine Score) : List Document :=
  (((scoredVectors engine indexes query tenantId fetchK courseCode).insertionSort
    (fun first second => first.2 ≤ second.2)).map Prod.fst).filter (isEligible courseCode)

private theorem map_distinctBy {Item Value Key : Type*} [DecidableEq Key] (f : Item → Value)
    (key : Value → Key) (items : List Item) :
    (distinctBy (fun item => key (f item)) items).map f = distinctBy key (items.map f) := by
  induction items with
  | nil => rfl
  | cons item rest ih =>
    rw [distinctBy,List.map_cons,List.map_cons,distinctBy,← ih,List.filter_map]
    rfl

theorem searchVector_documents :
    (searchVector engine indexes query tenantId fetchK courseCode).map Prod.fst =
      (distinctBy documentKey (sortedWindow indexes query tenantId fetchK courseCode engine)).take
        (max 1 fetchK) := by
  have all : ∀ hit : Document × Score, (fun hit : Document × Score =>
      decide (hitKey hit ∉ ([] : List (Text × Text)))) hit = true := by simp
  rw [searchVector,List.map_map,rankVectors_eq,List.nil_append,List.filter_eq_self.mpr
    (fun hit _ => all hit),sortedWindow,List.filter_map,← map_distinctBy,List.map_take]
  rfl

end

section
variable {Score : Type*}

def documentDistance (distance : Text → Text → Score) (query : Text) (document : Document) : Score :=
  distance query document.pageContent

private theorem distance_of_key (distance : Text → Text → Score) (query : Text) {first second : Document}
    (same : documentKey first = documentKey second) :
    documentDistance distance query first = documentDistance distance query second :=
  congrArg (distance query) (congrArg Prod.snd same)

variable [LinearOrder Score] (distance : Text → Text → Score)

/-- The search over a store returns exactly the requested number of its nearest vectors, or
all of them, in the order of their distances, whatever the documents are marked as. -/
structure Searches (engine : VectorEngine Score) : Prop where
  exact : ∀ store query count,
    Foremost (documentDistance distance query) store ((engine store query count).map Prod.fst)
  count : ∀ store query count, (engine store query count).length = min count store.length
  scored : ∀ store query count, ∀ hit ∈ engine store query count,
    hit.2 = documentDistance distance query hit.1
  ordered : ∀ store query count,
    (engine store query count).Pairwise (fun first second => first.2 ≤ second.2)

variable {distance} {engine : VectorEngine Score} (searches : Searches distance engine)
include searches

theorem Searches.stored : StoredHits engine :=
  fun store query count _ member =>
    (searches.exact store query count).subset (List.mem_map_of_mem member)

private theorem scored_distance {indexes : Stores} {query tenantId courseCode : Text} {fetchK : Nat}
    {hit : Document × Score}
    (member : hit ∈ scoredVectors engine indexes query tenantId fetchK courseCode) :
    hit.2 = documentDistance distance query hit.1 := by
  obtain ⟨scope,_,found⟩ := List.mem_flatMap.mp member
  dsimp only at found
  split_ifs at found
  · cases found
  · exact searches.scored _ _ _ hit found

private theorem scored_documents (indexes : Stores) (query tenantId : Text) (fetchK : Nat)
    (courseCode : Text) :
    (scoredVectors engine indexes query tenantId fetchK courseCode).map Prod.fst =
      (searchScopes indexes tenantId courseCode).flatMap (fun scope =>
        nearestStored engine query fetchK courseCode (indexes.getD scope [])) := by
  rw [scoredVectors,List.map_flatMap]
  congr 1
  funext scope
  dsimp only
  split_ifs with empty
  · have count := searches.count (indexes.getD scope []) query
      (vectorInnerK fetchK courseCode (indexes.getD scope []).length)
    have nothing : engine (indexes.getD scope []) query
        (vectorInnerK fetchK courseCode (indexes.getD scope []).length) = [] := by
      apply List.eq_nil_of_length_eq_zero
      omega
    rw [nearestStored,nothing]
  · rfl

private theorem windowDocuments_subset (indexes : Stores) (query tenantId : Text) (fetchK : Nat)
    (courseCode : Text) : windowDocuments engine indexes query tenantId fetchK courseCode ⊆
      eligibleDocuments indexes tenantId courseCode := by
  intro document listed
  obtain ⟨inside,eligible⟩ := List.mem_filter.mp listed
  rw [← scored_documents searches] at inside
  obtain ⟨hit,member,rfl⟩ := List.mem_map.mp inside
  exact mem_eligibleDocuments.mpr ⟨scored_stored searches.stored member,eligible⟩

variable (indexes : Stores) (query tenantId : Text) (fetchK : Nat) (courseCode : Text)

private theorem sortedWindow_perm : (sortedWindow indexes query tenantId fetchK courseCode engine).Perm
    (windowDocuments engine indexes query tenantId fetchK courseCode) := by
  rw [windowDocuments,← scored_documents searches]
  exact ((List.perm_insertionSort _ _).map Prod.fst).filter _

private theorem sortedWindow_ordered :
    (sortedWindow indexes query tenantId fetchK courseCode engine).Pairwise (fun first second =>
      documentDistance distance query first ≤ documentDistance distance query second) := by
  have sorted : ((scoredVectors engine indexes query tenantId fetchK courseCode).insertionSort
      (fun first second => first.2 ≤ second.2)).Pairwise (fun first second => first.2 ≤ second.2) :=
    List.pairwise_insertionSort _ _
  refine List.Pairwise.filter _ (List.pairwise_map.mpr ?_)
  refine sorted.imp_of_mem (fun {first second} one two close => ?_)
  rw [List.mem_insertionSort] at one two
  rwa [← scored_distance searches one,← scored_distance searches two]

/-- A search finds the nearest eligible chunks exactly when each eligible chunk that is not among the vectors it asks
for has as many keys as asked for at its distance or nearer. -/
theorem nearest_iff_window_covers [Field Score] :
    Nearest documentKey (documentDistance distance query)
        (eligibleDocuments indexes tenantId courseCode) fetchK
        ((searchVector engine indexes query tenantId fetchK courseCode).map Prod.fst) ↔
      Covered documentKey (documentDistance distance query)
          (eligibleDocuments indexes tenantId courseCode)
          (windowDocuments engine indexes query tenantId fetchK courseCode) fetchK ∧
        (fetchK = 0 → windowDocuments engine indexes query tenantId fetchK courseCode = []) := by
  have window := sortedWindow_perm searches indexes query tenantId fetchK courseCode
  have inside : sortedWindow indexes query tenantId fetchK courseCode engine ⊆
      eligibleDocuments indexes tenantId courseCode :=
    List.Subset.trans window.subset (windowDocuments_subset searches _ _ _ _ _)
  have same (documents : List Document) : ∀ first ∈ documents, ∀ second ∈ documents,
      documentKey first = documentKey second →
        documentDistance distance query first = documentDistance distance query second :=
    fun _ _ _ _ => distance_of_key distance query
  rw [searchVector_documents]
  rcases Nat.eq_zero_or_pos fetchK with rfl | positive
  · have covered : Covered documentKey (documentDistance distance query)
        (eligibleDocuments indexes tenantId courseCode)
        (windowDocuments engine indexes query tenantId 0 courseCode) 0 :=
      fun _ _ _ => Nat.zero_le _
    rw [nearest_zero_iff,List.take_eq_nil_iff,distinctBy_eq_nil]
    simp only [covered,true_and,forall_true_left,Nat.max_zero,Nat.one_ne_zero,false_or]
    exact ⟨fun nothing => List.perm_nil.mp (window.symm.trans (nothing ▸ List.Perm.refl _)),
      fun nothing => List.perm_nil.mp (nothing ▸ window)⟩
  · rw [Nat.max_eq_right positive,← covered_perm window]
    have part := nearest_take (sortedWindow_ordered searches indexes query tenantId fetchK courseCode)
      fetchK (same _)
    refine (nearest_iff_covered inside (same _) part).trans ⟨fun covered => ⟨covered,?_⟩,And.left⟩
    omega

end

/-! What stands before a chunk. -/

/-- The vectors at a distance or nearer that take up places and are not returned for it: no chunk of the course in use,
or of a key that is set aside. -/
def obstructing {Score : Type*} [LinearOrder Score] (far : Document → Score) (courseCode : Text)
    (aside : List (Text × Text)) (store : Store) (reach : Score) : Nat :=
  store.countP (fun stored => decide (far stored ≤ reach) &&
    (!isEligible courseCode stored || aside.contains (documentKey stored)))

/-- Whatever fewer keys than asked for are set aside, no further chunk is behind too many vectors: a scope has an
eligible one at its distance or nearer with few of the others before it. Where nothing is asked for, every eligible
chunk is behind too many. -/
structure Unobstructed {Score : Type*} [LinearOrder Score] (far : Document → Score) (indexes : Stores)
    (tenantId courseCode : Text) (fetchK : Nat) : Prop where
  within : ∀ aside : List (Text × Text), aside.length < fetchK →
    ∀ document ∈ eligibleDocuments indexes tenantId courseCode, documentKey document ∉ aside →
      ∃ scope ∈ searchScopes indexes tenantId courseCode, ∃ other ∈ indexes.getD scope [],
        isEligible courseCode other = true ∧ documentKey other ∉ aside ∧ far other ≤ far document ∧
        obstructing far courseCode aside (indexes.getD scope []) (far other) <
          if courseCode = [] then max (fetchK * 4) 16 else max (fetchK * 8) 32
  beyond : fetchK = 0 → ∀ scope ∈ searchScopes indexes tenantId courseCode,
    ∀ document ∈ indexes.getD scope [], isEligible courseCode document = true →
      (if courseCode = [] then 16 else 32) ≤
        (indexes.getD scope []).countP (fun stored => far stored < far document)

/-! The search that sorts all vectors of a store. -/

section
variable {Score : Type*} [LinearOrder Score] (distance : Text → Text → Score) (late : Document → Bool)

/-- The place of a document: by its distance, and at equal distances the late ones last. -/
def place (query : Text) (document : Document) : Score ×ₗ Bool :=
  toLex (documentDistance distance query document,late document)

def sortingEngine : VectorEngine Score :=
  fun store query count => ((store.insertionSort (fun first second =>
    place distance late query first ≤ place distance late query second)).take count).map (fun document =>
      (document,documentDistance distance query document))

private theorem foremost_sortingEngine (store : Store) (query : Text) (count : Nat) :
    Foremost (place distance late query) store ((sortingEngine distance late store query count).map Prod.fst) := by
  have ordered := List.pairwise_insertionSort (fun first second =>
    place distance late query first ≤ place distance late query second) store
  rw [sortingEngine,List.map_map]
  have whole := (Foremost.take ordered count).perm (List.perm_insertionSort _ _)
  rwa [← List.map_id (List.take _ _)] at whole

theorem sortingEngine_searches : Searches distance (sortingEngine distance late) := by
  have nearer {query : Text} {first second : Document}
      (before : place distance late query first ≤ place distance late query second) :
      documentDistance distance query first ≤ documentDistance distance query second :=
    Prod.Lex.monotone_fst _ _ before
  refine ⟨fun store query count => ?_,fun store query count => ?_,fun store query count hit member => ?_,
    fun store query count => ?_⟩
  · obtain ⟨rest,whole,before⟩ := foremost_sortingEngine distance late store query count
    exact ⟨rest,whole,fun item listed other left => nearer (before item listed other left)⟩
  · rw [sortingEngine,List.length_map,List.length_take,List.length_insertionSort]
  · obtain ⟨document,_,rfl⟩ := List.mem_map.mp member
    rfl
  · rw [sortingEngine,List.pairwise_map]
    exact ((List.pairwise_insertionSort _ store).sublist (List.take_sublist _ _)).imp nearer

end

/-! When a search is complete. -/

section
variable {Score : Type*} [LinearOrder Score] {distance : Text → Text → Score} (indexes : Stores)
  (query tenantId : Text) (fetchK : Nat) (courseCode : Text)

section
variable {engine : VectorEngine Score}

omit [LinearOrder Score] in
theorem mem_windowDocuments {document : Document} :
    document ∈ windowDocuments engine indexes query tenantId fetchK courseCode ↔
      (∃ scope ∈ searchScopes indexes tenantId courseCode,
        document ∈ nearestStored engine query fetchK courseCode (indexes.getD scope [])) ∧
      isEligible courseCode document = true := by
  rw [windowDocuments,List.mem_filter,List.mem_flatMap]

variable (searches : Searches distance engine)
include searches

private theorem length_nearestStored (store : Store) :
    (nearestStored engine query fetchK courseCode store).length =
      min (if courseCode = [] then max (fetchK * 4) 16 else max (fetchK * 8) 32) store.length := by
  rw [nearestStored,List.length_map,searches.count,vectorInnerK]
  omega

theorem Unobstructed.covered
    (free : Unobstructed (documentDistance distance query) indexes tenantId courseCode fetchK) :
    Covered documentKey (documentDistance distance query) (eligibleDocuments indexes tenantId courseCode)
      (windowDocuments engine indexes query tenantId fetchK courseCode) fetchK := by
  intro document member missing
  by_contra few
  -- the keys that the search does find at this distance or nearer are set aside
  generalize found : ((windowDocuments engine indexes query tenantId fetchK courseCode).filter (fun item =>
    documentDistance distance query item ≤ documentDistance distance query document)) = near at few
  have short : (near.map documentKey).dedup.length < fetchK := by
    rw [← List.card_toFinset]
    exact not_le.mp few
  have known {other : Document}
      (listed : other ∈ windowDocuments engine indexes query tenantId fetchK courseCode)
      (close : documentDistance distance query other ≤ documentDistance distance query document) :
      documentKey other ∈ (near.map documentKey).dedup := by
    rw [List.mem_dedup,← found]
    exact List.mem_map_of_mem (List.mem_filter.mpr ⟨listed,decide_eq_true close⟩)
  have outside : documentKey document ∉ (near.map documentKey).dedup := by
    rw [List.mem_dedup,← found]
    exact fun listed => missing (List.map_subset _ (List.filter_subset_self _) listed)
  obtain ⟨scope,listed,other,held,eligible,fresh,close,fewer⟩ := free.within _ short document member outside
  have foremost := searches.exact (indexes.getD scope []) query
    (vectorInnerK fetchK courseCode (indexes.getD scope []).length)
  have left : other ∉ nearestStored engine query fetchK courseCode (indexes.getD scope []) := fun inside =>
    fresh (known ((mem_windowDocuments ..).mpr ⟨⟨scope,listed,inside⟩,eligible⟩) close)
  have full := foremost.length_lt held left
  have count := length_nearestStored query fetchK courseCode searches (indexes.getD scope [])
  have all : (nearestStored engine query fetchK courseCode (indexes.getD scope [])).length ≤
      obstructing (documentDistance distance query) courseCode (near.map documentKey).dedup (indexes.getD scope [])
        (documentDistance distance query other) := by
    refine (List.countP_eq_length.mpr (fun stored inside => ?_)).symm.le.trans (foremost.countP_le _)
    have before := foremost.le_left_out held left stored inside
    rw [Bool.and_eq_true,Bool.or_eq_true,decide_eq_true_eq,Bool.not_eq_true',List.contains_iff_mem]
    refine ⟨before,?_⟩
    cases returned : isEligible courseCode stored with
    | false => exact Or.inl rfl
    | true => exact Or.inr (known ((mem_windowDocuments ..).mpr ⟨⟨scope,listed,inside⟩,returned⟩)
        (before.trans close))
  rw [nearestStored] at count all
  omega

theorem Unobstructed.nothing
    (free : Unobstructed (documentDistance distance query) indexes tenantId courseCode 0) :
    windowDocuments engine indexes query tenantId 0 courseCode = [] := by
  rw [List.eq_nil_iff_forall_not_mem]
  intro document inside
  obtain ⟨⟨scope,listed,found⟩,eligible⟩ := (mem_windowDocuments ..).mp inside
  have foremost := searches.exact (indexes.getD scope []) query
    (vectorInnerK 0 courseCode (indexes.getD scope []).length)
  have many := free.beyond rfl scope listed document (foremost.subset found) eligible
  have before := foremost.count_before found
  have count := length_nearestStored query 0 courseCode searches (indexes.getD scope [])
  rw [nearestStored] at count
  split_ifs at many count <;> omega

end

section
variable (law : ∀ engine, Searches distance engine →
  Covered documentKey (documentDistance distance query) (eligibleDocuments indexes tenantId courseCode)
      (windowDocuments engine indexes query tenantId fetchK courseCode) fetchK ∧
    (fetchK = 0 → windowDocuments engine indexes query tenantId fetchK courseCode = []))
include law

/-- Where too many vectors stand before the chunks of all other keys, a search that puts them first finds none of these. -/
theorem within_of_covered (aside : List (Text × Text)) (short : aside.length < fetchK) (document : Document)
    (member : document ∈ eligibleDocuments indexes tenantId courseCode)
    (outside : documentKey document ∉ aside) :
    ∃ scope ∈ searchScopes indexes tenantId courseCode, ∃ other ∈ indexes.getD scope [],
      isEligible courseCode other = true ∧ documentKey other ∉ aside ∧
      documentDistance distance query other ≤ documentDistance distance query document ∧
      obstructing (documentDistance distance query) courseCode aside (indexes.getD scope [])
        (documentDistance distance query other) <
          if courseCode = [] then max (fetchK * 4) 16 else max (fetchK * 8) 32 := by
  by_contra blocked
  push Not at blocked
  generalize named : (fun stored : Document =>
    isEligible courseCode stored && !aside.contains (documentKey stored)) = late
  have searches := sortingEngine_searches distance late
  have hidden {scope : Text} (listed : scope ∈ searchScopes indexes tenantId courseCode) {other : Document}
      (inside : other ∈ nearestStored (sortingEngine distance late) query fetchK courseCode (indexes.getD scope []))
      (eligible : isEligible courseCode other = true)
      (close : documentDistance distance query other ≤ documentDistance distance query document) :
      documentKey other ∈ aside := by
    by_contra fresh
    have foremost := foremost_sortingEngine distance late (indexes.getD scope []) query
      (vectorInnerK fetchK courseCode (indexes.getD scope []).length)
    have many := blocked scope listed other (foremost.subset inside) eligible fresh close
    have before := foremost.count_before inside
    have count := length_nearestStored query fetchK courseCode searches (indexes.getD scope [])
    have fewer : obstructing (documentDistance distance query) courseCode aside (indexes.getD scope [])
        (documentDistance distance query other) ≤ (indexes.getD scope []).countP (fun stored =>
          place distance late query stored < place distance late query other) := by
      refine List.countP_mono_left (fun stored _ first => ?_)
      rw [Bool.and_eq_true,decide_eq_true_eq] at first
      obtain ⟨near,passed⟩ := first
      have early : late stored = false := by
        rw [← named]
        simpa [or_iff_not_imp_left] using passed
      have behind : late other = true := by
        rw [← named]
        simpa [eligible] using fresh
      rw [decide_eq_true_eq,place,place,Prod.Lex.toLex_lt_toLex,early,behind]
      exact (lt_or_eq_of_le near).imp_right (fun same => ⟨same,Bool.false_lt_true⟩)
    rw [nearestStored] at count
    omega
  obtain ⟨covered,_⟩ := law _ searches
  have enough := covered document member (fun listed => by
    obtain ⟨twin,inside,same⟩ := List.mem_map.mp listed
    obtain ⟨⟨scope,searched,found⟩,eligible⟩ := (mem_windowDocuments ..).mp inside
    exact outside (same ▸ hidden searched found eligible (distance_of_key distance query same).le))
  have few : keyCount documentKey ((windowDocuments (sortingEngine distance late) indexes query tenantId fetchK
      courseCode).filter (fun item => documentDistance distance query item ≤
        documentDistance distance query document)) ≤ aside.length := by
    refine (Finset.card_le_card (fun key listed => ?_)).trans (List.toFinset_card_le aside)
    obtain ⟨other,chosen,rfl⟩ := List.mem_map.mp (List.mem_toFinset.mp listed)
    obtain ⟨inside,close⟩ := List.mem_filter.mp chosen
    obtain ⟨⟨scope,searched,found⟩,eligible⟩ := (mem_windowDocuments ..).mp inside
    exact List.mem_toFinset.mpr (hidden searched found eligible (of_decide_eq_true close))
  omega

private theorem beyond_of_covered (zero : fetchK = 0) {scope : Text}
    (listed : scope ∈ searchScopes indexes tenantId courseCode) {document : Document}
    (held : document ∈ indexes.getD scope []) (eligible : isEligible courseCode document = true) :
    (if courseCode = [] then 16 else 32) ≤ (indexes.getD scope []).countP (fun stored =>
      documentDistance distance query stored < documentDistance distance query document) := by
  by_contra few
  generalize named : (fun stored : Document => !isEligible courseCode stored) = late
  have early {stored : Document} : late stored = false ↔ isEligible courseCode stored = true := by
    rw [← named,Bool.not_eq_false']
  have searches := sortingEngine_searches distance late
  have foremost := foremost_sortingEngine distance late (indexes.getD scope []) query
    (vectorInnerK fetchK courseCode (indexes.getD scope []).length)
  have before : (indexes.getD scope []).countP (fun stored =>
      place distance late query stored < place distance late query document) ≤
        (indexes.getD scope []).countP (fun stored =>
          documentDistance distance query stored < documentDistance distance query document) := by
    refine List.countP_mono_left (fun stored _ first => ?_)
    rw [decide_eq_true_eq,place,place,Prod.Lex.toLex_lt_toLex,early.mpr eligible] at first
    rw [decide_eq_true_eq]
    exact first.resolve_right (fun same => not_lt_bot same.2)
  have some' : (indexes.getD scope []).countP (fun stored =>
      documentDistance distance query stored < documentDistance distance query document) <
        (indexes.getD scope []).length :=
    List.countP_lt_length_iff.mpr ⟨document,held,by simp⟩
  have count := length_nearestStored query fetchK courseCode searches (indexes.getD scope [])
  obtain ⟨other,found,same⟩ := foremost.exists_level held (by
    rw [nearestStored] at count
    rw [count,zero]
    split_ifs at few ⊢ <;> omega)
  have first : isEligible courseCode other = true := by
    apply early.mp
    rw [← early.mpr eligible]
    exact congrArg (fun both => (ofLex both).2) same
  have nothing := (law _ searches).2 zero
  have inside : other ∈ windowDocuments (sortingEngine distance late) indexes query tenantId fetchK courseCode :=
    (mem_windowDocuments ..).mpr ⟨⟨scope,listed,found⟩,first⟩
  rw [nothing] at inside
  cases inside

end

/-- Every search of the nearest vectors, whatever it does with equal distances, finds the nearest eligible chunks
exactly when no chunk is obstructed. -/
theorem search_vector_complete_iff [Field Score] (distance : Text → Text → Score) :
    (∀ engine, Searches distance engine →
      Nearest documentKey (documentDistance distance query) (eligibleDocuments indexes tenantId courseCode) fetchK
        ((searchVector engine indexes query tenantId fetchK courseCode).map Prod.fst)) ↔
      Unobstructed (documentDistance distance query) indexes tenantId courseCode fetchK := by
  constructor
  · intro complete
    have law := fun engine searches =>
      (nearest_iff_window_covers searches indexes query tenantId fetchK courseCode).mp (complete engine searches)
    exact ⟨within_of_covered indexes query tenantId fetchK courseCode law,fun zero scope listed document held eligible =>
      beyond_of_covered indexes query tenantId fetchK courseCode law zero listed held eligible⟩
  · intro free engine searches
    refine (nearest_iff_window_covers searches indexes query tenantId fetchK courseCode).mpr
      ⟨free.covered indexes query tenantId fetchK courseCode searches,?_⟩
    rintro rfl
    exact free.nothing indexes query tenantId courseCode searches

end

/-! Runs over a small directory. -/

def editedHost (versions : List String) : World :=
  World.run plainTools "demo".toList (versions.map (fun version =>
    (0,.ingest true false (oneFile "a.md" version))))

/-- The distance of the text `far` from a query is one, that of any other text zero. -/
def farDistance (_ text : Text) : ℚ := if text = "far".toList then 1 else 0

/-- All vectors of two versions are asked for, and the live one is found. -/
theorem search_vector_complete_iff_edit : ∀ engine, Searches farDistance engine →
    Nearest documentKey (documentDistance farDistance "q".toList)
      (eligibleDocuments (((editedHost ["a1","far"]).memories 0).indexes.getD ∅) "demo".toList [])
      1 ((searchVector engine
        (((editedHost ["a1","far"]).memories 0).indexes.getD ∅) "q".toList "demo".toList 1 []).map
          Prod.fst) := by
  refine (search_vector_complete_iff _ _ _ _ _ farDistance).mpr ⟨fun aside short => ?_,by decide⟩
  obtain rfl := List.eq_nil_of_length_eq_zero (Nat.lt_one_iff.mp short)
  decide +kernel

/-- The vectors of six retired versions hide the one in use. -/
theorem retired_vectors_hide_live_chunk :
    ¬∀ (distance : Text → Text → ℚ) (engine : VectorEngine ℚ), Searches distance engine →
      ∀ (tools : Tools) (defaultTenant : Text) (events : List (Nat × Action)) (worker : Nat) (indexes : Stores),
      ((World.run tools defaultTenant events).memories worker).indexes = some indexes →
      ∀ (query tenantId : Text) (fetchK : Nat) (courseCode : Text),
        Nearest documentKey (documentDistance distance query)
          (eligibleDocuments indexes tenantId courseCode) fetchK
          ((searchVector engine indexes query tenantId fetchK courseCode).map Prod.fst) := by
  intro law
  have found := law farDistance (sortingEngine farDistance (fun _ => false)) (sortingEngine_searches farDistance _)
    plainTools "demo".toList (["a1","a2","a3","a4","a5","a6","far"].map (fun version =>
      (0,.ingest true false (oneFile "a.md" version)))) 0
    (((editedHost ["a1","a2","a3","a4","a5","a6","far"]).memories 0).indexes.getD ∅) rfl
    "q".toList "demo".toList 1 []
  have count := found.count
  revert count
  decide +kernel

end CustomerService.Knowledge
