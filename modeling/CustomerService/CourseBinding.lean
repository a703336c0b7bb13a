import CustomerService.Retrieval
import Mathlib.Algebra.GroupWithZero.Nat

/-! Searches that are bound to a course, over chunks with any metadata. The chunks of old indexes carry
the name of their file only, and reading the course from it raises. -/
namespace CustomerService.CourseBinding

open Text
open Knowledge (sortDescending stem vectorInnerK l2ToSimilarity platformTenant)

/-- A value of the metadata: what `bool` and `str` give for it. -/
structure Value where
  truthy : Bool
  text : Text
deriving DecidableEq

structure Chunk where
  pageContent : Text
  courseCode : Option Value
  courseFile : Option Value
  source : Option Value
  deleted : Option Value
  chunkRole : Option Value
deriving DecidableEq

/-- `str(first or … or default)`. -/
def firstText (default : Text) : List (Option Value) → Text
  | [] => default
  | none::rest => firstText default rest
  | some value::rest => if value.truthy then value.text else firstText default rest

def isDeleted (chunk : Chunk) : Bool := chunk.deleted.any Value.truthy

def isRetrievalChunk (chunk : Chunk) : Bool := firstText "child".toList [chunk.chunkRole] ≠ "parent".toList

def documentKey (chunk : Chunk) : Text × Text :=
  ((chunk.source.map Value.text).getD "None".toList,chunk.pageContent)

inductive Raised
  | attributeError
deriving DecidableEq

/-- `document_course_code`. The method is called on a `Path`, which has none of that name. -/
def documentCourseCode (chunk : Chunk) : Except Raised Text :=
  let code := firstText [] [chunk.courseCode,chunk.courseFile]
  if code ≠ [] then .ok code
  else if ".md".toList.isSuffixOf (firstText [] [chunk.source]) then .error .attributeError
  else .ok []

/-- `_matches_course`; an empty code is none. -/
def matchesCourse (courseCode : Text) (chunk : Chunk) : Except Raised Bool :=
  if courseCode = [] then .ok true else (documentCourseCode chunk).map (· == courseCode)

abbrev Stores := Dict Text (List Chunk)

def searchScopes (indexes : Stores) (tenantId courseCode : Text) : List Text :=
  if courseCode ≠ [] then [tenantId].filter indexes.keys.contains
  else (if indexes.keys.contains platformTenant ∧ tenantId ≠ platformTenant then [tenantId,platformTenant]
    else [tenantId]).filter indexes.keys.contains

def iterStoreDocuments (store : List Chunk) : List Chunk := store.filter (fun chunk => !isDeleted chunk)

/-- `[doc for doc in documents if _matches_course(doc, course_code)]`. -/
def courseFilter (courseCode : Text) : List Chunk → Except Raised (List Chunk)
  | [] => .ok []
  | chunk::rest =>
    match matchesCourse courseCode chunk with
    | .error raised => .error raised
    | .ok found => (courseFilter courseCode rest).map (fun later => if found then chunk::later else later)

def scopeDocuments (indexes : Stores) (tenantId courseCode : Text) : List Chunk :=
  (searchScopes indexes tenantId courseCode).flatMap (fun scope =>
    iterStoreDocuments (indexes.getD scope []))

def iterTenantDocuments (indexes : Stores) (tenantId courseCode : Text) : Except Raised (List Chunk) :=
  if courseCode = [] then .ok (scopeDocuments indexes tenantId courseCode)
  else courseFilter courseCode (scopeDocuments indexes tenantId courseCode)

/-- The search of the vector store, the word segmentation, and the BM25 scores of a tokenized corpus. -/
structure Engines (Score : Type*) where
  nearest : List Chunk → Text → Nat → List (Chunk × Score)
  tokenize : Text → List Text
  bm25Scores : List (List Text) → List Text → List Score

section
variable {Score : Type*} (engines : Engines Score)

/-! Vector search. -/

/-- The loop over the sorted hits, with the keys seen and the hits ranked so far. -/
def rankVectors (courseCode : Text) (fetchK : Nat) :
    List (Chunk × Score) → List (Text × Text) → List (Chunk × Score) →
      Except Raised (List (Chunk × Score))
  | [], _, ranked => .ok ranked
  | hit::rest, seen, ranked =>
    if isDeleted hit.1 then rankVectors courseCode fetchK rest seen ranked
    else
      match matchesCourse courseCode hit.1 with
      | .error raised => .error raised
      | .ok false => rankVectors courseCode fetchK rest seen ranked
      | .ok true =>
        if !isRetrievalChunk hit.1 then rankVectors courseCode fetchK rest seen ranked
        else if seen.contains (documentKey hit.1) then rankVectors courseCode fetchK rest seen ranked
        else if fetchK ≤ (ranked ++ [hit]).length then .ok (ranked ++ [hit])
        else rankVectors courseCode fetchK rest (documentKey hit.1::seen) (ranked ++ [hit])

def scoredVectors [LinearOrder Score] (indexes : Stores) (query tenantId : Text) (fetchK : Nat)
    (courseCode : Text) : List (Chunk × Score) :=
  ((searchScopes indexes tenantId courseCode).flatMap (fun scope =>
    let store := indexes.getD scope []
    if store.length ≤ 0 then []
    else engines.nearest store query (vectorInnerK fetchK courseCode store.length))).insertionSort
      (fun first second => first.2 ≤ second.2)

def searchVector [Field Score] [LinearOrder Score] (indexes : Stores) (query tenantId : Text) (fetchK : Nat)
    (courseCode : Text) : Except Raised (List (Chunk × Score)) :=
  (rankVectors courseCode fetchK (scoredVectors engines indexes query tenantId fetchK courseCode) [] []).map
    (fun ranked => ranked.map (fun hit => (hit.1,l2ToSimilarity hit.2)))

/-! Lexical search. -/

variable [Field Score] [LinearOrder Score]

def bm25Search (documents : List Chunk) (query : Text) (k : Nat) : List (Chunk × Score) :=
  let tokens := engines.tokenize query
  if tokens.isEmpty || k == 0 then []
  else
    let tokenized := documents.map (fun document =>
      let words := engines.tokenize document.pageContent
      if words.isEmpty then [[]] else words)
    (sortDescending Prod.snd ((documents.zip (engines.bm25Scores tokenized tokens)).filter
      (fun hit => 0 < hit.2))).take k

/-- `_bm25_index`: the index that was built before, or one of the store. -/
def bm25Index (lexical : Dict Text (Option (List Chunk))) (indexes : Stores) (scope : Text) :
    Option (List Chunk) :=
  match lexical.get? scope with
  | some built => built
  | none =>
    match indexes.get? scope with
    | none => none
    | some store =>
      let documents := (iterStoreDocuments store).filter isRetrievalChunk
      if documents = [] then none else some documents

abbrev Best (Score : Type*) := Dict (Text × Text) (Chunk × Score)

/-- The better of two hits of a key, the one found first when the scores are equal. -/
def keepBest (courseCode : Text) (best : Best Score) (hit : Chunk × Score) : Except Raised (Best Score) :=
  match matchesCourse courseCode hit.1 with
  | .error raised => .error raised
  | .ok false => .ok best
  | .ok true =>
    match best.get? (documentKey hit.1) with
    | none => .ok (best.set (documentKey hit.1) hit)
    | some previous =>
      .ok (if previous.2 < hit.2 then best.set (documentKey hit.1) hit else best)

/-- The hits of the lexical indexes of the scopes, one scope after the other. -/
def lexicalHits (lexical : Dict Text (Option (List Chunk))) (indexes : Stores) (query tenantId : Text)
    (fetchK : Nat) (courseCode : Text) : List (Chunk × Score) :=
  let lexicalFetch := if courseCode ≠ [] then max (fetchK * 4) 16 else fetchK
  (searchScopes indexes tenantId courseCode).flatMap (fun scope =>
    match bm25Index lexical indexes scope with
    | none => []
    | some documents => bm25Search engines documents query lexicalFetch)

def searchBm25 (lexical : Dict Text (Option (List Chunk))) (indexes : Stores) (query tenantId : Text)
    (fetchK : Nat) (courseCode : Text) : Except Raised (List (Chunk × Score)) :=
  ((lexicalHits engines lexical indexes query tenantId fetchK courseCode).foldlM
    (keepBest courseCode) ∅).map (fun best => (sortDescending Prod.snd best.values).take fetchK)

end

/-! The course of a chunk. -/

/-- There is no code, and the chunk comes from a Markdown file. -/
def isLegacy (chunk : Chunk) : Bool :=
  firstText [] [chunk.courseCode,chunk.courseFile] = [] &&
    ".md".toList.isSuffixOf (firstText [] [chunk.source])

def fileName (source : Text) : Text := (source.reverse.takeWhile (· ≠ '/')).reverse

/-- The code of the course, else its file, else the stem of the Markdown file. -/
def chunkCourse (chunk : Chunk) : Text :=
  let code := firstText [] [chunk.courseCode,chunk.courseFile]
  if code ≠ [] then code
  else if isLegacy chunk then stem (fileName (firstText [] [chunk.source]))
  else []

private theorem matchesCourse_eq {courseCode : Text} (bound : courseCode ≠ []) (chunk : Chunk) :
    matchesCourse courseCode chunk =
      if isLegacy chunk then .error .attributeError else .ok (chunkCourse chunk == courseCode) := by
  rw [matchesCourse,if_neg bound]
  unfold documentCourseCode chunkCourse
  by_cases code : firstText [] [chunk.courseCode,chunk.courseFile] = []
  · by_cases file : ".md".toList.isSuffixOf (firstText [] [chunk.source]) = true
    · have legacy : isLegacy chunk = true := by
        unfold isLegacy
        rw [file,Bool.and_true]
        exact decide_eq_true code
      simp only [code,ne_eq,not_true,if_false,if_pos file,if_pos legacy]
      rfl
    · have other : ¬isLegacy chunk = true := by
        unfold isLegacy
        rw [Bool.eq_false_iff.mpr file]
        simp
      simp only [code,ne_eq,not_true,if_false,if_neg file,if_neg other]
      rfl
  · have other : ¬isLegacy chunk = true := by simp [isLegacy,code]
    simp only [ne_eq,code,not_false_eq_true,if_true,if_neg other]
    rfl

section
variable {courseCode : Text} (bound : courseCode ≠ [])
include bound

private theorem courseFilter_eq (chunks : List Chunk) : courseFilter courseCode chunks =
    if chunks.any isLegacy then .error .attributeError
    else .ok (chunks.filter (fun chunk => chunkCourse chunk == courseCode)) := by
  induction chunks with
  | nil => rfl
  | cons chunk rest ih =>
    rw [courseFilter,matchesCourse_eq bound,ih]
    cases legacy : isLegacy chunk with
    | true => simp [legacy]
    | false =>
      cases later : rest.any isLegacy with
      | true =>
        rw [List.any_cons,legacy,later]
        rfl
      | false =>
        rw [List.any_cons,legacy,later]
        cases same : chunkCourse chunk == courseCode <;> simp [same,Except.map]

/-! The vector search. -/

def isEligible (courseCode : Text) (chunk : Chunk) : Bool :=
  !isDeleted chunk && chunkCourse chunk == courseCode && isRetrievalChunk chunk

/-- What the loop looks at: every hit until as many chunks of the course are found as are asked for. -/
def considered {Score : Type*} (courseCode : Text) (fetchK : Nat) :
    List (Chunk × Score) → List (Text × Text) → Nat → List (Chunk × Score)
  | [], _, _ => []
  | hit::rest, seen, count =>
    if isEligible courseCode hit.1 && !seen.contains (documentKey hit.1) then
      if fetchK ≤ count + 1 then [hit]
      else hit::considered courseCode fetchK rest (documentKey hit.1::seen) (count + 1)
    else hit::considered courseCode fetchK rest seen count

/-- The course of the chunk is read, unless the chunk is skipped before. -/
def isRead (chunk : Chunk) : Bool := isDeleted chunk || !isLegacy chunk

end

section
variable {Score : Type*} {courseCode : Text} (bound : courseCode ≠ []) (fetchK : Nat)
  (hit : Chunk × Score) (rest : List (Chunk × Score)) (seen : List (Text × Text))
  (ranked : List (Chunk × Score))

omit bound in
theorem mem_considered_head : hit ∈ considered courseCode fetchK (hit::rest) seen ranked.length := by
  unfold considered
  split_ifs
  · exact List.mem_singleton_self hit
  · exact List.mem_cons_self
  · exact List.mem_cons_self

include bound

private theorem rank_unread (unread : isRead hit.1 = false) :
    rankVectors courseCode fetchK (hit::rest) seen ranked = .error .attributeError := by
  simp only [isRead,Bool.or_eq_false_iff,Bool.not_eq_false'] at unread
  rw [rankVectors,if_neg (by simp [unread.1]),matchesCourse_eq bound,if_pos unread.2]

private theorem rank_read (read : isRead hit.1 = true) :
    rankVectors courseCode fetchK (hit::rest) seen ranked =
      if isEligible courseCode hit.1 && !seen.contains (documentKey hit.1) then
        if fetchK ≤ ranked.length + 1 then .ok (ranked ++ [hit])
        else rankVectors courseCode fetchK rest (documentKey hit.1::seen) (ranked ++ [hit])
      else rankVectors courseCode fetchK rest seen ranked := by
  rw [rankVectors]
  cases deleted : isDeleted hit.1 with
  | true => simp [isEligible,deleted]
  | false =>
    have other : isLegacy hit.1 = false := by simpa [isRead,deleted] using read
    rw [matchesCourse_eq bound,other]
    cases course : chunkCourse hit.1 == courseCode <;> cases chunk : isRetrievalChunk hit.1 <;>
      cases known : seen.contains (documentKey hit.1) <;> simp [isEligible,deleted,course,chunk]

end

/-- What a ranking adds for the hits it looks at: chunks of the course, and every key of it. -/
structure Ranks {Score : Type*} (courseCode : Text) (looked : List (Chunk × Score))
    (seen : List (Text × Text)) (more : List (Chunk × Score)) : Prop where
  only : ∀ hit ∈ more, chunkCourse hit.1 = courseCode
  every : ∀ hit ∈ looked, isEligible courseCode hit.1 = true →
    documentKey hit.1 ∈ seen ∨ documentKey hit.1 ∈ more.map (fun found => documentKey found.1)

section
variable {Score : Type*} {courseCode : Text} {hit : Chunk × Score}
  {looked more : List (Chunk × Score)} {seen : List (Text × Text)}

private theorem course_of_eligible {chunk : Chunk} (eligible : isEligible courseCode chunk = true) :
    chunkCourse chunk = courseCode := by
  simp only [isEligible,Bool.and_eq_true,beq_iff_eq] at eligible
  exact eligible.1.2

theorem Ranks.last (eligible : isEligible courseCode hit.1 = true) :
    Ranks courseCode [hit] seen [hit] := by
  constructor
  · intro other found
    rw [List.mem_singleton.mp found]
    exact course_of_eligible eligible
  · intro other found _
    rw [List.mem_singleton.mp found]
    exact .inr List.mem_cons_self

theorem Ranks.skip (ranks : Ranks courseCode looked seen more)
    (skipped : (isEligible courseCode hit.1 && !seen.contains (documentKey hit.1)) = false) :
    Ranks courseCode (hit::looked) seen more := by
  refine ⟨ranks.only,?_⟩
  intro other found eligible
  cases List.mem_cons.mp found with
  | inl same =>
    subst other
    rw [eligible,Bool.true_and,Bool.not_eq_false'] at skipped
    exact .inl (List.contains_iff_mem.mp skipped)
  | inr later => exact ranks.every other later eligible

theorem Ranks.take (ranks : Ranks courseCode looked (documentKey hit.1::seen) more)
    (eligible : isEligible courseCode hit.1 = true) :
    Ranks courseCode (hit::looked) seen (hit::more) := by
  constructor
  · intro other found
    cases List.mem_cons.mp found with
    | inl same => exact same ▸ course_of_eligible eligible
    | inr later => exact ranks.only other later
  · intro other found listed
    cases List.mem_cons.mp found with
    | inl same => exact .inr (same ▸ List.mem_cons_self)
    | inr later =>
      cases ranks.every other later listed with
      | inl known =>
        cases List.mem_cons.mp known with
        | inl same => exact .inr (List.mem_cons.mpr (.inl same))
        | inr before => exact .inl before
      | inr found => exact .inr (List.mem_cons_of_mem _ found)

end

section
variable {Score : Type*} {courseCode : Text} (bound : courseCode ≠ []) (fetchK : Nat)
include bound

private theorem rank_reads (hits : List (Chunk × Score)) (seen : List (Text × Text))
    (ranked : List (Chunk × Score))
    (reads : ∀ hit ∈ considered courseCode fetchK hits seen ranked.length, isRead hit.1 = true) :
    ∃ more, rankVectors courseCode fetchK hits seen ranked = .ok (ranked ++ more) ∧
      Ranks courseCode (considered courseCode fetchK hits seen ranked.length) seen more := by
  induction hits generalizing seen ranked with
  | nil => exact ⟨[],by rw [rankVectors,List.append_nil],by simp,by simp [considered]⟩
  | cons hit rest ih =>
    rw [rank_read bound fetchK hit rest seen ranked
      (reads hit (mem_considered_head fetchK hit rest seen ranked))]
    unfold considered at reads ⊢
    split_ifs at reads ⊢ with taken full
    · exact ⟨[hit],rfl,.last (Bool.and_eq_true_iff.mp taken).1⟩
    · have length : (ranked ++ [hit]).length = ranked.length + 1 := by simp
      rw [← length] at reads ⊢
      obtain ⟨more,result,ranks⟩ := ih (documentKey hit.1::seen) (ranked ++ [hit])
        (fun other found => reads other (List.mem_cons_of_mem _ found))
      refine ⟨hit::more,?_,ranks.take (Bool.and_eq_true_iff.mp taken).1⟩
      rw [result,List.append_assoc,List.singleton_append]
    · obtain ⟨more,result,ranks⟩ := ih seen ranked
        (fun other found => reads other (List.mem_cons_of_mem _ found))
      exact ⟨more,result,ranks.skip (Bool.eq_false_iff.mpr taken)⟩

private theorem reads_of_rank (hits : List (Chunk × Score)) (seen : List (Text × Text))
    (ranked result : List (Chunk × Score))
    (ok : rankVectors courseCode fetchK hits seen ranked = .ok result) :
    ∀ hit ∈ considered courseCode fetchK hits seen ranked.length, isRead hit.1 = true := by
  induction hits generalizing seen ranked with
  | nil => simp [considered]
  | cons hit rest ih =>
    cases read : isRead hit.1 with
    | false =>
      rw [rank_unread bound fetchK hit rest seen ranked read] at ok
      exact absurd ok (by simp)
    | true =>
      rw [rank_read bound fetchK hit rest seen ranked read] at ok
      intro other found
      rw [considered] at found
      split_ifs at ok found with taken full
      · rw [List.mem_singleton.mp found]
        exact read
      · cases List.mem_cons.mp found with
        | inl same => exact same ▸ read
        | inr later =>
          apply ih (documentKey hit.1::seen) (ranked ++ [hit]) ok
          rw [List.length_append,List.length_singleton]
          exact later
      · cases List.mem_cons.mp found with
        | inl same => exact same ▸ read
        | inr later => exact ih seen ranked ok other later

end

/-! The lexical search. -/

section
variable {Score : Type*} [LinearOrder Score]

private theorem mem_best (items : List (Chunk × Score)) (k : Nat) (item : Chunk × Score) (found : item ∈ items) :
    item ∈ (sortDescending Prod.snd items).take k ∨
      (k ≤ ((sortDescending Prod.snd items).take k).length ∧
        ∀ other ∈ (sortDescending Prod.snd items).take k, item.2 ≤ other.2) := by
  have total : Std.Total (fun first second : Chunk × Score => second.2 ≤ first.2) :=
    ⟨fun first second => le_total second.2 first.2⟩
  have trans : IsTrans (Chunk × Score) (fun first second => second.2 ≤ first.2) :=
    ⟨fun _ _ _ before after => le_trans after before⟩
  have sorted : (sortDescending Prod.snd items).Pairwise
      (fun first second : Chunk × Score => second.2 ≤ first.2) := List.pairwise_insertionSort _ items
  have present : item ∈ sortDescending Prod.snd items := (List.mem_insertionSort _).mpr found
  rw [← List.take_append_drop k (sortDescending Prod.snd items)] at sorted present
  cases List.mem_append.mp present with
  | inl first => exact .inl first
  | inr later =>
    right
    have longer := List.length_pos_of_mem later
    rw [List.length_drop] at longer
    refine ⟨?_,fun other kept => (List.pairwise_append.mp sorted).2.2 other kept item later⟩
    rw [List.length_take]
    omega

/-- What the best hits hold after some hits: each of the course under its key, with the best score. -/
structure Kept (courseCode : Text) (hits : List (Chunk × Score)) (best : Best Score) : Prop where
  only : ∀ key kept, best.get? key = some kept → documentKey kept.1 = key ∧ chunkCourse kept.1 = courseCode
  every : ∀ hit ∈ hits, chunkCourse hit.1 = courseCode →
    ∃ kept, best.get? (documentKey hit.1) = some kept ∧ hit.2 ≤ kept.2

variable {courseCode : Text}

theorem Kept.set {hits : List (Chunk × Score)} {best : Best Score} (kept : Kept courseCode hits best)
    (hit : Chunk × Score) (course : chunkCourse hit.1 = courseCode)
    (better : ∀ previous, best.get? (documentKey hit.1) = some previous → previous.2 ≤ hit.2) :
    Kept courseCode (hits ++ [hit]) (best.set (documentKey hit.1) hit) := by
  constructor
  · intro key other found
    rw [Dict.get?_set] at found
    split_ifs at found with same
    · cases found
      exact ⟨same.symm,course⟩
    · exact kept.only key other found
  · intro other found matching
    rw [Dict.get?_set]
    cases List.mem_append.mp found with
    | inl earlier =>
      obtain ⟨previous,held,less⟩ := kept.every other earlier matching
      split_ifs with same
      · exact ⟨hit,rfl,less.trans (better previous (same ▸ held))⟩
      · exact ⟨previous,held,less⟩
    | inr last =>
      rw [List.mem_singleton.mp last,if_pos rfl]
      exact ⟨hit,rfl,le_rfl⟩

theorem Kept.skip {hits : List (Chunk × Score)} {best : Best Score} (kept : Kept courseCode hits best)
    (hit : Chunk × Score) (held : chunkCourse hit.1 = courseCode →
      ∃ previous, best.get? (documentKey hit.1) = some previous ∧ hit.2 ≤ previous.2) :
    Kept courseCode (hits ++ [hit]) best := by
  refine ⟨kept.only,?_⟩
  intro other found matching
  cases List.mem_append.mp found with
  | inl earlier => exact kept.every other earlier matching
  | inr last =>
    rw [List.mem_singleton.mp last] at matching ⊢
    exact held matching

variable (bound : courseCode ≠ [])
include bound

private theorem keepBest_step {hits : List (Chunk × Score)} {best : Best Score}
    (kept : Kept courseCode hits best) (hit : Chunk × Score) (read : isLegacy hit.1 = false) :
    ∃ next, keepBest courseCode best hit = .ok next ∧ Kept courseCode (hits ++ [hit]) next := by
  rw [keepBest,matchesCourse_eq bound,read,if_neg Bool.false_ne_true]
  cases course : chunkCourse hit.1 == courseCode with
  | false =>
    refine ⟨best,rfl,kept.skip hit ?_⟩
    intro same
    rw [same,beq_self_eq_true] at course
    exact absurd course (by simp)
  | true =>
    have same := beq_iff_eq.mp course
    cases held : best.get? (documentKey hit.1) with
    | none =>
      refine ⟨_,rfl,kept.set hit same ?_⟩
      intro previous found
      rw [held] at found
      exact absurd found (by simp)
    | some previous =>
      refine ⟨_,rfl,?_⟩
      split_ifs with better
      · apply kept.set hit same
        intro other found
        rw [held] at found
        cases found
        exact better.le
      · exact kept.skip hit (fun _ => ⟨previous,held,not_lt.mp better⟩)

private theorem keepBest_run (hits : List (Chunk × Score)) (reads : ∀ hit ∈ hits, isLegacy hit.1 = false) :
    ∃ best, hits.foldlM (keepBest courseCode) ∅ = .ok best ∧ Kept courseCode hits best := by
  induction hits using List.reverseRecOn with
  | nil => exact ⟨∅,rfl,by simp,by simp⟩
  | append_singleton earlier hit ih =>
    obtain ⟨best,result,kept⟩ := ih (fun other found => reads other (List.mem_append_left _ found))
    obtain ⟨next,step,after⟩ := keepBest_step bound kept hit (reads hit (by simp))
    refine ⟨next,?_,after⟩
    rw [List.foldlM_append,result]
    exact (bind_pure _).trans step

private theorem reads_of_keepBest (hits : List (Chunk × Score)) (best result : Best Score)
    (ok : hits.foldlM (keepBest courseCode) best = .ok result) : ∀ hit ∈ hits, isLegacy hit.1 = false := by
  induction hits generalizing best with
  | nil => simp
  | cons hit rest ih =>
    rw [List.foldlM_cons] at ok
    cases read : isLegacy hit.1 with
    | true =>
      rw [keepBest,matchesCourse_eq bound,if_pos read] at ok
      exact absurd ok (by simp [bind,Except.bind])
    | false =>
      cases step : keepBest courseCode best hit with
      | error raised =>
        rw [step] at ok
        exact absurd ok (by simp [bind,Except.bind])
      | ok next =>
        rw [step] at ok
        intro other found
        cases List.mem_cons.mp found with
        | inl same => exact same ▸ read
        | inr later => exact ih next ok other later

end

/-! Chunks that the ingestion builds. -/

def ofText (text : Text) : Value := ⟨!text.isEmpty,text⟩

def ofDocument (document : Knowledge.Document) : Chunk where
  pageContent := document.pageContent
  courseCode := some (ofText document.courseCode)
  courseFile := some (ofText document.courseCode)
  source := some (ofText document.source)
  deleted := if document.deleted then some ⟨true,"True".toList⟩ else none
  chunkRole := some (ofText (if document.chunkRole = .parent then "parent".toList else "child".toList))

@[simp] theorem isDeleted_ofDocument (document : Knowledge.Document) :
    isDeleted (ofDocument document) = document.deleted := by
  cases document with | mk => rename_i deleted _ _ _ _ _ _ _ _ _; cases deleted <;> rfl

@[simp] theorem isRetrievalChunk_ofDocument (document : Knowledge.Document) :
    isRetrievalChunk (ofDocument document) = Knowledge.isRetrievalChunk document := by
  unfold isRetrievalChunk Knowledge.isRetrievalChunk
  rw [decide_eq_decide]
  dsimp only [ofDocument]
  by_cases parent : document.chunkRole = .parent
  · simp only [parent,if_true]
    decide +kernel
  · simp only [parent,if_false]
    exact iff_of_true (by decide +kernel) parent

@[simp] theorem documentKey_ofDocument (document : Knowledge.Document) :
    documentKey (ofDocument document) = Knowledge.documentKey document := rfl

theorem matchesCourse_ofDocument (courseCode : Text) {document : Knowledge.Document}
    (coded : document.courseCode ≠ []) :
    matchesCourse courseCode (ofDocument document) = .ok (Knowledge.matchesCourse courseCode document) := by
  have given : (ofText document.courseCode).truthy = true := by simp [ofText,coded]
  have code : firstText [] [(ofDocument document).courseCode,(ofDocument document).courseFile] =
      document.courseCode := if_pos given
  unfold matchesCourse Knowledge.matchesCourse documentCourseCode
  by_cases free : courseCode = []
  · simp [free]
  · simp only [code,ne_eq,coded,not_false_eq_true,if_true,if_neg free]
    simp [Except.map,free]

theorem rankVectors_ofDocument {Score : Type*} (courseCode : Text) (fetchK : Nat)
    (hits : List (Knowledge.Document × Score)) (coded : ∀ hit ∈ hits, hit.1.courseCode ≠ [])
    (seen : List (Text × Text)) (ranked : List (Knowledge.Document × Score)) :
    rankVectors courseCode fetchK (hits.map (Prod.map ofDocument id)) seen
        (ranked.map (Prod.map ofDocument id)) =
      .ok ((Knowledge.rankVectors courseCode fetchK hits seen ranked).map (Prod.map ofDocument id)) := by
  induction hits generalizing seen ranked with
  | nil => rfl
  | cons hit rest ih =>
    have later := ih (fun other found => coded other (List.mem_cons_of_mem _ found))
    have longer := later (Knowledge.documentKey hit.1::seen) (ranked ++ [hit])
    rw [List.map_append,List.map_singleton] at longer
    rw [List.map_cons,rankVectors,Knowledge.rankVectors]
    simp only [Prod.map_fst,isDeleted_ofDocument,isRetrievalChunk_ofDocument,documentKey_ofDocument,
      matchesCourse_ofDocument courseCode (coded hit List.mem_cons_self),List.length_append,List.length_map,
      List.length_singleton]
    cases hit.1.deleted <;> cases Knowledge.matchesCourse courseCode hit.1 <;>
      simp only [Bool.false_eq_true,if_false,if_true,Bool.not_true,Bool.not_false,Bool.or_false,
        Bool.or_true,later]
    split_ifs
    · rfl
    · rfl
    · rw [List.map_append,List.map_singleton]
    · exact longer

/-! What the three functions return. -/

def IteratesCourse (indexes : Stores) (tenantId courseCode : Text) : Prop :=
  iterTenantDocuments indexes tenantId courseCode =
    .ok ((scopeDocuments indexes tenantId courseCode).filter (fun chunk => chunkCourse chunk == courseCode))

section
variable {Score : Type*} [Field Score] [LinearOrder Score]
  (engines : Engines Score) (lexical : Dict Text (Option (List Chunk))) (indexes : Stores)
  (query tenantId : Text) (fetchK : Nat) (courseCode : Text)

def consideredVectors : List (Chunk × Score) :=
  considered courseCode fetchK (scoredVectors engines indexes query tenantId fetchK courseCode) [] 0

/-- Chunks of the course only, and each that may be returned under its key. -/
def FindsVectors : Prop :=
  ∃ ranked, searchVector engines indexes query tenantId fetchK courseCode = .ok ranked ∧
    (∀ hit ∈ ranked, chunkCourse hit.1 = courseCode) ∧
    ∀ hit ∈ consideredVectors engines indexes query tenantId fetchK courseCode,
      isEligible courseCode hit.1 = true →
        documentKey hit.1 ∈ ranked.map (fun found => documentKey found.1)

/-- Chunks of the course only, and each hit of it under its key, unless the result is full of hits that
score no less. -/
def FindsLexical : Prop :=
  ∃ ranked, searchBm25 engines lexical indexes query tenantId fetchK courseCode = .ok ranked ∧
    (∀ hit ∈ ranked, chunkCourse hit.1 = courseCode) ∧
    ∀ hit ∈ lexicalHits engines lexical indexes query tenantId fetchK courseCode,
      chunkCourse hit.1 = courseCode →
        documentKey hit.1 ∈ ranked.map (fun found => documentKey found.1) ∨
          (fetchK ≤ ranked.length ∧ ∀ found ∈ ranked, hit.2 ≤ found.2)

variable {courseCode} (bound : courseCode ≠ [])
include bound

omit [Field Score] [LinearOrder Score] in
theorem iteratesCourse_iff : IteratesCourse indexes tenantId courseCode ↔
    ∀ chunk ∈ scopeDocuments indexes tenantId courseCode, isLegacy chunk = false := by
  rw [IteratesCourse,iterTenantDocuments,if_neg bound,courseFilter_eq bound]
  cases legacy : (scopeDocuments indexes tenantId courseCode).any isLegacy with
  | true =>
    obtain ⟨chunk,found,old⟩ := List.any_eq_true.mp legacy
    refine ⟨fun same => absurd same (by simp),fun reads => ?_⟩
    exact absurd old (by simp [reads chunk found])
  | false => simpa using legacy

private theorem findsVectors_iff : FindsVectors engines indexes query tenantId fetchK courseCode ↔
    ∀ hit ∈ consideredVectors engines indexes query tenantId fetchK courseCode, isRead hit.1 = true := by
  constructor
  · intro finds
    obtain ⟨ranked,ok,_⟩ := finds
    rw [searchVector] at ok
    cases result : rankVectors courseCode fetchK
        (scoredVectors engines indexes query tenantId fetchK courseCode) [] [] with
    | error raised =>
      rw [result] at ok
      exact absurd ok (by simp [Except.map])
    | ok found => exact reads_of_rank bound fetchK _ [] [] found result
  · intro reads
    obtain ⟨found,result,ranks⟩ := rank_reads bound fetchK
      (scoredVectors engines indexes query tenantId fetchK courseCode) [] [] reads
    refine ⟨found.map (fun hit => (hit.1,l2ToSimilarity hit.2)),?_,?_,?_⟩
    · rw [searchVector,result]
      rfl
    · intro hit member
      obtain ⟨source,here,rfl⟩ := List.mem_map.mp member
      exact ranks.only source here
    · intro hit looked eligible
      rw [List.map_map]
      cases ranks.every hit looked eligible with
      | inl known => exact absurd known (by simp)
      | inr here => exact here

private theorem findsLexical_iff : FindsLexical engines lexical indexes query tenantId fetchK courseCode ↔
    ∀ hit ∈ lexicalHits engines lexical indexes query tenantId fetchK courseCode,
      isLegacy hit.1 = false := by
  constructor
  · intro finds
    obtain ⟨ranked,ok,_⟩ := finds
    rw [searchBm25] at ok
    cases result : (lexicalHits engines lexical indexes query tenantId fetchK courseCode).foldlM
        (keepBest courseCode) ∅ with
    | error raised =>
      rw [result] at ok
      exact absurd ok (by simp [Except.map])
    | ok best => exact reads_of_keepBest bound _ ∅ best result
  · intro reads
    obtain ⟨best,result,kept⟩ := keepBest_run bound
      (lexicalHits engines lexical indexes query tenantId fetchK courseCode) reads
    refine ⟨(sortDescending Prod.snd best.values).take fetchK,?_,?_,?_⟩
    · rw [searchBm25,result]
      rfl
    · intro hit member
      have stored := (List.mem_insertionSort _).mp (List.mem_of_mem_take member)
      obtain ⟨entry,present,rfl⟩ := List.mem_map.mp stored
      exact (kept.only entry.1 entry.2 ((best.get?_eq_some _ _).mpr present)).2
    · intro hit found course
      obtain ⟨other,held,less⟩ := kept.every hit found course
      have stored : other ∈ best.values :=
        List.mem_map.mpr ⟨_,(best.get?_eq_some _ _).mp held,rfl⟩
      cases mem_best best.values fetchK other stored with
      | inl first =>
        left
        rw [← (kept.only _ _ held).1]
        exact List.mem_map_of_mem first
      | inr full => exact .inr ⟨full.1,fun better member => less.trans (full.2 better member)⟩

/-- The functions meet the course binding exactly where they read no old chunk. -/
theorem course_binding_iff :
    (IteratesCourse indexes tenantId courseCode ↔
      ∀ chunk ∈ scopeDocuments indexes tenantId courseCode, isLegacy chunk = false) ∧
    (FindsVectors engines indexes query tenantId fetchK courseCode ↔
      ∀ hit ∈ consideredVectors engines indexes query tenantId fetchK courseCode, isRead hit.1 = true) ∧
    (FindsLexical engines lexical indexes query tenantId fetchK courseCode ↔
      ∀ hit ∈ lexicalHits engines lexical indexes query tenantId fetchK courseCode,
        isLegacy hit.1 = false) :=
  ⟨iteratesCourse_iff indexes tenantId bound,
    findsVectors_iff engines indexes query tenantId fetchK bound,
    findsLexical_iff engines lexical indexes query tenantId fetchK bound⟩

end

/-! An old index and a new one. -/

/-- Every chunk is at the same distance, and a chunk scores the words it shares with the query. -/
def plainEngines : Engines ℚ where
  nearest store _ count := (store.take count).map (fun chunk => (chunk,0))
  tokenize text := if text = [] then [] else [text]
  bm25Scores corpus tokens := corpus.map (fun words => (words.filter tokens.contains).length)

def oldChunk : Chunk := ⟨"loops".toList,none,none,some (ofText "a.md".toList),none,none⟩

def newChunk : Chunk := { oldChunk with courseCode := some (ofText "a".toList) }

def demoIndex (chunk : Chunk) : Stores := (∅ : Stores).set "demo".toList [chunk]

theorem course_binding_old_index : chunkCourse oldChunk = "a".toList ∧
    iterTenantDocuments (demoIndex oldChunk) "demo".toList "a".toList = .error .attributeError ∧
    searchVector plainEngines (demoIndex oldChunk) "loops".toList "demo".toList 12 "a".toList =
      .error .attributeError ∧
    searchBm25 plainEngines ∅ (demoIndex oldChunk) "loops".toList "demo".toList 12 "a".toList =
      .error .attributeError ∧
    ¬IteratesCourse (demoIndex oldChunk) "demo".toList "a".toList ∧
    ¬FindsVectors plainEngines (demoIndex oldChunk) "loops".toList "demo".toList 12 "a".toList ∧
    ¬FindsLexical plainEngines ∅ (demoIndex oldChunk) "loops".toList "demo".toList 12 "a".toList := by
  have vector : searchVector plainEngines (demoIndex oldChunk) "loops".toList "demo".toList 12
      "a".toList = .error .attributeError := by rfl
  have word : searchBm25 plainEngines ∅ (demoIndex oldChunk) "loops".toList "demo".toList 12
      "a".toList = .error .attributeError := by rfl
  have iterated : iterTenantDocuments (demoIndex oldChunk) "demo".toList "a".toList =
      .error .attributeError := by rfl
  refine ⟨by decide +kernel,iterated,vector,word,?_,?_,?_⟩
  · intro same
    rw [IteratesCourse,iterated] at same
    cases same
  · intro finds
    obtain ⟨ranked,ok,_⟩ := finds
    rw [vector] at ok
    exact absurd ok (by simp)
  · intro finds
    obtain ⟨ranked,ok,_⟩ := finds
    rw [word] at ok
    exact absurd ok (by simp)

theorem course_binding_new_index :
    IteratesCourse (demoIndex newChunk) "demo".toList "a".toList ∧
    FindsVectors plainEngines (demoIndex newChunk) "loops".toList "demo".toList 12 "a".toList ∧
    FindsLexical plainEngines ∅ (demoIndex newChunk) "loops".toList "demo".toList 12 "a".toList := by
  obtain ⟨iterates,vectors,lexical⟩ := course_binding_iff plainEngines ∅ (demoIndex newChunk)
    "loops".toList "demo".toList 12 (show "a".toList ≠ [] by decide)
  exact ⟨iterates.mpr (by decide +kernel),vectors.mpr (by decide +kernel),
    lexical.mpr (by decide +kernel)⟩

end CustomerService.CourseBinding
