import CustomerService.Champions
import CustomerService.CourseBinding
import Mathlib.Data.Prod.Lex

/-! The context of a search: parents in place of the hits, the other chunks of their sections, and the
neighbours. -/
namespace CustomerService.ContextExpansion

open Text
open CourseBinding (Value firstText documentKey isRetrievalChunk)

/-- A document object of the corpus; `ref` tells it from an equal one. `chunk` is what `int` reads. -/
structure Document extends CourseBinding.Chunk where
  ref : Nat
  chunk : Option Int
  sectionName : Option Value
  parentId : Option Value
deriving DecidableEq

def Document.sourceName (document : Document) : Text := firstText [] [document.source]

def Document.parent (document : Document) : Text := firstText [] [document.parentId]

/-- `str(document.metadata.get("chunk_role"))`. -/
def Document.role (document : Document) : Text := (document.chunkRole.map Value.text).getD "None".toList

def sectionKey (document : Document) : Option (Text × Text) :=
  let name := strip (firstText [] [document.sectionName])
  if document.sourceName = [] ∨ name = [] then none else some (document.sourceName,name)

def key (document : Document) : Text × Text := documentKey document.toChunk

structure RagContextItem where
  document : Document
  hitRank : Nat
  tier : Nat
  distance : Nat
deriving DecidableEq

def RagContextItem.sortKey (item : RagContextItem) : Nat ×ₗ Nat ×ₗ Nat :=
  toLex (item.hitRank,toLex (item.tier,item.distance))

def RagContextItem.place (item : RagContextItem) : Text × Text := key item.document

def betterItem (current : Option RagContextItem) (candidate : RagContextItem) : Bool :=
  match current with
  | none => true
  | some current => decide (candidate.sortKey < current.sortKey)

def parentLookup (corpus : List Document) : Dict Text Document :=
  corpus.foldl (fun parents document =>
    if document.role ≠ "parent".toList then parents
    else if document.parent = [] then parents
    else parents.set document.parent document) ∅

def contextDocument (hit : Document) (parents : Dict Text Document) : Document :=
  if hit.role ≠ "child".toList then hit
  else if hit.parent = [] then hit
  else parents.getD hit.parent hit

structure Indexes where
  bySourceChunk : Dict (Text × Int) Document
  bySection : Dict (Text × Text) (List Document)

def Indexes.add (indexes : Indexes) (document : Document) : Indexes :=
  if !isRetrievalChunk document.toChunk then indexes
  else
    { bySourceChunk :=
        match document.chunk with
        | some index =>
          if document.sourceName ≠ [] then
            indexes.bySourceChunk.set (document.sourceName,index) document
          else indexes.bySourceChunk
        | none => indexes.bySourceChunk
      bySection :=
        match sectionKey document with
        | some place => indexes.bySection.set place (indexes.bySection.getD place [] ++ [document])
        | none => indexes.bySection }

def indexesOf (corpus : List Document) : Indexes := corpus.foldl Indexes.add ⟨∅,∅⟩

section
variable (parents : Dict Text Document) (indexes : Indexes) (window : Nat) (hitRank : Nat) (hit : Document)

def sectionItems : List RagContextItem :=
  match sectionKey hit, hit.chunk with
  | some place, some hitIndex =>
    (indexes.bySection.getD place []).filterMap (fun document =>
      if document.ref = hit.ref then none
      else some ⟨contextDocument document parents,hitRank,1,
        match document.chunk with
        | some index => (index - hitIndex).natAbs
        | none => 0⟩)
  | _, _ => []

/-- `range(-window, window + 1)`. -/
def offsets : List Int := (List.range (2 * window + 1)).map (fun place : Nat => (place : Int) - (window : Int))

def neighbourItems : List RagContextItem :=
  match hit.chunk with
  | some hitIndex =>
    if hit.sourceName ≠ [] ∧ 0 ≤ hitIndex then
      (offsets window).filterMap (fun offset =>
        if offset = 0 then none
        else (indexes.bySourceChunk.get? (hit.sourceName,hitIndex + offset)).map (fun document =>
          ⟨contextDocument document parents,hitRank,2,offset.natAbs⟩))
    else []
  | none => []

def hitItems : List RagContextItem :=
  ⟨contextDocument hit parents,hitRank,0,0⟩::
    (sectionItems parents indexes hitRank hit ++ neighbourItems parents indexes window hitRank hit)

end

def consider (selected : Dict (Text × Text) RagContextItem) (item : RagContextItem) :
    Dict (Text × Text) RagContextItem :=
  if betterItem (selected.get? item.place) item then selected.set item.place item else selected

def allItems (hits corpus : List Document) (neighbor : Int) : List RagContextItem :=
  hits.zipIdx.flatMap (fun hit =>
    hitItems (parentLookup corpus) (indexesOf corpus) (max 0 neighbor).toNat hit.2 hit.1)

def expandHitDocumentsScored (hits corpus : List Document) (neighbor : Int) : List RagContextItem :=
  if hits = [] then []
  else ((allItems hits corpus neighbor).foldl consider ∅).values.insertionSort
    (fun first second => first.sortKey ≤ second.sortKey)

/-! The ways in which a document arises. -/

/-- The last parent of the corpus with the id of the document, else the document. -/
def resolved (corpus : List Document) (document : Document) : Document :=
  if document.role = "child".toList ∧ document.parent ≠ [] then
    ((corpus.filter (fun parent =>
      parent.role = "parent".toList ∧ parent.parent = document.parent)).getLast?).getD document
  else document

def rankKey (hitRank tier distance : Nat) : Nat ×ₗ Nat ×ₗ Nat := toLex (hitRank,toLex (tier,distance))

inductive Arises (hits corpus : List Document) (neighbor : Int) : Document → Nat ×ₗ Nat ×ₗ Nat → Prop
  | own {hitRank : Nat} {hit : Document} (listed : hits[hitRank]? = some hit) :
    Arises hits corpus neighbor (resolved corpus hit) (rankKey hitRank 0 0)
  | sameSection {hitRank : Nat} {hit document : Document} {hitIndex index : Int}
    (listed : hits[hitRank]? = some hit) (stored : document ∈ corpus)
    (chunk : isRetrievalChunk document.toChunk = true) (placed : hit.chunk = some hitIndex)
    (there : document.chunk = some index) (named : sectionKey hit ≠ none)
    (same : sectionKey document = sectionKey hit) :
    Arises hits corpus neighbor (resolved corpus document) (rankKey hitRank 1 (index - hitIndex).natAbs)
  | neighbour {hitRank : Nat} {hit document : Document} {hitIndex index : Int}
    (listed : hits[hitRank]? = some hit) (stored : document ∈ corpus)
    (chunk : isRetrievalChunk document.toChunk = true) (placed : hit.chunk = some hitIndex)
    (inside : 0 ≤ hitIndex) (there : document.chunk = some index) (named : hit.sourceName ≠ [])
    (same : document.sourceName = hit.sourceName) (apart : index ≠ hitIndex)
    (near : ((index - hitIndex).natAbs : Int) ≤ neighbor) :
    Arises hits corpus neighbor (resolved corpus document) (rankKey hitRank 2 (index - hitIndex).natAbs)

/-- Objects of a corpus whose chunks have places of their own. -/
structure Ordered (corpus : List Document) : Prop where
  objects : ∀ first ∈ corpus, ∀ second ∈ corpus, first.ref = second.ref → first = second
  indexed : ∀ document ∈ corpus, isRetrievalChunk document.toChunk = true →
    ∃ index, document.chunk = some index ∧ 0 ≤ index
  apart : ∀ first ∈ corpus, ∀ second ∈ corpus, isRetrievalChunk first.toChunk = true →
    isRetrievalChunk second.toChunk = true → first.sourceName = second.sourceName →
      first.chunk = second.chunk → first = second

/-! The lookups. -/

theorem get?_parentLookup (corpus : List Document) {id : Text} (given : id ≠ []) :
    (parentLookup corpus).get? id = (corpus.filter (fun parent =>
      parent.role = "parent".toList ∧ parent.parent = id)).getLast? := by
  induction corpus using List.reverseRecOn with
  | nil => rfl
  | append_singleton earlier document ih =>
    rw [parentLookup,List.foldl_append,List.foldl_cons,List.foldl_nil,← parentLookup,List.filter_append]
    by_cases role : document.role = "parent".toList
    · by_cases same : document.parent = id
      · subst id
        rw [if_neg (not_not.mpr role),if_neg given,Dict.get?_set,if_pos rfl,
          List.filter_cons_of_pos (by simp [role]),List.filter_nil,List.getLast?_concat]
      · rw [if_neg (not_not.mpr role),List.filter_cons_of_neg (by simp [same]),List.filter_nil,
          List.append_nil,← ih]
        split_ifs with blank
        · rfl
        · rw [Dict.get?_set,if_neg (Ne.symm same)]
    · rw [if_pos role,List.filter_cons_of_neg (fun both => role (of_decide_eq_true both).1),List.filter_nil,
        List.append_nil,ih]

theorem contextDocument_eq (hit : Document) (corpus : List Document) :
    contextDocument hit (parentLookup corpus) = resolved corpus hit := by
  unfold contextDocument resolved
  by_cases role : hit.role = "child".toList
  · by_cases given : hit.parent = []
    · rw [if_neg (not_not.mpr role),if_pos given,if_neg (fun both => both.2 given)]
    · rw [if_neg (not_not.mpr role),if_neg given,if_pos ⟨role,given⟩,Dict.getD,
        get?_parentLookup corpus given]
  · rw [if_pos role,if_neg (fun both => role both.1)]

private theorem bySection_add (indexes : Indexes) (document : Document) (place : Text × Text) :
    (indexes.add document).bySection.getD place [] = indexes.bySection.getD place [] ++
      [document].filter (fun document => isRetrievalChunk document.toChunk && sectionKey document == some place) := by
  unfold Indexes.add
  cases chunk : isRetrievalChunk document.toChunk with
  | false => simp [chunk]
  | true =>
    cases own : sectionKey document with
    | none => simp [chunk,own]
    | some other =>
      simp only [Bool.not_true,Bool.false_eq_true,if_false,Dict.getD_set]
      by_cases same : place = other
      · simp [chunk,own,same]
      · simp [chunk,own,same,Ne.symm same]

private theorem getD_bySection (corpus : List Document) (place : Text × Text) :
    (indexesOf corpus).bySection.getD place [] = corpus.filter (fun document =>
      isRetrievalChunk document.toChunk && sectionKey document == some place) := by
  induction corpus using List.reverseRecOn with
  | nil => rfl
  | append_singleton earlier document ih =>
    rw [indexesOf,List.foldl_append,List.foldl_cons,List.foldl_nil,← indexesOf,bySection_add,ih,
      List.filter_append]

def StandsAt (source : Text) (index : Int) (document : Document) : Prop :=
  isRetrievalChunk document.toChunk = true ∧ document.chunk = some index ∧ document.sourceName = source ∧
    source ≠ []

private theorem bySourceChunk_add (indexes : Indexes) (document : Document) (source : Text) (index : Int)
    (found : Document) (there : (indexes.add document).bySourceChunk.get? (source,index) = some found) :
    StandsAt source index document ∧ found = document ∨
      indexes.bySourceChunk.get? (source,index) = some found := by
  unfold Indexes.add at there
  split_ifs at there with parent named
  · exact .inr there
  · cases own : document.chunk with
    | none =>
      rw [own] at there
      exact .inr there
    | some other =>
      rw [own] at there
      dsimp only at there
      rw [Dict.get?_set] at there
      split_ifs at there with same
      · obtain ⟨rfl,rfl⟩ := Prod.mk.inj same
        exact .inl ⟨⟨by simpa using parent,own,rfl,named⟩,(Option.some.inj there).symm⟩
      · exact .inr there
  · cases own : document.chunk <;> rw [own] at there <;> exact .inr there

private theorem bySourceChunk_stays (indexes : Indexes) {document : Document} {source : Text} {index : Int}
    (present : (indexes.bySourceChunk.get? (source,index)).isSome = true ∨ StandsAt source index document) :
    ((indexes.add document).bySourceChunk.get? (source,index)).isSome = true := by
  unfold Indexes.add
  cases present with
  | inl old =>
    split_ifs
    · exact old
    · cases document.chunk with
      | none => exact old
      | some other =>
        dsimp only
        rw [Dict.get?_set]
        split_ifs
        · rfl
        · exact old
    · cases document.chunk <;> exact old
  | inr stands =>
    obtain ⟨chunk,there,named,some'⟩ := stands
    subst named
    rw [if_neg (by simp [chunk]),there]
    dsimp only
    rw [if_pos some',Dict.get?_set,if_pos rfl]
    rfl

private theorem mem_of_bySourceChunk (corpus : List Document) {source : Text} {index : Int} {found : Document}
    (there : (indexesOf corpus).bySourceChunk.get? (source,index) = some found) :
    found ∈ corpus ∧ StandsAt source index found := by
  induction corpus using List.reverseRecOn with
  | nil => cases there
  | append_singleton earlier document ih =>
    rw [indexesOf,List.foldl_append,List.foldl_cons,List.foldl_nil,← indexesOf] at there
    obtain ⟨stands,rfl⟩ | old := bySourceChunk_add _ _ _ _ _ there
    · exact ⟨by simp,stands⟩
    · obtain ⟨stored,stands⟩ := ih old
      exact ⟨List.mem_append_left _ stored,stands⟩

private theorem bySourceChunk_of_mem (corpus : List Document) {source : Text} {index : Int} {document : Document}
    (stored : document ∈ corpus) (stands : StandsAt source index document) :
    ((indexesOf corpus).bySourceChunk.get? (source,index)).isSome = true := by
  induction corpus using List.reverseRecOn with
  | nil => cases stored
  | append_singleton earlier last ih =>
    rw [indexesOf,List.foldl_append,List.foldl_cons,List.foldl_nil,← indexesOf]
    apply bySourceChunk_stays
    cases List.mem_append.mp stored with
    | inl old => exact .inl (ih old)
    | inr new => exact .inr (List.mem_singleton.mp new ▸ stands)

theorem Ordered.bySourceChunk {corpus : List Document} (ordered : Ordered corpus) {source : Text}
    {index : Int} {document : Document} (stored : document ∈ corpus)
    (stands : StandsAt source index document) :
    (indexesOf corpus).bySourceChunk.get? (source,index) = some document := by
  obtain ⟨found,there⟩ := Option.isSome_iff_exists.mp (bySourceChunk_of_mem corpus stored stands)
  obtain ⟨stored',stands'⟩ := mem_of_bySourceChunk corpus there
  have same : found = document := ordered.apart found stored' document stored stands'.1 stands.1
    (stands'.2.2.1.trans stands.2.2.1.symm) (stands'.2.1.trans stands.2.1.symm)
  rw [there,same]

/-! The items. -/

private theorem mem_offsets {window : Nat} {offset : Int} : offset ∈ offsets window ↔ offset.natAbs ≤ window := by
  rw [offsets,List.mem_map]
  constructor
  · intro found
    obtain ⟨place,inside,same⟩ := found
    have below := List.mem_range.mp inside
    omega
  · intro near
    exact ⟨(offset + window).toNat,List.mem_range.mpr (by omega),by omega⟩

theorem mem_allItems {hits corpus : List Document} {neighbor : Int} {item : RagContextItem} :
    item ∈ allItems hits corpus neighbor ↔ ∃ hitRank hit, hits[hitRank]? = some hit ∧
      item ∈ hitItems (parentLookup corpus) (indexesOf corpus) (max 0 neighbor).toNat hitRank hit := by
  rw [allItems,List.mem_flatMap]
  constructor
  · intro found
    obtain ⟨hit,listed,inside⟩ := found
    exact ⟨hit.2,hit.1,List.mk_mem_zipIdx_iff_getElem?.mp listed,inside⟩
  · intro found
    obtain ⟨hitRank,hit,listed,inside⟩ := found
    exact ⟨(hit,hitRank),List.mk_mem_zipIdx_iff_getElem?.mpr listed,inside⟩

section
variable {hits corpus : List Document} {neighbor : Int} (ordered : Ordered corpus)
include ordered

private theorem arises_sectionItems {hitRank : Nat} {hit : Document} (listed : hits[hitRank]? = some hit)
    {item : RagContextItem}
    (inside : item ∈ sectionItems (parentLookup corpus) (indexesOf corpus) hitRank hit) :
    Arises hits corpus neighbor item.document item.sortKey := by
  unfold sectionItems at inside
  cases place : sectionKey hit with
  | none => simp [place] at inside
  | some named =>
    cases placed : hit.chunk with
    | none => simp [place,placed] at inside
    | some hitIndex =>
      rw [place,placed] at inside
      simp only [getD_bySection,List.mem_filterMap,List.mem_filter,Bool.and_eq_true,beq_iff_eq] at inside
      obtain ⟨document,⟨stored,chunk,same⟩,made⟩ := inside
      split_ifs at made
      obtain rfl := Option.some.inj made
      obtain ⟨index,there,_⟩ := ordered.indexed document stored chunk
      rw [there,contextDocument_eq]
      exact .sameSection listed stored chunk placed there (by simp [place]) (same.trans place.symm)

omit ordered in
theorem arises_neighbourItems {hitRank : Nat} {hit : Document} (listed : hits[hitRank]? = some hit)
    {item : RagContextItem} (inside : item ∈ neighbourItems (parentLookup corpus) (indexesOf corpus)
      (max 0 neighbor).toNat hitRank hit) :
    Arises hits corpus neighbor item.document item.sortKey := by
  unfold neighbourItems at inside
  cases placed : hit.chunk with
  | none => simp [placed] at inside
  | some hitIndex =>
    rw [placed] at inside
    dsimp only at inside
    split_ifs at inside with guard
    · simp only [List.mem_filterMap,mem_offsets] at inside
      obtain ⟨offset,near,made⟩ := inside
      split_ifs at made with zero
      obtain ⟨document,found,rfl⟩ := Option.map_eq_some_iff.mp made
      obtain ⟨stored,chunk,there,same,_⟩ := mem_of_bySourceChunk corpus found
      have gap : hitIndex + offset - hitIndex = offset := by omega
      have arises := @Arises.neighbour hits corpus neighbor hitRank hit document hitIndex (hitIndex + offset)
        listed stored chunk placed guard.2 there guard.1 same (by omega) (by omega)
      rw [gap] at arises
      rw [contextDocument_eq]
      exact arises
    · cases inside

private theorem arises_of_mem {item : RagContextItem} (inside : item ∈ allItems hits corpus neighbor) :
    Arises hits corpus neighbor item.document item.sortKey := by
  obtain ⟨hitRank,hit,listed,inside⟩ := mem_allItems.mp inside
  cases List.mem_cons.mp inside with
  | inl own =>
    rw [own,contextDocument_eq]
    exact .own listed
  | inr more =>
    cases List.mem_append.mp more with
    | inl there => exact arises_sectionItems ordered listed there
    | inr there => exact arises_neighbourItems listed there

/-- A hit is an object of the corpus, so the one chunk that is skipped in its section is itself. -/
theorem mem_of_arises (taken : hits ⊆ corpus) {document : Document} {rank : Nat ×ₗ Nat ×ₗ Nat}
    (arises : Arises hits corpus neighbor document rank) :
    ∃ item ∈ allItems hits corpus neighbor, item.document = document ∧ item.sortKey ≤ rank := by
  have own {hitRank : Nat} {hit : Document} (listed : hits[hitRank]? = some hit) :
      ⟨resolved corpus hit,hitRank,0,0⟩ ∈ allItems hits corpus neighbor := by
    refine mem_allItems.mpr ⟨hitRank,hit,listed,?_⟩
    rw [← contextDocument_eq]
    exact List.mem_cons_self
  cases arises with
  | own listed => exact ⟨_,own listed,rfl,le_rfl⟩
  | @sameSection hitRank hit document hitIndex index listed stored chunk placed there named same =>
    by_cases itself : document.ref = hit.ref
    · have equal := ordered.objects document stored hit (taken (List.mem_of_getElem? listed)) itself
      subst equal
      refine ⟨_,own listed,rfl,?_⟩
      refine Prod.Lex.le_iff.mpr (.inr ⟨rfl,Prod.Lex.le_iff.mpr (.inl ?_)⟩)
      exact Nat.zero_lt_one
    · refine ⟨⟨resolved corpus document,hitRank,1,(index - hitIndex).natAbs⟩,?_,rfl,le_rfl⟩
      refine mem_allItems.mpr ⟨hitRank,hit,listed,List.mem_cons_of_mem _ (List.mem_append_left _ ?_)⟩
      obtain ⟨place,key⟩ := Option.ne_none_iff_exists'.mp named
      unfold sectionItems
      rw [key,placed]
      refine List.mem_filterMap.mpr ⟨document,?_,?_⟩
      · rw [getD_bySection]
        exact List.mem_filter.mpr ⟨stored,by simp [chunk,same,key]⟩
      · rw [if_neg itself,there,contextDocument_eq]
  | @neighbour hitRank hit document hitIndex index listed stored chunk placed inside there named same apart near =>
    refine ⟨⟨resolved corpus document,hitRank,2,(index - hitIndex).natAbs⟩,?_,rfl,le_rfl⟩
    refine mem_allItems.mpr ⟨hitRank,hit,listed,List.mem_cons_of_mem _ (List.mem_append_right _ ?_)⟩
    unfold neighbourItems
    rw [placed]
    dsimp only
    rw [if_pos ⟨named,inside⟩]
    refine List.mem_filterMap.mpr ⟨index - hitIndex,mem_offsets.mpr (by omega),?_⟩
    have spot : hitIndex + (index - hitIndex) = index := by omega
    rw [if_neg (by omega),spot,ordered.bySourceChunk stored ⟨chunk,there,same,named⟩,Option.map_some,
      contextDocument_eq]

end

private theorem consider_eq (selected : Dict (Text × Text) RagContextItem) (item : RagContextItem) :
    consider selected item = Champions.keepLeast RagContextItem.place RagContextItem.sortKey selected item := by
  unfold consider Champions.keepLeast betterItem
  cases selected.get? item.place with
  | none => rfl
  | some previous =>
    by_cases smaller : item.sortKey < previous.sortKey
    · simp [smaller]
    · simp [smaller]

theorem expand_eq (hits corpus : List Document) (neighbor : Int) :
    expandHitDocumentsScored hits corpus neighbor =
      Champions.ranking RagContextItem.place RagContextItem.sortKey (allItems hits corpus neighbor) := by
  unfold expandHitDocumentsScored Champions.ranking Champions.champions
  split_ifs with nothing
  · subst nothing
    rfl
  · rw [funext (fun selected => funext (consider_eq selected))]

theorem zero_le_rank (rank : Nat ×ₗ Nat ×ₗ Nat) : rankKey 0 0 0 ≤ rank := by
  have inner : toLex (0,0) ≤ (ofLex rank).2 :=
    Prod.Lex.le_iff.mpr ((Nat.eq_zero_or_pos (ofLex (ofLex rank).2).1).symm.imp id (fun zero =>
      ⟨zero.symm,Nat.zero_le _⟩))
  exact Prod.Lex.le_iff.mpr ((Nat.eq_zero_or_pos (ofLex rank).1).symm.imp id (fun zero => ⟨zero.symm,inner⟩))

private theorem own_of_best {hits corpus : List Document} {neighbor : Int} {document : Document}
    (arises : Arises hits corpus neighbor document (rankKey 0 0 0)) :
    ∃ hit, hits[0]? = some hit ∧ document = resolved corpus hit := by
  generalize best : rankKey 0 0 0 = rank at arises
  cases arises with
  | @own hitRank hit listed =>
    have first : hitRank = 0 := by simpa [rankKey] using best.symm
    subst first
    exact ⟨hit,listed,rfl⟩
  | sameSection => simp [rankKey] at best
  | neighbour => simp [rankKey] at best

section
variable {hits corpus : List Document} {neighbor : Int} (ordered : Ordered corpus) (taken : hits ⊆ corpus)
  {document : Document} {rank : Nat ×ₗ Nat ×ₗ Nat} (arises : Arises hits corpus neighbor document rank)
include ordered taken arises

theorem expanded_least {item : RagContextItem} (listed : item ∈ expandHitDocumentsScored hits corpus neighbor)
    (same : key document = key item.document) : item.sortKey ≤ rank := by
  rw [expand_eq] at listed
  obtain ⟨other,member,rfl,below⟩ := mem_of_arises ordered taken arises
  exact (Champions.ranking_minimal _ _ listed member same).trans below

theorem expanded_every : ∃ item ∈ expandHitDocumentsScored hits corpus neighbor, key item.document = key document := by
  rw [expand_eq]
  obtain ⟨other,member,rfl,_⟩ := mem_of_arises ordered taken arises
  obtain ⟨item,listed,same,_⟩ := Champions.ranking_least RagContextItem.place RagContextItem.sortKey member
  exact ⟨item,listed,same⟩

end

private theorem expanded_arises {hits corpus : List Document} {neighbor : Int} (ordered : Ordered corpus)
    {item : RagContextItem} (listed : item ∈ expandHitDocumentsScored hits corpus neighbor) :
    Arises hits corpus neighbor item.document item.sortKey := by
  rw [expand_eq] at listed
  exact arises_of_mem ordered (Champions.ranking_taken _ _ listed)

private theorem expanded_sorted (hits corpus : List Document) (neighbor : Int) :
    (expandHitDocumentsScored hits corpus neighbor).Pairwise (fun first second => first.sortKey ≤ second.sortKey) := by
  rw [expand_eq]
  exact Champions.ranking_sorted _ _ _

private theorem expanded_first {hits corpus : List Document} {neighbor : Int} (ordered : Ordered corpus)
    (taken : hits ⊆ corpus) {hit : Document} {rest : List Document} (first : hits = hit::rest) :
    ∃ later, expandHitDocumentsScored hits corpus neighbor = ⟨resolved corpus hit,0,0,0⟩::later := by
  have own : Arises hits corpus neighbor (resolved corpus hit) (rankKey 0 0 0) :=
    .own (by rw [first]; rfl)
  obtain ⟨item,listed,same⟩ := expanded_every ordered taken own
  have below := expanded_least ordered taken own listed same.symm
  have sorted := expanded_sorted hits corpus neighbor
  obtain ⟨head,later,result⟩ := List.exists_cons_of_ne_nil (List.ne_nil_of_mem listed)
  have headed := expanded_arises ordered (result ▸ List.mem_cons_self)
  rw [result] at listed sorted
  have lowest : head.sortKey ≤ item.sortKey := by
    cases List.mem_cons.mp listed with
    | inl equal => rw [equal]
    | inr after => exact (List.pairwise_cons.mp sorted).1 item after
  have zero : head.sortKey = rankKey 0 0 0 := le_antisymm (lowest.trans below) (zero_le_rank _)
  rw [zero] at headed
  obtain ⟨hit',first',document⟩ := own_of_best headed
  rw [first] at first'
  obtain rfl := Option.some.inj first'
  have place : head.hitRank = 0 ∧ head.tier = 0 ∧ head.distance = 0 := by
    simpa [RagContextItem.sortKey,rankKey] using zero
  refine ⟨later,?_⟩
  rw [result,← document]
  obtain ⟨document,hitRank,tier,distance⟩ := head
  obtain ⟨rfl,rfl,rfl⟩ := place
  rfl

/-- The context holds each document that arises from the hits once, in the best of the ways it arises, the
best ways first. -/
theorem expansion_picks_best {hits corpus : List Document} (neighbor : Int) (ordered : Ordered corpus)
    (taken : hits ⊆ corpus) :
    let result := expandHitDocumentsScored hits corpus neighbor
    (result.map (fun item => key item.document)).Nodup ∧
      (∀ item ∈ result, Arises hits corpus neighbor item.document item.sortKey ∧
        ∀ document rank, Arises hits corpus neighbor document rank → key document = key item.document →
          item.sortKey ≤ rank) ∧
      (∀ document rank, Arises hits corpus neighbor document rank →
        ∃ item ∈ result, key item.document = key document) ∧
      result.Pairwise (fun first second => first.sortKey ≤ second.sortKey) ∧
      ∀ hit rest, hits = hit::rest → ∃ later, result = ⟨resolved corpus hit,0,0,0⟩::later := by
  dsimp only
  refine ⟨?_,?_,?_,expanded_sorted hits corpus neighbor,?_⟩
  · rw [expand_eq]
    exact Champions.ranking_distinct _ _ _
  · intro item listed
    refine ⟨expanded_arises ordered listed,?_⟩
    intro document rank arises same
    exact expanded_least ordered taken arises listed same
  · intro document rank arises
    exact expanded_every ordered taken arises
  · intro hit rest first
    exact expanded_first ordered taken first

/-! An outline with two sections. -/

def given (text : String) : Option Value := some ⟨!text.isEmpty,text.toList⟩

def outlineChunk (ref : Nat) (chunk : Int) (role sectionName : String) : Document where
  pageContent := (toString ref).toList
  courseCode := none
  courseFile := none
  source := given "a.md"
  deleted := none
  chunkRole := given role
  ref := ref
  chunk := some chunk
  sectionName := given sectionName
  parentId := given sectionName

def outline : List Document :=
  [outlineChunk 0 (-1) "parent" "loops",outlineChunk 1 0 "child" "loops",outlineChunk 2 1 "child" "loops",
    outlineChunk 3 2 "child" "files"]

private theorem outline_ordered : Ordered outline := by
  have member {document : Document} (stored : document ∈ outline) : document = outlineChunk 0 (-1) "parent" "loops" ∨
      document = outlineChunk 1 0 "child" "loops" ∨ document = outlineChunk 2 1 "child" "loops" ∨
      document = outlineChunk 3 2 "child" "files" := by
    simpa [outline] using stored
  constructor
  · intro first stored second stored' same
    obtain rfl | rfl | rfl | rfl := member stored <;> obtain rfl | rfl | rfl | rfl := member stored' <;>
      first
      | rfl
      | exact absurd same (by decide)
  · intro document stored chunk
    obtain rfl | rfl | rfl | rfl := member stored
    · exact absurd chunk (by decide +kernel)
    · exact ⟨0,rfl,by decide⟩
    · exact ⟨1,rfl,by decide⟩
    · exact ⟨2,rfl,by decide⟩
  · intro first stored second stored' chunk chunk' _ same
    obtain rfl | rfl | rfl | rfl := member stored <;> obtain rfl | rfl | rfl | rfl := member stored' <;>
      first
      | rfl
      | exact absurd same (by decide)

/-- The parent stands in for both chunks of its section, the neighbour comes after it. -/
theorem expansion_picks_best_outline :
    let hits := [outlineChunk 2 1 "child" "loops"]
    expandHitDocumentsScored hits outline 1 =
        [⟨outlineChunk 0 (-1) "parent" "loops",0,0,0⟩,⟨outlineChunk 3 2 "child" "files",0,2,1⟩] ∧
      ∀ document rank, Arises hits outline 1 document rank →
        ∃ item ∈ expandHitDocumentsScored hits outline 1, key item.document = key document :=
  ⟨by decide +kernel,(expansion_picks_best 1 outline_ordered (by decide)).2.2.1⟩

end CustomerService.ContextExpansion
