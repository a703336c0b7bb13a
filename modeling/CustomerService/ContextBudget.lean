import CustomerService.ContextExpansion
import CustomerService.Packing
import Mathlib.Data.List.Lex

/-! The context of a search cut to a token budget. -/
namespace CustomerService.ContextBudget

open Text ContextExpansion

def formatRagContextChunk (document : Document) : Text :=
  "来源:".toList ++ (key document).1 ++ '\n'::document.pageContent

structure ContextStats where
  contextTokens : Int
  contextTrimmed : Int
  contextBudgetExceeded : Bool
deriving DecidableEq

def inPriority (items : List RagContextItem) : List RagContextItem :=
  items.insertionSort (fun first second => first.sortKey ≤ second.sortKey)

/-- A document without an index comes after the chunks of its source. -/
def placeKey (document : Document) : Text ×ₗ Int := toLex (document.sourceName,document.chunk.getD (10 ^ 9))

def sortRagDocuments (documents : List Document) : List Document :=
  documents.insertionSort (fun first second => placeKey first ≤ placeKey second)

def isTop (item : RagContextItem) : Bool := item.tier == 0 && item.hitRank == 0

section
variable (countTokens : Text → Int)

def cost (document : Document) : Int := countTokens (formatRagContextChunk document)

def itemCost (item : RagContextItem) : Int := cost countTokens item.document

def report (ordered kept : List RagContextItem) (total : Int) (exceeded : Bool) : List Document × ContextStats :=
  (sortRagDocuments (kept.map RagContextItem.document),
    ⟨total,(ordered.length : Int) - (kept.length : Int),exceeded⟩)

def trimRagContextByBudget (items : List RagContextItem) (budget : Int) : List Document × ContextStats :=
  if items = [] then ([],⟨0,0,false⟩)
  else
    let ordered := inPriority items
    if budget ≤ 0 then
      let documents := sortRagDocuments (ordered.map RagContextItem.document)
      (documents,⟨Packing.total (cost countTokens) documents,0,false⟩)
    else
      let kept := Packing.pack (itemCost countTokens) budget ordered
      match ordered.find? isTop with
      | none => report ordered kept.1 kept.2 false
      | some topHit =>
        if !kept.1.contains topHit then
          report ordered [topHit] (itemCost countTokens topHit) (budget < itemCost countTokens topHit)
        else report ordered kept.1 kept.2 (budget < kept.2)

end

/-! The order. -/

private theorem sorted_inPriority (items : List RagContextItem) :
    (inPriority items).Pairwise (fun first second => first.sortKey ≤ second.sortKey) := by
  have total : Std.Total (fun first second : RagContextItem => first.sortKey ≤ second.sortKey) :=
    ⟨fun first second => le_total first.sortKey second.sortKey⟩
  have trans : IsTrans RagContextItem (fun first second => first.sortKey ≤ second.sortKey) :=
    ⟨fun _ _ _ before after => le_trans before after⟩
  exact List.pairwise_insertionSort _ _

private theorem sorted_sortRagDocuments (documents : List Document) :
    (sortRagDocuments documents).Pairwise (fun first second => placeKey first ≤ placeKey second) := by
  have total : Std.Total (fun first second : Document => placeKey first ≤ placeKey second) :=
    ⟨fun first second => le_total (placeKey first) (placeKey second)⟩
  have trans : IsTrans Document (fun first second => placeKey first ≤ placeKey second) :=
    ⟨fun _ _ _ before after => le_trans before after⟩
  exact List.pairwise_insertionSort _ _

private theorem perm_inPriority (items : List RagContextItem) : (inPriority items).Perm items :=
  List.perm_insertionSort _ _

private theorem perm_sortRagDocuments (documents : List Document) : (sortRagDocuments documents).Perm documents :=
  List.perm_insertionSort _ _

/-! The context of the best hit. -/

def topContext (corpus : List Document) (hit : Document) : RagContextItem := ⟨resolved corpus hit,0,0,0⟩

theorem tier_sectionItems {parents : Dict Text Document} {indexes : Indexes} {hitRank : Nat} {hit : Document}
    {item : RagContextItem} (inside : item ∈ sectionItems parents indexes hitRank hit) : item.tier = 1 := by
  unfold sectionItems at inside
  split at inside
  · obtain ⟨document,_,made⟩ := List.mem_filterMap.mp inside
    split_ifs at made
    obtain rfl := Option.some.inj made
    rfl
  · cases inside

private theorem tier_neighbourItems {parents : Dict Text Document} {indexes : Indexes} {window hitRank : Nat}
    {hit : Document} {item : RagContextItem}
    (inside : item ∈ neighbourItems parents indexes window hitRank hit) : item.tier = 2 := by
  unfold neighbourItems at inside
  split at inside
  · split_ifs at inside
    · obtain ⟨offset,_,made⟩ := List.mem_filterMap.mp inside
      split_ifs at made
      obtain ⟨document,_,rfl⟩ := Option.map_eq_some_iff.mp made
      rfl
    · cases inside
  · cases inside

section
variable {hits corpus : List Document} {neighbor : Int}

theorem eq_topContext {item : RagContextItem} (inside : item ∈ expandHitDocumentsScored hits corpus neighbor)
    (top : isTop item = true) : ∃ hit rest, hits = hit::rest ∧ item = topContext corpus hit := by
  rw [expand_eq] at inside
  obtain ⟨hitRank,hit,listed,considered⟩ := mem_allItems.mp (Champions.ranking_taken _ _ inside)
  have place : item.tier = 0 ∧ item.hitRank = 0 := by simpa [isTop] using top
  cases List.mem_cons.mp considered with
  | inl own =>
    have first : hitRank = 0 := by
      rw [own] at place
      exact place.2
    subst first
    obtain ⟨head,rest,same⟩ := List.exists_cons_of_ne_nil (List.ne_nil_of_mem (List.mem_of_getElem? listed))
    rw [same] at listed
    obtain rfl := Option.some.inj listed
    rw [contextDocument_eq] at own
    exact ⟨head,rest,same,own⟩
  | inr more =>
    cases List.mem_append.mp more with
    | inl there => exact absurd (tier_sectionItems there) (by rw [place.1]; decide)
    | inr there => exact absurd (tier_neighbourItems there) (by rw [place.1]; decide)

private theorem topContext_mem (hit : Document) (rest : List Document) :
    topContext corpus hit ∈ expandHitDocumentsScored (hit::rest) corpus neighbor := by
  have considered : topContext corpus hit ∈ allItems (hit::rest) corpus neighbor := by
    refine mem_allItems.mpr ⟨0,hit,rfl,?_⟩
    rw [topContext,← contextDocument_eq]
    exact List.mem_cons_self
  obtain ⟨item,listed,_,below⟩ :=
    Champions.ranking_least RagContextItem.place RagContextItem.sortKey considered
  rw [← expand_eq] at listed
  have zero : item.sortKey = rankKey 0 0 0 := le_antisymm below (zero_le_rank _)
  have place : item.hitRank = 0 ∧ item.tier = 0 ∧ item.distance = 0 := by
    simpa [RagContextItem.sortKey,rankKey] using zero
  obtain ⟨head,later,first,same⟩ := eq_topContext listed (by simp [isTop,place])
  obtain ⟨rfl,rfl⟩ := List.cons.inj first
  exact same ▸ listed

variable {items : List RagContextItem}

private theorem inPriority_first (expanded : items.Perm (expandHitDocumentsScored hits corpus neighbor))
    {hit : Document} {rest : List Document} (given : hits = hit::rest) :
    ∃ later, inPriority items = topContext corpus hit::later := by
  have same := (perm_inPriority items).trans expanded
  have own : topContext corpus hit ∈ inPriority items := by
    rw [same.mem_iff,given]
    exact topContext_mem hit rest
  obtain ⟨head,later,first⟩ := List.exists_cons_of_ne_nil (List.ne_nil_of_mem own)
  have lowest : head.sortKey ≤ (topContext corpus hit).sortKey := by
    have sorted := sorted_inPriority items
    rw [first] at sorted own
    cases List.mem_cons.mp own with
    | inl equal => rw [equal]
    | inr after => exact (List.pairwise_cons.mp sorted).1 _ after
  have zero : head.sortKey = rankKey 0 0 0 := le_antisymm lowest (zero_le_rank _)
  have place : head.hitRank = 0 ∧ head.tier = 0 ∧ head.distance = 0 := by
    simpa [RagContextItem.sortKey,rankKey] using zero
  have listed : head ∈ expandHitDocumentsScored hits corpus neighbor :=
    same.mem_iff.mp (by rw [first]; exact List.mem_cons_self)
  obtain ⟨other,others,given',top⟩ := eq_topContext listed (by simp [isTop,place])
  obtain ⟨rfl,rfl⟩ := List.cons.inj (given.symm.trans given')
  exact ⟨later,by rw [first,top]⟩

private theorem inPriority_nodup (expanded : items.Perm (expandHitDocumentsScored hits corpus neighbor)) :
    (inPriority items).Nodup := by
  refine (((perm_inPriority items).trans expanded).nodup_iff).mpr ?_
  rw [expand_eq]
  exact (Champions.ranking_distinct RagContextItem.place RagContextItem.sortKey _).of_map

end

/-! The trimming. -/

section
variable (countTokens : Text → Int) {hits corpus : List Document} {neighbor : Int}
  {items : List RagContextItem} {budget : Int}

theorem trim_eq (expanded : items.Perm (expandHitDocumentsScored hits corpus neighbor)) (given : 0 < budget) :
    let kept := Packing.pack (itemCost countTokens) budget (inPriority items)
    trimRagContextByBudget countTokens items budget =
      report (inPriority items) kept.1 kept.2 (budget < kept.2) := by
  dsimp only
  unfold trimRagContextByBudget
  cases hits with
  | nil =>
    obtain rfl := List.perm_nil.mp expanded
    have none : ¬ budget < 0 := by omega
    simp [inPriority,Packing.pack,report,sortRagDocuments,none]
  | cons hit rest =>
    obtain ⟨later,first⟩ := inPriority_first expanded rfl
    obtain ⟨after,taken⟩ := Packing.pack_first (itemCost countTokens) budget (topContext corpus hit) later
    have nonempty : items ≠ [] := by
      intro none
      rw [none] at first
      cases first
    have top : isTop (topContext corpus hit) = true := rfl
    have kept : topContext corpus hit ∈
        (Packing.pack (itemCost countTokens) budget (topContext corpus hit::later)).1 := by
      rw [taken]
      exact List.mem_cons_self
    rw [if_neg nonempty,if_neg (by omega),first,List.find?_cons_of_pos top]
    dsimp only
    rw [List.contains_iff_mem.mpr kept]
    rfl

private theorem total_documents (kept : List RagContextItem) :
    Packing.total (cost countTokens) (sortRagDocuments (kept.map RagContextItem.document)) =
      Packing.total (itemCost countTokens) kept := by
  unfold Packing.total
  rw [((perm_sortRagDocuments _).map (cost countTokens)).sum_eq,List.map_map]
  rfl

/-- The best hit's context is kept and the kept ones fit, or it is alone. A dropped one has no room beside the
kept ones that come before it. -/
theorem trimming_keeps_best (expanded : items.Perm (expandHitDocumentsScored hits corpus neighbor))
    (given : 0 < budget) :
    let result := trimRagContextByBudget countTokens items budget
    ∃ kept : List RagContextItem, kept.Sublist (inPriority items) ∧
      (∀ hit rest, hits = hit::rest → topContext corpus hit ∈ kept) ∧
      (Packing.total (itemCost countTokens) kept ≤ budget ∨
        ∃ hit rest, hits = hit::rest ∧ kept = [topContext corpus hit]) ∧
      (∀ before item after, inPriority items = before ++ item::after → item ∉ kept →
        budget < Packing.total (itemCost countTokens) (kept.filter (fun item => before.contains item)) +
          itemCost countTokens item) ∧
      result.1.Perm (kept.map RagContextItem.document) ∧
      result.1.Pairwise (fun first second => placeKey first ≤ placeKey second) ∧
      result.2.contextTokens = Packing.total (cost countTokens) result.1 ∧
      result.2.contextTrimmed = (items.length : Int) - (result.1.length : Int) ∧
      (result.2.contextBudgetExceeded = true ↔ budget < result.2.contextTokens) := by
  have distinct := inPriority_nodup expanded
  dsimp only
  rw [trim_eq countTokens expanded given]
  refine ⟨(Packing.pack (itemCost countTokens) budget (inPriority items)).1,Packing.pack_sublist _ _ _,
    ?_,?_,?_,perm_sortRagDocuments _,sorted_sortRagDocuments _,?_,?_,decide_eq_true_iff⟩
  · intro hit rest first
    obtain ⟨later,order⟩ := inPriority_first expanded first
    obtain ⟨after,taken⟩ := Packing.pack_first (itemCost countTokens) budget (topContext corpus hit) later
    rw [order,taken]
    exact List.mem_cons_self
  · cases Packing.pack_fits (itemCost countTokens) budget (inPriority items) with
    | inl fits => exact .inl (Packing.pack_total _ _ _ ▸ fits)
    | inr single =>
      cases hits with
      | nil =>
        obtain rfl := List.perm_nil.mp expanded
        exact .inl given.le
      | cons hit rest =>
        obtain ⟨later,order⟩ := inPriority_first expanded rfl
        obtain ⟨after,taken⟩ := Packing.pack_first (itemCost countTokens) budget (topContext corpus hit) later
        rw [order,taken] at single ⊢
        have alone : after = [] := List.eq_nil_of_length_eq_zero (by simpa using single)
        exact .inr ⟨hit,rest,rfl,by rw [alone]⟩
  · intro before item after order dropped
    rw [order] at dropped distinct ⊢
    rw [Packing.pack_before _ _ distinct,← Packing.pack_total]
    exact Packing.pack_full _ _ dropped
  · rw [report,total_documents]
    exact Packing.pack_total _ _ _
  · rw [report,(perm_sortRagDocuments _).length_eq,List.length_map,(perm_inPriority items).length_eq]

end

/-- The neighbour has no room beside the parent, whose file it shares. -/
theorem trimming_keeps_best_outline :
    let items := expandHitDocumentsScored [outlineChunk 2 1 "child" "loops"] outline 1
    let countTokens := fun text : Text => (text.length : Int)
    trimRagContextByBudget countTokens items 12 = ([outlineChunk 0 (-1) "parent" "loops"],⟨9,1,false⟩) ∧
      ∃ kept : List RagContextItem, kept.Sublist (inPriority items) ∧
        (trimRagContextByBudget countTokens items 12).1.Perm (kept.map RagContextItem.document) := by
  intro items countTokens
  obtain ⟨kept,inside,_,_,_,same,_⟩ := trimming_keeps_best countTokens
    (List.Perm.refl (expandHitDocumentsScored [outlineChunk 2 1 "child" "loops"] outline 1))
    (show (0 : Int) < 12 by decide)
  exact ⟨by decide +kernel,kept,inside,same⟩

end CustomerService.ContextBudget
