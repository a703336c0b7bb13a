import CustomerService.SummaryMerge

/-! Merging is associative on summaries whose lists merging could have made, so messages may be merged in
one batch or in several. -/
namespace CustomerService.SummaryFacts

open Text StructuredSummary

/-! One list of a summary. -/

def absorb (key : Text → Text) (cap : Nat) (items incoming : List Text) : List Text :=
  (Recency.pushAll key items (cleaned incoming)).rtake cap

structure Keyed (key : Text → Text) (cap : Nat) (items : List Text) : Prop where
  distinct : (items.map key).Nodup
  solid : ∀ item ∈ items, Solid item
  short : items.length ≤ cap

section
variable {key : Text → Text} {cap : Nat} {items : List Text} (keyed : Keyed key cap items)
include keyed

private theorem absorb_keyed (incoming : List Text) : Keyed key cap (absorb key cap items incoming) := by
  refine ⟨?_,fun item member => ?_,?_⟩
  · exact (Recency.nodup_pushAll key keyed.distinct _).sublist ((List.drop_sublist _ _).map key)
  · have inside := List.mem_of_mem_drop member
    rw [Recency.pushAll_eq] at inside
    obtain old | new := List.mem_append.mp inside
    · exact keyed.solid item (List.mem_of_mem_filter old)
    · exact (mem_cleaned (Recency.mem_of_mem_latest key new)).1
  · rw [absorb,Recency.length_rtake]
    exact Nat.min_le_left _ _

private theorem absorb_assoc {middle : List Text} (keyed' : Keyed key cap middle) (incoming : List Text) :
    absorb key cap (absorb key cap items middle) incoming =
      absorb key cap items (absorb key cap middle incoming) := by
  have solid := (absorb_keyed keyed' incoming).solid
  rw [absorb,absorb,absorb,cleaned_of_solid keyed'.solid,
    Recency.rtake_pushAll_assoc key keyed.distinct keyed'.distinct]
  exact congrArg (fun arriving => (Recency.pushAll key items arriving).rtake cap)
    (cleaned_of_solid solid).symm

private theorem absorb_nil : absorb key cap items [] = items := Recency.rtake_eq_self keyed.short

private theorem nil_absorb : absorb key cap [] items = items := by
  rw [absorb,cleaned_of_solid keyed.solid]
  change (Recency.latest key items).rtake cap = items
  rw [Recency.latest_of_nodup key keyed.distinct,Recency.rtake_eq_self keyed.short]

end

/-! The whole summary. -/

structure Listed (cap : Nat) (items : List Text) : Prop where
  distinct : items.Nodup
  solid : ∀ item ∈ items, Solid item
  short : items.length ≤ cap

structure OrderlyLists (summary : StructuredSummary) : Prop where
  orders : Listed 3 summary.orders
  courses : Listed 3 summary.courses
  confirmed : Listed 6 summary.confirmed
  pending : Listed 4 summary.pending
  exclusive : ∀ label ∈ summary.confirmed, ∀ other ∈ summary.confirmed, other ∉ rivalsOf label

def exclusiveLabels (labels : List Text) : Bool :=
  labels.all (fun label => labels.all (fun other => !(rivalsOf label).contains other))

private theorem exclusiveLabels_iff {labels : List Text} : exclusiveLabels labels = true ↔
    ∀ label ∈ labels, ∀ other ∈ labels, other ∉ rivalsOf label := by
  simp [exclusiveLabels]

instance (cap : Nat) (items : List Text) : Decidable (Listed cap items) :=
  decidable_of_iff (items.Nodup ∧ (∀ item ∈ items, Solid item) ∧ items.length ≤ cap)
    ⟨fun all => ⟨all.1,all.2.1,all.2.2⟩,fun listed => ⟨listed.distinct,listed.solid,listed.short⟩⟩

instance (summary : StructuredSummary) : Decidable (OrderlyLists summary) :=
  decidable_of_iff (Listed 3 summary.orders ∧ Listed 3 summary.courses ∧ Listed 6 summary.confirmed ∧
      Listed 4 summary.pending ∧ exclusiveLabels summary.confirmed = true)
    ⟨fun all => ⟨all.1,all.2.1,all.2.2.1,all.2.2.2.1,exclusiveLabels_iff.mp all.2.2.2.2⟩,
      fun lists => ⟨lists.orders,lists.courses,lists.confirmed,lists.pending,
        exclusiveLabels_iff.mpr lists.exclusive⟩⟩

/-- Merging strips the intent, so it has to be stripped as well. -/
structure Orderly (summary : StructuredSummary) : Prop extends OrderlyLists summary where
  intent : strip summary.intent = summary.intent

private theorem listed_iff {cap : Nat} {items : List Text} : Listed cap items ↔ Keyed id cap items := by
  constructor
  · intro listed
    exact ⟨(List.map_id items).symm ▸ listed.distinct,listed.solid,listed.short⟩
  · intro keyed
    exact ⟨List.map_id items ▸ keyed.distinct,keyed.solid,keyed.short⟩

private theorem self_not_rival (label : Text) : label ∉ rivalsOf label := by
  unfold rivalsOf
  cases exclusiveLabelGroups.find? (fun group => group.contains label) with
  | none => exact List.not_mem_nil
  | some group => exact fun member => of_decide_eq_true (List.mem_filter.mp member).2 rfl

private theorem exclusive_iff {labels : List Text} : (labels.map groupKey).Nodup ↔
    labels.Nodup ∧ ∀ label ∈ labels, ∀ other ∈ labels, other ∉ rivalsOf label := by
  constructor
  · intro distinct
    refine ⟨List.Nodup.of_map _ distinct,fun label here other there rival => ?_⟩
    have same : groupKey other = groupKey label := by
      by_contra apart
      exact ((same_group_iff other label).mpr apart).2 rival
    rw [List.inj_on_of_nodup_map distinct there here same] at rival
    exact self_not_rival label rival
  · intro both
    refine both.1.map_on (fun label here other there same => ?_)
    by_contra apart
    exact (same_group_iff label other).mp ⟨apart,both.2 other there label here⟩ same

theorem OrderlyLists.keyed {summary : StructuredSummary} (orderly : OrderlyLists summary) :
    Keyed groupKey 6 summary.confirmed :=
  ⟨exclusive_iff.mpr ⟨orderly.confirmed.distinct,orderly.exclusive⟩,orderly.confirmed.solid,
    orderly.confirmed.short⟩

private theorem merge_lists (self other : StructuredSummary) (keyed : Keyed groupKey 6 self.confirmed) :
    merge self other =
      { orders := absorb id 3 self.orders other.orders
        courses := absorb id 3 self.courses other.courses
        intent := strip (if other.intent = [] then self.intent else other.intent)
        confirmed := absorb groupKey 6 self.confirmed other.confirmed
        pending := absorb id 4 self.pending other.pending } := by
  rw [absorb,absorb,absorb,absorb,← merge_orders,← merge_courses,← merge_pending,
    ← merge_confirmed_of_nodup other keyed.distinct keyed.solid]
  rfl

private theorem orderly_merge {self : StructuredSummary} (orderly : Orderly self) (other : StructuredSummary) :
    Orderly (merge self other) := by
  rw [merge_lists self other orderly.keyed]
  have confirmed := absorb_keyed orderly.keyed other.confirmed
  have exclusive := exclusive_iff.mp confirmed.distinct
  refine ⟨⟨?_,?_,⟨exclusive.1,confirmed.solid,confirmed.short⟩,?_,exclusive.2⟩,?_⟩
  · exact listed_iff.mpr (absorb_keyed (listed_iff.mp orderly.orders) _)
  · exact listed_iff.mpr (absorb_keyed (listed_iff.mp orderly.courses) _)
  · exact listed_iff.mpr (absorb_keyed (listed_iff.mp orderly.pending) _)
  · exact strip_of_tight (tight_strip _)

private theorem intent_assoc {first second third : Text} (two : strip second = second)
    (three : strip third = third) :
    strip (if third = [] then strip (if second = [] then first else second) else third) =
      strip (if strip (if third = [] then second else third) = [] then first
        else strip (if third = [] then second else third)) := by
  by_cases third_empty : third = []
  · rw [if_pos third_empty,if_pos third_empty,two]
    exact strip_of_tight (tight_strip _)
  · rw [if_neg third_empty,if_neg third_empty,three,if_neg third_empty,three]

private theorem merge_assoc {first second third : StructuredSummary} (one : Orderly first) (two : Orderly second)
    (three : strip third.intent = third.intent) :
    (first.merge second).merge third = first.merge (second.merge third) := by
  rw [merge_lists (first.merge second) third (orderly_merge one second).keyed,
    merge_lists first (second.merge third) one.keyed,merge_lists first second one.keyed,
    merge_lists second third two.keyed]
  have orders := absorb_assoc (listed_iff.mp one.orders) (listed_iff.mp two.orders) third.orders
  have courses := absorb_assoc (listed_iff.mp one.courses) (listed_iff.mp two.courses) third.courses
  have confirmed := absorb_assoc one.keyed two.keyed third.confirmed
  have pending := absorb_assoc (listed_iff.mp one.pending) (listed_iff.mp two.pending) third.pending
  simp only [orders,courses,confirmed,pending,intent_assoc two.intent three]

private theorem listed_nil (cap : Nat) : Listed cap [] :=
  ⟨List.nodup_nil,fun _ member => (by cases member),Nat.zero_le cap⟩

private theorem orderlyLists_intent (intent : Text) : OrderlyLists { empty with intent := intent } :=
  ⟨listed_nil 3,listed_nil 3,listed_nil 6,listed_nil 4,fun _ member => (by cases member)⟩

private theorem orderly_empty : Orderly empty := ⟨orderlyLists_intent [],rfl⟩

section
variable {summary : StructuredSummary} (orderly : Orderly summary)
include orderly

private theorem merge_empty : summary.merge empty = summary := by
  rw [merge_lists summary empty orderly.keyed]
  simp only [empty,absorb_nil (listed_iff.mp orderly.orders),absorb_nil (listed_iff.mp orderly.courses),
    absorb_nil orderly.keyed,absorb_nil (listed_iff.mp orderly.pending),if_pos,orderly.intent]

private theorem empty_merge : empty.merge summary = summary := by
  rw [merge_lists empty summary orderly_empty.keyed]
  have intent : (if summary.intent = [] then empty.intent else summary.intent) = summary.intent := by
    split_ifs with nothing
    · exact nothing.symm
    · rfl
  rw [intent]
  simp only [empty,nil_absorb (listed_iff.mp orderly.orders),nil_absorb (listed_iff.mp orderly.courses),
    nil_absorb orderly.keyed,nil_absorb (listed_iff.mp orderly.pending),orderly.intent]

end

/-! Messages. -/

variable (slots : Option SessionSlots)

/-- What the loop of `extract_summary_facts` merges of a batch. -/
def merged (overflow : List Message) : StructuredSummary := overflow.foldl (addFacts slots) empty

private theorem intent_factsFromOne (text : Text) :
    strip (factsFromOne text slots).intent = (factsFromOne text slots).intent := by
  change strip (intentFrom _ _) = intentFrom _ _
  generalize decide (matchLabels text orderConstraints ≠ []) = order
  generalize decide (matchLabels text courseConstraints ≠ []) = course
  revert order course
  decide

private theorem addFacts_cases (summary : StructuredSummary) (message : Message) :
    addFacts slots summary message = summary ∧ strip message.text = [] ∨
      addFacts slots summary message = summary.merge (factsFromOne (strip message.text) slots) ∧
        strip message.text ≠ [] := by
  unfold addFacts
  dsimp only
  split_ifs with blank
  · exact .inl ⟨rfl,blank⟩
  · exact .inr ⟨rfl,blank⟩

private theorem orderly_merged (overflow : List Message) : Orderly (merged slots overflow) := by
  induction overflow using List.reverseRecOn with
  | nil => exact orderly_empty
  | append_singleton overflow message ih =>
    rw [merged,List.foldl_append]
    change Orderly (addFacts slots (merged slots overflow) message)
    obtain ⟨same,_⟩ | ⟨same,_⟩ := addFacts_cases slots (merged slots overflow) message
    · rw [same]
      exact ih
    · rw [same]
      exact orderly_merge ih _

private theorem merged_append (first second : List Message) :
    merged slots (first ++ second) = (merged slots first).merge (merged slots second) := by
  have one := orderly_merged slots first
  induction second using List.reverseRecOn with
  | nil =>
    rw [List.append_nil]
    exact (merge_empty one).symm
  | append_singleton second message ih =>
    have two := orderly_merged slots second
    have concat (overflow : List Message) : merged slots (overflow ++ [message]) =
        addFacts slots (merged slots overflow) message := by
      rw [merged,List.foldl_append]
      rfl
    rw [← List.append_assoc,concat,concat,ih]
    obtain ⟨_,blank⟩ | ⟨same,some'⟩ := addFacts_cases slots (merged slots second) message
    · simp only [addFacts,if_pos blank]
    · rw [same,addFacts]
      simp only [if_neg some']
      exact merge_assoc one two (intent_factsFromOne slots _)

/-- Merging is associative with the empty summary as its unit, and batches may be split. -/
theorem merge_monoid {first second third : StructuredSummary} (one : Orderly first)
    (two : Orderly second) (three : Orderly third) :
    (first.merge second).merge third = first.merge (second.merge third) ∧
      first.merge empty = first ∧ empty.merge first = first ∧ Orderly (first.merge second) ∧
      ∀ slots earlier later, (first.merge (merged slots earlier)).merge (merged slots later) =
        first.merge (merged slots (earlier ++ later)) := by
  refine ⟨merge_assoc one two three.intent,merge_empty one,empty_merge one,orderly_merge one second,?_⟩
  intro slots earlier later
  rw [merged_append]
  exact merge_assoc one (orderly_merged slots earlier) (orderly_merged slots later).intent

def review : StructuredSummary :=
  { empty with orders := ["20240001".toList], confirmed := [fitForBeginners,refundReviewing] }

def completed : StructuredSummary :=
  { empty with intent := intentOrder, confirmed := [unfitForBeginners,refundDone] }

/-- Rivals displace one another in either order of merging. -/
theorem merge_monoid_rivals :
    (review.merge completed).merge review = review.merge (completed.merge review) ∧
      review.merge empty = review ∧ empty.merge review = review ∧ Orderly (review.merge completed) ∧
      ∀ slots earlier later, (review.merge (merged slots earlier)).merge (merged slots later) =
        review.merge (merged slots (earlier ++ later)) :=
  merge_monoid ⟨by decide +kernel,rfl⟩ ⟨by decide +kernel,by decide +kernel⟩ ⟨by decide +kernel,rfl⟩

/-- A blank intent hides the one before it in one order and not in the other, an intent with a blank is
not kept, and the intent that is inferred for a batch overrides an earlier one. -/
theorem merge_not_monoid :
    let order : StructuredSummary := { empty with intent := intentOrder }
    let blank : StructuredSummary := { empty with intent := [' '] }
    let mentioned : List Message := [⟨.human,none,"退款 大纲".toList,0,false⟩]
    let numbered : List Message := [⟨.human,none,"20240001".toList,1,false⟩]
    OrderlyLists order ∧ OrderlyLists blank ∧ OrderlyLists empty ∧
      (order.merge empty).merge blank ≠ order.merge (empty.merge blank) ∧
      blank.merge empty ≠ blank ∧ empty.merge blank ≠ blank ∧
      extractSummaryFacts (mentioned ++ numbered) none ≠
        (extractSummaryFacts mentioned none).merge (extractSummaryFacts numbered none) := by
  refine ⟨orderlyLists_intent _,orderlyLists_intent _,orderlyLists_intent _,?_,?_,?_,?_⟩
  · decide +kernel
  · decide
  · decide
  · decide +kernel

end CustomerService.SummaryFacts
