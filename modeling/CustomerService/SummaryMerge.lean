import CustomerService.SummaryFacts
import CustomerService.Recency

/-! The lists of a summary keep facts in order of last use; exclusive labels share a key. -/
namespace CustomerService.SummaryFacts

open Text StructuredSummary

/-- The items as they are stored: stripped, blank ones left out. -/
def cleaned (items : List Text) : List Text := (items.map strip).filter (· ≠ [])

def Solid (fact : Text) : Prop := fact ≠ [] ∧ Tight fact

instance (fact : Text) : Decidable (Solid fact) := inferInstanceAs (Decidable (_ ∧ _))

theorem cleaned_append (first second : List Text) :
    cleaned (first ++ second) = cleaned first ++ cleaned second := by
  simp [cleaned]

theorem cleaned_of_solid {items : List Text} (solid : ∀ item ∈ items, Solid item) :
    cleaned items = items := by
  have stripped : items.map strip = items := by
    refine (List.map_congr_left (fun item member => ?_)).trans (List.map_id items)
    exact strip_of_tight (solid item member).2
  rw [cleaned,stripped]
  exact List.filter_eq_self.mpr (fun item member => decide_eq_true (solid item member).1)

theorem mem_cleaned {items : List Text} {fact : Text} (member : fact ∈ cleaned items) :
    Solid fact ∧ ∃ item ∈ items, fact = strip item := by
  obtain ⟨inside,nonempty⟩ := List.mem_filter.mp member
  obtain ⟨item,listed,rfl⟩ := List.mem_map.mp inside
  exact ⟨⟨by simpa using nonempty,tight_strip item⟩,item,listed,rfl⟩

private theorem foldl_cleaned (add : List Text → Text → List Text) (items out : List Text) :
    items.foldl (fun out item => if strip item = [] then out else add out (strip item)) out =
      (cleaned items).foldl add out := by
  induction items generalizing out with
  | nil => rfl
  | cons item rest ih =>
    rw [List.foldl_cons,ih]
    by_cases blank : strip item = [] <;> simp [cleaned,blank]

theorem prependUnique_eq (existing incoming : List Text) (cap : Nat) :
    prependUnique existing incoming cap =
      (Recency.pushAll id existing (cleaned incoming)).rtake cap :=
  congrArg (·.rtake cap) (foldl_cleaned moveToEnd incoming existing)

def groupKey (label : Text) : Text :=
  match exclusiveLabelGroups.find? (fun group => group.contains label) with
  | none => label
  | some group => group.headD label

private theorem groups_disjoint : ∀ group ∈ exclusiveLabelGroups, ∀ other ∈ exclusiveLabelGroups,
    ∀ label ∈ group, label ∈ other → group = other := by
  decide

private theorem find_group {group : List Text} {label : Text} (listed : group ∈ exclusiveLabelGroups)
    (member : label ∈ group) :
    exclusiveLabelGroups.find? (fun group => group.contains label) = some group := by
  cases found : exclusiveLabelGroups.find? (fun group => group.contains label) with
  | none =>
    have absent := List.find?_eq_none.mp found group listed
    simp [member] at absent
  | some other =>
    have inside : label ∈ other := by simpa using List.find?_some found
    rw [groups_disjoint group listed other (List.mem_of_find?_eq_some found) label member inside]

private theorem groupKey_mem {group : List Text} {label : Text} (listed : group ∈ exclusiveLabelGroups)
    (member : label ∈ group) : groupKey label ∈ group := by
  simp only [groupKey,find_group listed member]
  cases group with
  | nil => cases member
  | cons first rest => exact List.mem_cons_self

theorem groupKey_eq {group : List Text} {first second : Text}
    (listed : group ∈ exclusiveLabelGroups) (one : first ∈ group) (two : second ∈ group) :
    groupKey first = groupKey second := by
  simp only [groupKey,find_group listed one,find_group listed two]
  cases group with
  | nil => cases one
  | cons first rest => rfl

private theorem groupKey_loose {label : Text} (loose : ∀ group ∈ exclusiveLabelGroups, label ∉ group) :
    groupKey label = label := by
  have absent : exclusiveLabelGroups.find? (fun group => group.contains label) = none :=
    List.find?_eq_none.mpr (fun group listed => by simpa using loose group listed)
  simp only [groupKey,absent]

theorem groupKey_eq_iff {group : List Text} {label : Text} (listed : group ∈ exclusiveLabelGroups)
    (member : label ∈ group) (other : Text) : groupKey other = groupKey label ↔ other ∈ group := by
  refine ⟨fun same => ?_,fun inside => groupKey_eq listed inside member⟩
  have key := groupKey_mem listed member
  rw [← same] at key
  by_cases grouped : ∃ group ∈ exclusiveLabelGroups, other ∈ group
  · obtain ⟨own,here,inside⟩ := grouped
    rwa [groups_disjoint group listed own here _ key (groupKey_mem here inside)]
  · rwa [groupKey_loose (fun group here inside => grouped ⟨group,here,inside⟩)] at key

theorem same_group_iff (other text : Text) :
    (other ≠ text ∧ other ∉ rivalsOf text) ↔ groupKey other ≠ groupKey text := by
  by_cases grouped : ∃ group ∈ exclusiveLabelGroups, text ∈ group
  · obtain ⟨group,listed,member⟩ := grouped
    simp only [rivalsOf,find_group listed member,List.mem_filter,decide_eq_true_eq,Ne,
      groupKey_eq_iff listed member]
    by_cases same : other = text
    · simp [same,member]
    · simp [same]
  · have loose : ∀ group ∈ exclusiveLabelGroups, text ∉ group := fun group here inside =>
      grouped ⟨group,here,inside⟩
    have absent : exclusiveLabelGroups.find? (fun group => group.contains text) = none :=
      List.find?_eq_none.mpr (fun group listed => by simpa using loose group listed)
    simp only [rivalsOf,absent,List.not_mem_nil,not_false_eq_true,and_true,Ne,not_iff_not]
    rw [groupKey_loose loose]
    by_cases own : ∃ group ∈ exclusiveLabelGroups, other ∈ group
    · obtain ⟨group,listed,member⟩ := own
      constructor
      · exact fun same => absurd (same ▸ member) (loose group listed)
      · exact fun same => absurd (same ▸ groupKey_mem listed member) (loose group listed)
    · rw [groupKey_loose (fun group here inside => own ⟨group,here,inside⟩)]

private theorem exclusiveStep_eq (out : List Text) (item : Text) :
    exclusiveStep out item =
      if strip item = [] then out else Recency.push groupKey out (strip item) := by
  unfold exclusiveStep Recency.push
  simp only [same_group_iff]

private theorem foldl_exclusiveStep (labels : List Text) :
    labels.foldl exclusiveStep [] = Recency.latest groupKey (cleaned labels) := by
  have steps : exclusiveStep = fun out item =>
      if strip item = [] then out else Recency.push groupKey out (strip item) := by
    funext out item
    exact exclusiveStep_eq out item
  rw [steps]
  exact foldl_cleaned (Recency.push groupKey) labels []

theorem applyExclusiveSequence_eq (labels : List Text) (cap : Nat) :
    applyExclusiveSequence labels (some cap) =
      (Recency.latest groupKey (cleaned labels)).rtake cap :=
  congrArg (·.rtake cap) (foldl_exclusiveStep labels)

theorem mem_prependUnique {existing incoming : List Text} {cap : Nat} {fact : Text}
    (member : fact ∈ prependUnique existing incoming cap) :
    fact ∈ existing ∨ fact ∈ cleaned incoming := by
  rw [prependUnique_eq,Recency.pushAll_eq] at member
  rcases List.mem_append.mp (List.mem_of_mem_drop member) with old | new
  · exact Or.inl (List.mem_of_mem_filter old)
  · exact Or.inr (Recency.mem_of_mem_latest id new)

theorem mem_applyExclusiveSequence {labels : List Text} {cap : Option Nat} {fact : Text}
    (member : fact ∈ applyExclusiveSequence labels cap) : fact ∈ cleaned labels := by
  cases cap with
  | none => exact Recency.mem_of_mem_latest groupKey (foldl_exclusiveStep labels ▸ member)
  | some cap =>
    rw [applyExclusiveSequence_eq] at member
    exact Recency.mem_of_mem_latest groupKey (List.mem_of_mem_drop member)

/-! What the messages contribute to a list, and what is left of it after the fold. -/

/-- What a message is merged as; a blank one adds nothing. -/
def factsOf (slots : Option SessionSlots) (message : Message) : StructuredSummary :=
  if strip message.text = [] then empty else factsFromOne (strip message.text) slots

def contributions (view : StructuredSummary → List Text) (slots : Option SessionSlots)
    (overflow : List Message) : List Text :=
  cleaned (overflow.flatMap (fun message => view (factsOf slots message)))

private theorem contributions_concat (view : StructuredSummary → List Text) (slots : Option SessionSlots)
    (overflow : List Message) (message : Message) :
    contributions view slots (overflow ++ [message]) =
      contributions view slots overflow ++ cleaned (view (factsOf slots message)) := by
  rw [contributions,List.flatMap_append,cleaned_append,List.flatMap_singleton]
  rfl

theorem solid_contributions {view : StructuredSummary → List Text} {slots : Option SessionSlots}
    {overflow : List Message} {fact : Text} (member : fact ∈ contributions view slots overflow) :
    Solid fact := (mem_cleaned member).1

def lastUsed (key : Text → Text) (cap : Nat) (items : List Text) : List Text :=
  (Recency.latest key items).rtake cap

private theorem nodup_lastUsed (key : Text → Text) (cap : Nat) (items : List Text) :
    ((lastUsed key cap items).map key).Nodup :=
  (Recency.nodup_latest key items).sublist ((List.drop_sublist _ _).map key)

theorem mem_of_mem_lastUsed {key : Text → Text} {cap : Nat} {items : List Text} {fact : Text}
    (member : fact ∈ lastUsed key cap items) : fact ∈ items :=
  Recency.mem_of_mem_latest key (List.mem_of_mem_drop member)

private theorem lastUsed_append (key : Text → Text) (cap : Nat) (first second : List Text) :
    (Recency.pushAll key (lastUsed key cap first) second).rtake cap =
      lastUsed key cap (first ++ second) := by
  rw [lastUsed,Recency.rtake_pushAll_rtake key (Recency.nodup_latest key first),lastUsed,
    Recency.latest,Recency.latest,Recency.pushAll_append]

theorem lastUsed_lastUsed (key : Text → Text) (cap : Nat) (items : List Text) :
    lastUsed key cap (lastUsed key cap items) = lastUsed key cap items := by
  rw [lastUsed,Recency.latest_of_nodup key (nodup_lastUsed key cap items),lastUsed,
    Recency.rtake_rtake]

theorem pushAll_lastUsed (key : Text → Text) (cap : Nat) (old : List Text) {items : List Text}
    (solid : ∀ item ∈ items, Solid item) :
    (Recency.pushAll key old (cleaned (lastUsed key cap items))).rtake cap =
      (Recency.pushAll key old items).rtake cap := by
  rw [cleaned_of_solid (fun item member => solid item (mem_of_mem_lastUsed member)),lastUsed,
    Recency.rtake_pushAll_latest]

private theorem view_fold {view : StructuredSummary → List Text} {key : Text → Text} {cap : Nat}
    (start : view empty = [])
    (merging : ∀ acc facts, ((view acc).map key).Nodup → (∀ fact ∈ view acc, Solid fact) →
      view (merge acc facts) = (Recency.pushAll key (view acc) (cleaned (view facts))).rtake cap)
    (slots : Option SessionSlots) (overflow : List Message) :
    view (overflow.foldl (addFacts slots) empty) =
      lastUsed key cap (contributions view slots overflow) := by
  induction overflow using List.reverseRecOn with
  | nil => exact start.trans List.drop_nil.symm
  | append_singleton overflow message ih =>
    rw [List.foldl_append,List.foldl_cons,List.foldl_nil,contributions_concat]
    by_cases blank : strip message.text = []
    · simp only [addFacts,if_pos blank,ih]
      rw [factsOf,if_pos blank,start]
      exact congrArg (lastUsed key cap) (List.append_nil _).symm
    · simp only [addFacts,if_neg blank]
      rw [merging,ih,lastUsed_append,factsOf,if_neg blank]
      · rw [ih]
        exact nodup_lastUsed _ _ _
      · intro fact member
        rw [ih] at member
        exact solid_contributions (mem_of_mem_lastUsed member)

theorem merge_orders (acc facts : StructuredSummary) : (merge acc facts).orders =
    (Recency.pushAll id acc.orders (cleaned facts.orders)).rtake 3 := prependUnique_eq _ _ _

theorem merge_courses (acc facts : StructuredSummary) : (merge acc facts).courses =
    (Recency.pushAll id acc.courses (cleaned facts.courses)).rtake 3 := prependUnique_eq _ _ _

theorem merge_pending (acc facts : StructuredSummary) : (merge acc facts).pending =
    (Recency.pushAll id acc.pending (cleaned facts.pending)).rtake 4 := prependUnique_eq _ _ _

theorem merge_confirmed (acc facts : StructuredSummary) : (merge acc facts).confirmed =
    lastUsed groupKey 6 (cleaned acc.confirmed ++ cleaned facts.confirmed) := by
  rw [← cleaned_append]
  exact applyExclusiveSequence_eq _ _

theorem merge_confirmed_of_nodup {acc : StructuredSummary} (facts : StructuredSummary)
    (distinct : (acc.confirmed.map groupKey).Nodup) (solid : ∀ fact ∈ acc.confirmed, Solid fact) :
    (merge acc facts).confirmed =
      (Recency.pushAll groupKey acc.confirmed (cleaned facts.confirmed)).rtake 6 := by
  rw [merge_confirmed,cleaned_of_solid solid,lastUsed,Recency.latest_append_nodup _ distinct]

section
variable (overflow : List Message) (slots : Option SessionSlots)

theorem extract_orders : (extractSummaryFacts overflow slots).orders =
    lastUsed id 3 (contributions (·.orders) slots overflow) :=
  view_fold rfl (fun acc facts _ _ => merge_orders acc facts) slots overflow

theorem extract_courses : (extractSummaryFacts overflow slots).courses =
    lastUsed id 3 (contributions (·.courses) slots overflow) :=
  view_fold rfl (fun acc facts _ _ => merge_courses acc facts) slots overflow

theorem extract_confirmed : (extractSummaryFacts overflow slots).confirmed =
    lastUsed groupKey 6 (contributions (·.confirmed) slots overflow) := by
  have folded : (overflow.foldl (addFacts slots) empty).confirmed =
      lastUsed groupKey 6 (contributions (·.confirmed) slots overflow) :=
    view_fold rfl (fun acc facts => merge_confirmed_of_nodup facts) slots overflow
  have solid : ∀ fact ∈ lastUsed groupKey 6 (contributions (·.confirmed) slots overflow),
      Solid fact := fun fact member => solid_contributions (mem_of_mem_lastUsed member)
  simp only [extractSummaryFacts,resolve,folded]
  rw [applyExclusiveSequence_eq,cleaned_of_solid solid]
  exact lastUsed_lastUsed _ _ _

theorem mem_resolve_pending {summary : StructuredSummary} {fact : Text}
    (member : fact ∈ (summary.resolve slots).pending) : fact ∈ summary.pending := by
  simp only [resolve] at member
  split_ifs at member
  · exact List.mem_of_mem_filter (List.mem_of_mem_filter member)
  · exact List.mem_of_mem_filter member
  · exact List.mem_of_mem_filter member
  · exact member

theorem mem_extract_pending {fact : Text}
    (member : fact ∈ (extractSummaryFacts overflow slots).pending) :
    fact ∈ contributions (·.pending) slots overflow := by
  have folded : (overflow.foldl (addFacts slots) empty).pending =
      lastUsed id 4 (contributions (·.pending) slots overflow) :=
    view_fold rfl (fun acc facts _ _ => merge_pending acc facts) slots overflow
  have inside := mem_resolve_pending slots member
  exact mem_of_mem_lastUsed (folded ▸ inside)

end

end CustomerService.SummaryFacts
