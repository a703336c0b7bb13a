import Mathlib.Data.Finset.Card
import Mathlib.Data.List.Nodup
import Mathlib.Data.List.Sort

/-! The foremost items of a list, the first items of distinct keys in a sorted list, and when a part of the
candidates gives the nearest of all of them. -/
namespace CustomerService.Ranking

section
variable {Item Value : Type*} [LinearOrder Value]

/-- A part of the items, none of which comes after one left out. -/
def Foremost (value : Item → Value) (items part : List Item) : Prop :=
  ∃ rest, (part ++ rest).Perm items ∧ ∀ item ∈ part, ∀ other ∈ rest, value item ≤ value other

variable {value : Item → Value} {items part : List Item}

theorem Foremost.take (ordered : items.Pairwise (fun first second => value first ≤ value second))
    (count : Nat) : Foremost value items (items.take count) := by
  refine ⟨items.drop count,List.Perm.of_eq (List.take_append_drop _ _),?_⟩
  rw [← List.take_append_drop count items,List.pairwise_append] at ordered
  exact ordered.2.2

theorem Foremost.perm {other : List Item} (foremost : Foremost value items part) (same : items.Perm other) :
    Foremost value other part := by
  obtain ⟨rest,whole,before⟩ := foremost
  exact ⟨rest,whole.trans same,before⟩

theorem Foremost.subset (foremost : Foremost value items part) : part ⊆ items := by
  obtain ⟨rest,whole,_⟩ := foremost
  exact fun item member => whole.subset (List.mem_append_left _ member)

theorem Foremost.countP_le (foremost : Foremost value items part) (p : Item → Bool) :
    part.countP p ≤ items.countP p := by
  obtain ⟨rest,whole,_⟩ := foremost
  rw [← whole.countP_eq,List.countP_append]
  exact Nat.le_add_right _ _

theorem Foremost.le_left_out (foremost : Foremost value items part) {other : Item} (member : other ∈ items)
    (missing : other ∉ part) : ∀ item ∈ part, value item ≤ value other := by
  obtain ⟨rest,whole,before⟩ := foremost
  have left := (List.mem_append.mp (whole.symm.subset member)).resolve_left missing
  exact fun item listed => before item listed other left

theorem Foremost.length_lt (foremost : Foremost value items part) {other : Item} (member : other ∈ items)
    (missing : other ∉ part) : part.length < items.length := by
  obtain ⟨rest,whole,_⟩ := foremost
  have left := (List.mem_append.mp (whole.symm.subset member)).resolve_left missing
  have count := whole.length_eq
  have one := List.length_pos_of_mem left
  rw [List.length_append] at count
  omega

theorem Foremost.count_before (foremost : Foremost value items part) {item : Item} (member : item ∈ part) :
    items.countP (fun other => value other < value item) < part.length := by
  obtain ⟨rest,whole,before⟩ := foremost
  rw [← whole.countP_eq,List.countP_append]
  have late : rest.countP (fun other => value other < value item) = 0 := by
    rw [List.countP_eq_zero]
    intro other left
    simpa using before item member other left
  rw [late,Nat.add_zero,List.countP_lt_length_iff]
  exact ⟨item,member,by simp⟩

/-- An item with fewer others before it than the part has is in the part, or one of its value is. -/
theorem Foremost.exists_level (foremost : Foremost value items part) {item : Item} (member : item ∈ items)
    (few : items.countP (fun other => value other < value item) < part.length) :
    ∃ other ∈ part, value other = value item := by
  by_cases inside : item ∈ part
  · exact ⟨item,inside,rfl⟩
  · obtain ⟨rest,whole,_⟩ := id foremost
    rw [← whole.countP_eq,List.countP_append] at few
    have some' := List.countP_lt_length_iff.mp (Nat.lt_of_le_of_lt (Nat.le_add_right _ _) few)
    obtain ⟨other,listed,late⟩ := some'
    exact ⟨other,listed,(foremost.le_left_out member inside other listed).antisymm
      (not_lt.mp (of_decide_eq_false late))⟩

end

variable {Item Key : Type*} [DecidableEq Key] (key : Item → Key)

def distinctBy : List Item → List Item
  | [] => []
  | item::rest => item::(distinctBy rest).filter (fun other => key other ≠ key item)

theorem distinctBy_eq_nil {items : List Item} : distinctBy key items = [] ↔ items = [] := by
  cases items <;> simp [distinctBy]

theorem distinctBy_sublist (items : List Item) : (distinctBy key items).Sublist items := by
  induction items with
  | nil => exact List.Sublist.slnil
  | cons item rest ih => exact (List.filter_sublist.trans ih).cons_cons item

theorem nodup_distinctBy (items : List Item) : ((distinctBy key items).map key).Nodup := by
  induction items with
  | nil => exact List.nodup_nil
  | cons item rest ih =>
    refine List.nodup_cons.mpr ⟨fun listed => ?_,ih.sublist (List.filter_sublist.map key)⟩
    obtain ⟨other,member,same⟩ := List.mem_map.mp listed
    exact of_decide_eq_true (List.mem_filter.mp member).2 same

private theorem mem_keys_distinctBy {items : List Item} {value : Key} :
    value ∈ (distinctBy key items).map key ↔ value ∈ items.map key := by
  induction items with
  | nil => rfl
  | cons item rest ih =>
    rw [distinctBy,List.map_cons,List.mem_cons,List.map_cons,List.mem_cons,← ih]
    by_cases same : value = key item
    · simp [same]
    · simp only [same,false_or,List.mem_map,List.mem_filter,decide_eq_true_eq]
      constructor
      · rintro ⟨other,⟨member,_⟩,equal⟩
        exact ⟨other,member,equal⟩
      · rintro ⟨other,member,rfl⟩
        exact ⟨other,⟨member,same⟩,rfl⟩

def keyCount (items : List Item) : Nat := (items.map key).toFinset.card

private theorem length_of_nodup {items : List Item} (distinct : (items.map key).Nodup) :
    items.length = keyCount key items := by
  rw [keyCount,List.toFinset_card_of_nodup distinct,List.length_map]

private theorem keyCount_distinctBy (items : List Item) :
    (distinctBy key items).length = keyCount key items := by
  rw [length_of_nodup key (nodup_distinctBy key items),keyCount,keyCount]
  congr 1
  ext value
  rw [List.mem_toFinset,List.mem_toFinset,mem_keys_distinctBy]

variable {key}

private theorem keyCount_le {first second : List Item} (inside : first.map key ⊆ second.map key) :
    keyCount key first ≤ keyCount key second :=
  Finset.card_le_card (fun _ listed => List.mem_toFinset.mpr (inside (List.mem_toFinset.mp listed)))

private theorem keyCount_lt {first second : List Item} (inside : first.map key ⊆ second.map key)
    {value : Key} (present : value ∈ second.map key) (missing : value ∉ first.map key) :
    keyCount key first < keyCount key second := by
  refine Finset.card_lt_card ⟨fun _ listed =>
    List.mem_toFinset.mpr (inside (List.mem_toFinset.mp listed)),fun back => ?_⟩
  exact missing (List.mem_toFinset.mp (back (List.mem_toFinset.mpr present)))

/-! The nearest. -/

variable {Distance : Type*} [LinearOrder Distance] (distance : Item → Distance) (key)

/-- The items are the nearest of the candidates: as many keys as asked for or all there are,
each once, in the order of their distances, and no candidate of another key is nearer. -/
structure Nearest (candidates : List Item) (limit : Nat) (items : List Item) : Prop where
  inside : items ⊆ candidates
  distinct : (items.map key).Nodup
  ordered : items.Pairwise (fun first second => distance first ≤ distance second)
  count : items.length = min limit (keyCount key candidates)
  nearest : ∀ other ∈ candidates, key other ∉ items.map key →
    ∀ item ∈ items, distance item ≤ distance other

variable {key distance}

theorem nearest_take {items : List Item}
    (ordered : items.Pairwise (fun first second => distance first ≤ distance second))
    (limit : Nat) (same : ∀ first ∈ items, ∀ second ∈ items, key first = key second →
      distance first = distance second) :
    Nearest key distance items limit ((distinctBy key items).take limit) := by
  have sub : ((distinctBy key items).take limit).Sublist items :=
    (List.take_sublist _ _).trans (distinctBy_sublist key items)
  refine ⟨sub.subset,(nodup_distinctBy key items).sublist ((List.take_sublist _ _).map key),
    ordered.sublist sub,?_,fun other member missing item listed => ?_⟩
  · rw [List.length_take,keyCount_distinctBy]
  · obtain ⟨first,here,equal⟩ := List.mem_map.mp
      ((mem_keys_distinctBy key).mpr (List.mem_map_of_mem (f := key) member))
    have late : first ∈ (distinctBy key items).drop limit := by
      rw [← List.take_append_drop limit (distinctBy key items),List.mem_append] at here
      refine here.resolve_left (fun early => missing ?_)
      exact equal ▸ List.mem_map_of_mem early
    have whole := ordered.sublist (distinctBy_sublist key items)
    rw [← List.take_append_drop limit (distinctBy key items),List.pairwise_append] at whole
    rw [← same first ((distinctBy_sublist key items).subset here) other member equal]
    exact whole.2.2 item listed first late

/-- Every candidate whose key is not in the part has the asked number of keys of the part
at its distance or nearer. -/
def Covered (key : Item → Key) (distance : Item → Distance) (candidates part : List Item)
    (limit : Nat) : Prop :=
  ∀ other ∈ candidates, key other ∉ part.map key →
    limit ≤ keyCount key (part.filter (fun item => distance item ≤ distance other))

theorem covered_perm {candidates part other : List Item} (same : part.Perm other) {limit : Nat} :
    Covered key distance candidates part limit ↔ Covered key distance candidates other limit := by
  refine forall₂_congr (fun candidate _ => ?_)
  have count : keyCount key (part.filter (fun item => distance item ≤ distance candidate)) =
      keyCount key (other.filter (fun item => distance item ≤ distance candidate)) :=
    (keyCount_le ((same.filter _).map key).subset).antisymm
      (keyCount_le ((same.filter _).map key).symm.subset)
  rw [count,(same.map key).mem_iff]

theorem nearest_zero_iff {candidates items : List Item} :
    Nearest key distance candidates 0 items ↔ items = [] := by
  constructor
  · intro nearest
    exact List.eq_nil_of_length_eq_zero (nearest.count.trans (Nat.zero_min _))
  · rintro rfl
    exact ⟨List.nil_subset _,List.nodup_nil,List.Pairwise.nil,(Nat.zero_min _).symm,
      fun _ _ _ _ listed => (nomatch listed)⟩

/-- The nearest of a part are the nearest of all candidates exactly when the part covers
the candidates. -/
theorem nearest_iff_covered {candidates part items : List Item} (inside : part ⊆ candidates)
    (same : ∀ first ∈ candidates, ∀ second ∈ candidates, key first = key second →
      distance first = distance second)
    {limit : Nat} (nearest : Nearest key distance part limit items) :
    Nearest key distance candidates limit items ↔ Covered key distance candidates part limit := by
  have keys : part.map key ⊆ candidates.map key := List.map_subset key inside
  constructor
  · intro whole other member missing
    have fewer := keyCount_lt keys (List.mem_map_of_mem member) missing
    have count := nearest.count
    rw [whole.count] at count
    have full : items.length = limit := by
      have := whole.count
      omega
    rw [← full,length_of_nodup key nearest.distinct]
    refine keyCount_le (fun value listed => ?_)
    obtain ⟨item,here,rfl⟩ := List.mem_map.mp listed
    refine List.mem_map_of_mem (List.mem_filter.mpr ⟨nearest.inside here,decide_eq_true ?_⟩)
    exact whole.nearest other member (fun there => missing
      (List.map_subset key nearest.inside there)) item here
  · intro covered
    refine ⟨List.Subset.trans nearest.inside inside,nearest.distinct,nearest.ordered,?_,
      fun other member missing item listed => ?_⟩
    · rw [nearest.count]
      by_cases all : ∀ other ∈ candidates, key other ∈ part.map key
      · have back : candidates.map key ⊆ part.map key := fun value listed => by
          obtain ⟨other,member,rfl⟩ := List.mem_map.mp listed
          exact all other member
        rw [(keyCount_le keys).antisymm (keyCount_le back)]
      · push Not at all
        obtain ⟨other,member,missing⟩ := all
        have enough := (covered other member missing).trans
          (keyCount_le (List.filter_sublist.map key).subset)
        have more := keyCount_le keys
        omega
    · by_cases there : key other ∈ part.map key
      · obtain ⟨twin,here,equal⟩ := List.mem_map.mp there
        rw [← same twin (inside here) other member equal]
        exact nearest.nearest twin here (equal ▸ missing) item listed
      · by_contra farther
        have enough := covered other member there
        have within : keyCount key (part.filter (fun one => distance one ≤ distance other)) <
            keyCount key items := by
          refine keyCount_lt (fun value near => ?_) (List.mem_map_of_mem listed) (fun near => ?_)
          · obtain ⟨one,chosen,rfl⟩ := List.mem_map.mp near
            obtain ⟨here,close⟩ := List.mem_filter.mp chosen
            by_contra outside
            exact farther ((nearest.nearest one here outside item listed).trans
              (of_decide_eq_true close))
          · obtain ⟨one,chosen,equal⟩ := List.mem_map.mp near
            obtain ⟨here,close⟩ := List.mem_filter.mp chosen
            rw [same one (inside here) item (inside (nearest.inside listed)) equal] at close
            exact farther (of_decide_eq_true close)
        rw [← length_of_nodup key nearest.distinct,nearest.count] at within
        omega

end CustomerService.Ranking
