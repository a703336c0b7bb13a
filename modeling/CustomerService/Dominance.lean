import Mathlib.Algebra.Order.BigOperators.Group.List
import Mathlib.Algebra.Order.Ring.Nat
import Mathlib.Data.List.Induction
import Mathlib.Data.List.Nodup
import Mathlib.Data.List.Perm.Subperm

/-! Ranked lists that are fused by the sums of the weights of their ranks, and what the fusion owes to an item
that is ahead of another wherever the other is listed. -/
namespace CustomerService.Dominance

section
variable {Key : Type*}

def Precedes (keys : List Key) (above below : Key) : Prop := [above,below].Sublist keys

def Dominates (lists : List (List Key)) (above below : Key) : Prop :=
  ∀ keys ∈ lists, below ∈ keys → Precedes keys above below

/-- The result lists keys of the lists once, all of them when it is unbounded, and a key never without one that
dominates it, which comes first. -/
structure Fused (lists : List (List Key)) (unbounded : Prop) (result : List Key) : Prop where
  once : result.Nodup
  listed : ∀ key ∈ result, ∃ keys ∈ lists, key ∈ keys
  complete : unbounded → ∀ keys ∈ lists, keys ⊆ result
  ordered : ∀ above below, Dominates lists above below → below ∈ result → Precedes result above below

theorem Precedes.left {keys : List Key} {above below : Key} (precedes : Precedes keys above below) :
    above ∈ keys := precedes.subset List.mem_cons_self

theorem Precedes.right {keys : List Key} {above below : Key} (precedes : Precedes keys above below) :
    below ∈ keys := precedes.subset (List.mem_cons_of_mem _ List.mem_cons_self)

theorem Precedes.take {keys : List Key} {above below : Key} (precedes : Precedes keys above below)
    (distinct : keys.Nodup) {limit : Nat} (kept : below ∈ keys.take limit) :
    Precedes (keys.take limit) above below := by
  have apart : below ∉ keys.drop limit := by
    intro later
    rw [← List.take_append_drop limit keys] at distinct
    exact (List.nodup_append.mp distinct).2.2 _ kept _ later rfl
  unfold Precedes at precedes
  rw [← List.take_append_drop limit keys] at precedes
  obtain ⟨front,back,split,first,last⟩ := List.sublist_append_iff.mp precedes
  have nothing : back = [] := by
    cases back using List.reverseRecOn with
    | nil => rfl
    | append_singleton earlier item =>
      rw [← List.append_assoc] at split
      have same : [below] = [item] := @List.append_inj_right' _ [above] _ _ _ split rfl
      obtain rfl := List.singleton_inj.mp same
      exact absurd (last.subset (by simp)) apart
  rw [nothing,List.append_nil] at split
  unfold Precedes
  rw [split]
  exact first

private theorem precedes_of_sorted {Score : Type*} [LinearOrder Score] {score : Key → Score} {keys : List Key}
    (sorted : keys.Pairwise (fun first second => score second ≤ score first)) {above below : Key}
    (first : above ∈ keys) (second : below ∈ keys) (more : score below < score above) :
    Precedes keys above below := by
  induction keys with
  | nil => cases first
  | cons key rest ih =>
    obtain ⟨highest,later⟩ := List.pairwise_cons.mp sorted
    cases List.mem_cons.mp second with
    | inl same =>
      subst same
      cases List.mem_cons.mp first with
      | inl same => exact absurd more (by rw [same]; exact lt_irrefl _)
      | inr after => exact absurd more (not_lt.mpr (highest above after))
    | inr after =>
      cases List.mem_cons.mp first with
      | inl same =>
        subst same
        exact (List.singleton_sublist.mpr after).cons_cons _
      | inr between => exact (ih later between after).cons key

theorem Fused.length_le {lists : List (List Key)} {unbounded : Prop} {result : List Key}
    (fused : Fused lists unbounded result) : result.length ≤ lists.flatten.length := by
  refine (List.subperm_of_subset fused.once ?_).length_le
  intro key member
  obtain ⟨keys,listed,inside⟩ := fused.listed key member
  exact List.mem_flatten.mpr ⟨keys,listed,inside⟩

theorem Fused.single {keys : List Key} (distinct : keys.Nodup) (limit : Nat) :
    Fused [keys] ([keys].flatten.length ≤ limit) (keys.take limit) := by
  constructor
  · exact distinct.sublist (List.take_sublist _ _)
  · intro key member
    exact ⟨keys,List.mem_singleton_self _,List.mem_of_mem_take member⟩
  · intro enough other listed
    obtain rfl := List.mem_singleton.mp listed
    rw [List.take_of_length_le (by simpa using enough)]
    exact List.Subset.refl _
  · intro above below dominates kept
    exact (dominates keys (List.mem_singleton_self _) (List.mem_of_mem_take kept)).take distinct kept

private theorem flatten_length_le {Query : Type*} {queries : List Query} {lists : Query → List (List Key)}
    {unbounded : Query → Prop} {result : Query → List Key}
    (inner : ∀ query ∈ queries, Fused (lists query) (unbounded query) (result query)) :
    (queries.map result).flatten.length ≤ (queries.flatMap lists).flatten.length := by
  induction queries with
  | nil => exact Nat.le_refl _
  | cons query rest ih =>
    have here := (inner query List.mem_cons_self).length_le
    have there := ih (fun query asked => inner query (List.mem_cons_of_mem _ asked))
    rw [List.map_cons,List.flatten_cons,List.flatMap_cons,List.flatten_append,List.length_append,
      List.length_append]
    exact Nat.add_le_add here there

theorem Fused.compose {Query : Type*} {queries : List Query} {lists : Query → List (List Key)}
    {unbounded : Query → Prop} {result : Query → List Key} {limit : Nat} {final : List Key}
    (inner : ∀ query ∈ queries, Fused (lists query) (unbounded query) (result query))
    (outer : Fused (queries.map result) ((queries.map result).flatten.length ≤ limit) final) :
    Fused (queries.flatMap lists)
      ((∀ query ∈ queries, unbounded query) ∧ (queries.flatMap lists).flatten.length ≤ limit) final := by
  constructor
  · exact outer.once
  · intro key member
    obtain ⟨keys,listed,inside⟩ := outer.listed key member
    obtain ⟨query,asked,rfl⟩ := List.mem_map.mp listed
    obtain ⟨keys,listed,inside⟩ := (inner query asked).listed key inside
    exact ⟨keys,List.mem_flatMap.mpr ⟨query,asked,listed⟩,inside⟩
  · intro enough keys listed key inside
    obtain ⟨query,asked,listed⟩ := List.mem_flatMap.mp listed
    exact outer.complete ((flatten_length_le inner).trans enough.2) _ (List.mem_map.mpr ⟨query,asked,rfl⟩)
      ((inner query asked).complete (enough.1 query asked) keys listed inside)
  · intro above below dominates kept
    refine outer.ordered above below ?_ kept
    intro keys listed inside
    obtain ⟨query,asked,rfl⟩ := List.mem_map.mp listed
    exact (inner query asked).ordered above below (fun keys listed =>
      dominates keys (List.mem_flatMap.mpr ⟨query,asked,listed⟩)) inside

end

section
variable {Key Score : Type*} [DecidableEq Key] [AddCommMonoid Score] (weight : Nat → Score)

/-- What the ranks of a key in a list weigh, counted from the given rank on. -/
def points : Nat → List Key → Key → Score
  | _, [], _ => 0
  | rank, first::rest, key => (if first = key then weight rank else 0) + points (rank + 1) rest key

def score (lists : List (List Key)) (key : Key) : Score := (lists.map (fun keys => points weight 1 keys key)).sum

variable {weight}

theorem score_cons (keys : List Key) (lists : List (List Key)) (key : Key) :
    score weight (keys::lists) key = points weight 1 keys key + score weight lists key := by
  rw [score,List.map_cons,List.sum_cons,score]

private theorem points_absent {rank : Nat} {keys : List Key} {key : Key} (absent : key ∉ keys) :
    points weight rank keys key = 0 := by
  induction keys generalizing rank with
  | nil => rfl
  | cons first rest ih =>
    obtain ⟨other,later⟩ := not_or.mp (fun either => absent (List.mem_cons.mpr either))
    rw [points,if_neg (Ne.symm other),ih later,add_zero]

variable [LinearOrder Score] (positive : ∀ rank, 0 < rank → 0 < weight rank)
  (decreasing : ∀ rank, 0 < rank → weight (rank + 1) < weight rank)
include positive decreasing

private theorem points_le {rank : Nat} (counted : 0 < rank) {keys : List Key} (distinct : keys.Nodup) (key : Key) :
    points weight rank keys key ≤ weight rank := by
  induction keys generalizing rank with
  | nil => exact (positive rank counted).le
  | cons first rest ih =>
    obtain ⟨new,later⟩ := List.nodup_cons.mp distinct
    rw [points]
    split_ifs with same
    · subst same
      rw [points_absent new,add_zero]
    · rw [zero_add]
      exact (ih (Nat.succ_pos _) later).trans (decreasing rank counted).le

private theorem points_lt {rank : Nat} (counted : 0 < rank) {keys : List Key} (distinct : keys.Nodup)
    {above below : Key} (precedes : Precedes keys above below) :
    points weight rank keys below < points weight rank keys above := by
  induction keys generalizing rank with
  | nil => cases precedes
  | cons first rest ih =>
    obtain ⟨new,later⟩ := List.nodup_cons.mp distinct
    rw [points,points]
    cases precedes with
    | cons _ after =>
      have other : first ≠ above := fun same => new (same ▸ Precedes.left after)
      have other' : first ≠ below := fun same => new (same ▸ Precedes.right after)
      rw [if_neg other,if_neg other',zero_add,zero_add]
      exact ih (Nat.succ_pos _) later after
    | cons_cons _ after =>
      have other : above ≠ below := fun same => new (same ▸ List.singleton_sublist.mp after)
      rw [if_neg other,if_pos rfl,zero_add,points_absent new,add_zero]
      exact (points_le positive decreasing (Nat.succ_pos _) later below).trans_lt (decreasing rank counted)

variable [IsOrderedCancelAddMonoid Score]

omit decreasing in
theorem points_nonneg {rank : Nat} (counted : 0 < rank) (keys : List Key) (key : Key) :
    0 ≤ points weight rank keys key := by
  induction keys generalizing rank with
  | nil => exact le_rfl
  | cons first rest ih =>
    rw [points]
    refine add_nonneg ?_ (ih (Nat.succ_pos _))
    split_ifs
    · exact (positive rank counted).le
    · exact le_rfl

private theorem score_lt {lists : List (List Key)} (distinct : ∀ keys ∈ lists, keys.Nodup) {above below : Key}
    (dominates : Dominates lists above below) (somewhere : ∃ keys ∈ lists, below ∈ keys) :
    score weight lists below < score weight lists above := by
  have lower : ∀ keys ∈ lists, below ∈ keys → points weight 1 keys below < points weight 1 keys above :=
    fun keys listed inside => points_lt positive decreasing Nat.one_pos (distinct keys listed)
      (dominates keys listed inside)
  apply List.sum_lt_sum
  · intro keys listed
    by_cases inside : below ∈ keys
    · exact (lower keys listed inside).le
    · rw [points_absent inside]
      exact points_nonneg positive Nat.one_pos keys above
  · obtain ⟨keys,listed,inside⟩ := somewhere
    exact ⟨keys,listed,lower keys listed inside⟩

theorem fused_of_sorted {lists : List (List Key)} (distinct : ∀ keys ∈ lists, keys.Nodup)
    {whole : List Key} (once : whole.Nodup) (same : ∀ key, key ∈ whole ↔ ∃ keys ∈ lists, key ∈ keys)
    (sorted : whole.Pairwise (fun first second => score weight lists second ≤ score weight lists first))
    (limit : Nat) : Fused lists (lists.flatten.length ≤ limit) (whole.take limit) := by
  have fewer : whole.length ≤ lists.flatten.length := by
    refine (List.subperm_of_subset once ?_).length_le
    intro key member
    exact List.mem_flatten.mpr ((same key).mp member)
  constructor
  · exact once.sublist (List.take_sublist _ _)
  · intro key member
    exact (same key).mp (List.mem_of_mem_take member)
  · intro enough keys listed key inside
    rw [List.take_of_length_le (fewer.trans enough)]
    exact (same key).mpr ⟨keys,listed,inside⟩
  · intro above below dominates kept
    obtain ⟨keys,listed,inside⟩ := (same below).mp (List.mem_of_mem_take kept)
    have first : above ∈ whole :=
      (same above).mpr ⟨keys,listed,(dominates keys listed inside).left⟩
    have more := score_lt positive decreasing distinct dominates ⟨keys,listed,inside⟩
    exact (precedes_of_sorted sorted first (List.mem_of_mem_take kept) more).take once kept

end

end CustomerService.Dominance
