import Mathlib.Data.List.Nodup
import Mathlib.Data.List.Dedup
import Mathlib.Data.List.DropRight
import Mathlib.Data.List.Perm.Subperm

/-! Lists in order of last use: an arriving item displaces every item of its key and
goes last. A capped list keeps the items used last; capping early is not seen later. -/
namespace CustomerService.Recency

variable {Item Key : Type*} [DecidableEq Key] (key : Item → Key)

def push (items : List Item) (item : Item) : List Item :=
  items.filter (fun other => key other ≠ key item) ++ [item]

def pushAll (items arriving : List Item) : List Item := arriving.foldl (push key) items

/-- The arriving items alone, each key at its last occurrence. -/
def latest (arriving : List Item) : List Item := pushAll key [] arriving

def undisturbed (items arriving : List Item) : List Item :=
  items.filter (fun item => key item ∉ arriving.map key)

theorem pushAll_append (items first second : List Item) :
    pushAll key items (first ++ second) = pushAll key (pushAll key items first) second :=
  List.foldl_append

private theorem pushAll_concat (items arriving : List Item) (item : Item) :
    pushAll key items (arriving ++ [item]) = push key (pushAll key items arriving) item :=
  pushAll_append key items arriving [item]

theorem latest_concat (arriving : List Item) (item : Item) :
    latest key (arriving ++ [item]) = push key (latest key arriving) item :=
  pushAll_concat key [] arriving item

private theorem push_append (first second : List Item) (item : Item) :
    push key (first ++ second) item =
      first.filter (fun other => key other ≠ key item) ++ push key second item := by
  simp [push]

private theorem undisturbed_concat (items arriving : List Item) (item : Item) :
    undisturbed key items (arriving ++ [item]) =
      (undisturbed key items arriving).filter (fun other => key other ≠ key item) := by
  unfold undisturbed
  rw [List.filter_filter]
  refine List.filter_congr (fun other _ => ?_)
  simp [not_or,Bool.and_comm]

theorem pushAll_eq (items arriving : List Item) :
    pushAll key items arriving = undisturbed key items arriving ++ latest key arriving := by
  induction arriving using List.reverseRecOn with
  | nil => simp [pushAll,latest,undisturbed]
  | append_singleton arriving item ih =>
    rw [pushAll_concat,ih,push_append,undisturbed_concat,latest_concat]

theorem latest_append (first second : List Item) :
    latest key (first ++ second) =
      undisturbed key (latest key first) second ++ latest key second := by
  rw [latest,pushAll_append,pushAll_eq]
  rfl

theorem mem_of_mem_latest {arriving : List Item} {item : Item}
    (member : item ∈ latest key arriving) : item ∈ arriving := by
  induction arriving using List.reverseRecOn with
  | nil => cases member
  | append_singleton arriving last ih =>
    rw [latest_concat,push,List.mem_append,List.mem_singleton] at member
    rcases member with inside | rfl
    · exact List.mem_append_left _ (ih (List.mem_of_mem_filter inside))
    · simp

theorem keys_latest (arriving : List Item) (k : Key) :
    k ∈ (latest key arriving).map key ↔ k ∈ arriving.map key := by
  induction arriving using List.reverseRecOn with
  | nil => simp [latest,pushAll]
  | append_singleton arriving last ih =>
    have earlier : k ∈ ((latest key arriving).filter (fun other => key other ≠ key last)).map key ↔
        k ∈ (latest key arriving).map key ∧ k ≠ key last := by
      simp only [List.mem_map,List.mem_filter,decide_eq_true_eq]
      constructor
      · rintro ⟨item,⟨inside,apart⟩,rfl⟩
        exact ⟨⟨item,inside,rfl⟩,apart⟩
      · rintro ⟨⟨item,inside,rfl⟩,apart⟩
        exact ⟨item,⟨inside,apart⟩,rfl⟩
    rw [latest_concat,push,List.map_append,List.mem_append,List.map_append,List.mem_append,earlier,ih]
    by_cases same : k = key last <;> simp [same]

theorem nodup_latest (arriving : List Item) : ((latest key arriving).map key).Nodup := by
  induction arriving using List.reverseRecOn with
  | nil => simp [latest,pushAll]
  | append_singleton arriving last ih =>
    rw [latest_concat,push,List.map_append]
    refine (ih.sublist (List.filter_sublist.map key)).append (List.nodup_singleton _) ?_
    intro k inside same
    obtain ⟨item,member,rfl⟩ := List.mem_map.mp inside
    have apart := (List.mem_filter.mp member).2
    simp only [List.map_cons,List.map_nil,List.mem_singleton] at same
    simp [same] at apart

theorem latest_of_nodup {items : List Item} (distinct : (items.map key).Nodup) :
    latest key items = items := by
  induction items using List.reverseRecOn with
  | nil => rfl
  | append_singleton items last ih =>
    rw [List.map_append] at distinct
    obtain ⟨front,_,apart⟩ := List.nodup_append.mp distinct
    rw [latest_concat,push,ih front]
    congr 1
    refine List.filter_eq_self.mpr (fun item member => ?_)
    exact decide_eq_true (apart _ (List.mem_map_of_mem member) _ (by simp))

theorem latest_append_nodup {items : List Item} (distinct : (items.map key).Nodup)
    (arriving : List Item) : latest key (items ++ arriving) = pushAll key items arriving := by
  rw [latest_append,latest_of_nodup key distinct,pushAll_eq]

private theorem pushAll_latest (items arriving : List Item) :
    pushAll key items (latest key arriving) = pushAll key items arriving := by
  rw [pushAll_eq,pushAll_eq,latest_of_nodup key (nodup_latest key arriving)]
  congr 1
  refine List.filter_congr (fun item _ => ?_)
  simp only [keys_latest]

theorem latest_eq_dedup (arriving : List Key) : latest id arriving = arriving.dedup := by
  have concat (earlier : List Key) (last : Key) :
      (earlier ++ [last]).dedup = earlier.dedup.filter (fun other => other ≠ last) ++ [last] := by
    induction earlier with
    | nil => rfl
    | cons first rest ih =>
      rw [List.cons_append]
      by_cases later : first ∈ rest
      · rw [List.dedup_cons_of_mem (List.mem_append_left _ later),List.dedup_cons_of_mem later,ih]
      · by_cases same : first = last
        · subst same
          rw [List.dedup_cons_of_mem (List.mem_append_right _ (List.mem_singleton_self _)),
            List.dedup_cons_of_notMem later,ih,List.filter_cons_of_neg (by simp)]
        · rw [List.dedup_cons_of_notMem (by simp [later,same]),List.dedup_cons_of_notMem later,ih,
            List.filter_cons_of_pos (by simp [same]),List.cons_append]
  induction arriving using List.reverseRecOn with
  | nil => rfl
  | append_singleton arriving item ih =>
    rw [latest_concat,ih,concat]
    rfl

/-! Caps. -/

theorem rtake_eq_self {items : List Item} {cap : Nat} (short : items.length ≤ cap) :
    items.rtake cap = items := by
  rw [List.rtake,Nat.sub_eq_zero_of_le short,List.drop_zero]

theorem rtake_append_of_le {first second : List Item} {cap : Nat} (long : cap ≤ second.length) :
    (first ++ second).rtake cap = second.rtake cap := by
  unfold List.rtake
  have size : (first ++ second).length - cap = first.length + (second.length - cap) := by
    rw [List.length_append]
    omega
  rw [size,List.drop_append]
  simp

theorem rtake_append_of_ge {first second : List Item} {cap : Nat} (long : second.length ≤ cap) :
    (first ++ second).rtake cap = first.rtake (cap - second.length) ++ second := by
  unfold List.rtake
  have size : (first ++ second).length - cap = first.length - (cap - second.length) := by
    rw [List.length_append]
    omega
  rw [size,List.drop_append_of_le_length (Nat.sub_le _ _)]

theorem mem_rtake_append {first second : List Item} {cap : Nat} {item : Item}
    (member : item ∈ (first ++ second).rtake cap) : item ∈ first ∨ item ∈ second.rtake cap := by
  by_cases long : cap ≤ second.length
  · exact Or.inr (rtake_append_of_le long ▸ member)
  · rw [rtake_eq_self (by omega)]
    exact List.mem_append.mp (List.mem_of_mem_drop member)

private theorem mem_rtake_of_mem_rtake {first second : List Item} {cap : Nat} {item : Item}
    (member : item ∈ second.rtake cap) : item ∈ (first ++ second).rtake cap := by
  by_cases long : cap ≤ second.length
  · rwa [rtake_append_of_le long]
  · have inside := List.mem_of_mem_drop member
    rw [List.rtake,List.drop_append]
    have low : (first ++ second).length - cap - first.length = 0 := by
      rw [List.length_append]
      omega
    rw [low,List.drop_zero]
    exact List.mem_append_right _ inside

theorem length_rtake (items : List Item) (cap : Nat) :
    (items.rtake cap).length = min cap items.length := by
  rw [List.rtake,List.length_drop]
  omega

private theorem rtake_split (items : List Item) (cap : Nat) :
    items.take (items.length - cap) ++ items.rtake cap = items := List.take_append_drop _ _

theorem rtake_rtake (items : List Item) (cap : Nat) :
    (items.rtake cap).rtake cap = items.rtake cap :=
  rtake_eq_self (by rw [length_rtake]; omega)

theorem rtake_pushAll_forall {items arriving : List Item} {cap : Nat} {P : Item → Prop}
    (old : ∀ item ∈ items, P item) :
    (∀ item ∈ (pushAll key items arriving).rtake cap, P item) ↔
      ∀ item ∈ (latest key arriving).rtake cap, P item := by
  rw [pushAll_eq]
  constructor
  · exact fun all item member => all item (mem_rtake_of_mem_rtake member)
  · intro all item member
    rcases mem_rtake_append member with earlier | kept
    · exact old item (List.mem_of_mem_filter earlier)
    · exact all item kept

private theorem length_le_pushAll {items : List Item} (distinct : (items.map key).Nodup)
    (arriving : List Item) : items.length ≤ (pushAll key items arriving).length := by
  have split : items.length = (undisturbed key items arriving).length +
      (items.filter (fun item => !decide (key item ∉ arriving.map key))).length :=
    (List.length_eq_length_filter_add _)
  have gone : ((items.filter (fun item => !decide (key item ∉ arriving.map key))).map key).length ≤
      ((latest key arriving).map key).length := by
    refine (List.Nodup.subperm (distinct.sublist (List.filter_sublist.map key)) ?_).length_le
    intro k inside
    obtain ⟨item,member,rfl⟩ := List.mem_map.mp inside
    rw [keys_latest]
    simpa using (List.mem_filter.mp member).2
  rw [List.length_map,List.length_map] at gone
  rw [pushAll_eq,List.length_append]
  omega

theorem rtake_pushAll_rtake {items : List Item} (distinct : (items.map key).Nodup)
    (arriving : List Item) (cap : Nat) :
    (pushAll key (items.rtake cap) arriving).rtake cap = (pushAll key items arriving).rtake cap := by
  by_cases short : items.length ≤ cap
  · rw [rtake_eq_self short]
  · have whole := rtake_split items cap
    have kept : ((items.rtake cap).map key).Nodup :=
      distinct.sublist ((List.drop_sublist _ _).map key)
    have long := length_le_pushAll key kept arriving
    rw [length_rtake] at long
    have split : pushAll key items arriving =
        undisturbed key (items.take (items.length - cap)) arriving ++
          pushAll key (items.rtake cap) arriving := by
      rw [pushAll_eq,pushAll_eq key (items.rtake cap),← List.append_assoc]
      congr 1
      rw [undisturbed,undisturbed,undisturbed,← List.filter_append,whole]
    rw [split,rtake_append_of_le (by omega)]

theorem rtake_pushAll_latest (items arriving : List Item) (cap : Nat) :
    (pushAll key items ((latest key arriving).rtake cap)).rtake cap =
      (pushAll key items arriving).rtake cap := by
  by_cases short : (latest key arriving).length ≤ cap
  · rw [rtake_eq_self short,pushAll_latest]
  · have distinct : (((latest key arriving).rtake cap).map key).Nodup :=
      (nodup_latest key arriving).sublist ((List.drop_sublist _ _).map key)
    rw [pushAll_eq,latest_of_nodup key distinct,
      rtake_append_of_le (by rw [length_rtake]; omega),rtake_rtake,pushAll_eq,
      rtake_append_of_le (by omega)]

theorem nodup_pushAll {items : List Item} (distinct : (items.map key).Nodup) (arriving : List Item) :
    ((pushAll key items arriving).map key).Nodup := by
  rw [← latest_append_nodup key distinct]
  exact nodup_latest key (items ++ arriving)

theorem rtake_pushAll_assoc {items middle : List Item} (distinct : (items.map key).Nodup)
    (distinct' : (middle.map key).Nodup) (arriving : List Item) (cap : Nat) :
    (pushAll key ((pushAll key items middle).rtake cap) arriving).rtake cap =
      (pushAll key items ((pushAll key middle arriving).rtake cap)).rtake cap := by
  rw [rtake_pushAll_rtake key (nodup_pushAll key distinct middle),← pushAll_append,
    ← latest_append_nodup key distinct',rtake_pushAll_latest]

theorem reverse_rtake_push {items : List Key} (item : Key) (cap : Nat) :
    ((push id items item).rtake cap).reverse =
      (item::items.reverse.filter (fun other => other ≠ item)).take cap := by
  unfold push
  rw [List.rtake_eq_reverse_take_reverse,List.reverse_reverse,List.reverse_append,← List.filter_reverse]
  rfl

end CustomerService.Recency
