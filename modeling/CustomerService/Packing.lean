import Mathlib.Algebra.BigOperators.Group.List.Basic
import Mathlib.Algebra.Order.Ring.Int
import Mathlib.Data.List.Induction

/-! Items taken one after the other while they fit into a budget; the first one is always taken. -/
namespace CustomerService.Packing

variable {Item : Type*} (cost : Item → Int) (budget : Int)

def total (items : List Item) : Int := (items.map cost).sum

def take (kept : List Item × Int) (item : Item) : List Item × Int :=
  if !kept.1.isEmpty ∧ budget < kept.2 + cost item then kept else (kept.1 ++ [item],kept.2 + cost item)

def pack (items : List Item) : List Item × Int := items.foldl (take cost budget) ([],0)

private theorem total_append (first second : List Item) :
    total cost (first ++ second) = total cost first + total cost second := by
  rw [total,List.map_append,List.sum_append,total,total]

private theorem pack_snoc (items : List Item) (item : Item) :
    pack cost budget (items ++ [item]) = take cost budget (pack cost budget items) item := by
  rw [pack,List.foldl_append,List.foldl_cons,List.foldl_nil,← pack]

theorem pack_total (items : List Item) :
    (pack cost budget items).2 = total cost (pack cost budget items).1 := by
  induction items using List.reverseRecOn with
  | nil => rfl
  | append_singleton earlier item ih =>
    rw [pack_snoc,take]
    split_ifs
    · exact ih
    · rw [total_append,ih]
      simp [total]

private theorem pack_append (before after : List Item) :
    ∃ later, (pack cost budget (before ++ after)).1 = (pack cost budget before).1 ++ later ∧
      later.Sublist after := by
  induction after using List.reverseRecOn with
  | nil => exact ⟨[],by simp,List.Sublist.refl _⟩
  | append_singleton earlier item ih =>
    obtain ⟨later,taken,inside⟩ := ih
    rw [← List.append_assoc,pack_snoc,take]
    split_ifs
    · exact ⟨later,taken,inside.trans (List.sublist_append_left _ _)⟩
    · exact ⟨later ++ [item],by rw [taken,List.append_assoc],inside.append (List.Sublist.refl _)⟩

theorem pack_sublist (items : List Item) : (pack cost budget items).1.Sublist items := by
  obtain ⟨later,taken,inside⟩ := pack_append cost budget [] items
  rw [List.nil_append] at taken
  rw [taken]
  exact inside

theorem pack_first (item : Item) (rest : List Item) :
    ∃ later, (pack cost budget (item::rest)).1 = item::later := by
  obtain ⟨later,taken,_⟩ := pack_append cost budget [item] rest
  exact ⟨later,taken⟩

theorem pack_fits (items : List Item) :
    (pack cost budget items).2 ≤ budget ∨ (pack cost budget items).1.length ≤ 1 := by
  induction items using List.reverseRecOn with
  | nil => exact .inr (Nat.zero_le _)
  | append_singleton earlier item ih =>
    rw [pack_snoc,take]
    split_ifs with tooMuch
    · exact ih
    · by_cases none : (pack cost budget earlier).1 = []
      · exact .inr (by simp [none])
      · refine .inl (not_lt.mp (fun more => tooMuch ⟨?_,more⟩))
        simpa using none

theorem pack_full {before after : List Item} {item : Item}
    (dropped : item ∉ (pack cost budget (before ++ item::after)).1) :
    budget < (pack cost budget before).2 + cost item := by
  have split : before ++ item::after = (before ++ [item]) ++ after := by simp
  rw [split] at dropped
  obtain ⟨later,taken,_⟩ := pack_append cost budget (before ++ [item]) after
  rw [taken,pack_snoc,take] at dropped
  split_ifs at dropped with tooMuch
  · exact tooMuch.2
  · exact absurd (by simp) dropped

variable [DecidableEq Item]

theorem pack_before {before after : List Item} (distinct : (before ++ after).Nodup) :
    (pack cost budget (before ++ after)).1.filter (fun item => before.contains item) =
      (pack cost budget before).1 := by
  obtain ⟨later,taken,inside⟩ := pack_append cost budget before after
  have apart := (List.nodup_append.mp distinct).2.2
  rw [taken,List.filter_append,List.filter_eq_self.mpr,List.filter_eq_nil_iff.mpr,List.append_nil]
  · intro item member present
    exact apart _ (List.contains_iff_mem.mp present) _ (inside.subset member) rfl
  · intro item member
    exact List.contains_iff_mem.mpr ((pack_sublist cost budget before).subset member)

end CustomerService.Packing
