import CustomerService.Dict
import Mathlib.Order.Lattice

/-! Leases end by themselves. A book says who took which lease until when; a set
of expiries is one store's record of some of them. Entries that have expired and
are still stored, and leases that were never struck from the book, count nowhere. -/
namespace CustomerService

structure Lease (Holder Time : Type*) where
  holder : Holder
  expiry : Time
  deriving DecidableEq

namespace Lease

variable {Key Holder Time : Type*} [LinearOrder Time]

def unexpired (now : Time) (expiries : Dict Key Time) : Dict Key Time :=
  expiries.filter (fun _ expiry => decide (now < expiry))

section Book

variable (pick : Holder → Prop) [DecidablePred pick]

/-- The expiries of the leases that run on after `now` and whose holder is picked. -/
def running (now : Time) (book : Dict Key (Lease Holder Time)) : Dict Key Time :=
  book.filterMap (fun _ lease =>
    if now < lease.expiry ∧ pick lease.holder then some lease.expiry else none)

private theorem size_running (now : Time) (book : Dict Key (Lease Holder Time)) :
    (running pick now book).size =
      book.entries.countP (fun entry => decide (now < entry.2.expiry ∧ pick entry.2.holder)) := by
  simp only [Dict.size,running,Dict.filterMap,List.length_filterMap_eq_countP]
  congr
  ext entry
  by_cases counted : now < entry.2.expiry ∧ pick entry.2.holder <;> simp [counted]

theorem size_running_later {now later : Time} (order : now ≤ later)
    (book : Dict Key (Lease Holder Time)) :
    (running pick later book).size ≤ (running pick now book).size := by
  rw [size_running,size_running]
  refine List.countP_mono_left (fun entry _ counted => ?_)
  rw [decide_eq_true_iff] at counted ⊢
  exact ⟨order.trans_lt counted.1,counted.2⟩

variable [DecidableEq Key]

theorem size_running_erase (now : Time) (book : Dict Key (Lease Holder Time)) (key : Key) :
    (running pick now (book.erase key)).size ≤ (running pick now book).size := by
  rw [size_running,size_running]
  exact List.filter_sublist.countP_le

theorem size_running_set (now : Time) (book : Dict Key (Lease Holder Time)) {key : Key}
    (fresh : book.get? key = none) (lease : Lease Holder Time) :
    (running pick now (book.set key lease)).size = (running pick now book).size +
      if now < lease.expiry ∧ pick lease.holder then 1 else 0 := by
  have absent : key ∉ book.keys := (Dict.get?_eq_none book key).mp fresh
  rw [size_running,size_running,Dict.set_absent book key lease absent,List.countP_append,
    List.countP_singleton]
  simp only [decide_eq_true_iff]

theorem get?_running_erase (now : Time) (book : Dict Key (Lease Holder Time)) (key other : Key) :
    (running pick now (book.erase key)).get? other =
      if other = key then none else (running pick now book).get? other := by
  rw [running,running,Dict.get?_filterMap,Dict.get?_filterMap,Dict.get?_erase]
  split <;> rfl

theorem get?_running_set (now : Time) (book : Dict Key (Lease Holder Time)) (key other : Key)
    (lease : Lease Holder Time) :
    (running pick now (book.set key lease)).get? other =
      if other = key then
        if now < lease.expiry ∧ pick lease.holder then some lease.expiry else none
      else (running pick now book).get? other := by
  rw [running,running,Dict.get?_filterMap,Dict.get?_filterMap,Dict.get?_set]
  split <;> rfl

end Book

variable [DecidableEq Key]

theorem get?_unexpired (now : Time) (expiries : Dict Key Time) (key : Key) :
    (unexpired now expiries).get? key =
      (expiries.get? key).filter (fun expiry => decide (now < expiry)) :=
  Dict.get?_filter _ expiries key

omit [DecidableEq Key] in
theorem unexpired_later {now later : Time} (order : now ≤ later) (expiries : Dict Key Time) :
    unexpired later (unexpired now expiries) = unexpired later expiries := by
  apply Dict.ext'
  simp only [unexpired,Dict.filter,List.filter_filter]
  refine List.filter_congr (fun entry _ => ?_)
  by_cases ahead : later < entry.2
  · simp [ahead,order.trans_lt ahead]
  · simp [ahead]

theorem get?_unexpired_later {now later : Time} (order : now ≤ later) (expiries : Dict Key Time)
    (key : Key) : (unexpired later expiries).get? key =
      ((unexpired now expiries).get? key).filter (fun expiry => decide (later < expiry)) := by
  rw [← unexpired_later order,get?_unexpired]

/-- The set records the running leases of the picked holders, and nothing else
that has not expired. -/
def Records (pick : Holder → Prop) [DecidablePred pick] (now : Time)
    (book : Dict Key (Lease Holder Time)) (expiries : Dict Key Time) : Prop :=
  ∀ key, (unexpired now expiries).get? key = (running pick now book).get? key

namespace Records

variable {pick : Holder → Prop} [DecidablePred pick] {now : Time}
  {book : Dict Key (Lease Holder Time)} {expiries : Dict Key Time}

theorem size (records : Records pick now book expiries) :
    (unexpired now expiries).size = (running pick now book).size := Dict.size_congr records

theorem iff_running (records : Records pick now book expiries) (key : Key) (expiry : Time) :
    (unexpired now expiries).get? key = some expiry ↔
      ∃ holder, book.get? key = some ⟨holder,expiry⟩ ∧ now < expiry ∧ pick holder := by
  rw [records key,running,Dict.get?_filterMap,Option.bind_eq_some_iff]
  constructor
  · rintro ⟨lease,found,kept⟩
    split at kept
    · rename_i counted
      cases kept
      exact ⟨lease.holder,found,counted⟩
    · cases kept
  · rintro ⟨holder,found,counted⟩
    exact ⟨_,found,if_pos counted⟩

private theorem of_iff (same : ∀ key expiry, now < expiry →
      (expiries.get? key = some expiry ↔
        ∃ holder, book.get? key = some ⟨holder,expiry⟩ ∧ pick holder)) :
    Records pick now book expiries := by
  intro key
  ext expiry
  rw [get?_unexpired,Option.filter_eq_some_iff,running,Dict.get?_filterMap,
    Option.bind_eq_some_iff,decide_eq_true_iff]
  constructor
  · rintro ⟨stored,ahead⟩
    obtain ⟨holder,found,picked⟩ := (same key expiry ahead).mp stored
    exact ⟨_,found,if_pos ⟨ahead,picked⟩⟩
  · rintro ⟨lease,found,kept⟩
    split at kept
    · rename_i counted
      cases kept
      exact ⟨(same key _ counted.1).mpr ⟨lease.holder,found,counted.2⟩,counted.1⟩
    · cases kept

private theorem stored_iff_booked (records : Records pick now book expiries) (key : Key) {expiry : Time}
    (ahead : now < expiry) :
    expiries.get? key = some expiry ↔
      ∃ holder, book.get? key = some ⟨holder,expiry⟩ ∧ pick holder := by
  have known := records.iff_running key expiry
  rw [get?_unexpired,Option.filter_eq_some_iff,decide_eq_true_iff] at known
  simpa [ahead] using known

theorem later (records : Records pick now book expiries) {moment : Time} (order : now ≤ moment) :
    Records pick moment book expiries :=
  of_iff (fun key _ ahead => records.stored_iff_booked key (order.trans_lt ahead))

theorem purge (records : Records pick now book expiries) :
    Records pick now book (unexpired now expiries) := by
  intro key
  rw [unexpired_later le_rfl]
  exact records key

theorem add (records : Records pick now book expiries) (key : Key) {holder : Holder}
    (picked : pick holder) (expiry : Time) :
    Records pick now (book.set key ⟨holder,expiry⟩) (expiries.set key expiry) := by
  refine of_iff (fun other date ahead => ?_)
  rw [Dict.get?_set,Dict.get?_set]
  by_cases same : other = key
  · simp only [same,if_true,Option.some.injEq,Lease.mk.injEq]
    constructor
    · rintro rfl
      exact ⟨holder,⟨rfl,rfl⟩,picked⟩
    · rintro ⟨_,⟨_,equal⟩,_⟩
      exact equal
  · simpa only [same,if_false] using records.stored_iff_booked other ahead

theorem add_other (records : Records pick now book expiries) {key : Key}
    (fresh : book.get? key = none) {holder : Holder} (passed : ¬pick holder) (expiry : Time) :
    Records pick now (book.set key ⟨holder,expiry⟩) expiries := by
  refine of_iff (fun other date ahead => ?_)
  rw [records.stored_iff_booked other ahead,Dict.get?_set]
  by_cases same : other = key
  · simp only [same,if_true,fresh,Option.some.injEq,Lease.mk.injEq]
    constructor
    · rintro ⟨_,absurd,_⟩
      cases absurd
    · rintro ⟨_,⟨rfl,_⟩,picked⟩
      exact absurd picked passed
  · simp only [same,if_false]

theorem erase (records : Records pick now book expiries) (key : Key) :
    Records pick now (book.erase key) (expiries.erase key) := by
  refine of_iff (fun other date ahead => ?_)
  rw [Dict.get?_erase,Dict.get?_erase]
  by_cases same : other = key
  · simp [same]
  · simpa only [same,if_false] using records.stored_iff_booked other ahead

theorem erase_other (records : Records pick now book expiries) {key : Key}
    (passed : ∀ lease, book.get? key = some lease → ¬pick lease.holder) :
    Records pick now (book.erase key) expiries := by
  refine of_iff (fun other date ahead => ?_)
  rw [records.stored_iff_booked other ahead,Dict.get?_erase]
  by_cases same : other = key
  · subst same
    simp only [if_true,reduceCtorEq,false_and]
    constructor
    · rintro ⟨holder,found,picked⟩
      exact absurd picked (passed _ found)
    · rintro ⟨_,⟨⟩⟩
  · simp only [same,if_false]

theorem congr {other : Dict Key Time} (records : Records pick now book expiries)
    (same : ∀ key, other.get? key = expiries.get? key) : Records pick now book other := by
  intro key
  rw [get?_unexpired,same,← get?_unexpired]
  exact records key

end Records

theorem records_empty (pick : Holder → Prop) [DecidablePred pick] (now : Time) :
    Records pick now (∅ : Dict Key (Lease Holder Time)) ∅ := fun _ => rfl

end Lease
end CustomerService
