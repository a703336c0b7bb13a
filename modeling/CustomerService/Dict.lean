import Mathlib.Data.List.Nodup
import Mathlib.Data.List.Basic

/-! Dictionaries that keep insertion order: assigning to a present key keeps its
place, a new key goes last. Two dictionaries are equal only when their order is. -/
namespace CustomerService

structure Dict (Key Value : Type*) where
  entries : List (Key × Value)
  distinct : (entries.map Prod.fst).Nodup

namespace Dict

variable {Key Value : Type*}

theorem ext' {first second : Dict Key Value} (same : first.entries = second.entries) :
    first = second := by
  cases first
  cases second
  cases same
  rfl

instance [DecidableEq Key] [DecidableEq Value] : DecidableEq (Dict Key Value) := fun first second =>
  decidable_of_iff (first.entries = second.entries) ⟨ext',fun same => by rw [same]⟩

def empty : Dict Key Value := ⟨[],List.nodup_nil⟩

instance : EmptyCollection (Dict Key Value) := ⟨empty⟩

def keys (dict : Dict Key Value) : List Key := dict.entries.map Prod.fst

def values (dict : Dict Key Value) : List Value := dict.entries.map Prod.snd

def isEmpty (dict : Dict Key Value) : Bool := dict.entries.isEmpty

def size (dict : Dict Key Value) : Nat := dict.entries.length

def filter (keep : Key → Value → Bool) (dict : Dict Key Value) : Dict Key Value :=
  ⟨dict.entries.filter (fun entry => keep entry.1 entry.2),
    dict.distinct.sublist (List.filter_sublist.map Prod.fst)⟩

@[simp] theorem entries_empty : (∅ : Dict Key Value).entries = [] := rfl

variable {Other : Type*}

def filterMap (change : Key → Value → Option Other) (dict : Dict Key Value) : Dict Key Other :=
  ⟨dict.entries.filterMap (fun entry => (change entry.1 entry.2).map (fun value => (entry.1,value))),
    by
      refine dict.distinct.sublist ?_
      induction dict.entries with
      | nil => simp
      | cons entry rest ih =>
        cases changed : change entry.1 entry.2 with
        | none => simpa [changed] using ih.cons entry.1
        | some value => simpa [changed] using ih.cons_cons entry.1⟩

variable [DecidableEq Key]

def get? (dict : Dict Key Value) (key : Key) : Option Value :=
  (dict.entries.find? (fun entry => entry.1 == key)).map Prod.snd

def getD (dict : Dict Key Value) (key : Key) (default : Value) : Value :=
  (dict.get? key).getD default

def erase (dict : Dict Key Value) (key : Key) : Dict Key Value :=
  dict.filter (fun other _ => other != key)

def replaceEntry (key : Key) (value : Value) (entry : Key × Value) : Key × Value :=
  if entry.1 = key then (key,value) else entry

theorem replaceEntry_fst (key : Key) (value : Value) (entry : Key × Value) :
    (replaceEntry key value entry).1 = entry.1 := by
  unfold replaceEntry
  split_ifs with same
  · exact same.symm
  · rfl

private theorem map_replaceEntry (key : Key) (value : Value) (entries : List (Key × Value)) :
    (entries.map (replaceEntry key value)).map Prod.fst = entries.map Prod.fst := by
  simp [List.map_map,Function.comp_def,replaceEntry_fst]

def set (dict : Dict Key Value) (key : Key) (value : Value) : Dict Key Value :=
  if present : key ∈ dict.keys then
    ⟨dict.entries.map (replaceEntry key value),by
      rw [map_replaceEntry]
      exact dict.distinct⟩
  else
    ⟨dict.entries ++ [(key,value)],by
      rw [List.map_append]
      refine dict.distinct.append (List.nodup_singleton _) ?_
      intro other inside same
      have equal : other = key := List.mem_singleton.mp same
      exact present (equal ▸ inside)⟩

/-- One pass over the entries, each combined with what its key holds so far. -/
def mergeWith (combine : Option Value → Other → Value) (dict : Dict Key Value)
    (entries : List (Key × Other)) : Dict Key Value :=
  entries.foldl (fun current entry =>
    current.set entry.1 (combine (current.get? entry.1) entry.2)) dict

def update (dict : Dict Key Value) (entries : List (Key × Value)) : Dict Key Value :=
  dict.mergeWith (fun _ value => value) entries

theorem get?_eq_some (dict : Dict Key Value) (key : Key) (value : Value) :
    dict.get? key = some value ↔ (key,value) ∈ dict.entries := by
  obtain ⟨entries,distinct⟩ := dict
  unfold get?
  induction entries with
  | nil => simp
  | cons entry rest ih =>
    obtain ⟨fresh,tail⟩ := List.nodup_cons.mp distinct
    by_cases same : entry.1 = key
    · subst same
      have absent : (entry.1,value) ∉ rest := fun member =>
        fresh (List.mem_map.mpr ⟨_,member,rfl⟩)
      simp [absent,Prod.ext_iff,eq_comm]
    · have other : (key,value) ≠ entry := fun equal => same (by rw [← equal])
      simpa [same,other] using ih tail

theorem get?_isSome (dict : Dict Key Value) (key : Key) :
    (dict.get? key).isSome = true ↔ key ∈ dict.keys := by
  rw [Option.isSome_iff_exists,keys,List.mem_map]
  constructor
  · rintro ⟨value,found⟩
    exact ⟨(key,value),(get?_eq_some dict key value).mp found,rfl⟩
  · rintro ⟨entry,member,rfl⟩
    exact ⟨entry.2,(get?_eq_some dict _ _).mpr member⟩

theorem get?_eq_none (dict : Dict Key Value) (key : Key) :
    dict.get? key = none ↔ key ∉ dict.keys := by
  rw [← get?_isSome,Bool.not_eq_true,Option.isSome_eq_false_iff,Option.isNone_iff_eq_none]

@[simp] theorem get?_empty (key : Key) : (∅ : Dict Key Value).get? key = none := rfl

theorem get?_filter (keep : Key → Value → Bool) (dict : Dict Key Value) (key : Key) :
    (dict.filter keep).get? key = (dict.get? key).filter (keep key) := by
  ext value
  rw [get?_eq_some,Option.filter_eq_some_iff,get?_eq_some]
  simp [filter]

theorem get?_filterKeys (keep : Key → Bool) (dict : Dict Key Value) (key : Key) :
    (dict.filter (fun other _ => keep other)).get? key =
      if keep key = true then dict.get? key else none := by
  rw [get?_filter]
  cases dict.get? key <;> cases keep key <;> rfl

theorem get?_erase (dict : Dict Key Value) (key other : Key) :
    (dict.erase key).get? other = if other = key then none else dict.get? other := by
  rw [erase,get?_filterKeys]
  by_cases same : other = key <;> simp [same]

theorem get?_set (dict : Dict Key Value) (key other : Key) (value : Value) :
    (dict.set key value).get? other = if other = key then some value else dict.get? other := by
  ext found
  rw [get?_eq_some]
  unfold set
  split
  · rename_i present
    by_cases same : other = key
    · subst same
      simp only [if_true,List.mem_map,Option.some.injEq]
      constructor
      · rintro ⟨entry,_,equal⟩
        unfold replaceEntry at equal
        split at equal
        · exact (Prod.mk.inj equal).2
        · rename_i different
          exact absurd (by rw [equal]) different
      · rintro rfl
        obtain ⟨entry,member,equal⟩ := List.mem_map.mp present
        exact ⟨entry,member,by simp [replaceEntry,equal]⟩
    · simp only [same,if_false,List.mem_map,get?_eq_some]
      constructor
      · rintro ⟨entry,member,equal⟩
        unfold replaceEntry at equal
        split at equal
        · exact absurd (Prod.mk.inj equal).1.symm same
        · exact equal ▸ member
      · intro member
        exact ⟨(other,found),member,by simp [replaceEntry,same]⟩
  · rename_i absent
    by_cases same : other = key
    · subst same
      have none' : (other,found) ∉ dict.entries := fun member =>
        absent (List.mem_map.mpr ⟨_,member,rfl⟩)
      simp [none',eq_comm]
    · simp [same,get?_eq_some]

theorem getD_of_some {dict : Dict Key Value} {key : Key} {value : Value}
    (found : dict.get? key = some value) (default : Value) : dict.getD key default = value := by
  rw [getD,found,Option.getD_some]

theorem getD_of_none {dict : Dict Key Value} {key : Key} (missing : dict.get? key = none)
    (default : Value) : dict.getD key default = default := by
  rw [getD,missing,Option.getD_none]

theorem getD_set (dict : Dict Key Value) (key other : Key) (value default : Value) :
    (dict.set key value).getD other default = if other = key then value else dict.getD other default := by
  rw [getD,get?_set]
  split <;> rfl

theorem get?_filterMap (change : Key → Value → Option Other) (dict : Dict Key Value) (key : Key) :
    (dict.filterMap change).get? key = (dict.get? key).bind (change key) := by
  ext found
  rw [get?_eq_some,Option.bind_eq_some_iff]
  simp only [filterMap,List.mem_filterMap,Option.map_eq_some_iff,Prod.mk.injEq,get?_eq_some]
  constructor
  · rintro ⟨entry,member,value,changed,rfl,rfl⟩
    exact ⟨entry.2,member,changed⟩
  · rintro ⟨value,member,changed⟩
    exact ⟨(key,value),member,found,changed,rfl,rfl⟩

theorem mergeWith_cons (combine : Option Value → Other → Value) (dict : Dict Key Value)
    (entry : Key × Other) (rest : List (Key × Other)) :
    dict.mergeWith combine (entry::rest) =
      (dict.set entry.1 (combine (dict.get? entry.1) entry.2)).mergeWith combine rest := rfl

theorem get?_mergeWith_absent (combine : Option Value → Other → Value) (dict : Dict Key Value)
    (entries : List (Key × Other)) (key : Key) (absent : key ∉ entries.map Prod.fst) :
    (dict.mergeWith combine entries).get? key = dict.get? key := by
  induction entries generalizing dict with
  | nil => rfl
  | cons entry rest ih =>
    simp only [List.map_cons,List.mem_cons,not_or] at absent
    rw [mergeWith_cons,ih _ absent.2,get?_set,if_neg absent.1]

theorem get?_mergeWith (combine : Option Value → Other → Value) (dict : Dict Key Value)
    (other : Dict Key Other) (key : Key) :
    (dict.mergeWith combine other.entries).get? key =
      match other.get? key with
      | none => dict.get? key
      | some value => some (combine (dict.get? key) value) := by
  cases found : other.get? key with
  | none =>
    exact get?_mergeWith_absent _ _ _ _ ((get?_eq_none other key).mp found)
  | some value =>
    have member := (get?_eq_some other key value).mp found
    obtain ⟨first,rest,split⟩ := List.append_of_mem member
    have distinct := other.distinct
    rw [split,List.map_append,List.map_cons] at distinct
    obtain ⟨_,tail,apart⟩ := List.nodup_append.mp distinct
    have before : key ∉ first.map Prod.fst := fun inside => apart key inside key (by simp) rfl
    have after : key ∉ rest.map Prod.fst := (List.nodup_cons.mp tail).1
    have whole : dict.mergeWith combine other.entries =
        ((dict.mergeWith combine first).mergeWith combine ((key,value)::rest)) := by
      rw [split,mergeWith,List.foldl_append]
      rfl
    rw [whole,mergeWith_cons,get?_mergeWith_absent _ _ _ _ after,get?_set,if_pos rfl,
      get?_mergeWith_absent _ _ _ _ before]

theorem get?_update (dict : Dict Key Value) (other : Dict Key Value) (key : Key) :
    (dict.update other.entries).get? key = (other.get? key).or (dict.get? key) := by
  rw [update,get?_mergeWith]
  cases other.get? key <;> rfl

theorem get?_update_mem (dict : Dict Key Value) (entries : List (Key × Value)) {key : Key}
    {value : Value} (found : (dict.update entries).get? key = some value) :
    (key,value) ∈ entries ∨ dict.get? key = some value := by
  induction entries generalizing dict with
  | nil => exact Or.inr found
  | cons entry rest ih =>
    rcases ih (dict.set entry.1 entry.2) found with later | here
    · exact Or.inl (List.mem_cons_of_mem _ later)
    · rw [get?_set] at here
      split at here
      · rename_i same
        cases here
        exact Or.inl (same ▸ List.mem_cons_self)
      · exact Or.inr here

theorem get?_update_present (dict : Dict Key Value) (entries : List (Key × Value)) {key : Key}
    (present : key ∈ entries.map Prod.fst ∨ dict.get? key ≠ none) :
    (dict.update entries).get? key ≠ none := by
  induction entries generalizing dict with
  | nil => exact present.resolve_left (List.not_mem_nil)
  | cons entry rest ih =>
    refine ih (dict.set entry.1 entry.2) ?_
    rw [get?_set]
    by_cases same : key = entry.1
    · exact Or.inr (by simp [same])
    · rw [if_neg same]
      exact present.imp_left (fun listed => (List.mem_cons.mp listed).resolve_left same)

theorem set_absent (dict : Dict Key Value) (key : Key) (value : Value) (absent : key ∉ dict.keys) :
    (dict.set key value).entries = dict.entries ++ [(key,value)] := by
  simp [set,absent]

theorem update_disjoint (dict : Dict Key Value) (entries : List (Key × Value))
    (distinct : (dict.entries.map Prod.fst ++ entries.map Prod.fst).Nodup) :
    (dict.update entries).entries = dict.entries ++ entries := by
  induction entries generalizing dict with
  | nil => simp [update,mergeWith]
  | cons entry rest ih =>
    have absent : entry.1 ∉ dict.keys := by
      intro inside
      exact (List.nodup_append.mp distinct).2.2 _ inside entry.1 (by simp) rfl
    have next := set_absent dict entry.1 entry.2 absent
    have tail := ih (dict.set entry.1 entry.2) (by simpa [next] using distinct)
    rw [update] at tail ⊢
    rw [mergeWith_cons,tail,next]
    simp

theorem update_empty (dict : Dict Key Value) : (∅ : Dict Key Value).update dict.entries = dict :=
  ext' (by simpa using update_disjoint ∅ dict.entries (by simpa using dict.distinct))

omit [DecidableEq Key] in
theorem entries_nodup (dict : Dict Key Value) : dict.entries.Nodup := .of_map _ dict.distinct

theorem size_congr {first second : Dict Key Value} (same : ∀ key, first.get? key = second.get? key) :
    first.size = second.size := by
  refine List.Perm.length_eq ?_
  refine (List.perm_ext_iff_of_nodup first.entries_nodup second.entries_nodup).mpr ?_
  rintro ⟨key,value⟩
  rw [← get?_eq_some,← get?_eq_some,same]

def tally (counts : Value → Bool) (dict : Dict Key Value) : Nat :=
  dict.entries.countP (fun entry => counts entry.2)

theorem tally_set_absent (counts : Value → Bool) (dict : Dict Key Value) {key : Key}
    (absent : dict.get? key = none) (value : Value) :
    (dict.set key value).tally counts = dict.tally counts + (counts value).toNat := by
  rw [tally,tally,set_absent dict key value ((get?_eq_none dict key).mp absent),List.countP_append,
    List.countP_singleton]
  cases counts value <;> rfl

private theorem countP_replaceEntry (counts : Value → Bool) (key : Key) (value : Value)
    (entries : List (Key × Value)) (absent : key ∉ entries.map Prod.fst) :
    (entries.map (replaceEntry key value)).countP (fun entry => counts entry.2) =
      entries.countP (fun entry => counts entry.2) := by
  have same : entries.map (replaceEntry key value) = entries := by
    refine (List.map_congr_left (fun entry member => ?_)).trans (List.map_id _)
    refine if_neg (fun equal => absent ?_)
    exact equal ▸ List.mem_map_of_mem member
  rw [same]

theorem tally_set_present (counts : Value → Bool) (dict : Dict Key Value) {key : Key} {old : Value}
    (found : dict.get? key = some old) (value : Value) :
    (dict.set key value).tally counts + (counts old).toNat =
      dict.tally counts + (counts value).toNat := by
  have present : key ∈ dict.keys := by
    rw [← get?_isSome,found]
    rfl
  obtain ⟨first,rest,split⟩ := List.append_of_mem ((get?_eq_some dict key old).mp found)
  have distinct := dict.distinct
  rw [split,List.map_append,List.map_cons] at distinct
  obtain ⟨_,tail,apart⟩ := List.nodup_append.mp distinct
  have before : key ∉ first.map Prod.fst := fun inside => apart key inside key (by simp) rfl
  have after : key ∉ rest.map Prod.fst := (List.nodup_cons.mp tail).1
  have changed : (dict.set key value).entries =
      first.map (replaceEntry key value) ++ (key,value) :: rest.map (replaceEntry key value) := by
    simp [set,present,split,replaceEntry]
  rw [tally,tally,changed,split,List.countP_append,List.countP_append,List.countP_cons,
    List.countP_cons,countP_replaceEntry counts key value first before,
    countP_replaceEntry counts key value rest after]
  cases counts old <;> cases counts value <;> simp <;> omega

theorem tally_eq_zero {counts : Value → Bool} {dict : Dict Key Value}
    (none' : ∀ key value, dict.get? key = some value → counts value = false) :
    dict.tally counts = 0 := by
  refine List.countP_eq_zero.mpr (fun entry member => ?_)
  rw [none' entry.1 entry.2 ((get?_eq_some dict _ _).mpr member)]
  exact Bool.false_ne_true

theorem isEmpty_iff (dict : Dict Key Value) :
    dict.isEmpty = true ↔ ∀ key, dict.get? key = none := by
  simp only [get?_eq_none,keys,isEmpty,List.isEmpty_iff]
  constructor
  · intro none' key
    simp [none']
  · intro absent
    cases entries : dict.entries with
    | nil => rfl
    | cons entry rest => exact absurd (by simp [entries]) (absent entry.1)

end Dict
end CustomerService
