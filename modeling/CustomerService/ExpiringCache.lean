import CustomerService.Dict
import CustomerService.Recency
import Mathlib.Algebra.Order.Group.Defs
import Mathlib.Algebra.Group.Basic

/-! A store of the entries put last, up to a number of keys and an age. What it answers is said by the
history of the puts alone. -/
namespace CustomerService

namespace Dict

variable {Key Value : Type*} [DecidableEq Key]

def moveToEnd (dict : Dict Key Value) (key : Key) : Dict Key Value :=
  match dict.get? key with
  | none => dict
  | some held => (dict.erase key).set key held

theorem entries_erase (dict : Dict Key Value) (key : Key) :
    (dict.erase key).entries = dict.entries.filter (fun entry => entry.1 ≠ key) := by
  refine List.filter_congr (fun entry _ => ?_)
  rw [Bool.eq_iff_iff,bne_iff_ne,decide_eq_true_eq]

theorem entries_erases (keys : List Key) (dict : Dict Key Value) :
    (keys.foldl Dict.erase dict).entries = dict.entries.filter (fun entry => entry.1 ∉ keys) := by
  induction keys generalizing dict with
  | nil => simp
  | cons key others ih =>
    rw [List.foldl_cons,ih,entries_erase,List.filter_filter]
    refine List.filter_congr (fun entry _ => ?_)
    simp [not_or,Bool.and_comm]

private theorem filter_set (dict : Dict Key Value) (key : Key) (value : Value) :
    (dict.set key value).entries.filter (fun entry => entry.1 ≠ key) =
      dict.entries.filter (fun entry => entry.1 ≠ key) := by
  unfold set
  split_ifs with present
  · simp only
    induction dict.entries with
    | nil => rfl
    | cons entry others ih =>
      rw [List.map_cons]
      by_cases same : entry.1 = key
      · rw [List.filter_cons_of_neg (by simp [replaceEntry_fst,same]),
          List.filter_cons_of_neg (by simp [same]),ih]
      · have stays : replaceEntry key value entry = entry := if_neg same
        rw [stays,List.filter_cons_of_pos (by simp [same]),List.filter_cons_of_pos (by simp [same]),ih]
  · simp [List.filter_append]

theorem entries_moveToEnd (dict : Dict Key Value) (key : Key) (value : Value) :
    ((dict.set key value).moveToEnd key).entries = Recency.push Prod.fst dict.entries (key,value) := by
  have found : (dict.set key value).get? key = some value := by rw [get?_set,if_pos rfl]
  have gone : key ∉ ((dict.set key value).erase key).keys := by
    rw [← get?_eq_none,get?_erase,if_pos rfl]
  rw [moveToEnd,found]
  simp only
  rw [set,dif_neg gone]
  simp only
  rw [entries_erase,filter_set]
  rfl

end Dict

namespace ExpiringCache

open Recency

variable {Key Value Time : Type*}

/-! The history. -/

section history

variable [DecidableEq Key]

/-- The last put of the key, and the keys that were put after it. -/
def lastPut (key : Key) : List (Key × Time × Value) → Option ((Time × Value) × List Key)
  | [] => none
  | entry::later =>
    match lastPut key later with
    | some found => some found
    | none => if entry.1 = key then some (entry.2,later.map Prod.fst) else none

theorem lastPut_eq_none {key : Key} {history : List (Key × Time × Value)} :
    lastPut key history = none ↔ key ∉ history.map Prod.fst := by
  induction history with
  | nil => simp [lastPut]
  | cons entry later ih =>
    rw [lastPut,List.map_cons,List.mem_cons,not_or]
    cases found : lastPut key later with
    | some held =>
      rw [found] at ih
      simp only [reduceCtorEq,false_iff,not_and]
      exact fun _ => ih.not.mp (by simp)
    | none =>
      have absent := ih.mp found
      by_cases same : entry.1 = key
      · simp [same]
      · simp only [if_neg same,true_iff]
        exact ⟨fun equal => same equal.symm,absent⟩

private theorem lastPut_eq_some {key : Key} {history : List (Key × Time × Value)}
    {found : (Time × Value) × List Key} (put : lastPut key history = some found) :
    ∃ before after, history = before ++ (key,found.1)::after ∧ key ∉ after.map Prod.fst ∧
      found.2 = after.map Prod.fst := by
  induction history with
  | nil => cases put
  | cons entry later ih =>
    rw [lastPut] at put
    cases last : lastPut key later with
    | some held =>
      rw [last] at put
      obtain ⟨before,after,split,rest⟩ := ih (last.trans put)
      exact ⟨entry::before,after,by rw [split]; rfl,rest⟩
    | none =>
      rw [last] at put
      simp only at put
      split_ifs at put with same
      cases put
      exact ⟨[],later,by rw [← same]; rfl,lastPut_eq_none.mp last,rfl⟩

theorem latest_sublist (history : List (Key × Time × Value)) : (latest Prod.fst history).Sublist history := by
  induction history using List.reverseRecOn with
  | nil => exact List.Sublist.refl _
  | append_singleton history entry ih =>
    rw [latest_concat]
    exact (List.filter_sublist.trans ih).append (List.Sublist.refl _)

private theorem map_latest (history : List (Key × Time × Value)) :
    (latest Prod.fst history).map Prod.fst = (history.map Prod.fst).dedup := by
  rw [← latest_eq_dedup]
  induction history using List.reverseRecOn with
  | nil => rfl
  | append_singleton history entry ih =>
    rw [latest_concat,List.map_append,List.map_cons,List.map_nil,latest_concat,← ih,push,push,
      List.map_append,List.filter_map]
    rfl

private theorem latest_split {key : Key} {stamped : Time × Value} {before after : List (Key × Time × Value)}
    (gone : key ∉ after.map Prod.fst) :
    ∃ front, latest Prod.fst (before ++ (key,stamped)::after) =
      front ++ (key,stamped)::latest Prod.fst after := by
  have whole : before ++ (key,stamped)::after = (before ++ [(key,stamped)]) ++ after := by simp
  refine ⟨undisturbed Prod.fst ((latest Prod.fst before).filter (fun other => other.1 ≠ key)) after,?_⟩
  rw [whole,latest_append,latest_concat,push]
  unfold undisturbed
  rw [List.filter_append,List.filter_cons_of_pos (by simpa using gone),List.filter_nil,List.append_assoc]
  rfl

theorem find?_distinct {entries : List (Key × Time × Value)} (distinct : (entries.map Prod.fst).Nodup)
    {entry : Key × Time × Value} (inside : entry ∈ entries) :
    entries.find? (fun other => other.1 = entry.1) = some entry := by
  induction entries with
  | nil => cases inside
  | cons first others ih =>
    obtain ⟨fresh,rest⟩ := List.nodup_cons.mp distinct
    rcases List.mem_cons.mp inside with rfl | later
    · exact List.find?_cons_of_pos (by simp)
    · have apart : first.1 ≠ entry.1 := fun same => fresh (same ▸ List.mem_map_of_mem later)
      rw [List.find?_cons_of_neg (by simpa using apart)]
      exact ih rest later

theorem find?_absent {entries : List (Key × Time × Value)} {key : Key}
    (absent : key ∉ entries.map Prod.fst) : entries.find? (fun other => other.1 = key) = none := by
  refine List.find?_eq_none.mpr (fun other inside => ?_)
  simp only [decide_eq_true_eq]
  exact fun same => absent (same ▸ List.mem_map_of_mem inside)

end history

/-! The store. -/

variable [LinearOrder Time] [AddCommGroup Time]

def live (ttl now : Time) (entries : List (Key × Time × Value)) : List (Key × Time × Value) :=
  entries.filter (fun entry => now - entry.2.1 ≤ ttl)

section age

variable [IsOrderedAddMonoid Time]

private theorem live_live {ttl now later : Time} (forward : now ≤ later) (entries : List (Key × Time × Value)) :
    live ttl later (live ttl now entries) = live ttl later entries := by
  unfold live
  rw [List.filter_filter]
  refine List.filter_congr (fun entry _ => ?_)
  rw [Bool.and_eq_left_iff_imp]
  intro young
  rw [decide_eq_true_eq] at young ⊢
  exact (sub_le_sub_right forward _).trans young

private theorem live_rtake {ttl now : Time} {entries : List (Key × Time × Value)} (cap : Nat)
    (ordered : entries.Pairwise (fun first second => first.2.1 ≤ second.2.1)) :
    live ttl now (entries.rtake cap) = (live ttl now entries).rtake cap := by
  induction entries with
  | nil => simp [live,List.rtake]
  | cons entry later ih =>
    obtain ⟨first,rest⟩ := List.pairwise_cons.mp ordered
    by_cases long : cap ≤ later.length
    · have skip : ([entry] ++ later).rtake cap = later.rtake cap := rtake_append_of_le long
      rw [List.singleton_append] at skip
      rw [skip,ih rest]
      by_cases young : now - entry.2.1 ≤ ttl
      · have all : live ttl now later = later := by
          refine List.filter_eq_self.mpr (fun other inside => decide_eq_true ?_)
          exact (sub_le_sub_left (first other inside) now).trans young
        have both : live ttl now (entry::later) = entry::later := by
          rw [live,List.filter_cons,if_pos (decide_eq_true young)]
          exact congrArg _ all
        rw [both,all,skip]
      · rw [live,live,List.filter_cons_of_neg (by simpa using young)]
    · have short : (entry::later).length ≤ cap := by rw [List.length_cons]; omega
      have fewer : (live ttl now (entry::later)).length ≤ cap :=
        (List.length_filter_le _ _).trans short
      rw [rtake_eq_self short,rtake_eq_self fewer]

end age

variable [DecidableEq Key]

def put (ttl : Time) (cap : Nat) (now : Time) (entries : List (Key × Time × Value)) (key : Key)
    (value : Value) : List (Key × Time × Value) :=
  (live ttl now (push Prod.fst entries (key,now,value))).rtake cap

def look (ttl now : Time) (entries : List (Key × Time × Value)) (key : Key) : Option Value :=
  ((live ttl now entries).find? (fun entry => entry.1 = key)).map (fun entry => entry.2.2)

/-- The value put last for the key, when it is young enough and few other keys were put since. -/
def recalled (ttl : Time) (cap : Nat) (history : List (Key × Time × Value)) (now : Time) (key : Key) :
    Option Value :=
  match lastPut key history with
  | none => none
  | some found => if now - found.1.1 ≤ ttl ∧ found.2.dedup.length < cap then some found.1.2 else none

private theorem live_push {ttl now : Time} (lasts : 0 ≤ ttl) (entries : List (Key × Time × Value)) (key : Key)
    (value : Value) :
    live ttl now (push Prod.fst entries (key,now,value)) =
      push Prod.fst (live ttl now entries) (key,now,value) := by
  unfold live push
  have fresh : decide (now - now ≤ ttl) = true := by rw [sub_self]; exact decide_eq_true lasts
  rw [List.filter_append,List.filter_filter,List.filter_filter,List.filter_cons,if_pos fresh,List.filter_nil]
  congr 1
  exact List.filter_congr (fun entry _ => Bool.and_comm _ _)

theorem look_latest (ttl : Time) (cap : Nat) (history : List (Key × Time × Value)) (now : Time) (key : Key) :
    look ttl now ((latest Prod.fst history).rtake cap) key = recalled ttl cap history now key := by
  have kept : ((latest Prod.fst history).rtake cap).Sublist (latest Prod.fst history) := List.drop_sublist _ _
  have distinct : ((live ttl now ((latest Prod.fst history).rtake cap)).map Prod.fst).Nodup :=
    (nodup_latest Prod.fst history).sublist ((List.filter_sublist.trans kept).map _)
  unfold recalled
  cases last : lastPut key history with
  | none =>
    have absent : key ∉ (live ttl now ((latest Prod.fst history).rtake cap)).map Prod.fst := by
      intro inside
      have held := ((List.filter_sublist.trans kept).map Prod.fst).subset inside
      exact lastPut_eq_none.mp last ((keys_latest Prod.fst history key).mp held)
    rw [look,find?_absent absent]
    rfl
  | some found =>
    obtain ⟨before,after,split,gone,since⟩ := lastPut_eq_some last
    obtain ⟨front,shape⟩ : ∃ front, latest Prod.fst (before ++ (key,found.1)::after) =
        front ++ (key,found.1)::latest Prod.fst after := latest_split gone
    rw [← split] at shape
    have size : found.2.dedup.length = (latest Prod.fst after).length := by
      rw [since,← map_latest,List.length_map]
    simp only
    split_ifs with inside
    · have member : (key,found.1) ∈ live ttl now ((latest Prod.fst history).rtake cap) := by
        refine List.mem_filter.mpr ⟨?_,decide_eq_true inside.1⟩
        rw [shape,rtake_append_of_ge (by rw [List.length_cons,← size]; exact inside.2)]
        exact List.mem_append_right _ List.mem_cons_self
      rw [look,find?_distinct distinct member]
      rfl
    · have absent : key ∉ (live ttl now ((latest Prod.fst history).rtake cap)).map Prod.fst := by
        intro present
        obtain ⟨entry,held,named⟩ := List.mem_map.mp present
        obtain ⟨stays,young⟩ := List.mem_filter.mp held
        have wanted : (key,found.1) ∈ latest Prod.fst history := by
          rw [shape]
          exact List.mem_append_right _ List.mem_cons_self
        have only : entry = (key,found.1) := by
          have first := find?_distinct (nodup_latest Prod.fst history) (kept.subset stays)
          have second := find?_distinct (nodup_latest Prod.fst history) wanted
          rw [named] at first
          exact Option.some.inj (first.symm.trans second)
        subst only
        refine inside ⟨of_decide_eq_true young,?_⟩
        by_contra many
        have beyond : (latest Prod.fst history).rtake cap = (latest Prod.fst after).rtake cap := by
          have whole : latest Prod.fst history =
              (front ++ [(key,found.1)]) ++ latest Prod.fst after := by rw [shape]; simp
          rw [whole,rtake_append_of_le (by omega)]
        rw [beyond] at stays
        exact gone ((keys_latest Prod.fst after key).mp (List.mem_map.mpr ⟨_,List.mem_of_mem_drop stays,rfl⟩))
      rw [look,find?_absent absent]
      rfl

/-! The store beside its history. -/

structure Keeps (ttl : Time) (cap : Nat) (history : List (Key × Time × Value)) (now : Time)
    (entries : List (Key × Time × Value)) : Prop where
  ordered : history.Pairwise (fun first second => first.2.1 ≤ second.2.1)
  past : ∀ entry ∈ history, entry.2.1 ≤ now
  held : live ttl now entries = live ttl now ((latest Prod.fst history).rtake cap)

theorem Keeps.start (ttl : Time) (cap : Nat) (now : Time) :
    Keeps ttl cap ([] : List (Key × Time × Value)) now [] :=
  ⟨List.Pairwise.nil,nofun,by simp [latest,pushAll,List.rtake]⟩

variable {ttl now later : Time} {cap : Nat} {history entries : List (Key × Time × Value)}

theorem Keeps.look_eq (keeps : Keeps ttl cap history now entries) (key : Key) :
    look ttl now entries key = recalled ttl cap history now key := by
  rw [← look_latest,look,look,keeps.held]

theorem Keeps.drop_keeps (keeps : Keeps ttl cap history now entries) {rest : List (Key × Time × Value)}
    (same : live ttl now rest = live ttl now entries) : Keeps ttl cap history now rest :=
  ⟨keeps.ordered,keeps.past,same.trans keeps.held⟩

variable [IsOrderedAddMonoid Time]

theorem Keeps.wait (keeps : Keeps ttl cap history now entries) (forward : now ≤ later) :
    Keeps ttl cap history later entries where
  ordered := keeps.ordered
  past entry inside := (keeps.past entry inside).trans forward
  held := by rw [← live_live forward,keeps.held,live_live forward]

theorem Keeps.put_keeps (keeps : Keeps ttl cap history now entries) (lasts : 0 ≤ ttl) (key : Key)
    (value : Value) :
    Keeps ttl cap (history ++ [(key,now,value)]) now (put ttl cap now entries key value) where
  ordered := List.pairwise_append.mpr ⟨keeps.ordered,List.pairwise_singleton _ _,by
    intro entry inside other last
    rw [List.mem_singleton.mp last]
    exact keeps.past entry inside⟩
  past entry inside := by
    rcases List.mem_append.mp inside with before | last
    · exact keeps.past entry before
    · rw [List.mem_singleton.mp last]
  held := by
    have sorted := keeps.ordered.sublist (latest_sublist history)
    have sorted' : (push Prod.fst (latest Prod.fst history) (key,now,value)).Pairwise
        (fun first second => first.2.1 ≤ second.2.1) := by
      refine List.pairwise_append.mpr ⟨sorted.sublist List.filter_sublist,List.pairwise_singleton _ _,?_⟩
      intro entry inside other last
      rw [List.mem_singleton.mp last]
      exact keeps.past entry ((latest_sublist history).subset (List.mem_of_mem_filter inside))
    have distinct : ((live ttl now (latest Prod.fst history)).map Prod.fst).Nodup :=
      (nodup_latest Prod.fst history).sublist (List.filter_sublist.map _)
    have same : put ttl cap now entries key value =
        live ttl now ((latest Prod.fst (history ++ [(key,now,value)])).rtake cap) := by
      rw [put,live_push lasts,keeps.held,live_rtake cap sorted,latest_concat,live_rtake cap sorted',
        live_push lasts]
      exact rtake_pushAll_rtake Prod.fst distinct [(key,now,value)] cap
    rw [same,live_live (le_refl now)]

end ExpiringCache

end CustomerService
