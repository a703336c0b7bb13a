import CustomerService.Dict

/-! Tables of named series of keyed values, filled one entry at a time: what a
lookup finds depends on the entries with that name and key alone. -/
namespace CustomerService

abbrev KeyedTable (Name Key Value : Type*) := Dict Name (Dict Key Value)

namespace KeyedTable

variable {Name Key Value Item : Type*} [DecidableEq Name] [DecidableEq Key]

def lookup (table : KeyedTable Name Key Value) (name : Name) (key : Key) : Option Value :=
  (table.get? name).bind (fun series => series.get? key)

/-- `series = table.setdefault(name, {})`, and the entry of the key replaced. -/
def upsert (combine : Option Value → Item → Value) (table : KeyedTable Name Key Value)
    (entry : Name × Key × Item) : KeyedTable Name Key Value :=
  let series := table.getD entry.1 ∅
  table.set entry.1 (series.set entry.2.1 (combine (series.get? entry.2.1) entry.2.2))

private theorem lookup_upsert (combine : Option Value → Item → Value) (table : KeyedTable Name Key Value)
    (entry : Name × Key × Item) (name : Name) (key : Key) :
    lookup (upsert combine table entry) name key =
      if entry.1 = name ∧ entry.2.1 = key then some (combine (lookup table name key) entry.2.2)
      else lookup table name key := by
  obtain ⟨own,at',item⟩ := entry
  simp only [lookup,upsert,Dict.get?_set]
  by_cases sameName : own = name
  · subst sameName
    have series : (table.getD own ∅).get? key = (table.get? own).bind (fun series => series.get? key) := by
      cases found : table.get? own <;> simp [Dict.getD,found]
    by_cases sameKey : at' = key
    · subst sameKey
      simp [Dict.get?_set,series]
    · simp [Dict.get?_set,Ne.symm sameKey,sameKey,series]
  · simp [Ne.symm sameName,sameName]

def itemsAt (name : Name) (key : Key) (entries : List (Name × Key × Item)) : List Item :=
  entries.filterMap (fun entry => if entry.1 = name ∧ entry.2.1 = key then some entry.2.2 else none)

theorem lookup_foldl (combine : Option Value → Item → Value) (name : Name) (key : Key)
    (table : KeyedTable Name Key Value) (entries : List (Name × Key × Item)) :
    lookup (entries.foldl (upsert combine) table) name key =
      (itemsAt name key entries).foldl (fun held item => some (combine held item))
        (lookup table name key) := by
  induction entries generalizing table with
  | nil => rfl
  | cons entry rest ih =>
    rw [List.foldl_cons,ih,lookup_upsert,itemsAt,itemsAt,List.filterMap_cons]
    by_cases here : entry.1 = name ∧ entry.2.1 = key
    · simp [here]
    · simp [here]

def rows (table : KeyedTable Name Key Value) : List (Name × Key × Value) :=
  table.entries.flatMap (fun series => series.2.entries.map (fun entry =>
    (series.1,entry.1,entry.2)))

private theorem flatMap_at {Result : Type*} (dict : Dict Key Value) (key : Key)
    (results : Value → List Result) :
    dict.entries.flatMap (fun entry => if entry.1 = key then results entry.2 else []) =
      ((dict.get? key).map results).getD [] := by
  obtain ⟨entries,distinct⟩ := dict
  simp only [Dict.get?]
  induction entries with
  | nil => rfl
  | cons entry rest ih =>
    obtain ⟨fresh,tail⟩ := List.nodup_cons.mp distinct
    rw [List.flatMap_cons,ih tail]
    by_cases same : entry.1 = key
    · have absent : rest.find? (fun entry => entry.1 == key) = none := by
        apply List.find?_eq_none.mpr
        intro other member equal
        exact fresh (List.mem_map.mpr ⟨other,member,(beq_iff_eq.mp equal).trans same.symm⟩)
      simp [same,absent]
    · simp [same]

theorem itemsAt_rows (table : KeyedTable Name Key Value) (name : Name) (key : Key) :
    itemsAt name key (rows table) = (lookup table name key).toList := by
  have series (entry : Name × Dict Key Value) :
      (entry.2.entries.map (fun item => (entry.1,item.1,item.2))).filterMap (fun row =>
        if row.1 = name ∧ row.2.1 = key then some row.2.2 else none) =
      if entry.1 = name then (entry.2.get? key).toList else [] := by
    have found := flatMap_at entry.2 key (fun value => [value])
    by_cases same : entry.1 = name
    · rw [if_pos same,List.filterMap_map,List.filterMap_eq_flatMap_toList]
      have each : (fun item : Key × Value => (((fun row : Name × Key × Value =>
          if row.1 = name ∧ row.2.1 = key then some row.2.2 else none) ∘
          fun item : Key × Value => (entry.1,item.1,item.2)) item).toList) =
          fun item => if item.1 = key then [item.2] else [] := by
        funext item
        by_cases here : item.1 = key <;> simp [same,here]
      rw [each,found]
      cases entry.2.get? key <;> rfl
    · simp [same]
  rw [itemsAt,rows,List.filterMap_flatMap]
  simp only [series]
  rw [flatMap_at table name (fun series => (series.get? key).toList),lookup]
  cases table.get? name <;> rfl

theorem itemsAt_flatMap {Source : Type*} (name : Name) (key : Key) (sources : List Source)
    (entries : Source → List (Name × Key × Item)) :
    itemsAt name key (sources.flatMap entries) =
      sources.flatMap (fun source => itemsAt name key (entries source)) :=
  List.filterMap_flatMap

theorem itemsAt_filter (keep : Item → Bool) (name : Name) (key : Key)
    (entries : List (Name × Key × Item)) :
    itemsAt name key (entries.filter (fun entry => keep entry.2.2)) =
      (itemsAt name key entries).filter keep := by
  induction entries with
  | nil => rfl
  | cons entry rest ih =>
    rw [itemsAt] at ih ⊢
    by_cases here : entry.1 = name ∧ entry.2.1 = key <;> by_cases kept : keep entry.2.2 = true <;>
      simp_all [itemsAt]

theorem forall_lookup_foldl {Holds : Value → Prop} {combine : Option Value → Item → Value}
    (Given : Item → Prop) (fresh : ∀ item, Given item → Holds (combine none item))
    (step : ∀ held item, Holds held → Given item → Holds (combine (some held) item))
    (entries : List (Name × Key × Item)) (given : ∀ entry ∈ entries, Given entry.2.2)
    (table : KeyedTable Name Key Value)
    (before : ∀ name key value, lookup table name key = some value → Holds value)
    (name : Name) (key : Key) (value : Value)
    (found : lookup (entries.foldl (upsert combine) table) name key = some value) :
    Holds value := by
  induction entries generalizing table with
  | nil => exact before name key value found
  | cons entry rest ih =>
    refine ih (fun other member => given other (List.mem_cons_of_mem _ member))
      (upsert combine table entry) ?_ found
    intro other at' held there
    have item := given entry List.mem_cons_self
    rw [lookup_upsert] at there
    split at there
    · obtain rfl := Option.some.inj there
      cases prior : lookup table other at' with
      | none => exact fresh _ item
      | some old => exact step _ _ (before other at' old prior) item
    · exact before other at' held there

end KeyedTable

/-! ### A list dealt out -/

theorem dealt_perm {Owner Item : Type*} [DecidableEq Owner] (items : List (Owner × Item))
    (owners : List Owner) (distinct : owners.Nodup) :
    (owners.flatMap (fun owner => items.filter (fun item => item.1 = owner))).Perm
      (items.filter (fun item => item.1 ∈ owners)) := by
  induction owners with
  | nil => simp
  | cons owner rest ih =>
    obtain ⟨fresh,tail⟩ := List.nodup_cons.mp distinct
    have parts := List.filter_append_perm (fun item : Owner × Item => item.1 = owner)
      (items.filter (fun item => item.1 ∈ owner :: rest))
    have mine : (items.filter (fun item => item.1 ∈ owner :: rest)).filter
        (fun item => item.1 = owner) = items.filter (fun item => item.1 = owner) := by
      rw [List.filter_filter]
      apply List.filter_congr
      intro item _
      by_cases same : item.1 = owner <;> simp [same]
    have others : (items.filter (fun item => item.1 ∈ owner :: rest)).filter
        (fun item => !decide (item.1 = owner)) = items.filter (fun item => item.1 ∈ rest) := by
      rw [List.filter_filter]
      apply List.filter_congr
      intro item _
      by_cases same : item.1 = owner
      · simp [same,fresh]
      · simp [same]
    rw [List.flatMap_cons]
    rw [mine,others] at parts
    exact ((ih tail).append_left _).trans parts

end CustomerService
