import CustomerService.Dict
import Mathlib.Data.List.Induction
import Mathlib.Data.List.Sort

/-! The least item of every key, found in one pass over the items. -/
namespace CustomerService.Champions

variable {Item Key Rank : Type*} [DecidableEq Key] [LinearOrder Rank] (key : Item → Key) (rank : Item → Rank)

/-- An item takes the place of the one held under its key when it is smaller, or none is held. -/
def keepLeast (held : Dict Key Item) (item : Item) : Dict Key Item :=
  match held.get? (key item) with
  | none => held.set (key item) item
  | some previous => if rank item < rank previous then held.set (key item) item else held

def champions (items : List Item) : Dict Key Item := items.foldl (keepLeast key rank) ∅

structure Holds (items : List Item) (held : Dict Key Item) : Prop where
  taken : ∀ place champion, held.get? place = some champion → champion ∈ items ∧ key champion = place
  least : ∀ item ∈ items, ∃ champion, held.get? (key item) = some champion ∧ rank champion ≤ rank item

variable {key rank}

theorem Holds.set {items : List Item} {held : Dict Key Item} (holds : Holds key rank items held)
    (item : Item) (smaller : ∀ previous, held.get? (key item) = some previous → rank item ≤ rank previous) :
    Holds key rank (items ++ [item]) (held.set (key item) item) := by
  constructor
  · intro place champion found
    rw [Dict.get?_set] at found
    split_ifs at found with same
    · obtain rfl := Option.some.inj found
      exact ⟨by simp,same.symm⟩
    · obtain ⟨member,own⟩ := holds.taken place champion found
      exact ⟨List.mem_append_left _ member,own⟩
  · intro other member
    rw [Dict.get?_set]
    cases List.mem_append.mp member with
    | inl earlier =>
      obtain ⟨champion,found,below⟩ := holds.least other earlier
      split_ifs with same
      · exact ⟨item,rfl,(smaller champion (same ▸ found)).trans below⟩
      · exact ⟨champion,found,below⟩
    | inr last =>
      obtain rfl := List.mem_singleton.mp last
      exact ⟨other,if_pos rfl,le_rfl⟩

theorem Holds.keep {items : List Item} {held : Dict Key Item} (holds : Holds key rank items held)
    {item previous : Item} (found : held.get? (key item) = some previous) (below : rank previous ≤ rank item) :
    Holds key rank (items ++ [item]) held := by
  constructor
  · intro place champion taken
    obtain ⟨member,own⟩ := holds.taken place champion taken
    exact ⟨List.mem_append_left _ member,own⟩
  · intro other member
    cases List.mem_append.mp member with
    | inl earlier => exact holds.least other earlier
    | inr last =>
      obtain rfl := List.mem_singleton.mp last
      exact ⟨previous,found,below⟩

theorem Holds.step {items : List Item} {held : Dict Key Item} (holds : Holds key rank items held)
    (item : Item) : Holds key rank (items ++ [item]) (keepLeast key rank held item) := by
  unfold keepLeast
  cases found : held.get? (key item) with
  | none =>
    apply holds.set
    intro previous there
    rw [found] at there
    cases there
  | some previous =>
    dsimp only
    split_ifs with smaller
    · apply holds.set
      intro other there
      rw [found] at there
      obtain rfl := Option.some.inj there
      exact smaller.le
    · exact holds.keep found (not_lt.mp smaller)

variable (key rank)

private theorem champions_hold (items : List Item) : Holds key rank items (champions key rank items) := by
  induction items using List.reverseRecOn with
  | nil => exact ⟨fun _ _ found => (by cases found),by simp⟩
  | append_singleton earlier item ih =>
    unfold champions
    rw [List.foldl_append]
    exact ih.step item

def ranking (items : List Item) : List Item :=
  (champions key rank items).values.insertionSort (fun first second => rank first ≤ rank second)

private theorem mem_ranking {items : List Item} {item : Item} :
    item ∈ ranking key rank items ↔ (champions key rank items).get? (key item) = some item := by
  rw [ranking,List.mem_insertionSort,Dict.values,List.mem_map]
  constructor
  · intro found
    obtain ⟨entry,member,same⟩ := found
    have held := (Dict.get?_eq_some (champions key rank items) entry.1 entry.2).mpr member
    have own := ((champions_hold key rank items).taken _ _ held).2
    rw [← same,own]
    exact held
  · intro held
    exact ⟨_,(Dict.get?_eq_some _ _ _).mp held,rfl⟩

theorem ranking_sorted (items : List Item) :
    (ranking key rank items).Pairwise (fun first second => rank first ≤ rank second) := by
  have total : Std.Total (fun first second : Item => rank first ≤ rank second) :=
    ⟨fun first second => le_total (rank first) (rank second)⟩
  have trans : IsTrans Item (fun first second => rank first ≤ rank second) :=
    ⟨fun _ _ _ before after => le_trans before after⟩
  exact List.pairwise_insertionSort _ _

theorem ranking_distinct (items : List Item) : ((ranking key rank items).map key).Nodup := by
  have sorted := (List.perm_insertionSort (fun first second => rank first ≤ rank second)
    (champions key rank items).values).map key
  refine (List.Perm.nodup_iff sorted).mpr ?_
  have places : (champions key rank items).values.map key = (champions key rank items).keys := by
    rw [Dict.values,Dict.keys,List.map_map]
    apply List.map_congr_left
    intro entry member
    exact ((champions_hold key rank items).taken _ _ ((Dict.get?_eq_some _ _ _).mpr member)).2
  rw [places]
  exact (champions key rank items).distinct

theorem ranking_taken {items : List Item} {item : Item} (listed : item ∈ ranking key rank items) :
    item ∈ items :=
  ((champions_hold key rank items).taken _ _ ((mem_ranking key rank).mp listed)).1

theorem ranking_least {items : List Item} {item : Item} (member : item ∈ items) :
    ∃ champion ∈ ranking key rank items, key champion = key item ∧ rank champion ≤ rank item := by
  obtain ⟨champion,held,below⟩ := (champions_hold key rank items).least item member
  have own := ((champions_hold key rank items).taken _ _ held).2
  exact ⟨champion,(mem_ranking key rank).mpr (own ▸ held),own,below⟩

theorem ranking_minimal {items : List Item} {item other : Item} (listed : item ∈ ranking key rank items)
    (member : other ∈ items) (same : key other = key item) : rank item ≤ rank other := by
  obtain ⟨champion,held,below⟩ := (champions_hold key rank items).least other member
  rw [same,(mem_ranking key rank).mp listed] at held
  obtain rfl := Option.some.inj held
  exact below

end CustomerService.Champions
