import CustomerService.SummaryFacts

/-! The grouping of messages into turns, and what of it is left when whole turns are
taken out of the list. -/
namespace CustomerService.Turns

open SummaryFacts

variable {Item : Type*} (kind : Item → Kind)

/-- What the loop of `partition_turns` has so far. -/
structure Grouping (Item : Type*) where
  systems : List Item
  turns : List (List Item)
  current : List Item

def Grouping.close (state : Grouping Item) : List (List Item) :=
  if state.current.isEmpty then state.turns else state.turns ++ [state.current]

def step (state : Grouping Item) (item : Item) : Grouping Item :=
  if kind item = .system then ⟨state.systems ++ [item],state.close,[]⟩
  else if kind item = .human ∧ !state.current.isEmpty ∧
      state.current.any (fun other => kind other = .ai) then
    { state with turns := state.turns ++ [state.current], current := [item] }
  else if kind item = .ai ∧ !state.current.isEmpty ∧
      state.current.all (fun other => kind other ≠ .human) then
    { state with turns := state.turns ++ [state.current], current := [item] }
  else { state with current := state.current ++ [item] }

def grouping (items : List Item) : Grouping Item := items.foldl (step kind) ⟨[],[],[]⟩

/-- `partition_turns`, of items that carry a message. -/
def partitionTurns (items : List Item) : List Item × List (List Item) :=
  ((grouping kind items).systems,(grouping kind items).close)

def turns (items : List Item) : List (List Item) := (partitionTurns kind items).2

/-! What a step does. -/

/-- The item starts a turn of its own after the current one. -/
def Cuts (current : List Item) (item : Item) : Prop :=
  (kind item = .human ∧ ∃ other ∈ current, kind other = .ai) ∨
    (kind item = .ai ∧ current ≠ [] ∧ ∀ other ∈ current, kind other ≠ .human)

theorem step_system {state : Grouping Item} {item : Item} (system : kind item = .system) :
    step kind state item = ⟨state.systems ++ [item],state.close,[]⟩ := if_pos system

theorem step_cut {state : Grouping Item} {item : Item} (cut : Cuts kind state.current item) :
    step kind state item =
      { state with turns := state.turns ++ [state.current], current := [item] } := by
  rcases cut with ⟨human,other,member,ai⟩ | ⟨ai,nonempty,none'⟩
  · have some' : state.current ≠ [] := List.ne_nil_of_mem member
    have any : ∃ other ∈ state.current, kind other = .ai := ⟨other,member,ai⟩
    simp [step,human,some',any]
  · simpa [step,ai,nonempty] using none'

theorem step_join {state : Grouping Item} {item : Item} (inside : kind item ≠ .system)
    (join : ¬Cuts kind state.current item) :
    step kind state item = { state with current := state.current ++ [item] } := by
  unfold step
  rw [if_neg inside,if_neg,if_neg]
  · rintro ⟨ai,nonempty,none'⟩
    exact join (Or.inr ⟨ai,by simpa using nonempty,by simpa using none'⟩)
  · rintro ⟨human,_,any⟩
    exact join (Or.inl ⟨human,by simpa using any⟩)

theorem grouping_concat (items : List Item) (item : Item) :
    grouping kind (items ++ [item]) = step kind (grouping kind items) item := by
  rw [grouping,List.foldl_append]
  rfl

theorem step_cases (state : Grouping Item) (item : Item) :
    (kind item = .system ∧ step kind state item = ⟨state.systems ++ [item],state.close,[]⟩) ∨
    (kind item ≠ .system ∧ Cuts kind state.current item ∧ step kind state item =
      { state with turns := state.turns ++ [state.current], current := [item] }) ∨
    (kind item ≠ .system ∧ ¬Cuts kind state.current item ∧ step kind state item =
      { state with current := state.current ++ [item] }) := by
  by_cases system : kind item = .system
  · exact Or.inl ⟨system,step_system kind system⟩
  · by_cases cut : Cuts kind state.current item
    · exact Or.inr (Or.inl ⟨system,cut,step_cut kind cut⟩)
    · exact Or.inr (Or.inr ⟨system,cut,step_join kind system cut⟩)

variable {kind} in
theorem Cuts.nonempty {current : List Item} {item : Item} (cut : Cuts kind current item) :
    current ≠ [] := by
  rcases cut with ⟨_,other,member,_⟩ | ⟨_,nonempty,_⟩
  · exact List.ne_nil_of_mem member
  · exact nonempty

theorem close_of_nonempty {state : Grouping Item} (nonempty : state.current ≠ []) :
    state.close = state.turns ++ [state.current] := by
  simp [Grouping.close,nonempty]

private theorem flatten_close (state : Grouping Item) :
    state.close.flatten = state.turns.flatten ++ state.current := by
  unfold Grouping.close
  split_ifs with nothing
  · simp [List.isEmpty_iff.mp nothing]
  · simp

/-! No message is lost: the systems are set aside and the turns lie end to end. -/

private theorem grouping_items (items : List Item) :
    (grouping kind items).systems = items.filter (fun item => kind item = .system) ∧
      (grouping kind items).turns.flatten ++ (grouping kind items).current =
        items.filter (fun item => kind item ≠ .system) := by
  induction items using List.reverseRecOn with
  | nil => exact ⟨rfl,rfl⟩
  | append_singleton items item ih =>
    rw [grouping_concat,List.filter_append,List.filter_append,← ih.1,← ih.2]
    obtain ⟨system,same⟩ | ⟨inside,_,same⟩ | ⟨inside,_,same⟩ := step_cases kind (grouping kind items) item
    · rw [same]
      simp [system,flatten_close]
    · rw [same]
      simp [inside]
    · rw [same]
      simp [inside]

theorem partition_systems (items : List Item) :
    (partitionTurns kind items).1 = items.filter (fun item => kind item = .system) :=
  (grouping_items kind items).1

theorem flatten_turns (items : List Item) :
    (turns kind items).flatten = items.filter (fun item => kind item ≠ .system) :=
  (flatten_close _).trans (grouping_items kind items).2

theorem mem_of_mem_turn {items turn : List Item} (listed : turn ∈ turns kind items) {item : Item}
    (member : item ∈ turn) : item ∈ items ∧ kind item ≠ .system := by
  have inside : item ∈ (turns kind items).flatten := List.mem_flatten.mpr ⟨turn,listed,member⟩
  rw [flatten_turns] at inside
  simpa using inside

private theorem mem_close {state : Grouping Item} {turn : List Item} (member : turn ∈ state.close) :
    turn ∈ state.turns ∨ turn = state.current ∧ turn ≠ [] := by
  unfold Grouping.close at member
  split_ifs at member with nothing
  · exact Or.inl member
  · rcases List.mem_append.mp member with old | new
    · exact Or.inl old
    · obtain rfl := List.mem_singleton.mp new
      exact Or.inr ⟨rfl,by simpa using nothing⟩

private theorem grouping_nonempty (items : List Item) : ∀ turn ∈ (grouping kind items).turns, turn ≠ [] := by
  induction items using List.reverseRecOn with
  | nil => exact fun turn member => (nomatch member)
  | append_singleton items item ih =>
    rw [grouping_concat]
    obtain ⟨_,same⟩ | ⟨_,cut,same⟩ | ⟨_,_,same⟩ := step_cases kind (grouping kind items) item
    · rw [same]
      intro turn member
      rcases mem_close member with old | ⟨_,nonempty⟩
      · exact ih turn old
      · exact nonempty
    · rw [same]
      intro turn member
      rcases List.mem_append.mp member with old | new
      · exact ih turn old
      · rw [List.mem_singleton.mp new]
        exact cut.nonempty
    · rw [same]
      exact ih

theorem turn_nonempty {items turn : List Item} (listed : turn ∈ turns kind items) : turn ≠ [] := by
  rcases mem_close listed with old | ⟨_,nonempty⟩
  · exact grouping_nonempty kind items turn old
  · exact nonempty

/-! Only the kinds count. -/

section
variable {Other : Type*} (kind' : Other → Kind) (change : Item → Other)

def Grouping.map (state : Grouping Item) : Grouping Other :=
  ⟨state.systems.map change,state.turns.map (List.map change),state.current.map change⟩

private theorem close_map (state : Grouping Item) :
    (state.map change).close = state.close.map (List.map change) := by
  simp only [Grouping.close,Grouping.map,List.isEmpty_map]
  split_ifs <;> simp

variable {kind kind' change} (same : ∀ item, kind' (change item) = kind item)
include same

private theorem cuts_map (current : List Item) (item : Item) :
    Cuts kind' (current.map change) (change item) ↔ Cuts kind current item := by
  simp [Cuts,same]

private theorem step_map (state : Grouping Item) (item : Item) :
    step kind' (state.map change) (change item) = (step kind state item).map change := by
  obtain ⟨system,taken⟩ | ⟨inside,cut,taken⟩ | ⟨inside,join,taken⟩ := step_cases kind state item
  · rw [taken,step_system kind' ((same item).trans system),close_map]
    simp [Grouping.map]
  · rw [taken,step_cut kind' ((cuts_map same state.current item).mpr cut)]
    simp [Grouping.map]
  · rw [taken,step_join kind' (by rwa [same]) (fun cut => join ((cuts_map same _ item).mp cut))]
    simp [Grouping.map]

theorem turns_map (items : List Item) :
    turns kind' (items.map change) = (turns kind items).map (List.map change) := by
  have run : grouping kind' (items.map change) = (grouping kind items).map change := by
    induction items using List.reverseRecOn with
    | nil => rfl
    | append_singleton items item ih =>
      rw [List.map_append,List.map_cons,List.map_nil,grouping_concat,grouping_concat,ih,
        step_map same]
  exact (congrArg Grouping.close run).trans (close_map change _)

end

/-! Taking out messages. Those of a turn that stays lie in one turn of what is left, perhaps behind
others. -/

section
variable (keep : Item → Bool)

def Whole (items : List Item) : Prop :=
  (∀ item ∈ items, keep item = true) ∨ ∀ item ∈ items, keep item = false

/-- How the current turn of the whole list is seen in the list that is left. -/
structure Follows (current seen : List Item) : Prop where
  start : current = [] → seen = []
  kept : current ≠ [] → (∀ item ∈ current, keep item = true) → ∃ front, seen = front ++ current ∧
    ((∃ item ∈ current, kind item = .ai) ∨ ∀ item ∈ front, kind item ≠ .ai)

variable {kind keep}

private theorem follows_gone {current seen : List Item} {item : Item} (listed : item ∈ current)
    (gone : keep item = false) : Follows kind keep current seen where
  start nothing := absurd listed (by simp [nothing])
  kept _ all := by simp [all item listed] at gone

private theorem follows_cut {current seen : List Item} {item : Item} (cut : Cuts kind current item)
    (joins : ¬Cuts kind seen item) : Follows kind keep [item] (seen ++ [item]) := by
  refine ⟨fun nothing => by simp at nothing,fun _ _ => ⟨seen,rfl,?_⟩⟩
  obtain ⟨human,_⟩ | ⟨ai,_⟩ := cut
  · exact .inr (fun other member is_ai => joins (.inl ⟨human,other,member,is_ai⟩))
  · exact .inl ⟨item,List.mem_singleton_self item,ai⟩

private theorem follows_join {current seen : List Item} {item : Item}
    (follows : Follows kind keep current seen) (join : ¬Cuts kind current item)
    (all : ∀ other ∈ current, keep other = true) :
    ¬Cuts kind seen item ∧ Follows kind keep (current ++ [item]) (seen ++ [item]) := by
  by_cases nothing : current = []
  · rw [nothing,follows.start nothing]
    exact ⟨fun cut => cut.nonempty rfl,fun nothing => by simp at nothing,
      fun _ _ => ⟨[],rfl,.inr (fun _ member => by cases member)⟩⟩
  · obtain ⟨front,rfl,shape⟩ := follows.kept nothing all
    constructor
    · intro cut
      apply join
      obtain ⟨human,other,member,ai⟩ | ⟨ai,_,none'⟩ := cut
      · obtain early | late := List.mem_append.mp member
        · obtain here | free := shape
          · exact .inl ⟨human,here⟩
          · exact absurd ai (free other early)
        · exact .inl ⟨human,other,late,ai⟩
      · exact .inr ⟨ai,nothing,fun other member => none' other (List.mem_append_right _ member)⟩
    · refine ⟨fun empty => by simp at empty,fun _ _ => ⟨front,List.append_assoc _ _ _,?_⟩⟩
      exact shape.imp_left (fun ⟨other,member,ai⟩ => ⟨other,List.mem_append_left _ member,ai⟩)

/-- Every turn closed so far that stays lies in a turn of the list that is left. -/
structure Tracks (kind : Item → Kind) (keep : Item → Bool) (state seen : Grouping Item) : Prop where
  current : Follows kind keep state.current seen.current
  closed : ∀ turn ∈ state.turns, (∀ item ∈ turn, keep item = true) →
    ∃ block ∈ seen.close, turn ⊆ block

theorem current_in_close {state : Grouping Item} (nonempty : state.current ≠ []) :
    state.current ∈ state.close := by
  rw [close_of_nonempty nonempty]
  simp

private theorem turns_in_close {state : Grouping Item} {turn : List Item} (listed : turn ∈ state.turns) :
    turn ∈ state.close := by
  unfold Grouping.close
  split_ifs
  · exact listed
  · exact List.mem_append_left _ listed

theorem close_grows {state : Grouping Item} (item : Item) {block : List Item}
    (listed : block ∈ state.close) : ∃ larger ∈ (step kind state item).close, block ⊆ larger := by
  obtain ⟨_,same⟩ | ⟨_,cut,same⟩ | ⟨_,_,same⟩ := step_cases kind state item
  · rw [same]
    exact ⟨block,turns_in_close listed,fun _ => id⟩
  · rw [same]
    refine ⟨block,turns_in_close ?_,fun _ => id⟩
    rwa [close_of_nonempty cut.nonempty] at listed
  · rw [same]
    rcases mem_close listed with old | ⟨rfl,_⟩
    · exact ⟨block,turns_in_close old,fun _ => id⟩
    · exact ⟨_,current_in_close (by simp),List.subset_append_left _ _⟩

theorem Tracks.close {state seen : Grouping Item} (tracks : Tracks kind keep state seen) :
    ∀ turn ∈ state.close, (∀ item ∈ turn, keep item = true) → ∃ block ∈ seen.close, turn ⊆ block := by
  intro turn listed all
  rcases mem_close listed with old | ⟨rfl,nonempty⟩
  · exact tracks.closed turn old all
  · obtain ⟨front,same,_⟩ := tracks.current.kept nonempty all
    have some' : seen.current ≠ [] := by
      rw [same]
      simp [nonempty]
    exact ⟨seen.current,current_in_close some',same ▸ List.subset_append_right _ _⟩

theorem Tracks.grow {state seen : Grouping Item} (tracks : Tracks kind keep state seen) (item : Item) :
    ∀ turn ∈ state.close, (∀ item ∈ turn, keep item = true) →
      ∃ block ∈ (step kind seen item).close, turn ⊆ block := by
  intro turn listed all
  obtain ⟨block,here,inside⟩ := tracks.close turn listed all
  obtain ⟨larger,there,wider⟩ := close_grows item here
  exact ⟨larger,there,fun _ member => wider (inside member)⟩

private theorem tracks_kept {state seen : Grouping Item} (tracks : Tracks kind keep state seen) {item : Item} :
    Tracks kind keep (step kind state item) (step kind seen item) := by
  have grown := tracks.grow item
  obtain ⟨system,same⟩ | ⟨inside,cut,same⟩ | ⟨inside,join,same⟩ := step_cases kind state item
  · rw [same]
    refine ⟨?_,grown⟩
    rw [step_system kind system]
    exact ⟨fun _ => rfl,fun some' => absurd rfl some'⟩
  · rw [same]
    refine ⟨?_,close_of_nonempty cut.nonempty ▸ grown⟩
    obtain ⟨system,_⟩ | ⟨_,_,now⟩ | ⟨_,joins,now⟩ := step_cases kind seen item
    · exact absurd system inside
    · rw [now]
      exact ⟨fun nothing => by simp at nothing,
        fun _ _ => ⟨[],rfl,.inr (fun _ member => by cases member)⟩⟩
    · rw [now]
      exact follows_cut cut joins
  · rw [same]
    refine ⟨?_,fun turn listed => grown turn (turns_in_close listed)⟩
    by_cases all : ∀ other ∈ state.current, keep other = true
    · obtain ⟨joins,follows⟩ := follows_join tracks.current join all
      rw [step_join kind inside joins]
      exact follows
    · obtain ⟨other,member,gone⟩ : ∃ other ∈ state.current, keep other = false := by simpa using all
      exact follows_gone (List.mem_append_left _ member) gone

private theorem tracks_gone {state seen : Grouping Item} (tracks : Tracks kind keep state seen) {item : Item}
    (inside : kind item ≠ .system) (gone : keep item = false) :
    Tracks kind keep (step kind state item) seen := by
  obtain ⟨system,_⟩ | ⟨_,cut,same⟩ | ⟨_,_,same⟩ := step_cases kind state item
  · exact absurd system inside
  · rw [same]
    exact ⟨follows_gone (List.mem_singleton_self item) gone,
      close_of_nonempty cut.nonempty ▸ tracks.close⟩
  · rw [same]
    exact ⟨follows_gone (List.mem_append_right _ (List.mem_singleton_self item)) gone,tracks.closed⟩

theorem turn_within_block {items : List Item}
    (systems : ∀ item ∈ items, kind item = .system → keep item = true) {turn : List Item}
    (listed : turn ∈ turns kind items) (all : ∀ item ∈ turn, keep item = true) :
    ∃ block ∈ turns kind (items.filter keep), turn ⊆ block := by
  have run : Tracks kind keep (grouping kind items) (grouping kind (items.filter keep)) := by
    clear listed
    induction items using List.reverseRecOn with
    | nil => exact ⟨⟨fun _ => rfl,fun some' => absurd rfl some'⟩,fun turn listed => by cases listed⟩
    | append_singleton items item ih =>
      have before := ih (fun other member => systems other (List.mem_append_left _ member))
      rw [grouping_concat,List.filter_append]
      cases stays : keep item with
      | true =>
        rw [List.filter_cons_of_pos stays,List.filter_nil,grouping_concat]
        exact tracks_kept before
      | false =>
        rw [List.filter_cons_of_neg (by simp [stays]),List.filter_nil,List.append_nil]
        refine tracks_gone before (fun system => ?_) stays
        rw [systems item (by simp) system] at stays
        cases stays
  exact run.close turn listed all

/-! Taking out the first turns. -/

/-- The turns up to some place go, the ones from there on stay. -/
def HeadGone (keep : Item → Bool) (turns : List (List Item)) : Prop :=
  ∃ head tail, turns = head ++ tail ∧ (∀ item ∈ head.flatten, keep item = false) ∧
    ∀ item ∈ tail.flatten, keep item = true

/-- Nothing has stayed yet, or the grouping of what is left lags by the turns that have gone. -/
inductive Lags (keep : Item → Bool) (state seen : Grouping Item) : Prop
  | before (gone : ∀ item ∈ state.close.flatten, keep item = false) (turns : seen.turns = [])
      (current : seen.current = [])
  | after (head : List (List Item)) (turns : state.turns = head ++ seen.turns)
      (current : state.current = seen.current) (gone : ∀ item ∈ head.flatten, keep item = false)
      (stays : ∀ item ∈ seen.close.flatten, keep item = true) (some' : seen.close.flatten ≠ [])

private theorem headGone_last {first : List (List Item)} {item : Item} {rest : List Item} {last : List Item}
    (headGone : HeadGone keep (first ++ [last])) (same : last = rest ++ [item]) :
    (keep item = true → ∀ other ∈ rest, keep other = true) ∧
      (keep item = false → ∀ other ∈ first.flatten ++ rest, keep other = false) := by
  obtain ⟨head,tail,parts,gone,stays⟩ := headGone
  have here : item ∈ last := same ▸ List.mem_append_right _ (List.mem_singleton_self item)
  obtain rfl | ⟨tail,end',rfl⟩ := List.eq_nil_or_concat tail
  · rw [List.append_nil] at parts
    subst parts
    rw [List.flatten_append,List.flatten_singleton] at gone
    have out := gone item (List.mem_append_right _ here)
    refine ⟨fun stay => by simp [stay] at out,fun _ other member => gone other ?_⟩
    rw [same,← List.append_assoc]
    exact List.mem_append_left _ member
  · rw [List.concat_eq_append,← List.append_assoc] at parts
    obtain ⟨_,rfl⟩ := List.append_inj' parts rfl |>.imp_right List.singleton_inj.mp
    rw [List.concat_eq_append,List.flatten_append,List.flatten_singleton] at stays
    have stay (other : Item) (member : other ∈ last) := stays other (List.mem_append_right _ member)
    refine ⟨fun _ other member => stay other (same ▸ List.mem_append_left _ member),fun gone' => ?_⟩
    rw [stay item here] at gone'
    cases gone'

private theorem step_person {state : Grouping Item} {item : Item} (inside : kind item ≠ .system) :
    ∃ first rest, (step kind state item).turns = first ∧ (step kind state item).current = rest ++ [item] ∧
      (step kind state item).close = first ++ [rest ++ [item]] ∧
      first.flatten ++ rest = state.close.flatten := by
  obtain ⟨system,_⟩ | ⟨_,cut,same⟩ | ⟨_,_,same⟩ := step_cases kind state item
  · exact absurd system inside
  · rw [same]
    refine ⟨state.turns ++ [state.current],[],rfl,rfl,close_of_nonempty (by simp),?_⟩
    rw [close_of_nonempty cut.nonempty,List.append_nil]
  · rw [same]
    exact ⟨state.turns,state.current,rfl,rfl,close_of_nonempty (by simp),(flatten_close state).symm⟩

private theorem flatten_step {state : Grouping Item} {item : Item} (inside : kind item ≠ .system) :
    (step kind state item).close.flatten = state.close.flatten ++ [item] := by
  obtain ⟨first,rest,_,_,close,same⟩ := step_person inside
  rw [close,← same]
  simp

private theorem close_after {state seen : Grouping Item} {head : List (List Item)}
    (turns : state.turns = head ++ seen.turns) (current : state.current = seen.current) :
    state.close = head ++ seen.close := by
  unfold Grouping.close
  rw [turns,current]
  split_ifs <;> simp

private theorem lags_stays {state seen : Grouping Item} (lags : Lags keep state seen) {item : Item}
    (inside : kind item ≠ .system) (stays : keep item = true)
    (headGone : HeadGone keep (step kind state item).close) :
    Lags keep (step kind state item) (step kind seen item) := by
  cases lags with
  | before gone turns current =>
    -- The first message that stays starts a turn.
    obtain ⟨first,rest,turns',current',close,same⟩ := step_person inside
    rw [close] at headGone
    rw [← same] at gone
    obtain rfl : rest = [] := by
      cases rest with
      | nil => rfl
      | cons other rest =>
        have stay := (headGone_last headGone rfl).1 stays other List.mem_cons_self
        rw [gone other (List.mem_append_right _ List.mem_cons_self)] at stay
        cases stay
    rw [List.append_nil] at gone
    have joins : ¬Cuts kind seen.current item := fun cut => cut.nonempty current
    have now := step_join kind inside joins
    rw [turns,current] at now
    refine .after first ?_ ?_ gone ?_ ?_
    · rw [turns',now,List.append_nil]
    · rw [current',now]
    · rw [now]
      simp [Grouping.close,stays]
    · rw [now]
      simp [Grouping.close]
  | after head turns current gone all some' =>
    have flat := @flatten_step _ kind seen _ inside
    have stays' : ∀ other ∈ (step kind seen item).close.flatten, keep other = true := by
      rw [flat]
      intro other member
      obtain early | late := List.mem_append.mp member
      · exact all other early
      · rw [List.mem_singleton.mp late]
        exact stays
    have some'' : (step kind seen item).close.flatten ≠ [] := by
      rw [flat]
      exact List.append_ne_nil_of_right_ne_nil _ (List.cons_ne_nil _ _)
    refine .after head ?_ ?_ gone stays' some''
    · by_cases cut : Cuts kind seen.current item
      · rw [step_cut kind cut,step_cut kind (current ▸ cut),turns,current,List.append_assoc]
      · rw [step_join kind inside cut,step_join kind inside (current ▸ cut)]
        exact turns
    · by_cases cut : Cuts kind seen.current item
      · rw [step_cut kind cut,step_cut kind (current ▸ cut)]
      · rw [step_join kind inside cut,step_join kind inside (current ▸ cut),current]

private theorem lags_system {state seen : Grouping Item} (lags : Lags keep state seen) {item : Item}
    (system : kind item = .system) : Lags keep (step kind state item) (step kind seen item) := by
  rw [step_system kind system,step_system kind system]
  cases lags with
  | before gone turns current =>
    refine .before gone ?_ rfl
    simp [Grouping.close,turns,current]
  | after head turns current gone stays some' =>
    exact .after head (close_after turns current) rfl gone stays some'

private theorem lags_gone {state seen : Grouping Item} (lags : Lags keep state seen) {item : Item}
    (inside : kind item ≠ .system) (gone' : keep item = false)
    (headGone : HeadGone keep (step kind state item).close) : Lags keep (step kind state item) seen := by
  cases lags with
  | before gone turns current =>
    refine .before ?_ turns current
    rw [flatten_step inside]
    intro other member
    obtain early | late := List.mem_append.mp member
    · exact gone other early
    · rw [List.mem_singleton.mp late]
      exact gone'
  | after head turns current gone stays some' =>
    obtain ⟨first,rest,_,_,close,same⟩ := step_person inside
    rw [close] at headGone
    have out := (headGone_last headGone rfl).2 gone'
    rw [same,close_after turns current,List.flatten_append] at out
    obtain ⟨other,member⟩ := List.exists_mem_of_ne_nil _ some'
    have clash := out other (List.mem_append_right _ member)
    rw [stays other member] at clash
    cases clash

theorem HeadGone.shrink {first : List (List Item)} {last smaller : List Item}
    (headGone : HeadGone keep (first ++ [last])) (inside : smaller ⊆ last) :
    HeadGone keep first ∧ HeadGone keep (first ++ [smaller]) := by
  obtain ⟨head,tail,parts,gone,stays⟩ := headGone
  obtain rfl | ⟨tail,end',rfl⟩ := List.eq_nil_or_concat tail
  · rw [List.append_nil] at parts
    subst parts
    rw [List.flatten_append,List.flatten_singleton] at gone
    have early := fun other member => gone other (List.mem_append_left _ member)
    refine ⟨⟨first,[],(List.append_nil _).symm,early,stays⟩,
      first ++ [smaller],[],(List.append_nil _).symm,fun other member => ?_,stays⟩
    rw [List.flatten_append,List.flatten_singleton] at member
    exact gone other (List.mem_append.mpr ((List.mem_append.mp member).imp_right (fun late => inside late)))
  · rw [List.concat_eq_append,← List.append_assoc] at parts
    obtain ⟨rfl,same⟩ := List.append_inj' parts rfl
    rw [List.concat_eq_append,← List.singleton_inj.mp same,List.flatten_append,List.flatten_singleton]
      at stays
    refine ⟨⟨head,tail,rfl,gone,fun other member => stays other (List.mem_append_left _ member)⟩,
      head,tail ++ [smaller],List.append_assoc _ _ _,gone,fun other member => ?_⟩
    rw [List.flatten_append,List.flatten_singleton] at member
    exact stays other (List.mem_append.mpr ((List.mem_append.mp member).imp_right (fun late => inside late)))

private theorem headGone_before {state : Grouping Item} {item : Item}
    (headGone : HeadGone keep (step kind state item).close) : HeadGone keep state.close := by
  obtain ⟨_,same⟩ | ⟨_,cut,same⟩ | ⟨_,_,same⟩ := step_cases kind state item
  · rw [same] at headGone
    exact headGone
  · rw [same,close_of_nonempty (by simp)] at headGone
    rw [close_of_nonempty cut.nonempty]
    exact (headGone.shrink (List.nil_subset _)).1
  · rw [same,close_of_nonempty (by simp)] at headGone
    have both := headGone.shrink (List.subset_append_left state.current [item])
    unfold Grouping.close
    split_ifs
    · exact both.1
    · exact both.2

private theorem tail_unique {head tail head' tail' : List (List Item)} (same : head ++ tail = head' ++ tail')
    (nonempty : ∀ turn ∈ head ++ tail, turn ≠ []) (gone : ∀ item ∈ head.flatten, keep item = false)
    (stays : ∀ item ∈ tail.flatten, keep item = true) (gone' : ∀ item ∈ head'.flatten, keep item = false)
    (stays' : ∀ item ∈ tail'.flatten, keep item = true) : tail = tail' := by
  have clash {turn : List Item} (listed : turn ∈ head ++ tail) (out : ∀ item ∈ turn, keep item = false)
      (inside : ∀ item ∈ turn, keep item = true) : False := by
    obtain ⟨item,member⟩ := List.exists_mem_of_ne_nil _ (nonempty turn listed)
    have equal := out item member
    rw [inside item member] at equal
    cases equal
  obtain ⟨middle,rfl,rfl⟩ | ⟨middle,rfl,rfl⟩ := List.append_eq_append_iff.mp same
  · cases middle with
    | nil => rfl
    | cons turn middle =>
      refine (clash (List.mem_append_right _ List.mem_cons_self) (fun item member => gone' item ?_)
        (fun item member => stays item ?_)).elim
      · exact List.mem_flatten.mpr ⟨turn,List.mem_append_right _ List.mem_cons_self,member⟩
      · exact List.mem_flatten.mpr ⟨turn,List.mem_cons_self,member⟩
  · cases middle with
    | nil => rfl
    | cons turn middle =>
      refine (clash (List.mem_append_left _ (List.mem_append_right _ List.mem_cons_self))
        (fun item member => gone item ?_) (fun item member => stays' item ?_)).elim
      · exact List.mem_flatten.mpr ⟨turn,List.mem_append_right _ List.mem_cons_self,member⟩
      · exact List.mem_flatten.mpr ⟨turn,List.mem_cons_self,member⟩

/-- With the first turns gone and every system message there, the other turns are those of what is
left. -/
theorem turns_of_tail {items : List Item}
    (systems : ∀ item ∈ items, kind item = .system → keep item = true) {head tail : List (List Item)}
    (parts : turns kind items = head ++ tail) (gone : ∀ item ∈ head.flatten, keep item = false)
    (stays : ∀ item ∈ tail.flatten, keep item = true) : turns kind (items.filter keep) = tail := by
  have headGone : HeadGone keep (grouping kind items).close := ⟨head,tail,parts,gone,stays⟩
  have lags : Lags keep (grouping kind items) (grouping kind (items.filter keep)) := by
    clear parts gone stays
    induction items using List.reverseRecOn with
    | nil => exact .before (fun _ member => by cases member) rfl rfl
    | append_singleton items item ih =>
      rw [grouping_concat] at headGone
      have before := ih (fun other member => systems other (List.mem_append_left _ member))
        (headGone_before headGone)
      rw [grouping_concat,List.filter_append]
      by_cases system : kind item = .system
      · rw [List.filter_cons_of_pos (systems item (by simp) system),List.filter_nil,grouping_concat]
        exact lags_system before system
      · cases stay : keep item with
        | true =>
          rw [List.filter_cons_of_pos stay,List.filter_nil,grouping_concat]
          exact lags_stays before system stay headGone
        | false =>
          rw [List.filter_cons_of_neg (by simp [stay]),List.filter_nil,List.append_nil]
          exact lags_gone before system stay headGone
  have nonempty : ∀ turn ∈ head ++ tail, turn ≠ [] := fun turn listed =>
    turn_nonempty kind (parts ▸ listed)
  change (grouping kind (items.filter keep)).close = tail
  change (grouping kind items).close = head ++ tail at parts
  cases lags with
  | before all noTurns noCurrent =>
    have none' : tail = [] := tail_unique (List.append_nil (head ++ tail)).symm nonempty gone stays
      (parts ▸ all) (fun _ member => by cases member)
    rw [none']
    simp [Grouping.close,noTurns,noCurrent]
  | after head' turns' current' gone' stays' some' =>
    exact (tail_unique (parts.symm.trans (close_after turns' current')) nonempty gone stays gone' stays').symm

end

end CustomerService.Turns
