import CustomerService.CompressionConserves

/-! The last messages of a window and the turns they belong to. They pass the grading and both splits
by the budget, whatever the scores and the budget are. -/
namespace CustomerService.SummaryFacts

section
variable {Score : Type*} (services : Services Score)

private theorem selectTurns_enough (restBudget minKeep : Int) (selected : List (List Placed)) (total : Int)
    (remaining : List (List Placed)) :
    (selectTurns services restBudget minKeep selected total remaining).2 = [] ∨
      minKeep ≤ ((selectTurns services restBudget minKeep selected total remaining).1.flatten.length : Int) := by
  induction remaining generalizing selected total with
  | nil => exact .inl rfl
  | cons turn earlier ih =>
    unfold selectTurns
    dsimp only
    split_ifs with stops
    · exact .inr stops.2.2
    · exact ih _ _

private theorem selectTurns_late (restBudget : Int) {minKeep : Int} {before after : List (List Placed)}
    {turn : List Placed} (few : (after.flatten.length : Int) < minKeep) :
    turn ∈ (selectTurns services restBudget minKeep [] 0 (before ++ turn::after).reverse).1 := by
  have enough := selectTurns_enough services restBudget minKeep [] 0 (before ++ turn::after).reverse
  generalize run : selectTurns services restBudget minKeep [] 0 _ = chosen at enough ⊢
  have whole := selectTurns_head services run
  rw [← List.mem_reverse]
  obtain nothing | enough := enough
  · rw [nothing,List.nil_append] at whole
    rw [← whole]
    exact List.mem_append_right _ List.mem_cons_self
  · obtain ⟨left,_,same⟩ | ⟨late,_,same⟩ := List.append_eq_append_iff.mp whole
    · cases left with
      | nil =>
        rw [← List.nil_append chosen.1.reverse,← same]
        exact List.mem_cons_self
      | cons first left =>
        have reversed := (List.reverse_perm chosen.1).flatten.length_eq
        have later : after = left ++ chosen.1.reverse := (List.cons.inj same).2
        rw [later,List.flatten_append,List.length_append] at few
        omega
    · rw [same]
      exact List.mem_append_right _ List.mem_cons_self

/-! Messages with the places at which they stood in the whole list. -/

structure Window (n : Nat) (placed : List Placed) : Prop where
  order : (placed.map Prod.fst).Pairwise (· < ·)
  bound : ∀ item ∈ placed, item.1 < n
  apart : Apart (placed.map Prod.snd)

theorem Window.sublist {n : Nat} {placed part : List Placed} (window : Window n placed)
    (sub : part.Sublist placed) : Window n part :=
  ⟨window.order.sublist (sub.map _),fun item listed => window.bound item (sub.subset listed),
    fun first here second there => window.apart first ((sub.map _).subset here) second
      ((sub.map _).subset there)⟩

private theorem length_after {n start : Nat} {places : List Nat} (below : start < n)
    (order : places.Pairwise (· < ·)) (inside : ∀ place ∈ places, start < place ∧ place < n) :
    start + places.length < n := by
  induction places generalizing start with
  | nil => exact below
  | cons place rest ih =>
    obtain ⟨here,bound⟩ := inside place List.mem_cons_self
    have later := ih bound (List.pairwise_cons.mp order).2 (fun other member =>
      ⟨(List.pairwise_cons.mp order).1 other member,(inside other (List.mem_cons_of_mem _ member)).2⟩)
    rw [List.length_cons]
    omega

/-- What stays of a window: the system messages, and each turn with one of the last `k` messages. -/
structure Keeps (n : Nat) (k : Int) (before after : List Placed) : Prop where
  window : Window n after
  systems : ∀ item ∈ before, item.2.kind = .system → item ∈ after
  turns : ∀ turn ∈ Turns.turns placedKind before, (∃ item ∈ turn, (n : Int) ≤ item.1 + k) →
    ∃ block ∈ Turns.turns placedKind after, turn ⊆ block

theorem Keeps.trans {n : Nat} {k : Int} {first second third : List Placed}
    (one : Keeps n k first second) (two : Keeps n k second third) : Keeps n k first third := by
  refine ⟨two.window,fun item listed system => two.systems item (one.systems item listed system) system,
    fun turn listed recent => ?_⟩
  obtain ⟨block,here,inside⟩ := one.turns turn listed recent
  obtain ⟨item,member,late⟩ := recent
  obtain ⟨larger,there,wider⟩ := two.turns block here ⟨item,inside member,late⟩
  exact ⟨larger,there,List.Subset.trans inside wider⟩

private theorem keeps_filter {n : Nat} {k : Int} {placed : List Placed} (window : Window n placed)
    {keep : Message → Bool} (systems : ∀ item ∈ placed, item.2.kind = .system → keep item.2 = true)
    (stays : ∀ turn ∈ Turns.turns placedKind placed, (∃ item ∈ turn, (n : Int) ≤ item.1 + k) →
      ∀ item ∈ turn, keep item.2 = true) :
    Keeps n k placed (placed.filter (keep ∘ Prod.snd)) :=
  ⟨window.sublist List.filter_sublist,
    fun item listed system => List.mem_filter.mpr ⟨listed,systems item listed system⟩,
    fun turn listed recent =>
      @Turns.turn_within_block _ placedKind (keep ∘ Prod.snd) placed systems turn listed
        (stays turn listed recent)⟩

private theorem few_after {n : Nat} {k : Int} {placed : List Placed} (window : Window n placed)
    {before after : List (List Placed)} {turn : List Placed}
    (parts : Turns.turns placedKind placed = before ++ turn::after) {item : Placed} (inside : item ∈ turn)
    (recent : (n : Int) ≤ item.1 + k) : (after.flatten.length : Int) < k := by
  have sub : (turn ++ after.flatten).Sublist placed := by
    have whole : (before ++ turn::after).flatten = placed.filter _ :=
      parts ▸ Turns.flatten_turns placedKind placed
    rw [List.flatten_append,List.flatten_cons] at whole
    exact (List.sublist_append_right _ _).trans (whole ▸ List.filter_sublist)
  have order := (window.sublist sub).order
  rw [List.map_append] at order
  obtain ⟨_,rising,late⟩ := List.pairwise_append.mp order
  have few := length_after (window.bound item (sub.subset (List.mem_append_left _ inside))) rising
    (fun place listed => ⟨late _ (List.mem_map_of_mem inside) place listed,by
      obtain ⟨other,member,rfl⟩ := List.mem_map.mp listed
      exact window.bound other (sub.subset (List.mem_append_right _ member))⟩)
  rw [List.length_map] at few
  omega

private theorem placed_turns (placed : List Placed) :
    (Turns.turns placedKind (enumerate (placed.map Prod.snd))).map (List.map Prod.snd) =
      (Turns.turns placedKind placed).map (List.map Prod.snd) := by
  rw [turns_enumerate]
  have same (item : Placed) : item.2.kind = placedKind item := rfl
  exact Turns.turns_map same placed

private theorem persons_count (messages : List Message) :
    (messages.length : Int) - (messages.filter (fun message => message.kind = .system)).length =
      (Turns.turns Message.kind messages).flatten.length := by
  have parts := List.length_eq_countP_add_countP (fun message : Message => message.kind = .system) (l := messages)
  rw [List.countP_eq_length_filter,List.countP_eq_length_filter] at parts
  rw [Turns.flatten_turns]
  simp only [decide_eq_true_eq,ne_eq] at parts ⊢
  omega

private theorem selects_recent {n : Nat} {k : Int} {placed turn : List Placed} (window : Window n placed)
    (listed : turn ∈ Turns.turns placedKind placed) (recent : ∃ item ∈ turn, (n : Int) ≤ item.1 + k)
    (restBudget : Int) {messages : List Message} (same : placed.map Prod.snd = messages) :
    turn.map Prod.snd ⊆ (selectTurns services restBudget (min (max 1 k)
      (max 1 ((messages.length : Int) -
        (messages.filter (fun message => message.kind = .system)).length))) [] 0
      (Turns.turns placedKind (enumerate messages)).reverse).1.flatten.map Prod.snd := by
  subst same
  obtain ⟨before,after,parts⟩ := List.append_of_mem listed
  obtain ⟨item,inside,last⟩ := recent
  have mapped := placed_turns placed
  rw [parts,List.map_append,List.map_cons] at mapped
  obtain ⟨front,_,split,_,rest⟩ := List.map_eq_append_iff.mp mapped
  obtain ⟨turn',back,rfl,texts,later⟩ := List.map_eq_cons_iff.mp rest
  have size : back.flatten.length = after.flatten.length := by
    have flat := congrArg (fun turns => turns.flatten.length) later
    simpa [Function.comp_def] using flat
  have few := few_after window parts inside last
  have persons : after.flatten.length + 1 ≤
      (Turns.turns Message.kind (placed.map Prod.snd)).flatten.length := by
    rw [← turns_enumerate,placed_turns,parts,← List.map_flatten,List.length_map,List.flatten_append,
      List.flatten_cons,List.length_append,List.length_append]
    have some' := List.length_pos_of_mem inside
    omega
  rw [split,← texts]
  intro message member
  obtain ⟨other,here,rfl⟩ := List.mem_map.mp member
  refine List.mem_map_of_mem (List.mem_flatten.mpr ⟨turn',selectTurns_late services restBudget ?_,here⟩)
  rw [size,persons_count]
  omega

private theorem split_keeps {n : Nat} {placed : List Placed} (window : Window n placed) (tokenBudget : Int)
    (summary : Text) (alwaysKeepRecent : Int) :
    ∃ after, (splitKeptByBudget services (placed.map Prod.snd) tokenBudget summary alwaysKeepRecent).1 =
      after.map Prod.snd ∧ Keeps n alwaysKeepRecent placed after := by
  by_cases nothing : placed = []
  · subst nothing
    exact ⟨[],rfl,window,fun _ listed => (by cases listed),fun _ listed => (by cases listed)⟩
  · simp only [splitKeptByBudget,if_neg (mt List.map_eq_nil_iff.mp nothing),systems_enumerate]
    refine ⟨_,List.filter_map,keeps_filter window (fun item listed system => ?_)
      (fun turn listed recent item inside => ?_)⟩
    · refine decide_eq_true (List.mem_map_of_mem (List.mem_append_right _ ?_))
      exact List.mem_filter.mpr ⟨List.mem_map_of_mem listed,decide_eq_true system⟩
    · refine decide_eq_true (List.mem_map_of_mem (List.mem_append_left _ ?_))
      exact selects_recent services window listed recent _ rfl (List.mem_map_of_mem inside)

/-! From the grading to the result. -/

private theorem enumerate_window {messages : List Message} (apart : Apart messages) :
    Window messages.length (enumerate messages) := by
  refine ⟨?_,fun item listed => ?_,(map_snd_enumerate messages).symm ▸ apart⟩
  · have places : (enumerate messages).map Prod.fst = List.range' 0 messages.length := by
      rw [enumerate,List.map_map]
      exact List.zipIdx_map_snd 0 messages
    rw [places,← List.range_eq_range']
    exact List.pairwise_lt_range
  · obtain ⟨pair,here,rfl⟩ := List.mem_map.mp listed
    exact List.snd_lt_of_mem_zipIdx here

def compactPlaced (item : Placed) : Placed := (item.1,compactRagMessage item.2)

variable [LinearOrder Score] [Zero Score] (options : Options Score)

private theorem grade_recent {messages : List Message} (apart : Apart messages) {turn : List Placed}
    (listed : turn ∈ placedTurns messages) {item : Placed} (inside : item ∈ turn)
    (recent : (messages.length : Int) ≤ item.1 + options.alwaysKeepRecent) :
    grade services options messages turn = .keep := by
  have sub : turn.Sublist (enumerate messages) := by
    refine (List.sublist_flatten_of_mem listed).trans ?_
    rw [placedTurns,Turns.flatten_turns]
    exact List.filter_sublist
  have order := ((enumerate_window apart).sublist sub).order
  refine if_pos ?_
  obtain rfl | ⟨front,last,same⟩ := List.eq_nil_or_concat turn
  · cases inside
  · rw [List.concat_eq_append] at same
    subst same
    unfold isRecent recentStart
    rw [List.getLast?_concat]
    rw [List.map_append,List.pairwise_append] at order
    have late : item.1 ≤ last.1 := by
      obtain early | same := List.mem_append.mp inside
      · exact (order.2.2 item.1 (List.mem_map_of_mem early) last.1 List.mem_cons_self).le
      · rw [List.mem_singleton.mp same]
    exact decide_eq_true (by omega)

private theorem compact_window {n : Nat} {messages : List Message} (each : Objects messages)
    {placed : List Placed} (window : Window n placed) (inside : placed.map Prod.snd ⊆ messages) :
    Window n (placed.map compactPlaced) := by
  refine ⟨?_,fun item listed => ?_,fun first one second two same => ?_⟩
  · rw [List.map_map]
    exact window.order
  · obtain ⟨original,here,rfl⟩ := List.mem_map.mp listed
    exact window.bound original here
  · rw [List.map_map] at one two
    obtain ⟨left,here,rfl⟩ := List.mem_map.mp one
    obtain ⟨right,there,rfl⟩ := List.mem_map.mp two
    have refs : left.2.ref = right.2.ref := by
      have equal := congrArg Prod.fst same
      change (compactRagMessage left.2).ref = (compactRagMessage right.2).ref at equal
      rwa [compact_ref,compact_ref] at equal
    exact congrArg compactRagMessage (each.objects left.2 (inside (List.mem_map_of_mem here)) right.2
      (inside (List.mem_map_of_mem there)) refs)

private theorem grading_keeps {messages : List Message} (each : Objects messages) :
    ∃ after, keptAfterGrading services options messages = after.map Prod.snd ∧
      Keeps messages.length options.alwaysKeepRecent ((enumerate messages).map compactPlaced) after := by
  let keep := keptByGrading services options messages
  have inside {item : Placed} (listed : item ∈ enumerate messages) : item.2 ∈ messages :=
    map_snd_enumerate messages ▸ List.mem_map_of_mem listed
  have stage : Keeps messages.length options.alwaysKeepRecent (enumerate messages)
      ((enumerate messages).filter (keep ∘ Prod.snd)) := by
    refine keeps_filter (enumerate_window each.apart) (fun item listed system => ?_)
      (fun turn listed ⟨late,here,recent⟩ item member => ?_)
    · exact (keptByGrading_iff services options each (inside listed)).mpr (.inl system)
    · have place := (Turns.mem_of_mem_turn placedKind listed member).1
      exact (keptByGrading_iff services options each (inside place)).mpr (.inr
        ((mem_graded services options).mpr ⟨turn,listed,
          grade_recent services options each.apart listed here recent,List.mem_map_of_mem member⟩))
  have part : ((enumerate messages).filter (keep ∘ Prod.snd)).map Prod.snd ⊆ messages := by
    intro message listed
    obtain ⟨item,here,rfl⟩ := List.mem_map.mp listed
    exact inside (List.mem_of_mem_filter here)
  refine ⟨((enumerate messages).filter (keep ∘ Prod.snd)).map compactPlaced,?_,
    compact_window each stage.window part,?_,?_⟩
  · rw [kept_after_grading services options each,keptBy,← map_snd_enumerate messages,List.filter_map,
      List.map_map,List.map_map,map_snd_enumerate]
    rfl
  · intro item listed system
    obtain ⟨original,here,rfl⟩ := List.mem_map.mp listed
    exact List.mem_map_of_mem (stage.systems original here ((compact_kind original.2).symm.trans system))
  · intro turn listed recent
    have same (item : Placed) : placedKind (compactPlaced item) = placedKind item := compact_kind item.2
    rw [Turns.turns_map same] at listed ⊢
    obtain ⟨original,here,rfl⟩ := List.mem_map.mp listed
    obtain ⟨item,member,late⟩ := recent
    obtain ⟨item,within,rfl⟩ := List.mem_map.mp member
    obtain ⟨block,there,wide⟩ := stage.turns original here ⟨item,within,late⟩
    exact ⟨block.map compactPlaced,List.mem_map_of_mem there,List.map_subset compactPlaced wide⟩

private theorem compress_keeps (summarize : List Message → Text → Text) {messages : List Message}
    (each : Objects messages) :
    ∃ after, (compressByImportance services options summarize messages).kept = after.map Prod.snd ∧
      Keeps messages.length options.alwaysKeepRecent ((enumerate messages).map compactPlaced) after := by
  have window := compact_window each (enumerate_window each.apart)
    (fun message listed => by rwa [map_snd_enumerate] at listed)
  have whole : messages.map compactRagMessage = ((enumerate messages).map compactPlaced).map Prod.snd := by
    conv_lhs => rw [← map_snd_enumerate messages]
    rw [List.map_map,List.map_map]
    rfl
  have all : Keeps messages.length options.alwaysKeepRecent ((enumerate messages).map compactPlaced)
      ((enumerate messages).map compactPlaced) :=
    ⟨window,fun _ listed _ => listed,fun turn listed _ => ⟨turn,listed,List.Subset.refl _⟩⟩
  unfold compressByImportance planCompression
  dsimp only
  split_ifs with nothing within
  · exact ⟨_,(congrArg (List.map compactRagMessage) nothing).symm.trans whole,all⟩
  · exact ⟨_,whole,all⟩
  · obtain ⟨graded,same,first⟩ := grading_keeps services options each
    obtain ⟨planned,plan,second⟩ := split_keeps services first.window options.tokenBudget
      options.existingSummary options.alwaysKeepRecent
    obtain ⟨final,done,third⟩ := split_keeps services second.window options.tokenBudget _
      options.alwaysKeepRecent
    rw [← same] at plan
    rw [← plan] at done
    exact ⟨final,done,first.trans (second.trans third)⟩

/-- Each of the last messages is kept, and with it every message of its turn. -/
theorem recent_messages_kept (summarize : List Message → Text → Text) {messages : List Message}
    (each : Objects messages) {item : Placed} (listed : item ∈ enumerate messages)
    (recent : (messages.length : Int) ≤ item.1 + options.alwaysKeepRecent) :
    compactRagMessage item.2 ∈ (compressByImportance services options summarize messages).kept ∧
      ∀ turn ∈ Turns.turns placedKind (enumerate messages), item ∈ turn → ∀ other ∈ turn,
        compactRagMessage other.2 ∈ (compressByImportance services options summarize messages).kept := by
  obtain ⟨after,same,keeps⟩ := compress_keeps services options summarize each
  rw [same]
  have turns : ∀ turn ∈ Turns.turns placedKind (enumerate messages), item ∈ turn → ∀ other ∈ turn,
      compactRagMessage other.2 ∈ after.map Prod.snd := by
    intro turn inside here other member
    have kinds (item : Placed) : placedKind (compactPlaced item) = placedKind item := compact_kind item.2
    obtain ⟨block,there,wide⟩ := keeps.turns (turn.map compactPlaced)
      (Turns.turns_map kinds (enumerate messages) ▸ List.mem_map_of_mem inside)
      ⟨compactPlaced item,List.mem_map_of_mem here,recent⟩
    have kept := (Turns.mem_of_mem_turn placedKind there (wide (List.mem_map_of_mem member))).1
    exact List.mem_map_of_mem kept
  refine ⟨?_,turns⟩
  by_cases system : item.2.kind = .system
  · have kept := keeps.systems (compactPlaced item) (List.mem_map_of_mem listed)
      ((compact_kind item.2).trans system)
    exact List.mem_map_of_mem kept
  · have inside : item ∈ (Turns.turns placedKind (enumerate messages)).flatten := by
      rw [Turns.flatten_turns]
      exact List.mem_filter.mpr ⟨listed,decide_eq_true system⟩
    obtain ⟨turn,here,member⟩ := List.mem_flatten.mp inside
    exact turns turn here member item member

end

/-- The turn of the last message but one holds two that are older; the budget is one token. -/
theorem recent_messages_kept_over_budget :
    let messages := [spoken .human 0 "你好",spoken .human 1 "退款",spoken .ai 2 "退款审核中",
      spoken .human 3 "进度"]
    ∀ turn ∈ Turns.turns placedKind (enumerate messages),
      (2,spoken .ai 2 "退款审核中") ∈ turn → ∀ other ∈ turn, compactRagMessage other.2 ∈
        (compressByImportance (tableServices [0,0,0,0]) ⟨1,none,2,3,6,0,[],none⟩
          (ruleSummarize (⟨1,none,2,3,6,0,[],none⟩ : Options Int)) messages).kept :=
  (recent_messages_kept _ _ _ ⟨by decide,by decide⟩ (by decide) (by decide)).2

end CustomerService.SummaryFacts
