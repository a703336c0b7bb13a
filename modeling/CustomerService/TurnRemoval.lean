import CustomerService.CompressionConserves

/-! Taking whole turns out of a list of system, human and AI messages leaves the other turns as
they were. Between two system messages every turn but the last ends with an answer, and the
answers without a question come first, so that no two turns merge over a gap. -/
namespace CustomerService.TurnRemoval
open SummaryFacts Turns

variable {Item : Type*} {kind : Item → Kind} {keep : Item → Bool}

/-- Every turn of the grouping stays whole or goes whole. -/
def WholeTurns (keep : Item → Bool) (turns : List (List Item)) : Prop :=
  ∀ turn ∈ turns, Whole keep turn

def staying (keep : Item → Bool) (turns : List (List Item)) : List (List Item) :=
  turns.filter (fun turn => turn.all keep)

/-- The scan of what is left beside the scan of the whole list. When the current turn goes, the
other scan is still in an earlier one: it has an answer, and a question only if this has. -/
structure Aligned (kind : Item → Kind) (keep : Item → Bool) (state seen : Grouping Item) : Prop where
  closed : seen.close = staying keep state.close
  kept : (∀ item ∈ state.current, keep item = true) → seen.current = state.current
  gone : (∃ item ∈ state.current, keep item = false) → seen.current = [] ∨
    ((∃ other ∈ seen.current, kind other = .ai) ∧
      ((∀ other ∈ state.current, kind other ≠ .human) → ∀ other ∈ seen.current, kind other ≠ .human))

private theorem staying_append (first second : List (List Item)) :
    staying keep (first ++ second) = staying keep first ++ staying keep second := List.filter_append ..

private theorem staying_kept {turn : List Item} (all : ∀ item ∈ turn, keep item = true) :
    staying keep [turn] = [turn] := List.filter_eq_self.mpr (by simpa using all)

private theorem staying_gone {turn : List Item} {item : Item} (member : item ∈ turn)
    (gone : keep item = false) : staying keep [turn] = [] :=
  List.filter_eq_nil_iff.mpr (by simpa using ⟨item,member,gone⟩)

private theorem close_of_cut {state : Grouping Item} {item : Item} (cut : Cuts kind state.current item) :
    (step kind state item).close = state.close ++ [[item]] := by
  rw [step_cut kind cut,close_of_nonempty (List.cons_ne_nil _ _),close_of_nonempty cut.nonempty]

private theorem close_of_join {state : Grouping Item} {item : Item} (person : kind item ≠ .system)
    (join : ¬Cuts kind state.current item) :
    (step kind state item).close = state.turns ++ [state.current ++ [item]] := by
  rw [step_join kind person join,close_of_nonempty (List.append_ne_nil_of_right_ne_nil _ (by simp))]

private theorem whole_before {state : Grouping Item} {item : Item}
    (whole : WholeTurns keep (step kind state item).close) : WholeTurns keep state.close := by
  intro turn listed
  obtain ⟨larger,there,inside⟩ := @close_grows _ kind _ item _ listed
  exact (whole larger there).imp (fun stay other member => stay other (inside member))
    (fun go other member => go other (inside member))

section Steps
variable {state seen : Grouping Item} (aligned : Aligned kind keep state seen) {item : Item}
include aligned

private theorem aligned_system (system : kind item = .system) :
    Aligned kind keep (step kind state item) (step kind seen item) := by
  rw [step_system kind system,step_system kind system]
  refine ⟨aligned.closed,fun _ => rfl,fun some' => ?_⟩
  obtain ⟨other,member,_⟩ := some'
  cases member

private theorem cuts_seen (cut : Cuts kind state.current item)
    (whole : Whole keep state.current) : seen.current = [] ∨ Cuts kind seen.current item := by
  rcases whole with all | none'
  · rw [aligned.kept all]
    exact Or.inr cut
  · obtain ⟨other,member⟩ := List.exists_mem_of_ne_nil _ cut.nonempty
    rcases aligned.gone ⟨other,member,none' other member⟩ with nothing | ⟨answer,questions⟩
    · exact Or.inl nothing
    · right
      rcases cut with ⟨human,_⟩ | ⟨ai,_,alone⟩
      · exact Or.inl ⟨human,answer⟩
      · obtain ⟨answer,inside,_⟩ := answer
        exact Or.inr ⟨ai,List.ne_nil_of_mem inside,questions alone⟩

private theorem aligned_cut_kept (person : kind item ≠ .system) (cut : Cuts kind state.current item)
    (whole : Whole keep state.current) (stays : keep item = true) :
    Aligned kind keep (step kind state item) (step kind seen item) := by
  have alone : ∀ other ∈ [item], keep other = true := by simpa using stays
  have next : (step kind seen item).current = [item] ∧
      (step kind seen item).close = seen.close ++ [[item]] := by
    rcases cuts_seen aligned cut whole with nothing | cut'
    · have joins : ¬Cuts kind seen.current item := fun cut => cut.nonempty nothing
      rw [step_join kind person joins]
      simp [Grouping.close,nothing]
    · exact ⟨by rw [step_cut kind cut'],close_of_cut cut'⟩
  have now : (step kind state item).current = [item] := by rw [step_cut kind cut]
  refine ⟨?_,fun _ => next.1.trans now.symm,fun some' => ?_⟩
  · rw [next.2,aligned.closed,close_of_cut cut,staying_append,staying_kept alone]
  · rw [now] at some'
    obtain ⟨other,member,gone⟩ := some'
    rw [alone other member] at gone
    cases gone

private theorem aligned_cut_gone (cut : Cuts kind state.current item) (whole : Whole keep state.current)
    (persons : ∀ other ∈ state.current, kind other ≠ .other ∧ kind other ≠ .system)
    (goes : keep item = false) : Aligned kind keep (step kind state item) seen := by
  have now : (step kind state item).current = [item] := by rw [step_cut kind cut]
  have here : item ∈ (step kind state item).current := now ▸ List.mem_singleton_self item
  refine ⟨?_,fun all => ?_,fun _ => ?_⟩
  · rw [aligned.closed,close_of_cut cut,staying_append,
      staying_gone (List.mem_singleton_self item) goes,List.append_nil]
  · rw [all item here] at goes
    cases goes
  · rcases cuts_seen aligned cut whole with nothing | cut'
    · exact Or.inl nothing
    · right
      rcases cut' with ⟨human,answer⟩ | ⟨_,some',alone⟩
      · exact ⟨answer,fun none' => absurd human (none' item here)⟩
      · refine ⟨?_,fun _ => alone⟩
        rcases whole with all | none'
        · obtain ⟨other,member⟩ := List.exists_mem_of_ne_nil _ some'
          rw [aligned.kept all] at member
          obtain ⟨named,person⟩ := persons other member
          refine ⟨other,aligned.kept all ▸ member,?_⟩
          have question := alone other (aligned.kept all ▸ member)
          cases what : kind other with
          | ai => rfl
          | system => exact absurd what person
          | human => exact absurd what question
          | other => exact absurd what named
        · obtain ⟨other,member⟩ := List.exists_mem_of_ne_nil _ cut.nonempty
          rcases aligned.gone ⟨other,member,none' other member⟩ with nothing | ⟨answer,_⟩
          · exact absurd nothing some'
          · exact answer

private theorem aligned_join_kept (person : kind item ≠ .system) (join : ¬Cuts kind state.current item)
    (all : ∀ other ∈ state.current ++ [item], keep other = true) :
    Aligned kind keep (step kind state item) (step kind seen item) := by
  have before : ∀ other ∈ state.current, keep other = true :=
    fun other member => all other (List.mem_append_left _ member)
  have same := aligned.kept before
  have joins : ¬Cuts kind seen.current item := same ▸ join
  have now : (step kind state item).current = state.current ++ [item] := by
    rw [step_join kind person join]
  have turns : seen.turns = staying keep state.turns := by
    have closed := aligned.closed
    by_cases nothing : state.current = []
    · simpa [Grouping.close,same,nothing] using closed
    · rw [close_of_nonempty nothing,close_of_nonempty (same ▸ nothing),staying_append,
        staying_kept before,same] at closed
      exact List.append_cancel_right closed
  refine ⟨?_,fun _ => ?_,fun some' => ?_⟩
  · rw [close_of_join person join,close_of_join person joins,staying_append,turns,
      staying_kept all,same]
  · rw [step_join kind person joins,now,same]
  · rw [now] at some'
    obtain ⟨other,member,gone⟩ := some'
    rw [all other member] at gone
    cases gone

private theorem aligned_join_gone (person : kind item ≠ .system) (join : ¬Cuts kind state.current item)
    (none' : ∀ other ∈ state.current ++ [item], keep other = false) :
    Aligned kind keep (step kind state item) seen := by
  have here : item ∈ state.current ++ [item] := by simp
  have now : (step kind state item).current = state.current ++ [item] := by
    rw [step_join kind person join]
  refine ⟨?_,fun all => ?_,fun _ => ?_⟩
  · rw [aligned.closed,close_of_join person join,staying_append,staying_gone here (none' item here),
      List.append_nil]
    by_cases nothing : state.current = []
    · simp [Grouping.close,nothing]
    · obtain ⟨other,member⟩ := List.exists_mem_of_ne_nil _ nothing
      rw [close_of_nonempty nothing,staying_append,
        staying_gone member (none' other (List.mem_append_left _ member)),List.append_nil]
  · have clash := none' item here
    rw [all item (now ▸ here)] at clash
    cases clash
  · rw [now]
    by_cases nothing : state.current = []
    · left
      rw [aligned.kept (by simp [nothing]),nothing]
    · obtain ⟨other,member⟩ := List.exists_mem_of_ne_nil _ nothing
      refine (aligned.gone ⟨other,member,none' other (List.mem_append_left _ member)⟩).imp_right ?_
      exact fun both => ⟨both.1,fun alone =>
        both.2 (fun other member => alone other (List.mem_append_left _ member))⟩

end Steps

private theorem current_persons (items : List Item) :
    ∀ item ∈ (grouping kind items).current, item ∈ items ∧ kind item ≠ .system := by
  intro item member
  have listed : (grouping kind items).current ∈ turns kind items :=
    current_in_close (List.ne_nil_of_mem member)
  exact mem_of_mem_turn kind listed member

private theorem aligned_run {items : List Item} (persons : ∀ item ∈ items, kind item ≠ .other)
    (systems : ∀ item ∈ items, kind item = .system → keep item = true)
    (whole : WholeTurns keep (turns kind items)) :
    Aligned kind keep (grouping kind items) (grouping kind (items.filter keep)) := by
  induction items using List.reverseRecOn with
  | nil => exact ⟨rfl,fun _ => rfl,fun ⟨_,member,_⟩ => (nomatch member)⟩
  | append_singleton items item ih =>
    change WholeTurns keep (grouping kind (items ++ [item])).close at whole
    rw [grouping_concat] at whole
    have before := ih (fun other member => persons other (List.mem_append_left _ member))
      (fun other member => systems other (List.mem_append_left _ member)) (whole_before whole)
    rw [grouping_concat,List.filter_append]
    by_cases system : kind item = .system
    · rw [List.filter_cons_of_pos (systems item (by simp) system),List.filter_nil,grouping_concat]
      exact aligned_system before system
    have earlier (some' : (grouping kind items).current ≠ []) :
        Whole keep (grouping kind items).current := whole_before whole _ (current_in_close some')
    by_cases cut : Cuts kind (grouping kind items).current item
    · cases stays : keep item with
      | true =>
        rw [List.filter_cons_of_pos stays,List.filter_nil,grouping_concat]
        exact aligned_cut_kept before system cut (earlier cut.nonempty) stays
      | false =>
        rw [List.filter_cons_of_neg (by simp [stays]),List.filter_nil,List.append_nil]
        refine aligned_cut_gone before cut (earlier cut.nonempty) (fun other member => ?_) stays
        obtain ⟨inside,person⟩ := current_persons items other member
        exact ⟨persons other (List.mem_append_left _ inside),person⟩
    · have turn : Whole keep ((grouping kind items).current ++ [item]) := by
        refine whole _ ?_
        rw [step_join kind system cut]
        exact current_in_close (by simp)
      rcases turn with all | none'
      · have stays := all item (by simp)
        rw [List.filter_cons_of_pos stays,List.filter_nil,grouping_concat]
        exact aligned_join_kept before system cut all
      · have goes := none' item (by simp)
        rw [List.filter_cons_of_neg (by simp [goes]),List.filter_nil,List.append_nil]
        exact aligned_join_gone before system cut none'

private theorem partition_filter {items : List Item} (persons : ∀ item ∈ items, kind item ≠ .other)
    (systems : ∀ item ∈ items, kind item = .system → keep item = true)
    (whole : WholeTurns keep (turns kind items)) :
    partitionTurns kind (items.filter keep) =
      ((partitionTurns kind items).1,staying keep (turns kind items)) := by
  refine Prod.ext ?_ (aligned_run persons systems whole).closed
  rw [partition_systems,partition_systems,List.filter_filter]
  refine List.filter_congr (fun item member => ?_)
  by_cases system : kind item = .system
  · simp [system,systems item member system]
  · simp [system]

/-! Turns of a list of messages, told apart by their places. -/

def without (messages : List Message) (gone : List Placed → Bool) : List Message :=
  ((enumerate messages).filter (fun item =>
    !(placedTurns messages).any (fun turn => gone turn && turn.contains item))).map Prod.snd

private theorem enumerate_nodup (messages : List Message) : (enumerate messages).Nodup := by
  refine List.Nodup.of_map Prod.fst ?_
  have places : (enumerate messages).map Prod.fst = List.range' 0 messages.length := by
    simp [enumerate,List.map_map,Function.comp_def]
  rw [places]
  exact List.nodup_range'

private theorem turn_of_item {messages : List Message} {first second : List Placed}
    (one : first ∈ placedTurns messages) (two : second ∈ placedTurns messages) {item : Placed}
    (here : item ∈ first) (there : item ∈ second) : first = second := by
  have flat : (placedTurns messages).flatten.Nodup := by
    rw [placedTurns,flatten_turns]
    exact (enumerate_nodup messages).filter _
  by_contra apart
  have symmetric : Std.Symm (@List.Disjoint Placed) := ⟨fun _ _ apart _ here there => apart there here⟩
  exact (List.nodup_flatten.mp flat).2.forall one two apart here there

private theorem partition_without {messages : List Message} (persons : ∀ message ∈ messages, message.kind ≠ .other)
    (gone : List Placed → Bool) :
    partitionTurns Message.kind (without messages gone) =
      (messages.filter (fun message => message.kind = .system),
        ((placedTurns messages).filter (fun turn => !gone turn)).map (List.map Prod.snd)) := by
  let keep : Placed → Bool := fun item =>
    !(placedTurns messages).any (fun turn => gone turn && turn.contains item)
  have inTurn {turn : List Placed} (listed : turn ∈ placedTurns messages) {item : Placed}
      (member : item ∈ turn) : keep item = !gone turn := by
    simp only [keep,Bool.not_inj_iff]
    rw [Bool.eq_iff_iff,List.any_eq_true]
    constructor
    · rintro ⟨other,there,both⟩
      rw [Bool.and_eq_true,List.contains_iff_mem] at both
      rw [turn_of_item listed there member both.2]
      exact both.1
    · exact fun goes => ⟨turn,listed,by simpa [goes] using member⟩
  have persons' : ∀ item ∈ enumerate messages, placedKind item ≠ .other := by
    intro item member
    refine persons item.2 ?_
    rw [← map_snd_enumerate messages]
    exact List.mem_map_of_mem member
  have systems : ∀ item ∈ enumerate messages, placedKind item = .system → keep item = true := by
    intro item _ system
    simp only [keep,Bool.not_eq_true',List.any_eq_false,Bool.and_eq_true,List.contains_iff_mem]
    rintro turn listed ⟨_,member⟩
    exact (mem_of_mem_turn placedKind listed member).2 system
  have whole : WholeTurns keep (turns placedKind (enumerate messages)) := by
    intro turn listed
    cases goes : gone turn with
    | true => exact Or.inr (fun item member => by rw [inTurn listed member,goes,Bool.not_true])
    | false => exact Or.inl (fun item member => by rw [inTurn listed member,goes,Bool.not_false])
  have left := partition_filter persons' systems whole
  have chosen : staying keep (turns placedKind (enumerate messages)) =
      (placedTurns messages).filter (fun turn => !gone turn) := by
    refine List.filter_congr (fun turn listed => ?_)
    obtain ⟨item,member⟩ := List.exists_mem_of_ne_nil _ (turn_nonempty placedKind listed)
    rw [Bool.eq_iff_iff,List.all_eq_true]
    constructor
    · exact fun all => inTurn listed member ▸ all item member
    · exact fun stays item member => (inTurn listed member).trans stays
  have same (item : Placed) : Message.kind item.2 = placedKind item := rfl
  refine Prod.ext ?_ ?_
  · rw [partition_systems,without,List.filter_map]
    have systems := congrArg (fun parts => parts.1.map Prod.snd) left
    rw [systems_enumerate,partition_systems] at systems
    exact systems
  · change turns Message.kind (without messages gone) = _
    rw [without,turns_map same,turns,left,chosen]

/-! Compression: the systems stay as they are, and each turn that stays is compacted. -/

/-- The turns that a pass works on are turns of the input. -/
def KeepsTurns (messages kept : List Message) (chosen : List Message → Bool) : Prop :=
  partitionTurns Message.kind kept =
    (messages.filter (fun message => message.kind = .system),
      ((turns Message.kind messages).filter chosen).map (List.map compactRagMessage))

private theorem keepsTurns_of_divides {messages : List Message}
    (persons : ∀ message ∈ messages, message.kind ≠ .other) {keep : Message → Bool}
    (divides : Divides messages keep) :
    KeepsTurns messages (keptBy messages keep) (fun turn => turn.all keep) := by
  have left := partition_filter persons divides.systems divides.whole
  refine Prod.ext ?_ ?_
  · have systems := congrArg Prod.fst left
    rw [partition_systems,partition_systems] at systems
    rw [partition_systems,keptBy,List.filter_map]
    have kinds : (fun message => decide (message.kind = Kind.system)) ∘ compactRagMessage =
        fun message => decide (message.kind = Kind.system) := by
      funext message
      simp [compact_kind]
    rw [kinds,systems]
    refine (List.map_congr_left (g := id) (fun message member => ?_)).trans (List.map_id _)
    exact compact_system (of_decide_eq_true (List.mem_filter.mp member).2)
  · change turns Message.kind (keptBy messages keep) = _
    rw [keptBy,turns_compacted]
    exact congrArg (fun parts => parts.2.map (List.map compactRagMessage)) left

section Passes
variable {Score : Type*} [LinearOrder Score] [Zero Score] (services : Services Score)
  (options : Options Score)

/-- The grading chooses turns of the input, and each pass by the budget some of these. -/
structure SameTurns (messages : List Message) (summary : Text)
    (first second third : List Message → Bool) : Prop where
  graded : KeepsTurns messages (keptAfterGrading services options messages) first
  planned : KeepsTurns messages (planOver services options messages).kept second
  final : KeepsTurns messages
    (finalizeCompression services options (planOver services options messages) summary).kept third
  second_le : ∀ turn, second turn = true → first turn = true
  third_le : ∀ turn, third turn = true → second turn = true

private theorem same_turns {messages : List Message} (persons : ∀ message ∈ messages, message.kind ≠ .other)
    (arrived : Arrived messages) (summary : Text) :
    ∃ first second third, SameTurns services options messages summary first second third := by
  have graded := divides_grading services options arrived
  obtain ⟨once,planned,once_le,plan,_⟩ := split_divides services arrived.refs graded
    options.tokenBudget options.existingSummary options.alwaysKeepRecent
  obtain ⟨twice,finished,twice_le,final,_⟩ := split_divides services arrived.refs planned
    options.tokenBudget summary options.alwaysKeepRecent
  have kept := kept_after_grading services options arrived.each
  have narrower {wide narrow : Message → Bool} (le : ∀ message, narrow message = true → wide message = true)
      (turn : List Message) (all : turn.all narrow = true) : turn.all wide = true :=
    List.all_eq_true.mpr (fun message member => le message (List.all_eq_true.mp all message member))
  refine ⟨_,_,_,kept ▸ keepsTurns_of_divides persons graded,?_,?_,narrower once_le,narrower twice_le⟩
  · have same : (planOver services options messages).kept = keptBy messages once := by
      simp only [planOver,kept,plan]
    rw [same]
    exact keepsTurns_of_divides persons planned
  · have same : (finalizeCompression services options (planOver services options messages) summary).kept =
        keptBy messages twice := by
      simp only [finalizeCompression,planOver,kept,plan,final]
    rw [same]
    exact keepsTurns_of_divides persons finished

/-- Whatever turns are taken out of a list of system, human and AI messages, the others are the
turns of what is left; so all passes of a compression work on the turns of its input. -/
theorem partition_stable (messages : List Message)
    (persons : ∀ message ∈ messages, message.kind ≠ .other) :
    (∀ gone : List Placed → Bool, partitionTurns Message.kind (without messages gone) =
      (messages.filter (fun message => message.kind = .system),
        ((placedTurns messages).filter (fun turn => !gone turn)).map (List.map Prod.snd))) ∧
    (Arrived messages → ∀ summary,
      ∃ first second third, SameTurns services options messages summary first second third) :=
  ⟨partition_without persons,same_turns services options persons⟩

end Passes

/-- A greeting, an answered question and an open one around a second system message. -/
def greeted : List Message :=
  [spoken .system 0 "设定",spoken .ai 1 "您好",spoken .human 2 "退款",spoken .ai 3 "审核中",
    spoken .system 4 "摘要",spoken .human 5 "进度"]

theorem partition_stable_greeted :
    partitionTurns Message.kind (without greeted (fun turn => turn.length == 2)) =
      (greeted.filter (fun message => message.kind = .system),
        ((placedTurns greeted).filter (fun turn => !(turn.length == 2))).map (List.map Prod.snd)) ∧
    ∃ first second third, SameTurns (tableServices [0,0,0,9,9,9]) ⟨12,none,1,3,6,4,[],none⟩ greeted []
      first second third := by
  have stable := partition_stable (tableServices [0,0,0,9,9,9]) ⟨12,none,1,3,6,4,[],none⟩ greeted
    (by decide)
  exact ⟨stable.1 _,stable.2 ⟨by decide,by decide,by decide⟩ []⟩

end CustomerService.TurnRemoval
