import CustomerService.CompressionConserves

/-! What a compression reports to the history: the last message always stays when one recent
message is kept, and the updated messages are the kept ones that compaction changes. -/
namespace CustomerService.SummaryFacts

open Text

section
variable {Score : Type*} (services : Services Score)

/-! The newest turn. -/

private theorem selectTurns_selected (restBudget minKeep : Int) (selected : List (List Placed)) (total : Int)
    (remaining : List (List Placed)) :
    selected <+: (selectTurns services restBudget minKeep selected total remaining).1 := by
  induction remaining generalizing selected total with
  | nil => simp [selectTurns]
  | cons turn earlier ih =>
    unfold selectTurns
    dsimp only
    split_ifs
    · exact List.prefix_refl _
    · exact (List.prefix_append _ _).trans (ih _ _)

private theorem selectTurns_newest (restBudget minKeep : Int) (turn : List Placed)
    (earlier : List (List Placed)) :
    turn ∈ (selectTurns services restBudget minKeep [] 0 (turn::earlier)).1 := by
  unfold selectTurns
  dsimp only
  rw [if_neg (by simp)]
  exact (selectTurns_selected services _ _ _ _ _).subset (by simp)

private theorem split_keeps_person {kept : List Message} {person : Message} (member : person ∈ kept)
    (inside : person.kind ≠ .system) (tokenBudget : Int) (summary : Text) (alwaysKeepRecent : Int) :
    ∃ message ∈ (splitKeptByBudget services kept tokenBudget summary alwaysKeepRecent).1,
      message.kind ≠ .system := by
  have nonempty : kept ≠ [] := List.ne_nil_of_mem member
  have some' : (placedTurns kept).reverse ≠ [] := by
    intro nothing
    have flat := flatten_placedTurns kept
    rw [List.reverse_eq_nil_iff.mp nothing] at flat
    have listed : person ∈ kept.filter (fun message => message.kind ≠ .system) := by
      simpa using ⟨member,inside⟩
    rw [← flat] at listed
    cases listed
  obtain ⟨turn,earlier,split⟩ := List.exists_cons_of_ne_nil some'
  have listed : turn ∈ placedTurns kept := List.mem_reverse.mp (split ▸ List.mem_cons_self)
  obtain ⟨item,within⟩ := List.exists_mem_of_ne_nil turn (Turns.turn_nonempty placedKind listed)
  have here := mem_of_mem_placedTurn listed (List.mem_map_of_mem within)
  simp only [splitKeptByBudget,if_neg nonempty]
  refine ⟨item.2,List.mem_filter.mpr ⟨here.1,decide_eq_true ?_⟩,here.2⟩
  apply List.mem_map_of_mem
  apply List.mem_append_left
  refine List.mem_map_of_mem (List.mem_flatten.mpr ⟨turn,?_,within⟩)
  rw [placedTurns,Turns.turns] at split
  rw [split]
  exact selectTurns_newest services _ _ turn earlier

private theorem split_keeps_last {kept : List Message} {last : Message}
    (distinct : ((kept ++ [last]).map Message.identity).Nodup) (person : last.kind ≠ .system)
    (tokenBudget : Int) (summary : Text) (alwaysKeepRecent : Int) :
    last ∈ (splitKeptByBudget services (kept ++ [last]) tokenBudget summary alwaysKeepRecent).1 := by
  obtain ⟨keep,split⟩ := split_spec services distinct tokenBudget summary alwaysKeepRecent
  obtain ⟨message,stays,inside⟩ := split_keeps_person services
    (List.mem_append_right kept (List.mem_singleton_self last)) person tokenBudget summary
    alwaysKeepRecent
  have ends := congrArg List.getLast? split.oldest
  have persons : (kept ++ [last]).filter (fun message => message.kind ≠ .system) =
      kept.filter (fun message => message.kind ≠ .system) ++ [last] := by
    simp [List.filter_append,person]
  have listed : message ∈ (splitKeptByBudget services (kept ++ [last]) tokenBudget summary
      alwaysKeepRecent).1.filter (fun message => message.kind ≠ .system) := by
    simpa using ⟨stays,inside⟩
  rw [persons,List.getLast?_concat,List.getLast?_append] at ends
  cases found : ((splitKeptByBudget services (kept ++ [last]) tokenBudget summary
      alwaysKeepRecent).1.filter (fun message => message.kind ≠ .system)).getLast? with
  | none =>
    rw [List.getLast?_eq_none_iff.mp found] at listed
    cases listed
  | some newest =>
    rw [found,Option.some_or] at ends
    obtain rfl := Option.some.inj ends
    exact List.mem_of_mem_filter (List.mem_of_getLast? found)

end

/-! Grading. -/

section
variable {Score : Type*} [LinearOrder Score] [Zero Score] (services : Services Score)
  (options : Options Score)

omit [LinearOrder Score] [Zero Score] in
theorem last_recent {existing : List Message} {last : Message}
    (recent : 1 ≤ options.alwaysKeepRecent) {turn : List Placed}
    (ends : turn.getLast? = some (existing.length,last)) :
    isRecent (recentStart options (existing ++ [last])) turn = true := by
  unfold isRecent recentStart
  rw [ends]
  simp only [List.length_append,List.length_singleton,decide_eq_true_eq]
  push_cast
  omega

private theorem enumerate_concat (existing : List Message) (last : Message) :
    enumerate (existing ++ [last]) = enumerate existing ++ [(existing.length,last)] := by
  simp [enumerate,List.zipIdx_append]

theorem getLast?_of_flatten {Item : Type*} {lists : List (List Item)} (distinct : lists.flatten.Nodup)
    {front : List Item} {last : Item} (flat : lists.flatten = front ++ [last]) {list : List Item}
    (listed : list ∈ lists) (inside : last ∈ list) : list.getLast? = some last := by
  obtain ⟨before,after,rfl⟩ := List.append_of_mem listed
  rw [List.flatten_append,List.flatten_cons] at flat distinct
  have ends := congrArg List.getLast? flat
  rw [List.getLast?_concat,List.getLast?_append,List.getLast?_append] at ends
  cases later : after.flatten.getLast? with
  | some other =>
    rw [later,Option.some_or,Option.some_or] at ends
    obtain rfl := Option.some.inj ends
    have apart := List.disjoint_of_nodup_append (List.nodup_append.mp distinct).2.1
    exact absurd (List.mem_of_getLast? later) (apart inside)
  | none =>
    rw [later,Option.none_or] at ends
    cases here : list.getLast? with
    | none =>
      rw [List.getLast?_eq_none_iff.mp here] at inside
      cases inside
    | some other =>
      rw [here,Option.some_or] at ends
      exact ends

private theorem last_kept_by_grading {existing : List Message} {last : Message}
    (arrived : Arrived (existing ++ [last])) (person : last.kind ≠ .system)
    (recent : 1 ≤ options.alwaysKeepRecent) :
    keptByGrading services options (existing ++ [last]) last = true := by
  have places : ((enumerate (existing ++ [last])).map Prod.snd).Nodup := by
    rw [map_snd_enumerate]
    exact List.Nodup.of_map _ arrived.ids
  have flat : (placedTurns (existing ++ [last])).flatten =
      (enumerate existing).filter (fun item => placedKind item ≠ .system) ++
        [(existing.length,last)] := by
    rw [placedTurns,Turns.flatten_turns,enumerate_concat,List.filter_append]
    simp [placedKind,person]
  have distinct : (placedTurns (existing ++ [last])).flatten.Nodup := by
    rw [placedTurns,Turns.flatten_turns]
    exact (List.Nodup.of_map _ places).filter _
  have listed : (existing.length,last) ∈ (placedTurns (existing ++ [last])).flatten := by
    rw [flat]
    simp
  obtain ⟨turn,here,inside⟩ := List.mem_flatten.mp listed
  have ends := getLast?_of_flatten distinct flat here inside
  have stays := keptByGrading_turn services options arrived here (List.mem_map_of_mem inside)
  rw [stays,decide_eq_true_iff,grade,gradeOf,if_pos (last_recent options recent ends)]

theorem keptBy_concat (existing : List Message) {last : Message} {keep : Message → Bool}
    (stays : keep last = true) :
    keptBy (existing ++ [last]) keep = keptBy existing keep ++ [compactRagMessage last] := by
  simp [keptBy,stays]

omit [LinearOrder Score] [Zero Score] in
theorem split_leaves_last {existing : List Message} {last : Message}
    (refs : ((existing ++ [last]).map Message.ref).Nodup) (person : last.kind ≠ .system)
    {keep keep' : Message → Bool} (stays : keep last = true) {tokenBudget : Int} {summary : Text}
    {alwaysKeepRecent : Int} (split : (splitKeptByBudget services (keptBy (existing ++ [last]) keep)
      tokenBudget summary alwaysKeepRecent).1 = keptBy (existing ++ [last]) keep') :
    keep' last = true := by
  have distinct := nodup_identity (refs_keptBy refs keep)
  rw [keptBy_concat existing stays] at split distinct
  have present := split_keeps_last services distinct (by simpa using person) tokenBudget summary
    alwaysKeepRecent
  rw [split] at present
  obtain ⟨message,chosen,same⟩ := List.mem_map.mp present
  obtain ⟨member,kept⟩ := List.mem_filter.mp chosen
  have names := congrArg Message.ref same
  rw [compact_ref,compact_ref] at names
  rwa [← List.inj_on_of_nodup_map refs member (List.mem_append_right _ (List.mem_singleton_self _))
    names]

theorem Stages.last_kept {existing : List Message} {last : Message}
    (arrived : Arrived (existing ++ [last])) (person : last.kind ≠ .system)
    (recent : 1 ≤ options.alwaysKeepRecent) {summary : Text} {first second : Message → Bool}
    (run : Stages services options (existing ++ [last]) summary first second) :
    first last = true ∧ second last = true := by
  have scored := last_kept_by_grading services options arrived person recent
  have plan := congrArg Prod.fst run.plan
  rw [kept_after_grading services options arrived.each] at plan
  have once := split_leaves_last services arrived.refs person scored plan
  exact ⟨once,split_leaves_last services arrived.refs person once (congrArg Prod.fst run.final)⟩

/-! The updated messages. -/

def compactedTurns (messages : List Message) : List Message :=
  ((placedTurns messages).filter
    (fun turn => grade services options messages turn ≠ .discard)).flatten.map Prod.snd

theorem compactedTurns_subset (messages : List Message) :
    compactedTurns services options messages ⊆ messages := by
  intro message inside
  rw [compactedTurns,List.map_flatten,List.mem_flatten] at inside
  obtain ⟨part,here,within⟩ := inside
  obtain ⟨turn,chosen,rfl⟩ := List.mem_map.mp here
  exact (mem_of_mem_placedTurn (List.mem_of_mem_filter chosen) within).1

theorem noted_of_grading {messages : List Message} (arrived : Arrived messages) {message new : Message}
    (member : message ∈ messages)
    (found : (grading services options messages).compactByOrig.get? message.identity = some new) :
    new = compactRagMessage message := by
  rw [grading_spec] at found
  obtain ⟨orig,here,same,rfl⟩ := noted_sound found
  rw [List.inj_on_of_nodup_map (nodup_identity arrived.refs)
    (compactedTurns_subset services options messages here) member same]

private theorem updated_sound {messages : List Message} (arrived : Arrived messages) {new : Message}
    (listed : new ∈ updatedAfterGrading services options messages) :
    ∃ message ∈ messages, keptByGrading services options messages message = true ∧
      new = compactRagMessage message := by
  obtain ⟨message,inside,found⟩ := List.mem_filterMap.mp listed
  obtain ⟨member,stays⟩ := List.mem_filter.mp inside
  exact ⟨message,member,List.contains_iff_mem.mpr (of_decide_eq_true stays),
    noted_of_grading services options arrived member found⟩

private theorem updated_complete {messages : List Message} (arrived : Arrived messages) {message : Message}
    (member : message ∈ messages) (stays : keptByGrading services options messages message = true)
    (changed : compactRagMessage message ≠ message) :
    compactRagMessage message ∈ updatedAfterGrading services options messages := by
  refine List.mem_filterMap.mpr ⟨message,List.mem_filter.mpr ⟨member,?_⟩,?_⟩
  · exact decide_eq_true (List.contains_iff_mem.mp stays)
  · have person := ((keptByGrading_iff services options arrived.each member).mp stays).resolve_left
      (fun system => changed (compact_system system))
    obtain ⟨turn,here,same,inside⟩ := (mem_graded services options).mp person
    have noted : message ∈ compactedTurns services options messages := by
      rw [compactedTurns,List.map_flatten,List.mem_flatten]
      refine ⟨_,List.mem_map_of_mem (List.mem_filter.mpr ⟨here,?_⟩),inside⟩
      simp [same]
    have found := noted_complete noted (fun same =>
      changed ((compact_identity (arrived.originals message member)).mp same))
    obtain ⟨new,known⟩ := Option.ne_none_iff_exists'.mp found
    have listed : (grading services options messages).compactByOrig.get? message.identity =
        some new := by
      rw [grading_spec]
      exact known
    rw [listed,noted_of_grading services options arrived member listed]

private theorem mem_dropUpdated {updated overflow : List Message} {message : Message} :
    message ∈ dropUpdated updated overflow ↔
      message ∈ updated ∧ (message.id = none ∨ message.id ∉ overflow.map Message.id) := by
  simp [dropUpdated]

/-- The updated messages that have an id are the kept ones that compaction changes. -/
structure Reports (messages : List Message) (result : CompressResult) (keep : Message → Bool) :
    Prop where
  sound : ∀ new ∈ result.updated, new.id ≠ none →
    ∃ message ∈ messages, keep message = true ∧ new = compactRagMessage message
  complete : ∀ message ∈ messages, keep message = true → compactRagMessage message ≠ message →
    message.id ≠ none → message.id ≠ some [] → compactRagMessage message ∈ result.updated

omit [LinearOrder Score] [Zero Score] in
theorem finalize_updated (plan : CompressionPlan) (summary : Text) :
    (finalizeCompression services options plan summary).updated =
      dropUpdated plan.updated (splitKeptByBudget services plan.kept options.tokenBudget summary
        options.alwaysKeepRecent).2 := by
  dsimp only [finalizeCompression]
  split_ifs with nothing
  · simp [dropUpdated,nothing]
  · rfl

private theorem id_apart {messages : List Message} (ids : (messages.map Message.id).Nodup)
    {message : Message} (member : message ∈ messages) {gone : Message → Bool}
    (apart : gone message = false) : message.id ∉ (keptBy messages gone).map Message.id := by
  intro listed
  rw [map_id_keptBy] at listed
  obtain ⟨other,inside,same⟩ := List.mem_map.mp listed
  obtain ⟨there,leaves⟩ := List.mem_filter.mp inside
  rw [List.inj_on_of_nodup_map ids there member same,apart] at leaves
  cases leaves

private theorem id_among {messages : List Message} {message : Message} (member : message ∈ messages)
    {gone : Message → Bool} (leaves : gone message = true) :
    message.id ∈ (keptBy messages gone).map Message.id := by
  rw [map_id_keptBy]
  exact List.mem_map_of_mem (List.mem_filter.mpr ⟨member,leaves⟩)

theorem Stages.reports {messages : List Message} (arrived : Arrived messages) {summary : Text}
    {first second : Message → Bool} (run : Stages services options messages summary first second) :
    Reports messages
      (finalizeCompression services options (planOver services options messages) summary) second := by
  have listed {new : Message} :
      new ∈ (finalizeCompression services options (planOver services options messages)
          summary).updated ↔
        (new ∈ updatedAfterGrading services options messages ∧ (new.id = none ∨ new.id ∉
            (keptBy messages (fun message => keptByGrading services options messages message &&
              !first message)).map Message.id)) ∧
          (new.id = none ∨ new.id ∉
            (keptBy messages (fun message => first message && !second message)).map Message.id) := by
    simp only [finalize_updated,planOver,run.plan,run.final,mem_dropUpdated]
  refine ⟨fun new here known => ?_,fun message member stays changed known _ => ?_⟩
  · obtain ⟨⟨noted,budget⟩,last⟩ := listed.mp here
    obtain ⟨message,member,scored,rfl⟩ := updated_sound services options arrived noted
    rw [compact_id] at known budget last
    have once : first message = true := by
      by_contra dropped
      exact budget.resolve_left known (id_among member (by simp [scored,dropped]))
    have twice : second message = true := by
      by_contra dropped
      exact last.resolve_left known (id_among member (by simp [once,dropped]))
    exact ⟨message,member,twice,rfl⟩
  · have once := run.second_le message stays
    refine listed.mpr ⟨⟨updated_complete services options arrived member
      (run.first_le message once) changed,?_⟩,?_⟩
    · rw [compact_id]
      exact Or.inr (id_apart arrived.ids member (by simp [once]))
    · rw [compact_id]
      exact Or.inr (id_apart arrived.ids member (by simp [stays]))

private theorem applyRagCompact_reports {messages : List Message} (arrived : Arrived messages)
    {result : CompressResult} (same : result.updated = (applyRagCompact messages).2) :
    Reports messages result (fun _ => true) := by
  refine ⟨fun new here _ => ?_,fun message member _ changed known real => ?_⟩
  · rw [same] at here
    obtain ⟨message,inside,rfl⟩ := List.mem_map.mp (List.mem_of_mem_filter here)
    exact ⟨message,List.mem_of_mem_filter inside,rfl,rfl⟩
  · have replaced : (compactRagMessage message).identity ≠ message.identity := fun equal =>
      changed ((compact_identity (arrived.originals message member)).mp equal)
    rw [same]
    refine List.mem_filter.mpr ⟨List.mem_map_of_mem (List.mem_filter.mpr ⟨member,?_⟩),?_⟩
    · exact decide_eq_true replaced
    · simp [known,real]

/-- How a compression divides a window that ends with a person's message, what it reports,
and that the last message stays. -/
theorem compress_reports (summarize : List Message → Text → Text) {existing : List Message}
    {last : Message} (arrived : Arrived (existing ++ [last])) (person : last.kind ≠ .system)
    (recent : 1 ≤ options.alwaysKeepRecent) :
    ∃ keep, keep last = true ∧
      DividesInto (existing ++ [last])
        (compressByImportance services options summarize (existing ++ [last])) keep ∧
      Reports (existing ++ [last])
        (compressByImportance services options summarize (existing ++ [last])) keep := by
  unfold compressByImportance planCompression
  dsimp only
  rw [if_neg (List.append_ne_nil_of_right_ne_nil _ (List.cons_ne_nil _ _))]
  split_ifs with within
  · exact ⟨fun _ => true,rfl,divides_whole rfl rfl,applyRagCompact_reports arrived rfl⟩
  · obtain ⟨first,second,run⟩ := stages services options arrived
      (if (planOver services options (existing ++ [last])).factOverflow = []
        then options.existingSummary
        else summarize (planOver services options (existing ++ [last])).factOverflow
          options.existingSummary)
    exact ⟨second,(run.last_kept services options arrived person recent).2,
      run.divides_into services options arrived,run.reports services options arrived⟩

end

end CustomerService.SummaryFacts
