import CustomerService.CompressionConserves

/-! The budget of a compression. The messages that are kept fit it together with the summary that the
last cut deducts; what that cut drops is folded into the summary afterwards, and the summary that is
returned is rendered once more. -/
namespace CustomerService.SummaryFacts

section
variable {Score : Type*} (services : Services Score)

/-- Turns from the newest on, within their budget, or only one of them, or not enough without the
oldest. -/
def SelectionFits (restBudget minKeep : Int) (selected : List (List Placed)) : Prop :=
  selected.length ≤ 1 ∨ totalTokens services (selected.flatten.map Prod.snd) ≤ restBudget ∨
    (selected.dropLast.flatten.length : Int) < minKeep

/-- The messages fit with the line of the summary, or they are one turn at most, or too few without the
oldest turn. -/
def WithinBudget (tokenBudget alwaysKeepRecent : Int) (kept : List Message) (summary : Text) : Prop :=
  totalTokens services kept + promptSummaryTokens services summary ≤ tokenBudget ∨
    (Turns.turns Message.kind kept).length ≤ 1 ∨
    ((Turns.turns Message.kind kept).tail.flatten.length : Int) <
      min alwaysKeepRecent (kept.filter (fun message => message.kind ≠ .system)).length

instance (tokenBudget alwaysKeepRecent : Int) (kept : List Message) (summary : Text) :
    Decidable (WithinBudget services tokenBudget alwaysKeepRecent kept summary) :=
  inferInstanceAs (Decidable (_ ∨ _ ∨ _))

private theorem totalTokens_append (first second : List Message) :
    totalTokens services (first ++ second) = totalTokens services first + totalTokens services second := by
  simp [totalTokens]

private theorem totalTokens_reverse (turns : List (List Message)) :
    totalTokens services turns.reverse.flatten = totalTokens services turns.flatten := by
  induction turns with
  | nil => rfl
  | cons turn later ih =>
    rw [List.reverse_cons,List.flatten_append,List.flatten_singleton,List.flatten_cons,totalTokens_append,
      totalTokens_append,ih,add_comm]

private theorem selectTurns_fits {restBudget minKeep : Int} {selected : List (List Placed)} {total : Int}
    (remaining : List (List Placed)) (fits : SelectionFits services restBudget minKeep selected)
    (same : total = totalTokens services (selected.flatten.map Prod.snd)) :
    SelectionFits services restBudget minKeep
      (selectTurns services restBudget minKeep selected total remaining).1 := by
  induction remaining generalizing selected total with
  | nil => exact fits
  | cons turn earlier ih =>
    unfold selectTurns
    dsimp only
    split_ifs with stops
    · exact fits
    · have cost : total + totalTokens services (turn.map Prod.snd) =
          totalTokens services ((selected ++ [turn]).flatten.map Prod.snd) := by
        rw [same,List.flatten_append,List.flatten_singleton,List.map_append,totalTokens_append]
      refine ih ?_ cost
      by_cases nothing : selected = []
      · exact .inl (by simp [nothing])
      · by_cases beyond : restBudget < total + totalTokens services (turn.map Prod.snd)
        · refine .inr (.inr ?_)
          rw [List.dropLast_concat]
          by_contra enough
          exact stops ⟨nothing,beyond,not_lt.mp enough⟩
        · exact .inr (.inl (cost ▸ not_lt.mp beyond))

variable (counts : ∀ text, 0 ≤ services.countTokens text)
include counts

private theorem totalTokens_nonneg (messages : List Message) : 0 ≤ totalTokens services messages := by
  induction messages with
  | nil => exact le_rfl
  | cons message rest ih =>
    have here := counts message.text
    change 0 ≤ messageTokenCount services message + totalTokens services rest
    unfold messageTokenCount
    omega

private theorem totalTokens_some {messages : List Message} (some' : messages ≠ []) :
    4 ≤ totalTokens services messages := by
  obtain ⟨message,rest,rfl⟩ := List.exists_cons_of_ne_nil some'
  have here := counts message.text
  have later := totalTokens_nonneg services counts rest
  change 4 ≤ messageTokenCount services message + totalTokens services rest
  unfold messageTokenCount
  omega

omit counts in
theorem totalTokens_split (messages : List Message) : totalTokens services messages =
    totalTokens services (messages.filter (fun message => message.kind = .system)) +
      totalTokens services (messages.filter (fun message => message.kind ≠ .system)) := by
  induction messages with
  | nil => rfl
  | cons message rest ih =>
    have total (rest : List Message) : totalTokens services (message::rest) =
        messageTokenCount services message + totalTokens services rest := rfl
    by_cases system : message.kind = .system
    · rw [List.filter_cons_of_pos (by simpa using system),List.filter_cons_of_neg (by simpa using system),
        total,total,ih,add_assoc]
    · rw [List.filter_cons_of_neg (by simpa using system),List.filter_cons_of_pos (by simpa using system),
        total,total,ih,add_left_comm]

/-- The turns that the last cut leaves, newest first, under the messages pinned before them. -/
structure TurnsLeft (kept left : List Message) (chosen : List (List Placed)) : Prop where
  persons : (chosen.map (List.map Prod.snd)).reverse.flatten =
    left.filter (fun message => message.kind ≠ .system)
  turns : Turns.turns Message.kind left = (chosen.map (List.map Prod.snd)).reverse
  systems : left.filter (fun message => message.kind = .system) =
    kept.filter (fun message => message.kind = .system)
  nonempty : ∀ turn ∈ chosen, turn.map Prod.snd ≠ []

omit counts in
theorem split_turns {kept : List Message} (distinct : (kept.map Message.identity).Nodup)
    (some' : kept ≠ []) (tokenBudget : Int) (summary : Text) (alwaysKeepRecent : Int) : ∃ chosen,
    TurnsLeft kept (splitKeptByBudget services kept tokenBudget summary alwaysKeepRecent).1 chosen ∧
    SelectionFits services
      (max 1 (max 1 (tokenBudget - promptSummaryTokens services summary) -
        totalTokens services (kept.filter (fun message => message.kind = .system))))
      (min (max 1 alwaysKeepRecent) (max 1 ((kept.length : Int) -
        (kept.filter (fun message => message.kind = .system)).length))) chosen := by
  obtain ⟨chosen,keep,run,parts,dropped,split⟩ := split_chosen services distinct some' tokenBudget
    summary alwaysKeepRecent
  generalize splitKeptByBudget services kept tokenBudget summary alwaysKeepRecent = done
    at dropped split ⊢
  have persons : (chosen.1.map (List.map Prod.snd)).reverse.flatten =
      done.1.filter (fun message => message.kind ≠ .system) := by
    have whole := split.oldest
    rw [← Turns.flatten_turns,parts,List.flatten_append,dropped] at whole
    exact List.append_cancel_left whole
  have gone : ∀ message ∈ (chosen.2.map (List.map Prod.snd)).flatten, keep message = false := by
    intro message member
    rw [← dropped,split.leaves] at member
    simpa using (List.mem_filter.mp member).2
  have stays : ∀ message ∈ (chosen.1.map (List.map Prod.snd)).reverse.flatten, keep message = true := by
    intro message member
    rw [persons,split.stays] at member
    exact (List.mem_filter.mp (List.mem_of_mem_filter member)).2
  refine ⟨chosen.1,⟨persons,?_,?_,?_⟩,?_⟩
  · rw [split.stays]
    exact Turns.turns_of_tail split.systems parts gone stays
  · rw [split.stays,List.filter_comm]
    exact List.filter_eq_self.mpr (fun message member =>
      split.systems message (List.mem_of_mem_filter member) (by simpa using (List.mem_filter.mp member).2))
  · intro turn listed
    refine @Turns.turn_nonempty _ Message.kind kept _ ?_
    rw [parts]
    exact List.mem_append_right _ (List.mem_reverse.mpr (List.mem_map_of_mem listed))
  · rw [run]
    exact selectTurns_fits services _ (.inl (Nat.zero_le 1)) rfl

theorem TurnsLeft.fit {kept left : List Message} {chosen : List (List Placed)}
    (turnsLeft : TurnsLeft kept left chosen) (several : 1 < chosen.length) {tokenBudget spent : Int}
    (cost : totalTokens services (chosen.flatten.map Prod.snd) ≤ max 1 (max 1 (tokenBudget - spent) -
      totalTokens services (kept.filter (fun message => message.kind = .system)))) :
    totalTokens services left + spent ≤ tokenBudget := by
  obtain ⟨first,rest,rfl⟩ := List.exists_cons_of_length_pos (Nat.zero_lt_of_lt several)
  have some' : left.filter (fun message => message.kind ≠ .system) ≠ [] := by
    rw [← turnsLeft.persons]
    exact List.flatten_ne_nil_iff.mpr ⟨first.map Prod.snd,by simp,turnsLeft.nonempty first List.mem_cons_self⟩
  have paid := totalTokens_some services counts some'
  have pinned := totalTokens_nonneg services counts
    (kept.filter (fun message => message.kind = .system))
  rw [List.map_flatten,← totalTokens_reverse,turnsLeft.persons] at cost
  rw [totalTokens_split,turnsLeft.systems]
  omega

omit counts in
theorem TurnsLeft.short {kept left : List Message} {chosen : List (List Placed)}
    (turnsLeft : TurnsLeft kept left chosen) (several : 1 < chosen.length) {alwaysKeepRecent bound : Int}
    (few : (chosen.dropLast.flatten.length : Int) < min (max 1 alwaysKeepRecent) bound) :
    ((Turns.turns Message.kind left).tail.flatten.length : Int) <
      min alwaysKeepRecent (left.filter (fun message => message.kind ≠ .system)).length := by
  have some' {turn : List Placed} (listed : turn ∈ chosen) : 0 < turn.length :=
    List.length_pos_of_ne_nil (mt List.map_eq_nil_iff.mpr (turnsLeft.nonempty turn listed))
  have size (turns : List (List Placed)) :
      (turns.map (List.map Prod.snd)).reverse.flatten.length = turns.flatten.length := by
    simp [List.length_flatten,Function.comp_def]
  rw [← turnsLeft.persons,turnsLeft.turns,List.tail_reverse,← List.map_dropLast,size,size]
  have nonempty : chosen ≠ [] := List.ne_nil_of_length_pos (Nat.zero_lt_of_lt several)
  have oldest : chosen.flatten.length =
      chosen.dropLast.flatten.length + (chosen.getLast nonempty).length := by
    conv_lhs => rw [← List.dropLast_append_getLast nonempty]
    simp
  have last := some' (List.getLast_mem nonempty)
  have newest : 0 < chosen.dropLast.flatten.length := by
    obtain ⟨first,rest,rfl⟩ := List.exists_cons_of_ne_nil nonempty
    obtain ⟨second,later,rfl⟩ := List.exists_cons_of_length_pos (Nat.lt_of_succ_lt_succ several)
    have first' := some' (List.mem_cons_self (a := first))
    rw [List.dropLast_cons_cons,List.flatten_cons,List.length_append]
    omega
  omega

private theorem split_within {kept : List Message} (distinct : (kept.map Message.identity).Nodup)
    (tokenBudget : Int) (summary : Text) (alwaysKeepRecent : Int) :
    WithinBudget services tokenBudget alwaysKeepRecent
      (splitKeptByBudget services kept tokenBudget summary alwaysKeepRecent).1 summary := by
  by_cases nothing : kept = []
  · subst nothing
    exact .inr (.inl (Nat.zero_le 1))
  obtain ⟨chosen,turnsLeft,fits⟩ := split_turns services distinct nothing tokenBudget summary
    alwaysKeepRecent
  by_cases few : chosen.length ≤ 1
  · refine .inr (.inl ?_)
    rw [turnsLeft.turns,List.length_reverse,List.length_map]
    exact few
  have several := not_le.mp few
  obtain few' | cost | short := fits
  · exact absurd few' few
  · exact .inl (turnsLeft.fit services counts several cost)
  · exact .inr (.inr (turnsLeft.short several short))

variable [LinearOrder Score] [Zero Score] (options : Options Score)

def deductedSummary (summarize : List Message → Text → Text) (messages : List Message) : Text :=
  match planCompression services options messages with
  | .inl _ => options.existingSummary
  | .inr plan =>
    if plan.factOverflow = [] then options.existingSummary
    else summarize plan.factOverflow options.existingSummary

def droppedLast (summarize : List Message → Text → Text) (messages : List Message) : List Message :=
  match planCompression services options messages with
  | .inl _ => []
  | .inr plan =>
    (splitKeptByBudget services plan.kept options.tokenBudget
      (deductedSummary services options summarize messages) options.alwaysKeepRecent).2

/-- The summary that the last cut deducts, with what this cut drops. -/
def lastSummary (summarize : List Message → Text → Text) (messages : List Message) : Text :=
  if droppedLast services options summarize messages = [] then
    deductedSummary services options summarize messages
  else
    foldSessionSummary (some (deductedSummary services options summarize messages))
      (droppedLast services options summarize messages) options.maxSummaryChars options.slots

omit counts in
theorem summary_returned (summarize : List Message → Text → Text) (messages : List Message) :
    (compressByImportance services options summarize messages).summary =
      finalizeSummary (some (lastSummary services options summarize messages)) options.slots
        options.maxSummaryChars := by
  unfold compressByImportance lastSummary droppedLast deductedSummary
  cases planned : planCompression services options messages with
  | inr plan => rfl
  | inl result =>
    have early : result.summary = finalizeSummary (some options.existingSummary) options.slots
        options.maxSummaryChars := by
      unfold planCompression at planned
      dsimp only at planned
      split_ifs at planned
      · obtain rfl := Sum.inl.inj planned
        rfl
      · obtain rfl := Sum.inl.inj planned
        rfl
    exact early

omit counts [LinearOrder Score] [Zero Score] in
theorem WithinBudget.smaller {tokenBudget alwaysKeepRecent : Int} {kept : List Message}
    {deducted summary : Text} (within : WithinBudget services tokenBudget alwaysKeepRecent kept deducted)
    (smaller : promptSummaryTokens services summary ≤ promptSummaryTokens services deducted) :
    WithinBudget services tokenBudget alwaysKeepRecent kept summary :=
  within.imp_left (fun cost => (Int.add_le_add_left smaller _).trans cost)

/-- Messages that fit as they were given, or what the last cut has left of them. The summary that is
returned keeps the budget too when it takes no more of it than the one that was deducted. -/
theorem budget_at_last_cut (summarize : List Message → Text → Text) {messages : List Message}
    (refs : (messages.map Message.ref).Nodup) (originals : ∀ message ∈ messages, message.copy = false) :
    let result := compressByImportance services options summarize messages
    let deducted := deductedSummary services options summarize messages
    result.summary = finalizeSummary (some (lastSummary services options summarize messages))
        options.slots options.maxSummaryChars ∧
      ((result.kept = messages.map compactRagMessage ∧
        totalTokens services messages + promptSummaryTokens services deducted ≤ options.tokenBudget ∧
        (totalTokens services result.kept ≤ totalTokens services messages →
          promptSummaryTokens services result.summary ≤ promptSummaryTokens services deducted →
            totalTokens services result.kept + promptSummaryTokens services result.summary ≤
              options.tokenBudget)) ∨
      WithinBudget services options.tokenBudget options.alwaysKeepRecent result.kept deducted ∧
        (promptSummaryTokens services result.summary ≤ promptSummaryTokens services deducted →
          WithinBudget services options.tokenBudget options.alwaysKeepRecent result.kept result.summary)) := by
  have each : Objects messages :=
    ⟨originals,fun _ here _ there same => List.inj_on_of_nodup_map refs here there same⟩
  have cut : ((compressByImportance services options summarize messages).kept =
        messages.map compactRagMessage ∧
      totalTokens services messages + promptSummaryTokens services
        (deductedSummary services options summarize messages) ≤ options.tokenBudget) ∨
      WithinBudget services options.tokenBudget options.alwaysKeepRecent
        (compressByImportance services options summarize messages).kept
        (deductedSummary services options summarize messages) := by
    unfold compressByImportance deductedSummary planCompression
    dsimp only
    split_ifs with nothing fits
    · exact .inr (.inr (.inl (Nat.zero_le 1)))
    · exact .inl ⟨rfl,fits.1⟩
    · have graded := kept_after_grading services options each
      have distinct : ((keptAfterGrading services options messages).map Message.identity).Nodup := by
        rw [graded]
        exact nodup_identity (refs_keptBy refs _)
      obtain ⟨keep,split⟩ := split_spec services distinct options.tokenBudget options.existingSummary
        options.alwaysKeepRecent
      have planned : ((planOver services options messages).kept.map Message.identity).Nodup := by
        change ((splitKeptByBudget services _ _ _ _).1.map Message.identity).Nodup
        rw [split.stays]
        exact distinct.sublist (List.filter_sublist.map _)
      exact .inr (split_within services counts planned options.tokenBudget _ options.alwaysKeepRecent)
  refine ⟨summary_returned services options summarize messages,cut.imp ?_ ?_⟩
  · rintro ⟨kept,cost⟩
    exact ⟨kept,cost,fun compacted smaller => (Int.add_le_add compacted smaller).trans cost⟩
  · exact fun within => ⟨within,fun smaller => within.smaller services smaller⟩

end

/-- A turn goes into the summary by its score, and the last cut takes another one. -/
theorem budget_at_last_cut_four_turns :
    let messages := [spoken .ai 0 "退款",spoken .ai 1 "物流",spoken .ai 2 "c",spoken .ai 3 "d"]
    let options : Options Int := ⟨33,none,1,3,6,3,[],none⟩
    let services := tableServices [0,9,9,9]
    let result := compressByImportance services options (ruleSummarize options) messages
    let deducted := deductedSummary services options (ruleSummarize options) messages
    result.summary = finalizeSummary (some (lastSummary services options (ruleSummarize options) messages))
        options.slots options.maxSummaryChars ∧
      ((result.kept = messages.map compactRagMessage ∧
        totalTokens services messages + promptSummaryTokens services deducted ≤ options.tokenBudget ∧
        (totalTokens services result.kept ≤ totalTokens services messages →
          promptSummaryTokens services result.summary ≤ promptSummaryTokens services deducted →
            totalTokens services result.kept + promptSummaryTokens services result.summary ≤
              options.tokenBudget)) ∨
      WithinBudget services options.tokenBudget options.alwaysKeepRecent result.kept deducted ∧
        (promptSummaryTokens services result.summary ≤ promptSummaryTokens services deducted →
          WithinBudget services options.tokenBudget options.alwaysKeepRecent result.kept result.summary)) :=
  budget_at_last_cut _ (fun text => Int.natCast_nonneg text.length) _ _ (by decide) (by decide)

def ReturnsWithin (services : Services Int) (options : Options Int) (messages : List Message) : Prop :=
  let result := compressByImportance services options (ruleSummarize options) messages
  WithinBudget services options.tokenBudget options.alwaysKeepRecent result.kept result.summary

instance (services : Services Int) (options : Options Int) (messages : List Message) :
    Decidable (ReturnsWithin services options messages) := inferInstanceAs (Decidable (WithinBudget ..))

def outline : Message :=
  { spoken .ai 0 "" with text := "## A\n### 课程模块\n".toList ++ List.replicate 400 'x' }

/-- The last cut folds what it drops into the summary; the final rendering adds a label; an object that is
listed twice stays twice; a counter may charge more for less text. -/
theorem budget_missed_by_summary :
    ¬ReturnsWithin (tableServices [0,9,9,9]) ⟨33,none,1,3,6,3,[],none⟩
        [spoken .ai 0 "退款",spoken .ai 1 "物流",spoken .ai 2 "c",spoken .ai 3 "d"] ∧
      ¬ReturnsWithin (tableServices [9,9]) ⟨20,none,1,3,6,3,"abc".toList,none⟩
        [spoken .ai 0 "c",spoken .ai 1 "d"] ∧
      ¬ReturnsWithin (tableServices [9,9]) ⟨1,none,1,3,6,0,[],none⟩
        [spoken .ai 0 "c",spoken .human 1 "d",spoken .ai 0 "c"] ∧
      ¬ReturnsWithin ⟨fun _ _ => 0,fun text => if text.length < 400 then 1 else 0⟩
        ⟨8,none,1,3,6,3,[],none⟩ [outline,{ outline with ref := 1 }] := by
  refine ⟨?_,?_,?_,?_⟩
  · decide +kernel
  · decide +kernel
  · decide +kernel
  · decide +kernel

end CustomerService.SummaryFacts
