import CustomerService.ClippedReading
import CustomerService.LlmSummary

/-! Every summary that is rendered with a limit keeps it. -/
namespace CustomerService.SummaryFacts

open Text StructuredSummary

private theorem length_render (summary : StructuredSummary) (bound : Int) :
    (summary.render (some bound)).length ≤ resolveMaxChars bound := by
  obtain ⟨smaller,_,⟨short,text⟩ | ⟨_,text⟩⟩ := shrink_cases (resolveMaxChars bound) (le_refl summary.entries)
  · rw [render,text]
    exact short
  · rw [render,text,Recency.length_rtake]
    exact Nat.min_le_left _ _

private theorem infix_join {separator fact : Text} {parts : List Text} (member : fact ∈ parts) :
    fact <:+: join separator parts := by
  obtain ⟨before,after,rfl⟩ := List.append_of_mem member
  cases before with
  | nil =>
    rw [List.nil_append,join_cons]
    exact (List.prefix_append _ _).isInfix
  | cons first rest =>
    rw [List.cons_append,join_cons,List.flatMap_append,List.flatMap_cons]
    refine ⟨first ++ rest.flatMap (fun other => separator ++ other) ++ separator,
      after.flatMap (fun other => separator ++ other),?_⟩
    simp

private theorem infix_lines {summary : StructuredSummary} {facts : List Text} {key : String}
    (rows : listRow key facts ⊆ summary.rows) {fact : Text} (member : fact ∈ facts) :
    fact <:+: summary.lines := by
  have row : key.toList ++ '：'::join ['；'] facts ∈ listRow key facts := by
    rw [listRow,if_neg (List.ne_nil_of_mem member)]
    exact List.mem_singleton_self _
  have inner : fact <:+: key.toList ++ '：'::join ['；'] facts :=
    (infix_join member).trans ((List.suffix_cons _ _).trans (List.suffix_append _ _)).isInfix
  exact inner.trans (infix_join (rows row))

def newestEntries (summary : StructuredSummary) : List Text :=
  summary.orders.rtake 1 ++ summary.courses.rtake 1 ++ summary.confirmed.rtake 1 ++
    summary.pending.rtake 1

private theorem newest_within {summary smaller : StructuredSummary} (order : ClippedInOrder summary smaller) :
    ∀ fact ∈ newestEntries summary, fact <:+: smaller.lines := by
  have inside {whole part : List Text} (same : part.rtake 1 = whole.rtake 1) {fact : Text}
      (member : fact ∈ whole.rtake 1) : fact ∈ part := by
    rw [← same] at member
    exact List.mem_of_mem_drop member
  have same := order.newest
  intro fact member
  simp only [newestEntries,List.mem_append] at member
  obtain ((here | here) | here) | here := member
  · refine @infix_lines _ _ "订单" (fun line listed => ?_) _ (inside (congrArg (·.orders) same) here)
    simp [rows,listed]
  · refine @infix_lines _ _ "课程" (fun line listed => ?_) _ (inside (congrArg (·.courses) same) here)
    simp [rows,listed]
  · refine @infix_lines _ _ "已确认" (fun line listed => ?_) _ (inside (congrArg (·.confirmed) same) here)
    simp [rows,listed]
  · refine @infix_lines _ _ "未决" (fun line listed => ?_) _ (inside (congrArg (·.pending) same) here)
    simp [rows,listed]

/-! The producers. -/

variable (bound : Int) (slots : Option SessionSlots)

private theorem length_finalize (summary : StructuredSummary) :
    (finalizeStructured summary slots (some bound)).length ≤ resolveMaxChars bound := by
  unfold finalizeStructured
  dsimp only
  split_ifs
  · exact length_render _ bound
  · exact Nat.zero_le _

private theorem prepare_cases (messages : List Message) (existing : Text) (maxChars : Option Int) :
    (∃ summary, prepareLlmSummary messages existing maxChars slots =
      .done (finalizeStructured summary slots maxChars)) ∨
    ∃ userBlock, prepareLlmSummary messages existing maxChars slots =
      .invoke (parse (some existing)) (extractSummaryFacts messages slots) userBlock := by
  unfold prepareLlmSummary
  by_cases nothing : messages = []
  · exact .inl ⟨_,if_pos nothing⟩
  · by_cases skipped : shouldInvokeLlmSummary messages (parse (some existing))
        (extractSummaryFacts messages slots) = false
    · exact .inl ⟨_,(if_neg nothing).trans (if_pos skipped)⟩
    · by_cases silent : promptLines messages = []
      · exact .inl ⟨_,(if_neg nothing).trans ((if_neg skipped).trans (if_pos silent))⟩
      · exact .inr ⟨_,(if_neg nothing).trans ((if_neg skipped).trans (if_neg silent))⟩

private theorem length_merge (summaryText : Text) (existing delta : StructuredSummary) (existingSummary : Text)
    (messages : List Message) : (mergeLlmSummaryText summaryText existing delta existingSummary messages
      (some bound) slots).length ≤ resolveMaxChars bound := by
  unfold mergeLlmSummaryText
  dsimp only
  split_ifs
  · exact length_finalize bound slots _
  · exact length_finalize bound slots _
  · exact length_finalize bound slots _

private theorem length_llm (chat : Text → Option Text) (messages : List Message) (existing : Text) :
    (llmBatchSummarize chat messages existing (some bound) slots).length ≤ resolveMaxChars bound := by
  unfold llmBatchSummarize
  obtain ⟨summary,same⟩ | ⟨userBlock,same⟩ := prepare_cases slots messages existing (some bound)
  · rw [same]
    exact length_finalize bound slots _
  · rw [same]
    dsimp only
    cases chat userBlock with
    | none => exact length_finalize bound slots _
    | some response => exact length_merge bound slots _ _ _ _ _

variable {Score : Type*} [LinearOrder Score] [Zero Score] (services : Services Score) (options : Options Score)

private theorem length_compressed (summarize : List Message → Text → Text) (messages : List Message) :
    (compressByImportance services { options with maxSummaryChars := some bound } summarize
      messages).summary.length ≤ resolveMaxChars bound := by
  unfold compressByImportance planCompression
  dsimp only
  split_ifs
  · exact length_finalize bound _ _
  · exact length_finalize bound _ _
  · exact length_finalize bound _ _

def Within (text : Text) : Prop := (text.length : Int) ≤ max 80 bound

private theorem within_iff (text : Text) : Within bound text ↔ text.length ≤ resolveMaxChars bound := by
  unfold Within resolveMaxChars
  omega

/-- The loop of `render` ends, its result is within the limit, the newest entries stay in it when they
fit, and so do the summaries of every producer. -/
theorem rendering_within_limit (summary : StructuredSummary) :
    (∃! text, Loop (resolveMaxChars bound) summary text) ∧
      Loop (resolveMaxChars bound) summary (summary.render (some bound)) ∧
      Within bound (summary.render (some bound)) ∧
      (Within bound (newest summary).lines → ∃ smaller, ClippedInOrder summary smaller ∧
        summary.render (some bound) = smaller.lines ∧
        ∀ fact ∈ newestEntries summary, fact <:+: summary.render (some bound)) ∧
      (∀ existing overflow slots, Within bound (foldSessionSummary existing overflow (some bound) slots)) ∧
      (∀ summaryText existing delta existingSummary messages slots, Within bound (mergeLlmSummaryText
        summaryText existing delta existingSummary messages (some bound) slots)) ∧
      (∀ chat messages existing slots,
        Within bound (llmBatchSummarize chat messages existing (some bound) slots)) ∧
      (∀ plan text, Within bound
        (finalizeCompression services { options with maxSummaryChars := some bound } plan text).summary) ∧
      ∀ summarize messages, Within bound (compressByImportance services
        { options with maxSummaryChars := some bound } summarize messages).summary := by
  have run : Loop (resolveMaxChars bound) summary (summary.render (some bound)) :=
    loop_shrink _ (le_refl summary.entries)
  simp only [within_iff]
  refine ⟨⟨_,run,fun other also => also.unique run⟩,run,length_render summary bound,fun fits => ?_,
    fun _ _ slots => length_finalize bound slots _,fun _ _ _ _ _ slots => length_merge bound slots _ _ _ _ _,
    fun chat messages existing slots => length_llm bound slots chat messages existing,
    fun _ _ => length_finalize bound _ _,length_compressed bound services options⟩
  obtain ⟨smaller,order,⟨_,text⟩ | ⟨long,_⟩⟩ := run.ends (ClippedInOrder.refl summary)
  · rw [text]
    exact ⟨smaller,order,rfl,newest_within order⟩
  · omega

end CustomerService.SummaryFacts
