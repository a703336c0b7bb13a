import CustomerService.IntentRecognition
import CustomerService.OrderAccess

/-! The expansion of a short follow-up with the course of the session, or with the questions before it.
The course path expands twice, before the retrieval and in it: when the second expansion adds nothing. -/
namespace CustomerService.QueryExpansion
open Text SummaryFacts Routing IntentRecognition OrderAccess

/-- `recent_human_texts(messages, exclude_last=True)`: the last one is the query itself. -/
def priorHumanTexts (messages : List Message) : List Text := (recentHumanTexts messages).tail

def spaced (context text : Text) : Text :=
  if text = [] then context else strip (context ++ ' ' :: text)

def expandQuery (query : Text) (messages : List Message)
    (lastCourseQuery lastCourseName : Option Text) : Text :=
  let text := strip query
  if shortFollowupChars ≤ text.length then text
  else
    let courseHint := strip ((either lastCourseName lastCourseQuery).getD [])
    if courseHint ≠ [] then spaced courseHint text
    else
      let priors := priorHumanTexts messages
      if priors = [] then text else spaced (join [' '] (priors.take 2).reverse) text

/-- `query` of `rag_node`. -/
def ragText (courseQuery : Option Text) (query : Text) (history : List Message)
    (lastCourseQuery lastCourseName : Option Text) : Text :=
  expandQuery (orElse courseQuery query) history lastCourseQuery lastCourseName

/-- `expanded` of `_prepare_search_query`, for the query that `rag_node` asks with. -/
def preparedText (courseQuery : Option Text) (query : Text) (history : List Message)
    (lastCourseQuery lastCourseName : Option Text) : Text :=
  expandQuery (ragText courseQuery query history lastCourseQuery lastCourseName) history lastCourseQuery
    lastCourseName

/-- What is put before a short question: the course of the session, or the questions before it. -/
def addition (history : List Message) (lastCourseQuery lastCourseName : Option Text) : Option Text :=
  let courseHint := strip ((either lastCourseName lastCourseQuery).getD [])
  if courseHint ≠ [] then some courseHint
  else
    let priors := priorHumanTexts history
    if priors = [] then none else some (join [' '] (priors.take 2).reverse)

def extend (added : Option Text) (text : Text) : Text :=
  if shortFollowupChars ≤ text.length then text
  else
    match added with
    | none => text
    | some added => spaced added text

theorem expandQuery_eq (query : Text) (history : List Message) (lastCourseQuery lastCourseName : Option Text) :
    expandQuery query history lastCourseQuery lastCourseName =
      extend (addition history lastCourseQuery lastCourseName) (strip query) := by
  unfold expandQuery extend addition
  dsimp only
  split_ifs <;> rfl

/-! Stripping what is put together. -/

private theorem blank_of_strip {text : Text} (none' : strip text = []) : lstrip text = [] := by
  by_contra filled
  obtain ⟨char,rest,found⟩ := List.exists_cons_of_ne_nil filled
  have solid := heads_lstrip text
  rw [strip,List.reverse_eq_nil_iff] at none'
  have blank := List.dropWhile_eq_nil_iff.mp none' char (by rw [found]; simp)
  rw [found,heads,blank] at solid
  cases solid

theorem spaced_blank {added text : Text} (blank : lstrip added = []) (tight : Tight text) (filled : text ≠ []) :
    spaced added text = text := by
  have first : lstrip (added ++ ' '::text) = text := by
    have gap : lstrip (' '::text) = text := lstrip_of_heads tight.1
    unfold lstrip at blank gap ⊢
    rw [List.dropWhile_append,blank]
    exact gap
  rw [spaced,if_neg filled,strip,first,lstrip_of_heads tight.2,List.reverse_reverse]

theorem spaced_solid {added text : Text} (solid : lstrip added ≠ []) (tight : Tight text) (filled : text ≠ []) :
    spaced added text = lstrip added ++ ' '::text := by
  have first : lstrip (added ++ ' '::text) = lstrip added ++ ' '::text := by
    unfold lstrip at solid ⊢
    rw [List.dropWhile_append,if_neg (fun none' => solid (List.isEmpty_iff.mp none'))]
  have last : heads isSpace (lstrip added ++ ' '::text).reverse = false := by
    have ends : text.reverse <+: (lstrip added ++ ' '::text).reverse := by simp
    rw [heads_of_start (by simpa using filled) ends]
    exact tight.2
  rw [spaced,if_neg filled,strip,first,lstrip_of_heads last,List.reverse_reverse]

private theorem tight_spaced {added text : Text} (filled : text ≠ []) :
    Tight (spaced added text) := by
  have unstripped : spaced added text = strip (added ++ ' '::text) := if_neg filled
  rw [unstripped]
  exact tight_strip _

/-- When a second expansion adds nothing: the question is not short, or there is nothing but blanks to add,
or what the first one makes is not short any more. -/
def ExpandsOnce (added : Option Text) (text : Text) : Prop :=
  shortFollowupChars ≤ text.length ∨ ∀ context ∈ added,
    lstrip context = [] ∨
      (text ≠ [] ∧ shortFollowupChars ≤ (lstrip context).length + 1 + text.length) ∨
      (text = [] ∧ Tight context ∧ shortFollowupChars ≤ context.length)

private theorem extend_long {added : Option Text} {text : Text} (long : shortFollowupChars ≤ text.length) :
    extend added text = text := if_pos long

private theorem extend_short {context text : Text} (short : ¬shortFollowupChars ≤ text.length) :
    extend (some context) text = spaced context text := if_neg short

theorem spaced_ne {context text : Text} (solid : lstrip context ≠ []) (tight : Tight text) (filled : text ≠ []) :
    spaced context text ≠ text := by
  intro same
  have size := congrArg List.length same
  rw [spaced_solid solid tight filled,List.length_append,List.length_cons] at size
  omega

private theorem extend_question {context text : Text} (solid : lstrip context ≠ []) (tight : Tight text)
    (filled : text ≠ []) :
    extend (some context) (strip (spaced context text)) = spaced context text ↔
      shortFollowupChars ≤ (lstrip context).length + 1 + text.length := by
  have whole : Tight (spaced context text) := tight_spaced filled
  have size : (spaced context text).length = (lstrip context).length + 1 + text.length := by
    rw [spaced_solid solid tight filled,List.length_append,List.length_cons]
    omega
  have some' : spaced context text ≠ [] := by
    rw [spaced_solid solid tight filled]
    simp
  rw [strip_of_tight whole,← size]
  by_cases long : shortFollowupChars ≤ (spaced context text).length
  · exact iff_of_true (extend_long long) long
  · rw [extend_short long]
    exact iff_of_false (spaced_ne solid whole some') long

private theorem extend_nothing {context : Text} (solid : lstrip context ≠ []) :
    extend (some context) (strip context) = context ↔
      Tight context ∧ shortFollowupChars ≤ context.length := by
  have filled : strip context ≠ [] := fun none' => solid (blank_of_strip none')
  constructor
  · intro same
    by_cases long : shortFollowupChars ≤ (strip context).length
    · rw [extend_long long] at same
      have tight := tight_strip context
      rw [same] at tight long
      exact ⟨tight,long⟩
    · rw [extend_short long] at same
      -- the expansion starts with no blank, so nothing was stripped from the context, and it got longer
      have start : lstrip context = context := by
        have tight : Tight (spaced context (strip context)) := tight_spaced filled
        rw [same] at tight
        exact lstrip_of_heads tight.1
      have size := congrArg List.length same
      rw [spaced_solid solid (tight_strip context) filled,start,List.length_append,List.length_cons] at size
      omega
  · intro holds
    rw [strip_of_tight holds.1]
    exact extend_long holds.2

private theorem extend_extend_iff (added : Option Text) {text : Text} (tight : Tight text) :
    extend added (strip (extend added text)) = extend added text ↔ ExpandsOnce added text := by
  by_cases long : shortFollowupChars ≤ text.length
  · rw [extend_long long,strip_of_tight tight]
    exact iff_of_true (extend_long long) (Or.inl long)
  · rw [ExpandsOnce,or_iff_right long]
    cases added with
    | none =>
      refine iff_of_true ?_ (fun _ found => nomatch found)
      have plain : extend none text = text := if_neg long
      rw [plain,strip_of_tight tight,plain]
    | some context =>
      simp only [Option.mem_def,Option.some.injEq,forall_eq']
      rw [extend_short long]
      by_cases blank : lstrip context = []
      · refine iff_of_true ?_ (Or.inl blank)
        by_cases filled : text = []
        · subst filled
          have none' : strip context = [] := by rw [strip,blank]; rfl
          have whole : spaced context [] = context := if_pos rfl
          rw [whole,none',extend_short long,whole]
        · rw [spaced_blank blank tight filled,strip_of_tight tight,extend_short long,
            spaced_blank blank tight filled]
      · rw [or_iff_right blank]
        by_cases filled : text = []
        · subst filled
          have whole : spaced context [] = context := if_pos rfl
          rw [whole,extend_nothing blank]
          simp
        · rw [extend_question blank tight filled]
          simp [filled]

/-- The text of the course path after both expansions is that of one, exactly when the second adds nothing. -/
theorem expansion_stable_iff (courseQuery : Option Text) (query : Text) (history : List Message)
    (lastCourseQuery lastCourseName : Option Text) :
    preparedText courseQuery query history lastCourseQuery lastCourseName =
        ragText courseQuery query history lastCourseQuery lastCourseName ↔
      ExpandsOnce (addition history lastCourseQuery lastCourseName) (strip (orElse courseQuery query)) := by
  rw [preparedText,ragText,expandQuery_eq,expandQuery_eq]
  exact extend_extend_iff _ (tight_strip _)

/-- A short name before a short question is added twice. -/
theorem short_course_added_twice :
    let name := ['A','I','课']
    let question := ['难','吗']
    preparedText none question [] none (some name) = name ++ ' '::(name ++ ' '::question) ∧
      preparedText none question [] none (some name) ≠ ragText none question [] none (some name) := by
  decide

end CustomerService.QueryExpansion
