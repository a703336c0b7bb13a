import CustomerService.SummaryFormat

/-! Rendering within a limit: entries are dropped oldest first, and the text is cut only
when the newest entry of every list does not fit. -/
namespace CustomerService.SummaryFacts

open Text StructuredSummary

def newest (summary : StructuredSummary) : StructuredSummary where
  orders := summary.orders.rtake 1
  courses := summary.courses.rtake 1
  intent := summary.intent
  confirmed := summary.confirmed.rtake 1
  pending := summary.pending.rtake 1

/-- The newest entries fit, so that the text is not cut inside an entry. -/
def Uncut (summary : StructuredSummary) (maxChars : Option Int) : Prop :=
  ∀ bound ∈ maxChars, (newest summary).lines.length ≤ resolveMaxChars bound

structure Clipped (summary smaller : StructuredSummary) : Prop where
  orders : smaller.orders <:+ summary.orders
  courses : smaller.courses <:+ summary.courses
  intent : smaller.intent = summary.intent
  confirmed : smaller.confirmed <:+ summary.confirmed
  pending : smaller.pending <:+ summary.pending

theorem Clipped.refl (summary : StructuredSummary) : Clipped summary summary :=
  ⟨List.suffix_refl _,List.suffix_refl _,rfl,List.suffix_refl _,List.suffix_refl _⟩

theorem Clipped.trans {summary smaller smallest : StructuredSummary} (one : Clipped summary smaller)
    (two : Clipped smaller smallest) : Clipped summary smallest :=
  ⟨two.orders.trans one.orders,two.courses.trans one.courses,two.intent.trans one.intent,
    two.confirmed.trans one.confirmed,two.pending.trans one.pending⟩

theorem clipped_newest (summary : StructuredSummary) : Clipped summary (newest summary) :=
  ⟨List.drop_suffix _ _,List.drop_suffix _ _,rfl,List.drop_suffix _ _,List.drop_suffix _ _⟩

theorem rtake_one_tail {facts : List Text} (two : 1 < facts.length) :
    facts.tail.rtake 1 = facts.rtake 1 := by
  cases facts with
  | nil => cases two
  | cons first rest =>
    have long : 1 ≤ rest.length := Nat.lt_succ_iff.mp two
    exact (@Recency.rtake_append_of_le _ [first] _ _ long).symm

private theorem shrinkStep_some {summary smaller : StructuredSummary}
    (step : summary.shrinkStep = some smaller) :
    Clipped summary smaller ∧ newest smaller = newest summary ∧
      smaller.entries + 1 = summary.entries := by
  have whole := Clipped.refl summary
  unfold shrinkStep at step
  split_ifs at step with confirmed pending orders courses
  · obtain rfl := Option.some.inj step
    refine ⟨{ whole with confirmed := List.tail_suffix _ },?_,?_⟩
    · simp only [newest,rtake_one_tail confirmed]
    · simp only [entries,List.length_tail]
      omega
  · obtain rfl := Option.some.inj step
    refine ⟨{ whole with pending := List.tail_suffix _ },?_,?_⟩
    · simp only [newest,rtake_one_tail pending]
    · simp only [entries,List.length_tail]
      omega
  · obtain rfl := Option.some.inj step
    refine ⟨{ whole with orders := List.tail_suffix _ },?_,?_⟩
    · simp only [newest,rtake_one_tail orders]
    · simp only [entries,List.length_tail]
      omega
  · obtain rfl := Option.some.inj step
    refine ⟨{ whole with courses := List.tail_suffix _ },?_,?_⟩
    · simp only [newest,rtake_one_tail courses]
    · simp only [entries,List.length_tail]
      omega

private theorem newest_of_short {summary : StructuredSummary} (orders : summary.orders.length ≤ 1)
    (courses : summary.courses.length ≤ 1) (confirmed : summary.confirmed.length ≤ 1)
    (pending : summary.pending.length ≤ 1) : newest summary = summary := by
  simp only [newest,Recency.rtake_eq_self orders,Recency.rtake_eq_self courses,
    Recency.rtake_eq_self confirmed,Recency.rtake_eq_self pending]

private theorem shrinkStep_none {summary : StructuredSummary} (stop : summary.shrinkStep = none) :
    newest summary = summary := by
  unfold shrinkStep at stop
  split_ifs at stop with confirmed pending orders courses
  exact newest_of_short (by omega) (by omega) (by omega) (by omega)

/-! The loop of `render`. -/

/-- What the loop returns from a state of its variables; no run is infinite. -/
inductive Loop (limit : Nat) : StructuredSummary → Text → Prop
  | fits {summary : StructuredSummary} (short : summary.lines.length ≤ limit) :
    Loop limit summary summary.lines
  | cut {summary : StructuredSummary} (long : limit < summary.lines.length)
    (stuck : summary.shrinkStep = none) : Loop limit summary (summary.lines.rtake limit)
  | turn {summary smaller : StructuredSummary} {text : Text} (long : limit < summary.lines.length)
    (step : summary.shrinkStep = some smaller) (rest : Loop limit smaller text) : Loop limit summary text

theorem loop_shrink (limit : Nat) {fuel : Nat} {summary : StructuredSummary}
    (enough : summary.entries ≤ fuel) : Loop limit summary (shrink fuel limit summary) := by
  induction fuel generalizing summary with
  | zero =>
    by_cases short : summary.lines.length ≤ limit
    · have whole : shrink 0 limit summary = summary.lines := Recency.rtake_eq_self short
      rw [whole]
      exact .fits short
    · refine .cut (not_le.mp short) ?_
      cases step : summary.shrinkStep with
      | none => rfl
      | some next =>
        have fewer := (shrinkStep_some step).2.2
        omega
  | succ fuel ih =>
    unfold shrink
    split_ifs with short
    · exact .fits short
    · cases step : summary.shrinkStep with
      | none => exact .cut (not_le.mp short) step
      | some next =>
        have fewer := (shrinkStep_some step).2.2
        exact .turn (not_le.mp short) step (@ih next (by omega))

theorem Loop.unique {limit : Nat} {summary : StructuredSummary} {first second : Text}
    (one : Loop limit summary first) (two : Loop limit summary second) : first = second := by
  induction one with
  | fits short =>
    cases two with
    | fits _ => rfl
    | cut long _ => omega
    | turn long _ _ => omega
  | cut long stuck =>
    cases two with
    | fits short => omega
    | cut _ _ => rfl
    | turn _ step _ =>
      rw [stuck] at step
      cases step
  | turn long step _ ih =>
    cases two with
    | fits short => omega
    | cut _ stuck =>
      rw [stuck] at step
      cases step
    | turn _ step' rest =>
      rw [step] at step'
      cases step'
      exact ih rest

/-- Entries are dropped oldest first, and a section gives one up only when those before it hold one at
most. -/
structure ClippedInOrder (summary smaller : StructuredSummary) : Prop extends Clipped summary smaller where
  newest : newest smaller = newest summary
  pending_last : smaller.pending = summary.pending ∨ smaller.confirmed.length ≤ 1
  orders_last : smaller.orders = summary.orders ∨
    smaller.confirmed.length ≤ 1 ∧ smaller.pending.length ≤ 1
  courses_last : smaller.courses = summary.courses ∨
    smaller.confirmed.length ≤ 1 ∧ smaller.pending.length ≤ 1 ∧ smaller.orders.length ≤ 1

theorem ClippedInOrder.refl (summary : StructuredSummary) : ClippedInOrder summary summary :=
  ⟨Clipped.refl summary,rfl,.inl rfl,.inl rfl,.inl rfl⟩

theorem ClippedInOrder.step {summary smaller next : StructuredSummary} (order : ClippedInOrder summary smaller)
    (step : smaller.shrinkStep = some next) : ClippedInOrder summary next := by
  obtain ⟨clipped,same,_⟩ := shrinkStep_some step
  refine ⟨order.toClipped.trans clipped,same.trans order.newest,?_,?_,?_⟩
  -- For each of the three sections, the one of the four branches that changes it has those before it short.
  all_goals
    unfold shrinkStep at step
    split_ifs at step with confirmed pending orders courses
  all_goals
    obtain rfl := Option.some.inj step
  · exact .inl (order.pending_last.resolve_right (by omega))
  · exact .inr (not_lt.mp confirmed)
  · exact order.pending_last
  · exact order.pending_last
  · exact .inl (order.orders_last.resolve_right (by omega))
  · exact .inl (order.orders_last.resolve_right (by omega))
  · exact .inr ⟨not_lt.mp confirmed,not_lt.mp pending⟩
  · exact order.orders_last
  · exact .inl (order.courses_last.resolve_right (by omega))
  · exact .inl (order.courses_last.resolve_right (by omega))
  · exact .inl (order.courses_last.resolve_right (by omega))
  · exact .inr ⟨not_lt.mp confirmed,not_lt.mp pending,not_lt.mp orders⟩

theorem Loop.ends {limit : Nat} {summary smaller : StructuredSummary} {text : Text}
    (run : Loop limit smaller text) (order : ClippedInOrder summary smaller) :
    ∃ last, ClippedInOrder summary last ∧ (last.lines.length ≤ limit ∧ text = last.lines ∨
      limit < (CustomerService.SummaryFacts.newest summary).lines.length ∧
        text = (CustomerService.SummaryFacts.newest summary).lines.rtake limit) := by
  induction run with
  | fits short => exact ⟨_,order,.inl ⟨short,rfl⟩⟩
  | cut long stuck =>
    have whole := shrinkStep_none stuck
    rw [order.newest] at whole
    rw [← whole] at long ⊢
    exact ⟨_,ClippedInOrder.refl _,.inr ⟨long,rfl⟩⟩
  | turn _ step _ ih => exact ih (order.step step)

theorem shrink_cases (limit : Nat) {fuel : Nat} {summary : StructuredSummary}
    (enough : summary.entries ≤ fuel) :
    ∃ smaller, ClippedInOrder summary smaller ∧
      (smaller.lines.length ≤ limit ∧ shrink fuel limit summary = smaller.lines ∨
        limit < (newest summary).lines.length ∧
          shrink fuel limit summary = (newest summary).lines.rtake limit) :=
  (loop_shrink limit enough).ends (ClippedInOrder.refl summary)

private theorem shrink_spec {limit : Nat} {fuel : Nat} {summary : StructuredSummary}
    (fits : (newest summary).lines.length ≤ limit) (enough : summary.entries ≤ fuel) :
    ∃ smaller, Clipped summary smaller ∧ shrink fuel limit summary = smaller.lines := by
  obtain ⟨smaller,order,⟨_,text⟩ | ⟨long,_⟩⟩ := shrink_cases limit enough
  · exact ⟨smaller,order.toClipped,text⟩
  · omega

private theorem render_spec {summary : StructuredSummary} {maxChars : Option Int}
    (uncut : Uncut summary maxChars) :
    ∃ smaller, Clipped summary smaller ∧ summary.render maxChars = smaller.lines := by
  cases maxChars with
  | none => exact ⟨summary,Clipped.refl summary,rfl⟩
  | some bound => exact shrink_spec (uncut bound rfl) le_rfl

theorem finalize_spec {summary : StructuredSummary} {slots : Option SessionSlots}
    {maxChars : Option Int} (uncut : Uncut (summary.resolve slots) maxChars) :
    ∃ smaller, Clipped (summary.resolve slots) smaller ∧
      finalizeStructured summary slots maxChars = smaller.lines := by
  simp only [finalizeStructured]
  split_ifs with content
  · exact render_spec uncut
  · exact ⟨_,Clipped.refl _,(lines_of_no_content content).symm⟩

theorem Tidy.clipped {summary smaller : StructuredSummary} (tidy : Tidy summary)
    (clipped : Clipped summary smaller) : Tidy smaller where
  orders fact member := tidy.orders fact (clipped.orders.subset member)
  courses fact member := tidy.courses fact (clipped.courses.subset member)
  intent := clipped.intent ▸ tidy.intent
  confirmed fact member := tidy.confirmed fact (clipped.confirmed.subset member)
  pending fact member := tidy.pending fact (clipped.pending.subset member)

end CustomerService.SummaryFacts
