import CustomerService.SummaryFormat

/-! What the extractor finds, seen by the parser of the rendered summary, and when a
stored summary is read back as it was. -/
namespace CustomerService.SummaryFacts

open Text StructuredSummary

private theorem atomic_append (first second : Text) :
    Atomic (first ++ second) ↔ Atomic first ∧ Atomic second := by
  simp only [Atomic,Unsplit,NoBreak,List.forall_mem_append]
  tauto

/-! Labels. -/

private theorem mem_matchLabels {text : Text} {patterns : List (Regex × Text)} {label : Text}
    (member : label ∈ matchLabels text patterns) : ∃ item ∈ patterns, label = item.2 := by
  induction patterns using List.reverseRecOn with
  | nil => cases member
  | append_singleton patterns last ih =>
    rw [matchLabels,List.foldl_append,List.foldl_cons,List.foldl_nil] at member
    have earlier (inside : label ∈ matchLabels text patterns) :
        ∃ item ∈ patterns ++ [last], label = item.2 := by
      obtain ⟨item,listed,same⟩ := ih inside
      exact ⟨item,List.mem_append_left _ listed,same⟩
    split_ifs at member
    · rcases List.mem_append.mp member with inside | new
      · exact earlier inside
      · exact ⟨last,by simp,List.mem_singleton.mp new⟩
    · exact earlier member

def patternTables : List (List (Regex × Text)) :=
  [orderConstraints,courseConstraints,pendingPatterns,assistantConclusions]

private theorem labels_plain : ∀ table ∈ patternTables, ∀ item ∈ table, Solid item.2 ∧ Atomic item.2 := by
  decide

theorem plain_matchLabels {text : Text} {table : List (Regex × Text)}
    (known : table ∈ patternTables) {label : Text} (member : label ∈ matchLabels text table) :
    Solid label ∧ Atomic label := by
  obtain ⟨item,listed,rfl⟩ := mem_matchLabels member
  exact labels_plain table known item listed

/-! Facts with a suffix of labels. -/

private theorem solid_suffix {labels : List Text} (some' : labels ≠ [])
    (fine : ∀ label ∈ labels, Solid label) : Solid (join ['；'] (labels.take 2)) := by
  have taken : ∀ label ∈ labels.take 2, Solid label := fun label member =>
    fine label (List.mem_of_mem_take member)
  refine ⟨join_ne_nil ?_ (fun label member => (taken label member).1),
    tight_join (fun label member => (taken label member).2) (fun label member =>
      (taken label member).1)⟩
  cases labels with
  | nil => exact absurd rfl some'
  | cons first rest => simp

private theorem solid_spaced {head suffix : Text} (left : Solid head) (right : Solid suffix) :
    Solid (head ++ ' '::suffix) := by
  have parts : head ++ ' '::suffix = head ++ ([' '] ++ suffix) := rfl
  refine ⟨by simp,?_⟩
  rw [parts]
  exact tight_between left.2 right.2 left.1 right.1

theorem decorate_eq {head : Text} {labels : List Text} (solid : Solid head)
    (fine : ∀ label ∈ labels, Solid label) :
    decorate head labels =
      if labels = [] then head else head ++ ' '::join ['；'] (labels.take 2) := by
  by_cases none' : labels = []
  · subst none'
    rfl
  · have suffix := solid_suffix none' fine
    simp only [decorate,if_neg suffix.1,if_neg none']
    exact strip_of_tight (solid_spaced solid suffix).2

private theorem solid_decorate {head : Text} {labels : List Text} (solid : Solid head)
    (fine : ∀ label ∈ labels, Solid label) : Solid (decorate head labels) := by
  rw [decorate_eq solid fine]
  split_ifs with none'
  · exact solid
  · exact solid_spaced solid (solid_suffix none' fine)

private theorem atomic_decorate {head : Text} {labels : List Text} (solid : Solid head)
    (fine : ∀ label ∈ labels, Solid label ∧ Atomic label) :
    Atomic (decorate head labels) ↔ Atomic head ∧ labels.length ≤ 1 := by
  rw [decorate_eq solid (fun label member => (fine label member).1)]
  match labels with
  | [] => simp
  | [label] =>
    have plain := (fine label List.mem_cons_self).2
    have blank : Atomic [' '] := by decide
    rw [if_neg (List.cons_ne_nil _ _),List.append_cons head,atomic_append,atomic_append]
    simp [join,plain,blank]
  | first::second::rest =>
    rw [if_neg (List.cons_ne_nil _ _)]
    have separated : '；' ∈ head ++ ' '::join ['；'] ((first::second::rest).take 2) := by
      simp [join]
    constructor
    · intro atomic
      exact absurd (atomic.1 '；' separated) (by decide)
    · rintro ⟨_,short⟩
      simp at short

/-! Order numbers and course names. -/

theorem plain_of_isDigit {char : Char} (digit : isDigit char = true) :
    isSpace char = false ∧ isSeparator char = false ∧ isLineBreak char = false := by
  have solid := isSpace_of_isDigit digit
  refine ⟨solid,?_,?_⟩
  · by_contra separator
    have either : char = '；' ∨ char = ';' := by
      simpa [isSeparator,or_iff_not_imp_left] using separator
    obtain rfl | rfl := either
    · exact absurd digit (by decide)
    · exact absurd digit (by decide)
  · by_contra breaks
    rw [isSpace_of_isLineBreak (by simpa using breaks)] at solid
    cases solid

theorem plain_orderNo {text number : Text} (found : extractOrderNo text = some number) :
    Tight number ∧ Atomic number := by
  obtain ⟨cursor,searched,rfl⟩ := Option.map_eq_some_iff.mp found
  have digits : ∀ char ∈ cursor.group1, isSpace char = false ∧ isSeparator char = false ∧
      isLineBreak char = false := fun char inside => by
    have caught := orderNoRe.catches_group1 searched char inside
    exact plain_of_isDigit (by simpa [orderNoRe,Regex.catches,Regex.uses,Regex.optional,
      Regex.anyOf,Regex.lit,Regex.empty] using caught)
  have edge (part : Text) (within : ∀ char ∈ part, char ∈ cursor.group1) :
      heads isSpace part = false := by
    cases part with
    | nil => rfl
    | cons char rest => exact (digits char (within char List.mem_cons_self)).1
  exact ⟨⟨edge _ (fun _ => id),edge _ (fun _ => List.mem_reverse.mp)⟩,
    fun char inside => (digits char inside).2.1,fun char inside => (digits char inside).2.2⟩

theorem solid_courseName {text name : Text} (member : name ∈ extractCourseNames text) :
    Solid name := by
  have general (found : List Text) (stripped : ∀ name ∈ found, Tight name) (names : List Text)
      (solid : ∀ name ∈ names, Solid name) :
      ∀ name ∈ found.foldl (fun names name =>
        if name ∈ skippedCourseNames ∨ name ∈ names then names else names ++ [name]) names,
        Solid name := by
    induction found generalizing names with
    | nil => exact solid
    | cons first rest ih =>
      refine ih (fun name inside => stripped name (List.mem_cons_of_mem _ inside)) _ ?_
      dsimp only
      split_ifs with skipped
      · exact solid
      · intro name inside
        rcases List.mem_append.mp inside with old | new
        · exact solid name old
        · rw [List.mem_singleton.mp new]
          refine ⟨?_,stripped first List.mem_cons_self⟩
          rintro rfl
          exact skipped (Or.inl (by decide))
  refine general _ (fun name inside => ?_) [] (fun name inside => (nomatch inside)) name member
  obtain ⟨pattern,_,listed⟩ := List.mem_flatMap.mp inside
  obtain ⟨found,_,rfl⟩ := List.mem_map.mp listed
  exact tight_strip _

/-! What a message adds to each list. -/

theorem mem_contributions {view : StructuredSummary → List Text} {slots : Option SessionSlots}
    {overflow : List Message} {fact : Text} (member : fact ∈ contributions view slots overflow) :
    ∃ message ∈ overflow, ∃ item ∈ view (factsOf slots message), fact = strip item := by
  obtain ⟨_,item,listed,same⟩ := mem_cleaned member
  obtain ⟨message,inside,found⟩ := List.mem_flatMap.mp listed
  exact ⟨message,inside,item,found,same⟩

theorem factsOf_orders (slots : Option SessionSlots) (message : Message) :
    (factsOf slots message).orders = orderFacts (strip message.text) slots := by
  unfold factsOf
  split_ifs with blank
  · rw [blank]
    rfl
  · rfl

theorem factsOf_courses (slots : Option SessionSlots) (message : Message) :
    (factsOf slots message).courses = courseFacts (strip message.text) slots := by
  unfold factsOf
  split_ifs with blank
  · rw [blank]
    rfl
  · rfl

theorem orderFact_plain {text fact : Text} {slots : Option SessionSlots}
    (member : fact ∈ orderFacts text slots) :
    Solid fact ∧ (Atomic fact ↔ (matchLabels text orderConstraints).length ≤ 1) := by
  unfold orderFacts at member
  cases found : extractOrderNo text with
  | none =>
    rw [found] at member
    cases member
  | some number =>
    rw [found] at member
    dsimp only at member
    split_ifs at member with skipped
    · cases member
    · obtain ⟨tight,atomic⟩ := plain_orderNo found
      have solid : Solid number := ⟨fun nothing => skipped (Or.inl nothing),tight⟩
      have labels : ∀ label ∈ matchLabels text orderConstraints, Solid label ∧ Atomic label :=
        fun label => plain_matchLabels (by simp [patternTables])
      rw [List.mem_singleton.mp member,atomic_decorate solid labels]
      exact ⟨solid_decorate solid (fun label inside => (labels label inside).1),by simp [atomic]⟩

theorem courseFact_plain {text fact : Text} {slots : Option SessionSlots}
    (member : fact ∈ courseFacts text slots) :
    Solid fact ∧ ∃ name ∈ extractCourseNames text,
      fact = decorate name (matchLabels text courseConstraints) ∧
      (Atomic fact ↔ Atomic name ∧ (matchLabels text courseConstraints).length ≤ 1) := by
  obtain ⟨name,inside,rfl⟩ := List.mem_map.mp member
  have listed := List.mem_of_mem_filter inside
  have solid := solid_courseName listed
  have labels : ∀ label ∈ matchLabels text courseConstraints, Solid label ∧ Atomic label :=
    fun label => plain_matchLabels (by simp [patternTables])
  exact ⟨solid_decorate solid (fun label here => (labels label here).1),name,listed,rfl,
    atomic_decorate solid labels⟩

private theorem label_plain {slots : Option SessionSlots} {message : Message} {label : Text}
    (member : label ∈ (factsOf slots message).confirmed ∨ label ∈ (factsOf slots message).pending) :
    Solid label ∧ Atomic label := by
  have known {table : List (Regex × Text)} (listed : table ∈ patternTables) {label : Text}
      (found : label ∈ matchLabels (strip message.text) table) : Solid label ∧ Atomic label :=
    plain_matchLabels listed found
  unfold factsOf at member
  split_ifs at member
  · rcases member with here | here <;> cases here
  · rcases member with here | here
    · obtain ⟨_,item,listed,rfl⟩ := mem_cleaned
        (mem_applyExclusiveSequence (show label ∈ applyExclusiveSequence _ none from here))
      have plain : Solid item ∧ Atomic item := by
        simp only [List.mem_append] at listed
        obtain (course | order) | conclusion := listed
        · exact known (by simp [patternTables]) course
        · exact known (by simp [patternTables]) order
        · exact known (by simp [patternTables]) conclusion
      rwa [strip_of_tight plain.1.2]
    · exact known (by simp [patternTables]) here

theorem contributed_label_plain {slots : Option SessionSlots} {overflow : List Message} {label : Text}
    (member : label ∈ contributions (·.confirmed) slots overflow ∨
      label ∈ contributions (·.pending) slots overflow) : Solid label ∧ Atomic label := by
  rcases member with here | here
  · obtain ⟨message,_,item,listed,rfl⟩ := mem_contributions here
    have plain := label_plain (Or.inl listed)
    rwa [strip_of_tight plain.1.2]
  · obtain ⟨message,_,item,listed,rfl⟩ := mem_contributions here
    have plain := label_plain (Or.inr listed)
    rwa [strip_of_tight plain.1.2]

/-! The summary to be stored. -/

def foldedSummary (existing : Option Text) (overflow : List Message) (slots : Option SessionSlots) :
    StructuredSummary :=
  ((parse existing).merge (extractSummaryFacts overflow slots)).resolve slots

section
variable (existing : Option Text) (overflow : List Message) (slots : Option SessionSlots)

theorem folded_orders : (foldedSummary existing overflow slots).orders =
    (Recency.pushAll id (parse existing).orders (contributions (·.orders) slots overflow)).rtake 3 := by
  show (merge _ _).orders = _
  rw [merge_orders,extract_orders,pushAll_lastUsed _ _ _ (fun _ => solid_contributions)]

theorem folded_courses : (foldedSummary existing overflow slots).courses =
    (Recency.pushAll id (parse existing).courses (contributions (·.courses) slots overflow)).rtake 3 := by
  show (merge _ _).courses = _
  rw [merge_courses,extract_courses,pushAll_lastUsed _ _ _ (fun _ => solid_contributions)]

theorem folded_confirmed : (foldedSummary existing overflow slots).confirmed =
    lastUsed groupKey 6 ((parse existing).confirmed ++
      contributions (·.confirmed) slots overflow) := by
  have old : ∀ fact ∈ (parse existing).confirmed, Solid fact := fun fact member =>
    ((sound_parse existing).confirmed fact member).1
  have merged : (merge (parse existing) (extractSummaryFacts overflow slots)).confirmed =
      lastUsed groupKey 6 ((parse existing).confirmed ++
        contributions (·.confirmed) slots overflow) := by
    rw [merge_confirmed,extract_confirmed,cleaned_of_solid old,lastUsed,Recency.latest,
      Recency.pushAll_append,pushAll_lastUsed _ _ _ (fun _ => solid_contributions),
      ← Recency.pushAll_append]
    rfl
  have solid : ∀ fact ∈ lastUsed groupKey 6 ((parse existing).confirmed ++
      contributions (·.confirmed) slots overflow), Solid fact := fun fact member => by
    rcases List.mem_append.mp (mem_of_mem_lastUsed member) with here | here
    · exact old fact here
    · exact solid_contributions here
  show applyExclusiveSequence (merge _ _).confirmed (some 6) = _
  rw [merged,applyExclusiveSequence_eq,cleaned_of_solid solid]
  exact lastUsed_lastUsed _ _ _

private theorem intentFrom_unbroken (order course : Bool) : NoBreak (intentFrom order course) := by
  cases order <;> cases course <;> decide

private theorem merge_intent_unbroken {acc facts : StructuredSummary} (old : NoBreak acc.intent)
    (new : NoBreak facts.intent) : Inline (merge acc facts).intent := by
  refine ⟨tight_strip _,fun char inside => ?_⟩
  have here := mem_of_mem_strip inside
  split_ifs at here
  · exact old char here
  · exact new char here

private theorem extract_intent_unbroken : NoBreak (extractSummaryFacts overflow slots).intent := by
  have folded : NoBreak (overflow.foldl (addFacts slots) empty).intent := by
    induction overflow using List.reverseRecOn with
    | nil => exact fun char inside => (nomatch inside)
    | append_singleton overflow message ih =>
      rw [List.foldl_append,List.foldl_cons,List.foldl_nil]
      unfold addFacts
      dsimp only
      split_ifs
      · exact ih
      · exact (merge_intent_unbroken ih (intentFrom_unbroken _ _)).2
  have labelled {intent label : Text} (known : intentLabel intent = some label) : NoBreak label := by
    unfold intentLabel at known
    split_ifs at known <;> obtain rfl := Option.some.inj known <;> decide
  unfold extractSummaryFacts
  dsimp only
  cases known : intentLabel (slotText (·.lastIntent) slots) with
  | some label => exact labelled known
  | none =>
    dsimp only
    split_ifs
    · exact intentFrom_unbroken _ _
    · exact folded

theorem settled_folded : Settled (foldedSummary existing overflow slots) := by
  have sound := sound_parse existing
  refine ⟨fun fact member => ?_,fun fact member => ?_,?_,fun fact member => ?_,fun fact member => ?_⟩
  · rw [folded_orders,Recency.pushAll_eq] at member
    rcases Recency.mem_rtake_append member with old | new
    · exact (sound.orders fact (List.mem_of_mem_filter old)).1
    · exact solid_contributions (mem_of_mem_lastUsed new)
  · rw [folded_courses,Recency.pushAll_eq] at member
    rcases Recency.mem_rtake_append member with old | new
    · exact (sound.courses fact (List.mem_of_mem_filter old)).1
    · exact solid_contributions (mem_of_mem_lastUsed new)
  · exact merge_intent_unbroken sound.intent.2 (extract_intent_unbroken overflow slots)
  · rw [folded_confirmed] at member
    rcases List.mem_append.mp (mem_of_mem_lastUsed member) with old | new
    · exact sound.confirmed fact old
    · have plain := contributed_label_plain (Or.inl new)
      exact ⟨plain.1,plain.2.2⟩
  · rcases mem_prependUnique (mem_resolve_pending slots member) with old | new
    · have fine := sound.pending fact old
      exact ⟨fine.1,sound.pending_unsplit fact old,fine.2⟩
    · obtain ⟨_,item,listed,rfl⟩ := mem_cleaned new
      have plain := contributed_label_plain (Or.inr (mem_extract_pending overflow slots listed))
      rwa [strip_of_tight plain.1.2]

/-- No message whose order fact is kept matches two order labels, no course name that is
kept holds a separator or a line break or has two course labels, and nothing kept of the
confirmed facts read from the old summary holds a separator. -/
structure Storable : Prop where
  orders : ∀ message ∈ overflow, ∀ fact ∈ orderFacts (strip message.text) slots,
    fact ∈ lastUsed id 3 (contributions (·.orders) slots overflow) →
      (matchLabels (strip message.text) orderConstraints).length ≤ 1
  courses : ∀ message ∈ overflow, ∀ name ∈ extractCourseNames (strip message.text),
    decorate name (matchLabels (strip message.text) courseConstraints) ∈
        lastUsed id 3 (contributions (·.courses) slots overflow) →
      Atomic name ∧ (matchLabels (strip message.text) courseConstraints).length ≤ 1
  confirmed : ∀ fact ∈ (parse existing).confirmed,
    fact ∈ lastUsed groupKey 6 ((parse existing).confirmed ++
      contributions (·.confirmed) slots overflow) → Unsplit fact

private theorem orders_atomic_iff : (∀ fact ∈ (foldedSummary existing overflow slots).orders, Atomic fact) ↔
    ∀ message ∈ overflow, ∀ fact ∈ orderFacts (strip message.text) slots,
      fact ∈ lastUsed id 3 (contributions (·.orders) slots overflow) →
        (matchLabels (strip message.text) orderConstraints).length ≤ 1 := by
  have sound := sound_parse existing
  rw [folded_orders,Recency.rtake_pushAll_forall id (fun fact member =>
    ⟨sound.orders_unsplit fact member,(sound.orders fact member).2⟩)]
  constructor
  · exact fun all message _ fact listed kept => (orderFact_plain listed).2.mp (all fact kept)
  · intro few fact kept
    obtain ⟨message,inside,item,listed,rfl⟩ := mem_contributions (mem_of_mem_lastUsed kept)
    rw [factsOf_orders] at listed
    obtain ⟨solid,atomic⟩ := orderFact_plain listed
    have stripped := strip_of_tight solid.2
    rw [stripped] at kept ⊢
    exact atomic.mpr (few message inside item listed kept)

private theorem courses_atomic_iff : (∀ fact ∈ (foldedSummary existing overflow slots).courses, Atomic fact) ↔
    ∀ message ∈ overflow, ∀ name ∈ extractCourseNames (strip message.text),
      decorate name (matchLabels (strip message.text) courseConstraints) ∈
          lastUsed id 3 (contributions (·.courses) slots overflow) →
        Atomic name ∧ (matchLabels (strip message.text) courseConstraints).length ≤ 1 := by
  have sound := sound_parse existing
  rw [folded_courses,Recency.rtake_pushAll_forall id (fun fact member =>
    ⟨sound.courses_unsplit fact member,(sound.courses fact member).2⟩)]
  constructor
  · intro all message _ name listed kept
    refine (atomic_decorate (solid_courseName listed) (fun label => ?_)).mp (all _ kept)
    exact plain_matchLabels (by simp [patternTables])
  · intro few fact kept
    obtain ⟨message,inside,item,listed,rfl⟩ := mem_contributions (mem_of_mem_lastUsed kept)
    rw [factsOf_courses] at listed
    obtain ⟨solid,name,named,same,atomic⟩ := courseFact_plain listed
    have stripped := strip_of_tight solid.2
    rw [stripped] at kept ⊢
    exact atomic.mpr (few message inside name named (same ▸ kept))

private theorem confirmed_unsplit_iff :
    (∀ fact ∈ (foldedSummary existing overflow slots).confirmed, Unsplit fact) ↔
      ∀ fact ∈ (parse existing).confirmed,
        fact ∈ lastUsed groupKey 6 ((parse existing).confirmed ++
          contributions (·.confirmed) slots overflow) → Unsplit fact := by
  rw [folded_confirmed]
  refine ⟨fun all fact _ kept => all fact kept,fun few fact kept => ?_⟩
  rcases List.mem_append.mp (mem_of_mem_lastUsed kept) with old | new
  · exact few fact old kept
  · exact (contributed_label_plain (Or.inl new)).2.1

/-- When nothing is clipped, the stored text is read back as the merged and resolved
summary exactly when no fact that is kept is split by the reader. -/
theorem stored_iff {maxChars : Option Int} (fits : Fits (foldedSummary existing overflow slots) maxChars) :
    parse (some (foldSessionSummary existing overflow maxChars slots)) =
        foldedSummary existing overflow slots ↔ Storable existing overflow slots := by
  have stored : foldSessionSummary existing overflow maxChars slots =
      (foldedSummary existing overflow slots).lines := finalize_of_fits fits
  rw [stored,parse_lines_eq_iff (settled_folded existing overflow slots),orders_atomic_iff,
    courses_atomic_iff,confirmed_unsplit_iff]
  exact ⟨fun ⟨orders,courses,confirmed⟩ => ⟨orders,courses,confirmed⟩,
    fun storable => ⟨storable.orders,storable.courses,storable.confirmed⟩⟩

end

def saying (text : String) : Message where
  kind := .human
  id := none
  text := text.toList
  ref := 0
  copy := false

/-- An order number with one wish comes back whole. -/
theorem stored_iff_one_wish :
    parse (some (foldSessionSummary none [saying "订单20251114001 退款"] (some 400) none)) =
      foldedSummary none [saying "订单20251114001 退款"] none := by
  refine (stored_iff none [saying "订单20251114001 退款"] none (by decide +kernel)).mpr ⟨?_,?_,?_⟩
  · decide +kernel
  · decide +kernel
  · decide +kernel

/-- With two wishes the order fact is read back as two. -/
theorem split_by_second_wish :
    Fits (foldedSummary none [saying "订单20251114001 退款 物流"] none) (some 400) ∧
      parse (some (foldSessionSummary none [saying "订单20251114001 退款 物流"] (some 400) none)) ≠
        foldedSummary none [saying "订单20251114001 退款 物流"] none := by
  decide +kernel

end CustomerService.SummaryFacts
