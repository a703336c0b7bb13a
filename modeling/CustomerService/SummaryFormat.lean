import CustomerService.SummaryMerge

/-! The rendered summary as a format: what is read from the rows of a summary, and what
any text that is read comes out as. -/
namespace CustomerService.Regex

open Text

private theorem run_many_nothing (accepts : Char → Bool) (cursor : Cursor)
    (solid : heads accepts cursor.after = false) :
    (Regex.many accepts 0 none).run cursor = [cursor] := by
  have short : cursor.after.takeWhile accepts = [] := by
    cases after : cursor.after with
    | nil => rfl
    | cons char rest =>
      rw [after] at solid
      exact List.takeWhile_cons_of_neg (by simpa [heads] using solid)
  simp only [run,reach,short]
  rfl

private theorem run_many_all (accepts : Char → Bool) (cursor : Cursor)
    (all : ∀ char ∈ cursor.after, accepts char = true) :
    ∃ shorter, (Regex.many accepts 0 none).run cursor =
      cursor.advance cursor.after.length::shorter := by
  have whole : cursor.after.takeWhile accepts = cursor.after := List.takeWhile_eq_self_iff.mpr all
  refine ⟨((List.range' 0 cursor.after.length).reverse).map cursor.advance,?_⟩
  simp only [run,reach,whole,Nat.sub_zero]
  rw [List.range'_concat,List.reverse_append]
  simp

private theorem run_seq_single {first : Regex} (second : Regex) {start middle : Cursor}
    (here : first.run start = [middle]) : (Regex.seq first second).run start = second.run middle := by
  rw [run,here,List.flatMap_singleton]

private theorem head_seq {first second : Regex} {start middle stop : Cursor} {others : List Cursor}
    (here : first.run start = middle::others) (there : (second.run middle).head? = some stop) :
    ((Regex.seq first second).run start).head? = some stop := by
  rw [run,here,List.flatMap_cons,List.head?_append,there,Option.some_or]

end CustomerService.Regex

namespace CustomerService.SummaryFacts

open Text StructuredSummary

/-! A row and its section. -/

def sectionKeys : List Text :=
  ["订单".toList,"课程".toList,"意图".toList,"已确认".toList,"未决".toList]

def rowOf (key value : Text) : Text := key ++ '：'::value

/-- The value of a section starts and ends with no white space and lies on one line. -/
def Inline (value : Text) : Prop := Tight value ∧ NoBreak value

private theorem isDot_of_noBreak {value : Text} (unbroken : NoBreak value) {char : Char}
    (member : char ∈ value) : isDot char = true := by
  have solid := unbroken char member
  simp only [isDot,bne_iff_ne,ne_eq]
  rintro rfl
  exact absurd solid (by decide)

private theorem run_key {key : Text} (known : key ∈ sectionKeys) (value : Text) :
    (Regex.group (.anyOf ["订单","课程","意图","已确认","未决"])).run ⟨[],rowOf key value,[]⟩ =
      [⟨key.reverse,'：'::value,[key]⟩] := by
  simp only [sectionKeys,List.mem_cons,List.not_mem_nil,or_false] at known
  obtain rfl | rfl | rfl | rfl | rfl := known <;> rfl

private theorem match_row {key value : Text} (known : key ∈ sectionKeys) (inline : Inline value) :
    ∃ found, sectionRe.matchAt [] (rowOf key value) = some found ∧ found.groups = [key,value] := by
  let start : Regex.Cursor := ⟨'：'::key.reverse,value,[key]⟩
  obtain ⟨shorter,whole⟩ := Regex.run_many_all isDot start (fun char => isDot_of_noBreak inline.2)
  have blank := Regex.run_many_nothing isSpace start inline.1.1
  have colon : (Regex.one isColon).run ⟨key.reverse,'：'::value,[key]⟩ = [start] := rfl
  have front : (Regex.check (fun before _ => before.isEmpty)).run ⟨[],rowOf key value,[]⟩ =
      [⟨[],rowOf key value,[]⟩] := rfl
  rw [sectionRe,Regex.matchAt,Regex.run_seq_single _ front,
    Regex.run_seq_single _ (run_key known value),Regex.run_seq_single _ colon,
    Regex.run_seq_single _ blank]
  have group : (Regex.group (.many isDot 0 none)).run start =
      ⟨value.reverse ++ start.before,[],[key,value]⟩::shorter.map (fun found =>
        { found with groups := start.groups ++
          [(found.before.take (found.before.length - start.before.length)).reverse] }) := by
    rw [Regex.run,whole,List.map_cons]
    refine congrArg (·::_) ?_
    simp [start,Regex.Cursor.advance]
  exact ⟨_,Regex.head_seq group rfl,rfl⟩

/-! Facts between separators. -/

def Unsplit (fact : Text) : Prop := ∀ char ∈ fact, isSeparator char = false

instance (fact : Text) : Decidable (Unsplit fact) :=
  decidable_of_iff (fact.all (fun char => !isSeparator char) = true) (by simp [Unsplit])

def reread (facts : List Text) : List Text := splitFacts (join ['；'] facts)

private theorem splitFacts_append (first second : Text) :
    splitFacts (first ++ '；'::second) = splitFacts first ++ splitFacts second := by
  rw [splitFacts,List.splitOnP_append_cons first second (by decide : isSeparator '；' = true),
    List.map_append,List.filter_append]
  rfl

theorem reread_eq (facts : List Text) : reread facts = facts.flatMap splitFacts := by
  induction facts with
  | nil => rfl
  | cons fact rest ih =>
    cases rest with
    | nil =>
      rw [reread,join,List.intercalate_singleton]
      simp
    | cons next more =>
      rw [reread,join,List.intercalate_cons_cons,List.append_assoc,List.flatMap_cons,← ih]
      exact splitFacts_append fact _

private theorem splitFacts_of_unsplit {fact : Text} (solid : Solid fact) (unsplit : Unsplit fact) :
    splitFacts fact = [fact] := by
  rw [splitFacts,List.splitOnP_eq_singleton unsplit,List.map_singleton,strip_of_tight solid.2]
  simp [solid.1]

theorem reread_of_unsplit {facts : List Text} (solid : ∀ fact ∈ facts, Solid fact)
    (unsplit : ∀ fact ∈ facts, Unsplit fact) : reread facts = facts := by
  rw [reread_eq]
  refine (List.flatMap_congr (fun fact member => ?_)).trans (List.flatMap_singleton' facts)
  exact splitFacts_of_unsplit (solid fact member) (unsplit fact member)

theorem mem_splitOnP {accepts : Char → Bool} {text part : Text}
    (member : part ∈ text.splitOnP accepts) :
    ∀ char ∈ part, accepts char = false ∧ char ∈ text := by
  induction text generalizing part with
  | nil =>
    rw [List.splitOnP_nil,List.mem_singleton] at member
    simp [member]
  | cons char rest ih =>
    rw [List.splitOnP_cons_eq_if_modifyHead] at member
    split_ifs at member with separates
    · rcases List.mem_cons.mp member with rfl | later
      · simp
      · exact fun other inside => ⟨(ih later other inside).1,
          List.mem_cons_of_mem _ (ih later other inside).2⟩
    · cases found : rest.splitOnP accepts with
      | nil => exact absurd found (List.splitOnP_ne_nil _ _)
      | cons first more =>
        rw [found,List.modifyHead_cons] at member
        intro other inside
        rcases List.mem_cons.mp member with rfl | later
        · rcases List.mem_cons.mp inside with rfl | inside
          · exact ⟨by simpa using separates,List.mem_cons_self⟩
          · have fine := ih (found ▸ List.mem_cons_self) other inside
            exact ⟨fine.1,List.mem_cons_of_mem _ fine.2⟩
        · have fine := ih (found ▸ List.mem_cons_of_mem _ later) other inside
          exact ⟨fine.1,List.mem_cons_of_mem _ fine.2⟩

theorem mem_splitFacts {raw fact : Text} (member : fact ∈ splitFacts raw) :
    Solid fact ∧ Unsplit fact ∧ ∀ char ∈ fact, char ∈ raw := by
  obtain ⟨inside,nonempty⟩ := List.mem_filter.mp member
  obtain ⟨part,listed,rfl⟩ := List.mem_map.mp inside
  have chars := mem_splitOnP listed
  exact ⟨⟨by simpa using nonempty,tight_strip part⟩,
    fun char here => (chars char (mem_of_mem_strip here)).1,
    fun char here => (chars char (mem_of_mem_strip here)).2⟩

private theorem reread_eq_iff {facts : List Text} (solid : ∀ fact ∈ facts, Solid fact) :
    reread facts = facts ↔ ∀ fact ∈ facts, Unsplit fact := by
  refine ⟨fun same fact member => ?_,reread_of_unsplit solid⟩
  rw [← same] at member
  exact (mem_splitFacts member).2.1

/-! A rendered summary is read row by row. -/

structure Tidy (summary : StructuredSummary) : Prop where
  orders : ∀ fact ∈ summary.orders, Solid fact ∧ NoBreak fact
  courses : ∀ fact ∈ summary.courses, Solid fact ∧ NoBreak fact
  intent : Inline summary.intent
  confirmed : ∀ fact ∈ summary.confirmed, Solid fact ∧ NoBreak fact
  pending : ∀ fact ∈ summary.pending, Solid fact ∧ NoBreak fact

theorem inline_join {facts : List Text} (fine : ∀ fact ∈ facts, Solid fact ∧ NoBreak fact) :
    Inline (join ['；'] facts) := by
  refine ⟨tight_join (fun fact member => (fine fact member).1.2)
    (fun fact member => (fine fact member).1.1),fun char inside => ?_⟩
  rcases mem_join inside with between | ⟨fact,member,here⟩
  · rw [List.mem_singleton.mp between]
    decide
  · exact (fine fact member).2 char here

theorem listRow_eq {key : String} {facts : List Text} (solid : ∀ fact ∈ facts, fact ≠ []) :
    listRow key facts = row key (join ['；'] facts) := by
  unfold listRow row
  by_cases none' : facts = []
  · subst none'
    rfl
  · rw [if_neg none',if_neg (join_ne_nil none' solid)]

private theorem inline_row {key value : Text} (known : key ∈ sectionKeys) (inline : Inline value)
    (nonempty : value ≠ []) : rowOf key value ≠ [] ∧ Inline (rowOf key value) := by
  have key_fine : key ≠ [] ∧ Tight key ∧ NoBreak key := by
    simp only [sectionKeys,List.mem_cons,List.not_mem_nil,or_false] at known
    obtain rfl | rfl | rfl | rfl | rfl := known <;> exact ⟨by decide,by decide,by decide⟩
  obtain ⟨some',tight,unbroken⟩ := key_fine
  have whole : rowOf key value = key ++ (['：'] ++ value) := rfl
  refine ⟨by simp [whole],?_,?_⟩
  · rw [whole]
    exact tight_between tight inline.1 some' nonempty
  · intro char inside
    rw [whole,List.mem_append,List.mem_append,List.mem_singleton] at inside
    rcases inside with here | rfl | here
    · exact unbroken char here
    · decide
    · exact inline.2 char here

theorem parseLine_row {key value : Text} (known : key ∈ sectionKeys) (inline : Inline value)
    (nonempty : value ≠ []) (state : Parsing) :
    parseLine state (rowOf key value) =
      { state with parsed := assign state.parsed key value, sawSection := true } := by
  obtain ⟨some',fine⟩ := inline_row known inline nonempty
  obtain ⟨found,matched,groups⟩ := match_row known inline
  simp only [parseLine,strip_of_tight fine.1,if_neg some',matched]
  simp only [Regex.Cursor.group1,groups,List.headD_cons,List.getD_cons_succ,List.getD_cons_zero,
    strip_of_tight inline.1]

private theorem fold_row (key : String) {value : Text} (known : key.toList ∈ sectionKeys)
    (inline : Inline value) (parsed : StructuredSummary) (saw : Bool)
    (unset : assign parsed key.toList [] = parsed) :
    ∃ saw', (row key value).foldl parseLine ⟨parsed,[],saw⟩ =
      ⟨assign parsed key.toList value,[],saw'⟩ := by
  by_cases nothing : value = []
  · refine ⟨saw,?_⟩
    rw [row,if_pos nothing,nothing,unset]
    rfl
  · refine ⟨true,?_⟩
    rw [row,if_neg nothing,List.foldl_cons,List.foldl_nil]
    exact parseLine_row known inline nothing _

theorem parse_eq (text : Option Text) : parse text =
    ((splitlines (strip (text.getD []))).foldl parseLine ⟨.empty,[],false⟩).finish := by
  by_cases blank : strip (text.getD []) = []
  · simp only [parse,if_pos blank]
    rw [blank]
    rfl
  · simp only [parse,if_neg blank]

theorem mem_rows {summary : StructuredSummary} (tidy : Tidy summary) {line : Text}
    (member : line ∈ summary.rows) : line ≠ [] ∧ Inline line := by
  have one {key : String} {value : Text} (known : key.toList ∈ sectionKeys) (inline : Inline value)
      (listed : line ∈ row key value) : line ≠ [] ∧ Inline line := by
    unfold row at listed
    split_ifs at listed with nothing
    · cases listed
    · rw [List.mem_singleton.mp listed]
      exact inline_row known inline nothing
  have many {key : String} {facts : List Text} (known : key.toList ∈ sectionKeys)
      (fine : ∀ fact ∈ facts, Solid fact ∧ NoBreak fact) (listed : line ∈ listRow key facts) :
      line ≠ [] ∧ Inline line := by
    rw [listRow_eq (fun fact member => (fine fact member).1.1)] at listed
    exact one known (inline_join fine) listed
  simp only [rows,List.mem_append] at member
  obtain (((here | here) | here) | here) | here := member
  · exact many (by decide) tidy.orders here
  · exact many (by decide) tidy.courses here
  · exact one (by decide) tidy.intent here
  · exact many (by decide) tidy.confirmed here
  · exact many (by decide) tidy.pending here

theorem splitlines_rows {lines : List Text} (fine : ∀ line ∈ lines, line ≠ [] ∧ Inline line) :
    splitlines (strip (join ['\n'] lines)) = lines := by
  rw [strip_of_tight (tight_join (fun line member => (fine line member).2.1)
    (fun line member => (fine line member).1))]
  exact splitlines_join (fun line member => (fine line member).2.2) (fun line member => (fine line member).1)

/-- Reading the rendering of a tidy summary splits its lists at their separators and
changes nothing else. -/
theorem parse_lines {summary : StructuredSummary} (tidy : Tidy summary) :
    parse (some summary.lines) = ⟨reread summary.orders,reread summary.courses,summary.intent,
      reread summary.confirmed,reread summary.pending⟩ := by
  have whole : splitlines (strip summary.lines) = summary.rows :=
    splitlines_rows (fun line => mem_rows tidy)
  have entry {facts : List Text} (fine : ∀ fact ∈ facts, Solid fact ∧ NoBreak fact) :
      ∀ fact ∈ facts, fact ≠ [] := fun fact member => (fine fact member).1.1
  rw [parse_eq,Option.getD_some,whole,rows,listRow_eq (entry tidy.orders),listRow_eq (entry tidy.courses),
    listRow_eq (entry tidy.confirmed),listRow_eq (entry tidy.pending)]
  simp only [List.foldl_append]
  obtain ⟨saw,orders⟩ : ∃ saw, (row "订单" (join ['；'] summary.orders)).foldl parseLine
      ⟨.empty,[],false⟩ = ⟨⟨reread summary.orders,[],[],[],[]⟩,[],saw⟩ :=
    fold_row "订单" (by decide) (inline_join tidy.orders) .empty false rfl
  obtain ⟨saw',courses⟩ : ∃ saw', (row "课程" (join ['；'] summary.courses)).foldl parseLine
      ⟨⟨reread summary.orders,[],[],[],[]⟩,[],saw⟩ =
        ⟨⟨reread summary.orders,reread summary.courses,[],[],[]⟩,[],saw'⟩ :=
    fold_row "课程" (by decide) (inline_join tidy.courses) _ saw rfl
  obtain ⟨saw'',intent⟩ : ∃ saw'', (row "意图" summary.intent).foldl parseLine
      ⟨⟨reread summary.orders,reread summary.courses,[],[],[]⟩,[],saw'⟩ =
        ⟨⟨reread summary.orders,reread summary.courses,summary.intent,[],[]⟩,[],saw''⟩ :=
    fold_row "意图" (by decide) tidy.intent _ saw' rfl
  let upper : StructuredSummary :=
    ⟨reread summary.orders,reread summary.courses,summary.intent,reread summary.confirmed,[]⟩
  obtain ⟨saw',confirmed⟩ : ∃ saw', (row "已确认" (join ['；'] summary.confirmed)).foldl parseLine
      ⟨⟨reread summary.orders,reread summary.courses,summary.intent,[],[]⟩,[],saw''⟩ =
        ⟨upper,[],saw'⟩ :=
    fold_row "已确认" (by decide) (inline_join tidy.confirmed) _ saw'' rfl
  obtain ⟨saw,pending⟩ : ∃ saw, (row "未决" (join ['；'] summary.pending)).foldl parseLine
      ⟨upper,[],saw'⟩ = ⟨{ upper with pending := reread summary.pending },[],saw⟩ :=
    fold_row "未决" (by decide) (inline_join tidy.pending) _ saw' rfl
  rw [orders,courses,intent,confirmed,pending]
  rfl

/-! Whatever text is read, what comes out is tidy. -/

/-- The summary is tidy, and its lists other than the confirmed facts hold no separator. -/
structure Sound (summary : StructuredSummary) : Prop extends Tidy summary where
  orders_unsplit : ∀ fact ∈ summary.orders, Unsplit fact
  courses_unsplit : ∀ fact ∈ summary.courses, Unsplit fact
  pending_unsplit : ∀ fact ∈ summary.pending, Unsplit fact

private theorem mem_splitFacts_inline {value fact : Text} (unbroken : NoBreak value)
    (member : fact ∈ splitFacts value) : Solid fact ∧ NoBreak fact := by
  obtain ⟨solid,_,inside⟩ := mem_splitFacts member
  exact ⟨solid,fun char here => unbroken char (inside char here)⟩

private theorem sound_assign {parsed : StructuredSummary} (sound : Sound parsed) (key : Text) {value : Text}
    (inline : Inline value) : Sound (assign parsed key value) := by
  have fine : ∀ fact ∈ splitFacts value, Solid fact ∧ NoBreak fact := fun fact =>
    mem_splitFacts_inline inline.2
  have unsplit : ∀ fact ∈ splitFacts value, Unsplit fact := fun fact member =>
    (mem_splitFacts member).2.1
  unfold assign
  split_ifs
  · exact { sound with orders := fine, orders_unsplit := unsplit }
  · exact { sound with courses := fine, courses_unsplit := unsplit }
  · exact { sound with intent := inline }
  · exact { sound with confirmed := fine }
  · exact { sound with pending := fine, pending_unsplit := unsplit }
  · exact sound

private theorem inline_caught {line : Text} (unbroken : NoBreak line) {found : Regex.Cursor}
    (matched : sectionRe.matchAt [] line = some found) :
    Inline (strip (found.groups.getD 1 [])) := by
  refine ⟨tight_strip _,fun char inside => ?_⟩
  have here := mem_of_mem_strip inside
  rw [List.getD_eq_getElem?_getD] at here
  cases caught : found.groups[1]? with
  | none =>
    rw [caught] at here
    cases here
  | some value =>
    rw [caught] at here
    rcases sectionRe.run_groups (List.mem_of_mem_head? matched) (List.mem_of_getElem? caught) with
      none' | within
    · cases none'
    · exact unbroken char (within.1.subset here)

private theorem sound_parseLine {state : Parsing} (sound : Sound state.parsed)
    (leftover : ∀ line ∈ state.leftover, Solid line ∧ NoBreak line) {raw : Text}
    (unbroken : NoBreak raw) :
    Sound (parseLine state raw).parsed ∧
      ∀ line ∈ (parseLine state raw).leftover, Solid line ∧ NoBreak line := by
  have inside : NoBreak (strip raw) := fun char member => unbroken char (mem_of_mem_strip member)
  unfold parseLine
  by_cases blank : strip raw = []
  · simpa only [if_pos blank] using ⟨sound,leftover⟩
  · simp only [if_neg blank]
    cases matched : sectionRe.matchAt [] (strip raw) with
    | none =>
      refine ⟨sound,fun line member => ?_⟩
      rcases List.mem_append.mp member with old | new
      · exact leftover line old
      · rw [List.mem_singleton.mp new]
        exact ⟨⟨blank,tight_strip raw⟩,inside⟩
    | some found => exact ⟨sound_assign sound _ (inline_caught inside matched),leftover⟩

private theorem sound_finish {state : Parsing} (sound : Sound state.parsed)
    (leftover : ∀ line ∈ state.leftover, Solid line ∧ NoBreak line) : Sound state.finish := by
  unfold Parsing.finish
  split_ifs
  · exact sound
  · exact { sound with confirmed := leftover }
  · refine { sound with confirmed := fun fact member => ?_ }
    rcases mem_prependUnique member with old | new
    · exact sound.confirmed fact old
    · rw [cleaned_of_solid (fun line listed => (leftover line listed).1)] at new
      exact leftover fact new

theorem sound_parse (text : Option Text) : Sound (parse text) := by
  have nothing {P : Text → Prop} : ∀ fact ∈ ([] : List Text), P fact := fun _ member =>
    (nomatch member)
  have start : Sound empty :=
    { orders := nothing, courses := nothing, intent := ⟨⟨rfl,rfl⟩,fun _ member => (nomatch member)⟩
      confirmed := nothing, pending := nothing, orders_unsplit := nothing
      courses_unsplit := nothing, pending_unsplit := nothing }
  have run (lines : List Text) (state : Parsing) (sound : Sound state.parsed)
      (leftover : ∀ line ∈ state.leftover, Solid line ∧ NoBreak line)
      (unbroken : ∀ line ∈ lines, NoBreak line) : Sound (lines.foldl parseLine state).finish := by
    induction lines generalizing state with
    | nil => exact sound_finish sound leftover
    | cons line rest ih =>
      have step := sound_parseLine sound leftover (unbroken line List.mem_cons_self)
      exact ih _ step.1 step.2 (fun other member => unbroken other (List.mem_cons_of_mem _ member))
  rw [parse_eq]
  exact run _ _ start nothing (fun line => mem_splitlines)

/-! What is written and what is read. -/

def Atomic (fact : Text) : Prop := Unsplit fact ∧ NoBreak fact

instance (fact : Text) : Decidable (Atomic fact) := inferInstanceAs (Decidable (_ ∧ _))

/-- What a summary to be stored is known to hold. -/
structure Settled (summary : StructuredSummary) : Prop where
  orders : ∀ fact ∈ summary.orders, Solid fact
  courses : ∀ fact ∈ summary.courses, Solid fact
  intent : Inline summary.intent
  confirmed : ∀ fact ∈ summary.confirmed, Solid fact ∧ NoBreak fact
  pending : ∀ fact ∈ summary.pending, Solid fact ∧ Atomic fact

theorem parse_lines_eq_iff {summary : StructuredSummary} (settled : Settled summary) :
    parse (some summary.lines) = summary ↔
      (∀ fact ∈ summary.orders, Atomic fact) ∧ (∀ fact ∈ summary.courses, Atomic fact) ∧
        ∀ fact ∈ summary.confirmed, Unsplit fact := by
  have confirmed := fun fact member => (settled.confirmed fact member).1
  have pending := fun fact member => (settled.pending fact member).1
  have tidy (orders : ∀ fact ∈ summary.orders, Atomic fact)
      (courses : ∀ fact ∈ summary.courses, Atomic fact) : Tidy summary :=
    { orders := fun fact member => ⟨settled.orders fact member,(orders fact member).2⟩
      courses := fun fact member => ⟨settled.courses fact member,(courses fact member).2⟩
      intent := settled.intent
      confirmed := settled.confirmed
      pending := fun fact member => ⟨pending fact member,(settled.pending fact member).2.2⟩ }
  constructor
  · intro same
    have sound := sound_parse (some summary.lines)
    rw [same] at sound
    have orders : ∀ fact ∈ summary.orders, Atomic fact := fun fact member =>
      ⟨sound.orders_unsplit fact member,(sound.orders fact member).2⟩
    have courses : ∀ fact ∈ summary.courses, Atomic fact := fun fact member =>
      ⟨sound.courses_unsplit fact member,(sound.courses fact member).2⟩
    rw [parse_lines (tidy orders courses)] at same
    exact ⟨orders,courses,(reread_eq_iff confirmed).mp (congrArg (·.confirmed) same)⟩
  · rintro ⟨orders,courses,unsplit⟩
    rw [parse_lines (tidy orders courses),
      reread_of_unsplit settled.orders (fun fact member => (orders fact member).1),
      reread_of_unsplit settled.courses (fun fact member => (courses fact member).1),
      reread_of_unsplit confirmed unsplit,
      reread_of_unsplit pending (fun fact member => (settled.pending fact member).2.1)]

def Fits (summary : StructuredSummary) (maxChars : Option Int) : Prop :=
  ∀ bound ∈ maxChars, summary.lines.length ≤ resolveMaxChars bound

instance (summary : StructuredSummary) (maxChars : Option Int) : Decidable (Fits summary maxChars) :=
  match maxChars with
  | none => isTrue (fun _ member => (nomatch member))
  | some bound => decidable_of_iff (summary.lines.length ≤ resolveMaxChars bound) (by simp [Fits])

private theorem render_of_fits {summary : StructuredSummary} {maxChars : Option Int}
    (fits : Fits summary maxChars) : summary.render maxChars = summary.lines := by
  cases maxChars with
  | none => rfl
  | some bound =>
    have short := fits bound rfl
    simp only [render]
    cases summary.entries with
    | zero => exact Recency.rtake_eq_self short
    | succ fuel => rw [shrink,if_pos short]

theorem lines_of_no_content {summary : StructuredSummary} (nothing : ¬summary.hasContent = true) :
    summary.lines = [] := by
  simp only [hasContent,Bool.or_eq_true,decide_eq_true_eq,not_or,ne_eq,not_not] at nothing
  obtain ⟨⟨⟨⟨orders,courses⟩,intent⟩,confirmed⟩,pending⟩ := nothing
  simp [lines,rows,listRow,row,orders,courses,intent,confirmed,pending,join]

theorem finalize_of_fits {summary : StructuredSummary} {slots : Option SessionSlots}
    {maxChars : Option Int} (fits : Fits (summary.resolve slots) maxChars) :
    finalizeStructured summary slots maxChars = (summary.resolve slots).lines := by
  simp only [finalizeStructured]
  split_ifs with content
  · exact render_of_fits fits
  · exact (lines_of_no_content content).symm

end CustomerService.SummaryFacts
