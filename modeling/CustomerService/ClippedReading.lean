import CustomerService.SummaryClip
import Mathlib.Algebra.GroupWithZero.Nat

/-! What is read from a clipped rendering: the newest entries of each section, and the rest of a line
that the limit has torn, which is taken for a confirmed fact. -/
namespace CustomerService.SummaryFacts

open Text StructuredSummary

/-! A cut of joined lines. -/

/-- The characters of lines that follow another one, with their line feeds. -/
def taken (lines : List Text) : Nat := (lines.map (fun line => line.length + 1)).sum

/-- What the last characters hold of the line they begin in; nothing when they begin with a line. -/
def torn (limit : Nat) : List Text → Text
  | [] => []
  | line::rest =>
    if limit < taken rest then torn limit rest
    else if line.length + taken rest ≤ limit then []
    else line.rtake (limit - taken rest)

private theorem length_below (rest : List Text) :
    (rest.flatMap (fun other => ['\n'] ++ other)).length = taken rest := by
  induction rest with
  | nil => rfl
  | cons line rest ih =>
    have total : taken (line::rest) = line.length + 1 + taken rest := List.sum_cons
    rw [List.flatMap_cons,List.length_append,ih,total]
    simp

private theorem length_join (line : Text) (rest : List Text) :
    (join ['\n'] (line::rest)).length = line.length + taken rest := by
  rw [join_cons,List.length_append,length_below]

private theorem torn_of_fits {limit : Nat} {lines : List Text} (fits : (join ['\n'] lines).length ≤ limit) :
    torn limit lines = [] := by
  cases lines with
  | nil => rfl
  | cons line rest =>
    rw [length_join] at fits
    rw [torn,if_neg (by omega),if_pos fits]

private theorem rtake_join (limit : Nat) (lines : List Text) : ∃ rest, rest ⊆ lines ∧
    ((join ['\n'] lines).rtake limit = join ['\n'] rest ∧ torn limit lines = [] ∨
      (join ['\n'] lines).rtake limit = join ['\n'] (torn limit lines::rest) ∧
        ∃ line ∈ lines, torn limit lines <:+ line ∧ torn limit lines ≠ line) := by
  induction lines with
  | nil => exact ⟨[],List.Subset.refl _,.inl ⟨List.drop_nil,rfl⟩⟩
  | cons line rest ih =>
    unfold torn
    split_ifs with later whole
    · obtain ⟨others,inside,cases'⟩ := ih
      obtain ⟨next,more,rfl⟩ := List.exists_cons_of_ne_nil (l := rest) (by
        rintro rfl
        exact absurd later (Nat.not_lt_zero _))
      have split : join ['\n'] (line::next::more) = line ++ ['\n'] ++ join ['\n'] (next::more) := by
        rw [join_cons,join_cons,List.flatMap_cons]
        simp
      have total : taken (next::more) = (join ['\n'] (next::more)).length + 1 := by
        rw [length_join]
        change next.length + 1 + taken more = _
        omega
      rw [split,Recency.rtake_append_of_le (by omega)]
      refine ⟨others,List.subset_cons_of_subset _ inside,cases'.imp_right (fun ⟨same,other,here,ends⟩ => ?_)⟩
      exact ⟨same,other,List.mem_cons_of_mem _ here,ends⟩
    · refine ⟨line::rest,List.Subset.refl _,.inl ⟨Recency.rtake_eq_self ?_,rfl⟩⟩
      rw [length_join]
      exact whole
    · refine ⟨rest,List.subset_cons_self _ _,.inr ⟨?_,line,List.mem_cons_self,List.drop_suffix _ _,?_⟩⟩
      · rw [join_cons,join_cons,Recency.rtake_append_of_ge (by rw [length_below]; omega),length_below]
      · intro same
        have size := congrArg List.length same
        rw [Recency.length_rtake] at size
        omega

/-! The newest entries take no more room than all of them. -/

private theorem join_newest_le (facts : List Text) :
    (join ['；'] (facts.rtake 1)).length ≤ (join ['；'] facts).length := by
  induction facts with
  | nil => exact le_rfl
  | cons fact rest ih =>
    by_cases last : rest = []
    · rw [last]
      exact le_rfl
    · have some' := List.length_pos_of_ne_nil last
      rw [← rtake_one_tail (show 1 < (fact::rest).length by simpa using some'),List.tail_cons]
      refine ih.trans ?_
      rw [join_cons]
      obtain ⟨next,more,rfl⟩ := List.exists_cons_of_ne_nil last
      rw [join_cons,List.flatMap_cons]
      simp only [List.length_append]
      omega

theorem taken_append (first second : List Text) : taken (first ++ second) = taken first + taken second := by
  simp [taken]

private theorem taken_listRow (key : String) (facts : List Text) :
    taken (listRow key (facts.rtake 1)) ≤ taken (listRow key facts) := by
  have less := join_newest_le facts
  unfold listRow
  by_cases none' : facts = []
  · rw [none']
    exact le_rfl
  · have some' : facts.rtake 1 ≠ [] := by
      intro nothing
      have size := congrArg List.length nothing
      rw [Recency.length_rtake,List.length_nil] at size
      have more := List.length_pos_of_ne_nil none'
      omega
    rw [if_neg none',if_neg some']
    simp only [taken,List.map_cons,List.map_nil,List.sum_cons,List.sum_nil,List.length_append,
      List.length_cons]
    omega

private theorem length_lines (summary : StructuredSummary) : summary.lines.length = taken summary.rows - 1 := by
  unfold lines
  cases summary.rows with
  | nil => rfl
  | cons line rest =>
    rw [length_join]
    change _ = line.length + 1 + taken rest - 1
    omega

private theorem newest_lines_le (summary : StructuredSummary) :
    (newest summary).lines.length ≤ summary.lines.length := by
  rw [length_lines,length_lines]
  refine Nat.sub_le_sub_right ?_ 1
  simp only [rows,taken_append]
  have orders := taken_listRow "订单" summary.orders
  have courses := taken_listRow "课程" summary.courses
  have confirmed := taken_listRow "已确认" summary.confirmed
  have pending := taken_listRow "未决" summary.pending
  simp only [newest]
  omega

/-! Reading the rest of a line. -/

def headed (text : Text) : Bool :=
  sectionKeys.any (fun key => key.isPrefixOf text && heads isColon (text.drop key.length))

def Unheaded (text : Text) : Prop := ∀ part ∈ text.tails, headed part = false

instance (text : Text) : Decidable (Unheaded text) :=
  inferInstanceAs (Decidable (∀ part ∈ text.tails, headed part = false))

theorem match_headed {line : Text} (unheaded : headed line = false) : sectionRe.matchAt [] line = none := by
  by_contra matched
  obtain ⟨found,matched⟩ := Option.ne_none_iff_exists'.mp matched
  obtain ⟨start,here,matched⟩ := Regex.seq_head matched
  obtain ⟨middle,key,matched⟩ := Regex.seq_head matched
  obtain ⟨after,colon,_⟩ := Regex.seq_head matched
  obtain ⟨stop,within,rfl⟩ := List.mem_map.mp key
  obtain ⟨word,listed,same⟩ := Regex.anyOf_takes within
  have first : start.after = line := by
    have only : start ∈ [(⟨[],line,[]⟩ : Regex.Cursor)] := here
    rw [List.mem_singleton.mp only]
  have second : heads isColon stop.after = true := by
    by_contra other
    rw [Regex.run,if_neg other] at colon
    cases colon
  have known : word.toList ∈ sectionKeys := List.mem_map_of_mem (f := String.toList) listed
  rw [first] at same
  have found : headed line = true := by
    refine List.any_eq_true.mpr ⟨word.toList,known,?_⟩
    rw [same,List.drop_left,second,Bool.and_true,List.isPrefixOf_iff_prefix]
    exact List.prefix_append _ _
  rw [unheaded] at found
  cases found

private theorem unheaded_rest {key value part : Text} (known : key ∈ sectionKeys) (unheaded : Unheaded value)
    (ends : part <:+ rowOf key value) (proper : part ≠ rowOf key value) : headed part = false := by
  have within (inside : part <:+ '：'::value) : headed part = false := by
    obtain rfl | deeper := List.suffix_cons_iff.mp inside
    · rfl
    · exact unheaded part (List.mem_tails _ _ |>.mpr deeper)
  simp only [sectionKeys,List.mem_cons,List.not_mem_nil,or_false] at known
  obtain rfl | rfl | rfl | rfl | rfl := known
  all_goals
    obtain whole | ends := List.suffix_cons_iff.mp ends
    · exact absurd whole proper
    obtain rfl | ends := List.suffix_cons_iff.mp ends
    · rfl
  · exact within ends
  · exact within ends
  · exact within ends
  · obtain rfl | ends := List.suffix_cons_iff.mp ends
    · rfl
    · exact within ends
  · exact within ends

private theorem lstrip_cut {part line : Text} (tight : Tight line) (some' : part ≠ []) (ends : part <:+ line)
    (rest : Text) : lstrip (part ++ rest) = strip part ++ rest ∧ strip part ≠ [] ∧
      strip part <:+ part := by
  have last : heads isSpace part.reverse = false := by
    rw [← heads_of_start (List.reverse_ne_nil_iff.mpr some') (List.reverse_prefix.mpr ends)]
    exact tight.2
  have inner : lstrip part <:+ part := List.dropWhile_suffix _
  have left : lstrip part ≠ [] := by
    intro blank
    have all := List.dropWhile_eq_nil_iff.mp blank
    obtain ⟨char,others,same⟩ := List.exists_cons_of_ne_nil (List.reverse_ne_nil_iff.mpr some')
    have space := all char (List.mem_reverse.mp (same ▸ List.mem_cons_self))
    rw [same] at last
    exact absurd space (Bool.eq_false_iff.mp last)
  have right : heads isSpace (lstrip part).reverse = false := by
    rw [← heads_of_start (List.reverse_ne_nil_iff.mpr left) (List.reverse_prefix.mpr inner)]
    exact last
  have core : strip part = lstrip part := by
    rw [strip,lstrip_of_heads right,List.reverse_reverse]
  rw [core]
  refine ⟨?_,left,inner⟩
  unfold lstrip at left ⊢
  rw [List.dropWhile_append,if_neg (by simpa using left)]

private theorem strip_feed (text : Text) : strip ('\n'::text) = strip text := by
  have feed : lstrip ('\n'::text) = lstrip text := List.dropWhile_cons_of_pos (by decide)
  unfold strip
  rw [feed]

private theorem splitlines_torn {part line : Text} (inline : Inline line) (some' : part ≠ [])
    (ends : part <:+ line) {rest : List Text} (fine : ∀ line ∈ rest, line ≠ [] ∧ Inline line) :
    splitlines (strip (join ['\n'] (part::rest))) = strip part::rest := by
  obtain ⟨front,nonempty,inside⟩ := lstrip_cut inline.1 some' ends
    (rest.flatMap (fun other => ['\n'] ++ other))
  rw [← join_cons,← join_cons] at front
  have core : Inline (strip part) := ⟨tight_strip part,fun char member =>
    inline.2 char (ends.subset (inside.subset member))⟩
  have lines := splitlines_rows (List.forall_mem_cons.mpr ⟨⟨nonempty,core⟩,fine⟩)
  have again : strip (join ['\n'] (part::rest)) = strip (join ['\n'] (strip part::rest)) := by
    have still : lstrip (join ['\n'] (strip part::rest)) = join ['\n'] (strip part::rest) := by
      rw [← front]
      exact lstrip_of_heads (heads_lstrip _)
    change (lstrip (lstrip (join ['\n'] (part::rest))).reverse).reverse =
      (lstrip (lstrip (join ['\n'] (strip part::rest))).reverse).reverse
    rw [front,still]
  rw [again]
  exact lines

/-! Reading rows. -/

def sections (summary : StructuredSummary) : List (Text × Text) :=
  [("订单".toList,join ['；'] summary.orders),("课程".toList,join ['；'] summary.courses),
    ("意图".toList,summary.intent),("已确认".toList,join ['；'] summary.confirmed),
    ("未决".toList,join ['；'] summary.pending)]

/-- Entries that are stripped and not blank, and hold no separator, line break or section heading. -/
def Clean (fact : Text) : Prop := Solid fact ∧ Atomic fact ∧ Unheaded fact

instance (fact : Text) : Decidable (Clean fact) := inferInstanceAs (Decidable (_ ∧ _ ∧ _))

structure CleanSummary (summary : StructuredSummary) : Prop where
  orders : ∀ fact ∈ summary.orders, Clean fact
  courses : ∀ fact ∈ summary.courses, Clean fact
  intent : Inline summary.intent ∧ Unheaded summary.intent
  confirmed : ∀ fact ∈ summary.confirmed, Clean fact
  pending : ∀ fact ∈ summary.pending, Clean fact

theorem CleanSummary.tidy {summary : StructuredSummary} (clean : CleanSummary summary) : Tidy summary where
  orders fact member := ⟨(clean.orders fact member).1,(clean.orders fact member).2.1.2⟩
  courses fact member := ⟨(clean.courses fact member).1,(clean.courses fact member).2.1.2⟩
  intent := clean.intent.1
  confirmed fact member := ⟨(clean.confirmed fact member).1,(clean.confirmed fact member).2.1.2⟩
  pending fact member := ⟨(clean.pending fact member).1,(clean.pending fact member).2.1.2⟩

theorem CleanSummary.clipped {summary smaller : StructuredSummary} (clean : CleanSummary summary)
    (clipped : Clipped summary smaller) : CleanSummary smaller where
  orders fact member := clean.orders fact (clipped.orders.subset member)
  courses fact member := clean.courses fact (clipped.courses.subset member)
  intent := clipped.intent ▸ clean.intent
  confirmed fact member := clean.confirmed fact (clipped.confirmed.subset member)
  pending fact member := clean.pending fact (clipped.pending.subset member)

private theorem reread_clean {facts : List Text} (clean : ∀ fact ∈ facts, Clean fact) : reread facts = facts :=
  reread_of_unsplit (fun fact member => (clean fact member).1) (fun fact member => (clean fact member).2.1.1)

private theorem parse_clean {summary : StructuredSummary} (clean : CleanSummary summary) :
    parse (some summary.lines) = summary := by
  rw [parse_lines clean.tidy,reread_clean clean.orders,reread_clean clean.courses,
    reread_clean clean.confirmed,reread_clean clean.pending]

/-- Each section is read as it was or not at all. -/
structure Shows (summary read : StructuredSummary) : Prop where
  orders : read.orders = [] ∨ read.orders = summary.orders
  courses : read.courses = [] ∨ read.courses = summary.courses
  intent : read.intent = [] ∨ read.intent = summary.intent
  confirmed : read.confirmed = [] ∨ read.confirmed = summary.confirmed
  pending : read.pending = [] ∨ read.pending = summary.pending

private theorem shows_empty (summary : StructuredSummary) : Shows summary empty :=
  ⟨.inl rfl,.inl rfl,.inl rfl,.inl rfl,.inl rfl⟩

section
variable {summary : StructuredSummary} (clean : CleanSummary summary)
include clean

private theorem mem_sections {line : Text} (member : line ∈ summary.rows) :
    ∃ pair ∈ sections summary, pair.2 ≠ [] ∧ line = rowOf pair.1 pair.2 := by
  have one {key : String} {value : Text} (listed : line ∈ row key value) :
      value ≠ [] ∧ line = rowOf key.toList value := by
    unfold row at listed
    split_ifs at listed with nothing
    · cases listed
    · exact ⟨nothing,List.mem_singleton.mp listed⟩
  have many {key : String} {facts : List Text} (fine : ∀ fact ∈ facts, Clean fact)
      (listed : line ∈ listRow key facts) :
      join ['；'] facts ≠ [] ∧ line = rowOf key.toList (join ['；'] facts) :=
    one (listRow_eq (fun fact member => (fine fact member).1.1) ▸ listed)
  simp only [rows,List.mem_append] at member
  obtain (((here | here) | here) | here) | here := member
  · exact ⟨_,List.mem_cons_self,many clean.orders here⟩
  · exact ⟨("课程".toList,join ['；'] summary.courses),by simp [sections],many clean.courses here⟩
  · exact ⟨("意图".toList,summary.intent),by simp [sections],one here⟩
  · exact ⟨("已确认".toList,join ['；'] summary.confirmed),by simp [sections],many clean.confirmed here⟩
  · exact ⟨("未决".toList,join ['；'] summary.pending),by simp [sections],many clean.pending here⟩

private theorem known_section {pair : Text × Text} (listed : pair ∈ sections summary) :
    pair.1 ∈ sectionKeys ∧ Inline pair.2 := by
  have keys : (sections summary).map Prod.fst = sectionKeys := rfl
  refine ⟨keys ▸ List.mem_map_of_mem listed,?_⟩
  simp only [sections,List.mem_cons,List.not_mem_nil,or_false] at listed
  obtain rfl | rfl | rfl | rfl | rfl := listed
  · exact inline_join clean.tidy.orders
  · exact inline_join clean.tidy.courses
  · exact clean.tidy.intent
  · exact inline_join clean.tidy.confirmed
  · exact inline_join clean.tidy.pending

private theorem shows_assign {pair : Text × Text} (listed : pair ∈ sections summary) {read : StructuredSummary}
    (shows' : Shows summary read) : Shows summary (assign read pair.1 pair.2) := by
  simp only [sections,List.mem_cons,List.not_mem_nil,or_false] at listed
  obtain rfl | rfl | rfl | rfl | rfl := listed
  · exact { shows' with orders := .inr (reread_clean clean.orders) }
  · exact { shows' with courses := .inr (reread_clean clean.courses) }
  · exact { shows' with intent := .inr rfl }
  · exact { shows' with confirmed := .inr (reread_clean clean.confirmed) }
  · exact { shows' with pending := .inr (reread_clean clean.pending) }

private theorem fold_rows {rest : List Text} (inside : rest ⊆ summary.rows) {state : Parsing}
    (shows' : Shows summary state.parsed) :
    Shows summary (rest.foldl parseLine state).parsed ∧
      (rest.foldl parseLine state).leftover = state.leftover := by
  induction rest generalizing state with
  | nil => exact ⟨shows',rfl⟩
  | cons line rest ih =>
    obtain ⟨here,later⟩ := List.cons_subset.mp inside
    obtain ⟨pair,listed,some',rfl⟩ := mem_sections clean here
    obtain ⟨known,inline⟩ := known_section clean listed
    rw [List.foldl_cons,parseLine_row known inline some']
    exact ih later (shows_assign clean listed shows')

private theorem shows_parse {rest : List Text} (inside : rest ⊆ summary.rows) :
    Shows summary (parse (some (join ['\n'] rest))) := by
  rw [parse_eq,Option.getD_some,splitlines_rows (fun line member => mem_rows clean.tidy (inside member))]
  obtain ⟨shows',leftover⟩ := @fold_rows _ clean _ inside ⟨.empty,[],false⟩ (shows_empty summary)
  rw [Parsing.finish,if_pos leftover]
  exact shows'

private theorem parse_torn {rest : List Text} (inside : rest ⊆ summary.rows) {line part : Text}
    (listed : line ∈ summary.rows) (some' : part ≠ []) (ends : part <:+ line)
    (unheaded : headed (strip part) = false) :
    ∃ read saw, Shows summary read ∧
      parse (some (join ['\n'] (part::rest))) = Parsing.finish ⟨read,[strip part],saw⟩ := by
  have inline := (mem_rows clean.tidy listed).2
  have core := (lstrip_cut inline.1 some' ends []).2.1
  have first : parseLine ⟨.empty,[],false⟩ (strip part) = ⟨.empty,[strip part],false⟩ := by
    unfold parseLine
    simp only [strip_of_tight (tight_strip part),if_neg core,match_headed unheaded]
    rfl
  obtain ⟨shows',leftover⟩ := @fold_rows _ clean _ inside ⟨.empty,[strip part],false⟩
    (shows_empty summary)
  refine ⟨_,(rest.foldl parseLine ⟨.empty,[strip part],false⟩).sawSection,shows',?_⟩
  rw [parse_eq,Option.getD_some,splitlines_torn inline some' ends (fun line member =>
    mem_rows clean.tidy (inside member)),List.foldl_cons,first]
  exact congrArg Parsing.finish (congrArg (Parsing.mk _ · _) leftover)

end

/-! What a clipped rendering is read as. -/

/-- Every list holds the last entries of the same list, and the intent is there or not. -/
structure Faithful (summary read : StructuredSummary) : Prop where
  orders : read.orders <:+ summary.orders
  courses : read.courses <:+ summary.courses
  intent : read.intent = [] ∨ read.intent = summary.intent
  confirmed : read.confirmed <:+ summary.confirmed
  pending : read.pending <:+ summary.pending

private theorem suffix_of_shows {facts read : List Text} (shows' : read = [] ∨ read = facts.rtake 1) :
    read <:+ facts := by
  obtain rfl | rfl := shows'
  · exact List.nil_suffix
  · exact List.drop_suffix _ _

private theorem faithful_of_shows {summary read : StructuredSummary} (shows' : Shows (newest summary) read) :
    Faithful summary read where
  orders := suffix_of_shows shows'.orders
  courses := suffix_of_shows shows'.courses
  intent := shows'.intent
  confirmed := suffix_of_shows shows'.confirmed
  pending := suffix_of_shows shows'.pending

private theorem rtake_one_of_suffix {facts front : List Text} {last : Text} (ends : front ++ [last] <:+ facts) :
    facts.rtake 1 = [last] := by
  obtain ⟨before,rfl⟩ := ends
  rw [← List.append_assoc]
  exact Recency.rtake_append_of_le (show 1 ≤ [last].length from le_rfl)

private theorem faithful_finish_iff {summary read : StructuredSummary} (shows' : Shows (newest summary) read)
    {line : Text} (solid : Solid line) (saw : Bool) :
    Faithful summary (Parsing.finish ⟨read,[line],saw⟩) ↔ line ∈ (newest summary).confirmed := by
  have only (member : line ∈ (newest summary).confirmed) : (newest summary).confirmed = [line] := by
    have short : (newest summary).confirmed.length ≤ 1 := by
      change (summary.confirmed.rtake 1).length ≤ 1
      rw [Recency.length_rtake]
      exact Nat.min_le_left _ _
    obtain ⟨other,same⟩ := List.length_eq_one_iff.mp (le_antisymm short (List.length_pos_of_mem member))
    rw [same] at member ⊢
    rw [List.mem_singleton.mp member]
  have added : prependUnique read.confirmed [line] 6 =
      (read.confirmed.filter (fun other => other ≠ line)).rtake 5 ++ [line] := by
    rw [prependUnique_eq,cleaned_of_solid (fun other member => List.mem_singleton.mp member ▸ solid)]
    exact Recency.rtake_append_of_ge (by simp)
  cases saw with
  | false =>
    change Faithful summary { read with confirmed := [line] } ↔ _
    constructor
    · intro faithful
      have last := @rtake_one_of_suffix _ [] _ faithful.confirmed
      exact (congrArg (line ∈ ·) last).mpr (List.mem_singleton_self line)
    · intro member
      exact faithful_of_shows { shows' with confirmed := .inr (only member).symm }
  | true =>
    change Faithful summary { read with confirmed := prependUnique read.confirmed [line] 6 } ↔ _
    rw [added]
    constructor
    · intro faithful
      have last := rtake_one_of_suffix faithful.confirmed
      exact (congrArg (line ∈ ·) last).mpr (List.mem_singleton_self line)
    · intro member
      have whole := only member
      have nothing : read.confirmed.filter (fun other => other ≠ line) = [] := by
        obtain same | same := shows'.confirmed
        · rw [same]
          rfl
        · rw [same,whole]
          simp
      rw [nothing]
      exact faithful_of_shows { shows' with confirmed := .inr whole.symm }

/-- The limit tears no line, or leaves the newest confirmed fact of it. -/
def Untorn (summary : StructuredSummary) (limit : Nat) : Prop :=
  torn limit (newest summary).rows = [] ∨
    strip (torn limit (newest summary).rows) ∈ (newest summary).confirmed

private theorem unheaded_section {summary : StructuredSummary} (clean : CleanSummary (newest summary))
    {pair : Text × Text} (listed : pair ∈ sections (newest summary)) : Unheaded pair.2 := by
  have entry {facts : List Text} (fine : ∀ fact ∈ facts.rtake 1, Clean fact) :
      Unheaded (join ['；'] (facts.rtake 1)) := by
    have short : (facts.rtake 1).length ≤ 1 := by
      rw [Recency.length_rtake]
      exact Nat.min_le_left _ _
    cases same : facts.rtake 1 with
    | nil => decide
    | cons fact rest =>
      rw [same] at fine short
      obtain rfl : rest = [] := List.length_eq_zero_iff.mp (by simpa using short)
      rw [join,List.intercalate_singleton]
      exact (fine fact List.mem_cons_self).2.2
  simp only [sections,List.mem_cons,List.not_mem_nil,or_false] at listed
  obtain rfl | rfl | rfl | rfl | rfl := listed
  · exact entry clean.orders
  · exact entry clean.courses
  · exact clean.intent.2
  · exact entry clean.confirmed
  · exact entry clean.pending

theorem faithful_cut_iff {summary : StructuredSummary} (clean : CleanSummary (newest summary)) (limit : Nat) :
    Faithful summary (parse (some ((newest summary).lines.rtake limit))) ↔ Untorn summary limit := by
  obtain ⟨rest,inside,⟨cut,whole⟩ | ⟨cut,line,listed,ends,proper⟩⟩ := rtake_join limit (newest summary).rows
  · rw [lines,cut]
    exact iff_of_true (faithful_of_shows (shows_parse clean inside)) (.inl whole)
  · rw [lines,cut]
    by_cases nothing : torn limit (newest summary).rows = []
    · have blank : parse (some (join ['\n'] ([]::rest))) = parse (some (join ['\n'] rest)) := by
        rw [parse_eq,parse_eq,Option.getD_some,Option.getD_some]
        cases rest with
        | nil => rfl
        | cons next more =>
          have feed : join ['\n'] ([]::next::more) = '\n'::join ['\n'] (next::more) := by
            rw [join_cons,join_cons]
            rfl
          rw [feed,strip_feed]
      rw [nothing,blank]
      exact iff_of_true (faithful_of_shows (shows_parse clean inside)) (.inl nothing)
    · obtain ⟨pair,known,_,rfl⟩ := mem_sections clean listed
      have inline := (mem_rows clean.tidy listed).2
      obtain ⟨_,core,inner⟩ := lstrip_cut inline.1 nothing ends []
      have smaller : strip (torn limit (newest summary).rows) ≠ rowOf pair.1 pair.2 := by
        intro same
        rw [same] at inner
        exact proper (ends.eq_of_length_le inner.length_le)
      have unheaded := unheaded_rest (known_section clean known).1 (unheaded_section clean known)
        (inner.trans ends) smaller
      obtain ⟨read,saw,shows',text⟩ := parse_torn clean inside listed nothing ends unheaded
      rw [text,faithful_finish_iff shows' ⟨core,tight_strip _⟩]
      exact (or_iff_right nothing).symm

/-- A clipped rendering is read as what the summary holds exactly when the limit tears no line but the
newest confirmed fact from its label. -/
theorem clipped_reading_iff {summary : StructuredSummary} (clean : CleanSummary summary)
    (maxChars : Option Int) :
    Faithful summary (parse (some (summary.render maxChars))) ↔
      ∀ bound ∈ maxChars, Untorn summary (resolveMaxChars bound) := by
  have whole {smaller : StructuredSummary} (clipped : Clipped summary smaller) :
      Faithful summary (parse (some smaller.lines)) := by
    rw [parse_clean (clean.clipped clipped)]
    exact ⟨clipped.orders,clipped.courses,.inr clipped.intent,clipped.confirmed,clipped.pending⟩
  cases maxChars with
  | none => exact iff_of_true (whole (Clipped.refl summary)) (fun _ member => by cases member)
  | some bound =>
    simp only [Option.mem_def,Option.some.injEq,forall_eq']
    obtain ⟨smaller,order,⟨short,text⟩ | ⟨_,text⟩⟩ :=
      shrink_cases (resolveMaxChars bound) (le_refl summary.entries)
    · rw [render,text]
      refine iff_of_true (whole order.toClipped) (.inl (torn_of_fits ?_))
      change (newest summary).lines.length ≤ _
      rw [← order.newest]
      exact (newest_lines_le smaller).trans short
    · rw [render,text]
      exact faithful_cut_iff (clean.clipped (clipped_newest summary)) _

def longCourse : StructuredSummary :=
  { empty with courses := [List.replicate 90 'x'], confirmed := [fitForBeginners] }

private theorem clean_longCourse : CleanSummary longCourse :=
  ⟨by decide,by decide +kernel,⟨⟨by decide,by decide⟩,by decide⟩,by decide +kernel,by decide⟩

theorem clipped_reading_long_course :
    Faithful longCourse (parse (some (longCourse.render (some 80)))) ↔
      ∀ bound ∈ some (80 : Int), Untorn longCourse (resolveMaxChars bound) :=
  clipped_reading_iff clean_longCourse (some 80)

/-- The end of a course name becomes a confirmed fact; entries with blanks are not read as they were. -/
theorem clipped_fabricates :
    (CleanSummary longCourse ∧ List.replicate 70 'x' ∈
        (parse (some (longCourse.render (some 80)))).confirmed ∧
      ¬Faithful longCourse (parse (some (longCourse.render (some 80))))) ∧
    ∀ facts ∈ [["a".toList,[]],[" a".toList]], (∀ fact ∈ facts, Atomic fact ∧ Unheaded fact) ∧
      ¬Faithful { empty with orders := facts }
        (parse (some (StructuredSummary.render { empty with orders := facts } (some 80)))) := by
  refine ⟨⟨clean_longCourse,by decide +kernel,fun faithful => ?_⟩,fun facts listed => ?_⟩
  · exact absurd faithful.confirmed (by decide +kernel)
  · simp only [List.mem_cons,List.not_mem_nil,or_false] at listed
    obtain rfl | rfl := listed
    · exact ⟨by decide +kernel,fun faithful => absurd faithful.orders (by decide +kernel)⟩
    · exact ⟨by decide +kernel,fun faithful => absurd faithful.orders (by decide +kernel)⟩

end CustomerService.SummaryFacts
