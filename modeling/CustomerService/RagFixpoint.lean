import CustomerService.RagCompact

/-! Compaction of an answer twice. The text that it leaves is a title with one line under it, or
too short to be an outline. -/
namespace CustomerService.RagFixpoint
open Text SummaryFacts

/-! Stripping. -/

private theorem strip_initial {text : Text} (solid : heads isSpace text = false) : strip text <+: text := by
  have suffix : lstrip text.reverse <:+ text.reverse := List.dropWhile_suffix _
  rw [strip,lstrip_of_heads solid]
  simpa using List.reverse_prefix.mpr suffix

private theorem strip_length (text : Text) : (strip text).length ≤ text.length := by
  have left : (lstrip text).length ≤ text.length := (List.dropWhile_suffix _).length_le
  have right : (lstrip (lstrip text).reverse).length ≤ (lstrip text).reverse.length :=
    (List.dropWhile_suffix _).length_le
  rw [List.length_reverse] at right
  rw [strip,List.length_reverse]
  omega

private theorem strip_cons {char : Char} (solid : isSpace char = false) (rest : Text) :
    strip (char::rest) = char::(lstrip rest.reverse).reverse := by
  have stays : lstrip (char::rest) = char::rest := lstrip_of_heads solid
  rw [strip,stays,List.reverse_cons,lstrip_append (show heads isSpace [char] = false from solid),
    List.reverse_append,List.reverse_singleton,List.singleton_append]

private theorem strip_behind {first : Text} (solid : heads isSpace first = false) (some' : first ≠ [])
    {char : Char} (solid' : isSpace char = false) (rest : Text) :
    strip (first ++ char::rest) = first ++ strip (char::rest) := by
  have start : heads isSpace (first ++ char::rest) = false := by
    rw [heads_of_start some' (List.prefix_append _ _)]
    exact solid
  have turned : (first ++ char::rest).reverse = rest.reverse ++ (char::first.reverse) := by simp
  rw [strip_cons solid',strip,lstrip_of_heads start,turned,
    lstrip_append (show heads isSpace (char::first.reverse) = false from solid')]
  simp

private theorem strip_filled {char : Char} (solid : isSpace char = false) (rest : Text) :
    strip (char::rest) ≠ [] := by
  rw [strip_cons solid]
  exact List.cons_ne_nil _ _

private theorem noBreak_strip {text : Text} (unbroken : NoBreak text) : NoBreak (strip text) :=
  fun char inside => unbroken char (mem_of_mem_strip inside)

/-! What the loop gathers. -/

structure Part (part : Text) : Prop where
  filled : part ≠ []
  tight : Tight part
  unbroken : NoBreak part
  plain : "###".toList.isPrefixOf part = false

structure Gathered (state : Gathering) : Prop where
  title : Tight state.title ∧ NoBreak state.title
  parts : ∀ part ∈ state.summaryParts, Part part

private theorem gather_gathered {lines : List Text} (unbroken : ∀ line ∈ lines, NoBreak line)
    {state : Gathering} (gathered : Gathered state) : Gathered (gather lines state) := by
  induction lines generalizing state with
  | nil => exact gathered
  | cons line rest ih =>
    have here := noBreak_strip (unbroken line List.mem_cons_self)
    have later := @ih (fun other member => unbroken other (List.mem_cons_of_mem _ member))
    unfold gather
    dsimp only
    split
    · refine later ⟨⟨tight_strip _,noBreak_strip (fun char inside => ?_)⟩,gathered.parts⟩
      exact here char (List.mem_of_mem_drop inside)
    · split
      · exact gathered
      · rename_i plain
        split
        · exact later gathered
        · rename_i filled
          have part : Part (strip line) := ⟨filled,tight_strip line,here,Bool.eq_false_of_not_eq_true plain⟩
          have more : ∀ part ∈ state.summaryParts ++ [strip line], Part part := by
            intro other listed
            rcases List.mem_append.mp listed with old | new
            · exact gathered.parts other old
            · exact List.mem_singleton.mp new ▸ part
          split
          · exact ⟨gathered.title,more⟩
          · exact later ⟨gathered.title,more⟩

/-- A joined body does not look like a heading: a first part that is too short to be one is
followed by a blank. -/
theorem join_plain {parts : List Text} (fine : ∀ part ∈ parts, Part part) :
    "###".toList.isPrefixOf (join [' '] parts) = false := by
  cases parts with
  | nil => rfl
  | cons part rest =>
    have first := fine part List.mem_cons_self
    have plain := first.plain
    rw [join_cons]
    generalize follows : rest.flatMap (fun other => [' '] ++ other) = tail
    have blank : tail = [] ∨ ∃ more, tail = ' '::more := by
      cases rest with
      | nil => exact Or.inl follows.symm
      | cons next more => exact Or.inr ⟨_,follows.symm⟩
    match part with
    | [] => exact absurd rfl first.filled
    | [one] =>
      rcases blank with rfl | ⟨more,rfl⟩
      · exact plain
      · simp [List.isPrefixOf]
    | [one,two] =>
      rcases blank with rfl | ⟨more,rfl⟩
      · rw [List.append_nil]
        exact plain
      · simp [List.isPrefixOf]
    | one::two::three::others => simpa [List.isPrefixOf] using plain

structure Short (line : Text) : Prop extends Part line where
  short : line.length ≤ ragCompactSummaryChars

private theorem short_body {parts : List Text} (fine : ∀ part ∈ parts, Part part) (some' : parts ≠ []) :
    ∃ char rest, isSpace char = false ∧
      (join [' '] parts).take ragCompactSummaryChars = char::rest ∧ Short (strip (char::rest)) := by
  have tight : Tight (join [' '] parts) :=
    tight_join (fun part listed => (fine part listed).tight) (fun part listed => (fine part listed).filled)
  have filled : join [' '] parts ≠ [] := join_ne_nil some' (fun part listed => (fine part listed).filled)
  obtain ⟨char,more,same⟩ := List.exists_cons_of_ne_nil filled
  have solid : isSpace char = false := by
    have start := tight.1
    rw [same] at start
    exact start
  have cut : (join [' '] parts).take ragCompactSummaryChars = char::more.take 179 := by
    rw [same]
    rfl
  refine ⟨char,more.take 179,solid,cut,⟨strip_filled solid _,tight_strip _,?_,?_⟩,?_⟩
  · refine noBreak_strip (fun other inside => ?_)
    rw [← cut] at inside
    rcases mem_join (List.mem_of_mem_take inside) with between | ⟨part,listed,inner⟩
    · rw [List.mem_singleton.mp between]
      decide
    · exact (fine part listed).unbroken other inner
  · have inside : strip (char::more.take 179) <+: join [' '] parts := by
      refine (strip_initial (show heads isSpace (char::more.take 179) = false from solid)).trans ?_
      rw [← cut]
      exact List.take_prefix _ _
    by_contra heading
    rw [Bool.not_eq_false,List.isPrefixOf_iff_prefix] at heading
    have whole := List.isPrefixOf_iff_prefix.mpr (heading.trans inside)
    rw [join_plain fine] at whole
    cases whole
  · have bound := strip_length (char::more.take 179)
    rw [← cut] at bound ⊢
    exact bound.trans (List.length_take_le _ _)

/-! What compaction leaves. -/

inductive Outline : Text → Prop
  | title (title : Text) (filled : title ≠ []) (tight : Tight title) (unbroken : NoBreak title) :
    Outline ("## ".toList ++ title)
  | body (title line : Text) (filled : title ≠ []) (tight : Tight title) (unbroken : NoBreak title)
    (short : Short line) : Outline ("## ".toList ++ title ++ '\n'::line)

private theorem compact_outline (text : Text) :
    Outline (compactRagText text) ∨ (compactRagText text).length < ragCompactMinChars := by
  have gathered : Gathered (gather (splitlines text) ⟨[],[]⟩) :=
    gather_gathered (fun _ => mem_splitlines) ⟨⟨⟨rfl,rfl⟩,nofun⟩,nofun⟩
  unfold compactRagText
  dsimp only
  generalize gather (splitlines text) ⟨[],[]⟩ = found at gathered
  obtain ⟨title,parts⟩ := found
  dsimp only
  by_cases named : title = []
  · right
    rw [if_pos named]
    have body : ((join [' '] parts).take ragCompactSummaryChars).length ≤ 180 := List.length_take_le _ _
    split
    · decide
    · have bound := strip_length
        ("## 课程咨询".toList ++ '\n'::(join [' '] parts).take ragCompactSummaryChars)
      rw [List.length_append,List.length_cons] at bound
      have head : ("## 课程咨询".toList).length = 7 := by decide
      unfold ragCompactMinChars
      omega
  · left
    rw [if_neg named]
    have solid : heads isSpace ("## ".toList ++ title ++ ['\n']) = false := rfl
    by_cases nothing : parts = []
    · subst nothing
      exact .title title named gathered.title.1 gathered.title.2
    · obtain ⟨char,rest,start,cut,short⟩ := short_body gathered.parts nothing
      rw [cut,if_neg (List.cons_ne_nil _ _)]
      have joined : "## ".toList ++ title ++ '\n'::char::rest =
          ("## ".toList ++ title ++ ['\n']) ++ char::rest := by simp
      rw [joined,strip_behind solid (by simp) start,List.append_assoc,List.singleton_append]
      exact .body title _ named gathered.title.1 gathered.title.2 short

private theorem tight_titled {title : Text} (filled : title ≠ []) (tight : Tight title) :
    Tight ("## ".toList ++ title) := by
  have marks : Tight "##".toList := by decide
  have whole : Tight ("##".toList ++ ([' '] ++ title)) := tight_between marks tight (by decide) filled
  exact whole

private theorem noBreak_titled {title : Text} (unbroken : NoBreak title) : NoBreak ("## ".toList ++ title) := by
  intro char inside
  rcases List.mem_append.mp inside with mark | inner
  · have plain : NoBreak "## ".toList := by decide
    exact plain char mark
  · exact unbroken char inner

private theorem gather_title {title : Text} (filled : title ≠ []) (tight : Tight title) (rest : List Text) :
    gather (("## ".toList ++ title)::rest) ⟨[],[]⟩ = gather rest ⟨title,[]⟩ := by
  have marked : "## ".toList.isPrefixOf ("## ".toList ++ title) = true :=
    List.isPrefixOf_iff_prefix.mpr (List.prefix_append _ _)
  have dropped : ("## ".toList ++ title).drop 3 = title := rfl
  rw [gather]
  simp only [strip_of_tight (tight_titled filled tight),marked,and_self,if_true,dropped,
    strip_of_tight tight]

private theorem gather_line {title line : Text} (filled : title ≠ []) (short : Short line) :
    gather [line] ⟨title,[]⟩ = ⟨title,[line]⟩ := by
  have plain : ¬['#','#','#'] <+: line := fun heading => by
    have marked := List.isPrefixOf_iff_prefix.mpr heading
    rw [show ['#','#','#'].isPrefixOf line = false from short.plain] at marked
    cases marked
  simp [gather,strip_of_tight short.tight,filled,plain,short.filled]

private theorem compact_of_outline {text : Text} (outline : Outline text) : compactRagText text = text := by
  cases outline with
  | title title filled tight unbroken =>
    have lines := splitlines_line (noBreak_titled unbroken) (by simp)
    simp only [compactRagText,lines,gather_title filled tight]
    simp [gather,join,filled]
  | body title line filled tight unbroken short =>
    have lines : splitlines ("## ".toList ++ title ++ '\n'::line) = ["## ".toList ++ title,line] := by
      rw [splitlines_append (noBreak_titled unbroken),splitlines_line short.unbroken short.filled]
    have single : join [' '] [line] = line := by simp [join]
    have whole : line.take ragCompactSummaryChars = line := List.take_of_length_le short.short
    have stripped : strip ("## ".toList ++ title ++ '\n'::line) = "## ".toList ++ title ++ '\n'::line := by
      have both : Tight ("## ".toList ++ title ++ (['\n'] ++ line)) :=
        tight_between (tight_titled filled tight) short.tight (by simp) short.filled
      exact strip_of_tight both
    simp only [compactRagText,lines,gather_title filled tight,gather_line filled short,single,whole,
      if_neg short.filled,if_neg filled,stripped]

theorem compact_compact (text : Text) :
    compactRagHistory (compactRagHistory text) = compactRagHistory text := by
  by_cases long : isLongRagReply text = true
  · have once : compactRagHistory text = compactRagText text := if_pos long
    rw [once]
    rcases compact_outline text with outline | short
    · unfold compactRagHistory
      rw [compact_of_outline outline,ite_self]
    · refine if_neg ?_
      rw [isLongRagReply,if_pos short]
      decide
  · have once : compactRagHistory text = text := if_neg long
    rw [once,once]

end CustomerService.RagFixpoint
