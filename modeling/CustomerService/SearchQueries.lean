import CustomerService.CourseRetrieval
import CustomerService.Json
import CustomerService.ExpansionStability
import CustomerService.RagCompact
import CustomerService.Splitting
import CustomerService.Transition

/-! From a question to the queries that are searched: the question is expanded, rewritten, given the name of a course,
and split; what came out last is remembered for the retrieval that follows. -/
namespace CustomerService.SearchQueries

open Text Routing QueryExpansion
open SummaryFacts hiding spaced

/-! ### Rewriting -/

def anaphoraHints : List String := ["这个","那个","它","这门","那门","这门课","那门课"]

/-- Patterns of a vague question, and what is searched with it. -/
def abstractPatterns : List (Regex × Text) :=
  [(.anyOf ["难不难","难吗","好不好学","好学吗"],"课程难度 学习要求".toList),
    (.anyOf ["适合谁","适合什么人","什么人适合","零基础"],"适合人群 前置要求".toList),
    (.anyOf ["学到什么","能学到什么","学什么","有什么用","收获"],"课程模块 学习目标".toList)]

def shortQueryChars : Nat := 12

inductive RewriteReason
  | followup | abstract | none
deriving DecidableEq

structure RewriteResult where
  query : Text
  rewritten : Bool
  reason : RewriteReason

/-- `last_course_name or last_course_query`, stripped. -/
def courseHint (lastCourseName lastCourseQuery : Option Text) : Text :=
  strip ((either lastCourseName lastCourseQuery).getD [])

def isFollowup (original : Text) : Bool :=
  decide (original.length < shortQueryChars) && anaphoraHints.any (fun hint => contains hint.toList original)

def rewriteAbstract (text : Text) : RewriteResult :=
  match abstractPatterns.find? (fun pattern => (pattern.1.search text).isSome) with
  | none => ⟨text,false,.none⟩
  | some (_,keywords) =>
    if contains keywords text then ⟨text,false,.none⟩ else ⟨strip (text ++ ' '::keywords),true,.abstract⟩

def maybeRewriteQuery (query originalQuery : Text) (lastCourseName lastCourseQuery : Option Text) : RewriteResult :=
  let text := strip query
  if text = [] then ⟨text,false,.none⟩
  else
    let hint := courseHint lastCourseName lastCourseQuery
    if isFollowup (strip originalQuery) ∧ hint ≠ [] ∧ contains hint text = false then
      ⟨strip (hint ++ ' '::text),true,.followup⟩
    else rewriteAbstract text

/-! ### Course names -/

structure CourseRow where
  tenantId : Text
  code : Text
  name : Text

/-- `load_course_catalog`; a database that is out of reach counts as an empty one. -/
def loadCourseCatalog (rows : Option (List CourseRow)) (tenantId : Text) : Dict (Text × Text) Text :=
  match rows with
  | none => ∅
  | some rows =>
    Dict.update ∅ ((rows.filter (fun row => tenantId.isEmpty || row.tenantId == tenantId)).map (fun row =>
      ((row.tenantId,row.code),row.name)))

def extraAliases (code : Text) : List String :=
  if code = "python-intro".toList then ["Python入门","python入门","py入门","Python零基础"]
  else if code = "ml-basics".toList then ["机器学习基础课","机器学习导论","ML入门","机器学习课"]
  else if code = "data-analysis".toList then ["数据分析课","Pandas课","pandas课程","NumPy课"]
  else if code = "acme-onboarding".toList then ["Acme入职","入职培训课"]
  else []

section
variable (lower : Text → Text)

def normalizeKey (text : Text) : Text := lower (text.filter (fun char => !isSpace char))

/-- What one course of the catalog writes into the aliases. -/
def aliasEntries (tenantId : Text) (entry : (Text × Text) × Text) : List (Text × Text) :=
  if entry.1.1 ≠ tenantId ∨ entry.2 = [] then []
  else
    (normalizeKey lower entry.2,entry.2)::(normalizeKey lower entry.1.2,entry.2)::
      (extraAliases entry.1.2).map (fun extra => (normalizeKey lower extra.toList,entry.2))

def loadCourseAliases (rows : Option (List CourseRow)) (tenantId : Text) : Dict Text Text :=
  Dict.update ∅ ((loadCourseCatalog rows tenantId).entries.flatMap (aliasEntries lower tenantId))

/-- The alias is in the question, whose text does not have the name of its course. -/
def named (text : Text) (item : Text × Text) : Bool :=
  !item.1.isEmpty && contains item.1 (normalizeKey lower text) && !contains item.2 text

def enrichQueryWithCourseAliases (rows : Option (List CourseRow)) (query tenantId : Text) : Text :=
  let text := strip query
  if text = [] then text
  else
    let aliases := loadCourseAliases lower rows tenantId
    match (Knowledge.sortDescending (fun item => item.1.length) aliases.entries).find? (named lower text) with
    | none => text
    | some (_,courseName) => strip (courseName ++ ' '::text)

end

/-! ### Splitting -/

def separators : List Char := ['，',',','、','；',';']

def connectives : List String := ["以及","还有","同时","和","与"]

/-- `_SPLIT_PATTERN`. -/
def splitPattern : Regex := .alt (.one (fun char => separators.contains char)) (.anyOf connectives)

def complexHints : Regex := .group (.anyOf ["模块","大纲","路径","对比","区别","包含","学习","内容","讲什么","哪些"])

def longQueryChars : Nat := 16

section
variable (casefold : Text → Text)

/-- The loop that leaves out the parts that are there in another case. -/
def dedupe : List Text → List Text → List Text
  | _, [] => []
  | seen, part::rest =>
    if seen.contains (casefold part) then dedupe seen rest else part::dedupe (casefold part::seen) rest

def ruleDecompose (query : Text) (maxQueries : Nat) : List Text :=
  let text := strip query
  if text = [] then []
  else if text.length < longQueryChars ∨ (complexHints.search text).isNone then [text]
  else
    let parts := ((splitPattern.split text).map strip).filter (fun part => !part.isEmpty)
    if parts.length < 2 then [text]
    else
      let deduped := dedupe casefold [] (parts.take maxQueries)
      if deduped.isEmpty then [text] else deduped

/-- `str(item)`; `shown` is that of what is no string. -/
def itemText (shown : Json → Text) : Json → Text
  | .str text => text
  | item => shown item

/-- `_parse_query_list` of the text of a reply; what starts with a bracket is read as a list or not at all. -/
def parseQueryList (shown : Json → Text) (raw : Text) : List Text :=
  let text := strip raw
  if heads (· == '[') text then
    match Json.loads text with
    | some (.arr items) => (items.map (fun item => strip (itemText shown item))).filter (fun item => !item.isEmpty)
    | _ => []
  else if text = [] then [] else [text]

structure Settings where
  ragRewriteEnabled : Bool
  ragLlmRewriteEnabled : Bool
  llmEnabled : Bool
  ragLlmRewriteMaxQueries : Nat

variable (shown : Json → Text) (settings : Settings)

def llmDecompose (reply : Text) : List Text :=
  let items := parseQueryList shown reply
  if items.length < 2 then [] else items.take settings.ragLlmRewriteMaxQueries

/-- `decompose_retrieval_queries`; `reply` is what the model replies when it is asked, if it does not fail. -/
def decomposeRetrievalQueries (reply : Option Text) (query : Text) : List Text :=
  let text := strip query
  if text = [] then []
  else
    let byRule := ruleDecompose casefold text settings.ragLlmRewriteMaxQueries
    if settings.ragLlmRewriteEnabled && settings.llmEnabled then
      match reply with
      | none => byRule
      | some reply =>
        let llmQueries := llmDecompose shown settings reply
        if 2 ≤ llmQueries.length then llmQueries else byRule
    else byRule

end

/-! ### The question of a retrieval -/

structure SearchQueryContext where
  originalQuery : Text
  searchQuery : Text
  rewriteApplied : Bool
  rewriteReason : RewriteReason
  retrievalQueries : List Text

/-- What the model does not look into: the cases of letters, and the texts of other values of JSON. -/
structure Outside where
  lower : Text → Text
  casefold : Text → Text
  shown : Json → Text

structure Question where
  query : Text
  history : List Message
  tenantId : Text
  lastCourseQuery : Option Text
  lastCourseName : Option Text

section
variable (outside : Outside) (settings : Settings)

def Question.expanded (question : Question) : Text :=
  expandQuery question.query question.history question.lastCourseQuery question.lastCourseName

def Question.rewrite (question : Question) : RewriteResult :=
  if settings.ragRewriteEnabled then
    maybeRewriteQuery question.expanded question.query question.lastCourseName question.lastCourseQuery
  else ⟨question.expanded,false,.none⟩

/-- `_prepare_search_query`, which leaves this in the context variable. -/
def prepareSearchQuery (rows : Option (List CourseRow)) (reply : Option Text) (question : Question) :
    SearchQueryContext :=
  let rewrite := question.rewrite settings
  let final := enrichQueryWithCourseAliases outside.lower rows rewrite.query question.tenantId
  ⟨question.query,final,rewrite.rewritten,rewrite.reason,
    decomposeRetrievalQueries outside.casefold outside.shown settings reply final⟩

/-- The queries that `retrieve_course_docs` hands to the search; none is given as the empty list. -/
def retrievalQueries (remembered : Option SearchQueryContext) (reply : Option Text) (query : Text) : List Text :=
  let afresh :=
    let decomposed := decomposeRetrievalQueries outside.casefold outside.shown settings reply query
    if 1 < decomposed.length then decomposed else []
  match remembered with
  | some context =>
    if context.retrievalQueries ≠ [] ∧ context.searchQuery = query then context.retrievalQueries else afresh
  | none => afresh

end

/-! ### What a question grows to -/

private theorem strip_about (before after : Text) {middle : Text} (some' : middle ≠ []) (tight : Tight middle) :
    middle <:+: strip (before ++ (middle ++ after)) := by
  have left : heads isSpace (middle ++ after) = false := by
    rw [heads_of_start some' (List.prefix_append _ _)]
    exact tight.1
  have right : heads isSpace (middle.reverse ++ (lstrip before).reverse) = false := by
    rw [heads_of_start (List.reverse_ne_nil_iff.mpr some') (List.prefix_append _ _)]
    exact tight.2
  rw [strip,lstrip_append left,List.reverse_append,List.reverse_append,List.append_assoc,lstrip_append right,
    List.reverse_append,List.reverse_append,List.reverse_reverse,List.reverse_reverse,List.append_assoc]
  exact List.infix_append' _ _ _

/-- A question with pieces put before and after it. -/
inductive Grown (allowed : Text → Prop) (question : Text) : Text → Prop
  | asked : Grown allowed question question
  | alone {added : Text} : question = [] → allowed added → Grown allowed question (strip added)
  | before {added text : Text} : allowed added → Grown allowed question text →
    Grown allowed question (strip (added ++ ' '::text))
  | after {added text : Text} : allowed added → Grown allowed question text →
    Grown allowed question (strip (text ++ ' '::added))

theorem Grown.inside {allowed : Text → Prop} {question text : Text} (grown : Grown allowed question text)
    (some' : question ≠ []) (tight : Tight question) : Tight text ∧ question <:+: text := by
  induction grown with
  | asked => exact ⟨tight,List.infix_rfl⟩
  | alone none' => exact absurd none' some'
  | @before added text _ _ ih =>
    have filled : text ≠ [] := fun none' => some' (List.infix_nil.mp (none' ▸ ih.2))
    have about := strip_about (added ++ [' ']) [] filled ih.1
    rw [List.append_nil,List.append_assoc,List.singleton_append] at about
    exact ⟨tight_strip _,ih.2.trans about⟩
  | @after added text _ _ ih =>
    have filled : text ≠ [] := fun none' => some' (List.infix_nil.mp (none' ▸ ih.2))
    exact ⟨tight_strip _,ih.2.trans (strip_about [] _ filled ih.1)⟩

private theorem strip_strip (text : Text) : strip (strip text) = strip text := strip_of_tight (tight_strip text)

/-- What may be put to a question: the course of the session or the questions before it, what is searched with a
vague question, and the names of courses. -/
inductive Question.Allowed (question : Question) (names : Text → Prop) : Text → Prop
  | hint : Question.Allowed question names (courseHint question.lastCourseName question.lastCourseQuery)
  | history : Question.Allowed question names (join [' '] ((priorHumanTexts question.history).take 2).reverse)
  | keywords {pattern : Regex × Text} : pattern ∈ abstractPatterns → Question.Allowed question names pattern.2
  | course {name : Text} : names name → Question.Allowed question names name

section
variable {question : Question} {names : Text → Prop}

end

/-! ### The name of a course -/

section
variable {lower : Text → Text} {rows : Option (List CourseRow)} {tenantId : Text}

end

/-! ### Courses of other tenants -/

section
variable {Key Value : Type} [DecidableEq Key] {keep : Key → Bool}

end

theorem splitPattern_separator {char : Char} (separates : separators.contains char = true) (before rest : Text) :
    splitPattern.matchLength before ([char] ++ rest) ≠ 0 := by
  have matched : (splitPattern.matchAt before (char::rest)).isSome = true := by
    have first : heads (fun char => separators.contains char) (char::rest) = true := separates
    unfold Regex.matchAt splitPattern Regex.run
    rw [Regex.run,if_pos first]
    rfl
  exact Nat.pos_iff_ne_zero.mp (Regex.matchLength_pos _ (by decide) matched)

private theorem splitPattern_connective {word : String} (listed : word ∈ connectives) (before rest : Text) :
    splitPattern.matchLength before (word.toList ++ rest) ≠ 0 := by
  have matched : (splitPattern.matchAt before (word.toList ++ rest)).isSome = true := by
    have some' : (Regex.anyOf connectives).run ⟨before,word.toList ++ rest,[]⟩ ≠ [] := Regex.anyOf_run listed rfl
    rw [Regex.matchAt,List.isSome_head?]
    unfold splitPattern Regex.run
    simp [some']
  exact Nat.pos_iff_ne_zero.mp (Regex.matchLength_pos _ (by decide) matched)

private theorem strip_inside (text : Text) : strip text <:+: text := by
  have inner : (lstrip (lstrip text).reverse).reverse <+: lstrip text := by
    have suffix : lstrip (lstrip text).reverse <:+ (lstrip text).reverse := List.dropWhile_suffix _
    simpa using List.reverse_prefix.mpr suffix
  exact inner.isInfix.trans (List.dropWhile_suffix _).isInfix

/-- Parts of a text without a comma or a connective in them. -/
structure Parts (casefold : Text → Text) (text : Text) (queries : List Text) : Prop where
  inside : ∀ query ∈ queries, query <:+: text
  distinct : (queries.map casefold).Nodup
  separated : ∀ query ∈ queries, ∀ char ∈ query, separators.contains char = false
  unconnected : ∀ query ∈ queries, ∀ word ∈ connectives, ¬word.toList <:+: query

def Queries (queries : List Text) : Prop := ∀ query ∈ queries, query ≠ [] ∧ Tight query

section
variable {casefold : Text → Text}

private theorem dedupe_sublist (seen parts : List Text) : (dedupe casefold seen parts).Sublist parts := by
  induction parts generalizing seen with
  | nil => exact List.Sublist.slnil
  | cons part rest ih =>
    unfold dedupe
    split_ifs
    · exact (ih seen).cons part
    · exact (ih _).cons_cons part

private theorem dedupe_distinct (seen parts : List Text) :
    ((dedupe casefold seen parts).map casefold).Nodup ∧
      ∀ part ∈ dedupe casefold seen parts, casefold part ∉ seen := by
  induction parts generalizing seen with
  | nil => exact ⟨List.nodup_nil,nofun⟩
  | cons part rest ih =>
    unfold dedupe
    split_ifs with there
    · exact ih seen
    · obtain ⟨distinct,fresh⟩ := ih (casefold part::seen)
      have new : casefold part ∉ seen := fun listed => there (List.contains_iff_mem.mpr listed)
      constructor
      · refine List.nodup_cons.mpr ⟨fun again => ?_,distinct⟩
        obtain ⟨other,listed,same⟩ := List.mem_map.mp again
        exact fresh other listed (same ▸ List.mem_cons_self)
      · rintro other (_ | ⟨_,listed⟩)
        · exact new
        · exact fun old => fresh other listed (List.mem_cons_of_mem _ old)

private theorem queries_filter {parts : List Text} :
    Queries ((parts.map strip).filter (fun part => !part.isEmpty)) := by
  intro query listed
  obtain ⟨inside,some'⟩ := List.mem_filter.mp listed
  obtain ⟨part,_,rfl⟩ := List.mem_map.mp inside
  exact ⟨fun none' => by simp [none'] at some',tight_strip part⟩

private theorem parts_split {text : Text} {queries : List Text}
    (among : ∀ query ∈ queries, ∃ piece ∈ splitPattern.split text, query = strip piece)
    (distinct : (queries.map casefold).Nodup) : Parts casefold text queries := by
  refine ⟨?_,distinct,?_,?_⟩
  · intro query listed
    obtain ⟨piece,split,rfl⟩ := among query listed
    exact (strip_inside piece).trans (Regex.split_inside _ split)
  · intro query listed char inside
    obtain ⟨piece,split,rfl⟩ := among query listed
    by_contra separates
    have separator : separators.contains char = true := by simpa using separates
    refine Regex.split_free _ (List.cons_ne_nil char []) (splitPattern_separator separator) split ?_
    exact (List.singleton_infix_iff _ _).mpr (mem_of_mem_strip inside)
  · intro query listed word connective inside
    obtain ⟨piece,split,rfl⟩ := among query listed
    have filled : ∀ word ∈ connectives, word.toList ≠ [] := by decide
    exact Regex.split_free _ (filled word connective) (splitPattern_connective connective) split
      (inside.trans (strip_inside piece))

/-- The text as it is, or some queries that are known to be something. -/
def Searchable (text : Text) (most : Nat) (known : List Text → Prop) (queries : List Text) : Prop :=
  Queries queries ∧ (queries = [text] ∨ queries.length ≤ most ∧ queries ≠ [] ∧ known queries)

theorem Searchable.whole {text : Text} (some' : text ≠ []) (tight : Tight text) (most : Nat)
    (known : List Text → Prop) : Searchable text most known [text] := by
  refine ⟨?_,Or.inl rfl⟩
  rintro other (_ | ⟨_,⟨⟩⟩)
  exact ⟨some',tight⟩

theorem Searchable.weaken {text : Text} {most : Nat} {known : List Text → Prop} {queries : List Text}
    (searchable : Searchable text most known queries) (known' : List Text → Prop)
    (weaken : known queries → known' queries) : Searchable text most known' queries :=
  ⟨searchable.1,searchable.2.imp_right (fun told => ⟨told.1,told.2.1,weaken told.2.2⟩)⟩

theorem ruleDecompose_spec (casefold : Text → Text) (query : Text) (maxQueries : Nat) (some' : strip query ≠ []) :
    Searchable (strip query) maxQueries (Parts casefold (strip query)) (ruleDecompose casefold query maxQueries) := by
  have whole := Searchable.whole some' (tight_strip _) maxQueries (Parts casefold (strip query))
  unfold ruleDecompose
  dsimp only
  rw [if_neg some']
  split_ifs with simple few nothing
  · exact whole
  · exact whole
  · exact whole
  · generalize deduped : dedupe casefold [] _ = queries at nothing ⊢
    have sub : queries.Sublist _ := deduped ▸ dedupe_sublist _ _
    have filtered := fun query listed => List.mem_of_mem_take (sub.subset (a := query) listed)
    refine ⟨fun query listed => queries_filter query (filtered query listed),Or.inr ⟨?_,?_,?_⟩⟩
    · exact sub.length_le.trans (List.length_take_le _ _)
    · exact fun none' => nothing (List.isEmpty_iff.mpr none')
    · refine parts_split (fun query listed => ?_) (deduped ▸ (dedupe_distinct [] _).1)
      obtain ⟨piece,split,rfl⟩ := List.mem_map.mp (List.mem_of_mem_filter (filtered query listed))
      exact ⟨piece,split,rfl⟩

variable {shown : Json → Text} {settings : Settings}

private theorem queries_parseQueryList (raw : Text) : Queries (parseQueryList shown raw) := by
  unfold parseQueryList
  dsimp only
  split_ifs with list none'
  · cases Json.loads (strip raw) with
    | none => exact nofun
    | some value =>
      cases value with
      | arr items =>
        dsimp only
        rw [show items.map (fun item => strip (itemText shown item)) = (items.map (itemText shown)).map strip by
          rw [List.map_map]; rfl]
        exact queries_filter
      | _ => exact nofun
  · exact nofun
  · rintro other (_ | ⟨_,⟨⟩⟩)
    exact ⟨none',tight_strip _⟩

/-- The model is asked, and `queries` are of the list that it replies with. -/
def Replied (shown : Json → Text) (settings : Settings) (reply : Option Text) (queries : List Text) : Prop :=
  settings.ragLlmRewriteEnabled = true ∧ settings.llmEnabled = true ∧ ∃ text, reply = some text ∧
    queries = (parseQueryList shown text).take settings.ragLlmRewriteMaxQueries

private theorem decompose_blank (reply : Option Text) {query : Text} (none' : strip query = []) :
    decomposeRetrievalQueries casefold shown settings reply query = [] := if_pos none'

theorem decompose_spec (casefold : Text → Text) (shown : Json → Text) (settings : Settings) (reply : Option Text)
    {query : Text} (some' : strip query ≠ []) :
    Searchable (strip query) settings.ragLlmRewriteMaxQueries
      (fun queries => Replied shown settings reply queries ∨ Parts casefold (strip query) queries)
      (decomposeRetrievalQueries casefold shown settings reply query) := by
  have again : strip (strip query) ≠ [] := by rwa [strip_strip]
  have rule := ruleDecompose_spec casefold (strip query) settings.ragLlmRewriteMaxQueries again
  rw [strip_strip] at rule
  have byRule := rule.weaken (fun queries => Replied shown settings reply queries ∨
    Parts casefold (strip query) queries) Or.inr
  unfold decomposeRetrievalQueries
  dsimp only
  rw [if_neg some']
  split_ifs with asked
  · obtain ⟨enabled,model⟩ := Bool.and_eq_true_iff.mp asked
    cases reply with
    | none => exact byRule
    | some text =>
      dsimp only
      split_ifs with several
      · have listed : llmDecompose shown settings text =
            (parseQueryList shown text).take settings.ragLlmRewriteMaxQueries := by
          unfold llmDecompose at several ⊢
          dsimp only at several ⊢
          split_ifs at several with few
          · cases several
          · rw [if_neg few]
        rw [listed] at several ⊢
        refine ⟨fun query inside => queries_parseQueryList text query (List.mem_of_mem_take inside),Or.inr ⟨?_,?_,?_⟩⟩
        · exact List.length_take_le _ _
        · exact fun none' => by simp [none'] at several
        · exact Or.inl ⟨enabled,model,text,rfl,rfl⟩
      · exact byRule
  · exact byRule

end

/-! ### A task that prepares questions and retrieves -/

def searchedQueries (query : Text) (given : List Text) : List Text :=
  let active := Knowledge.activeQueries query given
  if 1 < active.length then active else [query]

inductive Event
  | prepare (question : Question) (rows : Option (List CourseRow)) (reply : Option Text)
  | retrieve (query : Text) (reply : Option Text)

/-- The context variable of a task, and the queries that it searched for the query it was asked with. -/
structure Task where
  remembered : Option SearchQueryContext
  searched : List (Text × List Text)

section
variable (outside : Outside) (settings : Settings)

def Task.step (task : Task) : Event → Task
  | .prepare question rows reply =>
    { task with remembered := some (prepareSearchQuery outside settings rows reply question) }
  | .retrieve query reply =>
    { task with searched := task.searched ++
        [(query,searchedQueries query (retrievalQueries outside settings task.remembered reply query))] }

def Task.run (events : List Event) : Task := Transition.run (Task.step outside settings) ⟨none,[]⟩ events

/-- The query that an event has taken apart, and what the model replies. -/
def Event.asked : Event → Text × Option Text
  | .prepare question rows reply => ((prepareSearchQuery outside settings rows reply question).searchQuery,reply)
  | .retrieve query reply => (query,reply)

/-- What is searched for a query that is taken apart on the spot. -/
def partsOf (reply : Option Text) (query : Text) : List Text :=
  let decomposed := decomposeRetrievalQueries outside.casefold outside.shown settings reply query
  if 1 < decomposed.length then decomposed else [query]

end

theorem activeQueries_queries (query : Text) {given : List Text} (some' : given ≠ []) (queries : Queries given) :
    Knowledge.activeQueries query given = given := by
  have stripped : given.map strip = given := by
    conv_rhs => rw [← List.map_id given]
    exact List.map_congr_left (fun part listed => strip_of_tight (queries part listed).2)
  have kept : given.filter (fun part => !part.isEmpty) = given := by
    refine List.filter_eq_self.mpr (fun part listed => ?_)
    simpa using (queries part listed).1
  unfold Knowledge.activeQueries
  dsimp only
  rw [if_neg (fun none' => some' (List.isEmpty_iff.mp none')),stripped,kept,
    if_neg (fun none' => some' (List.isEmpty_iff.mp none'))]

private theorem searchedQueries_queries (query : Text) (given : List Text) (queries : Queries given) :
    searchedQueries query given = if 1 < given.length then given else [query] := by
  cases given with
  | nil =>
    unfold searchedQueries Knowledge.activeQueries
    by_cases none' : strip query = [] <;> simp [none']
  | cons first others =>
    unfold searchedQueries
    rw [activeQueries_queries query (List.cons_ne_nil _ _) queries]

section
variable {outside : Outside} {settings : Settings}

private theorem queries_decompose (reply : Option Text) (query : Text) :
    Queries (decomposeRetrievalQueries outside.casefold outside.shown settings reply query) := by
  by_cases none' : strip query = []
  · rw [decompose_blank reply none']
    exact nofun
  · exact (decompose_spec _ _ settings reply none').1

private theorem searched_afresh (reply : Option Text) (query : Text) :
    searchedQueries query (retrievalQueries outside settings none reply query) =
      partsOf outside settings reply query := by
  unfold retrievalQueries partsOf
  dsimp only
  split_ifs with several
  · rw [searchedQueries_queries query _ (queries_decompose reply query),if_pos several]
  · exact searchedQueries_queries query [] nofun

theorem searched_remembered (outside : Outside) (settings : Settings) (remembered : Option SearchQueryContext)
    (reply : Option Text) (query : Text) :
    searchedQueries query (retrievalQueries outside settings remembered reply query) =
        partsOf outside settings reply query ∨
      ∃ context, remembered = some context ∧ context.searchQuery = query ∧
        searchedQueries query (retrievalQueries outside settings remembered reply query) =
          searchedQueries query context.retrievalQueries := by
  cases remembered with
  | none => exact Or.inl (searched_afresh reply query)
  | some context =>
    by_cases fits : context.retrievalQueries ≠ [] ∧ context.searchQuery = query
    · refine Or.inr ⟨context,rfl,fits.2,?_⟩
      unfold retrievalQueries
      dsimp only
      rw [if_pos fits]
    · refine Or.inl (Eq.trans ?_ (searched_afresh reply query))
      unfold retrievalQueries
      dsimp only
      rw [if_neg fits]

/-- What is remembered and what was searched comes from queries of the run, taken apart. -/
structure Task.Traced (outside : Outside) (settings : Settings) (events : List Event) (task : Task) : Prop where
  remembered : ∀ context, task.remembered = some context → ∃ event ∈ events, ∃ reply,
    event.asked outside settings = (context.searchQuery,reply) ∧
      context.retrievalQueries =
        decomposeRetrievalQueries outside.casefold outside.shown settings reply context.searchQuery
  searched : ∀ entry ∈ task.searched, ∃ event ∈ events, ∃ reply,
    event.asked outside settings = (entry.1,reply) ∧ entry.2 = partsOf outside settings reply entry.1

theorem Task.Traced.step {events : List Event} {task : Task} (traced : task.Traced outside settings events)
    (event : Event) : (task.step outside settings event).Traced outside settings (events ++ [event]) := by
  have further {Holds : Event → Prop} (some' : ∃ event ∈ events, Holds event) :
      ∃ other ∈ events ++ [event], Holds other := by
    obtain ⟨other,listed,holds⟩ := some'
    exact ⟨other,List.mem_append_left _ listed,holds⟩
  have last : event ∈ events ++ [event] := List.mem_append_right _ List.mem_cons_self
  cases event with
  | prepare question rows reply =>
    refine ⟨fun context held => ?_,fun entry listed => further (traced.searched entry listed)⟩
    obtain rfl := Option.some.inj held
    exact ⟨_,last,reply,rfl,rfl⟩
  | retrieve query reply =>
    refine ⟨fun context held => further (traced.remembered context held),fun entry listed => ?_⟩
    rcases List.mem_append.mp listed with old | new
    · exact further (traced.searched entry old)
    · obtain rfl := List.mem_singleton.mp new
      rcases searched_remembered outside settings task.remembered reply query with same | ⟨context,held,rfl,same⟩
      · exact ⟨_,last,reply,rfl,same⟩
      · obtain ⟨asking,inside,earlier,asked,decomposed⟩ := traced.remembered context held
        refine ⟨asking,List.mem_append_left _ inside,earlier,asked,?_⟩
        dsimp only
        rw [same,decomposed,searchedQueries_queries _ _ (queries_decompose earlier _)]
        rfl

theorem Task.run_traced (outside : Outside) (settings : Settings) (events : List Event) :
    (Task.run outside settings events).Traced outside settings events := by
  induction events using List.reverseRecOn with
  | nil => exact ⟨nofun,nofun⟩
  | append_singleton events event ih =>
    unfold Task.run at ih ⊢
    rw [Transition.run_append]
    exact ih.step event

end

section
variable {Score : Type} [Field Score] [LinearOrder Score]

private theorem retrieveCourseHits_congr (host : Knowledge.Host) (search : Knowledge.SearchTools Score)
    (ragSettings : Knowledge.RagSettings) (minScore : Score) (query tenantId : Text) (k : Nat) (courseCode : Text)
    {given other : List Text} (same : searchedQueries query given = searchedQueries query other) :
    host.retrieveCourseHits search ragSettings minScore query tenantId k courseCode given =
      host.retrieveCourseHits search ragSettings minScore query tenantId k courseCode other := by
  unfold searchedQueries at same
  dsimp only at same
  unfold Knowledge.Host.retrieveCourseHits Knowledge.Host.searchTenantDocuments
  dsimp only
  generalize Knowledge.activeQueries query given = first at same ⊢
  generalize Knowledge.activeQueries query other = second at same ⊢
  by_cases several : 1 < first.length
  · rw [if_pos several] at same
    by_cases several' : 1 < second.length
    · rw [if_pos several'] at same
      rw [same]
    · rw [if_neg several'] at same
      rw [same] at several
      exact absurd several (Nat.lt_irrefl 1)
  · rw [if_neg several] at same
    by_cases several' : 1 < second.length
    · rw [if_pos several'] at same
      rw [← same] at several'
      exact absurd several' (Nat.lt_irrefl 1)
    · -- one query is searched, and the gate does not read which
      rw [if_neg several,if_neg several']
      generalize host.singleQueryHits search ragSettings query tenantId _ _ courseCode = found
      rcases found with _ | ⟨next,fused,ranked⟩
      · rfl
      · dsimp only
        rw [Option.map_map,Option.map_map]
        rfl

/-- Whatever a task prepared and retrieved before, a retrieval searches its own query: as it is, or in some parts, which
the model replied with for this query or which the rules took out of it; and without a model it finds what it would find
if nothing were remembered. -/
theorem retrievals_search_their_query (outside : Outside) (settings : Settings) (events : List Event) :
    (∀ entry ∈ (Task.run outside settings events).searched, ∃ event ∈ events, ∃ reply,
      event.asked outside settings = (entry.1,reply) ∧ (entry.2 = [entry.1] ∨
        1 < entry.2.length ∧ entry.2.length ≤ settings.ragLlmRewriteMaxQueries ∧ Queries entry.2 ∧
          (Replied outside.shown settings reply entry.2 ∨ Parts outside.casefold (strip entry.1) entry.2))) ∧
    ((settings.ragLlmRewriteEnabled && settings.llmEnabled) = false →
      ∀ (host : Knowledge.Host) (search : Knowledge.SearchTools Score) (ragSettings : Knowledge.RagSettings)
        (minScore : Score) (query tenantId : Text) (k : Nat) (courseCode : Text) (reply : Option Text),
        host.retrieveCourseHits search ragSettings minScore query tenantId k courseCode
            (retrievalQueries outside settings (Task.run outside settings events).remembered reply query) =
          host.retrieveCourseHits search ragSettings minScore query tenantId k courseCode
            (retrievalQueries outside settings none reply query)) := by
  have traced := Task.run_traced outside settings events
  constructor
  · intro entry listed
    obtain ⟨event,inside,reply,asked,parts⟩ := traced.searched entry listed
    refine ⟨event,inside,reply,asked,?_⟩
    rw [parts]
    unfold partsOf
    dsimp only
    split_ifs with several
    · by_cases none' : strip entry.1 = []
      · rw [decompose_blank reply none'] at several
        cases several
      · obtain ⟨queries,whole | ⟨few,_,known⟩⟩ := decompose_spec outside.casefold outside.shown
          settings reply none'
        · rw [whole] at several
          exact absurd several (Nat.lt_irrefl 1)
        · exact Or.inr ⟨several,few,queries,known⟩
    · exact Or.inl rfl
  · intro unasked host search ragSettings minScore query tenantId k courseCode reply
    apply retrieveCourseHits_congr
    have same : ∀ reply query, decomposeRetrievalQueries outside.casefold outside.shown settings reply query =
        decomposeRetrievalQueries outside.casefold outside.shown settings none query := by
      intro reply query
      unfold decomposeRetrievalQueries
      rw [unasked]
      rfl
    rw [searched_afresh]
    rcases searched_remembered outside settings _ reply query with afresh | ⟨context,held,rfl,remembered⟩
    · exact afresh
    · obtain ⟨_,_,earlier,_,decomposed⟩ := traced.remembered context held
      rw [remembered,decomposed,same,searchedQueries_queries _ _ (queries_decompose none _)]
      unfold partsOf
      dsimp only
      rw [same reply]

end

end CustomerService.SearchQueries
