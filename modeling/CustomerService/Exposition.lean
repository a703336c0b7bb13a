import CustomerService.Text

/-! The text format in which metrics are exposed, as a scraper reads it: lines of samples with quoted label
values, and comments. -/
namespace CustomerService.Exposition

open Text

structure Sample where
  name : Text
  labels : List (Text × Text)
  value : Text
deriving DecidableEq

def nameChar (char : Char) : Bool := char.isAlphanum || char == '_'

def labelName (name : Text) : Bool := heads (fun char => char.isAlpha || char == '_') name && name.all nameChar

def metricChar (char : Char) : Bool := nameChar char || char == ':'

def metricName (name : Text) : Bool :=
  heads (fun char => char.isAlpha || char == '_' || char == ':') name && name.all metricChar

def plainValue (value : Text) : Bool := !value.isEmpty && value.all (fun char => char ≠ ' ' ∧ char ≠ '\n')

/-! The reader. -/

/-- A quoted value from its first character on, and what follows the closing quote. -/
def readValue : Text → Option (Text × Text)
  | [] => none
  | '"'::rest => some ([],rest)
  | '\n'::_ => none
  | '\\' :: '\\' :: rest => (readValue rest).map (fun found => ('\\'::found.1,found.2))
  | '\\' :: 'n' :: rest => (readValue rest).map (fun found => ('\n'::found.1,found.2))
  | '\\' :: '"' :: rest => (readValue rest).map (fun found => ('"'::found.1,found.2))
  | '\\'::_ => none
  | char::rest => (readValue rest).map (fun found => (char::found.1,found.2))

def readLabel (text : Text) : Option ((Text × Text) × Text) :=
  let name := text.takeWhile nameChar
  if labelName name then
    match text.dropWhile nameChar with
    | '=' :: '"' :: rest => (readValue rest).map (fun found => ((name,found.1),found.2))
    | _ => none
  else none

/-- The labels up to the closing brace, and what follows it; the number bounds how many there are. -/
def readLabels : Nat → Text → Option (List (Text × Text) × Text)
  | 0, _ => none
  | bound + 1, text =>
    match readLabel text with
    | some (label,','::rest) => (readLabels bound rest).map (fun found => (label::found.1,found.2))
    | some (label,'}'::rest) => some ([label],rest)
    | _ => none

def readSample (name : Text) (labels : List (Text × Text)) (value : Text) : Option Sample :=
  if plainValue value then some ⟨name,labels,value⟩ else none

def readLine (line : Text) : Option Sample :=
  let name := line.takeWhile metricChar
  if metricName name then
    match line.dropWhile metricChar with
    | ' '::value => readSample name [] value
    | '{'::rest =>
      match readLabels rest.length rest with
      | some (labels,' '::value) => readSample name labels value
      | _ => none
    | _ => none
  else none

def isComment (line : Text) : Bool := line.isEmpty || heads (· == '#') line

def readExposition (text : Text) : Option (List Sample) :=
  ((text.splitOn '\n').filter (fun line => !isComment line)).mapM readLine

/-! The writer. -/

def escapeChar (char : Char) : Text :=
  if char = '\\' then ['\\','\\'] else if char = '\n' then ['\\','n']
  else if char = '"' then ['\\','"'] else [char]

def escape (value : Text) : Text := value.flatMap escapeChar

def writeLabel (label : Text × Text) : Text := label.1 ++ '=' :: '"' :: (escape label.2 ++ ['"'])

def writeLabels (labels : List (Text × Text)) : Text :=
  if labels = [] then [] else '{'::(join [','] (labels.map writeLabel) ++ ['}'])

def writeLine (sample : Sample) : Text := sample.name ++ (writeLabels sample.labels ++ ' '::sample.value)

structure Sample.Valid (sample : Sample) : Prop where
  name : metricName sample.name = true
  labels : ∀ label ∈ sample.labels, labelName label.1 = true
  value : plainValue sample.value = true

private theorem readValue_escape (value rest : Text) :
    readValue (escape value ++ '"'::rest) = some (value,rest) := by
  induction value with
  | nil => rfl
  | cons char others ih =>
    rw [escape,List.flatMap_cons,← escape,List.append_assoc]
    unfold escapeChar
    split_ifs with slash line quote
    · simp [slash,readValue,ih]
    · simp [line,readValue,ih]
    · simp [quote,readValue,ih]
    · have same : readValue (char::(escape others ++ '"'::rest)) =
          (readValue (escape others ++ '"'::rest)).map (fun found => (char::found.1,found.2)) := by
        rw [readValue] <;> simp_all
      rw [List.cons_append,List.nil_append,same,ih]
      rfl

private theorem split_at {accepts : Char → Bool} {first : Text} (inside : first.all accepts = true) {char : Char}
    (outside : accepts char = false) (rest : Text) :
    (first ++ char::rest).takeWhile accepts = first ∧ (first ++ char::rest).dropWhile accepts = char::rest := by
  have every : ∀ char ∈ first, accepts char = true := List.all_eq_true.mp inside
  have plain : ¬accepts char = true := by simp [outside]
  rw [List.takeWhile_append_of_pos every,List.dropWhile_append_of_pos every,
    List.takeWhile_cons_of_neg plain,List.dropWhile_cons_of_neg plain,List.append_nil]
  exact ⟨rfl,rfl⟩

private theorem readLabel_write {label : Text × Text} (named : labelName label.1 = true) (rest : Text) :
    readLabel (writeLabel label ++ rest) = some (label,rest) := by
  have whole : writeLabel label ++ rest = label.1 ++ ('=' :: '"' :: (escape label.2 ++ '"'::rest)) := by
    simp [writeLabel]
  obtain ⟨taken,left⟩ := split_at (Bool.and_eq_true_iff.mp named).2 (show nameChar '=' = false by decide)
    ('"'::(escape label.2 ++ '"'::rest))
  simp only [readLabel,whole,taken,left,named,if_true,readValue_escape,Option.map_some]

private theorem readLabels_write {labels : List (Text × Text)} (some' : labels ≠ [])
    (named : ∀ label ∈ labels, labelName label.1 = true) {bound : Nat} (enough : labels.length ≤ bound)
    (rest : Text) :
    readLabels bound (join [','] (labels.map writeLabel) ++ '}'::rest) = some (labels,rest) := by
  induction labels generalizing bound with
  | nil => exact absurd rfl some'
  | cons label others ih =>
    obtain ⟨here,later⟩ := List.forall_mem_cons.mp named
    obtain ⟨less,rfl⟩ : ∃ less, bound = less + 1 := ⟨bound - 1,by simp at enough; omega⟩
    cases others with
    | nil =>
      have single : join [','] ([label].map writeLabel) ++ '}'::rest = writeLabel label ++ '}'::rest := by
        simp [join,List.intercalate]
      simp only [single,readLabels,readLabel_write here]
    | cons next more =>
      have many : join [','] ((label::next::more).map writeLabel) ++ '}'::rest =
          writeLabel label ++ ','::(join [','] ((next::more).map writeLabel) ++ '}'::rest) := by
        simp [join,List.intercalate]
      simp only [many,readLabels,readLabel_write here]
      rw [ih (List.cons_ne_nil _ _) later (by simpa using enough)]
      rfl

private theorem readSample_valid {sample : Sample} (valid : sample.Valid) :
    readSample sample.name sample.labels sample.value = some sample := if_pos valid.value

private theorem length_le_join (labels : List (Text × Text)) :
    labels.length ≤ (join [','] (labels.map writeLabel)).length := by
  induction labels with
  | nil => exact Nat.zero_le _
  | cons label others ih =>
    cases others with
    | nil =>
      simp only [join,List.map_cons,List.map_nil,List.intercalate_singleton,writeLabel,List.length_append,
        List.length_cons]
      omega
    | cons next more =>
      have many : join [','] ((label::next::more).map writeLabel) =
          writeLabel label ++ ','::join [','] ((next::more).map writeLabel) := by
        simp [join,List.intercalate]
      rw [many,List.length_append]
      simp only [List.length_cons] at ih ⊢
      omega

theorem readLine_write {sample : Sample} (valid : sample.Valid) : readLine (writeLine sample) = some sample := by
  have named := (Bool.and_eq_true_iff.mp valid.name).2
  unfold writeLine writeLabels
  split_ifs with none'
  · rw [List.nil_append]
    obtain ⟨taken,left⟩ := split_at named (show metricChar ' ' = false by decide) sample.value
    simp only [readLine,taken,left,valid.name,if_true]
    rw [← none',readSample_valid valid]
  · have whole : '{'::(join [','] (sample.labels.map writeLabel) ++ ['}']) ++ ' '::sample.value =
        '{'::(join [','] (sample.labels.map writeLabel) ++ '}'::(' '::sample.value)) := by
      simp
    obtain ⟨taken,left⟩ := split_at named (show metricChar '{' = false by decide)
      (join [','] (sample.labels.map writeLabel) ++ '}'::(' '::sample.value))
    have enough : sample.labels.length ≤
        (join [','] (sample.labels.map writeLabel) ++ '}'::(' '::sample.value)).length := by
      rw [List.length_append]
      exact Nat.le_trans (length_le_join _) (Nat.le_add_right _ _)
    simp only [readLine,whole,taken,left,valid.name,if_true,readLabels_write none' valid.labels enough]
    exact readSample_valid valid

/-! No line ends inside a sample. -/

private theorem newline_escape (value : Text) : '\n' ∉ escape value := by
  intro inside
  obtain ⟨char,_,made⟩ := List.mem_flatMap.mp inside
  unfold escapeChar at made
  split_ifs at made with slash line quote
  · simp at made
  · simp at made
  · simp at made
  · exact line (List.mem_singleton.mp made).symm

theorem newline_name {accepts : Char → Bool} (apart : accepts '\n' = false) {name : Text}
    (inside : name.all accepts = true) : '\n' ∉ name := by
  intro member
  rw [List.all_eq_true.mp inside '\n' member] at apart
  cases apart

private theorem newline_join {parts : List Text} {separator : Text} (apart : '\n' ∉ separator)
    (clean : ∀ part ∈ parts, '\n' ∉ part) : '\n' ∉ join separator parts := by
  induction parts with
  | nil => exact List.not_mem_nil
  | cons part rest ih =>
    obtain ⟨here,later⟩ := List.forall_mem_cons.mp clean
    cases rest with
    | nil =>
      rw [join,List.intercalate_singleton]
      exact here
    | cons next more =>
      have after := ih later
      rw [join] at after ⊢
      rw [List.intercalate_cons_cons]
      simp only [List.mem_append,not_or]
      exact ⟨⟨here,apart⟩,after⟩

theorem newline_writeLabels {labels : List (Text × Text)} (named : ∀ label ∈ labels, labelName label.1 = true) :
    '\n' ∉ writeLabels labels := by
  unfold writeLabels
  split_ifs
  · exact List.not_mem_nil
  · have inner : '\n' ∉ join [','] (labels.map writeLabel) := by
      refine newline_join (by decide) (fun part listed => ?_)
      obtain ⟨label,member,rfl⟩ := List.mem_map.mp listed
      have first := newline_name (by decide) (Bool.and_eq_true_iff.mp (named label member)).2
      simp [writeLabel,first,newline_escape]
    simp [inner]

private theorem newline_writeLine {sample : Sample} (valid : sample.Valid) : '\n' ∉ writeLine sample := by
  have name := newline_name (by decide) (Bool.and_eq_true_iff.mp valid.name).2
  have labels := newline_writeLabels valid.labels
  have value : '\n' ∉ sample.value := by
    intro inside
    have plain := List.all_eq_true.mp (Bool.and_eq_true_iff.mp valid.value).2 '\n' inside
    simp at plain
  simp [writeLine,name,labels,value]

/-! ### A whole text -/

/-- A line of a text: a comment, which may be blank, or a sample. -/
inductive Entry
  | comment (line : Text)
  | sample (sample : Sample)

def Entry.line : Entry → Text
  | .comment line => line
  | .sample item => writeLine item

def Entry.sample? : Entry → Option Sample
  | .comment _ => none
  | .sample item => some item

def Entry.Valid : Entry → Prop
  | .comment line => isComment line = true ∧ '\n' ∉ line
  | .sample item => item.Valid

theorem comment_writeLine {sample : Sample} (valid : sample.Valid) : isComment (writeLine sample) = false := by
  obtain ⟨first,_⟩ := Bool.and_eq_true_iff.mp valid.name
  unfold writeLine
  cases named : sample.name with
  | nil =>
    rw [named] at first
    cases first
  | cons char rest =>
    rw [named] at first
    simp only [List.cons_append,isComment,List.isEmpty_cons,Bool.false_or,heads]
    by_contra hash
    obtain rfl : char = '#' := by simpa using hash
    exact absurd (show ('#'.isAlpha || '#' == '_' || '#' == ':') = true from first) (by decide)

/-- The lines are comments and the samples, in their order. -/
def Written (lines : List Text) (samples : List Sample) : Prop :=
  ∃ entries : List Entry, entries.map Entry.line = lines ∧ entries.filterMap Entry.sample? = samples ∧
    ∀ entry ∈ entries, entry.Valid

theorem Written.nil : Written [] [] := ⟨[],rfl,rfl,fun _ listed => (by cases listed)⟩

theorem Written.append {lines lines' : List Text} {samples samples' : List Sample}
    (first : Written lines samples) (second : Written lines' samples') :
    Written (lines ++ lines') (samples ++ samples') := by
  obtain ⟨entries,rfl,rfl,valid⟩ := first
  obtain ⟨entries',rfl,rfl,valid'⟩ := second
  exact ⟨entries ++ entries',List.map_append,List.filterMap_append,List.forall_mem_append.mpr ⟨valid,valid'⟩⟩

theorem Written.flatMap {Item : Type*} {items : List Item} {lines : Item → List Text}
    {samples : Item → List Sample} (each : ∀ item ∈ items, Written (lines item) (samples item)) :
    Written (items.flatMap lines) (items.flatMap samples) := by
  induction items with
  | nil => exact .nil
  | cons item rest ih =>
    obtain ⟨here,later⟩ := List.forall_mem_cons.mp each
    exact here.append (ih later)

theorem Written.comment {line : Text} (hash : heads (· == '#') line = true) (single : '\n' ∉ line) :
    Written [line] [] := by
  refine ⟨[.comment line],rfl,rfl,fun entry listed => ?_⟩
  obtain rfl := List.mem_singleton.mp listed
  exact ⟨by simp [isComment,hash],single⟩

theorem Written.blank : Written [[]] [] := by
  refine ⟨[.comment []],rfl,rfl,fun entry listed => ?_⟩
  obtain rfl := List.mem_singleton.mp listed
  exact ⟨rfl,List.not_mem_nil⟩

theorem Written.sample {item : Sample} (valid : item.Valid) : Written [writeLine item] [item] := by
  refine ⟨[.sample item],rfl,rfl,fun entry listed => ?_⟩
  obtain rfl := List.mem_singleton.mp listed
  exact valid

theorem Written.map {Item : Type*} {items : List Item} {line : Item → Text} {sample : Item → Sample}
    (each : ∀ item ∈ items, Written [line item] [sample item]) : Written (items.map line) (items.map sample) := by
  have whole := Written.flatMap each
  rwa [← List.map_eq_flatMap,← List.map_eq_flatMap] at whole

theorem Written.read {lines : List Text} {samples : List Sample} (written : Written lines samples)
    (some' : lines ≠ []) : readExposition (join ['\n'] lines) = some samples := by
  obtain ⟨entries,rfl,rfl,valid⟩ := written
  have lines : (join ['\n'] (entries.map Entry.line)).splitOn '\n' = entries.map Entry.line := by
    refine List.splitOn_intercalate '\n' (fun line listed => ?_) some'
    obtain ⟨entry,member,rfl⟩ := List.mem_map.mp listed
    cases entry with
    | comment line => exact (valid _ member).2
    | sample item => exact newline_writeLine (valid _ member)
  rw [readExposition,lines]
  clear lines some'
  induction entries with
  | nil => rfl
  | cons entry rest ih =>
    obtain ⟨here,later⟩ := List.forall_mem_cons.mp valid
    have after := ih later
    cases entry with
    | comment line =>
      have skipped : isComment line = true := here.1
      rw [List.map_cons,Entry.line,List.filter_cons_of_neg (by simp [skipped]),after]
      rfl
    | sample item =>
      have kept : isComment (writeLine item) = false := comment_writeLine here
      rw [List.map_cons,Entry.line,List.filter_cons_of_pos (by simp [kept]),List.mapM_cons,readLine_write here,
        after]
      rfl

end CustomerService.Exposition
