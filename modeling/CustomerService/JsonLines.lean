import CustomerService.Json

/-! A file of one JSON value a line, with blank lines and `#` comments skipped. -/
namespace CustomerService.JsonLines

open Text Json

def dataLines (text : Text) : List Text :=
  ((splitlines text).map strip).filter (fun line => !line.isEmpty && !heads (· == '#') line)

def load (text : Text) : Option (List Json) := (dataLines text).mapM loads

def written (rows : List Text) : Text := rows.flatMap (fun row => row ++ ['\n'])

def Ended (text : Text) : Prop := text = [] ∨ ∃ before, text = before ++ ['\n']

instance (text : Text) : Decidable (Ended text) :=
  decidable_of_iff (text.getLast? = none ∨ text.getLast? = some '\n') (by
    rw [List.getLast?_eq_none_iff,List.getLast?_eq_some_iff,Ended])

structure IsRow (row : Text) : Prop where
  unbroken : NoBreak row
  tight : Tight row
  filled : row ≠ []
  plain : heads (· == '#') row = false

private theorem splitlines_ne_nil {text : Text} (some' : text ≠ []) : splitlines text ≠ [] := by
  induction text with
  | nil => exact absurd rfl some'
  | cons char rest ih =>
    unfold splitlines
    split_ifs with broken together
    · refine ih (fun none' => ?_)
      rw [none'] at together
      exact Bool.false_ne_true together.2
    · exact List.cons_ne_nil _ _
    · cases splitlines rest <;> exact List.cons_ne_nil _ _

private theorem splitlines_ended (first second : Text) :
    splitlines (first ++ '\n'::second) = splitlines (first ++ ['\n']) ++ splitlines second := by
  induction first with
  | nil => exact @splitlines_append [] second (by decide)
  | cons char rest ih =>
    have next : heads (· == '\n') (rest ++ '\n'::second) = heads (· == '\n') (rest ++ ['\n']) := by
      cases rest <;> rfl
    simp only [List.cons_append,splitlines,next,ih]
    split_ifs with broken together
    · rfl
    · rfl
    · obtain ⟨line,lines,found⟩ := List.exists_cons_of_ne_nil
        (splitlines_ne_nil (show rest ++ ['\n'] ≠ [] by simp))
      rw [found]
      rfl

private theorem dataLines_append {first : Text} (ended : Ended first) (second : Text) :
    dataLines (first ++ second) = dataLines first ++ dataLines second := by
  rcases ended with rfl | ⟨before,rfl⟩
  · rfl
  · rw [List.append_assoc]
    simp only [dataLines,List.singleton_append,splitlines_ended before second,List.map_append,
      List.filter_append]

private theorem dataLines_cons {row : Text} (fit : IsRow row) (rest : Text) :
    dataLines (row ++ '\n'::rest) = row::dataLines rest := by
  have kept : (!row.isEmpty && !heads (· == '#') row) = true := by
    rw [fit.plain,List.isEmpty_eq_false_iff.mpr fit.filled]
    rfl
  rw [dataLines,splitlines_append fit.unbroken,List.map_cons,strip_of_tight fit.tight,List.filter_cons,
    if_pos kept]
  rfl

theorem dataLines_written {rows : List Text} (fit : ∀ row ∈ rows, IsRow row) :
    dataLines (written rows) = rows := by
  induction rows with
  | nil => rfl
  | cons row others ih =>
    obtain ⟨here,later⟩ := List.forall_mem_cons.mp fit
    have text : written (row::others) = row ++ '\n'::written others := by
      simp [written]
    rw [text,dataLines_cons here,ih later]

theorem written_append (first second : List Text) : written (first ++ second) = written first ++ written second :=
  List.flatMap_append

private theorem dumpsPairs_ends (pairs : List (Text × Json)) : ∃ before, dumpsPairs pairs = before ++ ['}'] := by
  induction pairs with
  | nil => exact ⟨[],rfl⟩
  | cons pair others ih =>
    obtain ⟨before,same⟩ := ih
    refine ⟨',' :: ' '::(quote pair.1 ++ ':' :: ' '::(dumps pair.2 ++ before)),?_⟩
    rw [dumpsPairs,same]
    simp

theorem dumps_obj_ends (pairs : List (Text × Json)) : ∃ before, dumps (obj pairs) = before ++ ['}'] := by
  cases pairs with
  | nil => exact ⟨['{'],rfl⟩
  | cons pair others =>
    obtain ⟨before,same⟩ := dumpsPairs_ends others
    refine ⟨'{'::(quote pair.1 ++ ':' :: ' '::(dumps pair.2 ++ before)),?_⟩
    rw [dumps,same]
    simp

theorem isRow_dumps {pairs : List (Text × Json)} (fit : (obj pairs).valid = true)
    (whole : separated (texts (obj pairs)) = false) : IsRow (dumps (obj pairs)) := by
  have ends : heads isSpace (dumps (obj pairs)).reverse = false := by
    obtain ⟨before,same⟩ := dumps_obj_ends pairs
    rw [same,List.reverse_append]
    rfl
  refine ⟨?_,⟨?_,ends⟩,?_,?_⟩
  · intro char inside
    rw [← breaks_dumps _ fit,List.any_eq_false] at whole
    exact Bool.eq_false_iff.mpr (whole char inside)
  all_goals
    cases pairs
  all_goals first | rfl | exact List.cons_ne_nil _ _

private theorem mapM_loads {values : List Json} (fit : ∀ value ∈ values, value.valid = true) :
    (values.map dumps).mapM loads = some values := by
  induction values with
  | nil => rfl
  | cons value others ih =>
    obtain ⟨here,later⟩ := List.forall_mem_cons.mp fit
    rw [List.map_cons,List.mapM_cons,loads_dumps here,ih later]
    rfl

theorem load_written {first : Text} {before : List Json} (ended : Ended first) (read : load first = some before)
    {values : List Json} (fit : ∀ value ∈ values, value.valid = true ∧ IsRow (dumps value)) :
    load (first ++ written (values.map dumps)) = some (before ++ values) := by
  have rows : dataLines (written (values.map dumps)) = values.map dumps := by
    refine dataLines_written (fun row listed => ?_)
    obtain ⟨value,inside,rfl⟩ := List.mem_map.mp listed
    exact (fit value inside).2
  have back : (values.map dumps).mapM loads = some values := mapM_loads (fun value inside => (fit value inside).1)
  rw [load] at read ⊢
  rw [dataLines_append ended,rows,List.mapM_append,read,back]
  rfl

end CustomerService.JsonLines
