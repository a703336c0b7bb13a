import CustomerService.Regex
import Mathlib.Data.List.Induction

/-! What the substitution of a pattern does to the parts of a text, whatever the pattern. -/
namespace CustomerService.Regex

open Text

/-- The pass of `pattern.sub` from a place on: what lies before the place, nearest first, the text, and the
result. -/
inductive Substitutes (regex : Regex) (replacement : Text) : Text → Text → Text → Prop
  | done {before : Text} : Substitutes regex replacement before [] []
  | skip {before rest result : Text} {char : Char} (nothing : regex.matchAt before (char::rest) = none)
    (later : Substitutes regex replacement (char::before) rest result) :
    Substitutes regex replacement before (char::rest) (char::result)
  | replace {before taken rest result : Text} {found : Cursor} (some' : taken ≠ [])
    (matched : regex.matchAt before (taken ++ rest) = some found) (leaves : found.after = rest)
    (later : Substitutes regex replacement (taken.reverse ++ before) rest result) :
    Substitutes regex replacement before (taken ++ rest) (replacement ++ result)

variable {regex : Regex} {replacement : Text}

theorem subFrom_none {before rest : Text} {char : Char} (nothing : regex.matchAt before (char::rest) = none) :
    regex.subFrom replacement 0 before (char::rest) =
      char::regex.subFrom replacement 0 (char::before) rest := by
  have size : regex.matchLength before (char::rest) = 0 := by
    unfold matchLength
    rw [nothing]
  rw [subFrom,size]

private theorem subFrom_substitutes (positive : 0 < regex.least) (before text : Text) :
    Substitutes regex replacement before text (regex.subFrom replacement 0 before text) := by
  induction size : text.length using Nat.strong_induction_on generalizing before text with
  | h length ih =>
    cases text with
    | nil => exact .done
    | cons char rest =>
      cases matched : regex.matchAt before (char::rest) with
      | none =>
        rw [subFrom_none matched]
        exact .skip matched (ih _ (by rw [← size,List.length_cons]; omega) _ _ rfl)
      | some found =>
        obtain ⟨taken,takes,low,_⟩ := regex.matchAt_takes matched
        have some' : taken ≠ [] := List.ne_nil_of_length_pos (positive.trans_le low)
        rw [regex.subFrom_match replacement matched takes some']
        obtain ⟨split,_⟩ := takes
        dsimp only at split
        rw [split] at matched size ⊢
        refine .replace some' matched rfl (ih _ ?_ _ _ rfl)
        rw [← size,List.length_append]
        have some' := List.length_pos_of_ne_nil some'
        omega

theorem sub_substitutes (positive : 0 < regex.least) (text : Text) :
    Substitutes regex replacement [] text (regex.sub replacement text) := subFrom_substitutes positive [] text

def Unmatched (regex : Regex) (before segment rest : Text) : Prop :=
  ∀ first second, segment = first ++ second → second ≠ [] →
    regex.matchAt (first.reverse ++ before) (second ++ rest) = none

theorem Unmatched.head {before segment rest : Text} {char : Char}
    (unmatched : Unmatched regex before (char::segment) rest) :
    regex.matchAt before (char::(segment ++ rest)) = none :=
  unmatched [] (char::segment) rfl (List.cons_ne_nil _ _)

theorem Unmatched.tail {before segment rest : Text} {char : Char}
    (unmatched : Unmatched regex before (char::segment) rest) :
    Unmatched regex (char::before) segment rest := by
  intro first second split some'
  have here := unmatched (char::first) second (by rw [split]; rfl) some'
  rwa [List.reverse_cons,List.append_assoc] at here

theorem Unmatched.cons {before segment rest : Text} {char : Char}
    (here : regex.matchAt before (char::(segment ++ rest)) = none)
    (later : Unmatched regex (char::before) segment rest) : Unmatched regex before (char::segment) rest := by
  intro first second split some'
  cases first with
  | nil =>
    rw [List.nil_append] at split
    rw [← split]
    exact here
  | cons head others =>
    obtain ⟨rfl,same⟩ := List.cons.inj split
    rw [List.reverse_cons,List.append_assoc]
    exact later others second same some'

/-- A segment of the result with no character that a replacement begins with comes from the text. -/
theorem Substitutes.kept {before text segment right : Text}
    (result : Substitutes regex replacement before text (segment ++ right)) (some' : replacement ≠ [])
    (headed : ∀ char ∈ replacement.head?, char ∉ segment) :
    ∃ rest, text = segment ++ rest ∧ Unmatched regex before segment rest ∧
      Substitutes regex replacement (segment.reverse ++ before) rest right := by
  induction segment generalizing before text with
  | nil => exact ⟨text,rfl,fun first second split more => (by simp_all),result⟩
  | cons char others ih =>
    generalize whole : char::others ++ right = result' at result
    cases result with
    | done => cases whole
    | skip nothing later =>
      obtain ⟨rfl,rfl⟩ := List.cons.inj whole
      obtain ⟨rest,rfl,unmatched,after⟩ :=
        ih later (fun first given inside => headed first given (List.mem_cons_of_mem _ inside))
      refine ⟨rest,rfl,.cons nothing unmatched,?_⟩
      rw [List.reverse_cons,List.append_assoc]
      exact after
    | replace _ _ _ _ =>
      obtain ⟨first,more,rfl⟩ := List.exists_cons_of_ne_nil some'
      obtain ⟨rfl,_⟩ := List.cons.inj whole
      exact absurd List.mem_cons_self (headed char rfl)

theorem Substitutes.passed {before segment rest whole : Text}
    (result : Substitutes regex replacement before (segment ++ rest) whole)
    (unmatched : Unmatched regex before segment rest) :
    ∃ right, whole = segment ++ right ∧ Substitutes regex replacement (segment.reverse ++ before) rest right := by
  induction segment generalizing before whole with
  | nil => exact ⟨whole,rfl,result⟩
  | cons char others ih =>
    generalize split : char::others ++ rest = text at result
    cases result with
    | done => cases split
    | skip nothing later =>
      obtain ⟨rfl,rfl⟩ := List.cons.inj split
      obtain ⟨right,rfl,after⟩ := ih later unmatched.tail
      refine ⟨right,rfl,?_⟩
      rw [List.reverse_cons,List.append_assoc]
      exact after
    | replace some' matched _ _ =>
      rw [← split,List.cons_append,unmatched.head] at matched
      cases matched

structure Apart (replacement segment : Text) : Prop where
  headed : ∀ char ∈ replacement.head?, char ∉ segment
  ended : ∀ char ∈ replacement.getLast?, char ∉ segment
  foreign : ∃ char ∈ segment, char ∉ replacement

theorem Apart.after {segment left right result : Text} (apart : Apart replacement segment)
    (split : replacement ++ result = left ++ (segment ++ right)) :
    ∃ others, left = replacement ++ others ∧ result = others ++ (segment ++ right) := by
  obtain ⟨mark,marked,foreign⟩ := apart.foreign
  obtain ⟨others,cut,same⟩ | ⟨others,cut,same⟩ := List.append_eq_append_iff.mp split
  · exact ⟨others,cut,same⟩
  · cases others using List.reverseRecOn with
    | nil =>
      rw [List.append_nil] at cut
      exact ⟨[],by rw [cut,List.append_nil],same.symm⟩
    | append_singleton front last =>
      -- the segment would begin inside the replacement
      obtain ⟨more,whole,_⟩ | ⟨more,whole,_⟩ := List.append_eq_append_iff.mp same
      · exact absurd (show mark ∈ replacement by simp [cut,whole,marked]) foreign
      · exact absurd (show last ∈ segment by simp [whole]) (apart.ended last (by simp [cut]))

/-- After a match, or before what follows it, no character of the class stands. -/
def Closes (regex : Regex) (accepts : Char → Bool) : Prop :=
  ∀ before taken rest found, regex.matchAt before (taken ++ rest) = some found → found.after = rest →
    taken ≠ [] → heads accepts taken.reverse = false ∨ heads accepts rest = false

theorem heads_append {accepts : Char → Bool} {first : Text} (some' : first ≠ []) (second : Text) :
    heads accepts (first ++ second) = heads accepts first := by
  obtain ⟨char,rest,rfl⟩ := List.exists_cons_of_ne_nil some'
  rfl

/-- A segment of the result that no replacement runs into is one of the text, at a place where no match
starts. -/
theorem Substitutes.traced {accepts : Char → Bool} {before text whole left segment right : Text}
    (result : Substitutes regex replacement before text whole) (split : whole = left ++ (segment ++ right))
    (given : replacement ≠ []) (apart : Apart replacement segment) (closes : regex.Closes accepts) :
    ∃ pre rest, text = pre ++ (segment ++ rest) ∧ Unmatched regex (pre.reverse ++ before) segment rest ∧
      Substitutes regex replacement (segment.reverse ++ (pre.reverse ++ before)) rest right ∧
      (heads accepts segment = true → heads accepts (left.reverse ++ before) = false →
        heads accepts (pre.reverse ++ before) = false) := by
  obtain ⟨mark,marked,foreign⟩ := apart.foreign
  have some' : segment ≠ [] := List.ne_nil_of_mem marked
  induction result generalizing left with
  | done => exact absurd (List.append_eq_nil_iff.mp split.symm).2 (by simp [some'])
  | @skip before rest result char nothing later ih =>
    cases left with
    | nil =>
      have whole : Substitutes regex replacement before (char::rest) (segment ++ right) :=
        split ▸ Substitutes.skip nothing later
      obtain ⟨more,same,unmatched,after⟩ := whole.kept given apart.headed
      exact ⟨[],more,same,unmatched,after,fun _ bound => bound⟩
    | cons first others =>
      obtain ⟨rfl,same⟩ := List.cons.inj split
      obtain ⟨pre,more,rfl,unmatched,after,bound⟩ := ih same
      simp only [List.reverse_cons,List.append_assoc,List.singleton_append]
      exact ⟨char::pre,more,rfl,by simpa using unmatched,by simpa using after,by simpa using bound⟩
  | @replace before taken rest result found taken' matched leaves later ih =>
    obtain ⟨others,rfl,same⟩ := apart.after split
    obtain ⟨pre,more,rfl,unmatched,after,bound⟩ := ih same
    refine ⟨taken ++ pre,more,by rw [List.append_assoc],by simpa using unmatched,by simpa using after,?_⟩
    intro first none'
    rw [List.reverse_append,List.append_assoc]
    refine bound first ?_
    by_cases nothing : others = []
    · -- the segment follows the match, so that its first character is the one behind the match
      subst nothing
      rw [List.nil_append] at same
      obtain ⟨more',ahead,_⟩ := (same ▸ later).kept given apart.headed
      have begins : heads accepts (pre ++ (segment ++ more)) = true := by
        rw [ahead,heads_append some']
        exact first
      rw [List.reverse_nil,List.nil_append,heads_append (by simpa using taken')]
      obtain closed | closed := closes _ _ _ _ matched leaves taken'
      · exact closed
      · rw [begins] at closed
        cases closed
    · have some'' : others.reverse ≠ [] := by simpa using nothing
      rw [List.reverse_append,List.append_assoc,heads_append some''] at none'
      rw [heads_append some'']
      exact none'

/-- No match that starts in the segment runs over its end. -/
def Contained (regex : Regex) (before segment rest : Text) : Prop :=
  ∀ first second found, segment = first ++ second → second ≠ [] →
    regex.matchAt (first.reverse ++ before) (second ++ rest) = some found → rest.length ≤ found.after.length

theorem Contained.drop {before front segment rest : Text}
    (contained : Contained regex before (front ++ segment) rest) :
    Contained regex (front.reverse ++ before) segment rest := by
  intro first second found split given matched
  refine contained (front ++ first) second found (by rw [split,List.append_assoc]) given ?_
  rw [List.reverse_append,List.append_assoc]
  exact matched

theorem Substitutes.protected {accepts : Char → Bool} {before text whole pre segment rest : Text}
    (result : Substitutes regex replacement before text whole) (split : text = pre ++ (segment ++ rest))
    (some' : segment ≠ []) (unmatched : Unmatched regex (pre.reverse ++ before) segment rest)
    (contained : Contained regex before pre (segment ++ rest)) (given : replacement ≠ [])
    (ended : heads accepts replacement.reverse = false) :
    ∃ left right, whole = left ++ (segment ++ right) ∧
      Substitutes regex replacement (segment.reverse ++ (pre.reverse ++ before)) rest right ∧
      (heads accepts (pre.reverse ++ before) = false → heads accepts (left.reverse ++ before) = false) := by
  induction result generalizing pre with
  | done => exact absurd (List.append_eq_nil_iff.mp split.symm).2 (by simp [some'])
  | @skip before others result char nothing later ih =>
    cases pre with
    | nil =>
      have whole : Substitutes regex replacement before (segment ++ rest) (char::result) :=
        split ▸ Substitutes.skip nothing later
      obtain ⟨right,same,after⟩ := whole.passed unmatched
      exact ⟨[],right,same,after,fun bound => bound⟩
    | cons first front =>
      obtain ⟨rfl,same⟩ := List.cons.inj split
      obtain ⟨left,right,rfl,after,bound⟩ :=
        ih same (by simpa using unmatched) (@Contained.drop regex before [char] front _ contained)
      exact ⟨char::left,right,rfl,by simpa using after,by simpa using bound⟩
  | @replace before taken others result found taken' matched leaves later ih =>
    rw [split] at matched
    by_cases nothing : pre = []
    · subst nothing
      obtain ⟨char,more,rfl⟩ := List.exists_cons_of_ne_nil some'
      have none' : regex.matchAt before (char::(more ++ rest)) = none := unmatched.head
      exact absurd (none'.symm.trans matched) (by simp)
    · have inside := contained [] pre found rfl nothing matched
      obtain ⟨front,rfl,same⟩ : ∃ front, pre = taken ++ front ∧ others = front ++ (segment ++ rest) := by
        obtain ⟨front,cut,same⟩ | ⟨front,cut,same⟩ := List.append_eq_append_iff.mp split
        · exact ⟨front,cut,same⟩
        · have none' : front = [] := by
            rw [leaves,same,List.length_append] at inside
            exact List.eq_nil_of_length_eq_zero (by omega)
          subst none'
          exact ⟨[],by simpa using cut.symm,by simpa using same.symm⟩
      rw [List.reverse_append,List.append_assoc] at unmatched ⊢
      obtain ⟨left,right,rfl,after,bound⟩ := ih same unmatched contained.drop
      refine ⟨replacement ++ left,right,by rw [List.append_assoc],after,fun none' => ?_⟩
      have later := bound none'
      rw [List.reverse_append,List.append_assoc]
      by_cases empty : left = []
      · subst empty
        rw [List.reverse_nil,List.nil_append,heads_append (by simpa using given)]
        exact ended
      · have some'' : left.reverse ≠ [] := by simpa using empty
        rw [heads_append some''] at later ⊢
        exact later

theorem Substitutes.nil {before whole : Text} (result : Substitutes regex replacement before [] whole) :
    whole = [] := by
  generalize empty : ([] : Text) = text at result
  cases result with
  | done => rfl
  | skip _ _ => cases empty
  | replace some' _ _ _ => exact absurd (List.append_eq_nil_iff.mp empty.symm).1 some'

theorem Substitutes.unmatched {before text whole : Text} (result : Substitutes regex replacement before text whole)
    (nothing : Unmatched regex before text []) : whole = text := by
  obtain ⟨right,rfl,after⟩ := @passed regex replacement before text [] whole (by rwa [List.append_nil]) nothing
  rw [after.nil,List.append_nil]

theorem search_eq_none_iff (positive : 0 < regex.least) (text : Text) :
    regex.search text = none ↔
      ∀ first second, text = first ++ second → regex.matchAt first.reverse second = none := by
  have general (before after : Text) : regex.searchFrom before after = none ↔
      ∀ first second, after = first ++ second → regex.matchAt (first.reverse ++ before) second = none := by
    induction after generalizing before with
    | nil =>
      rw [searchFrom,regex.matchAt_nil positive]
      refine ⟨fun _ first second split => ?_,fun _ => rfl⟩
      rw [(List.append_eq_nil_iff.mp split.symm).2]
      exact regex.matchAt_nil positive _
    | cons char rest ih =>
      rw [searchFrom,Option.or_eq_none_iff,ih]
      constructor
      · intro none' first second split
        cases first with
        | nil =>
          rw [List.nil_append] at split
          rw [← split]
          exact none'.1
        | cons head others =>
          obtain ⟨rfl,same⟩ := List.cons.inj split
          rw [List.reverse_cons,List.append_assoc]
          exact none'.2 others second same
      · intro none'
        refine ⟨none' [] _ rfl,fun first second split => ?_⟩
        have here := none' (char::first) second (by rw [split]; rfl)
        rwa [List.reverse_cons,List.append_assoc] at here
  have start := general [] text
  simp only [List.append_nil] at start
  exact start

theorem sub_of_none (positive : 0 < regex.least) {text : Text} (nothing : regex.search text = none) :
    regex.sub replacement text = text := by
  refine (sub_substitutes positive text).unmatched (fun first second split _ => ?_)
  rw [List.append_nil,List.append_nil]
  exact (search_eq_none_iff positive text).mp nothing first second split

/-! Expressions without look-around. -/

def checkless : Regex → Bool
  | .one _ | .many _ _ _ => true
  | .seq first second | .alt first second => first.checkless && second.checkless
  | .check _ => false
  | .group inner => inner.checkless

theorem Takes.unique {start stop : Cursor} {first second : Text} (one : Takes start stop first)
    (two : Takes start stop second) : first = second := List.append_cancel_right (one.1.symm.trans two.1)

private theorem reach_append {accepts : Char → Bool} {most : Option Nat} {text taken : Text}
    (accepted : ∀ char ∈ taken, accepts char = true) (more : Text)
    (within : taken.length ≤ reach accepts most text) : taken.length ≤ reach accepts most (taken ++ more) := by
  have long : taken.length ≤ ((taken ++ more).takeWhile accepts).length := by
    rw [List.takeWhile_append_of_pos accepted,List.length_append]
    exact Nat.le_add_right _ _
  cases most with
  | none => exact long
  | some bound => exact le_min (within.trans (min_le_left _ _)) long

private theorem run_of_takes_one {accepts : Char → Bool} {start stop other : Cursor} {taken more : Text}
    (found : stop ∈ (one accepts).run start) (takes : Takes start stop taken) (here : other.after = taken ++ more) :
    ∃ stop' ∈ (one accepts).run other, Takes other stop' taken := by
  simp only [run] at found ⊢
  split_ifs at found with first
  · obtain rfl := List.mem_singleton.mp found
    cases whole : start.after with
    | nil =>
      rw [whole] at first
      cases first
    | cons char rest =>
      have single : taken = [char] := by
        have split := takes.1
        simp only [Cursor.advance,whole,List.drop_succ_cons,List.drop_zero] at split
        exact (List.append_cancel_right (show [char] ++ rest = taken ++ rest from split)).symm
      subst single
      rw [whole] at first
      rw [here,if_pos (show heads accepts ([char] ++ more) = true from first)]
      exact ⟨_,List.mem_singleton_self _,by simp [Takes,Cursor.advance,here]⟩
  · cases found

theorem run_of_takes_many {accepts : Char → Bool} {least : Nat} {most : Option Nat} {start stop other : Cursor}
    {taken more : Text} (found : stop ∈ (many accepts least most).run start) (takes : Takes start stop taken)
    (here : other.after = taken ++ more) : ∃ stop' ∈ (many accepts least most).run other, Takes other stop' taken := by
  obtain ⟨length,inside,rfl⟩ := List.mem_map.mp found
  rw [List.mem_reverse,List.mem_range'_1] at inside
  obtain rfl := takes.unique (takes_advance start length)
  have within : length ≤ reach accepts most start.after := by omega
  obtain ⟨size,accepted⟩ := take_reach accepts (within.trans (reach_le accepts most start.after))
  have reached := reach_append accepted more (size.symm ▸ within)
  rw [size,← here] at reached
  refine ⟨other.advance length,List.mem_map.mpr ⟨length,?_,rfl⟩,?_⟩
  · rw [List.mem_reverse,List.mem_range'_1]
    omega
  · have takes' := takes_advance other length
    rwa [here,List.take_append_of_le_length size.ge,List.take_of_length_le size.le] at takes'

theorem run_of_takes (regex : Regex) (checkless : regex.checkless = true) {start stop other : Cursor}
    {taken more : Text} (found : stop ∈ regex.run start) (takes : Takes start stop taken)
    (here : other.after = taken ++ more) : ∃ stop' ∈ regex.run other, Takes other stop' taken := by
  induction regex generalizing start stop other taken more with
  | one accepts => exact run_of_takes_one found takes here
  | many accepts least most => exact run_of_takes_many found takes here
  | seq first second one two =>
    obtain ⟨left,right⟩ := Bool.and_eq_true_iff.mp checkless
    obtain ⟨middle,before,after⟩ := List.mem_flatMap.mp found
    obtain ⟨front,takes₁,_,_⟩ := first.run_takes before
    obtain ⟨back,takes₂,_,_⟩ := second.run_takes after
    obtain rfl := takes.unique (takes₁.trans takes₂)
    rw [List.append_assoc] at here
    obtain ⟨middle',before',takes₁'⟩ := one left before takes₁ here
    have rest : middle'.after = back ++ more := by
      have split := takes₁'.1
      rw [here] at split
      exact (List.append_cancel_left split).symm
    obtain ⟨stop',after',takes₂'⟩ := two right after takes₂ rest
    exact ⟨stop',List.mem_flatMap.mpr ⟨middle',before',after'⟩,takes₁'.trans takes₂'⟩
  | alt first second one two =>
    obtain ⟨left,right⟩ := Bool.and_eq_true_iff.mp checkless
    cases List.mem_append.mp found with
    | inl there =>
      obtain ⟨stop',found',takes'⟩ := one left there takes here
      exact ⟨stop',List.mem_append_left _ found',takes'⟩
    | inr there =>
      obtain ⟨stop',found',takes'⟩ := two right there takes here
      exact ⟨stop',List.mem_append_right _ found',takes'⟩
  | check holds => cases checkless
  | group inner ih =>
    obtain ⟨last,there,rfl⟩ := List.mem_map.mp found
    obtain ⟨stop',found',takes'⟩ := ih checkless there takes here
    exact ⟨_,List.mem_map.mpr ⟨stop',found',rfl⟩,takes'⟩

end CustomerService.Regex
