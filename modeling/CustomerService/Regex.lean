import CustomerService.Text
import Mathlib.Data.List.TakeWhile

/-! Regular expressions with the leftmost, greedy, backtracking meaning of Python's `re`:
running one at a cursor lists its matches in the order they are tried. Repetition is of
a character class; look-around is one character wide. Replacing is stated for
expressions that match no empty text. -/
namespace CustomerService

open Text

inductive Regex
  | one (accepts : Char → Bool)
  | many (accepts : Char → Bool) (least : Nat) (most : Option Nat)
  | seq (first second : Regex)
  | alt (first second : Regex)
  | check (holds : Text → Text → Bool)
  | group (inner : Regex)

namespace Regex

/-- A place in a text: what lies before it, nearest first, what lies after it, and the
texts of the groups closed so far. -/
structure Cursor where
  before : Text
  after : Text
  groups : List Text
deriving DecidableEq

def Cursor.advance (cursor : Cursor) (length : Nat) : Cursor where
  before := (cursor.after.take length).reverse ++ cursor.before
  after := cursor.after.drop length
  groups := cursor.groups

def reach (accepts : Char → Bool) (most : Option Nat) (text : Text) : Nat :=
  match most with
  | none => (text.takeWhile accepts).length
  | some bound => min bound (text.takeWhile accepts).length

def run : Regex → Cursor → List Cursor
  | .one accepts, cursor => if heads accepts cursor.after then [cursor.advance 1] else []
  | .many accepts least most, cursor =>
    ((List.range' least (reach accepts most cursor.after + 1 - least)).reverse).map cursor.advance
  | .seq first second, cursor => (first.run cursor).flatMap second.run
  | .alt first second, cursor => first.run cursor ++ second.run cursor
  | .check holds, cursor => if holds cursor.before cursor.after then [cursor] else []
  | .group inner, cursor => (inner.run cursor).map (fun found =>
      { found with groups := cursor.groups ++
          [(found.before.take (found.before.length - cursor.before.length)).reverse] })

def empty : Regex := .check (fun _ _ => true)

/-- `(?<!…)`. -/
def notBehind (rejects : Char → Bool) : Regex := .check (fun before _ => !heads rejects before)

/-- `(?!…)`. -/
def notAhead (rejects : Char → Bool) : Regex := .check (fun _ after => !heads rejects after)

/-- `^` and `$` in multiline mode, and `$` outside it. -/
def lineStart : Regex := .check (fun before _ => before.isEmpty || heads (· == '\n') before)

def lineEnd : Regex := .check (fun _ after => after.isEmpty || heads (· == '\n') after)

def textEnd : Regex := .check (fun _ after => after.isEmpty || after == ['\n'])

def lit : List Char → Regex
  | [] => .empty
  | char::rest => .seq (.one (· == char)) (lit rest)

def optional (inner : Regex) : Regex := .alt inner .empty

/-- `pattern.match`, at a place. -/
def matchAt (regex : Regex) (before after : Text) : Option Cursor :=
  (regex.run ⟨before,after,[]⟩).head?

/-- `pattern.search`, from a place on. -/
def searchFrom (regex : Regex) : Text → Text → Option Cursor
  | before, [] => regex.matchAt before []
  | before, char::rest => (regex.matchAt before (char::rest)).or (regex.searchFrom (char::before) rest)

def search (regex : Regex) (text : Text) : Option Cursor := regex.searchFrom [] text

/-- The length of the match at a place; zero also when there is none. -/
def matchLength (regex : Regex) (before after : Text) : Nat :=
  match regex.matchAt before after with
  | none => 0
  | some found => after.length - found.after.length

/-- One pass of `pattern.sub`; the number says how much of the text an earlier match
has taken. -/
def subFrom (regex : Regex) (replacement : Text) : Nat → Text → Text → Text
  | _, _, [] => []
  | skip + 1, before, char::rest => regex.subFrom replacement skip (char::before) rest
  | 0, before, char::rest =>
    match regex.matchLength before (char::rest) with
    | 0 => char::regex.subFrom replacement 0 (char::before) rest
    | length + 1 => replacement ++ regex.subFrom replacement length (char::before) rest

def sub (regex : Regex) (replacement text : Text) : Text := regex.subFrom replacement 0 [] text

/-- `pattern.finditer`, in the same pass. -/
def findFrom (regex : Regex) : Nat → Text → Text → List Cursor
  | _, _, [] => []
  | skip + 1, before, char::rest => regex.findFrom skip (char::before) rest
  | 0, before, char::rest =>
    match regex.matchLength before (char::rest) with
    | 0 => regex.findFrom 0 (char::before) rest
    | length + 1 =>
      (regex.matchAt before (char::rest)).toList ++ regex.findFrom length (char::before) rest

def finditer (regex : Regex) (text : Text) : List Cursor := regex.findFrom 0 [] text

/-- `match.group(1)`; the empty text for a group that took no part. -/
def Cursor.group1 (cursor : Cursor) : Text := cursor.groups.headD []

def anyOf : List String → Regex
  | [] => .check (fun _ _ => false)
  | [word] => lit word.toList
  | word::rest => .alt (lit word.toList) (anyOf rest)

def least : Regex → Nat
  | .one _ => 1
  | .many _ least _ => least
  | .seq first second => first.least + second.least
  | .alt first second => min first.least second.least
  | .check _ => 0
  | .group inner => inner.least

def uses (char : Char) : Regex → Bool
  | .one accepts => accepts char
  | .many accepts _ _ => accepts char
  | .seq first second => first.uses char || second.uses char
  | .alt first second => first.uses char || second.uses char
  | .check _ => false
  | .group inner => inner.uses char

/-- The character can be part of what a group has caught. -/
def catches (char : Char) : Regex → Bool
  | .one _ => false
  | .many _ _ _ => false
  | .seq first second => first.catches char || second.catches char
  | .alt first second => first.catches char || second.catches char
  | .check _ => false
  | .group inner => inner.uses char

def starts (char : Char) : Regex → Bool
  | .one accepts => accepts char
  | .many accepts _ _ => accepts char
  | .seq first second => first.starts char || (first.least == 0 && second.starts char)
  | .alt first second => first.starts char || second.starts char
  | .check _ => false
  | .group inner => inner.starts char

def groupless : Regex → Bool
  | .one _ | .many _ _ _ | .check _ => true
  | .seq first second | .alt first second => first.groupless && second.groupless
  | .group _ => false

def Takes (start stop : Cursor) (taken : Text) : Prop :=
  start.after = taken ++ stop.after ∧ stop.before = taken.reverse ++ start.before

theorem Takes.nothing (cursor : Cursor) : Takes cursor cursor [] := ⟨rfl,rfl⟩

theorem Takes.trans {start middle stop : Cursor} {first second : Text}
    (one : Takes start middle first) (two : Takes middle stop second) :
    Takes start stop (first ++ second) := by
  constructor
  · rw [one.1,two.1,List.append_assoc]
  · rw [two.2,one.2,List.reverse_append,List.append_assoc]

theorem takes_advance (cursor : Cursor) (length : Nat) :
    Takes cursor (cursor.advance length) (cursor.after.take length) :=
  ⟨(List.take_append_drop length cursor.after).symm,rfl⟩

theorem reach_le (accepts : Char → Bool) (most : Option Nat) (text : Text) :
    reach accepts most text ≤ (text.takeWhile accepts).length := by
  cases most with
  | none => exact le_rfl
  | some bound => exact min_le_right _ _

theorem take_reach (accepts : Char → Bool) {text : Text} {length : Nat}
    (within : length ≤ (text.takeWhile accepts).length) :
    (text.take length).length = length ∧ ∀ char ∈ text.take length, accepts char = true := by
  have inside : text.take length <+: text.takeWhile accepts := by
    refine List.prefix_of_prefix_length_le (List.take_prefix _ _) (List.takeWhile_prefix _) ?_
    exact (List.length_take_le _ _).trans within
  refine ⟨?_,fun char member => ?_⟩
  · exact List.length_take_of_le (within.trans (List.takeWhile_prefix accepts).length_le)
  · exact (List.mem_takeWhile_imp (inside.subset member))

theorem run_takes (regex : Regex) {start stop : Cursor} (found : stop ∈ regex.run start) :
    ∃ taken, Takes start stop taken ∧ regex.least ≤ taken.length ∧
      ∀ char ∈ taken, regex.uses char = true := by
  induction regex generalizing start stop with
  | one accepts =>
    simp only [run] at found
    split_ifs at found with here
    · obtain rfl := List.mem_singleton.mp found
      refine ⟨_,takes_advance start 1,?_⟩
      cases after : start.after with
      | nil => simp [after,heads] at here
      | cons char rest => simpa [after,heads,least,uses] using here
    · cases found
  | many accepts least most =>
    simp only [run,List.mem_map,List.mem_reverse,List.mem_range'_1] at found
    obtain ⟨length,⟨low,high⟩,rfl⟩ := found
    have within := reach_le accepts most start.after
    have inside := take_reach accepts
      (show length ≤ (start.after.takeWhile accepts).length by omega)
    exact ⟨_,takes_advance start length,by rw [inside.1]; exact low,inside.2⟩
  | seq first second one two =>
    simp only [run,List.mem_flatMap] at found
    obtain ⟨middle,here,there⟩ := found
    obtain ⟨left,takes,low,inside⟩ := one here
    obtain ⟨right,takes',low',inside'⟩ := two there
    refine ⟨left ++ right,takes.trans takes',?_,fun char member => ?_⟩
    · rw [List.length_append,Regex.least]
      exact Nat.add_le_add low low'
    · rcases List.mem_append.mp member with member | member
      · simp [uses,inside char member]
      · simp [uses,inside' char member]
  | alt first second one two =>
    simp only [run,List.mem_append] at found
    rcases found with here | there
    · obtain ⟨taken,takes,low,inside⟩ := one here
      exact ⟨taken,takes,(min_le_left _ _).trans low,fun char member => by
        simp [uses,inside char member]⟩
    · obtain ⟨taken,takes,low,inside⟩ := two there
      exact ⟨taken,takes,(min_le_right _ _).trans low,fun char member => by
        simp [uses,inside char member]⟩
  | check holds =>
    simp only [run] at found
    split_ifs at found
    · obtain rfl := List.mem_singleton.mp found
      exact ⟨[],Takes.nothing _,le_rfl,by simp⟩
    · cases found
  | group inner ih =>
    simp only [run,List.mem_map] at found
    obtain ⟨reached,here,rfl⟩ := found
    obtain ⟨taken,takes,rest⟩ := ih here
    exact ⟨taken,takes,rest⟩

private theorem run_starts (regex : Regex) {start stop : Cursor} {char : Char} {taken : Text}
    (found : stop ∈ regex.run start) (takes : Takes start stop (char::taken)) :
    regex.starts char = true := by
  induction regex generalizing start stop char taken with
  | one accepts =>
    simp only [run] at found
    split_ifs at found with here
    · rw [takes.1] at here
      exact here
    · cases found
  | many accepts least most =>
    obtain ⟨taken',takes',_,inside⟩ := run_takes (.many accepts least most) found
    have same : taken' = char::taken := List.append_cancel_right (takes'.1.symm.trans takes.1)
    exact inside char (same ▸ List.mem_cons_self)
  | seq first second one two =>
    simp only [run,List.mem_flatMap] at found
    obtain ⟨middle,here,there⟩ := found
    obtain ⟨left,takes',low,_⟩ := first.run_takes here
    obtain ⟨right,takes'',_⟩ := second.run_takes there
    have same : left ++ right = char::taken :=
      List.append_cancel_right ((takes'.trans takes'').1.symm.trans takes.1)
    simp only [starts,Bool.or_eq_true,Bool.and_eq_true,beq_iff_eq]
    cases left with
    | nil =>
      obtain rfl : right = char::taken := same
      exact Or.inr ⟨Nat.le_zero.mp low,two there takes''⟩
    | cons head rest =>
      obtain ⟨rfl,_⟩ := List.cons.inj same
      exact Or.inl (one here takes')
  | alt first second one two =>
    simp only [run,List.mem_append] at found
    simp only [starts,Bool.or_eq_true]
    exact found.imp (fun here => one here takes) (fun there => two there takes)
  | check holds =>
    simp only [run] at found
    split_ifs at found
    · obtain rfl := List.mem_singleton.mp found
      have size := congrArg List.length takes.1
      rw [List.length_append,List.length_cons] at size
      omega
    · cases found
  | group inner ih =>
    simp only [run,List.mem_map] at found
    obtain ⟨reached,here,rfl⟩ := found
    exact ih here takes

/-- What a group has caught is one piece of the text it was caught in, and its expression uses
it. -/
theorem run_groups (regex : Regex) {start stop : Cursor} (found : stop ∈ regex.run start)
    {caught : Text} (listed : caught ∈ stop.groups) :
    caught ∈ start.groups ∨
      caught <:+: start.after ∧ ∀ char ∈ caught, regex.catches char = true := by
  induction regex generalizing start stop with
  | one accepts =>
    simp only [run] at found
    split_ifs at found
    · obtain rfl := List.mem_singleton.mp found
      exact Or.inl listed
    · cases found
  | many accepts least most =>
    simp only [run,List.mem_map] at found
    obtain ⟨length,_,rfl⟩ := found
    exact Or.inl listed
  | seq first second one two =>
    simp only [run,List.mem_flatMap] at found
    obtain ⟨middle,here,there⟩ := found
    rcases two there listed with earlier | ⟨inside,caught⟩
    · exact (one here earlier).imp_right (fun inside =>
        ⟨inside.1,fun char member => by simp [catches,inside.2 char member]⟩)
    · obtain ⟨taken,⟨split,_⟩,_⟩ := first.run_takes here
      refine Or.inr ⟨?_,fun char member => by simp [catches,caught char member]⟩
      rw [split]
      exact inside.trans (List.suffix_append _ _).isInfix
  | alt first second one two =>
    simp only [run,List.mem_append] at found
    rcases found with here | there
    · exact (one here listed).imp_right (fun inside =>
        ⟨inside.1,fun char member => by simp [catches,inside.2 char member]⟩)
    · exact (two there listed).imp_right (fun inside =>
        ⟨inside.1,fun char member => by simp [catches,inside.2 char member]⟩)
  | check holds =>
    simp only [run] at found
    split_ifs at found
    · obtain rfl := List.mem_singleton.mp found
      exact Or.inl listed
    · cases found
  | group inner ih =>
    simp only [run,List.mem_map] at found
    obtain ⟨reached,here,rfl⟩ := found
    obtain ⟨taken,⟨split,before⟩,_,uses⟩ := inner.run_takes here
    rcases List.mem_append.mp listed with earlier | now
    · exact Or.inl earlier
    · have size : (taken.reverse ++ start.before).length - start.before.length =
          taken.reverse.length := by simp
      have caught : caught = taken := by
        rw [List.mem_singleton.mp now,before,size,List.take_left,List.reverse_reverse]
      rw [caught,split]
      exact Or.inr ⟨(List.prefix_append _ _).isInfix,fun char member => by
        simp [catches,uses char member]⟩

theorem searchFrom_matchAt (regex : Regex) {before after : Text} {found : Cursor}
    (searched : regex.searchFrom before after = some found) :
    ∃ before' after', after' <:+ after ∧ regex.matchAt before' after' = some found := by
  induction after generalizing before with
  | nil => exact ⟨before,[],List.suffix_refl _,searched⟩
  | cons char rest ih =>
    rw [searchFrom] at searched
    rcases Option.or_eq_some_iff.mp searched with here | ⟨_,later⟩
    · exact ⟨before,char::rest,List.suffix_refl _,here⟩
    · obtain ⟨before',after',ends,matched⟩ := ih later
      exact ⟨before',after',ends.trans (List.suffix_cons _ _),matched⟩

theorem group1_caught (regex : Regex) {text : Text} {found : Cursor}
    (searched : regex.search text = some found) :
    found.group1 <:+: text ∧ ∀ char ∈ found.group1, regex.catches char = true := by
  obtain ⟨before,after,ends,matched⟩ := regex.searchFrom_matchAt searched
  unfold Cursor.group1
  cases groups : found.groups with
  | nil => exact ⟨List.nil_infix,fun _ inside => by cases inside⟩
  | cons first others =>
    have listed : first ∈ found.groups := groups ▸ List.mem_cons_self
    rcases regex.run_groups (List.mem_of_mem_head? matched) listed with none' | ⟨inside,caught⟩
    · cases none'
    · exact ⟨inside.trans ends.isInfix,caught⟩

theorem catches_group1 (regex : Regex) {text : Text} {found : Cursor}
    (searched : regex.search text = some found) :
    ∀ char ∈ found.group1, regex.catches char = true := (regex.group1_caught searched).2

/-- The length of a match: what it takes is a part of the text, as long as the
least length when there is one. -/
theorem matchAt_takes (regex : Regex) {before after : Text} {found : Cursor}
    (matched : regex.matchAt before after = some found) :
    ∃ taken, Takes ⟨before,after,[]⟩ found taken ∧ regex.least ≤ taken.length ∧
      ∀ char ∈ taken, regex.uses char = true :=
  regex.run_takes (List.mem_of_mem_head? matched)

private theorem matchLength_takes (regex : Regex) {before after : Text} {length : Nat}
    (matched : regex.matchLength before after = length + 1) :
    length + 1 ≤ after.length ∧ ∀ char ∈ after.take (length + 1), regex.uses char = true := by
  unfold matchLength at matched
  cases found : regex.matchAt before after with
  | none =>
    rw [found] at matched
    cases matched
  | some cursor =>
    rw [found] at matched
    obtain ⟨taken,⟨split,_⟩,_,inside⟩ := regex.matchAt_takes found
    have size : taken.length = length + 1 := by
      have total := congrArg List.length split
      simp only [List.length_append] at total matched
      omega
    have whole : after = taken ++ cursor.after := split
    refine ⟨by rw [whole,List.length_append]; omega,?_⟩
    rw [whole,← size,List.take_left]
    exact inside

theorem matchLength_pos (regex : Regex) (positive : 0 < regex.least) {before after : Text}
    (matched : (regex.matchAt before after).isSome = true) :
    0 < regex.matchLength before after := by
  obtain ⟨found,here⟩ := Option.isSome_iff_exists.mp matched
  obtain ⟨taken,⟨split,_⟩,low,_⟩ := regex.matchAt_takes here
  have total := congrArg List.length (show after = taken ++ found.after from split)
  rw [List.length_append] at total
  simp only [matchLength,here]
  omega

section
variable (regex : Regex) (replacement : Text) (marker : Char)

private theorem count_match (unused : regex.uses marker = false) {before : Text} {char : Char} {rest : Text}
    {length : Nat} (matched : regex.matchLength before (char::rest) = length + 1) :
    (char::rest).count marker = (rest.drop length).count marker := by
  obtain ⟨_,inside⟩ := regex.matchLength_takes matched
  have none' : ((char::rest).take (length + 1)).count marker = 0 := by
    refine List.count_eq_zero.mpr (fun member => ?_)
    rw [inside marker member] at unused
    cases unused
  have split := congrArg (List.count marker) (List.take_append_drop (length + 1) (char::rest))
  rw [List.count_append,none',Nat.zero_add] at split
  exact split.symm

private theorem count_subFrom (unused : regex.uses marker = false) (skip : Nat) (before after : Text) :
    (after.drop skip).count marker ≤ (regex.subFrom replacement skip before after).count marker := by
  induction after generalizing skip before with
  | nil => simp
  | cons char rest ih =>
    cases skip with
    | succ skip => exact ih skip (char::before)
    | zero =>
      cases matched : regex.matchLength before (char::rest) with
      | zero =>
        have tail := ih 0 (char::before)
        simp only [List.drop_zero] at tail
        simp only [List.drop_zero,subFrom,matched,List.count_cons]
        omega
      | succ length =>
        have tail := ih length (char::before)
        rw [List.drop_zero,regex.count_match marker unused matched]
        simp only [subFrom,matched,List.count_append]
        omega

private theorem count_subFrom_lt (unused : regex.uses marker = false) (marked : marker ∈ replacement)
    (positive : 0 < regex.least) {before after : Text}
    (hit : (regex.searchFrom before after).isSome = true) :
    after.count marker < (regex.subFrom replacement 0 before after).count marker := by
  have more : 0 < replacement.count marker := List.count_pos_iff.mpr marked
  induction after generalizing before with
  | nil =>
    have length := regex.matchLength_pos positive hit
    simp [matchLength] at length
    split at length <;> simp at length
  | cons char rest ih =>
    cases matched : regex.matchLength before (char::rest) with
    | zero =>
      have later : (regex.searchFrom (char::before) rest).isSome = true := by
        cases here : regex.matchAt before (char::rest) with
        | none => simpa [searchFrom,here] using hit
        | some found =>
          have length := regex.matchLength_pos positive (Option.isSome_of_eq_some here)
          omega
      simp only [subFrom,matched,List.count_cons]
      have tail := ih later
      omega
    | succ length =>
      have tail := regex.count_subFrom replacement marker unused length (char::before) rest
      rw [regex.count_match marker unused matched]
      simp only [subFrom,matched,List.count_append]
      omega

theorem count_sub_lt (unused : regex.uses marker = false) (marked : marker ∈ replacement)
    (positive : 0 < regex.least) {text : Text} (hit : (regex.search text).isSome = true) :
    text.count marker < (regex.sub replacement text).count marker :=
  regex.count_subFrom_lt replacement marker unused marked positive hit

end

private theorem matchAt_none (regex : Regex) {before after : Text}
    (few : after.countP regex.uses < regex.least) : regex.matchAt before after = none := by
  by_contra some'
  obtain ⟨found,here⟩ := Option.ne_none_iff_exists'.mp some'
  obtain ⟨taken,⟨split,_⟩,low,inside⟩ := regex.matchAt_takes here
  have total := congrArg (List.countP regex.uses) (show after = taken ++ found.after from split)
  rw [List.countP_append,List.countP_eq_length.mpr inside] at total
  omega

theorem matchAt_nil (regex : Regex) (positive : 0 < regex.least) (before : Text) :
    regex.matchAt before [] = none := regex.matchAt_none positive

theorem matchAt_unstarted (regex : Regex) (positive : 0 < regex.least) (before rest : Text) {char : Char}
    (unstarted : regex.starts char = false) : regex.matchAt before (char::rest) = none := by
  by_contra some'
  obtain ⟨found,here⟩ := Option.ne_none_iff_exists'.mp some'
  obtain ⟨taken,takes,low,_⟩ := regex.matchAt_takes here
  cases taken with
  | nil => exact absurd low (Nat.not_le_of_lt positive)
  | cons head others =>
    obtain ⟨rfl,_⟩ := List.cons.inj (show char::rest = head::(others ++ found.after) from takes.1)
    rw [regex.run_starts (List.mem_of_mem_head? here) takes] at unstarted
    cases unstarted

section
variable (regex : Regex) (positive : 0 < regex.least) {skipped : Text}
  (unstarted : ∀ char ∈ skipped, regex.starts char = false)
include positive unstarted

theorem searchFrom_skip (before rest : Text) :
    regex.searchFrom before (skipped ++ rest) = regex.searchFrom (skipped.reverse ++ before) rest := by
  induction skipped generalizing before with
  | nil => rfl
  | cons char others ih =>
    obtain ⟨here,later⟩ := List.forall_mem_cons.mp unstarted
    rw [List.cons_append,searchFrom,regex.matchAt_unstarted positive before _ here,Option.none_or,ih later,
      List.reverse_cons,List.append_assoc,List.singleton_append]

theorem search_unstarted : regex.search skipped = none := by
  have skip := regex.searchFrom_skip positive unstarted [] []
  rw [List.append_nil] at skip
  exact skip.trans (regex.matchAt_nil positive _)

theorem subFrom_skip (replacement before rest : Text) :
    regex.subFrom replacement 0 before (skipped ++ rest) =
      skipped ++ regex.subFrom replacement 0 (skipped.reverse ++ before) rest := by
  induction skipped generalizing before with
  | nil => rfl
  | cons char others ih =>
    obtain ⟨here,later⟩ := List.forall_mem_cons.mp unstarted
    have nothing : regex.matchLength before (char::(others ++ rest)) = 0 := by
      unfold matchLength
      rw [regex.matchAt_unstarted positive before _ here]
    rw [List.cons_append,List.cons_append,subFrom,nothing]
    dsimp only
    rw [ih later,List.reverse_cons,List.append_assoc,List.singleton_append]

theorem subFrom_unstarted (replacement before : Text) :
    regex.subFrom replacement 0 before skipped = skipped := by
  have skip := regex.subFrom_skip positive unstarted replacement before []
  rw [List.append_nil] at skip
  exact skip.trans (List.append_nil _)

end

private theorem searchFrom_of_matchAt (regex : Regex) {start text : Text} {found : Cursor}
    (matched : regex.matchAt start text = some found) : regex.searchFrom start text = some found := by
  cases text with
  | nil => exact matched
  | cons char rest => rw [searchFrom,matched,Option.some_or]

theorem searchFrom_found (regex : Regex) {Holds : Cursor → Prop} {rest : Text}
    (here : ∀ start, regex.matchAt start rest ≠ none) (start text : Text)
    (holds : ∀ start text', text' <:+ text → ∀ found,
      regex.matchAt start (text' ++ rest) = some found → Holds found) :
    ∃ found, regex.searchFrom start (text ++ rest) = some found ∧ Holds found := by
  induction text generalizing start with
  | nil =>
    obtain ⟨found,matched⟩ := Option.ne_none_iff_exists'.mp (here start)
    exact ⟨found,regex.searchFrom_of_matchAt matched,holds start [] (List.suffix_refl _) found matched⟩
  | cons char others ih =>
    cases matched : regex.matchAt start (char::others ++ rest) with
    | some found =>
      exact ⟨found,regex.searchFrom_of_matchAt matched,holds start _ (List.suffix_refl _) found matched⟩
    | none =>
      rw [List.cons_append] at matched ⊢
      rw [searchFrom,matched,Option.none_or]
      exact ih _ (fun start text' ends => holds start text' (ends.trans (List.suffix_cons _ _)))

private theorem subFrom_taken (regex : Regex) (replacement before taken rest : Text) :
    regex.subFrom replacement taken.length before (taken ++ rest) =
      regex.subFrom replacement 0 (taken.reverse ++ before) rest := by
  induction taken generalizing before with
  | nil => rfl
  | cons char others ih =>
    rw [List.length_cons,List.cons_append,subFrom,ih,List.reverse_cons,List.append_assoc,
      List.singleton_append]

theorem subFrom_match (regex : Regex) (replacement : Text) {before after taken : Text} {found : Cursor}
    (matched : regex.matchAt before after = some found) (takes : Takes ⟨before,after,[]⟩ found taken)
    (some' : taken ≠ []) :
    regex.subFrom replacement 0 before after =
      replacement ++ regex.subFrom replacement 0 (taken.reverse ++ before) found.after := by
  obtain ⟨char,rest,rfl⟩ := List.exists_cons_of_ne_nil some'
  obtain rfl : after = char::(rest ++ found.after) := takes.1
  have size : regex.matchLength before (char::(rest ++ found.after)) = rest.length + 1 := by
    unfold matchLength
    rw [matched]
    simp only [List.length_cons,List.length_append]
    omega
  rw [subFrom,size]
  dsimp only
  rw [regex.subFrom_taken,List.reverse_cons,List.append_assoc,List.singleton_append]

theorem many_head (accepts : Char → Bool) (least : Nat) (most : Option Nat) (start : Cursor) :
    ((Regex.many accepts least most).run start).head? =
      if least ≤ reach accepts most start.after then some (start.advance (reach accepts most start.after))
      else none := by
  rw [run,List.head?_map,List.head?_reverse,List.getLast?_range']
  split_ifs with none' enough enough
  · omega
  · rfl
  · exact congrArg (fun length => some (start.advance length)) (by omega)
  · omega

theorem groups_of_groupless (regex : Regex) (groupless : regex.groupless = true) {start stop : Cursor}
    (found : stop ∈ regex.run start) : stop.groups = start.groups := by
  induction regex generalizing start stop with
  | one accepts =>
    simp only [run] at found
    split_ifs at found
    · obtain rfl := List.mem_singleton.mp found
      rfl
    · cases found
  | many accepts least most =>
    simp only [run,List.mem_map] at found
    obtain ⟨length,_,rfl⟩ := found
    rfl
  | seq first second one two =>
    obtain ⟨here,there⟩ := Bool.and_eq_true_iff.mp groupless
    obtain ⟨middle,found',found''⟩ := List.mem_flatMap.mp found
    exact (two there found'').trans (one here found')
  | alt first second one two =>
    obtain ⟨here,there⟩ := Bool.and_eq_true_iff.mp groupless
    exact (List.mem_append.mp found).elim (one here) (two there)
  | check holds =>
    simp only [run] at found
    split_ifs at found
    · obtain rfl := List.mem_singleton.mp found
      rfl
    · cases found
  | group inner _ => cases groupless

theorem seq_head {first second : Regex} {start found : Cursor}
    (matched : ((Regex.seq first second).run start).head? = some found) :
    ∃ middle ∈ first.run start, (second.run middle).head? = some found := by
  rw [run,List.head?_flatMap] at matched
  exact List.exists_of_findSome?_eq_some matched

theorem search_few (regex : Regex) {text : Text} (few : text.countP regex.uses < regex.least) :
    regex.search text = none := by
  have general (before after : Text) (few : after.countP regex.uses < regex.least) :
      regex.searchFrom before after = none := by
    induction after generalizing before with
    | nil => exact regex.matchAt_none few
    | cons char rest ih =>
      rw [searchFrom,regex.matchAt_none few,Option.none_or]
      exact ih _ ((List.sublist_cons_self char rest).countP_le.trans_lt few)
  exact general [] text few

theorem search_short (regex : Regex) {text : Text} (short : text.length < regex.least) :
    regex.search text = none :=
  regex.search_few (List.countP_le_length.trans_lt short)

private theorem lit_takes {word : Text} {start stop : Cursor} (found : stop ∈ (lit word).run start) :
    start.after = word ++ stop.after := by
  induction word generalizing start with
  | nil =>
    simp only [lit,empty,run,if_true,List.mem_singleton] at found
    rw [found]
    rfl
  | cons char rest ih =>
    obtain ⟨middle,here,there⟩ := List.mem_flatMap.mp found
    simp only [run] at here
    split_ifs at here with first
    · rw [List.mem_singleton] at here
      subst here
      have later := ih there
      cases same : start.after with
      | nil =>
        rw [same] at first
        cases first
      | cons other others =>
        rw [same] at first
        simp only [Cursor.advance,same,List.drop_succ_cons,List.drop_zero] at later
        rw [later,beq_iff_eq.mp first]
        rfl
    · cases here

theorem anyOf_takes {words : List String} {start stop : Cursor} (found : stop ∈ (anyOf words).run start) :
    ∃ word ∈ words, start.after = word.toList ++ stop.after := by
  induction words with
  | nil => cases found
  | cons word rest ih =>
    cases rest with
    | nil => exact ⟨word,List.mem_cons_self,lit_takes found⟩
    | cons next more =>
      obtain here | later := List.mem_append.mp found
      · exact ⟨word,List.mem_cons_self,lit_takes here⟩
      · obtain ⟨other,listed,same⟩ := ih later
        exact ⟨other,List.mem_cons_of_mem _ listed,same⟩

/-! ### Characters that part a text -/

/-- No match takes the character, and a look around sees it as it sees an end of the text. -/
def Parts (char : Char) : Regex → Prop
  | .one accepts | .many accepts _ _ => accepts char = false
  | .seq first second | .alt first second => first.Parts char ∧ second.Parts char
  | .check holds =>
    (∀ before after later, holds before (after ++ char::later) = holds before after) ∧
      ∀ before after earlier, holds (before ++ char::earlier) after = holds before after
  | .group inner => inner.Parts char

inductive Edge (char : Char) : Text → Prop
  | nothing : Edge char []
  | char (rest : Text) : Edge char (char::rest)

def Cursor.within (cursor : Cursor) (earlier later : Text) : Cursor where
  before := cursor.before ++ earlier
  after := cursor.after ++ later
  groups := cursor.groups

section
variable {char : Char} {accepts : Char → Bool} {earlier later : Text}

private theorem advance_within {start : Cursor} {length : Nat} (inside : length ≤ start.after.length) :
    (start.within earlier later).advance length = (start.advance length).within earlier later := by
  simp only [Cursor.within,Cursor.advance,List.take_append_of_le_length inside,
    List.drop_append_of_le_length inside,List.append_assoc]

private theorem heads_edge (apart : accepts char = false) (edge : Edge char later) (text : Text) :
    heads accepts (text ++ later) = heads accepts text := by
  cases text with
  | cons _ _ => rfl
  | nil =>
    cases edge with
    | nothing => rfl
    | char rest => exact apart

private theorem takeWhile_edge (apart : accepts char = false) (edge : Edge char later) (text : Text) :
    (text ++ later).takeWhile accepts = text.takeWhile accepts := by
  induction text with
  | nil =>
    cases edge with
    | nothing => rfl
    | char rest => simp [apart]
  | cons head rest ih => simp [List.takeWhile_cons,ih]

private theorem check_edge {holds : Text → Text → Bool} (parts : (Regex.check holds).Parts char)
    (edge : Edge char earlier) (edge' : Edge char later) (before after : Text) :
    holds (before ++ earlier) (after ++ later) = holds before after := by
  obtain ⟨right,left⟩ := parts
  cases edge with
  | nothing =>
    cases edge' with
    | nothing => rw [List.append_nil,List.append_nil]
    | char rest => rw [List.append_nil,right]
  | char rest =>
    cases edge' with
    | nothing => rw [List.append_nil,left]
    | char rest' => rw [left,right]

private theorem run_within (regex : Regex) (parts : regex.Parts char) (edge : Edge char earlier)
    (edge' : Edge char later) (start : Cursor) :
    regex.run (start.within earlier later) =
      (regex.run start).map (fun cursor => cursor.within earlier later) := by
  induction regex generalizing start with
  | one accepts =>
    have same : heads accepts (start.within earlier later).after = heads accepts start.after :=
      heads_edge parts edge' start.after
    simp only [run,same]
    split_ifs with here
    · have inside : 1 ≤ start.after.length := by
        cases after : start.after with
        | nil => simp [after,heads] at here
        | cons _ _ => simp
      rw [advance_within inside,List.map_singleton]
    · rfl
  | many accepts least most =>
    have same : reach accepts most (start.within earlier later).after = reach accepts most start.after := by
      unfold reach
      rw [show (start.within earlier later).after = start.after ++ later from rfl,
        takeWhile_edge parts edge']
    simp only [run,same,List.map_map]
    apply List.map_congr_left
    intro length listed
    have within := List.mem_range'_1.mp (List.mem_reverse.mp listed)
    have reached := reach_le accepts most start.after
    have whole := (List.takeWhile_prefix accepts (l := start.after)).length_le
    exact advance_within (by omega)
  | seq first second one two =>
    simp only [run,one parts.1,List.flatMap_map,List.map_flatMap]
    exact List.flatMap_congr (fun middle _ => two parts.2 middle)
  | alt first second one two => simp only [run,one parts.1,two parts.2,List.map_append]
  | check holds =>
    have same : holds (start.within earlier later).before (start.within earlier later).after =
        holds start.before start.after := check_edge parts edge edge' start.before start.after
    simp only [run,same]
    split_ifs <;> rfl
  | group inner ih =>
    simp only [run,ih parts,List.map_map]
    apply List.map_congr_left
    intro found _
    simp only [Function.comp,Cursor.within,List.length_append,Nat.add_sub_add_right]
    rw [List.take_append_of_le_length (Nat.sub_le _ _)]

variable (regex : Regex) (parts : regex.Parts char)
include parts

private theorem matchAt_within (edge : Edge char earlier) (edge' : Edge char later) (before after : Text) :
    regex.matchAt (before ++ earlier) (after ++ later) =
      (regex.matchAt before after).map (fun cursor => cursor.within earlier later) := by
  have ran := regex.run_within parts edge edge' ⟨before,after,[]⟩
  unfold matchAt
  rw [← List.head?_map,← ran]
  rfl

private theorem searchFrom_within (edge : Edge char earlier) (before text : Text) :
    regex.searchFrom (before ++ earlier) text =
      (regex.searchFrom before text).map (fun cursor => cursor.within earlier []) := by
  induction text generalizing before with
  | nil =>
    have matched := regex.matchAt_within parts edge .nothing before []
    exact matched
  | cons head rest ih =>
    have matched := regex.matchAt_within parts edge .nothing before (head::rest)
    rw [List.append_nil] at matched
    rw [searchFrom,searchFrom,matched,← List.cons_append,ih,Option.map_or]

theorem search_parted (positive : 0 < regex.least) (first second : Text) :
    regex.search (first ++ char::second) = none ↔
      regex.search first = none ∧ regex.search second = none := by
  have general (before : Text) : regex.searchFrom before (first ++ char::second) = none ↔
      regex.searchFrom before first = none ∧ regex.search second = none := by
    induction first generalizing before with
    | nil =>
      have here := regex.matchAt_within parts .nothing (.char second) before []
      have later := regex.searchFrom_within parts (.char before) [] second
      rw [List.append_nil,List.nil_append,regex.matchAt_nil positive] at here
      rw [List.nil_append] at later
      have step : regex.searchFrom before (char::second) =
          (regex.matchAt before (char::second)).or (regex.searchFrom (char::before) second) := rfl
      rw [List.nil_append,step,here,Option.map_none,Option.none_or,later,Option.map_eq_none_iff]
      exact (and_iff_right (regex.matchAt_nil positive before)).symm
    | cons head rest ih =>
      have here := regex.matchAt_within parts .nothing (.char second) before (head::rest)
      rw [List.append_nil,List.cons_append] at here
      rw [List.cons_append,searchFrom,searchFrom,here,Option.or_eq_none_iff,Option.map_eq_none_iff,ih,
        Option.or_eq_none_iff,and_assoc]
  exact general []

end

theorem parts_notBehind {rejects : Char → Bool} {char : Char} (apart : rejects char = false) :
    (notBehind rejects).Parts char :=
  ⟨fun _ _ _ => rfl,fun before _ earlier => congrArg not (heads_edge apart (.char earlier) before)⟩

theorem parts_notAhead {rejects : Char → Bool} {char : Char} (apart : rejects char = false) :
    (notAhead rejects).Parts char :=
  ⟨fun _ after later => congrArg not (heads_edge apart (.char later) after),fun _ _ _ => rfl⟩

end Regex
end CustomerService
