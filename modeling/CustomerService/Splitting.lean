import CustomerService.Regex
import Mathlib.Data.List.Infix

/-! The pieces of a text between the matches of an expression, with the meaning of Python's `re.split`. -/
namespace CustomerService.Regex

open Text

/-- `re.split`, in the pass of `sub`. -/
def splitFrom (regex : Regex) : Nat → Text → Text → List Text
  | _, _, [] => [[]]
  | skip + 1, before, char::rest => regex.splitFrom skip (char::before) rest
  | 0, before, char::rest =>
    match regex.matchLength before (char::rest) with
    | 0 => (regex.splitFrom 0 (char::before) rest).modifyHead (char::·)
    | length + 1 => []::regex.splitFrom length (char::before) rest

def split (regex : Regex) (text : Text) : List Text := regex.splitFrom 0 [] text

variable (regex : Regex)

private theorem splitFrom_unmatched {before rest : Text} {char : Char}
    (none' : regex.matchLength before (char::rest) = 0) :
    regex.splitFrom 0 before (char::rest) = (regex.splitFrom 0 (char::before) rest).modifyHead (char::·) := by
  rw [splitFrom,none']

private theorem splitFrom_matched {before rest : Text} {char : Char} {length : Nat}
    (found : regex.matchLength before (char::rest) = length + 1) :
    regex.splitFrom 0 before (char::rest) = []::regex.splitFrom length (char::before) rest := by
  rw [splitFrom,found]

private theorem splitFrom_inside (skip : Nat) (before after : Text) :
    ∃ piece pieces, regex.splitFrom skip before after = piece::pieces ∧ piece <+: after.drop skip ∧
      ∀ other ∈ pieces, other <:+: after := by
  induction after generalizing skip before with
  | nil => exact ⟨[],[],by cases skip <;> rfl,List.nil_prefix,nofun⟩
  | cons char rest ih =>
    have further {text : Text} (inside : text <:+: rest) : text <:+: char::rest :=
      inside.trans (List.suffix_cons char rest).isInfix
    cases skip with
    | succ skip =>
      obtain ⟨piece,pieces,split,start,inside⟩ := ih skip (char::before)
      exact ⟨piece,pieces,split,start,fun other listed => further (inside other listed)⟩
    | zero =>
      cases found : regex.matchLength before (char::rest) with
      | zero =>
        obtain ⟨piece,pieces,split,start,inside⟩ := ih 0 (char::before)
        refine ⟨char::piece,pieces,?_,List.cons_prefix_cons.mpr ⟨rfl,start⟩,?_⟩
        · rw [splitFrom_unmatched regex found,split,List.modifyHead_cons]
        · exact fun other listed => further (inside other listed)
      | succ length =>
        obtain ⟨piece,pieces,split,start,inside⟩ := ih length (char::before)
        refine ⟨[],piece::pieces,by rw [splitFrom_matched regex found,split],List.nil_prefix,?_⟩
        rintro other (_ | ⟨_,listed⟩)
        · exact further (start.isInfix.trans (List.drop_suffix length rest).isInfix)
        · exact further (inside other listed)

theorem split_inside {text piece : Text} (listed : piece ∈ regex.split text) : piece <:+: text := by
  obtain ⟨first,others,split,start,inside⟩ := regex.splitFrom_inside 0 [] text
  rw [Regex.split,split] at listed
  rcases listed with _ | ⟨_,listed⟩
  · exact start.isInfix
  · exact inside piece listed

private theorem splitFrom_unmatched_inside {skip : Nat} {before after piece front back : Text}
    (listed : piece ∈ regex.splitFrom skip before after) (place : piece = front ++ back) (some' : back ≠ []) :
    ∃ before rest, regex.matchLength before (back ++ rest) = 0 := by
  induction after generalizing skip before piece front with
  | nil =>
    have empty : piece = [] := by cases skip <;> exact List.mem_singleton.mp listed
    exact absurd (List.append_eq_nil_iff.mp (place ▸ empty)).2 some'
  | cons char rest ih =>
    cases skip with
    | succ skip => exact ih listed place
    | zero =>
      cases found : regex.matchLength before (char::rest) with
      | zero =>
        obtain ⟨first,pieces,split,⟨tail,start⟩,_⟩ := regex.splitFrom_inside 0 (char::before) rest
        rw [splitFrom_unmatched regex found,split,List.modifyHead_cons] at listed
        rcases listed with _ | ⟨_,listed⟩
        · cases front with
          | nil =>
            -- from its first character on, the piece is what was tried
            rw [List.drop_zero] at start
            refine ⟨before,tail,?_⟩
            rw [← List.nil_append back,← place,List.cons_append,start]
            exact found
          | cons other front =>
            obtain ⟨_,inner⟩ := List.cons.inj place
            exact ih (by rw [split]; exact List.mem_cons_self) inner
        · exact ih (by rw [split]; exact List.mem_cons_of_mem _ listed) place
      | succ length =>
        rw [splitFrom_matched regex found] at listed
        rcases listed with _ | ⟨_,listed⟩
        · exact absurd (List.append_eq_nil_iff.mp place.symm).2 some'
        · exact ih listed place

theorem split_free {word : Text} (some' : word ≠ [])
    (always : ∀ before rest, regex.matchLength before (word ++ rest) ≠ 0) {text piece : Text}
    (listed : piece ∈ regex.split text) : ¬word <:+: piece := by
  rintro ⟨front,tail,place⟩
  rw [List.append_assoc] at place
  have filled : word ++ tail ≠ [] := fun none' => some' (List.append_eq_nil_iff.mp none').1
  obtain ⟨before,rest,none'⟩ := regex.splitFrom_unmatched_inside listed place.symm filled
  rw [List.append_assoc] at none'
  exact always before _ none'

/-! ### Words that match -/

private theorem lit_run {word : Text} {start : Cursor} {rest : Text} (here : start.after = word ++ rest) :
    (lit word).run start ≠ [] := by
  induction word generalizing start with
  | nil => exact List.cons_ne_nil _ _
  | cons char others ih =>
    have first : heads (· == char) start.after = true := by
      rw [here,List.cons_append,heads,beq_self_eq_true]
    have next : (start.advance 1).after = others ++ rest := by
      rw [Cursor.advance,here,List.cons_append,List.drop_succ_cons,List.drop_zero]
    unfold lit run
    rw [run,if_pos first,List.flatMap_singleton]
    exact ih next

theorem anyOf_run {words : List String} {word : String} (listed : word ∈ words) {start : Cursor} {rest : Text}
    (here : start.after = word.toList ++ rest) : (anyOf words).run start ≠ [] := by
  induction words with
  | nil => cases listed
  | cons first others ih =>
    cases others with
    | nil =>
      obtain rfl := List.mem_singleton.mp listed
      exact lit_run here
    | cons second more =>
      unfold anyOf run
      rw [Ne,List.append_eq_nil_iff,not_and_or]
      rcases List.mem_cons.mp listed with rfl | later
      · exact Or.inl (lit_run here)
      · exact Or.inr (ih later)

end CustomerService.Regex
