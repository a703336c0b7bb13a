import Mathlib.Data.List.Basic

/-! Python strings as lists of characters: the Unicode 14 classes behind `str.isspace`,
`\d` and `str.splitlines`, and the methods built on them. -/
namespace CustomerService

abbrev Text := List Char

namespace Text

def inRange (low high : Nat) (char : Char) : Bool :=
  decide (low ≤ char.toNat) && decide (char.toNat ≤ high)

/-- The first characters of the runs of ten decimal digits, and of the one run of fifty. -/
def digitZeros : List Nat :=
  [0x30,0x660,0x6f0,0x7c0,0x966,0x9e6,0xa66,0xae6,0xb66,0xbe6,0xc66,0xce6,0xd66,0xde6,0xe50,0xed0,
    0xf20,0x1040,0x1090,0x17e0,0x1810,0x1946,0x19d0,0x1a80,0x1a90,0x1b50,0x1bb0,0x1c40,0x1c50,
    0xa620,0xa8d0,0xa900,0xa9d0,0xa9f0,0xaa50,0xabf0,0xff10,0x104a0,0x10d30,0x11066,0x110f0,
    0x11136,0x111d0,0x112f0,0x11450,0x114d0,0x11650,0x116c0,0x11730,0x118e0,0x11950,0x11c50,
    0x11d50,0x11da0,0x16a60,0x16ac0,0x16b50,0x1d7ce,0x1d7d8,0x1d7e2,0x1d7ec,0x1d7f6,0x1e140,
    0x1e2f0,0x1e950,0x1fbf0]

/-- `\d`. -/
def isDigit (char : Char) : Bool := digitZeros.any (fun first => inRange first (first + 9) char)

/-- `str.isspace`, which is also `\s`. -/
def isSpace (char : Char) : Bool :=
  inRange 0x9 0xd char || inRange 0x1c 0x20 char || char.toNat == 0x85 || char.toNat == 0xa0 ||
    char.toNat == 0x1680 || inRange 0x2000 0x200a char || inRange 0x2028 0x2029 char ||
    char.toNat == 0x202f || char.toNat == 0x205f || char.toNat == 0x3000

/-- The characters at which `str.splitlines` ends a line. -/
def isLineBreak (char : Char) : Bool :=
  inRange 0xa 0xd char || inRange 0x1c 0x1e char || char.toNat == 0x85 || inRange 0x2028 0x2029 char

def lstrip (text : Text) : Text := text.dropWhile isSpace

def strip (text : Text) : Text := (lstrip (lstrip text).reverse).reverse

/-- The class holds at the first character, when there is one. -/
def heads (accepts : Char → Bool) : Text → Bool
  | [] => false
  | char::_ => accepts char

/-- `str.splitlines`; a line feed right after a carriage return ends the same line. -/
def splitlines : Text → List Text
  | [] => []
  | char::rest =>
    if isLineBreak char then
      if char = '\r' ∧ heads (· == '\n') rest then splitlines rest else []::splitlines rest
    else
      match splitlines rest with
      | [] => [[char]]
      | line::lines => (char::line)::lines

def join (separator : Text) (parts : List Text) : Text := separator.intercalate parts

/-- `text.strip(char)`. -/
def stripChar (char : Char) (text : Text) : Text :=
  ((text.dropWhile (· == char)).reverse.dropWhile (· == char)).reverse

/-! Stripping. -/

def Tight (text : Text) : Prop := heads isSpace text = false ∧ heads isSpace text.reverse = false

instance (text : Text) : Decidable (Tight text) := inferInstanceAs (Decidable (_ ∧ _))

theorem heads_lstrip (text : Text) : heads isSpace (lstrip text) = false := by
  unfold lstrip
  induction text with
  | nil => rfl
  | cons char rest ih =>
    rw [List.dropWhile_cons]
    split_ifs with blank
    · exact ih
    · simpa [heads] using blank

theorem lstrip_of_heads {text : Text} (tight : heads isSpace text = false) : lstrip text = text := by
  cases text with
  | nil => rfl
  | cons char rest =>
    have solid : ¬isSpace char = true := by simpa [heads] using tight
    rw [lstrip,List.dropWhile_cons,if_neg solid]

theorem strip_of_tight {text : Text} (tight : Tight text) : strip text = text := by
  rw [strip,lstrip_of_heads tight.1,lstrip_of_heads tight.2,List.reverse_reverse]

theorem heads_of_start {accepts : Char → Bool} {first second : Text} (nonempty : first ≠ [])
    (inside : first <+: second) : heads accepts second = heads accepts first := by
  obtain ⟨rest,rfl⟩ := inside
  cases first with
  | nil => exact absurd rfl nonempty
  | cons char tail => rfl

theorem tight_strip (text : Text) : Tight (strip text) := by
  refine ⟨?_,by rw [strip,List.reverse_reverse]; exact heads_lstrip _⟩
  by_cases blank : strip text = []
  · rw [blank]
    rfl
  · have inside : strip text <+: lstrip text := by
      have suffix : lstrip (lstrip text).reverse <:+ (lstrip text).reverse := List.dropWhile_suffix _
      simpa [strip] using List.reverse_prefix.mpr suffix
    rw [← heads_of_start blank inside]
    exact heads_lstrip text

theorem mem_of_mem_strip {text : Text} {char : Char} (member : char ∈ strip text) : char ∈ text := by
  have inner := (List.dropWhile_suffix isSpace).subset (List.mem_reverse.mp member)
  exact (List.dropWhile_suffix isSpace).subset (List.mem_reverse.mp inner)

theorem lstrip_append {first second : Text} (solid : heads isSpace second = false) :
    lstrip (first ++ second) = lstrip first ++ second := by
  have stays := lstrip_of_heads solid
  unfold lstrip at stays ⊢
  rw [List.dropWhile_append,stays]
  split_ifs with gone
  · rw [List.isEmpty_iff.mp gone,List.nil_append]
  · rfl

theorem strip_around {before middle after : Text} (some' : middle ≠ [])
    (solid : ∀ char ∈ middle, isSpace char = false) :
    ∃ before' after', before' <:+ before ∧ after' <+: after ∧
      strip (before ++ (middle ++ after)) = before' ++ (middle ++ after') := by
  have free {text : Text} (same : ∀ char ∈ text, char ∈ middle) (rest : Text) (some' : text ≠ []) :
      heads isSpace (text ++ rest) = false := by
    obtain ⟨char,others,rfl⟩ := List.exists_cons_of_ne_nil some'
    exact solid char (same char List.mem_cons_self)
  refine ⟨lstrip before,(lstrip after.reverse).reverse,List.dropWhile_suffix _,?_,?_⟩
  · rw [← List.reverse_suffix,List.reverse_reverse]
    exact List.dropWhile_suffix _
  · unfold strip
    rw [lstrip_append (free (fun _ inside => inside) after some'),← List.append_assoc,List.reverse_append,
      lstrip_append,List.reverse_append,List.reverse_reverse,List.append_assoc]
    rw [List.reverse_append]
    exact free (fun char inside => List.mem_reverse.mp inside) _ (List.reverse_ne_nil_iff.mpr some')

theorem isSpace_of_isLineBreak {char : Char} (breaks : isLineBreak char = true) : isSpace char = true := by
  simp only [isLineBreak,isSpace,inRange,Bool.or_eq_true,Bool.and_eq_true,decide_eq_true_eq,beq_iff_eq]
    at breaks ⊢
  omega

theorem isSpace_of_isDigit {char : Char} (digit : isDigit char = true) : isSpace char = false := by
  have apart : ∀ first ∈ digitZeros, 0x20 < first ∧ (first + 9 < 0x85 ∨ 0xa0 < first) ∧
      (first + 9 < 0x1680 ∨ 0x1680 < first) ∧ (first + 9 < 0x2000 ∨ 0x205f < first) ∧
      (first + 9 < 0x3000 ∨ 0x3000 < first) := by decide
  obtain ⟨first,listed,within⟩ := List.any_eq_true.mp digit
  have away := apart first listed
  simp only [inRange,Bool.and_eq_true,decide_eq_true_eq] at within
  by_contra space
  simp only [isSpace,inRange,Bool.not_eq_false,Bool.or_eq_true,Bool.and_eq_true,decide_eq_true_eq,
    beq_iff_eq] at space
  omega

theorem tight_between {first middle last : Text} (left : Tight first) (right : Tight last)
    (nonempty : first ≠ []) (nonempty' : last ≠ []) : Tight (first ++ (middle ++ last)) := by
  constructor
  · rw [heads_of_start nonempty (List.prefix_append _ _)]
    exact left.1
  · have inside : last.reverse <+: (first ++ (middle ++ last)).reverse := by simp
    rw [heads_of_start (by simpa using nonempty') inside]
    exact right.2

/-! Lines. -/

def NoBreak (text : Text) : Prop := ∀ char ∈ text, isLineBreak char = false

instance (text : Text) : Decidable (NoBreak text) :=
  decidable_of_iff (text.all (fun char => !isLineBreak char) = true) (by simp [NoBreak])

theorem splitlines_line {line : Text} (unbroken : NoBreak line) (nonempty : line ≠ []) :
    splitlines line = [line] := by
  induction line with
  | nil => exact absurd rfl nonempty
  | cons char rest ih =>
    have solid : isLineBreak char = false := unbroken char List.mem_cons_self
    simp only [splitlines,solid,Bool.false_eq_true,if_false]
    by_cases last : rest = []
    · subst last
      rfl
    · rw [ih (fun other member => unbroken other (List.mem_cons_of_mem _ member)) last]

theorem splitlines_append {line rest : Text} (unbroken : NoBreak line) :
    splitlines (line ++ '\n'::rest) = line::splitlines rest := by
  induction line with
  | nil =>
    have feed : isLineBreak '\n' = true := by decide
    have other : ¬('\n' = '\r' ∧ heads (· == '\n') rest = true) := fun both =>
      absurd both.1 (by decide)
    simp only [List.nil_append,splitlines,feed,if_true,other,if_false]
  | cons char tail ih =>
    have solid : isLineBreak char = false := unbroken char List.mem_cons_self
    simp only [List.cons_append,splitlines,solid,Bool.false_eq_true,if_false]
    rw [ih (fun other member => unbroken other (List.mem_cons_of_mem _ member))]

theorem splitlines_join {lines : List Text} (unbroken : ∀ line ∈ lines, NoBreak line)
    (nonempty : ∀ line ∈ lines, line ≠ []) : splitlines (join ['\n'] lines) = lines := by
  induction lines with
  | nil => rfl
  | cons line rest ih =>
    have here := unbroken line List.mem_cons_self
    cases rest with
    | nil =>
      rw [join,List.intercalate_singleton]
      exact splitlines_line here (nonempty line List.mem_cons_self)
    | cons next more =>
      have tail := ih (fun other member => unbroken other (List.mem_cons_of_mem _ member))
        (fun other member => nonempty other (List.mem_cons_of_mem _ member))
      rw [join,List.intercalate_cons_cons,List.append_assoc]
      exact (splitlines_append here).trans (congrArg (line::·) tail)

theorem mem_splitlines {text line : Text} (member : line ∈ splitlines text) : NoBreak line := by
  induction text generalizing line with
  | nil => cases member
  | cons char rest ih =>
    unfold splitlines at member
    split_ifs at member with broken together
    · exact ih member
    · rcases List.mem_cons.mp member with rfl | later
      · exact fun other inside => (nomatch inside)
      · exact ih later
    · have solid : isLineBreak char = false := by simpa using broken
      have single : NoBreak [char] := fun other inside => by
        rw [List.mem_singleton.mp inside]
        exact solid
      cases found : splitlines rest with
      | nil =>
        rw [found,List.mem_singleton] at member
        exact member ▸ single
      | cons first more =>
        rw [found] at member
        rcases List.mem_cons.mp member with rfl | later
        · intro other inside
          rcases List.mem_cons.mp inside with rfl | inside
          · exact solid
          · exact ih (found ▸ List.mem_cons_self) other inside
        · exact ih (found ▸ List.mem_cons_of_mem _ later)

theorem mem_join {separator : Text} {parts : List Text} {char : Char}
    (member : char ∈ join separator parts) : char ∈ separator ∨ ∃ part ∈ parts, char ∈ part := by
  induction parts with
  | nil => cases member
  | cons part rest ih =>
    cases rest with
    | nil =>
      rw [join,List.intercalate_singleton] at member
      exact Or.inr ⟨part,List.mem_cons_self,member⟩
    | cons next more =>
      rw [join,List.intercalate_cons_cons,List.append_assoc,List.mem_append,List.mem_append] at member
      rcases member with here | between | later
      · exact Or.inr ⟨part,List.mem_cons_self,here⟩
      · exact Or.inl between
      · rcases ih later with between | ⟨other,listed,inside⟩
        · exact Or.inl between
        · exact Or.inr ⟨other,List.mem_cons_of_mem _ listed,inside⟩

theorem join_ne_nil {separator : Text} {parts : List Text} (some' : parts ≠ [])
    (nonempty : ∀ part ∈ parts, part ≠ []) : join separator parts ≠ [] := by
  cases parts with
  | nil => exact absurd rfl some'
  | cons part rest =>
    have here := nonempty part List.mem_cons_self
    cases rest with
    | nil => simpa [join] using here
    | cons next more => simp [join,here]

theorem tight_join {separator : Text} {parts : List Text} (tight : ∀ part ∈ parts, Tight part)
    (nonempty : ∀ part ∈ parts, part ≠ []) : Tight (join separator parts) := by
  induction parts with
  | nil => exact ⟨rfl,rfl⟩
  | cons part rest ih =>
    cases rest with
    | nil => simpa [join] using tight part List.mem_cons_self
    | cons next more =>
      have later : ∀ other ∈ next::more, other ≠ [] := fun other member =>
        nonempty other (List.mem_cons_of_mem _ member)
      have tail := ih (fun other member => tight other (List.mem_cons_of_mem _ member)) later
      rw [join,List.intercalate_cons_cons,List.append_assoc]
      exact tight_between (tight part List.mem_cons_self) tail (nonempty part List.mem_cons_self)
        (join_ne_nil (by simp) later)

theorem join_cons (separator line : Text) (rest : List Text) :
    join separator (line::rest) = line ++ rest.flatMap (fun other => separator ++ other) := by
  induction rest generalizing line with
  | nil => simp [join]
  | cons next more ih =>
    rw [join,List.intercalate_cons_cons,List.append_assoc]
    change line ++ (separator ++ join separator (next::more)) = _
    rw [ih,List.flatMap_cons,List.append_assoc]

end Text
end CustomerService
