import CustomerService.OutputFilter

/-! Texts that the output filter leaves as they are: what parts of such a text may say, and what a
text of the program may be filled with. -/
namespace CustomerService.OutputFilter
open Text

def Filtered (text : Text) : Prop := inspectOutput text = text

instance (text : Text) : Decidable (Filtered text) := inferInstanceAs (Decidable (_ = _))

def AllFiltered (texts : List Text) : Prop := ∀ text ∈ texts, Filtered text

@[simp] theorem allFiltered_nil : AllFiltered [] := nofun

@[simp] theorem allFiltered_cons (text : Text) (texts : List Text) :
    AllFiltered (text :: texts) ↔ Filtered text ∧ AllFiltered texts := List.forall_mem_cons

theorem allFiltered_singleton (text : Text) : AllFiltered [text] ↔ Filtered text := List.forall_mem_singleton

@[simp] theorem allFiltered_append (first second : List Text) :
    AllFiltered (first ++ second) ↔ AllFiltered first ∧ AllFiltered second := List.forall_mem_append

theorem allFiltered_map {Item : Type} (items : List Item) (told : Item → Text) :
    AllFiltered (items.map told) ↔ ∀ item ∈ items, Filtered (told item) := List.forall_mem_map

theorem allFiltered_flatMap {Item : Type} (items : List Item) (told : Item → List Text) :
    AllFiltered (items.flatMap told) ↔ ∀ item ∈ items, AllFiltered (told item) := by
  simp only [AllFiltered,List.mem_flatMap]
  exact ⟨fun all item listed text inside => all text ⟨item,listed,inside⟩,
    fun all text ⟨item,listed,inside⟩ => all item listed text inside⟩

/-- What the filter leaves has no number or address of a person in it. -/
theorem filtered_iff_found_nothing {text : Text} :
    Filtered text ↔ ∀ item ∈ piiPatterns, item.2.search text = none := by
  constructor
  · intro filtered item listed
    by_contra found
    exact mask_of_hit listed (Option.isSome_iff_ne_none.mpr found) filtered
  · exact mask_of_none

/-! ### Texts of the program -/

/-- Of the digits and the letters of the patterns for numbers, this is what lies around them. -/
private def mayBelong (char : Char) : Bool :=
  inRange 0x30 0x39 char || inRange 0x660 0x1c59 char || inRange 0xa620 0xabf9 char ||
    inRange 0xff10 0xff19 char || decide (0x104a0 ≤ char.toNat) || char == 'X' || char == 'x'

private theorem mayBelong_of_isDigit {char : Char} (digit : isDigit char = true) :
    mayBelong char = true := by
  have bands : ∀ first ∈ digitZeros, (0x30 ≤ first ∧ first + 9 ≤ 0x39) ∨
      (0x660 ≤ first ∧ first + 9 ≤ 0x1c59) ∨ (0xa620 ≤ first ∧ first + 9 ≤ 0xabf9) ∨
      (0xff10 ≤ first ∧ first + 9 ≤ 0xff19) ∨ 0x104a0 ≤ first := by decide
  obtain ⟨first,listed,within⟩ := List.any_eq_true.mp digit
  have band := bands first listed
  simp only [inRange,Bool.and_eq_true,decide_eq_true_eq] at within
  simp only [mayBelong,inRange,Bool.or_eq_true,Bool.and_eq_true,decide_eq_true_eq]
  omega

/-- Too few characters for a number of a person, which has eleven digits at least, and no sign of an
address. -/
def Few (text : Text) : Prop := text.countP mayBelong < 11 ∧ '@' ∉ text

instance (text : Text) : Decidable (Few text) := inferInstanceAs (Decidable (_ ∧ _))

theorem Few.filtered {text : Text} (fewOf : Few text) : Filtered text := by
  obtain ⟨few,unsigned⟩ := fewOf
  have number (regex : Regex) (enough : 11 ≤ regex.least)
      (made : ∀ char, regex.uses char = true → mayBelong char = true) : regex.search text = none :=
    regex.search_few ((List.countP_mono_left (fun char _ => made char)).trans_lt (few.trans_le enough))
  refine filtered_iff_found_nothing.mpr (fun item listed => ?_)
  simp only [piiPatterns,List.mem_cons,List.not_mem_nil,or_false] at listed
  rcases listed with rfl | rfl | rfl | rfl
  · refine number idCard (by decide) (fun char used => ?_)
    have kinds : isDigit char = true ∨ char = 'X' ∨ char = 'x' := by
      simpa [idCard,Regex.uses,Regex.notBehind,Regex.notAhead,or_assoc] using used
    rcases kinds with digit | rfl | rfl
    · exact mayBelong_of_isDigit digit
    · decide
    · decide
  · refine number bankCard (by decide) (fun char used => mayBelong_of_isDigit ?_)
    simpa [bankCard,Regex.uses,Regex.notBehind,Regex.notAhead] using used
  · refine number phone (by decide) (fun char used => ?_)
    have kinds : char = '1' ∨ inChar '3' '9' char = true ∨ isDigit char = true := by
      simpa [phone,Regex.uses,Regex.notBehind,Regex.notAhead] using used
    rcases kinds with rfl | high | digit
    · decide
    · simp only [inChar,Bool.and_eq_true,decide_eq_true_eq,Char.le_def,UInt32.le_iff_toNat_le] at high
      have low : 0x33 ≤ char.toNat := high.1
      have top : char.toNat ≤ 0x39 := high.2
      simp only [mayBelong,inRange,Bool.or_eq_true,Bool.and_eq_true,decide_eq_true_eq]
      omega
    · exact mayBelong_of_isDigit digit
  · by_contra found
    exact unsigned (email_signed found)

theorem filtered_nil : Filtered [] := Few.filtered (by decide)

/-! ### Parts of a text -/

/-- Neither a digit nor a letter nor a sign of an address: no pattern takes it. -/
def Apart (char : Char) : Prop :=
  isDigit char = false ∧ isLetter char = false ∧ "._%+-@".toList.contains char = false

instance (char : Char) : Decidable (Apart char) := inferInstanceAs (Decidable (_ ∧ _))

def AllApart (text : Text) : Prop := ∀ char ∈ text, Apart char

instance (text : Text) : Decidable (AllApart text) := List.decidableBAll Apart text

private theorem apart_of_isSpace {char : Char} (space : isSpace char = true) : Apart char := by
  have other (low high : Char) (above : 0x21 ≤ low.toNat) (below : high.toNat ≤ 0x7e) :
      inChar low high char = false := by
    by_contra within
    simp only [inChar,Bool.not_eq_false,Bool.and_eq_true,decide_eq_true_eq,Char.le_def,
      UInt32.le_iff_toNat_le] at within
    have first : low.toNat ≤ char.toNat := within.1
    have last : char.toNat ≤ high.toNat := within.2
    simp only [isSpace,inRange,Bool.or_eq_true,Bool.and_eq_true,decide_eq_true_eq,beq_iff_eq] at space
    omega
  refine ⟨?_,?_,?_⟩
  · by_contra digit
    exact absurd (space.symm.trans (isSpace_of_isDigit (by simpa using digit))) (by decide)
  · exact Bool.or_eq_false_iff.mpr ⟨other 'A' 'Z' (by decide) (by decide),other 'a' 'z' (by decide) (by decide)⟩
  · have visible : "._%+-@".toList.all (fun sign => isSpace sign == false) = true := by decide
    by_contra sign
    have inside := List.contains_iff_mem.mp (Bool.of_not_eq_false sign)
    have hidden := eq_of_beq (List.all_eq_true.mp visible char inside)
    exact absurd (space.symm.trans hidden) (by decide)

private theorem digit_of_inChar {low high char : Char} (within : inChar low high char = true)
    (above : 0x30 ≤ low.toNat) (below : high.toNat ≤ 0x39) : isDigit char = true := by
  simp only [inChar,Bool.and_eq_true,decide_eq_true_eq,Char.le_def,UInt32.le_iff_toNat_le] at within
  have first : low.toNat ≤ char.toNat := within.1
  have last : char.toNat ≤ high.toNat := within.2
  refine List.any_eq_true.mpr ⟨0x30,List.mem_cons_self,?_⟩
  simp only [inRange,Bool.and_eq_true,decide_eq_true_eq]
  omega

private theorem Apart.parts {char : Char} (apart : Apart char) {item : Label × Regex}
    (listed : item ∈ piiPatterns) : item.2.Parts char := by
  obtain ⟨digit,letter,sign⟩ := apart
  have plain (low high : Char) (above : 0x30 ≤ low.toNat) (below : high.toNat ≤ 0x39) :
      inChar low high char = false := by
    by_contra within
    exact absurd (digit.symm.trans (digit_of_inChar (by simpa using within) above below)) (by decide)
  have other (named : Char) (taken : ¬Apart named) : (char == named) = false := by
    refine beq_eq_false_iff_ne.mpr ?_
    rintro rfl
    exact taken ⟨digit,letter,sign⟩
  have signs (some' : Text) (inside : some' ⊆ "._%+-@".toList) : some'.contains char = false := by
    by_contra listed
    have member := inside (List.contains_iff_mem.mp (Bool.of_not_eq_false listed))
    exact absurd (sign.symm.trans (List.contains_iff_mem.mpr member)) (by decide)
  simp only [piiPatterns,List.mem_cons,List.not_mem_nil,or_false] at listed
  rcases listed with rfl | rfl | rfl | rfl
  · exact ⟨Regex.parts_notBehind digit,digit,
      Bool.or_eq_false_iff.mpr ⟨Bool.or_eq_false_iff.mpr ⟨digit,other 'X' (by decide)⟩,other 'x' (by decide)⟩,
      Regex.parts_notAhead digit⟩
  · exact ⟨Regex.parts_notBehind digit,digit,Regex.parts_notAhead digit⟩
  · exact ⟨Regex.parts_notBehind digit,other '1' (by decide),plain '3' '9' (by decide) (by decide),digit,
      Regex.parts_notAhead digit⟩
  · have named : (isLetter char || isAsciiDigit char) = false :=
      Bool.or_eq_false_iff.mpr ⟨letter,plain '0' '9' (by decide) (by decide)⟩
    exact ⟨Bool.or_eq_false_iff.mpr ⟨named,signs "._%+-".toList (by decide)⟩,other '@' (by decide),
      Bool.or_eq_false_iff.mpr ⟨named,signs ".-".toList (by decide)⟩,other '.' (by decide),letter⟩

private theorem filtered_parted {char : Char} (apart : Apart char) (first second : Text) :
    Filtered (first ++ char :: second) ↔ Filtered first ∧ Filtered second := by
  rw [filtered_iff_found_nothing,filtered_iff_found_nothing,filtered_iff_found_nothing,← forall₂_and]
  refine forall₂_congr (fun item listed => ?_)
  have long := (piiPatterns_marked item listed).2.2
  exact item.2.search_parted (apart.parts listed) (by omega) first second

section
variable {between : Text} (apart : AllApart between)
include apart

theorem filtered_after (text : Text) : Filtered (between ++ text) ↔ Filtered text := by
  induction between with
  | nil => rfl
  | cons char rest ih =>
    obtain ⟨here,later⟩ := List.forall_mem_cons.mp apart
    have parted := filtered_parted here [] (rest ++ text)
    rw [List.nil_append] at parted
    rw [List.cons_append,parted,ih later]
    exact and_iff_right filtered_nil

theorem filtered_before (text : Text) : Filtered (text ++ between) ↔ Filtered text := by
  cases between with
  | nil => rw [List.append_nil]
  | cons char rest =>
    obtain ⟨here,later⟩ := List.forall_mem_cons.mp apart
    have last := filtered_after later []
    rw [List.append_nil] at last
    rw [filtered_parted here,last]
    exact and_iff_left filtered_nil

theorem filtered_between (some' : between ≠ []) (first second : Text) :
    Filtered (first ++ (between ++ second)) ↔ Filtered first ∧ Filtered second := by
  obtain ⟨char,rest,rfl⟩ := List.exists_cons_of_ne_nil some'
  obtain ⟨here,later⟩ := List.forall_mem_cons.mp apart
  rw [List.cons_append,filtered_parted here,filtered_after later]

theorem filtered_intercalate (some' : between ≠ []) (texts : List Text) :
    Filtered (between.intercalate texts) ↔ AllFiltered texts := by
  induction texts with
  | nil => exact iff_of_true filtered_nil nofun
  | cons text rest ih =>
    cases rest with
    | nil => rw [List.intercalate_singleton,AllFiltered,List.forall_mem_singleton]
    | cons next others =>
      rw [List.intercalate_cons_cons,List.append_assoc,filtered_between apart some',ih,← allFiltered_cons]

end

theorem filtered_lines (lines : List Text) : Filtered (join "\n".toList lines) ↔ AllFiltered lines :=
  filtered_intercalate (by decide) (by decide) lines

theorem filtered_strip (text : Text) : Filtered (strip text) ↔ Filtered text := by
  have lstrip (text : Text) : Filtered (lstrip text) ↔ Filtered text := by
    have blank : AllApart (text.takeWhile isSpace) := fun char inside =>
      apart_of_isSpace (List.mem_takeWhile_imp inside)
    have whole := filtered_after blank (Text.lstrip text)
    rw [Text.lstrip,List.takeWhile_append_dropWhile] at whole
    exact whole.symm
  have ends (text : Text) : Filtered (Text.lstrip text.reverse).reverse ↔ Filtered text := by
    have blank : AllApart (text.reverse.takeWhile isSpace).reverse := fun char inside =>
      apart_of_isSpace (List.mem_takeWhile_imp (List.mem_reverse.mp inside))
    have whole := filtered_before blank (Text.lstrip text.reverse).reverse
    rw [← List.reverse_append,Text.lstrip,List.takeWhile_append_dropWhile,List.reverse_reverse] at whole
    exact whole.symm
  exact (ends _).trans (lstrip text)

/-! ### Texts with something to fill in -/

/-- A text of the program and what comes after it. -/
structure Slot where
  before : Text
  given : Text

/-- What is filled in, each after its text, and a last text. -/
def fill (slots : List Slot) (last : Text) : Text :=
  match slots with
  | [] => last
  | slot :: rest => slot.before ++ (slot.given ++ fill rest last)

/-- The texts of the program are of such characters, and there is one between any two that are
filled in. -/
structure Parting (texts : List Text) (last : Text) : Prop where
  before : ∀ text ∈ texts, AllApart text
  between : ∀ text ∈ texts.tail, text ≠ []
  last : AllApart last

instance (texts : List Text) (last : Text) : Decidable (Parting texts last) :=
  decidable_of_iff ((∀ text ∈ texts, AllApart text) ∧ (∀ text ∈ texts.tail, text ≠ []) ∧ AllApart last)
    ⟨fun all => ⟨all.1,all.2.1,all.2.2⟩,fun parting => ⟨parting.before,parting.between,parting.last⟩⟩

theorem filtered_fill {slots : List Slot} {last : Text} (parting : Parting (slots.map Slot.before) last) :
    Filtered (fill slots last) ↔ AllFiltered (slots.map Slot.given) := by
  have general (slots : List Slot) (before : ∀ slot ∈ slots, AllApart slot.before)
      (between : ∀ slot ∈ slots, slot.before ≠ []) (text : Text) :
      Filtered (text ++ fill slots last) ↔ Filtered text ∧ AllFiltered (slots.map Slot.given) := by
    induction slots generalizing text with
    | nil => simpa [fill] using filtered_before parting.last text
    | cons slot rest ih =>
      obtain ⟨here,later⟩ := List.forall_mem_cons.mp before
      obtain ⟨some',others⟩ := List.forall_mem_cons.mp between
      rw [fill,filtered_between here some',ih later others,List.map_cons,allFiltered_cons]
  cases slots with
  | nil =>
    have only := filtered_before parting.last []
    exact iff_of_true (only.mpr filtered_nil) nofun
  | cons slot rest =>
    obtain ⟨here,later⟩ := List.forall_mem_cons.mp (List.forall_mem_map.mp parting.before)
    have between : ∀ slot ∈ rest, slot.before ≠ [] := fun slot listed =>
      parting.between slot.before (List.mem_map_of_mem listed)
    rw [fill,filtered_after here,general rest later between,List.map_cons,allFiltered_cons]

end CustomerService.OutputFilter
