import Mathlib.Data.Bool.AllAny
import CustomerService.ChatGraph

/-! Order numbers under the mask: which of them the patterns for personal numbers take for one of
their own, and what the order parser still reads. -/
namespace CustomerService.ChatGraph
open Text OrderAccess OutputFilter
open SummaryFacts (extractOrderNo orderNoRe)

/-! ### A run of digits in a text -/

def NoDigit (text : Text) : Prop := ∀ char ∈ text, isDigit char = false

private theorem noDigit_append {first second : Text} :
    NoDigit (first ++ second) ↔ NoDigit first ∧ NoDigit second := List.forall_mem_append

theorem NoDigit.heads {text : Text} (none' : NoDigit text) : heads isDigit text = false := by
  cases text with
  | nil => rfl
  | cons char rest => exact none' char List.mem_cons_self

/-- A number of digits only, with no digit around it. -/
structure Stands (number before after : Text) : Prop where
  digits : ∀ char ∈ number, isDigit char = true
  before : NoDigit before
  after : NoDigit after

structure DigitRun (number after : Text) : Prop where
  digits : ∀ char ∈ number, isDigit char = true
  ends : heads isDigit after = false

variable {number before after : Text}

theorem Stands.run (stands : Stands number before after) : DigitRun number after :=
  ⟨stands.digits,stands.after.heads⟩

theorem Stands.behind (stands : Stands number before after) : heads isDigit before.reverse = false :=
  NoDigit.heads (fun char inside => stands.before char (List.mem_reverse.mp inside))

theorem DigitRun.takeWhile (run : DigitRun number after) : (number ++ after).takeWhile isDigit = number := by
  have ends : after.takeWhile isDigit = [] := by
    cases after with
    | nil => rfl
    | cons char rest =>
      have plain : isDigit char = false := run.ends
      exact List.takeWhile_cons_of_neg (by simp [plain])
  rw [List.takeWhile_append_of_pos run.digits,ends,List.append_nil]

theorem DigitRun.heads_drop (run : DigitRun number after) (length : Nat) (inside : length ≤ number.length) :
    heads isDigit ((number ++ after).drop length) = decide (length < number.length) := by
  rw [List.drop_append_of_le_length inside]
  by_cases short : length < number.length
  · rw [List.drop_eq_getElem_cons short,List.cons_append,decide_eq_true short]
    exact run.digits _ (List.getElem_mem short)
  · obtain rfl : length = number.length := by omega
    rw [List.drop_length,List.nil_append,run.ends,decide_eq_false short]

/-! ### The patterns for numbers -/

structure Numeric (regex : Regex) : Prop where
  positive : 0 < regex.least
  starts : ∀ char, regex.starts char = true → isDigit char = true
  behind : ∀ char before after, isDigit char = true → regex.matchAt (char::before) after = none

theorem Numeric.unstarted {regex : Regex} (numeric : Numeric regex) {text : Text} (none' : NoDigit text) :
    ∀ char ∈ text, regex.starts char = false := by
  intro char inside
  by_contra starts
  have digit := numeric.starts char (by simpa using starts)
  rw [none' char inside] at digit
  cases digit

theorem Numeric.search_inside {regex : Regex} (numeric : Numeric regex) {rest : Text}
    (digits : ∀ char ∈ rest, isDigit char = true) (none' : NoDigit after) {char : Char}
    (digit : isDigit char = true) (before : Text) :
    regex.searchFrom (char::before) (rest ++ after) = none := by
  induction rest generalizing char before with
  | nil =>
    have skip := regex.searchFrom_skip numeric.positive (numeric.unstarted none') (char::before) []
    rw [List.append_nil] at skip
    exact skip.trans (regex.matchAt_nil numeric.positive _)
  | cons next others ih =>
    obtain ⟨here,later⟩ := List.forall_mem_cons.mp digits
    rw [List.cons_append,Regex.searchFrom,numeric.behind char before _ digit,Option.none_or]
    exact ih later here (char::before)

theorem Numeric.search_stands {regex : Regex} (numeric : Numeric regex) (stands : Stands number before after) :
    regex.search (before ++ (number ++ after)) = regex.matchAt before.reverse (number ++ after) := by
  have skip := regex.searchFrom_skip numeric.positive (numeric.unstarted stands.before) [] (number ++ after)
  rw [List.append_nil] at skip
  refine skip.trans ?_
  cases number with
  | nil =>
    have past := regex.searchFrom_skip numeric.positive (numeric.unstarted stands.after) before.reverse []
    rw [List.append_nil,Regex.searchFrom,regex.matchAt_nil numeric.positive] at past
    refine past.trans ?_
    cases after with
    | nil => exact (regex.matchAt_nil numeric.positive _).symm
    | cons char rest =>
      exact (regex.matchAt_unstarted numeric.positive _ _
        (numeric.unstarted stands.after char List.mem_cons_self)).symm
  | cons char rest =>
    obtain ⟨here,later⟩ := List.forall_mem_cons.mp stands.digits
    rw [List.cons_append,Regex.searchFrom,numeric.search_inside later stands.after here,Option.or_none]

theorem Numeric.sub_stands {regex : Regex} (numeric : Numeric regex) (stands : Stands number before after)
    (replacement : Text) {found : Regex.Cursor}
    (matched : regex.matchAt before.reverse (number ++ after) = some found) (ends : found.after <:+ after) :
    regex.sub replacement (before ++ (number ++ after)) = before ++ (replacement ++ found.after) := by
  obtain ⟨taken,takes,low,_⟩ := regex.matchAt_takes matched
  have some' : taken ≠ [] := List.ne_nil_of_length_pos (numeric.positive.trans_le low)
  have rest : NoDigit found.after := fun char inside => stands.after char (ends.subset inside)
  unfold Regex.sub
  rw [regex.subFrom_skip numeric.positive (numeric.unstarted stands.before),List.append_nil,
    regex.subFrom_match replacement matched takes some',
    regex.subFrom_unstarted numeric.positive (numeric.unstarted rest)]

private theorem numeric_of_seq {rest : Regex} (positive : 0 < rest.least)
    (starts : ∀ char, rest.starts char = true → isDigit char = true) :
    Numeric (.seq (.notBehind isDigit) rest) where
  positive := by
    rw [Regex.least]
    omega
  starts char begins := starts char (by simpa [Regex.starts,Regex.notBehind,Regex.least] using begins)
  behind char before after digit := by
    simp [Regex.matchAt,Regex.run,Regex.notBehind,heads,digit]

theorem numeric_idCard : Numeric idCard :=
  numeric_of_seq (by decide) (fun char begins => by simpa [Regex.starts,Regex.least] using begins)

theorem numeric_bankCard : Numeric bankCard :=
  numeric_of_seq (by decide)
    (fun char begins => by simpa [Regex.starts,Regex.least,Regex.notAhead] using begins)

theorem numeric_phone : Numeric phone :=
  numeric_of_seq (by decide) (fun char begins => by
    obtain rfl : char = '1' := by simpa [Regex.starts,Regex.least] using begins
    decide)

private theorem mem_run_digits (run : DigitRun number after) (least most : Nat) {start stop : Regex.Cursor}
    (here : start.after = number ++ after) :
    stop ∈ (Regex.many isDigit least (some most)).run start ↔
      ∃ length, least ≤ length ∧ length ≤ most ∧ length ≤ number.length ∧ stop = start.advance length := by
  have reach : Regex.reach isDigit (some most) start.after = min most number.length := by
    rw [here,Regex.reach,run.takeWhile]
  simp only [Regex.run,reach,List.mem_map,List.mem_reverse,List.mem_range'_1]
  constructor
  · intro found
    obtain ⟨length,inside,same⟩ := found
    exact ⟨length,by omega,by omega,by omega,same.symm⟩
  · intro found
    obtain ⟨length,low,high,within,same⟩ := found
    exact ⟨length,by omega,same.symm⟩

private theorem after_advance {start : Regex.Cursor} (here : start.after = number ++ after) :
    (start.advance number.length).after = after := by
  unfold Regex.Cursor.advance
  rw [here]
  exact List.drop_left

private theorem mem_run_whole (run : DigitRun number after) (least most : Nat) {start stop : Regex.Cursor}
    (here : start.after = number ++ after) :
    stop ∈ (Regex.seq (.many isDigit least (some most)) (.notAhead isDigit)).run start ↔
      least ≤ number.length ∧ number.length ≤ most ∧ stop = start.advance number.length := by
  rw [Regex.run,List.mem_flatMap]
  constructor
  · intro found
    obtain ⟨middle,taken,ends⟩ := found
    obtain ⟨length,low,high,within,rfl⟩ := (mem_run_digits run least most here).mp taken
    simp only [Regex.notAhead,Regex.run,Regex.Cursor.advance,here,run.heads_drop length within] at ends
    split_ifs at ends with last
    · obtain rfl := List.mem_singleton.mp ends
      have size : length = number.length := by
        simp only [Bool.not_eq_true',decide_eq_false_iff_not] at last
        omega
      subst size
      refine ⟨low,high,?_⟩
      simp only [Regex.Cursor.advance,here]
    · cases ends
  · intro whole
    obtain ⟨low,high,same⟩ := whole
    refine ⟨_,(mem_run_digits run least most here).mpr ⟨number.length,low,high,le_rfl,rfl⟩,?_⟩
    simp only [Regex.notAhead,Regex.run,after_advance here,run.ends]
    exact List.mem_singleton.mpr same

theorem mem_run_behind {rest : Regex} {start stop : Regex.Cursor} (none' : heads isDigit start.before = false) :
    stop ∈ (Regex.seq (.notBehind isDigit) rest).run start ↔ stop ∈ rest.run start := by
  simp only [Regex.run,Regex.notBehind,none',Bool.not_false,if_true,List.flatMap_cons,
    List.flatMap_nil,List.append_nil]

private theorem mem_run_one {accepts : Char → Bool} {rest : Regex} {char : Char} {text : Text}
    {start stop : Regex.Cursor} (here : start.after = char::text) :
    stop ∈ (Regex.seq (.one accepts) rest).run start ↔
      accepts char = true ∧ stop ∈ rest.run (start.advance 1) := by
  simp only [Regex.run,here,heads]
  cases accepts char <;> simp

/-- A telephone number: eleven digits, of which the first two are those of a mobile one. -/
def PhoneShaped (number : Text) : Prop :=
  number.length = 11 ∧ number.head? = some '1' ∧ heads (inChar '3' '9') number.tail = true

instance (number : Text) : Decidable (PhoneShaped number) := inferInstanceAs (Decidable (_ ∧ _))

private theorem isDigit_of_high {char : Char} (high : inChar '3' '9' char = true) : isDigit char = true := by
  simp only [inChar,Bool.and_eq_true,decide_eq_true_eq,Char.le_def,UInt32.le_iff_toNat_le] at high
  have low : 0x33 ≤ char.toNat := high.1
  have top : char.toNat ≤ 0x39 := high.2
  refine List.any_eq_true.mpr ⟨0x30,by decide,?_⟩
  simp only [inRange,Bool.and_eq_true,decide_eq_true_eq]
  omega

/-- What a pattern for numbers leaves of a text behind some digits: it takes one character of it at most, and
no digit comes next. -/
def StopsBefore (after rest : Text) : Prop := ∃ tail, tail.length ≤ 1 ∧ after = tail ++ rest ∧ heads isDigit rest = false

theorem StopsBefore.suffix {rest : Text} (leaves : StopsBefore after rest) : rest <:+ after := by
  obtain ⟨tail,_,rfl,_⟩ := leaves
  exact List.suffix_append _ _

section
variable (run : DigitRun number after) (left : heads isDigit before = false) {stop : Regex.Cursor}
include run left

theorem mem_bankCard : stop ∈ bankCard.run ⟨before,number ++ after,[]⟩ ↔
    13 ≤ number.length ∧ number.length ≤ 19 ∧
      stop = Regex.Cursor.advance ⟨before,number ++ after,[]⟩ number.length := by
  unfold bankCard
  rw [mem_run_behind left,mem_run_whole run 13 19 rfl]

private theorem bankCard_takes (found : stop ∈ bankCard.run ⟨before,number ++ after,[]⟩) :
    13 ≤ number.length ∧ number.length ≤ 19 ∧ StopsBefore after stop.after := by
  obtain ⟨low,high,rfl⟩ := (mem_bankCard run left).mp found
  rw [after_advance rfl]
  exact ⟨low,high,[],Nat.zero_le _,rfl,run.ends⟩

private theorem phone_takes (found : stop ∈ phone.run ⟨before,number ++ after,[]⟩) :
    PhoneShaped number ∧ StopsBefore after stop.after := by
  unfold phone at found
  rw [mem_run_behind left] at found
  -- the first two characters of a match are digits, so that they are the number's
  cases number with
  | nil =>
    cases after with
    | nil => cases found
    | cons char rest =>
      obtain ⟨one,_⟩ := (mem_run_one rfl).mp found
      obtain rfl : char = '1' := by simpa using one
      exact absurd (show isDigit '1' = false from run.ends) (by decide)
  | cons first others =>
    obtain ⟨one,second⟩ := (mem_run_one rfl).mp found
    obtain rfl : first = '1' := by simpa using one
    cases others with
    | nil =>
      cases after with
      | nil => cases second
      | cons char rest =>
        obtain ⟨high,_⟩ := (mem_run_one rfl).mp second
        have none' : isDigit char = false := run.ends
        rw [isDigit_of_high high] at none'
        cases none'
    | cons next rest =>
      obtain ⟨high,whole⟩ := (mem_run_one rfl).mp second
      have later : DigitRun rest after :=
        ⟨fun char inside => run.digits char (List.mem_cons_of_mem _ (List.mem_cons_of_mem _ inside)),run.ends⟩
      obtain ⟨low,most,rfl⟩ := (mem_run_whole later 9 9 rfl).mp whole
      refine ⟨⟨?_,rfl,high⟩,?_⟩
      · simp only [List.length_cons]
        omega
      · rw [after_advance rfl]
        exact ⟨[],Nat.zero_le _,rfl,run.ends⟩

theorem phone_found (shaped : PhoneShaped number) :
    ∃ stop, stop ∈ phone.run ⟨before,number ++ after,[]⟩ := by
  obtain ⟨size,one,high⟩ := shaped
  obtain ⟨others,rfl⟩ := List.head?_eq_some_iff.mp one
  cases others with
  | nil => cases high
  | cons next rest =>
    have later : DigitRun rest after :=
      ⟨fun char inside => run.digits char (List.mem_cons_of_mem _ (List.mem_cons_of_mem _ inside)),run.ends⟩
    have nine : rest.length = 9 := by
      simp only [List.length_cons] at size
      omega
    unfold phone
    refine ⟨_,(mem_run_behind left).mpr ((mem_run_one rfl).mpr ⟨rfl,(mem_run_one rfl).mpr ⟨high,
      (mem_run_whole later 9 9 rfl).mpr ⟨nine.ge,nine.le,rfl⟩⟩⟩)⟩

private theorem idCard_takes (found : stop ∈ idCard.run ⟨before,number ++ after,[]⟩) :
    17 ≤ number.length ∧ number.length ≤ 18 ∧ StopsBefore after stop.after := by
  unfold idCard at found
  rw [mem_run_behind left,Regex.run,List.mem_flatMap] at found
  obtain ⟨middle,taken,rest⟩ := found
  obtain ⟨length,low,high,within,rfl⟩ := (mem_run_digits run 17 17 rfl).mp taken
  obtain rfl : length = 17 := by omega
  have ends : stop.after = (number ++ after).drop 18 ∧ heads isDigit ((number ++ after).drop 18) = false := by
    simp only [Regex.run,Regex.notAhead,List.mem_flatMap] at rest
    obtain ⟨last,one,free⟩ := rest
    split_ifs at one with accepted
    · obtain rfl := List.mem_singleton.mp one
      simp only [Regex.Cursor.advance,List.drop_drop] at free
      split_ifs at free with none'
      · obtain rfl := List.mem_singleton.mp free
        exact ⟨rfl,by simpa using none'⟩
      · cases free
    · cases one
  by_cases short : number.length ≤ 17
  · have size : number.length = 17 := by omega
    have split : (number ++ after).drop 18 = after.drop 1 := by
      rw [List.drop_append,List.drop_eq_nil_of_le (by omega),List.nil_append,size]
    rw [split] at ends
    refine ⟨within,by omega,after.take 1,List.length_take_le _ _,?_,ends.1 ▸ ends.2⟩
    rw [ends.1,List.take_append_drop]
  · have last := run.heads_drop 18 (by omega)
    rw [ends.2,eq_comm,decide_eq_false_iff_not] at last
    have size : number.length = 18 := by omega
    have split : (number ++ after).drop 18 = after := by
      rw [← size,List.drop_left]
    rw [split] at ends
    exact ⟨within,size.le,[],Nat.zero_le _,ends.1.symm,ends.1 ▸ ends.2⟩

end

/-! ### The mask and the order parser -/

/-- The digits are as many as those of a bank card or an identity card, or are those of a mobile
telephone. -/
def Personal (number : Text) : Prop :=
  (13 ≤ number.length ∧ number.length ≤ 19) ∨ PhoneShaped number

instance (number : Text) : Decidable (Personal number) := inferInstanceAs (Decidable (_ ∨ _))

theorem numbers_take {regex : Regex} (listed : regex ∈ [idCard,bankCard,phone]) (run : DigitRun number after)
    (left : heads isDigit before = false) {stop : Regex.Cursor}
    (found : stop ∈ regex.run ⟨before,number ++ after,[]⟩) : Personal number ∧ StopsBefore after stop.after := by
  simp only [List.mem_cons,List.not_mem_nil,or_false] at listed
  obtain rfl | rfl | rfl := listed
  · obtain ⟨low,high,leaves⟩ := idCard_takes run left found
    exact ⟨.inl ⟨by omega,by omega⟩,leaves⟩
  · obtain ⟨low,high,leaves⟩ := bankCard_takes run left found
    exact ⟨.inl ⟨low,high⟩,leaves⟩
  · obtain ⟨shaped,leaves⟩ := phone_takes run left found
    exact ⟨.inr shaped,leaves⟩

theorem numeric_of_listed {regex : Regex} (listed : regex ∈ [idCard,bankCard,phone]) : Numeric regex := by
  simp only [List.mem_cons,List.not_mem_nil,or_false] at listed
  obtain rfl | rfl | rfl := listed
  · exact numeric_idCard
  · exact numeric_bankCard
  · exact numeric_phone

structure Free (text : Text) : Prop where
  digits : NoDigit text
  unsigned : '@' ∉ text

theorem Free.search {text : Text} (free : Free text) :
    ∀ item ∈ piiPatterns, item.2.search text = none := by
  have numeric {regex : Regex} (numeric : Numeric regex) : regex.search text = none :=
    regex.search_unstarted numeric.positive (numeric.unstarted free.digits)
  intro item listed
  simp only [piiPatterns,List.mem_cons,List.not_mem_nil,or_false] at listed
  rcases listed with rfl | rfl | rfl | rfl
  · exact numeric numeric_idCard
  · exact numeric numeric_bankCard
  · exact numeric numeric_phone
  · by_contra found
    exact free.unsigned (email_signed found)

theorem free_append {first second : Text} (one : Free first) (two : Free second) : Free (first ++ second) := by
  refine ⟨noDigit_append.mpr ⟨one.digits,two.digits⟩,fun signed => ?_⟩
  exact (List.mem_append.mp signed).elim one.unsigned two.unsigned

theorem Free.subset {first second : Text} (free : Free second) (inside : first ⊆ second) : Free first :=
  ⟨fun char member => free.digits char (inside member),fun signed => free.unsigned (inside signed)⟩

theorem free_masked (label : Label) : Free label.masked := by
  cases label <;> exact ⟨List.all_iff_forall_prop.mp (by decide +kernel),by decide +kernel⟩

private theorem personal_found (stands : Stands number before after) (personal : Personal number) :
    ∃ item ∈ piiPatterns, item.2.search (before ++ (number ++ after)) ≠ none := by
  rcases personal with ⟨low,high⟩ | shaped
  · refine ⟨(.bankCard,bankCard),by simp [piiPatterns],?_⟩
    rw [numeric_bankCard.search_stands stands]
    exact mt List.head?_eq_none_iff.mp (List.ne_nil_of_mem
      ((mem_bankCard stands.run stands.behind).mpr ⟨low,high,rfl⟩))
  · refine ⟨(.phone,phone),by simp [piiPatterns],?_⟩
    rw [numeric_phone.search_stands stands]
    obtain ⟨stop,found⟩ := phone_found stands.run stands.behind shaped
    exact mt List.head?_eq_none_iff.mp (List.ne_nil_of_mem found)

section
variable (stands : Stands number before after) (left : Free before) (right : Free after)
include stands left right

private theorem pattern_found {item : Label × Regex} (listed : item ∈ piiPatterns)
    (hit : item.2.search (before ++ (number ++ after)) ≠ none) :
    Personal number ∧ Free (item.2.sub item.1.masked (before ++ (number ++ after))) := by
  have numeric (among : item.2 ∈ [idCard,bankCard,phone]) :
      Personal number ∧ Free (item.2.sub item.1.masked (before ++ (number ++ after))) := by
    rw [(numeric_of_listed among).search_stands stands] at hit
    obtain ⟨found,matched⟩ := Option.ne_none_iff_exists'.mp hit
    obtain ⟨personal,leaves⟩ := numbers_take among stands.run stands.behind (List.mem_of_mem_head? matched)
    refine ⟨personal,?_⟩
    rw [(numeric_of_listed among).sub_stands stands _ matched leaves.suffix]
    exact free_append left (free_append (free_masked _) (right.subset leaves.suffix.subset))
  simp only [piiPatterns,List.mem_cons,List.not_mem_nil,or_false] at listed
  rcases listed with rfl | rfl | rfl | rfl
  · exact numeric (by simp)
  · exact numeric (by simp)
  · exact numeric (by simp)
  · have signed := email_signed hit
    simp only [List.mem_append] at signed
    rcases signed with inside | inside | inside
    · exact absurd inside left.unsigned
    · exact absurd (stands.digits '@' inside) (by decide)
    · exact absurd inside right.unsigned

private theorem mask_stands :
    (Personal number → Free (inspectOutput (before ++ (number ++ after)))) ∧
      (¬Personal number → inspectOutput (before ++ (number ++ after)) = before ++ (number ++ after)) := by
  constructor
  · intro personal
    have masked (items : List (Label × Regex)) (inside : ∀ item ∈ items, item ∈ piiPatterns)
        (found : List Label) (hits : ∃ item ∈ items, item.2.search (before ++ (number ++ after)) ≠ none) :
        Free (items.foldl maskStep (found,before ++ (number ++ after))).2 := by
      induction items with
      | nil =>
        obtain ⟨_,none',_⟩ := hits
        cases none'
      | cons item rest ih =>
        obtain ⟨here,later⟩ := List.forall_mem_cons.mp inside
        rw [List.foldl_cons]
        by_cases hit : item.2.search (before ++ (number ++ after)) = none
        · rw [maskStep_of_none hit]
          refine ih later ?_
          obtain ⟨other,member,finds⟩ := hits
          rcases List.mem_cons.mp member with rfl | member
          · exact absurd hit finds
          · exact ⟨other,member,finds⟩
        · have free := (pattern_found stands left right here hit).2
          have stepped : maskStep (found,before ++ (number ++ after)) item =
              (found ++ [item.1],item.2.sub item.1.masked (before ++ (number ++ after))) :=
            if_pos (Option.isSome_iff_ne_none.mpr hit)
          rw [stepped,foldl_of_none rest _ (fun other member => free.search other (later other member))]
          exact free
    exact masked piiPatterns (fun _ inside => inside) [] (personal_found stands personal)
  · intro other
    refine mask_of_none (fun item listed => ?_)
    by_contra hit
    exact other (pattern_found stands left right listed hit).1

end

/-! ### The order parser -/

private theorem orderNo_match {before text : Text} {found : Regex.Cursor}
    (matched : orderNoRe.matchAt before text = some found) :
    ∃ skipped rest, text = skipped ++ rest ∧ NoDigit skipped ∧ 8 ≤ (rest.takeWhile isDigit).length ∧
      found.group1 = rest.takeWhile isDigit := by
  unfold Regex.matchAt orderNoRe at matched
  obtain ⟨middle,named,later⟩ := Regex.seq_head matched
  obtain ⟨last,spaced,digits⟩ := Regex.seq_head later
  have groups : last.groups = [] :=
    (Regex.groups_of_groupless (.many isSpace 0 none) rfl spaced).trans
      (Regex.groups_of_groupless _ rfl named)
  obtain ⟨name,⟨split,_⟩,_,names⟩ := Regex.run_takes _ named
  obtain ⟨blank,⟨split',_⟩,_,blanks⟩ := Regex.run_takes (.many isSpace 0 none) spaced
  rw [Regex.run,List.head?_map,Regex.many_head] at digits
  obtain ⟨stop,reached,rfl⟩ := Option.map_eq_some_iff.mp digits
  split_ifs at reached with enough
  obtain rfl := Option.some.inj reached
  refine ⟨name ++ blank,last.after,?_,?_,enough,?_⟩
  · rw [List.append_assoc,← split']
    exact split
  · refine noDigit_append.mpr ⟨fun char inside => ?_,fun char inside => ?_⟩
    · have used := names char inside
      by_contra digit
      have kinds : char ∈ "订单#NnOo.".toList := by
        simpa [Regex.optional,Regex.anyOf,Regex.lit,Regex.uses,Regex.empty,or_assoc,or_comm,
          or_left_comm] using used
      have plain : ∀ other ∈ "订单#NnOo.".toList, isDigit other = false :=
        List.all_iff_forall_prop.mp (by decide)
      exact digit (plain char kinds)
    · by_contra digit
      have solid := isSpace_of_isDigit (by simpa using digit)
      have space : isSpace char = true := blanks char inside
      rw [space] at solid
      cases solid
  · unfold Regex.Cursor.group1
    rw [groups]
    have taken : (last.after.take (Regex.reach isDigit none last.after)) = last.after.takeWhile isDigit :=
      (List.prefix_iff_eq_take.mp (List.takeWhile_prefix isDigit)).symm
    simp [Regex.Cursor.advance,taken]

private theorem heads_of_takeWhile {text : Text} (some' : 0 < (text.takeWhile isDigit).length) :
    heads isDigit text = true := by
  cases text with
  | nil => cases some'
  | cons char rest =>
    by_contra plain
    have plain : ¬isDigit char = true := plain
    rw [List.takeWhile_cons_of_neg plain] at some'
    cases some'

private theorem extract_free {text : Text} (none' : NoDigit text) : extractOrderNo text = none := by
  by_contra some'
  obtain ⟨number,found⟩ := Option.ne_none_iff_exists'.mp some'
  obtain ⟨cursor,searched,_⟩ := Option.map_eq_some_iff.mp found
  obtain ⟨before,after,ends,matched⟩ := orderNoRe.searchFrom_matchAt searched
  obtain ⟨skipped,rest,split,_,enough,_⟩ := orderNo_match matched
  have digit := heads_of_takeWhile (Nat.lt_of_lt_of_le (by decide) enough)
  have rest' : NoDigit rest := fun char inside =>
    none' char (ends.subset (split ▸ List.mem_append_right _ inside))
  rw [rest'.heads] at digit
  cases digit

private theorem rest_unique {first second rest rest' : Text} (one : NoDigit first) (two : NoDigit second)
    (digit : heads isDigit rest = true) (digit' : heads isDigit rest' = true)
    (same : first ++ rest = second ++ rest') : rest = rest' := by
  have drops {text rest : Text} (none' : NoDigit text) (digit : heads isDigit rest = true) :
      (text ++ rest).dropWhile (fun char => !isDigit char) = rest := by
    rw [List.dropWhile_append_of_pos (fun char inside => by simp [none' char inside])]
    cases rest with
    | nil => cases digit
    | cons char others =>
      have digit : isDigit char = true := digit
      exact List.dropWhile_cons_of_neg (by simp [digit])
  rw [← drops one digit,same,drops two digit']

private theorem extract_stands (stands : Stands number before after) (long : 8 ≤ number.length) :
    extractOrderNo (before ++ (number ++ after)) = some number := by
  have digit : heads isDigit (number ++ after) = true := by
    refine heads_of_takeWhile ?_
    rw [stands.run.takeWhile]
    omega
  have read {start text : Text} {found : Regex.Cursor} (none' : NoDigit text)
      (matched : orderNoRe.matchAt start (text ++ (number ++ after)) = some found) :
      found.group1 = number := by
    obtain ⟨skipped,rest,split,free,enough,same⟩ := orderNo_match matched
    have first := heads_of_takeWhile (Nat.lt_of_lt_of_le (by decide) enough)
    rw [same,rest_unique free none' first digit split.symm,stands.run.takeWhile]
  have here (start : Text) : orderNoRe.matchAt start (number ++ after) ≠ none := by
    have enough : 8 ≤ Regex.reach isDigit none (number ++ after) := by
      unfold Regex.reach
      rw [stands.run.takeWhile]
      exact long
    have digits : Regex.Cursor.advance ⟨start,number ++ after,[]⟩ (Regex.reach isDigit none (number ++ after)) ∈
        (Regex.many isDigit 8 none).run ⟨start,number ++ after,[]⟩ := by
      refine List.mem_of_mem_head? ?_
      rw [Regex.many_head,if_pos enough]
      exact rfl
    refine mt List.head?_eq_none_iff.mp (List.ne_nil_of_mem (List.mem_flatMap.mpr
      ⟨⟨start,number ++ after,[]⟩,?_,List.mem_flatMap.mpr ⟨⟨start,number ++ after,[]⟩,?_,
        List.mem_map_of_mem digits⟩⟩))
    · exact List.mem_append_right _ (List.mem_singleton_self _)
    · refine List.mem_map.mpr ⟨0,?_,rfl⟩
      rw [List.mem_reverse,List.mem_range'_1]
      omega
  obtain ⟨found,searched,same⟩ := orderNoRe.searchFrom_found here [] before
    (fun _ _ ends _ matched => read (fun char inside => stands.before char (ends.subset inside)) matched)
  exact Option.map_eq_some_iff.mpr ⟨found,searched,same⟩

private theorem sanitized_of_allowed {containsInjection : Text → Bool} {text : Text}
    (allowed : (inspectInput containsInjection text).allowed = true) :
    (inspectInput containsInjection text).sanitizedText = inspectOutput (strip text) := by
  revert allowed
  unfold inspectInput
  dsimp only
  split_ifs
  · exact fun allowed => by cases allowed
  · exact fun allowed => by cases allowed
  · exact fun allowed => by cases allowed
  · exact fun _ => rfl

/-- An order number that the security node lets pass is read again behind it, unless it looks like
the number of a card or of a telephone: then nothing is read. -/
theorem extract_masked (containsInjection : Text → Bool) (number before after : Text)
    (valid : isOrderNo number = true)
    (apart : ∀ char ∈ before ++ after, isDigit char = false ∧ char ≠ '@')
    (allowed : (inspectInput containsInjection (before ++ (number ++ after))).allowed = true) :
    extractOrderNo (inspectInput containsInjection (before ++ (number ++ after))).sanitizedText =
      if Personal number then none else some number := by
  obtain ⟨long,digits⟩ := Bool.and_eq_true_iff.mp valid
  have long := of_decide_eq_true long
  have digits := List.all_eq_true.mp digits
  obtain ⟨before',after',ends,starts,stripped⟩ := @strip_around before _ after
    (List.ne_nil_of_length_pos (by omega)) (fun char inside => isSpace_of_isDigit (digits char inside))
  have free {text : Text} (inside : text ⊆ before ++ after) : Free text :=
    ⟨fun char member => (apart char (inside member)).1,fun signed => (apart '@' (inside signed)).2 rfl⟩
  have left : Free before' := free (List.Subset.trans ends.subset (List.subset_append_left _ _))
  have right : Free after' := free (List.Subset.trans starts.subset (List.subset_append_right _ _))
  have stands : Stands number before' after' := ⟨digits,left.digits,right.digits⟩
  rw [sanitized_of_allowed allowed,stripped]
  split_ifs with personal
  · exact extract_free ((mask_stands stands left right).1 personal).digits
  · rw [(mask_stands stands left right).2 personal]
    exact extract_stands stands long

theorem extract_masked_plain :
    ¬Personal "20251114001".toList ∧
      extractOrderNo (inspectInput (fun _ => false)
          ("订单 ".toList ++ ("20251114001".toList ++ " 到哪了".toList))).sanitizedText =
        if Personal "20251114001".toList then none else some "20251114001".toList :=
  ⟨by decide,extract_masked (fun _ => false) "20251114001".toList "订单 ".toList " 到哪了".toList
    (by decide) (List.all_iff_forall_prop.mp (by decide)) (by decide +kernel)⟩

/-- An order number of eleven digits that could be a telephone's is masked. -/
theorem phone_like_number_lost :
    ¬∀ (containsInjection : Text → Bool) (number before after : Text),
      isOrderNo number = true → number.length ≤ 32 →
        (∀ char ∈ before ++ after, isDigit char = false ∧ char ≠ '@') →
        (inspectInput containsInjection (before ++ (number ++ after))).allowed = true →
        extractOrderNo (inspectInput containsInjection
          (before ++ (number ++ after))).sanitizedText = some number := by
  intro kept
  have read := kept (fun _ => false) "13900010001".toList "订单 ".toList []
    (by decide) (by decide) (List.all_iff_forall_prop.mp (by decide)) (by decide +kernel)
  exact absurd read (by decide +kernel)

end CustomerService.ChatGraph
