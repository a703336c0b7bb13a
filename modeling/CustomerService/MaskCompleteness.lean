import CustomerService.OrderMasking
import CustomerService.Substitution

/-! What the masked text still holds: the mask of an address can cut off the digits behind which the address
begins, and what stays of them can be a personal number. -/
namespace CustomerService.MaskCompleteness

open Text OutputFilter ChatGraph Regex

def numberPatterns : List Regex := [idCard,bankCard,phone]

def Clear (text : Text) : Prop :=
  ∀ pre number post, text = pre ++ (number ++ post) → (∀ char ∈ number, isDigit char = true) →
    heads isDigit pre.reverse = false → heads isDigit post = false → ¬Personal number

def Address (mail : Text) : Prop := ∃ stop ∈ email.run ⟨[],mail,[]⟩, stop.after = []

/-- Digits that end in one outside ASCII stand before an address that begins with a digit. Without the digits of
the address they are a personal number; no number in them and the address together is one. -/
structure Exposure (number mail : Text) : Prop where
  digits : ∀ char ∈ number, isDigit char = true
  foreign : heads isAsciiDigit number.reverse = false
  personal : Personal number
  address : Address mail
  joined : heads isDigit mail = true
  clear : Clear (number ++ mail)

def Exposed (text : Text) : Prop :=
  ∃ before number mail after, text = before ++ ((number ++ mail) ++ after) ∧
    heads isDigit before.reverse = false ∧ Exposure number mail

/-! The characters of the patterns. -/

private theorem personal_ne {number : Text} (personal : Personal number) : number ≠ [] := by
  intro empty
  subst empty
  revert personal
  decide

theorem heads_left {accepts : Char → Bool} {first second : Text} (none' : heads accepts (first ++ second) = false) :
    heads accepts first = false := by
  cases first with
  | nil => rfl
  | cons _ _ => exact none'

theorem heads_reverse {number : Text} (digits : ∀ char ∈ number, isDigit char = true) (some' : number ≠ []) :
    heads isDigit number.reverse = true := by
  cases reversed : number.reverse with
  | nil => exact absurd (List.reverse_eq_nil_iff.mp reversed) some'
  | cons first more => exact digits first (List.mem_reverse.mp (reversed ▸ List.mem_cons_self))

private theorem isAsciiDigit_of_low {char : Char} (digit : isDigit char = true) (low : char.toNat < 128) :
    isAsciiDigit char = true := by
  obtain ⟨first,listed,inside⟩ := List.any_eq_true.mp digit
  simp only [inRange,Bool.and_eq_true,decide_eq_true_eq] at inside
  have places : ∀ first ∈ digitZeros, first = 0x30 ∨ 128 ≤ first := by decide
  obtain rfl | high := places first listed
  · simp only [isAsciiDigit,inChar,Bool.and_eq_true,decide_eq_true_eq,Char.le_def,UInt32.le_iff_toNat_le]
    exact inside
  · omega

theorem low_of_inChar {low high char : Char} (small : high.toNat < 128) (inside : inChar low high char = true) :
    char.toNat < 128 := by
  simp only [inChar,Bool.and_eq_true,decide_eq_true_eq,Char.le_def,UInt32.le_iff_toNat_le] at inside
  exact inside.2.trans_lt small

private theorem low_of_uses {char : Char} (used : email.uses char = true) : char.toNat < 128 := by
  have listed {chars : List Char} (small : ∀ char ∈ chars, char.toNat < 128)
      (inside : chars.contains char = true) : char.toNat < 128 := small char (List.contains_iff_mem.mp inside)
  have letter : isLetter char = true → char.toNat < 128 := by
    intro letter
    cases Bool.or_eq_true_iff.mp letter with
    | inl upper => exact low_of_inChar (by decide) upper
    | inr lower => exact low_of_inChar (by decide) lower
  have digit : isAsciiDigit char = true → char.toNat < 128 := low_of_inChar (by decide)
  simp only [email,Regex.uses,Bool.or_eq_true,beq_iff_eq] at used
  obtain ((letter' | digit') | other) | rfl | ((letter' | digit') | other) | rfl | letter' := used
  · exact letter letter'
  · exact digit digit'
  · exact listed (List.all_iff_forall_prop.mp (by decide)) other
  · decide
  · exact letter letter'
  · exact digit digit'
  · exact listed (List.all_iff_forall_prop.mp (by decide)) other
  · decide
  · exact letter letter'

private theorem plain_of_letter {char : Char} (letter : isLetter char = true) : isDigit char = false := by
  by_contra digit
  have low : char.toNat < 128 := low_of_uses (by simp [email,Regex.uses,letter])
  have ascii := isAsciiDigit_of_low (by simpa using digit) low
  simp only [isLetter,isAsciiDigit,inChar,Bool.or_eq_true,Bool.and_eq_true,decide_eq_true_eq,Char.le_def,
    UInt32.le_iff_toNat_le] at letter ascii
  obtain ⟨_,high⟩ := ascii
  obtain ⟨least,_⟩ | ⟨least,_⟩ := letter
  · exact absurd (least.trans high) (by decide)
  · exact absurd (least.trans high) (by decide)

/-! The patterns for numbers. -/

private theorem positive_of_number {regex : Regex} (listed : regex ∈ numberPatterns) : 0 < regex.least :=
  (numeric_of_listed listed).positive

private theorem ends_takeWhile (text : Text) : heads isDigit (text.dropWhile isDigit) = false := by
  cases rest : text.dropWhile isDigit with
  | nil => rfl
  | cons char others =>
    have some' : text.dropWhile isDigit ≠ [] := by simp [rest]
    have plain := List.head_dropWhile_not isDigit some'
    simp only [rest,List.head_cons] at plain
    exact plain

/-- A match of a pattern for numbers is a maximal run of digits and one more character at most. -/
theorem number_match {regex : Regex} (listed : regex ∈ numberPatterns) {before text : Text} {found : Cursor}
    (matched : regex.matchAt before text = some found) :
    heads isDigit before = false ∧ ∃ number after, text = number ++ after ∧ DigitRun number after ∧
      Personal number ∧ StopsBefore after found.after := by
  have left : heads isDigit before = false := by
    cases before with
    | nil => rfl
    | cons char others =>
      by_contra digit
      have digit : isDigit char = true := by simpa [heads] using digit
      rw [(numeric_of_listed listed).behind char others text digit] at matched
      cases matched
  have run : DigitRun (text.takeWhile isDigit) (text.dropWhile isDigit) :=
    ⟨fun char inside => List.mem_takeWhile_imp inside,ends_takeWhile text⟩
  have ran := List.mem_of_mem_head? matched
  rw [← @List.takeWhile_append_dropWhile _ isDigit text] at ran
  obtain ⟨personal,leaves⟩ := numbers_take listed run left ran
  exact ⟨left,_,_,List.takeWhile_append_dropWhile.symm,run,personal,leaves⟩

private theorem closes_number {regex : Regex} (listed : regex ∈ numberPatterns) : regex.Closes isDigit := by
  intro before taken rest found matched leaves _
  obtain ⟨_,number,after,_,_,_,tail,_,_,plain⟩ := number_match listed matched
  exact .inr (leaves ▸ plain)

private theorem personal_match {before number after : Text} (run : DigitRun number after)
    (left : heads isDigit before = false) (personal : Personal number) :
    ∃ regex ∈ [bankCard,phone], regex.matchAt before (number ++ after) ≠ none := by
  cases personal with
  | inl card =>
    have found := (mem_bankCard run left).mpr ⟨card.1,card.2,rfl⟩
    exact ⟨bankCard,List.mem_cons_self,mt List.head?_eq_none_iff.mp (List.ne_nil_of_mem found)⟩
  | inr shaped =>
    obtain ⟨stop,found⟩ := phone_found run left shaped
    exact ⟨phone,by simp,mt List.head?_eq_none_iff.mp (List.ne_nil_of_mem found)⟩

theorem clear_of_none {text : Text} (none' : ∀ regex ∈ [bankCard,phone], regex.search text = none) : Clear text := by
  intro pre number post split digits left right personal
  obtain ⟨regex,listed,found⟩ := personal_match ⟨digits,right⟩ left personal
  have positive := positive_of_number (List.mem_cons_of_mem _ listed)
  exact found ((search_eq_none_iff positive text).mp (none' regex listed) pre (number ++ post) split)

theorem none_of_clear {text : Text} (clear : Clear text) {regex : Regex} (listed : regex ∈ numberPatterns) :
    regex.search text = none := by
  refine (search_eq_none_iff (positive_of_number listed) text).mpr (fun first second split => ?_)
  by_contra found
  obtain ⟨cursor,matched⟩ := Option.ne_none_iff_exists'.mp found
  obtain ⟨left,number,after,same,run,personal,_⟩ := number_match listed matched
  exact clear first number after (same ▸ split) run.digits left run.ends personal

/-! The masks. -/

private theorem masked_ne (label : Label) : label.masked ≠ [] := by
  cases label <;> decide

private theorem apart_masked (label : Label) {segment : Text} (opening : '[' ∉ segment) (closing : ']' ∉ segment)
    (foreign : ∃ char ∈ segment, isDigit char = true ∨ char = '@') : Apart label.masked segment := by
  have first : label.masked.head? = some '[' := by cases label <;> decide
  have last : label.masked.getLast? = some ']' := by cases label <;> decide
  constructor
  · intro char given
    rw [first] at given
    exact Option.some.inj given ▸ opening
  · intro char given
    rw [last] at given
    exact Option.some.inj given ▸ closing
  · obtain ⟨char,inside,kind⟩ := foreign
    refine ⟨char,inside,fun masked => ?_⟩
    cases kind with
    | inl digit =>
      rw [(free_masked label).digits char masked] at digit
      cases digit
    | inr sign => exact (free_masked label).unsigned (sign ▸ masked)

private theorem plain_masked (label : Label) : heads isDigit label.masked.reverse = false := by
  cases label <;> decide

private theorem unbracketed {number : Text} (digits : ∀ char ∈ number, isDigit char = true) :
    '[' ∉ number ∧ ']' ∉ number :=
  ⟨fun inside => absurd (digits _ inside) (by decide),fun inside => absurd (digits _ inside) (by decide)⟩

/-! The passes of the patterns for numbers. -/

section
variable {regex : Regex} (listed : regex ∈ numberPatterns) (label : Label) {text : Text}
include listed

private theorem ends_number {before post right : Text} (result : Substitutes regex label.masked before post right)
    (digit : heads isDigit before = true) : heads isDigit post = heads isDigit right := by
  cases result with
  | done => rfl
  | skip _ _ => rfl
  | replace _ matched _ _ =>
    rw [(number_match listed matched).1] at digit
    cases digit

private theorem run_sub {pre number post : Text} (split : regex.sub label.masked text = pre ++ (number ++ post))
    (digits : ∀ char ∈ number, isDigit char = true) (some' : number ≠ [])
    (left : heads isDigit pre.reverse = false) (right : heads isDigit post = false) :
    ∃ pre' post', text = pre' ++ (number ++ post') ∧ heads isDigit pre'.reverse = false ∧
      heads isDigit post' = false ∧ regex.matchAt pre'.reverse (number ++ post') = none := by
  have pass := @sub_substitutes regex label.masked (positive_of_number listed) text
  obtain ⟨char,others,rfl⟩ := List.exists_cons_of_ne_nil some'
  have digit : isDigit char = true := digits char List.mem_cons_self
  obtain ⟨opening,closing⟩ := unbracketed digits
  have apart := apart_masked label opening closing ⟨char,List.mem_cons_self,.inl digit⟩
  obtain ⟨pre',post',same,unmatched,after,bound⟩ :=
    pass.traced split (masked_ne label) apart (closes_number listed)
  simp only [List.append_nil] at unmatched after bound
  refine ⟨pre',post',same,bound digit (by simpa using left),?_,unmatched.head⟩
  have last : heads isDigit ((char::others).reverse ++ pre'.reverse) = true := by
    rw [heads_append (by simp)]
    exact heads_reverse digits (List.cons_ne_nil _ _)
  rw [ends_number listed label after last]
  exact right

end

private theorem clear_sub (labels : Label × Label) (text : Text) :
    Clear (phone.sub labels.2.masked (bankCard.sub labels.1.masked text)) := by
  intro pre number post split digits left right personal
  have some' := personal_ne personal
  obtain ⟨pre,post,split,left,right,nothing⟩ :=
    run_sub (show phone ∈ numberPatterns by simp [numberPatterns]) _ split digits some' left right
  cases personal with
  | inr shaped =>
    obtain ⟨stop,found⟩ := phone_found ⟨digits,right⟩ left shaped
    exact List.ne_nil_of_mem found (List.head?_eq_none_iff.mp nothing)
  | inl card =>
    obtain ⟨pre,post,split,left,right,nothing⟩ :=
      run_sub (show bankCard ∈ numberPatterns by simp [numberPatterns]) _ split digits some' left right
    have found := (mem_bankCard ⟨digits,right⟩ left).mpr ⟨card.1,card.2,rfl⟩
    exact List.ne_nil_of_mem found (List.head?_eq_none_iff.mp nothing)

/-! Addresses. -/

def localChar (char : Char) : Bool := isLetter char || isAsciiDigit char || "._%+-".toList.contains char

def mailHost : Regex :=
  .seq (.one (· == '@'))
    (.seq (.many (fun char => isLetter char || isAsciiDigit char || ".-".toList.contains char) 1 none)
      (.seq (.one (· == '.')) (.many isLetter 2 none)))

private theorem email_eq : email = .seq (.many localChar 1 none) mailHost := rfl

private theorem positive_email : 0 < email.least := by decide

private theorem email_takes {start stop : Cursor} (found : stop ∈ email.run start) :
    ∃ name host, Takes start stop (name ++ '@'::host) ∧ name ≠ [] ∧ (∀ char ∈ name, localChar char = true) ∧
      (∀ char ∈ name ++ '@'::host, email.uses char = true) ∧ host ≠ [] ∧ heads isDigit host.reverse = false := by
  obtain ⟨whole,takes,_,uses⟩ := email.run_takes found
  obtain ⟨one,named,rest⟩ := List.mem_flatMap.mp found
  obtain ⟨two,signed,rest⟩ := List.mem_flatMap.mp rest
  obtain ⟨three,hosted,rest⟩ := List.mem_flatMap.mp rest
  obtain ⟨four,dotted,ended⟩ := List.mem_flatMap.mp rest
  obtain ⟨name,takes₁,long,names⟩ := Regex.run_takes (.many localChar 1 none) named
  obtain ⟨sign,takes₂,some₂,signs⟩ := Regex.run_takes _ signed
  obtain ⟨domain,takes₃,_,_⟩ := Regex.run_takes _ hosted
  obtain ⟨dot,takes₄,_,_⟩ := Regex.run_takes _ dotted
  obtain ⟨letters,takes₅,some₅,kinds⟩ := Regex.run_takes _ ended
  obtain rfl := takes.unique (takes₁.trans (takes₂.trans (takes₃.trans (takes₄.trans takes₅))))
  obtain ⟨first,more,rfl⟩ := List.exists_cons_of_ne_nil (List.ne_nil_of_length_pos some₂)
  obtain rfl : first = '@' := by simpa [Regex.uses] using signs first List.mem_cons_self
  have some₅ : letters ≠ [] := List.ne_nil_of_length_pos (Nat.lt_of_lt_of_le Nat.zero_lt_two some₅)
  refine ⟨name,more ++ (domain ++ (dot ++ letters)),takes,List.ne_nil_of_length_pos long,names,uses,
    by simp [some₅],?_⟩
  have last : heads isDigit letters.reverse = false := by
    cases reversed : letters.reverse with
    | nil => rfl
    | cons char others =>
      exact plain_of_letter (kinds char (List.mem_reverse.mp (reversed ▸ List.mem_cons_self)))
  simp only [List.reverse_append,List.append_assoc]
  rw [heads_append (by simpa using some₅)]
  exact last

private theorem closes_email : email.Closes isDigit := by
  intro before taken rest found matched leaves _
  obtain ⟨name,host,takes,_,_,_,some',last⟩ := email_takes (List.mem_of_mem_head? matched)
  have whole : taken = name ++ '@'::host := by
    have split := takes.1
    dsimp only at split
    rw [leaves] at split
    exact List.append_cancel_right split
  refine .inl ?_
  rw [whole,List.reverse_append,List.reverse_cons,List.append_assoc,heads_append (by simpa using some')]
  exact last

private theorem address_match {mail : Text} (address : Address mail) (before after : Text) :
    email.matchAt before (mail ++ after) ≠ none := by
  obtain ⟨stop,found,ends⟩ := address
  obtain ⟨taken,takes,_,_⟩ := email.run_takes found
  obtain rfl : mail = taken := by
    have split := takes.1
    dsimp only at split
    rwa [ends,List.append_nil] at split
  obtain ⟨stop',found',_⟩ := email.run_of_takes rfl found takes
    (show (⟨before,mail ++ after,[]⟩ : Cursor).after = mail ++ after from rfl)
  exact mt List.head?_eq_none_iff.mp (List.ne_nil_of_mem found')

private theorem address_of_match {before taken rest : Text} {found : Cursor}
    (matched : email.matchAt before (taken ++ rest) = some found) (leaves : found.after = rest) :
    Address taken := by
  have ran := List.mem_of_mem_head? matched
  obtain ⟨whole,takes,_,_⟩ := email.run_takes ran
  obtain rfl : taken = whole := by
    have split := takes.1
    dsimp only at split
    rw [leaves] at split
    exact List.append_cancel_right split
  obtain ⟨stop,found',takes'⟩ := email.run_of_takes rfl ran takes
    (show (⟨[],taken,[]⟩ : Cursor).after = taken ++ [] from (List.append_nil _).symm)
  refine ⟨stop,found',?_⟩
  have split := takes'.1
  dsimp only at split
  exact List.append_right_eq_self.mp split.symm

theorem Address.parts {mail : Text} (address : Address mail) :
    ∃ name host, mail = name ++ '@'::host ∧ name ≠ [] ∧ (∀ char ∈ name, localChar char = true) ∧
      (∀ char ∈ mail, email.uses char = true) ∧ host ≠ [] ∧ heads isDigit host.reverse = false := by
  obtain ⟨stop,found,ends⟩ := address
  obtain ⟨name,host,takes,parts⟩ := email_takes found
  obtain rfl : mail = name ++ '@'::host := by
    have split := takes.1
    dsimp only at split
    rwa [ends,List.append_nil] at split
  exact ⟨name,host,rfl,parts⟩

private theorem address_cons {mail : Text} (address : Address mail) {char : Char} (named : localChar char = true)
    (before after : Text) : email.matchAt before (char::(mail ++ after)) ≠ none := by
  obtain ⟨stop,found,ends⟩ := address
  obtain ⟨middle,name,hosted⟩ := List.mem_flatMap.mp (email_eq ▸ found)
  obtain ⟨taken,takes,long,names⟩ := Regex.run_takes _ name
  obtain ⟨host,takes',_,_⟩ := Regex.run_takes _ hosted
  have split : mail = taken ++ host := by
    have whole := (takes.trans takes').1
    dsimp only at whole
    rwa [ends,List.append_nil] at whole
  have accepted : ∀ other ∈ char::taken, localChar other = true := List.forall_mem_cons.mpr ⟨named,names⟩
  let start : Cursor := ⟨before,char::(mail ++ after),[]⟩
  have here : start.after = (char::taken) ++ (host ++ after) := by simp [start,split]
  have longer : (char::taken).length ≤ reach localChar none start.after := by
    rw [here,reach,List.takeWhile_append_of_pos accepted,List.length_append]
    exact Nat.le_add_right _ _
  have first : start.advance (char::taken).length ∈ (Regex.many localChar 1 none).run start := by
    refine List.mem_map.mpr ⟨(char::taken).length,?_,rfl⟩
    rw [List.mem_reverse,List.mem_range'_1]
    simp only [List.length_cons] at longer ⊢
    omega
  have next : (start.advance (char::taken).length).after = host ++ after := by
    rw [Cursor.advance,here]
    exact List.drop_left
  obtain ⟨stop',found',_⟩ := mailHost.run_of_takes rfl hosted takes' next
  exact mt List.head?_eq_none_iff.mp (List.ne_nil_of_mem (List.mem_flatMap.mpr ⟨_,first,found'⟩))

theorem Address.unbracketed {mail : Text} (address : Address mail) : '[' ∉ mail ∧ ']' ∉ mail := by
  obtain ⟨_,_,_,_,_,uses,_⟩ := address.parts
  exact ⟨fun inside => absurd (uses _ inside) (by decide),fun inside => absurd (uses _ inside) (by decide)⟩

theorem Address.ends {first second : Text} (address : Address (first ++ second)) (some' : second ≠ []) :
    heads isDigit second.reverse = false := by
  obtain ⟨name,host,split,_,_,_,some'',last⟩ := address.parts
  have whole := congrArg List.reverse split
  rw [List.reverse_append,List.reverse_append,List.reverse_cons,List.append_assoc] at whole
  have same := congrArg (heads isDigit) whole
  rw [heads_append (by simpa using some'),heads_append (by simpa using some'')] at same
  exact same.trans last

private theorem email_gone (text : Text) : email.search (email.sub Label.email.masked text) = none := by
  refine (search_eq_none_iff positive_email _).mpr (fun first second split => ?_)
  by_contra found
  obtain ⟨cursor,matched⟩ := Option.ne_none_iff_exists'.mp found
  obtain ⟨mail,takes,_⟩ := email.matchAt_takes matched
  have whole : second = mail ++ cursor.after := takes.1
  rw [whole] at matched split
  have address := address_of_match matched rfl
  obtain ⟨opening,closing⟩ := address.unbracketed
  obtain ⟨name,host,parts,_⟩ := address.parts
  have signed : '@' ∈ mail := by simp [parts]
  have apart := apart_masked .email opening closing ⟨'@',signed,.inr rfl⟩
  obtain ⟨pre,rest,_,unmatched,_⟩ := (sub_substitutes positive_email text).traced split (masked_ne .email)
    apart closes_email
  exact address_match address _ rest (unmatched [] mail rfl (List.ne_nil_of_mem signed))

/-! What the passes do to an exposed number. -/

theorem Exposure.segment {number mail : Text} (exposure : Exposure number mail) :
    '[' ∉ number ++ mail ∧ ']' ∉ number ++ mail ∧ number ≠ [] ∧ heads isDigit (number ++ mail) = true := by
  obtain ⟨opening,closing⟩ := unbracketed exposure.digits
  obtain ⟨opening',closing'⟩ := exposure.address.unbracketed
  have some' := personal_ne exposure.personal
  refine ⟨by simp [opening,opening'],by simp [closing,closing'],some',?_⟩
  obtain ⟨char,rest,rfl⟩ := List.exists_cons_of_ne_nil some'
  exact exposure.digits char List.mem_cons_self

theorem Exposure.ends {number mail first second : Text} (exposure : Exposure number mail)
    (split : number ++ mail = first ++ second) (some' : second ≠ []) : heads isDigit second.reverse = false := by
  obtain ⟨more,rfl,same⟩ | ⟨more,rfl,same⟩ := List.append_eq_append_iff.mp split
  · exact Address.ends (same ▸ exposure.address) some'
  · obtain ⟨_,_,parts,some'',_⟩ := exposure.address.parts
    have mail' : mail ≠ [] := by simp [parts]
    have last := @Address.ends [] mail exposure.address mail'
    rw [same,List.reverse_append,heads_append (by simpa using mail')]
    exact last

section
variable {regex : Regex} (listed : regex ∈ numberPatterns) {number mail : Text} (exposure : Exposure number mail)
include listed exposure

theorem Exposure.unmatched (before after : Text) : Unmatched regex before (number ++ mail) after := by
  intro first second split some'
  by_contra found
  obtain ⟨cursor,matched⟩ := Option.ne_none_iff_exists'.mp found
  obtain ⟨left,digits,rest,same,run,personal,_⟩ := number_match listed matched
  obtain ⟨more,cut,_⟩ | ⟨more,cut,tail⟩ := List.append_eq_append_iff.mp same
  · -- the digits would hold the letter at the end of the address
    have last := exposure.ends split some'
    rw [heads_reverse (fun char inside => run.digits char (by simp [cut,inside])) some'] at last
    cases last
  · refine exposure.clear first digits more (by rw [split,cut]) run.digits (heads_left left) ?_ personal
    exact heads_left (tail ▸ run.ends)

end

private theorem contained_number {regex : Regex} (listed : regex ∈ numberPatterns) {before : Text}
    (left : heads isDigit before.reverse = false) (rest : Text) : Contained regex [] before rest := by
  intro first second found split some' matched
  by_contra longer
  obtain ⟨_,digits,after,same,run,_,tail,short,cut,_⟩ := number_match listed matched
  have sizes := congrArg List.length same
  rw [cut] at sizes
  simp only [List.length_append] at sizes
  have inside : ∀ char ∈ second, isDigit char = true := by
    obtain ⟨more,whole,_⟩ | ⟨more,whole,_⟩ := List.append_eq_append_iff.mp same
    · exact fun char member => run.digits char (by simp [whole,member])
    · have nothing : more = [] := by
        have size := congrArg List.length whole
        rw [List.length_append] at size
        exact List.eq_nil_of_length_eq_zero (by omega)
      rw [nothing,List.append_nil] at whole
      exact whole ▸ run.digits
  rw [split,List.reverse_append,heads_append (by simpa using some'),heads_reverse inside some'] at left
  cases left

private theorem exposed_sub {regex : Regex} (listed : regex ∈ numberPatterns) (label : Label) (text : Text) :
    Exposed (regex.sub label.masked text) ↔ Exposed text := by
  have pass := @sub_substitutes regex label.masked (positive_of_number listed) text
  constructor
  · intro exposed
    obtain ⟨before,number,mail,after,split,left,exposure⟩ := exposed
    obtain ⟨opening,closing,some',first⟩ := exposure.segment
    obtain ⟨char,rest,rfl⟩ := List.exists_cons_of_ne_nil some'
    have apart := apart_masked label opening closing
      ⟨char,by simp,.inl (exposure.digits char List.mem_cons_self)⟩
    obtain ⟨pre,post,same,_,_,bound⟩ := pass.traced split (masked_ne label) apart (closes_number listed)
    simp only [List.append_nil] at bound
    exact ⟨pre,_,mail,post,same,bound first left,exposure⟩
  · intro exposed
    obtain ⟨before,number,mail,after,split,left,exposure⟩ := exposed
    obtain ⟨_,_,some',_⟩ := exposure.segment
    obtain ⟨pre,post,same,_,bound⟩ := pass.protected split (by simp [some'])
      (exposure.unmatched listed _ _) (contained_number listed left _) (masked_ne label) (plain_masked label)
    simp only [List.append_nil] at bound
    exact ⟨pre,number,mail,post,same,bound left,exposure⟩

/-! The pass for addresses. -/

theorem Exposure.last {number mail : Text} (exposure : Exposure number mail) :
    ∃ front char, number = front ++ [char] ∧ email.uses char = false := by
  have some' := personal_ne exposure.personal
  refine ⟨number.dropLast,number.getLast some',(List.dropLast_append_getLast some').symm,?_⟩
  by_contra used
  have ascii := isAsciiDigit_of_low (exposure.digits _ (List.getLast_mem some')) (low_of_uses (by simpa using used))
  have foreign := exposure.foreign
  rw [← List.dropLast_append_getLast some',List.reverse_append] at foreign
  rw [show isAsciiDigit (number.getLast some') = false from foreign] at ascii
  cases ascii

private theorem taken_before {front rest taken tail : Text} {char : Char} (apart : char ∉ taken)
    (split : front ++ (char::rest) = taken ++ tail) : ∃ more, front = taken ++ more := by
  obtain ⟨more,cut,same⟩ | ⟨more,cut,_⟩ := List.append_eq_append_iff.mp split
  · cases more with
    | nil => exact ⟨[],by rw [cut]; simp⟩
    | cons first others =>
      obtain ⟨rfl,_⟩ := List.cons.inj same
      exact absurd (by simp [cut]) apart
  · exact ⟨more,cut⟩

theorem email_taken {before text : Text} {found : Cursor} (matched : email.matchAt before text = some found) :
    ∃ mail, text = mail ++ found.after ∧ Address mail := by
  obtain ⟨mail,takes,_⟩ := email.matchAt_takes matched
  have whole : text = mail ++ found.after := takes.1
  exact ⟨mail,whole,address_of_match (whole ▸ matched) rfl⟩

theorem Exposure.unmatched_email {number mail : Text} (exposure : Exposure number mail) (before after : Text) :
    Unmatched email before number after := by
  intro first second split some'
  by_contra found
  obtain ⟨cursor,matched⟩ := Option.ne_none_iff_exists'.mp found
  obtain ⟨taken,whole,address⟩ := email_taken matched
  obtain ⟨name,host,parts,_,_,uses,_⟩ := address.parts
  obtain ⟨front,char,last,unused⟩ := exposure.last
  obtain ⟨others,rfl⟩ : ∃ others, second = others ++ [char] := by
    obtain ⟨others,final,rfl⟩ := (List.eq_nil_or_concat' second).resolve_left some'
    rw [last,← List.append_assoc] at split
    obtain rfl := (List.append_inj' split rfl).2 |> List.singleton_inj.mp
    exact ⟨others,rfl⟩
  have apart : char ∉ taken := by
    intro inside
    rw [uses char inside] at unused
    cases unused
  rw [List.append_assoc] at whole
  obtain ⟨more,rfl⟩ := taken_before apart whole
  exact absurd (exposure.digits '@' (by simp [split,parts])) (by decide)

theorem Exposure.contained_email {number mail : Text} (exposure : Exposure number mail) (before after : Text) :
    Contained email [] before (number ++ after) := by
  intro first second found split some' matched
  by_contra longer
  obtain ⟨taken,whole,address⟩ := email_taken matched
  obtain ⟨_,_,_,_,_,uses,_⟩ := address.parts
  obtain ⟨front,char,rfl,unused⟩ := exposure.last
  have apart : char ∉ taken := by
    intro inside
    rw [uses char inside] at unused
    cases unused
  have sizes := congrArg List.length whole
  have regrouped : (second ++ front) ++ (char::after) = taken ++ found.after := by
    rw [← whole]
    simp
  obtain ⟨more,cut⟩ := taken_before apart regrouped
  obtain ⟨rest,rfl,tail⟩ | ⟨rest,rfl,_⟩ := List.append_eq_append_iff.mp cut
  · -- the address would end among the digits
    have some'' : rest ≠ [] := by
      intro nothing
      subst nothing
      simp only [List.length_append,List.length_cons,List.length_nil] at sizes longer
      omega
    have last := address.ends some''
    rw [heads_reverse (fun char inside => exposure.digits char (by simp [tail,inside])) some''] at last
    cases last
  · simp only [List.length_append,List.length_cons,List.length_nil] at sizes longer
    omega

theorem not_clear_of_exposed {text : Text} (exposed : Exposed text) : ¬Clear (email.sub Label.email.masked text) := by
  intro clear
  obtain ⟨before,number,mail,after,split,left,exposure⟩ := exposed
  rw [List.append_assoc] at split
  obtain ⟨pre,right,same,rest,bound⟩ := (sub_substitutes positive_email text).protected split
    (personal_ne exposure.personal) (exposure.unmatched_email _ _) (exposure.contained_email before _)
    (masked_ne .email) (plain_masked .email)
  simp only [List.append_nil] at bound
  refine clear pre number right same exposure.digits (bound left) ?_ exposure.personal
  have found := address_match exposure.address (number.reverse ++ (before.reverse ++ [])) after
  generalize mail ++ after = others at rest found
  cases rest with
  | done => rfl
  | skip nothing _ => exact absurd nothing found
  | replace _ _ _ _ => rfl

private theorem foreign_of_unmatched {before number mail after : Text} (some' : number ≠ [])
    (unmatched : Unmatched email before number (mail ++ after)) (address : Address mail) :
    heads isAsciiDigit number.reverse = false := by
  by_contra ascii
  have cut := List.dropLast_append_getLast some'
  rw [← cut,List.reverse_append] at ascii
  have named : localChar (number.getLast some') = true := by
    rw [localChar,show isAsciiDigit _ = true by simpa [heads] using ascii]
    simp
  exact address_cons address named _ after
    (unmatched number.dropLast [number.getLast some'] cut.symm (List.cons_ne_nil _ _))

private theorem clear_inside {before inner after : Text} (clear : Clear (before ++ (inner ++ after)))
    (left : heads isDigit before.reverse = false) (right : heads isDigit inner.reverse = false) :
    Clear inner := by
  intro pre number post cut numbers plain plain' personal
  refine clear (before ++ pre) number (post ++ after) ?_ numbers ?_ ?_ personal
  · rw [cut]
    simp only [List.append_assoc]
  · by_cases nothing : pre = []
    · rw [nothing,List.append_nil]
      exact left
    · rw [List.reverse_append,heads_append (by simpa using nothing)]
      exact plain
  · by_cases nothing : post = []
    · have whole := congrArg (fun text => heads isDigit (List.reverse text)) cut
      simp only [nothing,List.append_nil,List.reverse_append] at whole
      rw [right,heads_append (by simpa using personal_ne personal),heads_reverse numbers (personal_ne personal)] at whole
      cases whole
    · rw [heads_append nothing]
      exact plain'

private theorem exposed_of_not_clear {text : Text} (clear : Clear text)
    (found : ¬Clear (email.sub Label.email.masked text)) : Exposed text := by
  by_contra hidden
  refine found (fun pre number post split digits left right personal => ?_)
  have some' := personal_ne personal
  obtain ⟨first,others,rfl⟩ := List.exists_cons_of_ne_nil some'
  obtain ⟨opening,closing⟩ := unbracketed digits
  have apart := apart_masked .email opening closing
    ⟨first,List.mem_cons_self,.inl (digits first List.mem_cons_self)⟩
  obtain ⟨before,rest,same,unmatched,after,bound⟩ :=
    (sub_substitutes positive_email text).traced split (masked_ne .email) apart closes_email
  simp only [List.append_nil] at unmatched after bound
  have left' := bound (digits first List.mem_cons_self) left
  have stays : heads isDigit rest = false → False :=
    fun plain => clear before _ rest same digits left' plain personal
  generalize beyond : (first::others).reverse ++ before.reverse = behind at after
  cases after with
  | done => exact stays rfl
  | skip _ _ => exact stays right
  | @replace _ taken rest' _ cursor some'' matched leaves _ =>
    have address := address_of_match matched leaves
    by_cases joined : heads isDigit taken = true
    · have whole : text = before ++ ((first::others ++ taken) ++ rest') := by rw [same,List.append_assoc]
      have foreign := foreign_of_unmatched (List.cons_ne_nil first others) unmatched address
      have lettered : heads isDigit (first::others ++ taken).reverse = false := by
        rw [List.reverse_append,heads_append (by simpa using some'')]
        exact @Address.ends [] taken address some''
      have inside := clear_inside (whole ▸ clear) left' lettered
      exact hidden ⟨before,first::others,taken,rest',whole,left',digits,foreign,personal,address,joined,inside⟩
    · refine stays ?_
      rw [heads_append some'']
      simpa using joined

/-! The mask. -/

def numbersMasked (text : Text) : Text :=
  phone.sub Label.phone.masked (bankCard.sub Label.bankCard.masked (idCard.sub Label.idCard.masked text))

private theorem maskStep_text (state : List Label × Text) {item : Label × Regex} (positive : 0 < item.2.least) :
    (maskStep state item).2 = item.2.sub item.1.masked state.2 := by
  unfold maskStep
  split_ifs with hit
  · rfl
  · exact (sub_of_none positive (by simpa using hit)).symm

private theorem inspectOutput_eq (text : Text) :
    inspectOutput text = email.sub Label.email.masked (numbersMasked text) := by
  have positive : ∀ item ∈ piiPatterns, 0 < item.2.least := by decide
  simp only [inspectOutput,maskPii,piiPatterns,List.foldl_cons,List.foldl_nil,numbersMasked]
  rw [maskStep_text _ positive_email,maskStep_text _ numeric_phone.positive,
    maskStep_text _ numeric_bankCard.positive,maskStep_text _ numeric_idCard.positive]

private theorem exposed_numbersMasked (text : Text) : Exposed (numbersMasked text) ↔ Exposed text := by
  unfold numbersMasked
  rw [exposed_sub (by simp [numberPatterns]),exposed_sub (by simp [numberPatterns]),
    exposed_sub (by simp [numberPatterns])]

private theorem none_of_hidden {text : Text} (hidden : ¬Exposed text) :
    ∀ item ∈ piiPatterns, item.2.search (inspectOutput text) = none := by
  rw [inspectOutput_eq]
  have clear : Clear (email.sub Label.email.masked (numbersMasked text)) := by
    by_contra found
    exact hidden ((exposed_numbersMasked text).mp (exposed_of_not_clear (clear_sub (_,_) _) found))
  intro item listed
  simp only [piiPatterns,List.mem_cons,List.not_mem_nil,or_false] at listed
  obtain rfl | rfl | rfl | rfl := listed
  · exact none_of_clear clear (by simp [numberPatterns])
  · exact none_of_clear clear (by simp [numberPatterns])
  · exact none_of_clear clear (by simp [numberPatterns])
  · exact email_gone _

private theorem hit_of_exposed {text : Text} (exposed : Exposed text) :
    ∃ item ∈ piiPatterns, item.2.search (inspectOutput text) ≠ none := by
  by_contra nothing
  refine not_clear_of_exposed ((exposed_numbersMasked text).mpr exposed) (clear_of_none ?_)
  intro regex listed
  by_contra found
  rw [← inspectOutput_eq] at found
  simp only [List.mem_cons,List.not_mem_nil,or_false] at listed
  obtain rfl | rfl := listed
  · exact nothing ⟨(.bankCard,bankCard),by simp [piiPatterns],found⟩
  · exact nothing ⟨(.phone,phone),by simp [piiPatterns],found⟩

/-- The masked text holds nothing that a pattern finds, and masking it again changes nothing, exactly when the
text exposes no number. -/
theorem masking_complete_iff (text : Text) :
    ((∀ item ∈ piiPatterns, item.2.search (inspectOutput text) = none) ∧
      inspectOutput (inspectOutput text) = inspectOutput text) ↔ ¬Exposed text := by
  constructor
  · intro complete exposed
    obtain ⟨item,listed,found⟩ := hit_of_exposed exposed
    exact found (complete.1 item listed)
  · intro hidden
    exact ⟨none_of_hidden hidden,mask_of_none (none_of_hidden hidden)⟩

/-- Twelve digits are no telephone number; the eleven before the address are. -/
theorem masking_exposes_phone :
    let text := "13٠٠٠٠٠٠٠٠٠5@a.co".toList
    inspectOutput text = "13٠٠٠٠٠٠٠٠٠[EMAIL_MASKED]".toList ∧
      (phone.search (inspectOutput text)).isSome = true ∧
      inspectOutput (inspectOutput text) = "[PHONE_MASKED][EMAIL_MASKED]".toList ∧
      ¬∀ text : Text, (∀ item ∈ piiPatterns, item.2.search (inspectOutput text) = none) ∧
        inspectOutput (inspectOutput text) = inspectOutput text := by
  intro text
  have found : (phone.search (inspectOutput text)).isSome = true := by decide +kernel
  refine ⟨by decide +kernel,found,by decide +kernel,fun complete => ?_⟩
  rw [(complete text).1 (.phone,phone) (by simp [piiPatterns])] at found
  cases found

end CustomerService.MaskCompleteness
