import CustomerService.Text
import CustomerService.Dict
import Mathlib.Data.Bool.AllAny

/-! JSON as Python's `json` module writes it on one line, and as it reads it back. A number is kept as the
text that stands for it, a string as its characters. -/
namespace CustomerService

inductive JsonWord where
  | null | true | false | nan | infinity | negInfinity
deriving DecidableEq

inductive Json where
  | word (name : JsonWord)
  | number (lexeme : Text)
  | str (text : Text)
  | arr (items : List Json)
  | obj (pairs : List (Text × Json))

namespace JsonWord

def text : JsonWord → Text
  | null => ['n','u','l','l']
  | true => ['t','r','u','e']
  | false => ['f','a','l','s','e']
  | nan => ['N','a','N']
  | infinity => ['I','n','f','i','n','i','t','y']
  | negInfinity => ['-','I','n','f','i','n','i','t','y']

def all : List JsonWord := [null,true,false,nan,infinity,negInfinity]

end JsonWord

namespace Json

open Text

def isNumeral (char : Char) : Bool := inRange 0x30 0x39 char || ['+','-','.','e','E'].contains char

def isDecimal (char : Char) : Bool := inRange 0x30 0x39 char

/-! The writer. -/

def hexDigit (value : Nat) : Char := Char.ofNat (if value < 10 then 0x30 + value else 0x57 + value)

def escapeChar (char : Char) : Text :=
  if char = '"' then ['\\','"'] else if char = '\\' then ['\\','\\']
  else if char = '\n' then ['\\','n'] else if char = '\r' then ['\\','r']
  else if char = '\t' then ['\\','t'] else if char.toNat = 0x8 then ['\\','b']
  else if char.toNat = 0xc then ['\\','f']
  else if char.toNat < 0x20 then
    ['\\','u','0','0',hexDigit (char.toNat / 16),hexDigit (char.toNat % 16)]
  else [char]

def quote (text : Text) : Text := '"'::(text.flatMap escapeChar ++ ['"'])

mutual

def dumps : Json → Text
  | word name => name.text
  | number lexeme => lexeme
  | str text => quote text
  | arr [] => ['[',']']
  | arr (first::others) => '['::(dumps first ++ dumpsItems others)
  | obj [] => ['{','}']
  | obj ((key,value)::others) => '{'::(quote key ++ ':' :: ' '::(dumps value ++ dumpsPairs others))

def dumpsItems : List Json → Text
  | [] => [']']
  | item::others => ',' :: ' '::(dumps item ++ dumpsItems others)

def dumpsPairs : List (Text × Json) → Text
  | [] => ['}']
  | (key,value)::others => ',' :: ' '::(quote key ++ ':' :: ' '::(dumps value ++ dumpsPairs others))

end

/-! The reader. -/

def skip (text : Text) : Text := text.dropWhile (fun char => [' ','\t','\n','\r'].contains char)

def hexValue (char : Char) : Option Nat :=
  if inRange 0x30 0x39 char then some (char.toNat - 0x30)
  else if inRange 0x61 0x66 char then some (char.toNat - 0x57)
  else if inRange 0x41 0x46 char then some (char.toNat - 0x37)
  else none

def readCode : Text → Option (Nat × Text)
  | first::second::third::fourth::rest =>
    match hexValue first,hexValue second,hexValue third,hexValue fourth with
    | some first,some second,some third,some fourth =>
      some (first * 4096 + second * 256 + third * 16 + fourth,rest)
    | _,_,_,_ => none
  | _ => none

def readLow : Text → Option (Nat × Text)
  | slash::mark::rest =>
    if slash = '\\' ∧ mark = 'u' then (readCode rest).filter (fun found => 0xdc00 ≤ found.1 ∧ found.1 < 0xe000)
    else none
  | _ => none

/-- After `\u`. Two surrogates are one character; one alone is no character. -/
def readUnicode (text : Text) : Option (Char × Text) :=
  match readCode text with
  | none => none
  | some (high,rest) =>
    if 0xd800 ≤ high ∧ high < 0xdc00 then
      (readLow rest).map (fun found => (Char.ofNat (0x10000 + (high - 0xd800) * 0x400 + (found.1 - 0xdc00)),found.2))
    else if 0xdc00 ≤ high ∧ high < 0xe000 then none
    else some (Char.ofNat high,rest)

def escapes : List (Char × Char) :=
  [('"','"'),('\\','\\'),('/','/'),('b',Char.ofNat 0x8),('f',Char.ofNat 0xc),('n','\n'),('r','\r'),('t','\t')]

def readEscape : Text → Option (Char × Text)
  | [] => none
  | mark::rest => if mark = 'u' then readUnicode rest else (escapes.lookup mark).map (fun char => (char,rest))

/-- After the opening quote. The number bounds how many characters are read. -/
def readString : Nat → Text → Option (Text × Text)
  | 0, _ => none
  | _ + 1, [] => none
  | fuel + 1, char::rest =>
    if char = '"' then some ([],rest)
    else if char = '\\' then
      match readEscape rest with
      | none => none
      | some (char,after) => (readString fuel after).map (fun found => (char::found.1,found.2))
    else if char.toNat < 0x20 then none
    else (readString fuel rest).map (fun found => (char::found.1,found.2))

def exponentOk : Text → Bool
  | [] => true
  | mark::rest =>
    (mark == 'e' || mark == 'E') &&
      (let digits := if heads (fun char => char == '+' || char == '-') rest then rest.tail else rest
       !digits.isEmpty && digits.all isDecimal)

def fractionOk : Text → Bool
  | [] => true
  | mark::rest =>
    if mark = '.' then !(rest.takeWhile isDecimal).isEmpty && exponentOk (rest.dropWhile isDecimal)
    else exponentOk (mark::rest)

/-- `-?(0|[1-9]\d*)(\.\d+)?([eE][-+]?\d+)?`. -/
def isNumber (text : Text) : Bool :=
  let unsigned := if heads (· == '-') text then text.tail else text
  let whole := unsigned.takeWhile isDecimal
  !whole.isEmpty && (whole.length == 1 || !heads (· == '0') whole) && fractionOk (unsigned.dropWhile isDecimal)

def readAtom (text : Text) : Option (Json × Text) :=
  match JsonWord.all.find? (fun name => name.text.isPrefixOf text) with
  | some name => some (word name,text.drop name.text.length)
  | none =>
    let run := text.takeWhile isNumeral
    if isNumber run then some (number run,text.dropWhile isNumeral) else none

def readKey (fuel : Nat) : Text → Option (Text × Text)
  | [] => none
  | mark::rest =>
    if mark = '"' then
      match readString fuel rest with
      | none => none
      | some (key,after) => if heads (· == ':') (skip after) then some (key,skip (skip after).tail) else none
    else none

/-- As for a Python dictionary, the last value of a repeated key is kept, in the key's first place. -/
def object (pairs : List (Text × Json)) : Json := obj ((∅ : Dict Text Json).update pairs).entries

mutual

def readValue : Nat → Text → Option (Json × Text)
  | 0, _ => none
  | _ + 1, [] => none
  | fuel + 1, mark::rest =>
    if mark = '"' then (readString fuel rest).map (fun found => (str found.1,found.2))
    else if mark = '[' then
      if heads (· == ']') (skip rest) then some (arr [],(skip rest).tail)
      else
        match readValue fuel (skip rest) with
        | none => none
        | some (first,after) => (readItems fuel after).map (fun found => (arr (first::found.1),found.2))
    else if mark = '{' then
      if heads (· == '}') (skip rest) then some (obj [],(skip rest).tail)
      else
        match readKey fuel (skip rest) with
        | none => none
        | some (key,after) =>
          match readValue fuel after with
          | none => none
          | some (value,after) =>
            (readPairs fuel after).map (fun found => (object ((key,value)::found.1),found.2))
    else readAtom (mark::rest)

def readItems : Nat → Text → Option (List Json × Text)
  | 0, _ => none
  | fuel + 1, text =>
    if heads (· == ']') (skip text) then some ([],(skip text).tail)
    else if heads (· == ',') (skip text) then
      match readValue fuel (skip (skip text).tail) with
      | none => none
      | some (item,after) => (readItems fuel after).map (fun found => (item::found.1,found.2))
    else none

def readPairs : Nat → Text → Option (List (Text × Json) × Text)
  | 0, _ => none
  | fuel + 1, text =>
    if heads (· == '}') (skip text) then some ([],(skip text).tail)
    else if heads (· == ',') (skip text) then
      match readKey fuel (skip (skip text).tail) with
      | none => none
      | some (key,after) =>
        match readValue fuel after with
        | none => none
        | some (value,after) => (readPairs fuel after).map (fun found => ((key,value)::found.1,found.2))
    else none

end

/-- Every step reads a character, so the length is bound enough. -/
def loads (text : Text) : Option Json :=
  match readValue text.length (skip text) with
  | none => none
  | some (value,after) => if (skip after).isEmpty then some value else none

/-! What can be written: numbers in the grammar, and the distinct keys of a dictionary. -/

mutual

def valid : Json → Bool
  | word _ => true
  | number lexeme => lexeme.all isNumeral && isNumber lexeme
  | str _ => true
  | arr items => validItems items
  | obj pairs => decide (pairs.map Prod.fst).Nodup && validPairs pairs

def validItems : List Json → Bool
  | [] => true
  | item::others => valid item && validItems others

def validPairs : List (Text × Json) → Bool
  | [] => true
  | (_,value)::others => valid value && validPairs others

end

private theorem hexValue_hexDigit {value : Nat} (small : value < 16) : hexValue (hexDigit value) = some value := by
  revert value
  decide

private theorem readUnicode_control {char : Char} (control : char.toNat < 0x20) (rest : Text) :
    readUnicode ('0' :: '0'::hexDigit (char.toNat / 16)::hexDigit (char.toNat % 16)::rest) = some (char,rest) := by
  have high : hexValue (hexDigit (char.toNat / 16)) = some (char.toNat / 16) := hexValue_hexDigit (by omega)
  have low : hexValue (hexDigit (char.toNat % 16)) = some (char.toNat % 16) := hexValue_hexDigit (by omega)
  have zero : hexValue '0' = some 0 := by decide
  have code : 0 * 4096 + 0 * 256 + char.toNat / 16 * 16 + char.toNat % 16 = char.toNat := by omega
  have found : readCode ('0' :: '0'::hexDigit (char.toNat / 16)::hexDigit (char.toNat % 16)::rest) =
      some (char.toNat,rest) := by
    simp only [readCode,zero,high,low,code]
  have apart : ¬(0xd800 ≤ char.toNat ∧ char.toNat < 0xdc00) := by omega
  have apart' : ¬(0xdc00 ≤ char.toNat ∧ char.toNat < 0xe000) := by omega
  rw [readUnicode,found]
  simp only [apart,apart',if_false,Char.ofNat_toNat]

/-- How a character is written: with a mark of its own, by its code, or as it is. -/
inductive Escaped (char : Char) : Text → Prop
  | marked (mark : Char) (own : mark ≠ 'u') (known : escapes.lookup mark = some char) : Escaped char ['\\',mark]
  | control (low : char.toNat < 0x20) :
    Escaped char ['\\','u','0','0',hexDigit (char.toNat / 16),hexDigit (char.toNat % 16)]
  | plain (quoted : char ≠ '"') (slash : char ≠ '\\') (high : ¬char.toNat < 0x20) : Escaped char [char]

private theorem escapeChar_escaped (char : Char) : Escaped char (escapeChar char) := by
  by_cases quoted : char = '"'
  · exact quoted ▸ .marked '"' (by decide) rfl
  by_cases slash : char = '\\'
  · exact slash ▸ .marked '\\' (by decide) rfl
  by_cases line : char = '\n'
  · exact line ▸ .marked 'n' (by decide) rfl
  by_cases carriage : char = '\r'
  · exact carriage ▸ .marked 'r' (by decide) rfl
  by_cases tab : char = '\t'
  · exact tab ▸ .marked 't' (by decide) rfl
  by_cases back : char.toNat = 0x8
  · obtain rfl : char = Char.ofNat 0x8 := back ▸ (Char.ofNat_toNat char).symm
    exact .marked 'b' (by decide) rfl
  by_cases form : char.toNat = 0xc
  · obtain rfl : char = Char.ofNat 0xc := form ▸ (Char.ofNat_toNat char).symm
    exact .marked 'f' (by decide) rfl
  rw [escapeChar,if_neg quoted,if_neg slash,if_neg line,if_neg carriage,if_neg tab,if_neg back,if_neg form]
  by_cases low : char.toNat < 0x20
  · rw [if_pos low]
    exact .control low
  · rw [if_neg low]
    exact .plain quoted slash low

private theorem readString_escapeChar (fuel : Nat) (char : Char) (rest : Text) :
    readString (fuel + 1) (escapeChar char ++ rest) =
      (readString fuel rest).map (fun found => (char::found.1,found.2)) := by
  have opened : ¬('\\' = '"') := by decide
  have escaped := escapeChar_escaped char
  generalize escapeChar char = written at escaped ⊢
  cases escaped with
  | marked mark own known =>
    simp only [List.cons_append,List.nil_append,readString,readEscape,opened,own,known,if_false,if_true,
      Option.map_some]
  | control low =>
    simp only [List.cons_append,List.nil_append,readString,readEscape,opened,if_false,if_true,readUnicode_control low]
  | plain quoted slash high =>
    simp only [List.cons_append,List.nil_append,readString,quoted,slash,high,if_false]

private theorem readString_escaped (text rest : Text) {fuel : Nat} (enough : text.length < fuel) :
    readString fuel (text.flatMap escapeChar ++ '"'::rest) = some (text,rest) := by
  induction text generalizing fuel with
  | nil =>
    obtain ⟨less,rfl⟩ : ∃ less, fuel = less + 1 := ⟨fuel - 1,by omega⟩
    rfl
  | cons char others ih =>
    obtain ⟨less,rfl⟩ : ∃ less, fuel = less + 1 := ⟨fuel - 1,by omega⟩
    rw [List.flatMap_cons,List.append_assoc,readString_escapeChar,ih (by simpa using enough)]
    rfl

private theorem length_escaped (text : Text) : text.length ≤ (text.flatMap escapeChar).length := by
  induction text with
  | nil => exact Nat.le_refl _
  | cons char others ih =>
    have some' : 1 ≤ (escapeChar char).length := by
      have escaped := escapeChar_escaped char
      generalize escapeChar char = written at escaped ⊢
      cases escaped <;> exact Nat.succ_le_succ (Nat.zero_le _)
    rw [List.flatMap_cons,List.length_append,List.length_cons]
    omega

private theorem readKey_quote (key rest : Text) {fuel : Nat} (enough : key.length < fuel) :
    readKey fuel (quote key ++ ':' :: ' '::rest) = some (key,skip rest) := by
  have whole : quote key ++ ':' :: ' '::rest = '"'::(key.flatMap escapeChar ++ '"' :: ':' :: ' '::rest) := by
    simp [quote]
  have colon : skip (':' :: ' '::rest) = ':' :: ' '::rest := rfl
  have blank : skip (' '::rest) = skip rest := rfl
  rw [whole]
  simp only [readKey,readString_escaped key _ enough,colon,blank,heads,List.tail_cons,beq_self_eq_true,if_true]

/-! The first character written. -/

def fences : List Char := [' ','\t','\n','\r',']','}',',']

private theorem not_fence_of_isNumeral {char : Char} (numeral : isNumeral char = true) : char ∉ fences := by
  have apart : ∀ fence ∈ fences, isNumeral fence = false :=
    List.all_iff_forall_prop.mp (by decide)
  intro inside
  rw [apart char inside] at numeral
  cases numeral

private theorem lexeme_ne {lexeme : Text} (number : isNumber lexeme = true) : lexeme ≠ [] ∧ lexeme ≠ ['-'] := by
  constructor
  · intro none'
    subst none'
    exact absurd number (by decide)
  · intro sign
    subst sign
    exact absurd number (by decide)

private theorem dumps_cons {value : Json} (fit : value.valid = true) :
    ∃ char rest, dumps value = char::rest ∧ char ∉ fences := by
  cases value with
  | word name => cases name <;> exact ⟨_,_,rfl,by decide⟩
  | number lexeme =>
    obtain ⟨numerals,number⟩ := Bool.and_eq_true_iff.mp fit
    obtain ⟨char,rest,rfl⟩ := List.exists_cons_of_ne_nil (lexeme_ne number).1
    exact ⟨char,rest,rfl,not_fence_of_isNumeral (List.all_eq_true.mp numerals char List.mem_cons_self)⟩
  | str text => exact ⟨_,_,rfl,by decide⟩
  | arr items =>
    cases items with
    | nil => exact ⟨_,_,rfl,by decide⟩
    | cons first others => exact ⟨_,_,rfl,by decide⟩
  | obj pairs =>
    cases pairs with
    | nil => exact ⟨_,_,rfl,by decide⟩
    | cons pair others => exact ⟨_,_,rfl,by decide⟩

private theorem skip_dumps {value : Json} (fit : value.valid = true) (rest : Text) :
    skip (dumps value ++ rest) = dumps value ++ rest := by
  obtain ⟨char,tail,written,solid⟩ := dumps_cons fit
  have stays : ¬[' ','\t','\n','\r'].contains char = true := by
    rw [List.contains_iff_mem]
    exact fun blank => solid (List.mem_append_left [']','}',','] blank)
  rw [written,List.cons_append,skip,List.dropWhile_cons_of_neg stays]

private theorem heads_dumps {value : Json} (fit : value.valid = true) (rest : Text) {fence : Char}
    (listed : fence ∈ fences) : heads (· == fence) (dumps value ++ rest) = false := by
  obtain ⟨char,tail,written,solid⟩ := dumps_cons fit
  rw [written]
  exact beq_false_of_ne (fun same => solid (same ▸ listed))

private theorem readAtom_word (name : JsonWord) (rest : Text) :
    readAtom (name.text ++ rest) = some (word name,rest) := by
  have found : JsonWord.all.find? (fun other => other.text.isPrefixOf (name.text ++ rest)) = some name := by
    cases name <;> rfl
  rw [readAtom,found]
  simp only [List.drop_left]

theorem find_number {lexeme : Text} (numerals : lexeme.all isNumeral = true) (number : isNumber lexeme = true)
    (rest : Text) : JsonWord.all.find? (fun name => name.text.isPrefixOf (lexeme ++ rest)) = none := by
  obtain ⟨some',signed⟩ := lexeme_ne number
  obtain ⟨char,tail,rfl⟩ := List.exists_cons_of_ne_nil some'
  obtain ⟨here,later⟩ := List.forall_mem_cons.mp (List.all_eq_true.mp numerals)
  have letter {first : Char} {others : Text} (apart : isNumeral first = false) :
      ¬(first::others).isPrefixOf (char::tail ++ rest) = true := by
    intro starts
    obtain ⟨same,_⟩ := List.cons_prefix_cons.mp (List.isPrefixOf_iff_prefix.mp starts)
    rw [same,here] at apart
    cases apart
  rw [List.find?_eq_none]
  intro name _ starts
  cases name with
  | null | true | false | nan | infinity => exact letter (by decide) starts
  | negInfinity =>
    obtain ⟨same,more⟩ := List.cons_prefix_cons.mp (List.isPrefixOf_iff_prefix.mp starts)
    cases tail with
    | nil => exact signed (by rw [← same])
    | cons next others =>
      have second := (List.cons_prefix_cons.mp more).1
      exact absurd (later next List.mem_cons_self) (by rw [← second]; decide)

private theorem takeWhile_of_heads {accepts : Char → Bool} {text : Text} (ends : heads accepts text = false) :
    text.takeWhile accepts = [] := by
  cases text with
  | nil => rfl
  | cons char rest => exact List.takeWhile_cons_of_neg (by simpa [heads] using ends)

private theorem dropWhile_of_heads {accepts : Char → Bool} {text : Text} (ends : heads accepts text = false) :
    text.dropWhile accepts = text := by
  cases text with
  | nil => rfl
  | cons char rest => exact List.dropWhile_cons_of_neg (by simpa [heads] using ends)

private theorem readAtom_number {lexeme : Text} (numerals : lexeme.all isNumeral = true)
    (number : isNumber lexeme = true) {rest : Text} (ends : heads isNumeral rest = false) :
    readAtom (lexeme ++ rest) = some (.number lexeme,rest) := by
  have every := List.all_eq_true.mp numerals
  have taken : (lexeme ++ rest).takeWhile isNumeral = lexeme := by
    rw [List.takeWhile_append_of_pos every,takeWhile_of_heads ends,List.append_nil]
  have left : (lexeme ++ rest).dropWhile isNumeral = rest := by
    rw [List.dropWhile_append_of_pos every,dropWhile_of_heads ends]
  rw [readAtom,find_number numerals number]
  simp only [taken,left,number,if_true]

private theorem object_distinct {pairs : List (Text × Json)} (distinct : (pairs.map Prod.fst).Nodup) :
    object pairs = obj pairs := by
  rw [object]
  exact congrArg (fun dict => obj dict.entries) (Dict.update_empty ⟨pairs,distinct⟩)

/-! A written value is read back, and reading stops right after it. -/

private theorem length_quote (text : Text) : text.length + 2 ≤ (quote text).length := by
  have inner := length_escaped text
  simp only [quote,List.length_cons,List.length_append,List.length_nil]
  omega

private theorem heads_quote (text rest : Text) {fence : Char} (listed : fence ∈ fences) :
    heads (· == fence) (quote text ++ rest) = false ∧ skip (quote text ++ rest) = quote text ++ rest :=
  ⟨@heads_dumps (str text) rfl rest fence listed,@skip_dumps (str text) rfl rest⟩

theorem ends_items (items : List Json) (rest : Text) : heads isNumeral (dumpsItems items ++ rest) = false := by
  cases items <;> rfl

private theorem ends_pairs (pairs : List (Text × Json)) (rest : Text) :
    heads isNumeral (dumpsPairs pairs ++ rest) = false := by
  cases pairs <;> rfl

theorem readValue_arr {first : Json} {others : List Json} {fuel : Nat} {rest : Text} (fit : first.valid = true)
    (head : readValue fuel (dumps first ++ (dumpsItems others ++ rest)) = some (first,dumpsItems others ++ rest))
    (tail : readItems fuel (dumpsItems others ++ rest) = some (others,rest)) :
    readValue (fuel + 1) (dumps (arr (first::others)) ++ rest) = some (arr (first::others),rest) := by
  have text : dumps (arr (first::others)) ++ rest = '['::(dumps first ++ (dumpsItems others ++ rest)) := by
    simp [dumps]
  have other : ¬('[' = '"') := by decide
  have more := heads_dumps fit (dumpsItems others ++ rest) (show ']' ∈ fences by decide)
  rw [text]
  simp only [readValue,other,skip_dumps fit,more,head,tail,if_false,if_true,Option.map_some,
    Bool.false_eq_true]

theorem readItems_cons {item : Json} {others : List Json} {fuel : Nat} {rest : Text} (fit : item.valid = true)
    (head : readValue fuel (dumps item ++ (dumpsItems others ++ rest)) = some (item,dumpsItems others ++ rest))
    (tail : readItems fuel (dumpsItems others ++ rest) = some (others,rest)) :
    readItems (fuel + 1) (dumpsItems (item::others) ++ rest) = some (item::others,rest) := by
  have text : skip (dumpsItems (item::others) ++ rest) =
      ',' :: ' '::(dumps item ++ (dumpsItems others ++ rest)) := by
    simp [dumpsItems,skip]
  have blank : skip (' '::(dumps item ++ (dumpsItems others ++ rest))) =
      dumps item ++ (dumpsItems others ++ rest) := skip_dumps fit _
  have other : (',' == ']') = false := by decide
  simp only [readItems,text,heads,other,blank,head,tail,List.tail_cons,beq_self_eq_true,if_true,
    Bool.false_eq_true,if_false,Option.map_some]

private theorem readValue_obj {key : Text} {value : Json} {others : List (Text × Json)} {fuel : Nat} {rest : Text}
    (distinct : (((key,value)::others).map Prod.fst).Nodup) (enough : key.length < fuel)
    (fit : value.valid = true)
    (head : readValue fuel (dumps value ++ (dumpsPairs others ++ rest)) = some (value,dumpsPairs others ++ rest))
    (tail : readPairs fuel (dumpsPairs others ++ rest) = some (others,rest)) :
    readValue (fuel + 1) (dumps (obj ((key,value)::others)) ++ rest) =
      some (obj ((key,value)::others),rest) := by
  have text : dumps (obj ((key,value)::others)) ++ rest =
      '{'::(quote key ++ ':' :: ' '::(dumps value ++ (dumpsPairs others ++ rest))) := by
    simp [dumps]
  have other : ¬('{' = '"') ∧ ¬('{' = '[') := by decide
  obtain ⟨more,here⟩ := heads_quote key (':' :: ' '::(dumps value ++ (dumpsPairs others ++ rest)))
    (show '}' ∈ fences by decide)
  rw [text]
  simp only [readValue,other,here,more,readKey_quote key _ enough,skip_dumps fit,head,tail,if_false,if_true,
    Option.map_some,Bool.false_eq_true,object_distinct distinct]

private theorem readPairs_cons {key : Text} {value : Json} {others : List (Text × Json)} {fuel : Nat} {rest : Text}
    (enough : key.length < fuel) (fit : value.valid = true)
    (head : readValue fuel (dumps value ++ (dumpsPairs others ++ rest)) = some (value,dumpsPairs others ++ rest))
    (tail : readPairs fuel (dumpsPairs others ++ rest) = some (others,rest)) :
    readPairs (fuel + 1) (dumpsPairs ((key,value)::others) ++ rest) = some ((key,value)::others,rest) := by
  have text : skip (dumpsPairs ((key,value)::others) ++ rest) =
      ',' :: ' '::(quote key ++ ':' :: ' '::(dumps value ++ (dumpsPairs others ++ rest))) := by
    simp [dumpsPairs,skip]
  have blank : skip (' '::(quote key ++ ':' :: ' '::(dumps value ++ (dumpsPairs others ++ rest)))) =
      quote key ++ ':' :: ' '::(dumps value ++ (dumpsPairs others ++ rest)) :=
    (heads_quote key _ (show '}' ∈ fences by decide)).2
  have other : (',' == '}') = false := by decide
  simp only [readPairs,text,heads,other,blank,readKey_quote key _ enough,skip_dumps fit,head,tail,
    List.tail_cons,beq_self_eq_true,if_true,Bool.false_eq_true,if_false,Option.map_some]

mutual

private theorem readValue_dumps (value : Json) (fit : value.valid = true) {fuel : Nat}
    (enough : (dumps value).length ≤ fuel) {rest : Text} (ends : heads isNumeral rest = false) :
    readValue fuel (dumps value ++ rest) = some (value,rest) := by
  obtain ⟨less,rfl⟩ : ∃ less, fuel = less + 1 := by
    obtain ⟨char,tail,written,_⟩ := dumps_cons fit
    rw [written,List.length_cons] at enough
    exact ⟨fuel - 1,by omega⟩
  match value with
  | word name =>
    have found := readAtom_word name rest
    cases name <;> exact found
  | number lexeme =>
    obtain ⟨numerals,number⟩ := Bool.and_eq_true_iff.mp fit
    have found := readAtom_number numerals number ends
    obtain ⟨char,tail,rfl⟩ := List.exists_cons_of_ne_nil (lexeme_ne number).1
    have apart : ∀ other ∈ ['"','[','{'], isNumeral other = false :=
      List.all_iff_forall_prop.mp (by decide)
    have plain {other : Char} (listed : other ∈ ['"','[','{']) : ¬char = other := by
      intro same
      have digit := List.all_eq_true.mp numerals char List.mem_cons_self
      rw [same,apart other listed] at digit
      cases digit
    rw [dumps,List.cons_append,readValue,if_neg (plain (by decide)),if_neg (plain (by decide)),
      if_neg (plain (by decide))]
    exact found
  | str text =>
    have fits : text.length < less := by
      have inner := length_quote text
      rw [dumps] at enough
      omega
    have whole : dumps (str text) ++ rest = '"'::(text.flatMap escapeChar ++ '"'::rest) := by
      simp [dumps,quote]
    rw [whole]
    simp only [readValue,readString_escaped text rest fits,if_true,Option.map_some]
  | arr [] => rfl
  | arr (first::others) =>
    obtain ⟨here,later⟩ := Bool.and_eq_true_iff.mp fit
    simp only [dumps,List.length_cons,List.length_append] at enough
    exact readValue_arr here (readValue_dumps first here (by omega) (ends_items others rest))
      (readItems_dumps others later (by omega) rest)
  | obj [] => rfl
  | obj ((key,value)::others) =>
    obtain ⟨distinct,every⟩ := Bool.and_eq_true_iff.mp fit
    obtain ⟨here,later⟩ := Bool.and_eq_true_iff.mp every
    have inner := length_quote key
    simp only [dumps,List.length_cons,List.length_append] at enough
    exact readValue_obj (of_decide_eq_true distinct) (by omega) here
      (readValue_dumps value here (by omega) (ends_pairs others rest))
      (readPairs_dumps others later (by omega) rest)

private theorem readItems_dumps (items : List Json) (fit : validItems items = true) {fuel : Nat}
    (enough : (dumpsItems items).length ≤ fuel) (rest : Text) :
    readItems fuel (dumpsItems items ++ rest) = some (items,rest) := by
  match items with
  | [] =>
    obtain ⟨less,rfl⟩ : ∃ less, fuel = less + 1 := ⟨fuel - 1,by simp [dumpsItems] at enough; omega⟩
    rfl
  | item::others =>
    obtain ⟨here,later⟩ := Bool.and_eq_true_iff.mp fit
    simp only [dumpsItems,List.length_cons,List.length_append] at enough
    obtain ⟨less,rfl⟩ : ∃ less, fuel = less + 1 := ⟨fuel - 1,by omega⟩
    exact readItems_cons here (readValue_dumps item here (by omega) (ends_items others rest))
      (readItems_dumps others later (by omega) rest)

private theorem readPairs_dumps (pairs : List (Text × Json)) (fit : validPairs pairs = true) {fuel : Nat}
    (enough : (dumpsPairs pairs).length ≤ fuel) (rest : Text) :
    readPairs fuel (dumpsPairs pairs ++ rest) = some (pairs,rest) := by
  match pairs with
  | [] =>
    obtain ⟨less,rfl⟩ : ∃ less, fuel = less + 1 := ⟨fuel - 1,by simp [dumpsPairs] at enough; omega⟩
    rfl
  | (key,value)::others =>
    obtain ⟨here,later⟩ := Bool.and_eq_true_iff.mp fit
    have inner := length_quote key
    simp only [dumpsPairs,List.length_cons,List.length_append] at enough
    obtain ⟨less,rfl⟩ : ∃ less, fuel = less + 1 := ⟨fuel - 1,by omega⟩
    exact readPairs_cons (by omega) here (readValue_dumps value here (by omega) (ends_pairs others rest))
      (readPairs_dumps others later (by omega) rest)

end

theorem loads_dumps {value : Json} (fit : value.valid = true) : loads (dumps value) = some value := by
  have start := skip_dumps fit []
  have read := @readValue_dumps value fit _ (Nat.le_refl _) [] rfl
  rw [List.append_nil] at start read
  rw [loads,start,read]
  rfl

/-! Where the written text would end a line: only inside its strings. -/

/-- The line boundaries of `str.splitlines` that are written as they are. -/
def isSeparator (char : Char) : Bool := char.toNat == 0x85 || inRange 0x2028 0x2029 char

mutual

def texts : Json → List Text
  | word _ => []
  | number _ => []
  | str text => [text]
  | arr items => textsItems items
  | obj pairs => textsPairs pairs

def textsItems : List Json → List Text
  | [] => []
  | item::others => texts item ++ textsItems others

def textsPairs : List (Text × Json) → List Text
  | [] => []
  | (key,value)::others => key::(texts value ++ textsPairs others)

end

def separated (texts : List Text) : Bool := texts.any (fun text => text.any isSeparator)

theorem isLineBreak_hexDigit {value : Nat} (small : value < 16) : isLineBreak (hexDigit value) = false := by
  revert value
  decide

private theorem breaks_escapeChar (char : Char) : (escapeChar char).any isLineBreak = isSeparator char := by
  have escaped := escapeChar_escaped char
  generalize escapeChar char = written at escaped ⊢
  cases escaped with
  | marked mark own known =>
    have table : ∀ pair ∈ escapes, isLineBreak pair.1 = false ∧ isSeparator pair.2 = false :=
      List.all_iff_forall_prop.mp (by decide)
    obtain ⟨before,after,split,_⟩ := List.lookup_eq_some_iff.mp known
    obtain ⟨unbroken,inside⟩ := table (mark,char) (by simp [split])
    rw [inside,List.any_cons,List.any_cons,unbroken]
    rfl
  | control low =>
    have solid (digit : Nat) (small : digit < 16) := isLineBreak_hexDigit small
    have inside : isSeparator char = false := by
      simp only [isSeparator,inRange,Bool.or_eq_false_iff,Bool.and_eq_false_iff,decide_eq_false_iff_not,
        beq_eq_false_iff_ne]
      omega
    rw [inside]
    simp only [List.any_cons,List.any_nil,solid (char.toNat / 16) (by omega),
      solid (char.toNat % 16) (by omega)]
    rfl
  | plain quoted slash high =>
    rw [List.any_cons,List.any_nil,Bool.or_false,Bool.eq_iff_iff]
    simp only [isLineBreak,isSeparator,inRange,Bool.or_eq_true,Bool.and_eq_true,decide_eq_true_eq,
      beq_iff_eq]
    omega

private theorem breaks_quote (text : Text) : (quote text).any isLineBreak = text.any isSeparator := by
  have inner : (text.flatMap escapeChar).any isLineBreak = text.any isSeparator := by
    rw [List.any_flatMap]
    exact congrArg text.any (funext breaks_escapeChar)
  simp only [quote,List.any_cons,List.any_append,inner]
  simp [isLineBreak,inRange]

theorem separated_append (first second : List Text) :
    separated (first ++ second) = (separated first || separated second) := List.any_append

theorem separated_cons (text : Text) (others : List Text) :
    separated (text::others) = (text.any isSeparator || separated others) := rfl

private theorem breaks_number {lexeme : Text} (numerals : lexeme.all isNumeral = true) :
    lexeme.any isLineBreak = false := by
  have apart {char : Char} (numeral : isNumeral char = true) : isLineBreak char = false := by
    rcases Bool.or_eq_true_iff.mp numeral with digit | mark
    · simp only [inRange,Bool.and_eq_true,decide_eq_true_eq] at digit
      simp only [isLineBreak,inRange,Bool.or_eq_false_iff,Bool.and_eq_false_iff,decide_eq_false_iff_not,
        beq_eq_false_iff_ne]
      omega
    · have marks : ∀ mark ∈ ['+','-','.','e','E'], isLineBreak mark = false :=
        List.all_iff_forall_prop.mp (by decide)
      exact marks char (List.contains_iff_mem.mp mark)
  rw [List.any_eq_false]
  exact fun char inside => by simp [apart (List.all_eq_true.mp numerals char inside)]

mutual

theorem breaks_dumps (value : Json) (fit : value.valid = true) :
    (dumps value).any isLineBreak = separated (texts value) := by
  match value with
  | word name => cases name <;> rfl
  | number lexeme => exact breaks_number (Bool.and_eq_true_iff.mp fit).1
  | str text =>
    rw [dumps,breaks_quote,texts,separated_cons]
    exact (Bool.or_false _).symm
  | arr [] => rfl
  | arr (first::others) =>
    obtain ⟨here,later⟩ := Bool.and_eq_true_iff.mp fit
    have plain : isLineBreak '[' = false := by decide
    simp only [dumps,texts,textsItems,List.any_cons,List.any_append,separated_append,plain,Bool.false_or,
      breaks_dumps first here,breaks_items others later]
  | obj [] => rfl
  | obj ((key,value)::others) =>
    obtain ⟨_,every⟩ := Bool.and_eq_true_iff.mp fit
    obtain ⟨here,later⟩ := Bool.and_eq_true_iff.mp every
    have plain : isLineBreak '{' = false ∧ isLineBreak ':' = false ∧ isLineBreak ' ' = false := by decide
    simp only [dumps,texts,textsPairs,List.any_cons,List.any_append,separated_append,separated_cons,plain,
      Bool.false_or,breaks_quote,breaks_dumps value here,breaks_pairs others later]

private theorem breaks_items (items : List Json) (fit : validItems items = true) :
    (dumpsItems items).any isLineBreak = separated (textsItems items) := by
  match items with
  | [] => rfl
  | item::others =>
    obtain ⟨here,later⟩ := Bool.and_eq_true_iff.mp fit
    have plain : isLineBreak ',' = false ∧ isLineBreak ' ' = false := by decide
    simp only [dumpsItems,textsItems,List.any_cons,List.any_append,separated_append,plain,Bool.false_or,
      breaks_dumps item here,breaks_items others later]

private theorem breaks_pairs (pairs : List (Text × Json)) (fit : validPairs pairs = true) :
    (dumpsPairs pairs).any isLineBreak = separated (textsPairs pairs) := by
  match pairs with
  | [] => rfl
  | (key,value)::others =>
    obtain ⟨here,later⟩ := Bool.and_eq_true_iff.mp fit
    have plain : isLineBreak ',' = false ∧ isLineBreak ':' = false ∧ isLineBreak ' ' = false := by decide
    simp only [dumpsPairs,textsPairs,List.any_cons,List.any_append,separated_append,separated_cons,plain,
      Bool.false_or,breaks_quote,breaks_dumps value here,breaks_pairs others later]

end

/-! What is written has no line feed in it. -/

private theorem newline_escapeChar (char : Char) : '\n' ∉ escapeChar char := by
  have escaped := escapeChar_escaped char
  generalize escapeChar char = written at escaped ⊢
  cases escaped with
  | marked mark own known =>
    have table : ∀ pair ∈ escapes, '\n' ≠ pair.1 := List.all_iff_forall_prop.mp (by decide)
    obtain ⟨before,after,split,_⟩ := List.lookup_eq_some_iff.mp known
    have other := table (mark,char) (by simp [split])
    simp [other]
  | control low =>
    have solid : ∀ digit < 16, '\n' ≠ hexDigit digit := by decide
    have high := solid (char.toNat / 16) (by omega)
    have last := solid (char.toNat % 16) (by omega)
    simp [high,last]
  | plain quoted slash high =>
    intro inside
    obtain rfl := List.mem_singleton.mp inside
    exact high (by decide)

private theorem newline_quote (text : Text) : '\n' ∉ quote text := by
  have inner : '\n' ∉ text.flatMap escapeChar := by
    intro inside
    obtain ⟨char,_,found⟩ := List.mem_flatMap.mp inside
    exact newline_escapeChar char found
  simp [quote,inner]

private theorem newline_number {lexeme : Text} (numerals : lexeme.all isNumeral = true) : '\n' ∉ lexeme := by
  intro inside
  exact absurd (List.all_eq_true.mp numerals _ inside) (by decide)

mutual

theorem newline_dumps (value : Json) (fit : value.valid = true) : '\n' ∉ dumps value := by
  match value with
  | word name => cases name <;> decide
  | number lexeme => exact newline_number (Bool.and_eq_true_iff.mp fit).1
  | str text => exact newline_quote text
  | arr [] => decide
  | arr (first::others) =>
    obtain ⟨here,later⟩ := Bool.and_eq_true_iff.mp fit
    simp [dumps,newline_dumps first here,newline_items others later]
  | obj [] => decide
  | obj ((key,value)::others) =>
    obtain ⟨_,every⟩ := Bool.and_eq_true_iff.mp fit
    obtain ⟨here,later⟩ := Bool.and_eq_true_iff.mp every
    simp [dumps,newline_quote key,newline_dumps value here,newline_pairs others later]

private theorem newline_items (items : List Json) (fit : validItems items = true) : '\n' ∉ dumpsItems items := by
  match items with
  | [] => decide
  | item::others =>
    obtain ⟨here,later⟩ := Bool.and_eq_true_iff.mp fit
    simp [dumpsItems,newline_dumps item here,newline_items others later]

private theorem newline_pairs (pairs : List (Text × Json)) (fit : validPairs pairs = true) :
    '\n' ∉ dumpsPairs pairs := by
  match pairs with
  | [] => decide
  | (key,value)::others =>
    obtain ⟨here,later⟩ := Bool.and_eq_true_iff.mp fit
    simp [dumpsPairs,newline_quote key,newline_dumps value here,newline_pairs others later]

end

end Json
end CustomerService
