import Mathlib.Algebra.GroupWithZero.Basic
import Mathlib.Algebra.Ring.Int.Defs
import Mathlib.Data.List.Basic
import Mathlib.Data.String.Basic

/-! The values a deserialiser hands back: the atoms Python can hash, with the
equality its dictionaries use on them, dictionaries built by assignment, and the
conversions that accept any object. -/
namespace CustomerService.Py

abbrev Bytes := List UInt8

structure Double where
  bits : UInt64
deriving DecidableEq

inductive Number
  /-- A finite number, in units of `2 ^ -1074`. -/
  | finite (units : Int)
  | infinite (negative : Bool)
deriving DecidableEq

def Double.number? (double : Double) : Option Number :=
  let raw : Nat := double.bits.toNat
  let fraction := raw % 2 ^ 52
  let exponent := raw / 2 ^ 52 % 2048
  let negative := raw / 2 ^ 63 == 1
  if exponent = 2047 then if fraction = 0 then some (.infinite negative) else none
  else
    let size : Nat := if exponent = 0 then fraction else (2 ^ 52 + fraction) * 2 ^ (exponent - 1)
    some (.finite (if negative then -size else size))

inductive Atom
  | none
  | bool (value : Bool)
  | int (value : Int)
  | float (value : Double)
  | str (text : String)
  | bytes (data : Bytes)
deriving DecidableEq

namespace Atom

def number? : Atom → Option Number
  | .bool value => some (.finite (if value then 2 ^ 1074 else 0))
  | .int value => some (.finite (value * 2 ^ 1074))
  | .float value => value.number?
  | _ => .none

def isFloat : Atom → Bool
  | .float _ => true
  | _ => false

/-- `==`: numbers by value, whatever their types; a NaN equals nothing. -/
def same (first second : Atom) : Bool :=
  match first.number?,second.number? with
  | some x,some y => x == y
  | .none,.none => !first.isFloat && first == second
  | _,_ => false

@[simp] theorem same_str (first second : String) :
    same (.str first) (.str second) = (first == second) := by
  simp [same,number?,isFloat]

private theorem eq_of_same_str {text : String} {value : Atom} (equal : same (.str text) value = true) :
    value = .str text := by
  have blank : (Atom.str text).number? = Option.none := rfl
  rw [same,blank] at equal
  cases number : value.number? with
  | some _ =>
    rw [number] at equal
    cases equal
  | none =>
    rw [number] at equal
    exact (eq_of_beq (Bool.and_eq_true_iff.mp equal).2).symm

@[simp] theorem same_int (first second : Int) :
    same (.int first) (.int second) = (first == second) := by
  have scale : (2 : Int) ^ 1074 ≠ 0 := pow_ne_zero _ (by decide)
  have scaled : first * 2 ^ 1074 = second * 2 ^ 1074 ↔ first = second :=
    ⟨Int.eq_of_mul_eq_mul_right scale,fun equal => by rw [equal]⟩
  show (Number.finite (first * 2 ^ 1074) == Number.finite (second * 2 ^ 1074)) = (first == second)
  rw [Bool.eq_iff_iff,beq_iff_eq,beq_iff_eq,Number.finite.injEq,scaled]

example : same (.int 1) (.float ⟨0x3FF0000000000000⟩) = true := by decide +kernel

end Atom

def sameTuple : List Atom → List Atom → Bool
  | [],[] => true
  | x :: xs,y :: ys => x.same y && sameTuple xs ys
  | _,_ => false

/-! ### Dictionaries by assignment -/

variable {Key Value : Type*}

/-- `entries[key] = value`: an equal key stays, with the new value. -/
def assign (same : Key → Key → Bool) (key : Key) (value : Value) :
    List (Key × Value) → List (Key × Value)
  | [] => [(key,value)]
  | (first,old) :: rest =>
    if same first key then (first,value) :: rest else (first,old) :: assign same key value rest

def dictOf (same : Key → Key → Bool) (items : List (Key × Value)) : List (Key × Value) :=
  items.foldl (fun entries item => assign same item.1 item.2 entries) []

private theorem assign_new (same : Key → Key → Bool) (key : Key) (value : Value)
    (entries : List (Key × Value)) (fresh : ∀ entry ∈ entries, same entry.1 key = false) :
    assign same key value entries = entries ++ [(key,value)] := by
  induction entries with
  | nil => rfl
  | cons entry rest ih =>
    have differs := fresh entry List.mem_cons_self
    have later := ih (fun other member => fresh other (List.mem_cons_of_mem _ member))
    simp [assign,differs,later]

theorem dictOf_distinct (same : Key → Key → Bool) (items : List (Key × Value))
    (distinct : items.Pairwise (fun first second => same first.1 second.1 = false)) :
    dictOf same items = items := by
  suffices ∀ before after : List (Key × Value),
      (before ++ after).Pairwise (fun first second => same first.1 second.1 = false) →
      after.foldl (fun entries item => assign same item.1 item.2 entries) before = before ++ after from
    this [] items distinct
  intro before after pairwise
  induction after generalizing before with
  | nil => simp
  | cons item rest ih =>
    have fresh : ∀ entry ∈ before, same entry.1 item.1 = false := fun entry member =>
      (List.pairwise_append.mp pairwise).2.2 entry member item List.mem_cons_self
    rw [List.foldl_cons,assign_new same item.1 item.2 before fresh,
      ih (before ++ [item]) (by simpa using pairwise)]
    simp

/-- `entries[key]` changed in its place, or entered at the end. -/
def alter (same : Key → Key → Bool) (key : Key) (change : Option Value → Value) :
    List (Key × Value) → List (Key × Value)
  | [] => [(key,change none)]
  | (first,old) :: rest =>
    if same first key then (first,change (some old)) :: rest
    else (first,old) :: alter same key change rest

private theorem alter_append (same : Key → Key → Bool) (key : Key) (change : Option Value → Value)
    (front back : List (Key × Value)) (fresh : ∀ entry ∈ front, same entry.1 key = false) :
    alter same key change (front ++ back) = front ++ alter same key change back := by
  induction front with
  | nil => rfl
  | cons entry rest ih =>
    rw [List.cons_append,alter,fresh entry List.mem_cons_self,
      ih (fun other member => fresh other (List.mem_cons_of_mem _ member))]
    rfl

private theorem alter_keys (same : Key → Key → Bool) (key : Key) (change : Option Value → Value)
    (entries : List (Key × Value)) :
    entries.map Prod.fst ⊆ (alter same key change entries).map Prod.fst ∧
      ∃ held ∈ (alter same key change entries).map Prod.fst, held = key ∨ same held key = true := by
  induction entries with
  | nil => exact ⟨List.nil_subset _,key,List.mem_singleton_self key,.inl rfl⟩
  | cons entry rest ih =>
    rw [alter]
    split
    · rename_i equal
      exact ⟨List.Subset.refl _,entry.1,List.mem_cons_self,.inr equal⟩
    · obtain ⟨held,listed,equal⟩ := ih.2
      exact ⟨List.cons_subset_cons _ ih.1,held,List.mem_cons_of_mem _ listed,equal⟩

section
variable {Item : Type*} (same : Key → Key → Bool) (key : Item → Key)
  (change : Item → Option Value → Value)

def alterAll (entries : List (Key × Value)) (items : List Item) : List (Key × Value) :=
  items.foldl (fun entries item => alter same (key item) (change item) entries) entries

theorem alterAll_append (front back : List (Key × Value)) (items : List Item)
    (fresh : ∀ item ∈ items, ∀ entry ∈ front, same entry.1 (key item) = false) :
    alterAll same key change (front ++ back) items = front ++ alterAll same key change back items := by
  induction items generalizing back with
  | nil => rfl
  | cons item rest ih =>
    have here := alter_append same (key item) (change item) front back (fresh item List.mem_cons_self)
    have later := ih (alter same (key item) (change item) back)
      (fun other member => fresh other (List.mem_cons_of_mem _ member))
    rw [← here] at later
    exact later

theorem alterAll_keys (entries : List (Key × Value)) (items : List Item) :
    entries.map Prod.fst ⊆ (alterAll same key change entries items).map Prod.fst ∧
      ∀ item ∈ items, ∃ held ∈ (alterAll same key change entries items).map Prod.fst,
        held = key item ∨ same held (key item) = true := by
  induction items generalizing entries with
  | nil => exact ⟨List.Subset.refl _,fun _ listed => by cases listed⟩
  | cons item rest ih =>
    obtain ⟨kept,held,listed,equal⟩ := alter_keys same (key item) (change item) entries
    obtain ⟨later,others⟩ := ih (alter same (key item) (change item) entries)
    refine ⟨List.Subset.trans kept later,fun other member => ?_⟩
    obtain rfl | member := List.mem_cons.mp member
    · exact ⟨held,later listed,equal⟩
    · exact others other member

end

/-! ### Objects of no known type -/

/-- What `unpackb` returns: lists where tuples were packed, string keys in maps. -/
inductive Msg
  | atom (value : Atom)
  | list (items : List Msg)
  | map (entries : List (String × Msg))

namespace Msg

abbrev str (text : String) : Msg := .atom (.str text)
abbrev int (value : Int) : Msg := .atom (.int value)

/-- Iteration and unpacking; numbers and `None` are not iterable. -/
def items? : Msg → Option (List Msg)
  | .list items => some items
  | .map entries => some (entries.map (fun entry => .str entry.1))
  | .atom (.str text) => some (text.toList.map (fun char => .str char.toString))
  | .atom (.bytes data) => some (data.map (fun byte => .int byte.toNat))
  | .atom _ => none

/-- `.items()`, which only a dictionary has. -/
def entries? : Msg → Option (List (String × Msg))
  | .map entries => some entries
  | _ => none

/-- A key of a dictionary or an item of such a tuple: lists and dictionaries are
not hashable. -/
def hashable? : Msg → Option Atom
  | .atom value => some value
  | _ => none

def truthy : Msg → Bool
  | .atom .none => false
  | .atom (.bool value) => value
  | .atom (.int value) => value != 0
  | .atom (.float value) => value.number? != some (.finite 0)
  | .atom (.str text) => text != ""
  | .atom (.bytes data) => !data.isEmpty
  | .list items => !items.isEmpty
  | .map entries => !entries.isEmpty

/-- `str(value)`; `render` stands for it on what is no string. -/
def toStr (render : Msg → String) : Msg → String
  | .atom (.str text) => text
  | value => render value

def byte? : Msg → Option UInt8
  | .atom (.int value) => if 0 ≤ value ∧ value < 256 then some (UInt8.ofNat value.toNat) else none
  | .atom (.bool value) => some (if value then 1 else 0)
  | _ => none

/-- `bytes(data)` after a string has been encoded. -/
def toBytes? : Msg → Option Bytes
  | .atom (.bytes data) => some data
  | .atom (.str text) => some text.toUTF8.toList
  | .atom (.int value) => if 0 ≤ value then some (List.replicate value.toNat 0) else none
  | .atom (.bool value) => some (List.replicate value.toNat 0)
  | .list items => items.mapM byte?
  | .map entries => if entries.isEmpty then some [] else none
  | _ => none

end Msg

/-! ### Objects of any class -/

/-- What `pickle.loads` returns. An object of another class is given by what it answers: its
identity where it is hashable, `bool`, `.items()`, what `dict.update` takes from it, iteration and
`[0]`. -/
inductive Obj
  | atom (value : Atom)
  | tuple (items : List Obj)
  | list (items : List Obj)
  | dict (entries : List (Obj × Obj))
  | object (hash : Option Nat) (truth : Option Bool) (items pairs : Option (List (Obj × Obj)))
      (elements : Option (List Obj)) (first : Option Obj)

namespace Obj

abbrev str (text : String) : Obj := .atom (.str text)

mutual

/-- `==` of keys. -/
def same : Obj → Obj → Bool
  | .atom first,.atom second => first.same second
  | .tuple first,.tuple second => sameAll first second
  | .object (some first) _ _ _ _ _,.object (some second) _ _ _ _ _ => first == second
  | _,_ => false

def sameAll : List Obj → List Obj → Bool
  | [],[] => true
  | first :: rest,second :: others => first.same second && sameAll rest others
  | _,_ => false

end

mutual

def hashable : Obj → Bool
  | .atom _ => true
  | .tuple items => allHashable items
  | .list _ => false
  | .dict _ => false
  | .object hash _ _ _ _ _ => hash.isSome

def allHashable : List Obj → Bool
  | [] => true
  | item :: rest => item.hashable && allHashable rest

end

def truthy : Obj → Option Bool
  | .atom value => some (Msg.atom value).truthy
  | .tuple items => some (!items.isEmpty)
  | .list items => some (!items.isEmpty)
  | .dict entries => some (!entries.isEmpty)
  | .object _ truth _ _ _ _ => truth

/-- `.items()`. -/
def entries? : Obj → Option (List (Obj × Obj))
  | .dict entries => some entries
  | .object _ _ items _ _ _ => items
  | _ => none

def elements? : Obj → Option (List Obj)
  | .atom (.str text) => some (text.toList.map (fun char => .str char.toString))
  | .atom (.bytes data) => some (data.map (fun byte => .atom (.int byte.toNat)))
  | .atom _ => none
  | .tuple items => some items
  | .list items => some items
  | .dict entries => some (entries.map Prod.fst)
  | .object _ _ _ _ elements _ => elements

def pair? (object : Obj) : Option (Obj × Obj) :=
  match object.elements? with
  | some [key,value] => some (key,value)
  | _ => none

/-- What `dict.update` takes from its argument: the entries of a dictionary, the items of anything
else as pairs. -/
def pairs? : Obj → Option (List (Obj × Obj))
  | .dict entries => some entries
  | .object _ _ _ pairs _ _ => pairs
  | other => other.elements?.bind (List.mapM pair?)

/-- `object[0]`. -/
def first? : Obj → Option Obj
  | .dict entries => (entries.find? (fun entry => entry.1.same (.atom (.int 0)))).map Prod.snd
  | .object _ _ _ _ _ first => first
  | other => other.elements?.bind List.head?

theorem same_started {text : String} {rest : List Obj} {other : Obj}
    (equal : (Obj.tuple (.str text :: rest)).same other = true) : other.first? = some (.str text) := by
  cases other with
  | tuple items =>
    cases items with
    | nil => simp [same,sameAll] at equal
    | cons first items =>
      have head : (Obj.str text).same first = true := by
        rw [same,sameAll,Bool.and_eq_true] at equal
        exact equal.1
      cases first with
      | atom value =>
        rw [Atom.eq_of_same_str head]
        rfl
      | _ => simp [same] at head
  | _ => simp [same] at equal

end Obj

theorem mapM_map_some {Item Source Result : Type*} (read : Source → Option Result)
    (write : Item → Source) (value : Item → Result) (items : List Item)
    (reads : ∀ item ∈ items, read (write item) = some (value item)) :
    (items.map write).mapM read = some (items.map value) := by
  induction items with
  | nil => rfl
  | cons item rest ih =>
    have later := ih (fun other member => reads other (List.mem_cons_of_mem _ member))
    simp [reads item List.mem_cons_self,later]

end CustomerService.Py
