import Mathlib.Data.List.Basic

/-! A stream of blocks, each ended by a doubled mark, and its reader: it is handed the stream in pieces,
keeps what has not ended and gives the blocks that have. -/
namespace CustomerService.Blocks

variable {Letter : Type*} [DecidableEq Letter]

def prepend (letter : Letter) (found : List (List Letter) × List Letter) : List (List Letter) × List Letter :=
  match found.1 with
  | [] => ([],letter::found.2)
  | block::others => ((letter::block)::others,found.2)

/-- The blocks that have ended, and what is left. The leftmost pair of marks ends a block. -/
def split (mark : Letter) : List Letter → List (List Letter) × List Letter
  | [] => ([],[])
  | [last] => ([],[last])
  | first::second::rest =>
    if first = mark ∧ second = mark then ([]::(split mark rest).1,(split mark rest).2)
    else prepend first (split mark (second::rest))

def feed (mark : Letter) : List Letter → List (List Letter) → List (List Letter) × List Letter
  | buffer,[] => ([],buffer)
  | buffer,piece::pieces =>
    let here := split mark (buffer ++ piece)
    let later := feed mark here.2 pieces
    (here.1 ++ later.1,later.2)

variable {mark : Letter}

private theorem split_cons {first second : Letter} (rest : List Letter) (apart : ¬(first = mark ∧ second = mark)) :
    split mark (first::second::rest) = prepend first (split mark (second::rest)) := by
  rw [split,if_neg apart]

private theorem split_pair (rest : List Letter) :
    split mark (mark::mark::rest) = ([]::(split mark rest).1,(split mark rest).2) := by
  rw [split,if_pos ⟨rfl,rfl⟩]

theorem left_of_none (text : List Letter) (none' : (split mark text).1 = []) : (split mark text).2 = text := by
  induction text using split.induct mark with
  | case1 => rfl
  | case2 => rfl
  | case3 first second rest pair ih =>
    rw [split,if_pos pair] at none'
    exact absurd none' (List.cons_ne_nil _ _)
  | case4 first second rest apart ih =>
    rw [split_cons rest apart] at none' ⊢
    cases inner : (split mark (second::rest)).1 with
    | nil =>
      rw [prepend,inner]
      exact congrArg (first::·) (ih inner)
    | cons block others =>
      rw [prepend,inner] at none'
      exact absurd none' (List.cons_ne_nil _ _)

private theorem split_append (text more : List Letter) : split mark (text ++ more) =
    ((split mark text).1 ++ (split mark ((split mark text).2 ++ more)).1,
      (split mark ((split mark text).2 ++ more)).2) := by
  induction text using split.induct mark with
  | case1 => rfl
  | case2 => rfl
  | case3 first second rest pair ih =>
    obtain ⟨rfl,rfl⟩ := pair
    rw [List.cons_append,List.cons_append,split_pair,split_pair,ih]
    rfl
  | case4 first second rest apart ih =>
    rw [List.cons_append,List.cons_append,split_cons _ apart,split_cons _ apart]
    rw [List.cons_append] at ih
    cases inner : (split mark (second::rest)).1 with
    | nil =>
      have all := left_of_none _ inner
      simp only [prepend,inner,List.nil_append,all,List.cons_append]
      rw [split_cons _ apart]
      rfl
    | cons block others =>
      rw [ih,inner]
      simp only [prepend,inner,List.cons_append]

private theorem split_left (text : List Letter) : split mark (split mark text).2 = ([],(split mark text).2) := by
  have again := @split_append _ _ mark text []
  rw [List.append_nil,List.append_nil] at again
  have none' : (split mark (split mark text).2).1 = [] := by
    have lengths := congrArg (fun found => found.1.length) again
    simp only [List.length_append] at lengths
    exact List.length_eq_zero_iff.mp (by omega)
  exact Prod.ext none' (left_of_none _ none')

theorem feed_eq {buffer : List Letter} (open' : split mark buffer = ([],buffer)) (pieces : List (List Letter)) :
    feed mark buffer pieces = split mark (buffer ++ pieces.flatten) := by
  induction pieces generalizing buffer with
  | nil => rw [feed,List.flatten_nil,List.append_nil,open']
  | cons piece pieces ih =>
    rw [feed,List.flatten_cons,← List.append_assoc,split_append (buffer ++ piece),ih (split_left _)]

/-- A block as it is written: no pair of marks is in it, and none arises with the pair after it. -/
def IsBlock (mark : Letter) (block : List Letter) : Prop :=
  split mark (block ++ [mark,mark]) = ([block],[])

def written (mark : Letter) (blocks : List (List Letter)) : List Letter :=
  blocks.flatMap (fun block => block ++ [mark,mark])

private theorem split_written {blocks : List (List Letter)} (fit : ∀ block ∈ blocks, IsBlock mark block) :
    split mark (written mark blocks) = (blocks,[]) := by
  induction blocks with
  | nil => rfl
  | cons block others ih =>
    obtain ⟨here,later⟩ := List.forall_mem_cons.mp fit
    rw [written,List.flatMap_cons,split_append,here]
    exact congrArg (fun found => (block::found.1,found.2)) (ih later)

private theorem written_split (text : List Letter) :
    written mark (split mark text).1 ++ (split mark text).2 = text := by
  induction text using split.induct mark with
  | case1 => rfl
  | case2 => rfl
  | case3 first second rest pair ih =>
    rw [pair.1,pair.2,split_pair]
    exact congrArg (fun rest => mark::mark::rest) ih
  | case4 first second rest apart ih =>
    rw [split_cons rest apart]
    cases inner : (split mark (second::rest)).1 with
    | nil =>
      rw [prepend,inner]
      exact congrArg (first::·) (left_of_none _ inner)
    | cons block others =>
      rw [inner] at ih
      rw [prepend,inner]
      exact congrArg (first::·) ih

theorem prefix_feed_iff {begun : List (List Letter)} (fit : ∀ block ∈ begun, IsBlock mark block)
    {pieces : List (List Letter)} :
    begun <+: (feed mark [] pieces).1 ↔ written mark begun <+: pieces.flatten := by
  rw [feed_eq rfl,List.nil_append]
  constructor
  · rintro ⟨others,read⟩
    have whole := @written_split _ _ mark pieces.flatten
    rw [← read,written,List.flatMap_append,List.append_assoc] at whole
    exact ⟨_,whole⟩
  · rintro ⟨missing,came⟩
    rw [← came,split_append,split_written fit]
    exact List.prefix_append _ _

/-- However a stream of blocks is cut into pieces, and wherever it breaks off, the reader gives the
blocks that have come in whole, in their order. -/
theorem feed_written {blocks : List (List Letter)} (fit : ∀ block ∈ blocks, IsBlock mark block)
    {pieces : List (List Letter)} (served : pieces.flatten <+: written mark blocks) :
    (feed mark [] pieces).1 <+: blocks ∧
      (pieces.flatten = written mark blocks → (feed mark [] pieces).1 = blocks) := by
  have whole := split_written fit
  rw [feed_eq rfl,List.nil_append]
  constructor
  · obtain ⟨missing,same⟩ := served
    rw [← same,split_append] at whole
    exact ⟨_,congrArg Prod.fst whole⟩
  · intro all
    rw [all,whole]

private theorem isBlock_of_apart {block : List Letter} (apart : ¬[mark,mark] <:+: block)
    (ends : block.getLast? ≠ some mark) : IsBlock mark block := by
  induction block with
  | nil => exact split_pair []
  | cons first rest ih =>
    cases rest with
    | nil =>
      have other : ¬(first = mark ∧ mark = mark) := fun both => ends (by rw [both.1]; rfl)
      rw [IsBlock,List.cons_append,List.nil_append,split_cons _ other,split_pair]
      rfl
    | cons second rest =>
      have other : ¬(first = mark ∧ second = mark) := by
        rintro ⟨rfl,rfl⟩
        exact apart ⟨[],rest,rfl⟩
      have inner : IsBlock mark (second::rest) := by
        apply ih
        · intro inside
          exact apart (inside.trans (List.suffix_cons _ _).isInfix)
        · simpa using ends
      rw [IsBlock,List.cons_append,List.cons_append,split_cons _ other]
      rw [IsBlock,List.cons_append] at inner
      rw [inner]
      rfl

theorem isBlock_of_count {block : List Letter} (single : block.count mark ≤ 1)
    (ends : block.getLast? ≠ some mark) : IsBlock mark block := by
  apply isBlock_of_apart _ ends
  intro inside
  have two := inside.sublist.count_le mark
  rw [List.count_cons_self,List.count_cons_self,List.count_nil] at two
  omega

end CustomerService.Blocks
