import CustomerService.OutputFilter
import Mathlib.Algebra.GroupWithZero.Nat
import Mathlib.Data.List.Forall2

/-! The masking hooks of the agents: on copies of the messages before the model is called, and
through the reducer of the message list after it. -/
namespace CustomerService.AgentMiddleware
open Text OutputFilter

variable {Call : Type}

inductive Kind
  | human
  | ai
  | tool
  | system
deriving DecidableEq

structure Message (Call : Type) where
  kind : Kind
  id : Option Text
  content : Content
  toolCalls : List Call

def blockTexts : Block → List Text
  | .text text => [text]
  | .typed _ text => text.toList
  | .other => []

def Message.texts (message : Message Call) : List Text :=
  match message.content with
  | .text text => [text]
  | .blocks blocks => blocks.flatMap blockTexts
  | .other => []

def Message.Clean (message : Message Call) : Prop :=
  ∀ text ∈ message.texts, ∀ item ∈ piiPatterns, item.2.search text = none

def newMessage (content : Text) : Message Call := ⟨.ai,none,.text content,[]⟩

/-- `after_model`: the messages of its update, if it has one. -/
def afterModel (messages : List (Message Call)) : Option (List (Message Call)) :=
  match messages.getLast? with
  | none => none
  | some last =>
    match last.content with
    | .text content =>
      let masked := inspectOutput content
      if masked = content then none else some [newMessage masked]
    | .blocks _ => none
    | .other => none

/-- The message with `content` masked, by `model_copy`. -/
def sanitize (message : Message Call) : Message Call :=
  match message.content with
  | .text content =>
    let masked := (maskPii content).2
    if masked ≠ content then { message with content := .text masked } else message
  | .blocks _ => message
  | .other => message

/-- What `wrap_model_call` and `awrap_model_call` hand to the model. -/
def wrapModelCall (messages : List (Message Call)) : List (Message Call) := messages.map sanitize

def Message.name (id : Text) (message : Message Call) : Message Call :=
  { message with id := message.id.or (some id) }

def Named (bare named : Message Call) : Prop := ∃ id, named = bare.name id

/-- What the agents assume of `add_messages`: a message without an id goes to the end, one with the
id of another takes its place. -/
structure AddMessages (addMessages : List (Message Call) → List (Message Call) → List (Message Call)) :
    Prop where
  appends : ∀ messages message, message.id = none → ∃ kept named,
    List.Forall₂ Named messages kept ∧ Named message named ∧
      addMessages messages [message] = kept ++ [named]
  replaces : ∀ before old after message, old.id ≠ none → message.id = old.id →
    (∀ other ∈ before ++ after, other.id ≠ old.id) → ∃ front back,
      List.Forall₂ Named before front ∧ List.Forall₂ Named after back ∧
        addMessages (before ++ old :: after) [message] = front ++ message :: back

def applyUpdate (addMessages : List (Message Call) → List (Message Call) → List (Message Call))
    (messages : List (Message Call)) : Option (List (Message Call)) → List (Message Call)
  | none => messages
  | some update => addMessages messages update

inductive Next (Call : Type)
  | tools (calls : List Call)
  | done

/-- The agent goes on with the tools that its last message calls. -/
def nextStep (messages : List (Message Call)) : Next Call :=
  match messages.getLast?.map Message.toolCalls with
  | none => .done
  | some [] => .done
  | some calls => .tools calls

/-- The last message is masked where it stands and the agent goes on as without masking. -/
structure MaskedInPlace (earlier : List (Message Call)) (last : Message Call)
    (result : List (Message Call)) : Prop where
  clean : ∀ message ∈ result.drop earlier.length, message.Clean
  size : result.length = earlier.length + 1
  calls : result.getLast?.map Message.toolCalls = some last.toolCalls
  next : nextStep result = nextStep (earlier ++ [last])

theorem wrapModelCall_in_place (messages : List (Message Call)) :
    (wrapModelCall messages).length = messages.length ∧
      (wrapModelCall messages).map Message.id = messages.map Message.id ∧
      nextStep (wrapModelCall messages) = nextStep messages := by
  have same (message : Message Call) :
      (sanitize message).id = message.id ∧ (sanitize message).toolCalls = message.toolCalls := by
    unfold sanitize
    split
    · dsimp only
      split <;> exact ⟨rfl,rfl⟩
    · exact ⟨rfl,rfl⟩
    · exact ⟨rfl,rfl⟩
  refine ⟨List.length_map _,?_,?_⟩
  · unfold wrapModelCall
    rw [List.map_map]
    exact List.map_congr_left (fun message _ => (same message).1)
  · unfold nextStep wrapModelCall
    rw [List.getLast?_map,Option.map_map]
    have read : (Message.toolCalls ∘ sanitize : Message Call → List Call) = Message.toolCalls :=
      funext (fun message => (same message).2)
    rw [read]

private theorem afterModel_concat (earlier : List (Message Call)) (last : Message Call) :
    afterModel (earlier ++ [last]) = none ∨
      ∃ content, last.content = .text content ∧ inspectOutput content ≠ content ∧
        afterModel (earlier ++ [last]) = some [newMessage (inspectOutput content)] := by
  unfold afterModel
  rw [List.getLast?_concat]
  dsimp only
  split
  · rename_i content same
    by_cases kept : inspectOutput content = content
    · exact .inl (if_pos kept)
    · exact .inr ⟨content,same,kept,if_neg kept⟩
  · exact .inl rfl
  · exact .inl rfl

private theorem afterModel_clean (earlier : List (Message Call)) {last : Message Call} (clean : last.Clean) :
    afterModel (earlier ++ [last]) = none := by
  obtain nothing | ⟨content,same,changed,_⟩ := afterModel_concat earlier last
  · exact nothing
  · refine absurd (mask_of_none (clean content ?_)) changed
    unfold Message.texts
    rw [same]
    exact List.mem_cons_self

theorem masked_in_place_iff
    {addMessages : List (Message Call) → List (Message Call) → List (Message Call)}
    (law : AddMessages addMessages) (earlier : List (Message Call)) (last : Message Call) :
    MaskedInPlace earlier last
        (applyUpdate addMessages (earlier ++ [last]) (afterModel (earlier ++ [last]))) ↔
      last.Clean := by
  constructor
  · intro masked
    obtain nothing | ⟨content,_,_,updated⟩ := afterModel_concat earlier last
    · rw [nothing] at masked
      have here : last ∈ (earlier ++ [last]).drop earlier.length := by
        rw [List.drop_left]
        exact List.mem_singleton_self last
      exact masked.clean last here
    · -- The update has no id of its own: the list grows.
      rw [updated] at masked
      obtain ⟨kept,named,same,_,added⟩ := law.appends (earlier ++ [last]) (newMessage (inspectOutput content)) rfl
      have size := masked.size
      change (addMessages _ _).length = _ at size
      rw [added,List.length_append,← same.length_eq,List.length_append,List.length_singleton,
        List.length_singleton] at size
      omega
  · intro clean
    rw [afterModel_clean earlier clean]
    refine ⟨fun message listed => ?_,?_,?_,rfl⟩
    · change message ∈ (earlier ++ [last]).drop earlier.length at listed
      rw [List.drop_left] at listed
      obtain rfl := List.mem_singleton.mp listed
      exact clean
    · exact List.length_append
    · change (earlier ++ [last]).getLast?.map Message.toolCalls = _
      rw [List.getLast?_concat]
      rfl

/-! A reducer that names a message by the length of all the ids. -/

def freshId (messages : List (Message Call)) : Text :=
  List.replicate ((messages.map (fun message => (message.id.getD []).length)).sum + 1) '0'

def addOne (messages : List (Message Call)) (new : Message Call) : List (Message Call) :=
  let id := freshId (messages ++ [new])
  if new.id ≠ none ∧ (messages.map Message.id).contains new.id then
    messages.map (fun old => if old.id = new.id then new else old.name id)
  else messages.map (Message.name id) ++ [new.name id]

def addFresh (messages news : List (Message Call)) : List (Message Call) := news.foldl addOne messages

private theorem addFresh_adds : @AddMessages Call addFresh := by
  have named (id : Text) (messages : List (Message Call)) :
      List.Forall₂ Named messages (messages.map (Message.name id)) := by
    rw [List.forall₂_map_right_iff]
    exact List.forall₂_same.mpr (fun message _ => ⟨id,rfl⟩)
  constructor
  · intro messages message none'
    let id := freshId (messages ++ [message])
    exact ⟨messages.map (Message.name id),message.name id,named id messages,⟨id,rfl⟩,
      if_neg (fun both => both.1 none')⟩
  · intro before old after message known same alone
    let id := freshId ((before ++ old::after) ++ [message])
    have listed : message.id ≠ none ∧
        ((before ++ old::after).map Message.id).contains message.id := by
      refine ⟨same ▸ known,List.elem_iff.mpr ?_⟩
      rw [same]
      exact List.mem_map_of_mem (List.mem_append_right _ List.mem_cons_self)
    have others (part : List (Message Call)) (inside : ∀ other ∈ part, other ∈ before ++ after) :
        part.map (fun other => if other.id = message.id then message else other.name id) =
          part.map (Message.name id) :=
      List.map_congr_left (fun other here => if_neg (same ▸ alone other (inside other here)))
    refine ⟨before.map (Message.name id),after.map (Message.name id),named id before,named id after,?_⟩
    change addOne _ _ = _
    unfold addOne
    rw [if_pos listed,List.map_append,List.map_cons,if_pos same.symm,
      others before (fun _ here => List.mem_append_left _ here),
      others after (fun _ here => List.mem_append_right _ here)]

def asked : Message Nat := ⟨.human,some ['a'],.text ['h','i'],[]⟩

def calling (content : Text) : Message Nat := ⟨.ai,some ['b'],.text content,[7]⟩

theorem masked_in_place_calling : MaskedInPlace [asked] (calling ['o','k'])
    (applyUpdate addFresh [asked,calling ['o','k']] (afterModel [asked,calling ['o','k']])) := by
  have clean : (calling ['o','k']).Clean := by
    intro text listed item pattern
    obtain rfl := List.mem_singleton.mp listed
    revert item
    decide +kernel
  exact (masked_in_place_iff addFresh_adds [asked] (calling ['o','k'])).mpr clean

/-- The masked text comes as one more message, and with it the agent forgets its tool call. -/
theorem masked_copy_added :
    let leaking := calling "13800138000".toList
    let result := applyUpdate addFresh [asked,leaking] (afterModel [asked,leaking])
    leaking ∈ result ∧ result.length = 3 ∧ result.getLast?.map Message.toolCalls = some [] ∧
      ¬MaskedInPlace [asked] leaking result := by
  intro leaking result
  have same : result = [asked,leaking,
      ⟨.ai,some ['0','0','0'],.text "[PHONE_MASKED]".toList,[]⟩] := by
    have masked : inspectOutput "13800138000".toList = "[PHONE_MASKED]".toList := by decide +kernel
    have changed : "[PHONE_MASKED]".toList ≠ "13800138000".toList := by decide
    change applyUpdate addFresh _
      (if inspectOutput "13800138000".toList = "13800138000".toList then none else
        some [newMessage (inspectOutput "13800138000".toList)]) = _
    rw [masked,if_neg changed]
    rfl
  rw [same]
  exact ⟨List.mem_cons_of_mem _ List.mem_cons_self,rfl,rfl,
    fun inPlace => absurd inPlace.size (by decide)⟩

end CustomerService.AgentMiddleware
