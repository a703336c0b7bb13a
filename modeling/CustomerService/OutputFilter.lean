import CustomerService.Regex

/-! PII masking, and the token stream of the agents: the two streaming loops hand every
delta of the model to the mask on its own. -/
namespace CustomerService.OutputFilter

open Text

def inChar (low high : Char) (char : Char) : Bool := decide (low ≤ char) && decide (char ≤ high)

def isLetter (char : Char) : Bool := inChar 'A' 'Z' char || inChar 'a' 'z' char

def isAsciiDigit (char : Char) : Bool := inChar '0' '9' char

/-- `(?<!\d)\d{17}[\dXx](?!\d)`. -/
def idCard : Regex :=
  .seq (.notBehind isDigit) (.seq (.many isDigit 17 (some 17))
    (.seq (.one (fun char => isDigit char || char == 'X' || char == 'x')) (.notAhead isDigit)))

/-- `(?<!\d)\d{13,19}(?!\d)`. -/
def bankCard : Regex :=
  .seq (.notBehind isDigit) (.seq (.many isDigit 13 (some 19)) (.notAhead isDigit))

/-- `(?<!\d)1[3-9]\d{9}(?!\d)`. -/
def phone : Regex :=
  .seq (.notBehind isDigit) (.seq (.one (· == '1')) (.seq (.one (inChar '3' '9'))
    (.seq (.many isDigit 9 (some 9)) (.notAhead isDigit))))

/-- `[A-Za-z0-9._%+-]+@[A-Za-z0-9.-]+\.[A-Za-z]{2,}`. -/
def email : Regex :=
  .seq (.many (fun char => isLetter char || isAsciiDigit char || "._%+-".toList.contains char)
      1 none)
    (.seq (.one (· == '@'))
      (.seq (.many (fun char => isLetter char || isAsciiDigit char || ".-".toList.contains char)
          1 none)
        (.seq (.one (· == '.')) (.many isLetter 2 none))))

inductive Label
  | idCard
  | bankCard
  | phone
  | email
deriving DecidableEq

/-- `f"[{label.upper()}_MASKED]"`. -/
def Label.masked : Label → Text
  | .idCard => "[ID_CARD_MASKED]".toList
  | .bankCard => "[BANK_CARD_MASKED]".toList
  | .phone => "[PHONE_MASKED]".toList
  | .email => "[EMAIL_MASKED]".toList

/-- `PII_PATTERNS`, in the order they are applied. -/
def piiPatterns : List (Label × Regex) :=
  [(.idCard,idCard),(.bankCard,bankCard),(.phone,phone),(.email,email)]

/-- One round of the loop of `mask_pii`, on the findings and the text so far. -/
def maskStep (state : List Label × Text) (item : Label × Regex) : List Label × Text :=
  if (item.2.search state.2).isSome then (state.1 ++ [item.1],item.2.sub item.1.masked state.2)
  else state

/-- `mask_pii`, findings first. -/
def maskPii (text : Text) : List Label × Text := piiPatterns.foldl maskStep ([],text)

def inspectOutput (text : Text) : Text := (maskPii text).2

inductive Block
  | text (text : Text)
  | typed (type : Text) (text : Option Text)
  | other

inductive Content
  | text (text : Text)
  | blocks (blocks : List Block)
  | other

structure Chunk where
  content : Content
  ofModel : Bool
  hasToolCalls : Bool

def blockText : Block → Text
  | .text text => text
  | .typed type text => if type = "text".toList then text.getD [] else []
  | .other => []

/-- `_chunk_text`, the same in both agents. -/
def chunkText (chunk : Chunk) : Text :=
  match chunk.content with
  | .text text => text
  | .blocks blocks => blocks.flatMap blockText
  | .other => []

structure Payload where
  event : Text
  content : Text
deriving DecidableEq

/-- `_emit_token`, the same in both agents: what goes to the stream writer. -/
def emitToken (content : Text) : List Payload :=
  if content = [] then []
  else
    let masked := (maskPii content).2
    if masked = [] then [] else [⟨"token".toList,masked⟩]

/-- What the loop has gathered: the parts of the answer and what was emitted. -/
structure Streamed where
  parts : List Text
  emitted : List Payload

def Streamed.add (state : Streamed) (delta : Text) : Streamed :=
  if delta = [] then state
  else ⟨state.parts ++ [delta],state.emitted ++ emitToken delta⟩

/-- The body of the loop in `astream_course_answer`. -/
def courseStep (state : Streamed) (chunk : Chunk) : Streamed := state.add (chunkText chunk)

/-- The body of the loop in `_stream_react_inner`: only messages of the model without
tool calls are part of the answer. -/
def reactStep (state : Streamed) (chunk : Chunk) : Streamed :=
  if chunk.ofModel = false then state
  else if chunk.hasToolCalls then state
  else state.add (chunkText chunk)

inductive Agent
  | course
  | react

def Agent.step : Agent → Streamed → Chunk → Streamed
  | .course => courseStep
  | .react => reactStep

def Agent.stream (agent : Agent) (chunks : List Chunk) : Streamed :=
  chunks.foldl agent.step ⟨[],[]⟩

/-- The answer the deltas make up, before it is stripped. -/
def Agent.answer (agent : Agent) (chunks : List Chunk) : Text := (agent.stream chunks).parts.flatten

def eventsFromCustom (payload : Payload) : List Text :=
  if payload.event ≠ "token".toList then []
  else if payload.content = [] then []
  else [payload.content]

/-- What the client reads: the contents of the token events one after another. -/
def Agent.clientText (agent : Agent) (chunks : List Chunk) : Text :=
  ((agent.stream chunks).emitted.flatMap eventsFromCustom).flatten

theorem piiPatterns_marked (item : Label × Regex) (listed : item ∈ piiPatterns) :
    item.2.uses '[' = false ∧ '[' ∈ item.1.masked ∧ 2 ≤ item.2.least := by
  simp only [piiPatterns,List.mem_cons,List.not_mem_nil,or_false] at listed
  obtain rfl | rfl | rfl | rfl := listed <;> decide

theorem maskStep_of_none {state : List Label × Text} {item : Label × Regex}
    (nothing : item.2.search state.2 = none) : maskStep state item = state := by
  simp [maskStep,nothing]

theorem foldl_of_none {text : Text} (items : List (Label × Regex)) (found : List Label)
    (nothing : ∀ item ∈ items, item.2.search text = none) :
    items.foldl maskStep (found,text) = (found,text) := by
  induction items with
  | nil => rfl
  | cons item rest ih =>
    rw [List.foldl_cons,maskStep_of_none (nothing item List.mem_cons_self)]
    exact ih (fun other later => nothing other (List.mem_cons_of_mem item later))

theorem mask_of_none {text : Text}
    (nothing : ∀ item ∈ piiPatterns, item.2.search text = none) : inspectOutput text = text :=
  congrArg Prod.snd (foldl_of_none piiPatterns [] nothing)

private theorem count_maskStep (state : List Label × Text) (item : Label × Regex)
    (listed : item ∈ piiPatterns) :
    state.2.count '[' ≤ (maskStep state item).2.count '[' ∧
      ((item.2.search state.2).isSome = true →
        state.2.count '[' < (maskStep state item).2.count '[') := by
  obtain ⟨unused,marked,long⟩ := piiPatterns_marked item listed
  by_cases hit : (item.2.search state.2).isSome = true
  · have more := item.2.count_sub_lt item.1.masked '[' unused marked (by omega) hit
    simp only [maskStep,hit,if_true]
    exact ⟨more.le,fun _ => more⟩
  · simp [maskStep,hit]

theorem mask_of_hit {text : Text} {item : Label × Regex} (listed : item ∈ piiPatterns)
    (hit : (item.2.search text).isSome = true) : inspectOutput text ≠ text := by
  have grows (items : List (Label × Regex)) (inside : ∀ item ∈ items, item ∈ piiPatterns)
      (state : List Label × Text) :
      state.2.count '[' ≤ (items.foldl maskStep state).2.count '[' := by
    induction items generalizing state with
    | nil => exact le_rfl
    | cons first rest ih =>
      have here := (count_maskStep state first (inside first List.mem_cons_self)).1
      exact here.trans (ih (fun other later => inside other (List.mem_cons_of_mem _ later)) _)
  have strict (items : List (Label × Regex)) (inside : ∀ item ∈ items, item ∈ piiPatterns)
      (found : List Label) (member : item ∈ items) :
      text.count '[' < (items.foldl maskStep (found,text)).2.count '[' := by
    induction items with
    | nil => cases member
    | cons first rest ih =>
      have tail (other : Label × Regex) (later : other ∈ rest) :=
        inside other (List.mem_cons_of_mem first later)
      have here := count_maskStep (found,text) first (inside first List.mem_cons_self)
      by_cases hits : (first.2.search text).isSome = true
      · exact (here.2 hits).trans_le (grows rest tail _)
      · have nothing : first.2.search text = none := by simpa using hits
        rw [List.foldl_cons,maskStep_of_none nothing]
        rcases List.mem_cons.mp member with rfl | later
        · exact absurd hit hits
        · exact ih tail later
  intro same
  have more := strict piiPatterns (fun _ inside => inside) [] listed
  have equal : (piiPatterns.foldl maskStep ([],text)).2 = text := same
  rw [equal] at more
  exact lt_irrefl _ more

theorem email_signed {text : Text} (found : email.search text ≠ none) : '@' ∈ text := by
  obtain ⟨cursor,searched⟩ := Option.ne_none_iff_exists'.mp found
  obtain ⟨before,after,ends,matched⟩ := email.searchFrom_matchAt searched
  have ran := List.mem_of_mem_head? matched
  simp only [email,Regex.run,List.mem_flatMap] at ran
  obtain ⟨middle,name,sign,signed,_⟩ := ran
  obtain ⟨taken,⟨split,_⟩,_⟩ := Regex.run_takes (.many _ 1 none) name
  split_ifs at signed with heads
  · refine ends.subset (show '@' ∈ after from ?_)
    have whole : after = taken ++ middle.after := split
    rw [whole]
    cases rest : middle.after with
    | nil =>
      rw [rest] at heads
      cases heads
    | cons char later =>
      rw [rest] at heads
      have same : char = '@' := by simpa [Text.heads] using heads
      rw [same]
      exact List.mem_append_right _ List.mem_cons_self
  · cases signed

/-! The token stream: what the client reads is the masked parts of the answer. -/

private theorem clientText_emitToken (delta : Text) :
    ((emitToken delta).flatMap eventsFromCustom).flatten = inspectOutput delta := by
  unfold emitToken
  by_cases blank : delta = []
  · subst blank
    rfl
  · rw [if_neg blank]
    by_cases gone : (maskPii delta).2 = []
    · simp [gone,inspectOutput]
    · simp [gone,inspectOutput,eventsFromCustom]

def Streamed.Masked (state : Streamed) : Prop :=
  (state.emitted.flatMap eventsFromCustom).flatten = state.parts.flatMap inspectOutput

theorem Streamed.Masked.add {state : Streamed} (masked : state.Masked) (delta : Text) :
    (state.add delta).Masked := by
  unfold Streamed.add
  split_ifs
  · exact masked
  · simp only [Streamed.Masked,List.flatMap_append,List.flatten_append,clientText_emitToken]
    rw [masked]
    simp

private theorem step_masked (agent : Agent) {state : Streamed} (masked : state.Masked) (chunk : Chunk) :
    (agent.step state chunk).Masked := by
  cases agent with
  | course => exact masked.add (chunkText chunk)
  | react =>
    simp only [Agent.step,reactStep]
    split_ifs
    · exact masked
    · exact masked
    · exact masked.add (chunkText chunk)

private theorem stream_masked (agent : Agent) (chunks : List Chunk) :
    agent.clientText chunks = (agent.stream chunks).parts.flatMap inspectOutput := by
  have general (state : Streamed) (masked : state.Masked) : (chunks.foldl agent.step state).Masked := by
    induction chunks generalizing state with
    | nil => exact masked
    | cons chunk rest ih => exact ih _ (step_masked agent masked chunk)
  exact general ⟨[],[]⟩ rfl

def deltas (parts : List Text) : List Chunk := parts.map (fun part => ⟨.text part,true,false⟩)

private theorem stream_deltas (agent : Agent) (parts : List Text) (nonempty : ∀ part ∈ parts, part ≠ []) :
    (agent.stream (deltas parts)).parts = parts := by
  have general (state : Streamed) :
      ((deltas parts).foldl agent.step state).parts = state.parts ++ parts := by
    induction parts generalizing state with
    | nil => simp [deltas]
    | cons part rest ih =>
      have here : agent.step state ⟨.text part,true,false⟩ =
          ⟨state.parts ++ [part],state.emitted ++ emitToken part⟩ := by
        cases agent <;>
          simp [Agent.step,courseStep,reactStep,Streamed.add,chunkText,nonempty part]
      rw [deltas,List.map_cons,List.foldl_cons,here]
      exact (ih (fun other later => nonempty other (List.mem_cons_of_mem part later)) _).trans
        (by simp)
  exact general ⟨[],[]⟩

def singles (text : Text) : List Text := text.map (fun char => [char])

private theorem singles_ne (text : Text) (part : Text) (member : part ∈ singles text) : part ≠ [] := by
  obtain ⟨char,_,rfl⟩ := List.mem_map.mp member
  simp

private theorem flatten_singles (text : Text) : (singles text).flatten = text := by
  simp [singles,← List.flatMap_def]

private theorem masked_singles (text : Text) : (singles text).flatMap inspectOutput = text := by
  have same : ∀ part ∈ singles text, inspectOutput part = part := by
    intro part member
    obtain ⟨char,_,rfl⟩ := List.mem_map.mp member
    refine mask_of_none (fun item listed => item.2.search_short ?_)
    have long := (piiPatterns_marked item listed).2.2
    simp only [List.length_cons,List.length_nil]
    omega
  rw [List.flatMap_congr same]
  simpa [List.flatMap_id'] using flatten_singles text

/-- No contiguous part of the text, taken on its own, is hit by a pattern. -/
def NoPartHit (text : Text) : Prop :=
  ∀ part, part <:+: text → ∀ item ∈ piiPatterns, item.2.search part = none

/-- What the client reads equals the filtered answer for every way the model splits
the answer into deltas, exactly when no part of the answer is hit by a pattern. -/
theorem streamed_filtered_iff (agent : Agent) (text : Text) :
    (∀ chunks, agent.answer chunks = text → agent.clientText chunks = inspectOutput text) ↔
      NoPartHit text := by
  constructor
  · rintro filtered part ⟨before,after,rfl⟩ item listed
    by_contra hit
    have hit : (item.2.search part).isSome = true := Option.isSome_iff_ne_none.mpr hit
    have read (parts : List Text) (nonempty : ∀ part ∈ parts, part ≠ [])
        (whole : parts.flatten = before ++ part ++ after) :
        parts.flatMap inspectOutput = inspectOutput (before ++ part ++ after) := by
      have deltas := stream_deltas agent parts nonempty
      rw [← filtered (OutputFilter.deltas parts) (by rw [Agent.answer,deltas,whole]),stream_masked,
        deltas]
    have kept := read (singles (before ++ part ++ after)) (singles_ne _) (flatten_singles _)
    rw [masked_singles] at kept
    have nonempty : part ≠ [] := by
      rintro rfl
      have long := (piiPatterns_marked item listed).2.2
      rw [item.2.search_short (show List.length [] < item.2.least by simp; omega)] at hit
      cases hit
    have cut := read (singles before ++ [part] ++ singles after) (by
        intro other member
        simp only [List.mem_append,List.mem_singleton] at member
        obtain (member | rfl) | member := member
        · exact singles_ne before other member
        · exact nonempty
        · exact singles_ne after other member) (by simp [flatten_singles])
    rw [← kept] at cut
    simp only [List.flatMap_append,masked_singles,List.flatMap_cons,List.flatMap_nil,
      List.append_nil] at cut
    have same := List.append_cancel_left (List.append_cancel_right cut)
    exact mask_of_hit listed hit same
  · rintro clean chunks rfl
    rw [stream_masked,mask_of_none (clean _ List.infix_rfl)]
    have same : ∀ part ∈ (agent.stream chunks).parts, inspectOutput part = part :=
      fun part member => mask_of_none (clean part (List.infix_of_mem_flatten member))
    rw [List.flatMap_congr same,Agent.answer]
    exact List.flatMap_id'

/-- A phone number over two deltas reaches the client. -/
theorem phone_leaks_over_two_deltas :
    Agent.clientText .course (deltas ["138001".toList,"38000".toList]) = "13800138000".toList ∧
      inspectOutput (Agent.answer .course (deltas ["138001".toList,"38000".toList])) =
        "[PHONE_MASKED]".toList ∧
      ¬∀ agent chunks text, Agent.answer agent chunks = text →
        Agent.clientText agent chunks = inspectOutput text := by
  have leaked : Agent.clientText .course (deltas ["138001".toList,"38000".toList]) =
      "13800138000".toList := by decide +kernel
  have masked : inspectOutput (Agent.answer .course (deltas ["138001".toList,"38000".toList])) =
      "[PHONE_MASKED]".toList := by decide +kernel
  refine ⟨leaked,masked,fun filtered => ?_⟩
  have same := filtered .course (deltas ["138001".toList,"38000".toList]) _ rfl
  rw [leaked,masked] at same
  exact absurd same (by decide)

end CustomerService.OutputFilter
