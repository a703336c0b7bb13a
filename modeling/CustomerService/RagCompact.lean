import CustomerService.SummaryFacts

/-! In-place compaction of long answers about course outlines. -/
namespace CustomerService.SummaryFacts

open Text

def ragCompactMinChars : Nat := 400

def ragCompactSummaryChars : Nat := 180

/-- `word in text`. -/
def contains (word text : Text) : Bool := text.tails.any word.isPrefixOf

/-- `(?m)^##\s+\S`. -/
def titleRe : Regex :=
  .seq .lineStart (.seq (.lit "##".toList) (.seq (.many isSpace 1 none)
    (.one (fun char => !isSpace char))))

def isLongRagReply (text : Text) : Bool :=
  if text.length < ragCompactMinChars then false
  else (titleRe.search text).isSome &&
    (contains "### 课程模块".toList text || contains "### 学习路径".toList text)

/-- What the loop of `_compact_rag_text` has so far. -/
structure Gathering where
  title : Text
  summaryParts : List Text

def gather : List Text → Gathering → Gathering
  | [], state => state
  | line::rest, state =>
    let stripped := strip line
    if state.title = [] ∧ "## ".toList.isPrefixOf stripped then
      gather rest { state with title := strip (stripped.drop 3) }
    else if "###".toList.isPrefixOf stripped then state
    else if stripped = [] then gather rest state
    else
      let parts := state.summaryParts ++ [stripped]
      if ragCompactSummaryChars ≤ (join [' '] parts).length then { state with summaryParts := parts }
      else gather rest { state with summaryParts := parts }

def compactRagText (text : Text) : Text :=
  let found := gather (splitlines text) ⟨[],[]⟩
  let body := (join [' '] found.summaryParts).take ragCompactSummaryChars
  let head := if found.title = [] then "## 课程咨询".toList else "## ".toList ++ found.title
  if body = [] then head else strip (head ++ '\n'::body)

def compactRagHistory (text : Text) : Text :=
  if isLongRagReply text then compactRagText text else text

/-- An answer whose text changes is replaced by a new object with the same id. -/
def compactRagMessage (message : Message) : Message :=
  if message.kind ≠ .ai then message
  else
    let stub := compactRagHistory message.text
    if stub = message.text then message else { message with text := stub, copy := true }

/-- `id(message)`: no two objects that are alive share it. -/
def Message.identity (message : Message) : Nat × Bool := (message.ref,message.copy)

/-- `apply_rag_compact`: the messages, and those that were replaced and have an id. -/
def applyRagCompact (messages : List Message) : List Message × List Message :=
  (messages.map compactRagMessage,
    ((messages.filter (fun message => (compactRagMessage message).identity ≠ message.identity)).map
      compactRagMessage).filter (fun new => new.id ≠ none ∧ new.id ≠ some []))

theorem compact_cases (message : Message) :
    compactRagMessage message = message ∨
      message.kind = .ai ∧ compactRagMessage message =
        { message with text := compactRagHistory message.text, copy := true } := by
  simp only [compactRagMessage]
  split_ifs with other unchanged
  · exact Or.inl rfl
  · exact Or.inl rfl
  · exact Or.inr ⟨by simpa using other,rfl⟩

@[simp] theorem compact_kind (message : Message) : (compactRagMessage message).kind = message.kind := by
  rcases compact_cases message with same | ⟨_,same⟩ <;> rw [same]

@[simp] theorem compact_id (message : Message) : (compactRagMessage message).id = message.id := by
  rcases compact_cases message with same | ⟨_,same⟩ <;> rw [same]

@[simp] theorem compact_ref (message : Message) : (compactRagMessage message).ref = message.ref := by
  rcases compact_cases message with same | ⟨_,same⟩ <;> rw [same]

theorem compact_system {message : Message} (system : message.kind = .system) :
    compactRagMessage message = message := by
  rcases compact_cases message with same | ⟨ai,_⟩
  · exact same
  · rw [system] at ai
    cases ai

theorem compact_identity {message : Message} (original : message.copy = false) :
    (compactRagMessage message).identity = message.identity ↔ compactRagMessage message = message := by
  refine ⟨fun same => ?_,fun same => by rw [same]⟩
  rcases compact_cases message with unchanged | ⟨_,changed⟩
  · exact unchanged
  · simp [changed,Message.identity,original] at same

end CustomerService.SummaryFacts
