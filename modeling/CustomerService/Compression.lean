import CustomerService.RagCompact
import CustomerService.Turns
import CustomerService.Dict
import Mathlib.Algebra.Ring.Int.Defs
import Mathlib.Data.Int.Order.Basic

/-! Compression of a session window: grade the turns by score, then drop turns until the
rest fits the budget, and once more when the summary has grown. -/
namespace CustomerService.SummaryFacts

open Text

abbrev Identity := Nat × Bool

abbrev Placed := Nat × Message

def enumerate (messages : List Message) : List Placed := messages.zipIdx.map Prod.swap

def placedKind (item : Placed) : Kind := item.2.kind

/-- The services a compression calls: `score_message` for the query and the slots of the
call, and `count_tokens`. -/
structure Services (Score : Type*) where
  scoreMessage : Message → List Message → Score
  countTokens : Text → Int

structure Options (Score : Type*) where
  tokenBudget : Int
  slots : Option SessionSlots
  alwaysKeepRecent : Int
  discardScore : Score
  summarizeScore : Score
  maxMessages : Int
  existingSummary : Text
  maxSummaryChars : Option Int

structure CompressResult where
  kept : List Message
  summarized : List Message
  discarded : List Message
  summary : Text
  updated : List Message
deriving DecidableEq

structure CompressionPlan where
  kept : List Message
  summarized : List Message
  discarded : List Message
  factOverflow : List Message
  updated : List Message

section
variable {Score : Type*} (services : Services Score)

def messageTokenCount (message : Message) : Int := services.countTokens message.text + 4

def promptSummaryLine (summary : Text) : Text :=
  if strip summary = [] then [] else "更早对话摘要：".toList ++ strip summary

def promptSummaryTokens (summary : Text) : Int :=
  if promptSummaryLine summary = [] then 0 else services.countTokens (promptSummaryLine summary)

def totalTokens (messages : List Message) : Int := (messages.map (messageTokenCount services)).sum

/-! The budget. -/

/-- The loop over the turns from the last one on, with the turns selected so far and
their cost: the selected turns, and the head of the list where it stops. -/
def selectTurns (restBudget minKeep : Int) :
    List (List Placed) → Int → List (List Placed) → List (List Placed) × List (List Placed)
  | selected, _, [] => (selected,[])
  | selected, total, turn::earlier =>
    let cost := totalTokens services (turn.map Prod.snd)
    if selected ≠ [] ∧ restBudget < total + cost ∧ minKeep ≤ (selected.flatten.length : Int) then
      (selected,(turn::earlier).reverse)
    else selectTurns restBudget minKeep (selected ++ [turn]) (total + cost) earlier

def splitKeptByBudget (kept : List Message) (tokenBudget : Int) (summary : Text)
    (alwaysKeepRecent : Int) : List Message × List Message :=
  if kept = [] then ([],[])
  else
    let budget := max 1 (tokenBudget - promptSummaryTokens services summary)
    let parts := Turns.partitionTurns placedKind (enumerate kept)
    let systemMsgs := parts.1.map Prod.snd
    let restBudget := max 1 (budget - totalTokens services systemMsgs)
    let bodyCount := max 1 ((kept.length : Int) - systemMsgs.length)
    let minKeep := min (max 1 alwaysKeepRecent) bodyCount
    let chosen := selectTurns services restBudget minKeep [] 0 parts.2.reverse
    let keepIds := (chosen.1.flatten.map Prod.snd ++ systemMsgs).map Message.identity
    (kept.filter (fun message => message.identity ∈ keepIds),chosen.2.flatten.map Prod.snd)

/-! The plan. -/

structure Grading where
  keepOrig : List Identity
  compactByOrig : Dict Identity Message
  summarized : List Message
  discarded : List Message
  factOverflow : List Message

/-- `_compact_turn`: what it notes; it returns the compacted messages. -/
def noteCompacted (compactByOrig : Dict Identity Message) (messages : List Message) :
    Dict Identity Message :=
  messages.foldl (fun noted orig =>
    if (compactRagMessage orig).identity = orig.identity then noted
    else noted.set orig.identity (compactRagMessage orig)) compactByOrig

variable [LinearOrder Score] [Zero Score] (options : Options Score)

/-- `max(…, default=0.0)` of the scores of a turn. -/
def turnScore (scores : List Score) (turn : List Placed) : Score :=
  match turn.map (fun item => scores.getD item.1 0) with
  | [] => 0
  | first::rest => rest.foldl max first

def isRecent (recentStart : Int) (turn : List Placed) : Bool :=
  match turn.getLast? with
  | none => false
  | some last => decide (recentStart ≤ (last.1 : Int))

def gradeTurn (recentStart : Int) (scores : List Score) (state : Grading) (turn : List Placed) :
    Grading :=
  let messages := turn.map Prod.snd
  let kept : Grading :=
    { state with
      compactByOrig := noteCompacted state.compactByOrig messages
      keepOrig := state.keepOrig ++ messages.map Message.identity }
  if isRecent recentStart turn then kept
  else if turnScore scores turn < options.discardScore then
    { state with
      discarded := state.discarded ++ messages
      factOverflow := state.factOverflow ++ messages }
  else if turnScore scores turn < options.summarizeScore then
    { state with
      compactByOrig := noteCompacted state.compactByOrig messages
      summarized := state.summarized ++ messages.map compactRagMessage
      factOverflow := state.factOverflow ++ messages.map compactRagMessage }
  else kept

/-- `_drop_updated`: a message without an id is never dropped. -/
def dropUpdated (updated overflow : List Message) : List Message :=
  updated.filter (fun message => message.id = none ∨ message.id ∉ overflow.map Message.id)

def recentStart (messages : List Message) : Int :=
  max 0 ((messages.length : Int) - options.alwaysKeepRecent)

def messageScores (messages : List Message) : List Score :=
  messages.map (fun message => services.scoreMessage message messages)

def grading (messages : List Message) : Grading :=
  let parts := Turns.partitionTurns placedKind (enumerate messages)
  parts.2.foldl
    (gradeTurn options (recentStart options messages) (messageScores services messages))
    ⟨(parts.1.map Prod.snd).map Message.identity,∅,[],[],[]⟩

def keptAfterGrading (messages : List Message) : List Message :=
  let graded := grading services options messages
  (messages.filter (fun message => message.identity ∈ graded.keepOrig)).map (fun message =>
    graded.compactByOrig.getD message.identity message)

def updatedAfterGrading (messages : List Message) : List Message :=
  let graded := grading services options messages
  (messages.filter (fun message => message.identity ∈ graded.keepOrig)).filterMap (fun message =>
    graded.compactByOrig.get? message.identity)

/-- `_plan_compression` for a window that is over its limits. -/
def planOver (messages : List Message) : CompressionPlan :=
  let graded := grading services options messages
  let split := splitKeptByBudget services (keptAfterGrading services options messages)
    options.tokenBudget options.existingSummary options.alwaysKeepRecent
  { kept := split.1
    summarized := graded.summarized ++ split.2
    discarded := graded.discarded
    factOverflow := graded.factOverflow ++ split.2
    updated := dropUpdated (updatedAfterGrading services options messages) split.2 }

/-- `_plan_compression`: a result at once, or a plan. -/
def planCompression (messages : List Message) : CompressResult ⊕ CompressionPlan :=
  let finalized := finalizeSummary (some options.existingSummary) options.slots options.maxSummaryChars
  if messages = [] then .inl ⟨[],[],[],finalized,[]⟩
  else if totalTokens services messages + promptSummaryTokens services options.existingSummary ≤
        options.tokenBudget ∧ (messages.length : Int) ≤ options.maxMessages then
    let compacted := applyRagCompact messages
    .inl ⟨compacted.1,[],[],finalized,compacted.2⟩
  else .inr (planOver services options messages)

/-! The result. -/

def finalizeCompression (plan : CompressionPlan) (summary : Text) : CompressResult :=
  let split := splitKeptByBudget services plan.kept options.tokenBudget summary
    options.alwaysKeepRecent
  let folded := if split.2 = [] then summary
    else foldSessionSummary (some summary) split.2 options.maxSummaryChars options.slots
  { kept := split.1
    summarized := plan.summarized ++ split.2
    discarded := plan.discarded
    summary := finalizeSummary (some folded) options.slots options.maxSummaryChars
    updated := if split.2 = [] then plan.updated else dropUpdated plan.updated split.2 }

/-- `compress_by_importance`, with the function that summarizes what leaves the window. -/
def compressByImportance (summarize : List Message → Text → Text) (messages : List Message) :
    CompressResult :=
  match planCompression services options messages with
  | .inl result => result
  | .inr plan =>
    finalizeCompression services options plan
      (if plan.factOverflow = [] then options.existingSummary
        else summarize plan.factOverflow options.existingSummary)

/-- `use_llm_summary=False`. -/
def ruleSummarize (options : Options Score) (overflow : List Message) (existing : Text) : Text :=
  foldSessionSummary (some existing) overflow options.maxSummaryChars options.slots

end

end CustomerService.SummaryFacts
