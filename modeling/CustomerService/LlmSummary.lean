import CustomerService.Compression

/-! The summary by the language model: when it is asked, what it is asked, and what becomes of its
answer. -/
namespace CustomerService.SummaryFacts

open Text StructuredSummary

def businessSignalRe : Regex :=
  .anyOf ["订单","退款","退钱","物流","快递","发货","取消","进度","课程","大纲","模块","学费","价格",
    "多少钱","零基础","适合","付费","推荐","太难","很难","偏难","转人工","转接","开课","学什么","讲什么",
    "不想学","改主意","别推","不要推","别推荐","不要推荐"]

def overflowHasBusinessSignal (messages : List Message) : Bool :=
  messages.any (fun message =>
    let text := strip message.text
    text ≠ [] && ((orderNoRe.search text).isSome || (businessSignalRe.search text).isSome ||
      extractCourseNames text ≠ []))

def StructuredSummary.novelAgainst (self existing : StructuredSummary) : Bool :=
  self.orders.any (fun item => !existing.orders.contains item) ||
    self.courses.any (fun item => !existing.courses.contains item) ||
    (self.intent ≠ [] && self.intent ≠ existing.intent) ||
    self.confirmed.any (fun item => !existing.confirmed.contains item) ||
    self.pending.any (fun item => !existing.pending.contains item)

def shouldInvokeLlmSummary (messages : List Message) (existing delta : StructuredSummary) : Bool :=
  messages ≠ [] && (delta.novelAgainst existing || overflowHasBusinessSignal messages)

inductive LlmSummaryPrepared
  | done (result : Text)
  | invoke (existing delta : StructuredSummary) (userBlock : Text)

def oneLine (text : Text) : Text := text.map (fun char => if char = '\n' then ' ' else char)

/-- The lines of the messages that say something, each cut to 200 characters. -/
def promptLines (messages : List Message) : List Text :=
  messages.filterMap (fun message =>
    let text := oneLine (strip message.text)
    if text = [] then none
    else some ((if message.kind = .human then "用户" else "助手").toList ++ '：'::text.take 200))

/-- `field or '无'`. -/
def orMissing (field : Option Text) : Text := if field.getD [] = [] then "无".toList else field.getD []

def slotHint (slots : Option SessionSlots) : Text :=
  match slots with
  | none => []
  | some slots =>
    "槽位已有：订单=".toList ++ orMissing slots.lastOrderNo ++ "；课程=".toList ++
      orMissing slots.lastCourseName ++ "；意图=".toList ++ orMissing slots.lastIntent ++ "。\n".toList

def prepareLlmSummary (messages : List Message) (existingSummary : Text) (maxChars : Option Int)
    (slots : Option SessionSlots) : LlmSummaryPrepared :=
  let existing := parse (some existingSummary)
  let delta := extractSummaryFacts messages slots
  if messages = [] then .done (finalizeSummary (some existingSummary) slots maxChars)
  else if shouldInvokeLlmSummary messages existing delta = false then
    .done (foldSessionSummary (some existingSummary) messages maxChars slots)
  else
    let lines := promptLines messages
    if lines = [] then .done (finalizeStructured existing slots maxChars)
    else
      let rendered := existing.render none
      .invoke existing delta (slotHint slots ++ "已有摘要：\n".toList ++
        (if rendered = [] then "（空）".toList else rendered) ++ "\n\n溢出消息：\n".toList ++
        join ['\n'] lines)

def mergeLlmSummaryText (summaryText : Text) (existing delta : StructuredSummary)
    (existingSummary : Text) (messages : List Message) (maxChars : Option Int)
    (slots : Option SessionSlots) : Text :=
  if summaryText = [] then foldSessionSummary (some existingSummary) messages maxChars slots
  else
    let parsed := parse (some summaryText)
    let llmDelta := if parsed.hasContent then parsed
      else { empty with confirmed := [(strip (oneLine summaryText)).take 120] }
    finalizeStructured ((existing.merge llmDelta).merge delta) slots maxChars

/-- `_llm_batch_summarize`. `chat` is the model: the text of its answer to a user block, or nothing when
the call raises. -/
def llmBatchSummarize (chat : Text → Option Text) (messages : List Message) (existingSummary : Text)
    (maxChars : Option Int) (slots : Option SessionSlots) : Text :=
  match prepareLlmSummary messages existingSummary maxChars slots with
  | .done result => result
  | .invoke existing delta userBlock =>
    match chat userBlock with
    | none => foldSessionSummary (some existingSummary) messages maxChars slots
    | some response =>
      mergeLlmSummaryText (strip response) existing delta existingSummary messages maxChars slots

end CustomerService.SummaryFacts
