import CustomerService.Routing

/-! Intent recognition: keywords first, then the slots of the session, then the classifier,
each result going through the routing policy. -/
namespace CustomerService.IntentRecognition
open Text SummaryFacts Routing

def handoffHints : List String := ["转人工","人工客服","找人工","人工服务","联系人工"]

def orderHints : List String := ["订单","退款","物流","进度","支付","开通"]

def greetingHints : List String := ["你好","您好","在吗","嗨","hello","hi","早上好","晚上好"]

def pureChitchat : List String :=
  ["你好","您好","在吗","嗨","hello","hi","早上好","晚上好","谢谢","感谢","好的","嗯"]

def genericClarify : Text := "您想咨询课程内容，还是查询订单进度？请补充一下具体问题。".toList

/-- `SHORT_QUERY_CHARS` of the recognition and of the window. -/
def shortQueryChars : Nat := 4

def shortFollowupChars : Nat := 12

def confidenceDirect : Confidence := .number (9/10)
def confidenceMixed : Confidence := .number (65/100)
def confidenceAmbiguous : Confidence := .number (35/100)
def confidenceHandoff : Confidence := .number (99/100)
def confidenceChitchat : Confidence := .number (8/10)
def confidenceUnsetCourse : Confidence := .number (5/10)

/-- `str.lower` where the hints can tell: of the characters outside ASCII only these two have
a lower case with an ASCII letter. -/
def lowerChar (char : Char) : Text :=
  if inRange 0x41 0x5a char then [Char.ofNat (char.toNat + 32)]
  else if char = 'İ' then ['i','\u0307']
  else if char = '\u212a' then ['k']
  else [char]

def lower (text : Text) : Text := text.flatMap lowerChar

structure SessionSlots where
  lastIntent : Option Text
  lastOrderNo : Option Text
  lastCourseQuery : Option Text
  lastCourseName : Option Text

/-! Keywords. -/

def isGreetingMixed (text : Text) (hasCourse hasOrder : Bool) : Bool :=
  (hasCourse || hasOrder) && mentions greetingHints (lower text)

def isPureChitchat (text : Text) : Bool :=
  (pureChitchat.map String.toList).contains (lower (strip text))

def recognizeByKeyword (text : Text) : RouteDecision :=
  let query := strip text
  if mentions handoffHints query then
    decisionOf .handoff "keyword-intent" confidenceHandoff none none false none
  else
    let orderNo := extractQueryOrderNo query
    let hasCourse := mentions courseHints query
    let hasOrder := mentions orderHints query || present orderNo
    if hasCourse && hasOrder then
      decisionOf .mixed "keyword-mixed" confidenceMixed orderNo (some query) false none
    else if isGreetingMixed query hasCourse hasOrder then
      decisionOf .ambiguous "ambiguous-query" confidenceAmbiguous orderNo
        (if hasCourse then some query else none) true (some genericClarify)
    else if hasOrder then
      decisionOf .order "keyword-intent" confidenceDirect orderNo none false none
    else if hasCourse then
      decisionOf .courseConsult "keyword-intent" confidenceDirect none (some query) false none
    else if query.length < shortQueryChars ∧ ¬isPureChitchat query then
      decisionOf .ambiguous "short-query" (.number (3/10)) none none true (some genericClarify)
    else decisionOf .chitchat "keyword-intent" confidenceChitchat none none false none

/-! Slots. -/

/-- `BUSINESS_INTENTS`, as intents. -/
def businessIntent (name : Text) : Option Intent :=
  [Intent.courseConsult,.order,.mixed,.handoff].find? (fun intent => intent.name == name)

def continueHints : List String := ["继续","还有","然后呢","接着","再问","补充一下"]

def deicticHints : List String := ["这","那","它","该","此"]

def orderFollowupHints : List String := ["进度","退款","到哪","怎么样","何时","什么时候","开课"]

def courseFollowupHints : List String := ["难","适合","多少钱","内容","大纲","模块","能学"]

def isFollowup (text : Text) : Bool :=
  let query := strip text
  if query = [] then false
  else mentions continueHints query ||
    decide (query.length ≤ 20) && mentions deicticHints query ||
    decide (query.length ≤ 10) && mentions orderFollowupHints query ||
    decide (query.length ≤ 10) && mentions courseFollowupHints query

/-- The first step of `apply_session_slots`: a follow-up of small talk or of an unclear
question takes up the last intent. -/
def resumeIntent (text : Text) (decision : RouteDecision) (slots : SessionSlots) : RouteDecision :=
  if (decision.intent = .chitchat ∨ decision.intent = .ambiguous) ∧ isFollowup text then
    match slots.lastIntent.bind businessIntent with
    | none => decision
    | some intent =>
      { decision with
        intent := intent
        reason := "slot-followup".toList
        confidence := decision.confidence.max (.number (85/100))
        needsClarification := false
        clarificationQuestion := none
        courseQuery :=
          if (intent = .courseConsult ∨ intent = .mixed) ∧ ¬present decision.courseQuery then
            either slots.lastCourseName slots.lastCourseQuery
          else decision.courseQuery }
  else decision

def applySessionSlots (text : Text) (decision : RouteDecision) (slots : SessionSlots) :
    RouteDecision :=
  let resumed := resumeIntent text decision slots
  let orderNo := if (resumed.intent = .order ∨ resumed.intent = .mixed) ∧ ¬present resumed.orderNo
    then slots.lastOrderNo else resumed.orderNo
  let short := decide ((strip text).length < shortFollowupChars)
  let courseQuery := if (resumed.intent = .courseConsult ∨ resumed.intent = .mixed) ∧
      (short ∨ ¬present resumed.courseQuery)
    then either resumed.courseQuery (either slots.lastCourseName
      (either slots.lastCourseQuery (some text)))
    else resumed.courseQuery
  { resumed with
    target := intentToTarget resumed.intent
    orderNo := orderNo
    courseQuery := courseQuery }

def enoughContext (slots : SessionSlots) : Bool :=
  (slots.lastIntent.bind businessIntent).isSome ||
    present slots.lastOrderNo || present slots.lastCourseQuery || present slots.lastCourseName

/-! History. -/

def recentHumanTexts (messages : List Message) : List Text :=
  ((messages.filter (fun message => message.kind = .human)).map Message.text).reverse

def orderNoFromHistory (messages : List Message) : Option Text :=
  ((recentHumanTexts messages).map extractOrderNo).find? present |>.join

/-! The classifier. -/

inductive Reply where
  | quotaExceeded
  | raised
  | notADecision
  | answered (decision : RouteDecision)

structure TenantQuotaExceededError where

/-- `_recognize_by_llm`, from the reply on. -/
def recognizeByLlm : Reply → Except TenantQuotaExceededError (Option RouteDecision)
  | .quotaExceeded => .error ⟨⟩
  | .raised => .ok none
  | .notADecision => .ok none
  | .answered decision =>
    let reasoned := if decision.reason = [] then { decision with reason := "llm-intent".toList }
      else decision
    let targeted := if reasoned.target = .chitchat ∧ reasoned.intent ≠ .chitchat then
        { reasoned with target := intentToTarget reasoned.intent }
      else reasoned
    let weighed := if targeted.confidence.le (.number 0) then
        { targeted with confidence :=
            if targeted.intent = .courseConsult then confidenceUnsetCourse else confidenceDirect }
      else targeted
    .ok (some (finalizeRoute weighed))

/-- The keyword result with the order number of the slots or of the history. -/
def keywordWithOrder (text : Text) (history : List Message) (slots : SessionSlots) : RouteDecision :=
  let keyword := recognizeByKeyword text
  if present keyword.orderNo then keyword
  else { keyword with orderNo := either slots.lastOrderNo (orderNoFromHistory history) }

/-- `recognize_intent`; the model is called with the prompt of the question, the history and
the summary, and any reply may come. -/
def recognizeIntent (llmEnabled : Bool) (reply : Reply) (text : Text) (history : List Message)
    (slots : SessionSlots) : Except TenantQuotaExceededError RouteDecision :=
  let keyword := keywordWithOrder text history slots
  let slotted := applySessionSlots text keyword slots
  let resumed := applySessionSlots text { keyword with intent := .chitchat } slots
  if keyword.intent ≠ .chitchat ∧ keyword.intent ≠ .ambiguous then
    .ok (finalize defaultPolicy text slotted)
  else if keyword.intent = .ambiguous ∧ enoughContext slots ∧ resumed.intent ≠ .chitchat then
    .ok (finalize defaultPolicy text resumed)
  else if ¬llmEnabled then
    .ok (finalize defaultPolicy text
      (if slotted.intent = .chitchat ∧ keyword.intent = .ambiguous then keyword else slotted))
  else if keyword.intent = .ambiguous then
    .ok (finalize defaultPolicy text (if slotted.intent = .ambiguous then keyword else slotted))
  else do
    match ← recognizeByLlm reply with
    | none => return finalize defaultPolicy text slotted
    | some decision =>
      let filled := if present decision.orderNo then decision
        else { decision with orderNo := keyword.orderNo }
      return finalize defaultPolicy text (applySessionSlots text filled slots)

/-! What comes out. -/

private theorem aligned_keyword (text : Text) : Aligned (recognizeByKeyword text) := by
  unfold recognizeByKeyword
  dsimp only
  split_ifs <;> apply aligned_decisionOf

private theorem aligned_applySessionSlots (text : Text) (decision : RouteDecision) (slots : SessionSlots) :
    Aligned (applySessionSlots text decision slots) := rfl

private theorem aligned_keywordWithOrder (text : Text) (history : List Message) (slots : SessionSlots) :
    Aligned (keywordWithOrder text history slots) := by
  have found := aligned_keyword text
  unfold keywordWithOrder
  dsimp only
  split_ifs
  · exact found
  · exact found

private theorem recognize_cases {llmEnabled : Bool} {reply : Reply} {text : Text} {history : List Message}
    {slots : SessionSlots} {decision : RouteDecision}
    (recognized : (recognizeIntent llmEnabled reply text history slots).toOption = some decision) :
    ∃ found, Aligned found ∧ decision = finalize defaultPolicy text found := by
  have slotted (base : RouteDecision) := aligned_applySessionSlots text base slots
  have aligned := aligned_keywordWithOrder text history slots
  unfold recognizeIntent at recognized
  dsimp only at recognized
  generalize keywordWithOrder text history slots = keyword at recognized aligned
  split_ifs at recognized
  · exact ⟨_,slotted _,(Option.some.inj recognized).symm⟩
  · exact ⟨_,slotted _,(Option.some.inj recognized).symm⟩
  · exact ⟨_,aligned,(Option.some.inj recognized).symm⟩
  · exact ⟨_,slotted _,(Option.some.inj recognized).symm⟩
  · cases reply with
    | quotaExceeded => cases recognized
    | raised => exact ⟨_,slotted _,(Option.some.inj recognized).symm⟩
    | notADecision => exact ⟨_,slotted _,(Option.some.inj recognized).symm⟩
    | answered given => exact ⟨_,slotted _,(Option.some.inj recognized).symm⟩
  · exact ⟨_,aligned,(Option.some.inj recognized).symm⟩
  · exact ⟨_,slotted _,(Option.some.inj recognized).symm⟩

/-- The post-conditions of the recognition, whatever the model replies. -/
theorem recognize_intent_routed (llmEnabled : Bool) (reply : Reply) (text : Text)
    (history : List Message) (slots : SessionSlots) (decision : RouteDecision)
    (recognized : (recognizeIntent llmEnabled reply text history slots).toOption = some decision) :
    Routed defaultPolicy text decision := by
  obtain ⟨found,aligned,rfl⟩ := recognize_cases recognized
  exact finalize_routed aligned

/-- The model takes a refund question without an order number for a course consultation. -/
theorem recognize_intent_routed_refund :
    Routed defaultPolicy "单号查一下吧".toList
      { intent := .mixed
        target := .supervisor
        confidence := .number (65/100)
        orderNo := none
        courseQuery := some "单号查一下吧".toList
        needsClarification := false
        clarificationQuestion := none
        reason := "order-signal-force".toList } :=
  recognize_intent_routed true
    (.answered
      { intent := .courseConsult
        target := .rag
        confidence := .number (4/10)
        orderNo := none
        courseQuery := none
        needsClarification := false
        clarificationQuestion := none
        reason := [] })
    "单号查一下吧".toList [] ⟨none,none,none,none⟩ _ (by decide +kernel)

end CustomerService.IntentRecognition
