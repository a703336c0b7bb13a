import CustomerService.RagCompact
import Mathlib.Algebra.Order.Ring.Rat
import Mathlib.Tactic.NormNum

/-! Routing policy: what becomes of a recognized intent before the graph branches on it. -/
namespace CustomerService.Routing
open SummaryFacts

inductive Intent where
  | courseConsult | order | mixed | ambiguous | chitchat | handoff
deriving DecidableEq

inductive RouteTarget where
  | rag | tool | handoff | chitchat | supervisor
deriving DecidableEq

inductive GraphNode where
  | rag | tool | supervisor | handoff | chitchat | respond
deriving DecidableEq

def Intent.name : Intent → Text
  | .courseConsult => "course_consult".toList
  | .order => "order".toList
  | .mixed => "mixed".toList
  | .ambiguous => "ambiguous".toList
  | .chitchat => "chitchat".toList
  | .handoff => "handoff".toList

def RouteTarget.name : RouteTarget → Text
  | .rag => "rag".toList
  | .tool => "tool".toList
  | .handoff => "handoff".toList
  | .chitchat => "chitchat".toList
  | .supervisor => "supervisor".toList

def intentToTarget : Intent → RouteTarget
  | .courseConsult => .rag
  | .order => .tool
  | .mixed => .supervisor
  | .ambiguous => .supervisor
  | .handoff => .handoff
  | .chitchat => .chitchat

/-- A float of which only comparisons are taken; a comparison with a nan fails. -/
inductive Confidence where
  | nan
  | number (value : ℚ)
deriving DecidableEq

def Confidence.le : Confidence → Confidence → Bool
  | .number first, .number second => decide (first ≤ second)
  | _, _ => false

def Confidence.lt : Confidence → Confidence → Bool
  | .number first, .number second => decide (first < second)
  | _, _ => false

/-- `max(first, second)`: the second only when it is greater. -/
def Confidence.max (first second : Confidence) : Confidence :=
  if first.lt second then second else first

structure RouteDecision where
  intent : Intent
  target : RouteTarget
  confidence : Confidence
  orderNo : Option Text
  courseQuery : Option Text
  needsClarification : Bool
  clarificationQuestion : Option Text
  reason : Text
deriving DecidableEq

def present (value : Option Text) : Bool := value.any (· ≠ [])

/-- `first or second`. -/
def either (first second : Option Text) : Option Text := if present first then first else second

def forceOrderHints : List String := ["订单","退款","物流","单号","查单"]

/-- `COURSE_HINTS` of the recognition. -/
def courseHints : List String :=
  ["课程","大纲","包含","学什么","模块","学习路径","入门课","讲什么","新手","能学","适合","零基础","难吗",
    "售前","售后"]

/-- `any(token in text for token in hints)`. -/
def mentions (hints : List String) (text : Text) : Bool :=
  hints.any (fun token => contains token.toList text)

def extractQueryOrderNo (text : Text) : Option Text := extractOrderNo text

def queryHasOrderSignal (text : Text) : Bool :=
  present (extractQueryOrderNo text) || mentions forceOrderHints text

/-- `finalize_route`; the target of a decision is never empty. -/
def finalizeRoute (decision : RouteDecision) : RouteDecision :=
  if decision.confidence.le (.number 0) then { decision with confidence := .number 1 } else decision

def decisionOf (intent : Intent) (reason : String) (confidence : Confidence)
    (orderNo courseQuery : Option Text) (needsClarification : Bool)
    (clarificationQuestion : Option Text) : RouteDecision :=
  finalizeRoute
    { intent := intent
      target := intentToTarget intent
      confidence := confidence
      orderNo := orderNo
      courseQuery := courseQuery
      needsClarification := needsClarification
      clarificationQuestion := clarificationQuestion
      reason := reason.toList }

def looksLikeCourse (text : Text) (decision : RouteDecision) : Bool :=
  decision.intent == .courseConsult || mentions courseHints text

structure RoutingPolicy where
  confidenceRagMin : Confidence
  confidenceDirect : Confidence
  confidenceMixed : Confidence
  confidenceAmbiguous : Confidence
  missingOrderClarify : Text

def defaultPolicy : RoutingPolicy where
  confidenceRagMin := .number (7/10)
  confidenceDirect := .number (9/10)
  confidenceMixed := .number (65/100)
  confidenceAmbiguous := .number (35/100)
  missingOrderClarify := "请提供完整订单编号，我再帮您查询退款或进度。".toList

def passesOrderSignal : Intent → Bool
  | .handoff | .order | .mixed | .ambiguous => true
  | .courseConsult | .chitchat => false

variable (policy : RoutingPolicy)

def applyOrderSignal (text : Text) (decision : RouteDecision) : RouteDecision :=
  if passesOrderSignal decision.intent then
    if present decision.orderNo then decision
    else if present (extractQueryOrderNo text) then
      { decision with orderNo := extractQueryOrderNo text }
    else decision
  else if queryHasOrderSignal text then
    let orderNo := either decision.orderNo (extractQueryOrderNo text)
    if looksLikeCourse text decision then
      decisionOf .mixed "order-signal-force" policy.confidenceMixed orderNo
        (either decision.courseQuery (some text)) false none
    else
      decisionOf .order "order-signal-force" policy.confidenceDirect orderNo decision.courseQuery
        false none
  else decision

def applyLowConfidence (decision : RouteDecision) : RouteDecision :=
  if decision.intent ≠ .courseConsult then decision
  else if policy.confidenceRagMin.le decision.confidence then decision
  else
    decisionOf .mixed "low-confidence-upgrade" decision.confidence decision.orderNo
      decision.courseQuery false none

def downgradeMissingOrder (decision : RouteDecision) : RouteDecision :=
  if decision.intent ≠ .order ∨ present decision.orderNo then decision
  else
    decisionOf .ambiguous "missing-order-no" policy.confidenceAmbiguous none decision.courseQuery
      true (some policy.missingOrderClarify)

def finalize (text : Text) (decision : RouteDecision) : RouteDecision :=
  finalizeRoute (downgradeMissingOrder policy
    (applyLowConfidence policy (applyOrderSignal policy text decision)))

def targetByKey (key : Text) : Option GraphNode :=
  if key = "rag".toList then some .rag
  else if key = "tool".toList then some .tool
  else if key = "supervisor".toList then some .supervisor
  else if key = "handoff".toList then some .handoff
  else if key = "chitchat".toList then some .chitchat
  else if key = "course_consult".toList then some .rag
  else if key = "order".toList then some .tool
  else if key = "order_query".toList then some .tool
  else if key = "mixed".toList then some .supervisor
  else if key = "ambiguous".toList then some .supervisor
  else none

def nextAfterRouter (blocked : Bool) (target intent : Option Text) (confidence : Confidence) :
    GraphNode :=
  if blocked then .respond
  else
    let key := (either target (either intent (some "chitchat".toList))).getD []
    let dest := (targetByKey key).getD .chitchat
    if dest = .rag ∧ confidence.lt policy.confidenceRagMin then .supervisor else dest

/-! What the policy ensures. -/

def Aligned (decision : RouteDecision) : Prop := decision.target = intentToTarget decision.intent

variable {policy} {text : Text} {decision : RouteDecision}

private theorem finalizeRoute_cases (decision : RouteDecision) :
    finalizeRoute decision = decision ∨
      decision.confidence.le (.number 0) = true ∧
        finalizeRoute decision = { decision with confidence := .number 1 } := by
  unfold finalizeRoute
  split_ifs with low
  · exact Or.inr ⟨low,rfl⟩
  · exact Or.inl rfl

@[simp] theorem finalizeRoute_intent (decision : RouteDecision) :
    (finalizeRoute decision).intent = decision.intent := by
  rcases finalizeRoute_cases decision with same | ⟨_,same⟩ <;> rw [same]

@[simp] theorem finalizeRoute_target (decision : RouteDecision) :
    (finalizeRoute decision).target = decision.target := by
  rcases finalizeRoute_cases decision with same | ⟨_,same⟩ <;> rw [same]

@[simp] theorem finalizeRoute_orderNo (decision : RouteDecision) :
    (finalizeRoute decision).orderNo = decision.orderNo := by
  rcases finalizeRoute_cases decision with same | ⟨_,same⟩ <;> rw [same]

@[simp] theorem aligned_finalizeRoute : Aligned (finalizeRoute decision) ↔ Aligned decision := by
  simp [Aligned]

theorem aligned_decisionOf (intent : Intent) (reason : String) (confidence : Confidence)
    (orderNo courseQuery : Option Text) (needsClarification : Bool) (question : Option Text) :
    Aligned (decisionOf intent reason confidence orderNo courseQuery needsClarification question) := by
  unfold decisionOf
  rw [aligned_finalizeRoute]
  rfl

/-- The default confidence is one and never falls below a threshold that a smaller
confidence has passed. -/
theorem le_finalizeRoute {least : Confidence} (enough : least.le decision.confidence = true) :
    least.le (finalizeRoute decision).confidence = true := by
  rcases finalizeRoute_cases decision with same | ⟨low,same⟩
  · rwa [same]
  · rw [same]
    cases least with
    | nan => simp [Confidence.le] at enough
    | number bound =>
      cases given : decision.confidence with
      | nan => simp [given,Confidence.le] at low
      | number value =>
        simp only [given,Confidence.le,decide_eq_true_eq] at enough low ⊢
        exact (enough.trans low).trans (by norm_num)

private theorem aligned_applyOrderSignal (aligned : Aligned decision) :
    Aligned (applyOrderSignal policy text decision) := by
  unfold applyOrderSignal
  split_ifs
  · exact aligned
  · exact aligned
  · exact aligned
  · apply aligned_decisionOf
  · apply aligned_decisionOf
  · exact aligned

private theorem applyOrderSignal_signal (signal : queryHasOrderSignal text = true) :
    passesOrderSignal (applyOrderSignal policy text decision).intent = true := by
  unfold applyOrderSignal
  split_ifs with passes
  · exact passes
  · exact passes
  · exact passes
  · simp [decisionOf,passesOrderSignal]
  · simp [decisionOf,passesOrderSignal]

private theorem aligned_applyLowConfidence (aligned : Aligned decision) :
    Aligned (applyLowConfidence policy decision) := by
  unfold applyLowConfidence
  split_ifs
  · exact aligned
  · exact aligned
  · apply aligned_decisionOf

private theorem applyLowConfidence_passes (passes : passesOrderSignal decision.intent = true) :
    passesOrderSignal (applyLowConfidence policy decision).intent = true := by
  unfold applyLowConfidence
  split_ifs
  · exact passes
  · exact passes
  · simp [decisionOf,passesOrderSignal]

private theorem applyLowConfidence_course
    (course : (applyLowConfidence policy decision).intent = .courseConsult) :
    policy.confidenceRagMin.le (applyLowConfidence policy decision).confidence = true := by
  unfold applyLowConfidence at course ⊢
  split_ifs at course ⊢ with other enough
  · exact absurd course other
  · exact enough
  · simp [decisionOf] at course

private theorem aligned_downgrade (aligned : Aligned decision) :
    Aligned (downgradeMissingOrder policy decision) := by
  unfold downgradeMissingOrder
  split_ifs
  · exact aligned
  · apply aligned_decisionOf

private theorem downgrade_passes (passes : passesOrderSignal decision.intent = true) :
    passesOrderSignal (downgradeMissingOrder policy decision).intent = true := by
  unfold downgradeMissingOrder
  split_ifs
  · exact passes
  · simp [decisionOf,passesOrderSignal]

private theorem downgrade_order (order : (downgradeMissingOrder policy decision).intent = .order) :
    present (downgradeMissingOrder policy decision).orderNo = true := by
  unfold downgradeMissingOrder at order ⊢
  split_ifs at order ⊢ with kept
  · exact kept.resolve_left (not_not.mpr order)
  · simp [decisionOf] at order

private theorem downgrade_course (course : (downgradeMissingOrder policy decision).intent = .courseConsult) :
    downgradeMissingOrder policy decision = decision := by
  unfold downgradeMissingOrder at course ⊢
  split_ifs at course ⊢ with kept
  · rfl
  · simp [decisionOf] at course

/-- What holds of a decision that leaves the recognition. -/
structure Routed (policy : RoutingPolicy) (text : Text) (decision : RouteDecision) : Prop where
  target : decision.target = intentToTarget decision.intent
  order : decision.intent = .order → present decision.orderNo = true
  course : decision.intent = .courseConsult →
    policy.confidenceRagMin.le decision.confidence = true ∧ queryHasOrderSignal text = false
  signal : queryHasOrderSignal text = true →
    decision.intent ≠ .courseConsult ∧ decision.intent ≠ .chitchat
  next : queryHasOrderSignal text = true → ∀ blocked,
    nextAfterRouter policy blocked (some decision.target.name) (some decision.intent.name)
        decision.confidence ≠ .rag ∧
      nextAfterRouter policy blocked (some decision.target.name) (some decision.intent.name)
        decision.confidence ≠ .chitchat

theorem next_of_target {target : RouteTarget} (apart : target ≠ .rag) (intent : Option Text)
    (confidence : Confidence) : nextAfterRouter policy false (some target.name) intent confidence =
      (targetByKey target.name).getD .chitchat := by
  have named : present (some target.name) = true := by cases target <;> decide
  have dest : (targetByKey target.name).getD .chitchat ≠ .rag := by
    cases target with
    | rag => exact absurd rfl apart
    | tool => decide
    | handoff => decide
    | chitchat => decide
    | supervisor => decide
  simp [nextAfterRouter,either,named,dest]

/-- An aligned decision with an intent that passes the order signal goes neither to the
course node nor to small talk. -/
theorem next_of_passes (aligned : Aligned decision)
    (passes : passesOrderSignal decision.intent = true) (blocked : Bool) :
    nextAfterRouter policy blocked (some decision.target.name) (some decision.intent.name)
        decision.confidence ≠ .rag ∧
      nextAfterRouter policy blocked (some decision.target.name) (some decision.intent.name)
        decision.confidence ≠ .chitchat := by
  cases blocked with
  | true => simp [nextAfterRouter]
  | false =>
    unfold Aligned at aligned
    have apart : decision.target ≠ .rag := by
      rw [aligned]
      cases which : decision.intent with
      | courseConsult => simp [which,passesOrderSignal] at passes
      | _ => simp [intentToTarget]
    rw [next_of_target apart,aligned]
    cases which : decision.intent with
    | courseConsult => simp [which,passesOrderSignal] at passes
    | chitchat => simp [which,passesOrderSignal] at passes
    | order => decide
    | mixed => decide
    | ambiguous => decide
    | handoff => decide

theorem finalize_routed (aligned : Aligned decision) :
    Routed policy text (finalize policy text decision) := by
  have confident : Aligned (applyLowConfidence policy (applyOrderSignal policy text decision)) :=
    aligned_applyLowConfidence (aligned_applyOrderSignal aligned)
  have target : Aligned (finalize policy text decision) :=
    aligned_finalizeRoute.mpr (aligned_downgrade confident)
  have passes : queryHasOrderSignal text = true →
      passesOrderSignal (finalize policy text decision).intent = true := by
    intro signal
    rw [finalize,finalizeRoute_intent]
    exact downgrade_passes (applyLowConfidence_passes (applyOrderSignal_signal signal))
  refine ⟨target,?_,?_,?_,?_⟩
  · intro order
    rw [finalize,finalizeRoute_intent] at order
    rw [finalize,finalizeRoute_orderNo]
    exact downgrade_order order
  · intro course
    have unsignalled : queryHasOrderSignal text = false := by
      by_contra signal
      have both := passes (by simpa using signal)
      rw [course] at both
      cases both
    rw [finalize,finalizeRoute_intent] at course
    have same := downgrade_course course
    rw [same] at course
    refine ⟨le_finalizeRoute ?_,unsignalled⟩
    rw [same]
    exact applyLowConfidence_course course
  · intro signal
    have both := passes signal
    constructor
    · intro course
      rw [course] at both
      cases both
    · intro small
      rw [small] at both
      cases both
  · exact fun signal blocked => next_of_passes target (passes signal) blocked

end CustomerService.Routing
