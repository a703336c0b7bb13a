import CustomerService.ExpansionStability
import CustomerService.RespondTurn
import CustomerService.Supervisor

/-! The graph of a turn: its state, the update each node returns, and the edges. Every answer
from outside is a function of what is asked there. -/
namespace CustomerService.ChatGraph
open Text OrderAccess OrderReport ToolCache Routing Supervisor
open LongTermMemory (UserMemory SaveArgs orNone usableCourseName)
open OrderQuery (QueryArgs)
open SummaryFacts (Message newMessage freshRef)

/-! ### State -/

structure RouteState where
  intent : Text
  target : Text
  confidence : Confidence
  needsClarification : Bool
  clarificationQuestion : Option Text
  orderNo : Option Text
  courseQuery : Option Text
  blocked : Bool
  blockReason : Text
  ragUpgradedToSupervisor : Bool
  deriving DecidableEq

/-- What `model_dump` gives. -/
inductive Structured (Body : Type)
  | order (report : Report)
  | course (result : CourseConsultResult Body)

structure ResultState (Body : Type) where
  answer : Text
  structured : Option (Structured Body)
  visualization : Option Text
  ossUrl : Option Text

structure MemoryState (Body : Type) where
  lastIntent : Option Text
  lastOrderNo : Option Text
  lastCourseQuery : Option Text
  lastCourseName : Option Text
  handoffPending : Bool
  lastOrderStructured : Option (Report × ℚ)
  lastCourseStructured : Option (CourseConsultResult Body × ℚ)
  lastCourseStructuredKey : Option Text
  sessionSummary : Text

structure CSState (Body : Type) where
  query : Text
  userId : Text
  tenantId : Text
  sessionId : Text
  messages : List Message
  route : RouteState
  memory : MemoryState Body
  result : ResultState Body

/-- The fields a node returns; an absent one stays as it is. -/
structure Update (Body : Type) where
  query : Option Text := none
  messages : List SummaryFacts.Update := []
  intent : Option Text := none
  target : Option Text := none
  confidence : Option Confidence := none
  needsClarification : Option Bool := none
  clarificationQuestion : Option (Option Text) := none
  orderNo : Option (Option Text) := none
  courseQuery : Option (Option Text) := none
  blocked : Option Bool := none
  blockReason : Option Text := none
  ragUpgradedToSupervisor : Option Bool := none
  lastIntent : Option (Option Text) := none
  lastOrderNo : Option (Option Text) := none
  lastCourseQuery : Option (Option Text) := none
  lastCourseName : Option (Option Text) := none
  handoffPending : Option Bool := none
  lastOrderStructured : Option (Option (Report × ℚ)) := none
  lastCourseStructured : Option (Option (CourseConsultResult Body × ℚ)) := none
  lastCourseStructuredKey : Option (Option Text) := none
  sessionSummary : Option Text := none
  answer : Option Text := none
  structured : Option (Option (Structured Body)) := none
  visualization : Option (Option Text) := none
  ossUrl : Option (Option Text) := none

variable {Body : Type}

/-- `{**old, **new}`. -/
def Update.merge (old new : Update Body) : Update Body where
  query := new.query.or old.query
  messages := old.messages ++ new.messages
  intent := new.intent.or old.intent
  target := new.target.or old.target
  confidence := new.confidence.or old.confidence
  needsClarification := new.needsClarification.or old.needsClarification
  clarificationQuestion := new.clarificationQuestion.or old.clarificationQuestion
  orderNo := new.orderNo.or old.orderNo
  courseQuery := new.courseQuery.or old.courseQuery
  blocked := new.blocked.or old.blocked
  blockReason := new.blockReason.or old.blockReason
  ragUpgradedToSupervisor := new.ragUpgradedToSupervisor.or old.ragUpgradedToSupervisor
  lastIntent := new.lastIntent.or old.lastIntent
  lastOrderNo := new.lastOrderNo.or old.lastOrderNo
  lastCourseQuery := new.lastCourseQuery.or old.lastCourseQuery
  lastCourseName := new.lastCourseName.or old.lastCourseName
  handoffPending := new.handoffPending.or old.handoffPending
  lastOrderStructured := new.lastOrderStructured.or old.lastOrderStructured
  lastCourseStructured := new.lastCourseStructured.or old.lastCourseStructured
  lastCourseStructuredKey := new.lastCourseStructuredKey.or old.lastCourseStructuredKey
  sessionSummary := new.sessionSummary.or old.sessionSummary
  answer := new.answer.or old.answer
  structured := new.structured.or old.structured
  visualization := new.visualization.or old.visualization
  ossUrl := new.ossUrl.or old.ossUrl

/-- The channels of the checkpoint under an update; the messages of an update, where it has any,
go through `add_messages`. -/
def CSState.apply (addMessages : List Message → List SummaryFacts.Update → List Message)
    (state : CSState Body) (update : Update Body) : CSState Body where
  query := update.query.getD state.query
  userId := state.userId
  tenantId := state.tenantId
  sessionId := state.sessionId
  messages := if update.messages = [] then state.messages
    else addMessages state.messages update.messages
  route :=
    { intent := update.intent.getD state.route.intent
      target := update.target.getD state.route.target
      confidence := update.confidence.getD state.route.confidence
      needsClarification := update.needsClarification.getD state.route.needsClarification
      clarificationQuestion := update.clarificationQuestion.getD state.route.clarificationQuestion
      orderNo := update.orderNo.getD state.route.orderNo
      courseQuery := update.courseQuery.getD state.route.courseQuery
      blocked := update.blocked.getD state.route.blocked
      blockReason := update.blockReason.getD state.route.blockReason
      ragUpgradedToSupervisor :=
        update.ragUpgradedToSupervisor.getD state.route.ragUpgradedToSupervisor }
  memory :=
    { lastIntent := update.lastIntent.getD state.memory.lastIntent
      lastOrderNo := update.lastOrderNo.getD state.memory.lastOrderNo
      lastCourseQuery := update.lastCourseQuery.getD state.memory.lastCourseQuery
      lastCourseName := update.lastCourseName.getD state.memory.lastCourseName
      handoffPending := update.handoffPending.getD state.memory.handoffPending
      lastOrderStructured := update.lastOrderStructured.getD state.memory.lastOrderStructured
      lastCourseStructured := update.lastCourseStructured.getD state.memory.lastCourseStructured
      lastCourseStructuredKey :=
        update.lastCourseStructuredKey.getD state.memory.lastCourseStructuredKey
      sessionSummary := update.sessionSummary.getD state.memory.sessionSummary }
  result :=
    { answer := update.answer.getD state.result.answer
      structured := update.structured.getD state.result.structured
      visualization := update.visualization.getD state.result.visualization
      ossUrl := update.ossUrl.getD state.result.ossUrl }

/-- `reset_turn_fields`: `ROUTE_TURN_RESET` and `RESULT_TURN_RESET`. -/
def resetTurnFields : Update Body :=
  { blocked := some false
    blockReason := some []
    intent := some []
    target := some []
    confidence := some (.number 0)
    needsClarification := some false
    clarificationQuestion := some none
    orderNo := some none
    courseQuery := some none
    ragUpgradedToSupervisor := some false
    answer := some []
    structured := some none
    visualization := some none
    ossUrl := some none }

/-! ### Views -/

structure IdentityView where
  query : Text
  userId : Text
  tenantId : Text
  sessionId : Text

def identityView (defaultTenant : Text) (state : CSState Body) : IdentityView where
  query := state.query
  userId := orElse (some (strip state.userId)) "anonymous".toList
  tenantId := orElse (some (strip state.tenantId)) defaultTenant
  sessionId := strip state.sessionId

def routeView (state : CSState Body) : RouteState :=
  { state.route with
    orderNo := orNone state.route.orderNo
    courseQuery := orNone state.route.courseQuery }

def memoryView (state : CSState Body) : MemoryState Body :=
  { state.memory with
    lastIntent := orNone state.memory.lastIntent
    lastOrderNo := orNone state.memory.lastOrderNo
    lastCourseQuery := orNone state.memory.lastCourseQuery
    lastCourseName := orNone state.memory.lastCourseName
    lastCourseStructuredKey := orNone state.memory.lastCourseStructuredKey }

/-- What `session_tool_cache_scope` gives the tools. -/
def sessionToolCache (state : CSState Body) : SessionToolCacheState Body where
  lastOrderStructured := state.memory.lastOrderStructured
  lastCourseStructured := state.memory.lastCourseStructured
  lastCourseStructuredKey := orNone (state.memory.lastCourseStructuredKey.map strip)

/-! ### Outside -/

structure CourseAsk where
  query : Text
  tenantId : Text
  history : List Message
  lastCourseQuery : Option Text
  lastCourseName : Option Text
  sessionSummary : Text

/-- Where `can_access_order` is asked. -/
inductive Site
  | router
  | supervisor
  | profile

/-- The settings, the model, the database, the profile and the caches, as a turn finds them. -/
structure Outside (Score Body : Type) where
  defaultTenant : Text
  containsInjection : Text → Bool
  recentMessages : List Message → List Message
  llmEnabled : Bool
  reply : Text → List Message → Text → IntentRecognition.Reply
  loadUserMemory : Text → Text → Except Abort UserMemory
  saveUserMemory : Text → Text → SaveArgs → Except Abort Unit
  canAccessOrder : Site → Text → Text → Text → Bool
  tools : Tools Body
  streamCourseAnswer : SessionToolCacheState Body → CourseAsk →
    Except Abort (Text × CourseConsultResult Body)
  compression : Text → SummaryFacts.Services Score
  settings : SummaryFacts.Settings Score
  summarize : List Message → Text → Except Abort (List Message → Text → Text)
  addMessages : List Message → List SummaryFacts.Update → List Message

/-! ### Nodes -/

structure SecurityVerdict where
  allowed : Bool
  reason : Text
  sanitizedText : Text

def MAX_INPUT_CHARS : Nat := 4000

def inspectInput (containsInjection : Text → Bool) (text : Text) : SecurityVerdict :=
  let raw := strip text
  if raw = [] then ⟨false,"输入为空".toList,[]⟩
  else if MAX_INPUT_CHARS < raw.length then
    ⟨false,"输入超过 4000 字符限制".toList,raw.take MAX_INPUT_CHARS⟩
  else if containsInjection raw then ⟨false,"检测到提示注入风险".toList,raw⟩
  else ⟨true,[],(OutputFilter.maskPii raw).2⟩

def BUSINESS_INTENTS : List Text :=
  ["course_consult".toList,"order".toList,"mixed".toList,"handoff".toList]

def slotUpdatesAfterTurn (intent : Text) (orderNo courseQuery courseName : Option Text) :
    Update Body :=
  { handoffPending := some (decide (intent = "handoff".toList))
    lastIntent := if BUSINESS_INTENTS.contains intent then some (some intent) else none
    lastOrderNo := (orNone orderNo).map some
    lastCourseQuery := (orNone courseQuery).map some
    lastCourseName := (usableCourseName courseName).map some }

def CacheUpdates.toUpdate (updates : CacheUpdates Body) : Update Body :=
  { lastOrderStructured := updates.order.map some
    lastCourseStructured := updates.course.map (fun cached => some cached.1)
    lastCourseStructuredKey := updates.course.map (fun cached => some cached.2) }

variable {Score : Type} (outside : Outside Score Body)

/-- `load_user_memory`, which knows nothing of a user that is not signed in. -/
def profileOf (tenantId userId : Text) : Except Abort UserMemory :=
  if isPersistentUser userId = false then .ok LongTermMemory.blank
  else outside.loadUserMemory tenantId userId

/-- The slots of the session, with those of the profile where they are empty. -/
def hydrateSlots (state : CSState Body) : Except Abort (MemoryState Body) := do
  let identity := identityView outside.defaultTenant state
  let profile ← profileOf outside identity.tenantId identity.userId
  let slots := memoryView state
  let lastOrderNo := either slots.lastOrderNo profile.lastOrderNo
  let barred := isPersistentUser identity.userId && present lastOrderNo &&
    !outside.canAccessOrder .router (lastOrderNo.getD []) identity.tenantId identity.userId
  return {
    slots with
    lastIntent := either slots.lastIntent profile.lastIntent
    lastOrderNo := if barred then none else lastOrderNo
    lastCourseQuery := either slots.lastCourseQuery profile.lastCourseQuery
    lastCourseName := either slots.lastCourseName profile.lastCourseName
    handoffPending := slots.handoffPending || profile.handoffPending }

/-- What `persist_from_state` hands to `save_user_memory`. -/
def persistArgs (identity : IdentityView) (route : RouteState) (memory : MemoryState Body) :
    SaveArgs where
  intent := orNone (some route.intent)
  orderNo :=
    let orderNo := either route.orderNo memory.lastOrderNo
    if present orderNo && isPersistentUser identity.userId &&
        !outside.canAccessOrder .profile (orderNo.getD []) identity.tenantId identity.userId then none
    else orderNo
  courseQuery := either route.courseQuery memory.lastCourseQuery
  courseName := memory.lastCourseName
  handoffPending := if route.intent = "handoff".toList then some memory.handoffPending else none

/-- `_with_memory`: the profile is saved from the state with the updates. -/
def withMemory (state : CSState Body) (updates : Update Body) : Except Abort (Update Body) := do
  let merged := state.apply (fun messages _ => messages) updates
  let identity := identityView "demo".toList merged
  if isPersistentUser identity.userId then
    outside.saveUserMemory identity.tenantId identity.userId
      (persistArgs outside identity (routeView merged) (memoryView merged))
  return updates

def handoffState (answer : Text) : Update Body :=
  Update.merge { intent := some "handoff".toList, answer := some answer }
    (slotUpdatesAfterTurn "handoff".toList none none none)

def securityNode (state : CSState Body) : Update Body :=
  let verdict := inspectInput outside.containsInjection
    (identityView outside.defaultTenant state).query
  if verdict.allowed then
    { (resetTurnFields : Update Body) with
      query := some verdict.sanitizedText
      messages :=
        [.message (newMessage .human verdict.sanitizedText (freshRef state.messages))] }
  else
    { (resetTurnFields : Update Body) with
      blocked := some true
      blockReason := some verdict.reason
      answer := some ("请求已被安全中间件拦截：".toList ++ verdict.reason)
      intent := some "chitchat".toList }

def routerNode (state : CSState Body) : Except Abort (Update Body) :=
  if (routeView state).blocked then .ok {}
  else do
    let identity := identityView outside.defaultTenant state
    let memory := memoryView state
    let history := outside.recentMessages state.messages
    let slots ← hydrateSlots outside state
    match IntentRecognition.recognizeIntent outside.llmEnabled
        (outside.reply identity.query history memory.sessionSummary) identity.query history
        ⟨slots.lastIntent,slots.lastOrderNo,slots.lastCourseQuery,slots.lastCourseName⟩ with
    | .error _ => .error .quotaExceeded
    | .ok decision =>
      return {
        intent := some decision.intent.name
        target := some decision.target.name
        confidence := some decision.confidence
        needsClarification := some decision.needsClarification
        clarificationQuestion := some decision.clarificationQuestion
        orderNo := some decision.orderNo
        courseQuery := some decision.courseQuery
        lastIntent := some slots.lastIntent
        lastOrderNo := some slots.lastOrderNo
        lastCourseQuery := some slots.lastCourseQuery
        lastCourseName := some slots.lastCourseName
        handoffPending := some slots.handoffPending }

/-- `decide_rag_upgrade` and `rag_upgrade_updates`. -/
def ragUpgrade (query : Text) (orderNo : Option Text) (courseQuery : Text) : Option (Update Body) :=
  if queryHasOrderSignal query then
    some
      { target := some RouteTarget.supervisor.name
        intent := some Intent.mixed.name
        needsClarification := some false
        clarificationQuestion := some none
        orderNo := some (either orderNo (extractQueryOrderNo query))
        courseQuery := some (some courseQuery)
        ragUpgradedToSupervisor := some true }
  else none

/-- The question of the course chain, expanded by the history and the slots. -/
def ragQuery (state : CSState Body) : Text :=
  let memory := memoryView state
  QueryExpansion.expandQuery
    (orElse (routeView state).courseQuery (identityView outside.defaultTenant state).query)
    (outside.recentMessages state.messages) memory.lastCourseQuery memory.lastCourseName

def courseAsk (state : CSState Body) : CourseAsk :=
  let memory := memoryView state
  ⟨ragQuery outside state,(identityView outside.defaultTenant state).tenantId,
    outside.recentMessages state.messages,memory.lastCourseQuery,memory.lastCourseName,
    memory.sessionSummary⟩

theorem ragQuery_ragText (state : CSState Body) : ragQuery outside state =
    QueryExpansion.ragText (routeView state).courseQuery (identityView outside.defaultTenant state).query
      (outside.recentMessages state.messages) (memoryView state).lastCourseQuery
      (memoryView state).lastCourseName := rfl

theorem courseAsk_preparedText (state : CSState Body) :
    QueryExpansion.expandQuery (courseAsk outside state).query (courseAsk outside state).history
        (courseAsk outside state).lastCourseQuery (courseAsk outside state).lastCourseName =
      QueryExpansion.preparedText (routeView state).courseQuery
        (identityView outside.defaultTenant state).query (outside.recentMessages state.messages)
        (memoryView state).lastCourseQuery (memoryView state).lastCourseName := rfl

def ragUpdates (query answer : Text) (result : CourseConsultResult Body) : Update Body :=
  let updates : Update Body := Update.merge
    { structured := some (some (.course result)), answer := some answer }
    (slotUpdatesAfterTurn "course_consult".toList none (some query) (some result.courseName))
  let key := normalizeCourseCacheKey outside.tools.lower query none
  updates.merge (CacheUpdates.toUpdate
    { course := (sessionUpdatesForCourse result outside.tools.now).map (fun cached => (cached,key)) })

def ragNode (state : CSState Body) : Except Abort (Update Body) :=
  match ragUpgrade (identityView outside.defaultTenant state).query (routeView state).orderNo
      (ragQuery outside state) with
  | some upgrade => .ok upgrade
  | none => do
    let streamed ← outside.streamCourseAnswer (sessionToolCache state) (courseAsk outside state)
    withMemory outside state (ragUpdates outside (ragQuery outside state) streamed.1 streamed.2)

def toolArgs (state : CSState Body) : QueryArgs :=
  let identity := identityView outside.defaultTenant state
  ⟨identity.query,(routeView state).orderNo,identity.tenantId,identity.userId,
    (memoryView state).lastOrderNo,true,false⟩

def toolUpdates (report : Report) : Update Body :=
  let updates : Update Body :=
    { structured := some (some (.order report))
      visualization := some (some report.visualization)
      ossUrl := some report.ossUrl
      answer := some (formatOrderAnswer report)
      orderNo := some (some report.orderNo)
      lastOrderStructured := (sessionUpdatesForOrder report outside.tools.now).map some }
  updates.merge (slotUpdatesAfterTurn "order".toList (some report.orderNo) none none)

def toolNode (state : CSState Body) : Except Abort (Update Body) :=
  match outside.tools.queryOrder (sessionToolCache state) (toolArgs outside state) with
  | .error (.escalated message) =>
    withMemory outside state (handoffState (orElse message (buildHandoffAnswer true none)))
  | .error (.timeoutError message) =>
    .ok { answer := some message, intent := some "order".toList }
  | .error (.valueError message) =>
    .ok { answer := some message, intent := some "order".toList }
  | .error (.raises abort) => .error abort
  | .ok report => withMemory outside state (toolUpdates outside report)

def supervisorArgs (state : CSState Body) : SupervisorArgs Body :=
  let identity := identityView outside.defaultTenant state
  let route := routeView state
  let memory := memoryView state
  { query := identity.query
    userId := identity.userId
    tenantId := identity.tenantId
    history := outside.recentMessages state.messages
    orderNo := either route.orderNo memory.lastOrderNo
    courseQuery := either route.courseQuery memory.lastCourseQuery
    lastCourseName := memory.lastCourseName
    sessionSummary := memory.sessionSummary
    sessionCache :=
      ⟨memory.lastOrderStructured,memory.lastCourseStructured,memory.lastCourseStructuredKey⟩
    intent := route.intent
    needsClarification := route.needsClarification
    clarificationQuestion := route.clarificationQuestion }

def AUTO_HANDOFF : List Text :=
  ["transient_exhausted".toList,"react_limit".toList,"tool-escalation".toList]

/-- The number that goes into the session after a plan or an answer of the model. -/
def boundOrderNo (state : CSState Body) (decision : SupervisorDecision Body) : Option Text :=
  let identity := identityView outside.defaultTenant state
  let number := either decision.boundOrderNo
    (either (routeView state).orderNo (memoryView state).lastOrderNo)
  if present number && !outside.canAccessOrder .supervisor (number.getD []) identity.tenantId
      identity.userId then none
  else number

def supervisorUpdates (state : CSState Body) (decision : SupervisorDecision Body) : Update Body :=
  let updates : Update Body := Update.merge
    { answer := some (decision.answer.getD []), intent := some decision.finalIntent.name }
    (CacheUpdates.toUpdate decision.cacheStateUpdates)
  updates.merge (slotUpdatesAfterTurn decision.finalIntent.name (boundOrderNo outside state decision)
    (either decision.boundCourseQuery
      (either (routeView state).courseQuery (memoryView state).lastCourseQuery)) none)

def supervisorNode (state : CSState Body) : Except Abort (Update Body) := do
  let decision ← runSupervisor outside.tools (sessionToolCache state) (supervisorArgs outside state)
  if decision.finalIntent = .handoff ∧ AUTO_HANDOFF.contains decision.reason = true then
    withMemory outside state
      (handoffState (orElse decision.answer (buildHandoffAnswer true (some decision.reason))))
  else if decision.action = .askUser then
    return {
      answer := some (orElse decision.answer (decision.clarificationQuestion.getD []))
      intent := some decision.finalIntent.name }
  else withMemory outside state (supervisorUpdates outside state decision)

def chitchatNode : Update Body :=
  { answer := some "我是课程与订单智能客服，可以咨询课程大纲（例如「Python入门课包含哪些内容？」），或查询订单进度（例如「查询订单#20251114001的退款进度」）。".toList }

def handoffNode (state : CSState Body) : Except Abort (Update Body) :=
  withMemory outside state (handoffState (buildHandoffAnswer false none))

def respondState (state : CSState Body) : SummaryFacts.CSState where
  answer := some state.result.answer
  blocked := state.route.blocked
  messages := some state.messages
  lastIntent := state.memory.lastIntent
  lastOrderNo := state.memory.lastOrderNo
  lastCourseName := state.memory.lastCourseName
  sessionSummary := some state.memory.sessionSummary

section Respond

variable [LinearOrder Score] [Zero Score]

/-- `finalize_respond_turn` of the state; the summary may call the model, which may end the turn. -/
def finalizeTurn (state : CSState Body) : Except Abort SummaryFacts.RespondTurnUpdate := do
  let summarize ← outside.summarize state.messages state.memory.sessionSummary
  return SummaryFacts.finalizeRespondTurn (outside.compression state.query) outside.settings summarize
    (respondState state)

def respondNode (state : CSState Body) : Except Abort (Update Body) := do
  let update ← finalizeTurn outside state
  return {
    answer := some update.answer
    messages := update.messageUpdates
    sessionSummary := some update.sessionSummary }

inductive Node
  | security
  | router
  | rag
  | tool
  | supervisor
  | chitchat
  | handoff
  | respond
  deriving DecidableEq

def runNode (state : CSState Body) : Node → Except Abort (Update Body)
  | .security => .ok (securityNode outside state)
  | .router => routerNode outside state
  | .rag => ragNode outside state
  | .tool => toolNode outside state
  | .supervisor => supervisorNode outside state
  | .chitchat => .ok chitchatNode
  | .handoff => handoffNode outside state
  | .respond => respondNode outside state

end Respond

/-! ### Edges -/

def GraphNode.node : GraphNode → Node
  | .rag => .rag
  | .tool => .tool
  | .supervisor => .supervisor
  | .handoff => .handoff
  | .chitchat => .chitchat
  | .respond => .respond

def afterRouter (state : CSState Body) : Node :=
  let route := routeView state
  GraphNode.node
    (nextAfterRouter defaultPolicy route.blocked (some route.target) (some route.intent) route.confidence)

def afterRag (state : CSState Body) : Node :=
  let route := routeView state
  if route.ragUpgradedToSupervisor ∨ route.target = RouteTarget.supervisor.name then .supervisor
  else .respond

def successor (state : CSState Body) : Node → Option Node
  | .security => some .router
  | .router => some (afterRouter state)
  | .rag => some (afterRag state)
  | .tool | .supervisor | .chitchat | .handoff => some .respond
  | .respond => none

def Node.rank : Node → Nat
  | .security => 5
  | .router => 4
  | .rag => 3
  | .tool | .supervisor | .chitchat | .handoff => 2
  | .respond => 1

private theorem rank_node (dest : GraphNode) : (GraphNode.node dest).rank < Node.router.rank := by
  cases dest <;> decide

theorem successor_rank {state : CSState Body} {node next : Node}
    (follows : successor state node = some next) : next.rank < node.rank := by
  cases node with
  | respond => cases follows
  | router =>
    obtain rfl := Option.some.inj follows
    exact rank_node _
  | rag =>
    obtain rfl := Option.some.inj follows
    unfold afterRag
    dsimp only
    split <;> decide
  | _ =>
    obtain rfl := Option.some.inj follows
    decide

end CustomerService.ChatGraph
