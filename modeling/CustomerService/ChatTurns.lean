import CustomerService.ChatGraph
import CustomerService.NodeGraph

/-! A turn: the inputs go into the checkpoint of the thread, the graph walks from the security
node on, and the stream turns what each node returns into events for the client. -/
namespace CustomerService.ChatGraph
open Text OrderAccess OrderReport ToolCache Routing Supervisor NodeGraph
open SummaryFacts (Message Item decodeMessages encodeMessages llmUnavailableAnswer)

variable {Score Body : Type}

/-! ### Inputs -/

/-- What identifies a turn; the message is that of the client. -/
structure ChatTurn where
  message : Text
  tenant : Text
  uid : Text
  sid : Text
  sid_given : strip sid ≠ []

private theorem sid_given_init {freshSid : Text} (fresh : strip freshSid ≠ []) (sessionId : Option Text) :
    strip (orElse (some (strip (sessionId.getD []))) freshSid) ≠ [] := by
  unfold orElse
  split
  · exact fresh
  · exact fresh
  · rename_i given blank same
    obtain rfl := Option.some.inj same
    rw [strip_of_tight (tight_strip _)]
    exact blank

/-- `ChatTurn.__init__`, with the name a session without one gets. -/
def ChatTurn.init (defaultTenant freshSid : Text) (fresh : strip freshSid ≠ []) (message userId : Text)
    (tenantId sessionId : Option Text) : ChatTurn where
  message := message
  tenant := orElse tenantId defaultTenant
  uid := orElse (some (strip userId)) "anonymous".toList
  sid := orElse (some (strip (sessionId.getD []))) freshSid
  sid_given := sid_given_init fresh sessionId

structure Archived (Body : Type) where
  messages : List Item
  memory : MemoryState Body

variable (Body) in
def blankState : CSState Body where
  query := []
  userId := []
  tenantId := []
  sessionId := []
  messages := []
  route := ⟨[],[],.number 0,false,none,none,none,false,[],false⟩
  memory := ⟨none,none,none,none,false,none,none,none,[]⟩
  result := ⟨[],none,none,none⟩

/-- `archive_to_graph_inputs`. -/
def archiveToGraphInputs (archived : Archived Body) : Update Body :=
  let memory := memoryView { blankState Body with memory := archived.memory }
  { messages := (decodeMessages (some archived.messages)).map .message
    lastIntent := some memory.lastIntent
    lastOrderNo := some memory.lastOrderNo
    lastCourseQuery := some memory.lastCourseQuery
    lastCourseName := some memory.lastCourseName
    handoffPending := some memory.handoffPending
    lastOrderStructured := some memory.lastOrderStructured
    lastCourseStructured := some memory.lastCourseStructured
    lastCourseStructuredKey := some memory.lastCourseStructuredKey
    sessionSummary := some memory.sessionSummary }

/-- The messages as objects of a turn; a checkpoint keeps what they say and not which they are. -/
def loaded (messages : List Message) : List Message :=
  messages.zipIdx.map (fun item => { item.1 with ref := item.2, copy := false })

/-- The checkpoint with the inputs of a turn, which come with the archive when it was read. -/
def begin (outside : Outside Score Body) (turn : ChatTurn) (archived : Option (Archived Body))
    (checkpoint : CSState Body) : CSState Body :=
  let hydrated := checkpoint.apply outside.addMessages (archived.elim {} archiveToGraphInputs)
  { hydrated with
    messages := loaded hydrated.messages
    query := turn.message
    userId := turn.uid
    tenantId := turn.tenant
    sessionId := turn.sid }

/-! ### Events -/

/-- `NODE_STATUS`. -/
def Node.status : Node → Text
  | .security => "正在做安全检查…".toList
  | .router => "正在识别意图…".toList
  | .rag => "正在检索课程知识库…".toList
  | .tool => "正在查询订单…".toList
  | .supervisor => "正在综合处理问题…".toList
  | .chitchat => "正在整理回复…".toList
  | .handoff => "正在转接人工…".toList
  | .respond => "正在生成回复…".toList

structure ChatResponse (Body : Type) where
  answer : Text
  intent : Text
  blocked : Bool
  structured : Option (Structured Body)
  visualization : Option Text
  ossUrl : Option Text
  sessionId : Text

/-- What the client is sent besides the tokens of a streamed answer. -/
inductive Event (Body : Type)
  | opened (turn : ChatTurn)
  | status (node : Node) (message : Text)
  | answer (answer intent : Text) (blocked : Bool)
  | done (response : ChatResponse Body)

def Event.answerText : Event Body → Option Text
  | .answer text _ _ => some text
  | .done response => some response.answer
  | _ => none

/-- `events_from_updates` of one frame, where `accumulated` has the frame in it. -/
def eventsFromUpdates (accumulated : Update Body) (node : Node) (update : Update Body) :
    List (Event Body) :=
  .status node node.status ::
    match update.answer with
    | none => []
    | some answer =>
      if answer = [] then []
      else [.answer answer (orElse accumulated.intent "chitchat".toList) (accumulated.blocked.getD false)]

def quotaAnswer : Text := "今日大模型额度已用完，请明日再试或联系管理员。".toList

/-- `_quota_done` and `_unavailable_done`. -/
def earlyDone (answer sid : Text) : ChatResponse Body :=
  ⟨answer,"chitchat".toList,false,none,none,none,sid⟩

def donePayload (accumulated : Update Body) (sid : Text) : ChatResponse Body :=
  let answer := accumulated.answer.getD []
  let blocked := accumulated.blocked.getD false
  { answer := if strip answer = [] ∧ blocked = false then llmUnavailableAnswer else answer
    intent := orElse accumulated.intent "chitchat".toList
    blocked := blocked
    structured := accumulated.structured.getD none
    visualization := accumulated.visualization.getD none
    ossUrl := accumulated.ossUrl.getD none
    sessionId := sid }

abbrev NodeVisit (Body : Type) := Visit Node (CSState Body) (Update Body) Abort

/-- The last event of a turn that ends early, if it has one. -/
def abortEvents (sid : Text) : Abort → List (Event Body)
  | .quotaExceeded => [.done (earlyDone quotaAnswer sid)]
  | .circuitOpen => [.done (earlyDone llmUnavailableAnswer sid)]
  | .cancelled => []
  | .raised => []

/-- The events of the visits still to come and of the end of the turn. -/
def streamEvents (sid : Text) : Update Body → List (NodeVisit Body) → List (Event Body)
  | accumulated,[] => [.done (donePayload accumulated sid)]
  | accumulated,visit :: rest =>
    match visit.result with
    | .error abort => abortEvents sid abort
    | .ok update =>
      eventsFromUpdates (accumulated.merge update) visit.node update ++
        streamEvents sid (accumulated.merge update) rest

/-! ### What a node returns -/

theorem bind_ok {First Second : Type} {first : Except Abort First} {rest : First → Except Abort Second}
    {result : Second} (ran : (first >>= rest) = .ok result) :
    ∃ value, first = .ok value ∧ rest value = .ok result := by
  cases first with
  | error abort => cases ran
  | ok value => exact ⟨value,rfl,ran⟩

section
variable {outside : Outside Score Body} {state : CSState Body} {update updates : Update Body}

theorem withMemory_ok (ran : withMemory outside state updates = .ok update) : update = updates := by
  unfold withMemory at ran
  dsimp only at ran
  split at ran
  · obtain ⟨_,_,same⟩ := bind_ok ran
    exact (Except.ok.inj same).symm
  · exact (Except.ok.inj ran).symm

theorem ragNode_cases (ran : ragNode outside state = .ok update) :
    (queryHasOrderSignal (identityView outside.defaultTenant state).query = true ∧
      ragUpgrade (identityView outside.defaultTenant state).query (routeView state).orderNo
        (ragQuery outside state) = some update) ∨
    (queryHasOrderSignal (identityView outside.defaultTenant state).query = false ∧
      ∃ answer result,
        outside.streamCourseAnswer (sessionToolCache state) (courseAsk outside state) =
          .ok (answer,result) ∧
        update = ragUpdates outside (ragQuery outside state) answer result) := by
  unfold ragNode at ran
  cases signal : queryHasOrderSignal (identityView outside.defaultTenant state).query with
  | true =>
    refine Or.inl ⟨rfl,?_⟩
    unfold ragUpgrade at ran ⊢
    rw [if_pos signal] at ran ⊢
    exact congrArg some (Except.ok.inj ran)
  | false =>
    have stays : ragUpgrade (identityView outside.defaultTenant state).query (routeView state).orderNo
        (ragQuery outside state) = (none : Option (Update Body)) := by
      simp only [ragUpgrade,signal,Bool.false_eq_true,if_false]
    rw [stays] at ran
    obtain ⟨⟨answer,result⟩,streamed,saved⟩ := bind_ok ran
    exact Or.inr ⟨rfl,answer,result,streamed,withMemory_ok saved⟩

theorem toolNode_cases (ran : toolNode outside state = .ok update) :
    (∃ message, outside.tools.queryOrder (sessionToolCache state) (toolArgs outside state) =
        .error (.escalated message) ∧
      update = handoffState (orElse message (buildHandoffAnswer true none))) ∨
    (∃ message, (outside.tools.queryOrder (sessionToolCache state) (toolArgs outside state) =
        .error (.timeoutError message) ∨
      outside.tools.queryOrder (sessionToolCache state) (toolArgs outside state) =
        .error (.valueError message)) ∧
      update = { answer := some message, intent := some "order".toList }) ∨
    ∃ report, outside.tools.queryOrder (sessionToolCache state) (toolArgs outside state) =
        .ok report ∧ update = toolUpdates outside report := by
  unfold toolNode at ran
  split at ran
  · rename_i message found
    exact Or.inl ⟨message,found,withMemory_ok ran⟩
  · rename_i message found
    exact Or.inr (Or.inl ⟨message,Or.inl found,(Except.ok.inj ran).symm⟩)
  · rename_i message found
    exact Or.inr (Or.inl ⟨message,Or.inr found,(Except.ok.inj ran).symm⟩)
  · cases ran
  · rename_i report found
    exact Or.inr (Or.inr ⟨report,found,withMemory_ok ran⟩)

theorem supervisorNode_cases (ran : supervisorNode outside state = .ok update) :
    ∃ decision, runSupervisor outside.tools (sessionToolCache state) (supervisorArgs outside state) =
        .ok decision ∧
      ((decision.finalIntent = .handoff ∧ AUTO_HANDOFF.contains decision.reason = true ∧
          update = handoffState
            (orElse decision.answer (buildHandoffAnswer true (some decision.reason)))) ∨
        (decision.action = .askUser ∧
          update =
            { answer := some (orElse decision.answer (decision.clarificationQuestion.getD []))
              intent := some decision.finalIntent.name }) ∨
        (decision.action ≠ .askUser ∧ update = supervisorUpdates outside state decision)) := by
  obtain ⟨decision,decided,rest⟩ := bind_ok ran
  refine ⟨decision,decided,?_⟩
  split at rest
  · rename_i handed
    exact Or.inl ⟨handed.1,handed.2,withMemory_ok rest⟩
  · split at rest
    · rename_i asks
      exact Or.inr (Or.inl ⟨asks,(Except.ok.inj rest).symm⟩)
    · rename_i answers
      exact Or.inr (Or.inr ⟨answers,withMemory_ok rest⟩)

/-- An update of neither the question, the messages nor the summary. -/
structure Update.Aside (update : Update Body) : Prop where
  query : update.query = none
  messages : update.messages = []
  sessionSummary : update.sessionSummary = none

theorem Update.Aside.merge (one : updates.Aside) (two : update.Aside) :
    (updates.merge update).Aside := by
  constructor
  · simp only [Update.merge,one.query,two.query,Option.or_none]
  · simp only [Update.merge,one.messages,two.messages,List.append_nil]
  · simp only [Update.merge,one.sessionSummary,two.sessionSummary,Option.or_none]

private theorem aside_slots (intent : Text) (orderNo courseQuery courseName : Option Text) :
    (slotUpdatesAfterTurn intent orderNo courseQuery courseName : Update Body).Aside := ⟨rfl,rfl,rfl⟩

private theorem aside_cache (cached : CacheUpdates Body) : (CacheUpdates.toUpdate cached).Aside :=
  ⟨rfl,rfl,rfl⟩

private theorem aside_handoff (answer : Text) : (handoffState answer : Update Body).Aside :=
  Update.Aside.merge ⟨rfl,rfl,rfl⟩ (aside_slots _ _ _ _)

private theorem aside_upgrade {query courseQuery : Text} {orderNo : Option Text}
    (upgraded : ragUpgrade query orderNo courseQuery = some update) : update.Aside := by
  unfold ragUpgrade at upgraded
  split at upgraded
  · obtain rfl := Option.some.inj upgraded
    exact ⟨rfl,rfl,rfl⟩
  · cases upgraded

theorem routerNode_cases (ran : routerNode outside state = .ok update) :
    (state.route.blocked = true ∧ update = {}) ∨
      ∃ slots, hydrateSlots outside state = .ok slots ∧ update.Aside ∧ update.answer = none ∧
        update.lastOrderNo = some slots.lastOrderNo := by
  unfold routerNode at ran
  split at ran
  · rename_i blocked
    exact Or.inl ⟨blocked,(Except.ok.inj ran).symm⟩
  · obtain ⟨slots,hydrated,rest⟩ := bind_ok ran
    refine Or.inr ⟨slots,hydrated,?_⟩
    split at rest
    · cases rest
    · obtain rfl := Except.ok.inj rest
      exact ⟨⟨rfl,rfl,rfl⟩,rfl,rfl⟩

theorem apply_aside (aside : update.Aside) :
    (state.apply outside.addMessages update).query = state.query ∧
      (state.apply outside.addMessages update).messages = state.messages ∧
      (state.apply outside.addMessages update).memory.sessionSummary = state.memory.sessionSummary := by
  simp only [CSState.apply,aside.query,aside.messages,aside.sessionSummary,Option.getD_none,if_true,
    and_self]

end

/-! ### The graph -/

section
variable [LinearOrder Score] [Zero Score]

/-- The graph, compiled; a node's update is in the checkpoint before the next node runs. -/
def graph (outside : Outside Score Body) : Graph Node (CSState Body) (Update Body) Abort where
  run := runNode outside
  apply := CSState.apply outside.addMessages
  next := successor
  rank := Node.rank
  descends := fun _ _ _ => successor_rank

theorem after_visit {outside : Outside Score Body} {state : CSState Body} {node : Node}
    {update : Update Body} (ran : runNode outside state node = .ok update) :
    (graph outside).after ((graph outside).visit state node) =
      state.apply outside.addMessages update := by
  have ran' : (graph outside).run state node = .ok update := ran
  simp only [Graph.after,Graph.visit,ran']
  rfl

variable (outside : Outside Score Body) (turn : ChatTurn)

def visits (state : CSState Body) : List (NodeVisit Body) := (graph outside).walk state .security

def turnEvents (state : CSState Body) : List (Event Body) :=
  .opened turn :: streamEvents turn.sid {} (visits outside state)

/-- What `persist_respond_turn` writes of a session with a name; a summary that ends the turn comes
before it. -/
def persisted (state : CSState Body) : Option (Archived Body) :=
  if (identityView outside.defaultTenant state).sessionId = [] then none
  else (finalizeTurn outside state).toOption.map (fun update =>
    { messages := encodeMessages (some update.keptMessages)
      memory := memoryView
        { state with memory := { state.memory with sessionSummary := update.sessionSummary } } })

def archiveWrite (visits : List (NodeVisit Body)) : Option (Archived Body) :=
  (visits.find? (fun visit => decide (visit.node = .respond))).bind (fun visit =>
    persisted outside visit.before)

/-- A turn from its inputs on: what the client is sent, and what the checkpoint and the archive
hold of it. -/
structure Turned (Body : Type) where
  events : List (Event Body)
  checkpoint : CSState Body
  archive : Option (Archived Body)

def runTurn (archived : Option (Archived Body)) (checkpoint : CSState Body) : Turned Body :=
  let start := begin outside turn archived checkpoint
  { events := turnEvents outside turn start
    checkpoint := (graph outside).final start (visits outside start)
    archive := archiveWrite outside (visits outside start) }

variable {outside} {state : CSState Body} {update : Update Body}

theorem aside_of_ran {node : Node} (inner : node ≠ .security ∧ node ≠ .respond)
    (ran : runNode outside state node = .ok update) : update.Aside := by
  cases node with
  | security => exact absurd rfl inner.1
  | respond => exact absurd rfl inner.2
  | router =>
    rcases routerNode_cases ran with ⟨_,rfl⟩ | ⟨_,_,aside,_⟩
    · exact ⟨rfl,rfl,rfl⟩
    · exact aside
  | rag =>
    rcases ragNode_cases ran with ⟨_,upgraded⟩ | ⟨_,answer,result,_,rfl⟩
    · exact aside_upgrade upgraded
    · exact Update.Aside.merge (Update.Aside.merge ⟨rfl,rfl,rfl⟩ (aside_slots _ _ _ _)) (aside_cache _)
  | tool =>
    rcases toolNode_cases ran with ⟨message,_,rfl⟩ | ⟨message,_,rfl⟩ | ⟨report,_,rfl⟩
    · exact aside_handoff _
    · exact ⟨rfl,rfl,rfl⟩
    · exact Update.Aside.merge ⟨rfl,rfl,rfl⟩ (aside_slots _ _ _ _)
  | supervisor =>
    obtain ⟨decision,_,⟨_,_,rfl⟩ | ⟨_,rfl⟩ | ⟨_,rfl⟩⟩ := supervisorNode_cases ran
    · exact aside_handoff _
    · exact ⟨rfl,rfl,rfl⟩
    · exact Update.Aside.merge (Update.Aside.merge ⟨rfl,rfl,rfl⟩ (aside_cache _)) (aside_slots _ _ _ _)
  | chitchat =>
    obtain rfl := Except.ok.inj ran
    exact ⟨rfl,rfl,rfl⟩
  | handoff =>
    obtain rfl := withMemory_ok ran
    exact aside_handoff _

end

/-- An outside that finds no order and no course, with a budget that no history fills. -/
def bareOutside : Outside Int Unit where
  defaultTenant := "demo".toList
  containsInjection := fun _ => false
  recentMessages := id
  llmEnabled := true
  reply := fun _ _ _ => .raised
  loadUserMemory := fun _ _ => .ok LongTermMemory.blank
  saveUserMemory := fun _ _ _ => .ok ()
  canAccessOrder := fun _ _ _ _ => false
  tools :=
    { queryOrder := fun _ _ => .error (.valueError "未找到订单".toList)
      retrieveCourse := fun _ args => .ok ⟨NOT_FOUND_COURSE,args.query,[],()⟩
      resolveCourseCode := fun _ _ => none
      formatCourseAnswer := fun result => result.summary
      streamReact := fun _ => .ok "请提供订单号".toList
      lower := id
      now := 0 }
  streamCourseAnswer := fun _ ask => .ok ("未找到课程".toList,⟨NOT_FOUND_COURSE,ask.query,[],()⟩)
  compression := fun _ => SummaryFacts.tableServices []
  settings := ⟨4000,4,3,6,40,none⟩
  summarize := fun _ _ => .ok (fun _ summary => summary)
  addMessages := SummaryFacts.addByLength

def freshTurn (userId message : String) : CSState Unit :=
  begin bareOutside ⟨message.toList,"demo".toList,userId.toList,"s1".toList,by decide⟩ none
    (blankState Unit)

end CustomerService.ChatGraph
