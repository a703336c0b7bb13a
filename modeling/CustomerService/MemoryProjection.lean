import CustomerService.ChatTurns
import CustomerService.MemoryTurns

/-! The nodes of the graph and the fields of the state that reach the profile: every turn of a user
with a profile is a run of the nodes that only know these fields. -/
namespace CustomerService.MemoryProjection
open Text OrderAccess OrderReport Routing NodeGraph Transition
open LongTermMemory (UserMemory Stores Access orNone orNone_orNone orNone_or fromValue)
open ChatGraph (Outside Update Node runNode identityView routeView memoryView slotUpdatesAfterTurn)
open MemoryTurns (Account accessible nodeResult step)

variable {Score Body : Type}

def project (state : ChatGraph.CSState Body) : MemoryTurns.CSState where
  intent := state.route.intent
  orderNo := state.route.orderNo
  courseQuery := state.route.courseQuery
  blocked := state.route.blocked
  slots :=
    { lastIntent := state.memory.lastIntent
      lastOrderNo := state.memory.lastOrderNo
      lastCourseQuery := state.memory.lastCourseQuery
      lastCourseName := state.memory.lastCourseName
      handoffPending := state.memory.handoffPending }

structure Asks (account : Account) (state : ChatGraph.CSState Body) : Prop where
  tenant : strip state.tenantId = account.tenantId
  user : strip state.userId = account.userId

/-- The orders are asked for where they are, and the profile is the one that is loaded. -/
structure Answers (table : OrderTable) (tenancy : Tenancy) (account : Account) (profile : UserMemory)
    (outside : Outside Score Body) : Prop where
  access : ∀ site number, outside.canAccessOrder site number account.tenantId account.userId =
    canAccessOrder table tenancy number account.tenantId account.userId
  loads : outside.loadUserMemory account.tenantId account.userId = .ok profile
  loaded : fromValue profile = profile

private theorem userId_ne (account : Account) : account.userId ≠ [] := by
  intro blank
  have persistent := account.persistent
  rw [blank] at persistent
  exact absurd persistent (by decide)

private theorem either_of_orNone (first second : Option Text) :
    either first second = (orNone first).or second := by
  cases first with
  | none => rfl
  | some text =>
    cases text with
    | nil => rfl
    | cons _ _ => rfl

private theorem either_twice (first second third : Option Text) :
    either first (either (orNone second) (orNone third)) =
      orNone ((orNone first).or ((orNone second).or third)) := by
  rw [either_of_orNone,either_of_orNone,orNone_orNone,orNone_or (orNone_orNone _),
    orNone_or (orNone_orNone _)]

private theorem present_orNone (value : Option Text) : present value = (orNone value).isSome := by
  cases value with
  | none => rfl
  | some text =>
    cases text with
    | nil => rfl
    | cons _ _ => rfl

section
variable {table : OrderTable} {tenancy : Tenancy} {account : Account} {profile : UserMemory}
  {outside : Outside Score Body} {state : ChatGraph.CSState Body} {update : Update Body}

theorem Asks.identity (asks : Asks account state) (defaultTenant : Text) :
    (identityView defaultTenant state).tenantId = account.tenantId ∧
      (identityView defaultTenant state).userId = account.userId := by
  constructor
  · change orElse (some (strip state.tenantId)) defaultTenant = _
    rw [asks.tenant]
    exact orElse_of_ne account.tenant_given
  · change orElse (some (strip state.userId)) _ = _
    rw [asks.user]
    exact orElse_of_ne (userId_ne account)

theorem Asks.apply (asks : Asks account state) (addMessages : List SummaryFacts.Message →
    List SummaryFacts.Update → List SummaryFacts.Message) (update : Update Body) :
    Asks account (state.apply addMessages update) := ⟨asks.tenant,asks.user⟩

structure Slotless (update : Update Body) : Prop where
  lastIntent : update.lastIntent = none
  lastOrderNo : update.lastOrderNo = none
  lastCourseQuery : update.lastCourseQuery = none
  lastCourseName : update.lastCourseName = none
  handoffPending : update.handoffPending = none

private theorem project_slots {first : Update Body} (slotless : Slotless first) (intent : Text)
    (orderNo courseQuery courseName : Option Text) :
    project (state.apply outside.addMessages
        (first.merge (slotUpdatesAfterTurn intent orderNo courseQuery courseName))) =
      { project (state.apply outside.addMessages first) with
        slots := MemoryTurns.slotUpdatesAfterTurn (project state).slots intent orderNo courseQuery
          courseName } := by
  have given (value : Option Text) (old : Option Text) : (value.map some).getD old = value.or old := by
    cases value <;> rfl
  have business : (if ChatGraph.BUSINESS_INTENTS.contains intent then some (some intent)
        else none).getD state.memory.lastIntent =
      if MemoryTurns.BUSINESS_INTENTS.contains intent then some intent else state.memory.lastIntent := by
    change (if MemoryTurns.BUSINESS_INTENTS.contains intent then some (some intent) else none).getD _ = _
    split <;> rfl
  unfold project ChatGraph.CSState.apply Update.merge slotUpdatesAfterTurn MemoryTurns.slotUpdatesAfterTurn
  simp only [slotless.lastIntent,slotless.lastOrderNo,slotless.lastCourseQuery,slotless.lastCourseName,
    slotless.handoffPending,Option.or_none,given,business]
  rfl

private theorem project_cache (first : Update Body) (cached : Supervisor.CacheUpdates Body) :
    project (state.apply outside.addMessages (first.merge (ChatGraph.CacheUpdates.toUpdate cached))) =
      project (state.apply outside.addMessages first) := rfl

/-! ### Numbers and slots -/

private theorem accessible_of (answers : Answers table tenancy account profile outside) (site : ChatGraph.Site)
    (number : Option Text) :
    (if present (orNone number) && !outside.canAccessOrder site ((orNone number).getD []) account.tenantId
        account.userId then none else orNone number) = accessible table tenancy account number := by
  unfold accessible
  rw [answers.access,present_orNone,orNone_orNone]
  cases orNone number with
  | none => rfl
  | some text =>
    by_cases allowed : canAccessOrder table tenancy text account.tenantId account.userId = true
    · simp [allowed]
    · simp [allowed]

private theorem persistArgs_project (answers : Answers table tenancy account profile outside)
    {identity : ChatGraph.IdentityView} (tenant : identity.tenantId = account.tenantId)
    (user : identity.userId = account.userId) (state : ChatGraph.CSState Body) :
    ChatGraph.persistArgs outside identity (routeView state) (memoryView state) =
      MemoryTurns.persistArgs table tenancy account (project state) := by
  have order := accessible_of answers .profile ((orNone state.route.orderNo).or state.memory.lastOrderNo)
  rw [orNone_or (orNone_orNone _)] at order
  unfold ChatGraph.persistArgs MemoryTurns.persistArgs
  rw [tenant,user,account.persistent]
  simp only [routeView,memoryView,either_of_orNone,orNone_orNone,Bool.and_true]
  rw [order]
  rfl

private theorem hydrateSlots_project (answers : Answers table tenancy account profile outside)
    (asks : Asks account state) :
    ∃ slots, ChatGraph.hydrateSlots outside state = .ok slots ∧
      (⟨slots.lastIntent,slots.lastOrderNo,slots.lastCourseQuery,slots.lastCourseName,
          slots.handoffPending⟩ : MemoryTurns.SessionSlots) =
        MemoryTurns.hydrateSlots table tenancy account (project state).slots profile := by
  obtain ⟨tenant,user⟩ := asks.identity outside.defaultTenant
  have loaded : ChatGraph.profileOf outside account.tenantId account.userId = .ok profile := by
    unfold ChatGraph.profileOf
    rw [if_neg (by rw [account.persistent]; decide)]
    exact answers.loads
  have solid : orNone profile.lastOrderNo = profile.lastOrderNo :=
    congrArg UserMemory.lastOrderNo answers.loaded
  have order := accessible_of answers .router ((orNone state.memory.lastOrderNo).or profile.lastOrderNo)
  rw [orNone_or (orNone_orNone _),solid] at order
  unfold ChatGraph.hydrateSlots
  dsimp only
  rw [tenant,user,loaded]
  refine ⟨_,rfl,?_⟩
  unfold MemoryTurns.hydrateSlots MemoryTurns.overlayUserMemory project
  simp only [memoryView,either_of_orNone,orNone_orNone,account.persistent,Bool.true_and]
  rw [order]

end

/-! ### Nodes -/

/-- What a node of the graph does to the fields, and what it saves where it persists. -/
structure Shows (table : OrderTable) (tenancy : Tenancy) (account : Account) (profile : UserMemory)
    (outside : Outside Score Body) (state : ChatGraph.CSState Body) (update : Update Body)
    (node : MemoryTurns.Node) : Prop where
  after : (nodeResult table tenancy account (project state) profile node).1 =
    project (state.apply outside.addMessages update)
  saved : (nodeResult table tenancy account (project state) profile node).2 = true →
    outside.saveUserMemory account.tenantId account.userId
      (MemoryTurns.persistArgs table tenancy account (project (state.apply outside.addMessages update))) = .ok ()

section
variable {table : OrderTable} {tenancy : Tenancy} {account : Account} {profile : UserMemory}
  {outside : Outside Score Body} {state : ChatGraph.CSState Body} {update updates : Update Body}

private theorem shows_aside {node : MemoryTurns.Node}
    (after : (nodeResult table tenancy account (project state) profile node) =
      (project (state.apply outside.addMessages update),false)) :
    Shows table tenancy account profile outside state update node := by
  constructor
  · rw [after]
  · rw [after]
    exact nofun

theorem withMemory_shows (answers : Answers table tenancy account profile outside) (asks : Asks account state)
    (ran : ChatGraph.withMemory outside state updates = .ok update) {node : MemoryTurns.Node}
    (after : (nodeResult table tenancy account (project state) profile node).1 =
      project (state.apply outside.addMessages updates)) :
    Shows table tenancy account profile outside state update node := by
  obtain rfl := ChatGraph.withMemory_ok ran
  refine ⟨after,fun _ => ?_⟩
  obtain ⟨tenant,user⟩ := (asks.apply (fun messages _ => messages) update).identity "demo".toList
  have saved := persistArgs_project answers tenant user (state.apply (fun messages _ => messages) update)
  unfold ChatGraph.withMemory at ran
  dsimp only at ran
  rw [saved,tenant,user,if_pos account.persistent] at ran
  obtain ⟨_,done,_⟩ := ChatGraph.bind_ok ran
  exact done

private theorem project_handoff (answer : Text) :
    MemoryTurns.handoffState (project state) =
      project (state.apply outside.addMessages (ChatGraph.handoffState answer)) := by
  unfold ChatGraph.handoffState
  rw [project_slots ⟨rfl,rfl,rfl,rfl,rfl⟩]
  rfl

private theorem security_shows :
    ∃ allowed, Shows table tenancy account profile outside state (ChatGraph.securityNode outside state)
      (.security allowed) := by
  refine ⟨(ChatGraph.inspectInput outside.containsInjection
    (identityView outside.defaultTenant state).query).allowed,shows_aside ?_⟩
  unfold nodeResult MemoryTurns.securityNode ChatGraph.securityNode
  dsimp only
  cases (ChatGraph.inspectInput outside.containsInjection
    (identityView outside.defaultTenant state).query).allowed <;> rfl

private theorem router_shows (answers : Answers table tenancy account profile outside) (asks : Asks account state)
    (ran : ChatGraph.routerNode outside state = .ok update) :
    ∃ decision, Shows table tenancy account profile outside state update (.router decision) := by
  unfold ChatGraph.routerNode at ran
  split at ran
  · rename_i blocked
    obtain rfl := Except.ok.inj ran
    -- the decision is not read
    refine ⟨⟨.chitchat,.chitchat,.number 0,none,none,false,none,[]⟩,shows_aside ?_⟩
    have refused : (project state).blocked = true := blocked
    unfold nodeResult MemoryTurns.routerNode
    dsimp only
    rw [if_pos refused]
    rfl
  · rename_i passed
    obtain ⟨slots,hydrated,same⟩ := hydrateSlots_project answers asks
    rw [hydrated] at ran
    obtain ⟨_,found,rest⟩ := ChatGraph.bind_ok ran
    obtain rfl := Except.ok.inj found
    split at rest
    · cases rest
    · rename_i decision _
      obtain rfl := Except.ok.inj rest
      refine ⟨decision,shows_aside ?_⟩
      have allowed : (project state).blocked = false := Bool.eq_false_iff.mpr passed
      unfold nodeResult MemoryTurns.routerNode
      dsimp only
      rw [if_neg (Bool.eq_false_iff.mp allowed),← same]
      rfl

private theorem rag_shows (answers : Answers table tenancy account profile outside) (asks : Asks account state)
    (ran : ChatGraph.ragNode outside state = .ok update) :
    ∃ query expanded courseName,
      Shows table tenancy account profile outside state update (.rag query expanded courseName) := by
  unfold ChatGraph.ragNode ChatGraph.ragUpgrade at ran
  by_cases signal : queryHasOrderSignal (identityView outside.defaultTenant state).query = true
  · rw [if_pos signal] at ran
    obtain rfl := Except.ok.inj ran
    refine ⟨(identityView outside.defaultTenant state).query,ChatGraph.ragQuery outside state,[],
      shows_aside ?_⟩
    have number := either_of_orNone (orNone state.route.orderNo)
      (extractQueryOrderNo (identityView outside.defaultTenant state).query)
    rw [orNone_orNone,← either_of_orNone] at number
    unfold nodeResult MemoryTurns.ragNode
    dsimp only
    rw [if_pos signal]
    unfold project ChatGraph.CSState.apply routeView
    dsimp only [Option.getD_some,Option.getD_none]
    rw [number]
  · rw [if_neg signal] at ran
    obtain ⟨⟨answer,result⟩,_,saved⟩ := ChatGraph.bind_ok ran
    refine ⟨(identityView outside.defaultTenant state).query,ChatGraph.ragQuery outside state,
      result.courseName,withMemory_shows answers asks saved ?_⟩
    unfold nodeResult MemoryTurns.ragNode ChatGraph.ragUpdates
    dsimp only
    rw [if_neg signal,project_cache,project_slots ⟨rfl,rfl,rfl,rfl,rfl⟩]
    rfl

private theorem tool_shows (answers : Answers table tenancy account profile outside) (asks : Asks account state)
    (ran : ChatGraph.toolNode outside state = .ok update) :
    ∃ answer, Shows table tenancy account profile outside state update (.tool answer) := by
  unfold ChatGraph.toolNode at ran
  split at ran
  · exact ⟨.error .escalated,withMemory_shows answers asks ran (project_handoff _)⟩
  · rename_i message _
    obtain rfl := Except.ok.inj ran
    exact ⟨.error (.timeoutError message),shows_aside rfl⟩
  · rename_i message _
    obtain rfl := Except.ok.inj ran
    exact ⟨.error (.valueError message),shows_aside rfl⟩
  · cases ran
  · rename_i report _
    refine ⟨.ok report,withMemory_shows answers asks ran ?_⟩
    unfold ChatGraph.toolUpdates
    dsimp only
    rw [project_slots ⟨rfl,rfl,rfl,rfl,rfl⟩]
    rfl

theorem boundOrderNo_eq (answers : Answers table tenancy account profile outside) (asks : Asks account state)
    (decision : Supervisor.SupervisorDecision Body) :
    ChatGraph.boundOrderNo outside state decision = accessible table tenancy account
      ((orNone decision.boundOrderNo).or
        ((orNone (project state).orderNo).or (project state).slots.lastOrderNo)) := by
  obtain ⟨tenant,user⟩ := asks.identity outside.defaultTenant
  unfold ChatGraph.boundOrderNo routeView memoryView
  dsimp only
  rw [tenant,user,either_twice]
  exact accessible_of answers .supervisor _

theorem supervisor_shows (answers : Answers table tenancy account profile outside) (asks : Asks account state)
    (ran : ChatGraph.supervisorNode outside state = .ok update) :
    ∃ decision, Shows table tenancy account profile outside state update (.supervisor decision) := by
  obtain ⟨decision,_,rest⟩ := ChatGraph.bind_ok ran
  have handoff : decision.finalIntent.name = "handoff".toList ↔ decision.finalIntent = .handoff := by
    cases decision.finalIntent <;> decide
  have intent : orElse (some decision.finalIntent.name) (orElse (some (project state).intent) "mixed".toList) =
      decision.finalIntent.name := orElse_of_ne (by cases decision.finalIntent <;> decide)
  refine ⟨⟨decide (decision.action = .askUser),decision.finalIntent.name,decision.reason,
    decision.boundOrderNo,decision.boundCourseQuery⟩,?_⟩
  split at rest
  · rename_i handed
    apply withMemory_shows answers asks rest
    unfold nodeResult MemoryTurns.supervisorNode
    dsimp only
    have named : decision.finalIntent.name = "handoff".toList ∧
        MemoryTurns.AUTO_HANDOFF.contains decision.reason = true := ⟨handoff.mpr handed.1,handed.2⟩
    rw [if_pos named]
    exact project_handoff _
  · rename_i stays
    have unnamed : ¬(decision.finalIntent.name = "handoff".toList ∧
        MemoryTurns.AUTO_HANDOFF.contains decision.reason = true) :=
      fun named => stays ⟨handoff.mp named.1,named.2⟩
    split at rest
    · rename_i asksUser
      obtain rfl := Except.ok.inj rest
      apply shows_aside
      unfold nodeResult MemoryTurns.supervisorNode
      dsimp only
      rw [if_neg unnamed,intent,if_pos (decide_eq_true asksUser)]
      rfl
    · rename_i replies
      apply withMemory_shows answers asks rest
      unfold nodeResult MemoryTurns.supervisorNode ChatGraph.supervisorUpdates
      dsimp only
      rw [if_neg unnamed,intent,if_neg (by simpa using replies),project_slots ⟨rfl,rfl,rfl,rfl,rfl⟩,
        boundOrderNo_eq answers asks]
      unfold routeView memoryView MemoryTurns.slotUpdatesAfterTurn
      dsimp only
      rw [either_twice,orNone_orNone]
      rfl

inductive Named : Node → MemoryTurns.Node → Prop
  | security (allowed : Bool) : Named .security (.security allowed)
  | router (decision : RouteDecision) : Named .router (.router decision)
  | rag (query expanded courseName : Text) : Named .rag (.rag query expanded courseName)
  | tool (answer : Except OrderQuery.QueryError Report) : Named .tool (.tool answer)
  | supervisor (decision : MemoryTurns.SupervisorDecision) : Named .supervisor (.supervisor decision)
  | chitchat : Named .chitchat .chitchat
  | handoff : Named .handoff .handoff
  | respond : Named .respond .respond

/-- A node that ends does to the fields what the node of its name does, and saves what that one saves. -/
theorem node_shows [LinearOrder Score] [Zero Score] (answers : Answers table tenancy account profile outside)
    (asks : Asks account state) {node : Node} (ran : runNode outside state node = .ok update) :
    ∃ node', Named node node' ∧ Shows table tenancy account profile outside state update node' := by
  cases node with
  | security =>
    obtain rfl := Except.ok.inj ran
    exact security_shows.imp' _ (fun _ shows' => ⟨.security _,shows'⟩)
  | router => exact (router_shows answers asks ran).imp' _ (fun _ shows' => ⟨.router _,shows'⟩)
  | rag =>
    obtain ⟨query,expanded,courseName,shows'⟩ := rag_shows answers asks ran
    exact ⟨_,.rag query expanded courseName,shows'⟩
  | tool => exact (tool_shows answers asks ran).imp' _ (fun _ shows' => ⟨.tool _,shows'⟩)
  | supervisor => exact (supervisor_shows answers asks ran).imp' _ (fun _ shows' => ⟨.supervisor _,shows'⟩)
  | chitchat =>
    obtain rfl := Except.ok.inj ran
    have answered (text : Text) :
        project (state.apply outside.addMessages { answer := some text }) = project state := rfl
    exact ⟨_,.chitchat,shows_aside (Prod.ext (answered _).symm rfl)⟩
  | handoff => exact ⟨_,.handoff,withMemory_shows answers asks ran (project_handoff _)⟩
  | respond =>
    obtain ⟨finalized,_,same⟩ := ChatGraph.bind_ok ran
    obtain rfl := Except.ok.inj same
    exact ⟨_,.respond,shows_aside rfl⟩

end

/-! ### Turns -/

section
variable {table : OrderTable} {tenancy : Tenancy} {account : Account} {outside : Outside Score Body}
  {world : MemoryTurns.World} {session : Text}

private theorem nodeResult_unloaded {state : MemoryTurns.CSState} {node : MemoryTurns.Node}
    (stays : node.loads state = false) (first second : UserMemory) :
    nodeResult table tenancy account state first node = nodeResult table tenancy account state second node := by
  cases node with
  | router decision =>
    have blocked : state.blocked = true := by
      cases at' : state.blocked with
      | true => rfl
      | false =>
        unfold MemoryTurns.Node.loads at stays
        rw [at'] at stays
        cases stays
    unfold nodeResult MemoryTurns.routerNode
    dsimp only
    rw [if_pos blocked,if_pos blocked]
  | _ => rfl

private theorem step_shows {state : ChatGraph.CSState Body} {update : Update Body} {node : MemoryTurns.Node}
    {profile : UserMemory} (shows' : Shows table tenancy account profile outside state update node)
    (here : world.sessions session = project state) (enabled : Bool) (access : Access) (now : Text)
    (loaded : node.loads (project state) = true →
      (LongTermMemory.loadUserMemory account.userId world.stores access).1 = profile) :
    (step table tenancy account world (.node session node enabled access now)).sessions session =
      project (state.apply outside.addMessages update) := by
  unfold step
  dsimp only
  rw [Function.update_self,here,← shows'.after]
  cases loads : node.loads (project state) with
  | true =>
    rw [if_pos rfl,loaded loads]
  | false => rw [nodeResult_unloaded loads _ profile]

def ended (visits : List (ChatGraph.NodeVisit Body)) : List Node :=
  visits.filterMap (fun visit => visit.result.toOption.map (fun _ => visit.node))

private theorem ended_cons [LinearOrder Score] [Zero Score] {state : ChatGraph.CSState Body} {node : Node}
    {update : Update Body} (ran : runNode outside state node = .ok update)
    (rest : List (ChatGraph.NodeVisit Body)) :
    ended ((ChatGraph.graph outside).visit state node :: rest) = node :: ended rest := by
  have result : ((ChatGraph.graph outside).visit state node).result = .ok update := ran
  unfold ended
  rw [List.filterMap_cons,result]
  rfl

private theorem loads_router {state : MemoryTurns.CSState} {node : Node} {node' : MemoryTurns.Node}
    (named : Named node node') (loads : node'.loads state = true) : node = .router := by
  cases named with
  | router decision => rfl
  | _ => cases loads

private theorem before_router {state : ChatGraph.CSState Body} {node follower : Node}
    (edge : ChatGraph.successor state node = some follower)
    (early : follower = .security ∨ follower = .router) : node = .security := by
  have lower := ChatGraph.successor_rank edge
  rcases early with rfl | rfl <;> cases node <;> first | rfl | exact absurd lower (by decide)

private theorem security_stores {node : MemoryTurns.Node} (named : Named .security node) (enabled : Bool)
    (access : Access) (now : Text) :
    (step table tenancy account world (.node session node enabled access now)).stores = world.stores := by
  cases named
  rfl

/-- From a node on: the fields in the session are those of the graph, whatever the stores hold once the
router is past. -/
theorem walk_runs [LinearOrder Score] [Zero Score] {profile : UserMemory}
    (answers : Answers table tenancy account profile outside) (session : Text) (enabled : Bool)
    (access : Access) (now : Text) (state : ChatGraph.CSState Body) (node : Node) :
    ∀ world : MemoryTurns.World, Asks account state → world.sessions session = project state →
      (node = .security ∨ node = .router →
        (LongTermMemory.loadUserMemory account.userId world.stores access).1 = profile) →
      ∃ nodes, List.Forall₂ Named (ended ((ChatGraph.graph outside).walk state node)) nodes ∧
        (run (step table tenancy account) world
          (nodes.map (fun node => .node session node enabled access now))).sessions session =
            project ((ChatGraph.graph outside).final state ((ChatGraph.graph outside).walk state node)) := by
  refine walk_induction (motive := fun state node visits => ∀ world : MemoryTurns.World, Asks account state →
    world.sessions session = project state →
      (node = .security ∨ node = .router →
        (LongTermMemory.loadUserMemory account.userId world.stores access).1 = profile) →
      ∃ nodes, List.Forall₂ Named (ended visits) nodes ∧
        (run (step table tenancy account) world
          (nodes.map (fun node => .node session node enabled access now))).sessions session =
            project ((ChatGraph.graph outside).final state visits)) ?_ ?_ ?_ state node
  · intro state node abort failed world asks here loaded
    have result : ((ChatGraph.graph outside).visit state node).result = .error abort := failed
    refine ⟨[],?_,?_⟩
    · unfold ended
      rw [List.filterMap_cons,result]
      exact .nil
    · rw [final_cons]
      unfold Graph.after
      rw [result]
      exact here
  · intro state node update ran last world asks here loaded
    obtain ⟨node',named,shows'⟩ := node_shows answers asks ran
    refine ⟨[node'],?_,?_⟩
    · rw [ended_cons ran]
      exact .cons named .nil
    · rw [final_cons,ChatGraph.after_visit ran]
      exact step_shows shows' here enabled access now (fun loads => loaded (Or.inr (loads_router named loads)))
  · intro state node update follower ran edge ih world asks here loaded
    obtain ⟨node',named,shows'⟩ := node_shows answers asks ran
    have after := step_shows shows' here enabled access now
      (fun loads => loaded (Or.inr (loads_router named loads)))
    obtain ⟨nodes,follow,ends⟩ := ih _ (asks.apply _ update) after (fun early => by
      obtain rfl := before_router edge early
      rw [security_stores named]
      exact loaded (Or.inl rfl))
    refine ⟨node' :: nodes,?_,?_⟩
    · rw [ended_cons ran]
      exact .cons named follow
    · rw [final_cons,ChatGraph.after_visit ran,List.map_cons,run_cons]
      exact ends

private theorem loadUserMemory_loaded (userId : Text) (stores : Stores) (access : Access) :
    fromValue (LongTermMemory.loadUserMemory userId stores access).1 =
      (LongTermMemory.loadUserMemory userId stores access).1 := by
  unfold LongTermMemory.loadUserMemory
  split
  · rfl
  · split
    · exact LongTermMemory.fromValue_fromValue _
    · split
      · rfl
      · exact LongTermMemory.fromValue_fromValue _

/-- Every turn of the account is a run of the nodes that know the fields of the profile only: in the
session they end as they end in the graph. -/
theorem turn_runs [LinearOrder Score] [Zero Score] (session : Text) (enabled : Bool) (access : Access)
    (now : Text) (world : MemoryTurns.World) (state : ChatGraph.CSState Body)
    (orders : ∀ site number, outside.canAccessOrder site number account.tenantId account.userId =
      canAccessOrder table tenancy number account.tenantId account.userId)
    (profile : outside.loadUserMemory account.tenantId account.userId =
      .ok (LongTermMemory.loadUserMemory account.userId world.stores access).1)
    (asks : Asks account state) (here : world.sessions session = project state) :
    ∃ nodes, List.Forall₂ Named (ended (ChatGraph.visits outside state)) nodes ∧
      (run (step table tenancy account) world
        (nodes.map (fun node => .node session node enabled access now))).sessions session =
          project ((ChatGraph.graph outside).final state (ChatGraph.visits outside state)) :=
  walk_runs ⟨orders,profile,loadUserMemory_loaded _ _ _⟩ session enabled access now state .security world asks
    here (fun _ => rfl)

end

end CustomerService.MemoryProjection
