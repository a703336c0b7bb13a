import CustomerService.ChatTurns

/-! For which order numbers the lookups of a turn run when the user is anonymous. -/
namespace CustomerService.ChatGraph
open Text OrderAccess OrderReport ToolCache Routing Supervisor NodeGraph
open OrderQuery (QueryArgs resolveOrderNumber resolveQueryOrderNo)
open LongTermMemory (orNone orNone_orNone)
open SummaryFacts (extractOrderNo)

variable {Score Body : Type}

/-! ### Lookups -/

/-- The arguments that a node calls `query_order` with in a state. -/
def orderCalls (outside : Outside Score Body) (state : CSState Body) : Node → List QueryArgs
  | .tool => [toolArgs outside state]
  | .supervisor =>
    let args := supervisorArgs outside state
    (args.plan.steps.filter (fun step => decide (step.capability = .orderQuery))).map
      (fun _ => orderArgs (executionContext args none))
  | _ => []

/-- The number that a call looks up, unless it is refused. -/
def lookedUp (args : QueryArgs) : Option Text := (resolveOrderNumber args).toOption.join

def Outside.withOrders (outside : Outside Score Body)
    (queryOrder : SessionToolCacheState Body → QueryArgs → Except ToolError Report) :
    Outside Score Body :=
  { outside with tools := { outside.tools with queryOrder := queryOrder } }

private theorem mapM_congr {Item Result : Type} {items : List Item} {first second : Item → Except Abort Result}
    (agree : ∀ item ∈ items, first item = second item) : items.mapM first = items.mapM second := by
  induction items with
  | nil => rfl
  | cons item rest ih =>
    rw [List.mapM_cons,List.mapM_cons,agree item List.mem_cons_self,
      ih (fun other inside => agree other (List.mem_cons_of_mem _ inside))]

section
variable (tools : Tools Body) (session : SessionToolCacheState Body)
  {queryOrder : SessionToolCacheState Body → QueryArgs → Except ToolError Report}

private theorem runStep_congr {step : PlanStep} {context : ExecutionContext}
    (agree : step.capability = .orderQuery →
      queryOrder session (orderArgs context) = tools.queryOrder session (orderArgs context))
    (observations : Observations Body) :
    runStep { tools with queryOrder := queryOrder } session step context observations =
      runStep tools session step context observations := by
  unfold runStep
  cases capability : step.capability with
  | orderQuery =>
    dsimp only [invokeOrder]
    rw [agree capability]
  | courseRetrieve => rfl

private theorem executeGroups_congr {context : Option Text → ExecutionContext} {groups : List (List PlanStep)}
    (agree : ∀ steps ∈ groups, ∀ step ∈ steps, step.capability = .orderQuery → ∀ bound,
      queryOrder session (orderArgs (context bound)) =
        tools.queryOrder session (orderArgs (context bound)))
    (run : Execution Body) :
    executeGroups { tools with queryOrder := queryOrder } session context run groups =
      executeGroups tools session context run groups := by
  induction groups generalizing run with
  | nil => rfl
  | cons steps rest ih =>
    have later := ih (fun steps' listed => agree steps' (List.mem_cons_of_mem _ listed))
    unfold executeGroups
    rw [mapM_congr (fun step inside => runStep_congr tools session
      (fun capability => agree steps List.mem_cons_self step inside capability run.boundCourse)
      run.observations)]
    simp only [later]

private theorem mem_groups {plan : SupervisorPlan} {steps : List PlanStep} (listed : steps ∈ plan.groups)
    {step : PlanStep} (inside : step ∈ steps) : step ∈ plan.steps := by
  obtain ⟨group,_,rfl⟩ := List.mem_map.mp listed
  exact List.mem_of_mem_filter inside

end

section
variable {outside : Outside Score Body} {state : CSState Body}
  {queryOrder : SessionToolCacheState Body → QueryArgs → Except ToolError Report}

private theorem runSupervisor_congr
    (agree : ∀ args ∈ orderCalls outside state .supervisor,
      queryOrder (sessionToolCache state) args = outside.tools.queryOrder (sessionToolCache state) args) :
    runSupervisor (outside.withOrders queryOrder).tools (sessionToolCache state)
        (supervisorArgs outside state) =
      runSupervisor outside.tools (sessionToolCache state) (supervisorArgs outside state) := by
  have groups (run : Execution Body) :
      executeGroups { outside.tools with queryOrder := queryOrder } (sessionToolCache state)
          (executionContext (supervisorArgs outside state)) run (supervisorArgs outside state).plan.groups =
        executeGroups outside.tools (sessionToolCache state)
          (executionContext (supervisorArgs outside state)) run
          (supervisorArgs outside state).plan.groups := by
    apply executeGroups_congr
    intro steps listed step inside capability bound
    refine agree _ (List.mem_map.mpr ⟨step,List.mem_filter.mpr ⟨mem_groups listed inside,?_⟩,rfl⟩)
    exact decide_eq_true capability
  unfold runSupervisor
  dsimp only [Outside.withOrders]
  simp only [groups]

variable [LinearOrder Score] [Zero Score]

theorem runNode_congr {node : Node}
    (agree : ∀ args ∈ orderCalls outside state node,
      queryOrder (sessionToolCache state) args = outside.tools.queryOrder (sessionToolCache state) args) :
    runNode (outside.withOrders queryOrder) state node = runNode outside state node := by
  cases node with
  | tool =>
    have answered : (outside.withOrders queryOrder).tools.queryOrder (sessionToolCache state)
        (toolArgs (outside.withOrders queryOrder) state) =
          outside.tools.queryOrder (sessionToolCache state) (toolArgs outside state) :=
      agree _ (List.mem_singleton_self _)
    change toolNode (outside.withOrders queryOrder) state = toolNode outside state
    unfold toolNode
    rw [answered]
    rfl
  | supervisor =>
    have decided := runSupervisor_congr agree
    change supervisorNode (outside.withOrders queryOrder) state = supervisorNode outside state
    unfold supervisorNode
    change (runSupervisor _ _ (supervisorArgs outside state) >>= _) = _
    rw [decided]
    rfl
  | _ => rfl

end

/-! ### The numbers of a turn -/

private theorem extractOrderNo_within {text number : Text} (found : extractOrderNo text = some number) :
    number <:+: text := by
  obtain ⟨cursor,searched,rfl⟩ := Option.map_eq_some_iff.mp found
  exact (SummaryFacts.orderNoRe.group1_caught searched).1

private theorem either_orNone (value second : Option Text) :
    either (orNone value) second = (orNone value).or second := by
  cases value with
  | none => rfl
  | some text =>
    by_cases blank : text = []
    · subst blank
      rfl
    · have kept : orNone (some text) = some text :=
        Option.filter_eq_some_iff.mpr ⟨rfl,by simpa using blank⟩
      rw [kept]
      simp [either,present,blank]

private theorem identity_userId (defaultTenant : Text) (state : CSState Body) :
    (identityView defaultTenant state).userId = normalizeUserId state.userId := by
  unfold identityView normalizeUserId ThreadKey.orDefault orElse
  dsimp only
  cases strip state.userId <;> rfl

theorem isPersistentUser_normalizeUserId (userId : Text) :
    isPersistentUser (normalizeUserId userId) = isPersistentUser userId := by
  unfold isPersistentUser
  rw [strip_normalizeUserId]
  unfold normalizeUserId ThreadKey.orDefault
  split
  · rename_i blank
    rw [blank]
    rfl
  · rfl

/-- The number is in the question, or it is the one bound in the session. -/
def Own (query : Text) (bound : Option Text) (number : Text) : Prop :=
  number <:+: query ∨ number = strip (bound.getD [])

/-- An anonymous call looks up the number of its question, or the given one when it is in the
question or bound. -/
theorem lookedUp_anonymous (args : QueryArgs) {number : Text}
    (anonymous : isPersistentUser args.userId = false)
    (derived : args.requireExplicitOrderNo = false) :
    lookedUp args = some number ↔
      number = strip (orElse (extractOrderNo args.query) (args.orderNo.getD [])) ∧ number ≠ [] ∧
        (extractOrderNo args.query = some number ∨ Own args.query args.lastOrderNo number) := by
  unfold lookedUp resolveOrderNumber resolveQueryOrderNo
  simp only [derived,isPersistentUser_normalizeUserId,anonymous,Bool.false_eq_true,if_false]
  generalize strip (orElse (extractOrderNo args.query) (args.orderNo.getD [])) = given
  by_cases blank : given = []
  · rw [if_pos blank]
    constructor
    · intro found
      cases found
    · intro found
      exact absurd (found.1.trans blank) found.2.1
  · rw [if_neg blank]
    have bound : (!(strip (args.lastOrderNo.getD [])).isEmpty &&
        decide (given = strip (args.lastOrderNo.getD []))) =
          decide (given = strip (args.lastOrderNo.getD [])) := by
      by_cases same : given = strip (args.lastOrderNo.getD [])
      · simp [← same,blank]
      · simp [same]
    rw [bound]
    split
    · rename_i own
      have own' : extractOrderNo args.query = some given ∨ Own args.query args.lastOrderNo given := by
        simpa [Own,or_assoc] using own
      constructor
      · intro found
        obtain rfl : given = number := Option.some.inj found
        exact ⟨rfl,blank,own'⟩
      · rintro ⟨rfl,_⟩
        rfl
    · rename_i foreign
      constructor
      · intro found
        cases found
      · rintro ⟨rfl,_,own⟩
        refine absurd ?_ foreign
        simpa [Own,or_assoc] using own

/-! ### A plan that looks an order up -/

private theorem planSupervisor_order {intent query : Text} {needsClarification : Bool}
    {clarificationQuestion orderNo courseQuery lastCourseName : Option Text} {step : PlanStep}
    (planned : step ∈ (planSupervisor intent needsClarification clarificationQuestion query orderNo
      courseQuery lastCourseName).steps) (capability : step.capability = .orderQuery) :
    strip (orderNo.getD []) ≠ [] := by
  unfold planSupervisor at planned
  dsimp only at planned
  split at planned
  · cases planned
  split at planned
  · rename_i given
    exact given.1
  split at planned
  · rename_i given
    exact given.1
  split at planned
  · rename_i given
    exact given.1
  split at planned
  · obtain rfl := List.mem_singleton.mp planned
    cases capability
  · cases planned

/-- The number of a plan is the user's own: the question has a number of its own, or the number
of the route is absent, in the question or bound. -/
def Backed (outside : Outside Score Body) (bound : Option Text) (state : CSState Body) : Prop :=
  let query := (identityView outside.defaultTenant state).query
  let given := strip ((routeView state).orderNo.getD [])
  (∀ step ∈ (supervisorArgs outside state).plan.steps, step.capability ≠ .orderQuery) ∨
    present (extractOrderNo query) = true ∨ given = [] ∨ Own query bound given

section
variable {outside : Outside Score Body} {state : CSState Body} {bound : Option Text}

private theorem anonymous_identity (defaultTenant : Text) (anonymous : isPersistentUser state.userId = false) :
    isPersistentUser (identityView defaultTenant state).userId = false := by
  rw [identity_userId,isPersistentUser_normalizeUserId,anonymous]

private theorem tool_lookup_own {number : Text} (anonymous : isPersistentUser state.userId = false)
    (found : lookedUp (toolArgs outside state) = some number) :
    Own state.query (memoryView state).lastOrderNo number := by
  have who := anonymous_identity outside.defaultTenant anonymous
  obtain ⟨_,_,extracted | own⟩ := (lookedUp_anonymous (toolArgs outside state) who rfl).mp found
  · exact Or.inl (extractOrderNo_within extracted)
  · exact own

/-- What the supervisor passes as bound is the number it was given, so that nothing is refused. -/
theorem supervisor_lookup (outside : Outside Score Body)
    (anonymous : isPersistentUser state.userId = false) (number : Text) :
    lookedUp (orderArgs (executionContext (supervisorArgs outside state) none)) = some number ↔
      number = strip (orElse (extractOrderNo state.query)
        ((either (routeView state).orderNo (memoryView state).lastOrderNo).getD [])) ∧ number ≠ [] := by
  have args : (orderArgs (executionContext (supervisorArgs outside state) none)).lastOrderNo =
      either (routeView state).orderNo (memoryView state).lastOrderNo := ite_self _
  have who := anonymous_identity outside.defaultTenant anonymous
  rw [lookedUp_anonymous (orderArgs (executionContext (supervisorArgs outside state) none)) who rfl,
    args]
  change _ = strip (orElse (extractOrderNo state.query) _) ∧ _ ↔ _
  refine and_congr_right (fun same => and_iff_left_of_imp (fun _ => ?_))
  cases extracted : extractOrderNo state.query with
  | none =>
    rw [extracted] at same
    exact Or.inr (Or.inr same)
  | some own =>
    cases own with
    | nil =>
      rw [extracted] at same
      exact Or.inr (Or.inr same)
    | cons digit rest =>
      rw [extracted] at same
      have tight := strip_of_tight (SummaryFacts.plain_orderNo extracted).1
      exact Or.inl (extracted.trans (congrArg some (same.trans tight).symm))

private theorem exists_of_present {value : Option Text} (given : present value = true) :
    ∃ text, value = some text ∧ text ≠ [] := by
  cases value with
  | none => cases given
  | some text => exact ⟨text,rfl,by simpa [present] using given⟩

private theorem orElse_of_absent {value : Option Text} (absent : ¬present value = true) (fallback : Text) :
    orElse value fallback = fallback := by
  cases value with
  | none => rfl
  | some text =>
    cases text with
    | nil => rfl
    | cons char rest => exact absurd (by simp [present]) absent

private theorem supervisor_number {given : Text} (solid : strip given ≠ []) :
    strip (orElse (extractOrderNo state.query) given) ≠ [] := by
  by_cases asked : present (extractOrderNo state.query) = true
  · obtain ⟨number,found,some'⟩ := exists_of_present asked
    rw [found,orElse_of_ne some',strip_of_tight (SummaryFacts.plain_orderNo found).1]
    exact some'
  · rwa [orElse_of_absent asked]

/-- A question with a number of its own is asked about; another is asked about the number of the
route or, without one, the one in the session. -/
theorem own_supervisor_iff
    (given : strip ((either (routeView state).orderNo bound).getD []) ≠ []) :
    Own state.query bound (strip (orElse (extractOrderNo state.query)
        ((either (routeView state).orderNo bound).getD []))) ↔
      present (extractOrderNo state.query) = true ∨ strip ((routeView state).orderNo.getD []) = [] ∨
        Own state.query bound (strip ((routeView state).orderNo.getD [])) := by
  by_cases asked : present (extractOrderNo state.query) = true
  · obtain ⟨number,found,solid⟩ := exists_of_present asked
    have tight := strip_of_tight (SummaryFacts.plain_orderNo found).1
    refine ⟨fun _ => Or.inl asked,fun _ => Or.inl ?_⟩
    rw [found,orElse_of_ne solid,tight]
    exact extractOrderNo_within found
  · rw [orElse_of_absent asked]
    cases route : (routeView state).orderNo with
    | none => exact ⟨fun _ => Or.inr (Or.inl rfl),fun _ => Or.inr rfl⟩
    | some number =>
      have picked : either (some number) bound = some number := by
        have kept := either_orNone state.route.orderNo bound
        have solid : orNone state.route.orderNo = some number := route
        rwa [solid] at kept
      rw [route,picked] at given
      rw [picked]
      constructor
      · intro own
        exact Or.inr (Or.inr own)
      · rintro (own | blank | own)
        · exact absurd own asked
        · exact absurd blank given
        · exact own

private theorem supervisor_lookups_own (anonymous : isPersistentUser state.userId = false)
    (same : (memoryView state).lastOrderNo = bound) :
    (∀ args ∈ orderCalls outside state .supervisor, ∀ number, lookedUp args = some number →
        Own state.query bound number) ↔ Backed outside bound state := by
  subst same
  have looks := supervisor_lookup outside anonymous
  constructor
  · intro own
    by_cases plans : ∀ step ∈ (supervisorArgs outside state).plan.steps, step.capability ≠ .orderQuery
    · exact Or.inl plans
    · obtain ⟨step,planned,capability⟩ : ∃ step ∈ (supervisorArgs outside state).plan.steps,
          step.capability = .orderQuery := by simpa using plans
      have given := planSupervisor_order planned capability
      refine Or.inr ((own_supervisor_iff given).mp (own _ ?_ _ ((looks _).mpr ⟨rfl,?_⟩)))
      · exact List.mem_map.mpr ⟨step,List.mem_filter.mpr ⟨planned,decide_eq_true capability⟩,rfl⟩
      · exact supervisor_number given
  · rintro backed args listed found looked
    obtain ⟨step,kept,rfl⟩ := List.mem_map.mp listed
    obtain ⟨planned,capability⟩ := List.mem_filter.mp kept
    have given := planSupervisor_order planned (of_decide_eq_true capability)
    obtain ⟨rfl,_⟩ := (looks _).mp looked
    rcases backed with plans | backed
    · exact absurd (of_decide_eq_true capability) (plans step planned)
    · exact (own_supervisor_iff given).mpr backed

end

/-! ### A turn -/

/-- The question of a turn, as the security node leaves it. -/
def turnQuery (outside : Outside Score Body) (start : CSState Body) : Text :=
  (securityNode outside start).query.getD start.query

private theorem hydrateSlots_anonymous {outside : Outside Score Body} {state : CSState Body}
    {slots : MemoryState Body} (anonymous : isPersistentUser state.userId = false)
    (hydrated : hydrateSlots outside state = .ok slots) :
    slots.lastOrderNo = (memoryView state).lastOrderNo := by
  have who := anonymous_identity outside.defaultTenant anonymous
  simp only [hydrateSlots,profileOf,who,Bool.false_and,Bool.false_eq_true,if_true,if_false] at hydrated
  obtain rfl := Except.ok.inj hydrated
  exact (either_orNone state.memory.lastOrderNo none).trans (Option.or_none)

/-- Of a turn of an anonymous user at a node: whose it is, what is asked, and that the number bound
before the turn still is, up to the last node. -/
structure Underway (outside : Outside Score Body) (start : CSState Body) (node : Node)
    (state : CSState Body) : Prop where
  user : state.userId = start.userId
  entry : node = .security → state = start
  query : node ≠ .security → state.query = turnQuery outside start
  bound : node ≠ .respond → (memoryView state).lastOrderNo = (memoryView start).lastOrderNo

private theorem ragNode_lastOrderNo {outside : Outside Score Body} {state : CSState Body} {update : Update Body}
    (ran : ragNode outside state = .ok update) : update.lastOrderNo = none := by
  rcases ragNode_cases ran with ⟨signal,upgraded⟩ | ⟨_,_,_,_,rfl⟩
  · unfold ragUpgrade at upgraded
    rw [if_pos signal] at upgraded
    obtain rfl := Option.some.inj upgraded
    rfl
  · rfl

section
variable [LinearOrder Score] [Zero Score] {outside : Outside Score Body} {start : CSState Body}

private theorem bound_kept {state : CSState Body} {node follower : Node} {update : Update Body}
    (anonymous : isPersistentUser state.userId = false) (ran : runNode outside state node = .ok update)
    (edge : successor (state.apply outside.addMessages update) node = some follower)
    (inner : follower ≠ .respond) :
    (memoryView (state.apply outside.addMessages update)).lastOrderNo = (memoryView state).lastOrderNo := by
  cases node with
  | security =>
    obtain rfl := Except.ok.inj ran
    unfold securityNode
    dsimp only
    split <;> rfl
  | router =>
    rcases routerNode_cases ran with ⟨_,rfl⟩ | ⟨slots,hydrated,_,_,set⟩
    · rfl
    · have kept := hydrateSlots_anonymous anonymous hydrated
      change orNone (update.lastOrderNo.getD _) = _
      rw [set,Option.getD_some,kept]
      exact orNone_orNone _
  | rag =>
    change orNone (update.lastOrderNo.getD _) = _
    rw [ragNode_lastOrderNo ran]
    rfl
  | respond => cases edge
  | _ => exact absurd (Option.some.inj edge).symm inner

private theorem underway_keeps (anonymous : isPersistentUser start.userId = false) (state : CSState Body)
    (node : Node) (update : Update Body) (follower : Node) (underway : Underway outside start node state)
    (ran : runNode outside state node = .ok update)
    (edge : successor (state.apply outside.addMessages update) node = some follower) :
    Underway outside start follower (state.apply outside.addMessages update) := by
  have lower := successor_rank edge
  have later : follower ≠ .security := by
    rintro rfl
    cases node <;> exact absurd lower (by decide)
  have inner : node ≠ .respond := by
    rintro rfl
    cases edge
  refine ⟨underway.user,fun first => absurd first later,fun _ => ?_,fun middle => ?_⟩
  · by_cases first : node = .security
    · subst first
      obtain rfl := underway.entry rfl
      obtain rfl : securityNode outside state = update := Except.ok.inj ran
      rfl
    · exact (apply_aside (aside_of_ran ⟨first,inner⟩ ran)).1.trans (underway.query first)
  · exact (bound_kept (underway.user ▸ anonymous) ran edge middle).trans (underway.bound inner)

private theorem visits_underway (anonymous : isPersistentUser start.userId = false) :
    ∀ visit ∈ visits outside start, Underway outside start visit.node visit.before :=
  walk_invariant (underway_keeps anonymous) ⟨rfl,fun _ => rfl,fun late => absurd rfl late,fun _ => rfl⟩

/-- The numbers that the tool node and the plans of the supervisor look up in a turn. -/
def lookups (outside : Outside Score Body) (start : CSState Body) : List Text :=
  (visits outside start).flatMap (fun visit =>
    (orderCalls outside visit.before visit.node).filterMap lookedUp)

/-- An anonymous turn looks up the user's own numbers exactly when every plan of the supervisor
has one. -/
theorem anonymous_lookups_own_iff (outside : Outside Score Body) (start : CSState Body)
    (anonymous : isPersistentUser start.userId = false) :
    (∀ number ∈ lookups outside start,
        Own (turnQuery outside start) (memoryView start).lastOrderNo number) ↔
      ∀ visit ∈ visits outside start, visit.node = .supervisor →
        Backed outside (memoryView start).lastOrderNo visit.before := by
  have underway : ∀ visit ∈ visits outside start, Underway outside start visit.node visit.before :=
    visits_underway anonymous
  have supervised (visit : NodeVisit Body) (listed : visit ∈ visits outside start)
      (at' : visit.node = .supervisor) :
      (∀ args ∈ orderCalls outside visit.before .supervisor, ∀ number, lookedUp args = some number →
          Own (turnQuery outside start) (memoryView start).lastOrderNo number) ↔
        Backed outside (memoryView start).lastOrderNo visit.before := by
    have here := underway visit listed
    rw [at'] at here
    rw [← here.query (by decide)]
    exact supervisor_lookups_own (here.user ▸ anonymous) (here.bound (by decide))
  constructor
  · intro own visit listed at'
    refine (supervised visit listed at').mp (fun args called number looked => own number ?_)
    refine List.mem_flatMap.mpr ⟨visit,listed,List.mem_filterMap.mpr ⟨args,?_,looked⟩⟩
    rwa [at']
  · intro backed number found
    obtain ⟨visit,listed,found⟩ := List.mem_flatMap.mp found
    obtain ⟨args,called,looked⟩ := List.mem_filterMap.mp found
    have here := underway visit listed
    cases at' : visit.node with
    | supervisor =>
      rw [at'] at called
      exact (supervised visit listed at').mpr (backed visit listed at') args called number looked
    | tool =>
      rw [at'] at called here
      obtain rfl := List.mem_singleton.mp called
      have own := tool_lookup_own (here.user ▸ anonymous) looked
      rwa [here.query (by decide),here.bound (by decide)] at own
    | _ =>
      rw [at'] at called
      cases called

theorem anonymous_lookups_own_iff_asked :
    isPersistentUser (freshTurn "" "查询订单20251114001的进度").userId = false ∧
      ((∀ number ∈ lookups bareOutside (freshTurn "" "查询订单20251114001的进度"),
          Own (turnQuery bareOutside (freshTurn "" "查询订单20251114001的进度"))
            (memoryView (freshTurn "" "查询订单20251114001的进度")).lastOrderNo number) ↔
        ∀ visit ∈ visits bareOutside (freshTurn "" "查询订单20251114001的进度"),
          visit.node = .supervisor →
            Backed bareOutside (memoryView (freshTurn "" "查询订单20251114001的进度")).lastOrderNo
              visit.before) :=
  ⟨by decide,anonymous_lookups_own_iff bareOutside _ (by decide)⟩

end

/-- A model that takes a question for a mixed one and makes a number up. -/
def inventingOutside : Outside Int Unit :=
  { bareOutside with
    reply := fun _ _ _ => .answered
      (decisionOf .mixed "llm-intent" (.number (9/10)) (some "20251114001".toList) none false none) }

theorem invented_number_looked_up :
    ¬∀ (outside : Outside Int Unit) (start : CSState Unit), isPersistentUser start.userId = false →
      ∀ number ∈ lookups outside start,
        Own (turnQuery outside start) (memoryView start).lastOrderNo number := by
  intro law
  have own := law inventingOutside (freshTurn "" "帮我看看这个吧") (by decide) "20251114001".toList
    (by decide +kernel)
  unfold Own at own
  exact absurd own (by decide +kernel)

end CustomerService.ChatGraph
