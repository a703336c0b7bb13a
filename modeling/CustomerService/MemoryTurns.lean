import CustomerService.LongTermMemory
import CustomerService.OrderQuery
import CustomerService.Routing

/-! The nodes of the graph for one signed-in user, whose sessions share a profile. What the
user asks, how it is classified and what the tools answer is given from outside. -/
namespace CustomerService.MemoryTurns
open Text OrderAccess OrderReport OrderQuery LongTermMemory Routing Transition

/-- A user with a profile, as `IdentityView` names the tenant and the user. -/
structure Account where
  tenantId : Text
  userId : Text
  tenant_given : tenantId ≠ []
  persistent : isPersistentUser userId = true

structure SessionSlots where
  lastIntent : Option Text
  lastOrderNo : Option Text
  lastCourseQuery : Option Text
  lastCourseName : Option Text
  handoffPending : Bool

/-- The fields of the state that reach the profile; the intent is empty when there is none. -/
structure CSState where
  intent : Text
  orderNo : Option Text
  courseQuery : Option Text
  blocked : Bool
  slots : SessionSlots

structure SupervisorDecision where
  asksUser : Bool
  finalIntent : Text
  reason : Text
  boundOrderNo : Option Text
  boundCourseQuery : Option Text

/-- A node with what comes from outside; `hydrate` puts archived slots into the session. -/
inductive Node
  | hydrate (slots : SessionSlots)
  | security (allowed : Bool)
  | router (decision : RouteDecision)
  | rag (query expanded : Text) (courseName : Text)
  | tool (answer : Except QueryError Report)
  | supervisor (decision : SupervisorDecision)
  | chitchat
  | handoff
  | respond

inductive Event
  | node (session : Text) (node : Node) (enabled : Bool) (access : Access) (now : Text)
  | expire

structure World where
  stores : Stores
  sessions : Text → CSState

def BUSINESS_INTENTS : List Text :=
  ["course_consult".toList,"order".toList,"mixed".toList,"handoff".toList]

def AUTO_HANDOFF : List Text :=
  ["transient_exhausted".toList,"react_limit".toList,"tool-escalation".toList]

/-- The state with the updates of `slot_updates_after_turn`; a field that is not given stays. -/
def slotUpdatesAfterTurn (slots : SessionSlots) (intent : Text)
    (orderNo courseQuery courseName : Option Text) : SessionSlots where
  lastIntent := if BUSINESS_INTENTS.contains intent then some intent else slots.lastIntent
  lastOrderNo := (orNone orderNo).or slots.lastOrderNo
  lastCourseQuery := (orNone courseQuery).or slots.lastCourseQuery
  lastCourseName := (usableCourseName courseName).or slots.lastCourseName
  handoffPending := decide (intent = "handoff".toList)

def overlayUserMemory (slots : SessionSlots) (memory : UserMemory) : SessionSlots where
  lastIntent := (orNone slots.lastIntent).or memory.lastIntent
  lastOrderNo := (orNone slots.lastOrderNo).or memory.lastOrderNo
  lastCourseQuery := (orNone slots.lastCourseQuery).or memory.lastCourseQuery
  lastCourseName := (orNone slots.lastCourseName).or memory.lastCourseName
  handoffPending := slots.handoffPending || memory.handoffPending

variable (table : OrderTable) (tenancy : Tenancy) (account : Account)

/-- `can_access_order`, of a number that may be missing. -/
def accessible (orderNo : Option Text) : Option Text :=
  match orNone orderNo with
  | none => none
  | some number =>
    if canAccessOrder table tenancy number account.tenantId account.userId then some number else none

def hydrateSlots (slots : SessionSlots) (memory : UserMemory) : SessionSlots :=
  let overlaid := overlayUserMemory slots memory
  {overlaid with lastOrderNo := accessible table tenancy account overlaid.lastOrderNo}

/-- What `persist_from_state` hands to `save_user_memory`. -/
def persistArgs (state : CSState) : SaveArgs where
  intent := orNone (some state.intent)
  orderNo := accessible table tenancy account ((orNone state.orderNo).or state.slots.lastOrderNo)
  courseQuery := (orNone state.courseQuery).or (orNone state.slots.lastCourseQuery)
  courseName := orNone state.slots.lastCourseName
  handoffPending := if state.intent = "handoff".toList then some state.slots.handoffPending else none

def handoffState (state : CSState) : CSState :=
  {state with
    intent := "handoff".toList
    slots := slotUpdatesAfterTurn state.slots "handoff".toList none none none}

def securityNode (state : CSState) (allowed : Bool) : CSState :=
  {state with
    intent := if allowed then [] else "chitchat".toList
    orderNo := none
    courseQuery := none
    blocked := !allowed}

def routerNode (state : CSState) (memory : UserMemory) (decision : RouteDecision) : CSState :=
  if state.blocked then state
  else
    {state with
      intent := decision.intent.name
      orderNo := decision.orderNo
      courseQuery := decision.courseQuery
      slots := hydrateSlots table tenancy account state.slots memory}

/-- The state after the node, and whether it is persisted. -/
def ragNode (state : CSState) (query expanded courseName : Text) : CSState × Bool :=
  if queryHasOrderSignal query then
    ({state with
      intent := Intent.mixed.name
      orderNo := either state.orderNo (extractQueryOrderNo query)
      courseQuery := some expanded},false)
  else
    ({state with
      slots := slotUpdatesAfterTurn state.slots "course_consult".toList none (some expanded)
        (some courseName)},true)

def toolNode (state : CSState) (answer : Except QueryError Report) : CSState × Bool :=
  match answer with
  | .ok report =>
    ({state with
      orderNo := some report.orderNo
      slots := slotUpdatesAfterTurn state.slots "order".toList (some report.orderNo) none none},true)
  | .error .escalated => (handoffState state,true)
  | .error (.other _) => (state,false)
  | .error _ => ({state with intent := "order".toList},false)

def supervisorNode (state : CSState) (decision : SupervisorDecision) : CSState × Bool :=
  if decision.finalIntent = "handoff".toList ∧ AUTO_HANDOFF.contains decision.reason = true then
    (handoffState state,true)
  else
    let intent := orElse (some decision.finalIntent) (orElse (some state.intent) "mixed".toList)
    if decision.asksUser then ({state with intent := intent},false)
    else
      let bound := accessible table tenancy account
        ((orNone decision.boundOrderNo).or ((orNone state.orderNo).or state.slots.lastOrderNo))
      ({state with
        intent := intent
        slots := slotUpdatesAfterTurn state.slots intent bound
          ((orNone decision.boundCourseQuery).or
            ((orNone state.courseQuery).or state.slots.lastCourseQuery)) none},true)

/-- The router loads the profile, when the turn is not blocked. -/
def Node.loads (state : CSState) : Node → Bool
  | .router _ => !state.blocked
  | _ => false

def nodeResult (state : CSState) (memory : UserMemory) : Node → CSState × Bool
  | .hydrate slots => ({state with slots := slots},false)
  | .security allowed => (securityNode state allowed,false)
  | .router decision => (routerNode table tenancy account state memory decision,false)
  | .rag query expanded courseName => ragNode state query expanded courseName
  | .tool answer => toolNode state answer
  | .supervisor decision => supervisorNode table tenancy account state decision
  | .handoff => (handoffState state,true)
  | .chitchat | .respond => (state,false)

def step (world : World) : Event → World
  | .expire => {world with stores := {world.stores with hot := none}}
  | .node session node enabled access now =>
    let state := world.sessions session
    let loaded :=
      if node.loads state then loadUserMemory account.userId world.stores access
      else (blank,world.stores)
    let result := nodeResult table tenancy account state loaded.1 node
    { stores :=
        if result.2 then
          saveUserMemory account.userId enabled loaded.2 access
            (persistArgs table tenancy account result.1) now
        else loaded.2
      sessions := Function.update world.sessions session result.1 }

def freshState : CSState := ⟨[],none,none,false,⟨none,none,none,none,false⟩⟩

def World.start : World := ⟨⟨none,none⟩,fun _ => freshState⟩

/-! Numbers. -/

/-- The number, trimmed, is that of an order of the user in the tenant. -/
def Owned (number : Text) : Prop :=
  ∃ order ∈ table.rows, order.tenantId = account.tenantId ∧ order.orderNo = strip number ∧
    order.userId = normalizeUserId account.userId

variable {table tenancy account}

private theorem accessible_owned {orderNo : Option Text} {number : Text}
    (given : accessible table tenancy account orderNo = some number) : Owned table account number := by
  unfold accessible at given
  split at given
  · cases given
  · split at given
    · rename_i allowed
      cases given
      obtain ⟨_,order,may⟩ := canAccessOrder_accessible account.tenant_given allowed
      exact ⟨order,may.listed,may.tenant,may.number,may.owner account.persistent⟩
    · cases given

private theorem persistArgs_owned {state : CSState} {number : Text}
    (saved : (persistArgs table tenancy account state).order = some number) :
    Owned table account number := accessible_owned (Option.filter_eq_some_iff.mp saved).1

private theorem step_names {world : World} (names : world.stores.Names (Owned table account)) (event : Event) :
    (step table tenancy account world event).stores.Names (Owned table account) := by
  cases event with
  | expire =>
    refine ⟨fun value same => ?_,names.cold⟩
    cases same
  | node session node enabled access now =>
    unfold step
    dsimp only
    have loaded : (if node.loads (world.sessions session) then
        loadUserMemory account.userId world.stores access else (blank,world.stores)).2.Names
          (Owned table account) := by
      split
      · exact (names.load account.userId access).2
      · exact names
    generalize (if node.loads (world.sessions session) then
      loadUserMemory account.userId world.stores access else (blank,world.stores)) = result at loaded ⊢
    split
    · exact loaded.save account.userId enabled access (fun _ => persistArgs_owned) now
    · exact loaded

private theorem run_names (table : OrderTable) (tenancy : Tenancy) (account : Account) (events : List Event) :
    (run (step table tenancy account) World.start events).stores.Names (Owned table account) := by
  have start : World.start.stores.Names (Owned table account) := by
    constructor
    · intro value same
      cases same
    · intro value same
      cases same
  exact @run_invariant World Event _ (fun world => world.stores.Names (Owned table account))
    (fun _ event before => step_names before event) _ start events

/-- Whatever is asked, classified and answered: both copies of the profile name orders of
the user only, and so does the slot that the router writes next, in whatever session. -/
theorem memory_names_own_orders (table : OrderTable) (tenancy : Tenancy) (account : Account)
    (events : List Event) :
    (∀ profile, (run (step table tenancy account) World.start events).stores.hot = some profile ∨
        (run (step table tenancy account) World.start events).stores.cold = some profile →
      Names (Owned table account) profile) ∧
    ∀ session decision enabled access now number,
      ((run (step table tenancy account) World.start events).sessions session).blocked = false →
      ((step table tenancy account (run (step table tenancy account) World.start events)
        (.node session (.router decision) enabled access now)).sessions session).slots.lastOrderNo =
          some number → Owned table account number := by
  have names := run_names table tenancy account events
  constructor
  · intro profile kept
    exact kept.elim (names.hot profile) (names.cold profile)
  · intro session decision enabled access now number passed slot
    simp only [step,nodeResult,Function.update_self,routerNode,passed] at slot
    exact accessible_owned slot

def demoAccount (userId : Text) (persistent : isPersistentUser userId = true) : Account :=
  ⟨"demo".toList,userId,by decide,persistent⟩

def boundTurn : List Event :=
  [.node [] (.supervisor ⟨false,"order".toList,[],some "20251114001".toList,none⟩) true
    ⟨true,true,true,true⟩ []]

/-- The number is kept for the owner of the order, and not for another user. -/
example :
    ((run (step oneOrder ⟨[],[]⟩ (demoAccount "u1".toList (by decide))) World.start
        boundTurn).stores.cold.map UserMemory.recentOrderNos) = some ["20251114001".toList] ∧
      ((run (step oneOrder ⟨[],[]⟩ (demoAccount "u2".toList (by decide))) World.start
        boundTurn).stores.cold.map UserMemory.recentOrderNos) = some [] := by
  constructor
  · decide +kernel
  · decide +kernel

end CustomerService.MemoryTurns
