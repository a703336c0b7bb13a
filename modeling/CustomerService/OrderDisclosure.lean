import CustomerService.OrderQuery

/-! Histories of queries: the orders change, the sessions and the shared store keep what was
shown, and a later call may show it again. -/
namespace CustomerService.OrderDisclosure
open Text ThreadKey OrderAccess OrderReport ToolCache OrderQuery Transition

/-- A call and what its caller does with the answer: `snapshot` counts back to one of the
reports that the thread of its session has held, `keeps` is the time at which the report
goes into that session. A call without a session reads and keeps nothing there. -/
structure Call where
  settings : Settings
  tenancy : Tenancy
  now : ℚ
  args : QueryArgs
  sessionId : Option Text
  snapshot : Nat
  fate : Fate
  escalates : Bool
  keeps : Option ℚ
  tenant_valid : isTenantId args.tenantId = true

def Call.thread (call : Call) : Option Text :=
  call.sessionId.map (fun session => makeThreadId call.args.tenantId session call.args.userId)

structure World (Body : Type) where
  table : OrderTable
  past : List OrderTable
  store : Store Body
  held : List (Text × Report × ℚ)

inductive Event (Body : Type)
  | query (call : Call)
  | course (settings : Settings) (now : ℚ) (result : CourseConsultResult Body)
    (resourceKey tenantId userId : Text)
  | change (table : OrderTable)
  | evict (key : Text)

variable {Body : Type} (rendering : Rendering)

namespace World

def heldBy (world : World Body) (thread : Text) : List (Report × ℚ) :=
  (world.held.filter (fun entry => entry.1 = thread)).map Prod.snd

def session (world : World Body) (call : Call) : SessionToolCacheState Body :=
  {emptySession with
    lastOrderStructured := call.thread.bind (fun thread => (world.heldBy thread)[call.snapshot]?)}

def host (world : World Body) (call : Call) : Host Body where
  settings := call.settings
  rendering := rendering
  table := world.table
  tenancy := call.tenancy
  session := world.session call
  store := world.store
  now := call.now

def answer (world : World Body) (call : Call) : Except QueryError Report × Store Body :=
  queryOrder (world.host rendering call) call.args call.fate call.escalates

def start (table : OrderTable) : World Body := ⟨table,[],∅,[]⟩

end World

/-- The entry that the caller adds to the slots of its session. -/
def Call.entries (call : Call) (answer : Except QueryError Report) : List (Text × Report × ℚ) :=
  match call.thread, call.keeps, answer with
  | some thread, some later, .ok report =>
    (sessionUpdatesForOrder report later).toList.map (fun cached => (thread,cached))
  | _, _, _ => []

def step (world : World Body) : Event Body → World Body
  | .query call =>
    {world with
      store := (world.answer rendering call).2
      held := call.entries (world.answer rendering call).1 ++ world.held}
  | .course settings now result resourceKey tenantId userId =>
    {world with store := putCachedCourse settings world.store now result resourceKey tenantId userId}
  | .change table => {world with table := table, past := world.table::world.past}
  | .evict key => {world with store := Dict.erase world.store key}

/-! Where kept reports come from. -/

/-- The report is one of an order that the tenant has or had. -/
def Told (world : World Body) (tenantId : Text) (report : Report) : Prop :=
  isCacheableOrderReport report = true ∧ ∃ table ∈ world.table::world.past, ∃ order ∈ table.rows,
    order.tenantId = tenantId ∧ isOrderNo order.orderNo = true ∧ Tells rendering order report

structure Sourced (world : World Body) : Prop where
  held : ∀ entry ∈ world.held, ∃ tenantId sessionId userId, isTenantId tenantId = true ∧
    entry.1 = makeThreadId tenantId sessionId userId ∧ Told rendering world tenantId entry.2.1
  store : world.store.Holds (fun key blob => ∀ report cachedAt, blob = .order report cachedAt →
    ∃ tenantId userId, isTenantId tenantId = true ∧
      key = redisKey tenantId userId TOOL_ORDER report.orderNo ∧
        Told rendering world tenantId report)

variable {rendering} {world : World Body} {call : Call} {report : Report}

private theorem annotateStaleOrder_cacheable (age : ℚ) :
    isCacheableOrderReport (annotateStaleOrder report age) = isCacheableOrderReport report := rfl

private theorem mem_session {cachedAt : ℚ}
    (slot : (world.session call).lastOrderStructured = some (report,cachedAt)) :
    ∃ sessionId, (makeThreadId call.args.tenantId sessionId call.args.userId,report,cachedAt) ∈
      world.held := by
  obtain ⟨thread,named,listed⟩ := Option.bind_eq_some_iff.mp slot
  obtain ⟨sessionId,_,rfl⟩ := Option.map_eq_some_iff.mp named
  obtain ⟨⟨owner,cached⟩,member,same⟩ := List.mem_map.mp (List.mem_of_getElem? listed)
  cases same
  have here := (List.mem_filter.mp member).2
  simp only [decide_eq_true_eq] at here
  exact ⟨sessionId,here ▸ (List.mem_filter.mp member).1⟩

/-- A report kept under the number, in the session or in the shared store, is one of an
order with that number in the tenant of the caller. -/
theorem Sourced.keeps (sourced : Sourced rendering world) {number : Text} {cachedAt : ℚ}
    (fits : isOrderNo number = true)
    (keeps : Keeps (world.session call) world.store call.now call.args.tenantId call.args.userId
      number report cachedAt) :
    report.orderNo = number ∧ Told rendering world call.args.tenantId report := by
  cases keeps with
  | session slot same =>
    obtain ⟨sessionId,member⟩ := mem_session slot
    obtain ⟨tenantId,session,userId,valid,thread,told⟩ := sourced.held _ member
    have tenant := makeThreadId_tenant call.tenant_valid valid thread
    rw [← tenant] at told
    have ⟨_,_,_,order,_,_,digits,tells⟩ := told
    refine ⟨?_,told⟩
    rw [← same,tells.orderNo]
    exact (isOrderNo_plain digits).1.symm
  | shared found =>
    obtain ⟨row,present,blob⟩ := Store.of_get found
    obtain ⟨tenantId,userId,valid,key,told⟩ := sourced.store _ row present report cachedAt blob
    obtain ⟨tenant,_,_,safe⟩ := redisKey_inj (isTenantId_plain call.tenant_valid).2.1
      (isTenantId_plain valid).2.1 (by decide) (by decide) key
    rw [← tenant] at told
    have ⟨_,_,_,order,_,_,digits,tells⟩ := told
    refine ⟨?_,told⟩
    rw [(isOrderNo_plain fits).2,tells.orderNo,(isOrderNo_plain digits).2] at safe
    rw [safe,tells.orderNo]

theorem Sourced.answer (sourced : Sourced rendering world)
    (answer : (world.answer rendering call).1 = .ok report)
    (cacheable : isCacheableOrderReport report = true) :
    Told rendering world call.args.tenantId report := by
  refine ⟨cacheable,?_⟩
  cases queryOrder_shows (isTenantId_plain call.tenant_valid).1 answer with
  | fresh resolved fits accessible tells =>
    exact ⟨world.table,List.mem_cons_self,_,accessible.listed,accessible.tenant,
      accessible.number ▸ fits,tells⟩
  | stale resolves fails enabled accessible keeps shown =>
    have digits := (canAccessOrder_accessible (isTenantId_plain call.tenant_valid).1 accessible).1
    rw [strip_of_tight (tight_strip _)] at digits
    obtain ⟨_,_,table,known,order,listed,tenant,plain,tells⟩ := sourced.keeps digits keeps
    exact ⟨table,known,order,listed,tenant,plain,shown ▸ .stale tells _⟩
  | busy orderNo message shown =>
    rw [shown,busyReport_not_cacheable] at cacheable
    cases cacheable

/-! The invariant. -/

theorem Told.grows {world' : World Body} {tenantId : Text}
    (told : Told rendering world tenantId report)
    (grows : ∀ table ∈ world.table::world.past, table ∈ world'.table::world'.past) :
    Told rendering world' tenantId report := by
  obtain ⟨cacheable,table,known,rest⟩ := told
  exact ⟨cacheable,table,grows table known,rest⟩

theorem Sourced.start (table : OrderTable) : Sourced rendering (World.start table : World Body) where
  held := by
    intro entry inside
    cases inside
  store := by
    intro key row found
    cases found

private theorem mem_entries {entry : Text × Report × ℚ} {answer : Except QueryError Report}
    (member : entry ∈ call.entries answer) :
    answer = .ok entry.2.1 ∧ isCacheableOrderReport entry.2.1 = true ∧
      ∃ sessionId, entry.1 = makeThreadId call.args.tenantId sessionId call.args.userId := by
  unfold Call.entries at member
  split at member
  · rename_i thread later report named _
    obtain ⟨sessionId,_,rfl⟩ := Option.map_eq_some_iff.mp named
    unfold sessionUpdatesForOrder at member
    split at member
    · rename_i cacheable
      simp only [Option.toList_some,List.map_cons,List.map_nil,List.mem_singleton] at member
      rw [member]
      exact ⟨rfl,cacheable,sessionId,rfl⟩
    · cases member
  · cases member

theorem Sourced.step (sourced : Sourced rendering world) (event : Event Body) :
    Sourced rendering (step rendering world event) := by
  cases event with
  | query call =>
    constructor
    · intro entry inside
      rcases List.mem_append.mp inside with fresh | old
      · obtain ⟨answer,cacheable,sessionId,thread⟩ := mem_entries fresh
        exact ⟨call.args.tenantId,sessionId,call.args.userId,call.tenant_valid,thread,
          sourced.answer answer cacheable⟩
      · exact sourced.held entry old
    · rcases queryOrder_store (world.host rendering call) call.args call.fate call.escalates
          (isTenantId_plain call.tenant_valid).1 with
        same | ⟨number,order,report,fits,accessible,tells,put⟩
      · change Store.Holds (world.answer rendering call).2 _
        rw [World.answer,same]
        exact sourced.store
      · change Store.Holds (world.answer rendering call).2 _
        rw [World.answer,put]
        refine Store.Holds.putCachedOrder sourced.store (fun cacheable => ?_)
        intro other cachedAt blob
        cases blob
        have plain := accessible.number ▸ fits
        rw [tells.orderNo,(isOrderNo_plain plain).1]
        refine ⟨call.args.tenantId,call.args.userId,call.tenant_valid,rfl,cacheable,?_⟩
        exact ⟨world.table,List.mem_cons_self,order,accessible.listed,accessible.tenant,plain,tells⟩
  | course settings now result resourceKey tenantId userId =>
    refine ⟨sourced.held,sourced.store.putCachedCourse (fun _ report cachedAt blob => ?_)⟩
    cases blob
  | change table =>
    have grows : ∀ old ∈ world.table::world.past, old ∈ table::world.table::world.past :=
      fun _ inside => List.mem_cons_of_mem _ inside
    constructor
    · intro entry inside
      obtain ⟨tenantId,sessionId,userId,valid,thread,told⟩ := sourced.held entry inside
      exact ⟨tenantId,sessionId,userId,valid,thread,told.grows grows⟩
    · refine sourced.store.imp (fun key blob kind report cachedAt same => ?_)
      obtain ⟨tenantId,userId,valid,here,told⟩ := kind report cachedAt same
      exact ⟨tenantId,userId,valid,here,told.grows grows⟩
  | evict key => exact ⟨sourced.held,sourced.store.erase key⟩

/-! What a call may show. -/

def CarriesOrderData (report : Report) : Prop :=
  ∀ orderNo message, report ≠ busyReport orderNo message

/-- The report is one of the order of the number the request names, which the caller may
see at the moment. -/
def Guarded (rendering : Rendering) (world : World Body) (call : Call) : Prop :=
  ∀ report, (world.answer rendering call).1 = .ok report → CarriesOrderData report →
    ∃ number, resolveOrderNumber call.args = .ok (some number) ∧ report.orderNo = number ∧
      (∃ order, Accessible world.table call.args.tenantId call.args.userId number order) ∧
      ∃ table ∈ world.table::world.past, ∃ order ∈ table.rows,
        order.tenantId = call.args.tenantId ∧ order.orderNo = number ∧ Tells rendering order report

/-- The call must name its number and names none, the pool fails, and the report of the
last number, which the caller may see, is kept. -/
structure Strays (world : World Body) (call : Call) : Prop where
  explicit : call.args.requireExplicitOrderNo = true
  blank : call.args.orderNo.getD [] = []
  fails : call.fate.fails = true
  enabled : call.settings.toolCacheEnabled = true
  accessible : canAccessOrder world.table call.tenancy (strip (call.args.lastOrderNo.getD []))
    call.args.tenantId call.args.userId = true
  kept : ∃ report cachedAt, Keeps (world.session call) world.store call.now call.args.tenantId
    call.args.userId (strip (call.args.lastOrderNo.getD [])) report cachedAt

private theorem resolved_none {args : QueryArgs} (resolves : resolveOrderNumber args = .ok none) :
    args.requireExplicitOrderNo = true ∧ strip (args.orderNo.getD []) = [] := by
  unfold resolveOrderNumber at resolves
  split at resolves
  · rename_i explicit
    refine ⟨explicit,?_⟩
    have missing := Except.ok.inj resolves
    unfold explicitOrderNo at missing
    dsimp only at missing
    split at missing
    · rename_i blank
      cases extracted : SummaryFacts.extractOrderNo (args.orderNo.getD []) with
      | none => simpa [extracted,orElse] using blank
      | some digits =>
        cases digits with
        | nil => simpa [extracted,orElse] using blank
        | cons char rest => simp [extracted,orElse] at blank
    · cases missing
  · cases found : resolveQueryOrderNo args.query args.orderNo args.userId args.lastOrderNo with
    | error _ =>
      rw [found] at resolves
      cases resolves
    | ok number =>
      rw [found] at resolves
      cases resolves

private theorem resolved_of_blank {args : QueryArgs} (explicit : args.requireExplicitOrderNo = true)
    (blank : args.orderNo.getD [] = []) : resolveOrderNumber args = .ok none := by
  rw [resolveOrderNumber,if_pos explicit,explicitOrderNo,blank]
  rfl

private theorem fallbackOrderNo_some {args : QueryArgs} {number : Text} (solid : number ≠ []) :
    fallbackOrderNo args (some number) = number := orElse_of_ne solid

private theorem fallbackOrderNo_blank {args : QueryArgs} (blank : args.orderNo.getD [] = []) :
    fallbackOrderNo args none = args.lastOrderNo.getD [] := by
  unfold fallbackOrderNo
  cases given : args.orderNo with
  | none => rfl
  | some text =>
    rw [given] at blank
    cases text with
    | nil => rfl
    | cons char rest => cases blank

private theorem fallback_unresolved {args : QueryArgs} (blank : strip (args.orderNo.getD []) = [])
    (digits : isOrderNo (strip (fallbackOrderNo args none)) = true) :
    args.orderNo.getD [] = [] := by
  cases given : args.orderNo with
  | none => rfl
  | some text =>
    cases text with
    | nil => rfl
    | cons char rest =>
      rw [given] at blank
      rw [fallbackOrderNo,given] at digits
      change isOrderNo (strip (char::rest)) = true at digits
      change strip (char::rest) = [] at blank
      rw [blank] at digits
      cases digits

theorem Sourced.guarded (sourced : Sourced rendering world) (holds : ¬Strays world call) :
    Guarded rendering world call := by
  have given := (isTenantId_plain call.tenant_valid).1
  intro report answer carries
  cases queryOrder_shows given answer with
  | fresh resolved fits accessible tells =>
    refine ⟨_,resolved,tells.orderNo.trans accessible.number,⟨_,accessible⟩,world.table,
      List.mem_cons_self,_,accessible.listed,accessible.tenant,accessible.number,tells⟩
  | busy orderNo message shown => exact absurd shown (carries orderNo message)
  | @stale resolved cached cachedAt resolves fails enabled accessible keeps shown =>
    obtain ⟨digits,present⟩ := canAccessOrder_accessible given accessible
    rw [strip_of_tight (tight_strip _)] at digits present
    obtain ⟨named,told⟩ := sourced.keeps digits keeps
    cases resolved with
    | none =>
      obtain ⟨explicit,blank⟩ := resolved_none resolves
      have empty := fallback_unresolved blank digits
      rw [fallbackOrderNo_blank empty] at accessible keeps
      exact absurd ⟨explicit,empty,fails,enabled,accessible,_,_,keeps⟩ holds
    | some number =>
      obtain ⟨tight,solid⟩ := tight_resolved resolves
      rw [fallbackOrderNo_some solid,tight] at named present
      obtain ⟨_,table,known,order,listed,tenant,_,tells⟩ := told
      exact ⟨number,resolves,shown ▸ named,present,table,known,order,listed,tenant,
        tells.orderNo.symm.trans named,shown ▸ .stale tells _⟩

theorem Sourced.strays (sourced : Sourced rendering world) (strays : Strays world call) :
    ¬Guarded rendering world call := by
  have given := (isTenantId_plain call.tenant_valid).1
  intro guarded
  obtain ⟨report,cachedAt,keeps⟩ := strays.kept
  have digits := (canAccessOrder_accessible given strays.accessible).1
  rw [strip_of_tight (tight_strip _)] at digits
  have solid : strip (call.args.lastOrderNo.getD []) ≠ [] := by
    intro empty
    rw [empty] at digits
    cases digits
  have resolves := resolved_of_blank strays.explicit strays.blank
  have fallback := fallbackOrderNo_blank strays.blank
  obtain ⟨shown,shownAt,age,kept,answer⟩ := queryOrder_falls (world.host rendering call)
    call.escalates resolves strays.fails strays.enabled (by rwa [fallback])
    (by rw [fallback]; exact strays.accessible) (by rw [fallback]; exact keeps)
  rw [fallback] at kept
  obtain ⟨_,cacheable,_⟩ := sourced.keeps digits kept
  have carries : CarriesOrderData (annotateStaleOrder shown age) := by
    intro orderNo message same
    have busy := busyReport_not_cacheable orderNo message
    rw [← same,annotateStaleOrder_cacheable,cacheable] at busy
    cases busy
  obtain ⟨number,named,_⟩ := guarded _ answer carries
  rw [resolves] at named
  cases named

theorem guarded_iff (rendering : Rendering) (table : OrderTable) (events : List (Event Body))
    (call : Call) :
    Guarded rendering (run (step rendering) (World.start table) events) call ↔
      ¬Strays (run (step rendering) (World.start table) events) call := by
  have sourced : Sourced rendering (run (step rendering) (World.start table : World Body) events) :=
    run_invariant (fun _ event before => before.step event) (.start table) events
  exact ⟨fun guarded strays => sourced.strays strays guarded,sourced.guarded⟩

def plainRendering : Rendering := ⟨fun _ => 0⟩

def firstCall : Call where
  settings := ⟨true,300,1800⟩
  tenancy := ⟨"demo".toList,"u1".toList⟩
  now := 0
  args := ⟨"#20251114001".toList,none,"demo".toList,"u1".toList,none,false,false⟩
  sessionId := none
  snapshot := 0
  fate := .runs none
  escalates := false
  keeps := none
  tenant_valid := by decide

/-- The number must be named and is not; the pool is busy. -/
def unnamedCall : Call :=
  {firstCall with
    now := 60
    args := ⟨[],none,"demo".toList,"u1".toList,some "20251114001".toList,false,true⟩
    fate := .busy []}

theorem unnamed_order_shown : ¬∀ (rendering : Rendering) (table : OrderTable)
    (events : List (Event Unit)) (call : Call),
    Guarded rendering (run (step rendering) (World.start table) events) call := by
  intro always
  refine Sourced.strays ((Sourced.start oneOrder).step (.query firstCall)) ?_
    (always plainRendering oneOrder [.query firstCall] unnamedCall)
  have kept : Store.get (step plainRendering (World.start oneOrder : World Unit)
      (.query firstCall)).store 60 (redisKey "demo".toList "u1".toList TOOL_ORDER
        "20251114001".toList) = some (.order (ofOrder plainRendering paidOrder
          "#20251114001".toList) 0) := by
    decide +kernel
  exact ⟨rfl,rfl,rfl,rfl,by decide,_,_,.shared kept⟩

end CustomerService.OrderDisclosure
