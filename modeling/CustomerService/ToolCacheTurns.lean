import CustomerService.ToolEscalation

/-! Turns over the cached tool results. The tools are called on the way of a turn, by the
nodes of the graph, by the capabilities or by the ReACT agent; the calls of several turns
may alternate. What is fetched afresh goes into a log that no function reads. -/
namespace CustomerService.ToolCacheTurns
open Text ThreadKey OrderAccess OrderReport ToolCache OrderQuery Supervisor Transition
open ToolEscalation (EscalationSettings Ledger Consulted CourseHost freshLedger isLlmDegradable courseKey
  onLlmFailure consultCourse streamCourseAnswer onCourseFailure)
open FailingPrograms (Ends ends_iff ends_pure ends_throw ends_bind ends_catch)

structure Turn where
  identity : Identity
  start : ℚ
  finish : ℚ
  deriving DecidableEq

/-- What a call of a tool finds: `now` is when it reads and writes the shared store, `later`
when its result is stamped for the session. The snapshots count back to one of the entries
that the slots of the thread have held. The ledger has the failures of the scope so far. -/
structure Moment where
  turn : Turn
  settings : Settings
  escalation : EscalationSettings
  ledger : Ledger
  table : OrderTable
  tenancy : Tenancy
  orderSnapshot : Nat
  courseSnapshot : Nat
  now : ℚ
  later : ℚ
  started : turn.start ≤ now
  ordered : now ≤ later
  unfinished : later ≤ turn.finish

inductive OrderCaller
  | toolNode
  | capability (persist : Bool)
  | reactTool
  | offlineReact

def OrderCaller.keeps : OrderCaller → Bool
  | .toolNode | .capability _ => true
  | .reactTool | .offlineReact => false

def OrderCaller.args (caller : OrderCaller) (identity : Identity) (query : Text)
    (orderNo lastOrderNo : Option Text) : QueryArgs :=
  match caller with
  | .toolNode => ⟨query,orderNo,identity.tenantId,identity.userId,lastOrderNo,true,false⟩
  | .capability persist =>
    ⟨query,orderNo,identity.tenantId,identity.userId,lastOrderNo,persist,false⟩
  | .reactTool => ⟨query,orderNo,identity.tenantId,identity.userId,none,false,true⟩
  | .offlineReact => ⟨query,orderNo,identity.tenantId,identity.userId,lastOrderNo,false,false⟩

inductive CourseCaller
  | capability
  | react
  deriving DecidableEq

inductive Action (Body : Type)
  | order (caller : OrderCaller) (query : Text) (orderNo lastOrderNo : Option Text) (fate : Fate)
    (escalates : Bool)
  | rag (query : Text) (consulted : Consulted Body (Text × CourseConsultResult Body))
  | course (caller : CourseCaller) (args : CourseArgs)
    (consulted : Consulted Body (CourseConsultResult Body))
  | evict (key : Text)

structure Event (Body : Type) where
  moment : Moment
  action : Action Body

inductive Payload (Body : Type)
  | order (report : Report)
  | course (result : CourseConsultResult Body)
  deriving DecidableEq

/-- The entries of the slots are listed with their thread, a course with its key too. -/
structure World (Body : Type) where
  store : Store Body
  orders : List (Text × Report × ℚ)
  courses : List (Text × Text × CourseConsultResult Body × ℚ)
  fetches : List (Turn × Payload Body)

variable {Body Answer : Type} (rendering : Rendering) (lower : Text → Text)
  (formatCourseAnswer : CourseConsultResult Body → Text)

def Moment.thread (moment : Moment) : Text := moment.turn.identity.threadId

namespace World

def session (world : World Body) (moment : Moment) : SessionToolCacheState Body :=
  let orders := world.orders.filter (fun entry => entry.1 = moment.thread)
  let courses := world.courses.filter (fun entry => entry.1 = moment.thread)
  ⟨orders[moment.orderSnapshot]?.map Prod.snd,
    courses[moment.courseSnapshot]?.map (fun entry => entry.2.2),
    courses[moment.courseSnapshot]?.map (fun entry => entry.2.1)⟩

def host (world : World Body) (moment : Moment) : Host Body where
  settings := moment.settings
  rendering := rendering
  table := moment.table
  tenancy := moment.tenancy
  session := world.session moment
  store := world.store
  now := moment.now

def courseHost (world : World Body) (moment : Moment) : CourseHost Body where
  settings := moment.settings
  tenancy := moment.tenancy
  session := world.session moment
  store := world.store
  now := moment.now
  lower := lower

def start : World Body := ⟨∅,[],[],[]⟩

end World

/-! Courses. -/

def told {Value : Type} (program : ToolEscalation.Turn Value) (moment : Moment) : Option Value :=
  match program moment.ledger with
  | .ok value _ => some value
  | .error _ _ => none

def fetchedCourse (world : World Body) (moment : Moment) (query : Text) (consulted : Consulted Body Answer)
    (answered : Option (CourseConsultResult Body)) : List (Turn × Payload Body) :=
  match consulted, (world.courseHost lower moment).bare query with
  | .modelRaises .., some _ => []
  | _, _ => answered.toList.map (fun result => (moment.turn,.course result))

/-! Steps. -/

def orderEntries (moment : Moment) (caller : OrderCaller) (answer : Except QueryError Report) :
    List (Text × Report × ℚ) :=
  match caller.keeps, answer with
  | true, .ok report =>
    (sessionUpdatesForOrder report moment.later).toList.map (fun cached => (moment.thread,cached))
  | _, _ => []

def fetchedOrder (moment : Moment) (fate : Fate) (answer : Except QueryError Report) :
    List (Turn × Payload Body) :=
  match fate, answer with
  | .runs _, .ok report => [(moment.turn,.order report)]
  | _, _ => []

def courseEntries (moment : Moment) (key : Text) (result : CourseConsultResult Body) :
    List (Text × Text × CourseConsultResult Body × ℚ) :=
  (sessionUpdatesForCourse result moment.later).toList.map (fun cached => (moment.thread,key,cached))

def capabilityEntries (moment : Moment) (caller : CourseCaller) (key : Text)
    (answer : Option (CourseConsultResult Body)) : List (Text × Text × CourseConsultResult Body × ℚ) :=
  match caller, answer with
  | .capability, some result =>
    if result.courseName = NOT_FOUND_COURSE then [] else courseEntries moment key result
  | _, _ => []

/-- `rag_node`, after the query has been expanded. -/
def ragNode (world : World Body) (moment : Moment) (query : Text)
    (consulted : Consulted Body (Text × CourseConsultResult Body)) : World Body :=
  let answered := told (streamCourseAnswer moment.escalation (world.courseHost lower moment) query
    formatCourseAnswer consulted) moment
  match answered with
  | none => world
  | some answer =>
    let key := normalizeCourseCacheKey lower query none
    {world with
      store := putCachedCourse moment.settings world.store moment.now answer.2 key
        moment.turn.identity.tenantId moment.turn.identity.userId
      courses := courseEntries moment key answer.2 ++ world.courses
      fetches := fetchedCourse lower world moment query consulted (some answer.2) ++ world.fetches}

def orderCall (world : World Body) (moment : Moment) (caller : OrderCaller) (query : Text)
    (orderNo lastOrderNo : Option Text) (fate : Fate) (escalates : Bool) : World Body :=
  let answered := queryOrder (world.host rendering moment)
    (caller.args moment.turn.identity query orderNo lastOrderNo) fate escalates
  {world with
    store := answered.2
    orders := orderEntries moment caller answered.1 ++ world.orders
    fetches := fetchedOrder moment fate answered.1 ++ world.fetches}

/-- `CourseCapability.ainvoke` and the tool of the ReACT agent. -/
def courseCall (world : World Body) (moment : Moment) (caller : CourseCaller) (args : CourseArgs)
    (consulted : Consulted Body (CourseConsultResult Body)) : World Body :=
  let host := world.courseHost lower moment
  let answered := told (ToolEscalation.retrieveCourse moment.escalation host args consulted) moment
  {world with
    store := (answered.map Prod.snd).getD world.store
    courses :=
      capabilityEntries moment caller (courseKey host args) (answered.map Prod.fst) ++ world.courses
    fetches := fetchedCourse lower world moment args.query consulted
      (told (consultCourse moment.escalation host args.query consulted) moment) ++ world.fetches}

def step (world : World Body) (event : Event Body) : World Body :=
  match event.action with
  | .order caller query orderNo lastOrderNo fate escalates =>
    orderCall rendering world event.moment caller query orderNo lastOrderNo fate escalates
  | .rag query consulted => ragNode lower formatCourseAnswer world event.moment query consulted
  | .course caller args consulted => courseCall lower world event.moment caller args consulted
  | .evict key => {world with store := Dict.erase world.store key}

/-! Ages. -/

/-- The payload was fetched by a turn, and the time lies within that turn. -/
def Dated (world : World Body) (payload : Payload Body) (cachedAt : ℚ) : Prop :=
  ∃ turn, (turn,payload) ∈ world.fetches ∧ turn.start ≤ cachedAt ∧ cachedAt ≤ turn.finish

def Blob.payload : Blob Body → Payload Body
  | .order report _ => .order report
  | .course result _ => .course result

def Blob.cachedAt : Blob Body → ℚ
  | .order _ cachedAt | .course _ cachedAt => cachedAt

structure Honest (world : World Body) : Prop where
  orders : ∀ entry ∈ world.orders, Dated world (.order entry.2.1) entry.2.2
  courses : ∀ entry ∈ world.courses, Dated world (.course entry.2.2.1) entry.2.2.2
  store : world.store.Holds (fun _ blob => Dated world (Blob.payload blob) (Blob.cachedAt blob))

/-- The consultation answers the failure of the model with a kept result. -/
def ServedForQuery (world : World Body) (moment : Moment) (query : Text)
    (consulted : Consulted Body Answer) : Prop :=
  (∃ failure evidence fallback, consulted = .modelRaises failure evidence fallback ∧
    isLlmDegradable failure = true) ∧
    ((world.courseHost lower moment).bare query).isSome = true

/-- The step stores a result that it was served from the cache. -/
def Restores (world : World Body) (event : Event Body) : Prop :=
  match event.action with
  | .order caller query orderNo lastOrderNo fate _ =>
    let args := caller.args event.moment.turn.identity query orderNo lastOrderNo
    caller.keeps = true ∧ fate.fails = true ∧ ∃ resolved, resolveOrderNumber args = .ok resolved ∧
      (getCachedOrder event.moment.settings event.moment.table event.moment.tenancy
        (world.session event.moment) world.store event.moment.now
        (orElse (some (strip (fallbackOrderNo args resolved))) "unknown".toList)
        args.tenantId args.userId).isSome = true
  | .rag query consulted => ServedForQuery lower world event.moment query consulted
  | .course caller args consulted =>
    let host := world.courseHost lower event.moment
    ServedForQuery lower world event.moment args.query consulted ∨
      caller = .capability ∧
        told (consultCourse event.moment.escalation host args.query consulted) event.moment = none ∧
        (host.own args).isSome = true
  | .evict _ => False

variable {rendering lower formatCourseAnswer} {world : World Body} {moment : Moment}

theorem Moment.within (moment : Moment) :
    (moment.turn.start ≤ moment.now ∧ moment.now ≤ moment.turn.finish) ∧
      moment.turn.start ≤ moment.later ∧ moment.later ≤ moment.turn.finish :=
  ⟨⟨moment.started,moment.ordered.trans moment.unfinished⟩,
    moment.started.trans moment.ordered,moment.unfinished⟩

theorem Dated.grows {world' : World Body} {payload : Payload Body} {cachedAt : ℚ}
    (dated : Dated world payload cachedAt)
    (grows : ∀ fetch ∈ world.fetches, fetch ∈ world'.fetches) : Dated world' payload cachedAt := by
  obtain ⟨turn,listed,within⟩ := dated
  exact ⟨turn,grows _ listed,within⟩

theorem Honest.grows {world' : World Body} (honest : Honest world)
    (log : ∀ fetch ∈ world.fetches, fetch ∈ world'.fetches)
    (orders : ∀ entry ∈ world'.orders, entry ∈ world.orders ∨ Dated world' (.order entry.2.1) entry.2.2)
    (courses : ∀ entry ∈ world'.courses,
      entry ∈ world.courses ∨ Dated world' (.course entry.2.2.1) entry.2.2.2)
    (store : world.store.Holds (fun _ blob => Dated world' (Blob.payload blob) (Blob.cachedAt blob)) →
      world'.store.Holds (fun _ blob => Dated world' (Blob.payload blob) (Blob.cachedAt blob))) :
    Honest world' where
  orders := by
    intro entry listed
    exact (orders entry listed).elim (fun old => (honest.orders entry old).grows log) id
  courses := by
    intro entry listed
    exact (courses entry listed).elim (fun old => (honest.courses entry old).grows log) id
  store := store (honest.store.imp (fun _ _ dated => dated.grows log))

/-! What a consultation answers afresh. -/

theorem fetched_fresh {query : Text} {consulted : Consulted Body Answer} (result : CourseConsultResult Body)
    (fresh : ¬ServedForQuery lower world moment query consulted)
    (degrades : ∀ failure evidence fallback, consulted = .modelRaises failure evidence fallback →
      isLlmDegradable failure = true) :
    (moment.turn,.course result) ∈ fetchedCourse lower world moment query consulted (some result) := by
  unfold fetchedCourse
  split
  · rename_i failure evidence fallback stale kept
    have served := degrades failure evidence fallback rfl
    exact absurd ⟨⟨failure,evidence,fallback,rfl,served⟩,by rw [kept]; rfl⟩ fresh
  · exact List.mem_singleton_self _

private theorem of_told {Value : Type} {program : ToolEscalation.Turn Value} {value : Value}
    (answered : told program moment = some value) : ∃ after, program moment.ledger = .ok value after := by
  unfold told at answered
  split at answered
  · rename_i after ran
    obtain rfl := Option.some.inj answered
    exact ⟨after,ran⟩
  · cases answered

private theorem onLlmFailure_solid {settings : EscalationSettings} {host : CourseHost Body} {query : Text}
    {failure : ToolEscalation.Failure} {fallback : CourseConsultResult Body}
    (solid : isLlmDegradable failure = false) :
    onLlmFailure settings host query failure fallback = throw failure := by
  unfold onLlmFailure
  rw [if_pos solid]

private theorem consultCourse_degrades {query : Text} {consulted : Consulted Body (CourseConsultResult Body)}
    {result : CourseConsultResult Body}
    (answered : told (consultCourse moment.escalation (world.courseHost lower moment) query consulted)
      moment = some result) :
    ∀ failure evidence fallback, consulted = .modelRaises failure evidence fallback →
      isLlmDegradable failure = true := by
  rintro failure evidence fallback rfl
  by_contra solid
  unfold consultCourse at answered
  dsimp only at answered
  rw [onLlmFailure_solid (by simpa using solid)] at answered
  cases answered

private theorem streamCourseAnswer_degrades {query : Text}
    {consulted : Consulted Body (Text × CourseConsultResult Body)} {answer : Text × CourseConsultResult Body}
    (answered : told (streamCourseAnswer moment.escalation (world.courseHost lower moment) query
      formatCourseAnswer consulted) moment = some answer) :
    ∀ failure evidence fallback, consulted = .modelRaises failure evidence fallback →
      isLlmDegradable failure = true := by
  rintro failure evidence fallback rfl
  by_contra solid
  unfold streamCourseAnswer at answered
  dsimp only at answered
  rw [onLlmFailure_solid (by simpa using solid)] at answered
  cases answered

private theorem retrieveCourse_answers {settings : EscalationSettings} {host : CourseHost Body} {args : CourseArgs}
    {consulted : Consulted Body (CourseConsultResult Body)}
    {answered : CourseConsultResult Body × Store Body}
    (answer : told (ToolEscalation.retrieveCourse settings host args consulted) moment = some answered) :
    (told (consultCourse settings host args.query consulted) moment = some answered.1 ∧
      answered.2 = host.put args answered.1) ∨
    (told (consultCourse settings host args.query consulted) moment = none ∧
      host.own args = some answered.1 ∧ answered.2 = host.store) := by
  have ends : Ends
      (fun answered _ =>
        (told (consultCourse settings host args.query consulted) moment = some answered.1 ∧
          answered.2 = host.put args answered.1) ∨
        (told (consultCourse settings host args.query consulted) moment = none ∧
          host.own args = some answered.1 ∧ answered.2 = host.store))
      (fun _ _ => True) (ToolEscalation.retrieveCourse settings host args consulted) moment.ledger := by
    apply ends_catch
    apply ends_bind
    refine ends_iff.mpr ⟨fun result after ran => ?_,fun failure after ran => ?_⟩
    · have known : told (consultCourse settings host args.query consulted) moment = some result := by
        rw [told,ran]
      exact ends_pure (Or.inl ⟨known,rfl⟩)
    · have unknown : told (consultCourse settings host args.query consulted) moment = none := by
        rw [told,ran]
      unfold onCourseFailure
      split
      · rename_i stale kept
        exact ends_pure (Or.inr ⟨unknown,kept,rfl⟩)
      · exact ends_bind (ends_iff.mpr ⟨fun _ _ _ => ends_throw trivial,fun _ _ _ => trivial⟩)
  obtain ⟨after,ran⟩ := of_told answer
  exact (ends_iff.mp ends).1 answered after ran

private theorem mem_courseEntries {key : Text} {result : CourseConsultResult Body}
    {entry : Text × Text × CourseConsultResult Body × ℚ} (listed : entry ∈ courseEntries moment key result) :
    entry.2.2 = (result,moment.later) := by
  unfold courseEntries sessionUpdatesForCourse at listed
  split at listed
  · rw [List.mem_singleton.mp listed]
  · cases listed

private theorem mem_orderEntries {caller : OrderCaller} {answer : Except QueryError Report}
    {entry : Text × Report × ℚ} (listed : entry ∈ orderEntries moment caller answer) :
    caller.keeps = true ∧ answer = .ok entry.2.1 ∧ isCacheableOrderReport entry.2.1 = true ∧
      entry.2.2 = moment.later := by
  unfold orderEntries at listed
  split at listed
  · rename_i report keeps
    unfold sessionUpdatesForOrder at listed
    split at listed
    · rename_i cacheable
      rw [List.mem_singleton.mp listed]
      exact ⟨keeps,rfl,cacheable,rfl⟩
    · cases listed
  · cases listed

private theorem mem_capabilityEntries {caller : CourseCaller} {key : Text}
    {answer : Option (CourseConsultResult Body)} {entry : Text × Text × CourseConsultResult Body × ℚ}
    (listed : entry ∈ capabilityEntries moment caller key answer) :
    caller = .capability ∧ answer = some entry.2.2.1 ∧ entry.2.2.2 = moment.later := by
  unfold capabilityEntries at listed
  split at listed
  · split at listed
    · cases listed
    · have stamped := mem_courseEntries listed
      exact ⟨rfl,by rw [stamped],congrArg Prod.snd stamped⟩
  · cases listed

/-! Steps keep the ages. -/

theorem Honest.ragNode (honest : Honest world) {query : Text}
    {consulted : Consulted Body (Text × CourseConsultResult Body)}
    (fresh : ¬ServedForQuery lower world moment query consulted) :
    Honest (ragNode lower formatCourseAnswer world moment query consulted) := by
  unfold ToolCacheTurns.ragNode
  dsimp only
  split
  · exact honest
  · rename_i answer answered
    have fetched := fetched_fresh answer.2 fresh (streamCourseAnswer_degrades answered)
    have ⟨now,later⟩ := moment.within
    refine honest.grows (fun _ old => List.mem_append_right _ old) (fun _ => Or.inl) ?_ ?_
    · intro entry listed
      refine (List.mem_append.mp listed).symm.imp_right (fun new => ?_)
      rw [mem_courseEntries new]
      exact ⟨moment.turn,List.mem_append_left _ fetched,later⟩
    · exact fun holds => holds.putCachedCourse
        (fun _ => ⟨moment.turn,List.mem_append_left _ fetched,now⟩)

theorem Honest.orderCall (honest : Honest world) {caller : OrderCaller} {query : Text}
    {orderNo lastOrderNo : Option Text} {fate : Fate} {escalates : Bool}
    (fresh : ¬Restores lower world ⟨moment,.order caller query orderNo lastOrderNo fate escalates⟩) :
    Honest (orderCall rendering world moment caller query orderNo lastOrderNo fate escalates) := by
  unfold ToolCacheTurns.orderCall
  have ⟨now,later⟩ := moment.within
  cases queryOrder_ends (world.host rendering moment)
      (caller.args moment.turn.identity query orderNo lastOrderNo) fate escalates with
  | error error same =>
    rw [same]
    refine honest.grows (fun _ old => List.mem_append_right _ old) ?_ (fun _ => Or.inl) id
    intro entry listed
    refine (List.mem_append.mp listed).symm.imp_right (fun new => ?_)
    cases (mem_orderEntries new).2.1
  | runs ossUrl report run inner same =>
    rw [same]
    have fetched : (moment.turn,Payload.order report) ∈
        (fetchedOrder moment fate (.ok report) : List (Turn × Payload Body)) := by
      rw [run]
      exact List.mem_singleton_self _
    refine honest.grows (fun _ old => List.mem_append_right _ old) ?_ (fun _ => Or.inl) ?_
    · intro entry listed
      refine (List.mem_append.mp listed).symm.imp_right (fun new => ?_)
      obtain ⟨_,answer,_,stamp⟩ := mem_orderEntries new
      rw [← Except.ok.inj answer,stamp]
      exact ⟨moment.turn,List.mem_append_left _ fetched,later⟩
    · exact fun holds => holds.putCachedOrder
        (fun _ => ⟨moment.turn,List.mem_append_left _ fetched,now⟩)
  | fails resolved busy resolves fails same =>
    rw [same]
    refine honest.grows (fun _ old => List.mem_append_right _ old) ?_ (fun _ => Or.inl) id
    intro entry listed
    refine (List.mem_append.mp listed).symm.imp_right (fun new => ?_)
    obtain ⟨keeps,answer,cacheable,_⟩ := mem_orderEntries new
    exact absurd ⟨keeps,fails,resolved,resolves,handleTransientFailure_kept answer cacheable⟩ fresh

theorem Honest.courseCall (honest : Honest world) {caller : CourseCaller} {args : CourseArgs}
    {consulted : Consulted Body (CourseConsultResult Body)}
    (fresh : ¬Restores lower world ⟨moment,.course caller args consulted⟩) :
    Honest (courseCall lower world moment caller args consulted) := by
  have ⟨now,later⟩ := moment.within
  have unserved : ¬ServedForQuery lower world moment args.query consulted :=
    fun served => fresh (Or.inl served)
  unfold ToolCacheTurns.courseCall
  dsimp only
  cases answer : told (ToolEscalation.retrieveCourse moment.escalation (world.courseHost lower moment) args
      consulted) moment with
  | none =>
    refine honest.grows (fun _ old => List.mem_append_right _ old) (fun _ => Or.inl) ?_ id
    intro entry listed
    refine (List.mem_append.mp listed).symm.imp_right (fun new => ?_)
    cases (mem_capabilityEntries new).2.1
  | some answered =>
    obtain ⟨result,store⟩ := answered
    obtain ⟨known,put⟩ | ⟨unknown,kept,same⟩ := retrieveCourse_answers answer
    · rw [known,show store = (world.courseHost lower moment).put args result from put]
      have fetched := fetched_fresh result unserved (consultCourse_degrades known)
      refine honest.grows (fun _ old => List.mem_append_right _ old) (fun _ => Or.inl) ?_ ?_
      · intro entry listed
        refine (List.mem_append.mp listed).symm.imp_right (fun new => ?_)
        obtain ⟨_,told,stamp⟩ := mem_capabilityEntries new
        rw [← Option.some.inj told,stamp]
        exact ⟨moment.turn,List.mem_append_left _ fetched,later⟩
      · exact fun holds => holds.putCachedCourse
          (fun _ => ⟨moment.turn,List.mem_append_left _ fetched,now⟩)
    · rw [show store = world.store from same]
      refine honest.grows (fun _ old => List.mem_append_right _ old) (fun _ => Or.inl) ?_ id
      intro entry listed
      refine (List.mem_append.mp listed).symm.imp_right (fun new => ?_)
      obtain ⟨capability,_⟩ := mem_capabilityEntries new
      exact absurd (Or.inr ⟨capability,unknown,by rw [kept]; rfl⟩) fresh

theorem Honest.step (honest : Honest world) {event : Event Body}
    (fresh : ¬Restores lower world event) :
    Honest (step rendering lower formatCourseAnswer world event) := by
  obtain ⟨moment,action⟩ := event
  cases action with
  | order caller query orderNo lastOrderNo fate escalates => exact honest.orderCall fresh
  | rag query consulted => exact honest.ragNode fresh
  | course caller args consulted => exact honest.courseCall fresh
  | evict key => exact ⟨honest.orders,honest.courses,honest.store.erase key⟩

theorem Honest.start : Honest (World.start : World Body) where
  orders := by
    intro entry listed
    cases listed
  courses := by
    intro entry listed
    cases listed
  store := by
    intro key row found
    cases found

/-- When no step of a run stores a result that it was served from the cache, everything that
is kept was fetched by a turn and is dated within that turn. -/
theorem ages_honest (rendering : Rendering) (lower : Text → Text)
    (formatCourseAnswer : CourseConsultResult Body → Text) (events : List (Event Body))
    (fresh : Along (step rendering lower formatCourseAnswer)
      (fun world event => ¬Restores lower world event) World.start events) :
    Throughout (step rendering lower formatCourseAnswer) Honest World.start events :=
  Throughout.of_along (fun _ _ honest allowed => honest.step allowed) .start fresh

def ownMoment (now : ℚ) : Moment where
  turn := ⟨⟨"demo".toList,"u1".toList,"s1".toList⟩,now,now⟩
  settings := ⟨true,300,1800⟩
  escalation := ToolEscalation.defaultSettings
  ledger := freshLedger
  table := oneOrder
  tenancy := ⟨"demo".toList,"u1".toList⟩
  orderSnapshot := 0
  courseSnapshot := 0
  now := now
  later := now
  started := le_refl now
  ordered := le_refl now
  unfinished := le_refl now

def ownQuery (now : ℚ) (caller : OrderCaller) (fate : Fate) : Event Unit :=
  ⟨ownMoment now,.order caller [] (some "20251114001".toList) none fate false⟩

/-- The ReACT agent shows a kept report and stores nothing. -/
theorem ages_honest_react : Throughout (step ⟨fun _ => 0⟩ id (fun _ => [])) Honest World.start
    [ownQuery 0 .toolNode (.runs none),ownQuery 120 .reactTool .timesOut] := by
  apply ages_honest
  refine ⟨fun restores => ?_,fun restores => ?_,trivial⟩
  · exact Bool.false_ne_true restores.2.1
  · exact Bool.false_ne_true restores.1

theorem stale_report_restored : ¬∀ (rendering : Rendering) (lower : Text → Text)
    (formatCourseAnswer : CourseConsultResult Unit → Text) (events : List (Event Unit)),
      Throughout (step rendering lower formatCourseAnswer) Honest World.start events := by
  intro always
  have honest := (always ⟨fun _ => 0⟩ id (fun _ => [])
    [ownQuery 0 .toolNode (.runs none),ownQuery 120 .toolNode .timesOut]).last
  have restored : ∃ entry ∈ (run (step ⟨fun _ => 0⟩ id (fun _ => [])) World.start
      [ownQuery 0 .toolNode (.runs none),ownQuery 120 .toolNode .timesOut]).orders,
      ∀ fetch ∈ (run (step ⟨fun _ => 0⟩ id (fun _ => [])) World.start
        [ownQuery 0 .toolNode (.runs none),ownQuery 120 .toolNode .timesOut]).fetches,
        fetch.2 ≠ .order entry.2.1 := by
    decide +kernel
  obtain ⟨entry,listed,other⟩ := restored
  obtain ⟨turn,fetched,_⟩ := honest.orders entry listed
  exact other _ fetched rfl

end CustomerService.ToolCacheTurns
