import CustomerService.Dict
import CustomerService.FailingPrograms
import CustomerService.Json
import CustomerService.OutputFilter
import CustomerService.Supervisor

/-! The transient failures of the tools, counted by tool and resource while a turn runs, and the
escalation that is raised when they are too many. -/
namespace CustomerService.ToolEscalation
open Text OrderAccess OrderReport ToolCache Supervisor FailingPrograms
open OrderQuery (QueryArgs QueryError Fate Host)

/-! ### Decisions and failures -/

inductive EscalationReason
  | transientExhausted
  | reactLimit
  deriving DecidableEq

def EscalationReason.name : EscalationReason → Text
  | .transientExhausted => "transient_exhausted".toList
  | .reactLimit => "react_limit".toList

structure EscalationDecision where
  escalate : Bool
  reason : Option EscalationReason
  message : Option Text
  deriving DecidableEq

/-- What a tool, the model or the retrieval raises. -/
inductive Failure
  | toolEscalation (decision : EscalationDecision)
  | graphBubbleUp
  | quotaExceeded (message : Text)
  | poolBusy (message : Text)
  | valueError (message : Text)
  | timeoutError (message : Text)
  | connectionError (className message : Text)
  | other (className message : Text)
  deriving DecidableEq

def Failure.className : Failure → Text
  | .toolEscalation _ => "ToolEscalationError".toList
  | .graphBubbleUp => "GraphBubbleUp".toList
  | .quotaExceeded _ => "TenantQuotaExceededError".toList
  | .poolBusy _ => "ToolPoolBusyError".toList
  | .valueError _ => "ValueError".toList
  | .timeoutError _ => "TimeoutError".toList
  | .connectionError name _ | .other name _ => name

/-- `str(exc)`. -/
def Failure.message : Failure → Text
  | .toolEscalation decision => orElse decision.message "tool escalation".toList
  | .graphBubbleUp => []
  | .quotaExceeded message | .poolBusy message | .valueError message | .timeoutError message
  | .connectionError _ message | .other _ message => message

/-- `_is_transient_error`, of the middleware as of the tracker. -/
def isTransientError (lower : Text → Text) (failure : Failure) : Bool :=
  match failure with
  | .timeoutError _ | .connectionError _ _ => true
  | _ =>
    let name := lower failure.className
    SummaryFacts.contains "timeout".toList name ||
      SummaryFacts.contains "timeout".toList (lower failure.message) ||
      SummaryFacts.contains "connection".toList name

def isTransientToolFailure (lower : Text → Text) : Failure → Bool
  | .poolBusy _ => true
  | failure => isTransientError lower failure

def isLlmDegradable : Failure → Bool
  | .quotaExceeded _ => false
  | _ => true

/-! ### The tracker -/

structure EscalationSettings where
  toolEscalationEnabled : Bool
  toolEscalationTransientThreshold : Nat
  threshold_ge : 1 ≤ toolEscalationTransientThreshold

def defaultSettings : EscalationSettings := ⟨true,2,by decide⟩

structure ToolFailureTracker where
  counts : Dict (Text × Text) Nat

/-- The tracker of the open scope, and every failure of the turn so far, which no code reads. -/
structure Ledger where
  tracker : Option ToolFailureTracker
  failures : List (Text × Text)

abbrev Turn := EStateM Failure Ledger

def trackerKey (tool resourceKey : Text) : Text × Text :=
  (tool,orElse (some (strip resourceKey)) "__default__".toList)

def ToolFailureTracker.recordTransient (tracker : ToolFailureTracker) (key : Text × Text) :
    ToolFailureTracker :=
  ⟨tracker.counts.set key (tracker.counts.getD key 0 + 1)⟩

def Ledger.record (ledger : Ledger) (key : Text × Text) : Ledger :=
  ⟨ledger.tracker.map (fun tracker => tracker.recordTransient key),ledger.failures ++ [key]⟩

def transientExhausted : EscalationDecision :=
  ⟨true,some .transientExhausted,
    some (buildHandoffAnswer true (some EscalationReason.transientExhausted.name))⟩

def escalationForTransient (settings : EscalationSettings) (tool resourceKey : Text) :
    Turn (Option EscalationDecision) := do
  let key := trackerKey tool resourceKey
  modify (fun ledger => ledger.record key)
  match (← get).tracker with
  | none => return none
  | some tracker =>
    if settings.toolEscalationEnabled = false then return none
    else if tracker.counts.getD key 0 < settings.toolEscalationTransientThreshold then return none
    else return some transientExhausted

def raiseIfEscalated (decision : Option EscalationDecision) : Turn Unit :=
  match decision with
  | some decision => if decision.escalate then throw (.toolEscalation decision) else return ()
  | none => return ()

def Ledger.scoped (ledger : Ledger) : Ledger := { ledger with tracker := some ⟨∅⟩ }

/-- `tool_failure_tracker_scope`: the tracker from before comes back, whatever the body raises. -/
def trackerScope {Value : Type} (body : Turn Value) : Turn Value := fun ledger =>
  match body ledger.scoped with
  | .ok value after => .ok value { after with tracker := ledger.tracker }
  | .error failure after => .error failure { after with tracker := ledger.tracker }

def freshLedger : Ledger := ⟨some ⟨∅⟩,[]⟩

variable {Body : Type}

/-! ### Orders -/

def ofQueryError : QueryError → Failure
  | .valueError message => .valueError message
  | .timeoutError message => .timeoutError message
  | .escalated => .toolEscalation transientExhausted
  | .other message => .other [] message

def ofExcept {Value : Type} : Except QueryError Value → Turn Value
  | .ok value => return value
  | .error error => throw (ofQueryError error)

def handleOrderTransientFailure (settings : EscalationSettings) (host : Host Body) (orderNo : Text)
    (args : QueryArgs) (busy : Option Text) : Turn Report := do
  let number := orElse (some (strip orderNo)) "unknown".toList
  match getCachedOrder host.settings host.table host.tenancy host.session host.store host.now number
      args.tenantId args.userId with
  | some (report,cachedAt) => return annotateStaleOrder report (max 0 (host.now - cachedAt))
  | none =>
    escalationForTransient settings TOOL_ORDER number >>= raiseIfEscalated
    match busy with
    | some message => return busyReport orderNo message
    | none => throw (.timeoutError "订单查询超时，请稍后重试".toList)

def queryOrder (settings : EscalationSettings) (host : Host Body) (args : QueryArgs) (fate : Fate) :
    Turn (Report × Store Body) :=
  match OrderQuery.resolveOrderNumber args with
  | .error error => throw (ofQueryError error)
  | .ok resolved =>
    match fate with
    | .runs ossUrl => do
      let report ←
        ofExcept (OrderQuery.queryOrderInner host.rendering host.table host.tenancy args ossUrl)
      return (report,
        putCachedOrder host.settings host.store host.now report args.tenantId args.userId)
    | .busy message => do
      let report ← handleOrderTransientFailure settings host
        (OrderQuery.fallbackOrderNo args resolved) args (some message)
      return (report,host.store)
    | .timesOut => do
      let report ← handleOrderTransientFailure settings host
        (OrderQuery.fallbackOrderNo args resolved) args none
      return (report,host.store)
    | .raises message => throw (.other [] message)

def MISSING_ORDER_NO : Text := "未识别到订单号".toList

def toolJson (error hint : Text) : Text :=
  Json.dumps (.obj [("error".toList,.str error),("hint".toList,.str hint)])

def orderToToolObservation (settings : EscalationSettings) (host : Host Body) (args : QueryArgs)
    (fate : Fate) : Turn Text :=
  tryCatch
    (do
      let report := (← queryOrder settings host args fate).1
      if report.currentStatus = "busy".toList then
        return toolJson "订单服务繁忙".toList "请求队列已满，请稍后再试，不要连续重复调用".toList
      else return formatOrderAnswer report)
    (fun failure =>
      match failure with
      | .toolEscalation _ => throw failure
      | .valueError message =>
        if SummaryFacts.contains MISSING_ORDER_NO message then
          return toolJson MISSING_ORDER_NO "请向用户确认完整订单编号，不要编造".toList
        else return toolJson message "请核对订单编号，不要编造新单号".toList
      | .timeoutError _ => return toolJson "订单查询超时".toList "请稍后重试，不要连续重复调用".toList
      | _ => return toolJson "订单查询失败".toList (failure.message.take 120))

/-! ### Courses -/

/-- What a call finds: the caches, which other turns fill too, and `str.lower`. -/
structure CourseHost (Body : Type) where
  settings : ToolCache.Settings
  tenancy : Tenancy
  session : SessionToolCacheState Body
  store : Store Body
  now : ℚ
  lower : Text → Text

/-- What comes of the retrieval and of the model behind it. When the model fails, the documents
found still give their evidence and an answer of rules. -/
inductive Consulted (Body Answer : Type)
  | raises (failure : Failure)
  | answers (answer : Answer)
  | modelRaises (failure : Failure) (evidence : List EvidenceSection)
      (fallback : CourseConsultResult Body)

def withEvidence (evidence : List EvidenceSection) (result : CourseConsultResult Body) :
    CourseConsultResult Body :=
  { result with evidence := evidence }

def CourseHost.cached (host : CourseHost Body) (resourceKey tenantId userId : Text) :
    Option (CourseConsultResult Body) :=
  (getCachedCourse host.settings host.session host.store host.now resourceKey tenantId userId).map
    (fun cached => annotateStaleCourse cached.1 (max 0 (host.now - cached.2)))

def CourseHost.bare (host : CourseHost Body) (query : Text) : Option (CourseConsultResult Body) :=
  host.cached (normalizeCourseCacheKey host.lower query none) host.tenancy.currentTenant
    host.tenancy.getCurrentUser

def onLlmFailure (settings : EscalationSettings) (host : CourseHost Body) (query : Text)
    (failure : Failure) (fallback : CourseConsultResult Body) : Turn (CourseConsultResult Body) := do
  if isLlmDegradable failure = false then throw failure
  else
    match host.bare query with
    | some stale => return stale
    | none =>
      escalationForTransient settings TOOL_COURSE (normalizeCourseCacheKey host.lower query none) >>=
        raiseIfEscalated
      return fallback

def consultCourse (settings : EscalationSettings) (host : CourseHost Body) (query : Text) :
    Consulted Body (CourseConsultResult Body) → Turn (CourseConsultResult Body)
  | .raises failure => throw failure
  | .answers result => return result
  | .modelRaises failure evidence fallback => do
    return withEvidence evidence (← onLlmFailure settings host query failure fallback)

def courseKey (host : CourseHost Body) (args : CourseArgs) : Text :=
  normalizeCourseCacheKey host.lower args.query args.courseCode

/-- The result cached under the question or the code of the course. -/
def CourseHost.own (host : CourseHost Body) (args : CourseArgs) : Option (CourseConsultResult Body) :=
  host.cached (courseKey host args) (orElse (some args.tenantId) host.tenancy.currentTenant)
    (orElse (some args.userId) host.tenancy.getCurrentUser)

def CourseHost.put (host : CourseHost Body) (args : CourseArgs) (result : CourseConsultResult Body) :
    Store Body :=
  putCachedCourse host.settings host.store host.now result (courseKey host args)
    (orElse (some args.tenantId) host.tenancy.currentTenant)
    (orElse (some args.userId) host.tenancy.getCurrentUser)

/-- The `except` clause of `retrieve_course`. -/
def onCourseFailure (settings : EscalationSettings) (host : CourseHost Body) (args : CourseArgs)
    (failure : Failure) : Turn (CourseConsultResult Body × Store Body) :=
  match host.own args with
  | some stale => return (stale,host.store)
  | none => do
    escalationForTransient settings TOOL_COURSE (courseKey host args) >>= raiseIfEscalated
    throw failure

def retrieveCourse (settings : EscalationSettings) (host : CourseHost Body) (args : CourseArgs)
    (consulted : Consulted Body (CourseConsultResult Body)) :
    Turn (CourseConsultResult Body × Store Body) :=
  tryCatch
    (do
      let result ← consultCourse settings host args.query consulted
      return (result,host.put args result))
    (onCourseFailure settings host args)

/-- `astream_course_answer`, with how a result is told. -/
def streamCourseAnswer (settings : EscalationSettings) (host : CourseHost Body) (query : Text)
    (formatCourseAnswer : CourseConsultResult Body → Text) :
    Consulted Body (Text × CourseConsultResult Body) → Turn (Text × CourseConsultResult Body)
  | .raises failure => throw failure
  | .answers answer => return answer
  | .modelRaises failure evidence fallback => do
    let structured := withEvidence evidence (← onLlmFailure settings host query failure fallback)
    return (formatCourseAnswer structured,structured)

/-! ### The middleware -/

def MAX_TRANSIENT_ATTEMPTS : Nat := 2

/-- The arguments of a call that name a resource; an absent one is empty. -/
structure CallArgs where
  orderNo : Text
  question : Text
  query : Text

def toolResourceKey (args : CallArgs) (toolName : Text) : Text :=
  if args.orderNo ≠ [] then args.orderNo
  else
    let question := orElse (some args.question) args.query
    if question ≠ [] then question.take 120 else orElse (some toolName) "default".toList

def sanitizeToolResult (content : Text) : Text := (OutputFilter.maskPii content).2

def errorToolMessage (name : Text) (failure : Failure) : Text :=
  let told := strip (failure.message.map (fun char => if char = '\n' then ' ' else char))
  let detail := (OutputFilter.maskPii (told.take 200)).2
  "工具 ".toList ++ orElse (some name) "unknown".toList ++ " 执行失败：".toList ++
    orElse (some detail) failure.className ++
    "。请根据错误修正参数后重试；若是业务错误请向用户说明，不要用相同参数反复调用。".toList

def Failure.passes : Failure → Bool
  | .toolEscalation _ | .graphBubbleUp => true
  | _ => false

/-- `awrap_tool_call` and its twin, from one of the attempts on. -/
def wrapToolCall (settings : EscalationSettings) (lower : Text → Text) (name : Text) (args : CallArgs) :
    List (Turn Text) → Turn Text
  | [] => throw (.other "AssertionError".toList [])
  | attempt :: rest =>
    tryCatch (do return sanitizeToolResult (← attempt))
      (fun failure =>
        if failure.passes then throw failure
        else if rest ≠ [] ∧ isTransientError lower failure = true then
          wrapToolCall settings lower name args rest
        else do
          if isTransientToolFailure lower failure then
            -- the decision is not read
            let _ ← escalationForTransient settings (orElse (some name) "unknown".toList)
              (toolResourceKey args name)
          return errorToolMessage name failure)

/-! ### What a turn minds -/

/-- Some tool has failed on some resource as often as the settings allow. -/
def Reached (settings : EscalationSettings) (failures : List (Text × Text)) : Prop :=
  settings.toolEscalationEnabled = true ∧
    ∃ key, settings.toolEscalationTransientThreshold ≤ failures.count key

def Tracks (ledger : Ledger) (failures : List (Text × Text)) : Prop :=
  ∃ tracker, ledger.tracker = some tracker ∧ ∀ key, tracker.counts.getD key 0 = failures.count key

/-- The tracker has counted the failures since the scope was opened, and they are too many only
where something holds. -/
def Within (settings : EscalationSettings) (base : List (Text × Text)) (holds : Prop) (ledger : Ledger) :
    Prop :=
  ∃ inner, ledger.failures = base ++ inner ∧ Tracks ledger inner ∧ (Reached settings inner → holds)

def handed : Failure := .toolEscalation transientExhausted

/-- A program that raises the escalation when the failures of its scope are too many. -/
def Minds {Value : Type} (settings : EscalationSettings) (base : List (Text × Text))
    (program : Turn Value) (ledger : Ledger) : Prop :=
  Ends (fun _ after => Within settings base False after)
    (fun failure after => Within settings base (failure = handed) after) program ledger

def Below (settings : EscalationSettings) (ledger : Ledger) (key : Text × Text) : Prop :=
  settings.toolEscalationEnabled = true →
    ledger.failures.count key + 1 < settings.toolEscalationTransientThreshold

section
variable {settings : EscalationSettings} {base : List (Text × Text)} {ledger : Ledger}

theorem Within.imp {holds holds' : Prop} (within : Within settings base holds ledger)
    (weaker : holds → holds') : Within settings base holds' ledger := by
  obtain ⟨inner,split,tracks,reached⟩ := within
  exact ⟨inner,split,tracks,fun too => weaker (reached too)⟩

theorem not_reached_nil : ¬Reached settings [] := by
  rintro ⟨_,key,few⟩
  have least := settings.threshold_ge
  rw [List.count_nil] at few
  omega

theorem within_scoped (ledger : Ledger) : Within settings ledger.failures False ledger.scoped :=
  ⟨[],(List.append_nil _).symm,⟨_,rfl,fun _ => rfl⟩,fun too => not_reached_nil too⟩

theorem reached_snoc {failures : List (Text × Text)} {key : Text × Text}
    (too : Reached settings (failures ++ [key])) : Reached settings failures ∨
      settings.toolEscalationTransientThreshold ≤ failures.count key + 1 := by
  obtain ⟨enabled,other,many⟩ := too
  rw [List.count_append,List.count_singleton] at many
  by_cases same : key = other
  · subst same
    right
    simpa using many
  · left
    exact ⟨enabled,other,by simpa [same] using many⟩

private theorem tracks_record {failures : List (Text × Text)} (tracks : Tracks ledger failures)
    (key : Text × Text) : Tracks (ledger.record key) (failures ++ [key]) := by
  obtain ⟨tracker,open',counts⟩ := tracks
  refine ⟨tracker.recordTransient key,by rw [Ledger.record,open']; rfl,fun other => ?_⟩
  rw [ToolFailureTracker.recordTransient,Dict.getD_set,counts,counts,List.count_append,
    List.count_singleton]
  by_cases same : other = key
  · subst same
    simp
  · have apart : key ≠ other := fun equal => same equal.symm
    simp [same,apart]

theorem escalationForTransient_none {tool resourceKey : Text}
    (closed : (ledger.record (trackerKey tool resourceKey)).tracker = none) :
    escalationForTransient settings tool resourceKey ledger =
      .ok none (ledger.record (trackerKey tool resourceKey)) := by
  obtain ⟨tracker,failures⟩ := ledger
  cases tracker with
  | none => rfl
  | some tracker => cases closed

theorem escalationForTransient_some {tool resourceKey : Text} {tracker : ToolFailureTracker}
    (open' : (ledger.record (trackerKey tool resourceKey)).tracker = some tracker) :
    escalationForTransient settings tool resourceKey ledger =
      (if settings.toolEscalationEnabled = false then pure none
        else if tracker.counts.getD (trackerKey tool resourceKey) 0 <
            settings.toolEscalationTransientThreshold then pure none
        else pure (some transientExhausted) : Turn (Option EscalationDecision))
        (ledger.record (trackerKey tool resourceKey)) := by
  obtain ⟨tracker,failures⟩ := ledger
  cases tracker with
  | none => cases open'
  | some tracker =>
    cases open'
    rfl

theorem escalationForTransient_eq {tracker : ToolFailureTracker} (open' : ledger.tracker = some tracker)
    (tool resourceKey : Text) :
    escalationForTransient settings tool resourceKey ledger =
      .ok
        (if settings.toolEscalationEnabled = false then none
          else if tracker.counts.getD (trackerKey tool resourceKey) 0 + 1 <
              settings.toolEscalationTransientThreshold then none
          else some transientExhausted)
        (ledger.record (trackerKey tool resourceKey)) := by
  have after : (ledger.record (trackerKey tool resourceKey)).tracker =
      some (tracker.recordTransient (trackerKey tool resourceKey)) := by
    rw [Ledger.record,open']
    rfl
  have count : (tracker.recordTransient (trackerKey tool resourceKey)).counts.getD
      (trackerKey tool resourceKey) 0 = tracker.counts.getD (trackerKey tool resourceKey) 0 + 1 := by
    rw [ToolFailureTracker.recordTransient,Dict.getD_set,if_pos rfl]
  rw [← count,escalationForTransient_some after]
  split_ifs <;> rfl

private theorem ends_escalation {holds : Prop} (within : Within settings base holds ledger)
    (tool resourceKey : Text) :
    Ends (fun decision after => (decision = none ∨ decision = some transientExhausted) ∧
        Within settings base (holds ∨ decision = some transientExhausted) after)
      (fun _ _ => False) (escalationForTransient settings tool resourceKey) ledger := by
  obtain ⟨inner,split,tracks,reached⟩ := within
  obtain ⟨tracker,open',counts⟩ := tracks
  unfold Ends
  rw [escalationForTransient_eq open',counts]
  dsimp only
  refine ⟨?_,inner ++ [trackerKey tool resourceKey],?_,tracks_record ⟨tracker,open',counts⟩ _,fun too => ?_⟩
  · split_ifs
    · exact Or.inl rfl
    · exact Or.inl rfl
    · exact Or.inr rfl
  · rw [Ledger.record,split,List.append_assoc]
  · refine (reached_snoc too).imp reached (fun many => ?_)
    rw [if_neg (by simp [too.1]),if_neg (by omega)]

private theorem ends_raise {holds : Prop} (within : Within settings base holds ledger)
    (tool resourceKey : Text) :
    Ends (fun _ after => Within settings base holds after)
      (fun failure after => failure = handed ∧ Within settings base True after)
      (escalationForTransient settings tool resourceKey >>= raiseIfEscalated) ledger := by
  apply ends_bind
  apply (ends_escalation within tool resourceKey).weaken
  · rintro decision after ⟨rfl | rfl,later⟩
    · exact ends_pure (later.imp (fun both => both.resolve_right (by simp)))
    · exact ends_throw ⟨rfl,later.imp (fun _ => trivial)⟩
  · exact fun _ _ impossible => impossible.elim

private theorem escalation_below {holds : Prop} (within : Within settings base holds ledger)
    {tool resourceKey : Text} (below : Below settings ledger (trackerKey tool resourceKey)) :
    Ends (fun decision after => decision = none ∧ Within settings base holds after) (fun _ _ => False)
      (escalationForTransient settings tool resourceKey) ledger := by
  obtain ⟨inner,split,tracks,reached⟩ := within
  have few : inner.count (trackerKey tool resourceKey) ≤
      ledger.failures.count (trackerKey tool resourceKey) := by
    rw [split,List.count_append]
    omega
  obtain ⟨tracker,open',counts⟩ := tracks
  unfold Ends
  rw [escalationForTransient_eq open',counts]
  refine ⟨?_,inner ++ [trackerKey tool resourceKey],?_,tracks_record ⟨tracker,open',counts⟩ _,fun too => ?_⟩
  · cases enabled : settings.toolEscalationEnabled with
    | false => rfl
    | true =>
      have := below enabled
      rw [if_neg (by simp),if_pos (by omega)]
  · rw [Ledger.record,split,List.append_assoc]
  · refine (reached_snoc too).elim reached (fun many => ?_)
    have := below too.1
    omega

private theorem raise_below {holds : Prop} (within : Within settings base holds ledger) {tool resourceKey : Text}
    (below : Below settings ledger (trackerKey tool resourceKey)) :
    Ends (fun _ after => Within settings base holds after) (fun _ _ => False)
      (escalationForTransient settings tool resourceKey >>= raiseIfEscalated) ledger := by
  apply ends_bind
  apply (escalation_below within below).weaken
  · rintro _ after ⟨rfl,later⟩
    exact ends_pure later
  · exact fun _ _ impossible => impossible.elim

theorem minds_throw {Value : Type} (quiet : Within settings base False ledger) (failure : Failure) :
    Minds settings base (throw failure : Turn Value) ledger :=
  ends_throw (quiet.imp False.elim)

theorem Minds.bind {First Value : Type} {program : Turn First} {rest : First → Turn Value}
    (minds : Minds settings base program ledger)
    (later : ∀ value after, Within settings base False after → Minds settings base (rest value) after) :
    Minds settings base (program >>= rest) ledger :=
  ends_bind (minds.weaken later (fun _ _ => id))

private theorem raise_minds (quiet : Within settings base False ledger) (tool resourceKey : Text) :
    Minds settings base (escalationForTransient settings tool resourceKey >>= raiseIfEscalated) ledger :=
  (ends_raise quiet tool resourceKey).weaken (fun _ _ => id)
    (fun _ _ both => both.2.imp (fun _ => both.1))

private theorem handleOrderTransientFailure_minds (host : Host Body) (orderNo : Text) (args : QueryArgs)
    (busy : Option Text) (quiet : Within settings base False ledger) :
    Minds settings base (handleOrderTransientFailure settings host orderNo args busy) ledger := by
  unfold handleOrderTransientFailure
  dsimp only
  split
  · exact ends_pure quiet
  · apply (raise_minds quiet TOOL_ORDER _).bind
    intro _ after later
    split
    · exact ends_pure later
    · exact minds_throw later _

theorem queryOrder_minds (host : Host Body) (args : QueryArgs) (fate : Fate)
    (quiet : Within settings base False ledger) :
    Minds settings base (queryOrder settings host args fate) ledger := by
  unfold queryOrder
  split
  · exact minds_throw quiet _
  · split
    · apply Minds.bind
      · unfold ofExcept
        split
        · exact ends_pure quiet
        · exact minds_throw quiet _
      · exact fun _ _ later => ends_pure later
    · exact (handleOrderTransientFailure_minds host _ args _ quiet).bind
        (fun _ _ later => ends_pure later)
    · exact (handleOrderTransientFailure_minds host _ args _ quiet).bind
        (fun _ _ later => ends_pure later)
    · exact minds_throw quiet _

theorem onLlmFailure_ends (host : CourseHost Body) (query : Text) (failure : Failure)
    (fallback : CourseConsultResult Body) (quiet : Within settings base False ledger) :
    Ends (fun _ after => Within settings base False after)
      (fun raised after => (raised = failure ∧ Within settings base False after) ∨
        (raised = handed ∧ isLlmDegradable failure = true ∧ host.bare query = none ∧
          ¬Below settings ledger
            (trackerKey TOOL_COURSE (normalizeCourseCacheKey host.lower query none)) ∧
          Within settings base True after))
      (onLlmFailure settings host query failure fallback) ledger := by
  unfold onLlmFailure
  split
  · exact ends_throw (Or.inl ⟨rfl,quiet⟩)
  · rename_i degradable
    split
    · exact ends_pure quiet
    · rename_i missed
      refine ends_bind ?_
      by_cases below : Below settings ledger
          (trackerKey TOOL_COURSE (normalizeCourseCacheKey host.lower query none))
      · exact (raise_below quiet below).weaken (fun _ _ later => ends_pure later)
          (fun _ _ impossible => impossible.elim)
      · refine (ends_raise quiet TOOL_COURSE _).weaken (fun _ _ later => ends_pure later) ?_
        rintro raised after ⟨rfl,later⟩
        exact Or.inr ⟨rfl,by simpa using degradable,missed,below,later⟩

/-- No result cached under the code of a course hides that its model failed too often. -/
def Uncovered (settings : EscalationSettings) (host : CourseHost Body) (args : CourseArgs)
    (consulted : Consulted Body (CourseConsultResult Body)) (ledger : Ledger) : Prop :=
  ∀ failure evidence fallback, consulted = .modelRaises failure evidence fallback →
    isLlmDegradable failure = true → host.bare args.query = none → host.own args ≠ none →
      Below settings ledger (trackerKey TOOL_COURSE (normalizeCourseCacheKey host.lower args.query none))

theorem retrieveCourse_minds (host : CourseHost Body) (args : CourseArgs)
    (consulted : Consulted Body (CourseConsultResult Body))
    (uncovered : Uncovered settings host args consulted ledger)
    (quiet : Within settings base False ledger) :
    Minds settings base (retrieveCourse settings host args consulted) ledger := by
  have recover (failure : Failure) {after : Ledger} (later : Within settings base False after) :
      Minds settings base (onCourseFailure settings host args failure) after := by
    unfold onCourseFailure
    split
    · exact ends_pure later
    · exact (raise_minds later TOOL_COURSE _).bind (fun _ _ last => minds_throw last _)
  apply ends_catch
  apply ends_bind
  cases consulted with
  | raises failure => exact ends_throw (recover failure quiet)
  | answers result => exact ends_pure (ends_pure quiet)
  | modelRaises failure evidence fallback =>
    refine ends_bind ((onLlmFailure_ends host args.query failure fallback quiet).weaken
      (fun _ _ later => ends_pure (ends_pure later)) ?_)
    rintro raised after (⟨rfl,later⟩ | ⟨rfl,degradable,missed,many,later⟩)
    · exact recover raised later
    · have alone : host.own args = none := by
        by_contra cached
        exact many (uncovered failure evidence fallback rfl degradable missed cached)
      unfold onCourseFailure
      rw [alone]
      refine ends_bind ((ends_raise later TOOL_COURSE _).weaken ?_ ?_)
      · exact fun _ _ last => ends_throw (last.imp (fun _ => rfl))
      · rintro _ _ ⟨rfl,last⟩
        exact last.imp (fun _ => rfl)

theorem orderToToolObservation_minds (host : Host Body) (args : QueryArgs) (fate : Fate)
    (quiet : Within settings base False ledger) :
    Minds settings base (orderToToolObservation settings host args fate) ledger := by
  apply ends_catch
  refine ends_bind ((queryOrder_minds host args fate quiet).weaken ?_ ?_)
  · intro answered after later
    dsimp only
    split <;> exact ends_pure later
  · intro failure after later
    split
    · exact ends_throw later
    · have quiet' : Within settings base False after := later.imp (fun same => by cases same)
      split <;> exact ends_pure quiet'
    · exact ends_pure (later.imp (fun same => by cases same))
    · rename_i other _ _
      exact ends_pure (later.imp (fun same => other transientExhausted same))

/-- The middleware never records the failure that is one too many in its own count. -/
def WrapKept (settings : EscalationSettings) (lower : Text → Text) (name : Text) (args : CallArgs) :
    List (Turn Text) → Ledger → Prop
  | [],_ => True
  | attempt :: rest,ledger =>
    match attempt ledger with
    | .ok _ _ => True
    | .error failure after =>
      if failure.passes then True
      else if rest ≠ [] ∧ isTransientError lower failure = true then
        WrapKept settings lower name args rest after
      else isTransientToolFailure lower failure = true →
        Below settings after
          (trackerKey (orElse (some name) "unknown".toList) (toolResourceKey args name))

theorem wrapToolCall_minds (lower : Text → Text) (name : Text) (args : CallArgs)
    {attempts : List (Turn Text)}
    (sound : ∀ attempt ∈ attempts, ∀ ledger, Within settings base False ledger →
      Minds settings base attempt ledger)
    (kept : WrapKept settings lower name args attempts ledger)
    (quiet : Within settings base False ledger) :
    Minds settings base (wrapToolCall settings lower name args attempts) ledger := by
  induction attempts generalizing ledger with
  | nil => exact minds_throw quiet _
  | cons attempt rest ih =>
    obtain ⟨here,later⟩ := List.forall_mem_cons.mp sound
    unfold WrapKept at kept
    have ends := ends_iff.mp (here ledger quiet)
    unfold wrapToolCall
    apply ends_catch
    refine ends_bind (ends_iff.mpr ⟨fun value after ran => ends_pure (ends.1 value after ran),?_⟩)
    intro failure after ran
    have seen := ends.2 failure after ran
    rw [ran] at kept
    dsimp only at kept
    split at kept
    · rename_i passes
      rw [if_pos passes]
      exact ends_throw seen
    · rename_i stays
      have quiet' : Within settings base False after :=
        seen.imp (fun same => stays (by rw [same]; rfl))
      rw [if_neg stays]
      split at kept
      · rename_i again
        rw [if_pos again]
        exact ih later kept quiet'
      · rename_i last
        rw [if_neg last]
        split
        · rename_i transient
          apply ends_bind
          apply (escalation_below quiet' (kept transient)).weaken
          · exact fun _ _ both => ends_pure both.2
          · exact fun _ _ impossible => impossible.elim
        · exact ends_pure quiet'

end

end CustomerService.ToolEscalation
