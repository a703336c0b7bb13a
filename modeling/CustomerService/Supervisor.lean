import CustomerService.LongTermMemory
import CustomerService.OrderQuery
import CustomerService.Routing
import Mathlib.Data.List.Dedup

/-! The supervisor: the plan it makes of a routed question, and how a plan is executed through
the capabilities. What the tools and the model answer is a function of what they are asked. -/
namespace CustomerService.Supervisor
open Text OrderAccess OrderReport ToolCache Routing
open OrderQuery (QueryArgs)
open SummaryFacts (Message contains)

/-! ### Plans -/

inductive Capability
  | orderQuery
  | courseRetrieve
  deriving DecidableEq

def Capability.toolName : Capability → Text
  | .orderQuery => "tool_order_query".toList
  | .courseRetrieve => "retrieve_course_knowledge".toList

inductive CourseSource
  | bound
  | fromOrderProduct
  deriving DecidableEq

structure PlanStep where
  capability : Capability
  parallelGroup : Nat
  courseSource : Option CourseSource
  deriving DecidableEq

inductive SupervisorAction
  | askUser
  | execute
  | react
  deriving DecidableEq

structure SupervisorPlan where
  action : SupervisorAction
  finalIntent : Intent
  clarificationQuestion : Option Text
  steps : List PlanStep
  reason : Text
  resolvedFromAmbiguous : Bool
  boundCourseName : Option Text
  deriving DecidableEq

def SupervisorPlan.toolsToCall (plan : SupervisorPlan) : List Text :=
  (plan.steps.map (fun step => step.capability.toolName)).reverse.dedup.reverse

def SupervisorPlan.parallel (plan : SupervisorPlan) : Bool :=
  plan.steps.any (fun step =>
    decide (1 < plan.steps.countP (fun other => decide (other.parallelGroup = step.parallelGroup))))

def explicitCourseHints : List String :=
  ["课程","大纲","模块","学习路径","入门课","讲什么","学什么","包含哪些","适合","零基础","难吗"]

/-- `_SUPERVISOR_INTENTS`, as intents. -/
def supervisorIntent (name : Text) : Option Intent :=
  [Intent.mixed,.order,.courseConsult].find? (fun intent => intent.name == name)

def boundCourseName (query : Text) (courseQuery lastCourseName orderNo : Option Text) :
    Option Text :=
  let name := strip (lastCourseName.getD [])
  if name ≠ [] ∧ name ≠ NOT_FOUND_COURSE then some name
  else
    let asked := strip (courseQuery.getD [])
    let whole := strip query
    if asked = [] then none
    else if asked = whole then
      if strip (orderNo.getD []) ≠ [] ∨ present (extractQueryOrderNo whole) = true then none
      else if mentions explicitCourseHints asked = true ∧ asked.length ≤ 40 then some asked
      else none
    else if 80 < asked.length then none
    else if present (extractQueryOrderNo asked) = true ∧ 24 < asked.length then none
    else some asked

def orderStep : PlanStep := ⟨.orderQuery,0,none⟩

def planSupervisor (intent : Text) (needsClarification : Bool)
    (clarificationQuestion : Option Text) (query : Text)
    (orderNo courseQuery lastCourseName : Option Text) : SupervisorPlan :=
  if needsClarification = true ∧ present clarificationQuestion = true then
    ⟨.askUser,.ambiguous,clarificationQuestion,[],"needs-clarification".toList,false,none⟩
  else
    let finalIntent := (supervisorIntent intent).getD .mixed
    let fromAmbiguous := intent == Intent.ambiguous.name
    let resolvedOrder := strip (orderNo.getD [])
    let bound := boundCourseName query courseQuery lastCourseName (some resolvedOrder)
    if resolvedOrder ≠ [] ∧ present bound = true then
      ⟨.execute,finalIntent,none,[orderStep,⟨.courseRetrieve,0,some .bound⟩],
        "parallel-bound".toList,fromAmbiguous,bound⟩
    else if resolvedOrder ≠ [] ∧ finalIntent = .mixed then
      ⟨.execute,.mixed,none,[orderStep,⟨.courseRetrieve,1,some .fromOrderProduct⟩],
        "serial-order-then-course".toList,fromAmbiguous,none⟩
    else if resolvedOrder ≠ [] ∧ finalIntent = .order then
      ⟨.execute,.order,none,[orderStep],"order-only".toList,fromAmbiguous,none⟩
    else if present bound = true ∧ resolvedOrder = [] ∧
        (finalIntent = .courseConsult ∨ finalIntent = .mixed) then
      ⟨.execute,.courseConsult,none,[⟨.courseRetrieve,0,some .bound⟩],"course-only".toList,
        fromAmbiguous,bound⟩
    else ⟨.react,finalIntent,none,[],"unbound-fallback".toList,fromAmbiguous,bound⟩

/-! ### Capabilities -/

inductive Abort
  | quotaExceeded
  | circuitOpen
  | cancelled
  | raised
  deriving DecidableEq

/-- What a tool raises; the message is that of the decision or of the error. -/
inductive ToolError
  | escalated (message : Option Text)
  | valueError (message : Text)
  | timeoutError (message : Text)
  | raises (abort : Abort)
  deriving DecidableEq

structure ExecutionContext where
  query : Text
  tenantId : Text
  userId : Text
  history : List Message
  sessionSummary : Text
  orderNo : Option Text
  lastOrderNo : Option Text
  courseQuery : Option Text
  lastCourseQuery : Option Text
  lastCourseName : Option Text
  boundCourseName : Option Text
  persist : Bool

structure CourseArgs where
  query : Text
  tenantId : Text
  userId : Text
  history : List Message
  lastCourseQuery : Option Text
  lastCourseName : Option Text
  sessionSummary : Text
  courseCode : Option Text

structure ReactArgs (Body : Type) where
  query : Text
  userId : Text
  tenantId : Text
  history : List Message
  orderNo : Option Text
  courseQuery : Option Text
  lastCourseName : Option Text
  sessionSummary : Text
  sessionCache : SessionToolCacheState Body

/-- The tools and the model, with the clock that stamps what goes into the session; the slots
of the session are read by the tools. -/
structure Tools (Body : Type) where
  queryOrder : SessionToolCacheState Body → QueryArgs → Except ToolError Report
  retrieveCourse : SessionToolCacheState Body → CourseArgs →
    Except ToolError (CourseConsultResult Body)
  resolveCourseCode : Text → Option Text → Option Text
  formatCourseAnswer : CourseConsultResult Body → Text
  streamReact : ReactArgs Body → Except Abort Text
  lower : Text → Text
  now : ℚ

/-- The slots of cached results that a call sets. -/
structure CacheUpdates (Body : Type) where
  order : Option (Report × ℚ) := none
  course : Option ((CourseConsultResult Body × ℚ) × Text) := none

structure Observations (Body : Type) where
  productName : Option Text := none
  courseCode : Option Text := none
  orderNo : Option Text := none
  courseName : Option Text := none
  cacheStateUpdates : Option (CacheUpdates Body) := none

/-- The text and the observations that `_run_step` reads of a result. -/
structure StepResult (Body : Type) where
  text : Option Text
  observations : Observations Body
  escalated : Bool

variable {Body : Type}

def CacheUpdates.update (old new : CacheUpdates Body) : CacheUpdates Body :=
  ⟨new.order.or old.order,new.course.or old.course⟩

def Observations.update (old new : Observations Body) : Observations Body where
  productName := new.productName.or old.productName
  courseCode := new.courseCode.or old.courseCode
  orderNo := new.orderNo.or old.orderNo
  courseName := new.courseName.or old.courseName
  cacheStateUpdates := new.cacheStateUpdates.or old.cacheStateUpdates

def formatOrderAnswer (report : Report) : Text :=
  if report.visualization ≠ [] then report.summary ++ "\n\n".toList ++ report.visualization
  else report.summary

def FAILED_STATUSES : List Text := ["busy".toList,"error".toList,"not_found".toList]

def usableProductName (report : Report) : Option Text :=
  let name := strip report.productName
  if name = [] ∨ name = BUSY_PRODUCT then none
  else if FAILED_STATUSES.contains report.currentStatus then none
  else some name

def usableCourseCode (report : Report) : Option Text :=
  let code := strip report.courseCode
  if code = [] then none
  else if FAILED_STATUSES.contains report.currentStatus then none
  else if strip report.productName = BUSY_PRODUCT then none
  else some code

/-- What `OrderCapability.bind` and `ainvoke` make of the context. -/
def orderArgs (context : ExecutionContext) : QueryArgs where
  query := context.query
  orderNo := context.orderNo
  tenantId := context.tenantId
  userId := context.userId
  lastOrderNo := either context.lastOrderNo context.orderNo
  persist := context.persist
  requireExplicitOrderNo := false

variable (tools : Tools Body) (session : SessionToolCacheState Body)

def invokeOrder (context : ExecutionContext) : Except Abort (StepResult Body) :=
  match tools.queryOrder session (orderArgs context) with
  | .error (.escalated message) => .ok ⟨message,{},true⟩
  | .error (.valueError message) => .ok ⟨some message,{},false⟩
  | .error (.timeoutError message) => .ok ⟨some message,{},false⟩
  | .error (.raises abort) => .error abort
  | .ok report =>
    .ok
      { text := some (formatOrderAnswer report)
        observations :=
          { productName := usableProductName report
            courseCode := usableCourseCode report
            orderNo := if report.orderNo = [] then none else some report.orderNo
            cacheStateUpdates := some { order := sessionUpdatesForOrder report tools.now } }
        escalated := false }

def courseSearchQuery (step : PlanStep) (context : ExecutionContext)
    (observations : Observations Body) : Text :=
  if step.courseSource = some .fromOrderProduct then
    orElse (some (strip (observations.productName.getD [])))
      (strip (observations.courseCode.getD []))
  else
    orElse context.boundCourseName (orElse context.lastCourseName
      (orElse context.courseQuery context.query))

def boundCourseCode (context : ExecutionContext) (observations : Observations Body)
    (step : PlanStep) : Text :=
  let code := strip (observations.courseCode.getD [])
  if code ≠ [] then code
  else if step.courseSource ≠ some .fromOrderProduct then []
  else (tools.resolveCourseCode context.tenantId observations.productName).getD []

def bindCourse (step : PlanStep) (context : ExecutionContext) (observations : Observations Body) :
    Option CourseArgs :=
  let code := boundCourseCode tools context observations step
  let searchQuery := courseSearchQuery step context observations
  let searched := if step.courseSource = some .fromOrderProduct then orElse (some searchQuery) code
    else searchQuery
  if searched = [] then none
  else
    some
      { query := searched
        tenantId := context.tenantId
        userId := context.userId
        history := context.history
        lastCourseQuery := either context.courseQuery context.boundCourseName
        lastCourseName := either context.lastCourseName
          (either context.boundCourseName observations.productName)
        sessionSummary := context.sessionSummary
        courseCode := if code = [] then none else some code }

def invokeCourse (args : CourseArgs) : Except Abort (StepResult Body) :=
  match tools.retrieveCourse session args with
  | .error (.escalated message) => .ok ⟨message,{},true⟩
  | .error (.raises abort) => .error abort
  | .error _ => .error .raised
  | .ok course =>
    if course.courseName = NOT_FOUND_COURSE then .ok ⟨none,{ courseName := some args.query },false⟩
    else
      let key := normalizeCourseCacheKey tools.lower args.query args.courseCode
      .ok
        { text := some (tools.formatCourseAnswer course)
          observations :=
            { courseName := some (orElse (some course.courseName) args.query)
              cacheStateUpdates := some
                { course := (sessionUpdatesForCourse course tools.now).map (fun cached => (cached,key)) } }
          escalated := false }

def runStep (step : PlanStep) (context : ExecutionContext) (observations : Observations Body) :
    Except Abort (StepResult Body) := do
  match step.capability with
  | .orderQuery =>
    let result ← invokeOrder tools session context
    return { result with observations := observations.update result.observations }
  | .courseRetrieve =>
    match bindCourse tools step context observations with
    | none => return ⟨none,observations,false⟩
    | some args =>
      let result ← invokeCourse tools session args
      return { result with observations := observations.update result.observations }

/-! ### Execution -/

def buildHandoffAnswer (autoEscalated : Bool) (reason : Option Text) : Text :=
  let lead :=
    if autoEscalated && reason == some "transient_exhausted".toList then
      "多次未能获取最新查询结果，已为您转接人工客服。当前为演示环境，请稍候；工作时间（09:00-21:00）内会有专员继续跟进。"
    else if autoEscalated && reason == some "react_limit".toList then
      "处理步骤较多且未能完成自动查询，已为您转接人工客服。当前为演示环境，请稍候；工作时间（09:00-21:00）内会有专员继续跟进。"
    else "已为您转接人工客服。当前为演示环境，请稍候；工作时间（09:00-21:00）内会有专员继续跟进您的问题。"
  lead.toList ++ "您也可以继续描述问题，我会先记录在会话中。".toList

structure Execution (Body : Type) where
  parts : List Text
  observations : Observations Body
  cacheUpdates : CacheUpdates Body
  boundCourse : Option Text

/-- The results of a group in the order of its steps, up to one that escalates. -/
def Execution.absorb (run : Execution Body) : List (StepResult Body) → Execution Body × Option Text
  | [] =>
    ({ run with boundCourse := either run.observations.courseName run.boundCourse },none)
  | result :: rest =>
    let seen : Execution Body :=
      { run with
        observations := run.observations.update result.observations
        cacheUpdates := run.cacheUpdates.update (result.observations.cacheStateUpdates.getD {}) }
    if result.escalated then (seen,some (orElse result.text (buildHandoffAnswer true none)))
    else
      ({ seen with
        parts := run.parts ++ (result.text.filter (fun text : Text => text ≠ [])).toList }).absorb rest

/-- What `_execute_plan` returns. -/
structure Executed (Body : Type) where
  answer : Text
  boundCourse : Option Text
  cacheUpdates : CacheUpdates Body
  escalated : Bool

/-- The steps of each group, the groups in ascending order. -/
def SupervisorPlan.groups (plan : SupervisorPlan) : List (List PlanStep) :=
  ((plan.steps.map PlanStep.parallelGroup).dedup.mergeSort (fun first second => decide (first ≤ second))).map
    (fun group => plan.steps.filter (fun step => decide (step.parallelGroup = group)))

/-- `context` is that of `_execution_context` for a bound course name. -/
def executeGroups (context : Option Text → ExecutionContext) (run : Execution Body) :
    List (List PlanStep) → Except Abort (Executed Body)
  | [] =>
    .ok
      { answer := orElse (some ("\n\n".toList.intercalate run.parts)) "暂时无法处理该问题。".toList
        boundCourse := run.boundCourse
        cacheUpdates := run.cacheUpdates
        escalated := false }
  | steps :: rest => do
    let results ← steps.mapM (fun step =>
      runStep tools session step (context run.boundCourse) run.observations)
    match run.absorb results with
    | (seen,some text) => return ⟨text,run.boundCourse,seen.cacheUpdates,true⟩
    | (seen,none) => executeGroups context seen rest

structure SupervisorArgs (Body : Type) where
  query : Text
  userId : Text
  tenantId : Text
  history : List Message
  orderNo : Option Text
  courseQuery : Option Text
  lastCourseName : Option Text
  sessionSummary : Text
  sessionCache : SessionToolCacheState Body
  intent : Text
  needsClarification : Bool
  clarificationQuestion : Option Text

/-- `_execution_context`; the number the supervisor was given also goes where the number bound
in the session belongs. -/
def executionContext (args : SupervisorArgs Body) (bound : Option Text) : ExecutionContext where
  query := args.query
  tenantId := args.tenantId
  userId := args.userId
  history := args.history
  sessionSummary := args.sessionSummary
  orderNo := args.orderNo
  lastOrderNo := args.orderNo
  courseQuery := args.courseQuery
  lastCourseQuery := args.courseQuery
  lastCourseName := either args.lastCourseName bound
  boundCourseName := bound
  persist := true

structure SupervisorDecision (Body : Type) where
  action : SupervisorAction
  finalIntent : Intent
  toolsToCall : List Text
  parallel : Bool
  clarificationQuestion : Option Text
  answer : Option Text
  boundOrderNo : Option Text
  boundCourseQuery : Option Text
  resolvedFromAmbiguous : Bool
  reason : Text
  cacheStateUpdates : CacheUpdates Body

def toSupervisorDecision (plan : SupervisorPlan) (answer orderNo courseQuery : Option Text)
    (cacheStateUpdates : CacheUpdates Body) (escalated : Option Text) : SupervisorDecision Body :=
  let course := either courseQuery plan.boundCourseName
  match escalated with
  | some reason =>
    ⟨plan.action,.handoff,plan.toolsToCall,plan.parallel,none,answer,orderNo,course,
      plan.resolvedFromAmbiguous,reason,cacheStateUpdates⟩
  | none =>
    if plan.action = .askUser then
      ⟨.askUser,plan.finalIntent,[],false,plan.clarificationQuestion,
        some (orElse answer (plan.clarificationQuestion.getD [])),orderNo,course,false,plan.reason,{}⟩
    else
      ⟨plan.action,plan.finalIntent,plan.toolsToCall,plan.parallel,none,answer,orderNo,course,
        plan.resolvedFromAmbiguous,plan.reason,cacheStateUpdates⟩

def isAutoHandoffAnswer (answer : Text) : Bool :=
  contains "转接人工客服".toList (strip answer) && contains "演示环境".toList (strip answer)

def SupervisorArgs.plan (args : SupervisorArgs Body) : SupervisorPlan :=
  planSupervisor args.intent args.needsClarification args.clarificationQuestion args.query
    args.orderNo args.courseQuery args.lastCourseName

def runSupervisor (args : SupervisorArgs Body) : Except Abort (SupervisorDecision Body) := do
  let plan := args.plan
  let course := either args.courseQuery plan.boundCourseName
  match plan.action with
  | .askUser => return toSupervisorDecision plan none args.orderNo course {} none
  | .react =>
    let answer ← tools.streamReact
      ⟨args.query,args.userId,args.tenantId,args.history,args.orderNo,args.courseQuery,
        args.lastCourseName,args.sessionSummary,args.sessionCache⟩
    return toSupervisorDecision plan (some answer) args.orderNo course {}
      (if isAutoHandoffAnswer answer then some "react_limit".toList else none)
  | .execute =>
    let executed ← executeGroups tools session (executionContext args)
      ⟨[],{},{},plan.boundCourseName⟩ plan.groups
    return toSupervisorDecision plan (some executed.answer) args.orderNo
      (either executed.boundCourse course) executed.cacheUpdates
      (if executed.escalated then some "transient_exhausted".toList else none)

end CustomerService.Supervisor
