import CustomerService.AnswerTexts
import CustomerService.EscalatedTurns

/-! Where the answers of a turn come from: what the orders, the documents and the model say of them,
and when the client is sent nothing that the output filter changes. -/
namespace CustomerService.AnswerSources
open Text OrderAccess OrderReport ToolCache Routing Supervisor NodeGraph ChatGraph PlanExecution
open FailingPrograms ToolEscalation ReactFailures EscalatedTurns OutputFilter AnswerTexts
open OrderQuery (QueryArgs QueryError Fate Host)

variable {Score Body : Type}

/-! ### Escalations -/

private theorem filtered_getD (value : Option Text) : Filtered (value.getD []) ↔ AllFiltered value.toList := by
  cases value with
  | none => exact iff_of_true filtered_nil allFiltered_nil
  | some text => rw [Option.getD_some,Option.toList_some,allFiltered_singleton]

/-- The message of an escalation that is not the tracker's own. -/
def escalationTexts (message : Option Text) : List Text :=
  if message = transientExhausted.message then [] else message.toList

private theorem filtered_escalation (message : Option Text) :
    Filtered (message.getD []) ↔ AllFiltered (escalationTexts message) := by
  unfold escalationTexts
  split_ifs with own
  · rw [own]
    exact iff_of_true (filtered_handoff true _) allFiltered_nil
  · exact filtered_getD message

/-! ### Orders -/

def askedNumber (args : QueryArgs) : Option Text :=
  if args.requireExplicitOrderNo then OrderQuery.explicitOrderNo args.orderNo
  else (OrderQuery.resolveQueryOrderNo args.query args.orderNo args.userId args.lastOrderNo).toOption

/-- Of the order with the number, or the number itself where nobody may see one. -/
def foundTexts (host : Host Body) (args : QueryArgs) : List Text :=
  match askedNumber args with
  | none => []
  | some number =>
    match (authorize host.table host.tenancy
        ⟨number,.directQuery,some args.tenantId,some (normalizeUserId args.userId),none⟩).order with
    | some order => orderTexts host.rendering order
    | none => [number]

/-- Of the cached report with its age, or else what the pool says. -/
def keptTexts (host : Host Body) (orderNo : Text) (args : QueryArgs) (busy : Option Text) : List Text :=
  match getCachedOrder host.settings host.table host.tenancy host.session host.store host.now
      (orElse (some (strip orderNo)) "unknown".toList) args.tenantId args.userId with
  | some (report,cachedAt) =>
    [minutes (max 0 (host.now - cachedAt)),report.summary,report.visualization]
  | none => busy.toList

/-- What an answer of the order tool says, of the order or of the failure. -/
def queryTexts (host : Host Body) (args : QueryArgs) (fate : Fate) : List Text :=
  match OrderQuery.resolveOrderNumber args with
  | .error _ => []
  | .ok resolved =>
    match fate with
    | .runs _ => foundTexts host args
    | .busy message => keptTexts host (OrderQuery.fallbackOrderNo args resolved) args (some message)
    | .timesOut => keptTexts host (OrderQuery.fallbackOrderNo args resolved) args none
    | .raises _ => []

private theorem resolveQueryOrderNo_ready {query userId : Text} {orderNo lastOrderNo : Option Text}
    {error : QueryError} (failed : OrderQuery.resolveQueryOrderNo query orderNo userId lastOrderNo =
      .error error) : ∃ message, error = .valueError message ∧ Filtered message := by
  unfold OrderQuery.resolveQueryOrderNo at failed
  dsimp only at failed
  split_ifs at failed
  · cases failed
    exact ⟨_,rfl,by decide +kernel⟩
  · cases failed
    exact ⟨_,rfl,Few.filtered (by decide)⟩

private theorem resolveOrderNumber_ready {args : QueryArgs} {error : QueryError}
    (failed : OrderQuery.resolveOrderNumber args = .error error) :
    ∃ message, error = .valueError message ∧ Filtered message := by
  unfold OrderQuery.resolveOrderNumber at failed
  split_ifs at failed
  cases resolved : OrderQuery.resolveQueryOrderNo args.query args.orderNo args.userId args.lastOrderNo with
  | ok _ =>
    rw [resolved] at failed
    cases failed
  | error other =>
    rw [resolved] at failed
    cases failed
    exact resolveQueryOrderNo_ready resolved

/-- What comes of a query is put together from the texts. -/
def ToldBy (texts : List Text) : Except QueryError Report → Prop
  | .ok report => Filtered (formatOrderAnswer report) ↔ AllFiltered texts
  | .error error => ∃ message, error = .valueError message ∧ (Filtered message ↔ AllFiltered texts)

private theorem fetchOrderReport_told (host : Host Body) (args : QueryArgs) (number : Text) (ossUrl : Option Text)
    (asked : askedNumber args = some number) :
    ToldBy (foundTexts host args) (do
      let report ← OrderQuery.fetchOrderReport host.rendering host.table host.tenancy number args.tenantId
        args.query args.userId
      return if args.persist then {report with ossUrl := ossUrl} else report) := by
  unfold foundTexts OrderQuery.fetchOrderReport
  rw [asked]
  dsimp only
  cases (authorize host.table host.tenancy
      ⟨number,.directQuery,some args.tenantId,some (normalizeUserId args.userId),none⟩).order with
  | none =>
    have unknown : Filtered ("未找到订单 ".toList ++ number) ↔ Filtered number :=
      filtered_after (by decide) number
    refine ⟨_,rfl,?_⟩
    rw [unknown,allFiltered_singleton]
  | some order =>
    have told := filtered_ofOrder host.rendering order args.query
    change ToldBy _ (Except.ok (if args.persist then
      {ofOrder host.rendering order args.query with ossUrl := ossUrl}
      else ofOrder host.rendering order args.query))
    split_ifs
    · exact told
    · exact told

theorem unasked_told {host : Host Body} {args : QueryArgs} (asked : askedNumber args = none) {message : Text}
    (ready : Filtered message) : ToldBy (foundTexts host args) (.error (.valueError message)) := by
  refine ⟨message,rfl,?_⟩
  unfold foundTexts
  rw [asked]
  exact iff_of_true ready allFiltered_nil

private theorem queryOrderInner_told (host : Host Body) (args : QueryArgs) (ossUrl : Option Text) :
    ToldBy (foundTexts host args)
      (OrderQuery.queryOrderInner host.rendering host.table host.tenancy args ossUrl) := by
  unfold OrderQuery.queryOrderInner
  by_cases explicit : args.requireExplicitOrderNo = true
  · rw [if_pos explicit]
    have asked : askedNumber args = OrderQuery.explicitOrderNo args.orderNo := if_pos explicit
    cases named : OrderQuery.explicitOrderNo args.orderNo with
    | none => exact unasked_told (asked.trans named) (Few.filtered (by decide))
    | some number => exact fetchOrderReport_told host args number ossUrl (asked.trans named)
  · rw [if_neg explicit]
    have asked : askedNumber args =
        (OrderQuery.resolveQueryOrderNo args.query args.orderNo args.userId args.lastOrderNo).toOption :=
      if_neg explicit
    cases resolved : OrderQuery.resolveQueryOrderNo args.query args.orderNo args.userId args.lastOrderNo with
    | error error =>
      obtain ⟨message,rfl,ready⟩ := resolveQueryOrderNo_ready resolved
      rw [resolved] at asked
      exact unasked_told asked ready
    | ok number =>
      rw [resolved] at asked
      exact fetchOrderReport_told host args number ossUrl asked

section
variable {settings : EscalationSettings} {ledger : Ledger}

def FailureTold (texts : List Text) (failure : Failure) : Prop :=
  ∀ message, failure = .valueError message ∨ failure = .timeoutError message →
    (Filtered message ↔ AllFiltered texts)

private theorem ends_told {texts : List Text} {outcome : Except QueryError Report} (told : ToldBy texts outcome) :
    Ends (fun report _ => Filtered (formatOrderAnswer report) ↔ AllFiltered texts)
      (fun failure _ => FailureTold texts failure) (ofExcept outcome) ledger := by
  cases outcome with
  | ok report => exact ends_pure told
  | error error =>
    obtain ⟨message,rfl,same⟩ := told
    refine ends_throw (fun other raised => ?_)
    rcases raised with raised | raised
    · cases raised
      exact same
    · cases raised

theorem handleOrderTransientFailure_told (host : Host Body) (orderNo : Text) (args : QueryArgs)
    (busy : Option Text) :
    Ends (fun report _ => Filtered (formatOrderAnswer report) ↔
        AllFiltered (keptTexts host orderNo args busy))
      (fun failure _ => FailureTold (keptTexts host orderNo args busy) failure)
      (handleOrderTransientFailure settings host orderNo args busy) ledger := by
  unfold handleOrderTransientFailure keptTexts
  dsimp only
  cases getCachedOrder host.settings host.table host.tenancy host.session host.store host.now
      (orElse (some (strip orderNo)) "unknown".toList) args.tenantId args.userId with
  | some cached =>
    have prefixed := filtered_stalePrefix (max 0 (host.now - cached.2)) cached.1.summary
    apply ends_pure
    rw [filtered_formatOrderAnswer,annotateStaleOrder]
    dsimp only
    rw [prefixed,and_assoc]
    simp only [allFiltered_cons,allFiltered_nil,and_true]
  | none =>
    apply ends_bind
    apply (raise_recorded _ ledger).weaken
    · rintro _ _ -
      cases busy with
      | none =>
        refine ends_throw (fun other raised => ?_)
        rcases raised with raised | raised
        · cases raised
        · cases raised
          exact iff_of_true (Few.filtered (by decide)) allFiltered_nil
      | some message =>
        apply ends_pure
        rw [filtered_busyReport]
        simp only [Option.toList_some,allFiltered_cons,allFiltered_nil,and_true]
    · rintro _ _ ⟨rfl,-⟩ other raised
      rcases raised with raised | raised <;> cases raised

theorem queryOrder_told (host : Host Body) (args : QueryArgs) (fate : Fate) :
    Ends (fun answered _ => Filtered (formatOrderAnswer answered.1) ↔ AllFiltered (queryTexts host args fate))
      (fun failure _ => FailureTold (queryTexts host args fate) failure)
      (queryOrder settings host args fate) ledger := by
  unfold queryOrder queryTexts
  cases resolved : OrderQuery.resolveOrderNumber args with
  | error error =>
    obtain ⟨message,rfl,ready⟩ := resolveOrderNumber_ready resolved
    refine ends_throw (fun other raised => ?_)
    rcases raised with raised | raised
    · cases raised
      exact iff_of_true ready allFiltered_nil
    · cases raised
  | ok number =>
    cases fate with
    | runs ossUrl =>
      apply ends_bind
      exact (ends_told (queryOrderInner_told host args ossUrl)).weaken (fun _ _ told => ends_pure told)
        (fun _ _ told => told)
    | busy message =>
      apply ends_bind
      exact (handleOrderTransientFailure_told host _ args _).weaken (fun _ _ told => ends_pure told)
        (fun _ _ told => told)
    | timesOut =>
      apply ends_bind
      exact (handleOrderTransientFailure_told host _ args _).weaken (fun _ _ told => ends_pure told)
        (fun _ _ told => told)
    | raises message =>
      refine ends_throw (fun other raised => ?_)
      rcases raised with raised | raised <;> cases raised

end

/-! ### Courses -/

def NOT_FOUND_SUMMARY : Text := "知识库中没有匹配内容，请换个课程名称再试。".toList

def notFoundResult : CourseConsultResult CourseBody := ⟨NOT_FOUND_COURSE,NOT_FOUND_SUMMARY,[],⟨[],[],[],[]⟩⟩

def UNEXPLAINED : Text := "已检索到相关资料，但未能生成说明，请稍后重试。".toList

/-- How `astream_course_answer` ends: there are no documents, the model is off, or it streams its
answer beside the stub of the documents, or fails. -/
inductive Streamed
  | raises (failure : Failure)
  | notFound
  | rules (fallback : CourseConsultResult CourseBody)
  | model (parts : List Text) (stub : CourseConsultResult CourseBody)
  | modelRaises (failure : Failure) (evidence : List EvidenceSection)
      (fallback : CourseConsultResult CourseBody)

def Streamed.consulted : Streamed → Consulted CourseBody (Text × CourseConsultResult CourseBody)
  | .raises failure => .raises failure
  | .notFound => .answers (notFoundResult.summary,notFoundResult)
  | .rules fallback => .answers (formatCourseAnswer fallback,fallback)
  | .model parts stub => .answers (orElse (some (strip parts.flatten)) UNEXPLAINED,stub)
  | .modelRaises failure evidence fallback => .modelRaises failure evidence fallback

section
variable (settings : EscalationSettings) (host : CourseHost CourseBody)

/-- Of the result cached under the question with its age, or else of the rules. -/
def bareTexts (query : Text) (evidence : List EvidenceSection) (fallback : CourseConsultResult CourseBody) :
    List Text :=
  match getCachedCourse host.settings host.session host.store host.now
      (normalizeCourseCacheKey host.lower query none) host.tenancy.currentTenant
      host.tenancy.getCurrentUser with
  | some (result,cachedAt) =>
    minutes (max 0 (host.now - cachedAt)) :: resultTexts (withEvidence evidence result)
  | none => resultTexts (withEvidence evidence fallback)

/-- Of the result cached under the question or the code of the course. -/
def ownTexts (args : CourseArgs) : List Text :=
  match getCachedCourse host.settings host.session host.store host.now (courseKey host args)
      (orElse (some args.tenantId) host.tenancy.currentTenant)
      (orElse (some args.userId) host.tenancy.getCurrentUser) with
  | some (result,cachedAt) => minutes (max 0 (host.now - cachedAt)) :: resultTexts result
  | none => []

def consultTexts (query : Text) : Consulted CourseBody (CourseConsultResult CourseBody) → List Text
  | .raises _ => []
  | .answers result => resultTexts result
  | .modelRaises _ evidence fallback => bareTexts host query evidence fallback

/-- What the result of a search says, or the cached one where the search fails. -/
def retrieveTexts (args : CourseArgs) (consulted : Consulted CourseBody (CourseConsultResult CourseBody))
    (ledger : Ledger) : List Text :=
  match consultCourse settings host args.query consulted ledger with
  | .ok _ _ => consultTexts host args.query consulted
  | .error _ _ => ownTexts host args

def streamTexts (query : Text) : Streamed → List Text
  | .raises _ | .notFound => []
  | .rules fallback => resultTexts fallback
  | .model parts _ => [parts.flatten]
  | .modelRaises _ evidence fallback => bareTexts host query evidence fallback

end

private theorem resultTexts_stale (result : CourseConsultResult CourseBody) (ageSeconds : ℚ) :
    AllFiltered (resultTexts (annotateStaleCourse result ageSeconds)) ↔
      AllFiltered (minutes ageSeconds :: resultTexts result) := by
  have prefixed := filtered_stalePrefix ageSeconds result.summary
  unfold resultTexts annotateStaleCourse
  dsimp only
  split_ifs
  · simp only [allFiltered_cons,prefixed,and_assoc]
  · simp only [allFiltered_append,allFiltered_cons,allFiltered_nil,prefixed]
    constructor
    · rintro ⟨⟨⟨⟨⟨⟨name,⟨age,summary⟩,-⟩,modules⟩,numbers⟩,stages⟩,items⟩,sources⟩
      exact ⟨age,⟨⟨⟨⟨⟨name,summary,trivial⟩,modules⟩,numbers⟩,stages⟩,items⟩,sources⟩
    · rintro ⟨age,⟨⟨⟨⟨⟨name,summary,-⟩,modules⟩,numbers⟩,stages⟩,items⟩,sources⟩
      exact ⟨⟨⟨⟨⟨⟨name,⟨age,summary⟩,trivial⟩,modules⟩,numbers⟩,stages⟩,items⟩,sources⟩

section
variable {settings : EscalationSettings} {host : CourseHost CourseBody} {ledger : Ledger}

private theorem onLlmFailure_told (query : Text) (failure : Failure) (evidence : List EvidenceSection)
    (fallback : CourseConsultResult CourseBody) :
    Ends (fun result _ => AllFiltered (resultTexts (withEvidence evidence result)) ↔
        AllFiltered (bareTexts host query evidence fallback)) (fun _ _ => True)
      (onLlmFailure settings host query failure fallback) ledger := by
  unfold onLlmFailure bareTexts CourseHost.bare CourseHost.cached
  by_cases degradable : isLlmDegradable failure = false
  · rw [if_pos degradable]
    exact ends_throw trivial
  · rw [if_neg degradable]
    cases getCachedCourse host.settings host.session host.store host.now
        (normalizeCourseCacheKey host.lower query none) host.tenancy.currentTenant
        host.tenancy.getCurrentUser with
    | some cached =>
      apply ends_pure
      exact resultTexts_stale (withEvidence evidence cached.1) (max 0 (host.now - cached.2))
    | none =>
      apply ends_bind
      exact (raise_recorded _ ledger).weaken (fun _ _ _ => ends_pure Iff.rfl) (fun _ _ _ => trivial)

theorem consultCourse_told (query : Text) (consulted : Consulted CourseBody (CourseConsultResult CourseBody)) :
    Ends (fun result _ => AllFiltered (resultTexts result) ↔ AllFiltered (consultTexts host query consulted))
      (fun _ _ => True) (consultCourse settings host query consulted) ledger := by
  cases consulted with
  | raises failure => exact ends_throw trivial
  | answers result => exact ends_pure Iff.rfl
  | modelRaises failure evidence fallback =>
    apply ends_bind
    exact (onLlmFailure_told query failure evidence fallback).weaken (fun _ _ told => ends_pure told)
      (fun _ _ _ => trivial)

private theorem retrieveCourse_told (args : CourseArgs)
    (consulted : Consulted CourseBody (CourseConsultResult CourseBody)) :
    Ends (fun answered _ => AllFiltered (resultTexts answered.1) ↔
        AllFiltered (retrieveTexts settings host args consulted ledger)) (fun _ _ => True)
      (retrieveCourse settings host args consulted) ledger := by
  have consults := ends_iff.mp (@consultCourse_told settings host ledger args.query consulted)
  apply ends_catch
  apply ends_bind
  refine ends_iff.mpr ⟨fun result after ran => ends_pure ?_,fun failure after ran => ?_⟩
  · unfold retrieveTexts
    rw [ran]
    exact consults.1 result after ran
  · unfold retrieveTexts onCourseFailure ownTexts CourseHost.own CourseHost.cached
    rw [ran]
    cases getCachedCourse host.settings host.session host.store host.now (courseKey host args)
        (orElse (some args.tenantId) host.tenancy.currentTenant)
        (orElse (some args.userId) host.tenancy.getCurrentUser) with
    | some cached => exact ends_pure (resultTexts_stale cached.1 (max 0 (host.now - cached.2)))
    | none =>
      apply ends_bind
      exact (raise_recorded _ after).weaken (fun _ _ _ => ends_throw trivial) (fun _ _ _ => trivial)

private theorem streamCourseAnswer_told (query : Text) (streamed : Streamed) :
    Ends (fun answered _ => Filtered answered.1 ↔ AllFiltered (streamTexts host query streamed))
      (fun _ _ => True)
      (streamCourseAnswer settings host query formatCourseAnswer streamed.consulted) ledger := by
  cases streamed with
  | raises failure => exact ends_throw trivial
  | notFound => exact ends_pure (iff_of_true (Few.filtered (by decide)) allFiltered_nil)
  | rules fallback => exact ends_pure (filtered_formatCourseAnswer fallback)
  | model parts stub =>
    apply ends_pure
    have said := filtered_orElse (Few.filtered (by decide) : Filtered UNEXPLAINED) (some (strip parts.flatten))
    rw [said,Option.getD_some,filtered_strip,streamTexts,allFiltered_singleton]
  | modelRaises failure evidence fallback =>
    apply ends_bind
    refine (onLlmFailure_told query failure evidence fallback).weaken (fun result _ told => ?_)
      (fun _ _ _ => trivial)
    exact ends_pure ((filtered_formatCourseAnswer _).trans told)

end

/-! ### The agent -/

section
variable (settings : EscalationSettings) (tools : Tools CourseBody) (args : ReactArgs CourseBody)

def offlineCourseTexts (offline : Offline CourseBody) (ledger : Ledger) : List Text :=
  match retrieveCourse settings offline.courseHost (offlineCourseArgs args) offline.consulted ledger with
  | .ok course _ =>
    if course.1.courseName ≠ NOT_FOUND_COURSE then
      retrieveTexts settings offline.courseHost (offlineCourseArgs args) offline.consulted ledger
    else []
  | .error _ _ => []

def offlineTexts (offline : Offline CourseBody) (ledger : Ledger) : List Text :=
  match queryOrder settings offline.orderHost (offlineOrderArgs args) offline.fate ledger with
  | .ok _ after =>
    queryTexts offline.orderHost (offlineOrderArgs args) offline.fate ++
      offlineCourseTexts settings args offline after
  | .error (.valueError _) after => offlineCourseTexts settings args offline after
  | .error _ _ => []

/-- Of the runner, or of an escalation, or of the offline path. -/
def runnerTexts (llmEnabled : Bool) (runner : Turn Text) (texts : List Text) (offline : Offline CourseBody)
    (ledger : Ledger) : List Text :=
  if llmEnabled = false then offlineTexts settings args offline ledger
  else
    match runner ledger with
    | .ok _ _ => texts
    | .error (.toolEscalation decision) _ => escalationTexts decision.message
    | .error _ after => offlineTexts settings args offline after

def invokeTexts (run : Invoke CourseBody) : List Text :=
  match run.ends with
  | .ok text => [text]
  | .error _ => []

def againTexts (llmEnabled : Bool) (run : Invoke CourseBody) (ledger : Ledger) : List Text :=
  runnerTexts settings args llmEnabled (invokeAgent settings tools args run) (invokeTexts run) run.offline
    ledger.scoped

/-- What the model has written, or of the run that comes after a silent one. -/
def agentTexts (run : ReactRun CourseBody) (ledger : Ledger) : List Text :=
  match run.ends with
  | .raises _ => []
  | .streams parts last =>
    if strip parts.flatten ≠ [] then [parts.flatten]
    else if strip (last.getD []) ≠ [] then [last.getD []]
    else
      match runCalls settings tools args run.calls ledger with
      | .ok _ after => againTexts settings tools args run.llmEnabled run.again after
      | .error _ _ => []

def reactTexts (run : ReactRun CourseBody) (ledger : Ledger) : List Text :=
  runnerTexts settings args run.llmEnabled (streamAgent settings tools args run)
    (agentTexts settings tools args run ledger.scoped) run.offline ledger.scoped

end

section
variable {settings : EscalationSettings} {tools : Tools CourseBody} {args : ReactArgs CourseBody}
  {ledger : Ledger}

/-- The answer of a program is filtered exactly when the texts are. -/
def AnsweredBy (texts : List Text) (program : Turn Text) (ledger : Ledger) : Prop :=
  Ends (fun text _ => Filtered text ↔ AllFiltered texts) (fun _ _ => True) program ledger

private theorem filtered_joined (parts : List Text) :
    Filtered (orElse (some ("\n\n".toList.intercalate parts)) "暂时无法处理该问题。".toList) ↔
      AllFiltered parts :=
  (filtered_orElse (Few.filtered (by decide)) _).trans
    (filtered_intercalate (by decide) (by decide) parts)

private theorem offlineCourse_told (format : tools.formatCourseAnswer = formatCourseAnswer)
    (offline : Offline CourseBody) (parts : List Text) :
    AnsweredBy (parts ++ offlineCourseTexts settings args offline ledger) (do
      let course :=
        (← retrieveCourse settings offline.courseHost (offlineCourseArgs args) offline.consulted).1
      let parts :=
        if course.courseName ≠ NOT_FOUND_COURSE then parts ++ [tools.formatCourseAnswer course] else parts
      return orElse (some ("\n\n".toList.intercalate parts)) "暂时无法处理该问题。".toList) ledger := by
  have told := ends_iff.mp (@retrieveCourse_told settings offline.courseHost ledger (offlineCourseArgs args)
    offline.consulted)
  apply ends_bind
  refine ends_iff.mpr ⟨fun course after ran => ?_,fun _ _ _ => trivial⟩
  apply ends_pure
  unfold offlineCourseTexts
  rw [ran,filtered_joined,format]
  dsimp only
  split_ifs
  · rw [allFiltered_append,allFiltered_append,allFiltered_cons,filtered_formatCourseAnswer,told.1 course after ran]
    simp only [allFiltered_nil,and_true]
  · rw [List.append_nil]

private theorem offlineReact_told (format : tools.formatCourseAnswer = formatCourseAnswer)
    (offline : Offline CourseBody) :
    AnsweredBy (offlineTexts settings args offline ledger) (offlineReact settings tools args offline) ledger := by
  have told := ends_iff.mp (@queryOrder_told _ settings ledger offline.orderHost (offlineOrderArgs args)
    offline.fate)
  unfold offlineReact
  apply ends_bind
  apply ends_catch
  apply ends_bind
  refine ends_iff.mpr ⟨fun answered after ran => ?_,fun failure after ran => ?_⟩
  · apply ends_pure
    refine (offlineCourse_told format offline [formatOrderAnswer answered.1]).weaken (fun text _ same => ?_)
      (fun _ _ _ => trivial)
    unfold offlineTexts
    rw [ran,same,allFiltered_append,allFiltered_append,allFiltered_cons,told.1 answered after ran]
    simp only [allFiltered_nil,and_true]
  · unfold offlineTexts
    rw [ran]
    cases failure with
    | valueError message =>
      apply ends_pure
      exact offlineCourse_told format offline []
    | _ => exact ends_throw trivial

private theorem reactOrOffline_told (format : tools.formatCourseAnswer = formatCourseAnswer) {llmEnabled : Bool}
    {runner : Turn Text} {texts : List Text} (offline : Offline CourseBody)
    (told : llmEnabled = true → AnsweredBy texts runner ledger) :
    AnsweredBy (runnerTexts settings args llmEnabled runner texts offline ledger)
      (reactOrOffline llmEnabled runner (offlineReact settings tools args offline)) ledger := by
  unfold runnerTexts reactOrOffline
  split_ifs with off
  · exact offlineReact_told format offline
  · have runs := ends_iff.mp (told (by simpa using off))
    apply ends_catch
    refine ends_iff.mpr ⟨fun text after ran => ?_,fun failure after ran => ?_⟩
    · rw [ran]
      exact runs.1 text after ran
    · rw [ran]
      have recovers : AnsweredBy (offlineTexts settings args offline after)
          (if isLlmDegradable failure = false then throw failure
            else offlineReact settings tools args offline) after := by
        split_ifs
        · exact ends_throw trivial
        · exact offlineReact_told format offline
      cases failure with
      | toolEscalation decision =>
        apply ends_pure
        rw [filtered_orElse (Few.filtered (by decide))]
        exact filtered_escalation decision.message
      | _ => exact recovers

private theorem scope_told {texts : List Text} {body : Turn Text} (told : AnsweredBy texts body ledger.scoped) :
    AnsweredBy texts (trackerScope body) ledger := by
  unfold AnsweredBy Ends trackerScope at *
  cases ran : body ledger.scoped with
  | ok text after =>
    rw [ran] at told
    exact told
  | error failure after => trivial

private theorem runReact_told (format : tools.formatCourseAnswer = formatCourseAnswer) (llmEnabled : Bool)
    (run : Invoke CourseBody) :
    AnsweredBy (againTexts settings tools args llmEnabled run ledger)
      (runReact settings tools args llmEnabled run) ledger := by
  refine scope_told (reactOrOffline_told format run.offline (fun _ => ?_))
  apply ends_bind
  refine ends_iff.mpr ⟨fun _ after _ => ?_,fun _ _ _ => trivial⟩
  unfold invokeTexts
  cases run.ends with
  | ok text =>
    apply ends_pure
    rw [allFiltered_singleton]
  | error failure => exact ends_throw trivial

theorem streamAgent_told (format : tools.formatCourseAnswer = formatCourseAnswer) (run : ReactRun CourseBody) :
    AnsweredBy (agentTexts settings tools args run ledger) (streamAgent settings tools args run) ledger := by
  apply ends_bind
  refine ends_iff.mpr ⟨fun _ after ran => ?_,fun _ _ _ => trivial⟩
  unfold agentTexts
  cases run.ends with
  | raises failure => exact ends_throw trivial
  | streams parts last =>
    dsimp only
    split_ifs with said written
    · apply ends_pure
      rw [filtered_strip,allFiltered_singleton]
    · apply ends_pure
      rw [allFiltered_singleton]
    · rw [ran]
      exact runReact_told format run.llmEnabled run.again

theorem streamReact_told (format : tools.formatCourseAnswer = formatCourseAnswer) (run : ReactRun CourseBody) :
    AnsweredBy (reactTexts settings tools args run ledger) (streamReact settings tools args run) ledger :=
  scope_told (reactOrOffline_told format run.offline (fun _ => streamAgent_told format run))

end

/-! ### Plans -/

section
variable (wires : Wires CourseBody) (tools : Tools CourseBody) (session : SessionToolCacheState CourseBody)

def calledOrderTexts (args : QueryArgs) : List Text :=
  queryTexts (wires.orderHost session) args (wires.fate args)

def calledCourseTexts (args : CourseArgs) : List Text :=
  match ending toolError (wires.course session args) with
  | .ok course =>
    if course.courseName = NOT_FOUND_COURSE then []
    else retrieveTexts wires.settings (wires.courseHost session) args (wires.consult args) freshLedger
  | .error _ => []

def ranTexts (one : StepRun CourseBody) : List Text :=
  match one.result with
  | .error _ => []
  | .ok _ =>
    match one.step.capability with
    | .orderQuery => calledOrderTexts wires session (orderArgs one.context)
    | .courseRetrieve =>
      match one.course tools with
      | none => []
      | some args => calledCourseTexts wires session args

/-- Of the steps that run, or of the first one that escalates. -/
def planTexts (ran : List (StepRun CourseBody)) : List Text :=
  match ran.find? StepRun.escalates with
  | some one => escalationTexts one.text
  | none => ran.flatMap (ranTexts wires tools session)

def supervisorTexts (args : SupervisorArgs CourseBody) : List Text :=
  match args.plan.action with
  | .askUser => args.clarificationQuestion.toList
  | .react =>
    reactTexts wires.settings tools (reactArgs args) (wires.react (reactArgs args)) freshLedger
  | .execute => planTexts wires (wires.tools tools) session (wires.ran tools session args)

end

section
variable {wires : Wires CourseBody} {tools : Tools CourseBody} {session : SessionToolCacheState CourseBody}

private theorem toolError_told {failure : Failure} {message : Text}
    (told : toolError failure = .valueError message ∨ toolError failure = .timeoutError message) :
    failure = .valueError message ∨ failure = .timeoutError message := by
  cases failure with
  | valueError other =>
    rcases told with same | same
    · exact Or.inl (congrArg Failure.valueError (ToolError.valueError.inj same))
    · cases same
  | timeoutError other =>
    rcases told with same | same
    · cases same
    · exact Or.inr (congrArg Failure.timeoutError (ToolError.timeoutError.inj same))
  | _ => rcases told with same | same <;> cases same

private theorem calledOrder_told (args : QueryArgs) :
    (∀ report, ending toolError (wires.order session args) = .ok report →
      (Filtered (formatOrderAnswer report) ↔ AllFiltered (calledOrderTexts wires session args))) ∧
    ∀ message, ending toolError (wires.order session args) = .error (.valueError message) ∨
        ending toolError (wires.order session args) = .error (.timeoutError message) →
      (Filtered message ↔ AllFiltered (calledOrderTexts wires session args)) := by
  have told : Ends (fun report _ => Filtered (formatOrderAnswer report) ↔
        AllFiltered (calledOrderTexts wires session args))
      (fun failure _ => FailureTold (calledOrderTexts wires session args) failure)
      (wires.order session args) freshLedger :=
    ends_bind ((queryOrder_told _ args _).weaken (fun _ _ same => ends_pure same) (fun _ _ same => same))
  obtain ⟨report,ended,same⟩ | ⟨failure,ended,same⟩ := @ending_told _ _ toolError (wires.order session args)
    (fun report _ => Filtered (formatOrderAnswer report) ↔ AllFiltered (calledOrderTexts wires session args))
    (fun failure _ => FailureTold (calledOrderTexts wires session args) failure) told
  · rw [ended]
    refine ⟨fun other found => ?_,fun message failed => ?_⟩
    · obtain rfl := Except.ok.inj found
      exact same
    · rcases failed with failed | failed <;> cases failed
  · rw [ended]
    refine ⟨fun other found => (nomatch found),fun message failed => ?_⟩
    exact same message (toolError_told (failed.imp Except.error.inj Except.error.inj))

private theorem calledCourse_told {args : CourseArgs} {course : CourseConsultResult CourseBody}
    (ended : ending toolError (wires.course session args) = .ok course)
    (found : course.courseName ≠ NOT_FOUND_COURSE) :
    Filtered (formatCourseAnswer course) ↔ AllFiltered (calledCourseTexts wires session args) := by
  have told : Ends (fun course _ => AllFiltered (resultTexts course) ↔
        AllFiltered (retrieveTexts wires.settings (wires.courseHost session) args (wires.consult args)
          freshLedger)) (fun _ _ => True) (wires.course session args) freshLedger :=
    ends_bind ((retrieveCourse_told args _).weaken (fun _ _ same => ends_pure same) (fun _ _ _ => trivial))
  obtain ⟨other,ended',same⟩ | ⟨_,ended',_⟩ := @ending_told _ _ toolError (wires.course session args)
    (fun course _ => AllFiltered (resultTexts course) ↔
      AllFiltered (retrieveTexts wires.settings (wires.courseHost session) args (wires.consult args)
        freshLedger)) (fun _ _ => True) told
  · obtain rfl := Except.ok.inj (ended.symm.trans ended')
    unfold calledCourseTexts
    rw [ended]
    dsimp only
    rw [if_neg found]
    exact (filtered_formatCourseAnswer course).trans same
  · cases ended.symm.trans ended'

private theorem invokeOrder_told {context : ExecutionContext} {result : StepResult CourseBody}
    (ran : invokeOrder (wires.tools tools) session context = .ok result) (quiet : result.escalated = false) :
    Filtered (result.text.getD []) ↔ AllFiltered (calledOrderTexts wires session (orderArgs context)) := by
  obtain ⟨answered,failed⟩ := @calledOrder_told wires session (orderArgs context)
  have called : (wires.tools tools).queryOrder session (orderArgs context) =
    ending toolError (wires.order session (orderArgs context)) := rfl
  unfold invokeOrder at ran
  rw [called] at ran
  cases outcome : ending toolError (wires.order session (orderArgs context)) with
  | ok report =>
    rw [outcome] at ran
    obtain rfl := Except.ok.inj ran
    exact answered report outcome
  | error error =>
    rw [outcome] at ran
    cases error with
    | escalated message =>
      obtain rfl := Except.ok.inj ran
      cases quiet
    | valueError message =>
      obtain rfl := Except.ok.inj ran
      exact failed message (Or.inl outcome)
    | timeoutError message =>
      obtain rfl := Except.ok.inj ran
      exact failed message (Or.inr outcome)
    | raises abort => cases ran

private theorem invokeCourse_told (format : tools.formatCourseAnswer = formatCourseAnswer) {args : CourseArgs}
    {result : StepResult CourseBody} (ran : invokeCourse (wires.tools tools) session args = .ok result)
    (quiet : result.escalated = false) :
    Filtered (result.text.getD []) ↔ AllFiltered (calledCourseTexts wires session args) := by
  have called : (wires.tools tools).retrieveCourse session args =
    ending toolError (wires.course session args) := rfl
  unfold invokeCourse at ran
  rw [called] at ran
  cases outcome : ending toolError (wires.course session args) with
  | ok course =>
    rw [outcome] at ran
    dsimp only at ran
    split_ifs at ran with none'
    · obtain rfl := Except.ok.inj ran
      unfold calledCourseTexts
      rw [outcome]
      dsimp only
      rw [if_pos none']
      exact iff_of_true filtered_nil allFiltered_nil
    · obtain rfl := Except.ok.inj ran
      change Filtered (tools.formatCourseAnswer course) ↔ _
      rw [format]
      exact calledCourse_told outcome none'
  | error error =>
    rw [outcome] at ran
    cases error with
    | escalated message =>
      obtain rfl := Except.ok.inj ran
      cases quiet
    | _ => cases ran

private theorem ran_told (format : tools.formatCourseAnswer = formatCourseAnswer) {one : StepRun CourseBody}
    (same : one.result = runStep (wires.tools tools) session one.step one.context one.observations)
    (quiet : one.escalates = false) :
    Filtered (one.text.getD []) ↔ AllFiltered (ranTexts wires (wires.tools tools) session one) := by
  unfold StepRun.escalates at quiet
  unfold StepRun.text ranTexts
  cases ended : one.result with
  | error abort => exact iff_of_true filtered_nil allFiltered_nil
  | ok result =>
    rw [ended] at quiet same
    have ran := same.symm
    change Filtered (result.text.getD []) ↔ _
    unfold runStep at ran
    cases capability : one.step.capability with
    | orderQuery =>
      rw [capability] at ran
      obtain ⟨invoked,called,told⟩ := bind_ok ran
      obtain rfl := Except.ok.inj told
      have answered := @invokeOrder_told wires tools session one.context invoked called quiet
      exact answered
    | courseRetrieve =>
      rw [capability] at ran
      unfold StepRun.course
      dsimp only at ran ⊢
      cases bound : bindCourse (wires.tools tools) one.step one.context one.observations with
      | none =>
        rw [bound] at ran
        obtain rfl := Except.ok.inj ran
        exact iff_of_true filtered_nil allFiltered_nil
      | some args =>
        rw [bound] at ran
        obtain ⟨invoked,called,told⟩ := bind_ok ran
        obtain rfl := Except.ok.inj told
        have answered := @invokeCourse_told wires tools session format args invoked called quiet
        exact answered

private theorem allFiltered_texts (ran : List (StepRun CourseBody)) :
    AllFiltered (texts ran) ↔ ∀ one ∈ ran, Filtered (one.text.getD []) := by
  induction ran with
  | nil => exact iff_of_true allFiltered_nil (fun _ listed => absurd listed List.not_mem_nil)
  | cons one rest ih =>
    have said : texts (one :: rest) = (one.text.filter (fun text => text ≠ [])).toList ++ texts rest := by
      unfold texts
      rw [List.filterMap_cons]
      cases one.text.filter (fun text => text ≠ []) <;> rfl
    have here : AllFiltered (one.text.filter (fun text => text ≠ [])).toList ↔
        Filtered (one.text.getD []) := by
      cases one.text with
      | none => exact iff_of_true allFiltered_nil filtered_nil
      | some text =>
        cases text with
        | nil => exact iff_of_true allFiltered_nil filtered_nil
        | cons first others => exact allFiltered_singleton _
    rw [said,allFiltered_append,here,ih,List.forall_mem_cons]

theorem executed_told (format : tools.formatCourseAnswer = formatCourseAnswer) {args : SupervisorArgs CourseBody}
    {executed : Executed CourseBody}
    (done : executePlan (wires.tools tools) session args args.plan = .ok executed) :
    Filtered executed.answer ↔
      AllFiltered (planTexts wires (wires.tools tools) session (wires.ran tools session args)) := by
  have answered : executed.answer = answerOf [] (wires.ran tools session args) := (executeGroups_answer done).1
  rw [answered]
  unfold answerOf planTexts
  cases found : (wires.ran tools session args).find? StepRun.escalates with
  | some one =>
    dsimp only
    rw [filtered_orElse (filtered_handoff true none)]
    exact filtered_escalation one.text
  | none =>
    dsimp only
    rw [List.nil_append,filtered_joined,allFiltered_texts,allFiltered_flatMap]
    refine forall₂_congr (fun one listed => ran_told format (trace_result listed) ?_)
    exact Bool.eq_false_iff.mpr (List.find?_eq_none.mp found one listed)

private theorem plan_asks {args : SupervisorArgs CourseBody} (asks : args.plan.action = .askUser) :
    args.plan.clarificationQuestion = args.clarificationQuestion := by
  unfold SupervisorArgs.plan planSupervisor at asks ⊢
  dsimp only at asks ⊢
  split_ifs at asks ⊢
  rfl

theorem decision_answer {plan : SupervisorPlan} {action : SupervisorAction} (acts : plan.action = action)
    (replies : action ≠ .askUser) (answer orderNo courseQuery : Option Text) (cached : CacheUpdates CourseBody)
    (escalated : Option Text) :
    (toSupervisorDecision plan answer orderNo courseQuery cached escalated).answer = answer := by
  unfold toSupervisorDecision
  cases escalated with
  | some reason => rfl
  | none =>
    dsimp only
    rw [if_neg (acts.trans_ne replies)]

private theorem runSupervisor_told (format : tools.formatCourseAnswer = formatCourseAnswer)
    {args : SupervisorArgs CourseBody} {decision : SupervisorDecision CourseBody}
    (decided : runSupervisor (wires.tools tools) session args = .ok decision) :
    Filtered (decision.answer.getD []) ↔ AllFiltered (supervisorTexts wires tools session args) := by
  unfold runSupervisor at decided
  unfold supervisorTexts
  dsimp only at decided
  cases action : args.plan.action with
  | askUser =>
    rw [action] at decided
    obtain rfl := Except.ok.inj decided
    unfold toSupervisorDecision
    dsimp only
    rw [if_pos action,plan_asks action,Option.getD_some]
    exact filtered_getD args.clarificationQuestion
  | react =>
    rw [action] at decided
    obtain ⟨answer,ran,same⟩ := bind_ok decided
    obtain rfl := Except.ok.inj same
    obtain ⟨other,ended,told⟩ | ⟨_,ended,_⟩ := @ending_told _ _ abortOf (wires.agent tools (reactArgs args))
      (fun text _ => Filtered text ↔
        AllFiltered (reactTexts wires.settings tools (reactArgs args) (wires.react (reactArgs args)) freshLedger))
      (fun _ _ => True) (streamReact_told format (wires.react (reactArgs args)))
    · obtain rfl := Except.ok.inj (ran.symm.trans ended)
      rw [decision_answer action nofun]
      exact told
    · cases ran.symm.trans ended
  | execute =>
    rw [action] at decided
    obtain ⟨executed,ran,same⟩ := bind_ok decided
    obtain rfl := Except.ok.inj same
    rw [decision_answer action nofun]
    exact executed_told format ran

end

/-! ### Turns -/

section
variable (wires : Wires CourseBody) (streamed : CourseAsk → Streamed) (outside : Outside Score CourseBody)

def hearing : Wires CourseBody := { wires with stream := fun ask => (streamed ask).consulted }

def speaking : Outside Score CourseBody :=
  { outside with tools := { outside.tools with formatCourseAnswer := formatCourseAnswer } }

/-- What the nodes run with: the tools, the course chain and the agent over their sources. -/
def sourced : Outside Score CourseBody := (hearing wires streamed).outside (speaking outside)

def toolTexts (session : SessionToolCacheState CourseBody) (args : QueryArgs) : List Text :=
  match ending toolError (wires.order session args) with
  | .error (.escalated message) => escalationTexts message
  | _ => calledOrderTexts wires session args

def ragTexts (state : CSState CourseBody) : List Text :=
  if queryHasOrderSignal (identityView outside.defaultTenant state).query then []
  else
    streamTexts (wires.courseHost (sessionToolCache state)) (courseAsk outside state).query
      (streamed (courseAsk outside state))

/-- What an order, the documents, the model or a question of the router gives a node to say. -/
def nodeTexts (state : CSState CourseBody) : Node → List Text
  | .rag => ragTexts wires streamed outside state
  | .tool => toolTexts wires (sessionToolCache state) (toolArgs outside state)
  | .supervisor =>
    supervisorTexts (hearing wires streamed) (speaking outside).tools (sessionToolCache state)
      (supervisorArgs outside state)
  | _ => []

end

section
variable {wires : Wires CourseBody} {streamed : CourseAsk → Streamed} {outside : Outside Score CourseBody}
  {state : CSState CourseBody} {update : Update CourseBody}

private theorem rag_told (ran : ragNode (sourced wires streamed outside) state = .ok update) :
    Filtered (spoken (sourced wires streamed outside) state .rag) ↔
      AllFiltered (ragTexts wires streamed outside state) := by
  rcases ragNode_cases ran with ⟨signal,_⟩ | ⟨signal,answer,result,answered,_⟩
  · have signal' : queryHasOrderSignal (identityView outside.defaultTenant state).query = true := signal
    simp only [spoken,ragTexts]
    rw [if_pos signal,if_pos signal']
    exact iff_of_true filtered_nil allFiltered_nil
  · have signal' : queryHasOrderSignal (identityView outside.defaultTenant state).query = false := signal
    simp only [spoken,ragTexts]
    rw [if_neg (Bool.eq_false_iff.mp signal),if_neg (Bool.eq_false_iff.mp signal'),answered]
    obtain ⟨other,ended,told⟩ | ⟨_,ended,_⟩ := @ending_told _ _ abortOf
      ((hearing wires streamed).answer (speaking outside).tools (sessionToolCache state)
        (courseAsk outside state))
      (fun answered _ => Filtered answered.1 ↔ AllFiltered
        (streamTexts (wires.courseHost (sessionToolCache state)) (courseAsk outside state).query
          (streamed (courseAsk outside state))))
      (fun _ _ => True) (streamCourseAnswer_told _ _)
    · obtain rfl := Except.ok.inj (answered.symm.trans ended)
      exact told
    · cases answered.symm.trans ended

private theorem tool_told (ran : toolNode (sourced wires streamed outside) state = .ok update) :
    Filtered (spoken (sourced wires streamed outside) state .tool) ↔
      AllFiltered (toolTexts wires (sessionToolCache state) (toolArgs outside state)) := by
  obtain ⟨answers,fails⟩ := @calledOrder_told wires (sessionToolCache state) (toolArgs outside state)
  have called : (sourced wires streamed outside).tools.queryOrder (sessionToolCache state)
      (toolArgs (sourced wires streamed outside) state) =
    ending toolError (wires.order (sessionToolCache state) (toolArgs outside state)) := rfl
  unfold toolTexts
  rcases toolNode_cases ran with ⟨message,asked,_⟩ | ⟨message,asked | asked,_⟩ | ⟨report,asked,_⟩
  · simp only [spoken,asked]
    rw [called] at asked
    rw [asked]
    exact filtered_escalation message
  · simp only [spoken,asked]
    rw [called] at asked
    rw [asked]
    exact fails message (Or.inr asked)
  · simp only [spoken,asked]
    rw [called] at asked
    rw [asked]
    exact fails message (Or.inl asked)
  · simp only [spoken,asked]
    rw [called] at asked
    rw [asked]
    exact answers report asked

private theorem supervisor_told (ran : supervisorNode (sourced wires streamed outside) state = .ok update) :
    Filtered (spoken (sourced wires streamed outside) state .supervisor) ↔
      AllFiltered (nodeTexts wires streamed outside state .supervisor) := by
  obtain ⟨decision,decided,_⟩ := supervisorNode_cases ran
  simp only [spoken,decided]
  exact @runSupervisor_told (hearing wires streamed) (speaking outside).tools (sessionToolCache state) rfl _
    decision decided

private theorem node_told [LinearOrder Score] [Zero Score] {node : Node}
    (ran : runNode (sourced wires streamed outside) state node = .ok update) :
    Filtered (spoken (sourced wires streamed outside) state node) ↔
      AllFiltered (nodeTexts wires streamed outside state node) := by
  cases node with
  | rag => exact rag_told ran
  | tool => exact tool_told ran
  | supervisor => exact supervisor_told ran
  | security => exact iff_of_true filtered_nil allFiltered_nil
  | router => exact iff_of_true filtered_nil allFiltered_nil
  | chitchat => exact iff_of_true filtered_nil allFiltered_nil
  | handoff => exact iff_of_true filtered_nil allFiltered_nil
  | respond => exact iff_of_true filtered_nil allFiltered_nil

/-- Every answer that a turn sends is filtered exactly when the orders, the documents, the model and
the router give the nodes that finish nothing that the filter changes. -/
theorem answers_filtered_iff [LinearOrder Score] [Zero Score] (wires : Wires CourseBody)
    (streamed : CourseAsk → Streamed) (outside : Outside Score CourseBody) (turn : ChatTurn)
    (start : CSState CourseBody) :
    (∀ event ∈ turnEvents (sourced wires streamed outside) turn start, ∀ text,
        event.answerText = some text → Filtered text) ↔
      ∀ visit ∈ visits (sourced wires streamed outside) start, ∀ update, visit.result = .ok update →
        AllFiltered (nodeTexts wires streamed outside visit.before visit.node) := by
  rw [answers_filtered_spoken]
  refine forall₂_congr (fun visit listed => forall₂_congr (fun update result => ?_))
  exact node_told ((result_of_mem listed).symm.trans result)

end

/-! ### A telephone number in an answer -/

def emptyOrderHost (session : SessionToolCacheState CourseBody) : Host CourseBody :=
  ⟨⟨true,600,600⟩,⟨fun _ => 0⟩,(emptyHost emptySession).table,⟨"demo".toList,"anonymous".toList⟩,session,∅,0⟩

def courseHost (session : SessionToolCacheState CourseBody) : CourseHost CourseBody :=
  ⟨⟨true,600,600⟩,⟨"demo".toList,"anonymous".toList⟩,session,∅,0,id⟩

/-- Where there are no orders, and searches find nothing. -/
def vacantWires : Wires CourseBody where
  settings := defaultSettings
  orderHost := emptyOrderHost
  fate := fun _ => .runs none
  courseHost := courseHost
  consult := fun _ => .answers notFoundResult
  stream := fun _ => .answers ([],notFoundResult)
  react := fun _ =>
    let offline : Offline CourseBody :=
      ⟨emptyOrderHost emptySession,.runs none,courseHost emptySession,.answers notFoundResult⟩
    ⟨true,[],.streams [] none,⟨[],.ok [],offline⟩,offline⟩

def vacantOutside : Outside Int CourseBody where
  defaultTenant := "demo".toList
  containsInjection := fun _ => false
  recentMessages := id
  llmEnabled := true
  reply := fun _ _ _ => .raised
  loadUserMemory := fun _ _ => .ok LongTermMemory.blank
  saveUserMemory := fun _ _ _ => .ok ()
  canAccessOrder := fun _ _ _ _ => false
  tools :=
    { queryOrder := fun _ _ => .error (.valueError "未找到订单".toList)
      retrieveCourse := fun _ _ => .ok notFoundResult
      resolveCourseCode := fun _ _ => none
      formatCourseAnswer := formatCourseAnswer
      streamReact := fun _ => .ok "请提供订单号".toList
      lower := id
      now := 0 }
  streamCourseAnswer := fun _ _ => .ok (NOT_FOUND_SUMMARY,notFoundResult)
  compression := fun _ => SummaryFacts.tableServices []
  settings := ⟨4000,4,3,6,40,none⟩
  summarize := fun _ _ => .ok (fun _ summary => summary)
  addMessages := SummaryFacts.addByLength

/-- A model that writes a telephone number into its answer. -/
def phoning (_ : CourseAsk) : Streamed :=
  .model ["请致电".toList,"13812345678".toList] notFoundResult

theorem phone_number_sent :
    ¬∀ (wires : Wires CourseBody) (streamed : CourseAsk → Streamed) (outside : Outside Int CourseBody)
      (turn : ChatTurn) (start : CSState CourseBody),
      ∀ event ∈ turnEvents (sourced wires streamed outside) turn start, ∀ text,
        event.answerText = some text → Filtered text := by
  intro law
  have sent : "请致电13812345678".toList ∈
      (turnEvents (sourced vacantWires phoning vacantOutside)
        ⟨"课程大纲".toList,"demo".toList,[],"s1".toList,by decide⟩
        (begin vacantOutside ⟨"课程大纲".toList,"demo".toList,[],"s1".toList,by decide⟩ none
          (blankState CourseBody))).filterMap Event.answerText := by decide +kernel
  obtain ⟨event,streamed,same⟩ := List.mem_filterMap.mp sent
  exact absurd (law vacantWires phoning vacantOutside _ _ event streamed _ same) (by decide +kernel)

end CustomerService.AnswerSources
