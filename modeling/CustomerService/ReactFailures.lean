import CustomerService.IntentRecognition
import CustomerService.ToolFailures

/-! The agent that calls the tools by itself, and the offline path behind it: how the failures of
the tools go through both. -/
namespace CustomerService.ReactFailures
open Text OrderAccess OrderReport ToolCache Supervisor Routing FailingPrograms ToolEscalation
open OrderQuery (QueryArgs Fate Host)
open SummaryFacts (extractOrderNo)
open IntentRecognition (orderNoFromHistory)

variable {Body : Type}

/-! ### What the outside gives -/

/-- A call the model makes, with what each attempt of it meets. -/
inductive AgentCall (Body : Type)
  | order (orderNo query : Text) (attempts : Nat → Host Body × Fate)
  | course (question : Text)
      (attempts : Nat → CourseHost Body × Consulted Body (CourseConsultResult Body))

structure Offline (Body : Type) where
  orderHost : Host Body
  fate : Fate
  courseHost : CourseHost Body
  consulted : Consulted Body (CourseConsultResult Body)

/-- A run of the agent that is not streamed: its calls, and its last message or the failure of its
model. -/
structure Invoke (Body : Type) where
  calls : List (AgentCall Body)
  ends : Except Failure Text
  offline : Offline Body

inductive StreamEnd
  | streams (parts : List Text) (last : Option Text)
  | raises (failure : Failure)

structure ReactRun (Body : Type) where
  llmEnabled : Bool
  calls : List (AgentCall Body)
  ends : StreamEnd
  again : Invoke Body
  offline : Offline Body

section
variable (settings : EscalationSettings) (tools : Tools Body) (args : ReactArgs Body)

/-! ### The agent -/

def AgentCall.name : AgentCall Body → Text
  | .order _ _ _ => Capability.orderQuery.toolName
  | .course _ _ => Capability.courseRetrieve.toolName

def AgentCall.callArgs : AgentCall Body → CallArgs
  | .order orderNo query _ => ⟨orderNo,[],query⟩
  | .course question _ => ⟨[],question,[]⟩

def orderToolArgs (tenancy : Tenancy) (orderNo query : Text) : QueryArgs :=
  ⟨query,some orderNo,tenancy.currentTenant,tenancy.getCurrentUser,none,false,true⟩

def courseToolArgs (tenancy : Tenancy) (question : Text) : CourseArgs where
  query := question
  tenantId := tenancy.currentTenant
  userId := tenancy.getCurrentUser
  history := args.history
  lastCourseQuery := args.courseQuery.map strip
  lastCourseName := args.lastCourseName.map strip
  sessionSummary := strip args.sessionSummary
  courseCode := none

def retrieveCourseKnowledge (host : CourseHost Body) (question : Text)
    (consulted : Consulted Body (CourseConsultResult Body)) : Turn Text := do
  return tools.formatCourseAnswer
    (← retrieveCourse settings host (courseToolArgs args host.tenancy question) consulted).1

def AgentCall.attempt : AgentCall Body → Nat → Turn Text
  | .order orderNo query attempts,attempt =>
    let host := (attempts attempt).1
    orderToToolObservation settings host (orderToolArgs host.tenancy orderNo query) (attempts attempt).2
  | .course question attempts,attempt =>
    retrieveCourseKnowledge settings tools args (attempts attempt).1 question (attempts attempt).2

def AgentCall.handlers (call : AgentCall Body) : List (Turn Text) :=
  (List.range MAX_TRANSIENT_ATTEMPTS).map (call.attempt settings tools args)

def AgentCall.run (call : AgentCall Body) : Turn Text :=
  wrapToolCall settings tools.lower call.name call.callArgs (call.handlers settings tools args)

/-- The calls in turn; what the model makes of their texts is in the calls that follow. -/
def runCalls : List (AgentCall Body) → Turn Unit
  | [] => return ()
  | call :: rest => do
    let _ ← call.run settings tools args
    runCalls rest

/-! ### The offline path -/

def resolvedOrder : Option Text :=
  either args.orderNo (either (extractOrderNo args.query) (orderNoFromHistory args.history))

def offlineOrderArgs : QueryArgs :=
  ⟨args.query,resolvedOrder args,args.tenantId,args.userId,either args.orderNo (resolvedOrder args),
    false,false⟩

def offlineCourseArgs : CourseArgs where
  query := orElse args.courseQuery (orElse args.lastCourseName args.query)
  tenantId := args.tenantId
  userId := []
  history := args.history
  lastCourseQuery := args.courseQuery
  lastCourseName := args.lastCourseName
  sessionSummary := args.sessionSummary
  courseCode := none

def offlineReact (offline : Offline Body) : Turn Text := do
  let parts ← tryCatch
    (do return [formatOrderAnswer
      (← queryOrder settings offline.orderHost (offlineOrderArgs args) offline.fate).1])
    (fun failure =>
      match failure with
      | .valueError _ => return []
      | _ => throw failure)
  let course :=
    (← retrieveCourse settings offline.courseHost (offlineCourseArgs args) offline.consulted).1
  let parts :=
    if course.courseName ≠ NOT_FOUND_COURSE then parts ++ [tools.formatCourseAnswer course] else parts
  return orElse (some ("\n\n".toList.intercalate parts)) "暂时无法处理该问题。".toList

/-- `_react_or_offline`; there is no agent where the model is off. -/
def reactOrOffline (llmEnabled : Bool) (runner offline : Turn Text) : Turn Text :=
  if llmEnabled = false then offline
  else
    tryCatch runner (fun failure =>
      match failure with
      | .toolEscalation decision => return orElse decision.message "已为您转接人工客服。".toList
      | _ => if isLlmDegradable failure = false then throw failure else offline)

/-- `_ainvoke`. -/
def invokeAgent (run : Invoke Body) : Turn Text := do
  runCalls settings tools args run.calls
  match run.ends with
  | .ok text => return text
  | .error failure => throw failure

/-- `_run_react_inner`. -/
def runReact (llmEnabled : Bool) (run : Invoke Body) : Turn Text :=
  trackerScope (reactOrOffline llmEnabled (invokeAgent settings tools args run)
    (offlineReact settings tools args run.offline))

/-- `_astream`. -/
def streamAgent (run : ReactRun Body) : Turn Text := do
  runCalls settings tools args run.calls
  match run.ends with
  | .raises failure => throw failure
  | .streams parts last =>
    let answer := strip parts.flatten
    if answer ≠ [] then return answer
    else if strip (last.getD []) ≠ [] then return last.getD []
    else runReact settings tools args run.llmEnabled run.again

/-- `_stream_react_inner`. -/
def streamReact (run : ReactRun Body) : Turn Text :=
  trackerScope (reactOrOffline run.llmEnabled (streamAgent settings tools args run)
    (offlineReact settings tools args run.offline))

/-! ### Steps that keep the escalation -/

def AgentCall.Kept (call : AgentCall Body) (ledger : Ledger) : Prop :=
  WrapKept settings tools.lower call.name call.callArgs (call.handlers settings tools args) ledger

def CallsKept : List (AgentCall Body) → Ledger → Prop
  | [],_ => True
  | call :: rest,ledger =>
    call.Kept settings tools args ledger ∧
      match call.run settings tools args ledger with
      | .ok _ after => CallsKept rest after
      | .error _ _ => True

/-- What the offline path fails on is below the threshold. -/
def OfflineKept (offline : Offline Body) (ledger : Ledger) : Prop :=
  ∀ key, (orderFailure offline.orderHost (offlineOrderArgs args) offline.fate = some key ∨
      courseFailure offline.courseHost (offlineCourseArgs args) offline.consulted = some key) →
    Below settings ledger key

/-- Where `_react_or_offline` goes on to the offline path. -/
def fallsBack : Failure → Bool
  | .toolEscalation _ => false
  | failure => isLlmDegradable failure

def RunnerKept (llmEnabled : Bool) (runner : Turn Text) (offline : Offline Body) (ledger : Ledger) : Prop :=
  if llmEnabled = false then OfflineKept settings args offline ledger
  else
    match runner ledger with
    | .ok _ _ => True
    | .error failure after => fallsBack failure = true → OfflineKept settings args offline after

def Apart (before after : Ledger) : Prop :=
  ∀ key ∈ before.failures, key ∉ after.failures.drop before.failures.length

def Result.state : EStateM.Result Failure Ledger Text → Ledger
  | .ok _ after | .error _ after => after

/-- A second run, whose scope does not know the failures of the first. -/
structure AgainKept (llmEnabled : Bool) (run : Invoke Body) (ledger : Ledger) : Prop where
  calls : CallsKept settings tools args run.calls ledger.scoped
  apart : Apart ledger (Result.state (invokeAgent settings tools args run ledger.scoped))
  runner : RunnerKept settings args llmEnabled (invokeAgent settings tools args run) run.offline ledger.scoped

def StreamEnd.blank : StreamEnd → Bool
  | .raises _ => false
  | .streams parts last => strip parts.flatten = [] ∧ strip (last.getD []) = []

structure AgentKept (run : ReactRun Body) (ledger : Ledger) : Prop where
  calls : CallsKept settings tools args run.calls ledger
  again : run.ends.blank = true → ∀ after, runCalls settings tools args run.calls ledger = .ok () after →
    AgainKept settings tools args run.llmEnabled run.again after

structure ReactKept (run : ReactRun Body) (ledger : Ledger) : Prop where
  agent : run.llmEnabled = true → AgentKept settings tools args run ledger
  runner : RunnerKept settings args run.llmEnabled (streamAgent settings tools args run) run.offline ledger

end

/-! ### Runs -/

section
variable {settings : EscalationSettings} {tools : Tools Body} {args : ReactArgs Body}
  {base : List (Text × Text)} {ledger : Ledger}

private theorem orElse_self (text : Text) : orElse (some text) text = text := by
  cases text <;> rfl

private theorem own_courseToolArgs (host : CourseHost Body) (question : Text) :
    host.own (courseToolArgs args host.tenancy question) = host.bare question := by
  unfold CourseHost.own CourseHost.bare
  rw [courseToolArgs,orElse_self,orElse_self]
  rfl

private theorem attempt_minds (call : AgentCall Body) (attempt : Nat) (quiet : Within settings base False ledger) :
    Minds settings base (call.attempt settings tools args attempt) ledger := by
  cases call with
  | order orderNo query attempts => exact orderToToolObservation_minds _ _ _ quiet
  | course question attempts =>
    refine (retrieveCourse_minds _ _ _ ?_ quiet).bind (fun _ _ later => ends_pure later)
    intro failure evidence fallback _ _ missed cached
    rw [own_courseToolArgs] at cached
    exact absurd missed cached

private theorem call_minds {call : AgentCall Body} (kept : call.Kept settings tools args ledger)
    (quiet : Within settings base False ledger) :
    Minds settings base (call.run settings tools args) ledger := by
  refine wrapToolCall_minds _ _ _ (fun attempt listed ledger quiet => ?_) kept quiet
  obtain ⟨number,_,rfl⟩ := List.mem_map.mp listed
  exact attempt_minds call number quiet

private theorem calls_minds {calls : List (AgentCall Body)} (kept : CallsKept settings tools args calls ledger)
    (quiet : Within settings base False ledger) :
    Minds settings base (runCalls settings tools args calls) ledger := by
  induction calls generalizing ledger with
  | nil => exact ends_pure quiet
  | cons call rest ih =>
    obtain ⟨here,later⟩ := kept
    have ends := ends_iff.mp (call_minds here quiet)
    refine ends_bind (ends_iff.mpr ⟨fun text after ran => ?_,ends.2⟩)
    rw [ran] at later
    exact ih later (ends.1 text after ran)

theorem settled {failure : Option (Text × Text)} (calm : Calm settings ledger)
    (below : ∀ key, failure = some key → Below settings ledger key) :
    Calm settings (failure.elim ledger ledger.record) ∧
      ledger.failures <+: (failure.elim ledger ledger.record).failures := by
  cases failure with
  | none => exact ⟨calm,List.prefix_refl _⟩
  | some key => exact ⟨calm.record (below key rfl),List.prefix_append _ _⟩

private theorem offlineReact_calm {offline : Offline Body} (calm : Calm settings ledger)
    (kept : OfflineKept settings args offline ledger) :
    Ends (fun _ after => Calm settings after ∧ ledger.failures <+: after.failures)
      (fun _ after => Calm settings after ∧ ledger.failures <+: after.failures)
      (offlineReact settings tools args offline) ledger := by
  generalize fails : orderFailure offline.orderHost (offlineOrderArgs args) offline.fate = failure
  have ordered := @queryOrder_records _ settings ledger offline.orderHost (offlineOrderArgs args)
    offline.fate calm (fun key found => kept key (Or.inl found))
  rw [fails] at ordered
  have middle := @settled settings ledger failure calm
    (fun key found => kept key (Or.inl (fails.trans found)))
  have below (key : Text × Text) (found : courseFailure offline.courseHost (offlineCourseArgs args)
      offline.consulted = some key) : Below settings (failure.elim ledger ledger.record) key := by
    have before := kept key (Or.inr found)
    cases failure with
    | none => exact before
    | some other =>
      have apart : other ≠ key := by
        intro same
        have tools' := (tool_orderFailure fails).symm.trans ((congrArg Prod.fst same).trans
          (tool_courseFailure found))
        exact absurd tools' (by decide)
      intro enabled
      have few := before enabled
      change (ledger.failures ++ [other]).count key + 1 < _
      rw [List.count_append,List.count_singleton]
      simpa [apart] using few
  have searched (parts : List Text) :
      Ends (fun _ after => Calm settings after ∧ ledger.failures <+: after.failures)
        (fun _ after => Calm settings after ∧ ledger.failures <+: after.failures)
        (do
          let course := (← retrieveCourse settings offline.courseHost (offlineCourseArgs args)
            offline.consulted).1
          let parts := if course.courseName ≠ NOT_FOUND_COURSE then
            parts ++ [tools.formatCourseAnswer course] else parts
          return orElse (some ("\n\n".toList.intercalate parts)) "暂时无法处理该问题。".toList)
        (failure.elim ledger ledger.record) := by
    have last := @settled settings _ _ middle.1 below
    apply ends_bind
    apply (retrieveCourse_records offline.courseHost (offlineCourseArgs args) offline.consulted middle.1
      below).weaken
    · rintro course after rfl
      exact ends_pure ⟨last.1,middle.2.trans last.2⟩
    · rintro _ after rfl
      exact ⟨last.1,middle.2.trans last.2⟩
  apply ends_bind
  apply ends_catch
  apply ends_bind
  apply ordered.weaken
  · rintro report after rfl
    exact ends_pure (searched _)
  · rintro raised after rfl
    split
    · exact ends_pure (searched _)
    · exact ends_throw middle

/-! ### From the calls to the answer -/

def handoffText : Text := buildHandoffAnswer true (some EscalationReason.transientExhausted.name)

theorem handoffText_shape :
    handoffText ≠ [] ∧ strip handoffText ≠ [] ∧ isAutoHandoffAnswer handoffText = true := by
  have exhausted : (true && some EscalationReason.transientExhausted.name ==
    some "transient_exhausted".toList) = true := rfl
  unfold handoffText buildHandoffAnswer isAutoHandoffAnswer
  rw [if_pos exhausted]
  dsimp only
  rw [String.toList_ofList,String.toList_ofList,String.toList_ofList,String.toList_ofList]
  decide +kernel

private theorem within_total {holds : Prop} {after : Ledger} (unreached : ¬Reached settings base)
    (apart : ∀ key ∈ base, key ∉ after.failures.drop base.length)
    (within : Within settings base holds after) :
    (Reached settings after.failures → holds) ∧ Under after ∧ base <+: after.failures := by
  obtain ⟨inner,split,tracks,reached⟩ := within
  rw [split,List.drop_left] at apart
  refine ⟨?_,?_,split ▸ List.prefix_append _ _⟩
  · rintro ⟨enabled,key,many⟩
    rw [split,List.count_append] at many
    by_cases known : key ∈ base
    · rw [List.count_eq_zero_of_not_mem (apart key known)] at many
      exact absurd ⟨enabled,key,many⟩ unreached
    · rw [List.count_eq_zero_of_not_mem known] at many
      exact reached ⟨enabled,key,by omega⟩
  · obtain ⟨tracker,open',counts⟩ := tracks
    refine ⟨tracker,open',fun key => ?_⟩
    rw [counts,split,List.count_append]
    omega

/-- How a runner ends: an answer is that of the hand-off when failures were too many, and an error is
the escalation. -/
def Runs (settings : EscalationSettings) (base : List (Text × Text)) (runner : Turn Text)
    (ledger : Ledger) : Prop :=
  Ends (fun text after => (Reached settings after.failures → text = handoffText) ∧ base <+: after.failures)
    (fun failure after => (Reached settings after.failures → failure = handed) ∧ Under after ∧
      base <+: after.failures) runner ledger

/-- How an answer ends: it is that of the hand-off when failures were too many, and there is no error
then. -/
def Answers (settings : EscalationSettings) (base : List (Text × Text)) (program : Turn Text)
    (ledger : Ledger) : Prop :=
  Ends (fun text after => (Reached settings after.failures → text = handoffText) ∧ base <+: after.failures)
    (fun _ after => ¬Reached settings after.failures ∧ base <+: after.failures) program ledger

private theorem reactOrOffline_answers {llmEnabled : Bool} {runner : Turn Text} {offline : Offline Body}
    (calm : Calm settings ledger)
    (runs : llmEnabled = true → Runs settings ledger.failures runner ledger)
    (kept : RunnerKept settings args llmEnabled runner offline ledger) :
    Answers settings ledger.failures
      (reactOrOffline llmEnabled runner (offlineReact settings tools args offline)) ledger := by
  have resumed {after : Ledger} (calm : Calm settings after) (grown : ledger.failures <+: after.failures)
      (kept : OfflineKept settings args offline after) :
      Answers settings ledger.failures (offlineReact settings tools args offline) after :=
    (offlineReact_calm calm kept).weaken
      (fun _ _ both => ⟨fun too => absurd too both.1.unreached,grown.trans both.2⟩)
      (fun _ _ both => ⟨both.1.unreached,grown.trans both.2⟩)
  unfold RunnerKept at kept
  unfold reactOrOffline
  cases llmEnabled with
  | false => exact resumed calm (List.prefix_refl _) kept
  | true =>
    have ends := ends_iff.mp (runs rfl)
    refine ends_catch (ends_iff.mpr ⟨ends.1,fun failure after ran => ?_⟩)
    obtain ⟨only,under,grown⟩ := ends.2 failure after ran
    rw [if_neg (by decide),ran] at kept
    split
    · rename_i decision
      refine ends_pure ⟨fun too => ?_,grown⟩
      obtain rfl := Failure.toolEscalation.inj (only too)
      exact orElse_of_ne handoffText_shape.1
    · rename_i other
      have unreached : ¬Reached settings after.failures := fun too => other _ (only too)
      split
      · exact ends_throw ⟨unreached,grown⟩
      · rename_i degradable
        refine resumed ⟨under,unreached⟩ grown (kept ?_)
        unfold fallsBack
        split
        · exact absurd rfl (other _)
        · simpa using degradable

private theorem scope_answers {body : Turn Text} (answers : Answers settings base body ledger.scoped) :
    Ends (fun text after => ((Reached settings after.failures → text = handoffText) ∧
        base <+: after.failures) ∧ after.tracker = ledger.tracker)
      (fun _ after => (¬Reached settings after.failures ∧ base <+: after.failures) ∧
        after.tracker = ledger.tracker) (trackerScope body) ledger := by
  have ends := ends_iff.mp answers
  unfold Ends trackerScope
  cases ran : body ledger.scoped with
  | ok text after => exact ⟨ends.1 text after ran,rfl⟩
  | error failure after => exact ⟨ends.2 failure after ran,rfl⟩

private theorem calm_scoped (calm : Calm settings ledger) : Calm settings ledger.scoped :=
  ⟨⟨_,rfl,fun _ => Nat.zero_le _⟩,calm.unreached⟩

private theorem under_grows {after : Ledger} (under : Under ledger) (same : after.tracker = ledger.tracker)
    (grown : ledger.failures <+: after.failures) : Under after := by
  obtain ⟨tracker,open',counts⟩ := under
  refine ⟨tracker,same.trans open',fun key => (counts key).trans ?_⟩
  exact grown.sublist.count_le key

private theorem invokeAgent_minds {run : Invoke Body} (kept : CallsKept settings tools args run.calls ledger)
    (quiet : Within settings base False ledger) :
    Minds settings base (invokeAgent settings tools args run) ledger := by
  apply (calls_minds kept quiet).bind
  intro _ after later
  split
  · exact ends_pure later
  · exact minds_throw later _

private theorem runReact_answers {llmEnabled : Bool} {run : Invoke Body} (calm : Calm settings ledger)
    (kept : AgainKept settings tools args llmEnabled run ledger) :
    Answers settings ledger.failures
      (reactOrOffline llmEnabled (invokeAgent settings tools args run)
        (offlineReact settings tools args run.offline)) ledger.scoped := by
  refine @reactOrOffline_answers _ settings tools args ledger.scoped _ _ _ (calm_scoped calm) (fun _ => ?_)
    kept.runner
  have ends := ends_iff.mp (invokeAgent_minds kept.calls (within_scoped ledger))
  have apart := kept.apart
  refine ends_iff.mpr ⟨fun text after ran => ?_,fun failure after ran => ?_⟩
  · rw [ran] at apart
    have total := within_total calm.unreached apart (ends.1 text after ran)
    exact ⟨fun too => (total.1 too).elim,total.2.2⟩
  · rw [ran] at apart
    exact within_total calm.unreached apart (ends.2 failure after ran)

private theorem streamAgent_runs {run : ReactRun Body} (kept : AgentKept settings tools args run freshLedger) :
    Runs settings [] (streamAgent settings tools args run) freshLedger := by
  have nothing {holds : Prop} {after : Ledger} (within : Within settings [] holds after) :=
    within_total not_reached_nil (fun _ listed => nomatch listed) within
  have ends := ends_iff.mp (calls_minds kept.calls (within_scoped ⟨none,[]⟩))
  refine ends_bind (ends_iff.mpr ⟨fun _ after ran => ?_,fun failure after ran => ?_⟩)
  · obtain ⟨unreached,under,grown⟩ := nothing (ends.1 _ after ran)
    have again := kept.again
    cases ended : run.ends with
    | raises failure => exact ends_throw ⟨fun too => (unreached too).elim,under,grown⟩
    | streams parts last =>
      dsimp only
      split
      · exact ends_pure ⟨fun too => (unreached too).elim,grown⟩
      · rename_i silent
        split
        · exact ends_pure ⟨fun too => (unreached too).elim,grown⟩
        · rename_i blank
          rw [ended] at again
          have kept' := again (by simpa [StreamEnd.blank] using ⟨not_not.mp silent,not_not.mp blank⟩) after ran
          apply (scope_answers (runReact_answers ⟨under,unreached⟩ kept')).weaken
          · exact fun _ _ both => ⟨both.1.1,List.nil_prefix⟩
          · exact fun _ _ both => ⟨fun too => absurd too both.1.1,under_grows under both.2 both.1.2,
              List.nil_prefix⟩
  · exact nothing (ends.2 failure after ran)

theorem streamReact_answers {run : ReactRun Body} (kept : ReactKept settings tools args run freshLedger) :
    Answers settings [] (streamReact settings tools args run) freshLedger := by
  have calm : Calm settings freshLedger := ⟨⟨_,rfl,fun _ => Nat.le_refl _⟩,not_reached_nil⟩
  have answers := @reactOrOffline_answers _ settings tools args freshLedger _ _ _ calm
    (fun enabled => streamAgent_runs (kept.agent enabled)) kept.runner
  exact (@scope_answers settings _ freshLedger _ answers).weaken (fun _ _ both => both.1)
    (fun _ _ both => both.1)

end

end CustomerService.ReactFailures
