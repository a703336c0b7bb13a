import CustomerService.AnswerEvents
import CustomerService.PlanExecution
import CustomerService.ReactFailures

/-! The escalations of a turn: the tools of the nodes with the failures they record, and when a turn
whose failures are too many ends as a hand-off. -/
namespace CustomerService.EscalatedTurns
open Text OrderAccess OrderReport ToolCache Routing Supervisor NodeGraph ChatGraph PlanExecution
open FailingPrograms ToolEscalation ReactFailures
open OrderQuery (QueryArgs Fate Host)

variable {Score Body : Type}

/-! ### Tools that fail -/

/-- What the tools of a turn meet: the settings, the hosts of the queries and of the searches, and
how each call ends. -/
structure Wires (Body : Type) where
  settings : EscalationSettings
  orderHost : SessionToolCacheState Body → Host Body
  fate : QueryArgs → Fate
  courseHost : SessionToolCacheState Body → CourseHost Body
  consult : CourseArgs → Consulted Body (CourseConsultResult Body)
  stream : CourseAsk → Consulted Body (Text × CourseConsultResult Body)
  react : ReactArgs Body → ReactRun Body

def abortOf : Failure → Abort
  | .quotaExceeded _ => .quotaExceeded
  | .other name _ => if name = "LlmCircuitOpenError".toList then .circuitOpen else .raised
  | _ => .raised

def toolError : Failure → ToolError
  | .toolEscalation decision => .escalated decision.message
  | .valueError message => .valueError message
  | .timeoutError message => .timeoutError message
  | failure => .raises (abortOf failure)

def ending {Err Value : Type} (raised : Failure → Err) (program : Turn Value) : Except Err Value :=
  match program freshLedger with
  | .ok value _ => .ok value
  | .error failure _ => .error (raised failure)

def failuresOf {Value : Type} (program : Turn Value) : List (Text × Text) :=
  match program freshLedger with
  | .ok _ after | .error _ after => after.failures

section
variable (wires : Wires Body)

def Wires.order (session : SessionToolCacheState Body) (args : QueryArgs) : Turn Report := do
  return (← queryOrder wires.settings (wires.orderHost session) args (wires.fate args)).1

def Wires.course (session : SessionToolCacheState Body) (args : CourseArgs) :
    Turn (CourseConsultResult Body) := do
  return (← retrieveCourse wires.settings (wires.courseHost session) args (wires.consult args)).1

def Wires.answer (tools : Tools Body) (session : SessionToolCacheState Body) (ask : CourseAsk) :
    Turn (Text × CourseConsultResult Body) :=
  streamCourseAnswer wires.settings (wires.courseHost session) ask.query tools.formatCourseAnswer
    (wires.stream ask)

def Wires.agent (tools : Tools Body) (args : ReactArgs Body) : Turn Text :=
  streamReact wires.settings tools args (wires.react args)

/-- The tools, each called once in the scope of its node or within a run of the agent. -/
def Wires.tools (tools : Tools Body) : Tools Body :=
  { tools with
    queryOrder := fun session args => ending toolError (wires.order session args)
    retrieveCourse := fun session args => ending toolError (wires.course session args)
    streamReact := fun args => ending abortOf (wires.agent tools args) }

def Wires.outside (outside : Outside Score Body) : Outside Score Body :=
  { outside with
    tools := wires.tools outside.tools
    streamCourseAnswer := fun session ask => ending abortOf (wires.answer outside.tools session ask) }

private theorem order_touches (session : SessionToolCacheState Body) (args : QueryArgs) :
    Touches wires.settings TOOL_ORDER (wires.order session args) :=
  .bind (queryOrder_touches _ _ _) (fun _ => .pure _)

private theorem course_touches (session : SessionToolCacheState Body) (args : CourseArgs) :
    Touches wires.settings TOOL_COURSE (wires.course session args) :=
  .bind (retrieveCourse_touches _ _ _) (fun _ => .pure _)

theorem tools_share_tracker (session : SessionToolCacheState Body) (args : QueryArgs)
    (courseArgs : CourseArgs) :
    Ends (fun _ after => Lockstep (Beside TOOL_COURSE after.failures) (wires.course session courseArgs)
        after freshLedger)
      (fun _ after => Lockstep (Beside TOOL_COURSE after.failures) (wires.course session courseArgs)
        after freshLedger) (wires.order session args) freshLedger ∧
    Ends (fun _ after => Lockstep (Beside TOOL_ORDER after.failures) (wires.order session args)
        after freshLedger)
      (fun _ after => Lockstep (Beside TOOL_ORDER after.failures) (wires.order session args)
        after freshLedger) (wires.course session courseArgs) freshLedger :=
  ⟨tools_apart (order_touches _ _ _) (course_touches _ _ _) (by decide),
    tools_apart (course_touches _ _ _) (order_touches _ _ _) (by decide)⟩

/-! ### The failures of a node -/

def Wires.stepFailures (tools : Tools Body) (session : SessionToolCacheState Body) (one : StepRun Body) :
    List (Text × Text) :=
  match one.step.capability with
  | .orderQuery => failuresOf (wires.order session (orderArgs one.context))
  | .courseRetrieve =>
    match one.course tools with
    | none => []
    | some args => failuresOf (wires.course session args)

def reactArgs (args : SupervisorArgs Body) : ReactArgs Body :=
  ⟨args.query,args.userId,args.tenantId,args.history,args.orderNo,args.courseQuery,
    args.lastCourseName,args.sessionSummary,args.sessionCache⟩

def Wires.ran (tools : Tools Body) (session : SessionToolCacheState Body) (args : SupervisorArgs Body) :
    List (StepRun Body) :=
  (planTrace (wires.tools tools) session args args.plan).flatten

def Wires.supervisorFailures (tools : Tools Body) (session : SessionToolCacheState Body)
    (args : SupervisorArgs Body) : List (Text × Text) :=
  match args.plan.action with
  | .askUser => []
  | .react => failuresOf (wires.agent tools (reactArgs args))
  | .execute => (wires.ran tools session args).flatMap (wires.stepFailures (wires.tools tools) session)

/-- What the tools and the model fail on while a node runs. -/
def Wires.nodeFailures (outside : Outside Score Body) (state : CSState Body) : Node → List (Text × Text)
  | .rag =>
    match (ragUpgrade (identityView outside.defaultTenant state).query (routeView state).orderNo
        (ragQuery outside state) : Option (Update Body)) with
    | some _ => []
    | none => failuresOf (wires.answer outside.tools (sessionToolCache state) (courseAsk outside state))
  | .tool => failuresOf (wires.order (sessionToolCache state) (toolArgs outside state))
  | .supervisor =>
    wires.supervisorFailures outside.tools (sessionToolCache state) (supervisorArgs outside state)
  | _ => []

/-! ### Steps that keep the escalation -/

/-- An answer of the course node whose model fails, below the threshold. -/
def Wires.AnswerKept (session : SessionToolCacheState Body) (ask : CourseAsk) : Prop :=
  ∀ failure evidence fallback, wires.stream ask = .modelRaises failure evidence fallback →
    isLlmDegradable failure = true →
      ∀ key, bareFailure (wires.courseHost session) ask.query = some key →
        Below wires.settings freshLedger key

/-- A query that is not cut off while another step fails too often, and a search whose escalation no
cached result hides. -/
def Wires.StepKept (tools : Tools Body) (session : SessionToolCacheState Body) (ran : List (StepRun Body))
    (one : StepRun Body) : Prop :=
  match one.step.capability with
  | .orderQuery =>
    (∃ message, wires.fate (orderArgs one.context) = .raises message) →
      ∀ other ∈ ran, ¬Reached wires.settings (wires.stepFailures tools session other)
  | .courseRetrieve =>
    ∀ args, one.course tools = some args →
      Uncovered wires.settings (wires.courseHost session) args (wires.consult args) freshLedger

def Wires.SupervisorKept (tools : Tools Body) (session : SessionToolCacheState Body)
    (args : SupervisorArgs Body) : Prop :=
  match args.plan.action with
  | .askUser => True
  | .react =>
    ReactKept wires.settings tools (reactArgs args) (wires.react (reactArgs args)) freshLedger
  | .execute =>
    ∀ one ∈ wires.ran tools session args,
      wires.StepKept (wires.tools tools) session (wires.ran tools session args) one

def Wires.NodeKept (outside : Outside Score Body) (state : CSState Body) : Node → Prop
  | .rag =>
    queryHasOrderSignal (identityView outside.defaultTenant state).query = false →
      wires.AnswerKept (sessionToolCache state) (courseAsk outside state)
  | .supervisor =>
    wires.SupervisorKept outside.tools (sessionToolCache state) (supervisorArgs outside state)
  | _ => True

end

/-! ### Calls -/

section
variable {wires : Wires Body} {session : SessionToolCacheState Body}

theorem ending_told {Err Value : Type} (raised : Failure → Err) {program : Turn Value}
    {told : Value → List (Text × Text) → Prop} {failed : Failure → List (Text × Text) → Prop}
    (ends : Ends (fun value after => told value after.failures)
      (fun failure after => failed failure after.failures) program freshLedger) :
    (∃ value, ending raised program = .ok value ∧ told value (failuresOf program)) ∨
      ∃ failure, ending raised program = .error (raised failure) ∧ failed failure (failuresOf program) := by
  have both := ends_iff.mp ends
  unfold ending failuresOf
  cases ran : program freshLedger with
  | ok value after => exact Or.inl ⟨value,rfl,both.1 value after ran⟩
  | error failure after => exact Or.inr ⟨failure,rfl,both.2 failure after ran⟩

private theorem within_nil {settings : EscalationSettings} {holds : Prop} {after : Ledger}
    (within : Within settings [] holds after) (too : Reached settings after.failures) : holds := by
  obtain ⟨inner,split,_,reached⟩ := within
  rw [split,List.nil_append] at too
  exact reached too

private theorem minds_escalates {Value : Type} {program : Turn Value}
    (minds : Minds wires.settings [] program freshLedger)
    (too : Reached wires.settings (failuresOf program)) :
    ending toolError program = .error (.escalated (some handoffText)) := by
  have ends : Ends (fun _ after => Reached wires.settings after.failures → False)
      (fun failure after => Reached wires.settings after.failures → failure = handed) program freshLedger :=
    minds.weaken (fun _ _ => within_nil) (fun _ _ => within_nil)
  obtain ⟨_,_,never⟩ | ⟨failure,ended,same⟩ := @ending_told _ _ toolError program
    (fun _ failures => Reached wires.settings failures → False)
    (fun failure failures => Reached wires.settings failures → failure = handed) ends
  · exact (never too).elim
  · rw [ended,same too]
    rfl

private theorem order_escalates {args : QueryArgs}
    (too : Reached wires.settings (failuresOf (wires.order session args))) :
    ending toolError (wires.order session args) = .error (.escalated (some handoffText)) :=
  minds_escalates ((queryOrder_minds _ _ _ (within_scoped ⟨none,[]⟩)).bind
    (fun _ _ later => ends_pure later)) too

private theorem course_escalates {args : CourseArgs}
    (uncovered : Uncovered wires.settings (wires.courseHost session) args (wires.consult args) freshLedger)
    (too : Reached wires.settings (failuresOf (wires.course session args))) :
    ending toolError (wires.course session args) = .error (.escalated (some handoffText)) :=
  minds_escalates ((retrieveCourse_minds _ _ _ uncovered (within_scoped ⟨none,[]⟩)).bind
    (fun _ _ later => ends_pure later)) too

private theorem agent_answers {tools : Tools Body} {args : ReactArgs Body}
    (kept : ReactKept wires.settings tools args (wires.react args) freshLedger)
    (too : Reached wires.settings (failuresOf (wires.agent tools args))) :
    ending abortOf (wires.agent tools args) = .ok handoffText := by
  have ends : Ends (fun text after => Reached wires.settings after.failures → text = handoffText)
      (fun _ after => ¬Reached wires.settings after.failures) (wires.agent tools args) freshLedger :=
    (streamReact_answers kept).weaken (fun _ _ both => both.1) (fun _ _ both => both.1)
  obtain ⟨text,ended,same⟩ | ⟨_,_,never⟩ := @ending_told _ _ abortOf (wires.agent tools args)
    (fun text failures => Reached wires.settings failures → text = handoffText)
    (fun _ failures => ¬Reached wires.settings failures) ends
  · rw [ended,same too]
  · exact absurd too never

private theorem answer_below {tools : Tools Body} {ask : CourseAsk} (kept : wires.AnswerKept session ask) :
    ¬Reached wires.settings (failuresOf (wires.answer tools session ask)) := by
  have calm : Calm wires.settings freshLedger := ⟨⟨_,rfl,fun _ => Nat.le_refl _⟩,not_reached_nil⟩
  have ends : Ends (fun _ after => ¬Reached wires.settings after.failures)
      (fun _ after => ¬Reached wires.settings after.failures) (wires.answer tools session ask)
      freshLedger := by
    unfold Wires.answer
    cases streamed : wires.stream ask with
    | raises failure => exact ends_throw calm.unreached
    | answers answer => exact ends_pure calm.unreached
    | modelRaises failure evidence fallback =>
      apply ends_bind
      cases degradable : isLlmDegradable failure with
      | false =>
        unfold onLlmFailure
        rw [if_pos degradable]
        exact ends_throw calm.unreached
      | true =>
        have below := kept failure evidence fallback streamed degradable
        apply (onLlmFailure_records _ _ degradable fallback calm below).weaken
        · rintro _ after rfl
          exact ends_pure (settled calm below).1.unreached
        · exact fun _ _ impossible => impossible.elim
  obtain ⟨_,_,never⟩ | ⟨_,_,never⟩ := @ending_told _ _ abortOf (wires.answer tools session ask)
    (fun _ failures => ¬Reached wires.settings failures)
    (fun _ failures => ¬Reached wires.settings failures) ends
  · exact never
  · exact never

end

/-! ### Plans -/

def toolOf : Capability → Text
  | .orderQuery => TOOL_ORDER
  | .courseRetrieve => TOOL_COURSE

private theorem toolOf_injective {first second : Capability} (same : toolOf first = toolOf second) :
    first = second := by
  cases first <;> cases second
  · rfl
  · exact absurd same (by decide)
  · exact absurd same (by decide)
  · rfl

section
variable {tools : Tools Body} {session : SessionToolCacheState Body}

theorem trace_result {context : Option Text → ExecutionContext} {run : Execution Body}
    {groups : List (List PlanStep)} {one : StepRun Body}
    (listed : one ∈ (trace tools session context run groups).flatten) :
    one.result = runStep tools session one.step one.context one.observations := by
  induction groups generalizing run with
  | nil => cases listed
  | cons steps rest ih =>
    rw [trace,List.flatten_cons] at listed
    rcases List.mem_append.mp listed with here | later
    · obtain ⟨step,_,rfl⟩ := List.mem_map.mp here
      rfl
    · split at later
      · cases later
      · split at later
        · cases later
        · exact ih later

private theorem mapM_of_ok {Item Result : Type} {items : List Item} {f : Item → Except Abort Result}
    (ran : ∀ item ∈ items, ∃ result, f item = .ok result) : ∃ results, items.mapM f = .ok results := by
  induction items with
  | nil => exact ⟨[],rfl⟩
  | cons item rest ih =>
    obtain ⟨⟨result,here⟩,later⟩ := List.forall_mem_cons.mp ran
    obtain ⟨results,others⟩ := ih later
    refine ⟨result :: results,?_⟩
    rw [List.mapM_cons,here,others]
    rfl

private theorem executeGroups_ok {context : Option Text → ExecutionContext} {run : Execution Body}
    {groups : List (List PlanStep)}
    (ran : ∀ one ∈ (trace tools session context run groups).flatten, ∃ result, one.result = .ok result) :
    ∃ executed, executeGroups tools session context run groups = .ok executed := by
  induction groups generalizing run with
  | nil => exact ⟨_,rfl⟩
  | cons steps rest ih =>
    unfold trace at ran
    unfold executeGroups
    obtain ⟨results,done⟩ : ∃ results, steps.mapM (fun step =>
        runStep tools session step (context run.boundCourse) run.observations) = .ok results := by
      refine mapM_of_ok (fun step listed => ?_)
      exact ran (stepRun tools session (context run.boundCourse) run.observations step)
        (List.mem_flatten_of_mem List.mem_cons_self (List.mem_map_of_mem listed))
    have goes (next : List (StepResult Body) → Except Abort (Executed Body)) :
        (Except.ok results >>= next) = next results := rfl
    rw [done] at ran ⊢
    rw [goes]
    dsimp only at ran ⊢
    generalize run.absorb results = absorbed at ran ⊢
    obtain ⟨seen,_ | text⟩ := absorbed
    · refine ih (fun one listed => ran one ?_)
      rw [List.flatten_cons]
      exact List.mem_append_right _ listed
    · exact ⟨_,rfl⟩

theorem runStep_order {one : StepRun Body} (order : one.step.capability = .orderQuery)
    (caught : ∀ abort, tools.queryOrder session (orderArgs one.context) ≠ .error (.raises abort)) :
    ∃ result, runStep tools session one.step one.context one.observations = .ok result ∧
      ∀ message, tools.queryOrder session (orderArgs one.context) = .error (.escalated message) ↔
        result.escalated = true ∧ result.text = message := by
  have invoked : ∃ result, invokeOrder tools session one.context = .ok result ∧
      ∀ message, tools.queryOrder session (orderArgs one.context) = .error (.escalated message) ↔
        result.escalated = true ∧ result.text = message := by
    unfold invokeOrder
    generalize tools.queryOrder session (orderArgs one.context) = outcome at caught ⊢
    cases outcome with
    | ok report => exact ⟨_,rfl,fun _ => by simp⟩
    | error error =>
      cases error with
      | escalated message => exact ⟨_,rfl,fun _ => by simp⟩
      | valueError message => exact ⟨_,rfl,fun _ => by simp⟩
      | timeoutError message => exact ⟨_,rfl,fun _ => by simp⟩
      | raises abort => exact absurd rfl (caught abort)
  obtain ⟨result,ran,escalated⟩ := invoked
  unfold runStep
  rw [order]
  dsimp only
  rw [ran]
  exact ⟨_,rfl,escalated⟩

private theorem runStep_course {one : StepRun Body} (course : one.step.capability = .courseRetrieve)
    (caught : ∀ args, one.course tools = some args → ∀ error, tools.retrieveCourse session args = .error error →
      ∃ message, error = .escalated message) :
    ∃ result, runStep tools session one.step one.context one.observations = .ok result ∧
      (∀ args message, one.course tools = some args →
        tools.retrieveCourse session args = .error (.escalated message) → result.escalated = true) ∧
      (result.escalated = true → ∃ args, one.course tools = some args ∧
        tools.retrieveCourse session args = .error (.escalated result.text)) := by
  unfold StepRun.course at caught ⊢
  unfold runStep
  rw [course]
  dsimp only
  cases bound : bindCourse tools one.step one.context one.observations with
  | none => exact ⟨_,rfl,(fun _ _ none' => nomatch none'),fun stops => absurd stops Bool.false_ne_true⟩
  | some args =>
    have caught' := caught args bound
    have invoked : ∃ result, invokeCourse tools session args = .ok result ∧
        ∀ message, tools.retrieveCourse session args = .error (.escalated message) ↔
          result.escalated = true ∧ result.text = message := by
      unfold invokeCourse
      generalize tools.retrieveCourse session args = outcome at caught' ⊢
      cases outcome with
      | ok found =>
        dsimp only
        split
        · exact ⟨_,rfl,fun _ => by simp⟩
        · exact ⟨_,rfl,fun _ => by simp⟩
      | error error =>
        obtain ⟨message,rfl⟩ := caught' error rfl
        exact ⟨_,rfl,fun _ => by simp⟩
    obtain ⟨result,ran,escalated⟩ := invoked
    dsimp only
    rw [ran]
    refine ⟨_,rfl,fun other message same failed => ?_,fun stops => ⟨args,rfl,?_⟩⟩
    · cases same
      exact ((escalated message).mp failed).1
    · exact (escalated _).mpr ⟨stops,rfl⟩

end

/-! ### A plan whose failures are too many -/

section
variable {wires : Wires Body} {tools : Tools Body} {session : SessionToolCacheState Body}

private theorem failuresOf_tool {Value : Type} {settings : EscalationSettings} {tool : Text} {program : Turn Value}
    (touches : Touches settings tool program) : ∀ key ∈ failuresOf program, key.1 = tool := by
  have ends := ends_iff.mp (touches.touched freshLedger)
  unfold failuresOf
  cases ran : program freshLedger with
  | ok value after => exact fun key listed => ((ends.1 value after ran).failures key listed).resolve_left nofun
  | error failure after =>
    exact fun key listed => ((ends.2 failure after ran).failures key listed).resolve_left nofun

private theorem stepFailures_tool (one : StepRun Body) :
    ∀ key ∈ wires.stepFailures tools session one, key.1 = toolOf one.step.capability := by
  unfold Wires.stepFailures
  cases one.step.capability with
  | orderQuery => exact failuresOf_tool (order_touches _ _ _)
  | courseRetrieve =>
    dsimp only
    split
    · exact nofun
    · exact failuresOf_tool (course_touches _ _ _)

private theorem reached_step {ran : List (StepRun Body)}
    (once : (ran.map (fun one => one.step.capability)).Nodup)
    (too : Reached wires.settings (ran.flatMap (wires.stepFailures tools session))) :
    ∃ one ∈ ran, Reached wires.settings (wires.stepFailures tools session one) := by
  induction ran with
  | nil => exact absurd too not_reached_nil
  | cons one rest ih =>
    rw [List.map_cons,List.nodup_cons] at once
    obtain ⟨enabled,key,many⟩ := too
    rw [List.flatMap_cons,List.count_append] at many
    by_cases own : key.1 = toolOf one.step.capability
    · have others : key ∉ rest.flatMap (wires.stepFailures tools session) := by
        intro listed
        obtain ⟨other,inside,failed⟩ := List.mem_flatMap.mp listed
        have same := toolOf_injective ((stepFailures_tool other key failed).symm.trans own)
        exact once.1 (same ▸ List.mem_map_of_mem inside)
      rw [List.count_eq_zero_of_not_mem others,Nat.add_zero] at many
      exact ⟨one,List.mem_cons_self,enabled,key,many⟩
    · have none' : key ∉ wires.stepFailures tools session one :=
        fun listed => own (stepFailures_tool one key listed)
      rw [List.count_eq_zero_of_not_mem none',Nat.zero_add] at many
      obtain ⟨other,inside,reached⟩ := ih once.2 ⟨enabled,key,many⟩
      exact ⟨other,List.mem_cons_of_mem _ inside,reached⟩

private theorem capabilities_once (args : SupervisorArgs Body) :
    ((wires.ran tools session args).map (fun one => one.step.capability)).Nodup := by
  have planned := (trace_planned (wires.tools tools) session args).sublist.map PlanStep.capability
  rw [List.map_map] at planned
  refine List.Nodup.sublist planned ?_
  have shape := plan_shape args
  generalize args.plan.groups = groups at shape
  generalize args.plan.steps = steps at shape
  cases shape <;> decide

private theorem order_caught {args : QueryArgs} (runs : ∀ message, wires.fate args ≠ .raises message) :
    (∀ abort, ending toolError (wires.order session args) ≠ .error (.raises abort)) ∧
      ∀ message, ending toolError (wires.order session args) = .error (.escalated message) →
        message = some handoffText := by
  have ends : Ends (fun _ _ => True) (fun failure _ => Caught failure) (wires.order session args)
      freshLedger :=
    ends_bind ((queryOrder_once _ _ _ freshLedger).weaken (fun _ _ _ => ends_pure trivial)
      (fun _ _ both => both.2 runs))
  obtain ⟨_,ended,_⟩ | ⟨failure,ended,caught⟩ := @ending_told _ _ toolError (wires.order session args)
    (fun _ _ => True) (fun failure _ => Caught failure) ends
  · rw [ended]
    exact ⟨nofun,nofun⟩
  · rw [ended]
    rcases caught with rfl | ⟨_,rfl⟩ | ⟨_,rfl⟩
    · refine ⟨nofun,fun message same => ?_⟩
      cases same
      rfl
    · exact ⟨nofun,nofun⟩
    · exact ⟨nofun,nofun⟩

private theorem order_failures (args : QueryArgs) : (failuresOf (wires.order session args)).length ≤ 1 := by
  have ends : Ends (fun _ after => after.failures.length ≤ 1) (fun _ after => after.failures.length ≤ 1)
      (wires.order session args) freshLedger :=
    ends_bind ((queryOrder_once _ _ _ freshLedger).weaken (fun _ _ few => ends_pure few)
      (fun _ _ both => both.1))
  obtain ⟨_,_,few⟩ | ⟨_,_,few⟩ := @ending_told _ _ toolError (wires.order session args)
    (fun _ failures => failures.length ≤ 1) (fun _ failures => failures.length ≤ 1) ends
  · exact few
  · exact few

private theorem course_eager {args : CourseArgs} (enabled : wires.settings.toolEscalationEnabled = true)
    (one : wires.settings.toolEscalationTransientThreshold ≤ 1) {error : ToolError}
    (failed : ending toolError (wires.course session args) = .error error) :
    error = .escalated (some handoffText) := by
  obtain ⟨_,ended,_⟩ | ⟨failure,ended,same⟩ := @ending_told _ _ toolError (wires.course session args)
    (fun _ _ => True) (fun failure _ => failure = handed)
    (ends_bind ((retrieveCourse_eager _ _ _ enabled one).weaken (fun _ _ _ => ends_pure trivial)
      (fun _ _ same => same)))
  · rw [ended] at failed
    cases failed
  · rw [ended,same] at failed
    cases failed
    rfl

/-- A step that is not cut off, and escalates when it fails too often, with the text of a hand-off. -/
def StepEnds (wires : Wires Body) (tools : Tools Body) (session : SessionToolCacheState Body)
    (one : StepRun Body) : Prop :=
  ∃ result, runStep (wires.tools tools) session one.step one.context one.observations = .ok result ∧
    (Reached wires.settings (wires.stepFailures (wires.tools tools) session one) →
      result.escalated = true) ∧
    (result.escalated = true → result.text = some handoffText)

private theorem order_ends {one : StepRun Body} (order : one.step.capability = .orderQuery)
    (runs : ∀ message, wires.fate (orderArgs one.context) ≠ .raises message) :
    StepEnds wires tools session one := by
  obtain ⟨caught,told⟩ := @order_caught _ wires session _ runs
  obtain ⟨result,ran,escalated⟩ := @runStep_order _ (wires.tools tools) session one order caught
  refine ⟨result,ran,fun too => ?_,fun stops => told _ ((escalated _).mpr ⟨stops,rfl⟩)⟩
  unfold Wires.stepFailures at too
  rw [order] at too
  exact ((escalated _).mp (order_escalates too)).1

private theorem course_ends {one : StepRun Body} (course : one.step.capability = .courseRetrieve)
    (kept : ∀ args, one.course (wires.tools tools) = some args →
      Uncovered wires.settings (wires.courseHost session) args (wires.consult args) freshLedger)
    (caught : ∀ args, one.course (wires.tools tools) = some args →
      ∀ error, ending toolError (wires.course session args) = .error error →
        error = .escalated (some handoffText)) : StepEnds wires tools session one := by
  obtain ⟨result,ran,escalated,told⟩ := @runStep_course _ (wires.tools tools) session one course
    (fun args bound error failed => ⟨_,caught args bound error failed⟩)
  refine ⟨result,ran,fun too => ?_,fun stops => ?_⟩
  · unfold Wires.stepFailures at too
    rw [course] at too
    cases bound : one.course (wires.tools tools) with
    | none =>
      rw [bound] at too
      exact absurd too not_reached_nil
    | some args =>
      rw [bound] at too
      exact escalated args _ bound (course_escalates (kept args bound) too)
  · obtain ⟨args,bound,failed⟩ := told stops
    exact ToolError.escalated.inj (caught args bound _ failed)

private theorem step_ends {args : SupervisorArgs Body} {one other : StepRun Body}
    (kept : ∀ one ∈ wires.ran tools session args,
      wires.StepKept (wires.tools tools) session (wires.ran tools session args) one)
    (listed : one ∈ wires.ran tools session args)
    (too : Reached wires.settings (wires.stepFailures (wires.tools tools) session one))
    (inside : other ∈ wires.ran tools session args) : StepEnds wires tools session other := by
  have kept' := kept other inside
  unfold Wires.StepKept at kept'
  cases capability : other.step.capability with
  | orderQuery =>
    rw [capability] at kept'
    exact order_ends capability (fun message same => kept' ⟨message,same⟩ one listed too)
  | courseRetrieve =>
    rw [capability] at kept'
    refine course_ends capability kept' (fun called bound error failed => ?_)
    unfold Wires.stepFailures at too
    cases mine : one.step.capability with
    | courseRetrieve =>
      have same : other = one := List.inj_on_of_nodup_map (capabilities_once args) inside listed
        (capability.trans mine.symm)
      subst same
      rw [mine,bound] at too
      rw [course_escalates (kept' called bound) too] at failed
      cases failed
      rfl
    | orderQuery =>
      rw [mine] at too
      obtain ⟨enabled,key,many⟩ := too
      have few := @order_failures _ wires session (orderArgs one.context)
      have least := (many.trans List.count_le_length).trans few
      exact course_eager enabled least failed

private theorem executed_escalates {args : SupervisorArgs Body}
    (kept : ∀ one ∈ wires.ran tools session args,
      wires.StepKept (wires.tools tools) session (wires.ran tools session args) one)
    (too : Reached wires.settings
      ((wires.ran tools session args).flatMap (wires.stepFailures (wires.tools tools) session))) :
    ∃ executed, executePlan (wires.tools tools) session args args.plan = .ok executed ∧
      executed.escalated = true ∧ executed.answer = handoffText := by
  obtain ⟨one,listed,reached⟩ := reached_step (capabilities_once args) too
  have ends (other : StepRun Body) (inside : other ∈ wires.ran tools session args) :
      ∃ result, other.result = .ok result ∧
        (Reached wires.settings (wires.stepFailures (wires.tools tools) session other) →
          result.escalated = true) ∧
        (result.escalated = true → result.text = some handoffText) := by
    rw [trace_result inside]
    exact step_ends kept listed reached inside
  obtain ⟨executed,done⟩ := @executeGroups_ok _ (wires.tools tools) session (executionContext args)
    (begun args.plan) args.plan.groups (fun other inside => (ends other inside).imp (fun _ both => both.1))
  obtain ⟨answered,escalated⟩ := executeGroups_answer done
  have stops : (wires.ran tools session args).any StepRun.escalates = true := by
    refine List.any_eq_true.mpr ⟨one,listed,?_⟩
    obtain ⟨result,ended,here,_⟩ := ends one listed
    unfold StepRun.escalates
    rw [ended]
    exact here reached
  refine ⟨executed,done,escalated.trans stops,answered.trans ?_⟩
  obtain ⟨other,first⟩ := Option.isSome_iff_exists.mp (List.find?_isSome.mpr (List.any_eq_true.mp stops))
  obtain ⟨result,ended,_,told⟩ := ends other (List.mem_of_find?_eq_some first)
  have here := List.find?_some first
  unfold StepRun.escalates at here
  rw [ended] at here
  have text : other.text = some handoffText := by
    unfold StepRun.text
    rw [ended]
    exact told here
  change answerOf [] (wires.ran tools session args) = handoffText
  unfold answerOf
  rw [first]
  dsimp only
  rw [text]
  exact orElse_of_ne handoffText_shape.1

private theorem runSupervisor_hands_off {args : SupervisorArgs Body}
    (kept : wires.SupervisorKept tools session args)
    (too : Reached wires.settings (wires.supervisorFailures tools session args)) :
    ∃ decision, runSupervisor (wires.tools tools) session args = .ok decision ∧
      decision.finalIntent = .handoff ∧ AUTO_HANDOFF.contains decision.reason = true ∧
      decision.answer = some handoffText := by
  unfold Wires.SupervisorKept at kept
  unfold Wires.supervisorFailures at too
  unfold runSupervisor
  dsimp only
  cases action : args.plan.action with
  | askUser =>
    rw [action] at too
    exact absurd too not_reached_nil
  | react =>
    rw [action] at kept too
    have answered := agent_answers kept too
    change ∃ decision, (ending abortOf (wires.agent tools (reactArgs args)) >>= fun answer =>
      Except.ok (toSupervisorDecision args.plan (some answer) args.orderNo
        (either args.courseQuery args.plan.boundCourseName) {}
        (if isAutoHandoffAnswer answer then some "react_limit".toList else none))) = .ok decision ∧ _
    rw [answered]
    refine ⟨_,rfl,?_⟩
    rw [if_pos handoffText_shape.2.2]
    have known : AUTO_HANDOFF.contains "react_limit".toList = true :=
      List.contains_iff_mem.mpr (List.mem_cons_of_mem _ List.mem_cons_self)
    exact ⟨rfl,known,rfl⟩
  | execute =>
    rw [action] at kept too
    obtain ⟨executed,done,escalated,answer⟩ := executed_escalates kept too
    change ∃ decision, (executePlan (wires.tools tools) session args args.plan >>= fun executed =>
      Except.ok (toSupervisorDecision args.plan (some executed.answer) args.orderNo
        (either executed.boundCourse (either args.courseQuery args.plan.boundCourseName))
        executed.cacheUpdates
        (if executed.escalated then some "transient_exhausted".toList else none))) = .ok decision ∧ _
    rw [done]
    refine ⟨_,rfl,?_⟩
    rw [if_pos escalated]
    have known : AUTO_HANDOFF.contains "transient_exhausted".toList = true :=
      List.contains_iff_mem.mpr List.mem_cons_self
    exact ⟨rfl,known,congrArg some answer⟩

end

/-! ### Turns -/

def HandsOff (outside : Outside Score Body) (visit : NodeVisit Body) : Prop :=
  visit.result = withMemory outside visit.before (handoffState handoffText)

section
variable {wires : Wires Body} {outside : Outside Score Body} {state : CSState Body}

private theorem toolNode_hands_off
    (too : Reached wires.settings (wires.nodeFailures outside state .tool)) :
    toolNode (wires.outside outside) state =
      withMemory (wires.outside outside) state (handoffState handoffText) := by
  have escalates : (wires.outside outside).tools.queryOrder (sessionToolCache state)
      (toolArgs (wires.outside outside) state) = .error (.escalated (some handoffText)) :=
    order_escalates too
  unfold toolNode
  rw [escalates]
  exact congrArg (fun text => withMemory (wires.outside outside) state (handoffState text))
    (orElse_of_ne handoffText_shape.1)

private theorem supervisorNode_hands_off (kept : wires.NodeKept outside state .supervisor)
    (too : Reached wires.settings (wires.nodeFailures outside state .supervisor)) :
    supervisorNode (wires.outside outside) state =
      withMemory (wires.outside outside) state (handoffState handoffText) := by
  obtain ⟨decision,decided,final,reason,answer⟩ := runSupervisor_hands_off kept too
  unfold supervisorNode
  change (runSupervisor (wires.tools outside.tools) (sessionToolCache state)
    (supervisorArgs outside state) >>= _) = _
  rw [decided]
  refine (if_pos ⟨final,reason⟩).trans ?_
  rw [answer,orElse_of_ne handoffText_shape.1]

private theorem ragNode_below (kept : wires.NodeKept outside state .rag) :
    ¬Reached wires.settings (wires.nodeFailures outside state .rag) := by
  simp only [Wires.nodeFailures]
  split
  · exact not_reached_nil
  · rename_i stays
    apply answer_below
    apply kept
    unfold ragUpgrade at stays
    split at stays
    · cases stays
    · rename_i signal
      simpa using signal

private theorem node_hands_off [LinearOrder Score] [Zero Score] {node : Node}
    (kept : wires.NodeKept outside state node)
    (too : Reached wires.settings (wires.nodeFailures outside state node)) :
    (node = .tool ∨ node = .supervisor) ∧
      HandsOff (wires.outside outside) ((graph (wires.outside outside)).visit state node) := by
  cases node with
  | tool => exact ⟨Or.inl rfl,toolNode_hands_off too⟩
  | supervisor => exact ⟨Or.inr rfl,supervisorNode_hands_off kept too⟩
  | rag => exact absurd too (ragNode_below kept)
  | _ => exact absurd too not_reached_nil

end

/-- The failures of the tools and the model in a turn, node after node. -/
def Wires.turnFailures (wires : Wires Body) (outside : Outside Score Body)
    (visits : List (NodeVisit Body)) : List (Text × Text) :=
  visits.flatMap (fun visit => wires.nodeFailures outside visit.before visit.node)

/-- Every step of a turn keeps the escalations that are due in it. -/
def Wires.TurnKept (wires : Wires Body) (outside : Outside Score Body) (visits : List (NodeVisit Body)) :
    Prop :=
  ∀ visit ∈ visits, wires.NodeKept outside visit.before visit.node

section
variable {wires : Wires Body} {outside : Outside Score Body} {state : CSState Body}

private theorem turnFailures_one (visit : NodeVisit Body) :
    wires.turnFailures outside [visit] = wires.nodeFailures outside visit.before visit.node :=
  List.append_nil _

private theorem turnFailures_cons (visit : NodeVisit Body) (rest : List (NodeVisit Body)) :
    wires.turnFailures outside (visit :: rest) =
      wires.nodeFailures outside visit.before visit.node ++ wires.turnFailures outside rest := rfl

/-! ### Edges -/

/-- Neither the router nor the course node sent the turn to the supervisor. -/
def OnCourse (state : CSState Body) : Prop :=
  state.route.ragUpgradedToSupervisor = false ∧ state.route.target ≠ RouteTarget.supervisor.name

theorem rag_edge {update : Update Body} (course : OnCourse state) (ran : ragNode outside state = .ok update) :
    (successor (state.apply outside.addMessages update) .rag = some .supervisor ∧
      ragUpgrade (identityView outside.defaultTenant state).query (routeView state).orderNo
        (ragQuery outside state) = some update) ∨
    successor (state.apply outside.addMessages update) .rag = some .respond := by
  obtain ⟨signal,upgraded⟩ | ⟨_,answer,result,_,rfl⟩ := ragNode_cases ran
  · refine Or.inl ⟨?_,upgraded⟩
    unfold ragUpgrade at upgraded
    rw [if_pos signal] at upgraded
    obtain rfl := Option.some.inj upgraded
    unfold successor afterRag
    dsimp only
    exact congrArg some (if_pos (Or.inl rfl))
  · refine Or.inr (congrArg some (if_neg ?_))
    rintro (flagged | targeted)
    · exact absurd (flagged.symm.trans course.1) (by decide)
    · exact course.2 targeted

private theorem router_flag {update : Update Body} (ran : routerNode outside state = .ok update) :
    update.ragUpgradedToSupervisor = none := by
  unfold routerNode at ran
  split at ran
  · obtain rfl := Except.ok.inj ran
    rfl
  · obtain ⟨_,_,rest⟩ := bind_ok ran
    split at rest
    · cases rest
    · obtain rfl := Except.ok.inj rest
      rfl

private theorem on_course_of_edge (fresh : state.route.ragUpgradedToSupervisor = false)
    (edge : afterRouter state = .rag) : OnCourse state := by
  refine ⟨fresh,fun targeted => ?_⟩
  unfold afterRouter routeView at edge
  dsimp only at edge
  rw [targeted] at edge
  cases blocked : state.route.blocked with
  | true =>
    rw [blocked] at edge
    cases edge
  | false =>
    have supervised : (targetByKey RouteTarget.supervisor.name).getD .chitchat = .supervisor := by decide
    rw [blocked,next_of_target (by decide),supervised] at edge
    cases edge

private theorem apply_handoff (text : Text) :
    (state.apply outside.addMessages (handoffState text)).route.intent = "handoff".toList ∧
      (state.apply outside.addMessages (handoffState text)).result.answer = text := ⟨rfl,rfl⟩

private theorem security_flag :
    (state.apply outside.addMessages (securityNode outside state)).route.ragUpgradedToSupervisor =
      false := by
  unfold securityNode
  dsimp only
  split
  · rfl
  · rfl

end

/-! ### Walks -/

section
variable [LinearOrder Score] [Zero Score]

/-- A turn that ends as a hand-off: a node hands over and only the last node follows, and where
neither fails the client is told so at the end. -/
structure HandedOver (outside : Outside Score Body) (state : CSState Body)
    (visits : List (NodeVisit Body)) : Prop where
  handed : ∃ before visit after, visits = before ++ visit :: after ∧ HandsOff outside visit ∧
    ∀ later ∈ after, later.node = .respond
  stays : (∀ visit ∈ visits, ∃ update, visit.result = .ok update) →
    ((graph outside).final state visits).route.intent = "handoff".toList
  told : (∀ visit ∈ visits, ∃ update, visit.result = .ok update) → ∀ sid accumulated,
    ∃ response, (streamEvents sid accumulated visits).getLast? = some (.done response) ∧
      response.intent = "handoff".toList ∧ response.answer = handoffText

variable {wires : Wires Body} {outside : Outside Score Body} {state : CSState Body}

private theorem walk_respond : (graph outside).walk state .respond = [(graph outside).visit state .respond] := by
  cases ran : (graph outside).run state .respond with
  | error failure => exact walk_of_error ran
  | ok update => exact walk_of_last ran rfl

private theorem respond_intent {update : Update Body} (ran : respondNode outside state = .ok update) :
    update.intent = none := by
  obtain ⟨_,_,same⟩ := bind_ok ran
  obtain rfl := Except.ok.inj same
  rfl

theorem HandedOver.cons {node : Node} {update : Update Body} {rest : List (NodeVisit Body)}
    (ran : runNode outside state node = .ok update)
    (handing : HandedOver outside (state.apply outside.addMessages update) rest) :
    HandedOver outside state ((graph outside).visit state node :: rest) := by
  obtain ⟨before,visit,later,split,hands,last⟩ := handing.handed
  refine ⟨⟨_ :: before,visit,later,by rw [split]; rfl,hands,last⟩,fun ok => ?_,fun ok sid accumulated => ?_⟩
  · rw [final_cons,after_visit ran]
    exact handing.stays (fun visit listed => ok visit (List.mem_cons_of_mem _ listed))
  · obtain ⟨response,ends,said⟩ := handing.told
      (fun visit listed => ok visit (List.mem_cons_of_mem _ listed)) sid (accumulated.merge update)
    refine ⟨response,?_,said⟩
    rw [@streamEvents_ok _ _ _ ((graph outside).visit state node) _ ran,List.getLast?_append,ends]
    rfl

private theorem walk_follows {node follower : Node} {update : Update Body}
    (ran : runNode outside state node = .ok update)
    (edge : successor (state.apply outside.addMessages update) node = some follower) :
    (graph outside).walk state node = (graph outside).visit state node ::
      (graph outside).walk (state.apply outside.addMessages update) follower :=
  @walk_of_edge _ _ _ _ (graph outside) _ _ _ _ ran edge

private theorem walk_leaf {node : Node} (leaf : ∀ after : CSState Body, successor after node = some .respond) :
    (∃ abort, runNode outside state node = .error abort ∧
      (graph outside).walk state node = [(graph outside).visit state node]) ∨
    ∃ update, runNode outside state node = .ok update ∧
      (graph outside).walk state node = [(graph outside).visit state node,
        (graph outside).visit (state.apply outside.addMessages update) .respond] := by
  cases ran : runNode outside state node with
  | error abort => exact Or.inl ⟨abort,rfl,walk_of_error ran⟩
  | ok update =>
    refine Or.inr ⟨update,rfl,?_⟩
    rw [walk_follows ran (leaf _),walk_respond]

private theorem handoff_stays {text : Text} {update : Update Body} (handed : state.route.intent = text)
    (ran : runNode outside state .respond = .ok update) :
    ((graph outside).final state [(graph outside).visit state .respond]).route.intent = text := by
  rw [final_cons,after_visit ran]
  change (update.intent.getD state.route.intent) = text
  rw [respond_intent ran]
  exact handed

theorem respond_answer {update : Update Body} (handed : state.result.answer = handoffText)
    (ran : respondNode outside state = .ok update) : update.answer = some handoffText := by
  obtain ⟨finalized,ended,same⟩ := bind_ok ran
  obtain ⟨summarize,_,same'⟩ := bind_ok ended
  obtain rfl := Except.ok.inj same
  obtain rfl := Except.ok.inj same'
  have resolved : SummaryFacts.resolveRespondAnswer (respondState state) = handoffText := by
    unfold SummaryFacts.resolveRespondAnswer respondState
    dsimp only [Option.getD_some]
    rw [handed,if_pos handoffText_shape.2.1]
  rw [finalize_answer,resolved]
  exact congrArg some (filtered_handoff true (some EscalationReason.transientExhausted.name))

private theorem merged_handoff {accumulated update : Update Body} (intent : update.intent = none)
    (answer : update.answer = some handoffText) :
    ((accumulated.merge (handoffState handoffText)).merge update).intent = some "handoff".toList ∧
      ((accumulated.merge (handoffState handoffText)).merge update).answer = some handoffText := by
  unfold Update.merge
  rw [intent,answer]
  exact ⟨rfl,rfl⟩

private theorem donePayload_told {accumulated : Update Body} {text : Text} (ready : strip text ≠ [])
    (intent : accumulated.intent = some "handoff".toList) (answer : accumulated.answer = some text)
    (sid : Text) :
    (donePayload accumulated sid).intent = "handoff".toList ∧ (donePayload accumulated sid).answer = text := by
  have filled : "handoff".toList ≠ [] := by decide
  unfold donePayload
  rw [intent,answer]
  dsimp only [Option.getD_some]
  rw [if_neg (fun blank => ready blank.1)]
  exact ⟨orElse_of_ne filled,rfl⟩

private theorem handedOver_leaf {node : Node} (leaf : ∀ after : CSState Body, successor after node = some .respond)
    (hands : HandsOff outside ((graph outside).visit state node)) :
    HandedOver outside state ((graph outside).walk state node) := by
  obtain ⟨abort,failed,walked⟩ | ⟨update,ran,walked⟩ := @walk_leaf _ _ _ _ outside state _ leaf
  · rw [walked]
    have stopped : ¬∀ visit ∈ [(graph outside).visit state node], ∃ update, visit.result = .ok update := by
      intro ok
      obtain ⟨update,done⟩ := ok _ (List.mem_singleton_self _)
      cases failed.symm.trans done
    refine ⟨⟨[],(graph outside).visit state node,[],rfl,hands,?_⟩,fun ok => absurd ok stopped,
      fun ok => absurd ok stopped⟩
    exact fun later listed => absurd listed List.not_mem_nil
  · rw [walked]
    have saved : withMemory outside state (handoffState handoffText) = .ok update :=
      Eq.trans (Eq.symm hands) ran
    obtain rfl := withMemory_ok saved
    have last (ok : ∀ visit ∈ [(graph outside).visit state node,
        (graph outside).visit (state.apply outside.addMessages (handoffState handoffText)) .respond],
        ∃ update, visit.result = .ok update) :
        ∃ update, respondNode outside (state.apply outside.addMessages (handoffState handoffText)) =
          .ok update := ok _ (List.mem_cons_of_mem _ (List.mem_singleton_self _))
    refine ⟨⟨[],(graph outside).visit state node,
      [(graph outside).visit (state.apply outside.addMessages (handoffState handoffText)) .respond],
      rfl,hands,?_⟩,fun ok => ?_,fun ok sid accumulated => ?_⟩
    · intro later listed
      rw [List.mem_singleton.mp listed]
      rfl
    · obtain ⟨update,done⟩ := last ok
      rw [final_cons,after_visit ran]
      exact handoff_stays (apply_handoff _).1 done
    · obtain ⟨update,done⟩ := last ok
      obtain ⟨intent,answer⟩ := @merged_handoff _ accumulated update (respond_intent done)
        (respond_answer (apply_handoff _).2 done)
      have said := donePayload_told handoffText_shape.2.1 intent answer sid
      refine ⟨_,?_,said⟩
      rw [@streamEvents_ok _ _ _ ((graph outside).visit state node) _ ran,
        @streamEvents_ok _ _ _ ((graph outside).visit _ .respond) _ done,List.getLast?_append,
        List.getLast?_append]
      rfl

private theorem walk_hands_off_leaf {node : Node}
    (leaf : ∀ after : CSState Body, successor after node = some .respond)
    (kept : wires.TurnKept outside ((graph (wires.outside outside)).walk state node))
    (too : Reached wires.settings
      (wires.turnFailures outside ((graph (wires.outside outside)).walk state node))) :
    HandedOver (wires.outside outside) state ((graph (wires.outside outside)).walk state node) := by
  have here : wires.turnFailures outside ((graph (wires.outside outside)).walk state node) =
      wires.nodeFailures outside state node := by
    obtain ⟨_,_,walked⟩ | ⟨_,_,walked⟩ := @walk_leaf _ _ _ _ (wires.outside outside) state _ leaf
    · rw [walked]
      exact turnFailures_one _
    · rw [walked]
      exact List.append_nil _
  rw [here] at too
  have first : (graph (wires.outside outside)).visit state node ∈
      (graph (wires.outside outside)).walk state node := List.mem_cons_self
  exact handedOver_leaf leaf (node_hands_off (kept _ first) too).2

private theorem walk_hands_off_rag (course : OnCourse state)
    (kept : wires.TurnKept outside ((graph (wires.outside outside)).walk state .rag))
    (too : Reached wires.settings
      (wires.turnFailures outside ((graph (wires.outside outside)).walk state .rag))) :
    HandedOver (wires.outside outside) state ((graph (wires.outside outside)).walk state .rag) := by
  have first : (graph (wires.outside outside)).visit state .rag ∈
      (graph (wires.outside outside)).walk state .rag := List.mem_cons_self
  have below := ragNode_below (kept _ first)
  cases ran : runNode (wires.outside outside) state .rag with
  | error abort =>
    rw [walk_of_error ran,turnFailures_one] at too
    exact absurd too below
  | ok update =>
    obtain ⟨edge,upgraded⟩ | edge := rag_edge course ran
    · have quiet : wires.nodeFailures outside state .rag = [] := by
        have same : ragUpgrade (identityView outside.defaultTenant state).query (routeView state).orderNo
          (ragQuery outside state) = some update := upgraded
        simp only [Wires.nodeFailures,same]
      rw [walk_follows ran edge] at kept too ⊢
      rw [turnFailures_cons] at too
      change Reached _ (wires.nodeFailures outside state .rag ++ _) at too
      rw [quiet,List.nil_append] at too
      apply HandedOver.cons ran
      exact walk_hands_off_leaf (fun _ => rfl) (List.forall_mem_cons.mp kept).2 too
    · rw [walk_follows ran edge,walk_respond,turnFailures_cons,turnFailures_one] at too
      change Reached _ (wires.nodeFailures outside state .rag ++ []) at too
      rw [List.append_nil] at too
      exact absurd too below

private theorem walk_hands_off_routed (fresh : state.route.ragUpgradedToSupervisor = false)
    (kept : wires.TurnKept outside ((graph (wires.outside outside)).walk state (afterRouter state)))
    (too : Reached wires.settings
      (wires.turnFailures outside ((graph (wires.outside outside)).walk state (afterRouter state)))) :
    HandedOver (wires.outside outside) state
      ((graph (wires.outside outside)).walk state (afterRouter state)) := by
  have course := on_course_of_edge fresh
  have routed : ∃ dest, afterRouter state = GraphNode.node dest := ⟨_,rfl⟩
  obtain ⟨dest,routed⟩ := routed
  rw [routed] at kept too course ⊢
  cases dest with
  | rag => exact walk_hands_off_rag (course rfl) kept too
  | tool => exact walk_hands_off_leaf (fun _ => rfl) kept too
  | supervisor => exact walk_hands_off_leaf (fun _ => rfl) kept too
  | chitchat => exact walk_hands_off_leaf (fun _ => rfl) kept too
  | handoff => exact walk_hands_off_leaf (fun _ => rfl) kept too
  | respond =>
    change Reached _ (wires.turnFailures outside
      ((graph (wires.outside outside)).walk state .respond)) at too
    rw [walk_respond,turnFailures_one] at too
    exact absurd too not_reached_nil

private theorem walk_hands_off_router (fresh : state.route.ragUpgradedToSupervisor = false)
    (kept : wires.TurnKept outside ((graph (wires.outside outside)).walk state .router))
    (too : Reached wires.settings
      (wires.turnFailures outside ((graph (wires.outside outside)).walk state .router))) :
    HandedOver (wires.outside outside) state ((graph (wires.outside outside)).walk state .router) := by
  cases ran : runNode (wires.outside outside) state .router with
  | error abort =>
    rw [walk_of_error ran,turnFailures_one] at too
    exact absurd too not_reached_nil
  | ok update =>
    have fresh' : (state.apply outside.addMessages update).route.ragUpgradedToSupervisor = false := by
      change update.ragUpgradedToSupervisor.getD state.route.ragUpgradedToSupervisor = false
      rw [router_flag ran]
      exact fresh
    rw [walk_follows ran rfl] at kept too ⊢
    exact HandedOver.cons ran (walk_hands_off_routed fresh' (List.forall_mem_cons.mp kept).2 too)

/-- The failures of a turn that are too many for one tool and resource end it as a hand-off. -/
theorem turn_hands_off (kept : wires.TurnKept outside (visits (wires.outside outside) state))
    (too : Reached wires.settings
      (wires.turnFailures outside (visits (wires.outside outside) state))) :
    HandedOver (wires.outside outside) state (visits (wires.outside outside) state) := by
  have ran : runNode (wires.outside outside) state .security =
    .ok (securityNode (wires.outside outside) state) := rfl
  have fresh := @security_flag _ _ (wires.outside outside) state
  unfold visits at kept too ⊢
  rw [walk_follows ran rfl] at kept too ⊢
  exact HandedOver.cons ran (walk_hands_off_router fresh (List.forall_mem_cons.mp kept).2 too)

end

/-! ### A model that goes down -/

def emptyHost (session : SessionToolCacheState Unit) : Host Unit :=
  ⟨⟨false,600,600⟩,⟨fun _ => 0⟩,⟨[],List.nodup_nil⟩,⟨"demo".toList,"anonymous".toList⟩,session,∅,0⟩

def emptyCourseHost (session : SessionToolCacheState Unit) : CourseHost Unit :=
  ⟨⟨false,600,600⟩,⟨"demo".toList,"anonymous".toList⟩,session,∅,0,id⟩

/-- The documents found name no course, and the rules tell of one all the same. -/
def unreachable {Answer : Type} : Consulted Unit Answer :=
  .modelRaises (.other "APIConnectionError".toList "Connection error.".toList)
    [⟨"guide.md".toList,[],[],"零基础也能学。".toList⟩]
    ⟨"相关课程".toList,"零基础也能学。".toList,[],()⟩

/-- The model asks for a search and is down from then on. -/
def outageWires : Wires Unit where
  settings := defaultSettings
  orderHost := emptyHost
  fate := fun _ => .runs none
  courseHost := emptyCourseHost
  consult := fun _ => unreachable
  stream := fun _ => unreachable
  react := fun args =>
    let host := emptyCourseHost emptySession
    let offline : Offline Unit := ⟨emptyHost emptySession,.runs none,host,unreachable⟩
    let down : Failure := .other "APIConnectionError".toList "Connection error.".toList
    { llmEnabled := true
      calls := [.course args.query (fun _ => (host,unreachable))]
      ends := .raises down
      again := ⟨[],.error down,offline⟩
      offline := offline }

def mixingOutside : Outside Int Unit :=
  { bareOutside with
    reply := fun _ _ _ => .answered
      (decisionOf .mixed "llm-intent" (.number (9/10)) none none false none) }

private theorem withMemory_bare (outside : Outside Int Unit) (state : CSState Unit) (updates : Update Unit)
    (saves : ∀ tenantId userId args, outside.saveUserMemory tenantId userId args = .ok ()) :
    withMemory outside state updates = .ok updates := by
  unfold withMemory
  dsimp only
  split
  · rw [saves]
    rfl
  · rfl

theorem outage_not_handed_over :
    ¬∀ (wires : Wires Unit) (outside : Outside Int Unit) (state : CSState Unit),
      Reached wires.settings (wires.turnFailures outside (visits (wires.outside outside) state)) →
        HandedOver (wires.outside outside) state (visits (wires.outside outside) state) := by
  intro law
  have often : 2 ≤ (outageWires.turnFailures mixingOutside (visits (outageWires.outside mixingOutside)
      (freshTurn "anonymous" "帮我看看这个吧"))).count
        (trackerKey TOOL_COURSE "q:帮我看看这个吧".toList) := by decide +kernel
  obtain ⟨before,visit,after,split,hands,_⟩ :=
    (law outageWires mixingOutside (freshTurn "anonymous" "帮我看看这个吧") ⟨rfl,_,often⟩).handed
  have none' : ∀ visit ∈ visits (outageWires.outside mixingOutside) (freshTurn "anonymous" "帮我看看这个吧"),
      visit.result.toOption.bind Update.intent ≠ some "handoff".toList := by decide +kernel
  refine none' visit (split ▸ List.mem_append_right _ List.mem_cons_self) ?_
  have same := Eq.trans hands (withMemory_bare _ visit.before (handoffState handoffText) (fun _ _ _ => rfl))
  rw [same]
  rfl

/-- An order that is busy, where one failure is too many. -/
def busyWires : Wires Unit :=
  { outageWires with
    settings := ⟨true,1,Nat.le_refl _⟩
    fate := fun _ => .busy "订单查询繁忙".toList }

theorem busy_order_hands_off :
    HandedOver (busyWires.outside bareOutside) (freshTurn "anonymous" "查询订单20251114001的进度")
      (visits (busyWires.outside bareOutside) (freshTurn "anonymous" "查询订单20251114001的进度")) := by
  apply turn_hands_off
  · intro visit listed
    have node : ∀ visit ∈ visits (busyWires.outside bareOutside)
        (freshTurn "anonymous" "查询订单20251114001的进度"), visit.node ≠ .rag ∧ visit.node ≠ .supervisor := by
      decide +kernel
    have here := node visit listed
    cases at' : visit.node with
    | rag => exact absurd at' here.1
    | supervisor => exact absurd at' here.2
    | _ => trivial
  · have often : 1 ≤ (busyWires.turnFailures bareOutside (visits (busyWires.outside bareOutside)
        (freshTurn "anonymous" "查询订单20251114001的进度"))).count
          (trackerKey TOOL_ORDER "20251114001".toList) := by decide +kernel
    exact ⟨rfl,_,often⟩

end CustomerService.EscalatedTurns
