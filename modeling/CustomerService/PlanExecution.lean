import CustomerService.Supervisor
import Mathlib.Data.List.Sort

/-! How a plan is executed, seen from its steps: which of them run, with what they are given, and
what the answer takes of their results. -/
namespace CustomerService.PlanExecution
open Text OrderAccess OrderReport ToolCache Routing Supervisor

variable {Body : Type}

/-! ### Course codes -/

/-- `resolve_course_code`, with the rows of the catalog of a tenant. -/
def resolveCourseCode (catalog : Text → List ((Text × Text) × Text)) (tenantId : Text)
    (code name : Option Text) : Option Text :=
  let strippedCode := strip (code.getD [])
  if strippedCode ≠ [] then some strippedCode
  else
    let strippedName := strip (name.getD [])
    if strippedName = [] then none
    else ((catalog tenantId).find? (fun row => row.1.1 == tenantId && row.2 == strippedName)).map
      (fun row => row.1.2)

def withCatalog (tools : Tools Body) (catalog : Text → List ((Text × Text) × Text)) : Tools Body :=
  { tools with
    resolveCourseCode := fun tenantId name => resolveCourseCode catalog tenantId none name }

/-! ### Traces -/

/-- A step that is run: what it is given, and what comes of it. -/
structure StepRun (Body : Type) where
  step : PlanStep
  context : ExecutionContext
  observations : Observations Body
  result : Except Abort (StepResult Body)

def StepRun.text (ran : StepRun Body) : Option Text := ran.result.toOption.bind StepResult.text

def StepRun.escalates (ran : StepRun Body) : Bool := ran.result.toOption.any StepResult.escalated

/-- The texts that are not empty, in the order of the steps. -/
def texts (ran : List (StepRun Body)) : List Text :=
  ran.filterMap (fun one => one.text.filter (fun text => text ≠ []))

section
variable (tools : Tools Body) (session : SessionToolCacheState Body)

def stepRun (context : ExecutionContext) (observations : Observations Body) (step : PlanStep) :
    StepRun Body :=
  ⟨step,context,observations,runStep tools session step context observations⟩

/-- What the capability of a course step is called with; none where the step is skipped. -/
def StepRun.course (ran : StepRun Body) : Option CourseArgs :=
  bindCourse tools ran.step ran.context ran.observations

/-- The steps that `_execute_plan` runs, group by group. All steps of a group are started. -/
def trace (context : Option Text → ExecutionContext) (run : Execution Body) :
    List (List PlanStep) → List (List (StepRun Body))
  | [] => []
  | steps :: rest =>
    steps.map (stepRun tools session (context run.boundCourse) run.observations) ::
      match steps.mapM (fun step => runStep tools session step (context run.boundCourse) run.observations) with
      | .error _ => []
      | .ok results =>
        match run.absorb results with
        | (_,some _) => []
        | (seen,none) => trace context seen rest

def begun (plan : SupervisorPlan) : Execution Body := ⟨[],{},{},plan.boundCourseName⟩

def executePlan (args : SupervisorArgs Body) (plan : SupervisorPlan) : Except Abort (Executed Body) :=
  executeGroups tools session (executionContext args) (begun plan) plan.groups

def planTrace (args : SupervisorArgs Body) (plan : SupervisorPlan) : List (List (StepRun Body)) :=
  trace tools session (executionContext args) (begun plan) plan.groups

/-! ### Order of the steps -/

private theorem trace_steps (context : Option Text → ExecutionContext) (run : Execution Body)
    (groups : List (List PlanStep)) :
    (trace tools session context run groups).map (List.map StepRun.step) <+: groups := by
  induction groups generalizing run with
  | nil => exact List.prefix_refl _
  | cons steps rest ih =>
    have here : (steps.map (stepRun tools session (context run.boundCourse) run.observations)).map
        StepRun.step = steps := by
      rw [List.map_map]
      exact List.map_id steps
    rw [trace,List.map_cons,here,List.prefix_cons_inj]
    split
    · exact List.nil_prefix
    · split
      · exact List.nil_prefix
      · exact ih _

end

private theorem groups_ascending (plan : SupervisorPlan) :
    plan.groups.Pairwise (fun first second =>
      ∀ one ∈ first, ∀ two ∈ second, one.parallelGroup < two.parallelGroup) := by
  unfold SupervisorPlan.groups
  generalize listed : (plan.steps.map PlanStep.parallelGroup).dedup = numbers
  have sorted := @List.pairwise_mergeSort _ (fun first second : Nat => decide (first ≤ second))
    (fun _ _ _ one two => by simp at one two ⊢; omega) (fun _ _ => by simp; omega) numbers
  have distinct : (numbers.mergeSort (fun first second => decide (first ≤ second))).Nodup :=
    (List.mergeSort_perm _ _).nodup_iff.mpr (listed ▸ List.nodup_dedup _)
  rw [List.pairwise_map]
  refine (sorted.and distinct).imp (fun both one inside two inside' => ?_)
  have first := of_decide_eq_true (List.mem_filter.mp inside).2
  have second := of_decide_eq_true (List.mem_filter.mp inside').2
  have below := of_decide_eq_true both.1
  have apart := both.2
  omega

/-! ### The shapes of a plan -/

def courseStep (group : Nat) (source : CourseSource) : PlanStep := ⟨.courseRetrieve,group,some source⟩

inductive Shape : List (List PlanStep) → List PlanStep → Prop
  | nothing : Shape [] []
  | parallel : Shape [[orderStep,courseStep 0 .bound]] [orderStep,courseStep 0 .bound]
  | serial : Shape [[orderStep],[courseStep 1 .fromOrderProduct]]
      [orderStep,courseStep 1 .fromOrderProduct]
  | order : Shape [[orderStep]] [orderStep]
  | course : Shape [[courseStep 0 .bound]] [courseStep 0 .bound]

private theorem groups_of_sorted (plan : SupervisorPlan) {numbers : List Nat}
    (listed : (plan.steps.map PlanStep.parallelGroup).dedup = numbers)
    (sorted : numbers.Pairwise (fun first second => decide (first ≤ second) = true)) :
    plan.groups = numbers.map
      (fun group => plan.steps.filter (fun step => decide (step.parallelGroup = group))) := by
  unfold SupervisorPlan.groups
  rw [listed,List.mergeSort_of_pairwise sorted]

private theorem shape_of_steps (plan : SupervisorPlan)
    (planned : plan.steps = [] ∨ plan.steps = [orderStep,courseStep 0 .bound] ∨
      plan.steps = [orderStep,courseStep 1 .fromOrderProduct] ∨ plan.steps = [orderStep] ∨
      plan.steps = [courseStep 0 .bound]) : Shape plan.groups plan.steps := by
  rcases planned with steps | steps | steps | steps | steps
  · rw [@groups_of_sorted plan [] (by rw [steps]; decide) List.Pairwise.nil,steps]
    exact .nothing
  · rw [groups_of_sorted plan (by rw [steps]; decide) (List.pairwise_singleton _ 0),steps]
    exact .parallel
  · rw [@groups_of_sorted plan [0,1] (by rw [steps]; decide) (by decide),steps]
    exact .serial
  · rw [groups_of_sorted plan (by rw [steps]; decide) (List.pairwise_singleton _ 0),steps]
    exact .order
  · rw [groups_of_sorted plan (by rw [steps]; decide) (List.pairwise_singleton _ 0),steps]
    exact .course

theorem plan_shape (args : SupervisorArgs Body) : Shape args.plan.groups args.plan.steps := by
  apply shape_of_steps
  unfold SupervisorArgs.plan planSupervisor
  split
  · exact Or.inl rfl
  dsimp only
  split
  · exact Or.inr (Or.inl rfl)
  split
  · exact Or.inr (Or.inr (Or.inl rfl))
  split
  · exact Or.inr (Or.inr (Or.inr (Or.inl rfl)))
  split
  · exact Or.inr (Or.inr (Or.inr (Or.inr rfl)))
  · exact Or.inl rfl

theorem Shape.flatten {groups : List (List PlanStep)} {steps : List PlanStep} (shape : Shape groups steps) :
    groups.flatten = steps ∧ steps.Nodup := by
  cases shape with
  | nothing => exact ⟨rfl,List.nodup_nil⟩
  | parallel => exact ⟨rfl,by decide⟩
  | serial => exact ⟨rfl,by decide⟩
  | order => exact ⟨rfl,List.nodup_singleton _⟩
  | course => exact ⟨rfl,List.nodup_singleton _⟩

/-! ### Results -/

private theorem mapM_ok {Item Result : Type} {items : List Item} {f : Item → Except Abort Result}
    {results : List Result} (ran : items.mapM f = .ok results) :
    items.map f = results.map Except.ok := by
  induction items generalizing results with
  | nil =>
    obtain rfl := Except.ok.inj ran
    rfl
  | cons item rest ih =>
    rw [List.mapM_cons] at ran
    cases first : f item with
    | error abort =>
      rw [first] at ran
      cases ran
    | ok result =>
      cases later : rest.mapM f with
      | error abort =>
        rw [first,later] at ran
        cases ran
      | ok others =>
        rw [first,later] at ran
        obtain rfl := Except.ok.inj ran
        rw [List.map_cons,List.map_cons,first,ih later]

def solidText (result : StepResult Body) : Option Text := result.text.filter (fun text => text ≠ [])

private theorem absorb_escalates (run : Execution Body) (results : List (StepResult Body)) :
    (run.absorb results).2 = (results.find? StepResult.escalated).map
      (fun result => orElse result.text (buildHandoffAnswer true none)) := by
  induction results generalizing run with
  | nil => rfl
  | cons result rest ih =>
    rw [Execution.absorb]
    dsimp only
    split
    · rename_i escalated
      rw [List.find?_cons_of_pos escalated]
      rfl
    · rename_i answered
      rw [List.find?_cons_of_neg answered]
      exact ih _

private theorem absorb_parts (run : Execution Body) {results : List (StepResult Body)}
    (answered : results.find? StepResult.escalated = none) :
    (run.absorb results).1.parts = run.parts ++ results.filterMap solidText := by
  induction results generalizing run with
  | nil => exact (List.append_nil _).symm
  | cons result rest ih =>
    rw [List.find?_eq_none] at answered
    obtain ⟨here,later⟩ := List.forall_mem_cons.mp answered
    rw [Execution.absorb]
    dsimp only
    rw [if_neg here,ih _ (List.find?_eq_none.mpr later)]
    cases said : solidText result with
    | none =>
      rw [List.filterMap_cons_none said]
      change run.parts ++ (solidText result).toList ++ _ = _
      rw [said,Option.toList_none,List.append_nil]
    | some text =>
      rw [List.filterMap_cons_some said]
      change run.parts ++ (solidText result).toList ++ _ = _
      rw [said,Option.toList_some,List.append_assoc,List.singleton_append]

/-- The answer of a plan: that of the first step that escalates, or else the texts one below
another. -/
def answerOf (parts : List Text) (ran : List (StepRun Body)) : Text :=
  match ran.find? StepRun.escalates with
  | some one => orElse one.text (buildHandoffAnswer true none)
  | none => orElse (some ("\n\n".toList.intercalate (parts ++ texts ran))) "暂时无法处理该问题。".toList

private theorem found_of_results {ran : List (StepRun Body)} {results : List (StepResult Body)}
    (same : ran.map StepRun.result = results.map Except.ok) :
    (ran.find? StepRun.escalates).map StepRun.text = (results.find? StepResult.escalated).map StepResult.text ∧
      texts ran = results.filterMap solidText ∧
      ran.any StepRun.escalates = results.any StepResult.escalated := by
  induction ran generalizing results with
  | nil =>
    obtain rfl := List.map_eq_nil_iff.mp same.symm
    exact ⟨rfl,rfl,rfl⟩
  | cons one rest ih =>
    cases results with
    | nil => cases same
    | cons result others =>
      obtain ⟨here,later⟩ := List.cons.inj same
      obtain ⟨found,said,some'⟩ := ih later
      have escalates : one.escalates = result.escalated := by
        unfold StepRun.escalates
        rw [here]
        rfl
      have text : one.text = result.text := by
        unfold StepRun.text
        rw [here]
        rfl
      refine ⟨?_,?_,?_⟩
      · cases stops : result.escalated with
        | true =>
          rw [List.find?_cons_of_pos (escalates.trans stops),List.find?_cons_of_pos stops]
          exact congrArg some text
        | false =>
          rw [List.find?_cons_of_neg (by simp [escalates,stops]),List.find?_cons_of_neg (by simp [stops])]
          exact found
      · unfold texts at said ⊢
        rw [List.filterMap_cons,List.filterMap_cons,said,text]
        rfl
      · rw [List.any_cons,List.any_cons,escalates,some']

private theorem answerOf_escalated {parts : List Text} {ran : List (StepRun Body)}
    {results : List (StepResult Body)} (same : ran.map StepRun.result = results.map Except.ok)
    {result : StepResult Body} (stops : results.find? StepResult.escalated = some result) :
    answerOf parts ran = orElse result.text (buildHandoffAnswer true none) := by
  obtain ⟨found,_,_⟩ := found_of_results same
  rw [stops] at found
  obtain ⟨one,first,text⟩ := Option.map_eq_some_iff.mp found
  unfold answerOf
  rw [first]
  exact congrArg (orElse · (buildHandoffAnswer true none)) text

private theorem answerOf_append {parts : List Text} {first : List (StepRun Body)} (later : List (StepRun Body))
    (answered : first.find? StepRun.escalates = none) :
    answerOf parts (first ++ later) = answerOf (parts ++ texts first) later := by
  unfold answerOf texts
  rw [List.find?_append,answered,Option.none_or,List.filterMap_append,List.append_assoc]

section
variable {tools : Tools Body} {session : SessionToolCacheState Body}
  {context : Option Text → ExecutionContext}

/-- The answer of the groups from one on, and whether they escalate, by the steps that are run. -/
theorem executeGroups_answer {run : Execution Body} {groups : List (List PlanStep)}
    {executed : Executed Body} (ended : executeGroups tools session context run groups = .ok executed) :
    executed.answer = answerOf run.parts (trace tools session context run groups).flatten ∧
      executed.escalated = (trace tools session context run groups).flatten.any StepRun.escalates := by
  induction groups generalizing run with
  | nil =>
    obtain rfl := Except.ok.inj ended
    unfold answerOf trace texts
    simp
  | cons steps rest ih =>
    unfold executeGroups at ended
    unfold trace
    cases ran : steps.mapM (fun step =>
        runStep tools session step (context run.boundCourse) run.observations) with
    | error abort =>
      rw [ran] at ended
      cases ended
    | ok results =>
      rw [ran] at ended
      dsimp only at ended ⊢
      have same : (steps.map (stepRun tools session (context run.boundCourse) run.observations)).map
          StepRun.result = results.map Except.ok := by
        rw [← mapM_ok ran,List.map_map]
        rfl
      obtain ⟨found,said,any⟩ := found_of_results same
      have outcome := absorb_escalates run results
      have parts := @absorb_parts _ run results
      change (match run.absorb results with
        | (seen,some text) => Except.ok (Executed.mk text run.boundCourse seen.cacheUpdates true)
        | (seen,none) => executeGroups tools session context seen rest) = .ok executed at ended
      generalize run.absorb results = absorbed at ended outcome parts ⊢
      obtain ⟨seen,stopped⟩ := absorbed
      cases stops : results.find? StepResult.escalated with
      | some result =>
        rw [stops] at outcome
        obtain rfl : stopped = _ := outcome
        obtain rfl := Except.ok.inj ended
        dsimp only [Option.map_some]
        rw [List.flatten_singleton,answerOf_escalated same stops,any]
        refine ⟨rfl,Eq.symm ?_⟩
        exact List.any_eq_true.mpr ⟨result,List.mem_of_find?_eq_some stops,List.find?_some stops⟩
      | none =>
        rw [stops] at outcome found
        obtain rfl : stopped = none := outcome
        dsimp only at ended ⊢
        obtain ⟨answer,escalated⟩ := ih ended
        have quiet : (steps.map (stepRun tools session (context run.boundCourse)
            run.observations)).find? StepRun.escalates = none := Option.map_eq_none_iff.mp found
        rw [List.flatten_cons,answerOf_append _ quiet,said,List.any_append,any]
        have parts : seen.parts = _ := parts stops
        rw [← parts]
        refine ⟨answer,?_⟩
        have none' : results.any StepResult.escalated = false :=
          List.any_eq_false.mpr (List.find?_eq_none.mp stops)
        rw [none',Bool.false_or]
        exact escalated

end

/-! ### A course from the order -/

/-- What an order step leaves is stripped and not empty. -/
structure Usable (observations : Observations Body) : Prop where
  product : ∀ name, observations.productName = some name → name ≠ [] ∧ strip name = name
  code : ∀ code, observations.courseCode = some code → code ≠ [] ∧ strip code = code

theorem usableProductName_some {report : Report} {name : Text} (usable : usableProductName report = some name) :
    name ≠ [] ∧ strip name = name := by
  unfold usableProductName at usable
  dsimp only at usable
  split at usable
  · cases usable
  · rename_i named
    split at usable
    · cases usable
    · obtain rfl := Option.some.inj usable
      exact ⟨fun blank => named (Or.inl blank),strip_of_tight (tight_strip _)⟩

theorem usableCourseCode_some {report : Report} {code : Text} (usable : usableCourseCode report = some code) :
    code ≠ [] ∧ strip code = code := by
  unfold usableCourseCode at usable
  dsimp only at usable
  split at usable
  · cases usable
  · rename_i coded
    split at usable
    · cases usable
    · split at usable
      · cases usable
      · obtain rfl := Option.some.inj usable
        exact ⟨coded,strip_of_tight (tight_strip _)⟩

private theorem invokeOrder_usable {tools : Tools Body} {session : SessionToolCacheState Body}
    {context : ExecutionContext} {result : StepResult Body}
    (ran : invokeOrder tools session context = .ok result) : Usable result.observations := by
  unfold invokeOrder at ran
  split at ran
  · obtain rfl := Except.ok.inj ran
    exact ⟨nofun,nofun⟩
  · obtain rfl := Except.ok.inj ran
    exact ⟨nofun,nofun⟩
  · obtain rfl := Except.ok.inj ran
    exact ⟨nofun,nofun⟩
  · cases ran
  · obtain rfl := Except.ok.inj ran
    exact ⟨fun _ => usableProductName_some,fun _ => usableCourseCode_some⟩

def SearchedBy (observations : Observations Body) (args : CourseArgs) : Prop :=
  (∃ name, observations.productName = some name ∧ args.query = name) ∨
    (observations.productName = none ∧
      ∃ code, observations.courseCode = some code ∧ args.query = code ∧ args.courseCode = some code)

private theorem orElse_solid {text : Text} (solid : text ≠ []) (fallback : Text) :
    orElse (some text) fallback = text := by
  unfold orElse
  split
  · contradiction
  · rename_i blank
    exact absurd (Option.some.inj blank) solid
  · rename_i same
    exact (Option.some.inj same).symm

private theorem bind_from_order {tools : Tools Body} {catalog : Text → List ((Text × Text) × Text)}
    {step : PlanStep} {context : ExecutionContext} {observations : Observations Body} {args : CourseArgs}
    (usable : Usable observations) (source : step.courseSource = some .fromOrderProduct)
    (bound : bindCourse (withCatalog tools catalog) step context observations = some args) :
    SearchedBy observations args := by
  have query : courseSearchQuery step context observations =
      orElse (some (strip (observations.productName.getD [])))
        (strip (observations.courseCode.getD [])) := if_pos source
  unfold bindCourse at bound
  dsimp only at bound
  rw [if_pos source,query] at bound
  cases product : observations.productName with
  | some name =>
    left
    obtain ⟨solid,tight⟩ := usable.product name product
    rw [product,Option.getD_some,tight,orElse_solid solid,orElse_solid solid,if_neg solid] at bound
    exact ⟨name,product,(Option.some.inj bound ▸ rfl : args.query = name)⟩
  | none =>
    right
    refine ⟨product,?_⟩
    cases coded : observations.courseCode with
    | some code =>
      obtain ⟨solid,tight⟩ := usable.code code coded
      have own : boundCourseCode (withCatalog tools catalog) context observations step = code := by
        unfold boundCourseCode
        rw [coded,Option.getD_some,tight,if_pos solid]
      have blank : orElse (some (strip (Option.getD none []))) code = code := rfl
      rw [own,product,coded,Option.getD_some,tight,blank,orElse_solid solid,if_neg solid,
        if_neg solid] at bound
      obtain rfl := Option.some.inj bound
      exact ⟨code,rfl,rfl,rfl⟩
    | none =>
      have none' : boundCourseCode (withCatalog tools catalog) context observations step = [] := by
        unfold boundCourseCode
        rw [coded,product]
        dsimp only
        rw [if_neg (by decide),if_neg (not_not.mpr source)]
        rfl
      rw [none',product,coded] at bound
      cases bound

/-- A step that is called with the arguments comes after an order step whose result it searches. -/
def FedBy (ran : List (StepRun Body)) (one : StepRun Body) (args : CourseArgs) : Prop :=
  ∃ before after order result, ran = before ++ one :: after ∧ order ∈ before ∧
    order.step.capability = .orderQuery ∧ order.result = .ok result ∧
    SearchedBy result.observations args

section
variable {tools : Tools Body} {session : SessionToolCacheState Body}

private theorem update_blank (observations : Observations Body) :
    ({} : Observations Body).update observations = observations := by
  simp [Observations.update]

theorem runStep_order {context : ExecutionContext} {result : StepResult Body}
    (ran : runStep tools session orderStep context {} = .ok result) : Usable result.observations := by
  unfold runStep at ran
  dsimp only [orderStep] at ran
  cases invoked : invokeOrder tools session context with
  | error abort =>
    rw [invoked] at ran
    cases ran
  | ok found =>
    rw [invoked] at ran
    obtain rfl := Except.ok.inj ran
    dsimp only
    rw [update_blank]
    exact invokeOrder_usable invoked

private theorem trace_last (context : Option Text → ExecutionContext) (run : Execution Body)
    (steps : List PlanStep) : trace tools session context run [steps] =
      [steps.map (stepRun tools session (context run.boundCourse) run.observations)] := by
  unfold trace
  congr 1
  split
  · rfl
  · split <;> rfl

private theorem serial_trace {context : Option Text → ExecutionContext} {bound : Option Text}
    {one : StepRun Body}
    (listed : one ∈ (trace tools session context ⟨[],{},{},bound⟩
      [[orderStep],[courseStep 1 .fromOrderProduct]]).flatten)
    (source : one.step.courseSource = some .fromOrderProduct) :
    ∃ order result, (trace tools session context ⟨[],{},{},bound⟩
        [[orderStep],[courseStep 1 .fromOrderProduct]]).flatten = [order,one] ∧
      order.step = orderStep ∧ order.result = .ok result ∧ Usable result.observations ∧
      one.observations = result.observations := by
  have alone : ∀ {ran : List (StepRun Body)}, ran = [stepRun tools session (context bound) {} orderStep] →
      one ∈ ran → False := by
    rintro ran rfl member
    rw [List.mem_singleton.mp member] at source
    cases source
  unfold trace at listed ⊢
  cases first : runStep tools session orderStep (context bound) {} with
  | error abort =>
    have failed : [orderStep].mapM (fun step => runStep tools session step (context bound) {}) =
        .error abort := by
      rw [List.mapM_cons,first]
      rfl
    rw [failed] at listed
    exact (alone rfl listed).elim
  | ok result =>
    have done : [orderStep].mapM (fun step => runStep tools session step (context bound) {}) =
        .ok [result] := by
      rw [List.mapM_cons,first]
      rfl
    rw [done] at listed ⊢
    dsimp only at listed ⊢
    cases stops : result.escalated with
    | true =>
      rw [Execution.absorb,if_pos stops] at listed
      exact (alone rfl listed).elim
    | false =>
      rw [Execution.absorb,if_neg (by simp [stops]),Execution.absorb] at listed ⊢
      dsimp only at listed ⊢
      rw [trace_last,update_blank] at listed ⊢
      refine ⟨stepRun tools session (context bound) {} orderStep,result,?_,rfl,first,
        runStep_order first,?_⟩
      · rcases List.mem_append.mp listed with order | course
        · exact (alone rfl order).elim
        · rw [List.mem_singleton.mp course]
          rfl
      · rcases List.mem_append.mp listed with order | course
        · exact (alone rfl order).elim
        · rw [List.mem_singleton.mp course]
          rfl

end

/-! ### Plans and decisions -/

/-- The steps of a plan that are run: group after group, each once, in the order of the plan, and a
course step bound to the product of the order only behind the order step. -/
structure Executes (tools : Tools Body) (plan : SupervisorPlan) (ran : List (List (StepRun Body))) :
    Prop where
  groups : ran.map (List.map StepRun.step) <+: plan.groups
  ascending : plan.groups.Pairwise (fun first second =>
    ∀ one ∈ first, ∀ two ∈ second, one.parallelGroup < two.parallelGroup)
  planned : ran.flatten.map StepRun.step <+: plan.steps
  once : (ran.flatten.map StepRun.step).Nodup
  fed : ∀ one ∈ ran.flatten, one.step.courseSource = some .fromOrderProduct →
    ∀ args, one.course tools = some args → FedBy ran.flatten one args

private theorem prefix_flatten {Item : Type} {first second : List (List Item)} (inside : first <+: second) :
    first.flatten <+: second.flatten := by
  obtain ⟨rest,rfl⟩ := inside
  rw [List.flatten_append]
  exact List.prefix_append _ _

section
variable (tools : Tools Body) (session : SessionToolCacheState Body)
  (catalog : Text → List ((Text × Text) × Text)) (args : SupervisorArgs Body)

theorem trace_planned : (planTrace tools session args args.plan).flatten.map StepRun.step <+:
    args.plan.steps := by
  have inside := prefix_flatten (trace_steps tools session (executionContext args) (begun args.plan)
    args.plan.groups)
  rw [← List.map_flatten,(plan_shape args).flatten.1] at inside
  exact inside

private theorem trace_fed {one : StepRun Body}
    (listed : one ∈ (planTrace (withCatalog tools catalog) session args args.plan).flatten)
    (source : one.step.courseSource = some .fromOrderProduct) {called : CourseArgs}
    (bound : one.course (withCatalog tools catalog) = some called) :
    FedBy (planTrace (withCatalog tools catalog) session args args.plan).flatten one called := by
  have planned : one.step ∈ args.plan.steps :=
    (trace_planned (withCatalog tools catalog) session args).subset (List.mem_map_of_mem listed)
  have shape := plan_shape args
  unfold planTrace begun at listed ⊢
  generalize args.plan.groups = groups at shape listed ⊢
  generalize args.plan.steps = steps at shape planned
  have other {step : PlanStep} (free : step.courseSource ≠ some .fromOrderProduct)
      (same : one.step = step) : False := free (same ▸ source)
  cases shape with
  | nothing => cases planned
  | parallel =>
    rcases List.mem_cons.mp planned with order | course
    · exact (other (by decide) order).elim
    · exact (other (by decide) (List.mem_singleton.mp course)).elim
  | order => exact (other (by decide) (List.mem_singleton.mp planned)).elim
  | course => exact (other (by decide) (List.mem_singleton.mp planned)).elim
  | serial =>
    obtain ⟨order,result,whole,step,done,usable,seen⟩ := serial_trace listed source
    refine ⟨[order],[],order,result,whole,List.mem_singleton_self order,by rw [step]; rfl,done,?_⟩
    unfold StepRun.course at bound
    rw [seen] at bound
    exact bind_from_order usable source bound

private theorem plan_runs : Executes (withCatalog tools catalog) args.plan
    (planTrace (withCatalog tools catalog) session args args.plan) where
  groups := trace_steps _ _ _ _ _
  ascending := groups_ascending args.plan
  planned := trace_planned _ _ _
  once := (plan_shape args).flatten.2.sublist (trace_planned _ _ _).sublist
  fed := fun _ listed source _ bound => trace_fed tools session catalog args listed source bound

theorem decision_answer {decision : SupervisorDecision Body} (executes : args.plan.action = .execute)
    (decided : runSupervisor tools session args = .ok decision) :
    decision.answer = some (answerOf [] (planTrace tools session args args.plan).flatten) ∧
      ((∃ one ∈ (planTrace tools session args args.plan).flatten, one.escalates = true) →
        decision.finalIntent = .handoff) := by
  unfold runSupervisor at decided
  simp only [executes] at decided
  cases ran : executePlan tools session args args.plan with
  | error abort =>
    unfold executePlan begun at ran
    rw [ran] at decided
    cases decided
  | ok executed =>
    have ended := ran
    unfold executePlan begun at ran
    rw [ran] at decided
    obtain rfl := Except.ok.inj decided
    obtain ⟨answer,escalated⟩ := executeGroups_answer ended
    rw [escalated,answer]
    unfold planTrace
    cases some' : (trace tools session (executionContext args) (begun args.plan)
        args.plan.groups).flatten.any StepRun.escalates with
    | true => exact ⟨rfl,fun _ => rfl⟩
    | false =>
      refine ⟨?_,fun ⟨one,listed,stops⟩ => ?_⟩
      · unfold toSupervisorDecision
        simp [executes]
        rfl
      · rw [List.any_eq_true.mpr ⟨one,listed,stops⟩] at some'
        cases some'

/-- A plan runs each step at most once, the groups in ascending order, and a course step bound to
the order's product only on what the order step has found. When a step escalates the decision is a
hand-off with its text; otherwise the answer is made of the texts of the steps in the order of the
plan. -/
theorem plan_executes :
    Executes (withCatalog tools catalog) args.plan
      (planTrace (withCatalog tools catalog) session args args.plan) ∧
    ∀ decision, args.plan.action = .execute →
      runSupervisor (withCatalog tools catalog) session args = .ok decision →
        decision.answer =
          some (answerOf [] (planTrace (withCatalog tools catalog) session args args.plan).flatten) ∧
        ((∃ one ∈ (planTrace (withCatalog tools catalog) session args args.plan).flatten,
          one.escalates = true) → decision.finalIntent = .handoff) :=
  ⟨plan_runs tools session catalog args,
    fun _ executes decided => decision_answer _ session args executes decided⟩

end

/-! ### An order with an answer beside a course without one -/

def paidReport : Report :=
  ⟨"D1".toList,"Python".toList,[],[],"paid".toList,100,0,[],[],"已支付".toList,none⟩

/-- The order is found, and the search for the course has failed too often. -/
def halfTools : Tools Unit where
  queryOrder := fun _ _ => .ok paidReport
  retrieveCourse := fun _ _ => .error (.escalated (some "已转接".toList))
  resolveCourseCode := fun _ _ => none
  formatCourseAnswer := fun result => result.summary
  streamReact := fun _ => .error .raised
  lower := id
  now := 0

def halfArgs : SupervisorArgs Unit where
  query := "进度和课程".toList
  userId := "u1".toList
  tenantId := "demo".toList
  history := []
  orderNo := some "D1".toList
  courseQuery := none
  lastCourseName := some "Python".toList
  sessionSummary := []
  sessionCache := emptySession
  intent := "mixed".toList
  needsClarification := false
  clarificationQuestion := none

private theorem halfArgs_executes : halfArgs.plan.action = .execute := by decide +kernel

private theorem halfArgs_decided : ∃ decision,
    runSupervisor (withCatalog halfTools (fun _ => [])) emptySession halfArgs = .ok decision := by
  have ends : (runSupervisor (withCatalog halfTools (fun _ => [])) emptySession halfArgs).isOk = true := by
    decide +kernel
  cases decided : runSupervisor (withCatalog halfTools (fun _ => [])) emptySession halfArgs with
  | ok decision => exact ⟨decision,rfl⟩
  | error abort =>
    rw [decided] at ends
    cases ends

theorem plan_executes_half : ∃ decision,
    runSupervisor (withCatalog halfTools (fun _ => [])) emptySession halfArgs = .ok decision ∧
      decision.answer = some (answerOf [] (planTrace (withCatalog halfTools (fun _ => [])) emptySession
        halfArgs halfArgs.plan).flatten) ∧
      ((∃ one ∈ (planTrace (withCatalog halfTools (fun _ => [])) emptySession halfArgs
        halfArgs.plan).flatten, one.escalates = true) → decision.finalIntent = .handoff) := by
  obtain ⟨decision,decided⟩ := halfArgs_decided
  exact ⟨decision,decided,(plan_executes halfTools emptySession (fun _ => []) halfArgs).2 decision
    halfArgs_executes decided⟩

/-- The text of the order is not in the answer. -/
theorem escalation_leaves_text_out :
    ¬∀ (tools : Tools Unit) (session : SessionToolCacheState Unit)
      (catalog : Text → List ((Text × Text) × Text)) (args : SupervisorArgs Unit)
      (decision : SupervisorDecision Unit), args.plan.action = .execute →
        runSupervisor (withCatalog tools catalog) session args = .ok decision →
          decision.answer = some ("\n\n".toList.intercalate
            (texts (planTrace (withCatalog tools catalog) session args args.plan).flatten)) := by
  intro law
  obtain ⟨decision,decided⟩ := halfArgs_decided
  have stated := law halfTools emptySession (fun _ => []) halfArgs decision halfArgs_executes decided
  rw [(decision_answer _ emptySession halfArgs halfArgs_executes decided).1] at stated
  exact absurd stated (by decide +kernel)

end CustomerService.PlanExecution
