import CustomerService.ChatTurns
import CustomerService.FilteredTexts

/-! Which answers of a turn the client is sent unfiltered. The last node filters its answer; the
stream sends the answer of every node as it passes. -/
namespace CustomerService.ChatGraph
open Text OrderAccess OrderReport ToolCache Routing Supervisor NodeGraph OutputFilter
open SummaryFacts (llmUnavailableAnswer blockedAnswer resolveRespondAnswer buildStoredAnswer)

variable {Score Body : Type}

/-! ### The texts of the program -/

theorem filtered_handoff (autoEscalated : Bool) (reason : Option Text) :
    Filtered (buildHandoffAnswer autoEscalated reason) := by
  unfold buildHandoffAnswer
  dsimp only
  split_ifs
  · rw [String.toList_ofList,String.toList_ofList]
    exact Few.filtered (by decide +kernel)
  · rw [String.toList_ofList,String.toList_ofList]
    exact Few.filtered (by decide +kernel)
  · rw [String.toList_ofList,String.toList_ofList]
    exact Few.filtered (by decide +kernel)

private theorem filtered_unavailable : Filtered llmUnavailableAnswer := by
  unfold llmUnavailableAnswer
  rw [String.toList_ofList]
  exact Few.filtered (by decide +kernel)

private theorem filtered_quota : Filtered quotaAnswer := by
  unfold quotaAnswer
  rw [String.toList_ofList]
  exact Few.filtered (by decide +kernel)

private theorem filtered_blocked : Filtered blockedAnswer := by
  unfold blockedAnswer
  rw [String.toList_ofList]
  exact Few.filtered (by decide +kernel)

private theorem filtered_chitchat {answer : Text} (found : (chitchatNode : Update Body).answer = some answer) :
    Filtered answer := by
  obtain rfl := Option.some.inj found
  rw [String.toList_ofList]
  decide +kernel

private theorem filtered_refusal (containsInjection : Text → Bool) (text : Text) :
    Filtered ("请求已被安全中间件拦截：".toList ++ (inspectInput containsInjection text).reason) := by
  unfold inspectInput
  dsimp only
  split_ifs <;> dsimp only
  · rw [String.toList_ofList,String.toList_ofList]
    exact Few.filtered (by decide +kernel)
  · rw [String.toList_ofList,String.toList_ofList]
    exact Few.filtered (by decide +kernel)
  · rw [String.toList_ofList,String.toList_ofList]
    exact Few.filtered (by decide +kernel)
  · rw [String.toList_ofList]
    exact Few.filtered (by decide +kernel)

/-! ### What comes from outside -/

/-- The answer that the course chain, the order tool or the supervisor gives to a node. -/
def spoken (outside : Outside Score Body) (state : CSState Body) : Node → Text
  | .rag =>
    if queryHasOrderSignal (identityView outside.defaultTenant state).query then []
    else
      match outside.streamCourseAnswer (sessionToolCache state) (courseAsk outside state) with
      | .ok streamed => streamed.1
      | .error _ => []
  | .tool =>
    match outside.tools.queryOrder (sessionToolCache state) (toolArgs outside state) with
    | .error (.escalated message) => message.getD []
    | .error (.valueError message) => message
    | .error (.timeoutError message) => message
    | .error (.raises _) => []
    | .ok report => formatOrderAnswer report
  | .supervisor =>
    match runSupervisor outside.tools (sessionToolCache state) (supervisorArgs outside state) with
    | .ok decision => decision.answer.getD []
    | .error _ => []
  | _ => []

section
variable {outside : Outside Score Body} {state : CSState Body} {update : Update Body}

private theorem orElse_cases (value : Option Text) (fallback : Text) :
    (value.getD [] = [] ∧ orElse value fallback = fallback) ∨
      orElse value fallback = value.getD [] := by
  cases value with
  | none => exact Or.inl ⟨rfl,rfl⟩
  | some text =>
    cases text with
    | nil => exact Or.inl ⟨rfl,rfl⟩
    | cons _ _ => exact Or.inr rfl

private theorem toSupervisorDecision_action (plan : SupervisorPlan) (answer orderNo courseQuery : Option Text)
    (cached : CacheUpdates Body) (escalated : Option Text) :
    (toSupervisorDecision plan answer orderNo courseQuery cached escalated).action = plan.action := by
  unfold toSupervisorDecision
  cases escalated with
  | some reason => rfl
  | none =>
    dsimp only
    split
    · rename_i asks
      exact asks.symm
    · rfl

private theorem runSupervisor_asks {tools : Tools Body} {session : SessionToolCacheState Body}
    {args : SupervisorArgs Body} {decision : SupervisorDecision Body}
    (decided : runSupervisor tools session args = .ok decision) (asks : decision.action = .askUser) :
    decision.answer = some (decision.clarificationQuestion.getD []) := by
  unfold runSupervisor at decided
  dsimp only at decided
  split at decided
  · rename_i planned
    obtain rfl := Except.ok.inj decided
    simp only [toSupervisorDecision,planned,if_true]
    rfl
  · rename_i planned
    obtain ⟨answer,_,same⟩ := bind_ok decided
    obtain rfl := Except.ok.inj same
    rw [toSupervisorDecision_action,planned] at asks
    cases asks
  · rename_i planned
    obtain ⟨executed,_,same⟩ := bind_ok decided
    obtain rfl := Except.ok.inj same
    rw [toSupervisorDecision_action,planned] at asks
    cases asks

/-- Of the answer in a node's update: it is a ready one or the one that the node was given, and a
given one is not left out. -/
structure Passes (given : Text) (answer : Option Text) : Prop where
  either : ∀ text, answer = some text → Filtered text ∨ text = given
  sent : given ≠ [] → answer = some given

theorem Passes.ready {answer : Option Text} (filtered : ∀ text, answer = some text → Filtered text) :
    Passes [] answer :=
  ⟨fun text same => Or.inl (filtered text same),fun none' => absurd rfl none'⟩

theorem Passes.given (text : Text) : Passes text (some text) :=
  ⟨fun _ same => Or.inr (Option.some.inj same).symm,fun _ => rfl⟩

theorem Passes.orElse (value : Option Text) {fallback : Text} (ready : Filtered fallback) :
    Passes (value.getD []) (some (OrderAccess.orElse value fallback)) := by
  rcases orElse_cases value fallback with ⟨blank,same⟩ | same
  · rw [blank,same]
    exact .ready (fun text found => Option.some.inj found ▸ ready)
  · rw [same]
    exact .given _

private theorem supervisor_passes (ran : supervisorNode outside state = .ok update) :
    Passes (spoken outside state .supervisor) update.answer := by
  obtain ⟨decision,decided,way⟩ := supervisorNode_cases ran
  simp only [spoken,decided]
  rcases way with ⟨_,_,rfl⟩ | ⟨asks,rfl⟩ | ⟨_,rfl⟩
  · exact .orElse decision.answer (filtered_handoff true (some decision.reason))
  · rw [runSupervisor_asks decided asks]
    cases decision.clarificationQuestion.getD [] with
    | nil => exact .given _
    | cons _ _ => exact .given _
  · exact .given _

private theorem tool_passes (ran : toolNode outside state = .ok update) :
    Passes (spoken outside state .tool) update.answer := by
  rcases toolNode_cases ran with ⟨message,asked,rfl⟩ | ⟨message,asked | asked,rfl⟩ | ⟨report,asked,rfl⟩
  · simp only [spoken,asked]
    exact .orElse message (filtered_handoff true none)
  · simp only [spoken,asked]
    exact .given _
  · simp only [spoken,asked]
    exact .given _
  · simp only [spoken,asked]
    exact .given _

private theorem rag_passes (ran : ragNode outside state = .ok update) :
    Passes (spoken outside state .rag) update.answer := by
  rcases ragNode_cases ran with ⟨signal,upgraded⟩ | ⟨signal,answer,result,streamed,rfl⟩
  · simp only [spoken,signal,if_true]
    unfold ragUpgrade at upgraded
    rw [if_pos signal] at upgraded
    obtain rfl := Option.some.inj upgraded
    exact .ready (fun _ same => by cases same)
  · simp only [spoken,signal,Bool.false_eq_true,if_false,streamed]
    exact .given _

private theorem security_passes : Passes [] (securityNode outside state).answer := by
  apply Passes.ready
  intro text same
  unfold securityNode at same
  dsimp only at same
  split at same
  · obtain rfl := Option.some.inj same
    exact filtered_nil
  · obtain rfl := Option.some.inj same
    exact filtered_refusal _ _

private theorem answer_passes [LinearOrder Score] [Zero Score] {node : Node} (inner : node ≠ .respond)
    (ran : runNode outside state node = .ok update) :
    Passes (spoken outside state node) update.answer := by
  cases node with
  | respond => exact absurd rfl inner
  | security =>
    obtain rfl := Except.ok.inj ran
    exact security_passes
  | router =>
    rcases routerNode_cases ran with ⟨_,rfl⟩ | ⟨_,_,_,none',_⟩
    · exact .ready (fun _ same => by cases same)
    · exact .ready (fun _ same => by rw [none'] at same; cases same)
  | rag => exact rag_passes ran
  | tool => exact tool_passes ran
  | supervisor => exact supervisor_passes ran
  | chitchat =>
    obtain rfl := Except.ok.inj ran
    exact .ready (fun _ same => filtered_chitchat same)
  | handoff =>
    obtain rfl := withMemory_ok ran
    exact .ready (fun _ same => Option.some.inj same ▸ filtered_handoff false none)

end

/-! ### The events -/

section
variable {sid : Text} {accumulated : Update Body}

private theorem earlyDone_filtered {answer text : Text} (ready : Filtered answer) {event : Event Body}
    (listed : event ∈ [.done (earlyDone answer sid)]) (same : event.answerText = some text) :
    Filtered text := by
  obtain rfl := List.mem_singleton.mp listed
  obtain rfl := Option.some.inj same
  exact ready

private theorem abortEvents_filtered (abort : Abort) (event : Event Body) (listed : event ∈ abortEvents sid abort)
    (text : Text) (same : event.answerText = some text) : Filtered text := by
  cases abort with
  | quotaExceeded => exact earlyDone_filtered filtered_quota listed same
  | circuitOpen => exact earlyDone_filtered filtered_unavailable listed same
  | cancelled => cases listed
  | raised => cases listed

private theorem answerText_of_frame {node : Node} {update : Update Body} {event : Event Body} {text : Text}
    (listed : event ∈ eventsFromUpdates accumulated node update)
    (same : event.answerText = some text) : update.answer = some text := by
  unfold eventsFromUpdates at listed
  cases listed with
  | head => cases same
  | tail _ later =>
    split at later
    · cases later
    · rename_i answer found
      split at later
      · cases later
      · obtain rfl := List.mem_singleton.mp later
        exact found.trans same

private theorem frame_of_answer {update : Update Body} {text : Text} (sent : update.answer = some text)
    (solid : text ≠ []) (node : Node) :
    ∃ event ∈ eventsFromUpdates accumulated node update, event.answerText = some text := by
  unfold eventsFromUpdates
  rw [sent]
  dsimp only
  rw [if_neg solid]
  exact ⟨_,List.mem_cons_of_mem _ (List.mem_singleton_self _),rfl⟩

private theorem merged_filtered {update : Update Body} (answered : Filtered (accumulated.answer.getD []))
    (filtered : ∀ answer, update.answer = some answer → Filtered answer) :
    Filtered ((accumulated.merge update).answer.getD []) := by
  change Filtered ((update.answer.or accumulated.answer).getD [])
  cases sent : update.answer with
  | none => exact answered
  | some answer => exact filtered answer sent

theorem streamEvents_ok {visit : NodeVisit Body} {update : Update Body} (result : visit.result = .ok update)
    (rest : List (NodeVisit Body)) :
    streamEvents sid accumulated (visit :: rest) =
      eventsFromUpdates (accumulated.merge update) visit.node update ++
        streamEvents sid (accumulated.merge update) rest := by
  rw [streamEvents,result]

private theorem streamEvents_filtered {visits : List (NodeVisit Body)}
    (answered : Filtered (accumulated.answer.getD []))
    (filtered : ∀ visit ∈ visits, ∀ update, visit.result = .ok update →
      ∀ answer, update.answer = some answer → Filtered answer) :
    ∀ event ∈ streamEvents sid accumulated visits, ∀ text, event.answerText = some text →
      Filtered text := by
  induction visits generalizing accumulated with
  | nil =>
    intro event listed text same
    obtain rfl := List.mem_singleton.mp listed
    obtain rfl := Option.some.inj same
    unfold donePayload
    dsimp only
    split
    · exact filtered_unavailable
    · exact answered
  | cons visit rest ih =>
    obtain ⟨here,later⟩ := List.forall_mem_cons.mp filtered
    intro event listed text same
    cases result : visit.result with
    | error abort =>
      rw [streamEvents,result] at listed
      exact abortEvents_filtered abort event listed text same
    | ok update =>
      rw [streamEvents_ok result] at listed
      rcases List.mem_append.mp listed with frame | after
      · exact here update result text (answerText_of_frame frame same)
      · exact ih (merged_filtered answered (here update result)) later event after text same

end

section
variable [LinearOrder Score] [Zero Score] {outside : Outside Score Body} {state : CSState Body}

private theorem answer_sent (sid : Text) (node : Node) :
    ∀ accumulated, ∀ visit ∈ (graph outside).walk state node, ∀ update, visit.result = .ok update →
      ∀ text, update.answer = some text → text ≠ [] →
        ∃ event ∈ streamEvents sid accumulated ((graph outside).walk state node),
          event.answerText = some text := by
  refine walk_induction (motive := fun _ _ visits => ∀ accumulated, ∀ visit ∈ visits, ∀ update,
    visit.result = .ok update → ∀ text, update.answer = some text → text ≠ [] →
      ∃ event ∈ streamEvents sid accumulated visits, event.answerText = some text) ?_ ?_ ?_ state node
  · intro state node failure failed accumulated visit listed update result
    obtain rfl := List.mem_singleton.mp listed
    exact absurd (failed.symm.trans result) nofun
  · intro state node update ran last accumulated visit listed update' result text sent solid
    obtain rfl := List.mem_singleton.mp listed
    obtain rfl : update = update' := Except.ok.inj (ran.symm.trans result)
    obtain ⟨event,framed,same⟩ := frame_of_answer sent solid node
    refine ⟨event,?_,same⟩
    rw [streamEvents_ok ran]
    exact List.mem_append_left _ framed
  · intro state node update follower ran edge ih accumulated visit listed update' result text sent solid
    rw [streamEvents_ok ran]
    cases listed with
    | head =>
      obtain rfl : update = update' := Except.ok.inj (ran.symm.trans result)
      obtain ⟨event,framed,same⟩ := frame_of_answer sent solid node
      exact ⟨event,List.mem_append_left _ framed,same⟩
    | tail _ later =>
      obtain ⟨event,streamed,same⟩ := ih (accumulated.merge update) visit later update' result text sent solid
      exact ⟨event,List.mem_append_right _ streamed,same⟩

/-- Of a visit whose node finishes: what the node was given is filtered already. -/
def GivenFiltered (outside : Outside Score Body) (visit : NodeVisit Body) : Prop :=
  ∀ update, visit.result = .ok update → Filtered (spoken outside visit.before visit.node)

private theorem filtered_of_given {node : Node} {update : Update Body} (inner : node ≠ .respond)
    (ran : runNode outside state node = .ok update) (given : Filtered (spoken outside state node))
    (answer : Text) (sent : update.answer = some answer) : Filtered answer := by
  rcases (answer_passes inner ran).either answer sent with ready | rfl
  · exact ready
  · exact given

omit [LinearOrder Score] [Zero Score] in
theorem security_answers (outside : Outside Score Body) (state : CSState Body) :
    ∃ answer, (securityNode outside state).answer = some answer := by
  unfold securityNode
  dsimp only
  split
  · exact ⟨_,rfl⟩
  · exact ⟨_,rfl⟩

def AnswerFiltered (node : Node) (state : CSState Body) : Prop :=
  node = .security ∨ Filtered state.result.answer

private theorem answerFiltered_keeps (state : CSState Body) (node : Node) (update : Update Body)
    (follower : Node) (before : AnswerFiltered node state)
    (given : GivenFiltered outside ((graph outside).visit state node))
    (ran : runNode outside state node = .ok update)
    (edge : successor (state.apply outside.addMessages update) node = some follower) :
    AnswerFiltered follower (state.apply outside.addMessages update) := by
  right
  have inner : node ≠ .respond := by
    rintro rfl
    cases edge
  have sent := filtered_of_given inner ran (given update ran)
  change Filtered (update.answer.getD state.result.answer)
  cases answered : update.answer with
  | some answer => exact sent answer answered
  | none =>
    rcases before with rfl | filtered
    · obtain rfl := Except.ok.inj ran
      obtain ⟨answer,same⟩ := security_answers outside state
      exact absurd (answered.symm.trans same) nofun
    · exact filtered

private theorem visits_answerFiltered {start : CSState Body}
    (given : ∀ visit ∈ visits outside start, GivenFiltered outside visit) :
    ∀ visit ∈ visits outside start, AnswerFiltered visit.node visit.before :=
  walk_invariant_of answerFiltered_keeps (Or.inl rfl) given

theorem finalize_answer (services : SummaryFacts.Services Score) (settings : SummaryFacts.Settings Score)
    (summarize : List SummaryFacts.Message → Text → Text) (state : SummaryFacts.CSState) :
    (SummaryFacts.finalizeRespondTurn services settings summarize state).answer =
      inspectOutput (resolveRespondAnswer state) := rfl

private theorem respond_filtered {update : Update Body} (before : Filtered state.result.answer)
    (ran : respondNode outside state = .ok update) (answer : Text)
    (sent : update.answer = some answer) : Filtered answer := by
  have resolved : Filtered (resolveRespondAnswer (respondState state)) := by
    unfold resolveRespondAnswer respondState
    dsimp only [Option.getD_some]
    split_ifs
    · exact before
    · exact filtered_blocked
    · exact before
    · exact filtered_unavailable
  obtain ⟨finalized,ended,same⟩ := bind_ok ran
  obtain ⟨summarize,_,same'⟩ := bind_ok ended
  obtain rfl := Except.ok.inj same
  obtain rfl := Except.ok.inj same'
  obtain rfl := Option.some.inj sent
  rw [finalize_answer,resolved]
  exact resolved

/-- Every answer that a turn sends is filtered exactly when the course chain, the order tool and
the supervisor give the nodes that finish filtered answers. -/
theorem answers_filtered_spoken (outside : Outside Score Body) (turn : ChatTurn) (start : CSState Body) :
    (∀ event ∈ turnEvents outside turn start, ∀ text, event.answerText = some text → Filtered text) ↔
      ∀ visit ∈ visits outside start, GivenFiltered outside visit := by
  constructor
  · intro filtered visit listed update result
    have ran : runNode outside visit.before visit.node = .ok update :=
      (result_of_mem listed).symm.trans result
    by_cases blank : spoken outside visit.before visit.node = []
    · rw [blank]
      exact filtered_nil
    · have inner : visit.node ≠ .respond := by
        intro last
        rw [last] at blank
        exact blank rfl
      have sent := (answer_passes inner ran).sent blank
      obtain ⟨event,streamed,same⟩ := answer_sent turn.sid .security {} visit listed update result _ sent blank
      exact filtered event (List.mem_cons_of_mem _ streamed) _ same
  · intro given event listed text same
    cases listed with
    | head => cases same
    | tail _ streamed =>
      have nothing : Filtered (({} : Update Body).answer.getD []) := filtered_nil
      refine streamEvents_filtered nothing ?_ event streamed text same
      intro visit visited update result answer sent
      have ran : runNode outside visit.before visit.node = .ok update :=
        (result_of_mem visited).symm.trans result
      by_cases last : visit.node = .respond
      · rw [last] at ran
        rcases visits_answerFiltered given visit visited with first | before
        · exact absurd (last.symm.trans first) (by decide)
        · exact respond_filtered before ran answer sent
      · exact filtered_of_given last ran (given visit visited update result) answer sent

end

end CustomerService.ChatGraph
