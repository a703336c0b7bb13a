import CustomerService.ToolEscalation

/-! How the tools fail: below the threshold, one beside the other, and where one failure is too
many. -/
namespace CustomerService.ToolEscalation
open Text OrderAccess OrderReport ToolCache Supervisor FailingPrograms
open OrderQuery (QueryArgs QueryError Fate Host)

variable {Body : Type}

section
variable {settings : EscalationSettings} {ledger : Ledger}

/-! ### Below the threshold -/

/-- The tracker has counted no failure that is not of the turn. -/
def Under (ledger : Ledger) : Prop :=
  ∃ tracker, ledger.tracker = some tracker ∧
    ∀ key, tracker.counts.getD key 0 ≤ ledger.failures.count key

structure Calm (settings : EscalationSettings) (ledger : Ledger) : Prop where
  under : Under ledger
  unreached : ¬Reached settings ledger.failures

theorem Calm.record (calm : Calm settings ledger) {key : Text × Text} (below : Below settings ledger key) :
    Calm settings (ledger.record key) := by
  obtain ⟨tracker,open',counts⟩ := calm.under
  refine ⟨⟨tracker.recordTransient key,by rw [Ledger.record,open']; rfl,fun other => ?_⟩,fun too => ?_⟩
  · have before := counts other
    rw [ToolFailureTracker.recordTransient,Dict.getD_set,Ledger.record,List.count_append,
      List.count_singleton]
    by_cases same : other = key
    · subst same
      simpa using before
    · have apart : key ≠ other := fun equal => same equal.symm
      simpa [same,apart] using before
  · refine (reached_snoc too).elim calm.unreached (fun many => ?_)
    have := below too.1
    omega

private theorem raise_calm (calm : Calm settings ledger) {tool resourceKey : Text}
    (below : Below settings ledger (trackerKey tool resourceKey)) :
    (escalationForTransient settings tool resourceKey >>= raiseIfEscalated) ledger =
      .ok () (ledger.record (trackerKey tool resourceKey)) := by
  obtain ⟨tracker,open',counts⟩ := calm.under
  have few := counts (trackerKey tool resourceKey)
  have none' : (if settings.toolEscalationEnabled = false then none
      else if tracker.counts.getD (trackerKey tool resourceKey) 0 + 1 <
          settings.toolEscalationTransientThreshold then none
      else some transientExhausted) = none := by
    cases enabled : settings.toolEscalationEnabled with
    | false => rfl
    | true =>
      have := below enabled
      rw [if_neg (by simp),if_pos (by omega)]
  change EStateM.bind _ _ _ = _
  unfold EStateM.bind
  rw [escalationForTransient_eq open',none']
  rfl

def transientFailure (host : Host Body) (orderNo : Text) (args : QueryArgs) : Option (Text × Text) :=
  let number := orElse (some (strip orderNo)) "unknown".toList
  match getCachedOrder host.settings host.table host.tenancy host.session host.store host.now number
      args.tenantId args.userId with
  | some _ => none
  | none => some (trackerKey TOOL_ORDER number)

/-- What the failure of a query is counted under, when it is counted. -/
def orderFailure (host : Host Body) (args : QueryArgs) (fate : Fate) : Option (Text × Text) :=
  match OrderQuery.resolveOrderNumber args with
  | .error _ => none
  | .ok resolved =>
    match fate with
    | .busy _ | .timesOut => transientFailure host (OrderQuery.fallbackOrderNo args resolved) args
    | .runs _ | .raises _ => none

def ownFailure (host : CourseHost Body) (args : CourseArgs) : Option (Text × Text) :=
  match host.own args with
  | some _ => none
  | none => some (trackerKey TOOL_COURSE (courseKey host args))

def bareFailure (host : CourseHost Body) (query : Text) : Option (Text × Text) :=
  match host.bare query with
  | some _ => none
  | none => some (trackerKey TOOL_COURSE (normalizeCourseCacheKey host.lower query none))

def courseFailure (host : CourseHost Body) (args : CourseArgs) :
    Consulted Body (CourseConsultResult Body) → Option (Text × Text)
  | .answers _ => none
  | .raises _ => ownFailure host args
  | .modelRaises failure _ _ =>
    if isLlmDegradable failure = false then ownFailure host args else bareFailure host args.query

private theorem tool_transientFailure {host : Host Body} {orderNo : Text} {args : QueryArgs} {key : Text × Text}
    (fails : transientFailure host orderNo args = some key) : key.1 = TOOL_ORDER := by
  unfold transientFailure at fails
  dsimp only at fails
  split at fails
  · cases fails
  · obtain rfl := Option.some.inj fails
    rfl

theorem tool_orderFailure {host : Host Body} {args : QueryArgs} {fate : Fate} {key : Text × Text}
    (fails : orderFailure host args fate = some key) : key.1 = TOOL_ORDER := by
  unfold orderFailure at fails
  split at fails
  · cases fails
  · split at fails
    · exact tool_transientFailure fails
    · exact tool_transientFailure fails
    · cases fails
    · cases fails

private theorem tool_ownFailure {host : CourseHost Body} {args : CourseArgs} {key : Text × Text}
    (fails : ownFailure host args = some key) : key.1 = TOOL_COURSE := by
  unfold ownFailure at fails
  split at fails
  · cases fails
  · obtain rfl := Option.some.inj fails
    rfl

private theorem tool_bareFailure {host : CourseHost Body} {query : Text} {key : Text × Text}
    (fails : bareFailure host query = some key) : key.1 = TOOL_COURSE := by
  unfold bareFailure at fails
  split at fails
  · cases fails
  · obtain rfl := Option.some.inj fails
    rfl

theorem tool_courseFailure {host : CourseHost Body} {args : CourseArgs}
    {consulted : Consulted Body (CourseConsultResult Body)} {key : Text × Text}
    (fails : courseFailure host args consulted = some key) : key.1 = TOOL_COURSE := by
  cases consulted with
  | answers _ => cases fails
  | raises _ => exact tool_ownFailure fails
  | modelRaises failure _ _ =>
    rw [courseFailure] at fails
    split at fails
    · exact tool_ownFailure fails
    · exact tool_bareFailure fails

/-- A program that records a failure under a key, or none, and raises nothing for it. -/
def Records {Value : Type} (program : Turn Value) (ledger : Ledger) (failure : Option (Text × Text)) :
    Prop :=
  Ends (fun _ after => after = (failure.elim ledger ledger.record))
    (fun _ after => after = (failure.elim ledger ledger.record)) program ledger

private theorem raise_records (calm : Calm settings ledger) {tool resourceKey : Text}
    (below : Below settings ledger (trackerKey tool resourceKey)) :
    Ends (fun _ after => after = ledger.record (trackerKey tool resourceKey)) (fun _ _ => False)
      (escalationForTransient settings tool resourceKey >>= raiseIfEscalated) ledger := by
  unfold Ends
  rw [raise_calm calm below]

private theorem records_raise {Value : Type} (calm : Calm settings ledger) {tool resourceKey : Text}
    (below : Below settings ledger (trackerKey tool resourceKey)) {rest : Unit → Turn Value}
    (silent : ∀ after, Records (rest ()) after none) :
    Records ((escalationForTransient settings tool resourceKey >>= raiseIfEscalated) >>= rest) ledger
      (some (trackerKey tool resourceKey)) := by
  apply ends_bind
  apply (raise_records calm below).weaken
  · rintro _ after rfl
    exact silent _
  · exact fun _ _ impossible => impossible.elim

private theorem records_pure {Value : Type} (value : Value) : Records (pure value) ledger none := ends_pure rfl

private theorem records_throw {Value : Type} (failure : Failure) :
    Records (throw failure : Turn Value) ledger none :=
  ends_throw rfl

theorem Records.bind_pure {First Value : Type} {program : Turn First} {failure : Option (Text × Text)}
    (records : Records program ledger failure) (value : First → Value) :
    Records (program >>= fun first => pure (value first)) ledger failure :=
  ends_bind (records.weaken (fun _ _ same => ends_pure same) (fun _ _ same => same))

private theorem handleOrderTransientFailure_records (host : Host Body) (orderNo : Text) (args : QueryArgs)
    (busy : Option Text) (calm : Calm settings ledger)
    (below : ∀ key, transientFailure host orderNo args = some key → Below settings ledger key) :
    Records (handleOrderTransientFailure settings host orderNo args busy) ledger
      (transientFailure host orderNo args) := by
  unfold handleOrderTransientFailure
  unfold transientFailure at below ⊢
  dsimp only at below ⊢
  cases cached : getCachedOrder host.settings host.table host.tenancy host.session host.store host.now
      (orElse (some (strip orderNo)) "unknown".toList) args.tenantId args.userId with
  | some found => exact records_pure _
  | none =>
    rw [cached] at below
    apply records_raise calm (below _ rfl)
    intro after
    split
    · exact records_pure _
    · exact records_throw _

theorem queryOrder_records (host : Host Body) (args : QueryArgs) (fate : Fate)
    (calm : Calm settings ledger)
    (below : ∀ key, orderFailure host args fate = some key → Below settings ledger key) :
    Records (queryOrder settings host args fate) ledger (orderFailure host args fate) := by
  unfold queryOrder
  unfold orderFailure at below ⊢
  cases resolution : OrderQuery.resolveOrderNumber args with
  | error error => exact records_throw _
  | ok resolved =>
    rw [resolution] at below
    cases fate with
    | runs ossUrl =>
      dsimp only
      refine Records.bind_pure ?_ _
      unfold ofExcept
      split
      · exact records_pure _
      · exact records_throw _
    | busy message =>
      exact (handleOrderTransientFailure_records host _ args _ calm below).bind_pure _
    | timesOut =>
      exact (handleOrderTransientFailure_records host _ args _ calm below).bind_pure _
    | raises message => exact records_throw _

theorem onLlmFailure_records (host : CourseHost Body) (query : Text) {failure : Failure}
    (degradable : isLlmDegradable failure = true) (fallback : CourseConsultResult Body)
    (calm : Calm settings ledger)
    (below : ∀ key, bareFailure host query = some key → Below settings ledger key) :
    Ends (fun _ after => after = (bareFailure host query).elim ledger ledger.record) (fun _ _ => False)
      (onLlmFailure settings host query failure fallback) ledger := by
  unfold onLlmFailure
  rw [if_neg (by simp [degradable])]
  unfold bareFailure at below ⊢
  cases cached : host.bare query with
  | some stale => exact ends_pure rfl
  | none =>
    rw [cached] at below
    apply ends_bind
    exact (raise_records calm (below _ rfl)).weaken (fun _ _ same => ends_pure same) (fun _ _ => id)

theorem retrieveCourse_records (host : CourseHost Body) (args : CourseArgs)
    (consulted : Consulted Body (CourseConsultResult Body)) (calm : Calm settings ledger)
    (below : ∀ key, courseFailure host args consulted = some key → Below settings ledger key) :
    Records (retrieveCourse settings host args consulted) ledger (courseFailure host args consulted) := by
  have recover (failure : Failure)
      (below : ∀ key, ownFailure host args = some key → Below settings ledger key) :
      Records (onCourseFailure settings host args failure) ledger (ownFailure host args) := by
    unfold onCourseFailure
    unfold ownFailure at below ⊢
    cases cached : host.own args with
    | some stale => exact records_pure _
    | none =>
      rw [cached] at below
      exact records_raise calm (below _ rfl) (fun _ => records_throw _)
  apply ends_catch
  apply ends_bind
  cases consulted with
  | raises failure => exact ends_throw (recover failure below)
  | answers result => exact ends_pure (ends_pure rfl)
  | modelRaises failure evidence fallback =>
    apply ends_bind
    rw [courseFailure] at below ⊢
    split at below
    · rename_i solid
      rw [onLlmFailure,if_pos solid,if_pos solid]
      exact ends_throw (recover failure below)
    · rename_i degradable
      rw [if_neg degradable]
      apply (onLlmFailure_records host args.query (by simpa using degradable) fallback calm below).weaken
      · exact fun _ _ same => ends_pure (ends_pure same)
      · exact fun _ _ impossible => impossible.elim

end

/-! ### One tool at a time -/

/-- The programs that record the failures of one tool. -/
inductive Touches (settings : EscalationSettings) (tool : Text) : {Value : Type} → Turn Value → Prop
  | pure {Value : Type} (value : Value) : Touches settings tool (pure value)
  | throw {Value : Type} (failure : Failure) : Touches settings tool (throw failure : Turn Value)
  | record (resourceKey : Text) : Touches settings tool (escalationForTransient settings tool resourceKey)
  | bind {First Value : Type} {program : Turn First} {rest : First → Turn Value} :
    Touches settings tool program → (∀ value, Touches settings tool (rest value)) →
      Touches settings tool (program >>= rest)
  | recover {Value : Type} {program : Turn Value} {handle : Failure → Turn Value} :
    Touches settings tool program → (∀ failure, Touches settings tool (handle failure)) →
      Touches settings tool (tryCatch program handle)

section
variable {settings : EscalationSettings} {tool : Text}

private theorem touches_raise (resourceKey : Text) :
    Touches settings tool (escalationForTransient settings tool resourceKey >>= raiseIfEscalated) := by
  refine .bind (.record resourceKey) (fun decision => ?_)
  unfold raiseIfEscalated
  split
  · split
    · exact .throw _
    · exact .pure _
  · exact .pure _

theorem queryOrder_touches (host : Host Body) (args : QueryArgs) (fate : Fate) :
    Touches settings TOOL_ORDER (queryOrder settings host args fate) := by
  have transient (orderNo : Text) (busy : Option Text) :
      Touches settings TOOL_ORDER (handleOrderTransientFailure settings host orderNo args busy) := by
    unfold handleOrderTransientFailure
    dsimp only
    split
    · exact .pure _
    · refine .bind (touches_raise _) (fun _ => ?_)
      split
      · exact .pure _
      · exact .throw _
  unfold queryOrder
  split
  · exact .throw _
  · split
    · refine .bind ?_ (fun _ => .pure _)
      unfold ofExcept
      split
      · exact .pure _
      · exact .throw _
    · exact .bind (transient _ _) (fun _ => .pure _)
    · exact .bind (transient _ _) (fun _ => .pure _)
    · exact .throw _

theorem retrieveCourse_touches (host : CourseHost Body) (args : CourseArgs)
    (consulted : Consulted Body (CourseConsultResult Body)) :
    Touches settings TOOL_COURSE (retrieveCourse settings host args consulted) := by
  refine .recover (.bind ?_ (fun _ => .pure _)) (fun failure => ?_)
  · cases consulted with
    | raises failure => exact .throw _
    | answers result => exact .pure _
    | modelRaises failure evidence fallback =>
      refine .bind ?_ (fun _ => .pure _)
      unfold onLlmFailure
      split
      · exact .throw _
      · split
        · exact .pure _
        · exact .bind (touches_raise _) (fun _ => .pure _)
  · unfold onCourseFailure
    split
    · exact .pure _
    · exact .bind (touches_raise _) (fun _ => .throw _)

private theorem escalation_recorded (resourceKey : Text) (ledger : Ledger) :
    Ends (fun decision after => (decision = none ∨ decision = some transientExhausted) ∧
        after = ledger.record (trackerKey tool resourceKey)) (fun _ _ => False)
      (escalationForTransient settings tool resourceKey) ledger := by
  unfold Ends
  cases held : (ledger.record (trackerKey tool resourceKey)).tracker with
  | none =>
    rw [escalationForTransient_none held]
    exact ⟨Or.inl rfl,rfl⟩
  | some tracker =>
    rw [escalationForTransient_some held]
    split_ifs
    · exact ⟨Or.inl rfl,rfl⟩
    · exact ⟨Or.inl rfl,rfl⟩
    · exact ⟨Or.inr rfl,rfl⟩

structure Touched (tool : Text) (ledger after : Ledger) : Prop where
  failures : ∀ key ∈ after.failures, key ∈ ledger.failures ∨ key.1 = tool
  counts : ∀ tracker, ledger.tracker = some tracker → ∃ tracker', after.tracker = some tracker' ∧
    ∀ key : Text × Text, key.1 ≠ tool → tracker'.counts.getD key 0 = tracker.counts.getD key 0

theorem Touched.refl (ledger : Ledger) : Touched tool ledger ledger :=
  ⟨fun _ => Or.inl,fun tracker held => ⟨tracker,held,fun _ _ => rfl⟩⟩

theorem Touched.trans {first second third : Ledger} (one : Touched tool first second)
    (two : Touched tool second third) : Touched tool first third where
  failures := fun key listed => (two.failures key listed).elim (one.failures key) Or.inr
  counts := fun tracker held => by
    obtain ⟨middle,kept,same⟩ := one.counts tracker held
    obtain ⟨last,left,same'⟩ := two.counts middle kept
    exact ⟨last,left,fun key other => (same' key other).trans (same key other)⟩

private theorem touched_record (ledger : Ledger) (resourceKey : Text) :
    Touched tool ledger (ledger.record (trackerKey tool resourceKey)) where
  failures := fun key listed => (List.mem_append.mp listed).imp_right
    (fun last => congrArg Prod.fst (List.mem_singleton.mp last))
  counts := fun tracker held => by
    refine ⟨tracker.recordTransient (trackerKey tool resourceKey),?_,fun key other => ?_⟩
    · rw [Ledger.record,held]
      rfl
    · rw [ToolFailureTracker.recordTransient,Dict.getD_set,
        if_neg (fun same => other (congrArg Prod.fst same))]

theorem Touches.touched {Value : Type} {program : Turn Value} (touches : Touches settings tool program)
    (ledger : Ledger) :
    Ends (fun _ after => Touched tool ledger after) (fun _ after => Touched tool ledger after) program
      ledger := by
  induction touches generalizing ledger with
  | pure value => exact ends_pure (.refl ledger)
  | throw failure => exact ends_throw (.refl ledger)
  | record resourceKey =>
    apply (escalation_recorded resourceKey ledger).weaken
    · rintro _ after ⟨_,rfl⟩
      exact touched_record ledger resourceKey
    · exact fun _ _ impossible => impossible.elim
  | bind _ _ first later =>
    apply ends_bind
    apply (first ledger).weaken
    · intro value after here
      exact (later value after).weaken (fun _ _ => here.trans) (fun _ _ => here.trans)
    · exact fun _ _ here => here
  | recover _ _ first later =>
    apply ends_catch
    apply (first ledger).weaken
    · exact fun _ _ here => here
    · intro failure after here
      exact (later failure after).weaken (fun _ _ => here.trans) (fun _ _ => here.trans)

/-- Two ledgers that agree on a tool; one has failures of other tools before. -/
structure Beside (tool : Text) (extra : List (Text × Text)) (ledger other : Ledger) : Prop where
  failures : ledger.failures = extra ++ other.failures
  counts : ∃ tracker tracker', ledger.tracker = some tracker ∧ other.tracker = some tracker' ∧
    ∀ resource, tracker.counts.getD (tool,resource) 0 = tracker'.counts.getD (tool,resource) 0

theorem Beside.record {extra : List (Text × Text)} {ledger other : Ledger}
    (beside : Beside tool extra ledger other) (resourceKey : Text) :
    Beside tool extra (ledger.record (trackerKey tool resourceKey))
      (other.record (trackerKey tool resourceKey)) := by
  obtain ⟨tracker,tracker',open',open'',counts⟩ := beside.counts
  refine ⟨by rw [Ledger.record,Ledger.record,beside.failures,List.append_assoc],
    tracker.recordTransient (trackerKey tool resourceKey),
    tracker'.recordTransient (trackerKey tool resourceKey),?_,?_,fun resource => ?_⟩
  · rw [Ledger.record,open']
    rfl
  · rw [Ledger.record,open'']
    rfl
  · have here := counts (trackerKey tool resourceKey).2
    rw [ToolFailureTracker.recordTransient,ToolFailureTracker.recordTransient,Dict.getD_set,Dict.getD_set]
    split
    · exact congrArg (· + 1) here
    · exact counts resource

theorem Touches.lockstep {Value : Type} {program : Turn Value} (touches : Touches settings tool program)
    {extra : List (Text × Text)} {ledger other : Ledger} (beside : Beside tool extra ledger other) :
    Lockstep (Beside tool extra) program ledger other := by
  induction touches generalizing ledger other with
  | pure value => exact lockstep_pure beside value
  | throw failure => exact lockstep_throw beside failure
  | record resourceKey =>
    obtain ⟨tracker,tracker',open',open'',counts⟩ := beside.counts
    unfold Lockstep
    rw [escalationForTransient_eq open',escalationForTransient_eq open'']
    have here : tracker.counts.getD (trackerKey tool resourceKey) 0 =
        tracker'.counts.getD (trackerKey tool resourceKey) 0 := counts _
    exact ⟨by rw [here],beside.record resourceKey⟩
  | bind _ _ first later =>
    exact lockstep_bind (first beside) (fun value _ _ after => later value after)
  | recover _ _ first later =>
    exact lockstep_catch (first beside) (fun failure _ _ after => later failure after)

theorem tools_apart {First Value : Type} {tool' : Text} {program : Turn First} {next : Turn Value}
    (touches : Touches settings tool program) (touches' : Touches settings tool' next) (apart : tool' ≠ tool) :
    Ends (fun _ after => Lockstep (Beside tool' after.failures) next after freshLedger)
      (fun _ after => Lockstep (Beside tool' after.failures) next after freshLedger) program freshLedger := by
  have beside {after : Ledger} (touched : Touched tool freshLedger after) :
      Lockstep (Beside tool' after.failures) next after freshLedger := by
    obtain ⟨tracker,held,same⟩ := touched.counts ⟨∅⟩ rfl
    exact touches'.lockstep ⟨(List.append_nil _).symm,tracker,⟨∅⟩,held,rfl,
      fun resource => same (tool',resource) apart⟩
  exact (touches.touched freshLedger).weaken (fun _ _ => beside) (fun _ _ => beside)

/-! ### One failure of a tool -/

theorem raise_recorded (resourceKey : Text) (ledger : Ledger) :
    Ends (fun _ after => after = ledger.record (trackerKey tool resourceKey))
      (fun failure after => failure = handed ∧ after = ledger.record (trackerKey tool resourceKey))
      (escalationForTransient settings tool resourceKey >>= raiseIfEscalated) ledger := by
  apply ends_bind
  apply (escalation_recorded resourceKey ledger).weaken
  · rintro _ after ⟨rfl | rfl,rfl⟩
    · exact ends_pure rfl
    · exact ends_throw ⟨rfl,rfl⟩
  · exact fun _ _ impossible => impossible.elim

private theorem resolveQueryOrderNo_error {query userId : Text} {orderNo lastOrderNo : Option Text}
    {error : QueryError}
    (failed : OrderQuery.resolveQueryOrderNo query orderNo userId lastOrderNo = .error error) :
    ∃ message, error = .valueError message := by
  unfold OrderQuery.resolveQueryOrderNo at failed
  dsimp only at failed
  split at failed
  · cases failed
    exact ⟨_,rfl⟩
  · split at failed
    · cases failed
    · split at failed
      · cases failed
      · cases failed
        exact ⟨_,rfl⟩

private theorem resolveOrderNumber_error {args : QueryArgs} {error : QueryError}
    (failed : OrderQuery.resolveOrderNumber args = .error error) : ∃ message, error = .valueError message := by
  unfold OrderQuery.resolveOrderNumber at failed
  split at failed
  · cases failed
  · cases resolved : OrderQuery.resolveQueryOrderNo args.query args.orderNo args.userId args.lastOrderNo with
    | ok _ =>
      rw [resolved] at failed
      cases failed
    | error other =>
      rw [resolved] at failed
      cases failed
      exact resolveQueryOrderNo_error resolved

private theorem fetchOrderReport_error {rendering : Rendering} {table : OrderTable} {tenancy : Tenancy}
    {orderNo tenantId query userId : Text} {error : QueryError}
    (failed : OrderQuery.fetchOrderReport rendering table tenancy orderNo tenantId query userId =
      .error error) : ∃ message, error = .valueError message := by
  unfold OrderQuery.fetchOrderReport at failed
  split at failed
  · cases failed
  · cases failed
    exact ⟨_,rfl⟩

private theorem queryOrderInner_error {rendering : Rendering} {table : OrderTable} {tenancy : Tenancy}
    {args : QueryArgs} {ossUrl : Option Text} {error : QueryError}
    (failed : OrderQuery.queryOrderInner rendering table tenancy args ossUrl = .error error) :
    ∃ message, error = .valueError message := by
  have fetched (number : Text)
      (failed : (do
        let report ← OrderQuery.fetchOrderReport rendering table tenancy number args.tenantId args.query
          args.userId
        return if args.persist then {report with ossUrl := ossUrl} else report) = .error error) :
      ∃ message, error = .valueError message := by
    cases base : OrderQuery.fetchOrderReport rendering table tenancy number args.tenantId args.query
        args.userId with
    | ok report =>
      rw [base] at failed
      cases failed
    | error other =>
      rw [base] at failed
      cases failed
      exact fetchOrderReport_error base
  unfold OrderQuery.queryOrderInner at failed
  by_cases explicit : args.requireExplicitOrderNo = true
  · rw [if_pos explicit] at failed
    cases named : OrderQuery.explicitOrderNo args.orderNo with
    | none =>
      rw [named] at failed
      cases failed
      exact ⟨_,rfl⟩
    | some number =>
      rw [named] at failed
      exact fetched number failed
  · rw [if_neg explicit] at failed
    cases resolved : OrderQuery.resolveQueryOrderNo args.query args.orderNo args.userId args.lastOrderNo with
    | error other =>
      rw [resolved] at failed
      cases failed
      exact resolveQueryOrderNo_error resolved
    | ok number =>
      rw [resolved] at failed
      exact fetched number failed

def Caught (failure : Failure) : Prop :=
  failure = handed ∨ (∃ message, failure = .valueError message) ∨ ∃ message, failure = .timeoutError message

private theorem handleOrderTransientFailure_once (host : Host Body) (orderNo : Text) (args : QueryArgs)
    (busy : Option Text) (ledger : Ledger) :
    Ends (fun _ after => after.failures.length ≤ ledger.failures.length + 1)
      (fun failure after => after.failures.length ≤ ledger.failures.length + 1 ∧ Caught failure)
      (handleOrderTransientFailure settings host orderNo args busy) ledger := by
  have one (key : Text × Text) : (ledger.record key).failures.length ≤ ledger.failures.length + 1 :=
    (List.length_append.trans rfl).le
  unfold handleOrderTransientFailure
  dsimp only
  split
  · exact ends_pure (Nat.le_succ _)
  · apply ends_bind
    apply (raise_recorded _ ledger).weaken
    · rintro _ after rfl
      split
      · exact ends_pure (one _)
      · exact ends_throw ⟨one _,Or.inr (Or.inr ⟨_,rfl⟩)⟩
    · rintro _ after ⟨rfl,rfl⟩
      exact ⟨one _,Or.inl rfl⟩

theorem queryOrder_once (host : Host Body) (args : QueryArgs) (fate : Fate) (ledger : Ledger) :
    Ends (fun _ after => after.failures.length ≤ ledger.failures.length + 1)
      (fun failure after => after.failures.length ≤ ledger.failures.length + 1 ∧
        ((∀ message, fate ≠ .raises message) → Caught failure))
      (queryOrder settings host args fate) ledger := by
  have valueError {error : QueryError} (named : ∃ message, error = .valueError message) :
      Caught (ofQueryError error) := by
    obtain ⟨message,rfl⟩ := named
    exact Or.inr (Or.inl ⟨message,rfl⟩)
  have transient (orderNo : Text) (busy : Option Text) :
      Ends (fun _ after => after.failures.length ≤ ledger.failures.length + 1)
        (fun failure after => after.failures.length ≤ ledger.failures.length + 1 ∧
          ((∀ message, fate ≠ .raises message) → Caught failure))
        (handleOrderTransientFailure settings host orderNo args busy >>= fun report =>
          pure (report,host.store)) ledger :=
    ends_bind ((handleOrderTransientFailure_once host orderNo args busy ledger).weaken
      (fun _ _ few => ends_pure few) (fun _ _ both => ⟨both.1,fun _ => both.2⟩))
  unfold queryOrder
  split
  · rename_i error failed
    exact ends_throw ⟨Nat.le_succ _,fun _ => valueError (resolveOrderNumber_error failed)⟩
  · split
    · apply ends_bind
      unfold ofExcept
      split
      · exact ends_pure (ends_pure (Nat.le_succ _))
      · rename_i error failed
        exact ends_throw ⟨Nat.le_succ _,fun _ => valueError (queryOrderInner_error failed)⟩
    · exact transient _ _
    · exact transient _ _
    · exact ends_throw ⟨Nat.le_succ _,fun other => absurd rfl (other _)⟩

private theorem raise_eager {base : List (Text × Text)} {ledger : Ledger} {holds : Prop}
    (within : Within settings base holds ledger) (enabled : settings.toolEscalationEnabled = true)
    (one : settings.toolEscalationTransientThreshold ≤ 1) (resourceKey : Text) :
    Ends (fun _ _ => False) (fun failure _ => failure = handed)
      (escalationForTransient settings tool resourceKey >>= raiseIfEscalated) ledger := by
  obtain ⟨_,_,⟨tracker,held,_⟩,_⟩ := within
  apply ends_bind
  unfold Ends
  rw [escalationForTransient_eq held,if_neg (by simp [enabled]),if_neg (by omega)]
  change handed = handed
  rfl

theorem retrieveCourse_eager (host : CourseHost Body) (args : CourseArgs)
    (consulted : Consulted Body (CourseConsultResult Body))
    (enabled : settings.toolEscalationEnabled = true)
    (one : settings.toolEscalationTransientThreshold ≤ 1) :
    Ends (fun _ _ => True) (fun failure _ => failure = handed)
      (retrieveCourse settings host args consulted) freshLedger := by
  have recover (failure : Failure) {after : Ledger} (later : Within settings [] True after) :
      Ends (fun _ _ => True) (fun failure _ => failure = handed)
        (onCourseFailure settings host args failure) after := by
    unfold onCourseFailure
    split
    · exact ends_pure trivial
    · apply ends_bind
      apply (raise_eager later enabled one _).weaken
      · exact fun _ _ impossible => impossible.elim
      · exact fun _ _ same => same
  have quiet : Within settings [] False freshLedger := within_scoped ⟨none,[]⟩
  apply ends_catch
  apply ends_bind
  cases consulted with
  | raises failure => exact ends_throw (recover failure (quiet.imp (fun _ => trivial)))
  | answers result => exact ends_pure (ends_pure trivial)
  | modelRaises failure evidence fallback =>
    apply ends_bind
    apply (onLlmFailure_ends host args.query failure fallback quiet).weaken
    · exact fun _ _ _ => ends_pure (ends_pure trivial)
    · rintro raised after (⟨_,later⟩ | ⟨_,_,_,_,later⟩)
      · exact recover raised (later.imp (fun _ => trivial))
      · exact recover raised later

/-! ### The query with the escalation given -/

/-- The program gives what a result without a tracker says. -/
def Told {Value : Type} (result : Except QueryError Value) (program : Turn Value) (ledger : Ledger) :
    Prop :=
  Ends (fun value _ => result = .ok value)
    (fun failure _ => ∃ error, result = .error error ∧ failure = ofQueryError error) program ledger

theorem Told.bind_pure {First Value : Type} {result : Except QueryError First} {program : Turn First}
    {ledger : Ledger} (told : Told result program ledger) (value : First → Value) :
    Told (result.map value) (program >>= fun first => pure (value first)) ledger := by
  apply ends_bind
  apply told.weaken
  · rintro first after rfl
    exact ends_pure rfl
  · rintro failure after ⟨error,rfl,same⟩
    exact ⟨error,rfl,same⟩

private theorem told_of_except (result : Except QueryError Report) (ledger : Ledger) :
    Told result (ofExcept result) ledger := by
  cases result with
  | ok report => exact ends_pure rfl
  | error error => exact ends_throw ⟨error,rfl,rfl⟩

theorem handleOrderTransientFailure_told (host : Host Body) (orderNo : Text) (args : QueryArgs)
    (busy : Option Text) (ledger : Ledger) :
    ∃ escalates, Told (OrderQuery.handleTransientFailure host orderNo args busy escalates)
      (handleOrderTransientFailure settings host orderNo args busy) ledger := by
  unfold handleOrderTransientFailure OrderQuery.handleTransientFailure
  dsimp only
  cases getCachedOrder host.settings host.table host.tenancy host.session host.store host.now
      (orElse (some (strip orderNo)) "unknown".toList) args.tenantId args.userId with
  | some cached => exact ⟨false,ends_pure rfl⟩
  | none =>
    dsimp only
    have raised := ends_iff.mp (@raise_recorded settings TOOL_ORDER
      (orElse (some (strip orderNo)) "unknown".toList) ledger)
    cases ran : (escalationForTransient settings TOOL_ORDER
        (orElse (some (strip orderNo)) "unknown".toList) >>= raiseIfEscalated) ledger with
    | ok value after =>
      refine ⟨false,ends_bind (ends_iff.mpr ⟨?_,?_⟩)⟩
      · intro _ _ _
        cases busy with
        | some message => exact ends_pure rfl
        | none => exact ends_throw ⟨_,rfl,rfl⟩
      · intro failure after' failed
        cases ran.symm.trans failed
    | error failure after =>
      refine ⟨true,ends_bind (ends_iff.mpr ⟨?_,?_⟩)⟩
      · intro _ _ done
        cases ran.symm.trans done
      · intro failure after failed
        exact ⟨.escalated,rfl,(raised.2 failure after failed).1⟩

theorem queryOrder_told (host : Host Body) (args : QueryArgs) (fate : Fate) (ledger : Ledger) :
    ∃ escalates, Told
      ((OrderQuery.queryOrder host args fate escalates).1.map
        (fun report => (report,(OrderQuery.queryOrder host args fate escalates).2)))
      (queryOrder settings host args fate) ledger := by
  unfold queryOrder OrderQuery.queryOrder
  cases OrderQuery.resolveOrderNumber args with
  | error error => exact ⟨false,ends_throw ⟨error,rfl,rfl⟩⟩
  | ok resolved =>
    cases fate with
    | runs ossUrl =>
      refine ⟨false,?_⟩
      have inner := (told_of_except (OrderQuery.queryOrderInner host.rendering host.table host.tenancy args
        ossUrl) ledger).bind_pure (fun report => (report,
          putCachedOrder host.settings host.store host.now report args.tenantId args.userId))
      dsimp only at inner ⊢
      generalize OrderQuery.queryOrderInner host.rendering host.table host.tenancy args ossUrl = result
        at inner ⊢
      cases result with
      | ok report => exact inner
      | error error => exact inner
    | busy message =>
      obtain ⟨escalates,told⟩ :=
        @handleOrderTransientFailure_told _ settings host (OrderQuery.fallbackOrderNo args resolved) args
          (some message) ledger
      exact ⟨escalates,told.bind_pure _⟩
    | timesOut =>
      obtain ⟨escalates,told⟩ :=
        @handleOrderTransientFailure_told _ settings host (OrderQuery.fallbackOrderNo args resolved) args
          none ledger
      exact ⟨escalates,told.bind_pure _⟩
    | raises message => exact ⟨false,ends_throw ⟨_,rfl,rfl⟩⟩

end

end CustomerService.ToolEscalation
