import CustomerService.SummaryRoundTrip
import CustomerService.ToolCache
import CustomerService.Transition

/-! `query_order`: the number is resolved before anything else, then the order is fetched
in the pool, or a cached report of it is shown when the pool is busy or too slow. -/
namespace CustomerService.OrderQuery
open Text ThreadKey OrderAccess OrderReport ToolCache

structure QueryArgs where
  query : Text
  orderNo : Option Text
  tenantId : Text
  userId : Text
  lastOrderNo : Option Text
  persist : Bool
  requireExplicitOrderNo : Bool
  deriving DecidableEq

inductive QueryError
  | valueError (message : Text)
  | timeoutError (message : Text)
  | escalated
  | other (message : Text)
  deriving DecidableEq

/-- How the call of the pool ends: the task runs, with the address the object store
gives, or the call is turned away, or it times out, or something else is raised. -/
inductive Fate
  | runs (ossUrl : Option Text)
  | busy (message : Text)
  | timesOut
  | raises (message : Text)
  deriving DecidableEq

def resolveQueryOrderNo (query : Text) (orderNo : Option Text) (userId : Text)
    (lastOrderNo : Option Text) : Except QueryError Text :=
  let extracted := SummaryFacts.extractOrderNo query
  let number := strip (orElse extracted (orderNo.getD []))
  if number = [] then
    .error (.valueError "未识别到订单号，请提供类似 #20251114001 的订单编号。".toList)
  else if isPersistentUser (normalizeUserId userId) then .ok number
  else
    let bound := strip (lastOrderNo.getD [])
    let mentioned := decide (extracted = some number) || decide (number <:+: query)
    if mentioned || (!bound.isEmpty && decide (number = bound)) then .ok number
    else .error (.valueError "请先提供订单编号以绑定后再查询。".toList)

/-- `extract_order_no(order_no or "") or (order_no or "").strip()`, or nothing. -/
def explicitOrderNo (orderNo : Option Text) : Option Text :=
  let number := orElse (SummaryFacts.extractOrderNo (orderNo.getD [])) (strip (orderNo.getD []))
  if number = [] then none else some number

def resolveOrderNumber (args : QueryArgs) : Except QueryError (Option Text) :=
  if args.requireExplicitOrderNo then .ok (explicitOrderNo args.orderNo)
  else (resolveQueryOrderNo args.query args.orderNo args.userId args.lastOrderNo).map some

def fetchOrderReport (rendering : Rendering) (table : OrderTable) (tenancy : Tenancy)
    (orderNo tenantId query userId : Text) : Except QueryError Report :=
  match (authorize table tenancy
      ⟨orderNo,.directQuery,some tenantId,some (normalizeUserId userId),none⟩).order with
  | some order => .ok (ofOrder rendering order query)
  | none => .error (.valueError ("未找到订单 ".toList ++ orderNo))

/-- `_query_order_inner`, with what `persist_order_report` gets from the object store. -/
def queryOrderInner (rendering : Rendering) (table : OrderTable) (tenancy : Tenancy)
    (args : QueryArgs) (ossUrl : Option Text) : Except QueryError Report := do
  let number ←
    if args.requireExplicitOrderNo then
      match explicitOrderNo args.orderNo with
      | some number => .ok number
      | none => .error (.valueError "未识别到订单号".toList)
    else resolveQueryOrderNo args.query args.orderNo args.userId args.lastOrderNo
  let report ← fetchOrderReport rendering table tenancy number args.tenantId args.query args.userId
  return if args.persist then {report with ossUrl := ossUrl} else report

/-- The host of a query: the settings, the orders at the time, the context variables,
the slots of the session, the shared store and the clock. -/
structure Host (Body : Type) where
  settings : Settings
  rendering : Rendering
  table : OrderTable
  tenancy : Tenancy
  session : SessionToolCacheState Body
  store : Store Body
  now : ℚ

variable {Body : Type}

/-- `_handle_order_transient_failure`; whether the failures of the turn escalate is given. -/
def handleTransientFailure (host : Host Body) (orderNo : Text) (args : QueryArgs)
    (busy : Option Text) (escalates : Bool) : Except QueryError Report :=
  let number := orElse (some (strip orderNo)) "unknown".toList
  match getCachedOrder host.settings host.table host.tenancy host.session host.store host.now number
      args.tenantId args.userId with
  | some (report,cachedAt) => .ok (annotateStaleOrder report (max 0 (host.now - cachedAt)))
  | none =>
    if escalates then .error .escalated
    else
      match busy with
      | some message => .ok (busyReport orderNo message)
      | none => .error (.timeoutError "订单查询超时，请稍后重试".toList)

/-- `resolved or order_no or last_order_no`. -/
def fallbackOrderNo (args : QueryArgs) (resolved : Option Text) : Text :=
  orElse resolved (orElse args.orderNo (args.lastOrderNo.getD []))

def queryOrder (host : Host Body) (args : QueryArgs) (fate : Fate) (escalates : Bool) :
    Except QueryError Report × Store Body :=
  match resolveOrderNumber args with
  | .error error => (.error error,host.store)
  | .ok resolved =>
    match fate with
    | .runs ossUrl =>
      match queryOrderInner host.rendering host.table host.tenancy args ossUrl with
      | .ok report =>
        (.ok report,
          putCachedOrder host.settings host.store host.now report args.tenantId args.userId)
      | .error error => (.error error,host.store)
    | .busy message =>
      (handleTransientFailure host (fallbackOrderNo args resolved) args (some message) escalates,
        host.store)
    | .timesOut =>
      (handleTransientFailure host (fallbackOrderNo args resolved) args none escalates,host.store)
    | .raises message => (.error (.other message),host.store)

/-! Numbers. -/

private theorem tight_explicitOrderNo {orderNo : Option Text} {number : Text}
    (found : explicitOrderNo orderNo = some number) : strip number = number ∧ number ≠ [] := by
  unfold explicitOrderNo at found
  dsimp only at found
  split at found
  · cases found
  · rename_i solid
    cases found
    refine ⟨strip_of_tight ?_,solid⟩
    cases extracted : SummaryFacts.extractOrderNo (orderNo.getD []) with
    | none => exact tight_strip _
    | some digits =>
      cases digits with
      | nil => exact tight_strip _
      | cons => exact (SummaryFacts.plain_orderNo extracted).1

private theorem tight_resolveQueryOrderNo {query userId number : Text} {orderNo lastOrderNo : Option Text}
    (found : resolveQueryOrderNo query orderNo userId lastOrderNo = .ok number) :
    strip number = number ∧ number ≠ [] := by
  unfold resolveQueryOrderNo at found
  dsimp only at found
  split at found
  · cases found
  rename_i solid
  have tight : strip (strip (orElse (SummaryFacts.extractOrderNo query) (orderNo.getD []))) =
      strip (orElse (SummaryFacts.extractOrderNo query) (orderNo.getD [])) :=
    strip_of_tight (tight_strip _)
  split at found
  · cases found
    exact ⟨tight,solid⟩
  split at found
  · cases found
    exact ⟨tight,solid⟩
  · cases found

theorem tight_resolved {args : QueryArgs} {number : Text}
    (found : resolveOrderNumber args = .ok (some number)) : strip number = number ∧ number ≠ [] := by
  unfold resolveOrderNumber at found
  split at found
  · exact tight_explicitOrderNo (Except.ok.inj found)
  · cases resolved : resolveQueryOrderNo args.query args.orderNo args.userId args.lastOrderNo with
    | error _ =>
      rw [resolved] at found
      cases found
    | ok other =>
      rw [resolved] at found
      cases found
      exact tight_resolveQueryOrderNo resolved

theorem isOrderNo_plain {number : Text} (fits : isOrderNo number = true) :
    strip number = number ∧ replaceColon number = number := by
  simp only [isOrderNo,Bool.and_eq_true,List.all_eq_true] at fits
  have unspaced (text : Text) (within : ∀ char ∈ text, char ∈ number) : heads isSpace text = false := by
    cases text with
    | nil => rfl
    | cons char rest =>
      exact (SummaryFacts.plain_of_isDigit (fits.2 char (within char List.mem_cons_self))).1
  constructor
  · apply strip_of_tight
    exact ⟨unspaced number (fun _ => id),unspaced number.reverse (fun _ => List.mem_reverse.mp)⟩
  · refine (List.map_congr_left (g := id) (fun char inside => if_neg ?_)).trans (List.map_id number)
    rintro rfl
    exact absurd (fits.2 ':' inside) (by decide)

/-! What a call may answer. -/

private theorem fetchOrderReport_ok {rendering : Rendering} {table : OrderTable} {tenancy : Tenancy}
    {orderNo tenantId query userId : Text} {report : Report} (given : tenantId ≠ [])
    (found : fetchOrderReport rendering table tenancy orderNo tenantId query userId = .ok report) :
    isOrderNo (strip orderNo) = true ∧ ∃ order,
      Accessible table tenantId userId (strip orderNo) order ∧
        report = ofOrder rendering order query := by
  unfold fetchOrderReport at found
  rcases authorize_spec table tenancy
      ⟨orderNo,.directQuery,some tenantId,some (normalizeUserId userId),none⟩ with
    ⟨order,decided,_,finds⟩ | ⟨⟨_,decided⟩,_⟩
  · rw [decided] at found
    cases found
    refine ⟨finds.1,order,finds.accessible (orElse_of_ne given) (fun _ => ?_),rfl⟩
    change normalizeUserId (orElse (some (normalizeUserId userId)) tenancy.getCurrentUser) =
      normalizeUserId userId
    rw [orElse_of_ne (normalizeUserId_ne userId),normalizeUserId_normalizeUserId]
  · rw [decided] at found
    cases found

private theorem queryOrderInner_ok {rendering : Rendering} {table : OrderTable} {tenancy : Tenancy}
    {args : QueryArgs} {ossUrl : Option Text} {report : Report} (given : args.tenantId ≠ [])
    (found : queryOrderInner rendering table tenancy args ossUrl = .ok report) :
    ∃ number, resolveOrderNumber args = .ok (some number) ∧ isOrderNo number = true ∧
      ∃ order, Accessible table args.tenantId args.userId number order ∧
        Tells rendering order report := by
  have fetched (number : Text) (resolved : resolveOrderNumber args = .ok (some number))
      (rest : (do
        let report ← fetchOrderReport rendering table tenancy number args.tenantId args.query
          args.userId
        return if args.persist then {report with ossUrl := ossUrl} else report) = .ok report) :
      ∃ number, resolveOrderNumber args = .ok (some number) ∧ isOrderNo number = true ∧
        ∃ order, Accessible table args.tenantId args.userId number order ∧
          Tells rendering order report := by
    cases base : fetchOrderReport rendering table tenancy number args.tenantId args.query
        args.userId with
    | error _ =>
      rw [base] at rest
      cases rest
    | ok plain =>
      rw [base] at rest
      obtain ⟨fits,order,accessible,rfl⟩ := fetchOrderReport_ok given base
      rw [(tight_resolved resolved).1] at fits accessible
      refine ⟨number,resolved,fits,order,accessible,?_⟩
      cases rest
      split
      · exact .stored (.fetched args.query) ossUrl
      · exact .fetched args.query
  unfold queryOrderInner at found
  unfold resolveOrderNumber at fetched
  unfold resolveOrderNumber
  by_cases explicit : args.requireExplicitOrderNo = true
  · rw [if_pos explicit] at found fetched ⊢
    cases number : explicitOrderNo args.orderNo with
    | none =>
      rw [number] at found
      cases found
    | some number' =>
      rw [number] at found fetched
      exact fetched number' rfl found
  · rw [if_neg explicit] at found fetched ⊢
    cases number : resolveQueryOrderNo args.query args.orderNo args.userId args.lastOrderNo with
    | error _ =>
      rw [number] at found
      cases found
    | ok number' =>
      rw [number] at found fetched
      exact fetched number' rfl found

def Fate.fails : Fate → Bool
  | .busy _ | .timesOut => true
  | _ => false

/-- What an answer shows: the order as it is now, a kept report of it, or no order. -/
inductive Shows (host : Host Body) (args : QueryArgs) (fate : Fate) (report : Report) : Prop
  | fresh {number : Text} {order : Order} (resolved : resolveOrderNumber args = .ok (some number))
    (fits : isOrderNo number = true)
    (accessible : Accessible host.table args.tenantId args.userId number order)
    (tells : Tells host.rendering order report)
  | stale {resolved : Option Text} {cached : Report} {cachedAt : ℚ}
    (resolves : resolveOrderNumber args = .ok resolved) (fails : fate.fails = true)
    (enabled : host.settings.toolCacheEnabled = true)
    (accessible : canAccessOrder host.table host.tenancy (strip (fallbackOrderNo args resolved))
      args.tenantId args.userId = true)
    (keeps : Keeps host.session host.store host.now args.tenantId args.userId
      (strip (fallbackOrderNo args resolved)) cached cachedAt)
    (shown : report = annotateStaleOrder cached (max 0 (host.now - cachedAtOr cachedAt host.now)))
  | busy (orderNo message : Text) (shown : report = busyReport orderNo message)

private theorem strip_orElse_unknown (text : Text) :
    strip (orElse (some (strip text)) "unknown".toList) = strip text ∨
      strip (orElse (some (strip text)) "unknown".toList) = "unknown".toList := by
  cases stripped : strip text with
  | nil => exact Or.inr (by decide)
  | cons char rest =>
    refine Or.inl ?_
    rw [orElse_of_ne (List.cons_ne_nil char rest),← stripped]
    exact strip_of_tight (tight_strip text)

private theorem handleTransientFailure_shows {host : Host Body} {args : QueryArgs} {fate : Fate}
    {resolved busy : Option Text} {escalates : Bool} {report : Report} (given : args.tenantId ≠ [])
    (resolves : resolveOrderNumber args = .ok resolved) (fails : fate.fails = true)
    (found : handleTransientFailure host (fallbackOrderNo args resolved) args busy escalates =
      .ok report) : Shows host args fate report := by
  unfold handleTransientFailure at found
  dsimp only at found
  split at found
  · rename_i cached at' looked
    obtain ⟨enabled,accessible,cachedAt,keeps,rfl⟩ := getCachedOrder_found looked
    rcases strip_orElse_unknown (fallbackOrderNo args resolved) with same | unknown
    · rw [same] at accessible keeps
      exact .stale resolves fails enabled accessible keeps (Except.ok.inj found).symm
    · rw [unknown] at accessible
      exact absurd (canAccessOrder_accessible given accessible).1 (by decide)
  · split at found
    · cases found
    · split at found
      · exact .busy _ _ (Except.ok.inj found).symm
      · cases found

theorem handleTransientFailure_kept {host : Host Body} {args : QueryArgs} {orderNo : Text}
    {busy : Option Text} {escalates : Bool} {report : Report}
    (found : handleTransientFailure host orderNo args busy escalates = .ok report)
    (cacheable : isCacheableOrderReport report = true) :
    (getCachedOrder host.settings host.table host.tenancy host.session host.store host.now
      (orElse (some (strip orderNo)) "unknown".toList) args.tenantId args.userId).isSome = true := by
  unfold handleTransientFailure at found
  dsimp only at found
  split at found
  · rename_i looked
    rw [looked]
    rfl
  · split at found
    · cases found
    · split at found
      · rw [← Except.ok.inj found,busyReport_not_cacheable] at cacheable
        cases cacheable
      · cases found

/-- What a call does: it fails, it runs in the pool, or the pool fails it. -/
inductive Ends (host : Host Body) (args : QueryArgs) (fate : Fate) (escalates : Bool)
    (ended : Except QueryError Report × Store Body) : Prop
  | error (error : QueryError) (same : ended = (.error error,host.store))
  | runs (ossUrl : Option Text) (report : Report) (run : fate = .runs ossUrl)
    (inner : queryOrderInner host.rendering host.table host.tenancy args ossUrl = .ok report)
    (same : ended =
      (.ok report,putCachedOrder host.settings host.store host.now report args.tenantId args.userId))
  | fails (resolved busy : Option Text) (resolves : resolveOrderNumber args = .ok resolved)
    (fails : fate.fails = true)
    (same : ended =
      (handleTransientFailure host (fallbackOrderNo args resolved) args busy escalates,host.store))

theorem queryOrder_ends (host : Host Body) (args : QueryArgs) (fate : Fate) (escalates : Bool) :
    Ends host args fate escalates (queryOrder host args fate escalates) := by
  unfold queryOrder
  cases resolves : resolveOrderNumber args with
  | error error => exact .error error rfl
  | ok resolved =>
    cases fate with
    | runs ossUrl =>
      dsimp only
      cases inner : queryOrderInner host.rendering host.table host.tenancy args ossUrl with
      | ok report => exact .runs ossUrl report rfl inner rfl
      | error error => exact .error error rfl
    | busy message => exact .fails resolved (some message) resolves rfl rfl
    | timesOut => exact .fails resolved none resolves rfl rfl
    | raises message => exact .error (.other message) rfl

theorem queryOrder_shows {host : Host Body} {args : QueryArgs} {fate : Fate} {escalates : Bool}
    {report : Report} (given : args.tenantId ≠ [])
    (answer : (queryOrder host args fate escalates).1 = .ok report) : Shows host args fate report := by
  cases queryOrder_ends host args fate escalates with
  | error error same =>
    rw [same] at answer
    cases answer
  | runs ossUrl shown run inner same =>
    rw [same] at answer
    cases answer
    obtain ⟨number,named,fits,order,accessible,tells⟩ := queryOrderInner_ok given inner
    exact .fresh named fits accessible tells
  | fails resolved busy resolves fails same =>
    rw [same] at answer
    exact handleTransientFailure_shows given resolves fails answer

theorem queryOrder_falls (host : Host Body) {args : QueryArgs} {fate : Fate} (escalates : Bool)
    {resolved : Option Text} {report : Report} {cachedAt : ℚ}
    (resolves : resolveOrderNumber args = .ok resolved) (fails : fate.fails = true)
    (enabled : host.settings.toolCacheEnabled = true)
    (solid : strip (fallbackOrderNo args resolved) ≠ [])
    (accessible : canAccessOrder host.table host.tenancy (strip (fallbackOrderNo args resolved))
      args.tenantId args.userId = true)
    (keeps : Keeps host.session host.store host.now args.tenantId args.userId
      (strip (fallbackOrderNo args resolved)) report cachedAt) :
    ∃ shown shownAt age, Keeps host.session host.store host.now args.tenantId args.userId
        (strip (fallbackOrderNo args resolved)) shown shownAt ∧
      (queryOrder host args fate escalates).1 = .ok (annotateStaleOrder shown age) := by
  have number : orElse (some (strip (fallbackOrderNo args resolved))) "unknown".toList =
      strip (fallbackOrderNo args resolved) := orElse_of_ne solid
  have tight := strip_of_tight (tight_strip (fallbackOrderNo args resolved))
  have found : ∃ found, getCachedOrder host.settings host.table host.tenancy host.session
      host.store host.now (strip (fallbackOrderNo args resolved)) args.tenantId args.userId =
      some found :=
    getCachedOrder_of_keeps _ enabled (by rwa [tight]) (by rwa [tight]) (by rw [tight]; exact keeps)
  obtain ⟨⟨shown,at'⟩,looked⟩ := found
  obtain ⟨_,_,shownAt,kept,_⟩ := getCachedOrder_found looked
  rw [tight] at kept
  have handled (busy : Option Text) :
      handleTransientFailure host (fallbackOrderNo args resolved) args busy escalates =
        .ok (annotateStaleOrder shown (max 0 (host.now - at'))) := by
    unfold handleTransientFailure
    dsimp only
    rw [number,looked]
  refine ⟨shown,shownAt,max 0 (host.now - at'),kept,?_⟩
  unfold queryOrder
  rw [resolves]
  cases fate with
  | busy message => exact handled (some message)
  | timesOut => exact handled none
  | runs ossUrl => cases fails
  | raises message => cases fails

theorem queryOrder_store (host : Host Body) (args : QueryArgs) (fate : Fate) (escalates : Bool)
    (given : args.tenantId ≠ []) :
    (queryOrder host args fate escalates).2 = host.store ∨ ∃ number order report,
      isOrderNo number = true ∧ Accessible host.table args.tenantId args.userId number order ∧
        Tells host.rendering order report ∧ (queryOrder host args fate escalates).2 =
          putCachedOrder host.settings host.store host.now report args.tenantId args.userId := by
  cases queryOrder_ends host args fate escalates with
  | error error same => exact Or.inl (congrArg Prod.snd same)
  | runs ossUrl report run inner same =>
    obtain ⟨number,_,fits,order,accessible,tells⟩ := queryOrderInner_ok given inner
    exact Or.inr ⟨number,order,report,fits,accessible,tells,congrArg Prod.snd same⟩
  | fails resolved busy resolves fails same => exact Or.inl (congrArg Prod.snd same)

end CustomerService.OrderQuery
