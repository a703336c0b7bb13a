import CustomerService.LogLines
import CustomerService.Transition
import CustomerService.TurnAccounts

/-! Every HTTP request under its id: what is counted and logged for it, and the lines of its own code, while the
requests of a process run side by side, each in a context of its own. -/
namespace CustomerService.HttpRequests

open Text Metrics KeyedTable LogLines
open OrderAccess (orElse)
open TurnAccounts (durationBuckets counted)

/-! ### The middleware -/

def metricPath (path : Text) : Text :=
  if "/api/v1/orders/".toList.isPrefixOf path then "/api/v1/orders/\x7border_no\x7d".toList
  else if "/static/".toList.isPrefixOf path then "/static".toList
  else if path = [] then ['/'] else path

def skipHttpLog : List Text := ["/health","/ready","/metrics"].map String.toList

/-- What the middleware reads of the scope of an HTTP request. -/
structure Scope where
  requestIdHeader : Option Text
  path : Option Text
  method : Option Text

/-- `new_request_id`; the digits are those of a fresh `uuid4`. -/
def newRequestId (raw : Option Text) (fresh : Fin 32 → Fin 16) : Text :=
  let value := strip (raw.getD [])
  if value = [] then (List.ofFn fresh).map (fun digit => Json.hexDigit digit.val) else value

/-- What `inc_http`, `observe_http` and `log_event` are called with. -/
structure Counted where
  task : Nat
  method : Text
  path : Text
  status : Nat
  elapsed : ℚ

def Counted.labels (counted : Counted) : Labels :=
  ⟨[("method",String.ofList counted.method),("path",String.ofList (metricPath counted.path)),
    ("status",String.ofList (Nat.toDigits 10 counted.status))],by simp⟩

def Counted.metrics (counted : Counted) : List Metrics.Event :=
  [.inc "cs_http_requests_total" 1 counted.labels,
    .observe "cs_http_duration_seconds" counted.elapsed durationBuckets counted.labels]

/-- `int(elapsed * 1000)`. -/
def Counted.elapsedMs (counted : Counted) : Nat := ⌊counted.elapsed * mkRat 1000 1⌋.toNat

private theorem isDecimal_of_isDigit {char : Char} (digit : char.isDigit = true) : Json.isDecimal char = true := by
  have bounds : 48 ≤ char.toNat ∧ char.toNat ≤ 57 := by
    simpa [Char.isDigit,UInt32.le_iff_toNat_le] using digit
  simp [Json.isDecimal,inRange,bounds]

private theorem heads_toDigits {number : Nat} (positive : 0 < number) :
    heads (· == '0') (Nat.toDigits 10 number) = false := by
  induction number using Nat.strongRecOn with
  | ind number ih =>
    by_cases small : number < 10
    · have table : ∀ digit < 10, 0 < digit → heads (· == '0') [Nat.digitChar digit] = false := by decide
      rw [Nat.toDigits_of_lt_base small]
      exact table number small positive
    · rw [Nat.toDigits_of_base_le (by decide) (Nat.le_of_not_lt small),
        heads_of_start Nat.toDigits_ne_nil (List.prefix_append _ _)]
      exact ih (number / 10) (by omega) (by omega)

private theorem number_toDigits (number : Nat) : (Json.number (Nat.toDigits 10 number)).valid = true := by
  have decimals : ∀ char ∈ Nat.toDigits 10 number, Json.isDecimal char = true := fun char inside =>
    isDecimal_of_isDigit (Nat.isDigit_of_mem_toDigits (by decide) (by decide) inside)
  have numerals : (Nat.toDigits 10 number).all Json.isNumeral = true := by
    refine List.all_eq_true.mpr (fun char inside => Bool.or_eq_true_iff.mpr (Or.inl (decimals char inside)))
  have whole : (Nat.toDigits 10 number).takeWhile Json.isDecimal = Nat.toDigits 10 number :=
    List.takeWhile_eq_self_iff.mpr decimals
  have nothing : (Nat.toDigits 10 number).dropWhile Json.isDecimal = [] := List.dropWhile_eq_nil_iff.mpr decimals
  have unsigned : heads (· == '-') (Nat.toDigits 10 number) = false := by
    cases written : Nat.toDigits 10 number with
    | nil => rfl
    | cons char rest =>
      have decimal := decimals char (written ▸ List.mem_cons_self)
      exact beq_false_of_ne (fun same => absurd (same ▸ decimal) (by decide))
  have leading : ((Nat.toDigits 10 number).length == 1 || !heads (· == '0') (Nat.toDigits 10 number)) = true := by
    rcases Nat.eq_zero_or_pos number with rfl | positive
    · rfl
    · rw [heads_toDigits positive,Bool.not_false,Bool.or_true]
  refine Bool.and_eq_true_iff.mpr ⟨numerals,?_⟩
  unfold Json.isNumber
  dsimp only
  rw [unsigned,if_neg Bool.false_ne_true,whole,nothing,leading,List.isEmpty_eq_false_iff.mpr Nat.toDigits_ne_nil]
  rfl

/-- What is in force where a line is logged, beside the request id. -/
structure Ambient where
  tenantId : Text
  userId : Text
  traceId : Text
  spanId : Text

def Counted.line (counted : Counted) (requestId : Text) (ambient : Ambient) : LogRecord where
  level := "INFO".toList
  logger := "cs.app".toList
  msg := "http_request".toList
  requestId := requestId
  tenantId := ambient.tenantId
  userId := ambient.userId
  traceId := ambient.traceId
  spanId := ambient.spanId
  cs := ⟨[("method".toList,some (.str counted.method)),("path".toList,some (.str (metricPath counted.path))),
    ("status".toList,some (.number (Nat.toDigits 10 counted.status))),
    ("elapsed_ms".toList,some (.number (Nat.toDigits 10 counted.elapsedMs)))],by simp⟩
  exc := none
  fits := by
    rintro entry (_ | ⟨_,_ | ⟨_,_ | ⟨_,_ | ⟨_,⟨⟩⟩⟩⟩⟩) value ⟨⟩
    · rfl
    · rfl
    · exact number_toDigits _
    · exact number_toDigits _

/-! ### Requests side by side -/

structure Request where
  requestId : Text
  path : Text
  method : Text
  status : Nat
  recorded : Bool
  ended : Bool
  outer : Text

/-- A line of the log, and whose task wrote it; `http` marks those of the middleware. -/
structure Line where
  task : Nat
  http : Bool
  record : LogRecord

/-- The start of a response, with the id in its header. -/
structure Begun where
  task : Nat
  requestId : Text
  status : Nat

def Foreign : Metrics.Event → Prop
  | .inc name .. => name ≠ "cs_http_requests_total"
  | .observe name .. => name ≠ "cs_http_duration_seconds"

structure World where
  requests : Nat → Option Request
  context : Nat → Text
  counts : List Counted
  metrics : List Metrics.Event
  lines : List Line
  sent : List Begun

def World.start : World := ⟨fun _ => none,fun _ => [],[],[],[],[]⟩

/-- A request comes in, in a task whose context holds `outer`; its application begins a response, logs (the filter
sets the request id) and ends; some other place counts. -/
inductive Action
  | enter (task : Nat) (scope : Scope) (fresh : Fin 32 → Fin 16) (outer : Text)
  | respond (task : Nat) (status : Option Nat) (elapsed : ℚ) (ambient : Ambient)
  | log (task : Nat) (record : LogRecord)
  | leave (task : Nat) (elapsed : ℚ) (ambient : Ambient)
  | count (event : Metrics.Event) (foreign : Foreign event)

def World.put (world : World) (task : Nat) (request : Request) : World :=
  { world with requests := fun other => if other = task then some request else world.requests other }

def World.setContext (world : World) (task : Nat) (requestId : Text) : World :=
  { world with context := fun other => if other = task then requestId else world.context other }

/-- `inc_http`, `observe_http` and the line of a request. -/
def World.record (world : World) (task : Nat) (request : Request) (elapsed : ℚ) (ambient : Ambient) : World :=
  let counted : Counted := ⟨task,request.method,request.path,request.status,elapsed⟩
  { world with
    counts := world.counts ++ [counted]
    metrics := world.metrics ++ counted.metrics
    lines := world.lines ++ if skipHttpLog.contains request.path then []
      else [⟨task,true,counted.line (world.context task) ambient⟩] }

def World.step (world : World) : Action → World
  | .enter task scope fresh outer =>
    match world.requests task with
    | some _ => world
    | none =>
      let requestId := newRequestId scope.requestIdHeader fresh
      -- `set_request_id` strips once more
      (world.put task ⟨requestId,orElse scope.path ['/'],orElse scope.method "GET".toList,500,false,false,
        outer⟩).setContext task (strip requestId)
  | .respond task status elapsed ambient =>
    match world.requests task with
    | none => world
    | some request =>
      if request.ended then world
      else
        let begun := { request with status := status.getD 500 }
        let sent := { world with sent := world.sent ++ [Begun.mk task request.requestId begun.status] }
        if request.recorded then sent.put task begun
        else (sent.record task begun elapsed ambient).put task { begun with recorded := true }
  | .log task record =>
    match world.requests task with
    | none => world
    | some request =>
      if request.ended then world
      else { world with lines := world.lines ++
        [⟨task,false,{ record with requestId := world.context task }⟩] }
  | .leave task elapsed ambient =>
    match world.requests task with
    | none => world
    | some request =>
      if request.ended then world
      else
        let recorded := if request.recorded then world else world.record task request elapsed ambient
        (recorded.put task { request with recorded := true, ended := true }).setContext task request.outer
  | .count event _ => { world with metrics := world.metrics ++ [event] }

def World.run (actions : List Action) : World := Transition.run World.step .start actions

/-! ### What holds at any time -/

/-- The status of the first response that was begun in a task. -/
def firstStatus (sent : List Begun) (task : Nat) : Nat :=
  ((sent.find? (fun begun => begun.task == task)).map Begun.status).getD 500

def IsLine (requests : Nat → Option Request) (line : Line) (counted : Counted) : Prop :=
  line.task = counted.task ∧ ∃ request ambient, requests counted.task = some request ∧
    line.record = counted.line request.requestId ambient

structure World.Sound (world : World) : Prop where
  context : ∀ task request, world.requests task = some request →
    world.context task = if request.ended then request.outer else request.requestId
  recorded : ∀ task request, world.requests task = some request →
    (request.recorded = true ↔ task ∈ world.counts.map Counted.task)
  ended : ∀ task request, world.requests task = some request → request.ended = true → request.recorded = true
  answering : ∀ task request, world.requests task = some request → request.ended = false →
    (request.recorded = true ↔ ∃ begun ∈ world.sent, begun.task = task)
  waiting : ∀ task request, world.requests task = some request → request.recorded = false → request.status = 500
  named : ∀ task request, world.requests task = some request → request.requestId ≠ []
  distinct : (world.counts.map Counted.task).Nodup
  counts : ∀ counted ∈ world.counts, ∃ request, world.requests counted.task = some request ∧
    counted.method = request.method ∧ counted.path = request.path ∧
    counted.status = firstStatus world.sent counted.task
  lines : ∀ line ∈ world.lines, ∃ request, world.requests line.task = some request ∧
    line.record.requestId = request.requestId
  http : List.Forall₂ (IsLine world.requests) (world.lines.filter Line.http)
    (world.counts.filter (fun counted => !skipHttpLog.contains counted.path))
  sent : ∀ begun ∈ world.sent, ∃ request, world.requests begun.task = some request ∧
    begun.requestId = request.requestId
  amounts : ∀ key, Metrics.amounts "cs_http_requests_total" key world.metrics =
    List.replicate (world.counts.countP (fun counted => labelKey counted.labels = key)) 1
  values : ∀ key, Metrics.values "cs_http_duration_seconds" key world.metrics =
    (world.counts.filter (fun counted => labelKey counted.labels = key)).map Counted.elapsed
  bounds : ∀ value buckets labels, .observe "cs_http_duration_seconds" value buckets labels ∈ world.metrics →
    buckets = durationBuckets

private theorem strip_newRequestId (raw : Option Text) (fresh : Fin 32 → Fin 16) :
    strip (newRequestId raw fresh) = newRequestId raw fresh := by
  unfold newRequestId
  dsimp only
  split_ifs
  · apply strip_of_tight
    have solid : ∀ digit : Fin 16, isSpace (Json.hexDigit digit.val) = false := by decide
    have general (digits : List (Fin 16)) :
        heads isSpace (digits.map (fun digit => Json.hexDigit digit.val)) = false := by
      cases digits with
      | nil => rfl
      | cons digit rest => exact solid digit
    refine ⟨general (List.ofFn fresh),?_⟩
    rw [← List.map_reverse]
    exact general (List.ofFn fresh).reverse
  · exact strip_of_tight (tight_strip _)

theorem newRequestId_ne_nil (raw : Option Text) (fresh : Fin 32 → Fin 16) : newRequestId raw fresh ≠ [] := by
  unfold newRequestId
  dsimp only
  split_ifs with absent
  · simp
  · exact absent

section
variable {world : World}

private theorem metrics_counted (counted : Counted) (key : LabelKey) :
    Metrics.amounts "cs_http_requests_total" key counted.metrics =
        (if labelKey counted.labels = key then [1] else []) ∧
      Metrics.values "cs_http_duration_seconds" key counted.metrics =
        if labelKey counted.labels = key then [counted.elapsed] else [] := by
  unfold Counted.metrics
  rw [TurnAccounts.amounts_inc,TurnAccounts.amounts_observe,TurnAccounts.values_inc,TurnAccounts.values_observe]
  by_cases same : labelKey counted.labels = key <;>
    simp [same,Metrics.amounts,Metrics.values,increments,observations,itemsAt]

private theorem metrics_foreign {event : Metrics.Event} (foreign : Foreign event) (key : LabelKey) :
    Metrics.amounts "cs_http_requests_total" key [event] = [] ∧
      Metrics.values "cs_http_duration_seconds" key [event] = [] := by
  cases event with
  | inc name amount labels =>
    have other : name ≠ "cs_http_requests_total" := foreign
    rw [TurnAccounts.amounts_inc,TurnAccounts.values_inc,if_neg (fun same => other same.1)]
    exact ⟨rfl,rfl⟩
  | observe name value buckets labels =>
    have other : name ≠ "cs_http_duration_seconds" := foreign
    rw [TurnAccounts.amounts_observe,TurnAccounts.values_observe,if_neg (fun same => other same.1)]
    exact ⟨rfl,rfl⟩

theorem World.Sound.count (sound : world.Sound) {event : Metrics.Event} (foreign : Foreign event) :
    World.Sound { world with metrics := world.metrics ++ [event] } := by
  refine { sound with
    amounts := fun key => ?_
    values := fun key => ?_
    bounds := fun value buckets labels inside => ?_ }
  · rw [TurnAccounts.amounts_append,sound.amounts,(metrics_foreign foreign key).1,List.append_nil]
  · rw [TurnAccounts.values_append,sound.values,(metrics_foreign foreign key).2,List.append_nil]
  · rcases List.mem_append.mp inside with old | new
    · exact sound.bounds value buckets labels old
    · rw [← List.mem_singleton.mp new] at foreign
      exact absurd rfl foreign

theorem World.Sound.amounts_counted (sound : world.Sound) (counted : Counted) (key : LabelKey) :
    Metrics.amounts "cs_http_requests_total" key (world.metrics ++ counted.metrics) =
      List.replicate ((world.counts ++ [counted]).countP (fun counted => labelKey counted.labels = key)) 1 := by
  rw [TurnAccounts.amounts_append,sound.amounts,(metrics_counted counted key).1,List.countP_append,List.replicate_add]
  by_cases same : labelKey counted.labels = key <;> simp [same]

theorem World.Sound.values_counted (sound : world.Sound) (counted : Counted) (key : LabelKey) :
    Metrics.values "cs_http_duration_seconds" key (world.metrics ++ counted.metrics) =
      ((world.counts ++ [counted]).filter (fun counted => labelKey counted.labels = key)).map Counted.elapsed := by
  rw [TurnAccounts.values_append,sound.values,(metrics_counted counted key).2,List.filter_append,List.map_append]
  by_cases same : labelKey counted.labels = key <;> simp [same]

theorem World.Sound.bounds_counted (sound : world.Sound) (counted : Counted) {value : ℚ} {buckets : List Bound}
    {labels : Labels} (inside : .observe "cs_http_duration_seconds" value buckets labels ∈
      world.metrics ++ counted.metrics) : buckets = durationBuckets := by
  rcases List.mem_append.mp inside with before | last
  · exact sound.bounds value buckets labels before
  · have own : value = counted.elapsed ∧ buckets = durationBuckets ∧ labels = counted.labels := by
      simpa [Counted.metrics] using last
    exact own.2.1

/-- A request that goes on under the same id, for the same method and path. -/
structure Continues (old new : Request) : Prop where
  requestId : new.requestId = old.requestId
  method : new.method = old.method
  path : new.path = old.path

private theorem put_cases {task other : Nat} {new request : Request}
    (found : (world.put task new).requests other = some request) :
    other = task ∧ request = new ∨ other ≠ task ∧ world.requests other = some request := by
  unfold World.put at found
  dsimp only at found
  split_ifs at found with same
  · exact Or.inl ⟨same,(Option.some.inj found).symm⟩
  · exact Or.inr ⟨same,found⟩

private theorem holds_put (Holds : Request → Prop) {task other : Nat} {old new : Request}
    (held : world.requests task = some old) (kept : Holds old → Holds new)
    (some' : ∃ request, world.requests other = some request ∧ Holds request) :
    ∃ request, (world.put task new).requests other = some request ∧ Holds request := by
  obtain ⟨request,found,holds⟩ := some'
  by_cases same : other = task
  · subst same
    rw [held] at found
    obtain rfl := Option.some.inj found
    exact ⟨new,if_pos rfl,kept holds⟩
  · exact ⟨request,(if_neg same).trans found,holds⟩

private theorem isLine_put {task : Nat} {old new : Request} (held : world.requests task = some old)
    (continues : Continues old new) (line : Line) (counted : Counted) (own : IsLine world.requests line counted) :
    IsLine (world.put task new).requests line counted := by
  obtain ⟨same,request,ambient,found,written⟩ := own
  obtain ⟨request,found,ambient,written⟩ := holds_put
    (fun request => ∃ ambient, line.record = counted.line request.requestId ambient) held
    (fun written => continues.requestId ▸ written) ⟨request,found,ambient,written⟩
  exact ⟨same,request,ambient,found,written⟩

/-- What holds of one request, given what is counted and begun. -/
structure Fits (counts : List Counted) (sent : List Begun) (task : Nat) (request : Request) (context : Text) :
    Prop where
  context : context = if request.ended then request.outer else request.requestId
  recorded : request.recorded = true ↔ task ∈ counts.map Counted.task
  ended : request.ended = true → request.recorded = true
  answering : request.ended = false → (request.recorded = true ↔ ∃ begun ∈ sent, begun.task = task)
  waiting : request.recorded = false → request.status = 500
  named : request.requestId ≠ []

theorem World.Sound.fits (sound : world.Sound) {task : Nat} {request : Request}
    (held : world.requests task = some request) : Fits world.counts world.sent task request (world.context task) :=
  ⟨sound.context task request held,sound.recorded task request held,sound.ended task request held,
    sound.answering task request held,sound.waiting task request held,sound.named task request held⟩

private theorem firstStatus_append {sent extra : List Begun} {task : Nat}
    (there : (∃ begun ∈ sent, begun.task = task) ∨ ∀ begun ∈ extra, begun.task ≠ task) :
    firstStatus (sent ++ extra) task = firstStatus sent task := by
  unfold firstStatus
  rw [List.find?_append]
  rcases there with ⟨begun,listed,same⟩ | others
  · have some' : (sent.find? (fun begun => begun.task == task)).isSome = true :=
      List.find?_isSome.mpr ⟨begun,listed,by simpa using same⟩
    obtain ⟨found,first⟩ := Option.isSome_iff_exists.mp some'
    rw [first]
    rfl
  · have none' : extra.find? (fun begun => begun.task == task) = none :=
      List.find?_eq_none.mpr (fun begun listed => by simpa using others begun listed)
    rw [none',Option.or_none]

/-- A request goes on: what is counted, written and begun meanwhile is its own. -/
structure Progress (world : World) (task : Nat) (old new : Request) (context : Nat → Text) (extra : List Begun)
    (more : List Counted) : Prop where
  held : world.requests task = some old
  continues : Continues old new
  others : ∀ other, other ≠ task → context other = world.context other
  begun : ∀ begun ∈ extra, begun.task = task ∧ begun.requestId = new.requestId
  counted : ∀ counted ∈ more, counted.task = task
  fits : Fits (world.counts ++ more) (world.sent ++ extra) task new (context task)

section
variable {task : Nat} {old new : Request} {context : Nat → Text} {extra : List Begun} {more : List Counted}

theorem Progress.fits_all (progress : Progress world task old new context extra more) (sound : world.Sound)
    {other : Nat} {request : Request} (found : (world.put task new).requests other = some request) :
    Fits (world.counts ++ more) (world.sent ++ extra) other request (context other) := by
  rcases put_cases found with ⟨rfl,rfl⟩ | ⟨apart,found⟩
  · exact progress.fits
  · obtain ⟨own,recorded,ended,answering,waiting,named⟩ := sound.fits found
    have counts : other ∈ (world.counts ++ more).map Counted.task ↔ other ∈ world.counts.map Counted.task := by
      rw [List.map_append,List.mem_append]
      refine or_iff_left (fun inside => ?_)
      obtain ⟨counted,listed,same⟩ := List.mem_map.mp inside
      exact apart (same.symm.trans (progress.counted counted listed))
    have sent : (∃ begun ∈ world.sent ++ extra, begun.task = other) ↔ ∃ begun ∈ world.sent, begun.task = other := by
      constructor
      · rintro ⟨begun,listed,same⟩
        rcases List.mem_append.mp listed with before | later
        · exact ⟨begun,before,same⟩
        · exact absurd (same.symm.trans (progress.begun begun later).1) apart
      · rintro ⟨begun,listed,same⟩
        exact ⟨begun,List.mem_append_left _ listed,same⟩
    exact ⟨(progress.others other apart).trans own,recorded.trans counts.symm,ended,
      fun open' => (answering open').trans sent.symm,waiting,named⟩

theorem Progress.sent (progress : Progress world task old new context extra more) (sound : world.Sound) :
    ∀ begun ∈ world.sent ++ extra, ∃ request, (world.put task new).requests begun.task = some request ∧
      begun.requestId = request.requestId := by
  intro begun listed
  rcases List.mem_append.mp listed with before | later
  · exact holds_put (fun request => begun.requestId = request.requestId) progress.held
      (fun same => same.trans progress.continues.requestId.symm) (sound.sent begun before)
  · obtain ⟨same,own⟩ := progress.begun begun later
    exact ⟨new,by rw [same]; exact if_pos rfl,own⟩

theorem Progress.lines (progress : Progress world task old new context extra more) (sound : world.Sound) :
    ∀ line ∈ world.lines, ∃ request, (world.put task new).requests line.task = some request ∧
      line.record.requestId = request.requestId :=
  fun line listed => holds_put (fun request => line.record.requestId = request.requestId) progress.held
    (fun same => same.trans progress.continues.requestId.symm) (sound.lines line listed)

theorem Progress.counts (progress : Progress world task old new context extra more) (sound : world.Sound)
    (again : extra = [] ∨ (∃ begun ∈ world.sent, begun.task = task) ∨ task ∉ world.counts.map Counted.task) :
    ∀ counted ∈ world.counts, ∃ request, (world.put task new).requests counted.task = some request ∧
      counted.method = request.method ∧ counted.path = request.path ∧
      counted.status = firstStatus (world.sent ++ extra) counted.task := by
  intro counted listed
  obtain ⟨request,found,method,path,status⟩ := sound.counts counted listed
  obtain ⟨request,found,method,path⟩ := holds_put
    (fun request => counted.method = request.method ∧ counted.path = request.path) progress.held
    (fun same => ⟨same.1.trans progress.continues.method.symm,same.2.trans progress.continues.path.symm⟩)
    ⟨request,found,method,path⟩
  refine ⟨request,found,method,path,status.trans (firstStatus_append ?_).symm⟩
  -- a later response of the same task does not come first
  by_cases own : counted.task = task
  · rcases again with none' | before | uncounted
    · exact Or.inr (by simp [none'])
    · exact Or.inl (own ▸ before)
    · exact absurd (own ▸ List.mem_map_of_mem listed) uncounted
  · exact Or.inr (fun begun later same => own (same.symm.trans (progress.begun begun later).1))

theorem Progress.change (progress : Progress world task old new context extra []) (sound : world.Sound)
    (again : extra = [] ∨ ∃ begun ∈ world.sent, begun.task = task) :
    World.Sound { world.put task new with context := context, sent := world.sent ++ extra } := by
  have fits {other : Nat} {request : Request} (found : (world.put task new).requests other = some request) :
      Fits world.counts (world.sent ++ extra) other request (context other) := by
    simpa only [List.append_nil] using progress.fits_all sound found
  exact {
    context := fun _ _ found => (fits found).context
    recorded := fun _ _ found => (fits found).recorded
    ended := fun _ _ found => (fits found).ended
    answering := fun _ _ found => (fits found).answering
    waiting := fun _ _ found => (fits found).waiting
    named := fun _ _ found => (fits found).named
    distinct := sound.distinct
    counts := progress.counts sound (again.imp_right Or.inl)
    lines := progress.lines sound
    http := sound.http.imp (isLine_put progress.held progress.continues)
    sent := progress.sent sound
    amounts := sound.amounts
    values := sound.values
    bounds := sound.bounds }

theorem Progress.http {counted : Counted} (progress : Progress world task old new context extra [counted])
    (sound : world.Sound) (ambient : Ambient) (requestId : world.context task = old.requestId)
    (path : counted.path = old.path) :
    List.Forall₂ (IsLine (world.put task new).requests)
      ((world.lines ++ if skipHttpLog.contains old.path then []
        else [Line.mk task true (counted.line (world.context task) ambient)]).filter Line.http)
      ((world.counts ++ [counted]).filter (fun counted => !skipHttpLog.contains counted.path)) := by
  have own := progress.counted counted List.mem_cons_self
  have before := sound.http.imp (isLine_put progress.held progress.continues)
  rw [List.filter_append,List.filter_append]
  refine List.rel_append before ?_
  rw [← path]
  by_cases skipped : skipHttpLog.contains counted.path = true
  · rw [if_pos skipped,List.filter_singleton,skipped]
    exact List.Forall₂.nil
  · rw [if_neg skipped,List.filter_singleton (a := counted),Bool.eq_false_iff.mpr skipped]
    refine List.Forall₂.cons ⟨own.symm,new,ambient,?_,?_⟩ List.Forall₂.nil
    · rw [own]
      exact if_pos rfl
    · rw [requestId,progress.continues.requestId]

theorem Progress.record {counted : Counted}
    (progress : Progress world task old new context extra [counted]) (sound : world.Sound) (ambient : Ambient)
    (uncounted : task ∉ world.counts.map Counted.task) (requestId : world.context task = old.requestId)
    (method : counted.method = old.method) (path : counted.path = old.path)
    (status : counted.status = firstStatus (world.sent ++ extra) task) :
    World.Sound { world.put task new with
      context := context
      counts := world.counts ++ [counted]
      metrics := world.metrics ++ counted.metrics
      lines := world.lines ++ if skipHttpLog.contains old.path then []
        else [⟨task,true,counted.line (world.context task) ambient⟩]
      sent := world.sent ++ extra } := by
  have own := progress.counted counted List.mem_cons_self
  have fits {other : Nat} {request : Request} (found : (world.put task new).requests other = some request) :=
    progress.fits_all sound found
  have held : (world.put task new).requests task = some new := if_pos rfl
  refine {
    context := fun _ _ found => (fits found).context
    recorded := fun _ _ found => (fits found).recorded
    ended := fun _ _ found => (fits found).ended
    answering := fun _ _ found => (fits found).answering
    waiting := fun _ _ found => (fits found).waiting
    named := fun _ _ found => (fits found).named
    distinct := ?_
    counts := fun other listed => ?_
    lines := fun line listed => ?_
    http := progress.http sound ambient requestId path
    sent := progress.sent sound
    amounts := sound.amounts_counted counted
    values := sound.values_counted counted
    bounds := fun _ _ _ inside => sound.bounds_counted counted inside }
  · rw [List.map_append,List.map_singleton,own]
    exact List.nodup_append.mpr ⟨sound.distinct,List.nodup_singleton task,fun other before last later same =>
      uncounted (List.mem_singleton.mp later ▸ same ▸ before)⟩
  · rcases List.mem_append.mp listed with before | new'
    · exact progress.counts sound (Or.inr (Or.inr uncounted)) other before
    · obtain rfl := List.mem_singleton.mp new'
      refine ⟨new,by rw [own]; exact held,method.trans progress.continues.method.symm,
        path.trans progress.continues.path.symm,by rw [own]; exact status⟩
  · rcases List.mem_append.mp listed with before | new'
    · exact progress.lines sound line before
    · split_ifs at new'
      · exact absurd new' (List.not_mem_nil)
      · obtain rfl := List.mem_singleton.mp new'
        exact ⟨new,held,requestId.trans progress.continues.requestId.symm⟩

end

theorem World.Sound.enter (sound : world.Sound) {task : Nat} (free : world.requests task = none)
    {new : Request} (recorded : new.recorded = false) (ended : new.ended = false) (status : new.status = 500)
    (named : new.requestId ≠ []) :
    World.Sound ((world.put task new).setContext task new.requestId) := by
  have apart {other : Nat} {request : Request} (found : world.requests other = some request) : other ≠ task := by
    rintro rfl
    exact absurd (free.symm.trans found) (Option.some_ne_none request).symm
  have keeps {other : Nat} {request : Request} (found : world.requests other = some request) :
      (world.put task new).requests other = some request := (if_neg (apart found)).trans found
  have uncounted : task ∉ world.counts.map Counted.task := by
    intro inside
    obtain ⟨counted,listed,same⟩ := List.mem_map.mp inside
    obtain ⟨request,found,_⟩ := sound.counts counted listed
    exact apart found same
  have unbegun : ¬∃ begun ∈ world.sent, begun.task = task := by
    rintro ⟨begun,listed,same⟩
    obtain ⟨request,found,_⟩ := sound.sent begun listed
    exact apart found same
  have fits {other : Nat} {request : Request} (found : (world.put task new).requests other = some request) :
      Fits world.counts world.sent other request
        (((world.put task new).setContext task new.requestId).context other) := by
    rcases put_cases found with ⟨rfl,rfl⟩ | ⟨other',found⟩
    · exact ⟨by simp [World.setContext,ended],by simp [recorded,uncounted],by simp [ended],by simp [recorded,unbegun],
        fun _ => status,named⟩
    · exact { sound.fits found with context := (if_neg other').trans (sound.fits found).context }
  exact {
    context := fun _ _ found => (fits found).context
    recorded := fun _ _ found => (fits found).recorded
    ended := fun _ _ found => (fits found).ended
    answering := fun _ _ found => (fits found).answering
    waiting := fun _ _ found => (fits found).waiting
    named := fun _ _ found => (fits found).named
    distinct := sound.distinct
    counts := fun counted listed => (sound.counts counted listed).imp (fun _ own => ⟨keeps own.1,own.2⟩)
    lines := fun line listed => (sound.lines line listed).imp (fun _ own => ⟨keeps own.1,own.2⟩)
    http := sound.http.imp (fun _ _ own =>
      ⟨own.1,own.2.imp (fun _ => Exists.imp (fun _ line => ⟨keeps line.1,line.2⟩))⟩)
    sent := fun begun listed => (sound.sent begun listed).imp (fun _ own => ⟨keeps own.1,own.2⟩)
    amounts := sound.amounts
    values := sound.values
    bounds := sound.bounds }

theorem World.Sound.log (sound : world.Sound) {task : Nat} {request : Request}
    (held : world.requests task = some request) (record : LogRecord) (own : record.requestId = request.requestId) :
    World.Sound { world with lines := world.lines ++ [⟨task,false,record⟩] } := by
  refine { sound with lines := fun line listed => ?_, http := ?_ }
  · rcases List.mem_append.mp listed with before | last
    · exact sound.lines line before
    · obtain rfl := List.mem_singleton.mp last
      exact ⟨request,held,own⟩
  · rw [List.filter_append,List.filter_cons_of_neg Bool.false_ne_true,List.filter_nil,List.append_nil]
    exact sound.http

theorem fits_recorded {counts : List Counted} {sent : List Begun} {task : Nat} {request : Request} {context : Text}
    (recorded : request.recorded = true) (counted : task ∈ counts.map Counted.task)
    (own : context = if request.ended then request.outer else request.requestId)
    (answered : request.ended = true ∨ ∃ begun ∈ sent, begun.task = task) (named : request.requestId ≠ []) :
    Fits counts sent task request context where
  context := own
  recorded := iff_of_true recorded counted
  ended := fun _ => recorded
  answering := fun open' => iff_of_true recorded (answered.resolve_left (by simp [open']))
  waiting := fun unrecorded => absurd recorded (by simp [unrecorded])
  named := named

private theorem firstStatus_of_none {sent : List Begun} {task : Nat} (unbegun : ¬∃ begun ∈ sent, begun.task = task)
    (extra : List Begun) : firstStatus (sent ++ extra) task = firstStatus extra task := by
  have none' : sent.find? (fun begun => begun.task == task) = none :=
    List.find?_eq_none.mpr (fun begun listed same => unbegun ⟨begun,listed,by simpa using same⟩)
  rw [firstStatus,List.find?_append,none',Option.none_or]
  rfl

theorem World.Sound.respond (sound : world.Sound) (task : Nat) (status : Option Nat) (elapsed : ℚ) (ambient : Ambient) :
    (world.step (.respond task status elapsed ambient)).Sound := by
  cases held : world.requests task with
  | none => simpa only [World.step,held] using sound
  | some request =>
    have fits := sound.fits held
    have begun : ∀ begun ∈ [Begun.mk task request.requestId (status.getD 500)],
        begun.task = task ∧ begun.requestId = request.requestId := by simp
    have answered : ∃ begun ∈ world.sent ++ [Begun.mk task request.requestId (status.getD 500)], begun.task = task :=
      ⟨_,List.mem_append_right _ List.mem_cons_self,rfl⟩
    simp only [World.step,held]
    split_ifs with ended recorded
    · exact sound
    · -- a second start of the same response
      have progress : Progress world task request { request with status := status.getD 500 } world.context
          [⟨task,request.requestId,status.getD 500⟩] [] := {
        held := held
        continues := ⟨rfl,rfl,rfl⟩
        others := fun _ _ => rfl
        begun := begun
        counted := by simp
        fits := fits_recorded recorded (by simpa using fits.recorded.mp recorded) fits.context (Or.inr answered)
          fits.named }
      exact progress.change sound (Or.inr ((fits.answering (by simpa using ended)).mp recorded))
    · have open' : request.ended = false := by simpa using ended
      have progress : Progress world task request { request with status := status.getD 500, recorded := true }
          world.context [⟨task,request.requestId,status.getD 500⟩]
          [⟨task,request.method,request.path,status.getD 500,elapsed⟩] := {
        held := held
        continues := ⟨rfl,rfl,rfl⟩
        others := fun _ _ => rfl
        begun := begun
        counted := by simp
        fits := fits_recorded rfl (by simp) fits.context (Or.inr answered) fits.named }
      refine progress.record sound ambient (fun counted => recorded (fits.recorded.mpr counted))
        (fits.context.trans (if_neg ended)) rfl rfl ?_
      rw [firstStatus_of_none (fun before => recorded ((fits.answering open').mpr before))]
      simp [firstStatus]

theorem World.Sound.leave (sound : world.Sound) (task : Nat) (elapsed : ℚ) (ambient : Ambient) :
    (world.step (.leave task elapsed ambient)).Sound := by
  cases held : world.requests task with
  | none => simpa only [World.step,held] using sound
  | some request =>
    have fits := sound.fits held
    have outer (other : Nat) (apart : other ≠ task) :
        (if other = task then request.outer else world.context other) = world.context other := if_neg apart
    simp only [World.step,held]
    split_ifs with ended recorded
    · exact sound
    · have progress : Progress world task request { request with recorded := true, ended := true }
          (fun other => if other = task then request.outer else world.context other) [] [] := {
        held := held
        continues := ⟨rfl,rfl,rfl⟩
        others := outer
        begun := by simp
        counted := by simp
        fits := fits_recorded rfl (by simpa using fits.recorded.mp recorded) (if_pos rfl) (Or.inl rfl) fits.named }
      have changed := progress.change sound (Or.inl rfl)
      rw [List.append_nil] at changed
      exact changed
    · -- no response was begun
      have open' : request.ended = false := by simpa using ended
      have unrecorded : request.recorded = false := by simpa using recorded
      have progress : Progress world task request { request with recorded := true, ended := true }
          (fun other => if other = task then request.outer else world.context other) []
          [⟨task,request.method,request.path,request.status,elapsed⟩] := {
        held := held
        continues := ⟨rfl,rfl,rfl⟩
        others := outer
        begun := by simp
        counted := by simp
        fits := fits_recorded rfl (by simp) (if_pos rfl) (Or.inl rfl) fits.named }
      have written := progress.record sound ambient (fun counted => recorded (fits.recorded.mpr counted))
        (fits.context.trans (if_neg ended)) rfl rfl (by
          rw [firstStatus_of_none (fun before => recorded ((fits.answering open').mpr before)),
            fits.waiting unrecorded]
          rfl)
      rw [List.append_nil] at written
      exact written

theorem World.Sound.step (sound : world.Sound) (action : Action) : (world.step action).Sound := by
  cases action with
  | enter task scope fresh outer =>
    cases held : world.requests task with
    | some request => simpa only [World.step,held] using sound
    | none =>
      simp only [World.step,held]
      rw [strip_newRequestId]
      exact sound.enter held rfl rfl rfl (newRequestId_ne_nil _ _)
  | respond task status elapsed ambient => exact sound.respond task status elapsed ambient
  | log task record =>
    cases held : world.requests task with
    | none => simpa only [World.step,held] using sound
    | some request =>
      simp only [World.step,held]
      split_ifs with ended
      · exact sound
      · exact sound.log held _ ((sound.context task request held).trans (if_neg ended))
  | leave task elapsed ambient => exact sound.leave task elapsed ambient
  | count event foreign => exact sound.count foreign

end

theorem World.sound_start : World.start.Sound where
  context := fun _ _ found => absurd found.symm (Option.some_ne_none _)
  recorded := fun _ _ found => absurd found.symm (Option.some_ne_none _)
  ended := fun _ _ found => absurd found.symm (Option.some_ne_none _)
  answering := fun _ _ found => absurd found.symm (Option.some_ne_none _)
  waiting := fun _ _ found => absurd found.symm (Option.some_ne_none _)
  named := fun _ _ found => absurd found.symm (Option.some_ne_none _)
  distinct := List.nodup_nil
  counts := fun _ listed => absurd listed List.not_mem_nil
  lines := fun _ listed => absurd listed List.not_mem_nil
  http := List.Forall₂.nil
  sent := fun _ listed => absurd listed List.not_mem_nil
  amounts := fun _ => rfl
  values := fun _ => rfl
  bounds := fun _ _ _ listed => absurd listed List.not_mem_nil

private theorem sound_run (actions : List Action) : (World.run actions).Sound :=
  Transition.run_invariant (fun _ action sound => sound.step action) World.sound_start actions

private theorem payload_requestId (record : LogRecord) (named : record.requestId ≠ []) (ts : Text) :
    (record.payload ts).get? "request_id".toList = some (.str record.requestId) := by
  have owned : ("request_id".toList,Json.str record.requestId) ∈ record.own ts := by
    apply List.mem_append_right
    exact List.mem_map.mpr ⟨_,List.mem_filter.mpr ⟨List.mem_cons_self,by simpa using named⟩,rfl⟩
  exact payload_own record ts owned

/-- However the requests of a process are interleaved, what is counted, timed and logged for them agrees with what was
answered, and every line of a request bears the id that its response carries. -/
theorem requests_are_accounted (actions : List Action) :
    (World.run actions).Sound ∧
      (∀ key, lookup (recorded (World.run actions).metrics).counters "cs_http_requests_total" key =
        counted ((World.run actions).counts.countP (fun counted => labelKey counted.labels = key))) ∧
      (∀ key, lookup (recorded (World.run actions).metrics).histograms "cs_http_duration_seconds" key =
        summary durationBuckets (((World.run actions).counts.filter (fun counted =>
          labelKey counted.labels = key)).map Counted.elapsed)) ∧
      ∀ line ∈ (World.run actions).lines, ∃ request, (World.run actions).requests line.task = some request ∧
        ∀ ts, (line.record.payload ts).get? "request_id".toList = some (.str request.requestId) := by
  have sound := sound_run actions
  refine ⟨sound,fun key => ?_,fun key => ?_,fun line listed => ?_⟩
  · rw [recorded_counters,sound.amounts,TurnAccounts.total_ones]
  · rw [TurnAccounts.lookup_histogram sound.bounds,sound.values]
  · obtain ⟨request,found,same⟩ := sound.lines line listed
    have named : line.record.requestId ≠ [] := same ▸ sound.named line.task request found
    exact ⟨request,found,fun ts => same ▸ payload_requestId line.record named ts⟩

end CustomerService.HttpRequests
