import CustomerService.Dict
import CustomerService.OrderReport
import CustomerService.Regex

/-! Cached tool results: the slots of the session first, then the store that all sessions
share. A payload that was written as JSON reads back as it was. -/
namespace CustomerService.ToolCache
open Text ThreadKey OrderAccess OrderReport

structure Settings where
  toolCacheEnabled : Bool
  toolCacheOrderTtlSeconds : Int
  toolCacheCourseTtlSeconds : Int
  deriving DecidableEq

structure EvidenceSection where
  source : Text
  sectionPath : Text
  moduleName : Text
  excerpt : Text
  deriving DecidableEq

/-- The body is the modules, the learning path, the prerequisites and the sources. -/
structure CourseConsultResult (Body : Type) where
  courseName : Text
  summary : Text
  evidence : List EvidenceSection
  body : Body
  deriving DecidableEq

inductive Blob (Body : Type)
  | order (payload : Report) (cachedAt : ℚ)
  | course (payload : CourseConsultResult Body) (cachedAt : ℚ)
  deriving DecidableEq

structure Row (Body : Type) where
  blob : Blob Body
  expires : ℚ

abbrev Store (Body : Type) := Dict Text (Row Body)

variable {Body : Type}

namespace Store

def get (store : Store Body) (now : ℚ) (key : Text) : Option (Blob Body) :=
  ((store.get? key).filter (fun row => decide (now ≤ row.expires))).map Row.blob

def put (store : Store Body) (now : ℚ) (key : Text) (blob : Blob Body) (ttl : Int) : Store Body :=
  store.set key ⟨blob,now + ttl⟩

end Store

def CACHE_PREFIX : Text := "cs:tool:result:".toList

def TOOL_ORDER : Text := "order_query".toList

def TOOL_COURSE : Text := "course_retrieve".toList

def redisKey (tenantId userId tool resourceKey : Text) : Text :=
  CACHE_PREFIX ++ tenantId ++ ':'::(userId ++ ':'::(tool ++ ':'::replaceColon resourceKey))

structure SessionToolCacheState (Body : Type) where
  lastOrderStructured : Option (Report × ℚ)
  lastCourseStructured : Option (CourseConsultResult Body × ℚ)
  lastCourseStructuredKey : Option Text

def emptySession : SessionToolCacheState Body := ⟨none,none,none⟩

/-- `float(stored or time.time())`. -/
def cachedAtOr (stored now : ℚ) : ℚ := if stored = 0 then now else stored

def getCachedOrder (settings : Settings) (table : OrderTable) (tenancy : Tenancy)
    (session : SessionToolCacheState Body) (store : Store Body) (now : ℚ)
    (orderNo tenantId userId : Text) : Option (Report × ℚ) :=
  if settings.toolCacheEnabled = false then none
  else
    let number := strip orderNo
    if number = [] then none
    else if canAccessOrder table tenancy number tenantId userId = false then none
    else
      match session.lastOrderStructured.filter (fun cached => strip cached.1.orderNo = number) with
      | some (report,cachedAt) => some (report,cachedAtOr cachedAt now)
      | none =>
        match store.get now (redisKey tenantId userId TOOL_ORDER number) with
        | some (.order report cachedAt) => some (report,cachedAtOr cachedAt now)
        | _ => none

def putCachedOrder (settings : Settings) (store : Store Body) (now : ℚ) (report : Report)
    (tenantId userId : Text) : Store Body :=
  let number := strip report.orderNo
  if settings.toolCacheEnabled = false ∨ isCacheableOrderReport report = false ∨ number = [] ∨
      settings.toolCacheOrderTtlSeconds ≤ 0 then store
  else store.put now (redisKey tenantId userId TOOL_ORDER number) (.order report now)
    settings.toolCacheOrderTtlSeconds

/-- `session_updates_for_order`, when it has any. -/
def sessionUpdatesForOrder (report : Report) (now : ℚ) : Option (Report × ℚ) :=
  if isCacheableOrderReport report then some (report,now) else none

/-- `normalize_course_cache_key`, with `str.lower` given. -/
def normalizeCourseCacheKey (lower : Text → Text) (query : Text) (courseCode : Option Text) : Text :=
  let code := strip (courseCode.getD [])
  if code ≠ [] then "code:".toList ++ code
  else
    let text := Regex.sub (.many isSpace 1 none) [' '] (lower (strip query))
    if text = [] then "q:unknown".toList else "q:".toList ++ text.take 120

def NOT_FOUND_COURSE : Text := "未找到课程".toList

def isCacheableCourseResult (result : CourseConsultResult Body) : Bool :=
  !([[],NOT_FOUND_COURSE].contains (strip result.courseName))

def annotateStaleCourse (result : CourseConsultResult Body) (ageSeconds : ℚ) :
    CourseConsultResult Body :=
  {result with summary := strip (stalePrefix ageSeconds ++ result.summary)}

def getCachedCourse (settings : Settings) (session : SessionToolCacheState Body)
    (store : Store Body) (now : ℚ) (resourceKey tenantId userId : Text) :
    Option (CourseConsultResult Body × ℚ) :=
  if settings.toolCacheEnabled = false then none
  else
    let key := strip resourceKey
    if key = [] then none
    else
      match session.lastCourseStructured.filter
          (fun _ => decide (session.lastCourseStructuredKey = some key)) with
      | some (result,cachedAt) => some (result,cachedAtOr cachedAt now)
      | none =>
        match store.get now (redisKey tenantId userId TOOL_COURSE key) with
        | some (.course result cachedAt) => some (result,cachedAtOr cachedAt now)
        | _ => none

def putCachedCourse (settings : Settings) (store : Store Body) (now : ℚ)
    (result : CourseConsultResult Body) (resourceKey tenantId userId : Text) : Store Body :=
  let key := strip resourceKey
  if settings.toolCacheEnabled = false ∨ isCacheableCourseResult result = false ∨ key = [] ∨
      settings.toolCacheCourseTtlSeconds ≤ 0 then store
  else store.put now (redisKey tenantId userId TOOL_COURSE key) (.course result now)
    settings.toolCacheCourseTtlSeconds

def sessionUpdatesForCourse (result : CourseConsultResult Body) (now : ℚ) :
    Option (CourseConsultResult Body × ℚ) :=
  if isCacheableCourseResult result then some (result,now) else none

/-! Keys. -/

theorem redisKey_inj {tenant tenant' user user' tool tool' key key' : Text} (colon : ':' ∉ tenant)
    (colon' : ':' ∉ tenant') (plain : ':' ∉ tool) (plain' : ':' ∉ tool')
    (same : redisKey tenant user tool key = redisKey tenant' user' tool' key') :
    tenant = tenant' ∧ user = user' ∧ tool = tool' ∧ replaceColon key = replaceColon key' := by
  simp only [redisKey,List.append_assoc] at same
  obtain ⟨tenants,rest⟩ := (split_at_first colon colon').mp (List.append_cancel_left same)
  have mirrored := congrArg List.reverse rest
  simp only [List.reverse_append,List.reverse_cons,List.append_assoc,
    List.cons_append,List.nil_append] at mirrored
  have absent (text : Text) : ':' ∉ (replaceColon text).reverse := fun inside =>
    colon_notMem_replaceColon text (List.mem_reverse.mp inside)
  obtain ⟨keys,tail⟩ := (split_at_first (absent key) (absent key')).mp mirrored
  obtain ⟨tools,users⟩ := (split_at_first (fun inside => plain (List.mem_reverse.mp inside))
    (fun inside => plain' (List.mem_reverse.mp inside))).mp tail
  exact ⟨tenants,List.reverse_injective users,List.reverse_injective tools,
    List.reverse_injective keys⟩

/-! What the store holds. -/

theorem Store.of_get {store : Store Body} {now : ℚ} {key : Text} {blob : Blob Body}
    (found : store.get now key = some blob) : ∃ row, store.get? key = some row ∧ row.blob = blob := by
  obtain ⟨row,kept,same⟩ := Option.map_eq_some_iff.mp found
  exact ⟨row,(Option.filter_eq_some_iff.mp kept).1,same⟩

def Store.Holds (store : Store Body) (kind : Text → Blob Body → Prop) : Prop :=
  ∀ key row, store.get? key = some row → kind key row.blob

theorem Store.Holds.imp {store : Store Body} {kind kind' : Text → Blob Body → Prop}
    (holds : store.Holds kind) (weaken : ∀ key blob, kind key blob → kind' key blob) :
    store.Holds kind' := fun key row found => weaken key row.blob (holds key row found)

theorem Store.Holds.put {store : Store Body} {kind : Text → Blob Body → Prop}
    (holds : store.Holds kind) {key : Text} {blob : Blob Body} (fits : kind key blob) (now : ℚ)
    (ttl : Int) : (store.put now key blob ttl).Holds kind := by
  intro other row found
  rw [Store.put,Dict.get?_set] at found
  split at found
  · rename_i same
    cases found
    exact same ▸ fits
  · exact holds other row found

theorem Store.Holds.erase {store : Store Body} {kind : Text → Blob Body → Prop}
    (holds : store.Holds kind) (key : Text) : Store.Holds (Dict.erase store key) kind := by
  intro other row found
  rw [Dict.get?_erase] at found
  split at found
  · cases found
  · exact holds other row found

theorem Store.Holds.putCachedOrder {settings : Settings} {store : Store Body}
    {kind : Text → Blob Body → Prop} (holds : store.Holds kind) {now : ℚ} {report : Report}
    {tenantId userId : Text} (fits : isCacheableOrderReport report = true →
      kind (redisKey tenantId userId TOOL_ORDER (strip report.orderNo)) (.order report now)) :
    (putCachedOrder settings store now report tenantId userId).Holds kind := by
  unfold ToolCache.putCachedOrder
  dsimp only
  split
  · exact holds
  · rename_i passed
    have cacheable : isCacheableOrderReport report = true := by
      by_contra other
      exact passed (Or.inr (Or.inl (by simpa using other)))
    exact holds.put (fits cacheable) now _

theorem Store.Holds.putCachedCourse {settings : Settings} {store : Store Body}
    {kind : Text → Blob Body → Prop} (holds : store.Holds kind) {now : ℚ}
    {result : CourseConsultResult Body} {resourceKey tenantId userId : Text}
    (fits : isCacheableCourseResult result = true →
      kind (redisKey tenantId userId TOOL_COURSE (strip resourceKey)) (.course result now)) :
    (putCachedCourse settings store now result resourceKey tenantId userId).Holds kind := by
  unfold ToolCache.putCachedCourse
  dsimp only
  split
  · exact holds
  · rename_i passed
    have cacheable : isCacheableCourseResult result = true := by
      by_contra other
      exact passed (Or.inr (Or.inl (by simpa using other)))
    exact holds.put (fits cacheable) now _

/-! What a lookup of an order finds. -/

/-- The session or the shared store keeps the report of the number for the caller. -/
inductive Keeps (session : SessionToolCacheState Body) (store : Store Body) (now : ℚ)
    (tenantId userId number : Text) (report : Report) (cachedAt : ℚ) : Prop
  | session (slot : session.lastOrderStructured = some (report,cachedAt))
    (same : strip report.orderNo = number)
  | shared (found : store.get now (redisKey tenantId userId TOOL_ORDER number) =
      some (.order report cachedAt))

variable {settings : Settings} {table : OrderTable} {tenancy : Tenancy}
  {session : SessionToolCacheState Body} {store : Store Body} {now : ℚ}
  {orderNo tenantId userId : Text}

theorem getCachedOrder_found {report : Report} {at' : ℚ}
    (found : getCachedOrder settings table tenancy session store now orderNo tenantId userId =
      some (report,at')) :
    settings.toolCacheEnabled = true ∧
      canAccessOrder table tenancy (strip orderNo) tenantId userId = true ∧
      ∃ cachedAt, Keeps session store now tenantId userId (strip orderNo) report cachedAt ∧
        at' = cachedAtOr cachedAt now := by
  unfold getCachedOrder at found
  dsimp only at found
  split at found
  · cases found
  rename_i enabled
  split at found
  · cases found
  split at found
  · cases found
  rename_i accessible
  refine ⟨by simpa using enabled,by simpa using accessible,?_⟩
  split at found
  · rename_i kept
    cases found
    obtain ⟨slot,same⟩ := Option.filter_eq_some_iff.mp kept
    exact ⟨_,.session slot (of_decide_eq_true same),rfl⟩
  · split at found
    · rename_i kept
      cases found
      exact ⟨_,.shared kept,rfl⟩
    · cases found

theorem getCachedOrder_of_keeps (orderNo : Text) {report : Report} {cachedAt : ℚ}
    (enabled : settings.toolCacheEnabled = true) (solid : strip orderNo ≠ [])
    (accessible : canAccessOrder table tenancy (strip orderNo) tenantId userId = true)
    (keeps : Keeps session store now tenantId userId (strip orderNo) report cachedAt) :
    ∃ found, getCachedOrder settings table tenancy session store now orderNo tenantId userId =
      some found := by
  unfold getCachedOrder
  dsimp only
  rw [if_neg (by simp [enabled]),if_neg solid,if_neg (by simp [accessible])]
  split
  · exact ⟨_,rfl⟩
  · rename_i missing
    cases keeps with
    | session slot same => simp [slot,same] at missing
    | shared found => exact ⟨_,by rw [found]⟩

end CustomerService.ToolCache
