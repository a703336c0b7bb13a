import CustomerService.ExpansionStability
import CustomerService.ToolCache
import CustomerService.Transition

/-! What the cached course results are filed under, and what two requests that share an
entry have in common. -/
namespace CustomerService.CourseCacheKeys
open Text ThreadKey OrderReport ToolCache QueryExpansion

structure Request where
  identity : Identity
  query : Text
  courseCode : Option Text
  history : List SummaryFacts.Message
  lastCourseQuery : Option Text
  lastCourseName : Option Text
  tenant_valid : isTenantId identity.tenantId = true

def Request.code (request : Request) : Text := strip (request.courseCode.getD [])

def Request.searchQuery (request : Request) : Text :=
  expandQuery request.query request.history request.lastCourseQuery request.lastCourseName

variable (lower : Text → Text)

def Request.resourceKey (request : Request) : Text :=
  normalizeCourseCacheKey lower request.query request.courseCode

variable {Body : Type}

/-- The calls that write: both kinds of result go into the shared store, a course into the
slots of its conversation too; and an entry may go at any time. -/
inductive Op (Body : Type)
  | putOrder (settings : Settings) (now : ℚ) (report : Report) (tenantId userId : Text)
  | putCourse (settings : Settings) (now : ℚ) (result : CourseConsultResult Body)
    (request : Request)
  | keepCourse (now : ℚ) (result : CourseConsultResult Body) (request : Request)
  | evict (key : Text)

/-- The slots of every conversation, with all that they have held. -/
structure World (Body : Type) where
  store : Store Body
  slots : List (Text × Text × CourseConsultResult Body × ℚ)

def start : World Body := ⟨∅,[]⟩

def step (world : World Body) : Op Body → World Body
  | .putOrder settings now report tenantId userId =>
    { world with store := putCachedOrder settings world.store now report tenantId userId }
  | .putCourse settings now result request =>
    { world with
      store := putCachedCourse settings world.store now result (request.resourceKey lower)
        request.identity.tenantId request.identity.userId }
  | .keepCourse now result request =>
    { world with
      slots := (sessionUpdatesForCourse result now).toList.map (fun cached =>
        (request.identity.threadId,request.resourceKey lower,cached)) ++ world.slots }
  | .evict key => { world with store := Dict.erase world.store key }

def run (ops : List (Op Body)) : World Body := ops.foldl (step lower) start

/-- The slots a call of the conversation finds: any that they have held, or none. -/
inductive Snapshot (world : World Body) (thread : Text) : SessionToolCacheState Body → Prop
  | none (order : Option (Report × ℚ)) : Snapshot world thread ⟨order,none,none⟩
  | held (order : Option (Report × ℚ)) (key : Text) (cached : CourseConsultResult Body × ℚ)
    (kept : (thread,key,cached) ∈ world.slots) : Snapshot world thread ⟨order,some cached,some key⟩

def getCached (settings : Settings) (session : SessionToolCacheState Body) (world : World Body)
    (now : ℚ) (request : Request) : Option (CourseConsultResult Body × ℚ) :=
  getCachedCourse settings session world.store now (request.resourceKey lower)
    request.identity.tenantId request.identity.userId

/-! ### Keys -/

def rstrip (text : Text) : Text := (lstrip text.reverse).reverse

def Request.question (request : Request) : Text :=
  let text := Regex.sub (.many isSpace 1 none) [' '] (lower (strip request.query))
  if text = [] then "unknown".toList else rstrip (text.take 120)

/-- Both name a course, the same up to the reading of its letters; or neither does and the
questions are. -/
def Alike (read : Char → Char) (first second : Request) : Prop :=
  (first.code ≠ [] ∧ second.code ≠ [] ∧ first.code.map read = second.code.map read) ∨
    (first.code = [] ∧ second.code = [] ∧
      (first.question lower).map read = (second.question lower).map read)

private theorem strip_prefixed {label text : Text} (tight : Tight label) (some' : label ≠ []) :
    strip (label ++ text) = label ++ rstrip text := by
  have first : lstrip (label ++ text) = label ++ text :=
    lstrip_of_heads ((heads_of_start some' (List.prefix_append label text)).trans tight.1)
  rw [strip,first,List.reverse_append,rstrip]
  have last : heads isSpace label.reverse = false := tight.2
  unfold lstrip
  rw [List.dropWhile_append]
  by_cases blank : (text.reverse.dropWhile isSpace).isEmpty = true
  · have none' := List.isEmpty_iff.mp blank
    rw [if_pos blank,none']
    have kept : label.reverse.dropWhile isSpace = label.reverse := lstrip_of_heads last
    simp [kept]
  · rw [if_neg blank]
    simp

private theorem rstrip_of_tight {text : Text} (tight : heads isSpace text.reverse = false) :
    rstrip text = text := by
  rw [rstrip,lstrip_of_heads tight,List.reverse_reverse]

private theorem strip_resourceKey (request : Request) :
    strip (request.resourceKey lower) =
      if request.code ≠ [] then "code:".toList ++ request.code
      else "q:".toList ++ request.question lower := by
  unfold Request.resourceKey normalizeCourseCacheKey
  dsimp only
  by_cases named : strip (request.courseCode.getD []) ≠ []
  · have code : request.code ≠ [] := named
    rw [if_pos named,if_pos code,strip_prefixed (by decide) (by decide),
      rstrip_of_tight (tight_strip _).2]
    rfl
  · have code : ¬request.code ≠ [] := named
    rw [if_neg named,if_neg code,Request.question]
    by_cases empty : Regex.sub (.many isSpace 1 none) [' '] (lower (strip request.query)) = []
    · rw [if_pos empty,if_pos empty]
      decide
    · rw [if_neg empty,if_neg empty,strip_prefixed (by decide) (by decide)]

private theorem alike_of_key {read : Char → Char} (apart : read 'c' ≠ read 'q') {first second : Request}
    (same : (strip (first.resourceKey lower)).map read =
      (strip (second.resourceKey lower)).map read) : Alike lower read first second := by
  rw [strip_resourceKey,strip_resourceKey] at same
  by_cases named : first.code = [] <;> by_cases named' : second.code = []
  · simp only [named,named',ne_eq,not_true_eq_false,if_false,List.map_append] at same
    exact Or.inr ⟨named,named',List.append_cancel_left same⟩
  · simp [named,named'] at same
    exact absurd same.1.symm apart
  · simp [named,named'] at same
    exact absurd same.1 apart
  · simp only [named,named',ne_eq,not_false_eq_true,if_true,List.map_append] at same
    exact Or.inl ⟨named,named',List.append_cancel_left same⟩

/-! ### Where an entry comes from -/

/-- Every entry was written by one of the calls, under the key of its request. -/
structure Filed (ops : List (Op Body)) (world : World Body) : Prop where
  slots : ∀ entry ∈ world.slots, ∃ now request, Op.keepCourse now entry.2.2.1 request ∈ ops ∧
    entry.1 = request.identity.threadId ∧ entry.2.1 = request.resourceKey lower
  store : world.store.Holds (fun key blob => ∀ result at', blob = .course result at' →
    ∃ settings now request, Op.putCourse settings now result request ∈ ops ∧
      key = redisKey request.identity.tenantId request.identity.userId TOOL_COURSE
        (strip (request.resourceKey lower)))

variable {lower}

theorem Filed.later {ops : List (Op Body)} {world : World Body} (filed : Filed lower ops world)
    (op : Op Body) : Filed lower (ops ++ [op]) world where
  slots entry member := by
    obtain ⟨now,request,kept,same⟩ := filed.slots entry member
    exact ⟨now,request,List.mem_append_left _ kept,same⟩
  store := filed.store.imp (fun key blob told result at' course => by
    obtain ⟨settings,now,request,put,same⟩ := told result at' course
    exact ⟨settings,now,request,List.mem_append_left _ put,same⟩)

theorem Filed.step {ops : List (Op Body)} {world : World Body} (filed : Filed lower ops world)
    (op : Op Body) : Filed lower (ops ++ [op]) (step lower world op) := by
  have before := filed.later op
  cases op with
  | putOrder settings now report tenantId userId =>
    refine ⟨before.slots,before.store.putCachedOrder (fun _ result at' course => ?_)⟩
    cases course
  | putCourse settings now result request =>
    refine ⟨before.slots,before.store.putCachedCourse (fun _ other at' course => ?_)⟩
    cases course
    exact ⟨settings,now,request,List.mem_append_right _ (List.mem_singleton_self _),rfl⟩
  | keepCourse now result request =>
    refine ⟨fun entry member => ?_,before.store⟩
    cases List.mem_append.mp member with
    | inl new =>
      obtain ⟨cached,given,rfl⟩ := List.mem_map.mp new
      unfold sessionUpdatesForCourse at given
      split at given
      · obtain rfl := List.mem_singleton.mp given
        exact ⟨now,request,List.mem_append_right _ (List.mem_singleton_self _),rfl,rfl⟩
      · cases given
    | inr old => exact before.slots entry old
  | evict key => exact ⟨before.slots,before.store.erase key⟩

private theorem filed_run (ops : List (Op Body)) : Filed lower ops (run lower ops) := by
  induction ops using List.reverseRecOn with
  | nil =>
    refine ⟨fun entry member => absurd member List.not_mem_nil,?_⟩
    intro key row found
    cases found
  | append_singleton ops op ih =>
    rw [run,List.foldl_append]
    exact ih.step op

/-! ### What a hit is -/

/-- `:` is written as `_`. -/
def colonRead (char : Char) : Char := if char = ':' then '_' else char

variable (lower) in
/-- The result was stored for such a request: in the slots of the same conversation, or for
the same tenant and user in the shared store. -/
inductive StoredFor (ops : List (Op Body)) (request : Request) (result : CourseConsultResult Body) :
    Prop
  | slot (now : ℚ) (earlier : Request) (kept : Op.keepCourse now result earlier ∈ ops)
    (conversation : earlier.identity.threadId = request.identity.threadId)
    (alike : Alike lower id earlier request)
  | shared (settings : Settings) (now : ℚ) (earlier : Request)
    (put : Op.putCourse settings now result earlier ∈ ops)
    (tenant : earlier.identity.tenantId = request.identity.tenantId)
    (user : earlier.identity.userId = request.identity.userId)
    (alike : Alike lower colonRead earlier request)

private theorem getCachedCourse_found {settings : Settings} {session : SessionToolCacheState Body}
    {store : Store Body} {now : ℚ} {resourceKey tenantId userId : Text}
    {found : CourseConsultResult Body × ℚ}
    (hit : getCachedCourse settings session store now resourceKey tenantId userId = some found) :
    (∃ at', session.lastCourseStructured = some (found.1,at') ∧
        session.lastCourseStructuredKey = some (strip resourceKey)) ∨
      ∃ at', store.get now (redisKey tenantId userId TOOL_COURSE (strip resourceKey)) =
        some (.course found.1 at') := by
  unfold getCachedCourse at hit
  dsimp only at hit
  split at hit
  · cases hit
  split at hit
  · cases hit
  split at hit
  · rename_i kept
    cases hit
    obtain ⟨slot,same⟩ := Option.filter_eq_some_iff.mp kept
    exact Or.inl ⟨_,slot,of_decide_eq_true same⟩
  · split at hit
    · rename_i kept
      cases hit
      exact Or.inr ⟨_,kept⟩
    · cases hit

/-- After any calls of any tenants, users and conversations, a hit is a result stored for an
alike request of the same conversation, or of the same tenant and user. -/
theorem hit_stored_for (ops : List (Op Body)) (settings : Settings)
    (session : SessionToolCacheState Body) (now : ℚ) (request : Request)
    (snapshot : Snapshot (run lower ops) request.identity.threadId session)
    (found : CourseConsultResult Body × ℚ)
    (hit : getCached lower settings session (run lower ops) now request = some found) :
    StoredFor lower ops request found.1 := by
  have filed : Filed lower ops (run lower ops) := filed_run ops
  cases getCachedCourse_found hit with
  | inl slot =>
    obtain ⟨at',course,key⟩ := slot
    cases snapshot with
    | none => cases course
    | held order key' cached kept =>
      obtain ⟨then',earlier,put,thread,filedAs⟩ := filed.slots _ kept
      cases course
      cases key
      have same : strip (earlier.resourceKey lower) = strip (request.resourceKey lower) := by
        rw [← filedAs]
        exact strip_of_tight (tight_strip _)
      refine .slot then' earlier put thread.symm (alike_of_key lower (by decide) ?_)
      rw [same]
  | inr shared =>
    obtain ⟨at',blob⟩ := shared
    obtain ⟨row,kept,held⟩ := Store.of_get blob
    obtain ⟨settings',then',earlier,put,key⟩ := filed.store _ row kept _ _ held
    obtain ⟨tenant,user,_,same⟩ := redisKey_inj (isTenantId_plain request.tenant_valid).2.1
      (isTenantId_plain earlier.tenant_valid).2.1 (by decide) (by decide) key
    exact .shared settings' then' earlier put tenant.symm user.symm
      (alike_of_key lower (by decide) same.symm)

def ask (query : String) (courseCode : Option String) : Request where
  identity := ⟨"demo".toList,"u1".toList,"s1".toList⟩
  query := query.toList
  courseCode := courseCode.map String.toList
  history := []
  lastCourseQuery := none
  lastCourseName := none
  tenant_valid := by decide

def cacheOn : Settings := ⟨true,600,600⟩

def pythonCourse : CourseConsultResult Unit := ⟨"Python".toList,[],[],()⟩

theorem hit_stored_for_python :
    StoredFor IntentRecognition.lower
      [Op.putCourse cacheOn 1 pythonCourse (ask "Python 课程的大纲是什么？" none)]
      (ask "python 课程的大纲是什么？" none) pythonCourse :=
  hit_stored_for _ cacheOn emptySession 2 _ (.none none) (pythonCourse,1) (by decide +kernel)

/-- Pairs of requests that share an entry: their queries differ under one course code, in the
case of a letter, in the blanks, in the separator and after 120 characters. -/
def sharing : List (Request × Request) :=
  [(ask "大纲" (some "py"),ask "价格" (some "py")),
    (ask "Go" none,ask "go" none),
    (ask "a  b" none,ask "a b" none),
    (ask "a:b" none,ask "a_b" none),
    (ask (String.ofList (List.replicate 120 'a' ++ ['x'])) none,
      ask (String.ofList (List.replicate 120 'a' ++ ['y'])) none)]

theorem entry_shared_by_different_requests : sharing.Forall (fun pair =>
    (pair.1.code ≠ pair.2.code ∨ pair.1.searchQuery ≠ pair.2.searchQuery) ∧
      getCached IntentRecognition.lower cacheOn emptySession
        (run IntentRecognition.lower [.putCourse cacheOn 1 pythonCourse pair.1]) 2 pair.2 =
          some (pythonCourse,1)) := by
  rw [List.forall_iff_forall_mem]
  decide +kernel

end CustomerService.CourseCacheKeys
