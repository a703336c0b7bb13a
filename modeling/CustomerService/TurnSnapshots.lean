import CustomerService.ExpiringCache
import CustomerService.Harvest
import CustomerService.Transition
import Mathlib.Algebra.Order.Ring.Rat

/-! The snapshots of the turns that ended last, by which a thumbs-down finds the turn it is about. -/
namespace CustomerService.Harvest

open Text Json JsonLines

structure TurnSnapshot where
  traceId : Text
  tenantId : Text
  originalQuery : Text
  searchQuery : Text
  intent : Text
  ragEmpty : Bool
  sources : List Text
  courseName : Text
  rewriteReason : Text
  answerPreview : Text
  sessionId : Text
  requestId : Text

structure Settings where
  harvestEnabled : Bool
  snapshotTtlSeconds : ℤ

def Settings.ttl (settings : Settings) : ℚ := (max 60 settings.snapshotTtlSeconds : ℤ)

abbrev SnapshotCache := Dict Text (ℚ × TurnSnapshot)

def maxSize : Nat := 1000

/-! The cache, an `OrderedDict`. -/

/-- `popitem(last=False)` while there are too many. -/
def popOldest : List (Text × ℚ × TurnSnapshot) → List (Text × ℚ × TurnSnapshot)
  | [] => []
  | oldest::others => if (oldest::others).length > maxSize then popOldest others else oldest::others

private theorem popOldest_eq (entries : List (Text × ℚ × TurnSnapshot)) :
    popOldest entries = entries.rtake maxSize := by
  induction entries with
  | nil => rfl
  | cons oldest others ih =>
    unfold popOldest
    split_ifs with many
    · have long : maxSize ≤ others.length := by rw [List.length_cons] at many; omega
      rw [ih]
      have capped : ([oldest] ++ others).rtake maxSize = others.rtake maxSize := Recency.rtake_append_of_le long
      exact capped.symm
    · exact (Recency.rtake_eq_self (by omega)).symm

def pruneSnapshotCache (settings : Settings) (now : ℚ) (cache : SnapshotCache) : SnapshotCache :=
  let expired := (cache.entries.filter (fun entry => now - entry.2.1 > settings.ttl)).map Prod.fst
  let young := expired.foldl Dict.erase cache
  ⟨popOldest young.entries,by
    rw [popOldest_eq]
    exact young.distinct.sublist ((List.drop_sublist _ _).map _)⟩

def cacheTurnSnapshot (settings : Settings) (now : ℚ) (snapshot : TurnSnapshot) (cache : SnapshotCache) :
    SnapshotCache :=
  let tid := strip snapshot.traceId
  if tid = [] then cache
  else pruneSnapshotCache settings now ((cache.set tid (now,snapshot)).moveToEnd tid)

def getTurnSnapshot (settings : Settings) (now : ℚ) (traceId : Text) (cache : SnapshotCache) :
    Option TurnSnapshot × SnapshotCache :=
  let tid := strip traceId
  if tid = [] then (none,cache)
  else
    match cache.get? tid with
    | none => (none,cache)
    | some entry => if now - entry.1 > settings.ttl then (none,cache.erase tid) else (some entry.2,cache)

/-! The samples that turns and feedback give. -/

private theorem validPairs_update {dict : Dict Text Json} (fits : validPairs dict.entries = true)
    (fields : List (Text × Json)) (valid : validPairs fields = true) :
    validPairs (dict.update fields).entries = true := by
  induction fields generalizing dict with
  | nil => exact fits
  | cons field others ih =>
    obtain ⟨key,value⟩ := field
    rw [validPairs,Bool.and_eq_true] at valid
    exact ih (validPairs_set fits valid.1) valid.2

def Case.of (fields : List (Text × Json)) (valid : validPairs fields = true) : Case :=
  ⟨(∅ : Dict Text Json).update fields,validPairs_update rfl fields valid⟩

private theorem validItems_strs (texts : List Text) : validItems (texts.map str) = true := by
  induction texts with
  | nil => rfl
  | cons text others ih => rw [List.map_cons,validItems,ih]; rfl

/-- The entries of a dictionary display that are not `None`. -/
def present (fields : List (Text × Option Json)) : List (Text × Json) :=
  fields.filterMap (fun field => field.2.map (fun value => (field.1,value)))

def feedbackMeta (traceId : Text) (comment : Option Text) (snapshot : TurnSnapshot) : List (Text × Json) :=
  [("trace_id".toList,str traceId),("search_query".toList,str snapshot.searchQuery),
    ("rewrite_reason".toList,str snapshot.rewriteReason),("sources".toList,arr (snapshot.sources.map str)),
    ("comment".toList,str (comment.getD [])),
    ("rag_empty".toList,word (if snapshot.ragEmpty then .true else .false))]

def feedbackFields (traceId : Text) (comment : Option Text) (snapshot : TurnSnapshot) :
    List (Text × Option Json) :=
  [("source".toList,some (str "user_feedback_down".toList)),
    ("query".toList,some (str snapshot.originalQuery)),("tenant_id".toList,some (str snapshot.tenantId)),
    ("expect_course_contains".toList,
      if snapshot.courseName = [] then none else some (str snapshot.courseName)),
    ("meta".toList,some (obj (feedbackMeta traceId comment snapshot)))]

private theorem feedbackMeta_valid (traceId : Text) (comment : Option Text) (snapshot : TurnSnapshot) :
    (obj (feedbackMeta traceId comment snapshot)).valid = true := by
  simp [feedbackMeta,validPairs,valid,validItems_strs]

private theorem feedbackFields_valid (traceId : Text) (comment : Option Text) (snapshot : TurnSnapshot) :
    validPairs (present (feedbackFields traceId comment snapshot)) = true := by
  have inner := feedbackMeta_valid traceId comment snapshot
  by_cases named : snapshot.courseName = []
  · simp [feedbackFields,present,named,validPairs,inner]
    simp [valid]
  · simp [feedbackFields,present,named,validPairs,inner]
    simp [valid]

def feedbackCase (traceId : Text) (comment : Option Text) (snapshot : TurnSnapshot) : Case :=
  Case.of (present (feedbackFields traceId comment snapshot)) (feedbackFields_valid traceId comment snapshot)

structure RetrievalMiss where
  tenantId : Text
  query : Text
  searchQuery : Text
  reason : Text
  traceId : Text
  rewriteReason : Text

def missFields (miss : RetrievalMiss) : List (Text × Json) :=
  [("source".toList,str miss.reason),("query".toList,str miss.query),("tenant_id".toList,str miss.tenantId),
    ("expect_empty".toList,word .true),
    ("meta".toList,obj [("trace_id".toList,str miss.traceId),("search_query".toList,str miss.searchQuery),
      ("rewrite_reason".toList,str miss.rewriteReason)])]

def missCase (miss : RetrievalMiss) : Case :=
  Case.of (missFields miss) (by simp [missFields,validPairs,valid])

/-! A turn that ends, and what its caller says of it. -/

structure Structured where
  sources : List Text
  courseName : Option Text

structure SearchQueryContext where
  searchQuery : Text
  rewriteReason : Text

/-- What `_record_turn` reads. -/
structure TurnEnd where
  traceId : Text
  tenant : Text
  rawQuery : Text
  intent : Text
  structured : Option Structured
  answer : Text
  searchContext : Option SearchQueryContext
  sid : Text
  requestId : Text

namespace TurnEnd

def ragEmpty (turn : TurnEnd) : Bool :=
  turn.intent == "course_consult".toList &&
    (turn.structured.bind Structured.courseName) == some "未找到课程".toList

def searchQuery (turn : TurnEnd) : Text := (turn.searchContext.map SearchQueryContext.searchQuery).getD turn.rawQuery

def rewriteReason (turn : TurnEnd) : Text := (turn.searchContext.map SearchQueryContext.rewriteReason).getD []

def snapshot (turn : TurnEnd) : TurnSnapshot where
  traceId := turn.traceId
  tenantId := turn.tenant
  originalQuery := turn.rawQuery
  searchQuery := turn.searchQuery
  intent := turn.intent
  ragEmpty := turn.ragEmpty
  sources := (turn.structured.map Structured.sources).getD []
  courseName := (turn.structured.bind Structured.courseName).getD []
  rewriteReason := turn.rewriteReason
  answerPreview := turn.answer.take 200
  sessionId := turn.sid
  requestId := turn.requestId

def miss (turn : TurnEnd) : RetrievalMiss where
  tenantId := turn.tenant
  query := turn.rawQuery
  searchQuery := turn.searchQuery
  reason := "rag_empty_turn".toList
  traceId := turn.traceId
  rewriteReason := turn.rewriteReason

end TurnEnd

structure FeedbackRequest where
  traceId : Text
  value : ℤ
  comment : Option Text

/-! The process, its cache and its files. -/

structure Service where
  snapshots : SnapshotCache
  files : World

/-- `append_pending` as its callers meet it: when it raises, nothing was written. -/
def offer (lib : Lib) (settings : Settings) (case : Case) (kind : PendingKind) (files : World) :
    Option Bool × World :=
  match appendPending lib settings.harvestEnabled case kind files with
  | none => (none,files)
  | some done => (some done.1,done.2)

def recordRetrievalMiss (lib : Lib) (settings : Settings) (miss : RetrievalMiss) (files : World) :
    Option Bool × World := offer lib settings (missCase miss) .rag files

def recordFeedbackDown (lib : Lib) (settings : Settings) (now : ℚ) (traceId : Text) (comment : Option Text)
    (service : Service) : Option Bool × Service :=
  let found := getTurnSnapshot settings now traceId service.snapshots
  match found.1 with
  | none => (some false,⟨found.2,service.files⟩)
  | some snapshot =>
    let done := offer lib settings (feedbackCase traceId comment snapshot) .faithfulness service.files
    (done.1,⟨found.2,done.2⟩)

/-- The part of `_record_turn` for turns with a trace. -/
def recordTurn (lib : Lib) (settings : Settings) (now : ℚ) (turn : TurnEnd) (service : Service) : Service :=
  if turn.traceId = [] then service
  else
    let cached := cacheTurnSnapshot settings now turn.snapshot service.snapshots
    if turn.ragEmpty then ⟨cached,(recordRetrievalMiss lib settings turn.miss service.files).2⟩
    else ⟨cached,service.files⟩

/-- `feedback_api`; a value other than 0 and 1 is refused, a thumbs-up is only scored. -/
def feedbackApi (lib : Lib) (settings : Settings) (now : ℚ) (request : FeedbackRequest) (service : Service) :
    Service :=
  if request.value = 0 then (recordFeedbackDown lib settings now request.traceId request.comment service).2
  else service

inductive Moment where
  | turn (ended : TurnEnd)
  | feedback (request : FeedbackRequest)
  | miss (miss : RetrievalMiss)
  | restart
  | merge

def Service.step (lib : Lib) (directory : Text) (settings : Settings) (service : Service) (event : ℚ × Moment) :
    Service :=
  match event.2 with
  | .turn ended => recordTurn lib settings event.1 ended service
  | .feedback request => feedbackApi lib settings event.1 request service
  | .miss miss => {service with files := (recordRetrievalMiss lib settings miss service.files).2}
  | .restart => ⟨∅,{service.files with seen := []}⟩
  | .merge => {service with files := (mergePending directory true service.files).2}

/-! What thumbs-down are for: each is about the turn that was recorded last under its trace, if that
ended not long ago and not too many turns of other traces ended since. -/

structure Told where
  ended : List (Text × ℚ × TurnSnapshot)
  files : World

def Told.step (lib : Lib) (directory : Text) (settings : Settings) (told : Told) (event : ℚ × Moment) : Told :=
  match event.2 with
  | .turn ended =>
    { ended := if strip ended.traceId = [] then told.ended
        else told.ended ++ [(strip ended.traceId,event.1,ended.snapshot)]
      files := if ended.traceId ≠ [] ∧ ended.ragEmpty = true
        then (offer lib settings (missCase ended.miss) .rag told.files).2 else told.files }
  | .feedback request =>
    if request.value = 0 then
      match ExpiringCache.recalled settings.ttl maxSize told.ended event.1 (strip request.traceId) with
      | none => told
      | some turn => {told with files :=
          (offer lib settings (feedbackCase request.traceId request.comment turn) .faithfulness told.files).2}
    else told
  | .miss miss => {told with files := (offer lib settings (missCase miss) .rag told.files).2}
  | .restart => ⟨[],{told.files with seen := []}⟩
  | .merge => {told with files := (mergePending directory true told.files).2}

def Service.run (lib : Lib) (directory : Text) (settings : Settings) (service : Service)
    (events : List (ℚ × Moment)) : Service :=
  Transition.run (Service.step lib directory settings) service events

def Told.run (lib : Lib) (directory : Text) (settings : Settings) (told : Told)
    (events : List (ℚ × Moment)) : Told :=
  Transition.run (Told.step lib directory settings) told events

/-! The cache as a store of the entries put last. -/

private theorem entries_prune (settings : Settings) (now : ℚ) (cache : SnapshotCache) :
    (pruneSnapshotCache settings now cache).entries =
      (ExpiringCache.live settings.ttl now cache.entries).rtake maxSize := by
  have young : (((cache.entries.filter (fun entry => now - entry.2.1 > settings.ttl)).map Prod.fst).foldl
      Dict.erase cache).entries = ExpiringCache.live settings.ttl now cache.entries := by
    rw [Dict.entries_erases]
    refine List.filter_congr (fun entry inside => decide_eq_decide.mpr ?_)
    rw [← not_lt,not_iff_not]
    constructor
    · intro expired
      obtain ⟨other,held,same⟩ := List.mem_map.mp expired
      obtain ⟨member,old⟩ := List.mem_filter.mp held
      have first := ExpiringCache.find?_distinct cache.distinct member
      have second := ExpiringCache.find?_distinct cache.distinct inside
      rw [same] at first
      obtain rfl : other = entry := Option.some.inj (first.symm.trans second)
      exact of_decide_eq_true old
    · intro old
      exact List.mem_map.mpr ⟨entry,List.mem_filter.mpr ⟨inside,decide_eq_true old⟩,rfl⟩
  have shape : (pruneSnapshotCache settings now cache).entries = popOldest
      (((cache.entries.filter (fun entry => now - entry.2.1 > settings.ttl)).map Prod.fst).foldl
        Dict.erase cache).entries := rfl
  rw [shape,popOldest_eq,young]

private theorem entries_cache (settings : Settings) (now : ℚ) {snapshot : TurnSnapshot}
    (named : strip snapshot.traceId ≠ []) (cache : SnapshotCache) :
    (cacheTurnSnapshot settings now snapshot cache).entries =
      ExpiringCache.put settings.ttl maxSize now cache.entries (strip snapshot.traceId) snapshot := by
  rw [cacheTurnSnapshot]
  simp only [if_neg named]
  rw [entries_prune,Dict.entries_moveToEnd]
  rfl

private theorem live_erase {settings : Settings} {now : ℚ} {key : Text} {cache : SnapshotCache}
    {entry : ℚ × TurnSnapshot} (held : cache.get? key = some entry) (old : now - entry.1 > settings.ttl) :
    ExpiringCache.live settings.ttl now (cache.erase key).entries =
      ExpiringCache.live settings.ttl now cache.entries := by
  unfold ExpiringCache.live
  rw [Dict.entries_erase,List.filter_filter]
  refine List.filter_congr (fun other inside => ?_)
  rw [Bool.and_eq_left_iff_imp,decide_eq_true_eq (p := other.1 ≠ key)]
  intro young same
  have found := (Dict.get?_eq_some cache other.1 other.2).mpr inside
  rw [same,held] at found
  rw [Option.some.inj found] at old
  exact absurd (of_decide_eq_true young) (not_le.mpr old)

private theorem live_get (settings : Settings) (now : ℚ) (traceId : Text) (cache : SnapshotCache) :
    ExpiringCache.live settings.ttl now (getTurnSnapshot settings now traceId cache).2.entries =
      ExpiringCache.live settings.ttl now cache.entries := by
  unfold getTurnSnapshot
  by_cases blank : strip traceId = []
  · simp only [if_pos blank]
  · simp only [if_neg blank]
    cases held : cache.get? (strip traceId) with
    | none => rfl
    | some entry =>
      simp only
      split_ifs with old
      · exact live_erase held old
      · rfl

private theorem size_get (settings : Settings) (now : ℚ) (traceId : Text) (cache : SnapshotCache) :
    (getTurnSnapshot settings now traceId cache).2.size ≤ cache.size := by
  unfold getTurnSnapshot
  by_cases blank : strip traceId = []
  · simp only [if_pos blank,le_refl]
  · simp only [if_neg blank]
    cases held : cache.get? (strip traceId) with
    | none => exact le_refl _
    | some entry =>
      simp only
      split_ifs with old
      · exact List.length_filter_le _ _
      · exact le_refl _

private theorem get_look (settings : Settings) (now : ℚ) {traceId : Text} (named : strip traceId ≠ [])
    (cache : SnapshotCache) :
    (getTurnSnapshot settings now traceId cache).1 =
      ExpiringCache.look settings.ttl now cache.entries (strip traceId) := by
  have sub : (ExpiringCache.live settings.ttl now cache.entries).Sublist cache.entries := List.filter_sublist
  have distinct := cache.distinct.sublist (sub.map Prod.fst)
  rw [getTurnSnapshot]
  simp only [if_neg named]
  unfold ExpiringCache.look
  cases held : cache.get? (strip traceId) with
  | none =>
    have absent : strip traceId ∉ (ExpiringCache.live settings.ttl now cache.entries).map Prod.fst :=
      fun inside => (Dict.get?_eq_none cache _).mp held ((sub.map Prod.fst).subset inside)
    rw [ExpiringCache.find?_absent absent]
    rfl
  | some entry =>
    have member := (Dict.get?_eq_some cache _ _).mp held
    simp only
    split_ifs with old
    · have absent : strip traceId ∉ (ExpiringCache.live settings.ttl now cache.entries).map Prod.fst := by
        intro inside
        obtain ⟨other,stays,same⟩ := List.mem_map.mp inside
        obtain ⟨within,young⟩ := List.mem_filter.mp stays
        have found := (Dict.get?_eq_some cache other.1 other.2).mpr within
        rw [same,held] at found
        rw [Option.some.inj found] at old
        exact absurd (of_decide_eq_true young) (not_le.mpr old)
      rw [ExpiringCache.find?_absent absent]
      rfl
    · have stays : (strip traceId,entry) ∈ ExpiringCache.live settings.ttl now cache.entries :=
        List.mem_filter.mpr ⟨member,decide_eq_true (not_lt.mp old)⟩
      rw [ExpiringCache.find?_distinct distinct stays]
      rfl

/-! Runs. -/

theorem Settings.ttl_nonneg (settings : Settings) : 0 ≤ settings.ttl := by
  have whole : (0 : ℤ) ≤ max 60 settings.snapshotTtlSeconds := le_max_of_le_left (by decide)
  exact Rat.intCast_nonneg.mpr whole

structure Follows (settings : Settings) (now : ℚ) (service : Service) (told : Told) : Prop where
  files : service.files = told.files
  keeps : ExpiringCache.Keeps settings.ttl maxSize told.ended now service.snapshots.entries
  named : ∀ entry ∈ told.ended, entry.1 ≠ []
  small : service.snapshots.size ≤ maxSize

variable {settings : Settings} {now later : ℚ} {service : Service} {told : Told}

theorem Follows.start (files : World) : Follows settings now ⟨∅,files⟩ ⟨[],files⟩ where
  files := rfl
  keeps := ExpiringCache.Keeps.start _ _ _
  named := nofun
  small := Nat.zero_le _

theorem Follows.wait (follows : Follows settings now service told) (forward : now ≤ later) :
    Follows settings later service told :=
  ⟨follows.files,follows.keeps.wait forward,follows.named,follows.small⟩

theorem Follows.found (follows : Follows settings now service told) (traceId : Text) :
    (getTurnSnapshot settings now traceId service.snapshots).1 =
      ExpiringCache.recalled settings.ttl maxSize told.ended now (strip traceId) := by
  by_cases blank : strip traceId = []
  · have never : ExpiringCache.lastPut [] told.ended = none := by
      rw [ExpiringCache.lastPut_eq_none]
      intro inside
      obtain ⟨entry,member,same⟩ := List.mem_map.mp inside
      exact follows.named entry member same
    rw [getTurnSnapshot,ExpiringCache.recalled,blank,never]
    rfl
  · rw [get_look settings now blank,follows.keeps.look_eq]

theorem Follows.asked (follows : Follows settings now service told) (traceId : Text) (files : World) :
    Follows settings now ⟨(getTurnSnapshot settings now traceId service.snapshots).2,files⟩
      ⟨told.ended,files⟩ where
  files := rfl
  keeps := follows.keeps.drop_keeps (live_get settings now traceId service.snapshots)
  named := follows.named
  small := (size_get settings now traceId service.snapshots).trans follows.small

theorem Follows.cached (follows : Follows settings now service told) (snapshot : TurnSnapshot) (files : World) :
    Follows settings now ⟨cacheTurnSnapshot settings now snapshot service.snapshots,files⟩
      ⟨if strip snapshot.traceId = [] then told.ended
        else told.ended ++ [(strip snapshot.traceId,now,snapshot)],files⟩ := by
  by_cases blank : strip snapshot.traceId = []
  · have same : cacheTurnSnapshot settings now snapshot service.snapshots = service.snapshots := if_pos blank
    rw [same,if_pos blank]
    exact ⟨rfl,follows.keeps,follows.named,follows.small⟩
  · have entries := entries_cache settings now blank service.snapshots
    rw [if_neg blank]
    refine ⟨rfl,?_,?_,?_⟩
    · rw [entries]
      exact follows.keeps.put_keeps settings.ttl_nonneg _ snapshot
    · intro entry inside
      rcases List.mem_append.mp inside with before | last
      · exact follows.named entry before
      · rw [List.mem_singleton.mp last]
        exact blank
    · rw [Dict.size,entries,ExpiringCache.put,Recency.length_rtake]
      exact Nat.min_le_left _ _

theorem Follows.turn (lib : Lib) (directory : Text) (follows : Follows settings now service told) (ended : TurnEnd) :
    Follows settings now (service.step lib directory settings (now,.turn ended))
      (told.step lib directory settings (now,.turn ended)) := by
  by_cases traced : ended.traceId = []
  · have left : service.step lib directory settings (now,.turn ended) = service := if_pos traced
    have right : told.step lib directory settings (now,.turn ended) = told := by
      have none' : strip [] = [] := rfl
      rw [Told.step]
      simp only [traced,none',if_true,ne_eq,not_true_eq_false,false_and,if_false]
    rw [left,right]
    exact follows
  · have cached := follows.cached ended.snapshot
    rw [Service.step,Told.step]
    simp only [recordTurn,traced,ne_eq,not_false_eq_true,true_and]
    by_cases empty : ended.ragEmpty = true
    · rw [if_pos empty,if_pos empty,follows.files]
      exact cached _
    · rw [if_neg empty,if_neg empty,follows.files]
      exact cached _

theorem Follows.feedback (lib : Lib) (directory : Text) (follows : Follows settings now service told)
    (request : FeedbackRequest) :
    Follows settings now (service.step lib directory settings (now,.feedback request))
      (told.step lib directory settings (now,.feedback request)) := by
  rw [Service.step,Told.step]
  simp only [feedbackApi]
  by_cases down : request.value = 0
  · rw [if_pos down,if_pos down,← follows.found request.traceId,recordFeedbackDown]
    cases found : (getTurnSnapshot settings now request.traceId service.snapshots).1 with
    | none =>
      rw [follows.files]
      exact follows.asked request.traceId told.files
    | some turn =>
      rw [follows.files]
      exact follows.asked request.traceId _
  · rw [if_neg down,if_neg down]
    exact follows

theorem Follows.step (lib : Lib) (directory : Text) (follows : Follows settings now service told) (moment : Moment) :
    Follows settings now (service.step lib directory settings (now,moment))
      (told.step lib directory settings (now,moment)) := by
  cases moment with
  | turn ended => exact follows.turn lib directory ended
  | feedback request => exact follows.feedback lib directory request
  | miss miss =>
    exact ⟨congrArg (fun files => (offer lib settings (missCase miss) .rag files).2) follows.files,
      follows.keeps,follows.named,follows.small⟩
  | restart =>
    have files := congrArg (fun files : World => {files with seen := []}) follows.files
    exact ⟨files,ExpiringCache.Keeps.start _ _ _,nofun,Nat.zero_le _⟩
  | merge =>
    exact ⟨congrArg (fun files => (mergePending directory true files).2) follows.files,follows.keeps,
      follows.named,follows.small⟩

end CustomerService.Harvest
