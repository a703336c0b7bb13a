import CustomerService.Lease
import CustomerService.Machine
import Mathlib.Algebra.Order.Field.Rat
import Mathlib.Tactic.Linarith

/-! The session locks of the workers: one string in Redis for each thread, taken by
SET NX PX and given back by a script that compares the token before it deletes. -/
namespace CustomerService.SessionLock

/-! Strings that go away by themselves, with the time they do. -/
abbrev Redis := Dict String (Lease String ℚ)

namespace Redis

def get (db : Redis) (now : ℚ) (key : String) : Option String :=
  ((db.get? key).filter (fun entry => decide (now < entry.expiry))).map Lease.holder

/-- `SET key token NX PX ttlMs`. -/
def setNxPx (db : Redis) (now : ℚ) (key token : String) (ttlMs : Int) : Bool × Redis :=
  if (db.get now key).isSome then (false,db) else (true,db.set key ⟨token,now + ttlMs / 1000⟩)

/-- `_UNLOCK_LUA`. -/
def unlockLua (db : Redis) (now : ℚ) (key token : String) : Nat × Redis :=
  if db.get now key = some token then (1,db.erase key) else (0,db)

end Redis

def LOCK_PREFIX : String := "cs:session:lock:"

namespace RedisSessionLock

def key (threadId : String) : String := LOCK_PREFIX ++ "\x7b" ++ threadId ++ "\x7d"

end RedisSessionLock

namespace AsyncRedisSessionLock

def key (threadId : String) : String := LOCK_PREFIX ++ "\x7b" ++ threadId ++ "\x7d"

end AsyncRedisSessionLock

inductive LockClass
  | redisSessionLock
  | asyncRedisSessionLock
  deriving DecidableEq

def LockClass.key : LockClass → String → String
  | .redisSessionLock => RedisSessionLock.key
  | .asyncRedisSessionLock => AsyncRedisSessionLock.key

theorem LockClass.key_eq (first second : LockClass) (threadId : String) :
    first.key threadId = second.key threadId := by
  cases first <;> cases second <;> rfl

structure LockSettings where
  sessionLockTtlSeconds : Int
  sessionLockWaitSeconds : ℚ

def LockSettings.lockSettings (settings : LockSettings) : Int × ℚ :=
  (max 1 settings.sessionLockTtlSeconds,max 0 settings.sessionLockWaitSeconds)

structure LockObject where
  cls : LockClass
  wait : ℚ
  ttlMs : Int
  lasting : 1000 ≤ ttlMs

/-- `__init__` of both classes; an argument that is not given comes from the settings. -/
def LockObject.init (cls : LockClass) (settings : LockSettings) (waitSeconds : Option ℚ)
    (ttlSeconds : Option Int) : LockObject where
  cls := cls
  wait := (waitSeconds.map (max 0)).getD settings.lockSettings.2
  ttlMs := max 1000 (ttlSeconds.getD settings.lockSettings.1 * 1000)
  lasting := le_max_left 1000 _

/-- A call of `acquire` or `aacquire`: still in its loop, holding the lock for a time,
or ended by SessionBusyError or by its release. -/
inductive Phase
  | trying (deadline : ℚ)
  | holding (expiry : ℚ)
  | ended
  deriving DecidableEq

structure LockCall (Worker : Type) where
  worker : Worker
  lock : LockObject
  threadId : String
  phase : Phase

def LockCall.key {Worker : Type} (call : LockCall Worker) : String :=
  call.lock.cls.key call.threadId

/-- What Redis stores, and the calls of all workers by the token each has drawn. -/
structure Cluster (Worker : Type) where
  redis : Redis
  calls : Dict String (LockCall Worker)

/-- The loop reads the monotonic clock of its worker, which Redis knows nothing of. -/
inductive Action (Worker : Type)
  | acquire (token : String) (worker : Worker) (lock : LockObject) (threadId : String)
    (monotonic : ℚ)
  | attempt (token : String) (monotonic : ℚ)
  | release (token : String)

structure Event (Worker : Type) where
  now : ℚ
  action : Action Worker

inductive Answer
  | started
  | granted
  | retry
  | sessionBusy
  | released (deleted : Nat)
  | ignored
  deriving DecidableEq

variable {Worker : Type}

namespace Cluster

def enter (cluster : Cluster Worker) (token : String) (call : LockCall Worker) (phase : Phase) :
    Cluster Worker :=
  ⟨cluster.redis,cluster.calls.set token {call with phase := phase}⟩

/-- One pass of the loop in `acquire`. -/
def attempt (cluster : Cluster Worker) (now : ℚ) (token : String) (call : LockCall Worker)
    (deadline monotonic : ℚ) : Answer × Cluster Worker :=
  let result := cluster.redis.setNxPx now call.key token call.lock.ttlMs
  if result.1 = true then
    (.granted,Cluster.enter ⟨result.2,cluster.calls⟩ token call
      (.holding (now + call.lock.ttlMs / 1000)))
  else if deadline ≤ monotonic then (.sessionBusy,cluster.enter token call .ended)
  else (.retry,cluster)

def release (cluster : Cluster Worker) (now : ℚ) (token : String) (call : LockCall Worker) :
    Answer × Cluster Worker :=
  let result := cluster.redis.unlockLua now call.key token
  (.released result.1,Cluster.enter ⟨result.2,cluster.calls⟩ token call .ended)

/-- A call goes on only from the phase it is in; anything else changes nothing. -/
def step (cluster : Cluster Worker) (event : Event Worker) : Answer × Cluster Worker :=
  match event.action with
  | .acquire token worker lock threadId monotonic =>
    (.started,⟨cluster.redis,
      cluster.calls.set token ⟨worker,lock,threadId,.trying (monotonic + lock.wait)⟩⟩)
  | .attempt token monotonic =>
    match cluster.calls.get? token with
    | some call =>
      match call.phase with
      | .trying deadline => cluster.attempt event.now token call deadline monotonic
      | _ => (.ignored,cluster)
    | none => (.ignored,cluster)
  | .release token =>
    match cluster.calls.get? token with
    | some call =>
      match call.phase with
      | .holding _ => cluster.release event.now token call
      | _ => (.ignored,cluster)
    | none => (.ignored,cluster)

/-- The call of the token holds the lock of the thread at the moment. -/
def Holds (cluster : Cluster Worker) (moment : ℚ) (threadId token : String) : Prop :=
  ∃ call expiry, cluster.calls.get? token = some call ∧ call.threadId = threadId ∧
    call.phase = .holding expiry ∧ moment < expiry

end Cluster

def cluster (Worker : Type) : Machine (Cluster Worker) (Event Worker) Answer where
  initial := ⟨∅,∅⟩
  step := Cluster.step

def Action.drawn? : Action Worker → Option String
  | .acquire token .. => some token
  | _ => none

/-- The clock of Redis does not go back and no token is drawn twice. -/
structure Orderly (events : List (Event Worker)) : Prop where
  clock : events.Pairwise (fun earlier later => earlier.now ≤ later.now)
  tokens : (events.filterMap (fun event => event.action.drawn?)).Nodup

theorem Orderly.closed (past : List (Event Worker)) (event : Event Worker)
    (whole : Orderly (past ++ [event])) : Orderly past where
  clock := (List.pairwise_append.mp whole.clock).1
  tokens := by
    have all := whole.tokens
    rw [List.filterMap_append] at all
    exact (List.nodup_append.mp all).1

theorem Orderly.now_le {past : List (Event Worker)} {event : Event Worker}
    (whole : Orderly (past ++ [event])) : ∀ earlier ∈ past, earlier.now ≤ event.now :=
  fun earlier before =>
    (List.pairwise_append.mp whole.clock).2.2 earlier before event (List.mem_singleton_self _)

theorem Orderly.fresh {past : List (Event Worker)} {event : Event Worker}
    (whole : Orderly (past ++ [event])) {token : String} (draws : event.action.drawn? = some token) :
    ∀ earlier ∈ past, earlier.action.drawn? ≠ some token := by
  intro earlier before drawn
  have all := whole.tokens
  rw [List.filterMap_append] at all
  refine (List.nodup_append.mp all).2.2 token ?_ token (by simp [draws]) rfl
  exact List.mem_filterMap.mpr ⟨earlier,before,drawn⟩

/-! The invariant: a lock that has not expired is in Redis under its token. -/
structure Guarded (past : List (Event Worker)) (cluster : Cluster Worker) : Prop where
  drawn : ∀ token call, cluster.calls.get? token = some call →
    ∃ event ∈ past, event.action.drawn? = some token
  stored : ∀ token call expiry, cluster.calls.get? token = some call →
    call.phase = .holding expiry → ∀ moment, (∀ event ∈ past, event.now ≤ moment) →
      moment < expiry → cluster.redis.get? call.key = some ⟨token,expiry⟩

namespace Redis

variable {db : Redis} {now : ℚ} {key : String}

private theorem get_of_stored {entry : Lease String ℚ} (stored : db.get? key = some entry)
    (ahead : now < entry.expiry) : db.get now key = some entry.holder := by
  simp [get,stored,Option.filter_some,ahead]

theorem get?_of_set {token : String} {ttlMs : Int} (taken : (db.setNxPx now key token ttlMs).1 = true) :
    (db.setNxPx now key token ttlMs).2.get? key = some ⟨token,now + ttlMs / 1000⟩ := by
  unfold setNxPx at taken ⊢
  split at taken
  · cases taken
  · rename_i free
    rw [if_neg free,Dict.get?_set,if_pos rfl]

theorem get?_setNxPx {token : String} {ttlMs : Int} {entry : Lease String ℚ} {other : String}
    (stored : db.get? other = some entry) (ahead : now < entry.expiry) :
    (db.setNxPx now key token ttlMs).2.get? other = some entry := by
  unfold setNxPx
  split
  · exact stored
  · rename_i free
    rw [Dict.get?_set]
    split
    · rename_i same
      subst same
      rw [get_of_stored stored ahead] at free
      exact absurd rfl free
    · exact stored

theorem get?_unlockLua {token other : String} {entry : Lease String ℚ}
    (stored : db.get? other = some entry) (apart : entry.holder ≠ token)
    (ahead : now < entry.expiry) : (db.unlockLua now key token).2.get? other = some entry := by
  unfold unlockLua
  split
  · rename_i owned
    rw [Dict.get?_erase]
    split
    · rename_i same
      subst same
      rw [get_of_stored stored ahead] at owned
      exact absurd (Option.some.inj owned) apart
    · exact stored
  · exact stored

end Redis

namespace Guarded

variable {past : List (Event Worker)} {cluster : Cluster Worker} {event : Event Worker}

theorem unchanged (guarded : Guarded past cluster) (event : Event Worker) :
    Guarded (past ++ [event]) cluster where
  drawn := fun token call found =>
    (guarded.drawn token call found).imp (fun _ both => ⟨List.mem_append_left _ both.1,both.2⟩)
  stored := fun token call expiry found holding moment after =>
    guarded.stored token call expiry found holding moment
      (fun other before => after other (List.mem_append_left _ before))

theorem enter (guarded : Guarded past cluster) (order : ∀ earlier ∈ past, earlier.now ≤ event.now)
    {token : String} (drawn : ∃ earlier ∈ past ++ [event], earlier.action.drawn? = some token)
    {call : LockCall Worker} {redis : Redis}
    (own : ∀ expiry, call.phase = .holding expiry → redis.get? call.key = some ⟨token,expiry⟩)
    (kept : ∀ key entry, cluster.redis.get? key = some entry → entry.holder ≠ token →
      event.now < entry.expiry → redis.get? key = some entry) :
    Guarded (past ++ [event]) ⟨redis,cluster.calls.set token call⟩ where
  drawn := by
    intro other found listed
    simp only [Dict.get?_set] at listed
    split at listed
    · rename_i same
      exact same ▸ drawn
    · exact (guarded.unchanged event).drawn other found listed
  stored := by
    intro other found expiry listed holding moment after ahead
    have here : event.now ≤ moment :=
      after event (List.mem_append_right _ (List.mem_singleton_self _))
    simp only [Dict.get?_set] at listed
    split at listed
    · rename_i same
      cases listed
      exact same ▸ own expiry holding
    · rename_i apart
      have before := guarded.stored other found expiry listed holding event.now order
        (here.trans_lt ahead)
      exact kept _ _ before apart (here.trans_lt ahead)

theorem attempt (guarded : Guarded past cluster) (order : ∀ earlier ∈ past, earlier.now ≤ event.now)
    {token : String} {call : LockCall Worker} (found : cluster.calls.get? token = some call)
    (deadline monotonic : ℚ) :
    Guarded (past ++ [event]) (cluster.attempt event.now token call deadline monotonic).2 := by
  have drawn := (guarded.unchanged event).drawn token call found
  by_cases taken : (cluster.redis.setNxPx event.now call.key token call.lock.ttlMs).1 = true
  · simp only [Cluster.attempt,taken,if_true]
    refine guarded.enter order drawn (fun expiry holding => ?_)
      (fun key entry stored _ ahead => Redis.get?_setNxPx stored ahead)
    cases holding
    exact Redis.get?_of_set taken
  · simp only [Cluster.attempt,taken,Bool.false_eq_true,if_false]
    split
    · exact guarded.enter order drawn (fun expiry holding => by cases holding)
        (fun _ _ stored _ _ => stored)
    · exact guarded.unchanged event

theorem release (guarded : Guarded past cluster) (order : ∀ earlier ∈ past, earlier.now ≤ event.now)
    {token : String} {call : LockCall Worker} (found : cluster.calls.get? token = some call) :
    Guarded (past ++ [event]) (cluster.release event.now token call).2 :=
  guarded.enter order ((guarded.unchanged event).drawn token call found)
    (fun expiry holding => by cases holding)
    (fun _ _ stored apart ahead => Redis.get?_unlockLua stored apart ahead)

theorem step (guarded : Guarded past cluster) (whole : Orderly (past ++ [event])) :
    Guarded (past ++ [event]) (cluster.step event).2 := by
  have order := whole.now_le
  unfold Cluster.step
  cases action : event.action with
  | acquire token worker lock threadId monotonic =>
    have draws : event.action.drawn? = some token := by rw [action]; rfl
    refine guarded.enter order
      ⟨event,List.mem_append_right _ (List.mem_singleton_self _),draws⟩
      (fun expiry holding => by cases holding) (fun _ _ stored _ _ => stored)
  | attempt token monotonic =>
    cases found : cluster.calls.get? token with
    | none => simpa only [found] using guarded.unchanged event
    | some call =>
      cases phase : call.phase with
      | trying deadline => simpa only [found,phase] using guarded.attempt order found deadline monotonic
      | holding expiry => simpa only [found,phase] using guarded.unchanged event
      | ended => simpa only [found,phase] using guarded.unchanged event
  | release token =>
    cases found : cluster.calls.get? token with
    | none => simpa only [found] using guarded.unchanged event
    | some call =>
      cases phase : call.phase with
      | holding expiry => simpa only [found,phase] using guarded.release order found
      | trying deadline => simpa only [found,phase] using guarded.unchanged event
      | ended => simpa only [found,phase] using guarded.unchanged event

theorem run {events : List (Event Worker)} (whole : Orderly events) :
    Guarded events ((SessionLock.cluster Worker).after events) := by
  refine (SessionLock.cluster Worker).invariant Orderly.closed ?_ ?_ whole
  · constructor <;> intro token call <;> intros <;> contradiction
  · exact fun past event cluster allowed guarded => guarded.step allowed

private theorem get_of_holds (guarded : Guarded past cluster) {moment : ℚ}
    (after : ∀ event ∈ past, event.now ≤ moment) {threadId token : String}
    (holds : cluster.Holds moment threadId token) (cls : LockClass) :
    cluster.redis.get moment (cls.key threadId) = some token := by
  obtain ⟨call,expiry,found,rfl,holding,ahead⟩ := holds
  have stored := guarded.stored token call expiry found holding moment after ahead
  rw [LockCall.key,LockClass.key_eq _ cls] at stored
  exact Redis.get_of_stored stored ahead

theorem exclusive (guarded : Guarded past cluster) {moment : ℚ}
    (after : ∀ event ∈ past, event.now ≤ moment) {threadId first second : String}
    (one : cluster.Holds moment threadId first) (two : cluster.Holds moment threadId second) :
    first = second := by
  have same := (guarded.get_of_holds after one .redisSessionLock).symm.trans
    (guarded.get_of_holds after two .redisSessionLock)
  exact Option.some.inj same

end Guarded

/-- What a state guarantees from a moment on, whatever the classes of the locks. -/
structure Excludes (cluster : Cluster Worker) (moment : ℚ) : Prop where
  /-- At most one call, hence at most one worker, holds the lock of a thread. -/
  single : ∀ threadId first second, cluster.Holds moment threadId first →
    cluster.Holds moment threadId second → first = second
  /-- A granted attempt holds the lock of its thread. -/
  granted : ∀ token call deadline monotonic, cluster.calls.get? token = some call →
    call.phase = .trying deadline → (cluster.step ⟨moment,.attempt token monotonic⟩).1 = .granted →
      (cluster.step ⟨moment,.attempt token monotonic⟩).2.Holds moment call.threadId token
  /-- A call in its loop is refused as long as another one holds the lock of its thread. -/
  refused : ∀ threadId holder token call deadline monotonic,
    cluster.Holds moment threadId holder → cluster.calls.get? token = some call →
      call.threadId = threadId → call.phase = .trying deadline →
        (cluster.step ⟨moment,.attempt token monotonic⟩).1 ≠ .granted
  /-- A release, late or not, leaves every lock of another token in Redis. -/
  kept : ∀ token key holder later, moment ≤ later → holder ≠ token →
    cluster.redis.get later key = some holder →
      (cluster.step ⟨moment,.release token⟩).2.redis.get later key = some holder
  /-- A held lock is in Redis, for both classes. -/
  held : ∀ threadId holder (cls : LockClass), cluster.Holds moment threadId holder →
    cluster.redis.get moment (cls.key threadId) = some holder

theorem Cluster.attempt_holds (cluster : Cluster Worker) (now : ℚ) (token : String)
    (call : LockCall Worker) (deadline monotonic : ℚ)
    (granted : (cluster.attempt now token call deadline monotonic).1 = .granted) :
    (cluster.attempt now token call deadline monotonic).2.Holds now call.threadId token := by
  by_cases taken : (cluster.redis.setNxPx now call.key token call.lock.ttlMs).1 = true
  · simp only [attempt,taken,if_true]
    refine ⟨_,_,(Dict.get?_set _ _ _ _).trans (if_pos rfl),rfl,rfl,?_⟩
    have lasting : (1000 : ℚ) ≤ call.lock.ttlMs := by exact_mod_cast call.lock.lasting
    linarith
  · simp only [attempt,taken,Bool.false_eq_true,if_false] at granted
    split at granted <;> cases granted

theorem Redis.get_unlockLua {db : Redis} {now later : ℚ} {key token other holder : String}
    (order : now ≤ later) (apart : holder ≠ token) (found : db.get later other = some holder) :
    Redis.get (db.unlockLua now key token).2 later other = some holder := by
  obtain ⟨entry,kept,rfl⟩ := Option.map_eq_some_iff.mp found
  obtain ⟨stored,ahead⟩ := Option.filter_eq_some_iff.mp kept
  have running : later < entry.expiry := of_decide_eq_true ahead
  exact get_of_stored (get?_unlockLua stored apart (order.trans_lt running)) running

theorem Guarded.excludes {past : List (Event Worker)} {cluster : Cluster Worker}
    (guarded : Guarded past cluster) {moment : ℚ} (after : ∀ event ∈ past, event.now ≤ moment) :
    Excludes cluster moment where
  single := fun _ _ _ one two => guarded.exclusive after one two
  granted := by
    intro token call deadline monotonic found trying
    simp only [Cluster.step,found,trying]
    exact Cluster.attempt_holds cluster moment token call deadline monotonic
  refused := by
    intro threadId holder token call deadline monotonic holds found same trying
    have taken := guarded.get_of_holds after holds call.lock.cls
    rw [← same] at taken
    have busy : (cluster.redis.setNxPx moment call.key token call.lock.ttlMs).1 = false := by
      rw [Redis.setNxPx,LockCall.key,taken]
      rfl
    simp only [Cluster.step,found,trying,Cluster.attempt,busy,Bool.false_eq_true,if_false]
    split <;> simp
  kept := by
    intro token key holder later order apart found
    simp only [Cluster.step]
    split
    · split
      · exact Redis.get_unlockLua order apart found
      · exact found
    · exact found
  held := fun _ _ cls holds => guarded.get_of_holds after holds cls

/-- The locks exclude each other at every moment of every run of all workers. -/
theorem session_lock_excludes (events : List (Event Worker)) (whole : Orderly events) (moment : ℚ)
    (after : ∀ event ∈ events, event.now ≤ moment) :
    Excludes ((cluster Worker).after events) moment :=
  (Guarded.run whole).excludes after

/-- Two workers on one thread, one of each class; the first lets its lease run out. -/
def overrun : List (Event Nat) :=
  let first := LockObject.init .redisSessionLock ⟨180,10⟩ none (some 1)
  let second := LockObject.init .asyncRedisSessionLock ⟨180,10⟩ none none
  [⟨0,.acquire "a" 1 first "acme:u:s" 50⟩,⟨0,.attempt "a" 50⟩,
    ⟨0,.acquire "b" 2 second "acme:u:s" 7⟩,⟨0,.attempt "b" 7⟩,⟨2,.attempt "b" 9⟩,⟨3,.release "a"⟩]

theorem session_lock_excludes_overrun :
    (cluster Nat).answers overrun = [.started,.granted,.started,.retry,.granted,.released 0] ∧
      Excludes ((cluster Nat).after overrun) 3 :=
  ⟨by decide +kernel,session_lock_excludes overrun
    ⟨by decide +kernel,by decide +kernel⟩ 3 (by decide +kernel)⟩

end CustomerService.SessionLock
