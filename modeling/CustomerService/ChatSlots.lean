import CustomerService.Lease
import CustomerService.Machine
import Mathlib.Algebra.Order.Ring.Rat
import Mathlib.Tactic.Linarith

/-! The stores of chat slots: one inside a process, one of sorted sets in Redis
whose scripts run as a whole. Either keeps each token twice, among all tokens and
among those of its tenant, and drops expired ones when a later call passes by. -/
namespace CustomerService.ChatSlots

inductive BusyReason
  | cluster
  | tenant
  deriving DecidableEq

/-- The arguments of `acquire`, with the token that `_new_token` draws for it. -/
structure AcquireArgs where
  tenantId : String
  globalLimit : Int
  tenantLimit : Int
  ttlSeconds : Int
  token : String
  deriving DecidableEq

def AcquireArgs.expireAt (args : AcquireArgs) (now : ℚ) : ℚ := now + (max 1 args.ttlSeconds : Int)

abbrev Expiries := Dict String ℚ

structure ChatSlotStore (Store : Type) where
  init : Store
  acquire : Store → AcquireArgs → ℚ → Except BusyReason String × Store
  release : Store → String → String → Store
  inFlight : Store → ℚ → Nat × Store

/-! One process. -/
structure MemoryChatSlotStore where
  global : Expiries
  tenants : Dict String Expiries
  deriving DecidableEq

namespace MemoryChatSlotStore

def pop (store : MemoryChatSlotStore) (token : String) : MemoryChatSlotStore :=
  ⟨store.global.erase token,store.tenants.filterMap (fun _ held => some (held.erase token))⟩

def stale (store : MemoryChatSlotStore) (now : ℚ) : List String :=
  (store.global.filter (fun _ exp => decide (exp ≤ now))).keys

def purge (store : MemoryChatSlotStore) (now : ℚ) : MemoryChatSlotStore :=
  (store.stale now).foldl pop store

def acquire (store : MemoryChatSlotStore) (args : AcquireArgs) (now : ℚ) :
    Except BusyReason String × MemoryChatSlotStore :=
  let store := store.purge now
  if args.globalLimit ≤ store.global.size then (.error .cluster,store)
  else
    let held := store.tenants.getD args.tenantId ∅
    if args.tenantLimit ≤ held.size then
      -- `setdefault` has already put the empty table of a new tenant
      (.error .tenant,⟨store.global,store.tenants.set args.tenantId held⟩)
    else
      (.ok args.token,⟨store.global.set args.token (args.expireAt now),
        store.tenants.set args.tenantId (held.set args.token (args.expireAt now))⟩)

def release (store : MemoryChatSlotStore) (tenantId token : String) : MemoryChatSlotStore :=
  ⟨store.global.erase token,
    match store.tenants.get? tenantId with
    | some held => store.tenants.set tenantId (held.erase token)
    | none => store.tenants⟩

def inFlight (store : MemoryChatSlotStore) (now : ℚ) : Nat × MemoryChatSlotStore :=
  ((store.purge now).global.size,store.purge now)

def held (store : MemoryChatSlotStore) (tenantId : String) : Expiries :=
  store.tenants.getD tenantId ∅

end MemoryChatSlotStore

def memoryChatSlotStore : ChatSlotStore MemoryChatSlotStore where
  init := ⟨∅,∅⟩
  acquire := MemoryChatSlotStore.acquire
  release := MemoryChatSlotStore.release
  inFlight := MemoryChatSlotStore.inFlight

/-! Sorted sets by key, each the scores of its members. A set that becomes empty
leaves the database. -/
structure Redis where
  sets : Dict String Expiries
  deriving DecidableEq

namespace Redis

def members (db : Redis) (key : String) : Expiries := db.sets.getD key ∅

def put (db : Redis) (key : String) (members : Expiries) : Redis :=
  ⟨if members.isEmpty then db.sets.erase key else db.sets.set key members⟩

def zcard (db : Redis) (key : String) : Nat := (db.members key).size

/-- `ZREMRANGEBYSCORE key -inf now`. -/
def zremrangebyscore (db : Redis) (key : String) (now : ℚ) : Redis :=
  db.put key ((db.members key).filter (fun _ score => !decide (score ≤ now)))

def zadd (db : Redis) (key : String) (score : ℚ) (member : String) : Redis :=
  db.put key ((db.members key).set member score)

def zrem (db : Redis) (key member : String) : Redis :=
  db.put key ((db.members key).erase member)

theorem members_put (db : Redis) (key other : String) (members : Expiries) :
    (db.put key members).members other = if other = key then members else db.members other := by
  unfold put
  split
  · rename_i empty
    have nothing : members = ∅ := Dict.ext' (List.isEmpty_iff.mp empty)
    rw [Redis.members,Dict.getD,Dict.get?_erase]
    split
    · exact nothing.symm
    · rfl
  · exact Dict.getD_set _ _ _ _ _

end Redis

def GLOBAL_KEY : String := "cs:chat:inflight:{cs:chat}"

def TENANT_KEY_PREFIX : String := "cs:chat:tenant:{cs:chat}:"

def tenantSlotKey (tenantId : String) : String := TENANT_KEY_PREFIX ++ tenantId

theorem tenantSlotKey_inj {first second : String} (same : tenantSlotKey first = tenantSlotKey second) :
    first = second := by
  have letters := congrArg String.toList same
  rw [tenantSlotKey,tenantSlotKey,String.toList_append,String.toList_append] at letters
  exact String.toList_injective (List.append_cancel_left letters)

theorem tenantSlotKey_ne_global (tenantId : String) : tenantSlotKey tenantId ≠ GLOBAL_KEY := by
  intro same
  have letters := congrArg (fun text => text.toList.take 9) same
  rw [tenantSlotKey,TENANT_KEY_PREFIX,GLOBAL_KEY] at letters
  simp [String.toList_append] at letters

namespace RedisChatSlotStore

def acquireLua (db : Redis) (globalKey tenantKey : String) (now : ℚ)
    (globalLimit tenantLimit : Int) (expireAt : ℚ) (token : String) : Int × Redis :=
  let db := (db.zremrangebyscore globalKey now).zremrangebyscore tenantKey now
  if globalLimit ≤ db.zcard globalKey then (-1,db)
  else if tenantLimit ≤ db.zcard tenantKey then (-2,db)
  else (1,(db.zadd globalKey expireAt token).zadd tenantKey expireAt token)

def releaseLua (db : Redis) (globalKey tenantKey token : String) : Redis :=
  (db.zrem globalKey token).zrem tenantKey token

def countLua (db : Redis) (globalKey : String) (now : ℚ) : Nat × Redis :=
  let db := db.zremrangebyscore globalKey now
  (db.zcard globalKey,db)

def acquire (db : Redis) (args : AcquireArgs) (now : ℚ) : Except BusyReason String × Redis :=
  let result := acquireLua db GLOBAL_KEY (tenantSlotKey args.tenantId) now args.globalLimit
    args.tenantLimit (args.expireAt now) args.token
  (if result.1 = -1 then .error .cluster
    else if result.1 = -2 then .error .tenant
    else .ok args.token,result.2)

def release (db : Redis) (tenantId token : String) : Redis :=
  releaseLua db GLOBAL_KEY (tenantSlotKey tenantId) token

def inFlight (db : Redis) (now : ℚ) : Nat × Redis := countLua db GLOBAL_KEY now

end RedisChatSlotStore

def redisChatSlotStore : ChatSlotStore Redis where
  init := ⟨∅⟩
  acquire := RedisChatSlotStore.acquire
  release := RedisChatSlotStore.release
  inFlight := RedisChatSlotStore.inFlight

end CustomerService.ChatSlots
