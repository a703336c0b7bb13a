import CustomerService.ThreadKey
import CustomerService.OrderAccess
import Mathlib.Logic.Function.Basic

/-! The Redis keys of the long-term memory. The user id stands in a key as it is, between
the hash tag's colon and its brace, and once more with every slash replaced. -/
namespace CustomerService.MemoryKeys
open Text ThreadKey OrderAccess

def PROFILE_KEY : Text := "profile".toList

def MEMORY_KEY_PREFIX : Text := "cs:memory:".toList

/-- `part.replace("/", "_")`. -/
def replaceSlash (text : Text) : Text := text.map (fun char => if char = '/' then '_' else char)

def tag (first second : Text) : Text := '{'::(first ++ ':'::(second ++ ['}']))

def hashTagForNamespace (parts : List Text) : Text :=
  match parts with
  | [] => '{'::("default".toList ++ ['}'])
  | [only] => '{'::(only ++ ['}'])
  | first::second::rest =>
    match rest with
    | third::fourth::_ =>
      if first = "tenants".toList ∧ third = "users".toList then
        tag (orDefault second "unknown".toList) (orDefault fourth "unknown".toList)
      else tag (parts.getD (parts.length - 2) []) (parts.getD (parts.length - 1) [])
    | _ => tag (parts.getD (parts.length - 2) []) (parts.getD (parts.length - 1) [])

/-- `RedisUserStore._key`. -/
def redisKey (parts : List Text) (key : Text) : Text :=
  MEMORY_KEY_PREFIX ++ (hashTagForNamespace parts ++
    (join ['/'] (parts.map replaceSlash) ++ ':'::key))

def memoryNamespace (tenantId userId : Text) : List Text :=
  ["tenants".toList,tenantId,"users".toList,userId]

/-! The store. -/

/-- The object that a payload's text holds; the value is none where it has no such field. -/
structure Payload (Value : Type*) where
  value : Option Value
  createdAt : Option Text
  updatedAt : Option Text

inductive Raw (Value : Type*) where
  | json (payload : Payload Value)
  | broken

/-- A key's text with the seconds it may live, zero for ever. -/
structure Entry (Value : Type*) where
  raw : Raw Value
  ttl : Nat

abbrev Redis (Value : Type*) := Text → Option (Entry Value)

structure Item (Value : Type*) where
  value : Value
  key : Text
  parts : List Text
  createdAt : Text
  updatedAt : Text

inductive ReadError where
  | typeError (message : Text)
  | jsonDecodeError

/-- `_ttl_seconds`; the callers give whole minutes. -/
def ttlSeconds (ttlMinutes : Nat) (opTtl : Option Int) : Nat :=
  let minutes : Int := opTtl.getD ttlMinutes
  if minutes ≤ 0 then 0 else max 1 (minutes * 60).toNat

/-- `value or fallback`, for a field that may be missing. -/
def fieldOr (value : Option Text) (fallback : Text) : Text :=
  (value.filter (fun text => !text.isEmpty)).getD fallback

section Store
variable {Value : Type*}

/-- `_get`: what is read, and the store with the life of the key renewed. -/
def read (ttlMinutes : Nat) (redis : Redis Value) (parts : List Text) (key now : Text)
    (refreshTtl : Bool) : Except ReadError (Option (Item Value)) × Redis Value :=
  match redis (redisKey parts key) with
  | none => (.ok none,redis)
  | some ⟨.broken,_⟩ => (.error .jsonDecodeError,redis)
  | some ⟨.json payload,_⟩ =>
    match payload.value with
    | none => (.error (.typeError ("长期记忆格式无效 key=".toList ++ redisKey parts key)),redis)
    | some value =>
      let seconds := ttlSeconds ttlMinutes none
      let created := fieldOr payload.createdAt now
      (.ok (some ⟨value,key,parts,created,fieldOr payload.updatedAt created⟩),
        if refreshTtl = true ∧ 0 < seconds then
          Function.update redis (redisKey parts key) (some ⟨.json payload,seconds⟩)
        else redis)

def createdBefore (now : Text) : Option (Entry Value) → Text
  | some ⟨.json payload,_⟩ => fieldOr payload.createdAt now
  | _ => now

/-- `_put`; without a value the key is deleted. -/
def put (ttlMinutes : Nat) (redis : Redis Value) (parts : List Text) (key now : Text)
    (value : Option Value) (ttl : Option Int) : Redis Value :=
  Function.update redis (redisKey parts key) (value.map (fun value =>
    ⟨.json ⟨some value,some (createdBefore now (redis (redisKey parts key))),some now⟩,
      ttlSeconds ttlMinutes ttl⟩))

/-- What happens to a key: an operation of the store, or the end of its life. -/
inductive Op (Value : Type*) where
  | get (refreshTtl : Bool)
  | put (value : Option Value) (ttl : Option Int)
  | expires

abbrev Reply (Value : Type*) := Except ReadError (Option (Item Value))

def apply (ttlMinutes : Nat) (redis : Redis Value) (parts : List Text) (key now : Text) :
    Op Value → Reply Value × Redis Value
  | .get refreshTtl => read ttlMinutes redis parts key now refreshTtl
  | .put value ttl => (.ok none,put ttlMinutes redis parts key now value ttl)
  | .expires => (.ok none,Function.update redis (redisKey parts key) none)

private theorem apply_elsewhere (ttlMinutes : Nat) (redis : Redis Value) (parts : List Text)
    (key now : Text) (op : Op Value) {other : Text} (apart : other ≠ redisKey parts key) :
    (apply ttlMinutes redis parts key now op).2 other = redis other := by
  cases op with
  | get refreshTtl =>
    simp only [apply,read]
    split
    · rfl
    · rfl
    · split
      · rfl
      · dsimp only
        split
        · exact Function.update_of_ne apart _ _
        · rfl
  | put value ttl => exact Function.update_of_ne apart _ _
  | expires => exact Function.update_of_ne apart _ _

private theorem apply_local (ttlMinutes : Nat) {redis redis' : Redis Value} {parts : List Text}
    {key : Text} (now : Text) (op : Op Value)
    (same : redis (redisKey parts key) = redis' (redisKey parts key)) :
    (apply ttlMinutes redis parts key now op).1 = (apply ttlMinutes redis' parts key now op).1 ∧
      (apply ttlMinutes redis parts key now op).2 (redisKey parts key) =
        (apply ttlMinutes redis' parts key now op).2 (redisKey parts key) := by
  cases op with
  | get refreshTtl =>
    simp only [apply,read,same]
    split
    · exact ⟨rfl,same⟩
    · exact ⟨rfl,same⟩
    · split
      · exact ⟨rfl,same⟩
      · refine ⟨rfl,?_⟩
        dsimp only
        split
        · rw [Function.update_self,Function.update_self]
        · exact same
  | put value ttl =>
    refine ⟨rfl,?_⟩
    simp only [apply,put,same,Function.update_self]
  | expires =>
    refine ⟨rfl,?_⟩
    simp only [apply,Function.update_self]

end Store

/-! Owners. -/

structure Owner where
  tenantId : Text
  userId : Text
  tenant : isTenantId tenantId = true
  stripped : strip userId = userId
  persistent : isPersistentUser userId = true
  deriving DecidableEq

def Owner.key (owner : Owner) : Text :=
  redisKey (memoryNamespace owner.tenantId owner.userId) PROFILE_KEY

theorem Owner.user_ne (owner : Owner) : owner.userId ≠ [] := by
  intro absent
  have persistent := owner.persistent
  rw [absent] at persistent
  exact absurd persistent (by decide)

theorem chatTurn_owner {defaultTenant freshId : Text} {request : Request} {identity : Identity}
    (accepted : chatTurn defaultTenant freshId request = some identity)
    (persistent : isPersistentUser identity.userId = true) :
    ∃ owner : Owner, owner.tenantId = identity.tenantId ∧ owner.userId = identity.userId := by
  obtain ⟨tenant,valid,rfl⟩ := Option.map_eq_some_iff.mp accepted
  have known : isTenantId tenant = true := by
    unfold normalizeTenantId at valid
    split at valid
    · rename_i checked
      exact Option.some.inj valid ▸ checked
    · cases valid
  exact ⟨⟨tenant,_,known,strip_normalizeUserId _,persistent⟩,rfl,rfl⟩

/-- The part of a key behind the user id in the hash tag. -/
def Owner.path (owner : Owner) : Text :=
  '}'::("tenants/".toList ++ (replaceSlash owner.tenantId ++ ("/users/".toList ++
    (replaceSlash owner.userId ++ ':'::PROFILE_KEY))))

theorem Owner.key_eq (owner : Owner) :
    owner.key = MEMORY_KEY_PREFIX ++ '{'::(owner.tenantId ++ ':'::(owner.userId ++ owner.path)) := by
  obtain ⟨named,_,tight⟩ := isTenantId_plain owner.tenant
  have own {text : Text} (tight : strip text = text) (named : text ≠ []) :
      orDefault text "unknown".toList = text := by
    rw [orDefault,tight,if_neg named]
  have tenant := own tight named
  have user := own owner.stripped owner.user_ne
  simp only [Owner.key,redisKey,memoryNamespace,hashTagForNamespace,tag,Owner.path,tenant,user,
    and_self,if_true]
  simp [join,List.intercalate,List.intersperse,replaceSlash]

theorem Owner.path_length (owner : Owner) :
    owner.path.length = owner.tenantId.length + owner.userId.length + 24 := by
  have tenants : "tenants/".toList.length = 8 := by decide
  have users : "/users/".toList.length = 7 := by decide
  have profile : PROFILE_KEY.length = 7 := by decide
  simp only [Owner.path,replaceSlash,List.length_cons,List.length_append,List.length_map]
  omega

/-- A tenant id has no colon, so that the first one ends it; what follows is as long for two
users only when their ids are. -/
theorem key_injective : Function.Injective Owner.key := by
  intro first second same
  rw [first.key_eq,second.key_eq] at same
  have inner := (List.cons.inj (List.append_cancel_left same)).2
  obtain ⟨tenants,rest⟩ := (split_at_first (isTenantId_plain first.tenant).2.1
    (isTenantId_plain second.tenant).2.1).mp inner
  have lengths := congrArg List.length rest
  simp only [List.length_append,Owner.path_length,tenants] at lengths
  have users := (List.append_inj rest (by omega)).1
  cases first
  cases second
  cases tenants
  cases users
  rfl

/-! Runs. -/

structure Access (Value : Type*) where
  owner : Owner
  now : Text
  op : Op Value

section Runs
variable {Value : Type*}

def Access.apply (ttlMinutes : Nat) (redis : Redis Value) (access : Access Value) :
    Reply Value × Redis Value :=
  MemoryKeys.apply ttlMinutes redis
    (memoryNamespace access.owner.tenantId access.owner.userId) PROFILE_KEY access.now access.op

/-- What each access is answered, with whose it is, and the store in the end. -/
def run (ttlMinutes : Nat) (redis : Redis Value) :
    List (Access Value) → List (Owner × Reply Value) × Redis Value
  | [] => ([],redis)
  | access::rest =>
    let applied := access.apply ttlMinutes redis
    let later := run ttlMinutes applied.2 rest
    ((access.owner,applied.1)::later.1,later.2)

structure Alike (owner : Owner) (first second : List (Owner × Reply Value) × Redis Value) : Prop where
  replies : first.1.filter (fun reply => reply.1 = owner) =
    second.1.filter (fun reply => reply.1 = owner)
  profile : first.2 owner.key = second.2 owner.key

theorem Alike.cons {owner : Owner} {first second : List (Owner × Reply Value) × Redis Value}
    (alike : Alike owner first second) (reply : Owner × Reply Value) :
    Alike owner (reply::first.1,first.2) (reply::second.1,second.2) where
  replies := by rw [List.filter_cons,List.filter_cons,alike.replies]
  profile := alike.profile

theorem Alike.cons_other {owner : Owner} {first second : List (Owner × Reply Value) × Redis Value}
    (alike : Alike owner first second) {reply : Owner × Reply Value} (other : reply.1 ≠ owner) :
    Alike owner (reply::first.1,first.2) second where
  replies := by rw [List.filter_cons_of_neg (by simpa using other),alike.replies]
  profile := alike.profile

private theorem run_own (ttlMinutes : Nat) (owner : Owner) (accesses : List (Access Value))
    (redis redis' : Redis Value) (same : redis owner.key = redis' owner.key) :
    Alike owner (run ttlMinutes redis accesses)
      (run ttlMinutes redis' (accesses.filter (fun access => access.owner = owner))) := by
  induction accesses generalizing redis redis' with
  | nil => exact ⟨rfl,same⟩
  | cons access rest ih =>
    by_cases own : access.owner = owner
    · rw [List.filter_cons_of_pos (by simpa using own)]
      subst own
      obtain ⟨reply,entry⟩ := apply_local ttlMinutes access.now access.op same
      have later := (ih _ _ entry).cons
        (access.owner,(access.apply ttlMinutes redis).1)
      simp only [run]
      exact (show (access.apply ttlMinutes redis').1 = _ from reply.symm) ▸ later
    · rw [List.filter_cons_of_neg (by simpa using own)]
      have apart : owner.key ≠ access.owner.key := fun same => own (key_injective same).symm
      have kept := apply_elsewhere ttlMinutes redis _ PROFILE_KEY access.now access.op apart
      exact (ih _ _ (kept.trans same)).cons_other own

/-- Every owner has a key of his own, and in no run do the accesses of the others change what
he reads or what is kept under his key. -/
theorem profiles_do_not_collide (Value : Type*) :
    Function.Injective Owner.key ∧
    ∀ (ttlMinutes : Nat) (redis : Redis Value) (accesses : List (Access Value)) (owner : Owner),
      Alike owner (run ttlMinutes redis accesses)
        (run ttlMinutes redis (accesses.filter (fun access => access.owner = owner))) :=
  ⟨key_injective,fun ttlMinutes redis accesses owner =>
    run_own ttlMinutes owner accesses redis redis rfl⟩

end Runs

end CustomerService.MemoryKeys
