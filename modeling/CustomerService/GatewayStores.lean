import CustomerService.ThreadKey
import CustomerService.Dict
import Mathlib.Algebra.BigOperators.Group.List.Basic
import Mathlib.Algebra.Order.Ring.Rat
import Mathlib.Algebra.Ring.Int.Defs
import Mathlib.Tactic.Linarith

/-! The counters of a tenant's day in the two gateway stores, and the ledger of all usages
and cache hits that both of them keep the sums of. -/
namespace CustomerService.GatewayQuota
open ThreadKey

/-- Tenants are validated before they become current. -/
abbrev Tenant := {tenantId : Text // isTenantId tenantId = true}

structure TokenUsage where
  promptTokens : Int
  completionTokens : Int
  totalTokens : Int
deriving DecidableEq

def TokenUsage.normalized (usage : TokenUsage) : TokenUsage :=
  { usage with
    totalTokens := if usage.totalTokens ≠ 0 then usage.totalTokens
      else usage.promptTokens + usage.completionTokens }

structure Counters where
  promptTokens : Int
  completionTokens : Int
  totalTokens : Int
  requests : Int
  cacheHits : Int
deriving DecidableEq

def noCounters : Counters := ⟨0,0,0,0,0⟩

def Counters.addUsage (row : Counters) (usage : TokenUsage) : Counters :=
  { row with
    promptTokens := row.promptTokens + usage.promptTokens
    completionTokens := row.completionTokens + usage.completionTokens
    totalTokens := row.totalTokens + usage.totalTokens
    requests := row.requests + 1 }

def Counters.addCacheHit (row : Counters) : Counters := { row with cacheHits := row.cacheHits + 1 }

structure QuotaSnapshot where
  tenantId : Text
  day : Text
  counters : Counters
deriving DecidableEq

def quotaTtlSeconds : ℚ := 60 * 60 * 48

/-- `date.today()`: two moments of one day are less than the lifetime of a row apart. -/
structure Calendar where
  day : ℚ → Text
  short : ∀ earlier later, earlier ≤ later → day earlier = day later →
    later - earlier < quotaTtlSeconds

/-- A gateway store: each operation has its own moment, and takes the day from it unless it
is given one. -/
structure Store (State : Type) where
  getQuota : State → ℚ → Tenant → Option Text → QuotaSnapshot × State
  addUsage : State → ℚ → Tenant → TokenUsage → Option Text → QuotaSnapshot × State
  addCacheHit : State → ℚ → Tenant → Option Text → State

variable (calendar : Calendar)

def Calendar.dayOr (now : ℚ) (day : Option Text) : Text := day.getD (calendar.day now)

/-! ### `MemoryGatewayStore` -/

abbrev MemoryStore := Dict (Text × Text) Counters

def MemoryStore.row (store : MemoryStore) (key : Text × Text) : Counters × MemoryStore :=
  match store.get? key with
  | some row => (row,store)
  | none => (noCounters,store.set key noCounters)

/-- The row is looked up, made when it is missing, and changed in place. -/
def MemoryStore.change (store : MemoryStore) (tenant : Tenant) (day : Text)
    (update : Counters → Counters) : QuotaSnapshot × MemoryStore :=
  let key := (tenant.val,day)
  let (row,rows) := MemoryStore.row store key
  (⟨tenant.val,day,update row⟩,rows.set key (update row))

def memoryStore : Store MemoryStore where
  getQuota store now tenant day :=
    let (row,rows) := MemoryStore.row store (tenant.val,calendar.dayOr now day)
    (⟨tenant.val,calendar.dayOr now day,row⟩,rows)
  addUsage store now tenant usage day :=
    MemoryStore.change store tenant (calendar.dayOr now day)
      (fun row => row.addUsage usage.normalized)
  addCacheHit store now tenant day :=
    (MemoryStore.change store tenant (calendar.dayOr now day) Counters.addCacheHit).2

/-! ### `RedisGatewayStore` -/

structure Hash where
  fields : Dict String Int
  deadline : Option ℚ

abbrev Redis := Dict Text Hash

namespace Redis

def live (redis : Redis) (now : ℚ) (key : Text) : Option Hash :=
  (redis.get? key).filter (fun hash => hash.deadline.all (fun deadline => decide (now < deadline)))

def hgetall (redis : Redis) (now : ℚ) (key : Text) : Dict String Int :=
  ((redis.live now key).map Hash.fields).getD ∅

def hincrby (redis : Redis) (now : ℚ) (key : Text) (field : String) (amount : Int) : Redis :=
  let hash := (redis.live now key).getD ⟨∅,none⟩
  redis.set key { hash with fields := hash.fields.set field (hash.fields.getD field 0 + amount) }

def expire (redis : Redis) (now : ℚ) (key : Text) (seconds : ℚ) : Redis :=
  match redis.live now key with
  | none => redis
  | some hash => redis.set key { hash with deadline := some (now + seconds) }

end Redis

def quotaPrefix : Text := "cs:llm:quota:".toList

def quotaKey (tenant : Tenant) (day : Text) : Text :=
  quotaPrefix ++ '\x7b' :: (tenant.val ++ ':' :: (day ++ ['\x7d']))

def countersOf (fields : Dict String Int) : Counters where
  promptTokens := fields.getD "prompt_tokens" 0
  completionTokens := fields.getD "completion_tokens" 0
  totalTokens := fields.getD "total_tokens" 0
  requests := fields.getD "requests" 0
  cacheHits := fields.getD "cache_hits" 0

/-- The pipeline of `add_usage`, but for the `HGETALL` at its end. -/
def usagePipeline (redis : Redis) (now : ℚ) (key : Text) (usage : TokenUsage) : Redis :=
  ((((redis.hincrby now key "prompt_tokens" usage.promptTokens).hincrby now key
    "completion_tokens" usage.completionTokens).hincrby now key "total_tokens"
    usage.totalTokens).hincrby now key "requests" 1).expire now key quotaTtlSeconds

def hitPipeline (redis : Redis) (now : ℚ) (key : Text) : Redis :=
  (redis.hincrby now key "cache_hits" 1).expire now key quotaTtlSeconds

def redisStore : Store Redis where
  getQuota redis now tenant day :=
    (⟨tenant.val,calendar.dayOr now day,
      countersOf (redis.hgetall now (quotaKey tenant (calendar.dayOr now day)))⟩,redis)
  addUsage redis now tenant usage day :=
    let key := quotaKey tenant (calendar.dayOr now day)
    let written := usagePipeline redis now key usage.normalized
    (⟨tenant.val,calendar.dayOr now day,countersOf (written.hgetall now key)⟩,written)
  addCacheHit redis now tenant day :=
    hitPipeline redis now (quotaKey tenant (calendar.dayOr now day))

/-! ### The ledger -/

/-- What one call left: the usage it was charged, or nothing but a cache hit. -/
structure Record where
  tenant : Tenant
  day : Text
  time : ℚ
  usage : Option TokenUsage
deriving DecidableEq

abbrev Ledger := List Record

def Ledger.own (ledger : Ledger) (tenant : Tenant) (day : Text) : List Record :=
  ledger.filter (fun record => record.tenant = tenant ∧ record.day = day)

def Ledger.counters (ledger : Ledger) (tenant : Tenant) (day : Text) : Counters :=
  let usages := (ledger.own tenant day).filterMap Record.usage
  { promptTokens := (usages.map TokenUsage.promptTokens).sum
    completionTokens := (usages.map TokenUsage.completionTokens).sum
    totalTokens := (usages.map TokenUsage.totalTokens).sum
    requests := usages.length
    cacheHits := (ledger.own tenant day).countP (fun record => record.usage.isNone) }

def ledgerStore : Store Ledger where
  getQuota ledger now tenant day :=
    (⟨tenant.val,calendar.dayOr now day,ledger.counters tenant (calendar.dayOr now day)⟩,ledger)
  addUsage ledger now tenant usage day :=
    let written := ledger ++ [⟨tenant,calendar.dayOr now day,now,some usage.normalized⟩]
    (⟨tenant.val,calendar.dayOr now day,written.counters tenant (calendar.dayOr now day)⟩,written)
  addCacheHit ledger now tenant day := ledger ++ [⟨tenant,calendar.dayOr now day,now,none⟩]

theorem Ledger.own_append (ledger : Ledger) (record : Record) (tenant : Tenant) (day : Text) :
    Ledger.own (ledger ++ [record]) tenant day =
      ledger.own tenant day ++ if record.tenant = tenant ∧ record.day = day then [record] else [] := by
  rw [Ledger.own,Ledger.own,List.filter_append]
  by_cases mine : record.tenant = tenant ∧ record.day = day <;> simp [mine]

theorem Ledger.counters_other {ledger : Ledger} {record : Record} {tenant : Tenant} {day : Text}
    (other : ¬(record.tenant = tenant ∧ record.day = day)) :
    Ledger.counters (ledger ++ [record]) tenant day = ledger.counters tenant day := by
  rw [Ledger.counters,Ledger.counters,Ledger.own_append,if_neg other,List.append_nil]

theorem Ledger.counters_usage (ledger : Ledger) (tenant : Tenant) (day : Text) (time : ℚ)
    (usage : TokenUsage) :
    Ledger.counters (ledger ++ [⟨tenant,day,time,some usage⟩]) tenant day =
      (ledger.counters tenant day).addUsage usage := by
  simp [Ledger.counters,Ledger.own_append,Counters.addUsage,List.filterMap_append]

theorem Ledger.counters_hit (ledger : Ledger) (tenant : Tenant) (day : Text) (time : ℚ) :
    Ledger.counters (ledger ++ [⟨tenant,day,time,none⟩]) tenant day =
      (ledger.counters tenant day).addCacheHit := by
  simp [Ledger.counters,Ledger.own_append,Counters.addCacheHit,List.filterMap_append]

/-- The answers of the store are those of the ledger, which it keeps on standing for. -/
structure Keeps {State : Type} (store : Store State) (holds : Ledger → ℚ → State → Prop) : Prop where
  later : ∀ {ledger state earlier now}, earlier ≤ now → holds ledger earlier state →
    holds ledger now state
  getQuota : ∀ {ledger state now}, holds ledger now state → ∀ tenant,
    (store.getQuota state now tenant none).1 =
        ((ledgerStore calendar).getQuota ledger now tenant none).1 ∧
      holds ledger now (store.getQuota state now tenant none).2
  addUsage : ∀ {ledger state now}, holds ledger now state → ∀ tenant usage,
    (store.addUsage state now tenant usage none).1 =
        ((ledgerStore calendar).addUsage ledger now tenant usage none).1 ∧
      holds ((ledgerStore calendar).addUsage ledger now tenant usage none).2 now
        (store.addUsage state now tenant usage none).2
  addCacheHit : ∀ {ledger state now}, holds ledger now state → ∀ tenant,
    holds ((ledgerStore calendar).addCacheHit ledger now tenant none) now
      (store.addCacheHit state now tenant none)

/-! ### The memory store keeps it -/

def MemoryHolds (ledger : Ledger) (_ : ℚ) (store : MemoryStore) : Prop :=
  ∀ (tenant : Tenant) day, store.getD (tenant.val,day) noCounters = ledger.counters tenant day

theorem memory_row (store : MemoryStore) (key : Text × Text) :
    (MemoryStore.row store key).1 = store.getD key noCounters ∧
      ∀ other, (MemoryStore.row store key).2.getD other noCounters = store.getD other noCounters := by
  unfold MemoryStore.row
  cases found : store.get? key with
  | some row => exact ⟨(Dict.getD_of_some found noCounters).symm,fun _ => rfl⟩
  | none =>
    refine ⟨(Dict.getD_of_none found noCounters).symm,fun other => ?_⟩
    rw [Dict.getD_set]
    split
    · rename_i same
      rw [same,Dict.getD_of_none found]
    · rfl

private theorem memory_change {ledger : Ledger} {now : ℚ} {store : MemoryStore}
    (holds : MemoryHolds ledger now store) (tenant : Tenant) (day : Text)
    (update : Counters → Counters) (usage : Option TokenUsage)
    (adds : Ledger.counters (ledger ++ [⟨tenant,day,now,usage⟩]) tenant day =
      update (ledger.counters tenant day)) :
    (MemoryStore.change store tenant day update).1 =
        ⟨tenant.val,day,Ledger.counters (ledger ++ [⟨tenant,day,now,usage⟩]) tenant day⟩ ∧
      MemoryHolds (ledger ++ [⟨tenant,day,now,usage⟩]) now
        (MemoryStore.change store tenant day update).2 := by
  obtain ⟨row,rows⟩ := memory_row store (tenant.val,day)
  have own := row.trans (holds tenant day)
  refine ⟨?_,fun other day' => ?_⟩
  · rw [adds,← own]
    rfl
  · show ((MemoryStore.row store (tenant.val,day)).2.set (tenant.val,day)
      (update (MemoryStore.row store (tenant.val,day)).1)).getD (other.val,day') noCounters = _
    rw [Dict.getD_set,rows,own]
    by_cases same : (other.val,day') = (tenant.val,day)
    · obtain ⟨sameTenant,rfl⟩ := Prod.mk.inj same
      obtain rfl := Subtype.ext sameTenant
      rw [if_pos rfl,adds]
    · rw [if_neg same,holds other day',Ledger.counters_other]
      rintro ⟨rfl,rfl⟩
      exact same rfl

theorem keeps_memory : Keeps calendar (memoryStore calendar) MemoryHolds where
  later _ holds := holds
  getQuota {ledger store now} holds tenant := by
    obtain ⟨row,rows⟩ := memory_row store (tenant.val,calendar.dayOr now none)
    refine ⟨?_,fun other day => (rows _).trans (holds other day)⟩
    show QuotaSnapshot.mk _ _ (MemoryStore.row store _).1 = ⟨_,_,_⟩
    rw [row,holds tenant]
  addUsage {ledger store now} holds tenant usage :=
    memory_change holds tenant (calendar.dayOr now none) (fun row => row.addUsage usage.normalized)
      (some usage.normalized) (Ledger.counters_usage ledger tenant _ now usage.normalized)
  addCacheHit {ledger store now} holds tenant :=
    (memory_change holds tenant (calendar.dayOr now none) Counters.addCacheHit none
      (Ledger.counters_hit ledger tenant _ now)).2

/-! ### The Redis store keeps it, for as long as the rows last -/

private theorem quotaKey_inj {first second : Tenant} {day day' : Text}
    (same : quotaKey first day = quotaKey second day') : first = second ∧ day = day' := by
  have rest := List.cons.inj (List.append_cancel_left same)
  obtain ⟨tenants,days⟩ := (split_at_first (isTenantId_plain first.property).2.1
    (isTenantId_plain second.property).2.1).mp rest.2
  exact ⟨Subtype.ext tenants,List.append_cancel_right days⟩

namespace Redis

variable {redis : Redis} {now : ℚ} {key : Text}

theorem live_set {hash : Hash} (lasts : hash.deadline.all (fun deadline => decide (now < deadline)) = true) :
    Redis.live (redis.set key hash) now key = some hash := by
  rw [live,Dict.get?_set,if_pos rfl]
  exact Option.filter_eq_some_iff.mpr ⟨rfl,lasts⟩

private theorem open_lasts : ((redis.live now key).getD ⟨∅,none⟩).deadline.all
    (fun deadline => decide (now < deadline)) = true := by
  cases found : redis.live now key with
  | none => rfl
  | some hash => exact (Option.filter_eq_some_iff.mp found).2

private theorem live_hincrby (redis : Redis) (now : ℚ) (key : Text) (field : String) (amount : Int) :
    ∃ hash, Redis.live (redis.hincrby now key field amount) now key = some hash ∧
      hash.fields = (redis.hgetall now key).set field
        ((redis.hgetall now key).getD field 0 + amount) := by
  refine ⟨_,live_set open_lasts,?_⟩
  unfold hgetall
  cases redis.live now key <;> rfl

private theorem hincrby_other (field : String) (amount : Int) {other : Text} (differ : other ≠ key) :
    Dict.get? (redis.hincrby now key field amount) other = redis.get? other := by
  rw [hincrby,Dict.get?_set,if_neg differ]

theorem get?_expire {hash : Hash} (found : redis.live now key = some hash) (seconds : ℚ) :
    Dict.get? (redis.expire now key seconds) key =
      some { hash with deadline := some (now + seconds) } := by
  rw [expire,found]
  exact (Dict.get?_set _ _ _ _).trans (if_pos rfl)

private theorem expire_other {other : Text} (differ : other ≠ key) (seconds : ℚ) :
    Dict.get? (redis.expire now key seconds) other = redis.get? other := by
  unfold expire
  split
  · rfl
  · rw [Dict.get?_set,if_neg differ]

end Redis

private theorem usagePipeline_own (redis : Redis) (now : ℚ) (key : Text) (usage : TokenUsage) :
    ∃ hash, Dict.get? (usagePipeline redis now key usage) key = some hash ∧
      hash.deadline = some (now + quotaTtlSeconds) ∧
      countersOf hash.fields = (countersOf (redis.hgetall now key)).addUsage usage := by
  have read {state : Redis} {hash : Hash} (live : state.live now key = some hash) :
      state.hgetall now key = hash.fields := by rw [Redis.hgetall,live]; rfl
  obtain ⟨one,live,prompt⟩ := Redis.live_hincrby redis now key "prompt_tokens" usage.promptTokens
  obtain ⟨two,live',completion⟩ := Redis.live_hincrby _ now key "completion_tokens"
    usage.completionTokens
  obtain ⟨three,live'',total⟩ := Redis.live_hincrby _ now key "total_tokens" usage.totalTokens
  obtain ⟨four,open',requests⟩ := Redis.live_hincrby _ now key "requests" 1
  rw [read live] at completion
  rw [read live'] at total
  rw [read live''] at requests
  refine ⟨_,Redis.get?_expire open' quotaTtlSeconds,rfl,?_⟩
  simp [countersOf,Counters.addUsage,Dict.getD_set,requests,total,completion,prompt]

private theorem hitPipeline_own (redis : Redis) (now : ℚ) (key : Text) :
    ∃ hash, Dict.get? (hitPipeline redis now key) key = some hash ∧
      hash.deadline = some (now + quotaTtlSeconds) ∧
      countersOf hash.fields = (countersOf (redis.hgetall now key)).addCacheHit := by
  obtain ⟨one,live,hits⟩ := Redis.live_hincrby redis now key "cache_hits" 1
  refine ⟨_,Redis.get?_expire live quotaTtlSeconds,rfl,?_⟩
  simp [countersOf,Counters.addCacheHit,Dict.getD_set,hits]

private theorem usagePipeline_other {redis : Redis} {now : ℚ} {key other : Text} (usage : TokenUsage)
    (differ : other ≠ key) : Dict.get? (usagePipeline redis now key usage) other = redis.get? other := by
  rw [usagePipeline,Redis.expire_other differ,Redis.hincrby_other _ _ differ,
    Redis.hincrby_other _ _ differ,Redis.hincrby_other _ _ differ,Redis.hincrby_other _ _ differ]

private theorem hitPipeline_other {redis : Redis} {now : ℚ} {key other : Text} (differ : other ≠ key) :
    Dict.get? (hitPipeline redis now key) other = redis.get? other := by
  rw [hitPipeline,Redis.expire_other differ,Redis.hincrby_other _ _ differ]

/-- The records are dated, and the row of a day is that of its records and lasts from the
latest of them. -/
structure RedisHolds (ledger : Ledger) (now : ℚ) (redis : Redis) : Prop where
  dated : ∀ record ∈ ledger, record.day = calendar.day record.time ∧ record.time ≤ now
  absent : ∀ (tenant : Tenant) day, ledger.own tenant day = [] →
    Dict.get? redis (quotaKey tenant day) = none
  kept : ∀ (tenant : Tenant) day, ledger.own tenant day ≠ [] →
    ∃ hash, Dict.get? redis (quotaKey tenant day) = some hash ∧
      countersOf hash.fields = ledger.counters tenant day ∧
      ∃ latest ∈ ledger.own tenant day, hash.deadline = some (latest.time + quotaTtlSeconds) ∧
        ∀ record ∈ ledger.own tenant day, record.time ≤ latest.time

/-- A record of the day is younger than the lifetime of a row, or there is none. -/
def Lasting (ledger : Ledger) (now : ℚ) (tenant : Tenant) (day : Text) : Prop :=
  ledger.own tenant day = [] ∨ ∃ record ∈ ledger.own tenant day, now < record.time + quotaTtlSeconds

variable {calendar}

theorem Ledger.counters_of_none {ledger : Ledger} {tenant : Tenant} {day : Text}
    (none' : ledger.own tenant day = []) : ledger.counters tenant day = noCounters := by
  rw [Ledger.counters,none']
  rfl

theorem Ledger.mem_own {ledger : Ledger} {record : Record} {tenant : Tenant} {day : Text}
    (member : record ∈ ledger.own tenant day) :
    record ∈ ledger ∧ record.tenant = tenant ∧ record.day = day := by
  obtain ⟨inside,mine⟩ := List.mem_filter.mp member
  exact ⟨inside,of_decide_eq_true mine⟩

theorem RedisHolds.today {ledger : Ledger} {now : ℚ} {redis : Redis}
    (holds : RedisHolds calendar ledger now redis) (tenant : Tenant) :
    Lasting ledger now tenant (calendar.day now) := by
  by_cases none' : ledger.own tenant (calendar.day now) = []
  · exact Or.inl none'
  · obtain ⟨record,member⟩ := List.exists_mem_of_ne_nil _ none'
    obtain ⟨inside,_,day⟩ := Ledger.mem_own member
    obtain ⟨dated,past⟩ := holds.dated record inside
    have soon := calendar.short record.time now past (dated.symm.trans day)
    exact Or.inr ⟨record,member,by linarith⟩

theorem RedisHolds.read {ledger : Ledger} {now : ℚ} {redis : Redis}
    (holds : RedisHolds calendar ledger now redis) {tenant : Tenant} {day : Text}
    (lasting : Lasting ledger now tenant day) :
    countersOf (redis.hgetall now (quotaKey tenant day)) = ledger.counters tenant day := by
  by_cases none' : ledger.own tenant day = []
  · rw [Redis.hgetall,Redis.live,holds.absent tenant day none',Ledger.counters_of_none none']
    rfl
  · obtain ⟨hash,found,counters,latest,_,deadline,last⟩ := holds.kept tenant day none'
    obtain ⟨record,member,young⟩ := lasting.resolve_left none'
    have alive : now < latest.time + quotaTtlSeconds :=
      young.trans_le (by linarith [last record member])
    have live : redis.live now (quotaKey tenant day) = some hash :=
      Option.filter_eq_some_iff.mpr ⟨found,by simpa [deadline] using alive⟩
    rw [Redis.hgetall,live,← counters]
    rfl

theorem RedisHolds.write {ledger : Ledger} {now : ℚ} {redis : Redis}
    (holds : RedisHolds calendar ledger now redis) (tenant : Tenant) (usage : Option TokenUsage)
    (written : Redis) {hash : Hash}
    (row : Dict.get? written (quotaKey tenant (calendar.day now)) = some hash)
    (deadline : hash.deadline = some (now + quotaTtlSeconds))
    (counters : countersOf hash.fields =
      Ledger.counters (ledger ++ [⟨tenant,calendar.day now,now,usage⟩]) tenant (calendar.day now))
    (others : ∀ other, other ≠ quotaKey tenant (calendar.day now) →
      Dict.get? written other = Dict.get? redis other) :
    RedisHolds calendar (ledger ++ [⟨tenant,calendar.day now,now,usage⟩]) now written := by
  have apart {other : Tenant} {day : Text} (differ : ¬(tenant = other ∧ calendar.day now = day)) :
      quotaKey other day ≠ quotaKey tenant (calendar.day now) := fun same =>
    differ ⟨(quotaKey_inj same).1.symm,(quotaKey_inj same).2.symm⟩
  refine ⟨?_,?_,?_⟩
  · intro record member
    cases List.mem_append.mp member with
    | inl old => exact holds.dated record old
    | inr new =>
      obtain rfl := List.mem_singleton.mp new
      exact ⟨rfl,le_refl _⟩
  · intro other day none'
    rw [Ledger.own_append] at none'
    by_cases mine : tenant = other ∧ calendar.day now = day
    · simp [mine] at none'
    · rw [if_neg mine,List.append_nil] at none'
      rw [others _ (apart mine),holds.absent other day none']
  · intro other day some'
    rw [Ledger.own_append] at some' ⊢
    by_cases mine : tenant = other ∧ calendar.day now = day
    · obtain ⟨rfl,rfl⟩ := mine
      refine ⟨hash,row,counters,⟨tenant,calendar.day now,now,usage⟩,by simp,deadline,?_⟩
      intro record member
      cases List.mem_append.mp member with
      | inl old => exact (holds.dated record (Ledger.mem_own old).1).2
      | inr new => simp at new; rw [new]
    · rw [if_neg mine,List.append_nil] at some' ⊢
      rw [others _ (apart mine),Ledger.counters_other mine]
      exact holds.kept other day some'

theorem keeps_redis : Keeps calendar (redisStore calendar) (RedisHolds calendar) where
  later order holds :=
    ⟨fun record member => ⟨(holds.dated record member).1,(holds.dated record member).2.trans order⟩,
      holds.absent,holds.kept⟩
  getQuota {ledger redis now} holds tenant := by
    refine ⟨?_,holds⟩
    show QuotaSnapshot.mk _ _ (countersOf _) = ⟨_,_,_⟩
    rw [show calendar.dayOr now none = calendar.day now from rfl,holds.read (holds.today tenant)]
  addUsage {ledger redis now} holds tenant usage := by
    obtain ⟨hash,row,deadline,counters⟩ := usagePipeline_own redis now
      (quotaKey tenant (calendar.day now)) usage.normalized
    rw [holds.read (holds.today tenant),
      ← Ledger.counters_usage ledger tenant (calendar.day now) now] at counters
    have kept := holds.write tenant (some usage.normalized) _ row deadline counters
      (fun _ differ => usagePipeline_other _ differ)
    have answer := kept.read (kept.today tenant)
    dsimp only [redisStore,ledgerStore,Calendar.dayOr,Option.getD_none]
    exact ⟨congrArg _ answer,kept⟩
  addCacheHit {ledger redis now} holds tenant := by
    obtain ⟨hash,row,deadline,counters⟩ := hitPipeline_own redis now
      (quotaKey tenant (calendar.day now))
    rw [holds.read (holds.today tenant),
      ← Ledger.counters_hit ledger tenant (calendar.day now) now] at counters
    exact holds.write tenant none _ row deadline counters (fun _ differ => hitPipeline_other differ)

end CustomerService.GatewayQuota
