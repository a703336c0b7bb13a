import CustomerService.CircuitBreaker
import CustomerService.GatewayStores
import CustomerService.Transition
import Mathlib.Data.Rat.Floor
import Mathlib.Tactic.NormNum
import Std.Data.String.ToNat

/-! Calls of the gateway over its store: the check of the quota at the entry, and what is
recorded at each exit. -/
namespace CustomerService.GatewayQuota
open ThreadKey Transition
open CircuitBreaker (Method)

/-! ### Usages -/

/-- The token counts of a usage dictionary, zero where one is missing. -/
structure Meta where
  inputTokens : Int
  promptTokens : Int
  outputTokens : Int
  completionTokens : Int
  totalTokens : Int

/-- `usage_metadata` and the `token_usage` of `response_metadata`, where they are not empty. -/
structure Reply where
  usageMetadata : Option Meta
  tokenUsage : Option Meta

def noUsage : TokenUsage := ⟨0,0,0⟩

def firstNonzero (first second : Int) : Int := if first ≠ 0 then first else second

def usageOf (prompt completion total : Int) : TokenUsage :=
  ⟨prompt,completion,firstNonzero total (prompt + completion)⟩

def usageFromMessage (reply : Reply) : TokenUsage :=
  match reply.usageMetadata,reply.tokenUsage with
  | some given,_ => usageOf (firstNonzero given.inputTokens given.promptTokens)
      (firstNonzero given.outputTokens given.completionTokens) given.totalTokens
  | none,some given => usageOf (firstNonzero given.promptTokens given.inputTokens)
      (firstNonzero given.completionTokens given.outputTokens) given.totalTokens
  | none,none => noUsage

/-- The counted tokens of the payload and of the result, when the reply names none. -/
def estimated (usage : TokenUsage) (prompt completion : Int) : TokenUsage :=
  if usage.totalTokens ≠ 0 then usage else ⟨prompt,completion,prompt + completion⟩

def bestUsage (chunks : List Reply) : TokenUsage :=
  chunks.foldl (fun best chunk =>
    if (usageFromMessage chunk).totalTokens ≠ 0 then usageFromMessage chunk else best) noUsage

def lastUsage (replies : List Reply) : TokenUsage := (replies.getLast?.map usageFromMessage).getD noUsage

def chargedUsage (method : Method) (replies : List Reply) (prompt completion : Int) : TokenUsage :=
  let reported :=
    match method with
    | .invoke | .ainvoke => lastUsage replies
    | .stream | .astream =>
      if (bestUsage replies).totalTokens ≠ 0 then bestUsage replies else lastUsage replies
  (estimated reported prompt completion).normalized

/-! ### Calls -/

structure Call where
  id : Nat
  method : Method
  tenant : Tenant
deriving DecidableEq

structure Gateway (State : Type) where
  store : State
  calls : List Call
  nextCall : Nat
  clock : ℚ

/-- A call enters or is refused; it ends with a cache hit, with a result, or with an error or
an abandoned stream. -/
inductive Action
  | enter (now : ℚ) (method : Method) (tenant : Tenant) (enforceQuota : Bool) (dailyTokenLimit : Int)
  | hit (now : ℚ) (call : Nat)
  | complete (now : ℚ) (call : Nat) (replies : List Reply) (prompt completion : Int)
  | abort (now : ℚ) (call : Nat)

def Action.now : Action → ℚ
  | .enter now .. | .hit now .. | .complete now .. | .abort now .. => now

variable {State : Type} (store : Store State)

/-- `_assert_quota`, false where it raises. -/
def assertQuota (state : State) (now : ℚ) (tenant : Tenant) (enforceQuota : Bool)
    (dailyTokenLimit : Int) : Bool × State :=
  if enforceQuota = false ∨ dailyTokenLimit ≤ 0 then (true,state)
  else
    let (snapshot,state) := store.getQuota state now tenant none
    (decide (snapshot.counters.totalTokens < dailyTokenLimit),state)

def Gateway.leave (gateway : Gateway State) (now : ℚ) (call : Call) (state : State) : Gateway State :=
  { gateway with
    store := state
    calls := gateway.calls.filter (fun other => other.id ≠ call.id)
    clock := now }

def Gateway.find (gateway : Gateway State) (id : Nat) : Option Call :=
  gateway.calls.find? (fun call => call.id = id)

def enterStep (gateway : Gateway State) (now : ℚ) (method : Method) (tenant : Tenant)
    (enforceQuota : Bool) (dailyTokenLimit : Int) : Gateway State :=
  let (admitted,state) := assertQuota store gateway.store now tenant enforceQuota dailyTokenLimit
  if admitted then
    ⟨state,gateway.calls ++ [⟨gateway.nextCall,method,tenant⟩],gateway.nextCall + 1,now⟩
  else { gateway with store := state, clock := now }

/-- Only `_gated` and `_agated` look into the cache. -/
def hitStep (gateway : Gateway State) (now : ℚ) (call : Call) : Gateway State :=
  match call.method with
  | .invoke | .ainvoke =>
    gateway.leave now call (store.addCacheHit gateway.store now call.tenant none)
  | .stream | .astream => gateway

def completeStep (gateway : Gateway State) (now : ℚ) (call : Call) (replies : List Reply)
    (prompt completion : Int) : Gateway State :=
  gateway.leave now call (store.addUsage gateway.store now call.tenant
    (chargedUsage call.method replies prompt completion) none).2

/-- The clock never runs backwards, and only a call in flight can end. -/
def step (gateway : Gateway State) (action : Action) : Gateway State :=
  if action.now < gateway.clock then gateway
  else
    match action with
    | .enter now method tenant enforceQuota limit =>
      enterStep store gateway now method tenant enforceQuota limit
    | .hit now id =>
      match gateway.find id with
      | none => gateway
      | some call => hitStep store gateway now call
    | .complete now id replies prompt completion =>
      match gateway.find id with
      | none => gateway
      | some call => completeStep store gateway now call replies prompt completion
    | .abort now id =>
      match gateway.find id with
      | none => gateway
      | some call => gateway.leave now call gateway.store

def start (state : State) : Gateway State := ⟨state,[],0,0⟩

/-! ### A store that keeps the ledger does as the ledger -/

def Gateway.onLedger (gateway : Gateway State) (ledger : Ledger) : Gateway Ledger :=
  { gateway with store := ledger }

/-- The gateway goes on as it does over the ledger, and its store stands for the ledger. -/
structure Refines (holds : Ledger → ℚ → State → Prop) (book : Gateway Ledger)
    (gateway : Gateway State) : Prop where
  same : book = gateway.onLedger book.store
  holds : holds book.store gateway.clock gateway.store

variable {store} {calendar : Calendar} {holds : Ledger → ℚ → State → Prop}

private theorem assertQuota_refines (keeps : Keeps calendar store holds) {ledger : Ledger} {now : ℚ}
    {state : State} (held : holds ledger now state) (tenant : Tenant) (enforceQuota : Bool)
    (limit : Int) :
    (assertQuota store state now tenant enforceQuota limit).1 =
        (assertQuota (ledgerStore calendar) ledger now tenant enforceQuota limit).1 ∧
      (assertQuota (ledgerStore calendar) ledger now tenant enforceQuota limit).2 = ledger ∧
      holds ledger now (assertQuota store state now tenant enforceQuota limit).2 := by
  unfold assertQuota
  by_cases open' : enforceQuota = false ∨ limit ≤ 0
  · simp only [if_pos open']
    exact ⟨trivial,trivial,held⟩
  · simp only [if_neg open']
    obtain ⟨answer,kept⟩ := keeps.getQuota held tenant
    exact ⟨by rw [answer],rfl,kept⟩

private theorem enter_refines (keeps : Keeps calendar store holds) {book : Gateway Ledger}
    {gateway : Gateway State} (refines : Refines holds book gateway) {now : ℚ}
    (order : gateway.clock ≤ now) (method : Method) (tenant : Tenant) (enforceQuota : Bool)
    (limit : Int) :
    Refines holds (enterStep (ledgerStore calendar) book now method tenant enforceQuota limit)
      (enterStep store gateway now method tenant enforceQuota limit) := by
  obtain ⟨same,held⟩ := refines
  obtain ⟨answer,unchanged,kept⟩ := assertQuota_refines keeps (keeps.later order held) tenant
    enforceQuota limit
  rw [same]
  unfold enterStep Gateway.onLedger
  simp only [← answer]
  cases (assertQuota store gateway.store now tenant enforceQuota limit).1 with
  | true => exact ⟨by simp [unchanged,Gateway.onLedger],by simpa [unchanged] using kept⟩
  | false => exact ⟨by simp [unchanged,Gateway.onLedger],by simpa [unchanged] using kept⟩

private theorem leave_refines {book : Gateway Ledger} {gateway : Gateway State}
    (same : book = gateway.onLedger book.store) (now : ℚ) (call : Call) {ledger : Ledger} {state : State}
    (held : holds ledger now state) : Refines holds (book.leave now call ledger) (gateway.leave now call state) := by
  refine ⟨?_,held⟩
  rw [same]
  rfl

private theorem step_refines (keeps : Keeps calendar store holds) {book : Gateway Ledger}
    {gateway : Gateway State} (refines : Refines holds book gateway) (action : Action) :
    Refines holds (step (ledgerStore calendar) book action) (step store gateway action) := by
  have clock : book.clock = gateway.clock := by rw [refines.same]; rfl
  have find (id : Nat) : book.find id = gateway.find id := by rw [refines.same]; rfl
  unfold step
  rw [clock]
  split
  · exact refines
  rename_i past
  have order : gateway.clock ≤ action.now := not_lt.mp past
  have held := keeps.later order refines.holds
  cases action with
  | enter now method tenant enforceQuota limit =>
    exact enter_refines keeps refines order method tenant enforceQuota limit
  | hit now id =>
    simp only [find]
    cases gateway.find id with
    | none => exact refines
    | some call =>
      show Refines holds (hitStep _ book now call) (hitStep store gateway now call)
      unfold hitStep
      cases call.method with
      | invoke | ainvoke => exact leave_refines refines.same now call (keeps.addCacheHit held call.tenant)
      | stream | astream => exact refines
  | complete now id replies prompt completion =>
    simp only [find]
    cases gateway.find id with
    | none => exact refines
    | some call => exact leave_refines refines.same now call (keeps.addUsage held call.tenant _).2
  | abort now id =>
    simp only [find]
    cases gateway.find id with
    | none => exact refines
    | some call => exact leave_refines refines.same now call held

private theorem run_refines (keeps : Keeps calendar store holds) {book : Gateway Ledger}
    {gateway : Gateway State} (refines : Refines holds book gateway) (actions : List Action) :
    Refines holds (run (step (ledgerStore calendar)) book actions) (run (step store) gateway actions) := by
  induction actions generalizing book gateway with
  | nil => exact refines
  | cons action rest ih => exact ih (step_refines keeps refines action)

/-! ### The accounts -/

private theorem refines_memory (actions : List Action) :
    Refines MemoryHolds (run (step (ledgerStore calendar)) (start []) actions)
      (run (step (memoryStore calendar)) (start ∅) actions) :=
  run_refines (keeps_memory calendar) ⟨rfl,fun _ _ => rfl⟩ actions

private theorem refines_redis (actions : List Action) :
    Refines (RedisHolds calendar) (run (step (ledgerStore calendar)) (start []) actions)
      (run (step (redisStore calendar)) (start ∅) actions) := by
  refine run_refines keeps_redis ⟨rfl,?_,fun _ _ _ => rfl,fun _ _ some' => absurd rfl some'⟩ actions
  intro record member
  cases member

private theorem assertQuota_iff (keeps : Keeps calendar store holds) {ledger : Ledger} {now : ℚ}
    {state : State} (held : holds ledger now state) (tenant : Tenant) {limit : Int}
    (positive : 0 < limit) :
    (assertQuota store state now tenant true limit).1 = true ↔
      (ledger.counters tenant (calendar.day now)).totalTokens < limit := by
  rw [(assertQuota_refines keeps held tenant true limit).1,assertQuota,
    if_neg (by simpa using positive)]
  exact decide_eq_true_iff

/-- In every run each store admits the calls that the ledger admits, and reads back its sums:
the memory store of every day, Redis of every day whose row lasts, today's among them. -/
theorem quota_accounting (calendar : Calendar) (actions : List Action) :
    let book := run (step (ledgerStore calendar)) (start []) actions
    let memory := run (step (memoryStore calendar)) (start ∅) actions
    let redis := run (step (redisStore calendar)) (start ∅) actions
    memory.calls = book.calls ∧ redis.calls = book.calls ∧
    ∀ now, book.clock ≤ now → ∀ tenant,
      (∀ day, ((memoryStore calendar).getQuota memory.store now tenant (some day)).1.counters =
        book.store.counters tenant day) ∧
      (∀ day, Lasting book.store now tenant day →
        ((redisStore calendar).getQuota redis.store now tenant (some day)).1.counters =
          book.store.counters tenant day) ∧
      Lasting book.store now tenant (calendar.day now) ∧
      ∀ limit, 0 < limit →
        ((assertQuota (memoryStore calendar) memory.store now tenant true limit).1 = true ↔
          (book.store.counters tenant (calendar.day now)).totalTokens < limit) ∧
        ((assertQuota (redisStore calendar) redis.store now tenant true limit).1 = true ↔
          (book.store.counters tenant (calendar.day now)).totalTokens < limit) := by
  intro book memory redis
  have one : Refines MemoryHolds book memory := refines_memory actions
  have two : Refines (RedisHolds calendar) book redis := refines_redis actions
  have calls : memory.calls = book.calls := by rw [one.same]; rfl
  have calls' : redis.calls = book.calls := by rw [two.same]; rfl
  have clock : redis.clock = book.clock := by rw [two.same]; rfl
  refine ⟨calls,calls',fun now order tenant => ?_⟩
  have held : RedisHolds calendar book.store now redis.store :=
    keeps_redis.later (clock.trans_le order) two.holds
  have rows : MemoryHolds book.store now memory.store := one.holds
  refine ⟨fun day => ?_,fun day lasting => held.read lasting,held.today tenant,fun limit positive =>
    ⟨assertQuota_iff (keeps_memory calendar) rows tenant positive,
      assertQuota_iff keeps_redis held tenant positive⟩⟩
  exact (memory_row memory.store (tenant.val,day)).1.trans (one.holds tenant day)

def daily : Calendar where
  day now := (if 0 ≤ ⌊now / 86400⌋ then '+' else '-') :: Nat.toDigits 10 ⌊now / 86400⌋.natAbs
  short := by
    intro earlier later order same
    obtain ⟨signs,digits⟩ := List.cons.inj same
    have sizes : ⌊earlier / 86400⌋.natAbs = ⌊later / 86400⌋.natAbs :=
      Nat.repr_injective (by rw [Nat.repr,Nat.repr,digits])
    have floors : ⌊earlier / 86400⌋ = ⌊later / 86400⌋ := by
      by_cases first : 0 ≤ ⌊earlier / 86400⌋ <;> by_cases second : 0 ≤ ⌊later / 86400⌋ <;>
        simp [first,second] at signs <;> omega
    have below : later / 86400 < ⌊earlier / 86400⌋ + 1 := floors ▸ Int.lt_floor_add_one _
    have above := Int.floor_le (earlier / 86400)
    unfold quotaTtlSeconds
    linarith

private theorem demo_named : isTenantId "demo".toList = true := by decide

def demo : Tenant := ⟨"demo".toList,demo_named⟩

def oneCall : List Action :=
  [.enter 1 .ainvoke demo true 10,.complete 2 0 [⟨none,none⟩] 2 3]

theorem quota_accounting_one_call :
    ((redisStore daily).getQuota (run (step (redisStore daily)) (start ∅) oneCall).store 3 demo
        (some (daily.day 3))).1.counters = ⟨2,3,5,1,0⟩ ∧
      (assertQuota (redisStore daily) (run (step (redisStore daily)) (start ∅) oneCall).store 3 demo
        true 5).1 = false := by
  obtain ⟨_,_,sums⟩ := quota_accounting daily oneCall
  obtain ⟨_,redis,today,admits⟩ := sums 3 (by decide +kernel) demo
  constructor
  · exact (redis (daily.day 3) today).trans (by decide +kernel)
  · have refused := (admits 5 (by decide)).2
    exact Bool.eq_false_iff.mpr (fun admitted => absurd (refused.mp admitted) (by decide +kernel))

/-- Three days later the memory store has the counters of the first day, Redis has not. -/
theorem redis_row_expires :
    ((memoryStore daily).getQuota (run (step (memoryStore daily)) (start ∅) oneCall).store 259200
        demo (some (daily.day 3))).1.counters = ⟨2,3,5,1,0⟩ ∧
      ((redisStore daily).getQuota (run (step (redisStore daily)) (start ∅) oneCall).store 259200
        demo (some (daily.day 3))).1.counters = noCounters := by
  decide +kernel

end CustomerService.GatewayQuota
