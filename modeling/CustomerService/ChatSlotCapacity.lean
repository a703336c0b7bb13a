import CustomerService.ChatSlotLockstep

/-! The slots that the workers of a cluster occupy under fixed settings. The bounds
are bounds on the book; a store that follows the book has its unexpired leases. -/
namespace CustomerService.ChatSlots
open Lease (running unexpired Records)

structure Settings where
  chatConcurrency : Int
  chatTenantConcurrency : Int
  chatSlotTtlSeconds : Int
  deriving DecidableEq

namespace Settings

variable (settings : Settings)

def globalLimit : Int :=
  max 1 (if settings.chatConcurrency = 0 then 8 else settings.chatConcurrency)

def tenantLimit : Int :=
  let asked := if settings.chatTenantConcurrency ≤ 0 then settings.globalLimit
    else settings.chatTenantConcurrency
  max 1 (min asked settings.globalLimit)

def ttl : Int := max 1 (if settings.chatSlotTtlSeconds = 0 then 180 else settings.chatSlotTtlSeconds)

/-- `_slot_limits`: the global limit, the limit of each tenant, the time to live. -/
def slotLimits : Int × Int × Int := (settings.globalLimit,settings.tenantLimit,settings.ttl)

def occupyArgs (tenantId token : String) : AcquireArgs where
  tenantId := tenantId
  globalLimit := settings.slotLimits.1
  tenantLimit := settings.slotLimits.2.1
  ttlSeconds := settings.slotLimits.2.2
  token := token

end Settings

inductive WorkerCall
  | occupy (tenantId token : String)
  | vacate (tenantId token : String)
  | inFlightCount
  deriving DecidableEq

/-- The store call that `_occupy`, `_vacate` or `in_flight_count` makes, if any. -/
def WorkerCall.issue (settings : Settings) : WorkerCall → Option Call
  | .occupy tenantId token => some (.acquire (settings.occupyArgs tenantId token))
  | .vacate tenantId token => if token = "" then none else some (.release tenantId token)
  | .inFlightCount => some .inFlight

structure Request where
  now : ℚ
  call : WorkerCall
  deriving DecidableEq

def Request.event? (settings : Settings) (request : Request) : Option Event :=
  (request.call.issue settings).map (Event.mk request.now)

def Settings.events (settings : Settings) (requests : List Request) : List Event :=
  requests.filterMap (Request.event? settings)

namespace SlotBook

variable {book : SlotBook} {now : ℚ}

private theorem expireAt_gt (args : AcquireArgs) (now : ℚ) : now < args.expireAt now := by
  have positive : (1 : ℚ) ≤ ((max 1 args.ttlSeconds : Int) : ℚ) := by
    exact_mod_cast le_max_left 1 args.ttlSeconds
  rw [AcquireArgs.expireAt]
  linarith

private theorem inUse_grant {token : String} (fresh : book.get? token = none) (lease : Lease String ℚ)
    {moment : ℚ} (order : now ≤ moment) :
    SlotBook.inUse (book.set token lease) moment ≤ book.inUse now + 1 := by
  have fewer := Lease.size_running_later (fun _ => True) order book
  have counted := Lease.size_running_set (fun _ => True) moment book fresh lease
  rw [inUse,inUse]
  split at counted <;> omega

private theorem inUseBy_grant {token : String} (fresh : book.get? token = none) (tenantId : String)
    (expiry : ℚ) {moment : ℚ} (order : now ≤ moment) :
    SlotBook.inUseBy (book.set token ⟨tenantId,expiry⟩) tenantId moment ≤
      book.inUseBy tenantId now + 1 := by
  have fewer := Lease.size_running_later (· = tenantId) order book
  have counted := Lease.size_running_set (· = tenantId) moment book fresh ⟨tenantId,expiry⟩
  rw [inUseBy,inUseBy]
  split at counted <;> omega

private theorem inUseBy_grant_other {token : String} (fresh : book.get? token = none)
    {tenantId other : String} (apart : other ≠ tenantId) (expiry moment : ℚ) :
    SlotBook.inUseBy (book.set token ⟨tenantId,expiry⟩) other moment =
      book.inUseBy other moment := by
  have counted := Lease.size_running_set (· = other) moment book fresh ⟨tenantId,expiry⟩
  rw [if_neg (fun both => apart both.2.symm)] at counted
  exact counted

/-- At no moment from now on are there more leases than the limits allow. -/
structure Within (globalLimit tenantLimit : Int) (past : List Event) (book : SlotBook) : Prop where
  granted : Granted past book
  global : ∀ moment, (∀ event ∈ past, event.now ≤ moment) → (book.inUse moment : Int) ≤ globalLimit
  tenant : ∀ moment, (∀ event ∈ past, event.now ≤ moment) → ∀ tenantId,
    (book.inUseBy tenantId moment : Int) ≤ tenantLimit

def Limited (globalLimit tenantLimit : Int) (events : List Event) : Prop :=
  ∀ event ∈ events, ∀ args, event.call = .acquire args →
    args.globalLimit = globalLimit ∧ args.tenantLimit = tenantLimit

variable {globalLimit tenantLimit : Int}

theorem Within.step {past : List Event} (within : Within globalLimit tenantLimit past book)
    (event : Event) (whole : WellFormed (past ++ [event]))
    (limited : Limited globalLimit tenantLimit (past ++ [event])) :
    Within globalLimit tenantLimit (past ++ [event]) (slotBook.machine.step book event).2 := by
  have granted := within.granted.step event
  have earlier (moment : ℚ) (after : ∀ other ∈ past ++ [event], other.now ≤ moment) :
      ∀ other ∈ past, other.now ≤ moment := fun other before =>
    after other (List.mem_append_left _ before)
  have here : event ∈ past ++ [event] := List.mem_append_right _ (List.mem_singleton_self _)
  have kept : Within globalLimit tenantLimit (past ++ [event]) book :=
    ⟨within.granted.more event,fun moment after => within.global moment (earlier moment after),
      fun moment after => within.tenant moment (earlier moment after)⟩
  obtain ⟨now,call⟩ := event
  cases call with
  | acquire args =>
    obtain ⟨rfl,rfl⟩ := limited _ here args rfl
    have fresh := within.granted.fresh whole
    simp only [ChatSlotStore.machine,slotBook,SlotBook.acquire] at granted ⊢
    split at granted
    · rename_i full
      rw [if_pos full]
      exact kept
    rename_i room
    rw [if_neg room]
    split at granted
    · rename_i full
      rw [if_pos full]
      exact kept
    rename_i tenantRoom
    rw [if_neg tenantRoom]
    refine ⟨granted,fun moment after => ?_,fun moment after tenantId => ?_⟩
    · have more := inUse_grant fresh ⟨args.tenantId,args.expireAt now⟩ (after _ here)
      exact (Int.ofNat_le.mpr more).trans (not_le.mp room)
    · by_cases own : tenantId = args.tenantId
      · subst own
        have more := inUseBy_grant fresh args.tenantId (args.expireAt now) (after _ here)
        exact (Int.ofNat_le.mpr more).trans (not_le.mp tenantRoom)
      · rw [inUseBy_grant_other fresh own]
        exact kept.tenant moment after tenantId
  | release tenantId token =>
    refine ⟨granted,fun moment after => ?_,fun moment after other => ?_⟩
    · have fewer := Lease.size_running_erase (fun _ => True) moment book token
      have before := kept.global moment after
      simp only [inUse] at before
      exact (Int.ofNat_le.mpr fewer).trans before
    · have fewer := Lease.size_running_erase (· = other) moment book token
      have before := kept.tenant moment after other
      simp only [inUseBy] at before
      exact (Int.ofNat_le.mpr fewer).trans before
  | inFlight => exact kept

structure Planned (globalLimit tenantLimit : Int) (events : List Event) : Prop where
  whole : WellFormed events
  limited : Limited globalLimit tenantLimit events

theorem Planned.closed (past : List Event) (event : Event)
    (planned : Planned globalLimit tenantLimit (past ++ [event])) :
    Planned globalLimit tenantLimit past :=
  ⟨planned.whole.closed past event,fun other before =>
    planned.limited other (List.mem_append_left _ before)⟩

theorem Planned.within (globalNonneg : 0 ≤ globalLimit) (tenantNonneg : 0 ≤ tenantLimit)
    {events : List Event} (planned : Planned globalLimit tenantLimit events) :
    Within globalLimit tenantLimit events (slotBook.machine.after events) := by
  refine slotBook.machine.invariant Planned.closed ?_ ?_ planned
  · refine ⟨?_,fun _ _ => globalNonneg,fun _ _ _ => tenantNonneg⟩
    intro token lease found
    cases found
  · exact fun past event book next within => within.step event next.whole next.limited

end SlotBook

/-! What a store shows at a moment: its tokens that have not expired. -/
namespace SlotSets

variable {Store : Type} (sets : SlotSets Store)

def live (moment : ℚ) (store : Store) : Expiries := unexpired moment (sets.global store)

def liveOf (moment : ℚ) (tenantId : String) (store : Store) : Expiries :=
  unexpired moment (sets.tenant store tenantId)

/-- No lease that runs on after the moment has changed, in either kind of set. -/
def Unchanged (moment : ℚ) (before after : Store) : Prop :=
  ∀ token, (sets.live moment after).get? token = (sets.live moment before).get? token ∧
    ∀ tenantId, (sets.liveOf moment tenantId after).get? token =
      (sets.liveOf moment tenantId before).get? token

/-- The token has no lease any more, every other token has the one it had. -/
def Freed (moment : ℚ) (token : String) (before after : Store) : Prop :=
  ∀ other, (sets.live moment after).get? other =
      (if other = token then none else (sets.live moment before).get? other) ∧
    ∀ tenantId, (sets.liveOf moment tenantId after).get? other =
      if other = token then none else (sets.liveOf moment tenantId before).get? other

/-- The token has a lease of the tenant, every other token has the one it had. -/
def Taken (moment : ℚ) (owner token : String) (expiry : ℚ) (before after : Store) : Prop :=
  ∀ other, (sets.live moment after).get? other =
      (if other = token then some expiry else (sets.live moment before).get? other) ∧
    ∀ tenantId, (sets.liveOf moment tenantId after).get? other =
      if other = token then (if tenantId = owner then some expiry else none)
      else (sets.liveOf moment tenantId before).get? other

variable {sets} {moment : ℚ} {book next : SlotBook} {before after : Store}

private theorem unchanged_of_tracks (first : Tracks sets moment book before)
    (second : Tracks sets moment book after) : sets.Unchanged moment before after :=
  fun token => ⟨(second.global token).trans (first.global token).symm,
    fun tenantId => (second.tenant tenantId token).trans (first.tenant tenantId token).symm⟩

private theorem freed_of_tracks {token : String} (first : Tracks sets moment book before)
    (second : Tracks sets moment (book.erase token) after) :
    sets.Freed moment token before after := by
  intro other
  refine ⟨?_,fun tenantId => ?_⟩
  · rw [live,live,second.global,first.global,Lease.get?_running_erase]
  · rw [liveOf,liveOf,second.tenant,first.tenant,Lease.get?_running_erase]

private theorem taken_of_tracks {owner token : String} {expiry : ℚ} (ahead : moment < expiry)
    (first : Tracks sets moment book before)
    (second : Tracks sets moment (book.set token ⟨owner,expiry⟩) after) :
    sets.Taken moment owner token expiry before after := by
  intro other
  refine ⟨?_,fun tenantId => ?_⟩
  · rw [live,live,second.global,first.global,Lease.get?_running_set]
    simp [ahead]
  · rw [liveOf,liveOf,second.tenant,first.tenant,Lease.get?_running_set]
    simp [ahead,eq_comm]

end SlotSets

variable {Store : Type}

/-- What a call at `now` does to the leases that run on after it. -/
def NextCall (slots : ChatSlotStore Store) (sets : SlotSets Store) (settings : Settings)
    (store : Store) (now : ℚ) : WorkerCall → Prop
  | .occupy tenantId token =>
    let args := settings.occupyArgs tenantId token
    let answer := slots.acquire store args now
    ((sets.live now store).size < settings.globalLimit →
      (sets.liveOf now tenantId store).size < settings.tenantLimit → answer.1 = .ok token) ∧
    (∀ granted, answer.1 = .ok granted →
      granted = token ∧ sets.Taken now tenantId token (args.expireAt now) store answer.2) ∧
    ∀ reason, answer.1 = .error reason → sets.Unchanged now store answer.2
  | .vacate tenantId token =>
    token ≠ "" → sets.Freed now token store (slots.release store tenantId token)
  | .inFlightCount =>
    (slots.inFlight store now).1 = (sets.live now store).size ∧
      sets.Unchanged now store (slots.inFlight store now).2

/-- The guarantee of a slot store after the requests of the workers, at every moment
from then on and for every call that may come next. -/
structure Capacity (slots : ChatSlotStore Store) (sets : SlotSets Store) (settings : Settings)
    (requests : List Request) (store : Store) : Prop where
  global : ∀ moment, (∀ request ∈ requests, request.now ≤ moment) →
    (sets.live moment store).size ≤ settings.globalLimit
  tenant : ∀ moment, (∀ request ∈ requests, request.now ≤ moment) → ∀ tenantId,
    (sets.liveOf moment tenantId store).size ≤ settings.tenantLimit
  inStep : ∀ moment, (∀ request ∈ requests, request.now ≤ moment) → ∀ token expiry,
    (sets.live moment store).get? token = some expiry ↔
      ∃! tenantId, (sets.liveOf moment tenantId store).get? token = some expiry
  expiry : ∀ moment later, moment ≤ later → ∀ token,
    (sets.live later store).get? token =
        ((sets.live moment store).get? token).filter (fun expiry => decide (later < expiry)) ∧
      ∀ tenantId, (sets.liveOf later tenantId store).get? token =
        ((sets.liveOf moment tenantId store).get? token).filter
          (fun expiry => decide (later < expiry))
  next : ∀ request, WellFormed (settings.events (requests ++ [request])) →
    NextCall slots sets settings store request.now request.call

theorem Settings.limited (settings : Settings) (requests : List Request) :
    SlotBook.Limited settings.globalLimit settings.tenantLimit (settings.events requests) := by
  intro event listed args asked
  obtain ⟨request,_,issued⟩ := List.mem_filterMap.mp listed
  obtain ⟨call,made,rfl⟩ := Option.map_eq_some_iff.mp issued
  cases asked
  cases worker : request.call with
  | occupy tenantId token =>
    rw [worker] at made
    cases made
    exact ⟨rfl,rfl⟩
  | vacate tenantId token =>
    rw [worker,WorkerCall.issue] at made
    split at made <;> cases made
  | inFlightCount =>
    rw [worker] at made
    cases made

theorem Settings.events_snoc (settings : Settings) (requests : List Request) {request : Request}
    {call : Call} (issued : request.call.issue settings = some call) :
    settings.events (requests ++ [request]) = settings.events requests ++ [⟨request.now,call⟩] := by
  simp [Settings.events,Request.event?,issued]

theorem Settings.events_now (settings : Settings) {requests : List Request} {moment : ℚ}
    (past : ∀ request ∈ requests, request.now ≤ moment) :
    ∀ event ∈ settings.events requests, event.now ≤ moment := by
  intro event listed
  obtain ⟨request,made,issued⟩ := List.mem_filterMap.mp listed
  obtain ⟨call,_,rfl⟩ := Option.map_eq_some_iff.mp issued
  exact past request made

section Following

variable {slots : ChatSlotStore Store} {sets : SlotSets Store} {tidy : SlotBook → Store → Prop}

theorem Follows.nextCall (follows : Follows slots sets tidy) (settings : Settings)
    {past : List Event} {store : Store} {book : SlotBook} {now : ℚ} {worker : WorkerCall}
    (related : Related sets tidy past store book)
    (whole : ∀ call, worker.issue settings = some call → WellFormed (past ++ [⟨now,call⟩])) :
    NextCall slots sets settings store now worker := by
  cases worker with
  | occupy tenantId token =>
    have allowed := whole _ rfl
    have before := related.tracks now allowed.now_le
    obtain ⟨same,after,_⟩ :=
      follows.acquire (settings.occupyArgs tenantId token) before related.tidy
        (related.granted.fresh allowed)
    have global : (sets.live now store).size = book.inUse now := before.global.size
    have tenant : (sets.liveOf now tenantId store).size = book.inUseBy tenantId now :=
      (before.tenant tenantId).size
    simp only [NextCall,same,global,tenant]
    simp only [SlotBook.acquire] at after ⊢
    split at after
    · rename_i full
      simp only [full,if_true]
      refine ⟨fun room => absurd full (not_le.mpr room),?_,?_⟩
      · intro granted drawn
        cases drawn
      · exact fun _ _ => SlotSets.unchanged_of_tracks before after
    rename_i room
    simp only [room,if_false]
    split at after
    · rename_i full
      simp only [full,if_true]
      refine ⟨fun _ room => absurd full (not_le.mpr room),?_,?_⟩
      · intro granted drawn
        cases drawn
      · exact fun _ _ => SlotSets.unchanged_of_tracks before after
    · rename_i tenantRoom
      simp only [tenantRoom,if_false]
      refine ⟨fun _ _ => rfl,?_,?_⟩
      · intro granted drawn
        cases drawn
        exact ⟨rfl,SlotSets.taken_of_tracks (SlotBook.expireAt_gt _ now) before after⟩
      · intro reason refused
        cases refused
  | vacate tenantId token =>
    intro drawn
    have allowed := whole (.release tenantId token) (if_neg drawn)
    have before := related.tracks now allowed.now_le
    exact SlotSets.freed_of_tracks before (follows.release tenantId token before related.tidy
      (fun _ found => related.granted.tenant allowed found)).1
  | inFlightCount =>
    have before := related.tracks now (whole _ rfl).now_le
    obtain ⟨same,after,_⟩ := follows.inFlight before related.tidy
    exact ⟨same.trans before.global.size.symm,SlotSets.unchanged_of_tracks before after⟩

theorem Follows.capacity (follows : Follows slots sets tidy) (settings : Settings)
    {requests : List Request} (whole : WellFormed (settings.events requests)) :
    Capacity slots sets settings requests (slots.machine.after (settings.events requests)) := by
  have related := (follows.run whole).2
  have positive : 0 ≤ settings.globalLimit ∧ 0 ≤ settings.tenantLimit :=
    ⟨zero_le_one.trans (le_max_left 1 _),zero_le_one.trans (le_max_left 1 _)⟩
  have planned : SlotBook.Planned settings.globalLimit settings.tenantLimit
      (settings.events requests) := ⟨whole,settings.limited requests⟩
  have within := planned.within positive.1 positive.2
  constructor
  · intro moment past
    have tracks := related.tracks moment (settings.events_now past)
    exact (Int.ofNat_le.mpr tracks.global.size.le).trans
      (within.global moment (settings.events_now past))
  · intro moment past tenantId
    have tracks := related.tracks moment (settings.events_now past)
    exact (Int.ofNat_le.mpr (tracks.tenant tenantId).size.le).trans
      (within.tenant moment (settings.events_now past) tenantId)
  · intro moment past token expiry
    have tracks := related.tracks moment (settings.events_now past)
    have owned (tenantId : String) := (tracks.tenant tenantId).iff_running token expiry
    rw [SlotSets.live,tracks.global.iff_running]
    simp only [SlotSets.liveOf,owned]
    constructor
    · rintro ⟨holder,found,ahead,_⟩
      refine ⟨holder,⟨holder,found,ahead,rfl⟩,?_⟩
      rintro other ⟨_,again,_,rfl⟩
      rw [found] at again
      cases again
      rfl
    · rintro ⟨tenantId,⟨holder,found,ahead,_⟩,_⟩
      exact ⟨holder,found,ahead,trivial⟩
  · intro moment later order token
    exact ⟨Lease.get?_unexpired_later order _ token,
      fun _ => Lease.get?_unexpired_later order _ token⟩
  · intro request more
    refine follows.nextCall settings related (fun call issued => ?_)
    rw [settings.events_snoc requests issued] at more
    exact more

end Following

/-- Whatever the workers do, neither store lets a limit be passed or a slot be lost. -/
theorem slots_conserved (settings : Settings) (requests : List Request)
    (whole : WellFormed (settings.events requests)) :
    Capacity memoryChatSlotStore MemoryChatSlotStore.sets settings requests
        (memoryChatSlotStore.machine.after (settings.events requests)) ∧
      Capacity redisChatSlotStore RedisChatSlotStore.sets settings requests
        (redisChatSlotStore.machine.after (settings.events requests)) :=
  ⟨memory_follows.capacity settings whole,redis_follows.capacity settings whole⟩

/-- The tenant that leaves at 7 had its lease until 5 only. -/
def lateLeave : List Request := [⟨0,.occupy "acme" "a"⟩,⟨6,.occupy "beta" "b"⟩,
  ⟨7,.vacate "acme" "a"⟩,⟨7,.inFlightCount⟩]

theorem slots_conserved_lateLeave :
    WellFormed (Settings.events ⟨2,0,5⟩ lateLeave) ∧
    Capacity memoryChatSlotStore MemoryChatSlotStore.sets ⟨2,0,5⟩ lateLeave
        (memoryChatSlotStore.machine.after (Settings.events ⟨2,0,5⟩ lateLeave)) ∧
      Capacity redisChatSlotStore RedisChatSlotStore.sets ⟨2,0,5⟩ lateLeave
        (redisChatSlotStore.machine.after (Settings.events ⟨2,0,5⟩ lateLeave)) :=
  ⟨by decide,slots_conserved _ _ (by decide)⟩

end CustomerService.ChatSlots
