import CustomerService.ChatSlotBook

/-! Both stores follow the book, so they answer alike. The memory store may purge its
tenants by what is stale among all tokens because each tenant's token is among them. -/
namespace CustomerService.ChatSlots
open Lease (running unexpired Records)

namespace MemoryChatSlotStore

def sets : SlotSets MemoryChatSlotStore := ⟨global,held⟩

variable (store : MemoryChatSlotStore) (now : ℚ) (tenantId token : String)

private theorem held_pop : (store.pop token).held tenantId = (store.held tenantId).erase token := by
  simp only [held,pop,Dict.getD,Dict.get?_filterMap]
  cases store.tenants.get? tenantId with
  | none => rfl
  | some found => rfl

theorem global_pops (tokens : List String) :
    (tokens.foldl pop store).global.get? token =
      if token ∈ tokens then none else store.global.get? token := by
  induction tokens generalizing store with
  | nil => simp
  | cons first rest ih =>
    rw [List.foldl_cons,ih,pop,Dict.get?_erase]
    by_cases here : token = first <;> simp [here]

theorem held_pops (tokens : List String) :
    ((tokens.foldl pop store).held tenantId).get? token =
      if token ∈ tokens then none else (store.held tenantId).get? token := by
  induction tokens generalizing store with
  | nil => simp
  | cons first rest ih =>
    rw [List.foldl_cons,ih,held_pop,Dict.get?_erase]
    by_cases here : token = first <;> simp [here]

private theorem mem_stale :
    token ∈ store.stale now ↔ ∃ exp, store.global.get? token = some exp ∧ exp ≤ now := by
  rw [stale,← Dict.get?_isSome,Dict.get?_filter,Option.isSome_iff_exists]
  simp [Option.filter_eq_some_iff]

private theorem global_purge :
    (store.purge now).global.get? token = (unexpired now store.global).get? token := by
  rw [purge,global_pops,Lease.get?_unexpired]
  simp only [mem_stale]
  cases found : store.global.get? token with
  | none => simp
  | some exp =>
    simp [Option.filter_some,← not_le,ite_not]

/-- Each tenant's token is among all tokens, and in the book under that tenant. -/
def Tidy (book : SlotBook) (store : MemoryChatSlotStore) : Prop :=
  ∀ tenantId token exp, (store.held tenantId).get? token = some exp →
    store.global.get? token = some exp ∧ book.get? token = some ⟨tenantId,exp⟩

variable {book : SlotBook} {store : MemoryChatSlotStore} {now : ℚ}

theorem Tidy.held_purge (tidy : Tidy book store) (tenantId token : String) :
    ((store.purge now).held tenantId).get? token =
      (unexpired now (store.held tenantId)).get? token := by
  rw [purge,held_pops,Lease.get?_unexpired]
  cases found : (store.held tenantId).get? token with
  | none => simp
  | some exp =>
    have among := (tidy tenantId token exp found).1
    simp [mem_stale,among,Option.filter_some,← not_le,ite_not]

theorem Tidy.purge (tidy : Tidy book store) : Tidy book (store.purge now) := by
  intro tenantId token exp found
  rw [tidy.held_purge,Lease.get?_unexpired,Option.filter_eq_some_iff] at found
  have before := tidy tenantId token exp found.1
  refine ⟨?_,before.2⟩
  rw [global_purge,Lease.get?_unexpired,before.1,Option.filter_eq_some_iff]
  exact ⟨rfl,found.2⟩

private theorem tracks_purge (tracks : Tracks sets now book store) (tidy : Tidy book store) :
    Tracks sets now book (store.purge now) :=
  ⟨tracks.global.purge.congr (store.global_purge now),
    fun tenantId => (tracks.tenant tenantId).purge.congr (tidy.held_purge tenantId)⟩

private theorem size_global_purge (tracks : Tracks sets now book store) :
    (store.purge now).global.size = book.inUse now :=
  (Dict.size_congr (store.global_purge now)).trans tracks.global.size

private theorem size_held_purge (tracks : Tracks sets now book store) (tidy : Tidy book store)
    (tenantId : String) : ((store.purge now).held tenantId).size = book.inUseBy tenantId now :=
  (Dict.size_congr (tidy.held_purge tenantId)).trans (tracks.tenant tenantId).size

private theorem held_set (global : Expiries) (tenants : Dict String Expiries) (tenantId other : String)
    (expiries : Expiries) :
    held ⟨global,tenants.set tenantId expiries⟩ other =
      if other = tenantId then expiries else held ⟨global,tenants⟩ other :=
  Dict.getD_set _ _ _ _ _

theorem held_reopen (store : MemoryChatSlotStore) (tenantId other : String) :
    held ⟨store.global,store.tenants.set tenantId (store.tenants.getD tenantId ∅)⟩ other =
      store.held other := by
  rw [held_set]
  split
  · rename_i same
    rw [same,held]
  · rfl

theorem held_release (store : MemoryChatSlotStore) (tenantId token other : String) :
    (store.release tenantId token).held other =
      if other = tenantId then (store.held tenantId).erase token else store.held other := by
  cases found : store.tenants.get? tenantId with
  | none =>
    have nothing : store.held tenantId = ∅ := Dict.getD_of_none found ∅
    have same : (store.release tenantId token).held other = store.held other := by
      simp only [release,found]
      rfl
    rw [same]
    split
    · rename_i here
      rw [here,nothing]
      rfl
    · rfl
  | some kept =>
    have own : store.held tenantId = kept := Dict.getD_of_some found ∅
    simp only [release,found,held_set,own]
    rfl

variable {args : AcquireArgs}

private theorem tracks_reopen (tracks : Tracks sets now book store) (tenantId : String) :
    Tracks sets now book
      ⟨store.global,store.tenants.set tenantId (store.tenants.getD tenantId ∅)⟩ := by
  refine ⟨tracks.global,fun other => (tracks.tenant other).congr (fun token => ?_)⟩
  exact congrArg (fun expiries => expiries.get? token) (held_reopen store tenantId other)

theorem Tidy.reopen (tidy : Tidy book store) (tenantId : String) :
    Tidy book ⟨store.global,store.tenants.set tenantId (store.tenants.getD tenantId ∅)⟩ := by
  intro other token exp found
  rw [held_reopen] at found
  exact tidy other token exp found

def grant (store : MemoryChatSlotStore) (tenantId token : String) (exp : ℚ) :
    MemoryChatSlotStore :=
  ⟨store.global.set token exp,store.tenants.set tenantId ((store.held tenantId).set token exp)⟩

theorem held_grant (store : MemoryChatSlotStore) (tenantId token other : String) (exp : ℚ) :
    (store.grant tenantId token exp).held other =
      if other = tenantId then (store.held tenantId).set token exp else store.held other :=
  held_set _ _ _ _ _

private theorem tracks_grant (tracks : Tracks sets now book store) {token : String}
    (fresh : book.get? token = none) (tenantId : String) (exp : ℚ) :
    Tracks sets now (book.set token ⟨tenantId,exp⟩) (store.grant tenantId token exp) := by
  refine ⟨tracks.global.add token trivial exp,fun other => ?_⟩
  simp only [sets,held_grant]
  split
  · rename_i same
    exact same ▸ (tracks.tenant tenantId).add token rfl exp
  · rename_i apart
    exact (tracks.tenant other).add_other fresh (fun same => apart same.symm) exp

theorem Tidy.grant (tidy : Tidy book store) {token : String} (fresh : book.get? token = none)
    (tenantId : String) (exp : ℚ) :
    Tidy (book.set token ⟨tenantId,exp⟩) (store.grant tenantId token exp) := by
  intro other held date found
  rw [held_grant] at found
  rw [MemoryChatSlotStore.grant,Dict.get?_set,Dict.get?_set]
  by_cases here : held = token
  · subst here
    split at found
    · rename_i same
      rw [Dict.get?_set,if_pos rfl] at found
      cases found
      simp [same]
    · have before := (tidy other held date found).2
      rw [fresh] at before
      cases before
  · rw [if_neg here,if_neg here]
    split at found
    · rename_i same
      rw [Dict.get?_set,if_neg here] at found
      exact same ▸ tidy tenantId held date found
    · exact tidy other held date found

variable {tenantId token : String}

private theorem tracks_release (tracks : Tracks sets now book store)
    (owner : ∀ lease, book.get? token = some lease → lease.holder = tenantId) :
    Tracks sets now (book.erase token) (store.release tenantId token) := by
  refine ⟨tracks.global.erase token,fun other => ?_⟩
  simp only [sets,held_release]
  split
  · rename_i same
    exact same ▸ (tracks.tenant tenantId).erase token
  · rename_i apart
    refine (tracks.tenant other).erase_other (fun lease found same => apart ?_)
    rw [← same,owner lease found]

theorem Tidy.release (tidy : Tidy book store)
    (owner : ∀ lease, book.get? token = some lease → lease.holder = tenantId) :
    Tidy (book.erase token) (store.release tenantId token) := by
  intro other held exp found
  rw [held_release] at found
  have kept : held ≠ token ∧ (store.held other).get? held = some exp := by
    split at found
    · rename_i same
      rw [Dict.get?_erase] at found
      split at found
      · cases found
      · rename_i apart
        exact ⟨apart,same ▸ found⟩
    · rename_i apart
      refine ⟨?_,found⟩
      rintro rfl
      exact apart (owner _ (tidy other held exp found).2)
  have before := tidy other held exp kept.2
  rw [MemoryChatSlotStore.release,Dict.get?_erase,Dict.get?_erase,if_neg kept.1,if_neg kept.1]
  exact before

end MemoryChatSlotStore

open MemoryChatSlotStore in
theorem memory_follows : Follows memoryChatSlotStore sets Tidy where
  init := by
    refine ⟨?_,fun now => ⟨Lease.records_empty _ now,fun _ => Lease.records_empty _ now⟩⟩
    intro tenantId token exp found
    cases found
  acquire := by
    intro now book store args tracks tidy fresh
    have global := size_global_purge tracks
    have tenant : ((store.purge now).tenants.getD args.tenantId ∅).size =
        book.inUseBy args.tenantId now := size_held_purge tracks tidy args.tenantId
    have purged := tracks_purge tracks tidy
    simp only [memoryChatSlotStore,acquire,SlotBook.acquire,global,tenant]
    split
    · exact ⟨rfl,purged,tidy.purge⟩
    split
    · exact ⟨rfl,tracks_reopen purged args.tenantId,tidy.purge.reopen args.tenantId⟩
    · exact ⟨rfl,tracks_grant purged fresh args.tenantId _,tidy.purge.grant fresh args.tenantId _⟩
  release := fun _ _ tracks tidy owner => ⟨tracks_release tracks owner,tidy.release owner⟩
  inFlight := fun tracks tidy =>
    ⟨size_global_purge tracks,tracks_purge tracks tidy,tidy.purge⟩

namespace RedisChatSlotStore

def sets : SlotSets Redis :=
  ⟨fun db => db.members GLOBAL_KEY,fun db tenantId => db.members (tenantSlotKey tenantId)⟩

private theorem filter_score (members : Expiries) (now : ℚ) :
    members.filter (fun _ score => !decide (score ≤ now)) = unexpired now members := by
  unfold Lease.unexpired
  congr
  funext _ score
  by_cases gone : score ≤ now
  · simp [gone]
  · simp [gone,not_le.mp gone]

private theorem tenant_put (db : Redis) (tenantId : String) (members : Expiries) (other : String) :
    (db.put (tenantSlotKey tenantId) members).members (tenantSlotKey other) =
      if other = tenantId then members else db.members (tenantSlotKey other) := by
  rw [Redis.members_put]
  by_cases same : other = tenantId
  · rw [if_pos same,if_pos (congrArg tenantSlotKey same)]
  · rw [if_neg same,if_neg (fun keys => same (tenantSlotKey_inj keys))]

variable {book : SlotBook} {db : Redis} {now : ℚ}

private theorem tracks_put_global {members : Expiries} (global : Records (fun _ => True) now book members)
    (tenant : ∀ tenantId, Records (· = tenantId) now book (sets.tenant db tenantId)) :
    Tracks sets now book (db.put GLOBAL_KEY members) := by
  refine ⟨?_,fun tenantId => ?_⟩
  · simpa only [sets,Redis.members_put,if_true] using global
  · simpa only [sets,Redis.members_put,tenantSlotKey_ne_global,if_false] using tenant tenantId

private theorem tracks_put_tenant {members : Expiries} {tenantId : String}
    (global : Records (fun _ => True) now book (sets.global db))
    (own : Records (· = tenantId) now book members)
    (tenant : ∀ other, other ≠ tenantId → Records (· = other) now book (sets.tenant db other)) :
    Tracks sets now book (db.put (tenantSlotKey tenantId) members) := by
  refine ⟨?_,fun other => ?_⟩
  · simpa only [sets,Redis.members_put,(tenantSlotKey_ne_global tenantId).symm,if_false] using global
  · simp only [sets,tenant_put]
    split
    · rename_i same
      exact same ▸ own
    · rename_i apart
      exact tenant other apart

private theorem tracks_purge_global (tracks : Tracks sets now book db) :
    Tracks sets now book (db.zremrangebyscore GLOBAL_KEY now) := by
  rw [Redis.zremrangebyscore,filter_score]
  exact tracks_put_global tracks.global.purge tracks.tenant

private theorem tracks_purge_tenant (tracks : Tracks sets now book db) (tenantId : String) :
    Tracks sets now book (db.zremrangebyscore (tenantSlotKey tenantId) now) := by
  rw [Redis.zremrangebyscore,filter_score]
  exact tracks_put_tenant tracks.global (tracks.tenant tenantId).purge
    (fun other _ => tracks.tenant other)

private theorem zcard_purge_global (tracks : Tracks sets now book db) :
    (db.zremrangebyscore GLOBAL_KEY now).zcard GLOBAL_KEY = book.inUse now := by
  rw [Redis.zcard,Redis.zremrangebyscore,filter_score,Redis.members_put,if_pos rfl]
  exact tracks.global.size

private theorem zcard_purge_tenant (tracks : Tracks sets now book db) (tenantId : String) :
    (db.zremrangebyscore (tenantSlotKey tenantId) now).zcard (tenantSlotKey tenantId) =
      book.inUseBy tenantId now := by
  rw [Redis.zcard,Redis.zremrangebyscore,filter_score,Redis.members_put,if_pos rfl]
  exact (tracks.tenant tenantId).size

private theorem zcard_global_purge_tenant (db : Redis) (tenantId : String) (now : ℚ) :
    (db.zremrangebyscore (tenantSlotKey tenantId) now).zcard GLOBAL_KEY = db.zcard GLOBAL_KEY := by
  rw [Redis.zcard,Redis.zremrangebyscore,Redis.members_put,
    if_neg (tenantSlotKey_ne_global tenantId).symm,Redis.zcard]

private theorem tracks_grant (tracks : Tracks sets now book db) {token : String}
    (fresh : book.get? token = none) (tenantId : String) (exp : ℚ) :
    Tracks sets now (book.set token ⟨tenantId,exp⟩)
      ((db.zadd GLOBAL_KEY exp token).zadd (tenantSlotKey tenantId) exp token) := by
  have own : (db.zadd GLOBAL_KEY exp token).members (tenantSlotKey tenantId) =
      sets.tenant db tenantId := by
    rw [Redis.zadd,Redis.members_put,if_neg (tenantSlotKey_ne_global tenantId)]
    rfl
  rw [Redis.zadd,own]
  refine tracks_put_tenant ?_ ((tracks.tenant tenantId).add token rfl exp) (fun other apart => ?_)
  · simpa only [sets,Redis.zadd,Redis.members_put,if_true] using tracks.global.add token trivial exp
  · simpa only [sets,Redis.zadd,Redis.members_put,tenantSlotKey_ne_global,if_false] using
      (tracks.tenant other).add_other fresh (fun same => apart same.symm) exp

private theorem tracks_release (tracks : Tracks sets now book db) {token tenantId : String}
    (owner : ∀ lease, book.get? token = some lease → lease.holder = tenantId) :
    Tracks sets now (book.erase token) (release db tenantId token) := by
  have own : (db.zrem GLOBAL_KEY token).members (tenantSlotKey tenantId) =
      sets.tenant db tenantId := by
    rw [Redis.zrem,Redis.members_put,if_neg (tenantSlotKey_ne_global tenantId)]
    rfl
  rw [release,releaseLua,Redis.zrem,own]
  refine tracks_put_tenant ?_ ((tracks.tenant tenantId).erase token) (fun other apart => ?_)
  · simpa only [sets,Redis.zrem,Redis.members_put,if_true] using tracks.global.erase token
  · simpa only [sets,Redis.zrem,Redis.members_put,tenantSlotKey_ne_global,if_false] using
      (tracks.tenant other).erase_other
        (fun lease found same => apart (same.symm.trans (owner lease found)))

private theorem acquire_eq (tracks : Tracks sets now book db) (args : AcquireArgs) :
    acquire db args now =
      let purged := (db.zremrangebyscore GLOBAL_KEY now).zremrangebyscore
        (tenantSlotKey args.tenantId) now
      if args.globalLimit ≤ book.inUse now then (.error .cluster,purged)
      else if args.tenantLimit ≤ book.inUseBy args.tenantId now then (.error .tenant,purged)
      else (.ok args.token,(purged.zadd GLOBAL_KEY (args.expireAt now) args.token).zadd
        (tenantSlotKey args.tenantId) (args.expireAt now) args.token) := by
  have tenant := zcard_purge_tenant (tracks_purge_global tracks) args.tenantId
  simp only [acquire,acquireLua,zcard_global_purge_tenant,zcard_purge_global tracks,tenant]
  split
  · rfl
  split
  · rfl
  · rfl

end RedisChatSlotStore

open RedisChatSlotStore in
theorem redis_follows : Follows redisChatSlotStore sets (fun _ _ => True) where
  init := ⟨trivial,fun now => ⟨Lease.records_empty _ now,fun _ => Lease.records_empty _ now⟩⟩
  acquire := by
    intro now book db args tracks _ fresh
    have purged := tracks_purge_tenant (tracks_purge_global tracks) args.tenantId
    simp only [redisChatSlotStore,acquire_eq tracks,SlotBook.acquire]
    split
    · exact ⟨rfl,purged,trivial⟩
    split
    · exact ⟨rfl,purged,trivial⟩
    · exact ⟨rfl,tracks_grant purged fresh args.tenantId _,trivial⟩
  release := fun _ _ tracks _ owner => ⟨tracks_release tracks owner,trivial⟩
  inFlight := fun tracks _ => ⟨zcard_purge_global tracks,tracks_purge_global tracks,trivial⟩

/-- Memory and Redis give the same answer at every step. -/
theorem stores_agree (events : List Event) (whole : WellFormed events) :
    memoryChatSlotStore.machine.answers events = redisChatSlotStore.machine.answers events :=
  (memory_follows.run whole).1.trans (redis_follows.run whole).1.symm

/-- One process of two slots in all and one for each tenant; the first lease ends at 5. -/
def busyHour : List Event := [⟨0,.acquire ⟨"acme",2,1,5,"a"⟩⟩,⟨1,.acquire ⟨"acme",2,1,5,"b"⟩⟩,
  ⟨1,.acquire ⟨"beta",2,1,9,"c"⟩⟩,⟨2,.acquire ⟨"beta",2,1,9,"d"⟩⟩,⟨6,.acquire ⟨"acme",2,1,5,"e"⟩⟩,
  ⟨7,.release "acme" "a"⟩,⟨7,.inFlight⟩,⟨7,.release "beta" "c"⟩,⟨8,.inFlight⟩]

theorem stores_agree_busyHour :
    memoryChatSlotStore.machine.answers busyHour = [.granted "a",.busy .tenant,.granted "c",
      .busy .cluster,.granted "e",.released,.count 2,.released,.count 1] ∧
    memoryChatSlotStore.machine.answers busyHour = redisChatSlotStore.machine.answers busyHour :=
  ⟨by decide +kernel,stores_agree busyHour (by decide)⟩

end CustomerService.ChatSlots
