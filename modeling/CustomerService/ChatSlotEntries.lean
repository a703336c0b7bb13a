import CustomerService.ChatSlotLockstep

/-! What each operation of a slot store does to the entries of one token, whatever the clock
and whatever else the store holds. -/
namespace CustomerService.ChatSlots

variable {Store : Type}

/-- The entries of one set: all tokens, or those of a tenant. -/
def SlotSets.at (sets : SlotSets Store) (store : Store) : Option String → Expiries
  | none => sets.global store
  | some tenantId => sets.tenant store tenantId

def SlotSets.Absent (sets : SlotSets Store) (store : Store) (place : Option String)
    (token : String) : Prop :=
  (sets.at store place).get? token = none

instance (sets : SlotSets Store) (store : Store) (place : Option String) (token : String) :
    Decidable (sets.Absent store place token) :=
  inferInstanceAs (Decidable (_ = none))

/-- Nothing but the acquisition that returns a token adds an entry for it, under its tenant only,
and a release under that tenant removes both. -/
structure Tended (slots : ChatSlotStore Store) (sets : SlotSets Store) : Prop where
  init : ∀ place token, sets.Absent slots.init place token
  acquire : ∀ {store place token} (args : AcquireArgs) (now : ℚ), sets.Absent store place token →
    (token = args.token → (∃ granted, (slots.acquire store args now).1 = .ok granted) →
      place ≠ none ∧ place ≠ some args.tenantId) →
    sets.Absent (slots.acquire store args now).2 place token
  granted : ∀ {store token} (args : AcquireArgs) (now : ℚ),
    (slots.acquire store args now).1 = .ok token → token = args.token
  release : ∀ {store place token} (tenantId released : String), sets.Absent store place token →
    sets.Absent (slots.release store tenantId released) place token
  released : ∀ store tenantId token place, place = none ∨ place = some tenantId →
    sets.Absent (slots.release store tenantId token) place token
  inFlight : ∀ {store place token} (now : ℚ), sets.Absent store place token →
    sets.Absent (slots.inFlight store now).2 place token

private theorem absent_erase {expiries : Expiries} {token : String} (absent : expiries.get? token = none)
    (other : String) : (expiries.erase other).get? token = none := by
  rw [Dict.get?_erase,absent,ite_self]

private theorem absent_set {expiries : Expiries} {token other : String}
    (absent : expiries.get? token = none) (apart : token ≠ other) (expiry : ℚ) :
    (expiries.set other expiry).get? token = none := by
  rw [Dict.get?_set,if_neg apart,absent]

namespace MemoryChatSlotStore

variable {store : MemoryChatSlotStore} {place : Option String} {token : String}

private theorem absent_purge (now : ℚ) (absent : sets.Absent store place token) :
    sets.Absent (store.purge now) place token := by
  cases place with
  | none =>
    show (store.purge now).global.get? token = none
    rw [purge,global_pops,show store.global.get? token = none from absent,ite_self]
  | some tenantId =>
    show ((store.purge now).held tenantId).get? token = none
    rw [purge,held_pops,show (store.held tenantId).get? token = none from absent,ite_self]

private theorem absent_release (tenantId released : String) (absent : sets.Absent store place token) :
    sets.Absent (store.release tenantId released) place token := by
  cases place with
  | none => exact absent_erase absent released
  | some other =>
    show ((store.release tenantId released).held other).get? token = none
    rw [held_release]
    split
    · rename_i same
      rw [same] at absent
      exact absent_erase absent released
    · exact absent

private theorem absent_grant (tenantId : String) {granted : String} (expiry : ℚ)
    (absent : sets.Absent store place token)
    (elsewhere : token = granted → place ≠ none ∧ place ≠ some tenantId) :
    sets.Absent (store.grant tenantId granted expiry) place token := by
  cases place with
  | none => exact absent_set absent (fun same => (elsewhere same).1 rfl) expiry
  | some other =>
    show ((store.grant tenantId granted expiry).held other).get? token = none
    rw [held_grant]
    split
    · rename_i same
      rw [same] at absent elsewhere
      exact absent_set absent (fun drawn => (elsewhere drawn).2 rfl) expiry
    · exact absent

end MemoryChatSlotStore

open MemoryChatSlotStore in
theorem memory_tended : Tended memoryChatSlotStore sets where
  init place token := by cases place <;> rfl
  acquire := by
    intro store place token args now absent elsewhere
    have purged := absent_purge now absent
    simp only [memoryChatSlotStore,MemoryChatSlotStore.acquire] at elsewhere ⊢
    split
    · exact purged
    split
    · cases place with
      | none => exact purged
      | some other =>
        show (held _ other).get? token = none
        rw [held_reopen]
        exact purged
    · rename_i room room'
      simp only [if_neg room,if_neg room'] at elsewhere
      exact absent_grant args.tenantId _ purged (fun same => elsewhere same ⟨_,rfl⟩)
  granted := by
    intro store token args now ok
    simp only [memoryChatSlotStore,MemoryChatSlotStore.acquire] at ok
    split at ok
    · cases ok
    split at ok
    · cases ok
    · exact (Except.ok.inj ok).symm
  release tenantId released absent := absent_release tenantId released absent
  released store tenantId token place own := by
    cases own with
    | inl all =>
      rw [all]
      show (store.global.erase token).get? token = none
      rw [Dict.get?_erase,if_pos rfl]
    | inr held =>
      rw [held]
      show ((store.release tenantId token).held tenantId).get? token = none
      rw [held_release,if_pos rfl,Dict.get?_erase,if_pos rfl]
  inFlight now absent := absent_purge now absent

namespace RedisChatSlotStore

def keyOf : Option String → String
  | none => GLOBAL_KEY
  | some tenantId => tenantSlotKey tenantId

private theorem keyOf_inj {first second : Option String} (same : keyOf first = keyOf second) :
    first = second := by
  cases first with
  | none =>
    cases second with
    | none => rfl
    | some tenantId => exact absurd same.symm (tenantSlotKey_ne_global tenantId)
  | some tenantId =>
    cases second with
    | none => exact absurd same (tenantSlotKey_ne_global tenantId)
    | some other => exact congrArg some (tenantSlotKey_inj same)

variable {db : Redis} {place : Option String} {token : String}

private theorem absent_iff : sets.Absent db place token ↔ (db.members (keyOf place)).get? token = none := by
  cases place <;> exact Iff.rfl

private theorem absent_put (key : String) {members : Expiries} (absent : sets.Absent db place token)
    (kept : key = keyOf place → members.get? token = none) :
    sets.Absent (db.put key members) place token := by
  rw [absent_iff,Redis.members_put]
  split
  · rename_i same
    exact kept same.symm
  · exact absent_iff.mp absent

private theorem absent_zremrangebyscore (key : String) (now : ℚ) (absent : sets.Absent db place token) :
    sets.Absent (db.zremrangebyscore key now) place token := by
  apply absent_put key absent
  intro same
  rw [same,Dict.get?_filter,absent_iff.mp absent]
  rfl

private theorem absent_zadd (key : String) (score : ℚ) {member : String}
    (absent : sets.Absent db place token) (elsewhere : token = member → key ≠ keyOf place) :
    sets.Absent (db.zadd key score member) place token := by
  apply absent_put key absent
  intro same
  rw [same]
  exact absent_set (absent_iff.mp absent) (fun drawn => elsewhere drawn same) score

private theorem absent_zrem (key member : String) (absent : sets.Absent db place token) :
    sets.Absent (db.zrem key member) place token := by
  apply absent_put key absent
  intro same
  rw [same]
  exact absent_erase (absent_iff.mp absent) member

private theorem absent_zrem_self (key : String) (own : key = keyOf place) :
    sets.Absent (db.zrem key token) place token := by
  rw [absent_iff,Redis.zrem,Redis.members_put,if_pos own.symm,Dict.get?_erase,if_pos rfl]

end RedisChatSlotStore

open RedisChatSlotStore in
theorem redis_tended : Tended redisChatSlotStore RedisChatSlotStore.sets where
  init place token := by cases place <;> rfl
  acquire := by
    intro db place token args now absent elsewhere
    have purged := absent_zremrangebyscore (tenantSlotKey args.tenantId) now
      (absent_zremrangebyscore GLOBAL_KEY now absent)
    simp only [redisChatSlotStore,RedisChatSlotStore.acquire,acquireLua] at elsewhere ⊢
    split
    · exact purged
    split
    · exact purged
    · rename_i room room'
      have apart : token = args.token → place ≠ none ∧ place ≠ some args.tenantId := by
        intro drawn
        exact elsewhere drawn ⟨args.token,by simp [room,room']⟩
      apply absent_zadd
      · exact absent_zadd _ _ purged
          (fun drawn same => (apart drawn).1 (keyOf_inj (show keyOf place = keyOf none from same.symm)))
      · exact fun drawn same => (apart drawn).2 (keyOf_inj
          (show keyOf place = keyOf (some args.tenantId) from same.symm))
  granted := by
    intro db token args now ok
    simp only [redisChatSlotStore,RedisChatSlotStore.acquire] at ok
    split at ok
    · cases ok
    split at ok
    · cases ok
    · exact (Except.ok.inj ok).symm
  release tenantId released absent := absent_zrem _ _ (absent_zrem _ _ absent)
  released db tenantId token place own := by
    cases own with
    | inl all => exact absent_zrem _ _ (absent_zrem_self _ (by rw [all]; rfl))
    | inr held => exact absent_zrem_self _ (by rw [held]; rfl)
  inFlight now absent := absent_zremrangebyscore GLOBAL_KEY now absent

end CustomerService.ChatSlots
