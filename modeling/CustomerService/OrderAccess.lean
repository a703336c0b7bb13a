import CustomerService.ThreadKey
import Mathlib.Algebra.Order.Ring.Rat
import Mathlib.Data.List.Nodup

/-! Who may see which order. The decision is taken in two places: `authorize` checks the
number a session is bound to, `_decide_access` looks the order up. -/
namespace CustomerService.OrderAccess
open Text ThreadKey

structure OrderEvent where
  name : Text
  status : Text
  /-- The time as the report prints it. -/
  occurredAt : Option Text
  note : Option Text
  deriving DecidableEq

structure Order where
  id : Nat
  tenantId : Text
  orderNo : Text
  userId : Text
  courseName : Text
  courseCode : Option Text
  orderType : Text
  status : Text
  amount : ℚ
  events : List OrderEvent
  deriving DecidableEq

/-- The rows of `orders`; `uq_orders_tenant_order_no` holds. -/
structure OrderTable where
  rows : List Order
  unique : (rows.map (fun order => (order.tenantId,order.orderNo))).Nodup

namespace OrderTable

/-- Texts are compared character by character, as SQLite does, the default database. The
collation utf8mb4_unicode_ci, which docker-compose.yml gives MySQL, is not modelled. -/
def find (table : OrderTable) (tenantId orderNo : Text) : Option Order :=
  table.rows.find? (fun order => order.orderNo = orderNo && order.tenantId = tenantId)

def findAnyTenant (table : OrderTable) (orderNo : Text) : Option Nat :=
  (table.rows.find? (fun order => order.orderNo = orderNo)).map Order.id

end OrderTable

inductive AccessContext
  | directQuery
  | slotFollowup
  | memoryRecall
  | reactBinding
  deriving DecidableEq

inductive OrderDenyReason
  | orderNotFound
  | crossTenant
  | notOrderOwner
  | anonymousUnbound
  | malformedOrderNo
  deriving DecidableEq

structure OrderAccessDecision where
  allowed : Bool
  reasonCode : Option OrderDenyReason
  orderId : Option Nat
  order : Option Order
  deriving DecidableEq

/-- `^\d{8,}$`, of the whole text. -/
def isOrderNo (number : Text) : Bool := decide (8 ≤ number.length) && number.all isDigit

def EPHEMERAL_USERS : List Text := [[],"anonymous".toList,"anon".toList]

/-- `value or fallback`. -/
def orElse (value : Option Text) (fallback : Text) : Text :=
  match value with
  | none | some [] => fallback
  | some text => text

def normalizeUserId (userId : Text) : Text := orDefault userId "anonymous".toList

def isPersistentUser (userId : Text) : Bool :=
  !(strip userId).isEmpty && !EPHEMERAL_USERS.contains (strip userId)

/-- `(uid in EPHEMERAL_USERS) or (uid == "")`. -/
def isAnonymous (uid : Text) : Bool := EPHEMERAL_USERS.contains uid || decide (uid = [])

structure Tenancy where
  currentTenant : Text
  currentUser : Text
  deriving DecidableEq

def Tenancy.getCurrentUser (tenancy : Tenancy) : Text :=
  orElse (some tenancy.currentUser) "anonymous".toList

def decideAccess (table : OrderTable) (orderNo tenantId userId : Text) (context : AccessContext) :
    Bool × Option OrderDenyReason × Option Order :=
  let number := strip orderNo
  if isOrderNo number = false then (false,some .malformedOrderNo,none)
  else
    let uid := normalizeUserId userId
    let anon := isAnonymous uid
    if anon && decide (context = .memoryRecall) then (false,some .anonymousUnbound,none)
    else
      match table.find tenantId number with
      | none =>
        (false,some (if (table.findAnyTenant number).getD 0 ≠ 0 then .crossTenant else .orderNotFound),
          none)
      | some order =>
        if !anon && decide (order.userId ≠ uid) then (false,some .notOrderOwner,none)
        else (true,none,some order)

structure AccessRequest where
  orderNo : Text
  context : AccessContext
  tenantId : Option Text
  userId : Option Text
  sessionBoundOrderNo : Option Text

namespace AccessRequest

variable (request : AccessRequest) (tenancy : Tenancy)

def tenant : Text := orElse request.tenantId tenancy.currentTenant

def user : Text := normalizeUserId (orElse request.userId tenancy.getCurrentUser)

def number : Text := strip request.orderNo

/-- `(session_bound_order_no or "").strip()`. -/
def bound : Text := strip (request.sessionBoundOrderNo.getD [])

def anonymous : Bool := isAnonymous (request.user tenancy)

end AccessRequest

def authorize (table : OrderTable) (tenancy : Tenancy) (request : AccessRequest) :
    OrderAccessDecision :=
  let tid := request.tenant tenancy
  let uid := request.user tenancy
  if request.anonymous tenancy ∧ request.context = .slotFollowup ∧ request.bound ≠ [] ∧
      request.number ≠ request.bound then ⟨false,some .anonymousUnbound,none,none⟩
  else
    match decideAccess table request.orderNo tid uid request.context with
    | (true,_,some order) => ⟨true,none,some order.id,some order⟩
    | (_,reason,_) => ⟨false,reason,none,none⟩

def canAccessOrder (table : OrderTable) (tenancy : Tenancy) (orderNo tenantId : Text)
    (userId : Text) : Bool :=
  (authorize table tenancy ⟨orderNo,.directQuery,some tenantId,some userId,none⟩).allowed

/-! The law. -/

private theorem find_eq_some (table : OrderTable) (tenantId orderNo : Text) (order : Order) :
    table.find tenantId orderNo = some order ↔
      order ∈ table.rows ∧ order.tenantId = tenantId ∧ order.orderNo = orderNo := by
  constructor
  · intro found
    have fits := List.find?_some found
    simp only [Bool.and_eq_true,decide_eq_true_eq] at fits
    exact ⟨List.mem_of_find?_eq_some found,fits.2,fits.1⟩
  · rintro ⟨listed,rfl,rfl⟩
    have present : (table.find order.tenantId order.orderNo).isSome = true :=
      List.find?_isSome.mpr ⟨order,listed,by simp⟩
    obtain ⟨other,found⟩ := Option.isSome_iff_exists.mp present
    have fits := List.find?_some found
    simp only [Bool.and_eq_true,decide_eq_true_eq] at fits
    have same := List.inj_on_of_nodup_map table.unique listed (List.mem_of_find?_eq_some found)
      (Prod.ext fits.2.symm fits.1.symm)
    rw [found,same]

theorem normalizeUserId_ne (userId : Text) : normalizeUserId userId ≠ [] := by
  unfold normalizeUserId orDefault
  split
  · simp
  · assumption

theorem strip_normalizeUserId (userId : Text) :
    strip (normalizeUserId userId) = normalizeUserId userId := by
  apply strip_of_tight
  unfold normalizeUserId orDefault
  split
  · decide
  · exact tight_strip userId

theorem normalizeUserId_normalizeUserId (userId : Text) :
    normalizeUserId (normalizeUserId userId) = normalizeUserId userId := by
  have solid := normalizeUserId_ne userId
  rw [normalizeUserId,orDefault,strip_normalizeUserId,if_neg solid]

private theorem isPersistentUser_user (request : AccessRequest) (tenancy : Tenancy) :
    isPersistentUser (request.user tenancy) = !request.anonymous tenancy := by
  have tight : strip (request.user tenancy) = request.user tenancy := strip_normalizeUserId _
  rw [isPersistentUser,AccessRequest.anonymous,isAnonymous,tight]
  cases request.user tenancy <;> simp

def Finds (table : OrderTable) (number tenantId uid : Text) (context : AccessContext)
    (order : Order) : Prop :=
  isOrderNo number = true ∧
    (order ∈ table.rows ∧ order.tenantId = tenantId ∧ order.orderNo = number) ∧
    (isAnonymous uid = true ∧ context ≠ .memoryRecall ∨
      isAnonymous uid = false ∧ order.userId = uid)

theorem decideAccess_spec (table : OrderTable) (orderNo tenantId : Text) {uid : Text}
    (context : AccessContext) (normal : normalizeUserId uid = uid) :
    (∃ order, decideAccess table orderNo tenantId uid context = (true,none,some order) ∧
        Finds table (strip orderNo) tenantId uid context order) ∨
      (∃ reason, decideAccess table orderNo tenantId uid context = (false,some reason,none)) ∧
        ∀ order, ¬Finds table (strip orderNo) tenantId uid context order := by
  unfold decideAccess
  simp only [normal]
  split
  · rename_i malformed
    refine Or.inr ⟨⟨_,rfl⟩,fun order finds => ?_⟩
    exact absurd finds.1 (by simp [malformed])
  rename_i wellFormed
  split
  · rename_i recalls
    simp only [Bool.and_eq_true,decide_eq_true_eq] at recalls
    refine Or.inr ⟨⟨_,rfl⟩,fun order finds => ?_⟩
    rcases finds.2.2 with ⟨_,other⟩ | ⟨persistent,_⟩
    · exact other recalls.2
    · exact absurd recalls.1 (by simp [persistent])
  rename_i allowed
  cases found : table.find tenantId (strip orderNo) with
  | none =>
    refine Or.inr ⟨⟨_,rfl⟩,fun order finds => ?_⟩
    rw [(find_eq_some table tenantId (strip orderNo) order).mpr finds.2.1] at found
    cases found
  | some order =>
    have here := (find_eq_some table tenantId (strip orderNo) order).mp found
    dsimp only
    split
    · rename_i foreign
      refine Or.inr ⟨⟨_,rfl⟩,fun other finds => ?_⟩
      rw [(find_eq_some table tenantId (strip orderNo) other).mpr finds.2.1] at found
      cases found
      simp only [Bool.and_eq_true,decide_eq_true_eq] at foreign
      rcases finds.2.2 with ⟨anonymous,_⟩ | ⟨_,owner⟩
      · exact absurd anonymous (by simpa using foreign.1)
      · exact foreign.2 owner
    · rename_i permitted
      refine Or.inl ⟨order,rfl,by simpa using wellFormed,here,?_⟩
      by_cases anonymous : isAnonymous uid = true
      · exact Or.inl ⟨anonymous,fun recalled => allowed (by simp [recalled,anonymous])⟩
      · refine Or.inr ⟨by simpa using anonymous,?_⟩
        by_contra foreign
        exact permitted (by simp [foreign,anonymous])

def Binds (tenancy : Tenancy) (request : AccessRequest) : Prop :=
  request.anonymous tenancy = true → request.context = .slotFollowup →
    request.bound = [] ∨ request.number = request.bound

theorem authorize_spec (table : OrderTable) (tenancy : Tenancy) (request : AccessRequest) :
    (∃ order, authorize table tenancy request = ⟨true,none,some order.id,some order⟩ ∧
        Binds tenancy request ∧ Finds table request.number (request.tenant tenancy)
          (request.user tenancy) request.context order) ∨
      (∃ reason, authorize table tenancy request = ⟨false,some reason,none,none⟩) ∧
        ∀ order, ¬(Binds tenancy request ∧ Finds table request.number (request.tenant tenancy)
          (request.user tenancy) request.context order) := by
  unfold authorize
  dsimp only
  split
  · rename_i unbound
    obtain ⟨anonymous,followup,bound,other⟩ := unbound
    exact Or.inr ⟨⟨_,rfl⟩,fun order both => (both.1 anonymous followup).elim bound other⟩
  rename_i passed
  have binds : Binds tenancy request := by
    intro anonymous followup
    by_contra neither
    exact passed ⟨anonymous,followup,not_or.mp neither⟩
  have normal : normalizeUserId (request.user tenancy) = request.user tenancy :=
    normalizeUserId_normalizeUserId _
  rcases decideAccess_spec table request.orderNo (request.tenant tenancy) request.context normal with
    ⟨order,decided,finds⟩ | ⟨⟨reason,decided⟩,denied⟩
  · exact Or.inl ⟨order,by rw [decided],binds,finds⟩
  · exact Or.inr ⟨⟨reason,by rw [decided]⟩,fun order both => denied order both.2⟩

def Present (table : OrderTable) (tenancy : Tenancy) (request : AccessRequest) (order : Order) : Prop :=
  isOrderNo request.number = true ∧ order ∈ table.rows ∧
    order.tenantId = request.tenant tenancy ∧ order.orderNo = request.number

structure AccessLaw (table : OrderTable) (tenancy : Tenancy) (request : AccessRequest)
    (decision : OrderAccessDecision) : Prop where
  persistent : isPersistentUser (request.user tenancy) = true →
    (decision.allowed = true ↔
      ∃ order, Present table tenancy request order ∧ order.userId = request.user tenancy)
  direct : isPersistentUser (request.user tenancy) = false →
    request.context = .directQuery ∨ request.context = .reactBinding →
      (decision.allowed = true ↔ ∃ order, Present table tenancy request order)
  followup : isPersistentUser (request.user tenancy) = false → request.context = .slotFollowup →
    (decision.allowed = true ↔
      (∃ order, Present table tenancy request order) ∧ request.bound ≠ [] ∧
        request.number = request.bound)
  recalled : isPersistentUser (request.user tenancy) = false → request.context = .memoryRecall →
    decision.allowed = false
  order : decision.allowed = true → ∃ order, decision.order = some order ∧
    decision.orderId = some order.id ∧ Present table tenancy request order

variable {table : OrderTable} {tenancy : Tenancy} {request : AccessRequest}

theorem Finds.present {order : Order} (finds : Finds table request.number (request.tenant tenancy)
    (request.user tenancy) request.context order) : Present table tenancy request order :=
  ⟨finds.1,finds.2.1⟩

private theorem allowed_iff : (authorize table tenancy request).allowed = true ↔
    Binds tenancy request ∧ ∃ order, Finds table request.number (request.tenant tenancy)
      (request.user tenancy) request.context order := by
  rcases authorize_spec table tenancy request with ⟨order,decided,binds,finds⟩ | ⟨⟨_,decided⟩,denied⟩
  · rw [decided]
    exact ⟨fun _ => ⟨binds,order,finds⟩,fun _ => rfl⟩
  · rw [decided]
    refine ⟨fun allowed => (Bool.false_ne_true allowed).elim,fun ⟨binds,order,finds⟩ => ?_⟩
    exact (denied order ⟨binds,finds⟩).elim

private theorem allowed_persistent (persistent : request.anonymous tenancy = false) :
    (authorize table tenancy request).allowed = true ↔
      ∃ order, Present table tenancy request order ∧ order.userId = request.user tenancy := by
  rw [allowed_iff]
  constructor
  · rintro ⟨_,order,finds⟩
    refine ⟨order,finds.present,(finds.2.2.resolve_left (fun both => ?_)).2⟩
    exact Bool.false_ne_true (persistent.symm.trans both.1)
  · rintro ⟨order,present,owner⟩
    refine ⟨fun anonymous => ?_,order,present.1,present.2,Or.inr ⟨persistent,owner⟩⟩
    exact (Bool.false_ne_true (persistent.symm.trans anonymous)).elim

private theorem allowed_anonymous (anonymous : request.anonymous tenancy = true) :
    (authorize table tenancy request).allowed = true ↔
      request.context ≠ .memoryRecall ∧
        (request.context = .slotFollowup → request.bound = [] ∨ request.number = request.bound) ∧
        ∃ order, Present table tenancy request order := by
  rw [allowed_iff]
  constructor
  · rintro ⟨binds,order,finds⟩
    refine ⟨(finds.2.2.resolve_right (fun both => ?_)).2,binds anonymous,order,finds.present⟩
    exact Bool.false_ne_true (both.1.symm.trans anonymous)
  · rintro ⟨context,binds,order,present⟩
    exact ⟨fun _ => binds,order,present.1,present.2,Or.inl ⟨anonymous,context⟩⟩

/-- The law holds of a request unless a visitor follows up without a bound number on an
order that exists. -/
theorem access_law_iff (table : OrderTable) (tenancy : Tenancy) (request : AccessRequest) :
    AccessLaw table tenancy request (authorize table tenancy request) ↔
      ¬(isPersistentUser (request.user tenancy) = false ∧ request.context = .slotFollowup ∧
        request.bound = [] ∧ ∃ order, Present table tenancy request order) := by
  have kind := isPersistentUser_user request tenancy
  constructor
  · rintro law ⟨visitor,followup,bound,present⟩
    have anonymous : request.anonymous tenancy = true := by simpa [visitor] using kind
    have allowed : (authorize table tenancy request).allowed = true := by
      rw [allowed_anonymous anonymous,followup]
      exact ⟨by simp,fun _ => Or.inl bound,present⟩
    exact ((law.followup visitor followup).mp allowed).2.1 bound
  · intro exempt
    constructor
    · intro persistent
      exact allowed_persistent (by simpa [persistent] using kind)
    · intro visitor context
      rw [allowed_anonymous (by simpa [visitor] using kind)]
      rcases context with context | context <;> simp [context]
    · intro visitor followup
      rw [allowed_anonymous (by simpa [visitor] using kind)]
      constructor
      · rintro ⟨_,binds,present⟩
        have given : request.bound ≠ [] := fun blank => exempt ⟨visitor,followup,blank,present⟩
        exact ⟨present,given,(binds followup).resolve_left given⟩
      · rintro ⟨present,_,same⟩
        exact ⟨by simp [followup],fun _ => Or.inr same,present⟩
    · intro visitor recalled
      rw [← Bool.not_eq_true,allowed_anonymous (by simpa [visitor] using kind)]
      exact fun both => both.1 recalled
    · intro allowed
      rcases authorize_spec table tenancy request with ⟨order,decided,_,finds⟩ | ⟨⟨_,decided⟩,_⟩
      · rw [decided]
        exact ⟨order,rfl,rfl,finds.present⟩
      · rw [decided] at allowed
        cases allowed

/-- An order of the tenant that the user may see: any, or the user's own. -/
structure Accessible (table : OrderTable) (tenantId userId number : Text) (order : Order) : Prop where
  listed : order ∈ table.rows
  tenant : order.tenantId = tenantId
  number : order.orderNo = number
  owner : isPersistentUser userId = true → order.userId = normalizeUserId userId

theorem Finds.accessible {tenantId userId : Text} {order : Order}
    (finds : Finds table request.number (request.tenant tenancy) (request.user tenancy)
      request.context order) (tenant : request.tenant tenancy = tenantId)
    (user : isPersistentUser userId = true → request.user tenancy = normalizeUserId userId) :
    Accessible table tenantId userId request.number order where
  listed := finds.2.1.1
  tenant := finds.2.1.2.1.trans tenant
  number := finds.2.1.2.2
  owner := by
    intro persistent
    have kind := isPersistentUser_user request tenancy
    rw [user persistent] at kind
    have named : isPersistentUser (normalizeUserId userId) = true := by
      rw [isPersistentUser,strip_normalizeUserId]
      simp only [isPersistentUser,Bool.and_eq_true,Bool.not_eq_true',List.isEmpty_eq_false_iff]
        at persistent ⊢
      rwa [normalizeUserId,orDefault,if_neg persistent.1]
    rcases finds.2.2 with ⟨anonymous,_⟩ | ⟨_,owner⟩
    · rw [named,show request.anonymous tenancy = true from anonymous] at kind
      cases kind
    · exact owner.trans (user persistent)

theorem orElse_of_ne {value fallback : Text} (given : value ≠ []) : orElse (some value) fallback = value := by
  cases value with
  | nil => exact absurd rfl given
  | cons char rest => rfl

private theorem ne_nil_of_persistent {userId : Text} (persistent : isPersistentUser userId = true) :
    userId ≠ [] := by
  rintro rfl
  exact absurd persistent (by decide)

theorem canAccessOrder_accessible {orderNo tenantId userId : Text} (given : tenantId ≠ [])
    (allowed : canAccessOrder table tenancy orderNo tenantId userId = true) :
    isOrderNo (strip orderNo) = true ∧
      ∃ order, Accessible table tenantId userId (strip orderNo) order := by
  obtain ⟨_,order,finds⟩ := allowed_iff.mp allowed
  refine ⟨finds.1,order,finds.accessible (orElse_of_ne given) (fun persistent => ?_)⟩
  exact congrArg normalizeUserId (orElse_of_ne (ne_nil_of_persistent persistent))

def paidOrder : Order where
  id := 1
  tenantId := "demo".toList
  orderNo := "20251114001".toList
  userId := "u1".toList
  courseName := "Python".toList
  courseCode := none
  orderType := "purchase".toList
  status := "paid".toList
  amount := 99
  events := []

def oneOrder : OrderTable := ⟨[paidOrder],List.nodup_singleton _⟩

theorem unbound_followup_allowed : ¬∀ table tenancy request,
    AccessLaw table tenancy request (authorize table tenancy request) := by
  intro lawful
  have law := lawful oneOrder ⟨"demo".toList,"anonymous".toList⟩
    ⟨"20251114001".toList,.slotFollowup,none,none,none⟩
  have bound := ((law.followup (by decide) rfl).mp (by decide)).2.1
  exact bound (by decide)

end CustomerService.OrderAccess
