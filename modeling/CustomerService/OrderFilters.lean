import CustomerService.OrderAccess

/-! The conditions of a query over orders, against the decision on one order. -/
namespace CustomerService.OrderAccess
open Text ThreadKey

inductive Filter
  | orderNo (number : Text)
  | tenantId (tenant : Text)
  | userId (uid : Text)

/-- Equal texts, as in `OrderTable.find`. -/
def Filter.accepts (order : Order) : Filter → Bool
  | orderNo number => order.orderNo = number
  | tenantId tenant => order.tenantId = tenant
  | userId uid => order.userId = uid

def makeOrderScopeFilters (orderNo tenantId : Text) (userId : Option Text) : List Filter :=
  let uid := normalizeUserId (userId.getD [])
  [.orderNo (strip orderNo),.tenantId tenantId] ++ if isPersistentUser uid then [.userId uid] else []

def OrderTable.select (table : OrderTable) (filters : List Filter) : List Order :=
  table.rows.filter (fun order => filters.all (Filter.accepts order))

def granted (decision : Bool × Option OrderDenyReason × Option Order) : List Order :=
  if decision.1 then decision.2.2.toList else []

theorem isPersistentUser_normalizeUserId (userId : Text) :
    isPersistentUser (normalizeUserId userId) = isPersistentUser userId := by
  rw [isPersistentUser,strip_normalizeUserId,isPersistentUser]
  by_cases blank : strip userId = []
  · rw [normalizeUserId,orDefault,if_pos blank,blank]
    decide
  · rw [normalizeUserId,orDefault,if_neg blank]

private theorem isAnonymous_normalizeUserId (userId : Text) :
    isAnonymous (normalizeUserId userId) = !isPersistentUser userId := by
  have solid := normalizeUserId_ne userId
  rw [← isPersistentUser_normalizeUserId,isPersistentUser,strip_normalizeUserId,isAnonymous,
    decide_eq_false solid,List.isEmpty_eq_false_iff.mpr solid]
  simp

private theorem decideAccess_normalizeUserId (table : OrderTable) (orderNo tenantId userId : Text)
    (context : AccessContext) :
    decideAccess table orderNo tenantId (normalizeUserId userId) context =
      decideAccess table orderNo tenantId userId context := by
  rw [decideAccess,decideAccess,normalizeUserId_normalizeUserId]

variable (table : OrderTable) (orderNo tenantId : Text) (userId : Option Text)

private theorem mem_select (order : Order) :
    order ∈ table.select (makeOrderScopeFilters orderNo tenantId userId) ↔
      Accessible table tenantId (userId.getD []) (strip orderNo) order := by
  have kind := isPersistentUser_normalizeUserId (userId.getD [])
  simp only [OrderTable.select,List.mem_filter,makeOrderScopeFilters,kind]
  constructor
  · intro selected
    obtain ⟨listed,every⟩ := selected
    rw [List.all_append,Bool.and_eq_true] at every
    obtain ⟨scope,owner⟩ := every
    have here : order.orderNo = strip orderNo ∧ order.tenantId = tenantId := by
      simpa [Filter.accepts] using scope
    refine ⟨listed,here.2,here.1,fun persistent => ?_⟩
    rw [if_pos persistent] at owner
    simpa [Filter.accepts] using owner
  · intro accessible
    refine ⟨accessible.listed,?_⟩
    rw [List.all_append,Bool.and_eq_true]
    refine ⟨by simp [Filter.accepts,accessible.number,accessible.tenant],?_⟩
    split_ifs with persistent
    · simp [Filter.accepts,accessible.owner persistent]
    · rfl

private theorem select_of_accessible {order : Order}
    (accessible : Accessible table tenantId (userId.getD []) (strip orderNo) order) :
    table.select (makeOrderScopeFilters orderNo tenantId userId) = [order] := by
  have only : ∀ other ∈ table.select (makeOrderScopeFilters orderNo tenantId userId), other = order := by
    intro other selected
    have same := (mem_select table orderNo tenantId userId other).mp selected
    exact List.inj_on_of_nodup_map table.unique same.listed accessible.listed
      (Prod.ext (same.tenant.trans accessible.tenant.symm) (same.number.trans accessible.number.symm))
  have once : (table.select (makeOrderScopeFilters orderNo tenantId userId)).Nodup :=
    (List.Nodup.of_map _ table.unique).filter _
  have member := (mem_select table orderNo tenantId userId order).mpr accessible
  rcases found : table.select (makeOrderScopeFilters orderNo tenantId userId) with _ | ⟨first,others⟩
  · rw [found] at member
    cases member
  · rw [found] at only once
    obtain ⟨apart,_⟩ := List.nodup_cons.mp once
    have head := only first List.mem_cons_self
    have rest : others = [] := List.eq_nil_iff_forall_not_mem.mpr (fun other listed =>
      apart (by rw [head,← only other (List.mem_cons_of_mem _ listed)]; exact listed))
    rw [head,rest]

private theorem select_of_none
    (none' : ∀ order, ¬Accessible table tenantId (userId.getD []) (strip orderNo) order) :
    table.select (makeOrderScopeFilters orderNo tenantId userId) = [] :=
  List.eq_nil_iff_forall_not_mem.mpr (fun order listed =>
    none' order ((mem_select table orderNo tenantId userId order).mp listed))

private theorem finds_iff (order : Order) :
    Finds table (strip orderNo) tenantId (normalizeUserId (userId.getD [])) .directQuery order ↔
      isOrderNo (strip orderNo) = true ∧ Accessible table tenantId (userId.getD []) (strip orderNo) order := by
  have kind := isAnonymous_normalizeUserId (userId.getD [])
  constructor
  · intro finds
    refine ⟨finds.1,finds.2.1.1,finds.2.1.2.1,finds.2.1.2.2,fun persistent => ?_⟩
    refine (finds.2.2.resolve_left (fun visitor => ?_)).2
    rw [kind,persistent] at visitor
    cases visitor.1
  · intro both
    obtain ⟨number,accessible⟩ := both
    refine ⟨number,⟨accessible.listed,accessible.tenant,accessible.number⟩,?_⟩
    rw [kind]
    by_cases persistent : isPersistentUser (userId.getD []) = true
    · exact Or.inr ⟨by rw [persistent]; rfl,accessible.owner persistent⟩
    · exact Or.inl ⟨by simpa using persistent,by decide⟩

private theorem granted_spec :
    (∃ order, granted (decideAccess table orderNo tenantId (userId.getD []) .directQuery) = [order] ∧
        isOrderNo (strip orderNo) = true ∧ Accessible table tenantId (userId.getD []) (strip orderNo) order) ∨
      granted (decideAccess table orderNo tenantId (userId.getD []) .directQuery) = [] ∧
        (isOrderNo (strip orderNo) = true →
          ∀ order, ¬Accessible table tenantId (userId.getD []) (strip orderNo) order) := by
  rw [← decideAccess_normalizeUserId]
  rcases decideAccess_spec table orderNo tenantId .directQuery
    (normalizeUserId_normalizeUserId (userId.getD [])) with ⟨order,decided,finds⟩ | ⟨⟨_,decided⟩,denied⟩
  · rw [decided]
    exact Or.inl ⟨order,rfl,(finds_iff table orderNo tenantId userId order).mp finds⟩
  · rw [decided]
    exact Or.inr ⟨rfl,fun number order accessible =>
      denied order ((finds_iff table orderNo tenantId userId order).mpr ⟨number,accessible⟩)⟩

/-- The query selects what the decision grants, unless it finds a row by a malformed number. -/
theorem scope_filters_iff :
    table.select (makeOrderScopeFilters orderNo tenantId userId) =
        granted (decideAccess table orderNo tenantId (userId.getD []) .directQuery) ↔
      isOrderNo (strip orderNo) = true ∨
        ∀ order, ¬Accessible table tenantId (userId.getD []) (strip orderNo) order := by
  rcases granted_spec table orderNo tenantId userId with ⟨order,decided,number,accessible⟩ | ⟨decided,denied⟩
  · rw [decided]
    exact iff_of_true (select_of_accessible table orderNo tenantId userId accessible) (Or.inl number)
  · rw [decided]
    constructor
    · intro nothing
      refine Or.inr (fun order accessible => ?_)
      rw [select_of_accessible table orderNo tenantId userId accessible] at nothing
      cases nothing
    · intro holds
      exact select_of_none table orderNo tenantId userId (holds.elim denied id)

/-- A number too short to be one, which the query finds and the decision denies. -/
def shortOrder : Order := { paidOrder with orderNo := "1234".toList }

theorem short_number_selected :
    let table : OrderTable := ⟨[shortOrder],List.nodup_singleton _⟩
    table.select (makeOrderScopeFilters "1234".toList "demo".toList none) = [shortOrder] ∧
      decideAccess table "1234".toList "demo".toList [] .directQuery = (false,some .malformedOrderNo,none) := by
  decide

end CustomerService.OrderAccess
