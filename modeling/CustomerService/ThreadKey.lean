import CustomerService.Text
import Mathlib.Data.List.Forall2

/-! Thread ids: tenant, user and session joined by colons. A colon inside a part is written
as an underscore, so that no part holds the separator. -/
namespace CustomerService.ThreadKey
open Text

structure Identity where
  tenantId : Text
  userId : Text
  sessionId : Text
deriving DecidableEq

/-- `(value or "").strip() or fallback`. -/
def orDefault (value fallback : Text) : Text := if strip value = [] then fallback else strip value

def replaceColon (text : Text) : Text := text.map (fun char => if char = ':' then '_' else char)

def threadPart (value fallback : Text) : Text := replaceColon (orDefault value fallback)

def makeThreadId (tenantId sessionId userId : Text) : Text :=
  threadPart tenantId "demo".toList ++ ':'::(threadPart userId "anonymous".toList ++
    ':'::threadPart sessionId "session".toList)

/-! What reaches `make_thread_id` from a request. -/

def isTenantChar (char : Char) : Bool :=
  inRange 0x61 0x7a char || inRange 0x41 0x5a char || inRange 0x30 0x39 char || char == '_' || char == '-'

def isTenantId (value : Text) : Bool :=
  decide (1 ≤ value.length) && decide (value.length ≤ 64) && value.all isTenantChar

/-- `normalize_tenant_id`; none for an illegal id, which the API answers with 400. -/
def normalizeTenantId (raw defaultTenant : Text) : Option Text :=
  if isTenantId (orDefault raw defaultTenant) then some (orDefault raw defaultTenant) else none

def resolveRequestUser : List Text → Text
  | [] => "anonymous".toList
  | raw::rest => if strip raw = [] then resolveRequestUser rest else strip raw

/-- The headers and the body of a chat request; absent fields are empty. -/
structure Request where
  tenantHeader : Text
  userHeader : Text
  userId : Text
  sessionId : Text

/-- The identity of a `ChatTurn`; a request without a session gets a fresh id. -/
def chatTurn (defaultTenant freshId : Text) (request : Request) : Option Identity :=
  (normalizeTenantId request.tenantHeader defaultTenant).map (fun tenant =>
    { tenantId := tenant
      userId := orDefault (resolveRequestUser [request.userHeader,request.userId]) "anonymous".toList
      sessionId := orDefault request.sessionId freshId })

def Identity.threadId (identity : Identity) : Text :=
  makeThreadId identity.tenantId identity.sessionId identity.userId

def Identity.normalized (identity : Identity) : Identity where
  tenantId := orDefault identity.tenantId "demo".toList
  userId := orDefault identity.userId "anonymous".toList
  sessionId := orDefault identity.sessionId "session".toList

/-! Parts. -/

theorem colon_notMem_replaceColon (text : Text) : ':' ∉ replaceColon text := by
  intro member
  obtain ⟨char,_,same⟩ := List.mem_map.mp member
  split_ifs at same with colon
  · cases same
  · exact colon same

def Twin (first second : Char) : Prop :=
  first = second ∨ first = ':' ∧ second = '_' ∨ first = '_' ∧ second = ':'

private theorem underscored_eq_iff (first second : Char) :
    (if first = ':' then '_' else first) = (if second = ':' then '_' else second) ↔
      Twin first second := by
  unfold Twin
  split_ifs with left right right
  · simp [left,right]
  · subst left
    simp [right,eq_comm]
  · subst right
    simp [left]
  · simp [left,right]

private theorem replaceColon_eq_iff (first second : Text) :
    replaceColon first = replaceColon second ↔ List.Forall₂ Twin first second := by
  unfold replaceColon
  rw [← List.forall₂_eq_eq_eq,List.forall₂_map_left_iff,List.forall₂_map_right_iff]
  constructor
  · exact List.Forall₂.imp (fun left right => (underscored_eq_iff left right).mp)
  · exact List.Forall₂.imp (fun left right => (underscored_eq_iff left right).mpr)

theorem split_at_first {separator : Char} {first second rest rest' : Text}
    (absent : separator ∉ first) (absent' : separator ∉ second) :
    first ++ separator::rest = second ++ separator::rest' ↔ first = second ∧ rest = rest' := by
  induction first generalizing second with
  | nil =>
    cases second with
    | nil => simp
    | cons head tail =>
      have other : separator ≠ head := fun same => absent' (by simp [same])
      simp [other]
  | cons char first ih =>
    cases second with
    | nil =>
      have other : char ≠ separator := fun same => absent (by simp [same])
      simp [other]
    | cons head tail =>
      have next := @ih tail (fun member => absent (List.mem_cons_of_mem _ member))
        (fun member => absent' (List.mem_cons_of_mem _ member))
      simp only [List.cons_append,List.cons.injEq,next,and_assoc]

private theorem isTenantChar_plain {char : Char} (fits : isTenantChar char = true) :
    char ≠ ':' ∧ isSpace char = false := by
  constructor
  · rintro rfl
    exact absurd fits (by decide)
  · simp only [isTenantChar,inRange,Bool.or_eq_true,Bool.and_eq_true,decide_eq_true_eq,
      beq_iff_eq] at fits
    have bounds : 0x2d ≤ char.toNat ∧ char.toNat ≤ 0x7a := by
      rcases fits with (((fits | fits) | fits) | rfl) | rfl
      · omega
      · omega
      · omega
      · decide
      · decide
    simp only [isSpace,inRange,Bool.or_eq_false_iff,Bool.and_eq_false_iff,
      decide_eq_false_iff_not,beq_eq_false_iff_ne]
    omega

theorem isTenantId_plain {tenantId : Text} (valid : isTenantId tenantId = true) :
    tenantId ≠ [] ∧ ':' ∉ tenantId ∧ strip tenantId = tenantId := by
  simp only [isTenantId,Bool.and_eq_true,decide_eq_true_eq,List.all_eq_true] at valid
  have plain (char : Char) (inside : char ∈ tenantId) := isTenantChar_plain (valid.2 char inside)
  have unspaced (text : Text) (within : ∀ char ∈ text, char ∈ tenantId) : heads isSpace text = false := by
    cases text with
    | nil => rfl
    | cons char rest => exact (plain char (within char List.mem_cons_self)).2
  refine ⟨?_,fun inside => (plain ':' inside).1 rfl,strip_of_tight ⟨?_,?_⟩⟩
  · rintro rfl
    simp at valid
  · exact unspaced tenantId (fun _ inside => inside)
  · exact unspaced tenantId.reverse (fun _ inside => List.mem_reverse.mp inside)

theorem makeThreadId_tenant {tenant tenant' session session' user user' : Text}
    (valid : isTenantId tenant = true) (valid' : isTenantId tenant' = true)
    (same : makeThreadId tenant session user = makeThreadId tenant' session' user') :
    tenant = tenant' := by
  have own {text : Text} (valid : isTenantId text = true) : threadPart text "demo".toList = text := by
    obtain ⟨some',colon,tight⟩ := isTenantId_plain valid
    rw [threadPart,orDefault,tight,if_neg some',replaceColon]
    refine (List.map_congr_left (g := id) (fun char inside => ?_)).trans (List.map_id text)
    exact if_neg (fun (here : char = ':') => colon (here ▸ inside))
  have parts := ((split_at_first (colon_notMem_replaceColon _) (colon_notMem_replaceColon _)).mp same).1
  change threadPart tenant "demo".toList = threadPart tenant' "demo".toList at parts
  rwa [own valid,own valid'] at parts

private theorem threadId_eq_iff (first second : Identity) :
    first.threadId = second.threadId ↔
      List.Forall₂ Twin first.normalized.tenantId second.normalized.tenantId ∧
      List.Forall₂ Twin first.normalized.userId second.normalized.userId ∧
      List.Forall₂ Twin first.normalized.sessionId second.normalized.sessionId := by
  simp only [Identity.threadId,makeThreadId,threadPart]
  rw [split_at_first (colon_notMem_replaceColon _) (colon_notMem_replaceColon _),
    split_at_first (colon_notMem_replaceColon _) (colon_notMem_replaceColon _),
    replaceColon_eq_iff,replaceColon_eq_iff,replaceColon_eq_iff]
  rfl

/-- The two triples differ, but nowhere else than where one has a colon and the other an
underscore. -/
def ColonTwins (first second : Identity) : Prop :=
  first.normalized ≠ second.normalized ∧
    List.Forall₂ Twin first.normalized.tenantId second.normalized.tenantId ∧
    List.Forall₂ Twin first.normalized.userId second.normalized.userId ∧
    List.Forall₂ Twin first.normalized.sessionId second.normalized.sessionId

/-- Two triples share a thread id only when they are equal, unless they are colon twins. -/
theorem thread_ids_injective_iff (first second : Identity) :
    (first.threadId = second.threadId → first.normalized = second.normalized) ↔
      ¬ColonTwins first second := by
  rw [threadId_eq_iff,ColonTwins,not_and_or,not_not,or_comm,imp_iff_not_or]

/-- Two users of one tenant whom the API accepts share the session of the same name. -/
theorem colon_twins_share_a_thread :
    ¬∀ (defaultTenant freshId freshId' : Text) (request request' : Request)
      (first second : Identity), chatTurn defaultTenant freshId request = some first →
        chatTurn defaultTenant freshId' request' = some second →
          first.threadId = second.threadId → first.normalized = second.normalized := by
  intro law
  have same := law "demo".toList [] [] ⟨"demo".toList,[],"team:ann".toList,"s1".toList⟩
    ⟨"demo".toList,[],"team_ann".toList,"s1".toList⟩
    ⟨"demo".toList,"team:ann".toList,"s1".toList⟩ ⟨"demo".toList,"team_ann".toList,"s1".toList⟩
    (by decide) (by decide) (by decide)
  exact absurd same (by decide)

end CustomerService.ThreadKey
