import CustomerService.ChatSlots

/-! What the stores of chat slots are for: a book of the leases that were granted
and not released. Both stores are related to the book after every run. -/
namespace CustomerService.ChatSlots
open Lease (running unexpired Records)

inductive Call
  | acquire (args : AcquireArgs)
  | release (tenantId token : String)
  | inFlight
  deriving DecidableEq

structure Event where
  now : ℚ
  call : Call
  deriving DecidableEq

inductive Answer
  | granted (token : String)
  | busy (reason : BusyReason)
  | released
  | count (slots : Nat)
  deriving DecidableEq

def Answer.ofAcquire : Except BusyReason String → Answer
  | .ok token => .granted token
  | .error reason => .busy reason

variable {Store : Type}

def ChatSlotStore.machine (slots : ChatSlotStore Store) : Machine Store Event Answer where
  initial := slots.init
  step := fun store event =>
    match event.call with
    | .acquire args =>
      (Answer.ofAcquire (slots.acquire store args event.now).1,
        (slots.acquire store args event.now).2)
    | .release tenantId token => (.released,slots.release store tenantId token)
    | .inFlight =>
      (.count (slots.inFlight store event.now).1,(slots.inFlight store event.now).2)

def Call.token? : Call → Option String
  | .acquire args => some args.token
  | _ => none

/-- A release of the acquired token names the tenant it is acquired for. -/
def Call.SameTenant : Call → Call → Prop
  | .acquire args, .release tenantId token => token = args.token → tenantId = args.tenantId
  | _, _ => True

instance : DecidableRel Call.SameTenant
  | .acquire args, .release tenantId token =>
    inferInstanceAs (Decidable (token = args.token → tenantId = args.tenantId))
  | .acquire _, .acquire _ | .acquire _, .inFlight => .isTrue trivial
  | .release _ _, _ | .inFlight, _ => .isTrue trivial

/-- The clock does not go back, no token is drawn twice, and a release names the
tenant its token is acquired for. -/
structure WellFormed (events : List Event) : Prop where
  clock : events.Pairwise (fun earlier later => earlier.now ≤ later.now)
  tokens : (events.filterMap (fun event => event.call.token?)).Nodup
  tenant : ∀ acquired ∈ events, ∀ released ∈ events, acquired.call.SameTenant released.call

instance (events : List Event) : Decidable (WellFormed events) :=
  decidable_of_iff _ ⟨fun parts => ⟨parts.1,parts.2.1,parts.2.2⟩,
    fun whole => And.intro whole.clock (And.intro whole.tokens whole.tenant)⟩

theorem WellFormed.closed (past : List Event) (event : Event)
    (whole : WellFormed (past ++ [event])) : WellFormed past where
  clock := (List.pairwise_append.mp whole.clock).1
  tokens := by
    have all := whole.tokens
    rw [List.filterMap_append] at all
    exact (List.nodup_append.mp all).1
  tenant := fun acquired before released after =>
    whole.tenant acquired (List.mem_append_left _ before) released (List.mem_append_left _ after)

theorem WellFormed.now_le {past : List Event} {event : Event}
    (whole : WellFormed (past ++ [event])) : ∀ earlier ∈ past, earlier.now ≤ event.now :=
  fun earlier before =>
    (List.pairwise_append.mp whole.clock).2.2 earlier before event (List.mem_singleton_self _)

theorem WellFormed.fresh {past : List Event} {now : ℚ} {args : AcquireArgs}
    (whole : WellFormed (past ++ [⟨now,.acquire args⟩])) :
    ∀ earlier ∈ past, earlier.call.token? ≠ some args.token := by
  intro earlier before drawn
  have all := whole.tokens
  rw [List.filterMap_append] at all
  refine (List.nodup_append.mp all).2.2 args.token ?_ args.token (by simp [Call.token?]) rfl
  exact List.mem_filterMap.mpr ⟨earlier,before,drawn⟩

/-! The book: who holds each token, until when. -/
abbrev SlotBook := Dict String (Lease String ℚ)

namespace SlotBook

def inUse (book : SlotBook) (now : ℚ) : Nat := (running (fun _ => True) now book).size

def inUseBy (book : SlotBook) (tenantId : String) (now : ℚ) : Nat :=
  (running (· = tenantId) now book).size

def acquire (book : SlotBook) (args : AcquireArgs) (now : ℚ) :
    Except BusyReason String × SlotBook :=
  if args.globalLimit ≤ book.inUse now then (.error .cluster,book)
  else if args.tenantLimit ≤ book.inUseBy args.tenantId now then (.error .tenant,book)
  else (.ok args.token,book.set args.token ⟨args.tenantId,args.expireAt now⟩)

end SlotBook

def slotBook : ChatSlotStore SlotBook where
  init := ∅
  acquire := SlotBook.acquire
  release := fun book _ token => book.erase token
  inFlight := fun book now => (book.inUse now,book)

/-- A lease of the book is one that an earlier acquire asked for. -/
def Granted (past : List Event) (book : SlotBook) : Prop :=
  ∀ token lease, book.get? token = some lease → ∃ event ∈ past, ∃ args,
    event.call = .acquire args ∧ args.token = token ∧ args.tenantId = lease.holder

theorem Granted.more {past : List Event} {book : SlotBook} (granted : Granted past book)
    (event : Event) : Granted (past ++ [event]) book := by
  intro token lease found
  obtain ⟨earlier,before,rest⟩ := granted token lease found
  exact ⟨earlier,List.mem_append_left _ before,rest⟩

theorem Granted.step {past : List Event} {book : SlotBook} (granted : Granted past book)
    (event : Event) : Granted (past ++ [event]) (slotBook.machine.step book event).2 := by
  obtain ⟨now,call⟩ := event
  have kept := granted.more ⟨now,call⟩
  cases call with
  | acquire args =>
    simp only [ChatSlotStore.machine,slotBook,SlotBook.acquire]
    split
    · exact kept
    split
    · exact kept
    · intro token lease found
      rw [Dict.get?_set] at found
      split at found
      · rename_i same
        cases found
        exact ⟨_,List.mem_append_right _ (List.mem_singleton_self _),args,rfl,same.symm,rfl⟩
      · exact kept token lease found
  | release tenantId token =>
    intro other lease found
    simp only [ChatSlotStore.machine,slotBook,Dict.get?_erase] at found
    split at found
    · cases found
    · exact kept other lease found
  | inFlight => exact kept

theorem Granted.fresh {past : List Event} {book : SlotBook} (granted : Granted past book)
    {now : ℚ} {args : AcquireArgs} (whole : WellFormed (past ++ [⟨now,.acquire args⟩])) :
    book.get? args.token = none := by
  rw [Option.eq_none_iff_forall_ne_some]
  intro lease found
  obtain ⟨earlier,before,other,asked,same,_⟩ := granted _ _ found
  apply whole.fresh earlier before
  rw [asked,Call.token?,same]

theorem Granted.tenant {past : List Event} {book : SlotBook} (granted : Granted past book)
    {now : ℚ} {tenantId token : String}
    (whole : WellFormed (past ++ [⟨now,.release tenantId token⟩])) {lease : Lease String ℚ}
    (found : book.get? token = some lease) : lease.holder = tenantId := by
  obtain ⟨earlier,before,args,asked,same,owner⟩ := granted _ _ found
  have names := whole.tenant earlier (List.mem_append_left _ before) _
    (List.mem_append_right _ (List.mem_singleton_self _))
  rw [asked] at names
  rw [← owner]
  exact (names same.symm).symm

/-- The two kinds of sets a store keeps its tokens in. -/
structure SlotSets (Store : Type) where
  global : Store → Expiries
  tenant : Store → String → Expiries

structure Tracks (sets : SlotSets Store) (now : ℚ) (book : SlotBook) (store : Store) : Prop where
  global : Records (fun _ => True) now book (sets.global store)
  tenant : ∀ tenantId, Records (· = tenantId) now book (sets.tenant store tenantId)

theorem Tracks.later {sets : SlotSets Store} {now moment : ℚ} {book : SlotBook} {store : Store}
    (tracks : Tracks sets now book store) (order : now ≤ moment) :
    Tracks sets moment book store :=
  ⟨tracks.global.later order,fun tenantId => (tracks.tenant tenantId).later order⟩

/-- How a store follows the book. Beside what its sets record it may keep a tidiness
of its own, which the book knows nothing of. -/
structure Follows (slots : ChatSlotStore Store) (sets : SlotSets Store)
    (tidy : SlotBook → Store → Prop) : Prop where
  init : tidy ∅ slots.init ∧ ∀ now, Tracks sets now ∅ slots.init
  acquire : ∀ {now book store} (args : AcquireArgs), Tracks sets now book store → tidy book store →
    book.get? args.token = none →
      (slots.acquire store args now).1 = (book.acquire args now).1 ∧
        Tracks sets now (book.acquire args now).2 (slots.acquire store args now).2 ∧
        tidy (book.acquire args now).2 (slots.acquire store args now).2
  release : ∀ {now book store} (tenantId token : String), Tracks sets now book store →
    tidy book store → (∀ lease, book.get? token = some lease → lease.holder = tenantId) →
      Tracks sets now (book.erase token) (slots.release store tenantId token) ∧
        tidy (book.erase token) (slots.release store tenantId token)
  inFlight : ∀ {now book store}, Tracks sets now book store → tidy book store →
    (slots.inFlight store now).1 = book.inUse now ∧
      Tracks sets now book (slots.inFlight store now).2 ∧ tidy book (slots.inFlight store now).2

section Following

variable {slots : ChatSlotStore Store} {sets : SlotSets Store} {tidy : SlotBook → Store → Prop}

structure Related (sets : SlotSets Store) (tidy : SlotBook → Store → Prop) (past : List Event)
    (store : Store) (book : SlotBook) : Prop where
  granted : Granted past book
  tracks : ∀ moment, (∀ event ∈ past, event.now ≤ moment) → Tracks sets moment book store
  tidy : tidy book store

theorem Follows.step (follows : Follows slots sets tidy) (past : List Event) (event : Event)
    (store : Store) (book : SlotBook) (whole : WellFormed (past ++ [event]))
    (related : Related sets tidy past store book) :
    (slots.machine.step store event).1 = (slotBook.machine.step book event).1 ∧
      Related sets tidy (past ++ [event]) (slots.machine.step store event).2
        (slotBook.machine.step book event).2 := by
  have granted := related.granted.step event
  have before := related.tracks event.now whole.now_le
  suffices found : (slots.machine.step store event).1 = (slotBook.machine.step book event).1 ∧
      Tracks sets event.now (slotBook.machine.step book event).2
        (slots.machine.step store event).2 ∧
      tidy (slotBook.machine.step book event).2 (slots.machine.step store event).2 by
    refine ⟨found.1,granted,fun moment after => ?_,found.2.2⟩
    exact found.2.1.later (after event (List.mem_append_right _ (List.mem_singleton_self _)))
  obtain ⟨now,call⟩ := event
  cases call with
  | acquire args =>
    obtain ⟨same,tracks,kept⟩ := follows.acquire args before related.tidy (related.granted.fresh whole)
    exact ⟨congrArg Answer.ofAcquire same,tracks,kept⟩
  | release tenantId token =>
    exact ⟨rfl,follows.release tenantId token before related.tidy
      (fun _ found => related.granted.tenant whole found)⟩
  | inFlight =>
    obtain ⟨same,tracks,kept⟩ := follows.inFlight before related.tidy
    exact ⟨congrArg Answer.count same,tracks,kept⟩

theorem Follows.run (follows : Follows slots sets tidy) {events : List Event}
    (whole : WellFormed events) :
    slots.machine.answers events = slotBook.machine.answers events ∧
      Related sets tidy events (slots.machine.after events) (slotBook.machine.after events) := by
  refine slots.machine.lockstep slotBook.machine WellFormed.closed ?_ follows.step whole
  refine ⟨?_,fun moment _ => follows.init.2 moment,follows.init.1⟩
  intro token lease found
  cases found

end Following

end CustomerService.ChatSlots
