import CustomerService.ChatSlotCapacity
import CustomerService.ChatSlotEntries
import CustomerService.Transition

/-! One call of `achat` or `achat_stream`: its coroutine with the points where it is suspended,
the jobs it hands to the thread pool, and the slot store that it shares with other calls. -/
namespace CustomerService.ChatSlots
open Transition

inductive Entry
  | achat
  | achatStream
  deriving DecidableEq

/-- What a call raises: `ChatBusyError`, an error of the Redis client, the `RuntimeError` of a
graph without a result, the two ways of being stopped, and anything else. -/
inductive Failure
  | chatBusy (reason : BusyReason)
  | connection
  | noResult
  | cancelled
  | generatorExit
  | other
  deriving DecidableEq

/-- Of a script sent to Redis: it is answered, it never runs, or it runs and its answer is lost. -/
inductive Fate
  | answered
  | unsent
  | unanswered
  deriving DecidableEq

structure Draw where
  now : ℚ
  token : String
  fate : Fate
  deriving DecidableEq

section Calls

variable {Store : Type} (slots : ChatSlotStore Store) (degraded : Bool) (settings : Settings)
variable (tenantId : String)

/-- The process' own store is not reached through a network. -/
def fateOf (fate : Fate) : Fate := if degraded then .answered else fate

def occupy (store : Store) (draw : Draw) : Except Failure String × Store :=
  let acquired := slots.acquire store (settings.occupyArgs tenantId draw.token) draw.now
  match fateOf degraded draw.fate with
  | .answered => (acquired.1.mapError .chatBusy,acquired.2)
  | .unsent => (.error .connection,store)
  | .unanswered => (.error .connection,acquired.2)

/-- The lease that the store gives, whether or not the caller is told. -/
def leases (store : Store) (draw : Draw) : List String :=
  if fateOf degraded draw.fate = .unsent then []
  else
    match (slots.acquire store (settings.occupyArgs tenantId draw.token) draw.now).1 with
    | .ok token => [token]
    | .error _ => []

def vacate (store : Store) (token : String) (fate : Fate) : Store :=
  if token = "" then store
  else
    match fateOf degraded fate with
    | .unsent => store
    | .answered | .unanswered => slots.release store tenantId token

end Calls

/-! ### The coroutine -/

inductive Job (Reply : Type)
  | queued
  | running
  | finished (reply : Reply)

inductive Work
  | occupy
  | vacate (token : String)
  deriving DecidableEq

structure Orphan where
  work : Work
  running : Bool
  deriving DecidableEq

/-- Where the coroutine is. It is suspended while it waits for a job and between the events of
`chat_astream`; elsewhere it runs on. -/
inductive Point
  | entry
  | occupying (job : Job (Except Failure String))
  | seated (token : String)
  | chatting (token : String) (last : Bool)
  | leaving (token : String) (outcome : Except Failure Unit)
  | vacating (token : String) (outcome : Except Failure Unit) (job : Job Unit)
  | vacated (outcome : Except Failure Unit)
  | ended (outcome : Except Failure Unit)

structure CallState (Store : Type) where
  store : Store
  point : Point
  orphans : List Orphan
  /-- The tokens of the leases that the store has given this call. -/
  granted : List String
  /-- The tokens drawn so far, by any call. -/
  drawn : List String

/-- What `chat_astream` does next; `valid` says that `ChatResponse` accepts the data. -/
inductive ChatEvent
  | event (name : String) (valid : Bool)
  | exhausted
  | raises (failure : Failure)

inductive Action
  | enter (draw : Draw)
  | start
  | work (draw : Draw)
  | resume
  | cancel
  | flush (fails : Bool)
  | chat (event : ChatEvent)
  | leave (fate : Fate)
  | orphanStarts (index : Nat)
  | orphanDropped (index : Nat)
  | orphanWorks (index : Nat) (draw : Draw)
  | elsewhere (now : ℚ) (call : Call)

/-- The call goes on with what `_occupy` returned or raised. -/
def seat : Except Failure String → Point
  | .ok token => .seated token
  | .error failure => .ended (.error failure)

def Job.orphan {Reply : Type} (work : Work) : Job Reply → List Orphan
  | .queued => [⟨work,false⟩]
  | .running => [⟨work,true⟩]
  | .finished _ => []

/-- The body of the `try`. -/
def Entry.receive (token : String) (last : Bool) : Entry → ChatEvent → Point
  | _,.raises failure => .leaving token (.error failure)
  | .achat,.event name valid =>
    if name = "done" then if valid then .chatting token true else .leaving token (.error .other)
    else .chatting token last
  | .achat,.exhausted => .leaving token (if last then .ok () else .error .noResult)
  | .achatStream,.event _ _ => .chatting token last
  | .achatStream,.exhausted => .leaving token (.ok ())

section Steps

variable {Store : Type} (slots : ChatSlotStore Store) (degraded : Bool) (settings : Settings)
variable (tenantId : String) (entry : Entry)

def start : CallState Store where
  store := slots.init
  point := .entry
  orphans := []
  granted := []
  drawn := []

/-- The state after `_occupy` has run, in the call or in a thread. -/
def CallState.occupied (state : CallState Store) (draw : Draw) : CallState Store where
  store := (occupy slots degraded settings tenantId state.store draw).2
  point := state.point
  orphans := state.orphans
  granted := leases slots degraded settings tenantId state.store draw ++ state.granted
  drawn := draw.token :: state.drawn

def CallState.vacated (state : CallState Store) (token : String) (fate : Fate) : CallState Store :=
  { state with store := vacate slots degraded tenantId state.store token fate }

def elsewhere (store : Store) (now : ℚ) : Call → Store
  | .acquire args => (slots.acquire store args now).2
  | .release owner token => slots.release store owner token
  | .inFlight => (slots.inFlight store now).2

def step (state : CallState Store) : Action → CallState Store
  | .enter draw =>
    match state.point with
    | .entry =>
      if degraded then
        { state.occupied slots degraded settings tenantId draw with
          point := seat (occupy slots degraded settings tenantId state.store draw).1 }
      else { state with point := .occupying .queued }
    | _ => state
  | .start =>
    match state.point with
    | .occupying .queued => { state with point := .occupying .running }
    | .vacating token outcome .queued => { state with point := .vacating token outcome .running }
    | _ => state
  | .work draw =>
    match state.point with
    | .occupying .running =>
      { state.occupied slots degraded settings tenantId draw with
        point := .occupying (.finished (occupy slots degraded settings tenantId state.store draw).1) }
    | .vacating token outcome .running =>
      { state.vacated slots degraded tenantId token draw.fate with
        point := .vacating token outcome (.finished ()) }
    | _ => state
  | .resume =>
    match state.point with
    | .occupying (.finished reply) => { state with point := seat reply }
    | .vacating _ outcome (.finished ()) => { state with point := .vacated outcome }
    | _ => state
  | .cancel =>
    match state.point with
    | .entry => { state with point := .ended (.error .cancelled) }
    | .occupying job =>
      { state with point := .ended (.error .cancelled), orphans := job.orphan .occupy ++ state.orphans }
    | .vacating token _ job =>
      { state with
        point := .ended (.error .cancelled), orphans := job.orphan (.vacate token) ++ state.orphans }
    | _ => state
  | .flush fails =>
    match state.point with
    | .seated token =>
      { state with point := if fails then .ended (.error .other) else .chatting token false }
    | .vacated outcome => { state with point := .ended (if fails then .error .other else outcome) }
    | _ => state
  | .chat event =>
    match state.point with
    | .chatting token last => { state with point := entry.receive token last event }
    | _ => state
  | .leave fate =>
    match state.point with
    | .leaving token outcome =>
      if degraded then
        { state.vacated slots degraded tenantId token fate with point := .vacated outcome }
      else { state with point := .vacating token outcome .queued }
    | _ => state
  | .orphanStarts index =>
    { state with orphans := state.orphans.modify index (fun orphan => { orphan with running := true }) }
  | .orphanDropped index =>
    match state.orphans[index]? with
    | some ⟨_,false⟩ => { state with orphans := state.orphans.eraseIdx index }
    | _ => state
  | .orphanWorks index draw =>
    match state.orphans[index]? with
    | some ⟨.occupy,true⟩ =>
      { state.occupied slots degraded settings tenantId draw with
        orphans := state.orphans.eraseIdx index }
    | some ⟨.vacate token,true⟩ =>
      { state.vacated slots degraded tenantId token draw.fate with
        orphans := state.orphans.eraseIdx index }
    | _ => state
  | .elsewhere now call =>
    { state with
      store := elsewhere slots state.store now call, drawn := call.token?.toList ++ state.drawn }

/-! ### The property and its condition -/

def Point.isEnded : Point → Bool
  | .ended _ => true
  | _ => false

def CallState.settled (state : CallState Store) : Bool := state.point.isEnded && state.orphans.isEmpty

def CallState.Cleared (sets : SlotSets Store) (state : CallState Store) : Prop :=
  ∀ token ∈ state.granted, ∀ place, sets.Absent state.store place token

/-- `uuid4` draws a token that was never drawn. -/
def fresh (state : CallState Store) : Action → Bool
  | .enter draw | .work draw | .orphanWorks _ draw =>
    !state.drawn.contains draw.token && draw.token != ""
  | .elsewhere _ (.acquire args) => !state.drawn.contains args.token
  | _ => true

/-- The call is not cancelled between the moment its thread has the slot and the moment it
resumes; what a cancelled call left in the pool gets no slot, and is not dropped when it is a
release; no answer of an acquisition and no release is lost; the metrics can be flushed. -/
def undisturbed (state : CallState Store) : Action → Bool
  | .cancel =>
    match state.point with
    | .occupying (.finished (.ok _)) => false
    | _ => true
  | .work draw =>
    match state.point with
    | .occupying .running =>
      draw.fate != .unanswered || (leases slots degraded settings tenantId state.store draw).isEmpty
    | .vacating _ _ .running => draw.fate != .unsent
    | _ => true
  | .flush fails =>
    match state.point with
    | .seated _ => !fails
    | _ => true
  | .orphanDropped index =>
    match state.orphans[index]? with
    | some ⟨.vacate _,false⟩ => false
    | _ => true
  | .orphanWorks index draw =>
    match state.orphans[index]? with
    | some ⟨.occupy,true⟩ => (leases slots degraded settings tenantId state.store draw).isEmpty
    | some ⟨.vacate _,true⟩ => draw.fate != .unsent
    | _ => true
  | _ => true

end Steps

/-! ### The leases that are owed -/

/-- The token that the call still has to give back, if it goes on as it should. -/
def Point.token? : Point → Option String
  | .occupying (.finished (.ok token)) => some token
  | .seated token => some token
  | .chatting token _ => some token
  | .leaving token _ => some token
  | .vacating token _ .queued => some token
  | .vacating token _ .running => some token
  | _ => none

def Owes (point : Point) (orphans : List Orphan) (token : String) : Prop :=
  point.token? = some token ∨ ∃ orphan ∈ orphans, orphan.work = .vacate token

theorem seat_token? (reply : Except Failure String) : (seat reply).token? = reply.toOption := by
  cases reply <;> rfl

theorem finished_token? (reply : Except Failure String) :
    (Point.occupying (.finished reply)).token? = reply.toOption := by
  cases reply <;> rfl

theorem receive_token? (token : String) (last : Bool) (entry : Entry) (event : ChatEvent) :
    (entry.receive token last event).token? = some token := by
  cases event with
  | raises failure => rfl
  | exhausted => cases entry <;> rfl
  | event name valid =>
    cases entry with
    | achatStream => rfl
    | achat =>
      by_cases named : name = "done"
      · cases valid <;> simp [Entry.receive,named,Point.token?]
      · simp [Entry.receive,named,Point.token?]

theorem Owes.moved {point point' : Point} {orphans : List Orphan} {token : String}
    (owed : Owes point orphans token) (same : point.token? = some token → point'.token? = some token) :
    Owes point' orphans token :=
  owed.imp_left same

theorem Owes.erased {point : Point} {orphans : List Orphan} {token : String} {index : Nat}
    {orphan : Orphan} (owed : Owes point orphans token) (found : orphans[index]? = some orphan)
    (apart : orphan.work ≠ .vacate token) : Owes point (orphans.eraseIdx index) token := by
  refine owed.imp_right (fun left => ?_)
  obtain ⟨other,member,work⟩ := left
  obtain ⟨place,kept⟩ := List.getElem?_of_mem member
  refine ⟨other,List.mem_eraseIdx_iff_getElem?.mpr ⟨place,?_,kept⟩,work⟩
  intro same
  rw [same,found] at kept
  obtain rfl := Option.some.inj kept
  exact apart work

theorem Owes.started {point : Point} {orphans : List Orphan} {token : String}
    (owed : Owes point orphans token) (index : Nat) :
    Owes point (orphans.modify index (fun orphan => { orphan with running := true })) token := by
  refine owed.imp_right (fun left => ?_)
  obtain ⟨other,member,work⟩ := left
  obtain ⟨place,kept⟩ := List.getElem?_of_mem member
  have later : (orphans.modify index (fun orphan => { orphan with running := true }))[place]? =
      some (if index = place then { other with running := true } else other) := by
    rw [List.getElem?_modify,kept]
    split <;> rfl
  refine ⟨_,List.mem_of_getElem? later,?_⟩
  split <;> exact work

section Invariant

variable {Store : Type} {slots : ChatSlotStore Store} {sets : SlotSets Store} {degraded : Bool}
variable {settings : Settings} {tenantId : String} {entry : Entry}

/-- Whatever the call was granted it owes or the store has no entry of it; only drawn tokens have
entries, those of the call under its tenant. -/
structure Sound (sets : SlotSets Store) (tenantId : String) (owes : String → Prop) (store : Store)
    (granted drawn : List String) : Prop where
  stored : ∀ place, ∀ token ∉ drawn, sets.Absent store place token
  known : ∀ token ∈ granted, token ∈ drawn ∧ token ≠ ""
  own : ∀ token ∈ granted, ∀ place, place ≠ none → place ≠ some tenantId →
    sets.Absent store place token
  returned : ∀ token ∈ granted, owes token ∨ ∀ place, sets.Absent store place token

namespace Sound

variable {owes owes' : String → Prop} {store : Store} {granted drawn : List String}

theorem mono (sound : Sound sets tenantId owes store granted drawn)
    (more : ∀ token, owes token → owes' token) :
    Sound sets tenantId owes' store granted drawn where
  stored := sound.stored
  known := sound.known
  own := sound.own
  returned token member := (sound.returned token member).imp_left (more token)

theorem kept (sound : Sound sets tenantId owes store granted drawn) {later : Store}
    {drawn' : List String} (more : ∀ token ∈ drawn, token ∈ drawn')
    (keeps : ∀ place token, token ∈ granted ∨ token ∉ drawn' → sets.Absent store place token →
      sets.Absent later place token) :
    Sound sets tenantId owes later granted drawn' where
  stored place token new :=
    keeps place token (.inr new) (sound.stored place token (fun old => new (more token old)))
  known token member := ⟨more token (sound.known token member).1,(sound.known token member).2⟩
  own token member place all held :=
    keeps place token (.inl member) (sound.own token member place all held)
  returned token member := (sound.returned token member).imp_right
    (fun absent place => keeps place token (.inl member) (absent place))

end Sound

/-- What `_occupy` does to the entries: it adds none, or those of the lease it gets. -/
theorem occupy_entries (tended : Tended slots sets) (store : Store) (draw : Draw) :
    (leases slots degraded settings tenantId store draw = [] ∧
        ∀ place token, sets.Absent store place token →
          sets.Absent (occupy slots degraded settings tenantId store draw).2 place token) ∨
      leases slots degraded settings tenantId store draw = [draw.token] ∧
        ∀ place token, sets.Absent store place token →
          (token = draw.token → place ≠ none ∧ place ≠ some tenantId) →
          sets.Absent (occupy slots degraded settings tenantId store draw).2 place token := by
  have law := fun place token => @Tended.acquire _ _ _ tended store place token
    (settings.occupyArgs tenantId draw.token) draw.now
  unfold leases occupy
  cases fate : fateOf degraded draw.fate with
  | unsent => exact .inl ⟨rfl,fun _ _ absent => absent⟩
  | answered | unanswered =>
    cases answer : (slots.acquire store (settings.occupyArgs tenantId draw.token) draw.now).1 with
    | error reason =>
      refine .inl ⟨rfl,fun place token absent => law place token absent ?_⟩
      intro _ granted
      obtain ⟨_,ok⟩ := granted
      rw [answer] at ok
      cases ok
    | ok token =>
      obtain rfl := tended.granted _ _ answer
      exact .inr ⟨rfl,fun place token absent apart => law place token absent (fun same _ => apart same)⟩

private theorem occupy_answer (store : Store) (draw : Draw)
    (told : fateOf degraded draw.fate ≠ .unanswered ∨
      leases slots degraded settings tenantId store draw = []) :
    leases slots degraded settings tenantId store draw =
      (occupy slots degraded settings tenantId store draw).1.toOption.toList := by
  unfold leases occupy at *
  cases fate : fateOf degraded draw.fate with
  | unsent => rfl
  | answered =>
    cases answer : (slots.acquire store (settings.occupyArgs tenantId draw.token) draw.now).1 with
    | ok token => simp [answer,Except.mapError,Except.toOption]
    | error reason => simp [answer,Except.mapError,Except.toOption]
  | unanswered =>
    rw [fate] at told
    exact told.resolve_left (fun kept => kept rfl)

theorem Sound.occupied (tended : Tended slots sets) {owes : String → Prop} {store : Store}
    {granted drawn : List String} (sound : Sound sets tenantId owes store granted drawn)
    (draw : Draw) (new : draw.token ∉ drawn) (named : draw.token ≠ "") :
    Sound sets tenantId
      (fun token => owes token ∨ token ∈ leases slots degraded settings tenantId store draw)
      (occupy slots degraded settings tenantId store draw).2
      (leases slots degraded settings tenantId store draw ++ granted) (draw.token :: drawn) := by
  have more : ∀ token ∈ drawn, token ∈ draw.token :: drawn := fun _ => List.mem_cons_of_mem _
  cases @occupy_entries _ slots sets degraded settings tenantId tended store draw with
  | inl none =>
    rw [none.1]
    exact (sound.mono (fun _ => .inl)).kept more (fun place token _ => none.2 place token)
  | inr one =>
    obtain ⟨leased,keeps⟩ := one
    have before : Sound sets tenantId (fun token => owes token ∨ token ∈ [draw.token])
        (occupy slots degraded settings tenantId store draw).2 granted (draw.token :: drawn) := by
      refine (sound.mono (fun _ => .inl)).kept more (fun place token member absent => ?_)
      refine keeps place token absent (fun same => ?_)
      rw [same] at member
      cases member with
      | inl old => exact absurd (sound.known _ old).1 new
      | inr apart => exact absurd List.mem_cons_self apart
    rw [leased]
    constructor
    · exact before.stored
    · intro token member
      cases List.mem_cons.mp member with
      | inl same =>
        rw [same]
        exact ⟨List.mem_cons_self,named⟩
      | inr old => exact before.known token old
    · intro token member place all held
      cases List.mem_cons.mp member with
      | inl same =>
        rw [same]
        exact keeps place _ (sound.stored place _ new) (fun _ => ⟨all,held⟩)
      | inr old => exact before.own token old place all held
    · intro token member
      cases List.mem_cons.mp member with
      | inl same => exact .inl (.inr (List.mem_singleton.mpr same))
      | inr old => exact before.returned token old

theorem Sound.vacated (tended : Tended slots sets) {owes : String → Prop} {store : Store}
    {granted drawn : List String} (sound : Sound sets tenantId owes store granted drawn)
    (token : String) {fate : Fate} (sent : fateOf degraded fate ≠ .unsent) :
    Sound sets tenantId (fun other => owes other ∧ other ≠ token)
      (vacate slots degraded tenantId store token fate) granted drawn := by
  by_cases unnamed : token = ""
  · rw [vacate,if_pos unnamed]
    refine ⟨sound.stored,sound.known,sound.own,fun other member => ?_⟩
    refine (sound.returned other member).imp_left (fun owed => ⟨owed,fun same => ?_⟩)
    exact (sound.known other member).2 (same.trans unnamed)
  · have released : vacate slots degraded tenantId store token fate =
        slots.release store tenantId token := by
      rw [vacate,if_neg unnamed]
      cases kept : fateOf degraded fate with
      | unsent => exact absurd kept sent
      | answered => rfl
      | unanswered => rfl
    rw [released]
    have after : Sound sets tenantId owes (slots.release store tenantId token) granted drawn :=
      sound.kept (fun _ old => old) (fun _ _ _ => tended.release tenantId token)
    refine ⟨after.stored,after.known,after.own,fun other member => ?_⟩
    by_cases same : other = token
    · refine .inr (fun place => ?_)
      by_cases own : place = none ∨ place = some tenantId
      · rw [same]
        exact tended.released store tenantId token place own
      · exact after.own other member place (fun all => own (.inl all)) (fun held => own (.inr held))
    · exact (after.returned other member).imp_left (fun owed => ⟨owed,same⟩)

abbrev CallState.Sound (sets : SlotSets Store) (tenantId : String) (state : CallState Store) : Prop :=
  ChatSlots.Sound sets tenantId (Owes state.point state.orphans) state.store state.granted state.drawn

private theorem fateOf_ne {fate lost : Fate} (kept : fate ≠ lost) (silent : lost ≠ .answered) :
    fateOf degraded fate ≠ lost := by
  unfold fateOf
  split
  · exact silent.symm
  · exact kept

private theorem fresh_draw {drawn : List String} {draw : Draw}
    (new : (!drawn.contains draw.token && draw.token != "") = true) :
    draw.token ∉ drawn ∧ draw.token ≠ "" := by
  simpa using new

theorem CallState.Sound.cleared {state : CallState Store} (sound : state.Sound sets tenantId)
    (settled : state.settled = true) : state.Cleared sets := by
  obtain ⟨ended,none⟩ := Bool.and_eq_true_iff.mp settled
  intro token member
  refine (sound.returned token member).resolve_left (fun owed => ?_)
  cases owed with
  | inl held =>
    cases point : state.point with
    | ended => rw [point] at held; cases held
    | _ => rw [point] at ended; cases ended
  | inr left =>
    obtain ⟨orphan,member,_⟩ := left
    rw [List.isEmpty_iff.mp none] at member
    cases member

theorem CallState.Sound.occupying {state : CallState Store} (tended : Tended slots sets)
    (sound : state.Sound sets tenantId) (draw : Draw) {point : Point}
    (new : draw.token ∉ state.drawn ∧ draw.token ≠ "")
    (told : fateOf degraded draw.fate ≠ .unanswered ∨
      leases slots degraded settings tenantId state.store draw = [])
    (idle : state.point.token? = none)
    (reached : point.token? =
      (occupy slots degraded settings tenantId state.store draw).1.toOption) :
    CallState.Sound sets tenantId
      { state.occupied slots degraded settings tenantId draw with point := point } := by
  refine (Sound.occupied tended sound draw new.1 new.2).mono (fun token owed => ?_)
  cases owed with
  | inl old =>
    refine old.moved (fun held => ?_)
    rw [idle] at held
    cases held
  | inr leased =>
    refine .inl ?_
    rw [occupy_answer state.store draw told,Option.mem_toList] at leased
    rw [reached]
    exact leased

theorem CallState.Sound.reach {state : CallState Store} (sound : state.Sound sets tenantId)
    {point : Point}
    (same : ∀ token, state.point.token? = some token → point.token? = some token) :
    CallState.Sound sets tenantId { state with point := point } :=
  sound.mono (fun token owed => owed.moved (same token))

theorem sound_start (tended : Tended slots sets) : (start slots).Sound sets tenantId where
  stored place token _ := tended.init place token
  known := nofun
  own := nofun
  returned := nofun

private theorem sound_cancel {state : CallState Store} (sound : state.Sound sets tenantId)
    (calm : undisturbed slots degraded settings tenantId state .cancel = true) :
    (step slots degraded settings tenantId entry state .cancel).Sound sets tenantId := by
  dsimp only [step]
  dsimp only [undisturbed] at calm
  split
  · rename_i here
    apply sound.reach
    rw [here]
    nofun
  · rename_i job here
    refine sound.mono (fun token owed => ?_)
    cases owed with
    | inl held =>
      rw [here] at held calm
      cases job with
      | queued => cases held
      | running => cases held
      | finished reply =>
        cases reply with
        | ok seat => cases calm
        | error failure => cases held
    | inr left =>
      obtain ⟨orphan,member,work⟩ := left
      exact .inr ⟨orphan,List.mem_append_right _ member,work⟩
  · rename_i token outcome job here
    refine sound.mono (fun other owed => ?_)
    cases owed with
    | inl held =>
      rw [here] at held
      cases job with
      | queued =>
        obtain rfl := Option.some.inj held
        exact .inr ⟨_,List.mem_append_left _ (List.mem_singleton_self _),rfl⟩
      | running =>
        obtain rfl := Option.some.inj held
        exact .inr ⟨_,List.mem_append_left _ (List.mem_singleton_self _),rfl⟩
      | finished reply => cases held
    | inr left =>
      obtain ⟨orphan,member,work⟩ := left
      exact .inr ⟨orphan,List.mem_append_right _ member,work⟩
  · exact sound

private theorem sound_work (tended : Tended slots sets) {state : CallState Store}
    (sound : state.Sound sets tenantId) (draw : Draw) (new : fresh state (.work draw) = true)
    (calm : undisturbed slots degraded settings tenantId state (.work draw) = true) :
    (step slots degraded settings tenantId entry state (.work draw)).Sound sets tenantId := by
  dsimp only [step]
  dsimp only [undisturbed] at calm
  split
  · rename_i here
    rw [here] at calm
    have told : fateOf degraded draw.fate ≠ .unanswered ∨
        leases slots degraded settings tenantId state.store draw = [] := by
      cases (Bool.or_eq_true_iff.mp calm) with
      | inl answered => exact .inl (fateOf_ne (by simpa using answered) (by decide))
      | inr none => exact .inr (List.isEmpty_iff.mp none)
    exact sound.occupying tended draw (fresh_draw new) told (by rw [here]; rfl) (finished_token? _)
  · rename_i token outcome here
    rw [here] at calm
    refine (Sound.vacated tended sound token (fateOf_ne (bne_iff_ne.mp calm) (by decide))).mono ?_
    intro other owed
    refine owed.1.moved (fun held => ?_)
    rw [here] at held
    exact absurd (Option.some.inj held).symm owed.2
  · exact sound

private theorem sound_orphanWorks (tended : Tended slots sets) {state : CallState Store}
    (sound : state.Sound sets tenantId) (index : Nat) (draw : Draw)
    (new : fresh state (.orphanWorks index draw) = true)
    (calm : undisturbed slots degraded settings tenantId state (.orphanWorks index draw) = true) :
    (step slots degraded settings tenantId entry state (.orphanWorks index draw)).Sound sets
      tenantId := by
  dsimp only [step]
  dsimp only [undisturbed] at calm
  split
  · rename_i found
    rw [found] at calm
    have drawn := fresh_draw new
    refine (Sound.occupied tended sound draw drawn.1 drawn.2).mono (fun token owed => ?_)
    rw [List.isEmpty_iff.mp calm] at owed
    exact (owed.resolve_right List.not_mem_nil).erased found nofun
  · rename_i token found
    rw [found] at calm
    refine (Sound.vacated tended sound token (fateOf_ne (bne_iff_ne.mp calm) (by decide))).mono ?_
    intro other owed
    exact owed.1.erased found (fun same => owed.2 (Work.vacate.inj same).symm)
  · exact sound

private theorem sound_elsewhere (tended : Tended slots sets) {state : CallState Store}
    (sound : state.Sound sets tenantId) (now : ℚ) (call : Call)
    (new : fresh state (.elsewhere now call) = true) :
    (step slots degraded settings tenantId entry state (.elsewhere now call)).Sound sets
      tenantId := by
  refine sound.kept (fun token old => List.mem_append_right _ old) (fun place token member absent => ?_)
  cases call with
  | release owner released => exact tended.release owner released absent
  | inFlight => exact tended.inFlight now absent
  | acquire args =>
    have undrawn : args.token ∉ state.drawn := by simpa [fresh] using new
    refine tended.acquire args now absent (fun same _ => ?_)
    cases member with
    | inl granted => exact absurd (sound.known token granted).1 (same ▸ undrawn)
    | inr apart => exact absurd (List.mem_append_left _ (by simp [Call.token?,same])) apart

private theorem sound_step (tended : Tended slots sets) (state : CallState Store) (action : Action)
    (sound : state.Sound sets tenantId) (new : fresh state action = true)
    (calm : undisturbed slots degraded settings tenantId state action = true) :
    (step slots degraded settings tenantId entry state action).Sound sets tenantId := by
  cases action with
  | enter draw =>
    dsimp only [step]
    split
    · rename_i here
      split
      · rename_i own
        refine sound.occupying tended draw (fresh_draw new) (.inl ?_) (by rw [here]; rfl) (seat_token? _)
        rw [fateOf,if_pos own]
        decide
      · apply sound.reach
        rw [here]
        nofun
    · exact sound
  | start =>
    dsimp only [step]
    split
    · rename_i here
      apply sound.reach
      rw [here]
      nofun
    · rename_i here
      apply sound.reach
      rw [here]
      exact fun _ held => held
    · exact sound
  | work draw => exact sound_work tended sound draw new calm
  | resume =>
    dsimp only [step]
    split
    · rename_i reply here
      apply sound.reach
      intro token held
      rw [here,finished_token?] at held
      rw [seat_token?]
      exact held
    · rename_i here
      apply sound.reach
      rw [here]
      nofun
    · exact sound
  | cancel => exact sound_cancel sound calm
  | flush fails =>
    dsimp only [step]
    dsimp only [undisturbed] at calm
    split
    · rename_i token here
      rw [here] at calm
      obtain rfl : fails = false := by simpa using calm
      apply sound.reach
      rw [here]
      exact fun _ held => held
    · rename_i here
      apply sound.reach
      rw [here]
      nofun
    · exact sound
  | chat event =>
    dsimp only [step]
    split
    · rename_i token last here
      apply sound.reach
      intro other held
      rw [here] at held
      rw [receive_token?]
      exact held
    · exact sound
  | leave fate =>
    dsimp only [step]
    split
    · rename_i token outcome here
      split
      · rename_i own
        have sent : fateOf degraded fate ≠ .unsent := by
          rw [fateOf,if_pos own]
          decide
        refine (Sound.vacated tended sound token sent).mono (fun other owed => ?_)
        refine owed.1.moved (fun held => ?_)
        rw [here] at held
        exact absurd (Option.some.inj held).symm owed.2
      · apply sound.reach
        rw [here]
        exact fun _ held => held
    · exact sound
  | orphanStarts index => exact sound.mono (fun _ owed => owed.started index)
  | orphanDropped index =>
    dsimp only [step]
    dsimp only [undisturbed] at calm
    split
    · rename_i work found
      rw [found] at calm
      refine sound.mono (fun token owed => owed.erased found (fun same => ?_))
      cases same
      cases calm
    · exact sound
  | orphanWorks index draw => exact sound_orphanWorks tended sound index draw new calm
  | elsewhere now call => exact sound_elsewhere tended sound now call new

end Invariant

/-! ### Both stores -/

inductive Backend
  | memory
  | redis

namespace Backend

abbrev Store : Backend → Type
  | memory => MemoryChatSlotStore
  | redis => Redis

def slots : (backend : Backend) → ChatSlotStore backend.Store
  | memory => memoryChatSlotStore
  | redis => redisChatSlotStore

def degraded : Backend → Bool
  | memory => true
  | redis => false

def sets : (backend : Backend) → SlotSets backend.Store
  | memory => MemoryChatSlotStore.sets
  | redis => RedisChatSlotStore.sets

private theorem tended : (backend : Backend) → Tended backend.slots backend.sets
  | memory => memory_tended
  | redis => redis_tended

abbrev callStep (backend : Backend) (settings : Settings) (tenantId : String) (entry : Entry) :
    CallState backend.Store → Action → CallState backend.Store :=
  step backend.slots backend.degraded settings tenantId entry

end Backend

/-- Whatever ends an undisturbed call, in the end the store has none of its leases. -/
theorem slots_returned (backend : Backend) (settings : Settings) (tenantId : String) (entry : Entry)
    (actions : List Action)
    (drawn : Along (backend.callStep settings tenantId entry)
      (fun state action => fresh state action = true) (start backend.slots) actions)
    (calm : Along (backend.callStep settings tenantId entry)
      (fun state action => undisturbed backend.slots backend.degraded settings tenantId state action = true)
      (start backend.slots) actions) :
    Throughout (backend.callStep settings tenantId entry)
      (fun state => state.settled = true → state.Cleared backend.sets) (start backend.slots) actions := by
  have sound : Throughout (backend.callStep settings tenantId entry)
      (CallState.Sound backend.sets tenantId) (start backend.slots) actions :=
    Throughout.of_along
      (fun state action sound allowed =>
        sound_step backend.tended state action sound allowed.1 allowed.2)
      (sound_start backend.tended) (drawn.and calm)
  exact sound.imp (fun state sound settled => sound.cleared settled)

/-- A client that goes away in the middle of its stream, another one that comes meanwhile. -/
def hangUp : List Action :=
  [.enter ⟨0,"a",.answered⟩,.start,.work ⟨0,"a",.answered⟩,.resume,.flush false,
    .chat (.event "token" true),.elsewhere 1 (.acquire (Settings.occupyArgs ⟨8,4,180⟩ "beta" "b")),
    .chat (.raises .generatorExit),.leave .answered,.start,.cancel,.orphanWorks 0 ⟨2,"c",.answered⟩]

theorem slots_returned_hangUp :
    (run (Backend.redis.callStep ⟨8,4,180⟩ "acme" .achatStream) (start Backend.redis.slots) hangUp).settled =
        true ∧
      Throughout (Backend.redis.callStep ⟨8,4,180⟩ "acme" .achatStream)
        (fun state => state.settled = true → state.Cleared Backend.redis.sets)
        (start Backend.redis.slots) hangUp :=
  ⟨by decide +kernel,
    slots_returned .redis ⟨8,4,180⟩ "acme" .achatStream hangUp (by decide +kernel) (by decide +kernel)⟩

/-- A cancellation before the call has resumed with its slot, one while its thread still runs, and
one that takes the release out of the queue. -/
def leaks : List (List Action) :=
  [[.enter ⟨0,"a",.answered⟩,.start,.work ⟨0,"a",.answered⟩,.cancel],
    [.enter ⟨0,"a",.answered⟩,.start,.cancel,.orphanWorks 0 ⟨0,"a",.answered⟩],
    [.enter ⟨0,"a",.answered⟩,.start,.work ⟨0,"a",.answered⟩,.resume,.flush false,.chat .exhausted,
      .leave .answered,.cancel,.orphanDropped 0]]

theorem slot_leaks : leaks.Forall (fun actions =>
    (run (Backend.redis.callStep ⟨8,4,180⟩ "acme" .achatStream) (start Backend.redis.slots)
        actions).settled = true ∧
      ¬ (run (Backend.redis.callStep ⟨8,4,180⟩ "acme" .achatStream) (start Backend.redis.slots)
        actions).Cleared Backend.redis.sets) := by
  have kept : ∀ actions ∈ leaks,
      let state := run (Backend.redis.callStep ⟨8,4,180⟩ "acme" .achatStream)
        (start Backend.redis.slots) actions
      state.settled = true ∧ "a" ∈ state.granted ∧ ¬ Backend.redis.sets.Absent state.store none "a" := by
    decide +kernel
  rw [List.forall_iff_forall_mem]
  intro actions member
  obtain ⟨settled,granted,present⟩ := kept actions member
  exact ⟨settled,fun cleared => present (cleared "a" granted none)⟩

end CustomerService.ChatSlots
