import CustomerService.ChatTurns
import CustomerService.Metrics

/-! A turn as the generator behind it runs it: what the client is sent however it ends, and what is put on the
books. -/
namespace CustomerService.TurnAccounts

open Text ChatGraph
open OrderAccess (orElse)

/-- What a step of a turn may raise; the last stands for `CancelledError` and `GeneratorExit`, which are no
`Exception`. -/
inductive Raised
  | sessionBusy | quotaExceeded | circuitOpen | error | cancelled
deriving DecidableEq

inductive Outcome
  | ok | quota | llmUnavailable | sessionBusy | error
deriving DecidableEq

def Outcome.name : Outcome → String
  | ok => "ok"
  | quota => "quota"
  | llmUnavailable => "llm_unavailable"
  | sessionBusy => "session_busy"
  | error => "error"

structure TurnUsageStep where
  promptTokens : Nat
  completionTokens : Nat
  totalTokens : Nat

structure TurnUsage where
  promptTokens : Nat
  completionTokens : Nat
  totalTokens : Nat
  steps : Nat

/-- `take_turn_usage` and `TurnUsage.to_dict`. -/
def usageOf (calls : List TurnUsageStep) : TurnUsage where
  promptTokens := (calls.map TurnUsageStep.promptTokens).sum
  completionTokens := (calls.map TurnUsageStep.completionTokens).sum
  totalTokens := (calls.map TurnUsageStep.totalTokens).sum
  steps := calls.length

section
variable {Body : Type}

inductive StreamEvent (Body : Type)
  | token (content : Text)
  | shown (event : ChatGraph.Event Body)
  | done (response : ChatResponse Body) (usage : Option TurnUsage)

def StreamEvent.isDone : StreamEvent Body → Bool
  | .done _ _ => true
  | .shown (.done _) => true
  | _ => false

def StreamEvent.isToken : StreamEvent Body → Bool
  | .token _ => true
  | _ => false

/-- A frame of the graph: what a node writes while it runs, or what nodes return. -/
inductive Item (Body : Type)
  | custom (content : Option Text)
  | updates (chunk : List (Node × Option (Update Body)))

/-- A frame with the calls of the model that are made before it. -/
structure Frame (Body : Type) where
  calls : List TurnUsageStep
  item : Item Body

/-- All that a turn meets: what hydration, the context and the lock raise, the frames of the graph and how they
end, whether the turn is cancelled as it gives the lock back, and after which events the client is gone. -/
structure Script (Body : Type) where
  hydrate : Option Raised
  context : Option Raised
  acquire : Option Raised
  frames : List (Frame Body)
  lastCalls : List TurnUsageStep
  ends : Option Raised
  releaseCancelled : Bool
  leaves : List (StreamEvent Body) → Bool

structure Running (Body : Type) where
  sent : List (StreamEvent Body)
  accumulated : Update Body
  nodes : List Node
  calls : List TurnUsageStep
  ttft : List Text

def Running.start : Running Body := ⟨[],{},[],[],[]⟩

/-- `_maybe_observe_ttft`, and the `yield`. -/
def Running.send (running : Running Body) (event : StreamEvent Body) : Running Body :=
  { running with
    sent := running.sent ++ [event]
    ttft := if event.isToken ∧ running.ttft = [] then [orElse running.accumulated.intent "unknown".toList]
      else running.ttft }

def Running.spend (running : Running Body) (calls : List TurnUsageStep) : Running Body :=
  { running with calls := running.calls ++ calls }

def eventsFromChunk : Running Body → List (Node × Option (Update Body)) → Running Body × List (StreamEvent Body)
  | running, [] => (running,[])
  | running, (node,payload)::rest =>
    let visited := { running with nodes := running.nodes ++ [node] }
    match payload with
    | none =>
      let others := eventsFromChunk visited rest
      (others.1,.shown (.status node node.status)::others.2)
    | some update =>
      let merged := { visited with accumulated := visited.accumulated.merge update }
      let others := eventsFromChunk merged rest
      (others.1,(eventsFromUpdates merged.accumulated node update).map .shown ++ others.2)

def eventsFromStreamItem (running : Running Body) : Item Body → Running Body × List (StreamEvent Body)
  | .custom none => (running,[])
  | .custom (some content) => (running,if content = [] then [] else [.token content])
  | .updates chunk => eventsFromChunk running chunk

def sendAll (leaves : List (StreamEvent Body) → Bool) :
    Running Body → List (StreamEvent Body) → Running Body × Bool
  | running, [] => (running,false)
  | running, event::rest =>
    if leaves (running.send event).sent then (running.send event,true) else sendAll leaves (running.send event) rest

def streamFrames (leaves : List (StreamEvent Body) → Bool) :
    Running Body → List (Frame Body) → Running Body × Bool
  | running, [] => (running,false)
  | running, frame::rest =>
    let read := eventsFromStreamItem (running.spend frame.calls) frame.item
    let told := sendAll leaves read.1 read.2
    if told.2 then told else streamFrames leaves told.1 rest

/-- How the body under the lock is left; `taken` is what `take_turn_usage` gave in it. -/
structure Left (Body : Type) where
  running : Running Body
  outcome : Outcome
  taken : Option (List TurnUsageStep)
  raised : Option Raised

/-- The `done` event, after which the client may be gone too. -/
def finish (leaves : List (StreamEvent Body) → Bool) (running : Running Body) (outcome : Outcome)
    (event : StreamEvent Body) : Left Body :=
  ⟨running.send event,outcome,some running.calls,
    if leaves (running.send event).sent then some .cancelled else none⟩

def usageDict (calls : List TurnUsageStep) : Option TurnUsage :=
  if calls = [] ∧ (usageOf calls).totalTokens = 0 then none else some (usageOf calls)

def underLock (turn : ChatTurn) (script : Script Body) : Left Body :=
  let opened := Running.start.send (.shown (.opened turn))
  if script.leaves opened.sent then ⟨opened,.ok,none,some .cancelled⟩
  else
    let streamed := streamFrames script.leaves opened script.frames
    if streamed.2 then ⟨streamed.1,.ok,none,some .cancelled⟩
    else
      let ended := streamed.1.spend script.lastCalls
      match script.ends with
      | none => finish script.leaves ended .ok
          (.done (donePayload ended.accumulated turn.sid) (usageDict ended.calls))
      | some .quotaExceeded => finish script.leaves ended .quota (.done (earlyDone quotaAnswer turn.sid) none)
      | some .circuitOpen => finish script.leaves ended .llmUnavailable
          (.done (earlyDone SummaryFacts.llmUnavailableAnswer turn.sid) none)
      | some raised => ⟨ended,.ok,none,some raised⟩

/-- What `_record_turn` counts. -/
structure TurnRecord where
  tenant : Text
  intent : Text
  blocked : Bool
  outcome : Outcome
  nodes : List Node
  llmCalls : Nat

/-- A turn from outside; `calls` are those the model has answered in it. -/
structure Trace (Body : Type) where
  sent : List (StreamEvent Body)
  ttft : List Text
  raised : Option Raised
  records : List TurnRecord
  currentUser : Text
  calls : List TurnUsageStep

/-- The `except` clauses around the lock. -/
def Outcome.after (outcome : Outcome) : Option Raised → Outcome
  | none => outcome
  | some .cancelled => outcome
  | some .sessionBusy => .sessionBusy
  | some _ => if outcome = .ok then .error else outcome

def Left.outcomeAfter (left : Left Body) : Outcome := left.outcome.after left.raised

/-- The usage that the `finally` clause records: when it takes it itself, what was taken before is gone. -/
def Left.usageAfter (left : Left Body) : List TurnUsageStep :=
  match left.outcomeAfter with
  | .sessionBusy => if left.taken.isSome then [] else left.running.calls
  | .error => if left.taken.isSome then [] else left.running.calls
  | _ => left.taken.getD []

/-- The `finally` clause. -/
def close (turn : ChatTurn) (left : Left Body) : Trace Body where
  sent := left.running.sent
  ttft := left.running.ttft
  raised := left.raised
  records := [⟨turn.tenant,orElse left.running.accumulated.intent "chitchat".toList,
    left.running.accumulated.blocked.getD false,left.outcomeAfter,left.running.nodes,left.usageAfter.length⟩]
  currentUser := "anonymous".toList
  calls := left.running.calls

/-- `_chat_turn_stream`. -/
def chatTurnStream (turn : ChatTurn) (script : Script Body) : Trace Body :=
  match script.hydrate with
  | some raised => ⟨[],[],some raised,[],turn.uid,[]⟩
  | none =>
    match script.context.or script.acquire with
    | some raised => close turn ⟨Running.start,.ok,none,some raised⟩
    | none =>
      let left := underLock turn script
      close turn (if script.releaseCancelled then { left with raised := some .cancelled } else left)

/-! ### The stream -/

def Running.Timed (running : Running Body) : Prop :=
  running.ttft.length ≤ 1 ∧ (running.ttft = [] ↔ ∀ event ∈ running.sent, event.isToken = false)

theorem Running.Timed.send {running : Running Body} (timed : running.Timed) (event : StreamEvent Body) :
    (running.send event).Timed := by
  obtain ⟨once,first⟩ := timed
  unfold Running.Timed Running.send
  dsimp only
  by_cases none' : running.ttft = []
  · have silent := first.mp none'
    cases token : event.isToken with
    | true => simp [none',token]
    | false =>
      refine ⟨by simp [none'],iff_of_true (by simp [none']) (fun other inside => ?_)⟩
      rcases List.mem_append.mp inside with earlier | last
      · exact silent other earlier
      · rw [List.mem_singleton.mp last]
        exact token
  · rw [if_neg (fun both => none' both.2)]
    refine ⟨once,iff_of_false none' (fun silent => none' (first.mpr ?_))⟩
    exact fun earlier inside => silent earlier (List.mem_append_left _ inside)

/-- While the graph runs: the turn is announced and not done. -/
structure Streaming (turn : ChatTurn) (running : Running Body) : Prop where
  opened : ∃ rest, running.sent = .shown (.opened turn)::rest
  going : ∀ event ∈ running.sent, event.isDone = false
  timed : running.Timed

theorem Streaming.send {turn : ChatTurn} {running : Running Body} (streaming : Streaming turn running)
    {event : StreamEvent Body} (going : event.isDone = false) : Streaming turn (running.send event) where
  opened := by
    obtain ⟨rest,sent⟩ := streaming.opened
    exact ⟨rest ++ [event],by rw [Running.send,sent]; rfl⟩
  going := by
    intro other inside
    rcases List.mem_append.mp inside with earlier | last
    · exact streaming.going other earlier
    · rw [List.mem_singleton.mp last]
      exact going
  timed := streaming.timed.send event

theorem Streaming.sendAll {turn : ChatTurn} (leaves : List (StreamEvent Body) → Bool)
    {events : List (StreamEvent Body)} {running : Running Body} (streaming : Streaming turn running)
    (going : ∀ event ∈ events, event.isDone = false) :
    Streaming turn (sendAll leaves running events).1 := by
  induction events generalizing running with
  | nil => exact streaming
  | cons event rest ih =>
    obtain ⟨first,others⟩ := List.forall_mem_cons.mp going
    rw [TurnAccounts.sendAll]
    split_ifs
    · exact streaming.send first
    · exact ih (streaming.send first) others

private theorem going_eventsFromUpdates (accumulated : Update Body) (node : Node) (update : Update Body) :
    ∀ event ∈ (eventsFromUpdates accumulated node update).map StreamEvent.shown, event.isDone = false := by
  rw [List.forall_mem_map,eventsFromUpdates,List.forall_mem_cons]
  refine ⟨rfl,fun event inside => ?_⟩
  split at inside
  · cases inside
  · split_ifs at inside
    · cases inside
    · rw [List.mem_singleton.mp inside]
      rfl

private theorem going_eventsFromChunk (chunk : List (Node × Option (Update Body))) (running : Running Body) :
    (∀ event ∈ (eventsFromChunk running chunk).2, event.isDone = false) ∧
      (eventsFromChunk running chunk).1.sent = running.sent ∧
      (eventsFromChunk running chunk).1.ttft = running.ttft := by
  induction chunk generalizing running with
  | nil => exact ⟨nofun,rfl,rfl⟩
  | cons visit rest ih =>
    obtain ⟨node,payload⟩ := visit
    cases payload with
    | none =>
      obtain ⟨going,sent,ttft⟩ := ih { running with nodes := running.nodes ++ [node] }
      exact ⟨List.forall_mem_cons.mpr ⟨rfl,going⟩,sent,ttft⟩
    | some update =>
      obtain ⟨going,sent,ttft⟩ := ih { running with
        nodes := running.nodes ++ [node], accumulated := running.accumulated.merge update }
      refine ⟨fun event inside => ?_,sent,ttft⟩
      rcases List.mem_append.mp inside with own | later
      · exact going_eventsFromUpdates _ _ _ event own
      · exact going event later

private theorem going_eventsFromStreamItem (running : Running Body) (item : Item Body) :
    (∀ event ∈ (eventsFromStreamItem running item).2, event.isDone = false) ∧
      (eventsFromStreamItem running item).1.sent = running.sent ∧
      (eventsFromStreamItem running item).1.ttft = running.ttft := by
  cases item with
  | custom content =>
    cases content with
    | none => exact ⟨nofun,rfl,rfl⟩
    | some content =>
      refine ⟨fun event inside => ?_,rfl,rfl⟩
      rw [eventsFromStreamItem] at inside
      split_ifs at inside
      · cases inside
      · rw [List.mem_singleton.mp inside]
        rfl
  | updates chunk => exact going_eventsFromChunk chunk running

theorem Streaming.congr {turn : ChatTurn} {running other : Running Body} (streaming : Streaming turn running)
    (sent : other.sent = running.sent) (ttft : other.ttft = running.ttft) : Streaming turn other where
  opened := by rw [sent]; exact streaming.opened
  going := by rw [sent]; exact streaming.going
  timed := by
    unfold Running.Timed
    rw [sent,ttft]
    exact streaming.timed

theorem Streaming.frames {turn : ChatTurn} (leaves : List (StreamEvent Body) → Bool) (frames : List (Frame Body))
    {running : Running Body} (streaming : Streaming turn running) :
    Streaming turn (streamFrames leaves running frames).1 := by
  induction frames generalizing running with
  | nil => exact streaming
  | cons frame rest ih =>
    obtain ⟨going,sent,ttft⟩ := going_eventsFromStreamItem (running.spend frame.calls) frame.item
    have told := (streaming.congr sent ttft).sendAll leaves going
    rw [streamFrames]
    split_ifs
    · exact told
    · exact ih told

private theorem streaming_start (turn : ChatTurn) :
    Streaming turn (Running.start.send (.shown (.opened turn)) : Running Body) where
  opened := ⟨[],rfl⟩
  going := by
    intro event inside
    rw [List.mem_singleton.mp inside]
    rfl
  timed := by simp [Running.Timed,Running.send,Running.start,StreamEvent.isToken]

/-! ### The ends of a turn -/

/-- The answer with which a turn is done, as its graph has ended. -/
inductive Answers (turn : ChatTurn) : Option Raised → Outcome → StreamEvent Body → Prop
  | ok (accumulated : Update Body) (usage : Option TurnUsage) :
    Answers turn none .ok (.done (donePayload accumulated turn.sid) usage)
  | quota : Answers turn (some .quotaExceeded) .quota (.done (earlyDone quotaAnswer turn.sid) none)
  | unavailable : Answers turn (some .circuitOpen) .llmUnavailable
      (.done (earlyDone SummaryFacts.llmUnavailableAnswer turn.sid) none)

theorem Answers.regular {turn : ChatTurn} {ends : Option Raised} {outcome : Outcome} {event : StreamEvent Body}
    (answers : Answers turn ends outcome event) : outcome ≠ .sessionBusy ∧ outcome ≠ .error := by
  cases answers <;> exact ⟨nofun,nofun⟩

theorem Answers.isDone {turn : ChatTurn} {ends : Option Raised} {outcome : Outcome} {event : StreamEvent Body}
    (answers : Answers turn ends outcome event) : event.isDone = true := by
  cases answers <;> rfl

/-- Before the answer, the lock perhaps not yet held. -/
structure Unanswered (turn : ChatTurn) (running : Running Body) : Prop where
  opened : running.sent = [] ∨ ∃ rest, running.sent = .shown (.opened turn)::rest
  going : ∀ event ∈ running.sent, event.isDone = false
  timed : running.Timed

theorem Streaming.unanswered {turn : ChatTurn} {running : Running Body} (streaming : Streaming turn running) :
    Unanswered turn running := ⟨Or.inr streaming.opened,streaming.going,streaming.timed⟩

private theorem unanswered_start (turn : ChatTurn) : Unanswered turn (Running.start : Running Body) :=
  ⟨Or.inl rfl,nofun,by simp [Running.Timed,Running.start]⟩

/-- How the turn comes to its end: with an answer as the last event, or before it. -/
inductive Leaves (turn : ChatTurn) (script : Script Body) (left : Left Body) : Prop
  | answered (running : Running Body) (event : StreamEvent Body) (streaming : Streaming turn running)
    (answers : Answers turn script.ends left.outcome event) (sent : left.running = running.send event)
    (taken : left.taken = some left.running.calls) (raised : left.raised = none ∨ left.raised = some .cancelled)
  | early (unanswered : Unanswered turn left.running) (outcome : left.outcome = .ok) (taken : left.taken = none)
    (raised : left.raised ≠ none)

private theorem leaves_finish {turn : ChatTurn} {script : Script Body} {running : Running Body} {outcome : Outcome}
    {event : StreamEvent Body} (streaming : Streaming turn running)
    (answers : Answers turn script.ends outcome event) :
    Leaves turn script (finish script.leaves running outcome event) := by
  refine Leaves.answered running event streaming answers rfl rfl ?_
  unfold finish
  split_ifs
  · exact Or.inr rfl
  · exact Or.inl rfl

theorem leaves_underLock (turn : ChatTurn) (script : Script Body) : Leaves turn script (underLock turn script) := by
  have start : Streaming turn (Running.start.send (.shown (.opened turn)) : Running Body) := streaming_start turn
  have streamed := start.frames script.leaves script.frames
  have ended : Streaming turn ((streamFrames script.leaves (Running.start.send (.shown (.opened turn)))
      script.frames).1.spend script.lastCalls) := streamed.congr rfl rfl
  unfold underLock
  dsimp only
  split_ifs
  · exact Leaves.early start.unanswered rfl rfl (by simp)
  · exact Leaves.early streamed.unanswered rfl rfl (by simp)
  · cases ends : script.ends with
    | none => exact leaves_finish ended (ends ▸ Answers.ok _ _)
    | some raised =>
      cases raised with
      | quotaExceeded => exact leaves_finish ended (ends ▸ Answers.quota)
      | circuitOpen => exact leaves_finish ended (ends ▸ Answers.unavailable)
      | sessionBusy => exact Leaves.early ended.unanswered rfl rfl (by simp)
      | error => exact Leaves.early ended.unanswered rfl rfl (by simp)
      | cancelled => exact Leaves.early ended.unanswered rfl rfl (by simp)

theorem Leaves.cancel {turn : ChatTurn} {script : Script Body} {left : Left Body} (leaves : Leaves turn script left) :
    Leaves turn script { left with raised := some .cancelled } := by
  cases leaves with
  | answered running event streaming answers sent taken raised =>
    exact .answered running event streaming answers sent taken (Or.inr rfl)
  | early unanswered outcome taken raised => exact .early unanswered outcome taken (by simp)

/-- The entry that a turn leaves in the books: its answer's outcome with all calls of the model; or it has no
answer, and the entry says why, but for a client that has gone, which counts as a turn without calls. -/
inductive Books (turn : ChatTurn) (script : Script Body) (trace : Trace Body) (record : TurnRecord) : Prop
  | answered (front : List (StreamEvent Body)) (event : StreamEvent Body) (sent : trace.sent = front ++ [event])
    (answers : Answers turn script.ends record.outcome event) (calls : record.llmCalls = trace.calls.length)
  | gone (raised : trace.raised = some .cancelled) (silent : ∀ event ∈ trace.sent, event.isDone = false)
    (outcome : record.outcome = .ok) (calls : record.llmCalls = 0)
  | busy (raised : trace.raised = some .sessionBusy) (silent : ∀ event ∈ trace.sent, event.isDone = false)
    (outcome : record.outcome = .sessionBusy) (calls : record.llmCalls = trace.calls.length)
  | failed (raised : trace.raised = some .error ∨ trace.raised = some .quotaExceeded ∨
      trace.raised = some .circuitOpen) (silent : ∀ event ∈ trace.sent, event.isDone = false)
    (outcome : record.outcome = .error) (calls : record.llmCalls = trace.calls.length)

/-- Whatever a turn meets: it is entered once when it was hydrated, and the client is sent the opening first and
an answer last if at all, always when nothing is raised. -/
structure Accounted (turn : ChatTurn) (script : Script Body) (trace : Trace Body) : Prop where
  once : trace.records.length = if script.hydrate = none then 1 else 0
  books : ∀ record ∈ trace.records, record.tenant = turn.tenant ∧ Books turn script trace record
  opened : trace.sent = [] ∨ ∃ rest, trace.sent = .shown (.opened turn)::rest
  last : ∀ front event rest, trace.sent = front ++ event::rest → event.isDone = true → rest = []
  answered : trace.raised = none → ∃ front event outcome, trace.sent = front ++ [event] ∧
    Answers turn script.ends outcome event
  timed : trace.ttft.length ≤ 1 ∧ (trace.ttft = [] ↔ ∀ event ∈ trace.sent, event.isToken = false)
  user : script.hydrate = none → trace.currentUser = "anonymous".toList

private theorem last_of_going {sent front rest : List (StreamEvent Body)} {event : StreamEvent Body}
    (going : ∀ event ∈ sent, event.isDone = false) (split : sent = front ++ event::rest)
    (done : event.isDone = true) : rest = [] := by
  have open' := going event (split ▸ List.mem_append_right _ List.mem_cons_self)
  rw [done] at open'
  cases open'

private theorem last_of_answer {sent front rest : List (StreamEvent Body)} {answer event : StreamEvent Body}
    (going : ∀ event ∈ sent, event.isDone = false) (split : sent ++ [answer] = front ++ event::rest)
    (done : event.isDone = true) : rest = [] := by
  rcases List.append_eq_append_iff.mp split with ⟨extra,rfl,tail⟩ | ⟨extra,rfl,tail⟩
  · cases extra with
    | nil => exact (List.cons.inj tail).2.symm
    | cons first others =>
      have shape := (List.cons.inj tail).2
      exact absurd shape.symm (List.append_ne_nil_of_right_ne_nil others (List.cons_ne_nil event rest))
  · cases extra with
    | nil => exact (List.cons.inj tail).2
    | cons first others =>
      have same := (List.cons.inj tail).1
      have open' := going event (List.mem_append_right _ (same ▸ List.mem_cons_self))
      rw [done] at open'
      cases open'

theorem accounted_close {turn : ChatTurn} {script : Script Body} {left : Left Body} (hydrated : script.hydrate = none)
    (leaves : Leaves turn script left) : Accounted turn script (close turn left) := by
  have entered {rest : Books turn script (close turn left) ⟨turn.tenant,
      orElse left.running.accumulated.intent "chitchat".toList,left.running.accumulated.blocked.getD false,
      left.outcomeAfter,left.running.nodes,left.usageAfter.length⟩} :
      ∀ record ∈ (close turn left).records, record.tenant = turn.tenant ∧
        Books turn script (close turn left) record := by
    intro record inside
    rw [List.mem_singleton.mp inside]
    exact ⟨rfl,rest⟩
  cases leaves with
  | answered running event streaming answers sent taken raised =>
    have shape : (close turn left).sent = running.sent ++ [event] := congrArg Running.sent sent
    have after : left.outcomeAfter = left.outcome := by
      unfold Left.outcomeAfter
      rcases raised with none' | gone
      · rw [none',Outcome.after]
      · rw [gone,Outcome.after]
    have usage : left.usageAfter = left.running.calls := by
      unfold Left.usageAfter
      rw [after,taken]
      obtain ⟨idle,faultless⟩ := answers.regular
      cases kind : left.outcome with
      | ok => rfl
      | quota => rfl
      | llmUnavailable => rfl
      | sessionBusy => exact absurd kind idle
      | error => exact absurd kind faultless
    refine ⟨by rw [if_pos hydrated]; rfl,@entered ?_,?_,?_,?_,?_,fun _ => rfl⟩
    · exact .answered running.sent event shape (after ▸ answers) (congrArg List.length usage)
    · obtain ⟨rest,opened⟩ := streaming.opened
      exact Or.inr ⟨rest ++ [event],by rw [shape,opened]; rfl⟩
    · intro front other rest split done
      rw [shape] at split
      exact last_of_answer streaming.going split done
    · exact fun _ => ⟨running.sent,event,left.outcome,shape,answers⟩
    · have timed := streaming.timed.send event
      rw [← sent] at timed
      exact timed
  | early unanswered outcome taken raised =>
    refine ⟨by rw [if_pos hydrated]; rfl,@entered ?_,unanswered.opened,?_,fun none' => absurd none' raised,
      unanswered.timed,fun _ => rfl⟩
    · cases why : left.raised with
      | none => exact absurd why raised
      | some reason =>
        have after : left.outcomeAfter = Outcome.ok.after (some reason) := by
          rw [Left.outcomeAfter,why,outcome]
        have usage : left.usageAfter = if reason = .cancelled then [] else left.running.calls := by
          unfold Left.usageAfter
          rw [after,taken]
          cases reason <;> rfl
        have count := congrArg List.length usage
        cases reason with
        | sessionBusy => exact .busy why unanswered.going after count
        | quotaExceeded => exact .failed (Or.inr (Or.inl why)) unanswered.going after count
        | circuitOpen => exact .failed (Or.inr (Or.inr why)) unanswered.going after count
        | error => exact .failed (Or.inl why) unanswered.going after count
        | cancelled => exact .gone why unanswered.going after count
    · exact fun front event rest split done => last_of_going unanswered.going split done

private theorem chatTurnStream_close (turn : ChatTurn) {script : Script Body} (hydrated : script.hydrate = none) :
    ∃ left, Leaves turn script left ∧ chatTurnStream turn script = close turn left := by
  unfold chatTurnStream
  rw [hydrated]
  cases failed : script.context.or script.acquire with
  | some raised => exact ⟨_,.early (unanswered_start turn) rfl rfl (by simp),rfl⟩
  | none =>
    have leaves := leaves_underLock turn script
    dsimp only
    split_ifs
    · exact ⟨_,leaves.cancel,rfl⟩
    · exact ⟨_,leaves,rfl⟩

private theorem chatTurnStream_accounted (turn : ChatTurn) (script : Script Body) :
    Accounted turn script (chatTurnStream turn script) := by
  cases hydrated : script.hydrate with
  | some raised =>
    unfold chatTurnStream
    rw [hydrated]
    exact ⟨by rw [hydrated]; rfl,nofun,Or.inl rfl,fun front _ _ split => by simp at split,nofun,
      by simp,fun none' => by rw [hydrated] at none'; cases none'⟩
  | none =>
    obtain ⟨left,leaves,closed⟩ := chatTurnStream_close turn hydrated
    rw [closed]
    exact accounted_close hydrated leaves

/-! ### The metrics -/

/-- A turn with the seconds that are measured for it. -/
structure Served (Body : Type) where
  turn : ChatTurn
  script : Script Body
  firstToken : ℚ
  elapsed : ℚ

def Served.trace (served : Served Body) : Trace Body := chatTurnStream served.turn served.script

def Served.records (served : Served Body) : List TurnRecord := served.trace.records

end

section
open Metrics KeyedTable

def buckets (values : List ℚ) : List Bound := values.map (fun value => ((value : WithTop ℚ) : Bound)) ++ [⊤]

def durationBuckets : List Bound :=
  buckets [mkRat 1 20,mkRat 1 10,mkRat 1 4,mkRat 1 2,mkRat 1 1,mkRat 5 2,mkRat 5 1,mkRat 10 1,mkRat 30 1]

def llmCallsBuckets : List Bound :=
  buckets [mkRat 1 1,mkRat 2 1,mkRat 3 1,mkRat 4 1,mkRat 5 1,mkRat 8 1,mkRat 12 1,mkRat 20 1]

def intentLabels (intent : Text) : Labels :=
  ⟨[("intent",String.ofList (orElse intent "unknown".toList))],List.nodup_singleton _⟩

def chatLabels (tenant intent : Text) (blocked : Bool) (outcome : Outcome) : Labels :=
  ⟨[("tenant",String.ofList tenant),("intent",String.ofList (orElse intent "unknown".toList)),
    ("blocked",if blocked then "true" else "false"),("outcome",outcome.name)],by simp⟩

def runawayLabels : Labels := ⟨[("reason","high_llm_calls")],List.nodup_singleton _⟩

/-- `maybe_inc_runaway_llm_calls`, when the setting is `threshold`. -/
def runsAway (threshold : Nat) (record : TurnRecord) : Bool := 0 < threshold ∧ threshold < record.llmCalls

/-- `inc_chat`, `observe_chat`, `observe_llm_calls` and the runaway of one turn. -/
def recordTurn (threshold : Nat) (elapsed : ℚ) (record : TurnRecord) : List Metrics.Event :=
  [.inc "cs_chat_requests_total" 1 (chatLabels record.tenant record.intent record.blocked record.outcome),
    .observe "cs_chat_duration_seconds" elapsed durationBuckets (intentLabels record.intent),
    .observe "cs_llm_calls_per_turn" record.llmCalls llmCallsBuckets (intentLabels record.intent)] ++
  if runsAway threshold record then [.inc "cs_agent_runaway_total" 1 runawayLabels] else []

def Served.metrics {Body : Type} (threshold : Nat) (served : Served Body) : List Metrics.Event :=
  served.trace.ttft.map (fun intent =>
    .observe "cs_ttft_seconds" served.firstToken durationBuckets (intentLabels intent)) ++
  served.records.flatMap (recordTurn threshold served.elapsed)

def Foreign : Metrics.Event → Prop
  | .inc name _ labels => name ≠ "cs_chat_requests_total" ∧
      (name = "cs_agent_runaway_total" → labelKey labels ≠ labelKey runawayLabels)
  | .observe name .. => name ≠ "cs_llm_calls_per_turn"

def counted (count : Nat) : Option ℚ := if count = 0 then none else some (count : ℚ)

theorem total_ones (count : Nat) : total (List.replicate count 1) = counted count := by
  cases count with
  | zero => rfl
  | succ before =>
    rw [total_some (by simp),counted,if_neg (Nat.succ_ne_zero before),List.sum_replicate,nsmul_one]

private theorem flatMap_kept {Source : Type} (sources : List Source) (keep : Source → Bool) (value : Source → ℚ) :
    sources.flatMap (fun source => if keep source then [value source] else []) =
      (sources.filter keep).map value := by
  induction sources with
  | nil => rfl
  | cons source rest ih =>
    rw [List.flatMap_cons,ih,List.filter_cons]
    cases keep source <;> rfl

private theorem flatMap_ones {Source : Type} (sources : List Source) (keep : Source → Bool) :
    sources.flatMap (fun source => if keep source then [(1 : ℚ)] else []) =
      List.replicate (sources.countP keep) 1 := by
  rw [flatMap_kept,List.map_const',List.countP_eq_length_filter]

private theorem amounts_gather {Source : Type} (name : String) (key : LabelKey) (sources : List Source)
    (calls : Source → List Metrics.Event) :
    amounts name key (sources.flatMap calls) = sources.flatMap (fun source => amounts name key (calls source)) := by
  rw [amounts,increments,List.filterMap_flatMap,itemsAt_flatMap]
  rfl

private theorem values_gather {Source : Type} (name : String) (key : LabelKey) (sources : List Source)
    (calls : Source → List Metrics.Event) :
    values name key (sources.flatMap calls) = sources.flatMap (fun source => values name key (calls source)) := by
  rw [values,observations,List.filterMap_flatMap,itemsAt_flatMap,List.map_flatMap]
  rfl

theorem amounts_append (name : String) (key : LabelKey) (first second : List Metrics.Event) :
    amounts name key (first ++ second) = amounts name key first ++ amounts name key second := by
  rw [amounts,increments,List.filterMap_append,itemsAt,List.filterMap_append]
  rfl

theorem values_append (name : String) (key : LabelKey) (first second : List Metrics.Event) :
    values name key (first ++ second) = values name key first ++ values name key second := by
  rw [values,observations,List.filterMap_append,itemsAt,List.filterMap_append,List.map_append]
  rfl

theorem amounts_inc (name : String) (key : LabelKey) (own : String) (amount : ℚ) (labels : Labels)
    (rest : List Metrics.Event) : amounts name key (.inc own amount labels::rest) =
      (if own = name ∧ labelKey labels = key then [amount] else []) ++ amounts name key rest := by
  rw [amounts,increments,List.filterMap_cons,itemsAt,List.filterMap_cons]
  by_cases here : own = name ∧ labelKey labels = key
  · rw [if_pos here,if_pos here]
    rfl
  · rw [if_neg here,if_neg here]
    rfl

theorem amounts_observe (name : String) (key : LabelKey) (own : String) (value : ℚ) (buckets : List Bound)
    (labels : Labels) (rest : List Metrics.Event) :
    amounts name key (.observe own value buckets labels::rest) = amounts name key rest := rfl

theorem values_inc (name : String) (key : LabelKey) (own : String) (amount : ℚ) (labels : Labels)
    (rest : List Metrics.Event) : values name key (.inc own amount labels::rest) = values name key rest := rfl

theorem values_observe (name : String) (key : LabelKey) (own : String) (value : ℚ) (buckets : List Bound)
    (labels : Labels) (rest : List Metrics.Event) : values name key (.observe own value buckets labels::rest) =
      (if own = name ∧ labelKey labels = key then [value] else []) ++ values name key rest := by
  rw [values,observations,List.filterMap_cons,itemsAt,List.filterMap_cons]
  by_cases here : own = name ∧ labelKey labels = key
  · rw [if_pos here,if_pos here]
    rfl
  · rw [if_neg here,if_neg here]
    rfl

theorem labels_agree {first second : Labels} (same : labelKey first = labelKey second) {name value value' : String}
    (own : (name,value) ∈ first.entries) (other : (name,value') ∈ second.entries) : value = value' := by
  have sorted : first.entries.insertionSort PairLe = second.entries.insertionSort PairLe :=
    congrArg LabelKey.pairs same
  have moved : (name,value) ∈ second.entries := by
    rw [← List.mem_insertionSort PairLe] at own ⊢
    exact sorted ▸ own
  exact congrArg Prod.snd (List.inj_on_of_nodup_map second.distinct moved other rfl)

private theorem orElse_some {text fallback : Text} (known : text ≠ []) : orElse (some text) fallback = text := by
  cases text with
  | nil => exact absurd rfl known
  | cons => rfl

theorem orElse_ne {value : Option Text} {fallback : Text} (known : fallback ≠ []) : orElse value fallback ≠ [] := by
  cases value with
  | none => exact known
  | some text =>
    cases text with
    | nil => exact known
    | cons => exact List.cons_ne_nil _ _

theorem Outcome.name_inj {first second : Outcome} (same : first.name = second.name) : first = second := by
  cases first <;> cases second <;> first | rfl | exact absurd same (by decide)

theorem chatLabels_inj {tenant tenant' intent intent' : Text} {blocked blocked' : Bool} {outcome outcome' : Outcome}
    (known : intent ≠ []) (known' : intent' ≠ []) :
    labelKey (chatLabels tenant intent blocked outcome) = labelKey (chatLabels tenant' intent' blocked' outcome') ↔
      tenant = tenant' ∧ intent = intent' ∧ blocked = blocked' ∧ outcome = outcome' := by
  constructor
  · intro same
    have tenants := labels_agree same (.head _) (.head _)
    have intents := labels_agree same (.tail _ (.head _)) (.tail _ (.head _))
    have flags := labels_agree same (.tail _ (.tail _ (.head _))) (.tail _ (.tail _ (.head _)))
    have names := labels_agree same (.tail _ (.tail _ (.tail _ (.head _)))) (.tail _ (.tail _ (.tail _ (.head _))))
    rw [orElse_some known,orElse_some known'] at intents
    refine ⟨String.ofList_injective tenants,String.ofList_injective intents,?_,Outcome.name_inj names⟩
    cases blocked <;> cases blocked' <;> first | rfl | exact absurd flags (by decide)
  · rintro ⟨rfl,rfl,rfl,rfl⟩
    rfl

private theorem intentLabels_inj {intent intent' : Text} (known : intent ≠ []) (known' : intent' ≠ []) :
    labelKey (intentLabels intent) = labelKey (intentLabels intent') ↔ intent = intent' := by
  constructor
  · intro same
    have intents := labels_agree same (.head _) (.head _)
    rw [orElse_some known,orElse_some known'] at intents
    exact String.ofList_injective intents
  · rintro rfl
    rfl

/-- What the registry holds of the turns that were entered. -/
structure Counts (threshold : Nat) (records : List TurnRecord) (registry : Registry) : Prop where
  requests : ∀ tenant intent blocked outcome, intent ≠ [] → lookup registry.counters "cs_chat_requests_total"
    (labelKey (chatLabels tenant intent blocked outcome)) = counted (records.countP (fun record =>
      record.tenant = tenant ∧ record.intent = intent ∧ record.blocked = blocked ∧ record.outcome = outcome))
  runaways : lookup registry.counters "cs_agent_runaway_total" (labelKey runawayLabels) =
    counted (records.countP (runsAway threshold))
  calls : ∀ intent, intent ≠ [] → lookup registry.histograms "cs_llm_calls_per_turn" (labelKey (intentLabels intent)) =
    summary llmCallsBuckets ((records.filter (fun record => record.intent = intent)).map
      (fun record => (record.llmCalls : ℚ)))

theorem records_known {Body : Type} (served : Served Body) : ∀ record ∈ served.records, record.intent ≠ [] := by
  intro record inside
  cases hydrated : served.script.hydrate with
  | some raised =>
    unfold Served.records Served.trace chatTurnStream at inside
    rw [hydrated] at inside
    cases inside
  | none =>
    obtain ⟨left,-,closed⟩ := chatTurnStream_close served.turn hydrated
    rw [Served.records,Served.trace,closed] at inside
    rw [List.mem_singleton.mp inside]
    exact orElse_ne (by decide)

private theorem amounts_ttft {Body : Type} (served : Served Body) (name : String) (key : LabelKey) :
    amounts name key (served.trace.ttft.map (fun intent =>
      .observe "cs_ttft_seconds" served.firstToken durationBuckets (intentLabels intent))) = [] := by
  induction served.trace.ttft with
  | nil => rfl
  | cons intent rest ih => exact ih

private theorem values_ttft {Body : Type} (served : Served Body) {name : String} (other : "cs_ttft_seconds" ≠ name)
    (key : LabelKey) : values name key (served.trace.ttft.map (fun intent =>
      .observe "cs_ttft_seconds" served.firstToken durationBuckets (intentLabels intent))) = [] := by
  induction served.trace.ttft with
  | nil => rfl
  | cons intent rest ih =>
    rw [List.map_cons,values_observe,if_neg (fun both => other both.1)]
    exact ih

private theorem requests_record (threshold : Nat) (elapsed : ℚ) (record : TurnRecord) (key : LabelKey) :
    amounts "cs_chat_requests_total" key (recordTurn threshold elapsed record) =
      if labelKey (chatLabels record.tenant record.intent record.blocked record.outcome) = key then [1] else [] := by
  rw [recordTurn,amounts_append,amounts_inc,amounts_observe,amounts_observe]
  have runaway : amounts "cs_chat_requests_total" key
      (if runsAway threshold record then [.inc "cs_agent_runaway_total" 1 runawayLabels] else []) = [] := by
    split_ifs
    · rw [amounts_inc,if_neg (fun both => absurd both.1 (by decide))]
      rfl
    · rfl
  rw [runaway]
  by_cases same : labelKey (chatLabels record.tenant record.intent record.blocked record.outcome) = key
  · rw [if_pos same,if_pos ⟨rfl,same⟩]
    rfl
  · rw [if_neg same,if_neg (fun both => same both.2)]
    rfl

private theorem runaways_record (threshold : Nat) (elapsed : ℚ) (record : TurnRecord) :
    amounts "cs_agent_runaway_total" (labelKey runawayLabels) (recordTurn threshold elapsed record) =
      if runsAway threshold record then [1] else [] := by
  rw [recordTurn,amounts_append,amounts_inc,amounts_observe,amounts_observe,
    if_neg (fun both => absurd both.1 (by decide))]
  split_ifs
  · rw [amounts_inc,if_pos ⟨rfl,rfl⟩]
    rfl
  · rfl

private theorem calls_record (threshold : Nat) (elapsed : ℚ) (record : TurnRecord) (key : LabelKey) :
    values "cs_llm_calls_per_turn" key (recordTurn threshold elapsed record) =
      if labelKey (intentLabels record.intent) = key then [(record.llmCalls : ℚ)] else [] := by
  rw [recordTurn,values_append,values_inc,values_observe,values_observe,
    if_neg (fun both => absurd both.1 (by decide))]
  have runaway : values "cs_llm_calls_per_turn" key
      (if runsAway threshold record then [.inc "cs_agent_runaway_total" 1 runawayLabels] else []) = [] := by
    split_ifs <;> rfl
  rw [runaway]
  by_cases same : labelKey (intentLabels record.intent) = key
  · rw [if_pos same,if_pos ⟨rfl,same⟩]
    rfl
  · rw [if_neg same,if_neg (fun both => same both.2)]
    rfl

theorem amounts_turns {Body : Type} {threshold : Nat} {name : String} {key : LabelKey} {share : TurnRecord → List ℚ}
    (each : ∀ elapsed record, amounts name key (recordTurn threshold elapsed record) = share record)
    (turns : List (Served Body)) :
    amounts name key (turns.flatMap (Served.metrics threshold)) = (turns.flatMap Served.records).flatMap share := by
  rw [amounts_gather,List.flatMap_assoc]
  apply List.flatMap_congr
  intro served _
  rw [Served.metrics,amounts_append,amounts_ttft,List.nil_append,amounts_gather]
  exact List.flatMap_congr (fun record _ => each served.elapsed record)

theorem values_turns {Body : Type} {threshold : Nat} {name : String} {key : LabelKey} {share : TurnRecord → List ℚ}
    (other : "cs_ttft_seconds" ≠ name)
    (each : ∀ elapsed record, values name key (recordTurn threshold elapsed record) = share record)
    (turns : List (Served Body)) :
    values name key (turns.flatMap (Served.metrics threshold)) = (turns.flatMap Served.records).flatMap share := by
  rw [values_gather,List.flatMap_assoc]
  apply List.flatMap_congr
  intro served _
  rw [Served.metrics,values_append,values_ttft served other,List.nil_append,values_gather]
  exact List.flatMap_congr (fun record _ => each served.elapsed record)

theorem requests_foreign {others : List Metrics.Event} (foreign : ∀ event ∈ others, Foreign event) (key : LabelKey) :
    amounts "cs_chat_requests_total" key others = [] := by
  induction others with
  | nil => rfl
  | cons event rest ih =>
    obtain ⟨first,later⟩ := List.forall_mem_cons.mp foreign
    cases event with
    | inc name amount labels =>
      rw [amounts_inc,if_neg (fun both => first.1 both.1)]
      exact ih later
    | observe => exact ih later

private theorem runaways_foreign {others : List Metrics.Event} (foreign : ∀ event ∈ others, Foreign event) :
    amounts "cs_agent_runaway_total" (labelKey runawayLabels) others = [] := by
  induction others with
  | nil => rfl
  | cons event rest ih =>
    obtain ⟨first,later⟩ := List.forall_mem_cons.mp foreign
    cases event with
    | inc name amount labels =>
      rw [amounts_inc,if_neg (fun both => first.2 both.1 both.2)]
      exact ih later
    | observe => exact ih later

theorem calls_foreign {others : List Metrics.Event} (foreign : ∀ event ∈ others, Foreign event) (key : LabelKey) :
    values "cs_llm_calls_per_turn" key others = [] := by
  induction others with
  | nil => rfl
  | cons event rest ih =>
    obtain ⟨first,later⟩ := List.forall_mem_cons.mp foreign
    cases event with
    | inc => exact ih later
    | observe name value buckets labels =>
      rw [values_observe,if_neg (fun both => first both.1)]
      exact ih later

theorem mem_observed {events : List Metrics.Event} {name : String} {key : LabelKey} {observation : ℚ × List Bound}
    (inside : observation ∈ itemsAt name key (observations events)) :
    ∃ labels, .observe name observation.1 observation.2 labels ∈ events := by
  obtain ⟨entry,filed,here⟩ := List.mem_filterMap.mp inside
  obtain ⟨event,member,taken⟩ := List.mem_filterMap.mp filed
  cases event with
  | inc => cases taken
  | observe own value buckets labels =>
    obtain rfl := Option.some.inj taken
    by_cases at' : own = name ∧ labelKey labels = key
    · rw [if_pos at'] at here
      rw [← Option.some.inj here,← at'.1]
      exact ⟨labels,member⟩
    · rw [if_neg at'] at here
      cases here

theorem lookup_histogram {events : List Metrics.Event} {name : String} {bounds : List Bound}
    (same : ∀ value buckets labels, .observe name value buckets labels ∈ events → buckets = bounds) (key : LabelKey) :
    lookup (recorded events).histograms name key = summary bounds (values name key events) := by
  have paired : itemsAt name key (observations events) =
      (values name key events).map (fun value => (value,bounds)) := by
    rw [values,List.map_map]
    refine (List.map_id _).symm.trans (List.map_congr_left (fun observation member => ?_))
    obtain ⟨labels,inside⟩ := mem_observed member
    rw [id,Function.comp_apply,← same _ _ _ inside]
  rw [recorded,recorded_from,lookup_foldl]
  show (itemsAt name key (observations events)).foldl _ (summary bounds []) = _
  rw [paired]
  exact foldl_addValue bounds [] (values name key events)

theorem calls_bounds {Body : Type} {threshold : Nat} {served : Served Body} {value : ℚ} {buckets : List Bound}
    {labels : Labels} (inside : .observe "cs_llm_calls_per_turn" value buckets labels ∈ served.metrics threshold) :
    buckets = llmCallsBuckets := by
  rcases List.mem_append.mp inside with early | entered
  · obtain ⟨intent,-,same⟩ := List.mem_map.mp early
    injection same with name
    exact absurd name (by decide)
  · obtain ⟨record,-,own⟩ := List.mem_flatMap.mp entered
    rcases List.mem_append.mp own with fixed | runaway
    · rcases List.mem_cons.mp fixed with same | others
      · cases same
      rcases List.mem_cons.mp others with same | last
      · injection same with name
        exact absurd name (by decide)
      injection List.mem_singleton.mp last
    · split_ifs at runaway
      · cases List.mem_singleton.mp runaway
      · cases runaway

theorem turns_are_counted {Body : Type} (threshold : Nat) (turns : List (Served Body))
    (others events : List Metrics.Event) (foreign : ∀ event ∈ others, Foreign event)
    (mixed : events.Perm (turns.flatMap (Served.metrics threshold) ++ others)) :
    (∀ served ∈ turns, Accounted served.turn served.script served.trace) ∧
      Counts threshold (turns.flatMap Served.records) (recorded events) := by
  refine ⟨fun served _ => chatTurnStream_accounted served.turn served.script,?_,?_,?_⟩
  · intro tenant intent blocked outcome known
    rw [recorded_counters,total_perm (amounts_perm _ _ mixed),amounts_append,requests_foreign foreign,List.append_nil,
      amounts_turns (fun elapsed record => requests_record threshold elapsed record _)]
    have matches' : (turns.flatMap Served.records).flatMap (fun record => if labelKey (chatLabels record.tenant
          record.intent record.blocked record.outcome) = labelKey (chatLabels tenant intent blocked outcome)
        then [(1 : ℚ)] else []) = (turns.flatMap Served.records).flatMap (fun record =>
          if (decide (record.tenant = tenant ∧ record.intent = intent ∧ record.blocked = blocked ∧
            record.outcome = outcome)) then [(1 : ℚ)] else []) := by
      apply List.flatMap_congr
      intro record inside
      obtain ⟨served,_,own⟩ := List.mem_flatMap.mp inside
      simp only [chatLabels_inj (records_known served record own) known,decide_eq_true_eq]
    rw [matches',flatMap_ones,total_ones]
  · rw [recorded_counters,total_perm (amounts_perm _ _ mixed),amounts_append,runaways_foreign foreign,List.append_nil,
      amounts_turns (fun elapsed record => runaways_record threshold elapsed record),flatMap_ones,total_ones]
  · intro intent known
    have bounds : ∀ value buckets labels, .observe "cs_llm_calls_per_turn" value buckets labels ∈ events →
        buckets = llmCallsBuckets := by
      intro value buckets labels inside
      rcases List.mem_append.mp (mixed.subset inside) with own | other
      · obtain ⟨served,_,measured⟩ := List.mem_flatMap.mp own
        exact calls_bounds measured
      · exact absurd rfl (foreign _ other)
    rw [lookup_histogram bounds,summary_perm _ (values_perm _ _ mixed),values_append,calls_foreign foreign,
      List.append_nil,values_turns (by decide) (fun elapsed record => calls_record threshold elapsed record _)]
    have own : (turns.flatMap Served.records).flatMap (fun record =>
          if labelKey (intentLabels record.intent) = labelKey (intentLabels intent)
          then [(record.llmCalls : ℚ)] else []) = (turns.flatMap Served.records).flatMap (fun record =>
            if decide (record.intent = intent) then [(record.llmCalls : ℚ)] else []) := by
      apply List.flatMap_congr
      intro record inside
      obtain ⟨served,_,mine⟩ := List.mem_flatMap.mp inside
      simp only [intentLabels_inj (records_known served record mine) known,decide_eq_true_eq]
    rw [own,flatMap_kept]

/-- Two calls of the model with a token between them; the client may leave at the token. -/
def greeted (leaves : Bool) : Served Unit where
  turn := ⟨"你好".toList,"demo".toList,"u1".toList,"greeted".toList,by decide⟩
  script :=
    { hydrate := none
      context := none
      acquire := none
      frames := [⟨[⟨9,2,11⟩],.updates [(.router,some { intent := some "chitchat".toList })]⟩,
        ⟨[⟨7,1,8⟩],.custom (some "您好".toList)⟩,
        ⟨[],.updates [(.chitchat,some { answer := some "您好".toList })]⟩]
      lastCalls := []
      ends := none
      releaseCancelled := false
      leaves := fun sent => leaves && sent.any StreamEvent.isToken }
  firstToken := mkRat 1 4
  elapsed := mkRat 2 1

/-- A turn whose client has left is counted as answered, without its calls. -/
theorem turns_are_counted_greeted :
    lookup (recorded ([greeted false,greeted true].flatMap (Served.metrics 1) ++
        [.inc "cs_agent_runaway_total" 1 ⟨[("reason","react_limit")],by decide⟩])).counters
      "cs_chat_requests_total" (labelKey (chatLabels "demo".toList "chitchat".toList false .ok)) = some 2 ∧
    lookup (recorded ([greeted false,greeted true].flatMap (Served.metrics 1) ++
        [.inc "cs_agent_runaway_total" 1 ⟨[("reason","react_limit")],by decide⟩])).counters
      "cs_agent_runaway_total" (labelKey runawayLabels) = some 1 := by
  have foreign : ∀ event ∈ [Metrics.Event.inc "cs_agent_runaway_total" 1 ⟨[("reason","react_limit")],by decide⟩],
      Foreign event := by
    intro event inside
    rw [List.mem_singleton.mp inside]
    exact ⟨by decide,fun _ => by decide⟩
  have counts := (turns_are_counted 1 [greeted false,greeted true] _ _ foreign (List.Perm.refl _)).2
  refine ⟨(counts.requests _ _ _ _ (by decide)).trans ?_,counts.runaways.trans ?_⟩
  · have two : ([greeted false,greeted true].flatMap Served.records).countP (fun record =>
        record.tenant = "demo".toList ∧ record.intent = "chitchat".toList ∧ record.blocked = false ∧
          record.outcome = .ok) = 2 := by decide
    rw [two]
    rfl
  · have one : ([greeted false,greeted true].flatMap Served.records).countP (runsAway 1) = 1 := by decide
    rw [one]
    rfl

end

end CustomerService.TurnAccounts
