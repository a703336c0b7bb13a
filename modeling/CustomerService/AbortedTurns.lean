import CustomerService.ThreadHistory
import CustomerService.Transition
import Mathlib.Algebra.Order.BigOperators.Group.List

/-! The turns of one thread, one after another. A turn may end early, at any node and between any
two; the checkpoint has what the nodes before have returned, the archive is written in the last. -/
namespace CustomerService.ChatGraph
open Text OrderAccess OrderReport Routing Supervisor NodeGraph Transition
open SummaryFacts (Kind Message roleText Checkpointed addNaming addNaming_adds)

variable {Score Body : Type}

/-! ### Runs -/

structure Thread (Body : Type) where
  checkpoint : Option (CSState Body)
  archive : Option (Archived Body)

variable (Body) in
def emptyThread : Thread Body := ⟨none,none⟩

/-- How a turn ends: by itself, be it with an exception, or cancelled after some nodes; the node
that is cancelled may have written the archive, when it is the last. -/
inductive Ending
  | whole
  | cancelled (nodes : Nat) (written : Bool)

/-- A turn that gets the session and starts the graph, one that does not, or the end of the
checkpoint's time. -/
inductive Action (Score Body : Type)
  | turn (outside : Outside Score Body) (turn : ChatTurn) (ending : Ending)
  | refused
  | expire

/-- The state that a turn starts from; the archive is read when there is no checkpoint. -/
def Thread.start (thread : Thread Body) (outside : Outside Score Body) (turn : ChatTurn) : CSState Body :=
  match thread.checkpoint with
  | some checkpoint => begin outside turn none checkpoint
  | none => begin outside turn thread.archive (blankState Body)

def Ending.committed (visits : List (NodeVisit Body)) : Ending → List (NodeVisit Body)
  | .whole => visits
  | .cancelled nodes _ => visits.take nodes

/-- The visits that have come to their write to the archive, where they have one. -/
def Ending.written (visits : List (NodeVisit Body)) : Ending → List (NodeVisit Body)
  | .whole => visits
  | .cancelled nodes true => visits.take (nodes + 1)
  | .cancelled nodes false => visits.take nodes

def Ending.completes (visits : List (NodeVisit Body)) (ending : Ending) : Bool :=
  (ending.committed visits).any (fun visit => decide (visit.node = .respond) && visit.result.isOk)

section
variable [LinearOrder Score] [Zero Score]

def step (thread : Thread Body) : Action Score Body → Thread Body
  | .turn outside turn ending =>
    let start := thread.start outside turn
    let visits := visits outside start
    { checkpoint := some ((graph outside).final start (ending.committed visits))
      archive := (archiveWrite outside (ending.written visits)).or thread.archive }
  | .refused => thread
  | .expire => { thread with checkpoint := none }

/-! ### How a turn ends -/

variable {outside : Outside Score Body} {start : CSState Body}

private theorem archiveWrite_inner {visits : List (NodeVisit Body)}
    (inner : ∀ visit ∈ visits, visit.node ≠ .respond) : archiveWrite outside visits = none := by
  unfold archiveWrite
  rw [List.find?_eq_none.mpr (fun visit listed => by simpa using inner visit listed)]
  rfl

private theorem archiveWrite_last {inner : List (NodeVisit Body)} {last : NodeVisit Body}
    (before : ∀ visit ∈ inner, visit.node ≠ .respond) :
    archiveWrite outside (inner ++ [last]) =
      if last.node = .respond then persisted outside last.before else none := by
  unfold archiveWrite
  rw [List.find?_append,List.find?_eq_none.mpr (fun visit listed => by simpa using before visit listed)]
  by_cases responds : last.node = .respond
  · simp [responds]
  · simp [responds]

private theorem persisted_of_error {state : CSState Body} {abort : Abort}
    (failed : respondNode outside state = .error abort) : persisted outside state = none := by
  unfold respondNode at failed
  unfold persisted
  cases ended : finalizeTurn outside state with
  | ok finalized =>
    rw [ended] at failed
    cases failed
  | error abort => exact ite_self _

private theorem node_of_last {state : CSState Body} {node : Node} (last : successor state node = none) :
    node = .respond := by
  cases node with
  | respond => rfl
  | _ => cases last

/-- What a turn leaves when it is cut off at a visit: the state that the visit finds, and no archive,
unless it is cancelled there after the write. -/
structure CutOff (outside : Outside Score Body) (start : CSState Body) (ending : Ending)
    (visit : NodeVisit Body) : Prop where
  listed : visit ∈ visits outside start
  left : (graph outside).final start (ending.committed (visits outside start)) = visit.before
  written : archiveWrite outside (ending.written (visits outside start)) = none ∨
    visit.node = .respond ∧ ending ≠ .whole ∧
      archiveWrite outside (ending.written (visits outside start)) = persisted outside visit.before

def Completed (outside : Outside Score Body) (start : CSState Body) (ending : Ending) : Prop :=
  ∃ visit ∈ visits outside start, ∃ update, respondNode outside visit.before = .ok update ∧
    (graph outside).final start (ending.committed (visits outside start)) =
      visit.before.apply outside.addMessages update ∧
    archiveWrite outside (ending.written (visits outside start)) = persisted outside visit.before

private theorem visits_split (outside : Outside Score Body) (start : CSState Body) :
    ∃ inner last, visits outside start = inner ++ [last] ∧
      (∀ visit ∈ inner, visit.node ≠ .respond) ∧
      ((∃ abort, last.result = .error abort) ∨ last.node = .respond ∧ ∃ update, last.result = .ok update) := by
  obtain ⟨inner,last,split,passed,ended⟩ := walk_ends (graph outside) start .security
  refine ⟨inner,last,split,fun visit listed responds => ?_,?_⟩
  · obtain ⟨update,follower,_,edge⟩ := passed visit listed
    rw [responds] at edge
    cases edge
  · refine ended.imp_right ?_
    intro ⟨update,finished,edge⟩
    exact ⟨node_of_last edge,update,finished⟩

private theorem whole_cases {ending : Ending}
    (committed : ending.committed (visits outside start) = visits outside start)
    (written : ending.written (visits outside start) = visits outside start) :
    (ending.completes (visits outside start) = true ∧ Completed outside start ending) ∨
      (ending.completes (visits outside start) = false ∧ ∃ visit, CutOff outside start ending visit) := by
  obtain ⟨inner,last,split,before,ended⟩ := visits_split outside start
  have listed : last ∈ visits outside start := by
    rw [split]
    exact List.mem_append_right _ (List.mem_singleton_self last)
  have ran : last.result = runNode outside last.before last.node := result_of_mem listed
  have leaves : (graph outside).final start (visits outside start) = (graph outside).after last := by
    unfold Graph.final
    rw [split,List.getLast?_concat]
    rfl
  unfold Completed Ending.completes
  rw [committed,written,leaves]
  rcases ended with ⟨abort,failed⟩ | ⟨responds,update,finished⟩
  · right
    constructor
    · rw [split,List.any_append,List.any_cons,List.any_nil,failed]
      simp only [Except.isOk,Except.toBool,Bool.and_false,Bool.or_false,List.any_eq_false]
      intro visit inside
      simp [before visit inside]
    · refine ⟨last,listed,?_,?_⟩
      · rw [committed,leaves]
        simp only [Graph.after,failed]
      · left
        rw [written,split,archiveWrite_last before]
        split_ifs with responds
        · rw [responds] at ran
          exact persisted_of_error (ran.symm.trans failed)
        · rfl
  · left
    rw [responds] at ran
    constructor
    · rw [List.any_eq_true]
      refine ⟨last,listed,?_⟩
      rw [responds,finished]
      rfl
    · refine ⟨last,listed,update,ran.symm.trans finished,?_,?_⟩
      · simp only [Graph.after,finished]
        rfl
      · rw [split,archiveWrite_last before,if_pos responds]

private theorem cancelled_cuts {nodes : Nat} {written : Bool} (early : nodes < (visits outside start).length) :
    (Ending.cancelled nodes written).completes (visits outside start) = false ∧
      ∃ visit, CutOff outside start (.cancelled nodes written) visit := by
  obtain ⟨inner,last,split,before,ended⟩ := visits_split outside start
  have few : nodes ≤ inner.length := by
    rw [split,List.length_append,List.length_singleton] at early
    omega
  have inside : (visits outside start).take nodes = inner.take nodes := by
    rw [split,List.take_append_of_le_length few]
  have cut (visit : NodeVisit Body) (listed : visit ∈ (visits outside start).take nodes) :
      visit.node ≠ .respond := by
    rw [inside] at listed
    exact before visit (List.mem_of_mem_take listed)
  have here : visits outside start =
      (visits outside start).take nodes ++ (visits outside start)[nodes] :: (visits outside start).drop (nodes + 1) := by
    rw [List.getElem_cons_drop,List.take_append_drop]
  constructor
  · unfold Ending.completes
    rw [List.any_eq_false]
    intro visit listed
    simp [cut visit listed]
  · refine ⟨(visits outside start)[nodes],List.getElem_mem early,final_take here,?_⟩
    cases written with
    | false => exact Or.inl (archiveWrite_inner cut)
    | true =>
      have next : (visits outside start).take (nodes + 1) =
          (visits outside start).take nodes ++ [(visits outside start)[nodes]] :=
        (List.take_concat_get' _ _ early).symm
      unfold Ending.written
      dsimp only
      rw [next,archiveWrite_last cut]
      split_ifs with responds
      · exact Or.inr ⟨responds,nofun,rfl⟩
      · exact Or.inl rfl

theorem ending_cases (outside : Outside Score Body) (start : CSState Body) (ending : Ending) :
    (ending.completes (visits outside start) = true ∧ Completed outside start ending) ∨
      (ending.completes (visits outside start) = false ∧ ∃ visit, CutOff outside start ending visit) := by
  cases ending with
  | whole => exact whole_cases rfl rfl
  | cancelled nodes written =>
    by_cases early : nodes < (visits outside start).length
    · exact Or.inr (cancelled_cuts early)
    · have late : (visits outside start).length ≤ nodes := Nat.le_of_not_lt early
      refine whole_cases (List.take_of_length_le late) ?_
      cases written with
      | false => exact List.take_of_length_le late
      | true => exact List.take_of_length_le (Nat.le_succ_of_le late)

/-! ### What a turn does to the conversation -/

/-- A turn before one of its nodes: after the first, the question has come to the messages. -/
structure MidTurn (outside : Outside Score Body) (start : CSState Body) (node : Node)
    (state : CSState Body) : Prop where
  first : node = .security → state = start
  checkpointed : Checkpointed state.messages
  sessionId : state.sessionId = start.sessionId
  summary : state.memory.sessionSummary = start.memory.sessionSummary
  messages : node ≠ .security →
    persons state.messages = persons start.messages ++ asked outside start.query

theorem midTurn_visits (names : NamesMessages outside.addMessages)
    (checkpointed : Checkpointed start.messages) :
    ∀ visit ∈ visits outside start, MidTurn outside start visit.node visit.before := by
  refine walk_invariant ?_ ⟨fun _ => rfl,checkpointed,rfl,rfl,fun later => absurd rfl later⟩
  intro state node update follower holds ran edge
  have later : follower ≠ .security := by
    have lower : follower.rank < node.rank := successor_rank edge
    intro again
    subst again
    cases node <;> exact absurd lower (by decide)
  by_cases security : node = .security
  · subst security
    obtain rfl := holds.first rfl
    obtain rfl := Except.ok.inj ran
    obtain ⟨kept,adds⟩ := security_messages names checkpointed
    refine ⟨fun again => absurd again later,kept,rfl,?_,fun _ => adds⟩
    change (CSState.apply outside.addMessages state _).memory.sessionSummary = _
    unfold securityNode
    dsimp only
    split <;> rfl
  · have inner : node ≠ .respond := fun responds => by
      rw [responds] at edge
      cases edge
    have aside : update.Aside := aside_of_ran ⟨security,inner⟩ ran
    obtain ⟨_,messages,summary⟩ : (state.apply outside.addMessages update).query = state.query ∧
      (state.apply outside.addMessages update).messages = state.messages ∧
      (state.apply outside.addMessages update).memory.sessionSummary = state.memory.sessionSummary :=
      apply_aside aside
    refine ⟨fun again => absurd again later,?_,holds.sessionId,summary.trans holds.summary,?_⟩
    · change Checkpointed (state.apply outside.addMessages update).messages
      rw [messages]
      exact holds.checkpointed
    · intro _
      change persons (state.apply outside.addMessages update).messages = _
      rw [messages]
      exact holds.messages security

end

/-! ### Threads -/

def Thread.cold (thread : Thread Body) : Conversation Body :=
  thread.archive.elim (blankState Body).conversation Archived.conversation

/-- The conversation in the checkpoint, or in the archive where there is none. -/
def Thread.seen (thread : Thread Body) : Conversation Body :=
  thread.checkpoint.elim thread.cold CSState.conversation

def Thread.Agrees (thread : Thread Body) : Prop := thread.seen = thread.cold

def Thread.Sound (thread : Thread Body) : Prop :=
  ∀ checkpoint, thread.checkpoint = some checkpoint → Kept checkpoint.messages

/-- The reducer gives every new message an id, and a compression keeps some recent messages. -/
def Action.Given : Action Score Body → Prop
  | .turn outside _ _ =>
    NamesMessages outside.addMessages ∧ 1 ≤ outside.settings.contextAlwaysKeepRecent
  | .refused | .expire => True

private theorem sound_cold {thread : Thread Body} (cold : thread.checkpoint = none) : thread.Sound := by
  intro checkpoint here
  rw [cold] at here
  cases here

theorem start_inputs (thread : Thread Body) (outside : Outside Score Body) (turn : ChatTurn) :
    (thread.start outside turn).query = turn.message ∧
      (thread.start outside turn).sessionId = turn.sid := by
  obtain ⟨checkpoint,archive⟩ := thread
  cases checkpoint <;> exact ⟨rfl,rfl⟩

theorem start_seen {thread : Thread Body} (sound : thread.Sound) {outside : Outside Score Body}
    (names : NamesMessages outside.addMessages) (turn : ChatTurn) :
    Checkpointed (thread.start outside turn).messages ∧
      (thread.start outside turn).conversation = thread.seen := by
  obtain ⟨checkpoint,archive⟩ := thread
  cases checkpoint with
  | some checkpoint => exact begin_checkpoint outside turn (sound checkpoint rfl)
  | none =>
    cases archive with
    | some row => exact begin_archive names turn row
    | none => exact begin_checkpoint outside turn (kept_iff.mpr ⟨List.nodup_nil,nofun⟩)

/-- After a turn that completes, hot and cold hold one conversation, and the next turn goes on with
it from either. -/
structure Saved (left : Thread Body) : Prop where
  agrees : left.Agrees
  onward : ∀ (Score : Type) (outside : Outside Score Body) (turn : ChatTurn),
    NamesMessages outside.addMessages →
    (left.start outside turn).conversation =
      (Thread.start { left with checkpoint := none } outside turn).conversation

variable [LinearOrder Score] [Zero Score]

/-- After a turn that is cut off at a visit, the checkpoint holds what the visit found: all that was
there and, after the first node, the question. The archive holds nothing of the turn, unless it was
cancelled in the last node. -/
structure Unsaved (thread : Thread Body) (outside : Outside Score Body) (turn : ChatTurn)
    (ending : Ending) (left : Thread Body) (visit : NodeVisit Body) : Prop where
  checkpoint : left.checkpoint = some visit.before
  first : visit.node = .security → left.seen = thread.seen
  messages : visit.node ≠ .security →
    left.seen.messages = thread.seen.messages ++ asked outside turn.message
  summary : left.seen.memory.sessionSummary = thread.seen.memory.sessionSummary
  archive : left.archive = thread.archive ∨ visit.node = .respond ∧ ending ≠ .whole ∧
    left.archive = (persisted outside visit.before).or thread.archive

def Leaves (thread : Thread Body) : Action Score Body → Prop
  | .turn outside turn ending =>
    let left := step thread (.turn outside turn ending)
    if ending.completes (visits outside (thread.start outside turn)) then Saved left
    else ∃ visit ∈ visits outside (thread.start outside turn),
      Unsaved thread outside turn ending left visit
  | .refused | .expire => True

private theorem saved_of_agrees {left : Thread Body} (sound : left.Sound) (agrees : left.Agrees) : Saved left := by
  refine ⟨agrees,fun Score outside turn names => ?_⟩
  have hot := (start_seen sound names turn).2
  have expired : Thread.Sound { left with checkpoint := none } := sound_cold rfl
  have cold := (start_seen expired names turn).2
  exact hot.trans (agrees.trans cold.symm)

theorem completed_saved {thread : Thread Body} (sound : thread.Sound) {outside : Outside Score Body}
    (names : NamesMessages outside.addMessages) (recent : 1 ≤ outside.settings.contextAlwaysKeepRecent)
    {turn : ChatTurn} {ending : Ending}
    (completed : Completed outside (thread.start outside turn) ending) :
    Saved (step thread (.turn outside turn ending)) ∧
      (step thread (.turn outside turn ending)).Sound := by
  obtain ⟨visit,listed,update,ran,left,written⟩ := completed
  have midTurn := midTurn_visits names (start_seen sound names turn).1 visit listed
  have named : (identityView outside.defaultTenant visit.before).sessionId ≠ [] := by
    change strip visit.before.sessionId ≠ []
    rw [midTurn.sessionId,(start_inputs thread outside turn).2]
    exact turn.sid_given
  obtain ⟨kept,row,archived,same⟩ := respond_agrees names recent named midTurn.checkpointed ran
  have leaves : step thread (.turn outside turn ending) =
      ⟨some (visit.before.apply outside.addMessages update),some row⟩ := by
    unfold step
    dsimp only
    rw [left,written,archived]
    rfl
  rw [leaves]
  have sound' : Thread.Sound
      (⟨some (visit.before.apply outside.addMessages update),some row⟩ : Thread Body) := by
    intro checkpoint here
    obtain rfl := Option.some.inj here
    exact kept
  exact ⟨saved_of_agrees sound' same,sound'⟩

theorem cutOff_unsaved {thread : Thread Body} (sound : thread.Sound) {outside : Outside Score Body}
    (names : NamesMessages outside.addMessages) {turn : ChatTurn} {ending : Ending}
    {visit : NodeVisit Body} (cut : CutOff outside (thread.start outside turn) ending visit) :
    Unsaved thread outside turn ending (step thread (.turn outside turn ending)) visit ∧
      (step thread (.turn outside turn ending)).Sound := by
  obtain ⟨checkpointed,same⟩ := start_seen sound names turn
  have midTurn := midTurn_visits names checkpointed visit cut.listed
  have hot : (step thread (.turn outside turn ending)).checkpoint = some visit.before :=
    congrArg some cut.left
  have seen : (step thread (.turn outside turn ending)).seen = visit.before.conversation := by
    unfold Thread.seen
    rw [hot]
    rfl
  constructor
  · refine ⟨hot,fun first => ?_,fun later => ?_,?_,?_⟩
    · rw [seen,midTurn.first first,same]
    · rw [seen,← same,← (start_inputs thread outside turn).1]
      exact midTurn.messages later
    · rw [seen,← same]
      exact midTurn.summary
    · change (archiveWrite outside _).or thread.archive = _ ∨ _ ∧ _ ∧
        (archiveWrite outside _).or thread.archive = _
      rcases cut.written with none' | ⟨responds,cancelled,write⟩
      · left
        rw [none']
        rfl
      · right
        rw [write]
        exact ⟨responds,cancelled,rfl⟩
  · intro checkpoint here
    obtain rfl := Option.some.inj (hot.symm.trans here)
    exact kept_of_checkpointed midTurn.checkpointed

theorem step_leaves {thread : Thread Body} (sound : thread.Sound) {action : Action Score Body}
    (given : action.Given) : Leaves thread action ∧ (step thread action).Sound := by
  cases action with
  | refused => exact ⟨trivial,sound⟩
  | expire => exact ⟨trivial,sound_cold rfl⟩
  | turn outside turn ending =>
    obtain ⟨names,recent⟩ := given
    simp only [Leaves]
    rcases ending_cases outside (thread.start outside turn) ending with
      ⟨whole,completed⟩ | ⟨short,visit,cut⟩
    · rw [if_pos whole]
      exact completed_saved sound names recent completed
    · rw [short,if_neg Bool.false_ne_true]
      obtain ⟨unsaved,sound'⟩ := cutOff_unsaved sound names cut
      exact ⟨⟨visit,cut.listed,unsaved⟩,sound'⟩

/-- Every turn of a thread that completes leaves one conversation in the checkpoint and in the
archive, whatever turns before it were cut off; a turn that is cut off leaves its question in the checkpoint
alone. -/
theorem turns_leave (actions : List (Action Score Body)) (given : ∀ action ∈ actions, action.Given) :
    Along step Leaves (emptyThread Body) actions := by
  have general : ∀ thread : Thread Body, thread.Sound → Along step Leaves thread actions := by
    induction actions with
    | nil => exact fun _ _ => trivial
    | cons action rest ih =>
      obtain ⟨first,later⟩ := List.forall_mem_cons.mp given
      intro thread sound
      obtain ⟨leaves,sound'⟩ := step_leaves sound first
      exact ⟨leaves,ih later _ sound'⟩
  exact general (emptyThread Body) (sound_cold rfl)

/-! ### Two turns -/

def freshId (history : List Message) : Text :=
  List.replicate ((history.map (fun message => (message.id.getD []).length)).sum + 1) 'x'

private theorem freshId_fresh (history : List Message) : some (freshId history) ∉ history.map Message.id := by
  intro listed
  obtain ⟨message,inside,same⟩ := List.mem_map.mp listed
  have shorter := List.le_sum_of_mem
    (List.mem_map_of_mem (f := fun message : Message => (message.id.getD []).length) inside)
  have length : (message.id.getD []).length = (freshId history).length := by
    rw [same]
    rfl
  unfold freshId at length
  rw [List.length_replicate] at length
  omega

private theorem freshId_names : NamesMessages (addNaming freshId) := by
  refine ⟨addNaming_adds freshId,fun history news => ?_⟩
  induction news generalizing history with
  | nil => exact fun _ => ⟨[],rfl,List.nodup_nil,nofun,(List.append_nil _).symm⟩
  | cons new rest ih =>
    intro unnamed
    obtain ⟨none',later⟩ := List.forall_mem_cons.mp unnamed
    obtain ⟨ids,size,distinct,fresh,same⟩ := ih (history ++ [{ new with id := some (freshId history) }]) later
    have old (id : Text) (listed : id ∈ ids) : id ≠ freshId history ∧ some id ∉ history.map Message.id := by
      have absent := (fresh id listed).2
      rw [List.map_append,List.mem_append,not_or] at absent
      exact ⟨fun again => absent.2 (List.mem_singleton.mpr (congrArg some again)),absent.1⟩
    refine ⟨freshId history :: ids,congrArg _ size,?_,?_,?_⟩
    · exact List.nodup_cons.mpr ⟨fun listed => (old _ listed).1 rfl,distinct⟩
    · intro id listed
      rcases List.mem_cons.mp listed with rfl | inside
      · exact ⟨nofun,freshId_fresh history⟩
      · exact ⟨(fresh id inside).1,(old id inside).2⟩
    · change addNaming freshId (history ++ _) _ = _ at same
      rw [List.append_assoc,List.singleton_append] at same
      rw [List.zipWith_cons_cons,← same,List.map_cons]
      unfold addNaming
      rw [List.foldl_cons]
      dsimp only
      rw [if_pos none']

def freshOutside : Outside Int Unit := { bareOutside with addMessages := addNaming freshId }

def spentOutside : Outside Int Unit := { freshOutside with reply := fun _ _ _ => .quotaExceeded }

private theorem askTurn_sid : strip "s1".toList ≠ [] := by decide

def askTurn : ChatTurn := ⟨"帮我看看这个吧".toList,"demo".toList,"u1".toList,"s1".toList,askTurn_sid⟩

theorem freshOutside_given (turn : ChatTurn) (ending : Ending) :
    (Action.turn freshOutside turn ending).Given := ⟨freshId_names,by decide⟩

private theorem spentOutside_given (turn : ChatTurn) (ending : Ending) :
    (Action.turn spentOutside turn ending).Given := ⟨freshId_names,by decide⟩

/-- The quota cuts a turn off at the router, the next one completes, and another starts from the
archive. -/
theorem turns_leave_after_quota :
    (Ending.whole.completes (visits spentOutside ((emptyThread Unit).start spentOutside askTurn)) = false ∧
      Ending.whole.completes (visits freshOutside ((run step (emptyThread Unit)
        [.turn spentOutside askTurn .whole]).start freshOutside askTurn)) = true) ∧
    Along step Leaves (emptyThread Unit) [.turn spentOutside askTurn .whole,
      .turn freshOutside askTurn .whole,.expire,.turn freshOutside askTurn (.cancelled 3 true)] := by
  refine ⟨⟨by decide +kernel,by decide +kernel⟩,turns_leave _ ?_⟩
  simp only [List.forall_mem_cons]
  exact ⟨spentOutside_given askTurn _,freshOutside_given askTurn _,trivial,freshOutside_given askTurn _,
    List.forall_mem_nil _⟩

/-- The question of a turn that the quota cuts off is in the checkpoint and not in the archive. -/
theorem spent_question_not_archived :
    ¬∀ actions : List (Action Int Unit), (∀ action ∈ actions, action.Given) →
      Throughout step Thread.Agrees (emptyThread Unit) actions := by
  intro always
  have agrees := (always [.turn spentOutside askTurn .whole]
    (List.forall_mem_singleton.mpr (spentOutside_given _ _))).last
  have hot : (run step (emptyThread Unit)
      [.turn spentOutside askTurn .whole]).seen.messages.length = 1 := by decide +kernel
  rw [show Thread.seen _ = _ from agrees] at hot
  exact absurd hot (by decide +kernel)

end CustomerService.ChatGraph
