import CustomerService.AbortedTurns
import CustomerService.RagFixpoint

/-! Compaction over the turns of a thread. A turn that comes to its end leaves no message in the
checkpoint or the archive that compaction would change, and no later turn brings one. -/
namespace CustomerService.CompactedThreads
open Text ChatGraph Transition
open SummaryFacts (Kind Message CompressResult roleText archived compactRagMessage compactRagHistory
  applyRagCompact keptBy newMessage compressByImportance Arrived Checkpointed compact_cases)

variable {Score Body : Type}

/-! ### Messages -/

def Settled (said : Kind × Text) : Prop := said.1 = .ai → compactRagHistory said.2 = said.2

def SettledAll (said : List (Kind × Text)) : Prop := ∀ one ∈ said, Settled one

private theorem compact_eq_iff (message : Message) :
    compactRagMessage message = message ↔ Settled (roleText message) := by
  unfold compactRagMessage Settled roleText
  constructor
  · intro same ai
    dsimp only at ai ⊢
    rw [if_neg (not_not.mpr ai)] at same
    by_contra changed
    rw [if_neg changed] at same
    exact changed (congrArg Message.text same)
  · intro settled
    split
    · rfl
    · rename_i ai
      exact if_pos (settled (not_not.mp ai))

private theorem settled_compact (message : Message) : Settled (roleText (compactRagMessage message)) := by
  rcases compact_cases message with same | ⟨_,same⟩
  · rw [same]
    exact (compact_eq_iff message).mp same
  · rw [same]
    exact fun _ => RagFixpoint.compact_compact message.text

private theorem compact_changed {message : Message} (changed : compactRagMessage message ≠ message) :
    (compactRagMessage message).text ≠ message.text := by
  intro same
  rcases compact_cases message with equal | ⟨ai,equal⟩
  · exact changed equal
  · rw [equal] at same
    exact changed ((compact_eq_iff message).mpr (fun _ => same))

private theorem settled_persons {messages : List Message} :
    SettledAll (persons messages) ↔ ∀ message ∈ messages, compactRagMessage message = message := by
  constructor
  · intro settled message member
    refine (compact_eq_iff message).mpr (fun ai => ?_)
    have spoke : message.kind = .ai := ai
    have listed : roleText message ∈ persons messages :=
      List.mem_map_of_mem (List.mem_filter.mpr ⟨member,by rw [archived,spoke]; rfl⟩)
    exact settled _ listed ai
  · intro same said listed
    obtain ⟨message,member,rfl⟩ := List.mem_map.mp listed
    exact (compact_eq_iff message).mp (same message (List.mem_of_mem_filter member))

/-! ### One compression -/

/-- The new message stands for one whose text it changes. -/
def Replaces (messages : List Message) (new : Message) : Prop :=
  ∃ message ∈ messages, new = compactRagMessage message ∧ new.text ≠ message.text

private theorem replaces_of_identity {messages : List Message} {message : Message} (member : message ∈ messages)
    (other : (compactRagMessage message).identity ≠ message.identity) :
    Replaces messages (compactRagMessage message) :=
  ⟨message,member,rfl,compact_changed (fun same => other (by rw [same]))⟩

private theorem applied_replaces {messages : List Message} {new : Message}
    (listed : new ∈ (applyRagCompact messages).2) : Replaces messages new := by
  obtain ⟨message,inside,rfl⟩ := List.mem_map.mp (List.mem_of_mem_filter listed)
  obtain ⟨member,other⟩ := List.mem_filter.mp inside
  exact replaces_of_identity member (of_decide_eq_true other)

section
variable [LinearOrder Score] [Zero Score] (services : SummaryFacts.Services Score)
  (options : SummaryFacts.Options Score)

private theorem graded_replaces {messages : List Message} {new : Message}
    (listed : new ∈ SummaryFacts.updatedAfterGrading services options messages) :
    ∃ message ∈ messages, new = compactRagMessage message ∧ new.text ≠ message.text := by
  obtain ⟨message,_,found⟩ := List.mem_filterMap.mp listed
  rw [SummaryFacts.grading_spec] at found
  obtain ⟨orig,here,_,rfl,other⟩ := SummaryFacts.noted_changed found
  exact replaces_of_identity (SummaryFacts.compactedTurns_subset services options messages here) other

omit [LinearOrder Score] [Zero Score] in
theorem found_ids {messages : List Message} {found : Message → Option Message}
    (named : ∀ message ∈ messages, ∀ new, found message = some new → new.id = message.id) :
    ((messages.filterMap found).map Message.id).Sublist (messages.map Message.id) := by
  induction messages with
  | nil => exact List.Sublist.refl _
  | cons message rest ih =>
    obtain ⟨here,later⟩ := List.forall_mem_cons.mp named
    cases known : found message with
    | none =>
      rw [List.filterMap_cons_none known]
      exact (ih later).cons _
    | some new =>
      rw [List.filterMap_cons_some known,List.map_cons,List.map_cons,here new known]
      exact (ih later).cons_cons _

private theorem graded_ids {messages : List Message} (arrived : Arrived messages) :
    ((SummaryFacts.updatedAfterGrading services options messages).map Message.id).Sublist
      (messages.map Message.id) := by
  refine (found_ids (fun message inside new known => ?_)).trans (List.filter_sublist.map _)
  rw [SummaryFacts.noted_of_grading services options arrived (List.mem_of_mem_filter inside) known,
    SummaryFacts.compact_id]

omit [LinearOrder Score] [Zero Score] in
theorem dropped_sublist (updated overflow : List Message) :
    (SummaryFacts.dropUpdated updated overflow).Sublist updated := List.filter_sublist

private theorem finalized_sublist (messages : List Message) (summary : Text) :
    (SummaryFacts.finalizeCompression services options
      (SummaryFacts.planOver services options messages) summary).updated.Sublist
        (SummaryFacts.updatedAfterGrading services options messages) := by
  rw [SummaryFacts.finalize_updated]
  exact (dropped_sublist _ _).trans (dropped_sublist _ _)

private theorem compress_replaces (summarize : List Message → Text → Text) {messages : List Message}
    (arrived : Arrived messages) :
    (∀ new ∈ (compressByImportance services options summarize messages).updated, Replaces messages new) ∧
      ((compressByImportance services options summarize messages).updated.map Message.id).Nodup := by
  unfold compressByImportance SummaryFacts.planCompression
  dsimp only
  split_ifs with nothing within
  · exact ⟨nofun,List.nodup_nil⟩
  · refine ⟨fun new listed => applied_replaces listed,arrived.ids.sublist ?_⟩
    refine (List.filter_sublist.map _).trans ?_
    rw [List.map_map]
    have same : Message.id ∘ compactRagMessage = Message.id := funext SummaryFacts.compact_id
    rw [same]
    exact List.filter_sublist.map _
  · have inside := finalized_sublist services options messages
    refine ⟨fun new listed => graded_replaces services options ((inside _).subset listed),?_⟩
    exact arrived.ids.sublist (((inside _).map _).trans (graded_ids services options arrived))

end

/-! ### One turn -/

def updatedAt [LinearOrder Score] [Zero Score] (outside : Outside Score Body) (state : CSState Body) :
    List Message :=
  match outside.summarize state.messages state.memory.sessionSummary with
  | .ok summarize =>
    (SummaryFacts.compressTurn (outside.compression state.query) outside.settings summarize
      (respondState state)).updated
  | .error _ => []

/-- The messages that a turn replaces in the checkpoint, where it comes to its end. -/
def replaced [LinearOrder Score] [Zero Score] (thread : Thread Body) : Action Score Body → List Message
  | .turn outside turn ending =>
    match (ending.committed (visits outside (thread.start outside turn))).find?
      (fun visit => decide (visit.node = .respond) && visit.result.isOk) with
    | some visit => updatedAt outside visit.before
    | none => []
  | .refused | .expire => []

def Action.completes [LinearOrder Score] [Zero Score] (thread : Thread Body) : Action Score Body → Bool
  | .turn outside turn ending => ending.completes (visits outside (thread.start outside turn))
  | .refused | .expire => false

variable [LinearOrder Score] [Zero Score]

private theorem replaced_of_short {thread : Thread Body} {action : Action Score Body}
    (short : Action.completes thread action = false) : replaced thread action = [] := by
  cases action with
  | refused => rfl
  | expire => rfl
  | turn outside turn ending =>
    unfold replaced
    dsimp only
    rw [List.find?_eq_none.mpr]
    intro visit listed completes
    change Ending.completes _ ending = false at short
    rw [Ending.completes,List.any_eq_false] at short
    exact short visit listed completes

private theorem replaced_cases (thread : Thread Body) (outside : Outside Score Body) (turn : ChatTurn)
    (ending : Ending) : replaced thread (.turn outside turn ending) = [] ∨
      ∃ visit ∈ visits outside (thread.start outside turn),
        replaced thread (.turn outside turn ending) = updatedAt outside visit.before := by
  unfold replaced
  dsimp only
  split
  · rename_i visit found
    have committed := List.mem_of_find?_eq_some found
    refine Or.inr ⟨visit,?_,rfl⟩
    cases ending with
    | whole => exact committed
    | cancelled nodes written => exact List.mem_of_mem_take committed
  · exact Or.inl rfl

private theorem stored_settled (answer : Text) (ref : Nat) :
    compactRagMessage (newMessage .ai (SummaryFacts.buildStoredAnswer answer).2 ref) =
      newMessage .ai (SummaryFacts.buildStoredAnswer answer).2 ref := by
  refine (compact_eq_iff _).mpr (fun _ => ?_)
  unfold roleText newMessage SummaryFacts.buildStoredAnswer
  exact RagFixpoint.compact_compact _

private theorem updatedAt_replaces {outside : Outside Score Body} {state : CSState Body}
    (checkpointed : Checkpointed state.messages) :
    (∀ new ∈ updatedAt outside state, Replaces state.messages new) ∧
      ((updatedAt outside state).map Message.id).Nodup := by
  unfold updatedAt
  split
  · rename_i summarize _
    obtain ⟨changes,once⟩ := compress_replaces (outside.compression state.query)
      (SummaryFacts.turnOptions outside.settings (respondState state)) summarize
      (SummaryFacts.arrived_projected checkpointed
        (SummaryFacts.buildStoredAnswer (SummaryFacts.resolveRespondAnswer (respondState state))).2)
    refine ⟨fun new listed => ?_,once⟩
    obtain ⟨message,member,rfl,other⟩ := changes new listed
    rcases List.mem_append.mp member with stored | last
    · exact ⟨message,stored,rfl,other⟩
    · rw [List.mem_singleton.mp last,stored_settled] at other
      exact absurd rfl other
  · exact ⟨nofun,List.nodup_nil⟩

private theorem updatedAt_settled {outside : Outside Score Body} {state : CSState Body}
    (checkpointed : Checkpointed state.messages) (settled : SettledAll (persons state.messages)) :
    updatedAt outside state = [] := by
  rw [List.eq_nil_iff_forall_not_mem]
  intro new listed
  obtain ⟨message,member,rfl,other⟩ := (updatedAt_replaces checkpointed).1 new listed
  rw [settled_persons.mp settled message member] at other
  exact other rfl

private theorem persisted_settled {outside : Outside Score Body} {state : CSState Body}
    (checkpointed : Checkpointed state.messages) {row : Archived Body}
    (written : persisted outside state = some row) : SettledAll row.conversation.messages := by
  unfold persisted at written
  split at written
  · cases written
  · obtain ⟨update,finalized,rfl⟩ := Option.map_eq_some_iff.mp written
    have ended : finalizeTurn outside state = .ok update := by
      cases known : finalizeTurn outside state with
      | ok other =>
        rw [known] at finalized
        exact congrArg _ (Option.some.inj finalized)
      | error abort =>
        rw [known] at finalized
        cases finalized
    obtain ⟨summarize,_,same⟩ := bind_ok ended
    obtain rfl := Except.ok.inj same
    obtain ⟨keep,divides⟩ := SummaryFacts.compress_divides (outside.compression state.query)
      (SummaryFacts.turnOptions outside.settings (respondState state)) summarize
      (SummaryFacts.arrived_projected checkpointed
        (SummaryFacts.buildStoredAnswer (SummaryFacts.resolveRespondAnswer (respondState state))).2)
    intro said listed
    unfold Archived.conversation at listed
    dsimp only at listed
    rw [SummaryFacts.decode_encode] at listed
    obtain ⟨message,inside,rfl⟩ := List.mem_map.mp listed
    have kept := List.mem_of_mem_filter inside
    have same : (SummaryFacts.finalizeRespondTurn (outside.compression state.query) outside.settings
        summarize (respondState state)).keptMessages = keptBy _ keep := divides.kept
    rw [same] at kept
    obtain ⟨original,_,rfl⟩ := SummaryFacts.mem_keptBy kept
    exact settled_compact original

/-! ### Threads -/

/-- Compaction changes nothing that the checkpoint or the archive holds. -/
structure Compacted (thread : Thread Body) : Prop where
  seen : SettledAll thread.seen.messages
  cold : SettledAll thread.cold.messages

omit [LinearOrder Score] [Zero Score] in
theorem asked_settled (outside : Outside Score Body) (message : Text) :
    SettledAll (asked outside message) := by
  unfold asked
  dsimp only
  split
  · intro said listed ai
    rw [List.mem_singleton.mp listed] at ai
    cases ai
  · exact nofun

private theorem found_settled {thread : Thread Body} (sound : thread.Sound) (compacted : Compacted thread)
    {outside : Outside Score Body} (names : NamesMessages outside.addMessages) {turn : ChatTurn}
    {visit : NodeVisit Body} (listed : visit ∈ visits outside (thread.start outside turn)) :
    SettledAll (persons visit.before.messages) := by
  obtain ⟨checkpointed,same⟩ := start_seen sound names turn
  have midTurn := midTurn_visits names checkpointed visit listed
  have start : SettledAll (persons (thread.start outside turn).messages) := by
    have messages := congrArg Conversation.messages same
    rw [show persons (thread.start outside turn).messages = thread.seen.messages from messages]
    exact compacted.seen
  by_cases first : visit.node = .security
  · rw [midTurn.first first]
    exact start
  · rw [midTurn.messages first]
    intro said member
    rcases List.mem_append.mp member with old | new
    · exact start said old
    · exact asked_settled outside _ said new

private theorem written_settled {outside : Outside Score Body} {state : CSState Body}
    (checkpointed : Checkpointed state.messages) {thread : Thread Body}
    (cold : SettledAll thread.cold.messages) {left : Thread Body}
    (archive : left.archive = (persisted outside state).or thread.archive) :
    SettledAll left.cold.messages := by
  unfold Thread.cold
  rw [archive]
  cases written : persisted outside state with
  | none => exact cold
  | some row => exact persisted_settled checkpointed written

private theorem completed_compacts {thread : Thread Body} (sound : thread.Sound) {outside : Outside Score Body}
    (names : NamesMessages outside.addMessages) (recent : 1 ≤ outside.settings.contextAlwaysKeepRecent)
    {turn : ChatTurn} {ending : Ending}
    (completed : Completed outside (thread.start outside turn) ending) :
    Compacted (step thread (.turn outside turn ending)) := by
  obtain ⟨saved,_⟩ := completed_saved sound names recent completed
  obtain ⟨visit,listed,update,ran,_,written⟩ := completed
  have midTurn := midTurn_visits names (start_seen sound names turn).1 visit listed
  have named : (identityView outside.defaultTenant visit.before).sessionId ≠ [] := by
    change strip visit.before.sessionId ≠ []
    rw [midTurn.sessionId,(start_inputs thread outside turn).2]
    exact turn.sid_given
  obtain ⟨_,row,archived,_⟩ := respond_agrees names recent named midTurn.checkpointed ran
  have cold : SettledAll (step thread (.turn outside turn ending)).cold.messages := by
    have archive : (step thread (.turn outside turn ending)).archive = some row := by
      unfold step
      dsimp only
      rw [written,archived]
      rfl
    unfold Thread.cold
    rw [archive]
    exact persisted_settled midTurn.checkpointed archived
  refine ⟨?_,cold⟩
  rw [show (step thread (.turn outside turn ending)).seen = _ from saved.agrees]
  exact cold

private theorem cutOff_compacts {thread : Thread Body} (sound : thread.Sound) (compacted : Compacted thread)
    {outside : Outside Score Body} (names : NamesMessages outside.addMessages) {turn : ChatTurn}
    {ending : Ending} {visit : NodeVisit Body}
    (cut : CutOff outside (thread.start outside turn) ending visit) :
    Compacted (step thread (.turn outside turn ending)) := by
  obtain ⟨unsaved,_⟩ := cutOff_unsaved sound names cut
  have midTurn := midTurn_visits names (start_seen sound names turn).1 visit cut.listed
  constructor
  · unfold Thread.seen
    rw [unsaved.checkpoint]
    exact found_settled sound compacted names cut.listed
  · rcases unsaved.archive with same | ⟨_,_,write⟩
    · unfold Thread.cold
      rw [same]
      exact compacted.cold
    · exact written_settled midTurn.checkpointed compacted.cold write

/-- What one action does to the compaction of a thread. -/
structure Settles (thread : Thread Body) (action : Action Score Body) : Prop where
  completes : Action.completes thread action = true → Compacted (step thread action)
  stays : Compacted thread → Compacted (step thread action)
  nothing : Compacted thread → replaced thread action = []
  once : ((replaced thread action).map Message.id).Nodup

private theorem step_settles {thread : Thread Body} (sound : thread.Sound) {action : Action Score Body}
    (given : action.Given) : Settles thread action := by
  cases action with
  | refused => exact ⟨nofun,id,fun _ => rfl,List.nodup_nil⟩
  | expire => exact ⟨nofun,fun compacted => ⟨compacted.cold,compacted.cold⟩,fun _ => rfl,List.nodup_nil⟩
  | turn outside turn ending =>
    obtain ⟨names,recent⟩ := given
    obtain ⟨checkpointed,_⟩ := start_seen sound names turn
    refine ⟨fun completes => ?_,fun compacted => ?_,fun compacted => ?_,?_⟩
    · rcases ending_cases outside (thread.start outside turn) ending with
        ⟨_,completed⟩ | ⟨short,_⟩
      · exact completed_compacts sound names recent completed
      · rw [show Ending.completes _ ending = true from completes] at short
        cases short
    · rcases ending_cases outside (thread.start outside turn) ending with
        ⟨_,completed⟩ | ⟨_,visit,cut⟩
      · exact completed_compacts sound names recent completed
      · exact cutOff_compacts sound compacted names cut
    · rcases replaced_cases thread outside turn ending with nothing | ⟨visit,listed,same⟩
      · exact nothing
      · rw [same]
        exact updatedAt_settled (midTurn_visits names checkpointed visit listed).checkpointed
          (found_settled sound compacted names listed)
    · rcases replaced_cases thread outside turn ending with nothing | ⟨visit,listed,same⟩
      · rw [nothing]
        exact List.nodup_nil
      · rw [same]
        exact (updatedAt_replaces (midTurn_visits names checkpointed visit listed).checkpointed).2

/-! ### Runs -/

def replacements (thread : Thread Body) : List (Action Score Body) → List (List Message)
  | [] => []
  | action::rest => replaced thread action :: replacements (step thread action) rest

private theorem replacements_compacted {actions : List (Action Score Body)}
    (given : ∀ action ∈ actions, action.Given) {thread : Thread Body} (sound : thread.Sound)
    (compacted : Compacted thread) : (replacements thread actions).flatten = [] := by
  induction actions generalizing thread with
  | nil => rfl
  | cons action rest ih =>
    obtain ⟨here,later⟩ := List.forall_mem_cons.mp given
    have settles := step_settles sound here
    rw [replacements,List.flatten_cons,settles.nothing compacted,List.nil_append]
    exact ih later (step_leaves sound here).2 (settles.stays compacted)

/-- Only the first turn of a run that comes to its end replaces messages, and each of them once. -/
theorem replacements_once {actions : List (Action Score Body)}
    (given : ∀ action ∈ actions, action.Given) {thread : Thread Body} (sound : thread.Sound) :
    ((replacements thread actions).flatten.map Message.id).Nodup := by
  induction actions generalizing thread with
  | nil => exact List.nodup_nil
  | cons action rest ih =>
    obtain ⟨here,later⟩ := List.forall_mem_cons.mp given
    have settles := step_settles sound here
    have sound' := (step_leaves sound here).2
    rw [replacements,List.flatten_cons]
    cases ends : Action.completes thread action with
    | true =>
      rw [replacements_compacted later sound' (settles.completes ends),List.append_nil]
      exact settles.once
    | false =>
      rw [replaced_of_short ends,List.nil_append]
      exact ih later sound'

/-- Compaction of its own result changes nothing; what a compression lists as updated has another
text than the message it stands for; and no run of turns replaces a message twice. -/
theorem compaction_settles (Score Body : Type) [LinearOrder Score] [Zero Score] :
    (∀ text, compactRagHistory (compactRagHistory text) = compactRagHistory text) ∧
    (∀ messages, ∀ new ∈ (applyRagCompact messages).2, Replaces messages new) ∧
    (∀ (services : SummaryFacts.Services Score) (options : SummaryFacts.Options Score)
      (summarize : List Message → Text → Text) (messages : List Message), Arrived messages →
        ∀ new ∈ (compressByImportance services options summarize messages).updated,
          Replaces messages new) ∧
    (∀ (thread : Thread Body) (actions : List (Action Score Body)), thread.Sound →
      (∀ action ∈ actions, action.Given) →
        ((replacements thread actions).flatten.map Message.id).Nodup) :=
  ⟨RagFixpoint.compact_compact,fun _ _ listed => applied_replaces listed,
    fun services options summarize _ arrived => (compress_replaces services options summarize arrived).1,
    fun _ _ sound given => replacements_once given sound⟩

/-! ### An outline -/

def outline : Text := "## Python\n### 课程模块\n".toList ++ List.replicate 400 'x'

example : compactRagHistory outline = "## Python".toList := by decide +kernel

/-- A thread whose checkpoint holds an answer that has not been compacted. -/
def outlineThread : Thread Unit :=
  ⟨some { blankState Unit with messages := [⟨.ai,some "a".toList,outline,0,false⟩] },none⟩

private theorem outlineThread_sound : outlineThread.Sound := by
  intro checkpoint same
  obtain rfl := Option.some.inj same
  exact kept_iff.mpr ⟨List.nodup_singleton _,by simp⟩

theorem compaction_settles_outline :
    (∀ new ∈ (compressByImportance (SummaryFacts.tableServices []) ⟨4000,none,4,3,6,40,[],none⟩
        (fun _ summary => summary) [⟨.ai,some "a".toList,outline,0,false⟩]).updated,
      Replaces [⟨.ai,some "a".toList,outline,0,false⟩] new) ∧
    ((replacements outlineThread [.turn freshOutside askTurn .whole,.expire,
      .turn freshOutside askTurn (.cancelled 3 true)]).flatten.map Message.id).Nodup := by
  obtain ⟨_,_,changed,once⟩ := compaction_settles Int Unit
  refine ⟨changed _ _ _ _ ⟨List.nodup_singleton _,by simp,by simp⟩,once _ _ outlineThread_sound ?_⟩
  simp only [List.forall_mem_cons]
  exact ⟨freshOutside_given askTurn _,trivial,freshOutside_given askTurn _,List.forall_mem_nil _⟩

end CustomerService.CompactedThreads
