import CustomerService.CompressionUpdates
import CustomerService.OutputFilter

/-! The end of a turn: the answer is masked and compacted, the history is compressed, and
the turn leaves message updates for the checkpoint and a payload for the archive. -/
namespace CustomerService.SummaryFacts

open Text

/-! The messages of the archive. -/

/-- A value in the archive: a string, or something else with its truth and its `str`. -/
inductive Stored
  | str (text : Text)
  | other (truthy : Bool) (rendered : Text)
deriving DecidableEq

/-- An item of the archived list; only a dict is read. -/
inductive Item
  | dict (role content : Option Stored)
  | other
deriving DecidableEq

def roleOf : Kind → Option Text
  | .human => some "human".toList
  | .ai => some "ai".toList
  | _ => none

def encodeMessages (messages : Option (List Message)) : List Item :=
  (messages.getD []).filterMap (fun message =>
    (roleOf message.kind).map (fun role => .dict (some (.str role)) (some (.str message.text))))

/-- `str(value or "")`. -/
def strOr : Option Stored → Text
  | some (.str text) => text
  | some (.other true rendered) => rendered
  | _ => []

def newMessage (kind : Kind) (text : Text) (ref : Nat) : Message where
  kind := kind
  id := none
  text := text
  ref := ref
  copy := false

def decodeItem : Item × Nat → Option Message
  | (.dict role content,place) =>
    if strOr role = "human".toList then some (newMessage .human (strOr content) place)
    else if strOr role = "ai".toList then some (newMessage .ai (strOr content) place)
    else none
  | (.other,_) => none

def decodeMessages (raw : Option (List Item)) : List Message :=
  (raw.getD []).zipIdx.filterMap decodeItem

/-! The turn. -/

structure CSState where
  answer : Option Text
  blocked : Bool
  messages : Option (List Message)
  lastIntent : Option Text
  lastOrderNo : Option Text
  lastCourseName : Option Text
  sessionSummary : Option Text

structure MemoryView where
  lastIntent : Option Text
  lastOrderNo : Option Text
  lastCourseName : Option Text
  sessionSummary : Text

def orNone (value : Option Text) : Option Text := value.filter (fun text => text ≠ [])

def MemoryView.fromState (state : CSState) : MemoryView where
  lastIntent := orNone state.lastIntent
  lastOrderNo := orNone state.lastOrderNo
  lastCourseName := orNone state.lastCourseName
  sessionSummary := state.sessionSummary.getD []

def SessionSlots.fromState (state : CSState) : SessionSlots :=
  let memory := MemoryView.fromState state
  ⟨memory.lastIntent,memory.lastOrderNo,memory.lastCourseName⟩

structure Settings (Score : Type*) where
  historyTokenBudget : Int
  contextAlwaysKeepRecent : Int
  contextDiscardScore : Score
  contextSummarizeScore : Score
  historyMaxMessages : Int
  sessionSummaryMaxChars : Option Int

/-- A message of a state patch: an instruction to remove an id, or a message. -/
inductive Update
  | removeMessage (id : Text)
  | message (message : Message)
deriving DecidableEq

structure RespondTurnUpdate where
  answer : Text
  storedAnswer : Text
  messageUpdates : List Update
  sessionSummary : Text
  keptMessages : List Message

def llmUnavailableAnswer : Text :=
  "当前智能助手暂时不可用。您可以稍后再试，或直接提供订单号查询进度，也可以回复「转人工」由专员继续处理。".toList

def blockedAnswer : Text := "请求已被安全中间件拦截。".toList

def resolveRespondAnswer (state : CSState) : Text :=
  let answer := state.answer.getD []
  if strip answer ≠ [] then answer
  else if state.blocked then if answer = [] then blockedAnswer else answer
  else llmUnavailableAnswer

def buildStoredAnswer (answer : Text) : Text × Text :=
  let full := OutputFilter.inspectOutput answer
  (full,compactRagHistory full)

/-- `getattr(m, "id", None)` as a condition. -/
def Message.realId (message : Message) : Option Text := orNone message.id

def buildMessageUpdates (result : CompressResult) (storedAnswer : Text) (ref : Nat) : List Update :=
  let removals := ((result.discarded ++ result.summarized).filterMap Message.realId).map
    Update.removeMessage
  let replacements := result.updated.filter (fun message => message.realId ≠ none)
  let turnAi := match result.kept.getLast? with
    | some last =>
      if last.kind = .ai ∧ last.realId = none then last else newMessage .ai storedAnswer ref
    | none => newMessage .ai storedAnswer ref
  removals ++ replacements.map .message ++ [.message turnAi]

def freshRef (messages : List Message) : Nat := (messages.map (fun message => message.ref + 1)).foldr max 0

section
variable {Score : Type*} [LinearOrder Score] [Zero Score] (services : Services Score)
  (settings : Settings Score) (summarize : List Message → Text → Text)

def turnOptions (state : CSState) : Options Score where
  tokenBudget := settings.historyTokenBudget
  slots := some (SessionSlots.fromState state)
  alwaysKeepRecent := settings.contextAlwaysKeepRecent
  discardScore := settings.contextDiscardScore
  summarizeScore := settings.contextSummarizeScore
  maxMessages := settings.historyMaxMessages
  existingSummary := (MemoryView.fromState state).sessionSummary
  maxSummaryChars := settings.sessionSummaryMaxChars

def projected (state : CSState) : List Message :=
  let existing := state.messages.getD []
  existing ++ [newMessage .ai (buildStoredAnswer (resolveRespondAnswer state)).2 (freshRef existing)]

def compressTurn (state : CSState) : CompressResult :=
  compressByImportance services (turnOptions settings state) summarize (projected state)

def finalizeRespondTurn (state : CSState) : RespondTurnUpdate :=
  let stored := buildStoredAnswer (resolveRespondAnswer state)
  let result := compressTurn services settings summarize state
  { answer := stored.1
    storedAnswer := stored.2
    messageUpdates :=
      buildMessageUpdates result stored.2 (freshRef (projected state))
    sessionSummary := result.summary
    keptMessages := result.kept }

end

/-! The archive. -/

def roleText (message : Message) : Kind × Text := (message.kind,message.text)

def archived (message : Message) : Bool := message.kind == .human || message.kind == .ai

private theorem decode_encoded (messages : List Message) (place : Nat) :
    (((encodeMessages (some messages)).zipIdx place).filterMap decodeItem).map roleText =
      (messages.filter archived).map roleText := by
  induction messages generalizing place with
  | nil => rfl
  | cons message rest ih =>
    have tail := ih (place + 1)
    have same := ih place
    simp only [encodeMessages,Option.getD_some] at tail same ⊢
    obtain ⟨kind,id,text,ref,copy⟩ := message
    cases kind with
    | system => simpa [roleOf,archived] using same
    | other => simpa [roleOf,archived] using same
    | human => simpa [roleOf,archived,decodeItem,strOr,newMessage,roleText] using tail
    | ai => simpa [roleOf,archived,decodeItem,strOr,newMessage,roleText] using tail

theorem decode_encode (messages : List Message) :
    (decodeMessages (some (encodeMessages (some messages)))).map roleText =
      (messages.filter archived).map roleText :=
  decode_encoded messages 0

/-! The history under the updates. -/

/-- `add_messages`: removal by id, replacement in place of a message with a known id, and
a new id for a message without one, which goes last. -/
structure AddMessages (addMessages : List Message → List Update → List Message) : Prop where
  remove : ∀ history id updates, (history.map Message.id).Nodup → some id ∈ history.map Message.id →
    (∀ later ∈ updates, later ≠ .removeMessage id) →
    (∀ new, .message new ∈ updates → new.id ≠ some id) →
    addMessages history (.removeMessage id::updates) =
      addMessages (history.filter (fun message => message.id ≠ some id)) updates
  replace : ∀ history new updates, (history.map Message.id).Nodup → new.id ≠ none →
    new.id ∈ history.map Message.id →
    addMessages history (.message new::updates) =
      addMessages (history.map (fun message => if message.id = new.id then new else message)) updates
  append : ∀ history new, new.id = none →
    ∃ id, addMessages history [.message new] = history ++ [{ new with id := some id }]

section
variable {addMessages : List Message → List Update → List Message} (adds : AddMessages addMessages)
include adds

theorem AddMessages.removals {history : List Message} {removed : List Text} {updates : List Update}
    (ids : (history.map Message.id).Nodup) (once : removed.Nodup)
    (known : ∀ id ∈ removed, some id ∈ history.map Message.id)
    (last : ∀ id ∈ removed, .removeMessage id ∉ updates)
    (apart : ∀ new, .message new ∈ updates → ∀ id ∈ removed, new.id ≠ some id) :
    addMessages history (removed.map .removeMessage ++ updates) =
      addMessages (history.filter (fun message => ∀ id ∈ removed, message.id ≠ some id)) updates := by
  induction removed generalizing history with
  | nil => simp
  | cons id rest ih =>
    obtain ⟨fresh,once⟩ := List.nodup_cons.mp once
    have later : ∀ update ∈ rest.map Update.removeMessage ++ updates, update ≠ .removeMessage id := by
      rintro update listed rfl
      rcases List.mem_append.mp listed with removal | rest'
      · obtain ⟨other,inside,same⟩ := List.mem_map.mp removal
        cases same
        exact fresh inside
      · exact last id List.mem_cons_self rest'
    have given : ∀ new, .message new ∈ rest.map Update.removeMessage ++ updates → new.id ≠ some id := by
      intro new listed
      rcases List.mem_append.mp listed with removal | rest'
      · obtain ⟨other,_,same⟩ := List.mem_map.mp removal
        cases same
      · exact apart new rest' id List.mem_cons_self
    rw [List.map_cons,List.cons_append,
      adds.remove history id _ ids (known id List.mem_cons_self) later given,ih]
    · rw [List.filter_filter]
      congr 1
      refine List.filter_congr (fun message _ => ?_)
      simp [Bool.and_comm]
    · exact ids.sublist (List.filter_sublist.map _)
    · exact once
    · intro other inside
      obtain ⟨message,member,same⟩ := List.mem_map.mp (known other (List.mem_cons_of_mem _ inside))
      refine List.mem_map.mpr ⟨message,List.mem_filter.mpr ⟨member,?_⟩,same⟩
      rw [decide_eq_true_iff,same]
      rintro equal
      exact fresh (Option.some.inj equal ▸ inside)
    · exact fun other inside => last other (List.mem_cons_of_mem _ inside)
    · exact fun new listed other inside => apart new listed other (List.mem_cons_of_mem _ inside)

def settle (given : List Message) (message : Message) : Message :=
  given.foldl (fun current new => if current.id = new.id then new else current) message

theorem AddMessages.replacements {history : List Message} {given : List Message}
    {updates : List Update} (ids : (history.map Message.id).Nodup)
    (known : ∀ new ∈ given, new.id ≠ none ∧ new.id ∈ history.map Message.id) :
    addMessages history (given.map .message ++ updates) =
      addMessages (history.map (settle given)) updates := by
  induction given generalizing history with
  | nil => exact congrArg (addMessages · updates) (List.map_id history).symm
  | cons new rest ih =>
    obtain ⟨real,here⟩ := known new List.mem_cons_self
    have same : (history.map (fun message => if message.id = new.id then new else message)).map
        Message.id = history.map Message.id := by
      rw [List.map_map]
      refine List.map_congr_left (fun message _ => ?_)
      rw [Function.comp_apply]
      split_ifs with equal
      · exact equal.symm
      · rfl
    rw [List.map_cons,List.cons_append,adds.replace history new _ ids real here,ih]
    · rw [List.map_map]
      rfl
    · rwa [same]
    · intro other inside
      rw [same]
      exact known other (List.mem_cons_of_mem _ inside)

end

private theorem settle_compact {given : List Message} {message current : Message}
    (same : current.id = message.id)
    (only : ∀ new ∈ given, new.id = message.id → new = compactRagMessage message)
    (changed : current = compactRagMessage message ∨ compactRagMessage message ∈ given) :
    settle given current = compactRagMessage message := by
  induction given generalizing current with
  | nil => exact changed.resolve_right (List.not_mem_nil)
  | cons new rest ih =>
    have tail : ∀ other ∈ rest, other.id = message.id → other = compactRagMessage message :=
      fun other inside => only other (List.mem_cons_of_mem _ inside)
    change settle rest (if current.id = new.id then new else current) = _
    split_ifs with hit
    · have this := only new List.mem_cons_self (hit.symm.trans same)
      exact ih (hit.symm.trans same) tail (Or.inl this)
    · refine ih same tail (changed.imp_right (fun listed => ?_))
      refine (List.mem_cons.mp listed).resolve_left (fun equal => hit ?_)
      rw [← equal,compact_id,same]

/-! The end of a turn against a history. -/

/-- The messages of a checkpoint: each has a nonempty id of its own. -/
structure Checkpointed (messages : List Message) : Prop where
  arrived : Arrived messages
  real : ∀ message ∈ messages, message.realId ≠ none

private theorem realId_eq {message : Message} {id : Text} :
    message.realId = some id ↔ message.id = some id ∧ id ≠ [] := by
  simp [Message.realId,orNone,Option.filter_eq_some_iff]

theorem realId_ne_none {message : Message} :
    message.realId ≠ none ↔ message.id ≠ none ∧ message.id ≠ some [] := by
  cases known : message.id <;> simp [Message.realId,orNone,known]

theorem freshRef_fresh {messages : List Message} {message : Message} (member : message ∈ messages) :
    message.ref ≠ freshRef messages := by
  have bound : message.ref + 1 ≤ freshRef messages := by
    induction messages with
    | nil => cases member
    | cons first rest ih =>
      simp only [freshRef,List.map_cons,List.foldr_cons] at ih ⊢
      rcases List.mem_cons.mp member with rfl | inside
      · exact le_max_left _ _
      · exact (ih inside).trans (le_max_right _ _)
  omega

theorem Arrived.concat {existing : List Message} {new : Message} (arrived : Arrived existing)
    (fresh : new.id ∉ existing.map Message.id) (original : new.copy = false)
    (object : ∀ message ∈ existing, message.ref ≠ new.ref) : Arrived (existing ++ [new]) := by
  obtain ⟨ids,originals,objects⟩ := arrived
  refine ⟨?_,fun message member => ?_,fun first one second two same => ?_⟩
  · rw [List.map_append]
    refine ids.append (List.nodup_singleton _) (fun id inside last => ?_)
    obtain rfl := List.mem_singleton.mp last
    exact fresh inside
  · rcases List.mem_append.mp member with early | late
    · exact originals message early
    · rw [List.mem_singleton.mp late,original]
  · rcases List.mem_append.mp one with early | late
    · rcases List.mem_append.mp two with early' | late'
      · exact objects first early second early' same
      · rw [List.mem_singleton.mp late'] at same
        exact absurd same (object first early)
    · rcases List.mem_append.mp two with early' | late'
      · rw [List.mem_singleton.mp late] at same
        exact absurd same.symm (object second early')
      · rw [List.mem_singleton.mp late,List.mem_singleton.mp late']

theorem arrived_projected {existing : List Message} (checkpointed : Checkpointed existing)
    (text : Text) : Arrived (existing ++ [newMessage .ai text (freshRef existing)]) := by
  refine checkpointed.arrived.concat (fun inside => ?_) rfl (fun _ member => freshRef_fresh member)
  obtain ⟨message,member,unnamed⟩ := List.mem_map.mp inside
  exact (realId_ne_none.mp (checkpointed.real message member)).1 unnamed

section
variable {existing : List Message} {last : Message} {keep : Message → Bool} {result : CompressResult}

private theorem kept_ends (stays : keep last = true)
    (divides : DividesInto (existing ++ [last]) result keep) :
    result.kept = keptBy existing keep ++ [compactRagMessage last] :=
  divides.kept.trans (keptBy_concat existing stays)

private theorem buildMessageUpdates_eq (stays : keep last = true) (ai : last.kind = .ai)
    (new : last.id = none) (divides : DividesInto (existing ++ [last]) result keep)
    (storedAnswer : Text) (ref : Nat) :
    buildMessageUpdates result storedAnswer ref =
      ((result.discarded ++ result.summarized).filterMap Message.realId).map Update.removeMessage ++
        (result.updated.filter (fun message => message.realId ≠ none)).map .message ++
        [.message (compactRagMessage last)] := by
  have real : (compactRagMessage last).realId = none := by
    simp [Message.realId,orNone,new]
  simp only [buildMessageUpdates,kept_ends stays divides,List.getLast?_concat,compact_kind,ai,real,
    and_self,if_true]

private theorem mem_removed (checkpointed : Checkpointed existing) (stays : keep last = true)
    (divides : DividesInto (existing ++ [last]) result keep) {id : Text} :
    id ∈ (result.discarded ++ result.summarized).filterMap Message.realId ↔
      ∃ message ∈ existing, keep message = false ∧ message.id = some id := by
  have gone (id : Option Text) : id ∈ (result.discarded ++ result.summarized).map Message.id ↔
      ∃ message ∈ existing, keep message = false ∧ message.id = id := by
    have same : id ∈ (result.discarded ++ result.summarized).map Message.id ↔
        id ∈ (result.summarized ++ result.discarded).map Message.id := by
      simp [or_comm]
    rw [same,divides.gone.mem_iff]
    simp [List.filter_append,stays,and_assoc]
  rw [List.mem_filterMap]
  constructor
  · rintro ⟨message,listed,known⟩
    exact (gone _).mp (List.mem_map.mpr ⟨message,listed,(realId_eq.mp known).1⟩)
  · rintro ⟨message,member,leaves,known⟩
    obtain ⟨out,listed,same⟩ := List.mem_map.mp ((gone _).mpr ⟨message,member,leaves,known⟩)
    refine ⟨out,listed,realId_eq.mpr ⟨same,?_⟩⟩
    rintro rfl
    exact (realId_ne_none.mp (checkpointed.real message member)).2 known

private theorem removed_once (checkpointed : Checkpointed existing) (stays : keep last = true)
    (divides : DividesInto (existing ++ [last]) result keep) :
    ((result.discarded ++ result.summarized).filterMap Message.realId).Nodup := by
  have ids : ((result.discarded ++ result.summarized).map Message.id).Nodup := by
    have turned : ((result.discarded ++ result.summarized).map Message.id).Perm
        ((existing.filter (fun message => !keep message)).map Message.id) := by
      refine (List.perm_append_comm.map _).trans (divides.gone.trans ?_)
      simp [List.filter_append,stays]
    exact turned.nodup_iff.mpr (checkpointed.arrived.ids.sublist (List.filter_sublist.map _))
  have real : (result.discarded ++ result.summarized).filterMap Message.realId =
      ((result.discarded ++ result.summarized).map Message.id).filterMap orNone := by
    rw [List.filterMap_map]
    rfl
  rw [real]
  refine ids.filterMap (fun first second id one two => ?_)
  rw [Option.mem_def,orNone,Option.filter_eq_some_iff] at one two
  exact one.1.trans two.1.symm

private theorem filter_removed (checkpointed : Checkpointed existing) (stays : keep last = true)
    (divides : DividesInto (existing ++ [last]) result keep) :
    existing.filter (fun message =>
      ∀ id ∈ (result.discarded ++ result.summarized).filterMap Message.realId,
        message.id ≠ some id) = existing.filter keep := by
  refine List.filter_congr (fun message member => ?_)
  rw [Bool.eq_iff_iff,decide_eq_true_iff]
  constructor
  · intro apart
    by_contra leaves
    obtain ⟨id,known⟩ := Option.ne_none_iff_exists'.mp
      (realId_ne_none.mp (checkpointed.real message member)).1
    exact apart id ((mem_removed checkpointed stays divides).mpr
      ⟨message,member,by simpa using leaves,known⟩) known
  · intro kept id listed known
    obtain ⟨other,inside,leaves,named⟩ := (mem_removed checkpointed stays divides).mp listed
    rw [List.inj_on_of_nodup_map checkpointed.arrived.ids inside member (named.trans known.symm),
      kept] at leaves
    cases leaves

private theorem replacement_kept (new : last.id = none) (reports : Reports (existing ++ [last]) result keep)
    {replacement : Message}
    (listed : replacement ∈ result.updated.filter (fun message => message.realId ≠ none)) :
    replacement.id ≠ none ∧ ∃ message ∈ existing, keep message = true ∧
      replacement = compactRagMessage message := by
  obtain ⟨here,known⟩ := List.mem_filter.mp listed
  have known := (realId_ne_none.mp (of_decide_eq_true known)).1
  obtain ⟨message,member,kept,same⟩ := reports.sound replacement here known
  refine ⟨known,message,?_,kept,same⟩
  rcases List.mem_append.mp member with early | late
  · exact early
  · rw [same,compact_id,List.mem_singleton.mp late] at known
    exact absurd new known

private theorem settle_kept (checkpointed : Checkpointed existing) (new : last.id = none)
    (reports : Reports (existing ++ [last]) result keep) {message : Message}
    (member : message ∈ existing) (kept : keep message = true) :
    settle (result.updated.filter (fun message => message.realId ≠ none)) message =
      compactRagMessage message := by
  refine settle_compact rfl (fun replacement inside equal => ?_) ?_
  · obtain ⟨_,other,here,_,rfl⟩ := replacement_kept new reports inside
    rw [compact_id] at equal
    rw [List.inj_on_of_nodup_map checkpointed.arrived.ids here member equal]
  · by_cases unchanged : compactRagMessage message = message
    · exact Or.inl unchanged.symm
    · have real := realId_ne_none.mp (checkpointed.real message member)
      refine Or.inr (List.mem_filter.mpr ⟨reports.complete message (List.mem_append_left _ member)
        kept unchanged real.1 real.2,decide_eq_true (realId_ne_none.mpr ?_)⟩)
      rwa [compact_id]

private theorem given_apart (checkpointed : Checkpointed existing) (new : last.id = none)
    (stays : keep last = true) (divides : DividesInto (existing ++ [last]) result keep)
    (reports : Reports (existing ++ [last]) result keep) {message : Message}
    (listed : message ∈ result.updated.filter (fun message => message.realId ≠ none) ∨
      message = compactRagMessage last) {id : Text}
    (removed : id ∈ (result.discarded ++ result.summarized).filterMap Message.realId) :
    message.id ≠ some id := by
  intro known
  obtain ⟨gone,member,leaves,named⟩ := (mem_removed checkpointed stays divides).mp removed
  rcases listed with inside | rfl
  · obtain ⟨_,other,here,kept,rfl⟩ := replacement_kept new reports inside
    rw [compact_id] at known
    rw [List.inj_on_of_nodup_map checkpointed.arrived.ids member here (named.trans known.symm),
      kept] at leaves
    cases leaves
  · rw [compact_id,new] at known
    cases known

/-- Removing what leaves, and replacing what compaction changed, leaves the answer to add to what is
kept of the history. -/
theorem history_settled {addMessages : List Message → List Update → List Message}
    (adds : AddMessages addMessages) (checkpointed : Checkpointed existing) (ai : last.kind = .ai)
    (new : last.id = none) (stays : keep last = true)
    (divides : DividesInto (existing ++ [last]) result keep)
    (reports : Reports (existing ++ [last]) result keep) (storedAnswer : Text) (ref : Nat) :
    addMessages existing (buildMessageUpdates result storedAnswer ref) =
      addMessages (keptBy existing keep) [.message (compactRagMessage last)] := by
  have ids := checkpointed.arrived.ids
  have settled : (existing.filter keep).map
      (settle (result.updated.filter (fun message => message.realId ≠ none))) =
      keptBy existing keep := by
    refine List.map_congr_left (fun message listed => ?_)
    obtain ⟨member,kept⟩ := List.mem_filter.mp listed
    exact settle_kept checkpointed new reports member kept
  rw [buildMessageUpdates_eq stays ai new divides,List.append_assoc,
    adds.removals ids (removed_once checkpointed stays divides),
    filter_removed checkpointed stays divides,adds.replacements,settled]
  · exact ids.sublist (List.filter_sublist.map _)
  · intro replacement listed
    obtain ⟨known,message,member,kept,rfl⟩ := replacement_kept new reports listed
    rw [compact_id] at known ⊢
    exact ⟨known,List.mem_map_of_mem (List.mem_filter.mpr ⟨member,kept⟩)⟩
  · intro id listed
    obtain ⟨message,member,_,known⟩ := (mem_removed checkpointed stays divides).mp listed
    exact known ▸ List.mem_map_of_mem member
  · intro id _ listed
    simp at listed
  · intro message listed id removed
    refine given_apart checkpointed new stays divides reports ?_ removed
    rcases List.mem_append.mp listed with inside | turn
    · obtain ⟨_,inside,equal⟩ := List.mem_map.mp inside
      exact Or.inl (Update.message.inj equal ▸ inside)
    · exact Or.inr (Update.message.inj (List.mem_singleton.mp turn))

private theorem history_updated {addMessages : List Message → List Update → List Message}
    (adds : AddMessages addMessages) (checkpointed : Checkpointed existing) (ai : last.kind = .ai)
    (new : last.id = none) (stays : keep last = true)
    (divides : DividesInto (existing ++ [last]) result keep)
    (reports : Reports (existing ++ [last]) result keep) (storedAnswer : Text) (ref : Nat) :
    ∃ id, addMessages existing (buildMessageUpdates result storedAnswer ref) =
      keptBy existing keep ++ [{ compactRagMessage last with id := some id }] := by
  obtain ⟨id,appended⟩ := adds.append (keptBy existing keep) (compactRagMessage last)
    (by rw [compact_id,new])
  rw [history_settled adds checkpointed ai new stays divides reports storedAnswer ref]
  exact ⟨id,appended⟩

end

theorem compressed_history {Score : Type*} [LinearOrder Score] [Zero Score]
    (services : Services Score) (options : Options Score) (summarize : List Message → Text → Text)
    {addMessages : List Message → List Update → List Message} (adds : AddMessages addMessages)
    {existing : List Message} (checkpointed : Checkpointed existing)
    (recent : 1 ≤ options.alwaysKeepRecent) (answer storedAnswer : Text) (ref : Nat) :
    (addMessages existing (buildMessageUpdates (compressByImportance services options summarize
        (existing ++ [newMessage .ai answer (freshRef existing)])) storedAnswer ref)).map roleText =
      (compressByImportance services options summarize
        (existing ++ [newMessage .ai answer (freshRef existing)])).kept.map roleText := by
  obtain ⟨keep,stays,divides,reports⟩ := compress_reports services options summarize
    (arrived_projected checkpointed answer) (by simp [newMessage]) recent
  obtain ⟨id,updated⟩ := history_updated adds checkpointed rfl rfl stays divides reports
    storedAnswer ref
  rw [updated,kept_ends stays divides,List.map_append,List.map_append]
  rfl

/-- After a turn the history holds what compression kept, in order, and the archive reads
back as its persons' messages. -/
theorem history_agrees_with_archive {Score : Type*} [LinearOrder Score] [Zero Score]
    (services : Services Score) (settings : Settings Score) (summarize : List Message → Text → Text)
    {addMessages : List Message → List Update → List Message} (adds : AddMessages addMessages)
    (state : CSState) (checkpointed : Checkpointed (state.messages.getD []))
    (recent : 1 ≤ settings.contextAlwaysKeepRecent) :
    (addMessages (state.messages.getD [])
        (finalizeRespondTurn services settings summarize state).messageUpdates).map roleText =
      (compressTurn services settings summarize state).kept.map roleText ∧
    (decodeMessages (some (encodeMessages (some
        (finalizeRespondTurn services settings summarize state).keptMessages)))).map roleText =
      ((compressTurn services settings summarize state).kept.filter archived).map roleText :=
  ⟨compressed_history services (turnOptions settings state) summarize adds checkpointed recent _ _ _,
    decode_encode _⟩

def addNaming (name : List Message → Text) (history : List Message) (updates : List Update) :
    List Message :=
  updates.foldl (fun history update =>
    match update with
    | .removeMessage id => history.filter (fun message => message.id ≠ some id)
    | .message new =>
      if new.id = none then history ++ [{ new with id := some (name history) }]
      else history.map (fun message => if message.id = new.id then new else message)) history

theorem addNaming_adds (name : List Message → Text) : AddMessages (addNaming name) := by
  refine ⟨fun _ _ _ _ _ _ _ => rfl,fun history new updates _ known _ => ?_,fun history new none' =>
    ⟨name history,?_⟩⟩
  · simp only [addNaming,List.foldl_cons,if_neg known]
  · simp only [addNaming,List.foldl_cons,List.foldl_nil,if_pos none']

def addByLength : List Message → List Update → List Message :=
  addNaming (fun history => List.replicate history.length 'x')

private theorem addByLength_adds : AddMessages addByLength := addNaming_adds _

/-- A turn after three messages, with an answer about a refund. -/
def refundTurn : CSState where
  answer := some "退款审核中".toList
  blocked := false
  messages := some [spoken .human 0 "你好",spoken .ai 1 "你好",spoken .human 2 "退款"]
  lastIntent := none
  lastOrderNo := none
  lastCourseName := none
  sessionSummary := none

/-- A turn in which an old pair leaves and the answer is appended. -/
theorem history_agrees_with_archive_refund :
    (addByLength (refundTurn.messages.getD [])
        (finalizeRespondTurn (tableServices [0,0,9,9]) ⟨12,1,3,6,4,none⟩ (fun _ summary => summary)
          refundTurn).messageUpdates).map roleText =
      (compressTurn (tableServices [0,0,9,9]) ⟨12,1,3,6,4,none⟩ (fun _ summary => summary)
        refundTurn).kept.map roleText ∧
    (decodeMessages (some (encodeMessages (some (finalizeRespondTurn (tableServices [0,0,9,9])
        ⟨12,1,3,6,4,none⟩ (fun _ summary => summary) refundTurn).keptMessages)))).map roleText =
      ((compressTurn (tableServices [0,0,9,9]) ⟨12,1,3,6,4,none⟩ (fun _ summary => summary)
        refundTurn).kept.filter archived).map roleText :=
  history_agrees_with_archive (tableServices [0,0,9,9]) ⟨12,1,3,6,4,none⟩ (fun _ summary => summary)
    addByLength_adds refundTurn ⟨⟨by decide,by decide,by decide⟩,by decide⟩ (by decide)

end CustomerService.SummaryFacts
