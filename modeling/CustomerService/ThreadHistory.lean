import CustomerService.ChatTurns

/-! The messages of a thread over its turns: loaded from the checkpoint or taken from the archive,
with the question of the turn at their end, and after the last node. -/
namespace CustomerService.ChatGraph
open Text OrderAccess OrderReport Routing Supervisor NodeGraph
open SummaryFacts (Kind Message Item newMessage freshRef freshRef_fresh decodeMessages encodeMessages
  decode_encode roleText archived Arrived Checkpointed AddMessages compactRagMessage keptBy)

variable {Score Body : Type}

/-! ### Conversations -/

def persons (messages : List Message) : List (Kind × Text) := (messages.filter archived).map roleText

def MemoryState.view (memory : MemoryState Body) : MemoryState Body :=
  memoryView { blankState Body with memory := memory }

structure Conversation (Body : Type) where
  messages : List (Kind × Text)
  memory : MemoryState Body

def CSState.conversation (state : CSState Body) : Conversation Body :=
  ⟨persons state.messages,state.memory.view⟩

def Archived.conversation (row : Archived Body) : Conversation Body :=
  ⟨(decodeMessages (some row.messages)).map roleText,row.memory.view⟩

private theorem persons_eq {first second : List Message} (same : first.map roleText = second.map roleText) :
    persons first = persons second := by
  have general (messages : List Message) : persons messages =
      (messages.map roleText).filter (fun said => said.1 == .human || said.1 == .ai) := by
    rw [List.filter_map]
    rfl
  rw [general,general,same]

private theorem persons_append (first second : List Message) :
    persons (first ++ second) = persons first ++ persons second := by
  unfold persons
  rw [List.filter_append,List.map_append]

private theorem view_view (memory : MemoryState Body) : memory.view.view = memory.view := by
  simp only [MemoryState.view,memoryView,LongTermMemory.orNone_orNone]

/-! ### Messages in a checkpoint -/

/-- Each message of a checkpoint has an id of its own. -/
structure Kept (messages : List Message) : Prop where
  ids : (messages.map Message.id).Nodup
  real : ∀ message ∈ messages, message.realId ≠ none

private theorem map_loaded {Value : Type} (read : Message → Value)
    (same : ∀ message ref, read { message with ref := ref, copy := false } = read message)
    (messages : List Message) : (loaded messages).map read = messages.map read := by
  unfold loaded
  rw [List.map_map]
  calc messages.zipIdx.map (fun item => read { item.1 with ref := item.2, copy := false })
      = messages.zipIdx.map (fun item => read item.1) :=
        List.map_congr_left (fun item _ => same item.1 item.2)
    _ = (messages.zipIdx.map Prod.fst).map read := List.map_map.symm
    _ = messages.map read := by rw [List.zipIdx_map_fst]

private theorem loaded_ids (messages : List Message) :
    (loaded messages).map Message.id = messages.map Message.id :=
  map_loaded Message.id (fun _ _ => rfl) messages

private theorem persons_loaded (messages : List Message) : persons (loaded messages) = persons messages :=
  persons_eq (map_loaded roleText (fun _ _ => rfl) messages)

private theorem checkpointed_loaded {messages : List Message} (kept : Kept messages) :
    Checkpointed (loaded messages) := by
  refine ⟨⟨?_,?_,?_⟩,?_⟩
  · rw [loaded_ids]
    exact kept.ids
  · intro message listed
    obtain ⟨item,_,rfl⟩ := List.mem_map.mp listed
    rfl
  · intro first one second two same
    obtain ⟨⟨message,place⟩,here,rfl⟩ := List.mem_map.mp one
    obtain ⟨⟨message',place'⟩,there,rfl⟩ := List.mem_map.mp two
    obtain rfl : place = place' := same
    have at1 := List.mem_zipIdx_iff_getElem?.mp here
    have at2 := List.mem_zipIdx_iff_getElem?.mp there
    obtain rfl : message = message' := Option.some.inj (at1.symm.trans at2)
    rfl
  · intro message listed
    obtain ⟨⟨original,place⟩,here,rfl⟩ := List.mem_map.mp listed
    exact kept.real original (List.mem_of_getElem? (List.mem_zipIdx_iff_getElem?.mp here))

/-- `add_messages` with a new id for each message that comes without one: an id that no other
message has. -/
structure NamesMessages (addMessages : List Message → List SummaryFacts.Update → List Message) :
    Prop where
  adds : AddMessages addMessages
  names : ∀ history news, (∀ new ∈ news, new.id = none) →
    ∃ ids : List Text, ids.length = news.length ∧ ids.Nodup ∧
      (∀ id ∈ ids, id ≠ [] ∧ some id ∉ history.map Message.id) ∧
      addMessages history (news.map .message) =
        history ++ List.zipWith (fun new id => { new with id := some id }) news ids

private theorem named_ids {news : List Message} {ids : List Text} (size : ids.length = news.length) :
    (List.zipWith (fun (new : Message) id => { new with id := some id }) news ids).map Message.id =
      ids.map some := by
  induction news generalizing ids with
  | nil =>
    obtain rfl := List.length_eq_zero_iff.mp size
    rfl
  | cons new rest ih =>
    cases ids with
    | nil => cases size
    | cons id others => exact congrArg _ (ih (Nat.succ.inj size))

private theorem named_roleText {news : List Message} {ids : List Text} (size : ids.length = news.length) :
    (List.zipWith (fun (new : Message) id => { new with id := some id }) news ids).map roleText =
      news.map roleText := by
  induction news generalizing ids with
  | nil => rfl
  | cons new rest ih =>
    cases ids with
    | nil => cases size
    | cons id others => exact congrArg (List.cons (roleText new)) (ih (Nat.succ.inj size))

theorem kept_iff {messages : List Message} :
    Kept messages ↔ (messages.map Message.id).Nodup ∧
      ∀ id ∈ messages.map Message.id, id ≠ none ∧ id ≠ some [] := by
  constructor
  · intro kept
    refine ⟨kept.ids,fun id listed => ?_⟩
    obtain ⟨message,inside,rfl⟩ := List.mem_map.mp listed
    exact SummaryFacts.realId_ne_none.mp (kept.real message inside)
  · intro kept
    refine ⟨kept.1,fun message inside => SummaryFacts.realId_ne_none.mpr ?_⟩
    exact kept.2 _ (List.mem_map_of_mem inside)

private theorem kept_append {history news : List Message} {ids : List Text} (kept : Kept history)
    (size : ids.length = news.length) (distinct : ids.Nodup)
    (fresh : ∀ id ∈ ids, id ≠ [] ∧ some id ∉ history.map Message.id) :
    Kept (history ++ List.zipWith (fun new id => { new with id := some id }) news ids) := by
  rw [kept_iff] at kept ⊢
  rw [List.map_append,named_ids size]
  constructor
  · refine kept.1.append (distinct.map (Option.some_injective _)) (fun id old new => ?_)
    obtain ⟨text,listed,rfl⟩ := List.mem_map.mp new
    exact (fresh text listed).2 old
  · intro id listed
    rcases List.mem_append.mp listed with old | new
    · exact kept.2 id old
    · obtain ⟨text,given,rfl⟩ := List.mem_map.mp new
      exact ⟨nofun,fun blank => (fresh text given).1 (Option.some.inj blank)⟩

theorem NamesMessages.append {addMessages : List Message → List SummaryFacts.Update → List Message}
    (names : NamesMessages addMessages) {history : List Message} (kept : Kept history)
    (news : List Message) (unnamed : ∀ new ∈ news, new.id = none) :
    Kept (addMessages history (news.map .message)) ∧
      persons (addMessages history (news.map .message)) = persons history ++ persons news := by
  obtain ⟨ids,size,distinct,fresh,same⟩ := names.names history news unnamed
  rw [same]
  refine ⟨kept_append kept size distinct fresh,?_⟩
  rw [persons_append,persons_eq (named_roleText size)]

/-! ### The start of a turn -/

private theorem decoded_new {raw : Option (List Item)} {message : Message}
    (listed : message ∈ decodeMessages raw) : message.id = none ∧ archived message = true := by
  obtain ⟨⟨item,place⟩,_,read⟩ := List.mem_filterMap.mp listed
  cases item with
  | other => cases read
  | dict role content =>
    unfold SummaryFacts.decodeItem at read
    dsimp only at read
    split_ifs at read
    · obtain rfl := Option.some.inj read
      exact ⟨rfl,rfl⟩
    · obtain rfl := Option.some.inj read
      exact ⟨rfl,rfl⟩

private theorem persons_decoded (raw : Option (List Item)) :
    persons (decodeMessages raw) = (decodeMessages raw).map roleText := by
  unfold persons
  rw [List.filter_eq_self.mpr (fun message listed => (decoded_new listed).2)]

theorem begin_checkpoint (outside : Outside Score Body) (turn : ChatTurn) {checkpoint : CSState Body}
    (kept : Kept checkpoint.messages) :
    Checkpointed (begin outside turn none checkpoint).messages ∧
      (begin outside turn none checkpoint).conversation = checkpoint.conversation := by
  refine ⟨checkpointed_loaded kept,?_⟩
  change Conversation.mk (persons (loaded checkpoint.messages)) checkpoint.memory.view = _
  rw [persons_loaded]
  rfl

private theorem apply_news {addMessages : List Message → List SummaryFacts.Update → List Message}
    (names : NamesMessages addMessages) {state : CSState Body} (kept : Kept state.messages)
    {update : Update Body} {news : List Message} (same : update.messages = news.map .message)
    (unnamed : ∀ new ∈ news, new.id = none) :
    Kept (state.apply addMessages update).messages ∧
      persons (state.apply addMessages update).messages = persons state.messages ++ persons news := by
  unfold CSState.apply
  dsimp only
  rw [same]
  split
  · rename_i nothing
    obtain rfl := List.map_eq_nil_iff.mp nothing
    exact ⟨kept,(List.append_nil _).symm⟩
  · exact names.append kept news unnamed

theorem begin_archive {outside : Outside Score Body} (names : NamesMessages outside.addMessages)
    (turn : ChatTurn) (row : Archived Body) :
    Checkpointed (begin outside turn (some row) (blankState Body)).messages ∧
      (begin outside turn (some row) (blankState Body)).conversation = row.conversation := by
  have nothing : Kept (blankState Body).messages :=
    kept_iff.mpr ⟨List.nodup_nil,fun _ listed => by cases listed⟩
  obtain ⟨kept,same⟩ := apply_news names nothing
    (show (archiveToGraphInputs row).messages = (decodeMessages (some row.messages)).map .message from rfl)
    (fun new listed => (decoded_new listed).1)
  refine ⟨checkpointed_loaded kept,?_⟩
  change Conversation.mk (persons (loaded _)) row.memory.view.view = _
  rw [persons_loaded,view_view,Option.elim_some,same,persons_decoded]
  rfl

/-! ### The first and the last node -/

theorem kept_of_checkpointed {messages : List Message} (checkpointed : Checkpointed messages) :
    Kept messages := ⟨checkpointed.arrived.ids,checkpointed.real⟩

private theorem checkpointed_append {addMessages : List Message → List SummaryFacts.Update → List Message}
    (names : NamesMessages addMessages) {history : List Message} (checkpointed : Checkpointed history)
    (kind : Kind) (text : Text) :
    Checkpointed (addMessages history [.message (newMessage kind text (freshRef history))]) := by
  obtain ⟨ids,size,distinct,fresh,same⟩ := names.names history [newMessage kind text (freshRef history)]
    (by simp [newMessage])
  obtain ⟨id,rfl⟩ := List.length_eq_one_iff.mp size
  have new := fresh id (List.mem_singleton_self id)
  have kept := kept_append (kept_of_checkpointed checkpointed) size distinct fresh
  change addMessages history [.message (newMessage kind text (freshRef history))] = _ at same
  rw [same]
  refine ⟨?_,kept.real⟩
  exact checkpointed.arrived.concat new.2 rfl (fun _ member => freshRef_fresh member)

private theorem kept_keptBy {messages : List Message} (kept : Kept messages) (keep : Message → Bool) :
    Kept (keptBy messages keep) := by
  rw [kept_iff] at kept ⊢
  have ids : (keptBy messages keep).map Message.id = (messages.filter keep).map Message.id := by
    unfold keptBy
    rw [List.map_map]
    exact List.map_congr_left (fun message _ => SummaryFacts.compact_id message)
  rw [ids]
  refine ⟨kept.1.sublist (List.filter_sublist.map _),fun id listed => kept.2 id ?_⟩
  exact (List.filter_sublist.map _).subset listed

private theorem kept_finalized [LinearOrder Score] [Zero Score] (services : SummaryFacts.Services Score)
    (options : SummaryFacts.Options Score) (summarize : List Message → Text → Text)
    {addMessages : List Message → List SummaryFacts.Update → List Message}
    (names : NamesMessages addMessages) {existing : List Message} (checkpointed : Checkpointed existing)
    (recent : 1 ≤ options.alwaysKeepRecent) (answer storedAnswer : Text) (ref : Nat) :
    Kept (addMessages existing (SummaryFacts.buildMessageUpdates
      (SummaryFacts.compressByImportance services options summarize
        (existing ++ [newMessage .ai answer (freshRef existing)])) storedAnswer ref)) := by
  obtain ⟨keep,stays,divides,reports⟩ := SummaryFacts.compress_reports services options summarize
    (SummaryFacts.arrived_projected checkpointed answer) (by simp [newMessage]) recent
  rw [SummaryFacts.history_settled names.adds checkpointed rfl rfl stays divides reports]
  refine (names.append (kept_keptBy (kept_of_checkpointed checkpointed) keep)
    [compactRagMessage (newMessage .ai answer (freshRef existing))] ?_).1
  simp [newMessage]

private theorem finalized_history [LinearOrder Score] [Zero Score] (services : SummaryFacts.Services Score)
    (settings : SummaryFacts.Settings Score) (summarize : List Message → Text → Text)
    {addMessages : List Message → List SummaryFacts.Update → List Message}
    (names : NamesMessages addMessages) (state : SummaryFacts.CSState)
    (checkpointed : Checkpointed (state.messages.getD []))
    (recent : 1 ≤ settings.contextAlwaysKeepRecent) :
    let update := SummaryFacts.finalizeRespondTurn services settings summarize state
    Kept (addMessages (state.messages.getD []) update.messageUpdates) ∧
      persons (addMessages (state.messages.getD []) update.messageUpdates) =
        (decodeMessages (some (encodeMessages (some update.keptMessages)))).map roleText := by
  refine ⟨kept_finalized services (SummaryFacts.turnOptions settings state) summarize names
    checkpointed recent _ _ _,?_⟩
  rw [decode_encode]
  exact persons_eq (SummaryFacts.compressed_history services (SummaryFacts.turnOptions settings state)
    summarize names.adds checkpointed recent _ _ _)

private theorem updates_ne_nil (result : SummaryFacts.CompressResult) (storedAnswer : Text) (ref : Nat) :
    SummaryFacts.buildMessageUpdates result storedAnswer ref ≠ [] :=
  List.append_ne_nil_of_right_ne_nil _ (List.cons_ne_nil _ _)

/-- What the security node adds to the messages of a turn with the message. -/
def asked (outside : Outside Score Body) (message : Text) : List (Kind × Text) :=
  let verdict := inspectInput outside.containsInjection message
  if verdict.allowed then [(Kind.human,verdict.sanitizedText)] else []

section
variable {outside : Outside Score Body} {state : CSState Body}

theorem security_messages (names : NamesMessages outside.addMessages)
    (checkpointed : Checkpointed state.messages) :
    Checkpointed (state.apply outside.addMessages (securityNode outside state)).messages ∧
      persons (state.apply outside.addMessages (securityNode outside state)).messages =
        persons state.messages ++ asked outside state.query := by
  unfold securityNode asked
  dsimp only [identityView]
  split
  · generalize (inspectInput outside.containsInjection state.query).sanitizedText = text
    refine ⟨checkpointed_append names checkpointed .human text,?_⟩
    exact (names.append (kept_of_checkpointed checkpointed)
      [newMessage .human text (freshRef state.messages)] (by simp [newMessage])).2
  · exact ⟨checkpointed,(List.append_nil _).symm⟩

theorem respond_agrees [LinearOrder Score] [Zero Score] {update : Update Body}
    (names : NamesMessages outside.addMessages) (recent : 1 ≤ outside.settings.contextAlwaysKeepRecent)
    (named : (identityView outside.defaultTenant state).sessionId ≠ [])
    (checkpointed : Checkpointed state.messages)
    (ran : respondNode outside state = .ok update) :
    Kept (state.apply outside.addMessages update).messages ∧
      ∃ row, persisted outside state = some row ∧
        (state.apply outside.addMessages update).conversation = row.conversation := by
  obtain ⟨finalized,ended,same⟩ := bind_ok ran
  obtain rfl := Except.ok.inj same
  obtain ⟨kept,history,some'⟩ : Kept (outside.addMessages state.messages finalized.messageUpdates) ∧
      persons (outside.addMessages state.messages finalized.messageUpdates) =
        (decodeMessages (some (encodeMessages (some finalized.keptMessages)))).map roleText ∧
      finalized.messageUpdates ≠ [] := by
    obtain ⟨summarize,_,same'⟩ := bind_ok ended
    obtain rfl := Except.ok.inj same'
    obtain ⟨kept,history⟩ := finalized_history (outside.compression state.query) outside.settings
      summarize names (respondState state) checkpointed recent
    exact ⟨kept,history,updates_ne_nil _ _ _⟩
  have messages (update : Update Body) (same : update.messages = finalized.messageUpdates) :
      (state.apply outside.addMessages update).messages =
        outside.addMessages state.messages finalized.messageUpdates := by
    unfold CSState.apply
    rw [same]
    exact if_neg some'
  refine ⟨by rw [messages _ rfl]; exact kept,
    ⟨encodeMessages (some finalized.keptMessages),
      { state.memory with sessionSummary := finalized.sessionSummary }.view⟩,?_,?_⟩
  · unfold persisted
    rw [if_neg named,ended]
    rfl
  · unfold CSState.conversation Archived.conversation
    rw [messages _ rfl,history,view_view]
    rfl

end

end CustomerService.ChatGraph
