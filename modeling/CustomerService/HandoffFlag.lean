import CustomerService.MemoryTurns

/-! The mark of a pending hand-off: in the slots of every session of the user, in the archives of the
sessions, and in both copies of the profile. -/
namespace CustomerService.MemoryTurns
open Text OrderAccess LongTermMemory Transition OrderQuery Routing

/-- The sessions with their archives, from which a session starts again when its checkpoint is gone. -/
structure Scene where
  world : World
  archives : Text → Option SessionSlots

def Node.isHydrate : Node → Bool
  | .hydrate _ => true
  | _ => false

/-- A node of a turn, the end of a turn with its archive written or not, a session whose checkpoint is gone with
its archive read or not, and the end of the copy in the Store. -/
inductive Move
  | visit (session : Text) (node : Node) (inside : node.isHydrate = false) (enabled : Bool) (access : Access)
    (now : Text)
  | respond (session : Text) (archived : Bool)
  | reopen (session : Text) (read : Bool)
  | expire

/-- The memory fields as `MemoryView` writes them into an archive and out of it. -/
def viewed (slots : SessionSlots) : SessionSlots where
  lastIntent := orNone slots.lastIntent
  lastOrderNo := orNone slots.lastOrderNo
  lastCourseQuery := orNone slots.lastCourseQuery
  lastCourseName := orNone slots.lastCourseName
  handoffPending := slots.handoffPending

section
variable (table : OrderTable) (tenancy : Tenancy) (account : Account)

def Node.persists (state : CSState) (node : Node) : Bool :=
  (nodeResult table tenancy account state blank node).2

/-- A node whose put fails raises: the state of its session stays as it was. -/
def visit (world : World) (session : Text) (node : Node) (enabled : Bool) (access : Access) (now : Text) : World :=
  let next := step table tenancy account world (.node session node enabled access now)
  if node.persists table tenancy account (world.sessions session) && enabled && !access.put then
    {next with sessions := world.sessions}
  else next

def sceneStep (scene : Scene) : Move → Scene
  | .visit session node _ enabled access now =>
    {scene with world := visit table tenancy account scene.world session node enabled access now}
  | .respond session archived =>
    let archive := some (viewed (scene.world.sessions session).slots)
    if archived then ⟨scene.world,Function.update scene.archives session archive⟩ else scene
  | .reopen session read =>
    let archive := if read then scene.archives session else none
    let state := {freshState with slots := (archive.map viewed).getD freshState.slots}
    ⟨⟨scene.world.stores,Function.update scene.world.sessions session state⟩,scene.archives⟩
  | .expire => {scene with world := step table tenancy account scene.world .expire}

def Scene.start : Scene := ⟨World.start,fun _ => none⟩

/-! Which moves mark, and where the mark is. -/

def SupervisorDecision.intent (state : CSState) (decision : SupervisorDecision) : Text :=
  orElse (some decision.finalIntent) (orElse (some state.intent) "mixed".toList)

def HandsOff (state : CSState) : Node → Prop
  | .handoff => True
  | .tool (.error .escalated) => True
  | .supervisor decision =>
    (decision.finalIntent = "handoff".toList ∧ AUTO_HANDOFF.contains decision.reason = true) ∨
      (decision.asksUser = false ∧ decision.intent state = "handoff".toList)
  | _ => False

def Move.HandsOff (scene : Scene) : Move → Prop
  | .visit session node _ _ _ _ => MemoryTurns.HandsOff (scene.world.sessions session) node
  | _ => False

def Unmarked (stores : Stores) : Prop :=
  ∀ value, stores.hot = some value ∨ stores.cold = some value → value.handoffPending = false

/-- Nothing of a session has the mark, neither its slots nor its archive. -/
structure Clear (scene : Scene) (session : Text) : Prop where
  slots : (scene.world.sessions session).slots.handoffPending = false
  archive : ∀ slots, scene.archives session = some slots → slots.handoffPending = false

/-- The mark is nowhere, so that no turn and no new session can read it. -/
structure Cleared (scene : Scene) : Prop where
  profile : Unmarked scene.world.stores
  sessions : ∀ session, Clear scene session

variable {table tenancy account}

theorem Unmarked.load {stores : Stores} (unmarked : Unmarked stores) (userId : Text) (access : Access) :
    (loadUserMemory userId stores access).1.handoffPending = false ∧
      Unmarked (loadUserMemory userId stores access).2 := by
  unfold loadUserMemory
  split
  · exact ⟨rfl,unmarked⟩
  cases hot : stores.hot with
  | some value => exact ⟨unmarked value (Or.inl hot),unmarked⟩
  | none =>
    cases found : stores.cold.filter (fun _ => access.row) with
    | none => exact ⟨rfl,unmarked⟩
    | some archived =>
      have plain := unmarked archived (Or.inr (Option.filter_eq_some_iff.mp found).1)
      refine ⟨plain,?_⟩
      dsimp only
      split
      · intro value kept
        rcases kept with written | row
        · cases written
          exact plain
        · exact unmarked value (Or.inr row)
      · exact unmarked

theorem Unmarked.save {stores : Stores} (unmarked : Unmarked stores) (userId : Text) (enabled : Bool)
    (access : Access) {args : SaveArgs} (plain : args.handoffPending ≠ some true) (now : Text) :
    Unmarked (saveUserMemory userId enabled stores access args now) := by
  unfold saveUserMemory
  split
  · exact unmarked
  obtain ⟨current,loaded⟩ := unmarked.load userId access
  have value : (toValue (merge (loadUserMemory userId stores access).1 args now)).handoffPending = false := by
    change args.handoffPending.getD (loadUserMemory userId stores access).1.handoffPending = false
    rw [current]
    cases given : args.handoffPending with
    | none => rfl
    | some mark =>
      rw [given] at plain
      cases mark with
      | false => rfl
      | true => exact absurd rfl plain
  dsimp only
  split
  · exact loaded
  · intro other kept
    rcases kept with written | row
    · cases written
      exact value
    · dsimp only at row
      split at row
      · cases row
        exact value
      · exact loaded other (Or.inr row)

private theorem persists_plain {state : CSState} {node : Node} (calm : ¬HandsOff state node)
    (persists : node.persists table tenancy account state = true) (memory : UserMemory) :
    (nodeResult table tenancy account state memory node).1.slots.handoffPending = false := by
  cases node with
  | hydrate _ | security _ | router _ | chitchat | respond => cases persists
  | handoff => exact absurd trivial calm
  | rag query expanded courseName =>
    simp only [Node.persists,nodeResult,ragNode] at persists ⊢
    split_ifs at persists with signal
    rw [if_neg signal]
    rfl
  | tool answer =>
    cases answer with
    | ok report => rfl
    | error cause =>
      cases cause with
      | escalated => exact absurd trivial calm
      | _ => cases persists
  | supervisor decision =>
    obtain ⟨manual,answered⟩ := not_or.mp calm
    simp only [Node.persists,nodeResult,supervisorNode,if_neg manual] at persists ⊢
    split_ifs at persists with asks
    rw [if_neg asks]
    exact decide_eq_false (fun same => answered ⟨by simpa using asks,same⟩)

private theorem nodeResult_plain {state : CSState} {node : Node} (inside : node.isHydrate = false)
    (calm : ¬HandsOff state node) (plain : state.slots.handoffPending = false) {memory : UserMemory}
    (unmarked : memory.handoffPending = false) :
    (nodeResult table tenancy account state memory node).1.slots.handoffPending = false := by
  by_cases persists : node.persists table tenancy account state = true
  · exact persists_plain calm persists memory
  cases node with
  | hydrate _ => cases inside
  | handoff => exact absurd trivial calm
  | security _ | chitchat | respond => exact plain
  | router decision =>
    simp only [nodeResult,routerNode]
    split_ifs
    · exact plain
    · simp [hydrateSlots,overlayUserMemory,plain,unmarked]
  | rag query expanded courseName =>
    simp only [Node.persists,nodeResult,ragNode] at persists ⊢
    split_ifs at persists with signal
    · rw [if_pos signal]
      exact plain
    · exact absurd rfl persists
  | tool answer =>
    cases answer with
    | ok report => exact absurd rfl persists
    | error cause =>
      cases cause with
      | escalated => exact absurd trivial calm
      | _ => exact plain
  | supervisor decision =>
    obtain ⟨manual,_⟩ := not_or.mp calm
    simp only [Node.persists,nodeResult,supervisorNode,if_neg manual] at persists ⊢
    split_ifs at persists with asks
    · rw [if_pos asks]
      exact plain
    · exact absurd rfl persists

private theorem persistArgs_plain {state : CSState} (plain : state.slots.handoffPending = false) :
    (persistArgs table tenancy account state).handoffPending ≠ some true := by
  unfold persistArgs
  dsimp only
  split_ifs
  · simp [plain]
  · simp

private theorem loaded_unmarked {world : World} (unmarked : Unmarked world.stores) (state : CSState) (node : Node)
    (access : Access) :
    let loaded := if node.loads state then loadUserMemory account.userId world.stores access
      else (blank,world.stores)
    loaded.1.handoffPending = false ∧ Unmarked loaded.2 := by
  dsimp only
  split
  · exact unmarked.load account.userId access
  · exact ⟨rfl,unmarked⟩

private theorem step_unmarked {world : World} (unmarked : Unmarked world.stores) {session : Text} {node : Node}
    (calm : ¬HandsOff (world.sessions session) node) (enabled : Bool) (access : Access) (now : Text) :
    Unmarked (step table tenancy account world (.node session node enabled access now)).stores := by
  obtain ⟨_,kept⟩ := @loaded_unmarked account _ unmarked (world.sessions session) node access
  unfold step
  dsimp only
  generalize (if node.loads (world.sessions session) then loadUserMemory account.userId world.stores access
    else (blank,world.stores)) = loaded at kept ⊢
  split
  · rename_i persists
    have same : node.persists table tenancy account (world.sessions session) = true := by
      cases node <;> exact persists
    exact kept.save account.userId enabled access (persistArgs_plain (persists_plain calm same loaded.1)) now
  · exact kept

theorem visit_stores (world : World) (session : Text) (node : Node) (enabled : Bool) (access : Access) (now : Text) :
    (visit table tenancy account world session node enabled access now).stores =
      (step table tenancy account world (.node session node enabled access now)).stores := by
  unfold visit
  dsimp only
  split <;> rfl

private theorem visit_other {world : World} {session other : Text} (apart : other ≠ session) (node : Node)
    (enabled : Bool) (access : Access) (now : Text) :
    (visit table tenancy account world session node enabled access now).sessions other = world.sessions other := by
  unfold visit
  dsimp only
  split
  · rfl
  · exact Function.update_of_ne apart _ _

private theorem visit_plain {world : World} (unmarked : Unmarked world.stores) {session : Text} {node : Node}
    (inside : node.isHydrate = false) (calm : ¬HandsOff (world.sessions session) node)
    (plain : (world.sessions session).slots.handoffPending = false) (enabled : Bool) (access : Access)
    (now : Text) :
    ((visit table tenancy account world session node enabled access now).sessions session).slots.handoffPending =
      false := by
  unfold visit
  dsimp only
  split
  · exact plain
  · have read := (@loaded_unmarked account _ unmarked (world.sessions session) node access).1
    have result := @nodeResult_plain table tenancy account _ _ inside calm plain _ read
    simpa only [step,Function.update_self] using result

private theorem reopened_plain {archive : Option SessionSlots}
    (plain : ∀ slots, archive = some slots → slots.handoffPending = false) (read : Bool) :
    (((if read then archive else none).map viewed).getD freshState.slots).handoffPending = false := by
  cases read with
  | false => rfl
  | true =>
    cases archive with
    | none => rfl
    | some slots => exact plain slots rfl

private theorem respond_world {scene : Scene} {session : Text} {archived : Bool} :
    (sceneStep table tenancy account scene (.respond session archived)).world = scene.world := by
  simp only [sceneStep]
  split <;> rfl

private theorem archived_plain {scene : Scene} {session other : Text} {archived : Bool}
    (own : (scene.world.sessions session).slots.handoffPending = false)
    (before : (other = session ∧ archived = true) ∨
      ∀ slots, scene.archives other = some slots → slots.handoffPending = false) {slots : SessionSlots}
    (kept : (sceneStep table tenancy account scene (.respond session archived)).archives other = some slots) :
    slots.handoffPending = false := by
  simp only [sceneStep] at kept
  split at kept
  · dsimp only at kept
    by_cases same : other = session
    · subst same
      rw [Function.update_self] at kept
      cases kept
      exact own
    · rw [Function.update_of_ne same] at kept
      exact before.resolve_left (fun both => same both.1) slots kept
  · rename_i skipped
    exact before.resolve_left (fun both => skipped both.2) slots kept

theorem sceneStep_cleared {scene : Scene} (cleared : Cleared scene) (move : Move) (calm : ¬move.HandsOff scene) :
    Cleared (sceneStep table tenancy account scene move) := by
  cases move with
  | visit session node inside enabled access now =>
    refine ⟨?_,fun other => ⟨?_,(cleared.sessions other).archive⟩⟩
    · rw [sceneStep,visit_stores]
      exact step_unmarked cleared.profile calm enabled access now
    · by_cases same : other = session
      · subst same
        exact visit_plain cleared.profile inside calm (cleared.sessions other).slots enabled access now
      · rw [sceneStep,visit_other same]
        exact (cleared.sessions other).slots
  | respond session archived =>
    refine ⟨respond_world.symm ▸ cleared.profile,
      fun other => ⟨respond_world.symm ▸ (cleared.sessions other).slots,fun slots kept => ?_⟩⟩
    exact archived_plain (cleared.sessions session).slots (Or.inr (cleared.sessions other).archive) kept
  | reopen session read =>
    refine ⟨cleared.profile,fun other => ⟨?_,(cleared.sessions other).archive⟩⟩
    by_cases same : other = session
    · subst same
      simp only [sceneStep,Function.update_self]
      exact reopened_plain (cleared.sessions other).archive read
    · simp only [sceneStep,Function.update_of_ne same]
      exact (cleared.sessions other).slots
  | expire =>
    refine ⟨fun value kept => ?_,fun other => ⟨(cleared.sessions other).slots,(cleared.sessions other).archive⟩⟩
    exact cleared.profile value (Or.inr (kept.resolve_left (fun none' => nomatch none')))

def Move.Of (session : Text) : Move → Prop
  | .visit moved _ _ _ _ _ | .respond moved _ | .reopen moved _ => moved = session
  | .expire => True

private theorem sceneStep_other {scene : Scene} {session other : Text} (apart : other ≠ session) {move : Move}
    (own : move.Of session) (clear : Clear scene other) : Clear (sceneStep table tenancy account scene move) other := by
  cases move with
  | visit moved node inside enabled access now =>
    cases own
    refine ⟨?_,clear.archive⟩
    rw [sceneStep,visit_other apart]
    exact clear.slots
  | respond moved archived =>
    cases own
    refine ⟨respond_world.symm ▸ clear.slots,?_⟩
    simp only [sceneStep]
    split
    · simpa only [Function.update_of_ne apart] using clear.archive
    · exact clear.archive
  | reopen moved read =>
    cases own
    refine ⟨?_,clear.archive⟩
    simp only [sceneStep,Function.update_of_ne apart]
    exact clear.slots
  | expire => exact ⟨clear.slots,clear.archive⟩

theorem run_other {scene : Scene} {session other : Text} (apart : other ≠ session) {moves : List Move}
    (own : ∀ move ∈ moves, move.Of session) (clear : Clear scene other) :
    Clear (run (sceneStep table tenancy account) scene moves) other := by
  induction moves generalizing scene with
  | nil => exact clear
  | cons move rest ih =>
    exact ih (fun later listed => own later (.tail _ listed)) (sceneStep_other apart (own move (.head _)) clear)

/-! The end of a business turn. -/

/-- Where the mark must not be when the turn ends: in the profile, in another session, or in the archive of
this one when it is not written again. -/
structure Quiet (scene : Scene) (session : Text) (archived : Bool) : Prop where
  profile : Unmarked scene.world.stores
  others : ∀ other, other ≠ session → Clear scene other
  archive : archived = true ∨ ∀ slots, scene.archives session = some slots → slots.handoffPending = false

/-- A node that ends a turn with its facts, and hands nobody over: an order, a course or both. -/
structure Completes (table : OrderTable) (tenancy : Tenancy) (account : Account) (state : CSState)
    (node : Node) (enabled : Bool) (access : Access) : Prop where
  persists : node.persists table tenancy account state = true
  calm : ¬HandsOff state node
  accepted : enabled = true → access.put = true

theorem Completes.visit_eq {world : World} {session : Text} {node : Node} {enabled : Bool} {access : Access}
    (completes : Completes table tenancy account (world.sessions session) node enabled access) (now : Text) :
    visit table tenancy account world session node enabled access now =
      step table tenancy account world (.node session node enabled access now) := by
  have passes : (node.persists table tenancy account (world.sessions session) && enabled && !access.put) = false := by
    cases enabled with
    | false => simp
    | true => simp [completes.accepted rfl]
  unfold visit
  rw [passes]
  rfl

theorem Completes.slots {world : World} {session : Text} {node : Node} {enabled : Bool} {access : Access}
    (completes : Completes table tenancy account (world.sessions session) node enabled access) (now : Text) :
    ((visit table tenancy account world session node enabled access now).sessions session).slots.handoffPending =
      false := by
  rw [completes.visit_eq]
  have result := fun memory => persists_plain completes.calm completes.persists memory
  simpa only [step,Function.update_self] using result _

/-- A business turn that ends while the mark is only in its own session leaves it nowhere, and it stays away until
the next hand-off, in every turn and every new session. -/
theorem business_turn_clears {scene : Scene} {session : Text} {node : Node} (inside : node.isHydrate = false)
    {enabled : Bool} {access : Access} (now : Text) {archived : Bool}
    (completes : Completes table tenancy account (scene.world.sessions session) node enabled access)
    (quiet : Quiet scene session archived) :
    Cleared (run (sceneStep table tenancy account) scene
      [.visit session node inside enabled access now,.respond session archived]) := by
  have own := completes.slots now
  have profile : Unmarked (visit table tenancy account scene.world session node enabled access now).stores := by
    rw [visit_stores]
    exact step_unmarked quiet.profile completes.calm enabled access now
  let next := sceneStep table tenancy account scene (.visit session node inside enabled access now)
  have slots : ∀ other, (next.world.sessions other).slots.handoffPending = false := by
    intro other
    by_cases same : other = session
    · subst same
      exact own
    · exact (congrArg (fun state => state.slots.handoffPending) (visit_other same node enabled access now)).trans
        (quiet.others other same).slots
  show Cleared (sceneStep table tenancy account next (.respond session archived))
  refine ⟨respond_world.symm ▸ profile,fun other => ⟨respond_world.symm ▸ slots other,fun kept archive => ?_⟩⟩
  refine archived_plain (slots session) ?_ archive
  by_cases same : other = session
  · subst same
    exact quiet.archive.imp_left (fun written => ⟨rfl,written⟩)
  · exact Or.inr (quiet.others other same).archive

/-- In every run, a business turn that ends while the mark is only in its own session leaves it nowhere, and
until the next hand-off no state of the run has it: no turn reads it, and no session that starts again. -/
theorem handoff_mark_cleared (table : OrderTable) (tenancy : Tenancy) (account : Account) (before later : List Move)
    (session : Text) (node : Node) (inside : node.isHydrate = false) (enabled : Bool) (access : Access) (now : Text)
    (archived : Bool)
    (completes : Completes table tenancy account
      ((run (sceneStep table tenancy account) Scene.start before).world.sessions session) node enabled access)
    (quiet : Quiet (run (sceneStep table tenancy account) Scene.start before) session archived)
    (calm : Along (sceneStep table tenancy account) (fun scene move => ¬move.HandsOff scene)
      (run (sceneStep table tenancy account) Scene.start
        (before ++ [.visit session node inside enabled access now,.respond session archived])) later) :
    Throughout (sceneStep table tenancy account) Cleared
      (run (sceneStep table tenancy account) Scene.start
        (before ++ [.visit session node inside enabled access now,.respond session archived])) later := by
  refine Throughout.of_along (fun scene move cleared allowed => sceneStep_cleared cleared move allowed) ?_ calm
  rw [run_append]
  exact business_turn_clears inside now completes quiet

/-! A mark in the profile. -/

private theorem loads_of_persists {state : CSState} {node : Node}
    (persists : node.persists table tenancy account state = true) : node.loads state = false := by
  cases node with
  | router _ => cases persists
  | _ => rfl

private theorem save_keeps_mark {stores : Stores} {userId : Text} (persistent : isPersistentUser userId = true)
    {access : Access} (accepted : access.put = true)
    (marked : (loadUserMemory userId stores access).1.handoffPending = true) {args : SaveArgs}
    (silent : args.handoffPending = none) (now : Text) (later : Access) :
    (loadUserMemory userId (saveUserMemory userId true stores access args now) later).1.handoffPending = true := by
  have saved : (saveUserMemory userId true stores access args now).hot =
      some (toValue (merge (loadUserMemory userId stores access).1 args now)) := by
    unfold saveUserMemory
    rw [if_neg (by simp [persistent]),if_neg (by simp [accepted])]
  have kept : (merge (loadUserMemory userId stores access).1 args now).handoffPending = true := by
    simp only [merge,silent]
    exact marked
  rw [loadUserMemory,if_neg (by simp [persistent]),saved]
  exact kept

theorem mark_stays {world : World} {session : Text} {node : Node} {access : Access} (now : Text)
    (completes : Completes table tenancy account (world.sessions session) node true access)
    (business : (nodeResult table tenancy account (world.sessions session) blank node).1.intent ≠ "handoff".toList)
    (marked : (loadUserMemory account.userId world.stores access).1.handoffPending = true) (later : Access) :
    (loadUserMemory account.userId
      (visit table tenancy account world session node true access now).stores later).1.handoffPending = true := by
  have unread := loads_of_persists completes.persists
  have persists := completes.persists
  unfold Node.persists at persists
  rw [visit_stores]
  simp only [step,unread,persists,if_true,Bool.false_eq_true,if_false]
  apply save_keeps_mark account.persistent (completes.accepted rfl) marked
  exact if_neg business

theorem mark_returns {world : World} {session : Text} {access : Access}
    (passed : (world.sessions session).blocked = false)
    (marked : (loadUserMemory account.userId world.stores access).1.handoffPending = true)
    (decision : RouteDecision) (enabled : Bool) (now : Text) :
    ((visit table tenancy account world session (.router decision) enabled access now).sessions
      session).slots.handoffPending = true := by
  have loads : (Node.router decision).loads (world.sessions session) = true := by
    simp [Node.loads,passed]
  simp only [visit,Node.persists,nodeResult,Bool.false_and,Bool.false_eq_true,if_false,step,loads,if_true,
    Function.update_self,routerNode,passed,hydrateSlots,overlayUserMemory,marked,Bool.or_true]

end

def answers : Access := ⟨true,true,true,true⟩

def routed (intent : Intent) (target : RouteTarget) : RouteDecision :=
  ⟨intent,target,.number 1,none,none,false,none,[]⟩

/-- A turn that hands the user over to a person, the profile written or not. -/
def handedOver (enabled : Bool) : List Move :=
  [.visit "s".toList (.security true) rfl enabled answers [],
   .visit "s".toList (.router (routed .handoff .handoff)) rfl enabled answers [],
   .visit "s".toList .handoff rfl enabled answers [],.respond "s".toList true]

def asked (enabled : Bool) : List Move :=
  [.visit "s".toList (.security true) rfl enabled answers [],
   .visit "s".toList (.router (routed .mixed .supervisor)) rfl enabled answers []]

def answer : Node := .supervisor ⟨false,"mixed".toList,[],none,none⟩

def reopened (enabled : Bool) : List Move :=
  [.reopen "t".toList true,.visit "t".toList (.security true) rfl enabled answers [],
   .visit "t".toList (.router (routed .mixed .supervisor)) rfl enabled answers []]

def owner : Account := demoAccount "u1".toList (by decide)

/-- Without a memory of the user, the mark goes with the next business turn. -/
theorem handoff_mark_cleared_forgotten :
    Throughout (sceneStep oneOrder ⟨[],[]⟩ owner) Cleared
      (run (sceneStep oneOrder ⟨[],[]⟩ owner) Scene.start
        ((handedOver false ++ asked false) ++
          [.visit "s".toList answer rfl false answers [],.respond "s".toList true])) (reopened false) := by
  apply handoff_mark_cleared oneOrder ⟨[],[]⟩ owner
  · refine ⟨by decide +kernel,?_,fun on => nomatch on⟩
    intro handed
    rcases handed with manual | answered
    · exact absurd manual.1 (by decide)
    · exact absurd answered.2 (by decide)
  · refine ⟨?_,?_,Or.inl rfl⟩
    · have empty : (run (sceneStep oneOrder ⟨[],[]⟩ owner) Scene.start (handedOver false ++ asked false)).world.stores =
          ⟨none,none⟩ := by
        decide +kernel
      intro value kept
      rw [empty] at kept
      rcases kept with hot | cold
      · cases hot
      · cases cold
    · intro other apart
      refine run_other apart ?_ ⟨rfl,fun slots kept => nomatch kept⟩
      simp [handedOver,asked,Move.Of]
  · exact ⟨id,id,id,trivial⟩

/-- With it, the mark is in the profile after a business turn, and a new session reads it. -/
theorem mark_outlives_handoff :
    let scene := run (sceneStep oneOrder ⟨[],[]⟩ owner) Scene.start (handedOver true ++ asked true)
    let ended := run (sceneStep oneOrder ⟨[],[]⟩ owner) scene
      [.visit "s".toList answer rfl true answers [],.respond "s".toList true]
    let next := run (sceneStep oneOrder ⟨[],[]⟩ owner) ended (reopened true)
    (answer.persists oneOrder ⟨[],[]⟩ owner (scene.world.sessions "s".toList) = true) ∧
      (ended.world.sessions "s".toList).intent = "mixed".toList ∧
      (ended.world.sessions "s".toList).slots.handoffPending = false ∧
      ended.world.stores.hot.map UserMemory.handoffPending = some true ∧
      ended.world.stores.cold.map UserMemory.handoffPending = some true ∧
      (next.world.sessions "t".toList).slots.handoffPending = true := by
  decide +kernel

end CustomerService.MemoryTurns
