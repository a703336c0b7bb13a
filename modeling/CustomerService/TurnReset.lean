import CustomerService.ChatTurns

/-! The fields of a turn that has ended do not reach the next one: the security node puts them
back, whether it lets the message pass or not. -/
namespace CustomerService.ChatGraph
open Text OrderAccess OrderReport Routing Supervisor NodeGraph

variable {Score Body : Type}

/-- Two checkpoints of one thread that differ in the fields of the last turn at most. -/
structure SameMemory (first second : CSState Body) : Prop where
  messages : first.messages = second.messages
  memory : first.memory = second.memory

structure SameTurn (first second : CSState Body) : Prop extends SameMemory first second where
  query : first.query = second.query
  userId : first.userId = second.userId
  tenantId : first.tenantId = second.tenantId
  sessionId : first.sessionId = second.sessionId

section
variable {outside : Outside Score Body} {first second : CSState Body}

private theorem same_apply (same : SameMemory first second) (update : Update Body) :
    SameMemory (first.apply outside.addMessages update) (second.apply outside.addMessages update) := by
  constructor
  · simp only [CSState.apply,same.messages]
  · simp only [CSState.apply,same.memory]

private theorem same_begin (same : SameMemory first second) (turn : ChatTurn)
    (archived : Option (Archived Body)) :
    SameTurn (begin outside turn archived first) (begin outside turn archived second) := by
  have kept : SameMemory (first.apply outside.addMessages (archived.elim {} archiveToGraphInputs))
      (second.apply outside.addMessages (archived.elim {} archiveToGraphInputs)) := same_apply same _
  exact ⟨⟨congrArg loaded kept.messages,kept.memory⟩,rfl,rfl,rfl,rfl⟩

private theorem same_security (same : SameTurn first second) :
    securityNode outside first = securityNode outside second := by
  unfold securityNode identityView
  simp only [same.query,same.messages]

private theorem apply_security (same : SameTurn first second) :
    first.apply outside.addMessages (securityNode outside first) =
      second.apply outside.addMessages (securityNode outside second) := by
  rw [same_security same]
  obtain ⟨query,userId,tenantId,sessionId,messages,route,memory,result⟩ := first
  obtain ⟨query',userId',tenantId',sessionId',messages',route',memory',result'⟩ := second
  obtain ⟨⟨rfl,rfl⟩,rfl,rfl,rfl,rfl⟩ := same
  unfold securityNode
  dsimp only
  split <;> rfl

end

section
variable [LinearOrder Score] [Zero Score] {outside : Outside Score Body} {first second : CSState Body}

private theorem visits_security (outside : Outside Score Body) (state : CSState Body) :
    visits outside state = (graph outside).visit state .security ::
      (graph outside).walk (state.apply outside.addMessages (securityNode outside state)) .router :=
  walk_of_edge rfl rfl

private theorem turn_eq_of_same (outside : Outside Score Body) (same : SameTurn first second)
    (turn : ChatTurn) :
    turnEvents outside turn first = turnEvents outside turn second ∧
      (graph outside).final first (visits outside first) =
        (graph outside).final second (visits outside second) ∧
      archiveWrite outside (visits outside first) = archiveWrite outside (visits outside second) := by
  rw [turnEvents,turnEvents,visits_security,visits_security,← apply_security same]
  refine ⟨?_,?_,rfl⟩
  · change _ :: (eventsFromUpdates _ .security (securityNode outside first) ++ _) =
      _ :: (eventsFromUpdates _ .security (securityNode outside second) ++ _)
    rw [same_security same]
  · rw [final_cons,final_cons]
    congr 1
    exact apply_security same

/-- A turn shows, keeps and archives the same from any two checkpoints with the same messages and
memory, whatever the turn before has left in the route and the result. -/
theorem turn_forgets_last_turn (outside : Outside Score Body) (turn : ChatTurn)
    (archived : Option (Archived Body)) (first second : CSState Body)
    (same : SameMemory first second) :
    runTurn outside turn archived first = runTurn outside turn archived second := by
  obtain ⟨events,checkpoint,archive⟩ := turn_eq_of_same outside (same_begin same turn archived) turn
  unfold runTurn
  dsimp only
  rw [events,checkpoint,archive]

end

def blockedCheckpoint : CSState Unit :=
  { blankState Unit with
    route := ⟨"chitchat".toList,"rag".toList,.number 1,true,none,some "20251114001".toList,none,true,
      "输入为空".toList,true⟩
    result := ⟨"请求已被安全中间件拦截：输入为空".toList,none,some "图".toList,none⟩ }

theorem turn_forgets_last_turn_blocked :
    runTurn bareOutside ⟨"你好".toList,"demo".toList,[],"s1".toList,by decide⟩ none blockedCheckpoint =
      runTurn bareOutside ⟨"你好".toList,"demo".toList,[],"s1".toList,by decide⟩ none (blankState Unit) :=
  turn_forgets_last_turn bareOutside _ none _ _ ⟨rfl,rfl⟩

end CustomerService.ChatGraph
