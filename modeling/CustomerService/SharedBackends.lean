import CustomerService.FailingPrograms
import CustomerService.Text
import CustomerService.Transition

/-! What stands behind the stores of a deployment: the one Redis that is configured, or the memory of a single
process. Redis comes and goes; what is in reach of a call is said with the call. -/
namespace CustomerService.SharedBackends

open Text FailingPrograms

structure Settings where
  redisUrl : Text
  uvicornWorkers : Int

inductive RedisUnavailable
  | urlMissing
  | unreachable (url : Text)
  | splitsWorkers (workers : Nat)
deriving DecidableEq

def RedisUnavailable.message : RedisUnavailable → Text
  | .urlMissing => ("当前运行模式需要 REDIS_URL。请先执行 docker compose up -d redis，并在 .env 中设置 " ++
      "REDIS_URL=redis://127.0.0.1:6379/0").toList
  | .unreachable url => "Redis 不可用（".toList ++ url ++ "），禁止回退进程内存。".toList
  | .splitsWorkers workers => "UVICORN_WORKERS=".toList ++ Nat.toDigits 10 workers ++
      (" 必须配置 REDIS_URL，否则会话、记忆、配额和并发槽会按进程分裂。请执行 docker compose up -d redis，" ++
        "并设置 REDIS_URL=redis://127.0.0.1:6379/0").toList

/-- The memory of the process, or the Redis of a URL. -/
inductive Backend
  | memory
  | redis (url : Text)
deriving DecidableEq

structure Context where
  redis : Option Text
  checkpointer : Backend
  sessionLock : Backend
  userStore : Backend
  gatewayStore : Backend
deriving DecidableEq

/-- The globals of a process, of `session_cache`, `runtime`, `chat_slots` and `tool_cache`; a client is named by
its URL. -/
structure Globals where
  redis : Option Text
  asyncRedis : Option Text
  sessionLock : Option Backend
  process : Option Context
  chatSlots : Option Backend
  toolCache : Option Backend
deriving DecidableEq

def Globals.fresh : Globals := ⟨none,none,none,none,none,none⟩

abbrev Program := EStateM RedisUnavailable Globals

def Settings.url (settings : Settings) : Text := strip settings.redisUrl

/-- `max(1, settings.uvicorn_workers)`. -/
def Settings.workers (settings : Settings) : Nat := (max 1 settings.uvicornWorkers).toNat

section
variable (settings : Settings) (up : Bool)

def getRedisClient (required : Bool) : Program (Option Text) :=
  if settings.url = [] then if required then throw .urlMissing else return none
  else do
    let globals ← get
    match globals.redis with
    | some client => return some client
    | none =>
      if up then
        modify (fun globals => { globals with redis := some settings.url })
        return some settings.url
      else throw (.unreachable settings.url)

def getAsyncRedisClient (required : Bool) : Program (Option Text) :=
  if settings.url = [] then if required then throw .urlMissing else return none
  else do
    let _ ← getRedisClient settings up required
    let globals ← get
    match globals.asyncRedis with
    | some client => return some client
    | none =>
      modify (fun globals => { globals with asyncRedis := some settings.url })
      return some settings.url

/-- `set_session_lock`, which writes into the context too when there is one. -/
def setSessionLock (lock : Backend) : Program Unit :=
  modify (fun globals => { globals with
    sessionLock := some lock
    process := globals.process.map (fun context => { context with sessionLock := lock }) })

def getSessionLock : Program Backend := do
  let globals ← get
  match globals.process with
  | some context => return context.sessionLock
  | none =>
    match globals.sessionLock with
    | some lock => return lock
    | none =>
      modify (fun globals => { globals with sessionLock := some .memory })
      return .memory

def ofClient : Option Text → Backend
  | none => .memory
  | some url => .redis url

/-- `build_checkpointer()`; the lock is asynchronous when there is an asynchronous client. -/
def buildCheckpointer : Program Backend := do
  let client ← getRedisClient settings up false
  match client with
  | none =>
    setSessionLock .memory
    return .memory
  | some url =>
    let asyncClient ← getAsyncRedisClient settings up false
    setSessionLock (.redis (asyncClient.getD url))
    return .redis url

/-- `build_user_store(client=client)` and `build_gateway_store(client=client)`. -/
def buildStore (client : Option Text) : Program Backend :=
  match client with
  | some url => return .redis url
  | none => do
    let found ← getRedisClient settings up false
    return ofClient found

def buildAppContext : Program Context := do
  let client ← getRedisClient settings up false
  let checkpointer ← buildCheckpointer settings up
  let lock ← getSessionLock
  let userStore ← buildStore settings up client
  let gatewayStore ← buildStore settings up client
  return ⟨client,checkpointer,lock,userStore,gatewayStore⟩

def getAppContext : Program Context := do
  let globals ← get
  match globals.process with
  | some context => return context
  | none =>
    let context ← buildAppContext settings up
    modify (fun globals => { globals with process := some context })
    setSessionLock context.sessionLock
    return context

def getChatSlotStore : Program Backend := do
  let globals ← get
  match globals.chatSlots with
  | some store => return store
  | none =>
    let client ← getRedisClient settings up false
    modify (fun globals => { globals with chatSlots := some (ofClient client) })
    return ofClient client

def toolCacheStore : Program Backend := do
  let globals ← get
  match globals.toolCache with
  | some store => return store
  | none =>
    let client ← getRedisClient settings up false
    modify (fun globals => { globals with toolCache := some (ofClient client) })
    return ofClient client

/-- `require_redis_for_serve`. -/
def requireRedisForServe : Program Unit :=
  if settings.url ≠ [] then do
    let _ ← getRedisClient settings up false
  else if 1 < settings.workers then throw (.splitsWorkers settings.workers)
  else return

/-- The start of a worker, up to its context: `ensure_configured_redis` comes first. -/
def lifespan : Program Context := do
  let _ ← getRedisClient settings up false
  getAppContext settings up

end

/-! ### What a call leaves -/

def Settings.client (settings : Settings) : Option Text :=
  if settings.url = [] then none else some settings.url

def Settings.backend (settings : Settings) : Backend := ofClient settings.client

def Context.of (settings : Settings) : Context :=
  ⟨settings.client,settings.backend,settings.backend,settings.backend,settings.backend⟩

/-- Whatever a process has kept so far stands on the configured backend. -/
structure Globals.Sound (settings : Settings) (globals : Globals) : Prop where
  redis : ∀ client, globals.redis = some client → some client = settings.client
  asyncRedis : ∀ client, globals.asyncRedis = some client → some client = settings.client
  sessionLock : ∀ lock, globals.sessionLock = some lock → lock = settings.backend
  process : ∀ context, globals.process = some context → context = .of settings
  chatSlots : ∀ store, globals.chatSlots = some store → store = settings.backend
  toolCache : ∀ store, globals.toolCache = some store → store = settings.backend

private theorem sound_fresh (settings : Settings) : Globals.fresh.Sound settings :=
  ⟨nofun,nofun,nofun,nofun,nofun,nofun⟩

structure Globals.Follows (globals after : Globals) : Prop where
  process : globals.process ≠ none → after.process ≠ none
  redis : globals.redis ≠ none → after.redis ≠ none

theorem Globals.Follows.refl (globals : Globals) : globals.Follows globals := ⟨id,id⟩

theorem Globals.Follows.trans {globals after later : Globals} (first : globals.Follows after)
    (second : after.Follows later) : globals.Follows later :=
  ⟨fun there => second.process (first.process there),fun there => second.redis (first.redis there)⟩

/-- A call that is answered has the one answer; it fails only where no client is kept, while Redis is configured and
out of reach. -/
def Answers {Value : Type} (settings : Settings) (up : Bool) (kept : Globals → Prop) (answer : Value)
    (program : Program Value) (globals : Globals) : Prop :=
  Ends (fun value after => value = answer ∧ after.Sound settings ∧ globals.Follows after ∧ kept after)
    (fun err after => (err = .unreachable settings.url ∧ settings.url ≠ [] ∧ up = false ∧ globals.redis = none) ∧
      after.Sound settings)
    program globals

theorem Globals.Sound.installed {settings : Settings} {globals : Globals} (sound : globals.Sound settings)
    (some' : globals.process ≠ none) : globals.process = some (.of settings) := by
  obtain ⟨context,held⟩ := Option.ne_none_iff_exists'.mp some'
  rw [held,sound.process context held]

theorem Answers.bind {First Value : Type} {settings : Settings} {up : Bool} {middle kept : Globals → Prop}
    {one : First} {answer : Value} {program : Program First} {rest : First → Program Value} {globals : Globals}
    (first : Answers settings up middle one program globals)
    (second : ∀ after, after.Sound settings → middle after → Answers settings up kept answer (rest one) after) :
    Answers settings up kept answer (program >>= rest) globals := by
  refine ends_bind (Ends.weaken first ?_ (fun _ _ failed => failed))
  rintro value after ⟨rfl,sound,follows,held⟩
  refine Ends.weaken (second after sound held) ?_ ?_
  · rintro value' later ⟨same,sound',follows',held'⟩
    exact ⟨same,sound',follows.trans follows',held'⟩
  · rintro err later ⟨⟨same,some',down,lost⟩,sound'⟩
    exact ⟨⟨same,some',down,not_imp_not.mp follows.redis lost⟩,sound'⟩

theorem Answers.weaken {Value : Type} {settings : Settings} {up : Bool} {kept kept' : Globals → Prop} {answer : Value}
    {program : Program Value} {globals : Globals} (answers : Answers settings up kept answer program globals)
    (weaken : ∀ after, kept after → kept' after) : Answers settings up kept' answer program globals := by
  refine Ends.weaken answers ?_ (fun _ _ failed => failed)
  rintro value after ⟨same,sound,follows,held⟩
  exact ⟨same,sound,follows,weaken after held⟩

section
variable {settings : Settings} {up : Bool} {globals : Globals}

private theorem answers_pure {Value : Type} {answer : Value} (sound : globals.Sound settings) :
    Answers settings up (fun after => after = globals) answer (pure answer) globals :=
  ends_pure ⟨rfl,sound,.refl globals,rfl⟩

theorem answers_get {Value : Type} {kept : Globals → Prop} {answer : Value} {rest : Globals → Program Value}
    (answers : Answers settings up kept answer (rest globals) globals) :
    Answers settings up kept answer (get >>= rest) globals := ends_bind (ends_get answers)

private theorem answers_modify {change : Globals → Globals} (sound : (change globals).Sound settings)
    (follows : globals.Follows (change globals)) :
    Answers settings up (fun after => after = change globals) () (modify change) globals :=
  ends_modify ⟨rfl,sound,follows,rfl⟩

private theorem answers_getRedisClient (sound : globals.Sound settings) :
    Answers settings up (fun after => settings.url ≠ [] → after.redis ≠ none) settings.client
      (getRedisClient settings up false) globals := by
  unfold getRedisClient
  by_cases none' : settings.url = []
  · have client : settings.client = none := if_pos none'
    rw [if_pos none',if_neg Bool.false_ne_true,client]
    exact (answers_pure sound).weaken (fun _ _ some' => absurd none' some')
  · have client : settings.client = some settings.url := if_neg none'
    rw [if_neg none']
    refine answers_get ?_
    cases held : globals.redis with
    | some found =>
      rw [← sound.redis found held]
      exact (answers_pure sound).weaken (fun after same _ => by rw [same,held]; exact Option.some_ne_none found)
    | none =>
      cases up with
      | true =>
        have written : Globals.Sound settings { globals with redis := some settings.url } :=
          ⟨fun found same => client ▸ same.symm,sound.asyncRedis,sound.sessionLock,sound.process,sound.chatSlots,
            sound.toolCache⟩
        refine (answers_modify written ⟨id,fun _ => Option.some_ne_none _⟩).bind (fun after sound' same => ?_)
        rw [client]
        exact (answers_pure sound').weaken (fun last same' _ => by rw [same',same]; exact Option.some_ne_none _)
      | false => exact ends_throw ⟨⟨rfl,none',rfl,held⟩,sound⟩

private theorem answers_getAsyncRedisClient (sound : globals.Sound settings) :
    Answers settings up (fun _ => True) settings.client (getAsyncRedisClient settings up false) globals := by
  unfold getAsyncRedisClient
  by_cases none' : settings.url = []
  · have client : settings.client = none := if_pos none'
    rw [if_pos none',if_neg Bool.false_ne_true,client]
    exact (answers_pure sound).weaken (fun _ _ => trivial)
  · have client : settings.client = some settings.url := if_neg none'
    rw [if_neg none']
    refine (answers_getRedisClient sound).bind (fun after sound' _ => ?_)
    refine answers_get ?_
    cases held : after.asyncRedis with
    | some found =>
      rw [← sound'.asyncRedis found held]
      exact (answers_pure sound').weaken (fun _ _ => trivial)
    | none =>
      have written : Globals.Sound settings { after with asyncRedis := some settings.url } :=
        ⟨sound'.redis,fun found same => client ▸ same.symm,sound'.sessionLock,sound'.process,sound'.chatSlots,
          sound'.toolCache⟩
      refine (answers_modify written ⟨id,id⟩).bind (fun later sound'' _ => ?_)
      rw [client]
      exact (answers_pure sound'').weaken (fun _ _ => trivial)

private theorem answers_setSessionLock (sound : globals.Sound settings) :
    Answers settings up (fun after => after.sessionLock = some settings.backend) ()
      (setSessionLock settings.backend) globals := by
  refine ends_modify ⟨rfl,⟨sound.redis,sound.asyncRedis,?_,?_,sound.chatSlots,sound.toolCache⟩,?_,rfl⟩
  · intro lock same
    exact (Option.some.inj same).symm
  · intro context written
    obtain ⟨found,held,rfl⟩ := Option.map_eq_some_iff.mp written
    rw [sound.process found held]
    rfl
  · exact ⟨fun there gone => there (Option.map_eq_none_iff.mp gone),id⟩

/-- Before there is a context and a lock, this falls back to a lock of the process, whatever is configured. -/
theorem answers_getSessionLock (sound : globals.Sound settings)
    (set' : globals.process ≠ none ∨ globals.sessionLock ≠ none) :
    Answers settings up (fun _ => True) settings.backend getSessionLock globals := by
  unfold getSessionLock
  refine answers_get ?_
  cases installed : globals.process with
  | some context =>
    have same := sound.process context installed
    exact ends_pure ⟨by rw [same]; rfl,sound,.refl globals,trivial⟩
  | none =>
    cases held : globals.sessionLock with
    | some lock => exact ends_pure ⟨sound.sessionLock lock held,sound,.refl globals,trivial⟩
    | none => exact absurd set' (not_or.mpr ⟨not_not.mpr installed,not_not.mpr held⟩)

private theorem answers_buildCheckpointer (sound : globals.Sound settings) :
    Answers settings up (fun after => after.sessionLock = some settings.backend) settings.backend
      (buildCheckpointer settings up) globals := by
  unfold buildCheckpointer
  refine (answers_getRedisClient sound).bind (fun after sound' _ => ?_)
  by_cases none' : settings.url = []
  · have client : settings.client = none := if_pos none'
    have backend : settings.backend = .memory := by rw [Settings.backend,client,ofClient]
    rw [client]
    dsimp only
    rw [← backend]
    refine (answers_setSessionLock sound').bind (fun later sound'' locked => ?_)
    exact (answers_pure sound'').weaken (fun last same => same ▸ locked)
  · have client : settings.client = some settings.url := if_neg none'
    have backend : settings.backend = .redis settings.url := by rw [Settings.backend,client,ofClient]
    rw [client]
    dsimp only
    refine (answers_getAsyncRedisClient sound').bind (fun middle sound'' _ => ?_)
    rw [client,Option.getD_some,← backend]
    refine (answers_setSessionLock sound'').bind (fun later sound''' locked => ?_)
    exact (answers_pure sound''').weaken (fun last same => same ▸ locked)

private theorem answers_buildStore (sound : globals.Sound settings) :
    Answers settings up (fun _ => True) settings.backend (buildStore settings up settings.client) globals := by
  unfold buildStore
  by_cases none' : settings.url = []
  · have client : settings.client = none := if_pos none'
    rw [client]
    refine (answers_getRedisClient sound).bind (fun after sound' _ => ?_)
    exact (answers_pure sound').weaken (fun _ _ => trivial)
  · have client : settings.client = some settings.url := if_neg none'
    rw [Settings.backend,client]
    exact (answers_pure sound).weaken (fun _ _ => trivial)

private theorem answers_buildAppContext (sound : globals.Sound settings) :
    Answers settings up (fun _ => True) (.of settings) (buildAppContext settings up) globals := by
  unfold buildAppContext
  refine (answers_getRedisClient sound).bind (fun first sound' _ => ?_)
  refine (answers_buildCheckpointer sound').bind (fun second sound'' locked => ?_)
  have held : second.sessionLock ≠ none := by
    rw [locked]
    exact Option.some_ne_none _
  refine (answers_getSessionLock sound'' (Or.inr held)).bind (fun third sound''' _ => ?_)
  refine (answers_buildStore sound''').bind (fun fourth sound4 _ => ?_)
  refine (answers_buildStore sound4).bind (fun fifth sound5 _ => ?_)
  exact (answers_pure sound5).weaken (fun _ _ => trivial)

private theorem answers_getAppContext (sound : globals.Sound settings) :
    Answers settings up (fun after => after.process = some (.of settings)) (.of settings)
      (getAppContext settings up) globals := by
  unfold getAppContext
  refine answers_get ?_
  cases installed : globals.process with
  | some context =>
    have same := sound.process context installed
    exact ends_pure ⟨same,sound,.refl globals,installed.trans (congrArg some same)⟩
  | none =>
    refine (answers_buildAppContext sound).bind (fun after sound' _ => ?_)
    have written : Globals.Sound settings { after with process := some (.of settings) } :=
      ⟨sound'.redis,sound'.asyncRedis,sound'.sessionLock,fun context same => (Option.some.inj same).symm,
        sound'.chatSlots,sound'.toolCache⟩
    refine (answers_modify written ⟨fun _ => Option.some_ne_none _,id⟩).bind (fun middle sound'' same => ?_)
    have there : middle.process ≠ none := by
      rw [same]
      exact Option.some_ne_none _
    have locked : Answers settings up (fun after => after.process ≠ none) () (setSessionLock settings.backend)
        middle := by
      refine Ends.weaken (answers_setSessionLock sound'') ?_ (fun _ _ failed => failed)
      rintro value later ⟨same',sound',follows,_⟩
      exact ⟨same',sound',follows,follows.process there⟩
    refine locked.bind (fun last sound''' held => ?_)
    exact (answers_pure sound''').weaken (fun after same' => same' ▸ sound'''.installed held)

private theorem answers_getChatSlotStore (sound : globals.Sound settings) :
    Answers settings up (fun _ => True) settings.backend (getChatSlotStore settings up) globals := by
  unfold getChatSlotStore
  refine answers_get ?_
  cases held : globals.chatSlots with
  | some store => exact ends_pure ⟨sound.chatSlots store held,sound,.refl globals,trivial⟩
  | none =>
    refine (answers_getRedisClient sound).bind (fun after sound' _ => ?_)
    have written : Globals.Sound settings { after with chatSlots := some (ofClient settings.client) } :=
      ⟨sound'.redis,sound'.asyncRedis,sound'.sessionLock,sound'.process,fun store kept => (Option.some.inj kept).symm,
        sound'.toolCache⟩
    refine (answers_modify written ⟨id,id⟩).bind (fun middle sound'' _ => ?_)
    exact (answers_pure sound'').weaken (fun _ _ => trivial)

private theorem answers_toolCacheStore (sound : globals.Sound settings) :
    Answers settings up (fun _ => True) settings.backend (toolCacheStore settings up) globals := by
  unfold toolCacheStore
  refine answers_get ?_
  cases held : globals.toolCache with
  | some store => exact ends_pure ⟨sound.toolCache store held,sound,.refl globals,trivial⟩
  | none =>
    refine (answers_getRedisClient sound).bind (fun after sound' _ => ?_)
    have written : Globals.Sound settings { after with toolCache := some (ofClient settings.client) } :=
      ⟨sound'.redis,sound'.asyncRedis,sound'.sessionLock,sound'.process,sound'.chatSlots,
        fun store kept => (Option.some.inj kept).symm⟩
    refine (answers_modify written ⟨id,id⟩).bind (fun middle sound'' _ => ?_)
    exact (answers_pure sound'').weaken (fun _ _ => trivial)

private theorem answers_lifespan (sound : globals.Sound settings) :
    Answers settings up
      (fun after => after.process = some (.of settings) ∧ (settings.url ≠ [] → after.redis ≠ none)) (.of settings)
      (lifespan settings up) globals := by
  unfold lifespan
  refine (answers_getRedisClient sound).bind (fun first sound' connected => ?_)
  refine Ends.weaken (answers_getAppContext sound') ?_ (fun _ _ failed => failed)
  rintro value after ⟨same,sound'',follows,installed⟩
  exact ⟨same,sound'',follows,installed,fun some' => follows.redis (connected some')⟩

end

/-! ### A deployment -/

inductive Use
  | appContext | sessionLock | chatSlots | toolCache

def Use.program (settings : Settings) (up : Bool) : Use → Program (List Backend)
  | appContext => do
    let context ← getAppContext settings up
    return [context.checkpointer,context.sessionLock,context.userStore,context.gatewayStore]
  | sessionLock => do
    let lock ← getSessionLock
    return [lock]
  | chatSlots => do
    let store ← getChatSlotStore settings up
    return [store]
  | toolCache => do
    let store ← toolCacheStore settings up
    return [store]

/-- A process that is starting up, or that serves requests. -/
structure Process where
  globals : Globals
  serving : Bool

/-- The processes, each in its slot, and what was handed out to the requests of the slots. -/
structure Fleet where
  slots : Nat → Option Process
  given : List (Nat × Backend)

def Fleet.start : Fleet := ⟨fun _ => none,[]⟩

def Fleet.put (fleet : Fleet) (slot : Nat) (process : Option Process) : Fleet :=
  { fleet with slots := fun other => if other = slot then process else fleet.slots other }

/-- The server is started; a process comes up, where `rest` says whether what follows its context succeeds; a
request calls; a process ends. -/
inductive Action
  | serve (up : Bool)
  | startUp (slot : Nat) (up rest : Bool)
  | call (slot : Nat) (use : Use) (up : Bool)
  | ends (slot : Nat)

/-- The processes that the server starts. A single worker runs in the process of the command, which has the client
of the gate; several are processes of their own. -/
def spawned (settings : Settings) (globals : Globals) : Nat → Option Process := fun slot =>
  if slot < settings.workers then some ⟨if settings.workers = 1 then globals else .fresh,false⟩ else none

def Fleet.step (settings : Settings) (fleet : Fleet) : Action → Fleet
  | .serve up =>
    match requireRedisForServe settings up .fresh with
    | .ok _ globals => { fleet with slots := spawned settings globals }
    | .error _ _ => fleet
  | .startUp slot up rest =>
    match fleet.slots slot with
    | some ⟨globals,false⟩ =>
      match lifespan settings up globals with
      | .ok _ after => fleet.put slot (if rest then some ⟨after,true⟩ else none)
      | .error _ _ => fleet.put slot none
    | _ => fleet
  | .call slot use up =>
    match fleet.slots slot with
    | some ⟨globals,true⟩ =>
      match use.program settings up globals with
      | .ok handed after =>
        { fleet.put slot (some ⟨after,true⟩) with given := fleet.given ++ handed.map (slot,·) }
      | .error _ after => fleet.put slot (some ⟨after,true⟩)
    | _ => fleet
  | .ends slot =>
    -- the supervisor of several workers starts another one
    if (fleet.slots slot).isSome ∧ 1 < settings.workers then fleet.put slot (some ⟨.fresh,false⟩)
    else fleet.put slot none

def Fleet.run (settings : Settings) (actions : List Action) : Fleet :=
  Transition.run (Fleet.step settings) .start actions

structure Process.Sound (settings : Settings) (process : Process) : Prop where
  globals : process.globals.Sound settings
  context : process.serving = true → process.globals.process = some (.of settings)
  connected : process.serving = true → settings.url ≠ [] → process.globals.redis ≠ none

/-- Every process is on the configured backend; more than one has to have Redis behind it. -/
structure Fleet.Sound (settings : Settings) (fleet : Fleet) : Prop where
  slots : ∀ slot process, fleet.slots slot = some process → process.Sound settings ∧ (settings.url = [] → slot = 0)
  given : ∀ entry ∈ fleet.given, entry.2 = settings.backend ∧ (settings.url = [] → entry.1 = 0)

section
variable {settings : Settings} {up : Bool}

theorem Use.answered {globals : Globals} (process : Process.Sound settings ⟨globals,true⟩) (use : Use) (up : Bool) :
    ∃ handed after, use.program settings up globals = .ok handed after ∧ (∀ store ∈ handed, store = settings.backend) ∧
      Process.Sound settings ⟨after,true⟩ := by
  have sound := process.globals
  have installed : globals.process ≠ none := by
    rw [process.context rfl]
    exact Option.some_ne_none _
  have answered {Value : Type} {kept : Globals → Prop} {answer : Value} {program : Program Value}
      {handed : Value → List Backend} (answers : Answers settings up kept answer program globals)
      (good : ∀ store ∈ handed answer, store = settings.backend) :
      Ends (fun handed after => (∀ store ∈ handed, store = settings.backend) ∧ Process.Sound settings ⟨after,true⟩)
        (fun _ _ => False) (program >>= fun value => pure (handed value)) globals := by
    refine ends_bind (Ends.weaken answers ?_ ?_)
    · rintro value after ⟨rfl,sound',follows,_⟩
      exact ends_pure ⟨good,sound',fun _ => sound'.installed (follows.process installed),
        fun _ some' => follows.redis (process.connected rfl some')⟩
    · rintro err after ⟨⟨_,some',_,lost⟩,_⟩
      exact process.connected rfl some' lost
  have ends : Ends (fun handed after => (∀ store ∈ handed, store = settings.backend) ∧
      Process.Sound settings ⟨after,true⟩) (fun _ _ => False) (use.program settings up) globals := by
    cases use with
    | appContext => exact answered (answers_getAppContext sound) (by simp [Context.of])
    | sessionLock => exact answered (answers_getSessionLock sound (Or.inl installed)) (by simp)
    | chatSlots => exact answered (answers_getChatSlotStore sound) (by simp)
    | toolCache => exact answered (answers_toolCacheStore sound) (by simp)
  cases ran : use.program settings up globals with
  | ok handed after =>
    obtain ⟨good,kept⟩ := ends_of_ok ends ran
    exact ⟨handed,after,rfl,good,kept⟩
  | error err after => exact (ends_of_error ends ran).elim

private theorem requireRedisForServe_ends :
    Ends (fun _ after => after.Sound settings ∧ (settings.url = [] → settings.workers ≤ 1)) (fun _ _ => True)
      (requireRedisForServe settings up) .fresh := by
  unfold requireRedisForServe
  split_ifs with some' many
  · refine ends_bind (Ends.weaken (answers_getRedisClient (sound_fresh settings)) ?_ (fun _ _ _ => trivial))
    rintro value after ⟨_,sound,_,_⟩
    exact ends_pure ⟨sound,fun none' => absurd none' some'⟩
  · exact ends_throw trivial
  · exact ends_pure ⟨sound_fresh settings,fun _ => Nat.le_of_not_lt many⟩

private theorem spawned_sound {globals : Globals} (sound : globals.Sound settings)
    (few : settings.url = [] → settings.workers ≤ 1) {slot : Nat} {process : Process}
    (found : spawned settings globals slot = some process) :
    process.Sound settings ∧ (settings.url = [] → slot = 0) := by
  unfold spawned at found
  split_ifs at found with within alone
  · obtain rfl := Option.some.inj found
    exact ⟨⟨sound,nofun,nofun⟩,fun _ => by omega⟩
  · obtain rfl := Option.some.inj found
    exact ⟨⟨sound_fresh settings,nofun,nofun⟩,fun none' => by have := few none'; omega⟩

variable {fleet : Fleet}

theorem Fleet.Sound.put (sound : fleet.Sound settings) {slot : Nat} {process : Option Process}
    (good : ∀ own, process = some own → own.Sound settings ∧ (settings.url = [] → slot = 0)) :
    (fleet.put slot process).Sound settings := by
  refine ⟨fun other own found => ?_,sound.given⟩
  unfold Fleet.put at found
  dsimp only at found
  split_ifs at found with same
  · exact same ▸ good own found
  · exact sound.slots other own found

theorem Fleet.Sound.drop (sound : fleet.Sound settings) (slot : Nat) : (fleet.put slot none).Sound settings := by
  apply sound.put
  intro own held
  exact absurd held.symm (Option.some_ne_none own)

theorem Fleet.Sound.step (sound : fleet.Sound settings) (action : Action) :
    (fleet.step settings action).Sound settings := by
  cases action with
  | serve up =>
    unfold Fleet.step
    dsimp only
    split
    · rename_i globals ran
      obtain ⟨sound',few⟩ := ends_of_ok requireRedisForServe_ends ran
      exact ⟨fun slot process found => spawned_sound sound' few found,sound.given⟩
    · exact sound
  | startUp slot up rest =>
    unfold Fleet.step
    dsimp only
    split
    · rename_i globals found
      obtain ⟨process,first⟩ := sound.slots slot _ found
      split
      · rename_i context after ran
        obtain ⟨_,sound',_,installed,connected⟩ := ends_of_ok (answers_lifespan process.globals) ran
        refine sound.put (fun own held => ?_)
        cases rest with
        | true =>
          obtain rfl := Option.some.inj held
          exact ⟨⟨sound',fun _ => installed,fun _ => connected⟩,first⟩
        | false => cases held
      · exact sound.drop slot
    · exact sound
  | call slot use up =>
    unfold Fleet.step
    dsimp only
    split
    · rename_i globals found
      obtain ⟨process,first⟩ := sound.slots slot _ found
      obtain ⟨handed,after,ran,good,kept⟩ := use.answered process up
      rw [ran]
      have put : (fleet.put slot (some ⟨after,true⟩)).Sound settings := by
        refine sound.put (fun own held => ?_)
        obtain rfl := Option.some.inj held
        exact ⟨kept,first⟩
      refine ⟨put.slots,fun entry added => ?_⟩
      rcases List.mem_append.mp added with old | new
      · exact sound.given entry old
      · obtain ⟨store,among,rfl⟩ := List.mem_map.mp new
        exact ⟨good store among,first⟩
    · exact sound
  | ends slot =>
    unfold Fleet.step
    dsimp only
    split_ifs with again
    · refine sound.put (fun own held => ?_)
      obtain ⟨process,found⟩ := Option.isSome_iff_exists.mp again.1
      obtain rfl := Option.some.inj held
      exact ⟨⟨sound_fresh settings,nofun,nofun⟩,(sound.slots slot process found).2⟩
    · exact sound.drop slot

theorem Fleet.start_sound : Fleet.start.Sound settings := by
  refine ⟨?_,?_⟩
  · rintro slot process ⟨⟩
  · rintro entry ⟨⟩

theorem Fleet.run_sound (actions : List Action) : (Fleet.run settings actions).Sound settings := by
  have keeps : ∀ fleet action, Fleet.Sound settings fleet → (fleet.step settings action).Sound settings :=
    fun _ action sound => sound.step action
  exact Transition.run_invariant keeps Fleet.start_sound actions

end

/-- Whatever comes up, asks and ends while Redis comes and goes: all that is handed out stands on one backend, which
is the memory of a process only where there is a single process; and a process that serves answers every call. -/
theorem backends_agree (settings : Settings) (actions : List Action) :
    (∀ entry ∈ (Fleet.run settings actions).given, entry.2 = settings.backend) ∧
    (settings.backend = .memory → (∀ entry ∈ (Fleet.run settings actions).given, entry.1 = 0) ∧
      ∀ slot, (Fleet.run settings actions).slots slot ≠ none → slot = 0) ∧
    ∀ slot globals, (Fleet.run settings actions).slots slot = some ⟨globals,true⟩ → ∀ (use : Use) (up : Bool),
      ∃ handed after, use.program settings up globals = .ok handed after ∧
        ∀ store ∈ handed, store = settings.backend := by
  have sound : (Fleet.run settings actions).Sound settings := Fleet.run_sound actions
  refine ⟨fun entry given => (sound.given entry given).1,fun memory => ?_,fun slot globals found use up => ?_⟩
  · have none' : settings.url = [] := by
      by_contra some'
      rw [Settings.backend,Settings.client,if_neg some'] at memory
      cases memory
    refine ⟨fun entry given => (sound.given entry given).2 none',fun slot there => ?_⟩
    obtain ⟨process,found⟩ := Option.ne_none_iff_exists'.mp there
    exact (sound.slots slot process found).2 none'
  · obtain ⟨handed,after,ran,good,_⟩ := use.answered (sound.slots slot _ found).1 up
    exact ⟨handed,after,ran,good⟩

end CustomerService.SharedBackends
