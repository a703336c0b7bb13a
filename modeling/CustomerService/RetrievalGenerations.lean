import CustomerService.IngestEquivalence

/-! One retrieval among publishes: every stage of it fetches the index map again, so what it
combines is of one generation only while none is published between its fetches. -/
namespace CustomerService.Knowledge

open Text

/-! The stages of a retrieval. -/

/-- The process that retrieves, for which tenant and course, and whether it searches the
lexical indexes too. -/
structure Request where
  worker : Nat
  tenantId : Text
  courseCode : Text
  hybrid : Bool

/-- The documents that a stage takes from a map, with the label of the map. -/
structure Read where
  revision : Option Revision
  documents : List Document

/-- Where a retrieval is; the queries are those still to be searched. -/
inductive Stage
  | started (queries : Nat)
  | vector (queries : Nat)
  | vectorScopes (queries : Nat) (indexes : Stores) (revision : Option Revision)
  | lexical (queries : Nat)
  | lexicalScopes (queries : Nat) (scopes : List Text)
  | iterating
  | iteratingScopes (indexes : Stores) (revision : Option Revision)
  | logging
  | done
  | unavailable
  | keyError
deriving DecidableEq

/-- `search_tenant_documents` and `iter_tenant_documents` hold the index lock. -/
def Stage.locked : Stage → Bool
  | .vector _ | .vectorScopes _ _ _ | .lexical _ | .lexicalScopes _ _ | .iteratingScopes _ _ => true
  | _ => false

/-- A published map, with the label that it is published under. -/
abbrev Publication := Option Revision × Stores

structure Session where
  world : World
  stage : Stage
  reads : List Read
  published : List Publication

/-- A call of `get_indexes`. -/
def Session.fetch (request : Request) (session : Session) (next : Host → Stage) : Session :=
  match (session.world.host request.worker).getIndexes with
  | none => { session with stage := .unavailable }
  | some host =>
    { session with world := session.world.put request.worker host, stage := next host }

/-- The scopes are selected from the map of a second fetch and looked up in the first. -/
def Session.readScopes (request : Request) (session : Session) (indexes : Stores)
    (revision : Option Revision) (pick : Store → List Document) (after : Stage) : Session :=
  match (session.world.host request.worker).getIndexes with
  | none => { session with stage := .unavailable }
  | some host =>
    let scopes := searchScopes (host.memory.indexes.getD ∅) request.tenantId request.courseCode
    if scopes.all indexes.keys.contains then
      { session with
        world := session.world.put request.worker host
        stage := after
        reads := ⟨revision,scopes.flatMap (fun scope => pick (indexes.getD scope []))⟩::session.reads }
    else { session with world := session.world.put request.worker host, stage := .keyError }

def afterQuery (queries : Nat) : Stage :=
  if queries ≤ 1 then .iterating else .vector (queries - 1)

def Session.readLexical (request : Request) (session : Session) (scope : Text) (after : Stage) :
    Session :=
  let found := (session.world.host request.worker).bm25Index scope
  { session with
    world := session.world.put request.worker found.1
    stage := after
    reads := (found.2.map (fun documents => ⟨found.1.memory.revision,documents⟩)).toList ++ session.reads }

/-- The next step of `retrieve_course_docs`. -/
def Session.next (request : Request) (session : Session) : Session :=
  match session.stage with
  | .started queries | .vector queries => session.fetch request (fun host =>
      .vectorScopes queries (host.memory.indexes.getD ∅) host.memory.revision)
  | .vectorScopes queries indexes revision => session.readScopes request indexes revision id
      (if request.hybrid then .lexical queries else afterQuery queries)
  | .lexical queries => session.fetch request (fun host => .lexicalScopes queries
      (searchScopes (host.memory.indexes.getD ∅) request.tenantId request.courseCode))
  | .lexicalScopes queries [] => { session with stage := afterQuery queries }
  | .lexicalScopes queries (scope::scopes) =>
    session.readLexical request scope (.lexicalScopes queries scopes)
  | .iterating => session.fetch request (fun host =>
      .iteratingScopes (host.memory.indexes.getD ∅) host.memory.revision)
  | .iteratingScopes indexes revision =>
    session.readScopes request indexes revision iterStoreDocuments .logging
  | .logging => session.fetch request (fun _ => .done)
  | .done | .unavailable | .keyError => session

/-- A step of the retrieval, or what a process does meanwhile. -/
inductive Event
  | next
  | meanwhile (worker : Nat) (action : Action)

def Action.isRestart : Action → Bool
  | .restart => true
  | _ => false

/-- What a process publishes: the map that its ingest installs, when it does not raise. -/
def publication (tools : Tools) (defaultTenant : Text) (host : Host) : Action → Option Publication
  | .ingest persist rebuild directory =>
    let after := ingestIndexes tools defaultTenant host persist rebuild directory (fun _ => false)
    if after.2 = none then some (after.1.memory.revision,after.1.memory.indexes.getD ∅) else none
  | _ => none

/-- The threads of the retrieving process wait for its lock, and it goes on running. -/
def Session.step (tools : Tools) (defaultTenant : Text) (request : Request) (session : Session) :
    Event → Session
  | .next => session.next request
  | .meanwhile worker action =>
    if worker = request.worker ∧ (session.stage.locked || action.isRestart) = true then session
    else { session with
      world := session.world.step tools defaultTenant (worker,action)
      published := (publication tools defaultTenant (session.world.host worker) action).toList ++
        session.published }

/-! What is promised. -/

/-- All documents are of the map of a publication, under its label. -/
def ReadFrom (publication : Publication) (reads : List Read) : Prop :=
  ∀ read ∈ reads, read.revision = publication.1 ∧
    ∀ document ∈ read.documents, ∃ scope, document ∈ publication.2.getD scope []

/-- What has been read is of one publication, and no selected scope was missing. -/
def Session.Consistent (session : Session) : Prop :=
  (session.reads = [] ∨ ∃ publication ∈ session.published, ReadFrom publication session.reads) ∧
    session.stage ≠ .keyError

/-! The condition: between the first fetch and the last nothing is published that the next
fetch would find. -/

/-- The retrieval has fetched a map and will fetch again. -/
def Stage.between : Stage → Bool
  | .vector _ | .vectorScopes _ _ _ | .lexical _ | .lexicalScopes _ _ | .iterating
  | .iteratingScopes _ _ => true
  | _ => false

/-- The installed map is the same and still the one that `get_indexes` returns. -/
structure Host.Undisturbed (before after : Host) : Prop where
  indexes : after.memory.indexes = before.memory.indexes
  revision : after.memory.revision = before.memory.revision
  current : before.current = true → after.current = true

def Session.Allowed (tools : Tools) (defaultTenant : Text) (request : Request) (session : Session) :
    Event → Prop
  | .next => True
  | .meanwhile worker action => session.stage.between = true →
    (session.world.host request.worker).Undisturbed
      ((session.step tools defaultTenant request (.meanwhile worker action)).world.host request.worker)

/-! The lexical caches. -/

def Memory.Cached (memory : Memory) : Prop :=
  ∀ scope documents, memory.lexical.get? scope = some (some documents) →
    ∀ document ∈ documents, document ∈ (memory.indexes.getD ∅).getD scope []

private theorem cached_of_empty {memory : Memory} (empty : memory.lexical = ∅) : memory.Cached := by
  intro scope documents found
  rw [empty] at found
  cases found

theorem Host.getIndexes_of_current {host : Host} (current : host.current = true) :
    host.getIndexes = some host := if_pos current

private theorem getIndexes_current {host next : Host} (got : host.getIndexes = some next) :
    next.current = true ∧ ∃ indexes, next.memory.indexes = some indexes := by
  unfold Host.getIndexes at got
  split_ifs at got with used
  · cases got
    have installed := used
    simp only [Host.current,Bool.and_eq_true] at installed
    exact ⟨used,Option.isSome_iff_exists.mp installed.1⟩
  · obtain ⟨stores,_,rfl⟩ := Option.map_eq_some_iff.mp got
    exact ⟨by simp [Host.current,Host.install],stores,rfl⟩

private theorem getIndexes_cached {host next : Host} (cached : host.memory.Cached)
    (got : host.getIndexes = some next) : next.memory.Cached := by
  unfold Host.getIndexes at got
  split_ifs at got
  · cases got
    exact cached
  · obtain ⟨stores,_,rfl⟩ := Option.map_eq_some_iff.mp got
    exact cached_of_empty rfl

private theorem mem_buildLexical {store : Store} {documents : List Document} {document : Document}
    (built : buildLexical store = some documents) (member : document ∈ documents) :
    document ∈ store := by
  unfold buildLexical at built
  dsimp only at built
  split_ifs at built
  cases built
  exact (List.mem_filter.mp (List.mem_filter.mp member).1).1

private theorem built_cached {indexes : Stores} {scope : Text} {documents : List Document}
    (built : (indexes.get? scope).bind buildLexical = some documents) :
    ∀ document ∈ documents, document ∈ indexes.getD scope [] := by
  obtain ⟨store,listed,made⟩ := Option.bind_eq_some_iff.mp built
  rw [Dict.getD_of_some listed]
  exact fun document member => mem_buildLexical made member

private theorem bm25Index_cached {host : Host} (cached : host.memory.Cached) (scope : Text) :
    (host.bm25Index scope).1.memory.Cached ∧ ∀ documents, (host.bm25Index scope).2 = some documents →
      ∀ document ∈ documents,
        document ∈ ((host.bm25Index scope).1.memory.indexes.getD ∅).getD scope [] := by
  unfold Host.bm25Index
  cases known : host.memory.lexical.get? scope with
  | some entry => exact ⟨cached,fun documents same => cached scope documents (same ▸ known)⟩
  | none =>
    cases got : host.getIndexes with
    | none => exact ⟨cached,fun _ same => (nomatch same)⟩
    | some next =>
      have held := getIndexes_cached cached got
      refine ⟨fun other documents kept => ?_,fun documents built => built_cached built⟩
      dsimp only at kept ⊢
      rw [Dict.get?_set] at kept
      split_ifs at kept with same
      · exact same ▸ built_cached (Option.some.inj kept)
      · exact held other documents kept

private theorem bm25Index_undisturbed {host : Host} (current : host.current = true) (scope : Text) :
    host.Undisturbed (host.bm25Index scope).1 := by
  unfold Host.bm25Index
  cases host.memory.lexical.get? scope with
  | some entry => exact ⟨rfl,rfl,id⟩
  | none =>
    rw [Host.getIndexes_of_current current]
    exact ⟨rfl,rfl,id⟩

private theorem cached_act (tools : Tools) (defaultTenant : Text) {host : Host} (cached : host.memory.Cached)
    (action : Action) : (host.act tools defaultTenant action).memory.Cached := by
  cases action with
  | ingest persist rebuild directory =>
    cases built : buildStores tools defaultTenant directory with
    | error failure =>
      rw [Host.act,ingest_rejected tools defaultTenant built]
      exact cached
    | ok stores =>
      obtain ⟨result,changed,published,_⟩ :=
        ingest_published tools defaultTenant built host persist rebuild
      rw [Host.act,published]
      cases persist <;> exact cached_of_empty rfl
  | load =>
    unfold Host.act
    cases got : host.getIndexes with
    | none => exact cached
    | some next => exact getIndexes_cached cached got
  | search scope => exact (bm25Index_cached cached scope).1
  | restart => exact cached_of_empty rfl

private theorem cached_step (tools : Tools) (defaultTenant : Text) {world : World} {worker : Nat}
    (cached : (world.memories worker).Cached) (event : Nat × Action) :
    ((world.step tools defaultTenant event).memories worker).Cached := by
  unfold World.step World.put
  dsimp only
  split_ifs with same
  · subst same
    exact @cached_act tools defaultTenant (world.host event.1) cached event.2
  · exact cached

private theorem cached_run (tools : Tools) (defaultTenant : Text) (events : List (Nat × Action)) :
    ∀ worker, ((World.run tools defaultTenant events).memories worker).Cached := by
  induction events using List.reverseRecOn with
  | nil => exact fun _ => cached_of_empty rfl
  | append_singleton events last ih =>
    rw [World.run,Transition.run_append]
    exact fun worker => cached_step tools defaultTenant (ih worker) last

/-! The publications. -/

/-- The installed map and the one on the disk are published, under the labels they have. -/
structure Host.Published (host : Host) (published : List Publication) : Prop where
  installed : ∀ indexes, host.memory.indexes = some indexes → (host.memory.revision,indexes) ∈ published
  saved : ∀ stores, host.saved = some stores → (some (.disk host.generation),stores) ∈ published

section
variable {host : Host} {published : List Publication}

theorem Host.Published.more (known : host.Published published) {more : List Publication}
    (inside : published ⊆ more) : host.Published more :=
  ⟨fun indexes installed => inside (known.installed indexes installed),
    fun stores written => inside (known.saved stores written)⟩

theorem Host.Published.getIndexes (known : host.Published published) {next : Host}
    (got : host.getIndexes = some next) : next.Published published := by
  unfold Host.getIndexes at got
  split_ifs at got
  · cases got
    exact known
  · obtain ⟨stores,written,rfl⟩ := Option.map_eq_some_iff.mp got
    refine ⟨fun indexes installed => ?_,known.saved⟩
    cases installed
    exact known.saved stores written

theorem Host.Published.bm25Index (known : host.Published published) (scope : Text) :
    (host.bm25Index scope).1.Published published := by
  unfold Host.bm25Index
  cases host.memory.lexical.get? scope with
  | some entry => exact known
  | none =>
    cases got : host.getIndexes with
    | none => exact known
    | some next =>
      have held := known.getIndexes got
      exact ⟨held.installed,held.saved⟩

theorem Host.Published.publish (known : host.Published published) (stores : Stores) (persist changed : Bool) :
    (host.publish stores persist changed).Published
      (((host.publish stores persist changed).memory.revision,stores)::published) := by
  cases persist <;> cases changed
  all_goals
    refine ⟨fun indexes installed => ?_,fun saved written => ?_⟩
    · cases installed
      exact List.mem_cons_self
    · first
      | exact List.mem_cons_of_mem _ (known.saved saved written)
      | (cases written; exact List.mem_cons_self)

variable (tools : Tools) (defaultTenant : Text)

private theorem ingest_publishes_or_raises (host : Host) (persist rebuild : Bool) (directory : Directory) :
    (∃ result changed, ingestIndexes tools defaultTenant host persist rebuild directory (fun _ => false) =
      (host.publish result persist changed,none)) ∨
    ∃ failure, ingestIndexes tools defaultTenant host persist rebuild directory (fun _ => false) =
      (host,some failure) := by
  unfold ingestIndexes buildFaissIndex
  split_ifs
  · cases buildStores tools defaultTenant directory with
    | error failure => exact Or.inr ⟨failure,rfl⟩
    | ok stores => exact Or.inl ⟨stores,true,by simp⟩
  · cases loadKnowledgeDocuments tools defaultTenant directory with
    | error failure => exact Or.inr ⟨failure,rfl⟩
    | ok fresh =>
      dsimp only
      split_ifs with nothing raised
      · exact Or.inr ⟨_,rfl⟩
      · rw [ingestTenants_eq _ _ (nodup_ingestOrder _ _)] at raised
        simp [failsAt] at raised
      · exact Or.inl ⟨_,_,rfl⟩

private theorem published_act (known : host.Published published) (action : Action) :
    (host.act tools defaultTenant action).Published
      ((publication tools defaultTenant host action).toList ++ published) := by
  cases action with
  | ingest persist rebuild directory =>
    unfold Host.act publication
    rcases ingest_publishes_or_raises tools defaultTenant host persist rebuild directory with
      ⟨result,changed,same⟩ | ⟨failure,same⟩
    · have installed : (host.publish result persist changed).memory.indexes = some result := by
        cases persist <;> rfl
      simp only [same,installed,if_true,Option.getD_some]
      exact known.publish result persist changed
    · simp only [same,reduceCtorEq,if_false]
      exact known
  | load =>
    unfold Host.act
    cases got : host.getIndexes with
    | none => exact known
    | some next => exact known.getIndexes got
  | search scope => exact known.bm25Index scope
  | restart => exact ⟨fun _ installed => (nomatch installed),known.saved⟩

end

theorem host_put (world : World) (worker : Nat) (host : Host) :
    (world.put worker host).host worker = host := by
  unfold World.put World.host
  dsimp only
  rw [if_pos rfl]

private theorem published_put {world : World} {worker : Nat} {host : Host} {published : List Publication}
    (others : ∀ other, (world.host other).Published published) (known : host.Published published) :
    ∀ other, ((world.put worker host).host other).Published published := by
  intro other
  by_cases same : other = worker
  · rw [same,host_put]
    exact known
  · refine ⟨fun indexes installed => ?_,known.saved⟩
    have kept : ((world.put worker host).host other).memory = world.memories other := if_neg same
    rw [kept] at installed ⊢
    exact (others other).installed indexes installed

theorem published_step (tools : Tools) (defaultTenant : Text) {world : World} {published : List Publication}
    (known : ∀ worker, (world.host worker).Published published) (event : Nat × Action) :
    ∀ worker, ((world.step tools defaultTenant event).host worker).Published
      ((publication tools defaultTenant (world.host event.1) event.2).toList ++ published) :=
  published_put (fun other => (known other).more (List.subset_append_right _ _))
    (published_act tools defaultTenant (known event.1) event.2)

def publications (tools : Tools) (defaultTenant : Text) : World → List (Nat × Action) → List Publication
  | _, [] => []
  | world, event::rest => publications tools defaultTenant (world.step tools defaultTenant event) rest ++
    (publication tools defaultTenant (world.host event.1) event.2).toList

private theorem published_run (tools : Tools) (defaultTenant : Text) {world : World} {published : List Publication}
    (known : ∀ worker, (world.host worker).Published published) (events : List (Nat × Action)) :
    ∀ worker, ((Transition.run (World.step tools defaultTenant) world events).host worker).Published
      (publications tools defaultTenant world events ++ published) := by
  induction events generalizing world published with
  | nil => exact known
  | cons event rest ih =>
    rw [Transition.run_cons,publications,List.append_assoc]
    exact ih (published_step tools defaultTenant known event)

private theorem published_history (tools : Tools) (defaultTenant : Text) (history : List (Nat × Action)) :
    ∀ worker, ((World.run tools defaultTenant history).host worker).Published
      (publications tools defaultTenant .start history) := by
  have nothing : ∀ worker, (World.start.host worker).Published [] :=
    fun _ => ⟨fun _ none' => (nomatch none'),fun _ none' => (nomatch none')⟩
  have whole := published_run tools defaultTenant nothing history
  rwa [List.append_nil] at whole

/-! The invariant. -/

/-- The installed map is in use, and all that was read is of it. -/
def Session.Fixed (request : Request) (session : Session) : Prop :=
  ∃ indexes, (session.world.host request.worker).memory.indexes = some indexes ∧
    (session.world.host request.worker).current = true ∧
    ReadFrom ((session.world.host request.worker).memory.revision,indexes) session.reads

def Stage.Keeps (host : Host) (reads : List Read) : Stage → Prop
  | .started _ => reads = []
  | .vectorScopes _ indexes revision | .iteratingScopes indexes revision =>
    host.memory.indexes = some indexes ∧ host.memory.revision = revision
  | _ => True

structure Session.Steady (request : Request) (session : Session) : Prop where
  published : ∀ worker, (session.world.host worker).Published session.published
  cached : (session.world.memories request.worker).Cached
  keeps : session.stage.Keeps (session.world.host request.worker) session.reads
  fixed : session.stage.between = true → session.Fixed request
  consistent : session.Consistent

private theorem steady_put {request : Request} {session : Session} {host : Host} {stage : Stage}
    {reads : List Read} {indexes : Stores} (steady : session.Steady request)
    (published : host.Published session.published) (cached : host.memory.Cached)
    (installed : host.memory.indexes = some indexes) (current : host.current = true)
    (keeps : stage.Keeps host reads) (found : stage ≠ .keyError)
    (read : ReadFrom (host.memory.revision,indexes) reads) :
    Session.Steady request { session with
      world := session.world.put request.worker host, stage := stage, reads := reads } := by
  have same := host_put session.world request.worker host
  refine ⟨published_put steady.published published,?_,?_,fun _ => ⟨indexes,?_⟩,
    Or.inr ⟨_,published.installed indexes installed,read⟩,found⟩
  · exact (congrArg (fun host => host.memory.Cached) same).mpr cached
  · dsimp only
    rwa [same]
  · dsimp only
    rw [same]
    exact ⟨installed,current,read⟩

private theorem steady_unavailable {request : Request} {session : Session} (steady : session.Steady request) :
    Session.Steady request { session with stage := .unavailable } :=
  ⟨steady.published,steady.cached,trivial,fun busy => (nomatch busy),steady.consistent.1,
    fun wrong => (nomatch wrong)⟩

theorem Session.Steady.fetched {request : Request} {session : Session}
    (steady : session.Steady request)
    (stage : session.reads = [] ∨ session.Fixed request) {host : Host}
    (got : (session.world.host request.worker).getIndexes = some host) :
    host.Published session.published ∧ host.memory.Cached ∧ host.current = true ∧
      ∃ indexes, host.memory.indexes = some indexes ∧
        ReadFrom (host.memory.revision,indexes) session.reads := by
  refine ⟨(steady.published _).getIndexes got,getIndexes_cached steady.cached got,
    (getIndexes_current got).1,?_⟩
  rcases stage with unread | ⟨indexes,installed,current,read⟩
  · obtain ⟨indexes,installed⟩ := (getIndexes_current got).2
    refine ⟨indexes,installed,?_⟩
    rw [unread]
    exact fun _ listed => (nomatch listed)
  · rw [Host.getIndexes_of_current current] at got
    cases got
    exact ⟨indexes,installed,read⟩

theorem Session.Steady.fetch {request : Request} {session : Session} (steady : session.Steady request)
    (stage : session.reads = [] ∨ session.Fixed request) {next : Host → Stage}
    (keeps : ∀ host indexes, host.memory.indexes = some indexes →
      (next host).Keeps host session.reads)
    (found : ∀ host, next host ≠ .keyError) : (session.fetch request next).Steady request := by
  unfold Session.fetch
  cases got : (session.world.host request.worker).getIndexes with
  | none => exact steady_unavailable steady
  | some host =>
    obtain ⟨published,cached,current,indexes,installed,read⟩ := steady.fetched stage got
    exact steady_put steady published cached installed current (keeps host indexes installed) (found host) read

theorem Session.Steady.readScopes {request : Request} {session : Session}
    (steady : session.Steady request) (fixed : session.Fixed request) {indexes : Stores}
    {revision : Option Revision}
    (installed : (session.world.host request.worker).memory.indexes = some indexes)
    (label : (session.world.host request.worker).memory.revision = revision)
    {pick : Store → List Document} (picks : ∀ store, pick store ⊆ store) {after : Stage}
    (keeps : ∀ host reads, after.Keeps host reads) (found : after ≠ .keyError) :
    (session.readScopes request indexes revision pick after).Steady request := by
  obtain ⟨stores,same,current,read⟩ := fixed
  obtain rfl : indexes = stores := Option.some.inj (installed.symm.trans same)
  unfold Session.readScopes
  rw [Host.getIndexes_of_current current]
  dsimp only
  rw [installed,Option.getD_some]
  have inside : (searchScopes indexes request.tenantId request.courseCode).all
      indexes.keys.contains = true := by
    rw [List.all_eq_true,searchScopes_eq]
    exact fun scope listed => (List.mem_filter.mp listed).2
  rw [if_pos inside]
  refine steady_put steady (steady.published _) steady.cached installed current (keeps _ _) found
    (fun one listed => ?_)
  rcases List.mem_cons.mp listed with rfl | listed
  · refine ⟨label.symm,fun document member => ?_⟩
    obtain ⟨scope,_,here⟩ := List.mem_flatMap.mp member
    exact ⟨scope,picks _ here⟩
  · exact read one listed

theorem Session.Steady.readLexical {request : Request} {session : Session}
    (steady : session.Steady request) (fixed : session.Fixed request) (scope : Text) {after : Stage}
    (keeps : ∀ host reads, after.Keeps host reads) (found : after ≠ .keyError) :
    (session.readLexical request scope after).Steady request := by
  obtain ⟨indexes,installed,current,read⟩ := fixed
  have still := bm25Index_undisturbed current scope
  obtain ⟨cached,entries⟩ :=
    @bm25Index_cached (session.world.host request.worker) steady.cached scope
  have kept := still.indexes.trans installed
  unfold Session.readLexical
  refine steady_put steady ((steady.published _).bm25Index scope) cached kept (still.current current)
    (keeps _ _) found (fun one listed => ?_)
  rcases List.mem_append.mp listed with new | old
  · obtain ⟨documents,built,rfl⟩ := Option.map_eq_some_iff.mp (Option.mem_toList.mp new)
    refine ⟨rfl,fun document member => ⟨scope,?_⟩⟩
    have here := entries documents built document member
    rwa [kept,Option.getD_some] at here
  · rw [still.revision]
    exact read one old

private theorem afterQuery_keeps (queries : Nat) (host : Host) (reads : List Read) :
    (afterQuery queries).Keeps host reads ∧ afterQuery queries ≠ .keyError := by
  unfold afterQuery
  split_ifs
  · exact ⟨trivial,fun wrong => (nomatch wrong)⟩
  · exact ⟨trivial,fun wrong => (nomatch wrong)⟩

theorem Session.Steady.next {request : Request} {session : Session}
    (steady : session.Steady request) : (session.next request).Steady request := by
  have keeps := steady.keeps
  have fixed := steady.fixed
  unfold Session.next
  cases stage : session.stage with
  | started queries =>
    rw [stage] at keeps
    exact steady.fetch (Or.inl keeps) (fun host indexes installed => ⟨by rw [installed]; rfl,rfl⟩)
      (fun _ wrong => (nomatch wrong))
  | vector queries =>
    exact steady.fetch (Or.inr (fixed (by rw [stage]; rfl)))
      (fun host indexes installed => ⟨by rw [installed]; rfl,rfl⟩) (fun _ wrong => (nomatch wrong))
  | vectorScopes queries indexes revision =>
    rw [stage] at keeps
    refine steady.readScopes (fixed (by rw [stage]; rfl)) keeps.1 keeps.2
      (fun _ => List.Subset.refl _) (fun host reads => ?_) ?_
    all_goals split_ifs
    · trivial
    · exact (afterQuery_keeps queries host reads).1
    · exact fun wrong => (nomatch wrong)
    · exact (afterQuery_keeps queries (session.world.host request.worker) []).2
  | lexical queries =>
    exact steady.fetch (Or.inr (fixed (by rw [stage]; rfl))) (fun _ _ _ => trivial)
      (fun _ wrong => (nomatch wrong))
  | lexicalScopes queries scopes =>
    have here := fixed (by rw [stage]; rfl)
    cases scopes with
    | nil =>
      obtain ⟨kept,found⟩ := afterQuery_keeps queries (session.world.host request.worker)
        session.reads
      exact ⟨steady.published,steady.cached,kept,fun _ => here,steady.consistent.1,found⟩
    | cons scope scopes =>
      exact steady.readLexical here scope (fun _ _ => trivial) (fun wrong => (nomatch wrong))
  | iterating =>
    exact steady.fetch (Or.inr (fixed (by rw [stage]; rfl)))
      (fun host indexes installed => ⟨by rw [installed]; rfl,rfl⟩) (fun _ wrong => (nomatch wrong))
  | iteratingScopes indexes revision =>
    rw [stage] at keeps
    exact steady.readScopes (fixed (by rw [stage]; rfl)) keeps.1 keeps.2
      (fun _ => List.filter_subset_self _) (fun _ _ => trivial) (fun wrong => (nomatch wrong))
  | logging =>
    unfold Session.fetch
    cases got : (session.world.host request.worker).getIndexes with
    | none => exact steady_unavailable steady
    | some host =>
      have cached := getIndexes_cached steady.cached got
      refine ⟨published_put steady.published ((steady.published _).getIndexes got),?_,trivial,
        fun busy => (nomatch busy),steady.consistent.1,fun wrong => (nomatch wrong)⟩
      exact (congrArg (fun host => host.memory.Cached) (host_put _ _ host)).mpr cached
  | _ => exact steady

section
variable {tools : Tools} {defaultTenant : Text}

private theorem keeps_undisturbed {stage : Stage} {before after : Host} {reads : List Read}
    (still : stage.between = true → before.Undisturbed after) (keeps : stage.Keeps before reads) :
    stage.Keeps after reads := by
  cases stage with
  | vectorScopes queries indexes revision | iteratingScopes indexes revision =>
    have same := still rfl
    exact ⟨same.indexes.trans keeps.1,same.revision.trans keeps.2⟩
  | started queries => exact keeps
  | _ => trivial

theorem Session.Steady.meanwhile {request : Request} {session : Session}
    (steady : session.Steady request) {worker : Nat} {action : Action}
    (allowed : session.Allowed tools defaultTenant request (.meanwhile worker action)) :
    (session.step tools defaultTenant request (.meanwhile worker action)).Steady request := by
  unfold Session.Allowed at allowed
  unfold Session.step at allowed ⊢
  dsimp only at allowed ⊢
  split_ifs at allowed ⊢
  · exact steady
  · refine ⟨published_step tools defaultTenant steady.published (worker,action),
      cached_step tools defaultTenant steady.cached _,keeps_undisturbed allowed steady.keeps,
      fun between => ?_,steady.consistent.1.imp_right (fun ⟨one,listed,read⟩ =>
        ⟨one,List.mem_append_right _ listed,read⟩),steady.consistent.2⟩
    obtain ⟨indexes,installed,current,read⟩ := steady.fixed between
    have still := allowed between
    refine ⟨indexes,still.indexes.trans installed,still.current current,?_⟩
    rwa [still.revision]

theorem Session.Steady.step {request : Request} {session : Session} (steady : session.Steady request)
    {event : Event} (allowed : session.Allowed tools defaultTenant request event) :
    (session.step tools defaultTenant request event).Steady request := by
  cases event with
  | next => exact steady.next
  | meanwhile worker action => exact steady.meanwhile allowed

private theorem undisturbed_other {world : World} {worker other : Nat} {action : Action}
    (apart : worker ≠ other)
    (same : (world.step tools defaultTenant (other,action)).generation = world.generation) :
    (world.host worker).Undisturbed
      ((world.step tools defaultTenant (other,action)).host worker) := by
  have memory : ((world.step tools defaultTenant (other,action)).memories worker) =
      world.memories worker := if_neg apart
  refine ⟨congrArg Memory.indexes memory,congrArg Memory.revision memory,fun current => ?_⟩
  unfold Host.current World.host at current ⊢
  dsimp only at current ⊢
  rwa [memory,same]

private theorem allowed_other {request : Request} {session : Session} {other : Nat} {action : Action}
    (apart : request.worker ≠ other)
    (same : (session.world.step tools defaultTenant (other,action)).generation =
      session.world.generation) :
    session.Allowed tools defaultTenant request (.meanwhile other action) := by
  intro _
  unfold Session.step
  dsimp only
  rw [if_neg (fun own => apart own.1.symm)]
  exact undisturbed_other apart same

def Session.start (tools : Tools) (defaultTenant : Text) (history : List (Nat × Action))
    (queries : Nat) : Session :=
  ⟨World.run tools defaultTenant history,.started queries,[],publications tools defaultTenant .start history⟩

/-- After any history, a retrieval between whose fetches nothing is published combines
documents of one published map and selects no scope that it does not have. -/
theorem retrieval_reads_one_generation (request : Request) (history : List (Nat × Action))
    (queries : Nat) (events : List Event)
    (allowed : Transition.Along (Session.step tools defaultTenant request)
      (Session.Allowed tools defaultTenant request) (.start tools defaultTenant history queries)
      events) :
    Transition.Throughout (Session.step tools defaultTenant request) Session.Consistent
      (.start tools defaultTenant history queries) events := by
  have steady : (Session.start tools defaultTenant history queries).Steady request :=
    ⟨published_history tools defaultTenant history,cached_run tools defaultTenant history request.worker,rfl,fun busy => (nomatch busy),
      Or.inl rfl,fun wrong => (nomatch wrong)⟩
  exact (Transition.Throughout.of_along (fun _ _ steady allowed => steady.step allowed) steady
    allowed).imp (fun _ steady => steady.consistent)

end

/-! A retrieval of one process and an ingest of another. -/

/-- Vector search by the first process for the default tenant. -/
def vectorRequest : Request := ⟨0,"demo".toList,[],false⟩

def ingestedOnce : List (Nat × Action) := [(0,.ingest true false (oneFile "a.md" "x"))]

/-- The other process reads the index while the retrieval runs. -/
theorem retrieval_reads_one_generation_load :
    Transition.Throughout (Session.step plainTools "demo".toList vectorRequest) Session.Consistent
      (.start plainTools "demo".toList ingestedOnce 1)
      [.next,.meanwhile 1 .load,.next,.next,.next] := by
  apply retrieval_reads_one_generation
  exact ⟨trivial,allowed_other (by decide) (by decide +kernel),trivial,trivial,trivial,trivial⟩

/-- The vectors are those of one generation, the documents around the hits those of the next. -/
theorem publish_between_stages_mixes :
    ¬∀ (tools : Tools) (defaultTenant : Text) (request : Request) (history : List (Nat × Action))
      (queries : Nat) (events : List Event),
      Transition.Throughout (Session.step tools defaultTenant request) Session.Consistent
        (.start tools defaultTenant history queries) events := by
  intro law
  obtain ⟨read,_⟩ := (law plainTools "demo".toList vectorRequest ingestedOnce 1
    [.next,.next,.meanwhile 1 (.ingest true false (oneFile "a.md" "y")),.next,.next]).last
  have labels : (Transition.run (Session.step plainTools "demo".toList vectorRequest)
      (.start plainTools "demo".toList ingestedOnce 1)
      [.next,.next,.meanwhile 1 (.ingest true false (oneFile "a.md" "y")),.next,.next]).reads.map
        Read.revision = [some (.disk 2),some (.disk 1)] := by
    decide +kernel
  rcases read with unread | ⟨publication,_,read⟩
  · rw [unread] at labels
    cases labels
  have same : ∀ label ∈ [some (Revision.disk 2),some (Revision.disk 1)], label = publication.1 := by
    rw [← labels]
    intro label listed
    obtain ⟨one,member,rfl⟩ := List.mem_map.mp listed
    exact (read one member).1
  have wrong := (same _ List.mem_cons_self).trans (same _ (List.mem_cons_of_mem _ List.mem_cons_self)).symm
  revert wrong
  decide

/-- The first platform file is published between the fetch of the map and the selection of
the scopes. -/
example : (Transition.run (Session.step plainTools "demo".toList vectorRequest)
    (.start plainTools "demo".toList ingestedOnce 1)
    [.next,.meanwhile 1 (.ingest true false ⟨(oneFile "a.md" "x").files,
      (∅ : Dict Text (Dict Text Bytes)).set "platform".toList (oneFile "p.md" "y").files⟩),
      .next]).stage = .keyError := by
  decide +kernel

end CustomerService.Knowledge
