import CustomerService.IngestFailure

/-! Publishing the index directory file by file. Worker processes share the tenant folders
and the generation marker; within a process the index lock lets one ingest or load go on at
a time, so each process is in one phase. -/
namespace CustomerService.Publishing

open Text Knowledge

/-! What an ingest comes to. -/

/-- What an ingest has made of the stores it started from, and the map it is to install, with
whether it is written to the disk first; there is no map when a call raised. -/
structure Outcome where
  left : Stores
  result : Option (Stores × Bool)

section
variable (tools : Tools) (defaultTenant : Text)

/-- The part of `ingest_indexes` before anything is written. -/
def ingestOutcome (existing : Stores) (rebuild : Bool) (directory : Directory)
    (raises : Text → Bool) : Outcome :=
  if rebuild || existing.isEmpty then
    match buildStores tools defaultTenant directory with
    | .error _ => ⟨existing,none⟩
    | .ok stores => ⟨existing,if stores.keys.any raises then none else some (stores,true)⟩
  else
    match loadKnowledgeDocuments tools defaultTenant directory with
    | .error _ => ⟨existing,none⟩
    | .ok fresh =>
      if fresh = [] then ⟨existing,none⟩
      else
        let grouped := groupDocuments fresh
        let run := ingestTenants grouped raises (ingestOrder existing grouped)
          ⟨existing,∅,existing,0,0⟩
        ⟨run.1.shared,if run.2 then none
          else some (run.1.working,decide (run.1.added ≠ 0 ∨ run.1.retired ≠ 0))⟩

end

/-! The processes. -/

structure Job where
  rebuild : Bool
  directory : Directory
  raises : Text → Bool

/-- Where a process is in `get_indexes` (the listing and the loading of the folders) or in
`ingest_indexes`. An ingest also carries the marker that stood when the map it starts from was read; no step
looks at it. -/
inductive Phase
  | idle
  | listing (revision : Nat)
  | loading (revision : Nat) (loaded : Stores) (left : List Text)
  | starting (job : Job)
  | gathering (job : Job) (revision : Nat) (loaded : Stores) (left : List Text)
  | computing (job : Job) (existing : Stores) (revision : Option Nat)
  | clearing (result : Stores)
  | removing (result : Stores) (stale : List Text)
  | writing (result : Stores) (left : List (Text × Store))
  | marking (result : Stores)
  | labelling (result : Stores)
  | relabelling (result : Stores) (revision : Option Nat)
  | installing (result : Stores) (revision : Nat)

structure Worker where
  indexes : Option Stores
  revision : Option Nat
  phase : Phase

/-- The directory, the time, the processes, and the maps that ingests have come to so far. -/
structure Shared where
  folders : Stores
  generation : Nat
  clock : Nat
  workers : Nat → Worker
  results : List Stores

def Shared.start : Shared := ⟨∅,0,0,fun _ => ⟨none,none,.idle⟩,[]⟩

def Shared.put (shared : Shared) (index : Nat) (worker : Worker) : Shared :=
  { shared with workers := fun other => if other = index then worker else shared.workers other }

/-- A call of `get_indexes` or `ingest_indexes`, or the next step of the one in progress. -/
inductive Action
  | get
  | ingest (job : Job)
  | next

section
variable (tools : Tools) (defaultTenant : Text)

/-- The marker is compared with the label of the installed map. -/
def Shared.get (shared : Shared) (index : Nat) : Shared :=
  let worker := shared.workers index
  if worker.indexes.isSome && worker.revision == some shared.generation then shared
  else shared.put index { worker with phase := .listing shared.generation }

/-- An ingest starts from the installed map, or reads one unless it rebuilds. -/
def Shared.ingest (shared : Shared) (index : Nat) (job : Job) : Shared :=
  let worker := shared.workers index
  match worker.indexes with
  | some stores => shared.put index { worker with phase := .computing job stores worker.revision }
  | none => shared.put index { worker with
      phase := if job.rebuild then .computing job ∅ none else .starting job }

/-- The rounds mark and extend the stores of the installed map in place. -/
def Shared.compute (shared : Shared) (index : Nat) (job : Job) (existing : Stores)
    (revision : Option Nat) : Shared :=
  let worker := shared.workers index
  let outcome := ingestOutcome tools defaultTenant existing job.rebuild job.directory job.raises
  let indexes := worker.indexes.map (fun _ => outcome.left)
  match outcome.result with
  | none => shared.put index ⟨indexes,worker.revision,.idle⟩
  | some (result,true) =>
    { shared with results := result::shared.results }.put index
      ⟨indexes,worker.revision,.clearing result⟩
  | some (result,false) =>
    { shared with results := result::shared.results }.put index
      ⟨indexes,worker.revision,.relabelling result revision⟩

/-- The next step of a process; a folder that is gone makes the call in progress raise. -/
def Shared.next (shared : Shared) (index : Nat) : Shared :=
  let worker := shared.workers index
  let go (shared : Shared) (phase : Phase) := shared.put index { worker with phase := phase }
  match worker.phase with
  | .idle => shared
  | .listing revision =>
    if shared.folders.isEmpty then go shared .idle
    else go shared (.loading revision ∅ shared.folders.keys)
  | .loading revision loaded [] => shared.put index ⟨some loaded,some revision,.idle⟩
  | .loading revision loaded (tenantId::left) =>
    match shared.folders.get? tenantId with
    | none => go shared .idle
    | some store => go shared (.loading revision (loaded.set tenantId store) left)
  | .starting job => go shared (.gathering job shared.generation ∅ shared.folders.keys)
  | .gathering job revision loaded [] => go shared (.computing job loaded (some revision))
  | .gathering job revision loaded (tenantId::left) =>
    match shared.folders.get? tenantId with
    | none => go shared .idle
    | some store => go shared (.gathering job revision (loaded.set tenantId store) left)
  | .computing job existing revision => shared.compute tools defaultTenant index job existing revision
  | .clearing result =>
    go shared (.removing result (shared.folders.keys.filter (fun tenantId =>
      !result.keys.contains tenantId)))
  | .removing result [] => go shared (.writing result result.entries)
  | .removing result (tenantId::stale) =>
    match shared.folders.get? tenantId with
    | none => go shared .idle
    | some _ => go { shared with folders := shared.folders.erase tenantId } (.removing result stale)
  | .writing result [] => go shared (.marking result)
  | .writing result (entry::left) =>
    go { shared with folders := shared.folders.set entry.1 entry.2 } (.writing result left)
  | .marking result =>
    go { shared with generation := shared.clock + 1, clock := shared.clock + 1 } (.labelling result)
  | .labelling result => go shared (.installing result shared.generation)
  | .relabelling result _ => go shared (.installing result shared.generation)
  | .installing result revision => shared.put index ⟨some result,some revision,.idle⟩

def Shared.step (shared : Shared) (event : Nat × Action) : Shared :=
  match event.2, (shared.workers event.1).phase with
  | .get, .idle => shared.get event.1
  | .ingest job, .idle => shared.ingest event.1 job
  | .next, _ => shared.next tools defaultTenant event.1
  | _, _ => shared

end

/-! What is promised. -/

def Same (first second : Stores) : Prop := ∀ tenantId, first.get? tenantId = second.get? tenantId

def Phase.ingesting : Phase → Bool
  | .idle | .listing _ | .loading _ _ _ => false
  | _ => true

/-- What the next `get_indexes` of an idle process returns when it is not interrupted. -/
def Shared.answer (shared : Shared) (index : Nat) : Option Stores :=
  let worker := shared.workers index
  if worker.indexes.isSome && worker.revision == some shared.generation then worker.indexes
  else if shared.folders.isEmpty then none else some shared.folders

/-- The folders are all that one ingest came to, or there are none yet. -/
def Shared.Whole (shared : Shared) : Prop :=
  (shared.generation = 0 ∧ shared.folders.isEmpty = true) ∨
    ∃ result ∈ shared.results, Same shared.folders result

/-- Once no ingest is running, the disk is whole and the next `get_indexes` of every process
that is not in one returns what is on the disk. -/
def Shared.Converged (shared : Shared) : Prop :=
  (∀ index, (shared.workers index).phase.ingesting = false) →
    shared.Whole ∧ ∀ index, (shared.workers index).phase = .idle →
      (shared.folders.isEmpty = false → (shared.answer index).isSome = true) ∧
        ∀ stores, shared.answer index = some stores → Same stores shared.folders

/-! The condition: writes do not overlap, an unchanged map is labelled only while the marker is the one under
which it was read, and an ingest that raises has no difference behind it. -/

def Phase.unsettled : Phase → Bool
  | .clearing _ | .removing _ _ | .writing _ _ | .marking _ => true
  | _ => false

def Phase.publishing : Phase → Bool
  | .removing _ _ | .writing _ _ | .marking _ | .labelling _ => true
  | _ => false

/-- If an embedding call raises, no tenant before that one that has a store has a difference. -/
def Job.Harmless (tools : Tools) (defaultTenant : Text) (job : Job) (existing : Stores) : Prop :=
  let grouped := groupDocuments (directoryDocuments tools defaultTenant job.directory)
  let order := ingestOrder existing grouped
  order.any (failsAt grouped existing job.raises) = true →
    ∀ tenantId ∈ order.takeWhile (fun tenantId => !failsAt grouped existing job.raises tenantId),
      existing.get? tenantId ≠ none → ¬Differs grouped existing tenantId

def Shared.Allowed (tools : Tools) (defaultTenant : Text) (shared : Shared) (event : Nat × Action) :
    Prop :=
  match event.2, (shared.workers event.1).phase with
  | .next, .computing job existing _ =>
    (shared.workers event.1).revision = some shared.generation → job.rebuild = false →
      job.Harmless tools defaultTenant existing
  | .next, .clearing _ => ∀ other, other ≠ event.1 → (shared.workers other).phase.publishing = false
  | .next, .relabelling _ revision => revision = some shared.generation
  | _, _ => True

/-! The invariant. -/

def Phase.revision? : Phase → Option Nat
  | .listing revision | .loading revision _ _ | .gathering _ revision _ _ | .installing _ revision =>
    some revision
  | .computing _ _ revision | .relabelling _ revision => revision
  | _ => none

def Worker.Fresh (clock : Nat) (worker : Worker) : Prop :=
  (∀ revision, worker.revision = some revision → revision ≤ clock) ∧
    ∀ revision, worker.phase.revision? = some revision → revision ≤ clock

def Phase.Progress (folders : Stores) (results : List Stores) : Phase → Prop
  | .clearing result => result ∈ results
  | .removing result stale => result ∈ results ∧ stale.Nodup ∧
    (∀ tenantId ∈ stale, folders.get? tenantId ≠ none) ∧
    ∀ tenantId, tenantId ∉ stale → result.get? tenantId = none → folders.get? tenantId = none
  | .writing result left => result ∈ results ∧
    (∀ entry ∈ left, result.get? entry.1 = some entry.2) ∧
    ∀ tenantId, tenantId ∉ left.map Prod.fst → folders.get? tenantId = result.get? tenantId
  | .marking result | .labelling result => result ∈ results ∧ Same folders result
  | _ => True

def Worker.Based (worker : Worker) : Prop :=
  match worker.phase with
  | .starting _ | .gathering _ _ _ _ => worker.indexes = none
  | .computing _ existing _ => ∀ stores, worker.indexes = some stores → existing = stores
  | _ => True

/-- What has been read from the folders under their marker is what they hold. -/
def Phase.Agrees (folders : Stores) (generation : Nat) : Phase → Prop
  | .loading revision loaded left | .gathering _ revision loaded left => revision = generation →
    ∀ tenantId, tenantId ∉ left → loaded.get? tenantId = folders.get? tenantId
  | .computing _ result revision | .relabelling result revision =>
    revision = some generation → Same result folders
  | .installing result revision => revision = generation → Same result folders
  | _ => True

/-- A map with the label of the folders is the map of the folders. -/
def Worker.Agrees (folders : Stores) (generation : Nat) (worker : Worker) : Prop :=
  (worker.revision = some generation → ∀ stores, worker.indexes = some stores →
    Same stores folders) ∧ worker.phase.Agrees folders generation

def Shared.Settled (shared : Shared) : Prop :=
  ∀ index, (shared.workers index).phase.unsettled = false

structure Sound (shared : Shared) : Prop where
  marker : shared.generation ≤ shared.clock
  fresh : ∀ index, (shared.workers index).Fresh shared.clock
  alone : ∀ first second, (shared.workers first).phase.publishing = true →
    (shared.workers second).phase.publishing = true → first = second
  progress : ∀ index, (shared.workers index).phase.Progress shared.folders shared.results
  based : ∀ index, (shared.workers index).Based
  settled : shared.Settled →
    shared.Whole ∧ ∀ index, (shared.workers index).Agrees shared.folders shared.generation

theorem sound_start : Sound .start :=
  ⟨Nat.le_refl _,fun _ => ⟨fun _ none' => (nomatch none'),fun _ none' => (nomatch none')⟩,
    fun _ _ busy => (nomatch busy),fun _ => trivial,fun _ => trivial,
    fun _ => ⟨Or.inl ⟨rfl,rfl⟩,fun _ => ⟨fun none' => (nomatch none'),trivial⟩⟩⟩

private theorem progress_elsewhere {phase : Phase} (idle : phase.publishing = false) {folders other : Stores}
    {results : List Stores} (progress : phase.Progress folders results) : phase.Progress other results := by
  cases phase <;> first | exact progress | cases idle

private theorem progress_more {phase : Phase} {folders : Stores} {results more : List Stores}
    (progress : phase.Progress folders results) (inside : results ⊆ more) :
    phase.Progress folders more := by
  cases phase <;> first
    | trivial
    | exact inside progress
    | exact ⟨inside progress.1,progress.2⟩

@[simp] theorem put_self (shared : Shared) (index : Nat) (worker : Worker) :
    (shared.put index worker).workers index = worker := if_pos rfl

theorem put_other (shared : Shared) {index other : Nat} (worker : Worker) (apart : other ≠ index) :
    (shared.put index worker).workers other = shared.workers other := if_neg apart

private theorem put_all (shared : Shared) {index : Nat} {worker : Worker} (property : Worker → Prop)
    (here : property worker) (others : ∀ other, other ≠ index → property (shared.workers other)) :
    ∀ other, property ((shared.put index worker).workers other) := by
  intro other
  by_cases same : other = index
  · subst same
    rwa [put_self]
  · rw [put_other shared worker same]
    exact others other same

theorem Sound.others_idle {shared : Shared} (sound : Sound shared) {index : Nat}
    (busy : (shared.workers index).phase.publishing = true) {other : Nat} (apart : other ≠ index) :
    (shared.workers other).phase.publishing = false := by
  cases here : (shared.workers other).phase.publishing
  · rfl
  · exact absurd (sound.alone other index here busy) apart

private theorem put_alone {shared : Shared} {index : Nat} {worker : Worker}
    (before : ∀ first second, (shared.workers first).phase.publishing = true →
      (shared.workers second).phase.publishing = true → first = second)
    (idle : worker.phase.publishing = true → ∀ other, other ≠ index →
      (shared.workers other).phase.publishing = false) :
    ∀ first second, ((shared.put index worker).workers first).phase.publishing = true →
      ((shared.put index worker).workers second).phase.publishing = true → first = second := by
  intro first second busy also
  by_cases one : first = index
  · by_cases two : second = index
    · exact one.trans two.symm
    · rw [one,put_self] at busy
      rw [put_other shared worker two,idle busy second two] at also
      cases also
  · rw [put_other shared worker one] at busy
    by_cases two : second = index
    · rw [two,put_self] at also
      rw [idle also first one] at busy
      cases busy
    · rw [put_other shared worker two] at also
      exact before first second busy also

theorem Sound.put {shared : Shared} (sound : Sound shared) {index : Nat} {worker : Worker}
    {results : List Stores} (more : shared.results ⊆ results) (fresh : worker.Fresh shared.clock)
    (alone : worker.phase.publishing = true → ∀ other, other ≠ index →
      (shared.workers other).phase.publishing = false)
    (progress : worker.phase.Progress shared.folders results) (based : worker.Based)
    (settled : worker.phase.unsettled = false →
      (shared.workers index).phase.unsettled = false)
    (agrees : worker.phase.unsettled = false → shared.Settled →
      worker.Agrees shared.folders shared.generation) :
    Sound ({ shared with results := results }.put index worker) := by
  refine ⟨sound.marker,?_,?_,?_,?_,fun quiet => ?_⟩
  · exact put_all _ (fun worker => worker.Fresh shared.clock) fresh (fun other _ => sound.fresh other)
  · exact put_alone sound.alone alone
  · exact put_all _ (fun worker => worker.phase.Progress shared.folders results) progress
      (fun other _ => progress_more (sound.progress other) more)
  · exact put_all _ Worker.Based based (fun other _ => sound.based other)
  · have here := quiet index
    rw [put_self] at here
    have before : shared.Settled := by
      intro other
      by_cases same : other = index
      · exact same ▸ settled here
      · have here := quiet other
        rwa [put_other _ worker same] at here
    obtain ⟨whole,others⟩ := sound.settled before
    refine ⟨whole.imp_right (fun ⟨result,listed,same⟩ => ⟨result,more listed,same⟩),?_⟩
    exact put_all _ (fun worker => worker.Agrees shared.folders shared.generation) (agrees here before)
      (fun other _ => others other)

theorem Sound.edit {shared : Shared} (sound : Sound shared) {index : Nat} {worker : Worker}
    {folders : Stores} (before : (shared.workers index).phase.publishing = true)
    (after : worker.phase.unsettled = true) (fresh : worker.Fresh shared.clock)
    (progress : worker.phase.Progress folders shared.results) (based : worker.Based) :
    Sound ({ shared with folders := folders }.put index worker) := by
  have idle (other : Nat) (apart : other ≠ index) := sound.others_idle before apart
  refine ⟨sound.marker,?_,?_,?_,?_,fun quiet => ?_⟩
  · exact put_all _ (fun worker => worker.Fresh shared.clock) fresh (fun other _ => sound.fresh other)
  · exact put_alone sound.alone (fun _ => idle)
  · exact put_all _ (fun worker => worker.phase.Progress folders shared.results) progress
      (fun other apart => progress_elsewhere (idle other apart) (sound.progress other))
  · exact put_all _ Worker.Based based (fun other _ => sound.based other)
  · have here := quiet index
    rw [put_self,after] at here
    cases here

theorem Worker.Fresh.later {worker : Worker} {clock later : Nat} (fresh : worker.Fresh clock)
    (after : clock ≤ later) : worker.Fresh later :=
  ⟨fun revision known => (fresh.1 revision known).trans after,
    fun revision known => (fresh.2 revision known).trans after⟩

theorem Worker.Fresh.agrees {worker : Worker} {clock : Nat} (fresh : worker.Fresh clock)
    (folders : Stores) : worker.Agrees folders (clock + 1) := by
  refine ⟨fun known => absurd (fresh.1 _ known) (Nat.not_succ_le_self clock),?_⟩
  have unread : worker.phase.revision? ≠ some (clock + 1) :=
    fun known => absurd (fresh.2 _ known) (Nat.not_succ_le_self clock)
  cases phase : worker.phase with
  | loading revision loaded left | gathering job revision loaded left | installing result revision =>
    exact fun same => absurd (by rw [phase,← same]; rfl) unread
  | computing job existing revision | relabelling result revision =>
    exact fun same => absurd (by rw [phase]; exact same) unread
  | _ => trivial

theorem Sound.mark {shared : Shared} (sound : Sound shared) {index : Nat} {result : Stores}
    (marking : (shared.workers index).phase = .marking result) :
    Sound ({ shared with generation := shared.clock + 1, clock := shared.clock + 1 }.put index
      { shared.workers index with phase := .labelling result }) := by
  have before : (shared.workers index).phase.publishing = true := by rw [marking]; rfl
  have idle (other : Nat) (apart : other ≠ index) := sound.others_idle before apart
  have done := sound.progress index
  rw [marking] at done
  have fresh : ({ shared.workers index with phase := .labelling result } : Worker).Fresh
      shared.clock := ⟨(sound.fresh index).1,fun _ known => (nomatch known)⟩
  refine ⟨Nat.le_refl _,?_,?_,?_,?_,fun _ => ⟨Or.inr ⟨result,done⟩,?_⟩⟩
  · exact put_all _ (fun worker => worker.Fresh (shared.clock + 1)) (fresh.later (Nat.le_succ _))
      (fun other _ => (sound.fresh other).later (Nat.le_succ _))
  · exact put_alone sound.alone (fun _ => idle)
  · exact put_all _ (fun worker => worker.phase.Progress shared.folders shared.results) done
      (fun other _ => sound.progress other)
  · exact put_all _ Worker.Based trivial (fun other _ => sound.based other)
  · exact put_all _ (fun worker => worker.Agrees shared.folders (shared.clock + 1))
      (fresh.agrees shared.folders) (fun other _ => (sound.fresh other).agrees shared.folders)

/-! An ingest that adds and retires nothing. -/

private theorem counts_ingestTenant (grouped : Dict Text (List Document)) (progress : Progress)
    (tenantId : Text) :
    progress.added ≤ (ingestTenant grouped progress tenantId).added ∧
      progress.retired ≤ (ingestTenant grouped progress tenantId).retired := by
  unfold ingestTenant
  dsimp only
  split_ifs
  · exact ⟨Nat.le_refl _,Nat.le_refl _⟩
  · cases progress.working.get? tenantId with
    | none => exact ⟨Nat.le_add_right _ _,Nat.le_refl _⟩
    | some store => exact ⟨Nat.le_add_right _ _,Nat.le_add_right _ _⟩

private theorem softDeleteStale_of_none {sources : List Text} {keepHash : Dict Text Text} {store : Store}
    (none' : store.countP (isStale sources keepHash) = 0) :
    softDeleteStale sources keepHash store = store := by
  rw [List.countP_eq_zero] at none'
  refine (List.map_congr_left (fun document listed => ?_)).trans (List.map_id store)
  exact if_neg (none' document listed)

private theorem ingestTenant_unchanged {grouped : Dict Text (List Document)} {progress : Progress}
    {tenantId : Text} (same : progress.shared.get? tenantId = progress.working.get? tenantId)
    (added : (ingestTenant grouped progress tenantId).added = progress.added)
    (retired : (ingestTenant grouped progress tenantId).retired = progress.retired) :
    Same (ingestTenant grouped progress tenantId).shared progress.shared ∧
      Same (ingestTenant grouped progress tenantId).working progress.working := by
  unfold ingestTenant at added retired ⊢
  dsimp only at added retired ⊢
  split_ifs at added retired ⊢ with plan
  · exact ⟨fun _ => rfl,fun _ => rfl⟩
  · cases found : progress.working.get? tenantId with
    | none =>
      rw [found] at added
      dsimp only at added
      have nothing : (planFor grouped progress.working tenantId).newDocs = [] :=
        List.eq_nil_of_length_eq_zero (by omega)
      -- a tenant without a store has nothing to retire
      have nobody : (planFor grouped progress.working tenantId).retireSources = [] := by
        rw [List.eq_nil_iff_forall_not_mem]
        intro source listed
        unfold planFor at listed
        rw [Dict.getD_of_none found] at listed
        exact ((mem_retireSources _ _).mp listed).1 rfl
      exact absurd (Knowledge.isEmpty_iff.mpr ⟨nothing,nobody⟩) plan
    | some store =>
      rw [found] at added retired
      dsimp only at added retired ⊢
      have nothing : (planFor grouped progress.working tenantId).newDocs = [] :=
        List.eq_nil_of_length_eq_zero (by omega)
      rw [nothing,List.append_nil] at retired ⊢
      rw [softDeleteStale_of_none (by omega)]
      constructor
      · intro other
        rw [Dict.get?_set]
        split_ifs with here
        · rw [here,same,found]
        · rfl
      · intro other
        rw [Dict.get?_set]
        split_ifs with here
        · rw [here,found]
        · rfl

private theorem counts_rounds (grouped : Dict Text (List Document)) (rounds : List Text)
    (progress : Progress) :
    progress.added ≤ (rounds.foldl (ingestTenant grouped) progress).added ∧
      progress.retired ≤ (rounds.foldl (ingestTenant grouped) progress).retired := by
  induction rounds generalizing progress with
  | nil => exact ⟨Nat.le_refl _,Nat.le_refl _⟩
  | cons first rest ih =>
    have here := counts_ingestTenant grouped progress first
    have later := ih (ingestTenant grouped progress first)
    exact ⟨here.1.trans later.1,here.2.trans later.2⟩

private theorem rounds_unchanged {grouped : Dict Text (List Document)} {rounds : List Text}
    (once : rounds.Nodup) {progress : Progress}
    (same : ∀ tenantId ∈ rounds, progress.shared.get? tenantId = progress.working.get? tenantId)
    (added : (rounds.foldl (ingestTenant grouped) progress).added = progress.added)
    (retired : (rounds.foldl (ingestTenant grouped) progress).retired = progress.retired) :
    Same (rounds.foldl (ingestTenant grouped) progress).shared progress.shared ∧
      Same (rounds.foldl (ingestTenant grouped) progress).working progress.working := by
  induction rounds generalizing progress with
  | nil => exact ⟨fun _ => rfl,fun _ => rfl⟩
  | cons first rest ih =>
    obtain ⟨fresh,once⟩ := List.nodup_cons.mp once
    have here := counts_ingestTenant grouped progress first
    have later := counts_rounds grouped rest (ingestTenant grouped progress first)
    rw [List.foldl_cons] at added retired ⊢
    obtain ⟨shared,working⟩ := @ingestTenant_unchanged grouped progress first
      (same first List.mem_cons_self) (by omega) (by omega)
    have agree : ∀ tenantId ∈ rest, (ingestTenant grouped progress first).shared.get? tenantId =
        (ingestTenant grouped progress first).working.get? tenantId := by
      intro tenantId listed
      rw [shared tenantId,working tenantId]
      exact same tenantId (List.mem_cons_of_mem _ listed)
    obtain ⟨shared',working'⟩ := @ih once (ingestTenant grouped progress first) agree (by omega) (by omega)
    exact ⟨fun tenantId => (shared' tenantId).trans (shared tenantId),
      fun tenantId => (working' tenantId).trans (working tenantId)⟩

section
variable {tools : Tools} {defaultTenant : Text}

private theorem outcome_unchanged {existing result : Stores} {rebuild : Bool} {directory : Directory}
    {raises : Text → Bool} (unchanged : (ingestOutcome tools defaultTenant existing rebuild directory
      raises).result = some (result,false)) :
    Same (ingestOutcome tools defaultTenant existing rebuild directory raises).left existing ∧
      Same result existing := by
  unfold ingestOutcome at unchanged ⊢
  split_ifs at unchanged ⊢
  · cases built : buildStores tools defaultTenant directory with
    | error failure =>
      rw [built] at unchanged
      cases unchanged
    | ok stores =>
      rw [built] at unchanged
      dsimp only at unchanged
      split_ifs at unchanged
      cases unchanged
  · cases loaded : loadKnowledgeDocuments tools defaultTenant directory with
    | error failure =>
      rw [loaded] at unchanged
      cases unchanged
    | ok fresh =>
      rw [loaded] at unchanged
      dsimp only at unchanged ⊢
      by_cases nothing : fresh = []
      · rw [if_pos nothing] at unchanged
        cases unchanged
      · rw [if_neg nothing,ingestTenants_eq _ _ (nodup_ingestOrder _ _)] at unchanged ⊢
        dsimp only at unchanged ⊢
        split_ifs at unchanged
        have counts := Prod.mk.inj (Option.some.inj unchanged)
        have none' := of_decide_eq_false counts.2
        rw [not_or,not_not,not_not] at none'
        rw [← counts.1]
        exact rounds_unchanged ((nodup_ingestOrder _ _).sublist (List.takeWhile_sublist _))
          (fun _ _ => rfl) none'.1 none'.2

private theorem outcome_raised {existing : Stores} {job : Job}
    (harmless : job.rebuild = false → job.Harmless tools defaultTenant existing)
    (raised : (ingestOutcome tools defaultTenant existing job.rebuild job.directory job.raises).result =
      none) :
    (ingestOutcome tools defaultTenant existing job.rebuild job.directory job.raises).left = existing := by
  unfold ingestOutcome at raised ⊢
  split_ifs at raised ⊢ with full
  · cases buildStores tools defaultTenant job.directory <;> rfl
  · cases loaded : loadKnowledgeDocuments tools defaultTenant job.directory with
    | error failure => rfl
    | ok documents =>
      obtain rfl : documents = directoryDocuments tools defaultTenant job.directory := loadFiles_ok tools loaded
      rw [loaded] at raised
      dsimp only at raised ⊢
      by_cases nothing : directoryDocuments tools defaultTenant job.directory = []
      · rw [if_pos nothing]
      · rw [if_neg nothing,ingestTenants_eq _ _ (nodup_ingestOrder _ _)] at raised ⊢
        dsimp only at raised ⊢
        split_ifs at raised with fails
        have partial' : job.rebuild = false := by
          cases again : job.rebuild
          · rfl
          · exact absurd (by rw [again]; rfl) full
        refine (shared_rounds_quiet ((nodup_ingestOrder _ _).sublist (List.takeWhile_sublist _))
          (fun tenantId listed present => ?_)).1
        have same := harmless partial' fails tenantId listed present
        rwa [differs_iff,Bool.not_eq_false] at same

/-! The ingest as one step comes to the same. -/

private theorem ingestTenant_lexical (grouped : Dict Text (List Document)) (progress : Progress)
    (tenantId : Text) :
    ingestTenant grouped { progress with lexical := ∅ } tenantId =
      { ingestTenant grouped progress tenantId with lexical := ∅ } := by
  unfold ingestTenant
  dsimp only
  split_ifs
  · rfl
  · cases progress.working.get? tenantId <;> rfl

private theorem rounds_lexical (grouped : Dict Text (List Document)) (rounds : List Text)
    (progress : Progress) :
    rounds.foldl (ingestTenant grouped) { progress with lexical := ∅ } =
      { rounds.foldl (ingestTenant grouped) progress with lexical := ∅ } := by
  induction rounds generalizing progress with
  | nil => rfl
  | cons first rest ih => rw [List.foldl_cons,List.foldl_cons,ingestTenant_lexical,ih]

/-- What the atomic ingest publishes is the outcome, and when it raises the installed map is
what the outcome has left. -/
theorem ingestIndexes_outcome (host : Host) (rebuild : Bool) (directory : Directory)
    (raises : Text → Bool) :
    match (ingestOutcome tools defaultTenant host.existing rebuild directory raises).result with
    | some (result,changed) => ingestIndexes tools defaultTenant host true rebuild directory raises =
        (host.publish result true changed,none)
    | none =>
      (ingestIndexes tools defaultTenant host true rebuild directory raises).2 ≠ none ∧
        (ingestIndexes tools defaultTenant host true rebuild directory raises).1.memory.indexes =
          host.memory.indexes.map (fun _ =>
            (ingestOutcome tools defaultTenant host.existing rebuild directory raises).left) := by
  have kept : host.memory.indexes = host.memory.indexes.map (fun _ => host.existing) := by
    unfold Host.existing
    cases host.memory.indexes <;> rfl
  unfold ingestOutcome ingestIndexes buildFaissIndex
  by_cases full : (rebuild || host.existing.isEmpty) = true
  · rw [if_pos full,if_pos full]
    cases built : buildStores tools defaultTenant directory with
    | error failure => exact ⟨Option.some_ne_none _,kept⟩
    | ok stores =>
      dsimp only
      by_cases failed : stores.keys.any raises = true
      · rw [if_pos failed,if_pos failed]
        exact ⟨Option.some_ne_none _,kept⟩
      · rw [if_neg failed,if_neg failed]
  · rw [if_neg full,if_neg full]
    cases loaded : loadKnowledgeDocuments tools defaultTenant directory with
    | error failure => exact ⟨Option.some_ne_none _,kept⟩
    | ok fresh =>
      dsimp only
      by_cases nothing : fresh = []
      · rw [if_pos nothing,if_pos nothing]
        exact ⟨Option.some_ne_none _,kept⟩
      · have same := rounds_lexical (groupDocuments fresh)
          ((ingestOrder host.existing (groupDocuments fresh)).takeWhile (fun tenantId =>
            !failsAt (groupDocuments fresh) host.existing raises tenantId))
          ⟨host.existing,host.memory.lexical,host.existing,0,0⟩
        rw [if_neg nothing,if_neg nothing,ingestTenants_eq _ _ (nodup_ingestOrder _ _),
          ingestTenants_eq _ _ (nodup_ingestOrder _ _)]
        dsimp only at same ⊢
        rw [same]
        by_cases failed : (ingestOrder host.existing (groupDocuments fresh)).any
            (failsAt (groupDocuments fresh) host.existing raises) = true
        · rw [if_pos failed,if_pos failed]
          refine ⟨Option.some_ne_none _,?_⟩
          unfold Host.interrupted
          cases installed : host.memory.indexes <;> simp [installed]
        · rw [if_neg failed,if_neg failed]

/-! The steps. -/

theorem Sound.move {shared : Shared} (sound : Sound shared) {index : Nat} (phase : Phase)
    (before : (shared.workers index).phase.unsettled = false) (after : phase.publishing = false)
    (progress : phase.Progress shared.folders shared.results)
    (known : ∀ revision, phase.revision? = some revision → revision ≤ shared.clock)
    (based : ({ shared.workers index with phase := phase } : Worker).Based)
    (agrees : shared.Settled → phase.Agrees shared.folders shared.generation) :
    Sound (shared.put index { shared.workers index with phase := phase }) :=
  @Sound.put shared sound index { shared.workers index with phase := phase } shared.results
    (List.Subset.refl _) ⟨(sound.fresh index).1,known⟩ (fun busy => absurd (after.symm.trans busy)
      Bool.false_ne_true) progress based (fun _ => before)
    (fun _ settled => ⟨((sound.settled settled).2 index).1,agrees settled⟩)

theorem Sound.get {shared : Shared} (sound : Sound shared) {index : Nat}
    (idle : (shared.workers index).phase = .idle) : Sound (shared.get index) := by
  unfold Shared.get
  dsimp only
  split_ifs
  · exact sound
  · refine sound.move (.listing shared.generation) (by rw [idle]; rfl) rfl trivial (fun revision known => ?_)
      trivial (fun _ => trivial)
    cases known
    exact sound.marker

theorem Sound.ingest {shared : Shared} (sound : Sound shared) {index : Nat}
    (idle : (shared.workers index).phase = .idle) (job : Job) : Sound (shared.ingest index job) := by
  have before : (shared.workers index).phase.unsettled = false := by rw [idle]; rfl
  unfold Shared.ingest
  dsimp only
  split
  · rename_i stores installed
    refine sound.move (.computing job stores (shared.workers index).revision) before rfl trivial
      (sound.fresh index).1 (fun other same => ?_) (fun settled label => ?_)
    · exact Option.some.inj (installed.symm.trans same)
    · exact ((sound.settled settled).2 index).1 label stores installed
  · rename_i installed
    split_ifs
    · refine sound.move (.computing job ∅ none) before rfl trivial (fun _ known => (nomatch known))
        (fun other same => ?_) (fun _ label => (nomatch label))
      cases installed.symm.trans same
    · exact sound.move (.starting job) before rfl trivial (fun _ known => (nomatch known)) installed
        (fun _ => trivial)

theorem Worker.Agrees.left {worker : Worker} {folders : Stores} {generation : Nat}
    (agrees : worker.Agrees folders generation) {left : Stores}
    (same : worker.revision = some generation → ∀ stores, worker.indexes = some stores → Same left stores)
    {phase : Phase} (quiet : phase.Agrees folders generation) :
    (⟨worker.indexes.map (fun _ => left),worker.revision,phase⟩ : Worker).Agrees folders generation := by
  refine ⟨fun known stores mapped => ?_,quiet⟩
  obtain ⟨before,installed,rfl⟩ := Option.map_eq_some_iff.mp mapped
  exact fun tenantId =>
    (same known before installed tenantId).trans (agrees.1 known before installed tenantId)

theorem Sound.compute {shared : Shared} (sound : Sound shared) {index : Nat} {job : Job}
    {existing : Stores} {revision : Option Nat}
    (computing : (shared.workers index).phase = .computing job existing revision)
    (allowed : shared.Allowed tools defaultTenant (index,.next)) :
    Sound (shared.compute tools defaultTenant index job existing revision) := by
  have before : (shared.workers index).phase.unsettled = false := by rw [computing]; rfl
  have based := sound.based index
  have known := (sound.fresh index).2
  have agrees (settled : shared.Settled) := ((sound.settled settled).2 index).2
  unfold Worker.Based at based
  unfold Shared.Allowed at allowed
  unfold Shared.compute
  rw [computing] at allowed based known agrees
  dsimp only at allowed based ⊢
  have fresh (phase : Phase) (unread : phase.revision? = none) (indexes : Option Stores) :
      (⟨indexes,(shared.workers index).revision,phase⟩ : Worker).Fresh shared.clock :=
    ⟨(sound.fresh index).1,fun revision known => by rw [unread] at known; cases known⟩
  split
  · rename_i raised
    refine @Sound.put shared sound index _ shared.results (List.Subset.refl _) (fresh .idle rfl _)
      (fun busy => (nomatch busy)) trivial trivial (fun _ => before)
      (fun _ settled => ((sound.settled settled).2 index).left (fun label stores installed => ?_) trivial)
    rw [outcome_raised (allowed label) raised,based stores installed]
    exact fun _ => rfl
  · rename_i result published
    exact @Sound.put shared sound index _ (result::shared.results) (List.subset_cons_self _ _)
      (fresh (.clearing result) rfl _) (fun busy => (nomatch busy)) List.mem_cons_self trivial
      (fun busy => (nomatch busy)) (fun busy => (nomatch busy))
  · rename_i result unchanged
    obtain ⟨left,same⟩ := outcome_unchanged unchanged
    refine @Sound.put shared sound index _ (result::shared.results) (List.subset_cons_self _ _)
      ⟨(sound.fresh index).1,known⟩ (fun busy => (nomatch busy)) trivial trivial (fun _ => before)
      (fun _ settled => ((sound.settled settled).2 index).left
        (fun _ stores installed => based stores installed ▸ left) (fun label tenantId => ?_))
    exact (same tenantId).trans (agrees settled label tenantId)

/-! Reading the folders. -/

private theorem agrees_listed (folders : Stores) (generation revision : Nat) :
    (Phase.loading revision ∅ folders.keys).Agrees folders generation := by
  intro _ tenantId unlisted
  exact ((Dict.get?_eq_none folders tenantId).mpr unlisted).symm

private theorem agrees_loaded {folders loaded : Stores} {generation revision : Nat} {tenantId : Text}
    {left : List Text} {store : Store} (found : folders.get? tenantId = some store)
    (agrees : (Phase.loading revision loaded (tenantId::left)).Agrees folders generation) :
    (Phase.loading revision (loaded.set tenantId store) left).Agrees folders generation := by
  intro known other unlisted
  rw [Dict.get?_set]
  split_ifs with same
  · exact same ▸ found.symm
  · exact agrees known other (fun listed => (List.mem_cons.mp listed).elim same unlisted)

/-! Writing the folders. -/

private theorem progress_cleared {folders result : Stores} {results : List Stores} (listed : result ∈ results) :
    (Phase.removing result (folders.keys.filter (fun tenantId =>
      !result.keys.contains tenantId))).Progress folders results := by
  refine ⟨listed,folders.distinct.sublist List.filter_sublist,fun tenantId stale missing => ?_,
    fun tenantId kept unwanted => ?_⟩
  · exact (Dict.get?_eq_none folders tenantId).mp missing (List.mem_filter.mp stale).1
  · rw [Dict.get?_eq_none] at unwanted ⊢
    exact fun present => kept (List.mem_filter.mpr ⟨present,by simpa using unwanted⟩)

private theorem progress_removed {folders result : Stores} {results : List Stores} {tenantId : Text}
    {stale : List Text}
    (progress : (Phase.removing result (tenantId::stale)).Progress folders results) :
    (Phase.removing result stale).Progress (folders.erase tenantId) results := by
  obtain ⟨listed,once,present,gone⟩ := progress
  obtain ⟨apart,once⟩ := List.nodup_cons.mp once
  refine ⟨listed,once,fun other stale => ?_,fun other kept unwanted => ?_⟩
  · rw [Dict.get?_erase,if_neg (fun same : other = tenantId => apart (same ▸ stale))]
    exact present other (List.mem_cons_of_mem _ stale)
  · rw [Dict.get?_erase]
    split_ifs with same
    · rfl
    · exact gone other (fun stale => (List.mem_cons.mp stale).elim same kept) unwanted

private theorem progress_removed_all {folders result : Stores} {results : List Stores}
    (progress : (Phase.removing result []).Progress folders results) :
    (Phase.writing result result.entries).Progress folders results := by
  refine ⟨progress.1,fun entry listed => (Dict.get?_eq_some _ _ _).mpr listed,
    fun tenantId unlisted => ?_⟩
  have unwanted := (Dict.get?_eq_none result tenantId).mpr unlisted
  rw [unwanted]
  exact progress.2.2.2 tenantId List.not_mem_nil unwanted

private theorem progress_written {folders result : Stores} {results : List Stores} {entry : Text × Store}
    {left : List (Text × Store)}
    (progress : (Phase.writing result (entry::left)).Progress folders results) :
    (Phase.writing result left).Progress (folders.set entry.1 entry.2) results := by
  obtain ⟨listed,wanted,done⟩ := progress
  refine ⟨listed,fun other later => wanted other (List.mem_cons_of_mem _ later),
    fun tenantId unlisted => ?_⟩
  rw [Dict.get?_set]
  split_ifs with same
  · exact same ▸ (wanted entry List.mem_cons_self).symm
  · exact done tenantId (fun later => (List.mem_cons.mp later).elim same unlisted)

private theorem progress_written_all {folders result : Stores} {results : List Stores}
    (progress : (Phase.writing result []).Progress folders results) :
    (Phase.marking result).Progress folders results :=
  ⟨progress.1,fun tenantId => progress.2.2 tenantId List.not_mem_nil⟩

theorem Sound.installed {shared : Shared} (sound : Sound shared) {index : Nat} {result : Stores}
    {revision : Nat} (before : (shared.workers index).phase.unsettled = false)
    (known : revision ≤ shared.clock)
    (agrees : shared.Settled → revision = shared.generation → Same result shared.folders) :
    Sound (shared.put index ⟨some result,some revision,.idle⟩) := by
  refine @Sound.put shared sound index ⟨some result,some revision,.idle⟩ shared.results
    (List.Subset.refl _) ⟨fun other same => ?_,fun _ none' => (nomatch none')⟩
    (fun busy => (nomatch busy)) trivial trivial (fun _ => before)
    (fun _ settled => ⟨fun label stores same => ?_,trivial⟩)
  · cases same
    exact known
  · cases same
    exact agrees settled (Option.some.inj label)

theorem Sound.moving {shared : Shared} (sound : Sound shared) (index : Nat) {phase : Phase}
    (unread : phase.revision? = none) :
    ({ shared.workers index with phase := phase } : Worker).Fresh shared.clock :=
  ⟨(sound.fresh index).1,fun revision known => by rw [unread] at known; cases known⟩

theorem Sound.load {shared : Shared} (sound : Sound shared) {index revision : Nat}
    {loaded : Stores} {left : List Text}
    (phase : (shared.workers index).phase = .loading revision loaded left) :
    Sound (shared.next tools defaultTenant index) := by
  have before : (shared.workers index).phase.unsettled = false := by rw [phase]; rfl
  have known := (sound.fresh index).2 revision (by rw [phase]; rfl)
  have agrees (settled : shared.Settled) := ((sound.settled settled).2 index).2
  unfold Shared.next
  dsimp only
  rw [phase] at agrees ⊢
  cases left with
  | nil =>
    exact sound.installed before known (fun settled same tenantId =>
      agrees settled same tenantId List.not_mem_nil)
  | cons tenantId left =>
    dsimp only
    split
    · exact sound.move .idle before rfl trivial (fun _ known => by cases known) trivial (fun _ => trivial)
    · rename_i store found
      refine sound.move (.loading revision (loaded.set tenantId store) left) before rfl trivial
        (fun other same => ?_) trivial (fun settled => agrees_loaded found (agrees settled))
      cases same
      exact known

theorem Sound.gather {shared : Shared} (sound : Sound shared) {index revision : Nat} {job : Job}
    {loaded : Stores} {left : List Text}
    (phase : (shared.workers index).phase = .gathering job revision loaded left) :
    Sound (shared.next tools defaultTenant index) := by
  have before : (shared.workers index).phase.unsettled = false := by rw [phase]; rfl
  have known := (sound.fresh index).2
  have agrees (settled : shared.Settled) := ((sound.settled settled).2 index).2
  have based := sound.based index
  unfold Worker.Based at based
  unfold Shared.next
  dsimp only
  rw [phase] at based known agrees ⊢
  cases left with
  | nil =>
    refine sound.move (.computing job loaded (some revision)) before rfl trivial known
      (fun stores installed => ?_) (fun settled label tenantId => ?_)
    · cases (based : (shared.workers index).indexes = none).symm.trans installed
    · exact agrees settled (Option.some.inj label) tenantId List.not_mem_nil
  | cons tenantId left =>
    dsimp only
    split
    · exact sound.move .idle before rfl trivial (fun _ known => by cases known) trivial (fun _ => trivial)
    · rename_i store found
      exact sound.move (.gathering job revision (loaded.set tenantId store) left) before rfl trivial known
        based (fun settled => agrees_loaded found (agrees settled))

theorem Sound.clear {shared : Shared} (sound : Sound shared) {index : Nat} {result : Stores}
    (phase : (shared.workers index).phase = .clearing result)
    (allowed : shared.Allowed tools defaultTenant (index,.next)) :
    Sound (shared.next tools defaultTenant index) := by
  have progress := sound.progress index
  unfold Shared.Allowed at allowed
  unfold Shared.next
  dsimp only
  rw [phase] at progress allowed ⊢
  exact @Sound.put shared sound index { shared.workers index with phase := .removing result _ } shared.results
    (List.Subset.refl _) (sound.moving index rfl) (fun _ => allowed) (progress_cleared progress) trivial
    (fun busy => (nomatch busy)) (fun busy => (nomatch busy))

theorem Sound.remove {shared : Shared} (sound : Sound shared) {index : Nat} {result : Stores}
    {stale : List Text} (phase : (shared.workers index).phase = .removing result stale) :
    Sound (shared.next tools defaultTenant index) := by
  have before : (shared.workers index).phase.publishing = true := by rw [phase]; rfl
  have progress := sound.progress index
  unfold Shared.next
  dsimp only
  rw [phase] at progress ⊢
  cases stale with
  | nil =>
    exact @Sound.edit shared sound index _ shared.folders before rfl
      (@Sound.moving shared sound index (.writing result result.entries) rfl)
      (progress_removed_all progress) trivial
  | cons tenantId stale =>
    dsimp only
    split
    · rename_i missing
      exact absurd missing (progress.2.2.1 tenantId List.mem_cons_self)
    · exact sound.edit before rfl (sound.moving index rfl) (progress_removed progress) trivial

theorem Sound.write {shared : Shared} (sound : Sound shared) {index : Nat} {result : Stores}
    {left : List (Text × Store)} (phase : (shared.workers index).phase = .writing result left) :
    Sound (shared.next tools defaultTenant index) := by
  have before : (shared.workers index).phase.publishing = true := by rw [phase]; rfl
  have progress := sound.progress index
  unfold Shared.next
  dsimp only
  rw [phase] at progress ⊢
  cases left with
  | nil =>
    exact @Sound.edit shared sound index _ shared.folders before rfl
      (@Sound.moving shared sound index (.marking result) rfl) (progress_written_all progress) trivial
  | cons entry left =>
    exact sound.edit before rfl (sound.moving index rfl) (progress_written progress) trivial

theorem Sound.next {shared : Shared} (sound : Sound shared) {index : Nat}
    (allowed : shared.Allowed tools defaultTenant (index,.next)) :
    Sound (shared.next tools defaultTenant index) := by
  have fresh := sound.fresh index
  have progress := sound.progress index
  have based := sound.based index
  have agrees (settled : shared.Settled) := ((sound.settled settled).2 index).2
  unfold Worker.Based at based
  cases phase : (shared.workers index).phase with
  | loading revision loaded left => exact sound.load phase
  | gathering job revision loaded left => exact sound.gather phase
  | clearing result => exact sound.clear phase allowed
  | removing result stale => exact sound.remove phase
  | writing result left => exact sound.write phase
  | idle =>
    unfold Shared.next
    dsimp only
    rw [phase]
    exact sound
  | listing revision =>
    have before : (shared.workers index).phase.unsettled = false := by rw [phase]; rfl
    unfold Shared.next
    dsimp only
    rw [phase]
    split_ifs
    · exact sound.move .idle before rfl trivial (fun _ known => by cases known) trivial (fun _ => trivial)
    · refine sound.move (.loading revision ∅ shared.folders.keys) before rfl trivial (fun other known => ?_)
        trivial (fun _ => agrees_listed _ _ _)
      exact fresh.2 other (by rw [phase]; exact known)
  | starting job =>
    unfold Shared.next
    dsimp only
    rw [phase] at based ⊢
    refine sound.move (.gathering job shared.generation ∅ shared.folders.keys) (by rw [phase]; rfl) rfl trivial
      (fun _ known => ?_) based (fun _ => agrees_listed _ _ shared.generation)
    cases known
    exact sound.marker
  | computing job existing revision =>
    unfold Shared.next
    dsimp only
    rw [phase]
    exact sound.compute phase allowed
  | marking result =>
    unfold Shared.next
    dsimp only
    rw [phase]
    exact sound.mark phase
  | labelling result =>
    unfold Shared.next
    dsimp only
    rw [phase] at progress ⊢
    refine sound.move (.installing result shared.generation) (by rw [phase]; rfl) rfl trivial
      (fun revision known => ?_) trivial (fun _ _ tenantId => (progress.2 tenantId).symm)
    cases known
    exact sound.marker
  | relabelling result revision =>
    unfold Shared.Allowed at allowed
    unfold Shared.next
    dsimp only
    rw [phase] at allowed agrees ⊢
    refine sound.move (.installing result shared.generation) (by rw [phase]; rfl) rfl trivial
      (fun revision known => ?_) trivial (fun settled _ => agrees settled allowed)
    cases known
    exact sound.marker
  | installing result revision =>
    unfold Shared.next
    dsimp only
    rw [phase] at agrees ⊢
    exact sound.installed (by rw [phase]; rfl) (fresh.2 revision (by rw [phase]; rfl)) agrees

theorem Sound.step {shared : Shared} (sound : Sound shared) {event : Nat × Action}
    (allowed : shared.Allowed tools defaultTenant event) :
    Sound (shared.step tools defaultTenant event) := by
  obtain ⟨index,action⟩ := event
  unfold Shared.step
  dsimp only
  cases action with
  | get =>
    cases phase : (shared.workers index).phase with
    | idle => exact sound.get phase
    | _ => exact sound
  | ingest job =>
    cases phase : (shared.workers index).phase with
    | idle => exact sound.ingest phase job
    | _ => exact sound
  | next => exact sound.next allowed

/-! Convergence. -/

private theorem unsettled_ingesting {phase : Phase} (busy : phase.unsettled = true) :
    phase.ingesting = true := by
  cases phase <;> first | rfl | cases busy

theorem Sound.converged {shared : Shared} (sound : Sound shared) : shared.Converged := by
  intro quiet
  have settled : shared.Settled := by
    intro index
    cases busy : (shared.workers index).phase.unsettled
    · rfl
    · exact absurd ((quiet index).symm.trans (unsettled_ingesting busy)) Bool.false_ne_true
  obtain ⟨whole,agrees⟩ := sound.settled settled
  refine ⟨whole,fun index _ => ⟨fun present => ?_,fun stores answered => ?_⟩⟩
  · unfold Shared.answer
    dsimp only
    split_ifs with current empty
    · exact (Bool.and_eq_true_iff.mp current).1
    · exact absurd (present.symm.trans empty) Bool.false_ne_true
    · rfl
  · unfold Shared.answer at answered
    dsimp only at answered
    split_ifs at answered with current
    · exact (agrees index).1 (beq_iff_eq.mp (Bool.and_eq_true_iff.mp current).2) stores answered
    · cases answered
      exact fun _ => rfl

private theorem run_loading {shared : Shared} {index revision : Nat} {loaded : Stores} {left : List Text}
    (phase : (shared.workers index).phase = .loading revision loaded left)
    (present : ∀ tenantId ∈ left, shared.folders.get? tenantId ≠ none) :
    ∃ whole, (Transition.run (Shared.step tools defaultTenant) shared
        (List.replicate (left.length + 1) (index,.next))).workers index =
          ⟨some whole,some revision,.idle⟩ ∧
      ∀ tenantId, whole.get? tenantId =
        if tenantId ∈ left then shared.folders.get? tenantId else loaded.get? tenantId := by
  induction left generalizing shared loaded with
  | nil =>
    refine ⟨loaded,?_,fun _ => rfl⟩
    change (shared.next tools defaultTenant index).workers index = _
    unfold Shared.next
    dsimp only
    rw [phase]
    exact put_self _ _ _
  | cons tenantId left ih =>
    obtain ⟨store,found⟩ := Option.ne_none_iff_exists'.mp (present tenantId List.mem_cons_self)
    have step : shared.step tools defaultTenant (index,.next) = shared.put index
        { shared.workers index with phase := .loading revision (loaded.set tenantId store) left } := by
      change shared.next tools defaultTenant index = _
      unfold Shared.next
      dsimp only
      rw [phase]
      dsimp only
      rw [found]
    rw [List.length_cons,List.replicate_succ,Transition.run_cons,step]
    obtain ⟨whole,reached,read⟩ := @ih (shared.put index { shared.workers index with
        phase := .loading revision (loaded.set tenantId store) left }) (loaded.set tenantId store)
      (by rw [put_self]) (fun other listed => present other (List.mem_cons_of_mem _ listed))
    refine ⟨whole,reached,fun other => (read other).trans ?_⟩
    rw [Dict.get?_set]
    by_cases same : other = tenantId
    · subst same
      simp [Shared.put,found]
    · simp only [List.mem_cons,same,false_or,if_false]
      rfl

/-- A call of `get_indexes` that nothing interrupts ends with the answer installed. -/
theorem answer_reached {shared : Shared} {index : Nat}
    (idle : (shared.workers index).phase = .idle) {stores : Stores}
    (answered : shared.answer index = some stores) :
    ∃ count whole, Same whole stores ∧
      ((Transition.run (Shared.step tools defaultTenant) shared
        ((index,.get)::List.replicate count (index,.next))).workers index).indexes = some whole ∧
      ((Transition.run (Shared.step tools defaultTenant) shared
        ((index,.get)::List.replicate count (index,.next))).workers index).phase = .idle := by
  have got : shared.step tools defaultTenant (index,.get) = shared.get index := by
    unfold Shared.step
    dsimp only
    rw [idle]
  unfold Shared.answer at answered
  dsimp only at answered
  split_ifs at answered with current empty
  · have kept : shared.get index = shared := if_pos current
    refine ⟨0,stores,fun _ => rfl,?_,?_⟩ <;>
      rw [List.replicate_zero,Transition.run_cons,Transition.run_nil,got,kept]
    · exact answered
    · exact idle
  · cases answered
    have asked : shared.get index = shared.put index
        { shared.workers index with phase := .listing shared.generation } := if_neg current
    have listed : (shared.get index).step tools defaultTenant (index,.next) =
        (shared.get index).put index { (shared.get index).workers index with
          phase := .loading shared.generation ∅ shared.folders.keys } := by
      change (shared.get index).next tools defaultTenant index = _
      rw [asked]
      unfold Shared.next
      dsimp only
      rw [put_self]
      exact if_neg empty
    have folders : (shared.get index).folders = shared.folders := by rw [asked]; rfl
    obtain ⟨whole,reached,read⟩ := @run_loading tools defaultTenant
      ((shared.get index).put index { (shared.get index).workers index with
        phase := .loading shared.generation ∅ shared.folders.keys }) index shared.generation ∅
      shared.folders.keys (by rw [put_self]) (fun tenantId present missing => by
        change (shared.get index).folders.get? tenantId = none at missing
        rw [folders] at missing
        exact (Dict.get?_eq_none shared.folders tenantId).mp missing present)
    refine ⟨shared.folders.keys.length + 1 + 1,whole,fun tenantId => ?_,?_,?_⟩
    · rw [read]
      split_ifs with present
      · exact congrArg (fun found => Dict.get? found tenantId) folders
      · exact ((Dict.get?_eq_none shared.folders tenantId).mpr present).symm
    all_goals
      rw [Transition.run_cons,got,List.replicate_succ,Transition.run_cons,listed,reached]

/-- In a run in which writes do not overlap, an unchanged map is labelled only under the marker under which it was
read, and an ingest that raises has no difference behind it, the disk is whole and the answers are what is on it
whenever no ingest is running. -/
theorem publishing_converges (events : List (Nat × Action))
    (allowed : Transition.Along (Shared.step tools defaultTenant)
      (Shared.Allowed tools defaultTenant) .start events) :
    Transition.Throughout (Shared.step tools defaultTenant) Shared.Converged .start events :=
  (Transition.Throughout.of_along (fun _ _ sound allowed => sound.step allowed) sound_start
    allowed).imp (fun _ sound => sound.converged)

end

/-! Runs of two processes. -/

section
variable {tools : Tools} {defaultTenant : Text}

/-- Steps of which the state of the process alone shows that they are allowed. -/
def Shared.plain (tools : Tools) (defaultTenant : Text) (shared : Shared) (event : Nat × Action) : Bool :=
  match event.2, (shared.workers event.1).phase with
  | .next, .computing job existing _ =>
    let grouped := groupDocuments (directoryDocuments tools defaultTenant job.directory)
    job.rebuild || !(ingestOrder existing grouped).any (failsAt grouped existing job.raises)
  | .next, .clearing _ => false
  | .next, .relabelling _ revision => revision == some shared.generation
  | _, _ => true

private theorem allowed_of_plain {shared : Shared} {event : Nat × Action}
    (light : shared.plain tools defaultTenant event = true) : shared.Allowed tools defaultTenant event := by
  obtain ⟨index,action⟩ := event
  unfold Shared.plain at light
  unfold Shared.Allowed
  dsimp only at light ⊢
  cases action with
  | next =>
    cases phase : (shared.workers index).phase with
    | computing job existing revision =>
      rw [phase] at light
      intro _ partial' fails
      dsimp only at light fails
      rw [partial',Bool.false_or,fails] at light
      cases light
    | clearing result =>
      rw [phase] at light
      cases light
    | relabelling result revision =>
      rw [phase] at light
      exact beq_iff_eq.mp light
    | _ => trivial
  | _ => trivial

private theorem allowed_of_alone {shared : Shared} {index : Nat} {result : Stores}
    (clearing : (shared.workers index).phase = .clearing result)
    (idle : ∀ other, other ≠ index → (shared.workers other).phase.publishing = false) :
    shared.Allowed tools defaultTenant (index,.next) := by
  unfold Shared.Allowed
  rw [clearing]
  exact idle

private theorem compute_other (shared : Shared) {index other : Nat} (apart : other ≠ index) (job : Job)
    (existing : Stores) (revision : Option Nat) :
    (shared.compute tools defaultTenant index job existing revision).workers other = shared.workers other := by
  unfold Shared.compute
  dsimp only
  split <;> exact put_other _ _ apart

private theorem next_other (shared : Shared) {index other : Nat} (apart : other ≠ index) :
    (shared.next tools defaultTenant index).workers other = shared.workers other := by
  unfold Shared.next
  dsimp only
  split
  all_goals first
    | rfl
    | exact put_other _ _ apart
    | exact compute_other shared apart _ _ _
    | split <;> exact put_other _ _ apart

private theorem step_other (shared : Shared) {event : Nat × Action} {other : Nat} (apart : other ≠ event.1) :
    (shared.step tools defaultTenant event).workers other = shared.workers other := by
  unfold Shared.step
  split
  · unfold Shared.get
    dsimp only
    split_ifs
    · rfl
    · exact put_other _ _ apart
  · unfold Shared.ingest
    dsimp only
    split <;> exact put_other _ _ apart
  · exact next_other shared apart
  · rfl

theorem run_other (shared : Shared) {events : List (Nat × Action)} {other : Nat}
    (apart : ∀ event ∈ events, other ≠ event.1) :
    (Transition.run (Shared.step tools defaultTenant) shared events).workers other =
      shared.workers other := by
  induction events generalizing shared with
  | nil => rfl
  | cons event rest ih =>
    rw [Transition.run_cons,ih _ (fun later listed => apart later (List.mem_cons_of_mem _ listed)),
      step_other shared (apart event List.mem_cons_self)]

end

def rebuildJob (first second : String) : Job := ⟨true,twoTenants first second,fun _ => false⟩

def nexts (index count : Nat) : List (Nat × Action) := List.replicate count (index,.next)

/-- Two rebuilds: the second runs between the two folders that the first writes. -/
def overlappingRebuilds : List (Nat × Action) :=
  (0,.ingest (rebuildJob "x" "y"))::nexts 0 4 ++ (1,.ingest (rebuildJob "v" "w"))::nexts 1 9 ++
    nexts 0 5

/-- One process publishes, another loads and ingests the same files, of which nothing is new. -/
theorem publishing_converges_reload :
    Transition.Throughout (Shared.step plainTools "demo".toList) Shared.Converged .start
      ([(0,.ingest (rebuildJob "x" "y")),(0,.next)] ++ (0,.next)::(nexts 0 7 ++ (1,.get)::nexts 1 4 ++
        (1,.ingest ⟨false,twoTenants "x" "y",fun _ => false⟩)::nexts 1 3)) := by
  apply publishing_converges
  rw [Transition.along_append]
  refine ⟨Transition.Along.imp (fun _ _ => allowed_of_plain) (by decide +kernel),?_,
    Transition.Along.imp (fun _ _ => allowed_of_plain) (by decide +kernel)⟩
  have built : ∃ result, ((Transition.run (Shared.step plainTools "demo".toList) .start
      [(0,.ingest (rebuildJob "x" "y")),(0,.next)]).workers 0).phase = .clearing result := ⟨_,rfl⟩
  obtain ⟨result,clearing⟩ := built
  refine allowed_of_alone clearing (fun other apart => ?_)
  rw [run_other .start (fun event listed => ?_)]
  · rfl
  · have first : ∀ event ∈ [(0,Action.ingest (rebuildJob "x" "y")),(0,.next)], event.1 = 0 := by decide
    exact first event listed ▸ apart

/-- The folders of two rebuilds are mixed. -/
theorem overlapping_rebuilds_mix :
    ¬∀ (tools : Tools) (defaultTenant : Text) (events : List (Nat × Action)),
      Transition.Throughout (Shared.step tools defaultTenant) Shared.Converged .start events := by
  intro law
  have last := (law plainTools "demo".toList overlappingRebuilds).last
  have quiet : ∀ index, ((Transition.run (Shared.step plainTools "demo".toList) .start
      overlappingRebuilds).workers index).phase.ingesting = false := by
    intro index
    by_cases first : index = 0
    · subst first
      decide +kernel
    · by_cases second : index = 1
      · subst second
        decide +kernel
      · rw [run_other .start (fun event listed => ?_)]
        · rfl
        · have known : ∀ event ∈ overlappingRebuilds, event.1 = 0 ∨ event.1 = 1 := by decide +kernel
          rcases known event listed with same | same
          · exact same ▸ first
          · exact same ▸ second
  rcases (last quiet).1 with ⟨unwritten,_⟩ | ⟨result,listed,same⟩
  · revert unwritten
    decide +kernel
  · have mixed : ∀ result ∈ (Transition.run (Shared.step plainTools "demo".toList) .start
        overlappingRebuilds).results, ∃ tenantId ∈ ["acme".toList,"beta".toList],
          (Transition.run (Shared.step plainTools "demo".toList) .start
            overlappingRebuilds).folders.get? tenantId ≠ result.get? tenantId := by
      decide +kernel
    obtain ⟨tenantId,_,differs⟩ := mixed result listed
    exact differs (same tenantId)

end CustomerService.Publishing
