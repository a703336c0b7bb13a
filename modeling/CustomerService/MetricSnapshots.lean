import CustomerService.Metrics
import CustomerService.Transition

/-! The snapshot files of the worker processes. Threads of all processes count, flush and scrape
at the same time; a scrape reads the files one after the other. -/
namespace CustomerService.Metrics
open KeyedTable

abbrev Pid := Nat

abbrev Thread := Nat

/-- `cs-<pid>.tmp` and `cs-<pid>.json` as the inodes they name. An inode that is empty or torn
has no snapshot that can be read. -/
structure PidFiles where
  contents : Nat → Option Snapshot
  made : Nat
  tmp : Option Nat
  json : Option Nat

/-- A process, with the calls that its tables come from. -/
structure Process where
  alive : Bool
  registry : Registry
  calls : List Event
  dirty : Bool
  lastFlush : ℚ
  files : PidFiles

/-- Where a thread is: in a flush, which is alone or opens a scrape, in the listing of a scrape,
in its check of the processes, in its reading, or at its tables. -/
inductive Job
  | idle
  | taken (pid : Pid) (payload : Snapshot) (scrape : Bool)
  | opened (pid : Pid) (payload : Snapshot) (inode : Nat) (scrape : Bool)
  | written (pid : Pid) (scrape : Bool)
  | listing (pid : Pid)
  | checking (pid : Pid) (unchecked kept : List Pid)
  | reading (pid : Pid) (unread : List Pid) (found : List (Pid × Option Snapshot))
  | done (counters : KeyedTable String LabelKey ℚ) (histograms : KeyedTable String LabelKey Hist)

structure System where
  process : Pid → Process
  job : Thread → Job

inductive Action
  | call (pid : Pid) (event : Event)
  | flush (thread : Thread) (pid : Pid) (force scrape : Bool) (now : ℚ) (gauges : Gauges)
  | openTmp (thread : Thread)
  | write (thread : Thread) (intact : Bool)
  | replace (thread : Thread)
  | fail (thread : Thread)
  | list (thread : Thread) (pids : List Pid)
  | check (thread : Thread)
  | read (thread : Thread)
  | exit (pid : Pid) (clean : Bool)

def flushIntervalSeconds : ℚ := 1 / 20

namespace PidFiles

def put (files : PidFiles) (inode : Nat) (content : Option Snapshot) : PidFiles :=
  { files with contents := fun other => if other = inode then content else files.contents other }

/-- `open(tmp, "w")` makes the file, or empties the one that is there. -/
def openTmp (files : PidFiles) : Nat × PidFiles :=
  match files.tmp with
  | some inode => (inode,files.put inode none)
  | none => (files.made,{ files.put files.made none with made := files.made + 1, tmp := some files.made })

/-- `tmp.replace(path)`; without the file it raises and leaves everything. -/
def replace (files : PidFiles) : PidFiles :=
  match files.tmp with
  | some inode => { files with json := some inode, tmp := none }
  | none => files

/-- `_load_snapshot`. -/
def load (files : PidFiles) : Option Snapshot := files.json.bind files.contents

end PidFiles

namespace System

def setProcess (system : System) (pid : Pid) (process : Process) : System :=
  { system with process := fun other => if other = pid then process else system.process other }

def put (system : System) (pid : Pid) (process : Process) (thread : Thread) (job : Job) : System where
  process := fun other => if other = pid then process else system.process other
  job := fun other => if other = thread then job else system.job other

end System

def afterFlush (pid : Pid) (scrape : Bool) : Job := if scrape then .listing pid else .idle

/-- What a thread does next in its flush or scrape, none where the action is not its next. -/
def Job.next (system : System) (thread : Thread) : Job → Action → Option System
  | .idle, .flush _ pid force scrape now gauges =>
    let process := system.process pid
    if (force || scrape) || (process.dirty && decide (flushIntervalSeconds ≤ now - process.lastFlush)) then
      some (system.put pid { process with dirty := false, lastFlush := now } thread
        (.taken pid (snapshotPayload process.registry gauges) scrape))
    else none
  | .taken pid payload scrape, .openTmp _ =>
    let process := system.process pid
    let made := process.files.openTmp
    some (system.put pid { process with files := made.2 } thread (.opened pid payload made.1 scrape))
  | .opened pid payload inode scrape, .write _ intact =>
    let process := system.process pid
    let files := process.files.put inode (if intact then some payload else none)
    some (system.put pid { process with files } thread (.written pid scrape))
  | .written pid scrape, .replace _ =>
    let process := system.process pid
    some (system.put pid { process with files := process.files.replace } thread (afterFlush pid scrape))
  | .taken pid _ scrape, .fail _ | .opened pid _ _ scrape, .fail _ | .written pid scrape, .fail _ =>
    let process := system.process pid
    let files := { process.files with tmp := none }
    some (system.put pid { process with files } thread (afterFlush pid scrape))
  | .listing pid, .list _ pids =>
    -- a listing that is made while files come and go
    if pids.Nodup ∧ ∀ other ∈ pids, (system.process other).files.json.isSome then
      some (system.put pid (system.process pid) thread (.checking pid pids []))
    else none
  | .checking pid (other::unchecked) kept, .check _ =>
    let process := system.process other
    if process.alive then
      some (system.put other process thread (.checking pid unchecked (kept ++ [other])))
    else
      let files := { process.files with json := none }
      some (system.put other { process with files } thread (.checking pid unchecked kept))
  | .checking pid [] kept, .check _ =>
    let process := system.process pid
    -- without any file the tables of the process itself are rendered
    if kept = [] then
      some (system.put pid process thread (.done process.registry.counters process.registry.histograms))
    else some (system.put pid process thread (.reading pid kept []))
  | .reading pid (other::unread) found, .read _ =>
    let process := system.process other
    some (system.put other process thread (.reading pid unread (found ++ [(other,process.files.load)])))
  | .reading pid [] found, .read _ =>
    let merged := mergeSnapshots (found.map Prod.snd)
    some (system.put pid (system.process pid) thread (.done merged.counters merged.histograms))
  | _, _ => none

def Job.pid? : Job → Option Pid
  | .idle => none
  | .taken pid _ _ => some pid
  | .opened pid _ _ _ => some pid
  | .written pid _ => some pid
  | .listing pid => some pid
  | .checking pid _ _ => some pid
  | .reading pid _ _ => some pid
  | .done _ _ => none

def Action.thread? : Action → Option Thread
  | .call _ _ => none
  | .flush thread _ _ _ _ _ => some thread
  | .openTmp thread => some thread
  | .write thread _ => some thread
  | .replace thread => some thread
  | .fail thread => some thread
  | .list thread _ => some thread
  | .check thread => some thread
  | .read thread => some thread
  | .exit _ _ => none

def System.runner (system : System) : Action → Option Pid
  | .call pid _ => some pid
  | .flush _ pid _ _ _ _ => some pid
  | .exit pid _ => some pid
  | action => action.thread?.bind (fun thread => (system.job thread).pid?)

def System.step (system : System) (action : Action) : System :=
  if (system.runner action).any (fun pid => (system.process pid).alive) then
    match action with
    | .call pid event =>
      let process := system.process pid
      system.setProcess pid { process with
        registry := process.registry.step event, calls := process.calls ++ [event], dirty := true }
    | .exit pid clean =>
      let process := system.process pid
      let files := if clean then { process.files with json := none } else process.files
      system.setProcess pid { process with alive := false, files }
    | action =>
      (action.thread?.bind (fun thread => (system.job thread).next system thread action)).getD system
  else system

def System.start : System where
  process _ := ⟨true,⟨∅,∅⟩,[],false,0,⟨fun _ => none,0,none,none⟩⟩
  job _ := .idle

def System.run (actions : List Action) : System := Transition.run System.step System.start actions

/-! What a snapshot is of, and what a scrape is. -/

def Past (calls : List Event) (snapshot : Snapshot) : Prop :=
  ∃ seen gauges, seen <+: calls ∧ snapshot = snapshotPayload (recorded seen) gauges

/-- The tables that one process has after the first calls of some processes: for each process all
the calls up to a time of its own, every call once, and none without the calls before it. -/
def Cut (calls : Pid → List Event) (counters : KeyedTable String LabelKey ℚ)
    (histograms : KeyedTable String LabelKey Hist) : Prop :=
  ∃ (order : List Pid) (cut : Pid → List Event), order.Nodup ∧ (∀ pid, cut pid <+: calls pid) ∧
    (∀ name key, lookup counters name key =
      lookup (recorded (order.flatMap cut)).counters name key) ∧
    ∀ bounds, (∀ pid, Shared bounds (calls pid)) → ∀ name, bounds name ≠ [] → ∀ key,
      lookup histograms name key = lookup (recorded (order.flatMap cut)).histograms name key

theorem Past.later {before after : List Event} {snapshot : Snapshot} (grown : before <+: after)
    (past : Past before snapshot) : Past after snapshot := by
  obtain ⟨seen,gauges,part,made⟩ := past
  exact ⟨seen,gauges,part.trans grown,made⟩

theorem Shared.take {bounds : String → List Bound} {part whole : List Event} (part' : part <+: whole)
    (shared : Shared bounds whole) : Shared bounds part :=
  fun name value buckets labels member => shared name value buckets labels (part'.subset member)

theorem Cut.later {before after : Pid → List Event} {counters : KeyedTable String LabelKey ℚ}
    {histograms : KeyedTable String LabelKey Hist} (grown : ∀ pid, before pid <+: after pid)
    (cut : Cut before counters histograms) : Cut after counters histograms := by
  obtain ⟨order,cut,once,part,counted,observed⟩ := cut
  refine ⟨order,cut,once,fun pid => (part pid).trans (grown pid),counted,?_⟩
  exact fun bounds shared => observed bounds (fun pid => (shared pid).take (grown pid))

private theorem cut_own (calls : Pid → List Event) (pid : Pid) :
    Cut calls (recorded (calls pid)).counters (recorded (calls pid)).histograms := by
  refine ⟨[pid],calls,List.nodup_singleton pid,fun _ => List.prefix_rfl,?_,?_⟩
  · intro name key
    rw [List.flatMap_singleton]
  · intro bounds _ name _ key
    rw [List.flatMap_singleton]

def readable (found : List (Pid × Option Snapshot)) : List (Pid × Snapshot) :=
  found.filterMap (fun entry => entry.2.map (fun snapshot => (entry.1,snapshot)))

private theorem reduceOption_found (found : List (Pid × Option Snapshot)) :
    (found.map Prod.snd).reduceOption = (readable found).map Prod.snd := by
  induction found with
  | nil => rfl
  | cons entry rest ih =>
    obtain ⟨pid,content⟩ := entry
    cases content with
    | none => exact ih
    | some snapshot => exact congrArg (snapshot::·) ih

private theorem readable_sublist (found : List (Pid × Option Snapshot)) :
    ((readable found).map Prod.fst).Sublist (found.map Prod.fst) := by
  induction found with
  | nil => exact List.Sublist.refl _
  | cons entry rest ih =>
    obtain ⟨pid,content⟩ := entry
    cases content with
    | none => exact ih.cons pid
    | some snapshot => exact ih.cons_cons pid

private theorem exists_cut {calls : Pid → List Event} {found : List (Pid × Snapshot)}
    (past : ∀ entry ∈ found, Past (calls entry.1) entry.2) (once : (found.map Prod.fst).Nodup) :
    ∃ (cut : Pid → List Event) (gauges : Pid → Gauges), (∀ pid, cut pid <+: calls pid) ∧
      found.map Prod.snd = (found.map Prod.fst).map (fun pid =>
        snapshotPayload (recorded (cut pid)) (gauges pid)) := by
  induction found with
  | nil => exact ⟨fun _ => [],fun _ => ⟨0,∅⟩,fun _ => List.nil_prefix,rfl⟩
  | cons entry rest ih =>
    obtain ⟨here,later⟩ := List.forall_mem_cons.mp past
    obtain ⟨fresh,once⟩ := List.nodup_cons.mp once
    obtain ⟨seen,gauge,part,made⟩ := here
    obtain ⟨cut,gauges,parts,others⟩ := ih later once
    refine ⟨fun pid => if pid = entry.1 then seen else cut pid,
      fun pid => if pid = entry.1 then gauge else gauges pid,fun pid => ?_,?_⟩
    · dsimp only
      split_ifs with same
      · rw [same]
        exact part
      · exact parts pid
    · rw [List.map_cons,List.map_cons,List.map_cons,others,made]
      simp only [if_true]
      congr 1
      refine List.map_congr_left (fun pid listed => ?_)
      have apart : pid ≠ entry.1 := by
        rintro rfl
        exact fresh listed
      simp only [if_neg apart]

private theorem own_flatMap {order : List Pid} (once : order.Nodup) (cut : Pid → List Event) (pid : Pid) :
    own pid (order.flatMap (fun other => (cut other).map (fun event => (other,event)))) =
      if pid ∈ order then cut pid else [] := by
  induction order with
  | nil => rfl
  | cons other rest ih =>
    obtain ⟨fresh,once⟩ := List.nodup_cons.mp once
    have tail := ih once
    unfold own at tail ⊢
    rw [List.flatMap_cons,List.filter_append,List.map_append,tail,List.filter_map,List.map_map]
    by_cases same : pid = other
    · subst same
      rw [if_neg fresh,if_pos List.mem_cons_self,List.append_nil]
      have all : (cut pid).filter ((fun event : Pid × Event => decide (event.1 = pid)) ∘
          fun event => (pid,event)) = cut pid :=
        List.filter_eq_self.mpr (fun _ _ => decide_eq_true rfl)
      rw [all]
      exact List.map_id _
    · have none' : (cut other).filter ((fun event : Pid × Event => decide (event.1 = pid)) ∘
          fun event => (other,event)) = [] :=
        List.filter_eq_nil_iff.mpr (fun _ _ => by simpa using Ne.symm same)
      rw [none',List.map_nil,List.nil_append]
      simp [same]

private theorem cut_merged {calls : Pid → List Event} {found : List (Pid × Option Snapshot)}
    (past : ∀ entry ∈ found, ∀ snapshot, entry.2 = some snapshot → Past (calls entry.1) snapshot)
    (once : (found.map Prod.fst).Nodup) :
    Cut calls (mergeSnapshots (found.map Prod.snd)).counters
      (mergeSnapshots (found.map Prod.snd)).histograms := by
  have past' : ∀ entry ∈ readable found, Past (calls entry.1) entry.2 := by
    intro entry listed
    obtain ⟨source,inside,made⟩ := List.mem_filterMap.mp listed
    obtain ⟨snapshot,read,rfl⟩ := Option.map_eq_some_iff.mp made
    exact past source inside snapshot read
  have once' := once.sublist (readable_sublist found)
  obtain ⟨cut,gauges,parts,snapshots⟩ := exists_cut past' once'
  generalize orders : (readable found).map Prod.fst = order at once' snapshots
  let events := order.flatMap (fun pid => (cut pid).map (fun event => (pid,event)))
  have own' (pid : Pid) (listed : pid ∈ order) : own pid events = cut pid := by
    rw [own_flatMap once',if_pos listed]
  have merged : mergeSnapshots (found.map Prod.snd) = mergeSnapshots (files gauges events order) := by
    unfold mergeSnapshots files
    rw [reduceOption_found,snapshots]
    congr 1
    change _ = (order.map _).filterMap id
    rw [List.filterMap_map]
    refine Eq.trans ?_ (congrFun List.filterMap_eq_map order).symm
    exact List.map_congr_left (fun pid listed => by rw [own' pid listed])
  have same : order.flatMap (fun pid => own pid events) = order.flatMap cut := List.flatMap_congr own'
  have all : events.map Prod.snd = order.flatMap cut := by
    rw [List.map_flatMap]
    refine List.flatMap_congr (fun pid _ => ?_)
    rw [List.map_map]
    exact List.map_id _
  refine ⟨order,cut,once',parts,fun name key => ?_,fun bounds shared name bounded key => ?_⟩
  · rw [merged,merged_counters,recorded_counters,← amounts_flatMap,same]
  · have shared' : Shared bounds (events.map Prod.snd) := by
      rw [all]
      intro name value buckets labels member
      obtain ⟨pid,_,inside⟩ := List.mem_flatMap.mp member
      exact (shared pid).take (parts pid) name value buckets labels inside
    rw [merged,merged_histograms gauges events order shared' name bounded,← values_flatMap,same,
      recorded_histograms (all ▸ shared')]

/-! What every step keeps. -/

structure Process.Sound (process : Process) : Prop where
  registry : process.registry = recorded process.calls
  contents : ∀ inode snapshot, process.files.contents inode = some snapshot →
    Past process.calls snapshot

def Job.Fits (calls : Pid → List Event) : Job → Prop
  | .taken pid payload _ => Past (calls pid) payload
  | .opened pid payload _ _ => Past (calls pid) payload
  | .checking _ unchecked kept => (kept ++ unchecked).Nodup
  | .reading _ unread found => (found.map Prod.fst ++ unread).Nodup ∧
      ∀ entry ∈ found, ∀ snapshot, entry.2 = some snapshot → Past (calls entry.1) snapshot
  | .done counters histograms => Cut calls counters histograms
  | _ => True

theorem Job.Fits.later {before after : Pid → List Event} (grown : ∀ pid, before pid <+: after pid)
    {job : Job} (fits : job.Fits before) : job.Fits after := by
  cases job with
  | taken pid payload scrape => exact Past.later (grown pid) fits
  | opened pid payload inode scrape => exact Past.later (grown pid) fits
  | checking pid unchecked kept => exact fits
  | reading pid unread found =>
    exact ⟨fits.1,fun entry listed snapshot read => (fits.2 entry listed snapshot read).later (grown entry.1)⟩
  | done counters histograms => exact Cut.later grown fits
  | _ => trivial

def System.calls (system : System) (pid : Pid) : List Event := (system.process pid).calls

structure System.Sound (system : System) : Prop where
  process : ∀ pid, (system.process pid).Sound
  job : ∀ thread, (system.job thread).Fits system.calls

theorem System.Sound.setProcess {system : System} (sound : system.Sound) {pid : Pid}
    {process : Process} (kept : process.Sound) (grown : system.calls pid <+: process.calls) :
    (system.setProcess pid process).Sound := by
  have grown' : ∀ other, system.calls other <+: (system.setProcess pid process).calls other := by
    intro other
    unfold System.calls System.setProcess
    dsimp only
    split_ifs with same
    · rw [same]
      exact grown
    · exact List.prefix_rfl
  refine ⟨fun other => ?_,fun thread => (sound.job thread).later grown'⟩
  unfold System.setProcess
  dsimp only
  split_ifs
  · exact kept
  · exact sound.process other

theorem System.Sound.put {system : System} (sound : system.Sound) {pid : Pid} {process : Process}
    (kept : process.Sound) (same : process.calls = system.calls pid) {thread : Thread} {job : Job}
    (fits : job.Fits system.calls) : (system.put pid process thread job).Sound := by
  have calls : (system.put pid process thread job).calls = system.calls := by
    funext other
    unfold System.calls System.put
    dsimp only
    split_ifs with here
    · rw [here]
      exact same
    · rfl
  refine ⟨fun other => ?_,fun other => ?_⟩
  · unfold System.put
    dsimp only
    split_ifs
    · exact kept
    · exact sound.process other
  · rw [calls]
    unfold System.put
    dsimp only
    split_ifs
    · exact fits
    · exact sound.job other

theorem Process.Sound.put {process : Process} (sound : process.Sound) (inode : Nat)
    {content : Option Snapshot} (past : ∀ snapshot, content = some snapshot →
      Past process.calls snapshot) (inode' : Nat) (snapshot : Snapshot)
    (read : (process.files.put inode content).contents inode' = some snapshot) :
    Past process.calls snapshot := by
  unfold PidFiles.put at read
  dsimp only at read
  split_ifs at read
  · exact past snapshot read
  · exact sound.contents inode' snapshot read

theorem Process.Sound.openTmp {process : Process} (sound : process.Sound) (inode : Nat)
    (snapshot : Snapshot) (read : process.files.openTmp.2.contents inode = some snapshot) :
    Past process.calls snapshot := by
  have fresh : ∀ written, (none : Option Snapshot) = some written → Past process.calls written :=
    fun _ written => nomatch written
  unfold PidFiles.openTmp at read
  cases tmp : process.files.tmp with
  | some inode' =>
    rw [tmp] at read
    exact sound.put inode' fresh inode snapshot read
  | none =>
    rw [tmp] at read
    exact sound.put process.files.made fresh inode snapshot read

theorem Process.Sound.replace {process : Process} (sound : process.Sound) (inode : Nat)
    (snapshot : Snapshot) (read : process.files.replace.contents inode = some snapshot) :
    Past process.calls snapshot := by
  unfold PidFiles.replace at read
  cases tmp : process.files.tmp with
  | some inode' =>
    rw [tmp] at read
    exact sound.contents inode snapshot read
  | none =>
    rw [tmp] at read
    exact sound.contents inode snapshot read

private theorem fits_afterFlush (calls : Pid → List Event) (pid : Pid) (scrape : Bool) :
    (afterFlush pid scrape).Fits calls := by
  cases scrape <;> trivial

theorem Process.Sound.load {process : Process} (sound : process.Sound) {snapshot : Snapshot}
    (read : process.files.load = some snapshot) : Past process.calls snapshot := by
  obtain ⟨inode,_,content⟩ := Option.bind_eq_some_iff.mp read
  exact sound.contents inode snapshot content

theorem System.Sound.next {system next : System} (sound : system.Sound) {thread : Thread}
    {action : Action} (stepped : (system.job thread).next system thread action = some next) :
    next.Sound := by
  have fits := sound.job thread
  cases at' : system.job thread with
  | idle =>
    rw [at'] at stepped
    cases action with
    | flush _ pid force scrape now gauges =>
      dsimp only [Job.next] at stepped
      split_ifs at stepped
      cases stepped
      have process := sound.process pid
      refine sound.put ?_ ?_ ?_
      · exact ⟨process.registry,process.contents⟩
      · rfl
      · refine ⟨(system.process pid).calls,gauges,List.prefix_rfl,?_⟩
        rw [process.registry]
    | _ => cases stepped
  | taken pid payload scrape =>
    rw [at'] at fits stepped
    have process := sound.process pid
    cases action with
    | openTmp _ =>
      cases stepped
      refine sound.put ?_ ?_ ?_
      · exact ⟨process.registry,process.openTmp⟩
      · rfl
      · exact fits
    | fail _ =>
      cases stepped
      refine sound.put ?_ ?_ ?_
      · exact ⟨process.registry,process.contents⟩
      · rfl
      · exact fits_afterFlush _ pid scrape
    | _ => cases stepped
  | opened pid payload inode scrape =>
    rw [at'] at fits stepped
    have process := sound.process pid
    cases action with
    | write _ intact =>
      cases stepped
      refine sound.put ?_ ?_ ?_
      · refine ⟨process.registry,process.put inode (fun snapshot written => ?_)⟩
        split_ifs at written
        cases written
        exact fits
      · rfl
      · trivial
    | fail _ =>
      cases stepped
      refine sound.put ?_ ?_ ?_
      · exact ⟨process.registry,process.contents⟩
      · rfl
      · exact fits_afterFlush _ pid scrape
    | _ => cases stepped
  | written pid scrape =>
    rw [at'] at stepped
    have process := sound.process pid
    cases action with
    | replace _ =>
      cases stepped
      refine sound.put ?_ ?_ ?_
      · exact ⟨process.registry,process.replace⟩
      · rfl
      · exact fits_afterFlush _ pid scrape
    | fail _ =>
      cases stepped
      refine sound.put ?_ ?_ ?_
      · exact ⟨process.registry,process.contents⟩
      · rfl
      · exact fits_afterFlush _ pid scrape
    | _ => cases stepped
  | listing pid =>
    rw [at'] at stepped
    cases action with
    | list _ pids =>
      dsimp only [Job.next] at stepped
      split_ifs at stepped with listed
      cases stepped
      exact sound.put (sound.process pid) rfl listed.1
    | _ => cases stepped
  | checking pid unchecked kept =>
    rw [at'] at fits stepped
    cases action with
    | check _ =>
      cases unchecked with
      | nil =>
        dsimp only [Job.next] at stepped
        split_ifs at stepped
        · cases stepped
          refine sound.put (sound.process pid) rfl ?_
          rw [(sound.process pid).registry]
          exact cut_own system.calls pid
        · cases stepped
          have once : (kept ++ []).Nodup := fits
          rw [List.append_nil] at once
          exact sound.put (sound.process pid) rfl ⟨once,fun _ listed => nomatch listed⟩
      | cons other unchecked =>
        have once : (kept ++ other::unchecked).Nodup := fits
        dsimp only [Job.next] at stepped
        split_ifs at stepped
        · cases stepped
          rw [List.append_cons] at once
          exact sound.put (sound.process other) rfl once
        · cases stepped
          refine sound.put ?_ ?_ ?_
          · exact ⟨(sound.process other).registry,(sound.process other).contents⟩
          · rfl
          · exact once.sublist ((List.sublist_cons_self other unchecked).append_left kept)
    | _ => cases unchecked <;> cases stepped
  | reading pid unread found =>
    rw [at'] at fits stepped
    obtain ⟨once,past⟩ := fits
    cases action with
    | read _ =>
      cases unread with
      | nil =>
        cases stepped
        rw [List.append_nil] at once
        exact sound.put (sound.process pid) rfl (cut_merged past once)
      | cons other unread =>
        cases stepped
        refine sound.put (sound.process other) rfl ⟨?_,fun entry listed snapshot read => ?_⟩
        · rw [List.map_append,List.append_assoc]
          exact once
        · rcases List.mem_append.mp listed with old | new
          · exact past entry old snapshot read
          · cases List.mem_singleton.mp new
            exact (sound.process other).load read
    | _ => cases unread <;> cases stepped
  | done counters histograms =>
    rw [at'] at stepped
    cases action <;> cases stepped

theorem System.Sound.step {system : System} (sound : system.Sound) (action : Action) :
    (system.step action).Sound := by
  unfold System.step
  split_ifs
  · have next {thread : Thread} : (((system.job thread).next system thread action).getD system).Sound := by
      cases stepped : (system.job thread).next system thread action with
      | none => exact sound
      | some next => exact sound.next stepped
    cases action with
    | call pid event =>
      refine sound.setProcess ⟨?_,fun inode snapshot read => ?_⟩ (List.prefix_append _ _)
      · rw [(sound.process pid).registry,recorded,recorded,List.foldl_append]
        rfl
      · exact ((sound.process pid).contents inode snapshot read).later (List.prefix_append _ _)
    | exit pid clean =>
      refine sound.setProcess ⟨(sound.process pid).registry,fun inode snapshot read => ?_⟩ List.prefix_rfl
      cases clean
      · exact (sound.process pid).contents inode snapshot read
      · exact (sound.process pid).contents inode snapshot read
    | _ => exact next
  · exact sound

theorem started : System.start.Sound where
  process _ := ⟨rfl,fun _ _ read => nomatch read⟩
  job _ := trivial

/-- In any run, with any number of threads in a process, the tables of a scrape are those of one
process after the first calls of each: no call is counted twice or without the calls before it. -/
theorem scrape_is_a_cut (actions : List Action) (thread : Thread)
    {counters : KeyedTable String LabelKey ℚ} {histograms : KeyedTable String LabelKey Hist}
    (scraped : (System.run actions).job thread = .done counters histograms) :
    Cut (System.run actions).calls counters histograms := by
  have keeps : ∀ (system : System) (action : Action), system.Sound → (system.step action).Sound :=
    fun _ action sound => sound.step action
  have sound : (System.run actions).Sound := Transition.run_invariant keeps started actions
  have fits := sound.job thread
  rw [scraped] at fits
  exact fits

/-- A scrape by one of two processes, while the other counts. -/
def oneScrape : List Action :=
  [.call 0 (.inc "calls" 2 ∅),.call 1 (.inc "calls" 3 ∅),.flush 1 1 true false 0 ⟨0,∅⟩,.openTmp 1,
    .write 1 true,.replace 1,.flush 0 0 true true 1 ⟨0,∅⟩,.openTmp 0,.write 0 true,.replace 0,
    .list 0 [1,0],.check 0,.call 1 (.inc "calls" 5 ∅),.check 0,.check 0,.read 0,.read 0,.read 0]

theorem scrape_is_a_cut_one : ∃ counters histograms,
    (System.run oneScrape).job 0 = .done counters histograms ∧
      lookup counters "calls" (labelKey ∅) = some 5 ∧
      Cut (System.run oneScrape).calls counters histograms := by
  refine ⟨_,_,rfl,?_,scrape_is_a_cut oneScrape 0 rfl⟩
  decide +kernel

end CustomerService.Metrics
