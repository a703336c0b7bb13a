import CustomerService.KeyedTable
import Mathlib.Algebra.BigOperators.Group.List.Basic
import Mathlib.Algebra.Order.Ring.Rat
import Mathlib.Data.List.Sort
import Mathlib.Data.Prod.Lex
import Mathlib.Data.String.Basic
import Mathlib.Order.WithBot

/-! Counters and histograms of one process, the snapshot each worker writes, and
the merge of all of them at a scrape. -/
namespace CustomerService.Metrics
open KeyedTable

abbrev Labels := Dict String String

def PairLe (first second : String × String) : Prop := toLex first ≤ toLex second

instance : DecidableRel PairLe := fun first second =>
  inferInstanceAs (Decidable (toLex first ≤ toLex second))

instance : IsTrans (String × String) PairLe := ⟨fun _ _ _ => le_trans⟩
instance : Std.Total PairLe := ⟨fun first second => le_total (toLex first) (toLex second)⟩

structure LabelKey where
  pairs : List (String × String)
  sorted : pairs.Pairwise PairLe
  distinct : (pairs.map Prod.fst).Nodup
deriving DecidableEq

def labelKey (labels : Labels) : LabelKey where
  pairs := labels.entries.insertionSort PairLe
  sorted := List.pairwise_insertionSort PairLe labels.entries
  distinct := ((List.perm_insertionSort PairLe labels.entries).map Prod.fst).nodup_iff.mpr
    labels.distinct

/-- `dict(labels)`. -/
def LabelKey.labels (key : LabelKey) : Labels := ⟨key.pairs,key.distinct⟩

private theorem labelKey_labels (key : LabelKey) : labelKey key.labels = key := by
  obtain ⟨pairs,sorted,distinct⟩ := key
  simp only [labelKey,LabelKey.labels,LabelKey.mk.injEq]
  exact sorted.insertionSort_eq

/-- An upper bound of a bucket: a number or an infinity. -/
abbrev Bound := WithBot (WithTop ℚ)

def Bound.admits (bound : Bound) (value : ℚ) : Bool := ((value : WithTop ℚ) : Bound) ≤ bound

theorem Bound.admits_mono {first second : Bound} (below : first ≤ second) {value : ℚ}
    (admits : first.admits value = true) : second.admits value = true :=
  decide_eq_true ((of_decide_eq_true admits).trans below)

structure Hist where
  bounds : List Bound
  buckets : List Nat
  count : Nat
  sum : ℚ
  aligned : buckets.length = bounds.length

theorem Hist.ext' {first second : Hist} (bounds : first.bounds = second.bounds)
    (buckets : first.buckets = second.buckets) (count : first.count = second.count)
    (sum : first.sum = second.sum) : first = second := by
  cases first
  cases second
  cases bounds
  cases buckets
  cases count
  cases sum
  rfl

instance : DecidableEq Hist := fun first second =>
  decidable_of_iff (first.bounds = second.bounds ∧ first.buckets = second.buckets ∧
      first.count = second.count ∧ first.sum = second.sum)
    ⟨fun same => Hist.ext' same.1 same.2.1 same.2.2.1 same.2.2.2,
      fun same => by rw [same]; exact ⟨rfl,rfl,rfl,rfl⟩⟩

def Hist.new (bounds : List Bound) : Hist := ⟨bounds,List.replicate bounds.length 0,0,0,by simp⟩

def Hist.record (hist : Hist) (value : ℚ) : Hist where
  bounds := hist.bounds
  buckets := List.zipWith (fun bucket bound => if bound.admits value then bucket + 1 else bucket)
    hist.buckets hist.bounds
  count := hist.count + 1
  sum := hist.sum + value
  aligned := by simp [hist.aligned]

structure Registry where
  counters : KeyedTable String LabelKey ℚ
  histograms : KeyedTable String LabelKey Hist

inductive Event
  | inc (name : String) (amount : ℚ) (labels : Labels)
  | observe (name : String) (value : ℚ) (buckets : List Bound) (labels : Labels)

def addAmount (held : Option ℚ) (amount : ℚ) : ℚ := held.getD 0 + amount

def addValue (held : Option Hist) (observation : ℚ × List Bound) : Hist :=
  (held.getD (Hist.new observation.2)).record observation.1

def inc (registry : Registry) (name : String) (amount : ℚ) (labels : Labels) : Registry :=
  { registry with counters := upsert addAmount registry.counters (name,labelKey labels,amount) }

def observe (registry : Registry) (name : String) (value : ℚ) (buckets : List Bound)
    (labels : Labels) : Registry :=
  { registry with
    histograms := upsert addValue registry.histograms (name,labelKey labels,value,buckets) }

def Registry.step (registry : Registry) : Event → Registry
  | .inc name amount labels => inc registry name amount labels
  | .observe name value buckets labels => observe registry name value buckets labels

def recorded (events : List Event) : Registry := events.foldl Registry.step ⟨∅,∅⟩

/-! ### Snapshots -/

structure CounterRow where
  labels : Labels
  value : ℚ

/-- JSON has no infinity: `null` stands for it. -/
structure HistRow where
  labels : Labels
  bounds : List (Option Bound)
  buckets : List Nat
  count : Nat
  sum : ℚ

structure Gauges where
  chatInFlight : Int
  toolPool : Dict String Int

structure Snapshot where
  counters : Dict String (List CounterRow)
  histograms : Dict String (List HistRow)
  gauges : Gauges

def histToJson (labels : Labels) (hist : Hist) : HistRow where
  labels := labels
  bounds := hist.bounds.map (fun bound => if bound = ⊤ then none else some bound)
  buckets := hist.buckets
  count := hist.count
  sum := hist.sum

def histFromJson (row : HistRow) : Option Hist :=
  let bounds := row.bounds.map (fun item => item.getD ⊤)
  if bounds = [] then none
  else if aligned : row.buckets.length = bounds.length then
    some ⟨bounds,row.buckets,row.count,row.sum,aligned⟩
  else none

def rowsBy {Value Row : Type} (row : LabelKey → Value → Row)
    (table : KeyedTable String LabelKey Value) : Dict String (List Row) :=
  table.filterMap (fun _ series => some (series.entries.map (fun entry => row entry.1 entry.2)))

def snapshotPayload (registry : Registry) (gauges : Gauges) : Snapshot where
  counters := rowsBy (fun key value => ⟨key.labels,value⟩) registry.counters
  histograms := rowsBy (fun key hist => histToJson key.labels hist) registry.histograms
  gauges := gauges

/-! ### The merge -/

def addCounter (dest : KeyedTable String LabelKey ℚ) (name : String) (labels : Labels)
    (value : ℚ) : KeyedTable String LabelKey ℚ :=
  upsert addAmount dest (name,labelKey labels,value)

def addHist (held : Option Hist) (hist : Hist) : Hist :=
  match held with
  | none => hist
  | some existing =>
    if same : existing.bounds = hist.bounds then
      ⟨existing.bounds,List.zipWith (· + ·) existing.buckets hist.buckets,
        existing.count + hist.count,existing.sum + hist.sum,
        by simp [existing.aligned,hist.aligned,same]⟩
    else existing

def addHistogram (dest : KeyedTable String LabelKey Hist) (name : String) (labels : Labels)
    (hist : Hist) : KeyedTable String LabelKey Hist :=
  upsert addHist dest (name,labelKey labels,hist)

def toolPoolLabels : List String := ["order","course"]

def mergeToolPoolGauges (dest raw : Dict String Int) : Dict String Int :=
  toolPoolLabels.foldl (fun dest pool => dest.set pool (dest.getD pool 0 + raw.getD pool 0)) dest

structure Merged where
  counters : KeyedTable String LabelKey ℚ
  histograms : KeyedTable String LabelKey Hist
  gauges : Gauges

def emptyMerged : Merged where
  counters := ∅
  histograms := ∅
  gauges := ⟨0,toolPoolLabels.foldl (fun dest pool => dest.set pool 0) ∅⟩

def mergeCounterRows (counters : KeyedTable String LabelKey ℚ)
    (entry : String × List CounterRow) : KeyedTable String LabelKey ℚ :=
  entry.2.foldl (fun dest row => addCounter dest entry.1 row.labels row.value) counters

def mergeHistRows (histograms : KeyedTable String LabelKey Hist)
    (entry : String × List HistRow) : KeyedTable String LabelKey Hist :=
  entry.2.foldl (fun dest row =>
    match histFromJson row with
    | none => dest
    | some hist => addHistogram dest entry.1 row.labels hist) histograms

def mergeSnapshot (merged : Merged) (snapshot : Snapshot) : Merged where
  counters := snapshot.counters.entries.foldl mergeCounterRows merged.counters
  histograms := snapshot.histograms.entries.foldl mergeHistRows merged.histograms
  gauges :=
    { chatInFlight := merged.gauges.chatInFlight + snapshot.gauges.chatInFlight
      toolPool := mergeToolPoolGauges merged.gauges.toolPool snapshot.gauges.toolPool }

def mergeSnapshots (files : List (Option Snapshot)) : Merged :=
  files.reduceOption.foldl mergeSnapshot emptyMerged

/-! ### What a series stands for -/

def Hist.of (bounds : List Bound) (values : List ℚ) : Hist where
  bounds := bounds
  buckets := bounds.map (fun bound => values.countP bound.admits)
  count := values.length
  sum := values.sum
  aligned := List.length_map _

theorem Hist.of_nil (bounds : List Bound) : Hist.of bounds [] = Hist.new bounds :=
  Hist.ext' rfl (by simp [Hist.of,Hist.new,List.map_const']) rfl rfl

theorem Hist.of_record (bounds : List Bound) (values : List ℚ) (value : ℚ) :
    (Hist.of bounds values).record value = Hist.of bounds (values ++ [value]) := by
  apply Hist.ext'
  · rfl
  · show List.zipWith _ (bounds.map _) bounds = bounds.map _
    rw [List.zipWith_map_left,List.zipWith_self]
    apply List.map_congr_left
    intro bound _
    cases admitted : bound.admits value <;> simp [List.countP_append,admitted]
  · simp [Hist.of,Hist.record]
  · simp [Hist.of,Hist.record]

theorem Hist.of_perm (bounds : List Bound) {first second : List ℚ} (same : first.Perm second) :
    Hist.of bounds first = Hist.of bounds second :=
  Hist.ext' rfl (List.map_congr_left (fun bound _ => same.countP_eq bound.admits)) same.length_eq
    same.sum_eq

private theorem addHist_of (bounds : List Bound) (first second : List ℚ) :
    addHist (some (Hist.of bounds first)) (Hist.of bounds second) =
      Hist.of bounds (first ++ second) := by
  have same : (Hist.of bounds first).bounds = (Hist.of bounds second).bounds := rfl
  rw [addHist,dif_pos same]
  apply Hist.ext'
  · rfl
  · show List.zipWith _ (bounds.map _) (bounds.map _) = bounds.map _
    rw [List.zipWith_map,List.zipWith_self]
    exact List.map_congr_left (fun bound _ => (List.countP_append ..).symm)
  · simp [Hist.of]
  · simp [Hist.of]

def total (amounts : List ℚ) : Option ℚ := if amounts = [] then none else some amounts.sum

def summary (bounds : List Bound) (values : List ℚ) : Option Hist :=
  if values = [] then none else some (Hist.of bounds values)

@[simp] theorem total_nil : total [] = none := rfl

theorem total_some {amounts : List ℚ} (present : amounts ≠ []) :
    total amounts = some amounts.sum := if_neg present

@[simp] theorem summary_nil (bounds : List Bound) : summary bounds [] = none := rfl

private theorem summary_some (bounds : List Bound) {values : List ℚ} (present : values ≠ []) :
    summary bounds values = some (Hist.of bounds values) := if_neg present

private theorem foldl_addAmount (before amounts : List ℚ) :
    amounts.foldl (fun held amount => some (addAmount held amount)) (total before) =
      total (before ++ amounts) := by
  induction amounts generalizing before with
  | nil => simp
  | cons amount rest ih =>
    have step : some (addAmount (total before) amount) = total (before ++ [amount]) := by
      by_cases empty : before = [] <;> simp [total,addAmount,empty]
    rw [List.foldl_cons,step,ih]
    simp

theorem foldl_addValue (bounds : List Bound) (before : List ℚ) (values : List ℚ) :
    (values.map (fun value => (value,bounds))).foldl
      (fun held observation => some (addValue held observation)) (summary bounds before) =
      summary bounds (before ++ values) := by
  induction values generalizing before with
  | nil => simp
  | cons value rest ih =>
    have step : some (addValue (summary bounds before) (value,bounds)) =
        summary bounds (before ++ [value]) := by
      by_cases empty : before = []
      · simp [summary,addValue,empty,← Hist.of_nil,Hist.of_record]
      · simp [summary,addValue,empty,Hist.of_record]
    rw [List.map_cons,List.foldl_cons,step,ih]
    simp

private theorem foldl_total (before : List ℚ) (parts : List (List ℚ)) :
    (parts.flatMap (fun part => (total part).toList)).foldl
      (fun held amount => some (addAmount held amount)) (total before) =
      total (before ++ parts.flatten) := by
  induction parts generalizing before with
  | nil => simp
  | cons part rest ih =>
    by_cases empty : part = []
    · rw [empty,List.flatMap_cons,total_nil,Option.toList_none,List.nil_append,ih]
      simp
    · have step : some (addAmount (total before) part.sum) = total (before ++ part) := by
        by_cases first : before = [] <;> simp [total,addAmount,first,empty]
      rw [List.flatMap_cons,total_some empty,Option.toList_some,List.singleton_append,
        List.foldl_cons,step,ih]
      simp

private theorem foldl_summary (bounds : List Bound) (before : List ℚ) (parts : List (List ℚ)) :
    (parts.flatMap (fun part => (summary bounds part).toList)).foldl
      (fun held hist => some (addHist held hist)) (summary bounds before) =
      summary bounds (before ++ parts.flatten) := by
  induction parts generalizing before with
  | nil => simp
  | cons part rest ih =>
    by_cases empty : part = []
    · rw [empty,List.flatMap_cons,summary_nil,Option.toList_none,List.nil_append,ih]
      simp
    · have step : some (addHist (summary bounds before) (Hist.of bounds part)) =
          summary bounds (before ++ part) := by
        by_cases first : before = []
        · simp [summary,addHist,first,empty]
        · simp [summary,addHist_of,first,empty]
      rw [List.flatMap_cons,summary_some bounds empty,Option.toList_some,List.singleton_append,
        List.foldl_cons,step,ih]
      simp

theorem total_perm {first second : List ℚ} (same : first.Perm second) :
    total first = total second := by
  rw [total,total,same.sum_eq]
  by_cases empty : second = []
  · rw [empty] at same ⊢
    rw [same.eq_nil]
  · rw [if_neg empty,if_neg (fun none' => empty (none' ▸ same).nil_eq.symm)]

theorem summary_perm (bounds : List Bound) {first second : List ℚ} (same : first.Perm second) :
    summary bounds first = summary bounds second := by
  rw [summary,summary,Hist.of_perm bounds same]
  by_cases empty : second = []
  · rw [empty] at same ⊢
    rw [same.eq_nil]
  · rw [if_neg empty,if_neg (fun none' => empty (none' ▸ same).nil_eq.symm)]

/-! ### One process -/

def increments (events : List Event) : List (String × LabelKey × ℚ) :=
  events.filterMap (fun event =>
    match event with
    | .inc name amount labels => some (name,labelKey labels,amount)
    | .observe .. => none)

def observations (events : List Event) : List (String × LabelKey × ℚ × List Bound) :=
  events.filterMap (fun event =>
    match event with
    | .inc .. => none
    | .observe name value buckets labels => some (name,labelKey labels,value,buckets))

theorem recorded_from (registry : Registry) (events : List Event) :
    events.foldl Registry.step registry =
      ⟨(increments events).foldl (upsert addAmount) registry.counters,
        (observations events).foldl (upsert addValue) registry.histograms⟩ := by
  induction events generalizing registry with
  | nil => rfl
  | cons event rest ih =>
    rw [List.foldl_cons,ih]
    cases event <;> rfl

def amounts (name : String) (key : LabelKey) (events : List Event) : List ℚ :=
  itemsAt name key (increments events)

def values (name : String) (key : LabelKey) (events : List Event) : List ℚ :=
  (itemsAt name key (observations events)).map Prod.fst

theorem recorded_counters (name : String) (key : LabelKey) (events : List Event) :
    lookup (recorded events).counters name key = total (amounts name key events) := by
  rw [recorded,recorded_from,lookup_foldl]
  exact foldl_addAmount [] (amounts name key events)

/-- Every observation of a metric comes with the same bounds. -/
def Shared (bounds : String → List Bound) (events : List Event) : Prop :=
  ∀ name value buckets labels, Event.observe name value buckets labels ∈ events →
    buckets = bounds name

private theorem observed_shared {bounds : String → List Bound} {events : List Event}
    (shared : Shared bounds events) (name : String) (key : LabelKey) :
    itemsAt name key (observations events) =
      (values name key events).map (fun value => (value,bounds name)) := by
  rw [values,List.map_map]
  refine (List.map_id _).symm.trans (List.map_congr_left ?_)
  intro observation member
  obtain ⟨entry,filed,here⟩ := List.mem_filterMap.mp member
  obtain ⟨event,inside,taken⟩ := List.mem_filterMap.mp filed
  cases event with
  | inc => cases taken
  | observe own value buckets labels =>
    obtain rfl := Option.some.inj taken
    have same := shared own value buckets labels inside
    by_cases at' : own = name ∧ labelKey labels = key
    · simp only [if_pos at',Option.some.injEq] at here
      simp [← here,same,at'.1]
    · simp [if_neg at'] at here

theorem recorded_histograms {bounds : String → List Bound} {events : List Event}
    (shared : Shared bounds events) (name : String) (key : LabelKey) :
    lookup (recorded events).histograms name key =
      summary (bounds name) (values name key events) := by
  rw [recorded,recorded_from,lookup_foldl]
  show (itemsAt name key (observations events)).foldl _ (summary (bounds name) []) = _
  rw [observed_shared shared]
  exact foldl_addValue (bounds name) [] (values name key events)

/-! ### The merge of several -/

def counterRows (snapshot : Snapshot) : List (String × LabelKey × ℚ) :=
  snapshot.counters.entries.flatMap (fun entry =>
    entry.2.map (fun row => (entry.1,labelKey row.labels,row.value)))

def histRows (snapshot : Snapshot) : List (String × LabelKey × Hist) :=
  snapshot.histograms.entries.flatMap (fun entry => entry.2.filterMap (fun row =>
    (histFromJson row).map (fun hist => (entry.1,labelKey row.labels,hist))))

private theorem merged_from (merged : Merged) (snapshots : List Snapshot) :
    (snapshots.foldl mergeSnapshot merged).counters =
        (snapshots.flatMap counterRows).foldl (upsert addAmount) merged.counters ∧
      (snapshots.foldl mergeSnapshot merged).histograms =
        (snapshots.flatMap histRows).foldl (upsert addHist) merged.histograms := by
  induction snapshots generalizing merged with
  | nil => exact ⟨rfl,rfl⟩
  | cons snapshot rest ih =>
    obtain ⟨counters,histograms⟩ := ih (mergeSnapshot merged snapshot)
    refine ⟨?_,?_⟩
    · rw [List.foldl_cons,counters,List.flatMap_cons,List.foldl_append]
      congr 1
      rw [counterRows,List.foldl_flatMap]
      simp only [List.foldl_map]
      rfl
    · rw [List.foldl_cons,histograms,List.flatMap_cons,List.foldl_append]
      congr 1
      rw [histRows,List.foldl_flatMap]
      simp only [List.foldl_filterMap]
      show snapshot.histograms.entries.foldl mergeHistRows merged.histograms = _
      congr 1
      funext dest entry
      rw [mergeHistRows]
      congr 1
      funext dest row
      cases histFromJson row <;> rfl

private theorem entries_rowsBy {Value Row : Type} (row : LabelKey → Value → Row)
    (table : KeyedTable String LabelKey Value) :
    (rowsBy row table).entries = table.entries.map (fun series =>
      (series.1,series.2.entries.map (fun entry => row entry.1 entry.2))) := by
  simp [rowsBy,Dict.filterMap]

private theorem counterRows_snapshot (registry : Registry) (gauges : Gauges) :
    counterRows (snapshotPayload registry gauges) = rows registry.counters := by
  rw [counterRows,snapshotPayload,entries_rowsBy,rows,List.flatMap_map]
  simp [labelKey_labels,Function.comp_def]

private theorem histFromJson_histToJson (labels : Labels) (hist : Hist) :
    histFromJson (histToJson labels hist) = if hist.bounds = [] then none else some hist := by
  have bounds : (hist.bounds.map (fun bound => if bound = ⊤ then none else some bound)).map
      (fun item => item.getD ⊤) = hist.bounds := by
    rw [List.map_map]
    refine (List.map_congr_left (fun bound _ => ?_)).trans (List.map_id _)
    by_cases top : bound = ⊤ <;> simp [top]
  simp only [histFromJson,histToJson,bounds,hist.aligned,dif_pos]

private theorem histRows_snapshot (registry : Registry) (gauges : Gauges) :
    histRows (snapshotPayload registry gauges) =
      (rows registry.histograms).filter (fun row => row.2.2.bounds ≠ []) := by
  rw [histRows,snapshotPayload,entries_rowsBy,rows,List.flatMap_map,List.filter_flatMap]
  congr 1
  funext series
  rw [List.filterMap_map,List.filter_map,← List.filterMap_eq_filter,List.map_filterMap]
  congr 1
  funext entry
  show (histFromJson (histToJson entry.1.labels entry.2)).map
      (fun hist => (series.1,labelKey entry.1.labels,hist)) = _
  rw [histFromJson_histToJson,labelKey_labels]
  by_cases empty : entry.2.bounds = [] <;> simp [empty,Option.guard]

section

variable {Worker : Type} [DecidableEq Worker]

def own (worker : Worker) (events : List (Worker × Event)) : List Event :=
  (events.filter (fun event => event.1 = worker)).map Prod.snd

/-- The snapshots of the workers, in the order their files are read. -/
def files (gauges : Worker → Gauges) (events : List (Worker × Event)) (order : List Worker) :
    List (Option Snapshot) :=
  order.map (fun worker => some (snapshotPayload (recorded (own worker events)) (gauges worker)))

private theorem own_perm {events : List (Worker × Event)} {order : List Worker} (each : order.Nodup)
    (covers : ∀ event ∈ events, event.1 ∈ order) :
    (order.flatMap (fun worker => own worker events)).Perm (events.map Prod.snd) := by
  have dealt := (dealt_perm events order each).map Prod.snd
  have all : events.filter (fun event => event.1 ∈ order) = events :=
    List.filter_eq_self.mpr (fun event member => by simpa using covers event member)
  rw [all,List.map_flatMap] at dealt
  exact dealt

theorem amounts_flatMap (name : String) (key : LabelKey) (events : List (Worker × Event))
    (order : List Worker) :
    amounts name key (order.flatMap (fun worker => own worker events)) =
      order.flatMap (fun worker => amounts name key (own worker events)) := by
  rw [amounts,increments,List.filterMap_flatMap,itemsAt_flatMap]
  rfl

theorem values_flatMap (name : String) (key : LabelKey) (events : List (Worker × Event))
    (order : List Worker) :
    values name key (order.flatMap (fun worker => own worker events)) =
      order.flatMap (fun worker => values name key (own worker events)) := by
  rw [values,observations,List.filterMap_flatMap,itemsAt_flatMap,List.map_flatMap]
  rfl

theorem amounts_perm (name : String) (key : LabelKey) {first second : List Event}
    (same : first.Perm second) : (amounts name key first).Perm (amounts name key second) :=
  (same.filterMap _).filterMap _

theorem values_perm (name : String) (key : LabelKey) {first second : List Event}
    (same : first.Perm second) : (values name key first).Perm (values name key second) :=
  ((same.filterMap _).filterMap _).map Prod.fst

private theorem merged_files (gauges : Worker → Gauges) (events : List (Worker × Event))
    (order : List Worker) :
    (mergeSnapshots (files gauges events order)).counters =
        (order.flatMap (fun worker => rows (recorded (own worker events)).counters)).foldl
          (upsert addAmount) ∅ ∧
      (mergeSnapshots (files gauges events order)).histograms =
        (order.flatMap (fun worker => (rows (recorded (own worker events)).histograms).filter
          (fun row => row.2.2.bounds ≠ []))).foldl (upsert addHist) ∅ := by
  have read : (files gauges events order).reduceOption = order.map (fun worker =>
      snapshotPayload (recorded (own worker events)) (gauges worker)) := by
    unfold files
    change (order.map _).filterMap id = _
    rw [List.filterMap_map]
    exact congrFun List.filterMap_eq_map order
  have merged := merged_from emptyMerged (files gauges events order).reduceOption
  rw [read] at merged
  simp only [List.flatMap_map,counterRows_snapshot,histRows_snapshot] at merged
  rw [mergeSnapshots,read]
  exact merged

theorem merged_counters (gauges : Worker → Gauges) (events : List (Worker × Event))
    (order : List Worker) (name : String) (key : LabelKey) :
    lookup (mergeSnapshots (files gauges events order)).counters name key =
      total (order.flatMap (fun worker => amounts name key (own worker events))) := by
  rw [(merged_files gauges events order).1,lookup_foldl,itemsAt_flatMap]
  simp only [itemsAt_rows,recorded_counters]
  have parts := foldl_total [] (order.map (fun worker => amounts name key (own worker events)))
  rw [List.flatMap_map,List.nil_append] at parts
  exact parts

theorem Shared.own {bounds : String → List Bound} {events : List (Worker × Event)}
    (shared : Shared bounds (events.map Prod.snd)) (worker : Worker) :
    Shared bounds (own worker events) := fun name value buckets labels member =>
  shared name value buckets labels ((List.filter_sublist.map Prod.snd).subset member)

theorem merged_histograms (gauges : Worker → Gauges) (events : List (Worker × Event))
    (order : List Worker) {bounds : String → List Bound}
    (shared : Shared bounds (events.map Prod.snd)) (name : String) (bounded : bounds name ≠ [])
    (key : LabelKey) :
    lookup (mergeSnapshots (files gauges events order)).histograms name key =
      summary (bounds name) (order.flatMap (fun worker => values name key (own worker events))) := by
  have kept (worker : Worker) : ((lookup (recorded (own worker events)).histograms name key).toList).filter
      (fun hist => hist.bounds ≠ []) =
      (summary (bounds name) (values name key (own worker events))).toList := by
    rw [recorded_histograms (shared.own worker)]
    by_cases empty : values name key (own worker events) = []
    · simp [empty]
    · simp [summary_some _ empty,Hist.of,bounded]
  rw [(merged_files gauges events order).2,lookup_foldl,itemsAt_flatMap]
  simp only [itemsAt_filter (fun hist : Hist => hist.bounds ≠ []),itemsAt_rows,kept]
  have parts := foldl_summary (bounds name) []
    (order.map (fun worker => values name key (own worker events)))
  rw [List.flatMap_map,List.nil_append] at parts
  exact parts

end

/-! ### Buckets -/

def Hist.Increasing (hist : Hist) : Prop :=
  hist.bounds.Pairwise (· ≤ ·) ∧ hist.bounds.getLast? = some ⊤

def Hist.Cumulative (hist : Hist) : Prop :=
  hist.buckets.Pairwise (· ≤ ·) ∧ hist.buckets.getLast? = some hist.count

def Hist.Sound (hist : Hist) : Prop := ∃ values, hist = Hist.of hist.bounds values

theorem Hist.Sound.cumulative {hist : Hist} (sound : hist.Sound) (increasing : hist.Increasing) :
    hist.Cumulative := by
  obtain ⟨values,same⟩ := sound
  obtain ⟨sorted,last⟩ := increasing
  rw [same]
  refine ⟨List.pairwise_map.mpr (sorted.imp ?_),?_⟩
  · intro first second below
    exact List.countP_mono_left (fun value _ admits => Bound.admits_mono below admits)
  · have all : values.countP (Bound.admits ⊤) = values.length :=
      List.countP_eq_length.mpr (fun value _ => decide_eq_true le_top)
    show (hist.bounds.map _).getLast? = _
    rw [List.getLast?_map,last,Option.map_some,all]
    rfl

theorem Hist.Sound.record {hist : Hist} (sound : hist.Sound) (value : ℚ) :
    (hist.record value).Sound := by
  obtain ⟨values,same⟩ := sound
  refine ⟨values ++ [value],?_⟩
  rw [← Hist.of_record]
  exact congrArg (Hist.record · value) same

private theorem addHist_sound {first second : Hist} (one : first.Sound) (two : second.Sound) :
    (addHist (some first) second).Sound := by
  by_cases same : first.bounds = second.bounds
  · obtain ⟨values,eq⟩ := one
    obtain ⟨more,eq'⟩ := two
    rw [eq,eq',← same,addHist_of]
    exact ⟨_,rfl⟩
  · simp only [addHist,dif_neg same]
    exact one

private theorem recorded_sound (events : List Event) {name : String} {key : LabelKey} {hist : Hist}
    (found : lookup (recorded events).histograms name key = some hist) : hist.Sound := by
  rw [recorded,recorded_from] at found
  refine forall_lookup_foldl (fun _ => True) ?_ ?_ (observations events)
    (fun _ _ => trivial) ∅ (by simp [lookup]) name key hist found
  · intro item _
    refine ⟨[item.1],?_⟩
    rw [← List.nil_append [item.1],← Hist.of_record,Hist.of_nil]
    rfl
  · intro held item sound _
    exact sound.record item.1

private theorem merged_sound {Worker : Type} [DecidableEq Worker] (gauges : Worker → Gauges)
    (events : List (Worker × Event)) (order : List Worker) {name : String} {key : LabelKey}
    {hist : Hist}
    (found : lookup (mergeSnapshots (files gauges events order)).histograms name key = some hist) :
    hist.Sound := by
  rw [(merged_files gauges events order).2] at found
  refine forall_lookup_foldl Hist.Sound (fun _ sound => sound)
    (fun _ _ => addHist_sound) _ ?_ ∅ (by simp [lookup]) name key hist found
  intro row member
  obtain ⟨worker,_,inside⟩ := List.mem_flatMap.mp member
  obtain ⟨series,held,entry⟩ := List.mem_flatMap.mp (List.mem_filter.mp inside).1
  obtain ⟨item,stored,rfl⟩ := List.mem_map.mp entry
  have there : lookup (recorded (own worker events)).histograms series.1 item.1 = some item.2 := by
    rw [lookup,(Dict.get?_eq_some _ _ _).mpr held]
    exact (Dict.get?_eq_some _ _ _).mpr stored
  exact recorded_sound (own worker events) there

/-- Merging the snapshots of the workers, in any order of the files, gives what one
process with all the calls has, and every histogram is cumulative. -/
theorem merge_is_homomorphism {Worker : Type} [DecidableEq Worker] (gauges : Worker → Gauges)
    (events : List (Worker × Event)) (order : List Worker) :
    (order.Nodup → (∀ event ∈ events, event.1 ∈ order) →
      (∀ name key, lookup (mergeSnapshots (files gauges events order)).counters name key =
        lookup (recorded (events.map Prod.snd)).counters name key) ∧
      ∀ bounds, Shared bounds (events.map Prod.snd) → ∀ name, bounds name ≠ [] → ∀ key,
        lookup (mergeSnapshots (files gauges events order)).histograms name key =
          lookup (recorded (events.map Prod.snd)).histograms name key) ∧
    ∀ name key hist,
      lookup (recorded (events.map Prod.snd)).histograms name key = some hist ∨
        lookup (mergeSnapshots (files gauges events order)).histograms name key = some hist →
      hist.Increasing → hist.Cumulative := by
  refine ⟨fun each covers => ⟨?_,?_⟩,?_⟩
  · intro name key
    rw [merged_counters,recorded_counters,← amounts_flatMap]
    exact total_perm (amounts_perm name key (own_perm each covers))
  · intro bounds shared name bounded key
    rw [merged_histograms gauges events order shared name bounded,recorded_histograms shared,
      ← values_flatMap]
    exact summary_perm (bounds name) (values_perm name key (own_perm each covers))
  · intro name key hist found increasing
    cases found with
    | inl live => exact (recorded_sound _ live).cumulative increasing
    | inr merged => exact (merged_sound gauges events order merged).cumulative increasing

def idle : Gauges := ⟨0,∅⟩

def upToOne : List Bound := [((1 : ℚ) : WithTop ℚ),⊤]

def twoWorkers : List (Nat × Event) :=
  [(0,.inc "calls" 2 ∅),(1,.observe "seconds" 1 upToOne ∅),(0,.observe "seconds" 2 upToOne ∅),
    (1,.inc "calls" 3 ∅)]

theorem merge_is_homomorphism_two_workers :
    lookup (mergeSnapshots (files (fun _ => idle) twoWorkers [1,0])).counters "calls" (labelKey ∅) =
        some 5 ∧
      lookup (mergeSnapshots (files (fun _ => idle) twoWorkers [1,0])).histograms "seconds"
        (labelKey ∅) = some (Hist.of upToOne [1,2]) := by
  obtain ⟨counters,histograms⟩ := (merge_is_homomorphism (fun _ => idle) twoWorkers [1,0]).1
    (by decide) (by decide)
  refine ⟨(counters "calls" (labelKey ∅)).trans (by decide +kernel),?_⟩
  refine (histograms (fun _ => upToOne) ?_ "seconds" (by decide) (labelKey ∅)).trans (by decide +kernel)
  intro name value buckets labels member
  simp [twoWorkers] at member
  rcases member with same | same <;> simp [same]

/-- A histogram without buckets is left out of the merge. -/
theorem unbounded_series_dropped :
    Shared (fun _ => []) ([((0 : Nat),Event.observe "seconds" 1 [] ∅)].map Prod.snd) ∧
      lookup (recorded [Event.observe "seconds" 1 [] ∅]).histograms "seconds" (labelKey ∅) =
        some (Hist.of [] [1]) ∧
      lookup (mergeSnapshots (files (fun _ => idle) [((0 : Nat),Event.observe "seconds" 1 [] ∅)]
        [0])).histograms "seconds" (labelKey ∅) = none := by
  refine ⟨?_,by decide +kernel,by decide +kernel⟩
  intro name value buckets labels member
  simp at member
  exact member.2.2.1

end CustomerService.Metrics
