import CustomerService.Exposition
import CustomerService.Metrics
import Mathlib.Data.Int.Log
import Mathlib.Data.List.Lex
import Mathlib.Data.Rat.Floor

/-! The exported text of the metrics: whatever the label values are, a scraper reads the samples it was written
for. -/
namespace CustomerService.MetricRender

open Text Metrics Exposition

/-! Numbers as the format specifications write them. -/

/-- `round`, half to even, of a number that is not negative. -/
def roundEven (value : ℚ) : Nat :=
  let low := ⌊value⌋₊
  if 1 / 2 < value - low ∨ (value - low = 1 / 2 ∧ low % 2 = 1) then low + 1 else low

def sign (value : ℚ) : Text := if value < 0 then ['-'] else []

def digits (number : Nat) : Text := Nat.toDigits 10 number

def intText (number : Int) : Text := (if number < 0 then ['-'] else []) ++ digits number.natAbs

def padded (width number : Nat) : Text :=
  List.replicate (width - (digits number).length) '0' ++ digits number

/-- `f"{value:.6f}"`. -/
def fixed (value : ℚ) : Text :=
  let scaled := roundEven (|value| * 10 ^ 6)
  sign value ++ digits (scaled / 10 ^ 6) ++ '.'::padded 6 (scaled % 10 ^ 6)

def trimmed (whole fraction : Text) : Text :=
  let rest := (fraction.reverse.dropWhile (· == '0')).reverse
  if rest = [] then whole else whole ++ '.'::rest

/-- `f"{value:g}"`. -/
def general (value : ℚ) : Text :=
  if value = 0 then ['0']
  else
    let first := Int.log 10 |value|
    let rounded := roundEven (|value| / (10 : ℚ) ^ (first - 5))
    let exponent := if rounded = 10 ^ 6 then first + 1 else first
    let significant := digits (if rounded = 10 ^ 6 then 10 ^ 5 else rounded)
    if exponent < -4 ∨ 6 ≤ exponent then
      sign value ++ trimmed (significant.take 1) (significant.drop 1) ++
        'e'::(if exponent < 0 then '-' else '+')::padded 2 exponent.natAbs
    else if 0 ≤ exponent then
      sign value ++ trimmed (significant.take (exponent.toNat + 1)) (significant.drop (exponent.toNat + 1))
    else sign value ++ trimmed ['0'] (List.replicate (-exponent - 1).toNat '0' ++ significant)

example : [general (1 / 20),general (5 / 2),general 30,general 2500000,general (1 / 100000)] =
    ["0.05".toList,"2.5".toList,"30".toList,"2.5e+06".toList,"1e-05".toList] := by decide +kernel

def formatCounterValue (value : ℚ) : Text :=
  let rounded : Int := if value < 0 then -roundEven |value| else roundEven |value|
  if |value - rounded| < 1 / 10 ^ 9 then intText rounded else fixed value

def boundText (bound : Bound) : Text :=
  if bound = ⊤ then "+Inf".toList
  else match bound with
    | some (some value) => general value
    | _ => "-inf".toList

/-! The lines. -/

def replaceChar (old : Char) (new text : Text) : Text :=
  text.flatMap (fun char => if char = old then new else [char])

def esc (value : Text) : Text :=
  replaceChar '"' ['\\','"'] (replaceChar '\n' ['\\','n'] (replaceChar '\\' ['\\','\\'] value))

def formatLabels (labels : LabelKey) : Text :=
  if labels.pairs = [] then []
  else '{'::(join [','] (labels.pairs.map (fun label =>
    label.1.toList ++ '=' :: '"'::(esc label.2.toList ++ ['"']))) ++ ['}'])

def metricHelp : List (String × String) :=
  [("cs_http_requests_total","HTTP 请求数"),
    ("cs_http_duration_seconds","HTTP 处理耗时（SSE 为到首包，非首 token）"),
    ("cs_chat_requests_total","对话轮次数"),
    ("cs_chat_duration_seconds","整轮对话图耗时"),
    ("cs_chat_busy_total","对话并发打满次数（HTTP 429；reason=cluster|tenant）"),
    ("cs_session_busy_total","同一会话锁冲突次数（HTTP 409）"),
    ("cs_llm_requests_total","LLM Gateway 调用次数"),
    ("cs_llm_tokens_total","LLM token 累计（按 direction=prompt|completion 分列）"),
    ("cs_llm_cost_yuan_total","LLM 估算成本累计（元，按配置单价）"),
    ("cs_llm_duration_seconds","LLM 调用耗时"),
    ("cs_llm_errors_total","LLM 调用失败次数"),
    ("cs_llm_circuit_total","LLM 熔断事件（event=open|reject）"),
    ("cs_rag_empty_total","课程检索空召回次数（含低分拒答）"),
    ("cs_rag_route_upgrade_total","RAG 空召回且问句含订单信号、升级到 ReACT 的次数"),
    ("cs_order_access_deny_total","订单权限拒绝次数（按原因+上下文+租户分桶）"),
    ("cs_tool_calls_total","工具调用次数（按 tool+outcome；order_query / course_retrieve；outcome=ok|not_found|deny|timeout|busy|error）"),
    ("cs_tool_pool_rejected_total","工具线程池背压拒绝次数（pool=order|course）"),
    ("cs_tool_pool_queue_seconds","工具线程池 submit 前的排队等待耗时（pool=order|course）"),
    ("cs_tool_pool_in_flight","工具线程池当前占用 + 排队槽数（pool=order|course）"),
    ("cs_agent_runaway_total","Agent 跑飞次数（high_llm_calls / react_limit）"),
    ("cs_chat_in_flight","当前占用的对话并发槽（有 Redis 时为集群合计）"),
    ("cs_node_duration_seconds","LangGraph 节点耗时"),
    ("cs_ttft_seconds","对话开始到首条 SSE token 的等待"),
    ("cs_llm_calls_per_turn","每轮对话 LLM 调用次数（含 cache hit）"),
    ("cs_react_limit_hit_total","ReACT 工具调用撞 run_limit 次数"),
    ("cs_tool_cache_hit_total","工具失败缓存回退次数（tool+source=session|redis）"),
    ("cs_tool_escalation_total","工具失败自动转人工次数（reason=transient_exhausted|react_limit）"),
    ("cs_user_feedback_total","用户赞踩次数（value=up|down）")]

def helpLine (name : String) : Text :=
  "# HELP ".toList ++ name.toList ++ ' '::((metricHelp.lookup name).getD name).toList

def typeLine (name kind : String) : Text := "# TYPE ".toList ++ name.toList ++ ' '::kind.toList

def KeyLe (first second : LabelKey) : Prop := first.pairs.map toLex ≤ second.pairs.map toLex

instance : DecidableRel KeyLe := fun first second =>
  inferInstanceAs (Decidable (first.pairs.map toLex ≤ second.pairs.map toLex))

/-- `sorted(series.items())`; no two keys are equal. -/
def sortedSeries {Value : Type} (series : Dict LabelKey Value) : List (LabelKey × Value) :=
  series.entries.insertionSort (fun first second => KeyLe first.1 second.1)

def counterLines (name : String) (series : Dict LabelKey ℚ) : List Text :=
  [helpLine name,typeLine name "counter"] ++ (sortedSeries series).map (fun entry =>
    name.toList ++ (formatLabels entry.1 ++ ' '::formatCounterValue entry.2))

def bucketLabels (labels : LabelKey) (bound : Bound) : LabelKey :=
  labelKey (labels.labels.set "le" (String.ofList (boundText bound)))

def histLines (name : String) (series : Dict LabelKey Hist) : List Text :=
  [helpLine name,typeLine name "histogram"] ++ (sortedSeries series).flatMap (fun entry =>
    (entry.2.bounds.zip entry.2.buckets).map (fun bucket =>
      name.toList ++ "_bucket".toList ++ (formatLabels (bucketLabels entry.1 bucket.1) ++ ' '::digits bucket.2)) ++
    [name.toList ++ "_sum".toList ++ (formatLabels entry.1 ++ ' '::fixed entry.2.sum),
      name.toList ++ "_count".toList ++ (formatLabels entry.1 ++ ' '::digits entry.2.count)])

def sortedToolPools : List String := toolPoolLabels.insertionSort (· ≤ ·)

def toolPoolGaugeLines (counts : Dict String Int) : List Text :=
  [helpLine "cs_tool_pool_in_flight",typeLine "cs_tool_pool_in_flight" "gauge"] ++
    sortedToolPools.map (fun pool => "cs_tool_pool_in_flight\x7bpool=\"".toList ++ pool.toList ++ "\"\x7d ".toList ++
      intText (counts.getD pool 0))

def sortedNames {Value : Type} (table : Dict String Value) : List String := table.keys.insertionSort (· ≤ ·)

def renderPrometheus (counters : KeyedTable String LabelKey ℚ) (histograms : KeyedTable String LabelKey Hist)
    (gauges : Gauges) : Text :=
  join ['\n'] ((sortedNames counters).flatMap (fun name => counterLines name (counters.getD name ∅)) ++
    (sortedNames histograms).flatMap (fun name => histLines name (histograms.getD name ∅)) ++
    [helpLine "cs_chat_in_flight",typeLine "cs_chat_in_flight" "gauge",
      "cs_chat_in_flight ".toList ++ intText gauges.chatInFlight] ++
    toolPoolGaugeLines gauges.toolPool ++ [[]])

/-! What the lines are written for. -/

def texts (labels : LabelKey) : List (Text × Text) :=
  labels.pairs.map (fun label => (label.1.toList,label.2.toList))

def counterSamples (name : String) (series : Dict LabelKey ℚ) : List Sample :=
  (sortedSeries series).map (fun entry => ⟨name.toList,texts entry.1,formatCounterValue entry.2⟩)

def histSamples (name : String) (series : Dict LabelKey Hist) : List Sample :=
  (sortedSeries series).flatMap (fun entry =>
    (entry.2.bounds.zip entry.2.buckets).map (fun bucket =>
      ⟨name.toList ++ "_bucket".toList,texts (bucketLabels entry.1 bucket.1),digits bucket.2⟩) ++
    [⟨name.toList ++ "_sum".toList,texts entry.1,fixed entry.2.sum⟩,
      ⟨name.toList ++ "_count".toList,texts entry.1,digits entry.2.count⟩])

def gaugeSamples (gauges : Gauges) : List Sample :=
  ⟨"cs_chat_in_flight".toList,[],intText gauges.chatInFlight⟩::sortedToolPools.map (fun pool =>
    ⟨"cs_tool_pool_in_flight".toList,[("pool".toList,pool.toList)],intText (gauges.toolPool.getD pool 0)⟩)

def samples (counters : KeyedTable String LabelKey ℚ) (histograms : KeyedTable String LabelKey Hist)
    (gauges : Gauges) : List Sample :=
  (sortedNames counters).flatMap (fun name => counterSamples name (counters.getD name ∅)) ++
    (sortedNames histograms).flatMap (fun name => histSamples name (histograms.getD name ∅)) ++
    gaugeSamples gauges

/-- The names of the labels are label names; the values are any strings. -/
def Named (labels : LabelKey) : Prop := ∀ label ∈ labels.pairs, labelName label.1.toList = true

/-- So it is in a table, whose own names are metric names. -/
def NamedTable {Value : Type} (table : KeyedTable String LabelKey Value) : Prop :=
  ∀ name series, table.get? name = some series → metricName name.toList = true ∧
    ∀ labels value, series.get? labels = some value → Named labels

/-! The escapes. -/

private theorem esc_eq (value : Text) : esc value = escape value := by
  unfold esc replaceChar
  rw [List.flatMap_assoc,List.flatMap_assoc]
  refine List.flatMap_congr (fun char _ => ?_)
  unfold escapeChar
  split_ifs with slash line quote
  · rfl
  · simp [line]
  · simp [quote]
  · simp [line,quote]

private theorem formatLabels_eq (labels : LabelKey) : formatLabels labels = writeLabels (texts labels) := by
  unfold formatLabels writeLabels texts
  by_cases none' : labels.pairs = []
  · simp [none']
  · simp only [none',List.map_eq_nil_iff,if_false,List.map_map]
    refine congrArg (fun parts => '{'::(join [','] parts ++ ['}'])) (List.map_congr_left (fun label _ => ?_))
    rw [esc_eq]
    rfl

/-! The numbers. -/

def Clean (text : Text) : Prop := ∀ char ∈ text, char ≠ ' ' ∧ char ≠ '\n'

theorem Clean.append {first second : Text} (one : Clean first) (two : Clean second) : Clean (first ++ second) :=
  List.forall_mem_append.mpr ⟨one,two⟩

theorem Clean.plain {text : Text} (clean : Clean text) (some' : text ≠ []) : plainValue text = true := by
  have every : text.all (fun char => char ≠ ' ' ∧ char ≠ '\n') = true :=
    List.all_eq_true.mpr (fun char inside => decide_eq_true (clean char inside))
  rw [plainValue,every]
  simpa using some'

private theorem clean_digits (number : Nat) : Clean (digits number) := by
  intro char inside
  have digit := Nat.isDigit_of_mem_toDigits (by decide) (by decide) inside
  constructor <;> intro same <;> subst same <;> exact absurd digit (by decide)

private theorem clean_fixed (value : ℚ) : Clean (fixed value) := by
  have zeros (width : Nat) : Clean (List.replicate width '0') := by
    intro char inside
    rw [List.eq_of_mem_replicate inside]
    decide
  have signed : Clean (sign value) := by
    unfold sign
    split_ifs
    · exact List.forall_mem_singleton.mpr (by decide)
    · exact List.forall_mem_nil _
  have point {text : Text} (clean : Clean text) : Clean ('.'::text) :=
    List.forall_mem_cons.mpr ⟨by decide,clean⟩
  exact (signed.append (clean_digits _)).append (point ((zeros _).append (clean_digits _)))

private theorem plain_digits (number : Nat) : plainValue (digits number) = true :=
  (clean_digits number).plain Nat.toDigits_ne_nil

theorem plain_fixed (value : ℚ) : plainValue (fixed value) = true := (clean_fixed value).plain (by simp [fixed])

private theorem plain_intText (number : Int) : plainValue (intText number) = true := by
  have some' : digits number.natAbs ≠ [] := Nat.toDigits_ne_nil
  refine Clean.plain (Clean.append ?_ (clean_digits _)) (by simp [intText,some'])
  split_ifs
  · exact List.forall_mem_singleton.mpr (by decide)
  · exact List.forall_mem_nil _

private theorem plain_counterValue (value : ℚ) : plainValue (formatCounterValue value) = true := by
  unfold formatCounterValue
  generalize (if value < 0 then -(roundEven |value| : Int) else roundEven |value|) = rounded
  dsimp only
  split_ifs
  · exact plain_intText _
  · exact plain_fixed _

/-! The lines. -/

private theorem newline_metricName {name : Text} (named : metricName name = true) : '\n' ∉ name :=
  newline_name (by decide) (Bool.and_eq_true_iff.mp named).2

private theorem single_ofList {chars : Text} (single : '\n' ∉ chars) : '\n' ∉ (String.ofList chars).toList := by
  rwa [String.toList_ofList]

private theorem single_help : ∀ entry ∈ metricHelp, '\n' ∉ entry.2.toList := by
  unfold metricHelp
  repeat refine List.forall_mem_cons.mpr ⟨single_ofList (by decide +kernel),?_⟩
  exact List.forall_mem_nil _

private theorem written_head {name : String} (named : metricName name.toList = true) (kind : String)
    (single : '\n' ∉ kind.toList) : Written [helpLine name,typeLine name kind] [] := by
  have plain := newline_metricName named
  have help : '\n' ∉ ((metricHelp.lookup name).getD name).toList := by
    cases found : metricHelp.lookup name with
    | none => exact plain
    | some text =>
      obtain ⟨before,after,split,_⟩ := List.lookup_eq_some_iff.mp found
      exact single_help (name,text) (by simp [split])
  have starts : '\n' ∉ "# HELP ".toList ∧ '\n' ∉ "# TYPE ".toList ∧ '\n' ≠ ' ' := by decide +kernel
  have first : Written [helpLine name] [] := by
    refine .comment rfl ?_
    unfold helpLine
    generalize ((metricHelp.lookup name).getD name).toList = text at help
    simp only [List.mem_append,List.mem_cons,not_or]
    exact ⟨⟨starts.1,plain⟩,starts.2.2,help⟩
  have second : Written [typeLine name kind] [] := by
    refine .comment rfl ?_
    unfold typeLine
    simp only [List.mem_append,List.mem_cons,not_or]
    exact ⟨⟨starts.2.1,plain⟩,starts.2.2,single⟩
  exact first.append second

private theorem named_texts {labels : LabelKey} (named : Named labels) :
    ∀ label ∈ texts labels, labelName label.1 = true := by
  intro label listed
  obtain ⟨pair,member,rfl⟩ := List.mem_map.mp listed
  exact named pair member

private theorem written_line {name value : Text} {labels : LabelKey} (metric : metricName name = true)
    (named : Named labels) (plain : plainValue value = true) :
    Written [name ++ (formatLabels labels ++ ' '::value)] [⟨name,texts labels,value⟩] := by
  rw [formatLabels_eq]
  exact @Written.sample ⟨name,texts labels,value⟩ ⟨metric,named_texts named,plain⟩

private theorem mem_sortedSeries {Value : Type} {series : Dict LabelKey Value} {entry : LabelKey × Value}
    (listed : entry ∈ sortedSeries series) : series.get? entry.1 = some entry.2 :=
  (Dict.get?_eq_some _ _ _).mpr ((List.perm_insertionSort _ _).mem_iff.mp listed)

section
variable {name : String} (metric : metricName name.toList = true)
include metric

private theorem metricName_append {more : Text} (inside : more.all metricChar = true) :
    metricName (name.toList ++ more) = true := by
  obtain ⟨first,rest⟩ := Bool.and_eq_true_iff.mp metric
  refine Bool.and_eq_true_iff.mpr ⟨?_,by rw [List.all_append,rest,inside]; rfl⟩
  cases named : name.toList with
  | nil =>
    rw [named] at first
    cases first
  | cons char others =>
    rw [named] at first
    exact first

private theorem written_counter {series : Dict LabelKey ℚ}
    (named : ∀ labels value, series.get? labels = some value → Named labels) :
    Written (counterLines name series) (counterSamples name series) := by
  refine (written_head metric "counter" (by decide)).append (.map (fun entry listed => ?_))
  exact written_line metric (named _ _ (mem_sortedSeries listed)) (plain_counterValue _)

omit metric in
theorem named_bucketLabels {labels : LabelKey} (named : Named labels) (bound : Bound) :
    Named (bucketLabels labels bound) := by
  intro label listed
  have member : label ∈ (labels.labels.set "le" (String.ofList (boundText bound))).entries :=
    (List.perm_insertionSort _ _).mem_iff.mp listed
  have found := (Dict.get?_eq_some _ label.1 label.2).mpr member
  rw [Dict.get?_set] at found
  split_ifs at found with same
  · rw [same]
    decide
  · exact named label ((Dict.get?_eq_some _ _ _).mp found)

private theorem written_hist {series : Dict LabelKey Hist}
    (named : ∀ labels value, series.get? labels = some value → Named labels) :
    Written (histLines name series) (histSamples name series) := by
  refine (written_head metric "histogram" (by decide)).append (.flatMap (fun entry listed => ?_))
  have own := named _ _ (mem_sortedSeries listed)
  have total := written_line (metricName_append metric (show "_sum".toList.all metricChar = true by decide))
    own (plain_fixed entry.2.sum)
  have count := written_line (metricName_append metric (show "_count".toList.all metricChar = true by decide))
    own (plain_digits entry.2.count)
  refine Written.append (.map (fun bucket _ => ?_)) (total.append count)
  exact written_line (metricName_append metric (by decide)) (named_bucketLabels own _) (plain_digits _)

end

private theorem written_gauges (gauges : Gauges) :
    Written ([helpLine "cs_chat_in_flight",typeLine "cs_chat_in_flight" "gauge",
        "cs_chat_in_flight ".toList ++ intText gauges.chatInFlight] ++ toolPoolGaugeLines gauges.toolPool)
      (gaugeSamples gauges) := by
  have none' : writeLabels [] = [] := rfl
  have chat : "cs_chat_in_flight ".toList ++ intText gauges.chatInFlight =
      writeLine ⟨"cs_chat_in_flight".toList,[],intText gauges.chatInFlight⟩ := by
    have split : "cs_chat_in_flight ".toList = "cs_chat_in_flight".toList ++ [' '] := by decide
    rw [writeLine,none',split]
    rfl
  have pools : ∀ pool ∈ sortedToolPools, "cs_tool_pool_in_flight\x7bpool=\"".toList ++ pool.toList ++ "\"\x7d ".toList =
      "cs_tool_pool_in_flight".toList ++ (writeLabels [("pool".toList,pool.toList)] ++ [' ']) := by
    decide
  have first : Written ["cs_chat_in_flight ".toList ++ intText gauges.chatInFlight]
      [⟨"cs_chat_in_flight".toList,[],intText gauges.chatInFlight⟩] := by
    rw [chat]
    exact .sample ⟨show metricName "cs_chat_in_flight".toList = true by decide,
      fun _ listed => (by cases listed),plain_intText _⟩
  have rest : Written (sortedToolPools.map (fun pool => "cs_tool_pool_in_flight\x7bpool=\"".toList ++ pool.toList ++
      "\"\x7d ".toList ++ intText (gauges.toolPool.getD pool 0))) (sortedToolPools.map (fun pool =>
        ⟨"cs_tool_pool_in_flight".toList,[("pool".toList,pool.toList)],
          intText (gauges.toolPool.getD pool 0)⟩)) := by
    refine .map (fun pool listed => ?_)
    rw [pools pool listed]
    have line : "cs_tool_pool_in_flight".toList ++ (writeLabels [("pool".toList,pool.toList)] ++ [' ']) ++
        intText (gauges.toolPool.getD pool 0) = writeLine ⟨"cs_tool_pool_in_flight".toList,
          [("pool".toList,pool.toList)],intText (gauges.toolPool.getD pool 0)⟩ := by
      simp [writeLine]
    rw [line]
    refine .sample ⟨show metricName "cs_tool_pool_in_flight".toList = true by decide,fun label own => ?_,
      plain_intText _⟩
    rw [List.mem_singleton.mp own]
    exact show labelName "pool".toList = true by decide
  exact ((written_head (by decide) "gauge" (by decide)).append first).append
    ((written_head (by decide) "gauge" (by decide)).append rest)

private theorem written_table {Value : Type} {table : KeyedTable String LabelKey Value} (named : NamedTable table)
    {lines : String → Dict LabelKey Value → List Text} {samples : String → Dict LabelKey Value → List Sample}
    (each : ∀ name series, metricName name.toList = true →
      (∀ labels value, series.get? labels = some value → Named labels) →
        Written (lines name series) (samples name series)) :
    Written ((sortedNames table).flatMap (fun name => lines name (table.getD name ∅)))
      ((sortedNames table).flatMap (fun name => samples name (table.getD name ∅))) := by
  refine .flatMap (fun name listed => ?_)
  have key : name ∈ table.keys := (List.perm_insertionSort _ _).mem_iff.mp listed
  obtain ⟨series,found⟩ := Option.isSome_iff_exists.mp ((Dict.get?_isSome table name).mpr key)
  rw [Dict.getD_of_some found]
  exact each name series (named name series found).1 (named name series found).2

theorem texts_injective {first second : LabelKey} (same : texts first = texts second) : first = second := by
  obtain ⟨pairs,sorted,distinct⟩ := first
  obtain ⟨pairs',sorted',distinct'⟩ := second
  have injective : Function.Injective (fun label : String × String => (label.1.toList,label.2.toList)) := by
    intro one two equal
    obtain ⟨left,right⟩ := Prod.mk.inj equal
    exact Prod.ext (String.toList_injective left) (String.toList_injective right)
  obtain rfl : pairs = pairs' := List.map_injective_iff.mpr injective same
  rfl

/-- A sample line is read as its label map, whatever the values are; two label maps are not written alike; and
the whole text is read as the samples it was written for, in their order. -/
theorem labels_unforgeable :
    (∀ (name value : Text) (labels : LabelKey), metricName name = true → plainValue value = true →
      Named labels → readLine (name ++ (formatLabels labels ++ ' '::value)) = some ⟨name,texts labels,value⟩) ∧
      (∀ first second : LabelKey, Named first → Named second → formatLabels first = formatLabels second →
        first = second) ∧
      ∀ (counters : KeyedTable String LabelKey ℚ) (histograms : KeyedTable String LabelKey Hist)
        (gauges : Gauges), NamedTable counters → NamedTable histograms →
          readExposition (renderPrometheus counters histograms gauges) =
            some (samples counters histograms gauges) := by
  have line (name value : Text) (labels : LabelKey) (metric : metricName name = true)
      (plain : plainValue value = true) (named : Named labels) :
      readLine (name ++ (formatLabels labels ++ ' '::value)) = some ⟨name,texts labels,value⟩ := by
    rw [formatLabels_eq]
    exact @readLine_write ⟨name,texts labels,value⟩ ⟨metric,named_texts named,plain⟩
  refine ⟨line,?_,?_⟩
  · intro first second named named' same
    have read := line "m".toList "0".toList first (by decide) (by decide) named
    rw [same,line "m".toList "0".toList second (by decide) (by decide) named'] at read
    exact (texts_injective (Sample.mk.inj (Option.some.inj read)).2.1).symm
  · intro counters histograms gauges named named'
    have written := ((written_table named (fun _ _ metric => written_counter metric)).append
      (written_table named' (fun _ _ metric => written_hist metric))).append
        ((written_gauges gauges).append .blank)
    rw [List.append_nil] at written
    unfold renderPrometheus samples
    rw [List.append_assoc _ (toolPoolGaugeLines _),List.append_assoc _ [helpLine _,_,_],← List.append_assoc [helpLine _,_,_]]
    exact written.read (by simp)

/-- A value that closes its quotes, ends its line and opens another sample stays one value. -/
theorem labels_unforgeable_attempt :
    let labels := labelKey (((∅ : Labels).set "tenant" "a\"\x7d 1\ncs_chat_busy_total\x7breason=\"b\\").set "tag" "t")
    readLine ("cs_llm_requests_total".toList ++ (formatLabels labels ++ " 2".toList)) =
        some ⟨"cs_llm_requests_total".toList,
          [("tag".toList,"t".toList),("tenant".toList,"a\"\x7d 1\ncs_chat_busy_total\x7breason=\"b\\".toList)],
          "2".toList⟩ ∧
      texts labels = [("tag".toList,"t".toList),
        ("tenant".toList,"a\"\x7d 1\ncs_chat_busy_total\x7breason=\"b\\".toList)] := by
  intro labels
  have same : texts labels = [("tag".toList,"t".toList),
      ("tenant".toList,"a\"\x7d 1\ncs_chat_busy_total\x7breason=\"b\\".toList)] := by decide +kernel
  refine ⟨?_,same⟩
  have read := labels_unforgeable.1 "cs_llm_requests_total".toList "2".toList labels (by decide +kernel)
    (by decide +kernel) (by
      intro label listed
      have members : labels.pairs.all (fun label => labelName label.1.toList) = true := by decide +kernel
      exact List.all_eq_true.mp members label listed)
  rw [same] at read
  exact read

end CustomerService.MetricRender
