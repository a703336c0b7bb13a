import CustomerService.FilteredTexts
import CustomerService.Supervisor

/-! What the answers about an order and about a course are put together from, and when the output
filter leaves them as they are: when it leaves what they are put together from. -/
namespace CustomerService.AnswerTexts
open Text OrderAccess OrderReport ToolCache Supervisor OutputFilter

/-! ### Answers about courses -/

structure CourseModule where
  name : Text
  topics : List Text
  /-- The hours as `:g` prints them; none for zero. -/
  durationHours : Option Text
  outcome : Text
  deriving DecidableEq

structure LearningStage where
  stage : Text
  modules : List Text
  goal : Text
  deriving DecidableEq

structure CourseBody where
  modules : List CourseModule
  learningPath : List LearningStage
  prerequisites : List Text
  sources : List Text
  deriving DecidableEq

def evidenceLabel (item : EvidenceSection) : Text :=
  orElse (some item.moduleName) (orElse (some item.sectionPath) item.source)

def evidenceLine (item : EvidenceSection) : Text :=
  "-".toList ++ " ".toList ++ item.source ++ " · ".toList ++ evidenceLabel item ++ "：".toList ++ item.excerpt

def moduleNumber (index : Nat) : Text := (toString index).toList ++ ".".toList

def shownHours : Option Text → Text
  | none => []
  | some hours => "（约 ".toList ++ hours ++ " 小时）".toList

def shownTopics (topics : List Text) : Text :=
  if topics = [] then "见大纲".toList else join "、".toList topics

def moduleLine (index : Nat) (module : CourseModule) : Text :=
  moduleNumber index ++ " **".toList ++ module.name ++ "**".toList ++ shownHours module.durationHours ++
    "：".toList ++ shownTopics module.topics

def moduleLines (index : Nat) (module : CourseModule) : List Text :=
  moduleLine index module ::
    if module.outcome = [] then []
    else ["   ".toList ++ "-".toList ++ " 学习目标：".toList ++ module.outcome]

def stageLine (stage : LearningStage) : Text :=
  "-".toList ++ " **".toList ++ stage.stage ++ "**：".toList ++ join " → ".toList stage.modules ++
    "。目标：".toList ++ stage.goal

def prerequisiteLine (item : Text) : Text := "-".toList ++ " ".toList ++ item

/-- A heading with what stands under it, when anything does. -/
def headed (heading : Text) (lines : List Text) : List Text := if lines = [] then [] else heading :: lines

def formatCourseAnswer (result : CourseConsultResult CourseBody) : Text :=
  if result.body.modules = [] then
    if result.evidence = [] then result.summary
    else join "\n".toList
      ([result.summary,[],"### 参考依据".toList] ++ result.evidence.map evidenceLine)
  else
    join "\n".toList
      (["## ".toList ++ result.courseName,result.summary,[],"### 课程模块".toList] ++
        (result.body.modules.zipIdx 1).flatMap (fun entry => moduleLines entry.2 entry.1) ++
        headed "\n### 学习路径".toList (result.body.learningPath.map stageLine) ++
        headed "\n### 前置要求".toList (result.body.prerequisites.map prerequisiteLine) ++
        headed "\n### 参考依据".toList (result.evidence.map evidenceLine))

def evidenceTexts (item : EvidenceSection) : List Text := [item.source,evidenceLabel item,item.excerpt]

def moduleTexts (module : CourseModule) : List Text :=
  [module.name,module.durationHours.getD [],module.outcome] ++ module.topics

def stageTexts (stage : LearningStage) : List Text := [stage.stage,stage.goal] ++ stage.modules

/-- What a result about a course says, of the course, of the documents or of the model, and the
numbers of the modules. -/
def resultTexts (result : CourseConsultResult CourseBody) : List Text :=
  if result.body.modules = [] then result.summary :: result.evidence.flatMap evidenceTexts
  else
    [result.courseName,result.summary] ++ result.body.modules.flatMap moduleTexts ++
      (List.range result.body.modules.length).map (fun index => moduleNumber (1 + index)) ++
      result.body.learningPath.flatMap stageTexts ++ result.body.prerequisites ++
      result.evidence.flatMap evidenceTexts

/-! ### Answers about orders -/

def stepTexts (step : OrderEvent) : List Text :=
  [step.name,step.status,step.occurredAt.getD [],step.note.getD []]

/-- What is said of an order, and the numbers that are drawn with it. -/
def orderTexts (rendering : Rendering) (order : Order) : List Text :=
  [order.orderNo,order.courseName,order.status] ++ order.events.flatMap stepTexts ++
    (List.range order.events.length).map mermaidName ++
    [shownPercent (rendering.progressPercent order.events)]

/-! ### Lines -/

private theorem forall_zipIdx {Item : Type} {P : Item → Prop} {Q : Nat → Prop} (items : List Item) (start : Nat) :
    (∀ entry ∈ items.zipIdx start, P entry.1 ∧ Q entry.2) ↔
      (∀ item ∈ items, P item) ∧ ∀ index < items.length, Q (start + index) := by
  induction items generalizing start with
  | nil => simp
  | cons item rest ih =>
    rw [List.zipIdx_cons,List.forall_mem_cons,ih,List.forall_mem_cons,List.length_cons,Nat.forall_lt_succ_left]
    simp only [Nat.add_zero,Nat.add_comm 1,Nat.add_assoc]
    tauto

theorem filtered_orElse {fallback : Text} (ready : Filtered fallback) (value : Option Text) :
    Filtered (orElse value fallback) ↔ Filtered (value.getD []) := by
  cases value with
  | none => exact iff_of_true ready filtered_nil
  | some text =>
    cases text with
    | nil => exact iff_of_true ready filtered_nil
    | cons _ _ => rfl

private theorem filtered_lookup {table : List (Text × Text)}
    (ready : ∀ entry ∈ table, Few entry.1 ∧ Few entry.2) (key : Text) :
    Filtered ((table.lookup key).getD key) ↔ Filtered key := by
  cases found : table.lookup key with
  | none => rfl
  | some value =>
    obtain ⟨_,_,rfl,_⟩ := List.lookup_eq_some_iff.mp found
    obtain ⟨name,label⟩ := ready (key,value) (by simp)
    exact iff_of_true label.filtered name.filtered

private theorem filtered_known {table : List (Text × Text)} {fallback : Text}
    (ready : ∀ entry ∈ table, Few entry.2) (usual : Few fallback) (key : Text) :
    Filtered ((table.lookup key).getD fallback) := by
  cases found : table.lookup key with
  | none => exact usual.filtered
  | some value =>
    obtain ⟨_,_,rfl,_⟩ := List.lookup_eq_some_iff.mp found
    exact (ready (key,value) (by simp)).filtered

private theorem filtered_dash : Filtered "-".toList := Few.filtered (by decide)

/-! ### Orders -/

private theorem filtered_mermaidNode (index : Nat) (step : OrderEvent) :
    Filtered (mermaidNode index step) ↔ Filtered step.name ∧ Filtered (mermaidName index) := by
  have mark : Filtered ((MERMAID_STATUS.lookup step.status).getD "?".toList) :=
    filtered_known (by decide) (by decide) step.status
  have filled : mermaidNode index step =
      fill [⟨"    ".toList,mermaidName index⟩,⟨"[\"".toList,step.name⟩,
        ⟨" ".toList,(MERMAID_STATUS.lookup step.status).getD "?".toList⟩] "\"]".toList := by
    unfold mermaidNode
    simp only [fill,List.append_assoc]
  rw [filled,filtered_fill (by simp only [List.map]; decide)]
  simp only [List.map,allFiltered_cons,allFiltered_nil,mark,and_true]
  exact and_comm

private theorem filtered_mermaidEdge (index : Nat) :
    Filtered (mermaidEdge index) ↔ Filtered (mermaidName index) ∧ Filtered (mermaidName (index + 1)) := by
  have arrow : Filtered "-->".toList := Few.filtered (by decide)
  have filled : mermaidEdge index =
      fill [⟨"    ".toList,mermaidName index⟩,⟨" ".toList,"-->".toList⟩,
        ⟨" ".toList,mermaidName (index + 1)⟩] [] := by
    unfold mermaidEdge
    simp only [fill,List.append_assoc,List.append_nil]
  rw [filled,filtered_fill (by simp only [List.map]; decide)]
  simp only [List.map,allFiltered_cons,allFiltered_nil,arrow,true_and,and_true]

private theorem filtered_mermaid (steps : List OrderEvent) : Filtered (mermaid steps) ↔
    (∀ step ∈ steps, Filtered step.name) ∧ ∀ index < steps.length, Filtered (mermaidName index) := by
  have direction : Filtered "flowchart LR".toList := Few.filtered (by decide)
  have nodes : AllFiltered (steps.zipIdx.map (fun entry => mermaidNode entry.2 entry.1)) ↔
      (∀ step ∈ steps, Filtered step.name) ∧ ∀ index < steps.length, Filtered (mermaidName index) := by
    have each := @forall_zipIdx _ (fun step : OrderEvent => Filtered step.name)
      (fun index => Filtered (mermaidName index)) steps 0
    simp only [Nat.zero_add] at each
    simp only [allFiltered_map,filtered_mermaidNode]
    exact each
  have edges (named : ∀ index < steps.length, Filtered (mermaidName index)) :
      AllFiltered ((List.range (steps.length - 1)).map mermaidEdge) := by
    rw [allFiltered_map]
    intro index listed
    have below := List.mem_range.mp listed
    exact (filtered_mermaidEdge index).mpr ⟨named index (by omega),named (index + 1) (by omega)⟩
  have split : mermaid steps = "flowchart LR".toList ++ ("\n".toList ++ join "\n".toList
      (steps.zipIdx.map (fun entry => mermaidNode entry.2 entry.1) ++
        (List.range (steps.length - 1)).map mermaidEdge)) := by
    unfold mermaid
    rw [← List.append_assoc]
    congr 1
  rw [split,filtered_between (by decide) (by decide),filtered_lines,allFiltered_append,nodes]
  exact ⟨fun all => all.2.1,fun all => ⟨direction,all,edges all.2⟩⟩

private theorem filtered_stepRow (step : OrderEvent) : Filtered (stepRow step) ↔ AllFiltered (stepTexts step) := by
  have filled : stepRow step =
      fill [⟨"| ".toList,step.name⟩,⟨" | ".toList,(STATUS_CN.lookup step.status).getD step.status⟩,
        ⟨" | ".toList,orElse step.occurredAt "-".toList⟩,⟨" | ".toList,orElse step.note "-".toList⟩]
        " |".toList := by
    unfold stepRow
    simp only [fill,List.append_assoc]
  have label := @filtered_lookup STATUS_CN (by decide) step.status
  rw [filled,filtered_fill (by simp only [List.map]; decide)]
  simp only [stepTexts,List.map,allFiltered_cons,allFiltered_nil,label,filtered_orElse filtered_dash]

private theorem apart_asciiBar (percent : Int) : AllApart (asciiBar percent) := by
  intro char inside
  rcases List.mem_append.mp inside with full | empty
  · rw [List.eq_of_mem_replicate full]
    decide
  · rw [List.eq_of_mem_replicate empty]
    decide

private theorem filtered_titleLine (orderNo productName : Text) :
    Filtered ("**订单 ".toList ++ orderNo ++ " · ".toList ++ productName ++ "**".toList) ↔
      Filtered orderNo ∧ Filtered productName := by
  have filled : "**订单 ".toList ++ orderNo ++ " · ".toList ++ productName ++ "**".toList =
      fill [⟨"**订单 ".toList,orderNo⟩,⟨" · ".toList,productName⟩] "**".toList := by
    simp only [fill,List.append_assoc]
  rw [filled,filtered_fill (by simp only [List.map]; decide)]
  simp only [List.map,allFiltered_cons,allFiltered_nil,and_true]

private theorem filtered_progressLine (status shown : Text) (percent : Int) :
    Filtered ("当前状态：".toList ++ status ++ "　进度：".toList ++ asciiBar percent ++ " ".toList ++ shown) ↔
      Filtered status ∧ Filtered shown := by
  have apart : AllApart ("　进度：".toList ++ (asciiBar percent ++ " ".toList)) := by
    have heading : AllApart "　进度：".toList := by decide
    have blank : AllApart " ".toList := by decide
    intro char inside
    rcases List.mem_append.mp inside with first | rest
    · exact heading char first
    · exact (List.mem_append.mp rest).elim (apart_asciiBar percent char) (blank char)
  have split : "当前状态：".toList ++ status ++ "　进度：".toList ++ asciiBar percent ++ " ".toList ++ shown =
      "当前状态：".toList ++ (status ++ ("　进度：".toList ++ (asciiBar percent ++ " ".toList) ++ shown)) := by
    simp only [List.append_assoc]
  rw [split,filtered_after (by decide),filtered_between apart (by simp)]

private theorem filtered_visualization (report : Report) : Filtered (visualization report) ↔
    AllFiltered [report.orderNo,report.productName,report.currentStatus] ∧
      AllFiltered (report.steps.flatMap stepTexts) ∧
      (∀ index < report.steps.length, Filtered (mermaidName index)) ∧
      Filtered (shownPercent report.progressPercent) := by
  have ready : Filtered "```mermaid".toList ∧ Filtered "```".toList ∧
      Filtered "| 节点 | 状态 | 时间 | 说明 |".toList ∧ Filtered "|---|---|---|---|".toList :=
    ⟨Few.filtered (by decide),
      Few.filtered (by decide),
      Few.filtered (by decide),
      Few.filtered (by decide)⟩
  have rows : AllFiltered (report.steps.map stepRow) ↔ AllFiltered (report.steps.flatMap stepTexts) := by
    rw [allFiltered_map,allFiltered_flatMap]
    simp only [filtered_stepRow]
  have names (told : AllFiltered (report.steps.flatMap stepTexts)) :
      ∀ step ∈ report.steps, Filtered step.name := by
    intro step listed
    exact (allFiltered_flatMap _ _).mp told step listed step.name List.mem_cons_self
  unfold visualization
  rw [filtered_lines]
  simp only [allFiltered_append,allFiltered_cons,allFiltered_nil,filtered_titleLine,filtered_progressLine,
    filtered_mermaid,rows,ready,filtered_nil]
  constructor
  · rintro ⟨⟨⟨orderNo,product⟩,⟨status,percent⟩,-,-,⟨-,numbered⟩,-⟩,told⟩
    exact ⟨⟨orderNo,product,status,trivial⟩,told,numbered,percent⟩
  · rintro ⟨⟨orderNo,product,status,-⟩,told,numbered,percent⟩
    exact ⟨⟨⟨orderNo,product⟩,⟨status,percent⟩,trivial,trivial,⟨names told,numbered⟩,trivial,trivial,trivial,
      trivial,trivial⟩,told⟩

theorem filtered_formatOrderAnswer (report : Report) : Filtered (formatOrderAnswer report) ↔
    Filtered report.summary ∧ Filtered report.visualization := by
  unfold formatOrderAnswer
  split_ifs with drawn
  · rw [List.append_assoc,filtered_between (by decide) (by decide)]
  · rw [not_not.mp drawn]
    exact (and_iff_left filtered_nil).symm

theorem filtered_openedNote (note : Option Text) : Filtered (openedNote note) ↔ Filtered (note.getD []) := by
  rcases note with _ | _ | ⟨char,rest⟩
  · rfl
  · rfl
  · exact (filtered_before (by decide) _).trans (filtered_after (by decide) _)

private theorem filtered_openCourseSummary {report : Report} {summary : Text}
    (opened : openCourseSummary report = some summary) (orderNo : Filtered report.orderNo)
    (product : Filtered report.productName) (told : AllFiltered (report.steps.flatMap stepTexts)) :
    Filtered summary := by
  obtain ⟨step,found,rfl⟩ := Option.map_eq_some_iff.mp opened
  have said := (allFiltered_flatMap _ _).mp told step (List.mem_of_find?_eq_some found)
  simp only [stepTexts,allFiltered_cons] at said
  have filled : "订单 ".toList ++ report.orderNo ++ " 关联课程「".toList ++ report.productName ++
      "」已于 ".toList ++ step.occurredAt.getD [] ++ " 开通。".toList ++ openedNote step.note =
      fill [⟨"订单 ".toList,report.orderNo⟩,⟨" 关联课程「".toList,report.productName⟩,
        ⟨"」已于 ".toList,step.occurredAt.getD []⟩,⟨" 开通。".toList,openedNote step.note⟩] [] := by
    simp only [fill,List.append_assoc,List.append_nil]
  rw [filled,filtered_fill (by simp only [List.map]; decide)]
  simp only [List.map,allFiltered_cons,allFiltered_nil,filtered_openedNote]
  exact ⟨orderNo,product,said.2.2.1,said.2.2.2.1,trivial⟩

private theorem filtered_statusLabel (status : Text) : Filtered (statusLabel status) ↔ Filtered status :=
  filtered_lookup (by decide) status

private theorem filtered_statusSummary {order : Order} (orderNo : Filtered order.orderNo)
    (status : Filtered order.status) : Filtered (statusSummary order) := by
  unfold statusSummary
  split_ifs
  · have filled : "订单 ".toList ++ order.orderNo ++ " 已完成支付与课程开通，退款申请已受理，".toList ++
        "目前处于财务审核阶段，通过后将原路退回。".toList =
        fill [⟨"订单 ".toList,order.orderNo⟩] (" 已完成支付与课程开通，退款申请已受理，".toList ++
          "目前处于财务审核阶段，通过后将原路退回。".toList) := by
      simp only [fill,List.append_assoc]
    rw [filled,filtered_fill (by simp only [List.map]; decide)]
    simpa only [List.map,allFiltered_cons,allFiltered_nil,and_true] using orderNo
  · have filled : "订单 ".toList ++ order.orderNo ++ " 当前状态为".toList ++ statusLabel order.status ++
        "。".toList =
        fill [⟨"订单 ".toList,order.orderNo⟩,⟨" 当前状态为".toList,statusLabel order.status⟩] "。".toList := by
      simp only [fill,List.append_assoc]
    rw [filled,filtered_fill (by simp only [List.map]; decide)]
    simp only [List.map,allFiltered_cons,allFiltered_nil,and_true]
    exact ⟨orderNo,(filtered_statusLabel _).mpr status⟩

theorem filtered_ofOrder (rendering : Rendering) (order : Order) (query : Text) :
    Filtered (formatOrderAnswer (ofOrder rendering order query)) ↔ AllFiltered (orderTexts rendering order) := by
  have drawn : (ofOrder rendering order query).visualization =
      visualization (undrawnReport rendering order) := by
    unfold ofOrder applyQuerySummary
    dsimp only
    split <;> rfl
  have numbers : AllFiltered ((List.range order.events.length).map mermaidName) ↔
      ∀ index < order.events.length, Filtered (mermaidName index) := by
    rw [allFiltered_map]
    simp only [List.mem_range]
  have told : Filtered (visualization (undrawnReport rendering order)) ↔
      AllFiltered (orderTexts rendering order) := by
    rw [filtered_visualization,orderTexts,allFiltered_append,allFiltered_append,allFiltered_append,numbers]
    simp only [allFiltered_cons,allFiltered_nil,and_true]
    have label : Filtered (undrawnReport rendering order).currentStatus ↔ Filtered order.status :=
      filtered_statusLabel order.status
    simp only [label,and_assoc]
    exact Iff.rfl
  rw [filtered_formatOrderAnswer,drawn,told]
  refine and_iff_right_of_imp (fun all => ?_)
  simp only [orderTexts,allFiltered_append,allFiltered_cons] at all
  obtain ⟨⟨⟨⟨orderNo,product,status,-⟩,steps⟩,-⟩,-⟩ := all
  have usual := filtered_statusSummary orderNo status
  unfold ofOrder applyQuerySummary
  dsimp only
  split
  · dsimp only
    cases opened : openCourseSummary {undrawnReport rendering order with
        visualization := visualization (undrawnReport rendering order), summary := statusSummary order} with
    | none => exact usual
    | some summary => exact filtered_openCourseSummary opened orderNo product steps
  · exact usual

theorem filtered_stalePrefix (ageSeconds : ℚ) (text : Text) :
    Filtered (strip (stalePrefix ageSeconds ++ text)) ↔ Filtered (minutes ageSeconds) ∧ Filtered text := by
  have filled : stalePrefix ageSeconds ++ text =
      fill [⟨"以下为约 ".toList,minutes ageSeconds⟩,
        ⟨" 分钟前的查询结果，当前服务繁忙/超时，".toList ++ "信息可能已有变化。\n\n".toList,text⟩] [] := by
    unfold stalePrefix
    simp only [fill,List.append_assoc,List.append_nil]
  rw [filtered_strip,filled,filtered_fill (by simp only [List.map]; decide)]
  simp only [List.map,allFiltered_cons,allFiltered_nil,and_true]

theorem filtered_busyReport (orderNo message : Text) :
    Filtered (formatOrderAnswer (busyReport orderNo message)) ↔ Filtered message := by
  have filled : (busyReport orderNo message).summary =
      fill [⟨"当前查询订单请求较集中，建议 ".toList,"1".toList⟩,⟨" 分钟后重试。（".toList,message⟩] "）".toList := by
    unfold busyReport
    simp only [fill,List.append_assoc]
  have one : Filtered "1".toList := Few.filtered (by decide)
  rw [filtered_formatOrderAnswer,filled,filtered_fill (by simp only [List.map]; decide)]
  simp only [List.map,allFiltered_cons,allFiltered_nil,one,and_true,true_and]
  exact and_iff_left filtered_nil

/-! ### Courses -/

private theorem filtered_evidenceLine (item : EvidenceSection) :
    Filtered (evidenceLine item) ↔ AllFiltered (evidenceTexts item) := by
  have filled : evidenceLine item =
      fill [⟨[],"-".toList⟩,⟨" ".toList,item.source⟩,⟨" · ".toList,evidenceLabel item⟩,
        ⟨"：".toList,item.excerpt⟩] [] := by
    unfold evidenceLine
    simp only [fill,List.append_assoc,List.append_nil,List.nil_append]
  rw [filled,filtered_fill (by simp only [List.map]; decide)]
  simp only [evidenceTexts,List.map,allFiltered_cons,allFiltered_nil,filtered_dash,true_and,and_true]

private theorem filtered_shownHours (hours : Option Text) :
    Filtered (shownHours hours) ↔ Filtered (hours.getD []) := by
  cases hours with
  | none => rfl
  | some hours =>
    exact (filtered_before (by decide) _).trans (filtered_after (by decide) _)

theorem filtered_shownTopics (topics : List Text) : Filtered (shownTopics topics) ↔ AllFiltered topics := by
  unfold shownTopics
  split_ifs with none'
  · subst none'
    exact iff_of_true (Few.filtered (by decide)) allFiltered_nil
  · exact filtered_intercalate (by decide) (by decide) topics

private theorem filtered_moduleLines (index : Nat) (module : CourseModule) :
    AllFiltered (moduleLines index module) ↔
      AllFiltered (moduleTexts module) ∧ Filtered (moduleNumber index) := by
  have line : Filtered (moduleLine index module) ↔
      Filtered (moduleNumber index) ∧ Filtered module.name ∧ Filtered (module.durationHours.getD []) ∧
        AllFiltered module.topics := by
    have filled : moduleLine index module =
        fill [⟨[],moduleNumber index⟩,⟨" **".toList,module.name⟩,
          ⟨"**".toList,shownHours module.durationHours⟩,⟨"：".toList,shownTopics module.topics⟩] [] := by
      unfold moduleLine
      simp only [fill,List.append_assoc,List.append_nil,List.nil_append]
    rw [filled,filtered_fill (by simp only [List.map]; decide)]
    simp only [List.map,allFiltered_cons,allFiltered_nil,filtered_shownHours,filtered_shownTopics,and_true]
  have outcome : AllFiltered (if module.outcome = [] then []
      else ["   ".toList ++ "-".toList ++ " 学习目标：".toList ++ module.outcome]) ↔
        Filtered module.outcome := by
    split_ifs with none'
    · rw [none']
      exact iff_of_true allFiltered_nil filtered_nil
    · have filled : "   ".toList ++ "-".toList ++ " 学习目标：".toList ++ module.outcome =
          fill [⟨"   ".toList,"-".toList⟩,⟨" 学习目标：".toList,module.outcome⟩] [] := by
        simp only [fill,List.append_assoc,List.append_nil]
      rw [allFiltered_cons,filled,filtered_fill (by simp only [List.map]; decide)]
      simp only [List.map,allFiltered_cons,allFiltered_nil,filtered_dash,true_and,and_true]
  rw [moduleLines,allFiltered_cons,line,outcome,moduleTexts,allFiltered_append]
  simp only [allFiltered_cons,allFiltered_nil,and_true]
  constructor
  · rintro ⟨⟨number,name,hours,topics⟩,said⟩
    exact ⟨⟨⟨name,hours,said⟩,topics⟩,number⟩
  · rintro ⟨⟨⟨name,hours,said⟩,topics⟩,number⟩
    exact ⟨⟨number,name,hours,topics⟩,said⟩

private theorem filtered_stageLine (stage : LearningStage) :
    Filtered (stageLine stage) ↔ AllFiltered (stageTexts stage) := by
  have modules : Filtered (join " → ".toList stage.modules) ↔ AllFiltered stage.modules :=
    filtered_intercalate (by decide) (by decide) stage.modules
  have filled : stageLine stage =
      fill [⟨[],"-".toList⟩,⟨" **".toList,stage.stage⟩,⟨"**：".toList,join " → ".toList stage.modules⟩,
        ⟨"。目标：".toList,stage.goal⟩] [] := by
    unfold stageLine
    simp only [fill,List.append_assoc,List.append_nil,List.nil_append]
  rw [filled,filtered_fill (by simp only [List.map]; decide),stageTexts,allFiltered_append]
  simp only [List.map,allFiltered_cons,allFiltered_nil,filtered_dash,modules,true_and,and_true]
  rw [and_assoc,and_comm (b := Filtered stage.goal)]

private theorem filtered_prerequisiteLine (item : Text) : Filtered (prerequisiteLine item) ↔ Filtered item := by
  have filled : prerequisiteLine item = fill [⟨[],"-".toList⟩,⟨" ".toList,item⟩] [] := by
    unfold prerequisiteLine
    simp only [fill,List.append_assoc,List.append_nil,List.nil_append]
  rw [filled,filtered_fill (by simp only [List.map]; decide)]
  simp only [List.map,allFiltered_cons,allFiltered_nil,filtered_dash,true_and,and_true]

private theorem filtered_headed {heading : Text} (ready : Filtered heading) (lines : List Text) :
    AllFiltered (headed heading lines) ↔ AllFiltered lines := by
  unfold headed
  split_ifs with none'
  · rw [none']
  · rw [allFiltered_cons]
    exact and_iff_right ready

private theorem filtered_evidence (evidence : List EvidenceSection) :
    AllFiltered (evidence.map evidenceLine) ↔ AllFiltered (evidence.flatMap evidenceTexts) := by
  rw [allFiltered_map,allFiltered_flatMap]
  exact forall₂_congr (fun item _ => filtered_evidenceLine item)

private theorem filtered_modules (modules : List CourseModule) :
    AllFiltered ((modules.zipIdx 1).flatMap (fun entry => moduleLines entry.2 entry.1)) ↔
      AllFiltered (modules.flatMap moduleTexts) ∧
        AllFiltered ((List.range modules.length).map (fun index => moduleNumber (1 + index))) := by
  have each := @forall_zipIdx _ (fun module => AllFiltered (moduleTexts module))
    (fun index => Filtered (moduleNumber index)) modules 1
  simp only [allFiltered_flatMap,allFiltered_map,filtered_moduleLines,List.mem_range]
  exact each

theorem filtered_formatCourseAnswer (result : CourseConsultResult CourseBody) :
    Filtered (formatCourseAnswer result) ↔ AllFiltered (resultTexts result) := by
  have basis : Filtered "### 参考依据".toList := Few.filtered (by decide)
  unfold formatCourseAnswer resultTexts
  split_ifs with plain bare
  · rw [bare,List.flatMap_nil,allFiltered_singleton]
  · rw [filtered_lines,allFiltered_append,filtered_evidence]
    simp only [allFiltered_cons,allFiltered_nil,basis,filtered_nil,and_true]
  · have course : Filtered ("## ".toList ++ result.courseName) ↔ Filtered result.courseName :=
      filtered_after (by decide) result.courseName
    have outline : Filtered "### 课程模块".toList := Few.filtered (by decide)
    have path := filtered_headed (Few.filtered (by decide) :
      Filtered "\n### 学习路径".toList) (result.body.learningPath.map stageLine)
    have before := filtered_headed (Few.filtered (by decide) :
      Filtered "\n### 前置要求".toList) (result.body.prerequisites.map prerequisiteLine)
    have sources := filtered_headed (Few.filtered (by decide) :
      Filtered "\n### 参考依据".toList) (result.evidence.map evidenceLine)
    have stages : AllFiltered (result.body.learningPath.map stageLine) ↔
        AllFiltered (result.body.learningPath.flatMap stageTexts) := by
      rw [allFiltered_map,allFiltered_flatMap]
      exact forall₂_congr (fun stage _ => filtered_stageLine stage)
    have items : AllFiltered (result.body.prerequisites.map prerequisiteLine) ↔
        AllFiltered result.body.prerequisites := by
      rw [allFiltered_map]
      exact forall₂_congr (fun item _ => filtered_prerequisiteLine item)
    rw [filtered_lines]
    simp only [allFiltered_append,allFiltered_cons,allFiltered_nil,course,outline,filtered_nil,
      filtered_modules,path,before,sources,stages,items,filtered_evidence,and_true,and_assoc]

end CustomerService.AnswerTexts
