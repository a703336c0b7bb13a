import CustomerService.OrderAccess
import Mathlib.Algebra.Order.Field.Rat
import Mathlib.Data.List.Infix
import Mathlib.Data.Rat.Floor

/-! The report that a query shows of an order: made from its row, and shown again later
with a notice of its age. -/
namespace CustomerService.OrderReport
open Text OrderAccess

structure Report where
  orderNo : Text
  productName : Text
  courseCode : Text
  orderType : Text
  currentStatus : Text
  progressPercent : Int
  amount : ℚ
  steps : List OrderEvent
  visualization : Text
  summary : Text
  ossUrl : Option Text
  deriving DecidableEq

/-- `_progress_percent`, a sum of floats that is rounded. -/
structure Rendering where
  progressPercent : List OrderEvent → Int

def STATUS_LABELS : List (Text × Text) :=
  [("paid".toList,"已支付".toList),("active".toList,"已开通".toList),
    ("refund_reviewing".toList,"退款审核中".toList),("refunded".toList,"已退款".toList),
    ("cancelled".toList,"已取消".toList)]

/-- `STATUS_LABELS.get(status, status)`. -/
def statusLabel (status : Text) : Text := (STATUS_LABELS.lookup status).getD status

/-! ### What is drawn of a report -/

def MERMAID_STATUS : List (Text × Text) :=
  [("completed".toList,"✓".toList),("in_progress".toList,"●".toList),("pending".toList,"○".toList),
    ("rejected".toList,"✗".toList)]

def STATUS_CN : List (Text × Text) :=
  [("completed".toList,"已完成".toList),("in_progress".toList,"进行中".toList),
    ("pending".toList,"待处理".toList),("rejected".toList,"已拒绝".toList)]

/-- `round(percent / 10)`, a half to the even number. -/
def filledCells (percent : Int) : Int :=
  let tens := percent / 10
  if percent % 10 < 5 then tens
  else if 5 < percent % 10 then tens + 1
  else if tens % 2 = 0 then tens
  else tens + 1

def asciiBar (percent : Int) : Text :=
  List.replicate (filledCells percent).toNat '█' ++
    List.replicate (10 - filledCells percent).toNat '░'

def mermaidName (index : Nat) : Text := 'S' :: (toString index).toList

def mermaidNode (index : Nat) (step : OrderEvent) : Text :=
  "    ".toList ++ mermaidName index ++ "[\"".toList ++ step.name ++ " ".toList ++
    (MERMAID_STATUS.lookup step.status).getD "?".toList ++ "\"]".toList

def mermaidEdge (index : Nat) : Text :=
  "    ".toList ++ mermaidName index ++ " ".toList ++ "-->".toList ++ " ".toList ++ mermaidName (index + 1)

def mermaid (steps : List OrderEvent) : Text :=
  "flowchart LR\n".toList ++ join "\n".toList
    (steps.zipIdx.map (fun entry => mermaidNode entry.2 entry.1) ++
      (List.range (steps.length - 1)).map mermaidEdge)

def stepRow (step : OrderEvent) : Text :=
  "| ".toList ++ step.name ++ " | ".toList ++ (STATUS_CN.lookup step.status).getD step.status ++
    " | ".toList ++ orElse step.occurredAt "-".toList ++ " | ".toList ++ orElse step.note "-".toList ++
    " |".toList

def shownPercent (percent : Int) : Text := (toString percent).toList ++ "%".toList

def visualization (report : Report) : Text :=
  join "\n".toList
    (["**订单 ".toList ++ report.orderNo ++ " · ".toList ++ report.productName ++ "**".toList,
      "当前状态：".toList ++ report.currentStatus ++ "　进度：".toList ++ asciiBar report.progressPercent ++
        " ".toList ++ shownPercent report.progressPercent,
      [],"```mermaid".toList,mermaid report.steps,"```".toList,[],
      "| 节点 | 状态 | 时间 | 说明 |".toList,"|---|---|---|---|".toList] ++ report.steps.map stepRow)

/-! ### Reports -/

def OPEN_COURSE_HINTS : List Text := ["开课".toList,"上课".toList,"开通".toList]

def openedNote : Option Text → Text
  | none | some [] => []
  | some note => "（".toList ++ note ++ "）".toList

def openCourseSummary (report : Report) : Option Text :=
  (report.steps.find? (fun step => decide ("开通".toList <:+: step.name) &&
      decide (step.status = "completed".toList) && (step.occurredAt.getD []).isEmpty.not)).map
    (fun step => "订单 ".toList ++ report.orderNo ++ " 关联课程「".toList ++ report.productName ++
      "」已于 ".toList ++ step.occurredAt.getD [] ++ " 开通。".toList ++ openedNote step.note)

def applyQuerySummary (report : Report) (query : Text) : Report :=
  if query ≠ [] ∧ OPEN_COURSE_HINTS.any (fun token => decide (token <:+: query)) = true then
    {report with summary := (openCourseSummary report).getD report.summary}
  else report

def undrawnReport (rendering : Rendering) (order : Order) : Report where
  orderNo := order.orderNo
  productName := order.courseName
  courseCode := order.courseCode.getD []
  orderType := order.orderType
  currentStatus := statusLabel order.status
  progressPercent := rendering.progressPercent order.events
  amount := order.amount
  steps := order.events
  visualization := []
  summary := []
  ossUrl := none

def statusSummary (order : Order) : Text :=
  if order.status = "refund_reviewing".toList then
    "订单 ".toList ++ order.orderNo ++ " 已完成支付与课程开通，退款申请已受理，".toList ++
      "目前处于财务审核阶段，通过后将原路退回。".toList
  else "订单 ".toList ++ order.orderNo ++ " 当前状态为".toList ++ statusLabel order.status ++ "。".toList

/-- The report of `fetch_order_report` on an order that may be seen. -/
def ofOrder (rendering : Rendering) (order : Order) (query : Text) : Report :=
  let report := undrawnReport rendering order
  applyQuerySummary
    {report with visualization := visualization report, summary := statusSummary order} query

def minutes (ageSeconds : ℚ) : Text := (toString (max 1 ⌊ageSeconds / 60⌋)).toList

def stalePrefix (ageSeconds : ℚ) : Text :=
  "以下为约 ".toList ++ minutes ageSeconds ++
    " 分钟前的查询结果，当前服务繁忙/超时，".toList ++ "信息可能已有变化。\n\n".toList

def annotateStaleOrder (report : Report) (ageSeconds : ℚ) : Report :=
  {report with summary := strip (stalePrefix ageSeconds ++ report.summary)}

def isCacheableOrderReport (report : Report) : Bool :=
  !(["busy".toList,"error".toList,"not_found".toList].contains report.currentStatus)

def BUSY_PRODUCT : Text := "查单服务繁忙".toList

def busyReport (orderNo : Text) (message : Text) : Report where
  orderNo := if orderNo = [] then "unknown".toList else orderNo
  productName := BUSY_PRODUCT
  courseCode := []
  orderType := []
  currentStatus := "busy".toList
  progressPercent := 0
  amount := 0
  steps := []
  visualization := []
  summary := "当前查询订单请求较集中，建议 ".toList ++ "1".toList ++ " 分钟后重试。（".toList ++ message ++ "）".toList
  ossUrl := none

/-- The report is one of the order: fetched, put on the object store, or shown again. -/
inductive Tells (rendering : Rendering) (order : Order) : Report → Prop
  | fetched (query : Text) : Tells rendering order (ofOrder rendering order query)
  | stored {report : Report} (tells : Tells rendering order report) (url : Option Text) :
      Tells rendering order {report with ossUrl := url}
  | stale {report : Report} (tells : Tells rendering order report) (ageSeconds : ℚ) :
      Tells rendering order (annotateStaleOrder report ageSeconds)

private theorem ofOrder_orderNo (rendering : Rendering) (order : Order) (query : Text) :
    (ofOrder rendering order query).orderNo = order.orderNo := by
  unfold ofOrder applyQuerySummary
  dsimp only
  split <;> rfl

theorem Tells.orderNo {rendering : Rendering} {order : Order} {report : Report}
    (tells : Tells rendering order report) : report.orderNo = order.orderNo := by
  induction tells with
  | fetched query => exact ofOrder_orderNo rendering order query
  | stored _ _ ih => exact ih
  | stale _ _ ih => exact ih

theorem busyReport_not_cacheable (orderNo message : Text) :
    isCacheableOrderReport (busyReport orderNo message) = false := by
  have listed : "busy".toList ∈ ["busy".toList,"error".toList,"not_found".toList] :=
    List.mem_cons_self
  exact congrArg not (List.contains_iff_mem.mpr listed)

end CustomerService.OrderReport
