import CustomerService.Regex
import Mathlib.Data.List.Infix
import Mathlib.Data.List.Nodup
import Mathlib.Data.List.DropRight
import Mathlib.Order.Lattice

/-! The structured rolling summary: facts extracted from messages by rules, merging with
caps and exclusive labels, rendering and parsing. -/
namespace CustomerService.SummaryFacts

open Text

/-! Patterns. `i` marks the letters of the order pattern that ignore case. -/

def isDot (char : Char) : Bool := char != '\n'

def isWide (char : Char) : Bool :=
  inRange 0x30 0x39 char || inRange 0x41 0x5a char || inRange 0x61 0x7a char ||
    inRange 0x4e00 0x9fff char

def isColon (char : Char) : Bool := char == '：' || char == ':'

/-- `(?:订单|#|NO\.?)?\s*(\d{8,})`, ignoring case. -/
def orderNoRe : Regex :=
  .seq (.optional (.alt (.anyOf ["订单","#"])
      (.seq (.one (fun char => char == 'N' || char == 'n'))
        (.seq (.one (fun char => char == 'O' || char == 'o')) (.optional (.one (· == '.')))))))
    (.seq (.many isSpace 0 none) (.group (.many isDigit 8 none)))

/-- `(?m)^##\s+(.+)$`. -/
def courseHeadingRe : Regex :=
  .seq .lineStart (.seq (.lit "##".toList) (.seq (.many isSpace 1 none)
    (.seq (.group (.many isDot 1 none)) .lineEnd)))

/-- `《([^》]{2,30})》`. -/
def courseBookRe : Regex :=
  .seq (.one (· == '《')) (.seq (.group (.many (· != '》') 2 (some 30))) (.one (· == '》')))

/-- `课程名称[：:]\s*([^\n]{2,30})`. -/
def courseLabelRe : Regex :=
  .seq (.lit "课程名称".toList) (.seq (.one isColon) (.seq (.many isSpace 0 none)
    (.group (.many isDot 2 (some 30)))))

/-- `课程\s*([A-Za-z0-9一-鿿]{2,20})`. -/
def courseInlineRe : Regex :=
  .seq (.lit "课程".toList) (.seq (.many isSpace 0 none) (.group (.many isWide 2 (some 20))))

def courseNameRes : List Regex := [courseHeadingRe,courseBookRe,courseLabelRe,courseInlineRe]

/-- `MISSING_COURSE_NAMES` and `_SKIP_COURSE_NAMES`. -/
def skippedCourseNames : List Text :=
  [[],"未找到课程".toList,"模块".toList,"名称".toList,"咨询".toList,"大纲".toList]

/-- `a.*b`. -/
def spaced (first second : String) : Regex :=
  .seq (.lit first.toList) (.seq (.many isDot 0 none) (.lit second.toList))

def refundWanted : Text := "用户要退款".toList
def trackingParcel : Text := "在追物流".toList
def cancelWanted : Text := "要取消订单".toList
def progressAsked : Text := "在问进度".toList
def unfitForBeginners : Text := "已确认不适合零基础".toList
def fitForBeginners : Text := "适合零基础".toList
def tooHard : Text := "用户觉得难".toList
def priceAsked : Text := "在问价格".toList
def outlineAsked : Text := "在问大纲".toList
def pendingOrderNo : Text := "待提供订单号".toList
def pendingCourse : Text := "待确认课程".toList
def pendingHuman : Text := "等待人工".toList
def refundDone : Text := "退款已完成".toList
def refundReviewing : Text := "退款审核中".toList
def shipped : Text := "已发货".toList
def courseOpened : Text := "课程已开通".toList
def orderCancelled : Text := "订单已取消".toList

def orderConstraints : List (Regex × Text) :=
  [(.anyOf ["退款"],refundWanted),(.anyOf ["物流","快递","发货","到哪","到货"],trackingParcel),
    (.anyOf ["取消"],cancelWanted),(.anyOf ["进度"],progressAsked)]

def courseConstraints : List (Regex × Text) :=
  [(.alt (spaced "不适合" "零基础") (spaced "零基础" "不"),unfitForBeginners),
    (.alt (.seq (.notBehind (· == '不')) (.lit "适合零基础".toList))
      (.anyOf ["零基础可以","零基础友好"]),fitForBeginners),
    (.anyOf ["太难","很难","偏难"],tooHard),(.anyOf ["多少钱","价格","学费"],priceAsked),
    (.anyOf ["大纲","模块","学什么","讲什么"],outlineAsked)]

def pendingPatterns : List (Regex × Text) :=
  [(.anyOf ["请提供订单号","需要订单号","完整订单编号"],pendingOrderNo),
    (.alt (spaced "请" "课程名") (.lit "哪门课".toList),pendingCourse),
    (.anyOf ["转接人工","已为您转接"],pendingHuman)]

def assistantConclusions : List (Regex × Text) :=
  [(.anyOf ["已退款"],refundDone),(.anyOf ["退款审核"],refundReviewing),(.anyOf ["已发货"],shipped),
    (.anyOf ["已开通"],courseOpened),(.anyOf ["已取消"],orderCancelled)]

def exclusiveLabelGroups : List (List Text) :=
  [[unfitForBeginners,fitForBeginners],[refundDone,refundReviewing]]

def intentOrder : Text := "查订单".toList
def intentCourse : Text := "课程咨询".toList
def intentMixed : Text := "课程+订单".toList
def intentHandoff : Text := "转人工".toList

def intentLabel (intent : Text) : Option Text :=
  if intent = "order".toList then some intentOrder
  else if intent = "course_consult".toList then some intentCourse
  else if intent = "mixed".toList then some intentMixed
  else if intent = "handoff".toList then some intentHandoff
  else none

structure SessionSlots where
  lastIntent : Option Text
  lastOrderNo : Option Text
  lastCourseName : Option Text

/-- `(slots.field or "").strip() if slots else ""`. -/
def slotText (field : SessionSlots → Option Text) (slots : Option SessionSlots) : Text :=
  strip ((slots.bind field).getD [])

/-! Lists of facts; `out[-cap:]` for a positive cap is `out.rtake cap`. -/

def isSeparator (char : Char) : Bool := char == '；' || char == ';'

/-- `_split_facts`: a run of separators leaves blank parts, which are dropped. -/
def splitFacts (raw : Text) : List Text :=
  ((raw.splitOnP isSeparator).map strip).filter (· ≠ [])

def moveToEnd (out : List Text) (text : Text) : List Text := out.filter (· ≠ text) ++ [text]

def prependUnique (existing incoming : List Text) (cap : Nat) : List Text :=
  (incoming.foldl (fun out item =>
    let text := strip item
    if text = [] then out else moveToEnd out text) existing).rtake cap

def rivalsOf (label : Text) : List Text :=
  match exclusiveLabelGroups.find? (fun group => group.contains label) with
  | none => []
  | some group => group.filter (· ≠ label)

def exclusiveStep (out : List Text) (item : Text) : List Text :=
  let text := strip item
  if text = [] then out
  else out.filter (fun other => other ≠ text ∧ other ∉ rivalsOf text) ++ [text]

def applyExclusiveSequence (labels : List Text) (cap : Option Nat) : List Text :=
  match cap with
  | none => labels.foldl exclusiveStep []
  | some cap => (labels.foldl exclusiveStep []).rtake cap

structure StructuredSummary where
  orders : List Text
  courses : List Text
  intent : Text
  confirmed : List Text
  pending : List Text
deriving DecidableEq

namespace StructuredSummary

def empty : StructuredSummary := ⟨[],[],[],[],[]⟩

def merge (self other : StructuredSummary) : StructuredSummary where
  orders := prependUnique self.orders other.orders 3
  courses := prependUnique self.courses other.courses 3
  intent := strip (if other.intent = [] then self.intent else other.intent)
  confirmed := applyExclusiveSequence (self.confirmed ++ other.confirmed) (some 6)
  pending := prependUnique self.pending other.pending 4

def resolve (self : StructuredSummary) (slots : Option SessionSlots) : StructuredSummary :=
  let hasOrder := self.orders ≠ [] ∨ slotText (·.lastOrderNo) slots ≠ []
  let hasCourse := self.courses ≠ [] ∨ slotText (·.lastCourseName) slots ≠ []
  let pending := if hasOrder then self.pending.filter (· ≠ pendingOrderNo) else self.pending
  { self with
    confirmed := applyExclusiveSequence self.confirmed (some 6)
    pending := if hasCourse then pending.filter (· ≠ pendingCourse) else pending }

def hasContent (self : StructuredSummary) : Bool :=
  self.orders ≠ [] || self.courses ≠ [] || self.intent ≠ [] || self.confirmed ≠ [] ||
    self.pending ≠ []

/-- A row of the rendering, left out when it has nothing to say. -/
def row (key : String) (value : Text) : List Text :=
  if value = [] then [] else [key.toList ++ '：'::value]

def listRow (key : String) (facts : List Text) : List Text :=
  if facts = [] then [] else [key.toList ++ '：'::join ['；'] facts]

def rows (self : StructuredSummary) : List Text :=
  listRow "订单" self.orders ++ listRow "课程" self.courses ++ row "意图" self.intent ++
    listRow "已确认" self.confirmed ++ listRow "未决" self.pending

def lines (self : StructuredSummary) : Text := join ['\n'] self.rows

/-- The oldest entry of the first section, in the order of the loop, that has two. -/
def shrinkStep (self : StructuredSummary) : Option StructuredSummary :=
  if 1 < self.confirmed.length then some { self with confirmed := self.confirmed.tail }
  else if 1 < self.pending.length then some { self with pending := self.pending.tail }
  else if 1 < self.orders.length then some { self with orders := self.orders.tail }
  else if 1 < self.courses.length then some { self with courses := self.courses.tail }
  else none

/-- The loop of `render`; every turn drops an entry, so their number is enough fuel. -/
def shrink : Nat → Nat → StructuredSummary → Text
  | 0, limit, self => self.lines.rtake limit
  | fuel + 1, limit, self =>
    if self.lines.length ≤ limit then self.lines
    else
      match self.shrinkStep with
      | none => self.lines.rtake limit
      | some smaller => shrink fuel limit smaller

def entries (self : StructuredSummary) : Nat :=
  self.confirmed.length + self.pending.length + self.orders.length + self.courses.length

/-- `_resolve_summary_max_chars` for a given number. -/
def resolveMaxChars (maxChars : Int) : Nat := (max 80 maxChars).toNat

def render (self : StructuredSummary) (maxChars : Option Int) : Text :=
  match maxChars with
  | none => self.lines
  | some bound => shrink self.entries (resolveMaxChars bound) self

/-- `^(订单|课程|意图|已确认|未决)[：:]\s*(.*)$`. -/
def sectionRe : Regex :=
  .seq (.check (fun before _ => before.isEmpty))
    (.seq (.group (.anyOf ["订单","课程","意图","已确认","未决"]))
      (.seq (.one isColon) (.seq (.many isSpace 0 none) (.seq (.group (.many isDot 0 none)) .textEnd))))

/-- What the loop of `parse` has so far. -/
structure Parsing where
  parsed : StructuredSummary
  leftover : List Text
  sawSection : Bool

def assign (parsed : StructuredSummary) (key value : Text) : StructuredSummary :=
  if key = "订单".toList then { parsed with orders := splitFacts value }
  else if key = "课程".toList then { parsed with courses := splitFacts value }
  else if key = "意图".toList then { parsed with intent := value }
  else if key = "已确认".toList then { parsed with confirmed := splitFacts value }
  else if key = "未决".toList then { parsed with pending := splitFacts value }
  else parsed

def parseLine (state : Parsing) (raw : Text) : Parsing :=
  let line := strip raw
  if line = [] then state
  else
    match sectionRe.matchAt [] line with
    | none => { state with leftover := state.leftover ++ [line] }
    | some found =>
      { state with
        parsed := assign state.parsed found.group1 (strip (found.groups.getD 1 []))
        sawSection := true }

def Parsing.finish (state : Parsing) : StructuredSummary :=
  if state.leftover = [] then state.parsed
  else if state.sawSection = false then { state.parsed with confirmed := state.leftover }
  else { state.parsed with confirmed := prependUnique state.parsed.confirmed state.leftover 6 }

def parse (text : Option Text) : StructuredSummary :=
  let raw := strip (text.getD [])
  if raw = [] then empty else ((splitlines raw).foldl parseLine ⟨empty,[],false⟩).finish

end StructuredSummary

open StructuredSummary

/-! Extraction. -/

inductive Kind
  | system
  | human
  | ai
  | other
deriving DecidableEq

/-- A message: its class, its id and its text. `ref` names the object, and `copy` says
that it is the one made by compacting the message of that name. -/
structure Message where
  kind : Kind
  id : Option Text
  text : Text
  ref : Nat
  copy : Bool
deriving DecidableEq

def extractOrderNo (text : Text) : Option Text := (orderNoRe.search text).map Regex.Cursor.group1

/-- `name.strip().strip("#").strip()`. -/
def courseName (found : Regex.Cursor) : Text := strip (stripChar '#' (strip found.group1))

def extractCourseNames (text : Text) : List Text :=
  (courseNameRes.flatMap (fun pattern => (pattern.finditer text).map courseName)).foldl
    (fun names name =>
      if name ∈ skippedCourseNames ∨ name ∈ names then names else names ++ [name]) []

def matchLabels (text : Text) (patterns : List (Regex × Text)) : List Text :=
  patterns.foldl (fun found item =>
    if (item.1.search text).isSome ∧ item.2 ∉ found then found ++ [item.2] else found) []

/-- `f"{head} {suffix}".strip() if suffix else head`. -/
def decorate (head : Text) (constraints : List Text) : Text :=
  let suffix := join ['；'] (constraints.take 2)
  if suffix = [] then head else strip (head ++ ' '::suffix)

def orderFacts (text : Text) (slots : Option SessionSlots) : List Text :=
  match extractOrderNo text with
  | none => []
  | some number =>
    if number = [] ∨ number = slotText (·.lastOrderNo) slots then []
    else [decorate number (matchLabels text orderConstraints)]

def courseFacts (text : Text) (slots : Option SessionSlots) : List Text :=
  let own := slotText (·.lastCourseName) slots
  ((extractCourseNames text).filter (fun name => ¬(own ≠ [] ∧ name = own))).map
    (fun name => decorate name (matchLabels text courseConstraints))

def intentFrom (order course : Bool) : Text :=
  if order && course then intentMixed
  else if order then intentOrder
  else if course then intentCourse
  else []

def factsFromOne (text : Text) (slots : Option SessionSlots) : StructuredSummary :=
  let orderLabels := matchLabels text orderConstraints
  let courseLabels := matchLabels text courseConstraints
  { orders := orderFacts text slots
    courses := courseFacts text slots
    intent := intentFrom (orderLabels ≠ []) (courseLabels ≠ [])
    confirmed := applyExclusiveSequence
      (courseLabels ++ orderLabels ++ matchLabels text assistantConclusions) none
    pending := matchLabels text pendingPatterns }

def orderLabels : List Text := [refundWanted,trackingParcel,cancelWanted,progressAsked]

def courseLabels : List Text :=
  [unfitForBeginners,fitForBeginners,tooHard,priceAsked,outlineAsked]

def inferIntent (summary : StructuredSummary) : Text :=
  intentFrom (summary.orders ≠ [] || summary.confirmed.any orderLabels.contains)
    (summary.courses ≠ [] || summary.confirmed.any courseLabels.contains)

def addFacts (slots : Option SessionSlots) (acc : StructuredSummary) (message : Message) :
    StructuredSummary :=
  let text := strip message.text
  if text = [] then acc else acc.merge (factsFromOne text slots)

def extractSummaryFacts (overflow : List Message) (slots : Option SessionSlots) :
    StructuredSummary :=
  let acc := overflow.foldl (addFacts slots) empty
  let intent := match intentLabel (slotText (·.lastIntent) slots) with
    | some label => label
    | none => if acc.intent = [] then inferIntent acc else acc.intent
  ({ acc with intent := intent } : StructuredSummary).resolve slots

def finalizeStructured (summary : StructuredSummary) (slots : Option SessionSlots)
    (maxChars : Option Int) : Text :=
  let resolved := summary.resolve slots
  if resolved.hasContent then resolved.render maxChars else []

def finalizeSummary (text : Option Text) (slots : Option SessionSlots) (maxChars : Option Int) :
    Text :=
  finalizeStructured (parse text) slots maxChars

def foldSessionSummary (existing : Option Text) (overflow : List Message) (maxChars : Option Int)
    (slots : Option SessionSlots) : Text :=
  finalizeStructured ((parse existing).merge (extractSummaryFacts overflow slots)) slots maxChars

end CustomerService.SummaryFacts
