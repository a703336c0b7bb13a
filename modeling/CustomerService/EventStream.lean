import CustomerService.JsonLines
import CustomerService.Blocks

/-! The stream of server-sent events of a chat: what the server writes for each event, and what the
page reads of the pieces that come in. -/
namespace CustomerService.EventStream

open Text Json

abbrev Sent := Text × List (Text × Json)

def eventField : Text := ['e','v','e','n','t',':']

def dataField : Text := ['d','a','t','a',':']

/-- `_sse`; of a value that JSON does not know, `default=str` has made a string. -/
def sse (event : Sent) : Text :=
  eventField ++ ' '::event.1 ++ '\n'::dataField ++ ' '::dumps (obj event.2) ++ ['\n','\n']

def brokenEvent : Sent := (['e','r','r','o','r'],[(['d','e','t','a','i','l'],str "服务内部错误".toList)])

/-- The events that `_body` yields, when it is not cancelled; `raises` says that the turn failed. -/
def body (first : Sent) (rest : List Sent) (raises : Bool) : List Sent :=
  first::rest ++ if raises then [brokenEvent] else []

def stream (events : List Sent) : Text := events.flatMap sse

def eventNames : List Text :=
  [['m','e','t','a'],['s','t','a','t','u','s'],['t','o','k','e','n'],['a','n','s','w','e','r'],
    ['d','o','n','e'],['e','r','r','o','r']]

/-! The page. -/

/-- What `trim` of a JavaScript string takes away. -/
def isBlank (char : Char) : Bool :=
  inRange 0x9 0xd char || char.toNat == 0x20 || char.toNat == 0xa0 || char.toNat == 0x1680 ||
    inRange 0x2000 0x200a char || inRange 0x2028 0x2029 char || char.toNat == 0x202f ||
    char.toNat == 0x205f || char.toNat == 0x3000 || char.toNat == 0xfeff

def trimStart (text : Text) : Text := text.dropWhile isBlank

def trim (text : Text) : Text := (trimStart (trimStart text).reverse).reverse

mutual

/-- No `NaN` and no infinity in it, which `json.dumps` writes and `JSON.parse` refuses. -/
def finite : Json → Bool
  | word name => !([.nan,.infinity,.negInfinity] : List JsonWord).contains name
  | number _ => true
  | str _ => true
  | arr items => finiteItems items
  | obj pairs => finitePairs pairs

def finiteItems : List Json → Bool
  | [] => true
  | item::others => finite item && finiteItems others

def finitePairs : List (Text × Json) → Bool
  | [] => true
  | (_,value)::others => finite value && finitePairs others

end

/-- `JSON.parse`. -/
def parse (text : Text) : Option Json := (loads text).filter finite

/-- The name of the event and its lines of data, with one line more. -/
def readLine (found : Text × List Text) (line : Text) : Text × List Text :=
  if eventField.isPrefixOf line then (trim (line.drop 6),found.2)
  else if dataField.isPrefixOf line then (found.1,found.2 ++ [trimStart (line.drop 5)])
  else found

def readBlock (block : Text) : Option (Text × Json) :=
  let found := (block.splitOn '\n').foldl readLine ("message".toList,[])
  if found.2.isEmpty then none
  else (parse (join ['\n'] found.2)).map (fun data => (found.1,data))

/-- The events that `ask` handles, in the order of their handling, when the decoder hands it the
pieces. -/
def received (pieces : List Text) : List (Text × Json) := (Blocks.feed '\n' [] pieces).1.filterMap readBlock

/-! A frame is read back. -/

def block (event : Sent) : Text := eventField ++ ' '::event.1 ++ '\n'::dataField ++ ' '::dumps (obj event.2)

structure Sendable (event : Sent) : Prop where
  named : event.1 ∈ eventNames
  fit : (obj event.2).valid = true
  finite : EventStream.finite (obj event.2) = true

theorem sendable_broken : Sendable brokenEvent := ⟨by decide,rfl,rfl⟩

private theorem stream_eq (events : List Sent) : stream events = Blocks.written '\n' (events.map block) := by
  unfold stream Blocks.written
  rw [List.flatMap_map]
  rfl

private theorem trim_name {name : Text} (listed : name ∈ eventNames) : trim (' '::name) = name ∧ '\n' ∉ name := by
  have table : ∀ name ∈ eventNames, trim (' '::name) = name ∧ '\n' ∉ name := by decide
  exact table name listed

private theorem dumps_obj_cons (pairs : List (Text × Json)) : ∃ rest, dumps (obj pairs) = '{'::rest := by
  cases pairs with
  | nil => exact ⟨_,rfl⟩
  | cons pair others => exact ⟨_,rfl⟩

section
variable {event : Sent} (sendable : Sendable event)
include sendable

private theorem lines_block : (block event).splitOn '\n' =
    [eventField ++ ' '::event.1,dataField ++ ' '::dumps (obj event.2)] := by
  have name := (trim_name sendable.named).2
  have data := newline_dumps _ sendable.fit
  have joined : block event = join ['\n'] [eventField ++ ' '::event.1,dataField ++ ' '::dumps (obj event.2)] := by
    simp only [block,join,List.intercalate,List.intersperse,List.flatten_cons,List.flatten_nil,
      List.append_assoc,List.cons_append,List.nil_append,List.append_nil]
  rw [joined]
  apply List.splitOn_intercalate '\n' _ (List.cons_ne_nil _ _)
  intro line listed
  rcases List.mem_pair.mp listed with rfl | rfl
  · simp [eventField,name]
  · simp [dataField,data]

private theorem readBlock_block : readBlock (block event) = some (event.1,obj event.2) := by
  obtain ⟨rest,opens⟩ := dumps_obj_cons event.2
  have first : readLine ("message".toList,[]) (eventField ++ ' '::event.1) = (event.1,[]) :=
    congrArg (·,[]) (trim_name sendable.named).1
  have second : readLine (event.1,[]) (dataField ++ ' '::dumps (obj event.2)) =
      (event.1,[dumps (obj event.2)]) := by
    rw [opens]
    rfl
  have read : parse (dumps (obj event.2)) = some (obj event.2) := by
    rw [parse,loads_dumps sendable.fit,Option.filter_some,if_pos sendable.finite]
  have single : join ['\n'] [dumps (obj event.2)] = dumps (obj event.2) := List.append_nil _
  rw [readBlock,lines_block sendable,List.foldl_cons,List.foldl_cons,List.foldl_nil,first,second]
  dsimp only [List.isEmpty_cons]
  rw [if_neg Bool.false_ne_true,single,read]
  rfl

private theorem isBlock_block : Blocks.IsBlock '\n' (block event) := by
  have name : event.1.count '\n' = 0 := List.count_eq_zero.mpr (trim_name sendable.named).2
  have data : (dumps (obj event.2)).count '\n' = 0 := List.count_eq_zero.mpr (newline_dumps _ sendable.fit)
  obtain ⟨before,ends⟩ := JsonLines.dumps_obj_ends event.2
  apply Blocks.isBlock_of_count
  · have field : eventField.count '\n' = 0 ∧ dataField.count '\n' = 0 := by decide
    simp [block,name,data,field]
  · have last : block event =
        (eventField ++ ' '::event.1 ++ '\n'::dataField ++ ' '::before) ++ ['}'] := by
      rw [block,ends]
      simp
    rw [last,List.getLast?_concat]
    decide

end

theorem received_whole {events : List Sent} (sendable : ∀ event ∈ events, Sendable event)
    {pieces : List Text} (served : pieces.flatten <+: stream events) :
    ∃ read, read <+: events ∧ received pieces = read.map (fun event => (event.1,obj event.2)) ∧
      ∀ begun, begun <+: events → (begun <+: read ↔ stream begun <+: pieces.flatten) := by
  have decoded {events : List Sent} (sendable : ∀ event ∈ events, Sendable event) :
      (events.map block).filterMap readBlock = events.map (fun event => (event.1,obj event.2)) := by
    rw [List.filterMap_map,List.filterMap_eq_map_iff_forall_eq_some]
    intro event inside
    exact readBlock_block (sendable event inside)
  have fit {events : List Sent} (sendable : ∀ event ∈ events, Sendable event) :
      ∀ text ∈ events.map block, Blocks.IsBlock '\n' text := by
    intro text inside
    obtain ⟨event,listed,rfl⟩ := List.mem_map.mp inside
    exact isBlock_block (sendable event listed)
  rw [stream_eq] at served
  obtain ⟨count,taken⟩ : ∃ count, (Blocks.feed '\n' [] pieces).1 = (events.take count).map block :=
    ⟨_,by rw [List.map_take]; exact List.prefix_iff_eq_take.mp (Blocks.feed_written (fit sendable) served).1⟩
  have among (count : Nat) : ∀ event ∈ events.take count, Sendable event :=
    fun event listed => sendable event (List.mem_of_mem_take listed)
  refine ⟨events.take count,List.take_prefix _ _,?_,fun begun first => ?_⟩
  · rw [received,taken,decoded (among count)]
  · have whole := @Blocks.prefix_feed_iff _ _ '\n' (begun.map block)
      (fit (fun event listed => sendable event (first.subset listed))) pieces
    rw [taken,← stream_eq] at whole
    rw [← whole]
    constructor
    · exact fun before => before.map block
    · intro before
      have short := before.length_le
      rw [List.length_map,List.length_map] at short
      exact List.prefix_of_prefix_length_le first (List.take_prefix _ _) short

theorem received_stream {events : List Sent} (sendable : ∀ event ∈ events, Sendable event)
    {pieces : List Text} (served : pieces.flatten <+: stream events) :
    received pieces <+: events.map (fun event => (event.1,obj event.2)) ∧
      (pieces.flatten = stream events → received pieces = events.map (fun event => (event.1,obj event.2))) := by
  obtain ⟨read,first,handed,whole⟩ := received_whole sendable served
  rw [handed]
  constructor
  · exact first.map _
  · intro all
    have every := (whole events (List.prefix_refl _)).mpr (all ▸ List.prefix_refl _)
    rw [first.eq_of_length_le every.length_le]

/-- What the page is handed of a chat is read as the events that were sent, in their order, however
it is cut into pieces. When the connection is lost they are the first ones. -/
theorem received_events (first : Sent) (rest : List Sent) (raises : Bool)
    (sendable : ∀ event ∈ first::rest, Sendable event) {pieces : List Text}
    (served : pieces.flatten <+: stream (body first rest raises)) :
    received pieces <+: (body first rest raises).map (fun event => (event.1,obj event.2)) ∧
      (pieces.flatten = stream (body first rest raises) →
        received pieces = (body first rest raises).map (fun event => (event.1,obj event.2))) := by
  apply received_stream _ served
  intro event inside
  rcases List.mem_append.mp inside with turn | failed
  · exact sendable event turn
  · cases raises with
    | true => exact List.mem_singleton.mp failed ▸ sendable_broken
    | false => cases failed

/-- Cut within the name of a field, and before the turn fails. -/
theorem received_events_cut :
    let event : Sent := (['t','o','k','e','n'],[(['c'],str ['h','i','\n'])])
    let sent := stream (body event [event] true)
    received [sent.take 3,(sent.drop 3).take 60] <+: [event,event,brokenEvent].map (fun event => (event.1,obj event.2)) := by
  intro event sent
  have sendable : ∀ other ∈ [event,event], Sendable other := by
    intro other listed
    obtain rfl : other = event := by simpa using listed
    exact ⟨(by decide : ['t','o','k','e','n'] ∈ eventNames),rfl,rfl⟩
  have served : [sent.take 3,(sent.drop 3).take 60].flatten <+: sent := by
    refine ⟨(sent.drop 3).drop 60,?_⟩
    rw [List.flatten_cons,List.flatten_cons,List.flatten_nil,List.append_nil,List.append_assoc,
      List.take_append_drop,List.take_append_drop]
  exact (received_events event [event] true sendable served).1

end CustomerService.EventStream
