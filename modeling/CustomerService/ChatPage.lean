import CustomerService.EventStream
import Mathlib.Data.List.Induction

/-! What the page of a chat shows of a turn: each event that is read changes the answer's place on the
page, and the place is settled when the stream ends. -/
namespace CustomerService.EventStream

open Text Json

inductive Shown (Html : Type)
  | plain (text : Text)
  | markdown (html : Html)

/-- The place of one answer with the classes of its text, and the session that the browser keeps. -/
structure Page (Html : Type) where
  status : Text
  shown : Shown Html
  md : Bool
  error : Bool
  streaming : Bool
  buffer : Text
  gotToken : Bool
  requestId : Text
  traceId : Text
  sessionId : Text
  feedback : Bool
  stored : Option Text

variable {Html : Type}

/-- `addBotShell`, as `ask` goes on with it. -/
def addBotShell (stored : Option Text) : Page Html where
  status := "正在处理…".toList
  shown := .plain []
  md := false
  error := false
  streaming := true
  buffer := []
  gotToken := false
  requestId := []
  traceId := []
  sessionId := []
  feedback := false
  stored := stored

/-- A field that is tested and used as a text. The server sends these as texts or as `null`; an absent
field, `null` and the empty text are all false. -/
def field (data : Json) (key : Text) : Text :=
  match data with
  | obj pairs =>
    match pairs.lookup key with
    | some (str text) => text
    | _ => []
  | _ => []

def orText (text fallback : Text) : Text := if text = [] then fallback else text

def Page.setBotPlain (page : Page Html) (text : Text) : Page Html :=
  { page with md := false, error := false, streaming := true, shown := .plain text, buffer := text }

def Page.appendBotToken (page : Page Html) (piece : Text) : Page Html :=
  let buffer := (if page.gotToken then page.buffer else []) ++ piece
  { page with gotToken := true, md := false, error := false, streaming := true, shown := .plain buffer,
              buffer := buffer }

/-- `render` is the HTML of a Markdown text, if the page has the libraries for it. -/
def Page.finalizeBot (render : Text → Option Html) (page : Page Html) (text : Text) (isError : Bool) :
    Page Html :=
  let page := { page with status := [], buffer := text, streaming := false, error := isError }
  if isError then { page with md := false, shown := .plain (orText text "服务内部错误".toList) }
  else
    match render text with
    | some html => { page with md := true, shown := .markdown html }
    | none => { page with md := false, shown := .plain text }

def Page.attachFeedback (page : Page Html) : Page Html :=
  if page.traceId = [] ∧ page.requestId = [] ∧ page.sessionId = [] then page
  else { page with feedback := true }

def Page.identify (page : Page Html) (data : Json) : Page Html :=
  { page with
    requestId := orText (field data "request_id".toList) page.requestId
    traceId := orText (field data "trace_id".toList) page.traceId }

def Page.keepSession (page : Page Html) (session : Text) : Page Html :=
  if session = [] then page else { page with stored := some session, sessionId := session }

def Page.handle (render : Text → Option Html) (page : Page Html) (event : Text × Json) : Page Html :=
  let name := event.1
  let data := event.2
  if name = ['m','e','t','a'] ∧ field data "session_id".toList ≠ [] then
    (page.keepSession (field data "session_id".toList)).identify data
  else if name = ['s','t','a','t','u','s'] ∧ field data "message".toList ≠ [] then
    { page with status := field data "message".toList }
  else if name = ['t','o','k','e','n'] ∧ field data "content".toList ≠ [] then
    page.appendBotToken (field data "content".toList)
  else if name = ['a','n','s','w','e','r'] ∧ field data "answer".toList ≠ [] then
    if page.gotToken then
      { page with buffer := field data "answer".toList, shown := .plain (field data "answer".toList) }
    else page.setBotPlain (field data "answer".toList)
  else if name = ['d','o','n','e'] then
    let known := (page.keepSession (field data "session_id".toList)).identify data
    (known.finalizeBot render (orText (field data "answer".toList) known.buffer) false).attachFeedback
  else if name = ['e','r','r','o','r'] then
    page.finalizeBot render (orText (field data "detail".toList) "服务内部错误".toList) true
  else page

inductive Ending
  | closed
  | failed

def Page.close (render : Text → Option Html) (page : Page Html) : Ending → Page Html
  | .closed =>
    if !page.md && !page.error then
      page.finalizeBot render (orText page.buffer "（无回复）".toList) page.buffer.isEmpty
    else page
  | .failed => page.finalizeBot render "网络异常，请稍后重试".toList true

/-- `ask`, from a response on that is no failure. -/
def ask (render : Text → Option Html) (stored : Option Text) (pieces : List Text) (ending : Ending) : Page Html :=
  ((received pieces).foldl (Page.handle render) (addBotShell stored)).close render ending

/-! ### The events of a turn -/

def optional : Option Text → Json
  | none => word .null
  | some text => str text

def ofBool (value : Bool) : Json := word (if value then .true else .false)

/-- `ChatTurn.meta_event`. -/
def metaEvent (sessionId userId tenantId requestId traceId : Text) : Sent :=
  (['m','e','t','a'],
    [("session_id".toList,str sessionId),("user_id".toList,str userId),("tenant_id".toList,str tenantId),
      ("request_id".toList,str requestId)] ++ if traceId = [] then [] else [("trace_id".toList,str traceId)])

/-- What `events_from_stream_item` makes of the frames of a turn. -/
inductive Frame
  | status (node message : Text)
  | token (content : Text)
  | answer (answer intent : Text) (blocked : Bool)

def Frame.sent : Frame → Sent
  | .status node message =>
    (['s','t','a','t','u','s'],[("node".toList,str node),("message".toList,str message)])
  | .token content => (['t','o','k','e','n'],[("content".toList,str content)])
  | .answer text intent blocked =>
    (['a','n','s','w','e','r'],
      [("answer".toList,str text),("intent".toList,str intent),("blocked".toList,ofBool blocked)])

/-- `ChatResponse` with its dictionaries as JSON. -/
structure Response where
  answer : Text
  intent : Text
  blocked : Bool
  structured : Json
  visualization : Option Text
  ossUrl : Option Text
  sessionId : Text
  usage : Json
  requestId : Option Text
  traceId : Option Text

def doneEvent (response : Response) : Sent :=
  (['d','o','n','e'],
    [("answer".toList,str response.answer),("intent".toList,str response.intent),
      ("blocked".toList,ofBool response.blocked),("structured".toList,response.structured),
      ("visualization".toList,optional response.visualization),("oss_url".toList,optional response.ossUrl),
      ("session_id".toList,str response.sessionId),("usage".toList,response.usage),
      ("request_id".toList,optional response.requestId),("trace_id".toList,optional response.traceId)])

structure Turn where
  sessionId : Text
  userId : Text
  tenantId : Text
  requestId : Text
  traceId : Text
  frames : List Frame
  response : Option Response

def Turn.opening (turn : Turn) : Sent :=
  metaEvent turn.sessionId turn.userId turn.tenantId turn.requestId turn.traceId

def Turn.events (turn : Turn) : List Sent :=
  body turn.opening (turn.frames.map Frame.sent ++ turn.response.toList.map doneEvent) turn.response.isNone

def Frame.speaks : Frame → Bool
  | .token content => !content.isEmpty
  | _ => false

/-- What a turn has said, from its last frame back: an answer replaces all before it, and the first token
what stood there until then. -/
def saidBack : List Frame → Text
  | [] => []
  | (.status _ _)::before => saidBack before
  | (.token content)::before =>
    if content = [] then saidBack before
    else (if before.any Frame.speaks then saidBack before else []) ++ content
  | (.answer answer _ _)::before => if answer = [] then saidBack before else answer

def said (frames : List Frame) : Text := saidBack frames.reverse

/-! ### What the page reads of them -/

def shut (sent : Sent) : Text × Json := (sent.1,obj sent.2)

section
variable (render : Text → Option Html) (page : Page Html)

private theorem handle_opening (turn : Turn) (named : turn.sessionId ≠ []) :
    page.handle render (shut turn.opening) =
      { page with
        stored := some turn.sessionId
        sessionId := turn.sessionId
        requestId := orText turn.requestId page.requestId
        traceId := orText turn.traceId page.traceId } := by
  have session : field (shut turn.opening).2 "session_id".toList = turn.sessionId := rfl
  have request : field (shut turn.opening).2 "request_id".toList = turn.requestId := rfl
  have trace : field (shut turn.opening).2 "trace_id".toList = turn.traceId := by
    unfold Turn.opening metaEvent
    split_ifs with absent
    · exact absent.symm
    · rfl
  rw [Page.handle]
  dsimp only
  rw [if_pos ⟨rfl,session ▸ named⟩,session,Page.keepSession,if_neg named,Page.identify,request,trace]

theorem apart {name other : Text} {rest : Prop} (differs : name ≠ other) : ¬(name = other ∧ rest) :=
  fun both => differs both.1

private theorem handle_status (node message : Text) :
    ∃ status, page.handle render (shut (Frame.status node message).sent) = { page with status := status } := by
  by_cases empty : message = []
  · subst empty
    exact ⟨page.status,rfl⟩
  · have read : field (shut (Frame.status node message).sent).2 "message".toList = message := rfl
    refine ⟨message,?_⟩
    rw [Page.handle]
    dsimp only
    rw [if_neg (apart (by simp [shut,Frame.sent])),if_pos ⟨rfl,read ▸ empty⟩,read]

private theorem handle_token (content : Text) :
    page.handle render (shut (Frame.token content).sent) =
      if content = [] then page else page.appendBotToken content := by
  have read : field (shut (Frame.token content).sent).2 "content".toList = content := rfl
  have name : (shut (Frame.token content).sent).1 = ['t','o','k','e','n'] := rfl
  rw [Page.handle]
  dsimp only
  rw [read,name]
  split_ifs <;> simp_all

private theorem handle_answer (text intent : Text) (blocked : Bool) :
    page.handle render (shut (Frame.answer text intent blocked).sent) =
      if text = [] then page
      else if page.gotToken then { page with buffer := text, shown := .plain text }
      else page.setBotPlain text := by
  have read : field (shut (Frame.answer text intent blocked).sent).2 "answer".toList = text := rfl
  have name : (shut (Frame.answer text intent blocked).sent).1 = ['a','n','s','w','e','r'] := rfl
  rw [Page.handle]
  dsimp only
  rw [read,name]
  split_ifs <;> simp_all

private theorem handle_done (response : Response) :
    ∃ known : Page Html, known.buffer = page.buffer ∧
      (response.sessionId ≠ [] → known.stored = some response.sessionId) ∧
      page.handle render (shut (doneEvent response)) =
        (known.finalizeBot render (orText response.answer page.buffer) false).attachFeedback := by
  have read : field (shut (doneEvent response)).2 "answer".toList = response.answer := rfl
  have session : field (shut (doneEvent response)).2 "session_id".toList = response.sessionId := rfl
  have name : (shut (doneEvent response)).1 = ['d','o','n','e'] := rfl
  have buffer : (page.keepSession response.sessionId).buffer = page.buffer := by
    unfold Page.keepSession
    split_ifs <;> rfl
  refine ⟨(page.keepSession response.sessionId).identify (shut (doneEvent response)).2,buffer,?_,?_⟩
  · intro named
    rw [Page.keepSession,if_neg named]
    rfl
  · rw [Page.handle]
    dsimp only
    rw [read,name,session,if_neg (apart (by decide)),if_neg (apart (by decide)),if_neg (apart (by decide)),
      if_neg (apart (by decide)),if_pos rfl,← buffer]
    rfl

private theorem handle_broken : page.handle render (shut brokenEvent) =
    page.finalizeBot render "服务内部错误".toList true := by
  have read : field (shut brokenEvent).2 "detail".toList = "服务内部错误".toList := rfl
  have name : (shut brokenEvent).1 = ['e','r','r','o','r'] := rfl
  have same : orText "服务内部错误".toList "服务内部错误".toList = "服务内部错误".toList := ite_self _
  rw [Page.handle]
  dsimp only
  rw [read,name,if_neg (apart (by decide)),if_neg (apart (by decide)),if_neg (apart (by decide)),
    if_neg (apart (by decide)),if_neg (by decide),if_pos rfl,same]

private theorem stored_finalizeBot (text : Text) (isError : Bool) :
    (page.finalizeBot render text isError).stored = page.stored := by
  unfold Page.finalizeBot
  cases isError with
  | true => rfl
  | false =>
    dsimp only
    rw [if_neg Bool.false_ne_true]
    cases render text <;> rfl

private theorem stored_close (ending : Ending) : (page.close render ending).stored = page.stored := by
  cases ending with
  | closed =>
    unfold Page.close
    dsimp only
    split_ifs
    · exact stored_finalizeBot render page _ _
    · rfl
  | failed => exact stored_finalizeBot render page _ _

omit render in
theorem stored_attachFeedback : page.attachFeedback.stored = page.stored := by
  unfold Page.attachFeedback
  split_ifs <;> rfl

private theorem stored_frame (frame : Frame) : (page.handle render (shut frame.sent)).stored = page.stored := by
  cases frame with
  | status node message =>
    obtain ⟨status,same⟩ := handle_status render page node message
    rw [same]
  | token content =>
    rw [handle_token]
    split_ifs <;> rfl
  | answer text intent blocked =>
    rw [handle_answer]
    split_ifs <;> rfl

private theorem stored_frames (frames : List Frame) :
    (frames.foldl (fun page frame => page.handle render (shut frame.sent)) page).stored = page.stored := by
  induction frames generalizing page with
  | nil => rfl
  | cons frame frames ih => exact (ih _).trans (stored_frame render page frame)

/-! ### A turn on the page -/

/-- A page that stands for what was said so far, before the end of the turn. -/
structure Page.Speaks (page : Page Html) (frames : List Frame) : Prop where
  open' : page.md = false ∧ page.error = false
  buffer : page.buffer = said frames
  gotToken : page.gotToken = frames.any Frame.speaks

private theorem said_status (frames : List Frame) (node message : Text) :
    said (frames ++ [.status node message]) = said frames := by
  rw [said,List.reverse_append]
  rfl

private theorem said_token (frames : List Frame) (content : Text) : said (frames ++ [.token content]) =
    if content = [] then said frames else (if frames.any Frame.speaks then said frames else []) ++ content := by
  rw [said,List.reverse_append,← List.any_reverse]
  rfl

private theorem said_answer (frames : List Frame) (text intent : Text) (blocked : Bool) :
    said (frames ++ [.answer text intent blocked]) = if text = [] then said frames else text := by
  rw [said,List.reverse_append]
  rfl

theorem Page.Speaks.frame {page : Page Html} {frames : List Frame} (speaks : page.Speaks frames) (frame : Frame) :
    (page.handle render (shut frame.sent)).Speaks (frames ++ [frame]) := by
  obtain ⟨open',buffer,gotToken⟩ := speaks
  have any : (frames ++ [frame]).any Frame.speaks = (page.gotToken || frame.speaks) := by
    rw [List.any_append,gotToken]
    exact congrArg _ (Bool.or_false _)
  cases frame with
  | status node message =>
    obtain ⟨status,same⟩ := handle_status render page node message
    rw [same]
    exact ⟨open',buffer.trans (said_status frames node message).symm,any ▸ (Bool.or_false _).symm⟩
  | token content =>
    rw [handle_token]
    split_ifs with empty
    · refine ⟨open',?_,?_⟩
      · rw [said_token,if_pos empty,buffer]
      · rw [any,empty]
        exact (Bool.or_false _).symm
    · refine ⟨⟨rfl,rfl⟩,?_,?_⟩
      · rw [said_token,if_neg empty,← gotToken,← buffer]
        rfl
      · have speaks : (Frame.token content).speaks = true := by simpa [Frame.speaks] using empty
        rw [any,speaks]
        exact (Bool.or_true _).symm
  | answer text intent blocked =>
    have spoken : page.gotToken = (frames ++ [Frame.answer text intent blocked]).any Frame.speaks :=
      any ▸ (Bool.or_false _).symm
    rw [handle_answer]
    split_ifs with empty got
    · exact ⟨open',by rw [said_answer,if_pos empty,buffer],spoken⟩
    · exact ⟨open',by rw [said_answer,if_neg empty],spoken⟩
    · exact ⟨⟨rfl,rfl⟩,by rw [said_answer,if_neg empty]; rfl,spoken⟩

private theorem speaks_frames {page : Page Html} (fresh : page.Speaks []) (frames : List Frame) :
    (frames.foldl (fun page frame => page.handle render (shut frame.sent)) page).Speaks frames := by
  induction frames using List.reverseRecOn with
  | nil => exact fresh
  | append_singleton frames frame ih =>
    rw [List.foldl_append]
    exact ih.frame render frame

/-- What is shown when an answer's place is settled. -/
structure Page.Settled (page : Page Html) (text : Text) (isError : Bool) : Prop where
  over' : page.streaming = false ∧ page.status = []
  error : page.error = isError
  buffer : page.buffer = text
  md : page.md = (!isError && (render text).isSome)
  shown : page.shown = if isError then .plain text else (render text).elim (.plain text) .markdown

private theorem settled_finalizeBot {text : Text} (some' : text ≠ []) (isError : Bool) :
    (page.finalizeBot render text isError).Settled render text isError := by
  unfold Page.finalizeBot
  cases isError with
  | true => exact ⟨⟨rfl,rfl⟩,rfl,rfl,rfl,congrArg Shown.plain (if_neg some')⟩
  | false =>
    dsimp only
    rw [if_neg Bool.false_ne_true]
    cases rendered : render text with
    | none => exact ⟨⟨rfl,rfl⟩,rfl,rfl,by rw [rendered]; rfl,by rw [rendered]; rfl⟩
    | some html => exact ⟨⟨rfl,rfl⟩,rfl,rfl,by rw [rendered]; rfl,by rw [rendered]; rfl⟩

variable {render page}

theorem Page.Settled.attachFeedback {text : Text} {isError : Bool} (settled : page.Settled render text isError) :
    page.attachFeedback.Settled render text isError := by
  unfold Page.attachFeedback
  split_ifs
  · exact settled
  · exact ⟨settled.over',settled.error,settled.buffer,settled.md,settled.shown⟩

theorem Page.Settled.close {text : Text} {isError : Bool} (settled : page.Settled render text isError)
    (some' : text ≠ []) : (page.close render .closed).Settled render text isError := by
  unfold Page.close
  dsimp only
  split_ifs with bare
  · obtain ⟨_,plain⟩ := Bool.and_eq_true_iff.mp bare
    obtain rfl : isError = false := settled.error ▸ (Bool.not_eq_true' _).mp plain
    rw [settled.buffer,orText,if_neg some',List.isEmpty_eq_false_iff.mpr some']
    exact settled_finalizeBot render page some' false
  · exact settled

theorem Page.Speaks.close {frames : List Frame} (speaks : page.Speaks frames) :
    (page.close render .closed).Settled render (orText (said frames) "（无回复）".toList) (said frames).isEmpty := by
  obtain ⟨⟨plain,fine⟩,buffer,_⟩ := speaks
  have some' : orText (said frames) "（无回复）".toList ≠ [] := by
    unfold orText
    split_ifs with empty
    · rw [String.toList_ofList]
      exact List.cons_ne_nil _ _
    · exact empty
  unfold Page.close
  dsimp only
  rw [plain,fine,buffer]
  exact settled_finalizeBot render page some' _

end

/-! ### A turn as it is served -/

def Turn.last (turn : Turn) : Sent := turn.response.elim brokenEvent doneEvent

/-- What the last event puts in the answer's place, and whether as an error. -/
def Turn.result (turn : Turn) : Text := turn.response.elim "服务内部错误".toList Response.answer

/-- The frames that lie wholly in what has come of the turn's stream. -/
structure Turn.Seen (turn : Turn) (came : Text) (seen : List Frame) : Prop where
  first : seen <+: turn.frames
  whole : ∀ frames, frames <+: turn.frames → frames ≠ [] →
    (frames <+: seen ↔ stream (turn.opening::frames.map Frame.sent) <+: came)

private theorem events_eq (turn : Turn) :
    turn.events = turn.opening::turn.frames.map Frame.sent ++ [turn.last] := by
  unfold Turn.events Turn.last body
  cases turn.response with
  | none => simp
  | some response => simp

theorem Turn.opened_prefix (turn : Turn) {frames : List Frame} (first : frames <+: turn.frames) :
    turn.opening::frames.map Frame.sent <+: turn.events := by
  rw [events_eq,List.cons_append]
  exact List.cons_prefix_cons.mpr ⟨rfl,(first.map _).trans (List.prefix_append _ _)⟩

/-- The response is one that the turn of this session can give. -/
structure Turn.Answers (turn : Turn) : Prop where
  named : turn.sessionId ≠ []
  response : ∀ response ∈ turn.response, response.answer ≠ [] ∧ response.sessionId = turn.sessionId ∧
    Sendable (doneEvent response)

section
variable {turn : Turn} (answers : turn.Answers) (render : Text → Option Html) (stored : Option Text)
include answers

private theorem sendable_events : ∀ event ∈ turn.events, Sendable event := by
  intro event listed
  rw [events_eq,List.mem_append,List.mem_cons,List.mem_singleton] at listed
  rcases listed with (rfl | framed) | rfl
  · have named : ['m','e','t','a'] ∈ eventNames := by decide
    unfold Turn.opening metaEvent
    split_ifs
    · exact ⟨named,rfl,rfl⟩
    · exact ⟨named,rfl,rfl⟩
  · obtain ⟨frame,_,rfl⟩ := List.mem_map.mp framed
    cases frame with
    | status node message => exact ⟨(by decide : ['s','t','a','t','u','s'] ∈ eventNames),rfl,rfl⟩
    | token content => exact ⟨(by decide : ['t','o','k','e','n'] ∈ eventNames),rfl,rfl⟩
    | answer text intent blocked =>
      have named : ['a','n','s','w','e','r'] ∈ eventNames := by decide
      cases blocked with
      | true => exact ⟨named,rfl,rfl⟩
      | false => exact ⟨named,rfl,rfl⟩
  · unfold Turn.last
    cases given : turn.response with
    | none => exact sendable_broken
    | some response => exact (answers.response response given).2.2

private theorem speaks_opening (frames : List Frame) :
    let page : Page Html := (shut turn.opening::frames.map (shut ∘ Frame.sent)).foldl
      (Page.handle render) (addBotShell stored)
    page.Speaks frames ∧ page.stored = some turn.sessionId := by
  dsimp only
  rw [List.foldl_cons,List.foldl_map,handle_opening render _ turn answers.named]
  constructor
  · exact speaks_frames render ⟨⟨rfl,rfl⟩,rfl,rfl⟩ frames
  · exact stored_frames render _ frames

private theorem settled_last :
    let page : Page Html := (turn.events.map shut).foldl (Page.handle render) (addBotShell stored)
    page.Settled render turn.result turn.response.isNone ∧ page.stored = some turn.sessionId := by
  have before := speaks_opening answers render stored turn.frames
  dsimp only at before ⊢
  rw [events_eq,List.map_append,List.map_cons,List.map_map,List.map_singleton,List.foldl_append]
  generalize List.foldl _ _ (shut turn.opening::_) = page at before ⊢
  rw [List.foldl_cons,List.foldl_nil,Turn.last,Turn.result]
  cases given : turn.response with
  | none =>
    have broken : page.handle render (shut brokenEvent) =
        page.finalizeBot render "服务内部错误".toList true := handle_broken render page
    dsimp only [Option.elim]
    rw [broken]
    constructor
    · apply settled_finalizeBot
      rw [String.toList_ofList]
      exact List.cons_ne_nil _ _
    · rw [stored_finalizeBot,before.2]
  | some response =>
    obtain ⟨some',same,_⟩ := answers.response response given
    obtain ⟨known,_,session,handled⟩ := handle_done render page response
    dsimp only [Option.elim]
    rw [handled,orText,if_neg some']
    constructor
    · exact (settled_finalizeBot render known some' false).attachFeedback
    · rw [stored_attachFeedback,stored_finalizeBot,session (same ▸ answers.named),same]

/-- However the stream of a turn is cut into pieces, the page ends with the turn's answer and keeps its
session. When the connection is closed before that, what stands there is what the frames said that
came in whole. -/
theorem ask_settles {pieces : List Text} (served : pieces.flatten <+: stream turn.events) :
    let page := ask render stored pieces .closed
    (pieces.flatten = stream turn.events →
        page.Settled render turn.result turn.response.isNone ∧ page.stored = some turn.sessionId) ∧
      (pieces.flatten ≠ stream turn.events → ∃ seen, turn.Seen pieces.flatten seen ∧
        page.Settled render (orText (said seen) "（无回复）".toList) (said seen).isEmpty) := by
  have filled : turn.result ≠ [] := by
    unfold Turn.result
    cases given : turn.response with
    | none =>
      rw [String.toList_ofList]
      exact List.cons_ne_nil _ _
    | some response => exact (answers.response response given).1
  constructor
  · intro whole
    obtain ⟨settled,session⟩ := settled_last answers render stored
    rw [ask,(received_stream (sendable_events answers) served).2 whole]
    exact ⟨settled.close filled,(stored_close render _ .closed).trans session⟩
  · intro cut
    obtain ⟨read,first,handed,whole⟩ := received_whole (sendable_events answers) served
    have before : read <+: turn.opening::turn.frames.map Frame.sent := by
      rcases List.prefix_concat_iff.mp (events_eq turn ▸ first) with all | before
      · have same : read = turn.events := all.trans (events_eq turn).symm
        have every := (whole turn.events (List.prefix_refl _)).mp (same ▸ List.prefix_refl _)
        exact absurd (served.eq_of_length_le every.length_le) cut
      · exact before
    rw [ask,handed]
    rcases List.prefix_cons_iff.mp before with none' | ⟨later,opened,seen⟩
    · rw [none']
      refine ⟨[],⟨List.nil_prefix,fun frames listed some' => ?_⟩,Page.Speaks.close ⟨⟨rfl,rfl⟩,rfl,rfl⟩⟩
      rw [← whole _ (turn.opened_prefix listed),none',List.prefix_nil,List.prefix_nil]
      exact ⟨fun empty => absurd empty some',fun empty => absurd empty (List.cons_ne_nil _ _)⟩
    · obtain ⟨count,taken⟩ : ∃ count, later = (turn.frames.take count).map Frame.sent :=
        ⟨later.length,by rw [List.map_take]; exact List.prefix_iff_eq_take.mp seen⟩
      refine ⟨turn.frames.take count,⟨List.take_prefix _ _,fun frames listed _ => ?_⟩,?_⟩
      · rw [← whole _ (turn.opened_prefix listed),opened,taken,List.cons_prefix_cons]
        constructor
        · exact fun inside => ⟨rfl,inside.map _⟩
        · rintro ⟨_,inside⟩
          have short := inside.length_le
          rw [List.length_map,List.length_map] at short
          exact List.prefix_of_prefix_length_le listed (List.take_prefix _ _) short
      · rw [opened,taken,List.map_cons,List.map_map]
        exact (speaks_opening answers render stored _).1.close

end

def streamedTurn : Turn where
  sessionId := ['s']
  userId := ['u']
  tenantId := ['t']
  requestId := ['r']
  traceId := []
  frames := [.token ['h','e','y'],.token ['!'],.answer ['h','e','y'] ['c'] false]
  response := some
    { answer := ['h','e','y']
      intent := ['c']
      blocked := false
      structured := word .null
      visualization := none
      ossUrl := none
      sessionId := ['s']
      usage := word .null
      requestId := none
      traceId := none }

theorem ask_settles_streamed :
    (ask some none [(stream streamedTurn.events).take 40,(stream streamedTurn.events).drop 40]
      .closed).Settled some ['h','e','y'] false := by
  have answers : streamedTurn.Answers := by
    refine ⟨List.cons_ne_nil _ _,?_⟩
    rintro response ⟨⟩
    exact ⟨List.cons_ne_nil _ _,rfl,by decide,rfl,rfl⟩
  have whole : [(stream streamedTurn.events).take 40,(stream streamedTurn.events).drop 40].flatten =
      stream streamedTurn.events := by
    rw [List.flatten_cons,List.flatten_cons,List.flatten_nil,List.append_nil,List.take_append_drop]
  have served : _ <+: stream streamedTurn.events := ⟨[],(List.append_nil _).trans whole⟩
  exact ((ask_settles answers some none served).1 whole).1

end CustomerService.EventStream
