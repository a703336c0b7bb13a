import CustomerService.Dict
import CustomerService.PyValue
import CustomerService.ThreadKey
import Mathlib.Data.List.Induction

/-! The short cache of the gateway: what a request is filed under, how a result is written
and read back, and what a hit has to do with the calls before. -/
namespace CustomerService.LlmCache
open Text ThreadKey Py

/-! ### Requests -/

/-- An item of a message list: a message or a dictionary has a role and a content, anything
else only its text. -/
inductive Item
  | message (role : String) (content : Msg)
  | other (text : String)

inductive Payload
  | text (text : String)
  | messages (items : List Item)
  | other (text : String)

/-- What a wrapper has bound to the model, each with its arguments. -/
inductive Binding (Schema : Type)
  | structured (schema : Schema) (arguments : List (String × Msg))
  | tools (arguments : List (String × Msg))
  | bound (arguments : List (String × Msg))
  | config (arguments : List (String × Msg))

structure CallPolicy (Schema : Type) where
  usageTag : String
  cacheEnabled : Bool
  schemaName : String
  schemaType : Option Schema
  temperature : Double
  model : String

/-- A wrapped model: the inner one with its bindings, and the policy. -/
structure ChatModel (Schema : Type) where
  inner : List (Binding Schema)
  policy : CallPolicy Schema

variable {Schema Message Model : Type}

def ChatModel.withStructuredOutput (name : Schema → String) (model : ChatModel Schema)
    (schema : Schema) (arguments : List (String × Msg)) : ChatModel Schema where
  inner := model.inner ++ [.structured schema arguments]
  policy := { model.policy with schemaName := name schema, schemaType := some schema }

def ChatModel.bindTools (model : ChatModel Schema) (arguments : List (String × Msg)) :
    ChatModel Schema where
  inner := model.inner ++ [.tools arguments]
  policy := { model.policy with cacheEnabled := false }

/-- `float(kwargs.get("temperature", policy.temperature))`. -/
def ChatModel.bind (float : Msg → Double) (model : ChatModel Schema)
    (arguments : List (String × Msg)) : ChatModel Schema where
  inner := model.inner ++ [.bound arguments]
  policy := { model.policy with
    temperature := ((arguments.lookup "temperature").map float).getD model.policy.temperature }

def ChatModel.withConfig (model : ChatModel Schema) (arguments : List (String × Msg)) :
    ChatModel Schema where
  inner := model.inner ++ [.config arguments]
  policy := model.policy

structure Request (Schema : Type) where
  tenant : {tenantId : Text // isTenantId tenantId = true}
  model : ChatModel Schema
  payload : Payload
  arguments : List (String × Msg)

/-- The library functions behind the key and the entries: `str()` of what is no string, the
JSON text of an argument, `sha256` of the JSON text of the key's fields, and `ormsgpack`. -/
structure Libraries (Schema Message Model : Type) where
  render : Msg → String
  json : Option Msg → String
  digest : List (String × String) → Text
  packb : Msg → Option Bytes
  unpackb : Bytes → Option Msg
  dumpMessage : Message → List (String × Msg)
  validateMessage : List (String × Msg) → Option Message
  dumpModel : Model → List (String × Msg)
  validateModel : Schema → List (String × Msg) → Option Model
  isPydantic : Schema → Bool

variable (lib : Libraries Schema Message Model)

def itemText : Item → String
  | .message _ content => content.toStr lib.render
  | .other text => text

def payloadText : Payload → String
  | .text text => text
  | .messages items => "\n".intercalate (items.map (itemText lib))
  | .other text => text

/-- The fields of `_cache_fingerprint`; neither the roles nor the bound arguments are among them. -/
def Request.blob (request : Request Schema) : List (String × String) :=
  [("payload",payloadText lib request.payload),
    ("tag",request.model.policy.usageTag),
    ("schema",request.model.policy.schemaName),
    ("model",request.model.policy.model),
    ("temperature",lib.json (some (.atom (.float request.model.policy.temperature)))),
    ("stop",lib.json (request.arguments.lookup "stop"))]

def Request.cacheKey (request : Request Schema) : Text :=
  request.tenant.val ++ ':' :: lib.digest (request.blob lib)

/-! ### Entries -/

inductive Result (Message Model : Type)
  | aiMessage (message : Message)
  | pydantic (model : Model)
  | json (value : Msg)
  | other

def ENVELOPE_MAGIC : Bytes := [76,76,75,49]

def entry (kind : String) (data : Msg) : Msg :=
  .map [("v",.int 1),("kind",.str kind),("data",data)]

def payloadFromResult : Result Message Model → Option Msg
  | .aiMessage message => some (entry "ai_message" (.map (lib.dumpMessage message)))
  | .pydantic model => some (entry "pydantic" (.map (lib.dumpModel model)))
  | .json (.atom (.bytes _)) => none
  | .json value => some (entry "json" value)
  | .other => none

def encodeLlmCache (result : Result Message Model) : Option Bytes :=
  ((payloadFromResult lib result).bind lib.packb).map (fun packed => ENVELOPE_MAGIC ++ packed)

def isOne (value : Option Msg) : Bool :=
  match value with
  | some (.atom value) => value.same (.int 1)
  | _ => false

def dataOf (schemaType : Option Schema) (kind data : Option Msg) : Option (Result Message Model) :=
  match kind,data with
  | some (.atom (.str "ai_message")),some (.map fields) =>
    (lib.validateMessage fields).map Result.aiMessage
  | some (.atom (.str "pydantic")),some (.map fields) =>
    match schemaType.filter lib.isPydantic with
    | some schema => (lib.validateModel schema fields).map Result.pydantic
    | none => none
  | some (.atom (.str "json")),some value => some (.json value)
  | _,_ => none

/-- None too where the value read is `None`, which `_gated` takes for a miss. -/
def decodeLlmCache (raw : Bytes) (schemaType : Option Schema) : Option (Result Message Model) :=
  if ENVELOPE_MAGIC.isPrefixOf raw = false then none
  else
    match lib.unpackb (raw.drop ENVELOPE_MAGIC.length) with
    | some (.map loaded) =>
      if isOne (loaded.lookup "v") then
        match dataOf lib schemaType (loaded.lookup "kind") (loaded.lookup "data") with
        | some (.json (.atom .none)) => none
        | result => result
      else none
    | _ => none

/-! ### Calls -/

abbrev Cache := Dict Text Bytes

def cacheOn (request : Request Schema) (llmCacheEnabled : Bool) : Bool :=
  request.model.policy.cacheEnabled && llmCacheEnabled

/-- `_read_llm_cache` of a call with caching on. -/
def readLlmCache (cache : Cache) (request : Request Schema) : Option (Result Message Model) :=
  (cache.get? (request.cacheKey lib)).bind
    (fun raw => decodeLlmCache lib raw request.model.policy.schemaType)

def writeLlmCache (cache : Cache) (request : Request Schema) (result : Result Message Model) :
    Cache :=
  match encodeLlmCache lib result with
  | none => cache
  | some blob => cache.set (request.cacheKey lib) blob

/-- The steps of any number of calls: one looks into the cache, one has its result and writes
it if it is short enough, and an entry expires. -/
inductive Action (Schema Message Model : Type)
  | look (request : Request Schema) (llmCacheEnabled : Bool)
  | finish (request : Request Schema) (llmCacheEnabled : Bool) (result : Result Message Model)
    (short : Bool)
  | expire (key : Text)

def step (cache : Cache) : Action Schema Message Model → Cache
  | .look _ _ => cache
  | .finish request llmCacheEnabled result short =>
    if cacheOn request llmCacheEnabled && short then writeLlmCache lib cache request result else cache
  | .expire key => cache.erase key

def run (actions : List (Action Schema Message Model)) : Cache := actions.foldl (step lib) ∅

def hit (cache : Cache) (request : Request Schema) (llmCacheEnabled : Bool) :
    Option (Result Message Model) :=
  if cacheOn request llmCacheEnabled then readLlmCache lib cache request else none

/-! ### Reading back -/

/-- `ormsgpack`, the message class and the schemas read back what they have written, and two
keys with different fields differ. -/
structure Documented (lib : Libraries Schema Message Model) (instanceOf : Model → Schema → Prop) :
    Prop where
  packed : ∀ value raw, lib.packb value = some raw → lib.unpackb raw = some value
  messages : ∀ message, lib.validateMessage (lib.dumpMessage message) = some message
  models : ∀ schema model, instanceOf model schema →
    lib.validateModel schema (lib.dumpModel model) = some model
  digest : Function.Injective lib.digest

variable {lib} {instanceOf : Model → Schema → Prop}

/-- Under a schema a model is returned as an instance of it. -/
def Fits (instanceOf : Model → Schema → Prop) (schemaType : Option Schema)
    (result : Result Message Model) : Prop :=
  ∀ model schema, result = .pydantic model → schemaType = some schema → instanceOf model schema

private theorem decode_entry (documented : Documented lib instanceOf) {kind : String} {data : Msg}
    {packed : Bytes} (packs : lib.packb (entry kind data) = some packed)
    (schemaType : Option Schema) :
    decodeLlmCache lib (ENVELOPE_MAGIC ++ packed) schemaType =
      match dataOf lib schemaType (some (.str kind)) (some data) with
      | some (.json (.atom .none)) => none
      | result => result := by
  have magic : ENVELOPE_MAGIC.isPrefixOf (ENVELOPE_MAGIC ++ packed) = true :=
    List.isPrefixOf_iff_prefix.mpr (List.prefix_append _ _)
  have body : (ENVELOPE_MAGIC ++ packed).drop ENVELOPE_MAGIC.length = packed := List.drop_left
  have version : isOne (some (Msg.int 1)) = true := by simp [isOne]
  rw [decodeLlmCache,magic,if_neg (by decide),body,documented.packed _ _ packs]
  show (if isOne (some (Msg.int 1)) = true then _ else _) = _
  rw [if_pos version]
  rfl

theorem decode_encode (documented : Documented lib instanceOf) {result value : Result Message Model}
    {raw : Bytes} {schemaType : Option Schema} (fits : Fits instanceOf schemaType result)
    (encoded : encodeLlmCache lib result = some raw)
    (decoded : decodeLlmCache lib raw schemaType = some value) : value = result := by
  obtain ⟨packed,packs,rfl⟩ := Option.map_eq_some_iff.mp encoded
  obtain ⟨data,given,packs⟩ := Option.bind_eq_some_iff.mp packs
  cases result with
  | aiMessage message =>
    obtain rfl := Option.some.inj given
    rw [decode_entry documented packs] at decoded
    simp only [dataOf,documented.messages,Option.map_some] at decoded
    exact (Option.some.inj decoded).symm
  | pydantic model =>
    obtain rfl := Option.some.inj given
    rw [decode_entry documented packs] at decoded
    cases kept : schemaType.filter lib.isPydantic with
    | none => simp [dataOf,kept] at decoded
    | some schema =>
      have same : schemaType = some schema := (Option.filter_eq_some_iff.mp kept).1
      simp only [dataOf,kept,documented.models schema model (fits model schema rfl same),
        Option.map_some] at decoded
      exact (Option.some.inj decoded).symm
  | json data' =>
    unfold payloadFromResult at given
    split at given
    · rename_i same
      cases same
    · rename_i same
      cases same
    · cases given
    · rename_i same
      cases same
      obtain rfl := Option.some.inj given
      rw [decode_entry documented packs] at decoded
      simp only [dataOf] at decoded
      split at decoded
      · cases decoded
      · exact (Option.some.inj decoded).symm
    · cases given
  | other => cases given

/-! ### Where a hit comes from -/

def Written (lib : Libraries Schema Message Model) (actions : List (Action Schema Message Model))
    (cache : Cache) : Prop :=
  ∀ key raw, cache.get? key = some raw → ∃ request enabled result,
    Action.finish request enabled result true ∈ actions ∧ key = request.cacheKey lib ∧
      encodeLlmCache lib result = some raw

private theorem written_step {actions : List (Action Schema Message Model)} {cache : Cache}
    (written : Written lib actions cache) (action : Action Schema Message Model) :
    Written lib (actions ++ [action]) (step lib cache action) := by
  have later : Written lib (actions ++ [action]) cache := by
    intro key raw found
    obtain ⟨request,enabled,result,member,told⟩ := written key raw found
    exact ⟨request,enabled,result,List.mem_append_left _ member,told⟩
  cases action with
  | look => exact later
  | expire key =>
    intro other raw found
    rw [step,Dict.get?_erase] at found
    split at found
    · cases found
    · exact later other raw found
  | finish request enabled result short =>
    show Written lib _ (if cacheOn request enabled && short then
      writeLlmCache lib cache request result else cache)
    split
    · rename_i kept
      unfold writeLlmCache
      split
      · exact later
      · rename_i blob encoded
        intro other raw found
        rw [Dict.get?_set] at found
        split at found
        · rename_i same
          obtain rfl := Option.some.inj found
          obtain rfl : short = true := (Bool.and_eq_true_iff.mp kept).2
          exact ⟨request,enabled,result,List.mem_append_right _ (List.mem_singleton_self _),same,encoded⟩
        · exact later other raw found
    · exact later

private theorem written_run (actions : List (Action Schema Message Model)) :
    Written lib actions (run lib actions) := by
  induction actions using List.reverseRecOn with
  | nil =>
    intro key raw found
    cases found
  | append_singleton actions action ih =>
    rw [run,List.foldl_append]
    exact written_step ih action

private theorem cacheKey_inj (digest : Function.Injective lib.digest) {first second : Request Schema}
    (same : first.cacheKey lib = second.cacheKey lib) :
    first.tenant = second.tenant ∧ first.blob lib = second.blob lib := by
  obtain ⟨tenants,digests⟩ := (split_at_first (isTenantId_plain first.tenant.property).2.1
    (isTenantId_plain second.tenant.property).2.1).mp same
  exact ⟨Subtype.ext tenants,digest digests⟩

theorem hit_written (digest : Function.Injective lib.digest)
    (actions : List (Action Schema Message Model)) (request : Request Schema) (enabled : Bool)
    (value : Result Message Model) (found : hit lib (run lib actions) request enabled = some value) :
    ∃ earlier enabled' result raw, Action.finish earlier enabled' result true ∈ actions ∧
      earlier.tenant = request.tenant ∧ earlier.blob lib = request.blob lib ∧
      encodeLlmCache lib result = some raw ∧
      decodeLlmCache lib raw request.model.policy.schemaType = some value := by
  unfold hit at found
  split at found
  · obtain ⟨raw,stored,decoded⟩ := Option.bind_eq_some_iff.mp found
    obtain ⟨earlier,enabled',result,member,key,encoded⟩ := written_run actions _ raw stored
    obtain ⟨tenants,blobs⟩ := cacheKey_inj digest key
    exact ⟨earlier,enabled',result,raw,member,tenants.symm,blobs.symm,encoded,decoded⟩
  · cases found

/-! ### Requests that are the same -/

/-- The same messages with the same roles and contents, to the same model under the same schema
and temperature, with the same bound and call arguments. -/
structure Same (first second : Request Schema) : Prop where
  payload : first.payload = second.payload
  inner : first.model.inner = second.model.inner
  schemaType : first.model.policy.schemaType = second.model.policy.schemaType
  model : first.model.policy.model = second.model.policy.model
  temperature : first.model.policy.temperature = second.model.policy.temperature
  arguments : first.arguments = second.arguments

def Action.request? : Action Schema Message Model → Option (Request Schema)
  | .look request _ => some request
  | .finish request .. => some request
  | .expire _ => none

/-- What the key keeps of a request: the joined text of the messages, the tag, the names of schema
and model, and the JSON texts of the temperature and of the `stop` of the call. -/
structure Alike (lib : Libraries Schema Message Model) (first second : Request Schema) : Prop where
  tenant : first.tenant = second.tenant
  payload : payloadText lib first.payload = payloadText lib second.payload
  tag : first.model.policy.usageTag = second.model.policy.usageTag
  schema : first.model.policy.schemaName = second.model.policy.schemaName
  model : first.model.policy.model = second.model.policy.model
  temperature : lib.json (some (.atom (.float first.model.policy.temperature))) =
    lib.json (some (.atom (.float second.model.policy.temperature)))
  stop : lib.json (first.arguments.lookup "stop") = lib.json (second.arguments.lookup "stop")

private theorem alike_of_blob {first second : Request Schema} (tenant : first.tenant = second.tenant)
    (blob : first.blob lib = second.blob lib) : Alike lib first second := by
  simp only [Request.blob,List.cons.injEq,Prod.mk.injEq,true_and,and_true] at blob
  obtain ⟨payload,tag,schema,model,temperature,stop⟩ := blob
  exact ⟨tenant,payload,tag,schema,model,temperature,stop⟩

def Separated (lib : Libraries Schema Message Model) (actions : List (Action Schema Message Model)) :
    Prop :=
  ∀ first second : Request Schema, some first ∈ actions.map Action.request? →
    some second ∈ actions.map Action.request? → Alike lib first second → Same first second

/-- In a run of separated requests every hit is the result that an earlier call of the same
tenant stored for the same request. -/
theorem hits_are_sound (documented : Documented lib instanceOf)
    (before after : List (Action Schema Message Model)) (request : Request Schema) (enabled : Bool)
    (separated : Separated lib (before ++ .look request enabled :: after))
    (fits : ∀ earlier enabled' result short, Action.finish earlier enabled' result short ∈ before →
      Fits instanceOf earlier.model.policy.schemaType result)
    (value : Result Message Model) (found : hit lib (run lib before) request enabled = some value) :
    ∃ earlier enabled', Action.finish earlier enabled' value true ∈ before ∧
      earlier.tenant = request.tenant ∧ Same earlier request := by
  obtain ⟨earlier,enabled',result,raw,member,tenant,blob,encoded,decoded⟩ :=
    hit_written documented.digest before request enabled value found
  have same : Same earlier request := by
    refine separated earlier request ?_ ?_ (alike_of_blob tenant blob)
    · exact List.mem_map.mpr ⟨_,List.mem_append_left _ member,rfl⟩
    · exact List.mem_map.mpr ⟨_,List.mem_append_right _ List.mem_cons_self,rfl⟩
  have kept := fits earlier enabled' result true member
  rw [same.schemaType] at kept
  rw [decode_encode documented kept encoded decoded]
  exact ⟨earlier,enabled',member,tenant,same⟩

/-! ### The classifier's cache -/

/-- A string with a mark before each character and a closing quote. -/
def quoted : List Char → Text → Text
  | [],rest => '"' :: rest
  | char :: chars,rest => '\\' :: char :: quoted chars rest

/-- In place of `sha256`: the fields themselves. -/
def spell : List (String × String) → Text
  | [] => []
  | (name,value) :: fields => quoted name.toList (quoted value.toList (spell fields))

private theorem quoted_inj {first second rest rest' : Text}
    (same : quoted first rest = quoted second rest') : first = second ∧ rest = rest' := by
  induction first generalizing second with
  | nil =>
    cases second with
    | nil => exact ⟨rfl,List.tail_eq_of_cons_eq same⟩
    | cons char chars => simp [quoted] at same
  | cons char chars ih =>
    cases second with
    | nil => simp [quoted] at same
    | cons char' chars' =>
      obtain ⟨-,head,tail⟩ : True ∧ char = char' ∧ quoted chars rest = quoted chars' rest' := by
        simpa [quoted] using same
      obtain ⟨rfl,rfl⟩ := ih tail
      exact ⟨by rw [head],rfl⟩

private theorem spell_injective : Function.Injective spell := by
  intro first
  induction first with
  | nil =>
    intro second same
    cases second with
    | nil => rfl
    | cons field fields =>
      obtain ⟨name,value⟩ := field
      cases chars : name.toList <;> simp [spell,quoted,chars] at same
  | cons field fields ih =>
    obtain ⟨name,value⟩ := field
    intro second same
    cases second with
    | nil => cases chars : name.toList <;> simp [spell,quoted,chars] at same
    | cons field' fields' =>
      obtain ⟨name',value'⟩ := field'
      obtain ⟨names,rest⟩ := quoted_inj same
      obtain ⟨values,rest⟩ := quoted_inj rest
      rw [String.toList_injective names,String.toList_injective values,ih rest]

structure Urgent where
  urgent : Bool
deriving DecidableEq

/-- `msgpack` of `{"v": 1, "kind": "pydantic", "data": {"urgent": …}}`. -/
def urgentBytes (value : Bool) : Bytes :=
  [0x83,0xa1,0x76,0x01,0xa4,0x6b,0x69,0x6e,0x64,0xa8,0x70,0x79,0x64,0x61,0x6e,0x74,0x69,0x63,
    0xa4,0x64,0x61,0x74,0x61,0x81,0xa6,0x75,0x72,0x67,0x65,0x6e,0x74,if value then 0xc3 else 0xc2]

def urgentEntry (value : Bool) : Msg := entry "pydantic" (.map [("urgent",.atom (.bool value))])

def readUrgent : Msg → Option Bool
  | .map [("v",.atom (.int 1)),("kind",.atom (.str "pydantic")),
      ("data",.map [("urgent",.atom (.bool value))])] => some value
  | _ => none

def pythonLibraries : Libraries Unit Empty Urgent where
  render _ := ""
  json
    | none => "null"
    | some (.atom (.float value)) => if value.bits = 0 then "0.0" else "0.5"
    | some value => value.toStr (fun _ => "")
  digest := spell
  packb value := (readUrgent value).map urgentBytes
  unpackb raw :=
    if raw = urgentBytes true then some (urgentEntry true)
    else if raw = urgentBytes false then some (urgentEntry false)
    else none
  dumpMessage message := message.elim
  validateMessage _ := none
  dumpModel model := [("urgent",.atom (.bool model.urgent))]
  validateModel _
    | [("urgent",.atom (.bool value))] => some ⟨value⟩
    | _ => none
  isPydantic _ := true

private theorem readUrgent_entry {value : Msg} {urgent : Bool} (read : readUrgent value = some urgent) :
    value = urgentEntry urgent := by
  unfold readUrgent at read
  split at read
  · rw [← Option.some.inj read]
    rfl
  · cases read

private theorem python_documented : Documented pythonLibraries (fun _ _ => True) where
  packed value raw packs := by
    obtain ⟨urgent,read,rfl⟩ := Option.map_eq_some_iff.mp packs
    rw [readUrgent_entry read]
    cases urgent <;> rfl
  messages message := message.elim
  models _ _ _ := rfl
  digest := spell_injective

def chatModel : ChatModel Unit :=
  (ChatModel.withStructuredOutput (fun _ => "Urgent")
    ⟨[],⟨"classify",true,"",none,⟨0⟩,"chat"⟩⟩ () [])

def askModel (items : List Item) (stop : List (String × Msg)) (bound : List (String × Msg)) :
    Request Unit where
  tenant := ⟨"demo".toList,by decide⟩
  model := chatModel.bind (fun _ => ⟨0⟩) bound
  payload := .messages items
  arguments := stop

def greeting : Request Unit := askModel [.message "human" (.str "hi")] [] []

def urgent : Result Empty Urgent := .pydantic ⟨true⟩

private theorem hit_urgent (first second : Request Unit) (on : cacheOn first true = true)
    (on' : cacheOn second true = true) (schema : second.model.policy.schemaType = some ())
    (key : first.cacheKey pythonLibraries = second.cacheKey pythonLibraries) :
    hit pythonLibraries (run pythonLibraries [.finish first true urgent true]) second true =
      some urgent := by
  have cached : run pythonLibraries [.finish first true urgent true] =
      Dict.set ∅ (second.cacheKey pythonLibraries) (ENVELOPE_MAGIC ++ urgentBytes true) := by
    rw [← key]
    show (if cacheOn first true && true then writeLlmCache pythonLibraries ∅ first urgent else ∅) = _
    rw [on]
    rfl
  have packs : pythonLibraries.packb (urgentEntry true) = some (urgentBytes true) := rfl
  rw [hit,if_pos on',readLlmCache,cached,Dict.get?_set,if_pos rfl,Option.bind_some,schema,
    decode_entry python_documented packs]
  rfl

theorem hits_are_sound_urgent : ∃ earlier enabled',
    Action.finish earlier enabled' urgent true ∈ [Action.finish greeting true urgent true] ∧
      earlier.tenant = greeting.tenant ∧ Same earlier greeting := by
  refine hits_are_sound python_documented _ [] _ true ?_ ?_ _ ?_
  · intro first second one two _
    obtain rfl : first = greeting := by simpa [Action.request?] using one
    obtain rfl : second = greeting := by simpa [Action.request?] using two
    exact ⟨rfl,rfl,rfl,rfl,rfl,rfl⟩
  · intro earlier enabled' result short _ model schema _ _
    trivial
  · exact hit_urgent _ _ rfl rfl rfl rfl

/-- Pairs of requests with one entry: the roles differ, the messages are cut elsewhere, what is
bound differs, an argument of the call differs. -/
def mistaken : List (Request Unit × Request Unit) :=
  [(askModel [.message "system" (.str "hi")] [] [],greeting),
    (askModel [.message "human" (.str "a"),.message "human" (.str "b")] [] [],
      askModel [.message "human" (.str "a\nb")] [] []),
    (askModel [] [] [("stop",.str "。")],askModel [] [] []),
    (askModel [] [("max_tokens",.int 1)] [],askModel [] [] [])]

theorem different_requests_hit : mistaken.Forall (fun pair =>
    hit pythonLibraries (run pythonLibraries [.finish pair.1 true urgent true]) pair.2 true =
        some urgent ∧
      ¬ ∃ earlier enabled', Action.finish earlier enabled' urgent true ∈
          [Action.finish pair.1 true urgent true] ∧
        earlier.tenant = pair.2.tenant ∧ Same earlier pair.2) := by
  have unlike : ∀ pair ∈ mistaken, ¬ Same pair.1 pair.2 := by
    simp only [mistaken,List.forall_mem_cons]
    refine ⟨?_,?_,?_,?_,List.forall_mem_nil _⟩
    · intro same
      simpa [askModel,greeting] using same.payload
    · intro same
      simpa [askModel] using same.payload
    · intro same
      simpa [askModel,chatModel,ChatModel.bind] using same.inner
    · intro same
      simpa [askModel] using same.arguments
  have keys : ∀ pair ∈ mistaken, pair.1.cacheKey pythonLibraries = pair.2.cacheKey pythonLibraries := by
    decide +kernel
  rw [List.forall_iff_forall_mem]
  intro pair member
  refine ⟨hit_urgent pair.1 pair.2 ?_ ?_ ?_ (keys pair member),?_⟩
  · revert pair
    decide
  · revert pair
    decide
  · revert pair
    decide
  · intro ⟨earlier,enabled',stored,_,same⟩
    obtain rfl : earlier = pair.1 := (Action.finish.inj (List.mem_singleton.mp stored)).1
    exact unlike pair member same

end CustomerService.LlmCache
