import DifyPlugin.Interfaces.Model.OpenaiCompatible.BlockingResponse
import DifyPlugin.Interfaces.Model.OpenaiCompatible.PromptDict
import DifyPlugin.Interfaces.Model.OpenaiCompatible.Tts

/-!
# Requests to a provider

`OAICompatLargeLanguageModel._generate` up to its `requests.post`: the response format, the data
of the request, and `json.dumps`. The parameters of the model may replace `model` and `stream`,
and everything that is set after them replaces a parameter.
-/

namespace DifyPlugin.ChatRequest

open OpenaiCompatible Prompt

variable {ω : Type}

/-- `PromptMessageTool`. -/
structure PromptMessageTool (ω : Type) where
  /-- `name`. -/
  name : Text
  /-- `description`. -/
  description : Text
  /-- `parameters`. -/
  parameters : List (Text × Json ω)

/-- What `_generate` is called with. -/
structure Generate (ω : Type) where
  /-- `model`. -/
  model : Text
  /-- `credentials`, without the headers. -/
  credentials : Dict Text Text
  /-- `credentials.get("extra_headers")`. -/
  extraHeaders : List (Text × Text)
  /-- `prompt_messages`. -/
  promptMessages : List (Message ω)
  /-- `model_parameters`. -/
  modelParameters : Dict Text (Json ω)
  /-- `tools`, or none. -/
  tools : List (PromptMessageTool ω)
  /-- `stop`, or none. -/
  stop : List Text
  /-- `stream`. -/
  stream : Bool
  /-- `user`. -/
  user : Option Text

/-- The functions of other libraries. -/
structure Platform (ω : Type) where
  /-- `urljoin`. -/
  urljoin : Text → Text → Text
  /-- `TypeAdapter(dict[str, Any]).validate_json`. -/
  validateJson : Text → Option (List (Text × Json ω))
  /-- `math.isfinite`. -/
  isFinite : ω → Bool
  /-- `bool` of a floating-point number. -/
  nonzero : ω → Bool

/-- The arguments of `requests.post`; the body is what `json.dumps` wrote. -/
structure Request (ω : Type) where
  /-- `endpoint_url`. -/
  url : Text
  /-- `headers`. -/
  headers : Dict Text Text
  /-- `data`. -/
  body : Json ω

/-! ## The request -/

/-- A value that `if` takes. -/
def truthy (platform : Platform ω) : Json ω → Bool
  | .null => false
  | .bool value => value
  | .int value => decide (value ≠ 0)
  | .float value => platform.nonzero value
  | .str value => !value.isEmpty
  | .list items => !items.isEmpty
  | .dict items => !items.isEmpty

/-- A parameter that is there and taken. -/
def parameter (platform : Platform ω) (parameters : Dict Text (Json ω)) (key : Text) :
    Option (Json ω) :=
  (parameters.get key).filter (truthy platform)

/-- `response_format` and `json_schema` of the parameters. -/
def formatResponse (platform : Platform ω) (parameters : Dict Text (Json ω)) :
    Except RequestError (Dict Text (Json ω)) :=
  match parameter platform parameters "response_format".toList with
  | none => .ok (parameters.pop "json_schema".toList)
  | some format =>
    if format.asText = some "json_schema".toList then
      match parameter platform parameters "json_schema".toList with
      | none => .error .noSchema
      | some jsonSchema =>
        match jsonSchema.asText.bind platform.validateJson with
        | none => .error .badSchema
        | some schema =>
          .ok ((parameters.pop "json_schema".toList).set "response_format".toList (.dict [
            ("type".toList, .str "json_schema".toList),
            ("json_schema".toList, .dict schema)]))
    else .ok (parameters.set "response_format".toList (.dict [("type".toList, format)]))

/-- The response format concerns two parameters only. -/
theorem formatResponse_get {platform : Platform ω} {given parameters : Dict Text (Json ω)}
    (formatted : formatResponse platform given = .ok parameters) {key : Text}
    (format : key ≠ "response_format".toList) (schema : key ≠ "json_schema".toList) :
    parameters.get key = given.get key := by
  rw [formatResponse] at formatted
  split at formatted
  · obtain rfl := Except.ok.inj formatted
    exact Dict.get_pop_of_ne given schema
  · split at formatted
    · split at formatted
      · contradiction
      · split at formatted
        · contradiction
        · obtain rfl := Except.ok.inj formatted
          rw [Dict.get_set_of_ne _ format, Dict.get_pop_of_ne given schema]
    · obtain rfl := Except.ok.inj formatted
      exact Dict.get_set_of_ne given format _

namespace Generate

/-- `credentials.get("function_calling_type", "no_call")`. -/
def functionCallingType (call : Generate ω) : Text :=
  (call.credentials.get "function_calling_type".toList).getD "no_call".toList

/-- `headers`. -/
def headers (call : Generate ω) : Dict Text Text :=
  let headers := ((Dict.empty.set "Content-Type".toList "application/json".toList).set
    "Accept-Charset".toList "utf-8".toList).update call.extraHeaders
  match given (call.credentials.get "api_key".toList) with
  | none => headers
  | some apiKey => headers.set "Authorization".toList ("Bearer ".toList ++ apiKey)

/-- `data`, with the parameters. -/
def modelData (call : Generate ω) (parameters : Dict Text (Json ω)) : Dict Text (PyValue ω) :=
  ((Dict.empty.set "model".toList
      (.str ((call.credentials.get "endpoint_model_name".toList).getD call.model))).set
    "stream".toList (.bool call.stream)).update (dumpJsonEntries parameters.entries)

/-- The path of the mode. -/
def path : LLMMode → Text
  | .chat => "chat/completions".toList
  | .completion => "completions".toList

/-- `messages` or `prompt`. -/
def addPrompt (call : Generate ω) (data : Dict Text (PyValue ω)) :
    LLMMode → Except RequestError (Dict Text (PyValue ω))
  | .chat => do
    let messages ← call.promptMessages.mapM
      (convertPromptMessageToDict call.functionCallingType)
    return data.set "messages".toList
      (.list (messages.map fun messageDict => .dict messageDict.entries))
  | .completion =>
    match call.promptMessages with
    | [] => .error .indexError
    | message :: _ => .ok (data.set "prompt".toList (contentValue message.base.content))

end Generate

/-- An entry of `functions`. -/
def PromptMessageTool.functionEntry (tool : PromptMessageTool ω) : PyValue ω :=
  .dict [
    ("name".toList, .str tool.name),
    ("description".toList, .str tool.description),
    ("parameters".toList, .dict (dumpJsonEntries tool.parameters))]

/-- `PromptMessageFunction(function=tool).model_dump()`. -/
def PromptMessageTool.toolEntry (tool : PromptMessageTool ω) : PyValue ω :=
  .dict [
    ("type".toList, .str "function".toList),
    ("function".toList, tool.functionEntry)]

namespace Generate

/-- `functions`, or `tools` and `tool_choice`. -/
def addTools (call : Generate ω) (data : Dict Text (PyValue ω)) : Dict Text (PyValue ω) :=
  if call.tools.isEmpty then data
  else if call.functionCallingType = "function_call".toList then
    data.set "functions".toList (.list (call.tools.map PromptMessageTool.functionEntry))
  else if call.functionCallingType = "tool_call".toList then
    (data.set "tool_choice".toList (.str "auto".toList)).set "tools".toList
      (.list (call.tools.map PromptMessageTool.toolEntry))
  else data

/-- `stop`. -/
def addStop (call : Generate ω) (data : Dict Text (PyValue ω)) : Dict Text (PyValue ω) :=
  if call.stop.isEmpty then data
  else data.set "stop".toList (.list (call.stop.map PyValue.str))

/-- `user`. -/
def addUser (call : Generate ω) (data : Dict Text (PyValue ω)) : Dict Text (PyValue ω) :=
  match given call.user with
  | none => data
  | some user => data.set "user".toList (.str user)

/-- A credential that has to be there. -/
def credential (call : Generate ω) (key : Text) : Except RequestError Text :=
  match call.credentials.get key with
  | none => .error (.keyError key)
  | some value => .ok value

/-- `LLMMode.value_of(credentials["mode"])`. -/
def completionType (call : Generate ω) : Except RequestError LLMMode := do
  let mode ← call.credential "mode".toList
  match LLMMode.valueOf mode with
  | none => .error .mode
  | some completionType => .ok completionType

/-- `_generate`, up to `requests.post`. -/
def request (platform : Platform ω) (call : Generate ω) : Except RequestError (Request ω) := do
  let endpointUrl ← call.credential "endpoint_url".toList
  let parameters ← formatResponse platform call.modelParameters
  let completionType ← call.completionType
  let data ← call.addPrompt (call.modelData parameters) completionType
  match jsonDumps platform.isFinite
      (.dict (call.addUser (call.addStop (call.addTools data))).entries) with
  | none => .error .unserializable
  | some body =>
    .ok {
      url := Speech.joinEndpointUrl platform.urljoin endpointUrl (path completionType)
      headers := call.headers
      body := body }

end Generate

/-! ## What a provider reads of a request -/

/-- The items of a list. -/
def readItems {α : Type} (read : Json ω → Option α) : Json ω → Option (List α)
  | .list items => items.mapM read
  | _ => none

/-- An entry of `functions`. -/
def readFunctionEntry (function : Json ω) : Option (PromptMessageTool ω) := do
  let items ← function.asItems
  let name ← requireField items "name".toList Json.asText
  let description ← requireField items "description".toList Json.asText
  let parameters ← requireField items "parameters".toList Json.asItems
  return ⟨name, description, parameters⟩

/-- An entry of `tools`. -/
def readToolEntry (tool : Json ω) : Option (PromptMessageTool ω) := do
  let items ← tool.asItems
  requireField items "function".toList readFunctionEntry

namespace Generate

/-- The keys of the tools. -/
def toolKeys (call : Generate ω) : List Text :=
  if call.tools.isEmpty then []
  else if call.functionCallingType = "function_call".toList then ["functions".toList]
  else if call.functionCallingType = "tool_call".toList then
    ["tool_choice".toList, "tools".toList]
  else []

/-- The key of the stop words. -/
def stopKeys (call : Generate ω) : List Text :=
  if call.stop.isEmpty then [] else ["stop".toList]

/-- The key of the user. -/
def userKeys (call : Generate ω) : List Text :=
  if given call.user = none then [] else ["user".toList]

/-- The keys that are set after the parameters. -/
def laterKeys (call : Generate ω) : List Text :=
  "messages".toList :: (call.toolKeys ++ call.stopKeys ++ call.userKeys)

end Generate

/-- A body says what a call with these parameters asks for. -/
structure Understood (call : Generate ω) (parameters : Dict Text (Json ω))
    (items : List (Text × Json ω)) : Prop where
  /-- The whole conversation, in order. -/
  messages : (items.lookup "messages".toList).bind (readItems readMessage) =
    some (call.promptMessages.map (meaning call.functionCallingType))
  /-- The tools. -/
  tools : call.tools ≠ [] → call.functionCallingType = "tool_call".toList →
    (items.lookup "tools".toList).bind (readItems readToolEntry) = some call.tools
  /-- The functions. -/
  functions : call.tools ≠ [] → call.functionCallingType = "function_call".toList →
    (items.lookup "functions".toList).bind (readItems readFunctionEntry) = some call.tools
  /-- The stop words. -/
  stop : call.stop ≠ [] →
    (items.lookup "stop".toList).bind (readItems Json.asText) = some call.stop
  /-- The user. -/
  user : ∀ user, given call.user = some user → items.lookup "user".toList = some (.str user)
  /-- The parameters, but for those that are replaced; the format may be of another shape. -/
  kept : ∀ key value, key ∉ call.laterKeys → parameters.get key = some value →
    items.lookup key = some value
  /-- Every other parameter is the one that was given. -/
  given : ∀ key, key ≠ "response_format".toList → key ≠ "json_schema".toList →
    parameters.get key = call.modelParameters.get key
  /-- The model, unless there is such a parameter. -/
  model : parameters.get "model".toList = none → items.lookup "model".toList =
    some (.str ((call.credentials.get "endpoint_model_name".toList).getD call.model))
  /-- Whether the answer is streamed, unless there is such a parameter. -/
  stream : parameters.get "stream".toList = none →
    items.lookup "stream".toList = some (.bool call.stream)

section Reading

variable {isFinite : ω → Bool}

/-- A list is read back when each of its items is. -/
theorem readItems_dumped {β : Type} {read : Json ω → Option β} {values : List (PyValue ω)}
    {results : List β}
    (each : List.Forall₂ (fun value result => ∀ written, jsonDumps isFinite value = some written →
      read written = some result) values results)
    {written : Json ω} (dumped : jsonDumps isFinite (.list values) = some written) :
    readItems read written = some results := by
  obtain ⟨items, collected, rfl⟩ := Option.map_eq_some_iff.mp dumped
  rw [readItems]
  clear dumped
  induction each generalizing items with
  | nil =>
    obtain rfl := Option.some.inj collected
    rfl
  | cons first _ ih =>
    simp only [jsonDumpsItems, bind, pure, Option.bind_eq_some_iff] at collected
    obtain ⟨item, made, others, later, same⟩ := collected
    obtain rfl := Option.some.inj same
    rw [List.mapM_cons, first item made, ih others later]
    rfl

/-- A list of the same entries is read back when any entry is. -/
theorem readItems_map {α : Type} {read : Json ω → Option α} {entry : α → PyValue ω}
    (each : ∀ item written, jsonDumps isFinite (entry item) = some written →
      read written = some item)
    {items : List α} {written : Json ω}
    (dumped : jsonDumps isFinite (.list (items.map entry)) = some written) :
    readItems read written = some items := by
  apply readItems_dumped _ dumped
  rw [List.forall₂_map_left_iff, List.forall₂_same]
  exact fun item _ => each item

/-- A dumped object is written as it is. -/
theorem jsonDumpsEntries_eq {entries written : List (Text × Json ω)}
    (dumped : jsonDumpsEntries isFinite (dumpJsonEntries entries) = some written) :
    written = entries := by
  rw [jsonDumpsEntries_dumpJsonEntries] at dumped
  split at dumped
  · exact (Option.some.inj dumped).symm
  · contradiction

/-- An entry of `functions` is read back. -/
theorem readFunctionEntry_dumped (tool : PromptMessageTool ω) (written : Json ω)
    (dumped : jsonDumps isFinite tool.functionEntry = some written) :
    readFunctionEntry written = some tool := by
  rw [PromptMessageTool.functionEntry] at dumped
  cases made : jsonDumpsEntries isFinite (dumpJsonEntries tool.parameters) with
  | none => simp [jsonDumps, jsonDumpsEntries, made] at dumped
  | some parameters =>
    obtain rfl := jsonDumpsEntries_eq made
    simp only [jsonDumps, jsonDumpsEntries, made, bind, pure, Option.bind_some, Option.map_some,
      Option.some.injEq] at dumped
    subst dumped
    rfl

/-- An entry of `tools` is read back. -/
theorem readToolEntry_dumped (tool : PromptMessageTool ω) (written : Json ω)
    (dumped : jsonDumps isFinite tool.toolEntry = some written) :
    readToolEntry written = some tool := by
  rw [PromptMessageTool.toolEntry] at dumped
  cases made : jsonDumps isFinite tool.functionEntry with
  | none => simp [jsonDumps, jsonDumpsEntries, made] at dumped
  | some function =>
    simp only [jsonDumps, jsonDumpsEntries, made, bind, pure, Option.bind_some, Option.map_some,
      Option.some.injEq] at dumped
    subst dumped
    exact readFunctionEntry_dumped tool function made

/-- A message whose dictionary is written can be sent, and a provider reads what it means. -/
theorem readMessage_dumped {functionCallingType : Text} {message : Message ω}
    {messageDict : Dict Text (PyValue ω)}
    (converted : convertPromptMessageToDict functionCallingType message = .ok messageDict)
    {written : Json ω} (dumped : jsonDumps isFinite (.dict messageDict.entries) = some written) :
    Sendable functionCallingType message ∧
      readMessage written = some (meaning functionCallingType message) := by
  by_cases sendable : Sendable functionCallingType message
  · obtain ⟨other, made, reads⟩ := convert_sendable isFinite sendable
    obtain rfl : messageDict = other := Except.ok.inj (converted.symm.trans made)
    rw [dumped] at reads
    exact ⟨sendable, reads⟩
  · obtain unknown | ⟨other, made, unwritable⟩ := convert_unsendable isFinite sendable
    · rw [converted] at unknown
      contradiction
    · obtain rfl : messageDict = other := Except.ok.inj (converted.symm.trans made)
      rw [dumped] at unwritable
      contradiction

/-- Every message whose dictionary is written can be sent. -/
theorem sendable_of_dumped {functionCallingType : Text} {messages : List (Message ω)}
    {dicts : List (Dict Text (PyValue ω))}
    (converted : List.Forall₂ (fun message messageDict =>
      convertPromptMessageToDict functionCallingType message = .ok messageDict) messages dicts)
    {written : List (Json ω)}
    (dumped : jsonDumpsItems isFinite (dicts.map fun messageDict => .dict messageDict.entries) =
      some written) :
    ∀ message ∈ messages, Sendable functionCallingType message := by
  induction converted generalizing written with
  | nil => simp
  | cons first _ ih =>
    simp only [List.map_cons, jsonDumpsItems, bind, pure, Option.bind_eq_some_iff] at dumped
    obtain ⟨item, made, others, later, -⟩ := dumped
    exact List.forall_mem_cons.mpr ⟨(readMessage_dumped first made).1, ih later⟩

end Reading

/-! ## The data of a chat request -/

section Data

variable {isFinite : ω → Bool} {data : Dict Text (PyValue ω)}

/-- Every value of a dictionary is written. -/
def Writable (isFinite : ω → Bool) (data : Dict Text (PyValue ω)) : Prop :=
  ∀ key value, data.get key = some value → (jsonDumps isFinite value).isSome = true

/-- Such a dictionary is written. -/
theorem Writable.dumped (writable : Writable isFinite data) :
    ∃ items, jsonDumpsEntries isFinite data.entries = some items := by
  apply Option.isSome_iff_exists.mp
  rw [jsonDumpsEntries_isSome]
  rintro ⟨key, value⟩ listed
  exact writable key value (Dict.get_eq_some.mpr listed)

/-- A value that is written may be set. -/
theorem Writable.set (writable : Writable isFinite data) {value : PyValue ω}
    (written : (jsonDumps isFinite value).isSome = true) (key : Text) :
    Writable isFinite (data.set key value) := by
  intro other found has
  by_cases same : other = key
  · subst same
    obtain rfl := Option.some.inj ((Dict.get_set_self data other value).symm.trans has)
    exact written
  · rw [Dict.get_set_of_ne data same] at has
    exact writable other found has

/-- A list is written when its items are. -/
theorem jsonDumps_list_isSome {values : List (PyValue ω)} :
    (jsonDumps isFinite (.list values)).isSome = true ↔
      ∀ value ∈ values, (jsonDumps isFinite value).isSome = true := by
  have all : (jsonDumpsItems isFinite values).isSome = true ↔
      ∀ value ∈ values, (jsonDumps isFinite value).isSome = true := by
    induction values with
    | nil => simp [jsonDumpsItems]
    | cons value rest ih =>
      rw [List.forall_mem_cons, ← ih, jsonDumpsItems]
      cases jsonDumps isFinite value <;> cases jsonDumpsItems isFinite rest <;> simp
  rw [← all, jsonDumps, Option.isSome_map]

/-- A function is written when the numbers of its parameters are finite. -/
theorem functionEntry_isSome (tool : PromptMessageTool ω) :
    (jsonDumps isFinite tool.functionEntry).isSome =
      (floatsEntries tool.parameters).all isFinite := by
  simp only [PromptMessageTool.functionEntry, jsonDumps, jsonDumpsEntries,
    jsonDumpsEntries_dumpJsonEntries]
  cases (floatsEntries tool.parameters).all isFinite <;> rfl

/-- So is a tool. -/
theorem toolEntry_isSome (tool : PromptMessageTool ω) :
    (jsonDumps isFinite tool.toolEntry).isSome =
      (floatsEntries tool.parameters).all isFinite := by
  rw [← functionEntry_isSome]
  simp only [PromptMessageTool.toolEntry, jsonDumps, jsonDumpsEntries]
  cases jsonDumps isFinite tool.functionEntry <;> rfl

/-- The entries of a dumped object are the dumps of its entries. -/
theorem dumpJsonEntries_eq (entries : List (Text × Json ω)) :
    dumpJsonEntries entries = entries.map fun entry => (entry.1, dumpJson entry.2) := by
  induction entries with
  | nil => rfl
  | cons entry rest ih =>
    obtain ⟨key, value⟩ := entry
    rw [dumpJsonEntries, ih]
    rfl

namespace Generate

variable (call : Generate ω)

/-- The data of a chat request. -/
def chatData (parameters : Dict Text (Json ω)) (messages : List (Dict Text (PyValue ω))) :
    Dict Text (PyValue ω) :=
  call.addUser (call.addStop (call.addTools ((call.modelData parameters).set "messages".toList
    (.list (messages.map fun messageDict => .dict messageDict.entries)))))

/-- The tools keep the other keys. -/
theorem addTools_get {key : Text} (apart : key ∉ call.toolKeys) :
    (call.addTools data).get key = data.get key := by
  rw [toolKeys] at apart
  rw [addTools]
  split_ifs at apart ⊢ with empty function tool
  · rfl
  · exact Dict.get_set_of_ne _ (List.ne_of_not_mem_cons apart) _
  · rw [Dict.get_set_of_ne _ (List.ne_of_not_mem_cons (List.not_mem_of_not_mem_cons apart)),
      Dict.get_set_of_ne _ (List.ne_of_not_mem_cons apart)]
  · rfl

/-- The stop words keep the other keys. -/
theorem addStop_get {key : Text} (apart : key ∉ call.stopKeys) :
    (call.addStop data).get key = data.get key := by
  rw [stopKeys] at apart
  rw [addStop]
  split_ifs at apart ⊢ with empty
  · rfl
  · exact Dict.get_set_of_ne _ (List.ne_of_not_mem_cons apart) _

/-- The user keeps the other keys. -/
theorem addUser_get {key : Text} (apart : key ∉ call.userKeys) :
    (call.addUser data).get key = data.get key := by
  rw [userKeys] at apart
  rw [addUser]
  cases has : given call.user with
  | none => rfl
  | some user =>
    rw [has, if_neg (by simp)] at apart
    exact Dict.get_set_of_ne _ (List.ne_of_not_mem_cons apart) _

/-- A key of no tools. -/
theorem not_mem_toolKeys {key : Text} (apart : key ∉ (["functions".toList,
    "tool_choice".toList, "tools".toList] : List Text)) : key ∉ call.toolKeys := by
  rw [toolKeys]
  split_ifs with empty function tool
  · exact List.not_mem_nil
  · exact fun same => apart (by simpa using .inl (List.mem_singleton.mp same))
  · exact fun listed => apart (List.mem_cons_of_mem _ listed)
  · exact List.not_mem_nil

/-- A key of no stop words. -/
theorem not_mem_stopKeys {key : Text} (apart : key ≠ "stop".toList) : key ∉ call.stopKeys := by
  rw [stopKeys]
  split_ifs with empty
  · exact List.not_mem_nil
  · exact fun same => apart (List.mem_singleton.mp same)

/-- A key of no user. -/
theorem not_mem_userKeys {key : Text} (apart : key ≠ "user".toList) : key ∉ call.userKeys := by
  rw [userKeys]
  split_ifs with absent
  · exact List.not_mem_nil
  · exact fun same => apart (List.mem_singleton.mp same)

/-- A parameter is in the data. -/
theorem modelData_get {parameters : Dict Text (Json ω)} {key : Text} {value : Json ω}
    (has : parameters.get key = some value) :
    (call.modelData parameters).get key = some (dumpJson value) := by
  have listed : key ∈ (dumpJsonEntries parameters.entries).map Prod.fst := by
    rw [dumpJsonEntries_eq, List.map_map]
    exact List.mem_map_of_mem (Dict.get_eq_some.mp has)
  obtain ⟨found, pair, got⟩ := Dict.get_update_of_mem listed
    ((Dict.empty.set "model".toList (.str ((call.credentials.get
      "endpoint_model_name".toList).getD call.model))).set "stream".toList (.bool call.stream))
  rw [dumpJsonEntries_eq, List.mem_map] at pair
  obtain ⟨⟨name, given⟩, entry, same⟩ := pair
  obtain ⟨rfl, rfl⟩ := Prod.mk.inj same
  have same : some given = some value := (Dict.get_eq_some.mpr entry).symm.trans has
  obtain rfl := Option.some.inj same
  exact got

/-- Another key is that of the model or of the stream. -/
theorem modelData_get_of_none {parameters : Dict Text (Json ω)} {key : Text}
    (absent : parameters.get key = none) :
    (call.modelData parameters).get key =
      ((Dict.empty.set "model".toList (.str ((call.credentials.get
        "endpoint_model_name".toList).getD call.model))).set "stream".toList
          (.bool call.stream)).get key := by
  apply Dict.get_update_of_not_mem
  rw [dumpJsonEntries_eq, List.map_map]
  intro listed
  obtain ⟨⟨name, value⟩, entry, rfl⟩ := List.mem_map.mp listed
  have missing : parameters.get name = none := absent
  rw [Dict.get_eq_some.mpr entry] at missing
  contradiction

section ChatData

variable {call} {parameters : Dict Text (Json ω)} {messages : List (Dict Text (PyValue ω))}

/-- The messages are in the data. -/
theorem chatData_messages : (call.chatData parameters messages).get "messages".toList =
    some (.list (messages.map fun messageDict => .dict messageDict.entries)) := by
  rw [chatData, addUser_get call (call.not_mem_userKeys (by decide)),
    addStop_get call (call.not_mem_stopKeys (by decide)),
    addTools_get call (call.not_mem_toolKeys (by decide)), Dict.get_set_self]

/-- The tools are in the data. -/
theorem chatData_tools (nonempty : call.tools ≠ [])
    (calling : call.functionCallingType = "tool_call".toList) :
    (call.chatData parameters messages).get "tools".toList =
      some (.list (call.tools.map PromptMessageTool.toolEntry)) := by
  have other : call.functionCallingType ≠ "function_call".toList := by
    rw [calling]
    decide
  rw [chatData, addUser_get call (call.not_mem_userKeys (by decide)),
    addStop_get call (call.not_mem_stopKeys (by decide)), addTools,
    if_neg (by simpa using nonempty), if_neg other, if_pos calling, Dict.get_set_self]

/-- The choice of a tool is left to the model. -/
theorem chatData_toolChoice (nonempty : call.tools ≠ [])
    (calling : call.functionCallingType = "tool_call".toList) :
    (call.chatData parameters messages).get "tool_choice".toList =
      some (.str "auto".toList) := by
  have other : call.functionCallingType ≠ "function_call".toList := by
    rw [calling]
    decide
  rw [chatData, addUser_get call (call.not_mem_userKeys (by decide)),
    addStop_get call (call.not_mem_stopKeys (by decide)), addTools,
    if_neg (by simpa using nonempty), if_neg other, if_pos calling,
    Dict.get_set_of_ne _ (by decide), Dict.get_set_self]

/-- The functions are in the data. -/
theorem chatData_functions (nonempty : call.tools ≠ [])
    (calling : call.functionCallingType = "function_call".toList) :
    (call.chatData parameters messages).get "functions".toList =
      some (.list (call.tools.map PromptMessageTool.functionEntry)) := by
  rw [chatData, addUser_get call (call.not_mem_userKeys (by decide)),
    addStop_get call (call.not_mem_stopKeys (by decide)), addTools,
    if_neg (by simpa using nonempty), if_pos calling, Dict.get_set_self]

/-- The stop words are in the data. -/
theorem chatData_stop (nonempty : call.stop ≠ []) :
    (call.chatData parameters messages).get "stop".toList =
      some (.list (call.stop.map PyValue.str)) := by
  rw [chatData, addUser_get call (call.not_mem_userKeys (by decide)), addStop,
    if_neg (by simpa using nonempty), Dict.get_set_self]

/-- The user is in the data. -/
theorem chatData_user {user : Text} (has : given call.user = some user) :
    (call.chatData parameters messages).get "user".toList = some (.str user) := by
  simp only [chatData, addUser, has, Dict.get_set_self]

/-- The other keys are as before. -/
theorem chatData_get {key : Text} (apart : key ∉ call.laterKeys) :
    (call.chatData parameters messages).get key = (call.modelData parameters).get key := by
  simp only [laterKeys, List.mem_cons, List.mem_append, not_or] at apart
  obtain ⟨messages, ⟨tools, stop⟩, user⟩ := apart
  rw [chatData, addUser_get call user, addStop_get call stop, addTools_get call tools,
    Dict.get_set_of_ne _ messages]

/-- A key that is never set later. -/
theorem not_mem_laterKeys {key : Text} (apart : key ∉ (["messages".toList, "functions".toList,
    "tool_choice".toList, "tools".toList, "stop".toList, "user".toList] : List Text)) :
    key ∉ call.laterKeys := by
  simp only [List.mem_cons, List.not_mem_nil, or_false, not_or] at apart
  obtain ⟨messages, functions, toolChoice, tools, stop, user⟩ := apart
  have noTool := call.not_mem_toolKeys (by
    simp only [List.mem_cons, List.not_mem_nil, or_false, not_or]
    exact ⟨functions, toolChoice, tools⟩)
  simp only [laterKeys, List.mem_cons, List.mem_append, not_or]
  exact ⟨messages, ⟨noTool, call.not_mem_stopKeys stop⟩, call.not_mem_userKeys user⟩

end ChatData

end Generate

/-- A value of a dictionary that is written is the one of the body. -/
theorem lookup_of_get {items : List (Text × Json ω)}
    (dumped : jsonDumpsEntries isFinite data.entries = some items) {key : Text}
    {value : PyValue ω} (has : data.get key = some value) :
    ∃ written, jsonDumps isFinite value = some written ∧ items.lookup key = some written := by
  have every := jsonDumpsEntries_isSome.mp (Option.isSome_of_eq_some dumped)
  obtain ⟨written, made⟩ :=
    Option.isSome_iff_exists.mp (every (key, value) (Dict.get_eq_some.mp has))
  refine ⟨written, made, ?_⟩
  rw [lookup_jsonDumpsEntries dumped, ← get_eq_lookup, has]
  exact made

/-- A body that was written says what was asked for. -/
theorem understood_of_dumped {platform : Platform ω} {call : Generate ω}
    {parameters : Dict Text (Json ω)} {messages : List (Dict Text (PyValue ω))}
    {items : List (Text × Json ω)}
    (formatted : formatResponse platform call.modelParameters = .ok parameters)
    (converted : List.Forall₂ (fun message messageDict =>
      convertPromptMessageToDict call.functionCallingType message = .ok messageDict)
        call.promptMessages messages)
    (dumped : jsonDumpsEntries isFinite (call.chatData parameters messages).entries =
      some items) : Understood call parameters items where
  messages := by
    obtain ⟨written, made, found⟩ := lookup_of_get dumped Generate.chatData_messages
    rw [found]
    apply readItems_dumped _ made
    rw [List.forall₂_map_left_iff, List.forall₂_map_right_iff]
    exact converted.flip.imp fun messageDict message same written dumped =>
      (readMessage_dumped same dumped).2
  tools nonempty calling := by
    obtain ⟨written, made, found⟩ := lookup_of_get dumped (Generate.chatData_tools nonempty calling)
    rw [found]
    exact readItems_map readToolEntry_dumped made
  functions nonempty calling := by
    obtain ⟨written, made, found⟩ :=
      lookup_of_get dumped (Generate.chatData_functions nonempty calling)
    rw [found]
    exact readItems_map readFunctionEntry_dumped made
  stop nonempty := by
    obtain ⟨written, made, found⟩ := lookup_of_get dumped (Generate.chatData_stop nonempty)
    rw [found]
    refine readItems_map (fun stop written dumped => ?_) made
    obtain rfl := Option.some.inj dumped
    rfl
  user user has := by
    obtain ⟨written, made, found⟩ := lookup_of_get dumped (Generate.chatData_user has)
    obtain rfl := Option.some.inj made
    exact found
  kept key value apart has := by
    have present : (call.chatData parameters messages).get key = some (dumpJson value) :=
      (Generate.chatData_get apart).trans (call.modelData_get has)
    obtain ⟨written, made, found⟩ := lookup_of_get dumped present
    rw [jsonDumps_dumpJson] at made
    split at made
    · rw [found, ← made]
    · contradiction
  given key format schema := formatResponse_get formatted format schema
  model absent := by
    have present : (call.chatData parameters messages).get "model".toList =
        some (.str ((call.credentials.get "endpoint_model_name".toList).getD call.model)) :=
      (Generate.chatData_get (Generate.not_mem_laterKeys (by decide))).trans
        (call.modelData_get_of_none absent)
    obtain ⟨written, made, found⟩ := lookup_of_get dumped present
    obtain rfl := Option.some.inj made
    exact found
  stream absent := by
    have present : (call.chatData parameters messages).get "stream".toList =
        some (.bool call.stream) :=
      (Generate.chatData_get (Generate.not_mem_laterKeys (by decide))).trans
        (call.modelData_get_of_none absent)
    obtain ⟨written, made, found⟩ := lookup_of_get dumped present
    obtain rfl := Option.some.inj made
    exact found

/-! ## When a chat request is sent -/

/-- Everything that is sent can be written. -/
structure Accepted (isFinite : ω → Bool) (call : Generate ω) (parameters : Dict Text (Json ω)) :
    Prop where
  /-- The messages. -/
  messages : ∀ message ∈ call.promptMessages, Sendable call.functionCallingType message
  /-- The tools, when they are sent. -/
  tools : call.toolKeys ≠ [] →
    ∀ tool ∈ call.tools, (floatsEntries tool.parameters).all isFinite = true
  /-- The parameters that are not replaced. -/
  parameters : ∀ key value, key ∉ call.laterKeys → parameters.get key = some value →
    (floats value).all isFinite = true

/-- Nothing that was sent could not be written. -/
theorem accepted_of_dumped {call : Generate ω} {parameters : Dict Text (Json ω)}
    {messages : List (Dict Text (PyValue ω))} {items : List (Text × Json ω)}
    (converted : List.Forall₂ (fun message messageDict =>
      convertPromptMessageToDict call.functionCallingType message = .ok messageDict)
        call.promptMessages messages)
    (dumped : jsonDumpsEntries isFinite (call.chatData parameters messages).entries =
      some items) : Accepted isFinite call parameters where
  messages := by
    obtain ⟨written, made, -⟩ := lookup_of_get dumped Generate.chatData_messages
    obtain ⟨list, collected, -⟩ := Option.map_eq_some_iff.mp made
    exact sendable_of_dumped converted collected
  tools sent tool listed := by
    rw [Generate.toolKeys] at sent
    split_ifs at sent with empty function calling
    · exact (sent rfl).elim
    · obtain ⟨written, made, -⟩ := lookup_of_get dumped
        (Generate.chatData_functions (by simpa using empty) function)
      rw [← functionEntry_isSome]
      exact jsonDumps_list_isSome.mp (Option.isSome_of_eq_some made) _
        (List.mem_map_of_mem listed)
    · obtain ⟨written, made, -⟩ := lookup_of_get dumped
        (Generate.chatData_tools (by simpa using empty) calling)
      rw [← toolEntry_isSome]
      exact jsonDumps_list_isSome.mp (Option.isSome_of_eq_some made) _
        (List.mem_map_of_mem listed)
    · exact (sent rfl).elim
  parameters key value apart has := by
    have present : (call.chatData parameters messages).get key = some (dumpJson value) :=
      (Generate.chatData_get apart).trans (call.modelData_get has)
    obtain ⟨written, made, -⟩ := lookup_of_get dumped present
    rw [jsonDumps_dumpJson] at made
    split at made
    · assumption
    · contradiction

/-- Messages that can be sent are converted and written. -/
theorem converted_of_sendable (isFinite : ω → Bool) {functionCallingType : Text}
    {messages : List (Message ω)}
    (sendable : ∀ message ∈ messages, Sendable functionCallingType message) :
    ∃ dicts, List.Forall₂ (fun message messageDict =>
        convertPromptMessageToDict functionCallingType message = .ok messageDict) messages dicts ∧
      ∀ messageDict ∈ dicts, (jsonDumps isFinite (.dict messageDict.entries)).isSome = true := by
  induction messages with
  | nil => exact ⟨[], .nil, by simp⟩
  | cons message rest ih =>
    obtain ⟨first, others⟩ := List.forall_mem_cons.mp sendable
    obtain ⟨messageDict, converted, reads⟩ := convert_sendable isFinite first
    obtain ⟨written, made, -⟩ := Option.bind_eq_some_iff.mp reads
    obtain ⟨dicts, all, dumped⟩ := ih others
    exact ⟨messageDict :: dicts, .cons converted all,
      List.forall_mem_cons.mpr ⟨Option.isSome_of_eq_some made, dumped⟩⟩

/-- What can be written is. -/
theorem Accepted.writable {call : Generate ω} {parameters : Dict Text (Json ω)}
    (accepted : Accepted isFinite call parameters) {messages : List (Dict Text (PyValue ω))}
    (written : ∀ messageDict ∈ messages,
      (jsonDumps isFinite (.dict messageDict.entries)).isSome = true) :
    Writable isFinite (call.chatData parameters messages) := by
  intro key value has
  by_cases later : key ∈ call.laterKeys
  · simp only [Generate.laterKeys, List.mem_cons, List.mem_append] at later
    obtain rfl | (tool | stop) | user := later
    · obtain rfl := Option.some.inj (Generate.chatData_messages.symm.trans has)
      apply jsonDumps_list_isSome.mpr
      rw [List.forall_mem_map]
      exact written
    · have sent : call.toolKeys ≠ [] := List.ne_nil_of_mem tool
      have finite := accepted.tools sent
      rw [Generate.toolKeys] at tool
      split_ifs at tool with empty function calling
      · exact (List.not_mem_nil tool).elim
      · obtain rfl := List.mem_singleton.mp tool
        obtain rfl := Option.some.inj
          ((Generate.chatData_functions (by simpa using empty) function).symm.trans has)
        apply jsonDumps_list_isSome.mpr
        rw [List.forall_mem_map]
        intro tool listed
        rw [functionEntry_isSome]
        exact finite tool listed
      · obtain rfl | tool := List.mem_cons.mp tool
        · obtain rfl := Option.some.inj
            ((Generate.chatData_toolChoice (by simpa using empty) calling).symm.trans has)
          rfl
        · obtain rfl := List.mem_singleton.mp tool
          obtain rfl := Option.some.inj
            ((Generate.chatData_tools (by simpa using empty) calling).symm.trans has)
          apply jsonDumps_list_isSome.mpr
          rw [List.forall_mem_map]
          intro tool listed
          rw [toolEntry_isSome]
          exact finite tool listed
      · exact (List.not_mem_nil tool).elim
    · rw [Generate.stopKeys] at stop
      split_ifs at stop with empty
      · exact (List.not_mem_nil stop).elim
      · obtain rfl := List.mem_singleton.mp stop
        obtain rfl := Option.some.inj
          ((Generate.chatData_stop (by simpa using empty)).symm.trans has)
        apply jsonDumps_list_isSome.mpr
        rw [List.forall_mem_map]
        exact fun _ _ => rfl
    · rw [Generate.userKeys] at user
      split_ifs at user with absent
      · exact (List.not_mem_nil user).elim
      · obtain rfl := List.mem_singleton.mp user
        obtain ⟨name, given⟩ := Option.ne_none_iff_exists'.mp absent
        obtain rfl := Option.some.inj ((Generate.chatData_user given).symm.trans has)
        rfl
  · rw [Generate.chatData_get later] at has
    cases found : parameters.get key with
    | some parameter =>
      obtain rfl := Option.some.inj ((call.modelData_get found).symm.trans has)
      rw [jsonDumps_dumpJson, if_pos (accepted.parameters key parameter later found)]
      rfl
    | none =>
      rw [call.modelData_get_of_none found] at has
      have empty : Writable isFinite (Dict.empty : Dict Text (PyValue ω)) := by
        intro key value has
        contradiction
      exact (empty.set rfl "model".toList).set rfl "stream".toList key value has

end Data

section Sent

variable {platform : Platform ω} {call : Generate ω}

/-- A credential is found. -/
theorem Generate.credential_eq_ok {key value : Text} :
    call.credential key = .ok value ↔ call.credentials.get key = some value := by
  rw [Generate.credential]
  cases call.credentials.get key <;> simp

/-- What a chat request is sent with. -/
theorem Generate.request_eq_ok (chat : call.credentials.get "mode".toList = some "chat".toList)
    {sent : Request ω} :
    call.request platform = .ok sent ↔
      ∃ endpointUrl parameters messages items,
        call.credentials.get "endpoint_url".toList = some endpointUrl ∧
        formatResponse platform call.modelParameters = .ok parameters ∧
        List.Forall₂ (fun message messageDict =>
          convertPromptMessageToDict call.functionCallingType message = .ok messageDict)
            call.promptMessages messages ∧
        jsonDumpsEntries platform.isFinite (call.chatData parameters messages).entries =
          some items ∧
        sent = {
          url := Speech.joinEndpointUrl platform.urljoin endpointUrl "chat/completions".toList
          headers := call.headers
          body := .dict items } := by
  have mode : call.completionType = .ok .chat := by
    rw [Generate.completionType, Generate.credential, chat]
    rfl
  have prompt (data : Dict Text (PyValue ω)) (result : Dict Text (PyValue ω)) :
      call.addPrompt data .chat = .ok result ↔ ∃ messages,
        List.Forall₂ (fun message messageDict =>
          convertPromptMessageToDict call.functionCallingType message = .ok messageDict)
            call.promptMessages messages ∧
        result = data.set "messages".toList
          (.list (messages.map fun messageDict => .dict messageDict.entries)) := by
    rw [Generate.addPrompt, Fallible.bind_eq_ok]
    constructor
    · rintro ⟨messages, made, same⟩
      exact ⟨messages, Fallible.mapM_eq_ok.mp made, (Except.ok.inj same).symm⟩
    · rintro ⟨messages, made, rfl⟩
      exact ⟨messages, Fallible.mapM_eq_ok.mpr made, rfl⟩
  rw [Generate.request]
  constructor
  · intro accepted
    obtain ⟨endpointUrl, found, accepted⟩ := Fallible.bind_eq_ok.mp accepted
    obtain ⟨parameters, formatted, accepted⟩ := Fallible.bind_eq_ok.mp accepted
    obtain ⟨completionType, isChat, accepted⟩ := Fallible.bind_eq_ok.mp accepted
    obtain rfl := Except.ok.inj (mode.symm.trans isChat)
    obtain ⟨data, made, accepted⟩ := Fallible.bind_eq_ok.mp accepted
    obtain ⟨messages, converted, rfl⟩ := (prompt _ _).mp made
    cases dumped : jsonDumpsEntries platform.isFinite
        (call.chatData parameters messages).entries with
    | none =>
      rw [Generate.chatData] at dumped
      simp only [jsonDumps, dumped, Option.map_none] at accepted
      contradiction
    | some items =>
      refine ⟨endpointUrl, parameters, messages, items, Generate.credential_eq_ok.mp found,
        formatted, converted, dumped, ?_⟩
      rw [Generate.chatData] at dumped
      simp only [jsonDumps, dumped, Option.map_some] at accepted
      exact (Except.ok.inj accepted).symm
  · rintro ⟨endpointUrl, parameters, messages, items, found, formatted, converted, dumped, rfl⟩
    rw [Generate.chatData] at dumped
    refine Fallible.bind_eq_ok.mpr ⟨endpointUrl, Generate.credential_eq_ok.mpr found, ?_⟩
    refine Fallible.bind_eq_ok.mpr ⟨parameters, formatted, ?_⟩
    refine Fallible.bind_eq_ok.mpr ⟨.chat, mode, ?_⟩
    refine Fallible.bind_eq_ok.mpr ⟨_, (prompt _ _).mpr ⟨messages, converted, rfl⟩, ?_⟩
    simp only [jsonDumps, dumped, Option.map_some]
    rfl

/-- A chat request is sent exactly when the endpoint is known, the response format is one, and
everything can be written; the provider then reads the whole conversation in order, the tools,
the stop words, the user and the parameters. Without a function calling type it does not read the
tools, the tool calls, or anything but the name of a tool message. -/
theorem Generate.request_understood (platform : Platform ω) (call : Generate ω)
    (chat : call.credentials.get "mode".toList = some "chat".toList) :
    ((∃ sent, call.request platform = .ok sent) ↔
      ∃ endpointUrl parameters,
        call.credentials.get "endpoint_url".toList = some endpointUrl ∧
        formatResponse platform call.modelParameters = .ok parameters ∧
        Accepted platform.isFinite call parameters) ∧
    ∀ sent, call.request platform = .ok sent →
      ∃ endpointUrl parameters items,
        call.credentials.get "endpoint_url".toList = some endpointUrl ∧
        formatResponse platform call.modelParameters = .ok parameters ∧
        sent = {
          url := Speech.joinEndpointUrl platform.urljoin endpointUrl "chat/completions".toList
          headers := call.headers
          body := .dict items } ∧
        Understood call parameters items := by
  refine ⟨⟨?_, ?_⟩, ?_⟩
  · rintro ⟨sent, accepted⟩
    obtain ⟨endpointUrl, parameters, messages, items, found, formatted, converted, dumped, -⟩ :=
      (Generate.request_eq_ok chat).mp accepted
    exact ⟨endpointUrl, parameters, found, formatted, accepted_of_dumped converted dumped⟩
  · rintro ⟨endpointUrl, parameters, found, formatted, accepted⟩
    obtain ⟨messages, converted, written⟩ :=
      converted_of_sendable platform.isFinite accepted.messages
    obtain ⟨items, dumped⟩ := (accepted.writable written).dumped
    exact ⟨_, (Generate.request_eq_ok chat).mpr ⟨endpointUrl, parameters, messages, items, found,
      formatted, converted, dumped, rfl⟩⟩
  · intro sent accepted
    obtain ⟨endpointUrl, parameters, messages, items, found, formatted, converted, dumped, same⟩ :=
      (Generate.request_eq_ok chat).mp accepted
    exact ⟨endpointUrl, parameters, items, found, formatted, same,
      understood_of_dumped formatted converted dumped⟩

end Sent

/-- A platform for texts without a schema. -/
def weatherPlatform : Platform Int where
  urljoin base path := base ++ path
  validateJson _ := none
  isFinite _ := true
  nonzero value := decide (value ≠ 0)

/-- The call of a tool. -/
def weatherToolCall : ToolCall where
  id := "call_1".toList
  type := "function".toList
  function := ⟨"weather".toList, "{}".toList⟩

/-- A question about a picture, the call of a tool, and its result. -/
def weatherCall : Generate Int where
  model := "small".toList
  credentials := ((Dict.empty.set "endpoint_url".toList "http://host/v1/".toList).set
    "mode".toList "chat".toList).set "function_calling_type".toList "tool_call".toList
  extraHeaders := []
  promptMessages := [
    .user {
      role := .user
      content := some (.parts [
        .text { data := "Rain?".toList },
        .image { format := "png".toList, url := "http://host/a.png".toList,
                 mimeType := "image/png".toList } .low,
        .audio { format := "mp3".toList, mimeType := "audio/mpeg".toList }]) },
    .assistant { role := .assistant } [weatherToolCall] .null,
    .tool { role := .tool, content := some (.text "no".toList), name := "x".toList }
      "call_1".toList]
  modelParameters := Dict.empty.set "temperature".toList (.int 0)
  tools := [⟨"weather".toList, "Forecast".toList, []⟩]
  stop := []
  stream := true
  user := none

/-- Its provider reads the question without the sound, the call and its result. -/
theorem request_understood_weather :
    ∃ sent, weatherCall.request weatherPlatform = .ok sent ∧
      ∃ items, sent.body = .dict items ∧
        (items.lookup "messages".toList).bind (readItems readMessage) = some [
          { role := "user".toList
            content := some (.parts [.text "Rain?".toList,
              .image "http://host/a.png".toList "low".toList]) },
          { role := "assistant".toList
            content := some .null
            toolCalls := some [weatherToolCall] },
          { role := "tool".toList
            content := some (.text "no".toList)
            toolCallId := "call_1".toList }] := by
  obtain ⟨sends, understood⟩ := Generate.request_understood weatherPlatform weatherCall rfl
  have accepted : Accepted weatherPlatform.isFinite weatherCall
      (Dict.empty.set "temperature".toList (.int 0)) := by
    refine ⟨?_, fun _ _ _ => List.all_eq_true.mpr fun _ _ => rfl,
      fun _ _ _ _ => List.all_eq_true.mpr fun _ _ => rfl⟩
    simp only [weatherCall, List.forall_mem_cons, Sendable, Known, implies_true,
      List.not_mem_nil, false_imp_iff, and_true]
  obtain ⟨sent, made⟩ := sends.mpr ⟨"http://host/v1/".toList, _, rfl, rfl, accepted⟩
  obtain ⟨endpointUrl, parameters, items, -, -, rfl, reads⟩ := understood sent made
  exact ⟨_, made, items, rfl, reads.messages⟩

end DifyPlugin.ChatRequest
