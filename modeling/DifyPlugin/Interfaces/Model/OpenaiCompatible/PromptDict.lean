import DifyPlugin.Entities.PromptMessage
import DifyPlugin.Library.Dict
import DifyPlugin.Library.Fallible

/-!
# Prompt messages of a request

`_convert_prompt_message_to_dict` turns a prompt message into an entry of `messages`, which
`json.dumps` writes. `readMessage` is what a provider reads there, and `meaning` what it should
read: the whole message, but for the parts that the format does not know and the name of a tool
message.
-/

namespace DifyPlugin.ChatRequest

open Prompt

variable {ω : Type}

/-! ## The dictionary of a message -/

/-- The exceptions before a request is sent. -/
inductive RequestError where
  /-- `KeyError`. -/
  | keyError (key : Text)
  /-- `ValueError`: the response format needs a schema. -/
  | noSchema
  /-- `ValueError`: the schema is no JSON object. -/
  | badSchema
  /-- `ValueError` of `LLMMode`. -/
  | mode
  /-- `TypeError`: the message is of no known class. -/
  | unknownType
  /-- `IndexError`: there is no prompt message. -/
  | indexError
  /-- `TypeError` or `ValueError` of `json.dumps`. -/
  | unserializable
  deriving DecidableEq

/-- `MultiModalPromptMessageContent.data`. -/
def contentData (content : MultiModalPromptMessageContent ω) : Text :=
  if content.url = [] then
    "data:".toList ++ content.mimeType ++ ";base64,".toList ++ content.base64Data
  else content.url

/-- A text that `if` takes. -/
def given : Option Text → Option Text
  | none | some [] => none
  | some text => some text

/-- `message.content`, with the parts as they are. -/
def contentValue : Option (Content ω) → PyValue ω
  | none => .none
  | some (.text text) => .str text
  | some (.parts parts) => .list (parts.map PyValue.part)

/-- What one part adds to `sub_messages`; `isUser` says whether the message is a
`UserPromptMessage`. -/
def subMessage (isUser : Bool) : PromptMessageContent ω → Option (PyValue ω)
  | .text content => some (.dict [
      ("type".toList, .str "text".toList),
      ("text".toList, .str content.data)])
  | .image content detail => some (.dict [
      ("type".toList, .str "image_url".toList),
      ("image_url".toList, .dict [
        ("url".toList, .str (contentData content)),
        ("detail".toList, .str detail.value)])])
  | .video content => some (.dict [
      ("type".toList, .str "video_url".toList),
      ("video_url".toList, .dict [("url".toList, .str (contentData content))])])
  | part => if isUser then none else some (.part part)

/-- `sub_messages`. -/
def subMessages (message : Message ω) : List (PyValue ω) :=
  match message.base.content with
  | some (.parts parts) =>
    parts.filterMap (subMessage (decide (message.messageClass = .user)))
  | _ => []

/-- `{"role": role, "content": content}`. -/
def roleContent (role : Text) (content : PyValue ω) : Dict Text (PyValue ω) :=
  (Dict.empty.set "role".toList (.str role)).set "content".toList content

/-- The dictionary by the class of the message; `functionCallingType` is
`credentials.get("function_calling_type", "no_call")`. -/
def classDict (functionCallingType : Text) :
    Message ω → Except RequestError (Dict Text (PyValue ω))
  | .user base => .ok (roleContent "user".toList
      (match base.content with
      | none => .list []
      | some content => contentValue (some content)))
  | .assistant base toolCalls _ =>
    let messageDict := roleContent "assistant".toList (contentValue base.content)
    match toolCalls with
    | [] => .ok messageDict
    | functionCall :: _ =>
      if functionCallingType = "tool_call".toList then
        .ok (messageDict.set "tool_calls".toList (.list (toolCalls.map dumpToolCall)))
      else if functionCallingType = "function_call".toList then
        .ok (messageDict.set "function_call".toList (dumpFunction functionCall.function))
      else .ok messageDict
  | .system base => .ok (roleContent "system".toList (contentValue base.content))
  | .tool base toolCallId =>
    if functionCallingType = "tool_call".toList then
      .ok ((roleContent "tool".toList (contentValue base.content)).set "tool_call_id".toList
        (.str toolCallId))
    else if functionCallingType = "function_call".toList then
      .ok ((roleContent "function".toList (contentValue base.content)).set "name".toList
        (.str toolCallId))
    else .ok Dict.empty
  | .developer _ | .promptMessage _ => .error .unknownType

/-- A list of parts is replaced by the parts of the format. -/
def replaceContent (message : Message ω) (messageDict : Dict Text (PyValue ω)) :
    Dict Text (PyValue ω) :=
  match messageDict.get "content".toList with
  | some (.list _) => messageDict.set "content".toList (.list (subMessages message))
  | _ => messageDict

/-- `message_dict.get("role", "") != "tool"`. -/
def notTool (messageDict : Dict Text (PyValue ω)) : Bool :=
  match messageDict.get "role".toList with
  | some (.str role) => decide (role ≠ "tool".toList)
  | _ => true

/-- The name is added. -/
def addName (message : Message ω) (messageDict : Dict Text (PyValue ω)) :
    Dict Text (PyValue ω) :=
  match given message.base.name with
  | none => messageDict
  | some name =>
    if notTool messageDict then messageDict.set "name".toList (.str name) else messageDict

/-- `_convert_prompt_message_to_dict`. -/
def convertPromptMessageToDict (functionCallingType : Text) (message : Message ω) :
    Except RequestError (Dict Text (PyValue ω)) := do
  let messageDict ← classDict functionCallingType message
  return addName message (replaceContent message messageDict)

/-! ## `json.dumps` -/

mutual

/-- The JSON value that `json.dumps(value, allow_nan=False)` writes, unless it raises. -/
def jsonDumps (isFinite : ω → Bool) : PyValue ω → Option (Json ω)
  | .none => some .null
  | .bool value => some (.bool value)
  | .int value => some (.int value)
  | .float value => if isFinite value then some (.float value) else none
  | .str value => some (.str value)
  | .contentType type => some (.str type.value)
  | .role _ => none
  | .detail _ => none
  | .part _ => none
  | .list items => (jsonDumpsItems isFinite items).map Json.list
  | .dict items => (jsonDumpsEntries isFinite items).map Json.dict

/-- The items of a list. -/
def jsonDumpsItems (isFinite : ω → Bool) : List (PyValue ω) → Option (List (Json ω))
  | [] => some []
  | item :: rest => do
    let value ← jsonDumps isFinite item
    let values ← jsonDumpsItems isFinite rest
    return value :: values

/-- The entries of an object. -/
def jsonDumpsEntries (isFinite : ω → Bool) :
    List (Text × PyValue ω) → Option (List (Text × Json ω))
  | [] => some []
  | (key, item) :: rest => do
    let value ← jsonDumps isFinite item
    let entries ← jsonDumpsEntries isFinite rest
    return (key, value) :: entries

end

mutual

/-- The floating-point numbers of a JSON value. -/
def floats : Json ω → List ω
  | .float value => [value]
  | .list items => floatsItems items
  | .dict items => floatsEntries items
  | _ => []

/-- Those of the items of a list. -/
def floatsItems : List (Json ω) → List ω
  | [] => []
  | item :: rest => floats item ++ floatsItems rest

/-- Those of the entries of an object. -/
def floatsEntries : List (Text × Json ω) → List ω
  | [] => []
  | (_, value) :: rest => floats value ++ floatsEntries rest

end

mutual

/-- A JSON value is written as it is when its numbers are finite, and not at all otherwise. -/
theorem jsonDumps_dumpJson (isFinite : ω → Bool) : ∀ value : Json ω,
    jsonDumps isFinite (dumpJson value) = if (floats value).all isFinite then some value else none
  | .null => rfl
  | .bool _ => rfl
  | .int _ => rfl
  | .float value => by
    cases finite : isFinite value <;> simp [dumpJson, jsonDumps, floats, finite]
  | .str _ => rfl
  | .list items => by
    rw [dumpJson, jsonDumps, jsonDumpsItems_dumpJsonItems isFinite items, floats]
    split <;> rfl
  | .dict items => by
    rw [dumpJson, jsonDumps, jsonDumpsEntries_dumpJsonEntries isFinite items, floats]
    split <;> rfl

/-- The items of a list. -/
theorem jsonDumpsItems_dumpJsonItems (isFinite : ω → Bool) : ∀ items : List (Json ω),
    jsonDumpsItems isFinite (dumpJsonItems items) =
      if (floatsItems items).all isFinite then some items else none
  | [] => rfl
  | item :: rest => by
    rw [dumpJsonItems, jsonDumpsItems, jsonDumps_dumpJson isFinite item,
      jsonDumpsItems_dumpJsonItems isFinite rest, floatsItems, List.all_append]
    cases (floats item).all isFinite <;> cases (floatsItems rest).all isFinite <;> rfl

/-- The entries of an object. -/
theorem jsonDumpsEntries_dumpJsonEntries (isFinite : ω → Bool) :
    ∀ entries : List (Text × Json ω), jsonDumpsEntries isFinite (dumpJsonEntries entries) =
      if (floatsEntries entries).all isFinite then some entries else none
  | [] => rfl
  | (key, value) :: rest => by
    rw [dumpJsonEntries, jsonDumpsEntries, jsonDumps_dumpJson isFinite value,
      jsonDumpsEntries_dumpJsonEntries isFinite rest, floatsEntries, List.all_append]
    cases (floats value).all isFinite <;> cases (floatsEntries rest).all isFinite <;> rfl

end

/-! ## What a provider reads -/

/-- A part of a content that the format knows. -/
inductive ReadPart where
  /-- A text. -/
  | text (text : Text)
  /-- An image. -/
  | image (url detail : Text)
  /-- A video. -/
  | video (url : Text)
  deriving DecidableEq

/-- A content. -/
inductive ReadContent where
  /-- `null`. -/
  | null
  /-- A string. -/
  | text (text : Text)
  /-- Parts. -/
  | parts (parts : List ReadPart)
  deriving DecidableEq

/-- An entry of `messages`; a field is absent when its key is. -/
structure ReadMessage where
  /-- `role`. -/
  role : Option Text := none
  /-- `content`. -/
  content : Option ReadContent := none
  /-- `name`. -/
  name : Option Text := none
  /-- `tool_calls`. -/
  toolCalls : Option (List ToolCall) := none
  /-- `function_call`. -/
  functionCall : Option ToolCallFunction := none
  /-- `tool_call_id`. -/
  toolCallId : Option Text := none
  deriving DecidableEq

/-- A field that may be absent, but not wrong. -/
def readField {α : Type} (items : List (Text × Json ω)) (key : Text)
    (read : Json ω → Option α) : Option (Option α) :=
  match items.lookup key with
  | none => some none
  | some value => (read value).map some

/-- A field that is required. -/
def requireField {α : Type} (items : List (Text × Json ω)) (key : Text)
    (read : Json ω → Option α) : Option α :=
  (items.lookup key).bind read

/-- A part. -/
def readPart (part : Json ω) : Option ReadPart := do
  let items ← part.asItems
  let type ← requireField items "type".toList Json.asText
  if type = "text".toList then
    let text ← requireField items "text".toList Json.asText
    return .text text
  else if type = "image_url".toList then
    let image ← requireField items "image_url".toList Json.asItems
    let url ← requireField image "url".toList Json.asText
    let detail ← requireField image "detail".toList Json.asText
    return .image url detail
  else if type = "video_url".toList then
    let video ← requireField items "video_url".toList Json.asItems
    let url ← requireField video "url".toList Json.asText
    return .video url
  else none

/-- A content. -/
def readContent : Json ω → Option ReadContent
  | .null => some .null
  | .str text => some (.text text)
  | .list items => (items.mapM readPart).map ReadContent.parts
  | _ => none

/-- A function. -/
def readFunction (function : Json ω) : Option ToolCallFunction := do
  let items ← function.asItems
  let name ← requireField items "name".toList Json.asText
  let arguments ← requireField items "arguments".toList Json.asText
  return ⟨name, arguments⟩

/-- A tool call. -/
def readToolCall (toolCall : Json ω) : Option ToolCall := do
  let items ← toolCall.asItems
  let id ← requireField items "id".toList Json.asText
  let type ← requireField items "type".toList Json.asText
  let function ← requireField items "function".toList readFunction
  return ⟨id, type, function⟩

/-- Tool calls. -/
def readToolCalls : Json ω → Option (List ToolCall)
  | .list items => items.mapM readToolCall
  | _ => none

/-- An entry of `messages`. -/
def readMessage (message : Json ω) : Option ReadMessage := do
  let items ← message.asItems
  let role ← readField items "role".toList Json.asText
  let content ← readField items "content".toList readContent
  let name ← readField items "name".toList Json.asText
  let toolCalls ← readField items "tool_calls".toList readToolCalls
  let functionCall ← readField items "function_call".toList readFunction
  let toolCallId ← readField items "tool_call_id".toList Json.asText
  return { role, content, name, toolCalls, functionCall, toolCallId }

/-! ## What it should read -/

/-- A part that the format knows. -/
def partOf : PromptMessageContent ω → Option ReadPart
  | .text content => some (.text content.data)
  | .image content detail => some (.image (contentData content) detail.value)
  | .video content => some (.video (contentData content))
  | _ => none

/-- A content. -/
def contentOf : Option (Content ω) → ReadContent
  | none => .null
  | some (.text text) => .text text
  | some (.parts parts) => .parts (parts.filterMap partOf)

/-- The content of a user message; none is sent as no parts. -/
def userContentOf : Option (Content ω) → ReadContent
  | none => .parts []
  | content => contentOf content

/-- What a provider should read of a message. Without a function calling type a tool message has
neither its role nor its content, and an assistant message has no tool calls; a function call is
the first of them only. -/
def meaning (functionCallingType : Text) : Message ω → ReadMessage
  | .user base =>
    { role := "user".toList, content := userContentOf base.content, name := given base.name }
  | .assistant base toolCalls _ =>
    { role := "assistant".toList
      content := contentOf base.content
      name := given base.name
      toolCalls :=
        if toolCalls ≠ [] ∧ functionCallingType = "tool_call".toList then toolCalls else none
      functionCall :=
        if functionCallingType = "function_call".toList then
          toolCalls.head?.map ToolCall.function
        else none }
  | .tool base toolCallId =>
    if functionCallingType = "tool_call".toList then
      { role := "tool".toList, content := contentOf base.content, toolCallId }
    else if functionCallingType = "function_call".toList then
      { role := "function".toList
        content := contentOf base.content
        name := (given base.name).getD toolCallId }
    else { name := given base.name }
  | .system base =>
    { role := "system".toList, content := contentOf base.content, name := given base.name }
  | _ => {}

/-- All parts of a content are known. -/
def Known : Option (Content ω) → Prop
  | some (.parts parts) => ∀ part ∈ parts, partOf part ≠ none
  | _ => True

/-- A message can be sent: it is of one of the four classes, and only the parts of a user message
may be unknown, or of a tool message that is not sent. -/
def Sendable (functionCallingType : Text) : Message ω → Prop
  | .user _ => True
  | .assistant base _ _ | .system base => Known base.content
  | .tool base _ =>
    functionCallingType = "tool_call".toList ∨ functionCallingType = "function_call".toList →
      Known base.content
  | .developer _ | .promptMessage _ => False

/-! ## Reading what was written -/

section Dumps

variable {isFinite : ω → Bool}

/-- The dump of some items succeeds when that of each does, and keeps the lookups. -/
theorem lookup_jsonDumpsEntries {entries : List (Text × PyValue ω)}
    {items : List (Text × Json ω)} (dumped : jsonDumpsEntries isFinite entries = some items)
    (key : Text) : items.lookup key = (entries.lookup key).bind (jsonDumps isFinite) := by
  induction entries generalizing items with
  | nil =>
    obtain rfl : [] = items := by simpa [jsonDumpsEntries] using dumped
    rfl
  | cons entry rest ih =>
    obtain ⟨name, value⟩ := entry
    simp only [jsonDumpsEntries, bind, pure, Option.bind_eq_some_iff] at dumped
    obtain ⟨first, made, others, later, same⟩ := dumped
    obtain rfl : (name, first) :: others = items := by simpa using same
    rw [List.lookup_cons, List.lookup_cons]
    cases key == name with
    | true => simpa using made.symm
    | false => exact ih later

/-- All items have to be written. -/
theorem jsonDumpsEntries_isSome {entries : List (Text × PyValue ω)} :
    (jsonDumpsEntries isFinite entries).isSome = true ↔
      ∀ entry ∈ entries, (jsonDumps isFinite entry.2).isSome = true := by
  induction entries with
  | nil => simp [jsonDumpsEntries]
  | cons entry rest ih =>
    obtain ⟨name, value⟩ := entry
    rw [List.forall_mem_cons, ← ih, jsonDumpsEntries]
    cases jsonDumps isFinite value <;> cases jsonDumpsEntries isFinite rest <;>
      simp [bind, pure]

/-- The dump of a list is that of its items. -/
theorem jsonDumpsItems_eq (items : List (PyValue ω)) :
    jsonDumpsItems isFinite items = items.mapM (jsonDumps isFinite) := by
  induction items with
  | nil => rfl
  | cons item rest ih =>
    rw [jsonDumpsItems, List.mapM_cons, ih]

/-- A function is read back. -/
theorem readFunction_dumpFunction (isFinite : ω → Bool) (function : ToolCallFunction) :
    (jsonDumps isFinite (dumpFunction function)).bind readFunction = some function := by
  rfl

/-- A tool call is read back. -/
theorem readToolCall_dumpToolCall (isFinite : ω → Bool) (toolCall : ToolCall) :
    (jsonDumps isFinite (dumpToolCall toolCall)).bind readToolCall = some toolCall := by
  rfl

/-- Tool calls are read back. -/
theorem readToolCalls_dumpToolCall (isFinite : ω → Bool) (toolCalls : List ToolCall) :
    (jsonDumps isFinite (.list (toolCalls.map dumpToolCall))).bind readToolCalls =
      some toolCalls := by
  have each : ∀ call ∈ toolCalls,
      ((fun call => jsonDumps isFinite (dumpToolCall call)) call).bind readToolCall =
        some (id call) :=
    fun call _ => readToolCall_dumpToolCall isFinite call
  have all := Fallible.mapM_bind_mapM each
  obtain ⟨written, dumped, seen⟩ := Option.bind_eq_some_iff.mp all
  have items : jsonDumpsItems isFinite (toolCalls.map dumpToolCall) = some written := by
    rw [jsonDumpsItems_eq, List.mapM_map]
    exact dumped
  rw [jsonDumps, items]
  simpa [readToolCalls] using seen

/-- A part that the format knows is written and read back. -/
theorem readPart_subMessage (isFinite : ω → Bool) (isUser : Bool)
    {part : PromptMessageContent ω} {known : ReadPart} (knows : partOf part = some known) :
    ∃ value, subMessage isUser part = some value ∧
      (jsonDumps isFinite value).bind readPart = some known := by
  cases part with
  | text content =>
    obtain rfl := Option.some.inj knows
    exact ⟨_, rfl, rfl⟩
  | image content detail =>
    obtain rfl := Option.some.inj knows
    exact ⟨_, rfl, rfl⟩
  | video content =>
    obtain rfl := Option.some.inj knows
    exact ⟨_, rfl, rfl⟩
  | audio content => simp [partOf] at knows
  | document content => simp [partOf] at knows

/-- Another part is left out of a user message, and cannot be written in any other one. -/
theorem subMessage_unknown (isUser : Bool) {part : PromptMessageContent ω}
    (unknown : partOf part = none) :
    subMessage isUser part = if isUser then none else some (.part part) := by
  cases part with
  | text content => simp [partOf] at unknown
  | image content detail => simp [partOf] at unknown
  | video content => simp [partOf] at unknown
  | audio content => rfl
  | document content => rfl

/-- The parts are written and read back, but for those that are left out. -/
theorem readParts_subMessage (isUser : Bool) (parts : List (PromptMessageContent ω))
    (sendable : isUser = true ∨ ∀ part ∈ parts, partOf part ≠ none) :
    (jsonDumps isFinite (.list (parts.filterMap (subMessage isUser)))).bind readContent =
      some (.parts (parts.filterMap partOf)) := by
  have all : ((jsonDumpsItems isFinite (parts.filterMap (subMessage isUser))).bind
      fun written => written.mapM readPart) = some (parts.filterMap partOf) := by
    induction parts with
    | nil => rfl
    | cons part rest ih =>
      have later := ih (sendable.imp_right fun known => (List.forall_mem_cons.mp known).2)
      cases knows : partOf part with
      | none =>
        have user : isUser = true :=
          sendable.resolve_right fun known => known part List.mem_cons_self knows
        have skipped : subMessage isUser part = none := by
          rw [subMessage_unknown isUser knows, if_pos user]
        rw [List.filterMap_cons_none skipped, List.filterMap_cons_none knows]
        exact later
      | some known =>
        obtain ⟨value, made, seen⟩ := readPart_subMessage isFinite isUser knows
        obtain ⟨written, dumped, first⟩ := Option.bind_eq_some_iff.mp seen
        obtain ⟨others, collected, remaining⟩ := Option.bind_eq_some_iff.mp later
        rw [List.filterMap_cons_some made, List.filterMap_cons_some knows]
        simp [jsonDumpsItems, dumped, collected, first, remaining]
  obtain ⟨written, dumped, seen⟩ := Option.bind_eq_some_iff.mp all
  simp [jsonDumps, dumped, readContent, seen]

/-- Parts that are neither known nor left out cannot be written. -/
theorem jsonDumps_unknown {parts : List (PromptMessageContent ω)}
    (unknown : ¬ ∀ part ∈ parts, partOf part ≠ none) :
    jsonDumps isFinite (.list (parts.filterMap (subMessage false))) = none := by
  have stops : jsonDumpsItems isFinite (parts.filterMap (subMessage false)) = none := by
    induction parts with
    | nil => simp at unknown
    | cons part rest ih =>
      cases knows : partOf part with
      | none =>
        have kept : subMessage false part = some (.part part) := by
          rw [subMessage_unknown false knows]
          rfl
        rw [List.filterMap_cons_some kept]
        simp [jsonDumpsItems, jsonDumps]
      | some known =>
        have later := ih fun others => unknown (by simpa [knows] using others)
        obtain ⟨value, made, -⟩ := readPart_subMessage isFinite false knows
        rw [List.filterMap_cons_some made]
        cases dumped : jsonDumps isFinite value <;> simp [jsonDumpsItems, dumped, later]
  rw [jsonDumps, stops]
  rfl

end Dumps

/-- The value of a key, for a message with the given content. -/
def fieldOf (content : Option (PyValue ω)) (message : ReadMessage) (key : Text) :
    Option (PyValue ω) :=
  if key = "role".toList then message.role.map PyValue.str
  else if key = "content".toList then content
  else if key = "name".toList then message.name.map PyValue.str
  else if key = "tool_calls".toList then
    message.toolCalls.map fun toolCalls => .list (toolCalls.map dumpToolCall)
  else if key = "function_call".toList then message.functionCall.map dumpFunction
  else if key = "tool_call_id".toList then message.toolCallId.map PyValue.str
  else none

/-- A dictionary has a content, the other fields of a message, and nothing else. -/
def Shape (messageDict : Dict Text (PyValue ω)) (content : Option (PyValue ω))
    (message : ReadMessage) : Prop :=
  ∀ key, messageDict.get key = fieldOf content message key

section Shapes

variable {messageDict : Dict Text (PyValue ω)} {content : Option (PyValue ω)}
  {message : ReadMessage} {isFinite : ω → Bool}

/-- The lookup in a dictionary of texts is that in its items. -/
theorem get_eq_lookup {α : Type} (dict : Dict Text α) (key : Text) :
    dict.get key = dict.entries.lookup key := by
  have instances : (instBEqOfDecidableEq : BEq Text) = List.instBEq :=
    lawful_beq_subsingleton _ _
  rw [Dict.get, instances]

/-- A field is read back from the dump. -/
theorem readField_dumped {α : Type} {items : List (Text × Json ω)}
    (dumped : jsonDumpsEntries isFinite messageDict.entries = some items) {key : Text}
    {value : Option α} {write : α → PyValue ω} {read : Json ω → Option α}
    (has : messageDict.get key = value.map write)
    (reads : ∀ given, value = some given →
      (jsonDumps isFinite (write given)).bind read = some given) :
    readField items key read = some value := by
  have found := lookup_jsonDumpsEntries dumped key
  rw [← get_eq_lookup, has] at found
  cases value with
  | none =>
    have absent : items.lookup key = none := found
    simp only [readField, absent]
  | some value =>
    obtain ⟨json, made, seen⟩ := Option.bind_eq_some_iff.mp (reads value rfl)
    have present : items.lookup key = some json := found.trans made
    simp only [readField, present, seen, Option.map_some]

/-- A dictionary whose content is written and read back is read back whole. -/
theorem Shape.read (shape : Shape messageDict content message) {known : Option ReadContent}
    (absent : content = none → known = none)
    (reads : ∀ value, content = some value → ∃ seen, known = some seen ∧
      (jsonDumps isFinite value).bind readContent = some seen) :
    (jsonDumps isFinite (.dict messageDict.entries)).bind readMessage =
      some { message with content := known } := by
  have text (value : Text) :
      (jsonDumps isFinite (.str value)).bind Json.asText = some value := rfl
  have every : ∀ entry ∈ messageDict.entries, (jsonDumps isFinite entry.2).isSome = true := by
    rintro ⟨key, value⟩ listed
    have has : messageDict.get key = some value := Dict.get_eq_some.mpr listed
    rw [shape key, fieldOf] at has
    -- one field after another
    split_ifs at has with isRole isContent isName isToolCalls isFunctionCall isToolCallId
    · obtain ⟨role, -, rfl⟩ := Option.map_eq_some_iff.mp has
      rfl
    · obtain ⟨seen, -, read⟩ := reads value has
      obtain ⟨json, made, -⟩ := Option.bind_eq_some_iff.mp read
      rw [made]
      rfl
    · obtain ⟨name, -, rfl⟩ := Option.map_eq_some_iff.mp has
      rfl
    · obtain ⟨toolCalls, -, rfl⟩ := Option.map_eq_some_iff.mp has
      obtain ⟨json, made, -⟩ :=
        Option.bind_eq_some_iff.mp (readToolCalls_dumpToolCall isFinite toolCalls)
      rw [made]
      rfl
    · obtain ⟨function, -, rfl⟩ := Option.map_eq_some_iff.mp has
      rfl
    · obtain ⟨toolCallId, -, rfl⟩ := Option.map_eq_some_iff.mp has
      rfl
  obtain ⟨items, dumped⟩ := Option.isSome_iff_exists.mp (jsonDumpsEntries_isSome.mpr every)
  have body : readField items "content".toList readContent = some known := by
    cases content with
    | none =>
      have nothing : messageDict.get "content".toList =
          (none : Option ReadContent).map fun _ => PyValue.none := shape "content".toList
      rw [absent rfl]
      exact readField_dumped dumped nothing (by simp)
    | some value =>
      obtain ⟨seen, rfl, read⟩ := reads value rfl
      have has : messageDict.get "content".toList = (some seen).map fun _ => value :=
        shape "content".toList
      apply readField_dumped dumped has
      rintro given ⟨⟩
      exact read
  have role := readField_dumped dumped (shape "role".toList) fun value _ => text value
  have name := readField_dumped dumped (shape "name".toList) fun value _ => text value
  have toolCalls := readField_dumped dumped (shape "tool_calls".toList)
    fun value _ => readToolCalls_dumpToolCall isFinite value
  have functionCall := readField_dumped dumped (shape "function_call".toList)
    fun value _ => readFunction_dumpFunction isFinite value
  have toolCallId := readField_dumped dumped (shape "tool_call_id".toList) fun value _ => text value
  simp only [jsonDumps, dumped, readMessage, Json.asItems, body, role, name, toolCalls,
    functionCall, toolCallId, Option.map_some, Option.bind_some, bind, pure]

/-- Nothing is set. -/
theorem shape_empty : Shape (Dict.empty : Dict Text (PyValue ω)) none {} := by
  intro key
  simp only [fieldOf, Option.map_none, ite_self]
  rfl

/-- A field is set, and the others are kept. -/
theorem Shape.set (shape : Shape messageDict content message) {key : Text} {value : PyValue ω}
    {content' : Option (PyValue ω)} {message' : ReadMessage}
    (changed : fieldOf content' message' key = some value)
    (kept : ∀ other, other ≠ key →
      fieldOf content' message' other = fieldOf content message other) :
    Shape (messageDict.set key value) content' message' := by
  intro other
  by_cases same : other = key
  · subst same
    rw [Dict.get_set_self, changed]
  · rw [Dict.get_set_of_ne _ same, shape other, kept other same]

/-- The content is set. -/
theorem Shape.setContent (shape : Shape messageDict content message) (value : PyValue ω) :
    Shape (messageDict.set "content".toList value) (some value) message :=
  shape.set rfl fun other apart => by simp only [fieldOf, if_neg apart]

/-- The name is set. -/
theorem Shape.setName (shape : Shape messageDict content message) (name : Text) :
    Shape (messageDict.set "name".toList (.str name)) content { message with name } :=
  shape.set rfl fun other apart => by simp only [fieldOf, if_neg apart]

/-- The tool calls are set. -/
theorem Shape.setToolCalls (shape : Shape messageDict content message)
    (toolCalls : List ToolCall) :
    Shape (messageDict.set "tool_calls".toList (.list (toolCalls.map dumpToolCall))) content
      { message with toolCalls } :=
  shape.set rfl fun other apart => by simp only [fieldOf, if_neg apart]

/-- The function call is set. -/
theorem Shape.setFunctionCall (shape : Shape messageDict content message)
    (functionCall : ToolCallFunction) :
    Shape (messageDict.set "function_call".toList (dumpFunction functionCall)) content
      { message with functionCall } :=
  shape.set rfl fun other apart => by simp only [fieldOf, if_neg apart]

/-- The identifier of a call is set. -/
theorem Shape.setToolCallId (shape : Shape messageDict content message) (toolCallId : Text) :
    Shape (messageDict.set "tool_call_id".toList (.str toolCallId)) content
      { message with toolCallId } :=
  shape.set rfl fun other apart => by simp only [fieldOf, if_neg apart]

/-- A role and a content are set. -/
theorem shape_roleContent (role : Text) (value : PyValue ω) :
    Shape (roleContent role value) (some value) { role := role } := by
  have first : Shape (Dict.empty.set "role".toList (.str role) : Dict Text (PyValue ω)) none
      { role := role } :=
    shape_empty.set rfl fun other apart => by simp only [fieldOf, if_neg apart]
  exact first.setContent value

/-- The content after a list of parts was replaced. -/
def replaced (source : Message ω) : Option (PyValue ω) → Option (PyValue ω)
  | some (.list _) => some (.list (subMessages source))
  | other => other

/-- A list of parts is replaced. -/
theorem Shape.replaceContent (shape : Shape messageDict content message) (source : Message ω) :
    Shape (ChatRequest.replaceContent source messageDict) (replaced source content) message := by
  have has : messageDict.get "content".toList = content := shape "content".toList
  rw [ChatRequest.replaceContent, has]
  cases content with
  | none => exact shape
  | some value =>
    cases value with
    | list items => exact shape.setContent _
    | _ => exact shape

/-- The name is added, but not to a tool message. -/
theorem Shape.addName (shape : Shape messageDict content message) (source : Message ω) :
    Shape (ChatRequest.addName source messageDict) content
      { message with
        name :=
          if message.role = some "tool".toList then message.name
          else (given source.base.name).or message.name } := by
  have role : notTool messageDict = decide (message.role ≠ some "tool".toList) := by
    have has : messageDict.get "role".toList = message.role.map PyValue.str :=
      shape "role".toList
    rw [notTool, has]
    cases message.role <;> simp
  cases has : given source.base.name with
  | none =>
    have kept : ChatRequest.addName source messageDict = messageDict := by
      rw [ChatRequest.addName, has]
    rw [kept, Option.none_or, ite_self]
    exact shape
  | some name =>
    by_cases tool : message.role = some "tool".toList
    · rw [decide_eq_false (not_not_intro tool)] at role
      have kept : ChatRequest.addName source messageDict = messageDict := by
        simp only [ChatRequest.addName, has, role, Bool.false_eq_true, if_false]
      rw [kept, if_pos tool]
      exact shape
    · rw [decide_eq_true tool] at role
      have added : ChatRequest.addName source messageDict =
          messageDict.set "name".toList (.str name) := by
        simp only [ChatRequest.addName, has, role, if_true]
      rw [added, if_neg tool]
      exact shape.setName name

/-- The other fields do not depend on how the content is read. -/
theorem Shape.withContent (shape : Shape messageDict content message)
    (known : Option ReadContent) :
    Shape messageDict content { message with content := known } :=
  shape

/-- The content is replaced and the name added. -/
theorem Shape.finish (shape : Shape messageDict content message) (source : Message ω)
    {sent : Option (PyValue ω)} (replaces : replaced source content = sent) {name : Option Text}
    (named : (if message.role = some "tool".toList then message.name
      else (given source.base.name).or message.name) = name)
    (known : Option ReadContent) :
    Shape (ChatRequest.addName source (ChatRequest.replaceContent source messageDict)) sent
      { message with content := known, name := name } := by
  subst replaces named
  exact ((shape.replaceContent source).addName source).withContent known

end Shapes

/-! ## The dictionary says what it should -/

/-- The content of a message that is sent. -/
def wholeContent (message : Message ω) : PyValue ω :=
  match message.base.content with
  | none => if message.messageClass = .user then .list [] else .none
  | some (.text text) => .str text
  | some (.parts _) => .list (subMessages message)

/-- The content that a dictionary has; a tool message may have none. -/
def sentContent (functionCallingType : Text) : Message ω → Option (PyValue ω)
  | .tool base toolCallId =>
    if functionCallingType = "tool_call".toList ∨ functionCallingType = "function_call".toList
    then some (wholeContent (.tool base toolCallId))
    else none
  | message => some (wholeContent message)

/-- The content of another message than a user's is replaced. -/
theorem replaced_contentValue {message : Message ω} (other : message.messageClass ≠ .user) :
    replaced message (some (contentValue message.base.content)) = some (wholeContent message) := by
  rw [wholeContent]
  cases message.base.content with
  | none =>
    rw [if_neg other]
    rfl
  | some content => cases content <;> rfl

/-- The content of a user message is replaced. -/
theorem replaced_userContent (base : PromptMessage ω) :
    replaced (.user base) (some (match base.content with
      | none => .list []
      | some content => contentValue (some content))) = some (wholeContent (.user base)) := by
  cases has : base.content with
  | none => simp [replaced, wholeContent, subMessages, Message.base, Message.messageClass, has]
  | some content => cases content <;> simp [replaced, wholeContent, Message.base, contentValue, has]

/-- A message of one of the four classes. -/
def Typed : Message ω → Prop
  | .developer _ | .promptMessage _ => False
  | _ => True

/-- What follows the choice by the class. -/
theorem convert_of_classDict {functionCallingType : Text} {message : Message ω}
    {messageDict : Dict Text (PyValue ω)}
    (made : classDict functionCallingType message = .ok messageDict) :
    convertPromptMessageToDict functionCallingType message =
      .ok (addName message (replaceContent message messageDict)) := by
  rw [convertPromptMessageToDict, made]
  rfl

/-- A message whose role is not that of a tool gets the name. -/
theorem named_of_role {role : Text} {first name : Option Text} (apart : role ≠ "tool".toList) :
    (if some role = some "tool".toList then first else name.or first) = name.or first :=
  if_neg (by simpa using apart)

/-- An assistant message is converted. -/
theorem convert_assistant (functionCallingType : Text) (base : PromptMessage ω)
    (toolCalls : List ToolCall) (opaqueBody : Json ω) :
    ∃ messageDict, convertPromptMessageToDict functionCallingType
        (.assistant base toolCalls opaqueBody) = .ok messageDict ∧
      Shape messageDict
        (sentContent functionCallingType (.assistant base toolCalls opaqueBody))
        (meaning functionCallingType (.assistant base toolCalls opaqueBody)) := by
  have whole : replaced (.assistant base toolCalls opaqueBody)
      (some (contentValue base.content)) =
        some (wholeContent (.assistant base toolCalls opaqueBody)) :=
    replaced_contentValue (by simp [Message.messageClass])
  have start := shape_roleContent (ω := ω) "assistant".toList (contentValue base.content)
  have named : (if some "assistant".toList = some "tool".toList then none
      else (given base.name).or none) = given base.name :=
    (named_of_role (by decide)).trans Option.or_none
  cases toolCalls with
  | nil =>
    have means : meaning functionCallingType (.assistant base [] opaqueBody) =
        { role := "assistant".toList
          content := contentOf base.content
          name := given base.name } := by
      simp only [meaning, ne_eq, not_true_eq_false, false_and, if_false, List.head?_nil,
        Option.map_none, ite_self]
    rw [means]
    exact ⟨_, convert_of_classDict rfl, start.finish _ whole named _⟩
  | cons functionCall rest =>
    by_cases toolCall : functionCallingType = "tool_call".toList
    · subst toolCall
      exact ⟨_, convert_of_classDict rfl,
        (start.setToolCalls (functionCall :: rest)).finish _ whole named _⟩
    · by_cases function : functionCallingType = "function_call".toList
      · subst function
        exact ⟨_, convert_of_classDict rfl,
          (start.setFunctionCall functionCall.function).finish _ whole named _⟩
      · have made : classDict functionCallingType
            (.assistant base (functionCall :: rest) opaqueBody) =
              .ok (roleContent "assistant".toList (contentValue base.content)) := by
          simp only [classDict, toolCall, function, if_false]
        have means : meaning functionCallingType
            (.assistant base (functionCall :: rest) opaqueBody) =
              { role := "assistant".toList
                content := contentOf base.content
                name := given base.name } := by
          simp only [meaning, toolCall, function, and_false, if_false]
        rw [means]
        exact ⟨_, convert_of_classDict made, start.finish _ whole named _⟩

/-- A message of one of the four classes is converted, and the dictionary has its fields. -/
theorem convert_shape (functionCallingType : Text) {message : Message ω} (typed : Typed message) :
    ∃ messageDict, convertPromptMessageToDict functionCallingType message = .ok messageDict ∧
      Shape messageDict (sentContent functionCallingType message)
        (meaning functionCallingType message) := by
  cases message with
  | user base =>
    exact ⟨_, rfl, (shape_roleContent _ _).finish (.user base) (replaced_userContent base)
      ((named_of_role (by decide)).trans Option.or_none) _⟩
  | assistant base toolCalls opaqueBody =>
    exact convert_assistant functionCallingType base toolCalls opaqueBody
  | system base =>
    exact ⟨_, rfl, (shape_roleContent _ _).finish (.system base)
      (replaced_contentValue (by simp [Message.messageClass]))
      ((named_of_role (by decide)).trans Option.or_none) _⟩
  | tool base toolCallId =>
    have whole : replaced (.tool base toolCallId) (some (contentValue base.content)) =
        some (wholeContent (.tool base toolCallId)) :=
      replaced_contentValue (by simp [Message.messageClass])
    by_cases toolCall : functionCallingType = "tool_call".toList
    · subst toolCall
      have made : classDict "tool_call".toList (.tool base toolCallId) =
          .ok ((roleContent "tool".toList (contentValue base.content)).set
            "tool_call_id".toList (.str toolCallId)) := rfl
      have shape := ((shape_roleContent "tool".toList (contentValue base.content)).setToolCallId
        toolCallId).finish (.tool base toolCallId) whole (if_pos rfl) (contentOf base.content)
      exact ⟨_, convert_of_classDict made, shape⟩
    · by_cases functionCall : functionCallingType = "function_call".toList
      · subst functionCall
        have made : classDict "function_call".toList (.tool base toolCallId) =
            .ok ((roleContent "function".toList (contentValue base.content)).set
              "name".toList (.str toolCallId)) := rfl
        have named : (if some "function".toList = some "tool".toList then some toolCallId
            else (given base.name).or (some toolCallId)) =
              some ((given base.name).getD toolCallId) := by
          rw [named_of_role (by decide), Option.or_some]
        exact ⟨_, convert_of_classDict made,
          ((shape_roleContent "function".toList (contentValue base.content)).setName
            toolCallId).finish (.tool base toolCallId) whole named (contentOf base.content)⟩
      · have made : classDict functionCallingType (.tool base toolCallId) =
            .ok Dict.empty := by
          simp only [classDict, toolCall, functionCall, if_false]
        have absent : sentContent functionCallingType (.tool base toolCallId) = none := by
          rw [sentContent, if_neg (not_or_intro toolCall functionCall)]
        have means : meaning functionCallingType (.tool base toolCallId) =
            { name := given base.name } := by
          simp only [meaning, toolCall, functionCall, if_false]
        rw [absent, means]
        exact ⟨_, convert_of_classDict made, shape_empty.finish (.tool base toolCallId) rfl
          (by rw [if_neg (by decide)]; exact Option.or_none) none⟩
  | developer base => exact typed.elim
  | promptMessage base => exact typed.elim

/-! ## What a provider reads of a message -/

section Reading

variable {isFinite : ω → Bool}

/-- The parts of a message that are sent. -/
theorem wholeContent_parts {message : Message ω} {parts : List (PromptMessageContent ω)}
    (has : message.base.content = some (.parts parts)) :
    wholeContent message =
      .list (parts.filterMap (subMessage (decide (message.messageClass = .user)))) := by
  simp only [wholeContent, subMessages, has]

/-- The content of a user message is read back, without the parts that the format does not
know. -/
theorem readContent_user (base : PromptMessage ω) :
    (jsonDumps isFinite (wholeContent (.user base))).bind readContent =
      some (userContentOf base.content) := by
  cases has : base.content with
  | none =>
    simp only [wholeContent, Message.base, Message.messageClass, has, if_true]
    rfl
  | some content =>
    cases content with
    | text text =>
      simp only [wholeContent, Message.base, has]
      rfl
    | parts parts =>
      have sent : wholeContent (.user base) = .list (parts.filterMap (subMessage true)) :=
        wholeContent_parts has
      rw [sent]
      exact readParts_subMessage true parts (.inl rfl)

/-- The content of another message is read back when the format knows its parts. -/
theorem readContent_known {message : Message ω} (other : message.messageClass ≠ .user)
    (known : Known message.base.content) :
    (jsonDumps isFinite (wholeContent message)).bind readContent =
      some (contentOf message.base.content) := by
  cases has : message.base.content with
  | none =>
    simp only [wholeContent, has, if_neg other]
    rfl
  | some content =>
    rw [has] at known
    cases content with
    | text text =>
      simp only [wholeContent, has]
      rfl
    | parts parts =>
      rw [wholeContent_parts has, decide_eq_false other]
      exact readParts_subMessage false parts (.inr known)

/-- Other parts cannot be written. -/
theorem jsonDumps_wholeContent_unknown {message : Message ω}
    (other : message.messageClass ≠ .user) (unknown : ¬ Known message.base.content) :
    jsonDumps isFinite (wholeContent message) = none := by
  cases has : message.base.content with
  | none =>
    rw [has] at unknown
    exact (unknown trivial).elim
  | some content =>
    rw [has] at unknown
    cases content with
    | text text => exact (unknown trivial).elim
    | parts parts =>
      rw [wholeContent_parts has, decide_eq_false other]
      exact jsonDumps_unknown unknown

/-- The content of a message that can be sent is read back. -/
theorem readContent_sentContent (isFinite : ω → Bool) {functionCallingType : Text}
    {message : Message ω} (sendable : Sendable functionCallingType message) :
    (sentContent functionCallingType message = none ∧
        (meaning functionCallingType message).content = none) ∨
      ∃ seen, sentContent functionCallingType message = some (wholeContent message) ∧
        (meaning functionCallingType message).content = some seen ∧
        (jsonDumps isFinite (wholeContent message)).bind readContent = some seen := by
  cases message with
  | user base => exact .inr ⟨_, rfl, rfl, readContent_user base⟩
  | assistant base toolCalls opaqueBody =>
    exact .inr ⟨_, rfl, rfl, readContent_known (by simp [Message.messageClass]) sendable⟩
  | system base =>
    exact .inr ⟨_, rfl, rfl, readContent_known (by simp [Message.messageClass]) sendable⟩
  | tool base toolCallId =>
    by_cases sent : functionCallingType = "tool_call".toList ∨
        functionCallingType = "function_call".toList
    · refine .inr ⟨_, if_pos sent, ?_,
        readContent_known (by simp [Message.messageClass]) (sendable sent)⟩
      by_cases toolCall : functionCallingType = "tool_call".toList
      · simp only [meaning, if_pos toolCall, Message.base]
      · simp only [meaning, if_neg toolCall, if_pos (sent.resolve_left toolCall), Message.base]
    · refine .inl ⟨if_neg sent, ?_⟩
      obtain ⟨toolCall, functionCall⟩ := not_or.mp sent
      simp only [meaning, if_neg toolCall, if_neg functionCall]
  | developer base => exact sendable.elim
  | promptMessage base => exact sendable.elim

/-- The content of a message that cannot be sent cannot be written. -/
theorem sentContent_unsendable (isFinite : ω → Bool) {functionCallingType : Text}
    {message : Message ω} (typed : Typed message)
    (unsendable : ¬ Sendable functionCallingType message) :
    ∃ value, sentContent functionCallingType message = some value ∧
      jsonDumps isFinite value = none := by
  cases message with
  | user base => exact (unsendable trivial).elim
  | assistant base toolCalls opaqueBody =>
    exact ⟨_, rfl, jsonDumps_wholeContent_unknown (by simp [Message.messageClass]) unsendable⟩
  | system base =>
    exact ⟨_, rfl, jsonDumps_wholeContent_unknown (by simp [Message.messageClass]) unsendable⟩
  | tool base toolCallId =>
    obtain ⟨sent, unknown⟩ := Classical.not_imp.mp unsendable
    exact ⟨_, if_pos sent, jsonDumps_wholeContent_unknown (by simp [Message.messageClass]) unknown⟩
  | developer base => exact typed.elim
  | promptMessage base => exact typed.elim

/-- A message that can be sent is converted and written, and a provider reads what it means. -/
theorem convert_sendable (isFinite : ω → Bool) {functionCallingType : Text} {message : Message ω}
    (sendable : Sendable functionCallingType message) :
    ∃ messageDict, convertPromptMessageToDict functionCallingType message = .ok messageDict ∧
      (jsonDumps isFinite (.dict messageDict.entries)).bind readMessage =
        some (meaning functionCallingType message) := by
  have typed : Typed message := by
    cases message <;> trivial
  obtain ⟨messageDict, converted, shape⟩ := convert_shape functionCallingType typed
  have content := readContent_sentContent isFinite sendable
  have absent (missing : sentContent functionCallingType message = none) :
      (meaning functionCallingType message).content = none := by
    obtain ⟨-, silent⟩ | ⟨seen, sent, -, -⟩ := content
    · exact silent
    · rw [sent] at missing
      contradiction
  have reads (value : PyValue ω) (has : sentContent functionCallingType message = some value) :
      ∃ seen, (meaning functionCallingType message).content = some seen ∧
        (jsonDumps isFinite value).bind readContent = some seen := by
    obtain ⟨missing, -⟩ | ⟨seen, sent, means, reads⟩ := content
    · rw [missing] at has
      contradiction
    · obtain rfl : wholeContent message = value := Option.some.inj (sent.symm.trans has)
      exact ⟨seen, means, reads⟩
  exact ⟨messageDict, converted, shape.read absent reads⟩

/-- Any other message is not: either its class is unknown, or `json.dumps` raises. -/
theorem convert_unsendable (isFinite : ω → Bool) {functionCallingType : Text}
    {message : Message ω} (unsendable : ¬ Sendable functionCallingType message) :
    convertPromptMessageToDict functionCallingType message = .error .unknownType ∨
      ∃ messageDict, convertPromptMessageToDict functionCallingType message = .ok messageDict ∧
        jsonDumps isFinite (.dict messageDict.entries) = none := by
  by_cases typed : Typed message
  · obtain ⟨messageDict, converted, shape⟩ := convert_shape functionCallingType typed
    obtain ⟨value, sent, unwritable⟩ :=
      sentContent_unsendable isFinite typed unsendable
    refine .inr ⟨messageDict, converted, ?_⟩
    have listed : ("content".toList, value) ∈ messageDict.entries :=
      Dict.get_eq_some.mp ((shape "content".toList).trans sent)
    have fails : jsonDumpsEntries isFinite messageDict.entries = none := by
      by_contra written
      have each := jsonDumpsEntries_isSome.mp (Option.isSome_iff_ne_none.mpr written) _ listed
      simp [unwritable] at each
    rw [jsonDumps, fails]
    rfl
  · refine .inl ?_
    cases message with
    | developer base => rfl
    | promptMessage base => rfl
    | user base => exact (typed trivial).elim
    | assistant base toolCalls opaqueBody => exact (typed trivial).elim
    | system base => exact (typed trivial).elim
    | tool base toolCallId => exact (typed trivial).elim

end Reading

end DifyPlugin.ChatRequest
