import DifyPlugin.Entities.Llm
import DifyPlugin.Library.Json
import DifyPlugin.Library.Validation

/-!
# Prompt messages

The messages of a prompt, their dumps and their validation, field by field in the order in which
the classes declare the fields. A dump in the mode `python` keeps the members of enumerations,
one in the mode `json` has their values. `ensure_prompt_message` picks the class of a message by
its role.
-/

namespace DifyPlugin.Prompt

open Validated

/-- `PromptMessageRole`. -/
inductive PromptMessageRole where
  /-- `SYSTEM`. -/
  | system
  /-- `USER`. -/
  | user
  /-- `ASSISTANT`. -/
  | assistant
  /-- `TOOL`. -/
  | tool
  /-- `DEVELOPER`. -/
  | developer
  deriving DecidableEq

/-- The value of a member. -/
def PromptMessageRole.value : PromptMessageRole → Text
  | .system => "system".toList
  | .user => "user".toList
  | .assistant => "assistant".toList
  | .tool => "tool".toList
  | .developer => "developer".toList

/-- `PromptMessageRole.value_of`. -/
def PromptMessageRole.valueOf (value : Text) : Option PromptMessageRole :=
  [system, user, assistant, tool, developer].find? fun role => role.value = value

/-- `PromptMessageContentType`; its members are strings. -/
inductive PromptMessageContentType where
  /-- `TEXT`. -/
  | text
  /-- `IMAGE`. -/
  | image
  /-- `AUDIO`. -/
  | audio
  /-- `VIDEO`. -/
  | video
  /-- `DOCUMENT`. -/
  | document
  deriving DecidableEq

/-- The value of a member. -/
def PromptMessageContentType.value : PromptMessageContentType → Text
  | .text => "text".toList
  | .image => "image".toList
  | .audio => "audio".toList
  | .video => "video".toList
  | .document => "document".toList

/-- `ImagePromptMessageContent.DETAIL`. -/
inductive Detail where
  /-- `LOW`. -/
  | low
  /-- `HIGH`. -/
  | high
  deriving DecidableEq

/-- The value of a member. -/
def Detail.value : Detail → Text
  | .low => "low".toList
  | .high => "high".toList

/-- The member of a value. -/
def Detail.valueOf (value : Text) : Option Detail :=
  [low, high].find? fun detail => detail.value = value

/-- `TextPromptMessageContent`. -/
structure TextPromptMessageContent (ω : Type) where
  /-- `opaque_body`. -/
  opaqueBody : Json ω := .null
  /-- `data`. -/
  data : Text

/-- `MultiModalPromptMessageContent`. -/
structure MultiModalPromptMessageContent (ω : Type) where
  /-- `opaque_body`. -/
  opaqueBody : Json ω := .null
  /-- `format`. -/
  format : Text
  /-- `base64_data`. -/
  base64Data : Text := []
  /-- `url`. -/
  url : Text := []
  /-- `mime_type`. -/
  mimeType : Text
  /-- `filename`. -/
  filename : Text := []

/-- A part of a content. -/
inductive PromptMessageContent (ω : Type) where
  /-- `TextPromptMessageContent`. -/
  | text (content : TextPromptMessageContent ω)
  /-- `ImagePromptMessageContent`. -/
  | image (content : MultiModalPromptMessageContent ω) (detail : Detail)
  /-- `AudioPromptMessageContent`. -/
  | audio (content : MultiModalPromptMessageContent ω)
  /-- `VideoPromptMessageContent`. -/
  | video (content : MultiModalPromptMessageContent ω)
  /-- `DocumentPromptMessageContent`. -/
  | document (content : MultiModalPromptMessageContent ω)

/-- The content of a message that has one. -/
inductive Content (ω : Type) where
  /-- A `str`. -/
  | text (text : Text)
  /-- A `list`. -/
  | parts (parts : List (PromptMessageContent ω))

/-- `PromptMessage`. -/
structure PromptMessage (ω : Type) where
  /-- `role`. -/
  role : PromptMessageRole
  /-- `content`. -/
  content : Option (Content ω) := none
  /-- `name`. -/
  name : Option Text := none

/-- The classes of messages. -/
inductive MessageClass where
  /-- `PromptMessage`. -/
  | promptMessage
  /-- `UserPromptMessage`. -/
  | user
  /-- `AssistantPromptMessage`. -/
  | assistant
  /-- `SystemPromptMessage`. -/
  | system
  /-- `DeveloperPromptMessage`. -/
  | developer
  /-- `ToolPromptMessage`. -/
  | tool
  deriving DecidableEq

/-- A message of a class. -/
inductive Message (ω : Type) where
  /-- `PromptMessage` itself. -/
  | promptMessage (base : PromptMessage ω)
  /-- `UserPromptMessage`. -/
  | user (base : PromptMessage ω)
  /-- `AssistantPromptMessage`, with its `tool_calls` and its `opaque_body`. -/
  | assistant (base : PromptMessage ω) (toolCalls : List ToolCall) (opaqueBody : Json ω)
  /-- `SystemPromptMessage`. -/
  | system (base : PromptMessage ω)
  /-- `DeveloperPromptMessage`. -/
  | developer (base : PromptMessage ω)
  /-- `ToolPromptMessage`, with its `tool_call_id`. -/
  | tool (base : PromptMessage ω) (toolCallId : Text)

/-- The fields of the base class. -/
def Message.base {ω : Type} : Message ω → PromptMessage ω
  | .promptMessage base => base
  | .user base => base
  | .assistant base _ _ => base
  | .system base => base
  | .developer base => base
  | .tool base _ => base

/-- `type(message)`. -/
def Message.messageClass {ω : Type} : Message ω → MessageClass
  | .promptMessage _ => .promptMessage
  | .user _ => .user
  | .assistant _ _ _ => .assistant
  | .system _ => .system
  | .developer _ => .developer
  | .tool _ _ => .tool

/-- The default of `role` in a class. -/
def MessageClass.role : MessageClass → Option PromptMessageRole
  | .promptMessage => none
  | .user => some .user
  | .assistant => some .assistant
  | .system => some .system
  | .developer => some .developer
  | .tool => some .tool

/-- A Python value, as far as the validators tell values apart. -/
inductive PyValue (ω : Type) where
  /-- `None`. -/
  | none
  /-- A `bool`. -/
  | bool (value : Bool)
  /-- An `int`. -/
  | int (value : Int)
  /-- A `float`. -/
  | float (value : ω)
  /-- A `str`. -/
  | str (value : Text)
  /-- A member of `PromptMessageRole`. -/
  | role (role : PromptMessageRole)
  /-- A member of `PromptMessageContentType`. -/
  | contentType (type : PromptMessageContentType)
  /-- A member of `ImagePromptMessageContent.DETAIL`. -/
  | detail (detail : Detail)
  /-- An instance of a part. -/
  | part (part : PromptMessageContent ω)
  /-- A `list`. -/
  | list (items : List (PyValue ω))
  /-- A `dict`, by its items. -/
  | dict (items : List (Text × PyValue ω))

/-- The mode of a dump. -/
inductive DumpMode where
  /-- `mode="python"`, the default. -/
  | python
  /-- `mode="json"`. -/
  | json
  deriving DecidableEq

variable {ω : Type}

/-! ## Dumps -/

/-- The dump of a member of an enumeration. -/
def dumpMember (mode : DumpMode) (member : PyValue ω) (value : Text) : PyValue ω :=
  match mode with
  | .python => member
  | .json => .str value

mutual

/-- The dump of a JSON value. -/
def dumpJson : Json ω → PyValue ω
  | .null => .none
  | .bool value => .bool value
  | .int value => .int value
  | .float value => .float value
  | .str value => .str value
  | .list items => .list (dumpJsonItems items)
  | .dict items => .dict (dumpJsonEntries items)

/-- The dumps of the items of a list. -/
def dumpJsonItems : List (Json ω) → List (PyValue ω)
  | [] => []
  | item :: rest => dumpJson item :: dumpJsonItems rest

/-- The dumps of the entries of an object. -/
def dumpJsonEntries : List (Text × Json ω) → List (Text × PyValue ω)
  | [] => []
  | (key, value) :: rest => (key, dumpJson value) :: dumpJsonEntries rest

end

/-- The dump of a string or `None`. -/
def dumpOptional : Option Text → PyValue ω
  | none => .none
  | some text => .str text

/-- The dump of the fields of `TextPromptMessageContent`. -/
def TextPromptMessageContent.fields (mode : DumpMode) (content : TextPromptMessageContent ω) :
    List (Text × PyValue ω) := [
  ("opaque_body".toList, dumpJson content.opaqueBody),
  ("type".toList, dumpMember mode (.contentType .text) PromptMessageContentType.text.value),
  ("data".toList, .str content.data)]

/-- The dump of the fields of `MultiModalPromptMessageContent`, and of the field `type`. -/
def MultiModalPromptMessageContent.fields (mode : DumpMode) (type : PromptMessageContentType)
    (content : MultiModalPromptMessageContent ω) : List (Text × PyValue ω) := [
  ("opaque_body".toList, dumpJson content.opaqueBody),
  ("format".toList, .str content.format),
  ("base64_data".toList, .str content.base64Data),
  ("url".toList, .str content.url),
  ("mime_type".toList, .str content.mimeType),
  ("filename".toList, .str content.filename),
  ("type".toList, dumpMember mode (.contentType type) type.value)]

/-- The `model_dump` of a part. -/
def PromptMessageContent.modelDump (mode : DumpMode) : PromptMessageContent ω → PyValue ω
  | .text content => .dict (content.fields mode)
  | .image content detail =>
    .dict (content.fields mode .image ++
      [("detail".toList, dumpMember mode (.detail detail) detail.value)])
  | .audio content => .dict (content.fields mode .audio)
  | .video content => .dict (content.fields mode .video)
  | .document content => .dict (content.fields mode .document)

/-- The dump of the field `content`. -/
def dumpContent (mode : DumpMode) : Option (Content ω) → PyValue ω
  | none => .none
  | some (.text text) => .str text
  | some (.parts parts) => .list (parts.map (PromptMessageContent.modelDump mode))

/-- `ToolCallFunction.model_dump`. -/
def dumpFunction (function : ToolCallFunction) : PyValue ω :=
  .dict [("name".toList, .str function.name), ("arguments".toList, .str function.arguments)]

/-- `ToolCall.model_dump`. -/
def dumpToolCall (call : ToolCall) : PyValue ω :=
  .dict [
    ("id".toList, .str call.id),
    ("type".toList, .str call.type),
    ("function".toList, dumpFunction call.function)]

/-- The dump of the fields of `PromptMessage`. -/
def PromptMessage.fields (mode : DumpMode) (message : PromptMessage ω) :
    List (Text × PyValue ω) := [
  ("role".toList, dumpMember mode (.role message.role) message.role.value),
  ("content".toList, dumpContent mode message.content),
  ("name".toList, dumpOptional message.name)]

/-- The dump of the fields that the class adds. -/
def Message.ownFields : Message ω → List (Text × PyValue ω)
  | .assistant _ toolCalls opaqueBody => [
      ("tool_calls".toList, .list (toolCalls.map dumpToolCall)),
      ("opaque_body".toList, dumpJson opaqueBody)]
  | .tool _ toolCallId => [("tool_call_id".toList, .str toolCallId)]
  | _ => []

/-- `message.model_dump(mode=mode)`. -/
def Message.modelDump (mode : DumpMode) (message : Message ω) : PyValue ω :=
  .dict (message.base.fields mode ++ message.ownFields)

/-! ## Validation -/

/-- A problem of a field. -/
inductive Problem where
  /-- The field is required. -/
  | missing
  /-- Not a string. -/
  | string
  /-- Not a member or a value of the enumeration. -/
  | enumeration
  /-- Not the literal. -/
  | literal
  /-- Not a list. -/
  | list
  /-- Neither an instance nor a dictionary. -/
  | model
  /-- Of no type of the union. -/
  | union
  /-- Not a JSON value. -/
  | json
  /-- A `ValueError` of a validator. -/
  | value (message : Text)
  deriving DecidableEq

/-- How values are converted to strings. -/
structure Conversions (ω : Type) where
  /-- `str(value)`. -/
  str : PyValue ω → Text
  /-- The string that a field of type `str` takes for a value that is none. -/
  lax : PyValue ω → Option Text

/-- A field of type `str`. -/
def validateStr (conversions : Conversions ω) : PyValue ω → Validated Problem Text
  | .str text => .valid text
  | .contentType type => .valid type.value
  | value =>
    match conversions.lax value with
    | some text => .valid text
    | none => problem .string

/-- A field of type `str | None`. -/
def validateOptional (conversions : Conversions ω) : PyValue ω → Validated Problem (Option Text)
  | .none => .valid none
  | value => (validateStr conversions value).map some

mutual

/-- A field of type `JsonValue | None`. -/
def validateJson : PyValue ω → Validated Problem (Json ω)
  | .none => .valid .null
  | .bool value => .valid (.bool value)
  | .int value => .valid (.int value)
  | .float value => .valid (.float value)
  | .str value => .valid (.str value)
  | .contentType type => .valid (.str type.value)
  | .list items => (validateJsonItems 0 items).map Json.list
  | .dict items => (validateJsonEntries items).map Json.dict
  | .role _ => problem .json
  | .detail _ => problem .json
  | .part _ => problem .json

/-- The items of a list. -/
def validateJsonItems : Nat → List (PyValue ω) → Validated Problem (List (Json ω))
  | _, [] => .valid []
  | index, item :: rest =>
    ((within (.index index) (validateJson item)).map List.cons).beside
      (validateJsonItems (index + 1) rest)

/-- The entries of an object. -/
def validateJsonEntries : List (Text × PyValue ω) → Validated Problem (List (Text × Json ω))
  | [] => .valid []
  | (key, value) :: rest =>
    ((within (.key key) (validateJson value)).map fun value => List.cons (key, value)).beside
      (validateJsonEntries rest)

end

/-- A field of type `PromptMessageRole`. -/
def validateRole : PyValue ω → Validated Problem PromptMessageRole
  | .role role => .valid role
  | .str text =>
    match PromptMessageRole.valueOf text with
    | some role => .valid role
    | none => problem .enumeration
  | _ => problem .enumeration

/-- A field of type `ImagePromptMessageContent.DETAIL`. -/
def validateDetail : PyValue ω → Validated Problem Detail
  | .detail detail => .valid detail
  | .str text =>
    match Detail.valueOf text with
    | some detail => .valid detail
    | none => problem .enumeration
  | _ => problem .enumeration

/-- `value == type`, of a member of `PromptMessageContentType`. -/
def PyValue.equals (value : PyValue ω) (type : PromptMessageContentType) : Bool :=
  match value with
  | .str text => text = type.value
  | .contentType other => other = type
  | _ => false

/-- A field of type `Literal[type]`. -/
def validateLiteral (type : PromptMessageContentType) (value : PyValue ω) :
    Validated Problem Unit :=
  if value.equals type then .valid () else problem .literal

/-- A field with a default, of a dictionary. -/
def optionalField {α : Type} (key : String) (default : α)
    (validate : PyValue ω → Validated Problem α) (fields : List (Text × PyValue ω)) :
    Validated Problem α :=
  field .missing validate key.toList (some default) fields

/-- A required field, of a dictionary. -/
def requiredField {α : Type} (key : String) (validate : PyValue ω → Validated Problem α)
    (fields : List (Text × PyValue ω)) : Validated Problem α :=
  field .missing validate key.toList none fields

variable (conversions : Conversions ω)

/-- `TextPromptMessageContent.model_validate`, of a dictionary. -/
def TextPromptMessageContent.modelValidate (fields : List (Text × PyValue ω)) :
    Validated Problem (TextPromptMessageContent ω) :=
  valid (fun opaqueBody _ data => { opaqueBody, data })
    |>.beside (optionalField "opaque_body" .null validateJson fields)
    |>.beside (optionalField "type" () (validateLiteral .text) fields)
    |>.beside (requiredField "data" (validateStr conversions) fields)

/-- The validation of the fields of `MultiModalPromptMessageContent`, and of the field `type`. -/
def MultiModalPromptMessageContent.modelValidate (type : PromptMessageContentType)
    (fields : List (Text × PyValue ω)) : Validated Problem (MultiModalPromptMessageContent ω) :=
  valid (fun opaqueBody format base64Data url mimeType filename _ =>
      { opaqueBody, format, base64Data, url, mimeType, filename })
    |>.beside (optionalField "opaque_body" .null validateJson fields)
    |>.beside (requiredField "format" (validateStr conversions) fields)
    |>.beside (optionalField "base64_data" [] (validateStr conversions) fields)
    |>.beside (optionalField "url" [] (validateStr conversions) fields)
    |>.beside (requiredField "mime_type" (validateStr conversions) fields)
    |>.beside (optionalField "filename" [] (validateStr conversions) fields)
    |>.beside (optionalField "type" () (validateLiteral type) fields)

/-- `ImagePromptMessageContent.model_validate`, of a dictionary. -/
def validateImage (fields : List (Text × PyValue ω)) :
    Validated Problem (PromptMessageContent ω) :=
  (MultiModalPromptMessageContent.modelValidate conversions .image fields).map
      PromptMessageContent.image
    |>.beside (optionalField "detail" .low validateDetail fields)

/-- `model_validate` of the class of a type of parts, of a dictionary. -/
def validatePart (type : PromptMessageContentType) (fields : List (Text × PyValue ω)) :
    Validated Problem (PromptMessageContent ω) :=
  match type with
  | .text => (TextPromptMessageContent.modelValidate conversions fields).map .text
  | .image => validateImage conversions fields
  | .audio => (MultiModalPromptMessageContent.modelValidate conversions .audio fields).map .audio
  | .video => (MultiModalPromptMessageContent.modelValidate conversions .video fields).map .video
  | .document =>
    (MultiModalPromptMessageContent.modelValidate conversions .document fields).map .document

/-- The type of a dictionary that is equal to its value of `type`. -/
def partType (fields : List (Text × PyValue ω)) : Option PromptMessageContentType :=
  let type := (fields.lookup "type".toList).getD .none
  [.text, .image, .audio, .video, .document].find? type.equals

/-- A round of the loop of `transform_content`. -/
def transformPart : PyValue ω → Validated Problem (PromptMessageContent ω)
  | .part part => .valid part
  | .dict fields =>
    match partType fields with
    | some type => validatePart conversions type fields
    | none => problem (.value "invalid prompt message content type".toList)
  | _ => .raised "invalid prompt message content".toList

/-- The loop of `transform_content`; it ends at the first failure. -/
def transformParts : List (PyValue ω) → Validated Problem (List (PromptMessageContent ω))
  | [] => .valid []
  | content :: rest =>
    (transformPart conversions content).andThen fun part =>
      (transformParts rest).map (List.cons part)

/-- `PromptMessage.transform_content`. -/
def transformContent : PyValue ω → Validated Problem (PyValue ω)
  | .list items => (transformParts conversions items).map fun parts => .list (parts.map .part)
  | value => .valid value

/-- An item of the union that is told apart by `type`. -/
def validateUnion : PyValue ω → Validated Problem (PromptMessageContent ω)
  | .part part => .valid part
  | .dict fields =>
    match partType fields with
    | some type => validatePart conversions type fields
    | none => problem .union
  | _ => problem .model

/-- A field of type `str | list[PromptMessageContentUnionTypes] | None`. -/
def validateContent : PyValue ω → Validated Problem (Option (Content ω))
  | .none => .valid none
  | .str text => .valid (some (.text text))
  | .contentType type => .valid (some (.text type.value))
  | .list values =>
    (items (validateUnion conversions) 0 values).map fun parts => some (.parts parts)
  | value =>
    match conversions.lax value with
    | some text => .valid (some (.text text))
    | none => problem .union

/-- `_ensure_field_empty_str`. -/
def ensureFieldEmptyStr : PyValue ω → PyValue ω
  | .none => .str []
  | value => value

/-- `ToolCall.transform_id_to_str`. -/
def transformIdToStr : PyValue ω → PyValue ω
  | .none => .str []
  | .str text => .str text
  | .contentType type => .contentType type
  | value => .str (conversions.str value)

/-- A field of type `ToolCallFunction`. -/
def validateFunction : PyValue ω → Validated Problem ToolCallFunction
  | .dict fields =>
    let validate := fun value => validateStr conversions (ensureFieldEmptyStr value)
    valid ToolCallFunction.mk
      |>.beside (requiredField "name" validate fields)
      |>.beside (requiredField "arguments" validate fields)
  | _ => problem .model

/-- An item of type `ToolCall`. -/
def validateToolCall : PyValue ω → Validated Problem ToolCall
  | .dict fields =>
    valid ToolCall.mk
      |>.beside (requiredField "id"
        (fun value => validateStr conversions (transformIdToStr conversions value)) fields)
      |>.beside (requiredField "type"
        (fun value => validateStr conversions (ensureFieldEmptyStr value)) fields)
      |>.beside (requiredField "function" (validateFunction conversions) fields)
  | _ => problem .model

/-- A field of type `list[ToolCall]`. -/
def validateToolCalls : PyValue ω → Validated Problem (List ToolCall)
  | .list calls => items (validateToolCall conversions) 0 calls
  | _ => problem .list

/-- The fields of `PromptMessage`; a class of a role has a default for it. -/
def PromptMessage.modelValidate (role : Option PromptMessageRole)
    (fields : List (Text × PyValue ω)) : Validated Problem (PromptMessage ω) :=
  valid PromptMessage.mk
    |>.beside (field .missing validateRole "role".toList role fields)
    |>.beside (optionalField "content" none
      (fun value => (transformContent conversions value).andThen (validateContent conversions))
      fields)
    |>.beside (optionalField "name" none (validateOptional conversions) fields)

/-- The call of a class with the fields as keywords. -/
def MessageClass.call (cls : MessageClass) (fields : List (Text × PyValue ω)) :
    Validated Problem (Message ω) :=
  let base := PromptMessage.modelValidate conversions cls.role fields
  match cls with
  | .promptMessage => base.map Message.promptMessage
  | .user => base.map Message.user
  | .assistant =>
    base.map Message.assistant
      |>.beside (optionalField "tool_calls" [] (validateToolCalls conversions) fields)
      |>.beside (optionalField "opaque_body" .null validateJson fields)
  | .system => base.map Message.system
  | .developer => base.map Message.developer
  | .tool =>
    base.map Message.tool
      |>.beside (requiredField "tool_call_id" (validateStr conversions) fields)

/-! ## The message of a value -/

/-- `PROMPT_MESSAGE_TYPES_BY_ROLE`. -/
def promptMessageTypesByRole : List (Text × MessageClass) := [
  (PromptMessageRole.user.value, .user),
  (PromptMessageRole.assistant.value, .assistant),
  (PromptMessageRole.system.value, .system),
  (PromptMessageRole.developer.value, .developer),
  (PromptMessageRole.tool.value, .tool)]

/-- `PROMPT_MESSAGE_TYPES_BY_ROLE.get(role, PromptMessage)`, after a member is replaced by its
value; what has no hash cannot be looked up. -/
def messageClass (role : PyValue ω) : Validated Problem MessageClass :=
  let listed := fun key => (promptMessageTypesByRole.lookup key).getD .promptMessage
  match role with
  | .role role => .valid (listed role.value)
  | .str text => .valid (listed text)
  | .contentType type => .valid (listed type.value)
  | .list _ => .raised "unhashable type: 'list'".toList
  | .dict _ => .raised "unhashable type: 'dict'".toList
  | .part _ => .raised "unhashable type".toList
  | _ => .valid .promptMessage

/-- The argument of `ensure_prompt_message`. -/
inductive PromptArgument (ω : Type) where
  /-- An instance of a class of messages. -/
  | message (message : Message ω)
  /-- Any other value. -/
  | value (value : PyValue ω)

/-- `ensure_prompt_message`. -/
def ensurePromptMessage : PromptArgument ω → Validated Problem (Message ω)
  | .message message => .valid message
  | .value (.dict fields) =>
    (messageClass ((fields.lookup "role".toList).getD .none)).andThen fun cls =>
      cls.call conversions fields
  | .value _ => .raised "prompt message must be a PromptMessage or a Mapping".toList

/-! ## Fields survive their dumps -/

mutual

/-- A dumped JSON value is validated to itself. -/
theorem validateJson_dumpJson : ∀ value : Json ω, validateJson (dumpJson value) = .valid value
  | .null => rfl
  | .bool _ => rfl
  | .int _ => rfl
  | .float _ => rfl
  | .str _ => rfl
  | .list items => by
    rw [dumpJson, validateJson, validateJsonItems_dumpJsonItems 0 items, map_valid]
  | .dict items => by
    rw [dumpJson, validateJson, validateJsonEntries_dumpJsonEntries items, map_valid]

/-- The items of a dumped list are validated to themselves. -/
theorem validateJsonItems_dumpJsonItems :
    ∀ (index : Nat) (items : List (Json ω)),
      validateJsonItems index (dumpJsonItems items) = .valid items
  | _, [] => rfl
  | index, item :: rest => by
    rw [dumpJsonItems, validateJsonItems, validateJson_dumpJson item,
      validateJsonItems_dumpJsonItems (index + 1) rest, within_valid, map_valid, beside_valid]

/-- The entries of a dumped object are validated to themselves. -/
theorem validateJsonEntries_dumpJsonEntries :
    ∀ entries : List (Text × Json ω),
      validateJsonEntries (dumpJsonEntries entries) = .valid entries
  | [] => rfl
  | (key, value) :: rest => by
    rw [dumpJsonEntries, validateJsonEntries, validateJson_dumpJson value,
      validateJsonEntries_dumpJsonEntries rest, within_valid, map_valid, beside_valid]

end

/-- A dumped role is validated to itself. -/
theorem validateRole_dumpMember (mode : DumpMode) (role : PromptMessageRole) :
    validateRole (dumpMember mode (.role role) role.value : PyValue ω) = .valid role := by
  cases mode with
  | python => rfl
  | json => cases role <;> rfl

/-- A dumped detail is validated to itself. -/
theorem validateDetail_dumpMember (mode : DumpMode) (detail : Detail) :
    validateDetail (dumpMember mode (.detail detail) detail.value : PyValue ω) =
      .valid detail := by
  cases mode with
  | python => rfl
  | json => cases detail <;> rfl

/-- A dumped type of parts equals that type only. -/
theorem equals_dumpMember (mode : DumpMode) (type other : PromptMessageContentType) :
    (dumpMember mode (.contentType type) type.value : PyValue ω).equals other =
      decide (type = other) := by
  cases mode with
  | python => rfl
  | json => cases type <;> cases other <;> rfl

/-- A dumped type of parts is accepted as the literal. -/
theorem validateLiteral_dumpMember (mode : DumpMode) (type : PromptMessageContentType) :
    validateLiteral type (dumpMember mode (.contentType type) type.value : PyValue ω) =
      .valid () := by
  rw [validateLiteral, equals_dumpMember, decide_eq_true rfl, if_pos rfl]

/-- The class of a part is found by its dumped type. -/
theorem partType_of_lookup {mode : DumpMode} {type : PromptMessageContentType}
    {fields : List (Text × PyValue ω)}
    (listed : fields.lookup "type".toList =
      some (dumpMember mode (.contentType type) type.value)) :
    partType fields = some type := by
  rw [partType, listed]
  simp only [Option.getD_some]
  cases type <;> simp [equals_dumpMember]

/-- The dumped fields of a text are validated to the text. -/
theorem TextPromptMessageContent.modelValidate_fields (mode : DumpMode)
    (content : TextPromptMessageContent ω) :
    TextPromptMessageContent.modelValidate conversions (content.fields mode) =
      .valid content := by
  have opaqueBody : optionalField "opaque_body" .null validateJson (content.fields mode) =
      .valid content.opaqueBody := by
    apply field_valid rfl
    exact validateJson_dumpJson content.opaqueBody
  have type : optionalField "type" () (validateLiteral .text) (content.fields mode) =
      .valid () := by
    apply field_valid rfl
    exact validateLiteral_dumpMember mode .text
  have data : requiredField "data" (validateStr conversions) (content.fields mode) =
      .valid content.data := field_valid rfl rfl
  rw [TextPromptMessageContent.modelValidate, opaqueBody, type, data]
  rfl

/-- The dumped fields of a file are validated to the file, whatever fields follow. -/
theorem MultiModalPromptMessageContent.modelValidate_fields (mode : DumpMode)
    (type : PromptMessageContentType) (content : MultiModalPromptMessageContent ω)
    (own : List (Text × PyValue ω)) :
    MultiModalPromptMessageContent.modelValidate conversions type
      (content.fields mode type ++ own) = .valid content := by
  have opaqueBody : optionalField "opaque_body" .null validateJson
      (content.fields mode type ++ own) = .valid content.opaqueBody := by
    apply field_valid rfl
    exact validateJson_dumpJson content.opaqueBody
  have format : requiredField "format" (validateStr conversions)
      (content.fields mode type ++ own) = .valid content.format := field_valid rfl rfl
  have base64Data : optionalField "base64_data" [] (validateStr conversions)
      (content.fields mode type ++ own) = .valid content.base64Data := field_valid rfl rfl
  have url : optionalField "url" [] (validateStr conversions)
      (content.fields mode type ++ own) = .valid content.url := field_valid rfl rfl
  have mimeType : requiredField "mime_type" (validateStr conversions)
      (content.fields mode type ++ own) = .valid content.mimeType := field_valid rfl rfl
  have filename : optionalField "filename" [] (validateStr conversions)
      (content.fields mode type ++ own) = .valid content.filename := field_valid rfl rfl
  have literal : optionalField "type" () (validateLiteral type)
      (content.fields mode type ++ own) = .valid () := by
    apply field_valid rfl
    exact validateLiteral_dumpMember mode type
  rw [MultiModalPromptMessageContent.modelValidate, opaqueBody, format, base64Data, url, mimeType,
    filename, literal]
  rfl

/-- The dumped fields of an image are validated to the image. -/
theorem validateImage_fields (mode : DumpMode) (content : MultiModalPromptMessageContent ω)
    (detail : Detail) :
    validateImage conversions (content.fields mode .image ++
      [("detail".toList, dumpMember mode (.detail detail) detail.value)]) =
      .valid (.image content detail) := by
  have own : optionalField "detail" .low validateDetail (content.fields mode .image ++
      [("detail".toList, dumpMember mode (.detail detail) detail.value)]) = .valid detail := by
    apply field_valid rfl
    exact validateDetail_dumpMember mode detail
  rw [validateImage, MultiModalPromptMessageContent.modelValidate_fields, own]
  rfl

/-- A dumped part is validated by its class, found by its type. -/
theorem transformPart_modelDump (mode : DumpMode) (part : PromptMessageContent ω) :
    transformPart conversions (part.modelDump mode) = .valid part := by
  have file (type : PromptMessageContentType) (content : MultiModalPromptMessageContent ω) :
      MultiModalPromptMessageContent.modelValidate conversions type (content.fields mode type) =
        .valid content := by
    have alone := MultiModalPromptMessageContent.modelValidate_fields conversions mode type
      content []
    rwa [List.append_nil] at alone
  cases part with
  | text content =>
    have type : partType (content.fields mode) = some .text := partType_of_lookup rfl
    have fields := TextPromptMessageContent.modelValidate_fields conversions mode content
    simp only [PromptMessageContent.modelDump, transformPart, type, validatePart, fields,
      map_valid]
  | image content detail =>
    have type : partType (content.fields mode .image ++
        [("detail".toList, dumpMember mode (.detail detail) detail.value)]) = some .image :=
      partType_of_lookup rfl
    have fields := validateImage_fields conversions mode content detail
    simp only [PromptMessageContent.modelDump, transformPart, type, validatePart, fields]
  | audio content =>
    have type : partType (content.fields mode .audio) = some .audio := partType_of_lookup rfl
    simp only [PromptMessageContent.modelDump, transformPart, type, validatePart, file, map_valid]
  | video content =>
    have type : partType (content.fields mode .video) = some .video := partType_of_lookup rfl
    simp only [PromptMessageContent.modelDump, transformPart, type, validatePart, file, map_valid]
  | document content =>
    have type : partType (content.fields mode .document) = some .document :=
      partType_of_lookup rfl
    simp only [PromptMessageContent.modelDump, transformPart, type, validatePart, file, map_valid]

/-- Dumped parts are transformed to the parts. -/
theorem transformParts_modelDump (mode : DumpMode) (parts : List (PromptMessageContent ω)) :
    transformParts conversions (parts.map (PromptMessageContent.modelDump mode)) =
      .valid parts := by
  induction parts with
  | nil => rfl
  | cons part rest ih =>
    rw [List.map_cons, transformParts, transformPart_modelDump, andThen_valid, ih, map_valid]

/-- A dumped content is transformed and validated to the content. -/
theorem validateContent_dumpContent (mode : DumpMode) (content : Option (Content ω)) :
    (transformContent conversions (dumpContent mode content)).andThen
      (validateContent conversions) = .valid content := by
  cases content with
  | none => rfl
  | some content =>
    cases content with
    | text text => rfl
    | parts parts =>
      have instances : items (validateUnion conversions) 0 (parts.map PyValue.part) =
          .valid parts := by
        apply items_map
        intro part _
        rfl
      rw [dumpContent, transformContent, transformParts_modelDump, map_valid, andThen_valid,
        validateContent, instances, map_valid]

/-- A dumped function is validated to itself: its strings are normalised already. -/
theorem validateFunction_dumpFunction (function : ToolCallFunction) :
    validateFunction conversions (dumpFunction function) = .valid function := rfl

/-- A dumped tool call is validated to itself. -/
theorem validateToolCall_dumpToolCall (call : ToolCall) :
    validateToolCall conversions (dumpToolCall call) = .valid call := by
  let fields : List (Text × PyValue ω) := [
    ("id".toList, .str call.id),
    ("type".toList, .str call.type),
    ("function".toList, dumpFunction call.function)]
  have id : requiredField "id" (fun value =>
      validateStr conversions (transformIdToStr conversions value)) fields = .valid call.id :=
    field_valid rfl rfl
  have type : requiredField "type" (fun value =>
      validateStr conversions (ensureFieldEmptyStr value)) fields = .valid call.type :=
    field_valid rfl rfl
  have function : requiredField "function" (validateFunction conversions) fields =
      .valid call.function := by
    apply field_valid rfl
    exact validateFunction_dumpFunction conversions call.function
  rw [dumpToolCall, validateToolCall, id, type, function]
  rfl

/-- Dumped tool calls are validated to themselves. -/
theorem validateToolCalls_dumpToolCall (calls : List ToolCall) :
    validateToolCalls conversions (.list (calls.map dumpToolCall)) = .valid calls := by
  rw [validateToolCalls]
  apply items_map
  intro call _
  exact validateToolCall_dumpToolCall conversions call

/-- A dumped name is validated to itself. -/
theorem validateOptional_dumpOptional (name : Option Text) :
    validateOptional conversions (dumpOptional name) = .valid name := by
  cases name with
  | none => rfl
  | some name => rfl

/-! ## Messages survive their dumps -/

/-- The dumped fields of the base class are validated to themselves, whatever fields follow and
whatever role is the default. -/
theorem PromptMessage.modelValidate_fields (mode : DumpMode) (role : Option PromptMessageRole)
    (message : PromptMessage ω) (own : List (Text × PyValue ω)) :
    PromptMessage.modelValidate conversions role (message.fields mode ++ own) =
      .valid message := by
  have known : field .missing validateRole "role".toList role (message.fields mode ++ own) =
      .valid message.role := by
    apply field_valid rfl
    exact validateRole_dumpMember mode message.role
  have content : optionalField "content" none
      (fun value => (transformContent conversions value).andThen (validateContent conversions))
      (message.fields mode ++ own) = .valid message.content := by
    apply field_valid rfl
    exact validateContent_dumpContent conversions mode message.content
  have name : optionalField "name" none (validateOptional conversions)
      (message.fields mode ++ own) = .valid message.name := by
    apply field_valid rfl
    exact validateOptional_dumpOptional conversions message.name
  rw [PromptMessage.modelValidate, known, content, name]
  rfl

/-- The dumped fields of a message are validated by its class to the message. -/
theorem MessageClass.call_fields (mode : DumpMode) (message : Message ω) :
    message.messageClass.call conversions (message.base.fields mode ++ message.ownFields) =
      .valid message := by
  have base := PromptMessage.modelValidate_fields conversions mode message.messageClass.role
    message.base message.ownFields
  cases message with
  | promptMessage fields => exact congrArg (Validated.map Message.promptMessage) base
  | user fields => exact congrArg (Validated.map Message.user) base
  | assistant fields calls opaque_body =>
    have toolCalls : optionalField "tool_calls" [] (validateToolCalls conversions)
        (fields.fields mode ++ (Message.assistant fields calls opaque_body).ownFields) =
        .valid calls := by
      apply field_valid rfl
      exact validateToolCalls_dumpToolCall conversions calls
    have opaqueBody : optionalField "opaque_body" .null validateJson
        (fields.fields mode ++ (Message.assistant fields calls opaque_body).ownFields) =
        .valid opaque_body := by
      apply field_valid rfl
      exact validateJson_dumpJson opaque_body
    simp only [Message.messageClass, Message.base, MessageClass.call] at base ⊢
    rw [base, toolCalls, opaqueBody]
    rfl
  | system fields => exact congrArg (Validated.map Message.system) base
  | developer fields => exact congrArg (Validated.map Message.developer) base
  | tool fields callId =>
    have toolCallId : requiredField "tool_call_id" (validateStr conversions)
        (fields.fields mode ++ (Message.tool fields callId).ownFields) = .valid callId :=
      field_valid rfl rfl
    simp only [Message.messageClass, Message.base, MessageClass.call] at base ⊢
    rw [base, toolCallId]
    rfl

/-- The class of a role is found by the dumped role. -/
theorem messageClass_dumpMember (mode : DumpMode) {cls : MessageClass} {role : PromptMessageRole}
    (own : cls.role = some role) :
    messageClass (dumpMember mode (.role role) role.value : PyValue ω) = .valid cls := by
  cases cls <;> cases own <;> cases mode <;> rfl

/-- A message whose role is the one of its class. -/
def Message.OfItsRole (message : Message ω) : Prop :=
  message.messageClass.role = some message.base.role

/-- A message of the five roles is the one that its dump is turned into, in both modes. -/
theorem ensurePromptMessage_modelDump (mode : DumpMode) (message : Message ω)
    (own : message.OfItsRole) :
    ensurePromptMessage conversions (.value (message.modelDump mode)) = .valid message := by
  have found : messageClass (dumpMember mode (.role message.base.role)
      message.base.role.value : PyValue ω) = .valid message.messageClass :=
    messageClass_dumpMember mode own
  have called := MessageClass.call_fields conversions mode message
  have listed : (message.base.fields mode ++ message.ownFields).lookup "role".toList =
      some (dumpMember mode (.role message.base.role) message.base.role.value) := rfl
  simp only [Message.modelDump, ensurePromptMessage, listed, Option.getD_some, found,
    andThen_valid, called]

/-- An assistant with a call, an image and a text, and its dump in the mode `json`. -/
theorem ensurePromptMessage_modelDump_assistant :
    let conversions : Conversions Empty := ⟨fun _ => [], fun _ => none⟩
    let image : PromptMessageContent Empty :=
      .image { format := "png".toList, mimeType := "image/png".toList } .high
    let text : PromptMessageContent Empty := .text { data := "seen".toList }
    let message : Message Empty := .assistant
      { role := .assistant, content := some (.parts [image, text]), name := some "bot".toList }
      [⟨"1".toList, "function".toList, ⟨"look".toList, "\x7b\x7d".toList⟩⟩]
      (.dict [("id".toList, .int 7), ("tags".toList, .list [.null, .bool true])])
    ensurePromptMessage conversions (.value (message.modelDump .json)) = .valid message := by
  intro conversions image text message
  exact ensurePromptMessage_modelDump conversions .json message rfl

end DifyPlugin.Prompt
