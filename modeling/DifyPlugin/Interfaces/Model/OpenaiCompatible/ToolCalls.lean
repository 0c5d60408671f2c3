import DifyPlugin.Entities.Llm
import Mathlib.Data.List.Basic
import Mathlib.Logic.Function.Basic

/-!
# Streamed tool calls

A provider streams a tool call in fragments that name it by its index. The handler keeps a map
from indices to identifiers and a list of calls that it looks up by identifier; identifiers are
generated when the provider sends none, and replaced when it sends one later.
-/

namespace DifyPlugin.OpenaiCompatible

/-- `function` of a streamed fragment; an absent value reads as null. -/
structure FunctionDelta where
  /-- The name of the tool. -/
  name : Option Text
  /-- The next part of the arguments. -/
  arguments : Option Text
  deriving DecidableEq

/-- One element of `tool_calls` in a delta; an absent value reads as null. -/
structure ToolCallDelta where
  /-- The number of the call in the response. -/
  index : Option Int
  /-- The identifier of the call. -/
  id : Option Text
  /-- The kind of call. -/
  type : Option Text
  /-- The function, when the fragment has a non-empty one. -/
  function : Option FunctionDelta
  deriving DecidableEq

/-- A string value that Python reads as true. -/
def truthy : Option Text → Option Text
  | none => none
  | some text => if text = [] then none else some text

/-- `_ensure_field_empty_str`, and the same default of a missing key. -/
def ensureFieldEmptyStr (value : Option Text) : Text := value.getD []

/-- A value that Python reads as true is not empty. -/
theorem truthy_some {value : Option Text} {text : Text} (found : truthy value = some text) :
    text ≠ [] := by
  cases value with
  | none => simp [truthy] at found
  | some inner =>
    simp only [truthy] at found
    split at found
    · simp at found
    · rename_i visible
      exact Option.some.inj found ▸ visible

/-- Python reads a text as true unless it is empty. -/
theorem truthy_visible {text : Text} (visible : text ≠ []) : truthy (some text) = some text :=
  if_neg visible

/-- An absent or empty value is the empty text. -/
theorem ensureFieldEmptyStr_eq (value : Option Text) :
    ensureFieldEmptyStr value = (truthy value).getD [] := by
  cases value with
  | none => rfl
  | some text => by_cases empty : text = [] <;> simp [ensureFieldEmptyStr, truthy, empty]

/-- The handler's `tools_calls`, `tool_call_ids` and the number of generated identifiers. -/
structure ToolState where
  /-- The calls assembled so far. -/
  toolsCalls : List ToolCall
  /-- The identifier of each index. -/
  toolCallIds : Int → Option Text
  /-- How often `_gen_tool_call_id` was called. -/
  generated : Nat

/-- The state before the first delta. -/
def ToolState.initial : ToolState := ⟨[], fun _ => none, 0⟩

/-- `existing_tool_call.id = tool_call_id` for the first call whose id is `previous_id`. -/
def renameCall (previousId : Option Text) (toolCallId : Text) (toolsCalls : List ToolCall) :
    List ToolCall :=
  match toolsCalls.findIdx? fun call => some call.id = previousId with
  | some position => toolsCalls.modify position fun call => { call with id := toolCallId }
  | none => toolsCalls

/-- `_gen_tool_call_id`; `uuid4Hex` lists the hexadecimal digits of the UUIDs it draws. -/
def genToolCallId (uuid4Hex : Nat → Text) (count : Nat) : Text :=
  "chatcmpl-tool-".toList ++ uuid4Hex count

/-- `tool_call.get("id") or previous_id or _gen_tool_call_id()`, with the number of generated
identifiers. -/
def chooseId (uuid4Hex : Nat → Text) (id previousId : Option Text) (generated : Nat) :
    Text × Nat :=
  match (truthy id).or (truthy previousId) with
  | some toolCallId => (toolCallId, generated)
  | none => (genToolCallId uuid4Hex generated, generated + 1)

/-- One round of the loop that gives the fragments of a delta their identifiers. -/
def assignId (uuid4Hex : Nat → Text) (state : ToolState) (toolCall : ToolCallDelta) :
    ToolState × ToolCallDelta :=
  match toolCall.index with
  | none => (state, toolCall)
  | some index =>
    let previousId := state.toolCallIds index
    let (toolCallId, generated) := chooseId uuid4Hex toolCall.id previousId state.generated
    ({ toolsCalls := renameCall previousId toolCallId state.toolsCalls
       toolCallIds := Function.update state.toolCallIds index (some toolCallId)
       generated },
      { toolCall with id := some toolCallId })

/-- The loop that gives the fragments of a delta their identifiers. -/
def assignIds (uuid4Hex : Nat → Text) :
    ToolState → List ToolCallDelta → ToolState × List ToolCallDelta
  | state, [] => (state, [])
  | state, toolCall :: rest =>
    let (state, assigned) := assignId uuid4Hex state toolCall
    let (state, others) := assignIds uuid4Hex state rest
    (state, assigned :: others)

/-- One round of `_extract_response_tool_calls`. -/
def extractToolCall (responseToolCall : ToolCallDelta) : Option ToolCall :=
  responseToolCall.function.map fun function =>
    { id := ensureFieldEmptyStr responseToolCall.id
      type := ensureFieldEmptyStr responseToolCall.type
      function :=
        { name := ensureFieldEmptyStr function.name
          arguments := ensureFieldEmptyStr function.arguments } }

/-- `_extract_response_tool_calls`. -/
def extractResponseToolCalls (responseToolCalls : List ToolCallDelta) : List ToolCall :=
  responseToolCalls.filterMap extractToolCall

/-- The call that `get_tool_call` appends for a new identifier. -/
def emptyToolCall (toolCallId : Text) : ToolCall :=
  { id := toolCallId, type := "function".toList, function := { name := [], arguments := [] } }

/-- `get_tool_call`: the calls, and the position of the one to update; `none` when there is no
last call. -/
def getToolCall (toolCallId : Text) (existing : List ToolCall) : Option (List ToolCall × Nat) :=
  if toolCallId = [] then
    if existing = [] then none else some (existing, existing.length - 1)
  else
    match existing.findIdx? fun call => call.id = toolCallId with
    | some position => some (existing, position)
    | none => some (existing ++ [emptyToolCall toolCallId], existing.length)

/-- A value that replaces the old one unless it is empty. -/
def replaceText (new old : Text) : Text := if new = [] then old else new

/-- The update of one call by a fragment. -/
def updateToolCall (new call : ToolCall) : ToolCall :=
  { id := replaceText new.id call.id
    type := replaceText new.type call.type
    function :=
      { name := replaceText new.function.name call.function.name
        arguments := call.function.arguments ++ new.function.arguments } }

/-- One round of `_increase_tool_call`. -/
def mergeToolCall (uuid4Hex : Nat → Text) (existing : List ToolCall) (generated : Nat)
    (new : ToolCall) : Option (List ToolCall × Nat) :=
  let (new, generated) :=
    if new.function.name ≠ [] ∧ new.id = [] then
      ({ new with id := genToolCallId uuid4Hex generated }, generated + 1)
    else (new, generated)
  (getToolCall new.id existing).map fun (calls, position) =>
    (calls.modify position (updateToolCall new), generated)

/-- `_increase_tool_call`, with the number of generated identifiers; `none` for its
`IndexError`. -/
def increaseToolCall (uuid4Hex : Nat → Text) :
    List ToolCall → List ToolCall → Nat → Option (List ToolCall × Nat)
  | [], existing, generated => some (existing, generated)
  | new :: rest, existing, generated =>
    (mergeToolCall uuid4Hex existing generated new).bind fun (calls, count) =>
      increaseToolCall uuid4Hex rest calls count

/-- What the handler does with the tool calls of one delta. -/
def toolStep (uuid4Hex : Nat → Text) (state : ToolState) (toolCalls : List ToolCallDelta) :
    Option ToolState :=
  let (state, assigned) := assignIds uuid4Hex state toolCalls
  (increaseToolCall uuid4Hex (extractResponseToolCalls assigned) state.toolsCalls
      state.generated).map fun (calls, generated) =>
    { state with toolsCalls := calls, generated }

end DifyPlugin.OpenaiCompatible
