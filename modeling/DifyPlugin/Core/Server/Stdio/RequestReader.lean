import DifyPlugin.Core.Server.Base
import DifyPlugin.Library.Decoding
import DifyPlugin.Library.Fallible
import DifyPlugin.Library.Json

/-!
# The standard input reader

`StdioRequestReader._read_stream` collects what it reads until a line ends, and then parses the
lines one by one. The reads are a list, each the bytes that `os.read` returned; an empty one is
the end of the input. JSON objects are validated outside of the repository, so that is a
parameter. `messagesOf` says what the messages of a stream are, for both transports.
-/

namespace DifyPlugin.Server

open Decoding Splitting

variable {ω μ : Type}

/-! ## One line -/

/-- `PluginInStreamBase`; what is missing and not required is `None`. -/
structure PluginInStreamBase (ω : Type) where
  /-- `session_id`. -/
  sessionId : Json ω
  /-- `event`. -/
  event : PluginInStreamEvent
  /-- `data`. -/
  data : Json ω
  /-- `conversation_id`. -/
  conversationId : Json ω
  /-- `message_id`. -/
  messageId : Json ω
  /-- `app_id`. -/
  appId : Json ω
  /-- `endpoint_id`. -/
  endpointId : Json ω
  /-- `context`. -/
  context : Json ω

/-- Why a line makes no message. -/
inductive LineError where
  /-- It is no JSON object. -/
  | json
  /-- `KeyError`. -/
  | key (key : Text)
  /-- The `ValueError` of `PluginInStreamEvent`. -/
  | event
  deriving DecidableEq

/-- `PluginInStreamEvent.value_of`. -/
def PluginInStreamEvent.valueOf : Json ω → Except LineError PluginInStreamEvent
  | .str value =>
    if value = "request".toList then .ok .request
    else if value = "backwards_response".toList then .ok .backwardInvocationResponse
    else .error .event
  | _ => .error .event

/-- `data[key]`. -/
def item (data : List (Text × Json ω)) (key : String) : Except LineError (Json ω) :=
  match data.lookup key.toList with
  | some value => .ok value
  | none => .error (.key key.toList)

/-- `data.get(key)`. -/
def itemOrNone (data : List (Text × Json ω)) (key : String) : Json ω :=
  (data.lookup key.toList).getD .null

/-- The `PluginInStream` of an object, without its reader and its writer. -/
def pluginInStream (data : List (Text × Json ω)) : Except LineError (PluginInStreamBase ω) := do
  let sessionId ← item data "session_id"
  let event ← item data "event" >>= PluginInStreamEvent.valueOf
  let payload ← item data "data"
  .ok
    { sessionId, event, data := payload
      conversationId := itemOrNone data "conversation_id"
      messageId := itemOrNone data "message_id"
      appId := itemOrNone data "app_id"
      endpointId := itemOrNone data "endpoint_id"
      context := itemOrNone data "context" }

variable (validateJson : Bytes → Option (List (Text × Json ω)))

/-- The message of a line; `validateJson` is `TypeAdapter(dict[str, Any]).validate_json`. -/
def parseLine (line : Bytes) : Except LineError (PluginInStreamBase ω) :=
  match validateJson line with
  | some data => pluginInStream data
  | none => .error .json

/-- The white space that `bytes.strip` removes. -/
def isSpace (byte : UInt8) : Bool := byte ∈ [32, 9, 10, 13, 11, 12]

/-- `line.strip()`. -/
def strip (line : Bytes) : Bytes := (line.dropWhile isSpace).rdropWhile isSpace

/-! ## The stream -/

/-- What `_read_stream` makes of a line. -/
inductive LineOutcome (ω : Type) where
  /-- It yields a message. -/
  | message (message : PluginInStreamBase ω)
  /-- It writes an error frame. -/
  | error (error : LineError)

/-- The body of the loop over the lines. -/
def processRawLine (rawLine : Bytes) : List (LineOutcome ω) :=
  let line := strip rawLine
  if line = [] then []
  else
    match parseLine validateJson line with
    | .ok message => [.message message]
    | .error error => [.error error]

/-- `StdioRequestReader._read_stream`, with its buffer, over the reads. -/
def readStream : Bytes → List Bytes → List (LineOutcome ω)
  | _, [] => []
  | buffer, data :: reads =>
    if data = [] then []
    else if 10 ∈ data then
      let (lines, remaining) := split [10] (buffer ++ data)
      lines.flatMap (processRawLine validateJson) ++ readStream remaining reads
    else readStream (buffer ++ data) reads

/-- The line is a JSON object with a `session_id`, a known `event` and `data`. -/
def Complete (line : Bytes) : Prop :=
  ∃ data sessionId event known payload, validateJson line = some data ∧
    data.lookup "session_id".toList = some sessionId ∧
    data.lookup "event".toList = some event ∧
    PluginInStreamEvent.valueOf event = .ok known ∧
    data.lookup "data".toList = some payload

end DifyPlugin.Server
