import DifyPlugin.Library.Str

/-!
# Chunks of a language model result

The entities that streamed results are made of. A message content that is a list of parts never
occurs in them, so a content is a string or absent.
-/

namespace DifyPlugin

/-- `AssistantPromptMessage.ToolCall.ToolCallFunction`. -/
structure ToolCallFunction where
  /-- The name of the tool. -/
  name : Text
  /-- The arguments, as the text of a JSON object. -/
  arguments : Text
  deriving DecidableEq

/-- `AssistantPromptMessage.ToolCall`. -/
structure ToolCall where
  /-- The identifier the result of the call refers to. -/
  id : Text
  /-- The kind of call. -/
  type : Text
  /-- What to call. -/
  function : ToolCallFunction
  deriving DecidableEq

/-- `AssistantPromptMessage`. -/
structure AssistantPromptMessage where
  /-- The text, when there is one. -/
  content : Option Text
  /-- The calls the model asks for. -/
  toolCalls : List ToolCall := []
  deriving DecidableEq

/-- `LLMUsage`. -/
structure LLMUsage where
  /-- Tokens of the prompt. -/
  promptTokens : Int
  /-- Price of one prompt token, in units. -/
  promptUnitPrice : Rat
  /-- The unit of the prompt price. -/
  promptPriceUnit : Rat
  /-- Price of the prompt. -/
  promptPrice : Rat
  /-- Tokens of the completion. -/
  completionTokens : Int
  /-- Price of one completion token, in units. -/
  completionUnitPrice : Rat
  /-- The unit of the completion price. -/
  completionPriceUnit : Rat
  /-- Price of the completion. -/
  completionPrice : Rat
  /-- All tokens. -/
  totalTokens : Int
  /-- The whole price. -/
  totalPrice : Rat
  /-- The currency of the prices. -/
  currency : Text
  /-- Seconds since the invocation started. -/
  latency : Rat
  deriving DecidableEq

/-- `LLMResultChunkDelta`. -/
structure LLMResultChunkDelta where
  /-- The position of the chunk. -/
  index : Nat
  /-- What the chunk adds to the message. -/
  message : AssistantPromptMessage
  /-- The token counts, on the last chunk. -/
  usage : Option LLMUsage := none
  /-- Why the model stopped. -/
  finishReason : Option Text := none
  deriving DecidableEq

/-- `LLMResultChunk`; its prompt messages are always empty. -/
structure LLMResultChunk where
  /-- The model that answers. -/
  model : Text
  /-- The provider's fingerprint. -/
  systemFingerprint : Option Text := none
  /-- The increment. -/
  delta : LLMResultChunkDelta
  deriving DecidableEq

/-- `LLMResult`; its prompt messages are always empty. -/
structure LLMResult where
  /-- The model that answers. -/
  model : Text
  /-- The whole message. -/
  message : AssistantPromptMessage
  /-- The token counts. -/
  usage : LLMUsage
  /-- The provider's fingerprint. -/
  systemFingerprint : Option Text := none
  deriving DecidableEq

/-- `LLMResult.to_llm_result_chunk`. -/
def LLMResult.toLlmResultChunk (result : LLMResult) : LLMResultChunk where
  model := result.model
  systemFingerprint := result.systemFingerprint
  delta := { index := 0, message := result.message, usage := some result.usage }

/-- The string content of a chunk. -/
def LLMResultChunk.text (chunk : LLMResultChunk) : Text := chunk.delta.message.content.getD []

/-- All string contents of a stream, joined. -/
def contents (chunks : List LLMResultChunk) : Text := chunks.flatMap LLMResultChunk.text

@[simp] theorem contents_nil : contents [] = [] := rfl

@[simp] theorem contents_cons (chunk : LLMResultChunk) (rest : List LLMResultChunk) :
    contents (chunk :: rest) = chunk.text ++ contents rest := rfl

@[simp] theorem contents_append (left right : List LLMResultChunk) :
    contents (left ++ right) = contents left ++ contents right := by
  simp [contents]

end DifyPlugin
