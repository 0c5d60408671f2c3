import DifyPlugin.Library.Encoding

/-!
# Messages of tools

The messages that a tool yields, as far as `Plugin._execute_request` and the serializer look into
them: blobs, chunks of blobs, and all other payloads. Bytes are sent as Base64 text and decoded
before the payload is validated.
-/

namespace DifyPlugin

open Encoding Decoding

/-- `InvokeMessage.MessageType`. -/
inductive MessageType where
  /-- `text`. -/
  | text
  /-- `file`. -/
  | file
  /-- `blob`. -/
  | blob
  /-- `json`. -/
  | json
  /-- `link`. -/
  | link
  /-- `image`. -/
  | image
  /-- `image_link`. -/
  | imageLink
  /-- `binary_link`. -/
  | binaryLink
  /-- `variable`. -/
  | variable
  /-- `blob_chunk`. -/
  | blobChunk
  /-- `log`. -/
  | log
  /-- `retriever_resources`. -/
  | retrieverResources
  deriving DecidableEq

/-- `InvokeMessage.BlobChunkMessage`; the bytes are `Bytes`, or `Text` when they are encoded. -/
structure BlobChunkMessage (β : Type) where
  /-- `id`. -/
  id : Text
  /-- `sequence`. -/
  sequence : Nat
  /-- `total_length`. -/
  totalLength : Nat
  /-- `blob`. -/
  blob : β
  /-- `end`. -/
  ended : Bool
  deriving DecidableEq

/-- The payload of a message. -/
inductive Payload (ω β : Type) where
  /-- `InvokeMessage.BlobMessage`. -/
  | blob (blob : β)
  /-- `InvokeMessage.BlobChunkMessage`. -/
  | blobChunk (chunk : BlobChunkMessage β)
  /-- A payload without bytes, or no payload. -/
  | other (payload : ω)
  deriving DecidableEq

/-- `ToolInvokeMessage`; `β` is `Bytes` for the object and `Text` for its dump. -/
structure ToolInvokeMessage (ω μ β : Type) where
  /-- `type`. -/
  type : MessageType
  /-- `message`. -/
  message : Payload ω β
  /-- `meta`. -/
  metadata : Option μ
  deriving DecidableEq

variable {ω μ : Type}

/-- `InvokeMessage.serialize_message`. -/
def serializeMessage : Payload ω Bytes → Payload ω Text
  | .blob blob => .blob (b64encode blob)
  | .blobChunk chunk => .blobChunk { chunk with blob := b64encode chunk.blob }
  | .other payload => .other payload

/-- The `blob` of a dictionary after `InvokeMessage.decode_blob_message`: text that cannot be
decoded stays, and is validated as its UTF-8 bytes. -/
def decodeBlob (blob : Text) : Bytes := (b64decode blob).getD (utf8Encode blob)

/-- `InvokeMessage.decode_blob_message`, and the validation of the payload after it. -/
def decodeBlobMessage : Payload ω Text → Payload ω Bytes
  | .blob blob => .blob (decodeBlob blob)
  | .blobChunk chunk => .blobChunk { chunk with blob := decodeBlob chunk.blob }
  | .other payload => .other payload

/-- `message.model_dump()`. -/
def ToolInvokeMessage.modelDump (message : ToolInvokeMessage ω μ Bytes) :
    ToolInvokeMessage ω μ Text :=
  ⟨message.type, serializeMessage message.message, message.metadata⟩

/-- `ToolInvokeMessage.model_validate`, of a dump. -/
def ToolInvokeMessage.modelValidate (data : ToolInvokeMessage ω μ Text) :
    ToolInvokeMessage ω μ Bytes :=
  ⟨data.type, decodeBlobMessage data.message, data.metadata⟩

/-- Encoded bytes are decoded to themselves. -/
theorem decodeBlob_b64encode (blob : Bytes) : decodeBlob (b64encode blob) = blob := by
  rw [decodeBlob, b64decode_b64encode]
  rfl

/-- A serialized payload is decoded to itself. -/
theorem decodeBlobMessage_serializeMessage (message : Payload ω Bytes) :
    decodeBlobMessage (serializeMessage message) = message := by
  cases message with
  | blob blob => exact congrArg Payload.blob (decodeBlob_b64encode blob)
  | blobChunk chunk =>
    have decoded := decodeBlob_b64encode chunk.blob
    simp only [serializeMessage, decodeBlobMessage, decoded]
  | other payload => rfl

/-- A message survives its dump. -/
theorem modelValidate_modelDump (message : ToolInvokeMessage ω μ Bytes) :
    message.modelDump.modelValidate = message := by
  have payload := decodeBlobMessage_serializeMessage message.message
  simp only [ToolInvokeMessage.modelDump, ToolInvokeMessage.modelValidate, payload]

end DifyPlugin
