import DifyPlugin.Core.Server.ResponseWriter
import DifyPlugin.Entities.InvokeMessage
import DifyPlugin.Library.Batches
import DifyPlugin.Library.Transducer

/-!
# Executing a request

`Plugin._execute_request` writes what the handler of a request returns: nothing for a falsy
result, one stream frame for an object, and for a generator one frame for each message, except
that a blob is cut into chunks. A blob message is known by the identity of its payload, because
its `blob` is replaced by the id of the chunks when it is sent.
-/

namespace DifyPlugin.Plugin

open Server Encoding Decoding

/-- What a handler yields; `β` are the values that are no `ToolInvokeMessage`. -/
inductive Message (ω μ β : Type) where
  /-- A `ToolInvokeMessage`, with the identity of its payload. -/
  | tool (object : Nat) (message : ToolInvokeMessage ω μ Bytes)
  /-- Any other serializable value. -/
  | other (data : β)

/-- The dump of what a handler yields. -/
inductive Dump (ω μ β : Type) where
  /-- The dump of a `ToolInvokeMessage`. -/
  | tool (message : ToolInvokeMessage ω μ Text)
  /-- The dump of any other value. -/
  | other (data : β)
  deriving DecidableEq

/-- The result of `dispatch`. -/
inductive Response (ω μ β : Type) where
  /-- The session or the handler raises. -/
  | raised (error : Raised)
  /-- A falsy result. -/
  | falsy
  /-- An object that is no generator. -/
  | single (message : Message ω μ β)
  /-- A generator. -/
  | generator (messages : Generator (Message ω μ β) Raised)

/-- The ids that were generated, and the objects whose blob was replaced by one. -/
structure Issued where
  /-- The number of generated ids. -/
  count : Nat
  /-- The id that stands in the `blob` of an object. -/
  replaced : Nat → Option Text

/-- No id was generated. -/
def Issued.initial : Issued := ⟨0, fun _ => none⟩

variable {ω μ β : Type}

/-- `message.model_dump()`. -/
def Message.dump : Message ω μ β → Dump ω μ β
  | .tool _ message => .tool message.modelDump
  | .other data => .other data

/-- `ToolInvokeMessage(type=BLOB_CHUNK, message=BlobChunkMessage(...), meta=meta)`. -/
def blobChunk (id : Text) (metadata : Option μ) (totalLength sequence : Nat) (blob : Bytes)
    (ended : Bool) : ToolInvokeMessage ω μ Bytes :=
  ⟨.blobChunk, .blobChunk ⟨id, sequence, totalLength, blob, ended⟩, metadata⟩

/-- The chunks of a blob, and the end of its stream. -/
def blobChunks (id : Text) (metadata : Option μ) (blob : Bytes) :
    List (ToolInvokeMessage ω μ Bytes) :=
  let chunks := batches 8192 blob
  chunks.zipIdx.map (fun (chunk, sequence) =>
      blobChunk id metadata blob.length sequence chunk false) ++
    [blobChunk id metadata blob.length chunks.length [] true]

/-- The frames of a yielded message, and the ids behind them; `newId` is `uuid4().hex`. -/
def splitMessage (newId : Nat → Text) (issued : Issued) :
    Message ω μ β → Issued × List (Dump ω μ β)
  | .tool object ⟨_, .blob content, metadata⟩ =>
    let id := newId issued.count
    let blob := (issued.replaced object).elim content utf8Encode
    (⟨issued.count + 1, Function.update issued.replaced object (some id)⟩,
      (blobChunks id metadata blob).map fun chunk => .tool chunk.modelDump)
  | message => (issued, [message.dump])

/-- The loop over a generator, under `with closing(response)`. -/
def streamMessages (writer : Writer (Dump ω μ β)) (sessionId : Text) (newId : Nat → Text) :
    Issued → Generator (Message ω μ β) Raised → Statement (Entry (Dump ω μ β)) Raised :=
  Statement.forClosing .closed (fun issued message => (splitMessage newId issued message).1)
    fun issued message => streamAll writer sessionId (splitMessage newId issued message).2

/-- `Plugin._execute_request`. -/
def executeRequest (writer : Writer (Dump ω μ β)) (sessionId : Text) (newId : Nat → Text) :
    Response ω μ β → Statement (Entry (Dump ω μ β)) Raised
  | .raised error => Statement.outcome (some error)
  | .falsy => Statement.outcome none
  | .single message => sessionMessage writer sessionId (.stream message.dump)
  | .generator messages => streamMessages writer sessionId newId Issued.initial messages

/-- The stream frames of a response, when all are written. -/
def Response.frames (newId : Nat → Text) : Response ω μ β → List (Dump ω μ β)
  | .raised _ | .falsy => []
  | .single message => [message.dump]
  | .generator messages =>
    (Transducer.run (splitMessage newId) Issued.initial messages.yielded).2

/-- What a response raises, when all its frames are written. -/
def Response.error : Response ω μ β → Option Raised
  | .raised error => some error
  | .falsy | .single _ => none
  | .generator messages => messages.raised

/-- The frames that were written. -/
def written {δ : Type} (log : List (Entry δ)) : List (SessionFrame δ) :=
  log.filterMap Entry.written

/-- The written frames of stream entries. -/
theorem written_streams {δ : Type} (sessionId : Text) (messages : List δ) :
    written (messages.map fun data => Entry.wrote ⟨sessionId, .stream data⟩) =
      messages.map fun data => ⟨sessionId, .stream data⟩ := by
  induction messages with
  | nil => rfl
  | cons data rest ih => exact congrArg (_ :: ·) ih

/-- Written frames of joined logs. -/
@[simp] theorem written_append {δ : Type} (log more : List (Entry δ)) :
    written (log ++ more) = written log ++ written more :=
  List.filterMap_append

/-- A writer that does not fail writes the frames of every message of a generator. -/
theorem logs_streamMessages_works {writer : Writer (Dump ω μ β)}
    (works : ∀ log frame, writer log frame = none) (sessionId : Text) (newId : Nat → Text)
    (issued : Issued) (messages : Generator (Message ω μ β) Raised) :
    (streamMessages writer sessionId newId issued messages).Logs fun added raised =>
      written added = (Transducer.run (splitMessage newId) issued messages.yielded).2.map
        (fun data => ⟨sessionId, .stream data⟩) ∧ raised = messages.raised := by
  apply Statement.Logs.forClosing (fun issued message => logs_streamAll_works works sessionId _)
  · intro issued raised
    exact ⟨rfl, rfl⟩
  · rintro issued message onClose next added more raised ⟨rfl, -⟩ ⟨rest, rfl⟩
    refine ⟨?_, rfl⟩
    rw [written_append, written_streams, rest]
    exact List.map_append.symm
  · rintro issued message onClose next added error ⟨-, impossible⟩
    exact absurd impossible (by simp)

/-- The loop over a generator is orderly, and closes the generator. -/
theorem logs_streamMessages (writer : Writer (Dump ω μ β)) (sessionId : Text)
    (newId : Nat → Text) (issued : Issued) (messages : Generator (Message ω μ β) Raised) :
    (streamMessages writer sessionId newId issued messages).Logs fun added _ =>
      Orderly added ∧ Entry.closed ∈ added := by
  have closes : Orderly [(Entry.closed : Entry (Dump ω μ β))] := Orderly.single nofun
  apply Statement.Logs.forClosing (fun issued message => logs_streamAll writer sessionId _)
  · intro issued raised
    exact ⟨closes, List.mem_singleton_self _⟩
  · intro issued message onClose next added more raised met rest
    exact ⟨Orderly.append met.1 (met.2 rfl) rest.1, List.mem_append_right _ rest.2⟩
  · intro issued message onClose next added error met
    refine ⟨Orderly.append_quiet met.1 closes ?_, by simp⟩
    simp [Entry.Streams]

/-- A writer that does not fail writes every stream frame of the response. -/
theorem logs_executeRequest_works {writer : Writer (Dump ω μ β)}
    (works : ∀ log frame, writer log frame = none) (sessionId : Text) (newId : Nat → Text)
    (response : Response ω μ β) :
    (executeRequest writer sessionId newId response).Logs fun added raised =>
      written added = (response.frames newId).map (fun data => ⟨sessionId, .stream data⟩) ∧
        raised = response.error := by
  cases response with
  | raised error => exact Statement.Logs.outcome ⟨rfl, rfl⟩
  | falsy => exact Statement.Logs.outcome ⟨rfl, rfl⟩
  | single message =>
    apply (logs_sessionMessage_works works sessionId _).mono
    rintro added raised ⟨rfl, rfl⟩
    exact ⟨rfl, rfl⟩
  | generator messages =>
    exact logs_streamMessages_works works sessionId newId Issued.initial messages

/-- What `_execute_request` does with any writer: its entries are orderly, a failed write is
raised, and a generator is closed. -/
theorem logs_executeRequest (writer : Writer (Dump ω μ β)) (sessionId : Text)
    (newId : Nat → Text) (response : Response ω μ β) :
    (executeRequest writer sessionId newId response).Logs fun added _ =>
      Orderly added ∧ ∀ messages, response = .generator messages → .closed ∈ added := by
  cases response with
  | raised error =>
    exact Statement.Logs.outcome ⟨⟨List.not_mem_nil, List.Pairwise.nil⟩, nofun⟩
  | falsy => exact Statement.Logs.outcome ⟨⟨List.not_mem_nil, List.Pairwise.nil⟩, nofun⟩
  | single message =>
    apply (logs_sessionMessage writer sessionId _).mono
    intro added raised met
    rcases met with ⟨rfl, -⟩ | ⟨rfl, -⟩
    · exact ⟨Orderly.single nofun, nofun⟩
    · exact ⟨Orderly.single nofun, nofun⟩
  | generator messages =>
    apply (logs_streamMessages writer sessionId newId Issued.initial messages).mono
    intro added raised met
    exact ⟨met.1, fun _ _ => met.2⟩

end DifyPlugin.Plugin
