import Mathlib.Data.List.Nodup
import DifyPlugin.Core.Plugin

/-!
# Blobs in a stream of messages

Each blob of a stream of tool messages is written as one run of chunk frames with an id of its
own; all other messages are written as they are. `Replaced` says so for a whole stream. A
receiver that collects the chunks by id gets the stream back.
-/

namespace DifyPlugin.Plugin

open Server Encoding Decoding

variable {ω μ β : Type}

/-- A chunk frame with encoded bytes. -/
def chunkFrame (id : Text) (metadata : Option μ) (totalLength sequence : Nat) (payload : Text)
    (ended : Bool) : ToolInvokeMessage ω μ Text :=
  ⟨.blobChunk, .blobChunk ⟨id, sequence, totalLength, payload, ended⟩, metadata⟩

/-- The frames of a blob: pieces that are not empty, of at most 8192 bytes each, numbered from 0,
then an empty frame that ends the run. -/
inductive ChunkRun (id : Text) (metadata : Option μ) (blob : Bytes) :
    List (ToolInvokeMessage ω μ Text) → Prop
  /-- The payloads decode to pieces of the blob. -/
  | intro (payloads : List Text) (pieces : List Bytes)
    (decoded : payloads.map b64decode = pieces.map some)
    (sizes : ∀ piece ∈ pieces, piece ≠ [] ∧ piece.length ≤ 8192)
    (whole : pieces.flatten = blob) :
    ChunkRun id metadata blob
      (payloads.zipIdx.map (fun (payload, sequence) =>
          chunkFrame id metadata blob.length sequence payload false) ++
        [chunkFrame id metadata blob.length payloads.length [] true])

/-- The frames that are written for a stream: a blob is replaced by a run with the next id, and any
other message is its dump. -/
inductive Replaced : List (ToolInvokeMessage ω μ Bytes) → List Text →
    List (ToolInvokeMessage ω μ Text) → Prop
  /-- The stream is over. -/
  | nil : Replaced [] [] []
  /-- A blob message. -/
  | blob {type : MessageType} {blob : Bytes} {metadata : Option μ} {id : Text}
    {run : List (ToolInvokeMessage ω μ Text)} {rest ids frames}
    (chunks : ChunkRun id metadata blob run) (others : Replaced rest ids frames) :
    Replaced (⟨type, .blob blob, metadata⟩ :: rest) (id :: ids) (run ++ frames)
  /-- A message without a blob. -/
  | kept {message : ToolInvokeMessage ω μ Bytes} {rest ids frames}
    (plain : ∀ blob, message.message ≠ .blob blob) (others : Replaced rest ids frames) :
    Replaced (message :: rest) ids (message.modelDump :: frames)

/-- A receiver that reassembles the chunks whose id it collects, by id. -/
def receive (collects : Text → Bool) (pending : Text → Bytes)
    (frame : ToolInvokeMessage ω μ Text) :
    (Text → Bytes) × List (ToolInvokeMessage ω μ Bytes) :=
  match frame.modelValidate with
  | ⟨type, .blobChunk chunk, metadata⟩ =>
    if collects chunk.id then
      let blob := pending chunk.id ++ chunk.blob
      if chunk.ended then
        (Function.update pending chunk.id [], [⟨.blob, .blob blob, metadata⟩])
      else (Function.update pending chunk.id blob, [])
    else (pending, [⟨type, .blobChunk chunk, metadata⟩])
  | message => (pending, [message])

/-- The messages that a receiver gets from the frames. -/
def reassemble (collects : Text → Bool) (frames : List (ToolInvokeMessage ω μ Text)) :
    List (ToolInvokeMessage ω μ Bytes) :=
  (Transducer.run (receive collects) (fun _ => []) frames).2

/-- The dumped chunks of a blob are a run of its frames. -/
theorem chunkRun_blobChunks (id : Text) (metadata : Option μ) (blob : Bytes) :
    ChunkRun (ω := ω) id metadata blob
      ((blobChunks id metadata blob).map ToolInvokeMessage.modelDump) := by
  have decoded : ((batches 8192 blob).map b64encode).map b64decode =
      (batches 8192 blob).map some := by
    rw [List.map_map]
    exact List.map_congr_left fun piece _ => b64decode_b64encode piece
  have payloads : (batches 8192 blob).zipIdx.map (fun piece =>
      (chunkFrame id metadata blob.length piece.2 (b64encode piece.1) false :
        ToolInvokeMessage ω μ Text)) =
      ((batches 8192 blob).map b64encode).zipIdx.map fun payload =>
        chunkFrame id metadata blob.length payload.2 payload.1 false := by
    rw [List.zipIdx_map, List.map_map]
    rfl
  have count : ((batches 8192 blob).map b64encode).length = (batches 8192 blob).length :=
    List.length_map b64encode
  have run : ChunkRun (ω := ω) id metadata blob _ :=
    ChunkRun.intro _ _ decoded (fun piece listed => mem_batches (by decide) listed)
      (flatten_batches (by decide) blob)
  rw [← payloads, count] at run
  rw [blobChunks, List.map_append, List.map_map]
  exact run

/-- Blobs of distinct objects are replaced under the next ids. -/
theorem replaced_splitMessage (newId : Nat → Text)
    (stream : List (Nat × ToolInvokeMessage ω μ Bytes))
    (distinct : (stream.map Prod.fst).Nodup) (issued : Issued)
    (fresh : ∀ object ∈ stream.map Prod.fst, issued.replaced object = none) :
    ∃ (count : Nat) (frames : List (ToolInvokeMessage ω μ Text)),
      (Transducer.run (splitMessage newId) issued (stream.map fun (object, message) =>
          (.tool object message : Message ω μ β))).2 = frames.map .tool ∧
        Replaced (stream.map Prod.snd) ((List.range' issued.count count).map newId) frames := by
  induction stream generalizing issued with
  | nil => exact ⟨0, [], rfl, Replaced.nil⟩
  | cons first rest ih =>
    obtain ⟨object, type, payload, metadata⟩ := first
    obtain ⟨separate, different⟩ := List.nodup_cons.mp distinct
    have others : ∀ other ∈ rest.map Prod.fst, issued.replaced other = none :=
      fun other listed => fresh other (List.mem_cons_of_mem _ listed)
    cases payload with
    | blob blob =>
      have original : issued.replaced object = none := fresh object List.mem_cons_self
      obtain ⟨count, frames, ran, replaced⟩ := ih different
        ⟨issued.count + 1, Function.update issued.replaced object (some (newId issued.count))⟩
        (by
          intro other listed
          have another : other ≠ object := fun same => separate (same ▸ listed)
          exact (Function.update_of_ne another _ _).trans (others other listed))
      refine ⟨count + 1,
        (blobChunks (newId issued.count) metadata blob).map ToolInvokeMessage.modelDump ++ frames,
        ?_, ?_⟩
      · simp only [List.map_cons, Transducer.run, splitMessage, original, Option.elim_none, ran,
          List.map_append, List.map_map]
        rfl
      · exact Replaced.blob (chunkRun_blobChunks _ _ _) replaced
    | blobChunk chunk =>
      obtain ⟨count, frames, ran, replaced⟩ := ih different issued others
      refine ⟨count, ToolInvokeMessage.modelDump ⟨type, .blobChunk chunk, metadata⟩ :: frames, ?_,
        Replaced.kept (by simp) replaced⟩
      simp only [List.map_cons, Transducer.run, splitMessage, ran, Message.dump,
        List.singleton_append]
    | other payload =>
      obtain ⟨count, frames, ran, replaced⟩ := ih different issued others
      refine ⟨count, ToolInvokeMessage.modelDump ⟨type, .other payload, metadata⟩ :: frames, ?_,
        Replaced.kept (by simp) replaced⟩
      simp only [List.map_cons, Transducer.run, splitMessage, ran, Message.dump,
        List.singleton_append]

/-- The pieces of a run are collected under their id. -/
theorem receive_pieces {collects : Text → Bool} {id : Text} (collected : collects id = true)
    (metadata : Option μ) (totalLength : Nat) (payloads : List Text) (pieces : List Bytes)
    (decoded : payloads.map b64decode = pieces.map some) (start : Nat) (pending : Text → Bytes) :
    Transducer.run (receive (ω := ω) collects) pending
        ((payloads.zipIdx start).map fun (payload, sequence) =>
          chunkFrame id metadata totalLength sequence payload false) =
      (Function.update pending id (pending id ++ pieces.flatten), []) := by
  induction payloads generalizing pieces start pending with
  | nil =>
    have none : pieces = [] := by simpa using decoded.symm
    simp [none, Transducer.run]
  | cons payload rest ih =>
    cases pieces with
    | nil => exact absurd decoded (by simp)
    | cons piece others =>
      obtain ⟨first, remaining⟩ := List.cons.inj decoded
      have bytes : decodeBlob payload = piece := by rw [decodeBlob, first]; rfl
      have step : receive (ω := ω) collects pending
          (chunkFrame id metadata totalLength start payload false) =
          (Function.update pending id (pending id ++ piece), []) := by
        simp [receive, chunkFrame, ToolInvokeMessage.modelValidate, decodeBlobMessage, bytes,
          collected]
      have tail := ih others remaining (start + 1)
        (Function.update pending id (pending id ++ piece))
      simp only [List.zipIdx_cons, List.map_cons, Transducer.run, step, tail,
        Function.update_self, Function.update_idem, List.append_assoc, List.flatten_cons,
        List.append_nil]

/-- A run of frames is received as its blob, and nothing stays behind. -/
theorem receive_chunkRun {collects : Text → Bool} {id : Text} (collected : collects id = true)
    {metadata : Option μ} {blob : Bytes} {run : List (ToolInvokeMessage ω μ Text)}
    (chunks : ChunkRun id metadata blob run) :
    Transducer.run (receive collects) (fun _ => []) run =
      (fun _ => [], [⟨.blob, .blob blob, metadata⟩]) := by
  obtain ⟨payloads, pieces, decoded, -, whole⟩ := chunks
  have empty : decodeBlob [] = [] := by decide
  have pieceRun := receive_pieces (ω := ω) collected metadata blob.length payloads pieces decoded 0
    (fun _ => [])
  have last : receive (ω := ω) collects (Function.update (fun _ => []) id blob)
      (chunkFrame id metadata blob.length payloads.length [] true) =
      (fun _ => [], [⟨.blob, .blob blob, metadata⟩]) := by
    simp [receive, chunkFrame, ToolInvokeMessage.modelValidate, decodeBlobMessage, empty,
      collected]
  rw [Transducer.run_append, pieceRun, whole, List.nil_append]
  simp only [Transducer.run, last]
  rfl

/-- A kept message is received as it is, when its id is not collected. -/
theorem receive_kept {collects : Text → Bool} (pending : Text → Bytes)
    {message : ToolInvokeMessage ω μ Bytes}
    (foreign : ∀ chunk, message.message = .blobChunk chunk → collects chunk.id = false) :
    receive collects pending message.modelDump = (pending, [message]) := by
  have same := modelValidate_modelDump message
  rw [receive, same]
  obtain ⟨type, payload, metadata⟩ := message
  cases payload with
  | blob blob => rfl
  | blobChunk chunk =>
    have passed : collects chunk.id = false := foreign chunk rfl
    simp [passed]
  | other payload => rfl

/-- The receiver gets the stream back. -/
theorem reassemble_replaced {collects : Text → Bool} {stream : List (ToolInvokeMessage ω μ Bytes)}
    {ids : List Text} {frames : List (ToolInvokeMessage ω μ Text)}
    (replaced : Replaced stream ids frames) (collected : ∀ id ∈ ids, collects id = true)
    (foreign : ∀ message ∈ stream, ∀ chunk, message.message = .blobChunk chunk →
      collects chunk.id = false)
    (typed : ∀ message ∈ stream, ∀ blob, message.message = .blob blob → message.type = .blob) :
    Transducer.run (receive collects) (fun _ => []) frames = (fun _ => [], stream) := by
  induction replaced with
  | nil => rfl
  | @blob type blob metadata id run rest ids frames chunks others ih =>
    have named : type = .blob := typed _ List.mem_cons_self blob rfl
    have first := receive_chunkRun (collected id List.mem_cons_self) chunks
    have tail := ih (fun other listed => collected other (List.mem_cons_of_mem _ listed))
      (fun message listed => foreign message (List.mem_cons_of_mem _ listed))
      (fun message listed => typed message (List.mem_cons_of_mem _ listed))
    rw [Transducer.run_append, first, tail, named]
    rfl
  | @kept message rest ids frames plain others ih =>
    have first := receive_kept (fun _ => []) (foreign message List.mem_cons_self)
    have tail := ih collected (fun other listed => foreign other (List.mem_cons_of_mem _ listed))
      (fun other listed => typed other (List.mem_cons_of_mem _ listed))
    simp only [Transducer.run, first, tail, List.singleton_append]

/-- The frames of a stream of distinct messages keep every message, replace each blob by one run of
chunks with an id of its own, and are reassembled to the stream. -/
theorem executeRequest_blobs {writer : Writer (Dump ω μ β)}
    (works : ∀ log frame, writer log frame = none) (sessionId : Text) {newId : Nat → Text}
    (distinctIds : Function.Injective newId)
    {messages : Generator (Message ω μ β) Raised}
    {stream : List (Nat × ToolInvokeMessage ω μ Bytes)}
    (yields : messages.yielded = stream.map fun (object, message) => .tool object message)
    (distinct : (stream.map Prod.fst).Nodup) :
    ∃ (ids : List Text) (frames : List (ToolInvokeMessage ω μ Text)),
      written (executeRequest writer sessionId newId (.generator messages) []).log =
          frames.map (fun frame => ⟨sessionId, .stream (.tool frame)⟩) ∧
        ids.Nodup ∧ Replaced (stream.map Prod.snd) ids frames ∧
        ∀ collects : Text → Bool, (∀ id ∈ ids, collects id = true) →
          (∀ message ∈ stream.map Prod.snd, ∀ chunk, message.message = .blobChunk chunk →
            collects chunk.id = false) →
          (∀ message ∈ stream.map Prod.snd, ∀ blob, message.message = .blob blob →
            message.type = .blob) →
          reassemble collects frames = stream.map Prod.snd := by
  obtain ⟨added, appended, streamed, -⟩ := logs_executeRequest_works works sessionId newId
    (.generator messages) []
  obtain ⟨count, frames, ran, replaced⟩ := replaced_splitMessage (β := β) newId stream distinct
    Issued.initial (fun _ _ => rfl)
  refine ⟨_, frames, ?_, ?_, replaced, ?_⟩
  · rw [appended, List.nil_append, streamed, Response.frames, yields, ran, List.map_map]
    rfl
  · exact List.Nodup.map distinctIds (List.nodup_range' 1)
  · intro collects collected foreign typed
    exact congrArg Prod.snd (reassemble_replaced replaced collected foreign typed)

/-- A stream with a text, a blob, a chunk of the handler and an empty blob, for examples. -/
def mixedStream : List (Nat × ToolInvokeMessage Text Text Bytes) :=
  [(0, ⟨.text, .other "report".toList, none⟩),
    (1, ⟨.blob, .blob [0, 10, 255, 61], some "m".toList⟩),
    (2, ⟨.blobChunk, .blobChunk ⟨"own".toList, 0, 1, [7], true⟩, none⟩),
    (3, ⟨.blob, .blob [], none⟩)]

/-- The generator that yields the stream and returns, for examples. -/
def mixedMessages : Generator (Message Text Text Empty) Raised :=
  mixedStream.foldr (fun (object, message) next => .yielding (.tool object message) none next)
    (.finish none)

/-- The mixed stream is written and received. -/
theorem executeRequest_blobs_mixed :
    ∃ (ids : List Text) (frames : List (ToolInvokeMessage Text Text Text)),
      written (executeRequest (fun _ _ => none) "s".toList (fun count => List.replicate count '0')
          (.generator mixedMessages) []).log =
          frames.map (fun frame => ⟨"s".toList, .stream (.tool frame)⟩) ∧
        ids.Nodup ∧ Replaced (mixedStream.map Prod.snd) ids frames ∧
        ∀ collects : Text → Bool, (∀ id ∈ ids, collects id = true) →
          (∀ message ∈ mixedStream.map Prod.snd, ∀ chunk, message.message = .blobChunk chunk →
            collects chunk.id = false) →
          (∀ message ∈ mixedStream.map Prod.snd, ∀ blob, message.message = .blob blob →
            message.type = .blob) →
          reassemble collects frames = mixedStream.map Prod.snd :=
  executeRequest_blobs (fun _ _ => rfl) "s".toList
    (fun _ _ same => by simpa using congrArg List.length same) (by rfl) (by decide)

end DifyPlugin.Plugin
