import DifyPlugin.Library.Batches
import DifyPlugin.Library.Encoding
import DifyPlugin.Library.Splitting
import Mathlib.Data.List.Forall2

/-!
# Registering with a remote daemon

`Plugin._initialize_tcp_stream` writes the declarations of the plugin that it has, then every
asset in chunks that are written in Base64, and then the end. The last chunk of an asset is
marked; the receiver closes the file then. Two line feeds end every message, so that the receiver
can cut the messages from the stream.
-/

namespace DifyPlugin.Initialization

open Encoding Decoding

/-- `InitializeMessage.Type`. -/
inductive MessageType where
  /-- `HANDSHAKE`. -/
  | handshake
  /-- `ASSET_CHUNK`. -/
  | assetChunk
  /-- `MANIFEST_DECLARATION`. -/
  | manifestDeclaration
  /-- `TOOL_DECLARATION`. -/
  | toolDeclaration
  /-- `MODEL_DECLARATION`. -/
  | modelDeclaration
  /-- `ENDPOINT_DECLARATION`. -/
  | endpointDeclaration
  /-- `AGENT_STRATEGY_DECLARATION`. -/
  | agentStrategyDeclaration
  /-- `DATASOURCE_DECLARATION`. -/
  | datasourceDeclaration
  /-- `TRIGGER_DECLARATION`. -/
  | triggerDeclaration
  /-- `END`. -/
  | ended
  deriving DecidableEq

/-- `type.value`. -/
def MessageType.value : MessageType → Text
  | .handshake => "handshake".toList
  | .assetChunk => "asset_chunk".toList
  | .manifestDeclaration => "manifest_declaration".toList
  | .toolDeclaration => "tool_declaration".toList
  | .modelDeclaration => "model_declaration".toList
  | .endpointDeclaration => "endpoint_declaration".toList
  | .agentStrategyDeclaration => "agent_strategy_declaration".toList
  | .datasourceDeclaration => "datasource_declaration".toList
  | .triggerDeclaration => "trigger_declaration".toList
  | .ended => "end".toList

/-- `InitializeMessage.AssetChunk`. -/
structure AssetChunk where
  /-- The name of the file. -/
  filename : Text
  /-- The bytes in Base64. -/
  data : Text
  /-- The mark of the last chunk. -/
  ended : Bool
  deriving DecidableEq

/-- The `data` of a message; `δ` are the dumps of configurations. -/
inductive MessageData (δ : Type) where
  /-- The dump of the manifest. -/
  | manifest (configuration : δ)
  /-- The dump of a list of configurations. -/
  | configurations (items : List δ)
  /-- The dump of a chunk. -/
  | chunk (chunk : AssetChunk)
  /-- `{}`. -/
  | empty
  deriving DecidableEq

/-- `InitializeMessage`. -/
structure InitializeMessage (δ : Type) where
  /-- The type. -/
  type : MessageType
  /-- The data. -/
  data : MessageData δ
  deriving DecidableEq

/-- `PluginAsset`. -/
structure PluginAsset where
  /-- The name of the file. -/
  filename : Text
  /-- The bytes. -/
  data : Bytes

/-- What is registered. -/
structure Registration (δ : Type) where
  /-- The manifest. -/
  configuration : δ
  /-- `tools_configuration`. -/
  toolsConfiguration : List δ := []
  /-- `models_configuration`. -/
  modelsConfiguration : List δ := []
  /-- `endpoints_configuration`. -/
  endpointsConfiguration : List δ := []
  /-- `agent_strategies_configuration`. -/
  agentStrategiesConfiguration : List δ := []
  /-- `datasource_configuration`. -/
  datasourceConfiguration : List δ := []
  /-- `triggers_configuration`. -/
  triggersConfiguration : List δ := []
  /-- `files`. -/
  files : List PluginAsset := []

variable {δ : Type}

/-- A declaration is written when there is something to declare. -/
def declare (type : MessageType) (items : List δ) : List (InitializeMessage δ) :=
  if items.isEmpty then [] else [⟨type, .configurations items⟩]

/-- The declarations. -/
def declarations (registration : Registration δ) : List (InitializeMessage δ) :=
  [⟨.manifestDeclaration, .manifest registration.configuration⟩] ++
    declare .toolDeclaration registration.toolsConfiguration ++
    declare .modelDeclaration registration.modelsConfiguration ++
    declare .endpointDeclaration registration.endpointsConfiguration ++
    declare .agentStrategyDeclaration registration.agentStrategiesConfiguration ++
    declare .datasourceDeclaration registration.datasourceConfiguration ++
    declare .triggerDeclaration registration.triggersConfiguration

/-- `range(0, length, step)`. -/
def offsets (length step : Nat) : List Nat :=
  (List.range ((length + step - 1) / step)).map (· * step)

/-- The chunk from an offset on. -/
def assetChunk (file : PluginAsset) (offset : Nat) : AssetChunk where
  filename := file.filename
  data := b64encode ((file.data.drop offset).take 8192)
  ended := decide (file.data.length ≤ offset + 8192)

/-- The chunks of a file. -/
def assetChunks (file : PluginAsset) : List AssetChunk :=
  (offsets file.data.length 8192).map (assetChunk file)

/-- The message of a chunk. -/
def assetMessage (chunk : AssetChunk) : InitializeMessage δ := ⟨.assetChunk, .chunk chunk⟩

/-- The last message. -/
def endMessage : InitializeMessage δ := ⟨.ended, .empty⟩

/-- The messages that are written, in order. -/
def initializeMessages (registration : Registration δ) : List (InitializeMessage δ) :=
  declarations registration ++
    (registration.files.flatMap fun file => (assetChunks file).map assetMessage) ++ [endMessage]

/-- What ends a frame. -/
def frameEnd : Text := ['\n', '\n']

/-- The frame of a message; `dump` is `model_dump_json`. -/
def frame (dump : InitializeMessage δ → Text) (message : InitializeMessage δ) : Text :=
  dump message ++ frameEnd

/-- The frames that `Plugin._initialize_tcp_stream` writes. -/
def initializeTcpStream (dump : InitializeMessage δ → Text) (registration : Registration δ) :
    List Text :=
  (initializeMessages registration).map (frame dump)

/-- These chunks carry the file: decoded and joined they are its bytes, and the last one of them
is marked. -/
structure Carries (file : PluginAsset) (chunks : List AssetChunk) : Prop where
  /-- Every chunk has the name of the file. -/
  named : ∀ chunk ∈ chunks, chunk.filename = file.filename
  /-- The chunks are the bytes, in pieces that are not empty and not too long. -/
  whole : ∃ pieces : List Bytes, chunks.map (fun chunk => b64decode chunk.data) = pieces.map some ∧
    pieces.flatten = file.data ∧ ∀ piece ∈ pieces, 1 ≤ piece.length ∧ piece.length ≤ 8192
  /-- The last chunk is marked, and no other. -/
  marked : ∃ (before : List AssetChunk) (last : AssetChunk), chunks = before ++ [last] ∧
    last.ended = true ∧ ∀ chunk ∈ before, chunk.ended = false

/-- What `model_dump_json` promises of messages: a dump is one line, and `read` reads it back. -/
structure Readable (dump : InitializeMessage δ → Text) (read : Text → Option (InitializeMessage δ))
    (messages : List (InitializeMessage δ)) : Prop where
  /-- A dump holds no line feed. -/
  oneLine : ∀ message ∈ messages, '\n' ∉ dump message
  /-- A dump is read back as its message. -/
  back : ∀ message ∈ messages, read (dump message) = some message

/-- A declaration is no chunk and not the end. -/
def IsDeclaration (message : InitializeMessage δ) : Prop :=
  message.type ≠ .assetChunk ∧ message.type ≠ .ended

/-- What is declared is a declaration. -/
theorem mem_declare {type : MessageType} {items : List δ} {message : InitializeMessage δ}
    (listed : message ∈ declare type items) : message.type = type := by
  rw [declare] at listed
  split at listed
  · exact absurd listed List.not_mem_nil
  · rw [List.mem_singleton.mp listed]

/-- Only declarations come before the chunks. -/
theorem mem_declarations {registration : Registration δ} {message : InitializeMessage δ}
    (listed : message ∈ declarations registration) : IsDeclaration message := by
  simp only [declarations, List.mem_append, List.mem_singleton] at listed
  rw [IsDeclaration]
  rcases listed with (((((rfl | tool) | model) | endpoint) | agent) | datasource) | trigger
  · exact ⟨nofun, nofun⟩
  · rw [mem_declare tool]
    decide
  · rw [mem_declare model]
    decide
  · rw [mem_declare endpoint]
    decide
  · rw [mem_declare agent]
    decide
  · rw [mem_declare datasource]
    decide
  · rw [mem_declare trigger]
    decide

/-- The chunks of a file are its batches. -/
theorem map_decode_assetChunks (file : PluginAsset) :
    (assetChunks file).map (fun chunk => b64decode chunk.data) =
      (batches 8192 file.data).map some := by
  rw [assetChunks, offsets, batches, List.map_map, List.map_map, List.map_map]
  apply List.map_congr_left
  intro index _
  exact b64decode_b64encode _

/-- The mark stands on the last chunk: the offset that it is computed from reaches the end with
the last index and not before. -/
theorem marked_assetChunks {file : PluginAsset} (nonempty : file.data ≠ []) :
    ∃ (before : List AssetChunk) (last : AssetChunk), assetChunks file = before ++ [last] ∧
      last.ended = true ∧ ∀ chunk ∈ before, chunk.ended = false := by
  have positive := List.length_pos_iff.mpr nonempty
  obtain ⟨count, counted⟩ : ∃ count, (file.data.length + 8192 - 1) / 8192 = count + 1 :=
    ⟨(file.data.length + 8192 - 1) / 8192 - 1, by omega⟩
  refine ⟨((List.range count).map (· * 8192)).map (assetChunk file),
    assetChunk file (count * 8192), ?_, ?_, ?_⟩
  · rw [assetChunks, offsets, counted, List.range_succ, List.map_append, List.map_append]
    rfl
  · apply decide_eq_true
    omega
  · intro chunk listed
    obtain ⟨offset, inside, rfl⟩ := List.mem_map.mp listed
    obtain ⟨index, below, rfl⟩ := List.mem_map.mp inside
    have early := List.mem_range.mp below
    apply decide_eq_false
    omega

/-- The chunks of a file carry it. -/
theorem carries_assetChunks {file : PluginAsset} (nonempty : file.data ≠ []) :
    Carries file (assetChunks file) where
  named := by
    intro chunk listed
    obtain ⟨offset, -, rfl⟩ := List.mem_map.mp listed
    rfl
  whole := by
    refine ⟨batches 8192 file.data, map_decode_assetChunks file,
      flatten_batches (by decide) file.data, fun piece listed => ?_⟩
    obtain ⟨visible, short⟩ := mem_batches (by decide) listed
    exact ⟨List.length_pos_iff.mpr visible, short⟩
  marked := marked_assetChunks nonempty

/-- The messages can be cut from the stream and read. -/
theorem Readable.split_flatten {dump : InitializeMessage δ → Text}
    {read : Text → Option (InitializeMessage δ)} {messages : List (InitializeMessage δ)}
    (readable : Readable dump read messages) :
    Splitting.split frameEnd (messages.map (frame dump)).flatten = (messages.map dump, []) ∧
      (messages.map dump).mapM read = some messages := by
  constructor
  · have clean : ∀ line ∈ messages.map dump, '\n' ∉ line := by
      intro line listed
      obtain ⟨message, inside, rfl⟩ := List.mem_map.mp listed
      exact readable.oneLine message inside
    have frames : messages.map (frame dump) = (messages.map dump).map (· ++ frameEnd) := by
      rw [List.map_map]
      rfl
    rw [frames]
    exact Splitting.split_terminated clean
  · have back := readable.back
    clear readable
    induction messages with
    | nil => rfl
    | cons message rest ih =>
      obtain ⟨here, later⟩ := List.forall_mem_cons.mp back
      rw [List.map_cons, List.mapM_cons, here, ih later]
      rfl

/-- After the declarations and before the end, the frames carry the files, one group of chunks
for each in order. A frame is the dump of its message and two line feeds, so that the messages
can be read from the stream when their dumps can be read. -/
theorem initializeTcpStream_carries (dump : InitializeMessage δ → Text)
    (registration : Registration δ)
    (nonempty : ∀ file ∈ registration.files, file.data ≠ []) :
    ∃ (declared : List (InitializeMessage δ)) (groups : List (List AssetChunk)),
      initializeMessages registration =
          declared ++ groups.flatten.map assetMessage ++ [endMessage] ∧
        initializeTcpStream dump registration =
          (declared ++ groups.flatten.map assetMessage ++ [endMessage]).map
            (fun message => dump message ++ ['\n', '\n']) ∧
        (∀ message ∈ declared, IsDeclaration message) ∧
        List.Forall₂ Carries registration.files groups ∧
        ∀ read, Readable dump read (initializeMessages registration) →
          ∃ dumps, Splitting.split ['\n', '\n'] (initializeTcpStream dump registration).flatten =
              (dumps, []) ∧
            dumps.mapM read =
              some (declared ++ groups.flatten.map assetMessage ++ [endMessage]) := by
  have messages : initializeMessages registration =
      declarations registration ++
        (registration.files.map assetChunks).flatten.map assetMessage ++ [endMessage] := by
    rw [initializeMessages, List.map_flatten, List.map_map, List.flatMap_def]
    rfl
  refine ⟨declarations registration, registration.files.map assetChunks, messages, ?_,
    fun message listed => mem_declarations listed, ?_, ?_⟩
  · rw [initializeTcpStream, messages]
    rfl
  · rw [List.forall₂_map_right_iff]
    apply List.forall₂_same.mpr
    intro file listed
    exact carries_assetChunks (nonempty file listed)
  · intro read readable
    rw [← messages]
    exact ⟨_, readable.split_flatten⟩

section Json

/-- What follows the last quotation mark of the dump of a chunk. -/
def chunkEnd : Bool → Text
  | true => ":true\x7d\x7d".toList
  | false => ":false\x7d\x7d".toList

/-- The parts of a dump between its quotation marks, and the part behind the last one. The names
of the files need no escapes here, and the configurations are `{}`. -/
def dumpParts (message : InitializeMessage Unit) : List Text × Text :=
  let start := ["\x7b".toList, "type".toList, ":".toList, message.type.value, ",".toList,
    "data".toList]
  match message.data with
  | .manifest _ => (start, ":\x7b\x7d\x7d".toList)
  | .configurations items =>
    (start, ":[".toList ++ [','].intercalate (items.map fun _ => "\x7b\x7d".toList) ++
      "]\x7d".toList)
  | .chunk chunk =>
    (start ++ [":\x7b".toList, "filename".toList, ":".toList, chunk.filename, ",".toList,
      "data".toList, ":".toList, chunk.data, ",".toList, "end".toList],
      chunkEnd chunk.ended)
  | .empty => (start, ":\x7b\x7d\x7d".toList)

/-- `model_dump_json` of a message. -/
def modelDumpJson (message : InitializeMessage Unit) : Text :=
  ((dumpParts message).1.map (· ++ ['"'])).flatten ++ (dumpParts message).2

example : modelDumpJson (assetMessage ⟨['a'], "Bw==".toList, true⟩) =
    "\x7b\"type\":\"asset_chunk\",\"data\":\x7b\"filename\":\"a\",\"data\":\"Bw==\",".toList ++
      "\"end\":true\x7d\x7d".toList := by decide

/-- How a daemon may read the messages of a plugin that declares its manifest and assets only. -/
def readMessage (text : Text) : Option (InitializeMessage Unit) :=
  match Splitting.pieces ['"'] text with
  | [_, _, _, type, _, _, _] =>
    if type = MessageType.ended.value then some endMessage
    else some ⟨.manifestDeclaration, .manifest ()⟩
  | [_, _, _, _, _, _, _, _, _, filename, _, _, _, data, _, _, last] =>
    some (assetMessage ⟨filename, data, decide (last = chunkEnd true)⟩)
  | _ => none

/-- An encoding needs no escapes. -/
theorem b64encode_unescaped (data : Bytes) : '"' ∉ b64encode data ∧ '\n' ∉ b64encode data := by
  have letters : ∀ value < 64, b64Char value ≠ '"' ∧ b64Char value ≠ '\n' := by decide
  constructor
  · intro listed
    rcases mem_b64encode listed with padding | ⟨value, bound, letter⟩
    · exact absurd padding (by decide)
    · exact (letters value bound).1 letter.symm
  · intro listed
    rcases mem_b64encode listed with padding | ⟨value, bound, letter⟩
    · exact absurd padding (by decide)
    · exact (letters value bound).2 letter.symm

/-- A dump is cut into its parts. -/
theorem pieces_modelDumpJson {message : InitializeMessage Unit}
    (clean : ∀ part ∈ (dumpParts message).1 ++ [(dumpParts message).2], '"' ∉ part) :
    Splitting.pieces ['"'] (modelDumpJson message) =
      (dumpParts message).1 ++ [(dumpParts message).2] := by
  obtain ⟨quoted, last⟩ := List.forall_mem_append.mp clean
  exact Splitting.pieces_separated quoted (last _ List.mem_cons_self)

/-- A dump whose parts are on one line is on one line. -/
theorem oneLine_modelDumpJson {message : InitializeMessage Unit}
    (clean : ∀ part ∈ (dumpParts message).1 ++ [(dumpParts message).2], '\n' ∉ part) :
    '\n' ∉ modelDumpJson message := by
  obtain ⟨quoted, last⟩ := List.forall_mem_append.mp clean
  intro listed
  rcases List.mem_append.mp listed with inside | behind
  · obtain ⟨_, found, within⟩ := List.mem_flatten.mp inside
    obtain ⟨part, partListed, rfl⟩ := List.mem_map.mp found
    rcases List.mem_append.mp within with here | mark
    · exact quoted part partListed here
    · exact absurd (List.mem_singleton.mp mark) (by decide)
  · exact last _ List.mem_cons_self behind

/-- The texts around the fields of a chunk are on one line and hold no quotation mark. -/
theorem constant_clean {mark : Char} (special : mark = '"' ∨ mark = '\n') :
    ∀ part ∈ ["\x7b".toList, "type".toList, ":".toList, MessageType.assetChunk.value, ",".toList,
      "data".toList, ":\x7b".toList, "filename".toList, "end".toList, chunkEnd true,
      chunkEnd false], mark ∉ part := by
  simp only [List.forall_mem_cons]
  rcases special with rfl | rfl
  · exact ⟨by decide, by decide, by decide, by decide, by decide, by decide, by decide,
      by decide, by decide, by decide, by decide, List.forall_mem_nil _⟩
  · exact ⟨by decide, by decide, by decide, by decide, by decide, by decide, by decide,
      by decide, by decide, by decide, by decide, List.forall_mem_nil _⟩

/-- The parts of the dump of a chunk hold no mark that its name and its bytes do not hold. -/
theorem dumpParts_chunk {chunk : AssetChunk} {mark : Char} (special : mark = '"' ∨ mark = '\n')
    (name : mark ∉ chunk.filename) (data : mark ∉ chunk.data) :
    ∀ part ∈ (dumpParts (assetMessage chunk)).1 ++ [(dumpParts (assetMessage chunk)).2],
      mark ∉ part := by
  have constant := constant_clean special
  simp only [List.forall_mem_cons] at constant
  obtain ⟨first, type, colon, value, comma, dataKey, inner, nameKey, endKey, yes, no, -⟩ := constant
  have last : mark ∉ chunkEnd chunk.ended := by
    cases chunk.ended
    · exact no
    · exact yes
  simp only [assetMessage, dumpParts, List.cons_append, List.nil_append, List.forall_mem_cons]
  exact ⟨first, type, colon, value, comma, dataKey, inner, nameKey, colon, name, comma, dataKey,
    colon, data, comma, endKey, last, List.forall_mem_nil _⟩

/-- A chunk is read back. -/
theorem readMessage_chunk {chunk : AssetChunk} (name : '"' ∉ chunk.filename)
    (data : '"' ∉ chunk.data) :
    readMessage (modelDumpJson (assetMessage chunk)) = some (assetMessage chunk) := by
  rw [readMessage, pieces_modelDumpJson (dumpParts_chunk (Or.inl rfl) name data)]
  obtain ⟨filename, data, ended⟩ := chunk
  cases ended <;> rfl

/-- A plugin that declares its manifest and assets whose names need no escapes. -/
theorem readable_assets {files : List PluginAsset}
    (names : ∀ file ∈ files, '"' ∉ file.filename ∧ '\n' ∉ file.filename) :
    Readable modelDumpJson readMessage
      (initializeMessages { configuration := (), files := files }) := by
  have every : ∀ message ∈ initializeMessages { configuration := (), files := files },
      '\n' ∉ modelDumpJson message ∧ readMessage (modelDumpJson message) = some message := by
    simp only [initializeMessages, List.forall_mem_append]
    refine ⟨⟨?_, ?_⟩, ?_⟩
    · show ∀ message ∈ [(⟨.manifestDeclaration, .manifest ()⟩ : InitializeMessage Unit)],
        '\n' ∉ modelDumpJson message ∧ readMessage (modelDumpJson message) = some message
      decide
    · intro message listed
      obtain ⟨file, inside, chunks⟩ := List.mem_flatMap.mp listed
      obtain ⟨chunk, chunkListed, rfl⟩ := List.mem_map.mp chunks
      obtain ⟨offset, -, rfl⟩ := List.mem_map.mp chunkListed
      have clean := b64encode_unescaped ((file.data.drop offset).take 8192)
      exact ⟨oneLine_modelDumpJson (dumpParts_chunk (Or.inr rfl) (names file inside).2 clean.2),
        readMessage_chunk (names file inside).1 clean.1⟩
    · decide
  exact ⟨fun message listed => (every message listed).1,
    fun message listed => (every message listed).2⟩

end Json

/-- A file whose length is a multiple of the size of a chunk, and one of a single byte. -/
def twoFiles : List PluginAsset := [⟨['a'], List.replicate 16384 7⟩, ⟨['b'], [0]⟩]

/-- The two files are carried, and read from the stream. -/
theorem initializeTcpStream_carries_multiple :
    ∃ (declared : List (InitializeMessage Unit)) (groups : List (List AssetChunk)),
      (∀ message ∈ declared, IsDeclaration message) ∧ List.Forall₂ Carries twoFiles groups ∧
      ∃ dumps, Splitting.split ['\n', '\n']
          (initializeTcpStream modelDumpJson
            { configuration := (), files := twoFiles }).flatten = (dumps, []) ∧
        dumps.mapM readMessage =
          some (declared ++ groups.flatten.map assetMessage ++ [endMessage]) := by
  have long : List.replicate 16384 (7 : UInt8) ≠ [] := by
    rw [Ne, List.replicate_eq_nil_iff]
    decide
  obtain ⟨declared, groups, -, -, declarations, carried, readBack⟩ :=
    initializeTcpStream_carries modelDumpJson { configuration := (), files := twoFiles }
      (List.forall_mem_cons.mpr ⟨long, List.forall_mem_cons.mpr
        ⟨List.cons_ne_nil _ _, List.forall_mem_nil _⟩⟩)
  have names : ∀ file ∈ twoFiles, '"' ∉ file.filename ∧ '\n' ∉ file.filename :=
    List.forall_mem_cons.mpr ⟨by decide, List.forall_mem_cons.mpr
      ⟨by decide, List.forall_mem_nil _⟩⟩
  exact ⟨declared, groups, declarations, carried, readBack readMessage (readable_assets names)⟩

end DifyPlugin.Initialization
