import DifyPlugin.Library.Generator
import DifyPlugin.Library.Transducer
import DifyPlugin.Entities.Llm

/-!
# Code-block filtering of a stream

Structured output asks the model for a fenced code block and strips the fence from the stream.
Each processor is a character transducer whose state outlives the chunk it was left in; a
delivered chunk has its content cleared, and the filtered text follows in a chunk of its own.
-/

namespace DifyPlugin.CodeBlock

open Transducer

/-- `CODE_FENCE_BACKTICK_COUNT`. -/
def codeFenceBacktickCount : Nat := 3

/-- The character a fence is made of. -/
def backtick : Char := Char.ofNat 0x60

/-- The states of `_code_block_mode_stream_processor`. -/
inductive NormalState where
  | normal
  | inBackticks
  | skipContent
  deriving DecidableEq

/-- One character of `_code_block_mode_stream_processor`: state, backtick count, new piece. -/
def normalStep : NormalState × Nat → Char → (NormalState × Nat) × Text
  | (.normal, backtickCount), char =>
    if char = backtick then ((.inBackticks, 1), []) else ((.normal, backtickCount), [char])
  | (.inBackticks, backtickCount), char =>
    if char = backtick then
      if backtickCount + 1 = codeFenceBacktickCount then ((.skipContent, 0), [])
      else ((.inBackticks, backtickCount + 1), [])
    else ((.normal, 0), List.replicate backtickCount backtick ++ [char])
  | (.skipContent, backtickCount), char =>
    if Str.isSpace char then ((.normal, backtickCount), []) else ((.skipContent, backtickCount), [])

/-- The states of `_code_block_mode_stream_processor_with_backtick`. -/
inductive BlockState where
  | searchStart
  | skipLanguage
  | inCodeBlock
  | done
  deriving DecidableEq

/-- The loop over the characters of one chunk in
`_code_block_mode_stream_processor_with_backtick`, which it leaves when the block ends. -/
def scanBlock : BlockState × Nat → Text → Text → (BlockState × Nat) × Text
  | state, newPiece, [] => (state, newPiece)
  | (.searchStart, backtickCount), newPiece, char :: rest =>
    if char = backtick then
      if backtickCount + 1 = codeFenceBacktickCount then scanBlock (.skipLanguage, 0) newPiece rest
      else scanBlock (.searchStart, backtickCount + 1) newPiece rest
    else scanBlock (.searchStart, 0) newPiece rest
  | (.skipLanguage, backtickCount), newPiece, char :: rest =>
    if char = '\n' then scanBlock (.inCodeBlock, backtickCount) newPiece rest
    else scanBlock (.skipLanguage, backtickCount) newPiece rest
  | (.inCodeBlock, backtickCount), newPiece, char :: rest =>
    if char = backtick then
      if backtickCount + 1 = codeFenceBacktickCount then ((.done, backtickCount + 1), newPiece)
      else scanBlock (.inCodeBlock, backtickCount + 1) newPiece rest
    else
      -- Counted backticks were a false start and belong to the content.
      scanBlock (.inCodeBlock, 0) (newPiece ++ List.replicate backtickCount backtick ++ [char]) rest
  | (.done, backtickCount), newPiece, _ :: _ => ((.done, backtickCount), newPiece)

/-- The chunk as it is delivered: `chunk.delta.message.content = ""` when it has content. -/
def clearContent (chunk : LLMResultChunk) : LLMResultChunk :=
  if chunk.text = [] then chunk
  else
    { chunk with
      delta := { chunk.delta with message := { chunk.delta.message with content := some [] } } }

/-- The chunk that carries a filtered piece. -/
def pieceChunk (model : Text) (newPiece : Text) : LLMResultChunk :=
  { model, delta := { index := 0, message := { content := some newPiece } } }

/-- `if new_piece: yield LLMResultChunk(...)`. -/
def yieldPiece (model : Text) (newPiece : Text) : List LLMResultChunk :=
  if newPiece = [] then [] else [pieceChunk model newPiece]

/-- The loop over the chunks that both processors share: `scan` filters the content of one
chunk. -/
def processChunks {σ : Type} (scan : σ → Text → σ × Text) (model : Text) :
    σ → List LLMResultChunk → List LLMResultChunk
  | _, [] => []
  | state, chunk :: rest =>
    if chunk.text = [] then clearContent chunk :: processChunks scan model state rest
    else
      clearContent chunk :: yieldPiece model (scan state chunk.text).2 ++
        processChunks scan model (scan state chunk.text).1 rest

/-- `_code_block_mode_stream_processor`. -/
def codeBlockModeStreamProcessor {ε : Type} (model : Text) (input : Generated LLMResultChunk ε) :
    Generated LLMResultChunk ε :=
  ⟨processChunks (run normalStep) model (.normal, 0) input.yielded, input.raised⟩

/-- One chunk of `_code_block_mode_stream_processor_with_backtick`; after the block every
content is skipped. -/
def scanContent (state : BlockState × Nat) (content : Text) : (BlockState × Nat) × Text :=
  if state.1 = .done then (state, []) else scanBlock state [] content

/-- `_code_block_mode_stream_processor_with_backtick`. -/
def codeBlockModeStreamProcessorWithBacktick {ε : Type} (model : Text)
    (input : Generated LLMResultChunk ε) : Generated LLMResultChunk ε :=
  ⟨processChunks scanContent model (.searchStart, 0) input.yielded, input.raised⟩

/-- What `_code_block_mode_wrapper` makes of the stream that `_invoke` returned; `none` when
taking its first chunk raises. -/
def codeBlockModeWrapper {ε : Type} (model : Text) (response : Generated LLMResultChunk ε) :
    Option (Generated LLMResultChunk ε) :=
  match response.yielded with
  | [] => none
  | firstChunk :: rest =>
    let newGenerator := Generated.yield firstChunk ⟨rest, response.raised⟩
    let processedResponse :=
      if firstChunk.text.head? = some backtick then
        codeBlockModeStreamProcessorWithBacktick model newGenerator
      else codeBlockModeStreamProcessor model newGenerator
    -- `process_response` yields the first chunk by itself; `next(result)` takes that one away.
    let result := Generated.yield firstChunk processedResponse
    some ⟨result.yielded.tail, result.raised⟩

/-- One character of `_code_block_mode_stream_processor_with_backtick`, as a transducer that
stays in its last state. -/
def blockStep : BlockState × Nat → Char → (BlockState × Nat) × Text
  | (.searchStart, backtickCount), char =>
    if char = backtick then
      if backtickCount + 1 = codeFenceBacktickCount then ((.skipLanguage, 0), [])
      else ((.searchStart, backtickCount + 1), [])
    else ((.searchStart, 0), [])
  | (.skipLanguage, backtickCount), char =>
    if char = '\n' then ((.inCodeBlock, backtickCount), [])
    else ((.skipLanguage, backtickCount), [])
  | (.inCodeBlock, backtickCount), char =>
    if char = backtick then
      if backtickCount + 1 = codeFenceBacktickCount then ((.done, backtickCount + 1), [])
      else ((.inCodeBlock, backtickCount + 1), [])
    else ((.inCodeBlock, 0), List.replicate backtickCount backtick ++ [char])
  | (.done, backtickCount), _ => ((.done, backtickCount), [])

/-- After the block the transducer stands still. -/
theorem run_done (backtickCount : Nat) (content : Text) :
    run blockStep (.done, backtickCount) content = ((.done, backtickCount), []) :=
  run_idle (fun _ => rfl) content

/-- Leaving the loop early reads the rest of the chunk in the last state. -/
theorem scanBlock_eq_run (state : BlockState × Nat) (newPiece content : Text) :
    scanBlock state newPiece content =
      ((run blockStep state content).1, newPiece ++ (run blockStep state content).2) := by
  fun_induction scanBlock state newPiece content with
  | case1 => simp [run]
  | case2 backtickCount newPiece rest fence ih => simp [run, blockStep, fence, ih]
  | case3 backtickCount newPiece rest noFence ih => simp [run, blockStep, noFence, ih]
  | case4 backtickCount newPiece char rest other ih => simp [run, blockStep, other, ih]
  | case5 backtickCount newPiece rest ih => simp [run, blockStep, ih]
  | case6 backtickCount newPiece char rest other ih => simp [run, blockStep, other, ih]
  | case7 backtickCount newPiece rest fence => simp [run, blockStep, fence, run_done]
  | case8 backtickCount newPiece rest noFence ih => simp [run, blockStep, noFence, ih]
  | case9 backtickCount newPiece char rest other ih =>
    rw [ih]
    simp [run, blockStep, other]
  | case10 backtickCount newPiece char rest => simp [run_done]

/-- One chunk of the second processor is a run of its transducer. -/
theorem scanContent_eq_run (state : BlockState × Nat) (content : Text) :
    scanContent state content = run blockStep state content := by
  obtain ⟨block, backtickCount⟩ := state
  by_cases finished : block = .done
  · subst finished
    rw [scanContent, if_pos rfl, run_done]
  · rw [scanContent, if_neg finished, scanBlock_eq_run]
    simp

/-- A delivered chunk has no content left. -/
theorem clearContent_text (chunk : LLMResultChunk) : (clearContent chunk).text = [] := by
  rw [clearContent]
  split
  · assumption
  · rfl

/-- Clearing changes nothing but the content. -/
theorem clearContent_keeps (chunk : LLMResultChunk) :
    (clearContent chunk).model = chunk.model ∧
      (clearContent chunk).systemFingerprint = chunk.systemFingerprint ∧
      (clearContent chunk).delta.index = chunk.delta.index ∧
      (clearContent chunk).delta.usage = chunk.delta.usage ∧
      (clearContent chunk).delta.finishReason = chunk.delta.finishReason ∧
      (clearContent chunk).delta.message.toolCalls = chunk.delta.message.toolCalls := by
  rw [clearContent]
  split <;> simp

/-- A filtered piece carries its text. -/
theorem contents_yieldPiece (model newPiece : Text) :
    contents (yieldPiece model newPiece) = newPiece := by
  rw [yieldPiece]
  split
  · rename_i empty
    rw [empty]
    rfl
  · simp [contents, LLMResultChunk.text, pieceChunk]

/-- The filtered contents are the output of the transducer on the joined contents. -/
theorem contents_processChunks {σ : Type} (step : σ → Char → σ × Text) (model : Text)
    (state : σ) (chunks : List LLMResultChunk) :
    contents (processChunks (run step) model state chunks) =
      (run step state (contents chunks)).2 := by
  induction chunks generalizing state with
  | nil => rfl
  | cons chunk rest ih =>
    rw [processChunks]
    split
    · rename_i empty
      simp [clearContent_text, ih, empty]
    · simp [clearContent_text, contents_yieldPiece, ih, run_append]

/-- Every input chunk is delivered once and in order, cleared, with at most one piece after it
that holds filtered text and nothing else. -/
def Delivers (model : Text) (input output : List LLMResultChunk) : Prop :=
  ∃ inserted : List Text, inserted.length = input.length ∧
    output = (input.zip inserted).flatMap fun (chunk, newPiece) =>
      clearContent chunk :: yieldPiece model newPiece

/-- The shared loop delivers every chunk. -/
theorem processChunks_delivers {σ : Type} (scan : σ → Text → σ × Text) (model : Text) (state : σ)
    (chunks : List LLMResultChunk) :
    Delivers model chunks (processChunks scan model state chunks) := by
  induction chunks generalizing state with
  | nil => exact ⟨[], rfl, rfl⟩
  | cons chunk rest ih =>
    rw [processChunks]
    split
    · obtain ⟨inserted, length, shape⟩ := ih state
      exact ⟨[] :: inserted, by simp [length], by simp [shape, yieldPiece]⟩
    · obtain ⟨inserted, length, shape⟩ := ih (scan state chunk.text).1
      exact ⟨(scan state chunk.text).2 :: inserted, by simp [length], by simp [shape]⟩

variable {ε : Type}

/-- The filtered text of the first processor. -/
theorem contents_codeBlockModeStreamProcessor (model : Text) (input : Generated LLMResultChunk ε) :
    contents (codeBlockModeStreamProcessor model input).yielded =
      (run normalStep (.normal, 0) (contents input.yielded)).2 :=
  contents_processChunks normalStep model _ _

/-- The filtered text of the second processor. -/
theorem contents_codeBlockModeStreamProcessorWithBacktick (model : Text)
    (input : Generated LLMResultChunk ε) :
    contents (codeBlockModeStreamProcessorWithBacktick model input).yielded =
      (run blockStep (.searchStart, 0) (contents input.yielded)).2 := by
  rw [codeBlockModeStreamProcessorWithBacktick,
    funext fun state => funext fun content => scanContent_eq_run state content]
  exact contents_processChunks blockStep model _ _

/-- The wrapper hands out what its processor makes of the whole stream. -/
theorem codeBlockModeWrapper_eq (model : Text) (response : Generated LLMResultChunk ε)
    (started : response.yielded ≠ []) :
    codeBlockModeWrapper model response =
      some (if (response.yielded.head started).text.head? = some backtick then
        codeBlockModeStreamProcessorWithBacktick model response
      else codeBlockModeStreamProcessor model response) := by
  obtain ⟨yielded, raised⟩ := response
  cases yielded with
  | nil => exact absurd rfl started
  | cons firstChunk rest => rfl

/-- The first character of a stream is that of its first chunk, when that has content. -/
theorem head_contents {chunks : List LLMResultChunk} (started : chunks ≠ [])
    (visible : (chunks.head started).text ≠ []) :
    (contents chunks).head? = (chunks.head started).text.head? := by
  cases chunks with
  | nil => exact absurd rfl started
  | cons chunk rest =>
    simp only [List.head_cons] at visible ⊢
    rw [contents_cons, List.head?_append_of_ne_nil _ visible]

/-- The wrapper's filtered text depends on the joined contents alone when the first chunk has
content: that chunk then shows the character the processor is chosen by. -/
theorem contents_codeBlockModeWrapper (model : Text) (response : Generated LLMResultChunk ε)
    (started : response.yielded ≠ []) (visible : (response.yielded.head started).text ≠ []) :
    (codeBlockModeWrapper model response).map (fun result => contents result.yielded) =
      some (if (contents response.yielded).head? = some backtick then
        (run blockStep (.searchStart, 0) (contents response.yielded)).2
      else (run normalStep (.normal, 0) (contents response.yielded)).2) := by
  rw [codeBlockModeWrapper_eq model response started, head_contents started visible]
  split
  · simp only [Option.map_some, contents_codeBlockModeStreamProcessorWithBacktick]
  · simp only [Option.map_some, contents_codeBlockModeStreamProcessor]

/-- Filtering does not depend on how the text was cut into chunks, and delivers every chunk
once, in order, with nothing but its content cleared. -/
theorem codeBlock_chunking (model : Text) :
    (∀ left right : Generated LLMResultChunk ε, contents left.yielded = contents right.yielded →
      contents (codeBlockModeStreamProcessor model left).yielded =
          contents (codeBlockModeStreamProcessor model right).yielded ∧
        contents (codeBlockModeStreamProcessorWithBacktick model left).yielded =
          contents (codeBlockModeStreamProcessorWithBacktick model right).yielded) ∧
    (∀ (left right : Generated LLMResultChunk ε) (startedLeft : left.yielded ≠ [])
        (startedRight : right.yielded ≠ []),
      (left.yielded.head startedLeft).text ≠ [] → (right.yielded.head startedRight).text ≠ [] →
      contents left.yielded = contents right.yielded →
      (codeBlockModeWrapper model left).map (fun result => contents result.yielded) =
        (codeBlockModeWrapper model right).map fun result => contents result.yielded) ∧
    (∀ input : Generated LLMResultChunk ε,
      Delivers model input.yielded (codeBlockModeStreamProcessor model input).yielded ∧
        Delivers model input.yielded
          (codeBlockModeStreamProcessorWithBacktick model input).yielded) ∧
    (∀ response : Generated LLMResultChunk ε, response.yielded ≠ [] →
      ∃ result, codeBlockModeWrapper model response = some result ∧
        Delivers model response.yielded result.yielded) ∧
    (∀ chunk : LLMResultChunk, (clearContent chunk).text = [] ∧
      (clearContent chunk).systemFingerprint = chunk.systemFingerprint ∧
      (clearContent chunk).delta.usage = chunk.delta.usage ∧
      (clearContent chunk).delta.finishReason = chunk.delta.finishReason ∧
      (clearContent chunk).delta.message.toolCalls = chunk.delta.message.toolCalls) := by
  refine ⟨?_, ?_, ?_, ?_, ?_⟩
  · intro left right same
    simp only [contents_codeBlockModeStreamProcessor,
      contents_codeBlockModeStreamProcessorWithBacktick, same, and_self]
  · intro left right startedLeft startedRight visibleLeft visibleRight same
    rw [contents_codeBlockModeWrapper model left startedLeft visibleLeft,
      contents_codeBlockModeWrapper model right startedRight visibleRight, same]
  · exact fun input =>
      ⟨processChunks_delivers _ model _ _, processChunks_delivers _ model _ _⟩
  · intro response started
    rw [codeBlockModeWrapper_eq model response started]
    refine ⟨_, rfl, ?_⟩
    split
    · exact processChunks_delivers _ model _ _
    · exact processChunks_delivers _ model _ _
  · intro chunk
    obtain ⟨-, fingerprint, -, usage, finishReason, toolCalls⟩ := clearContent_keeps chunk
    exact ⟨clearContent_text chunk, fingerprint, usage, finishReason, toolCalls⟩

/-- A chunk that only carries text, for the examples below. -/
def textChunk (content : String) : LLMResultChunk :=
  { model := [], delta := { index := 0, message := { content := some content.toList } } }

/-- A fenced object in one chunk and in four, cut inside both fences. -/
theorem codeBlock_chunking_fence :
    (codeBlockModeWrapper [] (⟨[textChunk "```json\n\x7b\x7d```"], none⟩ : Generated _ Empty)).map
        (fun result => contents result.yielded) =
      (codeBlockModeWrapper [] (⟨[textChunk "``", textChunk "`json\n", textChunk "\x7b\x7d`",
        textChunk "``"], none⟩ : Generated _ Empty)).map fun result => contents result.yielded :=
  (codeBlock_chunking []).2.1 _ _ (by decide) (by decide) (by decide) (by decide) (by decide)

example : (codeBlockModeWrapper [] (⟨[textChunk "``", textChunk "`json\n", textChunk "\x7b\x7d`",
    textChunk "``"], none⟩ : Generated _ Empty)).map (fun result => contents result.yielded) =
      some "\x7b\x7d".toList := by decide

end DifyPlugin.CodeBlock
