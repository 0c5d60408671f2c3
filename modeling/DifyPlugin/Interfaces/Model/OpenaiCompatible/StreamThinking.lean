import DifyPlugin.Interfaces.Model.OpenaiCompatible.StreamResponse

/-!
# Thinking blocks of a stream

The reference text of a stream wraps every run of reasoning in one block and leaves everything
else outside. `wrapped` walks over the parts of the stream with the flag that the handler keeps,
and `wrapped_blocks` shows that this makes one block of each run.
-/

namespace DifyPlugin.OpenaiCompatible

variable {context : StreamContext}

/-- What a delta says: reasoning, and what ends a run of it. -/
inductive Part where
  /-- Reasoning that is not empty. -/
  | reasoning (text : Text)
  /-- The content, perhaps empty, of a delta with content, tool calls or a function call. -/
  | visible (content : Text)
  deriving DecidableEq

/-- The text of a part with reasoning. -/
def Part.reasoningText : Part → Option Text
  | .reasoning text => some text
  | .visible _ => none

/-- The text of a visible part. -/
def Part.contentText : Part → Option Text
  | .reasoning _ => none
  | .visible content => some content

/-- The text of `content`. -/
def Delta.contentText (delta : Delta) : Text := (truthy delta.content).getD []

/-- The reasoning of a delta comes before the rest of it. -/
def Delta.parts (delta : Delta) : List Part :=
  (if delta.reasoningText = [] then [] else [.reasoning delta.reasoningText]) ++
    if delta.hasVisiblePayload then [.visible delta.contentText] else []

/-- The deltas of a stream. -/
def streamedDeltas (chunks : List StreamChunk) : List Delta :=
  chunks.filterMap fun chunk => chunk.choices.head?.bind Choice.delta

/-- A run of reasoning, or something outside of any. -/
inductive Block where
  /-- The texts of one run of reasoning. -/
  | thinking (texts : List Text)
  /-- A visible content. -/
  | visible (content : Text)

/-- Gather the runs of reasoning. -/
def blocks : List Part → List Block
  | [] => []
  | .visible content :: rest => .visible content :: blocks rest
  | .reasoning text :: rest =>
    match blocks rest with
    | .thinking texts :: more => .thinking (text :: texts) :: more
    | others => .thinking [text] :: others

/-- An inserted tag, or a text of the stream. -/
inductive Piece where
  /-- The tag before a block. -/
  | openTag
  /-- The tag behind a block. -/
  | closeTag
  /-- Reasoning. -/
  | reasoning (text : Text)
  /-- Visible content. -/
  | content (text : Text)
  deriving DecidableEq

/-- What a piece writes. -/
def Piece.text : Piece → Text
  | .openTag => OpenaiCompatible.openTag
  | .closeTag => OpenaiCompatible.closeTag
  | .reasoning text => text
  | .content text => text

/-- The text of a piece of reasoning. -/
def Piece.reasoningText : Piece → Option Text
  | .reasoning text => some text
  | _ => none

/-- The text of a piece of content. -/
def Piece.contentText : Piece → Option Text
  | .content text => some text
  | _ => none

/-- A content that is not empty. -/
def contentPieces (content : Text) : List Piece := if content = [] then [] else [.content content]

/-- One pair of tags around a run of reasoning. -/
def Block.pieces : Block → List Piece
  | .thinking texts => .openTag :: texts.map .reasoning ++ [.closeTag]
  | .visible content => contentPieces content

/-- The pieces of the reference text. -/
def referencePieces (deltas : List Delta) : List Piece :=
  (blocks (deltas.flatMap Delta.parts)).flatMap Block.pieces

/-- The text of pieces. -/
def written (pieces : List Piece) : Text := pieces.flatMap Piece.text

/-- Tags alternate, starting with an open one outside and ending outside; reasoning is inside,
content outside. -/
def wellNested : Bool → List Piece → Bool
  | inside, [] => !inside
  | false, .openTag :: rest => wellNested true rest
  | true, .closeTag :: rest => wellNested false rest
  | true, .reasoning _ :: rest => wellNested true rest
  | false, .content _ :: rest => wellNested false rest
  | _, _ => false

/-- A delta that adds nothing. -/
def Delta.isHeartbeat (delta : Delta) : Bool := delta.noNewReasoning && !delta.hasVisiblePayload

/-- The pieces of a stream that is read with the handler's flag. -/
def wrapped : Bool → List Part → List Piece
  | isReasoning, [] => if isReasoning then [.closeTag] else []
  | isReasoning, .reasoning text :: rest =>
    (if isReasoning then [] else [.openTag]) ++ .reasoning text :: wrapped true rest
  | isReasoning, .visible content :: rest =>
    (if isReasoning then [.closeTag] else []) ++ contentPieces content ++ wrapped false rest

@[simp] theorem written_nil : written [] = [] := rfl

@[simp] theorem written_cons (piece : Piece) (rest : List Piece) :
    written (piece :: rest) = piece.text ++ written rest := rfl

@[simp] theorem written_append (left right : List Piece) :
    written (left ++ right) = written left ++ written right := by
  simp [written]

@[simp] theorem written_contentPieces (content : Text) :
    written (contentPieces content) = content := by
  rw [contentPieces]
  split
  · rename_i empty
    rw [empty]
    rfl
  · simp [Piece.text]

section Blocks

/-- Reading with the flag down makes one block of each run; with the flag up, the first run goes
on with the block that is open. -/
theorem wrapped_eq (parts : List Part) :
    wrapped false parts = (blocks parts).flatMap Block.pieces ∧
      Piece.openTag :: wrapped true parts =
        match blocks parts with
        | .thinking texts :: more => (Block.thinking texts :: more).flatMap Block.pieces
        | others => .openTag :: .closeTag :: others.flatMap Block.pieces := by
  induction parts with
  | nil => exact ⟨rfl, rfl⟩
  | cons part rest ih =>
    obtain ⟨closed, opened⟩ := ih
    cases part with
    | visible content => simp [wrapped, blocks, closed, Block.pieces]
    | reasoning text =>
      cases runs : blocks rest with
      | nil =>
        rw [runs] at opened
        have tail : wrapped true rest = [.closeTag] := by simpa using opened
        simp [wrapped, blocks, runs, tail, Block.pieces]
      | cons first more =>
        cases first with
        | thinking texts =>
          rw [runs] at opened
          have tail : wrapped true rest =
              texts.map Piece.reasoning ++ Piece.closeTag :: more.flatMap Block.pieces := by
            simpa [Block.pieces] using opened
          simp [wrapped, blocks, runs, tail, Block.pieces]
        | visible content =>
          rw [runs] at opened
          have tail : wrapped true rest =
              .closeTag :: (Block.visible content :: more).flatMap Block.pieces := by
            simpa using opened
          simp [wrapped, blocks, runs, tail, Block.pieces]

/-- The pieces of a stream are those of its blocks. -/
theorem wrapped_blocks (parts : List Part) :
    wrapped false parts = (blocks parts).flatMap Block.pieces := (wrapped_eq parts).1

/-- The walk with the flag nests well. -/
theorem wellNested_wrapped (isReasoning : Bool) (parts : List Part) :
    wellNested isReasoning (wrapped isReasoning parts) = true := by
  induction parts generalizing isReasoning with
  | nil => cases isReasoning <;> rfl
  | cons part rest ih =>
    cases part with
    | reasoning text => cases isReasoning <;> simp [wrapped, wellNested, ih]
    | visible content =>
      by_cases empty : content = [] <;> cases isReasoning <;>
        simp [wrapped, contentPieces, empty, wellNested, ih]

/-- The reasoning among the pieces of the walk is that of the parts. -/
theorem reasoning_wrapped (isReasoning : Bool) (parts : List Part) :
    (wrapped isReasoning parts).filterMap Piece.reasoningText =
      parts.filterMap Part.reasoningText := by
  induction parts generalizing isReasoning with
  | nil => cases isReasoning <;> rfl
  | cons part rest ih =>
    cases part with
    | reasoning text =>
      cases isReasoning <;>
        simp [wrapped, List.filterMap_cons, Piece.reasoningText, Part.reasoningText, ih]
    | visible content =>
      by_cases empty : content = [] <;> cases isReasoning <;>
        simp [wrapped, contentPieces, empty, List.filterMap_cons, Piece.reasoningText,
          Part.reasoningText, ih]

/-- The content among the pieces of the walk is that of the parts. -/
theorem content_wrapped (isReasoning : Bool) (parts : List Part) :
    (wrapped isReasoning parts).filterMap Piece.contentText =
      (parts.filterMap Part.contentText).filter (· ≠ []) := by
  induction parts generalizing isReasoning with
  | nil => cases isReasoning <;> rfl
  | cons part rest ih =>
    cases part with
    | reasoning text =>
      cases isReasoning <;>
        simp [wrapped, List.filterMap_cons, Piece.contentText, Part.contentText, ih]
    | visible content =>
      by_cases empty : content = [] <;> cases isReasoning <;>
        simp [wrapped, contentPieces, empty, List.filterMap_cons, Piece.contentText,
          Part.contentText, ih]

/-- A delta without visible payload has no content. -/
theorem Delta.contentText_empty {delta : Delta} (hidden : delta.hasVisiblePayload = false) :
    delta.contentText = [] := by
  simp only [hasVisiblePayload, Bool.or_eq_false_iff, Option.isSome_eq_false_iff,
    Option.isNone_iff_eq_none] at hidden
  rw [contentText, hidden.1.1]
  rfl

/-- The reasoning of a stream, in order. -/
theorem reasoning_parts (deltas : List Delta) :
    (deltas.flatMap Delta.parts).filterMap Part.reasoningText =
      (deltas.map Delta.reasoningText).filter (· ≠ []) := by
  induction deltas with
  | nil => rfl
  | cons delta rest ih =>
    rw [List.flatMap_cons, List.filterMap_append, ih, List.map_cons, Delta.parts]
    by_cases silent : delta.reasoningText = [] <;> cases delta.hasVisiblePayload <;>
      simp [silent, List.filterMap_cons, Part.reasoningText]

/-- The content of a stream, in order. -/
theorem content_parts (deltas : List Delta) :
    ((deltas.flatMap Delta.parts).filterMap Part.contentText).filter (· ≠ []) =
      (deltas.map Delta.contentText).filter (· ≠ []) := by
  induction deltas with
  | nil => rfl
  | cons delta rest ih =>
    rw [List.flatMap_cons, List.filterMap_append, List.filter_append, ih, List.map_cons,
      Delta.parts]
    cases payload : delta.hasVisiblePayload with
    | false =>
      by_cases silent : delta.reasoningText = [] <;>
        simp [silent, List.filterMap_cons, Part.contentText, Delta.contentText_empty payload]
    | true =>
      by_cases silent : delta.reasoningText = [] <;>
        by_cases empty : delta.contentText = [] <;>
          simp [silent, List.filterMap_cons, Part.contentText, empty]

/-- A delta has no new reasoning when its reasoning text is empty. -/
theorem Delta.noNewReasoning_iff (delta : Delta) :
    delta.noNewReasoning = true ↔ delta.reasoningText = [] := by
  have falsity : ∀ value : Option Text, truthy value = none ↔ value = none ∨ value = some [] := by
    intro value
    cases value with
    | none => simp [truthy]
    | some text => by_cases empty : text = [] <;> simp [truthy, empty]
  simp only [noNewReasoning, List.all_cons, List.all_nil, Bool.and_true, Bool.and_eq_true,
    Bool.or_eq_true, decide_eq_true_eq, ← falsity, reasoningText]
  cases first : truthy delta.reasoningContent with
  | some text => simp [truthy_some first]
  | none =>
    cases second : truthy delta.reasoning with
    | some text => simp [truthy_some second]
    | none => simp

/-- A heartbeat says nothing. -/
theorem Delta.parts_heartbeat {delta : Delta} (beat : delta.isHeartbeat = true) :
    delta.parts = [] := by
  simp only [isHeartbeat, Bool.and_eq_true, Bool.not_eq_true'] at beat
  rw [parts, if_pos ((noNewReasoning_iff delta).mp beat.1), beat.2]
  rfl

/-- Heartbeats can be left out. -/
theorem parts_filter (deltas : List Delta) :
    (deltas.filter fun delta => !delta.isHeartbeat).flatMap Delta.parts =
      deltas.flatMap Delta.parts := by
  induction deltas with
  | nil => rfl
  | cons delta rest ih =>
    cases beat : delta.isHeartbeat with
    | false => simp [beat, ih]
    | true => simp [beat, ih, Delta.parts_heartbeat beat]

end Blocks

/-- The condition under which reasoning and its block end in one delta. -/
theorem Delta.hasVisiblePayload_iff (delta : Delta) :
    delta.hasVisiblePayload = true ↔
      delta.contentText ≠ [] ∨ delta.toolCalls ≠ [] ∨ delta.functionCall.isSome = true := by
  cases content : truthy delta.content with
  | none => simp [hasVisiblePayload, contentText, content]
  | some text => simp [hasVisiblePayload, contentText, content, truthy_some content]

/-- What a delta writes, by its reasoning, its payload and the flag. -/
theorem deltaContent_eq (delta : Delta) (isReasoning : Bool) :
    deltaContent delta isReasoning =
      if delta.reasoningText = [] then
        if isReasoning && delta.hasVisiblePayload then (closeTag ++ delta.contentText, false)
        else (delta.contentText, isReasoning)
      else
        ((if isReasoning then [] else openTag) ++ delta.reasoningText ++
            if delta.hasVisiblePayload then closeTag ++ delta.contentText else [],
          !delta.hasVisiblePayload) := by
  rw [deltaContent, wrapThinkingByReasoningContent]
  by_cases silent : delta.reasoningText = []
  · have quiet := delta.noNewReasoning_iff.mpr silent
    cases payload : delta.hasVisiblePayload with
    | false =>
      have empty := Delta.contentText_empty payload
      have content : (truthy delta.content).getD [] = [] := empty
      cases isReasoning <;> simp [silent, quiet, empty, content]
    | true => cases isReasoning <;> simp [silent, quiet, Delta.contentText]
  · have loud : delta.noNewReasoning = false :=
      Bool.eq_false_iff.mpr fun quiet => silent (delta.noNewReasoning_iff.mp quiet)
    have same := delta.hasVisiblePayload_iff
    rw [Delta.contentText] at same ⊢
    rw [if_neg (by simp [loud]), if_pos silent, if_neg silent]
    cases payload : delta.hasVisiblePayload with
    | false =>
      rw [payload] at same
      rw [if_neg (mt same.mpr Bool.false_ne_true)]
      cases isReasoning <;> simp
    | true =>
      rw [if_pos (same.mp payload)]
      cases isReasoning <;> simp

/-- One delta writes what the walk writes for its parts. -/
theorem deltaContent_wrapped (delta : Delta) (isReasoning : Bool) (later : List Part) :
    (deltaContent delta isReasoning).1 ++
        written (wrapped (deltaContent delta isReasoning).2 later) =
      written (wrapped isReasoning (delta.parts ++ later)) := by
  rw [deltaContent_eq, Delta.parts]
  by_cases silent : delta.reasoningText = []
  · cases payload : delta.hasVisiblePayload with
    | false => simp [silent, Delta.contentText_empty payload]
    | true => cases isReasoning <;> simp [silent, wrapped, Piece.text]
  · cases payload : delta.hasVisiblePayload <;> cases isReasoning <;>
      simp [silent, wrapped, Piece.text]

/-- The walk goes on with what an event without error writes. -/
theorem eventText_wrapped {chunk : StreamChunk} (isReasoning : Bool) (later : List Part)
    (chat : ∀ choice, chunk.choices.head? = some choice → choice.delta = none →
      choice.text = none) :
    (eventText chunk isReasoning).1 ++ written (wrapped (eventText chunk isReasoning).2 later) =
      written (wrapped isReasoning ((streamedDeltas [chunk]).flatMap Delta.parts ++ later)) := by
  cases first : chunk.choices.head? with
  | none => simp [eventText, streamedDeltas, first]
  | some choice =>
    cases content : choice.delta with
    | none => simp [eventText, streamedDeltas, first, content, chat choice first content]
    | some delta => simp [eventText, streamedDeltas, first, content, deltaContent_wrapped]

/-- The loop writes the walk of its stream, up to the tag that is still open. -/
theorem consume_wrapped {state final : StreamState} {chunks : List StreamChunk}
    (chat : ∀ chunk ∈ chunks, ∀ choice, chunk.choices.head? = some choice →
      choice.delta = none → choice.text = none)
    (ended : (consume context state chunks).2 = .ok final) :
    contents (consume context state chunks).1 ++ written (wrapped final.isReasoningStarted []) =
      written (wrapped state.isReasoningStarted ((streamedDeltas chunks).flatMap Delta.parts)) := by
  induction chunks generalizing state with
  | nil =>
    obtain rfl := Except.ok.inj ended
    rfl
  | cons chunk rest ih =>
    cases handled : handleChunk context state chunk with
    | error error => simp [consume, handled] at ended
    | ok result =>
      obtain ⟨next, yielded⟩ := result
      obtain ⟨wrote, -⟩ := handleChunk_text handled
      obtain ⟨-, -, -, -, flag, -⟩ := handleChunk_ok handled
      simp only [consume, handled] at ended ⊢
      have later := ih (fun other found => chat other (by simp [found])) ended
      have event := eventText_wrapped state.isReasoningStarted
        ((streamedDeltas rest).flatMap Delta.parts) (chat chunk (by simp))
      have split : streamedDeltas (chunk :: rest) =
          streamedDeltas [chunk] ++ streamedDeltas rest := by
        rw [streamedDeltas, streamedDeltas, streamedDeltas, ← List.filterMap_append,
          List.singleton_append]
      rw [contents_append, List.append_assoc, later, flag, wrote, event, split,
        List.flatMap_append]

/-- The event carries content, tool calls or a function call. -/
def hasPayload (chunk : StreamChunk) : Prop :=
  ∃ delta ∈ streamedDeltas [chunk], delta.hasVisiblePayload = true

/-- No block is open behind a delta with content, tool calls or a function call. -/
theorem eventText_payload {chunk : StreamChunk} (isReasoning : Bool) (payload : hasPayload chunk) :
    (eventText chunk isReasoning).2 = false := by
  obtain ⟨delta, found, visible⟩ := payload
  cases first : chunk.choices.head? with
  | none => simp [streamedDeltas, first] at found
  | some choice =>
    simp only [streamedDeltas, List.filterMap_cons, first, Option.bind_some] at found
    cases content : choice.delta with
    | none => simp [content] at found
    | some inner =>
      obtain rfl : delta = inner := by simpa [content] using found
      simp only [eventText, first, content, deltaContent_eq, visible]
      by_cases silent : delta.reasoningText = [] <;> cases isReasoning <;> simp [silent]

/-- Behind the loop an open block is closed. -/
theorem contents_finishStream (context : StreamContext) (state : StreamState) :
    contents (finishStream context state) = written (wrapped state.isReasoningStarted []) := by
  have last : ∀ state, contents [finalChunk context state] = [] := fun _ => rfl
  rw [finishStream, contents_append, last, List.append_nil, closeReasoning]
  cases state.isReasoningStarted with
  | false => rfl
  | true => simp [(yieldContent_full context state closeTag).2, wrapped, Piece.text]

/-- The chunks before the last one write the reference, and the last one writes nothing: tags
alternate and every block is closed before the last chunk. All reasoning is written once and in
order inside a block, all content outside; a heartbeat makes no difference; and behind a delta
with content, tool calls or a function call the block is closed. -/
theorem handleGenerateStreamResponse_thinking (context : StreamContext)
    (source : Generated StreamChunk InvokeError)
    (chat : ∀ chunk ∈ source.yielded, ∀ choice, chunk.choices.head? = some choice →
      choice.delta = none → choice.text = none)
    (completed : (handleGenerateStreamResponse context source).raised = none) :
    contents (handleGenerateStreamResponse context source).yielded =
        written (referencePieces (streamedDeltas source.yielded)) ∧
      (∃ body last,
        (handleGenerateStreamResponse context source).yielded = body ++ [last] ∧
        last.delta.usage ≠ none ∧ contents [last] = [] ∧
        contents body = written (referencePieces (streamedDeltas source.yielded))) ∧
      wellNested false (referencePieces (streamedDeltas source.yielded)) = true ∧
      (referencePieces (streamedDeltas source.yielded)).filterMap Piece.reasoningText =
        ((streamedDeltas source.yielded).map Delta.reasoningText).filter (· ≠ []) ∧
      (referencePieces (streamedDeltas source.yielded)).filterMap Piece.contentText =
        ((streamedDeltas source.yielded).map Delta.contentText).filter (· ≠ []) ∧
      referencePieces ((streamedDeltas source.yielded).filter fun delta => !delta.isHeartbeat) =
        referencePieces (streamedDeltas source.yielded) ∧
      ∀ done chunk rest, source.yielded = done ++ [chunk] ++ rest → hasPayload chunk →
        contents (consume context .initial (done ++ [chunk])).1 =
          written (referencePieces (streamedDeltas (done ++ [chunk]))) := by
  obtain ⟨-, final, ended, yielded⟩ := handleGenerateStreamResponse_returned completed
  have pieces : ∀ deltas, referencePieces deltas = wrapped false (deltas.flatMap Delta.parts) :=
    fun deltas => (wrapped_blocks _).symm
  simp only [pieces]
  have whole : contents (handleGenerateStreamResponse context source).yielded =
      written (wrapped false ((streamedDeltas source.yielded).flatMap Delta.parts)) := by
    rw [yielded, contents_append, contents_finishStream, consume_wrapped chat ended]
    rfl
  refine ⟨whole, ?_, wellNested_wrapped _ _, ?_, ?_, ?_, ?_⟩
  · -- The chunk behind the closing tag is empty, so the tag is in one of the chunks before it.
    have shape : (handleGenerateStreamResponse context source).yielded =
        ((consume context .initial source.yielded).1 ++ (closeReasoning context final).2) ++
          [finalChunk context (closeReasoning context final).1] := by
      rw [yielded, finishStream, List.append_assoc]
    have silent : contents [finalChunk context (closeReasoning context final).1] = [] := rfl
    refine ⟨_, _, shape, by simp [finalChunk, createFinalLlmResultChunk], silent, ?_⟩
    rw [shape, contents_append, silent, List.append_nil] at whole
    exact whole
  · rw [reasoning_wrapped, reasoning_parts]
  · rw [content_wrapped, content_parts]
  · rw [parts_filter]
  · intro done chunk rest shape payload
    rw [shape] at ended chat
    obtain ⟨middle, reached, -⟩ := consume_append_ok ended
    have wrote :=
      consume_wrapped (fun other found => chat other (List.mem_append_left rest found)) reached
    obtain ⟨before, -, last⟩ := consume_append_ok reached
    have closed : middle.isReasoningStarted = false := by
      cases handled : handleChunk context before chunk with
      | error error => simp [consume, handled] at last
      | ok result =>
        obtain ⟨next, chunks⟩ := result
        simp only [consume, handled, Except.ok.injEq] at last
        obtain ⟨-, -, -, -, flag, -⟩ := handleChunk_ok handled
        rw [← last, flag, eventText_payload _ payload]
    rw [closed] at wrote
    simpa [wrapped, StreamState.initial] using wrote

/-- Reasoning, a heartbeat, more reasoning with an answer, and a last thought. -/
def thoughts : List StreamChunk :=
  [⟨none, [], [{ delta := some { reasoningContent := some "a".toList } }]⟩,
    ⟨none, [], [{ delta := some { content := some [], reasoning := some [] } }]⟩,
    ⟨none, [], [{ delta := some { reasoning := some "b".toList, content := some "c".toList } }]⟩,
    ⟨none, [], [{ delta := some { reasoningContent := some "d".toList } }]⟩]

/-- Two blocks: the heartbeat splits none, the answer and the end of the stream close one each. -/
theorem handleGenerateStreamResponse_thinking_blocks :
    (handleGenerateStreamResponse (characterContext "no_call") ⟨thoughts, none⟩).raised = none ∧
      ∃ body last,
        (handleGenerateStreamResponse (characterContext "no_call") ⟨thoughts, none⟩).yielded =
          body ++ [last] ∧
        contents body = "<think>\nab\n</think>c<think>\nd\n</think>".toList := by
  have completed : (handleGenerateStreamResponse (characterContext "no_call")
      ⟨thoughts, none⟩).raised = none := by decide
  obtain ⟨-, ⟨body, last, shape, -, -, wrote⟩, -⟩ := handleGenerateStreamResponse_thinking
    (characterContext "no_call") ⟨thoughts, none⟩ (by decide) completed
  exact ⟨completed, body, last, shape, wrote.trans (by decide)⟩

end DifyPlugin.OpenaiCompatible
