import DifyPlugin.Interfaces.Model.OpenaiCompatible.StreamResponse
import DifyPlugin.Interfaces.Model.OpenaiCompatible.ToolAssembly
import DifyPlugin.Library.Fallible

/-!
# Tool calls of a stream

The loop merges the fragments of every event into its calls, and the last chunk carries the
result: what the fragments of the whole stream amount to.
-/

namespace DifyPlugin.OpenaiCompatible

variable {context : StreamContext}

/-- `delta.tool_calls` of an event. -/
def streamedToolCalls (chunk : StreamChunk) : List ToolCallDelta :=
  match chunk.choices.head?.bind Choice.delta with
  | some delta => delta.toolCalls
  | none => []

/-- Under the calling type `tool_call` the handler reads `delta.tool_calls`. -/
theorem toolCallsOf_eq (calling : context.functionCallingType = "tool_call".toList)
    (chunk : StreamChunk) : toolCallsOf context chunk = streamedToolCalls chunk := by
  rw [toolCallsOf, streamedToolCalls]
  cases chunk.choices.head?.bind Choice.delta with
  | none => rfl
  | some delta => exact if_pos calling

/-- The loop goes on over events without errors, and merges the fragments of one after another. -/
theorem consume_tools {state : StreamState} {chunks : List StreamChunk}
    (clean : ∀ chunk ∈ chunks, chunk.error = none) {tools : ToolState}
    (merged : (chunks.map (toolCallsOf context)).foldlM (toolStep context.uuid4Hex) state.tools =
      some tools) :
    ∃ final, (consume context state chunks).2 = .ok final ∧ final.tools = tools := by
  induction chunks generalizing state with
  | nil => exact ⟨state, rfl, Option.some.inj merged⟩
  | cons chunk rest ih =>
    rw [List.map_cons, List.foldlM_cons, Option.bind_eq_bind, Option.bind_eq_some_iff] at merged
    obtain ⟨next, first, later⟩ := merged
    have handled := handleChunk_eq context state (clean chunk (by simp))
    rw [first] at handled
    have kept := (yieldContent_keeps context (eventState state chunk next)
      (eventText chunk state.isReasoningStarted).1).1
    have others : ∀ other ∈ rest, other.error = none :=
      fun other found => clean other (by simp [found])
    obtain ⟨final, ended, same⟩ := ih others (by rw [kept]; exact later)
    exact ⟨final, by simp only [consume, handled, ended], same⟩

/-- The last chunk carries the calls that the fragments of all events are merged into. -/
theorem handleGenerateStreamResponse_tools {chunks : List StreamChunk}
    (clean : ∀ chunk ∈ chunks, chunk.error = none) {tools : ToolState}
    (merged : (chunks.map (toolCallsOf context)).foldlM (toolStep context.uuid4Hex) .initial =
      some tools) :
    ∃ body final, handleGenerateStreamResponse context ⟨chunks, none⟩ = ⟨body ++ [final], none⟩ ∧
      final.delta.message.toolCalls = tools.toolsCalls := by
  obtain ⟨state, ended, same⟩ := @consume_tools context .initial chunks clean tools merged
  refine ⟨(consume context .initial chunks).1 ++ (closeReasoning context state).2,
    finalChunk context (closeReasoning context state).1, ?_, ?_⟩
  · rw [handleGenerateStreamResponse_eof ended, finishStream, List.append_assoc]
  · change (closeReasoning context state).1.tools.toolsCalls = _
    rw [(closeReasoning_keeps context state).1, same]

/-- The calls keep up with the fragments of the events. -/
theorem foldlM_tracks {uuid4Hex : Nat → Text} {deltas : List (List ToolCallDelta)}
    (once : ∀ delta ∈ deltas, (delta.map ToolCallDelta.index).Nodup)
    (separate : Separate uuid4Hex deltas.flatten) :
    ∃ final, deltas.foldlM (toolStep uuid4Hex) .initial = some final ∧
      Tracks uuid4Hex deltas.flatten deltas.flatten final := by
  refine @Fallible.foldlM_keeps _ _ _
    (fun done state => Tracks uuid4Hex done.flatten done.flatten state) deltas _ ?_ Tracks.initial
  intro done delta later state shape tracks
  subst shape
  rw [List.flatten_append, List.flatten_cons, ← List.append_assoc] at separate
  rw [List.flatten_append, List.flatten_singleton]
  exact toolStep_tracks separate.before (once delta (by simp)) tracks

/-- The last chunk carries one call for each index that had a function, in the order of the
first one: its arguments joined in stream order, its last name, and its last identifier, or the
generated one, which no later fragment changes. -/
theorem handleGenerateStreamResponse_toolCalls (context : StreamContext)
    (chunks : List StreamChunk) (calling : context.functionCallingType = "tool_call".toList)
    (clean : ∀ chunk ∈ chunks, chunk.error = none)
    (once : ∀ chunk ∈ chunks, ((streamedToolCalls chunk).map ToolCallDelta.index).Nodup)
    (separate : Separate context.uuid4Hex (chunks.flatMap streamedToolCalls)) :
    ∃ body final,
      handleGenerateStreamResponse context ⟨chunks, none⟩ = ⟨body ++ [final], none⟩ ∧
      final.delta.message.toolCalls =
        (calledIndices (chunks.flatMap streamedToolCalls)).map (fun index =>
          let own := fragmentsOf (chunks.flatMap streamedToolCalls) index
          { id := (own.filterMap sentId).getLast?.getD
              (stableId context.uuid4Hex (chunks.flatMap streamedToolCalls) index)
            type := (own.filterMap sentType).getLast?.getD "function".toList
            function :=
              { name := (own.filterMap sentName).getLast?.getD []
                arguments := own.flatMap sentArguments } }) ∧
      ∀ part more, chunks.flatMap streamedToolCalls = part ++ more → ∀ index ∈ anonymous part,
        stableId context.uuid4Hex (chunks.flatMap streamedToolCalls) index =
          stableId context.uuid4Hex part index := by
  have read : toolCallsOf context = streamedToolCalls := funext (toolCallsOf_eq calling)
  rw [← read] at separate once ⊢
  rw [List.flatMap_def] at separate ⊢
  obtain ⟨tools, merged, tracks⟩ :=
    foldlM_tracks (List.forall_mem_map.mpr once) separate
  obtain ⟨body, final, handled, calls⟩ := handleGenerateStreamResponse_tools clean merged
  refine ⟨body, final, handled, calls.trans tracks.calls, ?_⟩
  intro part more shape index listed
  rw [shape] at separate ⊢
  exact stableId_append _
    (fun other found => separate.indexed other (List.mem_append_right part found)) listed

/-- An event that carries fragments of tool calls. -/
def toolEvent (toolCalls : List ToolCallDelta) : StreamChunk :=
  { choices := [{ delta := some { toolCalls } }] }

/-- Two calls whose fragments interleave: one identifier comes before its function, the other
one after. -/
def parallelCalls : List StreamChunk :=
  [toolEvent [
      ⟨some 1, none, none, some ⟨some "weather".toList, some "Be".toList⟩⟩,
      ⟨some 0, some "call-paris".toList, some "function".toList, none⟩],
    toolEvent [⟨some 0, none, none, some ⟨some "weather".toList, some "Pa".toList⟩⟩],
    toolEvent [⟨some 1, some "call-berlin".toList, none, none⟩],
    toolEvent [
      ⟨some 0, none, none, some ⟨none, some "ris".toList⟩⟩,
      ⟨some 1, none, none, some ⟨none, some "rlin".toList⟩⟩]]

/-- The interleaved calls are assembled under the identifiers of the provider. -/
theorem handleGenerateStreamResponse_toolCalls_parallel :
    ∃ body final,
      handleGenerateStreamResponse (characterContext "tool_call") ⟨parallelCalls, none⟩ =
        ⟨body ++ [final], none⟩ ∧
      final.delta.message.toolCalls =
        [⟨"call-berlin".toList, "function".toList, ⟨"weather".toList, "Berlin".toList⟩⟩,
          ⟨"call-paris".toList, "function".toList, ⟨"weather".toList, "Paris".toList⟩⟩] := by
  have separate : Separate (characterContext "tool_call").uuid4Hex
      (parallelCalls.flatMap streamedToolCalls) :=
    { indexed := fun fragment found => Option.isSome_iff_exists.mp
        ((by decide : ∀ fragment ∈ parallelCalls.flatMap streamedToolCalls,
          fragment.index.isSome = true) fragment found)
      separate := by decide
      once := by decide
      fresh := by decide }
  obtain ⟨body, final, handled, calls, -⟩ := handleGenerateStreamResponse_toolCalls
    (characterContext "tool_call") parallelCalls rfl (by decide) (by decide) separate
  exact ⟨body, final, handled, calls.trans (by decide)⟩

end DifyPlugin.OpenaiCompatible
