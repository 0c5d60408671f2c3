import DifyPlugin.Interfaces.Model.OpenaiCompatible.StreamEvents
import DifyPlugin.Interfaces.Model.OpenaiCompatible.StreamTools

/-!
# The life of a stream

The chunks of a stream are numbered upwards, only the last one carries usage, and it accounts for
everything that was streamed. An error ends the stream behind the chunks before it. `Ordered` and
`Accounts` are what every round keeps. `handleStreamedResponse` puts the handler behind the two
readers of the response.
-/

namespace DifyPlugin.OpenaiCompatible

variable {context : StreamContext}

/-- The last count under a key that is not null. -/
def lastUsage (chunks : List StreamChunk) (key : Text) : Option Int :=
  ((chunks.flatMap StreamChunk.usage).filterMap fun item =>
    if item.1 = key then item.2 else none).getLast?

/-- The last finish reason that is not null. -/
def lastFinishReason (chunks : List StreamChunk) : Option Text :=
  (chunks.filterMap fun chunk => chunk.choices.head?.bind Choice.finishReason).getLast?

/-- The calls of a stream: the fragments of its events, merged in order. -/
def assembledTools (context : StreamContext) (chunks : List StreamChunk) : Option ToolState :=
  (chunks.map (toolCallsOf context)).foldlM (toolStep context.uuid4Hex) .initial

/-- The fragment says which call it belongs to: by an index, an identifier or a name. -/
def StartsCall (fragment : ToolCallDelta) : Prop :=
  fragment.index ≠ none ∨ sentId fragment ≠ none ∨ sentName fragment ≠ none

/-- The first fragment with a function says which call it belongs to. -/
def FirstStartsCall (fragments : List ToolCallDelta) : Prop :=
  ∀ first, fragments.find? (fun fragment => fragment.function.isSome) = some first →
    StartsCall first

/-- The chunks so far are numbered upwards, below the next number, and carry no usage. -/
structure Ordered (yielded : List LLMResultChunk) (state : StreamState) : Prop where
  /-- The numbers go up. -/
  sorted : (yielded.map fun chunk => chunk.delta.index).Pairwise (· < ·)
  /-- The next number is above them. -/
  below : ∀ chunk ∈ yielded, chunk.delta.index < state.chunkIndex
  /-- Usage comes with the last chunk only. -/
  plain : ∀ chunk ∈ yielded, chunk.delta.usage = none

/-- The state holds what the events so far amount to. -/
structure Accounts (context : StreamContext) (done : List StreamChunk)
    (yielded : List LLMResultChunk) (state : StreamState) : Prop where
  /-- The last finish reason. -/
  finishReason : state.finishReason = lastFinishReason done
  /-- The last count under each key. -/
  usage : ∀ key, state.usage key = lastUsage done key
  /-- Everything that was written. -/
  full : state.fullAssistantContent = contents yielded
  /-- The calls. -/
  tools : assembledTools context done = some state.tools

section Rounds

variable {yielded chunks : List LLMResultChunk} {state next : StreamState} {chunk : StreamChunk}

/-- The next numbers may skip some. -/
theorem Ordered.skip (ordered : Ordered yielded state)
    (later : state.chunkIndex ≤ next.chunkIndex) :
    Ordered yielded next :=
  ⟨ordered.sorted, fun chunk found => lt_of_lt_of_le (ordered.below chunk found) later,
    ordered.plain⟩

/-- A chunk with the next number comes after the others. -/
theorem sorted_snoc (ordered : Ordered yielded state) {last : LLMResultChunk}
    (numbered : last.delta.index = state.chunkIndex) :
    ((yielded ++ [last]).map fun chunk => chunk.delta.index).Pairwise (· < ·) := by
  rw [List.map_append, List.pairwise_append]
  refine ⟨ordered.sorted, List.pairwise_singleton _ _, ?_⟩
  intro left foundLeft right foundRight
  obtain ⟨chunk, found, rfl⟩ := List.mem_map.mp foundLeft
  obtain rfl : right = last.delta.index := by simpa using foundRight
  rw [numbered]
  exact ordered.below chunk found

/-- Yielding a text keeps the order. -/
theorem Ordered.yieldContent (ordered : Ordered yielded state) (context : StreamContext)
    (content : Text) :
    Ordered (yielded ++ (yieldContent context state content).2)
      (OpenaiCompatible.yieldContent context state content).1 := by
  rw [OpenaiCompatible.yieldContent]
  split
  · simpa using ordered
  · refine ⟨sorted_snoc ordered rfl, ?_, ?_⟩
    · intro chunk found
      rcases List.mem_append.mp found with old | new
      · exact Nat.lt_succ_of_lt (ordered.below chunk old)
      · obtain rfl := List.mem_singleton.mp new
        exact Nat.lt_succ_self _
    · intro chunk found
      rcases List.mem_append.mp found with old | new
      · exact ordered.plain chunk old
      · obtain rfl := List.mem_singleton.mp new
        rfl

/-- One round keeps the order. -/
theorem Ordered.handleChunk (ordered : Ordered yielded state)
    (handled : handleChunk context state chunk = .ok (next, chunks)) :
    Ordered (yielded ++ chunks) next := by
  obtain ⟨-, -, -, -, -, made⟩ := handleChunk_ok handled
  have skipped : Ordered yielded (eventState state chunk next.tools) :=
    ordered.skip (Nat.le_add_right _ _)
  have kept := skipped.yieldContent context (eventText chunk state.isReasoningStarted).1
  rw [made] at kept
  exact kept

/-- A usage object replaces the counts it gives. -/
theorem mergeUsage_eq (usage : Text → Option Int) (items : List (Text × Option Int)) (key : Text) :
    mergeUsage usage items key =
      ((items.filterMap fun item => if item.1 = key then item.2 else none).getLast?).or
        (usage key) := by
  induction items using List.reverseRecOn with
  | nil => rfl
  | append_singleton items item ih =>
    obtain ⟨name, value⟩ := item
    rw [mergeUsage, List.foldl_append, List.filterMap_append, List.getLast?_append]
    cases value with
    | none => simpa [mergeUsage] using ih
    | some count =>
      by_cases same : name = key
      · simp [same]
      · simpa [same, Function.update_of_ne (Ne.symm same), mergeUsage] using ih

/-- Nothing has happened yet. -/
theorem Accounts.initial : Accounts context [] [] .initial :=
  ⟨rfl, fun _ => rfl, rfl, rfl⟩

/-- One round accounts for its event. -/
theorem Accounts.handleChunk {done : List StreamChunk}
    (accounts : Accounts context done yielded state)
    (handled : handleChunk context state chunk = .ok (next, chunks)) :
    Accounts context (done ++ [chunk]) (yielded ++ chunks) next := by
  obtain ⟨-, merged, reason, usage, -, -⟩ := handleChunk_ok handled
  obtain ⟨-, full⟩ := handleChunk_text handled
  refine ⟨?_, fun key => ?_, ?_, ?_⟩
  · rw [reason, accounts.finishReason, lastFinishReason, lastFinishReason,
      List.filterMap_append, List.getLast?_append]
    cases reason : chunk.choices.head?.bind Choice.finishReason <;> simp [reason]
  · rw [usage, mergeUsage_eq, accounts.usage key, lastUsage, lastUsage, List.flatMap_append,
      List.filterMap_append, List.getLast?_append, List.flatMap_singleton]
  · rw [full, accounts.full, contents_append]
  · have before := accounts.tools
    rw [assembledTools] at before
    rw [assembledTools, List.map_append, List.foldlM_append, before]
    simp [merged]

end Rounds

section Goes

/-- Looking a call up fails only without an identifier and without calls. -/
theorem getToolCall_goes (existing : List ToolCall) {id : Text} (starts : existing ≠ [] ∨ id ≠ []) :
    ∃ calls position, getToolCall id existing = some (calls, position) ∧ calls ≠ [] := by
  rw [getToolCall]
  by_cases missing : id = []
  · have present : existing ≠ [] := starts.resolve_right (not_not.mpr missing)
    exact ⟨existing, existing.length - 1, by rw [if_pos missing, if_neg present], present⟩
  · rw [if_neg missing]
    cases located : existing.findIdx? fun call => call.id = id with
    | some position =>
      refine ⟨existing, position, rfl, ?_⟩
      rintro rfl
      simp at located
    | none => exact ⟨_, _, rfl, by simp⟩

/-- Merging a call that says which one it is, or into calls that exist, goes on. -/
theorem mergeToolCall_goes (uuid4Hex : Nat → Text) {existing : List ToolCall} {new : ToolCall}
    (generated : Nat)
    (starts : existing ≠ [] ∨ new.id ≠ [] ∨ new.function.name ≠ []) :
    ∃ calls count, mergeToolCall uuid4Hex existing generated new = some (calls, count) ∧
      calls ≠ [] := by
  have kept : ∀ {calls : List ToolCall} {position : Nat} {update : ToolCall → ToolCall},
      calls ≠ [] → calls.modify position update ≠ [] := by
    intro calls position update present empty
    exact present (List.length_eq_zero_iff.mp (by simpa using congrArg List.length empty))
  rw [mergeToolCall]
  by_cases named : new.function.name ≠ [] ∧ new.id = []
  · obtain ⟨calls, position, located, present⟩ :=
      getToolCall_goes existing (Or.inr (genToolCallId_visible uuid4Hex generated))
    rw [if_pos named]
    simp only [located, Option.map_some]
    exact ⟨_, _, rfl, kept present⟩
  · have found : existing ≠ [] ∨ new.id ≠ [] := by
      rcases starts with present | visible | name
      · exact Or.inl present
      · exact Or.inr visible
      · exact Or.inr fun missing => named ⟨name, missing⟩
    obtain ⟨calls, position, located, present⟩ := getToolCall_goes existing found
    rw [if_neg named]
    simp only [located, Option.map_some]
    exact ⟨_, _, rfl, kept present⟩

/-- Merging goes on when there are calls, or the first new one says which call it is. -/
theorem increaseToolCall_goes (uuid4Hex : Nat → Text) {existing news : List ToolCall}
    (generated : Nat)
    (starts : existing ≠ [] ∨ ∀ first, news.head? = some first →
      first.id ≠ [] ∨ first.function.name ≠ []) :
    ∃ calls count, increaseToolCall uuid4Hex news existing generated = some (calls, count) ∧
      (existing ≠ [] ∨ news ≠ [] → calls ≠ []) := by
  induction news generalizing existing generated with
  | nil => exact ⟨existing, generated, rfl, fun either => either.resolve_right (by simp)⟩
  | cons new rest ih =>
    obtain ⟨calls, count, merged, present⟩ := mergeToolCall_goes uuid4Hex generated
      (starts.imp_right fun first => first new rfl)
    obtain ⟨later, total, increased, stays⟩ := ih count (Or.inl present)
    refine ⟨later, total, ?_, fun _ => stays (Or.inl present)⟩
    rw [increaseToolCall, merged]
    exact increased

/-- Giving the fragments their identifiers adds and removes no calls. -/
theorem assignIds_length (uuid4Hex : Nat → Text) (state : ToolState) (delta : List ToolCallDelta) :
    (assignIds uuid4Hex state delta).1.toolsCalls.length = state.toolsCalls.length := by
  induction delta generalizing state with
  | nil => rfl
  | cons fragment rest ih =>
    rw [assignIds]
    simp only [ih]
    rw [assignId]
    split
    · rfl
    · simp only [renameCall]
      split <;> simp

/-- A value that Python reads as true is not empty after validation either. -/
theorem ensureFieldEmptyStr_visible {value : Option Text} (sent : truthy value ≠ none) :
    ensureFieldEmptyStr value ≠ [] := by
  obtain ⟨text, found⟩ := Option.ne_none_iff_exists'.mp sent
  rw [ensureFieldEmptyStr_eq, found]
  exact truthy_some found

/-- The chosen identifier is never empty. -/
theorem chooseId_visible (uuid4Hex : Nat → Text) (id previousId : Option Text) (generated : Nat) :
    (chooseId uuid4Hex id previousId generated).1 ≠ [] := by
  rw [chooseId]
  cases sent : truthy id with
  | some text => simpa using truthy_some sent
  | none =>
    cases kept : truthy previousId with
    | some text => simpa using truthy_some kept
    | none => simpa using genToolCallId_visible uuid4Hex generated

/-- The function of a fragment is extracted with what the fragment says of its call. -/
theorem extractToolCall_starts {fragment : ToolCallDelta} {new : ToolCall}
    (extracted : extractToolCall fragment = some new)
    (tells : sentId fragment ≠ none ∨ sentName fragment ≠ none) :
    new.id ≠ [] ∨ new.function.name ≠ [] := by
  simp only [extractToolCall, Option.map_eq_some_iff] at extracted
  obtain ⟨function, present, rfl⟩ := extracted
  rw [sentName, present, Option.bind_some] at tells
  exact tells.imp ensureFieldEmptyStr_visible ensureFieldEmptyStr_visible

/-- A fragment keeps its function, and one that says which call it belongs to still does. -/
theorem assignId_extract (uuid4Hex : Nat → Text) (state : ToolState) (fragment : ToolCallDelta) :
    (assignId uuid4Hex state fragment).2.function = fragment.function ∧
      ∀ new, extractToolCall (assignId uuid4Hex state fragment).2 = some new →
        StartsCall fragment → new.id ≠ [] ∨ new.function.name ≠ [] := by
  cases own : fragment.index with
  | none =>
    simp only [assignId, own]
    exact ⟨trivial, fun new extracted starts =>
      extractToolCall_starts extracted (starts.resolve_left (not_not.mpr own))⟩
  | some index =>
    simp only [assignId, own]
    refine ⟨trivial, fun new extracted _ => extractToolCall_starts extracted (Or.inl ?_)⟩
    rw [sentId, truthy_visible (chooseId_visible _ _ _ _)]
    simp

/-- The extracted calls of a delta start with its first fragment that has a function. -/
theorem extract_assignIds (uuid4Hex : Nat → Text) (state : ToolState) (delta : List ToolCallDelta) :
    ((∃ fragment ∈ delta, fragment.function ≠ none) →
        extractResponseToolCalls (assignIds uuid4Hex state delta).2 ≠ []) ∧
      (FirstStartsCall delta → ∀ new,
        (extractResponseToolCalls (assignIds uuid4Hex state delta).2).head? = some new →
          new.id ≠ [] ∨ new.function.name ≠ []) := by
  induction delta generalizing state with
  | nil => simp [assignIds, extractResponseToolCalls]
  | cons fragment rest ih =>
    obtain ⟨function, tells⟩ := assignId_extract uuid4Hex state fragment
    obtain ⟨present, first⟩ := ih (assignId uuid4Hex state fragment).1
    simp only [assignIds, extractResponseToolCalls]
    cases calls : fragment.function with
    | none =>
      have silent : extractToolCall (assignId uuid4Hex state fragment).2 = none := by
        rw [extractToolCall, function, calls]
        rfl
      rw [List.filterMap_cons_none silent]
      refine ⟨?_, fun starts => first ?_⟩
      · rintro ⟨other, found, loud⟩
        have later := (List.mem_cons.mp found).resolve_left fun same => loud (same ▸ calls)
        exact present ⟨other, later, loud⟩
      · intro other found
        exact starts other (by simpa [List.find?_cons, calls] using found)
    | some inner =>
      obtain ⟨new, extracted⟩ : ∃ new,
          extractToolCall (assignId uuid4Hex state fragment).2 = some new := by
        rw [extractToolCall, function, calls]
        exact ⟨_, rfl⟩
      rw [List.filterMap_cons_some extracted]
      refine ⟨fun _ => by simp, fun starts other same => ?_⟩
      obtain rfl : new = other := by simpa using same
      exact tells new extracted (starts fragment (by simp [calls]))

/-- The handler merges a delta when there are calls, or when its first fragment with a function
says which call it belongs to; from then on there are calls. -/
theorem toolStep_goes (uuid4Hex : Nat → Text) {state : ToolState} {delta : List ToolCallDelta}
    (starts : state.toolsCalls ≠ [] ∨ FirstStartsCall delta) :
    ∃ next, toolStep uuid4Hex state delta = some next ∧
      (state.toolsCalls ≠ [] ∨ (∃ fragment ∈ delta, fragment.function ≠ none) →
        next.toolsCalls ≠ []) := by
  obtain ⟨present, first⟩ := extract_assignIds uuid4Hex state delta
  have same : (assignIds uuid4Hex state delta).1.toolsCalls ≠ [] ↔ state.toolsCalls ≠ [] := by
    rw [← List.length_pos_iff, ← List.length_pos_iff, assignIds_length]
  obtain ⟨calls, count, merged, stays⟩ := increaseToolCall_goes uuid4Hex
    (assignIds uuid4Hex state delta).1.generated (starts.imp same.mpr first)
  refine ⟨{ (assignIds uuid4Hex state delta).1 with toolsCalls := calls, generated := count },
    ?_, fun either => stays (either.imp same.mpr present)⟩
  simp only [toolStep, merged, Option.map_some]

/-- The loop goes on over events without errors whose first fragment with a function says which
call it belongs to. -/
theorem consume_goes (context : StreamContext) {state : StreamState} {chunks : List StreamChunk}
    (clean : ∀ chunk ∈ chunks, chunk.error = none)
    (starts : state.tools.toolsCalls ≠ [] ∨
      FirstStartsCall (chunks.flatMap (toolCallsOf context))) :
    ∃ final, (consume context state chunks).2 = .ok final := by
  induction chunks generalizing state with
  | nil => exact ⟨state, rfl⟩
  | cons chunk rest ih =>
    rw [List.flatMap_cons] at starts
    have now : state.tools.toolsCalls ≠ [] ∨ FirstStartsCall (toolCallsOf context chunk) :=
      starts.imp_right fun first fragment found =>
        first fragment (by rw [List.find?_append, found]; rfl)
    obtain ⟨tools, merged, present⟩ := toolStep_goes context.uuid4Hex now
    have handled := handleChunk_eq context state (clean chunk (by simp))
    rw [merged] at handled
    have kept := (yieldContent_keeps context (eventState state chunk tools)
      (eventText chunk state.isReasoningStarted).1).1
    have later : tools.toolsCalls ≠ [] ∨ FirstStartsCall (rest.flatMap (toolCallsOf context)) := by
      rcases starts with some | first
      · exact Or.inl (present (Or.inl some))
      · by_cases loud : ∃ fragment ∈ toolCallsOf context chunk, fragment.function ≠ none
        · exact Or.inl (present (Or.inr loud))
        · refine Or.inr fun fragment found => first fragment ?_
          have silent : (toolCallsOf context chunk).find? (fun fragment =>
              fragment.function.isSome) = none := by
            rw [List.find?_eq_none]
            intro other listed calls
            exact loud ⟨other, listed, Option.isSome_iff_ne_none.mp calls⟩
          rw [List.find?_append, silent, Option.none_or, found]
    obtain ⟨final, ended⟩ := ih (fun other found => clean other (by simp [found])) (by
      rw [kept]
      exact later)
    exact ⟨final, by simp only [consume, handled, ended]⟩

end Goes

/-- What the loop yields before it raises is what it yields for a part it consumes. -/
theorem consume_cut (context : StreamContext) (state : StreamState) (chunks : List StreamChunk) :
    ∃ before rest final, chunks = before ++ rest ∧ (consume context state before).2 = .ok final ∧
      (consume context state chunks).1 = (consume context state before).1 := by
  induction chunks generalizing state with
  | nil => exact ⟨[], [], state, rfl, rfl, rfl⟩
  | cons chunk rest ih =>
    cases handled : handleChunk context state chunk with
    | error error =>
      exact ⟨[], chunk :: rest, state, rfl, rfl, by simp [consume, handled]⟩
    | ok result =>
      obtain ⟨next, yielded⟩ := result
      obtain ⟨before, after, final, shape, ended, same⟩ := ih next
      exact ⟨chunk :: before, after, final, by rw [shape]; rfl,
        by simp only [consume, handled, ended], by simp only [consume, handled, same]⟩

/-- Nothing has been yielded yet. -/
theorem Ordered.initial : Ordered [] .initial :=
  ⟨List.Pairwise.nil, fun _ found => absurd found (by simp), fun _ found => absurd found (by simp)⟩

/-- The loop keeps the order and accounts for its events. -/
theorem consume_kept {chunks : List StreamChunk} {final : StreamState}
    (ended : (consume context .initial chunks).2 = .ok final) :
    Ordered (consume context .initial chunks).1 final ∧
      Accounts context chunks (consume context .initial chunks).1 final :=
  consume_invariant
    (fun done yielded state => Ordered yielded state ∧ Accounts context done yielded state)
    (fun _ _ _ _ _ _ _ kept handled => ⟨kept.1.handleChunk handled, kept.2.handleChunk handled⟩)
    ⟨Ordered.initial, Accounts.initial⟩ ended

/-- Closing a thinking block keeps the order. -/
theorem Ordered.closeReasoning {yielded : List LLMResultChunk} {state : StreamState}
    (ordered : Ordered yielded state) (context : StreamContext) :
    Ordered (yielded ++ (closeReasoning context state).2)
      (OpenaiCompatible.closeReasoning context state).1 := by
  rw [OpenaiCompatible.closeReasoning]
  split
  · exact ordered.yieldContent context closeTag
  · simpa using ordered

/-- What the loop yields is in order and without usage, however the loop ends. -/
theorem consume_ordered (context : StreamContext) (chunks : List StreamChunk) :
    ∃ final, Ordered (consume context .initial chunks).1 final := by
  obtain ⟨before, rest, final, -, ended, same⟩ := consume_cut context .initial chunks
  rw [same]
  exact ⟨final, (consume_kept ended).1⟩

/-- Closing a thinking block adds what it writes to the full content. -/
theorem closeReasoning_full (context : StreamContext) (state : StreamState) :
    (closeReasoning context state).1.fullAssistantContent =
      state.fullAssistantContent ++ contents (closeReasoning context state).2 := by
  rw [closeReasoning]
  split
  · obtain ⟨full, wrote⟩ := yieldContent_full context state closeTag
    rw [full, wrote]
  · simp

/-- The last chunk of a stream that is consumed to its end. -/
theorem finishStream_accounts {chunks : List StreamChunk} {final : StreamState}
    (ended : (consume context .initial chunks).2 = .ok final) :
    ∃ body last usage,
      (consume context .initial chunks).1 ++ finishStream context final = body ++ [last] ∧
      (∀ chunk ∈ body, chunk.delta.usage = none) ∧ last.delta.usage = some usage ∧
      ((body ++ [last]).map fun chunk => chunk.delta.index).Pairwise (· < ·) ∧
      last.delta.message.toolCalls = final.tools.toolsCalls ∧
      last.delta.finishReason = lastFinishReason chunks ∧
      usage.promptTokens =
        (lastUsage chunks "prompt_tokens".toList).getD (promptEstimate context) ∧
      usage.completionTokens = (lastUsage chunks "completion_tokens".toList).getD
        (completionEstimate context (contents (body ++ [last])) final.tools.toolsCalls) := by
  obtain ⟨ordered, accounts⟩ := consume_kept ended
  have closed := ordered.closeReasoning context
  obtain ⟨tools, reason, usages⟩ := closeReasoning_keeps context final
  have full : (closeReasoning context final).1.fullAssistantContent =
      contents ((consume context .initial chunks).1 ++ (closeReasoning context final).2 ++
        [finalChunk context (closeReasoning context final).1]) := by
    have silent : contents [finalChunk context (closeReasoning context final).1] = [] := rfl
    rw [closeReasoning_full, accounts.full, contents_append, contents_append, silent,
      List.append_nil]
  refine ⟨(consume context .initial chunks).1 ++ (closeReasoning context final).2,
    finalChunk context (closeReasoning context final).1, _, ?_, closed.plain, rfl,
    sorted_snoc closed rfl, ?_, ?_, ?_, ?_⟩
  · rw [finishStream, List.append_assoc]
  · exact congrArg ToolState.toolsCalls tools
  · exact reason.trans accounts.finishReason
  · change ((closeReasoning context final).1.usage _).getD _ = _
    rw [usages, accounts.usage]
  · change ((closeReasoning context final).1.usage _).getD (completionEstimate context
      (closeReasoning context final).1.fullAssistantContent
      (closeReasoning context final).1.tools.toolsCalls) = _
    rw [usages, accounts.usage, full, tools]

/-- Chunks are numbered upwards on every stream. On a stream without errors only the last chunk
carries usage, and it accounts for the calls, the finish reason and the tokens of the whole
stream. An error, sent or found by `_iter_stream_json`, is raised behind exactly the chunks that
the loop yields for the events before it, and nothing of the end of the stream. -/
theorem handleGenerateStreamResponse_lifecycle (context : StreamContext) :
    (∀ source : Generated StreamChunk InvokeError,
      ((handleGenerateStreamResponse context source).yielded.map fun chunk =>
        chunk.delta.index).Pairwise (· < ·)) ∧
    (∀ chunks : List StreamChunk, (∀ chunk ∈ chunks, chunk.error = none) →
      FirstStartsCall (chunks.flatMap (toolCallsOf context)) →
      ∃ body last usage tools,
        handleGenerateStreamResponse context ⟨chunks, none⟩ = ⟨body ++ [last], none⟩ ∧
        (∀ chunk ∈ body, chunk.delta.usage = none) ∧ last.delta.usage = some usage ∧
        assembledTools context chunks = some tools ∧
        last.delta.message.toolCalls = tools.toolsCalls ∧
        last.delta.finishReason = lastFinishReason chunks ∧
        usage.promptTokens =
          (lastUsage chunks "prompt_tokens".toList).getD (promptEstimate context) ∧
        usage.completionTokens = (lastUsage chunks "completion_tokens".toList).getD
          (context.getNumTokensByGpt2 (contents (body ++ [last])) +
            (tools.toolsCalls.map (numTokensForToolCall context.getNumTokensByGpt2)).sum)) ∧
    (∀ (before rest : List StreamChunk) (failed : StreamChunk) (stop : Option InvokeError)
        (description : Text), (∀ chunk ∈ before, chunk.error = none) →
      FirstStartsCall (before.flatMap (toolCallsOf context)) → failed.error = some description →
      ∃ final, (consume context .initial before).2 = .ok final ∧
        handleGenerateStreamResponse context ⟨before, none⟩ =
          ⟨(consume context .initial before).1 ++ finishStream context final, none⟩ ∧
        (∀ chunk ∈ (consume context .initial before).1, chunk.delta.usage = none) ∧
        handleGenerateStreamResponse context ⟨before ++ failed :: rest, stop⟩ =
          ⟨(consume context .initial before).1, some (.invoke ⟨description⟩)⟩) ∧
    (∀ (json : JsonObjects StreamChunk) (sse : Bool) (events : List Text) (error : InvokeError),
      (∀ chunk ∈ (iterStreamJson json sse events).yielded, chunk.error = none) →
      FirstStartsCall ((iterStreamJson json sse events).yielded.flatMap (toolCallsOf context)) →
      (iterStreamJson json sse events).raised = some error →
      ∃ final, (consume context .initial (iterStreamJson json sse events).yielded).2 = .ok final ∧
        handleGenerateStreamResponse context ⟨(iterStreamJson json sse events).yielded, none⟩ =
          ⟨(consume context .initial (iterStreamJson json sse events).yielded).1 ++
            finishStream context final, none⟩ ∧
        (∀ chunk ∈ (consume context .initial (iterStreamJson json sse events).yielded).1,
          chunk.delta.usage = none) ∧
        handleGenerateStreamResponse context (iterStreamJson json sse events) =
          ⟨(consume context .initial (iterStreamJson json sse events).yielded).1,
            some (.invoke error)⟩) := by
  refine ⟨fun source => ?_, fun chunks clean starts => ?_, ?_, ?_⟩
  · obtain ⟨state, ordered⟩ := consume_ordered context source.yielded
    rw [handleGenerateStreamResponse]
    cases consumed : consume context .initial source.yielded with
    | mk yielded result =>
      rw [consumed] at ordered
      cases result with
      | error error => exact ordered.sorted
      | ok final =>
        cases source.raised with
        | some error => exact ordered.sorted
        | none =>
          have ended : (consume context .initial source.yielded).2 = .ok final := by rw [consumed]
          obtain ⟨body, last, -, shape, -, -, sorted, -⟩ := finishStream_accounts ended
          rw [consumed] at shape
          simpa only [shape] using sorted
  · obtain ⟨final, ended⟩ := @consume_goes context .initial chunks clean (Or.inr starts)
    obtain ⟨body, last, usage, shape, plain, used, -, calls, reason, prompt, completion⟩ :=
      finishStream_accounts ended
    refine ⟨body, last, usage, final.tools, ?_, plain, used, (consume_kept ended).2.tools, calls,
      reason, prompt, completion⟩
    rw [handleGenerateStreamResponse_eof ended, shape]
  · intro before rest failed stop description clean starts broken
    obtain ⟨final, ended⟩ := @consume_goes context .initial before clean (Or.inr starts)
    refine ⟨final, ended, handleGenerateStreamResponse_eof ended, (consume_kept ended).1.plain, ?_⟩
    have stopped : consume context final (failed :: rest) =
        ([], .error (.invoke ⟨description⟩)) := by
      simp [consume, handleChunk, broken]
    rw [handleGenerateStreamResponse]
    cases consumed : consume context .initial before with
    | mk yielded result =>
      obtain rfl : result = .ok final := by rw [consumed] at ended; exact ended
      simp only [consume_append, consumed, stopped, List.append_nil]
  · intro json sse events error clean starts raised
    obtain ⟨final, ended⟩ := @consume_goes context .initial _ clean (Or.inr starts)
    refine ⟨final, ended, handleGenerateStreamResponse_eof ended, (consume_kept ended).1.plain, ?_⟩
    rw [handleGenerateStreamResponse]
    cases consumed : consume context .initial (iterStreamJson json sse events).yielded with
    | mk yielded result =>
      obtain rfl : result = .ok final := by rw [consumed] at ended; exact ended
      simp only [raised]

/-- A fragment that continues a call when there is none: no event has an error, and the stream
still ends with an exception and without a last chunk. -/
theorem handleGenerateStreamResponse_stray :
    (∀ chunk ∈ [toolEvent [⟨none, none, none, some ⟨none, some "\x7b\x7d".toList⟩⟩]],
      chunk.error = none) ∧
    handleGenerateStreamResponse (characterContext "tool_call")
      ⟨[toolEvent [⟨none, none, none, some ⟨none, some "\x7b\x7d".toList⟩⟩]], none⟩ =
        ⟨[], some .indexError⟩ := by
  decide

/-- An answer with its finish reason, and the usage in an event of its own. -/
def countedAnswer : List StreamChunk :=
  [{ choices := [{ delta := some { content := some "ok".toList } }] },
    { choices := [{ finishReason := some "stop".toList }],
      usage := [("prompt_tokens".toList, some 5), ("completion_tokens".toList, none)] },
    { usage := [("prompt_tokens".toList, some 10)] }]

/-- The prompt is counted by the last usage object, the completion by its characters. -/
theorem handleGenerateStreamResponse_lifecycle_counted :
    ∃ body last usage,
      handleGenerateStreamResponse (characterContext "no_call") ⟨countedAnswer, none⟩ =
        ⟨body ++ [last], none⟩ ∧
      last.delta.usage = some usage ∧ last.delta.finishReason = some "stop".toList ∧
      usage.promptTokens = 10 ∧
      ∃ emitted, contents emitted = "ok".toList ∧
        handleGenerateStreamResponse (characterContext "no_call")
          ⟨countedAnswer ++ [{ error := some "overloaded".toList }], none⟩ =
            ⟨emitted, some (.invoke ⟨"overloaded".toList⟩)⟩ := by
  obtain ⟨-, counted, failed, -⟩ :=
    handleGenerateStreamResponse_lifecycle (characterContext "no_call")
  have starts : FirstStartsCall
      (countedAnswer.flatMap (toolCallsOf (characterContext "no_call"))) :=
    fun first found => absurd found (by
      have none : countedAnswer.flatMap (toolCallsOf (characterContext "no_call")) = [] := by decide
      rw [none]
      simp)
  obtain ⟨body, last, usage, tools, handled, -, used, -, -, reason, prompt, -⟩ :=
    counted countedAnswer (by decide) starts
  obtain ⟨final, -, -, -, raised⟩ := failed countedAnswer [] { error := some "overloaded".toList }
    none "overloaded".toList (by decide) starts rfl
  exact ⟨body, last, usage, handled, used, reason.trans (by decide), prompt.trans (by decide),
    _, by decide, raised⟩

/-- `_handle_generate_stream_response` on a response of the provider. -/
def handleStreamedResponse {σ : Type} (context : StreamContext) (json : JsonObjects StreamChunk)
    (codecs : Codecs σ) (contentType : Text) (body : StreamedBody) (delimiter : Text) :
    Generated LLMResultChunk StreamError :=
  handleGenerateStreamResponse context
    (iterStreamJson json (isSse contentType) (iterStreamEvents codecs body delimiter))

/-- The same bytes in other pieces give the same chunks and the same ending. -/
theorem handleStreamedResponse_pieces {σ : Type} (context : StreamContext)
    (json : JsonObjects StreamChunk) (codecs : Codecs σ) (contentType : Text)
    (first second : StreamedBody) (encoding : first.encoding = second.encoding)
    (bytes : first.iterContent.flatten = second.iterContent.flatten)
    (incremental : (streamDecoder codecs first).Incremental) :
    handleStreamedResponse context json codecs contentType first blankLine =
      handleStreamedResponse context json codecs contentType second blankLine := by
  have named : first.encodingOrUtf8 = second.encodingOrUtf8 := by
    rw [StreamedBody.encodingOrUtf8, encoding, StreamedBody.encodingOrUtf8]
  have decoder : streamDecoder codecs first = streamDecoder codecs second := by
    rw [streamDecoder, streamDecoder, stripBom, stripBom, named]
  have events : iterStreamEvents codecs first blankLine =
      iterStreamEvents codecs second blankLine := by
    rw [iterStreamEvents_blankLine, iterStreamEvents_blankLine, ← decoder,
      incremental first.iterContent, incremental second.iterContent, bytes]
  rw [handleStreamedResponse, handleStreamedResponse, events]

end DifyPlugin.OpenaiCompatible
