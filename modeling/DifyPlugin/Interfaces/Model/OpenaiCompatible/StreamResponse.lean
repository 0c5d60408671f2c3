import DifyPlugin.Interfaces.Model.OpenaiCompatible.StreamJson
import DifyPlugin.Interfaces.Model.OpenaiCompatible.ToolCalls
import Mathlib.Algebra.Ring.Int.Defs

/-!
# The stream handler

`_handle_generate_stream_response` reads the objects of a response one by one, yields the texts
they add, and ends with one chunk that carries the assembled calls and the token counts. Its
local variables are `StreamState`; `consume` is its loop.
-/

namespace DifyPlugin.OpenaiCompatible

/-- `delta` of a choice; an absent value reads as null. -/
structure Delta where
  /-- The visible text. -/
  content : Option Text := none
  /-- The reasoning text. -/
  reasoningContent : Option Text := none
  /-- The reasoning text under its other name. -/
  reasoning : Option Text := none
  /-- The fragments of tool calls. -/
  toolCalls : List ToolCallDelta := []
  /-- The function of the only call, when there is a non-empty one. -/
  functionCall : Option FunctionDelta := none
  deriving DecidableEq

/-- The first element of `choices`. -/
structure Choice where
  /-- Why the model stopped. -/
  finishReason : Option Text := none
  /-- The delta of a chat completion. -/
  delta : Option Delta := none
  /-- The text of a completion. -/
  text : Option Text := none
  deriving DecidableEq

/-- One object of the stream. -/
structure StreamChunk where
  /-- The text of `error`, when Python reads that as true. -/
  error : Option Text := none
  /-- The items of `usage`. -/
  usage : List (Text × Option Int) := []
  /-- The choices; only the first one is read. -/
  choices : List Choice := []
  deriving DecidableEq

/-- `PriceType`. -/
inductive PriceType where
  | input
  | output
  deriving DecidableEq

/-- `PriceInfo`. -/
structure PriceInfo where
  /-- The price of one token, in units. -/
  unitPrice : Rat
  /-- The unit. -/
  unit : Rat
  /-- The price. -/
  totalAmount : Rat
  /-- The currency. -/
  currency : Text

/-- What the handler takes from its arguments and from the model it belongs to. -/
structure StreamContext where
  /-- The name of the model. -/
  model : Text
  /-- `credentials.get("mode")`. -/
  mode : Option Text
  /-- `credentials.get("function_calling_type", "no_call")`. -/
  functionCallingType : Text
  /-- The content of the first prompt message, as text. -/
  promptText : Text
  /-- `_num_tokens_from_messages` of the prompt messages. -/
  numTokensFromMessages : Int
  /-- The hexadecimal digits of the UUIDs that `_gen_tool_call_id` draws. -/
  uuid4Hex : Nat → Text
  /-- `_get_num_tokens_by_gpt2`. -/
  getNumTokensByGpt2 : Text → Int
  /-- `get_price` of the model. -/
  getPrice : PriceType → Int → PriceInfo
  /-- Seconds since the invocation started, when the usage is calculated. -/
  latency : Rat

/-- The exceptions of the handler. -/
inductive StreamError where
  /-- `InvokeError`. -/
  | invoke (error : InvokeError)
  /-- The `IndexError` of a fragment that continues a call when there is none. -/
  | indexError
  deriving DecidableEq

/-- The local variables of the handler. -/
structure StreamState where
  /-- `chunk_index`. -/
  chunkIndex : Nat
  /-- `full_assistant_content`. -/
  fullAssistantContent : Text
  /-- `tools_calls` and `tool_call_ids`. -/
  tools : ToolState
  /-- `finish_reason`. -/
  finishReason : Option Text
  /-- The values of `usage` that are not null. -/
  usage : Text → Option Int
  /-- `is_reasoning_started`. -/
  isReasoningStarted : Bool

/-- The local variables before the loop. -/
def StreamState.initial : StreamState := ⟨0, [], .initial, none, fun _ => none, false⟩

/-- `"<think>\n"`. -/
def openTag : Text := "<think>\n".toList

/-- `"\n</think>"`. -/
def closeTag : Text := "\n</think>".toList

/-- `delta.get("reasoning_content") or delta.get("reasoning")`, empty when false. -/
def Delta.reasoningText (delta : Delta) : Text :=
  ((truthy delta.reasoningContent).or (truthy delta.reasoning)).getD []

/-- `has_visible_payload`: content, tool calls or a function call. -/
def Delta.hasVisiblePayload (delta : Delta) : Bool :=
  (truthy delta.content).isSome || !delta.toolCalls.isEmpty || delta.functionCall.isSome

/-- `no_new_reasoning`. -/
def Delta.noNewReasoning (delta : Delta) : Bool :=
  [delta.reasoningContent, delta.reasoning].all fun part => part = none || part = some []

/-- `_wrap_thinking_by_reasoning_content`. -/
def wrapThinkingByReasoningContent (delta : Delta) (isReasoning : Bool) : Text × Bool :=
  let content := (truthy delta.content).getD []
  let reasoningContent := delta.reasoningText
  if reasoningContent ≠ [] then
    let output := if isReasoning then reasoningContent else openTag ++ reasoningContent
    if content ≠ [] ∨ delta.toolCalls ≠ [] ∨ delta.functionCall.isSome then
      (output ++ (closeTag ++ content), false)
    else (output, true)
  else if isReasoning then (closeTag ++ content, false)
  else (content, false)

/-- The text that a delta adds, and whether a thinking block is open after it. An empty delta
is a heartbeat and leaves an open block alone. -/
def deltaContent (delta : Delta) (isReasoningStarted : Bool) : Text × Bool :=
  if isReasoningStarted && delta.noNewReasoning && !delta.hasVisiblePayload then
    ([], isReasoningStarted)
  else wrapThinkingByReasoningContent delta isReasoningStarted

/-- `assistant_message_tool_calls`, under the calling type of the credentials. A function call
that is absent has the same effect as one that is null. -/
def assistantMessageToolCalls (functionCallingType : Text) (delta : Delta) : List ToolCallDelta :=
  if functionCallingType = "tool_call".toList then delta.toolCalls
  else if functionCallingType = "function_call".toList then
    [{ index := none
       id := some "tool_call_id".toList
       type := some "function".toList
       function := delta.functionCall }]
  else []

/-- `usage = {**usage, **items}` without the items that are null. -/
def mergeUsage (usage : Text → Option Int) (items : List (Text × Option Int)) :
    Text → Option Int :=
  items.foldl (fun merged (key, value) =>
    match value with
    | none => merged
    | some count => Function.update merged key (some count)) usage

/-- The chunk that carries a text. -/
def contentChunk (model : Text) (index : Nat) (content : Text) : LLMResultChunk :=
  { model, delta := { index, message := { content := some content } } }

/-- The end of a round: yield the text of the event unless it is empty. -/
def yieldContent (context : StreamContext) (state : StreamState) (content : Text) :
    StreamState × List LLMResultChunk :=
  if content = [] then (state, [])
  else
    ({ state with
        fullAssistantContent := state.fullAssistantContent ++ content
        chunkIndex := state.chunkIndex + 1 },
      [contentChunk context.model state.chunkIndex content])

/-- One round of the loop from the choice on. -/
def handleChoice (context : StreamContext) (state : StreamState) (choice : Choice) :
    Except StreamError (StreamState × List LLMResultChunk) :=
  let state := { state with
    finishReason := choice.finishReason.or state.finishReason
    chunkIndex := state.chunkIndex + 1 }
  match choice.delta, choice.text with
  | some delta, _ =>
    let (content, isReasoningStarted) := deltaContent delta state.isReasoningStarted
    let toolCalls := assistantMessageToolCalls context.functionCallingType delta
    match toolStep context.uuid4Hex state.tools toolCalls with
    | none => .error .indexError
    | some tools => .ok (yieldContent context { state with tools, isReasoningStarted } content)
  | none, some choiceText => .ok (yieldContent context state choiceText)
  | none, none => .ok (state, [])

/-- One round of the loop. -/
def handleChunk (context : StreamContext) (state : StreamState) (chunk : StreamChunk) :
    Except StreamError (StreamState × List LLMResultChunk) :=
  match chunk.error with
  | some error => .error (.invoke ⟨error⟩)
  | none =>
    let state := { state with usage := mergeUsage state.usage chunk.usage }
    match chunk.choices with
    | [] => .ok (state, [])
    | choice :: _ => handleChoice context state choice

/-- The loop: the chunks it yields, and the state it ends in or the exception it raises. -/
def consume (context : StreamContext) :
    StreamState → List StreamChunk → List LLMResultChunk × Except StreamError StreamState
  | state, [] => ([], .ok state)
  | state, chunk :: rest =>
    match handleChunk context state chunk with
    | .error error => ([], .error error)
    | .ok (state, chunks) =>
      let (later, ended) := consume context state rest
      (chunks ++ later, ended)

/-- `_num_tokens_for_function_call`, over the dumped fields. -/
def numTokensForFunctionCall (getNumTokensByGpt2 : Text → Int) (call : ToolCallFunction) : Int :=
  ([("name".toList, call.name), ("arguments".toList, call.arguments)].map fun (key, value) =>
    getNumTokensByGpt2 key + getNumTokensByGpt2 value).sum

/-- `_num_tokens_for_tool_call`, over the dumped fields. -/
def numTokensForToolCall (getNumTokensByGpt2 : Text → Int) (toolCall : ToolCall) : Int :=
  ([("id".toList, toolCall.id), ("type".toList, toolCall.type)].map fun (key, value) =>
    getNumTokensByGpt2 key + (getNumTokensByGpt2 key + getNumTokensByGpt2 value)).sum +
    (getNumTokensByGpt2 "function".toList +
      numTokensForFunctionCall getNumTokensByGpt2 toolCall.function)

/-- `_calc_response_usage`. -/
def calcResponseUsage (context : StreamContext) (promptTokens completionTokens : Int) : LLMUsage :=
  let promptPriceInfo := context.getPrice .input promptTokens
  let completionPriceInfo := context.getPrice .output completionTokens
  { promptTokens
    promptUnitPrice := promptPriceInfo.unitPrice
    promptPriceUnit := promptPriceInfo.unit
    promptPrice := promptPriceInfo.totalAmount
    completionTokens
    completionUnitPrice := completionPriceInfo.unitPrice
    completionPriceUnit := completionPriceInfo.unit
    completionPrice := completionPriceInfo.totalAmount
    totalTokens := promptTokens + completionTokens
    totalPrice := promptPriceInfo.totalAmount + completionPriceInfo.totalAmount
    currency := promptPriceInfo.currency
    latency := context.latency }

/-- The tokens of the prompt, when no usage object counts them. -/
def promptEstimate (context : StreamContext) : Int :=
  if context.mode = some "completion".toList then context.getNumTokensByGpt2 context.promptText
  else context.numTokensFromMessages

/-- The tokens of the completion, when no usage object counts them. -/
def completionEstimate (context : StreamContext) (fullContent : Text) (toolCalls : List ToolCall) :
    Int :=
  context.getNumTokensByGpt2 fullContent +
    (toolCalls.map (numTokensForToolCall context.getNumTokensByGpt2)).sum

/-- `_create_final_llm_result_chunk`. -/
def createFinalLlmResultChunk (context : StreamContext) (index : Nat)
    (message : AssistantPromptMessage) (finishReason : Option Text) (usage : Text → Option Int)
    (fullContent : Text) : LLMResultChunk :=
  let promptTokens := (usage "prompt_tokens".toList).getD (promptEstimate context)
  let completionTokens := (usage "completion_tokens".toList).getD
    (completionEstimate context fullContent message.toolCalls)
  { model := context.model
    delta :=
      { index
        message
        finishReason
        usage := some (calcResponseUsage context promptTokens completionTokens) } }

/-- The code behind the loop that closes an open thinking block. -/
def closeReasoning (context : StreamContext) (state : StreamState) :
    StreamState × List LLMResultChunk :=
  if state.isReasoningStarted then yieldContent context state closeTag else (state, [])

/-- The last chunk of the stream. -/
def finalChunk (context : StreamContext) (state : StreamState) : LLMResultChunk :=
  createFinalLlmResultChunk context state.chunkIndex
    { content := some [], toolCalls := state.tools.toolsCalls } state.finishReason state.usage
    state.fullAssistantContent

/-- The code behind the loop. -/
def finishStream (context : StreamContext) (state : StreamState) : List LLMResultChunk :=
  let (state, closing) := closeReasoning context state
  closing ++ [finalChunk context state]

/-- `_handle_generate_stream_response`, of what `_iter_stream_json` delivers. -/
def handleGenerateStreamResponse (context : StreamContext)
    (source : Generated StreamChunk InvokeError) : Generated LLMResultChunk StreamError :=
  match consume context .initial source.yielded with
  | (chunks, .error error) => ⟨chunks, some error⟩
  | (chunks, .ok state) =>
    match source.raised with
    | some error => ⟨chunks, some (.invoke error)⟩
    | none => ⟨chunks ++ finishStream context state, none⟩

/-- The fragments of tool calls that the handler reads in an event. -/
def toolCallsOf (context : StreamContext) (chunk : StreamChunk) : List ToolCallDelta :=
  match chunk.choices.head?.bind Choice.delta with
  | some delta => assistantMessageToolCalls context.functionCallingType delta
  | none => []

/-- The text that an event adds, and whether a thinking block is open after it. -/
def eventText (chunk : StreamChunk) (isReasoningStarted : Bool) : Text × Bool :=
  match chunk.choices.head? with
  | none => ([], isReasoningStarted)
  | some choice =>
    match choice.delta with
    | some delta => deltaContent delta isReasoningStarted
    | none => (choice.text.getD [], isReasoningStarted)

/-- The state of an event's round when its text is about to be yielded. -/
def eventState (state : StreamState) (chunk : StreamChunk) (tools : ToolState) : StreamState :=
  { chunkIndex := state.chunkIndex + if chunk.choices.isEmpty then 0 else 1
    fullAssistantContent := state.fullAssistantContent
    tools
    finishReason := (chunk.choices.head?.bind Choice.finishReason).or state.finishReason
    usage := mergeUsage state.usage chunk.usage
    isReasoningStarted := (eventText chunk state.isReasoningStarted).2 }

variable {context : StreamContext}

/-- Without fragments the calls stay as they are. -/
theorem toolStep_nil (uuid4Hex : Nat → Text) (tools : ToolState) :
    toolStep uuid4Hex tools [] = some tools := rfl

/-- What one round does: everything that an event changes, on every branch. -/
theorem handleChunk_eq (context : StreamContext) (state : StreamState) {chunk : StreamChunk}
    (clean : chunk.error = none) :
    handleChunk context state chunk =
      match toolStep context.uuid4Hex state.tools (toolCallsOf context chunk) with
      | none => .error .indexError
      | some tools => .ok (yieldContent context (eventState state chunk tools)
          (eventText chunk state.isReasoningStarted).1) := by
  obtain ⟨error, usage, choices⟩ := chunk
  obtain rfl : error = none := clean
  cases choices with
  | nil => simp [handleChunk, toolCallsOf, toolStep_nil, eventText, eventState, yieldContent]
  | cons choice rest =>
    obtain ⟨finishReason, delta, text⟩ := choice
    cases delta with
    | some delta => simp [handleChunk, handleChoice, toolCallsOf, eventText, eventState]
    | none =>
      cases text with
      | some choiceText =>
        simp [handleChunk, handleChoice, toolCallsOf, toolStep_nil, eventText, eventState]
      | none =>
        simp [handleChunk, handleChoice, toolCallsOf, toolStep_nil, eventText, eventState,
          yieldContent]

/-- Yielding a text extends the full content by it. -/
theorem yieldContent_full (context : StreamContext) (state : StreamState) (content : Text) :
    (yieldContent context state content).1.fullAssistantContent =
        state.fullAssistantContent ++ content ∧
      contents (yieldContent context state content).2 = content := by
  rw [yieldContent]
  split
  · rename_i empty
    simp [empty]
  · simp [contentChunk, LLMResultChunk.text]

/-- Yielding a text changes the full content and the position only. -/
theorem yieldContent_keeps (context : StreamContext) (state : StreamState) (content : Text) :
    (yieldContent context state content).1.tools = state.tools ∧
      (yieldContent context state content).1.finishReason = state.finishReason ∧
      (yieldContent context state content).1.usage = state.usage ∧
      (yieldContent context state content).1.isReasoningStarted = state.isReasoningStarted := by
  rw [yieldContent]
  split <;> exact ⟨rfl, rfl, rfl, rfl⟩

/-- A round that goes on had no error and merged its fragments. -/
theorem handleChunk_ok {state next : StreamState} {chunk : StreamChunk}
    {chunks : List LLMResultChunk}
    (handled : handleChunk context state chunk = .ok (next, chunks)) :
    chunk.error = none ∧
      toolStep context.uuid4Hex state.tools (toolCallsOf context chunk) = some next.tools ∧
      next.finishReason = (chunk.choices.head?.bind Choice.finishReason).or state.finishReason ∧
      next.usage = mergeUsage state.usage chunk.usage ∧
      next.isReasoningStarted = (eventText chunk state.isReasoningStarted).2 ∧
      yieldContent context (eventState state chunk next.tools)
        (eventText chunk state.isReasoningStarted).1 = (next, chunks) := by
  cases clean : chunk.error with
  | some error => simp [handleChunk, clean] at handled
  | none =>
    rw [handleChunk_eq context state clean] at handled
    split at handled
    · simp at handled
    · rename_i tools merged
      have made := Except.ok.inj handled
      obtain ⟨calls, reason, usage, flag⟩ := yieldContent_keeps context
        (eventState state chunk tools) (eventText chunk state.isReasoningStarted).1
      rw [made] at calls reason usage flag
      obtain rfl : next.tools = tools := calls
      exact ⟨rfl, merged, reason, usage, flag, made⟩

/-- A round writes the text of its event, and nothing else enters the full content. -/
theorem handleChunk_text {state next : StreamState} {chunk : StreamChunk}
    {chunks : List LLMResultChunk}
    (handled : handleChunk context state chunk = .ok (next, chunks)) :
    contents chunks = (eventText chunk state.isReasoningStarted).1 ∧
      next.fullAssistantContent = state.fullAssistantContent ++ contents chunks := by
  obtain ⟨-, -, -, -, -, made⟩ := handleChunk_ok handled
  obtain ⟨full, wrote⟩ := yieldContent_full context (eventState state chunk next.tools)
    (eventText chunk state.isReasoningStarted).1
  rw [made] at full wrote
  exact ⟨wrote, by rw [wrote]; exact full⟩

/-- Consuming two parts of a stream, one after the other. -/
theorem consume_append (context : StreamContext) (state : StreamState)
    (first second : List StreamChunk) :
    consume context state (first ++ second) =
      match consume context state first with
      | (chunks, .error error) => (chunks, .error error)
      | (chunks, .ok next) =>
        (chunks ++ (consume context next second).1, (consume context next second).2) := by
  induction first generalizing state with
  | nil => rfl
  | cons chunk rest ih =>
    rw [List.cons_append, consume, consume]
    cases handled : handleChunk context state chunk with
    | error error => rfl
    | ok result =>
      obtain ⟨next, chunks⟩ := result
      simp only [ih]
      cases consume context next rest with
      | mk later ended => cases ended <;> simp

/-- A stream that is consumed to its end is consumed to the end of each part. -/
theorem consume_append_ok {state final : StreamState} {first second : List StreamChunk}
    (ended : (consume context state (first ++ second)).2 = .ok final) :
    ∃ middle, (consume context state first).2 = .ok middle ∧
      (consume context middle second).2 = .ok final := by
  rw [consume_append] at ended
  cases part : consume context state first with
  | mk chunks result =>
    cases result with
    | error error => simp [part] at ended
    | ok middle => exact ⟨middle, rfl, by simpa [part] using ended⟩

/-- What every round keeps holds at the end of the loop, of the events it has consumed and the
chunks it has yielded. -/
theorem consume_invariant (Inv : List StreamChunk → List LLMResultChunk → StreamState → Prop)
    {source : List StreamChunk}
    (step : ∀ done yielded state chunk next chunks, chunk ∈ source → Inv done yielded state →
      handleChunk context state chunk = .ok (next, chunks) →
      Inv (done ++ [chunk]) (yielded ++ chunks) next)
    {state final : StreamState} (start : Inv [] [] state)
    (ended : (consume context state source).2 = .ok final) :
    Inv source (consume context state source).1 final := by
  suffices general : ∀ rest done yielded state final, (∀ chunk ∈ rest, chunk ∈ source) →
      Inv done yielded state → (consume context state rest).2 = .ok final →
      Inv (done ++ rest) (yielded ++ (consume context state rest).1) final by
    simpa using general source [] [] state final (fun _ found => found) start ended
  intro rest
  induction rest with
  | nil =>
    intro done yielded state final _ holds ended
    obtain rfl := Except.ok.inj ended
    simpa [consume] using holds
  | cons chunk rest ih =>
    intro done yielded state final within holds ended
    cases handled : handleChunk context state chunk with
    | error error => simp [consume, handled] at ended
    | ok result =>
      obtain ⟨next, chunks⟩ := result
      simp only [consume, handled] at ended ⊢
      have kept := step done yielded state chunk next chunks (within chunk (by simp)) holds handled
      simpa using ih _ _ next final (fun other found => within other (by simp [found])) kept ended

/-- Closing a thinking block changes the full content and the position only. -/
theorem closeReasoning_keeps (context : StreamContext) (state : StreamState) :
    (closeReasoning context state).1.tools = state.tools ∧
      (closeReasoning context state).1.finishReason = state.finishReason ∧
      (closeReasoning context state).1.usage = state.usage := by
  rw [closeReasoning]
  split
  · obtain ⟨tools, reason, usage, -⟩ := yieldContent_keeps context state closeTag
    exact ⟨tools, reason, usage⟩
  · exact ⟨rfl, rfl, rfl⟩

/-- A stream that is consumed to its end goes on behind the loop. -/
theorem handleGenerateStreamResponse_eof {chunks : List StreamChunk} {final : StreamState}
    (ended : (consume context .initial chunks).2 = .ok final) :
    handleGenerateStreamResponse context ⟨chunks, none⟩ =
      ⟨(consume context .initial chunks).1 ++ finishStream context final, none⟩ := by
  rw [handleGenerateStreamResponse]
  cases consumed : consume context .initial chunks with
  | mk yielded result =>
    obtain rfl : result = .ok final := by rw [consumed] at ended; exact ended
    rfl

/-- A handler that returns has consumed its stream to the end. -/
theorem handleGenerateStreamResponse_returned {source : Generated StreamChunk InvokeError}
    (completed : (handleGenerateStreamResponse context source).raised = none) :
    source.raised = none ∧ ∃ final, (consume context .initial source.yielded).2 = .ok final ∧
      (handleGenerateStreamResponse context source).yielded =
        (consume context .initial source.yielded).1 ++ finishStream context final := by
  rw [handleGenerateStreamResponse] at completed ⊢
  cases consumed : consume context .initial source.yielded with
  | mk chunks result =>
    cases result with
    | error error => simp [consumed] at completed
    | ok final =>
      cases raised : source.raised with
      | some error => simp [consumed, raised] at completed
      | none => exact ⟨rfl, final, rfl, rfl⟩

/-- A model that counts characters, for the examples. -/
def characterContext (functionCallingType : String) : StreamContext where
  model := "model".toList
  mode := some "chat".toList
  functionCallingType := functionCallingType.toList
  promptText := []
  numTokensFromMessages := 7
  uuid4Hex count := List.replicate count '0'
  getNumTokensByGpt2 text := text.length
  getPrice _ _ := ⟨0, 0, 0, "USD".toList⟩
  latency := 0

end DifyPlugin.OpenaiCompatible
