import DifyPlugin.Interfaces.Model.OpenaiCompatible.StreamLifecycle
import DifyPlugin.Invocations.Llm

/-!
# Blocking responses

`_handle_generate_response` reads an answer that the provider sends at once, and
`LargeLanguageModel.invoke` turns its result into one chunk. `Answer` is what a model says,
however it is sent: `Sends` and `Streams` say when a response and a stream carry it. A caller that
collects the chunks cannot tell the two apart, except by the latency.
-/

namespace DifyPlugin.OpenaiCompatible

open LlmInvocation (ResultChunk emptyResult mergeLlmResultChunk invokeLlm)

variable {ω : Type}

/-! ## The handler -/

/-- `LLMMode`. -/
inductive LLMMode where
  /-- `COMPLETION`. -/
  | completion
  /-- `CHAT`. -/
  | chat
  deriving DecidableEq

/-- `LLMMode.value_of`; `none` for its `ValueError`. -/
def LLMMode.valueOf (value : Text) : Option LLMMode :=
  if value = "completion".toList then some .completion
  else if value = "chat".toList then some .chat
  else none

/-- `function_call` of a message. -/
structure ResponseFunctionCall extends FunctionDelta where
  /-- The identifier of the call. -/
  id : Option Text := none
  deriving DecidableEq

/-- `message` of a choice. -/
structure ResponseMessage where
  /-- The text, when the key is there; it may be null. -/
  content : Option (Option Text) := none
  /-- The tool calls. -/
  toolCalls : List ToolCallDelta := []
  /-- The function call, when there is a non-empty one. -/
  functionCall : Option ResponseFunctionCall := none
  deriving DecidableEq

/-- The first element of `choices`. -/
structure ResponseChoice where
  /-- The message of a chat completion, when the key is there; it may be null. -/
  message : Option (Option ResponseMessage) := none
  /-- The text of a completion, when the key is there; it may be null. -/
  text : Option (Option Text) := none
  deriving DecidableEq

/-- `response.json()`. -/
structure ResponseBody where
  /-- The model, when the key is there; it may be null. -/
  model : Option (Option Text) := none
  /-- The choices, when the key is there. -/
  choices : Option (List ResponseChoice) := none
  /-- The items of `usage`. -/
  usage : List (Text × Option Int) := []

/-- The exceptions of the handler. -/
inductive ResponseError where
  /-- `KeyError`. -/
  | keyError (key : Text)
  /-- `IndexError`. -/
  | indexError
  /-- `TypeError`. -/
  | typeError
  /-- `ValueError`. -/
  | valueError (message : Text)
  /-- `ValidationError` of the result. -/
  | validationError
  deriving DecidableEq

/-- `_extract_response_function_call`. -/
def extractResponseFunctionCall (call : ResponseFunctionCall) : ToolCall where
  id := ensureFieldEmptyStr call.id
  type := "function".toList
  function :=
    { name := ensureFieldEmptyStr call.name
      arguments := ensureFieldEmptyStr call.arguments }

/-- `completion_type`. -/
def completionType (context : StreamContext) : Except ResponseError LLMMode :=
  match context.mode with
  | none => .error (.keyError "mode".toList)
  | some mode =>
    match LLMMode.valueOf mode with
    | none => .error (.valueError ('\'' :: mode ++ "' is not a valid LLMMode".toList))
    | some completionType => .ok completionType

/-- `response_json["choices"][0]`. -/
def responseOutput (response : ResponseBody) : Except ResponseError ResponseChoice :=
  match response.choices with
  | none => .error (.keyError "choices".toList)
  | some [] => .error .indexError
  | some (output :: _) => .ok output

/-- `response_content`. -/
def responseContent (output : ResponseChoice) : LLMMode → Except ResponseError (Option Text)
  | .chat =>
    match output.message with
    | some none => .error .typeError
    | none => .error (.keyError "content".toList)
    | some (some message) =>
      match message.content with
      | none => .error (.keyError "content".toList)
      | some content => .ok content
  | .completion =>
    match output.text with
    | none => .error (.keyError "text".toList)
    | some text => .ok text

/-- The tool calls of the assistant message, under the calling type of the credentials. -/
def responseToolCalls (functionCallingType : Text) (output : ResponseChoice) :
    LLMMode → List ToolCall
  | .completion => []
  | .chat =>
    match output.message with
    | none | some none => []
    | some (some message) =>
      if functionCallingType = "tool_call".toList then extractResponseToolCalls message.toolCalls
      else if functionCallingType = "function_call".toList then
        (message.functionCall.map extractResponseFunctionCall).toList
      else []

/-- `usage[key]`, of a count that is added up later. -/
def usageItem (usage : List (Text × Option Int)) (key : String) :
    Except ResponseError (Option Int) :=
  match usage.lookup key.toList with
  | none => .error (.keyError key.toList)
  | some count => .ok count

/-- The number of items of a content: its characters, or its parts. -/
def contentLength : Prompt.Content ω → Nat
  | .text text => text.length
  | .parts parts => parts.length

/-- `_num_tokens_for_tools`, of things that have none of the attributes of a tool. -/
def numTokensForBareTools (getNumTokensByGpt2 : Text → Int) (count : Nat) : Int :=
  count * (getNumTokensByGpt2 "type".toList + getNumTokensByGpt2 "function".toList +
    getNumTokensByGpt2 "function".toList + getNumTokensByGpt2 "name".toList +
    getNumTokensByGpt2 "description".toList)

/-- `_num_tokens_from_string(model, content)`: the name of the model is its text, and the items
of the content are its tools. -/
def numTokensFromString (context : StreamContext) (content : Prompt.Content ω) : Int :=
  context.getNumTokensByGpt2 context.model +
    numTokensForBareTools context.getNumTokensByGpt2 (contentLength content)

/-- `prompt_tokens` and `completion_tokens`. -/
def responseTokens (context : StreamContext) (promptMessages : List (Prompt.Message ω))
    (usage : List (Text × Option Int)) (content : Option Text) :
    Except ResponseError (Int × Int) :=
  if usage = [] then
    match promptMessages with
    | [] => .error .indexError
    | first :: _ =>
      match first.base.content with
      | none => .error (.valueError "Prompt message content is required".toList)
      | some promptContent =>
        match content with
        | none => .error (.valueError "Assistant message content is required".toList)
        | some text => .ok (numTokensFromString context promptContent,
            numTokensFromString context (.text text : Prompt.Content ω))
  else do
    let promptTokens ← usageItem usage "prompt_tokens"
    let completionTokens ← usageItem usage "completion_tokens"
    match promptTokens, completionTokens with
    | some promptTokens, some completionTokens => .ok (promptTokens, completionTokens)
    | _, _ => .error .typeError

/-- `response_json.get("model", model)`, which has to be a string. -/
def responseModel (context : StreamContext) (response : ResponseBody) :
    Except ResponseError Text :=
  match response.model with
  | none => .ok context.model
  | some none => .error .validationError
  | some (some model) => .ok model

/-- `_handle_generate_response`. -/
def handleGenerateResponse (context : StreamContext) (promptMessages : List (Prompt.Message ω))
    (response : ResponseBody) : Except ResponseError LLMResult := do
  let mode ← completionType context
  let output ← responseOutput response
  let content ← responseContent output mode
  let toolCalls := responseToolCalls context.functionCallingType output mode
  let (promptTokens, completionTokens) ←
    responseTokens context promptMessages response.usage content
  let model ← responseModel context response
  .ok
    { model
      message := { content, toolCalls }
      usage := calcResponseUsage context promptTokens completionTokens }

/-! ## What a caller receives -/

/-- What `_invoke` of a model returns. -/
inductive Invoked (ε : Type) where
  /-- An `LLMResult`. -/
  | whole (result : LLMResult)
  /-- A generator of chunks. -/
  | streamed (chunks : Generated LLMResultChunk ε)

/-- The chunks that `LargeLanguageModel.invoke` yields. -/
def Invoked.chunks {ε : Type} : Invoked ε → Generated LLMResultChunk ε
  | .whole result => ⟨[result.toLlmResultChunk], none⟩
  | .streamed chunks => chunks

/-- A chunk at the caller. -/
def receivedChunk (chunk : LLMResultChunk) : ResultChunk ω where
  message :=
    { content := chunk.delta.message.content.map Prompt.Content.text
      toolCalls := chunk.delta.message.toolCalls }
  usage := chunk.delta.usage

/-- The chunks at the caller. -/
def Invoked.received {ε : Type} (invoked : Invoked ε) : Generated (ResultChunk ω) ε :=
  ⟨invoked.chunks.yielded.map receivedChunk, invoked.chunks.raised⟩

/-! ## Answers -/

/-- What a model answers. -/
structure Answer where
  /-- The text. -/
  text : Text
  /-- The tool calls. -/
  toolCalls : List ToolCall
  /-- The tokens of the prompt. -/
  promptTokens : Int
  /-- The tokens of the text and the calls. -/
  completionTokens : Int

/-- What a caller collects of an answer. -/
def Answer.collected (context : StreamContext) (caller : Text) (answer : Answer) :
    LlmInvocation.LLMResult ω where
  model := caller
  message := { content := some (.text answer.text), toolCalls := answer.toolCalls }
  usage := LlmInvocation.mergeUsage LlmInvocation.emptyUsage
    (some (calcResponseUsage context answer.promptTokens answer.completionTokens))

/-- A response carries the answer. -/
structure Sends (context : StreamContext) (response : ResponseBody) (mode : LLMMode)
    (output : ResponseChoice) (content : Option Text) (answer : Answer) : Prop where
  /-- The mode of the credentials. -/
  typed : completionType context = .ok mode
  /-- The first choice. -/
  chosen : responseOutput response = .ok output
  /-- Its content, under the key of the mode. -/
  filled : responseContent output mode = .ok content
  /-- The text, which is empty when the content is null. -/
  text : content.getD [] = answer.text
  /-- The tool calls. -/
  toolCalls : responseToolCalls context.functionCallingType output mode = answer.toolCalls
  /-- The count of the prompt. -/
  promptTokens :
    response.usage.lookup "prompt_tokens".toList = some (some answer.promptTokens)
  /-- The count of the completion. -/
  completionTokens :
    response.usage.lookup "completion_tokens".toList = some (some answer.completionTokens)
  /-- The model may be missing, but it is not null. -/
  named : response.model ≠ some none

/-- The text that an event adds. -/
def streamedText (chunk : StreamChunk) : Text :=
  match chunk.choices.head? with
  | none => []
  | some choice =>
    match choice.delta with
    | some delta => delta.content.getD []
    | none => choice.text.getD []

/-- An event has neither an error nor reasoning. -/
structure Plain (chunk : StreamChunk) : Prop where
  /-- No error. -/
  clean : chunk.error = none
  /-- No reasoning. -/
  silent : ∀ choice ∈ chunk.choices.head?, ∀ delta ∈ choice.delta, delta.reasoningText = []

/-- The fragments of an index make up a call: the last identifier, type and name, and all parts
of the arguments. -/
structure MakesUp (own : List ToolCallDelta) (call : ToolCall) : Prop where
  /-- The identifier. -/
  id : (own.filterMap sentId).getLast? = some call.id
  /-- The type, which may be left to the default. -/
  type : (own.filterMap sentType).getLast?.getD "function".toList = call.type
  /-- The name. -/
  name : (own.filterMap sentName).getLast?.getD [] = call.function.name
  /-- The arguments. -/
  arguments : own.flatMap sentArguments = call.function.arguments

/-- A stream carries the answer. -/
structure Streams (context : StreamContext) (chunks : List StreamChunk) (answer : Answer) :
    Prop where
  /-- No event has an error or reasoning. -/
  plain : ∀ chunk ∈ chunks, Plain chunk
  /-- The texts of the events join to the text. -/
  text : chunks.flatMap streamedText = answer.text
  /-- An event has one fragment for an index at most. -/
  once : ∀ chunk ∈ chunks, ((toolCallsOf context chunk).map ToolCallDelta.index).Nodup
  /-- Identifiers tell the indices apart. -/
  separate : Separate context.uuid4Hex (chunks.flatMap (toolCallsOf context))
  /-- The fragments of the called indices make up the calls. -/
  toolCalls : List.Forall₂
    (fun index call => MakesUp (fragmentsOf (chunks.flatMap (toolCallsOf context)) index) call)
    (calledIndices (chunks.flatMap (toolCallsOf context))) answer.toolCalls
  /-- The last count of the prompt. -/
  promptTokens : lastUsage chunks "prompt_tokens".toList = some answer.promptTokens
  /-- The last count of the completion. -/
  completionTokens : lastUsage chunks "completion_tokens".toList = some answer.completionTokens

variable {context : StreamContext} {answer : Answer}

section Collecting

variable {result : LlmInvocation.LLMResult ω} {before : Text}

/-- The first list of tool calls is kept. -/
theorem mergeToolCalls_nil (toolCalls : List ToolCall) :
    LlmInvocation.mergeToolCalls [] toolCalls = toolCalls := by
  rw [LlmInvocation.mergeToolCalls]
  split
  · rename_i none
    exact none.symm
  · rfl

/-- A chunk adds its text, whether or not it has a content. -/
theorem mergeLlmResultChunk_received (chunk : LLMResultChunk)
    (text : result.message.content = some (.text before)) :
    mergeLlmResultChunk result (receivedChunk chunk) =
      some
        { result with
          message :=
            { content := some (.text (before ++ chunk.text))
              toolCalls := LlmInvocation.mergeToolCalls result.message.toolCalls
                chunk.delta.message.toolCalls }
          usage := LlmInvocation.mergeUsage result.usage chunk.delta.usage } := by
  rw [mergeLlmResultChunk, text, receivedChunk, LLMResultChunk.text]
  cases chunk.delta.message.content with
  | none => simp [LlmInvocation.mergeContent]
  | some more => simp [LlmInvocation.mergeContent]

/-- Chunks that carry a text only add their texts. -/
theorem foldlM_contentChunks {chunks : List LLMResultChunk}
    (only : ∀ chunk ∈ chunks, ∃ index text, chunk = contentChunk context.model index text)
    (text : result.message.content = some (.text before)) :
    (chunks.map receivedChunk).foldlM mergeLlmResultChunk result =
      some
        { result with
          message :=
            { result.message with content := some (.text (before ++ contents chunks)) } } := by
  induction chunks generalizing result before with
  | nil =>
    obtain ⟨model, ⟨content, toolCalls⟩, usage⟩ := result
    obtain rfl : content = some (.text before) := text
    simp
  | cons chunk rest ih =>
    obtain ⟨first, others⟩ := List.forall_mem_cons.mp only
    obtain ⟨index, added, rfl⟩ := first
    rw [List.map_cons, List.foldlM_cons, mergeLlmResultChunk_received _ text,
      Option.bind_eq_bind, Option.bind_some, ih others rfl, contents_cons, List.append_assoc]
    rfl

/-- A caller collects texts, and the calls and the usage of the last chunk. -/
theorem invokeLlm_last {body : List LLMResultChunk} (last : LLMResultChunk)
    (only : ∀ chunk ∈ body, ∃ index text, chunk = contentChunk context.model index text)
    (caller : Text) :
    invokeLlm caller (⟨(body ++ [last]).map receivedChunk, none⟩ : Generated _ StreamError) =
      .ok
        { model := caller
          message :=
            { content := some (.text (contents body ++ last.text) : Prompt.Content ω)
              toolCalls := last.delta.message.toolCalls }
          usage := LlmInvocation.mergeUsage LlmInvocation.emptyUsage last.delta.usage } := by
  have texts := @foldlM_contentChunks ω context (emptyResult caller) [] body only rfl
  have merged : ((body ++ [last]).map receivedChunk).foldlM mergeLlmResultChunk
      (emptyResult caller : LlmInvocation.LLMResult ω) = some
        { model := caller
          message :=
            { content := some (.text (contents body ++ last.text))
              toolCalls := LlmInvocation.mergeToolCalls [] last.delta.message.toolCalls }
          usage := LlmInvocation.mergeUsage LlmInvocation.emptyUsage last.delta.usage } := by
    rw [List.map_append, List.foldlM_append, texts, Option.bind_eq_bind, Option.bind_some,
      List.map_singleton, List.foldlM_cons, mergeLlmResultChunk_received last rfl]
    rfl
  rw [invokeLlm, LlmInvocation.collect, merged, mergeToolCalls_nil]

end Collecting

section Whole

variable {response : ResponseBody} {mode : LLMMode} {output : ResponseChoice}
  {content : Option Text}

/-- The handler reads the answer that a response carries. -/
theorem Sends.handled (sends : Sends context response mode output content answer)
    (promptMessages : List (Prompt.Message ω)) :
    ∃ model, handleGenerateResponse context promptMessages response =
      .ok { model
            message := { content, toolCalls := answer.toolCalls }
            usage := calcResponseUsage context answer.promptTokens answer.completionTokens } := by
  have counted : response.usage ≠ [] := by
    intro empty
    have found := sends.promptTokens
    rw [empty] at found
    simp at found
  have tokens : responseTokens context promptMessages response.usage content =
      .ok (answer.promptTokens, answer.completionTokens) := by
    rw [responseTokens.eq_def, if_neg counted, usageItem, usageItem, sends.promptTokens,
      sends.completionTokens]
    rfl
  obtain ⟨model, named⟩ : ∃ model, responseModel context response = .ok model := by
    have present := sends.named
    rw [responseModel]
    split
    · exact ⟨_, rfl⟩
    · rename_i missing
      exact absurd missing present
    · exact ⟨_, rfl⟩
  refine ⟨model, ?_⟩
  rw [handleGenerateResponse, sends.typed]
  simp only [bind, Except.bind, sends.chosen, sends.filled, sends.toolCalls, tokens, named]

/-- A caller of a model that does not stream collects its answer. -/
theorem Sends.collected (sends : Sends context response mode output content answer)
    (promptMessages : List (Prompt.Message ω)) (caller : Text) :
    ∃ result, handleGenerateResponse context promptMessages response = .ok result ∧
      invokeLlm caller (Invoked.whole result : Invoked StreamError).received =
        .ok (answer.collected context caller : LlmInvocation.LLMResult ω) := by
  obtain ⟨model, handled⟩ := sends.handled promptMessages
  refine ⟨_, handled, ?_⟩
  have collected := @invokeLlm_last ω context [] (LLMResult.toLlmResultChunk
    { model
      message := { content, toolCalls := answer.toolCalls }
      usage := calcResponseUsage context answer.promptTokens answer.completionTokens })
    (List.forall_mem_nil _) caller
  have text : contents [] ++ LLMResultChunk.text (LLMResult.toLlmResultChunk
      { model
        message := { content, toolCalls := answer.toolCalls }
        usage := calcResponseUsage context answer.promptTokens answer.completionTokens }) =
      answer.text := sends.text
  rw [text] at collected
  exact collected

end Whole

section Streamed

variable {chunks : List StreamChunk} {yielded : List LLMResultChunk}

/-- Without reasoning an event adds its own text, and opens no thinking block. -/
theorem Plain.eventText {chunk : StreamChunk} (plain : Plain chunk) :
    OpenaiCompatible.eventText chunk false = (streamedText chunk, false) := by
  rw [OpenaiCompatible.eventText, streamedText]
  cases first : chunk.choices.head? with
  | none => rfl
  | some choice =>
    cases filled : choice.delta with
    | none => simp only [filled]
    | some delta =>
      have silent := plain.silent choice (by simp [first]) delta (by simp [filled])
      have read : (truthy delta.content).getD [] = delta.content.getD [] :=
        (ensureFieldEmptyStr_eq delta.content).symm
      simp only [filled]
      simp [deltaContent, wrapThinkingByReasoningContent, silent, read]

/-- The loop outside of thinking blocks: it has yielded the texts of the events, and nothing
else. -/
structure Spoken (context : StreamContext) (done : List StreamChunk)
    (yielded : List LLMResultChunk) (state : StreamState) : Prop where
  /-- No thinking block is open. -/
  closed : state.isReasoningStarted = false
  /-- The texts of the events. -/
  text : contents yielded = done.flatMap streamedText
  /-- Every chunk carries a text only. -/
  only : ∀ chunk ∈ yielded, ∃ index text, chunk = contentChunk context.model index text

/-- A round yields the text of its event. -/
theorem Spoken.handleChunk {done : List StreamChunk} {state next : StreamState}
    {chunk : StreamChunk} {more : List LLMResultChunk} (spoken : Spoken context done yielded state)
    (plain : Plain chunk) (handled : handleChunk context state chunk = .ok (next, more)) :
    Spoken context (done ++ [chunk]) (yielded ++ more) next := by
  obtain ⟨-, -, -, -, flag, made⟩ := handleChunk_ok handled
  obtain ⟨wrote, -⟩ := handleChunk_text handled
  rw [spoken.closed, plain.eventText] at flag wrote
  refine ⟨flag, ?_, ?_⟩
  · rw [contents_append, spoken.text, wrote, List.flatMap_append, List.flatMap_singleton]
  · intro listed found
    rcases List.mem_append.mp found with earlier | new
    · exact spoken.only listed earlier
    · rw [yieldContent] at made
      split at made
      · rw [← (Prod.mk.inj made).2] at new
        exact absurd new List.not_mem_nil
      · rw [← (Prod.mk.inj made).2] at new
        exact ⟨_, _, List.mem_singleton.mp new⟩

/-- Fragments make up the call that they are merged into. -/
theorem MakesUp.call {fragments : List ToolCallDelta} {index : Int} {call : ToolCall}
    (makes : MakesUp (fragmentsOf fragments index) call) (uuid4Hex : Nat → Text) :
    callFrom (idOf uuid4Hex fragments index) (fragmentsOf fragments index) = call := by
  have named : idOf uuid4Hex fragments index = call.id := by
    rw [idOf, sentIds, makes.id, Option.getD_some]
  rw [callFrom, named, makes.type, makes.name, makes.arguments]

/-- The calls of a stream are those of the answer. -/
theorem Streams.merged (streams : Streams context chunks answer) :
    ∃ tools, assembledTools context chunks = some tools ∧
      tools.toolsCalls = answer.toolCalls := by
  have separate := streams.separate
  rw [List.flatMap_def] at separate
  obtain ⟨tools, merged, tracks⟩ := foldlM_tracks (List.forall_mem_map.mpr streams.once) separate
  refine ⟨tools, merged, ?_⟩
  have calls := tracks.calls
  rw [← List.flatMap_def] at calls
  rw [calls, callsFrom]
  have made := streams.toolCalls
  generalize calledIndices (chunks.flatMap (toolCallsOf context)) = called at made ⊢
  generalize answer.toolCalls = expected at made ⊢
  induction made with
  | nil => rfl
  | cons makes _ ih => rw [List.map_cons, makes.call, ih]

/-- A caller of a model that streams collects the answer. -/
theorem Streams.collected (streams : Streams context chunks answer) (caller : Text) :
    invokeLlm caller
        (Invoked.streamed (handleGenerateStreamResponse context ⟨chunks, none⟩)).received =
      .ok (answer.collected context caller : LlmInvocation.LLMResult ω) := by
  obtain ⟨tools, merged, calls⟩ := streams.merged
  obtain ⟨final, ended, same⟩ := @consume_tools context .initial chunks
    (fun chunk found => (streams.plain chunk found).clean) tools merged
  have spoken := consume_invariant (Spoken context)
    (fun _ _ _ chunk _ _ found spoken handled =>
      spoken.handleChunk (streams.plain chunk found) handled)
    ⟨rfl, rfl, List.forall_mem_nil _⟩ ended
  have accounts := (consume_kept ended).2
  have finished : finishStream context final = [finalChunk context final] := by
    rw [finishStream, closeReasoning, if_neg (by rw [spoken.closed]; decide)]
    rfl
  have usage : (finalChunk context final).delta.usage =
      some (calcResponseUsage context answer.promptTokens answer.completionTokens) := by
    rw [finalChunk, createFinalLlmResultChunk, accounts.usage, accounts.usage,
      streams.promptTokens, streams.completionTokens]
    rfl
  have collected := @invokeLlm_last ω context _ (finalChunk context final) spoken.only caller
  have quiet : (finalChunk context final).text = [] := rfl
  have toolCalls : (finalChunk context final).delta.message.toolCalls = answer.toolCalls := by
    rw [← calls, ← same]
    rfl
  rw [quiet, List.append_nil, spoken.text, streams.text, toolCalls, usage] at collected
  rw [handleGenerateStreamResponse_eof ended, finished]
  exact collected

end Streamed

/-- A caller collects the same result from a response and from a stream that carry the same
answer, except for the latency. -/
theorem invokeLlm_streamed (context : StreamContext) (answer : Answer) (response : ResponseBody)
    (chunks : List StreamChunk) (mode : LLMMode) (output : ResponseChoice) (content : Option Text)
    (sends : Sends context response mode output content answer)
    (streams : Streams context chunks answer)
    (promptMessages : List (Prompt.Message ω)) (caller : Text) (elapsed : Rat) :
    ∃ result collected,
      handleGenerateResponse { context with latency := elapsed } promptMessages response =
        .ok result ∧
      invokeLlm caller
          (Invoked.streamed (handleGenerateStreamResponse context ⟨chunks, none⟩)).received =
        .ok (collected : LlmInvocation.LLMResult ω) ∧
      invokeLlm caller (Invoked.whole result : Invoked StreamError).received =
        .ok { collected with usage := { collected.usage with latency := elapsed } } := by
  have later : Sends { context with latency := elapsed } response mode output content answer :=
    { sends with typed := sends.typed }
  obtain ⟨result, handled, collected⟩ := later.collected promptMessages caller
  exact ⟨result, answer.collected context caller, handled, streams.collected caller, collected⟩

/-- An answer with a text and two calls. -/
def weatherAnswer : Answer where
  text := "Both cities.".toList
  toolCalls :=
    [⟨"call-berlin".toList, "function".toList, ⟨"weather".toList, "Berlin".toList⟩⟩,
      ⟨"call-paris".toList, "function".toList, ⟨"weather".toList, "Paris".toList⟩⟩]
  promptTokens := 9
  completionTokens := 12

/-- The choice of the response that carries it. -/
def weatherChoice : ResponseChoice where
  message := some (some
    { content := some (some "Both cities.".toList)
      toolCalls :=
        [⟨none, some "call-berlin".toList, some "function".toList,
            some ⟨some "weather".toList, some "Berlin".toList⟩⟩,
          ⟨none, some "call-paris".toList, some "function".toList,
            some ⟨some "weather".toList, some "Paris".toList⟩⟩] })

/-- The response that carries it. -/
def weatherResponse : ResponseBody where
  choices := some [weatherChoice]
  usage := [("prompt_tokens".toList, some 9), ("completion_tokens".toList, some 12)]

/-- A stream that carries it: the text in two pieces, then the fragments of both calls. -/
def weatherStream : List StreamChunk :=
  [{ choices := [{ delta := some { content := some "Both ".toList } }] },
    { choices := [{ delta := some { content := some "cities.".toList } }],
      usage := [("prompt_tokens".toList, some 9), ("completion_tokens".toList, some 2)] }] ++
  parallelCalls ++ [{ usage := [("completion_tokens".toList, some 12)] }]

/-- The response and the stream are collected into one result. -/
theorem invokeLlm_streamed_weather :
    ∃ result collected,
      handleGenerateResponse { characterContext "tool_call" with latency := 2 }
        ([] : List (Prompt.Message Unit)) weatherResponse = .ok result ∧
      invokeLlm [] (Invoked.streamed (handleGenerateStreamResponse
        (characterContext "tool_call") ⟨weatherStream, none⟩)).received =
        .ok (collected : LlmInvocation.LLMResult Unit) ∧
      invokeLlm [] (Invoked.whole result : Invoked StreamError).received =
        .ok { collected with usage := { collected.usage with latency := 2 } } := by
  have sends : Sends (characterContext "tool_call") weatherResponse .chat weatherChoice
      (some "Both cities.".toList) weatherAnswer :=
    { typed := by rfl
      chosen := by rfl
      filled := by rfl
      text := by rfl
      toolCalls := by decide
      promptTokens := by decide
      completionTokens := by decide
      named := by decide }
  have separate : Separate (characterContext "tool_call").uuid4Hex
      (weatherStream.flatMap (toolCallsOf (characterContext "tool_call"))) :=
    { indexed := fun fragment found => Option.isSome_iff_exists.mp
        ((by decide : ∀ fragment ∈ weatherStream.flatMap
          (toolCallsOf (characterContext "tool_call")), fragment.index.isSome = true)
          fragment found)
      separate := by decide
      once := by decide
      fresh := by decide }
  have called : calledIndices (weatherStream.flatMap
      (toolCallsOf (characterContext "tool_call"))) = [1, 0] := by decide
  have streams : Streams (characterContext "tool_call") weatherStream weatherAnswer :=
    { plain := by
        have clean : ∀ chunk ∈ weatherStream, chunk.error = none := by decide
        have silent : ∀ chunk ∈ weatherStream, ∀ choice ∈ chunk.choices.head?,
            ∀ delta ∈ choice.delta, delta.reasoningText = [] := by decide
        exact fun chunk found => ⟨clean chunk found, silent chunk found⟩
      text := by decide
      once := by decide
      separate
      toolCalls := by
        rw [called]
        exact .cons ⟨by decide, by decide, by decide, by decide⟩
          (.cons ⟨by decide, by decide, by decide, by decide⟩ .nil)
      promptTokens := by decide
      completionTokens := by decide }
  exact invokeLlm_streamed (characterContext "tool_call") weatherAnswer weatherResponse
    weatherStream .chat weatherChoice _ sends streams [] [] 2

end DifyPlugin.OpenaiCompatible
