import DifyPlugin.Entities.Llm
import DifyPlugin.Entities.PromptMessage
import DifyPlugin.Library.Generator
import Mathlib.Algebra.BigOperators.Group.List.Basic
import Mathlib.Algebra.Ring.Int.Defs

/-!
# Blocking invocations of a language model

`LLMInvocation` and `LLMStructuredOutputInvocation` without streaming collect the chunks that the
host sends into one result: text is appended and tokens are added, prices replace earlier prices,
and a list of tool calls replaces an earlier list.
-/

namespace DifyPlugin.LlmInvocation

variable {ω ε : Type}

/-- The fields of `AssistantPromptMessage` that are merged. -/
structure ResultMessage (ω : Type) where
  /-- `content`. -/
  content : Option (Prompt.Content ω)
  /-- `tool_calls`. -/
  toolCalls : List ToolCall := []

/-- The fields of `LLMResultChunkWithStructuredOutput` that are merged; a plain `LLMResultChunk`
has no structured output. -/
structure ResultChunk (ω : Type) where
  /-- `delta.message`. -/
  message : ResultMessage ω
  /-- `delta.usage`. -/
  usage : Option LLMUsage := none
  /-- `structured_output`. -/
  structuredOutput : Option (List (Text × Json ω)) := none

/-- `LLMResult`. -/
structure LLMResult (ω : Type) where
  /-- `model`. -/
  model : Text
  /-- `message`. -/
  message : ResultMessage ω
  /-- `usage`. -/
  usage : LLMUsage

/-- `LLMResultWithStructuredOutput`. -/
structure LLMResultWithStructuredOutput (ω : Type) extends LLMResult ω where
  /-- `structured_output`. -/
  structuredOutput : Option (List (Text × Json ω))

/-- `LLMUsage.empty_usage`. -/
def emptyUsage : LLMUsage where
  promptTokens := 0
  promptUnitPrice := 0
  promptPriceUnit := 0
  promptPrice := 0
  completionTokens := 0
  completionUnitPrice := 0
  completionPriceUnit := 0
  completionPrice := 0
  totalTokens := 0
  totalPrice := 0
  currency := "USD".toList
  latency := 0

/-- `result.message.content + content` for a content that is a string; `none` when the one of the
result is not. -/
def mergeContent (content : Option (Prompt.Content ω)) :
    Option (Prompt.Content ω) → Option (Option (Prompt.Content ω))
  | some (.text more) =>
    match content with
    | some (.text text) => some (some (.text (text ++ more)))
    | _ => none
  | _ => some content

/-- The update of the token counts and prices. -/
def mergeUsage (usage : LLMUsage) : Option LLMUsage → LLMUsage
  | none => usage
  | some more =>
    { usage with
      promptTokens := usage.promptTokens + more.promptTokens
      completionTokens := usage.completionTokens + more.completionTokens
      totalTokens := usage.totalTokens + more.totalTokens
      completionPrice := more.completionPrice
      promptPrice := more.promptPrice
      totalPrice := more.totalPrice
      currency := more.currency
      latency := more.latency }

/-- A list of tool calls that replaces the old one unless it is empty. -/
def mergeToolCalls (toolCalls more : List ToolCall) : List ToolCall :=
  if more = [] then toolCalls else more

/-- `merge_llm_result_chunk`; `none` for its `TypeError`. -/
def mergeLlmResultChunk (result : LLMResult ω) (chunk : ResultChunk ω) : Option (LLMResult ω) :=
  (mergeContent result.message.content chunk.message.content).map fun content =>
    { result with
      message :=
        { content, toolCalls := mergeToolCalls result.message.toolCalls chunk.message.toolCalls }
      usage := mergeUsage result.usage chunk.usage }

/-- The body of the loop of `LLMStructuredOutputInvocation.invoke`. -/
def mergeStructuredChunk (result : LLMResultWithStructuredOutput ω) (chunk : ResultChunk ω) :
    Option (LLMResultWithStructuredOutput ω) :=
  (mergeLlmResultChunk result.toLLMResult chunk).map fun merged =>
    { toLLMResult := merged
      structuredOutput :=
        match chunk.structuredOutput with
        | none | some [] => result.structuredOutput
        | some output => some output }

/-- Why a blocking invocation fails. -/
inductive Failure (ε : Type) where
  /-- `TypeError`. -/
  | typeError
  /-- The stream raised. -/
  | raised (error : ε)

/-- The loop over the chunks of a stream. -/
def collect {ρ : Type} (merge : ρ → ResultChunk ω → Option ρ) (result : ρ)
    (stream : Generated (ResultChunk ω) ε) : Except (Failure ε) ρ :=
  match stream.yielded.foldlM merge result, stream.raised with
  | none, _ => .error .typeError
  | some _, some error => .error (.raised error)
  | some collected, none => .ok collected

/-- The result before the first chunk. -/
def emptyResult (model : Text) : LLMResult ω :=
  { model, message := { content := some (.text []) }, usage := emptyUsage }

/-- `LLMInvocation.invoke` without streaming. -/
def invokeLlm (model : Text) (stream : Generated (ResultChunk ω) ε) :
    Except (Failure ε) (LLMResult ω) :=
  collect mergeLlmResultChunk (emptyResult model) stream

/-- `LLMStructuredOutputInvocation.invoke` without streaming. -/
def invokeLlmStructuredOutput (model : Text) (stream : Generated (ResultChunk ω) ε) :
    Except (Failure ε) (LLMResultWithStructuredOutput ω) :=
  collect mergeStructuredChunk ⟨emptyResult model, none⟩ stream

/-- The string content of a chunk. -/
def ResultChunk.text (chunk : ResultChunk ω) : Text :=
  match chunk.message.content with
  | some (.text text) => text
  | _ => []

/-- The usages of a stream. -/
def usages (chunks : List (ResultChunk ω)) : List LLMUsage := chunks.filterMap ResultChunk.usage

/-- The last list of tool calls that is not empty. -/
def lastToolCalls (chunks : List (ResultChunk ω)) : List ToolCall :=
  chunks.foldl (fun toolCalls chunk => mergeToolCalls toolCalls chunk.message.toolCalls) []

/-- The usage that a blocking result has of those of a stream. -/
structure UsageOf (listed : List LLMUsage) (usage : LLMUsage) : Prop where
  /-- All prompt tokens. -/
  promptTokens : usage.promptTokens = (listed.map LLMUsage.promptTokens).sum
  /-- All completion tokens. -/
  completionTokens : usage.completionTokens = (listed.map LLMUsage.completionTokens).sum
  /-- All tokens. -/
  totalTokens : usage.totalTokens = (listed.map LLMUsage.totalTokens).sum
  /-- The last price of the prompt. -/
  promptPrice : usage.promptPrice = (listed.getLast?.getD emptyUsage).promptPrice
  /-- The last price of the completion. -/
  completionPrice : usage.completionPrice = (listed.getLast?.getD emptyUsage).completionPrice
  /-- The last price. -/
  totalPrice : usage.totalPrice = (listed.getLast?.getD emptyUsage).totalPrice
  /-- The last currency. -/
  currency : usage.currency = (listed.getLast?.getD emptyUsage).currency
  /-- The last latency. -/
  latency : usage.latency = (listed.getLast?.getD emptyUsage).latency

/-- What a blocking result has of a stream, whatever its tool calls. -/
structure Merged (chunks : List (ResultChunk ω)) (result : LLMResult ω) : Prop where
  /-- All string contents. -/
  content : result.message.content = some (.text (chunks.flatMap ResultChunk.text))
  /-- Sums of the tokens, and the last prices. -/
  usage : UsageOf (usages chunks) result.usage

/-- Every tool call of a stream is in the result. -/
def AllCalls (chunks : List (ResultChunk ω)) (result : LLMResult ω) : Prop :=
  ∀ chunk ∈ chunks, ∀ call ∈ chunk.message.toolCalls, call ∈ result.message.toolCalls

/-- The last chunk with tool calls repeats those of all earlier chunks. -/
def LastRepeats (chunks : List (ResultChunk ω)) : Prop :=
  ∀ before chunk after, chunks = before ++ chunk :: after → chunk.message.toolCalls ≠ [] →
    (∀ later ∈ after, later.message.toolCalls = []) →
      ∀ earlier ∈ before, ∀ call ∈ earlier.message.toolCalls, call ∈ chunk.message.toolCalls

section Merging

variable {chunks : List (ResultChunk ω)} {chunk : ResultChunk ω} {result : LLMResult ω}

/-- A usage adds its tokens and replaces the prices. -/
theorem usageOf_mergeUsage {listed : List LLMUsage} {usage : LLMUsage} (more : Option LLMUsage)
    (merged : UsageOf listed usage) : UsageOf (listed ++ more.toList) (mergeUsage usage more) := by
  cases more with
  | none => simpa [mergeUsage] using merged
  | some more =>
    exact {
      promptTokens := by simp [mergeUsage, merged.promptTokens]
      completionTokens := by simp [mergeUsage, merged.completionTokens]
      totalTokens := by simp [mergeUsage, merged.totalTokens]
      promptPrice := by simp [mergeUsage]
      completionPrice := by simp [mergeUsage]
      totalPrice := by simp [mergeUsage]
      currency := by simp [mergeUsage]
      latency := by simp [mergeUsage] }

/-- No usage sets the unit prices. -/
theorem mergeUsage_units (usage : LLMUsage) (more : Option LLMUsage) :
    (mergeUsage usage more).promptUnitPrice = usage.promptUnitPrice ∧
      (mergeUsage usage more).promptPriceUnit = usage.promptPriceUnit ∧
      (mergeUsage usage more).completionUnitPrice = usage.completionUnitPrice ∧
      (mergeUsage usage more).completionPriceUnit = usage.completionPriceUnit := by
  cases more <;> exact ⟨rfl, rfl, rfl, rfl⟩

/-- A result before the first chunk has nothing. -/
theorem merged_nil (model : Text) : Merged ([] : List (ResultChunk ω)) (emptyResult model) where
  content := rfl
  usage := ⟨rfl, rfl, rfl, rfl, rfl, rfl, rfl, rfl⟩

/-- One more chunk is merged. -/
theorem mergeLlmResultChunk_merged (chunk : ResultChunk ω) (merged : Merged chunks result) :
    ∃ next, mergeLlmResultChunk result chunk = some next ∧ Merged (chunks ++ [chunk]) next ∧
      next.message.toolCalls =
        mergeToolCalls result.message.toolCalls chunk.message.toolCalls := by
  obtain ⟨content, appended, joined⟩ : ∃ content,
      mergeContent result.message.content chunk.message.content = some content ∧
        content = some (.text ((chunks ++ [chunk]).flatMap ResultChunk.text)) := by
    rw [merged.content, List.flatMap_append, List.flatMap_singleton, ResultChunk.text]
    match chunk.message.content with
    | none => exact ⟨_, rfl, by simp⟩
    | some (.text text) => exact ⟨_, rfl, rfl⟩
    | some (.parts parts) => exact ⟨_, rfl, by simp⟩
  have added : usages (chunks ++ [chunk]) = usages chunks ++ chunk.usage.toList := by
    cases reported : chunk.usage <;> simp [usages, reported]
  refine ⟨_, by rw [mergeLlmResultChunk, appended]; rfl, ?_, rfl⟩
  exact ⟨joined, by rw [added]; exact usageOf_mergeUsage chunk.usage merged.usage⟩

/-- The chunks are merged one after another. -/
theorem foldlM_merged (rest : List (ResultChunk ω)) (merged : Merged chunks result) :
    ∃ last, rest.foldlM mergeLlmResultChunk result = some last ∧ Merged (chunks ++ rest) last ∧
      last.message.toolCalls = rest.foldl
        (fun toolCalls chunk => mergeToolCalls toolCalls chunk.message.toolCalls)
        result.message.toolCalls := by
  induction rest generalizing chunks result with
  | nil => exact ⟨result, rfl, by simpa using merged, rfl⟩
  | cons chunk rest ih =>
    obtain ⟨next, made, grown, calls⟩ := mergeLlmResultChunk_merged chunk merged
    obtain ⟨last, ended, all, later⟩ := ih grown
    refine ⟨last, ?_, ?_, ?_⟩
    · rw [List.foldlM_cons, made]
      exact ended
    · rwa [List.append_assoc, List.singleton_append] at all
    · rw [later, calls, List.foldl_cons]

/-- The structured loop merges like the plain one. -/
theorem foldlM_structured (rest : List (ResultChunk ω))
    (result : LLMResultWithStructuredOutput ω) :
    (rest.foldlM mergeStructuredChunk result).map (·.toLLMResult) =
      rest.foldlM mergeLlmResultChunk result.toLLMResult := by
  induction rest generalizing result with
  | nil => rfl
  | cons chunk rest ih =>
    rw [List.foldlM_cons, List.foldlM_cons, mergeStructuredChunk]
    cases mergeLlmResultChunk result.toLLMResult chunk with
    | none => rfl
    | some next => exact ih _

/-- A list of tool calls is replaced by the next one that is not empty. -/
theorem foldl_toolCalls_silent {rest : List (ResultChunk ω)}
    (silent : ∀ later ∈ rest, later.message.toolCalls = []) (toolCalls : List ToolCall) :
    rest.foldl (fun toolCalls chunk => mergeToolCalls toolCalls chunk.message.toolCalls)
      toolCalls = toolCalls := by
  induction rest with
  | nil => rfl
  | cons chunk rest ih =>
    obtain ⟨first, others⟩ := List.forall_mem_cons.mp silent
    rw [List.foldl_cons, first]
    exact ih others

/-- The last list of tool calls is that of the last chunk that has some. -/
theorem lastToolCalls_eq {before after : List (ResultChunk ω)}
    (calls : chunk.message.toolCalls ≠ [])
    (silent : ∀ later ∈ after, later.message.toolCalls = []) :
    lastToolCalls (before ++ chunk :: after) = chunk.message.toolCalls := by
  rw [lastToolCalls, List.foldl_append, List.foldl_cons, foldl_toolCalls_silent silent,
    mergeToolCalls, if_neg calls]

/-- A stream has no tool calls, or a last chunk with some. -/
theorem last_calling (chunks : List (ResultChunk ω)) :
    (∀ chunk ∈ chunks, chunk.message.toolCalls = []) ∨
      ∃ before chunk after, chunks = before ++ chunk :: after ∧
        chunk.message.toolCalls ≠ [] ∧ ∀ later ∈ after, later.message.toolCalls = [] := by
  induction chunks with
  | nil => exact Or.inl (List.forall_mem_nil _)
  | cons first rest ih =>
    rcases ih with silent | ⟨before, chunk, after, rfl, calls, silent⟩
    · by_cases calls : first.message.toolCalls = []
      · exact Or.inl (List.forall_mem_cons.mpr ⟨calls, silent⟩)
      · exact Or.inr ⟨[], first, rest, rfl, calls, silent⟩
    · exact Or.inr ⟨first :: before, chunk, after, rfl, calls, silent⟩

/-- The last list has every tool call when it repeats the earlier ones. -/
theorem allCalls_iff (calls : result.message.toolCalls = lastToolCalls chunks) :
    AllCalls chunks result ↔ LastRepeats chunks := by
  rw [AllCalls, calls]
  constructor
  · intro all before chunk after split called silent earlier listed call made
    have kept := all earlier (by simp [split, listed]) call made
    rwa [split, lastToolCalls_eq called silent] at kept
  · intro repeats
    rcases last_calling chunks with silent | ⟨before, chunk, after, split, called, silent⟩
    · intro chunk listed call made
      rw [silent chunk listed] at made
      exact absurd made List.not_mem_nil
    · intro other listed call made
      rw [split, lastToolCalls_eq called silent]
      rw [split, List.mem_append, List.mem_cons] at listed
      rcases listed with earlier | same | later
      · exact repeats before chunk after split called silent other earlier call made
      · exact same ▸ made
      · rw [silent other later] at made
        exact absurd made List.not_mem_nil

end Merging

/-- A blocking invocation has all text and tokens and the last prices of its stream, and all tool
calls exactly when the last chunk with tool calls repeats those of the earlier ones. -/
theorem invokeLlm_keeps (model : Text) (chunks : List (ResultChunk ω)) :
    (∃ result, invokeLlm model (⟨chunks, none⟩ : Generated _ ε) = .ok result ∧
      Merged chunks result ∧ (AllCalls chunks result ↔ LastRepeats chunks)) ∧
    ∃ result, invokeLlmStructuredOutput model (⟨chunks, none⟩ : Generated _ ε) = .ok result ∧
      Merged chunks result.toLLMResult ∧
      (AllCalls chunks result.toLLMResult ↔ LastRepeats chunks) := by
  obtain ⟨last, ended, merged, calls⟩ := foldlM_merged chunks (merged_nil model)
  constructor
  · refine ⟨last, ?_, merged, allCalls_iff calls⟩
    rw [invokeLlm, collect, ended]
  · have structured := foldlM_structured chunks ⟨emptyResult model, none⟩
    rw [ended, Option.map_eq_some_iff] at structured
    obtain ⟨result, collected, rfl⟩ := structured
    refine ⟨result, ?_, merged, allCalls_iff calls⟩
    rw [invokeLlmStructuredOutput, collect, collected]

/-- A chunk with one tool call. -/
def callChunk (id : Text) : ResultChunk Unit :=
  { message := { content := none, toolCalls := [⟨id, "function".toList, ⟨"f".toList, []⟩⟩] } }

/-- Two chunks with a tool call each leave only the second one. -/
theorem invokeLlm_loses_calls :
    ¬∀ (chunks : List (ResultChunk Unit)) (result : LLMResult Unit),
      invokeLlm [] (⟨chunks, none⟩ : Generated _ Unit) = .ok result →
        Merged chunks result ∧ AllCalls chunks result := by
  intro all
  have kept := (all [callChunk "a".toList, callChunk "b".toList] _ rfl).2
  have first := kept (callChunk "a".toList) (by simp) _ (List.mem_singleton_self _)
  revert first
  decide

end DifyPlugin.LlmInvocation
