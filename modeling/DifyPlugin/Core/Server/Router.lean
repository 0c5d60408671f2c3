import DifyPlugin.Core.Handlers
import DifyPlugin.Library.Json

/-!
# Routing requests

`Router.dispatch` hands a request to the first route whose filter accepts it. Every route of a
plugin asks for a type and an action, and no two routes ask for the same action, so that their
order does not matter. What a plugin executes for a request is what its manifest declares.
-/

namespace DifyPlugin.Router

open ClassLoader PluginRegistration Handlers

/-- `PluginInvokeType`. -/
inductive PluginInvokeType where
  /-- `Tool`. -/
  | tool
  /-- `Model`. -/
  | model
  /-- `Endpoint`. -/
  | endpoint
  /-- `Agent`. -/
  | agent
  /-- `Trigger`. -/
  | trigger
  /-- `OAuth`. -/
  | oauth
  /-- `Datasource`. -/
  | datasource
  /-- `DynamicParameter`. -/
  | dynamicParameter
  deriving DecidableEq

/-- `value` of the type. -/
def PluginInvokeType.value : PluginInvokeType → Text
  | .tool => "tool".toList
  | .model => "model".toList
  | .endpoint => "endpoint".toList
  | .agent => "agent_strategy".toList
  | .trigger => "trigger".toList
  | .oauth => "oauth".toList
  | .datasource => "datasource".toList
  | .dynamicParameter => "dynamic_parameter".toList

/-- The type that the route of a handler asks for. -/
def invokeType : Handler → PluginInvokeType
  | .invokeTool | .validateToolProviderCredentials | .getToolRuntimeParameters => .tool
  | .invokeAgentStrategy => .agent
  | .invokeLlm | .startLlmPolling | .checkLlmPolling | .getLlmNumTokens | .invokeTextEmbedding |
    .invokeMultimodalEmbedding | .getTextEmbeddingNumTokens | .invokeRerank |
    .invokeMultimodalRerank | .invokeTts | .getTtsModelVoices | .invokeSpeechToText |
    .invokeModeration | .validateModelProviderCredentials | .validateModelCredentials |
    .getAiModelSchemas => .model
  | .invokeEndpoint => .endpoint
  | .validateDatasourceCredentials | .datasourceCrawlWebsite | .datasourceGetPageContent |
    .datasourceGetPages | .datasourceOnlineDriveBrowseFiles |
    .datasourceOnlineDriveDownloadFile => .datasource
  | .getOauthAuthorizationUrl | .getOauthCredentials | .refreshOauthCredentials |
    .revokeOauthCredentials => .oauth
  | .fetchParameterOptions => .dynamicParameter
  | .invokeTriggerEvent | .validateTriggerProviderCredentials | .dispatchTriggerEvent |
    .subscribeTrigger | .unsubscribeTrigger | .refreshTrigger => .trigger

/-- `value` of the action that the route of a handler asks for. -/
def action : Handler → Text
  | .invokeTool => "invoke_tool".toList
  | .validateToolProviderCredentials => "validate_tool_credentials".toList
  | .getToolRuntimeParameters => "get_tool_runtime_parameters".toList
  | .invokeAgentStrategy => "invoke_agent_strategy".toList
  | .invokeLlm => "invoke_llm".toList
  | .startLlmPolling => "start_polling".toList
  | .checkLlmPolling => "check_polling".toList
  | .getLlmNumTokens => "get_llm_num_tokens".toList
  | .invokeTextEmbedding => "invoke_text_embedding".toList
  | .invokeMultimodalEmbedding => "invoke_multimodal_embedding".toList
  | .getTextEmbeddingNumTokens => "get_text_embedding_num_tokens".toList
  | .invokeRerank => "invoke_rerank".toList
  | .invokeMultimodalRerank => "invoke_multimodal_rerank".toList
  | .invokeTts => "invoke_tts".toList
  | .getTtsModelVoices => "get_tts_model_voices".toList
  | .invokeSpeechToText => "invoke_speech2text".toList
  | .invokeModeration => "invoke_moderation".toList
  | .validateModelProviderCredentials => "validate_provider_credentials".toList
  | .validateModelCredentials => "validate_model_credentials".toList
  | .invokeEndpoint => "invoke_endpoint".toList
  | .getAiModelSchemas => "get_ai_model_schemas".toList
  | .validateDatasourceCredentials => "validate_datasource_credentials".toList
  | .datasourceCrawlWebsite => "invoke_website_datasource_get_crawl".toList
  | .datasourceGetPageContent => "invoke_online_document_datasource_get_page_content".toList
  | .datasourceGetPages => "invoke_online_document_datasource_get_pages".toList
  | .getOauthAuthorizationUrl => "get_authorization_url".toList
  | .getOauthCredentials => "get_credentials".toList
  | .refreshOauthCredentials => "refresh_credentials".toList
  | .revokeOauthCredentials => "revoke_credentials".toList
  | .datasourceOnlineDriveBrowseFiles => "invoke_online_drive_browse_files".toList
  | .datasourceOnlineDriveDownloadFile => "invoke_online_drive_download_file".toList
  | .fetchParameterOptions => "fetch_parameter_options".toList
  | .invokeTriggerEvent => "invoke_trigger_event".toList
  | .validateTriggerProviderCredentials => "validate_trigger_credentials".toList
  | .dispatchTriggerEvent => "dispatch_trigger_event".toList
  | .subscribeTrigger => "subscribe_trigger".toList
  | .unsubscribeTrigger => "unsubscribe_trigger".toList
  | .refreshTrigger => "refresh_trigger".toList

/-- The routes of `_register_request_routes`, by their handlers. -/
def routes : List Handler :=
  [.invokeTool, .validateToolProviderCredentials, .getToolRuntimeParameters, .invokeAgentStrategy,
    .invokeLlm, .startLlmPolling, .checkLlmPolling, .getLlmNumTokens, .invokeTextEmbedding,
    .invokeMultimodalEmbedding, .getTextEmbeddingNumTokens, .invokeRerank, .invokeMultimodalRerank,
    .invokeTts, .getTtsModelVoices, .invokeSpeechToText, .invokeModeration,
    .validateModelProviderCredentials, .validateModelCredentials, .invokeEndpoint,
    .getAiModelSchemas, .validateDatasourceCredentials, .datasourceCrawlWebsite,
    .datasourceGetPageContent, .datasourceGetPages, .getOauthAuthorizationUrl,
    .getOauthCredentials, .refreshOauthCredentials, .revokeOauthCredentials,
    .datasourceOnlineDriveBrowseFiles, .datasourceOnlineDriveDownloadFile, .fetchParameterOptions,
    .invokeTriggerEvent, .validateTriggerProviderCredentials, .dispatchTriggerEvent,
    .subscribeTrigger, .unsubscribeTrigger, .refreshTrigger]

/-- The attribute of its request that a handler reads first. -/
def firstAttribute : Handler → Text
  | .invokeAgentStrategy => "agent_strategy_provider".toList
  | .invokeEndpoint => "raw_http_request".toList
  | .fetchParameterOptions => "provider_action".toList
  | .validateTriggerProviderCredentials => "credentials".toList
  | _ => "provider".toList

variable {ω κ : Type} [DecidableEq κ]

/-- `data.get(key) == value`, for a text. -/
def hasText (data : Dict Text (Json ω)) (key value : Text) : Bool :=
  match data.get key with
  | some (.str text) => text = value
  | _ => false

/-- The filter of the route of a handler. -/
def accepts (data : Dict Text (Json ω)) (handler : Handler) : Bool :=
  hasText data "type".toList (invokeType handler).value &&
    hasText data "action".toList (action handler)

/-- What `annotation(**data)` does. -/
inductive Parsed where
  /-- It makes the request. -/
  | request (request : Request)
  /-- It raises a `TypeError`. -/
  | typeError (failure : Failure)
  /-- It raises any other exception. -/
  | raised (failure : Failure)

/-- What is reported in an error frame before the handler runs, and what becomes of the request. -/
structure Dispatched (κ : Type) where
  /-- The exception in the frame that the wrapper of the route writes. -/
  reported : Option Failure
  /-- What becomes of the request. -/
  outcome : Outcome κ

/-- `dispatch`. After a `TypeError` the wrapper calls the handler with the dictionary. -/
def dispatch (parse : Handler → Dict Text (Json ω) → Parsed) (interpreter : Interpreter κ)
    (registration : Registration κ) (data : Dict Text (Json ω)) : Dispatched κ :=
  match routes.find? (accepts data) with
  | none => ⟨none, .unrouted⟩
  | some handler =>
    match parse handler data with
    | .request request => ⟨none, handle interpreter registration handler request⟩
    | .typeError failure => ⟨some failure, .raised ⟨.attributeError,
        "'dict' object has no attribute '".toList ++ firstAttribute handler ++ "'".toList⟩⟩
    | .raised failure => ⟨none, .raised failure⟩

/-- Every handler has a route. -/
theorem mem_routes (handler : Handler) : handler ∈ routes := by
  cases handler <;> decide

/-- No two routes ask for the same action. -/
theorem nodup_actions : (routes.map action).Nodup := by
  decide +kernel

/-- A handler is known by its action. -/
theorem action_injective {left right : Handler} (same : action left = action right) :
    left = right :=
  List.inj_on_of_nodup_map nodup_actions (mem_routes left) (mem_routes right) same

/-- A text is compared with one value only. -/
theorem hasText_unique {data : Dict Text (Json ω)} {key left right : Text}
    (one : hasText data key left = true) (other : hasText data key right = true) :
    left = right := by
  unfold hasText at one other
  split at one
  · rename_i text found
    simp only [found] at other
    exact (of_decide_eq_true one).symm.trans (of_decide_eq_true other)
  · exact absurd one (by simp)

/-- At most one route accepts a request, so that the order of the routes does not matter. -/
theorem accepts_unique {data : Dict Text (Json ω)} {left right : Handler}
    (one : accepts data left = true) (other : accepts data right = true) : left = right := by
  rw [accepts, Bool.and_eq_true] at one other
  exact action_injective (hasText_unique one.2 other.2)

/-- The route that is found is the one that accepts the request. -/
theorem find_routes {data : Dict Text (Json ω)} {handler : Handler} :
    routes.find? (accepts data) = some handler ↔ accepts data handler = true := by
  constructor
  · exact List.find?_some
  · intro accepted
    cases found : routes.find? (accepts data) with
    | none => exact absurd accepted (List.find?_eq_none.mp found handler (mem_routes handler))
    | some other => rw [accepts_unique (List.find?_some found) accepted]

/-- A request is executed by a class exactly if it has the type and the action of a handler, can
be parsed and decoded, and the class is the one that the manifest declares for it. The class then
derives from a class of the SDK that has the method which the handler calls. A request that no
route accepts is not executed, and neither is one that cannot be parsed. -/
theorem dispatch_answers {interpreter : Interpreter κ} {configuration : Configuration}
    {registration : Registration κ}
    (resolved : resolvePluginCls interpreter configuration = .ok registration)
    (parse : Handler → Dict Text (Json ω) → Parsed) (data : Dict Text (Json ω)) :
    (∀ handler cls,
      (dispatch parse interpreter registration data).outcome = .called handler cls ↔
        accepts data handler = true ∧ ∃ request, parse handler data = .request request ∧
          Answers interpreter configuration request cls handler ∧
            (handler.decodes = true → request.decoding = none)) ∧
      (∀ handler cls,
        (dispatch parse interpreter registration data).outcome = .called handler cls →
          (dispatch parse interpreter registration data).reported = none ∧
            ∃ base ∈ handler.bases, interpreter.issubclass cls (interpreter.base base) = true) ∧
      ((dispatch parse interpreter registration data).outcome = .unrouted ↔
        ∀ handler, accepts data handler = false) := by
  have loops := loops_of_resolved resolved
  have never (handler : Handler) (request : Request) :
      handle interpreter registration handler request ≠ .unrouted := by
    unfold handle
    dsimp only
    split
    · split <;> simp
    · split <;> simp
  unfold dispatch
  cases found : routes.find? (accepts data) with
  | none =>
    have rejected (handler : Handler) : accepts data handler = false := by
      have none := List.find?_eq_none.mp found handler (mem_routes handler)
      simpa using none
    simp [rejected]
  | some chosen =>
    have accepted := find_routes.mp found
    have only (handler : Handler) : accepts data handler = true ↔ handler = chosen := by
      constructor
      · intro other
        exact accepts_unique other accepted
      · rintro rfl
        exact accepted
    have routed : ¬ ∀ handler, accepts data handler = false := by
      intro rejected
      rw [rejected chosen] at accepted
      exact absurd accepted (by simp)
    cases parsed : parse chosen data with
    | request request =>
      have called (handler : Handler) (cls : κ) :
          handle interpreter registration chosen request = .called handler cls ↔
            accepts data handler = true ∧ ∃ request, parse handler data = .request request ∧
              Answers interpreter configuration request cls handler ∧
                (handler.decodes = true → request.decoding = none) := by
        rw [handle_called_iff loops, only]
        constructor
        · rintro ⟨rfl, answers⟩
          exact ⟨rfl, request, parsed, answers⟩
        · rintro ⟨rfl, other, parsedToo, answers⟩
          obtain rfl : request = other := by simpa [parsed] using parsedToo
          exact ⟨rfl, answers⟩
      simp only [parsed]
      refine ⟨called, ?_, ?_⟩
      · intro handler cls ran
        obtain ⟨-, request, -, answers, -⟩ := (called handler cls).mp ran
        exact ⟨trivial, derives_of_answers answers⟩
      · exact ⟨fun unrouted => absurd unrouted (never chosen request), fun all => absurd all routed⟩
    | typeError failure =>
      simp only [parsed, reduceCtorEq, false_iff, false_implies, implies_true, true_and]
      refine ⟨?_, routed⟩
      rintro handler cls ⟨there, request, made, -⟩
      rw [(only handler).mp there, parsed] at made
      exact absurd made (by simp)
    | raised failure =>
      simp only [parsed, reduceCtorEq, false_iff, false_implies, implies_true, true_and]
      refine ⟨?_, routed⟩
      rintro handler cls ⟨there, request, made, -⟩
      rw [(only handler).mp there, parsed] at made
      exact absurd made (by simp)

/-- A request for the tool. -/
def exampleData : Dict Text (Json Empty) :=
  Dict.ofPairs [("type".toList, .str "tool".toList), ("action".toList, .str "invoke_tool".toList)]

/-- The request as it is parsed. -/
def exampleParse (_ : Handler) (_ : Dict Text (Json Empty)) : Parsed :=
  .request ⟨['p'], ['t'], .llm, [], [], none, fun _ => none⟩

/-- The tool that is declared last is called. -/
theorem dispatch_answers_tool :
    ∃ registration, resolvePluginCls exampleInterpreter exampleConfiguration = .ok registration ∧
      (dispatch exampleParse exampleInterpreter registration exampleData).outcome =
        .called .invokeTool 4 ∧
      ∃ base ∈ Handler.invokeTool.bases,
        exampleInterpreter.issubclass 4 (exampleInterpreter.base base) = true := by
  have resolved : resolvePluginCls exampleInterpreter exampleConfiguration = .ok _ := rfl
  have called := (dispatch_answers resolved exampleParse exampleData).2.1 .invokeTool 4 rfl
  exact ⟨_, resolved, rfl, called.2⟩

end DifyPlugin.Router
