import DifyPlugin.Core.PluginRegistration

/-!
# The targets of the handlers

A handler of `PluginExecutor` looks up a class in the registration, makes an instance of it and
hands the request to a method of the instance. Here a handler ends with that class, with the
exception that it raises before, or without a class when no endpoint matches. The class derives
from a class of the SDK that has the method, whatever the code of the plugin defines.
-/

namespace DifyPlugin.Handlers

open ClassLoader Registering TriggerFactory PluginRegistration

/-- The handlers of requests. -/
inductive Handler where
  /-- `invoke_tool`. -/
  | invokeTool
  /-- `validate_tool_provider_credentials`. -/
  | validateToolProviderCredentials
  /-- `get_tool_runtime_parameters`. -/
  | getToolRuntimeParameters
  /-- `invoke_agent_strategy`. -/
  | invokeAgentStrategy
  /-- `invoke_llm`. -/
  | invokeLlm
  /-- `start_llm_polling`. -/
  | startLlmPolling
  /-- `check_llm_polling`. -/
  | checkLlmPolling
  /-- `get_llm_num_tokens`. -/
  | getLlmNumTokens
  /-- `invoke_text_embedding`. -/
  | invokeTextEmbedding
  /-- `invoke_multimodal_embedding`. -/
  | invokeMultimodalEmbedding
  /-- `get_text_embedding_num_tokens`. -/
  | getTextEmbeddingNumTokens
  /-- `invoke_rerank`. -/
  | invokeRerank
  /-- `invoke_multimodal_rerank`. -/
  | invokeMultimodalRerank
  /-- `invoke_tts`. -/
  | invokeTts
  /-- `get_tts_model_voices`. -/
  | getTtsModelVoices
  /-- `invoke_speech_to_text`. -/
  | invokeSpeechToText
  /-- `invoke_moderation`. -/
  | invokeModeration
  /-- `validate_model_provider_credentials`. -/
  | validateModelProviderCredentials
  /-- `validate_model_credentials`. -/
  | validateModelCredentials
  /-- `invoke_endpoint`. -/
  | invokeEndpoint
  /-- `get_ai_model_schemas`. -/
  | getAiModelSchemas
  /-- `validate_datasource_credentials`. -/
  | validateDatasourceCredentials
  /-- `datasource_crawl_website`. -/
  | datasourceCrawlWebsite
  /-- `datasource_get_page_content`. -/
  | datasourceGetPageContent
  /-- `datasource_get_pages`. -/
  | datasourceGetPages
  /-- `get_oauth_authorization_url`. -/
  | getOauthAuthorizationUrl
  /-- `get_oauth_credentials`. -/
  | getOauthCredentials
  /-- `refresh_oauth_credentials`. -/
  | refreshOauthCredentials
  /-- `revoke_oauth_credentials`. -/
  | revokeOauthCredentials
  /-- `datasource_online_drive_browse_files`. -/
  | datasourceOnlineDriveBrowseFiles
  /-- `datasource_online_drive_download_file`. -/
  | datasourceOnlineDriveDownloadFile
  /-- `fetch_parameter_options`. -/
  | fetchParameterOptions
  /-- `invoke_trigger_event`. -/
  | invokeTriggerEvent
  /-- `validate_trigger_provider_credentials`. -/
  | validateTriggerProviderCredentials
  /-- `dispatch_trigger_event`. -/
  | dispatchTriggerEvent
  /-- `subscribe_trigger`. -/
  | subscribeTrigger
  /-- `unsubscribe_trigger`. -/
  | unsubscribeTrigger
  /-- `refresh_trigger`. -/
  | refreshTrigger
  deriving DecidableEq

/-- What a handler reads of its request to find the class. -/
structure Request where
  /-- `provider`, or `agent_strategy_provider`. -/
  provider : Text
  /-- `tool`, `agent_strategy`, `datasource`, `event` or `provider_action`. -/
  name : Text
  /-- `model_type`. -/
  modelType : ModelType
  /-- `model`. -/
  model : Text
  /-- `credentials`, as JSON. -/
  credentials : Text
  /-- What decoding the file or the HTTP request of the request raises. -/
  decoding : Option Failure
  /-- The position of the rule that matches the HTTP request, among paths and methods. -/
  routing : List (Text × Text) → Option Nat

variable {κ : Type} [DecidableEq κ]

/-! ## Selecting a class -/

/-- A class that was not found. -/
def orRaise (found : Option κ) (type : ExceptionType) (message : Text) : Except Failure κ :=
  match found with
  | some cls => .ok cls
  | none => .error ⟨type, message⟩

/-- The exception that the decoding raises, if it does. -/
def decoded (request : Request) : Except Failure Unit :=
  match request.decoding with
  | some failure => .error failure
  | none => .ok ()

section Select

variable (interpreter : Interpreter κ) (registration : Registration κ) (request : Request)

/-- The message that a provider was not found. -/
def providerNotFound : Text := "Provider `".toList ++ request.provider ++ "` not found".toList

/-- The message that a tool, or a strategy, was not found. -/
def notFoundForProvider (label : String) : Text :=
  label.toList ++ " `".toList ++ request.name ++ "` not found for provider `".toList ++
    request.provider ++ "`".toList

/-- The message that a model was not found. -/
def modelNotFound : Text :=
  "Model `ModelType.".toList ++ request.modelType.member ++ "` not found for provider `".toList ++
    request.provider ++ "`".toList

/-- A tool provider. -/
def selectToolProvider : Except Failure κ :=
  orRaise (registration.getToolProviderCls request.provider) .valueError (providerNotFound request)

/-- A tool. -/
def selectTool : Except Failure κ :=
  orRaise (registration.getToolCls request.provider request.name) .valueError
    (notFoundForProvider request "Tool")

/-- A model that is an instance of a class of the SDK. -/
def selectModel (base : Base) (type : ExceptionType) : Except Failure κ := do
  match ← registration.getModelInstance request.provider request.modelType with
  | some cls =>
    if interpreter.issubclass cls (interpreter.base base) then return cls
    else throw ⟨type, modelNotFound request⟩
  | none => throw ⟨type, modelNotFound request⟩

/-- A language model that supports polling. -/
def selectPolling : Except Failure κ := do
  let cls ← selectModel interpreter registration request .largeLanguageModel .typeError
  if ← interpreter.supportsPolling cls request.model request.credentials then return cls
  else throw ⟨.valueError, "Model `".toList ++ request.model ++ "` for provider `".toList ++
    request.provider ++ "` does not support polling".toList⟩

/-- `_get_oauth_provider_instance`. -/
def getOauthProviderInstance : Except Failure κ :=
  orRaise (registration.getSupportedOauthProvider request.provider) .valueError
    ("Provider `".toList ++ request.provider ++ "` does not support OAuth".toList)

/-- `_get_dynamic_parameter_action`. -/
def getDynamicParameterAction : Except Failure κ :=
  if request.name = "provider".toList then
    registration.triggerFactory.getSubscriptionConstructor request.provider
  else
    match registration.triggerFactory.getTriggerEventHandlerSafely request.provider
      request.name with
    | some cls => .ok cls
    | none => orRaise (registration.getToolCls request.provider request.name) .valueError
        "Cannot find the target to fetch parameter options".toList

end Select

/-! ## The handlers -/

/-- What becomes of a request. -/
inductive Outcome (κ : Type) where
  /-- No route accepts it. -/
  | unrouted
  /-- An exception is raised before an instance has the request. -/
  | raised (failure : Failure)
  /-- No endpoint matches, and the response is `404`. -/
  | notFound
  /-- A method of an instance of the class is called. -/
  | called (handler : Handler) (cls : κ)
  deriving DecidableEq

/-- The class that each handler selects. -/
def select (interpreter : Interpreter κ) (registration : Registration κ) (request : Request) :
    Handler → Except Failure κ
  | .validateToolProviderCredentials => selectToolProvider registration request
  | .invokeTool => do
    let _ ← selectToolProvider registration request
    selectTool registration request
  | .getToolRuntimeParameters => do
    let cls ← selectTool registration request
    if interpreter.hasRuntimeParameters cls then return cls
    else throw ⟨.valueError, "Tool `".toList ++ request.name ++
      "` does not implement runtime parameters".toList⟩
  | .invokeAgentStrategy =>
    orRaise (registration.getAgentStrategyCls request.provider request.name) .valueError
      (notFoundForProvider request "Agent")
  | .validateModelProviderCredentials =>
    orRaise (registration.getModelProviderInstance request.provider) .valueError
      (providerNotFound request)
  | .validateModelCredentials => do
    let _ ← orRaise (registration.getModelProviderInstance request.provider) .valueError
      (providerNotFound request)
    let found ← registration.getModelInstance request.provider request.modelType
    orRaise found .valueError (modelNotFound request)
  | .invokeLlm => selectModel interpreter registration request .largeLanguageModel .valueError
  | .startLlmPolling => selectPolling interpreter registration request
  | .checkLlmPolling => selectPolling interpreter registration request
  | .getLlmNumTokens => selectModel interpreter registration request .largeLanguageModel .valueError
  | .invokeTextEmbedding =>
    selectModel interpreter registration request .textEmbeddingModel .valueError
  | .invokeMultimodalEmbedding =>
    selectModel interpreter registration request .textEmbeddingModel .valueError
  | .getTextEmbeddingNumTokens =>
    selectModel interpreter registration request .textEmbeddingModel .valueError
  | .invokeRerank => selectModel interpreter registration request .rerankModel .valueError
  | .invokeMultimodalRerank => selectModel interpreter registration request .rerankModel .valueError
  | .invokeTts => selectModel interpreter registration request .ttsModel .typeError
  | .getTtsModelVoices => selectModel interpreter registration request .ttsModel .valueError
  | .invokeSpeechToText => do
    let _ ← registration.getModelInstance request.provider request.modelType
    decoded request
    selectModel interpreter registration request .speech2TextModel .valueError
  | .invokeModeration => selectModel interpreter registration request .moderationModel .valueError
  | .getAiModelSchemas => selectModel interpreter registration request .aiModel .valueError
  | .validateDatasourceCredentials => registration.getDatasourceProviderCls request.provider
  | .datasourceCrawlWebsite =>
    registration.getWebsiteCrawlDatasourceCls request.provider request.name
  | .datasourceGetPageContent =>
    registration.getOnlineDocumentDatasourceCls request.provider request.name
  | .datasourceGetPages => registration.getOnlineDocumentDatasourceCls request.provider request.name
  | .datasourceOnlineDriveBrowseFiles =>
    registration.getOnlineDriveDatasourceCls request.provider request.name
  | .datasourceOnlineDriveDownloadFile =>
    registration.getOnlineDriveDatasourceCls request.provider request.name
  | .getOauthAuthorizationUrl => getOauthProviderInstance registration request
  | .getOauthCredentials => do
    let cls ← getOauthProviderInstance registration request
    decoded request
    return cls
  | .refreshOauthCredentials => getOauthProviderInstance registration request
  | .revokeOauthCredentials => getOauthProviderInstance registration request
  | .fetchParameterOptions => getDynamicParameterAction registration request
  | .invokeTriggerEvent => do
    let cls ← registration.triggerFactory.getTriggerEventHandler request.provider request.name
    decoded request
    return cls
  | .validateTriggerProviderCredentials =>
    registration.triggerFactory.getSubscriptionConstructor request.provider
  | .dispatchTriggerEvent => do
    let cls ← registration.triggerFactory.getProviderCls request.provider
    decoded request
    return cls
  | .subscribeTrigger => registration.triggerFactory.getSubscriptionConstructor request.provider
  | .unsubscribeTrigger => registration.triggerFactory.getSubscriptionConstructor request.provider
  | .refreshTrigger => registration.triggerFactory.getSubscriptionConstructor request.provider
  -- Nobody sees this exception, which the handler catches.
  | .invokeEndpoint => orRaise (registration.dispatchEndpointRequest request.routing) .valueError
      "Failed to dispatch endpoint request".toList

/-- A handler, up to the call of a method of an instance. -/
def handle (interpreter : Interpreter κ) (registration : Registration κ) (handler : Handler)
    (request : Request) : Outcome κ :=
  let selected := select interpreter registration request handler
  if handler = .invokeEndpoint then
    match request.decoding, selected with
    | some failure, _ => .raised failure
    | none, .ok cls => .called handler cls
    | none, .error _ => .notFound
  else
    match selected with
    | .ok cls => .called handler cls
    | .error failure => .raised failure

/-! ## What a handler is for -/

/-- The handler decodes a file or an HTTP request before it calls the instance. -/
def Handler.decodes : Handler → Bool
  | .invokeSpeechToText | .invokeEndpoint | .getOauthCredentials | .invokeTriggerEvent |
    .dispatchTriggerEvent => true
  | _ => false

/-- The classes of the SDK one of which has the method that the handler calls. -/
def Handler.bases : Handler → List Base
  | .validateToolProviderCredentials => [.toolProvider]
  | .invokeTool | .getToolRuntimeParameters => [.tool]
  | .invokeAgentStrategy => [.agentStrategy]
  | .validateModelProviderCredentials => [.modelProvider]
  | .validateModelCredentials | .getAiModelSchemas => [.aiModel]
  | .invokeLlm | .startLlmPolling | .checkLlmPolling | .getLlmNumTokens => [.largeLanguageModel]
  | .invokeTextEmbedding | .invokeMultimodalEmbedding | .getTextEmbeddingNumTokens =>
    [.textEmbeddingModel]
  | .invokeRerank | .invokeMultimodalRerank => [.rerankModel]
  | .invokeTts | .getTtsModelVoices => [.ttsModel]
  | .invokeSpeechToText => [.speech2TextModel]
  | .invokeModeration => [.moderationModel]
  | .invokeEndpoint => [.endpoint]
  | .validateDatasourceCredentials => [.datasourceProvider]
  | .datasourceCrawlWebsite => [.websiteCrawlDatasource]
  | .datasourceGetPageContent | .datasourceGetPages => [.onlineDocumentDatasource]
  | .datasourceOnlineDriveBrowseFiles | .datasourceOnlineDriveDownloadFile =>
    [.onlineDriveDatasource]
  | .getOauthAuthorizationUrl | .getOauthCredentials | .refreshOauthCredentials |
    .revokeOauthCredentials => [.triggerSubscriptionConstructor, .toolProvider, .datasourceProvider]
  | .fetchParameterOptions => [.triggerSubscriptionConstructor, .event, .tool]
  | .invokeTriggerEvent => [.event]
  | .dispatchTriggerEvent => [.trigger]
  | .validateTriggerProviderCredentials | .subscribeTrigger | .unsubscribeTrigger |
    .refreshTrigger => [.triggerSubscriptionConstructor]

section Specification

variable (interpreter : Interpreter κ) (configuration : Configuration)

/-- A class by one relation, or by another if the first relates none. -/
def OrElse (first second : κ → Prop) (cls : κ) : Prop :=
  first cls ∨ (∀ other, ¬ first other) ∧ second cls

/-- The constructor of a trigger provider that supports OAuth. -/
def OauthConstructor (provider : Text) (cls : κ) : Prop :=
  (∃ declared ∈ configuration.triggers, declared.name = provider ∧
    declared.subscriptionConstructor.any ConstructorConfiguration.oauthSchema = true ∧
      Constructs interpreter declared cls)

/-- A tool provider that supports OAuth. -/
def OauthToolProvider (provider : Text) (cls : κ) : Prop :=
  (last ToolProviderConfiguration.name configuration.tools provider).any
      ToolProviderConfiguration.oauthSchema = true ∧
    Declares interpreter configuration (.toolProvider provider) cls

/-- A datasource provider that supports OAuth. -/
def OauthDatasourceProvider (provider : Text) (cls : κ) : Prop :=
  (last DatasourceProviderManifest.name configuration.datasources provider).any
      DatasourceProviderManifest.oauthSchema = true ∧
    Declares interpreter configuration (.datasourceProvider provider) cls

/-- The class that answers a request, by the manifest. -/
def Answers (request : Request) (cls : κ) : Handler → Prop
  | .validateToolProviderCredentials =>
    Declares interpreter configuration (.toolProvider request.provider) cls
  | .invokeTool => Declares interpreter configuration (.tool request.provider request.name) cls
  | .getToolRuntimeParameters =>
    Declares interpreter configuration (.tool request.provider request.name) cls ∧
      interpreter.hasRuntimeParameters cls = true
  | .invokeAgentStrategy =>
    Declares interpreter configuration (.agentStrategy request.provider request.name) cls
  | .validateModelProviderCredentials =>
    Declares interpreter configuration (.modelProvider request.provider) cls
  | .validateModelCredentials =>
    Declares interpreter configuration (.model request.provider request.modelType) cls
  | .invokeLlm | .getLlmNumTokens =>
    Declares interpreter configuration (.model request.provider request.modelType) cls ∧
      interpreter.issubclass cls (interpreter.base .largeLanguageModel) = true
  | .startLlmPolling | .checkLlmPolling =>
    Declares interpreter configuration (.model request.provider request.modelType) cls ∧
      interpreter.issubclass cls (interpreter.base .largeLanguageModel) = true ∧
      interpreter.supportsPolling cls request.model request.credentials = .ok true
  | .invokeTextEmbedding | .invokeMultimodalEmbedding | .getTextEmbeddingNumTokens =>
    Declares interpreter configuration (.model request.provider request.modelType) cls ∧
      interpreter.issubclass cls (interpreter.base .textEmbeddingModel) = true
  | .invokeRerank | .invokeMultimodalRerank =>
    Declares interpreter configuration (.model request.provider request.modelType) cls ∧
      interpreter.issubclass cls (interpreter.base .rerankModel) = true
  | .invokeTts | .getTtsModelVoices =>
    Declares interpreter configuration (.model request.provider request.modelType) cls ∧
      interpreter.issubclass cls (interpreter.base .ttsModel) = true
  | .invokeSpeechToText =>
    Declares interpreter configuration (.model request.provider request.modelType) cls ∧
      interpreter.issubclass cls (interpreter.base .speech2TextModel) = true
  | .invokeModeration =>
    Declares interpreter configuration (.model request.provider request.modelType) cls ∧
      interpreter.issubclass cls (interpreter.base .moderationModel) = true
  | .getAiModelSchemas =>
    Declares interpreter configuration (.model request.provider request.modelType) cls
  | .invokeEndpoint =>
    ∃ position, request.routing (configuration.endpoints.map fun endpoint =>
        (endpoint.path, endpoint.method)) = some position ∧
      Declares interpreter configuration (.endpoint position) cls
  | .validateDatasourceCredentials =>
    Declares interpreter configuration (.datasourceProvider request.provider) cls
  | .datasourceCrawlWebsite =>
    Declares interpreter configuration (.datasource .websiteCrawl request.provider request.name) cls
  | .datasourceGetPageContent | .datasourceGetPages =>
    Declares interpreter configuration (.datasource .onlineDocument request.provider request.name)
      cls
  | .datasourceOnlineDriveBrowseFiles | .datasourceOnlineDriveDownloadFile =>
    Declares interpreter configuration (.datasource .onlineDrive request.provider request.name) cls
  | .getOauthAuthorizationUrl | .getOauthCredentials | .refreshOauthCredentials |
    .revokeOauthCredentials =>
    OrElse (OauthConstructor interpreter configuration request.provider)
      (OrElse (OauthToolProvider interpreter configuration request.provider)
        (OauthDatasourceProvider interpreter configuration request.provider)) cls
  | .fetchParameterOptions =>
    if request.name = "provider".toList then
      Declares interpreter configuration (.constructor request.provider) cls
    else OrElse (Declares interpreter configuration (.event request.provider request.name))
      (Declares interpreter configuration (.tool request.provider request.name)) cls
  | .invokeTriggerEvent =>
    Declares interpreter configuration (.event request.provider request.name) cls
  | .dispatchTriggerEvent => Declares interpreter configuration (.trigger request.provider) cls
  | .validateTriggerProviderCredentials | .subscribeTrigger | .unsubscribeTrigger |
    .refreshTrigger => Declares interpreter configuration (.constructor request.provider) cls

end Specification

section Selected

variable {interpreter : Interpreter κ} {configuration : Configuration}
  {registration : Registration κ} {request : Request} {cls : κ}

omit [DecidableEq κ] in
/-- A class that has to be found. -/
theorem orRaise_eq_ok {found : Option κ} {type : ExceptionType} {message : Text} :
    orRaise found type message = .ok cls ↔ found = some cls := by
  cases found <;> simp [orRaise]

omit [DecidableEq κ] in
/-- A class that is returned after the decoding. -/
theorem decoded_eq_ok {selected : Except Failure κ} :
    (do
      let cls ← selected
      decoded request
      return cls) = Except.ok cls ↔ selected = .ok cls ∧ request.decoding = none := by
  rw [Fallible.bind_eq_ok]
  cases decoding : request.decoding with
  | none => simp [decoded, decoding, bind, Except.bind, pure, Except.pure]
  | some failure => simp [decoded, decoding, bind, Except.bind]

omit [DecidableEq κ] in
/-- A model that is found and is an instance of the class. -/
theorem selectModel_eq_ok {base : Base} {type : ExceptionType} :
    selectModel interpreter registration request base type = .ok cls ↔
      registration.getModelInstance request.provider request.modelType = .ok (some cls) ∧
        interpreter.issubclass cls (interpreter.base base) = true := by
  rw [selectModel]
  cases registration.getModelInstance request.provider request.modelType with
  | error failure => simp [bind, Except.bind]
  | ok found =>
    cases found with
    | none => simp [bind, Except.bind, throw, throwThe, MonadExceptOf.throw]
    | some model =>
      by_cases derives : interpreter.issubclass model (interpreter.base base) = true
      · simp only [bind, Except.bind, if_pos derives, pure, Except.pure, Except.ok.injEq,
          Option.some.injEq]
        constructor
        · rintro rfl
          exact ⟨rfl, derives⟩
        · exact And.left
      · simp only [bind, Except.bind, if_neg derives, throw, throwThe, MonadExceptOf.throw]
        constructor
        · intro same
          exact absurd same (by simp)
        · rintro ⟨same, needed⟩
          obtain rfl : model = cls := by simpa using same
          exact absurd needed derives

omit [DecidableEq κ] in
/-- A class by one lookup, or by another if the first finds none. -/
theorem orElse_iff {first second : Option κ} {left right : κ → Prop}
    (one : ∀ other, first = some other ↔ left other)
    (two : ∀ other, second = some other ↔ right other) (cls : κ) :
    first.or second = some cls ↔ OrElse left right cls := by
  rw [OrElse, ← one, ← two]
  simp only [← one]
  cases first with
  | none => simp
  | some found => simp

omit [DecidableEq κ] in
/-- The configuration and the class are those of one entry. -/
theorem oauthConstructor_eq (provider : Text) :
    registration.oauthConstructor provider =
      (registration.triggerFactory.find provider).bind fun entry =>
        if entry.configuration.subscriptionConstructor.any
          ConstructorConfiguration.oauthSchema then entry.subscriptionConstructorCls else none := by
  rw [Registration.oauthConstructor, Factory.getConfiguration,
    Factory.getSubscriptionConstructorCls, Factory.getEntry]
  cases registration.triggerFactory.find provider <;> rfl

/-- The constructor for OAuth is the one that is declared. -/
theorem oauthConstructor_iff (loops : Loops interpreter configuration registration)
    (provider : Text) (cls : κ) :
    registration.oauthConstructor provider = some cls ↔
      OauthConstructor interpreter configuration provider cls := by
  have registers := loops.triggers
  rw [oauthConstructor_eq, Option.bind_eq_some_iff]
  constructor
  · rintro ⟨entry, found, chosen⟩
    obtain ⟨declared, listed, named, each⟩ := registers.mem_of_find found
    rw [each.configuration] at chosen
    by_cases supports :
        declared.subscriptionConstructor.any ConstructorConfiguration.oauthSchema = true
    · rw [if_pos supports] at chosen
      exact ⟨declared, listed, named, supports, (each.constructorCls cls).mp chosen⟩
    · rw [if_neg supports] at chosen
      exact absurd chosen (by simp)
  · rintro ⟨declared, listed, rfl, supports, constructs⟩
    obtain ⟨entry, found, each⟩ := registers.find_of_mem listed
    refine ⟨entry, found, ?_⟩
    rw [each.configuration, if_pos supports]
    exact (each.constructorCls cls).mpr constructs

/-- The tool provider for OAuth is the one that is declared. -/
theorem oauthToolProvider_iff (loops : Loops interpreter configuration registration)
    (provider : Text) (cls : κ) :
    ((registration.toolsMapping.get provider).filter fun entry =>
        entry.configuration.oauthSchema).map ToolProviderEntry.providerCls = some cls ↔
      OauthToolProvider interpreter configuration provider cls := by
  rw [OauthToolProvider, ← loops.tools_iff.1, Registration.getToolProviderCls]
  cases has : registration.toolsMapping.get provider with
  | none => simp
  | some entry =>
    obtain ⟨declared, listed, made⟩ := (get_assign_empty loops.tools).mp has
    have same := (resolveToolProvider_tools made).1
    by_cases supports : declared.oauthSchema = true
    · simp [listed, same, supports]
    · simp [listed, same, supports]

/-- The datasource provider for OAuth is the one that is declared. -/
theorem oauthDatasourceProvider_iff (loops : Loops interpreter configuration registration)
    (provider : Text) (cls : κ) :
    ((registration.datasourceMapping.get provider).filter fun entry =>
        entry.configuration.oauthSchema).map DatasourceProviderMapping.providerCls = some cls ↔
      OauthDatasourceProvider interpreter configuration provider cls := by
  rw [OauthDatasourceProvider, ← loops.datasourceProvider_iff,
    Registration.getDatasourceProviderCls]
  cases has : registration.datasourceMapping.get provider with
  | none => simp
  | some entry =>
    obtain ⟨declared, listed, made⟩ := (get_assign_empty loops.datasources).mp has
    have same := resolveDatasourceProvider_configuration made
    by_cases supports : declared.oauthSchema = true
    · simp [listed, same, supports]
    · simp [listed, same, supports]

/-- The provider that supports OAuth is the one that the manifest declares. -/
theorem getSupportedOauthProvider_iff (loops : Loops interpreter configuration registration)
    (provider : Text) (cls : κ) :
    registration.getSupportedOauthProvider provider = some cls ↔
      OrElse (OauthConstructor interpreter configuration provider)
        (OrElse (OauthToolProvider interpreter configuration provider)
          (OauthDatasourceProvider interpreter configuration provider)) cls := by
  have inOrder : registration.getSupportedOauthProvider provider =
      (registration.oauthConstructor provider).or
        ((((registration.toolsMapping.get provider).filter fun entry =>
            entry.configuration.oauthSchema).map ToolProviderEntry.providerCls).or
          (((registration.datasourceMapping.get provider).filter fun entry =>
            entry.configuration.oauthSchema).map DatasourceProviderMapping.providerCls)) := by
    rw [Registration.getSupportedOauthProvider]
    cases registration.oauthConstructor provider with
    | some found => rfl
    | none =>
      cases (registration.toolsMapping.get provider).filter fun entry =>
        entry.configuration.oauthSchema with
      | some found => rfl
      | none =>
        cases (registration.datasourceMapping.get provider).filter fun entry =>
          entry.configuration.oauthSchema <;> rfl
  rw [inOrder]
  exact orElse_iff (oauthConstructor_iff loops provider)
    (orElse_iff (oauthToolProvider_iff loops provider) (oauthDatasourceProvider_iff loops provider))
    cls

/-- The target of the options of a parameter is the one that the manifest declares. -/
theorem getDynamicParameterAction_iff (loops : Loops interpreter configuration registration)
    (request : Request) (cls : κ) :
    getDynamicParameterAction registration request = .ok cls ↔
      Answers interpreter configuration request cls .fetchParameterOptions := by
  rw [getDynamicParameterAction, Answers]
  by_cases provider : request.name = "provider".toList
  · rw [if_pos provider, if_pos provider]
    exact loops.triggers_iff.2.1 request.provider cls
  · rw [if_neg provider, if_neg provider, ← orElse_iff
      (loops.triggers_iff.2.2 request.provider request.name)
      (loops.tools_iff.2 request.provider request.name)]
    cases registration.triggerFactory.getTriggerEventHandlerSafely request.provider
      request.name with
    | some event => simp
    | none => rw [orRaise_eq_ok, Option.none_or]

/-- A class of models derives from `AIModel`. -/
theorem derives_of_model {provider : Text} {modelType : ModelType}
    (declares : Declares interpreter configuration (.model provider modelType) cls) :
    interpreter.issubclass cls (interpreter.base .aiModel) = true := by
  cases declares with
  | model declared listed =>
    have among := (mem_of_last listed).1
    obtain ⟨source, -, found⟩ := List.mem_flatMap.mp among
    have loadedThere := (List.mem_filter.mp found).1
    cases loaded : interpreter.loadMultiSubclassesFromSource source .aiModel with
    | error failure => simp [loaded, Except.toOption] at loadedThere
    | ok classes =>
      rw [loaded] at loadedThere
      exact ((Interpreter.mem_loadMulti loaded).mp loadedThere).derives

/-- A tool that is declared has a provider. -/
theorem toolProvider_of_tool (loops : Loops interpreter configuration registration)
    {provider tool : Text}
    (declares : Declares interpreter configuration (.tool provider tool) cls) :
    ∃ providerCls, registration.getToolProviderCls provider = some providerCls := by
  cases declares with
  | tool declared listed implementing =>
    obtain ⟨entry, made, has⟩ := exists_get_assign loops.tools declared
    exact ⟨entry.providerCls, by rw [Registration.getToolProviderCls, has, Option.map_some]⟩

/-- A model that is declared has a provider. -/
theorem modelProvider_of_model (loops : Loops interpreter configuration registration)
    {provider : Text} {modelType : ModelType}
    (declares : Declares interpreter configuration (.model provider modelType) cls) :
    ∃ providerCls, registration.getModelProviderInstance provider = some providerCls := by
  cases declares with
  | model declared listed =>
    obtain ⟨entry, made, has⟩ := exists_get_assign loops.models declared
    exact ⟨entry.providerCls, by rw [Registration.getModelProviderInstance, has, Option.map_some]⟩

/-- A model handler selects the declared model if it is an instance of the class. -/
theorem selectModel_iff (loops : Loops interpreter configuration registration) {base : Base}
    {type : ExceptionType} :
    selectModel interpreter registration request base type = .ok cls ↔
      Declares interpreter configuration (.model request.provider request.modelType) cls ∧
        interpreter.issubclass cls (interpreter.base base) = true := by
  rw [selectModel_eq_ok, loops.models_iff.2]

/-- A polling handler selects the declared model if it is a language model that supports polling. -/
theorem selectPolling_iff (loops : Loops interpreter configuration registration) :
    selectPolling interpreter registration request = .ok cls ↔
      Declares interpreter configuration (.model request.provider request.modelType) cls ∧
        interpreter.issubclass cls (interpreter.base .largeLanguageModel) = true ∧
        interpreter.supportsPolling cls request.model request.credentials = .ok true := by
  rw [selectPolling, Fallible.bind_eq_ok]
  simp only [selectModel_iff loops, Fallible.bind_eq_ok]
  constructor
  · rintro ⟨found, ⟨declares, derives⟩, supported, asked, chosen⟩
    cases supported with
    | true =>
      obtain rfl := Except.ok.inj chosen
      exact ⟨declares, derives, asked⟩
    | false => exact absurd chosen (by simp [throw, throwThe, MonadExceptOf.throw])
  · rintro ⟨declares, derives, asked⟩
    exact ⟨cls, ⟨declares, derives⟩, true, asked, rfl⟩

/-- The endpoint is the one that is declared where the routing finds its path and method. -/
theorem dispatchEndpointRequest_iff (loops : Loops interpreter configuration registration) :
    registration.dispatchEndpointRequest request.routing = some cls ↔
      Answers interpreter configuration request cls .invokeEndpoint := by
  have rules : (registration.endpoints.map fun rule => (rule.path, rule.method)) =
      configuration.endpoints.map fun endpoint => (endpoint.path, endpoint.method) := by
    have each := Fallible.mapM_eq_ok.mp loops.endpoints
    have pairs : List.Forall₂ (fun (endpoint : EndpointConfiguration) (rule : Rule κ) =>
        (rule.path, rule.method) = (endpoint.path, endpoint.method))
          configuration.endpoints registration.endpoints := by
      apply each.imp
      intro endpoint rule made
      obtain ⟨loaded, -, same⟩ := Fallible.bind_eq_ok.mp made
      rw [← Except.ok.inj same]
    have mapped := List.forall₂_map_left_iff.mpr (List.forall₂_map_right_iff.mpr pairs.flip)
    rwa [List.forall₂_eq_eq_eq] at mapped
  rw [Registration.dispatchEndpointRequest, Option.bind_eq_some_iff, rules, Answers]
  simp only [loops.endpoint_iff]

/-- A handler selects the class that answers the request. -/
theorem select_iff (loops : Loops interpreter configuration registration) (handler : Handler) :
    select interpreter registration request handler = .ok cls ↔
      Answers interpreter configuration request cls handler ∧
        (handler.decodes = true → handler ≠ .invokeEndpoint → request.decoding = none) := by
  cases handler with
  | invokeTool =>
    rw [select, Fallible.bind_eq_ok, Answers]
    simp only [selectToolProvider, selectTool, orRaise_eq_ok, loops.tools_iff.2]
    constructor
    · rintro ⟨-, -, declares⟩
      exact ⟨declares, by simp [Handler.decodes]⟩
    · rintro ⟨declares, -⟩
      obtain ⟨providerCls, found⟩ := toolProvider_of_tool loops declares
      exact ⟨providerCls, found, declares⟩
  | getToolRuntimeParameters =>
    rw [select, Fallible.bind_eq_ok, Answers]
    simp only [selectTool, orRaise_eq_ok, loops.tools_iff.2]
    constructor
    · rintro ⟨found, declares, chosen⟩
      by_cases has : interpreter.hasRuntimeParameters found = true
      · rw [if_pos has] at chosen
        obtain rfl := Except.ok.inj chosen
        exact ⟨⟨declares, has⟩, by simp [Handler.decodes]⟩
      · rw [if_neg has] at chosen
        exact absurd chosen (by simp [throw, throwThe, MonadExceptOf.throw])
    · rintro ⟨⟨declares, has⟩, -⟩
      exact ⟨cls, declares, by rw [if_pos has]; rfl⟩
  | validateModelCredentials =>
    rw [select, Fallible.bind_eq_ok, Answers]
    simp only [Fallible.bind_eq_ok, orRaise_eq_ok]
    constructor
    · rintro ⟨-, -, found, looked, rfl⟩
      exact ⟨(loops.models_iff.2 _ _ _).mp looked, by simp [Handler.decodes]⟩
    · rintro ⟨declares, -⟩
      obtain ⟨providerCls, found⟩ := modelProvider_of_model loops declares
      exact ⟨providerCls, found, some cls, (loops.models_iff.2 _ _ _).mpr declares, rfl⟩
  | invokeSpeechToText =>
    rw [select, Fallible.bind_eq_ok, Answers]
    simp only [Fallible.andThen_eq_ok, selectModel_iff loops]
    constructor
    · rintro ⟨-, -, passed, declares⟩
      refine ⟨declares, fun _ _ => ?_⟩
      cases decoding : request.decoding with
      | none => rfl
      | some failure => simp [decoded, decoding] at passed
    · rintro ⟨declares, passes⟩
      have passed := passes rfl (by simp)
      exact ⟨some cls, (loops.models_iff.2 _ _ _).mpr declares.1, by simp [decoded, passed],
        declares⟩
  | getAiModelSchemas =>
    rw [select, selectModel_iff loops, Answers]
    constructor
    · rintro ⟨declares, -⟩
      exact ⟨declares, by simp [Handler.decodes]⟩
    · rintro ⟨declares, -⟩
      exact ⟨declares, derives_of_model declares⟩
  | invokeEndpoint =>
    rw [select, orRaise_eq_ok, dispatchEndpointRequest_iff loops]
    simp
  | getOauthCredentials =>
    rw [select, decoded_eq_ok, getOauthProviderInstance, orRaise_eq_ok,
      getSupportedOauthProvider_iff loops, Answers]
    simp [Handler.decodes]
  | invokeTriggerEvent =>
    rw [select, decoded_eq_ok, getTriggerEventHandler_eq_ok, loops.triggers_iff.2.2, Answers]
    simp [Handler.decodes]
  | dispatchTriggerEvent =>
    rw [select, decoded_eq_ok, loops.triggers_iff.1, Answers]
    simp [Handler.decodes]
  | validateToolProviderCredentials =>
    rw [select, selectToolProvider, orRaise_eq_ok, loops.tools_iff.1, Answers]
    simp [Handler.decodes]
  | invokeAgentStrategy =>
    rw [select, orRaise_eq_ok, loops.agentStrategy_iff, Answers]
    simp [Handler.decodes]
  | validateModelProviderCredentials =>
    rw [select, orRaise_eq_ok, loops.models_iff.1, Answers]
    simp [Handler.decodes]
  | validateDatasourceCredentials =>
    rw [select, loops.datasourceProvider_iff, Answers]
    simp [Handler.decodes]
  | fetchParameterOptions =>
    rw [select, getDynamicParameterAction_iff loops]
    simp [Handler.decodes]
  | getOauthAuthorizationUrl | refreshOauthCredentials | revokeOauthCredentials =>
    rw [select, getOauthProviderInstance, orRaise_eq_ok, getSupportedOauthProvider_iff loops,
      Answers]
    simp [Handler.decodes]
  | validateTriggerProviderCredentials | subscribeTrigger | unsubscribeTrigger | refreshTrigger =>
    rw [select, loops.triggers_iff.2.1, Answers]
    simp [Handler.decodes]
  | datasourceCrawlWebsite =>
    rw [select, loops.websiteCrawl_iff, Answers]
    simp [Handler.decodes]
  | datasourceGetPageContent | datasourceGetPages =>
    rw [select, loops.onlineDocument_iff, Answers]
    simp [Handler.decodes]
  | datasourceOnlineDriveBrowseFiles | datasourceOnlineDriveDownloadFile =>
    rw [select, loops.onlineDrive_iff, Answers]
    simp [Handler.decodes]
  | startLlmPolling | checkLlmPolling =>
    rw [select, selectPolling_iff loops, Answers]
    simp [Handler.decodes]
  | invokeLlm | getLlmNumTokens | invokeTextEmbedding | invokeMultimodalEmbedding |
    getTextEmbeddingNumTokens | invokeRerank | invokeMultimodalRerank | invokeTts |
    getTtsModelVoices | invokeModeration =>
    rw [select, selectModel_iff loops, Answers]
    simp [Handler.decodes]

/-- A handler calls the class that answers the request, when the request can be decoded. -/
theorem handle_called_iff (loops : Loops interpreter configuration registration)
    (handler other : Handler) :
    handle interpreter registration handler request = .called other cls ↔
      other = handler ∧ Answers interpreter configuration request cls handler ∧
        (handler.decodes = true → request.decoding = none) := by
  have selected := @select_iff _ _ _ _ _ request cls loops handler
  by_cases endpoint : handler = .invokeEndpoint
  · subst endpoint
    simp only [handle, if_true]
    cases decoding : request.decoding with
    | some failure => simp [Handler.decodes]
    | none =>
      cases chosen : select interpreter registration request .invokeEndpoint with
      | error failure =>
        rw [chosen] at selected
        simp only [reduceCtorEq, false_iff] at selected
        simp only [reduceCtorEq, false_iff]
        rintro ⟨-, answers, -⟩
        exact selected ⟨answers, by simp⟩
      | ok found =>
        rw [chosen] at selected
        simp only [Except.ok.injEq, ne_eq, not_true_eq_false, IsEmpty.forall_iff, implies_true,
          and_true] at selected
        simp only [Outcome.called.injEq, selected, implies_true, and_true]
        rw [eq_comm]
  · simp only [handle, if_neg endpoint]
    cases chosen : select interpreter registration request handler with
    | error failure =>
      rw [chosen] at selected
      simp only [reduceCtorEq, false_iff] at selected ⊢
      rintro ⟨-, answers, passes⟩
      exact selected ⟨answers, fun decodes _ => passes decodes⟩
    | ok found =>
      rw [chosen] at selected
      simp only [Except.ok.injEq] at selected
      simp only [Outcome.called.injEq, selected, ne_eq, endpoint, not_false_eq_true, forall_const]
      rw [eq_comm]

omit [DecidableEq κ] in
/-- A constructor derives from its class of the SDK. -/
theorem derives_of_constructs {provider : TriggerProviderConfiguration}
    (constructs : Constructs interpreter provider cls) :
    interpreter.issubclass cls (interpreter.base .triggerSubscriptionConstructor) = true := by
  rcases constructs with here | ⟨-, source, -, -, there⟩
  · exact here.derives
  · exact there.derives

/-- The class that answers a request derives from a class of the SDK that has the method. -/
theorem derives_of_answers {handler : Handler}
    (answers : Answers interpreter configuration request cls handler) :
    ∃ base ∈ handler.bases, interpreter.issubclass cls (interpreter.base base) = true := by
  have byTool {provider tool : Text}
      (declares : Declares interpreter configuration (.tool provider tool) cls) :
      interpreter.issubclass cls (interpreter.base .tool) = true := by
    cases declares with
    | tool declared listed implementing => exact implementing.derives
  have byToolProvider {provider : Text}
      (declares : Declares interpreter configuration (.toolProvider provider) cls) :
      interpreter.issubclass cls (interpreter.base .toolProvider) = true := by
    cases declares with
    | toolProvider declared implementing => exact implementing.derives
  have byEvent {provider event : Text}
      (declares : Declares interpreter configuration (.event provider event) cls) :
      interpreter.issubclass cls (interpreter.base .event) = true := by
    cases declares with
    | event declared listed implementing => exact implementing.derives
  have byTrigger {provider : Text}
      (declares : Declares interpreter configuration (.trigger provider) cls) :
      interpreter.issubclass cls (interpreter.base .trigger) = true := by
    cases declares with
    | trigger declared implementing => exact implementing.derives
  have byConstructor {provider : Text}
      (declares : Declares interpreter configuration (.constructor provider) cls) :
      interpreter.issubclass cls (interpreter.base .triggerSubscriptionConstructor) = true := by
    cases declares with
    | constructor declared constructs => exact derives_of_constructs constructs
  have byDatasourceProvider {provider : Text}
      (declares : Declares interpreter configuration (.datasourceProvider provider) cls) :
      interpreter.issubclass cls (interpreter.base .datasourceProvider) = true := by
    cases declares with
    | datasourceProvider declared implementing => exact implementing.derives
  have byDatasource {type : DatasourceProviderType} {provider datasource : Text}
      (declares : Declares interpreter configuration (.datasource type provider datasource) cls) :
      interpreter.issubclass cls (interpreter.base type.base) = true := by
    cases declares with
    | datasource declared listed implementing => exact implementing.derives
  cases handler with
  | validateToolProviderCredentials => exact ⟨_, List.mem_singleton_self _, byToolProvider answers⟩
  | invokeTool => exact ⟨_, List.mem_singleton_self _, byTool answers⟩
  | getToolRuntimeParameters => exact ⟨_, List.mem_singleton_self _, byTool answers.1⟩
  | invokeAgentStrategy =>
    cases answers with
    | agentStrategy declared listed implementing =>
      exact ⟨_, List.mem_singleton_self _, implementing.derives⟩
  | validateModelProviderCredentials =>
    cases answers with
    | modelProvider declared implementing =>
      exact ⟨_, List.mem_singleton_self _, implementing.derives⟩
  | validateModelCredentials | getAiModelSchemas =>
    exact ⟨_, List.mem_singleton_self _, derives_of_model answers⟩
  | invokeEndpoint =>
    obtain ⟨position, -, declares⟩ := answers
    cases declares with
    | endpoint declared implementing =>
      exact ⟨_, List.mem_singleton_self _, implementing.derives⟩
  | validateDatasourceCredentials =>
    exact ⟨_, List.mem_singleton_self _, byDatasourceProvider answers⟩
  | datasourceCrawlWebsite | datasourceGetPageContent | datasourceGetPages |
    datasourceOnlineDriveBrowseFiles | datasourceOnlineDriveDownloadFile =>
    exact ⟨_, List.mem_singleton_self _, byDatasource answers⟩
  | getOauthAuthorizationUrl | getOauthCredentials | refreshOauthCredentials |
    revokeOauthCredentials =>
    rcases answers with ⟨declared, -, -, -, constructs⟩ | ⟨-, tool | ⟨-, datasource⟩⟩
    · exact ⟨.triggerSubscriptionConstructor, by simp [Handler.bases],
        derives_of_constructs constructs⟩
    · exact ⟨.toolProvider, by simp [Handler.bases], byToolProvider tool.2⟩
    · exact ⟨.datasourceProvider, by simp [Handler.bases], byDatasourceProvider datasource.2⟩
  | fetchParameterOptions =>
    simp only [Answers] at answers
    split at answers
    · exact ⟨.triggerSubscriptionConstructor, by simp [Handler.bases], byConstructor answers⟩
    · rcases answers with event | ⟨-, tool⟩
      · exact ⟨.event, by simp [Handler.bases], byEvent event⟩
      · exact ⟨.tool, by simp [Handler.bases], byTool tool⟩
  | invokeTriggerEvent => exact ⟨_, List.mem_singleton_self _, byEvent answers⟩
  | dispatchTriggerEvent => exact ⟨_, List.mem_singleton_self _, byTrigger answers⟩
  | validateTriggerProviderCredentials | subscribeTrigger | unsubscribeTrigger | refreshTrigger =>
    exact ⟨_, List.mem_singleton_self _, byConstructor answers⟩
  | startLlmPolling | checkLlmPolling => exact ⟨_, List.mem_singleton_self _, answers.2.1⟩
  | invokeLlm | getLlmNumTokens | invokeTextEmbedding | invokeMultimodalEmbedding |
    getTextEmbeddingNumTokens | invokeRerank | invokeMultimodalRerank | invokeTts |
    getTtsModelVoices | invokeSpeechToText | invokeModeration =>
    exact ⟨_, List.mem_singleton_self _, answers.2⟩

end Selected

end DifyPlugin.Handlers
