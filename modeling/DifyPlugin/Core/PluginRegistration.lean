import DifyPlugin.Core.TriggerFactory

/-!
# Registering a plugin

`PluginRegistration` loads the classes that a manifest declares, and keeps them under the names
of their providers. Tools, strategies, datasources and models are kept in dictionaries, where the
last declaration of a name stays; triggers are kept by the factory, which refuses a name that it
has. Once a plugin is resolved, what is found under a name is what its manifest declares there.
-/

namespace DifyPlugin.PluginRegistration

open ClassLoader Registering TriggerFactory

/-! ## The manifest -/

/-- `ToolConfiguration`, as far as the registration reads it. -/
structure ToolConfiguration where
  /-- `identity.name`. -/
  name : Text
  /-- `extra.python.source`. -/
  source : Text
  /-- `has_runtime_parameters`. -/
  hasRuntimeParameters : Bool
  deriving DecidableEq

/-- `ToolProviderConfiguration`, as far as the registration reads it. -/
structure ToolProviderConfiguration where
  /-- `identity.name`. -/
  name : Text
  /-- `extra.python.source`. -/
  source : Text
  /-- Whether there is an `oauth_schema`. -/
  oauthSchema : Bool
  /-- `tools`. -/
  tools : List ToolConfiguration

/-- `AgentStrategyConfiguration`, as far as the registration reads it. -/
structure AgentStrategyConfiguration where
  /-- `identity.name`. -/
  name : Text
  /-- `extra.python.source`. -/
  source : Text

/-- `AgentStrategyProviderConfiguration`, as far as the registration reads it. -/
structure AgentStrategyProviderConfiguration where
  /-- `identity.name`. -/
  name : Text
  /-- `strategies`. -/
  strategies : List AgentStrategyConfiguration

/-- `DatasourceProviderType`. -/
inductive DatasourceProviderType where
  /-- `"online_document"`. -/
  | onlineDocument
  /-- `"website_crawl"`. -/
  | websiteCrawl
  /-- `"online_drive"`. -/
  | onlineDrive
  deriving DecidableEq

/-- `DatasourceEntity`, as far as the registration reads it. -/
structure DatasourceEntity where
  /-- `identity.name`. -/
  name : Text
  /-- `extra.python.source`. -/
  source : Text

/-- `DatasourceProviderManifest`, as far as the registration reads it. -/
structure DatasourceProviderManifest where
  /-- `identity.name`. -/
  name : Text
  /-- `extra.python.source`. -/
  source : Text
  /-- `provider_type`. -/
  providerType : DatasourceProviderType
  /-- Whether there is an `oauth_schema`. -/
  oauthSchema : Bool
  /-- `datasources`. -/
  datasources : List DatasourceEntity

/-- `ModelProviderConfiguration`, as far as the registration reads it. -/
structure ModelProviderConfiguration where
  /-- `provider`. -/
  provider : Text
  /-- `extra.python.provider_source`. -/
  providerSource : Text
  /-- `extra.python.model_sources`. -/
  modelSources : List Text

/-- `EndpointConfiguration`, as far as the registration reads it. -/
structure EndpointConfiguration where
  /-- `path`. -/
  path : Text
  /-- `method`. -/
  method : Text
  /-- `extra.python.source`. -/
  source : Text

/-- What `_load_plugin_configuration` has read from the manifest. -/
structure Configuration where
  /-- `tools_configuration`. -/
  tools : List ToolProviderConfiguration
  /-- `models_configuration`. -/
  models : List ModelProviderConfiguration
  /-- The endpoints of `endpoints_configuration`, one group after another. -/
  endpoints : List EndpointConfiguration
  /-- `agent_strategies_configuration`. -/
  agentStrategies : List AgentStrategyProviderConfiguration
  /-- `datasource_configuration`. -/
  datasources : List DatasourceProviderManifest
  /-- `triggers_configuration`. -/
  triggers : List TriggerProviderConfiguration

/-! ## The registration -/

/-- What is kept of a tool provider. -/
structure ToolProviderEntry (κ : Type) where
  /-- The configuration. -/
  configuration : ToolProviderConfiguration
  /-- The class of the provider. -/
  providerCls : κ
  /-- The tools by their names. -/
  tools : Dict Text (ToolConfiguration × κ)

/-- `DatasourceProviderMapping`. -/
structure DatasourceProviderMapping (κ : Type) where
  /-- `configuration`. -/
  configuration : DatasourceProviderManifest
  /-- `provider_cls`. -/
  providerCls : κ
  /-- `website_crawl_datasource_mapping`. -/
  websiteCrawl : Dict Text κ
  /-- `online_document_datasource_mapping`. -/
  onlineDocument : Dict Text κ
  /-- `online_drive_datasource_mapping`. -/
  onlineDrive : Dict Text κ

/-- What is kept of a model provider. -/
structure ModelProviderEntry (κ : Type) where
  /-- The class of `provider_instance`. -/
  providerCls : κ
  /-- `models` of the `ModelFactory`. -/
  models : Dict ModelType κ

/-- A `Rule` of the endpoints. -/
structure Rule (κ : Type) where
  /-- The path. -/
  path : Text
  /-- The only method. -/
  method : Text
  /-- `endpoint`. -/
  endpoint : κ

/-- `PluginRegistration`. -/
structure Registration (κ : Type) where
  /-- `tools_mapping`. -/
  toolsMapping : Dict Text (ToolProviderEntry κ)
  /-- `models_mapping`. -/
  modelsMapping : Dict Text (ModelProviderEntry κ)
  /-- `endpoints`. -/
  endpoints : List (Rule κ)
  /-- `agent_strategies_mapping`. -/
  agentStrategiesMapping : Dict Text (Dict Text κ)
  /-- `datasource_mapping`. -/
  datasourceMapping : Dict Text (DatasourceProviderMapping κ)
  /-- `trigger_factory`. -/
  triggerFactory : Factory κ

variable {κ : Type} [DecidableEq κ]

/-! ## Resolving -/

/-- The class of the SDK for the datasources of a provider. -/
def DatasourceProviderType.base : DatasourceProviderType → Base
  | .websiteCrawl => .websiteCrawlDatasource
  | .onlineDocument => .onlineDocumentDatasource
  | .onlineDrive => .onlineDriveDatasource

section Resolve

variable (interpreter : Interpreter κ)

/-- The body of the loop over the tools of a provider. -/
def resolveTool (tool : ToolConfiguration) : Except Failure (ToolConfiguration × κ) := do
  let cls ← interpreter.loadSingleSubclassFromSource tool.source .tool
  return (if interpreter.hasRuntimeParameters cls then { tool with hasRuntimeParameters := true }
    else tool, cls)

/-- The body of the loop over the tool providers. -/
def resolveToolProvider (provider : ToolProviderConfiguration) :
    Except Failure (ToolProviderEntry κ) := do
  let cls ← interpreter.loadSingleSubclassFromSource provider.source .toolProvider
  let tools ← provider.tools.foldlM (assign ToolConfiguration.name (resolveTool interpreter))
    Dict.empty
  return ⟨provider, cls, tools⟩

/-- The body of the loop over the agent providers. -/
def resolveAgentProvider (provider : AgentStrategyProviderConfiguration) :
    Except Failure (Dict Text κ) :=
  provider.strategies.foldlM (assign AgentStrategyConfiguration.name fun strategy =>
    interpreter.loadSingleSubclassFromSource strategy.source .agentStrategy) Dict.empty

/-- The body of the loop over the datasource providers. -/
def resolveDatasourceProvider (provider : DatasourceProviderManifest) :
    Except Failure (DatasourceProviderMapping κ) := do
  let providerCls ← interpreter.loadSingleSubclassFromSource provider.source .datasourceProvider
  let mapping ← provider.datasources.foldlM (assign DatasourceEntity.name fun datasource =>
    interpreter.loadSingleSubclassFromSource datasource.source provider.providerType.base)
    Dict.empty
  let ofType := fun type => if provider.providerType = type then mapping else Dict.empty
  return ⟨provider, providerCls, ofType .websiteCrawl, ofType .onlineDocument, ofType .onlineDrive⟩

/-- The source in which a constructor is looked for, and the classes there. -/
def constructorCandidates (provider : TriggerProviderConfiguration) :
    Except Failure (Text × List κ) := do
  let candidates ← interpreter.loadMultiSubclassesFromSource provider.source
    .triggerSubscriptionConstructor
  match candidates, provider.subscriptionConstructor.bind ConstructorConfiguration.source with
  | [], some source =>
    if source ≠ provider.source then
      let others ← interpreter.loadMultiSubclassesFromSource source .triggerSubscriptionConstructor
      return (source, others)
    else return (provider.source, [])
  | candidates, _ => return (provider.source, candidates)

/-- The constructor of the subscriptions of a trigger provider. -/
def resolveConstructor (provider : TriggerProviderConfiguration) : Except Failure (Option κ) := do
  let (source, candidates) ← constructorCandidates interpreter provider
  if candidates.length > 1 then
    throw ⟨.valueError, "Multiple TriggerSubscriptionConstructor subclasses found in ".toList ++
      source ++ ". Only a single implementation is supported.".toList⟩
  if provider.subscriptionConstructor.isSome && candidates.isEmpty then
    throw ⟨.valueError, ("Trigger subscription constructor configuration declared " ++
      "but no implementation found in ").toList ++ source ++ ".".toList⟩
  return candidates.head?

/-- The events of a trigger provider, with their classes. -/
def resolveEvents (provider : TriggerProviderConfiguration) :
    Except Failure (List (Text × EventConfiguration × κ)) :=
  provider.events.mapM fun event => do
    let cls ← interpreter.loadSingleSubclassFromSource event.source .event
    return (event.name, event, cls)

/-- The body of the loop over the trigger providers. -/
def resolveTriggerProvider (factory : Factory κ) (provider : TriggerProviderConfiguration) :
    Except Failure (Factory κ) := do
  let providerCls ← interpreter.loadSingleSubclassFromSource provider.source .trigger
  let constructorCls ← resolveConstructor interpreter provider
  let registrations ← resolveEvents interpreter provider
  let (factory, position) ←
    factory.registerTriggerProvider provider providerCls constructorCls Dict.empty
  factory.update position fun entry =>
    registrations.foldlM (fun entry event => entry.registerTrigger event.1 event.2.1 event.2.2)
      entry

/-- `_is_strict_subclass(model_cls, LargeLanguageModel, …)`. -/
def isModel (cls : κ) : Bool :=
  [Base.largeLanguageModel, .textEmbeddingModel, .rerankModel, .ttsModel, .speech2TextModel,
    .moderationModel].any fun parent => interpreter.isStrictSubclass parent cls

/-- The body of the loop over the sources of models. -/
def resolveModels (models : Dict ModelType κ) (source : Text) :
    Except Failure (Dict ModelType κ) := do
  let classes ← interpreter.loadMultiSubclassesFromSource source .aiModel
  return (classes.filter (isModel interpreter)).foldl
    (fun models cls => models.set (interpreter.modelType cls) cls) models

/-- The body of the loop over the model providers. -/
def resolveModelProvider (provider : ModelProviderConfiguration) :
    Except Failure (ModelProviderEntry κ) := do
  let cls ← interpreter.loadSingleSubclassFromSource provider.providerSource .modelProvider
  let models ← provider.modelSources.foldlM (resolveModels interpreter) Dict.empty
  return ⟨cls, models⟩

/-- The body of the loop over the endpoints. -/
def resolveEndpoint (endpoint : EndpointConfiguration) : Except Failure (Rule κ) := do
  let cls ← interpreter.loadSingleSubclassFromSource endpoint.source .endpoint
  return ⟨endpoint.path, endpoint.method, cls⟩

/-- `_resolve_plugin_cls`, with the loops of its six methods. -/
def resolvePluginCls (configuration : Configuration) : Except Failure (Registration κ) := do
  let tools ← configuration.tools.foldlM
    (assign ToolProviderConfiguration.name (resolveToolProvider interpreter)) Dict.empty
  let models ← configuration.models.foldlM
    (assign ModelProviderConfiguration.provider (resolveModelProvider interpreter)) Dict.empty
  let endpoints ← configuration.endpoints.mapM (resolveEndpoint interpreter)
  let agents ← configuration.agentStrategies.foldlM
    (assign AgentStrategyProviderConfiguration.name (resolveAgentProvider interpreter)) Dict.empty
  let datasources ← configuration.datasources.foldlM
    (assign DatasourceProviderManifest.name (resolveDatasourceProvider interpreter)) Dict.empty
  let triggers ← configuration.triggers.foldlM (resolveTriggerProvider interpreter) Factory.new
  return ⟨tools, models, endpoints, agents, datasources, triggers⟩

end Resolve

/-! ## Lookups -/

namespace Registration

variable (registration : Registration κ)

/-- `get_tool_provider_cls`. -/
def getToolProviderCls (provider : Text) : Option κ :=
  (registration.toolsMapping.get provider).map ToolProviderEntry.providerCls

/-- `get_tool_cls`. -/
def getToolCls (provider tool : Text) : Option κ :=
  (registration.toolsMapping.get provider).bind fun entry => (entry.tools.get tool).map Prod.snd

/-- `get_agent_strategy_cls`. -/
def getAgentStrategyCls (provider agent : Text) : Option κ :=
  (registration.agentStrategiesMapping.get provider).bind fun strategies => strategies.get agent

/-- `get_model_provider_instance`, by its class. -/
def getModelProviderInstance (provider : Text) : Option κ :=
  (registration.modelsMapping.get provider).map ModelProviderEntry.providerCls

/-- `get_model_instance`, by its class: a provider without a class for the type raises. -/
def getModelInstance (provider : Text) (modelType : ModelType) : Except Failure (Option κ) :=
  match registration.modelsMapping.get provider with
  | none => .ok none
  | some entry =>
    match entry.models.get modelType with
    | some cls => .ok (some cls)
    | none => .error ⟨.keyError, "<ModelType.".toList ++ modelType.member ++ ": '".toList ++
        modelType.value ++ "'>".toList⟩

/-- `get_datasource_provider_cls`. -/
def getDatasourceProviderCls (provider : Text) : Except Failure κ :=
  match registration.datasourceMapping.get provider with
  | some mapping => .ok mapping.providerCls
  | none =>
    .error ⟨.valueError, "Datasource provider ".toList ++ provider ++ " not found".toList⟩

/-- A datasource of one of the three kinds. -/
def getDatasourceCls (mapping : DatasourceProviderMapping κ → Dict Text κ) (label : String)
    (provider datasource : Text) : Except Failure κ :=
  match (registration.datasourceMapping.get provider).bind fun entry =>
    (mapping entry).get datasource with
  | some cls => .ok cls
  | none => .error ⟨.valueError, label.toList ++ " datasource ".toList ++ datasource ++
      " not found for provider ".toList ++ provider⟩

/-- `get_website_crawl_datasource_cls`. -/
def getWebsiteCrawlDatasourceCls (provider datasource : Text) : Except Failure κ :=
  registration.getDatasourceCls DatasourceProviderMapping.websiteCrawl "Website crawl" provider
    datasource

/-- `get_online_document_datasource_cls`. -/
def getOnlineDocumentDatasourceCls (provider datasource : Text) : Except Failure κ :=
  registration.getDatasourceCls DatasourceProviderMapping.onlineDocument "Online document" provider
    datasource

/-- `get_online_drive_datasource_cls`. -/
def getOnlineDriveDatasourceCls (provider datasource : Text) : Except Failure κ :=
  registration.getDatasourceCls DatasourceProviderMapping.onlineDrive "Online drive" provider
    datasource

/-- The constructor of a trigger provider, if its configuration has an `oauth_schema`. A provider
that was found is found again, so that only the first lookup may fail. -/
def oauthConstructor (provider : Text) : Option κ :=
  match registration.triggerFactory.getConfiguration provider with
  | .error _ => none
  | .ok configuration =>
    if configuration.subscriptionConstructor.any ConstructorConfiguration.oauthSchema then
      match registration.triggerFactory.getSubscriptionConstructorCls provider with
      | .ok cls => cls
      | .error _ => none
    else none

/-- `get_supported_oauth_provider`, by its class. -/
def getSupportedOauthProvider (provider : Text) : Option κ :=
  match registration.oauthConstructor provider with
  | some cls => some cls
  | none =>
    match (registration.toolsMapping.get provider).filter fun entry =>
      entry.configuration.oauthSchema with
    | some entry => some entry.providerCls
    | none =>
      match (registration.datasourceMapping.get provider).filter fun entry =>
        entry.configuration.oauthSchema with
      | some mapping => some mapping.providerCls
      | none => none

/-- `dispatch_endpoint_request`: the endpoint of the rule that the routing of the request finds
among the paths and methods. -/
def dispatchEndpointRequest (routing : List (Text × Text) → Option Nat) : Option κ :=
  (routing (registration.endpoints.map fun rule => (rule.path, rule.method))).bind fun position =>
    registration.endpoints[position]?.map Rule.endpoint

end Registration

/-! ## What a manifest declares -/

/-- What a class is looked up by. -/
inductive Key where
  /-- A tool provider. -/
  | toolProvider (provider : Text)
  /-- A tool of a provider. -/
  | tool (provider tool : Text)
  /-- A strategy of a provider. -/
  | agentStrategy (provider agent : Text)
  /-- A model provider. -/
  | modelProvider (provider : Text)
  /-- The models of a type of a provider. -/
  | model (provider : Text) (modelType : ModelType)
  /-- A datasource provider. -/
  | datasourceProvider (provider : Text)
  /-- A datasource of a provider of this type. -/
  | datasource (type : DatasourceProviderType) (provider datasource : Text)
  /-- A trigger provider. -/
  | trigger (provider : Text)
  /-- The constructor of the subscriptions of a trigger provider. -/
  | constructor (provider : Text)
  /-- An event of a trigger provider. -/
  | event (provider event : Text)
  /-- The endpoint at a position among all endpoints. -/
  | endpoint (position : Nat)
  deriving DecidableEq

/-- The class that the registration has for a key. -/
def Registration.lookup (registration : Registration κ) : Key → Option κ
  | .toolProvider provider => registration.getToolProviderCls provider
  | .tool provider tool => registration.getToolCls provider tool
  | .agentStrategy provider agent => registration.getAgentStrategyCls provider agent
  | .modelProvider provider => registration.getModelProviderInstance provider
  | .model provider modelType => (registration.getModelInstance provider modelType).toOption.join
  | .datasourceProvider provider => (registration.getDatasourceProviderCls provider).toOption
  | .datasource .websiteCrawl provider datasource =>
    (registration.getWebsiteCrawlDatasourceCls provider datasource).toOption
  | .datasource .onlineDocument provider datasource =>
    (registration.getOnlineDocumentDatasourceCls provider datasource).toOption
  | .datasource .onlineDrive provider datasource =>
    (registration.getOnlineDriveDatasourceCls provider datasource).toOption
  | .trigger provider => (registration.triggerFactory.getProviderCls provider).toOption
  | .constructor provider =>
    (registration.triggerFactory.getSubscriptionConstructor provider).toOption
  | .event provider event =>
    registration.triggerFactory.getTriggerEventHandlerSafely provider event
  | .endpoint position => registration.endpoints[position]?.map Rule.endpoint

/-- The classes of models in the sources of a provider, in order. -/
def modelClasses (interpreter : Interpreter κ) (provider : ModelProviderConfiguration) : List κ :=
  provider.modelSources.flatMap fun source =>
    ((interpreter.loadMultiSubclassesFromSource source .aiModel).toOption.getD []).filter
      (isModel interpreter)

/-- A class is the constructor of a provider: in the provider's source, or in the constructor's. -/
def Constructs (interpreter : Interpreter κ) (provider : TriggerProviderConfiguration) (cls : κ) :
    Prop :=
  interpreter.Implements provider.source .triggerSubscriptionConstructor cls ∨
    (∀ other, ¬ interpreter.Implements provider.source .triggerSubscriptionConstructor other) ∧
      ∃ source, provider.subscriptionConstructor.bind ConstructorConfiguration.source =
        some source ∧ source ≠ provider.source ∧
          interpreter.Implements source .triggerSubscriptionConstructor cls

/-- What a manifest declares: the last provider of a name with its last tool, strategy, model or
datasource of a name, and any trigger provider and event of a name, of which there is one. -/
inductive Declares (interpreter : Interpreter κ) (configuration : Configuration) :
    Key → κ → Prop where
  /-- The class of a tool provider. -/
  | toolProvider {name : Text} {provider : ToolProviderConfiguration} {cls : κ}
    (declared : last ToolProviderConfiguration.name configuration.tools name = some provider)
    (implementing : interpreter.Implements provider.source .toolProvider cls) :
    Declares interpreter configuration (.toolProvider name) cls
  /-- The class of a tool. -/
  | tool {name toolName : Text} {provider : ToolProviderConfiguration} {tool : ToolConfiguration}
    {cls : κ}
    (declared : last ToolProviderConfiguration.name configuration.tools name = some provider)
    (listed : last ToolConfiguration.name provider.tools toolName = some tool)
    (implementing : interpreter.Implements tool.source .tool cls) :
    Declares interpreter configuration (.tool name toolName) cls
  /-- The class of a strategy. -/
  | agentStrategy {name agent : Text} {provider : AgentStrategyProviderConfiguration}
    {strategy : AgentStrategyConfiguration} {cls : κ}
    (declared : last AgentStrategyProviderConfiguration.name configuration.agentStrategies name =
      some provider)
    (listed : last AgentStrategyConfiguration.name provider.strategies agent = some strategy)
    (implementing : interpreter.Implements strategy.source .agentStrategy cls) :
    Declares interpreter configuration (.agentStrategy name agent) cls
  /-- The class of a model provider. -/
  | modelProvider {name : Text} {provider : ModelProviderConfiguration} {cls : κ}
    (declared : last ModelProviderConfiguration.provider configuration.models name = some provider)
    (implementing : interpreter.Implements provider.providerSource .modelProvider cls) :
    Declares interpreter configuration (.modelProvider name) cls
  /-- The last class of models of a type. -/
  | model {name : Text} {modelType : ModelType} {provider : ModelProviderConfiguration} {cls : κ}
    (declared : last ModelProviderConfiguration.provider configuration.models name = some provider)
    (listed : last interpreter.modelType (modelClasses interpreter provider) modelType =
      some cls) :
    Declares interpreter configuration (.model name modelType) cls
  /-- The class of a datasource provider. -/
  | datasourceProvider {name : Text} {provider : DatasourceProviderManifest} {cls : κ}
    (declared : last DatasourceProviderManifest.name configuration.datasources name =
      some provider)
    (implementing : interpreter.Implements provider.source .datasourceProvider cls) :
    Declares interpreter configuration (.datasourceProvider name) cls
  /-- The class of a datasource, of the type of its provider. -/
  | datasource {name datasourceName : Text} {provider : DatasourceProviderManifest}
    {datasource : DatasourceEntity} {cls : κ}
    (declared : last DatasourceProviderManifest.name configuration.datasources name =
      some provider)
    (listed : last DatasourceEntity.name provider.datasources datasourceName = some datasource)
    (implementing : interpreter.Implements datasource.source provider.providerType.base cls) :
    Declares interpreter configuration (.datasource provider.providerType name datasourceName) cls
  /-- The class of a trigger provider. -/
  | trigger {provider : TriggerProviderConfiguration} {cls : κ}
    (declared : provider ∈ configuration.triggers)
    (implementing : interpreter.Implements provider.source .trigger cls) :
    Declares interpreter configuration (.trigger provider.name) cls
  /-- The constructor of a trigger provider. -/
  | constructor {provider : TriggerProviderConfiguration} {cls : κ}
    (declared : provider ∈ configuration.triggers)
    (constructs : Constructs interpreter provider cls) :
    Declares interpreter configuration (.constructor provider.name) cls
  /-- The class of an event. -/
  | event {provider : TriggerProviderConfiguration} {event : EventConfiguration} {cls : κ}
    (declared : provider ∈ configuration.triggers) (listed : event ∈ provider.events)
    (implementing : interpreter.Implements event.source .event cls) :
    Declares interpreter configuration (.event provider.name event.name) cls
  /-- The class of an endpoint. -/
  | endpoint {position : Nat} {endpoint : EndpointConfiguration} {cls : κ}
    (declared : configuration.endpoints[position]? = some endpoint)
    (implementing : interpreter.Implements endpoint.source .endpoint cls) :
    Declares interpreter configuration (.endpoint position) cls

section Resolved

variable {interpreter : Interpreter κ} {configuration : Configuration}

/-- A loaded class is the one that implements the class of the SDK. -/
theorem loaded_iff {source : Text} {parent : Base} {loaded cls : κ}
    (made : interpreter.loadSingleSubclassFromSource source parent = .ok loaded) :
    loaded = cls ↔ interpreter.Implements source parent cls := by
  rw [Interpreter.implements_of_loadSingle made]
  exact eq_comm

/-- The tools of a provider that was resolved. -/
theorem resolveToolProvider_tools {provider : ToolProviderConfiguration}
    {entry : ToolProviderEntry κ} (made : resolveToolProvider interpreter provider = .ok entry) :
    entry.configuration = provider ∧
      interpreter.loadSingleSubclassFromSource provider.source .toolProvider =
        .ok entry.providerCls ∧
      ∀ toolName cls, (entry.tools.get toolName).map Prod.snd = some cls ↔
        ∃ tool, last ToolConfiguration.name provider.tools toolName = some tool ∧
          interpreter.Implements tool.source .tool cls := by
  obtain ⟨providerCls, loaded, rest⟩ := Fallible.bind_eq_ok.mp made
  obtain ⟨tools, ran, same⟩ := Fallible.bind_eq_ok.mp rest
  obtain rfl := Except.ok.inj same
  refine ⟨rfl, loaded, fun toolName cls => ?_⟩
  rw [Option.map_eq_some_iff]
  constructor
  · rintro ⟨⟨tool, found⟩, has, rfl⟩
    obtain ⟨declared, listed, resolved⟩ := (get_assign_empty ran).mp has
    obtain ⟨toolCls, loadedTool, pair⟩ := Fallible.bind_eq_ok.mp resolved
    have cls : toolCls = found := congrArg Prod.snd (Except.ok.inj pair)
    exact ⟨declared, listed, (loaded_iff loadedTool).mp cls⟩
  · rintro ⟨declared, listed, implementing⟩
    obtain ⟨value, resolved⟩ := made_of_assign ran declared (mem_of_last listed).1
    obtain ⟨toolCls, loadedTool, pair⟩ := Fallible.bind_eq_ok.mp resolved
    refine ⟨value, (get_assign_empty ran).mpr ⟨declared, listed, resolved⟩, ?_⟩
    rw [← Except.ok.inj pair]
    exact (loaded_iff loadedTool).mpr implementing

/-- A name of a dictionary of loaded classes has the class that its last item declares. -/
theorem get_loaded {α : Type} {name source : α → Text} {parent : Base} {items : List α}
    {final : Dict Text κ}
    (ran : items.foldlM (assign name fun item =>
      interpreter.loadSingleSubclassFromSource (source item) parent) Dict.empty = .ok final)
    {key : Text} {cls : κ} :
    final.get key = some cls ↔
      ∃ item, last name items key = some item ∧
        interpreter.Implements (source item) parent cls := by
  rw [get_assign_empty ran]
  constructor
  · rintro ⟨item, listed, loaded⟩
    exact ⟨item, listed, (loaded_iff loaded).mp rfl⟩
  · rintro ⟨item, listed, implementing⟩
    obtain ⟨value, loaded⟩ := made_of_assign ran item (mem_of_last listed).1
    exact ⟨item, listed, (loaded_iff loaded).mpr implementing ▸ loaded⟩

/-- The models of some sources are the last ones of their types. -/
theorem get_resolveModels {sources : List Text} {start final : Dict ModelType κ}
    (ran : sources.foldlM (resolveModels interpreter) start = .ok final) (modelType : ModelType) :
    final.get modelType =
      (last interpreter.modelType (sources.flatMap fun source =>
        ((interpreter.loadMultiSubclassesFromSource source .aiModel).toOption.getD []).filter
          (isModel interpreter)) modelType).or (start.get modelType) := by
  induction sources generalizing start with
  | nil =>
    obtain rfl := Except.ok.inj ran
    rfl
  | cons source rest ih =>
    rw [List.foldlM_cons] at ran
    obtain ⟨middle, first, later⟩ := Fallible.bind_eq_ok.mp ran
    obtain ⟨classes, loaded, same⟩ := Fallible.bind_eq_ok.mp first
    obtain rfl := Except.ok.inj same
    rw [ih later, get_foldl_set, List.flatMap_cons, last_append, loaded, Option.or_assoc]
    rfl

/-- The models of a provider that was resolved. -/
theorem resolveModelProvider_models {provider : ModelProviderConfiguration}
    {entry : ModelProviderEntry κ} (made : resolveModelProvider interpreter provider = .ok entry) :
    interpreter.loadSingleSubclassFromSource provider.providerSource .modelProvider =
        .ok entry.providerCls ∧
      ∀ modelType, entry.models.get modelType =
        last interpreter.modelType (modelClasses interpreter provider) modelType := by
  obtain ⟨providerCls, loaded, rest⟩ := Fallible.bind_eq_ok.mp made
  obtain ⟨models, ran, same⟩ := Fallible.bind_eq_ok.mp rest
  obtain rfl := Except.ok.inj same
  refine ⟨loaded, fun modelType => ?_⟩
  have nothing : (Dict.empty : Dict ModelType κ).get modelType = none := rfl
  rw [get_resolveModels ran, nothing, Option.or_none, modelClasses]

/-- A throwing branch of a step that ends was not taken. -/
theorem notTaken {condition : Prop} [Decidable condition] {failure : Failure} {β : Type}
    {rest : Except Failure β} {result : β}
    (made : (if condition then throw failure else rest) = Except.ok result) :
    ¬ condition ∧ rest = .ok result := by
  by_cases taken : condition
  · rw [if_pos taken] at made
    exact absurd made (by simp [throw, throwThe, MonadExceptOf.throw])
  · rw [if_neg taken] at made
    exact ⟨taken, made⟩

/-- The classes among which a constructor is chosen. -/
theorem mem_constructorCandidates {provider : TriggerProviderConfiguration} {source : Text}
    {candidates : List κ}
    (made : constructorCandidates interpreter provider = .ok (source, candidates)) (cls : κ) :
    cls ∈ candidates ↔ Constructs interpreter provider cls := by
  obtain ⟨own, loaded, rest⟩ := Fallible.bind_eq_ok.mp made
  have known (other : κ) : other ∈ own ↔
      interpreter.Implements provider.source .triggerSubscriptionConstructor other :=
    Interpreter.mem_loadMulti loaded
  cases own with
  | cons first others =>
    obtain rfl : first :: others = candidates := congrArg Prod.snd (Except.ok.inj rest)
    rw [known, Constructs]
    constructor
    · exact Or.inl
    · rintro (here | ⟨absent, -⟩)
      · exact here
      · exact absurd ((known first).mp List.mem_cons_self) (absent first)
  | nil =>
    have absent (other : κ) :
        ¬ interpreter.Implements provider.source .triggerSubscriptionConstructor other := by
      rw [← known]
      exact List.not_mem_nil
    cases given : provider.subscriptionConstructor.bind ConstructorConfiguration.source with
    | none =>
      rw [given] at rest
      obtain rfl : [] = candidates := congrArg Prod.snd (Except.ok.inj rest)
      simp [Constructs, absent, given]
    | some apart =>
      rw [given] at rest
      by_cases differs : apart ≠ provider.source
      · simp only [if_pos differs] at rest
        obtain ⟨others, loadedApart, same⟩ := Fallible.bind_eq_ok.mp rest
        obtain rfl : others = candidates := congrArg Prod.snd (Except.ok.inj same)
        rw [Interpreter.mem_loadMulti loadedApart, Constructs]
        simp [absent, given, differs]
      · simp only [if_neg differs] at rest
        obtain rfl : [] = candidates := congrArg Prod.snd (Except.ok.inj rest)
        simp only [Constructs, absent, given, Option.some.injEq]
        simp [not_not.mp differs]

/-- The constructor of a provider that was resolved. -/
theorem resolveConstructor_eq_some {provider : TriggerProviderConfiguration}
    {constructorCls : Option κ}
    (made : resolveConstructor interpreter provider = .ok constructorCls) (cls : κ) :
    constructorCls = some cls ↔ Constructs interpreter provider cls := by
  obtain ⟨⟨source, candidates⟩, found, rest⟩ := Fallible.bind_eq_ok.mp made
  rw [← mem_constructorCandidates found]
  obtain ⟨single, rest⟩ := notTaken rest
  obtain ⟨-, rest⟩ := notTaken rest
  obtain rfl := Except.ok.inj rest
  cases candidates with
  | nil => simp
  | cons first others =>
    have alone : others = [] := by
      apply List.eq_nil_of_length_eq_zero
      simp only [List.length_cons] at single
      omega
    simp [alone, eq_comm]

/-- The entry of a trigger provider that was resolved. -/
structure EntryOf (interpreter : Interpreter κ) (provider : TriggerProviderConfiguration)
    (entry : Entry κ) : Prop where
  /-- It has the configuration of the provider. -/
  configuration : entry.configuration = provider
  /-- Its class implements a trigger. -/
  providerCls : ∀ cls, entry.providerCls = cls ↔
    interpreter.Implements provider.source .trigger cls
  /-- Its constructor is the provider's. -/
  constructorCls : ∀ cls, entry.subscriptionConstructorCls = some cls ↔
    Constructs interpreter provider cls
  /-- Its events are the provider's. -/
  events : ∀ name cls, (entry.events.get name).map Prod.snd = some cls ↔
    ∃ event ∈ provider.events, event.name = name ∧
      interpreter.Implements event.source .event cls

/-- The factory has the entries of some providers, whose names differ. -/
structure Registers (interpreter : Interpreter κ) (providers : List TriggerProviderConfiguration)
    (factory : Factory κ) : Prop where
  /-- The entries. -/
  entries : List.Forall₂ (EntryOf interpreter) providers factory.entries
  /-- The positions of the entries. -/
  positions : factory.providers.entries =
    (providers.map TriggerProviderConfiguration.name).zipIdx

/-- The events that were resolved are those of the provider, with their classes. -/
theorem mem_resolveEvents {provider : TriggerProviderConfiguration}
    {registrations : List (Text × EventConfiguration × κ)}
    (made : resolveEvents interpreter provider = .ok registrations) (name : Text) (cls : κ) :
    (∃ event, (name, event, cls) ∈ registrations) ↔
      ∃ event ∈ provider.events, event.name = name ∧
        interpreter.Implements event.source .event cls := by
  have each := Fallible.mapM_eq_ok.mp made
  constructor
  · rintro ⟨event, listed⟩
    obtain ⟨position, inside, there⟩ := List.mem_iff_getElem.mp listed
    have before : position < provider.events.length := by
      rw [each.length_eq]
      exact inside
    have round := (List.forall₂_iff_get.mp each).2 position before inside
    obtain ⟨loaded, load, same⟩ := Fallible.bind_eq_ok.mp round
    simp only [List.get_eq_getElem, there] at same
    obtain ⟨named, -, rfl⟩ : (provider.events[position]).name = name ∧
        provider.events[position] = event ∧ loaded = cls := by
      simpa using Except.ok.inj same
    exact ⟨provider.events[position], List.getElem_mem before, named, (loaded_iff load).mp rfl⟩
  · rintro ⟨event, listed, named, implementing⟩
    obtain ⟨position, before, there⟩ := List.mem_iff_getElem.mp listed
    have inside : position < registrations.length := by
      rw [← each.length_eq]
      exact before
    have round := (List.forall₂_iff_get.mp each).2 position before inside
    obtain ⟨loaded, load, same⟩ := Fallible.bind_eq_ok.mp round
    simp only [List.get_eq_getElem, there] at load same
    have found : registrations[position] = (name, event, cls) := by
      rw [← Except.ok.inj same, named, (loaded_iff load).mpr implementing]
    exact ⟨event, found ▸ List.getElem_mem inside⟩

/-- The body of the loop registers one more provider. -/
theorem Registers.resolve {providers : List TriggerProviderConfiguration}
    {factory final : Factory κ} (registers : Registers interpreter providers factory)
    {provider : TriggerProviderConfiguration}
    (made : resolveTriggerProvider interpreter factory provider = .ok final) :
    Registers interpreter (providers ++ [provider]) final := by
  obtain ⟨providerCls, loaded, made⟩ := Fallible.bind_eq_ok.mp made
  obtain ⟨constructorCls, constructed, made⟩ := Fallible.bind_eq_ok.mp made
  obtain ⟨registrations, resolved, made⟩ := Fallible.bind_eq_ok.mp made
  obtain ⟨⟨middle, position⟩, registered, made⟩ := Fallible.bind_eq_ok.mp made
  obtain ⟨rfl, entries, positions⟩ := @of_registerTriggerProvider _ _ _
    ⟨provider, providerCls, constructorCls, Dict.empty⟩ _ registered
  obtain ⟨changed, filled, ending, kept⟩ := of_update entries made
  obtain ⟨events, rfl, listed⟩ := entries_of_registered filled
  have length : providers.length = factory.entries.length := registers.entries.length_eq
  constructor
  · rw [ending]
    apply List.rel_append registers.entries
    apply List.Forall₂.cons _ List.Forall₂.nil
    exact {
      configuration := rfl
      providerCls := fun cls => loaded_iff loaded
      constructorCls := resolveConstructor_eq_some constructed
      events := by
        intro name cls
        rw [← mem_resolveEvents resolved, Option.map_eq_some_iff]
        have all : events.entries = registrations := listed
        constructor
        · rintro ⟨⟨event, found⟩, has, rfl⟩
          exact ⟨event, all ▸ Dict.get_eq_some.mp has⟩
        · rintro ⟨event, there⟩
          exact ⟨(event, cls), Dict.get_eq_some.mpr (all ▸ there), rfl⟩ }
  · rw [kept, positions, registers.positions, List.map_append, List.zipIdx_append,
      List.length_map, length, Nat.zero_add]
    rfl

/-- The loop over the trigger providers registers them all. -/
theorem registers_of_ran {providers : List TriggerProviderConfiguration} {factory : Factory κ}
    (ran : providers.foldlM (resolveTriggerProvider interpreter) Factory.new = .ok factory) :
    Registers interpreter providers factory := by
  induction providers using List.reverseRecOn generalizing factory with
  | nil =>
    obtain rfl := Except.ok.inj ran
    exact ⟨List.Forall₂.nil, rfl⟩
  | append_singleton before provider ih =>
    rw [List.foldlM_append] at ran
    obtain ⟨middle, ranBefore, ranLast⟩ := Fallible.bind_eq_ok.mp ran
    rw [List.foldlM_cons] at ranLast
    obtain ⟨final, resolved, same⟩ := Fallible.bind_eq_ok.mp ranLast
    obtain rfl := Except.ok.inj same
    exact (ih ranBefore).resolve resolved

omit [DecidableEq κ] in
/-- What is found under a name is at its place. -/
theorem Registers.find_eq_some {providers : List TriggerProviderConfiguration}
    {factory : Factory κ} (registers : Registers interpreter providers factory) {name : Text}
    {entry : Entry κ} :
    factory.find name = some entry ↔
      ∃ position : Nat, (providers[position]?).map TriggerProviderConfiguration.name = some name ∧
        factory.entries[position]? = some entry := by
  rw [Factory.find, Option.bind_eq_some_iff]
  simp only [Dict.get_eq_some, registers.positions, List.mem_zipIdx_iff_getElem?,
    List.getElem?_map]

omit [DecidableEq κ] in
/-- A trigger provider is found under its name. -/
theorem Registers.find_of_mem {providers : List TriggerProviderConfiguration}
    {factory : Factory κ} (registers : Registers interpreter providers factory)
    {provider : TriggerProviderConfiguration} (declared : provider ∈ providers) :
    ∃ entry, factory.find provider.name = some entry ∧ EntryOf interpreter provider entry := by
  obtain ⟨position, before, there⟩ := List.mem_iff_getElem.mp declared
  have inside : position < factory.entries.length := by
    rw [← registers.entries.length_eq]
    exact before
  have each := (List.forall₂_iff_get.mp registers.entries).2 position before inside
  simp only [List.get_eq_getElem, there] at each
  refine ⟨factory.entries[position], registers.find_eq_some.mpr ⟨position, ?_, ?_⟩, each⟩
  · rw [List.getElem?_eq_getElem before, there, Option.map_some]
  · exact List.getElem?_eq_getElem inside

omit [DecidableEq κ] in
/-- What is found under a name is the entry of a provider of the name. -/
theorem Registers.mem_of_find {providers : List TriggerProviderConfiguration}
    {factory : Factory κ} (registers : Registers interpreter providers factory) {name : Text}
    {entry : Entry κ} (found : factory.find name = some entry) :
    ∃ provider ∈ providers, provider.name = name ∧ EntryOf interpreter provider entry := by
  obtain ⟨position, named, there⟩ := registers.find_eq_some.mp found
  obtain ⟨provider, listed, same⟩ := Option.map_eq_some_iff.mp named
  obtain ⟨before, here⟩ := List.getElem?_eq_some_iff.mp listed
  obtain ⟨inside, entryHere⟩ := List.getElem?_eq_some_iff.mp there
  have each := (List.forall₂_iff_get.mp registers.entries).2 position before inside
  simp only [List.get_eq_getElem, here, entryHere] at each
  exact ⟨provider, here ▸ List.getElem_mem before, same, each⟩

/-- The loops of a plugin that was resolved. -/
structure Loops (interpreter : Interpreter κ) (configuration : Configuration)
    (registration : Registration κ) : Prop where
  /-- The loop over the tool providers. -/
  tools : configuration.tools.foldlM (assign ToolProviderConfiguration.name
    (resolveToolProvider interpreter)) Dict.empty = .ok registration.toolsMapping
  /-- The loop over the model providers. -/
  models : configuration.models.foldlM (assign ModelProviderConfiguration.provider
    (resolveModelProvider interpreter)) Dict.empty = .ok registration.modelsMapping
  /-- The loop over the endpoints. -/
  endpoints : configuration.endpoints.mapM (resolveEndpoint interpreter) =
    .ok registration.endpoints
  /-- The loop over the agent providers. -/
  agents : configuration.agentStrategies.foldlM (assign AgentStrategyProviderConfiguration.name
    (resolveAgentProvider interpreter)) Dict.empty = .ok registration.agentStrategiesMapping
  /-- The loop over the datasource providers. -/
  datasources : configuration.datasources.foldlM (assign DatasourceProviderManifest.name
    (resolveDatasourceProvider interpreter)) Dict.empty = .ok registration.datasourceMapping
  /-- The loop over the trigger providers. -/
  triggers : Registers interpreter configuration.triggers registration.triggerFactory

/-- A plugin is resolved when its loops end. -/
theorem loops_of_resolved {registration : Registration κ}
    (resolved : resolvePluginCls interpreter configuration = .ok registration) :
    Loops interpreter configuration registration := by
  obtain ⟨tools, ranTools, resolved⟩ := Fallible.bind_eq_ok.mp resolved
  obtain ⟨models, ranModels, resolved⟩ := Fallible.bind_eq_ok.mp resolved
  obtain ⟨endpoints, ranEndpoints, resolved⟩ := Fallible.bind_eq_ok.mp resolved
  obtain ⟨agents, ranAgents, resolved⟩ := Fallible.bind_eq_ok.mp resolved
  obtain ⟨datasources, ranDatasources, resolved⟩ := Fallible.bind_eq_ok.mp resolved
  obtain ⟨triggers, ranTriggers, resolved⟩ := Fallible.bind_eq_ok.mp resolved
  obtain rfl := Except.ok.inj resolved
  exact ⟨ranTools, ranModels, ranEndpoints, ranAgents, ranDatasources,
    registers_of_ran ranTriggers⟩

/-- A value that is made is found under the name of the last item. -/
theorem exists_get_assign {α β : Type} {name : α → Text} {make : α → Except Failure β}
    {items : List α} {final : Dict Text β}
    (ran : items.foldlM (assign name make) Dict.empty = .ok final) {key : Text} {item : α}
    (listed : last name items key = some item) :
    ∃ value, make item = .ok value ∧ final.get key = some value := by
  obtain ⟨value, made⟩ := made_of_assign ran item (mem_of_last listed).1
  exact ⟨value, made, (get_assign_empty ran).mpr ⟨item, listed, made⟩⟩

variable {registration : Registration κ}

/-- The tools that are found are those that are declared. -/
theorem Loops.tools_iff (loops : Loops interpreter configuration registration) :
    (∀ provider cls, registration.getToolProviderCls provider = some cls ↔
        Declares interpreter configuration (.toolProvider provider) cls) ∧
      ∀ provider tool cls, registration.getToolCls provider tool = some cls ↔
        Declares interpreter configuration (.tool provider tool) cls := by
  constructor
  · intro name cls
    rw [Registration.getToolProviderCls, Option.map_eq_some_iff]
    constructor
    · rintro ⟨entry, has, rfl⟩
      obtain ⟨provider, declared, made⟩ := (get_assign_empty loops.tools).mp has
      have loaded := (resolveToolProvider_tools made).2.1
      exact .toolProvider declared ((loaded_iff loaded).mp rfl)
    · intro declares
      cases declares with
      | toolProvider declared implementing =>
        obtain ⟨entry, made, has⟩ := exists_get_assign loops.tools declared
        have loaded := (resolveToolProvider_tools made).2.1
        exact ⟨entry, has, (loaded_iff loaded).mpr implementing⟩
  · intro name toolName cls
    rw [Registration.getToolCls, Option.bind_eq_some_iff]
    constructor
    · rintro ⟨entry, has, found⟩
      obtain ⟨provider, declared, made⟩ := (get_assign_empty loops.tools).mp has
      obtain ⟨tool, listed, implementing⟩ :=
        ((resolveToolProvider_tools made).2.2 toolName cls).mp found
      exact .tool declared listed implementing
    · intro declares
      cases declares with
      | tool declared listed implementing =>
        obtain ⟨entry, made, has⟩ := exists_get_assign loops.tools declared
        exact ⟨entry, has,
          ((resolveToolProvider_tools made).2.2 toolName cls).mpr ⟨_, listed, implementing⟩⟩

/-- The strategies that are found are those that are declared. -/
theorem Loops.agentStrategy_iff (loops : Loops interpreter configuration registration)
    (provider agent : Text) (cls : κ) :
    registration.getAgentStrategyCls provider agent = some cls ↔
      Declares interpreter configuration (.agentStrategy provider agent) cls := by
  rw [Registration.getAgentStrategyCls, Option.bind_eq_some_iff]
  constructor
  · rintro ⟨strategies, has, found⟩
    obtain ⟨declaredProvider, declared, made⟩ := (get_assign_empty loops.agents).mp has
    obtain ⟨strategy, listed, implementing⟩ := (get_loaded made).mp found
    exact .agentStrategy declared listed implementing
  · intro declares
    cases declares with
    | agentStrategy declared listed implementing =>
      obtain ⟨strategies, made, has⟩ := exists_get_assign loops.agents declared
      exact ⟨strategies, has, (get_loaded made).mpr ⟨_, listed, implementing⟩⟩

/-- The models that are found are those that are declared. -/
theorem Loops.models_iff (loops : Loops interpreter configuration registration) :
    (∀ provider cls, registration.getModelProviderInstance provider = some cls ↔
        Declares interpreter configuration (.modelProvider provider) cls) ∧
      ∀ provider modelType cls, registration.getModelInstance provider modelType =
          .ok (some cls) ↔
        Declares interpreter configuration (.model provider modelType) cls := by
  constructor
  · intro name cls
    rw [Registration.getModelProviderInstance, Option.map_eq_some_iff]
    constructor
    · rintro ⟨entry, has, rfl⟩
      obtain ⟨provider, declared, made⟩ := (get_assign_empty loops.models).mp has
      exact .modelProvider declared ((loaded_iff (resolveModelProvider_models made).1).mp rfl)
    · intro declares
      cases declares with
      | modelProvider declared implementing =>
        obtain ⟨entry, made, has⟩ := exists_get_assign loops.models declared
        exact ⟨entry, has, (loaded_iff (resolveModelProvider_models made).1).mpr implementing⟩
  · intro name modelType cls
    have read : registration.getModelInstance name modelType = .ok (some cls) ↔
        ∃ entry, registration.modelsMapping.get name = some entry ∧
          entry.models.get modelType = some cls := by
      rw [Registration.getModelInstance]
      cases registration.modelsMapping.get name with
      | none => simp
      | some entry => cases found : entry.models.get modelType <;> simp [found]
    rw [read]
    constructor
    · rintro ⟨entry, has, found⟩
      obtain ⟨provider, declared, made⟩ := (get_assign_empty loops.models).mp has
      rw [(resolveModelProvider_models made).2] at found
      exact .model declared found
    · intro declares
      cases declares with
      | model declared listed =>
        obtain ⟨entry, made, has⟩ := exists_get_assign loops.models declared
        exact ⟨entry, has, by rw [(resolveModelProvider_models made).2, listed]⟩

/-- The datasources of a provider that was resolved. -/
theorem resolveDatasourceProvider_datasources {provider : DatasourceProviderManifest}
    {entry : DatasourceProviderMapping κ}
    (made : resolveDatasourceProvider interpreter provider = .ok entry) :
    interpreter.loadSingleSubclassFromSource provider.source .datasourceProvider =
        .ok entry.providerCls ∧
      ∃ mapping : Dict Text κ,
        (∀ name cls, mapping.get name = some cls ↔
          ∃ datasource, last DatasourceEntity.name provider.datasources name = some datasource ∧
            interpreter.Implements datasource.source provider.providerType.base cls) ∧
        entry.websiteCrawl =
          (if provider.providerType = .websiteCrawl then mapping else Dict.empty) ∧
        entry.onlineDocument =
          (if provider.providerType = .onlineDocument then mapping else Dict.empty) ∧
        entry.onlineDrive =
          (if provider.providerType = .onlineDrive then mapping else Dict.empty) := by
  obtain ⟨providerCls, loaded, made⟩ := Fallible.bind_eq_ok.mp made
  obtain ⟨mapping, ran, made⟩ := Fallible.bind_eq_ok.mp made
  obtain rfl := Except.ok.inj made
  exact ⟨loaded, mapping, fun name cls => get_loaded ran, rfl, rfl, rfl⟩

/-- A datasource provider that was resolved keeps its manifest. -/
theorem resolveDatasourceProvider_configuration {provider : DatasourceProviderManifest}
    {entry : DatasourceProviderMapping κ}
    (made : resolveDatasourceProvider interpreter provider = .ok entry) :
    entry.configuration = provider := by
  obtain ⟨providerCls, loaded, made⟩ := Fallible.bind_eq_ok.mp made
  obtain ⟨mapping, ran, made⟩ := Fallible.bind_eq_ok.mp made
  rw [← Except.ok.inj made]

/-- The datasources of one type that are found are those that are declared. -/
theorem Loops.datasource_iff (loops : Loops interpreter configuration registration)
    {type : DatasourceProviderType} {part : DatasourceProviderMapping κ → Dict Text κ}
    (chosen : ∀ provider entry, resolveDatasourceProvider interpreter provider = .ok entry →
      ∃ mapping : Dict Text κ, (∀ name cls, mapping.get name = some cls ↔
          ∃ datasource, last DatasourceEntity.name provider.datasources name = some datasource ∧
            interpreter.Implements datasource.source provider.providerType.base cls) ∧
        part entry = if provider.providerType = type then mapping else Dict.empty)
    (label : String) (provider datasource : Text) (cls : κ) :
    registration.getDatasourceCls part label provider datasource = .ok cls ↔
      Declares interpreter configuration (.datasource type provider datasource) cls := by
  have read : registration.getDatasourceCls part label provider datasource = .ok cls ↔
      ∃ entry, registration.datasourceMapping.get provider = some entry ∧
        (part entry).get datasource = some cls := by
    rw [Registration.getDatasourceCls, ← Option.bind_eq_some_iff]
    cases (registration.datasourceMapping.get provider).bind fun entry =>
      (part entry).get datasource <;> simp
  rw [read]
  constructor
  · rintro ⟨entry, has, found⟩
    obtain ⟨manifest, declared, made⟩ := (get_assign_empty loops.datasources).mp has
    obtain ⟨mapping, known, same⟩ := chosen manifest entry made
    by_cases typed : manifest.providerType = type
    · rw [same, if_pos typed] at found
      obtain ⟨listed, declaredThere, implementing⟩ := (known datasource cls).mp found
      exact typed ▸ .datasource declared declaredThere implementing
    · rw [same, if_neg typed] at found
      exact absurd found (by simp [Dict.empty, Dict.get])
  · intro declares
    cases declares with
    | datasource declared listed implementing =>
      obtain ⟨entry, made, has⟩ := exists_get_assign loops.datasources declared
      obtain ⟨mapping, known, same⟩ := chosen _ entry made
      refine ⟨entry, has, ?_⟩
      rw [same, if_pos rfl]
      exact (known datasource cls).mpr ⟨_, listed, implementing⟩

/-- The website crawl datasources that are found are those that are declared. -/
theorem Loops.websiteCrawl_iff (loops : Loops interpreter configuration registration)
    (provider datasource : Text) (cls : κ) :
    registration.getWebsiteCrawlDatasourceCls provider datasource = .ok cls ↔
      Declares interpreter configuration (.datasource .websiteCrawl provider datasource) cls := by
  apply loops.datasource_iff
  intro manifest entry made
  obtain ⟨-, mapping, known, same, -⟩ := resolveDatasourceProvider_datasources made
  exact ⟨mapping, known, same⟩

/-- The online document datasources that are found are those that are declared. -/
theorem Loops.onlineDocument_iff (loops : Loops interpreter configuration registration)
    (provider datasource : Text) (cls : κ) :
    registration.getOnlineDocumentDatasourceCls provider datasource = .ok cls ↔
      Declares interpreter configuration (.datasource .onlineDocument provider datasource) cls := by
  apply loops.datasource_iff
  intro manifest entry made
  obtain ⟨-, mapping, known, -, same, -⟩ := resolveDatasourceProvider_datasources made
  exact ⟨mapping, known, same⟩

/-- The online drive datasources that are found are those that are declared. -/
theorem Loops.onlineDrive_iff (loops : Loops interpreter configuration registration)
    (provider datasource : Text) (cls : κ) :
    registration.getOnlineDriveDatasourceCls provider datasource = .ok cls ↔
      Declares interpreter configuration (.datasource .onlineDrive provider datasource) cls := by
  apply loops.datasource_iff
  intro manifest entry made
  obtain ⟨-, mapping, known, -, -, same⟩ := resolveDatasourceProvider_datasources made
  exact ⟨mapping, known, same⟩

/-- The datasource providers that are found are those that are declared. -/
theorem Loops.datasourceProvider_iff (loops : Loops interpreter configuration registration)
    (provider : Text) (cls : κ) :
    registration.getDatasourceProviderCls provider = .ok cls ↔
      Declares interpreter configuration (.datasourceProvider provider) cls := by
  have read : registration.getDatasourceProviderCls provider = .ok cls ↔
      ∃ entry, registration.datasourceMapping.get provider = some entry ∧
        entry.providerCls = cls := by
    rw [Registration.getDatasourceProviderCls]
    cases registration.datasourceMapping.get provider <;> simp
  rw [read]
  constructor
  · rintro ⟨entry, has, rfl⟩
    obtain ⟨manifest, declared, made⟩ := (get_assign_empty loops.datasources).mp has
    have loaded := (resolveDatasourceProvider_datasources made).1
    exact .datasourceProvider declared ((loaded_iff loaded).mp rfl)
  · intro declares
    cases declares with
    | datasourceProvider declared implementing =>
      obtain ⟨entry, made, has⟩ := exists_get_assign loops.datasources declared
      have loaded := (resolveDatasourceProvider_datasources made).1
      exact ⟨entry, has, (loaded_iff loaded).mpr implementing⟩

/-- The triggers that are found are those that are declared. -/
theorem Loops.triggers_iff (loops : Loops interpreter configuration registration) :
    (∀ provider cls, registration.triggerFactory.getProviderCls provider = .ok cls ↔
        Declares interpreter configuration (.trigger provider) cls) ∧
      (∀ provider cls, registration.triggerFactory.getSubscriptionConstructor provider = .ok cls ↔
        Declares interpreter configuration (.constructor provider) cls) ∧
      ∀ provider event cls,
        registration.triggerFactory.getTriggerEventHandlerSafely provider event = some cls ↔
          Declares interpreter configuration (.event provider event) cls := by
  have registers := loops.triggers
  refine ⟨fun name cls => ?_, fun name cls => ?_, fun name eventName cls => ?_⟩
  · have read : registration.triggerFactory.getProviderCls name = .ok cls ↔
        ∃ entry, registration.triggerFactory.find name = some entry ∧ entry.providerCls = cls := by
      rw [Factory.getProviderCls, Factory.getEntry]
      cases registration.triggerFactory.find name <;>
        simp [bind, Except.bind, pure, Except.pure]
    rw [read]
    constructor
    · rintro ⟨entry, found, same⟩
      obtain ⟨provider, declared, rfl, each⟩ := registers.mem_of_find found
      exact .trigger declared ((each.providerCls cls).mp same)
    · intro declares
      cases declares with
      | trigger declared implementing =>
        obtain ⟨entry, found, each⟩ := registers.find_of_mem declared
        exact ⟨entry, found, (each.providerCls cls).mpr implementing⟩
  · have read : registration.triggerFactory.getSubscriptionConstructor name = .ok cls ↔
        ∃ entry, registration.triggerFactory.find name = some entry ∧
          entry.subscriptionConstructorCls = some cls := by
      rw [Factory.getSubscriptionConstructor, Factory.getEntry]
      cases registration.triggerFactory.find name with
      | none => simp [bind, Except.bind]
      | some entry =>
        cases made : entry.subscriptionConstructorCls <;>
          simp [bind, Except.bind, pure, Except.pure, throw, throwThe, MonadExceptOf.throw, made]
    rw [read]
    constructor
    · rintro ⟨entry, found, same⟩
      obtain ⟨provider, declared, rfl, each⟩ := registers.mem_of_find found
      exact .constructor declared ((each.constructorCls cls).mp same)
    · intro declares
      cases declares with
      | constructor declared constructs =>
        obtain ⟨entry, found, each⟩ := registers.find_of_mem declared
        exact ⟨entry, found, (each.constructorCls cls).mpr constructs⟩
  · have read : registration.triggerFactory.getTriggerEventHandlerSafely name eventName =
          some cls ↔
        ∃ entry, registration.triggerFactory.find name = some entry ∧
          (entry.events.get eventName).map Prod.snd = some cls := by
      rw [Factory.getTriggerEventHandlerSafely]
      cases registration.triggerFactory.find name with
      | none => simp
      | some entry =>
        cases has : entry.events.get eventName with
        | none => simp [has]
        | some registered =>
          obtain ⟨event, eventCls⟩ := registered
          simp [has]
    rw [read]
    constructor
    · rintro ⟨entry, found, same⟩
      obtain ⟨provider, declared, rfl, each⟩ := registers.mem_of_find found
      obtain ⟨event, listed, rfl, implementing⟩ := (each.events eventName cls).mp same
      exact .event declared listed implementing
    · intro declares
      cases declares with
      | event declared listed implementing =>
        obtain ⟨entry, found, each⟩ := registers.find_of_mem declared
        exact ⟨entry, found, (each.events _ cls).mpr ⟨_, listed, rfl, implementing⟩⟩

/-- The endpoints that are found are those that are declared. -/
theorem Loops.endpoint_iff (loops : Loops interpreter configuration registration) (position : Nat)
    (cls : κ) :
    registration.endpoints[position]?.map Rule.endpoint = some cls ↔
      Declares interpreter configuration (.endpoint position) cls := by
  have each := Fallible.mapM_eq_ok.mp loops.endpoints
  rw [Option.map_eq_some_iff]
  constructor
  · rintro ⟨rule, there, rfl⟩
    obtain ⟨inside, here⟩ := List.getElem?_eq_some_iff.mp there
    have before : position < configuration.endpoints.length := by
      rw [each.length_eq]
      exact inside
    have round := (List.forall₂_iff_get.mp each).2 position before inside
    obtain ⟨loaded, load, same⟩ := Fallible.bind_eq_ok.mp round
    simp only [List.get_eq_getElem, here] at same
    have endpoint : loaded = rule.endpoint := congrArg Rule.endpoint (Except.ok.inj same)
    exact .endpoint (List.getElem?_eq_getElem before) ((loaded_iff load).mp endpoint)
  · intro declares
    cases declares with
    | endpoint declared implementing =>
      obtain ⟨before, here⟩ := List.getElem?_eq_some_iff.mp declared
      have inside : position < registration.endpoints.length := by
        rw [← each.length_eq]
        exact before
      have round := (List.forall₂_iff_get.mp each).2 position before inside
      obtain ⟨loaded, load, same⟩ := Fallible.bind_eq_ok.mp round
      simp only [List.get_eq_getElem, here] at load same
      refine ⟨registration.endpoints[position], List.getElem?_eq_getElem inside, ?_⟩
      rw [← Except.ok.inj same]
      exact (loaded_iff load).mpr implementing

/-- The registration of a plugin finds what its manifest declares, and nothing else. -/
theorem lookup_iff_declares
    (resolved : resolvePluginCls interpreter configuration = .ok registration) (key : Key)
    (cls : κ) :
    registration.lookup key = some cls ↔ Declares interpreter configuration key cls := by
  have loops := loops_of_resolved resolved
  have read {failable : Except Failure κ} : failable.toOption = some cls ↔ failable = .ok cls := by
    cases failable <;> simp [Except.toOption]
  cases key with
  | toolProvider provider => exact loops.tools_iff.1 provider cls
  | tool provider tool => exact loops.tools_iff.2 provider tool cls
  | agentStrategy provider agent => exact loops.agentStrategy_iff provider agent cls
  | modelProvider provider => exact loops.models_iff.1 provider cls
  | model provider modelType =>
    rw [← loops.models_iff.2 provider modelType cls, Registration.lookup]
    cases registration.getModelInstance provider modelType with
    | error failed => simp [Except.toOption]
    | ok found => simp [Except.toOption]
  | datasourceProvider provider => exact read.trans (loops.datasourceProvider_iff provider cls)
  | datasource type provider datasource =>
    cases type with
    | websiteCrawl => exact read.trans (loops.websiteCrawl_iff provider datasource cls)
    | onlineDocument => exact read.trans (loops.onlineDocument_iff provider datasource cls)
    | onlineDrive => exact read.trans (loops.onlineDrive_iff provider datasource cls)
  | trigger provider => exact read.trans (loops.triggers_iff.1 provider cls)
  | constructor provider => exact read.trans (loops.triggers_iff.2.1 provider cls)
  | event provider event => exact loops.triggers_iff.2.2 provider event cls
  | endpoint position => exact loops.endpoint_iff position cls

end Resolved

/-- Modules with a tool provider, the class 2, and two tools, the classes 3 and 4. -/
def exampleInterpreter : Interpreter Nat where
  base base := if base = .toolProvider then 0 else 1
  issubclass cls base := (cls = 2 ∧ base = 0) ∨ (3 ≤ cls ∧ base = 1)
  importModule source :=
    .ok [none, some 0, some 1, some (if source = ['p'] then 2 else if source = ['t'] then 3 else 4)]
  scriptPath source := source
  modelType _ := .llm
  hasRuntimeParameters _ := false
  supportsPolling _ _ _ := .ok false

/-- A manifest that declares a tool twice. -/
def exampleConfiguration : Configuration where
  tools := [⟨['p'], ['p'], false, [⟨['t'], ['t'], false⟩, ⟨['t'], ['u'], false⟩]⟩]
  models := []
  endpoints := []
  agentStrategies := []
  datasources := []
  triggers := []

/-- The tool that is declared last is found. -/
theorem lookup_iff_declares_tool :
    Declares exampleInterpreter exampleConfiguration (.tool ['p'] ['t']) 4 := by
  have resolved : resolvePluginCls exampleInterpreter exampleConfiguration = .ok _ := rfl
  exact (lookup_iff_declares resolved (.tool ['p'] ['t']) 4).mp rfl

end DifyPlugin.PluginRegistration
