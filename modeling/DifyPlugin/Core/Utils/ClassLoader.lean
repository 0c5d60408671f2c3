import DifyPlugin.Library.Registering
import DifyPlugin.Library.Str
import Mathlib.Data.List.ReduceOption

/-!
# Loading classes

A manifest names the source files of a plugin's classes. Loading a class executes the module of a
file and looks in its namespace for the classes that derive from a class of the SDK, which is
itself left out. What the interpreter does with the code of a plugin is left open.
-/

namespace DifyPlugin.ClassLoader

/-- The classes of the SDK that a plugin derives its own from. -/
inductive Base where
  /-- `ToolProvider`. -/
  | toolProvider
  /-- `Tool`. -/
  | tool
  /-- `AgentStrategy`. -/
  | agentStrategy
  /-- `DatasourceProvider`. -/
  | datasourceProvider
  /-- `WebsiteCrawlDatasource`. -/
  | websiteCrawlDatasource
  /-- `OnlineDocumentDatasource`. -/
  | onlineDocumentDatasource
  /-- `OnlineDriveDatasource`. -/
  | onlineDriveDatasource
  /-- `Trigger`. -/
  | trigger
  /-- `TriggerSubscriptionConstructor`. -/
  | triggerSubscriptionConstructor
  /-- `Event`. -/
  | event
  /-- `ModelProvider`. -/
  | modelProvider
  /-- `AIModel`. -/
  | aiModel
  /-- `LargeLanguageModel`. -/
  | largeLanguageModel
  /-- `TextEmbeddingModel`. -/
  | textEmbeddingModel
  /-- `RerankModel`. -/
  | rerankModel
  /-- `TTSModel`. -/
  | ttsModel
  /-- `Speech2TextModel`. -/
  | speech2TextModel
  /-- `ModerationModel`. -/
  | moderationModel
  /-- `Endpoint`. -/
  | endpoint
  deriving DecidableEq

/-- `__name__`. -/
def Base.name : Base → Text
  | .toolProvider => "ToolProvider".toList
  | .tool => "Tool".toList
  | .agentStrategy => "AgentStrategy".toList
  | .datasourceProvider => "DatasourceProvider".toList
  | .websiteCrawlDatasource => "WebsiteCrawlDatasource".toList
  | .onlineDocumentDatasource => "OnlineDocumentDatasource".toList
  | .onlineDriveDatasource => "OnlineDriveDatasource".toList
  | .trigger => "Trigger".toList
  | .triggerSubscriptionConstructor => "TriggerSubscriptionConstructor".toList
  | .event => "Event".toList
  | .modelProvider => "ModelProvider".toList
  | .aiModel => "AIModel".toList
  | .largeLanguageModel => "LargeLanguageModel".toList
  | .textEmbeddingModel => "TextEmbeddingModel".toList
  | .rerankModel => "RerankModel".toList
  | .ttsModel => "TTSModel".toList
  | .speech2TextModel => "Speech2TextModel".toList
  | .moderationModel => "ModerationModel".toList
  | .endpoint => "Endpoint".toList

/-- `ModelType`. -/
inductive ModelType where
  /-- `"llm"`. -/
  | llm
  /-- `"text-embedding"`. -/
  | textEmbedding
  /-- `"rerank"`. -/
  | rerank
  /-- `"speech2text"`. -/
  | speech2text
  /-- `"moderation"`. -/
  | moderation
  /-- `"tts"`. -/
  | tts
  /-- `"text2img"`. -/
  | text2img
  deriving DecidableEq

/-- The name of the member of the enumeration. -/
def ModelType.member : ModelType → Text
  | .llm => "LLM".toList
  | .textEmbedding => "TEXT_EMBEDDING".toList
  | .rerank => "RERANK".toList
  | .speech2text => "SPEECH2TEXT".toList
  | .moderation => "MODERATION".toList
  | .tts => "TTS".toList
  | .text2img => "TEXT2IMG".toList

/-- `model_type.value`. -/
def ModelType.value : ModelType → Text
  | .llm => "llm".toList
  | .textEmbedding => "text-embedding".toList
  | .rerank => "rerank".toList
  | .speech2text => "speech2text".toList
  | .moderation => "moderation".toList
  | .tts => "tts".toList
  | .text2img => "text2img".toList

/-- The types of the exceptions of the registration and the executor. -/
inductive ExceptionType where
  /-- `Exception`. -/
  | exception
  /-- `ValueError`. -/
  | valueError
  /-- `TypeError`. -/
  | typeError
  /-- `KeyError`. -/
  | keyError
  /-- `AttributeError`. -/
  | attributeError
  /-- What the code of the plugin, or the check of its data, raises. -/
  | foreign (name : Text)
  deriving DecidableEq

/-- An exception. -/
structure Failure where
  /-- `type(e)`. -/
  type : ExceptionType
  /-- `str(e)`. -/
  message : Text
  deriving DecidableEq

/-- What the interpreter does with the classes `κ` of a plugin and of the SDK. The code of a module
is executed at every load; a class is taken to be the same whenever that is. -/
structure Interpreter (κ : Type) where
  /-- The classes of the SDK. -/
  base : Base → κ
  /-- `issubclass`. -/
  issubclass : κ → κ → Bool
  /-- `vars(mod).values()` of the module that `import_module_from_source` executes for a source
  path of a manifest, with `none` for a value that is no class. -/
  importModule : Text → Except Failure (List (Option κ))
  /-- `_source_to_script_path`. -/
  scriptPath : Text → Text
  /-- `model_type` of a class of models. -/
  modelType : κ → ModelType
  /-- `has_runtime_parameters()` of a class of tools. -/
  hasRuntimeParameters : κ → Bool
  /-- `supports_polling` of an instance of a class of language models, for the name of a model and
  its credentials; the schema that it reads may be made by the plugin. -/
  supportsPolling : κ → Text → Text → Except Failure Bool

variable {κ : Type} [DecidableEq κ]

namespace Interpreter

/-- The class derives from a class of the SDK and is another one. -/
def isStrictSubclass (interpreter : Interpreter κ) (parent : Base) (cls : κ) : Bool :=
  cls != interpreter.base parent && interpreter.issubclass cls (interpreter.base parent)

/-- `get_subclasses_from_module`. -/
def getSubclassesFromModule (interpreter : Interpreter κ) (values : List (Option κ))
    (parent : Base) : List κ :=
  values.reduceOption.filter (interpreter.isStrictSubclass parent)

/-- `load_multi_subclasses_from_source`. -/
def loadMultiSubclassesFromSource (interpreter : Interpreter κ) (source : Text) (parent : Base) :
    Except Failure (List κ) := do
  let values ← interpreter.importModule source
  return interpreter.getSubclassesFromModule values parent

/-- `load_single_subclass_from_source`. -/
def loadSingleSubclassFromSource (interpreter : Interpreter κ) (source : Text) (parent : Base) :
    Except Failure κ := do
  let values ← interpreter.importModule source
  match interpreter.getSubclassesFromModule values parent with
  | [subclass] => return subclass
  | [] => throw ⟨.exception, "Missing subclass of ".toList ++ parent.name ++ " in ".toList ++
      interpreter.scriptPath source⟩
  | _ => throw ⟨.exception, "Multiple subclasses of ".toList ++ parent.name ++ " in ".toList ++
      interpreter.scriptPath source⟩

/-- The class is defined in the source, or imported there, and derives from the class of the SDK. -/
structure Implements (interpreter : Interpreter κ) (source : Text) (parent : Base) (cls : κ) :
    Prop where
  /-- The class is in the namespace of the module. -/
  found : ∃ values, interpreter.importModule source = .ok values ∧ some cls ∈ values
  /-- It is not the class of the SDK itself. -/
  own : cls ≠ interpreter.base parent
  /-- It derives from it. -/
  derives : interpreter.issubclass cls (interpreter.base parent) = true

variable {interpreter : Interpreter κ} {source : Text} {parent : Base}

/-- What is found in a module derives from the class that is asked for. -/
theorem mem_getSubclassesFromModule {values : List (Option κ)} {cls : κ} :
    cls ∈ interpreter.getSubclassesFromModule values parent ↔
      some cls ∈ values ∧ cls ≠ interpreter.base parent ∧
        interpreter.issubclass cls (interpreter.base parent) = true := by
  rw [getSubclassesFromModule, List.mem_filter, List.reduceOption_mem_iff, isStrictSubclass,
    Bool.and_eq_true, bne_iff_ne]

/-- The classes that are loaded are those that implement the class of the SDK. -/
theorem mem_loadMulti {classes : List κ} {cls : κ}
    (loaded : interpreter.loadMultiSubclassesFromSource source parent = .ok classes) :
    cls ∈ classes ↔ interpreter.Implements source parent cls := by
  obtain ⟨values, imported, same⟩ := Fallible.bind_eq_ok.mp loaded
  obtain rfl := Except.ok.inj same
  rw [mem_getSubclassesFromModule]
  constructor
  · rintro ⟨found, own, derives⟩
    exact ⟨⟨values, imported, found⟩, own, derives⟩
  · intro implementing
    obtain ⟨found, importedAgain, listed⟩ := implementing.found
    have same : values = found := Except.ok.inj (imported.symm.trans importedAgain)
    exact ⟨same ▸ listed, implementing.own, implementing.derives⟩

/-- The class that is loaded is the only one of its module that implements the class of the SDK. -/
theorem implements_of_loadSingle {cls : κ}
    (loaded : interpreter.loadSingleSubclassFromSource source parent = .ok cls) (other : κ) :
    interpreter.Implements source parent other ↔ other = cls := by
  obtain ⟨values, imported, chosen⟩ := Fallible.bind_eq_ok.mp loaded
  have multi : interpreter.loadMultiSubclassesFromSource source parent =
      .ok (interpreter.getSubclassesFromModule values parent) := by
    rw [loadMultiSubclassesFromSource, imported]
    rfl
  have alone : interpreter.getSubclassesFromModule values parent = [cls] := by
    split at chosen
    · rename_i subclass found
      rw [found, Except.ok.inj chosen]
    · exact absurd chosen (by simp [throw, throwThe, MonadExceptOf.throw])
    · exact absurd chosen (by simp [throw, throwThe, MonadExceptOf.throw])
  rw [← mem_loadMulti multi, alone, List.mem_singleton]

end Interpreter

end DifyPlugin.ClassLoader
