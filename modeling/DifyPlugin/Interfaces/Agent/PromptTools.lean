import DifyPlugin.Library.Dict
import DifyPlugin.Library.Json
import DifyPlugin.Library.Registering
import DifyPlugin.Library.Table

/-!
# The tools of an agent

`AgentStrategy` describes a tool to a model by the parameters that the model fills in, and
updates the description by the parameters that the tool has at run time.
`ToolSelector.to_prompt_message` makes the same description from a selector. A description is
known by the list of the offered parameters: the last one of each name counts for its schema,
and any of them may require it.
-/

namespace DifyPlugin.PromptTools

variable {ω : Type}

/-- `ToolParameter.ToolParameterType`. -/
inductive ToolParameterType where
  /-- `STRING`. -/
  | string
  /-- `NUMBER`. -/
  | number
  /-- `BOOLEAN`. -/
  | boolean
  /-- `SELECT`. -/
  | select
  /-- `SECRET_INPUT`. -/
  | secretInput
  /-- `FILE`. -/
  | file
  /-- `FILES`. -/
  | files
  /-- `MODEL_SELECTOR`. -/
  | modelSelector
  /-- `APP_SELECTOR`. -/
  | appSelector
  /-- `CHECKBOX`. -/
  | checkbox
  /-- `ANY`. -/
  | any
  /-- `OBJECT`. -/
  | object
  /-- `ARRAY`. -/
  | array
  /-- `DYNAMIC_SELECT`. -/
  | dynamicSelect
  /-- `DATE`. -/
  | date
  /-- `DATE_RANGE`. -/
  | dateRange
  deriving DecidableEq

/-- The value of a member. -/
def ToolParameterType.value : ToolParameterType → Text
  | .string => "string".toList
  | .number => "number".toList
  | .boolean => "boolean".toList
  | .select => "select".toList
  | .secretInput => "secret-input".toList
  | .file => "file".toList
  | .files => "files".toList
  | .modelSelector => "model-selector".toList
  | .appSelector => "app-selector".toList
  | .checkbox => "checkbox".toList
  | .any => "any".toList
  | .object => "object".toList
  | .array => "array".toList
  | .dynamicSelect => "dynamic-select".toList
  | .date => "date".toList
  | .dateRange => "date-range".toList

/-- `ToolParameter.ToolParameterForm`. -/
inductive ToolParameterForm where
  /-- `SCHEMA`. -/
  | schema
  /-- `FORM`. -/
  | form
  /-- `LLM`. -/
  | llm
  deriving DecidableEq

/-- The fields of `ToolParameter` that are read. -/
structure ToolParameter (ω : Type) where
  /-- `name`. -/
  name : Text
  /-- `type`. -/
  type : ToolParameterType
  /-- `form`. -/
  form : ToolParameterForm
  /-- `llm_description`. -/
  llmDescription : Option Text := none
  /-- Whether `required` is true. -/
  required : Bool := false
  /-- The values of the `options`, if there are any. -/
  options : List Text := []
  /-- `input_schema`. -/
  inputSchema : Option (Dict Text (Json ω)) := none

/-- The fields of `ToolEntity` that are read. -/
structure ToolEntity (ω : Type) where
  /-- `identity.name`. -/
  name : Text
  /-- `description.llm`, if there is a description. -/
  description : Option Text
  /-- `parameters`. -/
  parameters : List (ToolParameter ω)

/-- A `PromptMessageTool` whose `parameters` are of the type `object`. -/
structure PromptTool (ω : Type) where
  /-- `name`. -/
  name : Text
  /-- `description`. -/
  description : Text
  /-- `parameters["properties"]`. -/
  properties : Dict Text (Dict Text (Json ω))
  /-- `parameters["required"]`. -/
  required : List Text

/-! ## Descriptions of tools -/

/-- `ToolParameterType.to_prompt_schema`. -/
def ToolParameterType.toPromptSchema (type : ToolParameterType) (description : Text) :
    Dict Text (Json ω) :=
  let schema (value : Text) : Dict Text (Json ω) :=
    (Dict.empty.set "type".toList (.str value)).set "description".toList (.str description)
  match type with
  | .select | .secretInput | .date => schema "string".toList
  | .dateRange => (schema "object".toList).set "properties".toList (.dict [
      ("start".toList, .dict [("type".toList, .str "string".toList)]),
      ("end".toList, .dict [("type".toList, .str "string".toList)])])
  | other => schema other.value

/-- `schema["enum"] = [option.value for option in parameter.options]`. -/
def setEnum (options : List Text) (schema : Dict Text (Json ω)) : Dict Text (Json ω) :=
  schema.set "enum".toList (.list (options.map Json.str))

namespace ToolParameter

/-- A parameter that the model fills in; `FILE_PARAMETER_TYPES` are not. -/
def offered (parameter : ToolParameter ω) : Bool :=
  decide (parameter.form = .llm ∧ parameter.type ≠ .file ∧ parameter.type ≠ .files)

/-- The schema of a parameter. -/
def schema (parameter : ToolParameter ω) : Dict Text (Json ω) :=
  let schema := parameter.inputSchema.getD
    (parameter.type.toPromptSchema (parameter.llmDescription.getD []))
  if parameter.type = .select ∧ parameter.options ≠ [] then setEnum parameter.options schema
  else schema

end ToolParameter

/-- `_set_prompt_tool_parameter`. -/
def setPromptToolParameter (promptTool : PromptTool ω) (parameter : ToolParameter ω) :
    PromptTool ω :=
  if parameter.offered then
    { promptTool with
      properties := promptTool.properties.set parameter.name parameter.schema
      required :=
        if parameter.required then Table.insertKey promptTool.required parameter.name
        else promptTool.required }
  else promptTool

/-- `_convert_tool_to_prompt_message_tool`. -/
def convertToolToPromptMessageTool (tool : ToolEntity ω) : PromptTool ω :=
  tool.parameters.foldl setPromptToolParameter {
    name := tool.name
    description := tool.description.getD []
    properties := Dict.empty
    required := [] }

/-- `update_prompt_message_tool`. -/
def updatePromptMessageTool (tool : ToolEntity ω) (promptTool : PromptTool ω) : PromptTool ω :=
  tool.parameters.foldl setPromptToolParameter promptTool

/-- The fields of `ToolSelector.Parameter` that are read. -/
structure SelectorParameter where
  /-- `type`. -/
  type : ToolParameterType
  /-- `required`. -/
  required : Bool
  /-- `description`. -/
  description : Text
  /-- The values of the `options`, if there are any. -/
  options : List Text := []

/-- The fields of `ToolSelector` that are read. -/
structure ToolSelector where
  /-- `tool_name`. -/
  toolName : Text
  /-- `tool_description`. -/
  toolDescription : Text
  /-- `tool_parameters`. -/
  toolParameters : Dict Text SelectorParameter

/-- One round of the loop of `to_prompt_message`. -/
def addSelectorParameter (promptTool : PromptTool ω) (entry : Text × SelectorParameter) :
    PromptTool ω :=
  let schema := entry.2.type.toPromptSchema entry.2.description
  { promptTool with
    properties := promptTool.properties.set entry.1
      (if entry.2.options ≠ [] then setEnum entry.2.options schema else schema)
    required :=
      if entry.2.required then promptTool.required ++ [entry.1] else promptTool.required }

/-- `ToolSelector.to_prompt_message`. -/
def ToolSelector.toPromptMessage (selector : ToolSelector) : PromptTool ω :=
  selector.toolParameters.entries.foldl addSelectorParameter {
    name := selector.toolName
    description := selector.toolDescription
    properties := Dict.empty
    required := [] }

/-! ## What a description says -/

/-- A description lists the offered parameters: each name once, in order, with the schema of the
last parameter of the name, and the names that are required. -/
structure Describes (offered : List (ToolParameter ω)) (promptTool : PromptTool ω) : Prop where
  /-- The names. -/
  names : promptTool.properties.entries.map Prod.fst =
    Table.firstSeen (offered.map ToolParameter.name)
  /-- The schemas. -/
  schemas : ∀ name, promptTool.properties.get name =
    (Registering.last ToolParameter.name offered name).map ToolParameter.schema
  /-- The required names. -/
  required : promptTool.required =
    Table.firstSeen ((offered.filter ToolParameter.required).map ToolParameter.name)

/-- One more parameter is described if it is offered. -/
theorem Describes.set {offered : List (ToolParameter ω)} {promptTool : PromptTool ω}
    (describes : Describes offered promptTool) (parameter : ToolParameter ω) :
    Describes (offered ++ [parameter].filter ToolParameter.offered)
      (setPromptToolParameter promptTool parameter) := by
  rw [setPromptToolParameter]
  cases isOffered : parameter.offered with
  | false => simpa [isOffered] using describes
  | true =>
    have one : [parameter].filter ToolParameter.offered = [parameter] := by simp [isOffered]
    rw [one, if_pos rfl]
    refine ⟨?_, fun name => ?_, ?_⟩
    · show (Dict.setEntry _ _ _).map Prod.fst = _
      rw [Dict.map_fst_setEntry, describes.names, List.map_append, List.map_singleton,
        Table.firstSeen_snoc]
      by_cases known : parameter.name ∈ offered.map ToolParameter.name
      · rw [if_pos (Table.mem_firstSeen.mpr known), if_pos known]
      · rw [if_neg (mt Table.mem_firstSeen.mp known), if_neg known]
    · have alone : Registering.last ToolParameter.name [parameter] name =
          if parameter.name = name then some parameter else none := by
        by_cases same : parameter.name = name <;> simp [Registering.last, same]
      rw [Registering.last_append, alone]
      by_cases same : parameter.name = name
      · subst same
        simp [Dict.get_set_self]
      · simp [same, Dict.get_set_of_ne _ (Ne.symm same), describes.schemas]
    · rw [List.filter_append, List.map_append, describes.required]
      cases isRequired : parameter.required with
      | false => simp [isRequired]
      | true =>
        have kept : [parameter].filter ToolParameter.required = [parameter] := by
          simp [isRequired]
        rw [kept, List.map_singleton, Table.firstSeen_snoc]
        by_cases known : parameter.name ∈
            (offered.filter ToolParameter.required).map ToolParameter.name
        · rw [if_pos known, if_pos rfl, Table.insertKey, if_pos (Table.mem_firstSeen.mpr known)]
        · rw [if_neg known, if_pos rfl, Table.insertKey,
            if_neg (mt Table.mem_firstSeen.mp known)]

/-- A loop over parameters describes the offered ones. -/
theorem Describes.foldl {offered : List (ToolParameter ω)} {promptTool : PromptTool ω}
    (describes : Describes offered promptTool) (parameters : List (ToolParameter ω)) :
    Describes (offered ++ parameters.filter ToolParameter.offered)
      (parameters.foldl setPromptToolParameter promptTool) := by
  induction parameters generalizing offered promptTool with
  | nil => simpa using describes
  | cons parameter rest ih =>
    have split : (parameter :: rest).filter ToolParameter.offered =
        [parameter].filter ToolParameter.offered ++ rest.filter ToolParameter.offered := by
      rw [← List.filter_append, List.singleton_append]
    rw [split, ← List.append_assoc]
    exact ih (describes.set parameter)

/-- Nothing is described at first. -/
theorem describes_empty (name description : Text) :
    Describes ([] : List (ToolParameter ω)) ⟨name, description, Dict.empty, []⟩ :=
  ⟨rfl, fun _ => rfl, rfl⟩

/-- Parameters that are offered again change nothing. -/
theorem Describes.again {offered : List (ToolParameter ω)} {promptTool : PromptTool ω}
    (describes : Describes offered promptTool) : Describes (offered ++ offered) promptTool where
  names := by
    rw [List.map_append, Table.firstSeen_append_self]
    exact describes.names
  schemas name := by
    rw [Registering.last_append, Option.or_self]
    exact describes.schemas name
  required := by
    rw [List.filter_append, List.map_append, Table.firstSeen_append_self]
    exact describes.required

/-- A description is known by what it describes. -/
theorem Describes.unique {offered : List (ToolParameter ω)} {left right : PromptTool ω}
    (first : Describes offered left) (second : Describes offered right)
    (name : left.name = right.name) (description : left.description = right.description) :
    left = right := by
  have properties : left.properties = right.properties :=
    Dict.eq_of_get (first.names.trans second.names.symm)
      fun key => (first.schemas key).trans (second.schemas key).symm
  have required : left.required = right.required := first.required.trans second.required.symm
  calc
    left = ⟨left.name, left.description, left.properties, left.required⟩ := rfl
    _ = ⟨right.name, right.description, right.properties, right.required⟩ := by
      rw [name, description, properties, required]

/-- Everything that is required has a schema. -/
theorem Describes.has_schema {offered : List (ToolParameter ω)} {promptTool : PromptTool ω}
    (describes : Describes offered promptTool) {name : Text}
    (required : name ∈ promptTool.required) :
    ∃ schema, promptTool.properties.get name = some schema := by
  rw [describes.required, Table.mem_firstSeen] at required
  obtain ⟨parameter, listed, same⟩ := List.mem_map.mp required
  have key : name ∈ promptTool.properties.entries.map Prod.fst := by
    rw [describes.names, Table.mem_firstSeen]
    exact List.mem_map.mpr ⟨parameter, (List.mem_filter.mp listed).1, same⟩
  obtain ⟨⟨other, schema⟩, entry, rfl⟩ := List.mem_map.mp key
  exact ⟨schema, Dict.get_eq_some.mpr entry⟩

/-- The parameters do not change the name and the description. -/
theorem foldl_meta (parameters : List (ToolParameter ω)) (promptTool : PromptTool ω) :
    (parameters.foldl setPromptToolParameter promptTool).name = promptTool.name ∧
      (parameters.foldl setPromptToolParameter promptTool).description =
        promptTool.description := by
  induction parameters generalizing promptTool with
  | nil => exact ⟨rfl, rfl⟩
  | cons parameter rest ih =>
    obtain ⟨name, description⟩ := ih (setPromptToolParameter promptTool parameter)
    have kept : (setPromptToolParameter promptTool parameter).name = promptTool.name ∧
        (setPromptToolParameter promptTool parameter).description = promptTool.description := by
      rw [setPromptToolParameter]
      split <;> exact ⟨rfl, rfl⟩
    exact ⟨name.trans kept.1, description.trans kept.2⟩

/-- A converted tool is described by its own parameters. -/
theorem convert_describes (tool : ToolEntity ω) :
    Describes (tool.parameters.filter ToolParameter.offered)
      (convertToolToPromptMessageTool tool) :=
  (describes_empty _ _).foldl tool.parameters

/-- Updating by the same parameters changes nothing. -/
theorem update_convert (tool : ToolEntity ω) :
    updatePromptMessageTool tool (convertToolToPromptMessageTool tool) =
      convertToolToPromptMessageTool tool := by
  have converted := convert_describes tool
  obtain ⟨name, description⟩ := foldl_meta tool.parameters (convertToolToPromptMessageTool tool)
  exact (converted.foldl tool.parameters).unique converted.again name description

/-! ## Selectors -/

/-- The parameter of a tool that a selector's parameter stands for. -/
def toolParameter (entry : Text × SelectorParameter) : ToolParameter ω where
  name := entry.1
  type := entry.2.type
  form := .llm
  llmDescription := entry.2.description
  required := entry.2.required
  options := entry.2.options

/-- A parameter that both descriptions treat alike: no file, and options only for `SELECT`. -/
def SelectorParameter.Plain (parameter : SelectorParameter) : Prop :=
  parameter.type ≠ .file ∧ parameter.type ≠ .files ∧
    (parameter.options ≠ [] → parameter.type = .select)

/-- The tool that a selector stands for. -/
def ToolSelector.toolEntity (selector : ToolSelector) : ToolEntity ω where
  name := selector.toolName
  description := selector.toolDescription
  parameters := selector.toolParameters.entries.map toolParameter

/-- A new parameter of a selector is described as one of a tool. -/
theorem addSelectorParameter_eq {promptTool : PromptTool ω} {entry : Text × SelectorParameter}
    (plain : entry.2.Plain) (fresh : entry.1 ∉ promptTool.required) :
    addSelectorParameter promptTool entry =
      setPromptToolParameter promptTool (toolParameter entry) := by
  obtain ⟨file, files, options⟩ := plain
  have offered : (toolParameter entry : ToolParameter ω).offered = true :=
    decide_eq_true ⟨rfl, file, files⟩
  have schema : (toolParameter entry : ToolParameter ω).schema =
      if entry.2.options ≠ [] then
        setEnum entry.2.options (entry.2.type.toPromptSchema entry.2.description)
      else entry.2.type.toPromptSchema entry.2.description := by
    rw [ToolParameter.schema]
    by_cases nonempty : entry.2.options ≠ []
    · rw [if_pos nonempty, if_pos ⟨options nonempty, nonempty⟩]
      rfl
    · rw [if_neg nonempty, if_neg fun both => nonempty both.2]
      rfl
  rw [setPromptToolParameter, if_pos offered, schema, addSelectorParameter]
  congr 1
  by_cases required : entry.2.required = true
  · have same : (toolParameter entry : ToolParameter ω).required = true := required
    rw [if_pos required, if_pos same, Table.insertKey]
    exact (if_neg fresh).symm
  · have same : ¬ (toolParameter entry : ToolParameter ω).required = true := required
    rw [if_neg required, if_neg same]

/-- The parameters of a selector are described as those of a tool. -/
theorem foldl_addSelectorParameter {entries : List (Text × SelectorParameter)}
    {promptTool : PromptTool ω} (plain : ∀ entry ∈ entries, entry.2.Plain)
    (distinct : (entries.map Prod.fst).Nodup)
    (fresh : ∀ entry ∈ entries, entry.1 ∉ promptTool.required) :
    entries.foldl addSelectorParameter promptTool =
      (entries.map toolParameter).foldl setPromptToolParameter promptTool := by
  induction entries generalizing promptTool with
  | nil => rfl
  | cons entry rest ih =>
    obtain ⟨isPlain, plain⟩ := List.forall_mem_cons.mp plain
    obtain ⟨isFresh, fresh⟩ := List.forall_mem_cons.mp fresh
    rw [List.map_cons, List.nodup_cons] at distinct
    rw [List.foldl_cons, List.map_cons, List.foldl_cons, ← addSelectorParameter_eq isPlain isFresh]
    refine ih plain distinct.2 fun other listed => ?_
    have differs : other.1 ≠ entry.1 := fun same =>
      distinct.1 (List.mem_map.mpr ⟨other, listed, same⟩)
    rw [addSelectorParameter]
    by_cases required : entry.2.required = true
    · simpa [required, differs] using fresh other listed
    · simpa [required] using fresh other listed

/-- A selector of plain parameters is described as the tool that it stands for. -/
theorem toPromptMessage_eq {selector : ToolSelector}
    (plain : ∀ entry ∈ selector.toolParameters.entries, entry.2.Plain) :
    (selector.toPromptMessage : PromptTool ω) =
      convertToolToPromptMessageTool selector.toolEntity :=
  foldl_addSelectorParameter plain selector.toolParameters.nodup (by simp)

/-- What an agent tells a model of a tool, before and after an update by the parameters at run
time, is what the offered parameters say, each name once; an update by the same parameters
changes nothing, and a selector of plain parameters is described in the same way. -/
theorem promptTool_described (tool runtime : ToolEntity ω) :
    Describes ((tool.parameters ++ runtime.parameters).filter ToolParameter.offered)
        (updatePromptMessageTool runtime (convertToolToPromptMessageTool tool)) ∧
      (∀ name ∈ (updatePromptMessageTool runtime (convertToolToPromptMessageTool tool)).required,
        ∃ schema, (updatePromptMessageTool runtime
          (convertToolToPromptMessageTool tool)).properties.get name = some schema) ∧
      updatePromptMessageTool tool (convertToolToPromptMessageTool tool) =
        convertToolToPromptMessageTool tool ∧
      ∀ selector : ToolSelector,
        (∀ entry ∈ selector.toolParameters.entries, entry.2.Plain) →
          (selector.toPromptMessage : PromptTool ω) =
            convertToolToPromptMessageTool selector.toolEntity := by
  have described := (convert_describes tool).foldl runtime.parameters
  rw [← List.filter_append] at described
  exact ⟨described, fun _ required => described.has_schema required, update_convert tool,
    fun _ plain => toPromptMessage_eq plain⟩

/-- A tool with a file and a secret, which are not offered. -/
def weatherTool : ToolEntity Int where
  name := "weather".toList
  description := "Forecast".toList
  parameters := [
    { name := "city".toList, type := .string, form := .llm, required := true },
    { name := "unit".toList, type := .select, form := .llm,
      options := ["C".toList, "F".toList] },
    { name := "map".toList, type := .file, form := .llm, required := true },
    { name := "key".toList, type := .secretInput, form := .form, required := true }]

/-- The same tool when only one city is known. -/
def weatherRuntime : ToolEntity Int :=
  { weatherTool with
    parameters := [{ name := "city".toList, type := .select, form := .llm,
                     options := ["Oslo".toList] }] }

/-- A selector of the weather tool with a city and a unit. -/
def weatherSelector : ToolSelector where
  toolName := "weather".toList
  toolDescription := "Forecast".toList
  toolParameters := Dict.ofPairs [
    ("city".toList, { type := .string, required := true, description := "City".toList }),
    ("unit".toList, { type := .select, required := false, description := "Unit".toList,
                      options := ["C".toList, "F".toList] })]

/-- The parameters of the weather selector are plain. -/
theorem weatherSelector_plain : ∀ entry ∈ weatherSelector.toolParameters.entries,
    entry.2.Plain := by
  have entries : weatherSelector.toolParameters.entries = [
      ("city".toList, { type := .string, required := true, description := "City".toList }),
      ("unit".toList, { type := .select, required := false, description := "Unit".toList,
                        options := ["C".toList, "F".toList] })] := rfl
  rw [entries]
  intro entry listed
  rcases List.mem_cons.mp listed with rfl | listed
  · exact ⟨by simp, by simp, by simp⟩
  · obtain rfl := List.mem_singleton.mp listed
    exact ⟨by simp, by simp, by simp⟩

/-- The model may choose this city and a unit, and has to name the city; so it does when a
selector describes the tool. -/
theorem promptTool_described_weather :
    (updatePromptMessageTool weatherRuntime
        (convertToolToPromptMessageTool weatherTool)).properties.entries.map Prod.fst =
      ["city".toList, "unit".toList] ∧
    (updatePromptMessageTool weatherRuntime
        (convertToolToPromptMessageTool weatherTool)).required = ["city".toList] ∧
    (weatherSelector.toPromptMessage : PromptTool Int) =
      convertToolToPromptMessageTool weatherSelector.toolEntity ∧
    (weatherSelector.toPromptMessage : PromptTool Int).required = ["city".toList] := by
  obtain ⟨described, -, -, selects⟩ := promptTool_described weatherTool weatherRuntime
  have same := selects weatherSelector weatherSelector_plain
  refine ⟨described.names.trans (by decide), described.required.trans (by decide), same, ?_⟩
  rw [same]
  decide

end DifyPlugin.PromptTools
