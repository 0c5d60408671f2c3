import DifyPlugin.Library.Dict
import DifyPlugin.Library.Fallible
import DifyPlugin.Library.Str
import Mathlib.Data.List.Forall2

/-!
# Parameters of tools

`Tool._convert_parameters` goes through the parameters of a tool and puts objects in the place of
dictionaries that are tagged as files or tool selectors, and of lists of these. It changes the
dictionary it is given, which stays half converted when a value does not pass.
-/

namespace DifyPlugin.Tool

/-- `FileType`. -/
inductive FileType where
  /-- `IMAGE`. -/
  | image
  /-- `DOCUMENT`. -/
  | document
  /-- `AUDIO`. -/
  | audio
  /-- `VIDEO`. -/
  | video
  /-- `CUSTOM`. -/
  | custom
  deriving DecidableEq

/-- The value of a `FileType`. -/
def FileType.value : FileType → Text
  | .image => "image".toList
  | .document => "document".toList
  | .audio => "audio".toList
  | .video => "video".toList
  | .custom => "custom".toList

/-- All of them. -/
def FileType.all : List FileType := [.image, .document, .audio, .video, .custom]

/-- `FileType(value)`. -/
def FileType.ofValue (value : Text) : Option FileType :=
  FileType.all.find? fun type => type.value = value

/-- `DIFY_FILE_IDENTITY`. -/
def difyFileIdentity : Text := "__dify__file__".toList

/-- `DIFY_TOOL_SELECTOR_IDENTITY`. -/
def difyToolSelectorIdentity : Text := "__dify__tool_selector__".toList

/-- `File`. -/
structure File where
  /-- The tag. -/
  difyModelIdentity : Text := difyFileIdentity
  /-- `url`. -/
  url : Text
  /-- `mime_type`. -/
  mimeType : Option Text
  /-- `filename`. -/
  filename : Option Text
  /-- `extension`. -/
  extension : Option Text
  /-- `size`. -/
  size : Option ℤ
  /-- `type`. -/
  type : FileType
  deriving DecidableEq

/-- `ToolSelector`, over the values `υ` of its configuration and the parameters `π`. -/
structure ToolSelector (υ π : Type) where
  /-- `provider_id`. -/
  providerId : Text
  /-- `tool_name`. -/
  toolName : Text
  /-- `tool_description`. -/
  toolDescription : Text
  /-- `tool_configuration`. -/
  toolConfiguration : List (Text × υ)
  /-- `tool_parameters`. -/
  toolParameters : List (Text × π)

/-- A value of a parameter; `ω` is any other value. -/
inductive Value (ω π : Type) where
  /-- `None`. -/
  | null
  /-- An integer. -/
  | int (value : ℤ)
  /-- A string. -/
  | str (value : Text)
  /-- A list. -/
  | list (items : List (Value ω π))
  /-- A dictionary. -/
  | dict (items : List (Text × Value ω π))
  /-- A file. -/
  | file (file : File)
  /-- A tool selector. -/
  | selector (selector : ToolSelector (Value ω π) π)
  /-- Any other value. -/
  | other (value : ω)

/-- How the fields of a model are validated that have another type than strings. -/
structure Validation (ω π : Type) where
  /-- The integer that is made of a value. -/
  int : Value ω π → Option ℤ
  /-- The parameter of a tool selector that is made of a value. -/
  parameter : Value ω π → Option π
  /-- An integer is taken as it is. -/
  int_int : ∀ number, int (.int number) = some number

/-- The exceptions of a conversion. -/
inductive ConversionError where
  /-- `KeyError`, of a file without `url`. -/
  | key
  /-- `ValueError`, of a value that is not a valid `FileType`. -/
  | fileType
  /-- `ValidationError`. -/
  | validation
  deriving DecidableEq

variable {ω π : Type}

/-- `value.get(key)`. -/
def Value.get (value : Value ω π) (key : String) : Option (Value ω π) :=
  match value with
  | .dict items => items.lookup key.toList
  | _ => none

/-- `isinstance(value, dict) and value.get("dify_model_identity") == identity`. -/
def isTagged (identity : Text) (value : Value ω π) : Bool :=
  match value.get "dify_model_identity" with
  | some (.str tag) => decide (tag = identity)
  | _ => false

/-- `isinstance(value, list)`, with every item tagged. -/
def isTaggedList (identity : Text) : Value ω π → Bool
  | .list items => items.all (isTagged identity)
  | _ => false

/-- A field of type `str`. -/
def strField : Option (Value ω π) → Except ConversionError Text
  | some (.str text) => .ok text
  | _ => .error .validation

/-- A field of type `str | None`. -/
def optionalStrField : Option (Value ω π) → Except ConversionError (Option Text)
  | none | some .null => .ok none
  | some (.str text) => .ok (some text)
  | _ => .error .validation

/-- A field of type `int | None`. -/
def optionalIntField (validation : Validation ω π) :
    Option (Value ω π) → Except ConversionError (Option ℤ)
  | none | some .null => .ok none
  | some value =>
    match validation.int value with
    | some number => .ok (some number)
    | none => .error .validation

/-- A field whose type is a mapping. -/
def mappingField : Option (Value ω π) → Except ConversionError (List (Text × Value ω π))
  | some (.dict items) => .ok items
  | _ => .error .validation

/-- `File(...)` of the fields of a dictionary. -/
def toFile (validation : Validation ω π) (value : Value ω π) : Except ConversionError File :=
  match value.get "url", value.get "type" with
  | none, _ => .error .key
  | some url, some (.str name) =>
    match FileType.ofValue name with
    | none => .error .fileType
    | some type => do
      let url ← strField (some url)
      let mimeType ← optionalStrField (value.get "mime_type")
      let filename ← optionalStrField (value.get "filename")
      let extension ← optionalStrField (value.get "extension")
      let size ← optionalIntField validation (value.get "size")
      .ok { url, mimeType, filename, extension, size, type }
  | some _, _ => .error .fileType

/-- An item of `tool_parameters`. -/
def toParameter (validation : Validation ω π) (item : Text × Value ω π) :
    Except ConversionError (Text × π) :=
  match validation.parameter item.2 with
  | some parameter => .ok (item.1, parameter)
  | none => .error .validation

/-- `ToolSelector.model_validate(value)`. -/
def toSelector (validation : Validation ω π) (value : Value ω π) :
    Except ConversionError (ToolSelector (Value ω π) π) := do
  let providerId ← strField (value.get "provider_id")
  let toolName ← strField (value.get "tool_name")
  let toolDescription ← strField (value.get "tool_description")
  let toolConfiguration ← mappingField (value.get "tool_configuration")
  let parameters ← mappingField (value.get "tool_parameters")
  let toolParameters ← parameters.mapM (toParameter validation)
  .ok { providerId, toolName, toolDescription, toolConfiguration, toolParameters }

/-- The items of a list. -/
def Value.items : Value ω π → List (Value ω π)
  | .list items => items
  | _ => []

/-- What a value is replaced with. -/
def convertValue (validation : Validation ω π) (value : Value ω π) :
    Except ConversionError (Value ω π) :=
  if isTagged difyFileIdentity value then do
    let file ← toFile validation value
    .ok (.file file)
  else if isTaggedList difyFileIdentity value then do
    let files ← value.items.mapM (toFile validation)
    .ok (.list (files.map .file))
  else if isTagged difyToolSelectorIdentity value then do
    let selector ← toSelector validation value
    .ok (.selector selector)
  else if isTaggedList difyToolSelectorIdentity value then do
    let selectors ← value.items.mapM (toSelector validation)
    .ok (.list (selectors.map .selector))
  else .ok value

/-- The loop over the items: what becomes of them, and what is raised. -/
def convertItems (validation : Validation ω π) :
    List (Text × Value ω π) → List (Text × Value ω π) × Option ConversionError
  | [] => ([], none)
  | (name, value) :: rest =>
    match convertValue validation value with
    | .error error => ((name, value) :: rest, some error)
    | .ok converted =>
      let (later, raised) := convertItems validation rest
      ((name, converted) :: later, raised)

/-- The keys stay as they are. -/
theorem map_fst_convertItems (validation : Validation ω π) (items : List (Text × Value ω π)) :
    (convertItems validation items).1.map Prod.fst = items.map Prod.fst := by
  induction items with
  | nil => rfl
  | cons item rest ih =>
    obtain ⟨name, value⟩ := item
    rw [convertItems]
    split
    · rfl
    · rw [List.map_cons, List.map_cons, ih]

/-- The parameters of a tool. -/
abbrev Parameters (ω π : Type) : Type := Dict Text (Value ω π)

/-- `Tool._convert_parameters`: the dictionary after it, and what it raises. -/
def convertParameters (validation : Validation ω π) (toolParameters : Parameters ω π) :
    Parameters ω π × Option ConversionError :=
  let converted := convertItems validation toolParameters.entries
  (⟨converted.1, by rw [map_fst_convertItems]; exact toolParameters.nodup⟩, converted.2)

/-- A dictionary that is tagged. -/
def Tagged (identity : Text) (value : Value ω π) : Prop :=
  value.get "dify_model_identity" = some (.str identity)

/-- The identities that are known. -/
def identities : List Text := [difyFileIdentity, difyToolSelectorIdentity]

/-- A value that is not tagged, and no list whose items are all tagged in the same way. -/
structure Untagged (value : Value ω π) : Prop where
  /-- The value is not tagged. -/
  single : ∀ identity ∈ identities, ¬ Tagged identity value
  /-- Some item of a list is not tagged. -/
  mixed : ∀ items, value = .list items → items ≠ [] →
    ∀ identity ∈ identities, ∃ item ∈ items, ¬ Tagged identity item

/-- A key of a dictionary holds this text, or null or nothing. -/
def HoldsText (value : Value ω π) (key : String) : Option Text → Prop
  | none => value.get key = none ∨ value.get key = some .null
  | some text => value.get key = some (.str text)

/-- A key of a dictionary holds what is validated as this integer, or null or nothing. -/
def HoldsInt (validation : Validation ω π) (value : Value ω π) (key : String) : Option ℤ → Prop
  | none => value.get key = none ∨ value.get key = some .null
  | some number => ∃ given, value.get key = some given ∧ given ≠ .null ∧
    validation.int given = some number

/-- The file has the fields of the dictionary. -/
structure SameFile (validation : Validation ω π) (value : Value ω π) (file : File) : Prop where
  /-- `dify_model_identity`. -/
  identity : file.difyModelIdentity = difyFileIdentity
  /-- `url`. -/
  url : value.get "url" = some (.str file.url)
  /-- `mime_type`. -/
  mimeType : HoldsText value "mime_type" file.mimeType
  /-- `filename`. -/
  filename : HoldsText value "filename" file.filename
  /-- `extension`. -/
  extension : HoldsText value "extension" file.extension
  /-- `size`. -/
  size : HoldsInt validation value "size" file.size
  /-- `type`. -/
  type : value.get "type" = some (.str file.type.value)

/-- The tool selector has the fields of the dictionary. -/
structure SameSelector (validation : Validation ω π) (value : Value ω π)
    (selector : ToolSelector (Value ω π) π) : Prop where
  /-- `provider_id`. -/
  providerId : value.get "provider_id" = some (.str selector.providerId)
  /-- `tool_name`. -/
  toolName : value.get "tool_name" = some (.str selector.toolName)
  /-- `tool_description`. -/
  toolDescription : value.get "tool_description" = some (.str selector.toolDescription)
  /-- `tool_configuration`. -/
  toolConfiguration : value.get "tool_configuration" = some (.dict selector.toolConfiguration)
  /-- `tool_parameters`. -/
  toolParameters : ∃ given, value.get "tool_parameters" = some (.dict given) ∧
    List.Forall₂ (fun item parameter =>
      item.1 = parameter.1 ∧ validation.parameter item.2 = some parameter.2)
      given selector.toolParameters

/-- What a value is to be converted to. -/
inductive Converts (validation : Validation ω π) : Value ω π → Value ω π → Prop where
  /-- A tagged file. -/
  | file {value : Value ω π} {file : File} (tagged : Tagged difyFileIdentity value)
    (same : SameFile validation value file) : Converts validation value (.file file)
  /-- A list of tagged files. -/
  | files {items : List (Value ω π)} {files : List File}
    (tagged : ∀ item ∈ items, Tagged difyFileIdentity item)
    (same : List.Forall₂ (SameFile validation) items files) :
    Converts validation (.list items) (.list (files.map .file))
  /-- A tagged tool selector. -/
  | selector {value : Value ω π} {selector : ToolSelector (Value ω π) π}
    (tagged : Tagged difyToolSelectorIdentity value)
    (same : SameSelector validation value selector) :
    Converts validation value (.selector selector)
  /-- A list of tagged tool selectors. -/
  | selectors {items : List (Value ω π)} {selectors : List (ToolSelector (Value ω π) π)}
    (tagged : ∀ item ∈ items, Tagged difyToolSelectorIdentity item)
    (same : List.Forall₂ (SameSelector validation) items selectors) :
    Converts validation (.list items) (.list (selectors.map .selector))
  /-- Any other value. -/
  | other {value : Value ω π} (untagged : Untagged value) : Converts validation value value

/-- The test of a tag. -/
theorem isTagged_iff {identity : Text} {value : Value ω π} :
    isTagged identity value = true ↔ Tagged identity value := by
  rw [isTagged, Tagged]
  split
  · rename_i tag found
    rw [found, decide_eq_true_iff, Option.some.injEq, Value.str.injEq]
  · rename_i none
    constructor
    · exact nofun
    · intro found
      exact absurd found (none identity)

/-- The test of a list. -/
theorem isTaggedList_iff {identity : Text} {value : Value ω π} :
    isTaggedList identity value = true ↔
      ∃ items, value = .list items ∧ ∀ item ∈ items, Tagged identity item := by
  cases value with
  | list items =>
    rw [isTaggedList, List.all_eq_true]
    simp only [isTagged_iff]
    constructor
    · intro tagged
      exact ⟨items, rfl, tagged⟩
    · intro ⟨others, same, tagged⟩
      obtain rfl := Value.list.inj same
      exact tagged
  | _ => simp [isTaggedList]

/-- A text field that passes holds its text. -/
theorem strField_eq_ok {field : Option (Value ω π)} {text : Text} :
    strField field = .ok text ↔ field = some (.str text) := by
  constructor
  · intro read
    rw [strField.eq_def] at read
    split at read
    · rw [Except.ok.inj read]
    · exact absurd read (by simp)
  · rintro rfl
    rfl

/-- A mapping that passes is a dictionary. -/
theorem mappingField_eq_ok {field : Option (Value ω π)} {items : List (Text × Value ω π)} :
    mappingField field = .ok items ↔ field = some (.dict items) := by
  constructor
  · intro read
    rw [mappingField.eq_def] at read
    split at read
    · rw [Except.ok.inj read]
    · exact absurd read (by simp)
  · rintro rfl
    rfl

/-- An optional text field that passes holds its text, or null or nothing. -/
theorem optionalStrField_eq_ok {value : Value ω π} {key : String} {text : Option Text} :
    optionalStrField (value.get key) = .ok text ↔ HoldsText value key text := by
  constructor
  · intro read
    rw [optionalStrField.eq_def] at read
    split at read
    · rename_i absent
      obtain rfl := Except.ok.inj read
      exact Or.inl absent
    · rename_i null
      obtain rfl := Except.ok.inj read
      exact Or.inr null
    · rename_i given found
      obtain rfl := Except.ok.inj read
      exact found
    · exact absurd read (by simp)
  · intro holds
    cases text with
    | none =>
      rcases holds with absent | null
      · rw [absent, optionalStrField]
      · rw [null, optionalStrField]
    | some text =>
      have found : value.get key = some (.str text) := holds
      rw [found, optionalStrField]

/-- An optional integer field that passes holds its integer, or null or nothing. -/
theorem optionalIntField_eq_ok {validation : Validation ω π} {value : Value ω π} {key : String}
    {number : Option ℤ} :
    optionalIntField validation (value.get key) = .ok number ↔
      HoldsInt validation value key number := by
  constructor
  · intro read
    rw [optionalIntField.eq_def] at read
    split at read
    · rename_i absent
      obtain rfl := Except.ok.inj read
      exact Or.inl absent
    · rename_i null
      obtain rfl := Except.ok.inj read
      exact Or.inr null
    · rename_i given visible found
      split at read
      · rename_i whole valid
        obtain rfl := Except.ok.inj read
        exact ⟨given, found, visible, valid⟩
      · exact absurd read (by simp)
  · intro holds
    cases number with
    | none =>
      rcases holds with absent | null
      · rw [absent, optionalIntField]
      · rw [null, optionalIntField]
    | some number =>
      obtain ⟨given, found, visible, valid⟩ := holds
      rw [found, optionalIntField.eq_def]
      cases given with
      | null => exact absurd rfl visible
      | _ => simp only [valid]

/-- A file type has its name. -/
theorem ofValue_eq_some {name : Text} {type : FileType} :
    FileType.ofValue name = some type ↔ type.value = name := by
  constructor
  · intro found
    rw [FileType.ofValue] at found
    simpa using List.find?_some found
  · rintro rfl
    cases type with
    | _ => decide

/-- A file is made exactly when it has the fields of the dictionary. -/
theorem toFile_eq_ok {validation : Validation ω π} {value : Value ω π} {file : File} :
    toFile validation value = .ok file ↔ SameFile validation value file := by
  constructor
  · intro made
    rw [toFile.eq_def] at made
    split at made
    · exact absurd made (by simp)
    · rename_i url name urlFound typeFound
      split at made
      · exact absurd made (by simp)
      · rename_i type named
        simp only [Fallible.bind_eq_ok] at made
        obtain ⟨urlText, urlRead, mimeType, mimeTypeRead, filename, filenameRead, extension,
          extensionRead, size, sizeRead, same⟩ := made
        obtain rfl := Except.ok.inj same
        exact {
          identity := rfl
          url := urlFound.trans (strField_eq_ok.mp urlRead)
          mimeType := optionalStrField_eq_ok.mp mimeTypeRead
          filename := optionalStrField_eq_ok.mp filenameRead
          extension := optionalStrField_eq_ok.mp extensionRead
          size := optionalIntField_eq_ok.mp sizeRead
          type := by rw [typeFound, ofValue_eq_some.mp named] }
    · exact absurd made (by simp)
  · intro same
    obtain ⟨identity, url, mimeType, filename, extension, size, type⟩ := file
    obtain rfl : identity = difyFileIdentity := same.identity
    have known : FileType.ofValue type.value = some type := ofValue_eq_some.mpr rfl
    rw [toFile, same.url, same.type]
    simp only [known, optionalStrField_eq_ok.mpr same.mimeType,
      optionalStrField_eq_ok.mpr same.filename, optionalStrField_eq_ok.mpr same.extension,
      optionalIntField_eq_ok.mpr same.size]
    rfl

/-- A size that is an integer is kept. -/
theorem SameFile.size_of_int {validation : Validation ω π} {value : Value ω π} {file : File}
    (same : SameFile validation value file) {number : ℤ}
    (given : value.get "size" = some (.int number)) : file.size = some number := by
  have holds := same.size
  cases sized : file.size with
  | none =>
    rw [sized, HoldsInt, given] at holds
    simp at holds
  | some size =>
    rw [sized] at holds
    obtain ⟨other, found, -, valid⟩ := holds
    have integer : other = .int number := Option.some.inj (found.symm.trans given)
    rw [integer, validation.int_int] at valid
    exact valid.symm

/-- An item of the parameters is made exactly when it is validated. -/
theorem toParameter_eq_ok {validation : Validation ω π} {item : Text × Value ω π}
    {parameter : Text × π} :
    toParameter validation item = .ok parameter ↔
      item.1 = parameter.1 ∧ validation.parameter item.2 = some parameter.2 := by
  rw [toParameter]
  constructor
  · intro valid
    split at valid
    · rename_i found
      obtain rfl := Except.ok.inj valid
      exact ⟨rfl, found⟩
    · exact absurd valid (by simp)
  · intro ⟨name, found⟩
    rw [found, name]

/-- A tool selector is made exactly when it has the fields of the dictionary. -/
theorem toSelector_eq_ok {validation : Validation ω π} {value : Value ω π}
    {selector : ToolSelector (Value ω π) π} :
    toSelector validation value = .ok selector ↔ SameSelector validation value selector := by
  constructor
  · intro made
    simp only [toSelector, Fallible.bind_eq_ok] at made
    obtain ⟨providerId, providerIdRead, toolName, toolNameRead, toolDescription,
      toolDescriptionRead, toolConfiguration, toolConfigurationRead, given, givenRead,
      toolParameters, parametersMade, same⟩ := made
    obtain rfl := Except.ok.inj same
    refine ⟨strField_eq_ok.mp providerIdRead, strField_eq_ok.mp toolNameRead,
      strField_eq_ok.mp toolDescriptionRead, mappingField_eq_ok.mp toolConfigurationRead,
      given, mappingField_eq_ok.mp givenRead, ?_⟩
    exact (Fallible.mapM_eq_ok.mp parametersMade).imp fun _ _ => toParameter_eq_ok.mp
  · intro same
    obtain ⟨given, found, valid⟩ := same.toolParameters
    have parameters : given.mapM (toParameter validation) = .ok selector.toolParameters :=
      Fallible.mapM_eq_ok.mpr (valid.imp fun _ _ => toParameter_eq_ok.mpr)
    simp only [toSelector, strField_eq_ok.mpr same.providerId, strField_eq_ok.mpr same.toolName,
      strField_eq_ok.mpr same.toolDescription, mappingField_eq_ok.mpr same.toolConfiguration,
      mappingField_eq_ok.mpr found]
    show (given.mapM (toParameter validation) >>= fun _ => _) = _
    rw [parameters]
    rfl

/-- A conversion that passes does what it is to do. -/
theorem converts_of_ok {validation : Validation ω π} {value converted : Value ω π}
    (passed : convertValue validation value = .ok converted) :
    Converts validation value converted := by
  rw [convertValue] at passed
  split at passed
  · rename_i tagged
    obtain ⟨file, made, same⟩ := Fallible.bind_eq_ok.mp passed
    obtain rfl := Except.ok.inj same
    exact .file (isTagged_iff.mp tagged) (toFile_eq_ok.mp made)
  · rename_i noFile
    split at passed
    · rename_i tagged
      obtain ⟨items, rfl, all⟩ := isTaggedList_iff.mp tagged
      obtain ⟨files, made, same⟩ := Fallible.bind_eq_ok.mp passed
      obtain rfl := Except.ok.inj same
      exact .files all ((Fallible.mapM_eq_ok.mp made).imp fun _ _ => toFile_eq_ok.mp)
    · rename_i noFiles
      split at passed
      · rename_i tagged
        obtain ⟨selector, made, same⟩ := Fallible.bind_eq_ok.mp passed
        obtain rfl := Except.ok.inj same
        exact .selector (isTagged_iff.mp tagged) (toSelector_eq_ok.mp made)
      · rename_i noSelector
        split at passed
        · rename_i tagged
          obtain ⟨items, rfl, all⟩ := isTaggedList_iff.mp tagged
          obtain ⟨selectors, made, same⟩ := Fallible.bind_eq_ok.mp passed
          obtain rfl := Except.ok.inj same
          exact .selectors all ((Fallible.mapM_eq_ok.mp made).imp fun _ _ => toSelector_eq_ok.mp)
        · rename_i noSelectors
          obtain rfl := Except.ok.inj passed
          apply Converts.other
          constructor
          · intro identity listed tagged
            have test := isTagged_iff.mpr tagged
            rcases List.mem_pair.mp listed with rfl | rfl
            · exact noFile test
            · exact noSelector test
          · intro items same _ identity listed
            by_contra none
            have all : ∀ item ∈ items, Tagged identity item := by
              intro item found
              by_contra untagged
              exact none ⟨item, found, untagged⟩
            have test := isTaggedList_iff.mpr ⟨items, same, all⟩
            rcases List.mem_pair.mp listed with rfl | rfl
            · exact noFiles test
            · exact noSelectors test

/-- An untagged value stays. -/
theorem convertValue_untagged (validation : Validation ω π) {value : Value ω π}
    (untagged : Untagged value) : convertValue validation value = .ok value := by
  have single {identity : Text} (listed : identity ∈ identities) :
      ¬ isTagged identity value = true :=
    fun test => untagged.single identity listed (isTagged_iff.mp test)
  have file := single (List.mem_pair.mpr (Or.inl rfl))
  have selector := single (List.mem_pair.mpr (Or.inr rfl))
  by_cases empty : value = .list []
  · subst empty
    rfl
  · have list {identity : Text} (listed : identity ∈ identities) :
        ¬ isTaggedList identity value = true := by
      intro test
      obtain ⟨items, rfl, all⟩ := isTaggedList_iff.mp test
      have some : items ≠ [] := fun none => empty (by rw [none])
      obtain ⟨item, found, other⟩ := untagged.mixed items rfl some identity listed
      exact other (all item found)
    rw [convertValue, if_neg file, if_neg (list (List.mem_pair.mpr (Or.inl rfl))),
      if_neg selector, if_neg (list (List.mem_pair.mpr (Or.inr rfl)))]

/-- A list of objects is not tagged. -/
theorem untagged_objects {objects : List (Value ω π)}
    (none : ∀ object ∈ objects, object.get "dify_model_identity" = none) :
    Untagged (.list objects) where
  single := fun _ _ => nofun
  mixed := by
    intro items same some identity _
    obtain rfl := Value.list.inj same
    obtain ⟨item, rest, shape⟩ := List.exists_cons_of_ne_nil some
    have listed : item ∈ objects := shape ▸ List.mem_cons_self
    refine ⟨item, listed, fun tagged => ?_⟩
    rw [Tagged, none item listed] at tagged
    exact absurd tagged (by simp)

/-- What was converted is not tagged. -/
theorem Converts.untagged {validation : Validation ω π} {value converted : Value ω π}
    (converts : Converts validation value converted) : Untagged converted := by
  cases converts with
  | file tagged same => exact ⟨fun _ _ => nofun, nofun⟩
  | files tagged same =>
    apply untagged_objects
    intro object listed
    obtain ⟨file, -, rfl⟩ := List.mem_map.mp listed
    rfl
  | selector tagged same => exact ⟨fun _ _ => nofun, nofun⟩
  | selectors tagged same =>
    apply untagged_objects
    intro object listed
    obtain ⟨selector, -, rfl⟩ := List.mem_map.mp listed
    rfl
  | other untagged => exact untagged

/-- A tag is one of the two. -/
theorem Tagged.unique {value : Value ω π} {identity other : Text} (tagged : Tagged identity value)
    (again : Tagged other value) : identity = other := by
  have same := tagged.symm.trans again
  simpa using same

/-- The identities differ. -/
theorem identities_ne : difyFileIdentity ≠ difyToolSelectorIdentity := by decide

/-- A tagged dictionary is no list. -/
theorem Tagged.not_list {value : Value ω π} {identity : Text} (tagged : Tagged identity value)
    (other : Text) : ¬ isTaggedList other value = true := by
  intro test
  obtain ⟨items, rfl, -⟩ := isTaggedList_iff.mp test
  exact absurd tagged nofun

/-- A value is converted exactly to what it is to be converted to. -/
theorem convertValue_eq_ok {validation : Validation ω π} {value converted : Value ω π} :
    convertValue validation value = .ok converted ↔ Converts validation value converted := by
  constructor
  · exact converts_of_ok
  · intro converts
    cases converts with
    | file tagged same =>
      rw [convertValue, if_pos (isTagged_iff.mpr tagged), toFile_eq_ok.mpr same]
      rfl
    | @files items files tagged same =>
      have collected := Fallible.mapM_eq_ok.mpr (same.imp fun _ _ => toFile_eq_ok.mpr)
      have list := isTaggedList_iff.mpr ⟨items, rfl, tagged⟩
      have single : ¬ isTagged difyFileIdentity (.list items : Value ω π) = true := nofun
      rw [convertValue, if_neg single, if_pos list, Value.items, collected]
      rfl
    | selector tagged same =>
      have single : ¬ isTagged difyFileIdentity value = true :=
        fun test => identities_ne ((isTagged_iff.mp test).unique tagged)
      rw [convertValue, if_neg single, if_neg (tagged.not_list _),
        if_pos (isTagged_iff.mpr tagged), toSelector_eq_ok.mpr same]
      rfl
    | @selectors items selectors tagged same =>
      cases same with
      | nil => rfl
      | @cons item selector rest others first later =>
        have collected := Fallible.mapM_eq_ok.mpr
          ((List.Forall₂.cons first later).imp fun _ _ => toSelector_eq_ok.mpr)
        have list := isTaggedList_iff.mpr ⟨item :: rest, rfl, tagged⟩
        have single (identity : Text) :
            ¬ isTagged identity (.list (item :: rest) : Value ω π) = true := nofun
        have files : ¬ isTaggedList difyFileIdentity (.list (item :: rest)) = true := by
          intro test
          have head := (List.all_eq_true.mp test) item List.mem_cons_self
          exact identities_ne ((isTagged_iff.mp head).unique (tagged item List.mem_cons_self))
        rw [convertValue, if_neg (single _), if_neg files, if_neg (single _), if_pos list,
          Value.items, collected]
        rfl
    | other untagged => exact convertValue_untagged validation untagged

/-- What was converted is converted to itself. -/
theorem convertValue_again {validation : Validation ω π} {value converted : Value ω π}
    (passed : convertValue validation value = .ok converted) :
    convertValue validation converted = .ok converted :=
  convertValue_untagged validation (converts_of_ok passed).untagged

/-- Converting what a conversion left does the same again, also after a failure. -/
theorem convertItems_again (validation : Validation ω π) (items : List (Text × Value ω π)) :
    convertItems validation (convertItems validation items).1 = convertItems validation items := by
  induction items with
  | nil => rfl
  | cons item rest ih =>
    obtain ⟨name, value⟩ := item
    cases outcome : convertValue validation value with
    | error error => simp only [convertItems, outcome]
    | ok converted => simp only [convertItems, outcome, convertValue_again outcome, ih]

/-- After a correction it does not matter what was converted before. -/
theorem convertItems_setEntry {validation : Validation ω π} {value converted : Value ω π}
    (valid : convertValue validation value = .ok converted) (name : Text)
    (items : List (Text × Value ω π)) :
    convertItems validation (Dict.setEntry name value (convertItems validation items).1) =
      convertItems validation (Dict.setEntry name value items) := by
  induction items with
  | nil => rfl
  | cons item rest ih =>
    obtain ⟨listed, old⟩ := item
    cases outcome : convertValue validation old with
    | error error => simp only [convertItems, outcome]
    | ok made =>
      have again := convertValue_again outcome
      by_cases same : listed = name
      · simp only [convertItems, outcome, Dict.setEntry, if_pos same, valid,
          convertItems_again validation rest]
      · simp only [convertItems, outcome, Dict.setEntry, if_neg same, again, ih]

/-- Without an exception every item is converted. -/
theorem exists_mem_convertItems {validation : Validation ω π} {items : List (Text × Value ω π)}
    {name : Text} {value : Value ω π} (listed : (name, value) ∈ items)
    (passed : (convertItems validation items).2 = none) :
    ∃ converted, (name, converted) ∈ (convertItems validation items).1 ∧
      convertValue validation value = .ok converted := by
  induction items with
  | nil => exact absurd listed List.not_mem_nil
  | cons item rest ih =>
    obtain ⟨key, old⟩ := item
    cases outcome : convertValue validation old with
    | error error =>
      simp only [convertItems, outcome] at passed
      exact absurd passed (by simp)
    | ok made =>
      simp only [convertItems, outcome] at passed ⊢
      rcases List.mem_cons.mp listed with same | later
      · obtain ⟨rfl, rfl⟩ := Prod.mk.inj same
        exact ⟨made, List.mem_cons_self, outcome⟩
      · obtain ⟨converted, found, passes⟩ := ih later passed
        exact ⟨converted, List.mem_cons_of_mem _ found, passes⟩

/-- An untagged value stays at its place, also when another value does not pass. -/
theorem mem_convertItems {validation : Validation ω π} {items : List (Text × Value ω π)}
    {name : Text} {value : Value ω π} (listed : (name, value) ∈ items)
    (untagged : Untagged value) : (name, value) ∈ (convertItems validation items).1 := by
  induction items with
  | nil => exact absurd listed List.not_mem_nil
  | cons item rest ih =>
    obtain ⟨key, old⟩ := item
    rw [convertItems]
    split
    · exact listed
    · rename_i made outcome
      rcases List.mem_cons.mp listed with same | later
      · obtain ⟨rfl, rfl⟩ := Prod.mk.inj same
        rw [convertValue_untagged validation untagged] at outcome
        rw [Except.ok.inj outcome]
        exact List.mem_cons_self
      · exact List.mem_cons_of_mem _ (ih later)

/-- Nothing is raised when every value can be converted. -/
theorem convertItems_passes {validation : Validation ω π} {items : List (Text × Value ω π)}
    (valid : ∀ item ∈ items, ∃ converted, convertValue validation item.2 = .ok converted) :
    (convertItems validation items).2 = none := by
  induction items with
  | nil => rfl
  | cons item rest ih =>
    obtain ⟨name, value⟩ := item
    obtain ⟨⟨converted, made⟩, later⟩ := List.forall_mem_cons.mp valid
    simp only [convertItems, made]
    exact ih later

/-- Only the items of a dictionary matter to its conversion. -/
theorem convertParameters_congr {validation : Validation ω π} {left right : Parameters ω π}
    (same : convertItems validation left.entries = convertItems validation right.entries) :
    convertParameters validation left = convertParameters validation right := by
  simp only [convertParameters, same]

/-- Conversion keeps the keys and the untagged values. It raises nothing exactly when every value
can be converted, and then it converts them, and converting again changes nothing. With a
corrected value it does not matter whether others were converted before. -/
theorem convertParameters_retry (validation : Validation ω π) (toolParameters : Parameters ω π) :
    (convertParameters validation toolParameters).1.entries.map Prod.fst =
        toolParameters.entries.map Prod.fst ∧
      (∀ name value, toolParameters.get name = some value → Untagged value →
        (convertParameters validation toolParameters).1.get name = some value) ∧
      ((convertParameters validation toolParameters).2 = none ↔
        ∀ name value, toolParameters.get name = some value →
          ∃ converted, Converts validation value converted) ∧
      ((convertParameters validation toolParameters).2 = none →
        (∀ name value, toolParameters.get name = some value →
          ∃ converted, (convertParameters validation toolParameters).1.get name =
            some converted ∧ Converts validation value converted) ∧
          convertParameters validation (convertParameters validation toolParameters).1 =
            ((convertParameters validation toolParameters).1, none)) ∧
      ∀ name value converted, Converts validation value converted →
        convertParameters validation
            ((convertParameters validation toolParameters).1.set name value) =
          convertParameters validation (toolParameters.set name value) := by
  have convertsAll : (convertParameters validation toolParameters).2 = none →
      ∀ name value, toolParameters.get name = some value →
        ∃ converted, (convertParameters validation toolParameters).1.get name =
          some converted ∧ Converts validation value converted := by
    intro passed name value has
    obtain ⟨converted, found, made⟩ := exists_mem_convertItems (Dict.get_eq_some.mp has) passed
    exact ⟨converted, Dict.get_eq_some.mpr found, converts_of_ok made⟩
  refine ⟨map_fst_convertItems validation _, ?_, ⟨?_, ?_⟩, ?_, ?_⟩
  · intro name value has untagged
    exact Dict.get_eq_some.mpr (mem_convertItems (Dict.get_eq_some.mp has) untagged)
  · intro passed name value has
    obtain ⟨converted, -, converts⟩ := convertsAll passed name value has
    exact ⟨converted, converts⟩
  · intro valid
    apply convertItems_passes
    intro item listed
    obtain ⟨converted, converts⟩ := valid item.1 item.2 (Dict.get_eq_some.mpr listed)
    exact ⟨converted, convertValue_eq_ok.mpr converts⟩
  · intro passed
    have again : convertParameters validation (convertParameters validation toolParameters).1 =
        convertParameters validation toolParameters :=
      convertParameters_congr (convertItems_again validation toolParameters.entries)
    refine ⟨convertsAll passed, ?_⟩
    rw [again]
    exact Prod.ext rfl passed
  · intro name value converted converts
    have valid := convertValue_eq_ok.mpr converts
    exact convertParameters_congr (convertItems_setEntry valid name toolParameters.entries)

/-- A validation that takes integers and no parameters. -/
def integersOnly : Validation Unit Unit where
  int
    | .int number => some number
    | _ => none
  parameter _ := none
  int_int _ := rfl

/-- A tagged file of this type. -/
def reportFile (type : Text) : Value Unit Unit :=
  .dict [("dify_model_identity".toList, .str difyFileIdentity),
    ("url".toList, .str "https://files.invalid/report.txt".toList), ("type".toList, .str type),
    ("size".toList, .int 4)]

/-- Two files, of which the second is invalid at first. -/
def reportParameters : Parameters Unit Unit :=
  Dict.ofPairs [("first".toList, reportFile "document".toList),
    ("second".toList, reportFile "invalid".toList)]

/-- The second file is corrected after the first was converted. -/
theorem convertParameters_retry_report :
    convertParameters integersOnly
        ((convertParameters integersOnly reportParameters).1.set "second".toList
          (reportFile "document".toList)) =
      convertParameters integersOnly
        (reportParameters.set "second".toList (reportFile "document".toList)) := by
  have converts : Converts integersOnly (reportFile "document".toList)
      (.file ⟨difyFileIdentity, "https://files.invalid/report.txt".toList, none, none, none,
        some 4, .document⟩) := by
    have tagged : Tagged difyFileIdentity (reportFile "document".toList) := rfl
    apply Converts.file tagged
    exact ⟨rfl, rfl, Or.inl rfl, Or.inl rfl, Or.inl rfl, ⟨.int 4, rfl, nofun, rfl⟩, rfl⟩
  exact (convertParameters_retry integersOnly reportParameters).2.2.2.2 _ _ _ converts

end DifyPlugin.Tool
