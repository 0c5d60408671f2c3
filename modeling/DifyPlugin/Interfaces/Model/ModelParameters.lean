import DifyPlugin.Library.Dict
import DifyPlugin.Library.Fallible
import DifyPlugin.Library.Number
import DifyPlugin.Library.Str
import Mathlib.Tactic.MkIffOfInductiveProp

/-!
# Model parameters

`_validate_and_filter_model_parameters` goes through the rules of a model in order. It looks a
parameter up under the name of its rule and then under that of its template, checks it by the
type of the rule, and keeps it. A dictionary maps names to values of which some are null.
-/

namespace DifyPlugin.ModelParameters

/-- `ParameterType`. -/
inductive ParameterType where
  /-- `FLOAT`. -/
  | float
  /-- `INT`. -/
  | int
  /-- `STRING`. -/
  | string
  /-- `BOOLEAN`. -/
  | boolean
  /-- `TEXT`. -/
  | text
  deriving DecidableEq

/-- A value that is not null; `ω` is what a value of any other type is. -/
inductive Value (ω : Type) where
  /-- A truth value, which is an integer as well. -/
  | bool (value : Bool)
  /-- An integer. -/
  | int (value : ℤ)
  /-- A float. -/
  | float (value : Number)
  /-- A string. -/
  | str (value : Text)
  /-- Anything else. -/
  | other (value : ω)
  deriving DecidableEq

/-- The fields of `ParameterRule` that the validation reads. -/
structure ParameterRule (ω : Type) where
  /-- The name of the parameter. -/
  name : Text
  /-- Another name of the parameter. -/
  useTemplate : Option Text := none
  /-- The type of the parameter. -/
  type : ParameterType
  /-- Whether the parameter is required. -/
  required : Bool := false
  /-- The value of a required parameter that is absent. -/
  default : Option (Value ω) := none
  /-- The least value. -/
  min : Option Number := none
  /-- The greatest value. -/
  max : Option Number := none
  /-- The number of decimal places. -/
  precision : Option ℤ := none
  /-- The values of a string. -/
  options : List Text := []

/-- A dictionary of parameters; `none` is null. -/
abbrev Parameters (ω : Type) : Type := Dict Text (Option (Value ω))

/-- What goes wrong with a parameter. -/
inductive ParameterError where
  /-- An absent parameter is required. -/
  | required (name : Text)
  /-- The value should be of another type. -/
  | shouldBe (name type : Text)
  /-- The value is less than the least. -/
  | lessThan (name : Text) (min : Number)
  /-- The value is greater than the greatest. -/
  | greaterThan (name : Text) (max : Number)
  /-- The value has more decimal places. -/
  | places (name : Text) (precision : ℤ)
  /-- The value is none of the options. -/
  | notOneOf (name : Text) (options : List Text)
  /-- `int` does not convert a float that is not finite. -/
  | conversion (value : Number)
  deriving DecidableEq

/-- How a message shows what is put into it. -/
structure Formats where
  /-- A float. -/
  float : Number → Text
  /-- An integer. -/
  int : ℤ → Text
  /-- A list of strings. -/
  options : List Text → Text
  /-- The message of `int`, of a float that is not finite. -/
  conversion : Number → Text

/-- The message of the exception. -/
def ParameterError.message (formats : Formats) : ParameterError → Text
  | .required name => "Model Parameter ".toList ++ name ++ " is required.".toList
  | .shouldBe name type =>
    "Model Parameter ".toList ++ name ++ " should be ".toList ++ type ++ ".".toList
  | .lessThan name min =>
    "Model Parameter ".toList ++ name ++ " should be greater than or equal to ".toList ++
      formats.float min ++ ".".toList
  | .greaterThan name max =>
    "Model Parameter ".toList ++ name ++ " should be less than or equal to ".toList ++
      formats.float max ++ ".".toList
  | .places name precision =>
    "Model Parameter ".toList ++ name ++ " should be round to ".toList ++
      formats.int precision ++ " decimal places.".toList
  | .notOneOf name options =>
    "Model Parameter ".toList ++ name ++ " should be one of ".toList ++
      formats.options options ++ ".".toList
  | .conversion value => formats.conversion value

variable {ω : Type}

/-- `isinstance(value, int)`, with the number that the value is then. -/
def asInt : Option (Value ω) → Option Number
  | some (.bool value) => some (.finite value.toNat)
  | some (.int value) => some (.finite value)
  | _ => none

/-- `isinstance(value, float | int)`, with the number that the value is then. -/
def asFloat : Option (Value ω) → Option Number
  | some (.float value) => some value
  | value => asInt value

/-- `if not condition: raise`. -/
def raiseUnless (condition : Bool) (error : ParameterError) : Except ParameterError Unit :=
  if condition then .ok () else .error error

/-- The check of the minimum. -/
def checkMin (rule : ParameterRule ω) (number : Number) : Except ParameterError Unit :=
  match rule.min with
  | some min => raiseUnless (!number.lt min) (.lessThan rule.name min)
  | none => .ok ()

/-- The check of the maximum. -/
def checkMax (rule : ParameterRule ω) (number : Number) : Except ParameterError Unit :=
  match rule.max with
  | some max => raiseUnless (!max.lt number) (.greaterThan rule.name max)
  | none => .ok ()

/-- The check of the range. -/
def checkRange (rule : ParameterRule ω) (number : Number) : Except ParameterError Unit := do
  checkMin rule number
  checkMax rule number

/-- The check of the decimal places. -/
def checkPrecision (rule : ParameterRule ω) (number : Number) : Except ParameterError Unit :=
  match rule.precision with
  | none => .ok ()
  | some precision =>
    if precision = 0 then
      match number.toInt with
      | none => .error (.conversion number)
      | some whole => raiseUnless (number.eq (.finite whole)) (.shouldBe rule.name "int".toList)
    else
      raiseUnless (number.eq (number.roundTo precision)) (.places rule.name precision)

/-- The check of a value by the type of its rule. -/
def checkValue (rule : ParameterRule ω) (value : Option (Value ω)) : Except ParameterError Unit :=
  match rule.type with
  | .int =>
    match asInt value with
    | some number => checkRange rule number
    | none => .error (.shouldBe rule.name "int".toList)
  | .float =>
    match asFloat value with
    | some number => do
      checkPrecision rule number
      checkRange rule number
    | none => .error (.shouldBe rule.name "float".toList)
  | .boolean =>
    match value with
    | some (.bool _) => .ok ()
    | _ => .error (.shouldBe rule.name "bool".toList)
  | .string =>
    match value with
    | some (.str text) =>
      raiseUnless (rule.options = [] || rule.options.contains text)
        (.notOneOf rule.name rule.options)
    | _ => .error (.shouldBe rule.name "string".toList)
  | .text =>
    match value with
    | some (.str _) => .ok ()
    | _ => .error (.shouldBe rule.name "string".toList)

/-- The dictionaries that the validation works on. -/
structure Frame (ω : Type) where
  /-- The dictionary of the caller. -/
  modelParameters : Parameters ω
  /-- The dictionary that is returned. -/
  filteredModelParameters : Parameters ω

/-- `filtered_model_parameters[name] = value`. -/
def Frame.keep (frame : Frame ω) (name : Text) (value : Option (Value ω)) : Frame ω :=
  { frame with filteredModelParameters := frame.filteredModelParameters.set name value }

/-- The name of the template of a rule, unless it is empty. -/
def ParameterRule.template (rule : ParameterRule ω) : Option Text :=
  rule.useTemplate.filter fun name => name ≠ []

/-- What a round stores under the name of its rule, if anything: the value that was looked up,
once it has passed its check, or the default. -/
def ruleValue (rule : ParameterRule ω) (modelParameters : Parameters ω) :
    Except ParameterError (Option (Option (Value ω))) :=
  match (modelParameters.get rule.name).join with
  | some value => do
    checkValue rule (some value)
    .ok (some (some value))
  | none =>
    match rule.template.bind modelParameters.get with
    | some value => do
      checkValue rule value
      .ok (some value)
    | none =>
      if rule.required then
        match rule.default with
        | some default => .ok (some (some default))
        | none => .error (.required rule.name)
      else .ok none

/-- One round of the loop over the rules. -/
def validateRule (rule : ParameterRule ω) (frame : Frame ω) :
    Except ParameterError Unit × Frame ω :=
  match ruleValue rule frame.modelParameters with
  | .ok (some value) => (.ok (), frame.keep rule.name value)
  | .ok none => (.ok (), frame)
  | .error error => (.error error, frame)

/-- The loop over the rules. -/
def validateRules : List (ParameterRule ω) → Frame ω → Except ParameterError Unit × Frame ω
  | [], frame => (.ok (), frame)
  | rule :: rest, frame =>
    match validateRule rule frame with
    | (.ok (), frame) => validateRules rest frame
    | (.error error, frame) => (.error error, frame)

/-- `_validate_and_filter_model_parameters`: what it returns or raises, and the dictionary of the
caller afterwards. -/
def validateAndFilterModelParameters (parameterRules : List (ParameterRule ω))
    (modelParameters : Parameters ω) : Except ParameterError (Parameters ω) × Parameters ω :=
  let (outcome, frame) := validateRules parameterRules ⟨modelParameters, .empty⟩
  (outcome.map fun _ => frame.filteredModelParameters, frame.modelParameters)

/-- The values of a type; a truth value counts as an integer, and an integer as a float. -/
def HasType : ParameterType → Value ω → Prop
  | .int, .bool _ | .int, .int _ => True
  | .float, .bool _ | .float, .int _ | .float, .float _ => True
  | .boolean, .bool _ => True
  | .string, .str _ | .text, .str _ => True
  | _, _ => False

/-- The number that a value is. -/
def Value.number : Value ω → Option Number
  | .bool value => some (.finite value.toNat)
  | .int value => some (.finite value)
  | .float value => some value
  | _ => none

/-- The numeric types, which have a range. -/
def ParameterType.Numeric (type : ParameterType) : Prop := type = .int ∨ type = .float

/-- A value satisfies the type of a rule and what else applies to this type. -/
@[mk_iff]
structure Accepts (rule : ParameterRule ω) (value : Value ω) : Prop where
  /-- The value is of the type. -/
  type : HasType rule.type value
  /-- A float has no more decimal places. -/
  precision : rule.type = .float → ∀ digits number, rule.precision = some digits →
    value.number = some number → number.HasPlaces digits
  /-- A number is not below the minimum. -/
  min : rule.type.Numeric → ∀ min number, rule.min = some min → value.number = some number →
    number.NotBelow min
  /-- The maximum is not below a number. -/
  max : rule.type.Numeric → ∀ max number, rule.max = some max → value.number = some number →
    max.NotBelow number
  /-- A string is one of the options, when there are any. -/
  options : rule.type = .string → rule.options ≠ [] → ∃ text ∈ rule.options, value = .str text

/-- A present value satisfies the rule, an absent one may be absent or has a default. -/
def Meets (rule : ParameterRule ω) : Option (Value ω) → Prop
  | some value => Accepts rule value
  | none => rule.required = false ∨ rule.default ≠ none

/-- The value under the name of a rule, or else under the name of its template. -/
def effective (rule : ParameterRule ω) (modelParameters : Parameters ω) : Option (Value ω) :=
  (modelParameters.get rule.name).join.or (rule.template.bind modelParameters.get).join

section Checks

variable {rule : ParameterRule ω} {number : Number}

/-- A condition is raised unless it holds. -/
@[simp]
theorem raiseUnless_eq_ok {condition : Bool} {error : ParameterError} :
    raiseUnless condition error = .ok () ↔ condition = true := by
  cases condition <;> simp [raiseUnless]

/-- The range is checked at both ends. -/
theorem checkRange_eq_ok :
    checkRange rule number = .ok () ↔
      (∀ min, rule.min = some min → number.NotBelow min) ∧
        ∀ max, rule.max = some max → max.NotBelow number := by
  simp only [checkRange, Fallible.andThen_eq_ok, checkMin, checkMax]
  cases rule.min <;> cases rule.max <;> simp [Number.lt_eq_false]

/-- The decimal places are counted, of an integer as well. -/
theorem checkPrecision_eq_ok :
    checkPrecision rule number = .ok () ↔
      ∀ digits, rule.precision = some digits → number.HasPlaces digits := by
  rw [checkPrecision]
  cases rule.precision with
  | none => simp
  | some digits =>
    by_cases whole : digits = 0
    · subst whole
      have exact := number.eq_toInt
      cases converted : number.toInt with
      | none =>
        rw [converted] at exact
        simpa using exact
      | some count =>
        rw [converted] at exact
        simpa using exact
    · simpa [whole] using number.eq_roundTo digits whole

/-- A value passes its check when it satisfies the rule. -/
theorem checkValue_eq_ok {value : Value ω} :
    checkValue rule (some value) = .ok () ↔ Accepts rule value := by
  rw [accepts_iff]
  cases typed : rule.type with
  | int =>
    cases value <;> simp [checkValue, typed, asInt, HasType, Value.number,
      ParameterType.Numeric, checkRange_eq_ok]
  | float =>
    cases value <;> simp [checkValue, typed, asFloat, asInt, HasType, Value.number,
      ParameterType.Numeric, Fallible.andThen_eq_ok, checkPrecision_eq_ok, checkRange_eq_ok]
  | boolean => cases value <;> simp [checkValue, typed, HasType, ParameterType.Numeric]
  | string =>
    cases value <;> simp [checkValue, typed, HasType, ParameterType.Numeric, imp_iff_not_or]
  | text => cases value <;> simp [checkValue, typed, HasType, ParameterType.Numeric]

end Checks

section Rounds

variable {rule : ParameterRule ω} {modelParameters : Parameters ω}

/-- The template of a rule names a null that stands in for a value that is absent or null. -/
def NullAlias (rule : ParameterRule ω) (modelParameters : Parameters ω) : Prop :=
  (modelParameters.get rule.name).join = none ∧
    rule.template.bind modelParameters.get = some none

/-- What a round stores when the rule is met. -/
def storedValue (rule : ParameterRule ω) (modelParameters : Parameters ω) :
    Option (Option (Value ω)) :=
  ((effective rule modelParameters).or (if rule.required then rule.default else none)).map some

/-- A round succeeds when the rule is met, and stores the effective value or the default. -/
theorem ruleValue_eq_ok (visible : ¬NullAlias rule modelParameters)
    {stored : Option (Option (Value ω))} :
    ruleValue rule modelParameters = .ok stored ↔
      Meets rule (effective rule modelParameters) ∧
        storedValue rule modelParameters = stored := by
  rw [ruleValue, effective, storedValue, effective]
  cases own : (modelParameters.get rule.name).join with
  | some value => simp [Fallible.andThen_eq_ok, checkValue_eq_ok, Meets]
  | none =>
    cases aliased : rule.template.bind modelParameters.get with
    | some found =>
      cases found with
      | some value => simp [Fallible.andThen_eq_ok, checkValue_eq_ok, Meets]
      | none => exact absurd ⟨own, aliased⟩ visible
    | none =>
      by_cases needed : rule.required = true
      · cases given : rule.default with
        | some default => simp [needed, given, Meets]
        | none => simp [needed, given, Meets]
      · simp [needed, Meets]

end Rounds

section Runs

variable {rules : List (ParameterRule ω)} {modelParameters : Parameters ω}

/-- What the rounds store. -/
def storedEntries (rules : List (ParameterRule ω)) (modelParameters : Parameters ω) :
    List (Text × Option (Value ω)) :=
  rules.filterMap fun rule => (storedValue rule modelParameters).map (Prod.mk rule.name)

/-- A round leaves the dictionary of the caller alone. -/
theorem validateRule_modelParameters (rule : ParameterRule ω) (frame : Frame ω) :
    (validateRule rule frame).2.modelParameters = frame.modelParameters := by
  rw [validateRule]
  split <;> rfl

/-- The loop leaves the dictionary of the caller alone. -/
theorem validateRules_modelParameters (rules : List (ParameterRule ω)) (frame : Frame ω) :
    (validateRules rules frame).2.modelParameters = frame.modelParameters := by
  induction rules generalizing frame with
  | nil => rfl
  | cons rule rest ih =>
    have kept := validateRule_modelParameters rule frame
    rw [validateRules]
    split
    · rename_i next passed
      rw [passed] at kept
      exact (ih next).trans kept
    · rename_i error next failed
      rw [failed] at kept
      exact kept

/-- The loop succeeds when every rule is met, with what every round stores. -/
theorem validateRules_eq_ok (visible : ∀ rule ∈ rules, ¬NullAlias rule modelParameters)
    {filtered : Parameters ω} {frame : Frame ω} :
    validateRules rules ⟨modelParameters, filtered⟩ = (.ok (), frame) ↔
      (∀ rule ∈ rules, Meets rule (effective rule modelParameters)) ∧
        frame = ⟨modelParameters, filtered.update (storedEntries rules modelParameters)⟩ := by
  induction rules generalizing filtered with
  | nil => simp [validateRules, storedEntries, Dict.update, eq_comm]
  | cons rule rest ih =>
    obtain ⟨first, others⟩ := List.forall_mem_cons.mp visible
    rw [validateRules, validateRule, List.forall_mem_cons]
    cases made : ruleValue rule modelParameters with
    | error error =>
      have unmet : ¬Meets rule (effective rule modelParameters) := fun met =>
        absurd (made.symm.trans ((ruleValue_eq_ok first).mpr ⟨met, rfl⟩)) (by simp)
      simp [unmet]
    | ok stored =>
      obtain ⟨met, same⟩ := (ruleValue_eq_ok first).mp made
      cases stored with
      | none => simp [met, ih others, storedEntries, same]
      | some value => simp [met, ih others, storedEntries, same, Frame.keep, Dict.update]

/-- Without nulls no rule has a null alias. -/
theorem not_nullAlias (present : ∀ key, modelParameters.get key ≠ some none)
    (rule : ParameterRule ω) : ¬NullAlias rule modelParameters := by
  intro ⟨_, aliased⟩
  obtain ⟨key, _, found⟩ := Option.bind_eq_some_iff.mp aliased
  exact present key found

/-- The names under which something is stored are those of rules. -/
theorem storedEntries_names :
    ((storedEntries rules modelParameters).map Prod.fst).Sublist
      (rules.map ParameterRule.name) := by
  induction rules with
  | nil => exact List.Sublist.refl _
  | cons rule rest ih =>
    rw [storedEntries, List.filterMap_cons]
    cases storedValue rule modelParameters with
    | none => exact ih.cons _
    | some value => exact ih.cons_cons _

/-- What is stored under the name of a rule is stored by its round. -/
theorem mem_storedEntries (distinct : (rules.map ParameterRule.name).Nodup)
    {rule : ParameterRule ω} (listed : rule ∈ rules) {value : Option (Value ω)} :
    (rule.name, value) ∈ storedEntries rules modelParameters ↔
      storedValue rule modelParameters = some value := by
  simp only [storedEntries, List.mem_filterMap, Option.map_eq_some_iff, Prod.mk.injEq]
  constructor
  · intro ⟨other, found, stored, made, named, same⟩
    have equal : other = rule := List.inj_on_of_nodup_map distinct found listed named
    rw [← equal, made, same]
  · intro made
    exact ⟨rule, listed, value, made, rfl, rfl⟩

/-- The validation succeeds exactly when every rule is met, and then returns the effective
values, and the defaults of absent required parameters, under the names of the rules. -/
theorem validateAndFilterModelParameters_correct (rules : List (ParameterRule ω))
    (modelParameters : Parameters ω) (distinct : (rules.map ParameterRule.name).Nodup)
    (present : ∀ key, modelParameters.get key ≠ some none) :
    (validateAndFilterModelParameters rules modelParameters).2 = modelParameters ∧
      ((∃ filtered, (validateAndFilterModelParameters rules modelParameters).1 = .ok filtered) ↔
        ∀ rule ∈ rules, Meets rule (effective rule modelParameters)) ∧
      ∀ filtered, (validateAndFilterModelParameters rules modelParameters).1 = .ok filtered →
        (∀ rule ∈ rules, filtered.get rule.name =
          ((effective rule modelParameters).or
            (if rule.required then rule.default else none)).map some) ∧
        ∀ key, filtered.get key ≠ none → ∃ rule ∈ rules, rule.name = key := by
  have visible : ∀ rule ∈ rules, ¬NullAlias rule modelParameters :=
    fun rule _ => not_nullAlias present rule
  have names : ((storedEntries rules modelParameters).map Prod.fst).Nodup :=
    storedEntries_names.nodup distinct
  have returned : ∀ filtered,
      (validateAndFilterModelParameters rules modelParameters).1 = .ok filtered ↔
        (∀ rule ∈ rules, Meets rule (effective rule modelParameters)) ∧
          filtered = Dict.ofPairs (storedEntries rules modelParameters) := by
    intro filtered
    have loop := @validateRules_eq_ok _ _ _ visible .empty
    rw [validateAndFilterModelParameters]
    cases ended : validateRules rules ⟨modelParameters, .empty⟩ with
    | mk outcome frame =>
      have same := @loop frame
      cases outcome with
      | error error =>
        have unmet : ¬∀ rule ∈ rules, Meets rule (effective rule modelParameters) :=
          fun met => absurd (ended.symm.trans (loop.mpr ⟨met, rfl⟩)) (by simp)
        simp [Except.map, unmet]
      | ok done =>
        obtain ⟨met, rfl⟩ := same.mp ended
        simp only [Except.map, Except.ok.injEq, Dict.ofPairs]
        exact ⟨fun same => ⟨met, same.symm⟩, fun all => all.2.symm⟩
  refine ⟨validateRules_modelParameters rules ⟨modelParameters, .empty⟩, ?_, ?_⟩
  · constructor
    · rintro ⟨filtered, succeeded⟩
      exact ((returned filtered).mp succeeded).1
    · intro met
      exact ⟨_, (returned _).mpr ⟨met, rfl⟩⟩
  · intro filtered succeeded
    obtain ⟨_, rfl⟩ := (returned filtered).mp succeeded
    constructor
    · intro rule listed
      apply Option.ext
      intro value
      rw [Dict.get_ofPairs names, mem_storedEntries distinct listed, storedValue]
    · intro key stored
      obtain ⟨value, found⟩ := Option.ne_none_iff_exists'.mp stored
      have entry := (Dict.get_ofPairs names).mp found
      exact List.mem_map.mp (storedEntries_names.subset (List.mem_map_of_mem entry))

end Runs

/-- The rules of a model with a temperature and a number of candidates. -/
def samplingRules : List (ParameterRule Unit) :=
  [{ name := "temperature".toList, useTemplate := some "temperature".toList, type := .float,
     min := some (.finite 0), max := some (.finite 1), precision := some 2 },
    { name := "k".toList, useTemplate := some "top_k".toList, type := .int },
    { name := "max_tokens".toList, type := .int, required := true, default := some (.int 64) }]

/-- A temperature and, under the name of a template, a number of candidates. -/
def samplingParameters : Parameters Unit :=
  ⟨[("temperature".toList, some (.float (.finite (1 / 4)))), ("top_k".toList, some (.int 3)),
    ("seed".toList, some (.int 7))], by decide⟩

/-- The alias is read, the default is filled in, and the unknown name is dropped. -/
theorem validateAndFilterModelParameters_sampling :
    ∃ filtered,
      (validateAndFilterModelParameters samplingRules samplingParameters).1 = .ok filtered ∧
      filtered.get "k".toList = some (some (.int 3)) ∧
      filtered.get "max_tokens".toList = some (some (.int 64)) ∧
      filtered.get "seed".toList = none := by
  have present : ∀ key, samplingParameters.get key ≠ some none := by
    intro key found
    have entry := Dict.get_eq_some.mp found
    revert entry
    simp [samplingParameters]
  obtain ⟨-, -, returned⟩ := validateAndFilterModelParameters_correct samplingRules
    samplingParameters (by decide) present
  have accepted : (validateAndFilterModelParameters samplingRules samplingParameters).1.isOk :=
    by decide +kernel
  cases outcome : (validateAndFilterModelParameters samplingRules samplingParameters).1 with
  | error error =>
    rw [outcome] at accepted
    exact absurd accepted Bool.false_ne_true
  | ok filtered =>
    obtain ⟨values, names⟩ := returned filtered outcome
    refine ⟨filtered, rfl, ?_, ?_, ?_⟩
    · exact values (samplingRules.get ⟨1, by decide⟩) (by simp [samplingRules])
    · exact values (samplingRules.get ⟨2, by decide⟩) (by simp [samplingRules])
    · by_contra kept
      have named := names "seed".toList kept
      revert named
      decide

end DifyPlugin.ModelParameters
