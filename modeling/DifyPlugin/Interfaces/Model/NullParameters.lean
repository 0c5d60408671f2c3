import DifyPlugin.Interfaces.Model.ModelParameters

/-!
# Null parameters

A null under the name of a rule counts as no value. A null under the name of its template does
not: it is looked up, and it is of no type. So a dictionary with nulls is validated like the one
without them unless a rule with such an alias is reached.
-/

namespace DifyPlugin.ModelParameters

variable {ω : Type}

/-- The dictionary without its null values. -/
def withoutNulls (modelParameters : Parameters ω) : Parameters ω :=
  modelParameters.filterValues Option.isSome

/-- How a message names a type. -/
def ParameterType.word (type : ParameterType) : Text :=
  if type = .int then "int".toList
  else if type = .float then "float".toList
  else if type = .boolean then "bool".toList
  else "string".toList

/-- A value is said not to be of a type: it is not of the type of the rule, or it is a float
that should be whole and is not. -/
def Disputed (rule : ParameterRule ω) (value : Value ω) (word : Text) : Prop :=
  (¬HasType rule.type value ∧ rule.type.word = word) ∨
    (rule.type = .float ∧ rule.precision = some 0 ∧ "int".toList = word ∧
      ∃ number : ℚ, value.number = some (.finite number) ∧
        ¬(Number.finite number).HasPlaces 0)

/-- The parameter of a rule is present, and said not to be of a type. -/
def Disputes (modelParameters : Parameters ω) (name word : Text) (rule : ParameterRule ω) :
    Prop :=
  rule.name = name ∧
    ∃ value, effective rule modelParameters = some value ∧ Disputed rule value word

/-- The first rule that is not met says that a parameter is not of a type. -/
def Reports (modelParameters : Parameters ω) (name word : Text) :
    List (ParameterRule ω) → Prop
  | [] => False
  | rule :: rest =>
    Disputes modelParameters name word rule ∨
      (Meets rule (effective rule modelParameters) ∧ Reports modelParameters name word rest)

/-- Nulls make no difference: no rule with a null alias is reached, or one is, but it may do
without a value and a later rule of the same name fails in the same words. -/
def NullsIgnored (modelParameters : Parameters ω) : List (ParameterRule ω) → Prop
  | [] => True
  | rule :: rest =>
    (NullAlias rule modelParameters →
      Meets rule none ∧ Reports modelParameters rule.name rule.type.word rest) ∧
    (¬NullAlias rule modelParameters → Meets rule (effective rule modelParameters) →
      NullsIgnored modelParameters rest)

variable {rule : ParameterRule ω} {modelParameters : Parameters ω} {name word : Text}

/-- A value that is not null is left. -/
theorem get_withoutNulls (key : Text) :
    (withoutNulls modelParameters).get key = (modelParameters.get key).join.map some := by
  rw [withoutNulls, Dict.get_filterValues]
  match modelParameters.get key with
  | none => rfl
  | some none => rfl
  | some (some value) => rfl

/-- No null is left. -/
theorem withoutNulls_present (key : Text) :
    (withoutNulls modelParameters).get key ≠ some none := by
  rw [get_withoutNulls]
  cases (modelParameters.get key).join <;> simp

/-- The effective values are those without nulls. -/
theorem effective_withoutNulls :
    effective rule (withoutNulls modelParameters) = effective rule modelParameters := by
  have joined : ∀ key, ((withoutNulls modelParameters).get key).join =
      (modelParameters.get key).join := by
    intro key
    rw [get_withoutNulls]
    cases (modelParameters.get key).join <;> rfl
  rw [effective, effective, joined]
  cases rule.template with
  | none => rfl
  | some key => rw [Option.bind_some, Option.bind_some, joined]

/-- A null is of no type. -/
theorem checkValue_null : checkValue rule none = .error (.shouldBe rule.name rule.type.word) := by
  cases typed : rule.type <;> simp [checkValue, typed, asInt, asFloat, ParameterType.word]

/-- A null alias fails the check of the type. -/
theorem ruleValue_nullAlias (hidden : NullAlias rule modelParameters) :
    ruleValue rule modelParameters = .error (.shouldBe rule.name rule.type.word) := by
  rw [ruleValue, hidden.1, hidden.2]
  exact Fallible.bind_of_error checkValue_null _

/-- A rule with a null alias has no effective value. -/
theorem effective_nullAlias (hidden : NullAlias rule modelParameters) :
    effective rule modelParameters = none := by
  rw [effective, hidden.1, hidden.2]
  rfl

/-- A rule without a null alias does not see nulls. -/
theorem ruleValue_withoutNulls (visible : ¬NullAlias rule modelParameters) :
    ruleValue rule (withoutNulls modelParameters) = ruleValue rule modelParameters := by
  rw [ruleValue, ruleValue, get_withoutNulls]
  cases own : (modelParameters.get rule.name).join with
  | some value => rfl
  | none =>
    have aliased : rule.template.bind (withoutNulls modelParameters).get =
        rule.template.bind modelParameters.get := by
      cases shape : rule.template with
      | none => rfl
      | some key =>
        rw [Option.bind_some, Option.bind_some, get_withoutNulls]
        rcases found : modelParameters.get key with _ | _ | value
        · rfl
        · exact absurd ⟨own, by rw [shape, Option.bind_some, found]⟩ visible
        · rfl
    rw [aliased]
    rfl

/-- A condition that is raised does not hold. -/
@[simp]
theorem raiseUnless_eq_error {condition : Bool} {error raised : ParameterError} :
    raiseUnless condition error = .error raised ↔ condition = false ∧ error = raised := by
  cases condition <;> simp [raiseUnless]

/-- No range is reported as a type. -/
theorem checkRange_ne_shouldBe (number : Number) :
    checkRange rule number ≠ .error (.shouldBe name word) := by
  simp only [checkRange, ne_eq, Fallible.andThen_eq_error, checkMin, checkMax]
  cases rule.min <;> cases rule.max <;> simp

/-- Decimal places are reported as a type when there should be none. -/
theorem checkPrecision_eq_shouldBe (number : Number) :
    checkPrecision rule number = .error (.shouldBe name word) ↔
      rule.precision = some 0 ∧ rule.name = name ∧ "int".toList = word ∧
        ∃ value : ℚ, number = .finite value ∧ ¬(Number.finite value).HasPlaces 0 := by
  rw [checkPrecision]
  cases rule.precision with
  | none => simp
  | some digits =>
    by_cases whole : digits = 0
    · cases number with
      | finite value =>
        have exact := (Number.finite value).eq_toInt
        simp only [Number.toInt, Option.some.injEq, exists_eq_left'] at exact
        simp [whole, Number.toInt, ← exact, and_comm, and_assoc]
      | infinite negative => simp [whole, Number.toInt]
      | nan => simp [whole, Number.toInt]
    · simp [whole]

/-- A check says that a value is not of a type when it is disputed. -/
theorem checkValue_eq_shouldBe {value : Value ω} :
    checkValue rule (some value) = .error (.shouldBe name word) ↔
      rule.name = name ∧ Disputed rule value word := by
  rw [Disputed]
  cases typed : rule.type with
  | int =>
    cases value <;> simp [checkValue, typed, asInt, HasType, checkRange_ne_shouldBe,
      ParameterType.word]
  | float =>
    cases value <;> simp [checkValue, typed, asFloat, asInt, HasType, Value.number,
      Fallible.andThen_eq_error, checkPrecision_eq_shouldBe, checkRange_ne_shouldBe,
      ParameterType.word, and_left_comm]
  | boolean => cases value <;> simp [checkValue, typed, HasType, ParameterType.word]
  | string => cases value <;> simp [checkValue, typed, HasType, ParameterType.word]
  | text => cases value <;> simp [checkValue, typed, HasType, ParameterType.word]

/-- A round says that a parameter is not of a type when it is disputed. -/
theorem ruleValue_eq_shouldBe (visible : ¬NullAlias rule modelParameters) :
    ruleValue rule modelParameters = .error (.shouldBe name word) ↔
      Disputes modelParameters name word rule := by
  rw [ruleValue, Disputes, effective]
  cases own : (modelParameters.get rule.name).join with
  | some value => simp [Fallible.andThen_eq_error, checkValue_eq_shouldBe]
  | none =>
    rcases aliased : rule.template.bind modelParameters.get with _ | _ | value
    · by_cases needed : rule.required = true
      · cases given : rule.default <;> simp [needed]
      · simp [needed]
    · exact absurd ⟨own, aliased⟩ visible
    · simp [Fallible.andThen_eq_error, checkValue_eq_shouldBe]

/-- What the validation returns or raises after a loop. -/
def outcome (looped : Except ParameterError Unit × Frame ω) :
    Except ParameterError (Parameters ω) :=
  looped.1.map fun _ => looped.2.filteredModelParameters

/-- The loop says that a parameter is not of a type when the first rule that is not met does. -/
theorem validateRules_eq_shouldBe {rules : List (ParameterRule ω)}
    (visible : ∀ rule ∈ rules, ¬NullAlias rule modelParameters) {filtered : Parameters ω} :
    outcome (validateRules rules ⟨modelParameters, filtered⟩) = .error (.shouldBe name word) ↔
      Reports modelParameters name word rules := by
  induction rules generalizing filtered with
  | nil => simp [validateRules, outcome, Except.map, Reports]
  | cons rule rest ih =>
    obtain ⟨first, others⟩ := List.forall_mem_cons.mp visible
    have disputed : ruleValue rule modelParameters = .error (.shouldBe name word) ↔
        Disputes modelParameters name word rule := ruleValue_eq_shouldBe first
    rw [validateRules, validateRule, Reports]
    cases made : ruleValue rule modelParameters with
    | error error =>
      have unmet : ¬Meets rule (effective rule modelParameters) := fun met =>
        absurd (made.symm.trans ((ruleValue_eq_ok first).mpr ⟨met, rfl⟩)) (by simp)
      simpa [outcome, Except.map, unmet, made] using disputed
    | ok stored =>
      have met := ((ruleValue_eq_ok first).mp made).1
      have agreed : ¬Disputes modelParameters name word rule := fun denied =>
        absurd (made.symm.trans (disputed.mpr denied)) (by simp)
      cases stored with
      | none => simp [met, agreed, ih others]
      | some value => simp [met, agreed, ih others, Frame.keep]

/-- Disputes are about effective values, which nulls do not change. -/
theorem reports_withoutNulls (rules : List (ParameterRule ω)) :
    Reports (withoutNulls modelParameters) name word rules ↔
      Reports modelParameters name word rules := by
  induction rules with
  | nil => exact Iff.rfl
  | cons rule rest ih => rw [Reports, Reports, Disputes, Disputes, effective_withoutNulls, ih]

/-- The loop ends at a rule with a null alias. -/
theorem validateRules_nullAlias (hidden : NullAlias rule modelParameters)
    (rest : List (ParameterRule ω)) (filtered : Parameters ω) :
    outcome (validateRules (rule :: rest) ⟨modelParameters, filtered⟩) =
      .error (.shouldBe rule.name rule.type.word) := by
  rw [validateRules, validateRule, ruleValue_nullAlias hidden]
  rfl

/-- A rule with a null alias has no value to dispute. -/
theorem reports_nullAlias (hidden : NullAlias rule modelParameters)
    (rest : List (ParameterRule ω)) :
    Reports modelParameters name word (rule :: rest) ↔
      Meets rule none ∧ Reports modelParameters name word rest := by
  rw [Reports, Disputes, effective_nullAlias hidden]
  simp

/-- The loops over a dictionary with and without nulls agree when nulls make no difference. -/
theorem validateRules_withoutNulls (rules : List (ParameterRule ω)) (filtered : Parameters ω) :
    outcome (validateRules rules ⟨modelParameters, filtered⟩) =
        outcome (validateRules rules ⟨withoutNulls modelParameters, filtered⟩) ↔
      NullsIgnored modelParameters rules := by
  induction rules generalizing filtered with
  | nil => simp [validateRules, outcome, NullsIgnored]
  | cons rule rest ih =>
    by_cases hidden : NullAlias rule modelParameters
    · -- With nulls the loop ends here, so the loop without them has to say the same.
      have visible : ∀ other ∈ rule :: rest, ¬NullAlias other (withoutNulls modelParameters) :=
        fun other _ => not_nullAlias withoutNulls_present other
      have reported := @validateRules_eq_shouldBe _ _ rule.name rule.type.word _ visible filtered
      rw [reports_withoutNulls, reports_nullAlias hidden] at reported
      rw [validateRules_nullAlias hidden, eq_comm, reported, NullsIgnored]
      simp [hidden]
    · rw [validateRules, validateRules, validateRule, validateRule, NullsIgnored,
        ruleValue_withoutNulls hidden]
      have met := @ruleValue_eq_ok _ rule _ hidden
      cases made : ruleValue rule modelParameters with
      | error error =>
        have unmet : ¬Meets rule (effective rule modelParameters) := fun holds =>
          absurd (made.symm.trans (met.mpr ⟨holds, rfl⟩)) (by simp)
        simp [outcome, Except.map, hidden, unmet]
      | ok stored =>
        have holds := (met.mp made).1
        cases stored with
        | none => simp [hidden, holds, ih]
        | some value => simp [hidden, holds, ih, Frame.keep]

/-- The validation of a dictionary gives what the one without its nulls gives exactly when nulls
make no difference. -/
theorem validateAndFilterModelParameters_nulls (rules : List (ParameterRule ω))
    (modelParameters : Parameters ω) :
    (validateAndFilterModelParameters rules modelParameters).1 =
        (validateAndFilterModelParameters rules (withoutNulls modelParameters)).1 ↔
      NullsIgnored modelParameters rules :=
  validateRules_withoutNulls rules .empty

/-- A rule reports about the parameter of its name. -/
theorem Reports.listed {rules : List (ParameterRule ω)}
    (reported : Reports modelParameters name word rules) :
    name ∈ rules.map ParameterRule.name := by
  induction rules with
  | nil => exact reported.elim
  | cons rule rest ih =>
    rw [List.map_cons, List.mem_cons]
    rcases reported with disputed | ⟨_, later⟩
    · exact Or.inl disputed.1.symm
    · exact Or.inr (ih later)

/-- When no name repeats, nulls make no difference as long as no rule with a null alias comes
before the first rule that is not met. -/
theorem nullsIgnored_of_distinct {rules : List (ParameterRule ω)}
    (distinct : (rules.map ParameterRule.name).Nodup) :
    NullsIgnored modelParameters rules ↔
      ∀ before rule after, rules = before ++ rule :: after →
        (∀ earlier ∈ before, ¬NullAlias earlier modelParameters ∧
          Meets earlier (effective earlier modelParameters)) →
        ¬NullAlias rule modelParameters := by
  induction rules with
  | nil => simp [NullsIgnored]
  | cons rule rest ih =>
    obtain ⟨fresh, others⟩ := List.nodup_cons.mp distinct
    rw [NullsIgnored, ih others]
    constructor
    · intro ⟨aliased, visible⟩ before reached after split passed
      cases before with
      | nil =>
        obtain ⟨rfl, rfl⟩ := List.cons.inj split
        exact fun hidden => fresh (aliased hidden).2.listed
      | cons first earlier =>
        obtain ⟨rfl, later⟩ := List.cons.inj split
        obtain ⟨⟨shown, met⟩, remaining⟩ := List.forall_mem_cons.mp passed
        exact visible shown met earlier reached after later remaining
    · intro reachable
      have shown : ¬NullAlias rule modelParameters :=
        reachable [] rule rest rfl (List.forall_mem_nil _)
      refine ⟨fun hidden => absurd hidden shown, ?_⟩
      intro _ met before reached after split passed
      exact reachable (rule :: before) reached after (by rw [split, List.cons_append])
        (List.forall_mem_cons.mpr ⟨⟨shown, met⟩, passed⟩)

/-- A temperature that is its own template. -/
def temperatureRule : ParameterRule Unit :=
  { name := "temperature".toList, useTemplate := some "temperature".toList, type := .float }

/-- A temperature that is null. -/
def nullTemperature : Parameters Unit := ⟨[("temperature".toList, none)], by decide⟩

/-- A null fails where no value at all is accepted. -/
theorem validateAndFilterModelParameters_null_fails :
    ¬∀ (rules : List (ParameterRule Unit)) (modelParameters : Parameters Unit),
      (validateAndFilterModelParameters rules modelParameters).1 =
        (validateAndFilterModelParameters rules (withoutNulls modelParameters)).1 := by
  intro same
  have equal := same [temperatureRule] nullTemperature
  have failed : (validateAndFilterModelParameters [temperatureRule] nullTemperature).1 =
      .error (.shouldBe "temperature".toList "float".toList) := rfl
  rw [failed] at equal
  exact absurd equal nofun

end DifyPlugin.ModelParameters
