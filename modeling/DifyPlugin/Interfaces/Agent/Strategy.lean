import DifyPlugin.Library.Dict
import DifyPlugin.Library.Search
import DifyPlugin.Library.Str
import Mathlib.Order.Lattice
import Mathlib.Data.Int.Order.Basic

/-!
# The output budget of an agent

`AgentStrategy.recalc_llm_max_tokens` lowers the output-token parameters of a model when the
prompt and the requested output do not fit in its context. It reads the request in one loop over
the rules, where the last output-token rule decides, and sets the parameters in another.
-/

namespace DifyPlugin.AgentStrategy

/-- The fields of `ParameterRule` that are read. -/
structure ParameterRule where
  /-- `name`. -/
  name : Text
  /-- `use_template`. -/
  useTemplate : Option Text := none
  deriving DecidableEq

/-- The fields of `AIModelEntity` that are read. -/
structure AIModelEntity where
  /-- The context size among the properties of the model. -/
  contextSize : Option ℤ
  /-- `parameter_rules`. -/
  parameterRules : List ParameterRule

/-- A dictionary of integer parameters. -/
abbrev Parameters : Type := Dict Text ℤ

/-- `rule.name == "max_tokens" or (rule.use_template and rule.use_template == "max_tokens")`. -/
def isOutputRule (rule : ParameterRule) : Bool :=
  decide (rule.name = "max_tokens".toList ∨ rule.useTemplate = some "max_tokens".toList)

/-- A value that `or` takes. -/
def truthy : Option ℤ → Option ℤ
  | some value => if value = 0 then none else some value
  | none => none

/-- `(parameters.get(rule.name) or parameters.get(rule.use_template or "")) or 0`. -/
def requested (parameters : Parameters) (rule : ParameterRule) : ℤ :=
  ((truthy (parameters.get rule.name)).or
    (truthy (parameters.get (rule.useTemplate.getD [])))).getD 0

/-- The loop that reads the request. -/
def readMaxTokens (rules : List ParameterRule) (parameters : Parameters) : ℤ :=
  rules.foldl (fun maxTokens rule =>
    if isOutputRule rule then requested parameters rule else maxTokens) 0

/-- The loop that sets the parameters. -/
def writeMaxTokens (rules : List ParameterRule) (maxTokens : ℤ) (parameters : Parameters) :
    Parameters :=
  rules.foldl (fun parameters rule =>
    if isOutputRule rule then parameters.set rule.name maxTokens else parameters) parameters

variable {μ : Type}

/-- `AgentStrategy.recalc_llm_max_tokens`: its result, and the parameters after it. -/
def recalcLlmMaxTokens (getNumTokensByGpt2 : List μ → Nat) (modelEntity : AIModelEntity)
    (promptMessages : List μ) (parameters : Parameters) : Option ℤ × Parameters :=
  match modelEntity.contextSize with
  | none => (some (-1), parameters)
  | some modelContextTokens =>
    let promptTokens : ℤ := getNumTokensByGpt2 promptMessages
    if promptTokens + readMaxTokens modelEntity.parameterRules parameters > modelContextTokens then
      (none, writeMaxTokens modelEntity.parameterRules
        (max (modelContextTokens - promptTokens) 16) parameters)
    else (none, parameters)

/-- Every output-token parameter that is set is at most the bound. -/
def Within (rules : List ParameterRule) (parameters : Parameters) (bound : ℤ) : Prop :=
  ∀ rule ∈ rules, isOutputRule rule = true →
    ∀ value, parameters.get rule.name = some value → value ≤ bound

/-- The budget respects the context: `room` is what the prompt leaves of it, `recalc` the
function on the parameters. -/
structure Respects (rules : List ParameterRule) (room : ℤ) (recalc : Parameters → Parameters)
    (parameters : Parameters) : Prop where
  /-- The output-token parameters that are set fit, or are the minimum. -/
  bounded : Within rules (recalc parameters) (max room 16)
  /-- Other parameters are kept. -/
  others : ∀ name, (∀ rule ∈ rules, isOutputRule rule = true → rule.name ≠ name) →
    (recalc parameters).get name = parameters.get name
  /-- Parameters that fit are kept. -/
  unchanged : 0 ≤ room → Within rules parameters room → recalc parameters = parameters
  /-- A second time changes nothing. -/
  idempotent : recalc (recalc parameters) = recalc parameters

/-- The request of the last output-token rule exceeds the room: the parameter under its name, or
when that is unset or zero the one under the name of its template. -/
def LastExceeds (rules : List ParameterRule) (parameters : Parameters) (room : ℤ) : Prop :=
  ∃ rule, (rules.filter isOutputRule).getLast? = some rule ∧
    ∃ value, room < value ∧
      (parameters.get rule.name = some value ∨
        (parameters.get rule.name = none ∨ parameters.get rule.name = some 0) ∧
          parameters.get (rule.useTemplate.getD []) = some value)

/-- The last output-token rule speaks for all of them. -/
structure Governed (rules : List ParameterRule) (parameters : Parameters) (room : ℤ) : Prop where
  /-- Where some parameter needs to be lowered, the last rule exceeds the room. -/
  excess : ¬ Within rules parameters (max room 16) → LastExceeds rules parameters room
  /-- Where all parameters fit, it does not. -/
  calm : Within rules parameters room → ¬ LastExceeds rules parameters room

/-- The request is that of the last output-token rule. -/
theorem readMaxTokens_eq (rules : List ParameterRule) (parameters : Parameters) :
    readMaxTokens rules parameters =
      ((rules.filter isOutputRule).getLast?.map (requested parameters)).getD 0 :=
  Search.foldl_assign isOutputRule (requested parameters) 0 rules

/-- Zero is not taken. -/
@[simp] theorem truthy_zero : truthy (some 0) = none := rfl

/-- Another value is. -/
theorem truthy_of_ne {value : ℤ} (nonzero : value ≠ 0) : truthy (some value) = some value :=
  if_neg nonzero

/-- A taken value is that of the dictionary. -/
theorem eq_of_truthy {found : Option ℤ} {value : ℤ} (taken : truthy found = some value) :
    found = some value := by
  cases found with
  | none => exact absurd taken (by simp [truthy])
  | some other =>
    rw [truthy] at taken
    split at taken
    · exact absurd taken (by simp)
    · exact taken

/-- A value above a room is taken. -/
theorem lt_truthy {found : Option ℤ} {room : ℤ} (positive : 0 ≤ room) :
    room < (truthy found).getD 0 ↔ ∃ value, room < value ∧ found = some value := by
  cases found with
  | none => simpa [truthy] using positive
  | some value =>
    by_cases zero : value = 0
    · subst zero
      rw [truthy_zero, Option.getD_none]
      constructor
      · intro above
        omega
      · rintro ⟨value, above, same⟩
        exact Option.some.inj same ▸ above
    · simp [truthy_of_ne zero]

/-- A request above a room is a value of the dictionary above it. -/
theorem lt_requested {parameters : Parameters} {rule : ParameterRule} {room : ℤ}
    (positive : 0 ≤ room) :
    room < requested parameters rule ↔
      ∃ value, room < value ∧
        (parameters.get rule.name = some value ∨
          (parameters.get rule.name = none ∨ parameters.get rule.name = some 0) ∧
            parameters.get (rule.useTemplate.getD []) = some value) := by
  rw [requested]
  cases own : parameters.get rule.name with
  | none =>
    rw [truthy, Option.none_or, lt_truthy positive]
    simp
  | some value =>
    by_cases zero : value = 0
    · rw [zero, truthy_zero, Option.none_or, lt_truthy positive]
      simp only [or_true, true_and, Option.some.injEq]
      constructor
      · rintro ⟨other, above, found⟩
        exact ⟨other, above, Or.inr found⟩
      · rintro ⟨other, above, same | found⟩
        · omega
        · exact ⟨other, above, found⟩
    · rw [truthy_of_ne zero, Option.some_or, Option.getD_some]
      simp [zero]

/-- The last rule exceeds the room when the request does. -/
theorem lastExceeds_iff {rules : List ParameterRule} {parameters : Parameters} {room : ℤ}
    (positive : 0 ≤ room) :
    LastExceeds rules parameters room ↔ room < readMaxTokens rules parameters := by
  rw [readMaxTokens_eq, LastExceeds]
  cases (rules.filter isOutputRule).getLast? with
  | none => simpa using positive
  | some rule =>
    rw [Option.map_some, Option.getD_some, lt_requested positive]
    simp

/-- A request of natural numbers is one. -/
theorem readMaxTokens_nonneg {parameters : Parameters}
    (natural : ∀ name value, parameters.get name = some value → 0 ≤ value)
    (rules : List ParameterRule) : 0 ≤ readMaxTokens rules parameters := by
  rw [readMaxTokens_eq]
  cases (rules.filter isOutputRule).getLast? with
  | none => exact le_refl 0
  | some rule =>
    rw [Option.map_some, Option.getD_some, requested]
    cases chosen : (truthy (parameters.get rule.name)).or
        (truthy (parameters.get (rule.useTemplate.getD []))) with
    | none => exact le_refl 0
    | some number =>
      rcases Option.or_eq_some_iff.mp chosen with own | ⟨-, other⟩
      · exact natural _ number (eq_of_truthy own)
      · exact natural _ number (eq_of_truthy other)

section Write

variable {maxTokens : ℤ}

/-- A parameter that has the budget keeps it. -/
theorem get_write_of_has {rules : List ParameterRule} {parameters : Parameters} {name : Text}
    (has : parameters.get name = some maxTokens) :
    (writeMaxTokens rules maxTokens parameters).get name = some maxTokens := by
  induction rules generalizing parameters with
  | nil => exact has
  | cons rule rest ih =>
    apply ih
    show (if isOutputRule rule then parameters.set rule.name maxTokens else parameters).get name =
      some maxTokens
    split
    · by_cases same : name = rule.name
      · rw [same, Dict.get_set_self]
      · rw [Dict.get_set_of_ne _ same, has]
    · exact has

/-- The parameter of an output-token rule gets the budget. -/
theorem get_write_of_mem {rules : List ParameterRule} {rule : ParameterRule}
    (listed : rule ∈ rules) (output : isOutputRule rule = true) (parameters : Parameters) :
    (writeMaxTokens rules maxTokens parameters).get rule.name = some maxTokens := by
  induction rules generalizing parameters with
  | nil => exact absurd listed List.not_mem_nil
  | cons first rest ih =>
    rcases List.mem_cons.mp listed with rfl | later
    · have round : writeMaxTokens (rule :: rest) maxTokens parameters =
          writeMaxTokens rest maxTokens (parameters.set rule.name maxTokens) := by
        rw [writeMaxTokens, List.foldl_cons, if_pos output, writeMaxTokens]
      rw [round]
      exact get_write_of_has (Dict.get_set_self parameters rule.name maxTokens)
    · exact ih later _

/-- Other parameters are kept. -/
theorem get_write_of_other {rules : List ParameterRule} {name : Text}
    (other : ∀ rule ∈ rules, isOutputRule rule = true → rule.name ≠ name)
    (parameters : Parameters) :
    (writeMaxTokens rules maxTokens parameters).get name = parameters.get name := by
  induction rules generalizing parameters with
  | nil => rfl
  | cons rule rest ih =>
    obtain ⟨here, later⟩ := List.forall_mem_cons.mp other
    refine (ih later _).trans ?_
    show (if isOutputRule rule then parameters.set rule.name maxTokens else parameters).get name =
      parameters.get name
    split
    · rename_i output
      exact Dict.get_set_of_ne _ (Ne.symm (here output)) _
    · rfl

/-- Parameters that have the budget already are not changed. -/
theorem write_of_all {rules : List ParameterRule} {parameters : Parameters}
    (all : ∀ rule ∈ rules, isOutputRule rule = true →
      parameters.get rule.name = some maxTokens) :
    writeMaxTokens rules maxTokens parameters = parameters := by
  induction rules with
  | nil => rfl
  | cons rule rest ih =>
    obtain ⟨here, later⟩ := List.forall_mem_cons.mp all
    have kept : (if isOutputRule rule then parameters.set rule.name maxTokens else parameters) =
        parameters := by
      split
      · rename_i output
        exact Dict.set_get (here output)
      · rfl
    have round : writeMaxTokens (rule :: rest) maxTokens parameters =
        writeMaxTokens rest maxTokens
          (if isOutputRule rule then parameters.set rule.name maxTokens else parameters) := rfl
    rw [round, kept, ih later]

/-- The budget that was set is requested. -/
theorem read_write {rules : List ParameterRule} {rule : ParameterRule} (listed : rule ∈ rules)
    (output : isOutputRule rule = true) (nonzero : maxTokens ≠ 0) (parameters : Parameters) :
    readMaxTokens rules (writeMaxTokens rules maxTokens parameters) = maxTokens := by
  have some : rules.filter isOutputRule ≠ [] :=
    List.ne_nil_of_mem (List.mem_filter.mpr ⟨listed, output⟩)
  obtain ⟨last, found⟩ := Option.isSome_iff_exists.mp (List.getLast?_isSome.mpr some)
  obtain ⟨lastListed, lastOutput⟩ := List.mem_filter.mp (List.mem_of_getLast? found)
  rw [readMaxTokens_eq, found, Option.map_some, Option.getD_some, requested,
    get_write_of_mem lastListed lastOutput, truthy_of_ne nonzero, Option.some_or,
    Option.getD_some]

end Write

section Recalc

variable {modelEntity : AIModelEntity} {modelContextTokens : ℤ}
  (known : modelEntity.contextSize = some modelContextTokens)
  (getNumTokensByGpt2 : List μ → Nat) (promptMessages : List μ)
include known

/-- The parameters after the function, for a model whose context size is known. -/
theorem recalc_eq (parameters : Parameters) :
    (recalcLlmMaxTokens getNumTokensByGpt2 modelEntity promptMessages parameters).2 =
      if modelContextTokens - getNumTokensByGpt2 promptMessages <
          readMaxTokens modelEntity.parameterRules parameters then
        writeMaxTokens modelEntity.parameterRules
          (max (modelContextTokens - getNumTokensByGpt2 promptMessages) 16) parameters
      else parameters := by
  simp only [recalcLlmMaxTokens, known]
  by_cases beyond : modelContextTokens - getNumTokensByGpt2 promptMessages <
      readMaxTokens modelEntity.parameterRules parameters
  · rw [if_pos beyond, if_pos (by omega)]
  · rw [if_neg beyond, if_neg (by omega)]

/-- Doing it twice is doing it once: the budget that was set is requested the second time. -/
theorem recalc_recalc (parameters : Parameters) :
    (recalcLlmMaxTokens getNumTokensByGpt2 modelEntity promptMessages
        (recalcLlmMaxTokens getNumTokensByGpt2 modelEntity promptMessages parameters).2).2 =
      (recalcLlmMaxTokens getNumTokensByGpt2 modelEntity promptMessages parameters).2 := by
  have first := recalc_eq known getNumTokensByGpt2 promptMessages parameters
  have second := recalc_eq known getNumTokensByGpt2 promptMessages
    (recalcLlmMaxTokens getNumTokensByGpt2 modelEntity promptMessages parameters).2
  rw [second]
  split at first
  · split
    · rw [first]
      apply write_of_all
      intro rule listed output
      exact get_write_of_mem listed output parameters
    · rfl
  · rename_i fits
    rw [first, if_neg fits]

/-- Where the budget respects the context, the last rule speaks for all. -/
theorem governed_of_respects {parameters : Parameters}
    (room : 0 ≤ modelContextTokens - (getNumTokensByGpt2 promptMessages : ℤ))
    (respects : Respects modelEntity.parameterRules
      (modelContextTokens - getNumTokensByGpt2 promptMessages) (fun parameters =>
        (recalcLlmMaxTokens getNumTokensByGpt2 modelEntity promptMessages parameters).2)
      parameters) :
    Governed modelEntity.parameterRules parameters
      (modelContextTokens - getNumTokensByGpt2 promptMessages) := by
  have changed := recalc_eq known getNumTokensByGpt2 promptMessages parameters
  constructor
  · intro large
    rw [lastExceeds_iff room]
    by_contra fits
    rw [if_neg fits] at changed
    have bounded := respects.bounded
    rw [changed] at bounded
    exact large bounded
  · intro fits exceeds
    have request := (lastExceeds_iff room).mp exceeds
    obtain ⟨last, found, -⟩ := exceeds
    rw [if_pos request, respects.unchanged room fits] at changed
    -- The last output-token rule has the budget already, so the budget is requested and fits.
    obtain ⟨listed, output⟩ := List.mem_filter.mp (List.mem_of_getLast? found)
    have budget : (writeMaxTokens modelEntity.parameterRules
        (max (modelContextTokens - (getNumTokensByGpt2 promptMessages : ℤ)) 16) parameters).get
          last.name =
            some (max (modelContextTokens - (getNumTokensByGpt2 promptMessages : ℤ)) 16) :=
      get_write_of_mem listed output parameters
    have reread : readMaxTokens modelEntity.parameterRules
        (writeMaxTokens modelEntity.parameterRules
          (max (modelContextTokens - (getNumTokensByGpt2 promptMessages : ℤ)) 16) parameters) =
            max (modelContextTokens - (getNumTokensByGpt2 promptMessages : ℤ)) 16 :=
      read_write listed output (by omega) parameters
    rw [← changed] at budget reread
    have small := fits last listed output _ budget
    omega

/-- Where the last rule speaks for all, the budget respects the context. -/
theorem respects_of_governed {parameters : Parameters}
    (request : 0 ≤ readMaxTokens modelEntity.parameterRules parameters)
    (condition : modelContextTokens < getNumTokensByGpt2 promptMessages ∨
      Governed modelEntity.parameterRules parameters
        (modelContextTokens - getNumTokensByGpt2 promptMessages)) :
    Respects modelEntity.parameterRules (modelContextTokens - getNumTokensByGpt2 promptMessages)
      (fun parameters =>
        (recalcLlmMaxTokens getNumTokensByGpt2 modelEntity promptMessages parameters).2)
      parameters := by
  have changed := recalc_eq known getNumTokensByGpt2 promptMessages parameters
  constructor
  · by_cases beyond : modelContextTokens - (getNumTokensByGpt2 promptMessages : ℤ) <
        readMaxTokens modelEntity.parameterRules parameters
    · rw [if_pos beyond] at changed
      intro rule listed output value has
      rw [changed, get_write_of_mem listed output] at has
      exact le_of_eq (Option.some.inj has).symm
    · rw [if_neg beyond] at changed
      by_contra large
      rw [changed] at large
      rcases condition with overrun | governed
      · omega
      · exact beyond ((lastExceeds_iff (by omega)).mp (governed.excess large))
  · intro name other
    simp only [changed]
    split
    · exact get_write_of_other other parameters
    · rfl
  · intro room fits
    have calm : ¬ modelContextTokens - (getNumTokensByGpt2 promptMessages : ℤ) <
        readMaxTokens modelEntity.parameterRules parameters := by
      rcases condition with overrun | governed
      · omega
      · rw [← lastExceeds_iff room]
        exact governed.calm fits
    rw [changed, if_neg calm]
  · exact recalc_recalc known getNumTokensByGpt2 promptMessages parameters

/-- The output budget respects the context window exactly when the prompt alone overruns it, or
the last output-token rule speaks for all: it exceeds what the prompt leaves where some parameter
has to be lowered, and it does not where all parameters fit. -/
theorem recalcLlmMaxTokens_respects_iff {parameters : Parameters}
    (natural : ∀ name value, parameters.get name = some value → 0 ≤ value) :
    Respects modelEntity.parameterRules (modelContextTokens - getNumTokensByGpt2 promptMessages)
        (fun parameters =>
          (recalcLlmMaxTokens getNumTokensByGpt2 modelEntity promptMessages parameters).2)
        parameters ↔
      modelContextTokens < getNumTokensByGpt2 promptMessages ∨
        Governed modelEntity.parameterRules parameters
          (modelContextTokens - getNumTokensByGpt2 promptMessages) := by
  constructor
  · intro respects
    by_cases overrun : modelContextTokens < getNumTokensByGpt2 promptMessages
    · exact Or.inl overrun
    · exact Or.inr (governed_of_respects known getNumTokensByGpt2 promptMessages (by omega)
        respects)
  · intro condition
    exact respects_of_governed known getNumTokensByGpt2 promptMessages
      (readMaxTokens_nonneg natural modelEntity.parameterRules) condition

end Recalc

/-- A model with one output-token rule, whose parameter is known by two names. -/
def completionModel : AIModelEntity :=
  ⟨some 100, [⟨"max_completion_tokens".toList, some "max_tokens".toList⟩]⟩

/-- Of a request of 80 tokens, the prompt leaves room for 60. -/
theorem recalcLlmMaxTokens_respects_iff_single :
    Respects completionModel.parameterRules (100 - ((40 : Nat) : ℤ))
        (fun parameters =>
          (recalcLlmMaxTokens (fun _ : List Unit => 40) completionModel [] parameters).2)
        (Dict.ofPairs [("max_completion_tokens".toList, 80)]) ↔
      (100 : ℤ) < ((40 : Nat) : ℤ) ∨
        Governed completionModel.parameterRules
          (Dict.ofPairs [("max_completion_tokens".toList, 80)]) (100 - ((40 : Nat) : ℤ)) := by
  have natural : ∀ name value, (Dict.ofPairs [("max_completion_tokens".toList, (80 : ℤ))]).get
      name = some value → 0 ≤ value := by
    intro name value has
    have listed : (name, value) ∈ [("max_completion_tokens".toList, (80 : ℤ))] :=
      Dict.get_eq_some.mp has
    obtain ⟨-, rfl⟩ := Prod.mk.inj (List.mem_singleton.mp listed)
    decide
  have known : completionModel.contextSize = some 100 := rfl
  exact recalcLlmMaxTokens_respects_iff known (fun _ : List Unit => 40) [] natural

/-- A model whose last output-token rule is not the one whose parameter is set. -/
def twoNamesModel : AIModelEntity :=
  ⟨some 50, [⟨"max_completion_tokens".toList, some "max_tokens".toList⟩,
    ⟨"max_tokens".toList, none⟩]⟩

/-- A request of 100 tokens is kept where the prompt leaves room for 30. -/
theorem recalcLlmMaxTokens_overruns :
    ¬ Respects twoNamesModel.parameterRules (50 - ((20 : Nat) : ℤ))
      (fun parameters =>
        (recalcLlmMaxTokens (fun _ : List Unit => 20) twoNamesModel [] parameters).2)
      (Dict.ofPairs [("max_completion_tokens".toList, 100)]) := by
  intro respects
  have bounded := respects.bounded _ List.mem_cons_self (by decide) 100 (by decide)
  exact absurd bounded (by decide)

end DifyPlugin.AgentStrategy
