import DifyPlugin.Interfaces.Model.OpenaiCompatible.StreamResponse
import DifyPlugin.Library.Decimal

/-!
# Prices of a model

`AIModel.get_price` multiplies tokens, unit price and unit in the decimal context, which keeps 28
digits, and rounds half up to seven places. `_calc_response_usage` adds the prices of prompt and
completion. More tokens never cost less, and the prices are as exact as the rounding allows.
-/

namespace DifyPlugin.AiModel

open Decimals
open OpenaiCompatible (PriceType)

/-- `PriceConfig`. -/
structure PriceConfig where
  /-- `input`. -/
  input : Decimal
  /-- `output`. -/
  output : Option Decimal := none
  /-- `unit`. -/
  unit : Decimal
  /-- `currency`. -/
  currency : Text

/-- The fields of `AIModelEntity` that models are found and priced by. -/
structure AIModelEntity where
  /-- `model`. -/
  model : Text
  /-- `model_type`. -/
  modelType : Text
  /-- `pricing`. -/
  pricing : Option PriceConfig := none

/-- `PriceInfo`. -/
structure PriceInfo where
  /-- `unit_price`. -/
  unitPrice : Decimal
  /-- `unit`. -/
  unit : Decimal
  /-- `total_amount`. -/
  totalAmount : Decimal
  /-- `currency`. -/
  currency : Text

/-- An `AIModel`, by where its schemas come from. -/
structure AIModel where
  /-- `model_schemas`. -/
  modelSchemas : List AIModelEntity
  /-- `get_customizable_model_schema_from_credentials`, when there are credentials. -/
  customizable : Option (Text → Option AIModelEntity) := none

/-- `AIModel.__init__`: the schemas of the type of the model. -/
def AIModel.init (modelType : Text) (modelSchemas : List AIModelEntity) : AIModel where
  modelSchemas := modelSchemas.filter fun schema => schema.modelType = modelType

/-- `get_model_schema`; of predefined models with one name the last one counts. -/
def AIModel.getModelSchema (self : AIModel) (model : Text) : Option AIModelEntity :=
  match self.modelSchemas.reverse.find? fun schema => schema.model = model with
  | some schema => some schema
  | none => self.customizable.bind fun find => find model

/-- The digits of the decimal context. -/
def contextPrecision : Nat := 28

/-- `decimal.Decimal("0.0")`. -/
def zero : Decimal := ⟨0, -1⟩

/-- `unit_price`. -/
def unitPrice (priceConfig : PriceConfig) : PriceType → Option Decimal
  | .input => some priceConfig.input
  | .output => priceConfig.output

/-- The total amount, before it is rounded to seven places. -/
def rawAmount (tokens : Int) (unitPrice unit : Decimal) : Decimal :=
  mul contextPrecision (mul contextPrecision (.ofInt tokens) unitPrice) unit

/-- `get_price`; `none` for `decimal.InvalidOperation`. -/
def AIModel.getPrice (self : AIModel) (model : Text) (priceType : PriceType) (tokens : Int) :
    Option PriceInfo :=
  match (self.getModelSchema model).bind AIModelEntity.pricing with
  | none => some ⟨zero, zero, zero, "USD".toList⟩
  | some priceConfig =>
    match unitPrice priceConfig priceType with
    | none => some ⟨zero, zero, zero, "USD".toList⟩
    | some unitPrice =>
      (quantize contextPrecision (rawAmount tokens unitPrice priceConfig.unit) (-7)).map
        fun totalAmount => ⟨unitPrice, priceConfig.unit, totalAmount, priceConfig.currency⟩

/-- The usage that `_calc_response_usage` makes of both prices. -/
def transformUsage (latency : Rat) (promptTokens completionTokens : Int)
    (promptPriceInfo completionPriceInfo : PriceInfo) : LLMUsage where
  promptTokens
  promptUnitPrice := promptPriceInfo.unitPrice.value
  promptPriceUnit := promptPriceInfo.unit.value
  promptPrice := promptPriceInfo.totalAmount.value
  completionTokens
  completionUnitPrice := completionPriceInfo.unitPrice.value
  completionPriceUnit := completionPriceInfo.unit.value
  completionPrice := completionPriceInfo.totalAmount.value
  totalTokens := promptTokens + completionTokens
  totalPrice := (add contextPrecision promptPriceInfo.totalAmount
    completionPriceInfo.totalAmount).value
  currency := promptPriceInfo.currency
  latency

/-- `_calc_response_usage`. -/
def AIModel.calcResponseUsage (self : AIModel) (model : Text) (latency : Rat)
    (promptTokens completionTokens : Int) : Option LLMUsage := do
  let promptPriceInfo ← self.getPrice model .input promptTokens
  let completionPriceInfo ← self.getPrice model .output completionTokens
  some (transformUsage latency promptTokens completionTokens promptPriceInfo completionPriceInfo)

/-- No price or unit is negative. -/
structure PriceConfig.Nonneg (priceConfig : PriceConfig) : Prop where
  /-- The price of the prompt. -/
  input : priceConfig.input.Nonneg
  /-- The price of the completion. -/
  output : ∀ price ∈ priceConfig.output, price.Nonneg
  /-- The unit. -/
  unit : priceConfig.unit.Nonneg

/-- What `get_price` should give: tokens times unit price times unit. -/
def PriceInfo.exactAmount (info : PriceInfo) (tokens : Int) : ℚ :=
  tokens * info.unitPrice.value * info.unit.value

section Amounts

variable {tokens more : Int} {unitPrice unit : Decimal}

/-- A number of tokens is not negative. -/
theorem nonneg_ofInt (nonneg : 0 ≤ tokens) : (Decimal.ofInt tokens).Nonneg := nonneg

/-- The amount is not negative, and close to the exact one. -/
theorem rawAmount_near (nonneg : 0 ≤ tokens) (price : unitPrice.Nonneg) (scale : unit.Nonneg) :
    (rawAmount tokens unitPrice unit).Nonneg ∧
      |(rawAmount tokens unitPrice unit).value - tokens * unitPrice.value * unit.value| ≤
        tokens * unitPrice.value * unit.value * (11 / 10 ^ 28) := by
  obtain ⟨first, inner⟩ := mul_roundsTo (by decide : 0 < contextPrecision) (nonneg_ofInt nonneg)
    price
  obtain ⟨second, outer⟩ := mul_roundsTo (by decide : 0 < contextPrecision) inner scale
  refine ⟨outer, ?_⟩
  rw [value_ofInt] at first
  have factor : (10 : ℚ) ^ (1 - (contextPrecision : ℤ)) = 10 / 10 ^ 28 := by
    norm_num [contextPrecision]
  have inexact := first.error
  have twice := second.error
  rw [factor, abs_le] at inexact twice
  have scaled := scale.value
  have base : (0 : ℚ) ≤ tokens * unitPrice.value := by
    have whole : (0 : ℚ) ≤ tokens := by exact_mod_cast nonneg
    exact mul_nonneg whole price.value
  have exact := mul_nonneg base scaled
  have lower := mul_le_mul_of_nonneg_right inexact.1 scaled
  have upper := mul_le_mul_of_nonneg_right inexact.2 scaled
  rw [rawAmount, abs_le]
  constructor <;> linarith

/-- More tokens do not make the amount smaller. -/
theorem rawAmount_mono (nonneg : 0 ≤ tokens) (le : tokens ≤ more) (price : unitPrice.Nonneg)
    (scale : unit.Nonneg) :
    (rawAmount tokens unitPrice unit).value ≤ (rawAmount more unitPrice unit).value := by
  have positive : 0 < contextPrecision := by decide
  obtain ⟨few, fewInner⟩ := mul_roundsTo positive (nonneg_ofInt nonneg) price
  obtain ⟨many, manyInner⟩ := mul_roundsTo positive (nonneg_ofInt (nonneg.trans le)) price
  rw [value_ofInt] at few many
  have counted : (tokens : ℚ) * unitPrice.value ≤ more * unitPrice.value :=
    mul_le_mul_of_nonneg_right (by exact_mod_cast le) price.value
  have inner := few.mono positive many counted
  have outer := mul_le_mul_of_nonneg_right inner scale.value
  exact (mul_roundsTo positive fewInner scale).1.mono positive
    (mul_roundsTo positive manyInner scale).1 outer

end Amounts

section Prices

variable {self : AIModel} {model : Text} {priceType : PriceType} {tokens more : Int}
  {info more' : PriceInfo}

/-- No price of a schema is negative. -/
def AIModelEntity.Priced (schema : AIModelEntity) : Prop :=
  ∀ priceConfig ∈ schema.pricing, priceConfig.Nonneg

/-- No price is negative. -/
structure AIModel.Priced (aiModel : AIModel) : Prop where
  /-- Not of a predefined model. -/
  predefined : ∀ schema ∈ aiModel.modelSchemas, schema.Priced
  /-- Not of a customizable model. -/
  customizable : ∀ find ∈ aiModel.customizable, ∀ model schema, find model = some schema →
    schema.Priced

/-- The prices that are charged are not negative. -/
theorem AIModel.Priced.nonneg (priced : self.Priced) {priceConfig : PriceConfig}
    (found : (self.getModelSchema model).bind AIModelEntity.pricing = some priceConfig) :
    priceConfig.Nonneg := by
  rw [Option.bind_eq_some_iff] at found
  obtain ⟨schema, chosen, config⟩ := found
  rw [AIModel.getModelSchema] at chosen
  split at chosen
  · rename_i listed
    obtain rfl := Option.some.inj chosen
    have member := List.mem_reverse.mp (List.mem_of_find?_eq_some listed)
    exact priced.predefined _ member priceConfig config
  · rw [Option.bind_eq_some_iff] at chosen
    obtain ⟨find, custom, made⟩ := chosen
    exact priced.customizable find custom model schema made priceConfig config

/-- A price is a rounded amount, or zero without a unit price. -/
theorem getPrice_cases (found : self.getPrice model priceType tokens = some info) :
    (info = ⟨zero, zero, zero, "USD".toList⟩ ∧ ∀ tokens,
      self.getPrice model priceType tokens = some ⟨zero, zero, zero, "USD".toList⟩) ∨
    ∃ priceConfig price, (self.getModelSchema model).bind AIModelEntity.pricing = some priceConfig ∧
      unitPrice priceConfig priceType = some price ∧
      quantize contextPrecision (rawAmount tokens price priceConfig.unit) (-7) =
        some info.totalAmount ∧
      info = ⟨price, priceConfig.unit, info.totalAmount, priceConfig.currency⟩ ∧
      ∀ tokens, self.getPrice model priceType tokens =
        (quantize contextPrecision (rawAmount tokens price priceConfig.unit) (-7)).map
          fun totalAmount => ⟨price, priceConfig.unit, totalAmount, priceConfig.currency⟩ := by
  cases priced : (self.getModelSchema model).bind AIModelEntity.pricing with
  | none =>
    have same : ∀ tokens, self.getPrice model priceType tokens =
        some ⟨zero, zero, zero, "USD".toList⟩ := by
      intro tokens
      rw [AIModel.getPrice, priced]
    rw [same] at found
    exact Or.inl ⟨(Option.some.inj found).symm, same⟩
  | some priceConfig =>
    cases charged : unitPrice priceConfig priceType with
    | none =>
      have same : ∀ tokens, self.getPrice model priceType tokens =
          some ⟨zero, zero, zero, "USD".toList⟩ := by
        intro tokens
        simp only [AIModel.getPrice, priced, charged]
      rw [same] at found
      exact Or.inl ⟨(Option.some.inj found).symm, same⟩
    | some price =>
      have same : ∀ tokens, self.getPrice model priceType tokens =
          (quantize contextPrecision (rawAmount tokens price priceConfig.unit) (-7)).map
            fun totalAmount => ⟨price, priceConfig.unit, totalAmount, priceConfig.currency⟩ := by
        intro tokens
        simp only [AIModel.getPrice, priced, charged]
      rw [same, Option.map_eq_some_iff] at found
      obtain ⟨totalAmount, rounded, rfl⟩ := found
      exact Or.inr ⟨priceConfig, price, rfl, charged, rounded, rfl, same⟩

/-- The unit price is not negative. -/
theorem PriceConfig.Nonneg.unitPrice {priceConfig : PriceConfig} (nonneg : priceConfig.Nonneg)
    {price : Decimal} (charged : unitPrice priceConfig priceType = some price) : price.Nonneg := by
  cases priceType with
  | input => exact Option.some.inj charged ▸ nonneg.input
  | output => exact nonneg.output price charged

/-- A price is a whole number of the seventh place, close to the exact amount. -/
theorem getPrice_near (priced : self.Priced) (nonneg : 0 ≤ tokens)
    (found : self.getPrice model priceType tokens = some info) :
    info.totalAmount.Nonneg ∧ 0 ≤ info.exactAmount tokens ∧
      |info.totalAmount.value - info.exactAmount tokens| ≤
        1 / 2 / 10 ^ 7 + info.exactAmount tokens * (11 / 10 ^ 28) := by
  rcases getPrice_cases found with
    ⟨rfl, -⟩ | ⟨priceConfig, price, config, charged, rounded, same, -⟩
  · have none : zero.value = 0 := by simp [zero, Decimal.value]
    refine ⟨by simp [zero, Decimal.Nonneg], ?_, ?_⟩
    · simp [PriceInfo.exactAmount, none]
    · have exact : PriceInfo.exactAmount ⟨zero, zero, zero, "USD".toList⟩ tokens = 0 := by
        simp [PriceInfo.exactAmount, none]
      rw [exact, none, sub_zero, abs_zero]
      norm_num
  · have valid := priced.nonneg config
    obtain ⟨raw, near⟩ := rawAmount_near nonneg (valid.unitPrice charged) valid.unit
    obtain ⟨amount, -, half⟩ := quantize_some (by decide) raw rounded
    have exact : info.exactAmount tokens = tokens * price.value * priceConfig.unit.value := by
      rw [PriceInfo.exactAmount, same]
    refine ⟨amount, ?_, ?_⟩
    · rw [exact]
      have whole : (0 : ℚ) ≤ tokens := by exact_mod_cast nonneg
      exact mul_nonneg (mul_nonneg whole (valid.unitPrice charged).value) valid.unit.value
    · rw [exact]
      have place : (10 : ℚ) ^ (-7 : ℤ) / 2 = 1 / 2 / 10 ^ 7 := by norm_num
      rw [place, abs_le] at half
      rw [abs_le] at near ⊢
      constructor <;> linarith

/-- More tokens do not cost less, and a price is only refused when larger ones are. -/
theorem getPrice_mono (priced : self.Priced) (nonneg : 0 ≤ tokens) (le : tokens ≤ more)
    (found : self.getPrice model priceType more = some more') :
    ∃ info, self.getPrice model priceType tokens = some info ∧
      info.totalAmount.value ≤ more'.totalAmount.value ∧
      more' = { info with totalAmount := more'.totalAmount } := by
  rcases getPrice_cases found with
    ⟨rfl, all⟩ | ⟨priceConfig, price, config, charged, rounded, same, all⟩
  · exact ⟨_, all tokens, le_rfl, rfl⟩
  · have valid := priced.nonneg config
    have cost := valid.unitPrice charged
    obtain ⟨raw, -⟩ := rawAmount_near nonneg cost valid.unit
    obtain ⟨raw', -⟩ := rawAmount_near (nonneg.trans le) cost valid.unit
    obtain ⟨smaller, taken, below⟩ := quantize_mono (by decide) raw raw'
      (rawAmount_mono nonneg le cost valid.unit) rounded
    refine ⟨⟨price, priceConfig.unit, smaller, priceConfig.currency⟩, ?_, below, same⟩
    rw [all, taken]
    rfl

end Prices

/-- What the usage should charge for: both kinds of tokens at their unit prices. -/
def exactPrice (usage : LLMUsage) : ℚ :=
  usage.promptTokens * usage.promptUnitPrice * usage.promptPriceUnit +
    usage.completionTokens * usage.completionUnitPrice * usage.completionPriceUnit

/-- The total price is close to the exact one, and more tokens never make it, or one of its parts,
smaller: it is refused only when some price of more tokens is. -/
theorem calcResponseUsage_fair (self : AIModel) (priced : self.Priced) (model : Text)
    (latency : Rat) {promptTokens completionTokens : Int} (prompt : 0 ≤ promptTokens)
    (completion : 0 ≤ completionTokens) :
    (∀ usage, self.calcResponseUsage model latency promptTokens completionTokens = some usage →
      |usage.totalPrice - exactPrice usage| ≤ 2 / 10 ^ 7 + exactPrice usage * (2 / 10 ^ 27)) ∧
    ∀ morePrompt moreCompletion more, promptTokens ≤ morePrompt →
      completionTokens ≤ moreCompletion →
      self.calcResponseUsage model latency morePrompt moreCompletion = some more →
      ∃ usage, self.calcResponseUsage model latency promptTokens completionTokens = some usage ∧
        usage.promptPrice ≤ more.promptPrice ∧ usage.completionPrice ≤ more.completionPrice ∧
        usage.totalPrice ≤ more.totalPrice := by
  have positive : 0 < contextPrecision := by decide
  constructor
  · intro usage found
    simp only [AIModel.calcResponseUsage, Option.bind_eq_bind, Option.bind_eq_some_iff] at found
    obtain ⟨input, one, output, two, made⟩ := found
    obtain rfl := Option.some.inj made
    obtain ⟨nonneg, exact, near⟩ := getPrice_near priced prompt one
    obtain ⟨nonneg', exact', near'⟩ := getPrice_near priced completion two
    have error := (add_roundsTo positive nonneg nonneg').1.error
    have factor : (10 : ℚ) ^ (1 - (contextPrecision : ℤ)) = 10 / 10 ^ 28 := by
      norm_num [contextPrecision]
    rw [factor] at error
    change |(add contextPrecision input.totalAmount output.totalAmount).value -
      (input.exactAmount promptTokens + output.exactAmount completionTokens)| ≤
        2 / 10 ^ 7 + (input.exactAmount promptTokens + output.exactAmount completionTokens) *
          (2 / 10 ^ 27)
    rw [abs_le] at near near' error ⊢
    constructor <;> linarith
  · intro morePrompt moreCompletion more le le' found
    simp only [AIModel.calcResponseUsage, Option.bind_eq_bind, Option.bind_eq_some_iff] at found
    obtain ⟨input, one, output, two, made⟩ := found
    obtain rfl := Option.some.inj made
    obtain ⟨smaller, first, below, -⟩ := getPrice_mono priced prompt le one
    obtain ⟨smaller', second, below', -⟩ := getPrice_mono priced completion le' two
    have few := add_roundsTo positive (getPrice_near priced prompt first).1
      (getPrice_near priced completion second).1
    have many := add_roundsTo positive (getPrice_near priced (prompt.trans le) one).1
      (getPrice_near priced (completion.trans le') two).1
    refine ⟨transformUsage latency promptTokens completionTokens smaller smaller', ?_, below,
      below', few.1.mono positive many.1 (add_le_add below below')⟩
    rw [AIModel.calcResponseUsage, first, second]
    rfl

/-- A model at 0.15 and 0.6 for a million tokens. -/
def pricedModel : AIModelEntity where
  model := "small".toList
  modelType := "llm".toList
  pricing := some
    { input := ⟨15, -2⟩, output := some ⟨6, -1⟩, unit := ⟨1, -6⟩, currency := "USD".toList }

/-- The model class that has it. -/
def pricedModels : AIModel := .init "llm".toList [pricedModel]

/-- Three tokens cost 0.0000005, half a place rounded up, and the price is close to the exact one
and below that of more tokens. -/
theorem calcResponseUsage_fair_small :
    ∃ usage more, pricedModels.calcResponseUsage "small".toList 0 3 5 = some usage ∧
      pricedModels.calcResponseUsage "small".toList 0 4 5 = some more ∧
      usage.promptPrice = 5 * (10 : ℚ) ^ (-7 : ℤ) ∧
      |usage.totalPrice - exactPrice usage| ≤ 2 / 10 ^ 7 + exactPrice usage * (2 / 10 ^ 27) ∧
      usage.totalPrice ≤ more.totalPrice := by
  have priced : pricedModels.Priced := by
    refine ⟨?_, fun find custom => absurd custom (by simp [pricedModels, AIModel.init])⟩
    intro schema listed
    obtain rfl := List.mem_singleton.mp listed
    rintro _ ⟨⟩
    refine ⟨by decide, ?_, by decide⟩
    rintro _ ⟨⟩
    decide
  have few : pricedModels.calcResponseUsage "small".toList 0 3 5 = some (transformUsage 0 3 5
      ⟨⟨15, -2⟩, ⟨1, -6⟩, ⟨5, -7⟩, "USD".toList⟩ ⟨⟨6, -1⟩, ⟨1, -6⟩, ⟨30, -7⟩, "USD".toList⟩) := by
    rfl
  have many : pricedModels.calcResponseUsage "small".toList 0 4 5 = some (transformUsage 0 4 5
      ⟨⟨15, -2⟩, ⟨1, -6⟩, ⟨6, -7⟩, "USD".toList⟩ ⟨⟨6, -1⟩, ⟨1, -6⟩, ⟨30, -7⟩, "USD".toList⟩) := by
    rfl
  obtain ⟨near, mono⟩ := calcResponseUsage_fair pricedModels priced "small".toList 0
    (by decide : (0 : Int) ≤ 3) (by decide : (0 : Int) ≤ 5)
  obtain ⟨usage, found, -, -, below⟩ := mono 4 5 _ (by decide) (by decide) many
  obtain rfl := Option.some.inj (few.symm.trans found)
  exact ⟨_, _, few, many, by simp [transformUsage, Decimal.value], near _ few, below⟩

end DifyPlugin.AiModel
