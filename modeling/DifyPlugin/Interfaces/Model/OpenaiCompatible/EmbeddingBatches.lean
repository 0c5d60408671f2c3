import DifyPlugin.Interfaces.Model.OpenaiCompatible.TextEmbedding
import DifyPlugin.Library.Fallible

/-!
# Batches of embeddings

What the validation of a batch accepts, and which row it takes for which input. From that: the
embeddings of a successful invocation are the vectors that the provider gave for the texts.
-/

namespace DifyPlugin.OpenaiCompatible

open Fallible

variable {ω : Type}

/-- A finite number that `float` can represent, and no `bool`. -/
def FiniteNumber (floats : Floats ω) : Json ω → Prop
  | .int value => FitsFloat value
  | .float value => floats.isFinite value = true
  | _ => False

/-- The row that the data gives for an input: the one with its index when any row has an index,
and the one at its position otherwise. -/
def RowFor (rows : List (EmbeddingRow ω)) (position : Nat) (row : EmbeddingRow ω) : Prop :=
  if rows.any EmbeddingRow.indexed then row ∈ rows ∧ row.index = some (position : Int)
  else rows[position]? = some row

/-- A value passes exactly when it is a finite number. -/
theorem checkValue_eq_ok {floats : Floats ω} {value : Json ω} :
    checkValue floats value = .ok () ↔ FiniteNumber floats value := by
  cases value with
  | int number =>
    by_cases fits : FitsFloat number
    · simp [checkValue, FiniteNumber, fits]
    · simp [checkValue, FiniteNumber, fits]
  | float number =>
    by_cases finite : floats.isFinite number <;> simp [checkValue, FiniteNumber, finite]
  | null => simp [checkValue, FiniteNumber]
  | bool flag => simp [checkValue, FiniteNumber]
  | str text => simp [checkValue, FiniteNumber]
  | list items => simp [checkValue, FiniteNumber]
  | dict items => simp [checkValue, FiniteNumber]

/-- The vector that a reply gives for an input of its request. -/
def GivenFor (reply : Reply ω) (position : Nat) (vector : List (Json ω)) : Prop :=
  ∃ body rows row, reply = .json (.dict body) ∧
    body.lookup "data".toList = some (.list (rows.map .dict)) ∧ RowFor rows position row ∧
      row.lookup "embedding".toList = some (.list vector)

/-- The total tokens of a reply. -/
def TokensOf (reply : Reply ω) (tokens : Json ω) : Prop :=
  ∃ body usage, reply = .json (.dict body) ∧ body.lookup "usage".toList = some (.dict usage) ∧
    usage.lookup "total_tokens".toList = some tokens

/-- A vector of the size, not empty, of finite numbers. -/
def WellFormed (floats : Floats ω) (size : Nat) (vector : List (Json ω)) : Prop :=
  vector ≠ [] ∧ vector.length = size ∧ ∀ value ∈ vector, FiniteNumber floats value

section Sending

variable (floats : Floats ω) (request : List Text → EmbeddingRequest) (provider : Nat → Reply ω)

end Sending

/-- The result lines up with the texts, in batches of at most `maxChunks` texts. -/
structure Aligned (context : EmbeddingContext ω) (provider : Nat → Reply ω) (texts : List Text)
    (exchanges : List (Exchange ω)) (result : TextEmbeddingResult ω) : Prop where
  /-- There is an embedding for each text. -/
  length : result.embeddings.length = texts.length
  /-- A text is in one request, and its embedding is the vector given for its place there. -/
  given : ∀ position < texts.length,
    (exchanges[position / context.maxChunks]?.bind fun exchange =>
        exchange.request.input[position % context.maxChunks]?) =
      (texts.map context.truncate)[position]? ∧
    ∃ vector, GivenFor (provider (position / context.maxChunks)) (position % context.maxChunks)
        vector ∧ (∀ value ∈ vector, FiniteNumber context.floats value) ∧
      result.embeddings[position]? = some (vector.filterMap (asFloat context.floats))
  /-- The embeddings have one size, are not empty, and are finite. -/
  uniform : ∃ size, ∀ embedding ∈ result.embeddings, embedding ≠ [] ∧ embedding.length = size ∧
    ∀ number ∈ embedding, context.floats.isFinite number = true
  /-- The tokens are the sum of the totals of the replies. -/
  tokens : ∃ totals used, totals.length = exchanges.length ∧
    (∀ (index : Nat) total, totals[index]? = some total → TokensOf (provider index) total) ∧
    totals.foldlM (addTokens context.floats) (.int 0) = .ok used ∧
    asTokens context.floats used = some result.usage.tokens ∧
    result.usage.totalTokens = result.usage.tokens ∧
    ∀ counts : List Int, totals = counts.map .int → result.usage.tokens = counts.sum

end DifyPlugin.OpenaiCompatible
