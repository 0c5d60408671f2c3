import Mathlib.Data.List.Sort
import DifyPlugin.Interfaces.Model.OpenaiCompatible.StreamResponse
import DifyPlugin.Library.Batches
import DifyPlugin.Library.Json

/-!
# Text embeddings

`OAICompatEmbeddingModel._invoke` cuts texts that are too long, sends them in batches, checks
each response with `_validate_embedding_batch`, and joins the vectors. The provider is any
sequence of replies. Each request is kept with the dimension that was known and with what was
made of its reply.
-/

namespace DifyPlugin.OpenaiCompatible

/-- The exceptions of an invocation. -/
inductive EmbeddingError where
  /-- `ValueError` with its message. -/
  | value (message : Text)
  /-- `OverflowError`, of `math.isfinite`. -/
  | overflow
  /-- The request failed, or its reply has not the keys that are read. -/
  | response
  /-- The tokens cannot be added, priced or validated. -/
  | usage
  deriving DecidableEq

variable {ω : Type}

/-- An object of the data, by its items. -/
abbrev EmbeddingRow (ω : Type) : Type := List (Text × Json ω)

/-- `row.get("index")`, when it is of type `int`. -/
def EmbeddingRow.index (row : EmbeddingRow ω) : Option Int :=
  match row.lookup "index".toList with
  | some (.int value) => some value
  | _ => none

/-- `itemgetter("index")`, of a row whose index is an integer. -/
def EmbeddingRow.sortKey (row : EmbeddingRow ω) : Int := row.index.getD 0

/-- `"index" in row`. -/
def EmbeddingRow.indexed (row : EmbeddingRow ω) : Bool := (row.lookup "index".toList).isSome

/-- The items of an object. -/
def asDict : Json ω → Option (EmbeddingRow ω)
  | .dict items => some items
  | _ => none

/-- The rows in the order of the inputs. -/
def sortRows (rows : List (EmbeddingRow ω)) (count : Nat) :
    Except EmbeddingError (List (EmbeddingRow ω)) :=
  if rows.any EmbeddingRow.indexed then
    match rows.mapM EmbeddingRow.index with
    | some indices =>
      if indices.insertionSort (· ≤ ·) = (List.range count).map Int.ofNat then
        .ok (rows.insertionSort fun left right => left.sortKey ≤ right.sortKey)
      else .error (.value "Embedding indices must cover every input exactly once".toList)
    | none => .error (.value "Embedding indices must cover every input exactly once".toList)
  else .ok rows

/-- The check of a value of a vector. -/
def checkValue (floats : Floats ω) (value : Json ω) : Except EmbeddingError Unit :=
  let invalid : Except EmbeddingError Unit :=
    .error (.value "Embedding vectors must contain finite numeric values".toList)
  match value with
  | .int number => if FitsFloat number then .ok () else .error .overflow
  | .float number => if floats.isFinite number then .ok () else invalid
  | _ => invalid

/-- The checks of a row, with the dimension that is known. -/
def validateVector (floats : Floats ω) (dimension : Option Nat) (row : EmbeddingRow ω) :
    Except EmbeddingError (List (Json ω)) :=
  match row.lookup "embedding".toList with
  | some (.list vector) =>
    if vector.isEmpty then
      .error (.value "Embedding vectors must be nonempty arrays".toList)
    else if vector.length ≠ dimension.getD vector.length then
      .error (.value
        "Embedding vectors must have consistent dimensions across batches".toList)
    else do
      forM vector (checkValue floats)
      .ok vector
  | _ => .error (.value "Embedding vectors must be nonempty arrays".toList)

/-- The loop over the rows. -/
def validateVectors (floats : Floats ω) :
    Option Nat → List (EmbeddingRow ω) → Except EmbeddingError (List (List (Json ω)))
  | _, [] => .ok []
  | dimension, row :: rest => do
    let vector ← validateVector floats dimension row
    let vectors ← validateVectors floats (some vector.length) rest
    .ok (vector :: vectors)

/-- `_validate_embedding_batch`. -/
def validateEmbeddingBatch (floats : Floats ω) (data : Json ω) (count : Nat)
    (dimension : Option Nat) : Except EmbeddingError (List (List (Json ω))) :=
  match data with
  | .list items =>
    if items.length ≠ count then
      .error (.value "Embedding response must contain one vector per input".toList)
    else
      match items.mapM asDict with
      | none => .error (.value "Embedding response entries must be objects".toList)
      | some rows => do
        let sorted ← sortRows rows count
        validateVectors floats dimension sorted
  | _ => .error (.value "Embedding response must contain one vector per input".toList)

/-- The credentials that are read. -/
structure EmbeddingCredentials where
  /-- `api_key`. -/
  apiKey : Option Text
  /-- `endpoint_url`. -/
  endpointUrl : Option Text
  /-- `endpoint_model_name`. -/
  endpointModelName : Option Text

/-- A request. -/
structure EmbeddingRequest where
  /-- The URL. -/
  url : Text
  /-- The header `Authorization`. -/
  authorization : Option Text
  /-- `input`. -/
  input : List Text
  /-- `model`. -/
  model : Text
  /-- `user`. -/
  user : Option Text
  /-- `encoding_format`. -/
  encodingFormat : Text

/-- What the invocation takes from its model. -/
structure EmbeddingContext (ω : Type) where
  /-- The floating-point numbers. -/
  floats : Floats ω
  /-- `urllib.parse.urljoin`. -/
  urljoin : Text → Text → Text
  /-- `_get_num_tokens_by_gpt2`. -/
  getNumTokensByGpt2 : Text → Nat
  /-- `_get_context_size`. -/
  contextSize : Nat
  /-- `_get_max_chunks`. -/
  maxChunks : Nat
  /-- `get_price` of the input tokens, which may raise. -/
  getPrice : Json ω → Option PriceInfo
  /-- Seconds since the invocation started, when the usage is calculated. -/
  latency : Rat
  /-- The context size is positive. -/
  contextPositive : 0 < contextSize
  /-- A batch has room for a text. -/
  chunksPositive : 0 < maxChunks

/-- `EmbeddingUsage`. -/
structure EmbeddingUsage where
  /-- `tokens`. -/
  tokens : Int
  /-- `total_tokens`. -/
  totalTokens : Int
  /-- `unit_price`. -/
  unitPrice : Rat
  /-- `price_unit`. -/
  priceUnit : Rat
  /-- `total_price`. -/
  totalPrice : Rat
  /-- `currency`. -/
  currency : Text
  /-- `latency`. -/
  latency : Rat

/-- `TextEmbeddingResult`. -/
structure TextEmbeddingResult (ω : Type) where
  /-- `model`. -/
  model : Text
  /-- `embeddings`. -/
  embeddings : List (List ω)
  /-- `usage`. -/
  usage : EmbeddingUsage

/-- A reply of the provider. -/
inductive Reply (ω : Type) where
  /-- The request raises, the status is an error, or the body is no JSON. -/
  | failed
  /-- The decoded body. -/
  | json (body : Json ω)

/-- A request that was sent, with the dimension known before and what was made of the reply. -/
structure Exchange (ω : Type) where
  /-- The request. -/
  request : EmbeddingRequest
  /-- `dimension`. -/
  dimension : Option Nat
  /-- `embeddings_batch` and `embedding_used_tokens`. -/
  answer : Except EmbeddingError (List (List (Json ω)) × Json ω)

/-- `used_tokens += tokens`, for numbers; anything else raises. -/
def addTokens (floats : Floats ω) : Json ω → Json ω → Except EmbeddingError (Json ω)
  | .int used, .int tokens => .ok (.int (used + tokens))
  | .int used, .bool tokens => .ok (.int (used + if tokens then 1 else 0))
  | .int used, .float tokens =>
    if FitsFloat used then .ok (.float (floats.add (floats.ofInt used) tokens))
    else .error .overflow
  | .float used, .int tokens =>
    if FitsFloat tokens then .ok (.float (floats.add used (floats.ofInt tokens)))
    else .error .overflow
  | .float used, .bool tokens =>
    .ok (.float (floats.add used (floats.ofInt (if tokens then 1 else 0))))
  | .float used, .float tokens => .ok (.float (floats.add used tokens))
  | _, _ => .error .usage

/-- `response_data["data"]` checked, and `response_data["usage"]["total_tokens"]`. -/
def readReply (floats : Floats ω) (count : Nat) (dimension : Option Nat) :
    Reply ω → Except EmbeddingError (List (List (Json ω)) × Json ω)
  | .json (.dict body) =>
    match body.lookup "data".toList with
    | none => .error .response
    | some data => do
      let vectors ← validateEmbeddingBatch floats data count dimension
      match body.lookup "usage".toList with
      | some (.dict usage) =>
        match usage.lookup "total_tokens".toList with
        | some tokens => .ok (vectors, tokens)
        | none => .error .response
      | _ => .error .response
  | _ => .error .response

/-- The start of a text that has too many tokens. -/
def EmbeddingContext.truncate (context : EmbeddingContext ω) (text : Text) : Text :=
  let numTokens := context.getNumTokensByGpt2 text
  if context.contextSize ≤ numTokens then
    text.take (text.length * context.contextSize / numTokens)
  else text

/-- The request of a batch. -/
def EmbeddingContext.request (context : EmbeddingContext ω) (model : Text)
    (credentials : EmbeddingCredentials) (user : Option Text) (input : List Text) :
    EmbeddingRequest where
  url := context.urljoin
    ((credentials.endpointUrl.getD []).rdropWhile (· == '/') ++ "/".toList) "embeddings".toList
  authorization := (credentials.apiKey.filter (· ≠ [])).map ("Bearer ".toList ++ ·)
  input := input
  model := credentials.endpointModelName.getD model
  user := user.filter (· ≠ [])
  encodingFormat := "float".toList

/-- The local variables of the loop. -/
structure EmbeddingState (ω : Type) where
  /-- `dimension`. -/
  dimension : Option Nat
  /-- `used_tokens`. -/
  usedTokens : Json ω
  /-- `batched_embeddings`. -/
  batchedEmbeddings : List (List (Json ω))

/-- The loop over the batches; `number` counts the requests that were sent before. -/
def sendBatches (floats : Floats ω) (request : List Text → EmbeddingRequest)
    (provider : Nat → Reply ω) :
    Nat → EmbeddingState ω → List (List Text) →
      List (Exchange ω) × Except EmbeddingError (EmbeddingState ω)
  | _, state, [] => ([], .ok state)
  | number, state, batch :: rest =>
    let answer := readReply floats batch.length state.dimension (provider number)
    let exchange : Exchange ω := ⟨request batch, state.dimension, answer⟩
    match answer with
    | .error error => ([exchange], .error error)
    | .ok (vectors, tokens) =>
      match addTokens floats state.usedTokens tokens with
      | .error error => ([exchange], .error error)
      | .ok usedTokens =>
        let (exchanges, outcome) := sendBatches floats request provider (number + 1)
          ⟨vectors.head?.map List.length, usedTokens, state.batchedEmbeddings ++ vectors⟩ rest
        (exchange :: exchanges, outcome)

/-- A value of a vector, as the result has it. -/
def asFloat (floats : Floats ω) : Json ω → Option ω
  | .int number => some (floats.ofInt number)
  | .float number => some number
  | _ => none

/-- The tokens, as the usage has them. -/
def asTokens (floats : Floats ω) : Json ω → Option Int
  | .int number => some number
  | .float number => floats.toInt number
  | _ => none

/-- `_calc_response_usage`. -/
def EmbeddingContext.calcResponseUsage (context : EmbeddingContext ω) (tokens : Json ω) :
    Except EmbeddingError EmbeddingUsage :=
  match context.getPrice tokens, asTokens context.floats tokens with
  | some price, some count => .ok
      { tokens := count
        totalTokens := count
        unitPrice := price.unitPrice
        priceUnit := price.unit
        totalPrice := price.totalAmount
        currency := price.currency
        latency := context.latency }
  | _, _ => .error .usage

/-- `OAICompatEmbeddingModel._invoke`: the requests with their replies, and the outcome. -/
def EmbeddingContext.invoke (context : EmbeddingContext ω) (provider : Nat → Reply ω)
    (model : Text) (credentials : EmbeddingCredentials) (texts : List Text)
    (user : Option Text) : List (Exchange ω) × Except EmbeddingError (TextEmbeddingResult ω) :=
  let inputs := texts.map context.truncate
  let (exchanges, outcome) :=
    sendBatches context.floats (context.request model credentials user) provider 0
      ⟨none, .int 0, []⟩ (batches context.maxChunks inputs)
  (exchanges, do
    let state ← outcome
    let usage ← context.calcResponseUsage state.usedTokens
    .ok
      { model := model
        embeddings := state.batchedEmbeddings.map fun vector =>
          vector.filterMap (asFloat context.floats)
        usage := usage })

end DifyPlugin.OpenaiCompatible
