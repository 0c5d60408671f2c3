import DifyPlugin.Library.Ranking
import DifyPlugin.Library.Str
import Mathlib.Algebra.Order.Field.Basic
import Mathlib.Algebra.Order.Field.Rat
import Mathlib.Tactic.Ring

/-!
# Reranking documents

`OAICompatRerankModel._invoke` sends the documents with the query, maps the relevance scores of
the response to the range from 0 to 1, and returns the documents that reach the threshold by
descending score. Scores are taken as exact.
-/

namespace DifyPlugin.OpenaiCompatible.Rerank

/-- The `document` of a result. -/
inductive ResultDocument where
  /-- A dictionary, by its `text`. -/
  | dict (text : Option Text)
  /-- A string. -/
  | str (text : Text)
  /-- No document, or of another type. -/
  | other
  deriving DecidableEq

/-- A result of the response. -/
structure RerankItem where
  /-- `index`. -/
  index : ℤ
  /-- `relevance_score`. -/
  relevanceScore : ℚ
  /-- `document`. -/
  document : ResultDocument := .other
  deriving DecidableEq

/-- `RerankDocument`. -/
structure RerankDocument where
  /-- The index of the document. -/
  index : ℤ
  /-- The text of the document. -/
  text : Text
  /-- The normalized score. -/
  score : ℚ
  deriving DecidableEq

/-- `RerankResult`. -/
structure RerankResult where
  /-- The name of the model. -/
  model : Text
  /-- The ranked documents. -/
  docs : List RerankDocument
  deriving DecidableEq

/-- The credentials that are read. -/
structure Credentials where
  /-- `endpoint_url`. -/
  endpointUrl : Option Text
  /-- `api_key`. -/
  apiKey : Option Text := none
  /-- `endpoint_model_name`. -/
  endpointModelName : Option Text := none

/-- The request that is posted to `rerank` below the URL of the server. -/
structure RerankRequest where
  /-- The URL of the server. -/
  serverUrl : Text
  /-- The key after `Bearer` in the `Authorization` header. -/
  authorization : Option Text
  /-- `model`. -/
  model : Text
  /-- `query`. -/
  query : Text
  /-- `documents`. -/
  documents : List Text
  /-- `top_n`. -/
  topN : Option ℤ
  /-- `return_documents`. -/
  returnDocuments : Bool := true

/-- The exceptions of an invocation. -/
inductive RerankError where
  /-- `KeyError`, of the credentials. -/
  | key (name : Text)
  /-- `CredentialsValidateFailedError` with its message. -/
  | credentials (message : Text)
  /-- `InvokeServerUnavailableError` with the message of the `HTTPError`. -/
  | serverUnavailable (message : Text)
  /-- `ValueError`, of `min` without scores. -/
  | noScores
  /-- `IndexError`, of an index that no document has. -/
  | index
  deriving DecidableEq

/-- `docs[index]`, where a negative index counts from the end. -/
def docAt (docs : List Text) (index : ℤ) : Option Text :=
  if 0 ≤ index then docs[index.toNat]?
  else if -(docs.length : ℤ) ≤ index then docs[(docs.length + index).toNat]?
  else none

/-- `max_score - min_score if max_score != min_score else 1.0`. -/
def scoreRange (minScore maxScore : ℚ) : ℚ :=
  if maxScore ≠ minScore then maxScore - minScore else 1

/-- The score of a result on the scale from 0 to 1. -/
def normalizedScore (minScore maxScore relevanceScore : ℚ) : ℚ :=
  (relevanceScore - minScore) / scoreRange minScore maxScore

/-- The text of a result; `original` is the text of the document with its index. -/
def ResultDocument.text (original : Text) : ResultDocument → Text
  | .dict text => text.getD original
  | .str text => if text.isEmpty then original else text
  | .other => original

/-- The document that a round of the loop builds. -/
def rerankDocument (docs : List Text) (minScore maxScore : ℚ) (result : RerankItem) :
    Except RerankError RerankDocument :=
  match docAt docs result.index with
  | some original => .ok ⟨result.index, result.document.text original,
      normalizedScore minScore maxScore result.relevanceScore⟩
  | none => .error .index

/-- `score_threshold is None or normalized_score >= score_threshold`. -/
def reaches (scoreThreshold : Option ℚ) (doc : RerankDocument) : Bool :=
  match scoreThreshold with
  | none => true
  | some threshold => decide (threshold ≤ doc.score)

/-- What is made of the results of the response. -/
def rerankDocuments (docs : List Text) (results : List RerankItem) (scoreThreshold : Option ℚ) :
    Except RerankError (List RerankDocument) :=
  let scores := results.map RerankItem.relevanceScore
  match scores.min?, scores.max? with
  | some minScore, some maxScore => do
    let built ← results.mapM (rerankDocument docs minScore maxScore)
    .ok (Ranking.rank RerankDocument.score (built.filter (reaches scoreThreshold)))
  | _, _ => .error .noScores

/-- The request for the documents. -/
def rerankRequest (model : Text) (credentials : Credentials) (query : Text) (docs : List Text)
    (topN : Option ℤ) (serverUrl : Text) : RerankRequest where
  serverUrl := serverUrl
  authorization := credentials.apiKey.filter fun key => !key.isEmpty
  model := credentials.endpointModelName.getD model
  query := query
  documents := docs
  topN := topN

/-- `OAICompatRerankModel._invoke`; `post` answers with the results of the response, or with the
message of an `HTTPError`. -/
def invoke (post : RerankRequest → Except Text (List RerankItem)) (model : Text)
    (credentials : Credentials) (query : Text) (docs : List Text)
    (scoreThreshold : Option ℚ := none) (topN : Option ℤ := none) :
    Except RerankError RerankResult :=
  if docs.isEmpty then .ok ⟨model, []⟩
  else
    match credentials.endpointUrl with
    | none => .error (.key "endpoint_url".toList)
    | some serverUrl =>
      if serverUrl.isEmpty then .error (.credentials "server_url is required".toList)
      else if model.isEmpty then .error (.credentials "model_name is required".toList)
      else
        match post (rerankRequest model credentials query docs topN serverUrl) with
        | .error message => .error (.serverUnavailable message)
        | .ok results => do
          let ranked ← rerankDocuments docs results scoreThreshold
          .ok ⟨model, ranked⟩

/-- A position in the documents, counted from the start or from the end. -/
def ValidIndex (docs : List Text) (index : ℤ) : Prop :=
  -(docs.length : ℤ) ≤ index ∧ index < docs.length

/-- The request is sent, and answered with these results. -/
def Answered (post : RerankRequest → Except Text (List RerankItem)) (model : Text)
    (credentials : Credentials) (query : Text) (docs : List Text) (topN : Option ℤ)
    (results : List RerankItem) : Prop :=
  model ≠ [] ∧ ∃ serverUrl, credentials.endpointUrl = some serverUrl ∧ serverUrl ≠ [] ∧
    post (rerankRequest model credentials query docs topN serverUrl) = .ok results

/-- The document of a result with this score. -/
def documentOf (docs : List Text) (score : ℚ) (result : RerankItem) : RerankDocument :=
  ⟨result.index, result.document.text ((docAt docs result.index).getD []), score⟩

/-- What is promised of the ranked documents of a response: `score` is how its results are
scored and `all` is returned without a threshold, whatever `scoreThreshold` is; `returned` is
returned with it. -/
structure Ranks (docs : List Text) (results : List RerankItem) (scoreThreshold : Option ℚ)
    (score : RerankItem → ℚ) (all returned : List RerankDocument) : Prop where
  /-- The scores are on the scale from 0 to 1. -/
  bounded : ∀ result ∈ results, 0 ≤ score result ∧ score result ≤ 1
  /-- The scores order the results as the relevance does. -/
  ordered : ∀ left ∈ results, ∀ right ∈ results,
    score left < score right ↔ left.relevanceScore < right.relevanceScore
  /-- The most relevant results have score 1, unless all are equally relevant. -/
  maximum : ∀ result ∈ results,
    (∀ other ∈ results, other.relevanceScore ≤ result.relevanceScore) →
    (∃ other ∈ results, other.relevanceScore ≠ result.relevanceScore) → score result = 1
  /-- The least relevant results have score 0. -/
  minimum : ∀ result ∈ results,
    (∀ other ∈ results, result.relevanceScore ≤ other.relevanceScore) → score result = 0
  /-- Without a threshold every result is returned, as often as in the response. -/
  whole : all.Perm (results.map fun result => documentOf docs (score result) result)
  /-- The scores of the returned documents do not rise. -/
  sorted : Ranking.Descending RerankDocument.score returned
  /-- The documents that reach the threshold are returned, each as often as in the response. -/
  complete : returned.Perm ((results.map fun result =>
    documentOf docs (score result) result).filter (reaches scoreThreshold))
  /-- Documents of one score keep the order of the response. -/
  ties : Ranking.SameTies RerankDocument.score returned ((results.map fun result =>
    documentOf docs (score result) result).filter (reaches scoreThreshold))
  /-- A threshold cuts off the end of the list. -/
  cut : returned <+: all

/-- A valid index has a document. -/
theorem docAt_valid {docs : List Text} {index : ℤ} (valid : ValidIndex docs index) :
    ∃ original, docAt docs index = some original := by
  rw [docAt]
  split
  · have inside : index.toNat < docs.length := by
      have below := valid.2
      omega
    exact ⟨_, List.getElem?_eq_getElem inside⟩
  · have inside : (docs.length + index).toNat < docs.length := by
      have bounds := valid.1
      omega
    rw [if_pos valid.1]
    exact ⟨_, List.getElem?_eq_getElem inside⟩

section Scores

variable {minScore maxScore : ℚ} (spread : minScore ≤ maxScore)
include spread

/-- The scale is positive. -/
theorem scoreRange_pos : 0 < scoreRange minScore maxScore := by
  rw [scoreRange]
  split
  · rename_i different
    exact sub_pos.mpr (lt_of_le_of_ne spread (Ne.symm different))
  · exact one_pos

/-- Normalizing keeps the order. -/
theorem normalizedScore_lt {left right : ℚ} :
    normalizedScore minScore maxScore left < normalizedScore minScore maxScore right ↔
      left < right := by
  rw [normalizedScore, normalizedScore, div_lt_div_iff_of_pos_right (scoreRange_pos spread),
    sub_lt_sub_iff_right]

/-- Normalized scores are on the scale from 0 to 1. -/
theorem normalizedScore_bounds {score : ℚ} (above : minScore ≤ score) (below : score ≤ maxScore) :
    0 ≤ normalizedScore minScore maxScore score ∧
      normalizedScore minScore maxScore score ≤ 1 := by
  have positive := scoreRange_pos spread
  constructor
  · exact div_nonneg (sub_nonneg.mpr above) positive.le
  · rw [normalizedScore, div_le_one positive, scoreRange]
    split
    · exact sub_le_sub_right below minScore
    · rename_i same
      rw [not_not] at same
      rw [same] at below
      exact (sub_nonpos.mpr below).trans zero_le_one

end Scores

/-- The least score becomes 0. -/
theorem normalizedScore_min (minScore maxScore : ℚ) :
    normalizedScore minScore maxScore minScore = 0 := by
  rw [normalizedScore, sub_self, zero_div]

/-- The greatest score becomes 1, unless it is the least. -/
theorem normalizedScore_max {minScore maxScore : ℚ} (different : maxScore ≠ minScore) :
    normalizedScore minScore maxScore maxScore = 1 := by
  rw [normalizedScore, scoreRange, if_pos different]
  exact div_self (sub_ne_zero.mpr different)

/-- Results with valid indices are all made into documents. -/
theorem mapM_rerankDocument {docs : List Text} {results : List RerankItem}
    (valid : ∀ result ∈ results, ValidIndex docs result.index) (minScore maxScore : ℚ) :
    results.mapM (rerankDocument docs minScore maxScore) =
      .ok (results.map fun result =>
        documentOf docs (normalizedScore minScore maxScore result.relevanceScore) result) := by
  induction results with
  | nil => rfl
  | cons result rest ih =>
    obtain ⟨here, later⟩ := List.forall_mem_cons.mp valid
    obtain ⟨original, found⟩ := docAt_valid here
    have made : rerankDocument docs minScore maxScore result =
        .ok (documentOf docs (normalizedScore minScore maxScore result.relevanceScore)
          result) := by
      rw [rerankDocument, documentOf, found]
      rfl
    rw [List.mapM_cons, made, ih later]
    rfl

/-- What is returned with a threshold is the start of what is returned without one. -/
theorem rank_reaches_prefix (docs : List RerankDocument) (scoreThreshold : Option ℚ) :
    Ranking.rank RerankDocument.score (docs.filter (reaches scoreThreshold)) <+:
      Ranking.rank RerankDocument.score docs := by
  rw [Ranking.rank_filter]
  cases scoreThreshold with
  | none => exact List.filter_eq_self.mpr (fun _ _ => rfl) ▸ List.prefix_rfl
  | some threshold => exact (Ranking.rank_descending _ docs).filter_first threshold

/-- An answered request returns what is made of the results. -/
theorem invoke_answered {post : RerankRequest → Except Text (List RerankItem)} {model : Text}
    {credentials : Credentials} {query : Text} {docs : List Text} {topN : Option ℤ}
    {results : List RerankItem}
    (answered : Answered post model credentials query docs topN results) (documents : docs ≠ [])
    (scoreThreshold : Option ℚ) {ranked : List RerankDocument}
    (made : rerankDocuments docs results scoreThreshold = .ok ranked) :
    invoke post model credentials query docs scoreThreshold topN = .ok ⟨model, ranked⟩ := by
  obtain ⟨named, serverUrl, url, visible, posted⟩ := answered
  simp only [invoke, List.isEmpty_iff, if_neg documents, url, if_neg visible, if_neg named,
    posted, made]
  rfl

/-- The extreme scores of a response with results. -/
theorem extremes {results : List RerankItem} (nonempty : results ≠ []) :
    ∃ minScore maxScore, (results.map RerankItem.relevanceScore).min? = some minScore ∧
      (results.map RerankItem.relevanceScore).max? = some maxScore ∧
      (∃ result ∈ results, result.relevanceScore = minScore) ∧
      (∃ result ∈ results, result.relevanceScore = maxScore) ∧
      ∀ result ∈ results, minScore ≤ result.relevanceScore ∧ result.relevanceScore ≤ maxScore := by
  have scores : results.map RerankItem.relevanceScore ≠ [] := by simpa using nonempty
  obtain ⟨minScore, least⟩ := Option.isSome_iff_exists.mp (List.isSome_min?_of_ne_nil scores)
  obtain ⟨maxScore, greatest⟩ := Option.isSome_iff_exists.mp (List.isSome_max?_of_ne_nil scores)
  obtain ⟨minListed, below⟩ := List.min?_eq_some_iff.mp least
  obtain ⟨maxListed, above⟩ := List.max?_eq_some_iff.mp greatest
  refine ⟨minScore, maxScore, least, greatest, List.mem_map.mp minListed,
    List.mem_map.mp maxListed, fun result listed => ?_⟩
  have score := List.mem_map_of_mem (f := RerankItem.relevanceScore) listed
  exact ⟨below _ score, above _ score⟩

/-- The ranked documents of every response with valid indices keep the order of relevance, on
the scale from 0 to 1; a threshold keeps the documents that reach it, which come first. -/
theorem invoke_ranks {post : RerankRequest → Except Text (List RerankItem)} {model : Text}
    {credentials : Credentials} {query : Text} {docs : List Text} {topN : Option ℤ}
    {results : List RerankItem}
    (answered : Answered post model credentials query docs topN results)
    (nonempty : results ≠ []) (valid : ∀ result ∈ results, ValidIndex docs result.index) :
    ∃ score all,
      invoke post model credentials query docs none topN = .ok ⟨model, all⟩ ∧
        ∀ scoreThreshold, ∃ returned,
          invoke post model credentials query docs scoreThreshold topN = .ok ⟨model, returned⟩ ∧
            Ranks docs results scoreThreshold score all returned := by
  obtain ⟨minScore, maxScore, least, greatest, ⟨low, lowListed, lowScore⟩,
    ⟨high, highListed, highScore⟩, within⟩ := extremes nonempty
  have spread : minScore ≤ maxScore := highScore ▸ (within high highListed).1
  have documents : docs ≠ [] := by
    rintro rfl
    have bounds := valid low lowListed
    rw [ValidIndex, List.length_nil] at bounds
    omega
  let score (result : RerankItem) := normalizedScore minScore maxScore result.relevanceScore
  let built := results.map fun result => documentOf docs (score result) result
  have made (threshold : Option ℚ) : rerankDocuments docs results threshold =
      .ok (Ranking.rank RerankDocument.score (built.filter (reaches threshold))) := by
    simp only [rerankDocuments, least, greatest, mapM_rerankDocument valid]
    rfl
  have unfiltered : built.filter (reaches none) = built := List.filter_eq_self.mpr fun _ _ => rfl
  refine ⟨score, _, invoke_answered answered documents none (made none), fun scoreThreshold =>
    ⟨_, invoke_answered answered documents scoreThreshold (made scoreThreshold), ?_⟩⟩
  constructor
  · intro result listed
    exact normalizedScore_bounds spread (within result listed).1 (within result listed).2
  · intro left _ right _
    exact normalizedScore_lt spread
  · intro result listed top ⟨other, otherListed, different⟩
    have greatestScore : result.relevanceScore = maxScore :=
      le_antisymm (within result listed).2 (highScore ▸ top high highListed)
    have apart : maxScore ≠ minScore := by
      intro same
      have bounds := within other otherListed
      have equal : other.relevanceScore = maxScore := le_antisymm bounds.2 (same ▸ bounds.1)
      exact different (equal.trans greatestScore.symm)
    show normalizedScore minScore maxScore result.relevanceScore = 1
    rw [greatestScore]
    exact normalizedScore_max apart
  · intro result listed bottom
    have leastScore : result.relevanceScore = minScore :=
      le_antisymm (lowScore ▸ bottom low lowListed) (within result listed).1
    show normalizedScore minScore maxScore result.relevanceScore = 0
    rw [leastScore]
    exact normalizedScore_min minScore maxScore
  · rw [unfiltered]
    exact Ranking.rank_perm _ built
  · exact Ranking.rank_descending _ _
  · exact Ranking.rank_perm _ _
  · exact Ranking.rank_sameTies _ _
  · rw [unfiltered]
    exact rank_reaches_prefix built scoreThreshold

/-- Three results, two of them equally relevant. -/
def threeResults : List RerankItem :=
  [⟨2, -2, .dict (some "other".toList)⟩, ⟨0, -4, .str []⟩, ⟨-2, -2, .other⟩]

/-- The documents they rank. -/
def threeDocs : List Text := ["zero".toList, "one".toList, "two".toList]

/-- Where the results come from. -/
def threeServer : Credentials := ⟨some "http://server".toList, none, none⟩

/-- Three results: with a threshold of a half the two most relevant ones are returned, both with
score 1, and all three without a threshold. -/
theorem invoke_ranks_three :
    ∃ score all returned,
      invoke (fun _ => .ok threeResults) "model".toList threeServer "query".toList threeDocs
          none none = .ok ⟨"model".toList, all⟩ ∧
        invoke (fun _ => .ok threeResults) "model".toList threeServer "query".toList threeDocs
          (some (1 / 2)) none = .ok ⟨"model".toList, returned⟩ ∧
        Ranks threeDocs threeResults (some (1 / 2)) score all returned ∧
        all.length = 3 ∧ returned.length = 2 := by
  have answered : Answered (fun _ => .ok threeResults) "model".toList threeServer
      "query".toList threeDocs none threeResults :=
    ⟨by decide, "http://server".toList, rfl, by decide, rfl⟩
  have valid : ∀ result ∈ threeResults, ValidIndex threeDocs result.index := by
    simp [threeResults, threeDocs, ValidIndex]
  obtain ⟨score, all, unlimited, limited⟩ :=
    invoke_ranks answered (List.cons_ne_nil _ _) valid
  obtain ⟨returned, cut, ranks⟩ := limited (some (1 / 2))
  refine ⟨score, all, returned, unlimited, cut, ranks, ranks.whole.length_eq, ?_⟩
  -- The two results of greatest relevance have score 1, the other one has score 0.
  have first : score ⟨2, -2, .dict (some "other".toList)⟩ = 1 := by
    apply ranks.maximum <;> decide
  have second : score ⟨0, -4, .str []⟩ = 0 := by
    apply ranks.minimum <;> decide
  have third : score ⟨-2, -2, .other⟩ = 1 := by
    apply ranks.maximum <;> decide
  rw [ranks.complete.length_eq]
  simp only [threeResults, List.map_cons, List.map_nil, first, second, third]
  norm_num [reaches, documentOf]

end DifyPlugin.OpenaiCompatible.Rerank
