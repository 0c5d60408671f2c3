import DifyPlugin.Core.Runtime.HttpInvocation
import DifyPlugin.Interfaces.Model.TtsModel
import DifyPlugin.Library.Dict
import DifyPlugin.Library.Encoding
import DifyPlugin.Library.Generator
import DifyPlugin.Library.Json
import DifyPlugin.Library.Statement

/-!
# Speech

`OAICompatText2SpeechModel._invoke` posts one request for each sentence of a text and yields the
audio of its answer, `PluginExecutor.invoke_tts` sends every chunk in hexadecimal digits, and
`TTSInvocation.invoke` of another plugin reads them back. The provider and the consumer are
functions of the log, so that each may fail or stop at any position.
-/

namespace DifyPlugin.Speech

open Decoding Encoding TtsModel

/-- The properties of a model schema that are read. -/
structure ModelProperties where
  /-- `ModelPropertyKey.AUDIO_TYPE`. -/
  audioType : Option Text
  /-- `ModelPropertyKey.WORD_LIMIT`. -/
  wordLimit : Option ℤ

/-- A request to a provider. -/
structure SpeechRequest where
  /-- The URL. -/
  url : Text
  /-- The header `Authorization`. -/
  authorization : Option Text
  /-- `model`. -/
  model : Text
  /-- `input`. -/
  input : Text
  /-- `voice`. -/
  voice : Text
  /-- `response_format`. -/
  responseFormat : Option Text
  deriving DecidableEq

/-- What a provider does with a request. -/
inductive Answer where
  /-- `requests.post` raises. -/
  | failed
  /-- The status is another one than 200; `text` is the body. -/
  | refused (text : Text)
  /-- The status is 200; `iter_content` brings the chunks, and then raises or not. -/
  | speech (chunks : List Bytes) (broken : Bool)
  deriving DecidableEq

/-- Why an invocation raises. -/
inductive Failure where
  /-- The word limit is negative. -/
  | wordLimit
  /-- `requests.post` raised. -/
  | request
  /-- `InvokeBadRequestError`. -/
  | badRequest (text : Text)
  /-- `iter_content` raised. -/
  | read
  /-- The consumer closed the generator, or raised something there. -/
  | abandoned
  deriving DecidableEq

/-- What happens during an invocation. -/
inductive Entry where
  /-- A request is sent. -/
  | posted (request : SpeechRequest)
  /-- Audio is yielded. -/
  | yielded (chunk : Bytes)
  /-- The response is closed. -/
  | closed
  deriving DecidableEq

/-- The provider and the consumer, by the log so far. -/
structure Environment where
  /-- `requests.post`. -/
  answer : List Entry → SpeechRequest → Answer
  /-- The consumer asks for the next chunk. -/
  consumer : List Entry → Bool

section Provider

variable (environment : Environment)

/-- `yield chunk`. -/
def yieldChunk (chunk : Bytes) : Statement Entry Failure :=
  (Statement.record (.yielded chunk)).andThen fun log =>
    ⟨log, if environment.consumer log then none else some .abandoned⟩

/-- The loop over `response.iter_content`. -/
def yieldChunks : List Bytes → Statement Entry Failure
  | [] => Statement.outcome none
  | chunk :: rest =>
    if chunk = [] then yieldChunks rest
    else (yieldChunk environment chunk).andThen (yieldChunks rest)

/-- What `with requests.post(…) as response` does with an answer. -/
def readAnswer : Answer → Statement Entry Failure
  | .failed => Statement.outcome (some .request)
  | .refused text =>
    (Statement.outcome (some (.badRequest text))).tryFinally (Statement.record .closed)
  | .speech chunks broken =>
    ((yieldChunks environment chunks).andThen
      (Statement.outcome (if broken then some .read else none))).tryFinally
      (Statement.record .closed)

/-- The request for one sentence is sent and answered. -/
def speak (request : SpeechRequest) : Statement Entry Failure :=
  (Statement.record (.posted request)).andThen fun log =>
    readAnswer environment (environment.answer log request) log

/-- The loop over the sentences. -/
def speakAll : List SpeechRequest → Statement Entry Failure
  | [] => Statement.outcome none
  | request :: rest => (speak environment request).andThen (speakAll rest)

/-- `urljoin(f"{endpoint_url.rstrip('/')}/", path)`; `urljoin` is a function of the library. -/
def joinEndpointUrl (urljoin : Text → Text → Text) (endpointUrl path : Text) : Text :=
  urljoin (endpointUrl.rdropWhile (· = '/') ++ ['/']) path

/-- The request for a sentence. -/
def speechRequest (urljoin : Text → Text → Text) (credentials : Dict Text Text)
    (properties : ModelProperties) (model voice sentence : Text) : SpeechRequest where
  url := joinEndpointUrl urljoin ((credentials.get "endpoint_url".toList).getD [])
    "audio/speech".toList
  authorization :=
    match credentials.get "api_key".toList with
    | none | some [] => none
    | some apiKey => some ("Bearer ".toList ++ apiKey)
  model := (credentials.get "endpoint_model_name".toList).getD model
  input := sentence
  voice := voice
  responseFormat := properties.audioType

/-- `word_limit or 2000`. -/
def maxLength (properties : ModelProperties) : ℤ :=
  match properties.wordLimit with
  | none | some 0 => 2000
  | some wordLimit => wordLimit

/-- `OAICompatText2SpeechModel._invoke`. -/
def invoke (sentenceEnd : SentenceEnd) (urljoin : Text → Text → Text)
    (credentials : Dict Text Text) (properties : ModelProperties) (model contentText voice : Text) :
    Statement Entry Failure :=
  match splitTextIntoSentences sentenceEnd contentText (maxLength properties) with
  | .error _ => Statement.outcome (some .wordLimit)
  | .ok sentences =>
    speakAll environment
      (sentences.map (speechRequest urljoin credentials properties model voice))

end Provider

/-- `_MIME_TYPE_BY_AUDIO_TYPE`. -/
def mimeTypeByAudioType : List (Text × Text) := [
  ("mp3".toList, "audio/mpeg".toList),
  ("wav".toList, "audio/wav".toList),
  ("ogg".toList, "audio/ogg".toList),
  ("aac".toList, "audio/aac".toList),
  ("mp4".toList, "audio/mp4".toList)]

/-- `get_tts_model_mime_type`. -/
def getTtsModelMimeType (properties : ModelProperties) : Option Text :=
  properties.audioType.bind fun audioType => mimeTypeByAudioType.lookup audioType

section Transport

variable {ω : Type}

/-- What `PluginExecutor.invoke_tts` yields for a chunk. -/
def ttsFrame (properties : ModelProperties) (chunk : Bytes) : List (Text × Json ω) :=
  ("result".toList, .str (hexlify chunk)) ::
    match getTtsModelMimeType properties with
    | none => []
    | some mimeType => [("mime_type".toList, .str mimeType)]

/-- `TTSResult`. -/
structure TTSResult where
  /-- `result`. -/
  result : Text
  /-- `mime_type`. -/
  mimeType : Option Text
  deriving DecidableEq

/-- `TTSResult(**data)`. -/
def ttsResult (data : List (Text × Json ω)) : Option TTSResult :=
  match data.lookup "result".toList, data.lookup "mime_type".toList with
  | some (.str result), none | some (.str result), some .null => some ⟨result, none⟩
  | some (.str result), some (.str mimeType) => some ⟨result, some mimeType⟩
  | _, _ => none

/-- `TTSInvocation.invoke` over the results of the backwards invocation; `none` stands for the
exception of `unhexlify`. -/
def ttsInvocation : List TTSResult → Generated Bytes Unit
  | [] => Generated.finished
  | data :: rest =>
    match unhexlify data.result with
    | none => Generated.raise ()
    | some chunk => Generated.yield chunk (ttsInvocation rest)

end Transport

/-- One request with its answer, and what was yielded of it. -/
structure Turn where
  /-- The request. -/
  request : SpeechRequest
  /-- The answer. -/
  answer : Answer
  /-- The chunks that were yielded. -/
  chunks : List Bytes

/-- The audio of an answer. -/
def Answer.audio : Answer → List Bytes
  | .speech chunks _ => chunks.filter (· ≠ [])
  | _ => []

/-- The entries of a turn: the response is closed before anything else happens. -/
def Turn.entries (turn : Turn) : List Entry :=
  .posted turn.request :: turn.chunks.map Entry.yielded ++
    if turn.answer = .failed then [] else [.closed]

/-- The whole answer was yielded. -/
structure Turn.Complete (turn : Turn) : Prop where
  /-- The answer is whole. -/
  whole : ∃ chunks, turn.answer = .speech chunks false
  /-- Its audio was yielded. -/
  yielded : turn.chunks = turn.answer.audio

/-- How the answer to a request stops an invocation, when it was given at this log: the request
fails, the status is refused, the audio breaks off behind its last chunk, or the consumer leaves at
a chunk. -/
inductive Answer.Stops (environment : Environment) (log : List Entry) :
    Answer → List Bytes → Failure → Prop where
  /-- `requests.post` raises. -/
  | request : Stops environment log .failed [] .request
  /-- The status is another one than 200. -/
  | badRequest (text : Text) : Stops environment log (.refused text) [] (.badRequest text)
  /-- `iter_content` raises, and all its chunks were yielded. -/
  | read (chunks : List Bytes) :
    Stops environment log (.speech chunks true) (chunks.filter (· ≠ [])) .read
  /-- The consumer leaves at the last of the chunks. -/
  | abandoned (chunks values : List Bytes) (broken : Bool) (visible : values ≠ [])
    (part : values <+: chunks.filter (· ≠ []))
    (leaves : environment.consumer (log ++ values.map Entry.yielded) = false) :
    Stops environment log (.speech chunks broken) values .abandoned

/-- The turns of an invocation that begins at this log: one after another for the requests in
order, each with the answer that the provider gives at its place in the log, and all of them
complete, except for the last one when the invocation raises. -/
inductive Spoken (environment : Environment) :
    List Entry → List SpeechRequest → List Turn → Option Failure → Prop where
  /-- No sentence is left. -/
  | finish (log : List Entry) : Spoken environment log [] [] none
  /-- The turn raises. -/
  | cut {log : List Entry} {turn : Turn} (rest : List SpeechRequest) {failure : Failure}
    (answered :
      turn.answer = environment.answer (log ++ [.posted turn.request]) turn.request)
    (stops :
      turn.answer.Stops environment (log ++ [.posted turn.request]) turn.chunks failure) :
    Spoken environment log (turn.request :: rest) [turn] (some failure)
  /-- The turn is complete. -/
  | next {log : List Entry} {turn : Turn} {rest : List SpeechRequest} {turns : List Turn}
    {raised : Option Failure}
    (answered :
      turn.answer = environment.answer (log ++ [.posted turn.request]) turn.request)
    (complete : turn.Complete)
    (later : Spoken environment (log ++ turn.entries) rest turns raised) :
    Spoken environment log (turn.request :: rest) (turn :: turns) raised

section Speaking

variable {environment : Environment}

/-- A chunk is yielded. -/
theorem logs_yieldChunk (chunk : Bytes) (log : List Entry) :
    (yieldChunk environment chunk).LogsAt log fun added raised =>
      added = [.yielded chunk] ∧ ∀ failure, raised = some failure →
        failure = .abandoned ∧ environment.consumer (log ++ [.yielded chunk]) = false := by
  refine ⟨[.yielded chunk], rfl, rfl, fun failure left => ?_⟩
  by_cases asks : environment.consumer (log ++ [.yielded chunk]) = true
  · exact absurd left (by simp [yieldChunk, Statement.andThen, Statement.record, asks])
  · refine ⟨?_, Bool.eq_false_of_not_eq_true asks⟩
    simpa [yieldChunk, Statement.andThen, Statement.record, asks] using left.symm

/-- The chunks that are not empty are yielded, up to the one at which the consumer leaves. -/
theorem logs_yieldChunks (chunks : List Bytes) (log : List Entry) :
    (yieldChunks environment chunks).LogsAt log fun added raised => ∃ values : List Bytes,
      added = values.map Entry.yielded ∧ values <+: chunks.filter (· ≠ []) ∧
        (raised = none → values = chunks.filter (· ≠ [])) ∧
        ∀ failure, raised = some failure → failure = .abandoned ∧ values ≠ [] ∧
          environment.consumer (log ++ values.map Entry.yielded) = false := by
  induction chunks generalizing log with
  | nil => exact Statement.LogsAt.outcome ⟨[], rfl, List.nil_prefix, fun _ => rfl, by simp⟩
  | cons chunk rest ih =>
    rw [yieldChunks]
    by_cases blank : chunk = []
    · rw [if_pos blank]
      simpa [blank] using ih log
    · have kept : (chunk :: rest).filter (· ≠ []) = chunk :: rest.filter (· ≠ []) := by
        simp [blank]
      rw [if_neg blank, kept]
      apply Statement.LogsAt.andThen (logs_yieldChunk chunk log)
      · rintro added error ⟨rfl, leaves⟩
        obtain ⟨abandoned, left⟩ := leaves error rfl
        refine ⟨[chunk], rfl, by simp, by simp, ?_⟩
        rintro failure same
        obtain rfl := Option.some.inj same
        exact ⟨abandoned, by simp, left⟩
      · rintro added ⟨rfl, -⟩
        obtain ⟨more, appended, values, rfl, part, all, leaves⟩ := ih (log ++ [.yielded chunk])
        refine ⟨values.map Entry.yielded, appended, chunk :: values, rfl, by simpa using part,
          ?_, ?_⟩
        · intro completes
          rw [all completes]
        · intro failure stopped
          obtain ⟨abandoned, -, left⟩ := leaves failure stopped
          refine ⟨abandoned, by simp, ?_⟩
          rwa [List.append_assoc] at left

/-- The provider and the consumer let an invocation come to its end. -/
structure Environment.Willing (environment : Environment) : Prop where
  /-- Every answer is whole. -/
  speaks : ∀ log request, ∃ chunks, environment.answer log request = .speech chunks false
  /-- The consumer never leaves. -/
  listens : ∀ log, environment.consumer log = true

/-- What is yielded of an answer is its audio, and all of it unless the answer or the consumer
stops the invocation. -/
theorem logs_readAnswer (environment : Environment) (answer : Answer) (log : List Entry) :
    (readAnswer environment answer).LogsAt log fun added raised => ∃ values : List Bytes,
      added = values.map Entry.yielded ++ (if answer = .failed then [] else [.closed]) ∧
        (raised = none → values = answer.audio ∧ ∃ chunks, answer = .speech chunks false) ∧
        ∀ failure, raised = some failure → answer.Stops environment log values failure := by
  cases answer with
  | failed =>
    refine Statement.LogsAt.outcome ⟨[], rfl, by simp, ?_⟩
    intro failure same
    obtain rfl := Option.some.inj same
    exact .request
  | refused text =>
    apply Statement.LogsAt.tryFinally ((Statement.logs_outcome _).atLog log)
      (Statement.logs_record _)
    rintro added more raised failed ⟨rfl, rfl⟩ ⟨rfl, rfl⟩
    refine ⟨[], rfl, by simp, ?_⟩
    intro failure same
    obtain rfl := Option.some.inj same
    exact .badRequest text
  | speech chunks broken =>
    have body : (Statement.andThen (yieldChunks environment chunks)
        (Statement.outcome (if broken then some .read else none))).LogsAt log fun added raised =>
          ∃ values : List Bytes, added = values.map Entry.yielded ∧
            (raised = none → values = chunks.filter (· ≠ []) ∧ broken = false) ∧
            ∀ failure, raised = some failure →
              (Answer.speech chunks broken).Stops environment log values failure := by
      apply Statement.LogsAt.andThen (logs_yieldChunks chunks log)
      · rintro added error ⟨values, rfl, part, -, leaves⟩
        obtain ⟨rfl, visible, left⟩ := leaves error rfl
        refine ⟨values, rfl, by simp, ?_⟩
        intro failure same
        obtain rfl := Option.some.inj same
        exact .abandoned chunks values broken visible part left
      · rintro added ⟨values, rfl, -, all, -⟩
        obtain rfl := all rfl
        refine Statement.LogsAt.outcome
          ⟨chunks.filter (· ≠ []), List.append_nil _, by cases broken <;> simp, ?_⟩
        intro failure stopped
        cases broken with
        | false => exact absurd stopped (by simp)
        | true =>
          obtain rfl := Option.some.inj stopped
          exact .read chunks
    apply Statement.LogsAt.tryFinally body (Statement.logs_record _)
    rintro added more raised failed ⟨values, rfl, all, stops⟩ ⟨rfl, rfl⟩
    refine ⟨values, by simp, ?_, stops⟩
    intro completes
    obtain ⟨same, whole⟩ := all completes
    exact ⟨same, chunks, by rw [whole]⟩

/-- A request is answered in one turn, with what the provider answers there. -/
theorem logs_speak (request : SpeechRequest) (log : List Entry) :
    (speak environment request).LogsAt log fun added raised => ∃ turn : Turn,
      turn.request = request ∧ added = turn.entries ∧
        turn.answer = environment.answer (log ++ [.posted request]) request ∧
        (raised = none → turn.Complete) ∧
        ∀ failure, raised = some failure →
          turn.answer.Stops environment (log ++ [.posted request]) turn.chunks failure := by
  obtain ⟨added, appended, values, rfl, all, stops⟩ := logs_readAnswer environment
    (environment.answer (log ++ [.posted request]) request) (log ++ [.posted request])
  refine ⟨_, ?_, ⟨request, environment.answer (log ++ [.posted request]) request, values⟩, rfl,
    rfl, rfl, ?_, fun failure stopped => stops failure stopped⟩
  · show (readAnswer environment (environment.answer (log ++ [.posted request]) request)
      (log ++ [.posted request])).log = _
    rw [appended]
    simp [Turn.entries]
  · intro completes
    obtain ⟨same, whole⟩ := all completes
    exact ⟨whole, same⟩

/-- The requests are answered in turn. -/
theorem logs_speakAll (environment : Environment) (requests : List SpeechRequest)
    (log : List Entry) :
    (speakAll environment requests).LogsAt log fun added raised => ∃ turns : List Turn,
      added = turns.flatMap Turn.entries ∧ Spoken environment log requests turns raised := by
  induction requests generalizing log with
  | nil => exact Statement.LogsAt.outcome ⟨[], rfl, .finish log⟩
  | cons request rest ih =>
    apply Statement.LogsAt.andThen (logs_speak request log)
    · rintro added error ⟨turn, rfl, rfl, answered, -, stops⟩
      exact ⟨[turn], by simp, .cut rest answered (stops error rfl)⟩
    · rintro added ⟨turn, rfl, rfl, answered, complete, -⟩
      obtain ⟨more, appended, turns, rfl, spoken⟩ := ih (log ++ turn.entries)
      exact ⟨turns.flatMap Turn.entries, appended, turn :: turns, by simp,
        .next answered (complete rfl) spoken⟩

/-- An invocation that does not raise has a complete turn for every request. -/
theorem Spoken.all {log : List Entry} {requests : List SpeechRequest} {turns : List Turn}
    {raised : Option Failure} (spoken : Spoken environment log requests turns raised)
    (completes : raised = none) :
    turns.map Turn.request = requests ∧ ∀ turn ∈ turns, turn.Complete := by
  induction spoken with
  | finish log => exact ⟨rfl, by simp⟩
  | cut rest answered stops => exact absurd completes (by simp)
  | next answered complete later ih =>
    obtain ⟨same, every⟩ := ih completes
    exact ⟨by rw [List.map_cons, same], List.forall_mem_cons.mpr ⟨complete, every⟩⟩

/-- Every turn has an answer of the provider to its request. -/
theorem Spoken.answers {log : List Entry} {requests : List SpeechRequest} {turns : List Turn}
    {raised : Option Failure} (spoken : Spoken environment log requests turns raised) :
    ∀ turn ∈ turns, ∃ before, turn.answer = environment.answer before turn.request := by
  induction spoken with
  | finish log => exact List.forall_mem_nil _
  | cut rest answered stops => exact List.forall_mem_singleton.mpr ⟨_, answered⟩
  | next answered complete later ih => exact List.forall_mem_cons.mpr ⟨⟨_, answered⟩, ih⟩

/-- Nothing stops an invocation whose provider and whose consumer are willing. -/
theorem Spoken.completes {log : List Entry} {requests : List SpeechRequest} {turns : List Turn}
    {raised : Option Failure} (spoken : Spoken environment log requests turns raised)
    (willing : environment.Willing) : raised = none := by
  induction spoken with
  | finish log => rfl
  | @cut log turn rest failure answered stops =>
    obtain ⟨whole, spoke⟩ := willing.speaks (log ++ [.posted turn.request]) turn.request
    rw [answered, spoke] at stops
    cases stops with
    | abandoned chunks values broken visible part leaves =>
      exact absurd (leaves.symm.trans (willing.listens _)) (by simp)
  | next answered complete later ih => exact ih

/-- A text of any length is split, when the limit is positive. -/
theorem split_sentences (sentenceEnd : SentenceEnd) (contentText : Text) {limit : ℤ}
    (positive : 1 ≤ limit) :
    ∃ sentences, splitTextIntoSentences sentenceEnd contentText limit = .ok sentences ∧
      sentences.flatten = contentText ∧
      ∀ sentence ∈ sentences, sentence ≠ [] ∧ (sentence.length : ℤ) ≤ limit := by
  have room : 0 < limit.toNat := by omega
  obtain ⟨sentences, cut, joined, bounded, -⟩ :=
    splitFrom_spec sentenceEnd contentText room (contentText.length + 1) 0 (by omega)
  refine ⟨sentences, ?_, joined, fun sentence listed => ?_⟩
  · rw [splitTextIntoSentences, if_neg (by omega), cut]
  · obtain ⟨visible, short⟩ := bounded sentence listed
    exact ⟨visible, by omega⟩

end Speaking

section Hearing

variable {ω : Type}

/-- The daemon passes a frame on as a response. -/
def Relays {τ : Type} (invocations : Runtime.Invocations (Json ω) τ)
    (frame : List (Text × Json ω)) (message : Server.PluginInStream (Json ω)) : Prop :=
  ∃ text, invocations.validate message.data = some ⟨.response, text, some (.dict frame)⟩

/-- A response that ends an invocation. -/
def Ends {τ : Type} (invocations : Runtime.Invocations (Json ω) τ)
    (message : Server.PluginInStream (Json ω)) : Prop :=
  ∃ text data, invocations.validate message.data = some ⟨.finish, text, data⟩

/-- Every frame of `invoke_tts` is a result that has its chunk. -/
theorem ttsResult_ttsFrame (properties : ModelProperties) (chunk : Bytes) :
    ttsResult (ttsFrame properties chunk : List (Text × Json ω)) =
      some ⟨hexlify chunk, getTtsModelMimeType properties⟩ := by
  have differs : ("mime_type".toList == "result".toList) = false := by decide
  cases known : getTtsModelMimeType properties with
  | none =>
    simp only [ttsFrame, known, ttsResult, List.lookup_cons, List.lookup_nil, differs,
      beq_self_eq_true]
  | some mimeType =>
    simp only [ttsFrame, known, ttsResult, List.lookup_cons, differs, beq_self_eq_true]

/-- The other plugin reads the chunks back. -/
theorem ttsInvocation_map (mimeType : Option Text) (chunks : List Bytes) :
    ttsInvocation (chunks.map fun chunk => ⟨hexlify chunk, mimeType⟩) = ⟨chunks, none⟩ := by
  induction chunks with
  | nil => rfl
  | cons chunk rest ih =>
    rw [List.map_cons, ttsInvocation, unhexlify_hexlify]
    exact congrArg (Generated.yield chunk) ih

/-- The results of the frames that the daemon passes on. -/
theorem results_relayed {invocations : Runtime.Invocations (Json ω) TTSResult} {number : Nat}
    (parses : ∀ data, invocations.dataType number (.dict data) = ttsResult data)
    (properties : ModelProperties) {chunks : List Bytes}
    {messages : List (Server.PluginInStream (Json ω))} {last : Server.PluginInStream (Json ω)}
    (relayed : List.Forall₂ (Relays invocations) (chunks.map (ttsFrame properties)) messages)
    (ends : Ends invocations last) :
    invocations.results number (messages ++ [last]) =
      (chunks.map fun chunk => ⟨hexlify chunk, getTtsModelMimeType properties⟩, some .ended) := by
  induction chunks generalizing messages with
  | nil =>
    obtain rfl := List.forall₂_nil_left_iff.mp relayed
    obtain ⟨text, data, validated⟩ := ends
    simp [Runtime.Invocations.results, Runtime.Invocations.convert, validated]
  | cons chunk rest ih =>
    obtain ⟨message, others, ⟨text, validated⟩, later, rfl⟩ := List.forall₂_cons_left_iff.mp relayed
    have converted : invocations.convert number message =
        .result ⟨hexlify chunk, getTtsModelMimeType properties⟩ := by
      simp only [Runtime.Invocations.convert, validated, parses, ttsResult_ttsFrame]
    simp only [List.cons_append, Runtime.Invocations.results, converted, ih later, List.map_cons]

end Hearing

/-- A text is spoken to another plugin. It is cut into the sentences of `splitTextIntoSentences`,
which are within the limit and joined are the text; one request after another is posted for them,
the audio of the provider's answer is yielded, and each response is closed before the next
request. Only the last one may be cut short, when the invocation raises, and for the reason that
its answer or the consumer gave; it does not when both are willing. From the frames of the chunks,
the other plugin gets back the chunks. -/
theorem invoke_heard {ω : Type} (environment : Environment) (sentenceEnd : SentenceEnd)
    (urljoin : Text → Text → Text) (credentials : Dict Text Text) (properties : ModelProperties)
    (model contentText voice : Text) (positive : 1 ≤ maxLength properties)
    (invocations : Runtime.Invocations (Json ω) TTSResult) (number : Nat)
    (parses : ∀ data, invocations.dataType number (.dict data) = ttsResult data) :
    ∃ (sentences : List Text) (turns : List Turn) (raised : Option Failure),
      invoke environment sentenceEnd urljoin credentials properties model contentText voice [] =
        ⟨turns.flatMap Turn.entries, raised⟩ ∧
      splitTextIntoSentences sentenceEnd contentText (maxLength properties) = .ok sentences ∧
      sentences.flatten = contentText ∧
      (∀ sentence ∈ sentences,
        sentence ≠ [] ∧ (sentence.length : ℤ) ≤ maxLength properties) ∧
      Spoken environment []
        (sentences.map (speechRequest urljoin credentials properties model voice)) turns raised ∧
      (raised = none → turns.map Turn.request =
          sentences.map (speechRequest urljoin credentials properties model voice) ∧
        ∀ turn ∈ turns, turn.Complete) ∧
      (environment.Willing → raised = none) ∧
      ∀ messages last, List.Forall₂ (Relays invocations)
          ((turns.flatMap Turn.chunks).map (ttsFrame properties)) messages →
        Ends invocations last →
        (invocations.results number (messages ++ [last])).2 = some .ended ∧
        ttsInvocation (invocations.results number (messages ++ [last])).1 =
          ⟨turns.flatMap Turn.chunks, none⟩ := by
  obtain ⟨sentences, split, joined, bounded⟩ :=
    split_sentences sentenceEnd contentText positive
  have invoked : invoke environment sentenceEnd urljoin credentials properties model contentText
      voice = speakAll environment
        (sentences.map (speechRequest urljoin credentials properties model voice)) := by
    simp only [invoke, split]
  obtain ⟨added, logged, turns, rfl, spoken⟩ := logs_speakAll environment
    (sentences.map (speechRequest urljoin credentials properties model voice)) []
  rw [invoked]
  cases ran : speakAll environment
      (sentences.map (speechRequest urljoin credentials properties model voice)) [] with
  | mk log raised =>
    rw [ran] at logged spoken
    obtain rfl : log = turns.flatMap Turn.entries := logged
    refine ⟨sentences, turns, raised, rfl, split, joined, bounded, spoken, spoken.all,
      spoken.completes, ?_⟩
    intro messages last relayed ends
    have results := results_relayed parses properties relayed ends
    rw [results]
    exact ⟨rfl, ttsInvocation_map _ _⟩

/-- A provider that says two bytes for every sentence, for examples. -/
def twoBytes : Environment where
  answer := fun _ _ => .speech [[1], [], [2]] false
  consumer := fun _ => true

/-- Backwards invocations of speech, for examples. -/
def speechInvocations : Runtime.Invocations (Json Empty) TTSResult :=
  Runtime.jsonInvocations fun data => data.asItems.bind ttsResult

/-- A model with a word limit of five, for examples. -/
def fiveWords : ModelProperties := ⟨some "mp3".toList, some 5⟩

/-- The frames of two sentences as the daemon passes them on, for examples. -/
def twoSentences : List (Server.PluginInStream (Json Empty)) :=
  [[1], [2], [1], [2]].map fun chunk => Runtime.jsonMessage
    (Runtime.exampleResponse "response".toList (.dict (ttsFrame fiveWords chunk)))

/-- Two sentences are spoken with a request for each, and heard by the other plugin. -/
theorem invoke_heard_two :
    ∃ turns : List Turn,
      invoke twoBytes fullStops (fun base path => base ++ path)
        (Dict.ofPairs [("endpoint_url".toList, "http://provider/".toList)])
        fiveWords "speech".toList "Yes. No.".toList "alloy".toList [] =
          ⟨turns.flatMap Turn.entries, none⟩ ∧
      (turns.map fun turn => turn.request.input) = ["Yes.".toList, " No.".toList] ∧
      (∀ turn ∈ turns, turn.chunks = [[1], [2]]) ∧
      ttsInvocation (speechInvocations.results 1 (twoSentences ++
          [Runtime.jsonMessage (Runtime.exampleResponse "end".toList .null)])).1 =
        ⟨[[1], [2], [1], [2]], none⟩ := by
  obtain ⟨sentences, turns, raised, invoked, split, -, -, spoken, all, goes, hears⟩ :=
    invoke_heard twoBytes fullStops (fun base path => base ++ path)
      (Dict.ofPairs [("endpoint_url".toList, "http://provider/".toList)])
      fiveWords "speech".toList "Yes. No.".toList "alloy".toList (by decide)
      speechInvocations 1 (fun _ => rfl)
  have completes : raised = none := goes ⟨fun _ _ => ⟨_, rfl⟩, fun _ => rfl⟩
  obtain ⟨requests, complete⟩ := all completes
  have cut : splitTextIntoSentences fullStops "Yes. No.".toList 5 =
      .ok ["Yes.".toList, " No.".toList] := by decide
  obtain rfl : ["Yes.".toList, " No.".toList] = sentences := Except.ok.inj (cut.symm.trans split)
  have spoke : ∀ turn ∈ turns, turn.chunks = [[1], [2]] := by
    intro turn listed
    obtain ⟨before, answered⟩ := spoken.answers turn listed
    rw [(complete turn listed).yielded, answered]
    rfl
  have chunks : turns.flatMap Turn.chunks = [[1], [2], [1], [2]] := by
    have two : turns.length = 2 := by simpa using congrArg List.length requests
    obtain ⟨first, second, rfl⟩ := List.length_eq_two.mp two
    simp [spoke first (by simp), spoke second (by simp)]
  refine ⟨turns, completes ▸ invoked, ?_, spoke, ?_⟩
  · have inputs := congrArg (List.map SpeechRequest.input) requests
    rwa [List.map_map, List.map_map] at inputs
  · rw [chunks] at hears
    refine (hears twoSentences _ ?_ ⟨[], none, rfl⟩).2
    rw [twoSentences, List.forall₂_map_left_iff, List.forall₂_map_right_iff]
    exact List.forall₂_same.mpr fun chunk _ => ⟨[], rfl⟩

end DifyPlugin.Speech
