import DifyPlugin.Core.Runtime.Isolation
import DifyPlugin.Library.Generator
import DifyPlugin.Library.Json
import DifyPlugin.Library.Statement

/-!
# HTTP backwards invocations

`_http_backwards_invoke` posts the message that a full-duplex invocation writes, and reads its
responses from the lines of the answer, with `_line_converter_wrapper` as there. Nothing compares
the ids of a line with those of the invocation: every line of the answer is a response to it. The
log has what the daemon and the consumer see, and the two `close` calls of the `with` statement.
-/

namespace DifyPlugin.Runtime

open Interleaving Server

variable {ω τ : Type}

/-- `PluginInStreamEvent.value_of`, which raises for any other value. -/
def valueOf : Json ω → Option PluginInStreamEvent
  | .str value =>
    if value = "request".toList then some .request
    else if value = "backwards_response".toList then some .backwardInvocationResponse
    else none
  | _ => none

/-- `PluginInStreamBase`, with what a line of the answer brings. -/
structure PluginInStreamBase (ω : Type) where
  /-- `session_id`, of any type. -/
  sessionId : Json ω
  /-- `event`. -/
  event : PluginInStreamEvent
  /-- `data`. -/
  data : Json ω

/-- The body of the loop in `generator`, for a line that is not empty: `validateJson` is
`TypeAdapter(dict[str, Any]).validate_json`. -/
def decodeLine (validateJson : Text → Option (List (Text × Json ω))) (line : Text) :
    Option (PluginInStreamBase ω) := do
  let data ← validateJson line
  let sessionId ← data.lookup "session_id".toList
  let event ← data.lookup "event".toList
  let event ← valueOf event
  let data ← data.lookup "data".toList
  return ⟨sessionId, event, data⟩

/-- The data of the message that asks for an invocation. -/
structure InvokeRequest (ω : Type) where
  /-- `type`. -/
  type : Text
  /-- `backwards_request_id`. -/
  backwardsRequestId : Text
  /-- `request`. -/
  request : Json ω

/-- `StreamOutputMessage(event=Event.SESSION, …)` around `stream_invoke_object`. -/
def sessionMessage (sessionId : Text) (data : InvokeRequest ω) : Json ω :=
  .dict [
    ("event".toList, .str "session".toList),
    ("session_id".toList, .str sessionId),
    ("data".toList, .dict [
      ("type".toList, .str "invoke".toList),
      ("data".toList, .dict [
        ("type".toList, .str data.type),
        ("backwards_request_id".toList, .str data.backwardsRequestId),
        ("request".toList, data.request)])])]

/-- What the environment of an HTTP invocation does. -/
structure HttpAnswer (ω : Type) where
  /-- `TypeAdapter(dict[str, Any]).validate_json`. -/
  validateJson : Text → Option (List (Text × Json ω))
  /-- `model_dump_json` of a message. -/
  modelDumpJson : Json ω → Text
  /-- `URL(url) / segment`, as a text. -/
  join : Text → Text → Text
  /-- `session.dify_plugin_daemon_url`, when it is there and not empty. -/
  daemonUrl : Option Text
  /-- The head of the answer arrives. -/
  opened : Bool
  /-- The lines of the answer. -/
  lines : List Text
  /-- `iter_lines` raises behind them. -/
  broken : Bool

/-- How an HTTP invocation raises. -/
inductive HttpExit where
  /-- The daemon has no URL. -/
  | unsupported
  /-- `client.stream` raises. -/
  | requestFailed
  /-- `iter_lines` raises. -/
  | readFailed
  /-- A line is no message. -/
  | invalidLine
  /-- A response is an error or cannot be parsed. -/
  | response (exit : Exit)
  /-- The consumer closed the generator, or raised something there. -/
  | abandoned
  deriving DecidableEq

/-- What happens in an HTTP invocation. -/
inductive HttpEntry (τ : Type) where
  /-- The request is sent. -/
  | posted (url sessionId content : Text)
  /-- A result is yielded. -/
  | yielded (value : τ)
  /-- The answer is closed. -/
  | answerClosed
  /-- The client is closed. -/
  | clientClosed
  deriving DecidableEq

/-- Whether the consumer asks for the next result, by the log so far. -/
abbrev Consumer (τ : Type) : Type := List (HttpEntry τ) → Bool

/-- `session_message_text`; `session_message` writes the same. -/
def sessionMessageText (answer : HttpAnswer ω) (sessionId : Text) (data : InvokeRequest ω) :
    Text :=
  answer.modelDumpJson (sessionMessage sessionId data) ++ ['\n', '\n']

/-- The URL that the request is posted to. -/
def HttpAnswer.transaction (answer : HttpAnswer ω) (url : Text) : Text :=
  answer.join (answer.join url "backwards-invocation".toList) "transaction".toList

namespace Invocations

/-- What `_line_converter_wrapper` does with a line; it reads the data only. -/
def convertLine (invocations : Invocations (Json ω) τ) (number : Nat)
    (chunk : PluginInStreamBase ω) : Converted τ :=
  invocations.convert number ⟨invocations.sessionId number, chunk.event, chunk.data⟩

/-- What leaves the generator when a response ends it. -/
def raisedBy : Exit → Option HttpExit
  | .ended => none
  | exit => some (.response exit)

/-- Yield a result; the consumer asks for the next one, or leaves the generator there. -/
def yieldResult (consumer : Consumer τ) (value : τ) : Statement (HttpEntry τ) HttpExit :=
  (Statement.record (.yielded value)).andThen fun log =>
    ⟨log, if consumer log then none else some .abandoned⟩

/-- `yield from self._line_converter_wrapper(generator(), data_type)`, over the lines. -/
def readLines (invocations : Invocations (Json ω) τ) (number : Nat) (answer : HttpAnswer ω)
    (consumer : Consumer τ) : List Text → Statement (HttpEntry τ) HttpExit
  | [] => Statement.outcome (if answer.broken then some .readFailed else none)
  | line :: rest =>
    if line = [] then invocations.readLines number answer consumer rest
    else
      match decodeLine answer.validateJson line with
      | none => Statement.outcome (some .invalidLine)
      | some chunk =>
        match invocations.convertLine number chunk with
        | .exit exit => Statement.outcome (raisedBy exit)
        | .result value =>
          (yieldResult consumer value).andThen
            (invocations.readLines number answer consumer rest)

/-- `client.stream(…)`, up to its answer. -/
def post (invocations : Invocations (Json ω) τ) (number : Nat) (answer : HttpAnswer ω)
    (url : Text) (type : Text) (data : Json ω) : Statement (HttpEntry τ) HttpExit :=
  let sessionId := invocations.sessionId number
  let content := sessionMessageText answer sessionId ⟨type, invocations.requestId number, data⟩
  (Statement.record (.posted url sessionId content)).andThen
    (Statement.outcome (if answer.opened then none else some .requestFailed))

/-- `_http_backwards_invoke`. -/
def httpBackwardsInvoke (invocations : Invocations (Json ω) τ) (number : Nat)
    (answer : HttpAnswer ω) (consumer : Consumer τ) (type : Text) (data : Json ω) :
    Statement (HttpEntry τ) HttpExit :=
  match answer.daemonUrl with
  | none => Statement.outcome (some .unsupported)
  | some url =>
    ((invocations.post number answer (answer.transaction url) type data).andThen
      ((invocations.readLines number answer consumer answer.lines).tryFinally
        (Statement.record .answerClosed))).tryFinally
      (Statement.record .clientClosed)

/-- What the lines bring to a consumer that never leaves. -/
def lineResults (invocations : Invocations (Json ω) τ) (number : Nat) (answer : HttpAnswer ω) :
    List Text → Generated τ HttpExit
  | [] => if answer.broken then Generated.raise .readFailed else Generated.finished
  | line :: rest =>
    if line = [] then invocations.lineResults number answer rest
    else
      match decodeLine answer.validateJson line with
      | none => Generated.raise .invalidLine
      | some chunk =>
        match invocations.convertLine number chunk with
        | .exit exit => ⟨[], raisedBy exit⟩
        | .result value => Generated.yield value (invocations.lineResults number answer rest)

end Invocations

/-- The lines begin with the data of some messages, each in a line; empty lines may stand between
them, and any lines behind them. -/
inductive Carries (validateJson : Text → Option (List (Text × Json ω))) :
    List Text → List (PluginInStream (Json ω)) → Prop where
  /-- Any lines carry no message. -/
  | rest (lines : List Text) : Carries validateJson lines []
  /-- An empty line carries none. -/
  | blank {lines : List Text} {messages : List (PluginInStream (Json ω))}
    (later : Carries validateJson lines messages) : Carries validateJson ([] :: lines) messages
  /-- A line carries a message. -/
  | line {line : Text} {lines : List Text} {message : PluginInStream (Json ω)}
    {messages : List (PluginInStream (Json ω))} {chunk : PluginInStreamBase ω}
    (visible : line ≠ []) (decoded : decodeLine validateJson line = some chunk)
    (same : chunk.data = message.data) (later : Carries validateJson lines messages) :
    Carries validateJson (line :: lines) (message :: messages)

section Reading

variable {invocations : Invocations (Json ω) τ} {number : Nat} {answer : HttpAnswer ω}
  {consumer : Consumer τ}

open Invocations

/-- A line that carries a message is converted like it. -/
theorem convertLine_carried (invocations : Invocations (Json ω) τ) (number : Nat)
    {chunk : PluginInStreamBase ω} {message : PluginInStream (Json ω)}
    (same : chunk.data = message.data) :
    invocations.convertLine number chunk = invocations.convert number message := by
  simp only [convertLine, convert, same]

/-- Further responses add further results. -/
theorem results_grow (invocations : Invocations (Json ω) τ) (number : Nat)
    (taken more : List (PluginInStream (Json ω))) :
    (invocations.results number taken).1 <+: (invocations.results number (taken ++ more)).1 := by
  induction taken with
  | nil => exact List.nil_prefix
  | cons head rest ih =>
    simp only [List.cons_append, results]
    cases converted : invocations.convert number head with
    | exit exit => exact List.nil_prefix
    | result value => simpa using ih

/-- The lines bring at least the results of the messages that they carry, and when one of these
ends the invocation, nothing else. -/
theorem lineResults_carried (invocations : Invocations (Json ω) τ) (number : Nat)
    {lines : List Text} {messages : List (PluginInStream (Json ω))}
    (carries : Carries answer.validateJson lines messages) :
    (invocations.results number messages).1 <+:
        (invocations.lineResults number answer lines).yielded ∧
      ∀ exit, (invocations.results number messages).2 = some exit →
        invocations.lineResults number answer lines =
          ⟨(invocations.results number messages).1, raisedBy exit⟩ := by
  induction carries with
  | rest lines => exact ⟨List.nil_prefix, by simp [results]⟩
  | blank later ih => simpa only [lineResults, if_pos] using ih
  | line visible decoded same later ih =>
    rename_i line lines message messages chunk
    have converted := convertLine_carried invocations number same
    simp only [lineResults, if_neg visible, decoded, converted, results]
    cases invocations.convert number message with
    | exit exit => exact ⟨List.prefix_refl [], by simp⟩
    | result value =>
      obtain ⟨grows, ends⟩ := ih
      constructor
      · simpa using grows
      · intro exit ended
        rw [ends exit ended]
        rfl

/-- A consumer that leaves the generator has a part of the results; any other one has all, and
sees how the lines end. -/
structure Reads (invocations : Invocations (Json ω) τ) (number : Nat) (answer : HttpAnswer ω)
    (consumer : Consumer τ) (lines : List Text) (values : List τ) (raised : Option HttpExit) :
    Prop where
  /-- The results come in order. -/
  inOrder : values <+: (invocations.lineResults number answer lines).yielded
  /-- All come, unless the consumer leaves. -/
  complete : raised ≠ some .abandoned →
    invocations.lineResults number answer lines = ⟨values, raised⟩
  /-- A consumer that always goes on does not leave. -/
  stays : (∀ log, consumer log = true) → raised ≠ some .abandoned

/-- A generator that ends without another result. -/
theorem Reads.ended {lines : List Text} {raised : Option HttpExit}
    (ends : invocations.lineResults number answer lines = ⟨[], raised⟩)
    (differs : raised ≠ some .abandoned) :
    Reads invocations number answer consumer lines [] raised where
  inOrder := List.nil_prefix
  complete := fun _ => ends
  stays := fun _ => differs

/-- A response does not end the generator like the consumer. -/
theorem raisedBy_ne_abandoned (exit : Exit) : raisedBy exit ≠ some .abandoned := by
  cases exit <;> simp [raisedBy]

/-- The consumer goes on or leaves. -/
theorem logs_yieldResult (value : τ) :
    (yieldResult consumer value).Logs fun added raised =>
      added = [.yielded value] ∧ (raised = none ∨
        raised = some .abandoned ∧ ¬ ∀ log, consumer log = true) := by
  intro log
  refine ⟨[.yielded value], rfl, rfl, ?_⟩
  by_cases asks : consumer (log ++ [.yielded value]) = true
  · left
    simp [yieldResult, Statement.andThen, Statement.record, asks]
  · right
    constructor
    · simp [yieldResult, Statement.andThen, Statement.record, asks]
    · intro always
      exact asks (always _)

/-- The generator yields the results of the lines. -/
theorem logs_readLines (lines : List Text) :
    (invocations.readLines number answer consumer lines).Logs fun added raised =>
      ∃ values : List τ, added = values.map HttpEntry.yielded ∧
        Reads invocations number answer consumer lines values raised := by
  induction lines with
  | nil =>
    apply Statement.Logs.outcome
    refine ⟨[], rfl, Reads.ended ?_ ?_⟩
    · by_cases broken : answer.broken = true <;>
        simp [lineResults, broken, Generated.raise, Generated.finished]
    · by_cases broken : answer.broken = true <;> simp [broken]
  | cons line rest ih =>
    by_cases blank : line = []
    · have skipped : invocations.lineResults number answer (line :: rest) =
          invocations.lineResults number answer rest := by
        rw [lineResults, if_pos blank]
      rw [readLines, if_pos blank]
      apply ih.mono
      rintro added raised ⟨values, listed, reads⟩
      refine ⟨values, listed, ?_, ?_, reads.stays⟩
      · rw [skipped]
        exact reads.inOrder
      · rw [skipped]
        exact reads.complete
    · rw [readLines, if_neg blank]
      cases decoded : decodeLine answer.validateJson line with
      | none =>
        apply Statement.Logs.outcome
        refine ⟨[], rfl, Reads.ended ?_ (by simp)⟩
        simp [lineResults, blank, decoded, Generated.raise]
      | some chunk =>
        cases converted : invocations.convertLine number chunk with
        | exit exit =>
          simp only [converted]
          apply Statement.Logs.outcome
          refine ⟨[], rfl, Reads.ended ?_ (raisedBy_ne_abandoned exit)⟩
          simp [lineResults, blank, decoded, converted]
        | result value =>
          have yields : invocations.lineResults number answer (line :: rest) =
              Generated.yield value (invocations.lineResults number answer rest) := by
            simp only [lineResults, if_neg blank, decoded, converted]
          simp only [converted]
          apply Statement.Logs.andThen (logs_yieldResult value) ih
          · rintro added error ⟨rfl, left⟩
            rcases left with none | ⟨abandoned, leaves⟩
            · exact absurd none (by simp)
            · refine ⟨[value], rfl, ?_, ?_, fun always => absurd always leaves⟩
              · rw [yields, Generated.yield_yielded]
                simp
              · exact fun goesOn => absurd abandoned goesOn
          · rintro added more raised ⟨rfl, -⟩ ⟨values, rfl, reads⟩
            refine ⟨value :: values, rfl, ?_, ?_, reads.stays⟩
            · rw [yields, Generated.yield_yielded]
              simpa using reads.inOrder
            · intro goesOn
              rw [yields, reads.complete goesOn]
              rfl

/-- What is posted. -/
def posted (invocations : Invocations (Json ω) τ) (number : Nat) (answer : HttpAnswer ω)
    (url type : Text) (data : Json ω) : HttpEntry τ :=
  .posted (answer.transaction url) (invocations.sessionId number)
    (sessionMessageText answer (invocations.sessionId number)
      ⟨type, invocations.requestId number, data⟩)

/-- The request is posted, and then fails if no answer comes. -/
theorem logs_post (url type : Text) (data : Json ω) :
    (invocations.post number answer (answer.transaction url) type data).Logs fun added raised =>
      added = [posted invocations number answer url type data] ∧
        raised = if answer.opened then none else some .requestFailed := by
  apply Statement.Logs.andThen (Statement.logs_record _) (Statement.logs_outcome _)
  · rintro added error ⟨-, impossible⟩
    exact absurd impossible (by simp)
  · rintro added more raised ⟨rfl, -⟩ ⟨rfl, rfl⟩
    exact ⟨rfl, rfl⟩

/-- An invocation without an answer fails; any other one reads the lines of its answer. -/
def Answered (invocations : Invocations (Json ω) τ) (number : Nat) (answer : HttpAnswer ω)
    (consumer : Consumer τ) (values : List τ) (raised : Option HttpExit) : Prop :=
  if answer.opened then Reads invocations number answer consumer answer.lines values raised
  else values = [] ∧ raised = some .requestFailed

/-- An invocation posts its request once, yields results of the lines, and closes the answer and
then the client, however it ends. -/
theorem logs_httpBackwardsInvoke (invocations : Invocations (Json ω) τ) (number : Nat)
    (consumer : Consumer τ) {url : Text} (known : answer.daemonUrl = some url) (type : Text)
    (data : Json ω) :
    (invocations.httpBackwardsInvoke number answer consumer type data).Logs fun added raised =>
      ∃ values : List τ,
        added = posted invocations number answer url type data :: values.map HttpEntry.yielded ++
          (if answer.opened then [.answerClosed, .clientClosed] else [.clientClosed]) ∧
        Answered invocations number answer consumer values raised := by
  simp only [httpBackwardsInvoke, known]
  have closes : (Statement.tryFinally
      (invocations.readLines number answer consumer answer.lines)
      (Statement.record .answerClosed)).Logs fun added raised => ∃ values : List τ,
        added = values.map HttpEntry.yielded ++ [.answerClosed] ∧
          Reads invocations number answer consumer answer.lines values raised := by
    apply Statement.Logs.tryFinally (logs_readLines answer.lines) (Statement.logs_record _)
    rintro added more raised failed ⟨values, rfl, reads⟩ ⟨rfl, rfl⟩
    exact ⟨values, rfl, reads⟩
  have body : (Statement.andThen
      (invocations.post number answer (answer.transaction url) type data)
      (Statement.tryFinally (invocations.readLines number answer consumer answer.lines)
        (Statement.record .answerClosed))).Logs fun added raised => ∃ values : List τ,
        added = posted invocations number answer url type data :: values.map HttpEntry.yielded ++
          (if answer.opened then [.answerClosed] else []) ∧
        Answered invocations number answer consumer values raised := by
    apply Statement.Logs.andThen (logs_post url type data) closes
    · rintro added error ⟨rfl, failed⟩
      by_cases opened : answer.opened = true
      · exact absurd failed (by simp [opened])
      · refine ⟨[], by simp [opened], ?_⟩
        rw [if_neg opened] at failed
        rw [Answered, if_neg opened]
        exact ⟨rfl, failed⟩
    · rintro added more raised ⟨rfl, opens⟩ ⟨values, rfl, reads⟩
      have opened : answer.opened = true := by
        by_contra closed
        simp [closed] at opens
      refine ⟨values, by simp [opened], ?_⟩
      rw [Answered, if_pos opened]
      exact reads
  apply Statement.Logs.tryFinally body (Statement.logs_record _)
  rintro added more raised failed ⟨values, rfl, reads⟩ ⟨rfl, rfl⟩
  refine ⟨values, ?_, reads⟩
  by_cases opened : answer.opened = true <;> simp [opened]

end Reading

/-- An HTTP invocation and a full-duplex one agree. However an HTTP invocation ends, it has posted
the message once, yielded a part of what its lines bring, and closed the answer and then the
client; without an answer it fails, and unless the consumer leaves it has yielded all that the
lines bring and ends as they do. When the lines carry the responses that arrived for a full-duplex
invocation, in any interleaving of it with all others, a consumer that does not leave gets at least
its results; when a response has ended the full-duplex invocation, it gets just these, and the same
ending. -/
theorem httpBackwardsInvoke_agrees (invocations : Invocations (Json ω) τ)
    (schedule : List (Nat × Event (Json ω))) (last : Pool (Shared (Json ω) τ) (Pc (Json ω)))
    (ran : (machine invocations).run initial schedule = some last) (number : Nat)
    (answer : HttpAnswer ω) (url : Text) (known : answer.daemonUrl = some url)
    (consumer : Consumer τ) (type : Text) (data : Json ω) :
    ∃ (values : List τ) (raised : Option HttpExit),
      invocations.httpBackwardsInvoke number answer consumer type data [] =
        ⟨posted invocations number answer url type data :: values.map HttpEntry.yielded ++
          (if answer.opened then [.answerClosed, .clientClosed] else [.clientClosed]), raised⟩ ∧
      (answer.opened = false → values = [] ∧ raised = some .requestFailed) ∧
      (answer.opened = true →
        values <+: (invocations.lineResults number answer answer.lines).yielded ∧
        (raised ≠ some .abandoned →
          invocations.lineResults number answer answer.lines = ⟨values, raised⟩) ∧
        ((∀ log, consumer log = true) → raised ≠ some .abandoned)) ∧
      (answer.opened = true →
        Carries answer.validateJson answer.lines (last.shared.arrived number) →
        ((∀ log, consumer log = true) → last.shared.results number <+: values) ∧
        ∀ exit, last.control number = .finished exit → exit.answered = true →
          values <+: last.shared.results number ∧
          ((∀ log, consumer log = true) →
            values = last.shared.results number ∧ raised = Invocations.raisedBy exit)) := by
  obtain ⟨added, logged, values, rfl, reads⟩ := logs_httpBackwardsInvoke
    invocations number consumer known type data []
  cases invoked : invocations.httpBackwardsInvoke number answer consumer type data [] with
  | mk log raised =>
  rw [invoked] at logged reads
  obtain rfl : log = _ := logged
  refine ⟨values, raised, rfl, fun closed => ?_, fun opened => ?_, fun opened carries => ?_⟩
  · simpa only [Answered, closed, Bool.false_eq_true, if_false] using reads
  · rw [Answered, if_pos opened] at reads
    exact ⟨reads.inOrder, reads.complete, reads.stays⟩
  rw [Answered, if_pos opened] at reads
  obtain ⟨grows, ends⟩ := lineResults_carried invocations number carries
  have tracked := (run_isolated schedule last ran).tracked number
  obtain ⟨items, holds, accounted⟩ := tracked.account
  obtain ⟨more, arrived⟩ := accounted.taken_prefix
  have arrived : last.shared.taken number ++ more = last.shared.arrived number := arrived
  have results := tracked.results
  constructor
  · intro always
    have complete := reads.complete (reads.stays always)
    have taken : last.shared.results number =
        (invocations.results number (last.shared.taken number)).1 :=
      (congrArg Prod.fst results).symm
    have part := results_grow invocations number
      (last.shared.taken number) more
    rw [arrived, ← taken] at part
    rw [complete] at grows
    exact part.trans grows
  · intro exit finished answered
    have ended : invocations.results number (last.shared.taken number) =
        (last.shared.results number, some exit) := by
      rw [finished] at results
      simpa [Pc.answer, answered, view] using results
    have all := results_ended ended more
    rw [arrived] at all
    have brought := ends exit (by rw [all])
    rw [all] at brought
    have inOrder := reads.inOrder
    rw [brought] at inOrder
    refine ⟨inOrder, fun always => ?_⟩
    have complete := reads.complete (reads.stays always)
    rw [brought] at complete
    have values : last.shared.results number = values := congrArg Generated.yielded complete
    have raised := congrArg Generated.raised complete
    exact ⟨values.symm, raised.symm⟩

/-- The `event` of a response, for examples. -/
def exampleKind (event : Text) : Option ResponseKind :=
  if event = "response".toList then some .response
  else if event = "end".toList then some .finish
  else none

/-- Requests with as many characters as their number are distinct. -/
theorem exampleIds_distinct (first second : Nat) (_ : ['s'] = ['s'])
    (same : List.replicate first 'r' = List.replicate second 'r') : first = second := by
  simpa using congrArg List.length same

/-- The invocations of one session over decoded JSON, for examples. -/
def jsonInvocations (dataType : Json Empty → Option τ) : Invocations (Json Empty) τ where
  sessionId := fun _ => ['s']
  requestId := fun number => List.replicate number 'r'
  maxTimeout := fun _ => 250
  backwardsRequestId := fun response => do
    let items ← response.asItems
    let requestId ← items.lookup "backwards_request_id".toList
    requestId.asText
  validate := fun response => do
    let items ← response.asItems
    let event ← items.lookup "event".toList
    let kind ← event.asText.bind exampleKind
    let data ← items.lookup "data".toList
    return ⟨kind, [], data.asItems.map Json.dict⟩
  dataType := fun _ => dataType
  distinct := exampleIds_distinct

/-- The value of a result, for examples. -/
def exampleValue : Json Empty → Option Int
  | .dict [(_, .int value)] => some value
  | _ => none

/-- A response to the first invocation, for examples. -/
def exampleResponse (event : Text) (data : Json Empty) : Json Empty :=
  .dict [("backwards_request_id".toList, .str ['r']), ("event".toList, .str event),
    ("message".toList, .str []), ("data".toList, data)]

/-- The data of a result, for examples. -/
def exampleResult : Json Empty := .dict [("value".toList, .int 10)]

/-- The line of a result, for examples. -/
def resultLine : Text :=
  "\x7b\"session_id\":\"s\",\"event\":\"backwards_response\",\"data\":\x7b".toList ++
    "\"backwards_request_id\":\"r\",\"event\":\"response\",\"message\":\"\",".toList ++
    "\"data\":\x7b\"value\":10\x7d\x7d\x7d".toList

/-- The line of an end, for examples. -/
def endLine : Text :=
  "\x7b\"session_id\":\"s\",\"event\":\"backwards_response\",\"data\":\x7b".toList ++
    "\"backwards_request_id\":\"r\",\"event\":\"end\",\"message\":\"\",".toList ++
    "\"data\":null\x7d\x7d".toList

/-- The object of a line, for examples. -/
def exampleLine (data : Json Empty) : List (Text × Json Empty) :=
  [("session_id".toList, .str ['s']), ("event".toList, .str "backwards_response".toList),
    ("data".toList, data)]

/-- An answer with an empty line in front of a result and an end, for examples. -/
def exampleAnswer : HttpAnswer Empty where
  validateJson := fun line =>
    if line = resultLine then some (exampleLine (exampleResponse "response".toList exampleResult))
    else if line = endLine then some (exampleLine (exampleResponse "end".toList .null))
    else none
  modelDumpJson := fun _ =>
    "\x7b\"event\":\"session\",\"session_id\":\"s\",\"data\":\x7b".toList ++
      "\"type\":\"invoke\",\"data\":\x7b\"type\":\"storage\",".toList ++
      "\"backwards_request_id\":\"r\",\"request\":null\x7d\x7d\x7d".toList
  join := fun url segment => url ++ '/' :: segment
  daemonUrl := some "http://daemon".toList
  opened := true
  lines := [[], resultLine, endLine]
  broken := false

/-- A message of the daemon, for examples. -/
def jsonMessage (data : Json Empty) : PluginInStream (Json Empty) :=
  ⟨['s'], .backwardInvocationResponse, data⟩

/-- A result and an end arrive for the first invocation, which asks for both. -/
def oneInvocation : List (Nat × Event (Json Empty)) :=
  [(1, .invoke), (1, .resumed), (1, .resumed),
    (0, .arrive (jsonMessage (exampleResponse "response".toList exampleResult))), (0, .resumed),
    (0, .resumed), (1, .resumed), (1, .resumed),
    (0, .arrive (jsonMessage (exampleResponse "end".toList .null))), (0, .resumed),
    (0, .resumed), (1, .resumed)]

/-- Both transports yield the result and end. -/
theorem httpBackwardsInvoke_agrees_one :
    ∃ last, (machine (jsonInvocations exampleValue)).run initial oneInvocation = some last ∧
      last.control 1 = .finished .ended ∧ last.shared.results 1 = [10] ∧
      ∃ raised log, (jsonInvocations exampleValue).httpBackwardsInvoke 1 exampleAnswer
          (fun _ => true) "storage".toList .null [] = ⟨log, raised⟩ ∧
        log.tail = [.yielded 10, .answerClosed, .clientClosed] ∧ raised = none := by
  have carries : Carries exampleAnswer.validateJson exampleAnswer.lines
      [jsonMessage (exampleResponse "response".toList exampleResult),
        jsonMessage (exampleResponse "end".toList .null)] := by
    have brings : decodeLine exampleAnswer.validateJson resultLine = some
        ⟨.str ['s'], .backwardInvocationResponse,
          exampleResponse "response".toList exampleResult⟩ := by
      have parsed : exampleAnswer.validateJson resultLine =
          some (exampleLine (exampleResponse "response".toList exampleResult)) := by
        simp only [exampleAnswer, if_pos]
      rw [decodeLine, parsed]
      rfl
    have different : endLine ≠ resultLine := by decide +kernel
    have ends : decodeLine exampleAnswer.validateJson endLine = some
        ⟨.str ['s'], .backwardInvocationResponse, exampleResponse "end".toList .null⟩ := by
      have parsed : exampleAnswer.validateJson endLine =
          some (exampleLine (exampleResponse "end".toList .null)) := by
        simp only [exampleAnswer, if_neg different, if_pos]
      rw [decodeLine, parsed]
      rfl
    apply Carries.blank
    apply Carries.line (by decide) brings rfl
    exact Carries.line (by decide) ends rfl (Carries.rest [])
  have ran : (machine (jsonInvocations exampleValue)).run initial oneInvocation = some _ := rfl
  obtain ⟨values, raised, invoked, -, -, agrees⟩ := httpBackwardsInvoke_agrees
    (jsonInvocations exampleValue) oneInvocation _ ran 1 exampleAnswer "http://daemon".toList rfl
    (fun _ => true) "storage".toList .null
  obtain ⟨-, ending⟩ := agrees rfl carries
  obtain ⟨same, ends⟩ := (ending .ended rfl rfl).2 fun _ => rfl
  refine ⟨_, ran, rfl, rfl, raised, _, invoked, ?_, ends⟩
  rw [same]
  rfl

end DifyPlugin.Runtime
