import DifyPlugin.Core.Server.Base
import DifyPlugin.Library.Interleaving

/-!
# Full-duplex backwards invocations

`_full_duplex_backwards_invoke` of any number of greenlets over one `RequestReader`. Each
greenlet runs one invocation, with the session id and the backwards request id of its own:
it subscribes, sends its request, and then converts the responses that its filter reader gets
from the queue. Greenlet 0 runs the event loop, which takes the list of readers, and then writes
a message to one matched reader after another; any greenlet may close the request reader.
-/

namespace DifyPlugin.Runtime

open Interleaving Server

/-- `BackwardsInvocationResponseEvent.Event`. -/
inductive ResponseKind where
  /-- `response`. -/
  | response
  /-- `Error`. -/
  | error
  /-- `End`. -/
  | finish
  deriving DecidableEq

/-- `BackwardsInvocationResponseEvent`; the filter has looked at its request id already. -/
structure ResponseEvent (δ : Type) where
  /-- `event`. -/
  event : ResponseKind
  /-- `message`. -/
  message : Text
  /-- `data`. -/
  data : Option δ

/-- The invocations of the greenlets. -/
structure Invocations (δ τ : Type) where
  /-- `session.session_id`. -/
  sessionId : Nat → Text
  /-- `backwards_request_id`. -/
  requestId : Nat → Text
  /-- `max_invocation_timeout`, in rounds of one second. -/
  maxTimeout : Nat → Nat
  /-- `data.get("backwards_request_id")`, when it is a string. -/
  backwardsRequestId : δ → Option Text
  /-- The validation of `BackwardsInvocationResponseEvent`. -/
  validate : δ → Option (ResponseEvent δ)
  /-- `data_type(**event.data)`. -/
  dataType : Nat → δ → Option τ
  /-- No two invocations share both ids. -/
  distinct : ∀ first second, sessionId first = sessionId second →
    requestId first = requestId second → first = second

/-- How an invocation ends. -/
inductive Exit where
  /-- An end event or a null-data response. -/
  | ended
  /-- An error event with its message. -/
  | error (message : Text)
  /-- A response that cannot be parsed. -/
  | invalid
  /-- Too many rounds without a response. -/
  | timeout
  /-- The request could not be sent, or the greenlet was cancelled there. -/
  | sendFailed
  /-- The filter reader was closed. -/
  | readerClosed
  /-- The greenlet was cancelled while it waited. -/
  | cancelled
  /-- The consumer closed the generator or was cancelled. -/
  | abandoned
  deriving DecidableEq

/-- Where a greenlet blocks. -/
inductive Pc (δ : Type) where
  /-- Before its invocation. -/
  | idle
  /-- The filter reader is in the list, and the request is not sent yet. -/
  | subscribed
  /-- `session_message` sends the request. -/
  | sending
  /-- `queue.get` waits; `empty` rounds went by without a response. -/
  | waiting (empty : Nat)
  /-- The consumer has a result. -/
  | yielded
  /-- The generator is done. -/
  | finished (exit : Exit)
  /-- The event loop waits for a message. -/
  | listening
  /-- `_process_line` writes a message to the matched readers. -/
  | delivering (data : PluginInStream δ) (matched : List Nat)
  /-- `RequestReader.close` closes the readers of its copy. -/
  | closing (readers : List Nat)

/-- How a blocking point is left. -/
inductive Event (δ : Type) where
  /-- A consumer starts the invocation. -/
  | invoke
  /-- `RequestReader.close` is called. -/
  | close
  /-- The event loop has a message. -/
  | arrive (data : PluginInStream δ)
  /-- The greenlet goes on: the request is sent, the queue has an entry, the consumer asks for
  the next result, or the next reader of a list has its turn. -/
  | resumed
  /-- `queue.get` timed out. -/
  | timeout
  /-- The call raised. -/
  | raised

/-- The request reader, and what the theorems look back on. -/
structure Shared (δ τ : Type) extends RequestReader δ where
  /-- The invocation has begun to send its request. -/
  asked : Nat → Bool
  /-- The responses to the invocation that arrived since it asked or subscribed. -/
  arrived : Nat → List (PluginInStream δ)
  /-- The responses that the invocation took from its queue. -/
  taken : Nat → List (PluginInStream δ)
  /-- What the invocation yielded. -/
  results : Nat → List τ

/-- What a response does to the invocation that takes it. -/
inductive Converted (τ : Type) where
  /-- It yields a result. -/
  | result (value : τ)
  /-- It ends the invocation. -/
  | exit (exit : Exit)

namespace Invocations

variable {δ τ : Type}

/-- `filter`. -/
def filter (invocations : Invocations δ τ) (data : PluginInStream δ) (number : Nat) : Bool :=
  decide (data.sessionId = invocations.sessionId number) &&
    decide (data.event = .backwardInvocationResponse) &&
    decide (invocations.backwardsRequestId data.data = some (invocations.requestId number))

/-- The body of the loop of `_line_converter_wrapper`, for a message. -/
def convert (invocations : Invocations δ τ) (number : Nat) (chunk : PluginInStream δ) :
    Converted τ :=
  match invocations.validate chunk.data with
  | none => .exit .invalid
  | some event =>
    match event.event, event.data with
    | .finish, _ => .exit .ended
    | .error, _ => .exit (.error event.message)
    | .response, none => .exit .ended
    | .response, some data =>
      match invocations.dataType number data with
      | none => .exit .invalid
      | some value => .result value

/-- The results of the responses before the first one that ends the invocation, and how that one
ends it. -/
def results (invocations : Invocations δ τ) (number : Nat) :
    List (PluginInStream δ) → List τ × Option Exit
  | [] => ([], none)
  | chunk :: rest =>
    match invocations.convert number chunk with
    | .exit exit => ([], some exit)
    | .result value =>
      let (values, exit) := invocations.results number rest
      (value :: values, exit)

/-- What each kind of response does: an end event and a response without data end the invocation,
an error event raises its message, data is yielded when it can be parsed, and what is no response
or cannot be parsed is raised. -/
inductive Converts (invocations : Invocations δ τ) (number : Nat) (chunk : PluginInStream δ) :
    Converted τ → Prop where
  /-- It is no response event. -/
  | invalid (unvalidated : invocations.validate chunk.data = none) :
    Converts invocations number chunk (.exit .invalid)
  /-- It is an end event. -/
  | finish {event : ResponseEvent δ} (validated : invocations.validate chunk.data = some event)
    (kind : event.event = .finish) : Converts invocations number chunk (.exit .ended)
  /-- It is an error event. -/
  | error {event : ResponseEvent δ} (validated : invocations.validate chunk.data = some event)
    (kind : event.event = .error) :
    Converts invocations number chunk (.exit (.error event.message))
  /-- It is a response without data. -/
  | nothing {event : ResponseEvent δ} (validated : invocations.validate chunk.data = some event)
    (kind : event.event = .response) (empty : event.data = none) :
    Converts invocations number chunk (.exit .ended)
  /-- Its data cannot be parsed. -/
  | unparsed {event : ResponseEvent δ} {data : δ}
    (validated : invocations.validate chunk.data = some event) (kind : event.event = .response)
    (given : event.data = some data) (failed : invocations.dataType number data = none) :
    Converts invocations number chunk (.exit .invalid)
  /-- Its data is parsed. -/
  | result {event : ResponseEvent δ} {data : δ} {value : τ}
    (validated : invocations.validate chunk.data = some event) (kind : event.event = .response)
    (given : event.data = some data) (parsed : invocations.dataType number data = some value) :
    Converts invocations number chunk (.result value)

/-- A response is converted as its kind says. -/
theorem converts_convert (invocations : Invocations δ τ) (number : Nat)
    (chunk : PluginInStream δ) :
    invocations.Converts number chunk (invocations.convert number chunk) := by
  rw [convert]
  split
  · rename_i unvalidated
    exact .invalid unvalidated
  · rename_i event validated
    split
    · rename_i kind
      exact .finish validated kind
    · rename_i kind
      exact .error validated kind
    · rename_i kind empty
      exact .nothing validated kind empty
    · rename_i data kind given
      split
      · rename_i failed
        exact .unparsed validated kind given failed
      · rename_i value parsed
        exact .result validated kind given parsed

end Invocations

section Scheduling

variable {δ τ : Type}

/-- `FilterReader.close` for one reader. -/
def Shared.closeReader (sh : Shared δ τ) (number : Nat) : Shared δ τ :=
  { sh with toRequestReader := sh.toRequestReader.closeReader number }

/-- The `with` statement is left, which closes the filter reader. -/
def leave (sh : Shared δ τ) (number : Nat) (exit : Exit) : Shared δ τ × Pc δ :=
  (sh.closeReader number, .finished exit)

/-- `FilterReader.read` goes on, or ends and with it `_line_converter_wrapper`. -/
def readNext (sh : Shared δ τ) (number empty : Nat) : Shared δ τ × Pc δ :=
  if (sh.filterReader number).goesOn then (sh, .waiting empty)
  else leave sh number .readerClosed

/-- `_full_duplex_backwards_invoke` subscribes. -/
def subscribe (sh : Shared δ τ) (number : Nat) : Shared δ τ × Pc δ :=
  ({ sh with toRequestReader := sh.toRequestReader.read number }, .subscribed)

/-- `_full_duplex_backwards_invoke` begins to send its request, so responses may arrive. -/
def ask (sh : Shared δ τ) (number : Nat) : Shared δ τ × Pc δ :=
  ({ sh with asked := Function.update sh.asked number true }, .sending)

/-- `queue.get` returned an entry. -/
def take (invocations : Invocations δ τ) (sh : Shared δ τ) (number : Nat) :
    Option (Shared δ τ × Pc δ) :=
  match (sh.filterReader number).queue with
  | [] => none
  | none :: queue =>
    some (leave { sh with toRequestReader := sh.toRequestReader.setQueue number queue } number
      .readerClosed)
  | some chunk :: queue =>
    let sh :=
      { sh with
        toRequestReader := sh.toRequestReader.setQueue number queue
        taken := Function.update sh.taken number (sh.taken number ++ [chunk]) }
    match invocations.convert number chunk with
    | .exit exit => some (leave sh number exit)
    | .result value =>
      some ({ sh with results := Function.update sh.results number (sh.results number ++ [value]) },
        .yielded)

/-- `queue.get` found nothing for a whole round. -/
def readEmpty (invocations : Invocations δ τ) (sh : Shared δ τ) (number empty : Nat) :
    Option (Shared δ τ × Pc δ) :=
  if (sh.filterReader number).queue.isEmpty then
    if invocations.maxTimeout number ≤ empty + 1 then some (leave sh number .timeout)
    else some (readNext sh number (empty + 1))
  else none

/-- `_process_line` writes to the next matched reader. -/
def deliver (sh : Shared δ τ) (data : PluginInStream δ) : List Nat → Shared δ τ × Pc δ
  | [] => (sh, .listening)
  | number :: matched =>
    ({ sh with toRequestReader := sh.toRequestReader.write number data },
      .delivering data matched)

/-- `_process_line` takes the list of readers and filters it. -/
def processLine (invocations : Invocations δ τ) (sh : Shared δ τ) (data : PluginInStream δ) :
    Shared δ τ × Pc δ :=
  ({ sh with
      arrived := fun number =>
        if (sh.asked number || decide (number ∈ sh.readers)) && invocations.filter data number
        then sh.arrived number ++ [data]
        else sh.arrived number },
    .delivering data (sh.matchedReaders (invocations.filter data)))

/-- `RequestReader.close` closes the next reader of its copy. -/
def closeNext (sh : Shared δ τ) : List Nat → Shared δ τ × Pc δ
  | [] => (sh, .idle)
  | number :: readers => (sh.closeReader number, .closing readers)

/-- One greenlet goes from its blocking point to the next one. -/
def step (invocations : Invocations δ τ) (thread : Nat) (event : Event δ) (sh : Shared δ τ)
    (pc : Pc δ) : Option (Shared δ τ × Pc δ) :=
  match pc, event with
  | .idle, .invoke => some (subscribe sh thread)
  | .idle, .close => some ({ sh with toRequestReader := sh.toRequestReader.clear },
      .closing sh.readers)
  | .subscribed, .resumed => some (ask sh thread)
  | .subscribed, .raised => some (leave sh thread .sendFailed)
  | .sending, .resumed => some (readNext sh thread 0)
  | .sending, .raised => some (leave sh thread .sendFailed)
  | .waiting _, .resumed => take invocations sh thread
  | .waiting empty, .timeout => readEmpty invocations sh thread empty
  | .waiting _, .raised => some (leave sh thread .cancelled)
  | .yielded, .resumed => some (readNext sh thread 0)
  | .yielded, .raised => some (leave sh thread .abandoned)
  | .listening, .arrive data => some (processLine invocations sh data)
  | .listening, .close => some ({ sh with toRequestReader := sh.toRequestReader.clear },
      .closing sh.readers)
  | .delivering data matched, .resumed => some (deliver sh data matched)
  | .closing readers, .resumed => some (closeNext sh readers)
  | _, _ => none

/-- The greenlets over one request reader. -/
def machine (invocations : Invocations δ τ) : Machine (Shared δ τ) (Pc δ) (Event δ) :=
  ⟨step invocations⟩

/-- A request reader without readers; greenlet 0 runs the event loop. -/
def initial : Pool (Shared δ τ) (Pc δ) where
  shared :=
    { readers := [], filterReader := fun _ => ⟨true, []⟩
      asked := fun _ => false, arrived := fun _ => [], taken := fun _ => []
      results := fun _ => [] }
  control := fun thread => if thread = 0 then .listening else .idle

end Scheduling

end DifyPlugin.Runtime
