import DifyPlugin.Core.Server.Stdio.RequestReader
import DifyPlugin.Library.Dict
import DifyPlugin.Library.Encoding
import DifyPlugin.Library.Interleaving

/-!
# The plugin runner

`PluginRunner` with the reader of the standard output of the plugin, any number of `invoke` and
any number of `_close` by any thread. Thread 0 is `_message_reader`; every other thread calls
`invoke` at most once, and `_close` any number of times before. The short critical sections are
one step; `_close` takes its two locks one after the other, and puts the stop notifications one by
one while it holds both. What it does after that concerns the process and the pipes: a write to
the pipe may fail at any time here. Validation is done outside of the repository and is a
parameter.
-/

namespace DifyPlugin.Integration

open Decoding Interleaving

variable {ρ τ : Type}

/-! ## Messages -/

/-- `ResponseType`. -/
inductive ResponseType where
  /-- `"info"`. -/
  | info
  /-- `"error"`. -/
  | error
  /-- `"plugin_response"`. -/
  | pluginResponse
  /-- `"plugin_ready"`. -/
  | pluginReady
  /-- `"plugin_invoke_end"`. -/
  | pluginInvokeEnd
  deriving DecidableEq

/-- `PluginGenericResponse`. -/
structure PluginGenericResponse (ρ : Type) where
  /-- `invoke_id`. -/
  invokeId : Text
  /-- `type`. -/
  type : ResponseType
  /-- `response`. -/
  response : ρ

/-- What `_message_reader` ends with, besides `PluginStoppedError`. -/
inductive ReaderError (ρ : Type) where
  /-- The `ValueError` of an error message without an id. -/
  | value (response : ρ)
  /-- `UnicodeDecodeError`. -/
  | unicode
  /-- `OSError`. -/
  | os

/-- What `invoke` raises. -/
inductive InvokeError (ρ : Type) where
  /-- `PluginStoppedError`. -/
  | stopped
  /-- The error of the reader. -/
  | reader (error : ReaderError ρ)
  /-- The `ValueError` of an error message. -/
  | value (response : ρ)
  /-- `ValueError("Invalid response type")`. -/
  | responseType
  /-- `ValueError("Invalid invoke id")`. -/
  | invokeId
  /-- The payload is not valid for the response type. -/
  | validation

/-- An entry of the queue of an invocation. -/
inductive Entry (ρ : Type) where
  /-- A message. -/
  | message (message : PluginGenericResponse ρ)
  /-- An exception. -/
  | error (error : InvokeError ρ)
  /-- `None`. -/
  | finish

/-- How an invocation ends. -/
inductive Outcome (ρ : Type) where
  /-- It has yielded everything. -/
  | returned
  /-- It raises. -/
  | raised (error : InvokeError ρ)
  /-- The write has failed, or an exception was thrown in from outside. -/
  | interrupted

/-- What `_message_reader` makes of a line. -/
inductive Publication (ρ : Type) where
  /-- Nothing. -/
  | ignored
  /-- It raises. -/
  | raises (error : ReaderError ρ)
  /-- A message for an invocation. -/
  | routes (message : PluginGenericResponse ρ)

/-- What the runner is used with. -/
structure Setting (ρ τ : Type) where
  /-- `uuid.uuid4().hex` of each invocation. -/
  invokeId : Nat → Text
  /-- The ids are distinct. -/
  distinct : Function.Injective invokeId
  /-- They are not empty. -/
  nonempty : ∀ number, invokeId number ≠ []
  /-- `PluginGenericResponse.model_validate_json`. -/
  validateJson : Text → Option (PluginGenericResponse ρ)
  /-- `response_type.model_validate` of each invocation. -/
  modelValidate : Nat → ρ → Option τ

namespace Setting

variable (setting : Setting ρ τ)

/-- `_publish_message` up to the routing. -/
def publishMessage (text : Text) : Publication ρ :=
  match setting.validateJson text with
  | none => .ignored
  | some message =>
    if message.invokeId = [] then
      match message.type with
      | .error => .raises (.value message.response)
      | _ => .ignored
    else .routes message

/-- The body of the loop over the lines in `_message_reader`. -/
def publishLine (rawLine : Bytes) : Publication ρ :=
  let line := Server.strip rawLine
  if line = [] then .ignored
  else
    match Encoding.utf8Decode line with
    | none => .raises .unicode
    | some text => setting.publishMessage text

/-- The body of the loop over the queue in `invoke`: the value that is yielded, or the end. -/
def receive (number : Nat) : Entry ρ → Except (Outcome ρ) τ
  | .finish => .error .returned
  | .error error => .error (.raised error)
  | .message message =>
    if message.invokeId = setting.invokeId number then
      match message.type with
      | .pluginResponse =>
        match setting.modelValidate number message.response with
        | some value => .ok value
        | none => .error (.raised .validation)
      | .error => .error (.raised (.value message.response))
      | _ => .error (.raised .responseType)
    else .error (.raised .invokeId)

end Setting

/-! ## The runner -/

/-- One `invoke`, and what the theorems look back on. -/
structure Invocation (ρ τ : Type) where
  /-- What had happened when it was registered. -/
  since : Option Nat
  /-- Its queue. -/
  queue : List (Entry ρ)
  /-- What it has taken from its queue. -/
  taken : List (Entry ρ)
  /-- What it has yielded. -/
  yielded : List τ

/-- What happens to the invocations. -/
inductive Happening (ρ : Type) where
  /-- A message with an id is published. -/
  | published (message : PluginGenericResponse ρ)
  /-- `_close` notifies an invocation. -/
  | notified (number : Nat) (error : InvokeError ρ)

/-- `PluginRunner`. -/
structure Runner (ρ τ : Type) where
  /-- `stop_flag`. -/
  stopFlag : Bool
  /-- Who holds `stop_flag_lock`. -/
  stopFlagLock : Option Nat
  /-- `q`; a queue is that of its invocation. -/
  q : Dict Text Nat
  /-- Who holds `q_lock`. -/
  qLock : Option Nat
  /-- `_reader_error`. -/
  readerError : Option (ReaderError ρ)
  /-- The invocations. -/
  invocation : Nat → Invocation ρ τ
  /-- What has happened. -/
  history : List (Happening ρ)

/-- Where a thread stands. -/
inductive Pc (ρ : Type) where
  /-- It may call `invoke` or `_close`. -/
  | idle
  /-- `invoke` has found the stop flag unset. -/
  | checked
  /-- `invoke` writes the request. -/
  | writing
  /-- `invoke` waits in `q.get`. -/
  | waiting
  /-- `invoke` has yielded. -/
  | yielded
  /-- `invoke` is in its `finally`. -/
  | leaving (outcome : Outcome ρ)
  /-- `invoke` has ended. -/
  | exited (outcome : Outcome ρ)
  /-- `_message_reader` with its buffer and the lines it has not yet published. -/
  | reading (buffer : Bytes) (lines : List Bytes)
  /-- `_message_reader` is in its `finally`. -/
  | closing
  /-- `_close` holds `stop_flag_lock`. -/
  | locked
  /-- `_close` holds both locks, and has yet to notify these invocations. -/
  | notifying (numbers : List Nat)
  /-- `_message_reader` has ended. -/
  | finished

/-- What a thread does. -/
inductive Event where
  /-- `invoke` looks at the stop flag. -/
  | check
  /-- `invoke` looks again, and registers its queue. -/
  | register
  /-- The request was written. -/
  | written
  /-- The write fails, or an exception is thrown into `invoke`. -/
  | interrupt
  /-- `q.get` returns. -/
  | get
  /-- The next value is asked for. -/
  | resume
  /-- The `finally` of `invoke`. -/
  | leave
  /-- `_read_async` returns data. -/
  | read (data : Bytes)
  /-- `_read_async` raises `PluginStoppedError`. -/
  | stopped
  /-- `_read_async` raises `OSError`. -/
  | broken
  /-- The next line is published. -/
  | publish
  /-- `_close` takes `stop_flag_lock`. -/
  | lockStopFlag
  /-- `_close` takes `q_lock`, and sets the stop flag. -/
  | lockQueues
  /-- `_close` notifies an invocation. -/
  | notify
  /-- `_close` releases its locks. -/
  | unlock

namespace Runner

variable (setting : Setting ρ τ)

/-- One invocation changes. -/
def setInvocation (sh : Runner ρ τ) (number : Nat) (call : Invocation ρ τ) : Runner ρ τ :=
  { sh with invocation := Function.update sh.invocation number call }

/-- `self.q[invoke_id] = q`, with a new queue. -/
def register (sh : Runner ρ τ) (number : Nat) : Runner ρ τ :=
  { sh.setInvocation number
      { sh.invocation number with since := some sh.history.length, queue := [] } with
    q := sh.q.set (setting.invokeId number) number }

/-- `queue.put`. -/
def put (sh : Runner ρ τ) (number : Nat) (entry : Entry ρ) : Runner ρ τ :=
  sh.setInvocation number
    { sh.invocation number with queue := (sh.invocation number).queue ++ [entry] }

/-- The entry of a message. -/
def entryOf (message : PluginGenericResponse ρ) : Entry ρ :=
  if message.type = .pluginInvokeEnd then .finish else .message message

/-- The routing in `_publish_message`. -/
def publish (sh : Runner ρ τ) (message : PluginGenericResponse ρ) : Runner ρ τ :=
  let after := { sh with history := sh.history ++ [.published message] }
  match sh.q.get message.invokeId with
  | none => after
  | some number => after.put number (entryOf message)

/-- `q.get` has returned the first entry, and these values are yielded. -/
def take (sh : Runner ρ τ) (number : Nat) (entry : Entry ρ) (queue : List (Entry ρ))
    (values : List τ) : Runner ρ τ :=
  let call := sh.invocation number
  sh.setInvocation number
    { call with queue, taken := call.taken ++ [entry], yielded := call.yielded ++ values }

/-- `self.q.pop(invoke_id, None)`. -/
def leave (sh : Runner ρ τ) (number : Nat) : Runner ρ τ :=
  { sh with q := sh.q.pop (setting.invokeId number) }

/-- `self._reader_error or PluginStoppedError()`. -/
def notification (sh : Runner ρ τ) : InvokeError ρ :=
  match sh.readerError with
  | some error => .reader error
  | none => .stopped

/-- `_close` notifies one invocation. -/
def notify (sh : Runner ρ τ) (number : Nat) : Runner ρ τ :=
  let error := sh.notification
  let after : Runner ρ τ := { sh with history := sh.history ++ [.notified number error] }
  after.put number (.error error)

/-- One step of a thread. -/
def step (thread : Nat) (event : Event) (sh : Runner ρ τ) (pc : Pc ρ) :
    Option (Runner ρ τ × Pc ρ) :=
  match pc, event with
  | .idle, .check =>
    if sh.stopFlagLock = none then
      if sh.stopFlag then some (sh, .exited (.raised .stopped)) else some (sh, .checked)
    else none
  | .checked, .register =>
    if sh.qLock = none then
      if sh.stopFlag then some (sh, .exited (.raised .stopped))
      else some (sh.register setting thread, .writing)
    else none
  | .writing, .written => some (sh, .waiting)
  | .writing, .interrupt => some (sh, .leaving .interrupted)
  | .waiting, .get =>
    match (sh.invocation thread).queue with
    | [] => none
    | entry :: queue =>
      match setting.receive thread entry with
      | .ok value => some (sh.take thread entry queue [value], .yielded)
      | .error outcome => some (sh.take thread entry queue [], .leaving outcome)
  | .waiting, .interrupt => some (sh, .leaving .interrupted)
  | .yielded, .resume => some (sh, .waiting)
  | .yielded, .interrupt => some (sh, .leaving .interrupted)
  | .leaving outcome, .leave =>
    if sh.qLock = none then some (sh.leave setting thread, .exited outcome) else none
  | .reading buffer [], .read data =>
    let (lines, buffer) := Splitting.split [10] (buffer ++ data)
    some (sh, .reading buffer lines)
  | .reading _ [], .stopped => some (sh, .closing)
  | .reading _ [], .broken => some ({ sh with readerError := some .os }, .closing)
  | .reading buffer (line :: lines), .publish =>
    match setting.publishLine line with
    | .ignored => some (sh, .reading buffer lines)
    | .raises error => some ({ sh with readerError := some error }, .closing)
    | .routes message =>
      if sh.qLock = none then some (sh.publish message, .reading buffer lines) else none
  | .idle, .lockStopFlag =>
    if sh.stopFlagLock = none then some ({ sh with stopFlagLock := some thread }, .locked)
    else none
  | .closing, .lockStopFlag =>
    if sh.stopFlagLock = none then some ({ sh with stopFlagLock := some thread }, .locked)
    else none
  | .locked, .lockQueues =>
    if sh.qLock = none then
      some ({ sh with qLock := some thread, stopFlag := true },
        .notifying (if sh.stopFlag then [] else sh.q.values))
    else none
  | .notifying (number :: numbers), .notify => some (sh.notify number, .notifying numbers)
  | .notifying [], .unlock =>
    some ({ sh with stopFlagLock := none, qLock := none }, if thread = 0 then .finished else .idle)
  | _, _ => none

/-- The threads of one runner. -/
def machine : Machine (Runner ρ τ) (Pc ρ) Event := ⟨step setting⟩

/-- The plugin was started. -/
def initial : Pool (Runner ρ τ) (Pc ρ) where
  shared :=
    { stopFlag := false, stopFlagLock := none, q := .empty, qLock := none, readerError := none
      invocation := fun _ => ⟨none, [], [], []⟩, history := [] }
  control := fun thread => if thread = 0 then .reading [] [] else .idle

/-! ## What is addressed to an invocation -/

/-- The entry that an invocation is to get. -/
def entryFor (number : Nat) : Happening ρ → Option (Entry ρ)
  | .published message =>
    if message.invokeId = setting.invokeId number then some (entryOf message) else none
  | .notified other error => if other = number then some (.error error) else none

/-- What was addressed to an invocation since it was registered, in order. -/
def mail (sh : Runner ρ τ) (number : Nat) : List (Entry ρ) :=
  match (sh.invocation number).since with
  | none => []
  | some start => (sh.history.drop start).filterMap (entryFor setting number)

/-- The payload of a `plugin_response` that is valid for the invocation. -/
def payload (number : Nat) : Entry ρ → Option τ
  | .message message =>
    if message.type = .pluginResponse then setting.modelValidate number message.response else none
  | .error _ => none
  | .finish => none

end Runner

end DifyPlugin.Integration
