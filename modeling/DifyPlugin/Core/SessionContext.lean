import Mathlib.Logic.Basic

/-!
# The current session of a model

`use_current_session` keeps the session of a request in a context variable while the code of a
model runs, and `get_current_session` reads it there. The code of a model is a tree: it reads the
variable, does anything else, and may invoke another model under a session of its own. A stream
runs piece by piece, and the variable stays set while its consumer writes a message. When a write
fails the generator of the handler is closed: `yield from` closes the stream of the model with it,
while the stream under a plain `for` loop is only finalized once the loop is left, with the
variable put back. The second half of the definitions passes the session as an argument instead of
keeping it in a variable; both agree, for every thread and any sequence of its requests.
-/

namespace DifyPlugin.SessionContext

/-- What a call of a model does, up to its result. -/
inductive Code (σ ω ν ε : Type) where
  /-- It returns or raises. -/
  | finish (result : Except ε ν)
  /-- It does something else, and goes on with what it finds. -/
  | act (change : ω → ω) (next : ω → Code σ ω ν ε)
  /-- `get_current_session()`. -/
  | look (next : Option σ → Code σ ω ν ε)
  /-- It invokes a model under another session, and goes on with what that returns or raises. -/
  | invoke (session : σ) (body : Code σ ω ν ε) (next : Except ε ν → Code σ ω ν ε)

/-- What the stream of a model does, which yields what the handler can send. -/
inductive Stream (σ ω ν ε : Type) where
  /-- It returns or raises. -/
  | finish (result : Except ε ν)
  /-- It runs, and goes on with what that comes to. -/
  | running (code : Code σ ω ν ε) (next : Except ε ν → Stream σ ω ν ε)
  /-- It yields; `onClose` runs when it is closed, or finalized, there. -/
  | yielding (value : ν) (onClose : Code σ ω ν ε) (next : Stream σ ω ν ε)

/-- The handler of a request, with the code of the model that it calls. -/
inductive Handler (σ ω ν ε : Type) where
  /-- A handler that returns what the model returns, such as `invoke_rerank`. -/
  | plain (code : Code σ ω ν ε)
  /-- `invoke_llm`, which delegates to a generator; `stream` says which results are generators. -/
  | invokeLlm (code : Code σ ω ν ε) (stream : ν → Option (Stream σ ω ν ε))
  /-- `invoke_tts`, which goes over the chunks in a `for` loop. -/
  | invokeTts (stream : Stream σ ω ν ε)
  /-- A handler that does not use the session. -/
  | without (code : Code σ ω ν ε)

/-- How results are written and a request is ended. -/
structure Output (ω ν ε : Type) where
  /-- `not response`. -/
  falsy : ν → Bool
  /-- `session_message` of a stream object, and what it raises. -/
  write : ν → ω → ω × Option ε
  /-- The error frame, the end frame and `done`. -/
  settle : Option ε → ω → ω

/-- The context variable, and everything else. -/
structure Context (σ ω : Type) where
  /-- `_current_session`. -/
  current : Option σ
  /-- Everything else. -/
  world : ω

variable {σ ω ν ε : Type}

/-- What is raised. -/
def raised : Except ε ν → Option ε
  | .ok _ => none
  | .error error => some error

section Variable

/-- `with use_current_session(session)`, around a block that neither yields. -/
def useCurrentSession {ρ : Type} (session : σ) (body : Context σ ω → Context σ ω × ρ)
    (context : Context σ ω) : Context σ ω × ρ :=
  let token := context.current
  let (after, result) := body { context with current := some session }
  ({ after with current := token }, result)

/-- A call runs. -/
def Code.run : Code σ ω ν ε → Context σ ω → Context σ ω × Except ε ν
  | .finish result, context => (context, result)
  | .act change next, context =>
    let world := change context.world
    (next world).run { context with world }
  | .look next, context => (next context.current).run context
  | .invoke session body next, context =>
    let (after, result) := useCurrentSession session body.run context
    (next result).run after

variable (output : Output ω ν ε)

/-- A failed write closes the generator of the handler. A stream that it delegates to is closed
first, and what that raises replaces the error; any other stream is finalized behind the session,
and what that raises is ignored. -/
def closeStream (delegates : Bool) (token : Option σ) (onClose : Code σ ω ν ε) (error : ε)
    (context : Context σ ω) : Context σ ω × Option ε :=
  if delegates then
    let (closed, result) := onClose.run context
    ({ closed with current := token }, some ((raised result).getD error))
  else
    let (closed, _) := onClose.run { context with current := token }
    (closed, some error)

/-- The loop of `_execute_request` over a generator that is inside `use_current_session`; the
session before it is put back when the generator ends, raises or is closed. `delegates` says
whether the generator delegates to the stream. -/
def streamMessages (delegates : Bool) (token : Option σ) :
    Stream σ ω ν ε → Context σ ω → Context σ ω × Option ε
  | .finish result, context => ({ context with current := token }, raised result)
  | .running code next, context =>
    let (after, result) := code.run context
    streamMessages delegates token (next result) after
  | .yielding value onClose next, context =>
    match output.write value context.world with
    | (world, none) => streamMessages delegates token next { context with world }
    | (world, some error) => closeStream delegates token onClose error { context with world }

/-- `_execute_request` with a generator whose first `next` enters `use_current_session`. -/
def executeStream (delegates : Bool) (session : σ) (stream : Stream σ ω ν ε)
    (context : Context σ ω) : Context σ ω × Option ε :=
  streamMessages output delegates context.current stream { context with current := some session }

/-- `_execute_request` with what the handler returned or raised. -/
def writeResult : Except ε ν → Context σ ω → Context σ ω × Option ε
  | .error error, context => (context, some error)
  | .ok value, context =>
    if output.falsy value then (context, none)
    else
      let (world, error) := output.write value context.world
      ({ context with world }, error)

/-- `_execute_request`. -/
def executeRequest (session : σ) (handler : Handler σ ω ν ε) (context : Context σ ω) :
    Context σ ω × Option ε :=
  match handler with
  | .plain code =>
    let (after, result) := useCurrentSession session code.run context
    writeResult output result after
  | .invokeLlm code stream =>
    let (after, result) := useCurrentSession session code.run context
    match result with
    | .error error => (after, some error)
    | .ok value =>
      match stream value with
      | none => writeResult output (.ok value) after
      | some chunks => executeStream output true session chunks after
  | .invokeTts stream => executeStream output false session stream context
  | .without code =>
    let (after, result) := code.run context
    writeResult output result after

/-- A thread executes one request after another. -/
def serve : List (σ × Handler σ ω ν ε) → Context σ ω → Context σ ω
  | [], context => context
  | (session, handler) :: rest, context =>
    let (after, error) := executeRequest output session handler context
    serve rest { after with world := output.settle error after.world }

end Variable

section Argument

/-- A call runs with the session as an argument. -/
def Code.runWith : Code σ ω ν ε → Option σ → ω → ω × Except ε ν
  | .finish result, _, world => (world, result)
  | .act change next, session, world => (next (change world)).runWith session (change world)
  | .look next, session, world => (next session).runWith session world
  | .invoke inner body next, session, world =>
    let (after, result) := body.runWith (some inner) world
    (next result).runWith session after

variable (output : Output ω ν ε)

/-- A stream is closed with its session if the handler delegates to it, and with the one outside
otherwise. -/
def closeWith (delegates : Bool) (outer session : Option σ) (onClose : Code σ ω ν ε) (error : ε)
    (world : ω) : ω × Option ε :=
  if delegates then
    let (closed, result) := onClose.runWith session world
    (closed, some ((raised result).getD error))
  else
    let (closed, _) := onClose.runWith outer world
    (closed, some error)

/-- The loop over a generator that has its session as an argument. -/
def streamWith (delegates : Bool) (outer session : Option σ) :
    Stream σ ω ν ε → ω → ω × Option ε
  | .finish result, world => (world, raised result)
  | .running code next, world =>
    let (after, result) := code.runWith session world
    streamWith delegates outer session (next result) after
  | .yielding value onClose next, world =>
    match output.write value world with
    | (world, none) => streamWith delegates outer session next world
    | (world, some error) => closeWith delegates outer session onClose error world

/-- The result of a handler is written. -/
def writeWith : Except ε ν → ω → ω × Option ε
  | .error error, world => (world, some error)
  | .ok value, world => if output.falsy value then (world, none) else output.write value world

/-- A request whose model has the session of the request as an argument. The session outside is
passed on by a handler that does not use its own, and to the end of a stream of chunks that is
not delegated to. -/
def executeWith (outer : Option σ) (session : σ) (handler : Handler σ ω ν ε) (world : ω) :
    ω × Option ε :=
  match handler with
  | .plain code =>
    let (after, result) := code.runWith (some session) world
    writeWith output result after
  | .invokeLlm code stream =>
    let (after, result) := code.runWith (some session) world
    match result with
    | .error error => (after, some error)
    | .ok value =>
      match stream value with
      | none => writeWith output (.ok value) after
      | some chunks => streamWith output true outer (some session) chunks after
  | .invokeTts stream => streamWith output false outer (some session) stream world
  | .without code =>
    let (after, result) := code.runWith outer world
    writeWith output result after

/-- The requests of a thread, with their sessions as arguments. -/
def serveWith (outer : Option σ) : List (σ × Handler σ ω ν ε) → ω → ω
  | [], world => world
  | (session, handler) :: rest, world =>
    let (after, error) := executeWith output outer session handler world
    serveWith outer rest (output.settle error after)

end Argument

/-- Put back the session outside. -/
theorem useCurrentSession_eq {ρ : Type} (session : σ) (body : Context σ ω → Context σ ω × ρ)
    (direct : ω → ω × ρ)
    (agrees : ∀ world, body ⟨some session, world⟩ = (⟨some session, (direct world).1⟩,
      (direct world).2)) (context : Context σ ω) :
    useCurrentSession session body context =
      (⟨context.current, (direct context.world).1⟩, (direct context.world).2) := by
  simp only [useCurrentSession, agrees]

/-- A call sees the session that it is called under, and leaves the variable as it was. -/
theorem Code.run_eq (code : Code σ ω ν ε) (context : Context σ ω) :
    code.run context = (⟨context.current, (code.runWith context.current context.world).1⟩,
      (code.runWith context.current context.world).2) := by
  induction code generalizing context with
  | finish result => rfl
  | act change next ih =>
    rw [Code.run, ih]
    rfl
  | look next ih =>
    rw [Code.run, ih]
    rfl
  | invoke session body next inner ih =>
    have nested := useCurrentSession_eq session body.run (body.runWith (some session))
      (fun world => inner ⟨some session, world⟩) context
    rw [Code.run, nested]
    simp only [ih]
    rfl

variable (output : Output ω ν ε)

omit output in
/-- Wherever a stream is closed the variable is put back. -/
theorem closeStream_eq (delegates : Bool) (token : Option σ) (onClose : Code σ ω ν ε) (error : ε)
    (context : Context σ ω) :
    closeStream delegates token onClose error context =
      (⟨token, (closeWith delegates token context.current onClose error context.world).1⟩,
        (closeWith delegates token context.current onClose error context.world).2) := by
  cases delegates with
  | true =>
    rw [closeStream, closeWith, if_pos rfl, if_pos rfl, onClose.run_eq]
  | false =>
    rw [closeStream, closeWith, if_neg Bool.false_ne_true, if_neg Bool.false_ne_true,
      onClose.run_eq]

/-- The stream sees its session up to its close, and wherever it ends the variable is put back. -/
theorem streamMessages_eq (delegates : Bool) (token : Option σ) (stream : Stream σ ω ν ε)
    (context : Context σ ω) :
    streamMessages output delegates token stream context =
      (⟨token, (streamWith output delegates token context.current stream context.world).1⟩,
        (streamWith output delegates token context.current stream context.world).2) := by
  induction stream generalizing context with
  | finish result => rfl
  | running code next ih =>
    rw [streamMessages, streamWith, code.run_eq]
    exact ih _ _
  | yielding value onClose next ih =>
    rw [streamMessages, streamWith]
    cases output.write value context.world with
    | mk world failure =>
      cases failure with
      | none => exact ih ⟨context.current, world⟩
      | some error => exact closeStream_eq delegates token onClose error ⟨context.current, world⟩

/-- A stream runs under the session of its request. -/
theorem executeStream_eq (delegates : Bool) (session : σ) (stream : Stream σ ω ν ε)
    (context : Context σ ω) :
    executeStream output delegates session stream context =
      (⟨context.current,
        (streamWith output delegates context.current (some session) stream context.world).1⟩,
        (streamWith output delegates context.current (some session) stream context.world).2) :=
  streamMessages_eq output delegates context.current stream ⟨some session, context.world⟩

/-- A result is written outside of the session. -/
theorem writeResult_eq (result : Except ε ν) (context : Context σ ω) :
    writeResult output result context =
      (⟨context.current, (writeWith output result context.world).1⟩,
        (writeWith output result context.world).2) := by
  cases result with
  | error error => rfl
  | ok value =>
    by_cases falsy : output.falsy value = true
    · simp only [writeResult, writeWith, if_pos falsy]
    · simp only [writeResult, writeWith, if_neg falsy]

/-- The call of a model under the session of the request. -/
theorem useCurrentSession_run (session : σ) (code : Code σ ω ν ε) (context : Context σ ω) :
    useCurrentSession session code.run context =
      (⟨context.current, (code.runWith (some session) context.world).1⟩,
        (code.runWith (some session) context.world).2) :=
  useCurrentSession_eq session code.run (code.runWith (some session))
    (fun world => code.run_eq ⟨some session, world⟩) context

/-- A request puts the variable back. -/
theorem executeRequest_eq (session : σ) (handler : Handler σ ω ν ε) (context : Context σ ω) :
    executeRequest output session handler context =
      (⟨context.current, (executeWith output context.current session handler context.world).1⟩,
        (executeWith output context.current session handler context.world).2) := by
  cases handler with
  | plain code =>
    rw [executeRequest, useCurrentSession_run]
    exact writeResult_eq output _ _
  | invokeLlm code stream =>
    rw [executeRequest, useCurrentSession_run, executeWith]
    cases made : code.runWith (some session) context.world with
    | mk after result =>
      cases result with
      | error error => rfl
      | ok value =>
        simp only
        cases stream value with
        | none => exact writeResult_eq output _ _
        | some chunks => exact executeStream_eq output true session chunks ⟨context.current, after⟩
  | invokeTts stream => exact executeStream_eq output false session stream context
  | without code =>
    rw [executeRequest, code.run_eq]
    exact writeResult_eq output _ _

/-- Keeping the session in the context variable is the same as passing it as an argument: for any
requests that a thread executes one after another, whatever the code of the models does, whichever
other models it invokes, and wherever a call raises, a stream ends or a write fails, so that the
stream is closed, all code of a model sees the session of its own request and of no other, and
behind the last request the variable is what it was before the first one. The one exception is the
end of the generator of `invoke_tts` after a failed write, which sees the session outside. -/
theorem serve_passes (requests : List (σ × Handler σ ω ν ε)) (context : Context σ ω) :
    serve output requests context =
      ⟨context.current, serveWith output context.current requests context.world⟩ := by
  induction requests generalizing context with
  | nil => rfl
  | cons request rest ih =>
    obtain ⟨session, handler⟩ := request
    rw [serve, executeRequest_eq]
    exact ih _

end DifyPlugin.SessionContext
