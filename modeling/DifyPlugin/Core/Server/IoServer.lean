import DifyPlugin.Core.Plugin

/-!
# Executing a request in a thread

`IOServer._execute_request_in_thread` runs `Plugin._execute_request`, directly or in a greenlet
of the serverless writer, reports an exception in an error frame, writes the end frame and
finishes the writer.
-/

namespace DifyPlugin.IoServer

open Server Plugin

/-- How the request is executed. -/
inductive Execution where
  /-- `execute()`. -/
  | direct
  /-- `writer.execute(execute)` of a `ServerlessResponseWriter`; the greenlet does not run when
  the writer was closed, or the greenlet was killed, before it started. -/
  | greenlet (starts : Bool)
  deriving DecidableEq

variable {ω μ β δ : Type}

/-- The data of the error frame. -/
def errorObject (error : Error) : ErrorObject :=
  ⟨error.errorType, error.message, error.traceback, error.description⟩

/-- Run the request; `Greenlet.get` returns when the greenlet ended with `GreenletExit`. -/
def execute (execution : Execution) (request : Statement (Entry δ) Raised) :
    Statement (Entry δ) Raised :=
  match execution with
  | .direct => request
  | .greenlet false => Statement.outcome none
  | .greenlet true => request.tryExcept fun
    | .greenletExit => some (Statement.outcome none)
    | _ => none

/-- `except Exception`: the error frame. -/
def reportError (writer : Writer δ) (sessionId : Text) :
    Raised → Option (Statement (Entry δ) Raised)
  | .exception error => some (sessionMessage writer sessionId (.error (errorObject error)))
  | .greenletExit | .other => none

/-- `IOServer._execute_request_in_thread`. -/
def executeRequestInThread (writer : Writer (Dump ω μ β)) (execution : Execution)
    (sessionId : Text) (newId : Nat → Text) (response : Response ω μ β) :
    Statement (Entry (Dump ω μ β)) Raised :=
  (((execute execution (executeRequest writer sessionId newId response)).tryExcept
      (reportError writer sessionId)).andThen
    (sessionMessage writer sessionId .finish)).tryFinally (Statement.record .done)

/-- An error frame or an end frame is orderly, and no stream frame. -/
theorem logs_sessionMessage_quiet (writer : Writer δ) (sessionId : Text) {data : SessionMessage δ}
    (quiet : ∀ streamed, data ≠ .stream streamed) :
    (sessionMessage writer sessionId data).Logs fun added _ =>
      Orderly added ∧ ∀ entry ∈ added, ¬ entry.Streams := by
  apply (logs_sessionMessage writer sessionId data).mono
  intro added raised met
  cases data with
  | stream streamed => exact absurd rfl (quiet streamed)
  | error report =>
    rcases met with ⟨rfl, -⟩ | ⟨rfl, -⟩
    · exact ⟨Orderly.single (by simp), by simp [Entry.Streams]⟩
    · exact ⟨Orderly.single (by simp), by simp [Entry.Streams]⟩
  | finish =>
    rcases met with ⟨rfl, -⟩ | ⟨rfl, -⟩
    · exact ⟨Orderly.single (by simp), by simp [Entry.Streams]⟩
    · exact ⟨Orderly.single (by simp), by simp [Entry.Streams]⟩

/-- A request that is executed keeps its specification, up to a swallowed `GreenletExit`. -/
theorem logs_execute {request : Statement (Entry δ) Raised} {post : List (Entry δ) → Prop}
    {execution : Execution} (starts : execution ≠ .greenlet false)
    (logs : request.Logs fun added _ => post added) :
    (execute execution request).Logs fun added _ => post added := by
  cases execution with
  | direct => exact logs
  | greenlet started =>
    cases started with
    | false => exact absurd rfl starts
    | true =>
      apply Statement.Logs.tryExcept logs
      · intro added raised met _
        exact met
      · intro added error handle met handled
        cases error with
        | greenletExit =>
          obtain rfl := Option.some.inj handled
          exact Statement.Logs.outcome (by rwa [List.append_nil])
        | exception error => exact absurd handled (by simp)
        | other => exact absurd handled (by simp)

/-- The entries of a handler are orderly, and when its generator was started, it is closed. -/
def Settles (response : Response ω μ β) (execution : Execution)
    (added : List (Entry (Dump ω μ β))) : Prop :=
  Orderly added ∧ ∀ messages, response = .generator messages → execution ≠ .greenlet false →
    .closed ∈ added

/-- An error frame or an end frame may follow. -/
theorem Settles.append_quiet {response : Response ω μ β} {execution : Execution}
    {added more : List (Entry (Dump ω μ β))} (settles : Settles response execution added)
    (quiet : Orderly more ∧ ∀ entry ∈ more, ¬ entry.Streams) :
    Settles response execution (added ++ more) :=
  ⟨settles.1.append_quiet quiet.1 quiet.2, fun messages same starts =>
    List.mem_append_left _ (settles.2 messages same starts)⟩

section AnyWriter

variable (writer : Writer (Dump ω μ β)) (execution : Execution) (sessionId : Text)
  (newId : Nat → Text) (response : Response ω μ β)

/-- The handler settles, with an error frame or without one. -/
theorem logs_reported :
    ((execute execution (executeRequest writer sessionId newId response)).tryExcept
      (reportError writer sessionId)).Logs fun added _ => Settles response execution added := by
  have handler : (execute execution (executeRequest writer sessionId newId response)).Logs
      fun added _ => Settles response execution added := by
    by_cases starts : execution = .greenlet false
    · rw [starts]
      exact Statement.Logs.outcome
        ⟨⟨List.not_mem_nil, List.Pairwise.nil⟩, fun _ _ started => absurd rfl started⟩
    · apply logs_execute starts
      apply (logs_executeRequest writer sessionId newId response).mono
      intro added _ met
      exact ⟨met.1, fun messages same _ => met.2 messages same⟩
  apply Statement.Logs.tryExcept handler
  · intro added raised met _
    exact met
  · intro added error handle met handled
    cases error with
    | exception error =>
      obtain rfl := Option.some.inj handled
      have reported : ∀ streamed : Dump ω μ β,
          SessionMessage.error (errorObject error) ≠ .stream streamed :=
        nofun
      apply (logs_sessionMessage_quiet writer sessionId reported).mono
      intro more _ quiet
      exact met.append_quiet quiet
    | greenletExit => exact absurd handled (by simp [reportError])
    | other => exact absurd handled (by simp [reportError])

/-- The entries of a request in a thread are those of a settled handler, and then `done`. -/
theorem logs_executeRequestInThread :
    (executeRequestInThread writer execution sessionId newId response).Logs fun added _ =>
      ∃ body, added = body ++ [.done] ∧ Settles response execution body := by
  have finish := logs_sessionMessage_quiet writer sessionId
    (show ∀ streamed : Dump ω μ β, SessionMessage.finish ≠ .stream streamed from nofun)
  have ended : (((execute execution (executeRequest writer sessionId newId response)).tryExcept
      (reportError writer sessionId)).andThen (sessionMessage writer sessionId .finish)).Logs
        fun added _ => Settles response execution added := by
    apply Statement.Logs.andThen (logs_reported writer execution sessionId newId response) finish
    · intro added error met
      exact met
    · intro added more raised met quiet
      exact met.append_quiet quiet
  apply Statement.Logs.tryFinally ended (Statement.logs_record Entry.done)
  rintro added more raised failed met ⟨rfl, -⟩
  exact ⟨added, rfl, met⟩

end AnyWriter

section WorkingWriter

variable {writer : Writer (Dump ω μ β)} (works : ∀ log frame, writer log frame = none)
  {execution : Execution} (starts : execution ≠ .greenlet false) (sessionId : Text)
  (newId : Nat → Text) (response : Response ω μ β) (error : Option Error)
  (raises : response.error = error.map .exception)
include works starts raises

/-- The frames of the handler are written, and its exception is passed on. -/
theorem logs_execute_works :
    (execute execution (executeRequest writer sessionId newId response)).Logs
      fun added raised => written added =
        (response.frames newId).map (fun data => ⟨sessionId, .stream data⟩) ∧
          raised = error.map .exception := by
  have request := logs_executeRequest_works works sessionId newId response
  rw [raises] at request
  cases execution with
  | direct => exact request
  | greenlet started =>
    cases started with
    | false => exact absurd rfl starts
    | true =>
      apply Statement.Logs.tryExcept request
      · intro added raised met _
        exact met
      · intro added raised handle met handled
        cases error with
        | none => exact absurd met.2 (by simp)
        | some error =>
          obtain rfl : raised = .exception error := Option.some.inj met.2
          exact absurd handled (by simp)

/-- An exception is reported in an error frame, and handled. -/
theorem logs_reported_works :
    ((execute execution (executeRequest writer sessionId newId response)).tryExcept
      (reportError writer sessionId)).Logs fun added raised =>
        written added = (response.frames newId).map (fun data => ⟨sessionId, .stream data⟩) ++
          error.toList.map (fun error => ⟨sessionId, .error (errorObject error)⟩) ∧
        raised = none := by
  apply Statement.Logs.tryExcept
    (logs_execute_works works starts sessionId newId response error raises)
  · rintro added raised ⟨streamed, rfl⟩ unhandled
    cases error with
    | none => exact ⟨streamed.trans (List.append_nil _).symm, rfl⟩
    | some error => exact absurd unhandled (by simp [reportError])
  · intro added raised handle met handled
    cases error with
    | none => exact absurd met.2 (by simp)
    | some error =>
      obtain rfl : raised = .exception error := Option.some.inj met.2
      obtain rfl := Option.some.inj handled
      apply (logs_sessionMessage_works works sessionId _).mono
      rintro more raised ⟨rfl, rfl⟩
      rw [written_append, met.1]
      exact ⟨rfl, rfl⟩

/-- The frames are those of the handler, an error frame when an exception was raised, and the end
frame. -/
theorem logs_executeRequestInThread_works :
    (executeRequestInThread writer execution sessionId newId response).Logs fun added _ =>
      written added = (response.frames newId).map (fun data => ⟨sessionId, .stream data⟩) ++
        error.toList.map (fun error => ⟨sessionId, .error (errorObject error)⟩) ++
        [⟨sessionId, .finish⟩] := by
  have ended : (((execute execution (executeRequest writer sessionId newId response)).tryExcept
      (reportError writer sessionId)).andThen (sessionMessage writer sessionId .finish)).Logs
        fun added _ => written added =
          (response.frames newId).map (fun data => ⟨sessionId, .stream data⟩) ++
            error.toList.map (fun error => ⟨sessionId, .error (errorObject error)⟩) ++
            [⟨sessionId, .finish⟩] := by
    apply Statement.Logs.andThen
      (logs_reported_works works starts sessionId newId response error raises)
      (logs_sessionMessage_works works sessionId .finish)
    · intro added failure met
      exact absurd met.2 (by simp)
    · rintro added more raised ⟨streamed, -⟩ ⟨rfl, -⟩
      rw [written_append, streamed]
      rfl
  apply Statement.Logs.tryFinally ended (Statement.logs_record Entry.done)
  rintro added more raised failed streamed ⟨rfl, -⟩
  rw [written_append, streamed]
  exact List.append_nil _

end WorkingWriter

/-- The frames of a session: with a writer that does not fail they are the stream frames of the
handler, an error frame when it raised an exception, and one end frame. Behind a failed write no
stream frame of the handler is written. The writer is finished once, at the end, and then the
handler's generator has been closed. -/
theorem executeRequestInThread_protocol (writer : Writer (Dump ω μ β)) (execution : Execution)
    (sessionId : Text) (newId : Nat → Text) (response : Response ω μ β) :
    let log := (executeRequestInThread writer execution sessionId newId response []).log
    ((∀ log frame, writer log frame = none) → execution ≠ .greenlet false →
      ∀ error : Option Error, response.error = error.map .exception →
        written log = (response.frames newId).map (fun data => ⟨sessionId, .stream data⟩) ++
          error.toList.map (fun error => ⟨sessionId, .error (errorObject error)⟩) ++
          [⟨sessionId, .finish⟩]) ∧
    (∀ before frame after, log = before ++ .failed frame :: after →
      ∀ entry ∈ after, ¬ entry.Streams) ∧
    ∃ body, log = body ++ [.done] ∧ .done ∉ body ∧
      ∀ messages, response = .generator messages → execution ≠ .greenlet false →
        .closed ∈ body := by
  intro log
  obtain ⟨added, appended, body, rfl, orderly, closes⟩ :=
    logs_executeRequestInThread writer execution sessionId newId response []
  have whole : log = body ++ [.done] := appended
  refine ⟨?_, ?_, body, whole, orderly.undone, closes⟩
  · intro works starts error raises
    obtain ⟨entries, same, streamed⟩ := logs_executeRequestInThread_works works starts sessionId
      newId response error raises []
    have entire : log = entries := same
    rw [entire]
    exact streamed
  · intro before frame after split entry listed
    have last : ∀ entry ∈ [(Entry.done : Entry (Dump ω μ β))], ¬ entry.Streams := by
      simp [Entry.Streams]
    have pairs : log.Pairwise fun earlier later => earlier.Fails → ¬ later.Streams := by
      rw [whole]
      exact List.pairwise_append.mpr ⟨orderly.stops, List.pairwise_singleton _ _,
        fun _ _ later listed _ => last later listed⟩
    rw [split] at pairs
    have behind := (List.pairwise_cons.mp (List.pairwise_append.mp pairs).2.1).1
    exact behind entry listed trivial

/-- A handler that yields once and then raises, for examples. -/
def failingHandler : Response Text Text Text :=
  .generator (.yielding (.other "first".toList) none
    (.finish (some (.exception ⟨"RuntimeError".toList, "boom".toList, "".toList, none⟩))))

/-- The session of the failing handler. -/
theorem executeRequestInThread_protocol_boom :
    let log := (executeRequestInThread (fun _ _ => none) (.greenlet true) "s".toList
      (fun count => List.replicate count '0') failingHandler []).log
    written log = [⟨"s".toList, .stream (.other "first".toList)⟩,
      ⟨"s".toList, .error ⟨"RuntimeError".toList, "boom".toList, "".toList, none⟩⟩,
      ⟨"s".toList, .finish⟩] :=
  (executeRequestInThread_protocol (fun _ _ => none) (.greenlet true) "s".toList
    (fun count => List.replicate count '0') failingHandler).1 (fun _ _ => rfl) nofun
    (some ⟨"RuntimeError".toList, "boom".toList, "".toList, none⟩) rfl

end DifyPlugin.IoServer
