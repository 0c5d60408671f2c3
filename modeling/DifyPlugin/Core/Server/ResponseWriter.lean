import DifyPlugin.Library.Statement
import DifyPlugin.Library.Str

/-!
# Session frames

`ResponseWriter.session_message` serializes a session message and writes it; either may raise.
Whether it does is decided by a function of the log, which records every attempt, so that a
writer may fail at any position.
-/

namespace DifyPlugin.Server

/-- An instance of `Exception`, by what an error frame takes from it. -/
structure Error where
  /-- `type(e).__name__`. -/
  errorType : Text
  /-- `str(e)`. -/
  message : Text
  /-- `traceback.format_exc()`. -/
  traceback : Text
  /-- `e.description`, of an `InvokeError`. -/
  description : Option (Option Text)
  deriving DecidableEq

/-- Something that is raised. -/
inductive Raised where
  /-- An `Exception`. -/
  | exception (error : Error)
  /-- `GreenletExit`, which a cancelled greenlet raises. -/
  | greenletExit
  /-- Any other `BaseException`. -/
  | other
  deriving DecidableEq

/-- The data of an error frame. -/
structure ErrorObject where
  /-- `error_type`. -/
  errorType : Text
  /-- `message`. -/
  message : Text
  /-- `args["traceback"]`. -/
  traceback : Text
  /-- `args["description"]`, when it is there. -/
  description : Option (Option Text)
  deriving DecidableEq

/-- `SessionMessage`, of the types that end or belong to the response. -/
inductive SessionMessage (δ : Type) where
  /-- `stream_object`. -/
  | stream (data : δ)
  /-- `stream_error_object`. -/
  | error (data : ErrorObject)
  /-- `stream_end_object`. -/
  | finish
  deriving DecidableEq

/-- `StreamOutputMessage`, of the event `session`. -/
structure SessionFrame (δ : Type) where
  /-- `session_id`. -/
  sessionId : Text
  /-- `data`. -/
  data : SessionMessage δ
  deriving DecidableEq

/-- What happens while a request is executed. -/
inductive Entry (δ : Type) where
  /-- A frame is written. -/
  | wrote (frame : SessionFrame δ)
  /-- Writing a frame raises. -/
  | failed (frame : SessionFrame δ)
  /-- `close` of the handler's generator. -/
  | closed
  /-- `writer.done`. -/
  | done
  deriving DecidableEq

/-- What `session_message` raises, by the log so far. -/
abbrev Writer (δ : Type) : Type := List (Entry δ) → SessionFrame δ → Option Raised

variable {δ : Type}

/-- The frame of an entry. -/
def Entry.written : Entry δ → Option (SessionFrame δ)
  | .wrote frame => some frame
  | _ => none

/-- The entry of a stream frame, written or not. -/
def Entry.Streams : Entry δ → Prop
  | .wrote ⟨_, .stream _⟩ | .failed ⟨_, .stream _⟩ => True
  | _ => False

/-- The entry of a failed write. -/
def Entry.Fails : Entry δ → Prop
  | .failed _ => True
  | _ => False

/-- `writer.session_message(session_id=session_id, data=data)`. -/
def sessionMessage (writer : Writer δ) (sessionId : Text) (data : SessionMessage δ) :
    Statement (Entry δ) Raised := fun log =>
  match writer log ⟨sessionId, data⟩ with
  | none => ⟨log ++ [.wrote ⟨sessionId, data⟩], none⟩
  | some error => ⟨log ++ [.failed ⟨sessionId, data⟩], some error⟩

/-- Stream frames in order. -/
def streamAll (writer : Writer δ) (sessionId : Text) : List δ → Statement (Entry δ) Raised
  | [] => Statement.outcome none
  | data :: rest =>
    (sessionMessage writer sessionId (.stream data)).andThen (streamAll writer sessionId rest)

/-- The frame is written, or it fails and the failure is raised. -/
theorem logs_sessionMessage (writer : Writer δ) (sessionId : Text) (data : SessionMessage δ) :
    (sessionMessage writer sessionId data).Logs fun added raised =>
      (added = [.wrote ⟨sessionId, data⟩] ∧ raised = none) ∨
        (added = [.failed ⟨sessionId, data⟩] ∧ raised ≠ none) := by
  intro log
  cases decided : writer log ⟨sessionId, data⟩ with
  | none =>
    refine ⟨[.wrote ⟨sessionId, data⟩], ?_, Or.inl ⟨rfl, ?_⟩⟩ <;>
      simp only [sessionMessage, decided]
  | some error =>
    refine ⟨[.failed ⟨sessionId, data⟩], ?_, Or.inr ⟨rfl, ?_⟩⟩ <;>
      simp [sessionMessage, decided]

/-- A writer that does not fail writes the frame. -/
theorem logs_sessionMessage_works {writer : Writer δ} (works : ∀ log frame, writer log frame = none)
    (sessionId : Text) (data : SessionMessage δ) :
    (sessionMessage writer sessionId data).Logs fun added raised =>
      added = [.wrote ⟨sessionId, data⟩] ∧ raised = none := by
  intro log
  refine ⟨[.wrote ⟨sessionId, data⟩], ?_, rfl, ?_⟩ <;> simp only [sessionMessage, works]

/-- A writer that does not fail writes the stream frames. -/
theorem logs_streamAll_works {writer : Writer δ} (works : ∀ log frame, writer log frame = none)
    (sessionId : Text) (messages : List δ) :
    (streamAll writer sessionId messages).Logs fun added raised =>
      added = messages.map (fun data => Entry.wrote ⟨sessionId, .stream data⟩) ∧ raised = none := by
  induction messages with
  | nil => exact Statement.Logs.outcome ⟨rfl, rfl⟩
  | cons data rest ih =>
    apply Statement.Logs.andThen (logs_sessionMessage_works works sessionId _) ih
    · intro added error met
      exact absurd met.2 (by simp)
    · intro added more raised first others
      rw [first.1, others.1]
      exact ⟨rfl, others.2⟩

/-- The entries of a handler: it is not done, and no stream frame follows a failed write. -/
structure Orderly (added : List (Entry δ)) : Prop where
  /-- The writer is not finished. -/
  undone : Entry.done ∉ added
  /-- Nothing is streamed behind a failed write. -/
  stops : added.Pairwise fun earlier later => earlier.Fails → ¬ later.Streams

/-- Entries of which none fails may stand in front. -/
theorem Orderly.append {added more : List (Entry δ)} (first : Orderly added)
    (works : ∀ entry ∈ added, ¬ entry.Fails) (second : Orderly more) : Orderly (added ++ more) := by
  constructor
  · intro listed
    rcases List.mem_append.mp listed with early | late
    · exact first.undone early
    · exact second.undone late
  · refine List.pairwise_append.mpr ⟨first.stops, second.stops, ?_⟩
    intro earlier listed later _ fails
    exact absurd fails (works earlier listed)

/-- Entries that are no stream frames may follow. -/
theorem Orderly.append_quiet {added more : List (Entry δ)} (first : Orderly added)
    (second : Orderly more) (quiet : ∀ entry ∈ more, ¬ entry.Streams) :
    Orderly (added ++ more) := by
  constructor
  · intro listed
    rcases List.mem_append.mp listed with early | late
    · exact first.undone early
    · exact second.undone late
  · refine List.pairwise_append.mpr ⟨first.stops, second.stops, ?_⟩
    intro _ _ later listed _
    exact quiet later listed

/-- A single entry is orderly. -/
theorem Orderly.single {entry : Entry δ} (undone : entry ≠ .done) : Orderly [entry] :=
  ⟨fun listed => undone (List.mem_singleton.mp listed).symm, List.pairwise_singleton _ _⟩

/-- Stream frames are orderly, and when they complete none failed. -/
theorem logs_streamAll (writer : Writer δ) (sessionId : Text) (messages : List δ) :
    (streamAll writer sessionId messages).Logs fun added raised =>
      Orderly added ∧ (raised = none → ∀ entry ∈ added, ¬ entry.Fails) := by
  induction messages with
  | nil => exact Statement.Logs.outcome ⟨⟨List.not_mem_nil, List.Pairwise.nil⟩, fun _ => nofun⟩
  | cons data rest ih =>
    apply Statement.Logs.andThen (logs_sessionMessage writer sessionId _) ih
    · intro added error met
      rcases met with ⟨-, completes⟩ | ⟨rfl, -⟩
      · exact absurd completes (by simp)
      · exact ⟨Orderly.single nofun, nofun⟩
    · intro added more raised first others
      rcases first with ⟨rfl, -⟩ | ⟨-, fails⟩
      · have works : ∀ entry ∈ [Entry.wrote ⟨sessionId, .stream data⟩], ¬ entry.Fails := by
          simp [Entry.Fails]
        refine ⟨Orderly.append (Orderly.single nofun) works others.1, ?_⟩
        intro completes entry listed
        rcases List.mem_append.mp listed with early | late
        · exact works entry early
        · exact others.2 completes entry late
      · exact absurd rfl fails

end DifyPlugin.Server
