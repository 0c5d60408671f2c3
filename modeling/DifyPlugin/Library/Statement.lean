import Mathlib.Data.List.Basic

/-!
# Statements that leave a log

A statement appends entries to a log and then completes or raises. `tryExcept` and `tryFinally`
are the two forms of `try`, and `forClosing` is a loop over a generator that is closed when the
loop is left. What a statement does may depend on the log so far, so that a log can decide how
the environment behaves. `Logs` is the specification of a statement by its own entries and its
outcome, with one rule for each form, and `LogsAt` is the one for a given log before it.
-/

namespace DifyPlugin

/-- A generator, with what it does when it is closed where it waits. -/
inductive Generator (α ε : Type) where
  /-- It returns, or raises. -/
  | finish (raised : Option ε)
  /-- It yields a value; `onClose` is what `close` raises there. -/
  | yielding (value : α) (onClose : Option ε) (next : Generator α ε)

namespace Generator

variable {α ε : Type}

/-- The values of a generator that is consumed to its end. -/
def yielded : Generator α ε → List α
  | .finish _ => []
  | .yielding value _ next => value :: next.yielded

/-- The exception that ends a generator that is consumed to its end. -/
def raised : Generator α ε → Option ε
  | .finish raised => raised
  | .yielding _ _ next => next.raised

end Generator

/-- The log behind a statement, and the exception that it raises. -/
structure Ran (η ε : Type) where
  /-- The log. -/
  log : List η
  /-- The exception, when the statement does not complete. -/
  raised : Option ε

/-- A statement, by the log before it. -/
def Statement (η ε : Type) : Type := List η → Ran η ε

namespace Statement

variable {η ε α σ : Type}

/-- Complete, or raise. -/
def outcome (raised : Option ε) : Statement η ε := fun log => ⟨log, raised⟩

/-- Append an entry. -/
def record (entry : η) : Statement η ε := fun log => ⟨log ++ [entry], none⟩

/-- Two statements in order. -/
def andThen (first second : Statement η ε) : Statement η ε := fun log =>
  match (first log).raised with
  | none => second (first log).log
  | some error => ⟨(first log).log, some error⟩

/-- `try: body finally: last`; an exception of `last` replaces the one of `body`. -/
def tryFinally (body last : Statement η ε) : Statement η ε := fun log =>
  let ran := body log
  let left := last ran.log
  ⟨left.log, left.raised.or ran.raised⟩

/-- `try: body except: handler`, where `handler` takes the exceptions that it names. -/
def tryExcept (body : Statement η ε) (handler : ε → Option (Statement η ε)) : Statement η ε :=
  fun log =>
    let ran := body log
    match ran.raised.bind handler with
    | none => ran
    | some handle => handle ran.log

/-- `with closing(generator): for value in generator: body`, where the body takes a state along
and `closed` is the entry of `close`. -/
def forClosing (closed : η) (step : σ → α → σ) (body : σ → α → Statement η ε) :
    σ → Generator α ε → Statement η ε
  | _, .finish raised => tryFinally (outcome raised) (record closed)
  | state, .yielding value onClose next =>
    andThen
      (tryExcept (body state value) fun error =>
        some (tryFinally (outcome (some error)) (andThen (record closed) (outcome onClose))))
      (forClosing closed step body (step state value) next)

/-- The statement only appends to the log, and its entries and its outcome are as given. -/
def Logs (statement : Statement η ε) (post : List η → Option ε → Prop) : Prop :=
  ∀ log, ∃ added, (statement log).log = log ++ added ∧ post added (statement log).raised

variable {statement first second body last : Statement η ε}
  {post middle final : List η → Option ε → Prop}

/-- A specification may be weakened. -/
theorem Logs.mono (logs : Logs statement middle)
    (weaker : ∀ added raised, middle added raised → post added raised) : Logs statement post := by
  intro log
  obtain ⟨added, appended, met⟩ := logs log
  exact ⟨added, appended, weaker _ _ met⟩

/-- The rule of `outcome`. -/
theorem Logs.outcome {raised : Option ε} (met : post [] raised) :
    Logs (Statement.outcome raised) post :=
  fun log => ⟨[], (List.append_nil log).symm, met⟩

/-- The rule of `record`. -/
theorem Logs.record {entry : η} (met : post [entry] none) : Logs (Statement.record entry) post :=
  fun _ => ⟨[entry], rfl, met⟩

/-- `outcome` logs nothing. -/
theorem logs_outcome (raised : Option ε) :
    Logs (Statement.outcome raised : Statement η ε) fun added left =>
      added = [] ∧ left = raised :=
  Logs.outcome ⟨rfl, rfl⟩

/-- `record` logs its entry and completes. -/
theorem logs_record (entry : η) :
    Logs (Statement.record entry : Statement η ε) fun added left =>
      added = [entry] ∧ left = none :=
  Logs.record ⟨rfl, rfl⟩

/-- The statement only appends to this log, and its entries and its outcome are as given. -/
def LogsAt (statement : Statement η ε) (log : List η) (post : List η → Option ε → Prop) : Prop :=
  ∃ added, (statement log).log = log ++ added ∧ post added (statement log).raised

/-- What holds for every log holds at one. -/
theorem Logs.atLog (logs : Logs statement post) (log : List η) : LogsAt statement log post :=
  logs log

/-- The rule of `outcome` at a log. -/
theorem LogsAt.outcome {log : List η} {raised : Option ε} (met : post [] raised) :
    LogsAt (Statement.outcome raised) log post :=
  (Logs.outcome met).atLog log

/-- The rule of `andThen` at a log, where the second statement begins behind the entries of the
first. -/
theorem LogsAt.andThen {log : List η} (before : LogsAt first log middle)
    (stops : ∀ added error, middle added (some error) → post added (some error))
    (joins : ∀ added, middle added none →
      LogsAt second (log ++ added) fun more raised => post (added ++ more) raised) :
    LogsAt (first.andThen second) log post := by
  obtain ⟨added, appended, met⟩ := before
  cases ended : (first log).raised with
  | some error =>
    rw [ended] at met
    have ran : first.andThen second log = ⟨(first log).log, some error⟩ := by
      simp only [Statement.andThen, ended]
    rw [LogsAt, ran]
    exact ⟨added, appended, stops _ _ met⟩
  | none =>
    rw [ended] at met
    have ran : first.andThen second log = second (log ++ added) := by
      simp only [Statement.andThen, ended, appended]
    obtain ⟨more, extended, reached⟩ := joins added met
    rw [LogsAt, ran]
    refine ⟨added ++ more, ?_, reached⟩
    rw [extended, List.append_assoc]

/-- The rule of `tryFinally` at a log. -/
theorem LogsAt.tryFinally {log : List η} (before : LogsAt body log middle)
    (after : Logs last final)
    (joins : ∀ added more raised failed, middle added raised → final more failed →
      post (added ++ more) (failed.or raised)) :
    LogsAt (body.tryFinally last) log post := by
  obtain ⟨added, appended, met⟩ := before
  obtain ⟨more, extended, reached⟩ := after (body log).log
  refine ⟨added ++ more, ?_, joins _ _ _ _ met reached⟩
  show (last (body log).log).log = log ++ (added ++ more)
  rw [extended, appended, List.append_assoc]

/-- The rule of `andThen`. -/
theorem Logs.andThen (before : Logs first middle) (after : Logs second final)
    (stops : ∀ added error, middle added (some error) → post added (some error))
    (joins : ∀ added more raised, middle added none → final more raised →
      post (added ++ more) raised) :
    Logs (first.andThen second) post := by
  intro log
  apply LogsAt.andThen (before.atLog log) stops
  intro added met
  obtain ⟨more, extended, reached⟩ := after (log ++ added)
  exact ⟨more, extended, joins _ _ _ met reached⟩

/-- The rule of `tryFinally`. -/
theorem Logs.tryFinally (before : Logs body middle) (after : Logs last final)
    (joins : ∀ added more raised failed, middle added raised → final more failed →
      post (added ++ more) (failed.or raised)) :
    Logs (body.tryFinally last) post := by
  intro log
  exact LogsAt.tryFinally (before.atLog log) after joins

/-- The rule of `tryExcept`. -/
theorem Logs.tryExcept {handler : ε → Option (Statement η ε)} (before : Logs body middle)
    (passes : ∀ added raised, middle added raised → raised.bind handler = none →
      post added raised)
    (handles : ∀ added error handle, middle added (some error) → handler error = some handle →
      Logs handle fun more raised => post (added ++ more) raised) :
    Logs (body.tryExcept handler) post := by
  intro log
  obtain ⟨added, appended, met⟩ := before log
  cases found : (body log).raised.bind handler with
  | none =>
    have ran : body.tryExcept handler log = body log := by simp only [Statement.tryExcept, found]
    rw [ran]
    exact ⟨added, appended, passes _ _ met found⟩
  | some handle =>
    have ran : body.tryExcept handler log = handle (body log).log := by
      simp only [Statement.tryExcept, found]
    obtain ⟨error, ended, named⟩ := Option.bind_eq_some_iff.mp found
    rw [ended] at met
    obtain ⟨more, extended, reached⟩ := handles _ _ _ met named (body log).log
    rw [ran]
    refine ⟨added ++ more, ?_, reached⟩
    rw [extended, appended, List.append_assoc]

/-- The rule of `forClosing`: a round that completes is followed by the rest of the loop, and one
that raises by `close`. -/
theorem Logs.forClosing {closed : η} {step : σ → α → σ} {round : σ → α → Statement η ε}
    {middle : σ → α → List η → Option ε → Prop}
    {post : σ → Generator α ε → List η → Option ε → Prop}
    (rounds : ∀ state value, Logs (round state value) (middle state value))
    (finishes : ∀ state raised, post state (.finish raised) [closed] raised)
    (continues : ∀ state value onClose next added more raised,
      middle state value added none → post (step state value) next more raised →
      post state (.yielding value onClose next) (added ++ more) raised)
    (breaks : ∀ state value onClose next added error,
      middle state value added (some error) →
      post state (.yielding value onClose next) (added ++ [closed]) (onClose.or (some error)))
    (state : σ) (generator : Generator α ε) :
    Logs (Statement.forClosing closed step round state generator) (post state generator) := by
  induction generator generalizing state with
  | finish raised =>
    apply Logs.tryFinally (logs_outcome raised) (logs_record closed)
    rintro added more left failed ⟨rfl, rfl⟩ ⟨rfl, rfl⟩
    exact finishes state left
  | yielding value onClose next ih =>
    have closes (error : ε) : Logs (Statement.tryFinally (Statement.outcome (some error))
        (Statement.andThen (Statement.record closed) (Statement.outcome onClose)))
        fun added left => added = [closed] ∧ left = onClose.or (some error) := by
      have closing : Logs (Statement.andThen (Statement.record closed)
          (Statement.outcome onClose)) fun added left => added = [closed] ∧ left = onClose := by
        apply Logs.andThen (logs_record closed) (logs_outcome onClose)
        · rintro added failure ⟨-, impossible⟩
          exact absurd impossible (by simp)
        · rintro added more left ⟨rfl, -⟩ ⟨rfl, rfl⟩
          exact ⟨rfl, rfl⟩
      apply Logs.tryFinally (logs_outcome (some error)) closing
      rintro added more left failed ⟨rfl, rfl⟩ ⟨rfl, rfl⟩
      exact ⟨rfl, rfl⟩
    -- a round leaves the loop when it raises, and then the generator was closed
    have leaves : Logs (Statement.tryExcept (round state value) fun error =>
        some (Statement.tryFinally (Statement.outcome (some error))
          (Statement.andThen (Statement.record closed) (Statement.outcome onClose))))
        fun added raised => (raised = none ∧ middle state value added none) ∨
          ∃ before error, added = before ++ [closed] ∧
            middle state value before (some error) ∧ raised = onClose.or (some error) := by
      apply Logs.tryExcept (rounds state value)
      · intro added raised met unhandled
        cases raised with
        | none => exact Or.inl ⟨rfl, met⟩
        | some error => exact absurd unhandled (by simp)
      · intro added error handle met handled
        obtain rfl := Option.some.inj handled
        apply (closes error).mono
        rintro more raised ⟨rfl, rfl⟩
        exact Or.inr ⟨added, error, rfl, met, rfl⟩
    apply Logs.andThen leaves (ih (step state value))
    · intro added error left
      rcases left with ⟨completes, -⟩ | ⟨before, failure, rfl, met, raised⟩
      · exact absurd completes (by simp)
      · rw [raised]
        exact breaks state value onClose next before failure met
    · intro added more raised left rest
      rcases left with ⟨-, met⟩ | ⟨before, failure, -, -, raised⟩
      · exact continues state value onClose next added more raised met rest
      · cases onClose with
        | none => exact absurd raised (by simp)
        | some other => exact absurd raised (by simp)

/-- Every entry that the statement appends is as given. -/
def Every (statement : Statement η ε) (holds : η → Prop) : Prop :=
  statement.Logs fun added _ => ∀ entry ∈ added, holds entry

section Every

variable {holds : η → Prop}

/-- `outcome` appends nothing. -/
theorem Every.outcome (raised : Option ε) : Every (Statement.outcome raised) holds :=
  Logs.outcome (by simp)

/-- The rule of `record` for its entry. -/
theorem Every.record {entry : η} (met : holds entry) :
    Every (Statement.record entry : Statement η ε) holds :=
  Logs.record (by simpa using met)

/-- The entries of two statements in order. -/
theorem Every.andThen (before : Every first holds) (after : Every second holds) :
    Every (first.andThen second) holds := by
  apply Logs.andThen before after
  · intro added error met
    exact met
  · intro added more raised met reached
    exact List.forall_mem_append.mpr ⟨met, reached⟩

/-- The entries of a body and of what stands in its `finally`. -/
theorem Every.tryFinally (before : Every body holds) (after : Every last holds) :
    Every (body.tryFinally last) holds := by
  apply Logs.tryFinally before after
  intro added more raised failed met reached
  exact List.forall_mem_append.mpr ⟨met, reached⟩

/-- The entries of a body and of the handler that takes its exception. -/
theorem Every.tryExcept {handler : ε → Option (Statement η ε)} (before : Every body holds)
    (handles : ∀ error handle, handler error = some handle → Every handle holds) :
    Every (body.tryExcept handler) holds := by
  apply Logs.tryExcept before
  · intro added raised met _
    exact met
  · intro added error handle met handled
    apply (handles error handle handled).mono
    intro more raised reached
    exact List.forall_mem_append.mpr ⟨met, reached⟩

/-- The entries of the rounds of a loop and of its `close`. -/
theorem Every.forClosing {closed : η} {step : σ → α → σ} {round : σ → α → Statement η ε}
    (closes : holds closed) (rounds : ∀ state value, Every (round state value) holds)
    (state : σ) (generator : Generator α ε) :
    Every (Statement.forClosing closed step round state generator) holds := by
  have last : ∀ entry ∈ [closed], holds entry := by simpa using closes
  apply Logs.forClosing rounds
  · intro state raised
    exact last
  · intro state value onClose next added more raised met rest
    exact List.forall_mem_append.mpr ⟨met, rest⟩
  · intro state value onClose next added error met
    exact List.forall_mem_append.mpr ⟨met, last⟩

end Every

end Statement

end DifyPlugin
