import DifyPlugin.Library.Interleaving
import DifyPlugin.Library.Statement
import DifyPlugin.Library.Str
import Mathlib.Algebra.Order.Field.Rat

/-!
# Invocations of one model instance

`AIModel.timing_context` lets one invocation of an instance at a time into its timed block, where
the code of the provider runs, and `started_at` is the time at which it entered. An invocation may
wait inside the block: while the provider waits for its service, and while a stream waits for its
consumer. Between two of these points a step is atomic, since the threads are greenlets: the SDK
patches `threading` with gevent, so another one runs only where this one waits.
`_transform_invoke_error` turns what the provider raises into an `InvokeError`.
-/

namespace DifyPlugin.TimingContext

open Interleaving

/-- What is raised; `κ` are the classes of exceptions. -/
inductive Raised (κ : Type) where
  /-- An instance of `Exception`, by its class and `str`. -/
  | exception (kind : κ) (text : Text)
  /-- Any other `BaseException`, such as `GeneratorExit`. -/
  | base
  deriving DecidableEq

/-- The classes of exceptions and the model's mapping of them. -/
structure Errors (κ : Type) where
  /-- `issubclass`. -/
  isSubclass : κ → κ → Bool
  /-- `InvokeError`. -/
  invokeError : κ
  /-- `InvokeAuthorizationError`. -/
  invokeAuthorizationError : κ
  /-- `TimingContextRaceConditionError`. -/
  timingContextRaceConditionError : κ
  /-- The text of the class attribute `description`. -/
  description : κ → Text
  /-- `self.__class__.__module__.split(".")[-3:][0]`. -/
  providerName : Text
  /-- `_invoke_error_mapping`. -/
  invokeErrorMapping : List (κ × List κ)
  /-- A class is a subclass of itself. -/
  reflexive : isSubclass invokeError invokeError = true
  /-- The keys of the mapping are `type[InvokeError]`. -/
  mapped : ∀ entry ∈ invokeErrorMapping, isSubclass entry.1 invokeError = true

/-- The methods that invoke a model. -/
inductive Method where
  /-- `LargeLanguageModel.invoke`, a generator. -/
  | invokeLlm
  /-- `TTSModel.invoke`, which may return a generator. -/
  | invokeTts
  /-- A method that returns what the provider returns, such as `ModerationModel.invoke`. -/
  | plain
  deriving DecidableEq

/-- What `_invoke` returns. -/
inductive Result (κ α : Type) where
  /-- A value. -/
  | value (value : α)
  /-- A generator. -/
  | stream (chunks : Generator α (Raised κ))

/-- An invocation, with what the provider does in it. -/
structure Invocation (κ α : Type) where
  /-- The method. -/
  method : Method
  /-- What `_validate_and_filter_model_parameters` raises. -/
  validate : Option (Raised κ)
  /-- `_invoke`. -/
  invoke : Except (Raised κ) (Result κ α)

/-- How an invocation ends. -/
inductive Exit (κ : Type) where
  /-- It returned, or its generator did. -/
  | returned
  /-- It raised. -/
  | raised (raised : Raised κ)
  /-- Its generator was closed. -/
  | closed

/-- Where an invocation stands. -/
inductive Pc (κ α : Type) where
  /-- It has not begun. -/
  | ready
  /-- `_invoke` runs, in the timed block. -/
  | calling
  /-- The generator of the provider runs, in the timed block. -/
  | running (chunks : Generator α (Raised κ))
  /-- A chunk was yielded out of the timed block. -/
  | waiting (onClose : Option (Raised κ)) (rest : Generator α (Raised κ))
  /-- The generator of the provider is closed, in the timed block. -/
  | closing (onClose : Option (Raised κ))
  /-- The generator of `TTSModel.invoke` is made and has not begun. -/
  | made (chunks : Generator α (Raised κ))
  /-- It has ended. -/
  | done (exit : Exit κ)

/-- How an invocation goes on. -/
inductive Event where
  /-- It is called, or its generator is asked for the first time; `reading` is what
  `perf_counter` returns. -/
  | start (reading : ℚ)
  /-- The code of the provider comes to its result. -/
  | outcome
  /-- The consumer asks for the next chunk. -/
  | next
  /-- The consumer closes the generator. -/
  | close

/-- The instance. -/
structure Instance where
  /-- `started_at`. -/
  startedAt : ℚ
  /-- The time at which each invocation last entered its timed block. -/
  entered : Nat → ℚ

variable {κ α : Type}

/-- What a generator may raise, at its end or when it is closed. -/
def mayRaise : Generator α (Raised κ) → List (Raised κ)
  | .finish raised => raised.toList
  | .yielding _ onClose rest => onClose.toList ++ mayRaise rest

/-- What the provider may raise in an invocation. -/
def Invocation.mayRaise (invocation : Invocation κ α) : List (Raised κ) :=
  match invocation.invoke with
  | .error error => [error]
  | .ok (.value _) => []
  | .ok (.stream chunks) => TimingContext.mayRaise chunks

/-- It is in its timed block. -/
def Pc.inside : Pc κ α → Bool
  | .calling | .running _ | .waiting .. | .closing _ => true
  | .ready | .made _ | .done _ => false

section Steps

variable [DecidableEq κ] (errors : Errors κ)

/-- `_transform_invoke_error`. -/
def transformInvokeError (kind : κ) (text : Text) : Raised κ :=
  match errors.invokeErrorMapping.find? fun entry => entry.2.any (errors.isSubclass kind) with
  | some (invokeError, _) =>
    if invokeError = errors.invokeAuthorizationError then
      .exception invokeError ("[".toList ++ errors.providerName ++
        "] Incorrect model credentials provided, please check and try again. ".toList)
    else
      .exception invokeError ("[".toList ++ errors.providerName ++ "] ".toList ++
        errors.description invokeError ++ ", ".toList ++ text)
  | none =>
    .exception errors.invokeError ("[".toList ++ errors.providerName ++ "] Error: ".toList ++ text)

/-- The `except` clauses around the code of the provider; `LargeLanguageModel.invoke` has one more,
which passes an `InvokeError` on. -/
def convert (method : Method) : Raised κ → Raised κ
  | .base => .base
  | .exception kind text =>
    if method = .invokeLlm ∧ errors.isSubclass kind errors.invokeError = true then
      .exception kind text
    else transformInvokeError errors kind text

/-- What is raised when `started_at` is set already. -/
def raceError : Raised κ :=
  .exception errors.timingContextRaceConditionError
    ("Timing context has been started, DO NOT start it in " ++ "multi-threaded environment.").toList

/-- `timing_context` is entered. -/
def enter (number : Nat) (reading : ℚ) (sh : Instance) (inside : Pc κ α) :
    Instance × Pc κ α :=
  if sh.startedAt ≠ 0 then (sh, .done (.raised (raceError errors)))
  else (⟨reading, Function.update sh.entered number reading⟩, inside)

/-- `timing_context` is left. -/
def leave (sh : Instance) (outside : Pc κ α) : Instance × Pc κ α :=
  ({ sh with startedAt := 0 }, outside)

/-- The timed block ends with what the provider raised. -/
def fail (method : Method) (sh : Instance) (raised : Raised κ) : Instance × Pc κ α :=
  leave sh (.done (.raised (convert errors method raised)))

/-- An invocation begins. -/
def start (invocation : Invocation κ α) (number : Nat) (reading : ℚ) (sh : Instance) :
    Instance × Pc κ α :=
  match invocation.method, invocation.validate with
  | .invokeLlm, some error => (sh, .done (.raised error))
  | _, _ => enter errors number reading sh .calling

/-- `_invoke` returned or raised. -/
def invoked (invocation : Invocation κ α) (sh : Instance) : Instance × Pc κ α :=
  match invocation.invoke, invocation.method with
  | .error error, method => fail errors method sh error
  | .ok (.value _), .invokeLlm => (sh, .waiting none (.finish none))
  | .ok (.stream chunks), .invokeLlm => (sh, .running chunks)
  | .ok (.stream chunks), .invokeTts => leave sh (.made chunks)
  | .ok _, _ => leave sh (.done .returned)

/-- The generator of the provider yielded, returned or raised. -/
def advance (method : Method) (sh : Instance) : Generator α (Raised κ) → Instance × Pc κ α
  | .yielding _ onClose rest => (sh, .waiting onClose rest)
  | .finish none => leave sh (.done .returned)
  | .finish (some error) => fail errors method sh error

/-- The generator of the provider was closed. -/
def closed (method : Method) (sh : Instance) : Option (Raised κ) → Instance × Pc κ α
  | none => leave sh (.done .closed)
  | some error => fail errors method sh error

/-- An invocation goes from one point to the next one. -/
def step (invocations : Nat → Invocation κ α) (number : Nat) (event : Event) (sh : Instance)
    (pc : Pc κ α) : Option (Instance × Pc κ α) :=
  let method := (invocations number).method
  match pc, event with
  | .ready, .start reading => some (start errors (invocations number) number reading sh)
  | .calling, .outcome => some (invoked errors (invocations number) sh)
  | .made chunks, .start reading => some (enter errors number reading sh (.running chunks))
  | .running chunks, .outcome => some (advance errors method sh chunks)
  | .waiting _ rest, .next => some (sh, .running rest)
  | .waiting onClose _, .close => some (sh, .closing onClose)
  | .closing onClose, .outcome => some (closed errors method sh onClose)
  | .made _, .close => some (sh, .done .closed)
  | .ready, .close => if method = .invokeLlm then some (sh, .done .closed) else none
  | _, _ => none

/-- The invocations of one instance. -/
def machine (invocations : Nat → Invocation κ α) : Machine Instance (Pc κ α) Event :=
  ⟨step errors invocations⟩

/-- `perf_counter` does not return 0. -/
def ticking (_ : Pool Instance (Pc κ α)) (_ : Nat) (event : Event) : Bool :=
  match event with
  | .start reading => reading ≠ 0
  | _ => true

end Steps

/-- Nothing has begun. -/
def initial : Pool Instance (Pc κ α) := ⟨⟨0, fun _ => 0⟩, fun _ => .ready⟩

/-- The invariant of the instance: `started_at` is the time at which the invocation inside entered,
and there is no more than one. -/
structure Exclusive (pool : Pool Instance (Pc κ α)) : Prop where
  /-- One invocation at most is inside. -/
  single : ∀ one other, (pool.control one).inside = true → (pool.control other).inside = true →
    one = other
  /-- The time is the one of the invocation inside. -/
  timed : ∀ number, (pool.control number).inside = true →
    pool.shared.startedAt = pool.shared.entered number ∧ pool.shared.startedAt ≠ 0
  /-- Without an invocation inside no time is set. -/
  free : (∀ number, (pool.control number).inside = false) → pool.shared.startedAt = 0

namespace Exclusive

variable {pool : Pool Instance (Pc κ α)} (exclusive : Exclusive pool) {number : Nat}
include exclusive

/-- An invocation goes on and stays inside or outside. -/
theorem stay {pc : Pc κ α} (same : pc.inside = (pool.control number).inside) :
    Exclusive ⟨pool.shared, Function.update pool.control number pc⟩ := by
  have insides (other : Nat) :
      (Function.update pool.control number pc other).inside = (pool.control other).inside := by
    by_cases equal : other = number
    · rw [equal, Function.update_self, same]
    · rw [Function.update_of_ne equal]
  constructor
  · intro one other first second
    rw [insides] at first second
    exact exclusive.single one other first second
  · intro other within
    rw [insides] at within
    exact exclusive.timed other within
  · intro outside
    apply exclusive.free
    intro other
    rw [← insides]
    exact outside other

/-- When no time is set, nothing is inside. -/
theorem nothing (unset : pool.shared.startedAt = 0) (other : Nat) :
    (pool.control other).inside = false := by
  by_contra within
  exact (exclusive.timed other (Bool.not_eq_false _ ▸ within)).2 unset

/-- An invocation enters while no time is set. -/
theorem enters {pc : Pc κ α} {reading : ℚ} (ticks : reading ≠ 0)
    (unset : pool.shared.startedAt = 0) (within : pc.inside = true) :
    Exclusive ⟨⟨reading, Function.update pool.shared.entered number reading⟩,
      Function.update pool.control number pc⟩ := by
  have only (other : Nat) (inside : (Function.update pool.control number pc other).inside = true) :
      other = number := by
    by_contra apart
    rw [Function.update_of_ne apart, exclusive.nothing unset] at inside
    contradiction
  constructor
  · intro one other first second
    rw [only one first, only other second]
  · intro other inside
    rw [only other inside]
    simp only [Function.update_self]
    exact ⟨trivial, ticks⟩
  · intro outside
    have contrary := outside number
    simp only [Function.update_self, within] at contrary
    contradiction

/-- The invocation inside leaves. -/
theorem leaves {pc : Pc κ α} (within : (pool.control number).inside = true)
    (out : pc.inside = false) :
    Exclusive ⟨{ pool.shared with startedAt := 0 }, Function.update pool.control number pc⟩ := by
  have outside (other : Nat) : (Function.update pool.control number pc other).inside = false := by
    by_cases equal : other = number
    · rw [equal, Function.update_self, out]
    · rw [Function.update_of_ne equal]
      by_contra also
      exact equal (exclusive.single other number (Bool.not_eq_false _ ▸ also) within)
  constructor
  · intro one other first
    rw [outside] at first
    contradiction
  · intro other first
    rw [outside] at first
    contradiction
  · intro _
    rfl

end Exclusive

/-- What a step does: the invocation stays on its side, it enters while no time is set, or it
leaves. -/
inductive Moves (number : Nat) (event : Event) (sh : Instance) (pc : Pc κ α) :
    Instance → Pc κ α → Prop where
  /-- Inside or outside as before. -/
  | stays (next : Pc κ α) (same : next.inside = pc.inside) : Moves number event sh pc sh next
  /-- It enters. -/
  | enters (reading : ℚ) (next : Pc κ α) (starts : event = .start reading)
    (unset : sh.startedAt = 0) (within : next.inside = true) :
    Moves number event sh pc ⟨reading, Function.update sh.entered number reading⟩ next
  /-- It leaves. -/
  | leaves (next : Pc κ α) (within : pc.inside = true) (out : next.inside = false) :
    Moves number event sh pc { sh with startedAt := 0 } next

/-- Entering succeeds while no time is set, and is refused otherwise. -/
theorem moves_enter {errors : Errors κ} {number : Nat} {reading : ℚ} {sh : Instance}
    {pc inside : Pc κ α}
    (outside : pc.inside = false) (within : inside.inside = true) :
    Moves number (.start reading) sh pc (enter errors number reading sh inside).1
      (enter errors number reading sh inside).2 := by
  by_cases set : sh.startedAt ≠ 0
  · rw [enter, if_pos set]
    exact .stays _ outside.symm
  · rw [enter, if_neg set]
    exact .enters reading inside rfl (not_not.mp set) within

section Runs

variable [DecidableEq κ] {errors : Errors κ}

/-- What the provider may still raise. -/
def Pc.pending (invocation : Invocation κ α) : Pc κ α → List (Raised κ)
  | .ready | .calling => invocation.mayRaise
  | .running chunks | .made chunks => mayRaise chunks
  | .waiting onClose rest => onClose.toList ++ mayRaise rest
  | .closing onClose => onClose.toList
  | .done _ => []

/-- An exception that an invocation may raise: a second one inside is refused, parameters may be
invalid, and what the provider raised is converted. -/
def Accounted (errors : Errors κ) (invocation : Invocation κ α) (raised : Raised κ) : Prop :=
  raised = raceError errors ∨
    (invocation.method = .invokeLlm ∧ invocation.validate = some raised) ∨
    ∃ error ∈ invocation.mayRaise, raised = convert errors invocation.method error

/-- Where an invocation stands: what may still be raised is the provider's, and what was raised is
accounted for. -/
structure Sound (errors : Errors κ) (invocation : Invocation κ α) (pc : Pc κ α) : Prop where
  /-- The provider may raise it. -/
  pending : ∀ error ∈ pc.pending invocation, error ∈ invocation.mayRaise
  /-- The exception is accounted for. -/
  raised : ∀ raised, pc = .done (.raised raised) → Accounted errors invocation raised

/-- A provider that raised leaves. -/
theorem moves_fail {number : Nat} {event : Event} {method : Method} {sh : Instance} {pc : Pc κ α}
    (within : pc.inside = true) (error : Raised κ) :
    Moves number event sh pc (fail errors method sh error : Instance × Pc κ α).1
      (fail errors method sh error).2 :=
  .leaves _ within rfl

variable {invocations : Nat → Invocation κ α}

/-- What each step does. -/
theorem moves_of_step {number : Nat} {event : Event} {sh sh' : Instance} {pc pc' : Pc κ α}
    (stepped : step errors invocations number event sh pc = some (sh', pc')) :
    Moves number event sh pc sh' pc' := by
  have same {pair : Instance × Pc κ α} (found : some pair = some (sh', pc')) :
      pair.1 = sh' ∧ pair.2 = pc' := by
    rw [Option.some.inj found]
    exact ⟨rfl, rfl⟩
  unfold step at stepped
  split at stepped
  · obtain ⟨rfl, rfl⟩ := same stepped
    unfold start
    split
    · exact .stays _ rfl
    · exact moves_enter rfl rfl
  · obtain ⟨rfl, rfl⟩ := same stepped
    unfold invoked
    split
    · exact moves_fail rfl _
    · exact .stays _ rfl
    · exact .stays _ rfl
    · exact .leaves _ rfl rfl
    · exact .leaves _ rfl rfl
  · obtain ⟨rfl, rfl⟩ := same stepped
    exact moves_enter rfl rfl
  · obtain ⟨rfl, rfl⟩ := same stepped
    unfold advance
    split
    · exact .stays _ rfl
    · exact .leaves _ rfl rfl
    · exact moves_fail rfl _
  · obtain ⟨rfl, rfl⟩ := same stepped
    exact .stays _ rfl
  · obtain ⟨rfl, rfl⟩ := same stepped
    exact .stays _ rfl
  · obtain ⟨rfl, rfl⟩ := same stepped
    unfold closed
    split
    · exact .leaves _ rfl rfl
    · exact moves_fail rfl _
  · obtain ⟨rfl, rfl⟩ := same stepped
    exact .stays _ rfl
  · dsimp only at stepped
    split at stepped
    · obtain ⟨rfl, rfl⟩ := same stepped
      exact .stays _ rfl
    · contradiction
  · contradiction

/-- Entering raises the error of a race, or nothing. -/
theorem sound_enter {invocation : Invocation κ α} {number : Nat} {reading : ℚ} {sh : Instance}
    {inside : Pc κ α} (pending : ∀ error ∈ inside.pending invocation, error ∈ invocation.mayRaise)
    (within : inside.inside = true) :
    Sound errors invocation (enter errors number reading sh inside).2 := by
  by_cases set : sh.startedAt ≠ 0
  · rw [enter, if_pos set]
    constructor
    · simp [Pc.pending]
    · intro raised done
      obtain rfl := Exit.raised.inj (Pc.done.inj done)
      exact Or.inl rfl
  · rw [enter, if_neg set]
    refine ⟨pending, ?_⟩
    intro raised done
    obtain rfl : inside = .done (.raised raised) := done
    contradiction

/-- An exception of the provider is converted. -/
theorem sound_fail {invocation : Invocation κ α} {sh : Instance} {error : Raised κ}
    (may : error ∈ invocation.mayRaise) :
    Sound errors invocation (fail errors invocation.method sh error : Instance × Pc κ α).2 where
  pending := by simp [fail, leave, Pc.pending]
  raised raised done := by
    obtain rfl := Exit.raised.inj (Pc.done.inj done)
    exact Or.inr (Or.inr ⟨error, may, rfl⟩)

/-- A step that raises nothing. -/
theorem sound_quiet {invocation : Invocation κ α} {pc : Pc κ α}
    (pending : ∀ error ∈ pc.pending invocation, error ∈ invocation.mayRaise)
    (quiet : ∀ raised, pc ≠ .done (.raised raised)) : Sound errors invocation pc :=
  ⟨pending, fun raised done => absurd done (quiet raised)⟩

/-- A step keeps what may be raised and accounts for what is raised. -/
theorem Sound.step {number : Nat} {event : Event} {sh sh' : Instance} {pc pc' : Pc κ α}
    (sound : Sound errors (invocations number) pc)
    (stepped : step errors invocations number event sh pc = some (sh', pc')) :
    Sound errors (invocations number) pc' := by
  have same {pair : Instance × Pc κ α} (found : some pair = some (sh', pc')) : pair.2 = pc' := by
    rw [Option.some.inj found]
  have pending := sound.pending
  unfold TimingContext.step at stepped
  split at stepped
  · obtain rfl := same stepped
    unfold start
    split
    · rename_i error method validated
      constructor
      · simp [Pc.pending]
      · intro raised done
        obtain rfl := Exit.raised.inj (Pc.done.inj done)
        exact Or.inr (Or.inl ⟨method, validated⟩)
    · exact sound_enter (fun error listed => listed) rfl
  · obtain rfl := same stepped
    unfold invoked
    split
    · rename_i error invoked
      exact sound_fail (by simp [Invocation.mayRaise, invoked])
    · exact sound_quiet (by simp [Pc.pending, mayRaise]) (by simp)
    · rename_i chunks invoked method
      exact sound_quiet (by simp [Pc.pending, Invocation.mayRaise, invoked]) (by simp)
    · rename_i chunks invoked method
      exact sound_quiet (by simp [leave, Pc.pending, Invocation.mayRaise, invoked])
        (by simp [leave])
    · exact sound_quiet (by simp [leave, Pc.pending]) (by simp [leave])
  · obtain rfl := same stepped
    exact sound_enter pending rfl
  · obtain rfl := same stepped
    unfold advance
    split
    · exact sound_quiet pending (by simp)
    · exact sound_quiet (by simp [leave, Pc.pending]) (by simp [leave])
    · rename_i error
      exact sound_fail (pending error (by simp [Pc.pending, mayRaise]))
  · obtain rfl := same stepped
    rename_i rest
    exact sound_quiet (fun error listed => pending error (List.mem_append_right _ listed)) (by simp)
  · obtain rfl := same stepped
    exact sound_quiet (fun error listed => pending error (List.mem_append_left _ listed)) (by simp)
  · obtain rfl := same stepped
    unfold closed
    split
    · exact sound_quiet (by simp [leave, Pc.pending]) (by simp [leave])
    · rename_i error
      exact sound_fail (pending error (by simp [Pc.pending]))
  · obtain rfl := same stepped
    exact sound_quiet (by simp [Pc.pending]) (by simp)
  · dsimp only at stepped
    split at stepped
    · obtain rfl := same stepped
      exact sound_quiet (by simp [Pc.pending]) (by simp)
    · contradiction
  · contradiction

/-- The invariant of the instance and of every invocation. -/
def Holds (errors : Errors κ) (invocations : Nat → Invocation κ α)
    (pool : Pool Instance (Pc κ α)) : Prop :=
  Exclusive pool ∧ ∀ number, Sound errors (invocations number) (pool.control number)

/-- Every step keeps the invariant. -/
theorem Holds.fire {pool next : Pool Instance (Pc κ α)} {number : Nat} {event : Event}
    (holds : Holds errors invocations pool) (ticks : ticking pool number event = true)
    (fired : (machine errors invocations).fire pool number event = some next) :
    Holds errors invocations next := by
  obtain ⟨sh, pc, stepped, rfl⟩ := Machine.fire_eq_some fired
  have stepped : step errors invocations number event pool.shared (pool.control number) =
      some (sh, pc) := stepped
  constructor
  · cases moves_of_step stepped with
    | stays next same => exact holds.1.stay same
    | enters reading next starts unset within =>
      have nonzero : reading ≠ 0 := by simpa [ticking, starts] using ticks
      exact holds.1.enters nonzero unset within
    | leaves next within out => exact holds.1.leaves within out
  · intro other
    by_cases same : other = number
    · subst same
      simp only [Function.update_self]
      exact (holds.2 other).step stepped
    · simp only [Function.update_of_ne same]
      exact holds.2 other

/-- The invariant holds at first. -/
theorem holds_initial : Holds errors invocations initial := by
  constructor
  · constructor
    · intro one other inside
      contradiction
    · intro number inside
      contradiction
    · intro _
      rfl
  · intro number
    exact sound_quiet (fun error listed => listed) (by simp [initial])

/-- Every exception that is transformed becomes an `InvokeError`. -/
theorem transformInvokeError_invokes (kind : κ) (text : Text) :
    ∃ unified description, transformInvokeError errors kind text = .exception unified description ∧
      errors.isSubclass unified errors.invokeError = true := by
  unfold transformInvokeError
  split
  · rename_i unified listed found
    have mapped := errors.mapped _ (List.mem_of_find?_eq_some found)
    split
    · exact ⟨unified, _, rfl, mapped⟩
    · exact ⟨unified, _, rfl, mapped⟩
  · exact ⟨errors.invokeError, _, rfl, errors.reflexive⟩

/-- What leaves the timed block is an `InvokeError`, unless it is no `Exception` at all. -/
theorem convert_invokes (method : Method) (raised : Raised κ) :
    (raised = .base ∧ convert errors method raised = .base) ∨
      ∃ unified description, convert errors method raised = .exception unified description ∧
        errors.isSubclass unified errors.invokeError = true := by
  cases raised with
  | base => exact Or.inl ⟨rfl, rfl⟩
  | exception kind text =>
    rw [convert]
    split
    · rename_i passes
      exact Or.inr ⟨kind, text, rfl, passes.2⟩
    · exact Or.inr (transformInvokeError_invokes kind text)

/-- An invocation that begins while no time is set is let in. -/
theorem inside_of_start {number : Nat} {reading : ℚ} {sh sh' : Instance} {pc pc' : Pc κ α}
    (unset : sh.startedAt = 0) (valid : (invocations number).validate = none)
    (stepped : step errors invocations number (.start reading) sh pc = some (sh', pc')) :
    pc'.inside = true := by
  have entered (inside : Pc κ α) : (enter errors number reading sh inside).2 = inside := by
    rw [enter, if_neg (not_not.mpr unset)]
  cases pc with
  | ready =>
    have begun := congrArg Prod.snd (Option.some.inj stepped)
    dsimp only at begun
    rw [← begun, start.eq_def, valid]
    cases (invocations number).method <;> exact congrArg Pc.inside (entered .calling)
  | made chunks =>
    have begun := congrArg Prod.snd (Option.some.inj stepped)
    dsimp only at begun
    rw [← begun, entered]
    rfl
  | calling => simp [step] at stepped
  | running chunks => simp [step] at stepped
  | waiting onClose rest => simp [step] at stepped
  | closing onClose => simp [step] at stepped
  | done exit => simp [step] at stepped

/-- In every run of any invocations of one instance, whichever of them overlap, fail, are closed
in the middle or never finish: one at most is in its timed block, and there `started_at` is the
time at which that one entered. An invocation fails with the error of a race, with what the
validation of its parameters raised, or with what its provider raised, which was made an
`InvokeError` if it was an `Exception`. When no invocation is inside, the next one is not refused,
so a failed or abandoned invocation never blocks the instance. -/
theorem run_exclusive (errors : Errors κ) (invocations : Nat → Invocation κ α)
    {schedule : List (Nat × Event)} {last : Pool Instance (Pc κ α)}
    (ticks : (machine errors invocations).follows ticking initial schedule = true)
    (ran : (machine errors invocations).run initial schedule = some last) :
    (∀ one other, (last.control one).inside = true → (last.control other).inside = true →
      one = other) ∧
    (∀ number, (last.control number).inside = true →
      last.shared.startedAt = last.shared.entered number) ∧
    (∀ number raised, last.control number = .done (.raised raised) →
      raised = raceError errors ∨
        ((invocations number).method = .invokeLlm ∧
          (invocations number).validate = some raised) ∨
        ∃ error ∈ (invocations number).mayRaise,
          raised = convert errors (invocations number).method error ∧
          (error = .base ∧ raised = .base ∨
            ∃ unified description, raised = .exception unified description ∧
              errors.isSubclass unified errors.invokeError = true)) ∧
    ((∀ number, (last.control number).inside = false) → ∀ number reading next,
      (invocations number).validate = none →
      (machine errors invocations).fire last number (.start reading) = some next →
      (next.control number).inside = true) := by
  obtain ⟨exclusive, sound⟩ := Machine.run_preserves
    (fun _ _ _ _ holds ticks fired => Holds.fire holds ticks fired) initial schedule last
    holds_initial ticks ran
  refine ⟨exclusive.single, fun number inside => (exclusive.timed number inside).1, ?_, ?_⟩
  · intro number raised done
    rcases (sound number).raised raised done with race | invalid | ⟨error, may, converted⟩
    · exact Or.inl race
    · exact Or.inr (Or.inl invalid)
    · refine Or.inr (Or.inr ⟨error, may, converted, ?_⟩)
      rw [converted]
      exact convert_invokes (invocations number).method error
  · intro outside number reading next valid fired
    have unset := exclusive.free outside
    obtain ⟨sh, pc, stepped, rfl⟩ := Machine.fire_eq_some fired
    have stepped : step errors invocations number (.start reading) last.shared
      (last.control number) = some (sh, pc) := stepped
    simp only [Function.update_self]
    exact inside_of_start unset valid stepped

end Runs

section OpenaiCompatible

/-- The classes that the providers with the common interface raise and map. -/
inductive Kind where
  /-- `InvokeError`. -/
  | invokeError
  /-- `InvokeConnectionError`. -/
  | invokeConnectionError
  /-- `InvokeServerUnavailableError`. -/
  | invokeServerUnavailableError
  /-- `InvokeRateLimitError`. -/
  | invokeRateLimitError
  /-- `InvokeAuthorizationError`. -/
  | invokeAuthorizationError
  /-- `InvokeBadRequestError`. -/
  | invokeBadRequestError
  /-- `TimingContextRaceConditionError`. -/
  | timingContextRaceConditionError
  /-- `requests.exceptions.InvalidHeader`. -/
  | invalidHeader
  /-- `requests.exceptions.HTTPError`. -/
  | httpError
  /-- `requests.exceptions.InvalidURL`. -/
  | invalidUrl
  /-- `requests.exceptions.RetryError`. -/
  | retryError
  /-- `requests.exceptions.ConnectionError`. -/
  | connectionError
  /-- `requests.exceptions.ConnectTimeout`. -/
  | connectTimeout
  /-- `requests.exceptions.ReadTimeout`. -/
  | readTimeout
  /-- Any other subclass of `Exception`. -/
  | other
  deriving DecidableEq

/-- The bases of a class among these classes, with the class itself. -/
def Kind.bases : Kind → List Kind
  | .invokeConnectionError => [.invokeConnectionError, .invokeError]
  | .invokeServerUnavailableError => [.invokeServerUnavailableError, .invokeError]
  | .invokeRateLimitError => [.invokeRateLimitError, .invokeError]
  | .invokeAuthorizationError => [.invokeAuthorizationError, .invokeError]
  | .invokeBadRequestError => [.invokeBadRequestError, .invokeError]
  | .connectTimeout => [.connectTimeout, .connectionError]
  | kind => [kind]

/-- The class attribute `description`. -/
def Kind.description : Kind → Text
  | .invokeConnectionError => "Connection Error".toList
  | .invokeServerUnavailableError => "Server Unavailable Error".toList
  | .invokeRateLimitError => "Rate Limit Error".toList
  | .invokeAuthorizationError =>
    "Incorrect model credentials provided, please check and try again. ".toList
  | .invokeBadRequestError => "Bad Request Error".toList
  | _ => "None".toList

/-- `_CommonOaiApiCompat._invoke_error_mapping`. -/
def openaiCompatible (providerName : Text) : Errors Kind where
  isSubclass kind base := decide (base ∈ kind.bases)
  invokeError := .invokeError
  invokeAuthorizationError := .invokeAuthorizationError
  timingContextRaceConditionError := .timingContextRaceConditionError
  description := Kind.description
  providerName := providerName
  invokeErrorMapping :=
    [(.invokeAuthorizationError, [.invalidHeader]),
      (.invokeBadRequestError, [.httpError, .invalidUrl]),
      (.invokeRateLimitError, [.retryError]),
      (.invokeServerUnavailableError, [.connectionError, .httpError]),
      (.invokeConnectionError, [.connectTimeout, .readTimeout])]
  reflexive := by decide
  mapped := by decide

/-- The first stream fails behind its first chunk, and the call fails. -/
def failing : Nat → Invocation Kind Text
  | 0 => ⟨.invokeLlm, none, .ok (.stream (.yielding "a".toList none
      (.finish (some (.exception .connectTimeout "no answer".toList)))))⟩
  | 1 => ⟨.invokeLlm, none, .ok (.value "b".toList)⟩
  | _ => ⟨.plain, none, .error (.exception .readTimeout "too slow".toList)⟩

/-- The second invocation begins while the first one waits for its consumer, and the third one
when the first one has failed. -/
def overlapping : List (Nat × Event) :=
  [(0, .start 1), (0, .outcome), (0, .outcome), (1, .start 2), (0, .next), (0, .outcome),
    (2, .start 3), (2, .outcome)]

/-- The second invocation is refused, and the third one is let in. -/
theorem run_exclusive_overlapping :
    ∃ last, (machine (openaiCompatible "p".toList) failing).run initial overlapping = some last ∧
      last.control 0 = .done (.raised (.exception .invokeServerUnavailableError
        "[p] Server Unavailable Error, no answer".toList)) ∧
      last.control 1 = .done (.raised (raceError (openaiCompatible "p".toList))) ∧
      last.control 2 = .done (.raised (.exception .invokeConnectionError
        "[p] Connection Error, too slow".toList)) ∧
      ∀ one other, (last.control one).inside = true → (last.control other).inside = true →
        one = other := by
  have ticks : (machine (openaiCompatible "p".toList) failing).follows ticking initial
      overlapping = true := by decide
  have ran : (machine (openaiCompatible "p".toList) failing).run initial overlapping = some _ := rfl
  exact ⟨_, ran, rfl, rfl, rfl, (run_exclusive (openaiCompatible "p".toList) failing ticks ran).1⟩

end OpenaiCompatible

end DifyPlugin.TimingContext
