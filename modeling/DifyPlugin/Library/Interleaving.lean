import Mathlib.Data.List.Forall2
import Mathlib.Logic.Function.Basic

/-!
# Interleaved threads over shared state

A machine gives each thread a control point. One event carries one thread from its control
point to its next one, together with the shared state; the events of all threads interleave
freely. An assertion network attaches a predicate to the shared state and one to every
control point. It holds in every state of every run when each step establishes the assertions
of the thread that moves and does not disturb those of the others (Owicki and Gries).
-/

namespace DifyPlugin.Interleaving

/-- What a thread does with an event at its control point; `none` when the event does not
apply there. -/
structure Machine (σ π ε : Type) where
  /-- Run one thread from its control point to the next one. -/
  step : Nat → ε → σ → π → Option (σ × π)

/-- The shared state and the control point of every thread. -/
structure Pool (σ π : Type) where
  /-- What all threads read and write. -/
  shared : σ
  /-- Where each thread stands. -/
  control : Nat → π

/-- A predicate on the shared state, and one on every thread's view of it. -/
structure Assertions (σ π : Type) where
  /-- What holds of the shared state between steps. -/
  global : σ → Prop
  /-- What one thread knows at its control point. -/
  thread : Nat → σ → π → Prop

variable {σ π ε : Type}

namespace Machine

/-- Fire one event of one thread. -/
def fire (machine : Machine σ π ε) (pool : Pool σ π) (thread : Nat) (event : ε) :
    Option (Pool σ π) :=
  (machine.step thread event pool.shared (pool.control thread)).map fun (shared, point) =>
    ⟨shared, Function.update pool.control thread point⟩

/-- Fire a schedule of events; `none` when one of them does not apply. -/
def run (machine : Machine σ π ε) : Pool σ π → List (Nat × ε) → Option (Pool σ π)
  | pool, [] => some pool
  | pool, (thread, event) :: rest =>
    match machine.fire pool thread event with
    | none => none
    | some next => machine.run next rest

/-- Every event of the schedule is allowed in the state in which it fires. -/
def follows (machine : Machine σ π ε) (allowed : Pool σ π → Nat → ε → Bool) :
    Pool σ π → List (Nat × ε) → Bool
  | _, [] => true
  | pool, (thread, event) :: rest =>
    allowed pool thread event &&
      match machine.fire pool thread event with
      | none => true
      | some next => machine.follows allowed next rest

/-- What an observer has noted down at the end of a run: it sees every state and the event that
fires there, and the run does not depend on its notes. -/
def observe {ω : Type} (machine : Machine σ π ε) (note : Pool σ π → Nat → ε → ω → ω) :
    Pool σ π → ω → List (Nat × ε) → ω
  | _, notes, [] => notes
  | pool, notes, (thread, event) :: rest =>
    match machine.fire pool thread event with
    | none => notes
    | some next => machine.observe note next (note pool thread event notes) rest

/-- A firing is a step of its thread; every other thread stays where it was. -/
theorem fire_eq_some {machine : Machine σ π ε} {pool next : Pool σ π} {thread : Nat} {event : ε}
    (fired : machine.fire pool thread event = some next) :
    ∃ shared point, machine.step thread event pool.shared (pool.control thread) =
        some (shared, point) ∧
      next = ⟨shared, Function.update pool.control thread point⟩ := by
  simp only [fire, Option.map_eq_some_iff, Prod.exists] at fired
  obtain ⟨shared, point, stepped, rfl⟩ := fired
  exact ⟨shared, point, stepped, rfl⟩

/-- A run goes on with the pool after its first event. -/
theorem run_cons {machine : Machine σ π ε} {pool next : Pool σ π} {thread : Nat} {event : ε}
    (fired : machine.fire pool thread event = some next) (rest : List (Nat × ε)) :
    machine.run pool ((thread, event) :: rest) = machine.run next rest := by
  simp only [run, fired]

/-- A property that every allowed firing preserves holds at the end of every allowed run. -/
theorem run_preserves {machine : Machine σ π ε} {allowed : Pool σ π → Nat → ε → Bool}
    {property : Pool σ π → Prop}
    (preserved : ∀ pool thread event next, property pool → allowed pool thread event = true →
      machine.fire pool thread event = some next → property next)
    (pool : Pool σ π) (schedule : List (Nat × ε)) (last : Pool σ π) (start : property pool)
    (follow : machine.follows allowed pool schedule = true)
    (ran : machine.run pool schedule = some last) : property last := by
  induction schedule generalizing pool with
  | nil =>
    obtain rfl : pool = last := Option.some.inj ran
    exact start
  | cons head rest ih =>
    obtain ⟨thread, event⟩ := head
    simp only [follows, Bool.and_eq_true] at follow
    obtain ⟨legal, follow⟩ := follow
    cases fired : machine.fire pool thread event with
    | none => simp [run, fired] at ran
    | some next =>
      simp only [fired] at follow
      simp only [run, fired] at ran
      exact ih next (preserved pool thread event next start legal fired) follow ran

/-- Without a restriction on the events every schedule is followed. -/
theorem follows_all (machine : Machine σ π ε) (pool : Pool σ π) (schedule : List (Nat × ε)) :
    machine.follows (fun _ _ _ => true) pool schedule = true := by
  induction schedule generalizing pool with
  | nil => rfl
  | cons head rest ih =>
    obtain ⟨thread, event⟩ := head
    simp only [follows, Bool.true_and]
    cases machine.fire pool thread event with
    | none => rfl
    | some next => exact ih next

/-- A property that every firing preserves holds at the end of every run. -/
theorem run_preserves_all {machine : Machine σ π ε} {property : Pool σ π → Prop}
    (preserved : ∀ pool thread event next, property pool →
      machine.fire pool thread event = some next → property next)
    (pool : Pool σ π) (schedule : List (Nat × ε)) (last : Pool σ π) (start : property pool)
    (ran : machine.run pool schedule = some last) : property last :=
  run_preserves (fun pool thread event next holds _ fired =>
    preserved pool thread event next holds fired) pool schedule last start
    (machine.follows_all pool schedule) ran

/-- A relation between the state and the notes of an observer that every firing preserves holds
at the end of every run. -/
theorem observe_preserves {ω : Type} {machine : Machine σ π ε}
    {note : Pool σ π → Nat → ε → ω → ω} {property : Pool σ π → ω → Prop}
    (preserved : ∀ pool thread event next notes, property pool notes →
      machine.fire pool thread event = some next →
      property next (note pool thread event notes))
    (pool : Pool σ π) (notes : ω) (schedule : List (Nat × ε)) (last : Pool σ π)
    (start : property pool notes) (ran : machine.run pool schedule = some last) :
    property last (machine.observe note pool notes schedule) := by
  induction schedule generalizing pool notes with
  | nil =>
    obtain rfl : pool = last := Option.some.inj ran
    exact start
  | cons head rest ih =>
    obtain ⟨thread, event⟩ := head
    cases fired : machine.fire pool thread event with
    | none => simp [run, fired] at ran
    | some next =>
      rw [run_cons fired] at ran
      simp only [observe, fired]
      exact ih next _ (preserved pool thread event next notes start fired) ran

/-- A relation between the state and what is made of the events alone that every firing preserves
holds at the end of every run. -/
theorem run_foldl {ω : Type} {machine : Machine σ π ε} {note : ω → Nat × ε → ω}
    {property : Pool σ π → ω → Prop}
    (preserved : ∀ pool thread event next notes, property pool notes →
      machine.fire pool thread event = some next → property next (note notes (thread, event)))
    {pool : Pool σ π} {notes : ω} {schedule : List (Nat × ε)} {last : Pool σ π}
    (start : property pool notes) (ran : machine.run pool schedule = some last) :
    property last (schedule.foldl note notes) := by
  induction schedule generalizing pool notes with
  | nil =>
    obtain rfl : pool = last := Option.some.inj ran
    exact start
  | cons head rest ih =>
    obtain ⟨thread, event⟩ := head
    cases fired : machine.fire pool thread event with
    | none => simp [run, fired] at ran
    | some next =>
      rw [run_cons fired] at ran
      exact ih (preserved pool thread event next notes start fired) ran

/-- A relation between the state and the events so far that every firing preserves holds of the
whole schedule at the end of a run. -/
theorem run_schedule {machine : Machine σ π ε} {property : Pool σ π → List (Nat × ε) → Prop}
    (preserved : ∀ pool seen thread event next, property pool seen →
      machine.fire pool thread event = some next → property next (seen ++ [(thread, event)]))
    {pool : Pool σ π} {schedule : List (Nat × ε)} {last : Pool σ π} (start : property pool [])
    (ran : machine.run pool schedule = some last) : property last schedule := by
  have folded : property last (schedule.foldl (fun seen move => seen ++ [move]) []) :=
    run_foldl (fun pool thread event next seen holds fired =>
      preserved pool seen thread event next holds fired) start ran
  have whole : schedule.foldl (fun seen move => seen ++ [move]) [] = schedule := by
    rw [List.foldl_append_eq_append, List.nil_append, ← List.flatMap_def, List.flatMap_singleton']
  rwa [whole] at folded

/-- Two runs whose events are alike, one by one, keep a relation between their pools, when a
firing can always be answered by one with an event that is alike. -/
theorem run_related {machine : Machine σ π ε} {related : Pool σ π → Pool σ π → Prop}
    {alike : ε → ε → Prop}
    (answered : ∀ pool pool' thread event event' next, related pool pool' → alike event event' →
      machine.fire pool thread event = some next →
      ∃ next', machine.fire pool' thread event' = some next' ∧ related next next')
    {pool pool' : Pool σ π} {schedule schedule' : List (Nat × ε)} {last : Pool σ π}
    (start : related pool pool')
    (same : List.Forall₂ (fun move move' => move.1 = move'.1 ∧ alike move.2 move'.2)
      schedule schedule')
    (ran : machine.run pool schedule = some last) :
    ∃ last', machine.run pool' schedule' = some last' ∧ related last last' := by
  induction same generalizing pool pool' with
  | nil =>
    obtain rfl : pool = last := Option.some.inj ran
    exact ⟨pool', rfl, start⟩
  | @cons move move' rest rest' alike _ ih =>
    obtain ⟨thread, event⟩ := move
    obtain ⟨thread', event'⟩ := move'
    obtain ⟨rfl, similar⟩ := alike
    cases fired : machine.fire pool thread event with
    | none => simp [run, fired] at ran
    | some next =>
      simp only [run, fired] at ran
      obtain ⟨next', fired', kept⟩ := answered pool pool' thread event event' next start similar
        fired
      simp only [run, fired']
      exact ih kept ran

end Machine

namespace Assertions

/-- The shared predicate and every thread's own one hold together. -/
def Holds (assertions : Assertions σ π) (pool : Pool σ π) : Prop :=
  assertions.global pool.shared ∧
    ∀ thread, assertions.thread thread pool.shared (pool.control thread)

/-- A firing keeps the network when the moving thread establishes the shared predicate and
its own assertion, and leaves the assertions of the others undisturbed. -/
theorem preserved {assertions : Assertions σ π} {machine : Machine σ π ε} {pool next : Pool σ π}
    {thread : Nat} {event : ε} (fired : machine.fire pool thread event = some next)
    (own : ∀ shared point,
      machine.step thread event pool.shared (pool.control thread) = some (shared, point) →
      assertions.global shared ∧ assertions.thread thread shared point)
    (others : ∀ shared point,
      machine.step thread event pool.shared (pool.control thread) = some (shared, point) →
      ∀ other, other ≠ thread → assertions.thread other shared (pool.control other)) :
    assertions.Holds next := by
  obtain ⟨shared, point, stepped, rfl⟩ := Machine.fire_eq_some fired
  refine ⟨(own shared point stepped).1, fun other => ?_⟩
  by_cases same : other = thread
  · subst same
    simpa only [Function.update_self] using (own shared point stepped).2
  · simpa only [Function.update_of_ne same] using others shared point stepped other same

/-- The network holds wherever a run leads, when every step establishes the assertions of its
thread and leaves those of the others undisturbed. -/
theorem run_kept {assertions : Assertions σ π} {machine : Machine σ π ε}
    (own : ∀ pool thread event shared point, assertions.Holds pool →
      machine.step thread event pool.shared (pool.control thread) = some (shared, point) →
      assertions.global shared ∧ assertions.thread thread shared point)
    (others : ∀ pool thread event shared point, assertions.Holds pool →
      machine.step thread event pool.shared (pool.control thread) = some (shared, point) →
      ∀ other, other ≠ thread → assertions.thread other shared (pool.control other))
    {pool later : Pool σ π} {schedule : List (Nat × ε)} (holds : assertions.Holds pool)
    (ran : machine.run pool schedule = some later) : assertions.Holds later := by
  refine Machine.run_preserves_all ?_ pool schedule later holds ran
  intro pool thread event next holds fired
  apply preserved fired
  · exact fun shared point stepped => own pool thread event shared point holds stepped
  · exact fun shared point stepped => others pool thread event shared point holds stepped

end Assertions

end DifyPlugin.Interleaving
