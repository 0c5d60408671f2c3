import Mathlib.Data.List.Basic
import Mathlib.Logic.Function.Basic

/-!
# Workers that take tasks from a queue

Tasks are started in the order in which they were submitted, and a started task is known by its
number. A worker takes a task together with the trace of its actions and then puts one action
after another into a shared output, between those of the other workers. `Served` is the
invariant: what the output has of a task, and what its worker still holds, are the trace of the
task. There is one lemma for each thing that a thread may do.
-/

namespace DifyPlugin.Workers

/-- The queue of an executor, the tasks it has started with their traces, and the output. -/
structure Executor (ρ α : Type) where
  /-- The tasks that wait. -/
  tasks : List ρ
  /-- The tasks that were started. -/
  started : List (ρ × List α)
  /-- What was put out, with the number of its task; other threads have none. -/
  output : List (Option Nat × α)

variable {ρ α : Type}

namespace Executor

/-- The actions of a task that were put out. -/
def outputOf (executor : Executor ρ α) (number : Nat) : List α :=
  executor.output.filterMap fun action => if action.1 = some number then some action.2 else none

/-- A task is submitted. -/
def submit (executor : Executor ρ α) (task : ρ) : Executor ρ α :=
  { executor with tasks := executor.tasks ++ [task] }

/-- A worker has taken a task from the queue. -/
def start (executor : Executor ρ α) (task : ρ) (trace : List α) (rest : List ρ) :
    Executor ρ α :=
  { executor with tasks := rest, started := executor.started ++ [(task, trace)] }

/-- An action is put out. -/
def put (executor : Executor ρ α) (number : Option Nat) (action : α) : Executor ρ α :=
  { executor with output := executor.output ++ [(number, action)] }

/-- Every submitted task, in order. -/
def submitted (executor : Executor ρ α) : List ρ :=
  executor.started.map Prod.fst ++ executor.tasks

/-- A submitted task is the last one. -/
@[simp] theorem submitted_submit (executor : Executor ρ α) (task : ρ) :
    (executor.submit task).submitted = executor.submitted ++ [task] := by
  simp [submitted, submit]

/-- A task that is started was submitted already. -/
theorem submitted_start {executor : Executor ρ α} {task : ρ} {rest : List ρ}
    (first : executor.tasks = task :: rest) (trace : List α) :
    (executor.start task trace rest).submitted = executor.submitted := by
  simp [submitted, start, first]

/-- An action of a task is its last one. -/
theorem outputOf_put_self (executor : Executor ρ α) (number : Nat) (action : α) :
    (executor.put (some number) action).outputOf number = executor.outputOf number ++ [action] := by
  simp [outputOf, put, List.filterMap_append]

/-- An action of another thread is not one of the task. -/
theorem outputOf_put_of_ne (executor : Executor ρ α) {number : Nat} {other : Option Nat}
    (different : other ≠ some number) (action : α) :
    (executor.put other action).outputOf number = executor.outputOf number := by
  simp [outputOf, put, List.filterMap_append, different]

end Executor

/-- The task that each thread executes, by its number and the rest of its trace. -/
abbrev Running (α : Type) : Type := Nat → Option (Nat × List α)

/-- What the output has of a task and what its worker holds are the trace of the task. -/
structure Served (executor : Executor ρ α) (running : Running α) : Prop where
  /-- A worker holds what the output does not have yet. -/
  owned : ∀ thread number rest, running thread = some (number, rest) →
    ∃ entry, executor.started[number]? = some entry ∧ executor.outputOf number ++ rest = entry.2
  /-- A task has one worker. -/
  single : ∀ thread other number rest more, running thread = some (number, rest) →
    running other = some (number, more) → thread = other
  /-- A task without a worker is put out whole. -/
  settled : ∀ number entry, executor.started[number]? = some entry →
    executor.outputOf number = entry.2 ∨ ∃ thread rest, running thread = some (number, rest)
  /-- Nothing is put out of a task that was not started. -/
  fresh : ∀ number, executor.started.length ≤ number → executor.outputOf number = []

namespace Served

variable {executor : Executor ρ α} {running : Running α} (served : Served executor running)

/-- Nothing has happened yet. -/
theorem initial {running : Running α} (idle : ∀ thread, running thread = none) :
    Served (⟨[], [], []⟩ : Executor ρ α) running where
  owned thread number rest runs := by simp [idle] at runs
  single thread other number rest more runs := by simp [idle] at runs
  settled number entry found := by simp at found
  fresh number _ := rfl

include served

/-- A task is submitted. -/
theorem submit (task : ρ) : Served (executor.submit task) running :=
  ⟨served.owned, served.single, served.settled, served.fresh⟩

/-- A thread that executes a task executes one that was started. -/
theorem number_lt {thread number : Nat} {rest : List α}
    (runs : running thread = some (number, rest)) : number < executor.started.length := by
  obtain ⟨entry, found, -⟩ := served.owned thread number rest runs
  exact (List.getElem?_eq_some_iff.mp found).1

/-- An idle worker takes a task. -/
theorem start {thread : Nat} (idle : running thread = none) (task : ρ) (trace : List α)
    (rest : List ρ) :
    Served (executor.start task trace rest)
      (Function.update running thread (some (executor.started.length, trace))) where
  owned other number left runs := by
    by_cases same : other = thread
    · subst same
      rw [Function.update_self] at runs
      obtain ⟨rfl, rfl⟩ := Prod.mk.inj (Option.some.inj runs)
      refine ⟨(task, trace), by simp [Executor.start], ?_⟩
      have nothing := served.fresh executor.started.length (Nat.le_refl _)
      show executor.outputOf executor.started.length ++ trace = trace
      rw [nothing, List.nil_append]
    · rw [Function.update_of_ne same] at runs
      obtain ⟨entry, found, joined⟩ := served.owned other number left runs
      have before := served.number_lt runs
      refine ⟨entry, ?_, joined⟩
      show (executor.started ++ [(task, trace)])[number]? = some entry
      rw [List.getElem?_append_left before, found]
  single one other number left more runs runs' := by
    -- the new task has a number that no other worker knows
    have known (other : Nat) (left : List α) (apart : other ≠ thread)
        (runs : Function.update running thread (some (executor.started.length, trace)) other =
          some (number, left)) : number < executor.started.length := by
      rw [Function.update_of_ne apart] at runs
      exact served.number_lt runs
    by_cases same : one = thread <;> by_cases same' : other = thread
    · rw [same, same']
    · have before := known other more same' runs'
      rw [same, Function.update_self] at runs
      have number := (Prod.mk.inj (Option.some.inj runs)).1
      omega
    · have before := known one left same runs
      rw [same', Function.update_self] at runs'
      have number := (Prod.mk.inj (Option.some.inj runs')).1
      omega
    · rw [Function.update_of_ne same] at runs
      rw [Function.update_of_ne same'] at runs'
      exact served.single one other number left more runs runs'
  settled number entry found := by
    by_cases last : number = executor.started.length
    · subst last
      exact Or.inr ⟨thread, trace, Function.update_self ..⟩
    · have found : (executor.started ++ [(task, trace)])[number]? = some entry := found
      have inside := (List.getElem?_eq_some_iff.mp found).1
      rw [List.length_append, List.length_singleton] at inside
      have before : number < executor.started.length := by omega
      rw [List.getElem?_append_left before] at found
      rcases served.settled number entry found with whole | ⟨other, left, runs⟩
      · exact Or.inl whole
      · have apart : other ≠ thread := by
          intro same
          rw [same, idle] at runs
          contradiction
        exact Or.inr ⟨other, left, by rw [Function.update_of_ne apart, runs]⟩
  fresh number past := by
    have past : (executor.started ++ [(task, trace)]).length ≤ number := past
    rw [List.length_append, List.length_singleton] at past
    exact served.fresh number (by omega)

/-- A worker puts out the next action of its task. -/
theorem put {thread number : Nat} {action : α} {rest : List α}
    (runs : running thread = some (number, action :: rest)) :
    Served (executor.put (some number) action)
      (Function.update running thread (some (number, rest))) where
  owned other task left held := by
    by_cases same : other = thread
    · subst same
      rw [Function.update_self] at held
      obtain ⟨rfl, rfl⟩ := Prod.mk.inj (Option.some.inj held)
      obtain ⟨entry, found, joined⟩ := served.owned other number (action :: rest) runs
      refine ⟨entry, found, ?_⟩
      rw [Executor.outputOf_put_self, List.append_assoc]
      exact joined
    · rw [Function.update_of_ne same] at held
      have different : some number ≠ some task := by
        intro equal
        obtain rfl := Option.some.inj equal
        exact same (served.single other thread number left (action :: rest) held runs)
      rw [Executor.outputOf_put_of_ne executor different]
      exact served.owned other task left held
  single one other task left more held held' := by
    -- the worker has the same task as before
    have kept (other : Nat) (left : List α)
        (held : Function.update running thread (some (number, rest)) other = some (task, left)) :
        ∃ left, running other = some (task, left) := by
      by_cases same : other = thread
      · subst same
        rw [Function.update_self] at held
        obtain ⟨rfl, rfl⟩ := Prod.mk.inj (Option.some.inj held)
        exact ⟨action :: rest, runs⟩
      · rw [Function.update_of_ne same] at held
        exact ⟨left, held⟩
    obtain ⟨first, known⟩ := kept one left held
    obtain ⟨second, known'⟩ := kept other more held'
    exact served.single one other task first second known known'
  settled task entry found := by
    by_cases same : task = number
    · subst same
      exact Or.inr ⟨thread, rest, Function.update_self ..⟩
    · have different : some number ≠ some task := fun equal => same (Option.some.inj equal).symm
      rw [Executor.outputOf_put_of_ne executor different]
      rcases served.settled task entry found with whole | ⟨other, left, held⟩
      · exact Or.inl whole
      · have apart : other ≠ thread := by
          intro equal
          rw [equal, runs] at held
          exact same (Prod.mk.inj (Option.some.inj held)).1.symm
        exact Or.inr ⟨other, left, by rw [Function.update_of_ne apart, held]⟩
  fresh task past := by
    have before := served.number_lt runs
    have past : executor.started.length ≤ task := past
    have different : some number ≠ some task := by
      intro equal
      have := Option.some.inj equal
      omega
    rw [Executor.outputOf_put_of_ne executor different]
    exact served.fresh task past

/-- A thread that is no worker puts something out. -/
theorem put_none (action : α) : Served (executor.put none action) running := by
  have same (number : Nat) :
      (executor.put none action).outputOf number = executor.outputOf number :=
    Executor.outputOf_put_of_ne executor (by simp) action
  constructor
  · intro thread number rest runs
    rw [same]
    exact served.owned thread number rest runs
  · exact served.single
  · intro number entry found
    rw [same]
    exact served.settled number entry found
  · intro number past
    rw [same]
    exact served.fresh number past

/-- A worker that has put out everything is done with its task. -/
theorem finish {thread number : Nat} (runs : running thread = some (number, [])) :
    Served executor (Function.update running thread none) := by
  have other_of (other task : Nat) (left : List α)
      (held : Function.update running thread none other = some (task, left)) :
      running other = some (task, left) := by
    by_cases same : other = thread
    · rw [same, Function.update_self] at held
      contradiction
    · rwa [Function.update_of_ne same] at held
  constructor
  · intro other task left held
    exact served.owned other task left (other_of other task left held)
  · intro one other task left more held held'
    exact served.single one other task left more (other_of one task left held)
      (other_of other task more held')
  · intro task entry found
    rcases served.settled task entry found with whole | ⟨other, left, held⟩
    · exact Or.inl whole
    · by_cases same : other = thread
      · subst same
        rw [runs] at held
        obtain ⟨rfl, rfl⟩ := Prod.mk.inj (Option.some.inj held)
        obtain ⟨known, found', joined⟩ := served.owned other number [] runs
        rw [List.append_nil] at joined
        rw [found] at found'
        exact Or.inl (joined.trans (congrArg Prod.snd (Option.some.inj found')).symm)
      · exact Or.inr ⟨other, left, by rw [Function.update_of_ne same, held]⟩
  · exact served.fresh

end Served

end DifyPlugin.Workers
