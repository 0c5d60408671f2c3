import DifyPlugin.Library.Decoding
import DifyPlugin.Library.Interleaving

/-!
# The serverless response writer

`ServerlessResponseWriter` between the worker that executes a request and the generator of the
HTTP response. All threads are greenlets, which switch only where they wait. Everything that
happens under the lock is one step, because nothing waits there. The worker waits in `task.get`
outside of the lock and clears `_task` in a step of its own; the greenlet of the callback is run
by the hub, and `close` cancels it in a step of its own. The worker may also be interrupted while
the greenlet runs; it then clears `_task` and cancels the greenlet without waiting in between,
which is one step. Besides the generator any other thread may call `close`.
-/

namespace DifyPlugin.Serverless

open Interleaving Decoding

/-- The greenlet of a callback. -/
inductive GreenletState where
  /-- It is spawned and has not started. -/
  | pending
  /-- The callback runs. -/
  | running
  /-- The callback runs, and `GreenletExit` is on its way. -/
  | told
  /-- It has ended, or will never start. -/
  | ended
  deriving DecidableEq

/-- `Greenlet.kill(block=False)`; a greenlet that has not started never does. -/
def GreenletState.kill : GreenletState → GreenletState
  | .pending => .ended
  | .running => .told
  | .told => .told
  | .ended => .ended

/-- `ServerlessResponseWriter`, and what the theorems look back on. -/
structure Writer where
  /-- `closed`. -/
  closed : Bool
  /-- `q`; `None` is the end. -/
  queue : List (Option Bytes)
  /-- `_task`. -/
  task : Option Nat
  /-- How many greenlets were spawned. -/
  spawned : Nat
  /-- The greenlets. -/
  greenlet : Nat → GreenletState
  /-- The frames that `write` was called with. -/
  written : List Bytes
  /-- What was put into the queue. -/
  entries : List (Option Bytes)
  /-- What the generator took from the queue. -/
  taken : List (Option Bytes)
  /-- What `close` took from the queue. -/
  discarded : List (Option Bytes)
  /-- The frames that were written before the first `done`. -/
  beforeDone : Option (List Bytes)
  /-- The greenlets whose callback has started. -/
  started : List Nat
  /-- Some `close` has taken the lock. -/
  drained : Bool
  /-- Some `close` has returned. -/
  returned : Bool

/-- Where a thread stands. -/
inductive Pc where
  /-- The worker is between two calls. -/
  | producing
  /-- The worker waits in `task.get`. -/
  | waiting (task : Nat)
  /-- The worker has cleared `_task`, and kills the greenlet that has ended. -/
  | ending (task : Nat)
  /-- The hub, which runs the greenlets. -/
  | hub
  /-- The generator waits in `queue.get`. -/
  | reading
  /-- The generator has yielded; at first an empty string. -/
  | yielded
  /-- The generator is in its `finally`. -/
  | leaving
  /-- `close` was in its lock, and cancels the task it has found. -/
  | closing (task : Option Nat) (generator : Bool)
  /-- The generator is done. -/
  | finished
  /-- Any other thread. -/
  | outside
  deriving DecidableEq

/-- What a thread does. -/
inductive Event where
  /-- The worker calls `execute`. -/
  | execute
  /-- The greenlet has ended, and `task.get` returns or raises what the callback raised. -/
  | clear
  /-- Another exception is raised in `task.get`, and `execute` ends with it. -/
  | interrupt
  /-- The worker, or the callback of a greenlet, calls `write`. -/
  | write (data : Bytes)
  /-- The worker calls `done`. -/
  | done
  /-- A greenlet starts its callback. -/
  | start (task : Nat)
  /-- The callback of a greenlet calls `write`. -/
  | callbackWrite (task : Nat) (data : Bytes)
  /-- The callback of a greenlet ends. -/
  | stop (task : Nat)
  /-- `queue.get` returns. -/
  | get
  /-- No response came for too long. -/
  | timeout
  /-- The server asks for the next response. -/
  | resumed
  /-- The server closes the generator. -/
  | disconnect
  /-- `close` begins. -/
  | close
  /-- `close` cancels the task, or `execute` does when it ends. -/
  | kill
  deriving DecidableEq

namespace Writer

/-- `q.put`. -/
def put (sh : Writer) (entry : Option Bytes) : Writer :=
  { sh with queue := sh.queue ++ [entry], entries := sh.entries ++ [entry] }

/-- `write`. -/
def write (sh : Writer) (data : Bytes) : Writer :=
  let sh := { sh with written := sh.written ++ [data] }
  if sh.closed then sh else sh.put (some data)

/-- `done`. -/
def done (sh : Writer) : Writer :=
  let sh := { sh with beforeDone := some (sh.beforeDone.getD sh.written) }
  if sh.closed then sh else ({ sh with closed := true } : Writer).put none

/-- `task.kill(block=False)`. -/
def kill (sh : Writer) (task : Nat) : Writer :=
  { sh with greenlet := Function.update sh.greenlet task (sh.greenlet task).kill }

/-- `execute` spawns a greenlet, when the writer is open. -/
def spawn (sh : Writer) : Writer :=
  { sh with
    task := some sh.spawned
    spawned := sh.spawned + 1
    greenlet := Function.update sh.greenlet sh.spawned .pending }

/-- The `finally` of `execute` in one step. -/
def finish (sh : Writer) (task : Nat) : Writer := ({ sh with task := none } : Writer).kill task

/-- `close` under the lock. -/
def drain (sh : Writer) : Writer :=
  { sh with closed := true, queue := [], discarded := sh.discarded ++ sh.queue, drained := true }

/-- The end of `close`. -/
def closeTask (sh : Writer) : Option Nat → Writer
  | some task => { sh.kill task with returned := true }
  | none => { sh with returned := true }

/-- The greenlet goes to another state. -/
def setGreenlet (sh : Writer) (task : Nat) (state : GreenletState) : Writer :=
  { sh with greenlet := Function.update sh.greenlet task state }

/-- The callback of a greenlet is running. -/
def runs (sh : Writer) (task : Nat) : Bool :=
  sh.greenlet task = .running || sh.greenlet task = .told

/-- The generator takes the first entry of the queue. -/
def get (sh : Writer) : Option (Writer × Pc) :=
  match sh.queue with
  | [] => none
  | some frame :: queue =>
    some ({ sh with queue := queue, taken := sh.taken ++ [some frame] }, .yielded)
  | none :: queue => some ({ sh with queue := queue, taken := sh.taken ++ [none] }, .leaving)

/-- One step of a thread. -/
def step (_ : Nat) (event : Event) (sh : Writer) (pc : Pc) : Option (Writer × Pc) :=
  match pc, event with
  | .producing, .execute =>
    if sh.closed then some (sh, .producing) else some (sh.spawn, .waiting sh.spawned)
  | .producing, .write data => some (sh.write data, .producing)
  | .producing, .done => some (sh.done, .producing)
  | .waiting task, .clear =>
    if sh.greenlet task = .ended then some ({ sh with task := none }, .ending task) else none
  | .ending task, .kill => some (sh.kill task, .producing)
  | .waiting task, .interrupt => some (sh.finish task, .producing)
  | .hub, .start task =>
    if sh.greenlet task = .pending then
      some ({ sh.setGreenlet task .running with started := sh.started ++ [task] }, .hub)
    else none
  | .hub, .callbackWrite task data => if sh.runs task then some (sh.write data, .hub) else none
  | .hub, .stop task => if sh.runs task then some (sh.setGreenlet task .ended, .hub) else none
  | .reading, .get => sh.get
  | .reading, .timeout => if sh.queue.isEmpty then some (sh, .leaving) else none
  | .reading, .disconnect => some (sh, .leaving)
  | .yielded, .resumed => some (sh, .reading)
  | .yielded, .disconnect => some (sh, .leaving)
  | .leaving, .close => some (sh.drain, .closing sh.task true)
  | .outside, .close => some (sh.drain, .closing sh.task false)
  | .closing task generator, .kill =>
    some (sh.closeTask task, if generator then .finished else .outside)
  | _, _ => none

/-- The threads of one request. -/
def machine : Machine Writer Pc Event := ⟨step⟩

/-- A request that was accepted. Thread 0 is the worker, thread 1 the generator and thread 2 the
hub. -/
def initial : Pool Writer Pc where
  shared :=
    { closed := false, queue := [], task := none, spawned := 0, greenlet := fun _ => .ended
      written := [], entries := [], taken := [], discarded := [], beforeDone := none
      started := [], drained := false, returned := false }
  control := fun thread =>
    match thread with
    | 0 => .producing
    | 1 => .yielded
    | 2 => .hub
    | _ => .outside

/-- The frames that the generator has yielded. -/
def received (sh : Writer) : List Bytes := sh.taken.filterMap id

/-- The generator has read up to the end. -/
def sentinelRead (sh : Writer) : Bool := decide (none ∈ sh.taken)

/-- How many ends were put into the queue. -/
def sentinels (sh : Writer) : Nat := sh.entries.count none

/-! ## The invariant -/

/-- How the queue was filled: with all frames while the writer is open, and with one end when
`done` came before any `close`. -/
inductive Filled (sh : Writer) : Prop where
  /-- The writer is open. -/
  | opened (closed : sh.closed = false) (entries : sh.entries = sh.written.map some)
      (beforeDone : sh.beforeDone = none)
  /-- `close` came first. -/
  | closed (frames : List Bytes) (closed : sh.closed = true)
      (entries : sh.entries = frames.map some) (written : frames <+: sh.written)
      (beforeDone : ∀ all, sh.beforeDone = some all → frames <+: all)
  /-- `done` came first. -/
  | done (frames : List Bytes) (closed : sh.closed = true)
      (entries : sh.entries = frames.map some ++ [none]) (written : frames <+: sh.written)
      (beforeDone : sh.beforeDone = some frames)

/-- A greenlet that has not started, or whose callback runs and was not told to stop. -/
def Alive (sh : Writer) (task : Nat) : Prop :=
  sh.greenlet task = .pending ∨ sh.greenlet task = .running

/-- What holds between the steps. -/
structure Invariant (sh : Writer) : Prop where
  /-- How the queue was filled. -/
  filled : Filled sh
  /-- No entry is lost or made up. -/
  accounted : sh.taken ++ sh.discarded ++ sh.queue = sh.entries
  /-- Nothing is in the queue of a closed writer. -/
  drained : sh.drained = true → sh.closed = true ∧ sh.queue = []
  /-- Only `close` throws entries away. -/
  kept : sh.drained = false → sh.discarded = []
  /-- Only the task of the writer is alive. -/
  alive : ∀ task, sh.Alive task → sh.task = some task
  /-- After a `close` no task is alive. -/
  returned : sh.returned = true → sh.drained = true ∧ ∀ task, ¬ sh.Alive task
  /-- The greenlets that have started have been spawned. -/
  started : ∀ task ∈ sh.started, sh.greenlet task ≠ .pending ∧ task < sh.spawned
  /-- The other numbers are free. -/
  fresh : ∀ task, sh.spawned ≤ task → sh.greenlet task = .ended

/-- What a thread knows. -/
def Known (thread : Nat) (sh : Writer) : Pc → Prop
  | .producing => thread = 0 ∧ sh.task = none
  | .waiting task => thread = 0 ∧ sh.task = some task
  | .ending _ => thread = 0 ∧ sh.task = none
  | .closing task _ => sh.drained = true ∧ (sh.task = none ∨ sh.task = task)
  | _ => True

variable {sh : Writer}

/-- How the queue was filled is a matter of four attributes. -/
theorem Filled.congr {after : Writer} (filled : Filled sh) (closed : after.closed = sh.closed)
    (entries : after.entries = sh.entries) (written : after.written = sh.written)
    (beforeDone : after.beforeDone = sh.beforeDone) : Filled after := by
  cases filled with
  | opened opened all none =>
    exact .opened (closed.trans opened) (by rw [entries, written, all]) (beforeDone.trans none)
  | closed frames shut all beginning before =>
    exact .closed frames (closed.trans shut) (entries.trans all) (written ▸ beginning)
      fun later same => before later (beforeDone.symm.trans same)
  | done frames shut all beginning before =>
    exact .done frames (closed.trans shut) (entries.trans all) (written ▸ beginning)
      (beforeDone.trans before)

/-- A closed writer drops the frame. -/
theorem write_of_closed (closed : sh.closed = true) (data : Bytes) :
    sh.write data = { sh with written := sh.written ++ [data] } :=
  if_pos closed

/-- An open writer puts the frame into the queue. -/
theorem write_of_open (opened : sh.closed = false) (data : Bytes) :
    sh.write data = ({ sh with written := sh.written ++ [data] } : Writer).put (some data) :=
  if_neg (ne_true_of_eq_false opened)

/-- The end of a closed writer is not put again. -/
theorem done_of_closed (closed : sh.closed = true) :
    sh.done = { sh with beforeDone := some (sh.beforeDone.getD sh.written) } :=
  if_pos closed

/-- An open writer is closed, with the end in the queue. -/
theorem done_of_open (opened : sh.closed = false) :
    sh.done = ({ sh with
      beforeDone := some (sh.beforeDone.getD sh.written), closed := true } : Writer).put none :=
  if_neg (ne_true_of_eq_false opened)

/-- A write keeps the invariant. -/
theorem Invariant.write (invariant : Invariant sh) (data : Bytes) : Invariant (sh.write data) := by
  have filled := invariant.filled
  cases closed : sh.closed with
  | true =>
    rw [write_of_closed closed]
    refine { invariant with filled := ?_ }
    have longer (frames : List Bytes) (written : frames <+: sh.written) :
        frames <+: sh.written ++ [data] := written.trans (List.prefix_append _ _)
    cases filled with
    | opened still _ _ => exact absurd (still.symm.trans closed) Bool.false_ne_true
    | closed frames _ entries written beforeDone =>
      exact .closed frames closed entries (longer frames written) beforeDone
    | done frames _ entries written beforeDone =>
      exact .done frames closed entries (longer frames written) beforeDone
  | false =>
    rw [write_of_open closed]
    have accounted := invariant.accounted
    refine { invariant with filled := ?_, accounted := ?_, drained := ?_ }
    · cases filled with
      | opened _ entries beforeDone =>
        refine .opened closed ?_ beforeDone
        simp [put, entries]
      | closed frames still _ _ _ => exact absurd (closed.symm.trans still) Bool.false_ne_true
      | done frames still _ _ _ => exact absurd (closed.symm.trans still) Bool.false_ne_true
    · simp [put, ← accounted]
    · intro drained
      exact absurd (closed.symm.trans (invariant.drained drained).1) Bool.false_ne_true

/-- A `done` keeps the invariant. -/
theorem Invariant.done (invariant : Invariant sh) : Invariant sh.done := by
  have filled := invariant.filled
  cases closed : sh.closed with
  | true =>
    rw [done_of_closed closed]
    refine { invariant with filled := ?_ }
    cases filled with
    | opened still _ _ => exact absurd (still.symm.trans closed) Bool.false_ne_true
    | closed frames _ entries written beforeDone =>
      refine .closed frames closed entries written ?_
      intro all same
      cases before : sh.beforeDone with
      | none =>
        have here : sh.written = all := by simpa [before] using same
        exact here ▸ written
      | some earlier =>
        have here : earlier = all := by simpa [before] using same
        exact here ▸ beforeDone earlier before
    | done frames _ entries written beforeDone =>
      refine .done frames closed entries written ?_
      simp [beforeDone]
  | false =>
    rw [done_of_open closed]
    have accounted := invariant.accounted
    refine { invariant with filled := ?_, accounted := ?_, drained := ?_ }
    · cases filled with
      | opened _ entries beforeDone =>
        refine .done sh.written rfl ?_ (List.prefix_refl _) ?_
        · simp [put, entries]
        · simp [put, beforeDone]
      | closed frames still _ _ _ => exact absurd (closed.symm.trans still) Bool.false_ne_true
      | done frames still _ _ _ => exact absurd (closed.symm.trans still) Bool.false_ne_true
    · simp [put, ← accounted]
    · intro drained
      exact absurd (closed.symm.trans (invariant.drained drained).1) Bool.false_ne_true

/-- Draining keeps the invariant. -/
theorem Invariant.drain (invariant : Invariant sh) : Invariant sh.drain := by
  refine { invariant with
    filled := ?_, accounted := ?_, drained := ?_, kept := nofun, returned := ?_ }
  · cases invariant.filled with
    | opened closed entries beforeDone =>
      refine .closed sh.written rfl entries (List.prefix_refl _) ?_
      intro all same
      exact absurd (beforeDone.symm.trans same) nofun
    | closed frames closed entries written beforeDone =>
      exact .closed frames rfl entries written beforeDone
    | done frames closed entries written beforeDone =>
      exact .done frames rfl entries written beforeDone
  · have accounted := invariant.accounted
    simp [Writer.drain, ← accounted]
  · exact fun _ => ⟨rfl, rfl⟩
  · exact fun returned => ⟨rfl, (invariant.returned returned).2⟩

/-- Greenlets that come to life keep the invariant only as the task of the writer; the others may
end at any time. -/
theorem Invariant.greenlets (invariant : Invariant sh) {after : Nat → GreenletState}
    {task : Option Nat}
    (alive : ∀ other, after other = .pending ∨ after other = .running →
      sh.Alive other ∧ task = some other)
    (fresh : ∀ other, sh.spawned ≤ other → after other = .ended)
    (started : ∀ other ∈ sh.started, after other ≠ .pending) :
    Invariant { sh with greenlet := after, task := task } := by
  constructor
  · exact invariant.filled.congr rfl rfl rfl rfl
  · exact invariant.accounted
  · exact invariant.drained
  · exact invariant.kept
  · intro other lives
    exact (alive other lives).2
  · intro returned
    have none := invariant.returned returned
    exact ⟨none.1, fun other lives => none.2 other (alive other lives).1⟩
  · intro other listed
    exact ⟨started other listed, (invariant.started other listed).2⟩
  · exact fresh

/-- The greenlets after a kill: the killed one is not alive, the others are what they were. -/
theorem kill_greenlet (sh : Writer) (task other : Nat) :
    (sh.kill task).greenlet other =
      if other = task then (sh.greenlet other).kill else sh.greenlet other := by
  by_cases same : other = task
  · subst same
    simp [Writer.kill]
  · simp [Writer.kill, same]

/-- A kill brings no greenlet to life, and leaves none of its number alive. -/
theorem alive_kill {task other : Nat} (alive : (sh.kill task).Alive other) :
    other ≠ task ∧ sh.Alive other := by
  rw [Alive, kill_greenlet] at alive
  split at alive
  · cases here : sh.greenlet other <;> simp [here, GreenletState.kill] at alive
  · rename_i apart
    exact ⟨apart, alive⟩

/-- A greenlet that was not pending is not pending after a kill. -/
theorem kill_not_pending {task other : Nat} (before : sh.greenlet other ≠ .pending) :
    (sh.kill task).greenlet other ≠ .pending := by
  rw [kill_greenlet]
  split
  · cases here : sh.greenlet other <;> simp [GreenletState.kill]
  · exact before

/-- A free number is free after a kill. -/
theorem Invariant.kill_fresh (invariant : Invariant sh) (task : Nat) {other : Nat}
    (free : sh.spawned ≤ other) : (sh.kill task).greenlet other = .ended := by
  rw [kill_greenlet, invariant.fresh other free]
  split <;> rfl

/-- A kill keeps the invariant. -/
theorem Invariant.kill (invariant : Invariant sh) (task : Nat) : Invariant (sh.kill task) := by
  apply invariant.greenlets
  · intro other alive
    have before := (alive_kill alive).2
    exact ⟨before, invariant.alive other before⟩
  · exact fun other free => invariant.kill_fresh task free
  · exact fun other listed => kill_not_pending (invariant.started other listed).1

/-- The task may be cleared when its greenlet has ended. -/
theorem Invariant.clear (invariant : Invariant sh) {task : Nat} (held : sh.task = some task)
    (ended : sh.greenlet task = .ended) : Invariant { sh with task := none } := by
  apply invariant.greenlets
  · intro other alive
    have same := (invariant.alive other alive).symm.trans held
    obtain rfl : other = task := Option.some.inj same
    rw [ended] at alive
    exact absurd alive (by decide)
  · exact invariant.fresh
  · exact fun other listed => (invariant.started other listed).1

/-- An `execute` that is interrupted keeps the invariant. -/
theorem Invariant.finish (invariant : Invariant sh) {task : Nat} (held : sh.task = some task) :
    Invariant (sh.finish task) := by
  apply invariant.greenlets
  · intro other alive
    obtain ⟨apart, before⟩ := alive_kill alive
    have same := (invariant.alive other before).symm.trans held
    exact absurd (Option.some.inj same) apart
  · exact fun other free => invariant.kill_fresh task free
  · exact fun other listed => kill_not_pending (invariant.started other listed).1

/-- The end of `close` keeps the invariant: no task is alive then, and none will be. -/
theorem Invariant.closeTask (invariant : Invariant sh) {task : Option Nat}
    (drained : sh.drained = true) (held : sh.task = none ∨ sh.task = task) :
    Invariant (sh.closeTask task) := by
  cases task with
  | none =>
    have empty : sh.task = none := by simpa using held
    refine { invariant with filled := ?_, returned := ?_ }
    · exact invariant.filled.congr rfl rfl rfl rfl
    · intro _
      refine ⟨drained, ?_⟩
      intro other alive
      exact absurd (empty.symm.trans (invariant.alive other alive)) nofun
  | some task =>
    have killed := invariant.kill task
    refine { killed with filled := ?_, returned := ?_ }
    · exact killed.filled.congr rfl rfl rfl rfl
    · intro _
      refine ⟨drained, ?_⟩
      intro other alive
      obtain ⟨apart, before⟩ := alive_kill alive
      have here := invariant.alive other before
      rcases held with empty | same
      · exact absurd (empty.symm.trans here) nofun
      · exact apart (Option.some.inj (same.symm.trans here)).symm

/-- A greenlet that is spawned keeps the invariant. -/
theorem Invariant.spawn (invariant : Invariant sh) (opened : sh.closed = false)
    (idle : sh.task = none) : Invariant sh.spawn := by
  have none (other : Nat) : ¬ sh.Alive other := by
    intro alive
    exact absurd (idle.symm.trans (invariant.alive other alive)) nofun
  have undrained : sh.drained = false := by
    cases drained : sh.drained with
    | false => rfl
    | true => exact absurd (opened.symm.trans (invariant.drained drained).1) Bool.false_ne_true
  constructor
  · exact invariant.filled.congr rfl rfl rfl rfl
  · exact invariant.accounted
  · exact invariant.drained
  · exact invariant.kept
  · intro other alive
    by_cases same : other = sh.spawned
    · rw [same]
      rfl
    · have state : sh.spawn.greenlet other = sh.greenlet other :=
        Function.update_of_ne same _ _
      rw [Alive, state] at alive
      exact absurd alive (none other)
  · intro returned
    have drained := (invariant.returned returned).1
    exact absurd (undrained.symm.trans drained) Bool.false_ne_true
  · intro other listed
    obtain ⟨before, below⟩ := invariant.started other listed
    have state : sh.spawn.greenlet other = sh.greenlet other :=
      Function.update_of_ne (Nat.ne_of_lt below) _ _
    rw [state]
    exact ⟨before, Nat.lt_succ_of_lt below⟩
  · intro other free
    have beyond : sh.spawned + 1 ≤ other := free
    have state : sh.spawn.greenlet other = sh.greenlet other :=
      Function.update_of_ne (by omega) _ _
    rw [state]
    exact invariant.fresh other (by omega)

/-- A greenlet that starts keeps the invariant. -/
theorem Invariant.start (invariant : Invariant sh) {task : Nat}
    (pending : sh.greenlet task = .pending) :
    Invariant { sh.setGreenlet task .running with started := sh.started ++ [task] } := by
  have each (other : Nat) (apart : other ≠ task) :
      (sh.setGreenlet task .running).greenlet other = sh.greenlet other :=
    Function.update_of_ne apart _ _
  have here : (sh.setGreenlet task .running).greenlet task = .running :=
    Function.update_self _ _ _
  have below : task < sh.spawned := by
    by_contra beyond
    have free := invariant.fresh task (Nat.le_of_not_lt beyond)
    exact absurd (pending.symm.trans free) nofun
  have alive (other : Nat) (lives : (sh.setGreenlet task .running).Alive other) :
      sh.Alive other := by
    by_cases same : other = task
    · subst same
      exact Or.inl pending
    · rwa [Alive, each other same] at lives
  constructor
  · exact invariant.filled.congr rfl rfl rfl rfl
  · exact invariant.accounted
  · exact invariant.drained
  · exact invariant.kept
  · exact fun other lives => invariant.alive other (alive other lives)
  · intro returned
    have none := invariant.returned returned
    exact ⟨none.1, fun other lives => none.2 other (alive other lives)⟩
  · intro other listed
    show (sh.setGreenlet task .running).greenlet other ≠ .pending ∧ other < sh.spawned
    rcases List.mem_append.mp listed with before | last
    · by_cases same : other = task
      · subst same
        rw [here]
        exact ⟨nofun, below⟩
      · rw [each other same]
        exact invariant.started other before
    · rw [List.mem_singleton.mp last, here]
      exact ⟨nofun, below⟩
  · intro other free
    have apart : other ≠ task := by
      have beyond : sh.spawned ≤ other := free
      omega
    exact (each other apart).trans (invariant.fresh other free)

/-- A callback that ends keeps the invariant. -/
theorem Invariant.stop (invariant : Invariant sh) (task : Nat) :
    Invariant (sh.setGreenlet task .ended) := by
  have each (other : Nat) : (sh.setGreenlet task .ended).greenlet other =
      if other = task then .ended else sh.greenlet other :=
    Function.update_apply sh.greenlet task .ended other
  apply invariant.greenlets
  · intro other lives
    rw [show Function.update sh.greenlet task .ended other = _ from each other] at lives
    split at lives
    · simp at lives
    · exact ⟨lives, invariant.alive other lives⟩
  · intro other free
    rw [show Function.update sh.greenlet task .ended other = _ from each other,
      invariant.fresh other free, ite_self]
  · intro other listed
    rw [show Function.update sh.greenlet task .ended other = _ from each other]
    split
    · exact nofun
    · exact (invariant.started other listed).1

/-- The generator that takes an entry keeps the invariant. -/
theorem Invariant.get (invariant : Invariant sh) {entry : Option Bytes}
    {queue : List (Option Bytes)} (first : sh.queue = entry :: queue) :
    Invariant { sh with queue := queue, taken := sh.taken ++ [entry] } := by
  refine { invariant with filled := ?_, accounted := ?_, drained := ?_ }
  · exact invariant.filled.congr rfl rfl rfl rfl
  · have accounted := invariant.accounted
    -- A drained queue is empty, so nothing was thrown away before this entry.
    have kept : sh.discarded = [] := by
      apply invariant.kept
      cases drained : sh.drained with
      | false => rfl
      | true => exact absurd (first.symm.trans (invariant.drained drained).2) nofun
    simp [← accounted, first, kept]
  · intro drained
    have empty := (invariant.drained drained).2
    exact absurd (first.symm.trans empty) nofun

/-! ## Steps and runs -/

/-- The steps that change the writer, or the task that a thread knows. -/
inductive Step (thread : Nat) (sh : Writer) : Pc → Writer → Pc → Prop where
  /-- The writer is left alone, by a thread that knows nothing of it before and after. -/
  | same (before after : Pc) (free : ∀ sh, Known thread sh after) : Step thread sh before sh after
  /-- A closed writer executes nothing. -/
  | closed : Step thread sh .producing sh .producing
  /-- `execute` begins. -/
  | spawn (opened : sh.closed = false) : Step thread sh .producing sh.spawn (.waiting sh.spawned)
  /-- A frame is written. -/
  | write (pc : Pc) (data : Bytes) : Step thread sh pc (sh.write data) pc
  /-- `done`. -/
  | done : Step thread sh .producing sh.done .producing
  /-- `execute` has waited for its greenlet. -/
  | clear (task : Nat) (ended : sh.greenlet task = .ended) :
      Step thread sh (.waiting task) { sh with task := none } (.ending task)
  /-- `execute` ends. -/
  | kill (task : Nat) : Step thread sh (.ending task) (sh.kill task) .producing
  /-- `execute` is interrupted. -/
  | finish (task : Nat) : Step thread sh (.waiting task) (sh.finish task) .producing
  /-- A callback starts. -/
  | start (task : Nat) (pending : sh.greenlet task = .pending) : Step thread sh .hub
      { sh.setGreenlet task .running with started := sh.started ++ [task] } .hub
  /-- A callback ends. -/
  | stop (task : Nat) : Step thread sh .hub (sh.setGreenlet task .ended) .hub
  /-- The generator takes an entry. -/
  | get (entry : Option Bytes) (queue : List (Option Bytes)) (first : sh.queue = entry :: queue)
      (after : Pc) (free : ∀ sh, Known thread sh after) :
      Step thread sh .reading { sh with queue := queue, taken := sh.taken ++ [entry] } after
  /-- `close` takes the lock. -/
  | drain (before : Pc) (generator : Bool) :
      Step thread sh before sh.drain (.closing sh.task generator)
  /-- `close` returns. -/
  | closeTask (task : Option Nat) (generator : Bool) (after : Pc)
      (free : ∀ sh, Known thread sh after) :
      Step thread sh (.closing task generator) (sh.closeTask task) after

/-- A step in terms of the result of the step function. -/
theorem Step.of_some {thread : Nat} {pc : Pc} {found result : Writer × Pc}
    (stepped : some found = some result) (step : Step thread sh pc found.1 found.2) :
    Step thread sh pc result.1 result.2 := by
  rw [← Option.some.inj stepped]
  exact step

/-- A thread steps as the relation says. -/
theorem Step.of_step (thread : Nat) {event : Event} {pc : Pc} {result : Writer × Pc}
    (stepped : step thread event sh pc = some result) : Step thread sh pc result.1 result.2 := by
  unfold step at stepped
  split at stepped
  · split at stepped
    · exact .of_some stepped .closed
    · rename_i opened
      exact .of_some stepped (.spawn (eq_false_of_ne_true opened))
  · exact .of_some stepped (.write _ _)
  · exact .of_some stepped .done
  · split at stepped
    · rename_i ended
      exact .of_some stepped (.clear _ ended)
    · exact absurd stepped nofun
  · exact .of_some stepped (.kill _)
  · exact .of_some stepped (.finish _)
  · split at stepped
    · rename_i pending
      exact .of_some stepped (.start _ pending)
    · exact absurd stepped nofun
  · split at stepped
    · exact .of_some stepped (.write _ _)
    · exact absurd stepped nofun
  · split at stepped
    · exact .of_some stepped (.stop _)
    · exact absurd stepped nofun
  · rw [Writer.get] at stepped
    split at stepped
    · exact absurd stepped nofun
    · rename_i frame queue first
      exact .of_some stepped (.get (some frame) queue first _ fun _ => trivial)
    · rename_i queue first
      exact .of_some stepped (.get none queue first _ fun _ => trivial)
  · split at stepped
    · exact .of_some stepped (.same _ _ fun _ => trivial)
    · exact absurd stepped nofun
  · exact .of_some stepped (.same _ _ fun _ => trivial)
  · exact .of_some stepped (.same _ _ fun _ => trivial)
  · exact .of_some stepped (.same _ _ fun _ => trivial)
  · exact .of_some stepped (.drain _ true)
  · exact .of_some stepped (.drain _ false)
  · rename_i task generator
    refine .of_some stepped (.closeTask task generator _ ?_)
    intro sh
    cases generator <;> exact trivial
  · exact absurd stepped nofun

variable {thread : Nat} {after : Writer} {pc pc' : Pc}

/-- A step keeps the invariant. -/
theorem Step.invariant (stepped : Step thread sh pc after pc') (before : Invariant sh)
    (known : Known thread sh pc) : Invariant after := by
  cases stepped with
  | same _ _ free => exact before
  | closed => exact before
  | spawn opened => exact before.spawn opened known.2
  | write _ data => exact before.write data
  | done => exact before.done
  | clear task ended => exact before.clear known.2 ended
  | kill task => exact before.kill task
  | finish task => exact before.finish known.2
  | start task pending => exact before.start pending
  | stop task => exact before.stop task
  | get entry queue first _ free => exact before.get first
  | drain _ generator => exact before.drain
  | closeTask task generator _ free => exact before.closeTask known.1 known.2

/-- A write changes the frames and the queue only. -/
theorem write_frame (sh : Writer) (data : Bytes) : ∃ queue entries, sh.write data =
    { sh with written := sh.written ++ [data], queue := queue, entries := entries } := by
  by_cases closed : sh.closed = true
  · exact ⟨sh.queue, sh.entries, write_of_closed closed data⟩
  · exact ⟨_, _, write_of_open (eq_false_of_ne_true closed) data⟩

/-- A `done` closes the writer, and changes the queue only besides. -/
theorem done_frame (sh : Writer) : ∃ beforeDone queue entries, sh.done =
    { sh with beforeDone := beforeDone, closed := true, queue := queue, entries := entries } := by
  by_cases closed : sh.closed = true
  · refine ⟨some (sh.beforeDone.getD sh.written), sh.queue, sh.entries, ?_⟩
    rw [done_of_closed closed, ← closed]
  · exact ⟨_, _, _, done_of_open (eq_false_of_ne_true closed)⟩

/-- A write leaves the task alone, and whether the queue was drained. -/
theorem write_task (sh : Writer) (data : Bytes) :
    (sh.write data).task = sh.task ∧ (sh.write data).drained = sh.drained := by
  obtain ⟨queue, entries, same⟩ := sh.write_frame data
  rw [same]
  exact ⟨rfl, rfl⟩

/-- A `done` leaves the task alone, and whether the queue was drained. -/
theorem done_task (sh : Writer) :
    sh.done.task = sh.task ∧ sh.done.drained = sh.drained := by
  obtain ⟨beforeDone, queue, entries, same⟩ := sh.done_frame
  rw [same]
  exact ⟨rfl, rfl⟩

/-- The end of `close` leaves the task alone, and whether the queue was drained. -/
theorem closeTask_task (sh : Writer) (task : Option Nat) :
    (sh.closeTask task).task = sh.task ∧ (sh.closeTask task).drained = sh.drained := by
  cases task <;> exact ⟨rfl, rfl⟩

/-- What a thread knows is about the task, and whether the queue was drained. -/
theorem Known.congr {pc : Pc} (known : Known thread sh pc) (task : after.task = sh.task)
    (drained : after.drained = sh.drained) : Known thread after pc := by
  cases pc with
  | producing => exact ⟨known.1, task.trans known.2⟩
  | waiting number => exact ⟨known.1, task.trans known.2⟩
  | ending number => exact ⟨known.1, task.trans known.2⟩
  | closing number generator =>
    refine ⟨drained.trans known.1, ?_⟩
    rw [task]
    exact known.2
  | _ => trivial

/-- The worker may clear the task: the others only know that it is cleared, or theirs. -/
theorem Known.cleared {other : Nat} {pc : Pc} (known : Known other sh pc) (worker : thread = 0)
    (apart : other ≠ thread) (task : after.task = none) (drained : after.drained = sh.drained) :
    Known other after pc := by
  cases pc with
  | producing => exact absurd (known.1.trans worker.symm) apart
  | waiting number => exact absurd (known.1.trans worker.symm) apart
  | ending number => exact absurd (known.1.trans worker.symm) apart
  | closing number generator => exact ⟨drained.trans known.1, Or.inl task⟩
  | _ => trivial

/-- A step establishes what its thread knows. -/
theorem Step.known (stepped : Step thread sh pc after pc') (known : Known thread sh pc) :
    Known thread after pc' := by
  cases stepped with
  | same _ _ free => exact free sh
  | closed => exact known
  | spawn opened => exact ⟨known.1, rfl⟩
  | write _ data => exact known.congr (sh.write_task data).1 (sh.write_task data).2
  | done => exact known.congr sh.done_task.1 sh.done_task.2
  | clear task ended => exact ⟨known.1, rfl⟩
  | kill task => exact known
  | finish task => exact ⟨known.1, rfl⟩
  | start task pending => trivial
  | stop task => trivial
  | get entry queue first _ free => exact free _
  | drain _ generator => exact ⟨rfl, Or.inr rfl⟩
  | closeTask task generator _ free => exact free _

/-- A step leaves the others what they know. -/
theorem Step.others (stepped : Step thread sh pc after pc') (before : Invariant sh)
    (known : Known thread sh pc) {other : Nat} {point : Pc} (apart : other ≠ thread)
    (knows : Known other sh point) : Known other after point := by
  cases stepped with
  | spawn opened =>
    cases point with
    | producing => exact absurd (knows.1.trans known.1.symm) apart
    | waiting task => exact absurd (knows.1.trans known.1.symm) apart
    | ending task => exact absurd (knows.1.trans known.1.symm) apart
    | closing task generator =>
      -- Nothing is spawned once the queue was drained, so the task that was found is the last one.
      have closed := (before.drained knows.1).1
      exact absurd (opened.symm.trans closed) Bool.false_ne_true
    | _ => trivial
  | clear task ended => exact knows.cleared known.1 apart rfl rfl
  | finish task => exact knows.cleared known.1 apart rfl rfl
  | write _ data => exact knows.congr (sh.write_task data).1 (sh.write_task data).2
  | done => exact knows.congr sh.done_task.1 sh.done_task.2
  | drain _ generator =>
    cases point with
    | producing => exact knows
    | waiting task => exact knows
    | ending task => exact knows
    | closing task generator => exact ⟨rfl, knows.2⟩
    | _ => trivial
  | closeTask task generator _ free =>
    exact knows.congr (sh.closeTask_task task).1 (sh.closeTask_task task).2
  | _ => exact knows.congr rfl rfl

/-- The invariant, and what each thread knows. -/
def assertions : Assertions Writer Pc := ⟨Invariant, Known⟩

/-- Nothing has happened in the beginning. -/
theorem initial_holds : assertions.Holds initial := by
  constructor
  · constructor
    · exact .opened rfl rfl rfl
    · rfl
    · exact nofun
    · exact fun _ => rfl
    · intro task alive
      rcases alive with pending | running
      · exact absurd pending nofun
      · exact absurd running nofun
    · exact nofun
    · exact nofun
    · exact fun _ _ => rfl
  · intro thread
    match thread with
    | 0 => exact ⟨rfl, rfl⟩
    | 1 => trivial
    | 2 => trivial
    | _ + 3 => trivial

/-- The assertions are kept by every run. -/
theorem run_holds {schedule : List (Nat × Event)} {pool later : Pool Writer Pc}
    (holds : assertions.Holds pool) (ran : machine.run pool schedule = some later) :
    assertions.Holds later := by
  apply Assertions.run_kept ?_ ?_ holds ran
  · intro pool thread event shared point holds stepped
    have step := Step.of_step thread stepped
    have known := holds.2 thread
    exact ⟨step.invariant holds.1 known, step.known known⟩
  · intro pool thread event shared point holds stepped other apart
    have step := Step.of_step thread stepped
    exact step.others holds.1 (holds.2 thread) apart (holds.2 other)

/-! ## What was received -/

/-- The end is the last entry: nothing is left behind it. -/
theorem nothing_left {frames : List Bytes} {taken rest : List (Option Bytes)}
    (whole : taken ++ rest = frames.map some ++ [none]) (ended : none ∈ taken) : rest = [] := by
  rcases List.eq_nil_or_concat rest with empty | ⟨initial, last, same⟩
  · exact empty
  · subst same
    rw [List.concat_eq_append, ← List.append_assoc] at whole
    have front : taken ++ initial = frames.map some := (List.append_inj' whole rfl).1
    have member : none ∈ frames.map some := front ▸ List.mem_append_left initial ended
    simp at member

/-- As long as the end was not read, only frames were. -/
theorem map_received (unread : sh.sentinelRead = false) : sh.received.map some = sh.taken := by
  have absent : none ∉ sh.taken := of_decide_eq_false unread
  rw [received]
  generalize sh.taken = taken at absent
  induction taken with
  | nil => rfl
  | cons entry taken ih =>
    have others : none ∉ taken := fun member => absent (List.mem_cons_of_mem entry member)
    cases entry with
    | none => exact absurd List.mem_cons_self absent
    | some frame =>
      have rest := ih others
      simpa using rest

/-- The frames of a list of frames. -/
theorem filterMap_frames (frames : List Bytes) : (frames.map some).filterMap id = frames := by
  simp

/-- At most one end is put into the queue. -/
theorem Invariant.sentinels (invariant : Invariant sh) : sh.sentinels ≤ 1 := by
  have none (frames : List Bytes) : (frames.map some).count Option.none = 0 :=
    List.count_eq_zero.mpr (by simp)
  rw [Writer.sentinels]
  cases invariant.filled with
  | opened _ entries _ =>
    rw [entries, none]
    exact Nat.zero_le 1
  | closed frames _ entries _ _ =>
    rw [entries, none]
    exact Nat.zero_le 1
  | done frames _ entries _ _ =>
    rw [entries, List.count_append, none]
    exact Nat.le_refl 1

/-- What was taken is the beginning of what was put. -/
theorem Invariant.received_entries (invariant : Invariant sh) :
    sh.received <+: sh.entries.filterMap id := by
  have begins : sh.taken <+: sh.entries := by
    rw [← invariant.accounted, List.append_assoc]
    exact List.prefix_append _ _
  exact begins.filterMap id

/-- The frames that were put are the first ones that were written, and before `done`. -/
theorem Invariant.entries_written (invariant : Invariant sh) :
    sh.entries.filterMap id <+: sh.written ∧
      ∀ frames, sh.beforeDone = some frames → sh.entries.filterMap id <+: frames := by
  cases invariant.filled with
  | opened _ entries beforeDone =>
    rw [entries, filterMap_frames]
    constructor
    · exact List.prefix_refl _
    · intro frames same
      exact absurd (beforeDone.symm.trans same) nofun
  | closed frames _ entries written beforeDone =>
    rw [entries, filterMap_frames]
    exact ⟨written, beforeDone⟩
  | done frames _ entries written beforeDone =>
    have all : sh.entries.filterMap id = frames := by
      rw [entries, List.filterMap_append, filterMap_frames]
      exact List.append_nil frames
    rw [all]
    constructor
    · exact written
    · intro other same
      have here := beforeDone.symm.trans same
      exact Option.some.inj here ▸ List.prefix_refl frames

/-- When an end was put, the frames before it are those that were written before `done`. -/
theorem Invariant.entries_done (invariant : Invariant sh) (ended : none ∈ sh.entries) :
    ∃ frames, sh.beforeDone = some frames ∧
      sh.taken ++ (sh.discarded ++ sh.queue) = frames.map some ++ [none] := by
  have accounted := invariant.accounted
  rw [List.append_assoc] at accounted
  cases invariant.filled with
  | opened _ entries _ =>
    rw [entries] at ended
    simp at ended
  | closed frames _ entries _ _ =>
    rw [entries] at ended
    simp at ended
  | done frames _ entries _ beforeDone =>
    exact ⟨frames, beforeDone, accounted.trans entries⟩

/-- Who has read up to the end has received all frames that were written before `done`. -/
theorem Invariant.all_received (invariant : Invariant sh) (read : sh.sentinelRead = true) :
    sh.beforeDone = some sh.received := by
  have member : none ∈ sh.taken := of_decide_eq_true read
  have ended : none ∈ sh.entries := by
    rw [← invariant.accounted, List.append_assoc]
    exact List.mem_append_left _ member
  obtain ⟨frames, beforeDone, whole⟩ := invariant.entries_done ended
  have rest := nothing_left whole member
  rw [rest, List.append_nil] at whole
  have same : sh.received = frames := by
    rw [received, whole, List.filterMap_append, filterMap_frames]
    exact List.append_nil frames
  rw [same]
  exact beforeDone

/-- With an end in the queue, all frames were received exactly by who has read up to it or has
left nothing but it. -/
theorem Invariant.received_iff (invariant : Invariant sh) (ended : sh.sentinels = 1)
    {frames : List Bytes} (beforeDone : sh.beforeDone = some frames) :
    sh.received = frames ↔ sh.sentinelRead = true ∨ sh.discarded ++ sh.queue = [none] := by
  have positive : 0 < sh.entries.count none := by
    rw [Writer.sentinels] at ended
    omega
  have member : none ∈ sh.entries := List.count_pos_iff.mp positive
  obtain ⟨others, same, whole⟩ := invariant.entries_done member
  obtain rfl : others = frames := Option.some.inj (same.symm.trans beforeDone)
  constructor
  · intro all
    cases read : sh.sentinelRead with
    | true => exact Or.inl rfl
    | false =>
      rw [← map_received read, all] at whole
      exact Or.inr (List.append_cancel_left whole)
  · intro reached
    rcases reached with read | left
    · have received := invariant.all_received read
      exact (Option.some.inj (beforeDone.symm.trans received)).symm
    · rw [left] at whole
      have taken : sh.taken = others.map some := List.append_cancel_right whole
      rw [received, taken, filterMap_frames]

/-! ## After `close` -/

/-- Some `close` has returned, and these callbacks have started. -/
structure Over (started : List Nat) (sh : Writer) : Prop where
  /-- Some `close` has returned. -/
  returned : sh.returned = true
  /-- The callbacks that have started. -/
  started : sh.started = started

/-- A write starts nothing. -/
theorem Over.write {started : List Nat} (past : Over started sh) (data : Bytes) :
    Over started (sh.write data) := by
  obtain ⟨queue, entries, same⟩ := sh.write_frame data
  rw [same]
  exact ⟨past.returned, past.started⟩

/-- A `done` starts nothing. -/
theorem Over.done {started : List Nat} (past : Over started sh) : Over started sh.done := by
  obtain ⟨beforeDone, queue, entries, same⟩ := sh.done_frame
  rw [same]
  exact ⟨past.returned, past.started⟩

/-- No callback starts after a `close`. -/
theorem Step.past (stepped : Step thread sh pc after pc') (before : Invariant sh)
    {started : List Nat} (past : Over started sh) : Over started after := by
  cases stepped with
  | write _ data => exact past.write data
  | done => exact past.done
  | start task pending =>
    have dead := (before.returned past.returned).2 task
    exact absurd (Or.inl pending) dead
  | closeTask task generator _ free =>
    cases task with
    | none => exact ⟨rfl, past.started⟩
    | some task => exact ⟨rfl, past.started⟩
  | _ => exact ⟨past.returned, past.started⟩

/-- No run starts a callback after a `close`. -/
theorem run_over {schedule : List (Nat × Event)} {pool later : Pool Writer Pc}
    {started : List Nat} (holds : assertions.Holds pool) (past : Over started pool.shared)
    (ran : machine.run pool schedule = some later) : Over started later.shared := by
  have both : assertions.Holds later ∧ Over started later.shared := by
    apply Machine.run_preserves_all ?_ pool schedule later ⟨holds, past⟩ ran
    intro pool thread event next both fired
    have kept : assertions.Holds next := run_holds both.1 (Machine.run_cons fired [])
    obtain ⟨shared, point, stepped, rfl⟩ := Machine.fire_eq_some fired
    exact ⟨kept, (Step.of_step thread stepped).past both.1.1 both.2⟩
  exact both.2

/-- After a `close` the queue is empty, and the callbacks were told to stop or have ended. -/
theorem Invariant.after_close (invariant : Invariant sh) (returned : sh.returned = true) :
    sh.queue = [] ∧ ∀ task, sh.greenlet task = .told ∨ sh.greenlet task = .ended := by
  obtain ⟨drained, dead⟩ := invariant.returned returned
  constructor
  · exact (invariant.drained drained).2
  · intro task
    have none := dead task
    cases state : sh.greenlet task with
    | pending => exact absurd (Or.inl state) none
    | running => exact absurd (Or.inr state) none
    | told => exact Or.inl rfl
    | ended => exact Or.inr rfl

/-- The frame that an event writes. -/
def eventFrame : Event → Option Bytes
  | .write data | .callbackWrite _ data => some data
  | _ => none

/-- The greenlet whose callback an event starts. -/
def eventStart : Event → Option Nat
  | .start task => some task
  | _ => none

/-- The frames that a schedule writes. -/
def framesOf (schedule : List (Nat × Event)) : List Bytes :=
  schedule.filterMap fun move => eventFrame move.2

/-- The frames that a schedule writes before its first `done`. -/
def framesBeforeDone (schedule : List (Nat × Event)) : Option (List Bytes) :=
  if schedule.any fun move => move.2 = .done then
    some (framesOf (schedule.takeWhile fun move => move.2 ≠ .done))
  else none

/-- The greenlets whose callbacks a schedule starts. -/
def startsOf (schedule : List (Nat × Event)) : List Nat :=
  schedule.filterMap fun move => eventStart move.2

/-- The frames before the first `done`, with one more event. -/
theorem framesBeforeDone_append (seen : List (Nat × Event)) (thread : Nat) (event : Event) :
    framesBeforeDone (seen ++ [(thread, event)]) =
      if event = .done then some ((framesBeforeDone seen).getD (framesOf seen))
      else framesBeforeDone seen := by
  by_cases ended : (seen.any fun move => move.2 = .done) = true
  · have early : (seen ++ [(thread, event)]).takeWhile (fun move => move.2 ≠ .done) =
        seen.takeWhile fun move => move.2 ≠ .done := by
      rw [List.takeWhile_append, if_neg]
      intro whole
      obtain ⟨move, listed, done⟩ := List.any_eq_true.mp ended
      have all := List.takeWhile_eq_self_iff.mp
        ((List.takeWhile_prefix _).eq_of_length whole) move listed
      simp_all
    have still : ((seen ++ [(thread, event)]).any fun move => move.2 = .done) = true := by
      rw [List.any_append, ended, Bool.true_or]
    simp only [framesBeforeDone, if_pos ended, if_pos still, early]
    split <;> rfl
  · have all : seen.takeWhile (fun move => move.2 ≠ .done) = seen := by
      apply List.takeWhile_eq_self_iff.mpr
      intro move listed
      simp only [List.any_eq_true, not_exists, not_and] at ended
      simpa using ended move listed
    have none : framesBeforeDone seen = none := by rw [framesBeforeDone, if_neg ended]
    rw [none]
    by_cases last : event = .done
    · have whole : (seen ++ [(thread, event)]).takeWhile (fun move => move.2 ≠ .done) = seen := by
        rw [List.takeWhile_append, if_pos (congrArg List.length all)]
        simp [last]
      have ends : ((seen ++ [(thread, event)]).any fun move => move.2 = .done) = true := by
        simp [last]
      rw [if_pos last, framesBeforeDone, if_pos ends, whole]
      rfl
    · have running : ¬((seen ++ [(thread, event)]).any fun move => move.2 = .done) = true := by
        simpa [last] using ended
      rw [if_neg last, framesBeforeDone, if_neg running]

/-- What the theorems look back on goes on by the event. -/
def Records (event : Event) (sh after : Writer) : Prop :=
  after.written = sh.written ++ (eventFrame event).toList ∧
    after.started = sh.started ++ (eventStart event).toList ∧
    after.beforeDone =
      if event = .done then some (sh.beforeDone.getD sh.written) else sh.beforeDone

/-- Most steps record nothing. -/
theorem Records.same {event : Event} (quiet : eventFrame event = none)
    (still : eventStart event = none) (goes : event ≠ .done) (written : after.written = sh.written)
    (started : after.started = sh.started) (beforeDone : after.beforeDone = sh.beforeDone) :
    Records event sh after := by
  rw [Records, quiet, still, if_neg goes]
  simpa using ⟨written, started, beforeDone⟩

/-- Every step records what its event does. -/
theorem step_records {event : Event} {result : Writer × Pc}
    (stepped : step thread event sh pc = some result) : Records event sh result.1 := by
  have of_some {event : Event} {found : Writer × Pc} (stepped : some found = some result)
      (records : Records event sh found.1) : Records event sh result.1 := by
    rw [← Option.some.inj stepped]
    exact records
  have write (event : Event) (data : Bytes) (frame : eventFrame event = some data)
      (still : eventStart event = none) (goes : event ≠ .done) :
      Records event sh (sh.write data) := by
    obtain ⟨queue, entries, same⟩ := sh.write_frame data
    rw [Records, same, frame, still, if_neg goes]
    simp
  have closeTask (task : Option Nat) : Records .kill sh (sh.closeTask task) := by
    cases task <;> exact .same rfl rfl (by simp) rfl rfl rfl
  unfold step at stepped
  split at stepped
  · split at stepped
    · exact of_some stepped (.same rfl rfl (by simp) rfl rfl rfl)
    · exact of_some stepped (.same rfl rfl (by simp) rfl rfl rfl)
  · exact of_some stepped (write _ _ rfl rfl (by simp))
  · refine of_some stepped ?_
    by_cases closed : sh.closed = true
    · rw [done_of_closed closed]
      simp [Records, eventFrame, eventStart]
    · rw [done_of_open (eq_false_of_ne_true closed)]
      simp [Records, eventFrame, eventStart, put]
  · split at stepped
    · exact of_some stepped (.same rfl rfl (by simp) rfl rfl rfl)
    · exact absurd stepped nofun
  · exact of_some stepped (.same rfl rfl (by simp) rfl rfl rfl)
  · exact of_some stepped (.same rfl rfl (by simp) rfl rfl rfl)
  · split at stepped
    · refine of_some stepped ?_
      simp [Records, eventFrame, eventStart, setGreenlet]
    · exact absurd stepped nofun
  · split at stepped
    · exact of_some stepped (write _ _ rfl rfl (by simp))
    · exact absurd stepped nofun
  · split at stepped
    · exact of_some stepped (.same rfl rfl (by simp) rfl rfl rfl)
    · exact absurd stepped nofun
  · rw [Writer.get] at stepped
    split at stepped
    · exact absurd stepped nofun
    · exact of_some stepped (.same rfl rfl (by simp) rfl rfl rfl)
    · exact of_some stepped (.same rfl rfl (by simp) rfl rfl rfl)
  · split at stepped
    · exact of_some stepped (.same rfl rfl (by simp) rfl rfl rfl)
    · exact absurd stepped nofun
  · exact of_some stepped (.same rfl rfl (by simp) rfl rfl rfl)
  · exact of_some stepped (.same rfl rfl (by simp) rfl rfl rfl)
  · exact of_some stepped (.same rfl rfl (by simp) rfl rfl rfl)
  · exact of_some stepped (.same rfl rfl (by simp) rfl rfl rfl)
  · exact of_some stepped (.same rfl rfl (by simp) rfl rfl rfl)
  · exact of_some stepped (closeTask _)
  · exact absurd stepped nofun

/-- What the theorems look back on is what the schedule does. -/
theorem run_records {schedule : List (Nat × Event)} {pool : Pool Writer Pc}
    (ran : machine.run initial schedule = some pool) :
    pool.shared.written = framesOf schedule ∧ pool.shared.started = startsOf schedule ∧
      pool.shared.beforeDone = framesBeforeDone schedule := by
  refine @Machine.run_schedule _ _ _ machine (fun pool seen =>
    pool.shared.written = framesOf seen ∧ pool.shared.started = startsOf seen ∧
      pool.shared.beforeDone = framesBeforeDone seen) ?_ initial schedule pool ?_ ran
  · rintro pool seen thread event next ⟨written, started, beforeDone⟩ fired
    obtain ⟨shared, point, stepped, rfl⟩ := Machine.fire_eq_some fired
    have records : Records event pool.shared shared :=
      step_records (show step thread event _ _ = some (shared, point) from stepped)
    obtain ⟨written', started', beforeDone'⟩ := records
    refine ⟨?_, ?_, ?_⟩
    · rw [written', written, framesOf, framesOf, List.filterMap_append]
      cases frame : eventFrame event <;> simp [frame]
    · rw [started', started, startsOf, startsOf, List.filterMap_append]
      cases start : eventStart event <;> simp [start]
    · rw [beforeDone', written, beforeDone, framesBeforeDone_append]
  · exact ⟨rfl, rfl, rfl⟩

/-- In every interleaving of the worker, the callbacks, the generator and any number of `close`:
what was written, and what before the first `done`, are the frames of the schedule; at most one
end is put into the queue; the generator receives the first frames that were written, in order; it
has received all frames that were written before `done` when it has read up to the
end, and otherwise, when an end was put, exactly if it has left nothing but the end. From the
return of a `close` on the queue is empty, no callback starts, and every callback was told to stop
or has ended. -/
theorem run_response {schedule : List (Nat × Event)} {pool : Pool Writer Pc}
    (ran : machine.run initial schedule = some pool) :
    (pool.shared.written = framesOf schedule ∧ pool.shared.started = startsOf schedule ∧
      pool.shared.beforeDone = framesBeforeDone schedule) ∧
    pool.shared.sentinels ≤ 1 ∧
    pool.shared.received <+: pool.shared.written ∧
    (pool.shared.sentinelRead = true → pool.shared.beforeDone = some pool.shared.received) ∧
    (∀ frames, pool.shared.beforeDone = some frames →
      pool.shared.received <+: frames ∧
      (pool.shared.sentinels = 1 → (pool.shared.received = frames ↔
        pool.shared.sentinelRead = true ∨
          pool.shared.discarded ++ pool.shared.queue = [none]))) ∧
    (pool.shared.returned = true → ∀ rest later, machine.run pool rest = some later →
      later.shared.queue = [] ∧ later.shared.started = pool.shared.started ∧
      ∀ task, later.shared.greenlet task = .told ∨ later.shared.greenlet task = .ended) := by
  have holds := run_holds initial_holds ran
  have invariant : Invariant pool.shared := holds.1
  have begins := invariant.received_entries
  have written := invariant.entries_written
  refine ⟨run_records ran, invariant.sentinels, begins.trans written.1, invariant.all_received, ?_,
    ?_⟩
  · intro frames beforeDone
    have early := written.2 frames beforeDone
    exact ⟨begins.trans early, fun ended => invariant.received_iff ended beforeDone⟩
  · intro returned rest later run
    have past := run_over holds ⟨returned, rfl⟩ run
    have last : Invariant later.shared := (run_holds holds run).1
    obtain ⟨empty, stopped⟩ := last.after_close past.returned
    exact ⟨empty, past.started, stopped⟩

/-- The callback writes a frame while the generator closes, for examples: the generator takes the
first frame, and is closed in between; the second frame is thrown away. -/
def closedEarly : List (Nat × Event) := [
  (0, .execute), (2, .start 0), (2, .callbackWrite 0 [1]), (1, .resumed), (1, .get),
  (2, .callbackWrite 0 [2]), (1, .disconnect), (1, .close), (2, .callbackWrite 0 [3]), (1, .kill)]

/-- The writer is closed, the callback was told to stop, and the worker still waits. -/
theorem run_response_closedEarly :
    ∃ pool, machine.run initial closedEarly = some pool ∧ pool.shared.received = [[1]] ∧
      pool.shared.received <+: pool.shared.written ∧ pool.shared.started = [0] ∧
      pool.shared.greenlet 0 = .told ∧
      ∀ later, machine.run pool [(2, .callbackWrite 0 [4]), (2, .stop 0), (0, .clear)] =
        some later → later.shared.queue = [] := by
  have ran : machine.run initial closedEarly = some _ := rfl
  have response := run_response ran
  refine ⟨_, ran, rfl, response.2.2.1, rfl, rfl, ?_⟩
  intro later run
  exact (response.2.2.2.2.2 rfl _ later run).1

/-- The generator takes the only frame and is closed before it takes the end, for examples. -/
def leftBeforeEnd : List (Nat × Event) := [
  (0, .write [1]), (0, .done), (1, .resumed), (1, .get), (1, .disconnect), (1, .close), (1, .kill)]

/-- All frames may be received without reading up to the end. -/
theorem received_without_sentinel :
    ∃ pool, machine.run initial leftBeforeEnd = some pool ∧
      pool.shared.beforeDone = some pool.shared.received ∧
      ¬ (pool.shared.beforeDone = some pool.shared.received ↔
        pool.shared.sentinelRead = true) := by
  refine ⟨_, rfl, rfl, ?_⟩
  decide

end Writer

end DifyPlugin.Serverless
