import DifyPlugin.Core.Server.Base
import DifyPlugin.Core.Server.IoServer
import DifyPlugin.Library.Interleaving
import DifyPlugin.Library.Workers
import Mathlib.Data.List.Nodup
import Mathlib.Data.List.Perm.Subperm
import Mathlib.Data.List.ReduceOption

/-!
# Requests in the thread pool

`IOServer._run`: the event loop hands the requests to the listener, `_setup_instruction_listener`
submits one task for each to the executor, `MAX_WORKER` threads run `_execute_request_in_thread`,
and heartbeats are written in between, all through one writer. A call of `write` is one step. What
a handler and the writer do may depend on anything, so they are functions of the number of the
task. A handler may also write frames into its session itself, since `_full_duplex_backwards_invoke`
takes the writer of the session: while it runs, an invocation may be written at any time.
-/

namespace DifyPlugin.IoServer

open Interleaving Server Plugin Workers

/-- The pool and the behaviour of what runs in it. -/
structure Service (δ ω μ β : Type) where
  /-- `MAX_WORKER`. -/
  maxWorker : Nat
  /-- What `dispatch` returns for a task. -/
  respond : Nat → PluginInStream δ → Response ω μ β
  /-- `uuid4().hex` in a task. -/
  newId : Nat → Nat → Text
  /-- What `write` raises in a task. -/
  writer : Nat → Writer (Dump ω μ β)

/-- A frame of a session; `ι` are the dictionaries of invocations. -/
inductive Frame (δ ι : Type) where
  /-- `_execute_request_in_thread` writes it. -/
  | answer (frame : SessionFrame δ)
  /-- `stream_invoke_object`, which the handler writes. -/
  | invoke (sessionId : Text) (data : ι)
  deriving DecidableEq

/-- What a thread does with the writer. -/
inductive Line (δ ι : Type) where
  /-- `dispatch` has returned; nothing is written. -/
  | dispatched
  /-- An entry of a request. -/
  | request (entry : Entry δ)
  /-- `_full_duplex_backwards_invoke` writes into its session. -/
  | invoke (sessionId : Text) (data : ι)
  /-- `heartbeat()`. -/
  | heartbeat

/-- The reader of the listener and the executor. -/
structure Shared (δ ω μ β : Type) where
  /-- The filter reader of the listener. -/
  reader : FilterReader δ
  /-- `executer`, with what its workers do. -/
  executor : Executor (PluginInStream δ) (Line (Dump ω μ β) δ)
  /-- The requests that were written to the filter reader. -/
  arrived : List (PluginInStream δ)

/-- Where a thread stands. -/
inductive Pc (α : Type) where
  /-- The event loop, `_heartbeat`, or a thread that closes the server. -/
  | outside
  /-- `_setup_instruction_listener` waits for a request. -/
  | listening
  /-- The loop of `_setup_instruction_listener` has ended. -/
  | stopped
  /-- A worker waits for a task. -/
  | idle
  /-- A worker executes a task, and this is what it still does. -/
  | executing (number : Nat) (rest : List α)

/-- How a thread goes on. -/
inductive Event (δ : Type) where
  /-- The event loop has a message. -/
  | arrive (data : PluginInStream δ)
  /-- `RequestReader.close`. -/
  | close
  /-- `_heartbeat` writes. -/
  | beat
  /-- The listener goes on. -/
  | listen
  /-- A worker takes a task. -/
  | take
  /-- A worker does the next thing. -/
  | proceed
  /-- The handler of a worker's task invokes the daemon. -/
  | invoke (data : δ)
  /-- A worker is done with its task. -/
  | finish

namespace Frame

variable {δ ι : Type}

/-- The session of a frame. -/
def sessionId : Frame δ ι → Text
  | .answer frame => frame.sessionId
  | .invoke sessionId _ => sessionId

/-- The frame, when it is no invocation. -/
def answered : Frame δ ι → Option (SessionFrame δ)
  | .answer frame => some frame
  | .invoke _ _ => none

end Frame

namespace Line

variable {δ ι : Type}

/-- The frame of a line that is no invocation. -/
def answer : Line δ ι → Option (SessionFrame δ)
  | .request entry => entry.written
  | _ => none

/-- The session frame of a line. -/
def frame : Line δ ι → Option (Frame δ ι)
  | .request entry => entry.written.map .answer
  | .invoke sessionId data => some (.invoke sessionId data)
  | _ => none

/-- The handler runs until `dispatch` has returned, and until its generator is closed. -/
def handles : Line δ ι → Bool
  | .dispatched | .request .closed => true
  | _ => false

/-- The frames of a session in the order in which they were written. -/
def framesOf (sessionId : Text) (output : List (Option Nat × Line δ ι)) : List (Frame δ ι) :=
  output.filterMap fun line => line.2.frame.filter fun frame => frame.sessionId = sessionId

end Line

namespace Event

variable {δ : Type}

/-- The event closes the reader. -/
def closes : Event δ → Bool
  | .close => true
  | _ => false

/-- The request that an event brings. -/
def request : Event δ → Option (PluginInStream δ)
  | .arrive data => if data.event = .request then some data else none
  | _ => none

end Event

/-- The requests of a schedule that arrive before the reader is closed. -/
def requests {δ : Type} (schedule : List (Nat × Event δ)) : List (PluginInStream δ) :=
  (schedule.takeWhile fun move => !move.2.closes).filterMap fun move => move.2.request

/-- The task that a thread executes. -/
def Pc.running {α : Type} : Pc α → Option (Nat × List α)
  | .executing number rest => some (number, rest)
  | _ => none

namespace Service

variable {δ ω μ β : Type}

/-- Everything that `_execute_request_in_thread` does in a task. -/
def entries (service : Service δ ω μ β) (number : Nat) (data : PluginInStream δ) :
    List (Entry (Dump ω μ β)) :=
  (executeRequestInThread (service.writer number) .direct data.sessionId (service.newId number)
    (service.respond number data) []).log

/-- Everything that a worker does with a task. -/
def trace (service : Service δ ω μ β) (number : Nat) (data : PluginInStream δ) :
    List (Line (Dump ω μ β) δ) :=
  .dispatched :: (service.entries number data).map .request

/-- `filter` of `_setup_instruction_listener`. -/
def filter (data : PluginInStream δ) : Bool := data.event = .request

/-- `_process_line` with a message; a closed reader takes nothing. -/
def arrive (sh : Shared δ ω μ β) (data : PluginInStream δ) : Shared δ ω μ β :=
  if filter data && !sh.reader.closed then
    { sh with reader := sh.reader.write data, arrived := sh.arrived ++ [data] }
  else sh

/-- One round of the loop of `_setup_instruction_listener`. -/
def listen (sh : Shared δ ω μ β) : Option (Shared δ ω μ β × Pc (Line (Dump ω μ β) δ)) :=
  match sh.reader.queue with
  | [] => if sh.reader.closed then some (sh, .stopped) else none
  | none :: queue => some ({ sh with reader := { sh.reader with queue } }, .stopped)
  | some data :: queue =>
    some ({ sh with
      reader := { sh.reader with queue }
      executor := sh.executor.submit data }, .listening)

/-- A worker takes the first task. -/
def take (service : Service δ ω μ β) (sh : Shared δ ω μ β) :
    Option (Shared δ ω μ β × Pc (Line (Dump ω μ β) δ)) :=
  match sh.executor.tasks with
  | [] => none
  | data :: rest =>
    let number := sh.executor.started.length
    let trace := service.trace number data
    some ({ sh with executor := sh.executor.start data trace rest }, .executing number trace)

/-- `session.writer.session_message` with a `stream_invoke_object`, in a handler that runs; when it
raises, nothing is written, and the handler goes on as it responds. -/
def invoke (sh : Shared δ ω μ β) (number : Nat) (rest : List (Line (Dump ω μ β) δ)) (data : δ) :
    Option (Shared δ ω μ β × Pc (Line (Dump ω μ β) δ)) :=
  match sh.executor.started[number]? with
  | none => none
  | some (request, _) =>
    if rest.any Line.handles then
      some ({ sh with executor := sh.executor.put none (.invoke request.sessionId data) },
        .executing number rest)
    else none

/-- One thread goes to its next step. -/
def step (service : Service δ ω μ β) (event : Event δ) (sh : Shared δ ω μ β)
    (pc : Pc (Line (Dump ω μ β) δ)) : Option (Shared δ ω μ β × Pc (Line (Dump ω μ β) δ)) :=
  match pc, event with
  | .outside, .arrive data => some (arrive sh data, .outside)
  | .outside, .close => some ({ sh with reader := sh.reader.close }, .outside)
  | .outside, .beat => some ({ sh with executor := sh.executor.put none .heartbeat }, .outside)
  | .listening, .listen => listen sh
  | .idle, .take => service.take sh
  | .executing number (action :: rest), .proceed =>
    some ({ sh with executor := sh.executor.put (some number) action }, .executing number rest)
  | .executing number rest, .invoke data => invoke sh number rest data
  | .executing _ [], .finish => some (sh, .idle)
  | _, _ => none

/-- The threads of the server. -/
def machine (service : Service δ ω μ β) :
    Machine (Shared δ ω μ β) (Pc (Line (Dump ω μ β) δ)) (Event δ) :=
  ⟨fun _ => service.step⟩

/-- Thread 1 listens, and the next ones are the workers. -/
def initial (service : Service δ ω μ β) : Pool (Shared δ ω μ β) (Pc (Line (Dump ω μ β) δ)) where
  shared := ⟨⟨false, []⟩, ⟨[], [], []⟩, []⟩
  control thread :=
    if thread = 1 then .listening
    else if 2 ≤ thread ∧ thread < 2 + service.maxWorker then .idle
    else .outside

/-- The requests that wait in the queue of the listener. -/
def queued (sh : Shared δ ω μ β) : List (PluginInStream δ) := sh.reader.queue.reduceOption

end Service

section Sessions

variable {δ : Type}

variable {ω μ β : Type}

/-- A frame that does not end the session. -/
def Streams (frame : SessionFrame δ) : Prop := ∃ data, frame.data = .stream data

/-- The written frames of the entry are stream frames. -/
def StreamsOnly (entry : Entry δ) : Prop := ∀ frame, entry.written = some frame → Streams frame

/-- Only stream frames are written until the handler is closed. -/
def Handled (added : List (Entry δ)) : Prop :=
  ∃ early late, added = early ++ late ∧ (∀ entry ∈ early, StreamsOnly entry) ∧ .closed ∉ late

/-- Entries that close nothing may follow. -/
theorem Handled.append {added more : List (Entry δ)} (handled : Handled added)
    (closes : Entry.closed ∉ more) : Handled (added ++ more) := by
  obtain ⟨early, late, rfl, streams, quiet⟩ := handled
  refine ⟨early, late ++ more, List.append_assoc .., streams, ?_⟩
  intro listed
  rcases List.mem_append.mp listed with first | second
  · exact quiet first
  · exact closes second

/-- A stream frame is one, when it is written. -/
theorem streamsOnly_sessionMessage (writer : Writer δ) (sessionId : Text) (data : δ) :
    (sessionMessage writer sessionId (.stream data)).Every StreamsOnly := by
  apply (logs_sessionMessage writer sessionId _).mono
  intro added raised met entry listed frame written
  rcases met with ⟨rfl, -⟩ | ⟨rfl, -⟩
  · obtain rfl := List.mem_singleton.mp listed
    obtain rfl := Option.some.inj written
    exact ⟨data, rfl⟩
  · obtain rfl := List.mem_singleton.mp listed
    exact absurd written (by simp [Entry.written])

/-- `_execute_request` writes stream frames only. -/
theorem streamsOnly_executeRequest (writer : Writer (Dump ω μ β)) (sessionId : Text)
    (newId : Nat → Text) (response : Response ω μ β) :
    (executeRequest writer sessionId newId response).Every StreamsOnly := by
  cases response with
  | raised error => exact Statement.Every.outcome (some error)
  | falsy => exact Statement.Every.outcome none
  | single message => exact streamsOnly_sessionMessage writer sessionId _
  | generator messages =>
    apply Statement.Every.forClosing
    · intro frame written
      exact absurd written (by simp [Entry.written])
    · intro issued message
      induction (splitMessage newId issued message).2 with
      | nil => exact Statement.Every.outcome none
      | cons data rest ih => exact (streamsOnly_sessionMessage writer sessionId data).andThen ih

/-- A frame that is written, or is not, closes nothing. -/
theorem logs_sessionMessage_open (writer : Writer δ) (sessionId : Text)
    (data : SessionMessage δ) :
    (sessionMessage writer sessionId data).Logs fun added _ => .closed ∉ added := by
  apply (logs_sessionMessage writer sessionId data).mono
  rintro added raised (⟨rfl, -⟩ | ⟨rfl, -⟩) <;> simp

/-- An error frame and an end frame stand behind the close of the handler. -/
theorem logs_executeRequestInThread_handled (writer : Writer (Dump ω μ β)) (sessionId : Text)
    (newId : Nat → Text) (response : Response ω μ β) :
    (executeRequestInThread writer .direct sessionId newId response).Logs
      fun added _ => Handled added := by
  have reported : ((executeRequest writer sessionId newId response).tryExcept
      (reportError writer sessionId)).Logs fun added _ => Handled added := by
    apply Statement.Logs.tryExcept (streamsOnly_executeRequest writer sessionId newId response)
    · intro added raised streams _
      exact ⟨added, [], (List.append_nil _).symm, streams, List.not_mem_nil⟩
    · intro added error handle streams handled
      have early : Handled added :=
        ⟨added, [], (List.append_nil _).symm, streams, List.not_mem_nil⟩
      cases error with
      | exception error =>
        obtain rfl := Option.some.inj handled
        apply (logs_sessionMessage_open writer sessionId _).mono
        intro more _ quiet
        exact early.append quiet
      | greenletExit => exact absurd handled (by simp [reportError])
      | other => exact absurd handled (by simp [reportError])
  have ended : (((executeRequest writer sessionId newId response).tryExcept
      (reportError writer sessionId)).andThen (sessionMessage writer sessionId .finish)).Logs
        fun added _ => Handled added := by
    apply Statement.Logs.andThen reported (logs_sessionMessage_open writer sessionId .finish)
    · intro added error met
      exact met
    · intro added more raised met quiet
      exact met.append quiet
  apply Statement.Logs.tryFinally ended (Statement.logs_record Entry.done)
  rintro added more raised failed met ⟨rfl, -⟩
  exact met.append (by simp)

/-- What a task has done while its handler runs: the written frames are stream frames. -/
theorem Service.streams_trace (service : Service δ ω μ β) (number : Nat) (data : PluginInStream δ)
    {done rest : List (Line (Dump ω μ β) δ)} (split : service.trace number data = done ++ rest)
    (runs : rest.any Line.handles = true) {line : Line (Dump ω μ β) δ} (listed : line ∈ done)
    {frame : SessionFrame (Dump ω μ β)} (framed : line.answer = some frame) : Streams frame := by
  obtain ⟨added, appended, early, late, rfl, streams, quiet⟩ :=
    logs_executeRequestInThread_handled (service.writer number) data.sessionId
      (service.newId number) (service.respond number data) []
  have entries : service.entries number data = early ++ late := appended
  rw [Service.trace, entries, List.map_append, ← List.cons_append] at split
  rcases List.append_eq_append_iff.mp split with ⟨more, rfl, same⟩ | ⟨more, same, rfl⟩
  · -- the handler has ended
    obtain ⟨last, present, handles⟩ := List.any_eq_true.mp runs
    have behind : last ∈ late.map Line.request := same ▸ List.mem_append_right _ present
    obtain ⟨entry, found, rfl⟩ := List.mem_map.mp behind
    cases entry with
    | closed => exact absurd found quiet
    | wrote _ => exact absurd handles (by simp [Line.handles])
    | failed _ => exact absurd handles (by simp [Line.handles])
    | done => exact absurd handles (by simp [Line.handles])
  · have before : line ∈ Line.dispatched :: early.map Line.request :=
      same ▸ List.mem_append_left _ listed
    rcases List.mem_cons.mp before with rfl | mapped
    · exact absurd framed (by simp [Line.answer])
    · obtain ⟨entry, found, rfl⟩ := List.mem_map.mp mapped
      exact streams entry found frame framed

/-- A task does not invoke the daemon by itself. -/
theorem Service.uninvoked_trace (service : Service δ ω μ β) (number : Nat)
    (data : PluginInStream δ) (sessionId : Text) (invoked : δ) :
    Line.invoke sessionId invoked ∉ service.trace number data := by
  simp [Service.trace]

end Sessions

namespace Service

variable {δ ω μ β : Type}

/-- An invocation is one of a started task with its session, and before it the task has written
stream frames only. -/
def Invoked (executor : Executor (PluginInStream δ) (Line (Dump ω μ β) δ)) : Prop :=
  ∀ before tag sessionId data after,
    executor.output = before ++ (tag, .invoke sessionId data) :: after →
    ∃ number entry, executor.started[number]? = some entry ∧ entry.1.sessionId = sessionId ∧
      ∀ earlier ∈ before, earlier.1 = some number →
        ∀ frame, earlier.2.answer = some frame → Streams frame

/-- A line is put out. -/
theorem Invoked.put {executor : Executor (PluginInStream δ) (Line (Dump ω μ β) δ)}
    (invoked : Invoked executor) (tag : Option Nat) (action : Line (Dump ω μ β) δ)
    (new : ∀ sessionId data, action = .invoke sessionId data →
      ∃ number entry, executor.started[number]? = some entry ∧ entry.1.sessionId = sessionId ∧
        ∀ earlier ∈ executor.output, earlier.1 = some number →
          ∀ frame, earlier.2.answer = some frame → Streams frame) :
    Invoked (executor.put tag action) := by
  intro before other sessionId data after split
  have whole : executor.output ++ [(tag, action)] =
      before ++ (other, .invoke sessionId data) :: after := split
  rcases List.eq_nil_or_concat after with rfl | ⟨rest, last, rfl⟩
  · obtain ⟨rfl, same⟩ := List.append_inj' whole rfl
    exact new sessionId data (Prod.mk.inj (List.cons.inj same).1).2
  · rw [List.concat_eq_append, ← List.cons_append, ← List.append_assoc] at whole
    obtain ⟨earlier, -⟩ := List.append_inj' whole rfl
    exact invoked before other sessionId data rest earlier

/-- A task is started. -/
theorem Invoked.start {executor : Executor (PluginInStream δ) (Line (Dump ω μ β) δ)}
    (invoked : Invoked executor) (task : PluginInStream δ) (trace : List (Line (Dump ω μ β) δ))
    (rest : List (PluginInStream δ)) : Invoked (executor.start task trace rest) := by
  intro before tag sessionId data after split
  obtain ⟨number, entry, found, same⟩ := invoked before tag sessionId data after split
  refine ⟨number, entry, ?_, same⟩
  have inside := (List.getElem?_eq_some_iff.mp found).1
  show (executor.started ++ [(task, trace)])[number]? = some entry
  rw [List.getElem?_append_left inside, found]

/-- The invariant of the server. -/
structure Serving (service : Service δ ω μ β)
    (pool : Pool (Shared δ ω μ β) (Pc (Line (Dump ω μ β) δ))) : Prop where
  /-- The output of every task is what its worker has done so far. -/
  served : Served pool.shared.executor (Pc.running ∘ pool.control)
  /-- A request is submitted, or waits in the queue. -/
  ordered : pool.shared.executor.submitted ++ queued pool.shared = pool.shared.arrived
  /-- A task has the trace of its request. -/
  traced : ∀ number entry, pool.shared.executor.started[number]? = some entry →
    entry.2 = service.trace number entry.1
  /-- What is not in a trace is a heartbeat or an invocation. -/
  beats : ∀ line, (none, line) ∈ pool.shared.executor.output → line.answer = none
  /-- An invocation is written while the handler of its session runs. -/
  invoked : Invoked pool.shared.executor
  /-- A thread that executes a task is a worker. -/
  worker : ∀ thread, ((pool.control thread).running ≠ none ∨ pool.control thread = .idle) →
    2 ≤ thread ∧ thread < 2 + service.maxWorker

variable {service : Service δ ω μ β} {pool : Pool (Shared δ ω μ β) (Pc (Line (Dump ω μ β) δ))}

/-- A thread that does not work goes on, and the executor stays as it is. -/
theorem Serving.outside (serving : service.Serving pool) {thread : Nat}
    {sh : Shared δ ω μ β} (pc : Pc (Line (Dump ω μ β) δ))
    (free : (pool.control thread).running = none) (away : pc.running = none) (busy : pc ≠ .idle)
    (served : Served sh.executor (Pc.running ∘ pool.control))
    (ordered : sh.executor.submitted ++ queued sh = sh.arrived)
    (started : sh.executor.started = pool.shared.executor.started)
    (beats : ∀ line, (none, line) ∈ sh.executor.output → line.answer = none)
    (invoked : Invoked sh.executor) :
    service.Serving ⟨sh, Function.update pool.control thread pc⟩ where
  served := by
    have unchanged : Pc.running ∘ Function.update pool.control thread pc =
        Pc.running ∘ pool.control := by
      rw [Function.comp_update, away, ← free]
      exact Function.update_eq_self thread (Pc.running ∘ pool.control)
    exact unchanged ▸ served
  ordered := ordered
  traced := started ▸ serving.traced
  beats := beats
  invoked := invoked
  worker other works := by
    by_cases same : other = thread
    · subst same
      simp only [Function.update_self] at works
      rcases works with running | idle
      · exact absurd away running
      · exact absurd idle busy
    · simp only [Function.update_of_ne same] at works
      exact serving.worker other works

/-- A message arrives. -/
theorem Serving.arrive (serving : service.Serving pool) {thread : Nat}
    (away : pool.control thread = .outside) (data : PluginInStream δ) :
    service.Serving
      ⟨Service.arrive pool.shared data, Function.update pool.control thread .outside⟩ := by
  have free : (pool.control thread).running = none := by rw [away]; rfl
  by_cases opens : (filter data && !pool.shared.reader.closed) = true
  · have written : Service.arrive pool.shared data = { pool.shared with
        reader := { pool.shared.reader with queue := pool.shared.reader.queue ++ [some data] }
        arrived := pool.shared.arrived ++ [data] } := by
      have still : pool.shared.reader.closed = false := by
        simpa using (Bool.and_eq_true_iff.mp opens).2
      rw [Service.arrive, if_pos opens, FilterReader.write, if_neg (by simp [still])]
    rw [written]
    refine serving.outside .outside free rfl (by simp) serving.served ?_ rfl serving.beats
      serving.invoked
    simp only [queued, List.reduceOption_append, List.reduceOption_cons_of_some,
      List.reduceOption_nil]
    rw [← List.append_assoc]
    exact congrArg (· ++ [data]) serving.ordered
  · have dropped : Service.arrive pool.shared data = pool.shared := if_neg opens
    rw [dropped]
    exact serving.outside _ free rfl (by simp) serving.served serving.ordered rfl serving.beats
      serving.invoked

/-- The filter reader is closed. -/
theorem Serving.close (serving : service.Serving pool) {thread : Nat}
    (away : pool.control thread = .outside) :
    service.Serving ⟨{ pool.shared with reader := pool.shared.reader.close },
      Function.update pool.control thread .outside⟩ := by
  have free : (pool.control thread).running = none := by rw [away]; rfl
  refine serving.outside _ free rfl (by simp) serving.served ?_ rfl serving.beats
    serving.invoked
  have same : pool.shared.reader.close.queue.reduceOption =
      pool.shared.reader.queue.reduceOption := by
    rw [FilterReader.close]
    split
    · rfl
    · rw [List.reduceOption_append]
      exact List.append_nil _
  simp only [queued, same]
  exact serving.ordered

/-- A heartbeat is written. -/
theorem Serving.beat (serving : service.Serving pool) {thread : Nat}
    (away : pool.control thread = .outside) :
    service.Serving
      ⟨{ pool.shared with executor := pool.shared.executor.put none .heartbeat },
        Function.update pool.control thread .outside⟩ := by
  have free : (pool.control thread).running = none := by rw [away]; rfl
  refine serving.outside _ free rfl (by simp) (serving.served.put_none _) serving.ordered rfl ?_
    (serving.invoked.put none .heartbeat (by simp))
  intro line listed
  rcases List.mem_append.mp listed with before | last
  · exact serving.beats line before
  · have same := List.mem_singleton.mp last
    rw [(Prod.mk.inj same).2]
    rfl

/-- A handler invokes the daemon. -/
theorem Serving.invoke (serving : service.Serving pool) {thread number : Nat}
    {rest : List (Line (Dump ω μ β) δ)} (works : pool.control thread = .executing number rest)
    {data : δ} {sh : Shared δ ω μ β} {pc : Pc (Line (Dump ω μ β) δ)}
    (stepped : Service.invoke pool.shared number rest data = some (sh, pc)) :
    service.Serving ⟨sh, Function.update pool.control thread pc⟩ := by
  rw [Service.invoke] at stepped
  split at stepped
  · exact absurd stepped (by simp)
  · rename_i request trace begun
    split at stepped
    · rename_i runs
      obtain ⟨rfl, rfl⟩ := Prod.mk.inj (Option.some.inj stepped)
      rw [← works, Function.update_eq_self]
      have running : (Pc.running ∘ pool.control) thread = some (number, rest) := by
        rw [Function.comp_apply, works]
        rfl
      obtain ⟨entry, found, joined⟩ := serving.served.owned thread number rest running
      obtain rfl : (request, trace) = entry := Option.some.inj (begun.symm.trans found)
      rw [serving.traced number _ begun] at joined
      constructor
      · exact serving.served.put_none _
      · exact serving.ordered
      · exact serving.traced
      · intro line listed
        rcases List.mem_append.mp listed with before | last
        · exact serving.beats line before
        · have same := List.mem_singleton.mp last
          rw [(Prod.mk.inj same).2]
          rfl
      · apply serving.invoked.put
        intro sessionId invoked same
        obtain ⟨rfl, -⟩ := Line.invoke.inj same
        refine ⟨number, (request, trace), begun, rfl, ?_⟩
        intro earlier listed own frame framed
        have put : earlier.2 ∈ pool.shared.executor.outputOf number :=
          List.mem_filterMap.mpr ⟨earlier, listed, by simp [own]⟩
        exact service.streams_trace number request joined.symm runs put framed
      · exact serving.worker
    · exact absurd stepped (by simp)

/-- The listener submits a request, or ends. -/
theorem Serving.listen (serving : service.Serving pool) {thread : Nat}
    (waits : pool.control thread = .listening) {sh : Shared δ ω μ β}
    {pc : Pc (Line (Dump ω μ β) δ)} (stepped : Service.listen pool.shared = some (sh, pc)) :
    service.Serving ⟨sh, Function.update pool.control thread pc⟩ := by
  have free : (pool.control thread).running = none := by rw [waits]; rfl
  have ordered := serving.ordered
  rw [Service.listen] at stepped
  split at stepped
  · split at stepped
    · obtain ⟨rfl, rfl⟩ := Prod.mk.inj (Option.some.inj stepped)
      exact serving.outside _ free rfl (by simp) serving.served ordered rfl serving.beats
        serving.invoked
    · exact absurd stepped (by simp)
  · rename_i queue waiting
    obtain ⟨rfl, rfl⟩ := Prod.mk.inj (Option.some.inj stepped)
    refine serving.outside _ free rfl (by simp) serving.served ?_ rfl serving.beats
      serving.invoked
    rw [queued, waiting] at ordered
    exact ordered
  · rename_i data queue waiting
    obtain ⟨rfl, rfl⟩ := Prod.mk.inj (Option.some.inj stepped)
    refine serving.outside _ free rfl (by simp) (serving.served.submit data) ?_ rfl serving.beats
      serving.invoked
    rw [queued, waiting, List.reduceOption_cons_of_some] at ordered
    show (pool.shared.executor.submit data).submitted ++ queue.reduceOption = pool.shared.arrived
    rw [Executor.submitted_submit, List.append_assoc]
    exact ordered

/-- A worker takes a task. -/
theorem Serving.take (serving : service.Serving pool) {thread : Nat}
    (idle : pool.control thread = .idle) {sh : Shared δ ω μ β} {pc : Pc (Line (Dump ω μ β) δ)}
    (stepped : service.take pool.shared = some (sh, pc)) :
    service.Serving ⟨sh, Function.update pool.control thread pc⟩ := by
  rw [Service.take] at stepped
  split at stepped
  · exact absurd stepped (by simp)
  · rename_i data rest first
    obtain ⟨rfl, rfl⟩ := Prod.mk.inj (Option.some.inj stepped)
    have free : (Pc.running ∘ pool.control) thread = none := by
      rw [Function.comp_apply, idle]
      rfl
    constructor
    · rw [Function.comp_update]
      exact serving.served.start free data _ rest
    · show (pool.shared.executor.start data _ rest).submitted ++ queued pool.shared = _
      rw [Executor.submitted_start first]
      exact serving.ordered
    · intro number entry found
      by_cases last : number = pool.shared.executor.started.length
      · subst last
        obtain rfl : (data, _) = entry := by simpa [Executor.start] using found
        rfl
      · have found : (pool.shared.executor.started ++ [(data, _)])[number]? = some entry := found
        have inside := (List.getElem?_eq_some_iff.mp found).1
        rw [List.length_append, List.length_singleton] at inside
        rw [List.getElem?_append_left (by omega)] at found
        exact serving.traced number entry found
    · exact serving.beats
    · exact serving.invoked.start data _ rest
    · intro other works
      by_cases same : other = thread
      · subst same
        exact serving.worker other (Or.inr idle)
      · simp only [Function.update_of_ne same] at works
        exact serving.worker other works

/-- A worker does the next thing of its task, or is done with it. -/
theorem Serving.proceed (serving : service.Serving pool) {thread number : Nat}
    {rest : List (Line (Dump ω μ β) δ)} (works : pool.control thread = .executing number rest)
    {executor : Executor (PluginInStream δ) (Line (Dump ω μ β) δ)} {pc : Pc (Line (Dump ω μ β) δ)}
    (served : Served executor (Pc.running ∘ Function.update pool.control thread pc))
    (submitted : executor.submitted = pool.shared.executor.submitted)
    (started : executor.started = pool.shared.executor.started)
    (beats : ∀ line, (none, line) ∈ executor.output → line.answer = none)
    (invoked : Invoked executor) :
    service.Serving ⟨{ pool.shared with executor }, Function.update pool.control thread pc⟩ where
  served := served
  ordered := by
    show executor.submitted ++ queued pool.shared = pool.shared.arrived
    rw [submitted]
    exact serving.ordered
  traced := by
    show ∀ number entry, executor.started[number]? = some entry → _
    rw [started]
    exact serving.traced
  beats := beats
  invoked := invoked
  worker other busy := by
    by_cases same : other = thread
    · subst same
      exact serving.worker other (Or.inl (by rw [works]; simp [Pc.running]))
    · simp only [Function.update_of_ne same] at busy
      exact serving.worker other busy

/-- Every step of a thread keeps the invariant. -/
theorem Serving.fire {next : Pool (Shared δ ω μ β) (Pc (Line (Dump ω μ β) δ))} {thread : Nat}
    {event : Event δ} (serving : service.Serving pool)
    (fired : service.machine.fire pool thread event = some next) : service.Serving next := by
  obtain ⟨sh, pc, stepped, rfl⟩ := Machine.fire_eq_some fired
  simp only [machine] at stepped
  unfold step at stepped
  split at stepped
  · rename_i data away
    obtain ⟨rfl, rfl⟩ := Prod.mk.inj (Option.some.inj stepped)
    exact serving.arrive away data
  · rename_i away
    obtain ⟨rfl, rfl⟩ := Prod.mk.inj (Option.some.inj stepped)
    exact serving.close away
  · rename_i away
    obtain ⟨rfl, rfl⟩ := Prod.mk.inj (Option.some.inj stepped)
    exact serving.beat away
  · rename_i waits
    exact serving.listen waits stepped
  · rename_i idle
    exact serving.take idle stepped
  · rename_i number action rest works
    obtain ⟨rfl, rfl⟩ := Prod.mk.inj (Option.some.inj stepped)
    have running : (Pc.running ∘ pool.control) thread = some (number, action :: rest) := by
      rw [Function.comp_apply, works]
      rfl
    obtain ⟨entry, found, joined⟩ := serving.served.owned thread number _ running
    rw [serving.traced number entry found] at joined
    have traced : action ∈ service.trace number entry.1 := by
      rw [← joined]
      exact List.mem_append_right _ List.mem_cons_self
    refine serving.proceed works ?_ rfl rfl ?_ ?_
    · rw [Function.comp_update]
      exact serving.served.put running
    · intro line listed
      rcases List.mem_append.mp listed with before | last
      · exact serving.beats line before
      · exact absurd (Prod.mk.inj (List.mem_singleton.mp last)).1 (by simp)
    · apply serving.invoked.put
      rintro sessionId data rfl
      exact absurd traced (service.uninvoked_trace number entry.1 sessionId data)
  · rename_i number rest data works
    exact serving.invoke works stepped
  · rename_i number works
    obtain ⟨rfl, rfl⟩ := Prod.mk.inj (Option.some.inj stepped)
    have running : (Pc.running ∘ pool.control) thread = some (number, []) := by
      rw [Function.comp_apply, works]
      rfl
    refine serving.proceed works ?_ rfl rfl serving.beats serving.invoked
    rw [Function.comp_update]
    exact serving.served.finish running
  · exact absurd stepped (by simp)

/-- The frames of a task that is executed to its end. -/
def frames (service : Service δ ω μ β) (number : Nat) (data : PluginInStream δ) :
    List (SessionFrame (Dump ω μ β)) :=
  written (service.entries number data)

section Session

variable {sessionId : Text} {number : Nat} {entry : PluginInStream δ × List (Line (Dump ω μ β) δ)}
  (found : pool.shared.executor.started[number]? = some entry)
  (own : entry.1.sessionId = sessionId)
  (only : ∀ (other : Nat) (entry : PluginInStream δ × List (Line (Dump ω μ β) δ)),
    pool.shared.executor.started[other]? = some entry →
    entry.1.sessionId = sessionId → other = number)

end Session

/-- Tasks that are executed at the same time have different workers. -/
theorem Serving.length_le (serving : service.Serving pool) {numbers : List Nat}
    (different : numbers.Nodup)
    (executed : ∀ number ∈ numbers, ∃ thread rest, pool.control thread = .executing number rest) :
    numbers.length ≤ service.maxWorker := by
  have chosen : ∀ number, ∃ thread, number ∈ numbers →
      ∃ rest, pool.control thread = .executing number rest := by
    intro number
    by_cases listed : number ∈ numbers
    · obtain ⟨thread, rest, executing⟩ := executed number listed
      exact ⟨thread, fun _ => ⟨rest, executing⟩⟩
    · exact ⟨0, fun present => absurd present listed⟩
  choose worker executing using chosen
  have apart : (numbers.map worker).Nodup := by
    apply List.Nodup.map_on _ different
    intro first listed second listed' same
    obtain ⟨rest, one⟩ := executing first listed
    obtain ⟨more, two⟩ := executing second listed'
    rw [same, two] at one
    exact (Pc.executing.inj one).1.symm
  have within : ∀ thread ∈ numbers.map worker, thread ∈ List.range' 2 service.maxWorker := by
    intro thread listed
    obtain ⟨number, present, rfl⟩ := List.mem_map.mp listed
    obtain ⟨rest, one⟩ := executing number present
    have inside := serving.worker (worker number) (Or.inl (by rw [one]; simp [Pc.running]))
    exact List.mem_range'_1.mpr inside
  have bounded := (apart.subperm within).length_le
  simpa using bounded

end Service

end DifyPlugin.IoServer
