import Mathlib.Data.List.Nodup
import Mathlib.Logic.Function.Iterate
import DifyPlugin.Core.Server.Base
import DifyPlugin.Library.Interleaving

/-!
# Subscribers of a request reader

Any operations on one `RequestReader`, in any order: `read`, `_process_line`, the two `close`
and the reading of the filter readers. A call of `_process_line` takes the copy of the list and
then waits for one filter after another; while a filter runs any other operation may be started
and finished, from inside the filter or beside it, so every operation has a thread of its own
here. The writes of a call are one step, as nothing in them blocks. A filter, the write of a
subscriber and the callback of a `close` may raise.
-/

namespace DifyPlugin.Server

open Interleaving

variable {δ : Type}

/-! ## One filter reader -/

/-- What a resumption of `FilterReader.read` comes to. -/
inductive Reading (δ : Type) where
  /-- It waits for an entry, or yields `None` after a round without one. -/
  | waits
  /-- It yields a message. -/
  | yields (data : PluginInStream δ)
  /-- It ends. -/
  | ends

namespace FilterReader

/-- A resumption of `FilterReader.read`: the condition of the loop, then `queue.get`. -/
def next (reader : FilterReader δ) : Reading δ × FilterReader δ :=
  if reader.goesOn then
    match reader.queue with
    | [] => (.waits, reader)
    | none :: queue => (.ends, { reader with queue := queue })
    | some data :: queue => (.yields data, { reader with queue := queue })
  else (.ends, reader)

/-- What some resumptions of `FilterReader.read` come to, one after another. -/
def readings : Nat → FilterReader δ → List (Reading δ)
  | 0, _ => []
  | count + 1, reader => reader.next.1 :: readings count reader.next.2

/-- The messages that wait in the queue. -/
def pending (reader : FilterReader δ) : List (PluginInStream δ) := reader.queue.filterMap id

end FilterReader

/-! ## Operations -/

/-- How a filter ends. -/
inductive Verdict where
  /-- The result is true. -/
  | accepts
  /-- The result is false. -/
  | rejects
  /-- It raised. -/
  | raises
  deriving DecidableEq

/-- A call of `_process_line` that has ended. -/
structure Call (δ : Type) where
  /-- The message. -/
  data : PluginInStream δ
  /-- The readers that were in the list when the call began. -/
  registered : List Nat
  /-- The readers whose filter accepted. -/
  matched : List Nat
  /-- The readers that were in the list, and open, when the call ended. -/
  stayed : Nat → Bool
  /-- The readers whose write raised. -/
  raised : Nat → Bool

/-- The call ran entirely while a reader was registered and open, its filter accepted, and its
write did not raise. -/
def Call.delivers (call : Call δ) (number : Nat) : Bool :=
  decide (number ∈ call.registered) && decide (number ∈ call.matched) && call.stayed number &&
    !call.raised number

/-- The request reader, and what the theorems look back on. -/
structure Subscribers (δ : Type) extends RequestReader δ where
  /-- How many filter readers were made; the next one has this number. -/
  created : Nat
  /-- What was read from a filter reader. -/
  taken : Nat → List (PluginInStream δ)
  /-- A `FilterReader.read` has ended. -/
  ended : Nat → Bool
  /-- The calls of `_process_line`, in the order in which they ended. -/
  calls : List (Call δ)

/-- Where a thread stands. -/
inductive Point (δ : Type) where
  /-- It may start an operation. -/
  | idle
  /-- `_process_line` with its copy of the list: the filters of `readers` are still to come, and
  the first one runs. -/
  | filtering (data : PluginInStream δ) (registered readers matched : List Nat)

/-- What a thread does. -/
inductive Operation (δ : Type) where
  /-- `RequestReader.read`. -/
  | read
  /-- `_process_line` begins. -/
  | processLine (data : PluginInStream δ)
  /-- A filter ends. -/
  | filtered (number : Nat) (verdict : Verdict)
  /-- `_process_line` writes to the matched readers; some of the writes raise. -/
  | write (raises : Nat → Bool)
  /-- `FilterReader.close`; its callback may raise before it removes the reader. -/
  | closeReader (number : Nat) (raises : Bool)
  /-- `RequestReader.close`. -/
  | close
  /-- `FilterReader.read` is resumed. -/
  | next (number : Nat)

namespace RequestReader

/-- `_process_line` writes to a matched reader, unless the write raises. -/
def writeUnless (raises : Nat → Bool) (data : PluginInStream δ) (requests : RequestReader δ)
    (number : Nat) : RequestReader δ :=
  if raises number then requests else requests.write number data

/-- The loop over the matched readers. -/
def writeMatched (raises : Nat → Bool) (data : PluginInStream δ) (matched : List Nat)
    (requests : RequestReader δ) : RequestReader δ :=
  matched.foldl (writeUnless raises data) requests

/-- `FilterReader.close` of one reader; when its callback raises the reader stays in the list. -/
def closeSubscriber (requests : RequestReader δ) (number : Nat) (raises : Bool) :
    RequestReader δ :=
  if raises then
    { requests with
      filterReader := Function.update requests.filterReader number
        (requests.filterReader number).close }
  else requests.closeReader number

/-- `RequestReader.close`: clear the list, and close the readers that were in it. -/
def close (requests : RequestReader δ) : RequestReader δ :=
  requests.readers.foldl closeReader requests.clear

end RequestReader

namespace Subscribers

/-- The end of a call of `_process_line`. -/
def write (sh : Subscribers δ) (data : PluginInStream δ) (registered matched : List Nat)
    (raises : Nat → Bool) : Subscribers δ :=
  { sh with
    toRequestReader := sh.toRequestReader.writeMatched raises data matched
    calls := sh.calls ++ [
      { data, registered, matched
        stayed := fun number =>
          decide (number ∈ sh.readers) && !(sh.filterReader number).closed
        raised := raises }] }

/-- A resumption of the reading of a filter reader. -/
def next (sh : Subscribers δ) (number : Nat) : Subscribers δ :=
  let sh' :=
    { sh with
      filterReader := Function.update sh.filterReader number (sh.filterReader number).next.2 }
  match (sh.filterReader number).next.1 with
  | .waits => sh'
  | .yields data =>
    { sh' with taken := Function.update sh.taken number (sh.taken number ++ [data]) }
  | .ends => { sh' with ended := Function.update sh.ended number true }

/-- One step of a thread. -/
def step (_ : Nat) (operation : Operation δ) (sh : Subscribers δ) (point : Point δ) :
    Option (Subscribers δ × Point δ) :=
  match point, operation with
  | .idle, .read =>
    some ({ sh with
      toRequestReader := sh.toRequestReader.read sh.created
      created := sh.created + 1 }, .idle)
  | .idle, .processLine data => some (sh, .filtering data sh.readers sh.readers [])
  | .filtering data registered (number :: readers) matched, .filtered other verdict =>
    if other = number then
      some (sh, .filtering data registered readers
        (if verdict = .accepts then matched ++ [number] else matched))
    else none
  | .filtering data registered [] matched, .write raises =>
    some (sh.write data registered matched raises, .idle)
  | .idle, .closeReader number raises =>
    if number < sh.created then
      some ({ sh with
        toRequestReader := sh.toRequestReader.closeSubscriber number raises }, .idle)
    else none
  | .idle, .close => some ({ sh with toRequestReader := sh.toRequestReader.close }, .idle)
  | .idle, .next number => if number < sh.created then some (sh.next number, .idle) else none
  | _, _ => none

/-- The threads over one request reader. -/
def machine : Machine (Subscribers δ) (Point δ) (Operation δ) := ⟨step⟩

/-- A request reader without readers. -/
def initial : Pool (Subscribers δ) (Point δ) where
  shared :=
    { readers := [], filterReader := fun _ => ⟨true, []⟩, created := 0, taken := fun _ => []
      ended := fun _ => false, calls := [] }
  control := fun _ => .idle

/-- The messages that a filter reader is promised. -/
def expected (sh : Subscribers δ) (number : Nat) : List (PluginInStream δ) :=
  (sh.calls.filter (·.delivers number)).map Call.data

end Subscribers

/-! ## Facts about one filter reader -/

namespace FilterReader

variable {reader : FilterReader δ}

/-- The queue has the messages that wait. Once the reader is closed the end is behind them, until
it is taken as well. -/
structure WellFormed (reader : FilterReader δ) : Prop where
  /-- No end while the reader is open. -/
  opened : reader.closed = false → reader.queue = reader.pending.map some
  /-- One end, which is last. -/
  closed : reader.closed = true →
    reader.queue = reader.pending.map some ++ [none] ∨ reader.queue = []

/-- A write appends the message, unless the reader is closed. -/
theorem pending_write (reader : FilterReader δ) (data : PluginInStream δ) :
    (reader.write data).pending = reader.pending ++ if reader.closed then [] else [data] := by
  cases closed : reader.closed with
  | true => simp [write, closed]
  | false => simp [write, closed, pending]

/-- A write does not close the reader. -/
theorem closed_write (reader : FilterReader δ) (data : PluginInStream δ) :
    (reader.write data).closed = reader.closed := by
  cases closed : reader.closed with
  | true => rw [write, if_pos closed, closed]
  | false => simp [write, closed]

/-- A well-formed reader stays so when it is written to. -/
theorem WellFormed.write (formed : reader.WellFormed) (data : PluginInStream δ) :
    (reader.write data).WellFormed := by
  cases closed : reader.closed with
  | true =>
    rw [write_of_closed closed]
    exact formed
  | false =>
    have queue := formed.opened closed
    constructor
    · intro _
      rw [pending_write, closed]
      simp [FilterReader.write, closed, queue]
    · intro still
      rw [closed_write, closed] at still
      exact absurd still Bool.false_ne_true

/-- Closing keeps the messages that wait. -/
theorem pending_close (reader : FilterReader δ) : reader.close.pending = reader.pending := by
  cases closed : reader.closed with
  | true => rw [close_of_closed closed]
  | false => simp [close, closed, pending]

/-- A reader is closed after it was closed. -/
theorem closed_close (reader : FilterReader δ) : reader.close.closed = true := by
  cases closed : reader.closed with
  | true => rw [close_of_closed closed, closed]
  | false => simp [close, closed]

/-- A well-formed reader stays so when it is closed. -/
theorem WellFormed.close (formed : reader.WellFormed) : reader.close.WellFormed := by
  cases closed : reader.closed with
  | true =>
    rw [close_of_closed closed]
    exact formed
  | false =>
    have queue := formed.opened closed
    constructor
    · intro still
      rw [closed_close] at still
      exact absurd still.symm Bool.false_ne_true
    · intro _
      left
      rw [pending_close]
      simp [FilterReader.close, closed, queue]

/-- A resumption waits at an open reader without messages, yields the first message, or ends at a
closed reader without messages. -/
theorem WellFormed.next_cases (formed : reader.WellFormed) :
    (reader.closed = false ∧ reader.pending = [] ∧ reader.next = (.waits, reader)) ∨
    (∃ data, reader.pending = data :: reader.next.2.pending ∧ reader.next.1 = .yields data ∧
      reader.next.2.closed = reader.closed ∧ reader.next.2.WellFormed) ∨
    (reader.closed = true ∧ reader.pending = [] ∧ reader.next = (.ends, ⟨true, []⟩)) := by
  obtain ⟨closed, queue⟩ := reader
  cases closed with
  | false =>
    have messages : queue = (pending ⟨false, queue⟩).map some := formed.opened rfl
    cases waiting : pending ⟨false, queue⟩ with
    | nil =>
      left
      rw [waiting] at messages
      subst messages
      exact ⟨rfl, rfl, rfl⟩
    | cons data rest =>
      right
      left
      rw [waiting] at messages
      subst messages
      have left : pending ⟨false, rest.map some⟩ = rest := by
        simp [pending]
      refine ⟨data, ?_, rfl, rfl, ?_, nofun⟩
      · exact congrArg (data :: ·) left.symm
      · intro _
        exact congrArg (List.map some) left.symm
  | true =>
    rcases formed.closed rfl with messages | empty
    · cases waiting : pending ⟨true, queue⟩ with
      | nil =>
        right
        right
        rw [waiting] at messages
        exact ⟨rfl, rfl, by simp_all [next, goesOn]⟩
      | cons data rest =>
        right
        left
        rw [waiting] at messages
        have here : queue = some data :: (rest.map some ++ [none]) := messages
        subst here
        have left : pending ⟨true, rest.map some ++ [none]⟩ = rest := by
          simp [pending]
        refine ⟨data, ?_, rfl, rfl, nofun, ?_⟩
        · exact congrArg (data :: ·) left.symm
        · intro _
          exact Or.inl (congrArg (List.map some · ++ [none]) left.symm)
    · right
      right
      have here : queue = [] := empty
      subst here
      exact ⟨rfl, rfl, rfl⟩

/-- A resumption does not close the reader. -/
theorem closed_next (reader : FilterReader δ) : reader.next.2.closed = reader.closed := by
  rw [next]
  split
  · split <;> rfl
  · rfl

/-- What comes when no message waits. -/
def idleReading (reader : FilterReader δ) : Reading δ := if reader.closed then .ends else .waits

/-- Without messages there are only ends at a closed reader, and only rounds without an entry at
an open one. -/
theorem WellFormed.readings_empty (formed : reader.WellFormed) (empty : reader.pending = [])
    (count : Nat) : reader.readings count = List.replicate count reader.idleReading := by
  induction count generalizing reader with
  | zero => rfl
  | succ count ih =>
    rw [List.replicate_succ, readings]
    rcases formed.next_cases with ⟨opened, _, waits⟩ | ⟨data, some, _⟩ | ⟨closed, _, ended⟩
    · rw [waits, ih formed empty, idleReading, opened]
      rfl
    · exact absurd (empty.symm.trans some) nofun
    · have later : (⟨true, []⟩ : FilterReader δ).WellFormed := ⟨nofun, fun _ => Or.inr rfl⟩
      rw [ended, ih later rfl, idleReading, idleReading, closed]
      rfl

/-- The reading yields the messages that wait; then it ends at a closed reader, and waits at an
open one. -/
theorem WellFormed.readings_pending (formed : reader.WellFormed) (count : Nat) :
    reader.readings (reader.pending.length + count) =
      reader.pending.map .yields ++ List.replicate count reader.idleReading := by
  induction waiting : reader.pending generalizing reader with
  | nil =>
    rw [List.length_nil, Nat.zero_add]
    exact formed.readings_empty waiting count
  | cons data rest ih =>
    rcases formed.next_cases with ⟨_, none, _⟩ | ⟨first, here, yielded, kept, later⟩ | ⟨_, none, _⟩
    · exact absurd (waiting.symm.trans none) nofun
    · rw [waiting] at here
      have same : data = first := (List.cons.inj here).1
      have others : reader.next.2.pending = rest := (List.cons.inj here).2.symm
      have idle : reader.next.2.idleReading = reader.idleReading := by
        rw [idleReading, kept, idleReading]
      have following := ih later others
      have length : (data :: rest).length + count = rest.length + count + 1 := by
        simp only [List.length_cons]
        omega
      rw [length, readings, yielded, following, idle, same]
      rfl
    · exact absurd (waiting.symm.trans none) nofun

end FilterReader

/-! ## Facts about the operations -/

namespace RequestReader

/-- The writes leave the list alone. -/
theorem writeMatched_readers (raises : Nat → Bool) (data : PluginInStream δ) (matched : List Nat)
    (requests : RequestReader δ) :
    (requests.writeMatched raises data matched).readers = requests.readers := by
  induction matched generalizing requests with
  | nil => rfl
  | cons number rest ih =>
    have first : (requests.writeUnless raises data number).readers = requests.readers := by
      rw [writeUnless]
      split <;> rfl
    exact (ih (requests.writeUnless raises data number)).trans first

/-- A matched reader is written to once for each time it is matched, unless its write raises. -/
theorem writeMatched_filterReader (raises : Nat → Bool) (data : PluginInStream δ)
    (matched : List Nat) (requests : RequestReader δ) (number : Nat) :
    (requests.writeMatched raises data matched).filterReader number =
      (fun reader => reader.write data)^[if raises number then 0 else matched.count number]
        (requests.filterReader number) := by
  induction matched generalizing requests with
  | nil =>
    rw [List.count_nil, ite_self]
    rfl
  | cons first rest ih =>
    have later := ih (requests.writeUnless raises data first)
    rw [writeMatched, List.foldl_cons]
    refine later.trans ?_
    by_cases same : first = number
    · subst same
      cases raised : raises first with
      | true => simp [writeUnless, raised]
      | false => simp [writeUnless, raised, RequestReader.write]
    · have elsewhere : (requests.writeUnless raises data first).filterReader number =
          requests.filterReader number := by
        rw [writeUnless]
        split
        · rfl
        · exact Function.update_of_ne (Ne.symm same) _ _
      rw [elsewhere, List.count_cons_of_ne same]

/-- A closed reader is not written to. -/
theorem writeMatched_of_closed {requests : RequestReader δ} {number : Nat}
    (closed : (requests.filterReader number).closed = true) (raises : Nat → Bool)
    (data : PluginInStream δ) (matched : List Nat) :
    (requests.writeMatched raises data matched).filterReader number =
      requests.filterReader number := by
  rw [writeMatched_filterReader]
  exact Function.iterate_fixed (FilterReader.write_of_closed closed data) _

/-- The writes close no reader. -/
theorem writeMatched_closed (raises : Nat → Bool) (data : PluginInStream δ) (matched : List Nat)
    (requests : RequestReader δ) (number : Nat) :
    ((requests.writeMatched raises data matched).filterReader number).closed =
      (requests.filterReader number).closed := by
  rw [writeMatched_filterReader]
  generalize (if raises number then 0 else matched.count number) = count
  induction count with
  | zero => rfl
  | succ count ih =>
    rw [Function.iterate_succ_apply', FilterReader.closed_write]
    exact ih

/-- The readers that are matched once are written to. -/
theorem writeMatched_of_nodup {matched : List Nat} (once : matched.Nodup) (raises : Nat → Bool)
    (data : PluginInStream δ) (requests : RequestReader δ) (number : Nat) :
    (requests.writeMatched raises data matched).filterReader number =
      if number ∈ matched ∧ raises number = false then
        (requests.filterReader number).write data
      else requests.filterReader number := by
  rw [writeMatched_filterReader]
  cases raised : raises number with
  | true => simp
  | false =>
    by_cases listed : number ∈ matched
    · simp [listed, List.count_eq_one_of_mem once listed]
    · simp [listed, List.count_eq_zero_of_not_mem listed]

/-- `FilterReader.close` of one reader. -/
theorem closeReader_filterReader (requests : RequestReader δ) (closed number : Nat) :
    (requests.closeReader closed).filterReader number =
      if number = closed then (requests.filterReader number).close
      else requests.filterReader number := by
  rw [closeReader]
  split
  · rename_i already
    split
    · rename_i same
      rw [same, FilterReader.close_of_closed already]
    · rfl
  · by_cases same : number = closed
    · subst same
      simp
    · simp [same]

/-- `FilterReader.close` closes the one reader, also when its callback raises. -/
theorem closeSubscriber_filterReader (requests : RequestReader δ) (closed : Nat) (raises : Bool)
    (number : Nat) :
    (requests.closeSubscriber closed raises).filterReader number =
      if number = closed then (requests.filterReader number).close
      else requests.filterReader number := by
  rw [closeSubscriber]
  split
  · by_cases same : number = closed
    · subst same
      simp
    · simp [same]
  · exact closeReader_filterReader requests closed number

/-- `FilterReader.close` takes no reader into the list. -/
theorem closeSubscriber_sublist (requests : RequestReader δ) (closed : Nat) (raises : Bool) :
    (requests.closeSubscriber closed raises).readers.Sublist requests.readers := by
  rw [closeSubscriber]
  split
  · exact List.Sublist.refl _
  · rw [closeReader]
    split
    · exact List.Sublist.refl _
    · exact List.erase_sublist

/-- Closing readers takes none into the list. -/
theorem foldl_closeReader_readers (closed : List Nat) (requests : RequestReader δ) :
    (closed.foldl closeReader requests).readers ⊆ requests.readers := by
  induction closed generalizing requests with
  | nil => exact List.Subset.refl _
  | cons first rest ih =>
    have one : (requests.closeReader first).readers ⊆ requests.readers := by
      rw [closeReader]
      split
      · exact List.Subset.refl _
      · exact List.erase_subset
    exact List.Subset.trans (ih (requests.closeReader first)) one

/-- Closing readers one after another closes all of them, and no other one. -/
theorem foldl_closeReader_filterReader (closed : List Nat) (requests : RequestReader δ)
    (number : Nat) :
    (closed.foldl closeReader requests).filterReader number =
      if number ∈ closed then (requests.filterReader number).close
      else requests.filterReader number := by
  induction closed generalizing requests with
  | nil => rfl
  | cons first rest ih =>
    rw [List.foldl_cons, ih, closeReader_filterReader]
    by_cases same : number = first
    · subst same
      have again := FilterReader.close_of_closed
        (FilterReader.closed_close (requests.filterReader number))
      simp [again]
    · simp [same]

/-- `RequestReader.close` leaves no reader in the list. -/
theorem close_readers (requests : RequestReader δ) : requests.close.readers = [] :=
  List.subset_nil.mp (foldl_closeReader_readers requests.readers requests.clear)

/-- `RequestReader.close` closes the readers of the list. -/
theorem close_filterReader (requests : RequestReader δ) (number : Nat) :
    requests.close.filterReader number =
      if number ∈ requests.readers then (requests.filterReader number).close
      else requests.filterReader number :=
  foldl_closeReader_filterReader requests.readers requests.clear number

end RequestReader

/-! ## The invariant -/

namespace Subscribers

/-- What holds between the steps. -/
structure Invariant (sh : Subscribers δ) : Prop where
  /-- No reader is twice in the list. -/
  nodup : sh.readers.Nodup
  /-- Only readers that were made are in the list. -/
  known : ∀ number ∈ sh.readers, number < sh.created
  /-- An open reader is in the list. -/
  listed : ∀ number, number < sh.created → (sh.filterReader number).closed = false →
    number ∈ sh.readers
  /-- The queues are well formed. -/
  formed : ∀ number, (sh.filterReader number).WellFormed
  /-- What was read and what waits is what a reader is promised. -/
  ordered : ∀ number,
    sh.taken number ++ (sh.filterReader number).pending = sh.expected number
  /-- Reading has ended at closed readers without messages only. -/
  finished : ∀ number, sh.ended number = true →
    (sh.filterReader number).closed = true ∧ (sh.filterReader number).pending = []
  /-- Nothing has happened to the readers that were not made yet. -/
  unused : ∀ number, sh.created ≤ number →
    sh.filterReader number = ⟨true, []⟩ ∧ sh.ended number = false

variable {sh : Subscribers δ}

/-- An open reader was made. -/
theorem Invariant.made (invariant : Invariant sh) {number : Nat}
    (flag : (sh.filterReader number).closed = false) : number < sh.created := by
  by_contra beyond
  rw [(invariant.unused number (Nat.le_of_not_lt beyond)).1] at flag
  exact absurd flag.symm Bool.false_ne_true

/-- Readers that are written to were copied from the list, each once. -/
def Sound (sh : Subscribers δ) : Point δ → Prop
  | .idle => True
  | .filtering _ registered readers matched =>
    registered.Nodup ∧ (∀ number ∈ registered, number < sh.created) ∧
      (matched ++ readers).Sublist registered

/-- A new reader keeps the invariant. -/
theorem Invariant.read (invariant : Invariant sh) :
    Invariant { sh with
      toRequestReader := sh.toRequestReader.read sh.created
      created := sh.created + 1 } := by
  have absent : sh.created ∉ sh.readers := by
    intro listed
    exact absurd (invariant.known sh.created listed) (Nat.lt_irrefl sh.created)
  have unused := invariant.unused sh.created le_rfl
  have others (number : Nat) (other : number ≠ sh.created) :
      (sh.toRequestReader.read sh.created).filterReader number = sh.filterReader number :=
    Function.update_of_ne other _ _
  have fresh : (sh.toRequestReader.read sh.created).filterReader sh.created = ⟨false, []⟩ :=
    Function.update_self _ _ _
  constructor
  · exact List.nodup_append.mpr ⟨invariant.nodup, List.nodup_singleton sh.created, by
      intro number listed last same rfl
      rw [List.mem_singleton.mp same] at listed
      exact absent listed⟩
  · intro number listed
    rcases List.mem_append.mp listed with before | last
    · exact Nat.lt_succ_of_lt (invariant.known number before)
    · rw [List.mem_singleton.mp last]
      exact Nat.lt_succ_self sh.created
  · intro number made opened
    by_cases same : number = sh.created
    · subst same
      exact List.mem_append_right _ (List.mem_singleton_self _)
    · have before : number < sh.created := by
        have bound : number < sh.created + 1 := made
        omega
      have still : (sh.filterReader number).closed = false := by
        rw [← others number same]
        exact opened
      exact List.mem_append_left _ (invariant.listed number before still)
  · intro number
    by_cases same : number = sh.created
    · subst same
      rw [fresh]
      exact ⟨fun _ => rfl, nofun⟩
    · rw [others number same]
      exact invariant.formed number
  · intro number
    have before := invariant.ordered number
    by_cases same : number = sh.created
    · subst same
      rw [fresh]
      rw [unused.1] at before
      exact before
    · rw [others number same]
      exact before
  · intro number ended
    by_cases same : number = sh.created
    · subst same
      exact absurd (unused.2.symm.trans ended) Bool.false_ne_true
    · rw [others number same]
      exact invariant.finished number ended
  · intro number later
    have beyond : sh.created + 1 ≤ number := later
    rw [others number (by omega)]
    exact invariant.unused number (by omega)

/-- Closing readers, and removing them from the list, keeps the invariant. -/
theorem Invariant.closing (invariant : Invariant sh) (requests : RequestReader δ)
    (readers : requests.readers.Sublist sh.readers)
    (closes : ∀ number, requests.filterReader number = sh.filterReader number ∨
      requests.filterReader number = (sh.filterReader number).close)
    (kept : ∀ number ∈ sh.readers, (requests.filterReader number).closed = false →
      number ∈ requests.readers) :
    Invariant { sh with toRequestReader := requests } := by
  have pending (number : Nat) :
      (requests.filterReader number).pending = (sh.filterReader number).pending := by
    rcases closes number with same | closed
    · rw [same]
    · rw [closed, FilterReader.pending_close]
  have closed (number : Nat) (before : (sh.filterReader number).closed = true) :
      requests.filterReader number = sh.filterReader number := by
    rcases closes number with same | closed
    · exact same
    · exact closed.trans (FilterReader.close_of_closed before)
  constructor
  · exact readers.nodup invariant.nodup
  · intro number listed
    exact invariant.known number (readers.subset listed)
  · intro number made opened
    cases before : (sh.filterReader number).closed with
    | false => exact kept number (invariant.listed number made before) opened
    | true =>
      have same := closed number before
      exact absurd (opened.symm.trans (same ▸ before)) Bool.false_ne_true
  · intro number
    rcases closes number with same | closed
    · exact same ▸ invariant.formed number
    · exact closed ▸ (invariant.formed number).close
  · intro number
    rw [pending number]
    exact invariant.ordered number
  · intro number ended
    have before := invariant.finished number ended
    rw [closed number before.1]
    exact before
  · intro number later
    have before := invariant.unused number later
    have flag : (sh.filterReader number).closed = true := by
      rw [before.1]
    rw [closed number flag]
    exact before

/-- A `FilterReader.close` keeps the invariant. -/
theorem Invariant.closeReader (invariant : Invariant sh) (closed : Nat) (raises : Bool) :
    Invariant { sh with
      toRequestReader := sh.toRequestReader.closeSubscriber closed raises } := by
  have each := sh.toRequestReader.closeSubscriber_filterReader closed raises
  apply invariant.closing (sh.toRequestReader.closeSubscriber closed raises)
  · exact sh.toRequestReader.closeSubscriber_sublist closed raises
  · intro number
    rw [each number]
    split
    · exact Or.inr rfl
    · exact Or.inl rfl
  · intro number listed opened
    have other : number ≠ closed := by
      rintro rfl
      rw [each number, if_pos rfl, FilterReader.closed_close] at opened
      exact absurd opened.symm Bool.false_ne_true
    rw [RequestReader.closeSubscriber]
    split
    · exact listed
    · rw [RequestReader.closeReader]
      split
      · exact listed
      · exact (List.mem_erase_of_ne other).mpr listed

/-- `RequestReader.close` keeps the invariant. -/
theorem Invariant.close (invariant : Invariant sh) :
    Invariant { sh with toRequestReader := sh.toRequestReader.close } := by
  have each := sh.toRequestReader.close_filterReader
  apply invariant.closing (sh.toRequestReader.close)
  · rw [RequestReader.close_readers]
    exact List.nil_sublist _
  · intro number
    rw [each number]
    split
    · exact Or.inr rfl
    · exact Or.inl rfl
  · intro number listed opened
    rw [each number, if_pos listed, FilterReader.closed_close] at opened
    exact absurd opened.symm Bool.false_ne_true

/-- What a call that ends adds to what a reader is promised. -/
theorem expected_write (data : PluginInStream δ) (registered matched : List Nat)
    (raises : Nat → Bool) (number : Nat) :
    (sh.write data registered matched raises).expected number =
      sh.expected number ++
        if number ∈ registered ∧ number ∈ matched ∧ number ∈ sh.readers ∧
          (sh.filterReader number).closed = false ∧ raises number = false
        then [data] else [] := by
  simp only [expected, write, List.filter_append, List.map_append, List.filter_cons,
    List.filter_nil, Call.delivers]
  congr 1
  by_cases delivered : number ∈ registered ∧ number ∈ matched ∧ number ∈ sh.readers ∧
      (sh.filterReader number).closed = false ∧ raises number = false
  · obtain ⟨first, second, third, fourth, fifth⟩ := delivered
    simp [first, second, third, fourth, fifth]
  · rw [if_neg delivered, if_neg]
    · rfl
    · simpa [and_assoc] using delivered

/-- The writes of a call keep the invariant. -/
theorem Invariant.write (invariant : Invariant sh) {data : PluginInStream δ}
    {registered matched : List Nat} (sound : sh.Sound (.filtering data registered [] matched))
    (raises : Nat → Bool) : Invariant (sh.write data registered matched raises) := by
  obtain ⟨nodup, known, sublist⟩ := sound
  rw [List.append_nil] at sublist
  have readers : (sh.write data registered matched raises).readers = sh.readers :=
    RequestReader.writeMatched_readers raises data matched sh.toRequestReader
  have each (number : Nat) :
      (sh.write data registered matched raises).filterReader number =
        if number ∈ matched ∧ raises number = false then (sh.filterReader number).write data
        else sh.filterReader number :=
    RequestReader.writeMatched_of_nodup (sublist.nodup nodup) raises data sh.toRequestReader number
  have closed (number : Nat) :
      ((sh.write data registered matched raises).filterReader number).closed =
        (sh.filterReader number).closed :=
    RequestReader.writeMatched_closed raises data matched sh.toRequestReader number
  have unchanged (number : Nat) (before : (sh.filterReader number).closed = true) :
      (sh.write data registered matched raises).filterReader number = sh.filterReader number :=
    RequestReader.writeMatched_of_closed before raises data matched
  constructor
  · rw [readers]
    exact invariant.nodup
  · rw [readers]
    exact invariant.known
  · intro number made opened
    rw [closed number] at opened
    rw [readers]
    exact invariant.listed number made opened
  · intro number
    rw [each number]
    split
    · exact (invariant.formed number).write data
    · exact invariant.formed number
  · intro number
    have before := invariant.ordered number
    rw [expected_write, ← before, List.append_assoc]
    show sh.taken number ++ _ = _
    congr 1
    rw [each number]
    by_cases written : number ∈ matched ∧ raises number = false
    · have made := known number (sublist.subset written.1)
      have open_listed := invariant.listed number made
      rw [if_pos written, FilterReader.pending_write]
      congr 1
      cases flag : (sh.filterReader number).closed with
      | true => simp
      | false =>
        simp [sublist.subset written.1, written.1, written.2, open_listed flag]
    · rw [if_neg written, if_neg, List.append_nil]
      intro delivered
      exact written ⟨delivered.2.1, delivered.2.2.2.2⟩
  · intro number ended
    have before := invariant.finished number ended
    rw [unchanged number before.1]
    exact before
  · intro number later
    have before := invariant.unused number later
    have flag : (sh.filterReader number).closed = true := by
      rw [before.1]
    rw [unchanged number flag]
    exact before

/-- A resumption of the reading, with all that it may change. -/
theorem next_eq (sh : Subscribers δ) (number : Nat) :
    ∃ taken ended, sh.next number = { sh with
        filterReader := Function.update sh.filterReader number (sh.filterReader number).next.2
        taken := Function.update sh.taken number taken
        ended := Function.update sh.ended number ended } ∧
      match (sh.filterReader number).next.1 with
      | .waits => taken = sh.taken number ∧ ended = sh.ended number
      | .yields data => taken = sh.taken number ++ [data] ∧ ended = sh.ended number
      | .ends => taken = sh.taken number ∧ ended = true := by
  rw [next]
  cases (sh.filterReader number).next.1 with
  | waits =>
    refine ⟨sh.taken number, sh.ended number, ?_, rfl, rfl⟩
    rw [Function.update_eq_self, Function.update_eq_self]
  | yields data =>
    refine ⟨sh.taken number ++ [data], sh.ended number, ?_, rfl, rfl⟩
    rw [Function.update_eq_self]
  | ends =>
    refine ⟨sh.taken number, true, ?_, rfl, rfl⟩
    rw [Function.update_eq_self]

/-- A resumption of the reading keeps the invariant. -/
theorem Invariant.next (invariant : Invariant sh) {read : Nat} (made : read < sh.created) :
    Invariant (sh.next read) := by
  obtain ⟨taken, ended, changed, reading⟩ := sh.next_eq read
  -- Only the reader that is read changes, and it stays open or closed.
  have after : (sh.filterReader read).next.2.WellFormed ∧
      (sh.filterReader read).next.2.closed = (sh.filterReader read).closed ∧
      taken ++ (sh.filterReader read).next.2.pending =
        sh.taken read ++ (sh.filterReader read).pending ∧
      (ended = true → (sh.filterReader read).closed = true ∧
        (sh.filterReader read).next.2.pending = []) := by
    have before := invariant.finished read
    rcases (invariant.formed read).next_cases with
      ⟨opened, empty, next⟩ | ⟨data, here, next, kept, later⟩ | ⟨closed, empty, next⟩
    · rw [next] at reading ⊢
      obtain ⟨rfl, rfl⟩ := reading
      exact ⟨invariant.formed read, rfl, rfl, before⟩
    · rw [next] at reading
      obtain ⟨rfl, rfl⟩ := reading
      refine ⟨later, kept, ?_, ?_⟩
      · rw [here, List.append_assoc, List.singleton_append]
      · intro ended
        exact absurd (here.symm.trans (before ended).2) nofun
    · rw [next] at reading ⊢
      obtain ⟨rfl, rfl⟩ := reading
      refine ⟨⟨nofun, fun _ => Or.inr rfl⟩, closed.symm, ?_, fun _ => ⟨closed, rfl⟩⟩
      rw [empty]
      rfl
  obtain ⟨formed, closed, ordered, finished⟩ := after
  rw [changed]
  constructor
  · exact invariant.nodup
  · exact invariant.known
  · intro number made opened
    by_cases same : number = read
    · subst same
      simp only [Function.update_self] at opened
      exact invariant.listed number made (closed.symm.trans opened)
    · simp only [Function.update_of_ne same] at opened
      exact invariant.listed number made opened
  · intro number
    by_cases same : number = read
    · subst same
      simpa only [Function.update_self] using formed
    · simpa only [Function.update_of_ne same] using invariant.formed number
  · intro number
    by_cases same : number = read
    · subst same
      simp only [Function.update_self]
      exact ordered.trans (invariant.ordered number)
    · simp only [Function.update_of_ne same]
      exact invariant.ordered number
  · intro number
    by_cases same : number = read
    · subst same
      simp only [Function.update_self]
      intro done
      exact ⟨closed.trans (finished done).1, (finished done).2⟩
    · simp only [Function.update_of_ne same]
      exact invariant.finished number
  · intro number later
    have other : number ≠ read := by
      have beyond : sh.created ≤ number := later
      omega
    simp only [Function.update_of_ne other]
    exact invariant.unused number later

/-! ## Steps and runs -/

/-- The steps, one constructor for each operation. -/
inductive Step (sh : Subscribers δ) :
    Operation δ → Point δ → Subscribers δ → Point δ → Prop where
  /-- `RequestReader.read`. -/
  | read : Step sh .read .idle
      { sh with toRequestReader := sh.toRequestReader.read sh.created, created := sh.created + 1 }
      .idle
  /-- `_process_line` begins. -/
  | processLine (data : PluginInStream δ) : Step sh (.processLine data) .idle sh
      (.filtering data sh.readers sh.readers [])
  /-- A filter ends. -/
  | filtered (data : PluginInStream δ) (registered readers matched : List Nat) (number : Nat)
      (verdict : Verdict) : Step sh (.filtered number verdict)
      (.filtering data registered (number :: readers) matched) sh
      (.filtering data registered readers
        (if verdict = .accepts then matched ++ [number] else matched))
  /-- `_process_line` writes. -/
  | write (data : PluginInStream δ) (registered matched : List Nat) (raises : Nat → Bool) :
      Step sh (.write raises) (.filtering data registered [] matched)
        (sh.write data registered matched raises) .idle
  /-- `FilterReader.close`. -/
  | closeReader (number : Nat) (raises : Bool) (made : number < sh.created) :
      Step sh (.closeReader number raises) .idle
        { sh with toRequestReader := sh.toRequestReader.closeSubscriber number raises } .idle
  /-- `RequestReader.close`. -/
  | close : Step sh .close .idle { sh with toRequestReader := sh.toRequestReader.close } .idle
  /-- `FilterReader.read` is resumed. -/
  | next (number : Nat) (made : number < sh.created) :
      Step sh (.next number) .idle (sh.next number) .idle

/-- A thread steps as the relation says. -/
theorem Step.of_step (thread : Nat) {operation : Operation δ} {point next : Point δ}
    {sh' : Subscribers δ} (stepped : step thread operation sh point = some (sh', next)) :
    Step sh operation point sh' next := by
  unfold step at stepped
  split at stepped
  · obtain ⟨rfl, rfl⟩ := stepped
    exact .read
  · obtain ⟨rfl, rfl⟩ := stepped
    exact .processLine _
  · split at stepped
    · rename_i same
      obtain ⟨rfl, rfl⟩ := stepped
      subst same
      exact .filtered _ _ _ _ _ _
    · exact absurd stepped nofun
  · obtain ⟨rfl, rfl⟩ := stepped
    exact .write _ _ _ _
  · split at stepped
    · rename_i made
      obtain ⟨rfl, rfl⟩ := stepped
      exact .closeReader _ _ made
    · exact absurd stepped nofun
  · obtain ⟨rfl, rfl⟩ := stepped
    exact .close
  · split at stepped
    · rename_i made
      obtain ⟨rfl, rfl⟩ := stepped
      exact .next _ made
    · exact absurd stepped nofun
  · exact absurd stepped nofun

variable {operation : Operation δ} {point point' : Point δ} {sh' : Subscribers δ}

/-- A step keeps the invariant. -/
theorem Step.invariant (stepped : Step sh operation point sh' point') (before : Invariant sh)
    (sound : sh.Sound point) : Invariant sh' := by
  cases stepped with
  | read => exact before.read
  | processLine data => exact before
  | filtered data registered readers matched number verdict => exact before
  | write data registered matched raises => exact before.write sound raises
  | closeReader number raises made => exact before.closeReader number raises
  | close => exact before.close
  | next number made => exact before.next made

/-- A step makes at most one reader. -/
theorem Step.created_le (stepped : Step sh operation point sh' point') :
    sh.created ≤ sh'.created := by
  cases stepped with
  | read => exact Nat.le_succ sh.created
  | next number made =>
    obtain ⟨taken, ended, changed, _⟩ := sh.next_eq number
    rw [changed]
  | _ => exact le_rfl

/-- A step establishes what its thread knows. -/
theorem Step.sound (stepped : Step sh operation point sh' point') (before : Invariant sh)
    (sound : sh.Sound point) : sh'.Sound point' := by
  cases stepped with
  | processLine data => exact ⟨before.nodup, before.known, List.Sublist.refl sh.readers⟩
  | filtered data registered readers matched number verdict =>
    obtain ⟨nodup, known, sublist⟩ := sound
    refine ⟨nodup, known, ?_⟩
    split
    · rwa [List.append_assoc, List.singleton_append]
    · exact (List.Sublist.append_left (List.sublist_cons_self number readers) matched).trans
        sublist
  | _ => trivial

/-- The invariant, and what each thread knows. -/
def assertions : Assertions (Subscribers δ) (Point δ) :=
  ⟨Invariant, fun _ sh point => sh.Sound point⟩

/-- Nothing has happened in the beginning. -/
theorem initial_holds : assertions.Holds (initial : Pool (Subscribers δ) (Point δ)) := by
  constructor
  · constructor
    · exact List.nodup_nil
    · exact nofun
    · exact nofun
    · exact fun number => ⟨nofun, fun _ => Or.inr rfl⟩
    · exact fun number => rfl
    · exact nofun
    · exact fun number _ => ⟨rfl, rfl⟩
  · exact fun thread => trivial

/-- The assertions are kept by every run. -/
theorem run_holds {schedule : List (Nat × Operation δ)}
    {pool later : Pool (Subscribers δ) (Point δ)} (holds : assertions.Holds pool)
    (ran : machine.run pool schedule = some later) : assertions.Holds later := by
  apply Assertions.run_kept ?_ ?_ holds ran
  · intro pool thread operation sh' point holds stepped
    have step := Step.of_step thread stepped
    have sound := holds.2 thread
    exact ⟨step.invariant holds.1 sound, step.sound holds.1 sound⟩
  · intro pool thread operation sh' point holds stepped other _
    have more := (Step.of_step thread stepped).created_le
    have sound := holds.2 other
    cases here : pool.control other with
    | idle => trivial
    | filtering data registered readers matched =>
      rw [here] at sound
      exact ⟨sound.1, fun number listed => lt_of_lt_of_le (sound.2.1 number listed) more,
        sound.2.2⟩

/-! ## After a close -/

/-- A closed reader, and what it is promised. -/
structure Closed (number : Nat) (promised : List (PluginInStream δ)) (sh : Subscribers δ) :
    Prop where
  /-- The reader was made. -/
  made : number < sh.created
  /-- It is closed. -/
  closed : (sh.filterReader number).closed = true
  /-- Its messages. -/
  expected : sh.expected number = promised

/-- A closed reader stays closed, and nothing more is promised to it. -/
theorem Step.closed (stepped : Step sh operation point sh' point') {number : Nat}
    {promised : List (PluginInStream δ)} (before : Closed number promised sh) :
    Closed number promised sh' := by
  have made := lt_of_lt_of_le before.made stepped.created_le
  have closed := before.closed
  refine ⟨made, ?_, ?_⟩
  · cases stepped with
    | read =>
      have other : number ≠ sh.created := Nat.ne_of_lt before.made
      have same : (sh.toRequestReader.read sh.created).filterReader number =
          sh.filterReader number := Function.update_of_ne other _ _
      exact (congrArg FilterReader.closed same).trans closed
    | processLine data => exact closed
    | filtered data registered readers matched other verdict => exact closed
    | write data registered matched raises =>
      exact (RequestReader.writeMatched_closed raises data matched sh.toRequestReader
        number).trans closed
    | closeReader other raises made =>
      have each := sh.toRequestReader.closeSubscriber_filterReader other raises number
      rw [FilterReader.close_of_closed closed, ite_self] at each
      exact (congrArg FilterReader.closed each).trans closed
    | close =>
      have each := sh.toRequestReader.close_filterReader number
      rw [FilterReader.close_of_closed closed, ite_self] at each
      exact (congrArg FilterReader.closed each).trans closed
    | next other made =>
      obtain ⟨taken, ended, changed, _⟩ := sh.next_eq other
      rw [changed]
      by_cases same : number = other
      · subst same
        simp only [Function.update_self]
        exact (FilterReader.closed_next _).trans closed
      · simp only [Function.update_of_ne same]
        exact closed
  · cases stepped with
    | write data registered matched raises =>
      rw [expected_write, if_neg, List.append_nil, before.expected]
      intro delivered
      exact absurd (delivered.2.2.2.1.symm.trans closed) Bool.false_ne_true
    | next other made =>
      obtain ⟨taken, ended, changed, _⟩ := sh.next_eq other
      rw [changed]
      exact before.expected
    | _ => exact before.expected

/-- A reader that was made and is not in the list does not come back. -/
theorem Step.absent (stepped : Step sh operation point sh' point') {number : Nat}
    (made : number < sh.created) (absent : number ∉ sh.readers) : number ∉ sh'.readers := by
  cases stepped with
  | read =>
    intro listed
    rcases List.mem_append.mp listed with before | last
    · exact absent before
    · exact absurd (List.mem_singleton.mp last) (Nat.ne_of_lt made)
  | processLine data => exact absent
  | filtered data registered readers matched other verdict => exact absent
  | write data registered matched raises =>
    have readers := RequestReader.writeMatched_readers raises data matched sh.toRequestReader
    exact fun listed => absent (readers ▸ listed)
  | closeReader other raises _ =>
    have fewer := sh.toRequestReader.closeSubscriber_sublist other raises
    exact fun listed => absent (fewer.subset listed)
  | close =>
    have none := sh.toRequestReader.close_readers
    intro listed
    rw [show sh.toRequestReader.close.readers = [] from none] at listed
    exact absurd listed List.not_mem_nil
  | next other _ =>
    obtain ⟨taken, ended, changed, _⟩ := sh.next_eq other
    rw [changed]
    exact absent

end Subscribers

end DifyPlugin.Server
