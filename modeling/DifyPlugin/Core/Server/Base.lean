import DifyPlugin.Library.Str

/-!
# Filter readers

`RequestReader` hands every message to the `FilterReader`s whose filter accepts it. Its lock is
never held at a blocking point, so `read`, the copy of the list in `_process_line` and `close`
are single steps, and so are `write` and `close` of a `FilterReader`. A filter reader is known
by the number of the greenlet that reads it. `_closed` of the `RequestReader` is read by
`event_loop` only, which may process a message at any time here.
-/

namespace DifyPlugin.Server

variable {δ : Type}

/-- `PluginInStreamEvent`. -/
inductive PluginInStreamEvent where
  /-- A request of the daemon. -/
  | request
  /-- A response to a backwards invocation. -/
  | backwardInvocationResponse
  deriving DecidableEq

/-- `PluginInStream`, with the dictionary `data` left open. -/
structure PluginInStream (δ : Type) where
  /-- `session_id`. -/
  sessionId : Text
  /-- `event`. -/
  event : PluginInStreamEvent
  /-- `data`. -/
  data : δ

/-- `FilterReader`: its flag and its queue, in which `None` ends the reading. -/
structure FilterReader (δ : Type) where
  /-- `_closed`. -/
  closed : Bool
  /-- `queue`. -/
  queue : List (Option (PluginInStream δ))

namespace FilterReader

/-- `FilterReader.write`. -/
def write (reader : FilterReader δ) (data : PluginInStream δ) : FilterReader δ :=
  if reader.closed then reader else { reader with queue := reader.queue ++ [some data] }

/-- `FilterReader.close`, without the callback. -/
def close (reader : FilterReader δ) : FilterReader δ :=
  if reader.closed then reader else { closed := true, queue := reader.queue ++ [none] }

/-- A closed reader is not closed again. -/
theorem close_of_closed {reader : FilterReader δ} (closed : reader.closed = true) :
    reader.close = reader :=
  if_pos closed

/-- Nothing is written to a closed reader. -/
theorem write_of_closed {reader : FilterReader δ} (closed : reader.closed = true)
    (data : PluginInStream δ) : reader.write data = reader :=
  if_pos closed

/-- The condition of the loop in `FilterReader.read`. -/
def goesOn (reader : FilterReader δ) : Bool := !reader.closed || !reader.queue.isEmpty

end FilterReader

/-- `RequestReader`: the list of its readers, and every filter reader by its number. -/
structure RequestReader (δ : Type) where
  /-- `readers`. -/
  readers : List Nat
  /-- The filter readers. -/
  filterReader : Nat → FilterReader δ

namespace RequestReader

/-- `RequestReader.read`. -/
def read (requests : RequestReader δ) (number : Nat) : RequestReader δ where
  readers := requests.readers ++ [number]
  filterReader := Function.update requests.filterReader number ⟨false, []⟩

/-- The copy of the list that `_process_line` takes, without the readers whose filter rejects. -/
def matchedReaders (requests : RequestReader δ) (filter : Nat → Bool) : List Nat :=
  requests.readers.filter filter

/-- `_process_line` writes to one matched reader. -/
def write (requests : RequestReader δ) (number : Nat) (data : PluginInStream δ) :
    RequestReader δ :=
  { requests with
    filterReader := Function.update requests.filterReader number
      ((requests.filterReader number).write data) }

/-- `FilterReader.close` with its callback, which removes the reader from the list. -/
def closeReader (requests : RequestReader δ) (number : Nat) : RequestReader δ :=
  if (requests.filterReader number).closed then requests
  else
    { readers := requests.readers.erase number
      filterReader := Function.update requests.filterReader number
        (requests.filterReader number).close }

/-- `RequestReader.close` clears the list; the readers that were in it are closed later. -/
def clear (requests : RequestReader δ) : RequestReader δ := { requests with readers := [] }

/-- `queue.get` takes the first entry. -/
def setQueue (requests : RequestReader δ) (number : Nat)
    (queue : List (Option (PluginInStream δ))) : RequestReader δ :=
  { requests with
    filterReader := Function.update requests.filterReader number
      { requests.filterReader number with queue := queue } }

end RequestReader

end DifyPlugin.Server
