import DifyPlugin.Library.Decoding
import DifyPlugin.Library.Interleaving

/-!
# The TCP reader and writer

`TCPReaderWriter` under cooperative scheduling. A greenlet runs without interruption from one
blocking point to the next one; `Pc` lists the blocking points, each with the local variables
and the callers that wait there, and an event says how a blocking call ends. Greenlet 0 runs
`event_loop`, all others call `write`, `launch` and `close`. `opt_lock` is reentrant: a greenlet
that holds it passes every further acquisition, so only the outermost one blocks and releases.

Sockets are numbered in the order they are created and keep what they accepted and received; the
reader keeps the messages that its generator has yielded. `μ` is the type of the messages.
-/

namespace DifyPlugin.Tcp

open Interleaving Decoding

variable {μ : Type}

/-- A call of `write`: the greenlet, and the number of its call. -/
abbrev CallId := Nat × Nat

/-- The bytes of one send, each with the call it belongs to. -/
def tag (origin : Option CallId) (bytes : Bytes) : List (Option CallId × UInt8) :=
  bytes.map fun byte => (origin, byte)

/-- One TCP connection. -/
structure Conn where
  /-- The socket is not closed on this side. -/
  isOpen : Bool
  /-- The bytes the socket accepted, each with the call that sent it; the handshake and the
  registration belong to no call. -/
  accepted : List (Option CallId × UInt8)
  /-- The bytes that were received. -/
  received : Bytes
  deriving DecidableEq

/-- What a `TCPReaderWriter` is constructed with, and the parts of it that are not modelled. -/
structure Config (μ : Type) where
  /-- `reconnect_attempts`. -/
  reconnectAttempts : Nat
  /-- The handshake line. -/
  handshake : Bytes
  /-- The frames that `on_connected` writes. -/
  registration : List Bytes
  /-- The `PluginInStream` that a line makes, when it is a JSON object with the items of one. -/
  parse : Bytes → Option μ

/-- The sockets of a reader, and what went through them. -/
structure Traffic (μ : Type) where
  /-- `sock`, once there is one. -/
  sock : Option Nat
  /-- The sockets. -/
  conns : Nat → Conn
  /-- How many sockets there are. -/
  created : Nat
  /-- The lines that were handed to the JSON parser, each with the socket it was read from. -/
  handed : List (Nat × Bytes)
  /-- The messages that `_read_stream` has yielded, each with the socket it was read from. -/
  yielded : List (Nat × μ)
  /-- The payloads each greenlet has passed to `write`. -/
  issued : Nat → List Bytes

/-- The traffic and the other attributes of the reader. -/
structure Shared (μ : Type) extends Traffic μ where
  /-- `alive`. -/
  alive : Bool
  /-- `_closed`. -/
  closed : Bool
  /-- `_connecting`. -/
  connecting : Bool
  /-- `_reconnect_pending`. -/
  reconnectPending : Bool
  /-- The greenlet that holds `opt_lock`. -/
  lock : Option Nat
  /-- Some reconnection round has used up its attempts since `launch` was called. -/
  exhausted : Bool

/-- Why a blocking call did not return. -/
inductive Failure where
  /-- An `Exception`. -/
  | exception
  /-- `GreenletExit` or `gevent.Timeout`. -/
  | cancellation
  deriving DecidableEq

/-- Who calls `_launch`. -/
inductive LaunchCaller where
  /-- `launch`. -/
  | launch
  /-- `write`, after a failed send. -/
  | write
  /-- `_read_stream`, which found the connection dead. -/
  | deadCheck (buffer : Bytes) (source : Option Nat)
  /-- `_read_stream`, after a failed read. -/
  | readError (sock : Nat)
  deriving DecidableEq

/-- Who calls `write`. -/
inductive WriteCaller where
  /-- A greenlet. -/
  | call (number : Nat)
  /-- `on_connected`, with further frames to write. -/
  | registration (sock attempts : Nat) (frames : List Bytes) (caller : LaunchCaller)
  deriving DecidableEq

/-- Who calls `close`. -/
inductive CloseCaller where
  /-- A greenlet. -/
  | call
  /-- `_read_stream`, which gives up and holds `opt_lock`. -/
  | readStream
  /-- `event_loop`, at its end. -/
  | eventLoop
  deriving DecidableEq

/-- Where a greenlet blocks. -/
inductive Pc where
  /-- Outside of the reader. -/
  | idle
  /-- About to run `event_loop`. -/
  | starting
  /-- `write` waits for `opt_lock`. -/
  | writeLock (number : Nat) (data : Bytes)
  /-- `_write_to_sock` sends on `target`; `sock` is the socket that `write` took. -/
  | send (target sock : Nat) (rest : Bytes) (caller : WriteCaller)
  /-- `_write_data` sleeps after `EAGAIN`. -/
  | sendAgain (sock : Nat) (rest : Bytes) (caller : WriteCaller)
  /-- `_connect_once` creates a connection. -/
  | connect (attempts : Nat) (caller : LaunchCaller)
  /-- `_connect_once` sends the handshake. -/
  | handshake (sock : Nat) (rest : Bytes) (attempts : Nat) (caller : LaunchCaller)
  /-- `_launch` sleeps before its next attempt. -/
  | backoff (attempts : Nat) (caller : LaunchCaller)
  /-- `launch` waits for `opt_lock`. -/
  | launchLock
  /-- `RequestReader.close` waits for its lock. -/
  | closeLock (caller : CloseCaller)
  /-- `RequestReader.close` closes the filter readers. -/
  | closeReaders (caller : CloseCaller)
  /-- `_read_stream` found the connection dead and waits for `opt_lock`. -/
  | deadLock (buffer : Bytes) (source : Option Nat)
  /-- `_read_data` waits until the socket is readable. -/
  | select (buffer : Bytes) (sock : Nat)
  /-- `_read_data` receives. -/
  | recv (buffer : Bytes) (sock : Nat)
  /-- `_read_data` sleeps after `EAGAIN`. -/
  | recvAgain (buffer : Bytes) (sock : Nat)
  /-- `_read_stream` waits for `opt_lock` after a failed read. -/
  | errorLock (sock : Nat)
  /-- `_read_stream` sleeps before it reconnects. -/
  | errorSleep (sock : Nat)
  /-- `event_loop` processes a request; further lines are waiting. -/
  | processing (lines : List Bytes) (buffer : Bytes) (sock : Nat)
  /-- `event_loop` sleeps after an error. -/
  | eventSleep
  /-- A registration write would start a reconnect of its own, which no run does. -/
  | nestedLaunch
  /-- `event_loop` has returned. -/
  | finished
  deriving DecidableEq

/-- What an idle greenlet calls. -/
inductive Call where
  /-- `write`. -/
  | write (data : Bytes)
  /-- `launch`. -/
  | launch
  /-- `close`. -/
  | close
  deriving DecidableEq

/-- How a blocking point is left. -/
inductive Event where
  /-- An idle greenlet calls a method. -/
  | call (method : Call)
  /-- The lock is acquired, the sleep is over, `select` timed out, or the consumer is done. -/
  | resumed
  /-- The socket is readable. -/
  | ready
  /-- The socket accepted the first bytes. -/
  | sent (count : Nat)
  /-- `EAGAIN`. -/
  | again
  /-- The connection is established. -/
  | connected
  /-- The socket received bytes; none when the other side has closed. -/
  | received (data : Bytes)
  /-- The call raised. -/
  | raised (failure : Failure)
  deriving DecidableEq

namespace Traffic

/-- `sock.close()`. -/
def closeSock (traffic : Traffic μ) (sock : Nat) : Traffic μ :=
  { traffic with
    conns := Function.update traffic.conns sock { traffic.conns sock with isOpen := false } }

/-- The socket accepts bytes. -/
def accept (traffic : Traffic μ) (sock : Nat) (origin : Option CallId) (bytes : Bytes) :
    Traffic μ :=
  { traffic with
    conns := Function.update traffic.conns sock
      { traffic.conns sock with
        accepted := (traffic.conns sock).accepted ++ tag origin bytes } }

/-- The socket receives bytes. -/
def receive (traffic : Traffic μ) (sock : Nat) (bytes : Bytes) : Traffic μ :=
  { traffic with
    conns := Function.update traffic.conns sock
      { traffic.conns sock with received := (traffic.conns sock).received ++ bytes } }

/-- A new socket. -/
def create (traffic : Traffic μ) : Traffic μ :=
  { traffic with
    conns := Function.update traffic.conns traffic.created ⟨true, [], []⟩
    created := traffic.created + 1 }

end Traffic

namespace Shared

/-- `sock.close()`. -/
def closeSock (sh : Shared μ) (sock : Nat) : Shared μ :=
  { sh with toTraffic := sh.toTraffic.closeSock sock }

/-- Leave the outermost `with self.opt_lock`. -/
def release (sh : Shared μ) : Shared μ := { sh with lock := none }

end Shared

section Reading

/-- `_read_stream` from `sock = self.sock` to the `select` of `_read_data`. -/
def readBody (sh : Shared μ) (buffer : Bytes) (source : Option Nat) : Pc :=
  match sh.sock with
  | none => .eventSleep
  | some sock => .select (if source = some sock then buffer else []) sock

/-- The top of the loop of `_read_stream`; when the generator returns, so does `event_loop`. -/
def readTop (sh : Shared μ) (buffer : Bytes) (source : Option Nat) : Pc :=
  if sh.closed then .closeLock .eventLoop
  else if sh.alive then readBody sh buffer source
  else .deadLock buffer source

/-- `_read_data` returned `None`. -/
def readNothing (sh : Shared μ) (buffer : Bytes) (sock : Nat) : Pc :=
  readTop sh (if sh.sock = some sock then buffer else []) (some sock)

/-- The white space that `bytes.strip` removes. -/
def isBlank (line : Bytes) : Bool := line.all fun byte => byte ∈ [32, 9, 10, 13, 11, 12]

/-- The loop of `_read_stream` over complete lines. `event_loop` takes each message out of the
generator, and returns when the reader is closed then. -/
def readLines (config : Config μ) (sh : Shared μ) (buffer : Bytes) (sock : Nat) :
    List Bytes → Shared μ × Pc
  | [] => (sh, readTop sh buffer (some sock))
  | line :: lines =>
    if isBlank line then readLines config sh buffer sock lines
    else
      let sh := { sh with handed := sh.handed ++ [(sock, line)] }
      match config.parse line with
      | none => readLines config sh buffer sock lines
      | some message =>
        let sh := { sh with yielded := sh.yielded ++ [(sock, message)] }
        if sh.closed then (sh, .closeLock .eventLoop) else (sh, .processing lines buffer sock)

/-- `_read_data` returned bytes. -/
def readData (config : Config μ) (sh : Shared μ) (buffer : Bytes) (sock : Nat) (data : Bytes) :
    Shared μ × Pc :=
  if sh.sock = some sock then
    let (lines, buffer) := Splitting.split [10] (buffer ++ data)
    readLines config sh buffer sock lines
  else (sh, readTop sh [] (some sock))

end Reading

section Launching

/-- `_launch` returns to its caller, which leaves `opt_lock`. -/
def launchReturn (sh : Shared μ) : LaunchCaller → Shared μ × Pc
  | .launch => (sh.release, .idle)
  | .write => (sh.release, .idle)
  | .deadCheck buffer source => (sh.release, readBody sh.release buffer source)
  | .readError sock => (sh.release, readTop sh.release [] (some sock))

/-- `_launch` raises into its caller, which leaves `opt_lock`; `event_loop` catches an
`Exception` and sleeps. -/
def launchRaise (sh : Shared μ) : Failure → LaunchCaller → Shared μ × Pc
  | _, .launch => (sh.release, .idle)
  | _, .write => (sh.release, .idle)
  | .exception, _ => (sh.release, .eventSleep)
  | .cancellation, _ => (sh.release, .closeLock .eventLoop)

/-- The loop of `_launch`, from its condition on, and its `finally`. -/
def launchLoop (config : Config μ) (sh : Shared μ) (attempts : Nat) (caller : LaunchCaller) :
    Shared μ × Pc :=
  if attempts < config.reconnectAttempts ∧ sh.closed = false then (sh, .connect attempts caller)
  else
    launchReturn { sh with
      connecting := false
      exhausted := sh.exhausted || decide (config.reconnectAttempts ≤ attempts) } caller

/-- `_launch`, called under `opt_lock`. -/
def startLaunch (config : Config μ) (sh : Shared μ) (caller : LaunchCaller) : Shared μ × Pc :=
  if sh.alive ∨ sh.closed then launchReturn sh caller
  else launchLoop config { sh with reconnectPending := false, connecting := true } 0 caller

/-- `_connect` raised: `_launch` counts an `Exception`, and only that, as an attempt. -/
def connectFailed (config : Config μ) (sh : Shared μ) (failure : Failure) (attempts : Nat)
    (caller : LaunchCaller) : Shared μ × Pc :=
  match failure with
  | .cancellation => launchRaise { sh with connecting := false } .cancellation caller
  | .exception =>
    if config.reconnectAttempts ≤ attempts + 1 then
      launchRaise { sh with connecting := false, exhausted := true } .exception caller
    else (sh, .backoff (attempts + 1) caller)

/-- The handshake or the registration raised. -/
def setupFailed (config : Config μ) (sh : Shared μ) (failure : Failure) (sock attempts : Nat)
    (caller : LaunchCaller) : Shared μ × Pc :=
  connectFailed config (({ sh with alive := false } : Shared μ).closeSock sock) failure attempts
    caller

/-- `on_connected` writes its frames; `_connect` then returns and `_launch` ends. An empty frame
blocks nowhere. -/
def register (config : Config μ) (sh : Shared μ) (sock attempts : Nat) (caller : LaunchCaller) :
    List Bytes → Shared μ × Pc
  | [] => launchReturn { sh with connecting := false } caller
  | frame :: frames =>
    match sh.alive, sh.sock with
    | true, some current =>
      if frame = [] then register config sh sock attempts caller frames
      else (sh, .send current current frame (.registration sock attempts frames caller))
    | _, _ => setupFailed config sh .exception sock attempts caller

/-- `_connect_once` sends what is left of the handshake. -/
def sendHandshake (config : Config μ) (sh : Shared μ) (sock : Nat) (rest : Bytes) (attempts : Nat)
    (caller : LaunchCaller) : Shared μ × Pc :=
  if rest = [] then register config sh sock attempts caller config.registration
  else (sh, .handshake sock rest attempts caller)

/-- `_connect_once` has a connection. -/
def connected (config : Config μ) (sh : Shared μ) (attempts : Nat) (caller : LaunchCaller) :
    Shared μ × Pc :=
  let sock := sh.created
  let sh := { sh with toTraffic := sh.toTraffic.create }
  if sh.closed then launchReturn { sh.closeSock sock with connecting := false } caller
  else
    sendHandshake config { sh with sock := some sock, alive := true } sock config.handshake
      attempts caller

end Launching

section Writing

/-- `write` returns to its caller. -/
def writeReturn (config : Config μ) (sh : Shared μ) : WriteCaller → Shared μ × Pc
  | .call _ => (sh.release, .idle)
  | .registration sock attempts frames caller => register config sh sock attempts caller frames

/-- `write` raises into its caller. -/
def writeRaise (config : Config μ) (sh : Shared μ) (failure : Failure) : WriteCaller → Shared μ × Pc
  | .call _ => (sh.release, .idle)
  | .registration sock attempts _ caller => setupFailed config sh failure sock attempts caller

/-- `_write_data` raised. -/
def writeFailed (config : Config μ) (sh : Shared μ) (failure : Failure) (sock : Nat)
    (caller : WriteCaller) : Shared μ × Pc :=
  let sh := { sh.closeSock sock with alive := false }
  if sh.closed ∨ sh.connecting then writeRaise config sh failure caller
  else
    match failure, caller with
    | .cancellation, _ => writeRaise config { sh with reconnectPending := true } failure caller
    | .exception, .call _ => startLaunch config sh .write
    | .exception, .registration .. => (sh, .nestedLaunch)

/-- `_write_data` has more bytes to send on `self.sock`, or is done. -/
def writeData (config : Config μ) (sh : Shared μ) (sock : Nat) (rest : Bytes)
    (caller : WriteCaller) : Shared μ × Pc :=
  if rest = [] then writeReturn config sh caller
  else (sh, .send (sh.sock.getD sock) sock rest caller)

/-- `write`, once it holds `opt_lock`. -/
def startWrite (config : Config μ) (sh : Shared μ) (number : Nat) (data : Bytes) : Shared μ × Pc :=
  match sh.alive, sh.sock with
  | true, some sock => writeData config sh sock data (.call number)
  | _, _ => (sh.release, .idle)

/-- The call whose bytes a socket accepts. -/
def WriteCaller.origin (thread : Nat) : WriteCaller → Option CallId
  | .call number => some (thread, number)
  | .registration .. => none

end Writing

/-- `close` returns to its caller, or is cancelled. -/
def closeReturn (sh : Shared μ) : CloseCaller → Shared μ × Pc
  | .call => (sh, .idle)
  | .readStream => (sh.release, .closeLock .eventLoop)
  | .eventLoop => (sh, .finished)

/-- The end of `close`: the connection is closed unless it is dead. -/
def closeConnection (sh : Shared μ) : Shared μ :=
  match sh.alive, sh.sock with
  | true, some sock => { sh.closeSock sock with alive := false }
  | _, _ => { sh with alive := false }

/-- `launch`, once it holds `opt_lock`. -/
def startConnection (config : Config μ) (sh : Shared μ) : Shared μ × Pc :=
  startLaunch config { closeConnection sh with closed := false, exhausted := false } .launch

/-- `_read_stream` behind the dead check, once it holds `opt_lock`. -/
def deadCheck (config : Config μ) (sh : Shared μ) (buffer : Bytes) (source : Option Nat) :
    Shared μ × Pc :=
  if sh.alive then (sh.release, readBody sh.release buffer source)
  else if sh.reconnectPending then startLaunch config sh (.deadCheck buffer source)
  else (sh, .closeLock .readStream)

/-- `_read_stream` after a failed read, once it holds `opt_lock`. -/
def readError (sh : Shared μ) (sock : Nat) : Shared μ × Pc :=
  if sh.closed then (sh.release, .closeLock .eventLoop)
  else if sh.sock = some sock then ({ sh.closeSock sock with alive := false }, .errorSleep sock)
  else (sh.release, readTop sh.release [] (some sock))

section Scheduling

/-- Acquire `opt_lock` and go on; a greenlet that finds it taken keeps waiting. -/
def acquire (sh : Shared μ) (thread : Nat) (body : Shared μ → Shared μ × Pc) :
    Option (Shared μ × Pc) :=
  if sh.lock = none then some (body { sh with lock := some thread }) else none

/-- An idle greenlet calls a method. -/
def startCall (sh : Shared μ) (thread : Nat) : Call → Shared μ × Pc
  | .write data =>
    ({ sh with issued := Function.update sh.issued thread (sh.issued thread ++ [data]) },
      .writeLock (sh.issued thread).length data)
  | .launch => (sh, .launchLock)
  | .close => (sh, .closeLock .call)

/-- The socket accepted the first bytes of an ordinary payload or of a registration frame. -/
def sent (config : Config μ) (thread : Nat) (sh : Shared μ) (target sock : Nat) (rest : Bytes)
    (caller : WriteCaller) (count : Nat) : Option (Shared μ × Pc) :=
  if (sh.conns target).isOpen = true ∧ count ≤ rest.length then
    if count = 0 then some (writeFailed config sh .exception sock caller)
    else
      let traffic := sh.toTraffic.accept target (caller.origin thread) (rest.take count)
      some (writeData config { sh with toTraffic := traffic } sock (rest.drop count) caller)
  else none

/-- The socket accepted the first bytes of the handshake. -/
def sentHandshake (config : Config μ) (sh : Shared μ) (sock : Nat) (rest : Bytes) (attempts : Nat)
    (caller : LaunchCaller) (count : Nat) : Option (Shared μ × Pc) :=
  if (sh.conns sock).isOpen = true ∧ count ≤ rest.length then
    let traffic := sh.toTraffic.accept sock none (rest.take count)
    some (sendHandshake config { sh with toTraffic := traffic } sock (rest.drop count) attempts
      caller)
  else none

/-- `_recv_from_sock` returned; no bytes mean that the other side has closed. -/
def received (config : Config μ) (sh : Shared μ) (buffer : Bytes) (sock : Nat) (data : Bytes) :
    Option (Shared μ × Pc) :=
  if data = [] then some (sh, .errorLock sock)
  else if (sh.conns sock).isOpen then
    some (readData config { sh with toTraffic := sh.toTraffic.receive sock data } buffer sock data)
  else none

/-- One greenlet goes from its blocking point to the next one. Only a socket operation raises
an `Exception`; a cancellation is raised at every blocking point. `_process_line` catches the
exceptions of a consumer. -/
def step (config : Config μ) (thread : Nat) (event : Event) (sh : Shared μ) (pc : Pc) :
    Option (Shared μ × Pc) :=
  match pc, event with
  | .idle, .call method => some (startCall sh thread method)
  | .starting, .resumed => some (sh, readTop sh [] none)
  | .writeLock number data, .resumed =>
    acquire sh thread fun sh => startWrite config sh number data
  | .writeLock _ _, .raised .cancellation => some (sh, .idle)
  | .send target sock rest caller, .sent count =>
    sent config thread sh target sock rest caller count
  | .send _ sock rest caller, .again => some (sh, .sendAgain sock rest caller)
  | .send _ sock _ caller, .raised failure => some (writeFailed config sh failure sock caller)
  | .sendAgain sock rest caller, .resumed => some (writeData config sh sock rest caller)
  | .sendAgain sock _ caller, .raised .cancellation =>
    some (writeFailed config sh .cancellation sock caller)
  | .connect attempts caller, .connected => some (connected config sh attempts caller)
  | .connect attempts caller, .raised failure =>
    some (connectFailed config sh failure attempts caller)
  | .handshake sock rest attempts caller, .sent count =>
    sentHandshake config sh sock rest attempts caller count
  | .handshake sock _ attempts caller, .raised failure =>
    some (setupFailed config sh failure sock attempts caller)
  | .backoff attempts caller, .resumed => some (launchLoop config sh attempts caller)
  | .backoff _ caller, .raised .cancellation =>
    some (launchRaise { sh with connecting := false } .cancellation caller)
  | .launchLock, .resumed => acquire sh thread (startConnection config)
  | .launchLock, .raised .cancellation => some (sh, .idle)
  | .closeLock caller, .resumed => some ({ sh with closed := true }, .closeReaders caller)
  | .closeLock caller, .raised .cancellation => some (closeReturn sh caller)
  | .closeReaders caller, .resumed => some (closeReturn (closeConnection sh) caller)
  | .closeReaders caller, .raised .cancellation => some (closeReturn sh caller)
  | .deadLock buffer source, .resumed =>
    acquire sh thread fun sh => deadCheck config sh buffer source
  | .deadLock _ _, .raised .cancellation => some (sh, .closeLock .eventLoop)
  | .select buffer sock, .ready =>
    some (sh, if sh.sock = some sock then .recv buffer sock else readNothing sh buffer sock)
  | .select buffer sock, .resumed => some (sh, readNothing sh buffer sock)
  | .select _ sock, .raised .exception => some (sh, .errorLock sock)
  | .select _ _, .raised .cancellation => some (sh, .closeLock .eventLoop)
  | .recv buffer sock, .received data => received config sh buffer sock data
  | .recv buffer sock, .again => some (sh, .recvAgain buffer sock)
  | .recv _ sock, .raised .exception => some (sh, .errorLock sock)
  | .recv _ _, .raised .cancellation => some (sh, .closeLock .eventLoop)
  | .recvAgain buffer sock, .resumed => some (sh, readNothing sh buffer sock)
  | .recvAgain _ _, .raised .cancellation => some (sh, .closeLock .eventLoop)
  | .errorLock sock, .resumed => acquire sh thread fun sh => readError sh sock
  | .errorLock _, .raised .cancellation => some (sh, .closeLock .eventLoop)
  | .errorSleep sock, .resumed => some (startLaunch config sh (.readError sock))
  | .errorSleep _, .raised .cancellation => some (sh.release, .closeLock .eventLoop)
  | .processing lines buffer sock, .resumed =>
    some (readLines config sh buffer sock lines)
  | .processing _ _ _, .raised .cancellation => some (sh, .closeLock .eventLoop)
  | .eventSleep, .resumed => some (sh, readTop sh [] none)
  | .eventSleep, .raised .cancellation => some (sh, .closeLock .eventLoop)
  | _, _ => none

/-- The greenlets over one reader. -/
def machine (config : Config μ) : Machine (Shared μ) Pc Event := ⟨step config⟩

/-- A reader that was just constructed; greenlet 0 is about to run `event_loop`. -/
def initial : Pool (Shared μ) Pc where
  shared :=
    { alive := false, closed := false, connecting := false, reconnectPending := false
      sock := none, lock := none, conns := fun _ => ⟨false, [], []⟩, created := 0
      handed := [], yielded := [], exhausted := false, issued := fun _ => [] }
  control := fun thread => if thread = 0 then .starting else .idle

end Scheduling

end DifyPlugin.Tcp
