import DifyPlugin.Core.Server.Tcp.Steps

/-!
# One call of `_launch`

The code of `_launch` by itself: where it blocks, how it goes on from there, and whether it
returns or raises in the end, which the greenlets of the reader do not tell. Whoever calls
`_launch` runs this code and goes on with its result, so the steps of the reader inside of a call
are the steps of the call.
-/

namespace DifyPlugin.Tcp

open Interleaving Decoding

variable {μ : Type}

/-- Where `_launch` blocks. -/
inductive LaunchPoint where
  /-- `_connect_once` creates a connection. -/
  | connect (attempts : Nat)
  /-- `_connect_once` sends the handshake. -/
  | handshake (sock : Nat) (rest : Bytes) (attempts : Nat)
  /-- `_launch` sleeps before its next attempt. -/
  | backoff (attempts : Nat)
  /-- `on_connected` sends a frame, and has further ones to write. -/
  | send (target sock : Nat) (rest : Bytes) (created attempts : Nat) (frames : List Bytes)
  /-- `on_connected` sleeps after `EAGAIN`. -/
  | sendAgain (sock : Nat) (rest : Bytes) (created attempts : Nat) (frames : List Bytes)

/-- The blocking point of a greenlet inside of `_launch`. -/
def LaunchPoint.pc (caller : LaunchCaller) : LaunchPoint → Pc
  | .connect attempts => .connect attempts caller
  | .handshake sock rest attempts => .handshake sock rest attempts caller
  | .backoff attempts => .backoff attempts caller
  | .send target sock rest created attempts frames =>
    .send target sock rest (.registration created attempts frames caller)
  | .sendAgain sock rest created attempts frames =>
    .sendAgain sock rest (.registration created attempts frames caller)

/-- Where a greenlet inside of `_launch` blocks, and who called it. -/
def Pc.launching : Pc → Option (LaunchPoint × LaunchCaller)
  | .connect attempts caller => some (.connect attempts, caller)
  | .handshake sock rest attempts caller => some (.handshake sock rest attempts, caller)
  | .backoff attempts caller => some (.backoff attempts, caller)
  | .send target sock rest (.registration created attempts frames caller) =>
    some (.send target sock rest created attempts frames, caller)
  | .sendAgain sock rest (.registration created attempts frames caller) =>
    some (.sendAgain sock rest created attempts frames, caller)
  | _ => none

/-- How `_launch` goes on. -/
inductive LaunchResult where
  /-- It blocks. -/
  | blocked (point : LaunchPoint)
  /-- It returns. -/
  | returned
  /-- It raises. -/
  | raised (failure : Failure)
  /-- A registration write calls `_launch` again. -/
  | nested

namespace Launch

/-- The caller of `_launch` goes on with its result. -/
def resume (caller : LaunchCaller) : Shared μ × LaunchResult → Shared μ × Pc
  | (sh, .blocked point) => (sh, point.pc caller)
  | (sh, .returned) => launchReturn sh caller
  | (sh, .raised failure) => launchRaise sh failure caller
  | (sh, .nested) => (sh, .nestedLaunch)

section Definitions

variable (config : Config μ)

/-- The loop of `_launch`, from its condition on, and its `finally`. -/
def loop (sh : Shared μ) (attempts : Nat) : Shared μ × LaunchResult :=
  if attempts < config.reconnectAttempts ∧ sh.closed = false then
    (sh, .blocked (.connect attempts))
  else
    ({ sh with
      connecting := false
      exhausted := sh.exhausted || decide (config.reconnectAttempts ≤ attempts) }, .returned)

/-- `_launch` is called. -/
def start (sh : Shared μ) : Shared μ × LaunchResult :=
  if sh.alive ∨ sh.closed then (sh, .returned)
  else loop config { sh with reconnectPending := false, connecting := true } 0

/-- `_connect` raised. -/
def connectFailed (sh : Shared μ) (failure : Failure) (attempts : Nat) : Shared μ × LaunchResult :=
  match failure with
  | .cancellation => ({ sh with connecting := false }, .raised .cancellation)
  | .exception =>
    if config.reconnectAttempts ≤ attempts + 1 then
      ({ sh with connecting := false, exhausted := true }, .raised .exception)
    else (sh, .blocked (.backoff (attempts + 1)))

/-- The handshake or the registration raised. -/
def setupFailed (sh : Shared μ) (failure : Failure) (sock attempts : Nat) :
    Shared μ × LaunchResult :=
  connectFailed config (({ sh with alive := false } : Shared μ).closeSock sock) failure attempts

/-- `on_connected` writes its frames; `_connect` then returns and `_launch` ends. -/
def register (sh : Shared μ) (sock attempts : Nat) : List Bytes → Shared μ × LaunchResult
  | [] => ({ sh with connecting := false }, .returned)
  | frame :: frames =>
    match sh.alive, sh.sock with
    | true, some current =>
      if frame = [] then register sh sock attempts frames
      else (sh, .blocked (.send current current frame sock attempts frames))
    | _, _ => setupFailed config sh .exception sock attempts

/-- `_connect_once` sends what is left of the handshake. -/
def sendHandshake (sh : Shared μ) (sock : Nat) (rest : Bytes) (attempts : Nat) :
    Shared μ × LaunchResult :=
  if rest = [] then register config sh sock attempts config.registration
  else (sh, .blocked (.handshake sock rest attempts))

/-- `_connect_once` has a connection. -/
def connected (sh : Shared μ) (attempts : Nat) : Shared μ × LaunchResult :=
  let sock := sh.created
  let sh := { sh with toTraffic := sh.toTraffic.create }
  if sh.closed then ({ sh.closeSock sock with connecting := false }, .returned)
  else
    sendHandshake config { sh with sock := some sock, alive := true } sock config.handshake
      attempts

/-- A registration write raised in `_write_data`. -/
def writeFailed (sh : Shared μ) (failure : Failure) (sock created attempts : Nat) :
    Shared μ × LaunchResult :=
  let sh := { sh.closeSock sock with alive := false }
  if sh.closed ∨ sh.connecting then setupFailed config sh failure created attempts
  else
    match failure with
    | .cancellation =>
      setupFailed config { sh with reconnectPending := true } failure created attempts
    | .exception => (sh, .nested)

/-- A registration write has more bytes to send, or is done. -/
def writeData (sh : Shared μ) (sock : Nat) (rest : Bytes) (created attempts : Nat)
    (frames : List Bytes) : Shared μ × LaunchResult :=
  if rest = [] then register config sh created attempts frames
  else (sh, .blocked (.send (sh.sock.getD sock) sock rest created attempts frames))

/-- The socket accepted the first bytes of a frame. -/
def sent (sh : Shared μ) (target sock : Nat) (rest : Bytes) (created attempts : Nat)
    (frames : List Bytes) (count : Nat) : Option (Shared μ × LaunchResult) :=
  if (sh.conns target).isOpen = true ∧ count ≤ rest.length then
    if count = 0 then some (writeFailed config sh .exception sock created attempts)
    else
      let traffic := sh.toTraffic.accept target none (rest.take count)
      some (writeData config { sh with toTraffic := traffic } sock (rest.drop count) created
        attempts frames)
  else none

/-- The socket accepted the first bytes of the handshake. -/
def sentHandshake (sh : Shared μ) (sock : Nat) (rest : Bytes) (attempts count : Nat) :
    Option (Shared μ × LaunchResult) :=
  if (sh.conns sock).isOpen = true ∧ count ≤ rest.length then
    let traffic := sh.toTraffic.accept sock none (rest.take count)
    some (sendHandshake config { sh with toTraffic := traffic } sock (rest.drop count) attempts)
  else none

/-- `_launch` goes from its blocking point to the next one. -/
def step (event : Event) (sh : Shared μ) (point : LaunchPoint) : Option (Shared μ × LaunchResult) :=
  match point, event with
  | .connect attempts, .connected => some (connected config sh attempts)
  | .connect attempts, .raised failure => some (connectFailed config sh failure attempts)
  | .handshake sock rest attempts, .sent count =>
    sentHandshake config sh sock rest attempts count
  | .handshake sock _ attempts, .raised failure =>
    some (setupFailed config sh failure sock attempts)
  | .backoff attempts, .resumed => some (loop config sh attempts)
  | .backoff _, .raised .cancellation =>
    some ({ sh with connecting := false }, .raised .cancellation)
  | .send target sock rest created attempts frames, .sent count =>
    sent config sh target sock rest created attempts frames count
  | .send _ sock rest created attempts frames, .again =>
    some (sh, .blocked (.sendAgain sock rest created attempts frames))
  | .send _ sock _ created attempts _, .raised failure =>
    some (writeFailed config sh failure sock created attempts)
  | .sendAgain sock rest created attempts frames, .resumed =>
    some (writeData config sh sock rest created attempts frames)
  | .sendAgain sock _ created attempts _, .raised .cancellation =>
    some (writeFailed config sh .cancellation sock created attempts)
  | _, _ => none

/-- The state in which a step calls `_launch`, and who calls it. -/
def called (thread : Nat) (event : Event) (sh : Shared μ) (pc : Pc) :
    Option (Shared μ × LaunchCaller) :=
  let afterWrite (sock : Nat) : Option (Shared μ × LaunchCaller) :=
    if sh.closed ∨ sh.connecting then none
    else some ({ sh.closeSock sock with alive := false }, .write)
  match pc, event with
  | .launchLock, .resumed =>
    if sh.lock = none then
      some ({ closeConnection { sh with lock := some thread } with
        closed := false, exhausted := false }, .launch)
    else none
  | .send target sock rest (.call _), .sent 0 =>
    if (sh.conns target).isOpen = true ∧ 0 ≤ rest.length then afterWrite sock else none
  | .send _ sock _ (.call _), .raised .exception => afterWrite sock
  | .deadLock buffer source, .resumed =>
    if sh.lock = none ∧ sh.alive = false ∧ sh.reconnectPending = true then
      some ({ sh with lock := some thread }, .deadCheck buffer source)
    else none
  | .errorSleep sock, .resumed => some (sh, .readError sock)
  | _, _ => none

end Definitions

section Refinement

variable {config : Config μ} {thread : Nat} {event : Event} {sh : Shared μ} {pc : Pc}

/-- A greenlet inside of `_launch` goes on with its loop. -/
theorem launchLoop_eq (config : Config μ) (sh : Shared μ) (attempts : Nat) (caller : LaunchCaller) :
    launchLoop config sh attempts caller = resume caller (loop config sh attempts) := by
  unfold launchLoop loop
  split <;> rfl

/-- A greenlet that calls `_launch` runs it. -/
theorem startLaunch_eq (config : Config μ) (sh : Shared μ) (caller : LaunchCaller) :
    startLaunch config sh caller = resume caller (start config sh) := by
  unfold startLaunch start
  split
  · rfl
  · exact launchLoop_eq config _ 0 caller

/-- An attempt that failed goes on as in the call. -/
theorem connectFailed_eq (config : Config μ) (sh : Shared μ) (failure : Failure) (attempts : Nat)
    (caller : LaunchCaller) : Tcp.connectFailed config sh failure attempts caller =
      resume caller (connectFailed config sh failure attempts) := by
  cases failure with
  | cancellation => rfl
  | exception =>
    simp only [Tcp.connectFailed, connectFailed]
    split <;> rfl

/-- A registration goes on as in the call. -/
theorem register_eq (config : Config μ) (sh : Shared μ) (sock attempts : Nat)
    (caller : LaunchCaller) (frames : List Bytes) :
    Tcp.register config sh sock attempts caller frames =
      resume caller (register config sh sock attempts frames) := by
  induction frames with
  | nil => rfl
  | cons frame frames ih =>
    have failed := connectFailed_eq config (({ sh with alive := false } : Shared μ).closeSock sock)
      .exception attempts caller
    simp only [Tcp.register, register]
    cases sh.alive with
    | false => exact failed
    | true =>
      cases sh.sock with
      | none => exact failed
      | some current =>
        by_cases empty : frame = []
        · simp only [empty, if_true, ih]
        · simp only [empty, if_false]
          rfl

/-- The handshake goes on as in the call. -/
theorem sendHandshake_eq (config : Config μ) (sh : Shared μ) (sock : Nat) (rest : Bytes)
    (attempts : Nat) (caller : LaunchCaller) :
    Tcp.sendHandshake config sh sock rest attempts caller =
      resume caller (sendHandshake config sh sock rest attempts) := by
  unfold Tcp.sendHandshake sendHandshake
  split
  · exact register_eq config sh sock attempts caller _
  · rfl

/-- A connection is set up as in the call. -/
theorem connected_eq (config : Config μ) (sh : Shared μ) (attempts : Nat) (caller : LaunchCaller) :
    Tcp.connected config sh attempts caller = resume caller (connected config sh attempts) := by
  unfold Tcp.connected connected
  dsimp only
  split
  · rfl
  · exact sendHandshake_eq config _ _ _ attempts caller

/-- A failed registration write goes on as in the call. -/
theorem writeFailed_eq (config : Config μ) (sh : Shared μ) (failure : Failure)
    (sock created attempts : Nat) (frames : List Bytes) (caller : LaunchCaller) :
    Tcp.writeFailed config sh failure sock (.registration created attempts frames caller) =
      resume caller (writeFailed config sh failure sock created attempts) := by
  unfold Tcp.writeFailed writeFailed
  dsimp only
  split
  · exact connectFailed_eq config _ failure attempts caller
  · cases failure with
    | cancellation => exact connectFailed_eq config _ .cancellation attempts caller
    | exception => rfl

/-- A registration write goes on as in the call. -/
theorem writeData_eq (config : Config μ) (sh : Shared μ) (sock : Nat) (rest : Bytes)
    (created attempts : Nat) (frames : List Bytes) (caller : LaunchCaller) :
    Tcp.writeData config sh sock rest (.registration created attempts frames caller) =
      resume caller (writeData config sh sock rest created attempts frames) := by
  unfold Tcp.writeData writeData
  split
  · exact register_eq config sh created attempts caller frames
  · rfl

/-- Inside of `_launch` the steps of a greenlet are those of the call. -/
theorem step_launching (config : Config μ) (thread : Nat) (event : Event) (sh : Shared μ)
    (point : LaunchPoint) (caller : LaunchCaller) :
    Tcp.step config thread event sh (point.pc caller) =
      (step config event sh point).map (resume caller) := by
  cases point with
  | connect attempts =>
    cases event with
    | connected => exact congrArg some (connected_eq config sh attempts caller)
    | raised failure => exact congrArg some (connectFailed_eq config sh failure attempts caller)
    | _ => rfl
  | handshake sock rest attempts =>
    cases event with
    | sent count =>
      simp only [LaunchPoint.pc, Tcp.step, Tcp.sentHandshake, step, sentHandshake]
      split
      · exact congrArg some (sendHandshake_eq config _ sock _ attempts caller)
      · rfl
    | raised failure => exact congrArg some (connectFailed_eq config _ failure attempts caller)
    | _ => rfl
  | backoff attempts =>
    cases event with
    | resumed => exact congrArg some (launchLoop_eq config sh attempts caller)
    | raised failure => cases failure <;> rfl
    | _ => rfl
  | send target sock rest created attempts frames =>
    cases event with
    | sent count =>
      simp only [LaunchPoint.pc, Tcp.step, Tcp.sent, step, sent]
      split
      · split
        · exact congrArg some (writeFailed_eq config sh .exception sock created attempts frames
            caller)
        · exact congrArg some (writeData_eq config _ sock _ created attempts frames caller)
      · rfl
    | raised failure =>
      exact congrArg some (writeFailed_eq config sh failure sock created attempts frames caller)
    | _ => rfl
  | sendAgain sock rest created attempts frames =>
    cases event with
    | resumed =>
      exact congrArg some (writeData_eq config sh sock rest created attempts frames caller)
    | raised failure =>
      cases failure with
      | cancellation =>
        exact congrArg some (writeFailed_eq config sh .cancellation sock created attempts frames
          caller)
      | exception => rfl
    | _ => rfl

/-- A write whose send failed calls `_launch` unless the reader is closed or connecting. -/
theorem writeFailed_call (config : Config μ) (sh : Shared μ) (sock number : Nat) :
    Tcp.writeFailed config sh .exception sock (.call number) =
      if sh.closed ∨ sh.connecting then
        (({ sh.closeSock sock with alive := false } : Shared μ).release, .idle)
      else resume .write (start config { sh.closeSock sock with alive := false }) := by
  unfold Tcp.writeFailed
  by_cases stops : sh.closed = true ∨ sh.connecting = true
  · rw [if_pos stops]
    exact if_pos stops
  · rw [if_neg stops]
    exact (if_neg stops).trans (startLaunch_eq config _ .write)

/-- The steps that call `_launch`. -/
inductive Calls (thread : Nat) (sh : Shared μ) : Event → Pc → Shared μ → LaunchCaller → Prop where
  /-- `launch` has the lock. -/
  | launch (free : sh.lock = none) :
    Calls thread sh .resumed .launchLock { closeConnection { sh with lock := some thread } with
      closed := false, exhausted := false } .launch
  /-- A send of `write` has sent nothing. -/
  | nothing {target sock number : Nat} {rest : Bytes}
    (accepts : (sh.conns target).isOpen = true ∧ 0 ≤ rest.length)
    (goes : ¬(sh.closed ∨ sh.connecting)) :
    Calls thread sh (.sent 0) (.send target sock rest (.call number))
      { sh.closeSock sock with alive := false } .write
  /-- A send of `write` has raised. -/
  | raised {target sock number : Nat} {rest : Bytes} (goes : ¬(sh.closed ∨ sh.connecting)) :
    Calls thread sh (.raised .exception) (.send target sock rest (.call number))
      { sh.closeSock sock with alive := false } .write
  /-- The reader has the lock and finds a reconnect pending. -/
  | deadCheck {buffer : Bytes} {source : Option Nat} (free : sh.lock = none)
    (dead : sh.alive = false) (pending : sh.reconnectPending = true) :
    Calls thread sh .resumed (.deadLock buffer source) { sh with lock := some thread }
      (.deadCheck buffer source)
  /-- The reader has slept after a failed read. -/
  | readError {sock : Nat} : Calls thread sh .resumed (.errorSleep sock) sh (.readError sock)

/-- There are no other calls of `_launch`. -/
theorem called_calls {before : Shared μ} {caller : LaunchCaller}
    (calls : called thread event sh pc = some (before, caller)) :
    Calls thread sh event pc before caller := by
  cases pc with
  | launchLock =>
    cases event with
    | resumed =>
      simp only [called] at calls
      split at calls
      · rename_i free
        obtain ⟨rfl, rfl⟩ := Prod.mk.inj (Option.some.inj calls)
        exact .launch free
      · contradiction
    | _ => contradiction
  | send target sock rest writer =>
    cases writer with
    | call number =>
      cases event with
      | sent count =>
        cases count with
        | zero =>
          simp only [called] at calls
          split at calls
          · rename_i accepts
            split at calls
            · contradiction
            · rename_i goes
              obtain ⟨rfl, rfl⟩ := Prod.mk.inj (Option.some.inj calls)
              exact .nothing accepts goes
          · contradiction
        | succ count => contradiction
      | raised failure =>
        cases failure with
        | exception =>
          simp only [called] at calls
          split at calls
          · contradiction
          · rename_i goes
            obtain ⟨rfl, rfl⟩ := Prod.mk.inj (Option.some.inj calls)
            exact .raised goes
        | cancellation => contradiction
      | _ => contradiction
    | registration created attempts frames caller => cases event <;> contradiction
  | deadLock buffer source =>
    cases event with
    | resumed =>
      simp only [called] at calls
      split at calls
      · rename_i waiting
        obtain ⟨free, dead, pending⟩ := waiting
        obtain ⟨rfl, rfl⟩ := Prod.mk.inj (Option.some.inj calls)
        exact .deadCheck free dead pending
      · contradiction
    | _ => contradiction
  | errorSleep sock =>
    cases event with
    | resumed =>
      obtain ⟨rfl, rfl⟩ := Prod.mk.inj (Option.some.inj calls)
      exact .readError
    | _ => contradiction
  | _ => cases event <;> contradiction

/-- A step that calls `_launch` runs it. -/
theorem step_called (config : Config μ) {before : Shared μ} {caller : LaunchCaller}
    (calls : called thread event sh pc = some (before, caller)) :
    Tcp.step config thread event sh pc = some (resume caller (start config before)) := by
  cases called_calls calls with
  | launch free => simp only [Tcp.step, acquire, if_pos free, startConnection, startLaunch_eq]
  | nothing accepts goes =>
    simp only [Tcp.step, Tcp.sent, if_pos accepts, if_true, writeFailed_call, if_neg goes]
  | raised goes => simp only [Tcp.step, writeFailed_call, if_neg goes]
  | deadCheck free dead pending =>
    simp only [Tcp.step, acquire, if_pos free, deadCheck, dead, pending, if_true, startLaunch_eq]
    rfl
  | readError => exact congrArg some (startLaunch_eq config _ _)

/-- What a step outside of `_launch` leaves alone. -/
structure Outside (sh : Shared μ) (result : Shared μ × Pc) : Prop where
  /-- It does not lead inside. -/
  launching : result.2.launching = none
  /-- The socket is not replaced. -/
  sock : result.1.sock = sh.sock
  /-- No socket is opened. -/
  isOpen : ∀ sock, (result.1.conns sock).isOpen = true → (sh.conns sock).isOpen = true

/-- A step that touches no socket. -/
theorem Outside.still {result : Shared μ × Pc} (launching : result.2.launching = none)
    (traffic : result.1.toTraffic = sh.toTraffic) : Outside sh result where
  launching := launching
  sock := by rw [traffic]
  isOpen := fun sock opened => by rwa [traffic] at opened

/-- A step that closes a socket. -/
theorem Outside.closes {result : Shared μ × Pc} (launching : result.2.launching = none) {sock : Nat}
    (traffic : result.1.toTraffic = sh.toTraffic.closeSock sock) : Outside sh result where
  launching := launching
  sock := by rw [traffic]; rfl
  isOpen := fun other opened => by
    rw [traffic] at opened
    exact sh.toTraffic.closeSock_isOpen sock other opened

/-- The reader does not go on inside of `_launch`. -/
theorem readTop_launching (sh : Shared μ) (buffer : Bytes) (source : Option Nat) :
    (readTop sh buffer source).launching = none ∧ (readBody sh buffer source).launching = none := by
  have body : (readBody sh buffer source).launching = none := by
    unfold readBody
    split <;> rfl
  refine ⟨?_, body⟩
  unfold readTop
  split
  · rfl
  · split
    · exact body
    · rfl

/-- The reader hands lines on and touches no socket. -/
theorem readLines_outside (config : Config μ) {before : Shared μ} (buffer : Bytes) (sock : Nat)
    (lines : List Bytes) (same : before.sock = sh.sock)
    (opened : ∀ sock, (before.conns sock).isOpen = true → (sh.conns sock).isOpen = true) :
    Outside sh (readLines config before buffer sock lines) := by
  induction lines generalizing before with
  | nil => exact ⟨(readTop_launching before buffer (some sock)).1, same, opened⟩
  | cons line lines ih =>
    simp only [readLines]
    split
    · exact ih same opened
    · split
      · exact ih same opened
      · split
        · exact ⟨rfl, same, opened⟩
        · exact ⟨rfl, same, opened⟩

/-- When `_launch` has ended, its caller is not inside of it. -/
theorem launchReturn_launching (sh : Shared μ) (caller : LaunchCaller) :
    (launchReturn sh caller).2.launching = none ∧
      ∀ failure, (launchRaise sh failure caller).2.launching = none := by
  constructor
  · cases caller with
    | launch => rfl
    | write => rfl
    | deadCheck buffer source => exact (readTop_launching sh.release buffer source).2
    | readError sock => exact (readTop_launching sh.release [] (some sock)).1
  · intro failure
    cases failure <;> cases caller <;> rfl

/-- A failed send of a call of `write` that does not call `_launch` closes the socket. -/
theorem writeFailed_outside (config : Config μ) {failure : Failure} {sock number : Nat}
    (stops : failure = .exception → sh.closed = true ∨ sh.connecting = true) :
    Outside sh (Tcp.writeFailed config sh failure sock (.call number)) := by
  cases failure with
  | exception =>
    rw [writeFailed_call, if_pos (stops rfl)]
    exact Outside.closes rfl rfl
  | cancellation =>
    unfold Tcp.writeFailed
    dsimp only
    split
    · exact Outside.closes rfl rfl
    · exact Outside.closes rfl rfl

/-- A call of `write` sends on, or is done. -/
theorem writeData_outside (config : Config μ) {before : Shared μ} {sock number : Nat} {rest : Bytes}
    (same : before.sock = sh.sock)
    (opened : ∀ sock, (before.conns sock).isOpen = true → (sh.conns sock).isOpen = true) :
    Outside sh (Tcp.writeData config before sock rest (.call number)) := by
  unfold Tcp.writeData
  split
  · exact ⟨rfl, same, opened⟩
  · exact ⟨rfl, same, opened⟩

/-- The end of `close`. -/
theorem closeReturn_outside {before : Shared μ} (caller : CloseCaller)
    (same : before.sock = sh.sock)
    (opened : ∀ sock, (before.conns sock).isOpen = true → (sh.conns sock).isOpen = true) :
    Outside sh (closeReturn before caller) := by
  cases caller <;> exact ⟨rfl, same, opened⟩

/-- The reader has read. -/
theorem readData_outside (config : Config μ) {before : Shared μ} (buffer : Bytes) (sock : Nat)
    (data : Bytes) (same : before.sock = sh.sock)
    (opened : ∀ sock, (before.conns sock).isOpen = true → (sh.conns sock).isOpen = true) :
    Outside sh (readData config before buffer sock data) := by
  unfold readData
  split
  · exact readLines_outside config _ sock _ same opened
  · exact ⟨(readTop_launching _ [] (some sock)).1, same, opened⟩

/-- The reader finds the connection dead. -/
theorem deadCheck_outside {config : Config μ} {buffer : Bytes} {source : Option Nat}
    (free : sh.lock = none)
    (quiet : called thread .resumed sh (.deadLock buffer source) = none) :
    Outside sh (deadCheck config { sh with lock := some thread } buffer source) := by
  unfold deadCheck
  split
  · exact Outside.still (readTop_launching _ buffer source).2 rfl
  · rename_i dead
    split
    · rename_i pending
      have dead : sh.alive = false := by simpa using dead
      have waits : sh.reconnectPending = true := pending
      simp only [called, free, dead, waits, and_self, if_true] at quiet
      contradiction
    · exact Outside.still rfl rfl

/-- The reader has failed to read. -/
theorem readError_outside (sh : Shared μ) (thread sock : Nat) :
    Outside sh (readError { sh with lock := some thread } sock) := by
  unfold readError
  split
  · exact Outside.still rfl rfl
  · split
    · exact Outside.closes rfl rfl
    · exact Outside.still (readTop_launching _ [] (some sock)).1 rfl

/-- A cancelled wait does not lead into `_launch`. -/
theorem cancelled_launching {left : Pc} (leads : pc.cancelled = some left) :
    left.launching = none := by
  rcases cancelled_cases leads with rfl | rfl <;> rfl

/-- Without a call of `_launch` nobody gets inside of it, and no socket is opened. -/
theorem step_outside {config : Config μ} {result : Shared μ × Pc} (outside : pc.launching = none)
    (quiet : called thread event sh pc = none)
    (stepped : Tcp.step config thread event sh pc = some result) : Outside sh result := by
  cases step_moves stepped with
  | call method =>
    cases method with
    | write data => exact ⟨rfl, rfl, fun _ opened => opened⟩
    | launch => exact Outside.still rfl rfl
    | close => exact Outside.still rfl rfl
  | start | restart => exact Outside.still (readTop_launching sh [] none).1 rfl
  | cancelled leads => exact Outside.still (cancelled_launching leads) rfl
  | write free =>
    unfold startWrite
    split
    · exact writeData_outside config rfl fun _ opened => opened
    · exact Outside.still rfl rfl
  | @sentNothing target sock rest writer isOpen =>
    cases writer with
    | registration => contradiction
    | call number =>
      refine writeFailed_outside config fun _ => ?_
      simp only [called, isOpen, Nat.zero_le, and_self, if_true] at quiet
      split at quiet
      · assumption
      · contradiction
  | @sent target sock count rest writer isOpen something within =>
    cases writer with
    | registration => contradiction
    | call number =>
      refine writeData_outside config rfl fun other opened => ?_
      rwa [sh.toTraffic.accept_isOpen] at opened
  | @sendLater target sock rest writer =>
    cases writer with
    | registration => contradiction
    | call number => exact Outside.still rfl rfl
  | @sendRaised target sock rest writer failure =>
    cases writer with
    | registration => contradiction
    | call number =>
      refine writeFailed_outside config fun same => ?_
      subst same
      simp only [called] at quiet
      split at quiet
      · assumption
      · contradiction
  | @sendAgain sock rest writer =>
    cases writer with
    | registration => contradiction
    | call number => exact writeData_outside config rfl fun _ opened => opened
  | @sendAgainCancelled sock rest writer =>
    cases writer with
    | registration => contradiction
    | call number => exact writeFailed_outside config nofun
  | launch free =>
    simp only [called, if_pos free] at quiet
    contradiction
  | close => exact ⟨rfl, rfl, fun _ opened => opened⟩
  | @closeCancelled caller | @closeReadersCancelled caller =>
    exact closeReturn_outside caller rfl fun _ opened => opened
  | @closeReaders caller =>
    refine closeReturn_outside caller (closeConnection_flags sh).2.2.1 fun sock opened => ?_
    unfold closeConnection at opened
    split at opened
    · exact sh.toTraffic.closeSock_isOpen _ sock opened
    · exact opened
  | deadCheck free => exact deadCheck_outside free quiet
  | ready =>
    refine Outside.still ?_ rfl
    dsimp only
    split
    · rfl
    · exact (readTop_launching sh _ _).1
  | unready | recvAgain => exact Outside.still (readTop_launching sh _ _).1 rfl
  | selectRaised | receivedNothing | recvLater | recvRaised => exact Outside.still rfl rfl
  | @received buffer data sock something isOpen =>
    refine readData_outside config buffer sock data rfl fun other opened => ?_
    rwa [sh.toTraffic.receive_isOpen] at opened
  | @readError sock free => exact readError_outside sh thread sock
  | relaunch => contradiction
  | relaunchCancelled => exact Outside.still rfl rfl
  | @processed lines buffer sock =>
    exact readLines_outside config buffer sock lines rfl fun _ opened => opened
  | connected | connectRaised | sentHandshake | handshakeRaised | backoff | backoffCancelled =>
    contradiction

end Refinement

end Launch

end DifyPlugin.Tcp
