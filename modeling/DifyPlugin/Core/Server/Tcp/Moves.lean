import DifyPlugin.Core.Server.Tcp.RequestReader

/-!
# The moves of the greenlets

What one step can do, said once: every step of a greenlet is one of a few dozen moves, each from
one blocking point on one event. Whatever is shown of all steps is shown move by move.
-/

namespace DifyPlugin.Tcp

open Decoding

variable {μ : Type}

/-- Where a cancellation leads that ends a wait and nothing else. -/
def Pc.cancelled : Pc → Option Pc
  | .writeLock _ _ | .launchLock => some .idle
  | .deadLock _ _ | .select _ _ | .recv _ _ | .recvAgain _ _ | .errorLock _ | .processing _ _ _
  | .eventSleep => some (.closeLock .eventLoop)
  | _ => none

/-- The moves of a greenlet: an event, the blocking point it is delivered to, and what comes. -/
inductive Moves (config : Config μ) (thread : Nat) (sh : Shared μ) :
    Event → Pc → Shared μ × Pc → Prop where
  /-- A method is called. -/
  | call (method : Call) : Moves config thread sh (.call method) .idle (startCall sh thread method)
  /-- `event_loop` starts. -/
  | start : Moves config thread sh .resumed .starting (sh, readTop sh [] none)
  /-- A wait is cancelled. -/
  | cancelled {pc left : Pc} (leads : pc.cancelled = some left) :
    Moves config thread sh (.raised .cancellation) pc (sh, left)
  /-- `write` has the lock. -/
  | write {number : Nat} {data : Bytes} (free : sh.lock = none) :
    Moves config thread sh .resumed (.writeLock number data)
      (startWrite config { sh with lock := some thread } number data)
  /-- The socket accepted no byte. -/
  | sentNothing {target sock : Nat} {rest : Bytes} {caller : WriteCaller}
    (isOpen : (sh.conns target).isOpen = true) :
    Moves config thread sh (.sent 0) (.send target sock rest caller)
      (writeFailed config sh .exception sock caller)
  /-- The socket accepted some bytes. -/
  | sent {target sock count : Nat} {rest : Bytes} {caller : WriteCaller}
    (isOpen : (sh.conns target).isOpen = true) (something : count ≠ 0)
    (within : count ≤ rest.length) :
    Moves config thread sh (.sent count) (.send target sock rest caller)
      (writeData config { sh with
        toTraffic := sh.toTraffic.accept target (caller.origin thread) (rest.take count) } sock
        (rest.drop count) caller)
  /-- The socket is not writable now. -/
  | sendLater {target sock : Nat} {rest : Bytes} {caller : WriteCaller} :
    Moves config thread sh .again (.send target sock rest caller)
      (sh, .sendAgain sock rest caller)
  /-- The send raised. -/
  | sendRaised {target sock : Nat} {rest : Bytes} {caller : WriteCaller} (failure : Failure) :
    Moves config thread sh (.raised failure) (.send target sock rest caller)
      (writeFailed config sh failure sock caller)
  /-- The send is tried again. -/
  | sendAgain {sock : Nat} {rest : Bytes} {caller : WriteCaller} :
    Moves config thread sh .resumed (.sendAgain sock rest caller)
      (writeData config sh sock rest caller)
  /-- The sleep before the next send is cancelled. -/
  | sendAgainCancelled {sock : Nat} {rest : Bytes} {caller : WriteCaller} :
    Moves config thread sh (.raised .cancellation) (.sendAgain sock rest caller)
      (writeFailed config sh .cancellation sock caller)
  /-- There is a connection. -/
  | connected {attempts : Nat} {caller : LaunchCaller} :
    Moves config thread sh .connected (.connect attempts caller)
      (connected config sh attempts caller)
  /-- There is no connection. -/
  | connectRaised {attempts : Nat} {caller : LaunchCaller} (failure : Failure) :
    Moves config thread sh (.raised failure) (.connect attempts caller)
      (connectFailed config sh failure attempts caller)
  /-- The socket accepted some bytes of the handshake. -/
  | sentHandshake {sock attempts count : Nat} {rest : Bytes} {caller : LaunchCaller}
    (isOpen : (sh.conns sock).isOpen = true) (within : count ≤ rest.length) :
    Moves config thread sh (.sent count) (.handshake sock rest attempts caller)
      (sendHandshake config { sh with toTraffic := sh.toTraffic.accept sock none (rest.take count) }
        sock (rest.drop count) attempts caller)
  /-- The handshake raised. -/
  | handshakeRaised {sock attempts : Nat} {rest : Bytes} {caller : LaunchCaller}
    (failure : Failure) :
    Moves config thread sh (.raised failure) (.handshake sock rest attempts caller)
      (setupFailed config sh failure sock attempts caller)
  /-- `_launch` has slept. -/
  | backoff {attempts : Nat} {caller : LaunchCaller} :
    Moves config thread sh .resumed (.backoff attempts caller)
      (launchLoop config sh attempts caller)
  /-- The sleep of `_launch` is cancelled. -/
  | backoffCancelled {attempts : Nat} {caller : LaunchCaller} :
    Moves config thread sh (.raised .cancellation) (.backoff attempts caller)
      (launchRaise { sh with connecting := false } .cancellation caller)
  /-- `launch` has the lock. -/
  | launch (free : sh.lock = none) :
    Moves config thread sh .resumed .launchLock
      (startConnection config { sh with lock := some thread })
  /-- `close` sets its flag. -/
  | close {caller : CloseCaller} :
    Moves config thread sh .resumed (.closeLock caller)
      ({ sh with closed := true }, .closeReaders caller)
  /-- `close` is cancelled at its lock. -/
  | closeCancelled {caller : CloseCaller} :
    Moves config thread sh (.raised .cancellation) (.closeLock caller) (closeReturn sh caller)
  /-- `close` closes the connection. -/
  | closeReaders {caller : CloseCaller} :
    Moves config thread sh .resumed (.closeReaders caller)
      (closeReturn (closeConnection sh) caller)
  /-- `close` is cancelled at the readers. -/
  | closeReadersCancelled {caller : CloseCaller} :
    Moves config thread sh (.raised .cancellation) (.closeReaders caller) (closeReturn sh caller)
  /-- `_read_stream` has the lock behind its dead check. -/
  | deadCheck {buffer : Bytes} {source : Option Nat} (free : sh.lock = none) :
    Moves config thread sh .resumed (.deadLock buffer source)
      (deadCheck config { sh with lock := some thread } buffer source)
  /-- The socket is readable. -/
  | ready {buffer : Bytes} {sock : Nat} :
    Moves config thread sh .ready (.select buffer sock)
      (sh, if sh.sock = some sock then .recv buffer sock else readNothing sh buffer sock)
  /-- The socket stays unreadable for a second. -/
  | unready {buffer : Bytes} {sock : Nat} :
    Moves config thread sh .resumed (.select buffer sock) (sh, readNothing sh buffer sock)
  /-- Waiting for the socket raised. -/
  | selectRaised {buffer : Bytes} {sock : Nat} :
    Moves config thread sh (.raised .exception) (.select buffer sock) (sh, .errorLock sock)
  /-- The other side has closed. -/
  | receivedNothing {buffer : Bytes} {sock : Nat} :
    Moves config thread sh (.received []) (.recv buffer sock) (sh, .errorLock sock)
  /-- Bytes came. -/
  | received {buffer data : Bytes} {sock : Nat} (something : data ≠ [])
    (isOpen : (sh.conns sock).isOpen = true) :
    Moves config thread sh (.received data) (.recv buffer sock)
      (readData config { sh with toTraffic := sh.toTraffic.receive sock data } buffer sock data)
  /-- No bytes came yet. -/
  | recvLater {buffer : Bytes} {sock : Nat} :
    Moves config thread sh .again (.recv buffer sock) (sh, .recvAgain buffer sock)
  /-- Receiving raised. -/
  | recvRaised {buffer : Bytes} {sock : Nat} :
    Moves config thread sh (.raised .exception) (.recv buffer sock) (sh, .errorLock sock)
  /-- The read is tried again. -/
  | recvAgain {buffer : Bytes} {sock : Nat} :
    Moves config thread sh .resumed (.recvAgain buffer sock) (sh, readNothing sh buffer sock)
  /-- `_read_stream` has the lock after a failed read. -/
  | readError {sock : Nat} (free : sh.lock = none) :
    Moves config thread sh .resumed (.errorLock sock)
      (readError { sh with lock := some thread } sock)
  /-- `_read_stream` has slept after a failed read. -/
  | relaunch {sock : Nat} :
    Moves config thread sh .resumed (.errorSleep sock) (startLaunch config sh (.readError sock))
  /-- The sleep after a failed read is cancelled. -/
  | relaunchCancelled {sock : Nat} :
    Moves config thread sh (.raised .cancellation) (.errorSleep sock)
      (sh.release, .closeLock .eventLoop)
  /-- The consumer is done. -/
  | processed {lines : List Bytes} {buffer : Bytes} {sock : Nat} :
    Moves config thread sh .resumed (.processing lines buffer sock)
      (readLines config sh buffer sock lines)
  /-- `event_loop` has slept. -/
  | restart : Moves config thread sh .resumed .eventSleep (sh, readTop sh [] none)

section Inversion

variable {config : Config μ} {thread : Nat} {sh : Shared μ} {event : Event} {pc : Pc}
  {result moved : Shared μ × Pc}

/-- A cancelled wait ends outside of the reader, or closes it. -/
theorem cancelled_cases {left : Pc} (leads : pc.cancelled = some left) :
    left = .idle ∨ left = .closeLock .eventLoop := by
  cases pc with
  | writeLock | launchLock => exact Or.inl (Option.some.inj leads).symm
  | deadLock | select | recv | recvAgain | errorLock | processing | eventSleep =>
    exact Or.inr (Option.some.inj leads).symm
  | _ => contradiction

/-- Whoever acquires the lock finds it free. -/
theorem acquire_eq_some {body : Shared μ → Shared μ × Pc}
    (acquired : acquire sh thread body = some result) :
    sh.lock = none ∧ result = body { sh with lock := some thread } := by
  unfold acquire at acquired
  split at acquired
  · rename_i free
    exact ⟨free, (Option.some.inj acquired).symm⟩
  · contradiction

/-- A step that leads where a move leads is that move. -/
theorem Moves.of_some (moves : Moves config thread sh event pc moved)
    (stepped : some moved = some result) : Moves config thread sh event pc result :=
  Option.some.inj stepped ▸ moves

/-- A send whose socket accepts bytes is a move. -/
theorem sent_moves {target sock count : Nat} {rest : Bytes} {caller : WriteCaller}
    (accepted : sent config thread sh target sock rest caller count = some result) :
    Moves config thread sh (.sent count) (.send target sock rest caller) result := by
  unfold sent at accepted
  split at accepted
  · rename_i accepts
    split at accepted
    · rename_i nothing
      subst nothing
      exact Moves.of_some (.sentNothing accepts.1) accepted
    · rename_i something
      exact Moves.of_some (.sent accepts.1 something accepts.2) accepted
  · contradiction

/-- A handshake whose socket accepts bytes is a move. -/
theorem sentHandshake_moves {sock attempts count : Nat} {rest : Bytes} {caller : LaunchCaller}
    (accepted : sentHandshake config sh sock rest attempts caller count = some result) :
    Moves config thread sh (.sent count) (.handshake sock rest attempts caller) result := by
  unfold sentHandshake at accepted
  split at accepted
  · rename_i accepts
    exact Moves.of_some (.sentHandshake accepts.1 accepts.2) accepted
  · contradiction

/-- A read that returns is a move. -/
theorem received_moves {buffer data : Bytes} {sock : Nat}
    (returned : received config sh buffer sock data = some result) :
    Moves config thread sh (.received data) (.recv buffer sock) result := by
  unfold received at returned
  split at returned
  · rename_i nothing
    subst nothing
    exact Moves.of_some .receivedNothing returned
  · rename_i something
    split at returned
    · rename_i isOpen
      exact Moves.of_some (.received something isOpen) returned
    · contradiction

/-- Every step is a move. -/
theorem step_moves (stepped : step config thread event sh pc = some result) :
    Moves config thread sh event pc result := by
  revert stepped
  fun_cases step config thread event sh pc with
  | case1 => exact Moves.of_some (.call _)
  | case2 => exact Moves.of_some .start
  | case3 =>
    intro acquired
    obtain ⟨free, rfl⟩ := acquire_eq_some acquired
    exact .write free
  | case4 => exact Moves.of_some (.cancelled rfl)
  | case5 => exact sent_moves
  | case6 => exact Moves.of_some .sendLater
  | case7 => exact Moves.of_some (.sendRaised _)
  | case8 => exact Moves.of_some .sendAgain
  | case9 => exact Moves.of_some .sendAgainCancelled
  | case10 => exact Moves.of_some .connected
  | case11 => exact Moves.of_some (.connectRaised _)
  | case12 => exact sentHandshake_moves
  | case13 => exact Moves.of_some (.handshakeRaised _)
  | case14 => exact Moves.of_some .backoff
  | case15 => exact Moves.of_some .backoffCancelled
  | case16 =>
    intro acquired
    obtain ⟨free, rfl⟩ := acquire_eq_some acquired
    exact .launch free
  | case17 => exact Moves.of_some (.cancelled rfl)
  | case18 => exact Moves.of_some .close
  | case19 => exact Moves.of_some .closeCancelled
  | case20 => exact Moves.of_some .closeReaders
  | case21 => exact Moves.of_some .closeReadersCancelled
  | case22 =>
    intro acquired
    obtain ⟨free, rfl⟩ := acquire_eq_some acquired
    exact .deadCheck free
  | case23 => exact Moves.of_some (.cancelled rfl)
  | case24 => exact Moves.of_some .ready
  | case25 => exact Moves.of_some .unready
  | case26 => exact Moves.of_some .selectRaised
  | case27 => exact Moves.of_some (.cancelled rfl)
  | case28 => exact received_moves
  | case29 => exact Moves.of_some .recvLater
  | case30 => exact Moves.of_some .recvRaised
  | case31 => exact Moves.of_some (.cancelled rfl)
  | case32 => exact Moves.of_some .recvAgain
  | case33 => exact Moves.of_some (.cancelled rfl)
  | case34 =>
    intro acquired
    obtain ⟨free, rfl⟩ := acquire_eq_some acquired
    exact .readError free
  | case35 => exact Moves.of_some (.cancelled rfl)
  | case36 => exact Moves.of_some .relaunch
  | case37 => exact Moves.of_some .relaunchCancelled
  | case38 => exact Moves.of_some .processed
  | case39 => exact Moves.of_some (.cancelled rfl)
  | case40 => exact Moves.of_some .restart
  | case41 => exact Moves.of_some (.cancelled rfl)
  | case42 => exact nofun

end Inversion

end DifyPlugin.Tcp
