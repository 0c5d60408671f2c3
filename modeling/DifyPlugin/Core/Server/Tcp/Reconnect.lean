import DifyPlugin.Core.Server.Tcp.Streams

/-!
# Reconnecting

Whether the reader reconnects after a write was cancelled. A cancelled `write` sets
`_reconnect_pending` and leaves the reconnect to the reader, but only when it was cancelled while
sending. When it is cancelled inside of the `_launch` that it runs after a failed send, the
connection stays dead with nothing pending, and the reader closes although attempts are left.
In every run without such a cancellation the reader closes only after a round has used up its
attempts, and until then a dead connection is being reconnected or has a reconnect pending.
-/

namespace DifyPlugin.Tcp

open Interleaving Decoding

variable {μ : Type}

/-- A greenlet that blocks here is reconnecting. -/
def Pc.reconnecting : Pc → Bool
  | .connect .. | .handshake .. | .backoff .. | .errorSleep _ => true
  | .send _ _ _ caller | .sendAgain _ _ caller => caller.registering
  | _ => false

/-- A greenlet that blocks here closes or launches the reader. -/
def Pc.restarting : Pc → Bool
  | .closeLock _ | .closeReaders _ | .launchLock => true
  | _ => false

/-- The reader has been connected, and nobody is about to close or launch it. -/
structure Connected (pool : Pool (Shared μ) Pc) : Prop where
  /-- The connection is alive. -/
  alive : pool.shared.alive = true
  /-- Nobody is setting it up. -/
  connecting : pool.shared.connecting = false
  /-- The reader is not closed. -/
  closed : pool.shared.closed = false
  /-- Nobody closes or launches the reader. -/
  settled : ∀ thread, (pool.control thread).restarting = false

/-- Greenlets call `write` only, and a cancellation is delivered to a writer only. -/
def writersOnly (_ : Pool (Shared μ) Pc) (thread : Nat) : Event → Bool
  | .call .launch | .call .close => false
  | .raised .cancellation => thread ≠ 0
  | _ => true

/-- No cancellation is delivered to a writer that is reconnecting, unless some round has used up
its attempts before. -/
def sparesReconnect (pool : Pool (Shared μ) Pc) (thread : Nat) (event : Event) : Bool :=
  writersOnly pool thread event &&
    (pool.shared.exhausted || !(pool.control thread).reconnecting ||
      event ≠ .raised .cancellation)

/-- The reader closes only after some round has used up its attempts; until then a dead
connection is being reconnected, or the reader is going to reconnect it. -/
def Recovers (pool : Pool (Shared μ) Pc) : Prop :=
  (pool.shared.closed = true → pool.shared.exhausted = true) ∧
    (pool.shared.alive = false → pool.shared.exhausted = true ∨
      pool.shared.reconnectPending = true ∨
      ∃ thread, (pool.control thread).reconnecting = true)

/-- What a greenlet knows about the flags where it blocks. -/
def Excused (sh : Shared μ) : Pc → Prop
  | .send .. | .sendAgain .. | .handshake .. => sh.alive = true ∨ sh.exhausted = true
  | .closeLock _ | .closeReaders _ => sh.exhausted = true
  | .launchLock => False
  | _ => True

/-- What the code between two blocking points relies on; `spent` tells whether a round had used
up its attempts before. -/
structure Going (spent : Bool) (sh : Shared μ) : Prop where
  /-- The reader closes only after some round has used up its attempts. -/
  closed : sh.closed = true → sh.exhausted = true
  /-- No attempts come back. -/
  spent : spent = true → sh.exhausted = true

/-- Nobody leaves a dead connection without a reconnect. -/
def Attended (sh : Shared μ) : Prop :=
  sh.alive = false → sh.exhausted = true ∨ sh.reconnectPending = true

/-- Where the code between two blocking points has to arrive. -/
structure Gone (spent : Bool) (result : Shared μ × Pc) : Prop where
  /-- The flags are as they have to be. -/
  going : Going spent result.1
  /-- Nobody has left a dead connection without a reconnect. -/
  attended : result.1.lock = none → Attended result.1
  /-- The greenlet knows what it has to know. -/
  excused : Excused result.1 result.2

section Between

variable {config : Config μ} {spent : Bool} {sh : Shared μ}

/-- An exhausted round excuses everything. -/
theorem attended_exhausted (exhausted : sh.exhausted = true) : Attended sh :=
  fun _ => Or.inl exhausted

/-- A connection that is alive needs no reconnect. -/
theorem attended_alive (alive : sh.alive = true ∨ sh.exhausted = true) : Attended sh := by
  intro dead
  rcases alive with alive | exhausted
  · rw [dead] at alive
    contradiction
  · exact Or.inl exhausted

/-- The reader goes to the top of its loop. -/
theorem readTop_excused (closed : sh.closed = true → sh.exhausted = true) {buffer : Bytes}
    {source : Option Nat} : Excused sh (readTop sh buffer source) := by
  unfold readTop readBody
  split
  · rename_i stops
    exact closed stops
  · split
    · split <;> trivial
    · trivial

/-- `_launch` returns. -/
theorem launchReturn_gone (going : Going spent sh) (attended : Attended sh)
    {caller : LaunchCaller} : Gone spent (launchReturn sh caller) := by
  have released : Going spent sh.release := ⟨going.closed, going.spent⟩
  cases caller with
  | launch => exact ⟨released, fun _ => attended, trivial⟩
  | write => exact ⟨released, fun _ => attended, trivial⟩
  | deadCheck buffer source =>
    refine ⟨released, fun _ => attended, ?_⟩
    simp only [launchReturn, readBody]
    split <;> trivial
  | readError sock => exact ⟨released, fun _ => attended, readTop_excused going.closed⟩

/-- `_launch` raises after some round has used up its attempts. -/
theorem launchRaise_gone (going : Going spent sh) (exhausted : sh.exhausted = true)
    {failure : Failure} {caller : LaunchCaller} : Gone spent (launchRaise sh failure caller) := by
  have released : Going spent sh.release := ⟨going.closed, going.spent⟩
  have attended : sh.release.lock = none → Attended sh.release :=
    fun _ => attended_exhausted exhausted
  cases failure with
  | exception =>
    cases caller <;> exact ⟨released, attended, trivial⟩
  | cancellation =>
    cases caller with
    | launch => exact ⟨released, attended, trivial⟩
    | write => exact ⟨released, attended, trivial⟩
    | deadCheck buffer source => exact ⟨released, attended, exhausted⟩
    | readError sock => exact ⟨released, attended, exhausted⟩

/-- `_launch` goes on to its next attempt, or ends. -/
theorem launchLoop_gone (going : Going spent sh) (locked : sh.lock ≠ none) {attempts : Nat}
    {caller : LaunchCaller} : Gone spent (launchLoop config sh attempts caller) := by
  unfold launchLoop
  split
  · exact ⟨going, fun free => absurd free locked, trivial⟩
  · rename_i ends
    -- Either the reader is closed, or this round has used up its attempts.
    have exhausted :
        (sh.exhausted || decide (config.reconnectAttempts ≤ attempts)) = true := by
      by_cases left : attempts < config.reconnectAttempts
      · have closed : sh.closed = true := by simpa [left] using ends
        simp [going.closed closed]
      · simp [Nat.not_lt.mp left]
    have ended : Going spent
        { sh with
          connecting := false
          exhausted := sh.exhausted || decide (config.reconnectAttempts ≤ attempts) } :=
      ⟨fun _ => exhausted, fun _ => exhausted⟩
    exact launchReturn_gone ended (attended_exhausted exhausted)

/-- `_launch` is called. -/
theorem startLaunch_gone (going : Going spent sh) (locked : sh.lock ≠ none)
    {caller : LaunchCaller} : Gone spent (startLaunch config sh caller) := by
  unfold startLaunch
  split
  · rename_i needless
    apply launchReturn_gone going
    apply attended_alive
    exact needless.imp_right going.closed
  · apply launchLoop_gone
    · exact ⟨going.closed, going.spent⟩
    · exact locked

/-- An attempt to connect failed. -/
theorem connectFailed_gone (going : Going spent sh) (locked : sh.lock ≠ none) {failure : Failure}
    (spared : failure = .cancellation → sh.exhausted = true) {attempts : Nat}
    {caller : LaunchCaller} :
    Gone spent (connectFailed config sh failure attempts caller) := by
  cases failure with
  | cancellation =>
    apply launchRaise_gone
    · exact ⟨going.closed, going.spent⟩
    · exact spared rfl
  | exception =>
    simp only [connectFailed]
    split
    · have ended : Going spent { sh with connecting := false, exhausted := true } :=
        ⟨fun _ => rfl, fun _ => rfl⟩
      exact launchRaise_gone ended rfl
    · exact ⟨going, fun free => absurd free locked, trivial⟩

/-- The handshake or the registration failed. -/
theorem setupFailed_gone (going : Going spent sh) (locked : sh.lock ≠ none) {failure : Failure}
    (spared : failure = .cancellation → sh.exhausted = true) {sock attempts : Nat}
    {caller : LaunchCaller} :
    Gone spent (setupFailed config sh failure sock attempts caller) := by
  apply connectFailed_gone
  · exact ⟨going.closed, going.spent⟩
  · exact locked
  · exact spared

/-- `on_connected` writes what is left of the registration. -/
theorem register_gone (going : Going spent sh) (locked : sh.lock ≠ none)
    (alive : sh.alive = true ∨ sh.exhausted = true) {sock attempts : Nat}
    {caller : LaunchCaller} {frames : List Bytes} :
    Gone spent (register config sh sock attempts caller frames) := by
  induction frames with
  | nil =>
    apply launchReturn_gone
    · exact ⟨going.closed, going.spent⟩
    · exact attended_alive alive
  | cons frame frames ih =>
    simp only [register]
    split
    · split
      · exact ih
      · exact ⟨going, fun free => absurd free locked, alive⟩
    · exact setupFailed_gone going locked (by simp)

/-- `_connect_once` sends what is left of the handshake. -/
theorem sendHandshake_gone (going : Going spent sh) (locked : sh.lock ≠ none)
    (alive : sh.alive = true ∨ sh.exhausted = true) {sock : Nat} {rest : Bytes}
    {attempts : Nat} {caller : LaunchCaller} :
    Gone spent (sendHandshake config sh sock rest attempts caller) := by
  unfold sendHandshake
  split
  · exact register_gone going locked alive
  · exact ⟨going, fun free => absurd free locked, alive⟩

/-- `_connect_once` has a connection. -/
theorem connected_gone (going : Going spent sh) (locked : sh.lock ≠ none) {attempts : Nat}
    {caller : LaunchCaller} : Gone spent (connected config sh attempts caller) := by
  unfold connected
  dsimp only
  split
  · rename_i closed
    apply launchReturn_gone
    · exact ⟨going.closed, going.spent⟩
    · exact attended_exhausted (going.closed closed)
  · apply sendHandshake_gone
    · exact ⟨going.closed, going.spent⟩
    · exact locked
    · exact Or.inl rfl

/-- `write` returns. -/
theorem writeReturn_gone (going : Going spent sh) (locked : sh.lock ≠ none)
    (alive : sh.alive = true ∨ sh.exhausted = true) {caller : WriteCaller} :
    Gone spent (writeReturn config sh caller) := by
  cases caller with
  | call number =>
    exact ⟨⟨going.closed, going.spent⟩, fun _ => attended_alive alive, trivial⟩
  | registration sock attempts frames caller =>
    exact register_gone going locked alive

/-- `write` raises. -/
theorem writeRaise_gone (going : Going spent sh) (locked : sh.lock ≠ none) {failure : Failure}
    {caller : WriteCaller} (attended : caller.registering = false → Attended sh)
    (spared : caller.registering = true → failure = .cancellation → sh.exhausted = true) :
    Gone spent (writeRaise config sh failure caller) := by
  cases caller with
  | call number => exact ⟨⟨going.closed, going.spent⟩, fun _ => attended rfl, trivial⟩
  | registration sock attempts frames caller =>
    exact setupFailed_gone going locked (spared rfl)

/-- Sending failed. -/
theorem writeFailed_gone (going : Going spent sh) (locked : sh.lock ≠ none)
    {caller : WriteCaller} (connecting : sh.connecting = caller.registering) {failure : Failure}
    (spared : caller.registering = true → failure = .cancellation → sh.exhausted = true)
    {sock : Nat} : Gone spent (writeFailed config sh failure sock caller) := by
  unfold writeFailed
  dsimp only
  split
  · rename_i outer
    apply writeRaise_gone
    · exact ⟨going.closed, going.spent⟩
    · exact locked
    · intro ordinary
      rcases outer with closed | inside
      · exact attended_exhausted (going.closed closed)
      · have idle : sh.connecting = false := connecting.trans ordinary
        have busy : sh.connecting = true := inside
        rw [idle] at busy
        contradiction
    · exact spared
  · rename_i outer
    have ordinary : caller.registering = false := by
      rw [← connecting]
      simpa [Shared.closeSock] using (not_or.mp outer).2
    cases caller with
    | registration => simp [WriteCaller.registering] at ordinary
    | call number =>
      cases failure with
      | cancellation =>
        apply writeRaise_gone
        · exact ⟨going.closed, going.spent⟩
        · exact locked
        · exact fun _ _ => Or.inr rfl
        · simp [WriteCaller.registering]
      | exception =>
        apply startLaunch_gone
        · exact ⟨going.closed, going.spent⟩
        · exact locked

/-- `_write_data` goes on, or is done. -/
theorem writeData_gone (going : Going spent sh) (locked : sh.lock ≠ none)
    (alive : sh.alive = true ∨ sh.exhausted = true) {sock : Nat} {rest : Bytes}
    {caller : WriteCaller} : Gone spent (writeData config sh sock rest caller) := by
  unfold writeData
  split
  · exact writeReturn_gone going locked alive
  · exact ⟨going, fun free => absurd free locked, alive⟩

/-- `write` has the lock. -/
theorem startWrite_gone (going : Going spent sh) (locked : sh.lock ≠ none)
    (attended : Attended sh) {number : Nat} {data : Bytes} :
    Gone spent (startWrite config sh number data) := by
  unfold startWrite
  split
  · rename_i alive _
    exact writeData_gone going locked (Or.inl alive)
  · exact ⟨⟨going.closed, going.spent⟩, fun _ => attended, trivial⟩

/-- `_read_stream` has the lock after it found the connection dead. -/
theorem deadCheck_gone (going : Going spent sh) (locked : sh.lock ≠ none)
    (attended : Attended sh) {buffer : Bytes} {source : Option Nat} :
    Gone spent (deadCheck config sh buffer source) := by
  unfold deadCheck
  split
  · exact @launchReturn_gone μ _ _ going attended (.deadCheck buffer source)
  · rename_i dead
    split
    · exact startLaunch_gone going locked
    · rename_i nothing
      refine ⟨going, fun free => absurd free locked, ?_⟩
      exact (attended (by simpa using dead)).resolve_right nothing

/-- `_read_stream` has the lock after a failed read. -/
theorem readError_gone (going : Going spent sh) (locked : sh.lock ≠ none)
    (attended : Attended sh) {sock : Nat} : Gone spent (readError sh sock) := by
  unfold readError
  split
  · rename_i closed
    exact ⟨⟨going.closed, going.spent⟩, fun _ => attended, going.closed closed⟩
  · split
    · exact ⟨⟨going.closed, going.spent⟩, fun free => absurd free locked, trivial⟩
    · exact @launchReturn_gone μ _ _ going attended (.readError sock)

/-- `close` returns, after some round has used up its attempts. -/
theorem closeReturn_gone (going : Going spent sh) (exhausted : sh.exhausted = true)
    {caller : CloseCaller} : Gone spent (closeReturn sh caller) := by
  have attended : Attended sh := attended_exhausted exhausted
  cases caller with
  | call => exact ⟨going, fun _ => attended, trivial⟩
  | readStream => exact ⟨⟨going.closed, going.spent⟩, fun _ => attended, exhausted⟩
  | eventLoop => exact ⟨going, fun _ => attended, trivial⟩

/-- The reader goes over complete lines. -/
theorem readLines_gone (going : Going spent sh) (attended : sh.lock = none → Attended sh)
    {buffer : Bytes} {sock : Nat} {lines : List Bytes} :
    Gone spent (readLines config sh buffer sock lines) := by
  induction lines generalizing sh with
  | nil => exact ⟨going, attended, readTop_excused going.closed⟩
  | cons line lines ih =>
    simp only [readLines]
    split
    · exact ih going attended
    · split
      · apply ih
        · exact ⟨going.closed, going.spent⟩
        · exact attended
      · split
        · rename_i closed
          exact ⟨⟨going.closed, going.spent⟩, attended, going.closed closed⟩
        · exact ⟨⟨going.closed, going.spent⟩, attended, trivial⟩

end Between

/-- What holds of the flags between two steps. -/
structure Watched (sh : Shared μ) : Prop where
  /-- The reader closes only after some round has used up its attempts. -/
  closed : sh.closed = true → sh.exhausted = true
  /-- Nobody has left a dead connection without a reconnect. -/
  attended : sh.lock = none → Attended sh

/-- Where a step has to lead. -/
structure Advanced (thread : Nat) (sh : Shared μ) (result : Shared μ × Pc) : Prop where
  /-- The flags are as they have to be. -/
  gone : Gone sh.exhausted result
  /-- A greenlet that sends keeps its connection. -/
  kept : ∀ other ≠ thread, sh.lock = some other → sh.alive = true →
    result.1.alive = true ∨ result.1.exhausted = true

/-- The events that the condition allows at a blocking point. -/
structure Allowed (thread : Nat) (sh : Shared μ) (pc : Pc) (event : Event) : Prop where
  /-- Nobody launches the reader. -/
  launch : event ≠ .call .launch
  /-- Nobody closes the reader. -/
  close : event ≠ .call .close
  /-- The reader is not cancelled. -/
  writer : event = .raised .cancellation → thread ≠ 0
  /-- A writer that reconnects is not cancelled. -/
  spared : event = .raised .cancellation → pc.reconnecting = true → sh.exhausted = true

section Steps

variable {config : Config μ} {thread : Nat} {sh : Shared μ} {pc : Pc} {event : Event}
  {result : Shared μ × Pc}

/-- The condition allows an event at the blocking point where it is delivered. -/
theorem sparesReconnect_allowed {pool : Pool (Shared μ) Pc}
    (allowed : sparesReconnect pool thread event = true) :
    Allowed thread pool.shared (pool.control thread) event := by
  simp only [sparesReconnect, Bool.and_eq_true, Bool.or_eq_true, Bool.not_eq_true',
    decide_eq_true_eq] at allowed
  obtain ⟨domain, spared⟩ := allowed
  refine ⟨?_, ?_, ?_, ?_⟩
  · rintro rfl
    contradiction
  · rintro rfl
    contradiction
  · rintro rfl
    simpa [writersOnly] using domain
  · rintro rfl reconnecting
    simpa [reconnecting] using spared

/-- The code between two blocking points may rely on the flags. -/
theorem Watched.going (watched : Watched sh) : Going sh.exhausted sh :=
  ⟨watched.closed, fun spent => spent⟩

/-- A step of a greenlet that holds the lock. -/
theorem Gone.advanced (gone : Gone sh.exhausted result) (lock : sh.lock = some thread) :
    Advanced thread sh result := by
  refine ⟨gone, ?_⟩
  intro other distinct holds
  exact absurd (Option.some.inj (lock.symm.trans holds)).symm distinct

/-- A step that changes the blocking point only. -/
theorem advanced_same (watched : Watched sh) (excused : Excused sh pc) :
    Advanced thread sh (sh, pc) :=
  ⟨⟨watched.going, watched.attended, excused⟩, fun _ _ _ alive => Or.inl alive⟩

/-- A step of a greenlet that finds the lock free. -/
theorem Gone.acquired (gone : Gone sh.exhausted result) (free : sh.lock = none) :
    Advanced thread sh result := by
  refine ⟨gone, ?_⟩
  intro other _ holds
  rw [free] at holds
  contradiction

/-- Once some round has used up its attempts, any connection may be closed. -/
theorem Gone.advanced_exhausted (gone : Gone sh.exhausted result)
    (exhausted : sh.exhausted = true) : Advanced thread sh result :=
  ⟨gone, fun _ _ _ _ => Or.inr (gone.going.spent exhausted)⟩

/-- `close` sets its flag. -/
theorem close_advances {caller : CloseCaller} (exhausted : sh.exhausted = true) :
    Advanced thread sh ({ sh with closed := true }, .closeReaders caller) := by
  have closed : Going sh.exhausted { sh with closed := true } :=
    ⟨fun _ => exhausted, fun spent => spent⟩
  have gone : Gone sh.exhausted ({ sh with closed := true }, .closeReaders caller) :=
    ⟨closed, fun _ => attended_exhausted exhausted, exhausted⟩
  exact gone.advanced_exhausted exhausted

/-- `close` closes the connection. -/
theorem closeReaders_advances {caller : CloseCaller} (exhausted : sh.exhausted = true) :
    Advanced thread sh (closeReturn (closeConnection sh) caller) := by
  have still : (closeConnection sh).exhausted = true := by
    unfold closeConnection
    split <;> exact exhausted
  exact (closeReturn_gone ⟨fun _ => still, fun _ => still⟩ still).advanced_exhausted exhausted

/-- Handing lines on does not end the connection. -/
theorem readLines_alive (config : Config μ) (sh : Shared μ) (buffer : Bytes) (sock : Nat)
    (lines : List Bytes) : (readLines config sh buffer sock lines).1.alive = sh.alive := by
  induction lines generalizing sh with
  | nil => rfl
  | cons line lines ih =>
    simp only [readLines]
    split
    · exact ih sh
    · split
      · exact ih _
      · split <;> rfl

/-- The reader goes over complete lines and leaves the flags alone. -/
theorem readLines_advanced {spent : Shared μ} (going : Going spent.exhausted sh)
    (attended : sh.lock = none → Attended sh) (alive : spent.alive = true → sh.alive = true)
    {buffer : Bytes} {sock : Nat} {lines : List Bytes} :
    Advanced thread spent (readLines config sh buffer sock lines) := by
  refine ⟨readLines_gone going attended, ?_⟩
  intro _ _ _ before
  rw [readLines_alive]
  exact Or.inl (alive before)

/-- The reader goes to the top of its loop. -/
theorem readTop_advances (watched : Watched sh) (buffer : Bytes) (source : Option Nat) :
    Advanced thread sh (sh, readTop sh buffer source) :=
  advanced_same watched (readTop_excused watched.closed)

/-- The reader has read. -/
theorem readData_advances (watched : Watched sh) {buffer data : Bytes} {sock : Nat} :
    Advanced thread sh (readData config
      { sh with toTraffic := sh.toTraffic.receive sock data } buffer sock data) := by
  have arrived : Going sh.exhausted { sh with toTraffic := sh.toTraffic.receive sock data } :=
    ⟨watched.closed, fun spent => spent⟩
  unfold readData
  split
  · exact readLines_advanced arrived watched.attended fun alive => alive
  · exact ⟨⟨arrived, watched.attended, readTop_excused watched.closed⟩,
      fun _ _ _ alive => Or.inl alive⟩

/-- A cancelled wait is that of a writer for the lock. -/
theorem cancelled_advances {left : Pc} (watched : Watched sh) (arrives : At config thread sh pc)
    (excused : Excused sh pc) (allowed : Allowed thread sh pc (.raised .cancellation))
    (leads : pc.cancelled = some left) : Advanced thread sh (sh, left) := by
  have writer : thread ≠ 0 := allowed.writer rfl
  cases pc with
  | writeLock number data =>
    obtain rfl := Option.some.inj leads
    exact advanced_same watched trivial
  | launchLock => exact excused.elim
  | errorLock sock => exact absurd arrives.known.1 writer
  | deadLock | select | recv | recvAgain | processing | eventSleep =>
    exact absurd (arrives.resumes _ _ rfl).1 writer
  | _ => contradiction

/-- Every step that the condition allows leads where it has to lead. -/
theorem step_advanced (watched : Watched sh) (arrives : At config thread sh pc)
    (excused : Excused sh pc) (allowed : Allowed thread sh pc event)
    (stepped : step config thread event sh pc = some result) : Advanced thread sh result := by
  have lock : pc.holdsLock = true → sh.lock = some thread := arrives.lock.mpr
  have locked : pc.holdsLock = true → sh.lock ≠ none := fun holds => by simp [lock holds]
  have going : Going sh.exhausted { sh with lock := some thread } :=
    ⟨watched.closed, fun spent => spent⟩
  cases step_moves stepped with
  | call method =>
    cases method with
    | write data => exact ⟨⟨⟨watched.closed, fun spent => spent⟩, watched.attended, trivial⟩,
        fun _ _ _ alive => Or.inl alive⟩
    | launch => exact absurd rfl allowed.launch
    | close => exact absurd rfl allowed.close
  | start | restart | unready | recvAgain => exact readTop_advances watched _ _
  | cancelled leads => exact cancelled_advances watched arrives excused allowed leads
  | write free => exact (startWrite_gone going (by simp) (watched.attended free)).acquired free
  | sentNothing isOpen =>
    have connecting := arrives.known.2.connecting
    exact (writeFailed_gone watched.going (locked rfl) connecting (by simp)).advanced (lock rfl)
  | sent isOpen something within =>
    refine Gone.advanced ?_ (lock rfl)
    apply writeData_gone
    · exact ⟨watched.closed, fun spent => spent⟩
    · exact locked rfl
    · exact excused
  | sendLater => exact advanced_same watched excused
  | sendRaised failure =>
    have connecting := arrives.known.2.connecting
    refine (writeFailed_gone watched.going (locked rfl) connecting ?_).advanced (lock rfl)
    rintro registering rfl
    exact allowed.spared rfl registering
  | sendAgain => exact (writeData_gone watched.going (locked rfl) excused).advanced (lock rfl)
  | sendAgainCancelled =>
    have connecting := arrives.known.connecting
    refine (writeFailed_gone watched.going (locked rfl) connecting ?_).advanced (lock rfl)
    rintro registering -
    exact allowed.spared rfl registering
  | connected => exact (connected_gone watched.going (locked rfl)).advanced (lock rfl)
  | connectRaised failure =>
    refine (connectFailed_gone watched.going (locked rfl) ?_).advanced (lock rfl)
    rintro rfl
    exact allowed.spared rfl rfl
  | sentHandshake isOpen within =>
    refine Gone.advanced ?_ (lock rfl)
    apply sendHandshake_gone
    · exact ⟨watched.closed, fun spent => spent⟩
    · exact locked rfl
    · exact excused
  | handshakeRaised failure =>
    refine (setupFailed_gone watched.going (locked rfl) ?_).advanced (lock rfl)
    rintro rfl
    exact allowed.spared rfl rfl
  | backoff => exact (launchLoop_gone watched.going (locked rfl)).advanced (lock rfl)
  | @backoffCancelled attempts caller =>
    have gone : Gone sh.exhausted (connectFailed config sh .cancellation attempts caller) :=
      connectFailed_gone watched.going (locked rfl) fun _ => allowed.spared rfl rfl
    exact gone.advanced (lock rfl)
  | launch free => exact excused.elim
  | close => exact close_advances excused
  | closeCancelled | closeReadersCancelled =>
    exact (closeReturn_gone watched.going excused).advanced_exhausted excused
  | closeReaders => exact closeReaders_advances excused
  | deadCheck free => exact (deadCheck_gone going (by simp) (watched.attended free)).acquired free
  | ready =>
    split
    · exact advanced_same watched trivial
    · exact readTop_advances watched _ _
  | selectRaised | receivedNothing | recvLater | recvRaised => exact advanced_same watched trivial
  | received something isOpen => exact readData_advances watched
  | readError free => exact (readError_gone going (by simp) (watched.attended free)).acquired free
  | relaunch => exact (startLaunch_gone watched.going (locked rfl)).advanced (lock rfl)
  | relaunchCancelled => exact absurd (arrives.resumes _ _ rfl).1 (allowed.writer rfl)
  | processed => exact readLines_advanced watched.going watched.attended fun alive => alive

end Steps

section Runs

variable {config : Config μ}

/-- All assertions about a pool in which the condition has been met so far. -/
structure Steady (config : Config μ) (pool : Pool (Shared μ) Pc) : Prop where
  /-- The assertions about the lock and the sockets. -/
  holds : (assertions config).Holds pool
  /-- The assertion about the flags. -/
  watched : Watched pool.shared
  /-- What every greenlet knows about the flags. -/
  excused : ∀ thread, Excused pool.shared (pool.control thread)

/-- A greenlet keeps what it knows about the flags when another one moves. -/
theorem Excused.kept {thread other : Nat} {sh : Shared μ} {pc : Pc} {result : Shared μ × Pc}
    (excused : Excused sh pc) (arrives : At config other sh pc)
    (advanced : Advanced thread sh result) (distinct : other ≠ thread) :
    Excused result.1 pc := by
  have spent := advanced.gone.going.spent
  have alive : pc.holdsLock = true → sh.alive = true ∨ sh.exhausted = true →
      result.1.alive = true ∨ result.1.exhausted = true := by
    intro holds known
    rcases known with alive | exhausted
    · exact advanced.kept other distinct (arrives.lock.mpr holds) alive
    · exact Or.inr (spent exhausted)
  cases pc with
  | send target sock rest caller => exact alive rfl excused
  | sendAgain sock rest caller => exact alive rfl excused
  | handshake sock rest attempts caller => exact alive rfl excused
  | closeLock caller => exact spent excused
  | closeReaders caller => exact spent excused
  | launchLock => exact excused
  | _ => trivial

/-- A step that the condition allows keeps all assertions. -/
theorem fire_steady {pool next : Pool (Shared μ) Pc} {thread : Nat} {event : Event}
    (steady : Steady config pool) (allowed : sparesReconnect pool thread event = true)
    (fired : (machine config).fire pool thread event = some next) : Steady config next := by
  have holds := fire_holds steady.holds fired
  obtain ⟨shared, point, stepped, rfl⟩ := Machine.fire_eq_some fired
  have advanced := step_advanced steady.watched (steady.holds.2 thread) (steady.excused thread)
    (sparesReconnect_allowed allowed) stepped
  refine ⟨holds, ⟨advanced.gone.going.closed, advanced.gone.attended⟩, ?_⟩
  intro other
  by_cases same : other = thread
  · subst same
    simpa only [Function.update_self] using advanced.gone.excused
  · simpa only [Function.update_of_ne same] using
      (steady.excused other).kept (steady.holds.2 other) advanced same

/-- A connected reader is steady. -/
theorem Connected.steady {pool : Pool (Shared μ) Pc} (connected : Connected pool)
    (holds : (assertions config).Holds pool) : Steady config pool := by
  obtain ⟨alive, -, closed, settled⟩ := connected
  refine ⟨holds, ⟨?_, fun _ => attended_alive (Or.inl alive)⟩, ?_⟩
  · intro stopped
    rw [closed] at stopped
    contradiction
  · intro thread
    have waits := settled thread
    cases point : pool.control thread with
    | send => exact Or.inl alive
    | sendAgain => exact Or.inl alive
    | handshake => exact Or.inl alive
    | closeLock => simp [point, Pc.restarting] at waits
    | closeReaders => simp [point, Pc.restarting] at waits
    | launchLock => simp [point, Pc.restarting] at waits
    | _ => trivial

/-- In a steady pool a dead connection has somebody who reconnects it. -/
theorem Steady.recovers {pool : Pool (Shared μ) Pc} (steady : Steady config pool) :
    Recovers pool := by
  refine ⟨steady.watched.closed, ?_⟩
  intro dead
  cases lock : pool.shared.lock with
  | none =>
    rcases steady.watched.attended lock dead with exhausted | pending
    · exact Or.inl exhausted
    · exact Or.inr (Or.inl pending)
  | some thread =>
    have arrives := steady.holds.2 thread
    have holds := arrives.lock.mp lock
    have excused := steady.excused thread
    have known := arrives.known
    have reconnects : (pool.control thread).reconnecting = true →
        pool.shared.exhausted = true ∨ pool.shared.reconnectPending = true ∨
          ∃ thread, (pool.control thread).reconnecting = true :=
      fun reconnecting => Or.inr (Or.inr ⟨thread, reconnecting⟩)
    have closes : pool.shared.alive = true ∨ pool.shared.exhausted = true →
        pool.shared.exhausted = true ∨ pool.shared.reconnectPending = true ∨
          ∃ thread, (pool.control thread).reconnecting = true := by
      rintro (alive | exhausted)
      · rw [dead] at alive
        contradiction
      · exact Or.inl exhausted
    cases point : pool.control thread with
    | connect => exact reconnects (by rw [point]; rfl)
    | handshake => exact reconnects (by rw [point]; rfl)
    | backoff => exact reconnects (by rw [point]; rfl)
    | errorSleep => exact reconnects (by rw [point]; rfl)
    | send => exact closes (by rw [point] at excused; exact excused)
    | sendAgain => exact closes (by rw [point] at excused; exact excused)
    | closeLock => exact closes (Or.inr (by rw [point] at excused; exact excused))
    | closeReaders => exact closes (Or.inr (by rw [point] at excused; exact excused))
    | nestedLaunch =>
      rw [point] at known
      exact known.elim
    | _ => simp [point, Pc.holdsLock] at holds

/-- After the reader has been connected, in every run in which greenlets only write, and in which
no writer is cancelled while it reconnects, the reader closes only after some round has used up
its attempts, and until then somebody reconnects a dead connection. -/
theorem readStream_recovers (config : Config μ) (start schedule : List (Nat × Event))
    (middle last : Pool (Shared μ) Pc)
    (reached : (machine config).run initial start = some middle) (connected : Connected middle)
    (spared : (machine config).follows sparesReconnect middle schedule = true)
    (ran : (machine config).run middle schedule = some last) : Recovers last := by
  have steady : Steady config last :=
    Machine.run_preserves (fun _ _ _ _ steady allowed fired => fire_steady steady allowed fired)
      middle schedule last (connected.steady (run_holds start middle reached)) spared ran
  exact steady.recovers

/-- A writer is cancelled within its payload, and the reader is left to reconnect. -/
def cancelledSend : List (Nat × Event) :=
  [(0, .resumed), (2, .call (.write [87, 88])), (2, .resumed), (2, .sent 1),
    (2, .raised .cancellation)]

/-- A writer is cancelled while it reconnects after a failed send, and the reader finds a dead
connection. -/
def cancelledReconnect : List (Nat × Event) :=
  [(0, .resumed), (2, .call (.write [87, 88])), (2, .resumed), (2, .raised .exception),
    (2, .raised .cancellation), (0, .resumed), (0, .resumed), (0, .resumed)]

/-- The reader after `launching`. -/
def launched : Pool (Shared Bytes) Pc := ((machine example₁).run initial launching).getD initial

/-- The run to it. -/
theorem launching_run : (machine example₁).run initial launching = some launched := rfl

/-- The reader is connected after it was launched. -/
theorem launched_connected : Connected launched where
  alive := rfl
  connecting := rfl
  closed := rfl
  settled := by
    intro thread
    match thread with
    | 0 => rfl
    | 1 => rfl
    | thread + 2 => rfl

/-- A reconnect is pending after a writer was cancelled within its payload. -/
theorem readStream_recovers_pending :
    ∃ last, (machine example₁).run launched cancelledSend = some last ∧
      last.shared.alive = false ∧ last.shared.reconnectPending = true ∧ Recovers last :=
  ⟨_, rfl, rfl, rfl, readStream_recovers example₁ launching cancelledSend launched _ launching_run
    launched_connected rfl rfl⟩

/-- The reader closes although no round has used up its attempts. -/
theorem readStream_closes_early :
    (machine example₁).run initial launching = some launched ∧ Connected launched ∧
      (machine example₁).follows writersOnly launched cancelledReconnect = true ∧
      ∃ last, (machine example₁).run launched cancelledReconnect = some last ∧
        last.shared.closed = true ∧ last.shared.exhausted = false ∧ ¬ Recovers last := by
  refine ⟨launching_run, launched_connected, rfl, _, rfl, rfl, rfl, ?_⟩
  intro recovers
  exact absurd (recovers.1 rfl) Bool.false_ne_true

end Runs

end DifyPlugin.Tcp
