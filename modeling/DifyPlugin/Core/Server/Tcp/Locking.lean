import DifyPlugin.Core.Server.Tcp.Traffic

/-!
# Who holds the lock

The assertions of the TCP reader: what every greenlet knows where it blocks, and what holds of
the shared state. A greenlet inside of `write` or `_launch` holds `opt_lock`, so nobody else
sends or replaces the socket; the others may only close the connection. The lemmas follow the
code that runs between two blocking points, one for each of its functions: whoever holds the
lock leaves the shared state consistent and arrives at a blocking point whose assertion holds.
-/

namespace DifyPlugin.Tcp

open Interleaving Decoding Splitting

variable {μ : Type}

/-- A greenlet that blocks here holds `opt_lock`. -/
def Pc.holdsLock : Pc → Bool
  | .send .. | .sendAgain .. | .connect .. | .handshake .. | .backoff .. => true
  | .errorSleep _ | .closeLock .readStream | .closeReaders .readStream => true
  | .nestedLaunch => true
  | _ => false

/-- The buffer and the socket with which the caller of `_launch` goes on reading. -/
def LaunchCaller.resumes : LaunchCaller → Option (Bytes × Option Nat)
  | .launch | .write => none
  | .deadCheck buffer source => some (buffer, source)
  | .readError sock => some ([], some sock)

/-- The buffer and the socket with which the caller of `write` goes on reading. -/
def WriteCaller.resumes : WriteCaller → Option (Bytes × Option Nat)
  | .call _ => none
  | .registration _ _ _ caller => caller.resumes

/-- The buffer and the socket with which the reader goes on from here. -/
def Pc.resumes : Pc → Option (Bytes × Option Nat)
  | .deadLock buffer source => some (buffer, source)
  | .select buffer sock | .recv buffer sock | .recvAgain buffer sock => some (buffer, some sock)
  | .processing _ buffer sock => some (buffer, some sock)
  | .errorSleep sock => some ([], some sock)
  | .starting | .eventSleep => some ([], none)
  | .connect _ caller | .handshake _ _ _ caller | .backoff _ caller => caller.resumes
  | .send _ _ _ caller | .sendAgain _ _ caller => caller.resumes
  | _ => none

/-- `write` is called by `on_connected`. -/
def WriteCaller.registering : WriteCaller → Bool
  | .call _ => false
  | .registration .. => true

/-- The bytes that are still to be sent before the stream is whole again. -/
def WriteCaller.unsent (thread : Nat) (rest : Bytes) :
    WriteCaller → List (Option CallId × UInt8)
  | .call number => tag (some (thread, number)) rest
  | .registration _ _ frames _ => tag none (rest ++ frames.flatten)

/-- `on_connected` writes to the socket that `_connect_once` has created. -/
def WriteCaller.writesTo (sock : Nat) : WriteCaller → Prop
  | .call _ => True
  | .registration created _ _ _ => created = sock

/-- A greenlet is in the middle of sending to the current socket. -/
structure Sending (config : Config μ) (thread : Nat) (sh : Shared μ) (sock : Nat) (rest : Bytes)
    (caller : WriteCaller) : Prop where
  /-- The socket is the current one. -/
  current : sh.sock = some sock
  /-- `_connecting` tells whether this is the registration. -/
  connecting : sh.connecting = caller.registering
  /-- The registration stays on its socket. -/
  writesTo : caller.writesTo sock
  /-- What is left to send completes the stream. -/
  whole : Whole config sh.toTraffic ((sh.conns sock).accepted ++ caller.unsent thread rest)

/-- What a greenlet knows about the state where it blocks. -/
def Known (config : Config μ) (thread : Nat) (sh : Shared μ) : Pc → Prop
  | .writeLock number data => (sh.issued thread)[number]? = some data ∧
      ∀ sock byte, (some (thread, number), byte) ∉ (sh.conns sock).accepted
  | .send target sock rest caller => target = sock ∧ Sending config thread sh sock rest caller
  | .sendAgain sock rest caller => Sending config thread sh sock rest caller
  | .handshake sock rest _ _ => sh.connecting = true ∧ sh.sock = some sock ∧
      Whole config sh.toTraffic
        ((sh.conns sock).accepted ++ tag none (rest ++ config.registration.flatten))
  | .connect _ _ | .backoff _ _ => sh.connecting = true ∧ sh.alive = false
  | .errorSleep _ | .closeLock .readStream | .closeReaders .readStream =>
    sh.connecting = false ∧ sh.alive = false
  | .errorLock sock => thread = 0 ∧ ∃ buffer, Kept sh.toTraffic buffer (some sock)
  | .processing lines _ sock => ∀ line ∈ lines, Placed sh.toTraffic (sock, line)
  | .nestedLaunch => False
  | _ => True

/-- The assertion of a greenlet at its blocking point. -/
structure At (config : Config μ) (thread : Nat) (sh : Shared μ) (pc : Pc) : Prop where
  /-- The blocking point tells who holds the lock. -/
  lock : sh.lock = some thread ↔ pc.holdsLock = true
  /-- Only greenlet 0 reads, and its buffer fits its socket. -/
  resumes : ∀ buffer source, pc.resumes = some (buffer, source) →
    thread = 0 ∧ Kept sh.toTraffic buffer source
  /-- What else is known. -/
  known : Known config thread sh pc

/-- The current socket is closed, or its stream is whole. -/
def Aligned (config : Config μ) (sh : Shared μ) : Prop :=
  sh.alive = true → ∀ sock, sh.sock = some sock →
    Whole config sh.toTraffic (sh.conns sock).accepted

/-- What holds of the shared state between two steps. -/
structure Consistent (config : Config μ) (sh : Shared μ) : Prop where
  /-- The sockets are sound. -/
  sound : Sound config sh.toTraffic
  /-- A dead connection is closed. -/
  dead : sh.alive = false → Down sh.toTraffic
  /-- Nobody connects without the lock. -/
  free : sh.lock = none → sh.connecting = false
  /-- Nobody has sent a part of a payload and left the connection alive. -/
  aligned : sh.lock = none → Aligned config sh

/-- What a greenlet may rely on after it has held the lock since the sockets were `before`. -/
structure Held (thread : Nat) (before : Traffic μ) (sh : Shared μ) (connecting : Bool) : Prop where
  /-- It has sent and received nothing. -/
  frame : Frame before sh.toTraffic
  /-- The current socket was created. -/
  created : ∀ sock, sh.sock = some sock → sock < sh.created
  /-- A dead connection is closed. -/
  dead : sh.alive = false → Down sh.toTraffic
  /-- It holds the lock. -/
  lock : sh.lock = some thread
  /-- The value of `_connecting`. -/
  connecting : sh.connecting = connecting

/-- Where the code between two blocking points has to arrive. -/
structure Settled (config : Config μ) (thread : Nat) (before : Traffic μ) (result : Shared μ × Pc) :
    Prop where
  /-- The shared state is consistent. -/
  consistent : Consistent config result.1
  /-- The greenlet knows what it has to know. -/
  arrives : At config thread result.1 result.2
  /-- It has sent and received nothing. -/
  frame : Frame before result.1.toTraffic
  /-- It has kept the lock or released it. -/
  lock : result.1.lock = none ∨ result.1.lock = some thread

/-- The caller of `_launch` may go on reading where it was. -/
def Admits (thread : Nat) (before : Traffic μ) (resumes : Option (Bytes × Option Nat)) : Prop :=
  ∀ buffer source, resumes = some (buffer, source) → thread = 0 ∧ Kept before buffer source

section Release

variable {config : Config μ} {thread : Nat} {before : Traffic μ} {sh : Shared μ} {connecting : Bool}

/-- The sockets stay sound while the lock is held. -/
theorem Held.sound (held : Held thread before sh connecting) (sound : Sound config before) :
    Sound config sh.toTraffic :=
  sound.frame held.frame held.created

/-- The state is consistent while the lock is held. -/
theorem Held.consistent (held : Held thread before sh connecting)
    (sound : Sound config before) : Consistent config sh where
  sound := held.sound sound
  dead := held.dead
  free := by simp [held.lock]
  aligned := by simp [held.lock]

/-- The lock may be released when nobody connects and the stream is whole. -/
theorem Held.release (held : Held thread before sh false) (sound : Sound config before)
    (aligned : Aligned config sh) : Consistent config sh.release where
  sound := held.sound sound
  dead := held.dead
  free := fun _ => held.connecting
  aligned := fun _ => aligned

/-- The reader may still go on where it was. -/
theorem Held.admits (held : Held thread before sh connecting) (sound : Sound config before)
    {resumes : Option (Bytes × Option Nat)} (admits : Admits thread before resumes) :
    Admits thread sh.toTraffic resumes := by
  intro buffer source same
  obtain ⟨reader, kept⟩ := admits buffer source same
  exact ⟨reader, kept.calm sound held.frame.toCalm⟩

/-- A greenlet that keeps the lock settles at a blocking point that holds it. -/
theorem Held.settled (held : Held thread before sh connecting) (sound : Sound config before)
    {pc : Pc} (holds : pc.holdsLock = true) (admits : Admits thread sh.toTraffic pc.resumes)
    (known : Known config thread sh pc) : Settled config thread before (sh, pc) where
  consistent := held.consistent sound
  arrives :=
    { lock := ⟨fun _ => holds, fun _ => held.lock⟩
      resumes := admits
      known := known }
  frame := held.frame
  lock := Or.inr held.lock

/-- A greenlet that releases the lock settles at a blocking point that needs no lock. -/
theorem Held.settled_release (held : Held thread before sh false) (sound : Sound config before)
    (aligned : Aligned config sh) {pc : Pc} (arrives : At config thread sh.release pc) :
    Settled config thread before (sh.release, pc) where
  consistent := held.release sound aligned
  arrives := arrives
  frame := held.frame
  lock := Or.inl rfl

/-- A dead connection needs no whole stream. -/
theorem aligned_dead (dead : sh.alive = false) : Aligned config sh := by
  intro alive
  rw [dead] at alive
  contradiction

/-- Outside of the reader and at the end there is nothing to know. -/
theorem at_outside {pc : Pc} (free : sh.lock ≠ some thread) (holds : pc.holdsLock = false)
    (resumes : pc.resumes = none) (known : Known config thread sh pc) :
    At config thread sh pc where
  lock := by simp [free, holds]
  resumes := by simp [resumes]
  known := known

/-- `writeFailed` and `setupFailed` close the current socket. -/
theorem Held.drop (held : Held thread before sh connecting) {sock : Nat}
    (current : sh.sock = some sock) :
    Held thread before { sh.closeSock sock with alive := false } connecting where
  frame := held.frame.trans (frame_closeSock _ sock)
  created := held.created
  dead := by
    intro _ other same
    obtain rfl : sock = other := Option.some.inj (current.symm.trans same)
    exact sh.toTraffic.closeSock_isOpen_self sock
  lock := held.lock
  connecting := held.connecting

/-- The flags other than `alive` and the lock do not matter for what is held. -/
theorem Held.connect (held : Held thread before sh connecting)
    (closed pending exhausted now : Bool) :
    Held thread before
      { sh with
        closed := closed, reconnectPending := pending, exhausted := exhausted
        connecting := now } now :=
  ⟨held.frame, held.created, held.dead, held.lock, rfl⟩

/-- A cancelled `write` sets `_reconnect_pending`. -/
theorem Held.setPending (held : Held thread before sh connecting) (pending : Bool) :
    Held thread before { sh with reconnectPending := pending } connecting :=
  ⟨held.frame, held.created, held.dead, held.lock, held.connecting⟩

end Release

section Reading

variable {config : Config μ} {thread : Nat} {sh : Shared μ} {buffer : Bytes} {source : Option Nat}

/-- The reader goes on with a connection that is alive. -/
theorem readBody_at (sound : Sound config sh.toTraffic) (reader : thread = 0)
    (free : sh.lock ≠ some thread) (kept : Kept sh.toTraffic buffer source) :
    At config thread sh (readBody sh buffer source) := by
  unfold readBody
  split
  · rename_i missing
    refine ⟨by simp [free, Pc.holdsLock], ?_, trivial⟩
    rintro _ _ ⟨⟩
    refine ⟨reader, by simp, ?_⟩
    intro sock current
    rw [missing] at current
    contradiction
  · rename_i sock current
    refine ⟨by simp [free, Pc.holdsLock], ?_, trivial⟩
    rintro _ _ ⟨⟩
    exact ⟨reader, kept.current current (sound.created sock current)⟩

/-- The reader goes to the top of its loop. -/
theorem readTop_at (sound : Sound config sh.toTraffic) (reader : thread = 0)
    (free : sh.lock ≠ some thread) (kept : Kept sh.toTraffic buffer source) :
    At config thread sh (readTop sh buffer source) := by
  unfold readTop
  split
  · exact at_outside free rfl rfl trivial
  · split
    · exact readBody_at sound reader free kept
    · refine ⟨by simp [free, Pc.holdsLock], ?_, trivial⟩
      rintro _ _ ⟨⟩
      exact ⟨reader, kept⟩

end Reading

section Launching

variable {config : Config μ} {thread : Nat} {before : Traffic μ} {sh : Shared μ}
  {caller : LaunchCaller}

/-- `_launch` returns. -/
theorem launchReturn_settled (held : Held thread before sh false) (sound : Sound config before)
    (admits : Admits thread before caller.resumes) (aligned : Aligned config sh) :
    Settled config thread before (launchReturn sh caller) := by
  have free : sh.release.lock ≠ some thread := by simp [Shared.release]
  have still := (held.release sound aligned).sound
  cases caller with
  | launch => exact held.settled_release sound aligned (at_outside free rfl rfl trivial)
  | write => exact held.settled_release sound aligned (at_outside free rfl rfl trivial)
  | deadCheck buffer source =>
    obtain ⟨reader, kept⟩ := admits buffer source rfl
    exact held.settled_release sound aligned
      (readBody_at still reader free (kept.calm sound held.frame.toCalm))
  | readError sock =>
    obtain ⟨reader, kept⟩ := admits [] (some sock) rfl
    exact held.settled_release sound aligned
      (readTop_at still reader free (kept.calm sound held.frame.toCalm))

/-- `_launch` raises, and leaves a dead connection. -/
theorem launchRaise_settled (held : Held thread before sh false) (sound : Sound config before)
    (admits : Admits thread before caller.resumes) (dead : sh.alive = false)
    (failure : Failure) : Settled config thread before (launchRaise sh failure caller) := by
  have free : sh.release.lock ≠ some thread := by simp [Shared.release]
  have aligned : Aligned config sh := aligned_dead dead
  have outside : ∀ pc : Pc, pc.holdsLock = false → pc.resumes = none →
      Known config thread sh.release pc → Settled config thread before (sh.release, pc) :=
    fun pc holds resumes known =>
      held.settled_release sound aligned (at_outside free holds resumes known)
  have sleeps : thread = 0 → Settled config thread before (sh.release, .eventSleep) := by
    intro reader
    refine held.settled_release sound aligned ⟨by simp [free, Pc.holdsLock], ?_, trivial⟩
    rintro _ _ ⟨⟩
    exact ⟨reader, Down.kept (held.dead dead) [] (by simp)⟩
  cases failure with
  | exception =>
    cases caller with
    | launch => exact outside .idle rfl rfl trivial
    | write => exact outside .idle rfl rfl trivial
    | deadCheck buffer source => exact sleeps (admits buffer source rfl).1
    | readError sock => exact sleeps (admits [] (some sock) rfl).1
  | cancellation =>
    cases caller with
    | launch => exact outside .idle rfl rfl trivial
    | write => exact outside .idle rfl rfl trivial
    | deadCheck buffer source => exact outside (.closeLock .eventLoop) rfl rfl trivial
    | readError sock => exact outside (.closeLock .eventLoop) rfl rfl trivial

/-- `_launch` goes on to its next attempt, or ends. -/
theorem launchLoop_settled (held : Held thread before sh true) (sound : Sound config before)
    (admits : Admits thread before caller.resumes) (dead : sh.alive = false) (attempts : Nat) :
    Settled config thread before (launchLoop config sh attempts caller) := by
  unfold launchLoop
  split
  · exact held.settled sound rfl (held.admits sound admits) ⟨held.connecting, dead⟩
  · exact launchReturn_settled (held.connect _ _ _ false) sound admits (aligned_dead dead)

/-- `_launch` is called. -/
theorem startLaunch_settled (held : Held thread before sh false) (sound : Sound config before)
    (admits : Admits thread before caller.resumes) (aligned : Aligned config sh) :
    Settled config thread before (startLaunch config sh caller) := by
  unfold startLaunch
  split
  · exact launchReturn_settled held sound admits aligned
  · rename_i needed
    have dead : sh.alive = false := by simpa using (not_or.mp needed).1
    exact launchLoop_settled (held.connect _ _ _ true) sound admits dead 0

/-- An attempt to connect failed. -/
theorem connectFailed_settled (held : Held thread before sh true) (sound : Sound config before)
    (admits : Admits thread before caller.resumes) (dead : sh.alive = false)
    (failure : Failure) (attempts : Nat) :
    Settled config thread before (connectFailed config sh failure attempts caller) := by
  cases failure with
  | cancellation =>
    exact launchRaise_settled (held.connect _ _ _ false) sound admits dead .cancellation
  | exception =>
    simp only [connectFailed]
    split
    · exact launchRaise_settled (held.connect _ _ true false) sound admits dead .exception
    · exact held.settled sound rfl (held.admits sound admits) ⟨held.connecting, dead⟩

/-- The handshake or the registration failed. -/
theorem setupFailed_settled (held : Held thread before sh true) (sound : Sound config before)
    (admits : Admits thread before caller.resumes) {sock : Nat} (current : sh.sock = some sock)
    (failure : Failure) (attempts : Nat) :
    Settled config thread before (setupFailed config sh failure sock attempts caller) :=
  connectFailed_settled (held.drop current) sound admits rfl failure attempts

/-- `on_connected` writes what is left of the registration. -/
theorem register_settled (held : Held thread before sh true) (sound : Sound config before)
    (admits : Admits thread before caller.resumes) {sock : Nat} (current : sh.sock = some sock)
    (attempts : Nat) (frames : List Bytes)
    (whole : Whole config sh.toTraffic ((sh.conns sock).accepted ++ tag none frames.flatten)) :
    Settled config thread before (register config sh sock attempts caller frames) := by
  induction frames with
  | nil =>
    refine launchReturn_settled (held.connect _ _ _ false) sound admits ?_
    intro _ other same
    obtain rfl : sock = other := Option.some.inj (current.symm.trans same)
    simpa using whole
  | cons frame frames ih =>
    simp only [register]
    split
    · rename_i other _ same
      obtain rfl : sock = other := Option.some.inj (current.symm.trans same)
      split
      · rename_i empty
        exact ih (by simpa [empty] using whole)
      · refine held.settled sound rfl (held.admits sound admits)
          ⟨rfl, current, held.connecting, rfl, ?_⟩
        simpa [WriteCaller.unsent] using whole
    · exact setupFailed_settled held sound admits current .exception attempts

/-- `_connect_once` sends what is left of the handshake. -/
theorem sendHandshake_settled (held : Held thread before sh true) (sound : Sound config before)
    (admits : Admits thread before caller.resumes) {sock : Nat} (current : sh.sock = some sock)
    (rest : Bytes) (attempts : Nat)
    (whole : Whole config sh.toTraffic
      ((sh.conns sock).accepted ++ tag none (rest ++ config.registration.flatten))) :
    Settled config thread before (sendHandshake config sh sock rest attempts caller) := by
  unfold sendHandshake
  split
  · rename_i done
    exact register_settled held sound admits current attempts _ (by simpa [done] using whole)
  · exact held.settled sound rfl (held.admits sound admits) ⟨held.connecting, current, whole⟩

/-- `_connect_once` has a connection. -/
theorem connected_settled (held : Held thread before sh true) (sound : Sound config before)
    (admits : Admits thread before caller.resumes) (dead : sh.alive = false) (attempts : Nat) :
    Settled config thread before (connected config sh attempts caller) := by
  have fresh := (held.sound sound).frame_create
  have grown : Frame before sh.toTraffic.create := held.frame.trans fresh
  unfold connected
  dsimp only
  split
  · refine launchReturn_settled ⟨?_, ?_, ?_, held.lock, rfl⟩ sound admits (aligned_dead dead)
    · exact grown.trans (frame_closeSock _ sh.created)
    · intro sock current
      exact Nat.lt_succ_of_lt (held.created sock current)
    · intro _ sock current
      -- The socket that is closed again is not the current one.
      have old := held.created sock current
      simpa [Shared.closeSock, Traffic.closeSock, Traffic.create, Nat.ne_of_lt old]
        using held.dead dead sock current
  · have opened : Held thread before
        { sh with
          toTraffic := { sh.toTraffic.create with sock := some sh.created }, alive := true }
        true :=
      { frame :=
          { grown with
            sock := by
              intro sock current
              exact Or.inr (Option.some.inj current ▸ held.frame.created) }
        created := by
          intro sock current
          exact Option.some.inj current ▸ Nat.lt_succ_self _
        dead := (by simp)
        lock := held.lock
        connecting := held.connecting }
    refine sendHandshake_settled opened sound admits rfl config.handshake attempts ?_
    simpa [Traffic.create, Config.setup] using whole_setup config _

end Launching

section Writing

variable {config : Config μ} {thread : Nat} {before : Traffic μ} {sh : Shared μ} {sock : Nat}
  {rest : Bytes} {caller : WriteCaller}

/-- `write` returns. -/
theorem writeReturn_settled (held : Held thread before sh caller.registering)
    (sound : Sound config before) (admits : Admits thread before caller.resumes)
    (sending : Sending config thread sh sock [] caller) :
    Settled config thread before (writeReturn config sh caller) := by
  obtain ⟨current, connecting, writesTo, whole⟩ := sending
  cases caller with
  | call number =>
    refine held.settled_release sound ?_ (at_outside (by simp [Shared.release]) rfl rfl trivial)
    intro _ other same
    obtain rfl : sock = other := Option.some.inj (current.symm.trans same)
    simpa [WriteCaller.unsent] using whole
  | registration created attempts frames caller =>
    obtain rfl : created = sock := writesTo
    exact register_settled held sound admits current attempts frames
      (by simpa [WriteCaller.unsent] using whole)

/-- `write` raises, and leaves a dead connection. -/
theorem writeRaise_settled (held : Held thread before sh caller.registering)
    (sound : Sound config before) (admits : Admits thread before caller.resumes)
    (current : sh.sock = some sock) (writesTo : caller.writesTo sock) (dead : sh.alive = false)
    (failure : Failure) : Settled config thread before (writeRaise config sh failure caller) := by
  cases caller with
  | call number =>
    exact held.settled_release sound (aligned_dead dead)
      (at_outside (by simp [Shared.release]) rfl rfl trivial)
  | registration created attempts frames caller =>
    obtain rfl : created = sock := writesTo
    exact setupFailed_settled held sound admits current failure attempts

/-- Sending failed. -/
theorem writeFailed_settled (held : Held thread before sh caller.registering)
    (sound : Sound config before) (admits : Admits thread before caller.resumes)
    (sending : Sending config thread sh sock rest caller) (failure : Failure) :
    Settled config thread before (writeFailed config sh failure sock caller) := by
  obtain ⟨current, connecting, writesTo, -⟩ := sending
  have dropped := held.drop current
  unfold writeFailed
  dsimp only
  split
  · exact writeRaise_settled dropped sound admits current writesTo rfl failure
  · rename_i outer
    -- `_connecting` is not set, so this is no registration.
    have ordinary : caller.registering = false := by
      rw [← connecting]
      simpa [Shared.closeSock] using (not_or.mp outer).2
    cases caller with
    | registration created attempts frames caller => simp [WriteCaller.registering] at ordinary
    | call number =>
      cases failure with
      | cancellation =>
        exact writeRaise_settled (dropped.setPending true) sound admits current writesTo rfl
          .cancellation
      | exception =>
        exact startLaunch_settled dropped sound (by simp [Admits, LaunchCaller.resumes])
          (aligned_dead rfl)

/-- `_write_data` goes on, or is done. -/
theorem writeData_settled (held : Held thread before sh caller.registering)
    (sound : Sound config before) (admits : Admits thread before caller.resumes)
    (sending : Sending config thread sh sock rest caller) :
    Settled config thread before (writeData config sh sock rest caller) := by
  unfold writeData
  split
  · rename_i done
    exact writeReturn_settled held sound admits (done ▸ sending)
  · refine held.settled sound rfl (held.admits sound admits) ⟨?_, sending⟩
    simp [sending.current]

/-- `write` has the lock. -/
theorem startWrite_settled (held : Held thread before sh false) (sound : Sound config before)
    (aligned : Aligned config sh) {number : Nat} {data : Bytes}
    (known : Known config thread sh (.writeLock number data)) :
    Settled config thread before (startWrite config sh number data) := by
  unfold startWrite
  split
  · rename_i sock alive current
    refine writeData_settled held sound (by simp [Admits, WriteCaller.resumes]) ⟨current,
      held.connecting, trivial, ?_⟩
    exact (aligned alive sock current).append known.1 (known.2 sock)
  · rename_i dead
    exact held.settled_release sound aligned
      (at_outside (by simp [Shared.release]) rfl rfl trivial)

end Writing

section Closing

variable {config : Config μ} {thread : Nat} {before : Traffic μ} {sh : Shared μ} {connecting : Bool}

/-- `close` leaves a dead connection. -/
theorem closeConnection_dead (sh : Shared μ) : (closeConnection sh).alive = false := by
  unfold closeConnection
  split <;> rfl

/-- `close` closes a socket at most. -/
theorem closeConnection_frame (sh : Shared μ) :
    Frame sh.toTraffic (closeConnection sh).toTraffic := by
  unfold closeConnection
  split
  · exact frame_closeSock _ _
  · exact Frame.refl _

/-- `close` leaves the current socket closed. -/
theorem closeConnection_down (dead : sh.alive = false → Down sh.toTraffic) :
    Down (closeConnection sh).toTraffic := by
  unfold closeConnection
  split
  · rename_i sock _ current
    intro other same
    obtain rfl : sock = other := Option.some.inj (current.symm.trans same)
    exact sh.toTraffic.closeSock_isOpen_self sock
  · rename_i otherwise
    intro sock current
    cases alive : sh.alive with
    | false => exact dead alive sock current
    | true => exact absurd current (otherwise sock alive)

/-- `close` touches neither the lock nor the other flags. -/
theorem closeConnection_flags (sh : Shared μ) :
    (closeConnection sh).lock = sh.lock ∧ (closeConnection sh).connecting = sh.connecting ∧
      (closeConnection sh).sock = sh.sock ∧ (closeConnection sh).created = sh.created := by
  unfold closeConnection
  split <;> exact ⟨rfl, rfl, rfl, rfl⟩

/-- The connection is closed under the lock. -/
theorem Held.closeConnection (held : Held thread before sh connecting) :
    Held thread before (closeConnection sh) connecting := by
  obtain ⟨lock, flag, sock, created⟩ := closeConnection_flags sh
  refine ⟨held.frame.trans (closeConnection_frame sh), ?_, ?_, lock.trans held.lock,
    flag.trans held.connecting⟩
  · rw [sock, created]
    exact held.created
  · intro _
    exact closeConnection_down held.dead

/-- `_read_stream` has closed the reader, or was cancelled there. -/
theorem closeReturn_settled (held : Held thread before sh false) (sound : Sound config before)
    (dead : sh.alive = false) :
    Settled config thread before (closeReturn sh .readStream) :=
  held.settled_release sound (aligned_dead dead)
    (at_outside (by simp [Shared.release]) rfl rfl trivial)

/-- `launch` has the lock. -/
theorem startConnection_settled (held : Held thread before sh false)
    (sound : Sound config before) :
    Settled config thread before (startConnection config sh) := by
  have closed := held.closeConnection
  have again : Held thread before
      { closeConnection sh with closed := false, exhausted := false } false :=
    ⟨closed.frame, closed.created, closed.dead, closed.lock, closed.connecting⟩
  exact startLaunch_settled again sound (by simp [Admits, LaunchCaller.resumes])
    (aligned_dead (closeConnection_dead sh))

end Closing

section Recovering

variable {config : Config μ} {thread : Nat} {before : Traffic μ} {sh : Shared μ}

/-- `_read_stream` has the lock after it found the connection dead. -/
theorem deadCheck_settled (held : Held thread before sh false) (sound : Sound config before)
    (aligned : Aligned config sh) (reader : thread = 0) {buffer : Bytes} {source : Option Nat}
    (kept : Kept before buffer source) :
    Settled config thread before (deadCheck config sh buffer source) := by
  have free : sh.release.lock ≠ some thread := by simp [Shared.release]
  unfold deadCheck
  split
  · exact held.settled_release sound aligned
      (readBody_at (held.release sound aligned).sound reader free
        (kept.calm sound held.frame.toCalm))
  · rename_i dead
    have dead : sh.alive = false := by simpa using dead
    split
    · refine startLaunch_settled held sound ?_ aligned
      rintro _ _ ⟨⟩
      exact ⟨reader, kept⟩
    · exact held.settled sound rfl (by simp [Admits, Pc.resumes]) ⟨held.connecting, dead⟩

/-- `_read_stream` has the lock after a failed read. -/
theorem readError_settled (held : Held thread before sh false) (sound : Sound config before)
    (aligned : Aligned config sh) (reader : thread = 0) {buffer : Bytes} {sock : Nat}
    (kept : Kept before buffer (some sock)) :
    Settled config thread before (readError sh sock) := by
  have free : sh.release.lock ≠ some thread := by simp [Shared.release]
  unfold readError
  split
  · exact held.settled_release sound aligned (at_outside free rfl rfl trivial)
  · split
    · rename_i current
      have dropped := held.drop current
      refine dropped.settled sound rfl ?_ ⟨held.connecting, rfl⟩
      rintro _ _ ⟨⟩
      refine ⟨reader, (dropped.dead rfl).kept [] ?_⟩
      intro other same
      exact dropped.created other (current.trans same)
    · rename_i replaced
      -- The buffer is empty, as it has to be for a socket that is not its source.
      have now := (kept.calm sound held.frame.toCalm).ifCurrent
      rw [if_neg replaced] at now
      exact held.settled_release sound aligned
        (readTop_at (held.release sound aligned).sound reader free now)

end Recovering

end DifyPlugin.Tcp
