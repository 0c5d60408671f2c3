import DifyPlugin.Core.Server.Tcp.Locking
import DifyPlugin.Core.Server.Tcp.Moves

/-!
# The steps of the TCP reader

Every step of a greenlet keeps the shared state consistent, arrives at a blocking point whose
assertion holds, and leaves the assertions of the other greenlets undisturbed. A greenlet that
does not hold the lock while another one does can only close the connection and read. So the
assertions hold in every state that a run from a constructed reader reaches.
-/

namespace DifyPlugin.Tcp

open Interleaving Decoding Splitting

variable {μ : Type}

/-- What a greenlet that holds the lock may still rely on after a step of another one. -/
structure Aside (sh after : Shared μ) : Prop where
  /-- The socket is not replaced. -/
  sock : after.sock = sh.sock
  /-- `_connecting` is left alone. -/
  connecting : after.connecting = sh.connecting
  /-- The connection does not come to life. -/
  dead : sh.alive = false → after.alive = false
  /-- Nothing is sent. -/
  accepted : ∀ sock, (after.conns sock).accepted = (sh.conns sock).accepted

/-- What a step of one greenlet leaves to the others. -/
structure Undisturbed (thread : Nat) (sh after : Shared μ) : Prop where
  /-- No other greenlet loses or gets the lock. -/
  lock : ∀ other ≠ thread, (after.lock = some other ↔ sh.lock = some other)
  /-- The holder of the lock is left alone. -/
  aside : ∀ other ≠ thread, sh.lock = some other → Aside sh after
  /-- Nobody calls `write` for another greenlet. -/
  issued : ∀ other ≠ thread, after.issued other = sh.issued other
  /-- Calls are only added. -/
  grows : ∀ other, sh.issued other <+: after.issued other
  /-- Nobody sends for another greenlet. -/
  tagged : ∀ other ≠ thread, ∀ sock number byte,
    (some (other, number), byte) ∈ (after.conns sock).accepted →
      (some (other, number), byte) ∈ (sh.conns sock).accepted
  /-- Only greenlet 0 reads. -/
  calm : thread ≠ 0 → Calm sh.toTraffic after.toTraffic

/-- Where a step has to lead. -/
structure Stepped (config : Config μ) (thread : Nat) (sh : Shared μ) (result : Shared μ × Pc) :
    Prop where
  /-- The shared state stays consistent. -/
  consistent : Consistent config result.1
  /-- The greenlet knows what it has to know. -/
  arrives : At config thread result.1 result.2
  /-- The others keep what they know. -/
  undisturbed : Undisturbed thread sh result.1

section Disturbance

variable {config : Config μ} {thread : Nat} {sh after : Shared μ}

/-- Doing nothing disturbs nobody. -/
theorem Undisturbed.refl (thread : Nat) (sh : Shared μ) : Undisturbed thread sh sh where
  lock := fun _ _ => Iff.rfl
  aside := fun _ _ _ => ⟨rfl, rfl, fun dead => dead, fun _ => rfl⟩
  issued := fun _ _ => rfl
  grows := fun _ => List.prefix_refl _
  tagged := fun _ _ _ _ _ listed => listed
  calm := fun _ => Calm.refl _

/-- One step after another one. -/
theorem Undisturbed.trans {first second third : Shared μ} (left : Undisturbed thread first second)
    (right : Undisturbed thread second third) : Undisturbed thread first third where
  lock := fun other distinct => (right.lock other distinct).trans (left.lock other distinct)
  aside := by
    intro other distinct holds
    have before := left.aside other distinct holds
    have later := right.aside other distinct ((left.lock other distinct).mpr holds)
    exact ⟨later.sock.trans before.sock, later.connecting.trans before.connecting,
      fun dead => later.dead (before.dead dead),
      fun sock => (later.accepted sock).trans (before.accepted sock)⟩
  issued := fun other distinct =>
    (right.issued other distinct).trans (left.issued other distinct)
  grows := fun other => (left.grows other).trans (right.grows other)
  tagged := fun other distinct sock number byte listed =>
    left.tagged other distinct sock number byte
      (right.tagged other distinct sock number byte listed)
  calm := fun writer => (left.calm writer).trans (right.calm writer)

/-- Sending stays whole when the greenlet that sends is left alone. -/
theorem Sending.undisturbed {other sock : Nat} {rest : Bytes} {caller : WriteCaller}
    (sending : Sending config other sh sock rest caller) (aside : Aside sh after)
    (grows : ∀ other, sh.issued other <+: after.issued other) :
    Sending config other after sock rest caller where
  current := aside.sock.trans sending.current
  connecting := aside.connecting.trans sending.connecting
  writesTo := sending.writesTo
  whole := by
    rw [aside.accepted]
    exact sending.whole.grown grows

/-- An assertion survives the step of another greenlet. -/
theorem At.undisturbed {other : Nat} {pc : Pc} (arrives : At config other sh pc)
    (sound : Sound config sh.toTraffic) (undisturbed : Undisturbed thread sh after)
    (distinct : other ≠ thread) : At config other after pc := by
  have reader : ∀ buffer source, pc.resumes = some (buffer, source) →
      Calm sh.toTraffic after.toTraffic := by
    intro buffer source same
    apply undisturbed.calm
    rintro rfl
    exact distinct (arrives.resumes buffer source same).1
  have aside : pc.holdsLock = true → Aside sh after := by
    intro holds
    exact undisturbed.aside other distinct (arrives.lock.mpr holds)
  refine ⟨(undisturbed.lock other distinct).trans arrives.lock, ?_, ?_⟩
  · intro buffer source same
    obtain ⟨zero, kept⟩ := arrives.resumes buffer source same
    exact ⟨zero, kept.calm sound (reader buffer source same)⟩
  · have known := arrives.known
    cases pc with
    | writeLock number data =>
      refine ⟨by rw [undisturbed.issued other distinct]; exact known.1, ?_⟩
      intro sock byte listed
      exact known.2 sock byte (undisturbed.tagged other distinct sock number byte listed)
    | send target sock rest caller =>
      exact ⟨known.1, known.2.undisturbed (aside rfl) undisturbed.grows⟩
    | sendAgain sock rest caller => exact known.undisturbed (aside rfl) undisturbed.grows
    | handshake sock rest attempts caller =>
      have left := aside rfl
      refine ⟨left.connecting.trans known.1, left.sock.trans known.2.1, ?_⟩
      rw [left.accepted]
      exact known.2.2.grown undisturbed.grows
    | connect attempts caller =>
      exact ⟨(aside rfl).connecting.trans known.1, (aside rfl).dead known.2⟩
    | backoff attempts caller =>
      exact ⟨(aside rfl).connecting.trans known.1, (aside rfl).dead known.2⟩
    | errorSleep sock =>
      exact ⟨(aside rfl).connecting.trans known.1, (aside rfl).dead known.2⟩
    | closeLock caller =>
      cases caller with
      | readStream => exact ⟨(aside rfl).connecting.trans known.1, (aside rfl).dead known.2⟩
      | call => trivial
      | eventLoop => trivial
    | closeReaders caller =>
      cases caller with
      | readStream => exact ⟨(aside rfl).connecting.trans known.1, (aside rfl).dead known.2⟩
      | call => trivial
      | eventLoop => trivial
    | errorLock sock =>
      obtain ⟨zero, buffer, kept⟩ := known
      have calm := undisturbed.calm fun same => distinct (zero.trans same.symm)
      exact ⟨zero, buffer, kept.calm sound calm⟩
    | processing lines buffer sock =>
      intro line listed
      exact (known line listed).calm (reader buffer (some sock) rfl)
    | nestedLaunch => exact known
    | idle | starting | launchLock | deadLock | select | recv | recvAgain | eventSleep
    | finished => trivial

end Disturbance

section Holders

variable {config : Config μ} {thread : Nat} {sh : Shared μ} {result : Shared μ × Pc}

/-- What the holder of the lock does to the sockets before it goes on. -/
structure Outward (thread : Nat) (traffic before : Traffic μ) : Prop where
  /-- It does not read. -/
  calm : Calm traffic before
  /-- It issues no call. -/
  issued : before.issued = traffic.issued
  /-- It sends its own bytes only. -/
  tagged : ∀ other ≠ thread, ∀ sock number byte,
    (some (other, number), byte) ∈ (before.conns sock).accepted →
      (some (other, number), byte) ∈ (traffic.conns sock).accepted

/-- Sending nothing is outward. -/
theorem Outward.refl (thread : Nat) (traffic : Traffic μ) : Outward thread traffic traffic :=
  ⟨Calm.refl traffic, rfl, fun _ _ _ _ _ listed => listed⟩

/-- A send is outward when its bytes belong to the greenlet or to nobody. -/
theorem outward_accept {traffic : Traffic μ} {origin : Option CallId}
    (own : ∀ other number, origin = some (other, number) → other = thread) (sock : Nat)
    (bytes : Bytes) : Outward thread traffic (traffic.accept sock origin bytes) where
  calm := calm_accept traffic sock origin bytes
  issued := rfl
  tagged := by
    intro other distinct target number byte listed
    by_cases same : target = sock
    · subst same
      rw [traffic.accept_accepted_self, List.mem_append, mem_tag] at listed
      rcases listed with earlier | ⟨mine, -⟩
      · exact earlier
      · exact absurd (own other number mine) distinct
    · rwa [traffic.accept_accepted_of_ne origin bytes same] at listed

/-- Code that settles under the lock makes a step. -/
theorem Settled.stepped {before : Traffic μ} (settled : Settled config thread before result)
    (mine : sh.lock = none ∨ sh.lock = some thread)
    (outward : Outward thread sh.toTraffic before) : Stepped config thread sh result where
  consistent := settled.consistent
  arrives := settled.arrives
  undisturbed :=
    { lock := by
        intro other distinct
        have others : some thread ≠ some other := fun same => distinct (Option.some.inj same).symm
        rcases mine with free | mine <;> rcases settled.lock with released | kept <;> simp_all
      aside := by
        intro other distinct holds
        have others : some thread ≠ some other := fun same => distinct (Option.some.inj same).symm
        rcases mine with free | mine <;> simp_all
      issued := by
        intro other _
        rw [settled.frame.issued, outward.issued]
      grows := issued_grows (settled.frame.issued.trans outward.issued)
      tagged := by
        intro other distinct sock number byte listed
        rw [settled.frame.accepted] at listed
        exact outward.tagged other distinct sock number byte listed
      calm := fun _ => outward.calm.trans settled.frame.toCalm }

/-- A greenlet that holds the lock between two steps. -/
theorem Consistent.held (consistent : Consistent config sh) (lock : sh.lock = some thread)
    {connecting : Bool} (same : sh.connecting = connecting) :
    Held thread sh.toTraffic sh connecting :=
  ⟨Frame.refl _, consistent.sound.created, consistent.dead, lock, same⟩

/-- A step of a greenlet that holds the lock. -/
theorem Settled.stepped_held (settled : Settled config thread sh.toTraffic result)
    (lock : sh.lock = some thread) : Stepped config thread sh result :=
  settled.stepped (Or.inr lock) (Outward.refl thread _)

/-- A greenlet that holds the lock steps where its code settles from what it finds. -/
theorem Consistent.settle (consistent : Consistent config sh) (lock : sh.lock = some thread)
    {connecting : Bool} (same : sh.connecting = connecting)
    (settles : Held thread sh.toTraffic sh connecting →
      Settled config thread sh.toTraffic result) : Stepped config thread sh result := by
  have held := consistent.held lock same
  exact (settles held).stepped_held lock

/-- A greenlet that finds the lock free takes it. -/
theorem Consistent.acquired (consistent : Consistent config sh) (thread : Nat)
    (free : sh.lock = none) :
    Held thread sh.toTraffic { sh with lock := some thread } false :=
  ⟨Frame.refl _, consistent.sound.created, consistent.dead, rfl, consistent.free free⟩

/-- A step of a greenlet that finds the lock free. -/
theorem Settled.stepped_acquired (settled : Settled config thread sh.toTraffic result)
    (free : sh.lock = none) : Stepped config thread sh result :=
  settled.stepped (Or.inl free) (Outward.refl thread _)

end Holders

section Sends

variable {config : Config μ} {thread : Nat} {sh : Shared μ} {result : Shared μ × Pc}

/-- What is left of a send, after its first bytes. -/
theorem unsent_split (thread : Nat) (rest : Bytes) (caller : WriteCaller) (count : Nat) :
    caller.unsent thread rest =
      tag (caller.origin thread) (rest.take count) ++
        caller.unsent thread (rest.drop count) := by
  cases caller with
  | call number =>
    simp only [WriteCaller.unsent, WriteCaller.origin, ← tag_append, List.take_append_drop]
  | registration created attempts frames caller =>
    simp only [WriteCaller.unsent, WriteCaller.origin, ← tag_append, ← List.append_assoc,
      List.take_append_drop]

/-- The lock is still held after a send. -/
theorem Consistent.held_accept (consistent : Consistent config sh) (lock : sh.lock = some thread)
    {connecting : Bool} (same : sh.connecting = connecting) (sock : Nat)
    (origin : Option CallId) (bytes : Bytes) :
    Held thread (sh.toTraffic.accept sock origin bytes)
      { sh with toTraffic := sh.toTraffic.accept sock origin bytes } connecting where
  frame := Frame.refl _
  created := consistent.sound.created
  dead := by
    intro dead other current
    rw [sh.toTraffic.accept_isOpen]
    exact consistent.dead dead other current
  lock := lock
  connecting := same

/-- The reader may go on where it was after a send. -/
theorem Admits.accept {resumes : Option (Bytes × Option Nat)}
    (admits : Admits thread sh.toTraffic resumes) (sound : Sound config sh.toTraffic) (sock : Nat)
    (origin : Option CallId) (bytes : Bytes) :
    Admits thread (sh.toTraffic.accept sock origin bytes) resumes := by
  intro buffer source same
  obtain ⟨reader, kept⟩ := admits buffer source same
  exact ⟨reader, kept.calm sound (calm_accept _ sock origin bytes)⟩

/-- The socket accepted bytes of a payload or of a registration frame. -/
theorem sent_stepped (consistent : Consistent config sh) {target sock : Nat} {rest : Bytes}
    {caller : WriteCaller} (count : Nat)
    (arrives : At config thread sh (.send target sock rest caller)) :
    Stepped config thread sh (writeData config { sh with
      toTraffic := sh.toTraffic.accept target (caller.origin thread) (rest.take count) } sock
      (rest.drop count) caller) := by
  have lock : sh.lock = some thread := arrives.lock.mpr rfl
  obtain ⟨rfl, sending⟩ := arrives.known
  have admits : Admits thread sh.toTraffic caller.resumes := arrives.resumes
  have created := consistent.sound.created target sending.current
  have whole := sending.whole
  rw [unsent_split thread rest caller count, ← List.append_assoc] at whole
  have sound := consistent.sound.accept created whole
  have held := consistent.held_accept lock sending.connecting target
    (caller.origin thread) (rest.take count)
  have later : Sending config thread
      { sh with
        toTraffic := sh.toTraffic.accept target (caller.origin thread) (rest.take count) }
      target (rest.drop count) caller :=
    ⟨sending.current, sending.connecting, sending.writesTo, whole.accept⟩
  have outward : Outward thread sh.toTraffic
      (sh.toTraffic.accept target (caller.origin thread) (rest.take count)) := by
    apply outward_accept
    intro other number same
    cases caller with
    | call called => simp_all [WriteCaller.origin]
    | registration => simp [WriteCaller.origin] at same
  exact (writeData_settled held sound (admits.accept consistent.sound _ _ _) later).stepped
    (Or.inr lock) outward

/-- The socket accepted bytes of the handshake. -/
theorem sentHandshake_stepped (consistent : Consistent config sh) {sock : Nat} {rest : Bytes}
    {attempts : Nat} {caller : LaunchCaller} (count : Nat)
    (arrives : At config thread sh (.handshake sock rest attempts caller)) :
    Stepped config thread sh (sendHandshake config { sh with
      toTraffic := sh.toTraffic.accept sock none (rest.take count) } sock (rest.drop count)
      attempts caller) := by
  have lock : sh.lock = some thread := arrives.lock.mpr rfl
  obtain ⟨connecting, current, whole⟩ := arrives.known
  have admits : Admits thread sh.toTraffic caller.resumes := arrives.resumes
  have created := consistent.sound.created sock current
  rw [← List.take_append_drop count rest, List.append_assoc, tag_append,
    ← List.append_assoc] at whole
  have sound := consistent.sound.accept created whole
  have held := consistent.held_accept lock connecting sock none (rest.take count)
  refine (sendHandshake_settled held sound (admits.accept consistent.sound _ _ _) current
    (rest.drop count) attempts ?_).stepped (Or.inr lock) (outward_accept (by simp) _ _)
  simpa only [tag_append, List.append_assoc] using whole.accept

end Sends

section Reads

variable {config : Config μ} {thread : Nat} {sh : Shared μ} {result : Shared μ × Pc}

/-- Reading changes what was received and handed on, and nothing else. -/
structure Reads (traffic after : Traffic μ) : Prop where
  /-- The socket is not replaced. -/
  sock : after.sock = traffic.sock
  /-- No socket is opened or closed. -/
  isOpen : ∀ sock, (after.conns sock).isOpen = (traffic.conns sock).isOpen
  /-- Nothing is sent. -/
  accepted : ∀ sock, (after.conns sock).accepted = (traffic.conns sock).accepted
  /-- No call is issued. -/
  issued : after.issued = traffic.issued

/-- The state stays consistent when the reader reads. -/
theorem Consistent.reads (consistent : Consistent config sh) {after : Traffic μ}
    (reads : Reads sh.toTraffic after) (sound : Sound config after) :
    Consistent config { sh with toTraffic := after } where
  sound := sound
  dead := by
    intro dead sock current
    rw [reads.isOpen]
    exact consistent.dead dead sock (reads.sock.symm.trans current)
  free := consistent.free
  aligned := by
    intro free alive sock current
    have whole := consistent.aligned free alive sock (reads.sock.symm.trans current)
    rw [reads.accepted]
    exact whole.grown (issued_grows reads.issued)

/-- Greenlet 0 disturbs nobody when it reads. -/
theorem Reads.undisturbed (reader : thread = 0) {after : Traffic μ}
    (reads : Reads sh.toTraffic after) :
    Undisturbed thread sh { sh with toTraffic := after } where
  lock := fun _ _ => Iff.rfl
  aside := fun _ _ _ => ⟨reads.sock, rfl, fun dead => dead, reads.accepted⟩
  issued := by
    intro other _
    rw [reads.issued]
  grows := issued_grows reads.issued
  tagged := by
    intro other _ sock number byte listed
    rwa [reads.accepted] at listed
  calm := fun writer => absurd reader writer

/-- A step that changes the blocking point only. -/
theorem stepped_same (consistent : Consistent config sh) {pc : Pc}
    (arrives : At config thread sh pc) : Stepped config thread sh (sh, pc) :=
  ⟨consistent, arrives, Undisturbed.refl thread sh⟩

/-- The reader goes over lines that are in place. -/
theorem readLines_stepped (consistent : Consistent config sh) (reader : thread = 0)
    (free : sh.lock ≠ some thread) {buffer : Bytes} {sock : Nat}
    (kept : Kept sh.toTraffic buffer (some sock)) (lines : List Bytes)
    (placed : ∀ line ∈ lines, Placed sh.toTraffic (sock, line)) :
    Stepped config thread sh (readLines config sh buffer sock lines) := by
  induction lines generalizing sh with
  | nil => exact stepped_same consistent (readTop_at consistent.sound reader free kept)
  | cons line lines ih =>
    have later : ∀ line ∈ lines, Placed sh.toTraffic (sock, line) :=
      fun other listed => placed other (List.mem_cons_of_mem _ listed)
    simp only [readLines]
    split
    · exact ih consistent free kept later
    · have here := placed line List.mem_cons_self
      split
      · rename_i unparsed
        have sound := consistent.sound.hand here sh.yielded
          (by simp [Config.outcome, unparsed])
        have reads : Reads sh.toTraffic
            { sh.toTraffic with handed := sh.handed ++ [(sock, line)] } :=
          ⟨rfl, fun _ => rfl, fun _ => rfl, rfl⟩
        have rest := ih (consistent.reads reads sound) free kept later
        exact ⟨rest.consistent, rest.arrives, (reads.undisturbed reader).trans rest.undisturbed⟩
      · rename_i message parsed
        have sound := consistent.sound.hand here (sh.yielded ++ [(sock, message)])
          (by simp [Config.outcome, parsed])
        have reads : Reads sh.toTraffic
            { sh.toTraffic with
              handed := sh.handed ++ [(sock, line)]
              yielded := sh.yielded ++ [(sock, message)] } :=
          ⟨rfl, fun _ => rfl, fun _ => rfl, rfl⟩
        have now := consistent.reads reads sound
        have still := reads.undisturbed reader
        split
        · exact ⟨now, at_outside free rfl rfl trivial, still⟩
        · refine ⟨now, ⟨by simp [free, Pc.holdsLock], ?_, later⟩, still⟩
          rintro _ _ ⟨⟩
          exact ⟨reader, kept⟩

/-- The reader received something. -/
theorem received_stepped (consistent : Consistent config sh) {buffer : Bytes} {sock : Nat}
    (data : Bytes) (opened : (sh.conns sock).isOpen = true)
    (arrives : At config thread sh (.recv buffer sock)) :
    Stepped config thread sh (readData config
      { sh with toTraffic := sh.toTraffic.receive sock data } buffer sock data) := by
  have free : sh.lock ≠ some thread := by simp [arrives.lock, Pc.holdsLock]
  obtain ⟨reader, kept⟩ := arrives.resumes buffer (some sock) rfl
  have reads : Reads sh.toTraffic (sh.toTraffic.receive sock data) :=
    ⟨rfl, fun other => sh.toTraffic.receive_isOpen sock other data,
      fun other => sh.toTraffic.receive_accepted sock other data, rfl⟩
  have sound := consistent.sound.receive (kept.1 sock rfl) data
  have now := consistent.reads reads sound
  have still : Undisturbed thread sh
      { sh with toTraffic := sh.toTraffic.receive sock data } := reads.undisturbed reader
  unfold readData
  split
  · rename_i current
    obtain ⟨placed, rest⟩ := kept.split current opened data
    have lines := readLines_stepped now reader free rest _ placed
    exact ⟨lines.consistent, lines.arrives, still.trans lines.undisturbed⟩
  · rename_i replaced
    exact ⟨now, readTop_at sound reader free (kept.replaced replaced data), still⟩

end Reads

section Closes

variable {config : Config μ} {thread : Nat} {sh : Shared μ} {result : Shared μ × Pc}

/-- Anybody may close the connection. -/
theorem closeConnection_stepped (consistent : Consistent config sh) {pc : Pc}
    (arrives : At config thread (closeConnection sh) pc) :
    Stepped config thread sh (closeConnection sh, pc) := by
  obtain ⟨lock, connecting, sock, created⟩ := closeConnection_flags sh
  have frame := closeConnection_frame sh
  refine ⟨⟨?_, ?_, ?_, ?_⟩, arrives, ⟨?_, ?_, ?_, ?_, ?_, fun _ => frame.toCalm⟩⟩
  · apply consistent.sound.frame frame
    rw [sock, created]
    exact consistent.sound.created
  · intro _
    exact closeConnection_down consistent.dead
  · rw [lock, connecting]
    exact consistent.free
  · intro _
    exact aligned_dead (closeConnection_dead sh)
  · intro other _
    rw [lock]
  · intro other _ _
    exact ⟨sock, connecting, fun _ => closeConnection_dead sh, frame.accepted⟩
  · intro other _
    rw [frame.issued]
  · exact issued_grows frame.issued
  · intro other _ target number byte listed
    rwa [frame.accepted] at listed

/-- `close` has set `_closed`. -/
theorem closeLock_stepped (consistent : Consistent config sh) {caller : CloseCaller}
    (arrives : At config thread sh (.closeLock caller)) :
    Stepped config thread sh ({ sh with closed := true }, .closeReaders caller) where
  consistent := ⟨consistent.sound, consistent.dead, consistent.free, consistent.aligned⟩
  arrives := by
    cases caller with
    | call => exact ⟨arrives.lock, arrives.resumes, trivial⟩
    | readStream => exact ⟨arrives.lock, arrives.resumes, arrives.known⟩
    | eventLoop => exact ⟨arrives.lock, arrives.resumes, trivial⟩
  undisturbed :=
    ⟨fun _ _ => Iff.rfl, fun _ _ _ => ⟨rfl, rfl, fun dead => dead, fun _ => rfl⟩,
      fun _ _ => rfl, fun _ => List.prefix_refl _, fun _ _ _ _ _ listed => listed,
      fun _ => Calm.refl _⟩

/-- `close` is cancelled while it waits for the lock of the base class. -/
theorem closeLock_cancelled (consistent : Consistent config sh) {caller : CloseCaller}
    (arrives : At config thread sh (.closeLock caller)) :
    Stepped config thread sh (closeReturn sh caller) := by
  cases caller with
  | call =>
    exact stepped_same consistent
      (at_outside (by simp [arrives.lock, Pc.holdsLock]) rfl rfl trivial)
  | eventLoop =>
    exact stepped_same consistent
      (at_outside (by simp [arrives.lock, Pc.holdsLock]) rfl rfl trivial)
  | readStream =>
    have lock : sh.lock = some thread := arrives.lock.mpr rfl
    obtain ⟨connecting, dead⟩ := arrives.known
    exact (closeReturn_settled (consistent.held lock connecting) consistent.sound
      dead).stepped_held lock

/-- `close` is cancelled while it closes the filter readers. -/
theorem closeReaders_cancelled (consistent : Consistent config sh) {caller : CloseCaller}
    (arrives : At config thread sh (.closeReaders caller)) :
    Stepped config thread sh (closeReturn sh caller) := by
  apply closeLock_cancelled consistent
  cases caller with
  | call => exact ⟨arrives.lock, arrives.resumes, trivial⟩
  | readStream => exact ⟨arrives.lock, arrives.resumes, arrives.known⟩
  | eventLoop => exact ⟨arrives.lock, arrives.resumes, trivial⟩

/-- `close` is done. -/
theorem closeReaders_stepped (consistent : Consistent config sh) {caller : CloseCaller}
    (arrives : At config thread sh (.closeReaders caller)) :
    Stepped config thread sh (closeReturn (closeConnection sh) caller) := by
  have same := (closeConnection_flags sh).1
  cases caller with
  | call =>
    exact closeConnection_stepped consistent
      (at_outside (by simp [same, arrives.lock, Pc.holdsLock]) rfl rfl trivial)
  | eventLoop =>
    exact closeConnection_stepped consistent
      (at_outside (by simp [same, arrives.lock, Pc.holdsLock]) rfl rfl trivial)
  | readStream =>
    have lock : sh.lock = some thread := arrives.lock.mpr rfl
    obtain ⟨connecting, dead⟩ := arrives.known
    have held := (consistent.held lock connecting).closeConnection
    exact (closeReturn_settled held consistent.sound
      (closeConnection_dead sh)).stepped_held lock

end Closes

section Steps

variable {config : Config μ} {thread : Nat} {sh : Shared μ} {result : Shared μ × Pc} {event : Event}

/-- A greenlet calls `write`: its bytes are new. -/
theorem startWrite_stepped (consistent : Consistent config sh)
    (free : sh.lock ≠ some thread) (data : Bytes) :
    Stepped config thread sh (startCall sh thread (.write data)) := by
  have grows : ∀ other, sh.issued other <+:
      Function.update sh.issued thread (sh.issued thread ++ [data]) other := by
    intro other
    by_cases same : other = thread
    · subst same
      simp
    · simp [same]
  have sound := consistent.sound
  refine ⟨⟨⟨sound.created, sound.fresh, ?_, ?_, sound.handed, sound.yielded⟩, consistent.dead,
    consistent.free, ?_⟩, ⟨by simp [startCall, free, Pc.holdsLock], nofun, ?_, ?_⟩, ?_⟩
  · intro sock
    obtain ⟨more, whole⟩ := sound.sent sock
    exact ⟨more, whole.grown grows⟩
  · intro sock call byte listed
    exact Nat.lt_of_lt_of_le (sound.tagged sock call byte listed) (grows call.1).length_le
  · intro unlocked alive sock current
    exact (consistent.aligned unlocked alive sock current).grown grows
  · simp [startCall]
  · intro sock byte listed
    exact absurd (sound.tagged sock _ byte listed) (Nat.lt_irrefl _)
  · refine ⟨fun _ _ => Iff.rfl, fun _ _ _ => ⟨rfl, rfl, fun dead => dead, fun _ => rfl⟩, ?_,
      grows, fun _ _ _ _ _ listed => listed, ?_⟩
    · intro other distinct
      exact Function.update_of_ne distinct _ _
    · intro _
      exact ⟨Nat.le_refl _, fun _ current => Or.inl current, fun _ _ opened => opened,
        fun _ => rfl, rfl, rfl⟩

/-- A cancelled wait was none for the lock that is held. -/
theorem cancelled_stepped (consistent : Consistent config sh) {pc left : Pc}
    (arrives : At config thread sh pc) (leads : pc.cancelled = some left) :
    Stepped config thread sh (sh, left) := by
  have free : sh.lock ≠ some thread := by
    intro mine
    have holds := arrives.lock.mp mine
    cases pc <;> contradiction
  refine stepped_same consistent ?_
  rcases cancelled_cases leads with rfl | rfl
  · exact at_outside free rfl rfl trivial
  · exact at_outside free rfl rfl trivial

/-- The wait for a socket, or for its bytes, has failed. -/
theorem readFailed_stepped (consistent : Consistent config sh) {pc : Pc} {buffer : Bytes}
    {sock : Nat} (free : sh.lock ≠ some thread) (arrives : At config thread sh pc)
    (resumes : pc.resumes = some (buffer, some sock)) :
    Stepped config thread sh (sh, .errorLock sock) := by
  obtain ⟨reader, kept⟩ := arrives.resumes buffer (some sock) resumes
  exact stepped_same consistent (at_outside free rfl rfl ⟨reader, buffer, kept⟩)

/-- The reader goes on reading: from the top of its loop, at once, or after a sleep. -/
theorem readAgain_stepped (consistent : Consistent config sh) {pc : Pc} {buffer : Bytes}
    {sock : Nat} (free : sh.lock ≠ some thread) (arrives : At config thread sh pc)
    (resumes : pc.resumes = some (buffer, some sock)) :
    Stepped config thread sh (sh, readNothing sh buffer sock) ∧
      Stepped config thread sh (sh, .recv buffer sock) ∧
      Stepped config thread sh (sh, .recvAgain buffer sock) := by
  obtain ⟨reader, kept⟩ := arrives.resumes buffer (some sock) resumes
  have still : ∀ later : Pc, later.resumes = pc.resumes → later.holdsLock = false →
      Known config thread sh later → Stepped config thread sh (sh, later) := by
    intro later same holds known
    exact stepped_same consistent ⟨by simp [free, holds], same ▸ arrives.resumes, known⟩
  refine ⟨?_, still _ resumes.symm rfl trivial, still _ resumes.symm rfl trivial⟩
  exact stepped_same consistent (readTop_at consistent.sound reader free kept.ifCurrent)

/-- Every step of every greenlet leads where it has to lead. -/
theorem step_stepped {pc : Pc} (consistent : Consistent config sh)
    (arrives : At config thread sh pc)
    (stepped : step config thread event sh pc = some result) :
    Stepped config thread sh result := by
  have sound := consistent.sound
  have lock : pc.holdsLock = true → sh.lock = some thread := arrives.lock.mpr
  have unlocked : pc.holdsLock = false → sh.lock ≠ some thread := by
    intro holds mine
    rw [arrives.lock.mp mine] at holds
    contradiction
  have admits : Admits thread sh.toTraffic pc.resumes := arrives.resumes
  cases step_moves stepped with
  | call method =>
    have free := unlocked rfl
    cases method with
    | write data => exact startWrite_stepped consistent free data
    | launch => exact stepped_same consistent (at_outside free rfl rfl trivial)
    | close => exact stepped_same consistent (at_outside free rfl rfl trivial)
  | start | restart =>
    obtain ⟨reader, kept⟩ := arrives.resumes _ _ rfl
    exact stepped_same consistent (readTop_at sound reader (unlocked rfl) kept)
  | cancelled leads => exact cancelled_stepped consistent arrives leads
  | write free =>
    have held := consistent.acquired thread free
    exact (startWrite_settled held sound (consistent.aligned free) arrives.known).stepped_acquired
      free
  | sentNothing isOpen =>
    have sending := arrives.known.2
    apply consistent.settle (lock rfl) sending.connecting
    exact fun held => writeFailed_settled held sound admits sending .exception
  | sent isOpen something within => exact sent_stepped consistent _ arrives
  | @sendLater target sock rest caller =>
    have sending := arrives.known.2
    have held := consistent.held (lock rfl) sending.connecting
    have waits : Settled config thread sh.toTraffic (sh, .sendAgain sock rest caller) :=
      held.settled sound rfl admits sending
    exact waits.stepped_held (lock rfl)
  | sendRaised failure =>
    have sending := arrives.known.2
    apply consistent.settle (lock rfl) sending.connecting
    exact fun held => writeFailed_settled held sound admits sending failure
  | sendAgain =>
    have sending := arrives.known
    apply consistent.settle (lock rfl) sending.connecting
    exact fun held => writeData_settled held sound admits sending
  | sendAgainCancelled =>
    have sending := arrives.known
    apply consistent.settle (lock rfl) sending.connecting
    exact fun held => writeFailed_settled held sound admits sending .cancellation
  | connected =>
    obtain ⟨connecting, dead⟩ := arrives.known
    apply consistent.settle (lock rfl) connecting
    exact fun held => connected_settled held sound admits dead _
  | connectRaised failure =>
    obtain ⟨connecting, dead⟩ := arrives.known
    apply consistent.settle (lock rfl) connecting
    exact fun held => connectFailed_settled held sound admits dead failure _
  | sentHandshake isOpen within => exact sentHandshake_stepped consistent _ arrives
  | handshakeRaised failure =>
    obtain ⟨connecting, current, -⟩ := arrives.known
    apply consistent.settle (lock rfl) connecting
    exact fun held => setupFailed_settled held sound admits current failure _
  | backoff =>
    obtain ⟨connecting, dead⟩ := arrives.known
    apply consistent.settle (lock rfl) connecting
    exact fun held => launchLoop_settled held sound admits dead _
  | @backoffCancelled attempts caller =>
    obtain ⟨connecting, dead⟩ := arrives.known
    apply consistent.settle (lock rfl) connecting
    exact fun held => connectFailed_settled held sound admits dead .cancellation attempts
  | launch free =>
    have held := consistent.acquired thread free
    exact (startConnection_settled held sound).stepped_acquired free
  | close => exact closeLock_stepped consistent arrives
  | closeCancelled => exact closeLock_cancelled consistent arrives
  | closeReaders => exact closeReaders_stepped consistent arrives
  | closeReadersCancelled => exact closeReaders_cancelled consistent arrives
  | deadCheck free =>
    obtain ⟨reader, kept⟩ := arrives.resumes _ _ rfl
    have held := consistent.acquired thread free
    exact (deadCheck_settled held sound (consistent.aligned free) reader kept).stepped_acquired
      free
  | ready =>
    obtain ⟨nothing, again, -⟩ := readAgain_stepped consistent (unlocked rfl) arrives rfl
    split
    · exact again
    · exact nothing
  | unready => exact (readAgain_stepped consistent (unlocked rfl) arrives rfl).1
  | selectRaised => exact readFailed_stepped consistent (unlocked rfl) arrives rfl
  | receivedNothing => exact readFailed_stepped consistent (unlocked rfl) arrives rfl
  | received something isOpen => exact received_stepped consistent _ isOpen arrives
  | recvLater => exact (readAgain_stepped consistent (unlocked rfl) arrives rfl).2.2
  | recvRaised => exact readFailed_stepped consistent (unlocked rfl) arrives rfl
  | recvAgain => exact (readAgain_stepped consistent (unlocked rfl) arrives rfl).1
  | readError free =>
    obtain ⟨reader, buffer, kept⟩ := arrives.known
    have held := consistent.acquired thread free
    exact (readError_settled held sound (consistent.aligned free) reader kept).stepped_acquired
      free
  | @relaunch sock =>
    obtain ⟨connecting, dead⟩ := arrives.known
    have admits : Admits thread sh.toTraffic (LaunchCaller.readError sock).resumes :=
      arrives.resumes
    apply consistent.settle (lock rfl) connecting
    exact fun held => startLaunch_settled held sound admits (aligned_dead dead)
  | relaunchCancelled =>
    obtain ⟨connecting, dead⟩ := arrives.known
    apply consistent.settle (lock rfl) connecting
    exact fun held => closeReturn_settled held sound dead
  | processed =>
    obtain ⟨reader, kept⟩ := arrives.resumes _ _ rfl
    exact readLines_stepped consistent reader (unlocked rfl) kept _ arrives.known

end Steps

section Runs

variable {config : Config μ}

/-- The assertions about the shared state and about every greenlet. -/
def assertions (config : Config μ) : Assertions (Shared μ) Pc where
  global := Consistent config
  thread := At config

/-- Nothing went through a reader that was just constructed. -/
theorem initial_holds (config : Config μ) : (assertions config).Holds initial := by
  have kept : Kept (initial : Pool (Shared μ) Pc).shared.toTraffic [] none := ⟨nofun, nofun⟩
  refine ⟨⟨⟨nofun, fun _ _ => ⟨rfl, rfl⟩, ?_, nofun, nofun, rfl⟩, fun _ => nofun, fun _ => rfl,
    fun _ => nofun⟩, ?_⟩
  · intro sock
    exact ⟨_, whole_setup config _⟩
  · intro thread
    by_cases reader : thread = 0
    · subst reader
      refine ⟨by simp [initial, Pc.holdsLock], ?_, trivial⟩
      rintro _ _ ⟨⟩
      exact ⟨rfl, kept⟩
    · simp only [initial, if_neg reader]
      exact at_outside (by simp) rfl rfl trivial

/-- A step of one greenlet keeps all assertions. -/
theorem fire_holds {pool next : Pool (Shared μ) Pc} {thread : Nat} {event : Event}
    (holds : (assertions config).Holds pool)
    (fired : (machine config).fire pool thread event = some next) :
    (assertions config).Holds next := by
  have steps : ∀ shared point,
      (machine config).step thread event pool.shared (pool.control thread) =
        some (shared, point) → Stepped config thread pool.shared (shared, point) :=
    fun _ _ stepped => step_stepped holds.1 (holds.2 thread) stepped
  apply Assertions.preserved fired
  · intro shared point stepped
    exact ⟨(steps shared point stepped).consistent, (steps shared point stepped).arrives⟩
  · intro shared point stepped other distinct
    exact (holds.2 other).undisturbed holds.1.sound (steps shared point stepped).undisturbed
      distinct

/-- The assertions hold in every state that a run reaches. -/
theorem run_holds (schedule : List (Nat × Event)) (last : Pool (Shared μ) Pc)
    (ran : (machine config).run initial schedule = some last) :
    (assertions config).Holds last :=
  Machine.run_preserves_all (fun _ _ _ _ holds fired => fire_holds holds fired) initial schedule
    last (initial_holds config) ran

end Runs

end DifyPlugin.Tcp
