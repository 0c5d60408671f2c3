import DifyPlugin.Core.Server.Tcp.Streams
import DifyPlugin.Library.Blocks

/-!
# The order of the payloads

`opt_lock` serialises the calls of `write`, and a call that fails is not repeated on the next
connection. So no payload reaches two connections, and those of one greenlet leave in the order of
its calls, over all reconnections. `InOrder` says so of the bytes that were sent, and `Newest` is
what a greenlet knows of its own call until the call ends.
-/

namespace DifyPlugin.Tcp

open Interleaving Decoding Splitting Blocks

variable {μ : Type}

/-- The call that a greenlet is in, and the socket it has chosen, if it has. -/
def Pc.writing : Pc → Option (Nat × Option Nat)
  | .writeLock number _ => some (number, none)
  | .send _ sock _ (.call number) | .sendAgain sock _ (.call number) => some (number, some sock)
  | _ => none

/-- A byte is not followed by one of an earlier call of its greenlet. -/
def NotAfter (earlier later : Option CallId × UInt8) : Prop :=
  ∀ thread first second, earlier.1 = some (thread, first) → later.1 = some (thread, second) →
    first ≤ second

/-- The bytes of every greenlet were sent in the order of its calls. -/
structure InOrder (traffic : Traffic μ) : Prop where
  /-- The sockets that were used are not above the current one. -/
  below : ∀ sock, traffic.sock = some sock → ∀ other,
    (traffic.conns other).accepted ≠ [] → other ≤ sock
  /-- They are in order on every connection. -/
  within : ∀ sock, (traffic.conns sock).accepted.Pairwise NotAfter
  /-- The bytes on a later connection belong to later calls. -/
  across : ∀ earlier later, earlier < later → ∀ thread first second byte other,
    (some (thread, first), byte) ∈ (traffic.conns earlier).accepted →
    (some (thread, second), other) ∈ (traffic.conns later).accepted → first < second

/-- The call that a greenlet is in is its last one, and has sent bytes on its socket only. -/
def Newest (thread : Nat) (sh : Shared μ) (pc : Pc) : Prop :=
  ∀ number target, pc.writing = some (number, target) →
    number + 1 = (sh.issued thread).length ∧
      ∀ sock byte, (some (thread, number), byte) ∈ (sh.conns sock).accepted → target = some sock

/-- A stretch of code ends a call, or is not about one: it sends nothing. -/
structure Outside (sh : Shared μ) (result : Shared μ × Pc) : Prop where
  /-- No call is issued. -/
  issued : result.1.issued = sh.issued
  /-- Nothing is sent. -/
  accepted : ∀ sock, (result.1.conns sock).accepted = (sh.conns sock).accepted
  /-- The current socket is the old one or a new one. -/
  sock : ∀ sock, result.1.sock = some sock → sh.sock = some sock ∨ sh.created ≤ sock
  /-- The greenlet is in no call. -/
  writing : result.2.writing = none

section OutsideCalls

variable {config : Config μ} {sh before : Shared μ} {caller : LaunchCaller}

/-- Going to a blocking point outside of the calls sends nothing. -/
theorem Outside.same {pc : Pc} (writing : pc.writing = none) : Outside sh (sh, pc) :=
  ⟨rfl, fun _ => rfl, fun _ current => Or.inl current, writing⟩

/-- Code outside of the calls behind a change that sends nothing. -/
theorem Outside.behind {result : Shared μ × Pc} (outside : Outside sh result)
    (issued : sh.issued = before.issued)
    (accepted : ∀ sock, (sh.conns sock).accepted = (before.conns sock).accepted)
    (sock : sh.sock = before.sock) (created : before.created ≤ sh.created) :
    Outside before result where
  issued := outside.issued.trans issued
  accepted := fun other => (outside.accepted other).trans (accepted other)
  sock := by
    intro other current
    rcases outside.sock other current with old | new
    · exact Or.inl (sock ▸ old)
    · exact Or.inr (Nat.le_trans created new)
  writing := outside.writing

/-- Code outside of the calls behind a closed socket. -/
theorem Outside.closed {result : Shared μ × Pc} {sock : Nat} {alive : Bool}
    (outside : Outside { sh.closeSock sock with alive } result) : Outside sh result :=
  outside.behind rfl (fun other => sh.toTraffic.closeSock_accepted sock other) rfl (Nat.le_refl _)

/-- The top of the reader's loop is in no call. -/
theorem readTop_writing (sh : Shared μ) (buffer : Bytes) (source : Option Nat) :
    (readBody sh buffer source).writing = none ∧ (readTop sh buffer source).writing = none := by
  have body : (readBody sh buffer source).writing = none := by
    rw [readBody]
    split <;> rfl
  refine ⟨body, ?_⟩
  rw [readTop]
  split
  · rfl
  · split
    · exact body
    · rfl

/-- `_launch` returns, and sends nothing. -/
theorem launchReturn_outside (sh : Shared μ) (caller : LaunchCaller) :
    Outside sh (launchReturn sh caller) := by
  cases caller with
  | launch | write => exact ⟨rfl, fun _ => rfl, fun _ current => Or.inl current, rfl⟩
  | deadCheck buffer source =>
    exact ⟨rfl, fun _ => rfl, fun _ current => Or.inl current, (readTop_writing _ _ _).1⟩
  | readError sock =>
    exact ⟨rfl, fun _ => rfl, fun _ current => Or.inl current, (readTop_writing _ _ _).2⟩

/-- `_launch` raises, and sends nothing. -/
theorem launchRaise_outside (sh : Shared μ) (failure : Failure) (caller : LaunchCaller) :
    Outside sh (launchRaise sh failure caller) := by
  cases failure <;> cases caller <;>
    exact ⟨rfl, fun _ => rfl, fun _ current => Or.inl current, rfl⟩

/-- `_launch` goes on, and sends nothing. -/
theorem launchLoop_outside (config : Config μ) (sh : Shared μ) (attempts : Nat)
    (caller : LaunchCaller) : Outside sh (launchLoop config sh attempts caller) := by
  rw [launchLoop]
  split
  · exact Outside.same rfl
  · exact (launchReturn_outside _ caller).behind rfl (fun _ => rfl) rfl (Nat.le_refl _)

/-- `_launch` starts, and sends nothing. -/
theorem startLaunch_outside (config : Config μ) (sh : Shared μ) (caller : LaunchCaller) :
    Outside sh (startLaunch config sh caller) := by
  rw [startLaunch]
  split
  · exact launchReturn_outside sh caller
  · exact (launchLoop_outside config _ 0 caller).behind rfl (fun _ => rfl) rfl (Nat.le_refl _)

/-- A failed attempt sends nothing. -/
theorem connectFailed_outside (config : Config μ) (sh : Shared μ) (failure : Failure)
    (attempts : Nat) (caller : LaunchCaller) :
    Outside sh (connectFailed config sh failure attempts caller) := by
  cases failure with
  | cancellation =>
    exact (launchRaise_outside _ _ caller).behind rfl (fun _ => rfl) rfl (Nat.le_refl _)
  | exception =>
    simp only [connectFailed]
    split
    · exact (launchRaise_outside _ _ caller).behind rfl (fun _ => rfl) rfl (Nat.le_refl _)
    · exact Outside.same rfl

/-- A failed setup sends nothing. -/
theorem setupFailed_outside (config : Config μ) (sh : Shared μ) (failure : Failure)
    (sock attempts : Nat) (caller : LaunchCaller) :
    Outside sh (setupFailed config sh failure sock attempts caller) := by
  have outside := connectFailed_outside config
    (({ sh with alive := false } : Shared μ).closeSock sock) failure attempts caller
  exact outside.behind rfl (fun other => sh.toTraffic.closeSock_accepted sock other) rfl
    (Nat.le_refl _)

/-- The registration starts, or ends: its writes are no calls. -/
theorem register_outside (config : Config μ) (sh : Shared μ) (sock attempts : Nat)
    (caller : LaunchCaller) (frames : List Bytes) :
    Outside sh (register config sh sock attempts caller frames) := by
  induction frames with
  | nil => exact (launchReturn_outside _ caller).behind rfl (fun _ => rfl) rfl (Nat.le_refl _)
  | cons frame frames ih =>
    rw [register]
    split
    · split
      · exact ih
      · exact Outside.same rfl
    · exact setupFailed_outside config sh .exception sock attempts caller

/-- The handshake goes on, and sends nothing. -/
theorem sendHandshake_outside (config : Config μ) (sh : Shared μ) (sock : Nat) (rest : Bytes)
    (attempts : Nat) (caller : LaunchCaller) :
    Outside sh (sendHandshake config sh sock rest attempts caller) := by
  rw [sendHandshake]
  split
  · exact register_outside config sh sock attempts caller _
  · exact Outside.same rfl

/-- A new connection sends nothing. -/
theorem connected_outside (config : Config μ) (sh : Shared μ) (attempts : Nat)
    (caller : LaunchCaller) (sound : Sound config sh.toTraffic) :
    Outside sh (connected config sh attempts caller) := by
  have fresh := sound.frame_create
  unfold connected
  dsimp only
  split
  · refine (launchReturn_outside _ caller).behind rfl ?_ rfl (Nat.le_succ _)
    intro other
    exact (Traffic.closeSock_accepted _ _ other).trans (fresh.accepted other)
  · have outside := sendHandshake_outside config
      { sh with toTraffic := { sh.toTraffic.create with sock := some sh.created }, alive := true }
      sh.created config.handshake attempts caller
    refine ⟨outside.issued, fun other => (outside.accepted other).trans (fresh.accepted other), ?_,
      outside.writing⟩
    intro other current
    rcases outside.sock other current with old | new
    · exact Or.inr (Nat.le_of_eq (Option.some.inj old))
    · exact Or.inr (Nat.le_of_succ_le new)

/-- `write` raises, and sends nothing. -/
theorem writeRaise_outside (config : Config μ) (sh : Shared μ) (failure : Failure)
    (caller : WriteCaller) : Outside sh (writeRaise config sh failure caller) := by
  cases caller with
  | call number => exact ⟨rfl, fun _ => rfl, fun _ current => Or.inl current, rfl⟩
  | registration sock attempts frames caller =>
    exact setupFailed_outside config sh failure sock attempts caller

/-- A failed send sends nothing again. -/
theorem writeFailed_outside (config : Config μ) (sh : Shared μ) (failure : Failure) (sock : Nat)
    (caller : WriteCaller) : Outside sh (writeFailed config sh failure sock caller) := by
  unfold writeFailed
  dsimp only
  split
  · exact (writeRaise_outside config _ failure caller).closed
  · cases failure with
    | cancellation =>
      have outside := writeRaise_outside config
        { sh.closeSock sock with alive := false, reconnectPending := true } .cancellation caller
      exact outside.behind rfl (fun other => sh.toTraffic.closeSock_accepted sock other) rfl
        (Nat.le_refl _)
    | exception =>
      cases caller with
      | call number => exact (startLaunch_outside config _ .write).closed
      | registration created attempts frames caller => exact (Outside.same rfl).closed

/-- `close` returns, and sends nothing. -/
theorem closeReturn_outside (sh : Shared μ) (caller : CloseCaller) :
    Outside sh (closeReturn sh caller) := by
  cases caller <;> exact ⟨rfl, fun _ => rfl, fun _ current => Or.inl current, rfl⟩

/-- Code outside of the calls behind the end of `close`. -/
theorem Outside.closeConnection {result : Shared μ × Pc}
    (outside : Outside (Tcp.closeConnection sh) result) : Outside sh result := by
  obtain ⟨-, -, sock, created⟩ := closeConnection_flags sh
  have frame := closeConnection_frame sh
  exact outside.behind frame.issued frame.accepted sock (Nat.le_of_eq created.symm)

/-- `launch` starts, and sends nothing. -/
theorem startConnection_outside (config : Config μ) (sh : Shared μ) :
    Outside sh (startConnection config sh) := by
  have outside := startLaunch_outside config
    { closeConnection sh with closed := false, exhausted := false } .launch
  have opened : Outside (closeConnection sh) (startConnection config sh) :=
    outside.behind rfl (fun _ => rfl) rfl (Nat.le_refl _)
  exact opened.closeConnection

/-- The dead check sends nothing. -/
theorem deadCheck_outside (config : Config μ) (sh : Shared μ) (buffer : Bytes)
    (source : Option Nat) : Outside sh (deadCheck config sh buffer source) := by
  rw [deadCheck]
  split
  · exact ⟨rfl, fun _ => rfl, fun _ current => Or.inl current, (readTop_writing _ _ _).1⟩
  · split
    · exact startLaunch_outside config sh _
    · exact Outside.same rfl

/-- A failed read sends nothing. -/
theorem readError_outside (sh : Shared μ) (sock : Nat) : Outside sh (readError sh sock) := by
  rw [readError]
  split
  · exact ⟨rfl, fun _ => rfl, fun _ current => Or.inl current, rfl⟩
  · split
    · exact (Outside.same rfl).closed
    · exact ⟨rfl, fun _ => rfl, fun _ current => Or.inl current, (readTop_writing _ _ _).2⟩

/-- Handing on lines sends nothing. -/
theorem readLines_outside (config : Config μ) (sh : Shared μ) (buffer : Bytes) (sock : Nat)
    (lines : List Bytes) : Outside sh (readLines config sh buffer sock lines) := by
  induction lines generalizing sh with
  | nil => exact Outside.same (readTop_writing _ _ _).2
  | cons line lines ih =>
    simp only [readLines]
    split
    · exact ih sh
    · split
      · exact (ih _).behind rfl (fun _ => rfl) rfl (Nat.le_refl _)
      · split <;> exact ⟨rfl, fun _ => rfl, fun _ current => Or.inl current, rfl⟩

/-- Reading sends nothing. -/
theorem readData_outside (config : Config μ) (sh : Shared μ) (buffer : Bytes) (sock : Nat)
    (data : Bytes) : Outside sh (readData config sh buffer sock data) := by
  rw [readData]
  split
  · exact readLines_outside config sh _ sock _
  · exact Outside.same (readTop_writing _ _ _).2

end OutsideCalls

section Steps

variable {config : Config μ} {thread : Nat} {sh : Shared μ} {event : Event} {result : Shared μ × Pc}

/-- What a step keeps for the order: that of all bytes, and what its greenlet knows. -/
structure Lodged (thread : Nat) (result : Shared μ × Pc) : Prop where
  /-- The bytes are in order. -/
  inOrder : InOrder result.1.toTraffic
  /-- The greenlet knows about its call. -/
  newest : Newest thread result.1 result.2

/-- Outside of a call there is nothing to know. -/
theorem newest_outside {pc : Pc} (outside : pc.writing = none) : Newest thread sh pc := by
  intro number target inside
  rw [outside] at inside
  contradiction

/-- Code outside of the calls keeps the order. -/
theorem Outside.lodged (outside : Outside sh result) (sound : Sound config sh.toTraffic)
    (inOrder : InOrder sh.toTraffic) : Lodged thread result where
  inOrder :=
    { below := by
        intro sock current other used
        rw [outside.accepted] at used
        rcases outside.sock sock current with old | new
        · exact inOrder.below sock old other used
        · by_contra above
          have later : sh.created ≤ other := Nat.le_trans new (Nat.le_of_not_le above)
          exact used (sound.fresh other later).1
      within := by
        intro sock
        rw [outside.accepted]
        exact inOrder.within sock
      across := by
        intro earlier later
        rw [outside.accepted, outside.accepted]
        exact inOrder.across earlier later }
  newest := newest_outside outside.writing

/-- A send on the current socket keeps the order when its call is the last one of its greenlet and
has sent bytes on this socket only. -/
theorem InOrder.accept {traffic : Traffic μ} (inOrder : InOrder traffic) {sock : Nat}
    (current : traffic.sock = some sock) {origin : Option CallId} (bytes : Bytes)
    (last : ∀ other number, origin = some (other, number) →
      ∀ target earlier byte, (some (other, earlier), byte) ∈ (traffic.conns target).accepted →
        earlier ≤ number ∧ (earlier = number → target = sock)) :
    InOrder (traffic.accept sock origin bytes) where
  below := by
    intro other same target used
    obtain rfl : sock = other := Option.some.inj (current.symm.trans same)
    by_cases here : target = sock
    · exact Nat.le_of_eq here
    · rw [traffic.accept_accepted_of_ne origin bytes here] at used
      exact inOrder.below sock current target used
  within := by
    intro target
    by_cases here : target = sock
    · subst here
      rw [traffic.accept_accepted_self, List.pairwise_append]
      refine ⟨inOrder.within target, ?_, ?_⟩
      · refine List.pairwise_of_forall_mem_list ?_
        intro left foundLeft right foundRight other first second one two
        have same := ((mem_tag origin left.1 bytes left.2).mp foundLeft).1.symm.trans
          ((mem_tag origin right.1 bytes right.2).mp foundRight).1
        rw [one, two] at same
        exact Nat.le_of_eq (Prod.mk.inj (Option.some.inj same)).2
      · intro left foundLeft right foundRight other first second one two
        have sent := ((mem_tag origin right.1 bytes right.2).mp foundRight).1
        have earlier : (some (other, first), left.2) ∈ (traffic.conns target).accepted :=
          one ▸ foundLeft
        exact (last other second (sent.trans two) target first left.2 earlier).1
    · rw [traffic.accept_accepted_of_ne origin bytes here]
      exact inOrder.within target
  across := by
    intro earlier later before other first second byte byte' one two
    have lower : later ≤ sock := by
      by_cases here : later = sock
      · exact Nat.le_of_eq here
      · rw [traffic.accept_accepted_of_ne origin bytes here] at two
        exact inOrder.below sock current later (List.ne_nil_of_mem two)
    have old : earlier ≠ sock := Nat.ne_of_lt (Nat.lt_of_lt_of_le before lower)
    rw [traffic.accept_accepted_of_ne origin bytes old] at one
    by_cases here : later = sock
    · subst here
      rw [traffic.accept_accepted_self, List.mem_append, mem_tag] at two
      rcases two with present | ⟨sent, -⟩
      · exact inOrder.across earlier later before other first second byte byte' one present
      · obtain ⟨notAfter, only⟩ := last other second sent earlier first byte one
        exact Nat.lt_of_le_of_ne notAfter fun same => old (only same)
    · rw [traffic.accept_accepted_of_ne origin bytes here] at two
      exact inOrder.across earlier later before other first second byte byte' one two

/-- What another socket has accepted it had before. -/
theorem mem_accept_of_ne {traffic : Traffic μ} {sock other : Nat} {origin : Option CallId}
    {bytes : Bytes} {entry : Option CallId × UInt8} (distinct : other ≠ sock)
    (sent : entry ∈ ((traffic.accept sock origin bytes).conns other).accepted) :
    entry ∈ (traffic.conns other).accepted := by
  rwa [traffic.accept_accepted_of_ne origin bytes distinct] at sent

/-- `_write_data` of a call goes on, or the call ends. -/
theorem writeData_lodged (sound : Sound config sh.toTraffic) (inOrder : InOrder sh.toTraffic)
    {sock number : Nat} (rest : Bytes)
    (newest : Newest thread sh (.sendAgain sock rest (.call number))) :
    Lodged thread (writeData config sh sock rest (.call number)) := by
  rw [writeData]
  split
  · have outside : Outside sh (sh.release, .idle) :=
      ⟨rfl, fun _ => rfl, fun _ current => Or.inl current, rfl⟩
    exact outside.lodged sound inOrder
  · exact ⟨inOrder, newest⟩

/-- `write` has the lock. -/
theorem startWrite_lodged (sound : Sound config sh.toTraffic) (inOrder : InOrder sh.toTraffic)
    {number : Nat} {data : Bytes} (newest : Newest thread sh (.writeLock number data)) :
    Lodged thread (startWrite config sh number data) := by
  unfold startWrite
  split
  · rename_i sock _ _
    refine writeData_lodged sound inOrder data ?_
    rintro _ _ ⟨⟩
    obtain ⟨last, absent⟩ := newest number none rfl
    refine ⟨last, fun other byte sent => ?_⟩
    have impossible := absent other byte sent
    contradiction
  · have outside : Outside sh (sh.release, .idle) :=
      ⟨rfl, fun _ => rfl, fun _ current => Or.inl current, rfl⟩
    exact outside.lodged sound inOrder

/-- A greenlet calls `write`. -/
theorem startCall_lodged (sound : Sound config sh.toTraffic) (inOrder : InOrder sh.toTraffic)
    (method : Call) : Lodged thread (startCall sh thread method) := by
  cases method with
  | write data =>
    refine ⟨⟨inOrder.below, inOrder.within, inOrder.across⟩, ?_⟩
    rintro _ _ ⟨⟩
    refine ⟨by simp [startCall], fun sock byte sent => ?_⟩
    -- A number that was not issued has not been sent.
    exact absurd (sound.tagged sock _ byte sent) (Nat.lt_irrefl _)
  | launch | close => exact (Outside.same rfl).lodged sound inOrder

/-- The socket accepted bytes of a payload or of a registration frame. -/
theorem sent_lodged (consistent : Consistent config sh) (inOrder : InOrder sh.toTraffic)
    {target sock : Nat} {rest : Bytes} {caller : WriteCaller} (count : Nat)
    (arrives : At config thread sh (.send target sock rest caller))
    (newest : Newest thread sh (.send target sock rest caller)) :
    Lodged thread (writeData config { sh with
      toTraffic := sh.toTraffic.accept target (caller.origin thread) (rest.take count) } sock
      (rest.drop count) caller) := by
  obtain ⟨rfl, sending⟩ := arrives.known
  have created := consistent.sound.created target sending.current
  have whole := sending.whole
  rw [unsent_split thread rest caller count, ← List.append_assoc] at whole
  have sound := consistent.sound.accept created whole
  cases caller with
  | call number =>
    obtain ⟨last, only⟩ := newest number (some target) rfl
    have later :
        InOrder (sh.toTraffic.accept target (some (thread, number)) (rest.take count)) := by
      refine inOrder.accept sending.current _ ?_
      rintro _ _ ⟨⟩ other earlier byte sent
      have issued := consistent.sound.tagged other (thread, earlier) byte sent
      refine ⟨by simp only at issued; omega, ?_⟩
      rintro rfl
      exact (Option.some.inj (only other byte sent)).symm
    refine writeData_lodged sound later _ ?_
    rintro _ _ ⟨⟩
    refine ⟨last, fun other byte sent => ?_⟩
    by_cases here : other = target
    · rw [here]
    · exact only other byte (mem_accept_of_ne here sent)
  | registration made attempts frames caller =>
    have later : InOrder (sh.toTraffic.accept target none (rest.take count)) :=
      inOrder.accept sending.current _ (by simp)
    rw [writeData]
    split
    · exact (register_outside config _ made attempts caller frames).lodged sound later
    · exact ⟨later, newest_outside rfl⟩

/-- The socket accepted bytes of the handshake. -/
theorem sentHandshake_lodged (consistent : Consistent config sh) (inOrder : InOrder sh.toTraffic)
    {sock : Nat} {rest : Bytes} {attempts : Nat} {caller : LaunchCaller} (count : Nat)
    (arrives : At config thread sh (.handshake sock rest attempts caller)) :
    Lodged thread (sendHandshake config { sh with
      toTraffic := sh.toTraffic.accept sock none (rest.take count) } sock (rest.drop count)
      attempts caller) := by
  obtain ⟨-, current, whole⟩ := arrives.known
  have created := consistent.sound.created sock current
  rw [← List.take_append_drop count rest, List.append_assoc, tag_append,
    ← List.append_assoc] at whole
  have sound := consistent.sound.accept created whole
  exact (sendHandshake_outside config _ sock _ attempts caller).lodged sound
    (inOrder.accept current _ (by simp))

/-- Every step keeps the order. -/
theorem step_lodged {pc : Pc} (consistent : Consistent config sh)
    (arrives : At config thread sh pc) (inOrder : InOrder sh.toTraffic)
    (newest : Newest thread sh pc)
    (stepped : step config thread event sh pc = some result) : Lodged thread result := by
  have sound := consistent.sound
  have leaves : ∀ {after : Shared μ × Pc}, Outside sh after → Lodged thread after :=
    fun outside => outside.lodged sound inOrder
  cases step_moves stepped with
  | call method => exact startCall_lodged sound inOrder method
  | start | restart => exact leaves (Outside.same (readTop_writing _ _ _).2)
  | cancelled leads =>
    rcases cancelled_cases leads with rfl | rfl
    · exact leaves (Outside.same rfl)
    · exact leaves (Outside.same rfl)
  | write free =>
    exact @startWrite_lodged μ config thread { sh with lock := some thread } sound inOrder _ _
      newest
  | sentNothing isOpen => exact leaves (writeFailed_outside config sh _ _ _)
  | sent isOpen something within => exact sent_lodged consistent inOrder _ arrives newest
  | @sendLater target sock rest caller =>
    cases caller with
    | call number => exact ⟨inOrder, newest⟩
    | registration => exact leaves (Outside.same rfl)
  | sendRaised failure => exact leaves (writeFailed_outside config sh _ _ _)
  | @sendAgain sock rest caller =>
    cases caller with
    | call number => exact writeData_lodged sound inOrder rest newest
    | registration made attempts frames caller =>
      rw [writeData]
      split
      · exact leaves (register_outside config _ made attempts caller frames)
      · exact ⟨inOrder, newest_outside rfl⟩
  | sendAgainCancelled => exact leaves (writeFailed_outside config sh _ _ _)
  | connected => exact leaves (connected_outside config sh _ _ sound)
  | connectRaised failure => exact leaves (connectFailed_outside config sh _ _ _)
  | sentHandshake isOpen within => exact sentHandshake_lodged consistent inOrder _ arrives
  | handshakeRaised failure => exact leaves (setupFailed_outside config sh _ _ _ _)
  | backoff => exact leaves (launchLoop_outside config sh _ _)
  | backoffCancelled =>
    exact leaves ((launchRaise_outside _ _ _).behind rfl (fun _ => rfl) rfl (Nat.le_refl _))
  | launch free =>
    exact leaves ((startConnection_outside config { sh with lock := some thread }).behind rfl
      (fun _ => rfl) rfl (Nat.le_refl _))
  | close => exact leaves ⟨rfl, fun _ => rfl, fun _ current => Or.inl current, rfl⟩
  | closeCancelled => exact leaves (closeReturn_outside sh _)
  | closeReaders => exact leaves (closeReturn_outside _ _).closeConnection
  | closeReadersCancelled => exact leaves (closeReturn_outside sh _)
  | deadCheck free =>
    exact leaves ((deadCheck_outside config { sh with lock := some thread } _ _).behind rfl
      (fun _ => rfl) rfl (Nat.le_refl _))
  | ready =>
    refine leaves (Outside.same ?_)
    split
    · rfl
    · exact (readTop_writing _ _ _).2
  | unready | recvAgain => exact leaves (Outside.same (readTop_writing _ _ _).2)
  | selectRaised | receivedNothing | recvLater | recvRaised => exact leaves (Outside.same rfl)
  | received something isOpen =>
    exact leaves ((readData_outside config _ _ _ _).behind rfl
      (fun other => sh.toTraffic.receive_accepted _ other _) rfl (Nat.le_refl _))
  | readError free =>
    exact leaves ((readError_outside { sh with lock := some thread } _).behind rfl
      (fun _ => rfl) rfl (Nat.le_refl _))
  | relaunch => exact leaves (startLaunch_outside config sh _)
  | relaunchCancelled => exact leaves ⟨rfl, fun _ => rfl, fun _ current => Or.inl current, rfl⟩
  | processed => exact leaves (readLines_outside config sh _ _ _)

end Steps

section Runs

variable {config : Config μ}

/-- A greenlet still knows about its call after the step of another one. -/
theorem Newest.undisturbed {thread other : Nat} {sh after : Shared μ} {pc : Pc}
    (newest : Newest other sh pc) (undisturbed : Undisturbed thread sh after)
    (distinct : other ≠ thread) : Newest other after pc := by
  intro number target inside
  obtain ⟨last, only⟩ := newest number target inside
  refine ⟨by rw [undisturbed.issued other distinct]; exact last, fun sock byte sent => ?_⟩
  exact only sock byte (undisturbed.tagged other distinct sock number byte sent)

/-- The order of the bytes, and what every greenlet knows of its call. -/
def ordering : Assertions (Shared μ) Pc where
  global sh := InOrder sh.toTraffic
  thread := Newest

/-- Nothing was sent by a reader that was just constructed. -/
theorem initial_ordering : ordering.Holds (initial : Pool (Shared μ) Pc) := by
  refine ⟨⟨fun sock current => by simp [initial] at current, fun _ => .nil, ?_⟩, fun thread => ?_⟩
  · intro earlier later _ thread first second byte other sent
    exact absurd sent List.not_mem_nil
  · refine newest_outside ?_
    rw [initial]
    dsimp only
    split <;> rfl

/-- The order holds in every state that a run reaches. -/
theorem run_ordering (schedule : List (Nat × Event)) (last : Pool (Shared μ) Pc)
    (ran : (machine config).run initial schedule = some last) : ordering.Holds last := by
  have kept : ∀ pool thread event next,
      (assertions config).Holds pool ∧ ordering.Holds pool →
      (machine config).fire pool thread event = some next →
      (assertions config).Holds next ∧ ordering.Holds next := by
    intro pool thread event next holds fired
    obtain ⟨base, ordered⟩ := holds
    refine ⟨fire_holds base fired, Assertions.preserved fired ?_ ?_⟩
    · intro shared point stepped
      have lodged := step_lodged base.1 (base.2 thread) ordered.1 (ordered.2 thread) stepped
      exact ⟨lodged.inOrder, lodged.newest⟩
    · intro shared point stepped other distinct
      exact (ordered.2 other).undisturbed
        (step_stepped base.1 (base.2 thread) stepped).undisturbed distinct
  exact (Machine.run_preserves_all kept initial schedule last
    ⟨initial_holds config, initial_ordering⟩ ran).2

end Runs

section Calls

variable {config : Config μ} {traffic : Traffic μ}

/-- What a connection has accepted: a part of its setup, or the setup, whole payloads, and some
or all of the payload of the last call. -/
def Carried (config : Config μ) (traffic : Traffic μ) (calls : List CallId) (sock : Nat) : Prop :=
  Reaches (tag none config.setup) (fun call => tag (some call) (traffic.payload call)) calls
    (traffic.conns sock).accepted

/-- A payload with bytes is a block that is not empty. -/
theorem tag_ne_nil {origin : Option CallId} {bytes : Bytes} (visible : bytes ≠ []) :
    tag origin bytes ≠ [] := by
  rw [tag]
  exact fun empty => visible (List.map_eq_nil_iff.mp empty)

/-- Payloads without bytes leave no trace. -/
theorem flatMap_visible (calls : List CallId) :
    calls.flatMap (fun call => tag (some call) (traffic.payload call)) =
      (calls.filter fun call => traffic.payload call ≠ []).flatMap
        fun call => tag (some call) (traffic.payload call) := by
  induction calls with
  | nil => rfl
  | cons call calls ih =>
    by_cases visible : traffic.payload call = []
    · rw [List.flatMap_cons, List.filter_cons_of_neg (by simp [visible]), ih, visible]
      rfl
    · rw [List.flatMap_cons, List.filter_cons_of_pos (by simp [visible]), List.flatMap_cons, ih]

/-- Every connection carries payloads of distinct calls, in the order of the bytes. -/
theorem Sound.carried (sound : Sound config traffic) (inOrder : InOrder traffic) (sock : Nat) :
    ∃ calls, Carried config traffic calls sock ∧
      (∀ call ∈ calls, call.2 < (traffic.issued call.1).length ∧
        ∃ byte, (some call, byte) ∈ (traffic.conns sock).accepted) ∧
      calls.Pairwise fun earlier later => earlier.1 = later.1 → earlier.2 < later.2 := by
  obtain ⟨more, calls, distinct, issued, whole⟩ := sound.sent sock
  rw [flatMap_visible] at whole
  have visible : ∀ call ∈ calls.filter fun call => traffic.payload call ≠ [],
      tag (some call) (traffic.payload call) ≠ [] := by
    intro call listed
    exact tag_ne_nil (by simpa using (List.mem_filter.mp listed).2)
  obtain ⟨reached, first, reaches⟩ := reaches_of_isPrefix visible ⟨more, whole⟩
  have loud : ∀ call ∈ reached, tag (some call) (traffic.payload call) ≠ [] :=
    fun call listed => visible call (first.subset listed)
  refine ⟨reached, reaches, fun call listed => ⟨?_, ?_⟩, ?_⟩
  · exact issued call (List.mem_filter.mp (first.subset listed)).1
  · obtain ⟨head, inside, found⟩ := reaches.begun loud listed
    obtain ⟨origin, byte⟩ := head
    obtain rfl := ((mem_tag (some call) origin _ byte).mp inside).1
    exact ⟨byte, found⟩
  · have once : reached.Nodup := (distinct.filter _).sublist first.sublist
    refine (once.and (reaches.pairwise loud (inOrder.within sock))).imp ?_
    rintro ⟨thread, number⟩ ⟨thread', number'⟩ ⟨differs, left, one, right, two, notAfter⟩ same
    obtain rfl : thread = thread' := same
    have origin := ((mem_tag _ left.1 _ left.2).mp one).1
    have origin' := ((mem_tag _ right.1 _ right.2).mp two).1
    refine Nat.lt_of_le_of_ne (notAfter thread number number' origin.symm origin'.symm) ?_
    rintro rfl
    exact differs rfl

end Calls

/-- Every connection carries its setup and then whole payloads, of which the last one may be cut.
Over all connections, in the order in which they were made, the calls of one greenlet come in the
order in which it made them, and no call comes twice. -/
theorem write_inOrder (config : Config μ) (schedule : List (Nat × Event))
    (last : Pool (Shared μ) Pc)
    (ran : (machine config).run initial schedule = some last) :
    ∃ calls : Nat → List CallId,
      (∀ sock, Carried config last.shared.toTraffic (calls sock) sock ∧
        ∀ call ∈ calls sock, call.2 < (last.shared.issued call.1).length) ∧
      ((List.range last.shared.created).flatMap calls).Pairwise
        fun earlier later => earlier.1 = later.1 → earlier.2 < later.2 := by
  have sound := (run_holds schedule last ran).1.sound
  have inOrder := (run_ordering schedule last ran).1
  choose calls carried each sorted using fun sock => sound.carried inOrder sock
  refine ⟨calls, fun sock => ⟨carried sock, fun call listed => (each sock call listed).1⟩, ?_⟩
  refine List.pairwise_flatMap.mpr ⟨fun sock _ => sorted sock, ?_⟩
  refine List.pairwise_lt_range.imp ?_
  intro earlier later before call listed call' listed' same
  obtain ⟨-, byte, sent⟩ := each earlier call listed
  obtain ⟨-, byte', sent'⟩ := each later call' listed'
  obtain ⟨thread, number⟩ := call
  obtain ⟨thread', number'⟩ := call'
  obtain rfl : thread = thread' := same
  exact inOrder.across earlier later before thread number number' byte byte' sent sent'

/-- Greenlet 1 writes twice and fails within the second payload; greenlet 2 has written between
the two, and writes again on the next connection. -/
def reconnecting : List (Nat × Event) :=
  launching ++
    [(1, .call (.write [1])), (2, .call (.write [4])), (1, .resumed), (1, .sent 1), (2, .resumed),
      (2, .sent 1), (1, .call (.write [2, 3])), (1, .resumed), (1, .sent 1),
      (1, .raised .exception), (1, .connected), (1, .sent 2), (1, .sent 2),
      (2, .call (.write [5])), (2, .resumed), (2, .sent 1)]

/-- The cut payload is not repeated on the second connection. -/
theorem write_inOrder_reconnecting :
    ∃ last, (machine example₁).run initial reconnecting = some last ∧
      (last.shared.conns 0).accepted =
        tag none [72, 10, 82, 10] ++ tag (some (1, 0)) [1] ++ tag (some (2, 0)) [4] ++
          tag (some (1, 1)) [2] ∧
      (last.shared.conns 1).accepted = tag none [72, 10, 82, 10] ++ tag (some (2, 1)) [5] ∧
      ∃ calls : Nat → List CallId,
        (∀ sock, Carried example₁ last.shared.toTraffic (calls sock) sock ∧
          ∀ call ∈ calls sock, call.2 < (last.shared.issued call.1).length) ∧
        ((List.range last.shared.created).flatMap calls).Pairwise
          fun earlier later => earlier.1 = later.1 → earlier.2 < later.2 :=
  ⟨_, rfl, rfl, rfl, write_inOrder example₁ reconnecting _ rfl⟩

end DifyPlugin.Tcp
