import DifyPlugin.Core.Server.Tcp.Launch

/-!
# The attempts of `_launch`

What an observer of a run notes down about the calls of `_launch`: how many connections each
call has tried to create, and in which state it returned or raised. A call makes at most
`reconnect_attempts` attempts, also when the registration fails, and at its end nothing is open
but the current socket of a connection that is alive.
-/

namespace DifyPlugin.Tcp

open Interleaving Decoding

variable {μ : Type}

/-- A call of `_launch` that has ended. -/
structure Ended (μ : Type) where
  /-- How many connections it has tried to create. -/
  attempts : Nat
  /-- What it raised, if anything. -/
  raised : Option Failure
  /-- The reader at its end. -/
  after : Shared μ

/-- What is noted down about the calls of `_launch`. -/
structure Watch (μ : Type) where
  /-- The attempts of the last call of every greenlet. -/
  attempts : Nat → Nat
  /-- The calls that have ended. -/
  ended : List (Ended μ)

/-- The attempts that begin when `_launch` goes on. -/
def LaunchResult.connects : LaunchResult → Nat
  | .blocked (.connect _) => 1
  | _ => 0

/-- No call has begun. -/
def Watch.empty : Watch μ := ⟨fun _ => 0, []⟩

/-- A greenlet calls `_launch`. -/
def Watch.start (watch : Watch μ) (thread : Nat) : Watch μ :=
  { watch with attempts := Function.update watch.attempts thread 0 }

/-- The call of a greenlet goes on. -/
def Watch.record (watch : Watch μ) (thread : Nat)
    (result : Shared μ × LaunchResult) : Watch μ :=
  let made := watch.attempts thread + result.2.connects
  { attempts := Function.update watch.attempts thread made
    ended :=
      match result.2 with
      | .returned => watch.ended ++ [⟨made, none, result.1⟩]
      | .raised failure => watch.ended ++ [⟨made, some failure, result.1⟩]
      | _ => watch.ended }

/-- What an observer notes down when an event fires. -/
def watching (config : Config μ) (pool : Pool (Shared μ) Pc) (thread : Nat) (event : Event)
    (watch : Watch μ) : Watch μ :=
  match (pool.control thread).launching with
  | some (point, _) =>
    match Launch.step config event pool.shared point with
    | some result => watch.record thread result
    | none => watch
  | none =>
    match Launch.called thread event pool.shared (pool.control thread) with
    | some (before, _) => (watch.start thread).record thread (Launch.start config before)
    | none => watch

/-- Only the current socket is open, and only while the connection is alive. -/
def Tidy (sh : Shared μ) : Prop :=
  ∀ sock, (sh.conns sock).isOpen = true → sh.alive = true ∧ sh.sock = some sock

/-- The current socket has accepted the handshake and all of the registration. -/
def Registered (config : Config μ) (sh : Shared μ) : Prop :=
  ∃ sock, sh.sock = some sock ∧ tag none config.setup <+: (sh.conns sock).accepted

/-- How a call of `_launch` has to end. -/
structure Ended.Sound (config : Config μ) (call : Ended μ) : Prop where
  /-- It has made no more attempts than it is allowed. -/
  attempts : call.attempts ≤ config.reconnectAttempts
  /-- It returns with a connection that is registered, or because the reader is closed. -/
  returned : call.raised = none →
    call.after.alive = true ∧ Registered config call.after ∨ call.after.closed = true
  /-- It leaves no other socket open. -/
  tidy : Tidy call.after
  /-- It is over. -/
  connecting : call.after.connecting = false

/-- The attempts made so far agree with those counted where `_launch` blocks. -/
def Standing (config : Config μ) (made : Nat) : LaunchPoint → Prop
  | .connect attempts => made = attempts + 1 ∧ made ≤ config.reconnectAttempts
  | .handshake _ _ attempts => made = attempts + 1 ∧ made ≤ config.reconnectAttempts
  | .backoff attempts => made = attempts ∧ made < config.reconnectAttempts
  | .send _ _ rest _ attempts _ =>
    made = attempts + 1 ∧ made ≤ config.reconnectAttempts ∧ rest ≠ []
  | .sendAgain _ rest _ attempts _ =>
    made = attempts + 1 ∧ made ≤ config.reconnectAttempts ∧ rest ≠ []

/-- How `_launch` may go on after some attempts. -/
def Goes (config : Config μ) (made : Nat) (sh : Shared μ) : LaunchResult → Prop
  | .blocked point => Standing config (made + (LaunchResult.blocked point).connects) point
  | .returned => sh.alive = true ∧ sh.sock ≠ none ∨ sh.closed = true
  | .raised _ => True
  | .nested => False

/-- What the code of `_launch` between two blocking points has to establish. -/
structure Meets (config : Config μ) (made : Nat) (result : Shared μ × LaunchResult) : Prop where
  /-- No stray socket is open. -/
  tidy : Tidy result.1
  /-- The attempts are counted. -/
  goes : Goes config made result.1 result.2

section Sockets

variable {sh : Shared μ} {sock : Nat}

/-- A dead connection leaves nothing open. -/
theorem Tidy.dead (tidy : Tidy sh) (dead : sh.alive = false) (sock : Nat) :
    (sh.conns sock).isOpen = false := by
  by_contra opened
  have alive := (tidy sock (by simpa using opened)).1
  rw [dead] at alive
  contradiction

/-- Dropping the current socket leaves nothing open. -/
theorem Tidy.drop (tidy : Tidy sh) (current : sh.sock = some sock) :
    Tidy { sh.closeSock sock with alive := false } := by
  intro other opened
  have before := sh.toTraffic.closeSock_isOpen sock other opened
  obtain rfl : sock = other := Option.some.inj (current.symm.trans (tidy other before).2)
  have closed := sh.toTraffic.closeSock_isOpen_self sock
  rw [show (({ sh.closeSock sock with alive := false } : Shared μ).conns sock).isOpen = false
    from closed] at opened
  contradiction

/-- Closing the connection leaves nothing open. -/
theorem closeConnection_tidy (tidy : Tidy sh) : Tidy (closeConnection sh) := by
  unfold closeConnection
  split
  · rename_i current
    exact tidy.drop current
  · rename_i otherwise
    intro sock opened
    obtain ⟨alive, current⟩ := tidy sock opened
    exact absurd current (otherwise sock alive)

/-- A new connection is the only one that is open. -/
theorem Tidy.create (tidy : Tidy sh) (dead : sh.alive = false) {other : Nat}
    (opened : (sh.toTraffic.create.conns other).isOpen = true) : other = sh.created := by
  by_contra different
  have still := tidy.dead dead other
  simp only [Traffic.create, Function.update_of_ne different, still] at opened
  contradiction

end Sockets

namespace Launch

section Functions

variable {config : Config μ} {sh : Shared μ} {sock attempts : Nat}

/-- The loop goes on while it has attempts left. -/
theorem loop_meets (tidy : Tidy sh) (left : attempts < config.reconnectAttempts) :
    Meets config attempts (loop config sh attempts) := by
  unfold loop
  split
  · exact ⟨tidy, rfl, left⟩
  · rename_i stops
    refine ⟨tidy, Or.inr ?_⟩
    have closed : ¬sh.closed = false := fun closed => stops ⟨left, closed⟩
    simpa using closed

/-- A call begins with no attempt. -/
theorem start_meets (tidy : Tidy sh) (dead : sh.alive = false)
    (allowed : 1 ≤ config.reconnectAttempts) : Meets config 0 (start config sh) := by
  unfold start
  split
  · rename_i needless
    refine ⟨tidy, Or.inr ?_⟩
    simpa [dead] using needless
  · exact loop_meets tidy allowed

/-- A failed attempt is counted; the last one raises. -/
theorem connectFailed_meets (tidy : Tidy sh) (failure : Failure) :
    Meets config (attempts + 1) (connectFailed config sh failure attempts) := by
  cases failure with
  | cancellation => exact ⟨tidy, trivial⟩
  | exception =>
    simp only [connectFailed]
    split
    · exact ⟨tidy, trivial⟩
    · rename_i left
      exact ⟨tidy, rfl, Nat.not_le.mp left⟩

/-- A failed setup closes the socket it has opened. -/
theorem setupFailed_meets (tidy : Tidy sh) (current : sh.sock = some sock) (failure : Failure) :
    Meets config (attempts + 1) (setupFailed config sh failure sock attempts) :=
  connectFailed_meets (tidy.drop current) failure

/-- The registration blocks with something to send, or is complete. -/
theorem register_meets (tidy : Tidy sh) (alive : sh.alive = true) (current : sh.sock = some sock)
    (allowed : attempts + 1 ≤ config.reconnectAttempts) (frames : List Bytes) :
    Meets config (attempts + 1) (register config sh sock attempts frames) := by
  induction frames with
  | nil =>
    have known : sh.sock ≠ none := by simp [current]
    exact ⟨tidy, Or.inl ⟨alive, known⟩⟩
  | cons frame frames ih =>
    simp only [register, alive, current]
    split
    · exact ih
    · rename_i something
      exact ⟨tidy, rfl, allowed, something⟩

/-- The handshake blocks, or the registration begins. -/
theorem sendHandshake_meets (tidy : Tidy sh) (alive : sh.alive = true)
    (current : sh.sock = some sock) (allowed : attempts + 1 ≤ config.reconnectAttempts)
    (rest : Bytes) : Meets config (attempts + 1) (sendHandshake config sh sock rest attempts) := by
  unfold sendHandshake
  split
  · exact register_meets tidy alive current allowed config.registration
  · exact ⟨tidy, rfl, allowed⟩

/-- A connection that comes too late is closed again, any other one becomes the current one. -/
theorem connected_meets (tidy : Tidy sh) (dead : sh.alive = false)
    (allowed : attempts + 1 ≤ config.reconnectAttempts) :
    Meets config (attempts + 1) (connected config sh attempts) := by
  unfold connected
  dsimp only
  split
  · rename_i closed
    refine ⟨?_, Or.inr closed⟩
    intro other opened
    have before := sh.toTraffic.create.closeSock_isOpen sh.created other opened
    obtain rfl := tidy.create dead before
    have again := sh.toTraffic.create.closeSock_isOpen_self sh.created
    exact absurd (again.symm.trans opened) (by decide)
  · refine sendHandshake_meets ?_ rfl rfl allowed config.handshake
    intro other opened
    obtain rfl := tidy.create dead opened
    exact ⟨rfl, rfl⟩

/-- A failed registration write is a failed attempt, and starts no reconnect of its own. -/
theorem writeFailed_meets (tidy : Tidy sh) (current : sh.sock = some sock)
    (connecting : sh.connecting = true) (failure : Failure) :
    Meets config (attempts + 1) (writeFailed config sh failure sock sock attempts) := by
  unfold writeFailed
  dsimp only
  split
  · exact setupFailed_meets (tidy.drop current) current failure
  · rename_i outer
    exact absurd (Or.inr connecting) outer

/-- A registration write blocks with something to send, or the next frame follows. -/
theorem writeData_meets (tidy : Tidy sh) (current : sh.sock = some sock)
    (allowed : attempts + 1 ≤ config.reconnectAttempts) {rest : Bytes} (frames : List Bytes)
    (alive : rest = [] → sh.alive = true) :
    Meets config (attempts + 1) (writeData config sh sock rest sock attempts frames) := by
  unfold writeData
  split
  · rename_i done
    exact register_meets tidy (alive done) current allowed frames
  · rename_i something
    exact ⟨tidy, rfl, allowed, something⟩

end Functions

section Steps

variable {config : Config μ} {thread made : Nat} {event : Event} {sh : Shared μ}

/-- Sending leaves no stray socket. -/
theorem accept_tidy (tidy : Tidy sh) (sock : Nat) (bytes : Bytes) :
    Tidy { sh with toTraffic := sh.toTraffic.accept sock none bytes } := by
  intro other opened
  have before : (sh.conns other).isOpen = true := by
    rwa [sh.toTraffic.accept_isOpen] at opened
  exact tidy other before

/-- A socket accepts some bytes of the registration. -/
theorem sent_meets (tidy : Tidy sh) {target sock attempts count : Nat} {rest : Bytes}
    {frames : List Bytes} {result : Shared μ × LaunchResult} (current : sh.sock = some sock)
    (connecting : sh.connecting = true) (allowed : attempts + 1 ≤ config.reconnectAttempts)
    (stepped : sent config sh target sock rest sock attempts frames count = some result) :
    Meets config (attempts + 1) result := by
  unfold sent at stepped
  split at stepped
  · rename_i accepts
    split at stepped
    · obtain rfl := Option.some.inj stepped
      exact writeFailed_meets tidy current connecting .exception
    · obtain rfl := Option.some.inj stepped
      have alive : sh.alive = true := (tidy target accepts.1).1
      exact writeData_meets (accept_tidy tidy target _) current allowed frames fun _ => alive
  · contradiction

/-- A socket accepts some bytes of the handshake. -/
theorem sentHandshake_meets (tidy : Tidy sh) {sock attempts count : Nat} {rest : Bytes}
    {result : Shared μ × LaunchResult} (current : sh.sock = some sock)
    (allowed : attempts + 1 ≤ config.reconnectAttempts)
    (stepped : sentHandshake config sh sock rest attempts count = some result) :
    Meets config (attempts + 1) result := by
  unfold sentHandshake at stepped
  split at stepped
  · rename_i accepts
    obtain rfl := Option.some.inj stepped
    have alive : sh.alive = true := (tidy sock accepts.1).1
    exact sendHandshake_meets (accept_tidy tidy sock _) alive current allowed _
  · contradiction

/-- A step of `_launch` keeps the count. -/
theorem step_meets (tidy : Tidy sh) {point : LaunchPoint} {caller : LaunchCaller}
    {result : Shared μ × LaunchResult} (arrives : At config thread sh (point.pc caller))
    (standing : Standing config made point)
    (stepped : step config event sh point = some result) : Meets config made result := by
  cases point with
  | connect attempts =>
    obtain ⟨-, dead⟩ := arrives.known
    obtain ⟨rfl, allowed⟩ := standing
    cases event with
    | connected =>
      obtain rfl := Option.some.inj stepped
      exact connected_meets tidy dead allowed
    | raised failure =>
      obtain rfl := Option.some.inj stepped
      exact connectFailed_meets tidy failure
    | _ => contradiction
  | handshake sock rest attempts =>
    obtain ⟨-, current, -⟩ := arrives.known
    obtain ⟨rfl, allowed⟩ := standing
    cases event with
    | sent count => exact sentHandshake_meets tidy current allowed stepped
    | raised failure =>
      obtain rfl := Option.some.inj stepped
      exact setupFailed_meets tidy current failure
    | _ => contradiction
  | backoff attempts =>
    obtain ⟨rfl, left⟩ := standing
    cases event with
    | resumed =>
      obtain rfl := Option.some.inj stepped
      exact loop_meets tidy left
    | raised failure =>
      cases failure with
      | cancellation =>
        obtain rfl := Option.some.inj stepped
        exact ⟨tidy, trivial⟩
      | exception => contradiction
    | _ => contradiction
  | send target sock rest created attempts frames =>
    obtain ⟨-, current, connecting, writesTo, -⟩ := arrives.known
    obtain rfl : created = sock := writesTo
    obtain ⟨rfl, allowed, something⟩ := standing
    cases event with
    | sent count => exact sent_meets tidy current connecting allowed stepped
    | again =>
      obtain rfl := Option.some.inj stepped
      exact ⟨tidy, rfl, allowed, something⟩
    | raised failure =>
      obtain rfl := Option.some.inj stepped
      exact writeFailed_meets tidy current connecting failure
    | _ => contradiction
  | sendAgain sock rest created attempts frames =>
    obtain ⟨current, connecting, writesTo, -⟩ := arrives.known
    obtain rfl : created = sock := writesTo
    obtain ⟨rfl, allowed, something⟩ := standing
    cases event with
    | resumed =>
      obtain rfl := Option.some.inj stepped
      exact writeData_meets tidy current allowed frames fun done => absurd done something
    | raised failure =>
      cases failure with
      | cancellation =>
        obtain rfl := Option.some.inj stepped
        exact writeFailed_meets tidy current connecting .cancellation
      | exception => contradiction
    | _ => contradiction

/-- `_launch` is called when the connection is dead. -/
theorem called_dead {pc : Pc} {before : Shared μ} {caller : LaunchCaller} (tidy : Tidy sh)
    (arrives : At config thread sh pc) (calls : called thread event sh pc = some (before, caller)) :
    Tidy before ∧ before.alive = false := by
  cases called_calls calls with
  | launch free => exact ⟨closeConnection_tidy tidy, closeConnection_dead _⟩
  | nothing accepts goes =>
    obtain ⟨-, current, -⟩ := arrives.known
    exact ⟨tidy.drop current, rfl⟩
  | raised goes =>
    obtain ⟨-, current, -⟩ := arrives.known
    exact ⟨tidy.drop current, rfl⟩
  | deadCheck free dead pending => exact ⟨tidy, dead⟩
  | readError => exact ⟨tidy, arrives.known.2⟩

end Steps

end Launch

section Observing

variable {config : Config μ} {thread : Nat} {watch : Watch μ}

/-- What holds of a run and of what was noted down about it. -/
structure Tracked (config : Config μ) (pool : Pool (Shared μ) Pc) (watch : Watch μ) : Prop where
  /-- The assertions hold. -/
  holds : (assertions config).Holds pool
  /-- No stray socket is open. -/
  tidy : Tidy pool.shared
  /-- No call has made too many attempts. -/
  attempts : ∀ thread, watch.attempts thread ≤ config.reconnectAttempts
  /-- The calls that go on count their attempts. -/
  standing : ∀ thread point caller, (pool.control thread).launching = some (point, caller) →
    Standing config (watch.attempts thread) point
  /-- The calls that have ended did so as they have to. -/
  ended : ∀ call ∈ watch.ended, call.Sound config

/-- A greenlet is inside of `_launch` where `_launch` blocks. -/
theorem pc_launching (point : LaunchPoint) (caller : LaunchCaller) :
    (point.pc caller).launching = some (point, caller) := by
  cases point <;> rfl

/-- A greenlet inside of `_launch` blocks there. -/
theorem launching_pc {pc : Pc} {point : LaunchPoint} {caller : LaunchCaller}
    (inside : pc.launching = some (point, caller)) : pc = point.pc caller := by
  cases pc with
  | connect | handshake | backoff =>
    obtain ⟨rfl, rfl⟩ := Prod.mk.inj (Option.some.inj inside)
    rfl
  | send target sock rest writer | sendAgain sock rest writer =>
    cases writer with
    | call number => contradiction
    | registration created attempts frames caller =>
      obtain ⟨rfl, rfl⟩ := Prod.mk.inj (Option.some.inj inside)
      rfl
  | _ => contradiction

/-- The caller of `_launch` leaves the lock when the call has ended, and changes nothing else. -/
theorem resume_shared (caller : LaunchCaller) (result : Shared μ × LaunchResult) :
    (Launch.resume caller result).1 =
      match result.2 with
      | .returned | .raised _ => result.1.release
      | _ => result.1 := by
  obtain ⟨sh, outcome⟩ := result
  cases outcome with
  | blocked point => rfl
  | returned => cases caller <;> rfl
  | raised failure => cases failure <;> cases caller <;> rfl
  | nested => rfl

/-- A greenlet stays inside of `_launch` only when `_launch` blocks. -/
theorem resume_launching (caller other : LaunchCaller) {result : Shared μ × LaunchResult}
    {point : LaunchPoint}
    (inside : (Launch.resume caller result).2.launching = some (point, other)) :
    result.2 = .blocked point := by
  obtain ⟨sh, outcome⟩ := result
  have ends := Launch.launchReturn_launching sh caller
  cases outcome with
  | blocked stays =>
    obtain ⟨rfl, -⟩ := Prod.mk.inj (Option.some.inj ((pc_launching stays caller).symm.trans inside))
    rfl
  | returned => exact absurd (ends.1.symm.trans inside) nofun
  | raised failure => exact absurd ((ends.2 failure).symm.trans inside) nofun
  | nested => contradiction

/-- Only the sockets and `alive` matter for what is open. -/
theorem resume_tidy {result : Shared μ × LaunchResult} (tidy : Tidy result.1)
    (caller : LaunchCaller) : Tidy (Launch.resume caller result).1 := by
  rw [resume_shared]
  split <;> exact tidy

/-- The attempts that begin are within the bound. -/
theorem Goes.attempts {made : Nat} {sh : Shared μ} {outcome : LaunchResult}
    (goes : Goes config made sh outcome) (before : made ≤ config.reconnectAttempts) :
    made + outcome.connects ≤ config.reconnectAttempts := by
  cases outcome with
  | blocked point =>
    cases point with
    | connect attempts => exact goes.2
    | _ => exact before
  | _ => exact before

/-- A connection that is alive when nobody holds the lock is registered. -/
theorem Consistent.registered {sh : Shared μ} (consistent : Consistent config sh)
    (free : sh.lock = none) (alive : sh.alive = true) (known : sh.sock ≠ none) :
    Registered config sh := by
  obtain ⟨sock, current⟩ := Option.ne_none_iff_exists'.mp known
  obtain ⟨calls, -, -, whole⟩ := consistent.aligned free alive sock current
  exact ⟨sock, current, _, whole.symm⟩

/-- A call that ends does so as it has to. -/
theorem record_ended {result : Shared μ × LaunchResult} {caller : LaunchCaller}
    (before : watch.attempts thread ≤ config.reconnectAttempts)
    (meets : Meets config (watch.attempts thread) result)
    (consistent : Consistent config (Launch.resume caller result).1)
    (ended : ∀ call ∈ watch.ended, call.Sound config) :
    ∀ call ∈ (watch.record thread result).ended, call.Sound config := by
  obtain ⟨sh, outcome⟩ := result
  have attempts := meets.goes.attempts before
  rw [resume_shared] at consistent
  cases outcome with
  | blocked point => exact ended
  | returned =>
    have now : Ended.Sound config ⟨watch.attempts thread, none, sh⟩ :=
      { attempts := attempts
        returned := fun _ => meets.goes.imp_left fun ⟨alive, known⟩ =>
          ⟨alive, consistent.registered rfl alive known⟩
        tidy := meets.tidy
        connecting := consistent.free rfl }
    exact List.forall_mem_append.mpr ⟨ended, List.forall_mem_singleton.mpr now⟩
  | raised failure =>
    have now : Ended.Sound config ⟨watch.attempts thread, some failure, sh⟩ :=
      { attempts := attempts
        returned := nofun
        tidy := meets.tidy
        connecting := consistent.free rfl }
    exact List.forall_mem_append.mpr ⟨ended, List.forall_mem_singleton.mpr now⟩
  | nested => exact ended

/-- A step of a call of `_launch` is noted down as it has to be. -/
theorem record_tracked {pool : Pool (Shared μ) Pc} {result : Shared μ × LaunchResult}
    {caller : LaunchCaller} (attempts : ∀ thread, watch.attempts thread ≤ config.reconnectAttempts)
    (standing : ∀ other ≠ thread, ∀ point caller,
      (pool.control other).launching = some (point, caller) →
      Standing config (watch.attempts other) point)
    (ended : ∀ call ∈ watch.ended, call.Sound config)
    (meets : Meets config (watch.attempts thread) result)
    (holds : (assertions config).Holds ⟨(Launch.resume caller result).1,
      Function.update pool.control thread (Launch.resume caller result).2⟩) :
    Tracked config ⟨(Launch.resume caller result).1,
      Function.update pool.control thread (Launch.resume caller result).2⟩
      (watch.record thread result) where
  holds := holds
  tidy := resume_tidy meets.tidy caller
  attempts := by
    intro other
    by_cases same : other = thread
    · subst same
      simp only [Watch.record, Function.update_self]
      exact meets.goes.attempts (attempts other)
    · simp only [Watch.record, Function.update_of_ne same]
      exact attempts other
  standing := by
    intro other point inner inside
    by_cases same : other = thread
    · subst same
      simp only [Function.update_self] at inside
      have blocked := resume_launching caller inner inside
      have goes := meets.goes
      simp only [Watch.record, Function.update_self]
      rw [blocked] at goes ⊢
      exact goes
    · simp only [Function.update_of_ne same] at inside
      simp only [Watch.record, Function.update_of_ne same]
      exact standing other same point inner inside
  ended := record_ended (attempts thread) meets holds.1 ended

/-- A step outside of `_launch` leaves no stray socket. -/
theorem Launch.Outside.tidy {sh : Shared μ} {result : Shared μ × Pc} (outside : Outside sh result)
    (tidy : Tidy sh) (consistent : Consistent config result.1) : Tidy result.1 := by
  intro sock opened
  obtain ⟨-, current⟩ := tidy sock (outside.isOpen sock opened)
  have still : result.1.sock = some sock := outside.sock.trans current
  refine ⟨?_, still⟩
  by_contra dead
  have closed := consistent.dead (by simpa using dead) sock still
  exact absurd (closed.symm.trans opened) (by decide)

/-- Every firing is noted down as it has to be. -/
theorem fire_tracked (allowed : 1 ≤ config.reconnectAttempts) {pool next : Pool (Shared μ) Pc}
    {event : Event} (tracked : Tracked config pool watch)
    (fired : (machine config).fire pool thread event = some next) :
    Tracked config next (watching config pool thread event watch) := by
  have holds := fire_holds tracked.holds fired
  obtain ⟨shared, pc, stepped, rfl⟩ := Machine.fire_eq_some fired
  have stepped : step config thread event pool.shared (pool.control thread) =
    some (shared, pc) := stepped
  have arrives := tracked.holds.2 thread
  unfold watching
  cases inside : (pool.control thread).launching with
  | some entered =>
    obtain ⟨point, caller⟩ := entered
    have here := launching_pc inside
    rw [here] at stepped arrives
    rw [Launch.step_launching] at stepped
    obtain ⟨result, goes, same⟩ := Option.map_eq_some_iff.mp stepped
    obtain ⟨rfl, rfl⟩ := Prod.mk.inj same.symm
    have standing := tracked.standing thread point caller inside
    have meets := Launch.step_meets tracked.tidy arrives standing goes
    simp only [goes]
    exact record_tracked tracked.attempts (fun other _ => tracked.standing other) tracked.ended
      meets holds
  | none =>
    dsimp only
    cases calls : Launch.called thread event pool.shared (pool.control thread) with
    | some entered =>
      obtain ⟨before, caller⟩ := entered
      rw [Launch.step_called config calls] at stepped
      obtain ⟨rfl, rfl⟩ := Prod.mk.inj (Option.some.inj stepped).symm
      obtain ⟨tidy, dead⟩ := Launch.called_dead tracked.tidy arrives calls
      have begun : (watch.start thread).attempts thread = 0 := by simp [Watch.start]
      have meets := Launch.start_meets tidy dead allowed
      rw [← begun] at meets
      refine record_tracked ?_ ?_ tracked.ended meets holds
      · intro other
        by_cases same : other = thread
        · subst same
          simp [begun]
        · simp only [Watch.start, Function.update_of_ne same]
          exact tracked.attempts other
      · intro other different
        simp only [Watch.start, Function.update_of_ne different]
        exact tracked.standing other
    | none =>
      have outside := Launch.step_outside inside calls stepped
      refine ⟨holds, outside.tidy tracked.tidy holds.1, tracked.attempts, ?_, tracked.ended⟩
      intro other point caller entered
      by_cases same : other = thread
      · subst same
        simp only [Function.update_self, outside.launching] at entered
        contradiction
      · simp only [Function.update_of_ne same] at entered
        exact tracked.standing other point caller entered

/-- Nothing has been noted down about a reader that was just constructed. -/
theorem initial_tracked (config : Config μ) : Tracked config initial Watch.empty where
  holds := initial_holds config
  tidy := nofun
  attempts := fun _ => Nat.zero_le _
  standing := by
    intro thread point caller inside
    unfold initial at inside
    dsimp only at inside
    split at inside <;> contradiction
  ended := List.forall_mem_nil _

/-- Every run is noted down as it has to be. -/
theorem run_tracked (allowed : 1 ≤ config.reconnectAttempts) {schedule : List (Nat × Event)}
    {last : Pool (Shared μ) Pc} (ran : (machine config).run initial schedule = some last) :
    Tracked config last
      ((machine config).observe (watching config) initial Watch.empty schedule) :=
  Machine.observe_preserves (fun _ _ _ _ _ tracked fired => fire_tracked allowed tracked fired)
    initial Watch.empty schedule last (initial_tracked config) ran

/-- In every run a call of `_launch` makes at most `reconnect_attempts` attempts to connect, and
no registration write starts a reconnect of its own. A call returns only with a connection that
is alive and registered, or because the reader is closed, and it leaves `_connecting` unset and no
socket open but the current one of a connection that is alive. -/
theorem launch_bounded (config : Config μ) (allowed : 1 ≤ config.reconnectAttempts)
    (schedule : List (Nat × Event)) (last : Pool (Shared μ) Pc)
    (ran : (machine config).run initial schedule = some last) :
    let watch := (machine config).observe (watching config) initial Watch.empty schedule
    (∀ thread, watch.attempts thread ≤ config.reconnectAttempts) ∧
      (∀ thread, last.control thread ≠ .nestedLaunch) ∧
      ∀ call ∈ watch.ended,
        call.attempts ≤ config.reconnectAttempts ∧
        (call.raised = none →
          call.after.alive = true ∧ Registered config call.after ∨ call.after.closed = true) ∧
        (∀ sock, (call.after.conns sock).isOpen = true →
          call.after.alive = true ∧ call.after.sock = some sock) ∧
        call.after.connecting = false := by
  have tracked := run_tracked allowed ran
  refine ⟨tracked.attempts, ?_, ?_⟩
  · intro thread nested
    have arrives := tracked.holds.2 thread
    rw [nested] at arrives
    exact arrives.known
  · intro call listed
    have sound := tracked.ended call listed
    exact ⟨sound.attempts, sound.returned, sound.tidy, sound.connecting⟩

/-- A reader with two attempts and two registration frames, for examples. -/
def twoFrames : Config Bytes where
  reconnectAttempts := 2
  handshake := [72, 10]
  registration := [[82, 10], [83, 10]]
  parse := some

/-- Greenlet 1 launches the reader twice: first one attempt fails to connect and the other one to
write the second frame, then the registration goes through. -/
def relaunching : List (Nat × Event) := [
  (1, .call .launch), (1, .resumed), (1, .raised .exception), (1, .resumed), (1, .connected),
  (1, .sent 2), (1, .sent 2), (1, .raised .exception),
  (1, .call .launch), (1, .resumed), (1, .connected), (1, .sent 2), (1, .sent 2), (1, .again),
  (1, .resumed), (1, .sent 2)]

/-- The first call has used up its attempts and raised, the second one has returned. -/
theorem launch_bounded_twice :
    let watch := (machine twoFrames).observe (watching twoFrames) initial Watch.empty relaunching
    watch.ended.map (fun call => (call.attempts, call.raised)) =
        [(2, some .exception), (1, none)] ∧
      ∀ call ∈ watch.ended, call.attempts ≤ 2 ∧ call.after.connecting = false := by
  obtain ⟨last, ran⟩ : ∃ last, (machine twoFrames).run initial relaunching = some last := ⟨_, rfl⟩
  have bounded := launch_bounded twoFrames (by decide) relaunching last ran
  refine ⟨rfl, fun call listed => ?_⟩
  have sound := bounded.2.2 call listed
  exact ⟨sound.1, sound.2.2.2⟩

end Observing

end DifyPlugin.Tcp
