import DifyPlugin.Core.Server.Tcp.RequestReader

/-!
# The traffic of the TCP reader

What may be said about the sockets without looking at the flags. `Whole` describes the bytes
that belong on one connection, `Kept` describes what the reader may have in its buffer, and
`Sound` collects what holds of all sockets between two steps. `Calm` and `Frame` relate the
sockets before and after a stretch of code: neither of them lets an old socket come back.
-/

namespace DifyPlugin.Tcp

open Interleaving Decoding Splitting

variable {μ : Type}

/-- Nothing carries no tag. -/
@[simp] theorem tag_nil (origin : Option CallId) : tag origin [] = [] := rfl

/-- Tagging acts on each byte. -/
@[simp] theorem tag_append (origin : Option CallId) (first second : Bytes) :
    tag origin (first ++ second) = tag origin first ++ tag origin second :=
  List.map_append

/-- Every byte of a send carries the tag of that send. -/
@[simp] theorem mem_tag (origin other : Option CallId) (bytes : Bytes) (byte : UInt8) :
    (other, byte) ∈ tag origin bytes ↔ origin = other ∧ byte ∈ bytes := by
  simp only [tag, List.mem_map, Prod.mk.injEq]
  constructor
  · rintro ⟨entry, listed, same, rfl⟩
    exact ⟨same, listed⟩
  · rintro ⟨same, listed⟩
    exact ⟨byte, listed, same, rfl⟩

namespace Traffic

/-- Closing a socket leaves the bytes it accepted. -/
@[simp] theorem closeSock_accepted (traffic : Traffic μ) (sock other : Nat) :
    ((traffic.closeSock sock).conns other).accepted = (traffic.conns other).accepted := by
  by_cases same : other = sock <;> simp [closeSock, same]

/-- Closing a socket leaves the bytes it received. -/
@[simp] theorem closeSock_received (traffic : Traffic μ) (sock other : Nat) :
    ((traffic.closeSock sock).conns other).received = (traffic.conns other).received := by
  by_cases same : other = sock <;> simp [closeSock, same]

/-- A closed socket is not open. -/
@[simp] theorem closeSock_isOpen_self (traffic : Traffic μ) (sock : Nat) :
    ((traffic.closeSock sock).conns sock).isOpen = false := by
  simp [closeSock]

/-- Closing a socket opens none. -/
theorem closeSock_isOpen (traffic : Traffic μ) (sock other : Nat)
    (opened : ((traffic.closeSock sock).conns other).isOpen = true) :
    (traffic.conns other).isOpen = true := by
  by_cases same : other = sock
  · simp [closeSock, same] at opened
  · simpa [closeSock, same] using opened

/-- A socket accepts bytes after those it has. -/
@[simp] theorem accept_accepted_self (traffic : Traffic μ) (sock : Nat) (origin : Option CallId)
    (bytes : Bytes) :
    ((traffic.accept sock origin bytes).conns sock).accepted =
      (traffic.conns sock).accepted ++ tag origin bytes := by
  simp [accept]

/-- No other socket accepts these bytes. -/
theorem accept_accepted_of_ne (traffic : Traffic μ) {sock other : Nat} (origin : Option CallId)
    (bytes : Bytes) (distinct : other ≠ sock) :
    ((traffic.accept sock origin bytes).conns other).accepted =
      (traffic.conns other).accepted := by
  simp [accept, distinct]

/-- Accepting bytes receives none. -/
@[simp] theorem accept_received (traffic : Traffic μ) (sock other : Nat) (origin : Option CallId)
    (bytes : Bytes) :
    ((traffic.accept sock origin bytes).conns other).received =
      (traffic.conns other).received := by
  by_cases same : other = sock <;> simp [accept, same]

/-- Accepting bytes opens and closes no socket. -/
@[simp] theorem accept_isOpen (traffic : Traffic μ) (sock other : Nat) (origin : Option CallId)
    (bytes : Bytes) :
    ((traffic.accept sock origin bytes).conns other).isOpen = (traffic.conns other).isOpen := by
  by_cases same : other = sock <;> simp [accept, same]

/-- A socket receives bytes after those it has. -/
@[simp] theorem receive_received_self (traffic : Traffic μ) (sock : Nat) (bytes : Bytes) :
    ((traffic.receive sock bytes).conns sock).received =
      (traffic.conns sock).received ++ bytes := by
  simp [receive]

/-- No other socket receives these bytes. -/
theorem receive_received_of_ne (traffic : Traffic μ) {sock other : Nat} (bytes : Bytes)
    (distinct : other ≠ sock) :
    ((traffic.receive sock bytes).conns other).received = (traffic.conns other).received := by
  simp [receive, distinct]

/-- Receiving bytes sends none. -/
@[simp] theorem receive_accepted (traffic : Traffic μ) (sock other : Nat) (bytes : Bytes) :
    ((traffic.receive sock bytes).conns other).accepted = (traffic.conns other).accepted := by
  by_cases same : other = sock <;> simp [receive, same]

/-- Receiving bytes opens and closes no socket. -/
@[simp] theorem receive_isOpen (traffic : Traffic μ) (sock other : Nat) (bytes : Bytes) :
    ((traffic.receive sock bytes).conns other).isOpen = (traffic.conns other).isOpen := by
  by_cases same : other = sock <;> simp [receive, same]

/-- The payload of a call of `write`. -/
def payload (traffic : Traffic μ) (call : CallId) : Bytes :=
  (traffic.issued call.1)[call.2]?.getD []

end Traffic

/-- What a connection starts with: the handshake line, then the registration frames. -/
def Config.setup (config : Config μ) : Bytes :=
  config.handshake ++ config.registration.flatten

section Outgoing

/-- The setup of a connection, and after it the whole payloads of distinct calls. -/
def Whole (config : Config μ) (traffic : Traffic μ) (stream : List (Option CallId × UInt8)) :
    Prop :=
  ∃ calls : List CallId, calls.Nodup ∧
    (∀ call ∈ calls, call.2 < (traffic.issued call.1).length) ∧
    stream = tag none config.setup ++
      calls.flatMap fun call => tag (some call) (traffic.payload call)

/-- The setup alone is whole. -/
theorem whole_setup (config : Config μ) (traffic : Traffic μ) :
    Whole config traffic (tag none config.setup) :=
  ⟨[], List.nodup_nil, by simp, by simp⟩

/-- Calls are added where none are lost. -/
theorem issued_grows {traffic after : Traffic μ} (same : after.issued = traffic.issued)
    (thread : Nat) : traffic.issued thread <+: after.issued thread :=
  ⟨[], by simp [same]⟩

/-- Further calls do not change the payloads of the earlier ones. -/
theorem Whole.grown {config : Config μ} {traffic after : Traffic μ}
    {stream : List (Option CallId × UInt8)} (whole : Whole config traffic stream)
    (grows : ∀ thread, traffic.issued thread <+: after.issued thread) :
    Whole config after stream := by
  obtain ⟨calls, distinct, issued, rfl⟩ := whole
  have payloads : ∀ call ∈ calls, after.payload call = traffic.payload call := by
    intro call listed
    have present := issued call listed
    obtain ⟨later, grown⟩ := grows call.1
    simp only [Traffic.payload, ← grown]
    rw [List.getElem?_append_left present]
  refine ⟨calls, distinct, ?_, ?_⟩
  · intro call listed
    exact Nat.lt_of_lt_of_le (issued call listed) (grows call.1).length_le
  · congr 1
    apply List.flatMap_congr
    intro call listed
    rw [payloads call listed]

/-- One more call, none of whose bytes were sent before. -/
theorem Whole.append {config : Config μ} {traffic : Traffic μ}
    {stream : List (Option CallId × UInt8)} (whole : Whole config traffic stream)
    {call : CallId} {data : Bytes} (issued : (traffic.issued call.1)[call.2]? = some data)
    (unsent : ∀ byte, (some call, byte) ∉ stream) :
    Whole config traffic (stream ++ tag (some call) data) := by
  cases data with
  | nil => simpa using whole
  | cons head tail =>
    obtain ⟨calls, distinct, known, rfl⟩ := whole
    have body : traffic.payload call = head :: tail := by simp [Traffic.payload, issued]
    have absent : call ∉ calls := by
      intro listed
      refine unsent head (List.mem_append_right _ (List.mem_flatMap.mpr ⟨call, listed, ?_⟩))
      rw [body, mem_tag]
      exact ⟨rfl, List.mem_cons_self⟩
    refine ⟨calls ++ [call], ?_, ?_, ?_⟩
    · exact List.nodup_append.mpr ⟨distinct, by simp, by
        intro first listed second last
        obtain rfl := List.mem_singleton.mp last
        rintro rfl
        exact absent listed⟩
    · intro other listed
      rcases List.mem_append.mp listed with earlier | last
      · exact known other earlier
      · obtain rfl := List.mem_singleton.mp last
        exact (List.getElem?_eq_some_iff.mp issued).1
    · simp [body]

/-- Every byte of a whole stream belongs to the setup or to a call that was made. -/
theorem Whole.tagged {config : Config μ} {traffic : Traffic μ}
    {stream : List (Option CallId × UInt8)} (whole : Whole config traffic stream) {call : CallId}
    {byte : UInt8} (listed : (some call, byte) ∈ stream) :
    call.2 < (traffic.issued call.1).length := by
  obtain ⟨calls, -, issued, rfl⟩ := whole
  simp only [List.mem_append, mem_tag, List.mem_flatMap, reduceCtorEq, false_and, false_or,
    Option.some.injEq] at listed
  obtain ⟨other, called, rfl, -⟩ := listed
  exact issued other called

/-- What is left to send stays the same when its first bytes are accepted. -/
theorem Whole.accept {config : Config μ} {traffic : Traffic μ} {sock : Nat} {origin : Option CallId}
    {bytes : Bytes} {more : List (Option CallId × UInt8)}
    (whole : Whole config traffic ((traffic.conns sock).accepted ++ tag origin bytes ++ more)) :
    Whole config (traffic.accept sock origin bytes)
      (((traffic.accept sock origin bytes).conns sock).accepted ++ more) := by
  rw [traffic.accept_accepted_self]
  exact whole.grown fun _ => List.prefix_refl _

end Outgoing

section Incoming

/-- A line is a complete segment of what its connection received. -/
def Placed (traffic : Traffic μ) (line : Nat × Bytes) : Prop :=
  Segment [10] (traffic.conns line.1).received line.2

/-- The reader may go to the top of its loop with this buffer, taken from this socket: if the
current connection is open, then its bytes since the last line are what the buffer will hold. -/
def Kept (traffic : Traffic μ) (buffer : Bytes) (source : Option Nat) : Prop :=
  (∀ sock, source = some sock → sock < traffic.created) ∧
    ∀ sock, traffic.sock = some sock → (traffic.conns sock).isOpen = true →
      Remainder [10] (traffic.conns sock).received (if source = some sock then buffer else [])

/-- The current socket is closed. -/
def Down (traffic : Traffic μ) : Prop :=
  ∀ sock, traffic.sock = some sock → (traffic.conns sock).isOpen = false

/-- Any buffer will do when the connection is closed. -/
theorem Down.kept {traffic : Traffic μ} (down : Down traffic) (buffer : Bytes)
    {source : Option Nat} (known : ∀ sock, source = some sock → sock < traffic.created) :
    Kept traffic buffer source := by
  refine ⟨known, ?_⟩
  intro sock current opened
  rw [down sock current] at opened
  contradiction

/-- The reader clears its buffer when it finds another socket. -/
theorem Kept.current {traffic : Traffic μ} {buffer : Bytes} {source : Option Nat} {sock : Nat}
    (kept : Kept traffic buffer source) (current : traffic.sock = some sock)
    (created : sock < traffic.created) :
    Kept traffic (if source = some sock then buffer else []) (some sock) := by
  refine ⟨?_, ?_⟩
  · intro other same
    exact Option.some.inj same ▸ created
  · intro other held opened
    obtain rfl : sock = other := Option.some.inj (current.symm.trans held)
    simpa using kept.2 sock current opened

/-- The buffer matters only while its socket is the current one. -/
theorem Kept.ifCurrent {traffic : Traffic μ} {buffer : Bytes} {sock : Nat}
    (kept : Kept traffic buffer (some sock)) :
    Kept traffic (if traffic.sock = some sock then buffer else []) (some sock) := by
  refine ⟨kept.1, ?_⟩
  intro other held opened
  have placed := kept.2 other held opened
  by_cases same : sock = other
  · subst same
    simpa [held] using placed
  · simpa [same] using placed

end Incoming

section Frames

/-- A stretch of code that leaves the reader alone: it receives nothing, and it replaces the
current socket by new ones only. -/
structure Calm (before after : Traffic μ) : Prop where
  /-- Sockets are only added. -/
  created : before.created ≤ after.created
  /-- The current socket is the old one or a new one. -/
  sock : ∀ sock, after.sock = some sock → before.sock = some sock ∨ before.created ≤ sock
  /-- No old socket is opened again. -/
  isOpen : ∀ sock < before.created, (after.conns sock).isOpen = true →
    (before.conns sock).isOpen = true
  /-- Nothing is received. -/
  received : ∀ sock, (after.conns sock).received = (before.conns sock).received
  /-- Nothing is handed to the parser. -/
  handed : after.handed = before.handed
  /-- Nothing is yielded. -/
  yielded : after.yielded = before.yielded

/-- A stretch of code that leaves the reader alone and sends nothing. -/
structure Frame (before after : Traffic μ) : Prop extends Calm before after where
  /-- Nothing is sent. -/
  accepted : ∀ sock, (after.conns sock).accepted = (before.conns sock).accepted
  /-- No call is issued. -/
  issued : after.issued = before.issued

/-- Doing nothing is calm. -/
theorem Calm.refl (traffic : Traffic μ) : Calm traffic traffic where
  created := Nat.le_refl _
  sock := fun _ current => Or.inl current
  isOpen := fun _ _ opened => opened
  received := fun _ => rfl
  handed := rfl
  yielded := rfl

/-- One calm stretch after another one. -/
theorem Calm.trans {first second third : Traffic μ} (left : Calm first second)
    (right : Calm second third) : Calm first third where
  created := Nat.le_trans left.created right.created
  sock := by
    intro sock current
    rcases right.sock sock current with earlier | new
    · exact left.sock sock earlier
    · exact Or.inr (Nat.le_trans left.created new)
  isOpen := by
    intro sock old opened
    exact left.isOpen sock old
      (right.isOpen sock (Nat.lt_of_lt_of_le old left.created) opened)
  received := fun sock => (right.received sock).trans (left.received sock)
  handed := right.handed.trans left.handed
  yielded := right.yielded.trans left.yielded

/-- Doing nothing is a frame. -/
theorem Frame.refl (traffic : Traffic μ) : Frame traffic traffic :=
  { Calm.refl traffic with accepted := fun _ => rfl, issued := rfl }

/-- One frame after another one. -/
theorem Frame.trans {first second third : Traffic μ} (left : Frame first second)
    (right : Frame second third) : Frame first third :=
  { left.toCalm.trans right.toCalm with
    accepted := fun sock => (right.accepted sock).trans (left.accepted sock)
    issued := right.issued.trans left.issued }

/-- Closing a socket is a frame. -/
theorem frame_closeSock (traffic : Traffic μ) (sock : Nat) :
    Frame traffic (traffic.closeSock sock) where
  created := Nat.le_refl _
  sock := fun _ current => Or.inl current
  isOpen := fun other _ opened => traffic.closeSock_isOpen sock other opened
  received := fun other => traffic.closeSock_received sock other
  handed := rfl
  yielded := rfl
  accepted := fun other => traffic.closeSock_accepted sock other
  issued := rfl

/-- Sending leaves the reader alone. -/
theorem calm_accept (traffic : Traffic μ) (sock : Nat) (origin : Option CallId) (bytes : Bytes) :
    Calm traffic (traffic.accept sock origin bytes) where
  created := Nat.le_refl _
  sock := fun _ current => Or.inl current
  isOpen := fun other _ opened => by rwa [traffic.accept_isOpen] at opened
  received := fun other => traffic.accept_received sock other origin bytes
  handed := rfl
  yielded := rfl

end Frames

/-- A line stays in place over a stretch of code that leaves the reader alone. -/
theorem Placed.calm {before after : Traffic μ} (calm : Calm before after) {line : Nat × Bytes}
    (placed : Placed before line) : Placed after line := by
  unfold Placed
  rw [calm.received]
  exact placed

/-- A line stays in place when more bytes arrive. -/
theorem Placed.receive {traffic : Traffic μ} {line : Nat × Bytes} (placed : Placed traffic line)
    (sock : Nat) (bytes : Bytes) : Placed (traffic.receive sock bytes) line := by
  unfold Placed
  by_cases same : line.1 = sock
  · rw [same, traffic.receive_received_self, ← same]
    exact placed.append bytes
  · rw [traffic.receive_received_of_ne bytes same]
    exact placed

/-- What the generator yields for a line that is handed to the parser. -/
def Config.outcome (config : Config μ) (line : Nat × Bytes) : Option (Nat × μ) :=
  (config.parse line.2).map fun message => (line.1, message)

/-- What holds of all sockets between two steps. -/
structure Sound (config : Config μ) (traffic : Traffic μ) : Prop where
  /-- The current socket was created. -/
  created : ∀ sock, traffic.sock = some sock → sock < traffic.created
  /-- Nothing went through a socket that is not created yet. -/
  fresh : ∀ sock, traffic.created ≤ sock →
    (traffic.conns sock).accepted = [] ∧ (traffic.conns sock).received = []
  /-- What a socket accepted starts a whole stream. -/
  sent : ∀ sock, ∃ more, Whole config traffic ((traffic.conns sock).accepted ++ more)
  /-- Every byte belongs to a call that was made. -/
  tagged : ∀ sock call byte, (some call, byte) ∈ (traffic.conns sock).accepted →
    call.2 < (traffic.issued call.1).length
  /-- Every line that was handed to the parser is in place. -/
  handed : ∀ line ∈ traffic.handed, Placed traffic line
  /-- The messages of these lines were yielded, in order and once. -/
  yielded : traffic.yielded = traffic.handed.filterMap config.outcome

/-- A frame keeps the sockets sound. -/
theorem Sound.frame {config : Config μ} {before after : Traffic μ} (sound : Sound config before)
    (frame : Frame before after)
    (created : ∀ sock, after.sock = some sock → sock < after.created) : Sound config after where
  created := created
  fresh := by
    intro sock new
    rw [frame.accepted, frame.received]
    exact sound.fresh sock (Nat.le_trans frame.created new)
  sent := by
    intro sock
    obtain ⟨more, whole⟩ := sound.sent sock
    refine ⟨more, ?_⟩
    rw [frame.accepted]
    exact whole.grown (issued_grows frame.issued)
  tagged := by
    intro sock call byte listed
    rw [frame.accepted] at listed
    rw [frame.issued]
    exact sound.tagged sock call byte listed
  handed := by
    intro line listed
    rw [frame.handed] at listed
    exact (sound.handed line listed).calm frame.toCalm
  yielded := by
    rw [frame.yielded, frame.handed]
    exact sound.yielded

/-- The sockets stay sound when one accepts bytes that continue a whole stream. -/
theorem Sound.accept {config : Config μ} {traffic : Traffic μ} (sound : Sound config traffic)
    {sock : Nat} (created : sock < traffic.created) {origin : Option CallId} {bytes : Bytes}
    {more : List (Option CallId × UInt8)}
    (whole : Whole config traffic ((traffic.conns sock).accepted ++ tag origin bytes ++ more)) :
    Sound config (traffic.accept sock origin bytes) where
  created := sound.created
  fresh := by
    intro other new
    have distinct : other ≠ sock := by
      rintro rfl
      exact absurd created (Nat.not_lt.mpr new)
    rw [traffic.accept_accepted_of_ne origin bytes distinct, traffic.accept_received]
    exact sound.fresh other new
  sent := by
    intro other
    by_cases same : other = sock
    · subst same
      exact ⟨more, by rw [traffic.accept_accepted_self]; exact whole⟩
    · rw [traffic.accept_accepted_of_ne origin bytes same]
      exact sound.sent other
  tagged := by
    intro other call byte listed
    by_cases same : other = sock
    · subst same
      rw [traffic.accept_accepted_self] at listed
      exact whole.tagged (List.mem_append_left _ listed)
    · rw [traffic.accept_accepted_of_ne origin bytes same] at listed
      exact sound.tagged other call byte listed
  handed := by
    intro line listed
    exact (sound.handed line listed).calm (calm_accept traffic sock origin bytes)
  yielded := sound.yielded

/-- The sockets stay sound when one receives bytes. -/
theorem Sound.receive {config : Config μ} {traffic : Traffic μ} (sound : Sound config traffic)
    {sock : Nat} (created : sock < traffic.created) (bytes : Bytes) :
    Sound config (traffic.receive sock bytes) where
  created := sound.created
  fresh := by
    intro other new
    have distinct : other ≠ sock := by
      rintro rfl
      exact absurd created (Nat.not_lt.mpr new)
    rw [traffic.receive_received_of_ne bytes distinct, traffic.receive_accepted]
    exact sound.fresh other new
  sent := by
    intro other
    rw [traffic.receive_accepted]
    exact sound.sent other
  tagged := by
    intro other call byte listed
    rw [traffic.receive_accepted] at listed
    exact sound.tagged other call byte listed
  handed := fun line listed => (sound.handed line listed).receive sock bytes
  yielded := sound.yielded

/-- The sockets stay sound when a line is handed to the parser and its message is yielded. -/
theorem Sound.hand {config : Config μ} {traffic : Traffic μ} (sound : Sound config traffic)
    {line : Nat × Bytes} (placed : Placed traffic line) (yielded : List (Nat × μ))
    (grown : yielded = traffic.yielded ++ (config.outcome line).toList) :
    Sound config { traffic with handed := traffic.handed ++ [line], yielded := yielded } where
  created := sound.created
  fresh := sound.fresh
  sent := sound.sent
  tagged := sound.tagged
  handed := by
    intro other listed
    rcases List.mem_append.mp listed with earlier | last
    · exact sound.handed other earlier
    · exact List.mem_singleton.mp last ▸ placed
  yielded := by
    rw [grown, sound.yielded, List.filterMap_append]
    cases outcome : config.outcome line <;> simp [outcome]

/-- The reader splits what it has received on the current socket: every line is in place, and
the rest is what it keeps. -/
theorem Kept.split {traffic : Traffic μ} {buffer : Bytes} {sock : Nat}
    (kept : Kept traffic buffer (some sock)) (current : traffic.sock = some sock)
    (opened : (traffic.conns sock).isOpen = true) (data : Bytes) :
    (∀ line ∈ (Splitting.split [10] (buffer ++ data)).1,
        Placed (traffic.receive sock data) (sock, line)) ∧
      Kept (traffic.receive sock data) (Splitting.split [10] (buffer ++ data)).2 (some sock) := by
  have left : Remainder [10] (traffic.conns sock).received buffer := by
    simpa using kept.2 sock current opened
  have splits := left.split (by simp) data
  rw [← traffic.receive_received_self] at splits
  refine ⟨splits.1, kept.1, ?_⟩
  intro other same _
  obtain rfl : sock = other := Option.some.inj (current.symm.trans same)
  simpa using splits.2

/-- The reader drops what it has received on a socket that was replaced. -/
theorem Kept.replaced {traffic : Traffic μ} {buffer : Bytes} {sock : Nat}
    (kept : Kept traffic buffer (some sock)) (replaced : traffic.sock ≠ some sock)
    (data : Bytes) : Kept (traffic.receive sock data) [] (some sock) := by
  refine ⟨kept.1, ?_⟩
  intro other current opened
  have distinct : other ≠ sock := by
    rintro rfl
    exact replaced current
  rw [traffic.receive_isOpen] at opened
  have placed := kept.2 other current opened
  rw [traffic.receive_received_of_ne data distinct]
  simpa [distinct.symm] using placed

/-- A new socket is a frame, since nothing went through its number. -/
theorem Sound.frame_create {config : Config μ} {traffic : Traffic μ}
    (sound : Sound config traffic) : Frame traffic traffic.create where
  created := Nat.le_succ _
  sock := fun _ current => Or.inl current
  isOpen := by
    intro sock old opened
    simpa [Traffic.create, Nat.ne_of_lt old] using opened
  received := by
    intro sock
    by_cases new : sock = traffic.created
    · subst new
      simp [Traffic.create, (sound.fresh _ (Nat.le_refl _)).2]
    · simp [Traffic.create, new]
  handed := rfl
  yielded := rfl
  accepted := by
    intro sock
    by_cases new : sock = traffic.created
    · subst new
      simp [Traffic.create, (sound.fresh _ (Nat.le_refl _)).1]
    · simp [Traffic.create, new]
  issued := rfl

/-- The reader may keep its buffer over a stretch of code that leaves it alone. -/
theorem Kept.calm {config : Config μ} {before after : Traffic μ} (sound : Sound config before)
    (calm : Calm before after) {buffer : Bytes} {source : Option Nat}
    (kept : Kept before buffer source) : Kept after buffer source := by
  refine ⟨fun sock same => Nat.lt_of_lt_of_le (kept.1 sock same) calm.created, ?_⟩
  intro sock current opened
  rw [calm.received]
  rcases calm.sock sock current with old | new
  · exact kept.2 sock old (calm.isOpen sock (sound.created sock old) opened)
  · -- A new socket is not the source of the buffer and has received nothing.
    have other : source ≠ some sock := by
      intro same
      exact absurd (kept.1 sock same) (Nat.not_lt.mpr new)
    rw [if_neg other, (sound.fresh sock new).2]
    exact Remainder.empty [10]

end DifyPlugin.Tcp
