import DifyPlugin.Core.Server.Stdio.RequestReader
import DifyPlugin.Core.Server.Tcp.Steps

/-!
# The lines of an unbroken connection

`_read_stream` of the TCP reader hands every line of the current connection to the parser, in
order and once, however the bytes arrive and whatever the other greenlets do, until the event
loop is left; what it yields are the messages of these lines. A step of greenlet 0 reads, goes
over lines that wait, or is quiet.
-/

namespace DifyPlugin.Tcp

open Interleaving Decoding Splitting

variable {μ : Type}

/-! ## Quiet steps -/

/-- A stretch of code that neither receives nor hands on, and leaves no lines waiting. -/
structure Quiet (before : Traffic μ) (result : Shared μ × Pc) : Prop where
  /-- Nothing is read. -/
  calm : Calm before result.1.toTraffic
  /-- No lines wait. -/
  idle : ∀ lines buffer sock, result.2 ≠ .processing lines buffer sock

section Quiet

variable {config : Config μ} {before : Traffic μ} {sh : Shared μ}

/-- The way to the next read. -/
theorem readBody_idle (sh : Shared μ) (buffer : Bytes) (source : Option Nat) (lines : List Bytes)
    (rest : Bytes) (sock : Nat) : readBody sh buffer source ≠ .processing lines rest sock := by
  rw [readBody]
  split <;> exact nofun

/-- The top of the loop. -/
theorem readTop_idle (sh : Shared μ) (buffer : Bytes) (source : Option Nat) (lines : List Bytes)
    (rest : Bytes) (sock : Nat) : readTop sh buffer source ≠ .processing lines rest sock := by
  rw [readTop]
  split
  · exact nofun
  · split
    · exact readBody_idle sh buffer source lines rest sock
    · exact nofun

/-- The reader goes on without having read. -/
theorem Calm.readTop (calm : Calm before sh.toTraffic) (buffer : Bytes) (source : Option Nat) :
    Quiet before (sh, readTop sh buffer source) :=
  ⟨calm, readTop_idle sh buffer source⟩

end Quiet

/-! ## Lines that are handed on -/

/-- The lines of a socket that were handed to the parser. -/
def Traffic.handedFrom (traffic : Traffic μ) (sock : Nat) : List Bytes :=
  (traffic.handed.filter fun line => line.1 = sock).map Prod.snd

/-- The lines of a socket that were read and wait for the consumer. -/
def Pc.waiting (sock : Nat) : Pc → List Bytes
  | .processing lines _ source =>
    if source = sock then lines.filter fun line => !isBlank line else []
  | _ => []

/-- The event loop is left. -/
def Pc.left : Pc → Bool
  | .closeLock .eventLoop | .closeReaders .eventLoop | .finished => true
  | _ => false

/-- The complete lines of a stream that are not blank. -/
def linesOf (stream : Bytes) : List Bytes :=
  (split [10] stream).1.filter fun line => !isBlank line

section Lines

variable {config : Config μ} {sh : Shared μ} {result : Shared μ × Pc}

/-- Nothing was handed on from a socket that is not created yet. -/
theorem Sound.handedFrom_new (sound : Sound config sh.toTraffic) {sock : Nat}
    (new : sh.created ≤ sock) : sh.handedFrom sock = [] := by
  rw [Traffic.handedFrom, List.map_eq_nil_iff, List.filter_eq_nil_iff]
  intro line listed same
  have placed := sound.handed line listed
  have source : line.1 = sock := of_decide_eq_true same
  obtain ⟨before, after, stream, _⟩ := placed
  rw [source, (sound.fresh sock new).2] at stream
  simp at stream

/-- No lines wait at a point that is not between two lines. -/
theorem Quiet.waiting {before : Traffic μ} (quiet : Quiet before result) (sock : Nat) :
    result.2.waiting sock = [] := by
  have idle := quiet.idle
  cases here : result.2 with
  | processing lines buffer source => exact absurd here (idle lines buffer source)
  | _ => rfl

/-- Where the reader neither reads nor goes on, the lines stay what they are. -/
theorem Calm.framed (sound : Sound config sh.toTraffic) {after : Shared μ}
    {waiting : Nat → List Bytes} (calm : Calm sh.toTraffic after.toTraffic)
    (framed : ∀ sock, sh.sock = some sock →
      sh.handedFrom sock ++ waiting sock = linesOf (sh.conns sock).received)
    (known : ∀ sock, sh.created ≤ sock → waiting sock = []) :
    ∀ sock, after.sock = some sock →
      after.handedFrom sock ++ waiting sock = linesOf (after.conns sock).received := by
  intro sock current
  have handed : after.handedFrom sock = sh.handedFrom sock := by
    rw [Traffic.handedFrom, Traffic.handedFrom, calm.handed]
  rw [handed, calm.received]
  rcases calm.sock sock current with old | new
  · exact framed sock old
  · rw [sound.handedFrom_new new, known sock new, (sound.fresh sock new).2]
    rfl

end Lines

/-! ## Messages -/

section Messages

variable {ω : Type} (validateJson : Bytes → Option (List (Text × Json ω)))

/-- The message of a line. -/
def parse (line : Bytes) : Option (Server.PluginInStreamBase ω) :=
  (Server.parseLine validateJson line).toOption

end Messages

end DifyPlugin.Tcp
