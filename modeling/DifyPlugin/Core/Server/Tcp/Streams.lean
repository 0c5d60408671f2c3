import DifyPlugin.Core.Server.Tcp.Steps

/-!
# The streams of the TCP connections

What the assertions say about the bytes of one connection. `_read_stream` hands on complete
lines of a single connection, also when another greenlet replaces the socket or closes the
reader while it waits. Every connection accepts the handshake, then the registration, then whole
payloads, and a payload that was cut is its last one.
-/

namespace DifyPlugin.Tcp

open Interleaving Decoding Splitting

variable {μ : Type}

/-- A reader with one registration frame, for examples. -/
def example₁ : Config Bytes where
  reconnectAttempts := 3
  handshake := [72, 10]
  registration := [[82, 10]]
  parse := some

/-- Greenlet 1 launches the reader and connects. -/
def launching : List (Nat × Event) :=
  [(1, .call .launch), (1, .resumed), (1, .connected), (1, .sent 2), (1, .sent 2)]

/-- Greenlet 0 has read a part of a line when greenlet 2 replaces the connection. -/
def replacing : List (Nat × Event) :=
  launching ++
    [(0, .resumed), (0, .ready), (0, .received [65, 66]), (2, .call (.write [87])), (2, .resumed),
      (2, .raised .exception), (2, .connected), (2, .sent 2), (2, .sent 2), (0, .ready),
      (0, .ready), (0, .received [67, 10, 68])]

/-- Greenlets 1 and 2 write at a time, and greenlet 1 is interrupted within its payload. -/
def interrupting : List (Nat × Event) :=
  launching ++
    [(1, .call (.write [1, 2, 3])), (2, .call (.write [4])), (1, .resumed), (1, .sent 2),
      (1, .again), (1, .resumed), (1, .sent 1), (2, .resumed), (2, .sent 1)]

/-- Every line that `_read_stream` hands to the JSON parser is a complete line of the bytes that
were received on the socket it was read from. -/
theorem readStream_lines (config : Config μ) (schedule : List (Nat × Event))
    (last : Pool (Shared μ) Pc)
    (ran : (machine config).run initial schedule = some last) :
    ∀ sock line, (sock, line) ∈ last.shared.handed →
      Segment [10] (last.shared.conns sock).received line := by
  have sound := (run_holds schedule last ran).1.sound
  intro sock line handed
  exact sound.handed (sock, line) handed

/-- The next line comes from the new connection alone. -/
theorem readStream_lines_replaced :
    ∃ last, (machine example₁).run initial replacing = some last ∧
      last.shared.handed = [(1, [67])] ∧
      Segment [10] (last.shared.conns 1).received [67] :=
  ⟨_, rfl, rfl, readStream_lines example₁ replacing _ rfl 1 [67] (by decide)⟩

/-- What a connection has accepted starts the handshake, the registration frames in order, and
whole payloads of distinct calls of `write`. -/
theorem write_stream (config : Config μ) (schedule : List (Nat × Event)) (last : Pool (Shared μ) Pc)
    (ran : (machine config).run initial schedule = some last) (sock : Nat) :
    ∃ calls : List CallId, calls.Nodup ∧
      (∀ call ∈ calls, call.2 < (last.shared.issued call.1).length) ∧
      (last.shared.conns sock).accepted <+:
        tag none config.handshake ++ tag none config.registration.flatten ++
          calls.flatMap fun call => tag (some call) (last.shared.toTraffic.payload call) := by
  obtain ⟨more, calls, distinct, issued, whole⟩ := (run_holds schedule last ran).1.sound.sent sock
  refine ⟨calls, distinct, issued, ?_⟩
  rw [← tag_append]
  exact ⟨more, whole⟩

/-- The payloads of two greenlets stay whole. -/
theorem write_stream_interrupted :
    ∃ last, (machine example₁).run initial interrupting = some last ∧
      (last.shared.conns 0).accepted =
        tag none [72, 10, 82, 10] ++ tag (some (1, 0)) [1, 2, 3] ++ tag (some (2, 0)) [4] ∧
      ∃ calls : List CallId, calls.Nodup ∧
        (∀ call ∈ calls, call.2 < (last.shared.issued call.1).length) ∧
        (last.shared.conns 0).accepted <+:
          tag none example₁.handshake ++ tag none example₁.registration.flatten ++
            calls.flatMap fun call => tag (some call) (last.shared.toTraffic.payload call) :=
  ⟨_, rfl, rfl, write_stream example₁ interrupting _ rfl 0⟩

end DifyPlugin.Tcp
