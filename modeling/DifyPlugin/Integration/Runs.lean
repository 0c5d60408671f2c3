import DifyPlugin.Integration.Routing

/-!
# Runs of the integration runner

Over the invariant of the routing: what the stop flag and the locks promise in every run, what the
reading thread publishes of the bytes that it reads, and what each invocation gets of that.
-/

namespace DifyPlugin.Integration

open Decoding Delivery Interleaving

variable {ρ τ : Type}

namespace Runner

variable {setting : Setting ρ τ} {sh after : Runner ρ τ} {number thread : Nat} {pc pc' : Pc ρ}

/-! ## Stopping -/

/-- The notification of an invocation that is still in the loop waits in its queue. -/
theorem Calling.queued (calls : Calling setting number sh) (notified : Notified number sh) :
    ∃ error, Entry.error error ∈ (sh.invocation number).queue := by
  obtain ⟨error, member⟩ := notified
  rcases List.mem_append.mp member with taken | waits
  · -- An invocation in the loop has taken payloads only.
    have reads : (sh.invocation number).taken.map (payload setting number) =
        (sh.invocation number).yielded.map some := calls.reads
    have here : payload setting number (.error error) ∈
        (sh.invocation number).yielded.map some := reads ▸ List.mem_map_of_mem taken
    obtain ⟨value, _, same⟩ := List.mem_map.mp here
    exact absurd same nofun
  · exact ⟨error, waits⟩

/-- Nobody is registered once the stop flag is set. -/
theorem Step.stopped (stepped : Step setting thread sh pc after pc')
    (before : Invariant setting sh) (view : View setting thread sh pc)
    (stopped : sh.stopFlag = true) : after.stopFlag = true ∧
      (after.invocation number).since = (sh.invocation number).since := by
  cases stepped with
  | register free running => exact absurd (running.symm.trans stopped) Bool.false_ne_true
  | value entry queue value first received => exact ⟨stopped, sh.take_since thread number _ _ _⟩
  | last entry queue outcome first received => exact ⟨stopped, sh.take_since thread number _ _ _⟩
  | publish message buffer lines rest free =>
    have happens := before.publish message
    exact ⟨happens.stopFlag.trans stopped, (happens.entries number).1⟩
  | lockQueues free => exact ⟨rfl, rfl⟩
  | notify other numbers =>
    have happens := notify_happens (view.2.listed other List.mem_cons_self)
    exact ⟨happens.stopFlag.trans stopped, (happens.entries number).1⟩
  | _ => exact ⟨stopped, rfl⟩

/-- A published message. -/
def publishedMessage : Happening ρ → Option (PluginGenericResponse ρ)
  | .published message => some message
  | .notified _ _ => none

/-- The messages that were published. -/
def published (sh : Runner ρ τ) : List (PluginGenericResponse ρ) :=
  sh.history.filterMap publishedMessage

/-- The messages that lines have for invocations. -/
def routed (setting : Setting ρ τ) (lines : List Bytes) : List (PluginGenericResponse ρ) :=
  lines.filterMap fun line =>
    match setting.publishLine line with
    | .routes message => some message
    | _ => none

/-- The bytes that an event reads. -/
def readData : Event → Bytes
  | .read data => data
  | _ => []

/-- The reader goes on to the next line. -/
def publishes : Event → Bool
  | .publish => true
  | _ => false

/-- The bytes that a schedule reads. -/
def readBytes (schedule : List (Nat × Event)) : Bytes :=
  schedule.flatMap fun move => readData move.2

/-- The lines of these bytes that the reader went on to. -/
def readLines (schedule : List (Nat × Event)) : List Bytes :=
  (Splitting.split [10] (readBytes schedule)).1.take
    (schedule.countP fun move => publishes move.2)

/-- The buffer and the lines of the reader. -/
def held : Pc ρ → Option (Bytes × List Bytes)
  | .reading buffer lines => some (buffer, lines)
  | _ => none

/-- What a step does to the reader, by its event: it publishes a line, reads bytes, or neither. -/
inductive Reading (setting : Setting ρ τ) (event : Event) (sh : Runner ρ τ) (pc : Pc ρ)
    (after : Runner ρ τ) (pc' : Pc ρ) : Prop where
  /-- It publishes a line, and goes on or ends. -/
  | line (buffer line : Bytes) (lines : List Bytes) (publish : event = .publish)
    (before : pc = .reading buffer (line :: lines))
    (messages : after.published = sh.published ++ routed setting [line])
    (goes : pc' = .reading buffer lines ∨ held pc' = none)
  /-- It reads bytes. -/
  | data (buffer data : Bytes) (read : event = .read data) (before : pc = .reading buffer [])
    (messages : after.published = sh.published)
    (goes : pc' = .reading (Splitting.split [10] (buffer ++ data)).2
      (Splitting.split [10] (buffer ++ data)).1)
  /-- It does something else, and then it does not read any more. -/
  | other (still : publishes event = false) (quiet : readData event = [])
    (messages : after.published = sh.published) (away : held pc' = none)

/-- A step of the reader in terms of the result of the step function. -/
theorem Reading.of_some {event : Event} {found result : Runner ρ τ × Pc ρ}
    (stepped : some found = some result)
    (reading : Reading setting event sh pc found.1 found.2) :
    Reading setting event sh pc result.1 result.2 := by
  rw [← Option.some.inj stepped]
  exact reading

/-- Publishing a message records it. -/
theorem published_publish (sh : Runner ρ τ) (message : PluginGenericResponse ρ) :
    (sh.publish message).published = sh.published ++ [message] := by
  have history : (sh.publish message).history = sh.history ++ [.published message] := by
    rw [publish]
    split <;> rfl
  rw [published, published, history, List.filterMap_append]
  rfl

/-- Notifying an invocation publishes nothing. -/
theorem published_notify (sh : Runner ρ τ) (number : Nat) :
    (sh.notify number).published = sh.published := by
  have history : (sh.notify number).history =
      sh.history ++ [.notified number sh.notification] := rfl
  rw [published, published, history, List.filterMap_append]
  exact List.append_nil _

/-- A thread reads and publishes as the relation says. -/
theorem Reading.of_step (thread : Nat) {event : Event} {result : Runner ρ τ × Pc ρ}
    (stepped : step setting thread event sh pc = some result) :
    Reading setting event sh pc result.1 result.2 := by
  have quiet {event : Event} {after : Runner ρ τ} {pc' : Pc ρ} (still : publishes event = false)
      (quiet : readData event = []) (history : after.history = sh.history)
      (away : held pc' = none) : Reading setting event sh pc after pc' :=
    .other still quiet (by rw [published, history]; rfl) away
  unfold step at stepped
  split at stepped
  · split at stepped
    · split at stepped
      · exact .of_some stepped (quiet rfl rfl rfl rfl)
      · exact .of_some stepped (quiet rfl rfl rfl rfl)
    · exact absurd stepped nofun
  · split at stepped
    · split at stepped
      · exact .of_some stepped (quiet rfl rfl rfl rfl)
      · exact .of_some stepped (quiet rfl rfl rfl rfl)
    · exact absurd stepped nofun
  · exact .of_some stepped (quiet rfl rfl rfl rfl)
  · exact .of_some stepped (quiet rfl rfl rfl rfl)
  · split at stepped
    · exact absurd stepped nofun
    · split at stepped
      · exact .of_some stepped (quiet rfl rfl rfl rfl)
      · exact .of_some stepped (quiet rfl rfl rfl rfl)
  · exact .of_some stepped (quiet rfl rfl rfl rfl)
  · exact .of_some stepped (quiet rfl rfl rfl rfl)
  · exact .of_some stepped (quiet rfl rfl rfl rfl)
  · split at stepped
    · exact .of_some stepped (quiet rfl rfl rfl rfl)
    · exact absurd stepped nofun
  · rename_i buffer data
    exact .of_some stepped (.data buffer data rfl rfl rfl rfl)
  · exact .of_some stepped (quiet rfl rfl rfl rfl)
  · exact .of_some stepped (quiet rfl rfl rfl rfl)
  · rename_i buffer line lines
    split at stepped
    · rename_i ignored
      refine .of_some stepped (.line buffer line lines rfl rfl ?_ (Or.inl rfl))
      simp [routed, ignored]
    · rename_i error raises
      refine .of_some stepped (.line buffer line lines rfl rfl ?_ (Or.inr rfl))
      simp [published, routed, raises]
    · rename_i message routes
      split at stepped
      · refine .of_some stepped (.line buffer line lines rfl rfl ?_ (Or.inl rfl))
        simp [published_publish, routed, routes]
      · exact absurd stepped nofun
  · split at stepped
    · exact .of_some stepped (quiet rfl rfl rfl rfl)
    · exact absurd stepped nofun
  · split at stepped
    · exact .of_some stepped (quiet rfl rfl rfl rfl)
    · exact absurd stepped nofun
  · split at stepped
    · exact .of_some stepped (quiet rfl rfl rfl rfl)
    · exact absurd stepped nofun
  · rename_i number numbers
    exact .of_some stepped (.other rfl rfl (sh.published_notify number) rfl)
  · refine .of_some stepped (quiet rfl rfl rfl ?_)
    split <;> rfl
  · exact absurd stepped nofun

/-- What the reader has done so far, by the events: it has published the messages of the first
lines, and holds the other lines and the rest of the bytes. -/
structure Told (setting : Setting ρ τ) (pool : Pool (Runner ρ τ) (Pc ρ))
    (seen : List (Nat × Event)) : Prop where
  /-- Only thread 0 reads. -/
  reader : ∀ thread, thread ≠ 0 → held (pool.control thread) = none
  /-- The lines that it has gone on to, and what it holds. -/
  lines : ∃ done rest, (Splitting.split [10] (readBytes seen)).1 = done ++ rest ∧
    done.length = (seen.countP fun move => publishes move.2) ∧
    pool.shared.published = routed setting done ∧
    ∀ buffer lines, held (pool.control 0) = some (buffer, lines) →
      lines = rest ∧ buffer = (Splitting.split [10] (readBytes seen)).2

/-- A step keeps what the reader has done. -/
theorem Told.fire {pool next : Pool (Runner ρ τ) (Pc ρ)} {seen : List (Nat × Event)}
    {thread : Nat} {event : Event} (told : Told setting pool seen)
    (fired : (machine setting).fire pool thread event = some next) :
    Told setting next (seen ++ [(thread, event)]) := by
  obtain ⟨shared, point, stepped, rfl⟩ := Machine.fire_eq_some fired
  obtain ⟨done, rest, split, length, messages, holds⟩ := told.lines
  have reading : Reading setting event pool.shared (pool.control thread) shared point :=
    Reading.of_step thread stepped
  have zero (holding : held (pool.control thread) ≠ none) : thread = 0 := by
    by_contra other
    exact holding (told.reader thread other)
  have counted : ((seen ++ [(thread, event)]).countP fun move => publishes move.2) =
      (seen.countP fun move => publishes move.2) + if publishes event then 1 else 0 := by
    rw [List.countP_append, List.countP_singleton]
  have bytes : readBytes (seen ++ [(thread, event)]) = readBytes seen ++ readData event := by
    simp [readBytes]
  cases reading with
  | line buffer line lines publish before published goes =>
    subst publish
    obtain rfl := zero (by rw [before]; simp [held])
    obtain ⟨rfl, same⟩ := holds buffer (line :: lines) (by rw [before]; rfl)
    have unread : readBytes (seen ++ [(0, .publish)]) = readBytes seen := by
      rw [bytes]
      exact List.append_nil _
    refine ⟨?_, done ++ [line], lines, ?_, ?_, ?_, ?_⟩
    · intro other apart
      simp only [Function.update_of_ne apart]
      exact told.reader other apart
    · rw [unread, split, List.append_assoc]
      rfl
    · rw [counted, List.length_append, length]
      rfl
    · rw [published, messages, routed, routed, routed, List.filterMap_append]
    · intro buffer' lines' holding
      simp only [Function.update_self] at holding
      rcases goes with rfl | away
      · obtain ⟨rfl, rfl⟩ := Prod.mk.inj (Option.some.inj holding)
        rw [unread]
        exact ⟨rfl, same⟩
      · rw [away] at holding
        contradiction
  | data buffer data read before published goes =>
    subst read
    obtain rfl := zero (by rw [before]; simp [held])
    obtain ⟨rfl, same⟩ := holds buffer [] (by rw [before]; rfl)
    have whole := Splitting.split_append (show ([10] : Bytes) ≠ [] by simp) (readBytes seen) data
    rw [← same, split, List.append_nil] at whole
    refine ⟨?_, done, (Splitting.split [10] (buffer ++ data)).1, ?_, ?_,
      published.trans messages, ?_⟩
    · intro other apart
      simp only [Function.update_of_ne apart]
      exact told.reader other apart
    · rw [bytes, readData, whole]
    · rw [counted, length]
      rfl
    · intro buffer' lines' holding
      simp only [Function.update_self, goes] at holding
      obtain ⟨rfl, rfl⟩ := Prod.mk.inj (Option.some.inj holding)
      rw [bytes, readData, whole]
      exact ⟨rfl, rfl⟩
  | other still quiet published away =>
    refine ⟨?_, done, rest, ?_, ?_, published.trans messages, ?_⟩
    · intro other apart
      by_cases same : other = thread
      · subst same
        simpa using away
      · simp only [Function.update_of_ne same]
        exact told.reader other apart
    · rw [bytes, quiet, List.append_nil, split]
    · rw [counted, length, still]
      rfl
    · intro buffer lines holding
      by_cases same : thread = 0
      · subst same
        simp only [Function.update_self, away] at holding
        contradiction
      · simp only [Function.update_of_ne (Ne.symm same)] at holding
        rw [bytes, quiet, List.append_nil]
        exact holds buffer lines holding

/-- How an invocation exits. -/
theorem View.exited {outcome : Outcome ρ} (view : View setting number sh (.exited outcome))
    (before : Invariant setting sh) : sh.q.get (setting.invokeId number) = none ∧
      (outcome = .interrupted ∨
        ((sh.invocation number).since = none ∧ (sh.invocation number).yielded = [] ∧
          outcome = .raised .stopped) ∨
        ∃ front entry, front ++ [entry] <+: mail setting sh number ∧
          Reads setting number front (sh.invocation number).yielded ∧
          payload setting number entry = none ∧
          setting.receive number entry = .error outcome) := by
  rcases view with ⟨unregistered, same⟩ | ⟨_, absent, ended⟩
  · have absent : ¬ Listed setting number sh :=
      fun listed => before.registered number listed unregistered.since
    refine ⟨before.get_eq_none absent, Or.inr (Or.inl ?_)⟩
    exact ⟨unregistered.since, unregistered.yielded, same⟩
  · refine ⟨before.get_eq_none absent, ?_⟩
    rcases ended with ⟨interrupted, _⟩ | ⟨front, entry, taken, reads, received⟩
    · exact Or.inl interrupted
    · have beginning := Accounted.taken_prefix (before.account number)
      rw [taken] at beginning
      have member : entry ∈ mail setting sh number := beginning.subset (by simp)
      have none := payload_of_receive_error received member
      exact Or.inr (Or.inr ⟨front, entry, beginning, reads, none, received⟩)

end Runner

end DifyPlugin.Integration
