import DifyPlugin.Integration.Run
import DifyPlugin.Library.Delivery

/-!
# Routing to the invocations

The invariant of the runner keeps an account of every invocation: what it has taken and what
waits in its queue are what was addressed to it, as long as it is in the table. Once the stop flag
is set and the locks are free, everyone in the table has its notification. Inside `_close` the
thread that holds the locks knows whom it has yet to notify.
-/

namespace DifyPlugin.Integration

open Decoding Delivery Interleaving

variable {ρ τ : Type}

namespace Runner

variable {setting : Setting ρ τ} {sh after : Runner ρ τ} {number : Nat}

/-! ## The account of an invocation -/

/-- The table has the queue of the invocation. -/
def Listed (setting : Setting ρ τ) (number : Nat) (sh : Runner ρ τ) : Prop :=
  sh.q.get (setting.invokeId number) = some number

/-- The invocation was notified that the runner stops. -/
def Notified (number : Nat) (sh : Runner ρ τ) : Prop :=
  ∃ error, Entry.error error ∈ (sh.invocation number).taken ++ (sh.invocation number).queue

/-- The entries have these payloads. -/
def Reads (setting : Setting ρ τ) (number : Nat) (entries : List (Entry ρ)) (values : List τ) :
    Prop :=
  entries.map (payload setting number) = values.map some

/-- The account of an invocation. -/
def Account (setting : Setting ρ τ) (number : Nat) (sh : Runner ρ τ) : Prop :=
  Accounted (Listed setting number sh) (mail setting sh number) (sh.invocation number).taken
    (sh.invocation number).queue []

/-- What holds between the steps. -/
structure Invariant (setting : Setting ρ τ) (sh : Runner ρ τ) : Prop where
  /-- The account of every invocation. -/
  account : ∀ number, Account setting number sh
  /-- The table has queues under the ids of their invocations only. -/
  keys : ∀ id number, sh.q.get id = some number → id = setting.invokeId number
  /-- Whoever is in the table was registered. -/
  registered : ∀ number, Listed setting number sh → (sh.invocation number).since ≠ none
  /-- The registrations have happened. -/
  since : ∀ number start, (sh.invocation number).since = some start → start ≤ sh.history.length
  /-- When the runner has stopped, everyone in the table was notified. -/
  notified : sh.stopFlag = true → sh.qLock = none →
    ∀ number, Listed setting number sh → Notified number sh

/-- Other invocations stay what they are when one changes. -/
theorem setInvocation_of_ne (sh : Runner ρ τ) {other : Nat} (apart : other ≠ number)
    (call : Invocation ρ τ) :
    (sh.setInvocation number call).invocation other = sh.invocation other :=
  Function.update_of_ne apart _ _

/-- An invocation that changes. -/
theorem setInvocation_self (sh : Runner ρ τ) (number : Nat) (call : Invocation ρ τ) :
    (sh.setInvocation number call).invocation number = call :=
  Function.update_self _ _ _

/-- The table has no queue of an invocation that is not listed. -/
theorem Invariant.get_eq_none (invariant : Invariant setting sh)
    (absent : ¬ Listed setting number sh) : sh.q.get (setting.invokeId number) = none := by
  apply Option.eq_none_iff_forall_ne_some.mpr
  intro other found
  have same : number = other := setting.distinct (invariant.keys _ _ found)
  exact absent (same ▸ found)

/-- Who holds the queue of an id that is in the table. -/
theorem Invariant.listed_of_get (invariant : Invariant setting sh) {id : Text}
    (found : sh.q.get id = some number) : Listed setting number sh := by
  have same := invariant.keys id number found
  rw [same] at found
  exact found

/-- What happens to a registered invocation. -/
def arrival (setting : Setting ρ τ) (sh : Runner ρ τ) (number : Nat) (happening : Happening ρ) :
    Option (Entry ρ) :=
  match (sh.invocation number).since with
  | none => none
  | some _ => entryFor setting number happening

/-- What was addressed to an invocation depends on its registration and on what has happened. -/
theorem mail_congr (since : (after.invocation number).since = (sh.invocation number).since)
    (history : after.history = sh.history) :
    mail setting after number = mail setting sh number := by
  rw [mail, mail, since, history]

/-- What happens is addressed to the registered invocations that it is for. -/
theorem Invariant.mail_happens (invariant : Invariant setting sh) {happening : Happening ρ}
    (since : (after.invocation number).since = (sh.invocation number).since)
    (history : after.history = sh.history ++ [happening]) :
    mail setting after number =
      mail setting sh number ++ (arrival setting sh number happening).toList := by
  rw [mail, mail, arrival, since, history]
  cases start : (sh.invocation number).since with
  | none => rfl
  | some start' =>
    have bound := invariant.since number start' start
    simp only
    rw [List.drop_append_of_le_length bound, List.filterMap_append]
    cases here : entryFor setting number happening <;> simp [here]

/-- Something happens: who is listed gets its entry, and nobody else gets any. -/
structure Happens (setting : Setting ρ τ) (sh : Runner ρ τ) (happening : Happening ρ)
    (after : Runner ρ τ) : Prop where
  /-- It is the last thing that has happened. -/
  history : after.history = sh.history ++ [happening]
  /-- The table stays. -/
  q : after.q = sh.q
  /-- The stop flag stays. -/
  stopFlag : after.stopFlag = sh.stopFlag
  /-- `stop_flag_lock` stays. -/
  stopFlagLock : after.stopFlagLock = sh.stopFlagLock
  /-- `q_lock` stays. -/
  qLock : after.qLock = sh.qLock
  /-- The queues of the listed invocations. -/
  listed : ∀ number, Listed setting number sh → after.invocation number =
    { sh.invocation number with
      queue := (sh.invocation number).queue ++ (entryFor setting number happening).toList }
  /-- The other invocations. -/
  unlisted : ∀ number, ¬ Listed setting number sh → after.invocation number = sh.invocation number

/-- Publishing a message is such a happening. -/
theorem Invariant.publish (invariant : Invariant setting sh)
    (message : PluginGenericResponse ρ) :
    Happens setting sh (.published message) (sh.publish message) := by
  have target : ∀ number, Listed setting number sh →
      (sh.q.get message.invokeId = some number ↔ message.invokeId = setting.invokeId number) := by
    intro number listed
    constructor
    · exact invariant.keys _ _
    · intro same
      rw [same]
      exact listed
  rw [Runner.publish]
  cases found : sh.q.get message.invokeId with
  | none =>
    refine ⟨rfl, rfl, rfl, rfl, rfl, ?_, fun _ _ => rfl⟩
    intro number listed
    have other : message.invokeId ≠ setting.invokeId number := by
      intro same
      exact absurd (((target number listed).mpr same).symm.trans found) nofun
    simp [entryFor, other]
  | some holder =>
    refine ⟨rfl, rfl, rfl, rfl, rfl, ?_, ?_⟩
    · intro number listed
      by_cases same : number = holder
      · subst same
        have own := (target number listed).mp found
        simp [put, setInvocation, entryFor, own]
      · have other : message.invokeId ≠ setting.invokeId number := by
          intro own
          have here := ((target number listed).mpr own).symm.trans found
          exact same (Option.some.inj here)
        simp [put, setInvocation, entryFor, other, same]
    · intro number absent
      have apart : number ≠ holder := by
        intro same
        exact absent (same ▸ invariant.listed_of_get found)
      exact setInvocation_of_ne _ apart _

/-- Notifying an invocation in the table is such a happening. -/
theorem notify_happens (listed : Listed setting number sh) :
    Happens setting sh (.notified number sh.notification) (sh.notify number) := by
  refine ⟨rfl, rfl, rfl, rfl, rfl, ?_, ?_⟩
  · intro other _
    by_cases same : other = number
    · subst same
      simp [notify, put, setInvocation, entryFor]
    · have apart : number ≠ other := Ne.symm same
      simp [notify, put, setInvocation, entryFor, same, apart]
  · intro other absent
    have apart : other ≠ number := fun same => absent (same ▸ listed)
    exact setInvocation_of_ne _ apart _

/-- What happens takes nothing from anybody. -/
theorem Happens.entries {happening : Happening ρ} (happens : Happens setting sh happening after)
    (number : Nat) : (after.invocation number).since = (sh.invocation number).since ∧
      (after.invocation number).taken = (sh.invocation number).taken ∧
      (after.invocation number).yielded = (sh.invocation number).yielded ∧
      (sh.invocation number).queue <+: (after.invocation number).queue := by
  by_cases listed : Listed setting number sh
  · rw [happens.listed number listed]
    exact ⟨rfl, rfl, rfl, List.prefix_append _ _⟩
  · rw [happens.unlisted number listed]
    exact ⟨rfl, rfl, rfl, List.prefix_refl _⟩

/-- What happens leaves the table alone. -/
theorem Happens.listed_iff {happening : Happening ρ}
    (happens : Happens setting sh happening after) (number : Nat) :
    Listed setting number after ↔ Listed setting number sh := by
  rw [Listed, Listed, happens.q]

/-- A notification stays. -/
theorem Notified.mono (notified : Notified number sh)
    (taken : (after.invocation number).taken = (sh.invocation number).taken)
    (queue : (sh.invocation number).queue <+: (after.invocation number).queue) :
    Notified number after := by
  obtain ⟨error, member⟩ := notified
  refine ⟨error, ?_⟩
  rw [taken]
  rcases List.mem_append.mp member with before | waits
  · exact List.mem_append_left _ before
  · exact List.mem_append_right _ (queue.subset waits)

/-- What happens keeps the invariant. -/
theorem Happens.invariant {happening : Happening ρ}
    (happens : Happens setting sh happening after) (before : Invariant setting sh) :
    Invariant setting after := by
  constructor
  · intro number
    obtain ⟨since, taken, _, _⟩ := happens.entries number
    have account : Accounted _ _ _ _ _ := before.account number
    have whole := before.mail_happens since happens.history
    rw [Account, happens.listed_iff, whole, taken]
    by_cases listed : Listed setting number sh
    · have registered := before.registered number listed
      have arrives : arrival setting sh number happening =
          entryFor setting number happening := by
        rw [arrival]
        cases start : (sh.invocation number).since with
        | none => exact absurd start registered
        | some _ => rfl
      rw [arrives, happens.listed number listed]
      cases entryFor setting number happening with
      | none => simpa using account
      | some entry => exact (account.arrive listed entry).deliver
    · -- What is addressed to an invocation that has left is put nowhere.
      rw [happens.unlisted number listed]
      cases arrival setting sh number happening with
      | none => simpa using account
      | some entry => exact account.miss listed entry
  · intro id number found
    rw [happens.q] at found
    exact before.keys id number found
  · intro number listed
    rw [(happens.entries number).1]
    exact before.registered number ((happens.listed_iff number).mp listed)
  · intro number start since
    rw [(happens.entries number).1] at since
    have bound := before.since number start since
    rw [happens.history, List.length_append]
    omega
  · intro stopped free number listed
    obtain ⟨_, taken, _, queue⟩ := happens.entries number
    have stopped' : sh.stopFlag = true := happens.stopFlag ▸ stopped
    have free' : sh.qLock = none := happens.qLock ▸ free
    have told := before.notified stopped' free' number ((happens.listed_iff number).mp listed)
    exact told.mono taken queue

/-! ## What a thread knows -/

/-- `invoke` has ended: it was interrupted, or ends with the last entry it has taken. -/
def Ended (setting : Setting ρ τ) (number : Nat) (sh : Runner ρ τ) (outcome : Outcome ρ) : Prop :=
  (outcome = .interrupted ∧
    Reads setting number (sh.invocation number).taken (sh.invocation number).yielded) ∨
  ∃ front entry, (sh.invocation number).taken = front ++ [entry] ∧
    Reads setting number front (sh.invocation number).yielded ∧
    setting.receive number entry = .error outcome

/-- `invoke` was not registered. -/
structure Unregistered (number : Nat) (sh : Runner ρ τ) : Prop where
  /-- It was not registered. -/
  since : (sh.invocation number).since = none
  /-- It has yielded nothing. -/
  yielded : (sh.invocation number).yielded = []

/-- `invoke` is in the table, and has yielded the payloads of what it has taken. -/
structure Calling (setting : Setting ρ τ) (number : Nat) (sh : Runner ρ τ) : Prop where
  /-- It is in the table. -/
  listed : Listed setting number sh
  /-- It has yielded the payloads. -/
  reads : Reads setting number (sh.invocation number).taken (sh.invocation number).yielded

/-- `_close` has set the stop flag, and has yet to notify these invocations. -/
structure Notifying (setting : Setting ρ τ) (numbers : List Nat) (sh : Runner ρ τ) : Prop where
  /-- The stop flag is set. -/
  stopFlag : sh.stopFlag = true
  /-- Everyone else in the table was notified. -/
  notified : ∀ number, Listed setting number sh → number ∈ numbers ∨ Notified number sh
  /-- They are in the table. -/
  listed : ∀ number ∈ numbers, Listed setting number sh

/-- What a thread knows at its point. -/
def View (setting : Setting ρ τ) (thread : Nat) (sh : Runner ρ τ) : Pc ρ → Prop
  | .writing => Calling setting thread sh
  | .waiting => Calling setting thread sh
  | .yielded => Calling setting thread sh
  | .leaving outcome => Listed setting thread sh ∧ Ended setting thread sh outcome
  | .exited outcome =>
    (Unregistered thread sh ∧ outcome = .raised .stopped) ∨
      ((sh.invocation thread).since ≠ none ∧ ¬ Listed setting thread sh ∧
        Ended setting thread sh outcome)
  | .notifying numbers => Unregistered thread sh ∧ Notifying setting numbers sh
  | _ => Unregistered thread sh

end Runner

namespace Pc

/-- The thread has no part in the table, and holds no lock. -/
def outside : Pc ρ → Bool
  | .idle => true
  | .checked => true
  | .reading _ _ => true
  | .closing => true
  | .finished => true
  | _ => false

/-- `invoke` is registered, and not in its `finally`. -/
def calling : Pc ρ → Bool
  | .writing => true
  | .waiting => true
  | .yielded => true
  | _ => false

/-- `_close` holds `stop_flag_lock`. -/
def holdsStopFlagLock : Pc ρ → Bool
  | .locked => true
  | .notifying _ => true
  | _ => false

/-- `_close` holds `q_lock`. -/
def holdsQLock : Pc ρ → Bool
  | .notifying _ => true
  | _ => false

end Pc

namespace Runner

variable {setting : Setting ρ τ} {sh after : Runner ρ τ} {number thread : Nat} {pc pc' : Pc ρ}

/-- The thread holds the locks of its point, and no other. -/
structure Holding (thread : Nat) (sh : Runner ρ τ) (pc : Pc ρ) : Prop where
  /-- `stop_flag_lock`. -/
  stopFlagLock : sh.stopFlagLock = some thread ↔ pc.holdsStopFlagLock = true
  /-- `q_lock`. -/
  qLock : sh.qLock = some thread ↔ pc.holdsQLock = true

/-- What a thread knows: its locks, and its part in the table. -/
structure Known (setting : Setting ρ τ) (thread : Nat) (sh : Runner ρ τ) (pc : Pc ρ) : Prop where
  /-- Its locks. -/
  holding : Holding thread sh pc
  /-- Its part. -/
  view : View setting thread sh pc

/-- The steps. -/
inductive Step (setting : Setting ρ τ) (thread : Nat) (sh : Runner ρ τ) :
    Pc ρ → Runner ρ τ → Pc ρ → Prop where
  /-- Outside of the table; the reader may fail. -/
  | outside (before after : Pc ρ) (error : Option (ReaderError ρ)) (leaves : before.outside = true)
      (arrives : after.outside = true) :
      Step setting thread sh before { sh with readerError := error } after
  /-- `invoke` finds the stop flag set. -/
  | refused (before : Pc ρ) (leaves : before.outside = true) :
      Step setting thread sh before sh (.exited (.raised .stopped))
  /-- `invoke` registers its queue. -/
  | register (free : sh.qLock = none) (running : sh.stopFlag = false) :
      Step setting thread sh .checked (sh.register setting thread) .writing
  /-- `invoke` goes on. -/
  | proceed (before after : Pc ρ) (leaves : before.calling = true)
      (arrives : after.calling = true) :
      Step setting thread sh before sh after
  /-- `invoke` is interrupted. -/
  | interrupt (before : Pc ρ) (leaves : before.calling = true) :
      Step setting thread sh before sh (.leaving .interrupted)
  /-- `invoke` yields a value. -/
  | value (entry : Entry ρ) (queue : List (Entry ρ)) (value : τ)
      (first : (sh.invocation thread).queue = entry :: queue)
      (received : setting.receive thread entry = .ok value) :
      Step setting thread sh .waiting (sh.take thread entry queue [value]) .yielded
  /-- `invoke` takes its last entry. -/
  | last (entry : Entry ρ) (queue : List (Entry ρ)) (outcome : Outcome ρ)
      (first : (sh.invocation thread).queue = entry :: queue)
      (received : setting.receive thread entry = .error outcome) :
      Step setting thread sh .waiting (sh.take thread entry queue []) (.leaving outcome)
  /-- `invoke` leaves the table. -/
  | leave (outcome : Outcome ρ) (free : sh.qLock = none) :
      Step setting thread sh (.leaving outcome) (sh.leave setting thread) (.exited outcome)
  /-- The reader routes a message. -/
  | publish (message : PluginGenericResponse ρ) (buffer : Bytes) (lines rest : List Bytes)
      (free : sh.qLock = none) :
      Step setting thread sh (.reading buffer lines) (sh.publish message) (.reading buffer rest)
  /-- `_close` takes `stop_flag_lock`. -/
  | lockStopFlag (before : Pc ρ) (leaves : before.outside = true) (free : sh.stopFlagLock = none) :
      Step setting thread sh before { sh with stopFlagLock := some thread } .locked
  /-- `_close` takes `q_lock`. -/
  | lockQueues (free : sh.qLock = none) :
      Step setting thread sh .locked { sh with qLock := some thread, stopFlag := true }
        (.notifying (if sh.stopFlag then [] else sh.q.values))
  /-- `_close` notifies an invocation. -/
  | notify (number : Nat) (numbers : List Nat) :
      Step setting thread sh (.notifying (number :: numbers)) (sh.notify number)
        (.notifying numbers)
  /-- `_close` releases its locks. -/
  | unlock (after : Pc ρ) (arrives : after.outside = true) :
      Step setting thread sh (.notifying []) { sh with stopFlagLock := none, qLock := none } after

/-- A step in terms of the result of the step function. -/
theorem Step.of_some {found result : Runner ρ τ × Pc ρ} (stepped : some found = some result)
    (step : Step setting thread sh pc found.1 found.2) :
    Step setting thread sh pc result.1 result.2 := by
  rw [← Option.some.inj stepped]
  exact step

/-- A thread steps as the relation says. -/
theorem Step.of_step (thread : Nat) {event : Event} {result : Runner ρ τ × Pc ρ}
    (stepped : step setting thread event sh pc = some result) :
    Step setting thread sh pc result.1 result.2 := by
  unfold step at stepped
  split at stepped
  · split at stepped
    · split at stepped
      · exact .of_some stepped (.refused _ rfl)
      · exact .of_some stepped (.outside _ _ sh.readerError rfl rfl)
    · exact absurd stepped nofun
  · split at stepped
    · rename_i free
      split at stepped
      · exact .of_some stepped (.refused _ rfl)
      · rename_i running
        exact .of_some stepped (.register free (eq_false_of_ne_true running))
    · exact absurd stepped nofun
  · exact .of_some stepped (.proceed _ _ rfl rfl)
  · exact .of_some stepped (.interrupt _ rfl)
  · split at stepped
    · exact absurd stepped nofun
    · rename_i entry queue first
      split at stepped
      · rename_i value received
        exact .of_some stepped (.value entry queue value first received)
      · rename_i outcome received
        exact .of_some stepped (.last entry queue outcome first received)
  · exact .of_some stepped (.interrupt _ rfl)
  · exact .of_some stepped (.proceed _ _ rfl rfl)
  · exact .of_some stepped (.interrupt _ rfl)
  · split at stepped
    · rename_i free
      exact .of_some stepped (.leave _ free)
    · exact absurd stepped nofun
  · exact .of_some stepped (.outside _ _ sh.readerError rfl rfl)
  · exact .of_some stepped (.outside _ _ sh.readerError rfl rfl)
  · exact .of_some stepped (.outside _ _ _ rfl rfl)
  · split at stepped
    · exact .of_some stepped (.outside _ _ sh.readerError rfl rfl)
    · exact .of_some stepped (.outside _ _ _ rfl rfl)
    · split at stepped
      · rename_i free
        exact .of_some stepped (.publish _ _ _ _ free)
      · exact absurd stepped nofun
  · split at stepped
    · rename_i free
      exact .of_some stepped (.lockStopFlag _ rfl free)
    · exact absurd stepped nofun
  · split at stepped
    · rename_i free
      exact .of_some stepped (.lockStopFlag _ rfl free)
    · exact absurd stepped nofun
  · split at stepped
    · rename_i free
      exact .of_some stepped (.lockQueues free)
    · exact absurd stepped nofun
  · exact .of_some stepped (.notify _ _)
  · refine .of_some stepped (.unlock _ ?_)
    show Pc.outside (if thread = 0 then .finished else .idle) = true
    split <;> rfl
  · exact absurd stepped nofun

/-! ## The invariant is kept -/

/-- What was not registered has an empty account. -/
theorem Invariant.empty (before : Invariant setting sh)
    (since : (sh.invocation number).since = none) :
    (sh.invocation number).taken = [] ∧ (sh.invocation number).queue = [] := by
  have ordered := (before.account number).ordered
  have nothing : mail setting sh number = [] := by
    rw [mail, since]
  rw [nothing, List.prefix_nil, List.append_nil, List.append_eq_nil_iff] at ordered
  exact ordered

/-- What the account of an invocation, and its part, depend on. -/
structure Agree (setting : Setting ρ τ) (number : Nat) (sh after : Runner ρ τ) : Prop where
  /-- Its registration. -/
  since : (after.invocation number).since = (sh.invocation number).since
  /-- What it has taken. -/
  taken : (after.invocation number).taken = (sh.invocation number).taken
  /-- What it has yielded. -/
  yielded : (after.invocation number).yielded = (sh.invocation number).yielded
  /-- Its place in the table. -/
  listed : Listed setting number after ↔ Listed setting number sh

/-- The account stays when nothing happens. -/
theorem Agree.account (agree : Agree setting number sh after)
    (queue : (after.invocation number).queue = (sh.invocation number).queue)
    (history : after.history = sh.history) (account : Account setting number sh) :
    Account setting number after := by
  rw [Account, agree.listed, mail_congr agree.since history, agree.taken, queue]
  exact account

/-- Another invocation keeps its place in the table when one is registered. -/
theorem listed_register (apart : number ≠ thread) :
    Listed setting number (sh.register setting thread) ↔ Listed setting number sh := by
  have different : setting.invokeId number ≠ setting.invokeId thread :=
    fun same => apart (setting.distinct same)
  rw [Listed, Listed]
  show (sh.q.set _ _).get _ = _ ↔ _
  rw [Dict.get_set_of_ne sh.q different]

/-- Registering keeps the invariant. -/
theorem Invariant.register (before : Invariant setting sh) (running : sh.stopFlag = false)
    (since : (sh.invocation thread).since = none) :
    Invariant setting (sh.register setting thread) := by
  have others (number : Nat) (apart : number ≠ thread) :
      (sh.register setting thread).invocation number = sh.invocation number :=
    setInvocation_of_ne sh apart _
  have own : (sh.register setting thread).invocation thread =
      { sh.invocation thread with since := some sh.history.length, queue := [] } :=
    setInvocation_self sh thread _
  constructor
  · intro number
    by_cases same : number = thread
    · subst same
      have nothing : mail setting (sh.register setting number) number = [] := by
        rw [mail, own]
        show (sh.history.drop sh.history.length).filterMap _ = []
        rw [List.drop_length]
        rfl
      rw [Account, nothing, own]
      show Accounted _ _ (sh.invocation number).taken [] []
      rw [(before.empty since).1]
      exact .empty _
    · have state := others number same
      have agree : Agree setting number sh (sh.register setting thread) :=
        ⟨by rw [state], by rw [state], by rw [state], listed_register same⟩
      exact agree.account (by rw [state]) rfl (before.account number)
  · intro id number found
    by_cases same : id = setting.invokeId thread
    · subst same
      have holder : (sh.q.set (setting.invokeId thread) thread).get _ = some thread :=
        Dict.get_set_self _ _ _
      have here : number = thread := Option.some.inj (found.symm.trans holder)
      rw [here]
    · have kept := Dict.get_set_of_ne sh.q same thread
      exact before.keys id number (kept.symm.trans found)
  · intro number found
    by_cases same : number = thread
    · rw [same, own]
      exact nofun
    · rw [others number same]
      exact before.registered number ((listed_register same).mp found)
  · intro number start found
    by_cases same : number = thread
    · rw [same, own] at found
      exact Nat.le_of_eq (Option.some.inj found).symm
    · rw [others number same] at found
      exact before.since number start found
  · intro stopped
    exact absurd (running.symm.trans stopped) Bool.false_ne_true

/-- The entries of an invocation stay the same when it takes the first one. -/
theorem take_entries {entry : Entry ρ} {queue : List (Entry ρ)}
    (first : (sh.invocation thread).queue = entry :: queue) (values : List τ) :
    ((sh.take thread entry queue values).invocation number).taken ++
        ((sh.take thread entry queue values).invocation number).queue =
      (sh.invocation number).taken ++ (sh.invocation number).queue := by
  by_cases same : number = thread
  · rw [same, take, setInvocation_self, first]
    simp
  · rw [take, setInvocation_of_ne sh same]

/-- The registrations stay the same when an invocation takes an entry. -/
theorem take_since (sh : Runner ρ τ) (thread number : Nat) (entry : Entry ρ)
    (queue : List (Entry ρ)) (values : List τ) :
    ((sh.take thread entry queue values).invocation number).since =
      (sh.invocation number).since := by
  by_cases same : number = thread
  · rw [same, take, setInvocation_self]
  · rw [take, setInvocation_of_ne sh same]

/-- Taking an entry keeps the invariant. -/
theorem Invariant.take (before : Invariant setting sh) {entry : Entry ρ} {queue : List (Entry ρ)}
    (first : (sh.invocation thread).queue = entry :: queue) (values : List τ) :
    Invariant setting (sh.take thread entry queue values) := by
  have since (number : Nat) := sh.take_since thread number entry queue values
  constructor
  · intro number
    by_cases same : number = thread
    · subst same
      have account : Accounted _ _ _ _ _ := before.account number
      rw [first] at account
      have whole : mail setting (sh.take number entry queue values) number =
          mail setting sh number := mail_congr (since number) rfl
      rw [Account, whole, Runner.take, setInvocation_self]
      exact account.take
    · have state : (sh.take thread entry queue values).invocation number = sh.invocation number :=
        setInvocation_of_ne sh same _
      have agree : Agree setting number sh (sh.take thread entry queue values) :=
        ⟨by rw [state], by rw [state], by rw [state], Iff.rfl⟩
      exact agree.account (by rw [state]) rfl (before.account number)
  · exact before.keys
  · intro number listed
    rw [since]
    exact before.registered number listed
  · intro number start found
    rw [since] at found
    exact before.since number start found
  · intro stopped free number listed
    obtain ⟨error, member⟩ := before.notified stopped free number listed
    refine ⟨error, ?_⟩
    rw [take_entries first]
    exact member

/-- Another invocation stays in the table when one leaves. -/
theorem listed_leave (apart : number ≠ thread) :
    Listed setting number (sh.leave setting thread) ↔ Listed setting number sh := by
  have different : setting.invokeId number ≠ setting.invokeId thread :=
    fun same => apart (setting.distinct same)
  rw [Listed, Listed]
  show (sh.q.pop _).get _ = _ ↔ _
  rw [Dict.get_pop_of_ne sh.q different]

/-- Whoever leaves is not in the table. -/
theorem not_listed_leave (sh : Runner ρ τ) (thread : Nat) :
    ¬ Listed setting thread (sh.leave setting thread) := by
  intro listed
  have gone : (sh.q.pop (setting.invokeId thread)).get (setting.invokeId thread) = none :=
    Dict.get_pop_self _ _
  exact absurd (gone.symm.trans listed) nofun

/-- Leaving keeps the invariant. -/
theorem Invariant.leave (before : Invariant setting sh) (thread : Nat) :
    Invariant setting (sh.leave setting thread) := by
  have still (number : Nat) (listed : Listed setting number (sh.leave setting thread)) :
      Listed setting number sh := by
    by_cases same : number = thread
    · subst same
      exact absurd listed (not_listed_leave sh number)
    · exact (listed_leave same).mp listed
  constructor
  · intro number
    have account : Accounted _ _ _ _ _ := before.account number
    exact account.leave (still number)
  · intro id number found
    by_cases same : id = setting.invokeId thread
    · subst same
      have gone := Dict.get_pop_self sh.q (setting.invokeId thread)
      exact absurd (gone.symm.trans found) nofun
    · have kept := Dict.get_pop_of_ne sh.q same
      exact before.keys id number (kept.symm.trans found)
  · exact fun number listed => before.registered number (still number listed)
  · exact before.since
  · exact fun stopped free number listed =>
      before.notified stopped free number (still number listed)

/-- A thread outside of the table is not registered. -/
theorem View.unregistered (view : View setting thread sh pc) (outside : pc.outside = true) :
    Unregistered thread sh := by
  cases pc with
  | idle => exact view
  | checked => exact view
  | reading buffer lines => exact view
  | closing => exact view
  | finished => exact view
  | _ => exact absurd outside nofun

/-- A thread that is not registered may be outside of the table. -/
theorem Unregistered.view (unregistered : Unregistered thread sh) (outside : pc.outside = true) :
    View setting thread sh pc := by
  cases pc with
  | idle => exact unregistered
  | checked => exact unregistered
  | reading buffer lines => exact unregistered
  | closing => exact unregistered
  | finished => exact unregistered
  | _ => exact absurd outside nofun

/-- An invocation between its registration and its `finally`. -/
theorem View.calls (view : View setting thread sh pc) (calling : pc.calling = true) :
    Calling setting thread sh := by
  cases pc with
  | writing => exact view
  | waiting => exact view
  | yielded => exact view
  | _ => exact absurd calling nofun

/-- An invocation in the table may be between its registration and its `finally`. -/
theorem Calling.view (calls : Calling setting thread sh) (calling : pc.calling = true) :
    View setting thread sh pc := by
  cases pc with
  | writing => exact calls
  | waiting => exact calls
  | yielded => exact calls
  | _ => exact absurd calling nofun

/-- A step keeps the invariant. -/
theorem Step.invariant (stepped : Step setting thread sh pc after pc')
    (before : Invariant setting sh) (known : Known setting thread sh pc) :
    Invariant setting after := by
  have view := known.view
  cases stepped with
  | outside _ _ error leaves arrives =>
    exact ⟨before.account, before.keys, before.registered, before.since, before.notified⟩
  | refused _ leaves => exact before
  | register free running => exact before.register running view.since
  | proceed _ _ leaves arrives => exact before
  | interrupt _ leaves => exact before
  | value entry queue value first received => exact before.take first [value]
  | last entry queue outcome first received => exact before.take first []
  | leave outcome free => exact before.leave thread
  | publish message buffer lines rest free => exact (before.publish message).invariant before
  | lockStopFlag _ leaves free =>
    exact ⟨before.account, before.keys, before.registered, before.since, before.notified⟩
  | lockQueues free =>
    refine ⟨before.account, before.keys, before.registered, before.since, ?_⟩
    intro _ released
    exact absurd released nofun
  | notify number numbers =>
    have listed := view.2.listed number List.mem_cons_self
    exact (notify_happens listed).invariant before
  | unlock _ arrives =>
    refine ⟨before.account, before.keys, before.registered, before.since, ?_⟩
    intro _ _ number listed
    rcases view.2.notified number listed with member | notified
    · exact absurd member List.not_mem_nil
    · exact notified

/-! ## What threads know is kept -/

/-- A value that is received is the payload of a response. -/
theorem payload_of_receive {entry : Entry ρ} {value : τ}
    (received : setting.receive number entry = .ok value) :
    payload setting number entry = some value := by
  cases entry with
  | message message =>
    simp only [Setting.receive] at received
    split at received
    · split at received
      · rename_i response
        split at received
        · rename_i valid
          obtain rfl := Except.ok.inj received
          rw [payload, if_pos response]
          assumption
        · exact absurd received nofun
      · exact absurd received nofun
      · exact absurd received nofun
    · exact absurd received nofun
  | error error => exact absurd received nofun
  | finish => exact absurd received nofun

/-- Another payload is yielded. -/
theorem Reads.append {front : List (Entry ρ)} {values : List τ} {entry : Entry ρ} {value : τ}
    (reads : Reads setting number front values)
    (next : payload setting number entry = some value) :
    Reads setting number (front ++ [entry]) (values ++ [value]) := by
  rw [Reads, List.map_append, List.map_append, reads, List.map_singleton, next]
  rfl

/-- What was not registered stays so. -/
theorem Unregistered.congr (unregistered : Unregistered number sh)
    (since : (after.invocation number).since = (sh.invocation number).since)
    (yielded : (after.invocation number).yielded = (sh.invocation number).yielded) :
    Unregistered number after :=
  ⟨since.trans unregistered.since, yielded.trans unregistered.yielded⟩

/-- The invocations that `_close` has to notify when it has taken the locks. -/
theorem Invariant.notifying (before : Invariant setting sh) (free : sh.qLock = none) :
    Notifying setting (if sh.stopFlag then [] else sh.q.values)
      { sh with qLock := some thread, stopFlag := true } := by
  have values (number : Nat) : Listed setting number sh ↔ number ∈ sh.q.values := by
    constructor
    · intro listed
      exact List.mem_map.mpr ⟨_, Dict.get_eq_some.mp listed, rfl⟩
    · intro member
      obtain ⟨entry, present, same⟩ := List.mem_map.mp member
      have found : sh.q.get entry.1 = some number := Dict.get_eq_some.mpr (same ▸ present)
      exact before.listed_of_get found
  refine ⟨rfl, ?_, ?_⟩
  · intro number listed
    cases stopped : sh.stopFlag with
    | true => exact Or.inr (before.notified stopped free number listed)
    | false => exact Or.inl ((values number).mp listed)
  · intro number member
    cases stopped : sh.stopFlag with
    | true =>
      rw [stopped] at member
      exact absurd member List.not_mem_nil
    | false =>
      rw [stopped] at member
      exact (values number).mpr member

/-- `_close` has notified one more invocation. -/
theorem Notifying.notify {numbers : List Nat}
    (notifying : Notifying setting (number :: numbers) sh) :
    Notifying setting numbers (sh.notify number) := by
  have happens := notify_happens (notifying.listed number List.mem_cons_self)
  refine ⟨happens.stopFlag.trans notifying.stopFlag, ?_, ?_⟩
  · intro other listed
    rcases notifying.notified other ((happens.listed_iff other).mp listed) with member | notified
    · rcases List.mem_cons.mp member with same | later
      · subst same
        refine Or.inr ⟨sh.notification, ?_⟩
        rw [Runner.notify, put, setInvocation_self]
        simp
      · exact Or.inl later
    · obtain ⟨_, taken, _, queue⟩ := happens.entries other
      exact Or.inr (notified.mono taken queue)
  · intro other member
    exact (happens.listed_iff other).mpr (notifying.listed other (List.mem_cons_of_mem _ member))

/-- A step establishes what its thread knows of the table. -/
theorem Step.view (stepped : Step setting thread sh pc after pc') (before : Invariant setting sh)
    (view : View setting thread sh pc) : View setting thread after pc' := by
  cases stepped with
  | outside _ _ error leaves arrives =>
    have unregistered := view.unregistered leaves
    have later : Unregistered thread { sh with readerError := error } :=
      unregistered.congr rfl rfl
    exact later.view arrives
  | refused _ leaves => exact Or.inl ⟨view.unregistered leaves, rfl⟩
  | register free running =>
    have own : (sh.register setting thread).invocation thread =
        { sh.invocation thread with since := some sh.history.length, queue := [] } :=
      setInvocation_self sh thread _
    refine ⟨Dict.get_set_self _ _ _, ?_⟩
    rw [own, Reads]
    show (sh.invocation thread).taken.map _ = (sh.invocation thread).yielded.map some
    rw [(before.empty view.since).1, view.yielded]
    rfl
  | proceed _ _ leaves arrives => exact (view.calls leaves).view arrives
  | interrupt _ leaves =>
    have calls := view.calls leaves
    exact ⟨calls.listed, Or.inl ⟨rfl, calls.reads⟩⟩
  | value entry queue value first received =>
    refine ⟨view.listed, ?_⟩
    rw [take, setInvocation_self]
    exact view.reads.append (payload_of_receive received)
  | last entry queue outcome first received =>
    refine ⟨view.listed, Or.inr ⟨(sh.invocation thread).taken, entry, ?_, ?_, received⟩⟩
    · rw [take, setInvocation_self]
    · rw [take, setInvocation_self]
      show Reads _ _ _ ((sh.invocation thread).yielded ++ [])
      rw [List.append_nil]
      exact view.reads
  | leave outcome free =>
    have registered := before.registered thread view.1
    exact Or.inr ⟨registered, not_listed_leave sh thread, view.2⟩
  | publish message buffer lines rest free =>
    obtain ⟨since, _, yielded, _⟩ := (before.publish message).entries thread
    exact Unregistered.congr view since yielded
  | lockStopFlag _ leaves free =>
    have unregistered := view.unregistered leaves
    exact unregistered.congr rfl rfl
  | lockQueues free => exact ⟨Unregistered.congr view rfl rfl, before.notifying free⟩
  | notify number numbers =>
    have listed := view.2.listed number List.mem_cons_self
    obtain ⟨since, _, yielded, _⟩ := (notify_happens listed).entries thread
    exact ⟨view.1.congr since yielded, view.2.notify⟩
  | unlock _ arrives =>
    have later : Unregistered thread { sh with stopFlagLock := none, qLock := none } :=
      view.1.congr rfl rfl
    exact later.view arrives

/-- A step leaves the part of another invocation alone. -/
theorem Step.agree (stepped : Step setting thread sh pc after pc') (before : Invariant setting sh)
    (view : View setting thread sh pc) {other : Nat} (apart : other ≠ thread) :
    Agree setting other sh after := by
  have of_happening {happening : Happening ρ} {later : Runner ρ τ}
      (happens : Happens setting sh happening later) : Agree setting other sh later := by
    obtain ⟨since, taken, yielded, _⟩ := happens.entries other
    exact ⟨since, taken, yielded, happens.listed_iff other⟩
  cases stepped with
  | register free running =>
    have state : (sh.register setting thread).invocation other = sh.invocation other :=
      setInvocation_of_ne sh apart _
    exact ⟨by rw [state], by rw [state], by rw [state], listed_register apart⟩
  | value entry queue value first received =>
    have state := setInvocation_of_ne sh apart
    rw [take]
    exact ⟨by rw [state], by rw [state], by rw [state], Iff.rfl⟩
  | last entry queue outcome first received =>
    have state := setInvocation_of_ne sh apart
    rw [take]
    exact ⟨by rw [state], by rw [state], by rw [state], Iff.rfl⟩
  | leave outcome free => exact ⟨rfl, rfl, rfl, listed_leave apart⟩
  | publish message buffer lines rest free => exact of_happening (before.publish message)
  | notify number numbers =>
    exact of_happening (notify_happens (view.2.listed number List.mem_cons_self))
  | _ => exact ⟨rfl, rfl, rfl, Iff.rfl⟩

/-- Who holds `q_lock` keeps the stop flag, the table and the notifications from the others. -/
theorem Step.notifying (stepped : Step setting thread sh pc after pc')
    (known : Known setting thread sh pc) {other : Nat} (apart : other ≠ thread)
    (held : sh.qLock = some other) {numbers : List Nat}
    (notifying : Notifying setting numbers sh) : Notifying setting numbers after := by
  have taken {queue : List (Entry ρ)} {entry : Entry ρ}
      (first : (sh.invocation thread).queue = entry :: queue) (values : List τ) :
      Notifying setting numbers (sh.take thread entry queue values) := by
    refine ⟨notifying.stopFlag, ?_, notifying.listed⟩
    intro number listed
    rcases notifying.notified number listed with member | ⟨error, member⟩
    · exact Or.inl member
    · refine Or.inr ⟨error, ?_⟩
      rw [take_entries first]
      exact member
  have mine (numbers : List Nat) (point : pc = .notifying numbers) : False := by
    have own : sh.qLock = some thread := known.holding.qLock.mpr (by rw [point]; rfl)
    exact apart (Option.some.inj (held.symm.trans own))
  cases stepped with
  | register free running => exact absurd (held.symm.trans free) nofun
  | value entry queue value first received => exact taken first _
  | last entry queue outcome first received => exact taken first _
  | leave outcome free => exact absurd (held.symm.trans free) nofun
  | publish message buffer lines rest free => exact absurd (held.symm.trans free) nofun
  | lockQueues free => exact absurd (held.symm.trans free) nofun
  | notify number numbers => exact (mine _ rfl).elim
  | unlock _ arrives => exact (mine _ rfl).elim
  | _ => exact ⟨notifying.stopFlag, notifying.notified, notifying.listed⟩

/-- Outside of the table a thread holds no lock. -/
theorem holds_of_outside (outside : pc.outside = true) :
    pc.holdsStopFlagLock = false ∧ pc.holdsQLock = false := by
  cases pc <;> first | exact ⟨rfl, rfl⟩ | exact absurd outside nofun

/-- `invoke` holds no lock while it is registered. -/
theorem holds_of_calling (calling : pc.calling = true) :
    pc.holdsStopFlagLock = false ∧ pc.holdsQLock = false := by
  cases pc <;> first | exact ⟨rfl, rfl⟩ | exact absurd calling nofun

/-- The locks stay as long as the thread holds the same ones. -/
theorem Holding.congr (holding : Holding thread sh pc)
    (stopFlagLock : after.stopFlagLock = sh.stopFlagLock) (qLock : after.qLock = sh.qLock)
    (holds : pc'.holdsStopFlagLock = pc.holdsStopFlagLock ∧ pc'.holdsQLock = pc.holdsQLock) :
    Holding thread after pc' := by
  constructor
  · rw [stopFlagLock, holds.1]
    exact holding.stopFlagLock
  · rw [qLock, holds.2]
    exact holding.qLock

/-- A thread that holds no lock before and after. -/
theorem Holding.none (holding : Holding thread sh pc)
    (stopFlagLock : after.stopFlagLock = sh.stopFlagLock) (qLock : after.qLock = sh.qLock)
    (before : pc.holdsStopFlagLock = false ∧ pc.holdsQLock = false)
    (later : pc'.holdsStopFlagLock = false ∧ pc'.holdsQLock = false) :
    Holding thread after pc' :=
  holding.congr stopFlagLock qLock ⟨later.1.trans before.1.symm, later.2.trans before.2.symm⟩

/-- A step leaves its thread the locks of its point. -/
theorem Step.holding (stepped : Step setting thread sh pc after pc')
    (before : Invariant setting sh) (known : Known setting thread sh pc) :
    Holding thread after pc' := by
  have holding := known.holding
  cases stepped with
  | outside _ _ error leaves arrives =>
    exact holding.none rfl rfl (holds_of_outside leaves) (holds_of_outside arrives)
  | refused _ leaves => exact holding.none rfl rfl (holds_of_outside leaves) ⟨rfl, rfl⟩
  | register free running => exact holding.none rfl rfl ⟨rfl, rfl⟩ ⟨rfl, rfl⟩
  | proceed _ _ leaves arrives =>
    exact holding.none rfl rfl (holds_of_calling leaves) (holds_of_calling arrives)
  | interrupt _ leaves => exact holding.none rfl rfl (holds_of_calling leaves) ⟨rfl, rfl⟩
  | value entry queue value first received => exact holding.none rfl rfl ⟨rfl, rfl⟩ ⟨rfl, rfl⟩
  | last entry queue outcome first received => exact holding.none rfl rfl ⟨rfl, rfl⟩ ⟨rfl, rfl⟩
  | leave outcome free => exact holding.none rfl rfl ⟨rfl, rfl⟩ ⟨rfl, rfl⟩
  | publish message buffer lines rest free =>
    have happens := before.publish message
    exact holding.none happens.stopFlagLock happens.qLock ⟨rfl, rfl⟩ ⟨rfl, rfl⟩
  | lockStopFlag _ leaves free =>
    refine ⟨⟨fun _ => rfl, fun _ => rfl⟩, ?_⟩
    have unheld : pc.holdsQLock = false := (holds_of_outside leaves).2
    have qLock := holding.qLock
    rw [unheld] at qLock
    exact qLock
  | lockQueues free =>
    exact ⟨holding.stopFlagLock, ⟨fun _ => rfl, fun _ => rfl⟩⟩
  | notify number numbers => exact holding.congr rfl rfl ⟨rfl, rfl⟩
  | unlock _ arrives =>
    have unheld := holds_of_outside arrives
    constructor
    · rw [unheld.1]
      exact ⟨nofun, nofun⟩
    · rw [unheld.2]
      exact ⟨nofun, nofun⟩

/-- A step leaves the others their locks. -/
theorem Step.locks (stepped : Step setting thread sh pc after pc')
    (before : Invariant setting sh) (known : Known setting thread sh pc) {other : Nat}
    (apart : other ≠ thread) :
    (after.stopFlagLock = some other ↔ sh.stopFlagLock = some other) ∧
      (after.qLock = some other ↔ sh.qLock = some other) := by
  have different : some thread ≠ some other := fun same => apart (Option.some.inj same).symm
  cases stepped with
  | publish message buffer lines rest free =>
    have happens := before.publish message
    rw [happens.stopFlagLock, happens.qLock]
    exact ⟨Iff.rfl, Iff.rfl⟩
  | lockStopFlag _ leaves free =>
    rw [free]
    exact ⟨⟨fun same => absurd same different, nofun⟩, Iff.rfl⟩
  | lockQueues free =>
    rw [free]
    exact ⟨Iff.rfl, ⟨fun same => absurd same different, nofun⟩⟩
  | unlock _ arrives =>
    have first : sh.stopFlagLock = some thread := known.holding.stopFlagLock.mpr rfl
    have second : sh.qLock = some thread := known.holding.qLock.mpr rfl
    rw [first, second]
    exact ⟨⟨nofun, fun same => absurd same different⟩, ⟨nofun, fun same => absurd same different⟩⟩
  | _ => exact ⟨Iff.rfl, Iff.rfl⟩

/-- How `invoke` ended depends on its part. -/
theorem Ended.congr {outcome : Outcome ρ} (ended : Ended setting number sh outcome)
    (agree : Agree setting number sh after) : Ended setting number after outcome := by
  rw [Ended, agree.taken, agree.yielded]
  exact ended

/-- What a thread knows depends on its part, and on what the locks protect. -/
theorem View.congr (view : View setting thread sh pc) (agree : Agree setting thread sh after)
    (notifying : ∀ numbers, pc = .notifying numbers → Notifying setting numbers sh →
      Notifying setting numbers after) : View setting thread after pc := by
  have unregistered (here : Unregistered thread sh) : Unregistered thread after :=
    here.congr agree.since agree.yielded
  have calls (here : Calling setting thread sh) : Calling setting thread after := by
    refine ⟨agree.listed.mpr here.listed, ?_⟩
    rw [agree.taken, agree.yielded]
    exact here.reads
  cases pc with
  | writing => exact calls view
  | waiting => exact calls view
  | yielded => exact calls view
  | leaving outcome => exact ⟨agree.listed.mpr view.1, view.2.congr agree⟩
  | exited outcome =>
    rcases view with ⟨here, same⟩ | ⟨registered, absent, ended⟩
    · exact Or.inl ⟨unregistered here, same⟩
    · refine Or.inr ⟨?_, fun listed => absent (agree.listed.mp listed), ended.congr agree⟩
      rw [agree.since]
      exact registered
  | notifying numbers => exact ⟨unregistered view.1, notifying numbers rfl view.2⟩
  | idle => exact unregistered view
  | checked => exact unregistered view
  | reading buffer lines => exact unregistered view
  | closing => exact unregistered view
  | locked => exact unregistered view
  | finished => exact unregistered view

/-- A step leaves the others what they know. -/
theorem Step.others (stepped : Step setting thread sh pc after pc')
    (before : Invariant setting sh) (known : Known setting thread sh pc) {other : Nat}
    {point : Pc ρ} (apart : other ≠ thread) (knows : Known setting other sh point) :
    Known setting other after point := by
  have locks := stepped.locks before known apart
  refine ⟨⟨locks.1.trans knows.holding.stopFlagLock, locks.2.trans knows.holding.qLock⟩, ?_⟩
  apply knows.view.congr (stepped.agree before known.view apart)
  intro numbers here notifying
  have held : sh.qLock = some other := knows.holding.qLock.mpr (by rw [here]; rfl)
  exact stepped.notifying known apart held notifying

/-- The invariant, and what each thread knows. -/
def assertions (setting : Setting ρ τ) : Assertions (Runner ρ τ) (Pc ρ) :=
  ⟨Invariant setting, Known setting⟩

/-- Nothing has happened in the beginning. -/
theorem initial_holds (setting : Setting ρ τ) : (assertions setting).Holds initial := by
  constructor
  · exact ⟨fun _ => .empty _, nofun, nofun, nofun, nofun⟩
  · intro thread
    by_cases reader : thread = 0
    · subst reader
      exact ⟨⟨⟨nofun, nofun⟩, ⟨nofun, nofun⟩⟩, ⟨rfl, rfl⟩⟩
    · have idle : (initial : Pool (Runner ρ τ) (Pc ρ)).control thread = .idle := if_neg reader
      show Known setting thread _ (initial.control thread)
      rw [idle]
      exact ⟨⟨⟨nofun, nofun⟩, ⟨nofun, nofun⟩⟩, ⟨rfl, rfl⟩⟩

/-- The assertions are kept by every run. -/
theorem run_holds {schedule : List (Nat × Event)} {pool later : Pool (Runner ρ τ) (Pc ρ)}
    (holds : (assertions setting).Holds pool)
    (ran : (machine setting).run pool schedule = some later) :
    (assertions setting).Holds later := by
  apply Assertions.run_kept ?_ ?_ holds ran
  · intro pool thread event shared point holds stepped
    have step := Step.of_step thread stepped
    have known : Known setting thread pool.shared (pool.control thread) := holds.2 thread
    exact ⟨step.invariant holds.1 known, step.holding holds.1 known, step.view holds.1 known.view⟩
  · intro pool thread event shared point holds stepped other apart
    have step := Step.of_step thread stepped
    exact step.others holds.1 (holds.2 thread) apart (holds.2 other)

/-! ## What was addressed to an invocation is for it -/

/-- The messages that are addressed to an invocation have its id. -/
theorem mail_invokeId {message : PluginGenericResponse ρ}
    (member : Entry.message message ∈ mail setting sh number) :
    message.invokeId = setting.invokeId number := by
  rw [mail] at member
  split at member
  · exact absurd member List.not_mem_nil
  · obtain ⟨happening, _, entry⟩ := List.mem_filterMap.mp member
    cases happening with
    | published published =>
      simp only [entryFor, entryOf] at entry
      split at entry
      · rename_i own
        split at entry
        · exact absurd entry nofun
        · obtain rfl := Entry.message.inj (Option.some.inj entry)
          exact own
      · exact absurd entry nofun
    | notified other error =>
      simp only [entryFor] at entry
      split at entry <;> exact absurd entry nofun

/-- The last entry of an invocation is not the payload of a response. -/
theorem payload_of_receive_error {entry : Entry ρ} {outcome : Outcome ρ}
    (received : setting.receive number entry = .error outcome)
    (member : entry ∈ mail setting sh number) : payload setting number entry = none := by
  cases entry with
  | message message =>
    have own := mail_invokeId member
    simp only [Setting.receive, if_pos own] at received
    rw [payload]
    split
    · rename_i response
      simp only [response] at received
      cases valid : setting.modelValidate number message.response with
      | none => rfl
      | some value =>
        rw [valid] at received
        exact absurd received nofun
    · rfl
  | error error => rfl
  | finish => rfl

/-- What an invocation has yielded are payloads of what was addressed to it. -/
theorem View.reads (view : View setting number sh pc) (before : Invariant setting sh) :
    ∃ front, front <+: mail setting sh number ∧
      Reads setting number front (sh.invocation number).yielded := by
  have beginning := Accounted.taken_prefix (before.account number)
  have unregistered (here : Unregistered number sh) : ∃ front,
      front <+: mail setting sh number ∧
        Reads setting number front (sh.invocation number).yielded := by
    refine ⟨[], List.nil_prefix, ?_⟩
    rw [here.yielded]
    rfl
  have ended {outcome : Outcome ρ} (here : Ended setting number sh outcome) : ∃ front,
      front <+: mail setting sh number ∧
        Reads setting number front (sh.invocation number).yielded := by
    rcases here with ⟨_, reads⟩ | ⟨front, entry, taken, reads, _⟩
    · exact ⟨_, beginning, reads⟩
    · rw [taken] at beginning
      exact ⟨front, (List.prefix_append _ _).trans beginning, reads⟩
  cases pc with
  | writing => exact ⟨_, beginning, Calling.reads view⟩
  | waiting => exact ⟨_, beginning, Calling.reads view⟩
  | yielded => exact ⟨_, beginning, Calling.reads view⟩
  | leaving outcome => exact ended view.2
  | exited outcome =>
    rcases view with ⟨here, _⟩ | ⟨_, _, here⟩
    · exact unregistered here
    · exact ended here
  | notifying numbers => exact unregistered view.1
  | idle => exact unregistered view
  | checked => exact unregistered view
  | reading buffer lines => exact unregistered view
  | closing => exact unregistered view
  | locked => exact unregistered view
  | finished => exact unregistered view

end Runner

end DifyPlugin.Integration
