import DifyPlugin.Core.Runtime.BackwardsInvocation
import DifyPlugin.Library.Delivery

/-!
# Isolation of backwards invocations

A run is looked at from one invocation. Its view of the state is the part that concerns it, and
every step of any greenlet changes the view in one of a few ways: a message arrives or is
written to its queue, it takes an entry, or its subscription ends. Each of them keeps the account
of its responses, so it yields the results of its own responses in the order of their arrival.
-/

namespace DifyPlugin.Runtime

open Interleaving Server Delivery

variable {δ τ : Type}

/-- The generator of the invocation is running. -/
def Pc.live : Pc δ → Bool
  | .subscribed | .sending | .waiting _ | .yielded => true
  | _ => false

/-- The greenlet has not begun an invocation. -/
def Pc.outside : Pc δ → Bool
  | .idle | .listening | .delivering _ _ | .closing _ => true
  | _ => false

/-- A greenlet that blocks here runs the event loop. -/
def Pc.dispatches : Pc δ → Bool
  | .listening | .delivering _ _ => true
  | _ => false

/-- The exit was caused by a response. -/
def Exit.answered : Exit → Bool
  | .ended | .error _ | .invalid => true
  | _ => false

/-- The exit, when a response has caused it. -/
def Pc.answer : Pc δ → Option Exit
  | .finished exit => if exit.answered then some exit else none
  | _ => none

/-- The message that greenlet 0 is about to write to the invocation. -/
def Pc.pending (number : Nat) : Pc δ → List (PluginInStream δ)
  | .delivering data matched => if number ∈ matched then [data] else []
  | _ => []

/-- What concerns one invocation. -/
structure View (δ τ : Type) where
  /-- Its filter reader is in the list of the request reader. -/
  subscribed : Prop
  /-- Its filter reader. -/
  reader : FilterReader δ
  /-- It has begun to send its request. -/
  asked : Bool
  /-- The responses to it that arrived. -/
  arrived : List (PluginInStream δ)
  /-- The responses it took. -/
  taken : List (PluginInStream δ)
  /-- What it yielded. -/
  results : List τ

/-- The part of the shared state that concerns one invocation. -/
def view (sh : Shared δ τ) (number : Nat) : View δ τ where
  subscribed := number ∈ sh.readers
  reader := sh.filterReader number
  asked := sh.asked number
  arrived := sh.arrived number
  taken := sh.taken number
  results := sh.results number

/-- The queue holds these messages, and the mark of a closed reader behind them at most. -/
def Holds (reader : FilterReader δ) (items : List (PluginInStream δ)) : Prop :=
  reader.queue = items.map some ∨
    reader.closed = true ∧ reader.queue = items.map some ++ [none]

/-- The account of the responses to one invocation. -/
structure Ledger (invocations : Invocations δ τ) (number : Nat) (view : View δ τ)
    (pending : List (PluginInStream δ)) : Prop where
  /-- Its responses carry its ids. -/
  own : ∀ chunk ∈ view.arrived, invocations.filter chunk number = true
  /-- Its filter reader is open as long as it is subscribed. -/
  opened : view.subscribed → view.reader.closed = false
  /-- Every response to it is accounted for. -/
  account : ∃ items, Holds view.reader items ∧
    Accounted view.subscribed view.arrived view.taken items pending

/-- What is known of one invocation between two steps. -/
structure Tracked (invocations : Invocations δ τ) (number : Nat) (view : View δ τ)
    (pending : List (PluginInStream δ)) (pc : Pc δ) : Prop
    extends Ledger invocations number view pending where
  /-- It is subscribed only while it runs. -/
  live : view.subscribed → pc.live = true
  /-- Nothing concerns it before it begins. -/
  fresh : pc.outside = true → view.asked = false ∧ view.arrived = [] ∧ pending = []
  /-- It has yielded the results of the responses it took. -/
  results : invocations.results number view.taken = (view.results, pc.answer)
  /-- It ends after its reader was closed only when it has taken its whole queue. -/
  drained : pc = .finished .readerClosed → view.reader.closed = true ∧ view.reader.queue = []

section Results

variable {invocations : Invocations δ τ} {number : Nat}

/-- One more response after those that yielded results. -/
theorem results_append {taken : List (PluginInStream δ)} {values : List τ}
    (before : invocations.results number taken = (values, none)) (chunk : PluginInStream δ) :
    invocations.results number (taken ++ [chunk]) =
      match invocations.convert number chunk with
      | .exit exit => (values, some exit)
      | .result value => (values ++ [value], none) := by
  induction taken generalizing values with
  | nil =>
    obtain rfl : values = [] := (congrArg Prod.fst before).symm
    cases converted : invocations.convert number chunk <;> simp [Invocations.results, converted]
  | cons head rest ih =>
    simp only [List.cons_append, Invocations.results] at before ⊢
    cases converted : invocations.convert number head with
    | exit exit => simp [converted] at before
    | result value =>
      simp only [converted, Prod.mk.injEq] at before ⊢
      obtain ⟨rfl, goes⟩ := before
      rw [ih (Prod.ext rfl goes)]
      cases invocations.convert number chunk <;> rfl

/-- Responses behind the one that ends an invocation do not matter. -/
theorem results_ended {taken : List (PluginInStream δ)} {values : List τ} {exit : Exit}
    (ended : invocations.results number taken = (values, some exit))
    (more : List (PluginInStream δ)) :
    invocations.results number (taken ++ more) = (values, some exit) := by
  induction taken generalizing values with
  | nil => simp [Invocations.results] at ended
  | cons head rest ih =>
    simp only [List.cons_append, Invocations.results] at ended ⊢
    cases converted : invocations.convert number head with
    | exit exit => simpa [converted] using ended
    | result value =>
      simp only [converted, Prod.mk.injEq] at ended ⊢
      obtain ⟨rfl, last⟩ := ended
      rw [ih (Prod.ext rfl last)]
      exact ⟨rfl, rfl⟩

/-- A response ends an invocation by an answered exit only. -/
theorem convert_answered {chunk : PluginInStream δ} {exit : Exit}
    (converted : invocations.convert number chunk = .exit exit) : exit.answered = true := by
  unfold Invocations.convert at converted
  split at converted
  · cases converted
    rfl
  · split at converted
    · cases converted
      rfl
    · cases converted
      rfl
    · cases converted
      rfl
    · split at converted
      · cases converted
        rfl
      · contradiction

end Results

section Ledgers

variable {invocations : Invocations δ τ} {number : Nat} {view : View δ τ}
  {pending : List (PluginInStream δ)}

/-- An invocation subscribes to which nothing has arrived. -/
theorem Ledger.enter (ledger : Ledger invocations number view pending)
    (nothing : view.arrived = []) (free : pending = []) :
    Ledger invocations number { view with subscribed := True, reader := ⟨false, []⟩ }
      pending := by
  obtain ⟨items, -, accounted⟩ := ledger.account
  have untaken : view.taken = [] := by
    have front := accounted.taken_prefix
    rw [nothing] at front
    exact List.prefix_nil.mp front
  refine ⟨ledger.own, fun _ => rfl, [], Or.inl rfl, ?_⟩
  simp only [nothing, free, untaken]
  exact Accounted.empty True

/-- The subscription ends. -/
theorem Ledger.clear (ledger : Ledger invocations number view pending) :
    Ledger invocations number { view with subscribed := False } pending := by
  obtain ⟨items, holds, accounted⟩ := ledger.account
  exact ⟨ledger.own, nofun, items, holds, accounted.leave nofun⟩

/-- The filter reader is closed. -/
theorem Ledger.close (ledger : Ledger invocations number view pending) :
    Ledger invocations number { view with subscribed := False, reader := view.reader.close }
      pending := by
  obtain ⟨own, -, items, holds, accounted⟩ := ledger.clear
  refine ⟨own, nofun, items, ?_, accounted⟩
  unfold FilterReader.close
  split
  · exact holds
  · rename_i opened
    rcases holds with queue | ⟨closed, -⟩
    · exact Or.inr ⟨rfl, congrArg (· ++ [none]) queue⟩
    · exact absurd closed opened

/-- A response arrives while none is pending. -/
theorem Ledger.arrive (ledger : Ledger invocations number view []) {data : PluginInStream δ}
    (mine : invocations.filter data number = true)
    (matched : view.subscribed → pending = [data]) (unmatched : ¬ view.subscribed → pending = []) :
    Ledger invocations number { view with arrived := view.arrived ++ [data] } pending := by
  obtain ⟨items, holds, accounted⟩ := ledger.account
  refine ⟨?_, ledger.opened, items, holds, ?_⟩
  · intro chunk listed
    rcases List.mem_append.mp listed with earlier | last
    · exact ledger.own chunk earlier
    · obtain rfl := List.mem_singleton.mp last
      exact mine
  · by_cases listed : view.subscribed
    · rw [matched listed]
      exact accounted.arrive listed data
    · rw [unmatched listed]
      exact accounted.miss listed data

/-- The pending message is written to the filter reader. -/
theorem Ledger.write {data : PluginInStream δ}
    (ledger : Ledger invocations number view [data]) :
    Ledger invocations number { view with reader := view.reader.write data } [] := by
  obtain ⟨items, holds, accounted⟩ := ledger.account
  unfold FilterReader.write
  split
  · rename_i closed
    have ended : ¬ view.subscribed := by
      intro listed
      rw [ledger.opened listed] at closed
      contradiction
    exact ⟨ledger.own, ledger.opened, items, holds, accounted.drop ended⟩
  · rename_i opened
    refine ⟨ledger.own, ledger.opened, items ++ [data], ?_, accounted.deliver⟩
    rcases holds with queue | ⟨closed, -⟩
    · exact Or.inl (by simp [queue])
    · exact absurd closed opened

/-- The invocation takes the first message of its queue. -/
theorem Ledger.take (ledger : Ledger invocations number view pending)
    {chunk : PluginInStream δ} {queue : List (Option (PluginInStream δ))}
    (head : view.reader.queue = some chunk :: queue) :
    Ledger invocations number
      { view with
        reader := { view.reader with queue := queue }, taken := view.taken ++ [chunk] }
      pending := by
  obtain ⟨items, holds, accounted⟩ := ledger.account
  refine ⟨ledger.own, ledger.opened, ?_⟩
  cases items with
  | nil => simp [Holds, head] at holds
  | cons first items =>
    simp only [Holds, head, List.map_cons, List.cons_append, List.cons.injEq,
      Option.some.injEq] at holds
    obtain rfl : chunk = first := by
      rcases holds with ⟨same, -⟩ | ⟨-, same, -⟩ <;> exact same
    refine ⟨items, ?_, accounted.take⟩
    rcases holds with ⟨-, rest⟩ | ⟨closed, -, rest⟩
    · exact Or.inl rest
    · exact Or.inr ⟨closed, rest⟩

/-- The invocation takes the mark of a closed reader, behind which there is nothing. -/
theorem Ledger.takeMark (ledger : Ledger invocations number view pending)
    {queue : List (Option (PluginInStream δ))} (head : view.reader.queue = none :: queue) :
    view.reader.closed = true ∧ queue = [] ∧
      Ledger invocations number { view with reader := { view.reader with queue := queue } }
        pending := by
  obtain ⟨items, holds, accounted⟩ := ledger.account
  cases items with
  | nil =>
    rcases holds with nothing | ⟨closed, mark⟩
    · rw [head] at nothing
      contradiction
    · rw [head] at mark
      have last : queue = [] := (List.cons.inj mark).2
      exact ⟨closed, last, ledger.own, ledger.opened, [], Or.inl last, accounted⟩
  | cons first items => simp [Holds, head] at holds

/-- The invocation leaves, and is not subscribed any more. -/
theorem Ledger.left (ledger : Ledger invocations number view pending) {exit : Exit}
    (results : invocations.results number view.taken =
      (view.results, (Pc.finished exit : Pc δ).answer))
    (drained : exit = .readerClosed → view.reader.closed = true ∧ view.reader.queue = []) :
    Tracked invocations number
      { view with subscribed := False, reader := view.reader.close } pending (.finished exit) where
  toLedger := ledger.close
  live := nofun
  fresh := nofun
  results := results
  drained := by
    rintro ⟨⟩
    have empty := drained rfl
    rwa [← FilterReader.close_of_closed empty.1] at empty

/-- Closing a reader leaves a drained one as it is. -/
theorem Tracked.closed {pc : Pc δ} (tracked : Tracked invocations number view pending pc) :
    Tracked invocations number { view with subscribed := False, reader := view.reader.close }
      pending pc where
  toLedger := tracked.toLedger.close
  live := nofun
  fresh := tracked.fresh
  results := tracked.results
  drained := by
    intro ends
    have empty := tracked.drained ends
    rwa [← FilterReader.close_of_closed empty.1] at empty

end Ledgers

section Views

variable {sh : Shared δ τ} {number other : Nat}

/-- A filter reader that is closed leaves the list. -/
theorem view_closeReader (nodup : sh.readers.Nodup)
    (opened : number ∈ sh.readers → (sh.filterReader number).closed = false) :
    view (sh.closeReader number) number =
      { view sh number with
        subscribed := False, reader := (sh.filterReader number).close } := by
  unfold Shared.closeReader RequestReader.closeReader
  split
  · rename_i closed
    have absent : number ∉ sh.readers := by
      intro listed
      rw [opened listed] at closed
      contradiction
    simp [view, FilterReader.close, closed, absent]
  · simp [view, nodup.not_mem_erase]

/-- Closing one filter reader does not concern the others. -/
theorem view_closeReader_of_ne (distinct : number ≠ other) :
    view (sh.closeReader other) number = view sh number := by
  unfold Shared.closeReader RequestReader.closeReader
  split
  · rfl
  · simp [view, distinct, List.mem_erase_of_ne distinct]

/-- Closing a filter reader leaves no duplicates. -/
theorem nodup_closeReader (nodup : sh.readers.Nodup) :
    (sh.closeReader number).readers.Nodup := by
  unfold Shared.closeReader RequestReader.closeReader
  split
  · exact nodup
  · exact nodup.erase number

end Views

section Steps

variable {invocations : Invocations δ τ} {thread : Nat} {sh : Shared δ τ}
  {pending : Nat → List (PluginInStream δ)} {pc : Pc δ} {result : Shared δ τ × Pc δ}

/-- Where a step of a greenlet other than the event loop has to lead. -/
structure Advances (invocations : Invocations δ τ) (thread : Nat) (sh : Shared δ τ)
    (pending : Nat → List (PluginInStream δ)) (result : Shared δ τ × Pc δ) : Prop where
  /-- Nobody is in the list twice. -/
  nodup : result.1.readers.Nodup
  /-- The invocation of the greenlet stays tracked. -/
  own : Tracked invocations thread (view result.1 thread) (pending thread) result.2
  /-- The other invocations stay tracked. -/
  others : ∀ number ≠ thread, ∀ pending pc,
    Tracked invocations number (view sh number) pending pc →
      Tracked invocations number (view result.1 number) pending pc
  /-- The greenlet writes no message. -/
  silent : ∀ number, result.2.pending number = []
  /-- The greenlet is not the event loop. -/
  apart : result.2.dispatches = false

/-- A greenlet that has not begun an invocation is not subscribed. -/
theorem Tracked.absent {number : Nat} {view : View δ τ} {pending : List (PluginInStream δ)}
    (tracked : Tracked invocations number view pending pc) (outside : pc.outside = true) :
    ¬ view.subscribed := by
  intro listed
  have running := tracked.live listed
  cases pc <;> simp [Pc.outside, Pc.live] at outside running

/-- A greenlet that has not begun an invocation goes somewhere else. -/
theorem Tracked.elsewhere {number : Nat} {view : View δ τ} {pending : List (PluginInStream δ)}
    {before after : Pc δ} (tracked : Tracked invocations number view pending before)
    (left : before.outside = true) (arrives : after.outside = true) :
    Tracked invocations number view pending after where
  toLedger := tracked.toLedger
  live := fun listed => absurd listed (tracked.absent left)
  fresh := fun _ => tracked.fresh left
  results := by
    rw [tracked.results]
    cases before <;> cases after <;> simp [Pc.outside, Pc.answer] at left arrives ⊢
  drained := by
    rintro rfl
    contradiction

/-- The invocation leaves. -/
theorem leave_advances (nodup : sh.readers.Nodup)
    (ledger : Ledger invocations thread (view sh thread) (pending thread)) {exit : Exit}
    (results : invocations.results thread (sh.taken thread) =
      (sh.results thread, (Pc.finished exit : Pc δ).answer))
    (drained : exit = .readerClosed →
      (sh.filterReader thread).closed = true ∧ (sh.filterReader thread).queue = []) :
    Advances invocations thread sh pending (leave sh thread exit) where
  nodup := nodup_closeReader nodup
  own := by
    simp only [leave]
    rw [view_closeReader nodup ledger.opened]
    exact ledger.left results drained
  others := by
    intro number distinct pending pc tracked
    simp only [leave]
    rw [view_closeReader_of_ne distinct]
    exact tracked
  silent := fun _ => rfl
  apart := rfl

/-- A step that changes the blocking point of the greenlet only. -/
theorem advances_same (nodup : sh.readers.Nodup)
    (tracked : Tracked invocations thread (view sh thread) (pending thread) pc)
    (silent : ∀ number, pc.pending number = []) (apart : pc.dispatches = false) :
    Advances invocations thread sh pending (sh, pc) where
  nodup := nodup
  own := tracked
  others := fun _ _ _ _ tracked => tracked
  silent := silent
  apart := apart

/-- `FilterReader.read` goes on, or ends. -/
theorem readNext_advances (nodup : sh.readers.Nodup)
    (ledger : Ledger invocations thread (view sh thread) (pending thread))
    (results : invocations.results thread (sh.taken thread) = (sh.results thread, none))
    (empty : Nat) : Advances invocations thread sh pending (readNext sh thread empty) := by
  unfold readNext
  split
  · exact advances_same nodup ⟨ledger, fun _ => rfl, nofun, results, nofun⟩
      (fun _ => rfl) rfl
  · rename_i ends
    refine leave_advances nodup ledger results fun _ => ?_
    simpa [FilterReader.goesOn] using ends

/-- The invocation subscribes. -/
theorem subscribe_advances (nodup : sh.readers.Nodup)
    (tracked : Tracked invocations thread (view sh thread) (pending thread) .idle) :
    Advances invocations thread sh pending (subscribe sh thread) := by
  obtain ⟨-, nothing, free⟩ := tracked.fresh rfl
  have absent : thread ∉ sh.readers := tracked.absent rfl
  refine ⟨?_, ⟨?_, ?_, nofun, ?_, nofun⟩, ?_, fun _ => rfl, rfl⟩
  · simp only [subscribe, RequestReader.read]
    refine List.nodup_append.mpr ⟨nodup, by simp, ?_⟩
    rintro number listed _ last rfl
    exact absent (List.mem_singleton.mp last ▸ listed)
  · have entered := tracked.toLedger.enter nothing free
    simpa [view, subscribe, RequestReader.read] using entered
  · exact fun _ => rfl
  · exact tracked.results
  · intro number distinct pending pc others
    simpa [view, subscribe, RequestReader.read, distinct] using others

/-- The invocation asks. -/
theorem ask_advances (nodup : sh.readers.Nodup)
    (tracked : Tracked invocations thread (view sh thread) (pending thread) .subscribed) :
    Advances invocations thread sh pending (ask sh thread) := by
  refine ⟨nodup, ⟨?_, fun _ => rfl, nofun, tracked.results, nofun⟩, ?_, fun _ => rfl, rfl⟩
  · exact ⟨tracked.own, tracked.opened, tracked.account⟩
  · intro number distinct pending pc others
    simpa [view, ask, distinct] using others

/-- A step after one that concerns the greenlet alone. -/
theorem Advances.after {earlier : Shared δ τ}
    (advances : Advances invocations thread sh pending result)
    (same : ∀ number ≠ thread, view sh number = view earlier number) :
    Advances invocations thread earlier pending result :=
  { advances with
    others := by
      intro number distinct pending pc tracked
      rw [← same number distinct] at tracked
      exact advances.others number distinct pending pc tracked }

/-- The invocation takes an entry of its queue. -/
theorem take_advances (nodup : sh.readers.Nodup) {empty : Nat}
    (tracked : Tracked invocations thread (view sh thread) (pending thread) (.waiting empty))
    (taken : take invocations sh thread = some result) :
    Advances invocations thread sh pending result := by
  have ledger := tracked.toLedger
  have before : invocations.results thread (sh.taken thread) = (sh.results thread, none) :=
    tracked.results
  unfold take at taken
  split at taken
  · contradiction
  · rename_i queue head
    obtain rfl := Option.some.inj taken
    obtain ⟨closed, nothing, marked⟩ := ledger.takeMark head
    apply Advances.after
    · apply leave_advances
      · exact nodup
      · simpa [view, RequestReader.setQueue] using marked
      · exact before
      · intro _
        simpa [view, RequestReader.setQueue, nothing] using closed
    · intro number distinct
      simp [view, RequestReader.setQueue, distinct]
  · rename_i chunk queue head
    have moved := ledger.take head
    have results := results_append before chunk
    dsimp only at taken
    cases converted : invocations.convert thread chunk with
    | exit exit =>
      rw [converted] at taken results
      obtain rfl := Option.some.inj taken
      apply Advances.after
      · apply leave_advances
        · exact nodup
        · simpa [view, RequestReader.setQueue] using moved
        · simpa [Pc.answer, convert_answered converted] using results
        · rintro rfl
          have answered := convert_answered converted
          contradiction
      · intro number distinct
        simp [view, RequestReader.setQueue, distinct]
    | result value =>
      rw [converted] at taken results
      obtain rfl := Option.some.inj taken
      refine ⟨nodup, ⟨?_, fun _ => rfl, nofun, ?_, nofun⟩, ?_, fun _ => rfl, rfl⟩
      · have kept : Ledger invocations thread
            { view sh thread with
              reader := { (view sh thread).reader with queue := queue }
              taken := (view sh thread).taken ++ [chunk]
              results := sh.results thread ++ [value] } (pending thread) :=
          ⟨moved.own, moved.opened, moved.account⟩
        simpa [view, RequestReader.setQueue] using kept
      · simpa [view, Pc.answer] using results
      · intro number distinct pending pc others
        simpa [view, RequestReader.setQueue, distinct] using others

/-- `queue.get` found nothing for a whole round. -/
theorem readEmpty_advances (nodup : sh.readers.Nodup) {empty : Nat}
    (tracked : Tracked invocations thread (view sh thread) (pending thread) (.waiting empty))
    (timed : readEmpty invocations sh thread empty = some result) :
    Advances invocations thread sh pending result := by
  unfold readEmpty at timed
  split at timed
  · split at timed
    · obtain rfl := Option.some.inj timed
      exact leave_advances nodup tracked.toLedger tracked.results nofun
    · obtain rfl := Option.some.inj timed
      exact readNext_advances nodup tracked.toLedger tracked.results _
  · contradiction

/-- `RequestReader.close` clears the list. -/
theorem clear_advances
    (tracked : Tracked invocations thread (view sh thread) (pending thread) pc)
    (outside : pc.outside = true) (readers : List Nat) :
    Advances invocations thread sh pending
      ({ sh with toRequestReader := sh.toRequestReader.clear }, .closing readers) := by
  have cleared : ∀ number, view { sh with toRequestReader := sh.toRequestReader.clear } number =
      { view sh number with subscribed := False } := by
    intro number
    simp [view, RequestReader.clear]
  have tracks : ∀ number pending pc, Tracked invocations number (view sh number) pending pc →
      Tracked invocations number
        (view { sh with toRequestReader := sh.toRequestReader.clear } number) pending pc := by
    intro number pending pc tracked
    rw [cleared]
    exact ⟨tracked.toLedger.clear, nofun, tracked.fresh, tracked.results, tracked.drained⟩
  refine ⟨List.nodup_nil, ?_, fun number _ => tracks number, fun _ => rfl, rfl⟩
  exact (tracks thread _ _ tracked).elsewhere outside rfl

/-- `RequestReader.close` closes the next reader of its copy. -/
theorem closeNext_advances (nodup : sh.readers.Nodup) {readers : List Nat}
    (tracked : Tracked invocations thread (view sh thread) (pending thread) (.closing readers)) :
    Advances invocations thread sh pending (closeNext sh readers) := by
  cases readers with
  | nil =>
    exact advances_same nodup (tracked.elsewhere rfl rfl) (fun _ => rfl) rfl
  | cons target readers =>
    have tracks : ∀ number pending pc, Tracked invocations number (view sh number) pending pc →
        Tracked invocations number
          (view (sh.closeReader target) number) pending pc := by
      intro number pending pc other
      by_cases same : number = target
      · rw [← same, view_closeReader nodup other.opened]
        exact other.closed
      · rw [view_closeReader_of_ne same]
        exact other
    refine ⟨nodup_closeReader nodup, ?_, fun number _ => tracks number, fun _ => rfl, rfl⟩
    exact (tracks thread _ _ tracked).elsewhere rfl rfl

/-- A step of a greenlet other than the event loop. -/
theorem step_advances {event : Event δ} (nodup : sh.readers.Nodup)
    (tracked : Tracked invocations thread (view sh thread) (pending thread) pc)
    (apart : pc.dispatches = false)
    (stepped : step invocations thread event sh pc = some result) :
    Advances invocations thread sh pending result := by
  have ledger := tracked.toLedger
  cases pc with
  | idle =>
    cases event with
    | invoke =>
      obtain rfl := Option.some.inj stepped
      exact subscribe_advances nodup tracked
    | close =>
      obtain rfl := Option.some.inj stepped
      exact clear_advances tracked rfl sh.readers
    | _ => contradiction
  | subscribed =>
    cases event with
    | resumed =>
      obtain rfl := Option.some.inj stepped
      exact ask_advances nodup tracked
    | raised =>
      obtain rfl := Option.some.inj stepped
      exact leave_advances nodup ledger tracked.results nofun
    | _ => contradiction
  | sending =>
    cases event with
    | resumed =>
      obtain rfl := Option.some.inj stepped
      exact readNext_advances nodup ledger tracked.results 0
    | raised =>
      obtain rfl := Option.some.inj stepped
      exact leave_advances nodup ledger tracked.results nofun
    | _ => contradiction
  | waiting empty =>
    cases event with
    | resumed => exact take_advances nodup tracked stepped
    | timeout => exact readEmpty_advances nodup tracked stepped
    | raised =>
      obtain rfl := Option.some.inj stepped
      exact leave_advances nodup ledger tracked.results nofun
    | _ => contradiction
  | yielded =>
    cases event with
    | resumed =>
      obtain rfl := Option.some.inj stepped
      exact readNext_advances nodup ledger tracked.results 0
    | raised =>
      obtain rfl := Option.some.inj stepped
      exact leave_advances nodup ledger tracked.results nofun
    | _ => contradiction
  | closing readers =>
    cases event with
    | resumed =>
      obtain rfl := Option.some.inj stepped
      exact closeNext_advances nodup tracked
    | _ => contradiction
  | finished exit => cases event <;> contradiction
  | listening => contradiction
  | delivering data matched => contradiction

end Steps

section Runs

variable {invocations : Invocations δ τ}

/-- What holds of all invocations between two steps. -/
structure Isolated (invocations : Invocations δ τ) (pool : Pool (Shared δ τ) (Pc δ)) : Prop where
  /-- Nobody is in the list twice. -/
  nodup : pool.shared.readers.Nodup
  /-- Only greenlet 0 runs the event loop. -/
  dispatcher : ∀ thread, (pool.control thread).dispatches = true → thread = 0
  /-- A message is written to nobody twice. -/
  once : ∀ data matched, pool.control 0 = .delivering data matched → matched.Nodup
  /-- Every invocation is tracked. -/
  tracked : ∀ number, Tracked invocations number (view pool.shared number)
    ((pool.control 0).pending number) (pool.control number)

/-- A greenlet apart from the event loop is not about to write a message. -/
theorem pending_apart {pc : Pc δ} (apart : pc.dispatches = false) (number : Nat) :
    pc.pending number = [] := by
  cases pc with
  | delivering data matched => simp [Pc.dispatches] at apart
  | _ => rfl

/-- A step of a greenlet that is not about to write a message keeps the invocations isolated. -/
theorem Isolated.advance {pool : Pool (Shared δ τ) (Pc δ)} {thread : Nat} {sh : Shared δ τ}
    {pc : Pc δ} (isolated : Isolated invocations pool)
    (silent : ∀ number, (pool.control thread).pending number = [])
    (advances : Advances invocations thread pool.shared
      (fun number => (pool.control 0).pending number) (sh, pc)) :
    Isolated invocations ⟨sh, Function.update pool.control thread pc⟩ := by
  have pending : ∀ number, (Function.update pool.control thread pc 0).pending number =
      (pool.control 0).pending number := by
    intro number
    by_cases zero : thread = 0
    · subst zero
      rw [Function.update_self, advances.silent, silent]
    · rw [Function.update_of_ne (Ne.symm zero)]
  refine ⟨advances.nodup, ?_, ?_, ?_⟩
  · intro other
    by_cases same : other = thread
    · subst same
      simp [advances.apart]
    · simpa [same] using isolated.dispatcher other
  · intro data matched
    by_cases zero : thread = 0
    · subst zero
      intro delivers
      simp only [Function.update_self] at delivers
      have apart := advances.apart
      rw [delivers] at apart
      contradiction
    · simpa [Ne.symm zero] using isolated.once data matched
  · intro number
    simp only [pending]
    by_cases same : number = thread
    · subst same
      rw [Function.update_self]
      exact advances.own
    · rw [Function.update_of_ne same]
      exact advances.others number same _ _ (isolated.tracked number)

/-- The event loop is outside of any invocation. -/
theorem outside_of_dispatches {pc : Pc δ} (dispatches : pc.dispatches = true) :
    pc.outside = true := by
  cases pc with
  | listening => rfl
  | delivering data matched => rfl
  | _ => contradiction

/-- A step of the event loop keeps the invocations isolated. -/
theorem Isolated.dispatch {pool : Pool (Shared δ τ) (Pc δ)} {sh : Shared δ τ} {pc : Pc δ}
    (isolated : Isolated invocations pool) (before : (pool.control 0).dispatches = true)
    (after : pc.dispatches = true) (nodup : sh.readers.Nodup)
    (once : ∀ data matched, pc = .delivering data matched → matched.Nodup)
    (ledgers : ∀ number, Ledger invocations number (view sh number) (pc.pending number))
    (fresh : ∀ number, (pool.control number).outside = true →
      (view sh number).asked = false ∧ (view sh number).arrived = [] ∧ pc.pending number = [])
    (same : ∀ number, (view sh number).taken = (view pool.shared number).taken ∧
      (view sh number).results = (view pool.shared number).results ∧
      ((view sh number).subscribed ↔ (view pool.shared number).subscribed))
    (closed : ∀ number, (view pool.shared number).reader.closed = true →
      (view sh number).reader = (view pool.shared number).reader) :
    Isolated invocations ⟨sh, Function.update pool.control 0 pc⟩ := by
  refine ⟨nodup, ?_, ?_, ?_⟩
  · intro other
    by_cases zero : other = 0
    · exact fun _ => zero
    · simpa [zero] using isolated.dispatcher other
  · intro data matched
    simpa using once data matched
  · intro number
    obtain ⟨taken, results, subscribed⟩ := same number
    have tracked := isolated.tracked number
    -- The other invocations stay where they are, and greenlet 0 has none.
    have tracks : Tracked invocations number (view sh number) (pc.pending number)
        (pool.control number) :=
      { toLedger := ledgers number
        live := fun listed => tracked.live (subscribed.mp listed)
        fresh := fresh number
        results := by
          rw [taken, results]
          exact tracked.results
        drained := by
          intro ends
          have drained := tracked.drained ends
          rwa [← closed number drained.1] at drained }
    simp only [Function.update_self]
    by_cases zero : number = 0
    · subst zero
      rw [Function.update_self]
      exact tracks.elsewhere (outside_of_dispatches before) (outside_of_dispatches after)
    · rwa [Function.update_of_ne zero]

/-- What is known of an invocation when a message has arrived and its readers are matched. -/
theorem Ledger.processLine {sh : Shared δ τ} {number : Nat}
    (ledger : Ledger invocations number (view sh number) []) (data : PluginInStream δ) :
    Ledger invocations number (view (processLine invocations sh data).1 number)
      ((processLine invocations sh data).2.pending number) := by
  by_cases counts : (sh.asked number || decide (number ∈ sh.readers)) &&
      invocations.filter data number
  · obtain ⟨-, mine⟩ := Bool.and_eq_true_iff.mp counts
    have matched : number ∈ sh.readers →
        (Runtime.processLine invocations sh data).2.pending number = [data] :=
      fun listed => if_pos (List.mem_filter.mpr ⟨listed, mine⟩)
    have unmatched : number ∉ sh.readers →
        (Runtime.processLine invocations sh data).2.pending number = [] :=
      fun absent => if_neg fun both => absent (List.mem_filter.mp both).1
    have arrived := ledger.arrive mine matched unmatched
    simpa only [view, Runtime.processLine, counts, if_true] using arrived
  · have unmatched : (Runtime.processLine invocations sh data).2.pending number = [] := by
      refine if_neg fun both => counts ?_
      obtain ⟨listed, mine⟩ := List.mem_filter.mp both
      simp [listed, mine]
    rw [unmatched]
    simpa only [view, Runtime.processLine, counts, if_false, Bool.false_eq_true] using ledger

/-- The event loop takes a message to the readers whose filter accepts it. -/
theorem Isolated.processLine {pool : Pool (Shared δ τ) (Pc δ)}
    (isolated : Isolated invocations pool) (listens : pool.control 0 = .listening)
    (data : PluginInStream δ) :
    Isolated invocations
      ⟨(processLine invocations pool.shared data).1,
        Function.update pool.control 0 (processLine invocations pool.shared data).2⟩ := by
  apply isolated.dispatch
  · rw [listens]
    rfl
  · rfl
  · exact isolated.nodup
  · rintro _ _ ⟨⟩
    exact isolated.nodup.filter _
  · intro number
    have ledger := (isolated.tracked number).toLedger
    rw [listens] at ledger
    exact ledger.processLine data
  · intro number outside
    have tracked := isolated.tracked number
    obtain ⟨asked, nothing, -⟩ := tracked.fresh outside
    have absent : number ∉ pool.shared.readers := tracked.absent outside
    refine ⟨asked, ?_, if_neg fun both => absent (List.mem_filter.mp both).1⟩
    have silent : pool.shared.asked number = false := asked
    simpa [view, Runtime.processLine, silent, absent] using nothing
  · intro number
    exact ⟨rfl, rfl, Iff.rfl⟩
  · exact fun _ _ => rfl

/-- The message is written to the next matched reader, and stays pending for the others. -/
theorem Ledger.deliver {sh : Shared δ τ} {number head : Nat} {rest : List Nat}
    {data : PluginInStream δ} (absent : head ∉ rest)
    (ledger : Ledger invocations number (view sh number)
      ((Pc.delivering data (head :: rest)).pending number)) :
    Ledger invocations number (view (deliver sh data (head :: rest)).1 number)
      ((deliver sh data (head :: rest)).2.pending number) := by
  by_cases same : number = head
  · subst same
    have pending : (Pc.delivering data (number :: rest)).pending number = [data] :=
      if_pos List.mem_cons_self
    rw [pending] at ledger
    have written := ledger.write
    simpa [view, Runtime.deliver, RequestReader.write, Pc.pending, absent] using written
  · simpa [view, Runtime.deliver, RequestReader.write, Pc.pending, same] using ledger

/-- The event loop writes the message to the next reader. -/
theorem Isolated.deliver {pool : Pool (Shared δ τ) (Pc δ)} {data : PluginInStream δ}
    {matched : List Nat} (isolated : Isolated invocations pool)
    (delivers : pool.control 0 = .delivering data matched) :
    Isolated invocations
      ⟨(deliver pool.shared data matched).1,
        Function.update pool.control 0 (deliver pool.shared data matched).2⟩ := by
  have before : (pool.control 0).dispatches = true := by
    rw [delivers]
    rfl
  have ledger : ∀ number, Ledger invocations number (view pool.shared number)
      ((Pc.delivering data matched).pending number) := by
    intro number
    rw [← delivers]
    exact (isolated.tracked number).toLedger
  have fresh : ∀ number, (pool.control number).outside = true →
      (view pool.shared number).asked = false ∧ (view pool.shared number).arrived = [] ∧
        number ∉ matched := by
    intro number outside
    obtain ⟨asked, nothing, free⟩ := (isolated.tracked number).fresh outside
    rw [delivers] at free
    refine ⟨asked, nothing, fun listed => ?_⟩
    rw [Pc.pending, if_pos listed] at free
    contradiction
  have once := isolated.once data matched delivers
  cases matched with
  | nil =>
    apply isolated.dispatch before
    · rfl
    · exact isolated.nodup
    · rintro _ _ ⟨⟩
    · exact ledger
    · intro number outside
      exact ⟨(fresh number outside).1, (fresh number outside).2.1, rfl⟩
    · intro number
      exact ⟨rfl, rfl, Iff.rfl⟩
    · exact fun _ _ => rfl
  | cons head rest =>
    obtain ⟨absent, once⟩ := List.nodup_cons.mp once
    apply isolated.dispatch before
    · rfl
    · exact isolated.nodup
    · rintro _ _ ⟨⟩
      exact once
    · exact fun number => (ledger number).deliver absent
    · intro number outside
      obtain ⟨asked, nothing, unlisted⟩ := fresh number outside
      exact ⟨asked, nothing, if_neg fun listed => unlisted (List.mem_cons_of_mem head listed)⟩
    · intro number
      exact ⟨rfl, rfl, Iff.rfl⟩
    · intro number closed
      by_cases same : number = head
      · subst same
        simpa [view, Runtime.deliver, RequestReader.write] using
          FilterReader.write_of_closed closed data
      · simp [view, Runtime.deliver, RequestReader.write, same]

/-- A step of any greenlet keeps the invocations isolated. -/
theorem fire_isolated {pool next : Pool (Shared δ τ) (Pc δ)} {thread : Nat} {event : Event δ}
    (isolated : Isolated invocations pool)
    (fired : (machine invocations).fire pool thread event = some next) :
    Isolated invocations next := by
  obtain ⟨sh, pc, stepped, rfl⟩ := Machine.fire_eq_some fired
  cases apart : (pool.control thread).dispatches with
  | false =>
    exact isolated.advance (pending_apart apart)
      (step_advances isolated.nodup (isolated.tracked thread) apart stepped)
  | true =>
    obtain rfl := isolated.dispatcher thread apart
    cases point : pool.control 0 with
    | listening =>
      simp only [machine, point] at stepped
      cases event with
      | arrive data =>
        have same : processLine invocations pool.shared data = (sh, pc) := Option.some.inj stepped
        have taken := isolated.processLine point data
        rwa [same] at taken
      | close =>
        have tracked := isolated.tracked 0
        rw [point] at tracked
        have cleared : Advances invocations 0 pool.shared
            (fun number => (pool.control 0).pending number) (sh, pc) := by
          rw [← Option.some.inj stepped, point]
          exact clear_advances tracked rfl pool.shared.readers
        exact isolated.advance (fun _ => by rw [point]; rfl) cleared
      | _ => contradiction
    | delivering data matched =>
      simp only [machine, point] at stepped
      cases event with
      | resumed =>
        have same : deliver pool.shared data matched = (sh, pc) := Option.some.inj stepped
        have written := isolated.deliver point
        rwa [same] at written
      | _ => contradiction
    | _ => simp [point, Pc.dispatches] at apart

/-- Nothing concerns an invocation before the first step. -/
theorem initial_isolated (invocations : Invocations δ τ) :
    Isolated invocations (initial : Pool (Shared δ τ) (Pc δ)) := by
  refine ⟨List.nodup_nil, ?_, nofun, ?_⟩
  · intro thread
    by_cases zero : thread = 0
    · exact fun _ => zero
    · simp [initial, zero, Pc.dispatches]
  · intro number
    refine ⟨⟨nofun, nofun, [], Or.inl rfl, Accounted.empty _⟩, nofun, fun _ => ⟨rfl, rfl, rfl⟩,
      ?_, ?_⟩
    · by_cases zero : number = 0 <;> simp [initial, zero, Pc.answer, view, Invocations.results]
    · by_cases zero : number = 0 <;> simp [initial, zero]

/-- The invocations are isolated in every state that a run reaches. -/
theorem run_isolated (schedule : List (Nat × Event δ)) (last : Pool (Shared δ τ) (Pc δ))
    (ran : (machine invocations).run initial schedule = some last) : Isolated invocations last :=
  Machine.run_preserves_all (fun _ _ _ _ isolated fired => fire_isolated isolated fired) initial
    schedule last (initial_isolated invocations) ran

/-- A response to the invocation. -/
def Invocations.Own (invocations : Invocations δ τ) (number : Nat) (data : PluginInStream δ) :
    Prop :=
  data.sessionId = invocations.sessionId number ∧ data.event = .backwardInvocationResponse ∧
    invocations.backwardsRequestId data.data = some (invocations.requestId number)

instance (invocations : Invocations δ τ) (number : Nat) (data : PluginInStream δ) :
    Decidable (invocations.Own number data) :=
  inferInstanceAs (Decidable (_ ∧ _ ∧ _))

/-- The filter accepts the responses to the invocation. -/
theorem filter_iff (data : PluginInStream δ) (number : Nat) :
    invocations.filter data number = true ↔ invocations.Own number data := by
  simp [Invocations.filter, Invocations.Own, and_assoc]

/-- What the events of a schedule show of an invocation. -/
structure Heard (δ : Type) where
  /-- It has begun. -/
  invoked : Bool
  /-- It has begun to send its request. -/
  asked : Bool
  /-- The responses to it that arrived. -/
  all : List (PluginInStream δ)
  /-- Those of them that arrived since it has begun to send its request. -/
  responses : List (PluginInStream δ)

/-- One event is noted down. -/
def hear (invocations : Invocations δ τ) (number : Nat) (heard : Heard δ) :
    Nat × Event δ → Heard δ
  | (thread, .invoke) => if thread = number then { heard with invoked := true } else heard
  | (thread, .resumed) =>
    if thread = number ∧ heard.invoked = true then { heard with asked := true } else heard
  | (_, .arrive data) =>
    if invocations.Own number data then
      { heard with
        all := heard.all ++ [data]
        responses := if heard.asked then heard.responses ++ [data] else heard.responses }
    else heard
  | _ => heard

/-- The invocation has begun to send its request, and has not ended. -/
def Pc.sent : Pc δ → Bool
  | .sending | .waiting _ | .yielded => true
  | _ => false

/-- What a step does to what was asked and what has arrived, by its event. -/
inductive Hears (invocations : Invocations δ τ) (thread : Nat) (event : Event δ)
    (sh : Shared δ τ) (pc : Pc δ) (after : Shared δ τ) (pc' : Pc δ) : Prop where
  /-- An invocation begins. -/
  | invoke (invokes : event = .invoke) (before : pc.outside = true) (begins : pc' = .subscribed)
    (asked : after.asked = sh.asked) (arrived : after.arrived = sh.arrived)
  /-- It begins to send its request. -/
  | ask (resumes : event = .resumed) (before : pc = .subscribed) (sends : pc' = .sending)
    (asked : after.asked = Function.update sh.asked thread true)
    (arrived : after.arrived = sh.arrived)
  /-- A message arrives. -/
  | arrive (data : PluginInStream δ) (arrives : event = .arrive data)
    (before : pc.outside = true) (stays : pc'.outside = true) (asked : after.asked = sh.asked)
    (arrived : after.arrived = (processLine invocations sh data).1.arrived)
  /-- Anything else. -/
  | other (still : event ≠ .invoke) (quiet : ∀ data, event ≠ .arrive data)
    (goes : event = .resumed → pc.outside = true ∨ pc.sent = true)
    (place : pc'.outside = pc.outside) (sent : pc'.sent = true → pc.sent = true)
    (asked : after.asked = sh.asked) (arrived : after.arrived = sh.arrived)

/-- A step in terms of the result of the step function. -/
theorem Hears.of_some {thread : Nat} {event : Event δ} {sh : Shared δ τ} {pc : Pc δ}
    {found result : Shared δ τ × Pc δ} (stepped : some found = some result)
    (hears : Hears invocations thread event sh pc found.1 found.2) :
    Hears invocations thread event sh pc result.1 result.2 := by
  rw [← Option.some.inj stepped]
  exact hears

/-- A greenlet steps as the relation says. -/
theorem Hears.of_step {thread : Nat} {event : Event δ} {sh : Shared δ τ} {pc : Pc δ}
    {result : Shared δ τ × Pc δ}
    (stepped : step invocations thread event sh pc = some result) :
    Hears invocations thread event sh pc result.1 result.2 := by
  have read (empty : Nat) : (readNext sh thread empty).1.asked = sh.asked ∧
      (readNext sh thread empty).1.arrived = sh.arrived ∧
      (readNext sh thread empty).2.outside = false := by
    rw [readNext]
    split <;> exact ⟨rfl, rfl, rfl⟩
  unfold step at stepped
  split at stepped
  · exact .of_some stepped (.invoke rfl rfl rfl rfl rfl)
  · exact .of_some stepped (.other nofun nofun nofun rfl nofun rfl rfl)
  · exact .of_some stepped (.ask rfl rfl rfl rfl rfl)
  · exact .of_some stepped (.other nofun nofun nofun rfl nofun rfl rfl)
  · obtain ⟨asked, arrived, inside⟩ := read 0
    exact .of_some stepped
      (.other nofun nofun (fun _ => Or.inr rfl) inside (fun _ => rfl) asked arrived)
  · exact .of_some stepped (.other nofun nofun nofun rfl nofun rfl rfl)
  · rw [take] at stepped
    split at stepped
    · exact absurd stepped nofun
    · exact .of_some stepped (.other nofun nofun (fun _ => Or.inr rfl) rfl nofun rfl rfl)
    · split at stepped
      · exact .of_some stepped (.other nofun nofun (fun _ => Or.inr rfl) rfl nofun rfl rfl)
      · exact .of_some stepped (.other nofun nofun (fun _ => Or.inr rfl) rfl (fun _ => rfl) rfl rfl)
  · rename_i empty
    rw [readEmpty] at stepped
    split at stepped
    · split at stepped
      · exact .of_some stepped (.other nofun nofun nofun rfl nofun rfl rfl)
      · obtain ⟨asked, arrived, inside⟩ := read (empty + 1)
        exact .of_some stepped (.other nofun nofun nofun inside (fun _ => rfl) asked arrived)
    · exact absurd stepped nofun
  · exact .of_some stepped (.other nofun nofun nofun rfl nofun rfl rfl)
  · obtain ⟨asked, arrived, inside⟩ := read 0
    exact .of_some stepped
      (.other nofun nofun (fun _ => Or.inr rfl) inside (fun _ => rfl) asked arrived)
  · exact .of_some stepped (.other nofun nofun nofun rfl nofun rfl rfl)
  · rename_i data
    exact .of_some stepped (.arrive data rfl rfl rfl rfl rfl)
  · exact .of_some stepped (.other nofun nofun nofun rfl nofun rfl rfl)
  · rename_i data matched
    refine .of_some stepped ?_
    cases matched <;> exact .other nofun nofun (fun _ => Or.inl rfl) rfl nofun rfl rfl
  · rename_i readers
    refine .of_some stepped ?_
    cases readers <;> exact .other nofun nofun (fun _ => Or.inl rfl) rfl nofun rfl rfl
  · exact absurd stepped nofun

/-- What the events show of an invocation is what it looks back on: the responses since it asked
are the last ones that arrived for it, and none arrived that is not in the schedule. -/
structure HeardBy (number : Nat) (pool : Pool (Shared δ τ) (Pc δ)) (heard : Heard δ) : Prop where
  /-- It has begun. -/
  begun : (pool.control number).outside = !heard.invoked
  /-- Its request is sent after it asked. -/
  sent : (pool.control number).sent = true → heard.asked = true
  /-- It has asked. -/
  asked : pool.shared.asked number = heard.asked
  /-- Nothing is heard before it has asked. -/
  unasked : heard.asked = false → heard.responses = []
  /-- The last responses. -/
  responses : heard.responses <:+ pool.shared.arrived number
  /-- All responses. -/
  all : (pool.shared.arrived number).Sublist heard.all

section Hearing

variable {number thread : Nat} {pool : Pool (Shared δ τ) (Pc δ)} {heard : Heard δ}
  {shared : Shared δ τ} {point : Pc δ}

/-- Where the greenlets stand shows the same, when the one that steps stays outside or inside and
has not begun to send. -/
theorem HeardBy.placed (holds : HeardBy number pool heard)
    (place : point.outside = (pool.control thread).outside)
    (sent : point.sent = true → (pool.control thread).sent = true) :
    (Function.update pool.control thread point number).outside = !heard.invoked ∧
      ((Function.update pool.control thread point number).sent = true → heard.asked = true) := by
  by_cases same : number = thread
  · subst same
    rw [Function.update_self, place, holds.begun]
    exact ⟨rfl, fun sends => holds.sent (sent sends)⟩
  · rw [Function.update_of_ne same]
    exact ⟨holds.begun, holds.sent⟩

/-- An invocation begins. -/
theorem HeardBy.invoke (holds : HeardBy number pool heard)
    (asked : shared.asked = pool.shared.asked) (arrived : shared.arrived = pool.shared.arrived) :
    HeardBy number ⟨shared, Function.update pool.control thread .subscribed⟩
      (hear invocations number heard (thread, .invoke)) := by
  by_cases same : thread = number
  · subst same
    refine ⟨?_, ?_, ?_, ?_, ?_, ?_⟩
    · simp [hear, Pc.outside]
    · simp [Pc.sent]
    · simpa [hear, asked] using holds.asked
    · simpa [hear] using holds.unasked
    · simpa [hear, arrived] using holds.responses
    · simpa [hear, arrived] using holds.all
  · have apart : number ≠ thread := Ne.symm same
    simp only [hear, same, if_false]
    exact ⟨by simpa [apart] using holds.begun, by simpa [apart] using holds.sent,
      asked ▸ holds.asked, holds.unasked, arrived ▸ holds.responses, arrived ▸ holds.all⟩

/-- An invocation begins to send its request. -/
theorem HeardBy.ask (holds : HeardBy number pool heard)
    (before : pool.control thread = .subscribed)
    (asked : shared.asked = Function.update pool.shared.asked thread true)
    (arrived : shared.arrived = pool.shared.arrived) :
    HeardBy number ⟨shared, Function.update pool.control thread .sending⟩
      (hear invocations number heard (thread, .resumed)) := by
  by_cases same : thread = number
  · subst same
    have begun : heard.invoked = true := by
      have inside := holds.begun
      rw [before] at inside
      simpa [Pc.outside] using inside.symm
    simp only [hear, begun, and_self, if_true]
    refine ⟨?_, fun _ => rfl, ?_, nofun, arrived ▸ holds.responses, arrived ▸ holds.all⟩
    · simp [Pc.outside]
    · simp [asked]
  · have apart : number ≠ thread := Ne.symm same
    simp only [hear, same, false_and, if_false]
    refine ⟨by simpa [apart] using holds.begun, by simpa [apart] using holds.sent, ?_,
      holds.unasked, arrived ▸ holds.responses, arrived ▸ holds.all⟩
    simpa [asked, apart] using holds.asked

/-- A message arrives: it is noted down if it is a response to the invocation. -/
theorem HeardBy.arrive (holds : HeardBy number pool heard) (data : PluginInStream δ)
    (place : point.outside = (pool.control thread).outside)
    (sent : point.sent = true → (pool.control thread).sent = true)
    (asked : shared.asked = pool.shared.asked)
    (arrived : shared.arrived = (processLine invocations pool.shared data).1.arrived) :
    HeardBy number ⟨shared, Function.update pool.control thread point⟩
      (hear invocations number heard (thread, .arrive data)) := by
  obtain ⟨begun, sends⟩ := holds.placed place sent
  have listed : shared.arrived number =
      if (heard.asked || decide (number ∈ pool.shared.readers)) &&
          invocations.filter data number
      then pool.shared.arrived number ++ [data]
      else pool.shared.arrived number := by
    rw [arrived, ← holds.asked]
    rfl
  by_cases own : invocations.Own number data
  · have accepted := (filter_iff data number).mpr own
    simp only [accepted, Bool.and_true] at listed
    simp only [hear, own, if_true]
    refine ⟨begun, sends, asked ▸ holds.asked, ?_, ?_, ?_⟩
    · intro unasked
      have unasked : heard.asked = false := unasked
      simpa only [unasked, Bool.false_eq_true, if_false] using holds.unasked unasked
    · show _ <:+ shared.arrived number
      rw [listed]
      cases since : heard.asked with
      | true =>
        obtain ⟨early, same⟩ := holds.responses
        refine ⟨early, ?_⟩
        simp [← same]
      | false =>
        simp only [Bool.false_eq_true, if_false, holds.unasked since]
        exact List.nil_suffix
    · show (shared.arrived number).Sublist _
      rw [listed]
      split
      · exact List.Sublist.append holds.all (List.Sublist.refl _)
      · exact holds.all.trans (List.sublist_append_left _ _)
  · have rejected : invocations.filter data number = false := by
      rw [← Bool.not_eq_true, filter_iff]
      exact own
    simp only [rejected, Bool.and_false, Bool.false_eq_true, if_false] at listed
    simp only [hear, own, if_false]
    exact ⟨begun, sends, asked ▸ holds.asked, holds.unasked, listed ▸ holds.responses,
      listed ▸ holds.all⟩

/-- Any other event shows nothing of the invocation: a resumption is not its first one, unless it
has not begun. -/
theorem HeardBy.unheard (holds : HeardBy number pool heard) {event : Event δ}
    (still : event ≠ .invoke) (quiet : ∀ data, event ≠ .arrive data)
    (goes : event = .resumed →
      (pool.control thread).outside = true ∨ (pool.control thread).sent = true) :
    hear invocations number heard (thread, event) = heard := by
  cases event with
  | invoke => exact absurd rfl still
  | arrive data => exact absurd rfl (quiet data)
  | resumed =>
    simp only [hear]
    split
    · rename_i own
      obtain ⟨rfl, invoked⟩ := own
      -- it has begun, so it goes on behind its request
      have asked : heard.asked = true := by
        rcases goes rfl with outside | sends
        · rw [holds.begun, invoked] at outside
          exact absurd outside nofun
        · exact holds.sent sends
      rw [← asked]
    · rfl
  | close => rfl
  | timeout => rfl
  | raised => rfl

/-- A step keeps what the events show. -/
theorem HeardBy.fire {next : Pool (Shared δ τ) (Pc δ)} {event : Event δ}
    (holds : HeardBy number pool heard)
    (fired : (machine invocations).fire pool thread event = some next) :
    HeardBy number next (hear invocations number heard (thread, event)) := by
  obtain ⟨shared, point, stepped, rfl⟩ := Machine.fire_eq_some fired
  have hears : Hears invocations thread event pool.shared (pool.control thread) shared point :=
    Hears.of_step stepped
  cases hears with
  | invoke invokes before begins asked arrived =>
    subst invokes begins
    exact holds.invoke asked arrived
  | ask resumes before sends asked arrived =>
    subst resumes sends
    exact holds.ask before asked arrived
  | arrive data arrives before stays asked arrived =>
    subst arrives
    have silent : point.sent = true → (pool.control thread).sent = true := by
      intro sent
      cases point <;> simp [Pc.outside, Pc.sent] at stays sent
    exact holds.arrive data (stays.trans before.symm) silent asked arrived
  | other still quiet goes place sent asked arrived =>
    obtain ⟨begun, sends⟩ := holds.placed place sent
    rw [holds.unheard still quiet goes]
    exact ⟨begun, sends, asked ▸ holds.asked, holds.unasked, arrived ▸ holds.responses,
      arrived ▸ holds.all⟩

end Hearing

/-- A dictionary, for examples: a response, or the data in it. -/
inductive ExampleData where
  /-- The data of a response. -/
  | answer (value : Nat)
  /-- A response. -/
  | response (requestId : Text) (event : ResponseKind) (data : Option Nat)

/-- The invocations of one session, for examples. -/
def exampleInvocations : Invocations ExampleData Nat where
  sessionId := fun _ => ['s']
  requestId := fun number => List.replicate number 'r'
  maxTimeout := fun _ => 2
  backwardsRequestId := fun
    | .answer _ => none
    | .response requestId _ _ => some requestId
  validate := fun
    | .answer _ => none
    | .response _ event data => some ⟨event, [], data.map .answer⟩
  dataType := fun _ => fun
    | .answer value => some value
    | .response _ _ _ => none
  distinct := by
    intro first second _ same
    simpa using congrArg List.length same

/-- A message of the daemon, for examples. -/
def exampleMessage (number : Nat) (event : ResponseKind) (data : Option Nat) :
    PluginInStream ExampleData :=
  ⟨['s'], .backwardInvocationResponse, .response (List.replicate number 'r') event data⟩

end Runs

end DifyPlugin.Runtime
