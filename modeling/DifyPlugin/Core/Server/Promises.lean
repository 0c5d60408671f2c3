import DifyPlugin.Core.Server.Subscribers

/-!
# What subscribers are promised

A second account of a run is kept from its operations alone: which readers are open, which call of
`_process_line` each thread is in, how its filters have ended, and what each reader is therefore
promised. The reader delivers just that, and what the filter or the write of another subscriber
comes to makes no difference to it.
-/

namespace DifyPlugin.Server

open Interleaving

variable {δ : Type}

namespace Subscribers

variable {sh sh' : Subscribers δ} {operation : Operation δ} {point point' : Point δ}

/-! ## Two runs that differ in one subscriber -/

/-- Operations that differ at most in how the filter and the write of one subscriber end. -/
inductive Alike (subscriber : Nat) : Operation δ → Operation δ → Prop where
  /-- The same operation. -/
  | same (operation : Operation δ) : Alike subscriber operation operation
  /-- The filter of the subscriber ends in another way. -/
  | filtered (verdict verdict' : Verdict) :
      Alike subscriber (.filtered subscriber verdict) (.filtered subscriber verdict')
  /-- The writes to the others raise in both. -/
  | write (raises raises' : Nat → Bool)
      (others : ∀ number, number ≠ subscriber → raises number = raises' number) :
      Alike subscriber (.write raises) (.write raises')

/-- Request readers that differ at most in the queue of one subscriber. -/
structure Agree (subscriber : Nat) (sh sh' : Subscribers δ) : Prop where
  /-- The list. -/
  readers : sh.readers = sh'.readers
  /-- How many readers were made. -/
  created : sh.created = sh'.created
  /-- Which readers are closed. -/
  closed : ∀ number, (sh.filterReader number).closed = (sh'.filterReader number).closed
  /-- The other readers. -/
  filterReader : ∀ number, number ≠ subscriber →
    sh.filterReader number = sh'.filterReader number
  /-- What was read from the others. -/
  taken : ∀ number, number ≠ subscriber → sh.taken number = sh'.taken number
  /-- Which of the others have ended. -/
  ended : ∀ number, number ≠ subscriber → sh.ended number = sh'.ended number

/-- Calls at the same place that have matched the same readers, one subscriber apart. -/
inductive SamePoint (subscriber : Nat) : Point δ → Point δ → Prop where
  /-- No call. -/
  | idle : SamePoint subscriber .idle .idle
  /-- The same call. -/
  | filtering (data : PluginInStream δ) (registered readers matched matched' : List Nat)
      (others : ∀ number, number ≠ subscriber → matched.count number = matched'.count number) :
      SamePoint subscriber (.filtering data registered readers matched)
        (.filtering data registered readers matched')

variable {subscriber : Nat} {agreed : Subscribers δ}

/-- New readers. -/
theorem Agree.read (agree : Agree subscriber sh agreed) :
    Agree subscriber
      { sh with toRequestReader := sh.toRequestReader.read sh.created, created := sh.created + 1 }
      { agreed with
        toRequestReader := agreed.toRequestReader.read agreed.created
        created := agreed.created + 1 } := by
  have readers := agree.readers
  have created := agree.created
  constructor
  · show sh.readers ++ [sh.created] = agreed.readers ++ [agreed.created]
    rw [readers, created]
  · show sh.created + 1 = agreed.created + 1
    rw [created]
  · intro number
    simp only [RequestReader.read, Function.update_apply, created]
    split
    · rfl
    · exact agree.closed number
  · intro number other
    simp only [RequestReader.read, Function.update_apply, created]
    split
    · rfl
    · exact agree.filterReader number other
  · exact agree.taken
  · exact agree.ended

/-- Readers that are closed in both. -/
theorem Agree.closing (agree : Agree subscriber sh agreed) {requests requests' : RequestReader δ}
    (closes : Nat → Prop) [DecidablePred closes]
    (readers : requests.readers = requests'.readers)
    (each : ∀ number, requests.filterReader number =
      if closes number then (sh.filterReader number).close else sh.filterReader number)
    (each' : ∀ number, requests'.filterReader number =
      if closes number then (agreed.filterReader number).close else agreed.filterReader number) :
    Agree subscriber { sh with toRequestReader := requests }
      { agreed with toRequestReader := requests' } := by
  constructor
  · exact readers
  · exact agree.created
  · intro number
    show (requests.filterReader number).closed = (requests'.filterReader number).closed
    rw [each number, each' number]
    split
    · rw [FilterReader.closed_close, FilterReader.closed_close]
    · exact agree.closed number
  · intro number other
    show requests.filterReader number = requests'.filterReader number
    rw [each number, each' number, agree.filterReader number other]
  · exact agree.taken
  · exact agree.ended

/-- Writes that differ in one subscriber. -/
theorem Agree.write (agree : Agree subscriber sh agreed) (data : PluginInStream δ)
    (registered : List Nat) {matched matched' : List Nat} {raises raises' : Nat → Bool}
    (matching : ∀ number, number ≠ subscriber → matched.count number = matched'.count number)
    (writes : ∀ number, number ≠ subscriber → raises number = raises' number) :
    Agree subscriber (sh.write data registered matched raises)
      (agreed.write data registered matched' raises') := by
  constructor
  · show (sh.toRequestReader.writeMatched raises data matched).readers =
      (agreed.toRequestReader.writeMatched raises' data matched').readers
    rw [RequestReader.writeMatched_readers, RequestReader.writeMatched_readers]
    exact agree.readers
  · exact agree.created
  · intro number
    show ((sh.toRequestReader.writeMatched raises data matched).filterReader number).closed =
      ((agreed.toRequestReader.writeMatched raises' data matched').filterReader number).closed
    rw [RequestReader.writeMatched_closed, RequestReader.writeMatched_closed]
    exact agree.closed number
  · intro number other
    show (sh.toRequestReader.writeMatched raises data matched).filterReader number =
      (agreed.toRequestReader.writeMatched raises' data matched').filterReader number
    rw [RequestReader.writeMatched_filterReader, RequestReader.writeMatched_filterReader,
      matching number other, writes number other]
    exact congrArg _ (agree.filterReader number other)
  · exact agree.taken
  · exact agree.ended

/-- The same reader is read in both. -/
theorem Agree.next (agree : Agree subscriber sh agreed) (read : Nat) :
    Agree subscriber (sh.next read) (agreed.next read) := by
  obtain ⟨taken, ended, changed, reading⟩ := sh.next_eq read
  obtain ⟨taken', ended', changed', reading'⟩ := agreed.next_eq read
  have same (other : read ≠ subscriber) : taken = taken' ∧ ended = ended' := by
    rw [agree.filterReader read other] at reading
    rw [agree.taken read other, agree.ended read other] at reading
    cases here : (agreed.filterReader read).next.1 <;> rw [here] at reading reading' <;>
      exact ⟨reading.1.trans reading'.1.symm, reading.2.trans reading'.2.symm⟩
  rw [changed, changed']
  constructor
  · exact agree.readers
  · exact agree.created
  · intro number
    by_cases here : number = read
    · subst here
      simp only [Function.update_self, FilterReader.closed_next]
      exact agree.closed number
    · simp only [Function.update_of_ne here]
      exact agree.closed number
  · intro number other
    by_cases here : number = read
    · subst here
      simp only [Function.update_self, agree.filterReader number other]
    · simp only [Function.update_of_ne here]
      exact agree.filterReader number other
  · intro number other
    by_cases here : number = read
    · subst here
      simp only [Function.update_self]
      exact (same other).1
    · simp only [Function.update_of_ne here]
      exact agree.taken number other
  · intro number other
    by_cases here : number = read
    · subst here
      simp only [Function.update_self]
      exact (same other).2
    · simp only [Function.update_of_ne here]
      exact agree.ended number other

/-- `FilterReader.close` of the same reader in both. -/
theorem Agree.closeReader (agree : Agree subscriber sh agreed) (closed : Nat) (raises : Bool) :
    Agree subscriber
      { sh with toRequestReader := sh.toRequestReader.closeSubscriber closed raises }
      { agreed with toRequestReader := agreed.toRequestReader.closeSubscriber closed raises } := by
  apply agree.closing (· = closed)
  · simp only [RequestReader.closeSubscriber, RequestReader.closeReader, agree.closed closed,
      agree.readers]
    split
    · rfl
    · split
      · exact agree.readers
      · rfl
  · exact sh.toRequestReader.closeSubscriber_filterReader closed raises
  · exact agreed.toRequestReader.closeSubscriber_filterReader closed raises

/-- `RequestReader.close` in both. -/
theorem Agree.close (agree : Agree subscriber sh agreed) :
    Agree subscriber { sh with toRequestReader := sh.toRequestReader.close }
      { agreed with toRequestReader := agreed.toRequestReader.close } := by
  apply agree.closing (· ∈ sh.readers)
  · rw [RequestReader.close_readers, RequestReader.close_readers]
  · exact sh.toRequestReader.close_filterReader
  · intro number
    rw [agreed.toRequestReader.close_filterReader number, agree.readers]

/-- A step is answered by an operation that is alike. -/
theorem Agree.step (agree : Agree subscriber sh agreed) {point₁ point₂ : Point δ}
    (same : SamePoint subscriber point point₁) {operation' : Operation δ}
    (alike : Alike subscriber operation operation')
    (stepped : Step sh operation point sh' point₂) (thread : Nat) :
    ∃ agreed' point₃, step thread operation' agreed point₁ = some (agreed', point₃) ∧
      Agree subscriber sh' agreed' ∧ SamePoint subscriber point₂ point₃ := by
  cases stepped with
  | read =>
    cases same
    cases alike
    exact ⟨_, _, rfl, agree.read, .idle⟩
  | processLine data =>
    cases same
    cases alike
    refine ⟨_, _, rfl, agree, ?_⟩
    rw [agree.readers]
    exact .filtering data agreed.readers agreed.readers [] [] fun _ _ => rfl
  | filtered data registered readers matched number verdict =>
    cases same with
    | filtering _ _ _ _ matched' others =>
      cases alike with
      | same =>
        refine ⟨_, _, if_pos rfl, agree, .filtering data registered readers _ _ ?_⟩
        intro other different
        split
        · rw [List.count_append, List.count_append, others other different]
        · exact others other different
      | filtered _ verdict' =>
        refine ⟨_, _, if_pos rfl, agree, .filtering data registered readers _ _ ?_⟩
        intro other different
        have apart : List.count other [subscriber] = 0 :=
          List.count_eq_zero_of_not_mem fun listed =>
            different (List.mem_singleton.mp listed)
        split <;> split <;>
          simp only [List.count_append, apart, Nat.add_zero, others other different]
  | write data registered matched raises =>
    cases same with
    | filtering _ _ _ _ matched' others =>
      cases alike with
      | same =>
        exact ⟨_, _, rfl, agree.write data registered others fun _ _ => rfl, .idle⟩
      | write _ raises' writes =>
        exact ⟨_, _, rfl, agree.write data registered others writes, .idle⟩
  | closeReader number raises made =>
    cases same
    cases alike
    exact ⟨_, _, if_pos (agree.created ▸ made), agree.closeReader number raises, .idle⟩
  | close =>
    cases same
    cases alike
    exact ⟨_, _, rfl, agree.close, .idle⟩
  | next number made =>
    cases same
    cases alike
    exact ⟨_, _, if_pos (agree.created ▸ made), agree.next number, .idle⟩

/-- Pools that differ at most in one subscriber. -/
def Related (subscriber : Nat) (pool pool' : Pool (Subscribers δ) (Point δ)) : Prop :=
  Agree subscriber pool.shared pool'.shared ∧
    ∀ thread, SamePoint subscriber (pool.control thread) (pool'.control thread)

/-- A firing is answered by one of the same thread that is alike. -/
theorem Related.fire {pool pool' next : Pool (Subscribers δ) (Point δ)} {thread : Nat}
    {operation operation' : Operation δ} (related : Related subscriber pool pool')
    (alike : Alike subscriber operation operation')
    (fired : machine.fire pool thread operation = some next) :
    ∃ next', machine.fire pool' thread operation' = some next' ∧
      Related subscriber next next' := by
  obtain ⟨sh', point, stepped, rfl⟩ := Machine.fire_eq_some fired
  obtain ⟨agreed', point', answered, agree, same⟩ :=
    related.1.step (related.2 thread) alike (Step.of_step thread stepped) thread
  refine ⟨⟨agreed', Function.update pool'.control thread point'⟩, ?_, agree, ?_⟩
  · have here : machine.step thread operation' pool'.shared (pool'.control thread) =
        some (agreed', point') := answered
    rw [Machine.fire, here]
    rfl
  · intro other
    by_cases moved : other = thread
    · subst moved
      simpa only [Function.update_self] using same
    · simpa only [Function.update_of_ne moved] using related.2 other

/-- Runs that differ only in how the filter and the writes of one subscriber end agree on the
others. -/
theorem run_agree {schedule schedule' : List (Nat × Operation δ)}
    {last : Pool (Subscribers δ) (Point δ)} (subscriber : Nat)
    (alike : List.Forall₂ (fun move move' => move.1 = move'.1 ∧ Alike subscriber move.2 move'.2)
      schedule schedule')
    (ran : machine.run initial schedule = some last) :
    ∃ last', machine.run initial schedule' = some last' ∧
      Agree subscriber last.shared last'.shared := by
  have start : Related subscriber (initial : Pool (Subscribers δ) (Point δ)) initial := by
    refine ⟨⟨rfl, rfl, ?_, ?_, ?_, ?_⟩, fun _ => .idle⟩
    all_goals
      intros
      rfl
  have answered (pool pool' : Pool (Subscribers δ) (Point δ)) (thread : Nat)
      (operation operation' : Operation δ) (next : Pool (Subscribers δ) (Point δ))
      (related : Related subscriber pool pool') (alike : Alike subscriber operation operation')
      (fired : machine.fire pool thread operation = some next) :
      ∃ next', machine.fire pool' thread operation' = some next' ∧
        Related subscriber next next' := related.fire alike fired
  obtain ⟨last', ran', related⟩ := Machine.run_related answered start alike ran
  exact ⟨last', ran', related.1⟩

/-! ## What the operations promise -/

/-- A call of `_process_line` that has begun. -/
structure Started (δ : Type) where
  /-- The message. -/
  data : PluginInStream δ
  /-- The readers that were registered and open when the call began. -/
  opened : List Nat
  /-- How their filters have ended. -/
  answers : List (Nat × Verdict)

/-- What the operations tell: nothing of it is read from the request reader. -/
structure Watch (δ : Type) where
  /-- How many readers were made. -/
  made : Nat
  /-- The readers that were made and not closed since. -/
  opened : List Nat
  /-- The call of `_process_line` of each thread. -/
  running : Nat → Option (Started δ)
  /-- The messages that a filter reader is promised. -/
  promised : Nat → List (PluginInStream δ)
  /-- The readers whose filter a call has left out. -/
  unasked : List Nat

/-- A filter has ended. -/
def Started.answer (started : Started δ) (number : Nat) (verdict : Verdict) : Started δ :=
  { started with answers := started.answers ++ [(number, verdict)] }

/-- The call ran entirely while a reader was registered and open, its filter accepted, and its
write did not raise; `opened` are the readers that are open when the call ends. -/
def Started.promises (started : Started δ) (opened : List Nat) (raises : Nat → Bool)
    (number : Nat) : Bool :=
  decide (number ∈ started.opened) && decide ((number, Verdict.accepts) ∈ started.answers) &&
    decide (number ∈ opened) && !raises number

namespace Watch

/-- A call of `_process_line` ends. -/
def write (watch : Watch δ) (thread : Nat) (raises : Nat → Bool) (started : Started δ) :
    Watch δ :=
  { watch with
    running := Function.update watch.running thread none
    promised := fun number => watch.promised number ++
      if started.promises watch.opened raises number then [started.data] else []
    unasked := watch.unasked ++
      started.opened.filter fun number => number ∉ started.answers.map Prod.fst }

/-- What an operation of a thread tells. -/
def note (watch : Watch δ) (move : Nat × Operation δ) : Watch δ :=
  match move.2 with
  | .read => { watch with made := watch.made + 1, opened := watch.opened ++ [watch.made] }
  | .processLine data =>
    { watch with
      running := Function.update watch.running move.1 (some ⟨data, watch.opened, []⟩) }
  | .filtered number verdict =>
    { watch with
      running := Function.update watch.running move.1
        ((watch.running move.1).map (·.answer number verdict)) }
  | .write raises =>
    match watch.running move.1 with
    | some started => watch.write move.1 raises started
    | none => watch
  | .closeReader number _ => { watch with opened := watch.opened.filter (· ≠ number) }
  | .close => { watch with opened := [] }
  | .next _ => watch

/-- Nothing was done. -/
def start : Watch δ := ⟨0, [], fun _ => none, fun _ => [], []⟩

end Watch

/-- What a schedule of operations tells. -/
def watch (schedule : List (Nat × Operation δ)) : Watch δ := schedule.foldl Watch.note Watch.start

/-- What is known of a call of `_process_line` fits where its thread stands. -/
inductive Follows (sh : Subscribers δ) : Option (Started δ) → Point δ → Prop where
  /-- No call runs. -/
  | idle : Follows sh none .idle
  /-- The readers that were open were copied, and every other one is closed; the filters of the
  copied readers have ended or are still to come. -/
  | filtering (started : Started δ) (registered readers matched : List Nat)
      (copied : ∀ number ∈ started.opened, number ∈ registered)
      (others : ∀ number ∈ registered,
        number ∈ started.opened ∨ (sh.filterReader number).closed = true)
      (accepted : ∀ number, number ∈ matched ↔ (number, Verdict.accepts) ∈ started.answers)
      (asked : ∀ number ∈ registered,
        number ∈ readers ∨ number ∈ started.answers.map Prod.fst) :
      Follows sh (some started) (.filtering started.data registered readers matched)

/-- What the operations tell is so. -/
structure Watched (pool : Pool (Subscribers δ) (Point δ)) (watch : Watch δ) : Prop where
  /-- The invariant. -/
  holds : assertions.Holds pool
  /-- The readers that were made. -/
  made : watch.made = pool.shared.created
  /-- The open readers. -/
  opened : ∀ number,
    number ∈ watch.opened ↔ (pool.shared.filterReader number).closed = false
  /-- The calls that run. -/
  running : ∀ thread, Follows pool.shared (watch.running thread) (pool.control thread)
  /-- What the readers are promised. -/
  promised : ∀ number, watch.promised number = pool.shared.expected number
  /-- Every open reader is asked. -/
  unasked : watch.unasked = []

/-- An operation of another thread closes readers at most. -/
theorem Follows.kept {known : Option (Started δ)} (follows : Follows sh known point)
    (sound : sh.Sound point) (stepped : Step sh operation point₁ sh' point') :
    Follows sh' known point := by
  cases follows with
  | idle => exact .idle
  | filtering started registered readers matched copied others accepted asked =>
    refine .filtering started registered readers matched copied ?_ accepted asked
    intro number listed
    refine (others number listed).imp_right fun closed => ?_
    exact (stepped.closed ⟨sound.2.1 number listed, closed, rfl⟩).closed

/-- An operation tells nothing of the calls of other threads. -/
theorem Watch.note_running (watch : Watch δ) (operation : Operation δ) {thread other : Nat}
    (different : other ≠ thread) :
    (watch.note (thread, operation)).running other = watch.running other := by
  cases operation with
  | processLine data => exact Function.update_of_ne different _ _
  | filtered number verdict => exact Function.update_of_ne different _ _
  | write raises =>
    simp only [Watch.note]
    split
    · exact Function.update_of_ne different _ _
    · rfl
  | _ => rfl

section Watching

variable {watch : Watch δ} {thread : Nat}

/-- What an operation tells of its thread is so after it. -/
theorem Step.follows (stepped : Step sh operation point sh' point') (invariant : Invariant sh)
    (opened : ∀ number, number ∈ watch.opened ↔ (sh.filterReader number).closed = false)
    (follows : Follows sh (watch.running thread) point) :
    Follows sh' ((watch.note (thread, operation)).running thread) point' := by
  cases stepped with
  | processLine data =>
    simp only [Watch.note, Function.update_self]
    refine .filtering ⟨data, watch.opened, []⟩ sh.readers sh.readers [] ?_ ?_ ?_ ?_
    · intro number listed
      have flag := (opened number).mp listed
      exact invariant.listed number (invariant.made flag) flag
    · intro number _
      cases flag : (sh.filterReader number).closed with
      | true => exact Or.inr rfl
      | false => exact Or.inl ((opened number).mpr flag)
    · simp
    · exact fun number listed => Or.inl listed
  | filtered data registered readers matched number verdict =>
    simp only [Watch.note, Function.update_self]
    generalize known : watch.running thread = running at follows
    cases follows with
    | filtering started _ _ _ copied others accepted asked =>
      refine .filtering (started.answer number verdict) registered readers _ copied others ?_ ?_
      · intro other
        have before := accepted other
        cases verdict <;> simp [Started.answer, before, eq_comm]
      · intro other listed
        simp only [Started.answer, List.map_append, List.map_cons, List.map_nil, List.mem_append,
          List.mem_singleton]
        rcases asked other listed with here | earlier
        · rcases List.mem_cons.mp here with same | later
          · exact Or.inr (Or.inr same)
          · exact Or.inl later
        · exact Or.inr (Or.inl earlier)
  | write data registered matched raises =>
    generalize known : watch.running thread = running at follows
    cases follows with
    | filtering started _ _ _ copied others accepted asked =>
      simp only [Watch.note, known, Watch.write, Function.update_self]
      exact .idle
  | _ =>
    generalize known : watch.running thread = running at follows
    cases follows
    simp only [Watch.note, known]
    exact .idle

/-- What an operation tells of the open readers is so after it. -/
theorem Step.opened (stepped : Step sh operation point sh' point') (invariant : Invariant sh)
    (made : watch.made = sh.created)
    (opened : ∀ number, number ∈ watch.opened ↔ (sh.filterReader number).closed = false)
    (number : Nat) :
    number ∈ (watch.note (thread, operation)).opened ↔
      (sh'.filterReader number).closed = false := by
  have before := opened number
  cases stepped with
  | read =>
    simp only [Watch.note, List.mem_append, List.mem_singleton, RequestReader.read, made]
    by_cases here : number = sh.created
    · subst here
      simp
    · simp [here, before]
  | processLine data => exact before
  | filtered data registered readers matched other verdict => exact before
  | write data registered matched raises =>
    have same := RequestReader.writeMatched_closed raises data matched sh.toRequestReader number
    simp only [Watch.note]
    show _ ↔ ((sh.toRequestReader.writeMatched raises data matched).filterReader number).closed =
      false
    rw [same, ← before]
    split <;> rfl
  | closeReader other raises _ =>
    have each := sh.toRequestReader.closeSubscriber_filterReader other raises number
    simp only [Watch.note, List.mem_filter, each, before]
    by_cases here : number = other
    · simp [here, FilterReader.closed_close]
    · simp [here]
  | close =>
    have each := sh.toRequestReader.close_filterReader number
    simp only [Watch.note, each, List.not_mem_nil, false_iff]
    by_cases listed : number ∈ sh.readers
    · rw [if_pos listed, FilterReader.closed_close]
      exact Bool.true_eq_false.mp
    · rw [if_neg listed]
      exact fun flag => listed (invariant.listed number (invariant.made flag) flag)
  | next other _ =>
    obtain ⟨taken, ended, changed, _⟩ := sh.next_eq other
    rw [changed]
    by_cases here : number = other
    · subst here
      simp only [Watch.note, before, Function.update_self, FilterReader.closed_next]
    · simp only [Watch.note, before, Function.update_of_ne here]

/-- What an operation promises is what is expected after it. -/
theorem Step.promised (stepped : Step sh operation point sh' point') (invariant : Invariant sh)
    (opened : ∀ number, number ∈ watch.opened ↔ (sh.filterReader number).closed = false)
    (follows : Follows sh (watch.running thread) point) {number : Nat}
    (promised : watch.promised number = sh.expected number) :
    (watch.note (thread, operation)).promised number = sh'.expected number := by
  cases stepped with
  | write data registered matched raises =>
    generalize known : watch.running thread = running at follows
    cases follows with
    | filtering started _ _ _ copied others accepted asked =>
      have same : started.promises watch.opened raises number = true ↔
          number ∈ registered ∧ number ∈ matched ∧ number ∈ sh.readers ∧
            (sh.filterReader number).closed = false ∧ raises number = false := by
        simp only [Started.promises, Bool.and_eq_true, decide_eq_true_eq, ← accepted,
          Bool.not_eq_true', opened number]
        constructor
        · rintro ⟨⟨⟨began, accepts⟩, flag⟩, written⟩
          exact ⟨copied number began, accepts,
            invariant.listed number (invariant.made flag) flag, flag, written⟩
        · rintro ⟨began, accepts, -, flag, written⟩
          refine ⟨⟨⟨?_, accepts⟩, flag⟩, written⟩
          rcases others number began with here | closed
          · exact here
          · exact absurd (flag.symm.trans closed) Bool.false_ne_true
      simp only [Watch.note, known, Watch.write, expected_write, promised, same]
  | next other _ =>
    obtain ⟨taken, ended, changed, _⟩ := sh.next_eq other
    rw [changed]
    exact promised
  | _ => exact promised

/-- The readers are counted. -/
theorem Step.made_note (stepped : Step sh operation point sh' point')
    (made : watch.made = sh.created) : (watch.note (thread, operation)).made = sh'.created := by
  cases stepped with
  | read => exact congrArg (· + 1) made
  | write data registered matched raises =>
    simp only [Watch.note]
    split
    · exact made
    · exact made
  | next other _ =>
    obtain ⟨taken, ended, changed, _⟩ := sh.next_eq other
    rw [changed]
    exact made
  | _ => exact made

/-- A call that ends has asked the filters of all readers that were open when it began. -/
theorem Step.unasked (stepped : Step sh operation point sh' point')
    (follows : Follows sh (watch.running thread) point) (unasked : watch.unasked = []) :
    (watch.note (thread, operation)).unasked = [] := by
  cases stepped with
  | write data registered matched raises =>
    generalize known : watch.running thread = running at follows
    cases follows with
    | filtering started _ _ _ copied others accepted asked =>
      simp only [Watch.note, known, Watch.write, unasked, List.nil_append]
      apply List.filter_eq_nil_iff.mpr
      intro number began
      rcases asked number (copied number began) with later | answered
      · exact absurd later List.not_mem_nil
      · simpa using answered
  | _ => exact unasked

end Watching

/-- What an operation tells is so after it. -/
theorem Watched.note {pool next : Pool (Subscribers δ) (Point δ)} {thread : Nat}
    {operation : Operation δ} {watch : Watch δ} (watched : Watched pool watch)
    (fired : machine.fire pool thread operation = some next) :
    Watched next (watch.note (thread, operation)) := by
  have holds := run_holds watched.holds ((Machine.run_cons fired []).trans rfl)
  obtain ⟨invariant, sound⟩ := watched.holds
  obtain ⟨sh', point', done, rfl⟩ := Machine.fire_eq_some fired
  have stepped := Step.of_step thread done
  have follows := watched.running thread
  refine ⟨holds, stepped.made_note watched.made, fun number => ?_, fun other => ?_,
    fun number => ?_, ?_⟩
  · exact stepped.opened invariant watched.made watched.opened number
  · by_cases same : other = thread
    · subst same
      simpa only [Function.update_self] using stepped.follows invariant watched.opened follows
    · simpa only [Function.update_of_ne same, watch.note_running operation same] using
        (watched.running other).kept (sound other) stepped
  · exact stepped.promised invariant watched.opened follows (watched.promised number)
  · exact stepped.unasked follows watched.unasked

/-- What a schedule tells is so after its run. -/
theorem Watched.run {pool later : Pool (Subscribers δ) (Point δ)} {watch : Watch δ}
    {schedule : List (Nat × Operation δ)} (watched : Watched pool watch)
    (ran : machine.run pool schedule = some later) :
    Watched later (schedule.foldl Watch.note watch) :=
  Machine.run_foldl (fun _ _ _ _ _ watched fired => watched.note fired) watched ran

/-- In the beginning nothing was told. -/
theorem watched_initial : Watched (initial : Pool (Subscribers δ) (Point δ)) Watch.start := by
  refine ⟨initial_holds, rfl, fun number => ?_, fun thread => .idle, fun number => rfl, rfl⟩
  exact ⟨fun listed => absurd listed List.not_mem_nil, fun flag => absurd flag nofun⟩

/-! ## What a subscriber gets -/

/-- What was read from a filter reader in a state, and what is read from it later on; `promised`
are the messages that the reader is promised. -/
structure Delivered (sh : Subscribers δ) (number : Nat) (promised : List (PluginInStream δ)) :
    Prop where
  /-- What was read and what waits is, in order and once, what the reader is promised. -/
  ordered : sh.taken number ++ (sh.filterReader number).pending = promised
  /-- When reading has ended, the reader is closed and has yielded all of it. -/
  ended : sh.ended number = true →
    (sh.filterReader number).closed = true ∧ sh.taken number = promised
  /-- The reading yields what waits; then it waits at an open reader, and ends at a closed one. -/
  drained : ∀ count,
    (sh.filterReader number).readings ((sh.filterReader number).pending.length + count) =
      (sh.filterReader number).pending.map .yields ++
        List.replicate count (sh.filterReader number).idleReading

/-- Between the steps each filter reader delivers. -/
theorem Invariant.delivered (invariant : Invariant sh) (number : Nat) :
    Delivered sh number (sh.expected number) := by
  have ordered := invariant.ordered number
  refine ⟨ordered, fun ended => ?_, (invariant.formed number).readings_pending⟩
  have finished := invariant.finished number ended
  rw [finished.2, List.append_nil] at ordered
  exact ⟨finished.1, ordered⟩

/-- From a state with a closed reader on it stays closed, and nothing more is promised to it. -/
theorem run_closed {schedule : List (Nat × Operation δ)}
    {pool later : Pool (Subscribers δ) (Point δ)} {number : Nat}
    {promised : List (PluginInStream δ)} (closed : Closed number promised pool.shared)
    (ran : machine.run pool schedule = some later) : Closed number promised later.shared := by
  have preserved (pool : Pool (Subscribers δ) (Point δ)) (thread : Nat) (operation : Operation δ)
      (next : Pool (Subscribers δ) (Point δ)) (before : Closed number promised pool.shared)
      (fired : machine.fire pool thread operation = some next) :
      Closed number promised next.shared := by
    obtain ⟨sh', point, stepped, rfl⟩ := Machine.fire_eq_some fired
    exact (Step.of_step thread stepped).closed before
  exact Machine.run_preserves_all preserved pool schedule later closed ran

/-- A reader that was made and is not in the list is never in it again. -/
theorem run_absent {schedule : List (Nat × Operation δ)}
    {pool later : Pool (Subscribers δ) (Point δ)} {number : Nat}
    (made : number < pool.shared.created) (absent : number ∉ pool.shared.readers)
    (ran : machine.run pool schedule = some later) : number ∉ later.shared.readers := by
  have preserved (pool : Pool (Subscribers δ) (Point δ)) (thread : Nat) (operation : Operation δ)
      (next : Pool (Subscribers δ) (Point δ))
      (before : number < pool.shared.created ∧ number ∉ pool.shared.readers)
      (fired : machine.fire pool thread operation = some next) :
      number < next.shared.created ∧ number ∉ next.shared.readers := by
    obtain ⟨sh', point, stepped, rfl⟩ := Machine.fire_eq_some fired
    have step := Step.of_step thread stepped
    exact ⟨lt_of_lt_of_le before.1 step.created_le, step.absent before.1 before.2⟩
  exact (Machine.run_preserves_all preserved pool schedule later ⟨made, absent⟩ ran).2

/-- When `RequestReader.close` returns, every reader that was made is closed and is not in the
list. -/
theorem fire_close {pool done : Pool (Subscribers δ) (Point δ)} {thread number : Nat}
    (invariant : Invariant pool.shared) (made : number < pool.shared.created)
    (fired : machine.fire pool thread .close = some done) :
    number ∉ done.shared.readers ∧
      Closed number (pool.shared.expected number) done.shared := by
  obtain ⟨sh', point, stepped, rfl⟩ := Machine.fire_eq_some fired
  have step := Step.of_step thread stepped
  generalize pool.control thread = here at step
  cases step with
  | close =>
    have none := pool.shared.toRequestReader.close_readers
    have each := pool.shared.toRequestReader.close_filterReader number
    refine ⟨fun listed => ?_, made, ?_, rfl⟩
    · rw [show pool.shared.toRequestReader.close.readers = [] from none] at listed
      exact absurd listed List.not_mem_nil
    · show (pool.shared.toRequestReader.close.filterReader number).closed = true
      rw [each]
      split
      · exact FilterReader.closed_close _
      · rename_i absent
        cases closed : (pool.shared.filterReader number).closed with
        | true => rfl
        | false => exact absurd (invariant.listed number made closed) absent

/-- In every run of operations, in any order and from inside filters, a filter reader yields
exactly the messages of the calls that its filter accepted while it was registered and open, in
order, drains them once it is closed, and ends; what these messages are is told by the operations
alone, and no call leaves out the filter of an open reader. Nothing is added after the close of a
reader; another subscriber whose filter or write raises changes nothing for it; and
`RequestReader.close` removes and closes every reader that was registered before. -/
theorem read_exactlyOnce {schedule : List (Nat × Operation δ)}
    {pool : Pool (Subscribers δ) (Point δ)} (ran : machine.run initial schedule = some pool)
    {number : Nat} (made : number < (watch schedule).made) :
    (watch schedule).unasked = [] ∧
    Delivered pool.shared number ((watch schedule).promised number) ∧
    ((pool.shared.filterReader number).closed = true → ∀ rest later,
      machine.run pool rest = some later →
        (later.shared.filterReader number).closed = true ∧
        (watch (schedule ++ rest)).promised number = (watch schedule).promised number ∧
        Delivered later.shared number ((watch schedule).promised number)) ∧
    (∀ subscriber, number ≠ subscriber → ∀ schedule',
      List.Forall₂ (fun move move' => move.1 = move'.1 ∧ Alike subscriber move.2 move'.2)
        schedule schedule' →
      ∃ pool', machine.run initial schedule' = some pool' ∧
        pool.shared.readers = pool'.shared.readers ∧
        pool.shared.filterReader number = pool'.shared.filterReader number ∧
        pool.shared.taken number = pool'.shared.taken number ∧
        pool.shared.ended number = pool'.shared.ended number) ∧
    ∀ thread done, machine.fire pool thread .close = some done → ∀ rest later,
      machine.run done rest = some later →
        number ∉ later.shared.readers ∧
        (later.shared.filterReader number).closed = true ∧
        Delivered later.shared number ((watch schedule).promised number) := by
  have watched : Watched pool (watch schedule) := watched_initial.run ran
  have holds := watched.holds
  have promised := watched.promised number
  rw [watched.made] at made
  have closedLater {from' later : Pool (Subscribers δ) (Point δ)}
      {rest : List (Nat × Operation δ)} (holds : assertions.Holds from')
      (closed : Closed number ((watch schedule).promised number) from'.shared)
      (run : machine.run from' rest = some later) :
      (later.shared.filterReader number).closed = true ∧
        Delivered later.shared number ((watch schedule).promised number) := by
    have after := run_closed closed run
    exact ⟨after.closed, after.expected ▸ (run_holds holds run).1.delivered number⟩
  refine ⟨watched.unasked, promised ▸ holds.1.delivered number, ?_, ?_, ?_⟩
  · intro closed rest later run
    have before : Closed number ((watch schedule).promised number) pool.shared :=
      ⟨made, closed, promised.symm⟩
    have told : Watched later (watch (schedule ++ rest)) := by
      rw [watch, List.foldl_append]
      exact watched.run run
    refine ⟨(closedLater holds before run).1, ?_, (closedLater holds before run).2⟩
    rw [told.promised number, (run_closed before run).expected]
  · intro subscriber other schedule' alike
    obtain ⟨pool', ran', agree⟩ := run_agree subscriber alike ran
    exact ⟨pool', ran', agree.readers, agree.filterReader number other, agree.taken number other,
      agree.ended number other⟩
  · intro thread done fired rest later run
    obtain ⟨absent, closed⟩ := fire_close holds.1 made fired
    have after : assertions.Holds done :=
      run_holds holds ((Machine.run_cons fired []).trans rfl)
    rw [← promised] at closed
    exact ⟨run_absent closed.made absent run, closedLater after closed run⟩

/-- A message, for examples. -/
def numbered (number : Nat) : PluginInStream Nat := ⟨['s'], .request, number⟩

/-- The filter of the first reader closes it and registers another one, and the filter of the
second reader processes a second message, for examples. -/
def nestedCalls : List (Nat × Operation Nat) := [
  (0, .read), (0, .read), (0, .processLine (numbered 1)),
  (1, .closeReader 0 false), (1, .read), (0, .filtered 0 .accepts),
  (1, .processLine (numbered 2)), (1, .filtered 1 .accepts), (1, .filtered 2 .raises),
  (1, .write fun _ => false),
  (0, .filtered 1 .accepts), (0, .write fun _ => false),
  (0, .next 1), (0, .next 1), (0, .close), (0, .next 1)]

/-- The second reader yields both messages and ends. -/
theorem read_exactlyOnce_nested :
    ∃ pool : Pool (Subscribers Nat) (Point Nat), machine.run initial nestedCalls = some pool ∧
      pool.shared.readers = [] ∧ pool.shared.taken 1 = [numbered 2, numbered 1] ∧
      pool.shared.taken 1 = (watch nestedCalls).promised 1 := by
  refine ⟨_, rfl, rfl, rfl, ?_⟩
  have made : 1 < (watch nestedCalls).made := by decide
  have ran : machine.run initial nestedCalls = some _ := rfl
  exact ((read_exactlyOnce ran made).2.1.ended rfl).2

end Subscribers

end DifyPlugin.Server
