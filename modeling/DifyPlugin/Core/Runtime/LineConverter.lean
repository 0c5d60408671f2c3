import DifyPlugin.Core.Runtime.Isolation

/-!
# The line converter

`_line_converter_wrapper` over the rounds of a filter reader, which may never end: a round brings
a response, or nothing for a second. The converter yields the parsed data of the responses until
one of five things ends it. It counts the rounds that brought nothing since the last result.
-/

namespace DifyPlugin.Runtime

open Server

variable {δ τ : Type}

/-- What a filter reader yields in its rounds; `some none` is an empty round, and `none` comes
after the last round. -/
abbrev Rounds (δ : Type) : Type := Nat → Option (Option (PluginInStream δ))

/-- What one round of the loop does. -/
inductive Round (τ : Type) where
  /-- The loop goes on with so many empty rounds. -/
  | goOn (emptyResponseCount : Nat)
  /-- The loop yields a result. -/
  | result (value : τ)
  /-- The loop is left. -/
  | exit (exit : Exit)

/-- The loop of `_line_converter_wrapper`. -/
structure LineConverter (τ : Type) where
  /-- How many rounds were taken from the reader. -/
  consumed : Nat := 0
  /-- `empty_response_count`. -/
  emptyResponseCount : Nat := 0
  /-- What was yielded. -/
  yielded : List τ := []
  /-- How the loop was left, once it was. -/
  exit : Option Exit := none

namespace Invocations

/-- The body of the loop. -/
def round (invocations : Invocations δ τ) (number emptyResponseCount : Nat) :
    Option (PluginInStream δ) → Round τ
  | none =>
    if invocations.maxTimeout number ≤ emptyResponseCount + 1 then .exit .timeout
    else .goOn (emptyResponseCount + 1)
  | some chunk =>
    match invocations.convert number chunk with
    | .exit exit => .exit exit
    | .result value => .result value

/-- The loop takes one more round, unless it was left. -/
def advance (invocations : Invocations δ τ) (number : Nat) (rounds : Rounds δ)
    (converter : LineConverter τ) : LineConverter τ :=
  match converter.exit with
  | some _ => converter
  | none =>
    match rounds converter.consumed with
    | none => { converter with exit := some .readerClosed }
    | some chunk =>
      let taken := { converter with consumed := converter.consumed + 1 }
      match invocations.round number converter.emptyResponseCount chunk with
      | .goOn emptyResponseCount => { taken with emptyResponseCount }
      | .result value =>
        { taken with emptyResponseCount := 0, yielded := converter.yielded ++ [value] }
      | .exit exit => { taken with exit := some exit }

/-- `_line_converter_wrapper`, as far as it has come when it was asked for so many rounds. -/
def lineConverterWrapper (invocations : Invocations δ τ) (number : Nat) (rounds : Rounds δ) :
    Nat → LineConverter τ
  | 0 => {}
  | count + 1 => invocations.advance number rounds
      (invocations.lineConverterWrapper number rounds count)

/-- The parsed data of a round that brings some. -/
def dataAt (invocations : Invocations δ τ) (number : Nat) (rounds : Rounds δ) (index : Nat) :
    Option τ :=
  match rounds index with
  | some (some chunk) =>
    match invocations.convert number chunk with
    | .result value => some value
    | .exit _ => none
  | _ => none

/-- A round that leaves the loop: there is none, its response does, or it is the last of as many
empty rounds in a row as the timeout allows. -/
inductive EndsAt (invocations : Invocations δ τ) (number : Nat) (rounds : Rounds δ)
    (index : Nat) : Exit → Prop where
  /-- The reader has no more rounds. -/
  | exhausted (last : rounds index = none) : EndsAt invocations number rounds index .readerClosed
  /-- The response ends the invocation. -/
  | response (chunk : PluginInStream δ) (exit : Exit) (brought : rounds index = some (some chunk))
    (ends : invocations.convert number chunk = .exit exit) :
    EndsAt invocations number rounds index exit
  /-- Nothing came for too long. -/
  | timeout (long : invocations.maxTimeout number ≤ index + 1)
    (silent : ∀ other ≤ index, index < other + invocations.maxTimeout number →
      rounds other = some none) :
    EndsAt invocations number rounds index .timeout

/-- The first round that leaves the loop. -/
def FirstEnd (invocations : Invocations δ τ) (number : Nat) (rounds : Rounds δ) (index : Nat)
    (exit : Exit) : Prop :=
  EndsAt invocations number rounds index exit ∧
    ∀ earlier < index, ∀ other, ¬EndsAt invocations number rounds earlier other

section Runs

variable {invocations : Invocations δ τ} {number : Nat} {rounds : Rounds δ}

/-- A response ends an invocation by itself, or because it cannot be parsed. -/
theorem convert_exit {chunk : PluginInStream δ} {exit : Exit}
    (ends : invocations.convert number chunk = .exit exit) :
    exit = .ended ∨ exit = .invalid ∨ ∃ message, exit = .error message := by
  unfold convert at ends
  split at ends
  · simp_all
  · split at ends
    · simp_all
    · simp only [Converted.exit.injEq] at ends
      exact Or.inr (Or.inr ⟨_, ends.symm⟩)
    · simp_all
    · split at ends <;> simp_all

/-- The results of the first rounds. -/
def dataOf (invocations : Invocations δ τ) (number : Nat) (rounds : Rounds δ) (count : Nat) :
    List τ :=
  (List.range count).filterMap (invocations.dataAt number rounds)

/-- One more round adds its result. -/
theorem dataOf_succ (count : Nat) :
    invocations.dataOf number rounds (count + 1) =
      invocations.dataOf number rounds count ++
        (invocations.dataAt number rounds count).toList := by
  rw [dataOf, List.range_succ, List.filterMap_append, dataOf]
  cases found : invocations.dataAt number rounds count <;> simp [found]

/-- The loop goes on after so many rounds: the count is that of the empty rounds at the end, and
it is below the timeout. -/
structure Going (invocations : Invocations δ τ) (number : Nat) (rounds : Rounds δ) (count : Nat)
    (converter : LineConverter τ) : Prop where
  /-- The loop was not left. -/
  running : converter.exit = none
  /-- Every round was taken. -/
  consumed : converter.consumed = count
  /-- The results were yielded. -/
  yielded : converter.yielded = invocations.dataOf number rounds count
  /-- There were as many rounds. -/
  counted : converter.emptyResponseCount ≤ count
  /-- The last rounds were empty. -/
  silent : ∀ index < count, count ≤ index + converter.emptyResponseCount →
    rounds index = some none
  /-- The round before them was not. -/
  broken : ∀ index, index + converter.emptyResponseCount + 1 = count → rounds index ≠ some none
  /-- There are fewer of them than the timeout allows. -/
  short : converter.emptyResponseCount < invocations.maxTimeout number
  /-- No round left the loop. -/
  unended : ∀ index < count, ∀ exit, ¬EndsAt invocations number rounds index exit

/-- The loop was left at a round: nothing was taken after it. -/
structure Ended (invocations : Invocations δ τ) (number : Nat) (rounds : Rounds δ) (index : Nat)
    (exit : Exit) (converter : LineConverter τ) : Prop where
  /-- No earlier round leaves the loop. -/
  first : FirstEnd invocations number rounds index exit
  /-- The loop was left this way. -/
  left : converter.exit = some exit
  /-- The results before were yielded. -/
  yielded : converter.yielded = invocations.dataOf number rounds index
  /-- The round was the last one taken, if there was one. -/
  consumed : converter.consumed = if exit = .readerClosed then index else index + 1

/-- The loop starts without a round. -/
theorem going_zero (positive : 1 ≤ invocations.maxTimeout number) :
    Going invocations number rounds 0 {} where
  running := rfl
  consumed := rfl
  yielded := rfl
  counted := Nat.le_refl 0
  silent := by simp
  broken := by simp
  short := positive
  unended := by simp

variable {count : Nat} {converter : LineConverter τ}

/-- A round that leaves the loop brings no result. -/
theorem dataAt_endsAt (positive : 1 ≤ invocations.maxTimeout number) {index : Nat} {exit : Exit}
    (ends : EndsAt invocations number rounds index exit) :
    invocations.dataAt number rounds index = none := by
  cases ends with
  | exhausted last => simp only [dataAt, last]
  | response chunk exit brought leaves => simp only [dataAt, brought, leaves]
  | timeout long silent =>
    have empty := silent index (Nat.le_refl index) (by omega)
    simp only [dataAt, empty]

/-- One more round does not leave the loop. -/
theorem unended_succ
    (earlier : ∀ index < count, ∀ exit, ¬EndsAt invocations number rounds index exit)
    (now : ∀ exit, ¬EndsAt invocations number rounds count exit) :
    ∀ index < count + 1, ∀ exit, ¬EndsAt invocations number rounds index exit := by
  intro index before exit
  by_cases last : index = count
  · exact last ▸ now exit
  · exact earlier index (by omega) exit

/-- An empty round that comes in time does not leave the loop. -/
theorem Going.not_endsAt (going : Going invocations number rounds count converter)
    (brought : rounds count = some none)
    (short : converter.emptyResponseCount + 1 < invocations.maxTimeout number) (exit : Exit) :
    ¬EndsAt invocations number rounds count exit := by
  intro ends
  cases ends with
  | exhausted none => simp [brought] at none
  | response chunk exit found => simp [brought] at found
  | timeout enough silent =>
    -- The round before the empty ones is within the timeout, and brought something.
    have counted := going.counted
    have broken := going.broken (count - converter.emptyResponseCount - 1) (by omega)
    exact broken (silent _ (by omega) (by omega))

/-- An empty round is counted, or it is the last one in time. -/
theorem advance_empty (going : Going invocations number rounds count converter)
    (brought : rounds count = some none) :
    Going invocations number rounds (count + 1)
        (invocations.advance number rounds converter) ∨
      ∃ exit, Ended invocations number rounds count exit
        (invocations.advance number rounds converter) := by
  rw [advance, going.running, going.consumed, brought]
  have nothing : invocations.dataAt number rounds count = none := by rw [dataAt, brought]
  by_cases long : invocations.maxTimeout number ≤ converter.emptyResponseCount + 1
  · have short := going.short
    have counted := going.counted
    have ends : EndsAt invocations number rounds count .timeout := by
      refine .timeout (by omega) fun other within recent => ?_
      by_cases last : other = count
      · rw [last, brought]
      · exact going.silent other (by omega) (by omega)
    simp only [round, if_pos long]
    exact Or.inr ⟨.timeout, ⟨ends, going.unended⟩, rfl, going.yielded, by simp⟩
  · have short : converter.emptyResponseCount + 1 < invocations.maxTimeout number := by omega
    simp only [round, if_neg long]
    refine Or.inl {
      running := rfl
      consumed := rfl
      yielded := ?_
      counted := Nat.succ_le_succ going.counted
      silent := ?_
      broken := ?_
      short := short
      unended := unended_succ going.unended (going.not_endsAt brought short) }
    · rw [dataOf_succ, nothing, Option.toList_none, List.append_nil]
      exact going.yielded
    · intro index before recent
      by_cases last : index = count
      · rw [last, brought]
      · exact going.silent index (by omega) (by simp only at recent; omega)
    · intro index same
      exact going.broken index (by simp only at same; omega)

/-- A response brings a result, or leaves the loop. -/
theorem advance_response (positive : 1 ≤ invocations.maxTimeout number)
    (going : Going invocations number rounds count converter) {chunk : PluginInStream δ}
    (brought : rounds count = some (some chunk)) :
    Going invocations number rounds (count + 1)
        (invocations.advance number rounds converter) ∨
      ∃ exit, Ended invocations number rounds count exit
        (invocations.advance number rounds converter) := by
  rw [advance, going.running, going.consumed, brought]
  cases made : invocations.convert number chunk with
  | exit exit =>
    have differs : exit ≠ .readerClosed := by
      rcases convert_exit made with rfl | rfl | ⟨message, rfl⟩ <;> nofun
    simp only [round, made]
    exact Or.inr ⟨exit, ⟨.response chunk exit brought made, going.unended⟩, rfl,
      going.yielded, by simp [differs]⟩
  | result value =>
    have found : invocations.dataAt number rounds count = some value := by
      simp only [dataAt, brought, made]
    have unended : ∀ exit, ¬EndsAt invocations number rounds count exit := by
      intro exit ends
      rw [dataAt_endsAt positive ends] at found
      contradiction
    simp only [round, made]
    refine Or.inl {
      running := rfl
      consumed := rfl
      yielded := by rw [dataOf_succ, found, going.yielded]; rfl
      counted := Nat.zero_le _
      silent := by intro index before recent; simp only at recent; omega
      broken := ?_
      short := positive
      unended := unended_succ going.unended unended }
    intro index same
    have last : index = count := by simp only at same; omega
    rw [last, brought]
    nofun

/-- A round in which the loop goes on, or the one that leaves it. -/
theorem advance_going (positive : 1 ≤ invocations.maxTimeout number)
    (going : Going invocations number rounds count converter) :
    Going invocations number rounds (count + 1)
        (invocations.advance number rounds converter) ∨
      ∃ exit, Ended invocations number rounds count exit
        (invocations.advance number rounds converter) := by
  cases brought : rounds count with
  | none =>
    have ends : EndsAt invocations number rounds count .readerClosed := .exhausted brought
    rw [advance, going.running, going.consumed, brought]
    exact Or.inr ⟨.readerClosed, ⟨ends, going.unended⟩, rfl, going.yielded, by simp⟩
  | some item =>
    cases item with
    | none => exact advance_empty going brought
    | some chunk => exact advance_response positive going brought

/-- A loop that was left stays as it is. -/
theorem advance_ended {index : Nat} {exit : Exit}
    (ended : Ended invocations number rounds index exit converter) :
    invocations.advance number rounds converter = converter := by
  rw [advance, ended.left]

/-- The loop goes on after so many rounds, or was left at one of them. -/
theorem lineConverterWrapper_going (positive : 1 ≤ invocations.maxTimeout number) (count : Nat) :
    Going invocations number rounds count
        (invocations.lineConverterWrapper number rounds count) ∨
      ∃ index < count, ∃ exit, Ended invocations number rounds index exit
        (invocations.lineConverterWrapper number rounds count) := by
  induction count with
  | zero => exact Or.inl (going_zero positive)
  | succ count ih =>
    rw [lineConverterWrapper]
    rcases ih with going | ⟨index, before, exit, ended⟩
    · rcases advance_going positive going with further | ⟨exit, ended⟩
      · exact Or.inl further
      · exact Or.inr ⟨count, Nat.lt_succ_self count, exit, ended⟩
    · rw [advance_ended ended]
      exact Or.inr ⟨index, Nat.lt_succ_of_lt before, exit, ended⟩

/-- A round leaves the loop in one way only. -/
theorem endsAt_unique (positive : 1 ≤ invocations.maxTimeout number) {index : Nat}
    {left right : Exit} (first : EndsAt invocations number rounds index left)
    (second : EndsAt invocations number rounds index right) : left = right := by
  have empty : (∀ other ≤ index, index < other + invocations.maxTimeout number →
      rounds other = some none) → rounds index = some none :=
    fun silent => silent index (Nat.le_refl index) (by omega)
  cases first with
  | exhausted last =>
    cases second with
    | exhausted => rfl
    | response chunk exit brought => simp [last] at brought
    | timeout long silent =>
      have nothing := empty silent
      simp [last] at nothing
  | response chunk exit brought leaves =>
    cases second with
    | exhausted last => simp [last] at brought
    | response other exit' present ends =>
      rw [brought] at present
      obtain rfl := Option.some.inj (Option.some.inj present)
      exact Converted.exit.inj (leaves.symm.trans ends)
    | timeout long silent =>
      have nothing := empty silent
      simp [brought] at nothing
  | timeout long silent =>
    have nothing := empty silent
    cases second with
    | exhausted last => simp [last] at nothing
    | response chunk exit brought => simp [brought] at nothing
    | timeout => rfl

/-- The loop is left at one round only. -/
theorem firstEnd_unique (positive : 1 ≤ invocations.maxTimeout number) {first second : Nat}
    {left right : Exit} (one : FirstEnd invocations number rounds first left)
    (other : FirstEnd invocations number rounds second right) :
    first = second ∧ left = right := by
  have same : first = second := by
    rcases Nat.lt_trichotomy first second with before | same | after
    · exact absurd one.1 (other.2 first before left)
    · exact same
    · exact absurd other.1 (one.2 second after right)
  subst same
  exact ⟨rfl, endsAt_unique positive one.1 other.1⟩

/-- No more empty rounds in a row are taken than the timeout allows. -/
theorem lineConverterWrapper_patient (positive : 1 ≤ invocations.maxTimeout number)
    (count start : Nat)
    (silent : ∀ index, start ≤ index →
      index < (invocations.lineConverterWrapper number rounds count).consumed →
        rounds index = some none) :
    (invocations.lineConverterWrapper number rounds count).consumed ≤
      start + invocations.maxTimeout number := by
  by_contra late
  have unended : ∀ index,
      index + 1 < (invocations.lineConverterWrapper number rounds count).consumed →
        ∀ exit, ¬EndsAt invocations number rounds index exit := by
    rcases @lineConverterWrapper_going _ _ _ _ rounds positive count with
      going | ⟨last, _, exit, ended⟩
    · intro index before
      exact going.unended index (by rw [← going.consumed]; omega)
    · intro index before
      have consumed := ended.consumed
      exact ended.first.2 index (by split at consumed <;> omega)
  have ends : EndsAt invocations number rounds
      (start + invocations.maxTimeout number - 1) .timeout := by
    refine .timeout (by omega) fun other within recent => ?_
    exact silent other (by omega) (by omega)
  exact unended _ (by omega) _ ends

end Runs

end Invocations

/-- Whether the converter raises an exception when it ends this way. -/
def Exit.raises : Exit → Bool
  | .error _ | .invalid | .timeout => true
  | _ => false

open Invocations in
/-- The results of the responses are yielded up to the round that leaves the loop, and nothing is
taken after it. That is the first round after which the reader has no more, whose response ends
the invocation or cannot be parsed, or that is the last of too many empty ones in a row. Every
response does what its kind says. -/
theorem lineConverterWrapper_correct (invocations : Invocations δ τ) (number : Nat)
    (rounds : Rounds δ) (positive : 1 ≤ invocations.maxTimeout number) (count : Nat) :
    let converter := invocations.lineConverterWrapper number rounds count
    (∀ chunk, invocations.Converts number chunk (invocations.convert number chunk)) ∧
      converter.yielded =
        (List.range converter.consumed).filterMap (invocations.dataAt number rounds) ∧
      (∀ exit, converter.exit = some exit ↔
        ∃ index < count, FirstEnd invocations number rounds index exit) ∧
      (converter.exit = none → converter.consumed = count) ∧
      (∀ index < count, ∀ exit, FirstEnd invocations number rounds index exit →
        converter.consumed = if exit = .readerClosed then index else index + 1) ∧
      (∀ exit, converter.exit = some exit →
        (exit.raises = false ↔ exit = .readerClosed ∨ exit = .ended)) ∧
      ∀ start, (∀ index, start ≤ index → index < converter.consumed → rounds index = some none) →
        converter.consumed ≤ start + invocations.maxTimeout number := by
  have patient := @lineConverterWrapper_patient _ _ _ _ rounds positive count
  rcases @lineConverterWrapper_going _ _ _ _ rounds positive count with
    going | ⟨last, before, exit, ended⟩
  · refine ⟨invocations.converts_convert number, ?_, ?_, fun _ => going.consumed, ?_, ?_,
      patient⟩
    · rw [going.yielded, going.consumed, dataOf]
    · intro exit
      rw [going.running]
      constructor
      · nofun
      · intro ⟨index, within, first⟩
        exact absurd first.1 (going.unended index within exit)
    · intro index within exit first
      exact absurd first.1 (going.unended index within exit)
    · intro exit left
      rw [going.running] at left
      exact absurd left nofun
  · refine ⟨invocations.converts_convert number, ?_, ?_, ?_, ?_, ?_, patient⟩
    · have nothing := dataAt_endsAt positive ended.first.1
      rw [ended.yielded, ended.consumed]
      split
      · rfl
      · have grown := @dataOf_succ _ _ invocations number rounds last
        rw [nothing] at grown
        simpa [dataOf] using grown.symm
    · intro other
      rw [ended.left]
      constructor
      · intro same
        exact ⟨last, before, Option.some.inj same ▸ ended.first⟩
      · intro ⟨index, _, first⟩
        rw [(firstEnd_unique positive ended.first first).2]
    · intro running
      rw [ended.left] at running
      exact absurd running nofun
    · intro index _ other first
      obtain ⟨same, alike⟩ := firstEnd_unique positive ended.first first
      rw [ended.consumed, same, alike]
    · intro other left
      rw [ended.left] at left
      obtain rfl := Option.some.inj left
      cases ended.first.1 with
      | exhausted => simp [Exit.raises]
      | response chunk exit brought leaves =>
        rcases convert_exit leaves with rfl | rfl | ⟨message, rfl⟩ <;> simp [Exit.raises]
      | timeout => simp [Exit.raises]

/-- The greenlet of an invocation does one round of the loop when its queue stays empty. -/
theorem readEmpty_round (invocations : Invocations δ τ) (sh : Shared δ τ) (number empty : Nat)
    (silent : (sh.filterReader number).queue = []) :
    readEmpty invocations sh number empty =
      match invocations.round number empty none with
      | .goOn emptyResponseCount => some (readNext sh number emptyResponseCount)
      | .exit exit => some (leave sh number exit)
      | .result _ => none := by
  rw [readEmpty, Invocations.round, silent]
  by_cases long : invocations.maxTimeout number ≤ empty + 1 <;> simp [long]

/-- The greenlet of an invocation does one round of the loop with what its queue has. -/
theorem take_round (invocations : Invocations δ τ) (sh : Shared δ τ) (number empty : Nat)
    {chunk : PluginInStream δ} {queue : List (Option (PluginInStream δ))}
    (brought : (sh.filterReader number).queue = some chunk :: queue) :
    (take invocations sh number).map Prod.snd =
      match invocations.round number empty (some chunk) with
      | .goOn emptyResponseCount => some (.waiting emptyResponseCount)
      | .exit exit => some (.finished exit)
      | .result _ => some .yielded := by
  rw [take, Invocations.round, brought]
  cases made : invocations.convert number chunk <;> simp [made, leave]

/-- The rounds of a reader that closes after some. -/
def roundsOf (listed : List (Option (PluginInStream δ))) : Rounds δ := fun index => listed[index]?

/-- A result, silence that is shorter than the timeout, another result, and the end. -/
def patientRounds : Rounds ExampleData :=
  roundsOf [none, some (exampleMessage 1 .response (some 10)), none,
    some (exampleMessage 1 .response (some 20)), some (exampleMessage 1 .finish none),
    some (exampleMessage 1 .response (some 30))]

/-- Both results are yielded, and nothing is taken after the end. -/
theorem lineConverterWrapper_patient_rounds :
    (exampleInvocations.lineConverterWrapper 1 patientRounds 9).yielded = [10, 20] ∧
      (exampleInvocations.lineConverterWrapper 1 patientRounds 9).consumed = 5 := by
  have correct := lineConverterWrapper_correct exampleInvocations 1 patientRounds (by decide) 9
  exact ⟨correct.2.1, rfl⟩

/-- A reader that brings one message which is no response. -/
def unparsableRounds : Rounds ExampleData :=
  roundsOf [some ⟨['s'], .backwardInvocationResponse, .answer 10⟩]

/-- A message that cannot be parsed ends the converter with an exception that is neither the
timeout nor a message of the daemon. -/
theorem lineConverterWrapper_unparsable :
    ¬∀ (rounds : Rounds ExampleData) (count : Nat) (exit : Exit),
      (exampleInvocations.lineConverterWrapper 1 rounds count).exit = some exit →
        exit = .timeout ∨ (∃ message, exit = .error message) ∨ exit.raises = false := by
  intro all
  rcases all unparsableRounds 1 .invalid rfl with same | ⟨message, same⟩ | same
  · exact absurd same nofun
  · exact absurd same nofun
  · exact absurd same (by decide)

end DifyPlugin.Runtime
