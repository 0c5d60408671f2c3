import DifyPlugin.Interfaces.Model.CodeBlock

/-!
# What the code-block filters let through

Both processors hold backticks back until they know whether a fence follows: a text without a
fence comes out as it was, and of a fenced block the body does.
-/

namespace DifyPlugin.CodeBlock

open Transducer

/-- The run of backticks that opens and closes a block. -/
def fence : Text := List.replicate codeFenceBacktickCount backtick

/-- A text without a fence whose last character is not a backtick. -/
def Unfenced (text : Text) : Prop := ¬fence <:+: text ∧ text.getLast? ≠ some backtick

section Held

variable {σ : Type} {step : σ → Char → σ × Text} {held : Nat → σ}

/-- Less than a fence of backticks may be held back. -/
theorem few_of_unfenced {count : Nat} {text : Text}
    (unfenced : ¬fence <:+: List.replicate count backtick ++ text) :
    count < codeFenceBacktickCount := by
  by_contra many
  refine unfenced ?_
  have whole : fence <+: List.replicate count backtick :=
    List.prefix_replicate_iff.mpr ⟨by simp [fence]; omega, by simp [fence]⟩
  exact (whole.trans (List.prefix_append _ text)).isInfix

/-- A machine that holds backticks back, and restores them before the next character, puts out
an unfenced text as it is. -/
theorem run_held
    (counts : ∀ count, count + 1 < codeFenceBacktickCount →
      step (held count) backtick = (held (count + 1), []))
    (restores : ∀ count, count < codeFenceBacktickCount → ∀ char, char ≠ backtick →
      step (held count) char = (held 0, List.replicate count backtick ++ [char]))
    (count : Nat) (text : Text) (unfenced : Unfenced (List.replicate count backtick ++ text)) :
    run step (held count) text = (held 0, List.replicate count backtick ++ text) := by
  induction text generalizing count with
  | nil =>
    cases count with
    | zero => rfl
    | succ count =>
      refine absurd ?_ unfenced.2
      rw [List.append_nil, List.replicate_succ', List.getLast?_concat]
  | cons char rest ih =>
    have few := few_of_unfenced unfenced.1
    by_cases other : char = backtick
    · subst other
      have more : List.replicate count backtick ++ backtick :: rest =
          List.replicate (count + 1) backtick ++ rest := by
        rw [List.replicate_succ', List.append_assoc, List.singleton_append]
      rw [more] at unfenced ⊢
      simp only [run, counts count (few_of_unfenced unfenced.1), ih (count + 1) unfenced,
        List.nil_append]
    · have later : Unfenced (List.replicate 0 backtick ++ rest) := by
        constructor
        · exact fun inside => unfenced.1 (inside.trans
            ((List.suffix_cons char rest).trans (List.suffix_append _ _)).isInfix)
        · intro last
          refine unfenced.2 ?_
          rw [List.replicate_zero, List.nil_append] at last
          have shown : (char :: rest).getLast? = some backtick := by
            rw [List.getLast?_cons, last]
            rfl
          rw [List.getLast?_append, shown]
          rfl
      simp only [run, restores count few char other, ih 0 later, List.replicate_zero,
        List.nil_append, List.append_assoc, List.singleton_append]

end Held

/-- The state of the first processor with some backticks held back. -/
def normalHeld : Nat → NormalState × Nat
  | 0 => (.normal, 0)
  | count + 1 => (.inBackticks, count + 1)

/-- The first processor puts out an unfenced text as it is. -/
theorem run_normalStep {text : Text} (unfenced : Unfenced text) :
    run normalStep (.normal, 0) text = ((.normal, 0), text) := by
  refine @run_held _ normalStep normalHeld ?_ ?_ 0 text unfenced
  · intro count few
    cases count with
    | zero => rfl
    | succ count =>
      have more : count + 1 + 1 ≠ codeFenceBacktickCount := by omega
      simp [normalHeld, normalStep, more]
  · intro count few char other
    cases count with
    | zero => simp [normalHeld, normalStep, other]
    | succ count => simp [normalHeld, normalStep, other]

/-- Inside a block the second processor puts out an unfenced text as it is. -/
theorem run_blockStep_body {text : Text} (unfenced : Unfenced text) :
    run blockStep (.inCodeBlock, 0) text = ((.inCodeBlock, 0), text) := by
  refine @run_held _ blockStep (fun count => (.inCodeBlock, count)) ?_ ?_ 0 text unfenced
  · intro count few
    have more : count + 1 ≠ codeFenceBacktickCount := by omega
    simp [blockStep, more]
  · intro count few char other
    simp [blockStep, other]

/-- The language after the opening fence is skipped. -/
theorem run_blockStep_language {language : Text} (oneLine : '\n' ∉ language)
    (backtickCount : Nat) :
    run blockStep (.skipLanguage, backtickCount) language =
      ((.skipLanguage, backtickCount), []) := by
  induction language with
  | nil => rfl
  | cons char rest ih =>
    have differs : char ≠ '\n' := fun same => oneLine (same ▸ List.mem_cons_self)
    have later : '\n' ∉ rest := fun found => oneLine (List.mem_cons_of_mem char found)
    simp [run, blockStep, differs, ih later]

/-- The second processor puts out the body of the block. -/
theorem run_blockStep_block {language body : Text} (oneLine : '\n' ∉ language)
    (unfenced : Unfenced body) (trailing : Text) :
    (run blockStep (.searchStart, 0)
      (fence ++ language ++ ['\n'] ++ body ++ fence ++ trailing)).2 = body := by
  have opened : run blockStep (.searchStart, 0) fence = ((.skipLanguage, 0), []) := by decide
  have entered : run blockStep (.skipLanguage, 0) ['\n'] = ((.inCodeBlock, 0), []) := by decide
  have closed : run blockStep (.inCodeBlock, 0) fence = ((.done, 3), []) := by decide
  simp only [run_append, opened, run_blockStep_language oneLine, entered,
    run_blockStep_body unfenced, closed, run_done, List.nil_append, List.append_nil]

variable {ε : Type}

/-- A stream without a fence keeps its text, and of a stream that is a fenced block the text of
the block remains, however they are cut into chunks. -/
theorem codeBlock_extracts (model : Text) (input : Generated LLMResultChunk ε) :
    (Unfenced (contents input.yielded) →
      contents (codeBlockModeStreamProcessor model input).yielded = contents input.yielded) ∧
    ∀ language body trailing : Text, '\n' ∉ language → Unfenced body →
      contents input.yielded = fence ++ language ++ ['\n'] ++ body ++ fence ++ trailing →
      contents (codeBlockModeStreamProcessorWithBacktick model input).yielded = body := by
  constructor
  · intro unfenced
    rw [contents_codeBlockModeStreamProcessor, run_normalStep unfenced]
  · intro language body trailing oneLine unfenced shape
    rw [contents_codeBlockModeStreamProcessorWithBacktick, shape,
      run_blockStep_block oneLine unfenced]

/-- A text with a double backtick, by itself and in a block, cut between the backticks. -/
theorem codeBlock_extracts_backticks :
    contents (codeBlockModeStreamProcessor [] (⟨[textChunk "a`", textChunk "`b"], none⟩ :
        Generated _ Empty)).yielded = "a``b".toList ∧
      contents (codeBlockModeStreamProcessorWithBacktick [] (⟨[textChunk "``",
        textChunk "`js`\na`", textChunk "`b``", textChunk "`d"], none⟩ :
          Generated _ Empty)).yielded = "a``b".toList := by
  have unfenced : Unfenced "a``b".toList :=
    ⟨fun inside => absurd (inside.sublist.count_le backtick) (by decide), by decide⟩
  constructor
  · exact (codeBlock_extracts [] ⟨[textChunk "a`", textChunk "`b"], none⟩).1 unfenced
  · exact (codeBlock_extracts [] _).2 "js`".toList "a``b".toList "d".toList (by decide) unfenced
      (by decide)

end DifyPlugin.CodeBlock
