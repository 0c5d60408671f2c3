import DifyPlugin.Library.Search
import DifyPlugin.Library.Str
import Mathlib.Order.Basic

/-!
# Splitting text for speech

`TTSModel._split_text_into_sentences` cuts a text into pieces of a bounded length. It looks for
the ends of sentences in a window that is as long as a piece may be, and takes everything when
the window reaches the end of the text.
-/

namespace DifyPlugin.TtsModel

/-- A compiled pattern. -/
structure SentenceEnd where
  /-- The spans of `finditer(text, pos, endpos)`. -/
  finditer : Text → Nat → Nat → List (Nat × Nat)
  /-- A match is inside of the window. -/
  inside : ∀ text pos endpos, ∀ span ∈ finditer text pos endpos,
    pos ≤ span.1 ∧ span.1 ≤ span.2 ∧ span.2 ≤ endpos

/-- Why there is no result. -/
inductive SplitError where
  /-- `ValueError("max_length must be greater than 0")`. -/
  | maxLength
  /-- The rounds that the loop was given are used up. -/
  | exhausted
  deriving DecidableEq

/-- The end of the window. -/
def windowEnd (orgText : Text) (maxLength start : Nat) : Nat :=
  min (start + maxLength) orgText.length

/-- The end of the last match that ends behind the start, or else of the window. -/
def lastEnd (start windowEnd : Nat) (spans : List (Nat × Nat)) : Nat :=
  spans.foldl (fun splitAt span => if start < span.2 then span.2 else splitAt) windowEnd

/-- Where the piece from `start` on ends. -/
def splitAt (sentenceEnd : SentenceEnd) (orgText : Text) (maxLength start : Nat) : Nat :=
  if windowEnd orgText maxLength start < orgText.length then
    lastEnd start (windowEnd orgText maxLength start)
      (sentenceEnd.finditer orgText start (windowEnd orgText maxLength start))
  else windowEnd orgText maxLength start

/-- The loop, with a bound on its rounds. -/
def splitFrom (sentenceEnd : SentenceEnd) (orgText : Text) (maxLength : Nat) :
    Nat → Nat → Except SplitError (List Text)
  | 0, _ => .error .exhausted
  | rounds + 1, start =>
    if start < orgText.length then do
      let stop := splitAt sentenceEnd orgText maxLength start
      let later ← splitFrom sentenceEnd orgText maxLength rounds stop
      .ok ((orgText.drop start).take (stop - start) :: later)
    else .ok []

/-- `TTSModel._split_text_into_sentences`. -/
def splitTextIntoSentences (sentenceEnd : SentenceEnd) (orgText : Text) (maxLength : ℤ) :
    Except SplitError (List Text) :=
  if maxLength ≤ 0 then .error .maxLength
  else splitFrom sentenceEnd orgText maxLength.toNat (orgText.length + 1) 0

/-- The ends of the matches in the window that lie behind the start of the piece, as found. -/
def matchEnds (sentenceEnd : SentenceEnd) (orgText : Text) (maxLength start : Nat) : List Nat :=
  ((sentenceEnd.finditer orgText start (windowEnd orgText maxLength start)).map Prod.snd).filter
    fun stop => start < stop

/-- The piece ends where the last match ends, or is as long as it may be without one. -/
structure Ended (sentenceEnd : SentenceEnd) (orgText : Text) (maxLength start : Nat)
    (piece : Text) : Prop where
  /-- There is a match. -/
  atMatch : ∀ stop, (matchEnds sentenceEnd orgText maxLength start).getLast? = some stop →
    start + piece.length = stop
  /-- There is none. -/
  full : matchEnds sentenceEnd orgText maxLength start = [] → piece.length = maxLength

/-- The last match that ends behind the start decides. -/
theorem lastEnd_eq (start windowEnd : Nat) (spans : List (Nat × Nat)) :
    lastEnd start windowEnd spans =
      ((spans.map Prod.snd).filter fun stop => start < stop).getLast?.getD windowEnd := by
  have assigned := Search.foldl_assign (fun span : Nat × Nat => decide (start < span.2)) Prod.snd
    windowEnd spans
  simp only [decide_eq_true_eq] at assigned
  rw [lastEnd, assigned, List.filter_map, List.getLast?_map]
  rfl

section Pieces

variable (sentenceEnd : SentenceEnd) (orgText : Text) {maxLength : Nat} (positive : 0 < maxLength)
include positive

/-- A piece ends behind its start, in its window. -/
theorem splitAt_bounds {start : Nat} (inside : start < orgText.length) :
    start < splitAt sentenceEnd orgText maxLength start ∧
      splitAt sentenceEnd orgText maxLength start ≤ windowEnd orgText maxLength start := by
  have window : start < windowEnd orgText maxLength start := by
    rw [windowEnd]
    omega
  rw [splitAt]
  split
  · rw [lastEnd_eq]
    cases last : (((sentenceEnd.finditer orgText start
        (windowEnd orgText maxLength start)).map Prod.snd).filter
          fun stop => start < stop).getLast? with
    | none => exact ⟨window, Nat.le_refl _⟩
    | some stop =>
      obtain ⟨listed, behind⟩ := List.mem_filter.mp (List.mem_of_getLast? last)
      obtain ⟨span, found, rfl⟩ := List.mem_map.mp listed
      have within := sentenceEnd.inside _ _ _ span found
      exact ⟨of_decide_eq_true behind, within.2.2⟩
  · exact ⟨window, Nat.le_refl _⟩

/-- A piece that is not the last ends where a match says. -/
theorem splitAt_ended {start : Nat} (inside : start < orgText.length)
    (more : splitAt sentenceEnd orgText maxLength start < orgText.length) :
    Ended sentenceEnd orgText maxLength start
      ((orgText.drop start).take (splitAt sentenceEnd orgText maxLength start - start)) := by
  have bounds := splitAt_bounds sentenceEnd orgText positive inside
  have length : ((orgText.drop start).take
      (splitAt sentenceEnd orgText maxLength start - start)).length =
        splitAt sentenceEnd orgText maxLength start - start := by
    rw [List.length_take, List.length_drop]
    omega
  have window : windowEnd orgText maxLength start < orgText.length := by
    by_contra whole
    rw [splitAt, if_neg whole] at more
    exact whole more
  have stop : splitAt sentenceEnd orgText maxLength start =
      (matchEnds sentenceEnd orgText maxLength start).getLast?.getD
        (windowEnd orgText maxLength start) := by
    rw [splitAt, if_pos window, lastEnd_eq, matchEnds]
  constructor
  · intro last found
    rw [found, Option.getD_some] at stop
    omega
  · intro none
    rw [none, List.getLast?_nil, Option.getD_none] at stop
    rw [windowEnd] at window stop
    omega

/-- With a round for each character that is left and one more, the loop cuts the rest. -/
theorem splitFrom_spec (rounds start : Nat) (enough : orgText.length - start < rounds) :
    ∃ pieces, splitFrom sentenceEnd orgText maxLength rounds start = .ok pieces ∧
      pieces.flatten = orgText.drop start ∧
      (∀ piece ∈ pieces, piece ≠ [] ∧ piece.length ≤ maxLength) ∧
      ∀ before piece after, pieces = before ++ piece :: after → after ≠ [] →
        Ended sentenceEnd orgText maxLength (start + before.flatten.length) piece := by
  induction rounds generalizing start with
  | zero => exact absurd enough (Nat.not_lt_zero _)
  | succ rounds ih =>
    rw [splitFrom]
    by_cases inside : start < orgText.length
    · have bounds := splitAt_bounds sentenceEnd orgText positive inside
      have window : windowEnd orgText maxLength start ≤ start + maxLength :=
        Nat.min_le_left _ _
      have within : windowEnd orgText maxLength start ≤ orgText.length := Nat.min_le_right _ _
      obtain ⟨later, cut, joined, bounded, ended⟩ :=
        ih (splitAt sentenceEnd orgText maxLength start) (by omega)
      have length : ((orgText.drop start).take
          (splitAt sentenceEnd orgText maxLength start - start)).length =
            splitAt sentenceEnd orgText maxLength start - start := by
        rw [List.length_take, List.length_drop]
        omega
      refine ⟨(orgText.drop start).take (splitAt sentenceEnd orgText maxLength start - start) ::
        later, ?_, ?_, ?_, ?_⟩
      · rw [if_pos inside]
        simp only [cut]
        rfl
      · have place : start + (splitAt sentenceEnd orgText maxLength start - start) =
            splitAt sentenceEnd orgText maxLength start := by omega
        rw [List.flatten_cons, joined]
        conv_rhs => rw [← List.take_append_drop
          (splitAt sentenceEnd orgText maxLength start - start) (orgText.drop start)]
        rw [List.drop_drop, place]
      · intro piece listed
        rcases List.mem_cons.mp listed with rfl | found
        · refine ⟨fun empty => ?_, by omega⟩
          rw [empty, List.length_nil] at length
          omega
        · exact bounded piece found
      · intro before piece after shape more
        cases before with
        | nil =>
          obtain ⟨rfl, rfl⟩ := List.cons.inj shape
          apply splitAt_ended sentenceEnd orgText positive inside
          by_contra whole
          have rest : later.flatten = [] := by
            rw [joined, List.drop_eq_nil_iff]
            omega
          obtain ⟨piece, others, same⟩ := List.exists_cons_of_ne_nil more
          have blank := List.flatten_eq_nil_iff.mp rest piece (same ▸ List.mem_cons_self)
          exact (bounded piece (same ▸ List.mem_cons_self)).1 blank
        | cons first before =>
          obtain ⟨same, rest⟩ := List.cons.inj shape
          subst same
          have here := ended before piece after rest more
          have place : start + (((orgText.drop start).take
              (splitAt sentenceEnd orgText maxLength start - start)) :: before).flatten.length =
                splitAt sentenceEnd orgText maxLength start + before.flatten.length := by
            rw [List.flatten_cons, List.length_append, length]
            omega
          rw [place]
          exact here
    · refine ⟨[], if_neg inside, ?_, List.forall_mem_nil _, ?_⟩
      · exact (List.drop_eq_nil_of_le (Nat.le_of_not_lt inside)).symm
      · intro before piece after shape
        exact absurd shape (by simp)

end Pieces

/-- The split ends, and its pieces are not empty, not too long, and joined are the text; each of
them but the last ends at a match, or is as long as it may be without one. -/
theorem splitTextIntoSentences_lossless (sentenceEnd : SentenceEnd) (orgText : Text)
    {maxLength : ℤ} (positive : 1 ≤ maxLength) :
    ∃ pieces, splitTextIntoSentences sentenceEnd orgText maxLength = .ok pieces ∧
      pieces.flatten = orgText ∧
      (∀ piece ∈ pieces, piece ≠ [] ∧ (piece.length : ℤ) ≤ maxLength) ∧
      ∀ before piece after, pieces = before ++ piece :: after → after ≠ [] →
        Ended sentenceEnd orgText maxLength.toNat before.flatten.length piece := by
  have room : 0 < maxLength.toNat := by omega
  obtain ⟨pieces, cut, joined, bounded, ended⟩ :=
    splitFrom_spec sentenceEnd orgText room (orgText.length + 1) 0 (by omega)
  refine ⟨pieces, ?_, joined, fun piece listed => ?_, fun before piece after shape more => ?_⟩
  · rw [splitTextIntoSentences, if_neg (by omega), cut]
  · obtain ⟨visible, short⟩ := bounded piece listed
    exact ⟨visible, by omega⟩
  · have here := ended before piece after shape more
    rwa [Nat.zero_add] at here

/-- A pattern that ends a sentence at every full stop. -/
def fullStops : SentenceEnd where
  finditer text pos endpos :=
    (List.range' pos (endpos - pos)).filterMap fun place =>
      if text[place]? = some '.' then some (place, place + 1) else none
  inside := by
    intro text pos endpos span found
    obtain ⟨place, listed, made⟩ := List.mem_filterMap.mp found
    have bounds := List.mem_range'_1.mp listed
    split at made
    · obtain rfl := Option.some.inj made
      exact ⟨bounds.1, Nat.le_succ _, by omega⟩
    · exact absurd made (by simp)

/-- A text of two sentences in pieces of four characters: the first ends at the second full stop,
and the next is as long as it may be. -/
theorem splitTextIntoSentences_lossless_four :
    splitTextIntoSentences fullStops "a.b. cdefg".toList 4 =
        .ok ["a.b.".toList, " cde".toList, "fg".toList] ∧
      ["a.b.".toList, " cde".toList, "fg".toList].flatten = "a.b. cdefg".toList ∧
      Ended fullStops "a.b. cdefg".toList 4 0 "a.b.".toList ∧
      Ended fullStops "a.b. cdefg".toList 4 4 " cde".toList := by
  have positive : (1 : ℤ) ≤ 4 := by decide
  obtain ⟨pieces, cut, joined, -, ended⟩ :=
    splitTextIntoSentences_lossless fullStops "a.b. cdefg".toList positive
  have pieced : splitTextIntoSentences fullStops "a.b. cdefg".toList 4 =
      .ok ["a.b.".toList, " cde".toList, "fg".toList] := by decide
  obtain rfl := Except.ok.inj (pieced.symm.trans cut)
  exact ⟨cut, joined, ended [] _ _ rfl (by simp), ended ["a.b.".toList] _ _ rfl (by simp)⟩

end DifyPlugin.TtsModel
