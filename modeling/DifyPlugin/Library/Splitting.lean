import Mathlib.Data.List.Basic

/-!
# Splitting a sequence on a delimiter

`cut` finds the first occurrence of a nonempty delimiter and `split` repeats it from left to
right, keeping the unterminated rest apart from the complete pieces. The append law
`split_append` is what a reader relies on that keeps only the rest between two deliveries:
splitting the rest followed by new data continues the split of everything delivered so far.
`Segment` and `Remainder` say where a piece lies in the sequence it was cut from.
-/

namespace DifyPlugin.Splitting

variable {α : Type} [DecidableEq α]

/-- The parts before and after the first occurrence of the delimiter, when it occurs. -/
def cut (delimiter : List α) : List α → Option (List α × List α)
  | [] => none
  | head :: tail =>
    if delimiter.isPrefixOf (head :: tail) then
      some ([], (head :: tail).drop delimiter.length)
    else (cut delimiter tail).map fun (before, after) => (head :: before, after)

/-- The complete pieces and the unterminated rest, with a bound on the number of cuts. -/
def splitWithin (delimiter : List α) : Nat → List α → List (List α) × List α
  | 0, text => ([], text)
  | fuel + 1, text =>
    match cut delimiter text with
    | none => ([], text)
    | some (before, after) =>
      let (pieces, rest) := splitWithin delimiter fuel after
      (before :: pieces, rest)

/-- Every piece that a delimiter ends, in order, and the rest after the last delimiter. -/
def split (delimiter text : List α) : List (List α) × List α :=
  splitWithin delimiter text.length text

/-- All pieces of the text, the unterminated one last, as `str.split` lists them. -/
def pieces (delimiter text : List α) : List (List α) :=
  (split delimiter text).1 ++ [(split delimiter text).2]

/-- Cutting finds a decomposition of the text around the delimiter. -/
theorem cut_eq {delimiter text before after : List α}
    (found : cut delimiter text = some (before, after)) :
    text = before ++ delimiter ++ after := by
  induction text generalizing before with
  | nil => simp [cut] at found
  | cons head tail ih =>
    rw [cut] at found
    split at found
    · rename_i starts
      obtain ⟨rest, same⟩ := List.isPrefixOf_iff_prefix.mp starts
      simp only [Option.some.injEq, Prod.mk.injEq] at found
      obtain ⟨rfl, rfl⟩ := found
      simp [← same]
    · simp only [Option.map_eq_some_iff, Prod.mk.injEq, Prod.exists] at found
      obtain ⟨inner, after', cutTail, rfl, rfl⟩ := found
      simp [ih cutTail]

/-- Cutting fails only when the delimiter does not occur. -/
theorem not_infix_of_cut {delimiter text : List α} (nonempty : delimiter ≠ [])
    (absent : cut delimiter text = none) : ¬ delimiter <:+: text := by
  induction text with
  | nil =>
    intro occurs
    exact nonempty (List.infix_nil.mp occurs)
  | cons head tail ih =>
    rw [cut] at absent
    split at absent
    · exact absurd absent (by simp)
    · rename_i elsewhere
      intro occurs
      rcases List.infix_cons_iff.mp occurs with starts | later
      · exact elsewhere (List.isPrefixOf_iff_prefix.mpr starts)
      · exact ih (Option.map_eq_none_iff.mp absent) later

/-- A delimiter that does not occur cannot be found. -/
theorem cut_none_of_not_infix {delimiter text : List α} (absent : ¬ delimiter <:+: text) :
    cut delimiter text = none := by
  cases found : cut delimiter text with
  | none => rfl
  | some parts => exact absurd ⟨parts.1, parts.2, (cut_eq found).symm⟩ absent

/-- What follows a nonempty delimiter is shorter than the text. -/
theorem cut_shorter {delimiter text before after : List α} (nonempty : delimiter ≠ [])
    (found : cut delimiter text = some (before, after)) : after.length < text.length := by
  have positive := List.length_pos_iff.mpr nonempty
  rw [cut_eq found]
  simp only [List.length_append]
  omega

/-- A delimiter that was found stays the first one when more data follows. -/
theorem cut_append {delimiter text before after : List α} (more : List α)
    (found : cut delimiter text = some (before, after)) :
    cut delimiter (text ++ more) = some (before, after ++ more) := by
  induction text generalizing before with
  | nil => simp [cut] at found
  | cons head tail ih =>
    rw [cut] at found
    rw [List.cons_append, cut]
    split at found
    · rename_i starts
      have present := List.isPrefixOf_iff_prefix.mp starts
      have longer : delimiter <+: head :: (tail ++ more) :=
        present.trans (List.prefix_append (head :: tail) more)
      rw [if_pos (List.isPrefixOf_iff_prefix.mpr longer)]
      simp only [Option.some.injEq, Prod.mk.injEq] at found ⊢
      obtain ⟨rfl, rfl⟩ := found
      exact ⟨rfl, by rw [← List.cons_append, List.drop_append_of_le_length present.length_le]⟩
    · rename_i absent
      simp only [Option.map_eq_some_iff, Prod.mk.injEq, Prod.exists] at found
      obtain ⟨inner, after', cutTail, rfl, rfl⟩ := found
      -- The delimiter fits inside the tail, so new data cannot complete it at the head.
      have fits : delimiter.length ≤ (head :: tail).length := by
        rw [cut_eq cutTail]
        simp only [List.length_cons, List.length_append]
        omega
      have still : ¬ delimiter <+: head :: (tail ++ more) := by
        intro starts
        exact absent (List.isPrefixOf_iff_prefix.mpr
          (List.prefix_of_prefix_length_le starts
            (List.prefix_append (head :: tail) more) fits))
      rw [if_neg (fun starts => still (List.isPrefixOf_iff_prefix.mp starts)), ih cutTail]
      rfl

/-- No delimiter occurs in the part before the first one. -/
theorem cut_before {delimiter text before after : List α} (nonempty : delimiter ≠ [])
    (found : cut delimiter text = some (before, after)) : cut delimiter before = none := by
  cases inner : cut delimiter before with
  | none => rfl
  | some parts =>
    have earlier := cut_append (delimiter ++ after) inner
    rw [← List.append_assoc, ← cut_eq found, found] at earlier
    have shorter := cut_shorter nonempty inner
    have same := congrArg (fun parts : List α × List α => parts.1.length)
      (Option.some.inj earlier)
    have whole := congrArg List.length (cut_eq inner)
    have positive := List.length_pos_iff.mpr nonempty
    simp only [List.length_append] at same whole
    omega

/-- Enough fuel for the length of the text gives its split. -/
theorem splitWithin_enough {delimiter : List α} (nonempty : delimiter ≠ []) (fuel : Nat)
    (text : List α) (enough : text.length ≤ fuel) :
    splitWithin delimiter fuel text = split delimiter text := by
  suffices agree : ∀ (left right : Nat) (text : List α), text.length ≤ left →
      text.length ≤ right → splitWithin delimiter left text = splitWithin delimiter right text from
    agree fuel text.length text enough (Nat.le_refl _)
  intro left
  induction left with
  | zero =>
    intro right text empty _
    obtain rfl := List.eq_nil_of_length_eq_zero (Nat.le_zero.mp empty)
    cases right <;> simp [splitWithin, cut]
  | succ left ih =>
    intro right text fitsLeft fitsRight
    cases found : cut delimiter text with
    | none => cases right <;> simp [splitWithin, found]
    | some parts =>
      have shorter := cut_shorter nonempty found
      cases right with
      | zero => omega
      | succ right =>
        simp only [splitWithin, found]
        rw [ih right parts.2 (by omega) (by omega)]

/-- A text without the delimiter is one unterminated piece. -/
theorem split_none {delimiter text : List α} (absent : cut delimiter text = none) :
    split delimiter text = ([], text) := by
  cases text with
  | nil => rfl
  | cons head tail => simp [split, splitWithin, absent]

/-- The first delimiter ends the first piece; the text after it is split on its own. -/
theorem split_some {delimiter text before after : List α} (nonempty : delimiter ≠ [])
    (found : cut delimiter text = some (before, after)) :
    split delimiter text =
      (before :: (split delimiter after).1, (split delimiter after).2) := by
  have shorter := cut_shorter nonempty found
  cases text with
  | nil => simp [cut] at found
  | cons head tail =>
    simp only [List.length_cons] at shorter
    simp only [split, List.length_cons, splitWithin, found]
    rw [splitWithin_enough nonempty _ _ (by omega)]
    rfl

/-- Induction along the cuts of a text. -/
theorem split_induction {delimiter : List α} (nonempty : delimiter ≠ [])
    {motive : List α → Prop} (last : ∀ text, cut delimiter text = none → motive text)
    (next : ∀ text before after, cut delimiter text = some (before, after) →
      motive after → motive text) (text : List α) : motive text := by
  induction size : text.length using Nat.strongRecOn generalizing text with
  | ind size ih =>
    cases found : cut delimiter text with
    | none => exact last text found
    | some parts =>
      have shorter := cut_shorter nonempty found
      exact next text parts.1 parts.2 found (ih _ (by omega) parts.2 rfl)

/-- Splitting a longer text first splits the shorter one, then continues with its rest. -/
theorem split_append {delimiter : List α} (nonempty : delimiter ≠ []) (text more : List α) :
    split delimiter (text ++ more) =
      ((split delimiter text).1 ++ (split delimiter ((split delimiter text).2 ++ more)).1,
        (split delimiter ((split delimiter text).2 ++ more)).2) := by
  induction text using split_induction nonempty with
  | last text absent => simp [split_none absent]
  | next text before after found ih =>
    rw [split_some nonempty (cut_append more found), ih, split_some nonempty found]
    simp

/-- The pieces of a longer text: the complete ones of the shorter text, then those that start
with its rest. -/
theorem pieces_append {delimiter : List α} (nonempty : delimiter ≠ []) (text more : List α) :
    pieces delimiter (text ++ more) =
      (split delimiter text).1 ++ pieces delimiter ((split delimiter text).2 ++ more) := by
  simp only [pieces, split_append nonempty text more, List.append_assoc]

/-- The first piece ends at the first delimiter. -/
theorem pieces_head {delimiter : List α} (nonempty : delimiter ≠ []) (text : List α) :
    (pieces delimiter text).headD [] = ((cut delimiter text).map Prod.fst).getD text := by
  cases found : cut delimiter text with
  | none => simp [pieces, split_none found]
  | some parts => simp [pieces, split_some nonempty found]

/-- The prefix of a sequence that ends at a delimiter, or at its start. -/
def Boundary (delimiter before : List α) : Prop := before = [] ∨ delimiter <:+ before

/-- A complete delimited piece of the sequence, starting at its first element or directly
after a delimiter. -/
def Segment (delimiter stream piece : List α) : Prop :=
  ∃ before after, stream = before ++ piece ++ delimiter ++ after ∧
    Boundary delimiter before ∧ cut delimiter piece = none

/-- What the sequence holds after its last complete piece. -/
def Remainder (delimiter stream rest : List α) : Prop :=
  ∃ before, stream = before ++ rest ∧ Boundary delimiter before ∧ cut delimiter rest = none

/-- A piece keeps its place when the sequence grows. -/
theorem Segment.append {delimiter stream piece : List α} (more : List α)
    (placed : Segment delimiter stream piece) : Segment delimiter (stream ++ more) piece := by
  obtain ⟨before, after, rfl, start, clean⟩ := placed
  exact ⟨before, after ++ more, by simp, start, clean⟩

/-- Nothing is left over at the start of a sequence. -/
theorem Remainder.empty (delimiter : List α) : Remainder delimiter [] [] :=
  ⟨[], rfl, Or.inl rfl, rfl⟩

/-- Splitting from a boundary places every piece, and the rest stays a remainder. -/
theorem split_placed {delimiter : List α} (nonempty : delimiter ≠ []) (text before : List α)
    (start : Boundary delimiter before) :
    (∀ piece ∈ (split delimiter text).1, Segment delimiter (before ++ text) piece) ∧
      Remainder delimiter (before ++ text) (split delimiter text).2 := by
  induction text using split_induction nonempty generalizing before with
  | last text absent =>
    rw [split_none absent]
    exact ⟨by simp, before, rfl, start, absent⟩
  | next text piece after found ih =>
    have joined : before ++ text = before ++ piece ++ delimiter ++ after := by
      simp [cut_eq found]
    have next := ih (before ++ piece ++ delimiter) (Or.inr (List.suffix_append _ _))
    rw [split_some nonempty found, joined]
    refine ⟨?_, next.2⟩
    intro candidate listed
    rcases List.mem_cons.mp listed with rfl | later
    · exact ⟨before, after, rfl, start, cut_before nonempty found⟩
    · exact next.1 candidate later

/-- New data after a remainder yields placed pieces and the next remainder. -/
theorem Remainder.split {delimiter stream rest : List α} (nonempty : delimiter ≠ [])
    (left : Remainder delimiter stream rest) (data : List α) :
    (∀ piece ∈ (split delimiter (rest ++ data)).1, Segment delimiter (stream ++ data) piece) ∧
      Remainder delimiter (stream ++ data) (split delimiter (rest ++ data)).2 := by
  obtain ⟨before, rfl, start, -⟩ := left
  simpa using split_placed nonempty (rest ++ data) before start

/-- A delimiter is found behind a piece that does not hold its first element. -/
theorem cut_clean {mark : α} {piece : List α} (clean : mark ∉ piece) (later rest : List α) :
    cut (mark :: later) (piece ++ mark :: later ++ rest) = some (piece, rest) := by
  induction piece with
  | nil => simp [cut]
  | cons head tail ih =>
    have other : mark ≠ head := List.ne_of_not_mem_cons clean
    have cleanTail : mark ∉ tail := List.not_mem_of_not_mem_cons clean
    have elsewhere : ¬ List.isPrefixOf (mark :: later)
        (head :: (tail ++ mark :: later ++ rest)) = true := by
      simp [List.isPrefixOf, other]
    rw [List.cons_append, List.cons_append, cut, if_neg elsewhere, ih cleanTail]
    rfl

/-- Pieces that do not hold the first element of the delimiter are what their joint text is
split into when the delimiter ends each of them. -/
theorem split_terminated {mark : α} {later : List α} {lines : List (List α)}
    (clean : ∀ line ∈ lines, mark ∉ line) :
    split (mark :: later) (lines.map (· ++ mark :: later)).flatten = (lines, []) := by
  induction lines with
  | nil => rfl
  | cons line rest ih =>
    obtain ⟨cleanLine, cleanRest⟩ := List.forall_mem_cons.mp clean
    rw [List.map_cons, List.flatten_cons,
      split_some (List.cons_ne_nil mark later) (cut_clean cleanLine later _), ih cleanRest]

/-- Pieces that do not hold the delimiter are what their text is split into when the delimiter
stands between them. -/
theorem pieces_separated {mark : α} {lines : List (List α)} {last : List α}
    (clean : ∀ line ∈ lines, mark ∉ line) (cleanLast : mark ∉ last) :
    pieces [mark] ((lines.map (· ++ [mark])).flatten ++ last) = lines ++ [last] := by
  have absent : cut [mark] last = none :=
    cut_none_of_not_infix fun occurs => cleanLast (occurs.subset List.mem_cons_self)
  rw [pieces_append (List.cons_ne_nil mark []), split_terminated clean, List.nil_append, pieces,
    split_none absent, List.nil_append]

end DifyPlugin.Splitting
