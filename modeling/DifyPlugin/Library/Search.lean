import Mathlib.Data.List.Infix

/-!
# Searching a sequence

`find` is the position of the first occurrence of a pattern in a sequence. The empty pattern
occurs at every position, the end included. A loop that assigns to a variable leaves in it what
the last item gives that it assigns from.
-/

namespace DifyPlugin.Search

variable {α : Type} [DecidableEq α]

/-- The position of the first occurrence. -/
def find (pattern : List α) : List α → Option Nat
  | [] => if pattern.isEmpty then some 0 else none
  | head :: tail =>
    if pattern.isPrefixOf (head :: tail) then some 0 else (find pattern tail).map (· + 1)

omit [DecidableEq α] in
/-- The pattern stands at this position of the sequence. -/
def OccursAt (pattern sequence : List α) (position : Nat) : Prop :=
  position ≤ sequence.length ∧ pattern <+: sequence.drop position

omit [DecidableEq α] in
/-- A pattern that starts a sequence occurs in front. -/
theorem occursAt_zero {pattern sequence : List α} :
    OccursAt pattern sequence 0 ↔ pattern <+: sequence :=
  ⟨fun occurs => occurs.2, fun starts => ⟨Nat.zero_le _, starts⟩⟩

omit [DecidableEq α] in
/-- Behind the first element, positions count from the second one. -/
theorem occursAt_succ {pattern tail : List α} {head : α} {position : Nat} :
    OccursAt pattern (head :: tail) (position + 1) ↔ OccursAt pattern tail position := by
  rw [OccursAt, OccursAt, List.length_cons, List.drop_succ_cons, Nat.add_le_add_iff_right]

omit [DecidableEq α] in
/-- A pattern occurs in a sequence when it does so somewhere. -/
theorem infix_iff_occursAt {pattern sequence : List α} :
    pattern <:+: sequence ↔ ∃ position, OccursAt pattern sequence position := by
  constructor
  · rintro ⟨before, after, rfl⟩
    refine ⟨before.length, ?_, ?_⟩
    · rw [List.length_append, List.length_append]
      omega
    · rw [List.append_assoc, List.drop_left]
      exact List.prefix_append pattern after
  · rintro ⟨position, -, starts⟩
    exact starts.isInfix.trans (List.drop_suffix position sequence).isInfix

omit [DecidableEq α] in
/-- What occurs in a start of a sequence occurs in the sequence, at the same position. -/
theorem occursAt_of_start {pattern start sequence : List α} {position : Nat}
    (starts : start <+: sequence) (occurs : OccursAt pattern start position) :
    OccursAt pattern sequence position := by
  obtain ⟨rest, rfl⟩ := starts
  refine ⟨occurs.1.trans (List.prefix_append start rest).length_le, ?_⟩
  rw [List.drop_append_of_le_length occurs.1]
  exact occurs.2.trans (List.prefix_append _ rest)

/-- What is found is an occurrence, and none is before it. -/
theorem find_first {pattern sequence : List α} {first : Nat}
    (found : find pattern sequence = some first) :
    OccursAt pattern sequence first ∧
      ∀ position, OccursAt pattern sequence position → first ≤ position := by
  induction sequence generalizing first with
  | nil =>
    rw [find] at found
    split at found
    · rename_i empty
      obtain rfl := Option.some.inj found
      rw [List.isEmpty_iff.mp empty]
      exact ⟨occursAt_zero.mpr List.nil_prefix, fun position _ => Nat.zero_le position⟩
    · exact absurd found (by simp)
  | cons head tail ih =>
    rw [find] at found
    split at found
    · rename_i starts
      obtain rfl := Option.some.inj found
      exact ⟨occursAt_zero.mpr (List.isPrefixOf_iff_prefix.mp starts),
        fun position _ => Nat.zero_le position⟩
    · rename_i later
      obtain ⟨next, foundNext, rfl⟩ := Option.map_eq_some_iff.mp found
      obtain ⟨occurs, least⟩ := ih foundNext
      refine ⟨occursAt_succ.mpr occurs, fun position other => ?_⟩
      cases position with
      | zero => exact absurd (List.isPrefixOf_iff_prefix.mpr (occursAt_zero.mp other)) later
      | succ position => exact Nat.succ_le_succ (least position (occursAt_succ.mp other))

/-- Where nothing is found, the pattern does not occur. -/
theorem find_none {pattern sequence : List α} (absent : find pattern sequence = none)
    (position : Nat) : ¬ OccursAt pattern sequence position := by
  induction sequence generalizing position with
  | nil =>
    rw [find] at absent
    split at absent
    · exact absurd absent (by simp)
    · rename_i visible
      intro occurs
      rw [OccursAt, List.drop_nil] at occurs
      exact visible (List.isEmpty_iff.mpr (List.prefix_nil.mp occurs.2))
  | cons head tail ih =>
    rw [find] at absent
    split at absent
    · exact absurd absent (by simp)
    · rename_i later
      intro occurs
      cases position with
      | zero => exact later (List.isPrefixOf_iff_prefix.mpr (occursAt_zero.mp occurs))
      | succ position =>
        exact ih (Option.map_eq_none_iff.mp absent) position (occursAt_succ.mp occurs)

omit [DecidableEq α] in
/-- A loop that assigns from the items that pass a test ends with the last of them. -/
theorem foldl_assign {β : Type} (test : α → Bool) (value : α → β) (start : β) (items : List α) :
    items.foldl (fun assigned item => if test item then value item else assigned) start =
      ((items.filter test).getLast?.map value).getD start := by
  induction items generalizing start with
  | nil => rfl
  | cons item rest ih =>
    rw [List.foldl_cons, ih]
    by_cases passes : test item = true
    · rw [if_pos passes, List.filter_cons_of_pos passes, List.getLast?_cons]
      cases (rest.filter test).getLast? with
      | none => rfl
      | some last => rfl
    · rw [if_neg passes, List.filter_cons_of_neg passes]

end DifyPlugin.Search
