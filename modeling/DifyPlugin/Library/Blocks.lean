import Mathlib.Data.List.Basic
import Mathlib.Data.List.Forall2
import Mathlib.Data.List.Induction

/-!
# Blocks of a sequence that was cut

A sequence has a start and then one block for each item. When it is cut somewhere, `Reaches` says
which items it has come to: all blocks but the last one are complete, and there is some of the
last one. What is ordered in the sequence is ordered among the items.
-/

namespace DifyPlugin.Blocks

variable {α β : Type}

/-- The part of a sequence ends in its start, or in the block of the last of the items. -/
inductive Reaches (start : List β) (block : α → List β) : List α → List β → Prop where
  /-- It ends in the start. -/
  | start {part : List β} (within : part <+: start) : Reaches start block [] part
  /-- It has some of the last block, and all of those before. -/
  | block {items : List α} {item : α} {some : List β} (visible : some ≠ [])
    (begun : some <+: block item) :
    Reaches start block (items ++ [item]) (start ++ items.flatMap block ++ some)

variable {start part : List β} {block : α → List β} {items : List α}

/-- A part of a sequence of blocks that are not empty reaches the first ones of its items. -/
theorem reaches_of_isPrefix (visible : ∀ item ∈ items, block item ≠ [])
    (within : part <+: start ++ items.flatMap block) :
    ∃ reached, reached <+: items ∧ Reaches start block reached part := by
  induction items using List.reverseRecOn with
  | nil => exact ⟨[], List.prefix_refl _, .start (by simpa using within)⟩
  | append_singleton items item ih =>
    have earlier : ∀ other ∈ items, block other ≠ [] :=
      fun other listed => visible other (List.mem_append_left _ listed)
    by_cases before : part <+: start ++ items.flatMap block
    · obtain ⟨reached, first, reaches⟩ := ih earlier before
      exact ⟨reached, first.trans (List.prefix_append _ _), reaches⟩
    · have whole : start ++ items.flatMap block <+: start ++ (items ++ [item]).flatMap block := by
        rw [List.flatMap_append, ← List.append_assoc]
        exact List.prefix_append _ _
      obtain ⟨some, rfl⟩ :=
        (List.prefix_or_prefix_of_prefix within whole).resolve_left before
      refine ⟨items ++ [item], List.prefix_refl _, .block ?_ ?_⟩
      · rintro rfl
        exact before (by simp)
      · rw [List.flatMap_append, List.flatMap_singleton, ← List.append_assoc] at within
        exact (List.prefix_append_right_inj _).mp within

/-- The blocks before the last one are complete, and the last one is not passed. -/
theorem Reaches.complete (reaches : Reaches start block items part) :
    part <+: start ++ items.flatMap block ∧
      (items ≠ [] → start ++ items.dropLast.flatMap block <+: part) := by
  cases reaches with
  | start within => exact ⟨by simpa using within, fun some => absurd rfl some⟩
  | block visible begun =>
    constructor
    · rw [List.flatMap_append, List.flatMap_singleton, ← List.append_assoc]
      exact (List.prefix_append_right_inj _).mpr begun
    · intro _
      rw [List.dropLast_concat]
      exact List.prefix_append _ _

/-- An element of each block of a list, in the order of the items. -/
theorem exists_heads (items : List α) (visible : ∀ item ∈ items, block item ≠ []) :
    ∃ heads, heads.Sublist (items.flatMap block) ∧
      List.Forall₂ (fun item head => head ∈ block item) items heads := by
  induction items with
  | nil => exact ⟨[], List.nil_sublist _, .nil⟩
  | cons item items ih =>
    obtain ⟨first, others⟩ := List.forall_mem_cons.mp visible
    obtain ⟨heads, sub, each⟩ := ih others
    obtain ⟨head, rest, same⟩ := List.exists_cons_of_ne_nil first
    refine ⟨head :: heads, ?_, .cons (by simp [same]) each⟩
    rw [List.flatMap_cons, same, List.cons_append]
    exact (sub.trans (List.sublist_append_right rest _)).cons_cons head

/-- Every item has its element. -/
theorem paired {heads : List β}
    (each : List.Forall₂ (fun item head => head ∈ block item) items heads) {item : α}
    (listed : item ∈ items) : ∃ head ∈ heads, head ∈ block item := by
  induction each with
  | nil => exact absurd listed List.not_mem_nil
  | @cons first head items heads inside _ ih =>
    rcases List.mem_cons.mp listed with rfl | later
    · exact ⟨head, List.mem_cons_self, inside⟩
    · obtain ⟨other, found, member⟩ := ih later
      exact ⟨other, List.mem_cons_of_mem _ found, member⟩

/-- The part has an element of the block of each item, in order. -/
theorem Reaches.heads (reaches : Reaches start block items part)
    (visible : ∀ item ∈ items, block item ≠ []) :
    ∃ heads, heads.Sublist part ∧
      List.Forall₂ (fun item head => head ∈ block item) items heads := by
  cases reaches with
  | start within => exact ⟨[], List.nil_sublist _, .nil⟩
  | @block items item some loud begun =>
    obtain ⟨heads, sub, each⟩ := @exists_heads α β block items
      fun other listed => visible other (List.mem_append_left _ listed)
    obtain ⟨head, rest, same⟩ := List.exists_cons_of_ne_nil loud
    refine ⟨heads ++ [head], ?_, ?_⟩
    · have last : [head].Sublist some := by
        rw [same]
        exact (List.nil_sublist rest).cons_cons head
      exact (sub.trans (List.sublist_append_right start _)).append last
    · have inside : head ∈ block item := begun.subset (by simp [same])
      exact List.rel_append each (.cons inside .nil)

/-- The part has an element of the block of every item. -/
theorem Reaches.begun (reaches : Reaches start block items part)
    (visible : ∀ item ∈ items, block item ≠ []) {item : α} (listed : item ∈ items) :
    ∃ head ∈ block item, head ∈ part := by
  obtain ⟨heads, sub, each⟩ := reaches.heads visible
  obtain ⟨head, found, inside⟩ := paired each listed
  exact ⟨head, inside, sub.subset found⟩

/-- What is ordered in the part is ordered among the items. -/
theorem Reaches.pairwise {relation : β → β → Prop} (reaches : Reaches start block items part)
    (visible : ∀ item ∈ items, block item ≠ []) (ordered : part.Pairwise relation) :
    items.Pairwise fun earlier later =>
      ∃ left ∈ block earlier, ∃ right ∈ block later, relation left right := by
  obtain ⟨heads, sub, each⟩ := reaches.heads visible
  have sorted := ordered.sublist sub
  clear sub reaches visible
  induction each with
  | nil => exact .nil
  | @cons item head items heads inside each ih =>
    obtain ⟨first, rest⟩ := List.pairwise_cons.mp sorted
    refine List.pairwise_cons.mpr ⟨?_, ih rest⟩
    intro other listed
    obtain ⟨right, found, member⟩ := paired each listed
    exact ⟨head, inside, right, member, first right found⟩

end DifyPlugin.Blocks
