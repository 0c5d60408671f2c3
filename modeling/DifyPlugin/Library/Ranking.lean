import Mathlib.Order.Lattice
import Mathlib.Data.List.Basic

/-!
# Stable sorting by a key

`rank` lists items by descending key and keeps the order of items with the same key. Sortedness
and the order within each key determine the list, so sorting commutes with filtering, and the
items whose key reaches a bound are the first ones.
-/

namespace DifyPlugin.Ranking

variable {α κ : Type} [LinearOrder κ] (key : α → κ)

/-- `sorted(items, key=key, reverse=True)`. -/
def rank (items : List α) : List α :=
  items.mergeSort fun left right => decide (key right ≤ key left)

/-- The keys do not rise. -/
def Descending (items : List α) : Prop :=
  items.Pairwise fun left right => key right ≤ key left

/-- Both lists have the items of each key in the same order. -/
def SameTies (items others : List α) : Prop :=
  ∀ value, items.filter (fun item => key item = value) =
    others.filter fun item => key item = value

/-- The test of the sort is transitive. -/
theorem above_trans (first second third : α) (later : decide (key second ≤ key first) = true)
    (earlier : decide (key third ≤ key second) = true) :
    decide (key third ≤ key first) = true := by
  simp only [decide_eq_true_eq] at later earlier ⊢
  exact le_trans earlier later

/-- The test of the sort compares any two items. -/
theorem above_total (left right : α) :
    (decide (key right ≤ key left) || decide (key left ≤ key right)) = true := by
  simp only [Bool.or_eq_true, decide_eq_true_eq]
  exact le_total (key right) (key left)

/-- Ranked items are sorted. -/
theorem rank_descending (items : List α) : Descending key (rank key items) := by
  have sorted := List.pairwise_mergeSort (above_trans key) (above_total key) items
  exact sorted.imp fun ordered => of_decide_eq_true ordered

/-- Ranking lists every item as often as before. -/
theorem rank_perm (items : List α) : (rank key items).Perm items := List.mergeSort_perm _ _

/-- Ranking keeps the order of the items with one key. -/
theorem rank_sameTies (items : List α) : SameTies key (rank key items) items := by
  intro value
  have equal : (items.filter fun item => key item = value).Pairwise
      fun left right => decide (key right ≤ key left) := by
    apply List.Pairwise.imp_of_mem (R := fun _ _ => True)
    · intro left right leftListed rightListed _
      have leftKey := of_decide_eq_true (List.mem_filter.mp leftListed).2
      have rightKey := of_decide_eq_true (List.mem_filter.mp rightListed).2
      simp only [decide_eq_true_eq]
      exact le_of_eq (rightKey.trans leftKey.symm)
    · exact List.pairwise_of_forall fun _ _ => trivial
  have kept := List.sublist_mergeSort (above_trans key) (above_total key) equal
    List.filter_sublist
  have inside := kept.filter fun item => key item = value
  rw [List.filter_filter] at inside
  simp only [Bool.and_self] at inside
  have length := ((rank_perm key items).filter fun item => key item = value).length_eq
  exact (inside.eq_of_length length.symm).symm

variable {key}

/-- An item is in both lists or in none. -/
theorem SameTies.mem_iff {items others : List α} (same : SameTies key items others) {item : α} :
    item ∈ items ↔ item ∈ others := by
  have fiber := same (key item)
  have left : item ∈ items ↔ item ∈ items.filter fun other => key other = key item := by simp
  have right : item ∈ others ↔ item ∈ others.filter fun other => key other = key item := by simp
  rw [left, right, fiber]

/-- Sorted lists with the same items of each key are the same. -/
theorem Descending.unique {items others : List α} (sorted : Descending key items)
    (sortedOthers : Descending key others) (same : SameTies key items others) :
    items = others := by
  induction items generalizing others with
  | nil =>
    have empty : ∀ item, item ∉ others := fun item found => by
      simpa using same.mem_iff.mpr found
    exact (List.eq_nil_iff_forall_not_mem.mpr empty).symm
  | cons item rest ih =>
    cases others with
    | nil => exact absurd (same.mem_iff.mp List.mem_cons_self) List.not_mem_nil
    | cons other later =>
      obtain ⟨top, sortedRest⟩ := List.pairwise_cons.mp sorted
      obtain ⟨topOther, sortedLater⟩ := List.pairwise_cons.mp sortedOthers
      have above : key other ≤ key item := by
        rcases List.mem_cons.mp (same.mem_iff.mpr List.mem_cons_self) with rfl | found
        · exact le_refl _
        · exact top other found
      have below : key item ≤ key other := by
        rcases List.mem_cons.mp (same.mem_iff.mp List.mem_cons_self) with rfl | found
        · exact le_refl _
        · exact topOther item found
      have keys : key other = key item := le_antisymm above below
      have first := same (key item)
      simp only [List.filter_cons, keys, decide_true, if_true] at first
      obtain ⟨rfl, -⟩ := List.cons.inj first
      have ties : SameTies key rest later := by
        intro value
        have fiber := same value
        simp only [List.filter_cons] at fiber
        split at fiber
        · exact (List.cons.inj fiber).2
        · exact fiber
      rw [ih sortedRest sortedLater ties]

/-- Sorting what passes a test is testing what is sorted. -/
theorem rank_filter (test : α → Bool) (items : List α) :
    rank key (items.filter test) = (rank key items).filter test := by
  apply (rank_descending key _).unique ((rank_descending key items).filter test)
  intro value
  rw [rank_sameTies key (items.filter test) value, List.filter_filter, List.filter_filter]
  simp only [Bool.and_comm (decide _)]
  rw [← List.filter_filter, ← List.filter_filter, rank_sameTies key items value]

/-- The items that reach a bound are the first of a sorted list. -/
theorem Descending.filter_first {items : List α} (sorted : Descending key items) (bound : κ) :
    items.filter (fun item => bound ≤ key item) <+: items := by
  induction items with
  | nil => exact List.prefix_rfl
  | cons item rest ih =>
    obtain ⟨top, sortedRest⟩ := List.pairwise_cons.mp sorted
    by_cases reaches : bound ≤ key item
    · rw [List.filter_cons_of_pos (by simpa using reaches)]
      exact (List.cons_prefix_cons).mpr ⟨rfl, ih sortedRest⟩
    · have none : rest.filter (fun item => bound ≤ key item) = [] := by
        apply List.filter_eq_nil_iff.mpr
        intro other found
        have below := top other found
        simpa using lt_of_le_of_lt below (not_le.mp reaches)
      rw [List.filter_cons_of_neg (by simpa using reaches), none]
      exact List.nil_prefix

end DifyPlugin.Ranking
