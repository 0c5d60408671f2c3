import Mathlib.Data.List.Forall2
import Mathlib.Data.List.Induction

/-!
# Loops whose rounds may fail

A loop that collects the results of its rounds has them all, in order, or it fails as soon as a
round does.
-/

namespace DifyPlugin.Fallible

variable {α β ε : Type}

/-- A collecting loop succeeds with the results of its rounds. -/
theorem mapM_eq_some {round : α → Option β} {items : List α} {results : List β} :
    items.mapM round = some results ↔ items.map round = results.map some := by
  induction items generalizing results with
  | nil =>
    cases results with
    | nil => simp
    | cons result rest => simp
  | cons item rest ih =>
    rw [List.mapM_cons]
    cases made : round item with
    | none =>
      cases results with
      | nil => simp
      | cons result others => simp [made]
    | some result =>
      cases collected : rest.mapM round with
      | none =>
        constructor
        · intro same
          simp at same
        · intro same
          cases results with
          | nil => simp at same
          | cons first others =>
            have tail := ih.mpr (List.cons.inj same).2
            rw [collected] at tail
            exact absurd tail nofun
      | some others =>
        have tail := ih.mp collected
        cases results with
        | nil => simp
        | cons first remaining =>
          simp only [Option.bind_eq_bind, Option.bind_some, Option.pure_def,
            Option.some.injEq, List.cons.injEq, List.map_cons, made, tail]
          rw [List.map_inj_right fun _ _ => Option.some.inj]

/-- Two collecting loops in order succeed when the two rounds of every item do. -/
theorem mapM_bind_mapM {γ : Type} {write : α → Option β} {read : β → Option γ} {value : α → γ}
    {items : List α} (each : ∀ item ∈ items, (write item).bind read = some (value item)) :
    ((items.mapM write).bind fun written => written.mapM read) = some (items.map value) := by
  induction items with
  | nil => rfl
  | cons item rest ih =>
    obtain ⟨head, tail⟩ := List.forall_mem_cons.mp each
    obtain ⟨written, made, seen⟩ := Option.bind_eq_some_iff.mp head
    obtain ⟨others, collected, remaining⟩ := Option.bind_eq_some_iff.mp (ih tail)
    simp [List.mapM_cons, made, seen, collected, remaining]

/-- A loop does not fail when every round keeps what holds of the items so far and the state. -/
theorem foldlM_keeps {σ : Type} {round : σ → α → Option σ} {R : List α → σ → Prop}
    {items : List α} {start : σ}
    (keeps : ∀ done item later state, items = done ++ item :: later → R done state →
      ∃ next, round state item = some next ∧ R (done ++ [item]) next)
    (begins : R [] start) :
    ∃ final, items.foldlM round start = some final ∧ R items final := by
  induction items using List.reverseRecOn with
  | nil => exact ⟨start, rfl, begins⟩
  | append_singleton before last ih =>
    obtain ⟨state, ran, holds⟩ := ih fun done item later state shape =>
      keeps done item (later ++ [last]) state (by rw [shape]; simp)
    obtain ⟨final, ended, holdsFinal⟩ := keeps before last [] state rfl holds
    refine ⟨final, ?_, holdsFinal⟩
    rw [List.foldlM_append, ran, Option.bind_eq_bind, Option.bind_some, List.foldlM_cons, ended]
    rfl

/-- Two fallible steps succeed when the first does and the second does with its result. -/
theorem bind_eq_ok {first : Except ε α} {second : α → Except ε β} {result : β} :
    first >>= second = .ok result ↔ ∃ value, first = .ok value ∧ second value = .ok result := by
  cases first with
  | error error => simp [bind, Except.bind]
  | ok value => simp [bind, Except.bind]

/-- A check before another step has to pass. -/
theorem andThen_eq_ok {check : Except ε Unit} {next : Except ε β} {result : β} :
    (check >>= fun _ => next) = .ok result ↔ check = .ok () ∧ next = .ok result := by
  rw [bind_eq_ok]
  constructor
  · intro ⟨passed, checked, made⟩
    exact ⟨checked, made⟩
  · intro ⟨checked, made⟩
    exact ⟨(), checked, made⟩

/-- Two steps fail when the first does, or the second after a check that passes. -/
theorem andThen_eq_error {check : Except ε Unit} {next : Except ε β} {error : ε} :
    (check >>= fun _ => next) = .error error ↔
      check = .error error ∨ (check = .ok () ∧ next = .error error) := by
  cases check with
  | error failed => simp [bind, Except.bind]
  | ok passed => simp [bind, Except.bind]

/-- A step that fails is the last one. -/
theorem bind_of_error {first : Except ε α} {error : ε} (failed : first = .error error)
    (second : α → Except ε β) : first >>= second = .error error := by
  rw [failed]
  rfl

/-- A collecting loop succeeds with one result for each item, in order. -/
theorem mapM_eq_ok {round : α → Except ε β} {items : List α} {results : List β} :
    items.mapM round = .ok results ↔
      List.Forall₂ (fun item result => round item = .ok result) items results := by
  induction items generalizing results with
  | nil =>
    rw [List.mapM_nil, List.forall₂_nil_left_iff]
    exact ⟨fun same => (Except.ok.inj same).symm, fun empty => empty ▸ rfl⟩
  | cons item rest ih =>
    rw [List.mapM_cons, bind_eq_ok, List.forall₂_cons_left_iff]
    constructor
    · intro ⟨result, made, collected⟩
      obtain ⟨others, made', same⟩ := bind_eq_ok.mp collected
      exact ⟨result, others, made, ih.mp made', (Except.ok.inj same).symm⟩
    · intro ⟨result, others, made, collected, same⟩
      exact ⟨result, made, bind_eq_ok.mpr ⟨others, ih.mpr collected, same ▸ rfl⟩⟩

end DifyPlugin.Fallible
