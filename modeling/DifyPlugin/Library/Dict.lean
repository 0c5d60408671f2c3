import Mathlib.Data.List.Nodup

/-!
# Dictionaries in insertion order

A dictionary lists its entries in the order in which their keys were set first, and no key
twice. Setting a present key keeps its place and replaces its value, so a dictionary that is
built from pairs has the last value of each key; it has all pairs exactly when their keys differ.
-/

namespace DifyPlugin

variable {κ α : Type} [DecidableEq κ]

/-- A Python `dict`. -/
structure Dict (κ α : Type) where
  /-- The items. -/
  entries : List (κ × α)
  /-- No key is listed twice. -/
  nodup : (entries.map Prod.fst).Nodup

namespace Dict

/-- The items after `dict[key] = value`. -/
def setEntry (key : κ) (value : α) : List (κ × α) → List (κ × α)
  | [] => [(key, value)]
  | (listed, old) :: rest =>
    if listed = key then (key, value) :: rest else (listed, old) :: setEntry key value rest

/-- Setting an entry keeps the keys, and puts a new one last. -/
theorem map_fst_setEntry (key : κ) (value : α) (entries : List (κ × α)) :
    (setEntry key value entries).map Prod.fst =
      if key ∈ entries.map Prod.fst then entries.map Prod.fst
      else entries.map Prod.fst ++ [key] := by
  induction entries with
  | nil => rfl
  | cons head rest ih =>
    obtain ⟨listed, old⟩ := head
    by_cases same : listed = key
    · simp [setEntry, same]
    · by_cases present : key ∈ rest.map Prod.fst
      · have later : key ∈ listed :: rest.map Prod.fst := List.mem_cons_of_mem _ present
        simp only [setEntry, if_neg same, List.map_cons, ih, if_pos present, if_pos later]
      · have absent : key ∉ listed :: rest.map Prod.fst := by
          intro found
          rcases List.mem_cons.mp found with rfl | found
          · exact same rfl
          · exact present found
        simp only [setEntry, if_neg same, List.map_cons, ih, if_neg present, if_neg absent,
          List.cons_append]

/-- A new key is put last. -/
theorem setEntry_new {key : κ} {entries : List (κ × α)} (absent : key ∉ entries.map Prod.fst)
    (value : α) : setEntry key value entries = entries ++ [(key, value)] := by
  induction entries with
  | nil => rfl
  | cons head rest ih =>
    obtain ⟨listed, old⟩ := head
    have different : listed ≠ key := fun same => absent (by simp [same])
    have later : key ∉ rest.map Prod.fst := fun found => absent (List.mem_cons_of_mem _ found)
    simp [setEntry, different, ih later]

omit [DecidableEq κ] in
/-- A dictionary is known by its items. -/
theorem eq_of_entries {left right : Dict κ α} (same : left.entries = right.entries) :
    left = right := by
  cases left
  cases right
  cases same
  rfl

/-- `{}`. -/
def empty : Dict κ α := ⟨[], List.nodup_nil⟩

/-- `dict.get(key)`. -/
def get (dict : Dict κ α) (key : κ) : Option α := dict.entries.lookup key

/-- `dict[key] = value`. -/
def set (dict : Dict κ α) (key : κ) (value : α) : Dict κ α where
  entries := setEntry key value dict.entries
  nodup := by
    rw [map_fst_setEntry]
    split
    · exact dict.nodup
    · rename_i absent
      exact List.nodup_append.mpr ⟨dict.nodup, List.nodup_singleton key, by
        rintro listed found _ last rfl
        rw [List.mem_singleton.mp last] at found
        exact absent found⟩

/-- Setting a key leaves the values of other keys alone. -/
theorem get_set_of_ne (dict : Dict κ α) {key other : κ} (different : other ≠ key) (value : α) :
    (dict.set key value).get other = dict.get other := by
  have entries (pairs : List (κ × α)) :
      (setEntry key value pairs).lookup other = pairs.lookup other := by
    have unequal : (other == key) = false := beq_eq_false_iff_ne.mpr different
    induction pairs with
    | nil => simp only [setEntry, List.lookup_cons, unequal, List.lookup_nil]
    | cons head rest ih =>
      obtain ⟨listed, old⟩ := head
      by_cases same : listed = key
      · rw [setEntry, if_pos same, List.lookup_cons, List.lookup_cons, same, unequal]
      · simp only [setEntry, if_neg same, List.lookup_cons, ih]
  exact entries dict.entries

/-- A key that is set has its value. -/
theorem get_set_self (dict : Dict κ α) (key : κ) (value : α) :
    (dict.set key value).get key = some value := by
  have entries (pairs : List (κ × α)) : (setEntry key value pairs).lookup key = some value := by
    induction pairs with
    | nil => simp only [setEntry, List.lookup_cons, beq_self_eq_true]
    | cons head rest ih =>
      obtain ⟨listed, old⟩ := head
      by_cases same : listed = key
      · rw [setEntry, if_pos same, List.lookup_cons, beq_self_eq_true]
      · have unequal : (key == listed) = false := beq_eq_false_iff_ne.mpr (Ne.symm same)
        simp only [setEntry, if_neg same, List.lookup_cons, unequal, ih]
  exact entries dict.entries

/-- Setting a key to the value it has changes nothing. -/
theorem set_get {dict : Dict κ α} {key : κ} {value : α} (has : dict.get key = some value) :
    dict.set key value = dict := by
  have entries (pairs : List (κ × α)) (found : pairs.lookup key = some value) :
      setEntry key value pairs = pairs := by
    induction pairs with
    | nil => exact absurd found (by simp)
    | cons head rest ih =>
      obtain ⟨listed, old⟩ := head
      by_cases same : listed = key
      · subst same
        rw [List.lookup_cons, beq_self_eq_true] at found
        rw [setEntry, if_pos rfl, Option.some.inj found]
      · have unequal : (key == listed) = false := beq_eq_false_iff_ne.mpr (Ne.symm same)
        rw [List.lookup_cons, unequal] at found
        rw [setEntry, if_neg same, ih found]
  cases dict with
  | mk pairs nodup =>
    have same := entries pairs has
    simp only [set, same]

/-- `dict.pop(key, None)`. -/
def pop (dict : Dict κ α) (key : κ) : Dict κ α where
  entries := dict.entries.filter fun entry => entry.1 ≠ key
  nodup := dict.nodup.sublist (List.filter_sublist.map Prod.fst)

/-- `dict.values()`. -/
def values (dict : Dict κ α) : List α := dict.entries.map Prod.snd

/-- A dictionary has the values of its entries. -/
theorem get_eq_some {dict : Dict κ α} {key : κ} {value : α} :
    dict.get key = some value ↔ (key, value) ∈ dict.entries := by
  obtain ⟨entries, different⟩ := dict
  show entries.lookup key = some value ↔ (key, value) ∈ entries
  induction entries with
  | nil => simp
  | cons head rest ih =>
    obtain ⟨listed, first⟩ := head
    rw [List.map_cons, List.nodup_cons] at different
    obtain ⟨absent, others⟩ := different
    by_cases same : key = listed
    · subst same
      have once : (key, value) ∉ rest := by
        intro found
        have key : key ∈ rest.map Prod.fst := List.mem_map.mpr ⟨_, found, rfl⟩
        exact absent key
      simp [once, eq_comm]
    · have unequal : (key == listed) = false := beq_eq_false_iff_ne.mpr same
      simp only [List.lookup_cons, unequal, ih others, List.mem_cons, Prod.mk.injEq, same,
        false_and, false_or]

/-- Dictionaries with the same keys in the same order and the same values are the same. -/
theorem eq_of_get {left right : Dict κ α}
    (keys : left.entries.map Prod.fst = right.entries.map Prod.fst)
    (values : ∀ key, left.get key = right.get key) : left = right := by
  apply eq_of_entries
  have lengths : left.entries.length = right.entries.length := by
    simpa using congrArg List.length keys
  apply List.ext_getElem lengths
  intro position inLeft inRight
  have key : left.entries[position].1 = right.entries[position].1 := by
    have same := congrArg (·[position]?) keys
    simpa [List.getElem?_map, List.getElem?_eq_getElem inLeft,
      List.getElem?_eq_getElem inRight] using same
  have first : left.get left.entries[position].1 = some left.entries[position].2 :=
    get_eq_some.mpr (List.getElem_mem inLeft)
  have second : right.get right.entries[position].1 = some right.entries[position].2 :=
    get_eq_some.mpr (List.getElem_mem inRight)
  rw [values, key, second] at first
  exact Prod.ext key (Option.some.inj first).symm

/-- A key that is taken out is gone. -/
theorem get_pop_self (dict : Dict κ α) (key : κ) : (dict.pop key).get key = none := by
  apply Option.eq_none_iff_forall_ne_some.mpr
  intro value found
  have member : (key, value) ∈ dict.entries.filter fun entry => entry.1 ≠ key :=
    get_eq_some.mp found
  simp at member

/-- The other keys stay. -/
theorem get_pop_of_ne (dict : Dict κ α) {key other : κ} (different : other ≠ key) :
    (dict.pop key).get other = dict.get other := by
  apply Option.ext
  intro value
  rw [get_eq_some, get_eq_some]
  show (other, value) ∈ dict.entries.filter (fun entry => entry.1 ≠ key) ↔ _
  simp [different]

/-- Set the pairs one after another. -/
def update (dict : Dict κ α) (pairs : List (κ × α)) : Dict κ α :=
  pairs.foldl (fun dict pair => dict.set pair.1 pair.2) dict

/-- `dict(pairs)`. -/
def ofPairs (pairs : List (κ × α)) : Dict κ α := empty.update pairs

/-- A key of no pair keeps its value. -/
theorem get_update_of_not_mem {pairs : List (κ × α)} {key : κ}
    (absent : key ∉ pairs.map Prod.fst) (dict : Dict κ α) :
    (dict.update pairs).get key = dict.get key := by
  induction pairs generalizing dict with
  | nil => rfl
  | cons pair rest ih =>
    have different : key ≠ pair.1 := fun same => absent (by simp [same])
    have later : key ∉ rest.map Prod.fst := fun listed => absent (List.mem_cons_of_mem _ listed)
    exact (ih later (dict.set pair.1 pair.2)).trans (get_set_of_ne dict different pair.2)

/-- A key of some pair has the value of such a pair. -/
theorem get_update_of_mem {pairs : List (κ × α)} {key : κ} (listed : key ∈ pairs.map Prod.fst)
    (dict : Dict κ α) :
    ∃ value, (key, value) ∈ pairs ∧ (dict.update pairs).get key = some value := by
  induction pairs generalizing dict with
  | nil => exact absurd listed List.not_mem_nil
  | cons pair rest ih =>
    obtain ⟨name, value⟩ := pair
    by_cases later : key ∈ rest.map Prod.fst
    · obtain ⟨last, found, given⟩ := ih later (dict.set name value)
      exact ⟨last, List.mem_cons_of_mem _ found, given⟩
    · obtain rfl := (List.mem_cons.mp listed).resolve_right later
      exact ⟨value, List.mem_cons_self,
        (get_update_of_not_mem later (dict.set key value)).trans (get_set_self dict key value)⟩

/-- Pairs with new and different keys are put last, in order. -/
theorem update_entries {pairs : List (κ × α)} (dict : Dict κ α)
    (fresh : (dict.entries.map Prod.fst ++ pairs.map Prod.fst).Nodup) :
    (dict.update pairs).entries = dict.entries ++ pairs := by
  induction pairs generalizing dict with
  | nil => simp [update]
  | cons pair rest ih =>
    obtain ⟨key, value⟩ := pair
    have absent : key ∉ dict.entries.map Prod.fst := by
      intro found
      exact (List.nodup_append.mp fresh).2.2 key found key List.mem_cons_self rfl
    have entries : (dict.set key value).entries = dict.entries ++ [(key, value)] :=
      setEntry_new absent value
    have later : ((dict.set key value).entries.map Prod.fst ++ rest.map Prod.fst).Nodup := by
      rw [entries]
      simpa using fresh
    calc
      (dict.update ((key, value) :: rest)).entries =
          ((dict.set key value).update rest).entries := rfl
      _ = dict.entries ++ (key, value) :: rest := by
        rw [ih _ later, entries, List.append_assoc, List.singleton_append]

/-- A dictionary has all pairs it is built from exactly when their keys differ. -/
theorem ofPairs_perm (pairs : List (κ × α)) :
    (ofPairs pairs).entries.Perm pairs ↔ (pairs.map Prod.fst).Nodup := by
  constructor
  · intro same
    exact (same.map Prod.fst).nodup_iff.mp (ofPairs pairs).nodup
  · intro different
    have all : (ofPairs pairs).entries = pairs := by
      rw [ofPairs, update_entries empty (by simpa [empty] using different)]
      rfl
    rw [all]

/-- A dictionary of different keys has the values it is built from. -/
theorem get_ofPairs {pairs : List (κ × α)} (different : (pairs.map Prod.fst).Nodup) {key : κ}
    {value : α} : (ofPairs pairs).get key = some value ↔ (key, value) ∈ pairs := by
  have listed := ((ofPairs_perm pairs).mpr different).mem_iff (a := (key, value))
  rw [get_eq_some, listed]

/-- The items whose values pass a test. -/
def filterValues (dict : Dict κ α) (test : α → Bool) : Dict κ α where
  entries := dict.entries.filter fun entry => test entry.2
  nodup := dict.nodup.sublist (List.filter_sublist.map Prod.fst)

/-- A value that passes the test stays. -/
theorem get_filterValues (dict : Dict κ α) (test : α → Bool) (key : κ) :
    (dict.filterValues test).get key = (dict.get key).filter test := by
  apply Option.ext
  intro value
  rw [get_eq_some, Option.filter_eq_some_iff, get_eq_some]
  exact List.mem_filter

end Dict

end DifyPlugin
