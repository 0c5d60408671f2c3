import DifyPlugin.Library.Dict
import DifyPlugin.Library.Fallible

/-!
# Registering under names

Items are registered under their names in the order in which they are declared, and several may
have the same name. A loop that assigns to a dictionary ends with the last item of each name; a
registry that refuses a name that it has ends with the first one, and only ever grows at its end.
-/

namespace DifyPlugin.Registering

variable {α β κ ε : Type} [DecidableEq κ]

/-- The last item of a name. -/
def last (name : α → κ) (items : List α) (key : κ) : Option α :=
  items.reverse.find? fun item => name item = key

/-- The last item of a name is the first one unless it comes later. -/
theorem last_cons (name : α → κ) (item : α) (rest : List α) (key : κ) :
    last name (item :: rest) key =
      (last name rest key).or (if name item = key then some item else none) := by
  have alone : [item].find? (fun item => name item = key) =
      if name item = key then some item else none := by
    by_cases same : name item = key <;> simp [same]
  rw [last, List.reverse_cons, List.find?_append, alone, last]

/-- The last item of a name is in the later items, if they have the name. -/
theorem last_append (name : α → κ) (items more : List α) (key : κ) :
    last name (items ++ more) key = (last name more key).or (last name items key) := by
  rw [last, List.reverse_append, List.find?_append, last, last]

/-- What is found under a name has it. -/
theorem mem_of_last {name : α → κ} {items : List α} {key : κ} {item : α}
    (found : last name items key = some item) : item ∈ items ∧ name item = key := by
  have listed := List.mem_of_find?_eq_some found
  have named := List.find?_some found
  exact ⟨List.mem_reverse.mp listed, by simpa using named⟩

/-! ## Assigning -/

/-- One round of a loop that makes a value of each item and assigns it to the item's name. -/
def assign (name : α → κ) (make : α → Except ε β) (dict : Dict κ β) (item : α) :
    Except ε (Dict κ β) := do
  let value ← make item
  return dict.set (name item) value

/-- Every round of a loop that ends has made its value. -/
theorem made_of_assign {name : α → κ} {make : α → Except ε β} {items : List α}
    {start final : Dict κ β} (ran : items.foldlM (assign name make) start = .ok final) :
    ∀ item ∈ items, ∃ value, make item = .ok value := by
  induction items generalizing start with
  | nil => simp
  | cons item rest ih =>
    obtain ⟨middle, assigned, later⟩ := Fallible.bind_eq_ok.mp ran
    obtain ⟨value, made, -⟩ := Fallible.bind_eq_ok.mp assigned
    intro other listed
    rcases List.mem_cons.mp listed with rfl | listed
    · exact ⟨value, made⟩
    · exact ih later other listed

/-- A loop that assigns ends with the values of the last items. -/
theorem get_assign {name : α → κ} {make : α → Except ε β} {items : List α}
    {start final : Dict κ β} (ran : items.foldlM (assign name make) start = .ok final) (key : κ) :
    final.get key =
      ((last name items key).bind fun item => (make item).toOption).or (start.get key) := by
  induction items generalizing start with
  | nil =>
    obtain rfl : start = final := Except.ok.inj ran
    rfl
  | cons item rest ih =>
    obtain ⟨middle, assigned, later⟩ := Fallible.bind_eq_ok.mp ran
    obtain ⟨value, made, same⟩ := Fallible.bind_eq_ok.mp assigned
    obtain rfl : start.set (name item) value = middle := Except.ok.inj same
    have read : (make item).toOption = some value := by rw [made]; rfl
    rw [ih later, last_cons]
    cases found : last name rest key with
    | some other =>
      -- A later item of the name was made as well.
      obtain ⟨result, madeLater⟩ := made_of_assign later other (mem_of_last found).1
      simp [madeLater, Except.toOption]
    | none =>
      by_cases same : name item = key
      · subst same
        simp [read, Dict.get_set_self]
      · simp [same, Dict.get_set_of_ne start (Ne.symm same)]

/-- A new dictionary has the value of the last item under every name. -/
theorem get_assign_empty {name : α → κ} {make : α → Except ε β} {items : List α}
    {final : Dict κ β} (ran : items.foldlM (assign name make) Dict.empty = .ok final) {key : κ}
    {value : β} :
    final.get key = some value ↔
      ∃ item, last name items key = some item ∧ make item = .ok value := by
  have nothing : (Dict.empty : Dict κ β).get key = none := rfl
  have read (item : α) : (make item).toOption = some value ↔ make item = .ok value := by
    cases make item with
    | error failed => simp [Except.toOption]
    | ok made => simp [Except.toOption]
  rw [get_assign ran, nothing, Option.or_none, Option.bind_eq_some_iff]
  simp only [read]

/-- A loop that only assigns ends with the last items. -/
theorem get_foldl_set (name : α → κ) (items : List α) (start : Dict κ α) (key : κ) :
    (items.foldl (fun dict item => dict.set (name item) item) start).get key =
      (last name items key).or (start.get key) := by
  induction items generalizing start with
  | nil => rfl
  | cons item rest ih =>
    rw [List.foldl_cons, ih, last_cons, Option.or_assoc]
    congr 1
    by_cases same : name item = key
    · subst same
      simp [Dict.get_set_self]
    · simp [same, Dict.get_set_of_ne start (Ne.symm same)]

/-! ## Refusing -/

/-- `if key in dict: raise`, else `dict[key] = value`. -/
def refuse (dict : Dict κ β) (key : κ) (value : β) : Option (Dict κ β) :=
  match dict.get key with
  | some _ => none
  | none => some (dict.set key value)

/-- A dictionary lacks a name that it does not list. -/
theorem get_eq_none {dict : Dict κ β} {key : κ} :
    dict.get key = none ↔ key ∉ dict.entries.map Prod.fst := by
  constructor
  · intro free listed
    obtain ⟨entry, found, same⟩ := List.mem_map.mp listed
    have has : dict.get key = some entry.2 := Dict.get_eq_some.mpr (same ▸ found)
    rw [free] at has
    exact absurd has (by simp)
  · intro absent
    apply Option.eq_none_iff_forall_ne_some.mpr
    intro value has
    exact absent (List.mem_map.mpr ⟨_, Dict.get_eq_some.mp has, rfl⟩)

/-- What is registered is listed last. -/
theorem entries_refuse {dict final : Dict κ β} {key : κ} {value : β}
    (registered : refuse dict key value = some final) :
    final.entries = dict.entries ++ [(key, value)] := by
  unfold refuse at registered
  split at registered
  · exact absurd registered (by simp)
  · rename_i free
    obtain rfl := Option.some.inj registered
    exact Dict.setEntry_new (get_eq_none.mp free) value

/-- The first item of every name, in order. -/
def firsts (name : α → κ) : List α → List α
  | [] => []
  | item :: rest => item :: (firsts name rest).filter fun other => name other ≠ name item

/-- The first items have all names. -/
theorem mem_map_firsts {name : α → κ} {items : List α} {key : κ} :
    key ∈ (firsts name items).map name ↔ key ∈ items.map name := by
  induction items with
  | nil => rfl
  | cons item rest ih =>
    rw [firsts, List.map_cons, List.map_cons, List.mem_cons, List.mem_cons, ← ih]
    by_cases same : key = name item
    · simp [same]
    · simp only [same, false_or, List.mem_map, List.mem_filter, decide_eq_true_eq]
      constructor
      · rintro ⟨other, ⟨listed, -⟩, named⟩
        exact ⟨other, listed, named⟩
      · rintro ⟨other, listed, named⟩
        have differs : name other ≠ name item := by rwa [named]
        exact ⟨other, ⟨listed, differs⟩, named⟩

/-- One more item counts if its name is new. -/
theorem firsts_append_singleton (name : α → κ) (items : List α) (last : α) :
    firsts name (items ++ [last]) =
      if name last ∈ items.map name then firsts name items else firsts name items ++ [last] := by
  induction items with
  | nil => rfl
  | cons item rest ih =>
    rw [List.cons_append, firsts, ih, firsts, List.map_cons]
    by_cases later : name last ∈ rest.map name
    · have known : name last ∈ name item :: rest.map name := List.mem_cons_of_mem _ later
      rw [if_pos later, if_pos known]
    · rw [if_neg later, List.filter_append]
      by_cases same : name last = name item
      · simp [same]
      · simp [same, later]

/-- The names of the first items differ. -/
theorem nodup_firsts (name : α → κ) (items : List α) : ((firsts name items).map name).Nodup := by
  induction items with
  | nil => exact List.nodup_nil
  | cons item rest ih =>
    rw [firsts, List.map_cons, List.nodup_cons]
    refine ⟨?_, ih.sublist (List.filter_sublist.map name)⟩
    intro listed
    obtain ⟨other, found, named⟩ := List.mem_map.mp listed
    have differs := (List.mem_filter.mp found).2
    simp [named] at differs

/-- More items leave the first ones in their places. -/
theorem firsts_prefix (name : α → κ) (items more : List α) :
    firsts name items <+: firsts name (items ++ more) := by
  induction more using List.reverseRecOn with
  | nil => simp
  | append_singleton before last ih =>
    rw [← List.append_assoc, firsts_append_singleton]
    split
    · exact ih
    · exact ih.trans (List.prefix_append _ _)

/-- The dictionary that keeps the first value of every key. -/
def keepFirst (items : List (κ × β)) : Dict κ β := ⟨firsts Prod.fst items, nodup_firsts _ items⟩

/-- A dictionary of first items refuses one more item if its name is not new, and lists it last
otherwise. -/
theorem refuse_keepFirst (items : List (κ × β)) (key : κ) (value : β) :
    refuse (keepFirst items) key value =
      if key ∈ items.map Prod.fst then none else some (keepFirst (items ++ [(key, value)])) := by
  have known : key ∈ (keepFirst items).entries.map Prod.fst ↔ key ∈ items.map Prod.fst :=
    mem_map_firsts
  cases found : (keepFirst items).get key with
  | some old =>
    have present : key ∈ items.map Prod.fst := by
      rw [← known]
      exact List.mem_map.mpr ⟨_, Dict.get_eq_some.mp found, rfl⟩
    simp only [refuse, found]
    rw [if_pos present]
  | none =>
    have absent : key ∉ items.map Prod.fst := by
      rw [← known]
      exact get_eq_none.mp found
    have listed : ((keepFirst items).set key value).entries =
        (keepFirst (items ++ [(key, value)])).entries := by
      have kept : firsts Prod.fst (items ++ [(key, value)]) =
          firsts Prod.fst items ++ [(key, value)] := by
        rw [firsts_append_singleton, if_neg absent]
      exact (Dict.setEntry_new (get_eq_none.mp found) value).trans kept.symm
    simp only [refuse, found]
    rw [if_neg absent]
    exact congrArg some (Dict.eq_of_entries listed)

/-- A refused item changes nothing. -/
theorem keepFirst_append_singleton {items : List (κ × β)} {key : κ}
    (known : key ∈ items.map Prod.fst) (value : β) :
    keepFirst (items ++ [(key, value)]) = keepFirst items := by
  apply Dict.eq_of_entries
  show firsts Prod.fst (items ++ [(key, value)]) = firsts Prod.fst items
  rw [firsts_append_singleton, if_pos known]

end DifyPlugin.Registering
