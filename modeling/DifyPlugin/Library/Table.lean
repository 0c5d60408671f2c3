import Mathlib.Data.List.Induction
import Mathlib.Data.List.Nodup

/-!
# Tables in order of first appearance

A table lists one entry for every key that has appeared, in the order of first appearance. It is
the image of its keys under a view, so a search that tells one key from the others finds that
key's entry, and an update there changes the view at that key only.
-/

namespace DifyPlugin.Table

variable {κ α : Type} [DecidableEq κ]

/-- The keys of a list in order of first appearance. -/
def firstSeen (keys : List κ) : List κ := keys.eraseDups

@[simp] theorem firstSeen_nil : firstSeen ([] : List κ) = [] := rfl

@[simp] theorem mem_firstSeen {key : κ} {keys : List κ} : key ∈ firstSeen keys ↔ key ∈ keys :=
  List.mem_eraseDups

/-- A key that has appeared adds nothing; a new one comes last. -/
theorem firstSeen_snoc (keys : List κ) (key : κ) :
    firstSeen (keys ++ [key]) = if key ∈ keys then firstSeen keys else firstSeen keys ++ [key] := by
  rw [firstSeen, List.eraseDups_append]
  split
  · rename_i seen
    simp [firstSeen, List.removeAll, seen]
  · rename_i unseen
    simp [firstSeen, List.removeAll, unseen, List.eraseDups_cons]

/-- Keys that appear again add nothing. -/
theorem firstSeen_append_self (keys : List κ) : firstSeen (keys ++ keys) = firstSeen keys := by
  have nothing : keys.removeAll keys = [] := by
    apply List.filter_eq_nil_iff.mpr
    simp
  rw [firstSeen, List.eraseDups_append, nothing, List.eraseDups_nil, List.append_nil, firstSeen]

/-- No key is listed twice. -/
theorem firstSeen_nodup (keys : List κ) : (firstSeen keys).Nodup := by
  induction keys using List.reverseRecOn with
  | nil => exact List.nodup_nil
  | append_singleton keys key ih =>
    rw [firstSeen_snoc]
    split
    · exact ih
    · rename_i unseen
      refine ih.append (List.nodup_singleton key) ?_
      rw [List.disjoint_singleton, mem_firstSeen]
      exact unseen

/-- A search that tells a listed key from the others finds its entry. -/
theorem findIdx?_listed {keys : List κ} {key : κ} (listed : key ∈ keys) (view : κ → α)
    (test : α → Bool) (tells : ∀ other ∈ keys, test (view other) = true ↔ other = key) :
    (keys.map view).findIdx? test = some (keys.idxOf key) := by
  induction keys with
  | nil => simp at listed
  | cons first rest ih =>
    rw [List.map_cons, List.findIdx?_cons]
    by_cases same : first = key
    · subst same
      simp [(tells first (by simp)).mpr rfl]
    · have passes : test (view first) = false :=
        Bool.eq_false_iff.mpr fun hit => same ((tells first (by simp)).mp hit)
      have later : key ∈ rest := (List.mem_cons.mp listed).resolve_left (Ne.symm same)
      rw [passes, ih later fun other found => tells other (List.mem_cons_of_mem first found)]
      simp [List.idxOf_cons_ne rest same]

omit [DecidableEq κ] in
/-- A search that refuses every listed key finds nothing. -/
theorem findIdx?_unlisted {keys : List κ} (view : κ → α) (test : α → Bool)
    (refuses : ∀ other ∈ keys, test (view other) = false) :
    (keys.map view).findIdx? test = none := by
  rw [List.findIdx?_eq_none_iff]
  intro entry found
  obtain ⟨other, listed, rfl⟩ := List.mem_map.mp found
  exact refuses other listed

/-- An update at a key changes the view there and nowhere else. -/
theorem modify_listed {keys : List κ} (nodup : keys.Nodup) {key : κ} (listed : key ∈ keys)
    {view next : κ → α} {update : α → α} (here : next key = update (view key))
    (elsewhere : ∀ other ∈ keys, other ≠ key → next other = view other) :
    (keys.map view).modify (keys.idxOf key) update = keys.map next := by
  induction keys with
  | nil => simp at listed
  | cons first rest ih =>
    obtain ⟨fresh, nodup⟩ := List.nodup_cons.mp nodup
    by_cases same : first = key
    · subst same
      have unchanged : rest.map next = rest.map view :=
        List.map_congr_left fun other found =>
          elsewhere other (List.mem_cons_of_mem first found) fun clash => fresh (clash ▸ found)
      simp [here, unchanged]
    · have later : key ∈ rest := (List.mem_cons.mp listed).resolve_left (Ne.symm same)
      rw [List.idxOf_cons_ne rest same, List.map_cons, List.modify_succ_cons,
        ih nodup later fun other found => elsewhere other (List.mem_cons_of_mem first found),
        List.map_cons, elsewhere first (by simp) same]

omit [DecidableEq κ] in
/-- An update of the entry behind a table leaves the table alone. -/
theorem modify_last (entries : List α) (entry : α) (update : α → α) :
    (entries ++ [entry]).modify entries.length update = entries ++ [update entry] := by
  induction entries with
  | nil => rfl
  | cons first rest ih => simp [ih]

/-- The first place of a key, which is behind the end when the key is not listed. -/
def place (keys : List κ) (key : κ) : Nat := keys.idxOf key

/-- A search for a key finds the first entry that has it. -/
theorem findIdx?_key (entries : List α) (view : α → κ) (key : κ) :
    entries.findIdx? (fun entry => view entry = key) =
      if key ∈ entries.map view then some (place (entries.map view) key) else none := by
  simp only [place]
  induction entries with
  | nil => rfl
  | cons first rest ih =>
    by_cases same : view first = key
    · simp [List.findIdx?_cons, same]
    · have differs : key ≠ view first := Ne.symm same
      rw [List.findIdx?_cons, List.map_cons, List.idxOf_cons_ne _ same, ih]
      by_cases listed : key ∈ rest.map view
      · simp only [same, decide_false, listed, List.mem_cons, or_true, if_true]
        rfl
      · simp only [same, decide_false, listed, List.mem_cons, differs, or_self, if_false]
        rfl

omit [DecidableEq κ] in
/-- An update that keeps the key of its entry keeps all keys. -/
theorem map_modify (entries : List α) (view : α → κ) (position : Nat) (update : α → α)
    (keeps : ∀ entry, entries[position]? = some entry → view (update entry) = view entry) :
    (entries.modify position update).map view = entries.map view := by
  induction entries generalizing position with
  | nil => simp
  | cons first rest ih =>
    cases position with
    | zero => simp [keeps first rfl]
    | succ position =>
      simp only [List.modify_succ_cons, List.map_cons, ih position keeps]

/-- The keys with one more, which comes last unless it is among them. -/
def insertKey (keys : List κ) (key : κ) : List κ := if key ∈ keys then keys else keys ++ [key]

/-- The inserted key is listed. -/
theorem mem_insertKey {keys : List κ} {key other : κ} :
    other ∈ insertKey keys key ↔ other ∈ keys ∨ other = key := by
  rw [insertKey]
  split
  · rename_i listed
    exact ⟨Or.inl, fun found => found.elim id fun same => same ▸ listed⟩
  · simp

/-- The keys there were stay where they are. -/
theorem prefix_insertKey (keys : List κ) (key : κ) : keys <+: insertKey keys key := by
  rw [insertKey]
  split
  · exact List.prefix_rfl
  · exact List.prefix_append keys [key]

/-- No key is listed twice. -/
theorem insertKey_nodup {keys : List κ} (distinct : keys.Nodup) (key : κ) :
    (insertKey keys key).Nodup := by
  rw [insertKey]
  split
  · exact distinct
  · rename_i fresh
    exact distinct.append (List.nodup_singleton key) (List.disjoint_singleton.mpr fresh)

/-- A key that is not listed has its place behind the end. -/
theorem place_of_not_mem {keys : List κ} {key : κ} (fresh : key ∉ keys) :
    place keys key = keys.length := List.idxOf_eq_length fresh

/-- A listed key has its place. -/
theorem place_lt {keys : List κ} {key : κ} (listed : key ∈ keys) :
    place keys key < keys.length := List.idxOf_lt_length_of_mem listed

/-- A listed key is at its place. -/
theorem getElem?_place {keys : List κ} {key : κ} (listed : key ∈ keys) :
    keys[place keys key]? = some key := by
  rw [place, List.getElem?_eq_getElem (List.idxOf_lt_length_of_mem listed), List.getElem_idxOf]

/-- The inserted key is at its place. -/
theorem getElem?_insertKey (keys : List κ) (key : κ) :
    (insertKey keys key)[place keys key]? = some key := by
  rw [insertKey]
  split
  · rename_i listed
    exact getElem?_place listed
  · rename_i fresh
    rw [place_of_not_mem fresh, List.getElem?_append_right (Nat.le_refl _), Nat.sub_self]
    rfl

/-- A listed key is the last one when it is not listed before. -/
theorem idxOf_last {keys : List κ} {key : κ} (listed : key ∈ keys) :
    place keys key = keys.length - 1 ↔ key ∉ keys.dropLast := by
  rw [place]
  rcases List.eq_nil_or_concat keys with rfl | ⟨before, last, rfl⟩
  · exact absurd listed List.not_mem_nil
  · rw [List.concat_eq_append] at listed ⊢
    rw [List.dropLast_concat, List.length_append, List.length_singleton, Nat.add_sub_cancel]
    constructor
    · intro placed earlier
      have within := List.idxOf_lt_length_of_mem earlier
      rw [List.idxOf_append_of_mem earlier] at placed
      omega
    · intro fresh
      have same : key = last := by simpa [fresh] using listed
      rw [List.idxOf_append_of_notMem fresh, same, List.idxOf_cons_self, Nat.add_zero]

end DifyPlugin.Table
