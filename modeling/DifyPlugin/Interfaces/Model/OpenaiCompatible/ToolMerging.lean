import DifyPlugin.Interfaces.Model.OpenaiCompatible.ToolAssembly

/-!
# Merging of tool calls by identifier

`_increase_tool_call` merges a list of fragments into a list of calls. Which call a fragment goes
to is decided by its identifier and the identifiers of the calls alone, and a merge keeps all
identifiers, so the positions and the arguments of the calls follow from the identifiers.
-/

namespace DifyPlugin.OpenaiCompatible

open Table

/-- A fragment with the identifier under which it is merged, and the number of generated
identifiers: one with a name and without an identifier gets a generated one. -/
def identify (uuid4Hex : Nat → Text) (generated : Nat) (new : ToolCall) : ToolCall × Nat :=
  if new.function.name ≠ [] ∧ new.id = [] then
    ({ new with id := genToolCallId uuid4Hex generated }, generated + 1)
  else (new, generated)

/-- The fragments with the identifiers under which they are merged. -/
def identifyAll (uuid4Hex : Nat → Text) : Nat → List ToolCall → List ToolCall
  | _, [] => []
  | generated, new :: rest =>
    (identify uuid4Hex generated new).1 ::
      identifyAll uuid4Hex (identify uuid4Hex generated new).2 rest

/-- The positions that `get_tool_call` finds in the rounds of `_increase_tool_call`. -/
def mergePositions (uuid4Hex : Nat → Text) : List ToolCall → List ToolCall → Nat → List Nat
  | [], _, _ => []
  | new :: rest, existing, generated =>
    match getToolCall (identify uuid4Hex generated new).1.id existing,
      mergeToolCall uuid4Hex existing generated new with
    | some (_, position), some (calls, count) =>
      position :: mergePositions uuid4Hex rest calls count
    | _, _ => []

/-- The arguments of the call at a position. -/
def argumentsAt (calls : List ToolCall) (position : Nat) : Text :=
  (calls[position]?.map fun call => call.function.arguments).getD []

/-- The identifiers of the calls after one is looked up. -/
def openId (ids : List Text) (id : Text) : List Text := if id = [] then ids else insertKey ids id

/-- The identifiers of the calls after some fragments are merged. -/
def openIds (ids : List Text) (fragments : List ToolCall) : List Text :=
  fragments.foldl (fun ids fragment => openId ids fragment.id) ids

/-- The position of the call that is looked up. -/
def targetOf (ids : List Text) (id : Text) : Nat := if id = [] then ids.length - 1 else place ids id

/-- The positions of the calls that fragments are merged into. -/
def targets : List Text → List ToolCall → List Nat
  | _, [] => []
  | ids, fragment :: rest => targetOf ids fragment.id :: targets (openId ids fragment.id) rest

/-- The calls after one is looked up. -/
def openCall (existing : List ToolCall) (id : Text) : List ToolCall :=
  if id = [] ∨ id ∈ existing.map ToolCall.id then existing else existing ++ [emptyToolCall id]

variable {uuid4Hex : Nat → Text} {existing : List ToolCall} {generated : Nat}

/-- The call that is looked up, among those there are or behind them. -/
theorem getToolCall_eq {id : Text} (found : id ≠ [] ∨ existing ≠ []) :
    getToolCall id existing =
      some (openCall existing id, targetOf (existing.map ToolCall.id) id) := by
  rw [getToolCall, targetOf, openCall]
  by_cases missing : id = []
  · have some : existing ≠ [] := found.resolve_left fun named => named missing
    simp [missing, some]
  · rw [if_neg missing, if_neg missing, findIdx?_key existing ToolCall.id id]
    by_cases listed : id ∈ existing.map ToolCall.id
    · simp only [listed, or_true, if_true]
    · have fresh := place_of_not_mem listed
      simp only [missing, listed, or_self, if_false, fresh, List.length_map]

/-- The identifiers of the calls after one is looked up. -/
theorem map_id_openCall (existing : List ToolCall) (id : Text) :
    (openCall existing id).map ToolCall.id = openId (existing.map ToolCall.id) id := by
  rw [openCall, openId, insertKey]
  by_cases missing : id = []
  · simp [missing]
  · by_cases listed : id ∈ existing.map ToolCall.id
    · simp only [missing, listed, or_true, if_true, if_false]
    · simp only [missing, listed, or_self, if_false, List.map_append, List.map_singleton,
        emptyToolCall]

/-- A call that is looked up has its identifier. -/
theorem targetOf_id {ids : List Text} {id : Text} (named : id ≠ []) :
    (openId ids id)[targetOf ids id]? = some id := by
  rw [openId, if_neg named, targetOf, if_neg named]
  exact getElem?_insertKey ids id

/-- A call that is looked up is among those there are then. -/
theorem targetOf_lt {ids : List Text} {id : Text} (found : id ≠ [] ∨ ids ≠ []) :
    targetOf ids id < (openId ids id).length := by
  by_cases missing : id = []
  · have some : 0 < ids.length :=
      List.length_pos_iff.mpr (found.resolve_left fun named => named missing)
    rw [openId, if_pos missing, targetOf, if_pos missing]
    omega
  · exact (List.getElem?_eq_some_iff.mp (targetOf_id missing)).1

/-- A call that is opened has no arguments. -/
theorem argumentsAt_openCall (existing : List ToolCall) (id : Text) (position : Nat) :
    argumentsAt (openCall existing id) position = argumentsAt existing position := by
  rw [openCall]
  split
  · rfl
  · rw [argumentsAt, argumentsAt]
    rcases Nat.lt_trichotomy position existing.length with before | same | after
    · rw [List.getElem?_append_left before]
    · subst same
      simp [emptyToolCall]
    · have outside : (existing ++ [emptyToolCall id])[position]? = none :=
        List.getElem?_eq_none (by simp; omega)
      rw [outside, List.getElem?_eq_none (by omega)]

/-- An update appends its arguments at its position. -/
theorem argumentsAt_modify {calls : List ToolCall} {target : Nat} (within : target < calls.length)
    (new : ToolCall) (position : Nat) :
    argumentsAt (calls.modify target (updateToolCall new)) position =
      argumentsAt calls position ++ if position = target then new.function.arguments else [] := by
  rw [argumentsAt, argumentsAt, List.getElem?_modify]
  by_cases same : position = target
  · subst same
    simp [List.getElem?_eq_getElem within, updateToolCall]
  · have differs : ¬target = position := fun equal => same equal.symm
    simp [same, differs]

/-- A fragment keeps its arguments when it gets an identifier. -/
@[simp]
theorem identify_arguments (uuid4Hex : Nat → Text) (generated : Nat) (new : ToolCall) :
    (identify uuid4Hex generated new).1.function.arguments = new.function.arguments := by
  rw [identify]
  split <;> rfl

/-- An update of the call that is looked up keeps its identifier. -/
theorem updateToolCall_id {new call : ToolCall}
    (present : (openCall existing new.id)[targetOf (existing.map ToolCall.id) new.id]? =
      some call) : (updateToolCall new call).id = call.id := by
  rw [updateToolCall, replaceText]
  split
  · rfl
  · rename_i named
    have found := @targetOf_id (existing.map ToolCall.id) _ named
    rw [← map_id_openCall, List.getElem?_map, present] at found
    exact (Option.some.inj found).symm

/-- A merge opens the call that is looked up, and appends the arguments of the fragment to it. -/
theorem mergeToolCall_spec {new : ToolCall}
    (found : (identify uuid4Hex generated new).1.id ≠ [] ∨ existing ≠ []) :
    ∃ calls, mergeToolCall uuid4Hex existing generated new =
        some (calls, (identify uuid4Hex generated new).2) ∧
      calls.map ToolCall.id =
        openId (existing.map ToolCall.id) (identify uuid4Hex generated new).1.id ∧
      ∀ position, argumentsAt calls position = argumentsAt existing position ++
        if position = targetOf (existing.map ToolCall.id) (identify uuid4Hex generated new).1.id
        then new.function.arguments else [] := by
  have merged : mergeToolCall uuid4Hex existing generated new =
      (getToolCall (identify uuid4Hex generated new).1.id existing).map fun place =>
        (place.1.modify place.2 (updateToolCall (identify uuid4Hex generated new).1),
          (identify uuid4Hex generated new).2) := rfl
  rw [getToolCall_eq found, Option.map_some] at merged
  refine ⟨_, merged, ?_, ?_⟩
  · rw [map_modify _ _ _ _ fun call present => updateToolCall_id present, map_id_openCall]
  · intro position
    have within := @targetOf_lt (existing.map ToolCall.id) _ (by simpa using found)
    rw [← map_id_openCall, List.length_map] at within
    rw [argumentsAt_modify within, argumentsAt_openCall, identify_arguments]

/-- A fragment with an identifier or a name. -/
def Anchored (fragment : ToolCall) : Prop := fragment.id ≠ [] ∨ fragment.function.name ≠ []

/-- A fragment with an identifier or a name is merged under an identifier. -/
theorem identify_anchored {fragment : ToolCall} :
    (identify uuid4Hex generated fragment).1.id ≠ [] ↔ Anchored fragment := by
  rw [identify, Anchored]
  split
  · rename_i unnamed
    simp [genToolCallId_visible, unnamed.1]
  · rename_i named
    by_cases missing : fragment.id = []
    · simpa [missing] using named
    · simp [missing]

/-- The arguments of the fragments that are merged into the call at a position. -/
def mergedArguments (fragments : List ToolCall) (positions : List Nat) (position : Nat) : Text :=
  ((fragments.zip positions).filter fun merged => merged.2 = position).flatMap
    fun merged => merged.1.function.arguments

/-- The first fragment is merged before the others. -/
theorem mergedArguments_cons (fragment : ToolCall) (rest : List ToolCall) (target : Nat)
    (positions : List Nat) (position : Nat) :
    mergedArguments (fragment :: rest) (target :: positions) position =
      (if position = target then fragment.function.arguments else []) ++
        mergedArguments rest positions position := by
  by_cases same : position = target
  · simp [mergedArguments, same]
  · have differs : ¬target = position := fun equal => same equal.symm
    simp [mergedArguments, same, differs]

/-- The merges do not fail; they open the calls that are looked up, and append the arguments of
every fragment to its call. -/
theorem increaseToolCall_spec (news : List ToolCall)
    (anchored : existing ≠ [] ∨ ∀ first ∈ news.head?, Anchored first) :
    ∃ calls count, increaseToolCall uuid4Hex news existing generated = some (calls, count) ∧
      calls.map ToolCall.id =
        openIds (existing.map ToolCall.id) (identifyAll uuid4Hex generated news) ∧
      mergePositions uuid4Hex news existing generated =
        targets (existing.map ToolCall.id) (identifyAll uuid4Hex generated news) ∧
      ∀ position, argumentsAt calls position = argumentsAt existing position ++
        mergedArguments news (mergePositions uuid4Hex news existing generated) position := by
  induction news generalizing existing generated with
  | nil => exact ⟨existing, generated, rfl, rfl, rfl, by simp [mergedArguments]⟩
  | cons new rest ih =>
    have found : (identify uuid4Hex generated new).1.id ≠ [] ∨ existing ≠ [] :=
      anchored.symm.imp_left fun named => identify_anchored.mpr (named new rfl)
    have looked := getToolCall_eq found
    obtain ⟨calls, merged, ids, arguments⟩ := mergeToolCall_spec found
    have opened : calls ≠ [] := by
      have within := @targetOf_lt (existing.map ToolCall.id) _ (by simpa using found)
      rw [← ids, List.length_map] at within
      exact List.ne_nil_of_length_pos (Nat.zero_lt_of_lt within)
    obtain ⟨last, count, ended, allIds, positions, all⟩ :=
      @ih calls (identify uuid4Hex generated new).2 (Or.inl opened)
    have found : mergePositions uuid4Hex (new :: rest) existing generated =
        targetOf (existing.map ToolCall.id) (identify uuid4Hex generated new).1.id ::
          mergePositions uuid4Hex rest calls (identify uuid4Hex generated new).2 := by
      rw [mergePositions, looked, merged]
    refine ⟨last, count, ?_, ?_, ?_, ?_⟩
    · rw [increaseToolCall, merged]
      exact ended
    · rw [allIds, ids]
      rfl
    · rw [found, positions, ids]
      rfl
    · intro position
      rw [all, arguments, found, mergedArguments_cons, List.append_assoc]

section Positions

variable {ids : List Text} {fragments : List ToolCall}

/-- The calls there are stay where they are. -/
theorem prefix_openIds (ids : List Text) (fragments : List ToolCall) :
    ids <+: openIds ids fragments := by
  induction fragments generalizing ids with
  | nil => exact List.prefix_rfl
  | cons fragment rest ih =>
    have first : ids <+: openId ids fragment.id := by
      rw [openId]
      split
      · exact List.prefix_rfl
      · exact prefix_insertKey ids fragment.id
    exact first.trans (ih (openId ids fragment.id))

/-- The identifiers stay different and visible. -/
theorem openIds_distinct (distinct : ids.Nodup) (visible : [] ∉ ids)
    (fragments : List ToolCall) :
    (openIds ids fragments).Nodup ∧ [] ∉ openIds ids fragments := by
  induction fragments generalizing ids with
  | nil => exact ⟨distinct, visible⟩
  | cons fragment rest ih =>
    by_cases missing : fragment.id = []
    · rw [openIds, List.foldl_cons, openId, if_pos missing]
      exact ih distinct visible
    · rw [openIds, List.foldl_cons, openId, if_neg missing]
      refine ih (insertKey_nodup distinct fragment.id) fun found => ?_
      rcases mem_insertKey.mp found with listed | same
      · exact visible listed
      · exact missing same.symm

/-- A fragment is merged into the call that is looked up among those opened before. -/
theorem getElem?_targets {index : Nat} {fragment : ToolCall}
    (listed : fragments[index]? = some fragment) :
    (targets ids fragments)[index]? =
      some (targetOf (openIds ids (fragments.take index)) fragment.id) := by
  induction fragments generalizing ids index with
  | nil => simp at listed
  | cons first rest ih =>
    cases index with
    | zero =>
      obtain rfl := Option.some.inj listed
      rfl
    | succ index => exact ih listed

/-- There is a position for every fragment. -/
theorem length_targets (ids : List Text) (fragments : List ToolCall) :
    (targets ids fragments).length = fragments.length := by
  induction fragments generalizing ids with
  | nil => rfl
  | cons fragment rest ih => rw [targets, List.length_cons, ih, List.length_cons]

/-- A fragment with an identifier is merged into the call with that identifier. -/
theorem openIds_target {index : Nat} {fragment : ToolCall}
    (listed : fragments[index]? = some fragment) (named : fragment.id ≠ []) :
    (openIds ids fragments)[targetOf (openIds ids (fragments.take index)) fragment.id]? =
      some fragment.id := by
  induction fragments generalizing ids index with
  | nil => simp at listed
  | cons first rest ih =>
    cases index with
    | zero =>
      obtain rfl := Option.some.inj listed
      have opened := @targetOf_id ids _ named
      obtain ⟨within, same⟩ := List.getElem?_eq_some_iff.mp opened
      have kept := List.prefix_iff_getElem?.mp (prefix_openIds (openId ids first.id) rest) _ within
      exact kept.trans (congrArg some same)
    | succ index => exact ih listed

/-- Every fragment is merged into a call that is there in the end. -/
theorem targets_lt (found : ids ≠ [] ∨ ∀ first ∈ fragments.head?, first.id ≠ [])
    {position : Nat} (listed : position ∈ targets ids fragments) :
    position < (openIds ids fragments).length := by
  induction fragments generalizing ids with
  | nil => exact absurd listed List.not_mem_nil
  | cons fragment rest ih =>
    have within := targetOf_lt (found.symm.imp_left fun named => named fragment rfl)
    have grown := (prefix_openIds (openId ids fragment.id) rest).length_le
    rcases List.mem_cons.mp listed with rfl | later
    · exact Nat.lt_of_lt_of_le within grown
    · exact ih (Or.inl (List.ne_nil_of_length_pos (Nat.zero_lt_of_lt within))) later

/-- There is an identified fragment for every fragment. -/
theorem length_identifyAll (uuid4Hex : Nat → Text) (generated : Nat) (news : List ToolCall) :
    (identifyAll uuid4Hex generated news).length = news.length := by
  induction news generalizing generated with
  | nil => rfl
  | cons new rest ih => rw [identifyAll, List.length_cons, ih, List.length_cons]

/-- A fragment keeps an identifier that it has. -/
theorem identifyAll_named {index : Nat} {news : List ToolCall} {new : ToolCall}
    (listed : news[index]? = some new) (named : new.id ≠ []) :
    (identifyAll uuid4Hex generated news)[index]? = some new := by
  induction news generalizing generated index with
  | nil => simp at listed
  | cons first rest ih =>
    cases index with
    | zero =>
      obtain rfl := Option.some.inj listed
      rw [identifyAll, identify, if_neg fun unnamed => named unnamed.2]
      rfl
    | succ index => exact ih listed

end Positions

/-- The identifiers that are generated differ from each other and from those of some calls. -/
structure FreshIds (uuid4Hex : Nat → Text) (calls : List ToolCall) (generated count : Nat) :
    Prop where
  /-- No identifier is generated twice. -/
  once : ∀ left right, generated ≤ left → left < generated + count → generated ≤ right →
    right < generated + count → genToolCallId uuid4Hex left = genToolCallId uuid4Hex right →
      left = right
  /-- No call has a generated identifier. -/
  unused : ∀ call ∈ calls, ∀ number, generated ≤ number → number < generated + count →
    call.id ≠ genToolCallId uuid4Hex number

/-- A fragment keeps its identifier, or takes the next generated one. -/
theorem identify_cases (uuid4Hex : Nat → Text) (generated : Nat) (new : ToolCall) :
    ((identify uuid4Hex generated new).1.id = new.id ∧
        (identify uuid4Hex generated new).2 = generated) ∨
      ((identify uuid4Hex generated new).1.id = genToolCallId uuid4Hex generated ∧
        (identify uuid4Hex generated new).2 = generated + 1) := by
  rw [identify]
  split
  · exact Or.inr ⟨rfl, rfl⟩
  · exact Or.inl ⟨rfl, rfl⟩

/-- The identifiers that are generated later are fresh for the rest. -/
theorem FreshIds.rest {new : ToolCall} {rest : List ToolCall}
    (fresh : FreshIds uuid4Hex (new :: rest) generated (rest.length + 1)) :
    FreshIds uuid4Hex rest (identify uuid4Hex generated new).2 rest.length := by
  have later : generated ≤ (identify uuid4Hex generated new).2 ∧
      (identify uuid4Hex generated new).2 ≤ generated + 1 := by
    rcases identify_cases uuid4Hex generated new with ⟨-, same⟩ | ⟨-, next⟩ <;> omega
  exact {
    once := fun left right _ _ _ _ =>
      fresh.once left right (by omega) (by omega) (by omega) (by omega)
    unused := fun call listed number _ _ =>
      fresh.unused call (List.mem_cons_of_mem new listed) number (by omega) (by omega) }

/-- A fragment with a name and without an identifier is merged into a new call. -/
theorem targets_unnamed {ids : List Text} {news : List ToolCall} {index : Nat} {new : ToolCall}
    (listed : news[index]? = some new) (unnamed : new.id = []) (calling : new.function.name ≠ [])
    (fresh : FreshIds uuid4Hex news generated news.length)
    (unused : ∀ number, generated ≤ number → number < generated + news.length →
      genToolCallId uuid4Hex number ∉ ids) :
    (targets ids (identifyAll uuid4Hex generated news))[index]? =
      some (openIds ids (identifyAll uuid4Hex generated (news.take index))).length := by
  induction news generalizing ids generated index with
  | nil => simp at listed
  | cons first rest ih =>
    cases index with
    | zero =>
      obtain rfl := Option.some.inj listed
      have missing : genToolCallId uuid4Hex generated ∉ ids :=
        unused generated (Nat.le_refl _) (by simp)
      rw [identifyAll, identify, if_pos ⟨calling, unnamed⟩]
      simp only [targets, targetOf, genToolCallId_visible, if_false, List.take_zero, identifyAll,
        openIds, List.foldl_nil, List.getElem?_cons_zero, place_of_not_mem missing]
    | succ index =>
      refine ih listed fresh.rest fun number least before found => ?_
      have kept : genToolCallId uuid4Hex number ≠ (identify uuid4Hex generated first).1.id ∧
          generated ≤ number ∧ number < generated + (rest.length + 1) := by
        rcases identify_cases uuid4Hex generated first with ⟨own, same⟩ | ⟨own, next⟩
        · refine ⟨fun clash => ?_, by omega, by omega⟩
          rw [own] at clash
          exact fresh.unused first (by simp) number (by omega) (by rw [List.length_cons]; omega)
            clash.symm
        · refine ⟨fun clash => ?_, by omega, by omega⟩
          rw [own] at clash
          have same := fresh.once number generated (by omega) (by rw [List.length_cons]; omega)
            (Nat.le_refl _) (by simp) clash
          omega
      rw [openId] at found
      split at found
      · exact unused number kept.2.1 kept.2.2 found
      · rcases mem_insertKey.mp found with listed | clash
        · exact unused number kept.2.1 kept.2.2 listed
        · exact kept.1 clash

/-- The first merge finds a call. -/
theorem identifyAll_anchored {news : List ToolCall}
    (anchored : existing ≠ [] ∨ ∀ first ∈ news.head?, Anchored first) :
    existing.map ToolCall.id ≠ [] ∨
      ∀ first ∈ (identifyAll uuid4Hex generated news).head?, first.id ≠ [] := by
  rcases anchored with some | named
  · exact Or.inl (by simpa using some)
  · refine Or.inr fun first listed => ?_
    cases news with
    | nil => exact absurd listed (by simp [identifyAll])
    | cons new rest =>
      obtain rfl := Option.some.inj listed
      exact identify_anchored.mpr (named new rfl)

/-- The first of some fragments comes first. -/
theorem head?_take {news : List ToolCall} {index : Nat} {first : ToolCall}
    (listed : first ∈ (news.take index).head?) : first ∈ news.head? := by
  cases index with
  | zero => exact absurd listed (by simp)
  | succ index => rwa [List.head?_take, if_neg (Nat.succ_ne_zero index)] at listed

/-- A fragment with a name and without an identifier is merged behind the calls there are. -/
theorem mergePositions_unnamed {news : List ToolCall} {index : Nat} {new : ToolCall}
    (anchored : existing ≠ [] ∨ ∀ first ∈ news.head?, Anchored first)
    (fresh : FreshIds uuid4Hex (existing ++ news) generated news.length)
    (listed : news[index]? = some new) (unnamed : new.id = []) (calling : new.function.name ≠ [])
    {before : List ToolCall} {count : Nat}
    (taken : increaseToolCall uuid4Hex (news.take index) existing generated =
      some (before, count)) :
    (mergePositions uuid4Hex news existing generated)[index]? = some before.length := by
  obtain ⟨_, _, _, _, positions, _⟩ := @increaseToolCall_spec uuid4Hex existing generated _ anchored
  obtain ⟨_, _, ended, ids, _, _⟩ := @increaseToolCall_spec uuid4Hex existing generated _
    (anchored.imp_right fun named first listed => named first (head?_take listed))
  rw [taken] at ended
  obtain ⟨rfl, rfl⟩ := Prod.mk.inj (Option.some.inj ended)
  have opened := @targets_unnamed uuid4Hex generated (existing.map ToolCall.id) _ _ _ listed
    unnamed calling { fresh with unused := fun call found => fresh.unused call (by simp [found]) }
    fun number least below found => by
      obtain ⟨call, present, same⟩ := List.mem_map.mp found
      exact fresh.unused call (by simp [present]) number least below same
  rw [positions, opened, ← ids, List.length_map]

/-- Every fragment is merged exactly once, into the call of its identifier, into a new call when
it has only a name, and the arguments of a call are those of the fragments merged into it. -/
theorem increaseToolCall_keeps (uuid4Hex : Nat → Text) (existing news : List ToolCall)
    (generated : Nat) (distinct : (existing.map ToolCall.id).Nodup)
    (visible : ∀ call ∈ existing, call.id ≠ [])
    (anchored : existing ≠ [] ∨ ∀ first ∈ news.head?, Anchored first)
    (fresh : FreshIds uuid4Hex (existing ++ news) generated news.length) :
    ∃ calls count, increaseToolCall uuid4Hex news existing generated = some (calls, count) ∧
      existing.map ToolCall.id <+: calls.map ToolCall.id ∧
      (calls.map ToolCall.id).Nodup ∧ (∀ call ∈ calls, call.id ≠ []) ∧
      (mergePositions uuid4Hex news existing generated).length = news.length ∧
      (∀ position ∈ mergePositions uuid4Hex news existing generated, position < calls.length) ∧
      (∀ index new position, news[index]? = some new →
        (mergePositions uuid4Hex news existing generated)[index]? = some position →
          (new.id ≠ [] → (calls.map ToolCall.id)[position]? = some new.id) ∧
          (new.id = [] → new.function.name ≠ [] → ∀ before count,
            increaseToolCall uuid4Hex (news.take index) existing generated =
              some (before, count) → position = before.length)) ∧
      ∀ position, argumentsAt calls position = argumentsAt existing position ++
        ((news.zip (mergePositions uuid4Hex news existing generated)).filter
          fun merged => merged.2 = position).flatMap
            fun merged => merged.1.function.arguments := by
  obtain ⟨calls, count, ended, ids, positions, arguments⟩ :=
    @increaseToolCall_spec uuid4Hex existing generated news anchored
  have hidden : [] ∉ existing.map ToolCall.id := by
    intro found
    obtain ⟨call, listed, empty⟩ := List.mem_map.mp found
    exact visible call listed empty
  obtain ⟨different, shown⟩ :=
    openIds_distinct distinct hidden (identifyAll uuid4Hex generated news)
  refine ⟨calls, count, ended, ?_, ?_, ?_, ?_, ?_, ?_, arguments⟩
  · rw [ids]
    exact prefix_openIds _ _
  · rwa [ids]
  · intro call listed empty
    rw [← ids] at shown
    exact shown (List.mem_map.mpr ⟨call, listed, empty⟩)
  · rw [positions, length_targets, length_identifyAll]
  · intro position merged
    rw [positions] at merged
    have within := targets_lt (identifyAll_anchored anchored) merged
    rwa [← ids, List.length_map] at within
  · intro index new position listed merged
    constructor
    · intro named
      have identified := @identifyAll_named uuid4Hex generated _ _ _ listed named
      rw [positions, getElem?_targets identified] at merged
      rw [ids, ← Option.some.inj merged]
      exact openIds_target identified named
    · intro unnamed calling before _ taken
      rw [mergePositions_unnamed anchored fresh listed unnamed calling taken] at merged
      exact (Option.some.inj merged).symm

/-- Identifiers without clashes, for examples. -/
def countingUuid (count : Nat) : Text := List.replicate count 'x'

/-- A fragment of a call, for examples. -/
def fragment (id name arguments : String) : ToolCall :=
  ⟨id.toList, "function".toList, ⟨name.toList, arguments.toList⟩⟩

/-- A fragment with an identifier, one with a name only, and one with neither. -/
def mixedFragments : List ToolCall :=
  [fragment "a" "f" "1", fragment "" "g" "2", fragment "a" "" "3", fragment "" "" "4"]

/-- Every part of the arguments is appended to one call. -/
theorem increaseToolCall_keeps_mixed :
    ∃ calls count,
      increaseToolCall countingUuid mixedFragments [fragment "b" "h" "0"] 0 =
        some (calls, count) ∧
      mergePositions countingUuid mixedFragments [fragment "b" "h" "0"] 0 = [1, 2, 1, 2] ∧
      argumentsAt calls 1 = "13".toList ∧ argumentsAt calls 2 = "24".toList := by
  have unused : ∀ call ∈ [fragment "b" "h" "0"] ++ mixedFragments, ∀ number < 4,
      call.id ≠ genToolCallId countingUuid number := by decide
  have fresh : FreshIds countingUuid ([fragment "b" "h" "0"] ++ mixedFragments) 0 4 :=
    { once := fun left right _ _ _ _ same => by
        have lengths := congrArg List.length (List.append_cancel_left same)
        simpa [countingUuid] using lengths
      unused := fun call listed number _ within => unused call listed number (by omega) }
  obtain ⟨calls, count, ended, -, -, -, -, -, -, arguments⟩ :=
    increaseToolCall_keeps countingUuid [fragment "b" "h" "0"] mixedFragments 0 (by decide)
      (by decide) (Or.inl (by simp)) fresh
  refine ⟨calls, count, ended, by decide, ?_, ?_⟩
  · rw [arguments]
    decide
  · rw [arguments]
    decide

/-- The call that is looked up is the last one then, unless it was opened before the last one. -/
theorem targetOf_last (ids : List Text) (id : Text) :
    (openId ids id).length - 1 = targetOf ids id ↔ (id ≠ [] → id ∉ ids.dropLast) := by
  rw [openId, targetOf]
  by_cases missing : id = []
  · simp [missing]
  · rw [if_neg missing, if_neg missing, insertKey]
    by_cases listed : id ∈ ids
    · rw [if_pos listed, eq_comm, idxOf_last listed]
      simp [missing]
    · have earlier : id ∉ ids.dropLast := fun found => listed (List.dropLast_subset ids found)
      simp [listed, earlier, place_of_not_mem listed]

/-- A fragment with neither identifier nor name stays without identifier. -/
theorem identifyAll_anonymous {index : Nat} {news : List ToolCall} {new : ToolCall}
    (listed : news[index]? = some new) (anonymous : ¬Anchored new) :
    ∃ fragment, (identifyAll uuid4Hex generated news)[index]? = some fragment ∧
      fragment.id = [] := by
  induction news generalizing generated index with
  | nil => simp at listed
  | cons first rest ih =>
    cases index with
    | zero =>
      obtain rfl := Option.some.inj listed
      exact ⟨_, rfl, not_not.mp fun named => anonymous (identify_anchored.mp named)⟩
    | succ index => exact ih listed

/-- An anonymous fragment continues the call before it when that is the last one. -/
theorem targets_continue {ids : List Text} {fragments : List ToolCall} {index : Nat}
    {fragment next : ToolCall} (listed : fragments[index]? = some fragment)
    (follows : fragments[index + 1]? = some next) (unnamed : next.id = []) :
    (targets ids fragments)[index + 1]? = (targets ids fragments)[index]? ↔
      (fragment.id ≠ [] → fragment.id ∉ (openIds ids (fragments.take index)).dropLast) := by
  have grown : openIds ids (fragments.take (index + 1)) =
      openId (openIds ids (fragments.take index)) fragment.id := by
    rw [List.take_add_one, listed, Option.toList_some, openIds, List.foldl_append]
    rfl
  rw [getElem?_targets listed, getElem?_targets follows, grown, Option.some.injEq,
    ← targetOf_last, unnamed, targetOf, if_pos rfl]

/-- A fragment with neither identifier nor name continues the call before it exactly when no such
fragment follows one whose identifier is that of a call opened before the last one. -/
theorem increaseToolCall_continues (uuid4Hex : Nat → Text) (existing news : List ToolCall)
    (generated : Nat) (anchored : ∀ first ∈ news.head?, Anchored first) :
    ∃ calls count, increaseToolCall uuid4Hex news existing generated = some (calls, count) ∧
      (∀ position, argumentsAt calls position = argumentsAt existing position ++
        ((news.zip (mergePositions uuid4Hex news existing generated)).filter
          fun merged => merged.2 = position).flatMap
            fun merged => merged.1.function.arguments) ∧
      ((∀ index new, news[index + 1]? = some new → ¬Anchored new →
          (mergePositions uuid4Hex news existing generated)[index + 1]? =
            (mergePositions uuid4Hex news existing generated)[index]?) ↔
        ∀ index fragment new,
          (identifyAll uuid4Hex generated news)[index]? = some fragment →
            news[index + 1]? = some new → ¬Anchored new → fragment.id ≠ [] →
              fragment.id ∉ (openIds (existing.map ToolCall.id)
                ((identifyAll uuid4Hex generated news).take index)).dropLast) := by
  obtain ⟨calls, count, ended, _, positions, arguments⟩ :=
    @increaseToolCall_spec uuid4Hex existing generated news (Or.inr anchored)
  refine ⟨calls, count, ended, arguments, ?_⟩
  rw [positions]
  constructor
  · intro continues index fragment new listed follows anonymous
    obtain ⟨next, found, unnamed⟩ := identifyAll_anonymous follows anonymous
    exact (targets_continue listed found unnamed).mp (continues index new follows anonymous)
  · intro last index new follows anonymous
    obtain ⟨next, found, unnamed⟩ :=
      @identifyAll_anonymous uuid4Hex generated _ _ _ follows anonymous
    have within := (List.getElem?_eq_some_iff.mp found).1
    have listed := List.getElem?_eq_getElem (Nat.lt_of_succ_lt within)
    exact (targets_continue listed found unnamed).mpr
      (last index _ new listed follows anonymous)

/-- Fragments of two calls, the first of which is continued after the second was opened. -/
def returningFragments : List ToolCall :=
  [fragment "a" "f" "1", fragment "b" "g" "2", fragment "a" "" "3", fragment "" "" "4"]

/-- A fragment that is merged after a return to the first call continues the second one. -/
theorem increaseToolCall_continues_other :
    ¬∀ index new, returningFragments[index + 1]? = some new → ¬Anchored new →
      (mergePositions countingUuid returningFragments [] 0)[index + 1]? =
        (mergePositions countingUuid returningFragments [] 0)[index]? := by
  intro continues
  have same := continues 2 (fragment "" "" "4") rfl (by simp [Anchored, fragment])
  revert same
  decide

/-- The fragments of two calls one after another. -/
def orderedFragments : List ToolCall :=
  [fragment "a" "f" "1", fragment "" "" "2", fragment "b" "g" "3", fragment "" "" "4"]

/-- An anonymous fragment after each opening continues the call that was opened. -/
theorem increaseToolCall_continues_ordered :
    ∃ calls count, increaseToolCall countingUuid orderedFragments [] 0 = some (calls, count) ∧
      argumentsAt calls 0 = "12".toList ∧ argumentsAt calls 1 = "34".toList := by
  obtain ⟨calls, count, ended, arguments, -⟩ :=
    increaseToolCall_continues countingUuid [] orderedFragments 0 (by
      intro first listed
      obtain rfl := Option.some.inj listed
      exact Or.inl (by decide))
  refine ⟨calls, count, ended, ?_, ?_⟩
  · rw [arguments]
    decide
  · rw [arguments]
    decide

end DifyPlugin.OpenaiCompatible
