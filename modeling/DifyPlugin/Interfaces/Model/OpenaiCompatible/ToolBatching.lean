import DifyPlugin.Interfaces.Model.OpenaiCompatible.StreamTools
import DifyPlugin.Interfaces.Model.OpenaiCompatible.ToolMerging

/-!
# Tool calls and the grouping of their fragments

The identifier under which a fragment is merged does not depend on how the fragments are grouped
into deltas, but the time at which a call is renamed does: all renamings of a delta come before
all of its merges. So the grouping does not matter as long as no call is ever renamed.
-/

namespace DifyPlugin.OpenaiCompatible

open Table

/-- The fragments under the identifiers that their indices have when they arrive. -/
def assigned (uuid4Hex : Nat → Text) :
    List ToolCallDelta → List ToolCallDelta → List ToolCallDelta
  | _, [] => []
  | done, fragment :: rest =>
    identified (idOf uuid4Hex (done ++ [fragment])) fragment ::
      assigned uuid4Hex (done ++ [fragment]) rest

/-- A fragment with a function arrived under an identifier. -/
def Called (uuid4Hex : Nat → Text) (before : List ToolCallDelta) (id : Text) : Prop :=
  ∃ fragment ∈ assigned uuid4Hex [] before, fragment.function.isSome ∧ fragment.id = some id

/-- A fragment sends a new identifier for an index that has another one. -/
structure Replaces (uuid4Hex : Nat → Text) (before : List ToolCallDelta)
    (fragment : ToolCallDelta) (old new : Text) : Prop where
  /-- The index has the old identifier. -/
  current : ∃ index ∈ indices before, fragment.index = some index ∧
    idOf uuid4Hex before index = old
  /-- The fragment sends the new one. -/
  sent : sentId fragment = some new
  /-- They differ. -/
  differs : new ≠ old

/-- No identifier is replaced after a fragment with a function arrived under it. -/
def IdsSettle (uuid4Hex : Nat → Text) (fragments : List ToolCallDelta) : Prop :=
  ∀ before fragment after, fragments = before ++ fragment :: after →
    ∀ old new, Replaces uuid4Hex before fragment old new → ¬Called uuid4Hex before old

/-- No identifier replaces another one after a fragment with a function arrived under it. -/
def NoneReturns (uuid4Hex : Nat → Text) (fragments : List ToolCallDelta) : Prop :=
  ∀ before fragment after, fragments = before ++ fragment :: after →
    ∀ old new, Replaces uuid4Hex before fragment old new → ¬Called uuid4Hex before new

/-- The state knows the identifiers of the fragments so far. -/
structure Names (uuid4Hex : Nat → Text) (done : List ToolCallDelta) (state : ToolState) :
    Prop where
  /-- Every index that has appeared has its identifier. -/
  ids : ∀ index, state.toolCallIds index =
    if index ∈ indices done then some (idOf uuid4Hex done index) else none
  /-- One identifier was generated for each anonymous index. -/
  generated : state.generated = (anonymous done).length

/-- The calls after a fragment with an identifier is merged. -/
def mergeNamed (calls : List ToolCall) (new : ToolCall) : List ToolCall :=
  (openCall calls new.id).modify (targetOf (calls.map ToolCall.id) new.id) (updateToolCall new)

variable {uuid4Hex : Nat → Text}

section Assignment

variable {done delta : List ToolCallDelta} {fragment : ToolCallDelta} {index : Int}
  {state : ToolState}

/-- Fragments arrive one after another. -/
theorem assigned_append (done first second : List ToolCallDelta) :
    assigned uuid4Hex done (first ++ second) =
      assigned uuid4Hex done first ++ assigned uuid4Hex (done ++ first) second := by
  induction first generalizing done with
  | nil => simp [assigned]
  | cons fragment rest ih =>
    rw [List.cons_append, assigned, ih, assigned, List.append_assoc, List.singleton_append,
      List.cons_append]

/-- The state that only knows the identifiers tracks them. -/
theorem Names.tracks (names : Names uuid4Hex done state) :
    Tracks uuid4Hex done done { state with toolsCalls := callsFrom (idOf uuid4Hex done) done } :=
  ⟨rfl, names.ids, names.generated⟩

/-- The round of the first pass for a fragment with an index. -/
theorem assignId_names (own : fragment.index = some index) (names : Names uuid4Hex done state) :
    (assignId uuid4Hex state fragment).1.toolsCalls =
        renameCall (if index ∈ indices done then some (idOf uuid4Hex done index) else none)
          (idOf uuid4Hex (done ++ [fragment]) index) state.toolsCalls ∧
      (assignId uuid4Hex state fragment).2 =
        identified (idOf uuid4Hex (done ++ [fragment])) fragment ∧
      Names uuid4Hex (done ++ [fragment]) (assignId uuid4Hex state fragment).1 := by
  have chosen := chooseId_tracks own names.tracks
  simp only [names.ids] at chosen
  simp only [assignId, own, names.ids, chosen, identified, Option.map_some]
  refine ⟨trivial, trivial, fun other => ?_, rfl⟩
  change Function.update state.toolCallIds index _ other = _
  by_cases same : other = index
  · subst same
    simp [mem_indices_snoc own]
  · rw [Function.update_of_ne same, names.ids]
    by_cases seen : other ∈ indices done
    · simp [seen, mem_indices_snoc own, idOf_snoc_other own same seen]
    · simp [seen, mem_indices_snoc own, same]

/-- The first pass assigns the identifiers that the indices have, whatever the calls are. -/
theorem assignIds_names (indexed : ∀ fragment ∈ delta, ∃ index, fragment.index = some index)
    (names : Names uuid4Hex done state) :
    (assignIds uuid4Hex state delta).2 = assigned uuid4Hex done delta ∧
      Names uuid4Hex (done ++ delta) (assignIds uuid4Hex state delta).1 := by
  induction delta generalizing done state with
  | nil => exact ⟨rfl, by simpa [assignIds] using names⟩
  | cons fragment rest ih =>
    obtain ⟨⟨index, own⟩, others⟩ := List.forall_mem_cons.mp indexed
    obtain ⟨-, same, next⟩ := assignId_names own names
    obtain ⟨later, final⟩ := ih others next
    rw [List.append_cons]
    exact ⟨by simp only [assignIds, assigned, same, later], final⟩

/-- A fragment keeps the identifier of its index, or replaces it by the one it sends. -/
theorem idOf_snoc_cases (own : fragment.index = some index) (seen : index ∈ indices done) :
    idOf uuid4Hex (done ++ [fragment]) index = idOf uuid4Hex done index ∨
      Replaces uuid4Hex done fragment (idOf uuid4Hex done index)
        (idOf uuid4Hex (done ++ [fragment]) index) := by
  cases sent : sentId fragment with
  | none => exact Or.inl (idOf_snoc_kept own sent seen)
  | some id =>
    rw [idOf_snoc_sent own sent]
    by_cases same : id = idOf uuid4Hex done index
    · exact Or.inl same
    · exact Or.inr ⟨⟨index, seen, own, rfl⟩, sent, same⟩

/-- A fragment that was called stays called. -/
theorem Called.append {id : Text} (called : Called uuid4Hex done id)
    (more : List ToolCallDelta) : Called uuid4Hex (done ++ more) id := by
  obtain ⟨fragment, found, calls⟩ := called
  refine ⟨fragment, ?_, calls⟩
  rw [assigned_append]
  exact List.mem_append_left _ found

end Assignment

section Merging

variable {calls news : List ToolCall} {generated : Nat}

/-- The merge of a fragment with an identifier. -/
theorem mergeToolCall_named {new : ToolCall} (named : new.id ≠ []) :
    mergeToolCall uuid4Hex calls generated new = some (mergeNamed calls new, generated) := by
  rw [mergeToolCall, if_neg fun missing => named missing.2]
  simp only [getToolCall_eq (Or.inl named), Option.map_some, mergeNamed]

/-- The merges of fragments with identifiers. -/
theorem increaseToolCall_named (named : ∀ new ∈ news, new.id ≠ []) :
    increaseToolCall uuid4Hex news calls generated =
      some (news.foldl mergeNamed calls, generated) := by
  induction news generalizing calls with
  | nil => rfl
  | cons new rest ih =>
    obtain ⟨first, others⟩ := List.forall_mem_cons.mp named
    rw [increaseToolCall, mergeToolCall_named first]
    exact ih others

/-- A merge keeps the identifiers of the calls and opens the one it looks up. -/
theorem map_id_mergeNamed (calls : List ToolCall) (new : ToolCall) :
    (mergeNamed calls new).map ToolCall.id = openId (calls.map ToolCall.id) new.id := by
  rw [mergeNamed, map_modify _ _ _ _ fun call present => updateToolCall_id present,
    map_id_openCall]

/-- The merges keep the identifiers of the calls and open those they look up. -/
theorem map_id_mergeAll (calls news : List ToolCall) :
    (news.foldl mergeNamed calls).map ToolCall.id = openIds (calls.map ToolCall.id) news := by
  induction news generalizing calls with
  | nil => rfl
  | cons new rest ih =>
    rw [List.foldl_cons, ih, map_id_mergeNamed]
    rfl

/-- The opened identifiers are those of the fragments. -/
theorem mem_openIds {ids : List Text} {id : Text} (named : ∀ new ∈ news, new.id ≠ []) :
    id ∈ openIds ids news ↔ id ∈ ids ∨ ∃ new ∈ news, new.id = id := by
  induction news generalizing ids with
  | nil => simp [openIds]
  | cons new rest ih =>
    obtain ⟨first, others⟩ := List.forall_mem_cons.mp named
    have opened : openIds ids (new :: rest) = openIds (insertKey ids new.id) rest := by
      rw [openIds, List.foldl_cons, openId, if_neg first]
      rfl
    rw [opened, ih others, mem_insertKey, or_assoc, List.exists_mem_cons_iff, @eq_comm _ id]

/-- A renaming changes the identifier of one call at most, which is the previous one. -/
theorem renameCall_at {previous : Option Text} {id new : Text} {position : Nat}
    (present : (calls.map ToolCall.id)[position]? = some id) :
    ((renameCall previous new calls).map ToolCall.id)[position]? = some id ∨
      previous = some id ∧
        ((renameCall previous new calls).map ToolCall.id)[position]? = some new := by
  rw [List.getElem?_map, Option.map_eq_some_iff] at present
  obtain ⟨call, there, same⟩ := present
  rw [renameCall]
  split
  · rename_i found located
    rw [List.getElem?_map, List.getElem?_modify, there]
    by_cases here : found = position
    · subst here
      obtain ⟨within, hit, -⟩ := List.findIdx?_eq_some_iff_getElem.mp located
      obtain ⟨_, equal⟩ := List.getElem?_eq_some_iff.mp there
      rw [equal, decide_eq_true_eq, same] at hit
      exact Or.inr ⟨hit.symm, by simp⟩
    · exact Or.inl (by simp [here, same])
  · exact Or.inl (by rw [List.getElem?_map, there, Option.map_some, same])

/-- Nothing is renamed when no call has the previous identifier. -/
theorem renameCall_absent {previous : Option Text} {new : Text}
    (absent : ∀ call ∈ calls, some call.id ≠ previous) :
    renameCall previous new calls = calls := by
  have located : calls.findIdx? (fun call => some call.id = previous) = none :=
    List.findIdx?_eq_none_iff.mpr fun call found => decide_eq_false (absent call found)
  rw [renameCall, located]

/-- A renaming to the identifier there is changes nothing. -/
theorem renameCall_same (id : Text) : renameCall (some id) id calls = calls := by
  rw [renameCall]
  split
  · rename_i found located
    obtain ⟨within, hit, -⟩ := List.findIdx?_eq_some_iff_getElem.mp located
    have same : calls[found].id = id := Option.some.inj (of_decide_eq_true hit)
    rw [List.modify_eq_set_getElem?, List.getElem?_eq_getElem within, ← same]
    exact List.set_getElem_self within
  · rfl

/-- A renamed call is found at the place of its previous identifier. -/
theorem renameCall_place {id new : Text} (listed : id ∈ calls.map ToolCall.id) :
    ((renameCall (some id) new calls).map ToolCall.id)[place (calls.map ToolCall.id) id]? =
      some new := by
  have located : calls.findIdx? (fun call => some call.id = some id) =
      some (place (calls.map ToolCall.id) id) := by
    simp only [Option.some.injEq]
    rw [findIdx?_key calls ToolCall.id id, if_pos listed]
  have within := place_lt listed
  rw [List.length_map] at within
  rw [renameCall, located, List.getElem?_map, List.getElem?_modify,
    List.getElem?_eq_getElem within]
  simp

end Merging

section Settling

variable {done delta : List ToolCallDelta} {state : ToolState}

/-- Every assigned identifier is visible. -/
theorem assigned_visible (indexed : ∀ fragment ∈ delta, ∃ index, fragment.index = some index)
    {fragment : ToolCallDelta} (found : fragment ∈ assigned uuid4Hex done delta) :
    ∃ id, fragment.id = some id ∧ id ≠ [] := by
  induction delta generalizing done with
  | nil => exact absurd found List.not_mem_nil
  | cons first rest ih =>
    obtain ⟨⟨index, own⟩, others⟩ := List.forall_mem_cons.mp indexed
    rcases List.mem_cons.mp found with rfl | later
    · have seen : index ∈ indices (done ++ [first]) := (mem_indices_snoc own).mpr (Or.inr rfl)
      exact ⟨idOf uuid4Hex (done ++ [first]) index, by simp [identified, own],
        idOf_visible uuid4Hex seen⟩
    · exact ih others later

/-- The extracted fragments have the identifiers that are called. -/
theorem extracted_ids (uuid4Hex : Nat → Text)
    (indexed : ∀ fragment ∈ delta, ∃ index, fragment.index = some index) (id : Text) :
    (∃ new ∈ extractResponseToolCalls (assigned uuid4Hex [] delta), new.id = id) ↔
      Called uuid4Hex delta id := by
  constructor
  · rintro ⟨new, listed, same⟩
    obtain ⟨fragment, found, extracted⟩ := List.mem_filterMap.mp listed
    obtain ⟨function, present, made⟩ := Option.map_eq_some_iff.mp extracted
    obtain ⟨own, given, -⟩ := assigned_visible indexed found
    have named : new.id = own := by rw [← made, given]; rfl
    exact ⟨fragment, found, by rw [present]; rfl, by rw [given, ← named, same]⟩
  · rintro ⟨fragment, found, calls, given⟩
    obtain ⟨function, present⟩ := Option.isSome_iff_exists.mp calls
    exact ⟨_, List.mem_filterMap.mpr ⟨fragment, found, by rw [extractToolCall, present]; rfl⟩,
      by rw [given]; rfl⟩

/-- The extracted fragments have identifiers. -/
theorem extracted_named (indexed : ∀ fragment ∈ delta, ∃ index, fragment.index = some index)
    {new : ToolCall} (listed : new ∈ extractResponseToolCalls (assigned uuid4Hex done delta)) :
    new.id ≠ [] := by
  obtain ⟨fragment, found, extracted⟩ := List.mem_filterMap.mp listed
  obtain ⟨function, -, made⟩ := Option.map_eq_some_iff.mp extracted
  obtain ⟨id, given, visible⟩ := assigned_visible indexed found
  rw [← made, given]
  exact visible

/-- The handler renames in its first pass, and merges under identifiers in its second one. -/
theorem toolStep_named (indexed : ∀ fragment ∈ delta, ∃ index, fragment.index = some index)
    (names : Names uuid4Hex done state) :
    ∃ next, toolStep uuid4Hex state delta = some next ∧ Names uuid4Hex (done ++ delta) next ∧
      next.toolsCalls = (extractResponseToolCalls (assigned uuid4Hex done delta)).foldl mergeNamed
        (assignIds uuid4Hex state delta).1.toolsCalls := by
  obtain ⟨given, named⟩ := assignIds_names indexed names
  have merged := @increaseToolCall_named uuid4Hex
    (assignIds uuid4Hex state delta).1.toolsCalls _ (assignIds uuid4Hex state delta).1.generated
    fun new listed => @extracted_named uuid4Hex done delta indexed new listed
  refine ⟨{ (assignIds uuid4Hex state delta).1 with
    toolsCalls := (extractResponseToolCalls (assigned uuid4Hex done delta)).foldl mergeNamed
      (assignIds uuid4Hex state delta).1.toolsCalls }, ?_, ⟨named.ids, named.generated⟩, rfl⟩
  simp only [toolStep, given, merged, Option.map_some]

/-- Nothing is renamed as long as the identifiers settle. -/
theorem assignIds_settled (indexed : ∀ fragment ∈ delta, ∃ index, fragment.index = some index)
    (settle : IdsSettle uuid4Hex (done ++ delta)) (names : Names uuid4Hex done state)
    (called : ∀ call ∈ state.toolsCalls, Called uuid4Hex done call.id) :
    (assignIds uuid4Hex state delta).1.toolsCalls = state.toolsCalls := by
  induction delta generalizing done state with
  | nil => rfl
  | cons fragment rest ih =>
    obtain ⟨⟨index, own⟩, others⟩ := List.forall_mem_cons.mp indexed
    obtain ⟨renamed, -, next⟩ := assignId_names own names
    have kept : (assignId uuid4Hex state fragment).1.toolsCalls = state.toolsCalls := by
      rw [renamed]
      by_cases seen : index ∈ indices done
      · rw [if_pos seen]
        rcases @idOf_snoc_cases uuid4Hex _ _ _ own seen with same | replaces
        · rw [same, renameCall_same]
        · refine renameCall_absent fun call found same => ?_
          have current := called call found
          rw [Option.some.inj same] at current
          exact settle done fragment rest rfl _ _ replaces current
      · rw [if_neg seen]
        exact renameCall_absent fun call _ same => absurd same (Option.some_ne_none call.id)
    have later := ih others (by rw [List.append_assoc]; exact settle) next (by
      rw [kept]
      exact fun call found => (called call found).append [fragment])
    exact later.trans kept

/-- What all fragments amount to when they are merged at once. -/
def mergedAtOnce (uuid4Hex : Nat → Text) (fragments : List ToolCallDelta) : List ToolCall :=
  (extractResponseToolCalls (assigned uuid4Hex [] fragments)).foldl mergeNamed []

/-- The identifiers of the calls are those that are called. -/
theorem mem_mergedAtOnce (uuid4Hex : Nat → Text)
    (indexed : ∀ fragment ∈ delta, ∃ index, fragment.index = some index) (id : Text) :
    id ∈ (mergedAtOnce uuid4Hex delta).map ToolCall.id ↔ Called uuid4Hex delta id := by
  rw [mergedAtOnce, map_id_mergeAll,
    mem_openIds fun new listed => extracted_named indexed listed, ← extracted_ids uuid4Hex indexed]
  simp

/-- More fragments are merged into what there is. -/
theorem mergedAtOnce_append (uuid4Hex : Nat → Text) (done delta : List ToolCallDelta) :
    mergedAtOnce uuid4Hex (done ++ delta) =
      (extractResponseToolCalls (assigned uuid4Hex done delta)).foldl mergeNamed
        (mergedAtOnce uuid4Hex done) := by
  rw [mergedAtOnce, assigned_append, extractResponseToolCalls, List.filterMap_append,
    List.foldl_append]
  rfl

/-- A delta after which the identifiers are still settled adds its fragments to the calls. -/
theorem toolStep_settled (indexed : ∀ fragment ∈ done ++ delta, ∃ index,
      fragment.index = some index)
    (settle : IdsSettle uuid4Hex (done ++ delta)) (names : Names uuid4Hex done state)
    (merged : state.toolsCalls = mergedAtOnce uuid4Hex done) :
    ∃ next, toolStep uuid4Hex state delta = some next ∧ Names uuid4Hex (done ++ delta) next ∧
      next.toolsCalls = mergedAtOnce uuid4Hex (done ++ delta) := by
  obtain ⟨before, after⟩ := List.forall_mem_append.mp indexed
  have called : ∀ call ∈ state.toolsCalls, Called uuid4Hex done call.id := by
    intro call found
    rw [merged] at found
    exact (mem_mergedAtOnce uuid4Hex before call.id).mp (List.mem_map_of_mem found)
  obtain ⟨next, ran, named, calls⟩ := toolStep_named after names
  refine ⟨next, ran, named, ?_⟩
  rw [calls, assignIds_settled after settle names called, merged, mergedAtOnce_append]

/-- Identifiers that settle in the end are settled before. -/
theorem IdsSettle.before (settle : IdsSettle uuid4Hex (done ++ delta)) :
    IdsSettle uuid4Hex done := by
  intro before fragment after shape
  exact settle before fragment (after ++ delta) (by rw [shape]; simp)

/-- Nothing was streamed yet. -/
theorem Names.initial : Names uuid4Hex [] .initial := ⟨fun _ => rfl, rfl⟩

/-- Every grouping of fragments whose identifiers settle merges them as one delta does. -/
theorem foldlM_settled {deltas : List (List ToolCallDelta)}
    (indexed : ∀ fragment ∈ deltas.flatten, ∃ index, fragment.index = some index)
    (settle : IdsSettle uuid4Hex deltas.flatten) :
    ∃ final, deltas.foldlM (toolStep uuid4Hex) .initial = some final ∧
      Names uuid4Hex deltas.flatten final ∧
      final.toolsCalls = mergedAtOnce uuid4Hex deltas.flatten := by
  refine @Fallible.foldlM_keeps _ _ _ (fun done state => Names uuid4Hex done.flatten state ∧
    state.toolsCalls = mergedAtOnce uuid4Hex done.flatten) deltas _ ?_ ⟨Names.initial, rfl⟩
  rintro done delta later state shape ⟨names, merged⟩
  subst shape
  rw [List.flatten_append, List.flatten_cons, ← List.append_assoc] at settle indexed
  rw [List.flatten_append, List.flatten_singleton]
  exact toolStep_settled (List.forall_mem_append.mp indexed).1 settle.before names merged

end Settling

section Unsettled

variable {done fragments : List ToolCallDelta} {fragment : ToolCallDelta} {state : ToolState}
  {old : Text} {position : Nat}

/-- The first fragment that replaces an identifier in use. -/
theorem exists_first_replacement (unsettled : ¬IdsSettle uuid4Hex fragments) :
    ∃ before fragment after, fragments = before ++ fragment :: after ∧
      IdsSettle uuid4Hex before ∧
      ∃ old new, Replaces uuid4Hex before fragment old new ∧ Called uuid4Hex before old := by
  induction fragments using List.reverseRecOn with
  | nil =>
    refine absurd (fun before fragment after shape => ?_) unsettled
    simp at shape
  | append_singleton earlier last ih =>
    by_cases settled : IdsSettle uuid4Hex earlier
    · simp only [IdsSettle, not_forall, not_not] at unsettled
      obtain ⟨before, fragment, after, shape, old, new, replaces, called⟩ := unsettled
      rcases List.eq_nil_or_concat after with rfl | ⟨later, final, rfl⟩
      · obtain ⟨rfl, rfl⟩ := List.append_singleton_inj.mp shape
        exact ⟨earlier, last, [], rfl, settled, old, new, replaces, called⟩
      · rw [List.concat_eq_append, ← List.cons_append, ← List.append_assoc] at shape
        have whole := (List.append_singleton_inj.mp shape).1
        exact absurd called (settled before fragment later whole old new replaces)
    · obtain ⟨before, fragment, after, shape, settle, found⟩ := ih settled
      exact ⟨before, fragment, after ++ [last], by rw [shape]; simp, settle, found⟩

/-- The identifiers of the calls stay where they are. -/
theorem openIds_at {ids : List Text} {id : Text} (present : ids[position]? = some id)
    (news : List ToolCall) : (openIds ids news)[position]? = some id := by
  obtain ⟨within, same⟩ := List.getElem?_eq_some_iff.mp present
  rw [← same]
  exact List.prefix_iff_getElem?.mp (prefix_openIds ids news) position within

/-- The call at a position has an identifier that a fragment sent and that is not the old one. -/
def MovedAt (fragments : List ToolCallDelta) (position : Nat) (old : Text)
    (calls : List ToolCall) : Prop :=
  ∃ id, (calls.map ToolCall.id)[position]? = some id ∧ id ≠ old ∧
    ∃ fragment ∈ fragments, sentId fragment = some id

/-- Merging keeps the identifier of a call. -/
theorem MovedAt.merge {calls : List ToolCall} (moved : MovedAt fragments position old calls)
    (news : List ToolCall) :
    MovedAt fragments position old (news.foldl mergeNamed calls) := by
  obtain ⟨id, present, differs⟩ := moved
  exact ⟨id, by rw [map_id_mergeAll]; exact openIds_at present news, differs⟩

/-- The fragment that replaces the old identifier renames its call. -/
theorem toolStep_replaces {new : Text} (indexed : ∀ fragment ∈ done, ∃ index,
      fragment.index = some index)
    (names : Names uuid4Hex done state) (merged : state.toolsCalls = mergedAtOnce uuid4Hex done)
    (replaces : Replaces uuid4Hex done fragment old new) (called : Called uuid4Hex done old)
    (listed : fragment ∈ fragments) :
    ∃ next, toolStep uuid4Hex state [fragment] = some next ∧
      Names uuid4Hex (done ++ [fragment]) next ∧
      MovedAt fragments (place ((mergedAtOnce uuid4Hex done).map ToolCall.id) old) old
        next.toolsCalls := by
  obtain ⟨index, seen, own, current⟩ := replaces.current
  obtain ⟨next, ran, named, calls⟩ :=
    @toolStep_named uuid4Hex done [fragment] state (by simp [own]) names
  refine ⟨next, ran, named, ?_⟩
  rw [calls]
  refine MovedAt.merge ⟨new, ?_, replaces.differs, fragment, listed, replaces.sent⟩ _
  change ((assignId uuid4Hex state fragment).1.toolsCalls.map ToolCall.id)[_]? = some new
  rw [(assignId_names own names).1, if_pos seen, current, idOf_snoc_sent own replaces.sent, merged]
  exact renameCall_place ((mem_mergedAtOnce uuid4Hex indexed old).mpr called)

/-- A renamed call is not given its old identifier again. -/
theorem toolStep_moved {index : Int} (own : fragment.index = some index)
    (names : Names uuid4Hex done state) (called : Called uuid4Hex done old)
    (returns : ∀ old new, Replaces uuid4Hex done fragment old new → ¬Called uuid4Hex done new)
    (listed : fragment ∈ fragments) (moved : MovedAt fragments position old state.toolsCalls) :
    ∃ next, toolStep uuid4Hex state [fragment] = some next ∧
      Names uuid4Hex (done ++ [fragment]) next ∧
      MovedAt fragments position old next.toolsCalls := by
  obtain ⟨next, ran, named, calls⟩ :=
    @toolStep_named uuid4Hex done [fragment] state (by simp [own]) names
  refine ⟨next, ran, named, ?_⟩
  rw [calls]
  refine MovedAt.merge ?_ _
  change MovedAt fragments position old (assignId uuid4Hex state fragment).1.toolsCalls
  rw [(assignId_names own names).1]
  obtain ⟨id, present, differs, sent⟩ := moved
  rcases renameCall_at present with kept | ⟨previous, renamed⟩
  · exact ⟨id, kept, differs, sent⟩
  · by_cases seen : index ∈ indices done
    · rw [if_pos seen] at previous renamed ⊢
      refine ⟨_, renamed, ?_⟩
      rcases @idOf_snoc_cases uuid4Hex _ _ _ own seen with same | replaces
      · rw [same, Option.some.inj previous]
        exact ⟨differs, sent⟩
      · refine ⟨fun back => ?_, fragment, listed, replaces.sent⟩
        exact returns _ _ replaces (back ▸ called)
    · rw [if_neg seen] at previous
      exact absurd previous nofun

/-- Without calls there is nothing to rename. -/
theorem assignIds_empty (indexed : ∀ fragment ∈ fragments, ∃ index, fragment.index = some index)
    (names : Names uuid4Hex done state) (empty : state.toolsCalls = []) :
    (assignIds uuid4Hex state fragments).1.toolsCalls = [] := by
  induction fragments generalizing done state with
  | nil => exact empty
  | cons fragment rest ih =>
    obtain ⟨⟨index, own⟩, others⟩ := List.forall_mem_cons.mp indexed
    obtain ⟨renamed, -, next⟩ := assignId_names own names
    have kept : (assignId uuid4Hex state fragment).1.toolsCalls = [] := by
      rw [renamed, empty]
      exact renameCall_absent (List.forall_mem_nil _)
    exact ih others next kept

/-- One delta merges all fragments at once. -/
theorem foldlM_atOnce (indexed : ∀ fragment ∈ fragments, ∃ index, fragment.index = some index) :
    ∃ final, [fragments].foldlM (toolStep uuid4Hex) .initial = some final ∧
      final.toolsCalls = mergedAtOnce uuid4Hex fragments := by
  obtain ⟨next, ran, -, calls⟩ := toolStep_named indexed (@Names.initial uuid4Hex)
  rw [assignIds_empty indexed Names.initial rfl] at calls
  refine ⟨next, ?_, calls⟩
  rw [List.foldlM_cons, ran]
  rfl

/-- Joined, the deltas of one fragment each are the fragments. -/
theorem flatten_singletons (fragments : List ToolCallDelta) :
    (fragments.map fun fragment => [fragment]).flatten = fragments := by
  rw [← List.flatMap_def, List.flatMap_singleton']

/-- One delta keeps an identifier that one delta for each fragment replaces. -/
theorem foldlM_differ (indexed : ∀ fragment ∈ fragments, ∃ index, fragment.index = some index)
    (returns : NoneReturns uuid4Hex fragments) (unsettled : ¬IdsSettle uuid4Hex fragments) :
    ∃ position old final,
      (fragments.map fun fragment => [fragment]).foldlM (toolStep uuid4Hex) .initial =
        some final ∧
      ((mergedAtOnce uuid4Hex fragments).map ToolCall.id)[position]? = some old ∧
      MovedAt fragments position old final.toolsCalls := by
  obtain ⟨before, fragment, after, rfl, settle, old, new, replaces, called⟩ :=
    exists_first_replacement unsettled
  obtain ⟨first, others⟩ := List.forall_mem_append.mp indexed
  obtain ⟨state, ran, names, merged⟩ :=
    @foldlM_settled uuid4Hex (before.map fun fragment => [fragment])
      (by rw [flatten_singletons]; exact first) (by rw [flatten_singletons]; exact settle)
  rw [flatten_singletons] at names merged
  obtain ⟨next, replaced, named, moved⟩ := toolStep_replaces first names merged replaces called
    (List.mem_append_right before List.mem_cons_self)
  obtain ⟨final, ended, -, movedFinal⟩ := @Fallible.foldlM_keeps _ _
    (fun state fragment => toolStep uuid4Hex state [fragment])
    (fun done state => Names uuid4Hex (before ++ [fragment] ++ done) state ∧
      MovedAt (before ++ fragment :: after)
        (place ((mergedAtOnce uuid4Hex before).map ToolCall.id) old) old state.toolsCalls)
    after next (by
      rintro done item later state shape ⟨names, moved⟩
      obtain ⟨index, own⟩ := others item (by rw [shape]; simp)
      rw [← List.append_assoc]
      exact toolStep_moved own names
        (by rw [List.append_assoc]; exact called.append ([fragment] ++ done))
        (returns (before ++ [fragment] ++ done) item later (by rw [shape]; simp))
        (by rw [shape]; simp) moved)
    ⟨by rw [List.append_nil]; exact named, moved⟩
  refine ⟨_, old, final, ?_, ?_, movedFinal⟩
  · rw [List.map_append, List.foldlM_append, ran, Option.bind_eq_bind, Option.bind_some,
      List.map_cons, List.foldlM_cons, replaced, Option.bind_eq_bind, Option.bind_some,
      List.foldlM_map]
    exact ended
  · rw [mergedAtOnce_append, map_id_mergeAll]
    refine openIds_at ?_ _
    exact getElem?_place ((mem_mergedAtOnce uuid4Hex first old).mpr called)

end Unsettled

/-- The events carry the fragments, and no error. -/
def Carries (fragments : List ToolCallDelta) (chunks : List StreamChunk) : Prop :=
  (∀ chunk ∈ chunks, chunk.error = none) ∧ chunks.flatMap streamedToolCalls = fragments

/-- The stream of the events ends with a chunk that has the calls. -/
def EndsWith (context : StreamContext) (chunks : List StreamChunk) (calls : List ToolCall) : Prop :=
  ∃ body final, handleGenerateStreamResponse context ⟨chunks, none⟩ = ⟨body ++ [final], none⟩ ∧
    final.delta.message.toolCalls = calls

/-- The calls agree up to identifiers that no fragment sent. -/
def Alike (fragments : List ToolCallDelta) (left right : List ToolCall) : Prop :=
  ∃ rename : Text → Text, Function.Injective rename ∧
    (∀ fragment ∈ fragments, ∀ id, sentId fragment = some id → rename id = id) ∧
    right = left.map fun call => { call with id := rename call.id }

/-- All groupings of the fragments into events end with the same calls. -/
def BatchingIrrelevant (context : StreamContext) (fragments : List ToolCallDelta) : Prop :=
  ∀ left right, Carries fragments left → Carries fragments right →
    ∃ calls others, EndsWith context left calls ∧ EndsWith context right others ∧
      Alike fragments calls others

/-- An event that carries fragments carries nothing else. -/
theorem carries_toolEvents (deltas : List (List ToolCallDelta)) :
    Carries deltas.flatten (deltas.map toolEvent) := by
  constructor
  · exact List.forall_mem_map.mpr fun delta _ => rfl
  · rw [List.flatMap_map]
    exact congrArg List.flatten (List.map_id' deltas)

section Groupings

variable {context : StreamContext} {fragments : List ToolCallDelta} {chunks : List StreamChunk}
  {calls others : List ToolCall}

/-- The last chunk carries the calls of the deltas. -/
theorem Carries.endsWith (calling : context.functionCallingType = "tool_call".toList)
    (clean : ∀ chunk ∈ chunks, chunk.error = none) {tools : ToolState}
    (merged : (chunks.map streamedToolCalls).foldlM (toolStep context.uuid4Hex) .initial =
      some tools) : EndsWith context chunks tools.toolsCalls := by
  rw [← funext (toolCallsOf_eq calling)] at merged
  exact handleGenerateStreamResponse_tools clean merged

/-- A stream ends in one way. -/
theorem EndsWith.unique (one : EndsWith context chunks calls)
    (other : EndsWith context chunks others) : calls = others := by
  obtain ⟨body, final, ended, rfl⟩ := one
  obtain ⟨more, last, same, rfl⟩ := other
  rw [ended, Generated.mk.injEq] at same
  obtain ⟨-, rfl⟩ := List.append_singleton_inj.mp same.1
  rfl

/-- Calls agree with themselves. -/
theorem Alike.refl (fragments : List ToolCallDelta) (calls : List ToolCall) :
    Alike fragments calls calls :=
  ⟨id, Function.injective_id, fun _ _ _ _ => rfl, (List.map_id' calls).symm⟩

/-- Calls of which one has lost its identifier to another one that was sent do not agree. -/
theorem Alike.not_moved {position : Nat} {old : Text} (alike : Alike fragments calls others)
    (present : (calls.map ToolCall.id)[position]? = some old) :
    ¬MovedAt fragments position old others := by
  rintro ⟨id, moved, differs, fragment, listed, sent⟩
  obtain ⟨rename, injective, fixed, rfl⟩ := alike
  have renamed : (calls.map ToolCall.id)[position]?.map rename = some id := by
    rw [← moved, List.map_map, ← List.getElem?_map, List.map_map]
    rfl
  rw [present, Option.map_some, ← fixed fragment listed id sent] at renamed
  exact differs (injective (Option.some.inj renamed)).symm

/-- When the grouping does not matter, the calls of two groupings agree. -/
theorem BatchingIrrelevant.alike (irrelevant : BatchingIrrelevant context fragments)
    (calling : context.functionCallingType = "tool_call".toList)
    {deltas groups : List (List ToolCallDelta)} {left right : ToolState}
    (ran : deltas.foldlM (toolStep context.uuid4Hex) .initial = some left)
    (joined : deltas.flatten = fragments)
    (grouped : groups.foldlM (toolStep context.uuid4Hex) .initial = some right)
    (rejoined : groups.flatten = fragments) :
    Alike fragments left.toolsCalls right.toolsCalls := by
  have read : ∀ deltas : List (List ToolCallDelta),
      (deltas.map toolEvent).map streamedToolCalls = deltas :=
    fun deltas => by rw [List.map_map]; exact List.map_id' deltas
  have one := carries_toolEvents deltas
  have other := carries_toolEvents groups
  rw [joined] at one
  rw [rejoined] at other
  obtain ⟨calls, others, ends, endsOther, alike⟩ := irrelevant _ _ one other
  obtain rfl := ends.unique (Carries.endsWith calling one.1 (by rw [read]; exact ran))
  obtain rfl := endsOther.unique (Carries.endsWith calling other.1 (by rw [read]; exact grouped))
  exact alike

end Groupings

/-- How the fragments are grouped into deltas does not matter when no fragment replaces an
identifier under which a fragment with a function arrived; and it matters when one does, unless
such an identifier comes back. -/
theorem handleGenerateStreamResponse_batching (context : StreamContext)
    (fragments : List ToolCallDelta)
    (calling : context.functionCallingType = "tool_call".toList)
    (indexed : ∀ fragment ∈ fragments, ∃ index, fragment.index = some index) :
    (IdsSettle context.uuid4Hex fragments → BatchingIrrelevant context fragments) ∧
      (NoneReturns context.uuid4Hex fragments → BatchingIrrelevant context fragments →
        IdsSettle context.uuid4Hex fragments) := by
  constructor
  · intro settle left right leftCarries rightCarries
    have ends : ∀ chunks, Carries fragments chunks →
        EndsWith context chunks (mergedAtOnce context.uuid4Hex fragments) := by
      rintro chunks ⟨clean, rfl⟩
      rw [List.flatMap_def] at settle indexed ⊢
      obtain ⟨tools, merged, -, calls⟩ := foldlM_settled indexed settle
      rw [← calls]
      exact Carries.endsWith calling clean merged
    exact ⟨_, _, ends left leftCarries, ends right rightCarries, Alike.refl _ _⟩
  · intro returns irrelevant
    by_contra unsettled
    obtain ⟨position, old, final, ran, present, moved⟩ := foldlM_differ indexed returns unsettled
    obtain ⟨whole, ranWhole, atOnce⟩ := @foldlM_atOnce context.uuid4Hex fragments indexed
    have alike := irrelevant.alike calling ranWhole (List.flatten_singleton) ran
      (flatten_singletons fragments)
    rw [atOnce] at alike
    exact alike.not_moved present moved

/-- Fragments of one call, whose identifier comes before its function. -/
def settlingFragments : List ToolCallDelta :=
  [⟨some 0, none, none, none⟩,
    ⟨some 0, some "a".toList, none, some ⟨some "f".toList, some "1".toList⟩⟩,
    ⟨some 0, none, none, some ⟨none, some "2".toList⟩⟩]

/-- The grouping of the settling fragments does not matter. -/
theorem handleGenerateStreamResponse_batching_settling :
    BatchingIrrelevant (characterContext "tool_call") settlingFragments := by
  refine (handleGenerateStreamResponse_batching (characterContext "tool_call") settlingFragments
    rfl (fun fragment listed => Option.isSome_iff_exists.mp
      ((by decide : ∀ fragment ∈ settlingFragments, fragment.index.isSome = true)
        fragment listed))).1 ?_
  intro before fragment after shape old new replaces called
  match before with
  | [] =>
    obtain ⟨index, seen, -⟩ := replaces.current
    simp [indices] at seen
  | [first] =>
    obtain ⟨rfl, -⟩ := List.cons.inj shape
    simp [Called, assigned, identified] at called
  | [first, second] =>
    obtain ⟨-, later⟩ := List.cons.inj shape
    obtain ⟨-, last⟩ := List.cons.inj later
    obtain ⟨rfl, -⟩ := List.cons.inj last
    have sent := replaces.sent
    simp [sentId, truthy] at sent
  | first :: second :: third :: rest =>
    have length := congrArg List.length shape
    simp [settlingFragments] at length

/-- Fragments of one call, whose identifier comes after its function. -/
def lateIdentifier : List ToolCallDelta :=
  [⟨some 0, none, none, some ⟨some "f".toList, some "1".toList⟩⟩,
    ⟨some 0, some "a".toList, none, some ⟨none, some "2".toList⟩⟩]

/-- In one delta the fragments become two calls, in two deltas they become one. -/
theorem handleGenerateStreamResponse_batching_late :
    Separate (characterContext "tool_call").uuid4Hex lateIdentifier ∧
      ¬BatchingIrrelevant (characterContext "tool_call") lateIdentifier := by
  constructor
  · exact {
      indexed := fun fragment found => Option.isSome_iff_exists.mp
        ((by decide : ∀ fragment ∈ lateIdentifier, fragment.index.isSome = true) fragment found)
      separate := by decide
      once := by decide
      fresh := by decide }
  · intro irrelevant
    have two : ([lateIdentifier].foldlM (toolStep (characterContext "tool_call").uuid4Hex)
        .initial).map (fun tools => tools.toolsCalls.length) = some 2 := by decide
    have one : ((lateIdentifier.map fun fragment => [fragment]).foldlM
        (toolStep (characterContext "tool_call").uuid4Hex) .initial).map
          (fun tools => tools.toolsCalls.length) = some 1 := by decide
    obtain ⟨whole, ranWhole, lengthWhole⟩ := Option.map_eq_some_iff.mp two
    obtain ⟨each, ranEach, lengthEach⟩ := Option.map_eq_some_iff.mp one
    obtain ⟨rename, -, -, same⟩ := irrelevant.alike rfl ranWhole List.flatten_singleton ranEach
      (flatten_singletons lateIdentifier)
    have lengths := congrArg List.length same
    rw [List.length_map] at lengths
    omega

end DifyPlugin.OpenaiCompatible
