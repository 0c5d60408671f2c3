import DifyPlugin.Interfaces.Model.OpenaiCompatible.ToolCalls
import DifyPlugin.Library.Table

/-!
# Assembly of streamed tool calls

`callsFrom` says what the fragments of a stream amount to, one index at a time. The handler gets
there in two passes over each delta: the first moves the identifiers on and leaves the fragments
behind, the second adds the fragments under identifiers that no longer change. `Tracks` is the
invariant of both, with one fragment list for each pass.
-/

namespace DifyPlugin.OpenaiCompatible

open Table

/-- The fragments of one index. -/
def fragmentsOf (fragments : List ToolCallDelta) (index : Int) : List ToolCallDelta :=
  fragments.filter fun fragment => fragment.index = some index

/-- The indices of a stream in order of first appearance. -/
def indices (fragments : List ToolCallDelta) : List Int :=
  firstSeen (fragments.filterMap ToolCallDelta.index)

/-- The indices that have a fragment with a function, in order of the first one. -/
def calledIndices (fragments : List ToolCallDelta) : List Int :=
  indices (fragments.filter fun fragment => fragment.function.isSome)

/-- The identifier a fragment sends, when it sends one. -/
def sentId (fragment : ToolCallDelta) : Option Text := truthy fragment.id

/-- The identifiers the provider sent for one index. -/
def sentIds (fragments : List ToolCallDelta) (index : Int) : List Text :=
  (fragmentsOf fragments index).filterMap sentId

/-- The indices whose first fragment sends no identifier, in order of first appearance. -/
def anonymous (fragments : List ToolCallDelta) : List Int :=
  (indices fragments).filter fun index =>
    (((fragmentsOf fragments index).head?.bind sentId).isNone)

/-- The identifier that is generated for one index. -/
def stableId (uuid4Hex : Nat → Text) (fragments : List ToolCallDelta) (index : Int) : Text :=
  genToolCallId uuid4Hex ((anonymous fragments).idxOf index)

/-- The last identifier that was sent for one index, or the generated one. -/
def idOf (uuid4Hex : Nat → Text) (fragments : List ToolCallDelta) (index : Int) : Text :=
  (sentIds fragments index).getLast?.getD (stableId uuid4Hex fragments index)

/-- The type a fragment gives its function. -/
def sentType (fragment : ToolCallDelta) : Option Text :=
  fragment.function.bind fun _ => truthy fragment.type

/-- The name a fragment gives its function. -/
def sentName (fragment : ToolCallDelta) : Option Text :=
  fragment.function.bind fun function => truthy function.name

/-- The arguments a fragment adds to its function. -/
def sentArguments (fragment : ToolCallDelta) : Text :=
  (fragment.function.bind FunctionDelta.arguments).getD []

/-- The call that fragments of one index make, under a given identifier. -/
def callFrom (id : Text) (own : List ToolCallDelta) : ToolCall :=
  { id
    type := (own.filterMap sentType).getLast?.getD "function".toList
    function :=
      { name := (own.filterMap sentName).getLast?.getD []
        arguments := own.flatMap sentArguments } }

/-- One call for each called index, under the given identifiers. -/
def callsFrom (ids : Int → Text) (fragments : List ToolCallDelta) : List ToolCall :=
  (calledIndices fragments).map fun index => callFrom (ids index) (fragmentsOf fragments index)

/-- What the assembly relies on: every fragment has an index, identifiers sent for different
indices differ, and the generated ones are fresh. -/
structure Separate (uuid4Hex : Nat → Text) (fragments : List ToolCallDelta) : Prop where
  /-- Every fragment has an index. -/
  indexed : ∀ fragment ∈ fragments, ∃ index, fragment.index = some index
  /-- An identifier is sent for one index only. -/
  separate : ∀ left ∈ fragments, ∀ right ∈ fragments, sentId left ≠ none →
    sentId left = sentId right → left.index = right.index
  /-- No identifier is generated twice. -/
  once : ∀ left < (anonymous fragments).length, ∀ right < (anonymous fragments).length,
    genToolCallId uuid4Hex left = genToolCallId uuid4Hex right → left = right
  /-- No generated identifier is sent. -/
  fresh : ∀ fragment ∈ fragments, ∀ count < (anonymous fragments).length,
    sentId fragment ≠ some (genToolCallId uuid4Hex count)

variable {uuid4Hex : Nat → Text}

/-- No generated identifier is empty. -/
theorem genToolCallId_visible (uuid4Hex : Nat → Text) (count : Nat) :
    genToolCallId uuid4Hex count ≠ [] :=
  List.append_ne_nil_of_left_ne_nil (by decide) _

section Snoc

variable {fragments : List ToolCallDelta} {fragment : ToolCallDelta} {index other : Int}

/-- The fragments of the index of the last fragment. -/
theorem fragmentsOf_snoc_same (own : fragment.index = some index) :
    fragmentsOf (fragments ++ [fragment]) index = fragmentsOf fragments index ++ [fragment] := by
  simp [fragmentsOf, own]

/-- The fragments of another index. -/
theorem fragmentsOf_snoc_other (own : fragment.index = some index) (differs : other ≠ index) :
    fragmentsOf (fragments ++ [fragment]) other = fragmentsOf fragments other := by
  simp [fragmentsOf, own, Ne.symm differs]

/-- An index has appeared when it has fragments. -/
theorem mem_indices : index ∈ indices fragments ↔ fragmentsOf fragments index ≠ [] := by
  simp only [indices, mem_firstSeen, List.mem_filterMap, fragmentsOf, ne_eq,
    List.filter_eq_nil_iff, decide_eq_true_eq, not_forall, not_not, exists_prop]

/-- The index of a fragment has appeared. -/
theorem indices_of_mem (own : fragment.index = some index) (found : fragment ∈ fragments) :
    index ∈ indices fragments := by
  simp only [indices, mem_firstSeen, List.mem_filterMap]
  exact ⟨fragment, found, own⟩

/-- An index that has appeared keeps having appeared. -/
theorem indices_append {part rest : List ToolCallDelta} (seen : index ∈ indices part) :
    index ∈ indices (part ++ rest) := by
  simp only [indices, mem_firstSeen, List.mem_filterMap] at seen
  obtain ⟨fragment, found, own⟩ := seen
  exact indices_of_mem own (List.mem_append_left rest found)

/-- Another fragment adds its index unless it has appeared. -/
theorem indices_snoc (own : fragment.index = some index) :
    indices (fragments ++ [fragment]) =
      if index ∈ indices fragments then indices fragments else indices fragments ++ [index] := by
  simp only [indices, List.filterMap_append, List.filterMap_cons, own, List.filterMap_nil,
    firstSeen_snoc, mem_firstSeen]

/-- The indices that have appeared, with one more fragment. -/
theorem mem_indices_snoc (own : fragment.index = some index) :
    other ∈ indices (fragments ++ [fragment]) ↔ other ∈ indices fragments ∨ other = index := by
  rw [indices_snoc own]
  split
  · rename_i seen
    exact ⟨Or.inl, fun found => found.elim id fun same => same ▸ seen⟩
  · simp

/-- A fragment without a function calls nothing. -/
theorem calledIndices_snoc_silent (silent : fragment.function = none) :
    calledIndices (fragments ++ [fragment]) = calledIndices fragments := by
  simp [calledIndices, silent]

/-- A fragment with a function calls its index. -/
theorem calledIndices_snoc (own : fragment.index = some index)
    (calls : fragment.function.isSome = true) :
    calledIndices (fragments ++ [fragment]) =
      if index ∈ calledIndices fragments then calledIndices fragments
      else calledIndices fragments ++ [index] := by
  have kept : (fragments ++ [fragment]).filter (fun fragment => fragment.function.isSome) =
      fragments.filter (fun fragment => fragment.function.isSome) ++ [fragment] := by
    simp [calls]
  rw [calledIndices, kept, indices_snoc own]
  rfl

/-- A called index has appeared. -/
theorem indices_of_called (called : index ∈ calledIndices fragments) :
    index ∈ indices fragments := by
  simp only [calledIndices, indices, mem_firstSeen, List.mem_filterMap, List.mem_filter] at called ⊢
  obtain ⟨fragment, ⟨found, -⟩, own⟩ := called
  exact ⟨fragment, found, own⟩

/-- The identifiers sent for the index of the last fragment. -/
theorem sentIds_snoc_same (own : fragment.index = some index) :
    sentIds (fragments ++ [fragment]) index =
      sentIds fragments index ++ (sentId fragment).toList := by
  rw [sentIds, fragmentsOf_snoc_same own, List.filterMap_append]
  cases sent : sentId fragment <;> simp [sentIds, sent]

/-- The identifiers sent for another index. -/
theorem sentIds_snoc_other (own : fragment.index = some index) (differs : other ≠ index) :
    sentIds (fragments ++ [fragment]) other = sentIds fragments other := by
  rw [sentIds, fragmentsOf_snoc_other own differs, sentIds]

/-- An identifier was sent by a fragment of its index. -/
theorem mem_sentIds {id : Text} (found : id ∈ sentIds fragments index) :
    ∃ fragment ∈ fragments, fragment.index = some index ∧ sentId fragment = some id := by
  obtain ⟨fragment, listed, sent⟩ := List.mem_filterMap.mp found
  obtain ⟨present, own⟩ := List.mem_filter.mp listed
  exact ⟨fragment, present, of_decide_eq_true own, sent⟩

/-- Whether the first fragment of an index that has appeared sends an identifier is settled. -/
theorem head_fragmentsOf_snoc (own : fragment.index = some index)
    (seen : other ∈ indices fragments) :
    (fragmentsOf (fragments ++ [fragment]) other).head? = (fragmentsOf fragments other).head? := by
  by_cases same : other = index
  · subst same
    rw [fragmentsOf_snoc_same own, List.head?_append_of_ne_nil _ (mem_indices.mp seen)]
  · rw [fragmentsOf_snoc_other own same]

/-- Another fragment makes its index anonymous when it is the first one and sends no identifier. -/
theorem anonymous_snoc (own : fragment.index = some index) :
    anonymous (fragments ++ [fragment]) =
      if index ∉ indices fragments ∧ sentId fragment = none then anonymous fragments ++ [index]
      else anonymous fragments := by
  have settled : (indices fragments).filter (fun other =>
      ((fragmentsOf (fragments ++ [fragment]) other).head?.bind sentId).isNone) =
        anonymous fragments := by
    refine List.filter_congr fun other seen => ?_
    rw [head_fragmentsOf_snoc own seen]
  rw [anonymous, indices_snoc own]
  by_cases seen : index ∈ indices fragments
  · rw [if_pos seen, if_neg (fun fresh => fresh.1 seen), settled]
  · have first : fragmentsOf fragments index = [] :=
      not_not.mp fun present => seen (mem_indices.mpr present)
    rw [if_neg seen, List.filter_append, settled, List.filter_singleton,
      fragmentsOf_snoc_same own, first]
    cases sent : sentId fragment <;> simp [seen, sent]

/-- Later fragments make further indices anonymous, after those there are. -/
theorem anonymous_append {more : List ToolCallDelta}
    (indexed : ∀ other ∈ more, ∃ number, other.index = some number) :
    ∃ later, anonymous (fragments ++ more) = anonymous fragments ++ later := by
  induction more generalizing fragments with
  | nil => exact ⟨[], by simp⟩
  | cons first rest ih =>
    obtain ⟨number, own⟩ := indexed first (by simp)
    obtain ⟨later, grown⟩ :=
      ih fun other found => indexed other (by simp [found])
    rw [List.append_cons, grown, anonymous_snoc own]
    split
    · exact ⟨number :: later, by simp⟩
    · exact ⟨later, rfl⟩

/-- The assumptions hold of every prefix of the stream. -/
theorem Separate.before {more : List ToolCallDelta} (all : Separate uuid4Hex (fragments ++ more)) :
    Separate uuid4Hex fragments := by
  obtain ⟨later, grown⟩ := anonymous_append
    fun other found => all.indexed other (List.mem_append_right fragments found)
  have shorter : (anonymous fragments).length ≤ (anonymous (fragments ++ more)).length := by
    rw [grown, List.length_append]
    omega
  have within : ∀ other ∈ fragments, other ∈ fragments ++ more :=
    fun other found => List.mem_append_left more found
  exact {
    indexed := fun other found => all.indexed other (within other found)
    separate := fun left foundLeft right foundRight =>
      all.separate left (within left foundLeft) right (within right foundRight)
    once := fun left boundLeft right boundRight =>
      all.once left (by omega) right (by omega)
    fresh := fun other found count bound =>
      all.fresh other (within other found) count (by omega) }

/-- An anonymous index has appeared. -/
theorem indices_of_anonymous (found : index ∈ anonymous fragments) : index ∈ indices fragments :=
  (List.mem_filter.mp found).1

/-- An index that has appeared and has sent no identifier is anonymous. -/
theorem anonymous_of_unsent (seen : index ∈ indices fragments)
    (unsent : sentIds fragments index = []) : index ∈ anonymous fragments := by
  refine List.mem_filter.mpr ⟨seen, ?_⟩
  rw [sentIds, List.filterMap_eq_nil_iff] at unsent
  cases first : (fragmentsOf fragments index).head? with
  | none => rfl
  | some fragment => simp [unsent fragment (List.mem_of_head? first)]

/-- The generated identifier of an index that has appeared is settled. -/
theorem stableId_snoc (own : fragment.index = some index) (listed : other ∈ anonymous fragments) :
    stableId uuid4Hex (fragments ++ [fragment]) other =
      stableId uuid4Hex fragments other := by
  rw [stableId, stableId, anonymous_snoc own]
  split
  · rw [List.idxOf_append_of_mem listed]
  · rfl

/-- The identifier of another index stays. -/
theorem idOf_snoc_other (own : fragment.index = some index) (differs : other ≠ index)
    (seen : other ∈ indices fragments) :
    idOf uuid4Hex (fragments ++ [fragment]) other = idOf uuid4Hex fragments other := by
  rw [idOf, idOf, sentIds_snoc_other own differs]
  cases sent : (sentIds fragments other).getLast? with
  | some id => rfl
  | none =>
    rw [Option.getD_none, Option.getD_none,
      stableId_snoc own (anonymous_of_unsent seen (List.getLast?_eq_none_iff.mp sent))]

/-- An identifier that is sent replaces the one before. -/
theorem idOf_snoc_sent {id : Text} (own : fragment.index = some index)
    (sent : sentId fragment = some id) :
    idOf uuid4Hex (fragments ++ [fragment]) index = id := by
  simp [idOf, sentIds_snoc_same own, sent]

/-- A fragment that sends none keeps the identifier of an index that has one. -/
theorem idOf_snoc_kept (own : fragment.index = some index) (sent : sentId fragment = none)
    (seen : index ∈ indices fragments) :
    idOf uuid4Hex (fragments ++ [fragment]) index = idOf uuid4Hex fragments index := by
  rw [idOf, idOf, sentIds_snoc_same own, sent, Option.toList_none, List.append_nil, stableId,
    stableId, anonymous_snoc own, if_neg fun fresh => fresh.1 seen]

/-- A new index that sends no identifier takes the next generated one. -/
theorem idOf_snoc_generated (own : fragment.index = some index) (sent : sentId fragment = none)
    (unseen : index ∉ indices fragments) :
    idOf uuid4Hex (fragments ++ [fragment]) index =
      genToolCallId uuid4Hex (anonymous fragments).length := by
  have first : fragmentsOf fragments index = [] :=
    not_not.mp fun present => unseen (mem_indices.mpr present)
  have absent : index ∉ anonymous fragments := fun found => unseen (indices_of_anonymous found)
  rw [idOf, sentIds_snoc_same own, sent, sentIds, first, stableId, anonymous_snoc own,
    if_pos ⟨unseen, sent⟩, List.idxOf_append_of_notMem absent]
  simp

end Snoc

section Identifiers

variable {fragments : List ToolCallDelta} {left right index : Int}

/-- The identifier of an index was sent for it, or generated because none was. -/
theorem idOf_cases (uuid4Hex : Nat → Text) (seen : index ∈ indices fragments) :
    (∃ fragment ∈ fragments, fragment.index = some index ∧
        sentId fragment = some (idOf uuid4Hex fragments index)) ∨
      (index ∈ anonymous fragments ∧
        idOf uuid4Hex fragments index = stableId uuid4Hex fragments index) := by
  cases sent : (sentIds fragments index).getLast? with
  | some id =>
    left
    rw [idOf, sent]
    exact mem_sentIds (List.mem_of_getLast? sent)
  | none =>
    right
    exact ⟨anonymous_of_unsent seen (List.getLast?_eq_none_iff.mp sent), by rw [idOf, sent]; rfl⟩

/-- No identifier is empty. -/
theorem idOf_visible (uuid4Hex : Nat → Text) (seen : index ∈ indices fragments) :
    idOf uuid4Hex fragments index ≠ [] := by
  rcases idOf_cases uuid4Hex seen with ⟨fragment, -, -, sent⟩ | ⟨-, generated⟩
  · exact truthy_some sent
  · rw [generated]
    exact genToolCallId_visible uuid4Hex _

/-- Different indices have different identifiers. -/
theorem idOf_injective (separate : Separate uuid4Hex fragments)
    (seenLeft : left ∈ indices fragments) (seenRight : right ∈ indices fragments)
    (same : idOf uuid4Hex fragments left = idOf uuid4Hex fragments right) :
    left = right := by
  rcases idOf_cases uuid4Hex seenLeft with ⟨one, oneFound, ownOne, sentOne⟩ | ⟨listed, one⟩ <;>
    rcases idOf_cases uuid4Hex seenRight with
      ⟨two, twoFound, ownTwo, sentTwo⟩ | ⟨listedRight, two⟩
  · have agree := separate.separate one oneFound two twoFound (by simp [sentOne])
      (sentOne.trans (same ▸ sentTwo.symm))
    rw [ownOne, ownTwo] at agree
    exact Option.some.inj agree
  · exact absurd (sentOne.trans (congrArg some (same.trans two)))
      (separate.fresh one oneFound _ (List.idxOf_lt_length_iff.mpr listedRight))
  · exact absurd (sentTwo.trans (congrArg some (same.symm.trans one)))
      (separate.fresh two twoFound _ (List.idxOf_lt_length_iff.mpr listed))
  · have positions := separate.once _ (List.idxOf_lt_length_iff.mpr listed) _
      (List.idxOf_lt_length_iff.mpr listedRight) (one.symm.trans (same.trans two))
    exact (List.idxOf_inj listed).mp positions

end Identifiers

/-- The state after the identifiers of some fragments were assigned and some were merged. -/
structure Tracks (uuid4Hex : Nat → Text) (named filled : List ToolCallDelta)
    (state : ToolState) : Prop where
  /-- The calls hold the merged fragments under the assigned identifiers. -/
  calls : state.toolsCalls = callsFrom (idOf uuid4Hex named) filled
  /-- Every index that has appeared has its identifier. -/
  ids : ∀ index, state.toolCallIds index =
    if index ∈ indices named then some (idOf uuid4Hex named index) else none
  /-- One identifier was generated for each anonymous index. -/
  generated : state.generated = (anonymous named).length

section Assignment

variable {named filled : List ToolCallDelta} {state : ToolState} {fragment : ToolCallDelta}
  {index : Int}

/-- The choice between the sent, the previous and a generated identifier. -/
theorem chooseId_tracks (own : fragment.index = some index)
    (tracks : Tracks uuid4Hex named filled state) :
    chooseId uuid4Hex fragment.id (state.toolCallIds index) state.generated =
      (idOf uuid4Hex (named ++ [fragment]) index,
        (anonymous (named ++ [fragment])).length) := by
  rw [chooseId, tracks.ids, tracks.generated, anonymous_snoc own]
  cases sent : sentId fragment with
  | some id =>
    have truth : truthy fragment.id = some id := sent
    simp [truth, idOf_snoc_sent own sent]
  | none =>
    have falsity : truthy fragment.id = none := sent
    by_cases seen : index ∈ indices named
    · have visible := idOf_visible uuid4Hex seen
      simp [falsity, seen, truthy_visible visible, idOf_snoc_kept own sent seen]
    · have absent : truthy none = none := rfl
      simp [falsity, absent, seen, idOf_snoc_generated own sent seen]

/-- Renaming the call of an index moves its identifier on. -/
theorem renameCall_tracks (own : fragment.index = some index)
    (separate : Separate uuid4Hex (named ++ [fragment]))
    (called : ∀ other ∈ calledIndices filled, other ∈ indices named)
    (tracks : Tracks uuid4Hex named filled state) :
    renameCall (state.toolCallIds index) (idOf uuid4Hex (named ++ [fragment]) index)
        state.toolsCalls =
      callsFrom (idOf uuid4Hex (named ++ [fragment])) filled := by
  have before : Separate uuid4Hex named := separate.before
  have unchanged : ∀ other ∈ calledIndices filled, other ≠ index →
      idOf uuid4Hex (named ++ [fragment]) other = idOf uuid4Hex named other :=
    fun other found differs => idOf_snoc_other own differs (called other found)
  rw [renameCall, tracks.calls, tracks.ids]
  by_cases present : index ∈ calledIndices filled
  · have seen := called index present
    -- The identifier of the index is found at its own call, since no other index has it.
    rw [if_pos seen, callsFrom, findIdx?_listed present _ _ fun other found => by
      simp only [callFrom, Option.some.injEq, decide_eq_true_eq]
      exact ⟨idOf_injective before (called other found) seen, fun same => by rw [same]⟩]
    exact modify_listed (firstSeen_nodup _) present rfl fun other found differs => by
      rw [unchanged other found differs]
  · have refuses : ((calledIndices filled).map fun other => callFrom
        (idOf uuid4Hex named other) (fragmentsOf filled other)).findIdx?
          (fun call => some call.id =
            if index ∈ indices named then some (idOf uuid4Hex named index) else none) = none := by
      refine findIdx?_unlisted _ _ fun other found => decide_eq_false fun same => ?_
      split at same
      · rename_i seen
        have equal := idOf_injective before (called other found) seen (Option.some.inj same)
        exact present (equal ▸ found)
      · simp at same
    rw [callsFrom, refuses]
    refine List.map_congr_left fun other found => ?_
    rw [unchanged other found fun same => present (same ▸ found)]

/-- One round of the first pass. -/
theorem assignId_tracks (own : fragment.index = some index)
    (separate : Separate uuid4Hex (named ++ [fragment]))
    (called : ∀ other ∈ calledIndices filled, other ∈ indices named)
    (tracks : Tracks uuid4Hex named filled state) :
    Tracks uuid4Hex (named ++ [fragment]) filled (assignId uuid4Hex state fragment).1 ∧
      (assignId uuid4Hex state fragment).2 =
        { fragment with id := some (idOf uuid4Hex (named ++ [fragment]) index) } := by
  simp only [assignId, own, chooseId_tracks own tracks,
    renameCall_tracks own separate called tracks]
  refine ⟨⟨rfl, fun other => ?_, rfl⟩, trivial⟩
  change Function.update state.toolCallIds index _ other = _
  by_cases same : other = index
  · subst same
    simp [mem_indices_snoc own]
  · rw [Function.update_of_ne same, tracks.ids]
    by_cases seen : other ∈ indices named
    · simp [seen, mem_indices_snoc own, idOf_snoc_other own same seen]
    · simp [seen, mem_indices_snoc own, same]

/-- Fragments of other indices leave the identifier of an index alone. -/
theorem idOf_append_other {rest : List ToolCallDelta}
    (indexed : ∀ other ∈ rest, ∃ number, other.index = some number)
    (differs : ∀ other ∈ rest, other.index ≠ some index) (seen : index ∈ indices named) :
    idOf uuid4Hex (named ++ rest) index = idOf uuid4Hex named index := by
  induction rest generalizing named with
  | nil => rw [List.append_nil]
  | cons first rest ih =>
    obtain ⟨number, own⟩ := indexed first (by simp)
    have other : index ≠ number := fun same => differs first (by simp) (same ▸ own)
    rw [List.append_cons, ih (fun later found => indexed later (by simp [found]))
      (fun later found => differs later (by simp [found]))
      ((mem_indices_snoc own).mpr (Or.inl seen)), idOf_snoc_other own other seen]

/-- A fragment under the identifier of its index. -/
def identified (ids : Int → Text) (fragment : ToolCallDelta) : ToolCallDelta :=
  { fragment with id := fragment.index.map ids }

/-- The first pass over a delta that names no index twice. -/
theorem assignIds_tracks {delta : List ToolCallDelta}
    (separate : Separate uuid4Hex (named ++ delta))
    (once : (delta.map ToolCallDelta.index).Nodup)
    (called : ∀ other ∈ calledIndices filled, other ∈ indices named)
    (tracks : Tracks uuid4Hex named filled state) :
    Tracks uuid4Hex (named ++ delta) filled (assignIds uuid4Hex state delta).1 ∧
      (assignIds uuid4Hex state delta).2 =
        delta.map (identified (idOf uuid4Hex (named ++ delta))) := by
  induction delta generalizing named state with
  | nil => exact ⟨by simpa [assignIds] using tracks, rfl⟩
  | cons first rest ih =>
    obtain ⟨index, own⟩ := separate.indexed first (by simp)
    obtain ⟨differs, once⟩ := List.nodup_cons.mp once
    rw [List.append_cons] at separate ⊢
    obtain ⟨tracksFirst, assignedFirst⟩ := assignId_tracks own separate.before called tracks
    have calledFirst : ∀ other ∈ calledIndices filled, other ∈ indices (named ++ [first]) :=
      fun other found => (mem_indices_snoc own).mpr (Or.inl (called other found))
    obtain ⟨tracksRest, assignedRest⟩ := ih separate once calledFirst tracksFirst
    refine ⟨tracksRest, ?_⟩
    -- No later fragment of the delta has this index, so its identifier is final.
    have final : idOf uuid4Hex (named ++ [first] ++ rest) index =
        idOf uuid4Hex (named ++ [first]) index :=
      idOf_append_other (fun other found => separate.indexed other (by simp [found]))
        (fun other found same => differs (own ▸ same ▸ List.mem_map_of_mem found))
        ((mem_indices_snoc own).mpr (Or.inr rfl))
    simp only [assignIds, assignedFirst, assignedRest, List.map_cons, identified, own,
      Option.map_some, final]

end Assignment

section Merging

variable {ids : Int → Text} {done : List ToolCallDelta} {fragment : ToolCallDelta} {new : ToolCall}
  {index : Int}

/-- The last of some values, with one more that may be absent. -/
theorem getLast?_snoc (values : List Text) {value : Option Text} (default : Text)
    (visible : value ≠ some []) :
    (values ++ value.toList).getLast?.getD default =
      replaceText (value.getD []) (values.getLast?.getD default) := by
  cases value with
  | none => simp [replaceText]
  | some text =>
    have full : text ≠ [] := fun empty => visible (congrArg some empty)
    simp [replaceText, full]

/-- Filtering one more element. -/
theorem filterMap_snoc (part : ToolCallDelta → Option Text) (own : List ToolCallDelta) :
    (own ++ [fragment]).filterMap part = own.filterMap part ++ (part fragment).toList := by
  cases value : part fragment <;> simp [value]

/-- A fragment without a function changes no call. -/
theorem callFrom_snoc_silent (id : Text) (own : List ToolCallDelta)
    (silent : fragment.function = none) :
    callFrom id (own ++ [fragment]) = callFrom id own := by
  simp [callFrom, sentType, sentName, sentArguments, silent]

/-- A fragment with a function updates its call. -/
theorem callFrom_snoc (own : List ToolCallDelta)
    (extracted : extractToolCall (identified ids fragment) = some new) :
    callFrom new.id (own ++ [fragment]) = updateToolCall new (callFrom new.id own) := by
  simp only [extractToolCall, Option.map_eq_some_iff] at extracted
  obtain ⟨function, present, rfl⟩ := extracted
  change fragment.function = some function at present
  have typed : sentType fragment = truthy fragment.type := by rw [sentType, present]; rfl
  have named : sentName fragment = truthy function.name := by rw [sentName, present]; rfl
  have given : sentArguments fragment = ensureFieldEmptyStr function.arguments := by
    rw [sentArguments, present]; rfl
  have same : ∀ id, replaceText id id = id := fun id => by rw [replaceText, ite_self]
  simp only [callFrom, updateToolCall, identified, filterMap_snoc, typed, named,
    List.flatMap_append, List.flatMap_singleton, given, same, ensureFieldEmptyStr_eq fragment.type,
    ensureFieldEmptyStr_eq function.name,
    getLast?_snoc _ _ fun empty => truthy_some empty rfl]

/-- An index that was not called has an empty call. -/
theorem callFrom_uncalled (id : Text) (uncalled : index ∉ calledIndices done) :
    callFrom id (fragmentsOf done index) = emptyToolCall id := by
  have silent : ∀ other ∈ fragmentsOf done index, other.function = none := by
    intro other found
    obtain ⟨present, own⟩ := List.mem_filter.mp found
    by_contra calls
    refine uncalled ?_
    simp only [calledIndices, indices, mem_firstSeen, List.mem_filterMap, List.mem_filter]
    exact ⟨other, ⟨present, Option.isSome_iff_ne_none.mpr calls⟩, of_decide_eq_true own⟩
  generalize fragmentsOf done index = own at silent
  induction own with
  | nil => rfl
  | cons first rest ih =>
    have quiet := silent first (by simp)
    rw [← ih fun other found => silent other (by simp [found])]
    simp [callFrom, sentType, sentName, sentArguments, quiet]

/-- A fragment without a function adds nothing to the calls. -/
theorem callsFrom_snoc_silent (own : fragment.index = some index)
    (silent : fragment.function = none) :
    callsFrom ids (done ++ [fragment]) = callsFrom ids done := by
  rw [callsFrom, callsFrom, calledIndices_snoc_silent silent]
  refine List.map_congr_left fun other _ => ?_
  by_cases same : other = index
  · subst same
    rw [fragmentsOf_snoc_same own, callFrom_snoc_silent _ _ silent]
  · rw [fragmentsOf_snoc_other own same]

/-- One round of the second pass, for a fragment whose index has its final identifier. -/
theorem mergeToolCall_callsFrom (own : fragment.index = some index)
    (extracted : extractToolCall (identified ids fragment) = some new) (visible : ids index ≠ [])
    (distinct : ∀ other ∈ calledIndices done, ids other = ids index → other = index)
    (uuid4Hex : Nat → Text) (generated : Nat) :
    mergeToolCall uuid4Hex (callsFrom ids done) generated new =
      some (callsFrom ids (done ++ [fragment]), generated) := by
  obtain ⟨calls, named⟩ : fragment.function.isSome = true ∧ new.id = ids index := by
    simp only [extractToolCall, Option.map_eq_some_iff, identified, own] at extracted
    obtain ⟨function, present, rfl⟩ := extracted
    exact ⟨by rw [present]; rfl, rfl⟩
  have updated : callFrom (ids index) (fragmentsOf (done ++ [fragment]) index) =
      updateToolCall new (callFrom (ids index) (fragmentsOf done index)) := by
    rw [fragmentsOf_snoc_same own, ← named, callFrom_snoc _ extracted]
  have unchanged : ∀ other, other ≠ index →
      callFrom (ids other) (fragmentsOf (done ++ [fragment]) other) =
        callFrom (ids other) (fragmentsOf done other) :=
    fun other differs => by rw [fragmentsOf_snoc_other own differs]
  rw [← named] at visible
  rw [mergeToolCall, if_neg fun missing => visible missing.2]
  simp only [getToolCall, if_neg visible]
  by_cases present : index ∈ calledIndices done
  · have located : (callsFrom ids done).findIdx? (fun call => call.id = new.id) =
        some ((calledIndices done).idxOf index) :=
      findIdx?_listed present _ _ fun other found => by
        simp only [callFrom, named, decide_eq_true_eq]
        exact ⟨distinct other found, fun same => by rw [same]⟩
    have moved : (callsFrom ids done).modify ((calledIndices done).idxOf index)
        (updateToolCall new) = callsFrom ids (done ++ [fragment]) := by
      rw [callsFrom, callsFrom, calledIndices_snoc own calls, if_pos present]
      exact modify_listed (firstSeen_nodup _) present updated
        fun other _ differs => unchanged other differs
    rw [located]
    simp only [Option.map_some, moved]
  · have missing : (callsFrom ids done).findIdx? (fun call => call.id = new.id) = none :=
      findIdx?_unlisted _ _ fun other found => decide_eq_false fun same =>
        present (distinct other found (same.trans named) ▸ found)
    rw [missing, callsFrom, callsFrom, calledIndices_snoc own calls, if_neg present,
      List.map_append, List.map_singleton, updated, callFrom_uncalled _ present, ← named]
    simp only [Option.map_some, modify_last]
    rw [List.map_congr_left fun other found => unchanged other fun same => present (same ▸ found)]

/-- The second pass over a delta whose indices have their final identifiers. -/
theorem increaseToolCall_callsFrom (uuid4Hex : Nat → Text) (ids : Int → Text)
    {delta : List ToolCallDelta}
    (indexed : ∀ other ∈ delta, ∃ number, other.index = some number)
    (visible : ∀ other ∈ indices (done ++ delta), ids other ≠ [])
    (distinct : ∀ left ∈ indices (done ++ delta), ∀ right ∈ indices (done ++ delta),
      ids left = ids right → left = right)
    (generated : Nat) :
    increaseToolCall uuid4Hex (extractResponseToolCalls (delta.map (identified ids)))
        (callsFrom ids done) generated =
      some (callsFrom ids (done ++ delta), generated) := by
  induction delta generalizing done with
  | nil => simp [extractResponseToolCalls, increaseToolCall]
  | cons first rest ih =>
    obtain ⟨index, own⟩ := indexed first (by simp)
    rw [List.append_cons] at visible distinct ⊢
    have later := ih (fun other found => indexed other (by simp [found])) visible distinct
    cases calls : first.function with
    | none =>
      have silent : extractToolCall (identified ids first) = none := by
        simp [extractToolCall, identified, calls]
      rw [callsFrom_snoc_silent own calls] at later
      rw [List.map_cons, extractResponseToolCalls, List.filterMap_cons_none silent]
      exact later
    | some function =>
      have seen : index ∈ indices (done ++ [first] ++ rest) := indices_of_mem own (by simp)
      have calledSeen : ∀ other ∈ calledIndices done, other ∈ indices (done ++ [first] ++ rest) :=
        fun other found => indices_append (indices_append (indices_of_called found))
      obtain ⟨new, extracted⟩ : ∃ new, extractToolCall (identified ids first) = some new := by
        simp [extractToolCall, identified, calls]
      have merged := mergeToolCall_callsFrom own extracted (visible index seen)
        (fun other found same => distinct other (calledSeen other found) index seen same)
        uuid4Hex generated
      rw [List.map_cons, extractResponseToolCalls, List.filterMap_cons_some extracted,
        increaseToolCall, merged]
      exact later

end Merging

/-- Nothing was streamed yet. -/
theorem Tracks.initial : Tracks uuid4Hex [] [] .initial := ⟨rfl, fun _ => rfl, rfl⟩

/-- The handler merges every delta that names no index twice. -/
theorem toolStep_tracks {fragments delta : List ToolCallDelta} {state : ToolState}
    (separate : Separate uuid4Hex (fragments ++ delta))
    (once : (delta.map ToolCallDelta.index).Nodup)
    (tracks : Tracks uuid4Hex fragments fragments state) :
    ∃ next, toolStep uuid4Hex state delta = some next ∧
      Tracks uuid4Hex (fragments ++ delta) (fragments ++ delta) next := by
  obtain ⟨assigned, identifiers⟩ :=
    assignIds_tracks separate once (fun other found => indices_of_called found) tracks
  have merged := increaseToolCall_callsFrom uuid4Hex (idOf uuid4Hex (fragments ++ delta))
    (fun other found => separate.indexed other (List.mem_append_right fragments found))
    (fun other seen => idOf_visible uuid4Hex seen)
    (fun left seenLeft right seenRight => idOf_injective separate seenLeft seenRight)
    (assignIds uuid4Hex state delta).1.generated
  rw [← identifiers, ← assigned.calls] at merged
  refine ⟨{ (assignIds uuid4Hex state delta).1 with
    toolsCalls := callsFrom (idOf uuid4Hex (fragments ++ delta)) (fragments ++ delta) },
    ?_, rfl, assigned.ids, assigned.generated⟩
  simp only [toolStep, merged, Option.map_some]

/-- The identifier generated for an index does not change later. -/
theorem stableId_append (uuid4Hex : Nat → Text) {fragments more : List ToolCallDelta} {index : Int}
    (indexed : ∀ fragment ∈ more, ∃ number, fragment.index = some number)
    (listed : index ∈ anonymous fragments) :
    stableId uuid4Hex (fragments ++ more) index = stableId uuid4Hex fragments index := by
  obtain ⟨later, grown⟩ := anonymous_append indexed
  rw [stableId, stableId, grown, List.idxOf_append_of_mem listed]

end DifyPlugin.OpenaiCompatible
