import DifyPlugin.Core.Documentation.Generator

/-!
# When the table of contents is complete

The loops of `_organize_toc` walk the forest of only referrers. The walk processes every
registered type once and lists the types nested under it, so a type is listed twice where a root
has an only referrer. Roots without one are enough exactly for schemas that are nestable.
-/

namespace DifyPlugin.SchemaDocumentation

open Relation
open DifyPlugin.Forest

namespace Schemas

variable {α : Type} [DecidableEq α] (schemas : Schemas α)

/-- No top type has a single referrer, and no type is reached from itself through types each of
which is the only referrer of the next. -/
structure Nestable : Prop where
  /-- A top type has no referrer or several. -/
  tops : ∀ type ∈ schemas.types, schemas.isTop type → (schemas.referencedBy type).length ≠ 1
  /-- Only referrers do not form a cycle. -/
  acyclic : Acyclic schemas.OnlyReferrer

variable {schemas}

/-- Only registered types have an only referrer, which is registered and refers to them. -/
theorem OnlyReferrer.spec {type refType : α} (only : schemas.OnlyReferrer type refType) :
    type ∈ schemas.types ∧ refType ∈ schemas.types ∧
      refType ∈ schemas.referenceGraph type := by
  have listed : type ∈ schemas.referencedBy refType := by
    rw [show schemas.referencedBy refType = [type] from only]
    exact List.mem_singleton_self type
  unfold referencedBy at listed
  split at listed
  · rename_i registered
    have found := List.mem_filter.mp listed
    exact ⟨found.1, registered, of_decide_eq_true found.2⟩
  · exact absurd listed List.not_mem_nil

/-- A type has at most one only referrer. -/
theorem onlyReferrer_unique : UniqueParent schemas.OnlyReferrer := by
  intro type other refType only otherOnly
  have same : [type] = [other] := only.symm.trans otherOnly
  exact List.head_eq_of_cons_eq same

variable (schemas)

/-- The references that are nested under a type. -/
def children (type : α) : List α :=
  (schemas.referenceGraph type).filter fun refType => schemas.OnlyReferrer type refType

variable {schemas}

/-- Nested under a type are those it is the only referrer of. -/
theorem mem_children_iff {type refType : α} :
    refType ∈ schemas.children type ↔ schemas.OnlyReferrer type refType := by
  rw [children, List.mem_filter, decide_eq_true_eq]
  constructor
  · exact fun found => found.2
  · exact fun only => ⟨only.spec.2.2, only⟩

/-- Nesting is the relation to the only referrer. -/
theorem children_rel :
    (fun type refType => refType ∈ schemas.children type) = schemas.OnlyReferrer := by
  funext type refType
  exact propext mem_children_iff

/-- A type has one referrer when it has an only referrer. -/
theorem length_referencedBy_eq_one {refType : α} :
    (schemas.referencedBy refType).length = 1 ↔ ∃ type, schemas.OnlyReferrer type refType :=
  List.length_eq_one_iff

variable (schemas)

/-- How many registered types are not processed. -/
def unprocessed (processed : List α) : Nat :=
  (schemas.types.filter fun type => type ∉ processed).length

variable {schemas}

/-- Processing more leaves no more unprocessed. -/
theorem unprocessed_append_le (added processed : List α) :
    schemas.unprocessed (added ++ processed) ≤ schemas.unprocessed processed := by
  apply List.Sublist.length_le
  apply List.monotone_filter_right
  intro type left
  simp only [List.mem_append, decide_eq_true_eq, not_or] at left ⊢
  exact left.2

/-- A newly processed type is one less to go. -/
theorem unprocessed_cons_lt {type : α} {processed : List α} (registered : type ∈ schemas.types)
    (new : type ∉ processed) :
    schemas.unprocessed (type :: processed) < schemas.unprocessed processed := by
  have split : (schemas.types.filter fun other => other ∉ type :: processed) =
      (schemas.types.filter fun other => other ∉ processed).filter (· ≠ type) := by
    rw [List.filter_filter]
    apply List.filter_congr
    intro other _
    simp only [List.mem_cons, not_or, Bool.decide_and]
  have found : type ∈ schemas.types.filter fun other => other ∉ processed :=
    List.mem_filter.mpr ⟨registered, decide_eq_true new⟩
  rw [unprocessed, split]
  apply List.length_filter_lt_length_iff_exists.mpr
  exact ⟨type, found, by simp⟩

section Building

variable {build : α → List α → Option (RoseTree α × List α)} {bound : Nat}

variable (schemas) in
/-- While fewer than `bound` types are unprocessed, the builder walks from any registered type
into a tree. -/
def Builds (bound : Nat) (build : α → List α → Option (RoseTree α × List α)) : Prop :=
  ∀ type ∈ schemas.types, ∀ processed, schemas.unprocessed processed < bound →
    ∃ subtree added, build type processed = some (subtree, added ++ processed) ∧
      subtree.label = type ∧ Growth schemas.children processed added [type] subtree.entries

/-- The loop over the references walks from those nested under the type. -/
theorem buildChildren_growth (builds : schemas.Builds bound build) (type : α)
    (refTypes : List α) (children : List (RoseTree α)) (processed : List α)
    (enough : schemas.unprocessed processed < bound) :
    ∃ subtrees added, schemas.buildChildren type build refTypes children processed =
        some (children ++ subtrees, added ++ processed) ∧
      Growth schemas.children processed added
        (refTypes.filter fun refType => schemas.OnlyReferrer type refType)
        (entriesOf subtrees) := by
  induction refTypes generalizing children processed with
  | nil =>
    refine ⟨[], [], ?_, Growth.idle (List.forall_mem_nil _)⟩
    rw [buildChildren, List.append_nil, List.nil_append]
  | cons refType rest ih =>
    by_cases only : schemas.OnlyReferrer type refType
    · obtain ⟨subtree, added, built, -, growth⟩ :=
        builds refType only.spec.2.1 processed enough
      have still : schemas.unprocessed (added ++ processed) < bound :=
        lt_of_le_of_lt (unprocessed_append_le added processed) enough
      obtain ⟨subtrees, later, looped, growths⟩ :=
        ih (children ++ [subtree]) (added ++ processed) still
      refine ⟨subtree :: subtrees, later ++ added, ?_, ?_⟩
      · rw [buildChildren, if_pos only, built]
        show schemas.buildChildren type build rest (children ++ [subtree]) (added ++ processed) = _
        rw [looped, List.append_assoc, List.append_assoc, List.singleton_append]
      · rw [List.filter_cons_of_pos (by simpa using only), entriesOf]
        exact growth.append growths
    · obtain ⟨subtrees, added, looped, growth⟩ := ih children processed enough
      refine ⟨subtrees, added, ?_, ?_⟩
      · rw [buildChildren, if_neg only, looped]
      · rw [List.filter_cons_of_neg (by simpa using only)]
        exact growth

/-- With more fuel than types are unprocessed, `build_subtree` returns. -/
theorem buildSubtree_builds (fuel : Nat) : schemas.Builds fuel (schemas.buildSubtree fuel) := by
  induction fuel with
  | zero => exact fun _ _ processed enough => absurd enough (Nat.not_lt_zero _)
  | succ fuel ih =>
    intro type registered processed enough
    by_cases seen : type ∈ processed
    · refine ⟨.node type [], [], ?_, rfl, ?_⟩
      · rw [buildSubtree, if_pos seen, List.nil_append]
      · exact Growth.idle (List.forall_mem_singleton.mpr seen)
    · have fewer := unprocessed_cons_lt registered seen
      have left : schemas.unprocessed (type :: processed) < fuel := by omega
      obtain ⟨subtrees, added, looped, growth⟩ :=
        buildChildren_growth ih type (schemas.referenceGraph type) [] (type :: processed) left
      refine ⟨.node type subtrees, added ++ [type], ?_, rfl, ?_⟩
      · rw [buildSubtree, if_neg seen, looped, List.append_assoc]
        rfl
      · exact Growth.enter seen growth

variable (schemas) in
/-- What a loop over candidates for the root level has done. -/
structure Phase (candidates before added : List α) (trees : List (RoseTree α)) : Prop where
  /-- It has walked from the roots of the new trees. -/
  growth : Growth schemas.children before added (trees.map RoseTree.label) (entriesOf trees)
  /-- The roots are candidates. -/
  chosen : ∀ root ∈ trees.map RoseTree.label, root ∈ candidates
  /-- No root was processed before. -/
  unseen : ∀ root ∈ trees.map RoseTree.label, root ∉ before
  /-- No type is the root of two trees. -/
  distinct : (trees.map RoseTree.label).Nodup
  /-- All candidates are processed. -/
  covered : ∀ type ∈ candidates, type ∈ added ++ before

/-- Two loops in a row are one over the candidates of both. -/
theorem Phase.append {candidates before added : List α} {trees : List (RoseTree α)}
    (first : schemas.Phase candidates before added trees) {others later : List α}
    {more : List (RoseTree α)} (second : schemas.Phase others (added ++ before) later more) :
    schemas.Phase (candidates ++ others) before (later ++ added) (trees ++ more) where
  growth := by
    rw [List.map_append, entriesOf_append]
    exact first.growth.append second.growth
  chosen := fun root found => by
    rw [List.map_append] at found
    rcases List.mem_append.mp found with found | found
    · exact List.mem_append_left _ (first.chosen root found)
    · exact List.mem_append_right _ (second.chosen root found)
  unseen := fun root found old => by
    rw [List.map_append] at found
    rcases List.mem_append.mp found with found | found
    · exact first.unseen root found old
    · exact second.unseen root found (List.mem_append_right _ old)
  distinct := by
    rw [List.map_append]
    apply List.nodup_append.mpr ⟨first.distinct, second.distinct, _⟩
    intro root found other isLater same
    have processed := first.growth.processed root found
    exact second.unseen other isLater (same ▸ processed)
  covered := fun type found => by
    rw [List.append_assoc]
    rcases List.mem_append.mp found with found | found
    · exact List.mem_append_right _ (first.covered type found)
    · exact second.covered type found

/-- Processed candidates are skipped. -/
theorem Phase.idle {candidates before : List α} (seen : ∀ type ∈ candidates, type ∈ before) :
    schemas.Phase candidates before [] [] where
  growth := Growth.idle (List.forall_mem_nil _)
  chosen := List.forall_mem_nil _
  unseen := List.forall_mem_nil _
  distinct := List.nodup_nil
  covered := seen

/-- Another candidate becomes the root of a tree. -/
theorem Phase.plant {type : α} {before added : List α} {subtree : RoseTree α} (new : type ∉ before)
    (label : subtree.label = type)
    (growth : Growth schemas.children before added [type] subtree.entries) :
    schemas.Phase [type] before added [subtree] where
  growth := by
    rw [entriesOf_singleton, List.map_singleton, label]
    exact growth
  chosen := fun root found => by
    rw [List.map_singleton, label] at found
    exact found
  unseen := fun root found => by
    rw [List.map_singleton, label] at found
    rw [List.mem_singleton.mp found]
    exact new
  distinct := List.nodup_singleton _
  covered := growth.processed

/-- A loop over registered candidates goes through. -/
theorem addRoots_phase (builds : schemas.Builds bound build) (candidates : List α)
    (registered : ∀ type ∈ candidates, type ∈ schemas.types) (hierarchy : List (RoseTree α))
    (processed : List α) (enough : schemas.unprocessed processed < bound) :
    ∃ trees added, addRoots build candidates hierarchy processed =
        some (hierarchy ++ trees, added ++ processed) ∧
      schemas.Phase candidates processed added trees := by
  induction candidates generalizing hierarchy processed with
  | nil =>
    refine ⟨[], [], ?_, Phase.idle (List.forall_mem_nil _)⟩
    rw [addRoots, List.append_nil, List.nil_append]
  | cons type rest ih =>
    obtain ⟨known, others⟩ := List.forall_mem_cons.mp registered
    by_cases seen : type ∈ processed
    · obtain ⟨trees, added, looped, phase⟩ := ih others hierarchy processed enough
      have skipped : schemas.Phase [type] processed [] [] :=
        Phase.idle (List.forall_mem_singleton.mpr seen)
      have whole := skipped.append phase
      rw [List.append_nil] at whole
      exact ⟨trees, added, by rw [addRoots, if_pos seen, looped], whole⟩
    · obtain ⟨subtree, added, built, label, growth⟩ := builds type known processed enough
      have still : schemas.unprocessed (added ++ processed) < bound :=
        lt_of_le_of_lt (unprocessed_append_le added processed) enough
      obtain ⟨trees, later, looped, phase⟩ :=
        ih others (hierarchy ++ [subtree]) (added ++ processed) still
      refine ⟨subtree :: trees, later ++ added, ?_, (Phase.plant seen label growth).append phase⟩
      rw [addRoots, if_neg seen, built]
      show addRoots build rest (hierarchy ++ [subtree]) (added ++ processed) = _
      rw [looped, List.append_assoc, List.append_assoc, List.singleton_append]

/-- The second builder returns whatever the first returns. -/
def Extends (build further : α → List α → Option (RoseTree α × List α)) : Prop :=
  ∀ type processed result, build type processed = some result →
    further type processed = some result

variable {further : α → List α → Option (RoseTree α × List α)}

/-- A loop over references returns the same from a builder that returns more. -/
theorem buildChildren_extends (more : Extends build further) {type : α} {refTypes : List α}
    {children : List (RoseTree α)} {processed : List α} {result : List (RoseTree α) × List α}
    (looped : schemas.buildChildren type build refTypes children processed = some result) :
    schemas.buildChildren type further refTypes children processed = some result := by
  induction refTypes generalizing children processed with
  | nil => exact looped
  | cons refType rest ih =>
    rw [buildChildren] at looped ⊢
    split at looped
    · rename_i only
      obtain ⟨made, built, continued⟩ := Option.bind_eq_some_iff.mp looped
      rw [if_pos only, more refType processed made built]
      exact ih continued
    · rename_i only
      rw [if_neg only]
      exact ih looped

/-- More fuel does not change what `build_subtree` returns. -/
theorem buildSubtree_extends {fuel enough : Nat} (le : fuel ≤ enough) :
    Extends (schemas.buildSubtree fuel) (schemas.buildSubtree enough) := by
  induction fuel generalizing enough with
  | zero => exact fun _ _ _ built => absurd built (Option.some_ne_none _).symm
  | succ fuel ih =>
    obtain ⟨larger, rfl⟩ : ∃ larger, enough = larger + 1 := ⟨enough - 1, by omega⟩
    intro type processed result built
    rw [buildSubtree] at built ⊢
    split at built
    · rename_i seen
      rw [if_pos seen, built]
    · rename_i seen
      obtain ⟨made, looped, returned⟩ := Option.bind_eq_some_iff.mp built
      have further := buildChildren_extends (ih (show fuel ≤ larger by omega)) looped
      rw [if_neg seen, further]
      exact returned

/-- A loop over candidates returns the same from a builder that returns more. -/
theorem addRoots_extends (more : Extends build further) {candidates : List α}
    {hierarchy : List (RoseTree α)} {processed : List α} {result : List (RoseTree α) × List α}
    (looped : addRoots build candidates hierarchy processed = some result) :
    addRoots further candidates hierarchy processed = some result := by
  induction candidates generalizing hierarchy processed with
  | nil => exact looped
  | cons type rest ih =>
    rw [addRoots] at looped ⊢
    split at looped
    · rename_i seen
      rw [if_pos seen]
      exact ih looped
    · rename_i seen
      obtain ⟨made, built, continued⟩ := Option.bind_eq_some_iff.mp looped
      rw [if_neg seen, more type processed made built]
      exact ih continued

end Building

/-- More fuel does not change what `_organize_toc` returns. -/
theorem organizeToc_of_le {fuel enough : Nat} (le : fuel ≤ enough) {hierarchy : List (RoseTree α)}
    (organized : schemas.organizeToc fuel = some hierarchy) :
    schemas.organizeToc enough = some hierarchy := by
  have more : Extends (schemas.buildSubtree fuel) (schemas.buildSubtree enough) :=
    buildSubtree_extends le
  obtain ⟨tops, first, organized⟩ := Option.bind_eq_some_iff.mp organized
  obtain ⟨shared, second, organized⟩ := Option.bind_eq_some_iff.mp organized
  obtain ⟨others, third, returned⟩ := Option.bind_eq_some_iff.mp organized
  rw [organizeToc, addRoots_extends more first]
  show (addRoots _ schemas.remaining tops.1 tops.2).bind _ = _
  rw [addRoots_extends more second]
  show (addRoots _ schemas.types shared.1 shared.2).bind _ = _
  rw [addRoots_extends more third]
  exact returned

variable (schemas) in
/-- The first two loops have planted trees from top types and from types without a single
referrer, and the last one others from what was left. -/
def Organized (hierarchy : List (RoseTree α)) : Prop :=
  ∃ trees others early late, hierarchy = trees ++ others ∧
    schemas.Phase (schemas.types.filter schemas.isTop ++ schemas.remaining) [] early trees ∧
    schemas.Phase schemas.types early late others

/-- With more fuel than there are types, `_organize_toc` returns. -/
theorem organizeToc_organized {fuel : Nat} (enough : schemas.types.length < fuel) :
    ∃ hierarchy, schemas.organizeToc fuel = some hierarchy ∧ schemas.Organized hierarchy := by
  have builds : schemas.Builds fuel (schemas.buildSubtree fuel) := buildSubtree_builds fuel
  have start : schemas.unprocessed [] < fuel := lt_of_le_of_lt (List.length_filter_le _ _) enough
  obtain ⟨tops, topsAdded, first, topsPhase⟩ := addRoots_phase builds
    (schemas.types.filter schemas.isTop) (fun _ found => (List.mem_filter.mp found).1) [] [] start
  have left : schemas.unprocessed (topsAdded ++ []) < fuel :=
    lt_of_le_of_lt (unprocessed_append_le topsAdded []) start
  obtain ⟨shared, sharedAdded, second, sharedPhase⟩ := addRoots_phase builds
    schemas.remaining (fun _ found => (List.mem_filter.mp found).1) tops (topsAdded ++ []) left
  have still : schemas.unprocessed (sharedAdded ++ (topsAdded ++ [])) < fuel :=
    lt_of_le_of_lt (unprocessed_append_le sharedAdded _) left
  obtain ⟨others, late, third, othersPhase⟩ := addRoots_phase builds
    schemas.types (fun _ found => found) (tops ++ shared) (sharedAdded ++ (topsAdded ++ [])) still
  refine ⟨tops ++ shared ++ others, ?_, tops ++ shared, others, sharedAdded ++ topsAdded, late,
    rfl, topsPhase.append sharedPhase, ?_⟩
  · rw [organizeToc, first]
    show (addRoots _ schemas.remaining tops (topsAdded ++ [])).bind _ = _
    rw [second]
    show (addRoots _ schemas.types (tops ++ shared) (sharedAdded ++ (topsAdded ++ []))).bind _ = _
    rw [third]
    rfl
  · rw [List.append_nil] at othersPhase
    exact othersPhase

/-- Walks from registered types stay among them. -/
theorem Phase.registered {candidates added : List α} {trees : List (RoseTree α)}
    (phase : schemas.Phase candidates [] added trees)
    (known : ∀ type ∈ candidates, type ∈ schemas.types) {type : α} (found : type ∈ added) :
    type ∈ schemas.types := by
  rcases phase.growth.root_or_child found with isRoot | ⟨upper, -, isChild⟩
  · exact known type (phase.chosen type isRoot)
  · exact (mem_children_iff.mp isChild).spec.2.1

/-- Together the loops process the registered types once each. -/
theorem Organized.whole {hierarchy : List (RoseTree α)} (organized : schemas.Organized hierarchy) :
    ∃ candidates added, schemas.Phase candidates [] added hierarchy ∧
      added.Perm schemas.types := by
  obtain ⟨trees, others, early, late, rfl, first, last⟩ := organized
  rw [← List.append_nil early] at last
  have phase := first.append last
  refine ⟨_, _, phase, ?_⟩
  apply (List.perm_ext_iff_of_nodup phase.growth.nodup schemas.types_nodup).mpr
  intro type
  constructor
  · apply phase.registered
    intro candidate found
    rcases List.mem_append.mp found with found | found
    · rcases List.mem_append.mp found with found | found
      · exact (List.mem_filter.mp found).1
      · exact (List.mem_filter.mp found).1
    · exact found
  · intro registered
    have covered := phase.covered type (List.mem_append_right _ registered)
    rw [List.append_nil] at covered
    exact covered

/-- The registered types are listed once each exactly when no root has an only referrer. -/
theorem Organized.listed_iff {hierarchy : List (RoseTree α)}
    (organized : schemas.Organized hierarchy) :
    (entriesOf hierarchy).Perm schemas.types ↔
      ∀ root ∈ hierarchy.map RoseTree.label, ∀ type, ¬ schemas.OnlyReferrer type root := by
  obtain ⟨candidates, added, phase, processed⟩ := organized.whole
  have unique : UniqueParent fun upper lower => lower ∈ schemas.children upper := by
    rw [children_rel]
    exact onlyReferrer_unique
  have distinct (type : α) : (schemas.children type).Nodup :=
    (schemas.referenceGraph_nodup type).filter _
  have once := phase.growth.perm_iff unique distinct phase.distinct
  rw [← processed.congr_right, once]
  constructor
  · intro orphans root isRoot type only
    have registered := processed.mem_iff.mpr only.spec.1
    exact orphans root isRoot type registered (mem_children_iff.mpr only)
  · intro orphans root isRoot type _ isChild
    exact orphans root isRoot type (mem_children_iff.mp isChild)

/-- No root of nestable schemas has an only referrer. -/
theorem Organized.orphans {hierarchy : List (RoseTree α)} (organized : schemas.Organized hierarchy)
    (nestable : schemas.Nestable) {root : α} (isRoot : root ∈ hierarchy.map RoseTree.label)
    (type : α) : ¬ schemas.OnlyReferrer type root := by
  obtain ⟨trees, others, early, late, rfl, first, last⟩ := organized
  intro only
  have single : (schemas.referencedBy root).length = 1 :=
    length_referencedBy_eq_one.mpr ⟨type, only⟩
  rw [List.map_append] at isRoot
  rcases List.mem_append.mp isRoot with isRoot | isRoot
  · rcases List.mem_append.mp (first.chosen root isRoot) with chosen | chosen
    · obtain ⟨registered, top⟩ := List.mem_filter.mp chosen
      exact nestable.tops root registered top single
    · exact of_decide_eq_true (List.mem_filter.mp chosen).2 single
  · -- It descends from a type the second loop has processed, and so was processed with it.
    obtain ⟨origin, registered, orphan, descends⟩ := nestable.acyclic.descends_from_root
      (fun upper lower above => above.spec.1) (last.chosen root isRoot)
    have several : (schemas.referencedBy origin).length ≠ 1 := by
      intro one
      obtain ⟨upper, above⟩ := length_referencedBy_eq_one.mp one
      exact orphan upper above
    have left : origin ∈ schemas.remaining :=
      List.mem_filter.mpr ⟨registered, decide_eq_true several⟩
    have covered := first.covered origin (List.mem_append_right _ left)
    rw [List.append_nil] at covered
    rw [← children_rel] at descends
    exact last.unseen root isRoot (first.growth.mem_of_descends covered descends)

/-- Where no root has an only referrer and the top types are roots, the schemas are nestable. -/
theorem Organized.nestable {hierarchy : List (RoseTree α)} (organized : schemas.Organized hierarchy)
    (orphans : ∀ root ∈ hierarchy.map RoseTree.label, ∀ type, ¬ schemas.OnlyReferrer type root)
    (tops : ∀ type ∈ schemas.types, schemas.isTop type → type ∈ hierarchy.map RoseTree.label) :
    schemas.Nestable where
  tops := fun type registered top one => by
    obtain ⟨upper, above⟩ := length_referencedBy_eq_one.mp one
    exact orphans type (tops type registered top) upper above
  acyclic := fun type cycle => by
    obtain ⟨candidates, added, phase, processed⟩ := organized.whole
    obtain ⟨last, -, closes⟩ := TransGen.tail'_iff.mp cycle
    have found : type ∈ added := processed.mem_iff.mpr closes.spec.2.1
    obtain ⟨root, isRoot, reaches⟩ := phase.growth.descends type found
    rw [children_rel] at reaches
    have around := onlyReferrer_unique.ancestor_of_cycle reaches cycle
    obtain ⟨upper, -, above⟩ := TransGen.tail'_iff.mp around
    exact orphans root isRoot upper above

/-- Where no top type has a single referrer, the top types are roots. -/
theorem Organized.tops {hierarchy : List (RoseTree α)} (organized : schemas.Organized hierarchy)
    (nestable : schemas.Nestable) {type : α} (registered : type ∈ schemas.types)
    (top : schemas.isTop type) : type ∈ hierarchy.map RoseTree.label := by
  obtain ⟨candidates, added, phase, processed⟩ := organized.whole
  rcases phase.growth.root_or_child (processed.mem_iff.mpr registered) with found | found
  · exact found
  · obtain ⟨upper, -, isChild⟩ := found
    have one := length_referencedBy_eq_one.mpr ⟨upper, mem_children_iff.mp isChild⟩
    exact absurd one (nestable.tops type registered top)

end Schemas

namespace Schemas

variable {α : Type} [DecidableEq α]

/-- The documentation is generated and has one section for every registered type. Its table of
contents is complete and without duplicates, with the top types at its root, exactly when no top
type has a single referrer and only referrers do not form a cycle. -/
theorem generateDocs_complete_iff (schemas : Schemas α) :
    ∃ document,
      (∀ fuel, schemas.types.length < fuel → schemas.generateDocs fuel = some document) ∧
      document.sections.Perm schemas.types ∧
      (document.Complete schemas ↔ schemas.Nestable) := by
  have more : schemas.types.length < schemas.types.length + 1 := Nat.lt_succ_self _
  obtain ⟨hierarchy, returned, organized⟩ := organizeToc_organized more
  refine ⟨⟨hierarchy, schemas.createBlocks⟩, ?_, createBlocks_perm, ?_⟩
  · intro fuel enough
    rw [generateDocs, organizeToc_of_le enough returned]
    rfl
  · constructor
    · intro complete
      have listed := complete.listed
      rw [Document.toc_types] at listed
      apply organized.nestable (organized.listed_iff.mp listed)
      intro type registered top
      exact Document.mem_toc_root.mp (complete.tops type registered top)
    · intro nestable
      constructor
      · rw [Document.toc_types]
        exact organized.listed_iff.mpr fun root isRoot => organized.orphans nestable isRoot
      · exact createBlocks_perm
      · intro type registered top
        exact Document.mem_toc_root.mpr (organized.tops nestable registered top)

end Schemas

/-- The sides of a cycle. -/
inductive Side where
  /-- It refers to the right side. -/
  | left
  /-- It refers to the left side. -/
  | right
deriving DecidableEq

/-- Two types that refer to each other, neither of them at the top. -/
def sides : Schemas Side where
  types := [.left, .right]
  types_nodup := by decide
  referenceGraph := fun
    | .left => [.right]
    | .right => [.left]
  referenceGraph_nodup := fun side => by cases side <;> decide
  schemaDocs := fun _ => some [⟨false⟩]

/-- The table of contents of two types that refer to each other lists the first one twice. -/
theorem generateDocs_repeats :
    ∃ document, (∀ fuel, sides.types.length < fuel → sides.generateDocs fuel = some document) ∧
      document.toc = [(0, .left), (1, .right), (2, .left)] ∧ ¬ document.Complete sides := by
  refine ⟨⟨[.node .left [.node .right [.node .left []]]], sides.createBlocks⟩, ?_, rfl, ?_⟩
  · intro fuel enough
    obtain ⟨more, rfl⟩ : ∃ more, fuel = more + 3 := ⟨fuel - 3, by simp [sides] at enough; omega⟩
    rfl
  · intro complete
    have length : 3 = 2 := complete.listed.length_eq
    exact absurd length (by decide)

end DifyPlugin.SchemaDocumentation
