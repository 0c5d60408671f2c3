import Mathlib.Data.List.Nodup
import Mathlib.Data.List.Perm.Basic
import Mathlib.Logic.Relation
import Mathlib.Order.WellFoundedSet

/-!
# Forests and the walks that list them

Where a node has at most one parent, a node that leads to a cycle is on one, and among finitely
many nodes without a cycle every node descends from one without a parent. A walk that processes
every node once, and lists the children of a node when it processes it, lists every node exactly
once precisely when it starts at nodes without a parent.
-/

namespace DifyPlugin.Forest

open Relation

variable {α : Type}

section Parents

/-- Every node has at most one parent. -/
def UniqueParent (parent : α → α → Prop) : Prop :=
  ∀ ⦃upper other lower⦄, parent upper lower → parent other lower → upper = other

/-- No node is an ancestor of itself. -/
def Acyclic (parent : α → α → Prop) : Prop := ∀ node, ¬ TransGen parent node node

variable {parent : α → α → Prop}

/-- Whatever leads to a cycle is on a cycle. -/
theorem UniqueParent.ancestor_of_cycle (unique : UniqueParent parent) {ancestor node : α}
    (descends : ReflTransGen parent ancestor node) (cycle : TransGen parent node node) :
    TransGen parent ancestor ancestor := by
  induction descends using ReflTransGen.head_induction_on with
  | refl => exact cycle
  | head first _ ih =>
    -- The cycle through the child ends at its only parent.
    obtain ⟨last, reaches, closes⟩ := TransGen.tail'_iff.mp ih
    have same := unique first closes
    subst same
    exact TransGen.head' first reaches

/-- Without a cycle, every one of finitely many nodes descends from a node without a parent. -/
theorem Acyclic.descends_from_root (acyclic : Acyclic parent) {nodes : List α}
    (owned : ∀ upper lower, parent upper lower → upper ∈ nodes) {node : α}
    (listed : node ∈ nodes) :
    ∃ root ∈ nodes, (∀ upper, ¬ parent upper root) ∧ ReflTransGen parent root node := by
  have strict : IsStrictOrder α (TransGen parent) :=
    { irrefl := acyclic, trans := fun _ _ _ => TransGen.trans }
  have founded : Set.WellFoundedOn (fun node => node ∈ nodes) (TransGen parent) :=
    Set.Finite.wellFoundedOn nodes.finite_toSet
  apply founded.induction listed
  intro lower found ih
  by_cases orphan : ∃ upper, parent upper lower
  · obtain ⟨upper, above⟩ := orphan
    obtain ⟨root, rootListed, first, descends⟩ :=
      ih upper (owned upper lower above) (TransGen.single above)
    exact ⟨root, rootListed, first, descends.tail above⟩
  · exact ⟨lower, found, fun upper above => orphan ⟨upper, above⟩, ReflTransGen.refl⟩

end Parents

/-- A node with the trees below it. -/
inductive RoseTree (α : Type) where
  /-- A label and the subtrees in order. -/
  | node (label : α) (children : List (RoseTree α))

/-- The label of the root. -/
def RoseTree.label : RoseTree α → α
  | .node label _ => label

mutual

/-- The labels of a tree, each before those below it. -/
def RoseTree.entries : RoseTree α → List α
  | .node label children => label :: entriesOf children

/-- The labels of trees in order. -/
def entriesOf : List (RoseTree α) → List α
  | [] => []
  | tree :: rest => tree.entries ++ entriesOf rest

end

/-- Trees in a row are listed one after the other. -/
theorem entriesOf_append (trees more : List (RoseTree α)) :
    entriesOf (trees ++ more) = entriesOf trees ++ entriesOf more := by
  induction trees with
  | nil => rfl
  | cons tree rest ih => rw [List.cons_append, entriesOf, ih, entriesOf, List.append_assoc]

/-- A tree alone is listed as it is. -/
theorem entriesOf_singleton (tree : RoseTree α) : entriesOf [tree] = tree.entries := by
  rw [entriesOf, entriesOf, List.append_nil]

/-- What a walk has done that was sent to the `roots`: it added nodes to those processed before
and listed the roots and the children of every added node. -/
structure Growth (children : α → List α) (before added roots listed : List α) : Prop where
  /-- The roots and the children of the added nodes are listed. -/
  listed : listed.Perm (roots ++ added.flatMap children)
  /-- The roots are processed. -/
  processed : ∀ root ∈ roots, root ∈ added ++ before
  /-- So are the children of an added node. -/
  closed : ∀ node ∈ added, ∀ child ∈ children node, child ∈ added ++ before
  /-- No node is added twice. -/
  nodup : added.Nodup
  /-- No added node was processed before. -/
  fresh : ∀ node ∈ added, node ∉ before
  /-- Every added node descends from a root. -/
  descends : ∀ node ∈ added, ∃ root ∈ roots,
    ReflTransGen (fun upper lower => lower ∈ children upper) root node

namespace Growth

variable {children : α → List α} {before added roots listed : List α}

/-- A walk that is sent to processed nodes only lists them. -/
theorem idle (seen : ∀ root ∈ roots, root ∈ before) :
    Growth children before [] roots roots where
  listed := by
    rw [List.flatMap_nil, List.append_nil]
  processed := seen
  closed := List.forall_mem_nil _
  nodup := List.nodup_nil
  fresh := List.forall_mem_nil _
  descends := List.forall_mem_nil _

/-- A new node is listed before what the walk from its children lists. -/
theorem enter {node : α} (new : node ∉ before)
    (below : Growth children (node :: before) added (children node) listed) :
    Growth children before (added ++ [node]) [node] (node :: listed) where
  listed := by
    have rearranged : (children node ++ added.flatMap children).Perm
        ((added ++ [node]).flatMap children) := by
      rw [List.flatMap_append, List.flatMap_singleton]
      exact List.perm_append_comm
    exact (below.listed.trans rearranged).cons node
  processed := fun root isNode => by
    rw [List.mem_singleton.mp isNode]
    simp
  closed := fun upper found child below' => by
    rw [List.append_assoc, List.singleton_append]
    rcases List.mem_append.mp found with found | isNode
    · exact below.closed upper found child below'
    · rw [List.mem_singleton.mp isNode] at below'
      exact below.processed child below'
  nodup := by
    apply List.nodup_append.mpr ⟨below.nodup, List.nodup_singleton node, _⟩
    intro other found same isNode equal
    rw [equal, List.mem_singleton.mp isNode] at found
    exact below.fresh node found List.mem_cons_self
  fresh := fun other found old => by
    rcases List.mem_append.mp found with found | isNode
    · exact below.fresh other found (List.mem_cons_of_mem _ old)
    · exact new (List.mem_singleton.mp isNode ▸ old)
  descends := fun other found => by
    refine ⟨node, List.mem_singleton_self node, ?_⟩
    rcases List.mem_append.mp found with found | isNode
    · obtain ⟨child, isChild, reaches⟩ := below.descends other found
      exact ReflTransGen.head isChild reaches
    · rw [List.mem_singleton.mp isNode]

/-- Two walks in a row are one walk to the roots of both. -/
theorem append (first : Growth children before added roots listed) {later others more : List α}
    (second : Growth children (added ++ before) later others more) :
    Growth children before (later ++ added) (roots ++ others) (listed ++ more) where
  listed := by
    have rearranged : (added.flatMap children ++ (others ++ later.flatMap children)).Perm
        (others ++ (later.flatMap children ++ added.flatMap children)) := by
      rw [← List.append_assoc others]
      exact List.perm_append_comm
    have both := first.listed.append second.listed
    rw [List.append_assoc] at both
    rw [List.append_assoc, List.flatMap_append]
    exact both.trans (rearranged.append_left roots)
  processed := fun root found => by
    rw [List.append_assoc]
    rcases List.mem_append.mp found with found | found
    · exact List.mem_append_right _ (first.processed root found)
    · exact second.processed root found
  closed := fun upper found child below => by
    rw [List.append_assoc]
    rcases List.mem_append.mp found with found | found
    · exact second.closed upper found child below
    · exact List.mem_append_right _ (first.closed upper found child below)
  nodup := by
    apply List.nodup_append.mpr ⟨second.nodup, first.nodup, _⟩
    intro other found same old equal
    rw [← equal] at old
    exact second.fresh other found (List.mem_append_left _ old)
  fresh := fun other found old => by
    rcases List.mem_append.mp found with found | found
    · exact second.fresh other found (List.mem_append_right _ old)
    · exact first.fresh other found old
  descends := fun other found => by
    rcases List.mem_append.mp found with found | found
    · obtain ⟨root, isRoot, reaches⟩ := second.descends other found
      exact ⟨root, List.mem_append_right _ isRoot, reaches⟩
    · obtain ⟨root, isRoot, reaches⟩ := first.descends other found
      exact ⟨root, List.mem_append_left _ isRoot, reaches⟩

section Whole

variable (whole : Growth children [] added roots listed)

include whole

/-- A walk from the start processes whatever descends from a processed node. -/
theorem mem_of_descends {upper lower : α} (found : upper ∈ added)
    (reaches : ReflTransGen (fun upper lower => lower ∈ children upper) upper lower) :
    lower ∈ added := by
  induction reaches with
  | refl => exact found
  | tail _ isChild ih => simpa using whole.closed _ ih _ isChild

/-- A processed node is a root or a child of a processed node. -/
theorem root_or_child {node : α} (found : node ∈ added) :
    node ∈ roots ∨ ∃ upper ∈ added, node ∈ children upper := by
  obtain ⟨root, isRoot, reaches⟩ := whole.descends node found
  rcases ReflTransGen.cases_tail reaches with same | ⟨upper, above, isChild⟩
  · exact .inl (same ▸ isRoot)
  · have rootFound : root ∈ added := by simpa using whole.processed root isRoot
    exact .inr ⟨upper, whole.mem_of_descends rootFound above, isChild⟩

/-- The listed nodes are the processed ones. -/
theorem mem_listed_iff {node : α} : node ∈ listed ↔ node ∈ added := by
  rw [whole.listed.mem_iff, List.mem_append, List.mem_flatMap]
  constructor
  · rintro (isRoot | ⟨upper, found, isChild⟩)
    · simpa using whole.processed node isRoot
    · simpa using whole.closed upper found node isChild
  · exact whole.root_or_child

/-- A walk to different roots lists the processed nodes once each exactly when no root is the
child of a processed node. -/
theorem perm_iff (unique : UniqueParent fun upper lower => lower ∈ children upper)
    (distinct : ∀ node, (children node).Nodup) (differ : roots.Nodup) :
    listed.Perm added ↔ ∀ root ∈ roots, ∀ upper ∈ added, root ∉ children upper := by
  have disjoint_iff : listed.Nodup ↔ ∀ root ∈ roots, root ∉ added.flatMap children := by
    have below : (added.flatMap children).Nodup := by
      apply List.nodup_flatMap.mpr ⟨fun node _ => distinct node, _⟩
      apply whole.nodup.imp
      intro upper other different lower left right
      exact different (unique left right)
    rw [whole.listed.nodup_iff, List.nodup_append]
    constructor
    · rintro ⟨-, -, apart⟩ root isRoot found
      exact apart root isRoot root found rfl
    · intro apart
      refine ⟨differ, below, fun root isRoot other found same => ?_⟩
      exact apart root isRoot (same ▸ found)
  have once : listed.Perm added ↔ listed.Nodup := by
    constructor
    · exact fun same => same.nodup_iff.mpr whole.nodup
    · intro different
      exact (List.perm_ext_iff_of_nodup different whole.nodup).mpr fun _ => whole.mem_listed_iff
  rw [once, disjoint_iff]
  simp only [List.mem_flatMap, not_exists, not_and]

end Whole

end Growth

end DifyPlugin.Forest
