import DifyPlugin.Library.Dict
import DifyPlugin.Library.Forest

/-!
# The schema documentation generator

The generator nests a type under the only type that refers to it and puts the others at the root
of the table of contents. Each registered type is assigned to a block of sections, and the
blocks have every registered type exactly once.
-/

namespace DifyPlugin.SchemaDocumentation

open DifyPlugin.Forest

/-- What `__schema_docs__` says about the place of a type. -/
structure SchemaDoc where
  /-- Whether the schema is placed at the top of the documentation. -/
  top : Bool

/-- The state of the generator once the reference graph is built. -/
structure Schemas (α : Type) where
  /-- The registered types, in the order in which `self._types` is iterated. -/
  types : List α
  /-- A set has no element twice. -/
  types_nodup : types.Nodup
  /-- The types a registered type refers to, in the order in which the set is iterated. -/
  referenceGraph : α → List α
  /-- A set has no element twice. -/
  referenceGraph_nodup : ∀ type, (referenceGraph type).Nodup
  /-- `__schema_docs__`, where the type has it. -/
  schemaDocs : α → Option (List SchemaDoc)

namespace Schemas

variable {α : Type} [DecidableEq α] (schemas : Schemas α)

/-- `hasattr(t, "__schema_docs__") and any(doc.top for doc in t.__schema_docs__)`. -/
def isTop (type : α) : Bool :=
  match schemas.schemaDocs type with
  | none => false
  | some docs => docs.any SchemaDoc.top

/-- `referenced_by.get(ref_type, set())`; the keys of the graph are registered types. -/
def referencedBy (refType : α) : List α :=
  if refType ∈ schemas.types then
    schemas.types.filter fun type => refType ∈ schemas.referenceGraph type
  else []

/-- `len(refs) == 1 and next(iter(refs)) == type_`. -/
def OnlyReferrer (type refType : α) : Prop := schemas.referencedBy refType = [type]

instance (type refType : α) : Decidable (schemas.OnlyReferrer type refType) :=
  inferInstanceAs (Decidable (_ = _))

/-- The loop of `build_subtree` over the references of a type. -/
def buildChildren (type : α) (build : α → List α → Option (RoseTree α × List α)) :
    List α → List (RoseTree α) → List α → Option (List (RoseTree α) × List α)
  | [], children, processed => some (children, processed)
  | refType :: rest, children, processed =>
    if schemas.OnlyReferrer type refType then do
      let (subtree, processed) ← build refType processed
      buildChildren type build rest (children ++ [subtree]) processed
    else buildChildren type build rest children processed

/-- `build_subtree`, which returns the processed types too, and nothing when out of fuel. -/
def buildSubtree : Nat → α → List α → Option (RoseTree α × List α)
  | 0, _, _ => none
  | fuel + 1, type, processed =>
    if type ∈ processed then some (.node type [], processed)
    else do
      let (children, processed) ← schemas.buildChildren type (buildSubtree fuel)
        (schemas.referenceGraph type) [] (type :: processed)
      return (.node type children, processed)

/-- A loop of `_organize_toc` over candidates for the root level. -/
def addRoots (build : α → List α → Option (RoseTree α × List α)) :
    List α → List (RoseTree α) → List α → Option (List (RoseTree α) × List α)
  | [], hierarchy, processed => some (hierarchy, processed)
  | type :: rest, hierarchy, processed =>
    if type ∈ processed then addRoots build rest hierarchy processed
    else do
      let (subtree, processed) ← build type processed
      addRoots build rest (hierarchy ++ [subtree]) processed

/-- The types without a referrer and those with several. -/
def remaining : List α := schemas.types.filter fun type => (schemas.referencedBy type).length ≠ 1

/-- `_organize_toc`. -/
def organizeToc (fuel : Nat) : Option (List (RoseTree α)) := do
  let build := schemas.buildSubtree fuel
  let (hierarchy, processed) ← addRoots build (schemas.types.filter schemas.isTop) [] []
  let (hierarchy, processed) ← addRoots build schemas.remaining hierarchy processed
  let (hierarchy, _) ← addRoots build schemas.types hierarchy processed
  return hierarchy

/-- A round of the first loop of `_create_blocks`. -/
def assignBlock (typeBlocks : Dict α Nat) (type : α) : Dict α Nat :=
  match typeBlocks.get type with
  | some _ => typeBlocks
  | none => typeBlocks.set type (if schemas.isTop type then 0 else typeBlocks.entries.length + 1)

/-- `self._type_blocks`. -/
def typeBlocks : Dict α Nat := schemas.types.foldl schemas.assignBlock Dict.empty

/-- `self._blocks[block_index].append(type_)` for the assigned types. -/
def fillBlocks (blocks : List (List α)) (assigned : List (α × Nat)) : List (List α) :=
  assigned.foldl (fun blocks entry => blocks.modify entry.2 (· ++ [entry.1])) blocks

/-- The sort that puts the block of top types first; the block is known by its place. -/
def sortBlocks (blocks : List (List α)) : List (List α) :=
  if (blocks.head?.getD []).any schemas.isTop then
    (blocks.zipIdx.mergeSort fun left right =>
      (if left.2 = 0 then 0 else 1) ≤ if right.2 = 0 then 0 else 1).map Prod.fst
  else blocks

/-- `_create_blocks`. -/
def createBlocks : List (List α) :=
  let maxBlockIndex := schemas.typeBlocks.values.max?.getD 0
  schemas.sortBlocks
    (fillBlocks (List.replicate (maxBlockIndex + 1) []) schemas.typeBlocks.entries)

end Schemas

mutual

/-- `write_toc_item`: the lines for a node with their indents. -/
def writeTocItem {α : Type} (indent : Nat) : RoseTree α → List (Nat × α)
  | .node type children => (indent, type) :: writeTocItems (indent + 1) children

/-- The lines for nodes in order. -/
def writeTocItems {α : Type} (indent : Nat) : List (RoseTree α) → List (Nat × α)
  | [] => []
  | node :: rest => writeTocItem indent node ++ writeTocItems indent rest

end

/-- What `generate_docs` writes the document from. -/
structure Document (α : Type) where
  /-- The table of contents. -/
  hierarchy : List (RoseTree α)
  /-- The blocks of sections. -/
  blocks : List (List α)

namespace Document

variable {α : Type} (document : Document α)

/-- The lines of the table of contents. -/
def toc : List (Nat × α) := writeTocItems 0 document.hierarchy

/-- The sections in order. -/
def sections : List α := document.blocks.flatten

/-- The table of contents and the sections have every registered type exactly once and nothing
else, and the top types are at the root of the table. -/
structure Complete (schemas : Schemas α) : Prop where
  /-- The table lists the registered types, each once. -/
  listed : (document.toc.map Prod.snd).Perm schemas.types
  /-- The sections are those of the registered types, each once. -/
  sectioned : document.sections.Perm schemas.types
  /-- Top types are not nested. -/
  tops : ∀ type ∈ schemas.types, schemas.isTop type → (0, type) ∈ document.toc

end Document

namespace Schemas

variable {α : Type} [DecidableEq α] (schemas : Schemas α)

/-- `generate_docs`. -/
def generateDocs (fuel : Nat) : Option (Document α) := do
  let blocks := schemas.createBlocks
  let hierarchy ← schemas.organizeToc fuel
  return { hierarchy, blocks }

end Schemas

section Filling

variable {α : Type}

/-- Filling a block adds one section. -/
theorem flatten_modify (type : α) {blocks : List (List α)} {index : Nat}
    (within : index < blocks.length) :
    (blocks.modify index (· ++ [type])).flatten.Perm (blocks.flatten ++ [type]) := by
  induction blocks generalizing index with
  | nil => exact absurd within (Nat.not_lt_zero index)
  | cons block rest ih =>
    cases index with
    | zero =>
      rw [List.modify_zero_cons, List.flatten_cons, List.flatten_cons, List.append_assoc,
        List.append_assoc]
      exact List.perm_append_comm.append_left block
    | succ index =>
      rw [List.modify_succ_cons, List.flatten_cons, List.flatten_cons, List.append_assoc]
      exact (ih (Nat.lt_of_succ_lt_succ within)).append_left block

/-- Filling the blocks adds a section for each assigned type. -/
theorem fillBlocks_flatten {assigned : List (α × Nat)} {blocks : List (List α)}
    (within : ∀ entry ∈ assigned, entry.2 < blocks.length) :
    (Schemas.fillBlocks blocks assigned).flatten.Perm
      (blocks.flatten ++ assigned.map Prod.fst) := by
  induction assigned generalizing blocks with
  | nil => rw [List.map_nil, List.append_nil]; exact List.Perm.refl _
  | cons entry rest ih =>
    obtain ⟨inside, others⟩ := List.forall_mem_cons.mp within
    have still : ∀ other ∈ rest, other.2 < (blocks.modify entry.2 (· ++ [entry.1])).length := by
      intro other found
      rw [List.length_modify]
      exact others other found
    have one := (flatten_modify entry.1 inside).append_right (rest.map Prod.fst)
    rw [List.append_assoc, List.singleton_append] at one
    exact (ih still).trans one

/-- Sorting moves whole blocks. -/
theorem sortBlocks_perm (schemas : Schemas α) (blocks : List (List α)) :
    (schemas.sortBlocks blocks).Perm blocks := by
  unfold Schemas.sortBlocks
  split
  · apply ((List.mergeSort_perm blocks.zipIdx _).map Prod.fst).trans
    rw [List.zipIdx_map_fst]
  · exact List.Perm.refl _

end Filling

namespace Schemas

variable {α : Type} [DecidableEq α] {schemas : Schemas α}

/-- A new type gets a block and comes last. -/
theorem assignBlock_keys {typeBlocks : Dict α Nat} {type : α}
    (new : type ∉ typeBlocks.entries.map Prod.fst) :
    (schemas.assignBlock typeBlocks type).entries.map Prod.fst =
      typeBlocks.entries.map Prod.fst ++ [type] := by
  have absent : typeBlocks.get type = none := by
    rcases found : typeBlocks.get type with _ | index
    · rfl
    · have listed := List.mem_map_of_mem (f := Prod.fst) (Dict.get_eq_some.mp found)
      exact absurd listed new
  rw [assignBlock, absent]
  show (Dict.setEntry type _ typeBlocks.entries).map Prod.fst = _
  rw [Dict.map_fst_setEntry, if_neg new]

/-- Every registered type is assigned to a block, in the order of the set. -/
theorem typeBlocks_keys : schemas.typeBlocks.entries.map Prod.fst = schemas.types := by
  have keys (types : List α) (different : types.Nodup) (assigned : Dict α Nat)
      (new : ∀ type ∈ types, type ∉ assigned.entries.map Prod.fst) :
      (types.foldl schemas.assignBlock assigned).entries.map Prod.fst =
        assigned.entries.map Prod.fst ++ types := by
    induction types generalizing assigned with
    | nil => rw [List.foldl_nil, List.append_nil]
    | cons type rest ih =>
      obtain ⟨fresh, others⟩ := List.forall_mem_cons.mp new
      obtain ⟨apart, distinct⟩ := List.nodup_cons.mp different
      have extended : (schemas.assignBlock assigned type).entries.map Prod.fst =
          assigned.entries.map Prod.fst ++ [type] := assignBlock_keys fresh
      rw [List.foldl_cons, ih distinct, extended, List.append_assoc, List.singleton_append]
      intro other found listed
      rw [extended] at listed
      rcases List.mem_append.mp listed with listed | same
      · exact others other found listed
      · exact apart (List.mem_singleton.mp same ▸ found)
  exact keys schemas.types schemas.types_nodup Dict.empty fun _ _ => List.not_mem_nil

/-- Every registered type is in exactly one block, once. -/
theorem createBlocks_perm : schemas.createBlocks.flatten.Perm schemas.types := by
  have within : ∀ entry ∈ schemas.typeBlocks.entries,
      entry.2 < (List.replicate (schemas.typeBlocks.values.max?.getD 0 + 1)
        ([] : List α)).length := by
    intro entry found
    have listed : entry.2 ∈ schemas.typeBlocks.values := List.mem_map_of_mem found
    have below := List.le_max?_getD_of_mem (k := 0) listed
    rw [List.length_replicate]
    omega
  have filled := fillBlocks_flatten within
  rw [List.flatten_replicate_nil, List.nil_append, typeBlocks_keys] at filled
  exact (sortBlocks_perm schemas _).flatten.trans filled

end Schemas

section Lines

variable {α : Type}

mutual

/-- The lines for a node name its types in order. -/
theorem writeTocItem_types (indent : Nat) (node : RoseTree α) :
    (writeTocItem indent node).map Prod.snd = node.entries := by
  cases node with
  | node type children =>
    rw [writeTocItem, List.map_cons, writeTocItems_types, RoseTree.entries]

/-- The lines for nodes name their types in order. -/
theorem writeTocItems_types (indent : Nat) (nodes : List (RoseTree α)) :
    (writeTocItems indent nodes).map Prod.snd = entriesOf nodes := by
  cases nodes with
  | nil => rfl
  | cons node rest =>
    rw [writeTocItems, List.map_append, writeTocItem_types, writeTocItems_types, entriesOf]

end

mutual

/-- The lines below a node are indented. -/
theorem le_indent_of_mem_item {indent : Nat} {node : RoseTree α} {line : Nat × α}
    (found : line ∈ writeTocItem indent node) : indent ≤ line.1 := by
  cases node with
  | node type children =>
    rw [writeTocItem] at found
    rcases List.mem_cons.mp found with rfl | below
    · exact le_refl indent
    · exact Nat.le_of_succ_le (le_indent_of_mem_items below)

/-- The lines for nodes are indented as the nodes are. -/
theorem le_indent_of_mem_items {indent : Nat} {nodes : List (RoseTree α)} {line : Nat × α}
    (found : line ∈ writeTocItems indent nodes) : indent ≤ line.1 := by
  cases nodes with
  | nil => exact absurd found List.not_mem_nil
  | cons node rest =>
    rw [writeTocItems] at found
    rcases List.mem_append.mp found with found | found
    · exact le_indent_of_mem_item found
    · exact le_indent_of_mem_items found

end

/-- The lines with the indent of the nodes are those of the nodes themselves. -/
theorem mem_writeTocItems {indent : Nat} {nodes : List (RoseTree α)} {type : α} :
    (indent, type) ∈ writeTocItems indent nodes ↔ type ∈ nodes.map RoseTree.label := by
  induction nodes with
  | nil => simp [writeTocItems]
  | cons node rest ih =>
    have first : (indent, type) ∈ writeTocItem indent node ↔ type = node.label := by
      cases node with
      | node label children =>
        rw [writeTocItem, RoseTree.label, List.mem_cons]
        constructor
        · rintro (same | below)
          · exact (Prod.mk.inj same).2
          · exact absurd (le_indent_of_mem_items below) (Nat.not_succ_le_self indent)
        · exact fun same => .inl (same ▸ rfl)
    rw [writeTocItems, List.mem_append, first, ih, List.map_cons, List.mem_cons]

end Lines

namespace Document

variable {α : Type} {document : Document α}

/-- The table of contents names the types of the hierarchy in order. -/
theorem toc_types : document.toc.map Prod.snd = entriesOf document.hierarchy :=
  writeTocItems_types 0 document.hierarchy

/-- The lines without an indent are those of the root level. -/
theorem mem_toc_root {type : α} :
    (0, type) ∈ document.toc ↔ type ∈ document.hierarchy.map RoseTree.label :=
  mem_writeTocItems

end Document

end DifyPlugin.SchemaDocumentation
