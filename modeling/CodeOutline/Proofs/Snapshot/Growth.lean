import CodeOutline.Proofs.Forest.Growth
import CodeOutline.Snapshot

/-!
# How the forest of a snapshot grows

The forest of a snapshot grows node by node: what is missing of a chain of directories, then a file,
then its elements. Each of these stands for something of the snapshot, and is put below a directory
or file that is there already, or nowhere. What this keeps holds of the whole forest, before the
nodes learn at the end what depends on them.

## Main definitions

* `ElementKind.isShown`, `ElementKind.ShownAs`: which elements get a node, and of which kind
* `Snapshot.Describes`: what a node stands for
* `Forest.HasContainer`: there is a directory or file
* `Snapshot.bareForest`: the forest before the nodes learn what depends on them

## Main results

* `Snapshot.addDirectories_induction`, `Snapshot.addFile_induction`: what one file adds
* `Snapshot.bareForest_induction`: what every added node keeps holds of the forest
-/

namespace CodeOutline

/-! ### Kinds of elements -/

namespace ElementKind

variable {kind : ElementKind} {nodeKind : NodeKind}

/-- The elements of a kind get a node: functions, methods, components and classes do. -/
def isShown : ElementKind → Bool
  | .function | .method | .component | .classType => true
  | .binding | .importClause | .exportClause | .other => false

/-- The kind of the node that the elements of a kind get. A method passes for a function, and a
class for a component. -/
inductive ShownAs : ElementKind → NodeKind → Prop
  | function : ShownAs .function .function
  | method : ShownAs .method .function
  | component : ShownAs .component .component
  | classType : ShownAs .classType .component

theorem nodeKind?_eq_some_iff : kind.nodeKind? = some nodeKind ↔ kind.ShownAs nodeKind := by
  constructor
  · intro h
    cases kind <;> cases h <;> constructor
  · rintro ⟨⟩ <;> rfl

theorem nodeKind?_eq_none_iff : kind.nodeKind? = none ↔ kind.isShown = false := by
  cases kind <;> decide

theorem ShownAs.isShown (h : kind.ShownAs nodeKind) : kind.isShown = true := by
  cases h <;> rfl

theorem ShownAs.isContainer_eq (h : kind.ShownAs nodeKind) : nodeKind.isContainer = false := by
  cases h <;> rfl

theorem ShownAs.mayHold_file (h : kind.ShownAs nodeKind) :
    NodeKind.mayHold .file nodeKind = true := by
  cases h <;> rfl

end ElementKind

/-! ### What a node stands for -/

/-- There is a directory or file of this number. -/
def Forest.HasContainer (forest : Forest) (id : NodeId) : Prop :=
  ∃ node, forest.node? id = some node ∧ node.kind.isContainer = true

namespace Snapshot

variable {snapshot : Snapshot} {forest : Forest} {node : Node} {parent : Option NodeId} {id : Nat}
  {P : Forest → Prop}

/-- A node stands for a directory, or for a file or an element of the snapshot. What depends on it is
left open. -/
inductive Describes (snapshot : Snapshot) : Node → Prop
  | directory (above : List String) (name : String) : Describes snapshot (directoryNode above name)
  | file {path : String} {facts : FileFacts} {name : String}
      (hfile : (path, facts) ∈ snapshot.files)
      (hname : (Path.segments path).getLast? = some name) :
      Describes snapshot (fileNode (Path.segments path) name facts)
  | element {path : String} {facts : FileFacts} {element : CodeElement} {kind : NodeKind}
      (hfile : (path, facts) ∈ snapshot.files) (helement : element ∈ facts.elements)
      (hkind : element.kind.ShownAs kind) (dependents : List String) :
      Describes snapshot
        { element.node kind (Path.join (Path.segments path)) with dependents := dependents }

/-- The forest before the nodes learn what depends on them. -/
def bareForest (snapshot : Snapshot) : Forest :=
  snapshot.files.foldl (fun forest (path, facts) => addFile forest path facts) .empty

theorem forest_eq (snapshot : Snapshot) : snapshot.forest = linkDependents snapshot.bareForest :=
  rfl

theorem forest_eq_of_forest? (h : snapshot.forest? = some forest) : snapshot.forest = forest := by
  rw [forest?] at h
  split at h
  · simp at h
  · exact Option.some.inj h

/-! ### Directories and files that are there -/

theorem lt_size_of_hasContainer (h : forest.HasContainer id) : id < forest.size := by
  obtain ⟨node, hnode, -⟩ := h
  exact Forest.lt_size_of_node? hnode

theorem lt_size_of_parent (hparent : ∀ p ∈ parent, forest.HasContainer p) :
    ∀ p ∈ parent, p < forest.size :=
  fun p hp => lt_size_of_hasContainer (hparent p hp)

theorem exists_of_directory? {path : String} (h : directory? forest path = some id) :
    ∃ node, forest.node? id = some node ∧ node.kind = .directory ∧ node.path = path := by
  obtain ⟨hid, hfound, -⟩ := Array.findIdx?_eq_some_iff_getElem.1 h
  rw [Bool.and_eq_true, beq_iff_eq, beq_iff_eq] at hfound
  exact ⟨forest.slots[id].node, by simp [Forest.node?, hid], hfound⟩

theorem hasContainer_of_directory? {path : String} (h : directory? forest path = some id) :
    forest.HasContainer id := by
  obtain ⟨node, hnode, hkind, -⟩ := exists_of_directory? h
  exact ⟨node, hnode, by rw [hkind]; rfl⟩

section

variable (hparent : ∀ p ∈ parent, forest.HasContainer p)
include hparent

theorem hasContainer_grow (h : forest.HasContainer id) :
    (forest.grow node parent).HasContainer id := by
  have hid := lt_size_of_hasContainer h
  obtain ⟨found, hfound, hkind⟩ := h
  refine ⟨found, ?_, hkind⟩
  rw [Forest.node?_grow (lt_size_of_parent hparent), if_neg (Nat.ne_of_lt hid), hfound]

theorem hasContainer_grow_size (hkind : node.kind.isContainer = true) :
    (forest.grow node parent).HasContainer forest.size := by
  refine ⟨node, ?_, hkind⟩
  rw [Forest.node?_grow (lt_size_of_parent hparent), if_pos rfl]

end

/-! ### What every added node keeps -/

section

variable (hgrow : ∀ forest node parent, P forest → snapshot.Describes node →
  (∀ p ∈ parent, Forest.HasContainer forest p) → P (forest.grow node parent))
include hgrow

/-- A chain of directories is put below a container that is there already, and ends in one. -/
theorem addDirectories_induction (h : P forest) (hparent : ∀ p ∈ parent, forest.HasContainer p)
    (above names : List String) :
    P (addDirectories forest above parent names).1 ∧
      ∀ p ∈ (addDirectories forest above parent names).2,
        (addDirectories forest above parent names).1.HasContainer p := by
  induction names generalizing forest above parent with
  | nil => exact ⟨h, hparent⟩
  | cons name names ih =>
    simp only [addDirectories]
    split
    · -- the directory is there from another file
      rename_i id hfound
      refine ih h (fun p hp => ?_) _
      rw [← Option.mem_some.1 hp]
      exact hasContainer_of_directory? hfound
    · -- the chain goes on below the node that was just added
      refine ih (hgrow _ _ _ h (.directory above name) hparent) (fun p hp => ?_) _
      rw [← Option.mem_some.1 hp]
      exact hasContainer_grow_size hparent rfl

/-- Nodes put below a container that is there already. -/
theorem foldl_grow_induction (h : P forest) (hid : forest.HasContainer id) {nodes : List Node}
    (hnodes : ∀ node ∈ nodes, snapshot.Describes node) :
    P (nodes.foldl (fun forest node => forest.grow node (some id)) forest) := by
  induction nodes generalizing forest with
  | nil => exact h
  | cons node nodes ih =>
    have hparent : ∀ p ∈ some id, forest.HasContainer p := by simpa using hid
    exact ih (hgrow _ _ _ h (hnodes node List.mem_cons_self) hparent)
      (hasContainer_grow hparent hid) fun other hother => hnodes other (List.mem_cons_of_mem _ hother)

theorem addFile_induction (h : P forest) {path : String} {facts : FileFacts}
    (hfile : (path, facts) ∈ snapshot.files) : P (addFile forest path facts) := by
  simp only [addFile]
  split
  · exact h
  · rename_i name hname
    have hnone : ∀ p ∈ (none : Option NodeId), forest.HasContainer p := by simp
    obtain ⟨hchain, hlast⟩ :=
      addDirectories_induction hgrow h hnone [] (Path.segments path).dropLast
    refine foldl_grow_induction hgrow (hgrow _ _ _ hchain (.file hfile hname) hlast)
      (hasContainer_grow_size hlast rfl) ?_
    intro found hfound
    obtain ⟨element, helement, hnode⟩ := List.mem_filterMap.1 hfound
    obtain ⟨kind, hkind, rfl⟩ := Option.map_eq_some_iff.1 hnode
    exact .element hfile helement (ElementKind.nodeKind?_eq_some_iff.1 hkind) []

/-- What holds of the forest without nodes, and is kept by every node that stands for something of
the snapshot and is put below a container or nowhere, holds of the forest of the snapshot. -/
theorem bareForest_induction (hempty : P .empty) : P snapshot.bareForest :=
  List.foldlRecOn snapshot.files _ hempty fun _ h _ hfile => addFile_induction hgrow h hfile

end

end Snapshot

end CodeOutline
