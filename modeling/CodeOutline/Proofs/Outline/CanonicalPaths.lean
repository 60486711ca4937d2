import CodeOutline.Proofs.Outline.Lines
import CodeOutline.Proofs.Statement.Notes

/-!
# Paths in an outline

The path of a node is worked out when the node is added, from what is above it then. It stays right
whatever is added later: the path of a directory or file is the names from its root down to itself,
and anything else has the path of the file it stands in, a `#` and its name. No path of a file holds
a `#`, so what stands before the first one is the path of that file again.

## Main definitions

* `Outline.CanonicalPath`: the path of a node is the one that belongs to its place
* `Outline.HasCanonicalPaths`: every node of an outline has such a path

## Main results

* `WellPlaced.leadsTo_containerNames`: the names in the path of a directory or file are those of the
  way down to it
* `WellPlaced.hash_notMem_path`: no path of a directory or file holds a `#`
* `Outline.hasCanonicalPaths_ofText`: every outline has canonical paths
-/

namespace CodeOutline

namespace Outline

open Reading

variable {forest : Forest} {node file : Node} {id p : Nat}

/-! ### Directories and files -/

namespace WellPlaced

variable (h : WellPlaced forest)
include h

/-- The names in the path of a directory or file are those of the way down to it. -/
theorem leadsTo_containerNames : ∀ (id : Nat) node, forest.node? id = some node →
    node.kind.isContainer = true → forest.LeadsTo (forest.containerNames id) id := by
  apply h.parentsFirst.leadsTo_containerNames
  · exact fun id node hnode hkind => (h.names id node hnode).ne_empty hkind
  · -- what stands above a directory or file is a directory
    intro id p node hnode hkind hparent
    obtain ⟨above, habove, hdir⟩ := exists_directory hkind (h.accepted id node hnode p hparent)
    exact ⟨above, habove, by rw [hdir]; rfl⟩

/-- No path of a directory or file holds a `#`. -/
theorem hash_notMem_path : ∀ (id : Nat) node, forest.node? id = some node →
    node.kind.isContainer = true → '#' ∉ node.path.toList := by
  intro id
  induction id using Nat.strong_induction_on with
  | _ id ih =>
    intro node hnode hkind
    have hname : '#' ∉ node.name.toList := fun hmem =>
      absurd ((h.names id node hnode).isDottedChar_of_mem hkind hmem) (by decide)
    cases hparent : forest.parent? id with
    | none =>
      rw [h.path_eq_name hnode hparent]
      exact hname
    | some p =>
      obtain ⟨above, habove, hdir, hpath⟩ := h.exists_directory_path hnode hkind hparent
      have hp : p < id := h.parentsFirst id p hparent
      have hfree := ih p hp above habove (by rw [hdir]; rfl)
      simp [hpath, hfree, hname]

/-! ### What belongs to a file -/

/-- What is no container and has a parent stands in a file, and the path of the file is in front of
its name. -/
theorem exists_file (hnode : forest.node? id = some node) (hkind : node.kind.isContainer = false)
    (hparent : forest.parent? id = some p) :
    ∃ file, forest.node? p = some file ∧ file.kind = .file ∧
      node.path = file.path ++ "#" ++ node.name := by
  obtain ⟨file, hfile, hhold⟩ := accepts_iff.1 (h.accepted id node hnode p hparent)
  have hkindFile : file.kind = .file := NodeKind.eq_file_of_mayHold hhold hkind
  have hcontainer : file.kind.isContainer = true := by rw [hkindFile]; rfl
  have hway := h.containerPath_eq hfile hcontainer
  have hne := h.containerPath_ne_empty hfile hcontainer
  rw [hway] at hne
  refine ⟨file, hfile, hkindFile, ?_⟩
  rw [h.path_eq id node hnode, hparent]
  simp [pathBelow, hway, hne, hkind]

/-- What stands in front of the first `#` is the path of the file. -/
theorem owningFile_append (hfile : forest.node? p = some file) (hkind : file.kind = .file)
    (name : String) : Path.owningFile (file.path ++ "#" ++ name) = file.path :=
  Path.owningFile_append (h.hash_notMem_path p file hfile (by rw [hkind]; rfl)) name

end WellPlaced

/-! ### Canonical paths -/

/-- The path of a node is the one that belongs to its place. -/
structure CanonicalPath (forest : Forest) (id : NodeId) (node : Node) : Prop where
  name_ne_empty : node.name ≠ ""
  /-- a directory or file has the names from its root down to itself for a path -/
  container : node.kind.isContainer = true → node.path = forest.containerPath id ∧
    ∃ names, forest.LeadsTo names id ∧ node.path = Path.join names
  /-- anything else stands in a file, or on its own -/
  member : node.kind.isContainer = false → ∀ p, forest.parent? id = some p →
    ∃ file, forest.node? p = some file ∧ file.kind = .file ∧ forest.owningFile? id = some p ∧
      node.path = file.path ++ "#" ++ node.name ∧ node.owningFilePath = file.path
  alone : node.kind.isContainer = false → forest.parent? id = none → node.path = node.name

/-- Every node has the path that belongs to its place. -/
def HasCanonicalPaths (outline : Outline) : Prop :=
  ∀ id node, outline.forest.node? id = some node → CanonicalPath outline.forest id node

/-- A node that stands in its place has the path that belongs there. -/
theorem WellPlaced.canonicalPath (h : WellPlaced forest) (hnode : forest.node? id = some node)
    (hname : node.name ≠ "") : CanonicalPath forest id node where
  name_ne_empty := hname
  container hkind := by
    have hway := h.containerPath_eq hnode hkind
    exact ⟨hway.symm, forest.containerNames id, h.leadsTo_containerNames id node hnode hkind,
      hway.symm.trans (Forest.containerPath_eq_join forest id)⟩
  member hkind p hparent := by
    obtain ⟨file, hfile, hkindFile, hpath⟩ := h.exists_file hnode hkind hparent
    have howner := h.parentsFirst.owningFile?_eq hnode hkind hparent hfile hkindFile
    refine ⟨file, hfile, hkindFile, howner, hpath, ?_⟩
    rw [Node.owningFilePath, hpath, h.owningFile_append hfile hkindFile]
  alone _ hparent := h.path_eq_name hnode hparent

/-! ### Names -/

/-- Every node has a name. -/
def HasNames (forest : Forest) : Prop :=
  ∀ (id : Nat) node, forest.node? id = some node → node.name ≠ ""

theorem newline_notMem_of_mem_linesOf {text line : String} (h : line ∈ linesOf text) :
    '\n' ∉ line.toList := by
  obtain ⟨cs, hcs, rfl⟩ := List.mem_map.1 h
  rw [String.toList_ofList]
  exact Text.newline_notMem_of_mem_lines hcs

theorem Reading.hasNames_after (width : Nat) {lines : List String}
    (hlines : ∀ line ∈ lines, '\n' ∉ line.toList) : HasNames (after width lines).forest := by
  refine forest_after_induction (by simp [HasNames]) ?_
  intro front line hline node hnode _ hnames id found hfound
  obtain ⟨-, rfl⟩ | ⟨-, hold⟩ :=
    Forest.eq_or_node?_of_node?_grow (sound_after width front).parentOf_lt hfound
  · obtain ⟨statement, stated, hread, hstated, rfl⟩ := exists_of_describe? hnode
    have hname : stated.name ≠ "" := Line.name_ne_empty_of_read (hlines line hline) hread hstated
    exact hname
  · exact hnames id found hold

/-- **Every node of an outline has the path that belongs to its place**, whatever the text and
however wide a level. -/
theorem hasCanonicalPaths_ofText (width : Nat) (text : String) :
    HasCanonicalPaths (ofText width text) := by
  intro id node hnode
  have hlines : ∀ line ∈ linesOf text, '\n' ∉ line.toList := fun line =>
    newline_notMem_of_mem_linesOf
  have hnames := hasNames_after (max width 1) hlines
  exact (sound_after (max width 1) (linesOf text)).placed.canonicalPath hnode
    (hnames id node hnode)

end Outline

end CodeOutline
