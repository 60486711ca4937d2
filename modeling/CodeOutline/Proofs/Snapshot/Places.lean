import CodeOutline.Proofs.Forest.ContainerPath
import CodeOutline.Proofs.Path.Segments
import CodeOutline.Proofs.Snapshot.Origins

/-!
# Places in a snapshot's forest

In the forest of a snapshot a directory or file stands on its own or in a directory, and anything
else stands in a file. The path of a node is that of the place above it, a mark and its name, and
its level is one more. Both are worked out from the path of the file in the snapshot, without a look
at the forest; that they agree with what is above the node is what is kept here from node to node.

## Main definitions

* `Snapshot.InPlace`: a node has the path and the level of a place
* `Snapshot.Arranged`: every node of a forest has those of its own place

## Main results

* `Snapshot.Arranged.grow`, `Snapshot.Arranged.linkDependents`: what keeps a forest arranged
* `Snapshot.Arranged.path_eq_join`: the path of a directory or file is the way to it
* `Snapshot.Arranged.containerPath_eq`, `Snapshot.Arranged.level_eq`: path and level as the forest
  shows them
* `Snapshot.Arranged.exists_file`: everything else stands in a file
-/

namespace CodeOutline.Snapshot

variable {forest later : Forest} {node : Node} {parent : Option NodeId} {names : List String}
  {id p : Nat}

/-- A node has the path and the level that belong to a place: on its own, in a directory or in a
file. -/
inductive InPlace (forest : Forest) : Option NodeId → Node → Prop
  | top {node : Node} (hkind : node.kind.isContainer = true) (hname : Path.IsSegment node.name)
      (hpath : node.path = node.name) (hlevel : node.level = 0) : InPlace forest none node
  | inDirectory {p : NodeId} {above node : Node} (habove : forest.node? p = some above)
      (hdir : above.kind = .directory) (hkind : node.kind.isContainer = true)
      (hname : Path.IsSegment node.name) (hpath : node.path = above.path ++ "/" ++ node.name)
      (hlevel : node.level = above.level + 1) : InPlace forest (some p) node
  | inFile {p : NodeId} {file node : Node} (hfile : forest.node? p = some file)
      (hkindFile : file.kind = .file) (hkind : NodeKind.mayHold .file node.kind = true)
      (hpath : node.path = file.path ++ "#" ++ node.name)
      (hlevel : node.level = file.level + 1) : InPlace forest (some p) node

theorem isContainer_of_mayHold_file {kind : NodeKind} (h : NodeKind.mayHold .file kind = true) :
    kind.isContainer = false := by
  cases kind <;> simp_all [NodeKind.mayHold, NodeKind.allowedChildren, NodeKind.isContainer]

theorem mayHold_directory_of_isContainer {kind : NodeKind} (h : kind.isContainer = true) :
    NodeKind.mayHold .directory kind = true := by
  cases kind <;> simp_all [NodeKind.mayHold, NodeKind.allowedChildren, NodeKind.isContainer]

namespace InPlace

theorem lt_size (h : InPlace forest parent node) : ∀ p ∈ parent, p < forest.size := by
  intro p hp
  cases h with
  | top => simp at hp
  | inDirectory habove => exact Option.mem_some.1 hp ▸ Forest.lt_size_of_node? habove
  | inFile hfile => exact Option.mem_some.1 hp ▸ Forest.lt_size_of_node? hfile

theorem isSegment_name (h : InPlace forest parent node) (hkind : node.kind.isContainer = true) :
    Path.IsSegment node.name := by
  cases h with
  | top _ hname => exact hname
  | inDirectory _ _ _ hname => exact hname
  | inFile _ _ hhold => simp [isContainer_of_mayHold_file hhold] at hkind

/-- A place stays what it is when nodes are added. -/
theorem of_extends (h : InPlace forest parent node) (hext : forest.Extends later) :
    InPlace later parent node := by
  cases h with
  | top hkind hname hpath hlevel => exact .top hkind hname hpath hlevel
  | inDirectory habove hdir hkind hname hpath hlevel =>
    exact .inDirectory (hext.node?_of_node? habove) hdir hkind hname hpath hlevel
  | inFile hfile hkindFile hkind hpath hlevel =>
    exact .inFile (hext.node?_of_node? hfile) hkindFile hkind hpath hlevel

end InPlace

/-! ### Arranged forests -/

/-- The links of a forest agree, and every node has the path and the level of its place. -/
structure Arranged (forest : Forest) : Prop extends forest.Rooted where
  inPlace : ∀ (id : Nat) node, forest.node? id = some node →
    InPlace forest (forest.parent? id) node

theorem arranged_empty : Arranged .empty where
  toRooted := .empty
  inPlace := by simp

namespace Arranged

variable (h : Arranged forest)
include h

theorem extends_grow (hnode : InPlace forest parent node) :
    forest.Extends (forest.grow node parent) :=
  Forest.extends_grow hnode.lt_size fun _ => h.lt_size_of_mem_roots

/-- A new node in its place leaves all others in theirs. -/
theorem grow (hnode : InPlace forest parent node) : Arranged (forest.grow node parent) where
  toRooted := h.toRooted.grow hnode.lt_size
  inPlace id found hfound := by
    have hext := h.extends_grow hnode
    rw [Forest.parent?_grow hnode.lt_size]
    obtain ⟨rfl, rfl⟩ | ⟨hid, hold⟩ := Forest.eq_or_node?_of_node?_grow hnode.lt_size hfound
    · rw [if_pos rfl]
      exact hnode.of_extends hext
    · rw [if_neg (Nat.ne_of_lt hid)]
      exact (h.inPlace id found hold).of_extends hext

/-! ### What is above a node -/

/-- What stands above a node may hold it. -/
theorem mayHold {above : Node} (hparent : forest.parent? id = some p)
    (hnode : forest.node? id = some node) (habove : forest.node? p = some above) :
    above.kind.mayHold node.kind = true := by
  have hplace := h.inPlace id node hnode
  rw [hparent] at hplace
  cases hplace with
  | inDirectory habove' hdir hkind =>
    obtain rfl := Option.some.inj (habove.symm.trans habove')
    rw [hdir]
    exact mayHold_directory_of_isContainer hkind
  | inFile hfile hkindFile hkind =>
    obtain rfl := Option.some.inj (habove.symm.trans hfile)
    rw [hkindFile]
    exact hkind

/-- A directory or file that does not stand on its own stands in a directory, whose path is in front
of its name. -/
theorem exists_directory (hnode : forest.node? id = some node)
    (hkind : node.kind.isContainer = true) (hparent : forest.parent? id = some p) :
    ∃ above, forest.node? p = some above ∧ above.kind.isContainer = true ∧
      node.path = above.path ++ "/" ++ node.name := by
  have hplace := h.inPlace id node hnode
  rw [hparent] at hplace
  cases hplace with
  | inDirectory habove hdir _ _ hpath => exact ⟨_, habove, by rw [hdir]; rfl, hpath⟩
  | inFile _ _ hhold => simp [isContainer_of_mayHold_file hhold] at hkind

theorem path_eq_name (hnode : forest.node? id = some node) (hparent : forest.parent? id = none) :
    node.path = node.name := by
  have hplace := h.inPlace id node hnode
  rw [hparent] at hplace
  cases hplace with
  | top _ _ hpath => exact hpath

/-- What is no directory or file stands in a file, whose path is in front of its name. -/
theorem exists_file (hnode : forest.node? id = some node) (hkind : node.kind.isContainer = false) :
    ∃ p file, forest.parent? id = some p ∧ forest.node? p = some file ∧ file.kind = .file ∧
      node.path = file.path ++ "#" ++ node.name := by
  have hplace := h.inPlace id node hnode
  cases hparent : forest.parent? id with
  | none =>
    rw [hparent] at hplace
    cases hplace with
    | top hcontainer => simp [hkind] at hcontainer
  | some p =>
    rw [hparent] at hplace
    cases hplace with
    | inDirectory _ _ hcontainer => simp [hkind] at hcontainer
    | inFile hfile hkindFile _ hpath => exact ⟨p, _, rfl, hfile, hkindFile, hpath⟩

/-! ### Ways and levels -/

/-- The level of a node is the number of nodes above it. -/
theorem level_eq : ∀ (id : Nat) node, forest.node? id = some node →
    node.level = (forest.ancestors id).length := by
  intro id
  induction id using Nat.strong_induction_on with
  | _ id ih =>
    intro node hnode
    have hplace := h.inPlace id node hnode
    cases hparent : forest.parent? id with
    | none =>
      rw [hparent] at hplace
      rw [Forest.ancestors_of_root hparent]
      cases hplace with
      | top _ _ _ hlevel => exact hlevel
    | some p =>
      have hp : p < id := h.parentsFirst id p hparent
      rw [hparent] at hplace
      rw [h.parentsFirst.ancestors_of_parent? hparent, List.length_cons]
      cases hplace with
      | inDirectory habove _ _ _ _ hlevel => rw [hlevel, ih p hp _ habove]
      | inFile hfile _ _ _ hlevel => rw [hlevel, ih p hp _ hfile]

theorem leadsTo_containerNames : ∀ (id : Nat) node, forest.node? id = some node →
    node.kind.isContainer = true → forest.LeadsTo (forest.containerNames id) id := by
  apply h.parentsFirst.leadsTo_containerNames
  · exact fun id node hnode hkind => ((h.inPlace _ _ hnode).isSegment_name hkind).1
  · intro id p node hnode hkind hparent
    obtain ⟨above, habove, hcontainer, -⟩ := h.exists_directory hnode hkind hparent
    exact ⟨above, habove, hcontainer⟩

/-- The path of a directory or file is the way to it, and no name on it is empty or holds a slash.
-/
theorem path_eq_join (hway : forest.LeadsTo names id) (hnode : forest.node? id = some node)
    (hkind : node.kind.isContainer = true) :
    node.path = Path.join names ∧ ∀ name ∈ names, Path.IsSegment name := by
  induction hway generalizing node with
  | root hnode' hparent =>
    obtain rfl := Option.some.inj (hnode.symm.trans hnode')
    rw [h.path_eq_name hnode hparent, ← List.nil_append [node.name], Path.join_append_singleton]
    simpa using (h.inPlace _ _ hnode).isSegment_name hkind
  | child hway hnode' hparent ih =>
    obtain rfl := Option.some.inj (hnode.symm.trans hnode')
    obtain ⟨above, habove, hcontainer, hpath⟩ := h.exists_directory hnode hkind hparent
    obtain ⟨hfront, hnames⟩ := ih habove hcontainer
    rw [Path.join_append_singleton, if_neg hway.ne_nil, ← hfront]
    refine ⟨hpath, fun name hname => ?_⟩
    rcases List.mem_append.1 hname with hname | hname
    · exact hnames name hname
    · exact List.mem_singleton.1 hname ▸ (h.inPlace _ _ hnode).isSegment_name hkind

theorem containerPath_eq (hnode : forest.node? id = some node)
    (hkind : node.kind.isContainer = true) : forest.containerPath id = node.path := by
  have hway := h.leadsTo_containerNames id node hnode hkind
  rw [(h.path_eq_join hway hnode hkind).1, Forest.containerPath_eq_join]

end Arranged

/-! ### Dependents leave places alone -/

theorem node?_linkDependents_of_isContainer (hnode : forest.node? id = some node)
    (hkind : node.kind.isContainer = true) : (linkDependents forest).node? id = some node := by
  rw [node?_linkDependents, hnode, Option.map_some, if_pos hkind]

/-- A node is what it was, except for what depends on it. -/
theorem exists_of_node?_linkDependents (h : (linkDependents forest).node? id = some node) :
    ∃ bare dependents, forest.node? id = some bare ∧
      node = { bare with dependents := dependents } := by
  rw [node?_linkDependents] at h
  obtain ⟨bare, hbare, rfl⟩ := Option.map_eq_some_iff.1 h
  split
  · exact ⟨bare, bare.dependents, hbare, rfl⟩
  · exact ⟨bare, _, hbare, rfl⟩

theorem InPlace.linkDependents (h : InPlace forest parent node) (dependents : List String) :
    InPlace (linkDependents forest) parent { node with dependents := dependents } := by
  cases h with
  | top hkind hname hpath hlevel => exact .top hkind hname hpath hlevel
  | inDirectory habove hdir hkind hname hpath hlevel =>
    have habove := node?_linkDependents_of_isContainer habove (by rw [hdir]; rfl)
    exact .inDirectory habove hdir hkind hname hpath hlevel
  | inFile hfile hkindFile hkind hpath hlevel =>
    have hfile := node?_linkDependents_of_isContainer hfile (by rw [hkindFile]; rfl)
    exact .inFile hfile hkindFile hkind hpath hlevel

theorem Arranged.linkDependents (h : Arranged forest) : Arranged (linkDependents forest) where
  toRooted := rooted_linkDependents h.toRooted
  inPlace id node hnode := by
    obtain ⟨bare, dependents, hbare, rfl⟩ := exists_of_node?_linkDependents hnode
    rw [parent?_linkDependents]
    exact (h.inPlace id bare hbare).linkDependents dependents

end CodeOutline.Snapshot
