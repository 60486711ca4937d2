import CodeOutline.Proofs.FirstOccurrences
import CodeOutline.Proofs.Snapshot.Structure

/-!
# What depends on a node

An element names what it calls and what it refers to. At the end, when the forest of a snapshot is
complete, every function and component learns who names it: all nodes that do, in whatever file,
itself included, are found by the bare name. So dependents are dependencies read backwards. As they
are told apart by path, two elements of one path count once.

The nodes of elements come in the order of the files and of the elements in them, so that each of
them can be compared with its own element, also where others have the same name.

## Main definitions

* `Snapshot.shownElements`, `Forest.elementNodes`: the elements that get a node, and their nodes
* `Snapshot.StandsFor`: a node has what its element says
* `Snapshot.LinksDependents`: dependents and dependencies of all nodes

## Main results

* `Snapshot.elementNodes_bareForest`: the nodes of elements, in order
* `Snapshot.mem_dependentsOf_iff`: what depends on a name
* `Snapshot.linksDependents_forest`: the forest of a snapshot
-/

namespace CodeOutline

/-! ### The nodes of elements -/

/-- The nodes of a forest that are neither directories nor files, in order. -/
def Forest.elementNodes (forest : Forest) : List Node :=
  forest.nodes.filter fun node => !node.kind.isContainer

namespace Snapshot

variable {snapshot : Snapshot} {forest : Forest} {node : Node} {parent : Option NodeId}
  {path name : String} {id : Nat}

/-- The elements that get a node, with the paths of their files, in order. -/
def shownElements (snapshot : Snapshot) : List (String × CodeElement) :=
  (named snapshot.files).flatMap fun file =>
    file.2.shown.map (Path.join (Path.segments file.1), ·)

/-- A node has what its element says: kind, name and path, and the names that the element calls or
refers to, each where it occurs first. -/
structure StandsFor (node : Node) (element : String × CodeElement) : Prop where
  kind : element.2.kind.ShownAs node.kind
  name : node.name = element.2.name
  path : node.path = element.1 ++ "#" ++ element.2.name
  dependencies : node.dependencies = firstOccurrences (element.2.calls ++ element.2.references)

/-- Each element that is shown has its node. -/
theorem forall₂_standsFor (filePath : String) (elements : List CodeElement) :
    List.Forall₂ StandsFor (elements.filterMap (·.node? filePath))
      ((elements.filter (·.kind.isShown)).map (filePath, ·)) := by
  induction elements with
  | nil => exact .nil
  | cons element elements ih =>
    cases hkind : element.kind.nodeKind? with
    | none =>
      have hhidden := ElementKind.nodeKind?_eq_none_iff.1 hkind
      simpa [CodeElement.node?, hkind, hhidden] using ih
    | some kind =>
      have hshown := ElementKind.nodeKind?_eq_some_iff.1 hkind
      have hnode : StandsFor (element.node kind filePath) (filePath, element) :=
        ⟨hshown, rfl, rfl, eraseDups_eq_firstOccurrences _⟩
      have hsome : element.node? filePath = some (element.node kind filePath) := by
        rw [CodeElement.node?, hkind, Option.map_some]
      simp only [List.filterMap_cons, hsome, List.filter_cons_of_pos, hshown.isShown,
        List.map_cons]
      exact .cons hnode ih

theorem elementNodes_grow (hparent : ∀ p ∈ parent, p < forest.size) :
    (forest.grow node parent).elementNodes =
      if node.kind.isContainer then forest.elementNodes else forest.elementNodes ++ [node] := by
  rw [Forest.elementNodes, Forest.nodes_grow hparent, List.filter_append, ← Forest.elementNodes]
  split <;> rename_i hkind <;> simp [hkind]

/-- A chain of directories adds no nodes of elements. -/
theorem elementNodes_addDirectories (hparent : ∀ p ∈ parent, forest.HasContainer p)
    (above names : List String) :
    (addDirectories forest above parent names).1.elementNodes = forest.elementNodes ∧
      ∀ p ∈ (addDirectories forest above parent names).2,
        (addDirectories forest above parent names).1.HasContainer p := by
  -- what is added stands for something of the snapshot without files, so it is a directory
  have hgrow (later : Forest) (node : Node) (parent : Option NodeId)
      (h : later.elementNodes = forest.elementNodes) (hnode : Snapshot.empty.Describes node)
      (hparent : ∀ p ∈ parent, later.HasContainer p) :
      (later.grow node parent).elementNodes = forest.elementNodes := by
    rw [elementNodes_grow (lt_size_of_parent hparent), ← h]
    cases hnode with
    | directory above name => rfl
    | file hfile _ => simp [empty] at hfile
    | element hfile _ _ _ => simp [empty] at hfile
  exact addDirectories_induction hgrow rfl hparent above names

theorem elementNodes_foldl_grow (hid : id < forest.size) {nodes : List Node}
    (hnodes : ∀ node ∈ nodes, node.kind.isContainer = false) :
    (nodes.foldl (fun forest node => forest.grow node (some id)) forest).elementNodes =
      forest.elementNodes ++ nodes := by
  induction nodes generalizing forest with
  | nil => simp
  | cons node nodes ih =>
    have hparent : ∀ p ∈ some id, p < forest.size := by simpa using hid
    have hlt : id < (forest.grow node (some id)).size := by
      rw [Forest.size_grow]
      exact Nat.lt_succ_of_lt hid
    obtain ⟨hnode, hnodes⟩ := List.forall_mem_cons.1 hnodes
    rw [List.foldl_cons, ih hlt hnodes, elementNodes_grow hparent, if_neg (by simp [hnode]),
      List.append_assoc, List.singleton_append]

/-- A file with a name adds the nodes of its elements, in order. -/
theorem elementNodes_addFile (forest : Forest) (path : String) (facts : FileFacts) :
    (addFile forest path facts).elementNodes = forest.elementNodes ++
      if Path.segments path = [] then []
      else facts.elements.filterMap (·.node? (Path.join (Path.segments path))) := by
  simp only [addFile]
  split
  · rename_i hnone
    rw [if_pos (List.getLast?_eq_none_iff.1 hnone), List.append_nil]
  · rename_i name hname
    have hne : Path.segments path ≠ [] := by
      rintro hnil
      simp [hnil] at hname
    have hroot : ∀ p ∈ (none : Option NodeId), forest.HasContainer p := by simp
    obtain ⟨hsame, hinside⟩ := elementNodes_addDirectories hroot [] (Path.segments path).dropLast
    have hlt := lt_size_of_parent hinside
    have hkind : (fileNode (Path.segments path) name facts).kind.isContainer = true := rfl
    rw [elementNodes_foldl_grow, elementNodes_grow hlt, if_pos hkind, hsame, if_neg hne]
    · rfl
    · rw [Forest.size_grow]
      exact Nat.lt_succ_self _
    · intro node hnode
      obtain ⟨element, -, helement⟩ := List.mem_filterMap.1 hnode
      obtain ⟨kind, hkind, rfl⟩ := Option.map_eq_some_iff.1 helement
      exact (ElementKind.nodeKind?_eq_some_iff.1 hkind).isContainer_eq

/-- The nodes of elements are those of the elements that are shown, in order. -/
theorem elementNodes_bareForest (snapshot : Snapshot) :
    List.Forall₂ StandsFor snapshot.bareForest.elementNodes snapshot.shownElements := by
  rw [bareForest, shownElements]
  induction snapshot.files using List.reverseRecOn with
  | nil => exact .nil
  | append_singleton files file ih =>
    rw [List.foldl_append, named, List.filter_append, List.flatMap_append, ← named]
    simp only [List.foldl_cons, List.foldl_nil, elementNodes_addFile]
    apply List.rel_append ih
    by_cases hnil : Path.segments file.1 = []
    · simp [hnil]
    · simpa [hnil, FileFacts.shown] using forall₂_standsFor _ file.2.elements

/-! ### What depends on a name -/

theorem nodes_linkDependents (forest : Forest) :
    (linkDependents forest).nodes = forest.nodes.map fun node =>
      if node.kind.isContainer then node
      else { node with dependents := dependentsOf forest node.name } := by
  rw [Forest.nodes, linkDependents, Array.toList_map, List.map_map, Forest.nodes, List.map_map]
  congr 1
  funext slot
  simp only [Function.comp_apply]
  split <;> rfl

/-- A path depends on a name if a node of this path names it. -/
theorem mem_dependentsOf_iff :
    path ∈ dependentsOf forest name ↔
      ∃ user ∈ forest.nodes, user.path = path ∧ name ∈ user.dependencies := by
  rw [dependentsOf, List.mem_eraseDups, List.mem_map]
  simp only [List.mem_filter, List.contains_iff_mem, Forest.nodes, List.mem_map]
  constructor
  · rintro ⟨slot, ⟨hslot, hname⟩, rfl⟩
    exact ⟨slot.node, ⟨slot, hslot, rfl⟩, rfl, hname⟩
  · rintro ⟨user, ⟨slot, hslot, rfl⟩, hpath, hname⟩
    exact ⟨slot, ⟨hslot, hname⟩, hpath⟩

/-- Who names something, and under which path, does not change when nodes learn what depends on
them. -/
theorem exists_user_linkDependents_iff :
    (∃ user ∈ (linkDependents forest).nodes, user.path = path ∧ name ∈ user.dependencies) ↔
      ∃ user ∈ forest.nodes, user.path = path ∧ name ∈ user.dependencies := by
  rw [nodes_linkDependents]
  simp only [List.mem_map, exists_exists_and_eq_and]
  refine exists_congr fun user => and_congr_right fun _ => ?_
  split <;> rfl

/-- Dependents are dependencies read backwards, and each path is among them once. The dependencies of
an element are the names it calls and refers to, each where it occurs first. Directories and files
have neither. -/
structure LinksDependents (snapshot : Snapshot) (forest : Forest) : Prop where
  mem_dependents_iff : ∀ node ∈ forest.nodes, node.kind = .function ∨ node.kind = .component →
    ∀ path, path ∈ node.dependents ↔
      ∃ user ∈ forest.nodes, user.path = path ∧ node.name ∈ user.dependencies
  nodup_dependents : ∀ node ∈ forest.nodes, node.dependents.Nodup
  elements : List.Forall₂ StandsFor forest.elementNodes snapshot.shownElements
  containers : ∀ node ∈ forest.nodes, node.kind.isContainer = true →
    node.dependencies = [] ∧ node.dependents = []

theorem Describes.links_eq_nil (h : snapshot.Describes node)
    (hkind : node.kind.isContainer = true) : node.dependencies = [] ∧ node.dependents = [] := by
  cases h with
  | directory above name => exact ⟨rfl, rfl⟩
  | file hfile hname => exact ⟨rfl, rfl⟩
  | element hfile helement hnode _ =>
    exact Bool.noConfusion (hnode.isContainer_eq.symm.trans hkind)

theorem elementNodes_linkDependents (forest : Forest) :
    (linkDependents forest).elementNodes = forest.elementNodes.map fun node =>
      { node with dependents := dependentsOf forest node.name } := by
  rw [Forest.elementNodes, nodes_linkDependents, List.filter_map, Forest.elementNodes]
  have hsame : (fun node : Node => !node.kind.isContainer) ∘ (fun node =>
      if node.kind.isContainer then node
      else { node with dependents := dependentsOf forest node.name }) =
      fun node => !node.kind.isContainer := by
    funext node
    simp only [Function.comp_apply]
    split <;> rfl
  rw [hsame]
  refine List.map_congr_left fun node hnode => ?_
  rw [if_neg (by simpa using (List.mem_filter.1 hnode).2)]

/-- What is no directory or file has learned what depends on it. -/
theorem dependents_eq_of_mem_linkDependents (hnode : node ∈ (linkDependents forest).nodes)
    (hkind : node.kind.isContainer = false) : node.dependents = dependentsOf forest node.name := by
  rw [nodes_linkDependents] at hnode
  obtain ⟨bare, -, rfl⟩ := List.mem_map.1 hnode
  split
  · rename_i hbare
    simp [hbare] at hkind
  · rfl

/-- **Dependents are the inverse of dependencies** in the forest of every snapshot. -/
theorem linksDependents_forest (snapshot : Snapshot) :
    snapshot.LinksDependents snapshot.forest := by
  have hcontainers : ∀ node ∈ snapshot.forest.nodes, node.kind.isContainer = true →
      node.dependencies = [] ∧ node.dependents = [] := by
    intro node hnode hkind
    obtain ⟨id, hid⟩ := Forest.mem_nodes_iff.1 hnode
    exact ((filled_forest snapshot).node id node hid).links_eq_nil hkind
  have hlearned : ∀ node ∈ snapshot.forest.nodes, node.kind.isContainer = false →
      node.dependents = dependentsOf snapshot.bareForest node.name := by
    rw [forest_eq]
    exact fun node => dependents_eq_of_mem_linkDependents
  refine ⟨fun node hnode hkind path => ?_, fun node hnode => ?_, ?_, hcontainers⟩
  · have helement : node.kind.isContainer = false := by
      rcases hkind with hkind | hkind <;> rw [hkind] <;> rfl
    rw [hlearned node hnode helement, mem_dependentsOf_iff, forest_eq,
      exists_user_linkDependents_iff]
  · cases hkind : node.kind.isContainer with
    | true =>
      rw [(hcontainers node hnode hkind).2]
      exact List.nodup_nil
    | false =>
      rw [hlearned node hnode hkind]
      exact nodup_eraseDups _
  · rw [forest_eq, elementNodes_linkDependents, List.forall₂_map_left_iff]
    exact (elementNodes_bareForest snapshot).imp fun node element h =>
      ⟨h.kind, h.name, h.path, h.dependencies⟩

/-- A function calls itself twice, and another file has a method of this name: each of them has the
function as a dependent, once. -/
example :
    let again : CodeElement := ⟨"run", .function, 1, 0, true, "", ["run", "log", "run"], ["log"]⟩
    let other : CodeElement := ⟨"run", .method, 1, 0, true, "", [], []⟩
    let snapshot := (Snapshot.empty.insert "a.ts" ⟨[again], ""⟩).insert "b.ts" ⟨[other], ""⟩
    snapshot.forest.nodes.map (fun node => (node.path, node.dependencies, node.dependents)) =
      [("a.ts", [], []), ("a.ts#run", ["run", "log"], ["a.ts#run"]), ("b.ts", [], []),
        ("b.ts#run", [], ["a.ts#run"])] := by
  decide +kernel

end Snapshot

end CodeOutline
