import CodeOutline.Proofs.Snapshot.Links

/-!
# What the nodes of a snapshot's forest stand for

Every node of a snapshot's forest is a directory on the way to a file, a file, or an element of one,
and only directories and files stand above others. So an element has no children, and is compared by
its own source text or not at all.

## Main definitions

* `Snapshot.elements`: the elements of all files
* `Snapshot.Filled`: what the nodes of a forest stand for, and what stands above others

## Main results

* `Snapshot.filled_forest`: the forest of a snapshot
* `Snapshot.Describes.exists_element`: the element that a node stands for
* `Snapshot.exists_element_of_comparableHash?`: what the node of an element is compared by
-/

namespace CodeOutline.Snapshot

variable {snapshot : Snapshot} {forest : Forest} {node : Node} {id : Nat} {hash : String}

/-- The elements of all files. -/
def elements (snapshot : Snapshot) : List CodeElement :=
  snapshot.files.flatMap (·.2.elements)

/-- Every node stands for something of the snapshot, and only directories and files stand above
others. -/
structure Filled (snapshot : Snapshot) (forest : Forest) : Prop where
  node : ∀ (id : Nat) node, forest.node? id = some node → snapshot.Describes node
  parent : ∀ id p, forest.parent? id = some p → forest.HasContainer p

theorem filled_empty : snapshot.Filled .empty := by
  constructor <;> simp

theorem Filled.grow {parent : Option NodeId} (h : snapshot.Filled forest)
    (hnode : snapshot.Describes node) (hparent : ∀ p ∈ parent, forest.HasContainer p) :
    snapshot.Filled (forest.grow node parent) := by
  have hlt := lt_size_of_parent hparent
  constructor
  · intro id found hfound
    obtain ⟨-, rfl⟩ | ⟨-, hold⟩ := Forest.eq_or_node?_of_node?_grow hlt hfound
    · exact hnode
    · exact h.node id found hold
  · intro id p hp
    rw [Forest.parent?_grow hlt] at hp
    split at hp
    · exact hasContainer_grow hparent (hparent p hp)
    · exact hasContainer_grow hparent (h.parent id p hp)

/-! ### What a node stands for -/

/-- What is no directory or file stands for an element. -/
theorem Describes.exists_element (h : snapshot.Describes node)
    (hkind : node.kind.isContainer = false) :
    ∃ element ∈ snapshot.elements, element.kind.ShownAs node.kind ∧
      node.name = element.name ∧ node.hash = element.hash := by
  cases h with
  | directory above name => exact Bool.noConfusion hkind
  | file hfile hname => exact Bool.noConfusion hkind
  | element hfile helement hkind' _ =>
    exact ⟨_, List.mem_flatMap.2 ⟨_, hfile, helement⟩, hkind', rfl, rfl⟩

/-- What depends on a node is no part of what it stands for. -/
theorem Describes.withDependents (h : snapshot.Describes node)
    (hkind : node.kind.isContainer = false) (dependents : List String) :
    snapshot.Describes { node with dependents := dependents } := by
  cases h with
  | directory above name => exact Bool.noConfusion hkind
  | file hfile hname => exact Bool.noConfusion hkind
  | element hfile helement hkind' _ => exact .element hfile helement hkind' dependents

theorem node?_linkDependents (forest : Forest) (id : Nat) :
    (linkDependents forest).node? id = (forest.node? id).map fun node =>
      if node.kind.isContainer then node
      else { node with dependents := dependentsOf forest node.name } := by
  rw [Forest.node?, linkDependents, Array.getElem?_map, Option.map_map, Forest.node?,
    Option.map_map]
  congr 1
  funext slot
  simp only [Function.comp_apply]
  split <;> rfl

theorem filled_linkDependents (h : snapshot.Filled forest) :
    snapshot.Filled (linkDependents forest) := by
  constructor
  · intro id found hfound
    rw [node?_linkDependents] at hfound
    obtain ⟨node, hnode, rfl⟩ := Option.map_eq_some_iff.1 hfound
    split
    · exact h.node id node hnode
    · rename_i hkind
      exact (h.node id node hnode).withDependents (Bool.eq_false_iff.2 hkind) _
  · intro id p hp
    rw [parent?_linkDependents] at hp
    obtain ⟨above, habove, hkind⟩ := h.parent id p hp
    refine ⟨above, ?_, hkind⟩
    rw [node?_linkDependents, habove, Option.map_some, if_pos hkind]

/-- Every node of a snapshot's forest stands for something of the snapshot, and only directories and
files stand above others. -/
theorem filled_forest (snapshot : Snapshot) : snapshot.Filled snapshot.forest := by
  rw [forest_eq]
  apply filled_linkDependents
  apply bareForest_induction _ filled_empty
  intro forest node parent h hnode hparent
  exact h.grow hnode hparent

/-! ### Elements -/

theorem children_of_element (hnode : snapshot.forest.node? id = some node)
    (hkind : node.kind.isContainer = false) : snapshot.forest.children id = [] := by
  by_contra hne
  obtain ⟨child, hchild⟩ := List.exists_mem_of_ne_nil _ hne
  have hparent := ((rooted_forest snapshot).mem_children_iff id child).1 hchild
  obtain ⟨above, habove, hcontainer⟩ := (filled_forest snapshot).parent child id hparent
  obtain rfl : above = node := Option.some.inj (habove.symm.trans hnode)
  simp [hkind] at hcontainer

/-- The node of an element is compared by its own hash or not at all. -/
theorem comparableHash?_of_element (hnode : snapshot.forest.node? id = some node)
    (hkind : node.kind.isContainer = false) :
    snapshot.forest.comparableHash? id = some hash ↔ node.hash = hash ∧ hash ≠ "" := by
  simp only [Forest.comparableHash?, hnode, children_of_element hnode hkind]
  by_cases hhash : node.hash = ""
  · rw [if_neg (not_not.2 hhash), hhash]
    simp [eq_comm]
  · rw [if_pos hhash, Option.some.injEq]
    constructor
    · rintro rfl
      exact ⟨rfl, hhash⟩
    · exact And.left

/-- An element with a hash has source text, and the hash is that of its words. -/
theorem hash_eq_of_ne_empty {element : CodeElement} (h : element.hash ≠ "") :
    Text.trim element.content.toList ≠ [] ∧
      element.hash = contentHash (CodeElement.normalSource element.content) := by
  rw [CodeElement.hash] at h ⊢
  split at h
  · simp at h
  · rename_i hblank
    exact ⟨by simpa using hblank, if_neg hblank⟩

/-- What is no directory or file, and is compared by a hash, comes from an element with source text
of this hash. -/
theorem exists_element_of_comparableHash? (hnode : snapshot.forest.node? id = some node)
    (hkind : node.kind.isContainer = false)
    (hhash : snapshot.forest.comparableHash? id = some hash) :
    ∃ e ∈ snapshot.elements, e.kind.ShownAs node.kind ∧ node.name = e.name ∧
      Text.trim e.content.toList ≠ [] ∧ contentHash (CodeElement.normalSource e.content) = hash := by
  obtain ⟨rfl, hne⟩ := (comparableHash?_of_element hnode hkind).1 hhash
  obtain ⟨e, he, hkindOf, hname, hsame⟩ :=
    ((filled_forest snapshot).node id node hnode).exists_element hkind
  rw [hsame] at hne ⊢
  obtain ⟨hsource, heq⟩ := hash_eq_of_ne_empty hne
  exact ⟨e, he, hkindOf, hname, hsource, heq.symm⟩

end CodeOutline.Snapshot
