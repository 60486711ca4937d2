import CodeOutline.Proofs.Outline.Relocations

/-!
# Moves and parents

A relocation is a move if the container of the node is another one now. Told by the owner, the
container is read off the path, and the path of whatever has a parent leads back to it: what stands
before the last slash of a directory or file, and before the first `#` of anything else, is the path
of the parent. A directory or file without a parent shows an empty path there, which no node has. So
a move is a change of the parent.

Whatever else stands on its own has its name for a path, and so its name shows a container where
there is none. Relocations that start or end there are moves or renamings by what the name happens
to show: a function without a parent is moved when it is spelled with other letters.

## Main definitions

* `Forest.parentPath?`: the path of the parent of a node
* `Forest.shownContainer`: what the path of a node shows in front of its name
* `Forest.ShowsParent`: the path of a node tells whether it has a parent, and which one
* `Outline.FollowsParents`: how a relocation is classified by the parents of its two nodes

## Main results

* `WellPlaced.container_eq`: the container of a node is the path of its parent, if it has one
* `Outline.relocated_followsParents`: all relocations are classified by the parents
* `Outline.moved_without_parents`: a move between two places without a parent
-/

namespace CodeOutline

open Diff

namespace Forest

/-- The path of the parent of a node, if it has one. -/
def parentPath? (forest : Forest) (id : NodeId) : Option String :=
  (forest.parent? id).bind fun p => (forest.node? p).map (·.path)

/-- What the path of a node shows in front of its name: the path of the parent, and where there is
none, nothing of a directory or file, and of anything else its own name up to the first `#`. -/
def shownContainer (forest : Forest) (id : NodeId) (node : Node) : String :=
  (forest.parentPath? id).getD
    (if node.kind.isContainer then "" else Path.owningFile node.name)

/-- The path of a directory or file tells whether it has a parent. That of anything else does not, so
it has to have one. -/
def ShowsParent (forest : Forest) (id : NodeId) (node : Node) : Prop :=
  node.kind.isContainer = true ∨ (forest.parent? id).isSome = true

end Forest

namespace Outline

variable {forest forest' : Forest} {id id' p : Nat} {node a b : Node}

/-! ### Containers -/

theorem parentPath?_of_root (hparent : forest.parent? id = none) : forest.parentPath? id = none := by
  rw [Forest.parentPath?, hparent, Option.bind_none]

theorem parentPath?_of_parent {above : Node} (hparent : forest.parent? id = some p)
    (habove : forest.node? p = some above) : forest.parentPath? id = some above.path := by
  rw [Forest.parentPath?, hparent, Option.bind_some, habove, Option.map_some]

namespace WellPlaced

/-- The container of a node, told by the owner, is the path of its parent, if it has one. -/
theorem container_eq (h : WellPlaced forest) (hnode : forest.node? id = some node) :
    node.container .owningFile = forest.shownContainer id node := by
  cases hkind : node.kind.isContainer with
  | true =>
    have hslash := (h.names id node hnode).slash_notMem hkind
    rw [Node.container, if_pos hkind, Forest.shownContainer, if_pos hkind]
    cases hparent : forest.parent? id with
    | none =>
      rw [parentPath?_of_root hparent, h.path_eq_name hnode hparent]
      exact Path.directory_of_notMem hslash
    | some p =>
      obtain ⟨above, habove, -, hpath⟩ := h.exists_directory_path hnode hkind hparent
      rw [parentPath?_of_parent hparent habove, hpath]
      exact Path.directory_append above.path hslash
  | false =>
    rw [Node.container, if_neg (by simp [hkind]), Forest.shownContainer, if_neg (by simp [hkind])]
    cases hparent : forest.parent? id with
    | none =>
      rw [parentPath?_of_root hparent, h.path_eq_name hnode hparent]
      rfl
    | some p =>
      obtain ⟨file, hfile, hkindFile, hpath⟩ := h.exists_file hnode hkind hparent
      rw [parentPath?_of_parent hparent hfile, hpath]
      exact h.owningFile_append hfile hkindFile node.name

/-- A parent is a directory or file, and has a path. -/
theorem ne_empty_of_parentPath? (h : WellPlaced forest) (hnode : forest.node? id = some node)
    {path : String} (hpath : forest.parentPath? id = some path) : path ≠ "" := by
  obtain ⟨p, hparent, hmap⟩ := Option.bind_eq_some_iff.1 hpath
  obtain ⟨above, habove, rfl⟩ := Option.map_eq_some_iff.1 hmap
  obtain ⟨found, hfound, hhold⟩ := accepts_iff.1 (h.accepted id node hnode p hparent)
  obtain rfl : found = above := Option.some.inj (hfound.symm.trans habove)
  have hcontainer : found.kind.isContainer = true := NodeKind.isContainer_of_mayHold hhold
  rw [← h.containerPath_eq habove hcontainer]
  exact h.containerPath_ne_empty habove hcontainer

/-- Where paths show parents, the container tells the parent. -/
theorem parentPath?_eq (h : WellPlaced forest) (hnode : forest.node? id = some node)
    (hshows : forest.ShowsParent id node) :
    forest.parentPath? id =
      if forest.shownContainer id node = "" then none else some (forest.shownContainer id node) := by
  cases hpath : forest.parentPath? id with
  | some path =>
    have hne := h.ne_empty_of_parentPath? hnode hpath
    rw [Forest.shownContainer, hpath, Option.getD_some, if_neg hne]
  | none =>
    -- what has no parent path has no parent, so it is a directory or file
    have hkind : node.kind.isContainer = true := by
      refine hshows.resolve_right fun hparent => ?_
      obtain ⟨p, hparent⟩ := Option.isSome_iff_exists.1 hparent
      obtain ⟨above, habove, -⟩ := accepts_iff.1 (h.accepted id node hnode p hparent)
      rw [parentPath?_of_parent hparent habove] at hpath
      simp at hpath
    rw [Forest.shownContainer, hpath, Option.getD_none, if_pos hkind, if_pos rfl]

end WellPlaced

/-- Where paths show parents, two containers are the same if and only if the parents are. -/
theorem shownContainer_eq_iff (h : WellPlaced forest) (h' : WellPlaced forest')
    (ha : forest.node? id = some a) (hb : forest'.node? id' = some b)
    (hshows : forest.ShowsParent id a) (hshows' : forest'.ShowsParent id' b) :
    forest.shownContainer id a = forest'.shownContainer id' b ↔
      forest.parentPath? id = forest'.parentPath? id' := by
  constructor
  · intro heq
    rw [h.parentPath?_eq ha hshows, h'.parentPath?_eq hb hshows', heq]
  · intro heq
    rw [h.parentPath?_eq ha hshows, h'.parentPath?_eq hb hshows'] at heq
    split at heq <;> split at heq
    · rename_i hempty hempty'
      rw [hempty, hempty']
    · simp at heq
    · simp at heq
    · exact Option.some.inj heq

/-! ### Relocations -/

/-- A relocation leads from a node of an old forest to one of a new forest. It is a move if the paths
show different containers; and if both paths show parents, it is a move if the parents do not have
the same path, and are not both missing. -/
structure FollowsParents (old new : Forest) (r : Relocation) (id id' : NodeId) : Prop where
  old_node : old.node? id = some r.old
  new_node : new.node? id' = some r.new
  move_iff_shown : r.kind = .move ↔
    old.shownContainer id r.old ≠ new.shownContainer id' r.new
  move_iff_parent : old.ShowsParent id r.old → new.ShowsParent id' r.new →
    (r.kind = .move ↔ old.parentPath? id ≠ new.parentPath? id')

theorem classify_eq_move_iff {detection : MoveDetection} :
    RelocationKind.classify detection a b = .move ↔
      a.container detection ≠ b.container detection := by
  rw [RelocationKind.classify]
  split <;> simp [*]

/-- **A relocation between two places that show their parents is a move if and only if the parent has
changed**, where a renaming is told from a move by the owner. In every other case the names decide. -/
theorem relocated_followsParents (detectRefactorings : Bool) (width width' : Nat)
    (text text' : String) :
    let old := (ofText width text).forest
    let new := (ofText width' text').forest
    ∀ r ∈ (between ⟨.owningFile, detectRefactorings⟩ old new).relocated,
      ∃ id id', FollowsParents old new r id id' := by
  intro old new r hr
  obtain ⟨id, id', hold, hnew, -, -, hclass⟩ := exists_of_mem_relocated hr
  have hplaced := wellPlaced_ofText width text
  have hplaced' := wellPlaced_ofText width' text'
  have hmove : r.kind = .move ↔ old.shownContainer id r.old ≠ new.shownContainer id' r.new := by
    rw [hclass, classify_eq_move_iff, hplaced.container_eq hold, hplaced'.container_eq hnew]
  refine ⟨id, id', hold, hnew, hmove, fun hshows hshows' => ?_⟩
  rw [hmove, ne_eq, shownContainer_eq_iff hplaced hplaced' hold hnew hshows hshows']

/-- A function goes from one file to another. -/
theorem relocated_followsParents_between_files :
    (between .standard (ofText 2 "a.ts\n  $foo()\nb.ts\n").forest
        (ofText 2 "a.ts\nb.ts\n  $foo()\n").forest).relocated.length = 1 ∧
      ∀ r ∈ (between .standard (ofText 2 "a.ts\n  $foo()\nb.ts\n").forest
          (ofText 2 "a.ts\nb.ts\n  $foo()\n").forest).relocated,
        ∃ id id', FollowsParents (ofText 2 "a.ts\n  $foo()\nb.ts\n").forest
          (ofText 2 "a.ts\nb.ts\n  $foo()\n").forest r id id' :=
  ⟨by decide +kernel, relocated_followsParents true 2 2 _ _⟩

/-- A function that stands on its own is moved when it is spelled with capital letters. -/
theorem moved_without_parents :
    let old := (ofText 2 "$foo()\n").forest
    let new := (ofText 2 "$FOO()\n").forest
    ∃ r ∈ (between .standard old new).relocated, ∃ id id', old.node? id = some r.old ∧
      new.node? id' = some r.new ∧ r.kind = .move ∧ old.parent? id = none ∧
        new.parent? id' = none := by
  intro old new
  have hmoved : ∃ r ∈ (between .standard old new).relocated, old.node? 0 = some r.old ∧
      new.node? 0 = some r.new ∧ r.kind = .move := by
    decide +kernel
  obtain ⟨r, hr, hold, hnew, hmove⟩ := hmoved
  exact ⟨r, hr, 0, 0, hold, hnew, hmove, by decide +kernel, by decide +kernel⟩

end Outline

end CodeOutline
