import CodeOutline.Proofs.Forest.Growth
import CodeOutline.Proofs.Path

/-!
# The way to a node

In a forest where every parent was there before its child, the names on the way to a node are those
on the way to its parent and perhaps its own. Nodes that are added later do not change them.

## Main definitions

* `Forest.LeadsTo`: the names on the way from a root down to a node
* `Forest.containerNames`: the names that make up the container path of a node

## Main results

* `Forest.LeadsTo.unique`: one way leads to a node
* `Forest.containerNames_of_parent?`, `Forest.containerNames_of_root`: the names on the way, from
  the parent of a node
* `Forest.ParentsFirst.leadsTo_containerNames`: where directories and files stand below such, the
  names in their paths are those on the way
* `Forest.ParentsFirst.owningFile?_eq`: the file in which something stands
* `Forest.Extends.leadsTo_iff`, `Forest.Extends.containerPath_eq`: the ways of a forest are those of
  every later one
-/

namespace CodeOutline.Forest

variable {forest later : Forest} {node : Node} {names names' : List String} {id p : Nat}

/-! ### From a root down -/

/-- The names from a root down to a node. -/
inductive LeadsTo (forest : Forest) : List String → NodeId → Prop
  | root {id : NodeId} {node : Node} (hnode : forest.node? id = some node)
      (hparent : forest.parent? id = none) : LeadsTo forest [node.name] id
  | child {names : List String} {id p : NodeId} {node : Node} (hway : LeadsTo forest names p)
      (hnode : forest.node? id = some node) (hparent : forest.parent? id = some p) :
      LeadsTo forest (names ++ [node.name]) id

namespace LeadsTo

theorem ne_nil (h : forest.LeadsTo names id) : names ≠ [] := by
  cases h <;> simp

theorem lt_size (h : forest.LeadsTo names id) : id < forest.size := by
  cases h with
  | root hnode => exact lt_size_of_node? hnode
  | child _ hnode => exact lt_size_of_node? hnode

/-- Only one way leads to a node. -/
theorem unique (h : forest.LeadsTo names id) (h' : forest.LeadsTo names' id) : names = names' := by
  induction h generalizing names' with
  | root hnode hparent =>
    cases h' with
    | root hnode' =>
      rw [hnode, Option.some.injEq] at hnode'
      rw [hnode']
    | child _ _ hparent' => simp [hparent] at hparent'
  | child _ hnode hparent ih =>
    cases h' with
    | root _ hparent' => simp [hparent] at hparent'
    | child hway' hnode' hparent' =>
      rw [hnode, Option.some.injEq] at hnode'
      rw [hparent, Option.some.injEq] at hparent'
      rw [ih (hparent' ▸ hway'), hnode']

/-- On the way to a node stand the node and those above it. -/
theorem length_eq (h : forest.LeadsTo names id) (hfirst : forest.ParentsFirst) :
    names.length = (forest.ancestors id).length + 1 := by
  induction h with
  | root _ hparent => rw [ancestors_of_root hparent, List.length_singleton, List.length_nil]
  | child _ _ hparent ih => simp [hfirst.ancestors_of_parent? hparent, ih]

/-- Names and parents tell the way. -/
theorem congr (h : forest.LeadsTo names id)
    (hname : ∀ id, (later.node? id).map (·.name) = (forest.node? id).map (·.name))
    (hparent : ∀ id, later.parent? id = forest.parent? id) : later.LeadsTo names id := by
  have hsame : ∀ (id : Nat) node, forest.node? id = some node →
      ∃ other, later.node? id = some other ∧ other.name = node.name := fun id node hnode => by
    rw [← Option.map_eq_some_iff, hname id, hnode, Option.map_some]
  induction h with
  | @root id node hnode htop =>
    obtain ⟨other, hother, heq⟩ := hsame id node hnode
    exact heq ▸ .root hother ((hparent id).trans htop)
  | @child names id p node _ hnode habove ih =>
    obtain ⟨other, hother, heq⟩ := hsame id node hnode
    exact heq ▸ .child ih hother ((hparent id).trans habove)

end LeadsTo

/-! ### Directories and files on the way -/

/-- The names of the directories and files on the way to a node, the node included. -/
def containerNames (forest : Forest) (id : NodeId) : List String :=
  (id :: forest.ancestors id).reverse.filterMap forest.containerName?

theorem containerPath_eq_join (forest : Forest) (id : NodeId) :
    forest.containerPath id = Path.join (forest.containerNames id) :=
  rfl

theorem containerName?_of_node? (hnode : forest.node? id = some node)
    (hkind : node.kind.isContainer = true) (hname : node.name ≠ "") :
    forest.containerName? id = some node.name := by
  simp [containerName?, hnode, hkind, hname]

theorem ParentsFirst.containerNames_of_parent? (h : forest.ParentsFirst)
    (hparent : forest.parent? id = some p) :
    forest.containerNames id = forest.containerNames p ++ (forest.containerName? id).toList := by
  rw [containerNames, h.ancestors_of_parent? hparent, List.reverse_cons, List.filterMap_append,
    ← containerNames]
  cases hname : forest.containerName? id <;> simp [hname]

theorem containerNames_of_root (hparent : forest.parent? id = none) :
    forest.containerNames id = (forest.containerName? id).toList := by
  rw [containerNames, ancestors_of_root hparent]
  cases hname : forest.containerName? id <;> simp [hname]

/-- The way to a directory or file ends in its own name. -/
theorem ParentsFirst.containerNames_of_node? (h : forest.ParentsFirst)
    (hnode : forest.node? id = some node) (hkind : node.kind.isContainer = true)
    (hname : node.name ≠ "") :
    forest.containerNames id =
      ((forest.parent? id).map forest.containerNames).getD [] ++ [node.name] := by
  have hown := containerName?_of_node? hnode hkind hname
  cases hparent : forest.parent? id with
  | none => simp [containerNames_of_root hparent, hown]
  | some p => simp [h.containerNames_of_parent? hparent, hown]

theorem ParentsFirst.containerPath_ne_empty (h : forest.ParentsFirst)
    (hnode : forest.node? id = some node) (hkind : node.kind.isContainer = true)
    (hname : node.name ≠ "") : forest.containerPath id ≠ "" := by
  rw [containerPath_eq_join, h.containerNames_of_node? hnode hkind hname]
  exact Path.join_append_singleton_ne_empty _ hname

/-- Where directories and files stand below such, the names in their paths are those on the way from
the root. -/
theorem ParentsFirst.leadsTo_containerNames (h : forest.ParentsFirst)
    (hname : ∀ (id : Nat) node, forest.node? id = some node → node.kind.isContainer = true →
      node.name ≠ "")
    (habove : ∀ (id p : Nat) node, forest.node? id = some node → node.kind.isContainer = true →
      forest.parent? id = some p →
      ∃ above, forest.node? p = some above ∧ above.kind.isContainer = true) :
    ∀ (id : Nat) node, forest.node? id = some node → node.kind.isContainer = true →
      forest.LeadsTo (forest.containerNames id) id := by
  intro id
  -- the way to a node is the way to its parent, which has a smaller number, and one more name
  induction id using Nat.strong_induction_on with
  | _ id ih =>
    intro node hnode hkind
    rw [h.containerNames_of_node? hnode hkind (hname id node hnode hkind)]
    cases hparent : forest.parent? id with
    | none => exact .root hnode hparent
    | some p =>
      obtain ⟨above, hp, hcontainer⟩ := habove id p node hnode hkind hparent
      exact .child (ih p (h id p hparent) above hp hcontainer) hnode hparent

/-- The file in which something stands is the first one on the way up. -/
theorem ParentsFirst.owningFile?_eq {file : Node} (h : forest.ParentsFirst)
    (hnode : forest.node? id = some node) (hkind : node.kind.isContainer = false)
    (hparent : forest.parent? id = some p) (hfile : forest.node? p = some file)
    (hkindFile : file.kind = .file) : forest.owningFile? id = some p := by
  have hself : forest.hasKind .file id = false := by
    have hne : node.kind ≠ .file := fun heq => by simp [heq, NodeKind.isContainer] at hkind
    simp [hasKind, hnode, hne]
  have hparentKind : forest.hasKind .file p = true := by
    simp [hasKind, hfile, hkindFile]
  rw [owningFile?, h.ancestors_of_parent? hparent]
  simp [hself, hparentKind]

/-! ### Later forests -/

namespace Extends

variable (hext : forest.Extends later)
include hext

/-- The way to a node is there when the node is. -/
theorem leadsTo_iff (h : forest.ParentsFirst) (hid : id < forest.size) :
    later.LeadsTo names id ↔ forest.LeadsTo names id := by
  constructor
  · intro hway
    induction hway with
    | @root id node hnode hparent =>
      rw [hext.node?_eq id hid] at hnode
      rw [hext.parent?_eq id hid] at hparent
      exact .root hnode hparent
    | @child names id p node _ hnode hparent ih =>
      rw [hext.node?_eq id hid] at hnode
      rw [hext.parent?_eq id hid] at hparent
      exact .child (ih (Nat.lt_trans (h id p hparent) hid)) hnode hparent
  · intro hway
    induction hway with
    | @root id node hnode hparent =>
      exact .root (hext.node?_of_node? hnode) ((hext.parent?_eq id hid).trans hparent)
    | @child names id p node hway hnode hparent ih =>
      exact .child (ih hway.lt_size) (hext.node?_of_node? hnode)
        ((hext.parent?_eq id hid).trans hparent)

theorem containerName?_eq (hid : id < forest.size) :
    later.containerName? id = forest.containerName? id := by
  rw [containerName?, hext.node?_eq id hid, containerName?]

/-- The names on the way to a node are all there when the node is. -/
theorem containerNames_eq (h : forest.ParentsFirst) (hlater : later.ParentsFirst) :
    ∀ id < forest.size, later.containerNames id = forest.containerNames id := by
  intro id
  -- the way to a node is the way to its parent, which has a smaller number, and one more name
  induction id using Nat.strong_induction_on with
  | _ id ih =>
    intro hid
    have hsame := hext.parent?_eq id hid
    cases hparent : forest.parent? id with
    | none =>
      rw [containerNames_of_root (hsame.trans hparent), containerNames_of_root hparent,
        hext.containerName?_eq hid]
    | some p =>
      have hp := h id p hparent
      rw [hlater.containerNames_of_parent? (hsame.trans hparent),
        h.containerNames_of_parent? hparent, ih p hp (Nat.lt_trans hp hid),
        hext.containerName?_eq hid]

theorem containerPath_eq (h : forest.ParentsFirst) (hlater : later.ParentsFirst)
    (hid : id < forest.size) : later.containerPath id = forest.containerPath id := by
  rw [containerPath_eq_join, hext.containerNames_eq h hlater id hid, containerPath_eq_join]

end Extends

end CodeOutline.Forest
