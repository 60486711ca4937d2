import CodeOutline.Proofs.Diff.Patch
import CodeOutline.Proofs.Forest.Walk

/-!
# Forests whose nodes come from elsewhere

A node keeps the line and the column it was read from, for whoever looks at it later. Nothing that
is built on a forest asks for them: giving the nodes other lines and columns changes no link, no
path and nothing that a difference compares. So it does not matter either whether a node gets its
new position before or after it is added.

## Main definitions

* `Repositioning`: new lines for old ones, and new columns
* `Node.reposition`, `Forest.reposition`: a node, and all nodes of a forest, in their new positions

## Main results

* `Forest.grow_reposition`: one more node
* `Forest.containerPath_reposition`: the way to a node
* `Forest.contents_reposition`: what a difference compares
-/

namespace CodeOutline

/-- Another line for every line, and another column, which may depend on the level too. -/
structure Repositioning where
  line : Nat → Nat
  column : (level column : Nat) → Nat

variable {change : Repositioning}

/-- A node in its new position. -/
def Node.reposition (change : Repositioning) (node : Node) : Node :=
  { node with line := change.line node.line, column := change.column node.level node.column }

namespace Forest

variable {forest : Forest}

/-- A forest with all nodes in their new positions. -/
def reposition (change : Repositioning) (forest : Forest) : Forest :=
  { forest with
    slots := forest.slots.map fun slot => { slot with node := slot.node.reposition change } }

/-! ### Nodes and links -/

@[simp] theorem reposition_empty : empty.reposition change = empty := by
  simp [reposition, empty]

@[simp] theorem size_reposition : (forest.reposition change).size = forest.size := by
  simp [reposition, size]

@[simp] theorem node?_reposition (id : NodeId) :
    (forest.reposition change).node? id = (forest.node? id).map (Node.reposition change) := by
  simp [reposition, node?, Function.comp_def]

@[simp] theorem parent?_reposition (id : NodeId) :
    (forest.reposition change).parent? id = forest.parent? id := by
  simp only [reposition, parent?, Array.getElem?_map, Option.bind_map]
  rfl

@[simp] theorem children_reposition (id : NodeId) :
    (forest.reposition change).children id = forest.children id := by
  simp [reposition, children, Function.comp_def]

@[simp] theorem roots_reposition : (forest.reposition change).roots = forest.roots := rfl

/-! ### One more node -/

theorem push_reposition (node : Node) :
    (forest.reposition change).push (node.reposition change) =
      (forest.push node).reposition change := by
  simp [push, reposition]

theorem canAttach_reposition (child parent : NodeId) :
    (forest.reposition change).CanAttach child parent ↔ forest.CanAttach child parent := by
  simp [CanAttach]

theorem attach_reposition (child parent : NodeId) :
    (forest.reposition change).attach child parent =
      (forest.attach child parent).reposition change := by
  simp only [attach, canAttach_reposition]
  split
  · simp only [reposition]
    congr 1
    ext1
    · simp
    · simp only [Array.getElem_modify, Array.getElem_map]
      split <;> split <;> rfl
  · rfl

theorem addRoot_reposition (id : NodeId) :
    (forest.reposition change).addRoot id = (forest.addRoot id).reposition change := by
  simp only [addRoot, size_reposition, parent?_reposition, roots_reposition]
  split <;> rfl

/-- A node may get its position before or after it is added. -/
theorem grow_reposition (node : Node) (parent : Option NodeId) :
    (forest.reposition change).grow (node.reposition change) parent =
      (forest.grow node parent).reposition change := by
  cases parent with
  | none => rw [grow, grow, push_reposition, addRoot_reposition, size_reposition]
  | some parent => rw [grow, grow, push_reposition, attach_reposition, size_reposition]

/-! ### Ways through the forest -/

theorem climb_reposition (steps : Nat) (id : NodeId) :
    (forest.reposition change).climb steps id = forest.climb steps id := by
  induction steps generalizing id with
  | zero => rfl
  | succ steps ih => simp only [climb, parent?_reposition, ih]

@[simp] theorem ancestors_reposition (id : NodeId) :
    (forest.reposition change).ancestors id = forest.ancestors id := by
  rw [ancestors, size_reposition, climb_reposition, ancestors]

theorem walk_reposition (steps : Nat) (pending : List NodeId) :
    (forest.reposition change).walk steps pending = forest.walk steps pending := by
  induction steps generalizing pending with
  | zero => rfl
  | succ steps ih =>
    cases pending with
    | nil => rfl
    | cons id pending => simp only [walk, children_reposition, ih]

@[simp] theorem preorder_reposition : (forest.reposition change).preorder = forest.preorder := by
  rw [preorder, walk_reposition, roots_reposition, size_reposition, preorder]

theorem containerName?_reposition :
    (forest.reposition change).containerName? = forest.containerName? := by
  funext id
  rw [containerName?, node?_reposition, containerName?]
  cases forest.node? id <;> rfl

@[simp] theorem containerPath_reposition (id : NodeId) :
    (forest.reposition change).containerPath id = forest.containerPath id := by
  rw [containerPath, ancestors_reposition, containerName?_reposition, containerPath]

/-! ### What is compared -/

theorem shape_reposition (change : Repositioning) (nodes : List Node) :
    shape (nodes.map (Node.reposition change)) = shape nodes := by
  rw [shape, List.map_map]
  rfl

@[simp] theorem comparableHash?_reposition (id : NodeId) :
    (forest.reposition change).comparableHash? id = forest.comparableHash? id := by
  have hnodes (ids : List NodeId) : shape (ids.filterMap (forest.reposition change).node?) =
      shape (ids.filterMap forest.node?) := by
    rw [← shape_reposition change (ids.filterMap forest.node?), List.map_filterMap]
    simp only [node?_reposition]
  simp only [comparableHash?, hnodes, children_reposition]
  rw [node?_reposition]
  cases forest.node? id <;> rfl

/-- A difference compares nothing that a position changes. -/
@[simp] theorem contents_reposition : (forest.reposition change).contents = forest.contents := by
  rw [contents, contents, entries, entries, List.map_filterMap, List.map_filterMap,
    preorder_reposition]
  congr 1
  funext id
  rw [node?_reposition, comparableHash?_reposition]
  cases forest.node? id <;> rfl

end Forest

end CodeOutline
