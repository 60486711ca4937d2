import CodeOutline.Digest
import CodeOutline.Keyed
import CodeOutline.Node

/-!
# Forests

A forest is an arena of nodes. A node gets the number of its slot when it is added, and keeps it. At
first it hangs in the air; it becomes part of the structure when it is attached below another node
or made a root. Both are refused when they would give a node a second parent, but a root may be
attached later and stays a root, and then it is visited twice.

A careless sequence of attachments can close a ring. The functions that follow the links therefore
carry a bound on their steps, which no forest without a ring reaches.

## Main definitions

* `Forest.push`, `Forest.attach`, `Forest.addRoot`: how a forest grows
* `Forest.preorder`: the nodes below the roots, each before its children
* `Forest.ancestors`: the nodes above a node, innermost first
* `Forest.containerPath`: the names of directories and files on the way to a node
* `Forest.comparableHash?`: what the diff compares of a node
-/

namespace CodeOutline

/-- The number of a node in its forest. -/
abbrev NodeId := Nat

/-- A node and its links. -/
structure Slot where
  node : Node
  parent : Option NodeId
  children : List NodeId
deriving DecidableEq, Repr

/-- Nodes with their links, and the roots among them in order. -/
structure Forest where
  slots : Array Slot
  roots : List NodeId
deriving DecidableEq, Repr

namespace Forest

/-- The forest without nodes. -/
def empty : Forest := ⟨#[], []⟩

/-- The number of nodes. It is also the number the next node gets. -/
def size (forest : Forest) : Nat :=
  forest.slots.size

/-! ### Looking up -/

/-- The node of a number. -/
def node? (forest : Forest) (id : NodeId) : Option Node :=
  forest.slots[id]?.map (·.node)

/-- The parent of a node. -/
def parent? (forest : Forest) (id : NodeId) : Option NodeId :=
  forest.slots[id]?.bind (·.parent)

/-- The children of a node, in the order in which they were attached. -/
def children (forest : Forest) (id : NodeId) : List NodeId :=
  (forest.slots[id]?.map (·.children)).getD []

/-! ### Growing -/

/-- Adds a node without links; its number is the size of the forest before. -/
def push (forest : Forest) (node : Node) : Forest :=
  { forest with slots := forest.slots.push ⟨node, none, []⟩ }

/-- A node may be attached below another one: both exist, they differ, and the child has no parent
yet. -/
def CanAttach (forest : Forest) (child parent : NodeId) : Prop :=
  child < forest.size ∧ parent < forest.size ∧ child ≠ parent ∧ forest.parent? child = none

instance (forest : Forest) (child parent : NodeId) : Decidable (forest.CanAttach child parent) :=
  inferInstanceAs (Decidable (_ ∧ _ ∧ _ ∧ _))

/-- Makes a node the last child of another one. A node that already has a parent keeps it. -/
def attach (forest : Forest) (child parent : NodeId) : Forest :=
  if forest.CanAttach child parent then
    { forest with
      slots := (forest.slots.modify child fun slot => { slot with parent := some parent }).modify
        parent fun slot => { slot with children := slot.children ++ [child] } }
  else forest

/-- Makes a node without a parent the last root, unless it is a root already. -/
def addRoot (forest : Forest) (id : NodeId) : Forest :=
  if id < forest.size ∧ forest.parent? id = none ∧ id ∉ forest.roots then
    { forest with roots := forest.roots ++ [id] }
  else forest

/-- Adds a node below a parent, or as a root if there is none. -/
def grow (forest : Forest) (node : Node) (parent : Option NodeId) : Forest :=
  match parent with
  | some parent => (forest.push node).attach forest.size parent
  | none => (forest.push node).addRoot forest.size

/-! ### Walking -/

/-- Visits the first pending node, then its children, then the other pending nodes. -/
def walk (forest : Forest) : (steps : Nat) → (pending : List NodeId) → List NodeId
  | 0, _ => []
  | _ + 1, [] => []
  | steps + 1, id :: pending => id :: walk forest steps (forest.children id ++ pending)

/-- The nodes below the roots, each before its children, roots and children in order. Without a ring
no node is visited more than once for each root. -/
def preorder (forest : Forest) : List NodeId :=
  forest.walk (forest.roots.length * forest.size) forest.roots

/-- The number of visits of a walk. -/
def reachableCount (forest : Forest) : Nat :=
  forest.preorder.length

/-- Follows the parents, at most so many steps. -/
def climb (forest : Forest) : (steps : Nat) → NodeId → List NodeId
  | 0, _ => []
  | steps + 1, id =>
    match forest.parent? id with
    | none => []
    | some parent => parent :: climb forest steps parent

/-- The nodes above a node, innermost first. -/
def ancestors (forest : Forest) (id : NodeId) : List NodeId :=
  forest.climb forest.size id

/-- A node has a kind. -/
def hasKind (forest : Forest) (kind : NodeKind) (id : NodeId) : Bool :=
  (forest.node? id).any (·.kind == kind)

/-- The file a node belongs to: the node itself or the nearest file above it. -/
def owningFile? (forest : Forest) (id : NodeId) : Option NodeId :=
  (id :: forest.ancestors id).find? (forest.hasKind .file)

/-- The name of a directory or file, unless it is empty. -/
def containerName? (forest : Forest) (id : NodeId) : Option String :=
  match forest.node? id with
  | some node => if node.kind.isContainer && node.name != "" then some node.name else none
  | none => none

/-- The names of the directories and files on the way to a node, the node included, with slashes
between them. -/
def containerPath (forest : Forest) (id : NodeId) : String :=
  Path.join ((id :: forest.ancestors id).reverse.filterMap forest.containerName?)

/-- The first node with a path, in the order of a walk. -/
def find? (forest : Forest) (path : String) : Option NodeId :=
  forest.preorder.find? fun id => (forest.node? id).any (·.path == path)

/-- The last node of every identity, in the order of a walk, listed in order of identities. -/
def identityIndex (forest : Forest) : List (Identity × NodeId) :=
  forest.preorder.foldl (fun index id =>
    match forest.node? id with
    | some node => Keyed.insert Identity.less node.identity id index
    | none => index) []

/-! ### What is compared -/

/-- A node as its parent's shape shows it. -/
def signature (node : Node) : String :=
  node.kind.label ++ ":" ++ node.name

/-- The shape of a node: its children by kind and name, whatever their order and letter case. -/
def shape (children : List Node) : String :=
  "|".intercalate
    ((children.map signature).mergeSort fun a b => Text.lowercase a ≤ Text.lowercase b)

/-- The hash by which two nodes are compared: the hash of the content if there is one, else that of
the shape if there are children. Other nodes can only be recognised by their identity. -/
def comparableHash? (forest : Forest) (id : NodeId) : Option String :=
  match forest.node? id with
  | none => none
  | some node =>
    if node.hash ≠ "" then some node.hash
    else
      match forest.children id with
      | [] => none
      | children => some (contentHash (shape (children.filterMap forest.node?)))

end Forest

end CodeOutline
