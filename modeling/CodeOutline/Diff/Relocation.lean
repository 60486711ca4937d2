import CodeOutline.Diff

/-!
# Renaming or moving

A relocated node was moved if its container is another one now, and renamed otherwise. What counts
as the container can be chosen: the owner of the node, or simply the path up to its last slash. By
the second rule a function that goes from one file to another of the same directory is only renamed.

## Main definitions

* `Node.container`: the path of the container of a node
* `RelocationKind.classify`: renaming or move
-/

namespace CodeOutline

/-- The path of the container of a node. -/
def Node.container (detection : MoveDetection) (node : Node) : String :=
  match detection with
  | .owningFile =>
    if node.kind.isContainer then Path.directory node.path else Path.owningFile node.path
  | .pathPrefix => Path.directory node.path

/-- A relocation is a move if the container changed. -/
def RelocationKind.classify (detection : MoveDetection) (old new : Node) : RelocationKind :=
  if old.container detection = new.container detection then .rename else .move

end CodeOutline
