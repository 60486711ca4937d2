import CodeOutline.Forest

/-!
# Drawing a forest

A forest is shown as text, one line a node, children indented below their parents.

## Main definitions

* `Forest.rows`: the nodes with their depth, in the order of a walk
* `Forest.draw`: the drawing
-/

namespace CodeOutline

/-- The sign of a kind in a drawing. -/
def NodeKind.sign : NodeKind → String
  | .directory => "▸"
  | .file => "≡"
  | .function => "ƒ"
  | .component => "◇"
  | .reference => "@"
  | .note => "#"

namespace Forest

/-- A node and the nodes below it, each with its depth. -/
def rowsBelow (forest : Forest) : (steps : Nat) → (depth : Nat) → NodeId → List (Nat × NodeId)
  | 0, _, _ => []
  | steps + 1, depth, id =>
    (depth, id) :: (forest.children id).flatMap (rowsBelow forest steps (depth + 1))

/-- The nodes below the roots with their depth, each before its children. -/
def rows (forest : Forest) : List (Nat × NodeId) :=
  forest.roots.flatMap (forest.rowsBelow forest.size 0)

/-- A number in a column of four places. -/
def lineNumberColumn (n : Nat) : String :=
  let digits := toString n
  String.ofList (List.replicate (4 - digits.length) ' ') ++ digits ++ " │ "

/-- The line of a node in a drawing. -/
def drawRow (lineNumbers : Bool) (depth : Nat) (node : Node) : String :=
  (if lineNumbers then lineNumberColumn node.line else "")
    ++ String.ofList (List.replicate (2 * depth) ' ')
    ++ node.kind.sign ++ " " ++ node.name ++ "\n"

/-- The drawing of a forest, with or without the lines the nodes were read from. -/
def draw (forest : Forest) (lineNumbers : Bool) : String :=
  String.join (forest.rows.map fun (depth, id) =>
    match forest.node? id with
    | some node => drawRow lineNumbers depth node
    | none => "")

end Forest

end CodeOutline
