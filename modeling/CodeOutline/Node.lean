import CodeOutline.Kind
import CodeOutline.Path

/-!
# Nodes

A node carries what an outline line, or an entry of a snapshot, says about one thing. How nodes
hang together is not theirs to know: the forest keeps that (`CodeOutline.Forest`).

## Main definitions

* `Node`: the facts about one thing
* `Identity`: kind and path, by which the nodes of two forests are recognised as the same
-/

namespace CodeOutline

/-- Kind and path of a node. A note and a function of one file may share a path, so the kind is part
of it. -/
structure Identity where
  kind : NodeKind
  path : String
deriving DecidableEq, Repr

/-- The order of identities: by kind, then by path. -/
def Identity.less (a b : Identity) : Bool :=
  a.kind.rank < b.kind.rank || (a.kind == b.kind && a.path < b.path)

/-- The facts about one thing. -/
structure Node where
  kind : NodeKind
  /-- the bare name; for a reference its dotted target, for a note its text -/
  name : String
  path : String
  /-- of a file -/
  extension : Option String
  /-- of a note -/
  content : Option String
  /-- the line the node was read from, counted from one -/
  line : Nat
  column : Nat
  level : Nat
  /-- the names the node refers to -/
  dependencies : List String
  /-- the paths of the nodes that refer to this one -/
  dependents : List String
  /-- digest of the node's content, empty when it has none -/
  hash : String
deriving DecidableEq, Repr

namespace Node

/-- A node about which nothing but its kind and name is known. Its path is its name. -/
def named (kind : NodeKind) (name : String) : Node where
  kind := kind
  name := name
  path := name
  extension := none
  content := none
  line := 0
  column := 0
  level := 0
  dependencies := []
  dependents := []
  hash := ""

/-- Kind and path of a node. -/
def identity (node : Node) : Identity :=
  ⟨node.kind, node.path⟩

/-- The path of the file the node belongs to. -/
def owningFilePath (node : Node) : String :=
  Path.owningFile node.path

/-- The node by kind and name. -/
def title (node : Node) : String :=
  node.kind.title ++ " " ++ node.name

end Node

end CodeOutline
