import CodeOutline.Diff
import CodeOutline.Text.Quoted

/-!
# Expectations

What someone who tests an outline or a difference expects of it, and the first complaint if it is
not so. An expectation about a node says where the node stands, so that the complaint can name the
place.

## Main definitions

* `NodeExpectation`, `ForestExpectation`, `DiffExpectation`: single expectations
* `ForestExpectation.firstComplaint?`, `DiffExpectation.firstComplaint?`: the first of several
  expectations that is not met
-/

namespace CodeOutline

/-- What is expected of a node. -/
inductive NodeExpectation where
  | kind (kind : NodeKind)
  | name (name : String)
  | path (path : String)
  | line (line : Nat)
  | column (column : Nat)
  | extension (extension : String)
  | dependencies (names : List String)
  | isRoot
  | childCount (count : Nat)
  /-- of the child with an index -/
  | child (index : Nat) (expectations : List NodeExpectation)

/-- What is expected of a forest. -/
inductive ForestExpectation where
  | rootCount (count : Nat)
  | nodeCount (count : Nat)
  | hasPath (path : String)
  /-- of the root with an index -/
  | root (index : Nat) (expectations : List NodeExpectation)
  /-- of the first node with a path -/
  | nodeAt (path : String) (expectations : List NodeExpectation)

/-- What is expected of a difference. -/
inductive DiffExpectation where
  | isEmpty
  | added (paths : List String)
  | removed (paths : List String)
  | modified (paths : List String)
  | relocated (rows : List (String × String × RelocationKind))
  | refactoringCount (count : Nat)
  | hasRefactoring (kind : RefactoringKind) (subject : String) (related : List String)

namespace Forest

/-- The node of a number that the forest knows. -/
def nodeOr (forest : Forest) (id : NodeId) : Node :=
  (forest.node? id).getD (.named .note "")

/-- Nodes by kind and name, in brackets. -/
def summary (forest : Forest) (ids : List NodeId) : String :=
  "[" ++ ", ".intercalate (ids.map fun id => (forest.nodeOr id).title) ++ "]"

end Forest

/-- The complaint unless something is so. -/
def complainUnless (met : Bool) (complaint : String) : Option String :=
  if met then none else some complaint

namespace NodeExpectation

/-- An extension that may be absent. -/
def showExtension : Option String → String
  | none => "None"
  | some word => "Some(" ++ Text.quoted word ++ ")"

mutual

/-- The complaint about a node that stands at a place, if an expectation is not met. -/
def complaint? (forest : Forest) (place : String) (id : NodeId) : NodeExpectation → Option String
  | .kind expected =>
    let actual := (forest.nodeOr id).kind
    complainUnless (actual == expected)
      (place ++ ": Expected " ++ expected.title ++ ", found " ++ actual.title)
  | .name expected =>
    let actual := (forest.nodeOr id).name
    complainUnless (actual == expected)
      (place ++ ": Expected name '" ++ expected ++ "', but got '" ++ actual ++ "'")
  | .path expected =>
    let actual := (forest.nodeOr id).path
    complainUnless (actual == expected)
      (place ++ ": Expected path '" ++ expected ++ "', but got '" ++ actual ++ "'")
  | .line expected =>
    let actual := (forest.nodeOr id).line
    complainUnless (actual == expected)
      (place ++ ": Expected line " ++ toString expected ++ ", but got " ++ toString actual)
  | .column expected =>
    let actual := (forest.nodeOr id).column
    complainUnless (actual == expected)
      (place ++ ": Expected column " ++ toString expected ++ ", but got " ++ toString actual)
  | .extension expected =>
    let actual := (forest.nodeOr id).extension
    complainUnless (actual == some expected)
      (place ++ ": Expected extension '" ++ expected ++ "', but got " ++ showExtension actual)
  | .dependencies expected =>
    let actual := (forest.nodeOr id).dependencies
    complainUnless (actual == expected)
      (place ++ ": Expected dependencies " ++ Text.quotedList expected ++ ", but got "
        ++ Text.quotedList actual)
  | .isRoot =>
    complainUnless (forest.parent? id).isNone (place ++ ": Expected a top-level node")
  | .childCount expected =>
    let children := forest.children id
    complainUnless (children.length == expected)
      (place ++ ": Expected " ++ toString expected ++ " children, found "
        ++ toString children.length ++ " children: " ++ forest.summary children)
  | .child index expectations =>
    let children := forest.children id
    match children[index]? with
    | some id =>
      complaints? forest (place ++ ":children[" ++ toString index ++ "]") id expectations
    | none =>
      some (place ++ ": Child index " ++ toString index ++ " out of bounds (node has "
        ++ toString children.length ++ " children)")

/-- The first complaint about a node that stands at a place. -/
def complaints? (forest : Forest) (place : String) (id : NodeId) :
    List NodeExpectation → Option String
  | [] => none
  | expectation :: expectations =>
    match complaint? forest place id expectation with
    | some complaint => some complaint
    | none => complaints? forest place id expectations

end

end NodeExpectation

namespace ForestExpectation

/-- The complaint about a forest, if an expectation is not met. -/
def complaint? (forest : Forest) : ForestExpectation → Option String
  | .rootCount expected =>
    complainUnless (forest.roots.length == expected)
      ("Expected " ++ toString expected ++ " roots, found " ++ toString forest.roots.length ++ ": "
        ++ forest.summary forest.roots)
  | .nodeCount expected =>
    complainUnless (forest.size == expected)
      ("Expected " ++ toString expected ++ " nodes, found " ++ toString forest.size)
  | .hasPath path =>
    complainUnless (forest.find? path).isSome
      ("Expected a node with path '" ++ path ++ "'")
  | .root index expectations =>
    match forest.roots[index]? with
    | some id =>
      NodeExpectation.complaints? forest ("roots[" ++ toString index ++ "]") id expectations
    | none =>
      some ("Root index " ++ toString index ++ " out of bounds (forest has "
        ++ toString forest.roots.length ++ " roots)")
  | .nodeAt path expectations =>
    match forest.find? path with
    | some id => NodeExpectation.complaints? forest path id expectations
    | none => some ("No node with path '" ++ path ++ "'")

/-- The first complaint about a forest. -/
def firstComplaint? (forest : Forest) (expectations : List ForestExpectation) : Option String :=
  expectations.findSome? (complaint? forest)

end ForestExpectation

namespace DiffExpectation

/-- The end of a complaint about refactorings: whether there are any. -/
def showRefactorings (diff : Diff) : String :=
  if diff.refactorings.isEmpty then "[]" else "["

/-- A kind of refactoring in a complaint. -/
def kindTitle : RefactoringKind → String
  | .extract => "Extract"
  | .inline => "Inline"
  | .split => "Split"

/-- A refactoring is of a kind, about a subject, and relates certain functions. -/
def isRefactoring (kind : RefactoringKind) (subject : String) (related : List String)
    (refactoring : Refactoring) : Bool :=
  refactoring.kind == kind && refactoring.subject.name == subject && refactoring.related == related

/-- The complaint about a difference, if an expectation is not met. -/
def complaint? (diff : Diff) : DiffExpectation → Option String
  | .isEmpty => complainUnless diff.isEmpty "Expected no changes, got StructuralDiff \x7b"
  | .added paths => complainUnless (diff.added.map (·.path) == paths) "Unexpected additions"
  | .removed paths =>
    complainUnless (diff.removed.map (·.path) == paths) "Unexpected removals"
  | .modified paths =>
    complainUnless (diff.modified.map (·.after.path) == paths) "Unexpected modifications"
  | .relocated rows =>
    complainUnless (diff.relocated.map (fun r => (r.old.path, r.new.path, r.kind)) == rows)
      "Unexpected renames or moves"
  | .refactoringCount count =>
    complainUnless (diff.refactorings.length == count)
      ("Expected " ++ toString count ++ " refactors, got " ++ showRefactorings diff)
  | .hasRefactoring kind subject related =>
    complainUnless (diff.refactorings.any (isRefactoring kind subject related))
      ("Expected " ++ kindTitle kind ++ " refactor of '" ++ subject ++ "' with "
        ++ Text.quotedList related ++ ", got " ++ showRefactorings diff)

/-- The first complaint about a difference. -/
def firstComplaint? (diff : Diff) (expectations : List DiffExpectation) : Option String :=
  expectations.findSome? (complaint? diff)

end DiffExpectation

end CodeOutline
