import CodeOutline.Diff

/-!
# Describing differences

A difference is told in one line a change: first what was added, then what was removed, modified and
relocated, and at last the refactorings.

## Main definitions

* `Diff.describe`: the lines
-/

namespace CodeOutline

/-- A confidence with two places. -/
def Confidence.fixed (confidence : Confidence) : String :=
  let rest := confidence.percent % 100
  toString (confidence.percent / 100) ++ "." ++ (if rest < 10 then "0" else "") ++ toString rest

/-- A node by its kind, in small letters, and its name. -/
def Node.label (node : Node) : String :=
  node.kind.label ++ " " ++ node.name

namespace Diff

/-- The line of an added node. -/
def describeAdded (node : Node) : String :=
  "+ Added " ++ node.label ++ " at " ++ node.path

/-- The line of a removed node. -/
def describeRemoved (node : Node) : String :=
  "- Removed " ++ node.label ++ " from " ++ node.path

/-- The line of a modified node. -/
def describeModified (modification : Modification) : String :=
  "~ Modified " ++ modification.after.label ++ " at " ++ modification.after.path

/-- The line of a relocated node. -/
def describeRelocated (relocation : Relocation) : String :=
  let old := relocation.old
  let new := relocation.new
  match relocation.kind with
  | .rename =>
    "→ Renamed " ++ new.kind.label ++ " " ++ old.name ++ " to " ++ new.name ++ " (" ++ new.path
      ++ ")"
  | .move => "⇢ Moved " ++ new.label ++ " from " ++ old.path ++ " to " ++ new.path

/-- What happened to the subject of a refactoring. -/
def refactoringVerb : RefactoringKind → String
  | .extract => " extracted from "
  | .inline => " inlined into "
  | .split => " split into "

/-- The line of a refactoring. -/
def describeRefactoring (refactoring : Refactoring) : String :=
  "⟳ Refactor in " ++ refactoring.file ++ ": " ++ refactoring.subject.name
    ++ refactoringVerb refactoring.kind ++ ", ".intercalate refactoring.related
    ++ " (confidence " ++ refactoring.confidence.fixed ++ ")"

/-- The lines of a difference. -/
def describe (diff : Diff) : List String :=
  diff.added.map describeAdded
    ++ diff.removed.map describeRemoved
    ++ diff.modified.map describeModified
    ++ diff.relocated.map describeRelocated
    ++ diff.refactorings.map describeRefactoring

end Diff

end CodeOutline
