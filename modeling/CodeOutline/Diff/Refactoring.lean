import CodeOutline.Diff
import CodeOutline.Diff.Words

/-!
# Refactorings

The exact changes of a file are searched for three patterns among its functions: an added function
beside modified ones was extracted from them, a removed function beside modified ones was put into
them, and a removed function with several added ones of similar names was split. These are guesses,
and their confidence says so.

## Main definitions

* `Refactoring.detect`: the refactorings among exact changes
-/

namespace CodeOutline.Refactoring

/-- A refactoring in the file its subject belongs to. -/
def ofSubject (kind : RefactoringKind) (subject : Node) (related : List String) : Refactoring :=
  ⟨kind, subject.owningFilePath, subject, related, kind.confidence⟩

/-- The functions among nodes. -/
def functions (nodes : List Node) : List Node :=
  nodes.filter (·.kind == .function)

/-- The functions among nodes that belong to a file. -/
def functionsOf (file : String) (nodes : List Node) : List Node :=
  (functions nodes).filter (·.owningFilePath == file)

/-- The names of the modified functions of a file. -/
def modifiedNames (modified : List Modification) (file : String) : List String :=
  (functionsOf file (modified.map (·.after))).map (·.name)

/-- A refactoring that relates a function to the modified functions of its file, if there are any.
-/
def besideModified (kind : RefactoringKind) (modified : List Modification) (subject : Node) :
    Option Refactoring :=
  match modifiedNames modified subject.owningFilePath with
  | [] => none
  | names => some (ofSubject kind subject names)

/-- The names of the added functions that a removed one may have been split into. -/
def splitTargets (added : List Node) (subject : Node) : List String :=
  ((functionsOf subject.owningFilePath added).filter fun node =>
    namesSimilar subject.name node.name).map (·.name)

/-- The splitting of a removed function, if two added ones or more are similar to it. -/
def splitOf (added : List Node) (subject : Node) : Option Refactoring :=
  let targets := splitTargets added subject
  if 2 ≤ targets.length then some (ofSubject .split subject targets) else none

/-- The refactorings among exact changes: first what was extracted, then what was put into other
functions, then what was split. -/
def detect (added removed : List Node) (modified : List Modification) : List Refactoring :=
  (functions added).filterMap (besideModified .extract modified)
    ++ (functions removed).filterMap (besideModified .inline modified)
    ++ (functions removed).filterMap (splitOf added)

end CodeOutline.Refactoring
