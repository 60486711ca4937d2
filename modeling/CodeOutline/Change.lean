import CodeOutline.Diff

/-!
# Changes as records

A difference groups its changes by what happened. A reader that goes through them one by one prefers
a single list of records that all have the same fields: additions, removals, modifications,
relocations, and the refactorings at the end.

## Main definitions

* `ChangeType`, `Change`: a record
* `Diff.changes`: the records of a difference
-/

namespace CodeOutline

/-- What a record says happened. -/
inductive ChangeType where
  | add
  | remove
  | modify
  | rename
  | move
  | refactor
deriving DecidableEq, Repr

/-- The name of a type. -/
def ChangeType.label : ChangeType → String
  | .add => "add"
  | .remove => "remove"
  | .modify => "modify"
  | .rename => "rename"
  | .move => "move"
  | .refactor => "refactor"

/-- The name of a kind of refactoring. -/
def RefactoringKind.label : RefactoringKind → String
  | .extract => "extract"
  | .inline => "inline"
  | .split => "split"

/-- The two ends of a relocation. -/
structure Change.Ends where
  oldPath : String
  newPath : String
  oldName : String
  newName : String
deriving DecidableEq, Repr

/-- One change. -/
structure Change where
  type : ChangeType
  /-- the node as it is now, or as it was if it was removed -/
  kind : NodeKind
  name : String
  path : String
  line : Nat
  level : Nat
  content : String
  /-- of a relocation -/
  ends : Option Change.Ends
  /-- of a refactoring -/
  refactoring : Option RefactoringKind
  related : List String
  confidence : Confidence
deriving DecidableEq, Repr

namespace Change

/-- The record of something that happened to one node. -/
def ofNode (type : ChangeType) (node : Node) : Change where
  type := type
  kind := node.kind
  name := node.name
  path := node.path
  line := node.line
  level := node.level
  content := node.content.getD node.name
  ends := none
  refactoring := none
  related := []
  confidence := .exact

/-- The type of the record of a relocation. -/
def typeOfRelocation : RelocationKind → ChangeType
  | .rename => .rename
  | .move => .move

/-- The record of a relocation. -/
def ofRelocation (relocation : Relocation) : Change :=
  { ofNode (typeOfRelocation relocation.kind) relocation.new with
    ends := some ⟨relocation.old.path, relocation.new.path, relocation.old.name,
      relocation.new.name⟩
    confidence := relocation.confidence }

/-- The record of a refactoring. -/
def ofRefactoring (refactoring : Refactoring) : Change :=
  { ofNode .refactor refactoring.subject with
    refactoring := some refactoring.kind
    related := refactoring.related
    confidence := refactoring.confidence }

end Change

/-- The records of a difference. -/
def Diff.changes (diff : Diff) : List Change :=
  diff.added.map (Change.ofNode .add)
    ++ diff.removed.map (Change.ofNode .remove)
    ++ diff.modified.map (fun modification => Change.ofNode .modify modification.after)
    ++ diff.relocated.map Change.ofRelocation
    ++ diff.refactorings.map Change.ofRefactoring

end CodeOutline
