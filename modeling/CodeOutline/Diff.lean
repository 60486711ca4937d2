import CodeOutline.Forest

/-!
# Differences between two forests

A difference lists what happened to the nodes on the way from an old forest to a new one: nodes were
added or removed, the content of a node was modified, or a node reappeared under another identity,
which is a renaming or a move. Beside these exact changes stand refactorings, which are guessed from
them.

## Main definitions

* `Modification`, `Relocation`, `Refactoring`: changes that involve more than one node
* `Diff`: all changes, and `Diff.isEmpty`, `Diff.totalChanges`
* `DiffOptions`: how a difference is taken
-/

namespace CodeOutline

/-- How a renaming is told from a move. -/
inductive MoveDetection where
  /-- by the owner: the file of what belongs to a file, the directory of a directory or file -/
  | owningFile
  /-- by the path up to its last slash -/
  | pathPrefix
deriving DecidableEq, Repr

/-- How a difference is taken. -/
structure DiffOptions where
  moveDetection : MoveDetection
  detectRefactorings : Bool
deriving DecidableEq, Repr

/-- The usual way to take a difference. -/
def DiffOptions.standard : DiffOptions := ⟨.owningFile, true⟩

/-- How sure a change is, in hundredths. -/
structure Confidence where
  percent : Nat
deriving DecidableEq, Repr

/-- An exact change is certain. -/
def Confidence.exact : Confidence := ⟨100⟩

/-- A node whose content changed in its place. -/
structure Modification where
  before : Node
  after : Node
deriving DecidableEq, Repr

/-- What became of a node that has another identity now. -/
inductive RelocationKind where
  | rename
  | move
deriving DecidableEq, Repr

/-- A node whose content survived under another identity. -/
structure Relocation where
  old : Node
  new : Node
  kind : RelocationKind
  confidence : Confidence
deriving DecidableEq, Repr

/-- The patterns that are taken for refactorings. -/
inductive RefactoringKind where
  /-- a new function was taken out of modified ones -/
  | extract
  /-- a removed function was put into modified ones -/
  | inline
  /-- a removed function became several new ones -/
  | split
deriving DecidableEq, Repr

/-- How sure a refactoring of this kind is. -/
def RefactoringKind.confidence : RefactoringKind → Confidence
  | .extract => ⟨80⟩
  | .inline => ⟨70⟩
  | .split => ⟨75⟩

/-- A refactoring in a file: the function it is about and the names of the others involved. -/
structure Refactoring where
  kind : RefactoringKind
  file : String
  subject : Node
  related : List String
  confidence : Confidence
deriving DecidableEq, Repr

/-- What happened to the nodes on the way from one forest to another. -/
structure Diff where
  added : List Node
  removed : List Node
  modified : List Modification
  relocated : List Relocation
  refactorings : List Refactoring
deriving DecidableEq, Repr

namespace Diff

/-- Nothing was added, removed, modified or relocated. -/
def isEmpty (diff : Diff) : Bool :=
  diff.added.isEmpty && diff.removed.isEmpty && diff.modified.isEmpty && diff.relocated.isEmpty

/-- The number of exact changes. -/
def totalChanges (diff : Diff) : Nat :=
  diff.added.length + diff.removed.length + diff.modified.length + diff.relocated.length

/-- The relocations of a kind. -/
def relocationsOf (diff : Diff) (kind : RelocationKind) : List Relocation :=
  diff.relocated.filter (·.kind == kind)

end Diff

end CodeOutline
