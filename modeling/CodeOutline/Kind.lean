/-!
# Kinds of nodes

A forest describes six kinds of things. Directories and files are containers: their names make up
the paths. Everything else belongs to a file.

## Main definitions

* `NodeKind`: the kinds, with the two ways to write them, `NodeKind.label` and `NodeKind.title`
* `NodeKind.allowedChildren`, `NodeKind.mayHold`: which kind may stand directly below which
-/

namespace CodeOutline

/-- What a node describes. -/
inductive NodeKind where
  | directory
  | file
  | function
  | component
  | reference
  | note
deriving DecidableEq, Repr

namespace NodeKind

/-- Directories and files, whose names make up the paths. -/
def isContainer : NodeKind → Bool
  | .directory | .file => true
  | _ => false

/-- The kind in small letters. -/
def label : NodeKind → String
  | .directory => "directory"
  | .file => "file"
  | .function => "function"
  | .component => "component"
  | .reference => "reference"
  | .note => "note"

/-- The kind with a capital letter. -/
def title : NodeKind → String
  | .directory => "Directory"
  | .file => "File"
  | .function => "Function"
  | .component => "Component"
  | .reference => "Reference"
  | .note => "Note"

/-- The place of a kind in the order of the kinds. -/
def rank : NodeKind → Nat
  | .directory => 0
  | .file => 1
  | .function => 2
  | .component => 3
  | .reference => 4
  | .note => 5

/-- The kinds that may stand directly below a node. -/
def allowedChildren : NodeKind → List NodeKind
  | .directory => [.directory, .file]
  | .file => [.function, .component, .reference, .note]
  | _ => []

/-- A node of kind `child` may stand directly below one of kind `parent`. -/
def mayHold (parent child : NodeKind) : Bool :=
  parent.allowedChildren.contains child

/-- Only directories and files hold anything. -/
theorem isContainer_of_mayHold {parent child : NodeKind} (h : parent.mayHold child = true) :
    parent.isContainer = true := by
  cases parent <;> simp_all [mayHold, allowedChildren, isContainer]

/-- Directories and files stand below directories only. -/
theorem eq_directory_of_mayHold {parent child : NodeKind} (h : parent.mayHold child = true)
    (hc : child.isContainer = true) : parent = .directory := by
  cases parent <;> cases child <;> simp_all [mayHold, allowedChildren, isContainer]

/-- What is no container stands below files only. -/
theorem eq_file_of_mayHold {parent child : NodeKind} (h : parent.mayHold child = true)
    (hc : child.isContainer = false) : parent = .file := by
  cases parent <;> cases child <;> simp_all [mayHold, allowedChildren, isContainer]

end NodeKind

end CodeOutline
