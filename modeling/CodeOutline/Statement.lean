/-!
# Statements

A line of an outline that is neither blank nor unfinished is one statement. There are seven kinds.
Six of them describe a piece of a code base and become a node of the forest; an assignment is read
and then left out.

## Main definitions

* `Statement`: the seven kinds of statement
* `Statement.kindName`: the name of a statement's kind
-/

namespace CodeOutline

/-- What a line of an outline states. -/
inductive Statement where
  /-- `/name` -/
  | directory (name : String)
  /-- `name.ext`; the name includes the extension -/
  | file (name extension : String)
  /-- `%Name` -/
  | component (name : String)
  /-- `$name()` -/
  | function (name : String)
  /-- `name = value` -/
  | assignment (name value : String)
  /-- `@name.name` -/
  | reference (name : String)
  /-- `# text` -/
  | note (text : String)
deriving DecidableEq, Repr

/-- The name of a statement's kind. -/
def Statement.kindName : Statement → String
  | .directory _ => "Directory"
  | .file _ _ => "File"
  | .component _ => "Component"
  | .function _ => "Function"
  | .assignment _ _ => "Variable"
  | .reference _ => "Reference"
  | .note _ => "Note"

end CodeOutline
