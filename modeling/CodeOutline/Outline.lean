import CodeOutline.Diagnostic
import CodeOutline.Forest
import CodeOutline.Line

/-!
# Outlines

An outline is read line by line into a forest. The indentation of a line gives its level; a line
closes every open node of its own level or deeper, and the innermost node still open is its parent.
Where that node may not hold the line's kind, the nearest open node that may is taken instead, and
where there is none, the line's node becomes a root. Each such correction is remarked.

A directory or file that is declared again, under the same path, is not added a second time: the
first declaration is opened again, and what follows goes below it.

## Main definitions

* `Finding`, `Remark`: what was noticed about a line, and `Remark.diagnostic`: the report of it
* `Outline`: the forest read from a text and the remarks on its lines
* `Outline.Reading.step`: the effect of one line
* `Outline.ofText`: the outline a text describes
-/

namespace CodeOutline

/-! ### Remarks -/

/-- What was noticed about a line. -/
inductive Finding where
  /-- the line was dropped -/
  | dropped (cause : LineError)
  /-- the leading spaces do not make up whole levels -/
  | unevenIndentation (spaces width : Nat)
  /-- the line is indented, but no node is open -/
  | noParent (kind : NodeKind) (name : String)
  /-- no open node may hold the line's kind -/
  | madeTopLevel (kind parent : NodeKind)
  /-- another open node than the innermost holds the line's node -/
  | movedTo (kind parent : NodeKind) (ancestor : NodeKind) (ancestorName : String)
  /-- the directory or file was declared before -/
  | declaredBefore (kind : NodeKind) (path : String)
deriving DecidableEq, Repr

namespace Finding

/-- Only a dropped line is an error. -/
def severity : Finding → Severity
  | .dropped _ => .error
  | _ => .warning

/-- The code of a finding. -/
def code : Finding → String
  | .dropped _ => "syntax-error"
  | .unevenIndentation _ _ => "indentation"
  | .noParent _ _ | .madeTopLevel _ _ => "made-top-level"
  | .movedTo _ _ _ _ => "auto-corrected-parent"
  | .declaredBefore _ _ => "duplicate-path"

/-- The finding in words. -/
def message : Finding → String
  | .dropped cause => "Syntax error: " ++ cause.reason
  | .unevenIndentation spaces width =>
    "Indentation of " ++ toString spaces ++ " spaces is not a multiple of " ++ toString width
  | .noParent kind name =>
    kind.title ++ " '" ++ name ++ "' is indented but has no enclosing parent; made top-level"
  | .madeTopLevel kind parent =>
    kind.title ++ " cannot be nested under " ++ parent.title ++ "; made top-level"
  | .movedTo kind parent ancestor ancestorName =>
    kind.title ++ " cannot be nested under " ++ parent.title ++ "; attached to " ++ ancestor.title
      ++ " '" ++ ancestorName ++ "' instead"
  | .declaredBefore kind path =>
    kind.title ++ " '" ++ path ++ "' is already declared; merged into the earlier declaration"

end Finding

/-- A finding about the line of a number. -/
structure Remark where
  line : Nat
  finding : Finding
deriving DecidableEq, Repr

/-- The report of a remark. -/
def Remark.diagnostic (remark : Remark) : Diagnostic :=
  ⟨remark.line, remark.finding.severity, remark.finding.message, some remark.finding.code,
    Diagnostic.ownSource⟩

/-! ### Nodes of lines -/

/-- The node a statement describes. An assignment describes none. -/
def Node.ofStatement? : Statement → Option Node
  | .directory name => some (.named .directory name)
  | .file name extension => some { Node.named .file name with extension := some extension }
  | .component name => some (.named .component name)
  | .function name => some (.named .function name)
  | .reference name => some { Node.named .reference name with dependencies := [name] }
  | .note text => some { Node.named .note text with content := some text }
  | .assignment _ _ => none

/-- The forest read from a text and the remarks on its lines, in the order of the lines. -/
structure Outline where
  forest : Forest
  remarks : List Remark
deriving DecidableEq, Repr

namespace Outline

/-- The number of spaces a line starts with. -/
def leadingSpaces (line : String) : Nat :=
  (line.toList.takeWhile (· == ' ')).length

/-! ### Reading line by line -/

/-- What is known after some lines: the outline so far, and the nodes still open with the levels at
which they were opened, innermost first. -/
structure Reading where
  forest : Forest
  remarks : List Remark
  opened : List (NodeId × Nat)

namespace Reading

/-- Before the first line. -/
def start : Reading := ⟨.empty, [], []⟩

/-- Adds a remark on a line. -/
def remark (reading : Reading) (line : Nat) (finding : Finding) : Reading :=
  { reading with remarks := reading.remarks ++ [⟨line, finding⟩] }

/-- Adds a remark on a line, if there is a finding. -/
def remark? (reading : Reading) (line : Nat) : Option Finding → Reading
  | none => reading
  | some finding => reading.remark line finding

/-- What there is to say about leading spaces. -/
def indentationFinding (width spaces : Nat) : Option Finding :=
  if spaces % width = 0 then none else some (.unevenIndentation spaces width)

/-- Closes the open nodes of a level and of deeper ones. -/
def close (opened : List (NodeId × Nat)) (level : Nat) : List (NodeId × Nat) :=
  opened.dropWhile (level ≤ ·.2)

/-- The node may hold one of this kind. -/
def accepts (forest : Forest) (kind : NodeKind) (id : NodeId) : Bool :=
  (forest.node? id).any (·.kind.mayHold kind)

/-- The parent of a new node among the open ones, and what there is to say about it. -/
def resolve (forest : Forest) (opened : List (NodeId × Nat)) (node : Node) :
    Option NodeId × Option Finding :=
  match opened with
  | [] => (none, if node.level = 0 then none else some (.noParent node.kind node.name))
  | (innermost, _) :: outer =>
    if accepts forest node.kind innermost then (some innermost, none)
    else
      match forest.node? innermost with
      | none => (none, none)
      | some parent =>
        match (outer.map (·.1)).find? (accepts forest node.kind) with
        | none => (none, some (.madeTopLevel node.kind parent.kind))
        | some ancestor =>
          (some ancestor, (forest.node? ancestor).map fun above =>
            .movedTo node.kind parent.kind above.kind above.name)

/-- The path of a new node below a parent. -/
def pathBelow (forest : Forest) (kind : NodeKind) (name : String) : Option NodeId → String
  | none => name
  | some parent =>
    let way := forest.containerPath parent
    if way = "" then name
    else if kind.isContainer then way ++ "/" ++ name
    else way ++ "#" ++ name

/-- The directory or file declared under a path. -/
def declared? (forest : Forest) (path : String) : Option NodeId :=
  forest.slots.findIdx? fun slot => slot.node.kind.isContainer && slot.node.path == path

/-- The effect of a line that describes a node: it is put below its parent, or an earlier
declaration is opened again. -/
def place (reading : Reading) (line : Nat) (node : Node) : Reading :=
  let opened := close reading.opened node.level
  let (parent, finding) := resolve reading.forest opened node
  let reading := reading.remark? line finding
  let path := pathBelow reading.forest node.kind node.name parent
  let earlier := if node.kind.isContainer then declared? reading.forest path else none
  match earlier with
  | some earlier =>
    { reading.remark line (.declaredBefore node.kind path) with
      opened := (earlier, node.level) :: opened }
  | none =>
    { reading with
      forest := reading.forest.grow { node with path := path } parent
      opened := (reading.forest.size, node.level) :: opened }

/-- The node of a line, with its position and hash but not yet with its path. -/
def nodeOfLine (width number : Nat) (line : String) (node : Node) : Node :=
  let level := leadingSpaces line / width
  { node with line := number, level := level, column := level * width, hash := contentHash line }

/-- The effect of one line. -/
def step (width : Nat) (reading : Reading) (number : Nat) (line : String) : Reading :=
  match Line.read line with
  | .ok .blank | .ok .incomplete => reading
  | .error cause =>
    (reading.remark? number (indentationFinding width (leadingSpaces line))).remark number
      (.dropped cause)
  | .ok (.statement statement) =>
    let reading := reading.remark? number (indentationFinding width (leadingSpaces line))
    match Node.ofStatement? statement with
    | none => reading
    | some node => reading.place number (nodeOfLine width number line node)

/-- The effect of lines that are numbered from `number` on. -/
def run (width : Nat) : (number : Nat) → Reading → List String → Reading
  | _, reading, [] => reading
  | number, reading, line :: lines =>
    run width (number + 1) (reading.step width number line) lines

end Reading

/-- The lines of a text. -/
def linesOf (text : String) : List String :=
  (Text.lines text.toList).map String.ofList

/-- Reads an outline from its lines. A level is `width` spaces wide, and at least one. -/
def ofLines (width : Nat) (lines : List String) : Outline :=
  let reading := Reading.start.run (max width 1) 1 lines
  ⟨reading.forest, reading.remarks⟩

/-- The outline a text describes. -/
def ofText (width : Nat) (text : String) : Outline :=
  ofLines width (linesOf text)

/-- The usual width of a level. -/
def defaultWidth : Nat := 2

/-- The reports on the lines. -/
def diagnostics (outline : Outline) : List Diagnostic :=
  outline.remarks.map Remark.diagnostic

/-- A line was dropped. -/
def hasErrors (outline : Outline) : Bool :=
  outline.diagnostics.any Diagnostic.isError

end Outline

end CodeOutline
