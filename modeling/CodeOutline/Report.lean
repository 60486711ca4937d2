import CodeOutline.Change
import CodeOutline.Diagnostic
import CodeOutline.Json.Writer

/-!
# Reports

Nodes, diagnostics and changes as JSON, for readers that are programs. The members of a record
always stand in the same order; what a change does not have is left out, what a node or a diagnostic
does not have is null.

## Main definitions

* `Node.report`, `Diagnostic.report`, `Change.report`: one record
* `Stamp`: what a report adds to changes: a name for each, and the time
-/

namespace CodeOutline

/-- A node as a record. -/
def Node.report (node : Node) : Json :=
  .record [
    ("kind", .string node.kind.label),
    ("name", .string node.name),
    ("path", .string node.path),
    ("extension", .ofString? node.extension),
    ("content", .ofString? node.content),
    ("line_number", .ofNat node.line),
    ("column", .ofNat node.column),
    ("indent_level", .ofNat node.level),
    ("dependencies", .ofStrings node.dependencies),
    ("dependents", .ofStrings node.dependents),
    ("content_hash", .string node.hash)]

/-- A diagnostic as a record, its members in the order of the alphabet. -/
def Diagnostic.report (diagnostic : Diagnostic) : Json :=
  .record [
    ("code", .ofString? diagnostic.code),
    ("line", .ofNat diagnostic.line),
    ("message", .string diagnostic.message),
    ("severity", .string diagnostic.severity.label),
    ("source", .string diagnostic.source)]

/-- A confidence as a fraction of one. -/
def Confidence.fraction (confidence : Confidence) : Binary64 :=
  Binary64.nearest false confidence.percent 100

/-- What a report adds to changes: a name for each that no other has, and the time. -/
structure Stamp where
  name : Nat → String
  time : String

/-- A change as a record, the name of which is given. -/
def Change.report (stamp : Stamp) (place : Nat) (change : Change) : Json :=
  .record ([
    ("id", .string (stamp.name place)),
    ("type", .string change.type.label),
    ("element", .record [
      ("kind", .string change.kind.label),
      ("name", .string change.name),
      ("path", .string change.path)]),
    ("lineNumber", .ofNat change.line),
    ("indentLevel", .ofNat change.level),
    ("content", .string change.content)]
  ++ (match change.ends with
    | some ends => [
      ("fromPath", .string ends.oldPath),
      ("toPath", .string ends.newPath),
      ("fromName", .string ends.oldName),
      ("toName", .string ends.newName)]
    | none => [])
  ++ (match change.refactoring with
    | some kind => [("refactorType", .string kind.label)]
    | none => [])
  ++ (if change.related.isEmpty then [] else [("related", .ofStrings change.related)])
  ++ [
    ("confidence", .number (.real change.confidence.fraction)),
    ("timestamp", .string stamp.time)])

/-- The changes of a difference as an array of records. -/
def Diff.report (stamp : Stamp) (diff : Diff) : Json :=
  .array (diff.changes.mapIdx (Change.report stamp))

end CodeOutline
