import CodeOutline.Command
import CodeOutline.Diff.Description
import CodeOutline.Diff.Pairing
import CodeOutline.Forest.Drawing
import CodeOutline.Outline
import CodeOutline.Report
import CodeOutline.Snapshot.Decode

/-!
# Outcomes

A command ends with a status and with what it has to say, answers apart from remarks. The status is
zero if all went well, one if a checked outline has errors, and two if the command could not do its
work; then there is no answer at all.

An outline that is to be drawn or compared may have flaws; they are remarked on and do not stop the
command.

## Main definitions

* `Outcome`: how a command ends
* `CommandError`: why it could not do its work, and `CommandError.message`: how that is said
* `Invocation.run`: the outcome of a command in a workspace
-/

namespace CodeOutline

/-- How a command ends: its status, its answer and its remarks. -/
structure Outcome where
  status : Nat
  answer : String
  remarks : String
deriving DecidableEq, Repr

/-- Why a command could not do its work. -/
inductive CommandError where
  | settings (error : SettingsError)
  | unreadable (path : String) (reason : ReadFailure)
  | notSnapshot (path : String)
  /-- the hash of a file in a snapshot would have to be cut through a character -/
  | uncuttableHash (path : String)
deriving DecidableEq, Repr

namespace CommandError

/-- The error in words. -/
def message : CommandError → String
  | .settings error => "failed to load configuration: " ++ error.message
  | .unreadable path reason => "failed to read " ++ path ++ ": " ++ reason.message
  | .notSnapshot path => path ++ " is not a valid analysis snapshot"
  | .uncuttableHash path => path ++ " has a content hash that cannot be shortened"

/-- The status a command ends with. -/
def status : CommandError → Nat
  | .uncuttableHash _ => 101
  | _ => 2

end CommandError

namespace Outcome

/-- Texts as lines. -/
def lines (texts : List String) : String :=
  String.join (texts.map (· ++ "\n"))

/-- The outcome of a command that could not do its work, after some remarks. -/
def failed (remarks : List String) (error : CommandError) : Outcome :=
  ⟨error.status, "", lines (remarks ++ ["Error: " ++ error.message])⟩

end Outcome

namespace Command

/-- A file as text. -/
def readText (workspace : Workspace) (path : String) : Except CommandError String :=
  match workspace.readText path with
  | .ok text => .ok text
  | .error reason => .error (.unreadable path reason)

/-- The outline in a file. -/
def readOutline (settings : Settings) (workspace : Workspace) (path : String) :
    Except CommandError Outline := do
  return Outline.ofText settings.indentWidth (← readText workspace path)

/-- The forest in a file, and remarks on it. A file is an outline unless its name has the suffix of
a snapshot. -/
def readForest (settings : Settings) (workspace : Workspace) (path : String) :
    Except CommandError (Forest × List String) := do
  let text ← readText workspace path
  if Path.hasSuffix "json" path then
    match Snapshot.ofText text with
    | .error _ => .error (.notSnapshot path)
    | .ok snapshot =>
      match snapshot.forest? with
      | some forest => return (forest, [])
      | none => .error (.uncuttableHash path)
  else
    let outline := Outline.ofText settings.indentWidth text
    return (outline.forest, outline.diagnostics.map fun d => path ++ ": " ++ d.display)

/-- The answer to a check. -/
def checkAnswer (format : OutputFormat) (outline : Outline) : String :=
  match format with
  | .text => Outcome.lines (outline.diagnostics.map (·.display))
  | .json => Outcome.lines [(Json.record [
      ("diagnostics", .array (outline.diagnostics.map (·.report))),
      ("nodes", .ofNat outline.forest.size)]).indented]

/-- Reports what is wrong with an outline. -/
def runCheck (settings : Settings) (workspace : Workspace) (path : String) : Outcome :=
  match readOutline settings workspace path with
  | .error error => .failed [] error
  | .ok outline =>
    ⟨if outline.hasErrors then 1 else 0, checkAnswer settings.format outline, ""⟩

/-- The answer that shows a forest. -/
def treeAnswer (settings : Settings) (forest : Forest) : String :=
  match settings.format with
  | .text => forest.draw settings.showLineNumbers
  | .json => Outcome.lines
    [(Json.array ((forest.preorder.filterMap forest.node?).map Node.report)).indented]

/-- Shows the forest of an outline. -/
def runTree (settings : Settings) (workspace : Workspace) (path : String) : Outcome :=
  match readOutline settings workspace path with
  | .error error => .failed [] error
  | .ok outline =>
    ⟨0, treeAnswer settings outline.forest, Outcome.lines (outline.diagnostics.map (·.display))⟩

/-- The answer that shows changes. -/
def diffAnswer (format : OutputFormat) (stamp : Stamp) (diff : Diff) : String :=
  match format with
  | .text =>
    Outcome.lines ((if diff.isEmpty then ["No structural changes"] else []) ++ diff.describe)
  | .json => Outcome.lines [(diff.report stamp).indented]

/-- Shows the changes between two outlines or snapshots. -/
def runDiff (settings : Settings) (workspace : Workspace) (stamp : Stamp) (old new : String) :
    Outcome :=
  match readForest settings workspace old with
  | .error error => .failed [] error
  | .ok (oldForest, remarks) =>
    match readForest settings workspace new with
    | .error error => .failed remarks error
    | .ok (newForest, moreRemarks) =>
      let diff := Diff.between settings.diffOptions oldForest newForest
      ⟨0, diffAnswer settings.format stamp diff, Outcome.lines (remarks ++ moreRemarks)⟩

/-- The outcome of a command. -/
def run (settings : Settings) (workspace : Workspace) (stamp : Stamp) : Command → Outcome
  | .check path => runCheck settings workspace path
  | .tree path => runTree settings workspace path
  | .diff old new => runDiff settings workspace stamp old new

end Command

/-- The outcome of a command in a workspace, with the settings that hold there. -/
def Invocation.run (invocation : Invocation) (workspace : Workspace) (stamp : Stamp) : Outcome :=
  match Settings.load workspace invocation.source invocation.overrides with
  | .error error => .failed [] (.settings error)
  | .ok settings => invocation.command.run settings workspace stamp

end CodeOutline
