import CodeOutline.Command.Arguments
import CodeOutline.Command.Outcome

/-!
# The program as a function

From the arguments and the files of a disk to the outcome. Arguments that make no sense end the
program with the status of a command that could not do its work.

## Main definitions

* `Program.outcome`: the outcome of a request
* `Program.paths`: everything that may have to be read for it
-/

namespace CodeOutline.Program

/-- How the program is called. -/
def usage : String := Outcome.lines [
  "Usage: codoc [OPTIONS] <COMMAND>",
  "",
  "Commands:",
  "  check <path>      Print the diagnostics of an outline",
  "  tree <path>       Print the node tree of an outline",
  "  diff <old> <new>  Print the changes between two outlines or snapshots",
  "",
  "Options:",
  "  -c, --config <file>       Take settings from a file",
  "  -f, --format <text|json>  Choose the output format",
  "      --log-level <filter>  Choose what is logged",
  "  -h, --help                Print help",
  "  -V, --version             Print version"]

/-- The name and the version of the program. -/
def version : String := Outcome.lines ["codoc 0.1.0"]

/-- Everything that may have to be read. -/
def paths : Except UsageError Arguments.Request → List String
  | .ok (.run invocation) => invocation.paths
  | _ => []

/-- The outcome of a request, or of arguments that make no sense. -/
def outcome (workspace : Workspace) (stamp : Stamp) :
    Except UsageError Arguments.Request → Outcome
  | .error error => ⟨2, "", Outcome.lines ["error: " ++ error.message, ""] ++ usage⟩
  | .ok .help => ⟨0, usage, ""⟩
  | .ok .version => ⟨0, version, ""⟩
  | .ok (.run invocation) => invocation.run workspace stamp

end CodeOutline.Program
