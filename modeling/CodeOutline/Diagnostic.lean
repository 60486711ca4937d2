/-!
# Diagnostics

A diagnostic is an advisory message about one line. Nothing that is wrong with an outline stops the
reading of it; each problem becomes a diagnostic instead.

## Main definitions

* `Severity`: how serious a diagnostic is
* `Diagnostic`: a message about a line, and `Diagnostic.display`: how it is shown
-/

namespace CodeOutline

/-- How serious a diagnostic is. -/
inductive Severity where
  | error
  | warning
  | information
  | hint
deriving DecidableEq, Repr

/-- The full name of a severity. -/
def Severity.label : Severity → String
  | .error => "error"
  | .warning => "warning"
  | .information => "information"
  | .hint => "hint"

/-- The short name of a severity. -/
def Severity.shortLabel : Severity → String
  | .information => "info"
  | severity => severity.label

/-- A message about a line. -/
structure Diagnostic where
  /-- counted from one -/
  line : Nat
  severity : Severity
  message : String
  /-- names the kind of problem -/
  code : Option String
  /-- names the tool that reports -/
  source : String
deriving DecidableEq, Repr

namespace Diagnostic

/-- The name under which this library reports. -/
def ownSource : String := "codoc"

/-- A diagnostic of this library, without a code. -/
def plain (line : Nat) (severity : Severity) (message : String) : Diagnostic :=
  ⟨line, severity, message, none, ownSource⟩

/-- The diagnostic is an error. -/
def isError (diagnostic : Diagnostic) : Bool :=
  diagnostic.severity == .error

/-- The diagnostic has a code. -/
def hasCode (diagnostic : Diagnostic) (code : String) : Bool :=
  diagnostic.code == some code

/-- The diagnostic as it is shown. -/
def display (diagnostic : Diagnostic) : String :=
  "Line " ++ toString diagnostic.line ++ ": " ++ diagnostic.message

end Diagnostic

end CodeOutline
