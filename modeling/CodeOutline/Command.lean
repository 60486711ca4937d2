import CodeOutline.Settings.Load

/-!
# Commands

What the program can be asked to do: check an outline, draw the tree of an outline, or tell two
outlines or snapshots apart.

## Main definitions

* `Command`: what is to be done
* `Invocation`: a command and the settings asked for along with it
* `Invocation.paths`: everything that may have to be read for it
-/

namespace CodeOutline

/-- What is to be done. -/
inductive Command where
  /-- report what is wrong with an outline -/
  | check (path : String)
  /-- show the forest of an outline -/
  | tree (path : String)
  /-- show the changes between two outlines or snapshots -/
  | diff (old new : String)
deriving DecidableEq, Repr

/-- A command, with the file to take settings from if one is named, and the format asked for. -/
structure Invocation where
  settingsFile : Option String
  format : Option OutputFormat
  command : Command
deriving DecidableEq, Repr

/-- The paths a command reads. -/
def Command.paths : Command → List String
  | .check path | .tree path => [path]
  | .diff old new => [old, new]

namespace Invocation

/-- Where settings are taken from. -/
def source (invocation : Invocation) : SettingsFile :=
  match invocation.settingsFile with
  | some name => .named name
  | none => .usual

/-- The settings asked for. -/
def overrides (invocation : Invocation) : Overrides :=
  ⟨invocation.format, none⟩

/-- Everything that may have to be read. -/
def paths (invocation : Invocation) : List String :=
  invocation.source.paths ++ invocation.command.paths

end Invocation

end CodeOutline
