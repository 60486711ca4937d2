import CodeOutline.Settings.Decode
import CodeOutline.Toml.Reader
import CodeOutline.Workspace

/-!
# Loading settings

Three layers make the settings: those nobody changed, those of one file, and those the caller asks
for. The file is the one the caller names, which must exist, or else one with the usual name if
there is any. A name is also tried with a suffix behind it.

## Main definitions

* `SettingsFile`: which file to look at
* `Overrides`: what the caller asks for
* `Settings.load`: the settings in a workspace
-/

namespace CodeOutline

/-- Which file settings are taken from. -/
inductive SettingsFile where
  | none
  /-- one with the usual name, if there is any -/
  | usual
  /-- a file that must exist -/
  | named (name : String)
deriving DecidableEq, Repr

/-- The usual name of a file with settings. -/
def SettingsFile.usualName : String := "codoc.toml"

/-- The paths under which a file is looked for. -/
def SettingsFile.candidates (name : String) : List String :=
  name :: (Path.withSuffix? "toml" name).toList

/-- The paths that may have to be read for the settings. -/
def SettingsFile.paths : SettingsFile → List String
  | .none => []
  | .usual => candidates usualName
  | .named name => candidates name

/-- Settings the caller asks for. -/
structure Overrides where
  format : Option OutputFormat
  indentWidth : Option Nat
deriving DecidableEq, Repr

namespace Settings

/-- The first of some paths that leads to a file, and its contents. -/
def firstFile? (workspace : Workspace) : List String → Option (String × List UInt8)
  | [] => none
  | path :: paths =>
    match workspace.read path with
    | .ok bytes => some (path, bytes)
    | .error _ => firstFile? workspace paths

/-- The layer that the contents of a file make. What is no text in it is passed over as far as
possible. -/
def fileLayer (path : String) (bytes : List UInt8) : Except SettingsError Layer :=
  let text := String.ofList (Toml.dropMark (Utf8.decodeLossy bytes).toList)
  match Toml.read text with
  | some members => .ok (Layer.ofDocument (Path.normal path) members)
  | none => .error .malformedFile

/-- The layer of the file, empty if there is none. -/
def userLayer (workspace : Workspace) (file : SettingsFile) : Except SettingsError Layer :=
  match firstFile? workspace file.paths, file with
  | some (path, bytes), _ => fileLayer path bytes
  | none, .named name => .error (.fileNotFound name)
  | none, _ => .ok []

/-- A value that no file holds. -/
def stated (value : Scalar) : Stored := .scalar value none

/-- The settings as a layer, a table for each section. -/
def layer (settings : Settings) : Layer := [
  ([.key "parser"], .table [("indent_width", stated (.integer settings.indentWidth))] none),
  ([.key "diff"], .table [
    ("move_detection", stated (.text settings.moveDetection.label)),
    ("detect_refactors", stated (.boolean settings.detectRefactorings))] none),
  ([.key "output"], .table [
    ("format", stated (.text settings.format.label)),
    ("show_line_numbers", stated (.boolean settings.showLineNumbers))] none)]

end Settings

/-- What the caller asks for, as a layer. -/
def Overrides.layer (overrides : Overrides) : Layer :=
  (overrides.format.map fun format =>
      ([.key "output", .key "format"], Settings.stated (.text format.label))).toList
    ++ (overrides.indentWidth.map fun (width : Nat) =>
      ([.key "parser", .key "indent_width"], Settings.stated (.integer width))).toList

/-- The settings in a workspace. -/
def Settings.load (workspace : Workspace) (file : SettingsFile) (overrides : Overrides) :
    Except SettingsError Settings := do
  let user ← userLayer workspace file
  ofStored (Stored.ofLayers [standard.layer, user, overrides.layer])

end CodeOutline
