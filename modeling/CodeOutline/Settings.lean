import CodeOutline.Diff
import CodeOutline.Text.Quoted

/-!
# Settings

What can be set: how wide a level of indentation is, how renamings are told from moves, whether
refactorings are looked for, how answers are written and whether trees show line numbers.

## Main definitions

* `OutputFormat`: how answers are written
* `Settings`: the settings, `Settings.standard` being those nobody changed
* `SettingsError`: why there are no settings, and `SettingsError.message`: how that is said
-/

namespace CodeOutline

/-- How answers are written. -/
inductive OutputFormat where
  | text
  | json
deriving DecidableEq, Repr

/-- The name of a format. -/
def OutputFormat.label : OutputFormat → String
  | .text => "text"
  | .json => "json"

/-- The format with exactly that name. -/
def OutputFormat.ofLabel? (label : String) : Option OutputFormat :=
  [OutputFormat.text, .json].find? (·.label == label)

/-- The name of a way to tell renamings from moves. -/
def MoveDetection.label : MoveDetection → String
  | .owningFile => "owning-file"
  | .pathPrefix => "path-prefix"

/-- All settings. -/
structure Settings where
  /-- the number of spaces of a level -/
  indentWidth : Nat
  moveDetection : MoveDetection
  detectRefactorings : Bool
  format : OutputFormat
  showLineNumbers : Bool
deriving DecidableEq, Repr

/-- The settings nobody changed. -/
def Settings.standard : Settings := ⟨2, .owningFile, true, .text, true⟩

/-- How differences are to be taken. -/
def Settings.diffOptions (settings : Settings) : DiffOptions :=
  ⟨settings.moveDetection, settings.detectRefactorings⟩

/-- Why there are no settings. -/
inductive SettingsError where
  /-- the file with this name does not exist -/
  | fileNotFound (name : String)
  /-- the file is not TOML -/
  | malformedFile
  /-- no output format has this name -/
  | unknownFormat (name : String)
  /-- a value has the wrong type: what it is and what was expected, for which key, in which file -/
  | wrongType (found expected key : String) (file : Option String)
  /-- no choice of this type has the name -/
  | unknownChoice (type name : String)
  /-- a value that does not name a choice of this type -/
  | notChoice (type : String)
  /-- a single value where settings of this type belong -/
  | notSection (found type : String)
  /-- a list that is too short for the settings of this type, which are so many -/
  | shortSection (length : Nat) (type : String) (settings : Nat)
  | missingSetting (name : String)
  /-- a level of no width -/
  | zeroWidth
deriving DecidableEq, Repr

namespace SettingsError

/-- The noun for so many elements. -/
def elements (n : Nat) : String :=
  toString n ++ if n = 1 then " element" else " elements"

/-- The error in words. -/
def message : SettingsError → String
  | .fileNotFound name => "configuration file \"" ++ name ++ "\" not found"
  | .malformedFile => "TOML parse error"
  | .unknownFormat name =>
    "unknown output format '" ++ name ++ "', expected text or json"
  | .wrongType found expected key file =>
    "invalid type: " ++ found ++ ", expected " ++ expected ++ " for key `" ++ key ++ "`"
      ++ (match file with
        | some file => " in " ++ file
        | none => "")
  | .unknownChoice type name =>
    "enum " ++ type ++ " does not have variant constructor " ++ name
  | .notChoice type =>
    "value of enum " ++ type
      ++ " should be represented by either string or table with exactly one key"
  | .notSection found type => "invalid type: " ++ found ++ ", expected struct " ++ type
  | .shortSection length type settings =>
    "invalid length " ++ toString length ++ ", expected struct " ++ type ++ " with "
      ++ elements settings
  | .missingSetting name => "missing field `" ++ name ++ "`"
  | .zeroWidth => "parser.indent_width must be at least 1"

end SettingsError

/-- The settings, if they can be used: a level has a width. -/
def Settings.checked (settings : Settings) : Except SettingsError Settings :=
  if settings.indentWidth = 0 then .error .zeroWidth else .ok settings

end CodeOutline
