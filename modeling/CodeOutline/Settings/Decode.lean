import CodeOutline.Number.Shortest
import CodeOutline.Settings
import CodeOutline.Settings.Layer

/-!
# Settings from values

The values gathered from layers become settings. Values are taken generously: a number may be
written as a string, a truth value as a number or as one of a few words, and a choice by its name in
any letters. The settings of one section may also be a list, in which they stand in their order.

## Main definitions

* `Stored.natural`, `Stored.truth`, `Stored.choice`: a value as a number, a truth value, a choice
* `Section.field`: the value of a setting
* `Settings.ofStored`: the settings
-/

namespace CodeOutline

/-- A boolean in a message. -/
def Scalar.booleanName (b : Bool) : String :=
  if b then "true" else "false"

/-- What a value is, for a message about its section. -/
def Scalar.describe : Scalar → String
  | .nothing => "unit value"
  | .boolean b => "boolean `" ++ booleanName b ++ "`"
  | .integer n => "integer `" ++ toString n ++ "`"
  | .real x => "floating point `" ++ x.positional ++ "`"
  | .text s => "string " ++ Text.quoted s

/-- A value of the wrong type: what it is and what was expected, and the file it is in. -/
structure Mismatch where
  found : String
  expected : String
  file : Option String
deriving DecidableEq, Repr

namespace Stored

/-- The words for a truth value, in small letters. -/
def truthOfWord? (word : String) : Option Bool :=
  if ["true", "on", "yes"].contains word then some true
  else if ["false", "off", "no"].contains word then some false
  else none

/-- The largest number that is taken: the largest natural number of 64 bits. -/
def largest : Nat := Nat.pow 2 64 - 1

/-- The number that a text writes: decimal digits, perhaps with a plus in front. -/
def naturalOfText? (text : String) : Option Nat :=
  let digits :=
    match text.toList with
    | '+' :: digits => digits
    | digits => digits
  let n := Numeral.ofDigits 10 digits
  if !digits.isEmpty && digits.all Text.isDigit && n ≤ largest then some n else none

/-- A value as a natural number. Truth values count as one and zero, also those in words; a number
with a fraction is rounded, a half going up. -/
def natural : Stored → Except Mismatch Nat
  | .scalar (.integer n) file =>
    if n < 0 then
      .error ⟨"64-bit integer `" ++ toString n ++ "`", "an unsigned 64 bit or less integer", file⟩
    else .ok n.toNat
  | .scalar (.boolean b) _ => .ok (if b then 1 else 0)
  | .scalar (.real x) _ => .ok (x.roundNat largest)
  | .scalar (.text s) file =>
    match truthOfWord? (Text.lowercase s) with
    | some b => .ok (if b then 1 else 0)
    | none =>
      match naturalOfText? s with
      | some n => .ok n
      | none => .error ⟨"string " ++ Text.quoted s, "an integer", file⟩
  | .scalar .nothing file => .error ⟨"unit value", "an integer", file⟩
  | .list _ file => .error ⟨"sequence", "an integer", file⟩
  | .table _ file => .error ⟨"map", "an integer", file⟩

/-- A value as a truth value. A number is true unless it is zero. -/
def truth : Stored → Except Mismatch Bool
  | .scalar (.boolean b) _ => .ok b
  | .scalar (.integer n) _ => .ok (n != 0)
  | .scalar (.real x) _ => .ok (!x.isZero)
  | .scalar (.text s) file =>
    let word := Text.lowercase s
    if word = "1" then .ok true
    else if word = "0" then .ok false
    else match truthOfWord? word with
      | some b => .ok b
      | none => .error ⟨"string " ++ Text.quoted word, "a boolean", file⟩
  | .scalar .nothing file => .error ⟨"unit value", "a boolean", file⟩
  | .list _ file => .error ⟨"sequence", "a boolean", file⟩
  | .table _ file => .error ⟨"map", "a boolean", file⟩

/-- The choice with a name, in any letters. -/
def choiceNamed {α : Type} (type : String) (label : α → String) (choices : List α) (name : String) :
    Except SettingsError α :=
  match choices.find? fun choice => Text.lowercase (label choice) == Text.lowercase name with
  | some choice => .ok choice
  | none => .error (.unknownChoice type name)

/-- A value as a choice: its name, or a table whose only key is the name. -/
def choice {α : Type} (type : String) (label : α → String) (choices : List α) :
    Stored → Except SettingsError α
  | .scalar (.text name) _ => choiceNamed type label choices name
  | .table [(name, _)] _ => choiceNamed type label choices name
  | _ => .error (.notChoice type)

end Stored

/-! ### Sections -/

/-- A group of settings: its key, the type it is known by in messages, and its settings. -/
structure Section where
  key : String
  type : String
  settings : List String

namespace Section

/-- The section on reading outlines. -/
def parser : Section := ⟨"parser", "ParserConfig", ["indent_width"]⟩

/-- The section on taking differences. -/
def diff : Section := ⟨"diff", "DiffConfig", ["move_detection", "detect_refactors"]⟩

/-- The section on answers. -/
def output : Section := ⟨"output", "OutputConfig", ["format", "show_line_numbers"]⟩

/-- The value of a setting and the key it has in messages. In a list, the place counts. -/
def field (sec : Section) (name : String) : Stored → Except SettingsError (Stored × String)
  | .table members _ =>
    match members.lookup name with
    | some value => .ok (value, sec.key ++ "." ++ name)
    | none => .error (.missingSetting name)
  | .list items _ =>
    let place := sec.settings.idxOf name
    match items[place]? with
    | some value => .ok (value, sec.key ++ "[" ++ toString place ++ "]")
    | none => .error (.shortSection items.length sec.type sec.settings.length)
  | .scalar value _ => .error (.notSection value.describe sec.type)

/-- The values of a section. -/
def values (sec : Section) (root : Stored) : Except SettingsError Stored :=
  match root.member? sec.key with
  | some value => .ok value
  | none => .error (.missingSetting sec.key)

/-- A setting that is decoded without regard to its key. -/
def plain {α : Type} (sec : Section) (name : String) (decode : Stored → Except SettingsError α)
    (root : Stored) : Except SettingsError α := do
  let (value, _) ← sec.field name (← sec.values root)
  decode value

/-- A setting whose decoder may find the wrong type. -/
def typed {α : Type} (sec : Section) (name : String) (decode : Stored → Except Mismatch α)
    (root : Stored) : Except SettingsError α := do
  let (value, key) ← sec.field name (← sec.values root)
  match decode value with
  | .ok a => return a
  | .error ⟨found, expected, file⟩ => .error (.wrongType found expected key file)

end Section

namespace Settings

/-- The settings that values make, checked. -/
def ofStored (root : Stored) : Except SettingsError Settings := do
  let indentWidth ← Section.parser.typed "indent_width" Stored.natural root
  let moveDetection ← Section.diff.plain "move_detection"
    (Stored.choice "MoveDetection" MoveDetection.label [.owningFile, .pathPrefix]) root
  let detectRefactorings ← Section.diff.typed "detect_refactors" Stored.truth root
  let format ← Section.output.plain "format"
    (Stored.choice "OutputFormat" OutputFormat.label [.text, .json]) root
  let showLineNumbers ← Section.output.typed "show_line_numbers" Stored.truth root
  checked ⟨indentWidth, moveDetection, detectRefactorings, format, showLineNumbers⟩

end Settings

end CodeOutline
