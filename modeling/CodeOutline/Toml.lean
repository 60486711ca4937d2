import CodeOutline.Number.Binary64

/-!
# TOML values

The data a TOML document holds. A date, a time of day or both are kept as the text that names them.

## Main definitions

* `Toml`: a value
* `Toml.Layout`: what stands between values without a meaning of its own
-/

namespace CodeOutline

/-- A TOML value. -/
inductive Toml where
  | text (s : String)
  | integer (n : Int)
  | real (x : Binary64)
  | boolean (b : Bool)
  /-- a date, a time of day, or both -/
  | moment (s : String)
  | array (items : List Toml)
  | table (members : List (String × Toml))

namespace Toml

/-- What reading at the start of a text yields: a value and the rest of the text, or nothing when
the text is not well formed. -/
abbrev Reader (α : Type) := List Char → Option (α × List Char)

/-! ### Layout -/

/-- The blanks inside a line. -/
def isGap (c : Char) : Bool :=
  c = ' ' || c = '\t'

/-- The characters that may stand in a comment, and in a string as themselves: all but the controls
other than the tabulator. -/
def isPlain (c : Char) : Bool :=
  c = '\t' || (0x20 ≤ c.toNat && c.toNat ≠ 0x7F)

/-- The text without the blanks in front of it. -/
def skipGaps (cs : List Char) : List Char :=
  cs.dropWhile isGap

/-- Whether a carriage return is the first half of a line break: a line feed follows it. -/
def isReturn (c : Char) (cs : List Char) : Bool :=
  c = '\r' && cs.head? == some '\n'

/-- The text without the blanks, line breaks and comments in front of it. -/
def skipLayoutFrom : (inComment : Bool) → List Char → List Char
  | _, [] => []
  | inComment, c :: cs =>
    if inComment && isPlain c then skipLayoutFrom true cs
    else if isGap c || c = '\n' || isReturn c cs then skipLayoutFrom false cs
    else if c = '#' then skipLayoutFrom true cs
    else c :: cs

/-- The text without the blanks, line breaks and comments in front of it. -/
def skipLayout (cs : List Char) : List Char :=
  skipLayoutFrom false cs

/-- What follows a line break at the start of a text. -/
def lineBreak? : List Char → Option (List Char)
  | '\n' :: cs => some cs
  | '\r' :: '\n' :: cs => some cs
  | _ => none

/-- What follows the end of a line, before which a comment may stand. -/
def lineEnd? (cs : List Char) : Option (List Char) :=
  let cs :=
    match skipGaps cs with
    | '#' :: cs => cs.dropWhile isPlain
    | cs => cs
  if cs.isEmpty then some [] else lineBreak? cs

end Toml

end CodeOutline
