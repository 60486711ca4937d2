/-!
# Tokens

A line of an outline is a short sequence of tokens: markers that open a statement (`#`, `%`, `$`,
`@`, `/`), names, numbers, strings and the pieces of file names. A token keeps its text without the
marker, and `Token.text` puts the marker back, so that every token but a note shows exactly as it
stands in its line.

## Main definitions

* `Token`: the tokens of a line
* `Token.text`: a token as it is written
* `Token.isMarker`, `Token.isLiteral`, `Token.isFileNamePart`, `Token.isKnownExtension`: the classes
  of tokens the grammar asks for
* `fileExtensions`: the extensions a file may have
-/

namespace CodeOutline

/-- The extensions of the files an outline may name. -/
def fileExtensions : List String := [
  "ts", "tsx", "js", "jsx", "json", "css", "scss", "html", "md", "py", "java", "cpp", "c",
  "go", "rs", "rb", "php", "yaml", "yml", "xml", "sql", "sh", "bash"]

/-- The tokens of an outline line. -/
inductive Token where
  /-- `#` and the rest of the line, trimmed -/
  | note (text : String)
  /-- a text between double quotes, its escapes as they were written -/
  | string (text : String)
  /-- decimal digits, perhaps with a fraction -/
  | number (digits : String)
  /-- `%Name` -/
  | component (name : String)
  /-- `varName`: a name that announces a variable -/
  | varName (name : String)
  /-- `@name.name` -/
  | reference (name : String)
  /-- `$name()` -/
  | function (name : String)
  /-- `.word`, a dotted segment of a file name -/
  | extension (word : String)
  /-- `/` -/
  | slash
  /-- `=` -/
  | equals
  /-- `.` without a word behind it -/
  | dot
  /-- any other name -/
  | identifier (name : String)
  /-- the rest of a line from the first fragment that is no token -/
  | content (text : String)
deriving DecidableEq, Repr

namespace Token

/-- A token as it is written. The text of a note is set off from its marker by one space. -/
def text : Token → String
  | .note text => if text = "" then "#" else "# " ++ text
  | .string text => "\"" ++ text ++ "\""
  | .number digits => digits
  | .component name => "%" ++ name
  | .varName name => name
  | .reference name => "@" ++ name
  | .function name => "$" ++ name ++ "()"
  | .extension word => "." ++ word
  | .slash => "/"
  | .equals => "="
  | .dot => "."
  | .identifier name => name
  | .content text => text

/-- The token opens a statement on its own. -/
def isMarker : Token → Bool
  | .note _ | .component _ | .function _ | .reference _ | .slash => true
  | _ => false

/-- The token can be the value of a variable. -/
def isLiteral : Token → Bool
  | .string _ | .number _ | .identifier _ => true
  | _ => false

/-- The token is a dotted segment that names a known file extension. -/
def isKnownExtension : Token → Bool
  | .extension word => fileExtensions.contains word
  | _ => false

/-- The token can be part of a file name. -/
def isFileNamePart : Token → Bool
  | .identifier _ | .varName _ | .number _ | .dot | .extension _ => true
  | _ => false

/-- The name a token stands for where a bare name is expected. -/
def name? : Token → Option String
  | .identifier name | .varName name => some name
  | _ => none

/-- The value a token stands for behind an equals sign. -/
def value? : Token → Option String
  | .string text => some text
  | .number digits => some digits
  | .identifier name => some name
  | _ => none

end Token

end CodeOutline
