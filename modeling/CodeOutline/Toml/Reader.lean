import CodeOutline.Toml.Draft
import CodeOutline.Toml.Number

/-!
# Reading TOML

The grammar of TOML 1.0. A document that is not well formed is refused as a whole.

## Main definitions

* `Toml.readValue`: a value
* `Toml.readEntries`: the entries of a document
* `Toml.read`: the table a document makes
-/

namespace CodeOutline.Toml

/-! ### Values -/

/-- The items of an array behind its opening bracket, read by `item`. Line breaks and comments may
stand between them, and a comma behind the last one. -/
def readItems (item : Reader Toml) : (steps : Nat) → Reader (List Toml)
  | 0, _ => none
  | steps + 1, cs =>
    match skipLayout cs with
    | ']' :: rest => some ([], rest)
    | cs =>
      match item cs with
      | none => none
      | some (value, rest) =>
        match skipLayout rest with
        | ']' :: rest => some ([value], rest)
        | ',' :: rest =>
          (readItems item steps rest).map fun (values, rest) => (value :: values, rest)
        | _ => none

/-- Keys with an equals sign behind them, the last key apart. -/
def readTarget (cs : List Char) : Option ((List String × String) × List Char) := do
  let (keys, rest) ← readKeys cs
  let rest ← expect '=' rest
  let key ← keys.getLast?
  return ((keys.dropLast, key), rest)

/-- The pairs between braces behind the opening one, their values read by `item`. They stand on one
line, and no comma behind the last one. -/
def readPairs (item : Reader Toml) : (steps : Nat) → Reader (List (List String × String × Toml))
  | 0, _ => none
  | steps + 1, cs =>
    match readTarget cs with
    | none => none
    | some ((around, key), rest) =>
      match item (skipGaps rest) with
      | none => none
      | some (value, rest) =>
        match skipGaps rest with
        | '\x7d' :: rest => some ([(around, key, value)], rest)
        | ',' :: rest =>
          (readPairs item steps rest).map fun (pairs, rest) => ((around, key, value) :: pairs, rest)
        | _ => none

/-- A value that stands for itself: a string, a truth value, a moment or a number. -/
def readScalar : Reader Toml
  | 't' :: 'r' :: 'u' :: 'e' :: cs => some (.boolean true, cs)
  | 'f' :: 'a' :: 'l' :: 's' :: 'e' :: cs => some (.boolean false, cs)
  | [] => none
  | c :: cs =>
    if c = '"' || c = '\'' then (readString (c :: cs)).map fun (s, rest) => (.text s, rest)
    else match readMoment (c :: cs) with
      | some reading => some reading
      | none => readNumber (c :: cs)

/-- A value in which arrays and tables nest at most `depth` deep. -/
def readValue : (depth : Nat) → Reader Toml
  | 0, cs => readScalar cs
  | depth + 1, cs =>
    match cs with
    | '[' :: rest =>
      (readItems (readValue depth) (rest.length + 1) rest).map fun (items, rest) =>
        (.array items, rest)
    | '\x7b' :: rest =>
      match skipGaps rest with
      | '\x7d' :: rest => some (.table [], rest)
      | rest => do
        let (pairs, rest) ← readPairs (readValue depth) (rest.length + 1) rest
        return (← ofPairs pairs, rest)
    | cs => readScalar cs

/-! ### Documents -/

/-- A header behind its opening brackets, up to the end of its line. -/
def readHeader (closing : List Char) (entry : List String → String → Entry) : Reader Entry :=
  fun cs => do
    let (keys, rest) ← readKeys cs
    let key ← keys.getLast?
    if closing.isPrefixOf rest then
      return (entry keys.dropLast key, ← lineEnd? (rest.drop closing.length))
    else none

/-- An entry, up to the end of its line. -/
def readEntry : Reader Entry
  | '[' :: '[' :: cs => readHeader [']', ']'] .item cs
  | '[' :: cs => readHeader [']'] .header cs
  | cs => do
    let ((around, key), rest) ← readTarget cs
    let (value, rest) ← readValue (depthLimit - 1) (skipGaps rest)
    return (.pair around key value, ← lineEnd? rest)

/-- The entries of a document. Every entry takes at least one character. -/
def readEntries : (steps : Nat) → List Char → Option (List Entry)
  | 0, _ => none
  | steps + 1, cs =>
    match skipLayout cs with
    | [] => some []
    | cs =>
      match readEntry cs with
      | none => none
      | some (entry, rest) => (readEntries steps rest).map (entry :: ·)

/-- The text without the byte order mark in front of it. -/
def dropMark : List Char → List Char
  | '\uFEFF' :: cs => cs
  | cs => cs

/-- The table a document makes. -/
def read (text : String) : Option (List (String × Toml)) :=
  let cs := dropMark text.toList
  (readEntries (cs.length + 1) cs).bind ofEntries

end CodeOutline.Toml
