import CodeOutline.Number.Numeral
import CodeOutline.Toml

/-!
# TOML strings and keys

A string stands between marks: quotes, inside of which a backslash has a meaning, or apostrophes,
inside of which nothing has. A string between single marks ends on its line; one between triple
marks is a block that may go over several lines, and a backslash at the end of a line in it joins
the line to the next thing that is not blank. One or two more marks at the end of a block belong to
it.

All four kinds are read by one automaton, which is told by `Quoting` what it reads.

## Main definitions

* `Toml.Quoting`: the kinds of strings
* `Toml.readQuoted`: the rest of a string behind its opening mark
* `Toml.readString`: a string
* `Toml.readKey`, `Toml.readKeys`: a key, and keys with dots between them
-/

namespace CodeOutline.Toml

/-- A kind of string: its mark, and whether it is a block. -/
structure Quoting where
  mark : Char
  block : Bool

/-- Where the automaton stands inside a string. -/
inductive Quoting.State where
  | plain
  /-- behind a backslash -/
  | escape
  /-- inside a code point, with so many digits to come -/
  | digits (left value : Nat)
  /-- behind a backslash at the end of a line, before or behind the line break -/
  | joining (broken : Bool)

/-- What a character does. -/
inductive Quoting.Move where
  /-- the string ends with these characters, and the text goes on behind them -/
  | finish (last rest : List Char)
  | put (c : Char) (next : Quoting.State)
  | pass (next : Quoting.State)
  | fail

namespace Quoting

/-- The end of a block: the marks that still belong to it, and the rest of the text. -/
def blockEnd? (mark : Char) : List Char → Option (List Char × List Char)
  | a :: b :: c :: cs =>
    if a = mark && b = mark && c = mark then
      let more := (cs.take 2).takeWhile (· = mark)
      some (more, cs.drop more.length)
    else none
  | _ => none

/-- The character that a letter stands for behind a backslash. -/
def escaped? (c : Char) : Option Char :=
  if c = '"' || c = '\\' then some c
  else if c = 'b' then some '\x08'
  else if c = 'f' then some '\x0C'
  else if c = 'n' then some '\n'
  else if c = 'r' then some '\r'
  else if c = 't' then some '\t'
  else none

/-- The character with a code point, unless it is none. -/
def scalar? (n : Nat) : Option Char :=
  if n < 0xD800 || (0xDFFF < n && n < 0x110000) then some (Char.ofNat n) else none

/-- What a character does that no backslash stands before. -/
def plainMove (q : Quoting) (c : Char) (cs : List Char) : Move :=
  match if q.block then blockEnd? q.mark (c :: cs) else none with
  | some (last, rest) => .finish last rest
  | none =>
    if c = q.mark && !q.block then .finish [] cs
    else if q.block && c = '\n' then .put '\n' .plain
    else if q.block && isReturn c cs then .pass .plain
    else if c = '\\' && q.mark = '"' then .pass .escape
    else if isPlain c then .put c .plain
    else .fail

/-- What a character does right behind a backslash. -/
def escapeMove (q : Quoting) (c : Char) (cs : List Char) : Move :=
  match escaped? c with
  | some c => .put c .plain
  | none =>
    if c = 'u' then .pass (.digits 4 0)
    else if c = 'U' then .pass (.digits 8 0)
    else if q.block && (isGap c || isReturn c cs) then .pass (.joining false)
    else if q.block && c = '\n' then .pass (.joining true)
    else .fail

/-- What a character does inside a code point. -/
def digitMove (left value : Nat) (c : Char) : Move :=
  match Numeral.digit? c with
  | none => .fail
  | some digit =>
    if left ≤ 1 then
      match scalar? (value * 16 + digit) with
      | some c => .put c .plain
      | none => .fail
    else .pass (.digits (left - 1) (value * 16 + digit))

/-- What a character does, `cs` being the text behind it. -/
def move (q : Quoting) (c : Char) (cs : List Char) : State → Move
  | .plain => q.plainMove c cs
  | .escape => q.escapeMove c cs
  | .digits left value => digitMove left value c
  | .joining broken =>
    if isGap c || isReturn c cs then .pass (.joining broken)
    else if c = '\n' then .pass (.joining true)
    else if broken then q.plainMove c cs
    else .fail

end Quoting

/-- The rest of a string, of which `done` is known, last character first. -/
def readQuotedFrom (q : Quoting) : Quoting.State → (done : List Char) → Reader String
  | _, _, [] => none
  | state, done, c :: cs =>
    match q.move c cs state with
    | .finish last rest => some (String.ofList (done.reverse ++ last), rest)
    | .put c next => readQuotedFrom q next (c :: done) cs
    | .pass next => readQuotedFrom q next done cs
    | .fail => none

/-- The rest of a string behind its opening mark. A line break right behind it does not belong to a
block. -/
def readQuoted (q : Quoting) (cs : List Char) : Option (String × List Char) :=
  readQuotedFrom q .plain [] (if q.block then (lineBreak? cs).getD cs else cs)

/-- A string. -/
def readString : Reader String
  | '"' :: '"' :: '"' :: cs => readQuoted ⟨'"', true⟩ cs
  | '\'' :: '\'' :: '\'' :: cs => readQuoted ⟨'\'', true⟩ cs
  | '"' :: cs => readQuoted ⟨'"', false⟩ cs
  | '\'' :: cs => readQuoted ⟨'\'', false⟩ cs
  | _ => none

/-! ### Keys -/

/-- The characters of a key that is not quoted. -/
def isBare (c : Char) : Bool :=
  c.isAlphanum || c = '_' || c = '-'

/-- A key: a word, or a string between single marks. -/
def readKey : Reader String
  | '"' :: cs => readQuoted ⟨'"', false⟩ cs
  | '\'' :: cs => readQuoted ⟨'\'', false⟩ cs
  | cs =>
    match cs.takeWhile isBare with
    | [] => none
    | word => some (String.ofList word, cs.dropWhile isBare)

/-- Keys nest, and values nest, fewer than this many deep. -/
def depthLimit : Nat := 80

/-- At most `most` keys with dots between them, and with blanks around each. -/
def readKeysUpTo : (most : Nat) → Reader (List String)
  | 0, _ => none
  | most + 1, cs =>
    match readKey (skipGaps cs) with
    | none => none
    | some (key, rest) =>
      match skipGaps rest with
      | '.' :: rest => (readKeysUpTo most rest).map fun (keys, rest) => (key :: keys, rest)
      | rest => some ([key], rest)

/-- Keys with dots between them. -/
def readKeys (cs : List Char) : Option (List String × List Char) :=
  readKeysUpTo (depthLimit - 1) cs

end CodeOutline.Toml
