import CodeOutline.Statement
import CodeOutline.Token.Lexer

/-!
# The grammar of a line

The first lexeme of a line decides what the line can be. A slash opens a directory; the markers of
components, functions, references and notes carry the whole statement; a piece of a file name opens
a file if another piece follows, and else, if it is a name, an assignment. The pieces of a file name
must touch, which is why the grammar reads lexemes and not only tokens.

A line that fails is reported at the lexeme furthest to the right that some kind of statement got
to, and with the complaint of that kind of statement.

## Main definitions

* `StatementError`: why a line is no statement, and `StatementError.message`: how that is said
* `Statement.ofLexemes`: the statement a line of lexemes makes
-/

namespace CodeOutline

/-- What is wrong with pieces that do not make up a file name. -/
inductive FileNameFault where
  | spaces
  | leadingDot
  | unknownExtension
deriving DecidableEq, Repr

/-- Why a line of lexemes is no statement. -/
inductive StatementError where
  /-- there is no lexeme at all -/
  | empty
  /-- no statement starts with this token -/
  | noStart (found : Token)
  /-- a directory needs a name -/
  | noName (found : Token)
  /-- an assignment needs a value -/
  | noValue (found : Token)
  /-- the pieces, put together as `name`, are not a file name -/
  | fileName (name : String) (fault : FileNameFault)
  /-- the statement was complete, or wanted something else -/
  | unexpected (found : Token)
  /-- the line ends too early -/
  | unfinished
deriving DecidableEq, Repr

/-- The complaint about pieces put together as `name`. -/
def FileNameFault.message (name : String) : FileNameFault → String
  | .spaces => "file name '" ++ name ++ "' cannot contain spaces"
  | .leadingDot => "file name '" ++ name ++ "' must not start with a dot"
  | .unknownExtension => "'" ++ name ++ "' does not end in a known file extension"

/-- The complaint about a line. -/
def StatementError.message : StatementError → String
  | .empty => "empty statement"
  | .noStart found => "expected a note, found '" ++ found.text ++ "'"
  | .noName found => "expected a name, found '" ++ found.text ++ "'"
  | .noValue found => "expected a value after '=', found '" ++ found.text ++ "'"
  | .fileName name fault => fault.message name
  | .unexpected found => "unexpected '" ++ found.text ++ "'"
  | .unfinished => "unexpected end of line"

namespace Statement

/-- The complaint that something else should stand here than what remains of the line. -/
def refuse : List Lexeme → StatementError
  | [] => .unfinished
  | lexeme :: _ => .unexpected lexeme.token

/-- A complete statement, if nothing remains of the line. -/
def finish (statement : Statement) : List Lexeme → Except StatementError Statement
  | [] => .ok statement
  | rest => .error (refuse rest)

/-- A directory, read behind its slash: a name, and perhaps another slash. -/
def readDirectory : List Lexeme → Except StatementError Statement
  | [] => .error .unfinished
  | lexeme :: rest =>
    match lexeme.token.name? with
    | none => .error (.noName lexeme.token)
    | some name =>
      match rest with
      | [] => finish (.directory name) []
      | second :: more =>
        if second.token = .slash then finish (.directory name) more
        else finish (.directory name) (second :: more)

/-- Each lexeme starts where the one before it stops. -/
def touching : List Lexeme → Bool
  | a :: b :: rest => a.stop == b.start && touching (b :: rest)
  | _ => true

/-- The text of the lexemes, put together. -/
def joinedText (parts : List Lexeme) : String :=
  parts.foldr (fun lexeme text => lexeme.token.text ++ text) ""

/-- The extension a token names, if it is a known one. -/
def extension? : Token → Option String
  | .extension word => if fileExtensions.contains word then some word else none
  | _ => none

/-- A token that makes a dot the first character. -/
def startsWithDot : Token → Bool
  | .dot | .extension _ => true
  | _ => false

/-- The file that pieces of a file name make up: they must touch, and lead from something other than
a dot to a known extension. -/
def readFile (first : Lexeme) (others : List Lexeme) : Except StatementError Statement :=
  let name := joinedText (first :: others)
  if !touching (first :: others) then .error (.fileName name .spaces)
  else if startsWithDot first.token then .error (.fileName name .leadingDot)
  else match extension? ((first :: others).getLast (List.cons_ne_nil _ _)).token with
    | some extension => .ok (.file name extension)
    | none => .error (.fileName name .unknownExtension)

/-- An assignment, read behind its name: an equals sign and a value. -/
def readAssignment (name : String) : List Lexeme → Except StatementError Statement
  | [] => .error .unfinished
  | sign :: rest =>
    if sign.token = .equals then
      match rest with
      | [] => .error .unfinished
      | lexeme :: more =>
        match lexeme.token.value? with
        | some value => finish (.assignment name value) more
        | none => .error (.noValue lexeme.token)
    else .error (.unexpected sign.token)

/-- What opens with a piece of a file name: a file if more pieces follow, else an assignment if the
piece is a name. -/
def readNamed (first : Lexeme) (rest : List Lexeme) : Except StatementError Statement :=
  match rest.takeWhile (·.token.isFileNamePart) with
  | [] =>
    match first.token.name? with
    | some name => readAssignment name rest
    | none => .error (refuse rest)
  | others =>
    match readFile first others with
    | .ok statement => finish statement (rest.dropWhile (·.token.isFileNamePart))
    | .error error => .error error

/-- The statement a line of lexemes makes. -/
def ofLexemes : List Lexeme → Except StatementError Statement
  | [] => .error .empty
  | first :: rest =>
    match first.token with
    | .slash => readDirectory rest
    | .component name => finish (.component name) rest
    | .function name => finish (.function name) rest
    | .reference name => finish (.reference name) rest
    | .note text => finish (.note text) rest
    | token =>
      if token.isFileNamePart then readNamed first rest
      else .error (.noStart token)

end Statement

end CodeOutline
