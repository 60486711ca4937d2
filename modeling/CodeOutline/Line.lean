import CodeOutline.Statement.Grammar

/-!
# Lines

What a single line of an outline says, whatever blanks stand around it. Blank lines and lines that
hold nothing but one or two marker characters are let pass: the latter are what an editor sends
while a line is being typed. Every other line is a statement or an error.

## Main definitions

* `Line`: what a line says
* `LineError`: why a line says nothing, and `LineError.message`: how that is said
* `Line.isIncomplete`: the line is a marker that is still being typed
* `Line.read`: what a line says, or why it says nothing
-/

namespace CodeOutline

/-- What a line of an outline says. -/
inductive Line where
  | blank
  | incomplete
  | statement (statement : Statement)
deriving DecidableEq, Repr

/-- Why a line says nothing. -/
inductive LineError where
  /-- from `column` on, counted in bytes from one, the line holds no tokens but `text` -/
  | unexpectedInput (text : String) (column : Nat)
  /-- the tokens of the line are no statement -/
  | noStatement (cause : StatementError)
deriving DecidableEq, Repr

/-- The cause of a line's failure in words. -/
def LineError.reason : LineError → String
  | .unexpectedInput text column =>
    "unexpected input '" ++ text ++ "' at column " ++ toString column
  | .noStatement cause => cause.message

/-- The failure of a line as a message. -/
def LineError.message (error : LineError) : String :=
  "syntax error: " ++ error.reason

namespace Line

/-- The characters of an incomplete line. -/
def isMarkerChar (c : Char) : Bool :=
  c == '$' || c == '%' || c == '@' || c == '#' || c == '!'

/-- The line holds one or two marker characters and nothing else. -/
def isIncomplete (line : String) : Bool :=
  let text := Text.trim line.toList
  (text.length == 1 || text.length == 2) && text.all isMarkerChar

/-- What a line says. Blanks at its ends do not count, and columns are counted without them. -/
def read (line : String) : Except LineError Line :=
  let text := String.ofList (Text.trim line.toList)
  if text.isEmpty then .ok .blank
  else if isIncomplete line then .ok .incomplete
  else
    let lexemes := Lexeme.ofLine text
    match lexemes.getLast? with
    | some ⟨.content rest, start, _⟩ => .error (.unexpectedInput rest (start + 1))
    | _ =>
      match Statement.ofLexemes lexemes with
      | .ok stated => .ok (.statement stated)
      | .error cause => .error (.noStatement cause)

end Line

end CodeOutline
