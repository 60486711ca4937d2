import CodeOutline.Command

/-!
# Arguments

The arguments of the command line are a command and its operands, and options before or behind the
command. An option has a long name behind two dashes and perhaps a letter behind one; its value is
the next argument, or follows an equals sign or the letter. Two dashes alone end the options. Behind
the command an option may be given once more, and then counts instead.

## Main definitions

* `Arguments.Request`: what arguments ask for
* `UsageError`: what is wrong with arguments, and `UsageError.message`: how that is said
* `Arguments.read`: what arguments ask for, or what is wrong with them
-/

namespace CodeOutline

/-- What is wrong with arguments. -/
inductive UsageError where
  | missingCommand
  | unknownCommand (name : String)
  | missingOperand
  | surplusOperand (operand : String)
  | unknownOption (argument : String)
  | missingValue (argument : String)
  /-- an option that takes no value has one -/
  | surplusValue (argument : String)
  | repeatedOption (argument : String)
  | unknownFormat (name : String)
deriving DecidableEq, Repr

/-- The error in words. -/
def UsageError.message : UsageError → String
  | .missingCommand => "a command is required"
  | .unknownCommand name => "unknown command '" ++ name ++ "'"
  | .missingOperand => "an operand is missing"
  | .surplusOperand operand => "unexpected operand '" ++ operand ++ "'"
  | .unknownOption argument => "unknown option '" ++ argument ++ "'"
  | .missingValue argument => "a value is required for '" ++ argument ++ "'"
  | .surplusValue argument => "'" ++ argument ++ "' takes no value"
  | .repeatedOption argument => "'" ++ argument ++ "' was given more than once"
  | .unknownFormat name => "unknown output format '" ++ name ++ "', expected text or json"

namespace Arguments

/-- What arguments ask for. -/
inductive Request where
  | run (invocation : Invocation)
  | version
  | help
deriving DecidableEq, Repr

/-! ### Options -/

/-- The options. -/
inductive Switch where
  | config
  | format
  | logLevel
  | help
  | version
deriving DecidableEq, Repr

/-- The option takes a value. -/
def Switch.takesValue : Switch → Bool
  | .config | .format | .logLevel => true
  | .help | .version => false

/-- The option with a long name. -/
def Switch.ofLong? (name : String) : Option Switch :=
  [("config", Switch.config), ("format", .format), ("log-level", .logLevel), ("help", .help),
    ("version", .version)].lookup name

/-- The option with a letter. -/
def Switch.ofLetter? (letter : Char) : Option Switch :=
  [('c', Switch.config), ('f', .format), ('h', .help), ('V', .version)].lookup letter

/-- What an argument is. -/
inductive Shape where
  /-- two dashes alone -/
  | dashes
  /-- an option, perhaps with a value -/
  | switch (switch : Switch) (value : Option String)
  /-- an option that does not exist -/
  | unknown
  | operand

/-- A value behind an equals sign, if there is one. -/
def attached : List Char → Option String
  | '=' :: value => some (String.ofList value)
  | _ => none

/-- An option by its letter. What follows the letter is its value, or means nothing for one that
takes none. -/
def shapeOfLetter (letter : Char) (rest : List Char) : Shape :=
  match Switch.ofLetter? letter with
  | none => .unknown
  | some switch =>
    if rest.isEmpty || !switch.takesValue then .switch switch none
    else .switch switch (some ((attached rest).getD (String.ofList rest)))

/-- What an argument is. A dash alone is an operand. -/
def Shape.of (argument : String) : Shape :=
  match argument.toList with
  | ['-', '-'] => .dashes
  | '-' :: '-' :: cs =>
    match Switch.ofLong? (String.ofList (cs.takeWhile (· != '='))) with
    | some found => .switch found (attached (cs.dropWhile (· != '=')))
    | none => .unknown
  | '-' :: letter :: rest => shapeOfLetter letter rest
  | _ => .operand

/-- The options given before the command, or behind it. -/
structure Options where
  config : Option String
  format : Option OutputFormat
  logLevel : Option String
deriving DecidableEq, Repr

namespace Options

/-- No options. -/
def none : Options := ⟨.none, .none, .none⟩

/-- Fills an option that must not be filled before. -/
def fill {α : Type} (argument : String) (value : α) : Option α → Except UsageError (Option α)
  | .none => .ok (some value)
  | some _ => .error (.repeatedOption argument)

/-- Gives an option its value. Options without a value have no place here. -/
def set (options : Options) (argument : String) (switch : Switch) (value : String) :
    Except UsageError Options :=
  match switch with
  | .config => do return { options with config := ← fill argument value options.config }
  | .logLevel => do return { options with logLevel := ← fill argument value options.logLevel }
  | .format =>
    match OutputFormat.ofLabel? value with
    | .none => .error (.unknownFormat value)
    | some format => do return { options with format := ← fill argument format options.format }
  | .help | .version => .ok options

/-- The options behind the command count, where they are given, before those in front of it. -/
def overriding (behind front : Options) : Options :=
  ⟨behind.config <|> front.config, behind.format <|> front.format,
    behind.logLevel <|> front.logLevel⟩

end Options

/-- What stands in front of the command: options up to the command, with the arguments behind it, or
an option that is a request of its own. -/
inductive Front where
  | command (options : Options) (name : String) (rest : List String)
  | request (request : Request)

/-- Whether an argument can be the value of the option in front of it: it does not look like an
option itself. -/
def canBeValue (argument : String) : Bool :=
  match Shape.of argument with
  | .operand => true
  | _ => false

/-- Reads the arguments up to the command. -/
def readFront (options : Options) : List String → Except UsageError Front
  | [] => .error .missingCommand
  | argument :: rest =>
    match Shape.of argument with
    | .operand => .ok (.command options argument rest)
    | .dashes => .error (match rest with
      | [] => .missingCommand
      | name :: _ => .unknownCommand name)
    | .unknown => .error (.unknownOption argument)
    | .switch switch value =>
      if switch.takesValue then
        match value, rest with
        | some value, rest => do readFront (← options.set argument switch value) rest
        | none, value :: rest =>
          if canBeValue value then do readFront (← options.set argument switch value) rest
          else .error (.missingValue argument)
        | none, [] => .error (.missingValue argument)
      else if value.isSome then .error (.surplusValue argument)
      else .ok (.request (if switch = .help then .help else .version))

/-- The arguments behind a command: options and at most `count` operands, or a request for help. -/
def readBehind (count : Nat) (options : Options) (operands : List String) : List String →
    Except UsageError (Option (Options × List String))
  | [] => .ok (some (options, operands))
  | argument :: rest =>
    match Shape.of argument with
    | .operand =>
      if operands.length < count then readBehind count options (operands ++ [argument]) rest
      else .error (.surplusOperand argument)
    | .dashes =>
      match (operands ++ rest)[count]? with
      | some surplus => .error (.surplusOperand surplus)
      | none => .ok (some (options, operands ++ rest))
    | .unknown => .error (.unknownOption argument)
    | .switch switch value =>
      if switch.takesValue then
        match value, rest with
        | some value, rest => do
          readBehind count (← options.set argument switch value) operands rest
        | none, value :: rest =>
          if canBeValue value then do
            readBehind count (← options.set argument switch value) operands rest
          else .error (.missingValue argument)
        | none, [] => .error (.missingValue argument)
      else if switch = .version then .error (.unknownOption argument)
      else if value.isSome then .error (.surplusValue argument)
      else .ok none

/-! ### Commands -/

/-- The commands by name, with the number of their operands. -/
def commands : List (String × Nat) :=
  [("check", 1), ("tree", 1), ("diff", 2)]

/-- A command with its operands. -/
def command? : String → List String → Option Command
  | "check", [path] => some (.check path)
  | "tree", [path] => some (.tree path)
  | "diff", [old, new] => some (.diff old new)
  | _, _ => none

/-- The request for help, on a command if one is named. -/
def readHelp : List String → Except UsageError Request
  | [] => .ok .help
  | [name] =>
    if name = "help" || (commands.lookup name).isSome then .ok .help
    else .error (.unknownCommand name)
  | _ :: name :: _ => .error (.unknownCommand name)

/-- What arguments ask for. -/
def read (arguments : List String) : Except UsageError Request := do
  match ← readFront .none arguments with
  | .request request => return request
  | .command front name rest =>
    match commands.lookup name with
    | none => if name = "help" then readHelp rest else .error (.unknownCommand name)
    | some count =>
      match ← readBehind count .none [] rest with
      | none => return .help
      | some (behind, operands) =>
        match command? name operands with
        | none => .error .missingOperand
        | some command =>
          let options := behind.overriding front
          return .run ⟨options.config, options.format, command⟩

end Arguments

end CodeOutline
