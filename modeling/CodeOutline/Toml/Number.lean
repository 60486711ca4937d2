import CodeOutline.Number.Numeral
import CodeOutline.Toml.Text
import CodeOutline.Text.Basic

/-!
# TOML numbers and moments

Integers are decimal with a sign, or hexadecimal, octal or binary without one, and fit into 64 bits
with a sign. Underscores may stand between digits. A number with a fraction or an exponent is
rounded to binary64; one that would be positive and infinite is refused.

A moment is a date, a time of day, or both with an offset from UTC. It is checked against the
calendar and written in one form: a `T` between date and time, a capital `Z` for UTC, no zeros at
the end of a fraction.

## Main definitions

* `Toml.readNumber`: an integer, or a number with a fraction or an exponent
* `Toml.readMoment`: a date, a time of day, or both
-/

namespace CodeOutline.Toml

/-! ### Numbers -/

/-- The digits behind a digit. An underscore must stand between two of them. -/
def moreDigits (isDigit : Char → Bool) : (afterScore : Bool) → Reader (List Char)
  | afterScore, [] => if afterScore then none else some ([], [])
  | afterScore, c :: cs =>
    if isDigit c then (moreDigits isDigit false cs).map fun (digits, rest) => (c :: digits, rest)
    else if afterScore then none
    else if c = '_' then moreDigits isDigit true cs
    else some ([], c :: cs)

/-- One digit or more. -/
def readDigits (isDigit : Char → Bool) (cs : List Char) : Option (List Char × List Char) :=
  moreDigits isDigit true cs

/-- The whole digits of a decimal number: nothing follows a zero in front. -/
def readWhole : Reader (List Char)
  | '0' :: cs => some (['0'], cs)
  | cs => readDigits Text.isDigit cs

/-- The sign in front of a number: whether it is negative. -/
def readSign : List Char → Bool × List Char
  | '+' :: cs => (false, cs)
  | '-' :: cs => (true, cs)
  | cs => (false, cs)

/-- Digits behind a decimal point, if there is one. -/
def readPlaces : Reader (Option (List Char))
  | '.' :: cs => (readDigits Text.isDigit cs).map fun (digits, rest) => (some digits, rest)
  | cs => some (none, cs)

/-- An exponent, if there is one. -/
def readExponent : Reader (Option Int)
  | c :: cs =>
    if c = 'e' || c = 'E' then
      let (isNegative, cs) := readSign cs
      (readDigits Text.isDigit cs).map fun (digits, rest) =>
        let n : Int := Numeral.ofDigits 10 digits
        (some (if isNegative then -n else n), rest)
    else some (none, c :: cs)
  | [] => some (none, [])

/-- An integer that fits into 64 bits with a sign. -/
def integer? (n : Int) : Option Toml :=
  if -(Int.pow 2 63) ≤ n ∧ n < Int.pow 2 63 then some (.integer n) else none

/-- A number with a fraction or an exponent. -/
def real? (isNegative : Bool) (digits : List Char) (places : Nat) (exponent : Int) : Option Toml :=
  match Binary64.ofDecimal isNegative (Numeral.ofDigits 10 digits) (exponent - places) with
  | .infinite false => none
  | x => some (.real x)

/-- An integer in another base than ten, behind what announces the base. -/
def readBased (base : Nat) (cs : List Char) : Option (Toml × List Char) := do
  let (digits, rest) ← readDigits (Numeral.isDigitIn base) cs
  return (← integer? (Numeral.ofDigits base digits), rest)

/-- A decimal number behind its sign, `isNegative` telling which. -/
def readDecimal (isNegative : Bool) : Reader Toml
  | 'i' :: 'n' :: 'f' :: cs => some (.real (.infinite isNegative), cs)
  | 'n' :: 'a' :: 'n' :: cs => some (.real .notANumber, cs)
  | cs => do
    let (whole, rest) ← readWhole cs
    let (places, rest) ← readPlaces rest
    let (exponent, rest) ← readExponent rest
    if places.isNone && exponent.isNone then
      let n : Int := Numeral.ofDigits 10 whole
      return (← integer? (if isNegative then -n else n), rest)
    else
      let places := places.getD []
      return (← real? isNegative (whole ++ places) places.length (exponent.getD 0), rest)

/-- A number. -/
def readNumber : Reader Toml
  | '0' :: 'x' :: cs => readBased 16 cs
  | '0' :: 'o' :: cs => readBased 8 cs
  | '0' :: 'b' :: cs => readBased 2 cs
  | cs =>
    let (isNegative, cs) := readSign cs
    readDecimal isNegative cs

/-! ### Moments -/

/-- So many digits. -/
def readFixed (count : Nat) (cs : List Char) : Option (List Char × List Char) :=
  let digits := cs.take count
  if digits.length = count && digits.all Text.isDigit then some (digits, cs.drop count) else none

/-- Two digits that make a number between two bounds. -/
def readBetween (least greatest : Nat) (cs : List Char) : Option (List Char × List Char) := do
  let (digits, rest) ← readFixed 2 cs
  let n := Numeral.ofDigits 10 digits
  if least ≤ n ∧ n ≤ greatest then return (digits, rest) else none

/-- A character that must follow. -/
def expect (c : Char) : List Char → Option (List Char)
  | d :: cs => if c = d then some cs else none
  | [] => none

/-- The number of days of a month. -/
def daysOfMonth (year month : Nat) : Nat :=
  if month = 2 then
    if year % 4 = 0 && (year % 100 ≠ 0 || year % 400 = 0) then 29 else 28
  else if month = 4 || month = 6 || month = 9 || month = 11 then 30
  else 31

/-- A date. -/
def readDate : Reader (List Char) := fun cs => do
  let (year, rest) ← readFixed 4 cs
  let rest ← expect '-' rest
  let (month, rest) ← readBetween 1 12 rest
  let rest ← expect '-' rest
  let days := daysOfMonth (Numeral.ofDigits 10 year) (Numeral.ofDigits 10 month)
  let (day, rest) ← readBetween 1 days rest
  return (year ++ '-' :: month ++ '-' :: day, rest)

/-- The fraction of a second, to nine places, with its point; nothing for a fraction of zero. -/
def readFraction : List Char → List Char × List Char
  | '.' :: cs =>
    match cs.takeWhile Text.isDigit with
    | [] => ([], '.' :: cs)
    | digits =>
      let kept := ((digits.take 9).reverse.dropWhile (· = '0')).reverse
      (if kept.isEmpty then [] else '.' :: kept, cs.dropWhile Text.isDigit)
  | cs => ([], cs)

/-- A time of day. -/
def readTime : Reader (List Char) := fun cs => do
  let (hour, rest) ← readBetween 0 23 cs
  let rest ← expect ':' rest
  let (minute, rest) ← readBetween 0 59 rest
  let rest ← expect ':' rest
  let (second, rest) ← readBetween 0 60 rest
  let (fraction, rest) := readFraction rest
  return (hour ++ ':' :: minute ++ ':' :: second ++ fraction, rest)

/-- An offset of hours and minutes, behind its sign. An offset of nothing has a plus. -/
def readOffset (sign : Char) : Reader (List Char) := fun cs => do
  let (hour, rest) ← readBetween 0 23 cs
  let rest ← expect ':' rest
  let (minute, rest) ← readBetween 0 59 rest
  let isNothing := (hour ++ minute).all (· = '0')
  return ((if isNothing then '+' else sign) :: hour ++ ':' :: minute, rest)

/-- The offset from UTC, if there is one. -/
def readZone : List Char → List Char × List Char
  | [] => ([], [])
  | c :: cs =>
    if c = 'Z' || c = 'z' then (['Z'], cs)
    else if c = '+' || c = '-' then (readOffset c cs).getD ([], c :: cs)
    else ([], c :: cs)

/-- The time that may follow a date. -/
def readTimeOfDate : List Char → List Char × List Char
  | [] => ([], [])
  | c :: cs =>
    if c = 'T' || c = 't' || c = ' ' then
      match readTime cs with
      | some (time, rest) =>
        let (zone, rest) := readZone rest
        ('T' :: time ++ zone, rest)
      | none => ([], c :: cs)
    else ([], c :: cs)

/-- A date, a time of day, or both. -/
def readMoment (cs : List Char) : Option (Toml × List Char) :=
  match readDate cs with
  | some (date, rest) =>
    let (time, rest) := readTimeOfDate rest
    some (.moment (String.ofList (date ++ time)), rest)
  | none => (readTime cs).map fun (time, rest) => (.moment (String.ofList time), rest)

end CodeOutline.Toml
