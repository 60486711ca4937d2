import CodeOutline.Json
import CodeOutline.Number.Numeral
import CodeOutline.Text.Basic

/-!
# Reading JSON

The grammar of JSON, without extensions. Reading never fails: where a text goes wrong, the value
gets a `broken` part and reading ends there. A number is read digit by digit into 64 bits; what does
not fit is dropped and counted in the exponent, and the number is then scaled by a single product or
quotient with a power of ten. Beyond fifteen digits the result can therefore differ from the nearest
binary64 number in its last place.

## Main definitions

* `Json.readValue`: a value at the start of a text, and what follows it
* `Json.read`: the value a text consists of, and whether something follows it
-/

namespace CodeOutline.Json

/-- The characters between the parts of a JSON text. -/
def isSpace (c : Char) : Bool :=
  c == ' ' || c == '\n' || c == '\t' || c == '\r'

/-- The text without the space in front of it. -/
def skipSpace (cs : List Char) : List Char :=
  cs.dropWhile isSpace

/-- What reading yields: a value, and the rest of the text unless it went wrong. -/
abbrev Reading (α : Type) := α × Option (List Char)

/-! ### Strings -/

/-- The number four hexadecimal digits make. -/
def hexFour? (a b c d : Char) : Option Nat :=
  if [a, b, c, d].all (Numeral.isDigitIn 16) then some (Numeral.ofDigits 16 [a, b, c, d]) else none

/-- The character that a letter stands for behind a backslash. -/
def escaped? (c : Char) : Option Char :=
  if c == '"' || c == '\\' || c == '/' then some c
  else if c == 'b' then some '\x08'
  else if c == 'f' then some '\x0C'
  else if c == 'n' then some '\n'
  else if c == 'r' then some '\r'
  else if c == 't' then some '\t'
  else none

/-- The second half of a surrogate pair, written as an escape at the start of a text. -/
def lowHalf? : List Char → Option (Nat × List Char)
  | '\\' :: 'u' :: a :: b :: c :: d :: cs =>
    match hexFour? a b c d with
    | some low => if 0xDC00 ≤ low && low ≤ 0xDFFF then some (low, cs) else none
    | none => none
  | _ => none

theorem length_lt_of_lowHalf? {cs rest : List Char} {low : Nat}
    (h : lowHalf? cs = some (low, rest)) : rest.length < cs.length := by
  unfold lowHalf? at h
  split at h
  · split at h
    · split at h
      · simp only [Option.some.injEq, Prod.mk.injEq] at h
        obtain ⟨_, rfl⟩ := h
        simp only [List.length_cons]
        omega
      · simp at h
    · simp at h
  · simp at h

/-- The rest of a string behind its opening quote. The string so far is `done`, last character
first, and is absent once it has become unreadable. -/
def readString (done : Option (List Char)) (cs : List Char) : Reading (Option String) :=
  match cs with
  | [] => (none, none)
  | '"' :: cs => (done.map fun cs => String.ofList cs.reverse, some cs)
  | '\\' :: 'u' :: a :: b :: c :: d :: cs =>
    match hexFour? a b c d with
    | none => (none, none)
    | some n =>
      if 0xD800 ≤ n && n ≤ 0xDBFF then
        match _h : lowHalf? cs with
        | some (low, rest) =>
          let c := Char.ofNat (0x10000 + (n - 0xD800) * 0x400 + (low - 0xDC00))
          readString (done.map (c :: ·)) rest
        | none => readString none cs
      else if 0xDC00 ≤ n && n ≤ 0xDFFF then readString none cs
      else readString (done.map (Char.ofNat n :: ·)) cs
  | '\\' :: c :: cs =>
    match escaped? c with
    | some c => readString (done.map (c :: ·)) cs
    | none => (none, none)
  | c :: cs =>
    if c.toNat < 0x20 || c == '\\' then (none, none) else readString (done.map (c :: ·)) cs
termination_by cs.length
decreasing_by
  all_goals simp only [List.length_cons]
  all_goals try omega
  have := length_lt_of_lowHalf? _h
  omega

/-! ### Numbers -/

/-- The largest natural number of 64 bits. -/
def largestNatural : Nat := Nat.pow 2 64 - 1

/-- Appends digits to a number while it fits into 64 bits; the digits left over. -/
def absorbDigits (n : Nat) : List Char → Nat × List Char
  | [] => (n, [])
  | c :: cs =>
    let next := n * 10 + (c.toNat - '0'.toNat)
    if next > largestNatural then (n, c :: cs) else absorbDigits next cs

/-- The binary64 number for `n · 10 ^ e`; absent when it is too large. -/
def scaled? (n : Nat) (e : Int) : Option Binary64 :=
  let power (k : Nat) : Binary64 := Binary64.nearest false (Nat.pow 10 k) 1
  let x := Binary64.ofNat n
  if e ≥ 0 then
    if e > 308 then (if n = 0 then some x else none)
    else match x.mul (power e.toNat) with
      | .infinite _ => none
      | product => some product
  else if e ≥ -308 then some (x.div (power (-e).toNat))
  else if e ≥ -616 then some ((x.div (power 308)).div (power (-e - 308).toNat))
  else some (.finite false 0 (-1074))

/-- The number written as `whole.fraction` with exponent `exponent`, the last two absent if they are
not written. -/
def numberOf (negative : Bool) (whole : List Char) (fraction : Option (List Char))
    (exponent : Option Int) : Option Number :=
  let (n, dropped) := absorbDigits 0 whole
  if fraction.isNone && exponent.isNone && dropped.isEmpty
      && (!negative || (0 < n && n ≤ Nat.pow 2 63)) then
    some (if negative then .negative n else .natural n)
  else
    let places := fraction.getD []
    let (n, left) := absorbDigits n places
    let e : Int := dropped.length - (places.length - left.length : Nat)
    let value :=
      match exponent with
      | none => scaled? n e
      | some x =>
        if x > 2147483647 then (if n = 0 then some (.finite false 0 (-1074)) else none)
        else if x < -2147483647 then some (.finite false 0 (-1074))
        else scaled? n (e + x)
    value.map fun x => .real (if negative then x.neg else x)

/-- An exponent behind its letter. -/
def readExponent (cs : List Char) : Option (Int × List Char) :=
  let (negative, cs) :=
    match cs with
    | '+' :: cs => (false, cs)
    | '-' :: cs => (true, cs)
    | cs => (false, cs)
  match cs.takeWhile Text.isDigit with
  | [] => none
  | digits =>
    let n : Int := Numeral.ofDigits 10 digits
    some (if negative then -n else n, cs.dropWhile Text.isDigit)

/-- The part of a number from its exponent's letter on, if there is one. -/
def readNumberEnd (negative : Bool) (whole : List Char) (fraction : Option (List Char))
    (cs : List Char) : Reading Json :=
  let value (exponent : Option Int) : Json :=
    match numberOf negative whole fraction exponent with
    | some n => .number n
    | none => .unreadable
  match cs with
  | c :: rest =>
    if c == 'e' || c == 'E' then
      match readExponent rest with
      | some (x, rest) => (value (some x), some rest)
      | none => (.broken, none)
    else (value none, some (c :: rest))
  | [] => (value none, some [])

/-- The part of a number behind its whole digits. -/
def readFraction (negative : Bool) (whole : List Char) (cs : List Char) : Reading Json :=
  match cs with
  | '.' :: rest =>
    match rest.takeWhile Text.isDigit with
    | [] => (.broken, none)
    | digits => readNumberEnd negative whole (some digits) (rest.dropWhile Text.isDigit)
  | cs => readNumberEnd negative whole none cs

/-- A number behind its sign. A zero in front is followed by no other digit. -/
def readNumber (negative : Bool) (cs : List Char) : Reading Json :=
  match cs.takeWhile Text.isDigit with
  | [] => (.broken, none)
  | '0' :: _ :: _ => (.broken, none)
  | whole => readFraction negative whole (cs.dropWhile Text.isDigit)

/-! ### Values -/

/-- A word behind its first letter, of which `rest` is still to come. -/
def readWord (value : Json) (rest : List Char) (cs : List Char) : Reading Json :=
  if rest.isPrefixOf cs then (value, some (cs.drop rest.length)) else (.broken, none)

mutual

/-- A value at the start of a text. Every step of the reader takes at least one character, so as
many steps as there are characters, and one more, are enough. -/
def readValue : (steps : Nat) → List Char → Reading Json
  | 0, _ => (.broken, none)
  | steps + 1, cs =>
    match skipSpace cs with
    | [] => (.broken, none)
    | '"' :: cs =>
      match readString (some []) cs with
      | (some s, rest) => if rest.isSome then (.string s, rest) else (.broken, none)
      | (none, some rest) => (.unreadable, some rest)
      | (none, none) => (.broken, none)
    | '[' :: cs =>
      match skipSpace cs with
      | ']' :: rest => (.array [], some rest)
      | cs =>
        let (items, rest) := readItems steps cs
        (.array items, rest)
    | '{' :: cs =>
      match skipSpace cs with
      | '}' :: rest => (.object [], some rest)
      | cs =>
        let (members, rest) := readMembers steps cs
        (.object members, rest)
    | 'n' :: cs => readWord .null ['u', 'l', 'l'] cs
    | 't' :: cs => readWord (.bool true) ['r', 'u', 'e'] cs
    | 'f' :: cs => readWord (.bool false) ['a', 'l', 's', 'e'] cs
    | '-' :: cs => readNumber true cs
    | c :: cs => if Text.isDigit c then readNumber false (c :: cs) else (.broken, none)

/-- The items of an array up to its closing bracket; the first must be there. -/
def readItems : (steps : Nat) → List Char → Reading (List Json)
  | 0, _ => ([.broken], none)
  | steps + 1, cs =>
    match readValue steps cs with
    | (item, none) => ([item], none)
    | (item, some rest) =>
      match skipSpace rest with
      | ']' :: rest => ([item], some rest)
      | ',' :: rest =>
        let (items, rest) := readItems steps rest
        (item :: items, rest)
      | _ => ([item, .broken], none)

/-- The members of an object up to its closing brace; the first must be there. -/
def readMembers : (steps : Nat) → List Char → Reading (List (Option String × Json))
  | 0, _ => ([(none, .broken)], none)
  | steps + 1, cs =>
    match skipSpace cs with
    | '"' :: cs =>
      match readString (some []) cs with
      | (_, none) => ([(none, .broken)], none)
      | (name, some rest) =>
        match skipSpace rest with
        | ':' :: rest =>
          match readValue steps rest with
          | (value, none) => ([(name, value)], none)
          | (value, some rest) =>
            match skipSpace rest with
            | '}' :: rest => ([(name, value)], some rest)
            | ',' :: rest =>
              let (members, rest) := readMembers steps rest
              ((name, value) :: members, rest)
            | _ => ([(name, value), (none, .broken)], none)
        | _ => ([(name, .broken)], none)
    | _ => ([(none, .broken)], none)

end

/-- The value a text consists of, and whether the text holds that value and nothing else. -/
def read (text : String) : Json × Bool :=
  let cs := text.toList
  match readValue (cs.length + 1) cs with
  | (value, none) => (value, false)
  | (value, some rest) => (value, (skipSpace rest).isEmpty)

end CodeOutline.Json
