/-!
# Numerals

Digits and the numbers they make, in any base up to sixteen.

## Main definitions

* `Numeral.digit?`: the value of a hexadecimal digit
* `Numeral.ofDigits`: the number that digits make in a base
-/

namespace CodeOutline.Numeral

/-- The value of a hexadecimal digit, in small or capital letters. -/
def digit? (c : Char) : Option Nat :=
  if '0' ≤ c && c ≤ '9' then some (c.toNat - '0'.toNat)
  else if 'a' ≤ c && c ≤ 'f' then some (c.toNat - 'a'.toNat + 10)
  else if 'A' ≤ c && c ≤ 'F' then some (c.toNat - 'A'.toNat + 10)
  else none

/-- Whether a character is a digit in the base, which is at most sixteen. -/
def isDigitIn (base : Nat) (c : Char) : Bool :=
  (digit? c).any (· < base)

/-- The number that digits make behind a number that was read before them. -/
def ofDigitsFrom (base n : Nat) (cs : List Char) : Nat :=
  cs.foldl (fun n c => n * base + (digit? c).getD 0) n

/-- The number that digits make. -/
def ofDigits (base : Nat) (cs : List Char) : Nat :=
  ofDigitsFrom base 0 cs

end CodeOutline.Numeral
