import CodeOutline.Number.Binary64

/-!
# Shortest decimals

A binary64 number is written with the fewest decimal digits that read back as the same number, and
of several decimals with that many digits by the nearest. All of it is exact arithmetic on natural
numbers: the decimals that read back as `m · 2 ^ q` fill an interval around it, with its ends where
`m` is even, and on the grid of decimals with a given number of places the two neighbours of the
number are the only candidates.

## Main definitions

* `Binary64.shortest`: digits and exponent of the shortest decimal
* `Binary64.pointed`: written with a decimal point, and with an exponent when it is very large or
  very small
* `Binary64.positional`: always written without an exponent
-/

namespace CodeOutline.Binary64

/-- The decimals `d · 10 ^ e` that read back as `m · 2 ^ q`: whether `d · 10 ^ e` is one. -/
def readsBack (m : Nat) (q : Int) (d : Nat) (e : Int) : Bool :=
  let (num, den) := if e ≥ 0 then (d * Nat.pow 10 e.toNat, 1) else (d, Nat.pow 10 (-e).toNat)
  match nearest false num den with
  | .finite _ m' q' => m' == m && q' == q
  | _ => false

/-- The exponent `k` with `10 ^ k ≤ n / d < 10 ^ (k + 1)`, for a positive fraction. -/
def decimalExponent (n d : Nat) : Int :=
  let estimate : Int := (Nat.toDigits 10 n).length - (Nat.toDigits 10 d).length
  let (a, b) :=
    if estimate ≥ 0 then (n, d * Nat.pow 10 estimate.toNat)
    else (n * Nat.pow 10 (-estimate).toNat, d)
  if a < b then estimate - 1 else estimate

/-- The decimals with places down to `10 ^ e` next to `n / d` below and above, the nearer first, and
whether they are equally near. -/
def neighbours (n d : Nat) (e : Int) : Nat × Nat × Bool :=
  let (a, b) := if e ≥ 0 then (n, d * Nat.pow 10 e.toNat) else (n * Nat.pow 10 (-e).toNat, d)
  let below := a / b
  let rest := a % b
  if 2 * rest < b then (below, below + 1, false)
  else if 2 * rest > b then (below + 1, below, false)
  else if below % 2 = 0 then (below, below + 1, true) else (below + 1, below, true)

/-- Tries decimals with more and more digits. -/
def shortestFrom (m : Nat) (q : Int) : (attempts : Nat) → (e : Int) → Nat × Int
  | 0, e =>
    let (n, d) := fraction m q
    ((neighbours n d e).1, e)
  | attempts + 1, e =>
    let (n, d) := fraction m q
    let (nearer, farther, _) := neighbours n d e
    if readsBack m q nearer e then (nearer, e)
    else if readsBack m q farther e then (farther, e)
    else shortestFrom m q attempts (e - 1)

/-- Takes zeros off the end of a decimal. -/
def stripZeros : (steps : Nat) → Nat → Int → Nat × Int
  | 0, d, e => (d, e)
  | steps + 1, d, e => if d % 10 = 0 ∧ d ≠ 0 then stripZeros steps (d / 10) (e + 1) else (d, e)

/-- Digits `d` and exponent `e` of the shortest decimal `d · 10 ^ e` that reads back as
`m · 2 ^ q`, for `m` other than zero. Seventeen digits are always enough. -/
def shortest (m : Nat) (q : Int) : Nat × Int :=
  let (n, d) := fraction m q
  let (digits, e) := shortestFrom m q 16 (decimalExponent n d)
  stripZeros 17 digits e

/-- The digits of `d · 10 ^ e` around the decimal point, with at least one on either side. -/
def positionalDigits (d : Nat) (e : Int) : String :=
  let digits := Nat.toDigits 10 d
  if e ≥ 0 then String.ofList (digits ++ List.replicate e.toNat '0') ++ ".0"
  else
    let places := (-e).toNat
    if digits.length > places then
      String.ofList (digits.take (digits.length - places)) ++ "."
        ++ String.ofList (digits.drop (digits.length - places))
    else "0." ++ String.ofList (List.replicate (places - digits.length) '0' ++ digits)

/-- The digits of `d · 10 ^ e` with one before the decimal point, and an exponent. -/
def exponentDigits (d : Nat) (e : Int) : String :=
  let digits := Nat.toDigits 10 d
  let exponent := e + digits.length - 1
  match digits with
  | [] => "0.0"
  | [digit] => String.ofList [digit, 'e'] ++ toString exponent
  | digit :: more => String.ofList [digit, '.'] ++ String.ofList more ++ "e" ++ toString exponent

/-- The sign, written only when it is negative. -/
def sign (negative : Bool) : String :=
  if negative then "-" else ""

/-- A number with a decimal point; below `10 ^ -5` and from `10 ^ 16` on with an exponent. -/
def pointed : Binary64 → String
  | .finite negative m q =>
    sign negative ++
      if m = 0 then "0.0"
      else
        let (d, e) := shortest m q
        let magnitude := e + (Nat.toDigits 10 d).length
        if -5 < magnitude ∧ magnitude ≤ 16 then positionalDigits d e else exponentDigits d e
  | .infinite negative => sign negative ++ "inf"
  | .notANumber => "NaN"

/-- A number with a decimal point and without an exponent. -/
def positional : Binary64 → String
  | .finite negative m q =>
    sign negative ++
      if m = 0 then "0.0"
      else
        let (d, e) := shortest m q
        positionalDigits d e
  | .infinite negative => sign negative ++ "inf"
  | .notANumber => "NaN"

end CodeOutline.Binary64
