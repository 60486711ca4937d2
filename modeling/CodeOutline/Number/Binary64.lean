/-!
# Binary numbers of 64 bits

Numbers with a fraction are kept as binary64 numbers, here as an exact pair: a finite number is
`m · 2 ^ q` with `m < 2 ^ 53` and `-1074 ≤ q ≤ 971`, and `m` is at least `2 ^ 52` unless `q` is the
least exponent. Every operation is the exact one followed by `Binary64.nearest`, which goes to the
nearest such number and, halfway between two, to the one with an even `m`.

## Main definitions

* `Binary64`: the finite numbers, the two infinities and the number that is none
* `Binary64.nearest`: the binary64 number nearest to a fraction
* `Binary64.mul`, `Binary64.div`: product and quotient of magnitudes
* `Binary64.roundNat`: the nearest natural number, a half going up
-/

namespace CodeOutline

/-- A binary64 number; the finite ones are `m · 2 ^ q`, or `-(m · 2 ^ q)` if `negative`. -/
inductive Binary64 where
  | finite (negative : Bool) (m : Nat) (q : Int)
  | infinite (negative : Bool)
  | notANumber
deriving DecidableEq, Repr

namespace Binary64

/-- The quotient rounded to the nearest natural number, a half to the even one. -/
def roundHalfEven (num den : Nat) : Nat :=
  let floor := num / den
  let rest := num % den
  if 2 * rest < den then floor
  else if 2 * rest > den then floor + 1
  else if floor % 2 = 0 then floor else floor + 1

/-- `num / den` as a fraction of units `2 ^ q`. -/
def inUnits (num den : Nat) (q : Int) : Nat × Nat :=
  if q ≥ 0 then (num, den * Nat.pow 2 q.toNat) else (num * Nat.pow 2 (-q).toNat, den)

/-- The exponent of the highest binary digit of `num / den`. -/
def leadingExponent (num den : Nat) : Int :=
  let estimate : Int := (Nat.log2 num : Int) - (Nat.log2 den : Int)
  let (n, d) := inUnits num den estimate
  if n < d then estimate - 1 else estimate

/-- The binary64 number nearest to `num / den`; infinite when it would be too large. -/
def nearest (negative : Bool) (num den : Nat) : Binary64 :=
  if num = 0 ∨ den = 0 then .finite negative 0 (-1074)
  else
    let q := max (leadingExponent num den - 52) (-1074)
    let (n, d) := inUnits num den q
    let m := roundHalfEven n d
    let (m, q) := if m = Nat.pow 2 53 then (Nat.pow 2 52, q + 1) else (m, q)
    if q > 971 then .infinite negative else .finite negative m q

/-- The binary64 number nearest to a natural number. -/
def ofNat (n : Nat) : Binary64 :=
  nearest false n 1

/-- The binary64 number nearest to `n · 10 ^ e`. -/
def ofDecimal (negative : Bool) (n : Nat) (e : Int) : Binary64 :=
  let digits := (Nat.toDigits 10 n).length
  if n = 0 then .finite negative 0 (-1074)
  else if e + digits > 400 then .infinite negative
  else if e + digits < -400 then .finite negative 0 (-1074)
  else if e ≥ 0 then nearest negative (n * Nat.pow 10 e.toNat) 1
  else nearest negative n (Nat.pow 10 (-e).toNat)

/-- The magnitude of a finite number as a fraction. -/
def fraction (m : Nat) (q : Int) : Nat × Nat :=
  if q ≥ 0 then (m * Nat.pow 2 q.toNat, 1) else (m, Nat.pow 2 (-q).toNat)

/-- The product of two numbers. -/
def mul : Binary64 → Binary64 → Binary64
  | .finite s m q, .finite t n r =>
    let (a, b) := fraction m q
    let (c, d) := fraction n r
    nearest (s != t) (a * c) (b * d)
  | .notANumber, _ | _, .notANumber => .notANumber
  | .infinite s, .infinite t => .infinite (s != t)
  | .infinite s, .finite t n _ => if n = 0 then .notANumber else .infinite (s != t)
  | .finite s m _, .infinite t => if m = 0 then .notANumber else .infinite (s != t)

/-- The quotient of two numbers; a number over zero is infinite. -/
def div : Binary64 → Binary64 → Binary64
  | .finite s m q, .finite t n r =>
    let (a, b) := fraction m q
    let (c, d) := fraction n r
    if n = 0 then (if m = 0 then .notANumber else .infinite (s != t))
    else nearest (s != t) (a * d) (b * c)
  | .notANumber, _ | _, .notANumber => .notANumber
  | .infinite _, .infinite _ => .notANumber
  | .infinite s, .finite t _ _ => .infinite (s != t)
  | .finite s _ _, .infinite t => .finite (s != t) 0 (-1074)

/-- The number with the other sign. -/
def neg : Binary64 → Binary64
  | .finite s m q => .finite (!s) m q
  | .infinite s => .infinite (!s)
  | .notANumber => .notANumber

/-- Zero, of either sign. -/
def isZero : Binary64 → Bool
  | .finite _ m _ => m == 0
  | _ => false

/-- The nearest natural number up to `limit`, a half going up. What is below zero, and what is no
number, becomes zero. -/
def roundNat (limit : Nat) : Binary64 → Nat
  | .finite negative m q =>
    let (n, d) := fraction m q
    if negative then 0 else min ((2 * n + d) / (2 * d)) limit
  | .infinite negative => if negative then 0 else limit
  | .notANumber => 0

end Binary64

end CodeOutline
