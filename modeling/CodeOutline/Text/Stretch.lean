/-!
# Sets of code points

The character properties of the Unicode standard are sets of code points with few gaps, and where
capital and small letters alternate, with every second code point. A `Stretch` is such a run, and a
property is a list of them in increasing order.

## Main definitions

* `Text.Stretch`: the code points `first`, `first + step`, and so on up to `last`
* `Text.inStretches`: membership of a character in a list of stretches
-/

namespace CodeOutline.Text

/-- The code points `first`, `first + step`, and so on up to `last`. -/
structure Stretch where
  first : Nat
  last : Nat
  step : Nat

/-- Whether a code point lies in the stretch. -/
def Stretch.has (s : Stretch) (n : Nat) : Bool :=
  s.first ≤ n && n ≤ s.last && (n - s.first) % s.step == 0

/-- Whether a character lies in one of the stretches. -/
def inStretches (table : List Stretch) (c : Char) : Bool :=
  table.any (·.has c.toNat)

end CodeOutline.Text
