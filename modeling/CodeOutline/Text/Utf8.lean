/-!
# UTF-8

Bytes are read as UTF-8, character by character. At a place where the bytes are no UTF-8, as many of
them as could have started a character count as one fault, at least one; reading goes on behind
them. A strict reader gives up at the first fault, a lenient one puts the replacement character
there.

## Main definitions

* `Utf8.pieces`: the characters and faults that bytes are made of
* `Utf8.decode?`: the text, if there is no fault
* `Utf8.decodeLossy`: the text with replacement characters for faults
-/

namespace CodeOutline.Utf8

/-- How a first byte goes on: how many bytes follow it, what it contributes to the code point, and
the range of the byte behind it, which is narrower where a longer form would be a shorter one, a
surrogate or too large. -/
structure Opening where
  following : Nat
  bits : Nat
  least : Nat
  greatest : Nat

/-- How a first byte above `0x7F` goes on. -/
def opening? (byte : Nat) : Option Opening :=
  if 0xC2 ≤ byte && byte ≤ 0xDF then some ⟨1, byte - 0xC0, 0x80, 0xBF⟩
  else if byte = 0xE0 then some ⟨2, 0, 0xA0, 0xBF⟩
  else if byte = 0xED then some ⟨2, 0xD, 0x80, 0x9F⟩
  else if 0xE1 ≤ byte && byte ≤ 0xEF then some ⟨2, byte - 0xE0, 0x80, 0xBF⟩
  else if byte = 0xF0 then some ⟨3, 0, 0x90, 0xBF⟩
  else if 0xF1 ≤ byte && byte ≤ 0xF3 then some ⟨3, byte - 0xF0, 0x80, 0xBF⟩
  else if byte = 0xF4 then some ⟨3, 4, 0x80, 0x8F⟩
  else none

/-- The pieces of bytes: a character, or nothing for a fault. Inside a character, `open?` says how
it goes on. -/
def piecesFrom : (open? : Option Opening) → List UInt8 → List (Option Char)
  | none, [] => []
  | some _, [] => [none]
  | none, byte :: bytes => start byte.toNat bytes
  | some o, byte :: bytes =>
    if o.least ≤ byte.toNat && byte.toNat ≤ o.greatest then
      let bits := o.bits * 64 + (byte.toNat - 0x80)
      if o.following ≤ 1 then some (Char.ofNat bits) :: piecesFrom none bytes
      else piecesFrom (some ⟨o.following - 1, bits, 0x80, 0xBF⟩) bytes
    else none :: start byte.toNat bytes
where
  /-- The pieces from a first byte on. -/
  start (byte : Nat) (bytes : List UInt8) : List (Option Char) :=
    if byte < 0x80 then some (Char.ofNat byte) :: piecesFrom none bytes
    else match opening? byte with
      | none => none :: piecesFrom none bytes
      | some o => piecesFrom (some o) bytes

/-- The characters and faults that bytes are made of. -/
def pieces (bytes : List UInt8) : List (Option Char) :=
  piecesFrom none bytes

/-- The text, if there is no fault. -/
def decode? (bytes : List UInt8) : Option String :=
  ((pieces bytes).mapM id).map String.ofList

/-- The text with replacement characters for faults. -/
def decodeLossy (bytes : List UInt8) : String :=
  String.ofList ((pieces bytes).map (·.getD '\uFFFD'))

end CodeOutline.Utf8
