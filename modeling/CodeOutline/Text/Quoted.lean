import CodeOutline.Text.Basic
import CodeOutline.Text.Quoted.Table

/-!
# Quoted text

Messages show a text between double quotes so that its ends can be seen. Inside the quotes a quote
and a backslash follow a backslash, the usual control characters have their letters, and a character
that would not show, or would only change the one before it, is written by its code point.

## Main definitions

* `Text.isInvisible`, `Text.isAttached`: the characters written by their code points
* `Text.quoted`: a text between quotes
* `Text.quotedList`: a bracketed list of quoted texts
-/

namespace CodeOutline.Text

/-- A number in hexadecimal, small letters, no leading zeros. -/
def hexadecimal (n : Nat) : List Char :=
  Nat.toDigits 16 n

/-- Whether a character shows nothing of its own: one without a glyph, or one drawn as nothing, such
as the fillers of Hangul syllables. -/
def isInvisible (c : Char) : Bool :=
  inStretches unprintable c || inStretches defaultIgnorable c

/-- Whether a character shows only together with the one before it. The two halfwidth sound marks
extend a grapheme as well, but each has a cell to itself and is read on its own. -/
def isAttached (c : Char) : Bool :=
  inStretches graphemeExtenders c && !(c = 'ﾞ' || c = 'ﾟ')

/-- A character as it stands between quotes. -/
def quotedChar (c : Char) : List Char :=
  if c = '\x00' then ['\\', '0']
  else if c = '\t' then ['\\', 't']
  else if c = '\r' then ['\\', 'r']
  else if c = '\n' then ['\\', 'n']
  else if c = '\\' || c = '"' then ['\\', c]
  else if 0x20 ≤ c.toNat && c.toNat < 0x7F then [c]
  else if isInvisible c || isAttached c then
    ['\\', 'u', '\x7b'] ++ hexadecimal c.toNat ++ ['\x7d']
  else [c]

/-- A text between double quotes. -/
def quoted (s : String) : String :=
  String.ofList ('"' :: s.toList.flatMap quotedChar ++ ['"'])

/-- A bracketed list of quoted texts. -/
def quotedList (texts : List String) : String :=
  "[" ++ ", ".intercalate (texts.map quoted) ++ "]"

end CodeOutline.Text
