/-!
# Text as a list of characters

An outline is read line by line and each line character by character, so the rules of this library
are stated over `List Char`; `String` is only the form in which texts are stored and handed out.
This file holds the operations every other part needs: what counts as blank, trimming, the words of
a text, its lines, and its size in UTF-8 bytes.

Blank characters are those with the Unicode property `White_Space`. They are more than the blanks a
line lexer skips (`CodeOutline.Token.Lexer`), and fewer than the characters without a glyph: the
zero-width space and the byte order mark are not blank.

## Main definitions

* `Text.isBlank`: the Unicode white space characters
* `Text.trim`, `Text.trimEnd`: a text without the blanks around it, or behind it
* `Text.words`: the maximal runs of characters that are not blank
* `Text.lines`: the lines of a text, without their ends
* `Text.byteLength`: size in UTF-8 bytes, the unit of columns and spans
-/

namespace CodeOutline.Text

/-- The characters with the Unicode property `White_Space`. -/
def isBlank (c : Char) : Bool :=
  let n := c.toNat
  (9 ≤ n && n ≤ 13) || n == 0x20 || n == 0x85 || n == 0xA0 || n == 0x1680
    || (0x2000 ≤ n && n ≤ 0x200A) || n == 0x2028 || n == 0x2029 || n == 0x202F
    || n == 0x205F || n == 0x3000

/-- The text without the blanks in front of it. -/
def trimStart (cs : List Char) : List Char :=
  cs.dropWhile isBlank

/-- The text without the blanks behind it: a blank stays only where something follows it. -/
def trimEnd : List Char → List Char
  | [] => []
  | c :: cs =>
    match trimEnd cs with
    | [] => if isBlank c then [] else [c]
    | kept => c :: kept

/-- The text without the blanks around it. -/
def trim (cs : List Char) : List Char :=
  trimEnd (trimStart cs)

/-- Cuts a text at every character that satisfies `isCut`. There is one piece more than there are
cuts, and pieces may be empty. -/
def splitWhere (isCut : Char → Bool) : List Char → List (List Char)
  | [] => [[]]
  | c :: cs =>
    if isCut c then [] :: splitWhere isCut cs
    else match splitWhere isCut cs with
      | [] => [[c]]
      | piece :: pieces => (c :: piece) :: pieces

/-- The maximal runs of characters that are not blank. -/
def words (cs : List Char) : List (List Char) :=
  (splitWhere isBlank cs).filter (!·.isEmpty)

/-- One carriage return less at the end, if there is one. -/
def dropReturn : List Char → List Char
  | [] => []
  | ['\r'] => []
  | c :: cs => c :: dropReturn cs

/-- The lines of a text. A line ends at a line feed, or at a carriage return and a line feed; what
follows the last line feed is a line of its own only if it is not empty. -/
def lines : List Char → List (List Char)
  | [] => []
  | c :: cs => go [] (c :: cs)
where
  /-- Reads on with the current line's characters, last first. -/
  go (line : List Char) : List Char → List (List Char)
    | [] => if line.isEmpty then [] else [line.reverse]
    | c :: cs => if c = '\n' then dropReturn line.reverse :: go [] cs else go (c :: line) cs

/-- Size in UTF-8 bytes. -/
def byteLength (cs : List Char) : Nat :=
  (cs.map Char.utf8Size).foldr (· + ·) 0

/-- Whether `part` occurs in the text as a run of neighbouring characters. -/
def occursIn (part : List Char) : List Char → Bool
  | [] => part.isEmpty
  | c :: cs => part.isPrefixOf (c :: cs) || occursIn part cs

/-- Decimal digits. -/
def isDigit (c : Char) : Bool :=
  '0' ≤ c && c ≤ '9'

/-- The letters `A` to `Z`. -/
def isUpperLetter (c : Char) : Bool :=
  'A' ≤ c && c ≤ 'Z'

/-- The letters `a` to `z` and `A` to `Z`. -/
def isLetter (c : Char) : Bool :=
  ('a' ≤ c && c ≤ 'z') || isUpperLetter c

/-- The small letter of a letter from `A` to `Z`; every other character is left alone. -/
def smallLetter (c : Char) : Char :=
  if isUpperLetter c then Char.ofNat (c.toNat + 32) else c

/-- Whether two texts are equal once `A` to `Z` are read as small letters. -/
def sameLetters (left right : String) : Bool :=
  left.toList.map smallLetter == right.toList.map smallLetter

end CodeOutline.Text
