import CodeOutline.Text.Basic
import CodeOutline.Text.Case.Table

/-!
# Letter case

Small letters as the Unicode standard defines them for a text without a language. Two rules go
beyond a table of single letters: the dotted capital `İ` becomes two characters, and a capital sigma
becomes `ς` where it ends a word and `σ` elsewhere. The second rule looks at the text around the
letter, so the small form of a text is not always the small forms of its characters in a row; the
words of an identifier (`CodeOutline.Diff.Words`) are built from the latter, digests and comparisons
from the former.

## Main definitions

* `Text.isSmall`, `Text.isCapital`: the properties `Lowercase` and `Uppercase`
* `Text.smallForm`: the small form of a character on its own
* `Text.lower`: the small form of a text, the final sigma included
-/

namespace CodeOutline.Text

/-- The property `Lowercase`. -/
def isSmall (c : Char) : Bool :=
  inStretches smallLetters c

/-- The property `Uppercase`. -/
def isCapital (c : Char) : Bool :=
  inStretches capitalLetters c

/-- The property `Cased`: small, capital and title case letters. -/
def isCased (c : Char) : Bool :=
  isSmall c || isCapital c || inStretches titleLetters c

/-- The property `Case_Ignorable`. -/
def isCaseIgnorable (c : Char) : Bool :=
  inStretches caseIgnorable c

/-- The small form of a character, whatever stands around it. -/
def smallForm (c : Char) : List Char :=
  if c.toNat < 0x80 then [smallLetter c]
  else if c = 'İ' then ['i', '\u0307']
  else match smallForms.find? (·.1.has c.toNat) with
    | some (capitals, small) => [Char.ofNat (small + (c.toNat - capitals.first))]
    | none => [c]

/-- Whether the first character that is not case ignorable is a cased letter. -/
def meetsCased (cs : List Char) : Bool :=
  match cs.dropWhile isCaseIgnorable with
  | [] => false
  | c :: _ => isCased c

/-- The small form of a sigma between what stands before it, nearest first, and after it. -/
def smallSigma (before after : List Char) : Char :=
  if meetsCased before && !meetsCased after then 'ς' else 'σ'

/-- The small form of a text that follows the characters `before`, nearest first. -/
def lowerAfter (before : List Char) : List Char → List Char
  | [] => []
  | c :: cs =>
    (if c = 'Σ' then [smallSigma before cs] else smallForm c) ++ lowerAfter (c :: before) cs

/-- The small form of a text. -/
def lower (cs : List Char) : List Char :=
  lowerAfter [] cs

/-- The small form of a string. -/
def lowercase (s : String) : String :=
  String.ofList (lower s.toList)

end CodeOutline.Text
