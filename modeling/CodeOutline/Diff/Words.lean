import CodeOutline.Text.Case

/-!
# Words of identifiers

Names of functions are made up of words, set apart by underscores and hyphens or by capital letters.
Two names are similar if one contains the other, or if they have two words in common; letter case
does not count.

## Main definitions

* `splitWords`: the words of a name, in small letters
* `namesSimilar`: the similarity of names
-/

namespace CodeOutline

/-- The characters that set words apart and belong to none. -/
def isWordSeparator (c : Char) : Bool :=
  c == '_' || c == '-'

/-- A word starts at `c` behind `previous`: a capital letter behind a small one or a digit. -/
def startsWord (previous : Option Char) (c : Char) : Bool :=
  Text.isCapital c && previous.any fun p => Text.isSmall p || Text.isDigit p

/-- The word that was read so far, unless it is empty. -/
def finishWord (word : List Char) : List (List Char) :=
  if word.isEmpty then [] else [word]

/-- The words of the rest of a name, behind the start of a word and the character `previous`. -/
def wordsFrom (word : List Char) (previous : Option Char) : List Char → List (List Char)
  | [] => finishWord word
  | c :: cs =>
    if isWordSeparator c then finishWord word ++ wordsFrom [] none cs
    else if startsWord previous c then finishWord word ++ wordsFrom (Text.smallForm c) (some c) cs
    else wordsFrom (word ++ Text.smallForm c) (some c) cs

/-- The words of a name, in small letters. -/
def splitWords (name : String) : List (List Char) :=
  wordsFrom [] none name.toList

/-- The words two names have in common, each once. -/
def sharedWords (left right : String) : List (List Char) :=
  (splitWords left).eraseDups.filter fun word => (splitWords right).contains word

/-- One name contains the other, or they share two words. Nothing is similar to the empty name. -/
def namesSimilar (left right : String) : Bool :=
  let l := Text.lower left.toList
  let r := Text.lower right.toList
  if l.isEmpty || r.isEmpty then false
  else Text.occursIn r l || Text.occursIn l r || 2 ≤ (sharedWords left right).length

end CodeOutline
