import CodeOutline.Text.Basic
import CodeOutline.Token

/-!
# Reading tokens

A line is cut into tokens from left to right. Between tokens stand gaps of spaces, tabs and form
feeds. Each token is the longest text one of the rules accepts, and where two rules accept the same
text the more special one wins: `varName` is a variable's name and not a plain identifier, but
`varName-x` is an identifier. As the first character decides which rules can apply, no more than one
token has to be tried. Where none fits, the rest of the line is a single token of content.

## Main definitions

* `Token.scan`: the first token of a text that starts without a gap, its text, and what follows
* `Lexeme`: a token and the bytes of its line that it covers
* `Lexeme.ofLine`: the lexemes of a line

## Main results

* `Token.scan_append`: the text of the first token and what follows are the text that was read, and
  the token's text is not empty
-/

namespace CodeOutline

namespace Token

/-! ### Characters -/

/-- The characters a gap between tokens consists of. -/
def isGap (c : Char) : Bool :=
  c == ' ' || c == '\t' || c == '\x0C'

/-- The characters a name starts with. -/
def isNameStart (c : Char) : Bool :=
  Text.isLetter c || c == '_'

/-- The characters of a word: letters, digits and the underscore. -/
def isWordChar (c : Char) : Bool :=
  Text.isLetter c || Text.isDigit c || c == '_'

/-- The characters of an identifier: those of a word, and the hyphen. -/
def isNameChar (c : Char) : Bool :=
  isWordChar c || c == '-'

/-! ### One rule at a time

Each of these functions cuts a text in two: what the rule accepts, and what follows. -/

/-- A word that starts like a name. -/
def scanWord : List Char → Option (List Char × List Char)
  | [] => none
  | c :: cs =>
    if isNameStart c then some (c :: cs.takeWhile isWordChar, cs.dropWhile isWordChar) else none

/-- The rest of a string behind its opening quote, the closing quote included. A backslash takes the
next character with it. -/
def scanString : List Char → Option (List Char × List Char)
  | [] => none
  | '"' :: cs => some (['"'], cs)
  | ['\\'] => none
  | '\\' :: c :: cs => (scanString cs).map fun (body, rest) => ('\\' :: c :: body, rest)
  | c :: cs => (scanString cs).map fun (body, rest) => (c :: body, rest)

/-- Digits, and a fraction if a dot and a digit follow. -/
def scanNumber (cs : List Char) : List Char × List Char :=
  match cs.dropWhile Text.isDigit with
  | '.' :: d :: rest =>
    if Text.isDigit d then
      (cs.takeWhile Text.isDigit ++ '.' :: d :: rest.takeWhile Text.isDigit,
        rest.dropWhile Text.isDigit)
    else (cs.takeWhile Text.isDigit, '.' :: d :: rest)
  | rest => (cs.takeWhile Text.isDigit, rest)

/-- Further segments of a reference, each a dot and a word that starts like a name. -/
def scanSegments : List Char → List Char × List Char
  | '.' :: c :: cs =>
    if isNameStart c then
      let (more, rest) := scanSegments (cs.dropWhile isWordChar)
      ('.' :: c :: cs.takeWhile isWordChar ++ more, rest)
    else ([], '.' :: c :: cs)
  | cs => ([], cs)
termination_by cs => cs.length
decreasing_by
  simp only [List.length_cons]
  have := (List.dropWhile_sublist (l := cs) isWordChar).length_le
  omega

/-- An identifier is a variable's name when it is `var`, a capital letter and the characters of a
word. -/
def ofName (name : List Char) : Token :=
  match name with
  | 'v' :: 'a' :: 'r' :: c :: cs =>
    if Text.isUpperLetter c && cs.all isWordChar then .varName (String.ofList name)
    else .identifier (String.ofList name)
  | _ => .identifier (String.ofList name)

/-! ### The first token -/

/-- The first token of a text, its text, and what follows. There is none at the end of the text and
where no rule fits. -/
def scan : List Char → Option (Token × List Char × List Char)
  | [] => none
  | '#' :: cs => some (.note (String.ofList (Text.trim cs)), '#' :: cs, [])
  | '"' :: cs =>
    (scanString cs).map fun (body, rest) =>
      (.string (String.ofList body.dropLast), '"' :: body, rest)
  | '%' :: cs =>
    (scanWord cs).map fun (name, rest) => (.component (String.ofList name), '%' :: name, rest)
  | '@' :: cs =>
    (scanWord cs).map fun (name, rest) =>
      let (more, rest) := scanSegments rest
      (.reference (String.ofList (name ++ more)), '@' :: (name ++ more), rest)
  | '$' :: cs =>
    match scanWord cs with
    | some (name, '(' :: ')' :: rest) =>
      some (.function (String.ofList name), '$' :: (name ++ ['(', ')']), rest)
    | _ => none
  | '.' :: cs =>
    match cs.takeWhile isWordChar with
    | [] => some (.dot, ['.'], cs)
    | word => some (.extension (String.ofList word), '.' :: word, cs.dropWhile isWordChar)
  | '/' :: cs => some (.slash, ['/'], cs)
  | '=' :: cs => some (.equals, ['='], cs)
  | c :: cs =>
    if Text.isDigit c then
      let (digits, rest) := scanNumber (c :: cs)
      some (.number (String.ofList digits), digits, rest)
    else if isNameStart c then
      let name := c :: cs.takeWhile isNameChar
      some (ofName name, name, cs.dropWhile isNameChar)
    else none

/-! ### Nothing is lost -/

theorem scanWord_append {cs word rest : List Char} (h : scanWord cs = some (word, rest)) :
    word ++ rest = cs := by
  cases cs with
  | nil => simp [scanWord] at h
  | cons c cs =>
    simp only [scanWord] at h
    split at h
    · simp only [Option.some.injEq, Prod.mk.injEq] at h
      obtain ⟨rfl, rfl⟩ := h
      simp
    · simp at h

theorem scanString_append {cs body rest : List Char} (h : scanString cs = some (body, rest)) :
    body ++ rest = cs := by
  fun_induction scanString cs generalizing body with
  | case1 => simp at h
  | case2 cs =>
    simp only [Option.some.injEq, Prod.mk.injEq] at h
    obtain ⟨rfl, rfl⟩ := h
    simp
  | case3 => simp at h
  | case4 c cs ih =>
    obtain ⟨⟨tail, rest'⟩, htail, h⟩ := Option.map_eq_some_iff.1 h
    simp only [Prod.mk.injEq] at h
    obtain ⟨rfl, rfl⟩ := h
    simp [ih htail]
  | case5 c cs _ _ _ ih =>
    obtain ⟨⟨tail, rest'⟩, htail, h⟩ := Option.map_eq_some_iff.1 h
    simp only [Prod.mk.injEq] at h
    obtain ⟨rfl, rfl⟩ := h
    simp [ih htail]

theorem scanNumber_append (cs : List Char) : (scanNumber cs).1 ++ (scanNumber cs).2 = cs := by
  have h := List.takeWhile_append_dropWhile (p := Text.isDigit) (l := cs)
  unfold scanNumber
  split
  · rename_i d rest heq
    rw [heq] at h
    split
    · simpa using h
    · exact h
  · exact h

theorem scanNumber_ne_nil {c : Char} {cs : List Char} (h : Text.isDigit c = true) :
    (scanNumber (c :: cs)).1 ≠ [] := by
  unfold scanNumber
  split
  · split <;> simp [h]
  · simp [h]

theorem scanSegments_append (cs : List Char) :
    (scanSegments cs).1 ++ (scanSegments cs).2 = cs := by
  fun_induction scanSegments cs with
  | case1 c cs _ more rest heq ih =>
    rw [heq] at ih
    simp only at ih
    simp [ih]
  | case2 => simp
  | case3 => simp

theorem scan_append {cs text rest : List Char} {t : Token} (h : scan cs = some (t, text, rest)) :
    text ++ rest = cs ∧ text ≠ [] := by
  unfold scan at h
  split at h
  · simp at h
  · simp only [Option.some.injEq, Prod.mk.injEq] at h
    obtain ⟨_, rfl, rfl⟩ := h
    simp
  · obtain ⟨⟨body, rest'⟩, hbody, h⟩ := Option.map_eq_some_iff.1 h
    simp only [Prod.mk.injEq] at h
    obtain ⟨_, rfl, rfl⟩ := h
    simp [scanString_append hbody]
  · obtain ⟨⟨name, rest'⟩, hname, h⟩ := Option.map_eq_some_iff.1 h
    simp only [Prod.mk.injEq] at h
    obtain ⟨_, rfl, rfl⟩ := h
    simp [scanWord_append hname]
  · rename_i cs
    obtain ⟨⟨name, rest'⟩, hname, h⟩ := Option.map_eq_some_iff.1 h
    simp only [Prod.mk.injEq] at h
    obtain ⟨_, rfl, rfl⟩ := h
    simp [scanSegments_append, scanWord_append hname]
  · split at h
    · rename_i name rest' hname
      simp only [Option.some.injEq, Prod.mk.injEq] at h
      obtain ⟨_, rfl, rfl⟩ := h
      simp [← scanWord_append hname]
    · simp at h
  · rename_i cs
    have hcut := List.takeWhile_append_dropWhile (p := isWordChar) (l := cs)
    split at h <;> simp only [Option.some.injEq, Prod.mk.injEq] at h <;> obtain ⟨_, rfl, rfl⟩ := h
    · simp
    · simp [hcut]
  · simp only [Option.some.injEq, Prod.mk.injEq] at h
    obtain ⟨_, rfl, rfl⟩ := h
    simp
  · simp only [Option.some.injEq, Prod.mk.injEq] at h
    obtain ⟨_, rfl, rfl⟩ := h
    simp
  · rename_i c cs _ _ _ _ _ _ _ _
    split at h
    · rename_i hdigit
      simp only [Option.some.injEq, Prod.mk.injEq] at h
      obtain ⟨_, rfl, rfl⟩ := h
      exact ⟨scanNumber_append (c :: cs), scanNumber_ne_nil hdigit⟩
    · split at h
      · simp only [Option.some.injEq, Prod.mk.injEq] at h
        obtain ⟨_, rfl, rfl⟩ := h
        simp
      · simp at h

theorem length_lt_of_scan {cs text rest : List Char} {t : Token}
    (h : scan cs = some (t, text, rest)) : rest.length < cs.length := by
  obtain ⟨happ, hne⟩ := scan_append h
  have := List.length_pos_iff.2 hne
  rw [← happ, List.length_append]
  omega

end Token

/-- A token and the bytes of its line that it covers: from `start` up to, but not including,
`stop`. -/
structure Lexeme where
  token : Token
  start : Nat
  stop : Nat
deriving DecidableEq, Repr

namespace Lexeme

/-- The lexemes of what remains of a line from byte `offset` on. -/
def scanAll (offset : Nat) (cs : List Char) : List Lexeme :=
  let start := offset + Text.byteLength (cs.takeWhile Token.isGap)
  let body := cs.dropWhile Token.isGap
  match _hscan : Token.scan body with
  | some (token, text, rest) =>
    let stop := start + Text.byteLength text
    ⟨token, start, stop⟩ :: scanAll stop rest
  | none =>
    if body.isEmpty then []
    else
      let text := Text.trimEnd body
      [⟨.content (String.ofList text), start, start + Text.byteLength text⟩]
termination_by cs.length
decreasing_by
  have : rest.length < (cs.dropWhile Token.isGap).length := Token.length_lt_of_scan _hscan
  have := (List.dropWhile_sublist (l := cs) Token.isGap).length_le
  omega

/-- The lexemes of a line. Of a text of several lines only the first is read. -/
def ofLine (line : String) : List Lexeme :=
  scanAll 0 ((Text.lines line.toList).headD [])

end Lexeme

end CodeOutline
