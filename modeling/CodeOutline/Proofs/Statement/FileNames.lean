import CodeOutline.Proofs.Statement.Shapes
import CodeOutline.Proofs.Token.Lexemes

/-!
# How file names are written

The name of a file starts with a name, with a number, or with a number and a name right behind it,
and goes on with segments, each one or more dots and a word; the word of the last segment is a known
extension. The pieces in which a file name is read do not follow this division. After a number a dot
and a digit are read as its fraction, so what is a segment of the name may be read as part of a
number. That the first letter of a known extension is no digit makes both divisions agree on what is
a file name.

## Main definitions

* `Statement.FileHead`: what a file name starts with
* `Statement.FileSegments`: the segments a file name goes on with

## Main results

* `Token.Spells.exists_head_segments`: pieces of a file name are a head and segments
* `Statement.FileHead.exists_spells`: a head and segments are read as pieces of a file name
* `Statement.joinedText_eq`: the pieces put together are the text that was read
-/

namespace CodeOutline

open Token

variable {cs text rest head tail digits word : List Char} {token first : Token}
  {tokens middle : List Token} {name : String}

/-! ### Heads and segments -/

namespace Statement

/-- What a file name starts with: a name, a number, or a number and a name. -/
inductive FileHead : List Char → Prop
  | name {name : List Char} (hname : IsName name) : FileHead name
  | number {digits : List Char} (hdigits : IsNumber digits) : FileHead digits
  | numberedName {digits name : List Char} (hdigits : IsNumber digits) (hname : IsName name) :
      FileHead (digits ++ name)

/-- The segments a file name goes on with, each one or more dots and a word. The second text is the
word of the last segment. -/
inductive FileSegments : List Char → List Char → Prop
  | last {dots word : List Char} (hdots : MadeOf (· == '.') dots) (hword : MadeOf isWordChar word) :
      FileSegments (dots ++ word) word
  | cons {dots part more word : List Char} (hdots : MadeOf (· == '.') dots)
      (hpart : MadeOf isWordChar part) (hmore : FileSegments more word) :
      FileSegments (dots ++ (part ++ more)) word

theorem exists_cons_of_dots {dots : List Char} (hdots : MadeOf (· == '.') dots) :
    ∃ more, dots = '.' :: more ∧ ∀ c ∈ more, c = '.' := by
  obtain ⟨c, more, rfl⟩ := List.exists_cons_of_ne_nil hdots.1
  obtain ⟨hc, hmore⟩ := List.forall_mem_cons.1 hdots.2
  obtain rfl := beq_iff_eq.1 hc
  exact ⟨more, rfl, fun d hd => beq_iff_eq.1 (hmore d hd)⟩

/-- One more dot in front. -/
theorem FileSegments.dot (h : FileSegments cs word) : FileSegments ('.' :: cs) word := by
  have hcons : ∀ {dots}, MadeOf (· == '.') dots → MadeOf (· == '.') ('.' :: dots) :=
    fun hdots => ⟨List.cons_ne_nil _ _, List.forall_mem_cons.2 ⟨rfl, hdots.2⟩⟩
  cases h with
  | last hdots hword => exact .last (hcons hdots) hword
  | cons hdots hpart hmore => exact .cons (hcons hdots) hpart hmore

theorem madeOf_dot : MadeOf (· == '.') ['.'] :=
  ⟨List.cons_ne_nil _ _, by simp⟩

theorem FileSegments.stopsAt {p : Char → Bool} (h : FileSegments cs word) (hp : p '.' = false) :
    StopsAt p cs := by
  cases h with
  | last hdots =>
    obtain ⟨more, rfl, -⟩ := exists_cons_of_dots hdots
    exact stopsAt_cons.2 hp
  | cons hdots =>
    obtain ⟨more, rfl, -⟩ := exists_cons_of_dots hdots
    exact stopsAt_cons.2 hp

end Statement

open Statement

namespace Token

/-! ### From pieces to segments -/

theorem not_stopsAt_isWordChar_of_isName (h : IsName text) :
    ¬ StopsAt isWordChar (text ++ rest) := by
  obtain ⟨c, cs, rfl, hc, -⟩ := h
  simp [isWordChar_of_isNameStart hc]

theorem not_stopsAt_isDigit_of_isNumber (h : IsNumber digits) :
    ¬ StopsAt Text.isDigit (digits ++ rest) := by
  obtain ⟨c, cs, rfl, hc⟩ := h.exists_cons
  simp [hc]

theorem isWordChar_of_isDigit {c : Char} (h : Text.isDigit c = true) : isWordChar c = true := by
  simp [isWordChar, h]

/-- A piece of a file name stands for a name, or is a number, a dot or an extension. -/
theorem Written.piece_cases (h : token.Written text) (hpart : token.isFileNamePart = true) :
    (∃ name, token.name? = some name) ∨ (token = .number (String.ofList text) ∧ IsNumber text) ∨
      (token = .dot ∧ text = ['.']) ∨
        ∃ word, token = .extension (String.ofList word) ∧ text = '.' :: word ∧
          MadeOf isWordChar word := by
  cases h with
  | varName => exact .inl ⟨_, rfl⟩
  | identifier => exact .inl ⟨_, rfl⟩
  | number hdigits => exact .inr (.inl ⟨rfl, hdigits⟩)
  | dot => exact .inr (.inr (.inl ⟨rfl, rfl⟩))
  | extension hword => exact .inr (.inr (.inr ⟨_, rfl, rfl, hword⟩))
  | _ => simp [isFileNamePart] at hpart

/-- Pieces that end in an extension are segments, where no character of a word stands in front of
them. -/
theorem Spells.fileSegments (h : Spells cs tokens)
    (hparts : ∀ part ∈ tokens, part.isFileNamePart = true)
    (hlast : tokens.getLast? = some (.extension name)) (hstop : StopsAt isWordChar cs) :
    FileSegments cs name.toList := by
  induction h with
  | nil => simp at hlast
  | @cons text rest token more hwritten hends hmore ih =>
    obtain ⟨hpart, hmoreParts⟩ := List.forall_mem_cons.1 hparts
    rcases hwritten.piece_cases hpart with ⟨given, hgiven⟩ | ⟨-, hdigits⟩ | ⟨rfl, rfl⟩ |
      ⟨word, rfl, rfl, hword⟩
    · obtain ⟨hname, -⟩ := hwritten.of_name? hends hgiven
      exact absurd hstop (not_stopsAt_isWordChar_of_isName hname)
    · exact absurd (hstop.mono fun _ => isWordChar_of_isDigit)
        (not_stopsAt_isDigit_of_isNumber hdigits)
    · cases more with
      | nil => simp at hlast
      | cons second more =>
        rw [List.getLast?_cons_cons] at hlast
        exact (ih hmoreParts hlast hends).dot
    · cases more with
      | nil =>
        cases hmore
        obtain rfl : String.ofList word = name := by simpa using hlast
        rw [String.toList_ofList, List.append_nil]
        exact .last madeOf_dot hword
      | cons second more =>
        rw [List.getLast?_cons_cons] at hlast
        exact .cons madeOf_dot hword (ih hmoreParts hlast hends)

/-- Pieces that start with a name and end in an extension are a name and segments. -/
theorem Spells.exists_name_segments {given : String} (h : Spells cs (first :: tokens))
    (hparts : ∀ part ∈ first :: tokens, part.isFileNamePart = true)
    (hfirst : first.name? = some given)
    (hlast : (first :: tokens).getLast? = some (.extension name)) :
    ∃ text tail, cs = text ++ tail ∧ IsName text ∧ FileSegments tail name.toList := by
  cases h with
  | @cons text rest _ _ hwritten hends hmore =>
    obtain ⟨hname, -, hstop⟩ := hwritten.of_name? hends hfirst
    refine ⟨text, rest, rfl, hname, ?_⟩
    cases tokens with
    | nil =>
      obtain rfl : first = .extension name := by simpa using hlast
      simp [name?] at hfirst
    | cons second more =>
      rw [List.getLast?_cons_cons] at hlast
      exact hmore.fileSegments (List.forall_mem_cons.1 hparts).2 hlast
        (hstop.mono fun _ => isNameChar_of_isWordChar)

/-- Pieces of a file name are a head and segments. -/
theorem Spells.exists_head_segments (h : Spells cs (first :: tokens))
    (hparts : ∀ part ∈ first :: tokens, part.isFileNamePart = true)
    (hfirst : startsWithDot first = false)
    (hlast : (first :: tokens).getLast? = some (.extension name)) :
    ∃ head tail, cs = head ++ tail ∧ FileHead head ∧ FileSegments tail name.toList := by
  have hspells := h
  cases h with
  | @cons text rest _ _ hwritten hends hmore =>
    obtain ⟨hpart, hmoreParts⟩ := List.forall_mem_cons.1 hparts
    rcases hwritten.piece_cases hpart with ⟨given, hgiven⟩ | ⟨rfl, hdigits⟩ | ⟨rfl, rfl⟩ |
      ⟨word, rfl, -⟩
    · obtain ⟨head, tail, hsplit, hname, htail⟩ :=
        hspells.exists_name_segments hparts hgiven hlast
      exact ⟨head, tail, hsplit, .name hname, htail⟩
    · cases tokens with
      | nil => simp at hlast
      | cons second more =>
        rw [List.getLast?_cons_cons] at hlast
        by_cases hstop : StopsAt isWordChar rest
        · exact ⟨text, rest, rfl, .number hdigits, hmore.fileSegments hmoreParts hlast hstop⟩
        -- what a number leaves behind is no digit, so if it is part of a word it starts a name
        have hrest := hmore
        cases hmore with
        | @cons text' rest' _ _ hwritten' hends' hmore' =>
          rcases hwritten'.piece_cases (hmoreParts _ List.mem_cons_self) with ⟨given, hgiven⟩ |
            ⟨-, hdigits'⟩ | ⟨-, rfl⟩ | ⟨word, -, rfl, -⟩
          · obtain ⟨name', tail, hsplit, hname, htail⟩ :=
              hrest.exists_name_segments hmoreParts hgiven hlast
            exact ⟨text ++ name', tail, by rw [hsplit, List.append_assoc],
              .numberedName hdigits hname, htail⟩
          · exact absurd hends.1 (not_stopsAt_isDigit_of_isNumber hdigits')
          · exact absurd (stopsAt_cons.2 rfl) hstop
          · exact absurd (stopsAt_cons.2 rfl) hstop
    · simp [startsWithDot] at hfirst
    · simp [startsWithDot] at hfirst

/-! ### From segments to pieces -/

theorem Spells.dots {dots : List Char} (hdots : ∀ c ∈ dots, c = '.')
    (h : Spells ('.' :: cs) tokens) : ∃ middle, Spells (dots ++ '.' :: cs) (middle ++ tokens) ∧
      ∀ part ∈ middle, part.isFileNamePart = true := by
  induction dots with
  | nil => exact ⟨[], h, by simp⟩
  | cons c dots ih =>
    obtain ⟨rfl, hmore⟩ := List.forall_mem_cons.1 hdots
    obtain ⟨middle, hspells, hparts⟩ := ih hmore
    have hstop : StopsAt isWordChar (dots ++ '.' :: cs) := by
      cases dots with
      | nil => exact stopsAt_cons.2 rfl
      | cons d dots =>
        obtain rfl := hmore d List.mem_cons_self
        exact stopsAt_cons.2 rfl
    have hcons : Spells (['.'] ++ (dots ++ '.' :: cs)) (.dot :: (middle ++ tokens)) :=
      .cons .dot hstop hspells
    exact ⟨.dot :: middle, hcons, List.forall_mem_cons.2 ⟨rfl, hparts⟩⟩

/-- A name in front of other pieces. -/
theorem Spells.ofName_cons {text : List Char} (hname : IsName text) (hstop : StopsAt isNameChar rest)
    (h : Spells rest tokens) : Spells (text ++ rest) (ofName text :: tokens) :=
  .cons (written_ofName hname) (endsBefore_ofName_iff.2 hstop) h

end Token

namespace Statement

theorem exists_concat_of_dots {dots : List Char} (hdots : MadeOf (· == '.') dots) :
    ∃ front, dots = front ++ ['.'] ∧ ∀ c ∈ front, c = '.' := by
  have hall : ∀ c ∈ dots, c = '.' := fun c hc => beq_iff_eq.1 (hdots.2 c hc)
  have hsplit := List.dropLast_concat_getLast hdots.1
  rw [hall _ (List.getLast_mem hdots.1)] at hsplit
  exact ⟨_, hsplit.symm, fun c hc => hall c (List.dropLast_subset _ hc)⟩

/-- Segments are read as pieces of a file name, the last of which is an extension. -/
theorem FileSegments.exists_spells (h : FileSegments cs word) :
    ∃ middle, Spells cs (middle ++ [.extension (String.ofList word)]) ∧
      ∀ part ∈ middle, part.isFileNamePart = true := by
  induction h with
  | @last dots word hdots hword =>
    obtain ⟨front, rfl, hfront⟩ := exists_concat_of_dots hdots
    have hlast : Spells ('.' :: word ++ []) [.extension (String.ofList word)] :=
      .cons (.extension hword) (stopsAt_nil _) .nil
    rw [List.append_nil] at hlast
    rw [List.append_assoc]
    exact hlast.dots hfront
  | @cons dots part more word hdots hpart hmore ih =>
    obtain ⟨front, rfl, hfront⟩ := exists_concat_of_dots hdots
    obtain ⟨middle, hspells, hparts⟩ := ih
    have hcons : Spells ('.' :: part ++ more) (.extension (String.ofList part) ::
        (middle ++ [.extension (String.ofList word)])) :=
      .cons (.extension hpart) (hmore.stopsAt rfl) hspells
    obtain ⟨leading, hleading, hleadingParts⟩ := hcons.dots hfront
    refine ⟨leading ++ .extension (String.ofList part) :: middle, by simpa using hleading, ?_⟩
    intro token htoken
    rcases List.mem_append.1 htoken with htoken | htoken
    · exact hleadingParts token htoken
    · rcases List.mem_cons.1 htoken with rfl | htoken
      · rfl
      · exact hparts token htoken

theorem isNameStart_of_isWordChar {c : Char} (h : isWordChar c = true)
    (hdigit : Text.isDigit c = false) : isNameStart c = true := by
  simpa [isWordChar, isNameStart, hdigit] using h

theorem isFileNamePart_ofName (name : List Char) : (ofName name).isFileNamePart = true :=
  isFileNamePart_of_name? (name?_ofName name)

theorem startsWithDot_ofName (name : List Char) : startsWithDot (ofName name) = false := by
  by_cases hvar : IsVarName name
  · rw [ofName_of_isVarName hvar]
    rfl
  · rw [ofName_of_not_isVarName hvar]
    rfl

/-- A text is read as pieces of a file name, the first of which is no dot and the last an
extension. -/
def SpellsFile (cs word : List Char) : Prop :=
  ∃ first middle, Spells cs (first :: (middle ++ [.extension (String.ofList word)])) ∧
    (∀ part ∈ first :: middle, part.isFileNamePart = true) ∧ startsWithDot first = false

section

variable (htail : FileSegments tail word)
include htail

theorem FileSegments.spellsFile_of_name (hname : IsName text) : SpellsFile (text ++ tail) word := by
  obtain ⟨middle, hspells, hparts⟩ := htail.exists_spells
  exact ⟨ofName text, middle, hspells.ofName_cons hname (htail.stopsAt rfl),
    List.forall_mem_cons.2 ⟨isFileNamePart_ofName text, hparts⟩, startsWithDot_ofName text⟩

theorem FileSegments.spellsFile_of_numberedName (hdigits : IsNumber digits) (hname : IsName text) :
    SpellsFile (digits ++ (text ++ tail)) word := by
  obtain ⟨middle, hspells, hparts⟩ := htail.exists_spells
  have hrest := hspells.ofName_cons hname (htail.stopsAt rfl)
  obtain ⟨c, cs, rfl, hstart, -⟩ := hname
  -- the name starts neither with a digit nor with a dot
  have hdot : c ≠ '.' := by
    rintro rfl
    simp [isNameStart, Text.isLetter, Text.isUpperLetter] at hstart
  have hends : (Token.number (String.ofList digits)).EndsBefore (c :: cs ++ tail) := by
    refine ⟨stopsAt_cons.2 (isDigit_of_isNameStart hstart), ?_⟩
    rintro - ⟨d, more, heq, -⟩
    exact hdot (List.cons.inj heq).1
  exact ⟨_, _ :: middle, .cons (.number hdigits) hends hrest,
    List.forall_mem_cons.2 ⟨rfl, List.forall_mem_cons.2 ⟨isFileNamePart_ofName _, hparts⟩⟩, rfl⟩

theorem FileSegments.spellsFile_of_number_ends (hdigits : IsNumber digits)
    (hfraction : '.' ∉ digits → ¬ StartsFraction tail) : SpellsFile (digits ++ tail) word := by
  obtain ⟨middle, hspells, hparts⟩ := htail.exists_spells
  have hends : (Token.number (String.ofList digits)).EndsBefore tail :=
    ⟨htail.stopsAt rfl, by simpa using hfraction⟩
  exact ⟨_, middle, .cons (.number hdigits) hends hspells, List.forall_mem_cons.2 ⟨rfl, hparts⟩, rfl⟩

end

/-- Segments that start with a dot and a digit have another segment behind the first one, if the last
one has a word that starts otherwise. -/
theorem FileSegments.exists_fraction (htail : FileSegments tail word) (hfraction : StartsFraction tail)
    (hword : StopsAt Text.isDigit word) :
    ∃ part more, tail = '.' :: (part ++ more) ∧ MadeOf isWordChar part ∧
      ¬ StopsAt Text.isDigit part ∧ FileSegments more word := by
  obtain ⟨d, rest, rfl, hd⟩ := hfraction
  -- there is one dot in front, as a digit follows it
  have hone : ∀ {dots : List Char} {front cs}, dots = '.' :: front → (∀ c ∈ front, c = '.') →
      dots ++ cs = '.' :: d :: rest → front = [] := by
    rintro dots front cs rfl hfront heq
    cases front with
    | nil => rfl
    | cons c front =>
      obtain rfl := hfront c List.mem_cons_self
      obtain ⟨rfl, -⟩ := List.cons.inj (List.cons.inj heq).2
      simp [Text.isDigit] at hd
  generalize hcs : '.' :: d :: rest = cs at htail
  cases htail with
  | last hdots hword' =>
    obtain ⟨front, hdots, hfront⟩ := exists_cons_of_dots hdots
    obtain rfl := hone hdots hfront hcs.symm
    subst hdots
    obtain ⟨-, rfl⟩ := List.cons.inj hcs
    simp [hd] at hword
  | @cons dots part more _ hdots hpart hmore =>
    obtain ⟨front, hdots, hfront⟩ := exists_cons_of_dots hdots
    obtain rfl := hone hdots hfront hcs.symm
    subst hdots
    refine ⟨part, more, rfl, hpart, ?_, hmore⟩
    obtain ⟨c, part, rfl⟩ := List.exists_cons_of_ne_nil hpart.1
    obtain ⟨-, hcs⟩ := List.cons.inj hcs
    obtain ⟨rfl, -⟩ := List.cons.inj hcs
    simp [hd]

/-- A number and segments are read as pieces of a file name, be it that the number goes on with what
is a segment of the name. -/
theorem FileSegments.spellsFile_of_number (htail : FileSegments tail word)
    (hdigits : IsNumber digits) (hword : StopsAt Text.isDigit word) :
    SpellsFile (digits ++ tail) word := by
  by_cases hfraction : '.' ∉ digits → ¬ StartsFraction tail
  · exact htail.spellsFile_of_number_ends hdigits hfraction
  obtain ⟨hwhole, hstarts⟩ := Classical.not_imp.1 hfraction
  obtain ⟨part, more, rfl, hpart, hdigit, hmore⟩ :=
    htail.exists_fraction (not_not.1 hstarts) hword
  have hwholeDigits : MadeOf Text.isDigit digits := by
    cases hdigits with
    | whole hdigits => exact hdigits
    | fraction => exact absurd (by simp) hwhole
  -- the digits of the first segment are the fraction, and what else it has is a name
  have hcut := List.takeWhile_append_dropWhile (p := Text.isDigit) (l := part)
  have htake : part.takeWhile Text.isDigit ≠ [] := by
    intro hnil
    rw [hnil, List.nil_append] at hcut
    have hstop := stopsAt_dropWhile Text.isDigit part
    rw [hcut] at hstop
    exact hdigit hstop
  have hnumber : IsNumber (digits ++ '.' :: part.takeWhile Text.isDigit) :=
    .fraction hwholeDigits ⟨htake, fun c hc => List.mem_takeWhile_imp hc⟩
  have hsplit : part ++ more = part.takeWhile Text.isDigit ++
      (part.dropWhile Text.isDigit ++ more) := by rw [← List.append_assoc, hcut]
  rw [hsplit, ← List.cons_append, ← List.append_assoc]
  cases hname : part.dropWhile Text.isDigit with
  | nil => exact hmore.spellsFile_of_number_ends hnumber (by simp)
  | cons c name =>
    have hword : ∀ d ∈ c :: name, isWordChar d = true := fun d hd =>
      hpart.2 d ((List.dropWhile_sublist _).mem (hname ▸ hd))
    have hstop := stopsAt_dropWhile Text.isDigit part
    rw [hname, stopsAt_cons] at hstop
    obtain ⟨hc, hrest⟩ := List.forall_mem_cons.1 hword
    exact hmore.spellsFile_of_numberedName hnumber ⟨c, name, rfl,
      isNameStart_of_isWordChar hc hstop, fun d hd => isNameChar_of_isWordChar (hrest d hd)⟩

/-- A head and segments are read as pieces of a file name. -/
theorem FileHead.spellsFile (hhead : FileHead head) (htail : FileSegments tail word)
    (hword : StopsAt Text.isDigit word) : SpellsFile (head ++ tail) word := by
  cases hhead with
  | name hname => exact htail.spellsFile_of_name hname
  | number hdigits => exact htail.spellsFile_of_number hdigits hword
  | numberedName hdigits hname =>
    rw [List.append_assoc]
    exact htail.spellsFile_of_numberedName hdigits hname

theorem ne_note_of_isFileNamePart (h : token.isFileNamePart = true) (body : String) :
    token ≠ .note body := by
  rintro rfl
  simp [isFileNamePart] at h

/-- The pieces put together are the text that was read. -/
theorem joinedText_eq {parts : List Lexeme} (h : Spells cs (parts.map (·.token)))
    (hparts : ∀ part ∈ parts, part.token.isFileNamePart = true) :
    joinedText parts = String.ofList cs := by
  induction parts generalizing cs with
  | nil =>
    cases h
    rfl
  | cons part parts ih =>
    obtain ⟨hpart, hparts⟩ := List.forall_mem_cons.1 hparts
    rw [List.map_cons] at h
    cases h with
    | cons hwritten _ hmore =>
      have htext := hwritten.text_eq (ne_note_of_isFileNamePart hpart)
      change part.token.text ++ joinedText parts = _
      rw [htext, ih hmore hparts, String.ofList_append]

end Statement

end CodeOutline
