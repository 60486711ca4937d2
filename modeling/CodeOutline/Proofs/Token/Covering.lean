import Mathlib.Data.List.Chain
import CodeOutline.Proofs.Token.Lexemes

/-!
# Nothing of a line is lost

The lexemes of a line and the gaps around them are all of the line: every lexeme shows as the part of
the line at its span, and what no span covers are spaces, tabs and form feeds. A note takes the rest
of its line, without the blanks around its text. Content takes the rest of the line too, and what
stands in front of it is read the same without it.

## Main definitions

* `Token.ShowsAs`: how a token shows in its line
* `Lexeme.Covers`: lexemes and the gaps around them are all of a line from a byte on
* `Lexeme.firstLine`: the line of a text that is read

## Main results

* `Lexeme.Cuts.covers`: the lexemes of what remains of a line cover it
* `Lexeme.Cuts.exists_front_of_content`: what stands in front of content
* `Lexeme.ofLine_covers_firstLine`: the lexemes of the first line of a text
-/

namespace CodeOutline

open Token

variable {line before front gap cs body text rest : List Char} {offset : Nat}
  {lexemes more : List Lexeme} {lexeme : Lexeme} {token : Token}

namespace Token

/-! ### What may follow a token -/

theorem StopsAt.of_append {p : Char → Bool} (h : StopsAt p (front ++ rest)) : StopsAt p front := by
  cases front with
  | nil => exact stopsAt_nil p
  | cons c front => exact stopsAt_cons.2 (stopsAt_cons.1 h)

theorem StartsSegment.append (h : StartsSegment front) (rest : List Char) :
    StartsSegment (front ++ rest) := by
  obtain ⟨c, more, rfl, hc⟩ := h
  exact ⟨c, more ++ rest, rfl, hc⟩

theorem StartsFraction.append (h : StartsFraction front) (rest : List Char) :
    StartsFraction (front ++ rest) := by
  obtain ⟨c, more, rfl, hc⟩ := h
  exact ⟨c, more ++ rest, rfl, hc⟩

/-- A token that ends in front of a text ends in front of any shorter one. -/
theorem EndsBefore.of_append (h : token.EndsBefore (front ++ rest)) : token.EndsBefore front := by
  cases token with
  | note => exact (List.append_eq_nil_iff.1 h).1
  | reference => exact ⟨h.1.of_append, fun hsegment => h.2 (hsegment.append rest)⟩
  | number => exact ⟨h.1.of_append, fun hdot hfraction => h.2 hdot (hfraction.append rest)⟩
  | component | extension | dot | varName | identifier => exact StopsAt.of_append h
  | _ => trivial

/-! ### Tokens in their line -/

/-- How a token shows in its line. A note shows as its marker and a text that is trimmed, any other
token as it is written. -/
def ShowsAs (token : Token) (part : List Char) : Prop :=
  match token with
  | .note text => ∃ rest, part = '#' :: rest ∧ text = String.ofList (Text.trim rest)
  | token => token.text = String.ofList part

theorem Written.showsAs (h : token.Written text) : token.ShowsAs text := by
  cases token with
  | note =>
    cases h with
    | note body => exact ⟨body, rfl, rfl⟩
  | _ => exact h.text_eq (by simp)

theorem Written.ne_nil (h : token.Written text) : text ≠ [] := by
  rintro rfl
  have hscan := h.scan_append (endsBefore_nil token)
  simp [scan] at hscan

theorem IsGapText.isBlank (h : IsGapText gap) : ∀ c ∈ gap, Text.isBlank c = true :=
  fun c hc => isBlank_of_isGap (h c hc)

end Token

namespace Lexeme

/-! ### Covering a line -/

/-- Nothing remains, so there is no lexeme. -/
theorem Cuts.eq_nil (h : Cuts offset cs lexemes) (hcs : cs = []) : lexemes = [] := by
  cases h with
  | nil => rfl
  | content hgap hne => exact absurd (List.append_eq_nil_iff.1 hcs).2 hne
  | cons hgap hwritten hends hmore =>
    have hparts := (List.append_eq_nil_iff.1 hcs).2
    exact absurd (List.append_eq_nil_iff.1 hparts).1 hwritten.ne_nil

/-- Between two bytes of a line stand only spaces, tabs and form feeds. -/
def IsGapBetween (line : List Char) (start stop : Nat) : Prop :=
  ∃ gap, Text.slice? start stop line = some gap ∧ IsGapText gap

/-- The lexemes and the gaps around them are all of a line from byte `offset` on. -/
structure Covers (line : List Char) (offset : Nat) (lexemes : List Lexeme) : Prop where
  /-- a lexeme shows as the part of the line at its span, which starts and ends between characters -/
  shown : ∀ lexeme ∈ lexemes, ∃ part, Text.slice? lexeme.start lexeme.stop line = some part ∧
    lexeme.token.ShowsAs part
  /-- the spans follow one another -/
  ordered : lexemes.Pairwise fun left right => left.start < right.start ∧ left.stop ≤ right.start
  /-- no span starts earlier -/
  behind : ∀ lexeme ∈ lexemes, offset ≤ lexeme.start
  /-- in front of the first span is a gap -/
  gapFront : ∀ first ∈ lexemes.head?, IsGapBetween line offset first.start
  /-- between neighbouring spans are gaps -/
  gapBetween : lexemes.IsChain fun left right => IsGapBetween line left.stop right.start
  /-- behind the last span is a gap, or blanks if it is content -/
  gapBehind : ∀ last ∈ lexemes.getLast?, ∃ rest,
    Text.slice? last.stop (Text.byteLength line) line = some rest ∧
      (∀ c ∈ rest, Text.isBlank c = true) ∧
      ((∀ text, last.token ≠ .content text) → IsGapText rest)
  /-- without a lexeme all is a gap -/
  gapOnly : lexemes = [] → IsGapBetween line offset (Text.byteLength line)
  /-- notes and content are last -/
  takesRest : ∀ lexeme ∈ lexemes.dropLast, ∀ text,
    lexeme.token ≠ .note text ∧ lexeme.token ≠ .content text
  /-- a note goes on to the end of the line -/
  noteStop : ∀ lexeme ∈ lexemes, ∀ text, lexeme.token = .note text →
    lexeme.stop = Text.byteLength line

/-- A gap that goes on to the end of the line. -/
theorem isGapBetween_end (hline : line = before ++ gap) (hgap : IsGapText gap) :
    IsGapBetween line (Text.byteLength before) (Text.byteLength line) := by
  have hslice := Text.slice?_append before gap []
  rw [List.append_nil, ← Text.byteLength_append, ← hline] at hslice
  exact ⟨gap, hslice, hgap⟩

theorem Covers.nil (hline : line = before ++ gap) (hgap : IsGapText gap) :
    Covers line (Text.byteLength before) [] where
  shown := List.forall_mem_nil _
  ordered := .nil
  behind := List.forall_mem_nil _
  gapFront := by simp
  gapBetween := .nil
  gapBehind := by simp
  gapOnly := fun _ => isGapBetween_end hline hgap
  takesRest := List.forall_mem_nil _
  noteStop := List.forall_mem_nil _

/-- Content takes what remains of a line, up to the blanks at its end. -/
theorem Covers.content (hline : line = before ++ (gap ++ body)) (hgap : IsGapText gap) :
    Covers line (Text.byteLength before) [⟨.content (String.ofList (Text.trimEnd body)),
      Text.byteLength before + Text.byteLength gap,
      Text.byteLength before + Text.byteLength gap + Text.byteLength (Text.trimEnd body)⟩] := by
  obtain ⟨blanks, hbody, hblanks⟩ := Text.exists_trimEnd_append body
  have hfront := Text.slice?_append before gap body
  have hshown := Text.slice?_append (before ++ gap) (Text.trimEnd body) blanks
  have hbehind := Text.slice?_append (before ++ gap ++ Text.trimEnd body) blanks []
  rw [List.append_nil] at hbehind
  -- all three are parts of this line
  have hparts : before ++ gap ++ (Text.trimEnd body ++ blanks) = line := by
    rw [hline, ← hbody, List.append_assoc]
  have hends : before ++ gap ++ Text.trimEnd body ++ blanks = line := by
    rw [← hparts, List.append_assoc]
  rw [← hline] at hfront
  rw [hparts] at hshown
  rw [hends, ← Text.byteLength_append, hends] at hbehind
  simp only [Text.byteLength_append] at hshown hbehind
  exact {
    shown := List.forall_mem_singleton.2 ⟨_, hshown, rfl⟩
    ordered := List.pairwise_singleton _ _
    behind := by simp
    gapFront := by simpa using ⟨gap, hfront, hgap⟩
    gapBetween := List.isChain_singleton _
    gapBehind := by simpa using ⟨blanks, hbehind, hblanks⟩
    gapOnly := by simp
    takesRest := by simp
    noteStop := by simp }

/-- A token in front of lexemes that cover what follows it. -/
theorem Covers.cons (hline : line = before ++ (gap ++ (text ++ rest))) (hgap : IsGapText gap)
    (hwritten : token.Written text) (hends : token.EndsBefore rest)
    (hmore : Covers line (Text.byteLength before + Text.byteLength gap + Text.byteLength text) more)
    (hlast : rest = [] → more = []) :
    Covers line (Text.byteLength before) (⟨token, Text.byteLength before + Text.byteLength gap,
      Text.byteLength before + Text.byteLength gap + Text.byteLength text⟩ :: more) := by
  have hfront := Text.slice?_append before gap (text ++ rest)
  have hshown := Text.slice?_append (before ++ gap) text rest
  rw [← hline] at hfront
  rw [List.append_assoc, ← hline, Text.byteLength_append] at hshown
  have hpos : 0 < Text.byteLength text :=
    Nat.pos_of_ne_zero fun hzero => hwritten.ne_nil (Text.byteLength_eq_zero_iff.1 hzero)
  -- a note ends its line, so nothing is left behind it
  have hnote : ∀ text, token = .note text → rest = [] := by
    rintro text rfl
    exact hends
  exact {
    shown := List.forall_mem_cons.2 ⟨⟨text, hshown, hwritten.showsAs⟩, hmore.shown⟩
    ordered := by
      refine List.pairwise_cons.2 ⟨fun lexeme hlexeme => ?_, hmore.ordered⟩
      have hbehind := hmore.behind lexeme hlexeme
      exact ⟨by dsimp only; omega, hbehind⟩
    behind := by
      refine List.forall_mem_cons.2 ⟨Nat.le_add_right _ _, fun lexeme hlexeme => ?_⟩
      have hbehind := hmore.behind lexeme hlexeme
      omega
    gapFront := by simpa using ⟨gap, hfront, hgap⟩
    gapBetween := List.isChain_cons.2 ⟨hmore.gapFront, hmore.gapBetween⟩
    gapBehind := by
      cases more with
      | nil =>
        obtain ⟨gap, hslice, hgap⟩ := hmore.gapOnly rfl
        simpa using ⟨gap, hslice, hgap.isBlank, fun _ => hgap⟩
      | cons second others => exact hmore.gapBehind
    gapOnly := by simp
    takesRest := by
      cases more with
      | nil => simp
      | cons second others =>
        refine List.forall_mem_cons.2 ⟨fun text => ⟨fun heq => ?_, ?_⟩, hmore.takesRest⟩
        · exact absurd (hlast (hnote text heq)) (List.cons_ne_nil _ _)
        · exact hwritten.ne_content text
    noteStop := by
      refine List.forall_mem_cons.2 ⟨fun text heq => ?_, hmore.noteStop⟩
      simp [hline, hnote text heq, Nat.add_assoc] }

/-- The lexemes of what remains of a line cover it. -/
theorem Cuts.covers (h : Cuts offset cs lexemes) (hline : line = before ++ cs)
    (hoffset : Text.byteLength before = offset) : Covers line offset lexemes := by
  induction h generalizing before with
  | nil hgap =>
    subst hoffset
    exact .nil hline hgap
  | content hgap =>
    subst hoffset
    exact .content hline hgap
  | @cons offset gap text rest token more hgap hwritten hends hmore ih =>
    subst hoffset
    have hrest : line = before ++ gap ++ text ++ rest := by
      rw [hline, List.append_assoc, List.append_assoc]
    -- what was read so far stands in front of the rest
    have hcovers := ih hrest (by rw [Text.byteLength_append, Text.byteLength_append])
    exact .cons hline hgap hwritten hends hcovers hmore.eq_nil

/-! ### In front of content -/

/-- What stands in front of content is read the same without it. -/
theorem Cuts.exists_front_of_content (h : Cuts offset cs lexemes) :
    ∀ lexeme ∈ lexemes, ∀ text, lexeme.token = .content text → ∃ front rest, cs = front ++ rest ∧
      lexeme.start = offset + Text.byteLength front ∧ scanAll offset front = lexemes.dropLast := by
  induction h with
  | nil => simp
  | @content offset gap body hgap =>
    refine List.forall_mem_singleton.2 fun text _ => ⟨gap, body, rfl, rfl, ?_⟩
    rw [scanAll_of_isGapText hgap, List.dropLast_singleton]
  | @cons offset gap read behind token more hgap hwritten hends hmore ih =>
    intro lexeme hlexeme text hcontent
    rcases List.mem_cons.1 hlexeme with rfl | hlexeme
    · exact absurd hcontent (hwritten.ne_content text)
    obtain ⟨front, rest, rfl, hstart, hfront⟩ := ih lexeme hlexeme text hcontent
    -- without the content the token has less behind it, so it still ends there
    refine ⟨gap ++ (read ++ front), rest, by simp, ?_, ?_⟩
    · rw [hstart, Text.byteLength_append, Text.byteLength_append]
      omega
    · rw [scanAll_append hgap hwritten hends.of_append, hfront,
        List.dropLast_cons_of_ne_nil (List.ne_nil_of_mem hlexeme)]

/-! ### The first line of a text -/

/-- The first line of a text. -/
def firstLine (input : String) : List Char :=
  (Text.lines input.toList).headD []

theorem ofLine_ofList (hcs : '\n' ∉ cs) : ofLine (String.ofList cs) = scanAll 0 cs := by
  rw [ofLine, String.toList_ofList, Text.headD_lines hcs]

/-- **The lexemes of the first line of a text** and the gaps around them are all of the line. What
stands in front of content has the lexemes in front of it. -/
theorem ofLine_covers_firstLine (input : String) :
    ofLine (String.ofList (firstLine input)) = ofLine input ∧
      Covers (firstLine input) 0 (ofLine input) ∧
      ∀ lexeme ∈ ofLine input, ∀ text, lexeme.token = .content text → ∃ front,
        Text.slice? 0 lexeme.start (firstLine input) = some front ∧
          ofLine (String.ofList front) = (ofLine input).dropLast := by
  have hnewline : '\n' ∉ firstLine input := Text.newline_notMem_headD_lines input.toList
  have hcuts : Cuts 0 (firstLine input) (ofLine input) := cuts_scanAll 0 (firstLine input)
  refine ⟨ofLine_ofList hnewline, hcuts.covers (List.nil_append _).symm rfl, ?_⟩
  intro lexeme hlexeme text hcontent
  obtain ⟨front, rest, hline, hstart, hfront⟩ :=
    hcuts.exists_front_of_content lexeme hlexeme text hcontent
  have hslice := Text.slice?_append [] front rest
  rw [hline, List.mem_append, not_or] at hnewline
  rw [Text.byteLength_nil, ← hstart, List.nil_append, ← hline] at hslice
  exact ⟨front, hslice, by rw [ofLine_ofList hnewline.1, hfront]⟩

end Lexeme

end CodeOutline
