import CodeOutline.Proofs.Statement.Notes
import CodeOutline.Proofs.Text.Slices
import CodeOutline.Proofs.Token.Spelling

/-!
# How a line is cut into lexemes

A line is tokens with gaps between them. So its lexemes are known once the tokens are found that are
written one after another, each going on as long as it can.

## Main definitions

* `Lexeme.Reads`: a text is these lexemes, written one after another with gaps between them
* `Lexeme.Cuts`: the same, with content as the last lexeme where no token starts
* `Token.Spells`: a text is these tokens, written one after another without gaps

## Main results

* `Lexeme.cuts_scanAll`: how a text is cut into its lexemes
* `Lexeme.reads_iff`: the lexemes of a text that has no content besides them
* `Lexeme.Reads.spells`, `Token.Spells.exists_reads`: lexemes that touch have no gaps between them
-/

namespace CodeOutline

open Token

variable {gap cs text rest : List Char} {offset : Nat} {lexemes more : List Lexeme} {token : Token}

/-! ### Gaps -/

/-- Spaces, tabs and form feeds. -/
def Token.IsGapText (gap : List Char) : Prop :=
  ∀ c ∈ gap, isGap c = true

theorem Token.isGapText_nil : IsGapText [] :=
  List.forall_mem_nil _

/-- No character of a name stands in a gap. -/
theorem Token.not_isGap_of_isNameChar {c : Char} (h : isNameChar c = true) : isGap c = false := by
  by_contra hgap
  simp only [isGap, Bool.not_eq_false, Bool.or_eq_true, beq_iff_eq, or_assoc] at hgap
  rcases hgap with rfl | rfl | rfl <;> exact absurd h (by decide)

/-- No token starts with a gap. -/
theorem Token.Written.stopsAt_isGap (h : token.Written text) (hends : token.EndsBefore rest) :
    StopsAt isGap (text ++ rest) := by
  have hscan := h.scan_append hends
  intro c hc
  obtain ⟨cs, hcs⟩ := List.head?_eq_some_iff.1 hc
  rw [hcs] at hscan
  by_contra hgap
  rw [scan_of_isGap (by simpa using hgap)] at hscan
  simp at hscan

theorem Token.Written.ne_content (h : token.Written text) (content : String) :
    token ≠ .content content := by
  rintro rfl
  cases h

namespace Lexeme

/-- A text is these lexemes, written one after another with gaps between them. The first lexeme
starts behind `offset` bytes and the first gap. -/
inductive Reads : Nat → List Char → List Lexeme → Prop
  | nil {offset : Nat} {gap : List Char} (hgap : IsGapText gap) : Reads offset gap []
  | cons {offset : Nat} {gap text rest : List Char} {token : Token} {more : List Lexeme}
      (hgap : IsGapText gap) (hwritten : token.Written text) (hends : token.EndsBefore rest)
      (hmore : Reads (offset + Text.byteLength gap + Text.byteLength text) rest more) :
      Reads offset (gap ++ (text ++ rest)) (⟨token, offset + Text.byteLength gap,
        offset + Text.byteLength gap + Text.byteLength text⟩ :: more)

theorem scanAll_of_isGapText (hgap : IsGapText gap) : scanAll offset gap = [] := by
  have hdrop : gap.dropWhile isGap = [] := List.dropWhile_eq_nil_iff.2 hgap
  rw [scanAll]
  split
  · rename_i heq
    simp [hdrop, scan] at heq
  · simp [hdrop]

theorem scanAll_append (hgap : IsGapText gap) (hwritten : token.Written text)
    (hends : token.EndsBefore rest) : scanAll offset (gap ++ (text ++ rest)) =
      ⟨token, offset + Text.byteLength gap, offset + Text.byteLength gap + Text.byteLength text⟩ ::
        scanAll (offset + Text.byteLength gap + Text.byteLength text) rest := by
  obtain ⟨htake, hdrop⟩ := cut_eq_iff.2 ⟨rfl, hgap, hwritten.stopsAt_isGap hends⟩
  have hscan := hwritten.scan_append hends
  rw [scanAll]
  simp only [htake, hdrop]
  split
  · rename_i heq
    rw [hdrop, hscan] at heq
    simp only [Option.some.injEq, Prod.mk.injEq] at heq
    obtain ⟨rfl, rfl, rfl⟩ := heq
    rfl
  · rename_i heq
    rw [hdrop, hscan] at heq
    simp at heq

theorem Reads.scanAll_eq (h : Reads offset cs lexemes) : scanAll offset cs = lexemes := by
  induction h with
  | nil hgap => exact scanAll_of_isGapText hgap
  | cons hgap hwritten hends hmore ih => rw [scanAll_append hgap hwritten hends, ih]

theorem Reads.ne_content (h : Reads offset cs lexemes) :
    ∀ lexeme ∈ lexemes, ∀ text, lexeme.token ≠ .content text := by
  induction h with
  | nil => simp
  | cons _ hwritten _ _ ih => exact List.forall_mem_cons.2 ⟨hwritten.ne_content, ih⟩

/-- What remains of a line is cut into tokens with gaps between them. Where no token starts, the rest
is content. -/
inductive Cuts : Nat → List Char → List Lexeme → Prop
  | nil {offset : Nat} {gap : List Char} (hgap : IsGapText gap) : Cuts offset gap []
  | content {offset : Nat} {gap body : List Char} (hgap : IsGapText gap) (hne : body ≠ [])
      (hscan : scan body = none) :
      Cuts offset (gap ++ body) [⟨.content (String.ofList (Text.trimEnd body)),
        offset + Text.byteLength gap,
        offset + Text.byteLength gap + Text.byteLength (Text.trimEnd body)⟩]
  | cons {offset : Nat} {gap text rest : List Char} {token : Token} {more : List Lexeme}
      (hgap : IsGapText gap) (hwritten : token.Written text) (hends : token.EndsBefore rest)
      (hmore : Cuts (offset + Text.byteLength gap + Text.byteLength text) rest more) :
      Cuts offset (gap ++ (text ++ rest)) (⟨token, offset + Text.byteLength gap,
        offset + Text.byteLength gap + Text.byteLength text⟩ :: more)

/-- The lexemes of a text are those that it is cut into. -/
theorem cuts_scanAll (offset : Nat) (cs : List Char) : Cuts offset cs (scanAll offset cs) := by
  fun_induction scanAll offset cs with
  | case1 offset cs start body token text rest hscan stop ih =>
    obtain ⟨hbody, hwritten, hends⟩ := scan_eq_some_iff.1 hscan
    obtain ⟨hcs, hgap, -⟩ := cut_eq_iff.1 ⟨rfl, hbody⟩
    have hcuts := Cuts.cons hgap hwritten hends ih
    rwa [← hcs] at hcuts
  | case2 offset cs body hscan hempty =>
    have hgap : IsGapText cs := List.dropWhile_eq_nil_iff.1 (by simpa [body] using hempty)
    exact .nil hgap
  | case3 offset cs start body hscan hempty text =>
    obtain ⟨hcs, hgap, -⟩ := cut_eq_iff.1 ⟨rfl, rfl⟩
    have hcuts : Cuts offset (cs.takeWhile isGap ++ body) [_] :=
      .content hgap (by simpa using hempty) hscan
    rwa [← hcs] at hcuts

theorem Cuts.reads (h : Cuts offset cs lexemes)
    (hcontent : ∀ lexeme ∈ lexemes, ∀ text, lexeme.token ≠ .content text) :
    Reads offset cs lexemes := by
  induction h with
  | nil hgap => exact .nil hgap
  | content => exact absurd rfl (hcontent _ List.mem_cons_self _)
  | cons hgap hwritten hends _ ih =>
    exact .cons hgap hwritten hends (ih (List.forall_mem_cons.1 hcontent).2)

/-- **The lexemes of a text** without content are those that are written one after another. -/
theorem reads_iff : Reads offset cs lexemes ↔ scanAll offset cs = lexemes ∧
    ∀ lexeme ∈ lexemes, ∀ text, lexeme.token ≠ .content text := by
  constructor
  · exact fun h => ⟨h.scanAll_eq, h.ne_content⟩
  · rintro ⟨rfl, hcontent⟩
    exact (cuts_scanAll offset cs).reads hcontent

end Lexeme

/-! ### Ends of a text -/

/-- A text does not end with a gap. -/
def Token.NoGapBehind (cs : List Char) : Prop :=
  ∀ c ∈ cs.getLast?, isGap c = false

theorem Token.NoGapBehind.of_append (h : NoGapBehind (text ++ rest)) : NoGapBehind rest := by
  intro c hc
  refine h c ?_
  rw [List.getLast?_append, Option.mem_def.1 hc]
  rfl

theorem Token.NoGapBehind.eq_nil (h : NoGapBehind gap) (hgap : IsGapText gap) : gap = [] := by
  by_contra hne
  have hlast := hgap _ (List.getLast_mem hne)
  rw [h _ (List.getLast?_eq_some_getLast hne)] at hlast
  exact Bool.false_ne_true hlast

theorem Token.IsGapText.eq_nil_of_stopsAt (h : IsGapText gap) (hstop : StopsAt isGap (gap ++ rest)) :
    gap = [] := by
  cases gap with
  | nil => rfl
  | cons c gap =>
    have hc := h c List.mem_cons_self
    rw [stopsAt_cons.1 hstop] at hc
    exact absurd hc Bool.false_ne_true

namespace Lexeme.Reads

variable {lexeme : Lexeme}

theorem exists_cons (h : Reads offset cs (lexeme :: more)) :
    ∃ gap text rest, cs = gap ++ (text ++ rest) ∧ IsGapText gap ∧ lexeme.token.Written text ∧
      lexeme.token.EndsBefore rest ∧ Reads lexeme.stop rest more := by
  cases h with
  | cons hgap hwritten hends hmore => exact ⟨_, _, _, rfl, hgap, hwritten, hends, hmore⟩

/-- Where a text starts without a gap, its first lexeme stands at its front. -/
theorem exists_front (h : Reads offset cs (lexeme :: more)) (hstop : StopsAt isGap cs) :
    ∃ text rest, cs = text ++ rest ∧ lexeme.token.Written text ∧ lexeme.token.EndsBefore rest ∧
      lexeme.start = offset ∧ Reads lexeme.stop rest more := by
  cases h with
  | @cons _ gap text rest _ _ hgap hwritten hends hmore =>
    obtain rfl := hgap.eq_nil_of_stopsAt hstop
    exact ⟨text, rest, rfl, hwritten, hends, rfl, hmore⟩

theorem eq_nil (h : Reads offset cs []) (hbehind : NoGapBehind cs) : cs = [] := by
  cases h with
  | nil hgap => exact hbehind.eq_nil hgap

/-- The last lexeme of a text that does not end with a gap. -/
theorem exists_last (h : Reads offset cs [lexeme]) (hbehind : NoGapBehind cs) :
    ∃ gap text, cs = gap ++ text ∧ IsGapText gap ∧ lexeme.token.Written text ∧
      lexeme.token.EndsBefore [] := by
  obtain ⟨gap, text, rest, rfl, hgap, hwritten, hends, hmore⟩ := h.exists_cons
  obtain rfl := hmore.eq_nil hbehind.of_append.of_append
  exact ⟨gap, text, by rw [List.append_nil], hgap, hwritten, hends⟩

/-- A single lexeme is all of its text. -/
theorem written_of_singleton (h : Reads offset cs [lexeme]) (hstop : StopsAt isGap cs)
    (hbehind : NoGapBehind cs) : lexeme.token.Written cs := by
  obtain ⟨text, rest, rfl, hwritten, -, -, hmore⟩ := h.exists_front hstop
  rw [hmore.eq_nil hbehind.of_append, List.append_nil]
  exact hwritten

/-- A token in front of other lexemes. -/
theorem front (hwritten : token.Written text) (hends : token.EndsBefore rest)
    (hmore : Reads (offset + Text.byteLength text) rest more) :
    Reads offset (text ++ rest) (⟨token, offset, offset + Text.byteLength text⟩ :: more) :=
  .cons isGapText_nil hwritten hends hmore

/-- A token at the end of a text. -/
theorem last (hgap : IsGapText gap) (hwritten : token.Written text) :
    Reads offset (gap ++ text) [⟨token, offset + Text.byteLength gap,
      offset + Text.byteLength gap + Text.byteLength text⟩] := by
  have hreads : Reads offset (gap ++ (text ++ [])) _ :=
    .cons hgap hwritten (endsBefore_nil token) (.nil isGapText_nil)
  rwa [List.append_nil] at hreads

end Lexeme.Reads

/-! ### Lexemes that touch -/

/-- A text is these tokens, written one after another without gaps. -/
inductive Token.Spells : List Char → List Token → Prop
  | nil : Spells [] []
  | cons {text rest : List Char} {token : Token} {more : List Token}
      (hwritten : token.Written text) (hends : token.EndsBefore rest) (hmore : Spells rest more) :
      Spells (text ++ rest) (token :: more)

open Statement in
/-- Lexemes that touch, from the front of a text to its end, have no gaps between them. -/
theorem Lexeme.Reads.spells (h : Reads offset cs lexemes) (hbehind : NoGapBehind cs)
    (hstart : ∀ lexeme ∈ lexemes.head?, lexeme.start = offset)
    (htouching : touching lexemes = true) : Spells cs (lexemes.map (·.token)) := by
  induction h with
  | nil hgap =>
    rw [hbehind.eq_nil hgap]
    exact .nil
  | @cons offset gap text rest token more hgap hwritten hends hmore ih =>
    -- the first lexeme starts where the text does
    obtain rfl := Text.byteLength_eq_zero_iff.1 (Nat.add_left_cancel (hstart _ rfl))
    rw [List.nil_append, List.map_cons]
    refine .cons hwritten hends (ih hbehind.of_append.of_append ?_ ?_)
    · intro lexeme hlexeme
      obtain ⟨others, rfl⟩ := List.head?_eq_some_iff.1 hlexeme
      simp only [touching, Bool.and_eq_true, beq_iff_eq] at htouching
      exact htouching.1.symm
    · cases more with
      | nil => rfl
      | cons second others =>
        simp only [touching, Bool.and_eq_true] at htouching
        exact htouching.2

open Statement in
/-- Tokens without gaps between them are read as lexemes that touch. -/
theorem Token.Spells.exists_reads {tokens : List Token} (h : Spells cs tokens) (offset : Nat) :
    ∃ lexemes, Lexeme.Reads offset cs lexemes ∧ lexemes.map (·.token) = tokens ∧
      (∀ lexeme ∈ lexemes.head?, lexeme.start = offset) ∧ touching lexemes = true := by
  induction h generalizing offset with
  | nil => exact ⟨[], .nil isGapText_nil, rfl, by simp, rfl⟩
  | @cons text rest token more hwritten hends hmore ih =>
    obtain ⟨lexemes, hreads, rfl, hstart, htouching⟩ := ih (offset + Text.byteLength text)
    refine ⟨_, .front hwritten hends hreads, rfl, by simp, ?_⟩
    cases lexemes with
    | nil => rfl
    | cons second others =>
      simp only [touching, Bool.and_eq_true, beq_iff_eq]
      exact ⟨(hstart second rfl).symm, htouching⟩

end CodeOutline
