import CodeOutline.Proofs.Statement.Names
import CodeOutline.Proofs.Text.Lines

/-!
# Notes say something

The text of a note is free, but it is not empty: a marker with nothing behind it is a line that is
still being typed. So no node is read without a name.

## Main results

* `Token.eq_cons_of_scan_note`: the text of a note is what stands behind its marker
* `Statement.exists_note_of_ofLexemes`: a note is a line of its own
* `Line.name_ne_empty_of_read`: no node is read without a name
-/

namespace CodeOutline

namespace Token

theorem ofName_ne_note (name : List Char) (text : String) : ofName name ≠ .note text := by
  unfold ofName
  split
  · split <;> simp
  · simp

/-- The text of a note is what stands behind its marker. -/
theorem eq_cons_of_scan_note {cs read rest : List Char} {text : String}
    (h : scan cs = some (.note text, read, rest)) :
    ∃ body, cs = '#' :: body ∧ text = String.ofList (Text.trim body) := by
  -- only the first rule, that of the marker, makes a note
  unfold scan at h
  split at h
  · simp at h
  · rename_i body
    obtain ⟨htoken, -⟩ := Prod.mk.inj (Option.some.inj h)
    exact ⟨body, rfl, (Token.note.inj htoken).symm⟩
  · simp at h
  · simp at h
  · simp at h
  · split at h <;> simp at h
  · split at h <;> simp at h
  · simp at h
  · simp at h
  · split at h
    · simp at h
    · split at h
      · obtain ⟨htoken, -⟩ := Prod.mk.inj (Option.some.inj h)
        exact absurd htoken (ofName_ne_note _ _)
      · simp at h

theorem isBlank_of_isGap {c : Char} (h : isGap c = true) : Text.isBlank c = true := by
  simp only [isGap, Bool.or_eq_true, beq_iff_eq, or_assoc] at h
  rcases h with rfl | rfl | rfl <;> decide

end Token

/-- A text that starts without a gap and whose first lexeme is a note starts with the marker. -/
theorem Lexeme.eq_cons_of_scanAll_note {offset : Nat} {c : Char} {cs : List Char}
    {lexeme : Lexeme} {more : List Lexeme} {text : String} (hgap : Token.isGap c = false)
    (h : scanAll offset (c :: cs) = lexeme :: more) (hnote : lexeme.token = .note text) :
    c = '#' ∧ text = String.ofList (Text.trim cs) := by
  have hbody : (c :: cs).dropWhile Token.isGap = c :: cs := by simp [hgap]
  rw [scanAll] at h
  simp only [hbody] at h
  split at h
  · rename_i token read rest hscan
    obtain ⟨rfl, -⟩ := List.cons.inj h
    obtain rfl : token = .note text := hnote
    rw [hbody] at hscan
    obtain ⟨body, hcs, htext⟩ := Token.eq_cons_of_scan_note hscan
    obtain ⟨rfl, rfl⟩ := List.cons.inj hcs
    exact ⟨rfl, htext⟩
  · simp only [List.isEmpty_cons, Bool.false_eq_true, if_false] at h
    obtain ⟨rfl, -⟩ := List.cons.inj h
    simp at hnote

namespace Statement

variable {first : Lexeme} {rest others lexemes : List Lexeme} {name text : String}

theorem readDirectory_ne_note : readDirectory rest ≠ .ok (.note text) := by
  intro h
  unfold readDirectory at h
  split at h
  · simp at h
  · split at h
    · simp at h
    · split at h
      · simpa using eq_of_finish h
      · split at h <;> simpa using eq_of_finish h

theorem readFile_ne_note : readFile first others ≠ .ok (.note text) := by
  intro h
  simp only [readFile] at h
  split at h
  · simp at h
  · split at h
    · simp at h
    · split at h <;> simp at h

theorem readAssignment_ne_note : readAssignment name rest ≠ .ok (.note text) := by
  intro h
  unfold readAssignment at h
  split at h
  · simp at h
  · split at h
    · split at h
      · simp at h
      · split at h
        · simpa using eq_of_finish h
        · simp at h
    · simp at h

theorem readNamed_ne_note : readNamed first rest ≠ .ok (.note text) := by
  intro h
  simp only [readNamed] at h
  split at h
  · split at h
    · exact readAssignment_ne_note h
    · simp at h
  · split at h
    · rename_i hfile
      rw [← eq_of_finish h] at hfile
      exact readFile_ne_note hfile
    · simp at h

/-- A statement is a note only if its line starts with one. -/
theorem exists_note_of_ofLexemes (h : ofLexemes lexemes = .ok (.note text)) :
    ∃ lexeme more, lexemes = lexeme :: more ∧ lexeme.token = .note text := by
  cases lexemes with
  | nil => simp [ofLexemes] at h
  | cons first rest =>
    refine ⟨first, rest, rfl, ?_⟩
    simp only [ofLexemes] at h
    split at h
    · exact absurd h readDirectory_ne_note
    · simpa using eq_of_finish h
    · simpa using eq_of_finish h
    · simpa using eq_of_finish h
    · rename_i htoken
      rw [htoken, Statement.note.inj (eq_of_finish h)]
    · split at h
      · exact absurd h readNamed_ne_note
      · simp at h

end Statement

namespace Line

variable {line text : String}

theorem ofLexemes_of_read {statement : Statement} (h : Line.read line = .ok (.statement statement)) :
    Text.trim line.toList ≠ [] ∧ isIncomplete line = false ∧
      Statement.ofLexemes (Lexeme.ofLine (String.ofList (Text.trim line.toList))) =
        .ok statement := by
  simp only [Line.read] at h
  split at h
  · simp at h
  · rename_i hempty
    split at h
    · simp at h
    · rename_i hcomplete
      split at h
      · simp at h
      · split at h
        · rename_i hread
          obtain rfl := Line.statement.inj (Except.ok.inj h)
          exact ⟨by simpa using hempty, by simpa using hcomplete, hread⟩
        · simp at h

/-- A note of a single line has a text. -/
theorem note_ne_empty_of_read (hline : '\n' ∉ line.toList)
    (h : Line.read line = .ok (.statement (.note text))) : text ≠ "" := by
  obtain ⟨hne, hcomplete, hread⟩ := ofLexemes_of_read h
  obtain ⟨lexeme, more, hlexemes, hnote⟩ := Statement.exists_note_of_ofLexemes hread
  have hsingle := Text.lines_eq_singleton (fun hmem => hline (Text.mem_of_mem_trim hmem)) hne
  rw [Lexeme.ofLine, String.toList_ofList, hsingle, List.headD_cons] at hlexemes
  cases htrim : Text.trim line.toList with
  | nil => exact absurd htrim hne
  | cons c body =>
    obtain ⟨hblank, hbody⟩ := Text.of_trim_eq_cons htrim
    have hgap : Token.isGap c = false := by
      by_contra hc
      simp [Token.isBlank_of_isGap (by simpa using hc)] at hblank
    rw [htrim] at hlexemes
    obtain ⟨rfl, rfl⟩ := Lexeme.eq_cons_of_scanAll_note hgap hlexemes hnote
    -- if nothing but blanks stood behind the marker, the line would end with the marker
    intro hempty
    have hnil : Text.trim body = [] := by simpa using hempty
    rw [Text.trim_eq_nil_iff, ← Text.trimEnd_eq_nil_iff, hbody] at hnil
    subst hnil
    simp [isIncomplete, htrim, isMarkerChar] at hcomplete

/-- No node is read without a name. -/
theorem name_ne_empty_of_read {statement : Statement} {node : Node} (hline : '\n' ∉ line.toList)
    (h : Line.read line = .ok (.statement statement))
    (hnode : Node.ofStatement? statement = some node) : node.name ≠ "" := by
  have hnames := wellNamed_of_read h node hnode
  have hmade : ∀ {isAllowed}, Token.MadeOf isAllowed node.name.toList → node.name ≠ "" := by
    intro isAllowed hmade hempty
    exact hmade.1 (by simp [hempty])
  cases hkind : node.kind with
  | directory | component | function | reference =>
    rw [hkind] at hnames
    exact hmade hnames
  | file =>
    rw [hkind] at hnames
    exact hmade hnames.1
  | note =>
    cases statement with
    | note text =>
      obtain rfl := Option.some.inj hnode
      exact note_ne_empty_of_read hline h
    | assignment name value => simp [Node.ofStatement?] at hnode
    | _ =>
      obtain rfl := Option.some.inj hnode
      simp [Node.named] at hkind

end Line

end CodeOutline
