import CodeOutline.Proofs.Statement.FileNames

/-!
# Which lines are statements

A line is a statement if and only if what is left of it without the blanks around it has one of seven
forms, and it says what its form says. The forms are described by the characters of the line, without
tokens. All other lines are blank, or a marker that is still being typed, or an error.

## Main definitions

* `Statement.Literal`: how the value of an assignment is written
* `Statement.Form`: how a statement is written

## Main results

* `Statement.form_iff`: the forms are the texts whose lexemes have the shape of a statement
* `Line.read_iff`: what a line says
-/

namespace CodeOutline

open Token

namespace Statement

variable {cs text gap rest : List Char} {offset : Nat} {lexeme : Lexeme} {lexemes more : List Lexeme}
  {statement : Statement} {token : Token} {value : String}

/-- How the value of an assignment is written: a string, a number, or a name that does not announce a
variable. -/
inductive Literal : List Char → String → Prop
  | string {body : List Char} (hbody : IsStringBody body) :
      Literal ('"' :: (body ++ ['"'])) (String.ofList body)
  | number {digits : List Char} (hdigits : IsNumber digits) : Literal digits (String.ofList digits)
  | name {name : List Char} (hname : IsName name) (hplain : ¬ IsVarName name) :
      Literal name (String.ofList name)

/-- How a statement is written. -/
inductive Form : List Char → Statement → Prop
  /-- `/name` -/
  | directory {gap name : List Char} (hgap : IsGapText gap) (hname : IsName name) :
      Form ('/' :: (gap ++ name)) (.directory (String.ofList name))
  /-- `/name/` -/
  | closedDirectory {gap gap' name : List Char} (hgap : IsGapText gap) (hname : IsName name)
      (hgap' : IsGapText gap') :
      Form ('/' :: (gap ++ (name ++ (gap' ++ ['/'])))) (.directory (String.ofList name))
  /-- `name.ext` -/
  | file {head tail word : List Char} (hhead : FileHead head) (htail : FileSegments tail word)
      (hknown : String.ofList word ∈ fileExtensions) :
      Form (head ++ tail) (.file (String.ofList (head ++ tail)) (String.ofList word))
  /-- `%Name` -/
  | component {name : List Char} (hname : IsWord name) :
      Form ('%' :: name) (.component (String.ofList name))
  /-- `$name()` -/
  | function {name : List Char} (hname : IsWord name) :
      Form ('$' :: (name ++ ['(', ')'])) (.function (String.ofList name))
  /-- `name = value` -/
  | assignment {name gap gap' text : List Char} {value : String} (hname : IsName name)
      (hgap : IsGapText gap) (hgap' : IsGapText gap') (hvalue : Literal text value) :
      Form (name ++ (gap ++ '=' :: (gap' ++ text))) (.assignment (String.ofList name) value)
  /-- `@name.name` -/
  | reference {name segments : List Char} (hname : IsWord name) (hsegments : IsSegments segments) :
      Form ('@' :: (name ++ segments)) (.reference (String.ofList (name ++ segments)))
  /-- `# text` -/
  | note (body : List Char) : Form ('#' :: body) (.note (String.ofList (Text.trim body)))

/-! ### From shapes to forms -/

open Lexeme (Reads)

theorem literal_of_written (h : token.Written text) (hvalue : token.value? = some value) :
    Literal text value := by
  cases h with
  | string hbody =>
    obtain rfl := Option.some.inj hvalue
    exact .string hbody
  | number hdigits =>
    obtain rfl := Option.some.inj hvalue
    exact .number hdigits
  | identifier hname hplain =>
    obtain rfl := Option.some.inj hvalue
    exact .name hname hplain
  | _ => simp [value?] at hvalue

/-- A text without a gap at its ends, whose lexemes have the shape of a statement, has its form. -/
theorem Shape.form (h : Shape lexemes statement) (hreads : Reads 0 cs lexemes)
    (hstop : StopsAt isGap cs) (hbehind : NoGapBehind cs) : Form cs statement := by
  cases h with
  | directory hopening hname =>
    obtain ⟨text, rest, rfl, hslash, -, -, hrest⟩ := hreads.exists_front hstop
    obtain ⟨gap, name, rfl, hgap, hwritten, hends⟩ := hrest.exists_last hbehind.of_append
    obtain ⟨hisName, rfl, -⟩ := hwritten.of_name? hends hname
    rw [hopening] at hslash
    cases hslash
    exact .directory hgap hisName
  | closedDirectory hopening hname hclosing =>
    obtain ⟨text, rest, rfl, hslash, -, -, hrest⟩ := hreads.exists_front hstop
    obtain ⟨gap, name, rest, rfl, hgap, hwritten, hends, hrest⟩ := hrest.exists_cons
    obtain ⟨gap', text', rfl, hgap', hslash', -⟩ :=
      hrest.exists_last hbehind.of_append.of_append.of_append
    obtain ⟨hisName, rfl, -⟩ := hwritten.of_name? hends hname
    rw [hopening] at hslash
    rw [hclosing] at hslash'
    cases hslash
    cases hslash'
    exact .closedDirectory hgap hisName hgap'
  | @file first last middle word hparts htouching hfirst hlast hknown =>
    obtain ⟨-, -, -, -, -, hstart, -⟩ := hreads.exists_front hstop
    have hspells := hreads.spells hbehind (by simpa using hstart) htouching
    have hgetLast : ((first :: (middle ++ [last])).map (·.token)).getLast? =
        some (.extension word) := by
      rw [List.map_cons, List.map_append, List.map_singleton, hlast, ← List.cons_append,
        List.getLast?_concat]
    have htokens : ∀ token ∈ (first :: (middle ++ [last])).map (·.token),
        token.isFileNamePart = true := List.forall_mem_map.2 hparts
    rw [joinedText_eq hspells hparts]
    rw [List.map_cons] at hspells hgetLast htokens
    obtain ⟨head, tail, rfl, hhead, htail⟩ :=
      hspells.exists_head_segments htokens hfirst hgetLast
    have hform := Form.file hhead htail (by rwa [String.ofList_toList])
    rwa [String.ofList_toList] at hform
  | component htoken =>
    have hwritten := hreads.written_of_singleton hstop hbehind
    rw [htoken] at hwritten
    cases hwritten with
    | component hname => exact .component hname
  | function htoken =>
    have hwritten := hreads.written_of_singleton hstop hbehind
    rw [htoken] at hwritten
    cases hwritten with
    | function hname => exact .function hname
  | assignment hname hsign hvalue =>
    obtain ⟨name, rest, rfl, hwritten, hends, -, hrest⟩ := hreads.exists_front hstop
    obtain ⟨gap, text, rest, rfl, hgap, hequals, -, hrest⟩ := hrest.exists_cons
    obtain ⟨gap', literal, rfl, hgap', hliteral, -⟩ :=
      hrest.exists_last hbehind.of_append.of_append.of_append
    obtain ⟨hisName, rfl, -⟩ := hwritten.of_name? hends hname
    rw [hsign] at hequals
    cases hequals
    have hform := Form.assignment hisName hgap hgap' (literal_of_written hliteral hvalue)
    exact hform
  | reference htoken =>
    have hwritten := hreads.written_of_singleton hstop hbehind
    rw [htoken] at hwritten
    cases hwritten with
    | reference hname hmore => exact .reference hname hmore
  | note htoken =>
    have hwritten := hreads.written_of_singleton hstop hbehind
    rw [htoken] at hwritten
    cases hwritten with
    | note body => exact .note body

/-! ### From forms to shapes -/

theorem exists_written_of_literal (h : Literal text value) :
    ∃ token : Token, token.Written text ∧ token.value? = some value := by
  cases h with
  | string hbody => exact ⟨_, .string hbody, rfl⟩
  | number hdigits => exact ⟨_, .number hdigits, rfl⟩
  | name hname hplain => exact ⟨_, .identifier hname hplain, rfl⟩

/-- No character of a name follows a name with a gap or a sign behind it. -/
theorem stopsAt_isNameChar_gap {c : Char} (hgap : IsGapText gap) (hc : isNameChar c = false) :
    StopsAt isNameChar (gap ++ c :: rest) := by
  cases gap with
  | nil => exact stopsAt_cons.2 hc
  | cons d gap =>
    refine stopsAt_cons.2 ?_
    by_contra hd
    have hgap := hgap d List.mem_cons_self
    rw [not_isGap_of_isNameChar (by simpa using hd)] at hgap
    exact Bool.false_ne_true hgap

/-- No known extension starts with a digit. -/
theorem stopsAt_isDigit_of_known {word : List Char} (h : String.ofList word ∈ fileExtensions) :
    StopsAt Text.isDigit word := by
  have hknown : ∀ extension ∈ fileExtensions,
      extension.toList.head?.all (!Text.isDigit ·) = true := by decide
  intro c hc
  have hhead := hknown _ h
  rw [String.toList_ofList, Option.mem_def.1 hc] at hhead
  simpa using hhead

/-- A text that has the form of a statement has lexemes of its shape. -/
theorem Form.exists_shape (h : Form cs statement) :
    ∃ lexemes, Reads 0 cs lexemes ∧ Shape lexemes statement := by
  cases h with
  | @directory gap name hgap hname =>
    have hreads : Reads 0 (['/'] ++ (gap ++ name)) _ :=
      .front .slash trivial (.last hgap (written_ofName hname))
    exact ⟨_, hreads, .directory rfl (name?_ofName _)⟩
  | @closedDirectory gap gap' name hgap hname hgap' =>
    have hends : (ofName name).EndsBefore (gap' ++ ['/']) :=
      endsBefore_ofName_iff.2 (stopsAt_isNameChar_gap hgap' rfl)
    have hreads : Reads 0 (['/'] ++ (gap ++ (name ++ (gap' ++ ['/'])))) _ :=
      .front .slash trivial (.cons hgap (written_ofName hname) hends (.last hgap' .slash))
    exact ⟨_, hreads, .closedDirectory rfl (name?_ofName _) rfl⟩
  | @file head tail word hhead htail hknown =>
    obtain ⟨first, middle, hspells, hparts, hfirst⟩ :=
      hhead.spellsFile htail (stopsAt_isDigit_of_known hknown)
    obtain ⟨lexemes, hreads, hmap, -, htouching⟩ := hspells.exists_reads 0
    have htokens : ∀ token ∈ lexemes.map (·.token), token.isFileNamePart = true := by
      rw [hmap, ← List.cons_append]
      exact List.forall_mem_append.2 ⟨hparts, List.forall_mem_singleton.2 rfl⟩
    have hjoined := joinedText_eq (hmap ▸ hspells) (List.forall_mem_map.1 htokens)
    -- the lexemes are cut as their tokens are
    obtain ⟨first, rest, rfl, rfl, hrest⟩ := List.map_eq_cons_iff.1 hmap
    obtain ⟨middle, others, rfl, rfl, hothers⟩ := List.map_eq_append_iff.1 hrest
    obtain ⟨last, rfl, hlast⟩ := List.map_eq_singleton_iff.1 hothers
    have hshape := Shape.file (List.forall_mem_map.1 htokens) htouching hfirst hlast hknown
    rw [hjoined] at hshape
    exact ⟨_, hreads, hshape⟩
  | component hname => exact ⟨_, .last isGapText_nil (.component hname), .component rfl⟩
  | function hname => exact ⟨_, .last isGapText_nil (.function hname), .function rfl⟩
  | @assignment name gap gap' text value hname hgap hgap' hvalue =>
    obtain ⟨token, hwritten, hvalue⟩ := exists_written_of_literal hvalue
    have hends : (ofName name).EndsBefore (gap ++ (['='] ++ (gap' ++ text))) :=
      endsBefore_ofName_iff.2 (stopsAt_isNameChar_gap hgap rfl)
    have hreads : Reads 0 (name ++ (gap ++ (['='] ++ (gap' ++ text)))) _ :=
      .front (written_ofName hname) hends (.cons hgap .equals trivial (.last hgap' hwritten))
    exact ⟨_, hreads, .assignment (name?_ofName _) rfl hvalue⟩
  | reference hname hsegments =>
    exact ⟨_, .last isGapText_nil (.reference hname hsegments), .reference rfl⟩
  | note body => exact ⟨_, .last isGapText_nil (.note body), .note rfl⟩

/-- A text without a gap at its ends has the form of a statement if and only if its lexemes have the
shape of the statement. -/
theorem form_iff (hstop : StopsAt isGap cs) (hbehind : NoGapBehind cs) :
    Form cs statement ↔ ∃ lexemes, Reads 0 cs lexemes ∧ Shape lexemes statement :=
  ⟨Form.exists_shape, fun ⟨_, hreads, hshape⟩ => hshape.form hreads hstop hbehind⟩

end Statement

/-! ### Lines -/

namespace Line

open Statement (Form)

/-- One or two marker characters. -/
def IsUnfinished (text : List Char) : Prop :=
  (text.length = 1 ∨ text.length = 2) ∧ ∀ c ∈ text, c ∈ ['$', '%', '@', '#', '!']

variable {line : String} {statement : Statement}

theorem isIncomplete_iff : isIncomplete line = true ↔ IsUnfinished (Text.trim line.toList) := by
  simp [isIncomplete, IsUnfinished, isMarkerChar, or_assoc]

theorem stopsAt_isGap_trim (line : String) : StopsAt isGap (Text.trim line.toList) := by
  cases htrim : Text.trim line.toList with
  | nil => exact stopsAt_nil _
  | cons c cs =>
    rw [stopsAt_cons, Bool.eq_false_iff]
    intro hgap
    have hblank := (Text.of_trim_eq_cons htrim).1
    rw [isBlank_of_isGap hgap] at hblank
    exact Bool.false_ne_true hblank.symm

theorem noGapBehind_trim (line : String) : NoGapBehind (Text.trim line.toList) := by
  intro c hc
  have hblank := Text.isBlank_of_getLast?_trimEnd hc
  rw [Bool.eq_false_iff]
  intro hgap
  rw [isBlank_of_isGap hgap] at hblank
  exact Bool.false_ne_true hblank.symm

theorem ofLine_trim (hline : '\n' ∉ line.toList) (hne : Text.trim line.toList ≠ []) :
    Lexeme.ofLine (String.ofList (Text.trim line.toList)) =
      Lexeme.scanAll 0 (Text.trim line.toList) := by
  have hsingle := Text.lines_eq_singleton (fun hmem => hline (Text.mem_of_mem_trim hmem)) hne
  rw [Lexeme.ofLine, String.toList_ofList, hsingle, List.headD_cons]

/-- A line is a statement if what is left of it without the blanks around it is not a marker and has
the form of the statement. -/
theorem read_eq_statement_iff (hline : '\n' ∉ line.toList) :
    read line = .ok (.statement statement) ↔
      ¬ IsUnfinished (Text.trim line.toList) ∧ Form (Text.trim line.toList) statement := by
  rw [Statement.form_iff (stopsAt_isGap_trim line) (noGapBehind_trim line), ← isIncomplete_iff,
    Bool.not_eq_true]
  constructor
  · intro h
    obtain ⟨hne, hcomplete, hread⟩ := ofLexemes_of_read h
    rw [ofLine_trim hline hne] at hread
    have hshape := Statement.shape_of_ofLexemes hread
    exact ⟨hcomplete, _, Lexeme.reads_iff.2 ⟨rfl, hshape.ne_content⟩, hshape⟩
  · rintro ⟨hcomplete, lexemes, hreads, hshape⟩
    have hscan := hreads.scanAll_eq
    have hne : Text.trim line.toList ≠ [] := by
      intro hnil
      rw [hnil, Lexeme.scanAll_of_isGapText isGapText_nil] at hscan
      subst hscan
      cases hshape
    have hempty : (String.ofList (Text.trim line.toList)).isEmpty = false := by simpa using hne
    simp only [read, hempty, hcomplete, Bool.false_eq_true, if_false, ofLine_trim hline hne, hscan]
    split
    · rename_i hlast
      exact absurd rfl (hshape.ne_content _ (List.mem_of_getLast? hlast) _)
    · rw [hshape.ofLexemes_eq_ok]

theorem not_isUnfinished_nil : ¬ IsUnfinished [] := by
  simp [IsUnfinished]

/-- A line that is neither blank nor a marker is a statement or an error. -/
theorem read_cases (line : String) :
    (Text.trim line.toList = [] ∧ read line = .ok .blank) ∨
      (IsUnfinished (Text.trim line.toList) ∧ read line = .ok .incomplete) ∨
        (Text.trim line.toList ≠ [] ∧ ¬ IsUnfinished (Text.trim line.toList) ∧
          ∀ said, read line = .ok said → ∃ statement, said = .statement statement) := by
  by_cases hnil : Text.trim line.toList = []
  · exact .inl ⟨hnil, by simp [read, hnil]⟩
  have hempty : (String.ofList (Text.trim line.toList)).isEmpty = false := by simpa using hnil
  by_cases hunfinished : IsUnfinished (Text.trim line.toList)
  · have hincomplete := isIncomplete_iff.2 hunfinished
    exact .inr (.inl ⟨hunfinished, by simp [read, hempty, hincomplete]⟩)
  have hcomplete : isIncomplete line = false :=
    Bool.eq_false_iff.2 fun h => hunfinished (isIncomplete_iff.1 h)
  refine .inr (.inr ⟨hnil, hunfinished, fun said h => ?_⟩)
  simp only [read, hempty, hcomplete, Bool.false_eq_true, if_false] at h
  split at h
  · simp at h
  · split at h
    · rename_i statement _
      exact ⟨statement, (Except.ok.inj h).symm⟩
    · simp at h

/-- **What a line says**, by the characters that are left of it without the blanks around it: it is
blank if there are none, a marker that is still being typed if there are one or two and all of them
markers, otherwise the statement whose form they have, and else an error. -/
theorem read_iff (line : String) (hline : '\n' ∉ line.toList) :
    let text := Text.trim line.toList
    (read line = .ok .blank ↔ text = []) ∧
      (read line = .ok .incomplete ↔ IsUnfinished text) ∧
      (∀ statement, read line = .ok (.statement statement) ↔
        ¬ IsUnfinished text ∧ Form text statement) ∧
      ((∃ cause, read line = .error cause) ↔
        text ≠ [] ∧ ¬ IsUnfinished text ∧ ∀ statement, ¬ Form text statement) := by
  intro text
  have hstatement : ∀ statement, read line = .ok (.statement statement) ↔
      ¬ IsUnfinished text ∧ Form text statement := fun _ => read_eq_statement_iff hline
  rcases read_cases line with ⟨hnil, hread⟩ | ⟨hunfinished, hread⟩ | ⟨hne, hunfinished, hsaid⟩
  · have hnot : ¬ IsUnfinished text := fun h => not_isUnfinished_nil (hnil ▸ h)
    exact ⟨iff_of_true hread hnil, by simp [hread, hnot], hstatement, by simp [hread, text, hnil]⟩
  · have hne : text ≠ [] := fun hnil => not_isUnfinished_nil (hnil ▸ hunfinished)
    exact ⟨by simp [hread, hne], iff_of_true hread hunfinished, hstatement,
      by simp [hread, text, hunfinished]⟩
  · have hother : ∀ said, (∀ statement, said ≠ .statement statement) → read line ≠ .ok said :=
      fun said hsaid' h => by
        obtain ⟨statement, rfl⟩ := hsaid said h
        exact hsaid' statement rfl
    refine ⟨iff_of_false (hother _ (by simp)) hne, iff_of_false (hother _ (by simp)) hunfinished,
      hstatement, ?_⟩
    constructor
    · rintro ⟨cause, hcause⟩
      refine ⟨hne, hunfinished, fun statement hform => ?_⟩
      have hok := (hstatement statement).2 ⟨hunfinished, hform⟩
      simp [hcause] at hok
    · rintro ⟨-, -, hform⟩
      cases hread : read line with
      | error cause => exact ⟨cause, rfl⟩
      | ok said =>
        obtain ⟨statement, rfl⟩ := hsaid said hread
        exact absurd ((hstatement statement).1 hread).2 (hform statement)

/-- A file name that starts with a number, goes on with a name and has two dots in a row. -/
theorem form_numbered_file :
    '\n' ∉ " 1.2x-y.z..ts\t".toList ∧
      Form "1.2x-y.z..ts".toList (.file "1.2x-y.z..ts" "ts") :=
  ⟨by decide, (((read_iff " 1.2x-y.z..ts\t" (by decide)).2.2.1 _).1 (by decide +kernel)).2⟩

end Line

end CodeOutline
