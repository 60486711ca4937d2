import Mathlib.Data.List.TakeWhile
import CodeOutline.Outline

/-!
# The names a line can give

What a line calls its node is made of the texts of its tokens, and each kind of token has its own
characters. A directory's name holds neither a dot nor a slash, a file's name holds a dot but no
slash. So a name tells a directory from a file, and no name reaches across a slash of a path.

## Main definitions

* `Token.Spelled`: a token's text consists of the characters of its kind
* `NodeKind.Names`: a text that a node of a kind can have as its name
* `Statement.WellNamed`: what a statement calls its node is such a text

## Main results

* `Token.spelled_of_scan`: every token that is read is spelled with the characters of its kind
* `Statement.wellNamed_of_ofLexemes`, `Line.wellNamed_of_read`: every node that is read has a name
  of its kind
* `NodeKind.Names.kind_eq`: no text names both a directory and a file
-/

namespace CodeOutline

/-! ### Tokens -/

namespace Token

/-- Characters of a name, and dots. -/
def isDottedChar (c : Char) : Bool :=
  isNameChar c || c == '.'

/-- A text that is not empty and consists of some characters only. -/
def MadeOf (isAllowed : Char → Bool) (cs : List Char) : Prop :=
  cs ≠ [] ∧ ∀ c ∈ cs, isAllowed c = true

/-- The text of a token consists of the characters of its kind. -/
def Spelled : Token → Prop
  | .identifier name | .varName name => MadeOf isNameChar name.toList
  | .component name | .function name | .extension name => MadeOf isWordChar name.toList
  | .number digits => MadeOf isDottedChar digits.toList
  | .reference name => MadeOf isDottedChar name.toList
  | _ => True

theorem isWordChar_of_isNameStart {c : Char} (h : isNameStart c = true) : isWordChar c = true := by
  simp only [isNameStart, Bool.or_eq_true] at h
  simp only [isWordChar, Bool.or_eq_true]
  exact h.imp_left Or.inl

theorem isNameChar_of_isWordChar {c : Char} (h : isWordChar c = true) : isNameChar c = true := by
  simp [isNameChar, h]

theorem isDottedChar_of_isNameChar {c : Char} (h : isNameChar c = true) :
    isDottedChar c = true := by
  simp [isDottedChar, h]

theorem isDottedChar_of_isWordChar {c : Char} (h : isWordChar c = true) : isDottedChar c = true :=
  isDottedChar_of_isNameChar (isNameChar_of_isWordChar h)

theorem isDottedChar_of_isDigit {c : Char} (h : Text.isDigit c = true) : isDottedChar c = true :=
  isDottedChar_of_isWordChar (by simp [isWordChar, h])

theorem madeOf_takeWhile {isAllowed : Char → Bool} {c : Char} {cs : List Char}
    (h : isAllowed c = true) : MadeOf isAllowed (c :: cs.takeWhile isAllowed) := by
  refine ⟨List.cons_ne_nil _ _, ?_⟩
  intro d hd
  rcases List.mem_cons.1 hd with rfl | hd
  · exact h
  · exact List.mem_takeWhile_imp hd

theorem madeOf_of_scanWord {cs word rest : List Char} (h : scanWord cs = some (word, rest)) :
    MadeOf isWordChar word := by
  cases cs with
  | nil => simp [scanWord] at h
  | cons c cs =>
    simp only [scanWord] at h
    split at h
    · rename_i hstart
      obtain ⟨rfl, -⟩ := Prod.mk.inj (Option.some.inj h)
      exact madeOf_takeWhile (isWordChar_of_isNameStart hstart)
    · simp at h

theorem isDottedChar_of_mem_scanSegments {cs : List Char} {d : Char} (h : d ∈ (scanSegments cs).1) :
    isDottedChar d = true := by
  fun_induction scanSegments cs with
  | case1 c cs hstart more rest heq ih =>
    simp only [heq, List.mem_append, List.mem_cons] at h ih
    rcases h with (rfl | rfl | h) | h
    · rfl
    · exact isDottedChar_of_isWordChar (isWordChar_of_isNameStart hstart)
    · exact isDottedChar_of_isWordChar (List.mem_takeWhile_imp h)
    · exact ih h
  | case2 => simp at h
  | case3 => simp at h

theorem isDottedChar_of_mem_scanNumber {cs : List Char} {d : Char} (h : d ∈ (scanNumber cs).1) :
    isDottedChar d = true := by
  have hrun : ∀ {cs : List Char}, d ∈ cs.takeWhile Text.isDigit → isDottedChar d = true :=
    fun hd => isDottedChar_of_isDigit (List.mem_takeWhile_imp hd)
  unfold scanNumber at h
  split at h
  · split at h
    · rename_i rest _ hdigit
      simp only [List.mem_append, List.mem_cons] at h
      rcases h with h | rfl | rfl | h
      · exact hrun h
      · rfl
      · exact isDottedChar_of_isDigit hdigit
      · exact hrun h
    · exact hrun h
  · exact hrun h

theorem spelled_ofName {name : List Char} (h : MadeOf isNameChar name) : (ofName name).Spelled := by
  unfold ofName
  split
  · split <;> simpa [Spelled] using h
  · simpa [Spelled] using h

/-- Every token that is read is spelled with the characters of its kind. -/
theorem spelled_of_scan {cs text rest : List Char} {t : Token}
    (h : scan cs = some (t, text, rest)) : t.Spelled := by
  -- one case for every rule, in the order of the rules
  unfold scan at h
  split at h
  · simp at h
  · -- notes and strings are free texts
    obtain ⟨rfl, -⟩ := Prod.mk.inj (Option.some.inj h)
    trivial
  · obtain ⟨⟨body, rest'⟩, -, h⟩ := Option.map_eq_some_iff.1 h
    obtain ⟨rfl, -⟩ := Prod.mk.inj h
    trivial
  · obtain ⟨⟨name, rest'⟩, hname, h⟩ := Option.map_eq_some_iff.1 h
    obtain ⟨rfl, -⟩ := Prod.mk.inj h
    simpa [Spelled] using madeOf_of_scanWord hname
  · -- a reference is a word and further segments behind dots
    obtain ⟨⟨name, rest'⟩, hname, h⟩ := Option.map_eq_some_iff.1 h
    obtain ⟨rfl, -⟩ := Prod.mk.inj h
    have hword := madeOf_of_scanWord hname
    simp only [Spelled, String.toList_ofList]
    refine ⟨by simp [hword.1], ?_⟩
    intro c hc
    rcases List.mem_append.1 hc with hc | hc
    · exact isDottedChar_of_isWordChar (hword.2 c hc)
    · exact isDottedChar_of_mem_scanSegments hc
  · split at h
    · rename_i name rest' hname
      obtain ⟨rfl, -⟩ := Prod.mk.inj (Option.some.inj h)
      simpa [Spelled] using madeOf_of_scanWord hname
    · simp at h
  · split at h
    · obtain ⟨rfl, -⟩ := Prod.mk.inj (Option.some.inj h)
      trivial
    · rename_i cs hne
      obtain ⟨rfl, -⟩ := Prod.mk.inj (Option.some.inj h)
      simp only [Spelled, String.toList_ofList]
      exact ⟨hne, fun c hc => List.mem_takeWhile_imp hc⟩
  · obtain ⟨rfl, -⟩ := Prod.mk.inj (Option.some.inj h)
    trivial
  · obtain ⟨rfl, -⟩ := Prod.mk.inj (Option.some.inj h)
    trivial
  · -- the first character decides between a number and a name
    rename_i c cs _ _ _ _ _ _ _ _
    split at h
    · rename_i hdigit
      obtain ⟨rfl, -⟩ := Prod.mk.inj (Option.some.inj h)
      simp only [Spelled, String.toList_ofList]
      exact ⟨scanNumber_ne_nil hdigit, fun d hd => isDottedChar_of_mem_scanNumber hd⟩
    · split at h
      · rename_i hstart
        obtain ⟨rfl, -⟩ := Prod.mk.inj (Option.some.inj h)
        exact spelled_ofName
          (madeOf_takeWhile (isNameChar_of_isWordChar (isWordChar_of_isNameStart hstart)))
      · simp at h

end Token

theorem Lexeme.spelled_of_mem_scanAll {offset : Nat} {cs : List Char} {lexeme : Lexeme}
    (h : lexeme ∈ scanAll offset cs) : lexeme.token.Spelled := by
  fun_induction scanAll offset cs with
  | case1 offset cs start body token text rest hscan stop ih =>
    rcases List.mem_cons.1 h with rfl | h
    · exact Token.spelled_of_scan hscan
    · exact ih h
  | case2 => simp at h
  | case3 =>
    obtain rfl := List.mem_singleton.1 h
    trivial

namespace Lexeme

theorem spelled_of_mem_ofLine {line : String} {lexeme : Lexeme} (h : lexeme ∈ ofLine line) :
    lexeme.token.Spelled :=
  spelled_of_mem_scanAll h

end Lexeme

/-! ### Names -/

namespace NodeKind

/-- A text that a node of a kind can have as its name. The text of a note is free. -/
def Names : NodeKind → String → Prop
  | .directory, name => Token.MadeOf Token.isNameChar name.toList
  | .file, name => Token.MadeOf Token.isDottedChar name.toList ∧ '.' ∈ name.toList
  | .component, name | .function, name => Token.MadeOf Token.isWordChar name.toList
  | .reference, name => Token.MadeOf Token.isDottedChar name.toList
  | .note, _ => True

namespace Names

variable {kind kind' : NodeKind} {name : String}

theorem isDottedChar_of_mem {c : Char} (h : kind.Names name) (hkind : kind.isContainer = true)
    (hc : c ∈ name.toList) : Token.isDottedChar c = true := by
  cases kind with
  | directory => exact Token.isDottedChar_of_isNameChar (h.2 c hc)
  | file => exact h.1.2 c hc
  | _ => simp [isContainer] at hkind

theorem ne_empty (h : kind.Names name) (hkind : kind.isContainer = true) : name ≠ "" := by
  have hne : name.toList ≠ [] := by
    cases kind with
    | directory => exact h.1
    | file => exact h.1.1
    | _ => simp [isContainer] at hkind
  rintro rfl
  exact hne rfl

theorem slash_notMem (h : kind.Names name) (hkind : kind.isContainer = true) :
    '/' ∉ name.toList := fun hslash =>
  absurd (h.isDottedChar_of_mem hkind hslash) (by decide)

/-- No text names both a directory and a file. -/
theorem kind_eq (h : kind.Names name) (h' : kind'.Names name) (hkind : kind.isContainer = true)
    (hkind' : kind'.isContainer = true) : kind = kind' := by
  -- a dot is no character of a directory's name
  have hdot : NodeKind.directory.Names name → '.' ∉ name.toList := fun hdir hmem =>
    absurd (hdir.2 _ hmem) (by decide)
  cases kind <;> cases kind' <;> simp only [isContainer, Bool.false_eq_true] at hkind hkind'
  · rfl
  · exact absurd h'.2 (hdot h)
  · exact absurd h.2 (hdot h')
  · rfl

end Names

end NodeKind

/-! ### Statements and lines -/

namespace Statement

theorem mem_joinedText {parts : List Lexeme} {c : Char} :
    c ∈ (joinedText parts).toList ↔ ∃ lexeme ∈ parts, c ∈ lexeme.token.text.toList := by
  induction parts with
  | nil => simp [joinedText]
  | cons lexeme parts ih =>
    have hcons : joinedText (lexeme :: parts) = lexeme.token.text ++ joinedText parts := rfl
    rw [hcons, String.toList_append, List.mem_append, ih]
    simp

theorem isDottedChar_of_mem_text {token : Token} (h : token.Spelled)
    (hpart : token.isFileNamePart = true) {c : Char} (hc : c ∈ token.text.toList) :
    Token.isDottedChar c = true := by
  cases token with
  | identifier name | varName name => exact Token.isDottedChar_of_isNameChar (h.2 c hc)
  | number digits => exact h.2 c hc
  | dot =>
    obtain rfl : c = '.' := by simpa [Token.text] using hc
    rfl
  | extension word =>
    simp only [Token.text, String.toList_append, List.mem_append] at hc
    rcases hc with hc | hc
    · obtain rfl : c = '.' := by simpa using hc
      rfl
    · exact Token.isDottedChar_of_isWordChar (h.2 c hc)
  | _ => simp [Token.isFileNamePart] at hpart

/-- Pieces of a file name that end in an extension make up a file's name. -/
theorem names_joinedText {parts : List Lexeme} (hspelled : ∀ l ∈ parts, l.token.Spelled)
    (hparts : ∀ l ∈ parts, l.token.isFileNamePart = true) {lexeme : Lexeme} {word : String}
    (hmem : lexeme ∈ parts) (hword : lexeme.token = .extension word) :
    NodeKind.file.Names (joinedText parts) := by
  have hdot : '.' ∈ (joinedText parts).toList :=
    mem_joinedText.2 ⟨lexeme, hmem, by simp [hword, Token.text]⟩
  refine ⟨⟨List.ne_nil_of_mem hdot, fun c hc => ?_⟩, hdot⟩
  obtain ⟨l, hl, hc⟩ := mem_joinedText.1 hc
  exact isDottedChar_of_mem_text (hspelled l hl) (hparts l hl) hc

/-- What a statement calls its node is a name of the node's kind. -/
def WellNamed (statement : Statement) : Prop :=
  ∀ node, Node.ofStatement? statement = some node → node.kind.Names node.name

variable {statement found : Statement} {first : Lexeme} {rest others : List Lexeme}

theorem eq_of_finish (h : finish statement rest = .ok found) : found = statement := by
  cases rest with
  | nil => exact (Except.ok.inj h).symm
  | cons => simp [finish] at h

theorem wellNamed_of_finish (hnamed : statement.WellNamed) (h : finish statement rest = .ok found) :
    found.WellNamed :=
  eq_of_finish h ▸ hnamed

theorem wellNamed_of_name {kind : NodeKind} {name : String} {node : Node}
    (hnode : Node.ofStatement? statement = some node) (hkind : node.kind = kind)
    (hname : node.name = name) (h : kind.Names name) : statement.WellNamed := by
  intro node' hnode'
  obtain rfl := Option.some.inj (hnode.symm.trans hnode')
  rwa [hkind, hname]

theorem wellNamed_of_readDirectory (hspelled : ∀ l ∈ rest, l.token.Spelled)
    (h : readDirectory rest = .ok found) : found.WellNamed := by
  have hdirectory : ∀ lexeme ∈ rest, ∀ name, lexeme.token.name? = some name →
      (Statement.directory name).WellNamed := by
    intro lexeme hmem name hname
    have hsp := hspelled lexeme hmem
    refine wellNamed_of_name rfl rfl rfl ?_
    cases htoken : lexeme.token <;>
      simp_all [Token.name?, Token.Spelled, NodeKind.Names, Node.named]
  cases rest with
  | nil => simp [readDirectory] at h
  | cons lexeme rest =>
    simp only [readDirectory] at h
    split at h
    · simp at h
    · rename_i name hname
      have hnamed := hdirectory lexeme List.mem_cons_self name hname
      split at h
      · exact wellNamed_of_finish hnamed h
      · split at h <;> exact wellNamed_of_finish hnamed h

theorem wellNamed_of_readFile (hspelled : ∀ l ∈ first :: others, l.token.Spelled)
    (hparts : ∀ l ∈ first :: others, l.token.isFileNamePart = true)
    (h : readFile first others = .ok found) : found.WellNamed := by
  simp only [readFile] at h
  -- the pieces touch, do not start with a dot, and end in an extension
  split at h
  · simp at h
  · split at h
    · simp at h
    · split at h
      · rename_i extension hext
        obtain rfl := Except.ok.inj h
        refine wellNamed_of_name rfl rfl rfl ?_
        have hlast := List.getLast_mem (List.cons_ne_nil first others)
        cases htoken : ((first :: others).getLast (List.cons_ne_nil _ _)).token with
        | extension word => exact names_joinedText hspelled hparts hlast htoken
        | _ => simp [htoken, extension?] at hext
      · simp at h

theorem wellNamed_assignment (name value : String) : (assignment name value).WellNamed := by
  intro node hnode
  simp [Node.ofStatement?] at hnode

theorem wellNamed_of_readAssignment {name : String} (h : readAssignment name rest = .ok found) :
    found.WellNamed := by
  unfold readAssignment at h
  split at h
  · simp at h
  · split at h
    · split at h
      · simp at h
      · split at h
        · exact wellNamed_of_finish (wellNamed_assignment _ _) h
        · simp at h
    · simp at h

theorem wellNamed_of_readNamed (hspelled : ∀ l ∈ first :: rest, l.token.Spelled)
    (hfirst : first.token.isFileNamePart = true) (h : readNamed first rest = .ok found) :
    found.WellNamed := by
  simp only [readNamed] at h
  split at h
  · split at h
    · exact wellNamed_of_readAssignment h
    · simp at h
  · rename_i hothers
    split at h
    · rename_i statement hfile
      have hsub := List.takeWhile_sublist (l := rest) (·.token.isFileNamePart)
      refine wellNamed_of_finish (wellNamed_of_readFile ?_ ?_ hfile) h
      · intro l hl
        exact hspelled l ((hsub.cons_cons first).mem hl)
      · intro l hl
        rcases List.mem_cons.1 hl with rfl | hl
        · exact hfirst
        · have hpart := List.mem_takeWhile_imp hl
          exact hpart
    · simp at h

/-- Every statement that is read has a name of its kind. -/
theorem wellNamed_of_ofLexemes {lexemes : List Lexeme} (hspelled : ∀ l ∈ lexemes, l.token.Spelled)
    (h : ofLexemes lexemes = .ok found) : found.WellNamed := by
  cases lexemes with
  | nil => simp [ofLexemes] at h
  | cons first rest =>
    have hfirst := hspelled first List.mem_cons_self
    have hrest : ∀ l ∈ rest, l.token.Spelled := fun l hl => hspelled l (List.mem_cons_of_mem _ hl)
    -- the first token decides which kind of statement it is
    simp only [ofLexemes] at h
    split at h
    · exact wellNamed_of_readDirectory hrest h
    · rename_i name htoken
      have hnamed : (component name).WellNamed :=
        wellNamed_of_name rfl rfl rfl (by rwa [htoken] at hfirst)
      exact wellNamed_of_finish hnamed h
    · rename_i name htoken
      have hnamed : (function name).WellNamed :=
        wellNamed_of_name rfl rfl rfl (by rwa [htoken] at hfirst)
      exact wellNamed_of_finish hnamed h
    · rename_i name htoken
      have hnamed : (reference name).WellNamed :=
        wellNamed_of_name rfl rfl rfl (by rwa [htoken] at hfirst)
      exact wellNamed_of_finish hnamed h
    · rename_i text htoken
      have hnamed : (note text).WellNamed := wellNamed_of_name rfl rfl rfl trivial
      exact wellNamed_of_finish hnamed h
    · split at h
      · rename_i hpart
        exact wellNamed_of_readNamed hspelled hpart h
      · simp at h

end Statement

/-- Every node that a line describes has a name of its kind. -/
theorem Line.wellNamed_of_read {line : String} {found : Statement}
    (h : Line.read line = .ok (.statement found)) : found.WellNamed := by
  simp only [Line.read] at h
  split at h
  · simp at h
  · split at h
    · simp at h
    · split at h
      · simp at h
      · split at h
        · rename_i statement hread
          obtain rfl := Line.statement.inj (Except.ok.inj h)
          exact Statement.wellNamed_of_ofLexemes (fun l hl => Lexeme.spelled_of_mem_ofLine hl) hread
        · simp at h

end CodeOutline
