import Mathlib.Data.List.Basic
import Mathlib.Data.List.TakeWhile
import CodeOutline.Statement.Grammar

/-!
# The shapes of a statement

There are seven shapes that lexemes can have to be a statement, and no lexemes have two of them. As
the first lexeme decides between them, reading never has to go back: lexemes are read as a statement
if and only if they have its shape.

## Main definitions

* `Statement.Shape`: lexemes have the shape of a statement

## Main results

* `Statement.ofLexemes_eq_ok_iff`: which lexemes are read as a statement
-/

namespace CodeOutline.Statement

variable {first second lexeme : Lexeme} {rest others lexemes : List Lexeme}
  {statement found : Statement} {name : String}

/-- Lexemes have the shape of a statement. -/
inductive Shape : List Lexeme → Statement → Prop
  /-- a slash and a name -/
  | directory {opening lexeme : Lexeme} {name : String} (hopening : opening.token = .slash)
      (hname : lexeme.token.name? = some name) : Shape [opening, lexeme] (.directory name)
  /-- a name between slashes -/
  | closedDirectory {opening lexeme closing : Lexeme} {name : String}
      (hopening : opening.token = .slash) (hname : lexeme.token.name? = some name)
      (hclosing : closing.token = .slash) : Shape [opening, lexeme, closing] (.directory name)
  /-- pieces that touch and lead from something other than a dot to a known extension -/
  | file {first last : Lexeme} {middle : List Lexeme} {word : String}
      (hparts : ∀ part ∈ first :: (middle ++ [last]), part.token.isFileNamePart = true)
      (htouching : touching (first :: (middle ++ [last])) = true)
      (hfirst : startsWithDot first.token = false) (hlast : last.token = .extension word)
      (hknown : word ∈ fileExtensions) :
      Shape (first :: (middle ++ [last])) (.file (joinedText (first :: (middle ++ [last]))) word)
  | component {lexeme : Lexeme} {name : String} (htoken : lexeme.token = .component name) :
      Shape [lexeme] (.component name)
  | function {lexeme : Lexeme} {name : String} (htoken : lexeme.token = .function name) :
      Shape [lexeme] (.function name)
  /-- a name, an equals sign and a value -/
  | assignment {lexeme sign literal : Lexeme} {name value : String}
      (hname : lexeme.token.name? = some name) (hsign : sign.token = .equals)
      (hvalue : literal.token.value? = some value) :
      Shape [lexeme, sign, literal] (.assignment name value)
  | reference {lexeme : Lexeme} {name : String} (htoken : lexeme.token = .reference name) :
      Shape [lexeme] (.reference name)
  | note {lexeme : Lexeme} {text : String} (htoken : lexeme.token = .note text) :
      Shape [lexeme] (.note text)

/-- No lexeme of a statement is content. -/
theorem Shape.ne_content (h : Shape lexemes statement) :
    ∀ lexeme ∈ lexemes, ∀ text, lexeme.token ≠ .content text := by
  have hnameOf : ∀ {lexeme : Lexeme} {name : String}, lexeme.token.name? = some name →
      ∀ text, lexeme.token ≠ .content text := fun hname text heq => by
    simp [heq, Token.name?] at hname
  have hvalueOf : ∀ {lexeme : Lexeme} {value : String}, lexeme.token.value? = some value →
      ∀ text, lexeme.token ≠ .content text := fun hvalue text heq => by
    simp [heq, Token.value?] at hvalue
  cases h with
  | directory hopening hname => simp [hopening, hnameOf hname]
  | closedDirectory hopening hname hclosing => simp [hopening, hnameOf hname, hclosing]
  | file hparts =>
    intro lexeme hlexeme text heq
    have hpart := hparts lexeme hlexeme
    simp [heq, Token.isFileNamePart] at hpart
  | assignment hname hsign hvalue => simp [hnameOf hname, hsign, hvalueOf hvalue]
  | component htoken | function htoken | reference htoken | note htoken => simp [htoken]

/-! ### What is read has a shape -/

theorem finish_eq_ok_iff : finish statement rest = .ok found ↔ rest = [] ∧ found = statement := by
  cases rest with
  | nil => simp [finish, eq_comm]
  | cons => simp [finish]

theorem shape_of_readDirectory (hopening : first.token = .slash)
    (h : readDirectory rest = .ok found) : Shape (first :: rest) found := by
  cases rest with
  | nil => simp [readDirectory] at h
  | cons lexeme rest =>
    rw [readDirectory] at h
    split at h
    · simp at h
    · rename_i name hname
      split at h
      · obtain ⟨-, rfl⟩ := finish_eq_ok_iff.1 h
        exact .directory hopening hname
      · rename_i closing more
        split at h
        · rename_i hclosing
          obtain ⟨rfl, rfl⟩ := finish_eq_ok_iff.1 h
          exact .closedDirectory hopening hname hclosing
        · simp [finish_eq_ok_iff] at h

theorem extension?_eq_some_iff {token : Token} {word : String} :
    extension? token = some word ↔ token = .extension word ∧ word ∈ fileExtensions := by
  cases token with
  | extension given =>
    simp only [extension?, List.contains_eq_mem, decide_eq_true_eq, Option.ite_none_right_eq_some,
      Option.some.injEq, Token.extension.injEq]
    constructor
    · rintro ⟨hmem, rfl⟩
      exact ⟨rfl, hmem⟩
    · rintro ⟨rfl, hmem⟩
      exact ⟨hmem, rfl⟩
  | _ => simp [extension?]

theorem shape_of_readFile (hothers : others ≠ [])
    (hparts : ∀ part ∈ first :: others, part.token.isFileNamePart = true)
    (h : readFile first others = .ok found) : Shape (first :: others) found := by
  obtain ⟨middle, last, rfl⟩ : ∃ middle last, others = middle ++ [last] :=
    ⟨_, _, (List.dropLast_concat_getLast hothers).symm⟩
  simp only [readFile] at h
  split at h
  · simp at h
  rename_i htouching
  split at h
  · simp at h
  rename_i hfirst
  split at h
  · rename_i word hword
    obtain rfl := Except.ok.inj h
    rw [List.getLast_cons (by simp), List.getLast_concat] at hword
    obtain ⟨hlast, hknown⟩ := extension?_eq_some_iff.1 hword
    exact .file hparts (by simpa using htouching) (by simpa using hfirst) hlast hknown
  · simp at h

theorem shape_of_readAssignment (hname : first.token.name? = some name)
    (h : readAssignment name rest = .ok found) : Shape (first :: rest) found := by
  unfold readAssignment at h
  split at h
  · simp at h
  rename_i sign rest
  split at h
  · rename_i hsign
    split at h
    · simp at h
    rename_i literal more
    split at h
    · rename_i value hvalue
      obtain ⟨rfl, rfl⟩ := finish_eq_ok_iff.1 h
      exact .assignment hname hsign hvalue
    · simp at h
  · simp at h

theorem shape_of_readNamed (hfirst : first.token.isFileNamePart = true)
    (h : readNamed first rest = .ok found) : Shape (first :: rest) found := by
  simp only [readNamed] at h
  split at h
  · split at h
    · rename_i name hname
      exact shape_of_readAssignment hname h
    · simp at h
  · rename_i hothers
    split at h
    · rename_i statement hfile
      -- nothing is left over behind the pieces of the name
      obtain ⟨hnil, rfl⟩ := finish_eq_ok_iff.1 h
      have hall := List.takeWhile_append_dropWhile (p := (·.token.isFileNamePart)) (l := rest)
      rw [hnil, List.append_nil] at hall
      rw [hall] at hothers hfile
      refine shape_of_readFile hothers (List.forall_mem_cons.2 ⟨hfirst, fun part hpart => ?_⟩) hfile
      rw [← hall] at hpart
      have hpart := List.mem_takeWhile_imp hpart
      exact hpart
    · simp at h

theorem shape_of_ofLexemes (h : ofLexemes lexemes = .ok found) : Shape lexemes found := by
  cases lexemes with
  | nil => simp [ofLexemes] at h
  | cons first rest =>
    simp only [ofLexemes] at h
    split at h
    · rename_i htoken
      exact shape_of_readDirectory htoken h
    · rename_i htoken
      obtain ⟨rfl, rfl⟩ := finish_eq_ok_iff.1 h
      exact .component htoken
    · rename_i htoken
      obtain ⟨rfl, rfl⟩ := finish_eq_ok_iff.1 h
      exact .function htoken
    · rename_i htoken
      obtain ⟨rfl, rfl⟩ := finish_eq_ok_iff.1 h
      exact .reference htoken
    · rename_i htoken
      obtain ⟨rfl, rfl⟩ := finish_eq_ok_iff.1 h
      exact .note htoken
    · split at h
      · rename_i hpart
        exact shape_of_readNamed hpart h
      · simp at h

/-! ### What has a shape is read -/

theorem ofLexemes_of_isFileNamePart (hfirst : first.token.isFileNamePart = true) :
    ofLexemes (first :: rest) = readNamed first rest := by
  cases htoken : first.token <;> simp_all [ofLexemes, Token.isFileNamePart]

theorem isFileNamePart_of_name? {token : Token} (hname : token.name? = some name) :
    token.isFileNamePart = true := by
  cases token with
  | identifier | varName => rfl
  | _ => simp [Token.name?] at hname

theorem readFile_eq_ok {last : Lexeme} {middle : List Lexeme} {word : String}
    (htouching : touching (first :: (middle ++ [last])) = true)
    (hfirst : startsWithDot first.token = false) (hlast : last.token = .extension word)
    (hknown : word ∈ fileExtensions) : readFile first (middle ++ [last]) =
      .ok (.file (joinedText (first :: (middle ++ [last]))) word) := by
  have hextension := extension?_eq_some_iff.2 ⟨hlast, hknown⟩
  simp [readFile, htouching, hfirst, hextension]

theorem Shape.ofLexemes_eq_ok (h : Shape lexemes statement) : ofLexemes lexemes = .ok statement := by
  cases h with
  | directory hopening hname => simp [ofLexemes, hopening, readDirectory, hname, finish]
  | closedDirectory hopening hname hclosing =>
    simp [ofLexemes, hopening, readDirectory, hname, hclosing, finish]
  | @file first last middle word hparts htouching hfirst hlast hknown =>
    obtain ⟨hpart, hparts⟩ := List.forall_mem_cons.1 hparts
    have hall : (middle ++ [last]).takeWhile (·.token.isFileNamePart) = middle ++ [last] :=
      List.takeWhile_eq_self_iff.2 hparts
    have hnone : (middle ++ [last]).dropWhile (·.token.isFileNamePart) = [] :=
      List.dropWhile_eq_nil_iff.2 hparts
    rw [ofLexemes_of_isFileNamePart hpart, readNamed, hall, hnone]
    split
    · rename_i hnil
      simp at hnil
    · rw [readFile_eq_ok htouching hfirst hlast hknown]
      rfl
  | component htoken => simp [ofLexemes, htoken, finish]
  | function htoken => simp [ofLexemes, htoken, finish]
  | @assignment lexeme sign literal name value hname hsign hvalue =>
    have hsignPart : sign.token.isFileNamePart = false := by rw [hsign]; rfl
    have hnone : [sign, literal].takeWhile (·.token.isFileNamePart) = [] := by simp [hsignPart]
    rw [ofLexemes_of_isFileNamePart (isFileNamePart_of_name? hname), readNamed, hnone]
    simp [hname, readAssignment, hsign, hvalue, finish]
  | reference htoken => simp [ofLexemes, htoken, finish]
  | note htoken => simp [ofLexemes, htoken, finish]

/-- **Lexemes are read as a statement** if and only if they have its shape. -/
theorem ofLexemes_eq_ok_iff : ofLexemes lexemes = .ok statement ↔ Shape lexemes statement :=
  ⟨shape_of_ofLexemes, Shape.ofLexemes_eq_ok⟩

end CodeOutline.Statement
