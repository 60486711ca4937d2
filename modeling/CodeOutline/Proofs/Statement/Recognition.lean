import Mathlib.Data.List.Chain
import CodeOutline.Proofs.Statement.Shapes

/-!
# Seven kinds of statements

Which lexemes make a statement is said here kind by kind: by their tokens alone, and for a file by
their places too. The kind of a statement tells which of its lexemes are its names, so lexemes that
make a statement of one kind make none of another.

Reading looks at the first lexeme and then knows which kind it can be. It could as well try the
kinds one after another, each from the front of the line and as far as it goes, keep the first one
that fits, and never go back: what one kind leaves over is not what another kind would have read to
the end.

## Main definitions

* `Statement.IsMadeOf`: lexemes make a statement
* `Statement.firstReading`: the kinds tried in order

## Main results

* `Statement.shape_iff`: the shapes of a statement are what its lexemes have to be
* `Statement.firstReading_eq_iff`: what the first kind that fits reads
* `Statement.ofLexemes_accepts`: which lexemes are read as a statement
-/

namespace CodeOutline.Statement

variable {lexemes rest : List Lexeme} {lexeme : Lexeme} {token : Token} {statement : Statement}
  {name value word : String}

/-! ### What lexemes have to be -/

/-- A token is a name. -/
def IsNameToken (token : Token) (name : String) : Prop :=
  token = .identifier name ∨ token = .varName name

/-- A token is a value: a string, a number or a name that does not announce a variable. -/
def IsValueToken (token : Token) (value : String) : Prop :=
  token = .string value ∨ token = .number value ∨ token = .identifier value

/-- Lexemes are the pieces of a file name. -/
structure IsFileName (lexemes : List Lexeme) (name word : String) : Prop where
  several : 2 ≤ lexemes.length
  pieces : ∀ lexeme ∈ lexemes, lexeme.token.isFileNamePart = true
  contiguous : lexemes.IsChain fun left right => left.stop = right.start
  first : ∀ lexeme ∈ lexemes.head?, lexeme.token ≠ .dot ∧ ∀ word, lexeme.token ≠ .extension word
  last : ∃ lexeme ∈ lexemes.getLast?, lexeme.token = .extension word
  known : word ∈ fileExtensions
  name_eq : name = String.join (lexemes.map (·.token.text))

/-- Lexemes make a statement. -/
def IsMadeOf (lexemes : List Lexeme) : Statement → Prop
  | .directory name => ∃ token, IsNameToken token name ∧
      (lexemes.map (·.token) = [.slash, token] ∨ lexemes.map (·.token) = [.slash, token, .slash])
  | .file name word => IsFileName lexemes name word
  | .component name => lexemes.map (·.token) = [.component name]
  | .function name => lexemes.map (·.token) = [.function name]
  | .assignment name value => ∃ left right, IsNameToken left name ∧ IsValueToken right value ∧
      lexemes.map (·.token) = [left, .equals, right]
  | .reference name => lexemes.map (·.token) = [.reference name]
  | .note text => lexemes.map (·.token) = [.note text]

theorem name?_eq_some_iff : token.name? = some name ↔ IsNameToken token name := by
  cases token <;> simp [Token.name?, IsNameToken]

theorem value?_eq_some_iff : token.value? = some value ↔ IsValueToken token value := by
  cases token <;> simp [Token.value?, IsValueToken]

theorem touching_iff :
    touching lexemes = true ↔ lexemes.IsChain fun left right => left.stop = right.start := by
  induction lexemes with
  | nil => simp [touching]
  | cons first rest ih =>
    cases rest with
    | nil => simp [touching]
    | cons second rest => simp [touching, ih, List.isChain_cons_cons]

theorem joinedText_eq_join (lexemes : List Lexeme) :
    joinedText lexemes = String.join (lexemes.map (·.token.text)) := by
  induction lexemes with
  | nil => rfl
  | cons first rest ih => simp [joinedText, ← ih]

theorem startsWithDot_eq_false_iff :
    startsWithDot token = false ↔ token ≠ .dot ∧ ∀ word, token ≠ .extension word := by
  cases token <;> simp [startsWithDot]

theorem Shape.isMadeOf (h : Shape lexemes statement) : IsMadeOf lexemes statement := by
  cases h with
  | directory hopening hname =>
    exact ⟨_, name?_eq_some_iff.1 hname, .inl (by simp [hopening])⟩
  | closedDirectory hopening hname hclosing =>
    exact ⟨_, name?_eq_some_iff.1 hname, .inr (by simp [hopening, hclosing])⟩
  | @file first last middle word hparts htouching hfirst hlast hknown =>
    exact {
      several := by simp
      pieces := hparts
      contiguous := touching_iff.1 htouching
      first := by simpa using startsWithDot_eq_false_iff.1 hfirst
      last := ⟨last, by rw [← List.cons_append, List.getLast?_concat]; rfl, hlast⟩
      known := hknown
      name_eq := joinedText_eq_join _ }
  | assignment hname hsign hvalue =>
    exact ⟨_, _, name?_eq_some_iff.1 hname, value?_eq_some_iff.1 hvalue, by simp [hsign]⟩
  | component htoken | function htoken | reference htoken | note htoken =>
    simp [IsMadeOf, htoken]

theorem IsFileName.shape (h : IsFileName lexemes name word) :
    Shape lexemes (.file name word) := by
  obtain ⟨first, rest, rfl⟩ : ∃ first rest, lexemes = first :: rest :=
    List.exists_cons_of_ne_nil (List.ne_nil_of_length_pos (Nat.lt_of_succ_lt h.several))
  have hrest : rest ≠ [] := by
    rintro rfl
    exact absurd h.several (by simp)
  obtain ⟨middle, last, rfl⟩ : ∃ middle last, rest = middle ++ [last] :=
    ⟨_, _, (List.dropLast_concat_getLast hrest).symm⟩
  obtain ⟨lexeme, hlexeme, hlast⟩ := h.last
  rw [← List.cons_append, List.getLast?_concat, Option.mem_some_iff] at hlexeme
  subst hlexeme
  rw [h.name_eq, ← joinedText_eq_join]
  exact .file h.pieces (touching_iff.2 h.contiguous)
    (startsWithDot_eq_false_iff.2 (h.first first rfl)) hlast h.known

theorem IsMadeOf.shape (h : IsMadeOf lexemes statement) : Shape lexemes statement := by
  cases statement with
  | directory name =>
    obtain ⟨token, hname, htokens | htokens⟩ := h
    · obtain ⟨opening, rest, rfl, hopening, hrest⟩ := List.map_eq_cons_iff.1 htokens
      obtain ⟨lexeme, rfl, rfl⟩ := List.map_eq_singleton_iff.1 hrest
      exact .directory hopening (name?_eq_some_iff.2 hname)
    · obtain ⟨opening, rest, rfl, hopening, hrest⟩ := List.map_eq_cons_iff.1 htokens
      obtain ⟨lexeme, more, rfl, rfl, hmore⟩ := List.map_eq_cons_iff.1 hrest
      obtain ⟨closing, rfl, hclosing⟩ := List.map_eq_singleton_iff.1 hmore
      exact .closedDirectory hopening (name?_eq_some_iff.2 hname) hclosing
  | file name word => exact IsFileName.shape h
  | assignment name value =>
    obtain ⟨left, right, hname, hvalue, htokens⟩ := h
    obtain ⟨lexeme, rest, rfl, rfl, hrest⟩ := List.map_eq_cons_iff.1 htokens
    obtain ⟨sign, more, rfl, hsign, hmore⟩ := List.map_eq_cons_iff.1 hrest
    obtain ⟨literal, rfl, rfl⟩ := List.map_eq_singleton_iff.1 hmore
    exact .assignment (name?_eq_some_iff.2 hname) hsign (value?_eq_some_iff.2 hvalue)
  | component name =>
    obtain ⟨lexeme, rfl, htoken⟩ := List.map_eq_singleton_iff.1 h
    exact .component htoken
  | function name =>
    obtain ⟨lexeme, rfl, htoken⟩ := List.map_eq_singleton_iff.1 h
    exact .function htoken
  | reference name =>
    obtain ⟨lexeme, rfl, htoken⟩ := List.map_eq_singleton_iff.1 h
    exact .reference htoken
  | note text =>
    obtain ⟨lexeme, rfl, htoken⟩ := List.map_eq_singleton_iff.1 h
    exact .note htoken

/-- The shapes of a statement are what its lexemes have to be. -/
theorem shape_iff : Shape lexemes statement ↔ IsMadeOf lexemes statement :=
  ⟨Shape.isMadeOf, IsMadeOf.shape⟩

/-! ### One kind after another -/

/-- The statement that a token makes on its own. -/
def single? : Token → Option Statement
  | .component name => some (.component name)
  | .function name => some (.function name)
  | .reference name => some (.reference name)
  | .note text => some (.note text)
  | _ => none

/-- A statement of one lexeme and of a given kind. -/
def readSingle (kindName : String) : List Lexeme → Option (Statement × List Lexeme)
  | [] => none
  | lexeme :: rest =>
    match single? lexeme.token with
    | some statement => if statement.kindName = kindName then some (statement, rest) else none
    | none => none

/-- What remains behind a slash, if there is one. -/
def skipSlash : List Lexeme → List Lexeme
  | [] => []
  | lexeme :: rest => if lexeme.token = .slash then rest else lexeme :: rest

/-- A directory: a slash, a name, and perhaps another slash. -/
def readFrontDirectory : List Lexeme → Option (Statement × List Lexeme)
  | opening :: lexeme :: rest =>
    if opening.token = .slash then
      lexeme.token.name?.map fun name => (.directory name, skipSlash rest)
    else none
  | _ => none

/-- A file: all pieces of a file name that follow each other, at least two of them. -/
def readFrontFile (lexemes : List Lexeme) : Option (Statement × List Lexeme) :=
  match lexemes.takeWhile (·.token.isFileNamePart) with
  | first :: second :: others =>
    match readFile first (second :: others) with
    | .ok statement => some (statement, lexemes.dropWhile (·.token.isFileNamePart))
    | .error _ => none
  | _ => none

/-- An assignment: a name, an equals sign and a value. -/
def readFrontAssignment : List Lexeme → Option (Statement × List Lexeme)
  | lexeme :: sign :: literal :: rest =>
    match lexeme.token.name?, literal.token.value? with
    | some name, some value =>
      if sign.token = .equals then some (.assignment name value, rest) else none
    | _, _ => none
  | _ => none

/-- The seven kinds of statements, in the order in which they are tried. -/
def kinds : List (List Lexeme → Option (Statement × List Lexeme)) :=
  [readFrontDirectory, readFrontFile, readSingle "Component", readSingle "Function",
    readFrontAssignment, readSingle "Reference", readSingle "Note"]

/-- What the first kind that fits reads from the front of a line, and what it leaves. -/
def firstReading (lexemes : List Lexeme) : Option (Statement × List Lexeme) :=
  kinds.findSome? fun read => read lexemes

theorem skipSlash_eq_nil_iff :
    skipSlash rest = [] ↔ rest = [] ∨ ∃ closing, closing.token = .slash ∧ rest = [closing] := by
  cases rest with
  | nil => simp [skipSlash]
  | cons closing more => by_cases h : closing.token = .slash <;> simp [skipSlash, h]

theorem shape_of_readFrontDirectory (h : readFrontDirectory lexemes = some (statement, [])) :
    Shape lexemes statement := by
  unfold readFrontDirectory at h
  split at h
  · rename_i opening lexeme rest
    split at h
    · rename_i hopening
      obtain ⟨name, hname, hread⟩ := Option.map_eq_some_iff.1 h
      obtain ⟨rfl, hrest⟩ := Prod.mk.inj hread
      rcases skipSlash_eq_nil_iff.1 hrest with rfl | ⟨closing, hclosing, rfl⟩
      · exact .directory hopening hname
      · exact .closedDirectory hopening hname hclosing
    · simp at h
  · simp at h

theorem shape_of_readFrontFile (h : readFrontFile lexemes = some (statement, [])) :
    Shape lexemes statement := by
  unfold readFrontFile at h
  split at h
  · rename_i first second others hpieces
    split at h
    · rename_i stated hfile
      obtain ⟨rfl, hrest⟩ := Prod.mk.inj (Option.some.inj h)
      -- nothing is left over, so the pieces are all lexemes
      have hall := List.takeWhile_append_dropWhile (p := (·.token.isFileNamePart)) (l := lexemes)
      rw [hrest, List.append_nil, hpieces] at hall
      subst hall
      refine shape_of_readFile (by simp) (fun part hpart => ?_) hfile
      rw [← hpieces] at hpart
      have hpart := List.mem_takeWhile_imp hpart
      exact hpart
    · simp at h
  · simp at h

theorem shape_of_readFrontAssignment (h : readFrontAssignment lexemes = some (statement, [])) :
    Shape lexemes statement := by
  unfold readFrontAssignment at h
  split at h
  · split at h
    · rename_i hname hvalue
      split at h
      · rename_i hsign
        obtain ⟨rfl, rfl⟩ := Prod.mk.inj (Option.some.inj h)
        exact .assignment hname hsign hvalue
      · simp at h
    · simp at h
  · simp at h

theorem shape_of_single? (h : single? lexeme.token = some statement) :
    Shape [lexeme] statement := by
  unfold single? at h
  split at h
  · rename_i htoken
    obtain rfl := Option.some.inj h
    exact .component htoken
  · rename_i htoken
    obtain rfl := Option.some.inj h
    exact .function htoken
  · rename_i htoken
    obtain rfl := Option.some.inj h
    exact .reference htoken
  · rename_i htoken
    obtain rfl := Option.some.inj h
    exact .note htoken
  · simp at h

theorem shape_of_readSingle {kindName : String}
    (h : readSingle kindName lexemes = some (statement, [])) : Shape lexemes statement := by
  unfold readSingle at h
  split at h
  · simp at h
  · split at h
    · rename_i hsingle
      split at h
      · obtain ⟨rfl, rfl⟩ := Prod.mk.inj (Option.some.inj h)
        exact shape_of_single? hsingle
      · simp at h
    · simp at h

/-- A kind that reads to the end of the line has found the shape of its statement. -/
theorem shape_of_firstReading (h : firstReading lexemes = some (statement, [])) :
    Shape lexemes statement := by
  obtain ⟨read, hkind, hread⟩ := List.exists_of_findSome?_eq_some h
  simp only [kinds, List.mem_cons, List.not_mem_nil, or_false] at hkind
  rcases hkind with rfl | rfl | rfl | rfl | rfl | rfl | rfl
  case inl => exact shape_of_readFrontDirectory hread
  case inr.inl => exact shape_of_readFrontFile hread
  case inr.inr.inr.inr.inl => exact shape_of_readFrontAssignment hread
  all_goals exact shape_of_readSingle hread

/-- No directory starts with a piece of a file name. -/
theorem readFrontDirectory_of_isFileNamePart (h : lexeme.token.isFileNamePart = true) :
    readFrontDirectory (lexeme :: rest) = none := by
  have hslash : lexeme.token ≠ .slash := by
    intro heq
    simp [heq, Token.isFileNamePart] at h
  cases rest <;> simp [readFrontDirectory, hslash]

/-- No file is read where only the first lexeme is a piece of a file name. -/
theorem readFrontFile_of_single (h : rest.takeWhile (·.token.isFileNamePart) = []) :
    readFrontFile (lexeme :: rest) = none := by
  by_cases hpart : lexeme.token.isFileNamePart = true
  · simp [readFrontFile, hpart, h]
  · simp [readFrontFile, hpart]

/-- Nothing that is tried before the kind of a statement fits its lexemes. -/
theorem Shape.firstReading_eq (h : Shape lexemes statement) :
    firstReading lexemes = some (statement, []) := by
  simp only [firstReading, kinds, List.findSome?_cons]
  cases h with
  | directory hopening hname => simp [readFrontDirectory, hopening, hname, skipSlash]
  | closedDirectory hopening hname hclosing =>
    simp [readFrontDirectory, hopening, hname, hclosing, skipSlash]
  | @file first last middle word hparts htouching hfirst hlast hknown =>
    have hall : (first :: (middle ++ [last])).takeWhile (·.token.isFileNamePart) =
        first :: (middle ++ [last]) := List.takeWhile_eq_self_iff.2 hparts
    have hnone : (first :: (middle ++ [last])).dropWhile (·.token.isFileNamePart) = [] :=
      List.dropWhile_eq_nil_iff.2 hparts
    have hfile := readFile_eq_ok htouching hfirst hlast hknown
    rw [readFrontDirectory_of_isFileNamePart (List.forall_mem_cons.1 hparts).1, readFrontFile, hall,
      hnone]
    obtain ⟨second, others, hmore⟩ : ∃ second others, middle ++ [last] = second :: others :=
      List.exists_cons_of_ne_nil (by simp)
    simp only [hmore] at hfile ⊢
    rw [hfile]
  | @assignment lexeme sign literal name value hname hsign hvalue =>
    have hpart := isFileNamePart_of_name? hname
    have hsingle : [sign, literal].takeWhile (·.token.isFileNamePart) = [] := by
      simp [hsign, Token.isFileNamePart]
    -- a name is neither a component nor a function
    have hnot : single? lexeme.token = none := by
      cases htoken : lexeme.token <;> simp_all [Token.isFileNamePart, single?]
    rw [readFrontDirectory_of_isFileNamePart hpart, readFrontFile_of_single hsingle]
    simp [readSingle, hnot, readFrontAssignment, hname, hvalue, hsign]
  | component htoken | function htoken | reference htoken | note htoken =>
    simp [readFrontDirectory, readFrontFile, readFrontAssignment, readSingle, htoken, single?,
      kindName, Token.isFileNamePart]

/-- The first kind that fits reads to the end of the line exactly if the lexemes have the shape of
the statement. -/
theorem firstReading_eq_iff :
    firstReading lexemes = some (statement, []) ↔ Shape lexemes statement :=
  ⟨shape_of_firstReading, Shape.firstReading_eq⟩

/-! ### All lexemes -/

/-- **Which lexemes are read as a statement**: those that make one, and no lexemes make two. The
first kind that fits reads the same statement to the end of the line. All other lexemes are an
error, among them none at all, and any with content. -/
theorem ofLexemes_accepts (lexemes : List Lexeme) :
    (∀ statement, ofLexemes lexemes = .ok statement ↔ IsMadeOf lexemes statement) ∧
      (∀ statement, ofLexemes lexemes = .ok statement ↔
        firstReading lexemes = some (statement, [])) ∧
      (∀ statement other, IsMadeOf lexemes statement → IsMadeOf lexemes other →
        statement = other) ∧
      ((∃ cause, ofLexemes lexemes = .error cause) ↔
        ∀ statement, ¬ IsMadeOf lexemes statement) ∧
      (lexemes = [] ∨ (∃ lexeme ∈ lexemes, ∃ text, lexeme.token = .content text) →
        ∃ cause, ofLexemes lexemes = .error cause) := by
  have hread : ∀ statement, ofLexemes lexemes = .ok statement ↔ IsMadeOf lexemes statement :=
    fun _ => ofLexemes_eq_ok_iff.trans shape_iff
  have herror : (∃ cause, ofLexemes lexemes = .error cause) ↔
      ∀ statement, ¬ IsMadeOf lexemes statement := by
    cases hcase : ofLexemes lexemes with
    | error cause => simp [← hread, hcase]
    | ok statement =>
      refine iff_of_false (by simp) fun hnone => hnone statement ((hread statement).1 hcase)
  refine ⟨hread, fun _ => ofLexemes_eq_ok_iff.trans firstReading_eq_iff.symm, ?_, herror, ?_⟩
  · intro statement other hstatement hother
    have hsame := ((hread statement).2 hstatement).symm.trans ((hread other).2 hother)
    exact Except.ok.inj hsame
  · intro hlexemes
    apply herror.2
    intro statement hmade
    have hshape := shape_iff.2 hmade
    rcases hlexemes with rfl | ⟨lexeme, hlexeme, text, hcontent⟩
    · cases hshape
    · exact hshape.ne_content lexeme hlexeme text hcontent

/-- The pieces of a file name, and the same tokens with a gap between them. -/
theorem ofLexemes_accepts_touching :
    let name : Lexeme := ⟨.identifier "a", 0, 1⟩
    let pieces : List Lexeme := [name, ⟨.extension "ts", 1, 4⟩]
    let apart : List Lexeme := [name, ⟨.extension "ts", 2, 5⟩]
    ofLexemes pieces = .ok (.file "a.ts" "ts") ∧ ∃ cause, ofLexemes apart = .error cause := by
  intro name pieces apart
  have hpieces : IsFileName pieces "a.ts" "ts" := {
    several := by simp [pieces]
    pieces := by simp [pieces, name, Token.isFileNamePart]
    contiguous := by simp [pieces, name]
    first := by simp [pieces, name]
    last := ⟨_, rfl, rfl⟩
    known := by decide
    name_eq := by decide }
  have hapart : ∀ statement, ¬ IsMadeOf apart statement := by
    intro statement h
    cases statement with
    | file => simpa [apart, name] using h.contiguous
    | _ => simp [IsMadeOf, apart, name] at h
  exact ⟨((ofLexemes_accepts pieces).1 _).2 hpieces, (ofLexemes_accepts apart).2.2.2.1.2 hapart⟩

end CodeOutline.Statement
