import CodeOutline.Proofs.Statement.Forms
import CodeOutline.Proofs.Text.SmallLetters

/-!
# What the text of a statement tells of its node

The first character of a statement tells the kind of its node, and the rest tells the name, in small
letters as well as in the letters that were written: two lines that differ in letter case and blanks
only are about nodes of one kind, whose names differ in letter case only. The other way round, kind
and name tell how the statement was written, except that a directory or a note can be written with
more blanks or fewer, and a directory with another slash.

## Main definitions

* `Statement.subjectOf`: the kind and the name that the text of a statement shows
* `Statement.spelling?`: the text of a statement for which there is only one way to write it

## Main results

* `Statement.Form.subjectOf_lower`: the small letters of a statement show its kind and the small
  letters of its name
* `Statement.Form.eq_spelling`: a file, component, function or reference is written in one way only
-/

namespace CodeOutline

open Token

/-! ### Characters -/

namespace Text

/-- What holds of the capital letters and their small forms alike is not changed by small letters. -/
theorem apply_smallLetter {α : Type} {f : Char → α}
    (hf : ∀ n ∈ List.range' 65 26, f (smallLetter (Char.ofNat n)) = f (Char.ofNat n)) (c : Char) :
    f (smallLetter c) = f c := by
  by_cases hc : isUpperLetter c = true
  · have hrange : c.toNat ∈ List.range' 65 26 := by
      rw [isUpperLetter_iff] at hc
      rw [List.mem_range'_1]
      omega
    have hsame := hf c.toNat hrange
    rwa [Char.ofNat_toNat] at hsame
  · rw [smallLetter, if_neg hc]

end Text

theorem Token.toNat_lt_of_isDottedChar {c : Char} (h : isDottedChar c = true) :
    c.toNat < 0x80 := by
  simp only [isDottedChar, isNameChar, isWordChar, Text.isLetter, Text.isUpperLetter, Text.isDigit,
    Bool.or_eq_true, Bool.and_eq_true, decide_eq_true_eq, beq_iff_eq, Char.le_def,
    UInt32.le_iff_toNat_le] at h
  rcases h with ((((⟨-, h⟩ | ⟨-, h⟩) | ⟨-, h⟩) | rfl) | rfl) | rfl
  · exact Nat.lt_of_le_of_lt h (by decide)
  · exact Nat.lt_of_le_of_lt h (by decide)
  · exact Nat.lt_of_le_of_lt h (by decide)
  all_goals decide

theorem Token.toNat_lt_of_isGap {c : Char} (h : isGap c = true) : c.toNat < 0x80 := by
  simp only [isGap, Bool.or_eq_true, beq_iff_eq] at h
  rcases h with (rfl | rfl) | rfl <;> decide

/-- Only the text of a note may hold other characters than those of names, and dots. -/
theorem NodeKind.Names.isDottedChar {kind : NodeKind} {name : String} (h : kind.Names name)
    (hkind : kind ≠ .note) : ∀ c ∈ name.toList, Token.isDottedChar c = true := by
  cases kind with
  | directory => exact fun c hc => isDottedChar_of_isNameChar (h.2 c hc)
  | file => exact h.1.2
  | component | function => exact fun c hc => isDottedChar_of_isWordChar (h.2 c hc)
  | reference => exact h.2
  | note => exact absurd rfl hkind

theorem NodeKind.Names.ascii {kind : NodeKind} {name : String} (h : kind.Names name)
    (hkind : kind ≠ .note) : ∀ c ∈ name.toList, c.toNat < 0x80 :=
  fun c hc => toNat_lt_of_isDottedChar (h.isDottedChar hkind c hc)

namespace Statement

variable {cs : List Char} {statement : Statement} {node : Node}

/-! ### Kind and name in a text -/

/-- The kind that the first character of a statement shows. -/
def kindOf : Char → NodeKind
  | '/' => .directory
  | '%' => .component
  | '$' => .function
  | '@' => .reference
  | '#' => .note
  | _ => .file

/-- The kind and the name that the text of a statement shows. -/
def subjectOf : List Char → NodeKind × List Char
  | [] => (.file, [])
  | c :: cs =>
    (kindOf c, match kindOf c with
      | .directory => (cs.dropWhile isGap).takeWhile isNameChar
      | .function => cs.takeWhile isNameChar
      | .note => Text.trimStart cs
      | .component | .reference => cs
      | .file => c :: cs)

/-- Reading a text in small letters leaves the kind as it is, and reads the name in small letters. -/
theorem subjectOf_map_smallLetter (cs : List Char) : subjectOf (cs.map Text.smallLetter) =
    ((subjectOf cs).1, (subjectOf cs).2.map Text.smallLetter) := by
  cases cs with
  | nil => rfl
  | cons c cs =>
    -- none of the tests tells a capital letter from its small form
    have hkind : kindOf (Text.smallLetter c) = kindOf c := Text.apply_smallLetter (by decide) c
    have hgap : isGap ∘ Text.smallLetter = isGap :=
      funext (Text.apply_smallLetter (by decide))
    have hname : isNameChar ∘ Text.smallLetter = isNameChar :=
      funext (Text.apply_smallLetter (by decide))
    have hblank : Text.isBlank ∘ Text.smallLetter = Text.isBlank :=
      funext (Text.apply_smallLetter (by decide))
    rw [List.map_cons, subjectOf, subjectOf, hkind]
    cases kindOf c with
    | directory => simp only [List.dropWhile_map, List.takeWhile_map, hgap, hname]
    | function => simp only [List.takeWhile_map, hname]
    | note => simp only [Text.trimStart, List.dropWhile_map, hblank]
    | component | reference | file => rfl

theorem mem_of_mem_subjectOf {d : Char} (h : d ∈ (subjectOf cs).2) : d ∈ cs := by
  cases cs with
  | nil => exact h
  | cons c cs =>
    have hdrop (p : Char → Bool) : d ∈ cs.dropWhile p → d ∈ c :: cs := fun hd =>
      List.mem_cons_of_mem c ((List.dropWhile_sublist p).mem hd)
    rw [subjectOf] at h
    cases hkind : kindOf c <;> rw [hkind] at h
    case directory => exact hdrop _ ((List.takeWhile_sublist _).mem h)
    case function => exact List.mem_cons_of_mem c ((List.takeWhile_sublist _).mem h)
    case note => exact hdrop _ h
    case file => exact h
    all_goals exact List.mem_cons_of_mem c h

/-- A text in ASCII shows in small letters what it shows. -/
theorem subjectOf_lower_of_ascii (h : ∀ c ∈ cs, c.toNat < 0x80) :
    subjectOf (Text.lower cs) = ((subjectOf cs).1, Text.lower (subjectOf cs).2) := by
  rw [Text.lower_of_ascii h, subjectOf_map_smallLetter,
    Text.lower_of_ascii fun d hd => h d (mem_of_mem_subjectOf hd)]

/-- A note shows in small letters what it shows, whatever its characters. -/
theorem subjectOf_lower_of_note (body : List Char) :
    subjectOf (Text.lower ('#' :: body)) = (.note, Text.lower (Text.trimStart body)) := by
  have hbarrier : Text.IsBarrier '#' := ⟨by decide +kernel, by decide +kernel⟩
  have hlower : Text.lower ('#' :: body) = '#' :: Text.lowerAfter ['#'] body := by
    rw [Text.lower, Text.lowerAfter, if_neg (by decide), Text.smallForm_of_ascii (by decide)]
    rfl
  rw [hlower, ← Text.trimStart_lowerAfter hbarrier [] body]
  rfl

/-! ### The forms of statements -/

theorem kindOf_of_isDottedChar {c : Char} (h : isDottedChar c = true) : kindOf c = .file := by
  unfold kindOf
  split
  case h_6 => rfl
  all_goals exact absurd h (by decide)

/-- The name of a directory stands behind a gap, up to the first sign. -/
theorem takeWhile_isNameChar {gap name rest : List Char} (hgap : IsGapText gap)
    (hname : MadeOf isNameChar name) (hrest : StopsAt isNameChar rest) :
    ((gap ++ (name ++ rest)).dropWhile isGap).takeWhile isNameChar = name := by
  obtain ⟨c, more, rfl⟩ := List.exists_cons_of_ne_nil hname.1
  have hstart : StopsAt isGap (c :: more ++ rest) :=
    stopsAt_cons.2 (not_isGap_of_isNameChar (hname.2 c List.mem_cons_self))
  rw [List.dropWhile_append_of_pos hgap, hstart.dropWhile_eq_self,
    List.takeWhile_append_of_pos hname.2, hrest.takeWhile_eq_nil, List.append_nil]

namespace Form

variable (h : Form cs statement) (hnode : Node.ofStatement? statement = some node)
  (hnames : node.kind.Names node.name)
include h hnode hnames

/-- The text of a statement shows its kind and its name. -/
theorem subjectOf_eq (hend : Text.trimEnd cs = cs) :
    subjectOf cs = (node.kind, node.name.toList) := by
  cases h with
  | @directory gap name hgap =>
    obtain rfl := Option.some.inj hnode
    have hmade : MadeOf isNameChar name := by simpa [NodeKind.Names, Node.named] using hnames
    have hname := takeWhile_isNameChar hgap hmade (stopsAt_nil isNameChar)
    rw [List.append_nil] at hname
    simp [subjectOf, kindOf, Node.named, hname]
  | @closedDirectory gap gap' name hgap _ hgap' =>
    obtain rfl := Option.some.inj hnode
    have hmade : MadeOf isNameChar name := by simpa [NodeKind.Names, Node.named] using hnames
    have hstop : StopsAt isNameChar (gap' ++ ['/']) := stopsAt_isNameChar_gap hgap' (by decide)
    have hname := takeWhile_isNameChar hgap hmade hstop
    simp [subjectOf, kindOf, Node.named, hname]
  | @file head tail =>
    obtain rfl := Option.some.inj hnode
    have hdotted : MadeOf isDottedChar (head ++ tail) := by
      simpa [Node.named] using hnames.1
    -- a file is told by the lack of a sign: the text starts with the name
    obtain ⟨c, rest, heq⟩ := List.exists_cons_of_ne_nil hdotted.1
    rw [heq] at hdotted ⊢
    have hkind := kindOf_of_isDottedChar (hdotted.2 c List.mem_cons_self)
    simp [subjectOf, hkind, Node.named]
  | component =>
    obtain rfl := Option.some.inj hnode
    simp [subjectOf, kindOf, Node.named]
  | @function name =>
    obtain rfl := Option.some.inj hnode
    have hmade : MadeOf isWordChar name := by simpa [NodeKind.Names, Node.named] using hnames
    have hname : (name ++ ['(', ')']).takeWhile isNameChar = name := by
      rw [List.takeWhile_append_of_pos fun c hc => isNameChar_of_isWordChar (hmade.2 c hc)]
      simp [show isNameChar '(' = false by decide]
    simp [subjectOf, kindOf, Node.named, hname]
  | assignment => simp [Node.ofStatement?] at hnode
  | reference =>
    obtain rfl := Option.some.inj hnode
    simp [subjectOf, kindOf, Node.named]
  | note body =>
    obtain rfl := Option.some.inj hnode
    -- nothing can be taken off behind the text of a note
    have hbody : Text.trimEnd body = body := by
      rw [Text.trimEnd_cons] at hend
      split at hend
      · simp at hend
      · exact (List.cons.inj hend).2
    have htrim : Text.trim body = Text.trimStart body := by
      rw [Text.trim, Text.trimEnd_trimStart, hbody]
    simp [subjectOf, kindOf, Node.named, htrim]

/-- A statement is written in ASCII, or it is a note. -/
theorem ascii_or_note : (∀ c ∈ cs, c.toNat < 0x80) ∨ ∃ body, cs = '#' :: body := by
  have hgapText {gap : List Char} (hgap : IsGapText gap) : ∀ c ∈ gap, c.toNat < 0x80 :=
    fun c hc => toNat_lt_of_isGap (hgap c hc)
  have hname (hkind : node.kind ≠ .note) := hnames.ascii hkind
  cases h with
  | note body => exact .inr ⟨body, rfl⟩
  | assignment => simp [Node.ofStatement?] at hnode
  | @directory gap name hgap =>
    obtain rfl := Option.some.inj hnode
    have hname : ∀ c ∈ name, c.toNat < 0x80 := by simpa [Node.named] using hname
    refine .inl ?_
    simp only [List.forall_mem_cons, List.forall_mem_append]
    exact ⟨by decide, hgapText hgap, hname⟩
  | @closedDirectory gap gap' name hgap _ hgap' =>
    obtain rfl := Option.some.inj hnode
    have hname : ∀ c ∈ name, c.toNat < 0x80 := by simpa [Node.named] using hname
    refine .inl ?_
    simp only [List.forall_mem_cons, List.forall_mem_append]
    exact ⟨by decide, hgapText hgap, hname, hgapText hgap', by simp⟩
  | file | component | function | reference =>
    obtain rfl := Option.some.inj hnode
    have hname := hname (by simp [Node.named])
    simp only [Node.named, String.toList_ofList, List.forall_mem_append] at hname
    refine .inl ?_
    simp only [List.forall_mem_cons, List.forall_mem_append]
    simpa using hname

/-- The small letters of a statement show its kind and the small letters of its name. -/
theorem subjectOf_lower (hend : Text.trimEnd cs = cs) :
    subjectOf (Text.lower cs) = (node.kind, Text.lower node.name.toList) := by
  have hsubject := h.subjectOf_eq hnode hnames hend
  -- outside ASCII small letters can depend on what stands around them, but only a note goes there
  rcases h.ascii_or_note hnode hnames with hascii | ⟨body, rfl⟩
  · rw [subjectOf_lower_of_ascii hascii, hsubject]
  · rw [subjectOf_lower_of_note]
    obtain ⟨hkind, hname⟩ := Prod.mk.inj hsubject
    rw [← hkind, ← hname]
    rfl

end Form

/-! ### The texts of names -/

/-- The text of a statement that names a node, where there is only one way to write it: directories
and notes can be written with gaps. -/
def spelling? : NodeKind → List Char → Option (List Char)
  | .file, name => some name
  | .component, name => some ('%' :: name)
  | .function, name => some ('$' :: (name ++ ['(', ')']))
  | .reference, name => some ('@' :: name)
  | .directory, _ | .note, _ => none

/-- The text in small letters is the text of the name in small letters. -/
theorem spelling?_lower {kind : NodeKind} {name : String} {text : List Char}
    (hnames : kind.Names name) (h : spelling? kind name.toList = some text) :
    spelling? kind (Text.lower name.toList) = some (Text.lower text) := by
  -- the signs have no small forms of their own
  have hmap : spelling? kind (name.toList.map Text.smallLetter) =
      (spelling? kind name.toList).map (List.map Text.smallLetter) := by
    cases kind <;> simp [spelling?] <;> decide
  have hkind : kind ≠ .note := by
    rintro rfl
    simp [spelling?] at h
  have hname := hnames.ascii hkind
  have htext : ∀ c ∈ text, c.toNat < 0x80 := by
    cases kind with
    | directory | note => simp [spelling?] at h
    | file =>
      obtain rfl := Option.some.inj h
      exact hname
    | component | reference =>
      obtain rfl := Option.some.inj h
      exact List.forall_mem_cons.2 ⟨by decide, hname⟩
    | function =>
      obtain rfl := Option.some.inj h
      exact List.forall_mem_cons.2 ⟨by decide, List.forall_mem_append.2 ⟨hname, by simp⟩⟩
  rw [Text.lower_of_ascii hname, hmap, h, Text.lower_of_ascii htext]
  rfl

/-- A file, component, function or reference is written in one way only. -/
theorem Form.eq_spelling (h : Form cs statement) (hnode : Node.ofStatement? statement = some node) :
    ∀ text ∈ spelling? node.kind node.name.toList, cs = text := by
  intro text htext
  cases h with
  | assignment => simp [Node.ofStatement?] at hnode
  | directory | closedDirectory | note =>
    obtain rfl := Option.some.inj hnode
    simp [spelling?, Node.named] at htext
  | file | component | function | reference =>
    obtain rfl := Option.some.inj hnode
    simpa [spelling?, Node.named] using htext

end Statement

end CodeOutline
