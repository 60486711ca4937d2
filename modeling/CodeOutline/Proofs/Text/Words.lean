import CodeOutline.Proofs.Path.Segments
import CodeOutline.Proofs.Text.SmallLetters

/-!
# Words and the blanks between them

Blanks set the words of a text apart and are no part of any word. With single spaces between them,
words make a text that has no blanks around it, and only a text without words makes none. Reading it
in small letters does not change this.

## Main results

* `Text.words_eq_nil_iff`: a text without words
* `Text.eq_of_intercalate_eq`: joined parts that are found again
* `Text.trim_intercalate`: words with single spaces between them
* `Text.lower_eq_nil_iff`: nothing has no small form but nothing
-/

namespace CodeOutline.Text

variable {cs word sep : List Char} {c : Char} {parts parts' spaced : List (List Char)}

/-- A word has characters, and none of them is a blank. -/
theorem of_mem_words (h : word ∈ words cs) : word ≠ [] ∧ ∀ c ∈ word, isBlank c = false := by
  obtain ⟨hpiece, hne⟩ := List.mem_filter.1 h
  exact ⟨by simpa using hne, isCut_eq_false_of_mem_splitWhere hpiece⟩

/-- A text has no words if and only if it is nothing but blanks. -/
theorem words_eq_nil_iff : words cs = [] ↔ ∀ c ∈ cs, isBlank c = true := by
  rw [words, List.filter_eq_nil_iff]
  constructor
  · intro hempty c hc
    by_contra hblank
    obtain ⟨piece, hpiece, hmem⟩ :=
      (exists_mem_splitWhere_iff isBlank (Bool.eq_false_iff.2 hblank) cs).2 hc
    have hnil : piece = [] := by simpa using hempty piece hpiece
    simp [hnil] at hmem
  · intro hblank piece hpiece
    have hnil : piece = [] := by
      refine List.eq_nil_iff_forall_not_mem.2 fun c hc => ?_
      have hfalse := isCut_eq_false_of_mem_splitWhere hpiece c hc
      have hmem := (exists_mem_splitWhere_iff isBlank hfalse cs).1 ⟨piece, hpiece, hc⟩
      simp [hblank c hmem] at hfalse
    simp [hnil]

/-! ### Single spaces between words -/

theorem trimEnd_eq_self (h : ∀ c ∈ cs.getLast?, isBlank c = false) : trimEnd cs = cs := by
  induction cs with
  | nil => rfl
  | cons c cs ih =>
    rw [trimEnd_cons]
    cases cs with
    | nil => simp [trimEnd, h c rfl]
    | cons d cs =>
      rw [List.getLast?_cons_cons] at h
      simp [ih h]

theorem trimStart_eq_self (h : ∀ c ∈ cs.head?, isBlank c = false) : trimStart cs = cs := by
  cases cs with
  | nil => rfl
  | cons c cs => exact List.dropWhile_cons_of_neg (by simp [h c rfl])

/-- A text without blanks at its two ends stays as it is. -/
theorem trim_eq_self (hfirst : ∀ c ∈ cs.head?, isBlank c = false)
    (hlast : ∀ c ∈ cs.getLast?, isBlank c = false) : trim cs = cs := by
  rw [trim, trimStart_eq_self hfirst, trimEnd_eq_self hlast]

theorem intercalate_eq_nil_iff (sep : List Char) (h : ∀ part ∈ parts, part ≠ []) :
    sep.intercalate parts = [] ↔ parts = [] := by
  cases parts with
  | nil => simp
  | cons part rest =>
    have hne := h part List.mem_cons_self
    cases rest <;> simp [List.intercalate_cons_cons, hne]

/-- Parts that do not hold what is between them are found again. -/
theorem eq_of_intercalate_eq (h : ∀ part ∈ parts, part ≠ [] ∧ c ∉ part)
    (h' : ∀ part ∈ parts', part ≠ [] ∧ c ∉ part)
    (heq : [c].intercalate parts = [c].intercalate parts') : parts = parts' := by
  have hnil := intercalate_eq_nil_iff [c] fun part hpart => (h part hpart).1
  have hnil' := intercalate_eq_nil_iff [c] fun part hpart => (h' part hpart).1
  rw [← heq, hnil] at hnil'
  by_cases hnone : parts = []
  · rw [hnone, hnil'.1 hnone]
  · have hsplit := List.splitOn_intercalate c (fun part hpart => (h part hpart).2) hnone
    have hsplit' := List.splitOn_intercalate c (fun part hpart => (h' part hpart).2)
      (mt hnil'.2 hnone)
    rw [← hsplit, heq, hsplit']

/-- The first character of joined parts is the first one of a part. -/
theorem isBlank_of_head?_intercalate
    (h : ∀ part ∈ parts, part ≠ [] ∧ ∀ c ∈ part.head?, isBlank c = false)
    (hc : c ∈ (sep.intercalate parts).head?) : isBlank c = false := by
  cases parts with
  | nil => simp at hc
  | cons part rest =>
    obtain ⟨hne, hfirst⟩ := h part List.mem_cons_self
    apply hfirst
    cases rest with
    | nil => simpa using hc
    | cons next rest =>
      rwa [List.intercalate_cons_cons, List.append_assoc, List.head?_append_of_ne_nil _ hne] at hc

/-- The last character of joined parts is the last one of a part. -/
theorem isBlank_of_getLast?_intercalate
    (h : ∀ part ∈ parts, part ≠ [] ∧ ∀ c ∈ part.getLast?, isBlank c = false)
    (hc : c ∈ (sep.intercalate parts).getLast?) : isBlank c = false := by
  induction parts with
  | nil => simp at hc
  | cons part rest ih =>
    cases rest with
    | nil => exact (h part List.mem_cons_self).2 c (by simpa using hc)
    | cons next rest =>
      -- the last character belongs to the parts behind the first separator
      have hrest := fun other hother => h other (List.mem_cons_of_mem _ hother)
      have hne : sep.intercalate (next :: rest) ≠ [] := by
        simp [intercalate_eq_nil_iff sep fun other hother => (hrest other hother).1]
      rw [List.intercalate_cons_cons, List.getLast?_append_of_ne_nil _ hne] at hc
      exact ih hrest hc

/-- Words with single spaces between them have no blanks around them. -/
theorem trim_intercalate (h : ∀ word ∈ spaced, word ≠ [] ∧ ∀ c ∈ word, isBlank c = false) :
    trim ([' '].intercalate spaced) = [' '].intercalate spaced := by
  apply trim_eq_self
  · intro c hc
    refine isBlank_of_head?_intercalate (fun word hword => ⟨(h word hword).1, fun d hd => ?_⟩) hc
    exact (h word hword).2 d (List.mem_of_mem_head? hd)
  · intro c hc
    refine isBlank_of_getLast?_intercalate (fun word hword => ⟨(h word hword).1, fun d hd => ?_⟩) hc
    exact (h word hword).2 d (List.mem_of_getLast? hd)

/-! ### Small letters -/

/-- Nothing has no small form but nothing. -/
theorem lower_eq_nil_iff : lower cs = [] ↔ cs = [] := by
  cases cs with
  | nil => simp [lower, lowerAfter]
  | cons c cs =>
    rw [lower, lowerAfter]
    split <;> simp [smallForm_ne_nil]

end CodeOutline.Text
