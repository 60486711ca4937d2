import Mathlib.Data.List.TakeWhile
import CodeOutline.Text.Basic

/-!
# Lines and the blanks around them

No line of a text holds a line feed, and a text without one is a single line. Trimming leaves nothing
if and only if all characters are blank; what it leaves starts with a character that is not blank and
is not shortened by trimming it again.

## Main results

* `Text.newline_notMem_of_mem_lines`, `Text.lines_eq_singleton`: lines and line feeds
* `Text.trim_eq_nil_iff`: when nothing is left
* `Text.of_trim_eq_cons`: what is left
-/

namespace CodeOutline.Text

variable {cs line rest : List Char} {c : Char}

/-! ### Line feeds -/

theorem mem_of_mem_dropReturn (h : c ∈ dropReturn cs) : c ∈ cs := by
  fun_induction dropReturn cs with
  | case1 => exact h
  | case2 => simp at h
  | case3 d ds _ ih =>
    rcases List.mem_cons.1 h with rfl | h
    · exact List.mem_cons_self
    · exact List.mem_cons_of_mem _ (ih h)

theorem newline_notMem_of_mem_lines_go {front : List Char} (hfront : '\n' ∉ front)
    (h : line ∈ lines.go front cs) : '\n' ∉ line := by
  induction cs generalizing front with
  | nil =>
    rw [lines.go] at h
    split at h
    · simp at h
    · obtain rfl := List.mem_singleton.1 h
      simpa using hfront
  | cons c cs ih =>
    rw [lines.go] at h
    split at h
    · rcases List.mem_cons.1 h with rfl | h
      · intro hmem
        exact hfront (List.mem_reverse.1 (mem_of_mem_dropReturn hmem))
      · exact ih (by simp) h
    · rename_i hc
      refine ih ?_ h
      rw [List.mem_cons, not_or]
      exact ⟨fun heq => hc heq.symm, hfront⟩

/-- No line holds a line feed. -/
theorem newline_notMem_of_mem_lines (h : line ∈ lines cs) : '\n' ∉ line := by
  cases cs with
  | nil => simp [lines] at h
  | cons c cs => exact newline_notMem_of_mem_lines_go List.not_mem_nil h

theorem lines_go_eq_singleton {front : List Char} (hcs : '\n' ∉ cs) (hne : front ++ cs ≠ []) :
    lines.go front cs = [front.reverse ++ cs] := by
  induction cs generalizing front with
  | nil =>
    have hfront : front ≠ [] := by simpa using hne
    simp [lines.go, hfront]
  | cons c cs ih =>
    obtain ⟨hc, hcs⟩ := List.ne_and_not_mem_of_not_mem_cons hcs
    rw [lines.go, if_neg (Ne.symm hc), ih hcs (by simp)]
    simp

/-- A text without a line feed is a single line, unless it is empty. -/
theorem lines_eq_singleton (hcs : '\n' ∉ cs) (hne : cs ≠ []) : lines cs = [cs] := by
  cases cs with
  | nil => exact absurd rfl hne
  | cons c cs => exact lines_go_eq_singleton hcs (by simp)

/-- The first line of a text without a line feed is all of it. -/
theorem headD_lines (hcs : '\n' ∉ cs) : (lines cs).headD [] = cs := by
  by_cases hne : cs = []
  · rw [hne]
    rfl
  · rw [lines_eq_singleton hcs hne, List.headD_cons]

theorem newline_notMem_headD_lines (cs : List Char) : '\n' ∉ (lines cs).headD [] := by
  cases hlines : lines cs with
  | nil => exact List.not_mem_nil
  | cons line more => exact newline_notMem_of_mem_lines (hlines ▸ List.mem_cons_self)

/-! ### Blanks -/

theorem trimEnd_cons (c : Char) (cs : List Char) :
    trimEnd (c :: cs) = if trimEnd cs = [] ∧ isBlank c = true then [] else c :: trimEnd cs := by
  rw [trimEnd]
  split
  · rename_i hnil
    by_cases hc : isBlank c = true <;> simp [hnil, hc]
  · rename_i hne
    rw [if_neg fun hand => hne hand.1]

theorem trimEnd_eq_nil_iff : trimEnd cs = [] ↔ ∀ c ∈ cs, isBlank c = true := by
  induction cs with
  | nil => simp [trimEnd]
  | cons c cs ih =>
    rw [trimEnd_cons, List.forall_mem_cons, ← ih]
    by_cases hrest : trimEnd cs = [] ∧ isBlank c = true
    · simp [hrest]
    · simp only [if_neg hrest, reduceCtorEq, false_iff]
      exact fun hand => hrest hand.symm

/-- Trimming again changes nothing. -/
theorem trimEnd_trimEnd (cs : List Char) : trimEnd (trimEnd cs) = trimEnd cs := by
  induction cs with
  | nil => rfl
  | cons c cs ih =>
    rw [trimEnd_cons]
    split
    · rfl
    · rename_i hkept
      rw [trimEnd_cons, ih, if_neg hkept]

theorem mem_of_mem_trimEnd (h : c ∈ trimEnd cs) : c ∈ cs := by
  induction cs with
  | nil => exact h
  | cons d cs ih =>
    rw [trimEnd_cons] at h
    split at h
    · simp at h
    · exact (List.mem_cons.1 h).elim (fun heq => heq ▸ List.mem_cons_self)
        fun hmem => List.mem_cons_of_mem _ (ih hmem)

theorem mem_of_mem_trim (h : c ∈ trim cs) : c ∈ cs :=
  (List.dropWhile_sublist _).mem (mem_of_mem_trimEnd h)

/-- What trimming leaves ends with a character that is not blank. -/
theorem isBlank_of_getLast?_trimEnd (h : c ∈ (trimEnd cs).getLast?) : isBlank c = false := by
  induction cs with
  | nil => simp [trimEnd] at h
  | cons d cs ih =>
    rw [trimEnd_cons] at h
    split at h
    · simp at h
    · rename_i hkept
      cases hrest : trimEnd cs with
      | nil =>
        obtain rfl : d = c := by simpa [hrest] using h
        simpa [hrest] using hkept
      | cons e rest =>
        rw [hrest, List.getLast?_cons_cons] at h
        exact ih (hrest ▸ h)

/-- What is trimmed off the end of a text are blanks. -/
theorem exists_trimEnd_append (cs : List Char) :
    ∃ blanks, cs = trimEnd cs ++ blanks ∧ ∀ c ∈ blanks, isBlank c = true := by
  induction cs with
  | nil => exact ⟨[], rfl, List.forall_mem_nil _⟩
  | cons c cs ih =>
    obtain ⟨blanks, hcs, hblanks⟩ := ih
    rw [trimEnd_cons]
    split
    · rename_i hnone
      rw [hnone.1, List.nil_append] at hcs
      exact ⟨c :: cs, rfl, List.forall_mem_cons.2 ⟨hnone.2, hcs ▸ hblanks⟩⟩
    · exact ⟨blanks, congrArg (c :: ·) hcs, hblanks⟩

/-- Trimming leaves nothing if all characters are blank. -/
theorem trim_eq_nil_iff : trim cs = [] ↔ ∀ c ∈ cs, isBlank c = true := by
  rw [trim, trimEnd_eq_nil_iff, trimStart]
  refine ⟨fun h c hc => ?_, fun h c hc => h c ((List.dropWhile_sublist _).mem hc)⟩
  -- a character is one of those that are dropped, or of those that stay
  rw [← List.takeWhile_append_dropWhile (p := isBlank) (l := cs)] at hc
  rcases List.mem_append.1 hc with hc | hc
  · exact List.mem_takeWhile_imp hc
  · exact h c hc

/-- The blanks at the two ends of a text can be taken off in any order. -/
theorem trimEnd_trimStart (cs : List Char) : trimEnd (trimStart cs) = trimStart (trimEnd cs) := by
  induction cs with
  | nil => rfl
  | cons c cs ih =>
    rw [trimEnd_cons]
    by_cases hc : isBlank c = true
    · have hdrop : trimStart (c :: cs) = trimStart cs := List.dropWhile_cons_of_pos hc
      rw [hdrop, ih]
      split
      · rename_i hnone
        rw [hnone.1]
      · exact (List.dropWhile_cons_of_pos hc).symm
    · have hkeep (ds : List Char) : trimStart (c :: ds) = c :: ds := List.dropWhile_cons_of_neg hc
      rw [hkeep, trimEnd_cons]
      simp [hc, hkeep]

/-- What trimming leaves starts with a character that is not blank, and ends with one. -/
theorem of_trim_eq_cons (h : trim cs = c :: rest) : isBlank c = false ∧ trimEnd rest = rest := by
  cases hstart : trimStart cs with
  | nil => simp [trim, hstart, trimEnd] at h
  | cons d ds =>
    have hd : isBlank d = false := by
      have hhead := List.head?_dropWhile_not isBlank cs
      rw [trimStart] at hstart
      simpa [hstart] using hhead
    rw [trim, hstart, trimEnd_cons, hd] at h
    simp only [Bool.false_eq_true, and_false, if_false] at h
    obtain ⟨rfl, rfl⟩ := List.cons.inj h
    exact ⟨hd, trimEnd_trimEnd ds⟩

end CodeOutline.Text
