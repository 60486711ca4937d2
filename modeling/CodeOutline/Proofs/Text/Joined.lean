import CodeOutline.Proofs.Text.Words

/-!
# Small letters of joined texts

The small form of a text is not put together from the small forms of its parts, as the rule of the
final sigma looks from one part into the next. But it does not look across a barrier. So parts with
a barrier between them can be read in small letters one by one, and the blanks behind a text can be
taken off before or after it is read in small letters.

## Main results

* `Text.lower_intercalate`: parts with a barrier between them
* `Text.trimEnd_lowerAfter`: the blanks behind a text
* `Text.lowerAfter_eq_lower`: a text that is read as if nothing stood before it
-/

namespace CodeOutline.Text

variable {c d : Char} {cs front gap : List Char}

/-! ### What follows a barrier -/

theorem IsBarrier.ne_sigma (hc : IsBarrier c) : c ≠ 'Σ' := by
  rintro rfl
  have hcased : isCased 'Σ' = true := by decide +kernel
  exact Bool.false_ne_true (hc.1.symm.trans hcased)

theorem smallSigma_append_barrier (hc : IsBarrier c) (before cs rest : List Char) :
    smallSigma before (cs ++ c :: rest) = smallSigma before cs := by
  rw [smallSigma, meetsCased_append_barrier hc, smallSigma]

/-- A text on the one side of a barrier does not matter to the text on the other. -/
theorem lowerAfter_append_cons (hc : IsBarrier c) (before cs rest : List Char) :
    lowerAfter before (cs ++ c :: rest) = lowerAfter before cs ++ (smallForm c ++ lower rest) := by
  induction cs generalizing before with
  | nil =>
    have hrest := lowerAfter_append_barrier hc [] before rest
    rw [List.nil_append] at hrest
    have hnothing : lowerAfter before [] = [] := rfl
    rw [hnothing, List.nil_append, List.nil_append, lowerAfter, if_neg hc.ne_sigma, hrest, lower]
  | cons d ds ih =>
    rw [List.cons_append, lowerAfter, smallSigma_append_barrier hc, ih, lowerAfter,
      List.append_assoc]

/-- Parts with a barrier between them are read in small letters one by one. -/
theorem lower_intercalate (hc : IsBarrier c) (hself : smallForm c = [c])
    (parts : List (List Char)) :
    lower ([c].intercalate parts) = [c].intercalate (parts.map lower) := by
  induction parts with
  | nil => rfl
  | cons part rest ih =>
    cases rest with
    | nil => simp
    | cons next rest =>
      have hpart := lowerAfter_append_cons hc [] part ([c].intercalate (next :: rest))
      rw [List.intercalate_cons_cons, List.append_assoc, List.singleton_append, lower, hpart, hself,
        ih]
      simp [List.intercalate_cons_cons, lower]

/-! ### The blanks behind a text -/

theorem lowerAfter_blanks (hgap : ∀ d ∈ gap, isBlank d = true) (before : List Char) :
    lowerAfter before gap = gap := by
  cases gap with
  | nil => rfl
  | cons c gap =>
    obtain ⟨hc, hgap⟩ := List.forall_mem_cons.1 hgap
    have hbarrier := isBarrier_of_isBlank hc
    have hrest := lowerAfter_blanks_append hbarrier hgap before []
    rw [List.append_nil] at hrest
    rw [lowerAfter, if_neg hbarrier.ne_sigma, smallForm_of_isBlank hc, hrest]
    simp [lower, lowerAfter]

theorem lowerAfter_append_blanks (hgap : ∀ d ∈ gap, isBlank d = true) (before cs : List Char) :
    lowerAfter before (cs ++ gap) = lowerAfter before cs ++ gap := by
  cases gap with
  | nil => simp
  | cons c gap =>
    obtain ⟨hc, hgap⟩ := List.forall_mem_cons.1 hgap
    rw [lowerAfter_append_cons (isBarrier_of_isBlank hc), smallForm_of_isBlank hc, lower,
      lowerAfter_blanks hgap, List.singleton_append]

theorem trimEnd_append_blanks (hgap : ∀ d ∈ gap, isBlank d = true) (cs : List Char) :
    trimEnd (cs ++ gap) = trimEnd cs := by
  induction cs with
  | nil => exact trimEnd_eq_nil_iff.2 hgap
  | cons c cs ih => rw [List.cons_append, trimEnd_cons, ih, trimEnd_cons]

/-- What a character becomes ends with a blank only if it is one. -/
theorem isBlank_of_getLast?_lowerAfter (hlast : ∀ c ∈ cs.getLast?, isBlank c = false)
    (before : List Char) (hd : d ∈ (lowerAfter before cs).getLast?) : isBlank d = false := by
  induction cs generalizing before with
  | nil => simp [lowerAfter] at hd
  | cons c cs ih =>
    rw [lowerAfter] at hd
    cases cs with
    | nil =>
      have hmem := List.mem_of_getLast? hd
      rw [lowerAfter, List.append_nil] at hmem
      split at hmem
      · obtain rfl := List.mem_singleton.1 hmem
        exact isBlank_smallSigma before []
      · exact isBlank_of_mem_smallForm (hlast c rfl) hmem
    | cons e es =>
      have hne : lowerAfter (c :: before) (e :: es) ≠ [] := by
        rw [lowerAfter]
        split <;> simp [smallForm_ne_nil]
      rw [List.getLast?_append_of_ne_nil _ hne] at hd
      rw [List.getLast?_cons_cons] at hlast
      exact ih hlast _ hd

/-- The blanks behind a text can be taken off before or after it is read in small letters. -/
theorem trimEnd_lowerAfter (before cs : List Char) :
    trimEnd (lowerAfter before cs) = lowerAfter before (trimEnd cs) := by
  obtain ⟨blanks, hcs, hblanks⟩ := exists_trimEnd_append cs
  -- what is kept ends with no blank, and so does its small form
  have hkept : trimEnd (lowerAfter before (trimEnd cs)) = lowerAfter before (trimEnd cs) := by
    apply trimEnd_eq_self
    intro c hc
    exact isBlank_of_getLast?_lowerAfter (fun _ => isBlank_of_getLast?_trimEnd) before hc
  conv_lhs => rw [hcs]
  rw [lowerAfter_append_blanks hblanks, trimEnd_append_blanks hblanks, hkept]

/-! ### What comes before a text -/

theorem meetsCased_append (h : ∃ c ∈ cs, isCaseIgnorable c = false) (before : List Char) :
    meetsCased (cs ++ before) = meetsCased cs := by
  obtain ⟨c, hc, hfalse⟩ := h
  rw [meetsCased, List.dropWhile_append, meetsCased]
  cases hdrop : cs.dropWhile isCaseIgnorable with
  | nil => simp [List.dropWhile_eq_nil_iff.1 hdrop c hc] at hfalse
  | cons d ds => simp

/-- What stands before a text does not matter once something has been read that the rule of the
final sigma does not pass over, or if a capital sigma is not the first such character to come. -/
theorem lowerAfter_append (h : (∃ c ∈ front, isCaseIgnorable c = false) ∨
      (cs.dropWhile isCaseIgnorable).head? ≠ some 'Σ') (before : List Char) :
    lowerAfter (front ++ before) cs = lowerAfter front cs := by
  -- what has been read of the text joins `front`
  induction cs generalizing front with
  | nil => rfl
  | cons c cs ih =>
    have hsigma : c = 'Σ' → smallSigma (front ++ before) cs = smallSigma front cs := by
      rintro rfl
      have hstop : isCaseIgnorable 'Σ' = false := by decide +kernel
      have hfront : ∃ c ∈ front, isCaseIgnorable c = false := by
        apply h.resolve_right
        simp [hstop]
      rw [smallSigma, meetsCased_append hfront, smallSigma]
    have hrest : lowerAfter (c :: (front ++ before)) cs = lowerAfter (c :: front) cs := by
      have hnext : (∃ d ∈ c :: front, isCaseIgnorable d = false) ∨
          (cs.dropWhile isCaseIgnorable).head? ≠ some 'Σ' := by
        by_cases hc : isCaseIgnorable c = true
        · rw [List.dropWhile_cons_of_pos hc] at h
          rcases h with ⟨d, hd, hstop⟩ | hfirst
          · exact .inl ⟨d, List.mem_cons_of_mem _ hd, hstop⟩
          · exact .inr hfirst
        · exact .inl ⟨c, List.mem_cons_self, Bool.eq_false_iff.2 hc⟩
      exact ih hnext
    rw [lowerAfter, lowerAfter, hrest]
    by_cases hc : c = 'Σ'
    · simp only [if_pos hc, hsigma hc]
    · simp only [if_neg hc]

/-- A text is read as if nothing stood before it, unless a capital sigma is the first character that
the rule of the final sigma does not pass over. -/
theorem lowerAfter_eq_lower (h : (cs.dropWhile isCaseIgnorable).head? ≠ some 'Σ')
    (before : List Char) : lowerAfter before cs = lower cs := by
  have hbefore : lowerAfter ([] ++ before) cs = lowerAfter [] cs :=
    lowerAfter_append (.inr h) before
  exact hbefore

end CodeOutline.Text
