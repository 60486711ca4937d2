import Mathlib.Data.List.Basic
import CodeOutline.Proofs.Text.Lines
import CodeOutline.Text.Case

/-!
# Small letters and blanks

Reading a text in small letters keeps its shape: blanks stay as they are, nothing else becomes a
blank, and in ASCII every character is replaced on its own. The one rule that looks around, that of
the final sigma, looks back no further than to a blank or a sign, so a name has the same small form
wherever it stands behind one.

## Main definitions

* `Text.blanks`: the code points of the blanks
* `Text.HasNoCapital`: a code point that is the small form of no other
* `Text.IsBarrier`: a character at which the rule of the final sigma looks back no further

## Main results

* `Text.lower_of_ascii`: the small form of a text in ASCII
* `Text.eq_of_mem_smallForm`: characters that come from themselves only
* `Text.lowerAfter_append_barrier`: what stands before a barrier does not matter
* `Text.trimStart_lowerAfter`: trimming and reading in small letters, behind a barrier
-/

namespace CodeOutline.Text

variable {c d : Char} {cs front before gap : List Char}

/-! ### ASCII -/

theorem smallForm_of_ascii (h : c.toNat < 0x80) : smallForm c = [smallLetter c] := by
  rw [smallForm, if_pos h]

theorem ne_sigma_of_ascii (h : c.toNat < 0x80) : c ≠ 'Σ' := by
  rintro rfl
  exact absurd h (by decide)

/-- ASCII in front of a text is replaced character by character, and the rule of the final sigma
looks back to it. -/
theorem lowerAfter_append_of_ascii (h : ∀ c ∈ front, c.toNat < 0x80) (before cs : List Char) :
    lowerAfter before (front ++ cs) =
      front.map smallLetter ++ lowerAfter (front.reverse ++ before) cs := by
  induction front generalizing before with
  | nil => rfl
  | cons c front ih =>
    obtain ⟨hc, hfront⟩ := List.forall_mem_cons.1 h
    rw [List.cons_append, lowerAfter, if_neg (ne_sigma_of_ascii hc), smallForm_of_ascii hc,
      ih hfront]
    simp

theorem lowerAfter_of_ascii (h : ∀ c ∈ cs, c.toNat < 0x80) (before : List Char) :
    lowerAfter before cs = cs.map smallLetter := by
  have hall := lowerAfter_append_of_ascii h before []
  rw [List.append_nil] at hall
  rw [hall, lowerAfter, List.append_nil]

/-- In ASCII every character is replaced on its own. -/
theorem lower_of_ascii (h : ∀ c ∈ cs, c.toNat < 0x80) : lower cs = cs.map smallLetter :=
  lowerAfter_of_ascii h []

/-! ### Blanks -/

/-- The code points of the blanks. -/
def blanks : List Nat :=
  [9, 10, 11, 12, 13, 0x20, 0x85, 0xA0, 0x1680, 0x2000, 0x2001, 0x2002, 0x2003, 0x2004, 0x2005,
    0x2006, 0x2007, 0x2008, 0x2009, 0x200A, 0x2028, 0x2029, 0x202F, 0x205F, 0x3000]

theorem isBlank_iff : isBlank c = true ↔ c.toNat ∈ blanks := by
  simp only [isBlank, blanks, Bool.or_eq_true, Bool.and_eq_true, decide_eq_true_eq, beq_iff_eq,
    List.mem_cons, List.not_mem_nil, or_false]
  omega

/-- No blank has a small form of its own. -/
theorem smallForms_avoid_blanks : ∀ entry ∈ smallForms, ∀ n ∈ blanks, entry.1.has n = false := by
  decide +kernel

theorem isUpperLetter_iff : isUpperLetter c = true ↔ 65 ≤ c.toNat ∧ c.toNat ≤ 90 := by
  simp only [isUpperLetter, Bool.and_eq_true, decide_eq_true_eq]
  exact Iff.rfl

/-- Blanks stay as they are. -/
theorem smallForm_of_isBlank (h : isBlank c = true) : smallForm c = [c] := by
  rw [isBlank_iff] at h
  have hupper : isUpperLetter c = false := by
    have hcapital : ∀ n ∈ blanks, ¬ (65 ≤ n ∧ n ≤ 90) := by decide
    rw [Bool.eq_false_iff, ne_eq, isUpperLetter_iff]
    exact hcapital _ h
  have hdotted : c ≠ 'İ' := by
    rintro rfl
    exact absurd h (by decide)
  have hfind : smallForms.find? (·.1.has c.toNat) = none := by
    rw [List.find?_eq_none]
    intro entry hentry
    rw [smallForms_avoid_blanks entry hentry _ h]
    exact Bool.false_ne_true
  simp [smallForm, smallLetter, hupper, hdotted, hfind]

/-- A number that is no code point is read as zero. -/
theorem toNat_ofNat (n : Nat) : (Char.ofNat n).toNat = n ∨ (Char.ofNat n).toNat = 0 := by
  by_cases h : n.isValidChar
  · rw [Char.ofNat, dif_pos h]
    exact .inl rfl
  · rw [Char.ofNat, dif_neg h]
    exact .inr rfl

/-- The code point is the small form of no other: it is no letter from `a` to `z` and no final
sigma, and neither the table nor the dotted capital `İ` leads to it. Zero is what a number that is
no code point is read as. -/
def HasNoCapital (n : Nat) : Prop :=
  n ≠ 0 ∧ ¬ (97 ≤ n ∧ n ≤ 122) ∧ n ≠ 0x307 ∧ n ≠ 0x3C2 ∧
    ∀ entry ∈ smallForms, ¬ (entry.2 ≤ n ∧ n ≤ entry.2 + (entry.1.last - entry.1.first))

instance (n : Nat) : Decidable (HasNoCapital n) :=
  inferInstanceAs (Decidable (_ ∧ _ ∧ _ ∧ _ ∧ _))

/-- A character that has no capital comes from itself only. -/
theorem eq_of_mem_smallForm (hd : HasNoCapital d.toNat) (h : d ∈ smallForm c) : d = c := by
  obtain ⟨hzero, hletter, hdot, -, htable⟩ := hd
  rw [smallForm] at h
  -- the rules, in order: ASCII, `İ`, the table, and what stays as it is
  split at h
  · obtain rfl := List.mem_singleton.1 h
    rw [smallLetter] at hzero hletter ⊢
    split
    · rename_i hupper
      rw [if_pos hupper] at hzero hletter
      rw [isUpperLetter_iff] at hupper
      have hcode := (toNat_ofNat (c.toNat + 32)).resolve_right hzero
      omega
    · rfl
  split at h
  · obtain rfl | rfl := List.mem_pair.1 h
    · exact absurd (by decide) hletter
    · exact absurd rfl hdot
  split at h
  · rename_i capitals small hfind
    obtain rfl := List.mem_singleton.1 h
    have hhas := List.find?_some hfind
    have hcode := (toNat_ofNat (small + (c.toNat - capitals.first))).resolve_right hzero
    have hbounds := htable _ (List.mem_of_find?_eq_some hfind)
    simp only [Stretch.has, Bool.and_eq_true, decide_eq_true_eq] at hhas
    dsimp only at hbounds
    omega
  · exact List.mem_singleton.1 h

theorem smallSigma_eq (before after : List Char) :
    smallSigma before after = 'ς' ∨ smallSigma before after = 'σ' := by
  rw [smallSigma]
  split
  · exact .inl rfl
  · exact .inr rfl

theorem isBlank_smallSigma (before after : List Char) :
    isBlank (smallSigma before after) = false := by
  rcases smallSigma_eq before after with heq | heq <;> rw [heq] <;> decide

/-- In the small form of a text too, a character that has no capital comes from itself only. -/
theorem mem_of_mem_lowerAfter (hd : HasNoCapital d.toNat) (h : d ∈ lowerAfter before cs) :
    d ∈ cs := by
  induction cs generalizing before with
  | nil => exact h
  | cons c cs ih =>
    rw [lowerAfter] at h
    rcases List.mem_append.1 h with hfirst | hrest
    · split at hfirst
      · -- neither form of the sigma is a character without a capital
        have hsigma : ¬ HasNoCapital 'σ'.toNat := by decide +kernel
        obtain rfl := List.mem_singleton.1 hfirst
        rcases smallSigma_eq before cs with heq | heq <;> rw [heq] at hd
        · exact absurd rfl hd.2.2.2.1
        · exact absurd hd hsigma
      · rw [eq_of_mem_smallForm hd hfirst]
        exact List.mem_cons_self
    · exact List.mem_cons_of_mem _ (ih hrest)

theorem hasNoCapital_of_mem_blanks : ∀ n ∈ blanks, HasNoCapital n := by
  decide +kernel

/-- Nothing else becomes a blank. -/
theorem isBlank_of_mem_smallForm (hc : isBlank c = false) (hd : d ∈ smallForm c) :
    isBlank d = false := by
  by_contra hblank
  rw [Bool.not_eq_false] at hblank
  have heq := eq_of_mem_smallForm (hasNoCapital_of_mem_blanks _ (isBlank_iff.1 hblank)) hd
  rw [heq, hc] at hblank
  exact Bool.false_ne_true hblank

theorem smallForm_ne_nil (c : Char) : smallForm c ≠ [] := by
  rw [smallForm]
  split
  · simp
  split
  · simp
  split <;> simp

/-! ### Barriers -/

/-- The rule of the final sigma looks back no further than to this character. -/
def IsBarrier (c : Char) : Prop :=
  isCased c = false ∧ isCaseIgnorable c = false

theorem meetsCased_append_barrier (hc : IsBarrier c) (front before : List Char) :
    meetsCased (front ++ c :: before) = meetsCased front := by
  rw [meetsCased, List.dropWhile_append, meetsCased]
  cases hdrop : front.dropWhile isCaseIgnorable with
  | nil => simp [hc.1, hc.2]
  | cons d ds => simp

/-- What stands before a barrier does not matter. -/
theorem lowerAfter_append_barrier (hc : IsBarrier c) (front before cs : List Char) :
    lowerAfter (front ++ c :: before) cs = lowerAfter front cs := by
  induction cs generalizing front with
  | nil => rfl
  | cons d ds ih =>
    have htail := ih (d :: front)
    rw [List.cons_append] at htail
    rw [lowerAfter, lowerAfter, htail, smallSigma, meetsCased_append_barrier hc, smallSigma]

/-- No blank is a letter, or passed over by the rule of the final sigma. -/
theorem cases_avoid_blanks : ∀ n ∈ blanks,
    (smallLetters ++ capitalLetters ++ titleLetters ++ caseIgnorable).any (·.has n) = false := by
  decide +kernel

theorem isBarrier_of_isBlank (h : isBlank c = true) : IsBarrier c := by
  have hnone := cases_avoid_blanks _ (isBlank_iff.1 h)
  simp only [List.any_append, Bool.or_eq_false_iff] at hnone
  obtain ⟨⟨⟨hsmall, hcapital⟩, htitle⟩, hignorable⟩ := hnone
  exact ⟨by simp only [isCased, isSmall, isCapital, inStretches, hsmall, hcapital, htitle,
    Bool.or_self], hignorable⟩

/-- Behind a barrier, blanks stay as they are, and what follows them is read as if it came first. -/
theorem lowerAfter_blanks_append (hc : IsBarrier c) (hgap : ∀ d ∈ gap, isBlank d = true)
    (before cs : List Char) : lowerAfter (c :: before) (gap ++ cs) = gap ++ lower cs := by
  induction gap generalizing c before with
  | nil => exact lowerAfter_append_barrier hc [] before cs
  | cons d gap ih =>
    obtain ⟨hd, hgap⟩ := List.forall_mem_cons.1 hgap
    have hsigma : d ≠ 'Σ' := by
      rintro rfl
      exact absurd hd (by decide)
    rw [List.cons_append, lowerAfter, if_neg hsigma, smallForm_of_isBlank hd,
      ih (isBarrier_of_isBlank hd) hgap]
    rfl

/-! ### Trimming -/

/-- The small form of a text starts with a blank only if the text does. -/
theorem trimStart_lower_trimStart (cs : List Char) :
    trimStart (lower (trimStart cs)) = lower (trimStart cs) := by
  cases hstart : trimStart cs with
  | nil => rfl
  | cons c rest =>
    have hc : isBlank c = false := by
      have hhead := List.head?_dropWhile_not isBlank cs
      rw [← trimStart, hstart] at hhead
      exact hhead
    -- the rule of the final sigma comes first, and gives a letter in any case
    obtain ⟨d, ds, hform, hd⟩ : ∃ d ds, lower (c :: rest) = d :: ds ∧ isBlank d = false := by
      rw [lower, lowerAfter]
      split
      · exact ⟨_, _, rfl, isBlank_smallSigma [] rest⟩
      · obtain ⟨d, ds, hform⟩ := List.exists_cons_of_ne_nil (smallForm_ne_nil c)
        refine ⟨d, _, by rw [hform, List.cons_append], isBlank_of_mem_smallForm hc ?_⟩
        rw [hform]
        exact List.mem_cons_self
    rw [hform, trimStart, List.dropWhile_cons_of_neg (by simp [hd])]

/-- Behind a barrier, trimming and reading in small letters can be exchanged. -/
theorem trimStart_lowerAfter (hc : IsBarrier c) (before cs : List Char) :
    trimStart (lowerAfter (c :: before) cs) = lower (trimStart cs) := by
  have hgap : ∀ d ∈ cs.takeWhile isBlank, isBlank d = true := fun d => List.mem_takeWhile_imp
  rw [← trimStart_lower_trimStart cs]
  conv_lhs => rw [← List.takeWhile_append_dropWhile (p := isBlank) (l := cs)]
  rw [lowerAfter_blanks_append hc hgap, trimStart, List.dropWhile_append_of_pos hgap]
  rfl

end CodeOutline.Text
