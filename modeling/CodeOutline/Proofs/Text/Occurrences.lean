import CodeOutline.Proofs.Text.SmallLetters

/-!
# Occurrences of a text in another one, letter case aside

A text occurs in another one, letter case aside, where a run of characters has its small forms, one
after the other. The small forms of the two whole texts need not show this, because of the rule of
the final sigma: a capital sigma that ends the one text is `ς` there, and `σ` within the other text
if a letter follows. This is the only obstacle. An occurrence is found in small letters exactly if
the sigmas of the run are written as in the text that occurs, and without capital sigmas they are.

## Main definitions

* `Text.lowerBetween`: the small form of a run of characters where it stands
* `Text.smallSigmas`: the small sigmas of a text
* `Text.Occurrence`: an occurrence of a text, letter case aside
* `Text.Occurrence.KeepsSigmas`: the sigmas are written as in the text that occurs

## Main results

* `Text.occursIn_iff`: what it means to occur
* `Text.Occurrence.keepsSigmas_iff`: a run that reads as the text does on its own
* `Text.Occurrence.keepsSigmas_of_notMem`: a run without capital sigmas
* `Text.Occurrence.lower_infix`: an occurrence in small letters
-/

namespace CodeOutline.Text

variable {part cs ds before after : List Char} {c d : Char}

theorem occursIn_iff : occursIn part cs = true ↔ part <:+: cs := by
  induction cs with
  | nil => simp [occursIn]
  | cons c cs ih =>
    rw [occursIn, Bool.or_eq_true, ih, List.isPrefixOf_iff_prefix, List.infix_cons_iff]

/-! ### The small form of a run -/

/-- The small form of characters between those `before`, nearest first, and those `after`. -/
def lowerBetween (before after : List Char) : List Char → List Char
  | [] => []
  | c :: cs =>
    (if c = 'Σ' then [smallSigma before (cs ++ after)] else smallForm c)
      ++ lowerBetween (c :: before) after cs

/-- A text is read run by run, each of them where it stands. -/
theorem lowerAfter_append_eq (before cs after : List Char) :
    lowerAfter before (cs ++ after) =
      lowerBetween before after cs ++ lowerAfter (cs.reverse ++ before) after := by
  induction cs generalizing before with
  | nil => rfl
  | cons c cs ih =>
    rw [List.cons_append, lowerAfter, lowerBetween, ih, List.append_assoc]
    simp

theorem lowerBetween_nil (before cs : List Char) :
    lowerBetween before [] cs = lowerAfter before cs := by
  have hall := lowerAfter_append_eq before cs []
  rw [List.append_nil, lowerAfter, List.append_nil] at hall
  exact hall.symm

/-- Without capital sigmas, the small form of a run is that of its characters. -/
theorem lowerBetween_of_notMem (h : 'Σ' ∉ cs) (before after : List Char) :
    lowerBetween before after cs = cs.flatMap smallForm := by
  induction cs generalizing before with
  | nil => rfl
  | cons c cs ih =>
    rw [List.mem_cons, not_or] at h
    rw [lowerBetween, if_neg (Ne.symm h.1), ih h.2, List.flatMap_cons]

/-! ### The forms of the sigma -/

/-- The character without the difference between the two forms of the small sigma. -/
def plainSigma (c : Char) : Char :=
  if c = 'ς' then 'σ' else c

/-- The small sigmas of a text, in order and as they are written. -/
def smallSigmas (cs : List Char) : List Char :=
  cs.filter fun c => c = 'σ' ∨ c = 'ς'

theorem eq_or_of_plainSigma_eq (h : plainSigma c = plainSigma d) :
    c = d ∨ (c = 'σ' ∨ c = 'ς') ∧ (d = 'σ' ∨ d = 'ς') := by
  rw [plainSigma, plainSigma] at h
  split at h <;> rename_i hc
  · split at h <;> rename_i hd
    · exact .inl (hc.trans hd.symm)
    · exact .inr ⟨.inr hc, .inl h.symm⟩
  · split at h <;> rename_i hd
    · exact .inr ⟨.inl h, .inr hd⟩
    · exact .inl h

/-- Texts that differ in the forms of their sigmas only are told apart by these. -/
theorem eq_of_smallSigmas_eq (hplain : cs.map plainSigma = ds.map plainSigma)
    (hsigmas : smallSigmas cs = smallSigmas ds) : cs = ds := by
  induction cs generalizing ds with
  | nil => simpa using hplain.symm
  | cons c cs ih =>
    cases ds with
    | nil => simp at hplain
    | cons d ds =>
      rw [List.map_cons, List.map_cons, List.cons.injEq] at hplain
      obtain ⟨hhead, htail⟩ := hplain
      rw [smallSigmas, smallSigmas] at hsigmas
      -- two sigmas are compared by their forms, and other characters are equal
      by_cases hc : c = 'σ' ∨ c = 'ς'
      · have hd : d = 'σ' ∨ d = 'ς' := by
          rcases eq_or_of_plainSigma_eq hhead with rfl | ⟨-, hd⟩
          · exact hc
          · exact hd
        rw [List.filter_cons_of_pos (by simpa using hc), List.filter_cons_of_pos (by simpa using hd),
          List.cons.injEq] at hsigmas
        rw [hsigmas.1, ih htail hsigmas.2]
      · obtain rfl := (eq_or_of_plainSigma_eq hhead).resolve_right fun hboth => hc hboth.1
        rw [List.filter_cons_of_neg (by simpa using hc),
          List.filter_cons_of_neg (by simpa using hc)] at hsigmas
        rw [ih htail hsigmas]

/-- What stands around a run decides about the forms of its sigmas only. -/
theorem map_plainSigma_lowerBetween (before after cs : List Char) :
    (lowerBetween before after cs).map plainSigma =
      (cs.flatMap smallForm).map plainSigma := by
  have hcapital : smallForm 'Σ' = ['σ'] := by decide +kernel
  induction cs generalizing before with
  | nil => rfl
  | cons c cs ih =>
    rw [lowerBetween, List.map_append, ih, List.flatMap_cons, List.map_append]
    congr 1
    split
    · rename_i hc
      rw [hc, hcapital]
      rcases smallSigma_eq before (cs ++ after) with heq | heq
      · rw [heq]
        rfl
      · rw [heq]
    · rfl

/-! ### Occurrences -/

/-- An occurrence of a text in another one, letter case aside: a run of characters that has its small
forms, one after the other. -/
structure Occurrence (part cs : List Char) where
  front : List Char
  run : List Char
  back : List Char
  eq : front ++ (run ++ back) = cs
  alike : run.flatMap smallForm = part.flatMap smallForm

namespace Occurrence

variable (o : Occurrence part cs)

/-- In small letters, the sigmas of the run are written as in the text that occurs. -/
def KeepsSigmas : Prop :=
  smallSigmas (lowerBetween o.front.reverse o.back o.run) = smallSigmas (lower part)

/-- The sigmas decide whether the run reads as the text that occurs does on its own. -/
theorem keepsSigmas_iff :
    o.KeepsSigmas ↔ lowerBetween o.front.reverse o.back o.run = lower part := by
  constructor
  · intro hsigmas
    refine eq_of_smallSigmas_eq ?_ hsigmas
    rw [lower, ← lowerBetween_nil, map_plainSigma_lowerBetween, map_plainSigma_lowerBetween,
      o.alike]
  · intro heq
    rw [KeepsSigmas, heq]

/-- Without capital sigmas, nothing stands in the way. -/
theorem keepsSigmas_of_notMem (hrun : 'Σ' ∉ o.run) (hpart : 'Σ' ∉ part) : o.KeepsSigmas := by
  rw [keepsSigmas_iff, lower, ← lowerBetween_nil, lowerBetween_of_notMem hrun,
    lowerBetween_of_notMem hpart, o.alike]

/-- **An occurrence is found in small letters** if its sigmas are written as in the text. -/
theorem lower_infix (h : o.KeepsSigmas) : lower part <:+: lower cs := by
  have hrun := o.keepsSigmas_iff.1 h
  have hcs := lowerAfter_append_eq [] o.front (o.run ++ o.back)
  rw [o.eq, List.append_nil, lowerAfter_append_eq, hrun, ← lower] at hcs
  exact ⟨_, _, by rw [hcs, List.append_assoc]⟩

end Occurrence

end CodeOutline.Text
