import Mathlib.Data.List.Induction
import Mathlib.Data.List.Pairwise
import CodeOutline.Proofs.Outline.Placing

/-!
# The lines around a line

Which lines enclose a line is a matter of levels alone: an earlier line does if it is shallower than
the line and shallower than everything in between. The lines that might still enclose a later line
are those that everything behind them is deeper than. Their levels fall from the latest to the
earliest, so closing the deeper ones from the top leaves exactly the shallower ones.

## Main definitions

* `Outline.enclosing`: the lines that enclose a level, latest first
* `Outline.openLines`: the lines that might enclose a later one, latest first

## Main results

* `Outline.mem_enclosing_iff`, `Outline.enclosing_sublist`: which lines enclose a level, and in what
  order they are listed
* `Outline.openLines_append_singleton`: the effect of one more line
* `Outline.close_eq_filter`: what stays open
-/

namespace CodeOutline.Outline

variable {lines : List Node} {line found : Node} {level : Nat}

/-- The lines that enclose what follows on a level: they are shallower than the level and shallower
than all the lines behind them. The latest comes first. -/
def enclosing : List Node → Nat → List Node
  | [], _ => []
  | line :: later, level =>
    if line.level < level ∧ ∀ between ∈ later, line.level < between.level then
      enclosing later level ++ [line]
    else enclosing later level

/-- The lines that all the lines behind them are deeper than. The latest comes first. -/
def openLines : List Node → List Node
  | [] => []
  | line :: later =>
    if ∀ between ∈ later, line.level < between.level then openLines later ++ [line]
    else openLines later

theorem enclosing_eq_filter (lines : List Node) (level : Nat) :
    enclosing lines level = (openLines lines).filter (·.level < level) := by
  induction lines with
  | nil => rfl
  | cons line later ih =>
    rw [enclosing, openLines, ih]
    by_cases hlater : ∀ between ∈ later, line.level < between.level
    · rw [if_pos hlater, List.filter_append]
      by_cases hlevel : line.level < level
      · rw [if_pos ⟨hlevel, hlater⟩]
        simp [hlevel]
      · rw [if_neg fun h => hlevel h.1]
        simp [hlevel]
    · rw [if_neg hlater, if_neg fun h => hlater h.2]

/-- Which lines enclose a level. -/
theorem mem_enclosing_iff : found ∈ enclosing lines level ↔
    ∃ earlier later, lines = earlier ++ found :: later ∧ found.level < level ∧
      ∀ between ∈ later, found.level < between.level := by
  induction lines with
  | nil => simp [enclosing]
  | cons line later ih =>
    constructor
    · intro hmem
      have hcases : found ∈ enclosing later level ∨ found = line ∧ line.level < level ∧
          ∀ between ∈ later, line.level < between.level := by
        rw [enclosing] at hmem
        split at hmem
        · rename_i hencloses
          rcases List.mem_append.1 hmem with hmem | hmem
          · exact Or.inl hmem
          · exact Or.inr ⟨List.mem_singleton.1 hmem, hencloses⟩
        · exact Or.inl hmem
      rcases hcases with hlater | ⟨rfl, hencloses⟩
      · obtain ⟨earlier, rest, rfl, hencloses⟩ := ih.1 hlater
        exact ⟨line :: earlier, rest, rfl, hencloses⟩
      · exact ⟨[], later, rfl, hencloses⟩
    · rintro ⟨earlier, rest, heq, hencloses⟩
      rw [enclosing]
      cases earlier with
      | nil =>
        obtain ⟨rfl, rfl⟩ := List.cons.inj heq
        rw [if_pos hencloses]
        exact List.mem_append_right _ (List.mem_singleton_self _)
      | cons first earlier =>
        obtain ⟨rfl, rfl⟩ := List.cons.inj heq
        have hmem := ih.2 ⟨earlier, rest, rfl, hencloses⟩
        split
        · exact List.mem_append_left _ hmem
        · exact hmem

/-- The lines that enclose a level are listed in the opposite order. -/
theorem enclosing_sublist (lines : List Node) (level : Nat) :
    (enclosing lines level).Sublist lines.reverse := by
  induction lines with
  | nil => exact List.Sublist.refl _
  | cons line later ih =>
    rw [enclosing, List.reverse_cons]
    split
    · exact ih.append_right [line]
    · exact ih.trans (List.sublist_append_left _ _)

/-- One more line hides the lines of its level and of deeper ones. -/
theorem openLines_append_singleton (lines : List Node) (line : Node) :
    openLines (lines ++ [line]) = line :: enclosing lines line.level := by
  induction lines with
  | nil => simp [openLines, enclosing]
  | cons first later ih =>
    rw [List.cons_append, openLines, enclosing, ih]
    -- the first line stays open if it is shallower than the last one as well
    have hsplit : (∀ between ∈ later ++ [line], first.level < between.level) ↔
        first.level < line.level ∧ ∀ between ∈ later, first.level < between.level := by
      simp [or_imp, forall_and, and_comm]
    simp only [hsplit]
    split <;> rfl

/-- The levels fall from the latest line to the earliest. -/
theorem pairwise_openLines (lines : List Node) :
    (openLines lines).Pairwise fun inner outer => outer.level < inner.level := by
  induction lines using List.reverseRecOn with
  | nil => exact List.Pairwise.nil
  | append_singleton lines line ih =>
    rw [openLines_append_singleton, enclosing_eq_filter]
    refine List.pairwise_cons.2 ⟨fun outer houter => ?_, ih.filter _⟩
    exact of_decide_eq_true (List.mem_filter.1 houter).2

/-- Where the levels fall from the innermost open node to the outermost, the shallower ones stay
open. -/
theorem close_eq_filter {opened : List (NodeId × Nat)}
    (h : opened.Pairwise fun inner outer => outer.2 < inner.2) (level : Nat) :
    Reading.close opened level = opened.filter (·.2 < level) := by
  rw [Reading.close]
  induction opened with
  | nil => rfl
  | cons entry outer ih =>
    obtain ⟨houter, hrest⟩ := List.pairwise_cons.1 h
    -- closing stops at the first entry that is shallower, and so are all the outer ones
    by_cases hlevel : level ≤ entry.2
    · have hdeeper : ¬ entry.2 < level := Nat.not_lt.2 hlevel
      simp [hlevel, hdeeper, ih hrest]
    · have hshallow : entry.2 < level := Nat.not_le.1 hlevel
      have hall : ∀ other ∈ outer, decide (other.2 < level) = true := fun other hother =>
        decide_eq_true (Nat.lt_trans (houter other hother) hshallow)
      simp [hlevel, hshallow, List.filter_eq_self.2 hall]

end CodeOutline.Outline
