import CodeOutline.Proofs.Diff.Patch
import CodeOutline.Proofs.Outline.Contents

/-!
# What can be modified in an outline

A modified node has its kind and path as before, and another hash. But the path of a node shows its
name, and kind and name leave only one way to write a file, a function, a component or a reference.
So these are never modified: a line that says something else is about another node. A directory can
be modified, by another slash or by blanks, and so can a note. Functions taken out of modified
functions, or put into them, are therefore never found between two outlines.

## Main results

* `Refactoring.kind_of_mem_detect`: what is guessed where no function is modified
* `Outline.modified_and_refactored`: only directories and notes of an outline are modified, and only
  splittings are guessed
-/

namespace CodeOutline

open Diff

/-! ### Refactorings without modified functions -/

namespace Refactoring

variable {added removed : List Node} {modified : List Modification} {subject : Node}
  {refactoring : Refactoring} {kind : RefactoringKind}

theorem besideModified_eq_none (h : ∀ m ∈ modified, m.after.kind ≠ .function) :
    besideModified kind modified subject = none := by
  have hnone : functions (modified.map (·.after)) = [] := by
    rw [functions, List.filter_eq_nil_iff, List.forall_mem_map]
    intro m hm hfunction
    exact h m hm (beq_iff_eq.1 hfunction)
  rw [besideModified, modifiedNames, functionsOf, hnone]
  rfl

theorem kind_of_splitOf (h : splitOf added subject = some refactoring) :
    refactoring.kind = .split := by
  simp only [splitOf] at h
  split at h
  · obtain rfl := Option.some.inj h
    rfl
  · simp at h

/-- Where no function is modified, only splittings are guessed. -/
theorem kind_of_mem_detect (h : ∀ m ∈ modified, m.after.kind ≠ .function)
    (hmem : refactoring ∈ detect added removed modified) : refactoring.kind = .split := by
  simp only [detect, List.mem_append, List.mem_filterMap, besideModified_eq_none h] at hmem
  rcases hmem with (⟨-, -, hnone⟩ | ⟨-, -, hnone⟩) | ⟨subject, -, hsplit⟩
  · simp at hnone
  · simp at hnone
  · exact kind_of_splitOf hsplit

end Refactoring

namespace Outline

variable {options : DiffOptions} {width width' : Nat} {text text' : String} {m : Modification}

/-- The pairs of nodes behind the difference between two outlines. -/
theorem explains_ofText (options : DiffOptions) (width width' : Nat) (text text' : String) :
    Explains options (ofText width text).forest.entries (ofText width' text').forest.entries
      (pairs (ofText width text).forest.entries (ofText width' text').forest.entries)
      (between options (ofText width text).forest (ofText width' text').forest) :=
  explains_pairs (nodup_entries_ofText width text) (nodup_entries_ofText width' text') options

/-- A modified node is of one kind before and after, and there is more than one way to write it. -/
theorem kind_of_mem_modified
    (hm : m ∈ (between options (ofText width text).forest (ofText width' text').forest).modified) :
    m.before.kind = m.after.kind ∧ (m.after.kind = .directory ∨ m.after.kind = .note) := by
  obtain ⟨p, -, ⟨hlast, hlast', hidentity⟩, hhash, rfl⟩ :=
    (explains_ofText options width width' text text').mem_modified.1 hm
  obtain ⟨hbefore, hhashBefore⟩ := mem_entries_ofText.1 hlast.mem
  obtain ⟨hafter, hhashAfter⟩ := mem_entries_ofText.1 hlast'.mem
  have hkind : p.1.node.kind = p.2.node.kind := congrArg Identity.kind hidentity
  refine ⟨hkind, ?_⟩
  by_contra hother
  rw [not_or] at hother
  -- a node of another kind would have the hash that it had
  have hsame := hash_eq_of_identity_eq hbefore hafter (hkind ▸ hother) hidentity
  exact hhash (by rw [hhashBefore, hhashAfter, hsame])

/-- **Only directories and notes of an outline are modified**, whatever the two texts, however wide
their levels, and however the difference is taken; and so only splittings of functions are guessed. -/
theorem modified_and_refactored (options : DiffOptions) (width width' : Nat)
    (text text' : String) :
    let diff := between options (ofText width text).forest (ofText width' text').forest
    (∀ m ∈ diff.modified, m.before.kind = m.after.kind ∧
      (m.after.kind = .directory ∨ m.after.kind = .note)) ∧
      ∀ refactoring ∈ diff.refactorings, refactoring.kind = .split := by
  intro diff
  refine ⟨fun m => kind_of_mem_modified, fun refactoring hmem => ?_⟩
  have hfunction : ∀ m ∈ diff.modified, m.after.kind ≠ .function := by
    intro m hm heq
    rcases (kind_of_mem_modified hm).2 with hkind | hkind <;> simp [heq] at hkind
  rw [(explains_ofText options width width' text text').refactorings] at hmem
  split at hmem
  · exact Refactoring.kind_of_mem_detect hfunction hmem
  · simp at hmem

/-- A directory gets a second slash, and a note loses the blank behind its sign. -/
example : (between .standard (ofText 2 "/a\n  b.ts\n    # x").forest
    (ofText 2 "/a/\n  b.ts\n    #x").forest).modified.map (·.after.kind) =
      [.directory, .note] := by
  decide +kernel

end Outline

end CodeOutline
