import CodeOutline.Proofs.Outline.Repositioning
import CodeOutline.Proofs.Text.LineEnds

/-!
# Outlines from which lines are taken out

Blank lines, markers that are still being typed, assignments and errors stand in an outline without
a node. However deep such a line is indented, and whichever nodes are open where it stands, it opens
and closes none of them. So lines of this kind may be taken out of a text, all of them or some: what
is left describes the same forest and is reported in the same way, under its new line numbers.

## Main definitions

* `Outline.isOmissible`: the line has no node
* `Outline.withoutLines`: a text without the lines of some numbers
* `Outline.renumbering`, `Outline.renumbered`: nodes and remarks under the new line numbers

## Main results

* `Reading.reposition_step_of_kept`, `Reading.reposition_step_of_gone`: a line that stays, and one
  that is taken out
* `Reading.reposition_foldl_step`: numbered lines of both sorts
* `Outline.ofText_withoutLines`: a text from which lines without a node are taken out
-/

namespace CodeOutline.Outline

open Reading

variable {gone : Nat → Bool} {reading : Reading} {width number : Nat} {line : String}

/-- The line has no node: it is blank, still being typed, an assignment or an error. -/
def isOmissible (line : String) : Bool :=
  match Line.read line with
  | .ok .blank | .ok .incomplete | .ok (.statement (.assignment _ _)) | .error _ => true
  | .ok (.statement _) => false

/-- A text without the lines of some numbers. The others keep their line ends. -/
def withoutLines (gone : Nat → Bool) (text : String) : String :=
  .ofList (Text.keep gone (Text.endedLines text.toList)).flatten

/-- The new line for a line: its number among those that are kept. Columns stay as they are. -/
def renumbering (gone : Nat → Bool) : Repositioning :=
  ⟨Text.keptUpTo gone, fun _ column => column⟩

/-- A remark under its new line number, if its line is kept. -/
def renumbered (gone : Nat → Bool) (remark : Remark) : Option Remark :=
  if gone remark.line then none
  else some { remark with line := Text.keptUpTo gone remark.line }

theorem describe?_of_isOmissible (h : isOmissible line = true) :
    describe? width number line = none := by
  unfold isOmissible at h
  rw [describe?]
  split at h <;> simp_all [Node.ofStatement?]

theorem ofText_eq_after (width : Nat) (text : String) :
    ofText width text = ⟨(after (max width 1) (linesOf text)).forest,
      (after (max width 1) (linesOf text)).remarks⟩ := rfl

theorem linesOf_withoutLines (gone : Nat → Bool) (text : String) :
    linesOf (withoutLines gone text) = Text.keep gone (linesOf text) := by
  rw [linesOf, withoutLines, String.toList_ofList, Text.lines_flatten_keep, linesOf, Text.keep_map]

/-! ### One line -/

namespace Reading

theorem forwards_renumbered (h : gone number = false) :
    Forwards (renumbered gone) number (Text.keptUpTo gone number) := by
  intro finding _
  simp [renumbered, h]

/-- A line that stays has the same effect under its new number. -/
theorem reposition_step_of_kept (h : gone number = false) :
    (reading.step width number line).reposition (renumbering gone) (renumbered gone) =
      (reading.reposition (renumbering gone) (renumbered gone)).step width
        (Text.keptUpTo gone number) line := by
  have hdescribe : describe? width (Text.keptUpTo gone number) line =
      (describe? width number line).map (Node.reposition (renumbering gone)) := by
    unfold describe?
    split
    · rw [Option.map_map]
      rfl
    · rfl
  have hfindings : ((ownFindings width line).map (Remark.mk number)).filterMap (renumbered gone) =
      (ownFindings width line).map (Remark.mk (Text.keptUpTo gone number)) := by
    rw [List.filterMap_map, ← List.filterMap_eq_map]
    exact List.filterMap_congr fun finding _ => by simp [renumbered, h]
  rw [reposition_step (forwards_renumbered h) hfindings, step_eq]
  exact hdescribe ▸ rfl

/-- A line without a node, taken out, has no effect at all. -/
theorem reposition_step_of_gone (h : gone number = true) (hline : isOmissible line = true) :
    (reading.step width number line).reposition (renumbering gone) (renumbered gone) =
      reading.reposition (renumbering gone) (renumbered gone) := by
  have hfindings : ((ownFindings width line).map (Remark.mk number)).filterMap (renumbered gone) =
      ([] : List Finding).map (Remark.mk number) := by
    simp [renumbered, h]
  rw [step_eq, describe?_of_isOmissible hline]
  simpa [note] using (note_reposition (renumbering gone) reading hfindings).symm

/-! ### Several lines -/

/-- Of numbered lines, those that are kept have the same effect under their new numbers. -/
theorem reposition_foldl_step {numbered : List (String × Nat)}
    (h : ∀ line number, (line, number) ∈ numbered → gone number = true →
      isOmissible line = true) :
    (numbered.foldl (fun reading line => reading.step width line.2 line.1) reading).reposition
        (renumbering gone) (renumbered gone) =
      ((numbered.filter fun line => !gone line.2).map fun line =>
          (line.1, Text.keptUpTo gone line.2)).foldl
        (fun reading line => reading.step width line.2 line.1)
        (reading.reposition (renumbering gone) (renumbered gone)) := by
  induction numbered generalizing reading with
  | nil => rfl
  | cons first rest ih =>
    obtain ⟨line, number⟩ := first
    -- the lines behind the first one are read on from what that one leaves
    have hrest := @ih (reading.step width number line) fun line number hmem =>
      h line number (List.mem_cons_of_mem _ hmem)
    rw [List.foldl_cons, hrest]
    cases hgone : gone number with
    | true =>
      rw [reposition_step_of_gone hgone (h line number List.mem_cons_self hgone),
        List.filter_cons_of_neg (by simp [hgone])]
    | false =>
      rw [reposition_step_of_kept hgone, List.filter_cons_of_pos (by simp [hgone])]
      rfl

end Reading

theorem map_diagnostic_renumbered (remarks : List Remark) :
    (remarks.filterMap (renumbered gone)).map Remark.diagnostic =
      ((remarks.map Remark.diagnostic).filter fun report => !gone report.line).map fun report =>
        { report with line := Text.keptUpTo gone report.line } := by
  induction remarks with
  | nil => rfl
  | cons remark remarks ih =>
    cases hgone : gone remark.line <;> simp [renumbered, hgone, ih, Remark.diagnostic]

/-- **Lines without a node are transparent.** Whichever lines are taken out of a text, as long as
each of them is blank, still being typed, an assignment or an error, the other lines describe the
same forest and are reported in the same way, under the numbers they have in the shorter text. -/
theorem ofText_withoutLines {width : Nat} {text : String} {gone : Nat → Bool}
    (h : ∀ line number, (line, number) ∈ (linesOf text).zipIdx 1 → gone number = true →
      isOmissible line = true) :
    let whole := ofText width text
    let short := ofText width (withoutLines gone text)
    (linesOf (withoutLines gone text)).zipIdx 1 =
        (((linesOf text).zipIdx 1).filter fun line => !gone line.2).map
          (fun line => (line.1, Text.keptUpTo gone line.2)) ∧
      short.forest = whole.forest.reposition (renumbering gone) ∧
      short.diagnostics = (whole.diagnostics.filter fun report => !gone report.line).map
        fun report => { report with line := Text.keptUpTo gone report.line } := by
  intro whole short
  have hlines : (linesOf (withoutLines gone text)).zipIdx 1 =
      (((linesOf text).zipIdx 1).filter fun line => !gone line.2).map
        (fun line => (line.1, Text.keptUpTo gone line.2)) := by
    rw [linesOf_withoutLines, Text.zipIdx_keep]
  have hrun : after (max width 1) (linesOf (withoutLines gone text)) =
      (after (max width 1) (linesOf text)).reposition (renumbering gone) (renumbered gone) := by
    rw [after, after, run_eq_foldl, run_eq_foldl, reposition_foldl_step h, hlines, reposition_start]
  refine ⟨hlines, ?_, ?_⟩
  · simp only [whole, short, ofText_eq_after, hrun]
    rfl
  · simp only [whole, short, ofText_eq_after, hrun]
    exact map_diagnostic_renumbered _

/-- A blank line, an error, an assignment and a marker stand in the middle of a block, some of them
deeper than any node and others further out than the open ones. One more error stays, and a note
that is put elsewhere. -/
theorem ofText_withoutLines_in_block :
    let text := "/src\n\n          what?\n  a.ts\nlet = 1\n    $foo()\n  size = 3\n" ++
      "  why?\n    $\n      # todo"
    let gone := fun number : Nat => [2, 3, 5, 7, 9].contains number
    withoutLines gone text = "/src\n  a.ts\n    $foo()\n  why?\n      # todo" ∧
      (∀ line ∈ (linesOf text).zipIdx 1, gone line.2 = true → isOmissible line.1 = true) ∧
      (ofText 2 (withoutLines gone text)).forest =
        (ofText 2 text).forest.reposition (renumbering gone) ∧
      ((ofText 2 (withoutLines gone text)).diagnostics.map (·.line)) = [4, 5] := by
  intro text gone
  have hlines : ∀ line ∈ (linesOf text).zipIdx 1, gone line.2 = true →
      isOmissible line.1 = true := by
    decide +kernel
  obtain ⟨-, hforest, -⟩ := @ofText_withoutLines 2 text gone
    fun line number hmem hgone => hlines (line, number) hmem hgone
  exact ⟨by decide +kernel, hlines, hforest, by decide +kernel⟩

end CodeOutline.Outline
