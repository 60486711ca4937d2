import CodeOutline.Proofs.Diff.Likeness
import CodeOutline.Proofs.Outline.Repositioning

/-!
# Outlines that are spaced in two ways

Of the blanks in a text, an outline keeps the levels of its lines. How many blanks make a level, and
which other blanks stand around a line, shows in the columns of nodes and in remarks on uneven
indentation, and nowhere else. So two texts with the same lines at the same levels describe forests
that differ in columns alone, and nothing changes from the one to the other.

## Main definitions

* `Outline.leveledText`: the level of a line and its text
* `Outline.columns`: columns for levels of some width
* `Outline.faults`: what there is to say about a line on its own, apart from its indentation

## Main results

* `Reading.step_congr`, `Reading.run_congr`: lines with the same text at the same level
* `Outline.ofText_respaced`: texts with the same lines at the same levels
-/

namespace CodeOutline.Outline

open Reading

variable {reading reading' : Reading} {width width' base number : Nat} {line line' : String}
  {lines lines' : List String}

/-- The level of a line and its text, where a level is so many blanks wide. -/
def leveledText (width : Nat) (line : String) : Nat × List Char :=
  (leadingSpaces line / width, Text.trim line.toList)

/-- Columns for levels of some width. Lines stay as they are. -/
def columns (width : Nat) : Repositioning :=
  ⟨id, fun level _ => level * width⟩

/-- A remark, unless it is about the indentation of a line. -/
def besideIndentation : Remark → Option Remark :=
  Option.guard fun remark => remark.finding.code != "indentation"

/-- What there is to say about a line on its own, apart from its indentation. -/
def faults (line : String) : List Finding :=
  match Line.read line with
  | .error cause => [.dropped cause]
  | .ok _ => []

/-! ### One line -/

theorem filterMap_indentationFinding (width spaces number : Nat) :
    ((indentationFinding width spaces).toList.map (Remark.mk number)).filterMap besideIndentation =
      [] := by
  unfold indentationFinding
  split
  · rfl
  · simp [besideIndentation, Finding.code]

theorem filterMap_ownFindings (width number : Nat) (line : String) :
    ((ownFindings width line).map (Remark.mk number)).filterMap besideIndentation =
      (faults line).map (Remark.mk number) := by
  unfold ownFindings faults
  cases Line.read line with
  | error cause =>
    simp only [List.map_append, List.filterMap_append, filterMap_indentationFinding]
    simp [besideIndentation, Finding.code]
  | ok said =>
    cases said with
    | blank => rfl
    | incomplete => rfl
    | statement statement => exact filterMap_indentationFinding _ _ _

theorem faults_congr (h : leveledText width line = leveledText width' line') :
    faults line = faults line' := by
  rw [faults, Line.read_congr (congrArg Prod.snd h), faults]

/-- Lines with the same text at the same level describe nodes that differ in their columns. -/
theorem describe?_congr (h : leveledText width line = leveledText width' line') :
    (describe? width number line).map (Node.reposition (columns base)) =
      (describe? width' number line').map (Node.reposition (columns base)) := by
  obtain ⟨hlevel, htext⟩ := Prod.mk.inj h
  have hhash : contentHash line = contentHash line' := by
    rw [contentHash, normalText, htext, contentHash, normalText]
  have hnode (node : Node) : (nodeOfLine width number line node).reposition (columns base) =
      (nodeOfLine width' number line' node).reposition (columns base) := by
    simp only [nodeOfLine, Node.reposition, columns, hlevel, hhash]
  rw [describe?, Line.read_congr htext, describe?]
  split
  · simp only [Option.map_map]
    congr 1
    funext node
    exact hnode node
  · rfl

namespace Reading

theorem forwards_besideIndentation (number : Nat) : Forwards besideIndentation number number := by
  intro finding hcode
  simp [besideIndentation, hcode]

/-- Lines with the same text at the same level have the same effect, apart from columns and remarks
on indentation. -/
theorem step_congr (h : leveledText width line = leveledText width' line')
    (hreading : reading.reposition (columns base) besideIndentation =
      reading'.reposition (columns base) besideIndentation) :
    (reading.step width number line).reposition (columns base) besideIndentation =
      (reading'.step width' number line').reposition (columns base) besideIndentation := by
  have hforwards := forwards_besideIndentation number
  rw [reposition_step hforwards (filterMap_ownFindings width number line),
    reposition_step hforwards (filterMap_ownFindings width' number line'), hreading, faults_congr h,
    describe?_congr h]

theorem run_congr (h : lines.map (leveledText width) = lines'.map (leveledText width'))
    (hreading : reading.reposition (columns base) besideIndentation =
      reading'.reposition (columns base) besideIndentation) :
    (reading.run width number lines).reposition (columns base) besideIndentation =
      (reading'.run width' number lines').reposition (columns base) besideIndentation := by
  induction lines generalizing lines' number reading reading' with
  | nil =>
    rw [List.map_nil, eq_comm, List.map_eq_nil_iff] at h
    rw [h]
    exact hreading
  | cons line lines ih =>
    rw [List.map_cons, eq_comm, List.map_eq_cons_iff] at h
    obtain ⟨line', lines', rfl, hline, hlines⟩ := h
    exact ih hlines.symm (step_congr hline.symm hreading)

/-- Nodes stand in the columns of their levels already. -/
theorem reposition_columns_after (width : Nat) (lines : List String) :
    (after width lines).forest.reposition (columns width) = (after width lines).forest := by
  refine forest_after_induction (P := fun forest => forest.reposition (columns width) = forest)
    Forest.reposition_empty ?_
  intro front line _ node hnode _ hforest
  obtain ⟨-, -, -, -, rfl⟩ := exists_of_describe? hnode
  rw [← Forest.grow_reposition, hforest]
  rfl

end Reading

/-! ### All lines -/

theorem filter_hasCode_diagnostics (outline : Outline) :
    outline.diagnostics.filter (!·.hasCode "indentation") =
      (outline.remarks.filterMap besideIndentation).map Remark.diagnostic := by
  rw [diagnostics, List.filter_map, besideIndentation, List.filterMap_eq_filter]
  rfl

/-- **Spacing makes no difference but in columns.** Where two texts have the same lines at the same
levels, whatever the width of a level in either of them, the two forests differ only in the columns,
in which every node stands at its level, and the reports differ only in those on indentation. From
the one outline to the other nothing changes. -/
theorem ofText_respaced (options : DiffOptions) {width width' : Nat} {text text' : String}
    (h : (linesOf text).map (leveledText (max width 1)) =
      (linesOf text').map (leveledText (max width' 1))) :
    let outline := ofText width text
    let outline' := ofText width' text'
    outline'.forest = outline.forest.reposition (columns (max width' 1)) ∧
      outline.forest = outline'.forest.reposition (columns (max width 1)) ∧
      outline.diagnostics.filter (!·.hasCode "indentation") =
        outline'.diagnostics.filter (!·.hasCode "indentation") ∧
      Diff.between options outline.forest outline'.forest = .empty := by
  intro outline outline'
  have hrun (base : Nat) : (after (max width 1) (linesOf text)).reposition (columns base)
      besideIndentation = (after (max width' 1) (linesOf text')).reposition (columns base)
      besideIndentation := run_congr h rfl
  have hforest' : outline'.forest = outline.forest.reposition (columns (max width' 1)) :=
    (reposition_columns_after _ _).symm.trans
      (congrArg Reading.forest (hrun (max width' 1))).symm
  have hforest : outline.forest = outline'.forest.reposition (columns (max width 1)) :=
    (reposition_columns_after _ _).symm.trans (congrArg Reading.forest (hrun (max width 1)))
  refine ⟨hforest', hforest, ?_, ?_⟩
  · rw [filter_hasCode_diagnostics, filter_hasCode_diagnostics]
    exact congrArg (List.map Remark.diagnostic) (congrArg Reading.remarks (hrun 0))
  · have hcontents : outline.forest.contents = outline'.forest.contents := by
      rw [hforest', Forest.contents_reposition]
    exact Diff.between_eq_empty_of_contents_eq (rooted_after _ _) (rooted_after _ _) hcontents
      options

/-- Levels are four blanks wide in the one text and two in the other. Some lines are indented
unevenly, others have blanks behind them, and one is an error. -/
theorem ofText_respaced_ragged :
    let text := "/src\n    a.ts\n          $foo()\nwhat?\n    # todo"
    let text' := "/src \r\n  a.ts\n    $foo()\u00a0\n what?\n   # todo\t\n"
    (linesOf text).map (leveledText 4) = (linesOf text').map (leveledText 2) ∧
      (ofText 4 text).diagnostics ≠ (ofText 2 text').diagnostics ∧
      (ofText 2 text').forest = (ofText 4 text).forest.reposition (columns 2) ∧
      Diff.between .standard (ofText 4 text).forest (ofText 2 text').forest = .empty := by
  intro text text'
  have hlines : (linesOf text).map (leveledText 4) = (linesOf text').map (leveledText 2) := by
    decide +kernel
  obtain ⟨hforest, -, -, hdiff⟩ := @ofText_respaced .standard 4 2 text text' hlines
  exact ⟨hlines, by decide +kernel, hforest, hdiff⟩

end CodeOutline.Outline
