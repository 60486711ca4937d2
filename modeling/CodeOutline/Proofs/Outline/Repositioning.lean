import CodeOutline.Proofs.Forest.Repositioning
import CodeOutline.Proofs.Outline.Lines

/-!
# Reading lines that stand elsewhere

Where a line stands decides on the number of its remarks and on the line and column of its node, and
on nothing else. So reading can be followed through a change of positions: a reading is carried to
another one, in which the nodes have other positions and the remarks are reported in another way, or
not at all, and whatever is placed in the one is placed in the same way in the other.

## Main definitions

* `Reading.reposition`: a reading with other positions and other reports
* `Reading.Forwards`: what is found about the place of a node is reported under another number

## Main results

* `Line.read_congr`: what a line says does not depend on the blanks around it
* `Reading.place_reposition`: a node may be placed before or after positions change
* `Reading.reposition_step`: the effect of a line, in other positions
* `Reading.run_eq_foldl`: lines are read one after the other, each with its number
-/

namespace CodeOutline

/-- What a line says does not depend on the blanks around it. -/
theorem Line.read_congr {line line' : String}
    (h : Text.trim line.toList = Text.trim line'.toList) : Line.read line = Line.read line' := by
  rw [read, read, isIncomplete, isIncomplete, h]

namespace Outline.Reading

variable {change : Repositioning} {report : Remark → Option Remark} {reading : Reading}
  {forest : Forest} {node : Node} {findings findings' : List Finding}
  {width number number' : Nat} {line : String}

/-! ### Finding the place -/

theorem accepts_reposition (kind : NodeKind) :
    accepts (forest.reposition change) kind = accepts forest kind := by
  funext id
  rw [accepts, Forest.node?_reposition, accepts]
  cases forest.node? id <;> rfl

theorem resolve_reposition (opened : List (NodeId × Nat)) :
    resolve (forest.reposition change) opened (node.reposition change) =
      resolve forest opened node := by
  have hkind : (node.reposition change).kind = node.kind := rfl
  cases opened with
  | nil => rfl
  | cons entry outer =>
    simp only [resolve, accepts_reposition, hkind, Forest.node?_reposition]
    split
    · rfl
    · cases forest.node? entry.1 with
      | none => rfl
      | some parent =>
        simp only [Option.map_some, Option.map_map]
        cases (outer.map (·.1)).find? (accepts forest node.kind) <;> rfl

theorem pathBelow_reposition (kind : NodeKind) (name : String) (parent : Option NodeId) :
    pathBelow (forest.reposition change) kind name parent = pathBelow forest kind name parent := by
  cases parent with
  | none => rfl
  | some parent => simp only [pathBelow, Forest.containerPath_reposition]

theorem declared?_reposition (path : String) :
    declared? (forest.reposition change) path = declared? forest path := by
  rw [declared?, Forest.reposition, Array.findIdx?_map]
  rfl

/-! ### A reading in other positions -/

/-- A reading whose nodes are in other positions, and whose remarks are reported in another way or
not at all. -/
def reposition (change : Repositioning) (report : Remark → Option Remark) (reading : Reading) :
    Reading where
  forest := reading.forest.reposition change
  remarks := reading.remarks.filterMap report
  opened := reading.opened

theorem reposition_start : start.reposition change report = start := by
  simp [reposition, start]

theorem note_reposition (change : Repositioning) (reading : Reading)
    (h : (findings.map (Remark.mk number)).filterMap report = findings'.map (Remark.mk number')) :
    (reading.reposition change report).note number' findings' =
      (reading.note number findings).reposition change report := by
  simp only [reposition, note, List.filterMap_append, h]

/-- What is found about the line of a number is reported under another one, unless it is about the
blanks in front of it. -/
def Forwards (report : Remark → Option Remark) (number number' : Nat) : Prop :=
  ∀ finding, finding.code ≠ "indentation" → report ⟨number, finding⟩ = some ⟨number', finding⟩

theorem Forwards.filterMap_eq (h : Forwards report number number')
    (hfindings : ∀ finding ∈ findings, finding.code ≠ "indentation") :
    (findings.map (Remark.mk number)).filterMap report = findings.map (Remark.mk number') := by
  rw [List.filterMap_map, ← List.filterMap_eq_map]
  exact List.filterMap_congr fun finding hfinding => h finding (hfindings finding hfinding)

/-- Where a node comes to stand, and what is found about that. -/
theorem placeOf_reposition (change : Repositioning) (report : Remark → Option Remark)
    (reading : Reading) (node : Node) :
    (reading.reposition change report).parentOf (node.reposition change) = reading.parentOf node ∧
      (reading.reposition change report).findingOf (node.reposition change) =
        reading.findingOf node ∧
      (reading.reposition change report).pathOf (node.reposition change) = reading.pathOf node ∧
      (reading.reposition change report).earlier? (node.reposition change) =
        reading.earlier? node := by
  have hresolve : resolve (reading.reposition change report).forest
      (close (reading.reposition change report).opened (node.reposition change).level)
      (node.reposition change) = resolve reading.forest (close reading.opened node.level) node :=
    resolve_reposition _
  have hparent : (reading.reposition change report).parentOf (node.reposition change) =
      reading.parentOf node := congrArg Prod.fst hresolve
  have hpath : (reading.reposition change report).pathOf (node.reposition change) =
      reading.pathOf node := by
    rw [pathOf, hparent]
    exact pathBelow_reposition _ _ _
  refine ⟨hparent, congrArg Prod.snd hresolve, hpath, ?_⟩
  rw [earlier?, hpath, earlier?]
  exact if_congr Iff.rfl (declared?_reposition _) rfl

/-- A node may be placed before or after positions change. -/
theorem place_reposition (h : Forwards report number number') (node : Node) :
    (reading.reposition change report).place number' (node.reposition change) =
      (reading.place number node).reposition change report := by
  obtain ⟨hparent, hfinding, hpath, hearlier⟩ := placeOf_reposition change report reading node
  -- what is found about the place has codes of its own
  have hcode : ∀ finding ∈ (reading.findingOf node).toList, finding.code ≠ "indentation" := by
    intro finding hmem heq
    have hstructural := isStructural_of_mem_resolve (Option.mem_toList.1 hmem)
    simp [Finding.isStructural, heq] at hstructural
  have hremarks := h.filterMap_eq hcode
  simp only [← Option.toList_map] at hremarks
  cases hid : reading.earlier? node with
  | some id =>
    have hdeclared : report ⟨number, .declaredBefore node.kind (reading.pathOf node)⟩ =
        some ⟨number', .declaredBefore node.kind (reading.pathOf node)⟩ :=
      h _ (by simp [Finding.code])
    rw [place_eq_reopen hid, place_eq_reopen (hearlier.trans hid), hfinding, hpath]
    simp only [reposition, List.filterMap_append, hremarks, List.filterMap_cons, hdeclared,
      List.filterMap_nil]
    rfl
  | none =>
    rw [place_eq_grow hid, place_eq_grow (hearlier.trans hid), hfinding, hpath, hparent]
    simp only [reposition, List.filterMap_append, hremarks, ← Forest.grow_reposition,
      Forest.size_reposition]
    rfl

/-- The effect of a line in other positions: what is said about the line on its own is reported in
its way, and the node of the line is placed in its new position. -/
theorem reposition_step (h : Forwards report number number')
    (hfindings : ((ownFindings width line).map (Remark.mk number)).filterMap report =
      findings'.map (Remark.mk number')) :
    (reading.step width number line).reposition change report =
      let noted := (reading.reposition change report).note number' findings'
      match (describe? width number line).map (Node.reposition change) with
      | none => noted
      | some node => noted.place number' node := by
  have hnote := note_reposition change reading hfindings
  rw [step_eq]
  cases describe? width number line with
  | none => exact hnote.symm
  | some node =>
    simp only [Option.map_some, hnote]
    exact (place_reposition h node).symm

/-! ### Reading several lines -/

/-- Lines are read one after the other, each with its number. -/
theorem run_eq_foldl (width number : Nat) (reading : Reading) (lines : List String) :
    reading.run width number lines =
      (lines.zipIdx number).foldl (fun reading line => reading.step width line.2 line.1)
        reading := by
  induction lines generalizing number reading with
  | nil => rfl
  | cons line lines ih => exact ih (number + 1) (reading.step width number line)

end Outline.Reading

end CodeOutline
