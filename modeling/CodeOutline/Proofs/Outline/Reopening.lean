import CodeOutline.Proofs.Outline.Lines

/-!
# Directories and files that are declared again

The directory or file that a line opens again is found by the path of the line's place alone. It has
the kind and the name that the line states, though, and the parent that the line asks for: names of
directories and names of files differ, and so a path leads to one place only. Nothing is added, and
what is opened again stays where it is.

## Main definitions

* `Outline.HasUniquePaths`: no two directories or files share a path
* `Outline.OpensAgain`: a line opens an earlier node again, and it is the one that the line states

## Main results

* `Reading.Sound.opensAgain`: one line that finds its path taken
* `Outline.uniquePaths_and_opensAgain`: paths are unique, and every remark on a path that is taken
  is about a line that opens such a node again
-/

namespace CodeOutline.Outline

open Reading

variable {reading before behind : Reading} {forest later : Forest} {width number number' id : Nat}
  {line path : String} {node : Node} {kind : NodeKind} {lines more : List String}

/-- No two directories or files share a path, be they of one kind or of two. -/
def HasUniquePaths (outline : Outline) : Prop :=
  ∀ (id id' : Nat) node node', outline.forest.node? id = some node →
    outline.forest.node? id' = some node' → node.kind.isContainer = true →
    node'.kind.isContainer = true → node.path = node'.path → id = id'

/-- A line that describes `node` opens the node of a number again: nothing is added to the forest,
and the earlier node stands open in the level of the line. In the forest that the outline ends up
with, it has the kind and the name of the line's node, and the parent to which the line leads. -/
structure OpensAgain (forest : Forest) (before behind : Reading) (node : Node) (path : String)
    (id : NodeId) : Prop where
  forest_eq : behind.forest = before.forest
  opened_head? : behind.opened.head? = some (id, node.level)
  earlier : ∃ earlier, forest.node? id = some earlier ∧ earlier.line < node.line ∧
    earlier.kind = node.kind ∧ earlier.name = node.name ∧ earlier.path = path
  parent?_eq : forest.parent? id = before.parentOf node

theorem OpensAgain.of_extends (h : OpensAgain forest before behind node path id)
    (hext : forest.Extends later) : OpensAgain later before behind node path id where
  forest_eq := h.forest_eq
  opened_head? := h.opened_head?
  earlier := by
    obtain ⟨earlier, hearlier, hfacts⟩ := h.earlier
    exact ⟨earlier, hext.node?_of_node? hearlier, hfacts⟩
  parent?_eq := by
    obtain ⟨earlier, hearlier, -⟩ := h.earlier
    rw [hext.parent?_eq id (Forest.lt_size_of_node? hearlier)]
    exact h.parent?_eq

namespace Reading

/-- A line that finds its path taken opens again what it states. -/
theorem Sound.opensAgain (h : reading.Sound)
    (hlines : ∀ (id : Nat) found, reading.forest.node? id = some found → found.line < number)
    (hnode : describe? width number line = some node) (hid : reading.earlier? node = some id) :
    OpensAgain (reading.step width number line).forest reading (reading.step width number line)
      node (reading.pathOf node) id := by
  have hname := names_of_describe? hnode
  obtain ⟨earlier, hearlier, hkind, hnames, hpath, hparent⟩ := h.eq_of_earlier? hname hid
  have hstep : reading.step width number line =
      (reading.note number (ownFindings width line)).place number node := by
    rw [step_eq, hnode]
  have hid' : (reading.note number (ownFindings width line)).earlier? node = some id := hid
  rw [hstep, place_eq_reopen hid']
  refine ⟨rfl, rfl, ⟨earlier, hearlier, ?_, hkind, hnames, hpath⟩, hparent⟩
  rw [line_of_describe? hnode]
  exact hlines id earlier hearlier

/-- Every remark on a path that is taken is about a line that opens a node of this path again. -/
theorem exists_opensAgain_after (width : Nat) (lines : List String) :
    ∀ number kind path, ⟨number, .declaredBefore kind path⟩ ∈ (after width lines).remarks →
      ∃ front line more node id, lines = front ++ line :: more ∧ number = front.length + 1 ∧
        describe? width number line = some node ∧ kind = node.kind ∧
        OpensAgain (after width lines).forest (after width front) (after width (front ++ [line]))
          node path id := by
  induction lines using List.reverseRecOn with
  | nil =>
    intro number kind path hmem
    simp [after, run, start] at hmem
  | append_singleton lines line ih =>
    intro number kind path hmem
    have hsound := sound_after width lines
    have hext := (continues_after width lines [line]).extends_forest
    rw [after_append_singleton] at hmem
    -- the remark was there before the last line, or it is about the last line
    rcases mem_remarks_step hmem with hold | ⟨rfl, node, hnode, hkind, rfl, id, hid⟩
    · obtain ⟨front, line', more, node, id, rfl, hnumber, hnode, hkind, hopens⟩ :=
        ih number kind path hold
      exact ⟨front, line', more ++ [line], node, id, by simp, hnumber, hnode, hkind,
        hopens.of_extends hext⟩
    · have hopens := hsound.opensAgain (fun id found => line_lt_of_node?_after) hnode hid
      refine ⟨lines, line, [], node, id, rfl, rfl, hnode, hkind, ?_⟩
      rw [after_append_singleton]
      exact hopens

end Reading

/-- No two directories or files of an outline share a path. Whenever a line is remarked for a path
that is taken, the node that it opens again has the kind and the name the line states, and its
parent is the one the line leads to. -/
theorem uniquePaths_and_opensAgain (width : Nat) (text : String) :
    (ofText width text).HasUniquePaths ∧
      ∀ number kind path, ⟨number, .declaredBefore kind path⟩ ∈ (ofText width text).remarks →
        ∃ front line more node id, linesOf text = front ++ line :: more ∧
          number = front.length + 1 ∧ describe? (max width 1) number line = some node ∧
          kind = node.kind ∧
          OpensAgain (ofText width text).forest (after (max width 1) front)
            (after (max width 1) (front ++ [line])) node path id :=
  ⟨(sound_after (max width 1) (linesOf text)).placed.eq_of_path_eq,
    exists_opensAgain_after (max width 1) (linesOf text)⟩

/-- A directory is declared again, and so is the file in it. -/
example : (ofText 2 "/a\n  b.ts\n/a\n  b.ts").remarks =
    [⟨3, .declaredBefore .directory "a"⟩, ⟨4, .declaredBefore .file "a/b.ts"⟩] := by
  decide +kernel

end CodeOutline.Outline
