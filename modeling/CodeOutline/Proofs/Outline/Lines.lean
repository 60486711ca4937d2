import Mathlib.Data.List.Induction
import CodeOutline.Proofs.Outline.Placing

/-!
# Reading line by line

A line either describes a node or leaves the forest and the open nodes as they are. What is remarked
on a line without looking at the lines before it is about its blanks and its syntax; everything else
is about the place of its node. As lines are read, the forest and the remarks only grow, and what is
new belongs to the new lines.

## Main definitions

* `Outline.describe?`, `Outline.described`: the node a line describes, and those of several lines
* `Outline.ownFindings`: what there is to say about a line on its own
* `Reading.after`: what is known after some lines
* `Reading.Continues`: what is read from the lines of some numbers comes on top

## Main results

* `Reading.step_eq`, `Reading.forest_step`: the effect of a line, by the node it describes
* `Reading.sound_after`: after any lines, every node stands in its place
* `Reading.forest_after_induction`: what every added node preserves holds after any lines
* `Reading.continues_after`: reading on changes nothing that was read
-/

namespace CodeOutline.Outline

open Reading

variable {reading later last : Reading} {width number number' next stop id : Nat}
  {line path : String} {node : Node} {kind : NodeKind} {finding : Option Finding}
  {lines more : List String}

/-! ### The node of a line -/

/-- The node a line describes, with its position but not yet with its path. -/
def describe? (width number : Nat) (line : String) : Option Node :=
  match Line.read line with
  | .ok (.statement statement) =>
    (Node.ofStatement? statement).map (nodeOfLine width number line)
  | _ => none

/-- What there is to say about a line on its own. -/
def ownFindings (width : Nat) (line : String) : List Finding :=
  match Line.read line with
  | .ok .blank | .ok .incomplete => []
  | .error cause => (indentationFinding width (leadingSpaces line)).toList ++ [.dropped cause]
  | .ok (.statement _) => (indentationFinding width (leadingSpaces line)).toList

theorem exists_of_describe? (h : describe? width number line = some node) :
    ∃ statement found, Line.read line = .ok (.statement statement) ∧
      Node.ofStatement? statement = some found ∧ node = nodeOfLine width number line found := by
  unfold describe? at h
  split at h
  · rename_i statement hread
    obtain ⟨found, hfound, rfl⟩ := Option.map_eq_some_iff.1 h
    exact ⟨statement, found, hread, hfound, rfl⟩
  · simp at h

theorem names_of_describe? (h : describe? width number line = some node) :
    node.kind.Names node.name := by
  obtain ⟨statement, found, hread, hfound, rfl⟩ := exists_of_describe? h
  exact Line.wellNamed_of_read hread found hfound

theorem line_of_describe? (h : describe? width number line = some node) : node.line = number := by
  obtain ⟨-, -, -, -, rfl⟩ := exists_of_describe? h
  rfl

/-- What is said about a line on its own is about its blanks or its syntax. -/
theorem mem_ownFindings {found : Finding} (h : found ∈ ownFindings width line) :
    (∃ spaces, found = .unevenIndentation spaces width) ∨ ∃ cause, found = .dropped cause := by
  have hindentation : found ∈ (indentationFinding width (leadingSpaces line)).toList →
      ∃ spaces, found = .unevenIndentation spaces width := by
    intro hmem
    unfold indentationFinding at hmem
    split at hmem
    · simp at hmem
    · exact ⟨_, by simpa using hmem⟩
  unfold ownFindings at h
  split at h
  · simp at h
  · simp at h
  · rcases List.mem_append.1 h with h | h
    · exact Or.inl (hindentation h)
    · exact Or.inr ⟨_, List.mem_singleton.1 h⟩
  · exact Or.inl (hindentation h)

namespace Reading

/-! ### One line -/

/-- Adds remarks on a line. -/
def note (reading : Reading) (number : Nat) (findings : List Finding) : Reading :=
  { reading with remarks := reading.remarks ++ findings.map (Remark.mk number) }

theorem remark?_eq_note : reading.remark? number finding = reading.note number finding.toList := by
  cases finding <;> simp [remark?, remark, note]

/-- The effect of a line, by the node it describes. -/
theorem step_eq : reading.step width number line =
    match describe? width number line with
    | none => reading.note number (ownFindings width line)
    | some node => (reading.note number (ownFindings width line)).place number node := by
  unfold step describe? ownFindings
  cases hread : Line.read line with
  | error cause => simp [remark?_eq_note, remark, note]
  | ok said =>
    cases said with
    | blank => simp [note]
    | incomplete => simp [note]
    | statement statement =>
      cases hnode : Node.ofStatement? statement <;> simp [remark?_eq_note, hnode]

/-- The forest after one line more: it has grown by the node of a line whose path is free. -/
theorem forest_step : (reading.step width number line).forest =
    match describe? width number line with
    | none => reading.forest
    | some node =>
      match reading.earlier? node with
      | some _ => reading.forest
      | none => reading.forest.grow { node with path := reading.pathOf node }
          (reading.parentOf node) := by
  rw [step_eq]
  cases describe? width number line with
  | none => rfl
  | some node =>
    -- what is said about the line on its own leaves the forest and the open nodes as they are
    have hnoted : (reading.note number (ownFindings width line)).earlier? node =
        reading.earlier? node := rfl
    cases hearlier : reading.earlier? node with
    | some id =>
      simp only [place_eq_reopen (hnoted.trans hearlier), hearlier]
      rfl
    | none =>
      simp only [place_eq_grow (hnoted.trans hearlier), hearlier]
      rfl

theorem mem_remarks_note {remark : Remark} {findings : List Finding} :
    remark ∈ (reading.note number findings).remarks ↔
      remark ∈ reading.remarks ∨ ∃ finding ∈ findings, remark = ⟨number, finding⟩ := by
  simp [note, eq_comm]

/-- A remark on a path that is taken comes from a line that describes a node of this path. -/
theorem mem_remarks_step
    (h : ⟨number', .declaredBefore kind path⟩ ∈ (reading.step width number line).remarks) :
    ⟨number', .declaredBefore kind path⟩ ∈ reading.remarks ∨
      number' = number ∧ ∃ node, describe? width number line = some node ∧ kind = node.kind ∧
        path = reading.pathOf node ∧ ∃ id, reading.earlier? node = some id := by
  -- what is said about the line on its own is never that a path is taken
  have hnote : ⟨number', .declaredBefore kind path⟩ ∈
      (reading.note number (ownFindings width line)).remarks →
      ⟨number', .declaredBefore kind path⟩ ∈ reading.remarks := by
    intro hmem
    refine (mem_remarks_note.1 hmem).resolve_right ?_
    rintro ⟨finding, hfinding, heq⟩
    obtain ⟨-, rfl⟩ := Remark.mk.inj heq
    simpa using mem_ownFindings hfinding
  rw [step_eq] at h
  cases hnode : describe? width number line with
  | none =>
    rw [hnode] at h
    exact Or.inl (hnote h)
  | some node =>
    rw [hnode] at h
    rcases mem_remarks_place h with h | ⟨rfl, hkind, hpath, hid⟩
    · exact Or.inl (hnote h)
    · exact Or.inr ⟨rfl, node, rfl, hkind, hpath, hid⟩

theorem Sound.note (h : reading.Sound) {findings : List Finding} :
    (reading.note number findings).Sound :=
  ⟨h.placed, h.opened_lt⟩

theorem Sound.step (h : reading.Sound) : (reading.step width number line).Sound := by
  rw [step_eq]
  cases hnode : describe? width number line with
  | none => exact h.note
  | some node => exact h.note.place (names_of_describe? hnode)

/-! ### What is read stays -/

/-- What is read from the lines of some numbers, from `next` up to, but not including, `stop`, comes
on top of what was read before. -/
structure Continues (next stop : Nat) (reading later : Reading) : Prop where
  extends_forest : reading.forest.Extends later.forest
  fresh : ∀ (id : Nat) node, reading.forest.size ≤ id → later.forest.node? id = some node →
    next ≤ node.line ∧ node.line < stop
  remarks_eq : ∃ remarks, later.remarks = reading.remarks ++ remarks ∧
    ∀ remark ∈ remarks, next ≤ remark.line ∧ remark.line < stop

namespace Continues

theorem refl (next stop : Nat) (reading : Reading) : reading.Continues next stop reading where
  extends_forest := Forest.Extends.refl reading.forest
  fresh _ _ hid hnode := absurd (Forest.lt_size_of_node? hnode) (Nat.not_lt.2 hid)
  remarks_eq := ⟨[], by simp⟩

theorem mono {next' stop' : Nat} (h : reading.Continues next stop later) (hnext : next' ≤ next)
    (hstop : stop ≤ stop') : reading.Continues next' stop' later where
  extends_forest := h.extends_forest
  fresh id node hid hnode := by
    obtain ⟨hle, hlt⟩ := h.fresh id node hid hnode
    exact ⟨Nat.le_trans hnext hle, Nat.lt_of_lt_of_le hlt hstop⟩
  remarks_eq := by
    obtain ⟨remarks, heq, hlines⟩ := h.remarks_eq
    refine ⟨remarks, heq, ?_⟩
    intro remark hmem
    obtain ⟨hle, hlt⟩ := hlines remark hmem
    exact ⟨Nat.le_trans hnext hle, Nat.lt_of_lt_of_le hlt hstop⟩

theorem trans (h : reading.Continues next stop later) (h' : later.Continues next stop last) :
    reading.Continues next stop last where
  extends_forest := h.extends_forest.trans h'.extends_forest
  fresh id node hid hnode := by
    by_cases hlt : id < later.forest.size
    · exact h.fresh id node hid ((h'.extends_forest.node?_eq id hlt).symm.trans hnode)
    · exact h'.fresh id node (Nat.not_lt.1 hlt) hnode
  remarks_eq := by
    obtain ⟨remarks, heq, hlines⟩ := h.remarks_eq
    obtain ⟨remarks', heq', hlines'⟩ := h'.remarks_eq
    refine ⟨remarks ++ remarks', by rw [heq', heq, List.append_assoc], ?_⟩
    intro remark hmem
    rcases List.mem_append.1 hmem with hmem | hmem
    · exact hlines remark hmem
    · exact hlines' remark hmem

end Continues

theorem continues_note (findings : List Finding) :
    reading.Continues number (number + 1) (reading.note number findings) where
  extends_forest := Forest.Extends.refl reading.forest
  fresh := (Continues.refl number (number + 1) reading).fresh
  remarks_eq := ⟨findings.map (Remark.mk number), rfl, by simp⟩

theorem Sound.continues_place (h : reading.Sound) :
    reading.Continues node.line (node.line + 1) (reading.place node.line node) := by
  have hfinding : ∀ remark ∈ ((reading.findingOf node).map (Remark.mk node.line)).toList,
      node.line ≤ remark.line ∧ remark.line < node.line + 1 := by
    intro remark hremark
    obtain ⟨finding, -, rfl⟩ := by simpa using hremark
    exact ⟨Nat.le_refl _, Nat.lt_succ_self _⟩
  cases hearlier : reading.earlier? node with
  | some id =>
    rw [place_eq_reopen hearlier]
    refine ⟨Forest.Extends.refl _, (Continues.refl node.line (node.line + 1) reading).fresh,
      ⟨_, List.append_assoc _ _ _, fun remark hremark => ?_⟩⟩
    rcases List.mem_append.1 hremark with hremark | hremark
    · exact hfinding remark hremark
    · obtain rfl := List.mem_singleton.1 hremark
      exact ⟨Nat.le_refl _, Nat.lt_succ_self _⟩
  | none =>
    rw [place_eq_grow hearlier]
    refine ⟨Forest.extends_grow h.parentOf_lt fun r => h.placed.lt_size_of_mem_roots, ?_,
      ⟨_, rfl, hfinding⟩⟩
    intro id found hid hfound
    obtain ⟨-, rfl⟩ | ⟨hid', -⟩ := Forest.eq_or_node?_of_node?_grow h.parentOf_lt hfound
    · exact ⟨Nat.le_refl _, Nat.lt_succ_self _⟩
    · exact absurd hid' (Nat.not_lt.2 hid)

theorem Sound.continues_step (h : reading.Sound) :
    reading.Continues number (number + 1) (reading.step width number line) := by
  rw [step_eq]
  cases hnode : describe? width number line with
  | none => exact continues_note _
  | some node =>
    obtain rfl := line_of_describe? hnode
    exact (continues_note _).trans h.note.continues_place

/-! ### Several lines -/

/-- What is known after some lines. -/
def after (width : Nat) (lines : List String) : Reading :=
  start.run width 1 lines

theorem run_append (reading : Reading) (number : Nat) (lines more : List String) :
    reading.run width number (lines ++ more) =
      (reading.run width number lines).run width (number + lines.length) more := by
  induction lines generalizing reading number with
  | nil => rfl
  | cons line lines ih =>
    rw [List.cons_append, run, run, ih, List.length_cons]
    congr 1
    omega

theorem after_append_singleton (width : Nat) (lines : List String) (line : String) :
    after width (lines ++ [line]) = (after width lines).step width (lines.length + 1) line := by
  rw [after, run_append, Nat.add_comm]
  rfl

/-- After any lines, every node stands in its place. -/
theorem sound_after (width : Nat) (lines : List String) : (after width lines).Sound := by
  induction lines using List.reverseRecOn with
  | nil => exact sound_start
  | append_singleton lines line ih =>
    rw [after_append_singleton]
    exact ih.step

/-- What holds of the empty forest, and goes on to hold whenever a line whose path is free adds its
node, holds of the forest after any lines. -/
theorem forest_after_induction {P : Forest → Prop} (hempty : P .empty)
    (hgrow : ∀ front, ∀ line ∈ lines, ∀ node,
      describe? width (front.length + 1) line = some node →
      (after width front).earlier? node = none → P (after width front).forest →
      P ((after width front).forest.grow { node with path := (after width front).pathOf node }
        ((after width front).parentOf node))) :
    P (after width lines).forest := by
  induction lines using List.reverseRecOn with
  | nil => exact hempty
  | append_singleton lines line ih =>
    have hlines := ih fun front line hline => hgrow front line (List.mem_append_left _ hline)
    rw [after_append_singleton, forest_step]
    split
    · exact hlines
    · rename_i node hnode
      split
      · exact hlines
      · rename_i hearlier
        exact hgrow lines line (by simp) node hnode hearlier hlines

/-- Reading on changes nothing that was read. -/
theorem continues_after (width : Nat) (lines more : List String) :
    (after width lines).Continues (lines.length + 1) ((lines ++ more).length + 1)
      (after width (lines ++ more)) := by
  induction more using List.reverseRecOn with
  | nil =>
    rw [List.append_nil]
    exact Continues.refl _ _ _
  | append_singleton more line ih =>
    -- the last line adds to what the lines before it have left
    have hstep : (after width (lines ++ more)).Continues ((lines ++ more).length + 1)
        ((lines ++ more).length + 2) (after width (lines ++ more ++ [line])) := by
      rw [after_append_singleton]
      exact (sound_after width (lines ++ more)).continues_step
    rw [← List.append_assoc]
    refine (ih.mono (Nat.le_refl _) ?_).trans (hstep.mono ?_ ?_) <;> simp [Nat.add_assoc]

/-- What is known after some lines belongs to one of them. -/
theorem continues_start (width : Nat) (lines : List String) :
    start.Continues 1 (lines.length + 1) (after width lines) :=
  continues_after width [] lines

theorem line_lt_of_node?_after (h : (after width lines).forest.node? id = some node) :
    node.line < lines.length + 1 :=
  ((continues_start width lines).fresh id node (Nat.zero_le id) h).2

end Reading

end CodeOutline.Outline
