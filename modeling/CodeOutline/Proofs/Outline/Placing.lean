import CodeOutline.Proofs.Outline.Places

/-!
# Placing a node

A line that describes a node closes the open nodes of its level and of deeper ones; of those that
stay open, the innermost that may hold the node is its parent. Under the path of that place there is
either no directory or file yet, and the forest grows by the node, or there is one already, and it
is opened again.

## Main definitions

* `Finding.isStructural`: the finding is about the place of a node
* `Reading.parentOf`, `Reading.findingOf`, `Reading.pathOf`, `Reading.earlier?`: the place of a
  node, and what is there already
* `Reading.Sound`: every node stands in its place, and the open nodes are nodes of the forest

## Main results

* `Reading.resolve_fst`: the parent is the innermost open node that may hold the line's node
* `Reading.place_eq_grow`, `Reading.place_eq_reopen`: the two things that can become of a node
* `Reading.Sound.eq_of_earlier?`: what is opened again has the kind, the name and the parent of the
  line's node
* `Reading.Sound.place`: placing a node leaves everything in its place
-/

namespace CodeOutline

/-- The code of the finding says that a node is not where its line stands. -/
def Finding.isStructural (finding : Finding) : Bool :=
  finding.code == "made-top-level" || finding.code == "auto-corrected-parent"

namespace Outline.Reading

variable {forest : Forest} {opened : List (NodeId × Nat)} {reading : Reading} {node : Node}
  {finding : Option Finding} {kind : NodeKind} {path : String} {line number number' id : Nat}

/-! ### Remarks -/

@[simp] theorem forest_remark? : (reading.remark? line finding).forest = reading.forest := by
  cases finding <;> rfl

@[simp] theorem remarks_remark? : (reading.remark? line finding).remarks =
    reading.remarks ++ (finding.map (Remark.mk line)).toList := by
  cases finding <;> simp [remark?, remark]

/-! ### The place of a node -/

/-- The parent is the innermost open node that may hold the line's node. -/
theorem resolve_fst (hopened : ∀ entry ∈ opened, entry.1 < forest.size) :
    (resolve forest opened node).1 = (opened.map (·.1)).find? (accepts forest node.kind) := by
  cases opened with
  | nil => rfl
  | cons entry outer =>
    obtain ⟨innermost, level⟩ := entry
    have hlt : innermost < forest.size := hopened _ List.mem_cons_self
    obtain ⟨above, habove⟩ := Option.isSome_iff_exists.1 (Forest.node?_isSome_iff.2 hlt)
    simp only [resolve, habove, List.map_cons, List.find?_cons]
    -- what does not accept the kind is passed over by the search through the outer nodes as well
    cases accepts forest node.kind innermost with
    | true => rfl
    | false =>
      simp only [Bool.false_eq_true, if_false]
      split <;> rename_i hfind <;> rw [hfind]

/-- What there is to say about a node's place shows in its code. -/
theorem isStructural_of_mem_resolve {found : Finding} (h : found ∈ (resolve forest opened node).2) :
    found.isStructural = true := by
  unfold resolve at h
  split at h
  · split at h <;> simp at h
    subst h
    rfl
  · split at h
    · simp at h
    · split at h
      · simp at h
      · split at h
        · simp at h
          subst h
          rfl
        · obtain ⟨above, -, rfl⟩ := Option.map_eq_some_iff.1 h
          rfl

/-- The node that stays open and becomes the parent of a node. -/
def parentOf (reading : Reading) (node : Node) : Option NodeId :=
  (resolve reading.forest (close reading.opened node.level) node).1

/-- What there is to say about the place of a node. -/
def findingOf (reading : Reading) (node : Node) : Option Finding :=
  (resolve reading.forest (close reading.opened node.level) node).2

/-- The path of the place of a node. -/
def pathOf (reading : Reading) (node : Node) : String :=
  pathBelow reading.forest node.kind node.name (reading.parentOf node)

/-- The directory or file that is there already. -/
def earlier? (reading : Reading) (node : Node) : Option NodeId :=
  if node.kind.isContainer then declared? reading.forest (reading.pathOf node) else none

/-- Only directories and files can be there already. -/
theorem isContainer_of_earlier? (h : reading.earlier? node = some id) :
    node.kind.isContainer = true := by
  by_contra hkind
  simp [earlier?, hkind] at h

/-- Where nothing is yet, the forest grows by the node. -/
theorem place_eq_grow (h : reading.earlier? node = none) :
    reading.place line node =
      ⟨reading.forest.grow { node with path := reading.pathOf node } (reading.parentOf node),
        reading.remarks ++ ((reading.findingOf node).map (Remark.mk line)).toList,
        (reading.forest.size, node.level) :: close reading.opened node.level⟩ := by
  unfold earlier? pathOf parentOf at h
  simp only [place, forest_remark?, h, remarks_remark?]
  rfl

/-- What is there already is opened again, and the forest stays as it is. -/
theorem place_eq_reopen (h : reading.earlier? node = some id) :
    reading.place line node =
      ⟨reading.forest,
        reading.remarks ++ ((reading.findingOf node).map (Remark.mk line)).toList
          ++ [⟨line, .declaredBefore node.kind (reading.pathOf node)⟩],
        (id, node.level) :: close reading.opened node.level⟩ := by
  unfold earlier? pathOf parentOf at h
  simp only [place, forest_remark?, h, remark, remarks_remark?]
  rfl

/-- Placing a node remarks that a path is taken only where it is. -/
theorem mem_remarks_place
    (h : ⟨number', .declaredBefore kind path⟩ ∈ (reading.place number node).remarks) :
    ⟨number', .declaredBefore kind path⟩ ∈ reading.remarks ∨
      number' = number ∧ kind = node.kind ∧ path = reading.pathOf node ∧
        ∃ id, reading.earlier? node = some id := by
  -- what is said about the place is never that the path is taken
  have hfinding : ⟨number', .declaredBefore kind path⟩ ∉
      ((reading.findingOf node).map (Remark.mk number)).toList := by
    intro hmem
    obtain ⟨finding, hfinding, heq⟩ := Option.map_eq_some_iff.1 (Option.mem_toList.1 hmem)
    obtain ⟨-, rfl⟩ := Remark.mk.inj heq
    exact Bool.false_ne_true (isStructural_of_mem_resolve hfinding)
  cases hearlier : reading.earlier? node with
  | none =>
    rw [place_eq_grow hearlier] at h
    exact Or.inl ((List.mem_append.1 h).resolve_right hfinding)
  | some id =>
    rw [place_eq_reopen hearlier] at h
    rcases List.mem_append.1 h with h | h
    · exact Or.inl ((List.mem_append.1 h).resolve_right hfinding)
    · obtain ⟨rfl, hdeclared⟩ := by simpa using h
      exact Or.inr ⟨rfl, hdeclared.1, hdeclared.2, id, rfl⟩

/-! ### Everything stays in its place -/

/-- Every node stands in its place, and the open nodes are nodes of the forest. -/
structure Sound (reading : Reading) : Prop where
  placed : WellPlaced reading.forest
  opened_lt : ∀ entry ∈ reading.opened, entry.1 < reading.forest.size

theorem sound_start : start.Sound where
  placed := wellPlaced_empty
  opened_lt := by simp [start]

theorem mem_of_mem_close {level : Nat} {entry : NodeId × Nat} (h : entry ∈ close opened level) :
    entry ∈ opened :=
  (List.dropWhile_sublist _).mem h

namespace Sound

variable (h : reading.Sound)
include h

theorem close_lt {level : Nat} :
    ∀ entry ∈ close reading.opened level, entry.1 < reading.forest.size :=
  fun entry hentry => h.opened_lt entry (mem_of_mem_close hentry)

theorem parentOf_eq : reading.parentOf node =
    ((close reading.opened node.level).map (·.1)).find? (accepts reading.forest node.kind) :=
  resolve_fst h.close_lt

theorem accepts_of_mem_parentOf :
    ∀ p ∈ reading.parentOf node, accepts reading.forest node.kind p = true := by
  intro p hp
  rw [h.parentOf_eq] at hp
  exact List.find?_some hp

theorem parentOf_lt : ∀ p ∈ reading.parentOf node, p < reading.forest.size :=
  fun p hp => lt_size_of_accepts (h.accepts_of_mem_parentOf p hp)

/-- What is opened again has the path of the place, and the kind, the name and the parent that
belong to it. -/
theorem eq_of_earlier? (hname : node.kind.Names node.name) (hid : reading.earlier? node = some id) :
    ∃ earlier, reading.forest.node? id = some earlier ∧ earlier.kind = node.kind ∧
      earlier.name = node.name ∧ earlier.path = reading.pathOf node ∧
      reading.forest.parent? id = reading.parentOf node := by
  have hkind := isContainer_of_earlier? hid
  rw [earlier?, if_pos hkind] at hid
  obtain ⟨earlier, hearlier, hcontainer, hpath⟩ := node?_of_declared? hid
  obtain ⟨hkinds, hnames, hparent⟩ := h.placed.eq_of_path_eq_pathBelow hearlier hcontainer hkind
    hname h.accepts_of_mem_parentOf hpath
  exact ⟨earlier, hearlier, hkinds, hnames, hpath, hparent⟩

/-- Placing a node leaves everything in its place. -/
theorem place (hname : node.kind.Names node.name) : (reading.place line node).Sound := by
  cases hearlier : reading.earlier? node with
  | some id =>
    obtain ⟨earlier, hnode, -⟩ := h.eq_of_earlier? hname hearlier
    rw [place_eq_reopen hearlier]
    refine ⟨h.placed, ?_⟩
    intro entry hentry
    rcases List.mem_cons.1 hentry with rfl | hentry
    · exact Forest.lt_size_of_node? hnode
    · exact h.close_lt entry hentry
  | none =>
    rw [place_eq_grow hearlier]
    refine ⟨?_, fun entry hentry => ?_⟩
    · refine h.placed.grow hname h.accepts_of_mem_parentOf rfl ?_
      intro hkind
      rwa [earlier?, if_pos hkind] at hearlier
    · rw [Forest.size_grow]
      rcases List.mem_cons.1 hentry with rfl | hentry
      · exact Nat.lt_succ_self _
      · exact Nat.lt_succ_of_lt (h.close_lt entry hentry)

end Sound

end Outline.Reading

end CodeOutline
