import CodeOutline.Proofs.Forest.Walk
import CodeOutline.Proofs.Outline.Lines

/-!
# Outlines are legal forests

Whatever becomes of a line, be it corrected, made a root, merged or dropped, the forest stays one in
which every node has exactly one place: it is a root, or it hangs below a node that was declared on
an earlier line and may hold it. A walk from the roots therefore comes to every node once.

## Main definitions

* `Outline.LinesRise`: parents come from earlier lines than their children
* `Outline.HangsBelow`: a node has its one place below another node
* `Outline.Legal`: every node of a forest has exactly one place, and a legal one

## Main results

* `Reading.rooted_after`, `Reading.linesRise_after`: what holds of the links after any lines
* `Outline.legal_ofText`: the forest of an outline is legal
-/

namespace CodeOutline.Outline

open Reading

variable {forest : Forest} {node : Node} {parent : Option NodeId} {id c p : Nat}

/-! ### Parents come from earlier lines -/

/-- Every parent comes from an earlier line than its child. -/
def LinesRise (forest : Forest) : Prop :=
  ∀ (id p : Nat) node above, forest.parent? id = some p → forest.node? id = some node →
    forest.node? p = some above → above.line < node.line

theorem linesRise_empty : LinesRise .empty := by
  simp [LinesRise]

/-- A node from a line behind all others may be added anywhere. -/
theorem LinesRise.grow (h : LinesRise forest) (hfirst : forest.ParentsFirst)
    (hparent : ∀ p ∈ parent, p < forest.size)
    (hlast : ∀ (id : Nat) found, forest.node? id = some found → found.line < node.line) :
    LinesRise (forest.grow node parent) := by
  intro id p found above hp hfound habove
  rw [Forest.parent?_grow hparent] at hp
  -- the new node is nobody's parent
  have hold : p < forest.size → forest.node? p = some above := fun hlt => by
    rwa [Forest.node?_grow hparent, if_neg (Nat.ne_of_lt hlt)] at habove
  obtain ⟨rfl, rfl⟩ | ⟨hid, hfound⟩ := Forest.eq_or_node?_of_node?_grow hparent hfound
  · rw [if_pos rfl] at hp
    exact hlast p above (hold (hparent p hp))
  · rw [if_neg (Nat.ne_of_lt hid)] at hp
    exact h id p found above hp hfound (hold (Nat.lt_trans (hfirst id p hp) hid))

namespace Reading

theorem rooted_after (width : Nat) (lines : List String) : (after width lines).forest.Rooted := by
  refine forest_after_induction Forest.Rooted.empty ?_
  intro front line _ node _ _ hrooted
  exact hrooted.grow (sound_after width front).parentOf_lt

theorem linesRise_after (width : Nat) (lines : List String) :
    LinesRise (after width lines).forest := by
  refine forest_after_induction linesRise_empty ?_
  intro front line _ node hnode _ hrise
  have hsound := sound_after width front
  refine hrise.grow hsound.placed.parentsFirst hsound.parentOf_lt ?_
  intro id found hfound
  rw [line_of_describe? hnode]
  exact line_lt_of_node?_after hfound

end Reading

/-! ### Legal forests -/

/-- A node has its one place below another one: it is listed once among the children there and in no
other list. What it hangs below was there before, comes from an earlier line and may hold it. -/
structure HangsBelow (forest : Forest) (id p : NodeId) : Prop where
  parent?_eq : forest.parent? id = some p
  count_children : (forest.children p).count id = 1
  notMem_children : ∀ q, q ≠ p → id ∉ forest.children q
  parent_lt : p < id
  kinds_and_lines : ∃ node above, forest.node? id = some node ∧ forest.node? p = some above ∧
    above.line < node.line ∧ above.kind.mayHold node.kind = true

/-- Every node of a forest has exactly one place, and a legal one. -/
structure Legal (forest : Forest) : Prop where
  preorder_perm : forest.preorder.Perm (List.range forest.size)
  mem_roots_iff : ∀ id, id ∈ forest.roots ↔ id < forest.size ∧ forest.parent? id = none
  nodup_roots : forest.roots.Nodup
  hangsBelow : ∀ id < forest.size, id ∉ forest.roots → ∃ p, HangsBelow forest id p
  /-- only directories and files have children, and only nodes below them are their children -/
  children : ∀ p c, c ∈ forest.children p → forest.parent? c = some p ∧
    ∃ above, forest.node? p = some above ∧ above.kind.isContainer = true

/-- Linked nodes that stand in their places, each behind the line of its parent, make a legal
forest. -/
theorem WellPlaced.legal (h : WellPlaced forest) (hrooted : forest.Rooted)
    (hrise : LinesRise forest) : Legal forest := by
  have hbelow : ∀ id p : Nat, forest.parent? id = some p → ∃ node above,
      forest.node? id = some node ∧ forest.node? p = some above ∧ above.line < node.line ∧
        above.kind.mayHold node.kind = true := by
    intro id p hparent
    obtain ⟨node, hnode⟩ := Option.isSome_iff_exists.1
      (Forest.node?_isSome_iff.2 (Forest.lt_size_of_parent? hparent))
    obtain ⟨above, habove, hhold⟩ := accepts_iff.1 (h.accepted id node hnode p hparent)
    exact ⟨node, above, hnode, habove, hrise id p node above hparent hnode habove, hhold⟩
  constructor
  case preorder_perm => exact hrooted.preorder_perm
  case mem_roots_iff => exact hrooted.mem_roots_iff
  case nodup_roots => exact hrooted.nodup_roots
  case hangsBelow =>
    intro id hid hroot
    cases hparent : forest.parent? id with
    | none => exact absurd ((hrooted.mem_roots_iff id).2 ⟨hid, hparent⟩) hroot
    | some p =>
      have hlisted : id ∈ forest.children p := (hrooted.mem_children_iff p id).2 hparent
      refine ⟨p, hparent, List.count_eq_one_of_mem (hrooted.nodup_children p) hlisted, ?_,
        hrooted.parentsFirst id p hparent, hbelow id p hparent⟩
      intro q hq hmem
      have hparent' := (hrooted.mem_children_iff q id).1 hmem
      exact hq (Option.some.inj (hparent'.symm.trans hparent))
  case children =>
    intro p c hc
    have hparent := (hrooted.mem_children_iff p c).1 hc
    obtain ⟨node, above, -, habove, -, hhold⟩ := hbelow c p hparent
    exact ⟨hparent, above, habove, NodeKind.isContainer_of_mayHold hhold⟩

/-- **The forest of an outline is legal**, whatever the text and however wide a level. -/
theorem legal_ofText (width : Nat) (text : String) : Legal (ofText width text).forest :=
  (sound_after (max width 1) (linesOf text)).placed.legal (rooted_after _ _) (linesRise_after _ _)

end CodeOutline.Outline
