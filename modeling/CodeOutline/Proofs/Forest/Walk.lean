import Mathlib.Data.List.Nodup
import Mathlib.Data.List.Perm.Subperm
import CodeOutline.Proofs.Forest.Growth

/-!
# Walking a forest

A forest that has grown node by node is linked in both directions: whatever has a parent is listed
once among the children of that parent and nowhere else, and whatever has none is listed once among
the roots. A walk from the roots then comes to every node, and to none of them twice.

## Main definitions

* `Forest.Linked`: the lists of children and the parents agree, and no list names a node twice
* `Forest.Rooted`: besides, parents were there before their children, and the roots are the nodes
  without a parent
* `Forest.Midway`: what holds between two steps of a walk

## Main results

* `Forest.Rooted.grow`: one more node
* `Forest.Midway.step`, `Forest.Midway.walk_perm`: one step of a walk, and all the steps that are left
* `Forest.Rooted.preorder_perm`: a walk visits every node once
-/

namespace CodeOutline.Forest

variable {forest : Forest} {node : Node} {parent : Option NodeId} {visited pending : List NodeId}
  {id c p : Nat}

/-! ### Links in both directions -/

@[simp] theorem children_empty (id : NodeId) : empty.children id = [] := by
  simp [empty, children]

theorem children_eq_nil_of_size_le (h : forest.size ≤ id) : forest.children id = [] := by
  have hslot : forest.slots[id]? = none := Array.getElem?_eq_none h
  simp [children, hslot]

/-- The new node is the last child of its parent, and has no children itself. -/
theorem children_grow (hparent : ∀ p ∈ parent, p < forest.size) (id : Nat) :
    (forest.grow node parent).children id =
      if parent = some id then forest.children id ++ [forest.size] else forest.children id := by
  rw [children, slots_grow hparent]
  by_cases hid : id = forest.size
  · have hnew : forest.children id = [] := children_eq_nil_of_size_le (Nat.le_of_eq hid.symm)
    have hne : parent ≠ some id := fun h => Nat.ne_of_lt (hparent id h) hid
    rw [if_pos hid, if_neg hne, hnew]
    rfl
  · rw [if_neg hid]
    split
    · rename_i heq
      have hlt : id < forest.slots.size := hparent id heq
      simp [children, hlt]
    · rfl

/-- Parents and lists of children agree, and no list names a node twice. -/
structure Linked (forest : Forest) : Prop where
  mem_children_iff : ∀ p c : Nat, c ∈ forest.children p ↔ forest.parent? c = some p
  nodup_children : ∀ p : Nat, (forest.children p).Nodup
  nodup_roots : forest.roots.Nodup

/-- The links agree, every parent was there before its child, and the roots are the nodes without a
parent. -/
structure Rooted (forest : Forest) : Prop extends Linked forest where
  parentsFirst : forest.ParentsFirst
  mem_roots_iff : ∀ id : Nat, id ∈ forest.roots ↔ id < forest.size ∧ forest.parent? id = none

namespace Rooted

theorem empty : Rooted .empty := by
  refine ⟨⟨?_, ?_, ?_⟩, ?_, ?_⟩ <;> simp [ParentsFirst]

variable (h : forest.Rooted)
include h

theorem lt_size_of_mem_roots (hid : id ∈ forest.roots) : id < forest.size :=
  ((h.mem_roots_iff id).1 hid).1

/-- Every node has a slot that its parent lists. -/
theorem lt_size_of_mem_children (hc : c ∈ forest.children p) : c < forest.size :=
  lt_size_of_parent? ((h.mem_children_iff p c).1 hc)

/-- One more node leaves the links in agreement. -/
theorem grow (hparent : ∀ p ∈ parent, p < forest.size) : (forest.grow node parent).Rooted := by
  have hroots : ∀ r ∈ forest.roots, r < forest.size := fun r => h.lt_size_of_mem_roots
  -- nothing knew of the new node before
  have hfresh : ∀ p, forest.size ∉ forest.children p := fun p hmem =>
    Nat.lt_irrefl _ (h.lt_size_of_mem_children hmem)
  have hfreshRoot : forest.size ∉ forest.roots := fun hmem => Nat.lt_irrefl _ (hroots _ hmem)
  refine ⟨⟨?_, ?_, ?_⟩, h.parentsFirst.grow hparent, ?_⟩
  · intro p c
    have hold := h.mem_children_iff p c
    rw [children_grow hparent, parent?_grow hparent]
    by_cases hc : c = forest.size
    · subst hc
      by_cases heq : parent = some p <;> simp [heq, hfresh p]
    · rw [if_neg hc, ← hold]
      split <;> simp [hc]
  · intro p
    rw [children_grow hparent]
    split
    · exact (h.nodup_children p).append (List.nodup_singleton _) (by simpa using hfresh p)
    · exact h.nodup_children p
  · rw [roots_grow hroots]
    split
    · exact h.nodup_roots.append (List.nodup_singleton _) (by simpa using hfreshRoot)
    · exact h.nodup_roots
  · exact fun id => mem_roots_grow_iff hparent h.mem_roots_iff

end Rooted

/-! ### A walk -/

/-- Between two steps of a walk no node stands twice among those visited and those pending. The
nodes above them are visited already, and the children of the visited nodes and the roots are not
forgotten. -/
structure Midway (forest : Forest) (visited pending : List NodeId) : Prop where
  nodup : (visited ++ pending).Nodup
  lt_size : ∀ id ∈ visited ++ pending, id < forest.size
  parent_mem : ∀ id ∈ visited ++ pending, ∀ p ∈ forest.parent? id, p ∈ visited
  children_mem : ∀ id ∈ visited, ∀ c ∈ forest.children id, c ∈ visited ++ pending
  roots_mem : ∀ r ∈ forest.roots, r ∈ visited ++ pending

namespace Midway

theorem start (h : forest.Rooted) : forest.Midway [] forest.roots where
  nodup := h.nodup_roots
  lt_size _ hid := h.lt_size_of_mem_roots hid
  parent_mem id hid p hp := by
    rw [((h.mem_roots_iff id).1 hid).2] at hp
    simp at hp
  children_mem := by simp
  roots_mem _ hr := hr

/-- Visiting the first pending node makes its children pending. -/
theorem step (h : forest.Rooted) (hmid : forest.Midway visited (id :: pending)) :
    forest.Midway (visited ++ [id]) (forest.children id ++ pending) := by
  have hperm : (visited ++ [id] ++ (forest.children id ++ pending)).Perm
      (forest.children id ++ (visited ++ id :: pending)) := by
    have hmiddle := List.perm_append_comm_assoc (visited ++ [id]) (forest.children id) pending
    simpa using hmiddle
  have hmem : ∀ a, a ∈ visited ++ [id] ++ (forest.children id ++ pending) ↔
      a ∈ forest.children id ∨ a ∈ visited ++ id :: pending := fun a => by
    rw [hperm.mem_iff, List.mem_append]
  -- a child that had been met before would have its parent among the visited nodes
  have hunmet : ∀ c ∈ forest.children id, c ∉ visited ++ id :: pending := by
    intro c hc hmet
    have hvisited := hmid.parent_mem c hmet id ((h.mem_children_iff id c).1 hc)
    exact (List.nodup_append'.1 hmid.nodup).2.2 hvisited List.mem_cons_self
  have hgrow : ∀ a ∈ visited, a ∈ visited ++ [id] := fun a ha => List.mem_append_left _ ha
  constructor
  case nodup =>
    rw [hperm.nodup_iff, List.nodup_append']
    exact ⟨h.nodup_children id, hmid.nodup, hunmet⟩
  case lt_size =>
    intro a ha
    rcases (hmem a).1 ha with hc | hold
    · exact h.lt_size_of_mem_children hc
    · exact hmid.lt_size a hold
  case parent_mem =>
    intro a ha p hp
    rcases (hmem a).1 ha with hc | hold
    · obtain rfl : id = p := Option.some.inj (((h.mem_children_iff id a).1 hc).symm.trans hp)
      simp
    · exact hgrow p (hmid.parent_mem a hold p hp)
  case children_mem =>
    intro a ha c hc
    rw [hmem]
    rcases List.mem_append.1 ha with ha | ha
    · exact Or.inr (hmid.children_mem a ha c hc)
    · obtain rfl := List.mem_singleton.1 ha
      exact Or.inl hc
  case roots_mem =>
    intro r hr
    rw [hmem]
    exact Or.inr (hmid.roots_mem r hr)

theorem subperm_range (hmid : forest.Midway visited pending) :
    (visited ++ pending).Subperm (List.range forest.size) := by
  apply List.subperm_of_subset hmid.nodup
  intro id hid
  exact List.mem_range.2 (hmid.lt_size id hid)

/-- Where nothing is pending any more, every node has been visited. -/
theorem perm_range (h : forest.Rooted) (hmid : forest.Midway visited []) :
    visited.Perm (List.range forest.size) := by
  have hall : ∀ id < forest.size, id ∈ visited := by
    intro id
    -- a node without a parent is a root, and a parent has a smaller number
    induction id using Nat.strong_induction_on with
    | _ id ih =>
      intro hid
      rw [← List.append_nil visited]
      cases hparent : forest.parent? id with
      | none => exact hmid.roots_mem id ((h.mem_roots_iff id).2 ⟨hid, hparent⟩)
      | some p =>
        have hp : p < id := h.parentsFirst id p hparent
        have hvisited := ih p hp (Nat.lt_trans hp hid)
        exact hmid.children_mem p hvisited id ((h.mem_children_iff p id).2 hparent)
  have hnodup : visited.Nodup := by simpa using hmid.nodup
  apply (List.perm_ext_iff_of_nodup hnodup List.nodup_range).2
  intro id
  rw [List.mem_range]
  exact ⟨fun hid => hmid.lt_size id (List.mem_append_left _ hid), hall id⟩

/-- A walk that has as many steps left as there may be nodes left visits all of them. -/
theorem walk_perm (h : forest.Rooted) (steps : Nat) (hmid : forest.Midway visited pending)
    (hsteps : forest.size ≤ visited.length + steps) :
    (visited ++ forest.walk steps pending).Perm (List.range forest.size) := by
  induction steps generalizing visited pending with
  | zero =>
    -- as many nodes are visited as there are, so none can be pending
    have hlength := hmid.subperm_range.length_le
    rw [List.length_append, List.length_range] at hlength
    have hnil : pending = [] := List.length_eq_zero_iff.1 (by omega)
    subst hnil
    simpa [walk] using hmid.perm_range h
  | succ steps ih =>
    cases pending with
    | nil => simpa [walk] using hmid.perm_range h
    | cons id pending =>
      have hnext := ih (hmid.step h) (by
        rw [List.length_append, List.length_singleton]
        omega)
      simpa [walk] using hnext

end Midway

namespace Rooted

variable (h : forest.Rooted)
include h

/-- There is a root if there is a node: the first node has no parent. -/
theorem size_le_bound : forest.size ≤ forest.roots.length * forest.size := by
  rcases Nat.eq_zero_or_pos forest.size with hzero | hpos
  · rw [hzero]
    exact Nat.zero_le _
  · have hfirst : forest.parent? 0 = none := by
      cases hparent : forest.parent? 0 with
      | none => rfl
      | some p => exact absurd (h.parentsFirst 0 p hparent) (Nat.not_lt_zero p)
    have hroot : 0 ∈ forest.roots := (h.mem_roots_iff 0).2 ⟨hpos, hfirst⟩
    exact Nat.le_mul_of_pos_left _ (List.length_pos_of_mem hroot)

/-- A walk from the roots visits every node once. -/
theorem preorder_perm : forest.preorder.Perm (List.range forest.size) := by
  have hwalk := (Midway.start h).walk_perm h (forest.roots.length * forest.size) (by
    simpa using h.size_le_bound)
  simpa [preorder] using hwalk

theorem nodup_preorder : forest.preorder.Nodup :=
  h.preorder_perm.nodup_iff.2 List.nodup_range

theorem length_preorder : forest.preorder.length = forest.size := by
  rw [h.preorder_perm.length_eq, List.length_range]

end Rooted

end CodeOutline.Forest
