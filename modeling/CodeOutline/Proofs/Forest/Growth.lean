import Mathlib.Data.Nat.Basic
import CodeOutline.Forest

/-!
# How a forest grows

A forest read from an outline grows by one node at a time, which becomes the last child of a node
that is there already, or the last root. This adds a slot and leaves the nodes and parents that were
there as they were. In a forest where every parent was there before its child, following the parents
comes to an end, so the nodes above a node do not depend on the bound of the walk.

## Main definitions

* `Forest.Extends`: a forest has all that another one has, at the same place
* `Forest.ParentsFirst`: every parent was there before its child
* `Forest.nodes`: the nodes of a forest in the order in which they were added

## Main results

* `Forest.node?_grow`, `Forest.parent?_grow`, `Forest.roots_grow`: the forest after one more node
* `Forest.nodes_grow`: a new node comes behind all others
* `Forest.extends_grow`: nothing else changes
* `Forest.ancestors_of_parent?`: the nodes above a node are its parent and the nodes above that
-/

namespace CodeOutline.Forest

variable {forest : Forest} {node : Node} {parent : Option NodeId} {id p : Nat}

@[simp] theorem size_empty : empty.size = 0 := rfl

@[simp] theorem node?_empty (id : NodeId) : empty.node? id = none := by
  simp [empty, node?]

@[simp] theorem parent?_empty (id : NodeId) : empty.parent? id = none := by
  simp [empty, parent?]

@[simp] theorem roots_empty : empty.roots = [] := rfl

theorem node?_isSome_iff : (forest.node? id).isSome ↔ id < forest.size := by
  simp [node?, size]

theorem lt_size_of_node? (h : forest.node? id = some node) : id < forest.size :=
  node?_isSome_iff.1 (by simp [h])

theorem lt_size_of_parent? (h : forest.parent? id = some p) : id < forest.size := by
  by_contra hle
  have hslot : forest.slots[id]? = none := Array.getElem?_eq_none (Nat.not_lt.1 hle)
  simp [parent?, hslot] at h

/-! ### One more node -/

theorem canAttach_push (hp : p < forest.size) : (forest.push node).CanAttach forest.size p := by
  have hsize : (forest.push node).size = forest.size + 1 := by simp [push, size]
  refine ⟨?_, ?_, Nat.ne_of_gt hp, by simp [push, size, parent?]⟩
  · rw [hsize]
    exact Nat.lt_succ_self _
  · rw [hsize]
    exact Nat.lt_succ_of_lt hp

/-- The slots after one more node: a new one, and one more child for its parent. -/
theorem slots_grow (hparent : ∀ p ∈ parent, p < forest.size) (id : Nat) :
    (forest.grow node parent).slots[id]? =
      if id = forest.size then some ⟨node, parent, []⟩
      else if parent = some id then
        forest.slots[id]?.map fun slot => { slot with children := slot.children ++ [forest.size] }
      else forest.slots[id]? := by
  cases parent with
  | none =>
    have hslots : (forest.grow node none).slots = (forest.push node).slots := by
      simp only [grow, addRoot]
      split <;> rfl
    rw [hslots, push, Array.getElem?_push]
    simp [size]
  | some p =>
    have hp : p < forest.size := hparent p rfl
    rw [grow, attach, if_pos (canAttach_push hp), Array.getElem?_modify, Array.getElem?_modify,
      push, Array.getElem?_push]
    -- attaching changes two slots: that of the new node and that of its parent
    by_cases hnew : id = forest.size
    · have hpne : p ≠ forest.size := Nat.ne_of_lt hp
      simp_all [size]
    · by_cases hpid : p = id
      · simp_all [size, eq_comm]
      · simp_all [size, eq_comm]

theorem size_grow : (forest.grow node parent).size = forest.size + 1 := by
  cases parent with
  | none =>
    simp only [grow, addRoot]
    split <;> simp [push, size]
  | some p =>
    simp only [grow, attach]
    split <;> simp [push, size]

theorem node?_grow (hparent : ∀ p ∈ parent, p < forest.size) (id : Nat) :
    (forest.grow node parent).node? id =
      if id = forest.size then some node else forest.node? id := by
  rw [node?, slots_grow hparent]
  split
  · rfl
  · split
    · simp [node?, Function.comp_def]
    · rfl

theorem parent?_grow (hparent : ∀ p ∈ parent, p < forest.size) (id : Nat) :
    (forest.grow node parent).parent? id =
      if id = forest.size then parent else forest.parent? id := by
  rw [parent?, slots_grow hparent]
  split
  · rfl
  · split
    · simp only [parent?, Option.bind_map]
      rfl
    · rfl

/-- A node of the grown forest is the new one, or was there before. -/
theorem eq_or_node?_of_node?_grow {found : Node} (hparent : ∀ p ∈ parent, p < forest.size)
    (h : (forest.grow node parent).node? id = some found) :
    id = forest.size ∧ found = node ∨ id < forest.size ∧ forest.node? id = some found := by
  rw [node?_grow hparent] at h
  split at h
  · rename_i hid
    exact Or.inl ⟨hid, (Option.some.inj h).symm⟩
  · exact Or.inr ⟨lt_size_of_node? h, h⟩

/-- A node without a parent becomes the last root. -/
theorem roots_grow (hroots : ∀ r ∈ forest.roots, r < forest.size) :
    (forest.grow node parent).roots =
      if parent = none then forest.roots ++ [forest.size] else forest.roots := by
  cases parent with
  | none =>
    have hfresh : forest.size ∉ forest.roots := fun h => Nat.lt_irrefl _ (hroots _ h)
    have hnew : (forest.push node).parent? forest.size = none := by simp [push, size, parent?]
    have hlt : forest.size < (forest.push node).size := by simp [push, size]
    rw [grow, addRoot, if_pos ⟨hlt, hnew, hfresh⟩]
    rfl
  | some p =>
    simp only [grow, attach]
    split <;> rfl

/-- The roots are still the nodes without a parent. -/
theorem mem_roots_grow_iff (hparent : ∀ p ∈ parent, p < forest.size)
    (hroots : ∀ id : Nat, id ∈ forest.roots ↔ id < forest.size ∧ forest.parent? id = none) :
    id ∈ (forest.grow node parent).roots ↔
      id < (forest.grow node parent).size ∧ (forest.grow node parent).parent? id = none := by
  have hlt : ∀ r ∈ forest.roots, r < forest.size := fun r hr => ((hroots r).1 hr).1
  have hold := hroots id
  rw [roots_grow hlt, size_grow, parent?_grow hparent]
  by_cases hid : id = forest.size
  · have hfresh : id ∉ forest.roots := fun hmem => Nat.ne_of_lt (hlt id hmem) hid
    cases parent <;> simp_all
  · have hlast : id < forest.size + 1 ↔ id < forest.size := by omega
    rw [if_neg hid, hlast, ← hold]
    cases parent <;> simp [hid]

/-! ### The nodes in the order of their numbers -/

/-- The nodes of a forest in the order in which they were added. -/
def nodes (forest : Forest) : List Node :=
  forest.slots.toList.map (·.node)

theorem getElem?_nodes (forest : Forest) (id : Nat) : forest.nodes[id]? = forest.node? id := by
  simp [nodes, node?]

theorem mem_nodes_iff : node ∈ forest.nodes ↔ ∃ id : Nat, forest.node? id = some node := by
  simp only [List.mem_iff_getElem?, getElem?_nodes]

theorem length_nodes (forest : Forest) : forest.nodes.length = forest.size := by
  simp [nodes, size]

/-- A new node comes behind all others. -/
theorem nodes_grow (hparent : ∀ p ∈ parent, p < forest.size) :
    (forest.grow node parent).nodes = forest.nodes ++ [node] := by
  apply List.ext_getElem?
  intro id
  rw [getElem?_nodes, node?_grow hparent, List.getElem?_append, length_nodes]
  by_cases hlast : id = forest.size
  · simp [hlast]
  · rw [if_neg hlast]
    split
    · rw [getElem?_nodes]
    · rename_i hlt
      have hnone : forest.node? id = none := by
        rw [← getElem?_nodes, List.getElem?_eq_none_iff, length_nodes]
        omega
      have hbehind : [node].length ≤ id - forest.size := by
        rw [List.length_singleton]
        omega
      rw [hnone, List.getElem?_eq_none hbehind]

/-! ### Nothing else changes -/

/-- A later forest has all that a forest has, at the same place. -/
structure Extends (forest later : Forest) : Prop where
  size_le : forest.size ≤ later.size
  node?_eq : ∀ id < forest.size, later.node? id = forest.node? id
  parent?_eq : ∀ id < forest.size, later.parent? id = forest.parent? id
  mem_roots : ∀ id < forest.size, id ∈ later.roots ↔ id ∈ forest.roots

namespace Extends

variable {later last : Forest}

theorem refl (forest : Forest) : forest.Extends forest :=
  ⟨le_rfl, fun _ _ => rfl, fun _ _ => rfl, fun _ _ => Iff.rfl⟩

theorem trans (h : forest.Extends later) (h' : later.Extends last) : forest.Extends last where
  size_le := Nat.le_trans h.size_le h'.size_le
  node?_eq id hid :=
    (h'.node?_eq id (Nat.lt_of_lt_of_le hid h.size_le)).trans (h.node?_eq id hid)
  parent?_eq id hid :=
    (h'.parent?_eq id (Nat.lt_of_lt_of_le hid h.size_le)).trans (h.parent?_eq id hid)
  mem_roots id hid :=
    (h'.mem_roots id (Nat.lt_of_lt_of_le hid h.size_le)).trans (h.mem_roots id hid)

theorem node?_of_node? (h : forest.Extends later) (hnode : forest.node? id = some node) :
    later.node? id = some node :=
  (h.node?_eq id (lt_size_of_node? hnode)).trans hnode

end Extends

theorem extends_grow (hparent : ∀ p ∈ parent, p < forest.size)
    (hroots : ∀ r ∈ forest.roots, r < forest.size) : forest.Extends (forest.grow node parent) where
  size_le := by
    rw [size_grow]
    exact Nat.le_succ _
  node?_eq id hid := by rw [node?_grow hparent, if_neg (Nat.ne_of_lt hid)]
  parent?_eq id hid := by rw [parent?_grow hparent, if_neg (Nat.ne_of_lt hid)]
  mem_roots id hid := by
    rw [roots_grow hroots]
    split
    · simp [Nat.ne_of_lt hid]
    · rfl

/-! ### The nodes above a node -/

/-- Every parent was there before its child. -/
def ParentsFirst (forest : Forest) : Prop :=
  ∀ id p : Nat, forest.parent? id = some p → p < id

theorem parentsFirst_iff :
    forest.ParentsFirst ↔ ∀ id < forest.size, ∀ p ∈ forest.parent? id, p < id :=
  ⟨fun h id _ p hp => h id p hp, fun h id p hp => h id (lt_size_of_parent? hp) p hp⟩

instance (forest : Forest) : Decidable forest.ParentsFirst :=
  decidable_of_iff' _ parentsFirst_iff

namespace ParentsFirst

variable (h : forest.ParentsFirst)
include h

/-- No way up is longer than the number of the node it starts from. -/
theorem climb_eq (id : Nat) : ∀ steps ≥ id, forest.climb steps id = forest.climb id id := by
  induction id using Nat.strong_induction_on with
  | _ id ih =>
    intro steps hsteps
    cases hparent : forest.parent? id with
    | none => cases steps <;> cases id <;> simp [climb, hparent]
    | some p =>
      have hp := h id p hparent
      -- the parent has a smaller number, so either bound leaves enough steps for it
      obtain ⟨steps, rfl⟩ : ∃ n, steps = n + 1 := ⟨steps - 1, by omega⟩
      obtain ⟨less, rfl⟩ : ∃ n, id = n + 1 := ⟨id - 1, by omega⟩
      simp only [climb, hparent]
      rw [ih p hp steps (by omega), ih p hp less (by omega)]

theorem ancestors_of_parent? (hparent : forest.parent? id = some p) :
    forest.ancestors id = p :: forest.ancestors p := by
  have hp := h id p hparent
  have hid : id < forest.size := lt_size_of_parent? hparent
  rw [ancestors, ancestors, h.climb_eq p forest.size (by omega),
    h.climb_eq id forest.size (by omega)]
  obtain ⟨less, rfl⟩ : ∃ n, id = n + 1 := ⟨id - 1, by omega⟩
  simp only [climb, hparent]
  rw [h.climb_eq p less (by omega)]

theorem grow (hparent : ∀ p ∈ parent, p < forest.size) :
    (forest.grow node parent).ParentsFirst := by
  intro id p hp
  rw [parent?_grow hparent] at hp
  split at hp
  · rename_i hid
    rw [hid]
    exact hparent p hp
  · exact h id p hp

end ParentsFirst

theorem ancestors_of_root (hparent : forest.parent? id = none) : forest.ancestors id = [] := by
  rw [ancestors]
  cases forest.size <;> simp [climb, hparent]

end CodeOutline.Forest
