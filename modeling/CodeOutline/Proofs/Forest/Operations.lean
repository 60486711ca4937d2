import Mathlib.Data.List.Induction
import CodeOutline.Proofs.Forest.Walk

/-!
# Operations on a forest

A forest is built from the one without nodes by three operations: a node is pushed, a node is
attached below another one, or a node is made a root. Whatever their order and their arguments, the
links of the forest agree in both directions, and no child and no root is listed twice. Unlike in the
forest of an outline, a node may come before its parent, and a root may have one.

## Main definitions

* `Forest.Operation`, `Forest.build`: the forest that a sequence of operations builds
* `Forest.Grown`: what holds of every such forest

## Main results

* `Forest.parent?_attach`, `Forest.children_attach`: what an attachment changes
* `Forest.Grown.apply`, `Forest.grown_build`: what operations keep
* `Forest.build_iff`: what only some operations destroy
-/

namespace CodeOutline.Forest

variable {forest : Forest} {id child parent c p : Nat}

/-! ### Operations -/

/-- What can be done to a forest. -/
inductive Operation where
  | push (node : Node)
  | attach (child parent : NodeId)
  | addRoot (id : NodeId)

/-- The forest after one operation. -/
def apply (forest : Forest) : Operation → Forest
  | .push node => forest.push node
  | .attach child parent => forest.attach child parent
  | .addRoot id => forest.addRoot id

/-- The forest that operations build, beginning with the one without nodes. -/
def build (operations : List Operation) : Forest :=
  operations.foldl apply .empty

theorem build_append_singleton (operations : List Operation) (operation : Operation) :
    build (operations ++ [operation]) = (build operations).apply operation := by
  rw [build, List.foldl_append, List.foldl_cons, List.foldl_nil, build]

@[simp] theorem size_push (node : Node) : (forest.push node).size = forest.size + 1 := by
  simp [push, size]

@[simp] theorem roots_push (node : Node) : (forest.push node).roots = forest.roots := rfl

@[simp] theorem parent?_push (node : Node) (id : NodeId) :
    (forest.push node).parent? id = forest.parent? id := by
  rw [parent?, push, Array.getElem?_push, parent?]
  split
  · rename_i hid
    simp [hid]
  · rfl

@[simp] theorem children_push (node : Node) (id : NodeId) :
    (forest.push node).children id = forest.children id := by
  rw [children, push, Array.getElem?_push, children]
  split
  · rename_i hid
    simp [hid]
  · rfl

@[simp] theorem size_addRoot (root : NodeId) : (forest.addRoot root).size = forest.size := by
  rw [addRoot]
  split <;> rfl

@[simp] theorem parent?_addRoot (root id : NodeId) :
    (forest.addRoot root).parent? id = forest.parent? id := by
  rw [addRoot]
  split <;> rfl

@[simp] theorem children_addRoot (root id : NodeId) :
    (forest.addRoot root).children id = forest.children id := by
  rw [addRoot]
  split <;> rfl

@[simp] theorem size_attach (child parent : NodeId) :
    (forest.attach child parent).size = forest.size := by
  rw [attach]
  split <;> simp [size]

@[simp] theorem roots_attach (child parent : NodeId) :
    (forest.attach child parent).roots = forest.roots := by
  rw [attach]
  split <;> rfl

theorem attach_of_not_canAttach (h : ¬ forest.CanAttach child parent) :
    forest.attach child parent = forest :=
  if_neg h

theorem parent?_attach (h : forest.CanAttach child parent) (id : Nat) :
    (forest.attach child parent).parent? id =
      if id = child then some parent else forest.parent? id := by
  have hlt : child < forest.slots.size := h.1
  rw [attach, if_pos h, parent?, parent?]
  simp only [Array.getElem?_modify]
  by_cases hchild : id = child
  · subst hchild
    have hne : parent ≠ id := h.2.2.1.symm
    simp [hne, hlt]
  · rw [if_neg hchild, if_neg (Ne.symm hchild)]
    split <;> cases forest.slots[id]? <;> rfl

theorem children_attach (h : forest.CanAttach child parent) (id : Nat) :
    (forest.attach child parent).children id =
      if id = parent then forest.children id ++ [child] else forest.children id := by
  have hlt : parent < forest.slots.size := h.2.1
  rw [attach, if_pos h, children, children]
  simp only [Array.getElem?_modify]
  by_cases hparent : id = parent
  · subst hparent
    have hne : child ≠ id := h.2.2.1
    simp [hne, hlt]
  · rw [if_neg hparent, if_neg (Ne.symm hparent)]
    split <;> cases forest.slots[id]? <;> rfl

/-! ### What operations keep -/

/-- The links agree, and every root is there. -/
structure Grown (forest : Forest) : Prop extends Linked forest where
  lt_size_of_mem_roots : ∀ r ∈ forest.roots, r < forest.size

theorem grown_empty : Grown .empty := by
  refine ⟨⟨?_, ?_, ?_⟩, ?_⟩ <;> simp

namespace Grown

variable (h : forest.Grown)
include h

theorem push (node : Node) : (forest.push node).Grown where
  mem_children_iff p c := by simp [h.mem_children_iff]
  nodup_children p := by simp [h.nodup_children]
  nodup_roots := by simp [h.nodup_roots]
  lt_size_of_mem_roots r hr := by
    rw [size_push]
    exact Nat.lt_succ_of_lt (h.lt_size_of_mem_roots r hr)

theorem addRoot (root : NodeId) : (forest.addRoot root).Grown where
  mem_children_iff p c := by simp [h.mem_children_iff]
  nodup_children p := by simp [h.nodup_children]
  nodup_roots := by
    rw [Forest.addRoot]
    split
    · rename_i hnew
      exact h.nodup_roots.append (List.nodup_singleton root) (by simpa using hnew.2.2)
    · exact h.nodup_roots
  lt_size_of_mem_roots r hr := by
    rw [size_addRoot]
    rw [Forest.addRoot] at hr
    split at hr
    · rename_i hnew
      rcases List.mem_append.1 hr with hr | hr
      · exact h.lt_size_of_mem_roots r hr
      · rw [List.mem_singleton.1 hr]
        exact hnew.1
    · exact h.lt_size_of_mem_roots r hr

theorem attach (child parent : NodeId) : (forest.attach child parent).Grown := by
  by_cases hcan : forest.CanAttach child parent
  · -- the child had no parent, so nobody listed it
    have hfree : ∀ p, child ∉ forest.children p := by
      intro p hmem
      have hparent := (h.mem_children_iff p child).1 hmem
      simp [hcan.2.2.2] at hparent
    refine ⟨⟨?_, ?_, ?_⟩, ?_⟩
    · intro p c
      have hold := h.mem_children_iff p c
      rw [children_attach hcan, parent?_attach hcan]
      by_cases hc : c = child
      · subst hc
        have hfree := hfree p
        split <;> simp_all [eq_comm]
      · rw [if_neg hc, ← hold]
        split <;> simp [hc]
    · intro p
      rw [children_attach hcan]
      split
      · exact (h.nodup_children p).append (List.nodup_singleton child) (by simpa using hfree p)
      · exact h.nodup_children p
    · simpa using h.nodup_roots
    · simpa using h.lt_size_of_mem_roots
  · rw [attach_of_not_canAttach hcan]
    exact h

theorem apply : ∀ operation, (forest.apply operation).Grown
  | .push node => h.push node
  | .attach child parent => h.attach child parent
  | .addRoot id => h.addRoot id

theorem lt_size_of_mem_children (hc : c ∈ forest.children p) : c < forest.size :=
  lt_size_of_parent? ((h.mem_children_iff p c).1 hc)

theorem parent_lt_size (hp : forest.parent? c = some p) : p < forest.size := by
  by_contra hle
  have hmem := (h.mem_children_iff p c).2 hp
  rw [children_eq_nil_of_size_le (Nat.not_lt.1 hle)] at hmem
  simp at hmem

end Grown

theorem grown_build (operations : List Operation) : (build operations).Grown :=
  List.foldlRecOn operations apply grown_empty fun _ h operation _ => h.apply operation

/-- What holds of the forest without nodes, and is destroyed by some operations and never comes back,
holds of a built forest if none of its operations destroyed it. -/
theorem build_iff {P : Forest → Prop} {Destroys : Forest → Operation → Prop} (hempty : P .empty)
    (happly : ∀ forest operation, forest.Grown →
      (P (forest.apply operation) ↔ P forest ∧ ¬ Destroys forest operation))
    (operations : List Operation) :
    P (build operations) ↔ ∀ before operation, before ++ [operation] <+: operations →
      ¬ Destroys (build before) operation := by
  induction operations using List.reverseRecOn with
  | nil => simp [build, hempty]
  | append_singleton operations last ih =>
    rw [build_append_singleton, happly _ _ (grown_build operations), ih]
    constructor
    · rintro ⟨hfront, hlast⟩ before operation hinitial
      -- the operation is the last one, or stands among those in front
      rcases List.prefix_concat_iff.1 hinitial with heq | hinitial
      · obtain ⟨rfl, rfl⟩ := List.append_singleton_inj.1 heq
        exact hlast
      · exact hfront before operation hinitial
    · intro hnone
      refine ⟨fun before operation hinitial => ?_, hnone operations last (List.prefix_refl _)⟩
      exact hnone before operation (hinitial.trans (List.prefix_append _ _))

end CodeOutline.Forest
