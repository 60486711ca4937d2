import CodeOutline.Proofs.Forest.Operations

/-!
# Who owns a node

The links of a forest are written down twice: a node knows its parent, and a parent lists its
children. Whatever operations build a forest, the two agree. A node is listed by its parent, once,
and by nobody else. An attachment that would give a node a second parent, or make it its own parent,
does nothing at all. So nothing that a forest holds is ever taken back: nodes stay as they were
pushed, and parents stay the parents they were.

## Main definitions

* `Forest.SingleOwner`: every node is listed by its parent and by nobody else
* `Forest.Keeps`: a later forest has all nodes and links of an earlier one

## Main results

* `Forest.Grown.singleOwner`: what holds after every sequence of operations
* `Forest.keeps_apply`, `Forest.keeps_build`: one operation, and all that follow
* `Forest.singleOwner_and_keeps_build`: both together
-/

namespace CodeOutline.Forest

variable {forest later last : Forest} {id child parent c p : Nat}

/-! ### One owner -/

/-- An attachment is refused: the node is to be its own parent, or has one already. -/
def Refuses (forest : Forest) (child parent : NodeId) : Prop :=
  child = parent ∨ (forest.parent? child).isSome

/-- Every node is listed by its parent, once, and by nobody else, and no root is listed twice. A
refused attachment changes nothing, and any other one gives the child its parent. -/
structure SingleOwner (forest : Forest) : Prop where
  count_children : ∀ p c : Nat,
    (forest.children p).count c = if forest.parent? c = some p then 1 else 0
  owner_unique : ∀ p q c : Nat, c ∈ forest.children p → c ∈ forest.children q → p = q
  nodup_roots : forest.roots.Nodup
  refused : ∀ child parent : Nat, forest.Refuses child parent →
    forest.attach child parent = forest
  attached : ∀ child < forest.size, ∀ parent < forest.size, ¬ forest.Refuses child parent →
    (forest.attach child parent).parent? child = some parent

theorem not_canAttach_of_refuses (h : forest.Refuses child parent) :
    ¬ forest.CanAttach child parent := by
  rintro ⟨-, -, hne, hfree⟩
  rcases h with heq | hparent
  · exact hne heq
  · simp [hfree] at hparent

theorem canAttach_of_not_refuses (hchild : child < forest.size) (hparent : parent < forest.size)
    (h : ¬ forest.Refuses child parent) : forest.CanAttach child parent := by
  rw [Refuses, not_or, Option.not_isSome_iff_eq_none] at h
  exact ⟨hchild, hparent, h.1, h.2⟩

theorem Grown.singleOwner (h : forest.Grown) : forest.SingleOwner where
  count_children p c := by
    rw [(h.nodup_children p).count]
    simp only [h.mem_children_iff]
  owner_unique p q c hp hq := by
    rw [h.mem_children_iff] at hp hq
    exact Option.some.inj (hp.symm.trans hq)
  nodup_roots := h.nodup_roots
  refused child parent hrefused := attach_of_not_canAttach (not_canAttach_of_refuses hrefused)
  attached child hchild parent hparent hfree := by
    rw [parent?_attach (canAttach_of_not_refuses hchild hparent hfree), if_pos rfl]

/-! ### What stays -/

/-- A later forest has the nodes of an earlier one under their numbers. Who had a parent has it
still, and children and roots stand in front of those that came later. -/
structure Keeps (forest later : Forest) : Prop where
  size_le : forest.size ≤ later.size
  node?_eq : ∀ id < forest.size, later.node? id = forest.node? id
  parent?_eq : ∀ c p : Nat, forest.parent? c = some p → later.parent? c = some p
  children_prefix : ∀ p : Nat, forest.children p <+: later.children p
  roots_prefix : forest.roots <+: later.roots

namespace Keeps

theorem refl (forest : Forest) : forest.Keeps forest where
  size_le := Nat.le_refl _
  node?_eq _ _ := rfl
  parent?_eq _ _ := id
  children_prefix _ := List.prefix_refl _
  roots_prefix := List.prefix_refl _

theorem trans (h : forest.Keeps later) (h' : later.Keeps last) : forest.Keeps last where
  size_le := Nat.le_trans h.size_le h'.size_le
  node?_eq id hid :=
    (h'.node?_eq id (Nat.lt_of_lt_of_le hid h.size_le)).trans (h.node?_eq id hid)
  parent?_eq c p hp := h'.parent?_eq c p (h.parent?_eq c p hp)
  children_prefix p := (h.children_prefix p).trans (h'.children_prefix p)
  roots_prefix := h.roots_prefix.trans h'.roots_prefix

end Keeps

theorem node?_push (node : Node) (id : NodeId) :
    (forest.push node).node? id = if id = forest.size then some node else forest.node? id := by
  rw [node?, push, Array.getElem?_push, size]
  split
  · rfl
  · rfl

@[simp] theorem node?_addRoot (root id : NodeId) :
    (forest.addRoot root).node? id = forest.node? id := by
  rw [addRoot]
  split <;> rfl

@[simp] theorem node?_attach (child parent id : NodeId) :
    (forest.attach child parent).node? id = forest.node? id := by
  rw [attach]
  split
  · -- both slots that change keep their nodes
    simp only [node?, Array.getElem?_modify]
    split <;> split <;> simp [Function.comp_def]
  · rfl

theorem keeps_push (forest : Forest) (node : Node) : forest.Keeps (forest.push node) where
  size_le := by simp
  node?_eq id hid := by rw [node?_push, if_neg (Nat.ne_of_lt hid)]
  parent?_eq c p hp := by rwa [parent?_push]
  children_prefix p := by simp
  roots_prefix := List.prefix_refl _

theorem keeps_addRoot (forest : Forest) (root : NodeId) :
    forest.Keeps (forest.addRoot root) where
  size_le := by simp
  node?_eq id _ := node?_addRoot root id
  parent?_eq c p hp := by rwa [parent?_addRoot]
  children_prefix p := by simp
  roots_prefix := by
    rw [addRoot]
    split
    · exact List.prefix_append _ _
    · exact List.prefix_refl _

/-- An attachment that is not refused gives a parent to a node that had none. -/
theorem keeps_attach (forest : Forest) (child parent : NodeId) :
    forest.Keeps (forest.attach child parent) := by
  by_cases hcan : forest.CanAttach child parent
  · refine ⟨by simp, fun id _ => node?_attach child parent id, ?_, ?_, by simp⟩
    · intro c p hp
      -- the node that is attached had no parent to lose
      have hne : c ≠ child := by
        rintro rfl
        simp [hcan.2.2.2] at hp
      rw [parent?_attach hcan, if_neg hne, hp]
    · intro p
      rw [children_attach hcan]
      split
      · exact List.prefix_append _ _
      · exact List.prefix_refl _
  · rw [attach_of_not_canAttach hcan]
    exact .refl forest

theorem keeps_apply (forest : Forest) : ∀ operation, forest.Keeps (forest.apply operation)
  | .push node => keeps_push forest node
  | .attach child parent => keeps_attach forest child parent
  | .addRoot id => keeps_addRoot forest id

/-- Nothing that some operations built is changed by those that follow. -/
theorem keeps_build (operations more : List Operation) :
    (build operations).Keeps (build (operations ++ more)) := by
  induction more using List.reverseRecOn with
  | nil =>
    rw [List.append_nil]
    exact .refl _
  | append_singleton more operation ih =>
    rw [← List.append_assoc, build_append_singleton]
    exact ih.trans (keeps_apply _ operation)

/-! ### Both together -/

/-- A node hangs in the air: it is there, without a parent and without children. -/
structure HangsFree (forest : Forest) (id : NodeId) (node : Node) : Prop where
  node?_eq : forest.node? id = some node
  parent?_eq : forest.parent? id = none
  children_eq : forest.children id = []

theorem hangsFree_push (forest : Forest) (node : Node) :
    (forest.push node).HangsFree forest.size node where
  node?_eq := by rw [node?_push, if_pos rfl]
  parent?_eq := by
    rw [parent?_push, Option.eq_none_iff_forall_ne_some]
    exact fun p hp => Nat.lt_irrefl _ (lt_size_of_parent? hp)
  children_eq := by rw [children_push, children_eq_nil_of_size_le (Nat.le_refl _)]

/-- **Every node of a built forest has a single owner, for good.** A parent lists a node exactly if
the node names it as its parent, and then once. A refused attachment changes nothing. A pushed node
gets the next number and no links. Whatever is done afterwards, numbers keep denoting the same nodes,
and no parent changes any more. -/
theorem singleOwner_and_keeps_build (operations : List Operation) :
    (build operations).SingleOwner ∧
      (∀ node, (build (operations ++ [.push node])).HangsFree (build operations).size node) ∧
      ∀ more, (build operations).Keeps (build (operations ++ more)) := by
  refine ⟨(grown_build operations).singleOwner, fun node => ?_, keeps_build operations⟩
  rw [build_append_singleton]
  exact hangsFree_push _ node

/-- A root that is attached, then attached again elsewhere: the second attachment is refused, and
the node stands below its first parent only. -/
example :
    let twice := build [.push (.named .file "a.ts"), .push (.named .directory "b"),
      .push (.named .directory "c"), .addRoot 0, .attach 0 1, .attach 0 2]
    twice.parent? 0 = some 1 ∧ twice.children 1 = [0] ∧ twice.children 2 = [] ∧
      twice.roots = [0] := by
  decide

end CodeOutline.Forest
