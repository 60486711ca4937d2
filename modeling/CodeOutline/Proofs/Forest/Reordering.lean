import CodeOutline.Proofs.Forest.Walk

/-!
# Forests in another order

The roots of a forest, and the children of each node, can be put in another order without touching a
node or a parent. A walk then comes to the same nodes in another order, and hardly any order is
excluded: a node can be brought in front of all others but the nodes above it, and a node without
children behind all others.

## Main definitions

* `Forest.Reorders`: a forest is another one with its roots and children in another order
* `Forest.rearrange`: a forest in another order
* `Forest.toFront`, `Forest.toBack`: orders in which a node comes early or late

## Main results

* `Forest.Reorders.preorder_perm`: a walk comes to the same nodes
* `Forest.exists_preorder_toFront`: only nodes with children stand in front of a node brought forward
* `Forest.getLast?_preorder_toBack`: a node without children that is put back comes last
-/

namespace CodeOutline.Forest

variable {forest other : Forest} {order : List NodeId → List NodeId}
  {ids way visited pending : List NodeId} {id a : Nat}

/-- A forest with the nodes and the parents of another one. Only the roots, and the children of each
node, may stand in another order. -/
structure Reorders (forest other : Forest) : Prop where
  node?_eq : ∀ id : Nat, other.node? id = forest.node? id
  parent?_eq : ∀ id : Nat, other.parent? id = forest.parent? id
  children_perm : ∀ id : Nat, (other.children id).Perm (forest.children id)
  roots_perm : other.roots.Perm forest.roots

namespace Reorders

variable (h : forest.Reorders other)
include h

theorem size_eq : other.size = forest.size := by
  have hlt : ∀ id : Nat, id < other.size ↔ id < forest.size := fun id => by
    rw [← node?_isSome_iff, h.node?_eq, node?_isSome_iff]
  have hother := hlt other.size
  have hforest := hlt forest.size
  omega

theorem rooted (hrooted : forest.Rooted) : other.Rooted where
  mem_children_iff p c := by
    rw [(h.children_perm p).mem_iff, h.parent?_eq, hrooted.mem_children_iff]
  nodup_children p := (h.children_perm p).nodup_iff.2 (hrooted.nodup_children p)
  nodup_roots := h.roots_perm.nodup_iff.2 hrooted.nodup_roots
  parentsFirst id p hp := hrooted.parentsFirst id p (by rwa [← h.parent?_eq])
  mem_roots_iff id := by
    rw [h.roots_perm.mem_iff, hrooted.mem_roots_iff, h.size_eq, h.parent?_eq]

/-- A walk comes to the same nodes. -/
theorem preorder_perm (hrooted : forest.Rooted) : other.preorder.Perm forest.preorder := by
  have hwalk := (h.rooted hrooted).preorder_perm
  rw [h.size_eq] at hwalk
  exact hwalk.trans hrooted.preorder_perm.symm

end Reorders

/-! ### Putting a forest in another order -/

/-- The forest with its roots and all lists of children put in another order. -/
def rearrange (order : List NodeId → List NodeId) (forest : Forest) : Forest where
  slots := forest.slots.map fun slot => { slot with children := order slot.children }
  roots := order forest.roots

theorem reorders_rearrange (forest : Forest) (horder : ∀ ids, (order ids).Perm ids) :
    forest.Reorders (forest.rearrange order) where
  node?_eq id := by simp [node?, rearrange, Function.comp_def]
  parent?_eq id := by
    simp only [parent?, rearrange, Array.getElem?_map, Option.bind_map]
    rfl
  children_perm id := by
    cases hslot : forest.slots[id]? with
    | none => simp [children, rearrange, hslot]
    | some slot => simpa [children, rearrange, hslot] using horder slot.children
  roots_perm := horder forest.roots

theorem children_rearrange (horder : ∀ ids, (order ids).Perm ids) (id : Nat) :
    (forest.rearrange order).children id = order (forest.children id) := by
  have hnil : order [] = [] := (horder []).eq_nil
  cases hslot : forest.slots[id]? with
  | none => simp [children, rearrange, hslot, hnil]
  | some slot => simp [children, rearrange, hslot]

/-! ### The way up from a node -/

/-- A node and the nodes above it. -/
def wayUp (forest : Forest) (id : NodeId) : List NodeId :=
  id :: forest.ancestors id

/-- Every node above a node has a child on the way up. -/
theorem Rooted.exists_child_mem_wayUp (h : forest.Rooted) (id : Nat) :
    ∀ a ∈ forest.wayUp id, a ≠ id → ∃ c ∈ forest.children a, c ∈ forest.wayUp id := by
  induction id using Nat.strong_induction_on with
  | _ id ih =>
    intro a ha hne
    cases hparent : forest.parent? id with
    | none =>
      rw [wayUp, ancestors_of_root hparent, List.mem_singleton] at ha
      exact absurd ha hne
    | some p =>
      have hway : forest.wayUp id = id :: forest.wayUp p := by
        rw [wayUp, h.parentsFirst.ancestors_of_parent? hparent, ← wayUp]
      rw [hway] at ha ⊢
      have ha : a ∈ forest.wayUp p := (List.mem_cons.1 ha).resolve_left hne
      by_cases hap : a = p
      · subst hap
        exact ⟨id, (h.mem_children_iff a id).2 hparent, List.mem_cons_self⟩
      · obtain ⟨c, hc, hcway⟩ := ih p (h.parentsFirst id p hparent) a ha hap
        exact ⟨c, hc, List.mem_cons_of_mem _ hcway⟩

/-- The way up ends in a root. -/
theorem Rooted.exists_root_mem_wayUp (h : forest.Rooted) (id : Nat) (hid : id < forest.size) :
    ∃ r ∈ forest.roots, r ∈ forest.wayUp id := by
  induction id using Nat.strong_induction_on with
  | _ id ih =>
    cases hparent : forest.parent? id with
    | none => exact ⟨id, (h.mem_roots_iff id).2 ⟨hid, hparent⟩, List.mem_cons_self⟩
    | some p =>
      have hp := h.parentsFirst id p hparent
      obtain ⟨r, hr, hway⟩ := ih p hp (Nat.lt_trans hp hid)
      refine ⟨r, hr, ?_⟩
      rw [wayUp, h.parentsFirst.ancestors_of_parent? hparent, ← wayUp]
      exact List.mem_cons_of_mem _ hway

/-! ### Walks along a way -/

@[simp] theorem walk_nil (forest : Forest) (steps : Nat) : forest.walk steps [] = [] := by
  cases steps <;> rfl

/-- A walk without any steps left has nothing pending. -/
theorem Midway.pending_eq_nil (hmid : forest.Midway visited pending)
    (hsteps : forest.size ≤ visited.length) : pending = [] := by
  have hlength := hmid.subperm_range.length_le
  rw [List.length_append, List.length_range] at hlength
  exact List.length_eq_zero_iff.1 (by omega)

theorem Midway.enough_steps {steps : Nat} (hsteps : forest.size ≤ visited.length + (steps + 1)) :
    forest.size ≤ (visited ++ [id]).length + steps := by
  rw [List.length_append, List.length_singleton]
  omega

/-- A walk whose first pending node is on a way that goes on among the first children comes to the
end of the way, and on the way only to nodes with children. -/
theorem Midway.exists_walk_of_head? (h : forest.Rooted)
    (hway : ∀ a ∈ way, a ≠ id → ∃ c ∈ way, (forest.children a).head? = some c) (steps : Nat)
    (hmid : forest.Midway visited pending) (hsteps : forest.size ≤ visited.length + steps)
    (ha : a ∈ way) (hhead : pending.head? = some a) :
    ∃ before after, forest.walk steps pending = before ++ id :: after ∧
      ∀ b ∈ before, forest.children b ≠ [] := by
  induction steps generalizing visited pending a with
  | zero =>
    rw [hmid.pending_eq_nil hsteps] at hhead
    simp at hhead
  | succ steps ih =>
    obtain ⟨rest, rfl⟩ := List.head?_eq_some_iff.1 hhead
    by_cases hid : a = id
    · exact ⟨[], _, by rw [walk, hid, List.nil_append], by simp⟩
    · -- the children are the next to be visited, and the way goes on at the first of them
      obtain ⟨c, hc, hchild⟩ := hway a ha hid
      have hnext : (forest.children a ++ rest).head? = some c := by simp [hchild]
      obtain ⟨before, after, hwalk, hbefore⟩ := ih (hmid.step h) (enough_steps hsteps) hc hnext
      refine ⟨a :: before, after, by rw [walk, hwalk, List.cons_append], ?_⟩
      intro b hb
      rcases List.mem_cons.1 hb with rfl | hb
      · rintro hnil
        simp [hnil] at hchild
      · exact hbefore b hb

/-- A walk whose last pending node is on a way that goes on among the last children ends at the end
of the way, if that has no children. -/
theorem Midway.getLast?_walk (h : forest.Rooted) (hleaf : forest.children id = [])
    (hway : ∀ a ∈ way, a ≠ id → ∃ c ∈ way, (forest.children a).getLast? = some c) (steps : Nat)
    (hmid : forest.Midway visited pending) (hsteps : forest.size ≤ visited.length + steps)
    (ha : a ∈ way) (hlast : pending.getLast? = some a) :
    (forest.walk steps pending).getLast? = some id := by
  induction steps generalizing visited pending a with
  | zero =>
    rw [hmid.pending_eq_nil hsteps] at hlast
    simp at hlast
  | succ steps ih =>
    cases pending with
    | nil => simp at hlast
    | cons first rest =>
      rw [walk, List.getLast?_cons]
      cases rest with
      | nil =>
        obtain rfl : first = a := by simpa using hlast
        by_cases hid : first = id
        · subst hid
          simp [hleaf]
        · -- the way goes on among the children
          obtain ⟨c, hc, hchild⟩ := hway first ha hid
          rw [ih (hmid.step h) (enough_steps hsteps) hc (by simpa using hchild)]
          rfl
      | cons second rest =>
        -- the children come in front of what is pending, so the last pending node stays the last
        have hnext : (forest.children first ++ second :: rest).getLast? = some a := by
          rw [List.getLast?_append, ← hlast, List.getLast?_cons_cons]
          simp [List.getLast?_cons]
        rw [ih (hmid.step h) (enough_steps hsteps) ha hnext]
        rfl

/-! ### Bringing a node forward or putting it back -/

/-- The nodes that are on a way come first. -/
def toFront (way ids : List NodeId) : List NodeId :=
  ids.filter (· ∈ way) ++ ids.filter (· ∉ way)

/-- The nodes that are on a way come last. -/
def toBack (way ids : List NodeId) : List NodeId :=
  ids.filter (· ∉ way) ++ ids.filter (· ∈ way)

theorem toFront_perm (way ids : List NodeId) : (toFront way ids).Perm ids := by
  simpa [toFront] using List.filter_append_perm (· ∈ way) ids

theorem toBack_perm (way ids : List NodeId) : (toBack way ids).Perm ids :=
  List.perm_append_comm.trans (toFront_perm way ids)

theorem reorders_toFront (forest : Forest) (way : List NodeId) :
    forest.Reorders (forest.rearrange (toFront way)) :=
  reorders_rearrange forest (toFront_perm way)

theorem reorders_toBack (forest : Forest) (way : List NodeId) :
    forest.Reorders (forest.rearrange (toBack way)) :=
  reorders_rearrange forest (toBack_perm way)

theorem exists_head?_toFront (ha : a ∈ ids) (hway : a ∈ way) :
    ∃ c ∈ way, (toFront way ids).head? = some c := by
  have hmem : a ∈ ids.filter (· ∈ way) := by simp [ha, hway]
  obtain ⟨c, rest, hfilter⟩ := List.exists_cons_of_ne_nil (List.ne_nil_of_mem hmem)
  have hc : c ∈ ids.filter (· ∈ way) := by simp [hfilter]
  exact ⟨c, by simpa using List.of_mem_filter hc, by simp [toFront, hfilter]⟩

theorem exists_getLast?_toBack (ha : a ∈ ids) (hway : a ∈ way) :
    ∃ c ∈ way, (toBack way ids).getLast? = some c := by
  have hmem : a ∈ ids.filter (· ∈ way) := by simp [ha, hway]
  have hne := List.ne_nil_of_mem hmem
  have hc := (List.mem_filter.1 (List.getLast_mem hne)).2
  refine ⟨_, of_decide_eq_true hc, ?_⟩
  rw [toBack, List.getLast?_append, List.getLast?_eq_some_getLast hne]
  rfl

/-- Brought forward, a node has only nodes with children in front of it. -/
theorem Rooted.exists_preorder_toFront (h : forest.Rooted) (hid : id < forest.size) :
    ∃ before after,
      (forest.rearrange (toFront (forest.wayUp id))).preorder = before ++ id :: after ∧
        ∀ b ∈ before, forest.children b ≠ [] := by
  have horder := toFront_perm (forest.wayUp id)
  have hrooted := (reorders_toFront forest (forest.wayUp id)).rooted h
  obtain ⟨r, hr, hrway⟩ := h.exists_root_mem_wayUp id hid
  obtain ⟨c, hc, hhead⟩ := exists_head?_toFront hr hrway
  have hway : ∀ a ∈ forest.wayUp id, a ≠ id → ∃ c ∈ forest.wayUp id,
      ((forest.rearrange (toFront (forest.wayUp id))).children a).head? = some c := by
    intro a ha hne
    obtain ⟨child, hchild, hchildWay⟩ := h.exists_child_mem_wayUp id a ha hne
    rw [children_rearrange horder]
    exact exists_head?_toFront hchild hchildWay
  obtain ⟨before, after, hwalk, hbefore⟩ := (Midway.start hrooted).exists_walk_of_head? hrooted hway
    _ (by simpa using hrooted.size_le_bound) hc hhead
  refine ⟨before, after, hwalk, fun b hb hnil => hbefore b hb ?_⟩
  rw [children_rearrange horder, hnil]
  rfl

/-- Put back, a node without children comes last. -/
theorem Rooted.getLast?_preorder_toBack (h : forest.Rooted) (hid : id < forest.size)
    (hleaf : forest.children id = []) :
    (forest.rearrange (toBack (forest.wayUp id))).preorder.getLast? = some id := by
  have horder := toBack_perm (forest.wayUp id)
  have hrooted := (reorders_toBack forest (forest.wayUp id)).rooted h
  obtain ⟨r, hr, hrway⟩ := h.exists_root_mem_wayUp id hid
  obtain ⟨c, hc, hlast⟩ := exists_getLast?_toBack hr hrway
  have hway : ∀ a ∈ forest.wayUp id, a ≠ id → ∃ c ∈ forest.wayUp id,
      ((forest.rearrange (toBack (forest.wayUp id))).children a).getLast? = some c := by
    intro a ha hne
    obtain ⟨child, hchild, hchildWay⟩ := h.exists_child_mem_wayUp id a ha hne
    rw [children_rearrange horder]
    exact exists_getLast?_toBack hchild hchildWay
  have hleaf' : (forest.rearrange (toBack (forest.wayUp id))).children id = [] := by
    rw [children_rearrange horder, hleaf]
    rfl
  exact (Midway.start hrooted).getLast?_walk hrooted hleaf' hway _
    (by simpa using hrooted.size_le_bound) hc hlast

end CodeOutline.Forest
