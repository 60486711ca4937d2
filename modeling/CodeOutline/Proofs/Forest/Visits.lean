import Mathlib.Data.List.Pairwise
import CodeOutline.Proofs.Forest.Rings

/-!
# How often a walk comes to a node

A walk goes down from every root, so it comes to a node once for every root that stands above it,
counting the node itself if it is one. A node with a parent is never made a root. The other way
round nothing is refused: a root that is attached below another node gets a parent and stays a root.
If what it was attached to can be reached from a root as well, the walk comes to it twice, and to
everything below it.

So no root of a built forest has a parent exactly if no root was ever attached. A walk visits no
node twice under a weaker condition, that no root stands below another one.

## Main definitions

* `Forest.RootsOnTop`: no root has a parent
* `Forest.RootsApart`: no root stands below another one
* `Forest.AttachesRoot`: an operation gives a root a parent

## Main results

* `Forest.rootsOnTop_build_iff`: which operations give a root a parent
* `Forest.Grown.preorder_perm`: what a walk visits, and how often
* `Forest.Grown.nodup_preorder_iff`: when it visits no node twice
* `Forest.rootsOnTop_and_visits_build`: both together
* `Forest.attached_root_visited_twice`: a root that was attached
-/

namespace CodeOutline.Forest

open Relation

variable {forest : Forest} {pending visited : List NodeId} {child parent : Nat}

/-! ### Roots with a parent -/

/-- No root has a parent. -/
def RootsOnTop (forest : Forest) : Prop :=
  ∀ r ∈ forest.roots, forest.parent? r = none

instance (forest : Forest) : Decidable forest.RootsOnTop :=
  inferInstanceAs (Decidable (∀ r ∈ forest.roots, _))

/-- An operation gives a root a parent. -/
def AttachesRoot (forest : Forest) : Operation → Prop
  | .attach child parent => forest.CanAttach child parent ∧ child ∈ forest.roots
  | .push _ | .addRoot _ => False

theorem rootsOnTop_empty : RootsOnTop .empty := by
  simp [RootsOnTop]

theorem rootsOnTop_addRoot_iff (root : NodeId) :
    (forest.addRoot root).RootsOnTop ↔ forest.RootsOnTop := by
  by_cases hnew : root < forest.size ∧ forest.parent? root = none ∧ root ∉ forest.roots
  · -- what was made a root just now has no parent
    have hroots : (forest.addRoot root).roots = forest.roots ++ [root] := by
      rw [addRoot, if_pos hnew]
    simp [RootsOnTop, hroots, or_imp, forall_and, hnew.2.1]
  · rw [addRoot, if_neg hnew]

theorem rootsOnTop_attach_iff (h : forest.CanAttach child parent) :
    (forest.attach child parent).RootsOnTop ↔ forest.RootsOnTop ∧ child ∉ forest.roots := by
  simp only [RootsOnTop, roots_attach, parent?_attach h]
  constructor
  · intro htop
    have hchild : child ∉ forest.roots := fun hroot => by simpa using htop child hroot
    refine ⟨fun r hr => ?_, hchild⟩
    have hne : r ≠ child := ne_of_mem_of_not_mem hr hchild
    simpa [hne] using htop r hr
  · rintro ⟨htop, hchild⟩ r hr
    rw [if_neg (ne_of_mem_of_not_mem hr hchild)]
    exact htop r hr

/-- An operation leaves the roots without parents if they had none and it does not attach one. -/
theorem rootsOnTop_apply_iff (forest : Forest) (operation : Operation) :
    (forest.apply operation).RootsOnTop ↔
      forest.RootsOnTop ∧ ¬ forest.AttachesRoot operation := by
  cases operation with
  | push node => simp [apply, RootsOnTop, AttachesRoot]
  | addRoot id => simp [apply, AttachesRoot, rootsOnTop_addRoot_iff]
  | attach child parent =>
    by_cases hcan : forest.CanAttach child parent
    · simp [apply, AttachesRoot, rootsOnTop_attach_iff hcan, hcan]
    · simp [apply, AttachesRoot, attach_of_not_canAttach hcan, hcan]

/-- No root of a built forest has a parent if none was attached. -/
theorem rootsOnTop_build_iff (operations : List Operation) :
    (build operations).RootsOnTop ↔
      ∀ before operation, before ++ [operation] <+: operations →
        ¬ (build before).AttachesRoot operation :=
  build_iff rootsOnTop_empty (fun forest operation _ => rootsOnTop_apply_iff forest operation)
    operations

/-! ### Visits -/

/-- No root stands below another one, nor below itself. -/
def RootsApart (forest : Forest) : Prop :=
  ∀ r ∈ forest.roots, ∀ s ∈ forest.roots, ¬ TransGen forest.IsChild r s

theorem RootsOnTop.rootsApart (h : forest.RootsOnTop) : forest.RootsApart := by
  intro r hr s _ hway
  obtain ⟨p, hp, -⟩ := TransGen.head'_iff.1 hway
  simp [IsChild, h r hr] at hp

/-- A walk visits what stands below the pending nodes, once for each of them. -/
theorem Walks.perm (h : forest.Grown) (hacyclic : forest.Acyclic)
    (hwalk : forest.Walks pending visited) (hpending : ∀ a ∈ pending, a < forest.size) :
    visited.Perm (pending.flatMap forest.below) := by
  induction hwalk with
  | done => simp
  | @visit id pending visited _ ih =>
    have hnext : ∀ a ∈ forest.children id ++ pending, a < forest.size := by
      intro a ha
      rcases List.mem_append.1 ha with ha | ha
      · exact h.lt_size_of_mem_children ha
      · exact hpending a (List.mem_cons_of_mem _ ha)
    have hrest := ih hnext
    rw [List.flatMap_append] at hrest
    -- the visited node is the one below which its children stand
    have hbelow := h.below_perm hacyclic (hpending id List.mem_cons_self)
    exact (hrest.cons id).trans (hbelow.symm.append_right _)

namespace Grown

variable (h : forest.Grown) (hacyclic : forest.Acyclic)
include h hacyclic

/-- The walk from the roots visits a node once for every root at it or above it. -/
theorem preorder_perm : forest.preorder.Perm (forest.roots.flatMap forest.below) :=
  (h.walks_preorder hacyclic).perm h hacyclic h.lt_size_of_mem_roots

theorem nodup_preorder_iff : forest.preorder.Nodup ↔ forest.RootsApart := by
  rw [(h.preorder_perm hacyclic).nodup_iff, List.nodup_flatMap]
  constructor
  · rintro ⟨-, hapart⟩ r hr s hs hway
    have hne : r ≠ s := fun heq => hacyclic s (heq ▸ hway)
    have : Std.Symm (Function.onFun List.Disjoint forest.below) :=
      ⟨fun _ _ => List.disjoint_symm⟩
    -- the lower of the two roots stands below both
    have hlt := h.lt_size_of_mem_roots r hr
    exact hapart.forall hr hs hne (mem_below.2 ⟨hlt, .refl⟩)
      (mem_below.2 ⟨hlt, hway.to_reflTransGen⟩)
  · intro hapart
    refine ⟨fun r _ => nodup_below forest r, ?_⟩
    refine h.nodup_roots.pairwise_of_forall_ne fun r hr s hs hne a har has => ?_
    -- of two roots above one node, one stands below the other
    have hway := (mem_below.1 har).2
    have hway' := (mem_below.1 has).2
    rcases hway.total_of_right_unique (rightUnique_isChild forest) hway' with hrs | hsr
    · rcases reflTransGen_iff_eq_or_transGen.1 hrs with heq | hrs
      · exact hne heq.symm
      · exact hapart r hr s hs hrs
    · rcases reflTransGen_iff_eq_or_transGen.1 hsr with heq | hsr
      · exact hne heq
      · exact hapart s hs r hr hsr

theorem reachableCount_le (hapart : forest.RootsApart) : forest.reachableCount ≤ forest.size := by
  have hsub : forest.preorder ⊆ List.range forest.size := by
    intro a ha
    obtain ⟨r, -, hbelow⟩ := List.mem_flatMap.1 ((h.preorder_perm hacyclic).subset ha)
    exact List.mem_range.2 (mem_below.1 hbelow).1
  have hnodup := (h.nodup_preorder_iff hacyclic).2 hapart
  have hlength := (List.subperm_of_subset hnodup hsub).length_le
  rwa [List.length_range] at hlength

end Grown

/-- **In a built forest without rings, no root has a parent exactly if no root was attached.** The
walk from the roots visits a node once for every root at it or above it. So it visits none twice
exactly if no root stands below another one, as where no root has a parent, and then its visits are
no more than the nodes. -/
theorem rootsOnTop_and_visits_build (operations : List Operation)
    (hacyclic : (build operations).Acyclic) :
    let forest := build operations
    (forest.RootsOnTop ↔ ∀ before operation, before ++ [operation] <+: operations →
        ¬ (build before).AttachesRoot operation) ∧
      forest.preorder.Perm (forest.roots.flatMap forest.below) ∧
      (forest.preorder.Nodup ↔ forest.RootsApart) ∧
      (forest.RootsOnTop → forest.RootsApart) ∧
      (forest.RootsApart → forest.reachableCount ≤ forest.size) := by
  intro forest
  have hgrown : forest.Grown := grown_build operations
  exact ⟨rootsOnTop_build_iff operations, hgrown.preorder_perm hacyclic,
    hgrown.nodup_preorder_iff hacyclic, RootsOnTop.rootsApart, hgrown.reachableCount_le hacyclic⟩

/-- A root was attached below a node that hangs in the air. It has a parent, but the walk comes to
it only once. -/
theorem rootsOnTop_and_visits_build_air :
    let forest := build [.push (.named .directory "a"), .push (.named .file "b.ts"), .addRoot 1,
      .attach 1 0]
    forest.Acyclic ∧ ¬ forest.RootsOnTop ∧ forest.preorder.Nodup ∧
      forest.reachableCount ≤ forest.size := by
  intro forest
  have hfirst : forest.ParentsFirst := by decide
  obtain ⟨-, -, hnodup, -, hcount⟩ := rootsOnTop_and_visits_build _ hfirst.acyclic
  -- there is one root, and it does not stand below itself
  have hapart : forest.RootsApart := by
    have hroots : forest.roots = [1] := by decide
    intro r hr s hs
    rw [hroots, List.mem_singleton] at hr hs
    rw [hr, hs]
    exact hfirst.acyclic 1
  exact ⟨hfirst.acyclic, by decide, hnodup.2 hapart, hcount hapart⟩

/-- Two roots, one of which is then attached below the other: it has a parent, the walk comes to it
twice, and there are more visits than nodes. -/
theorem attached_root_visited_twice :
    let forest := build [.push (.named .directory "a"), .push (.named .file "b.ts"), .addRoot 0,
      .addRoot 1, .attach 1 0]
    forest.Acyclic ∧ ¬ forest.RootsOnTop ∧ ¬ forest.preorder.Nodup ∧
      forest.size < forest.reachableCount := by
  intro forest
  have hfirst : forest.ParentsFirst := by decide
  exact ⟨hfirst.acyclic, by decide, by decide, by decide⟩

end CodeOutline.Forest
