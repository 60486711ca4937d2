import Mathlib.Logic.Relation
import CodeOutline.Proofs.Forest.Operations

/-!
# Rings

No node is ever given a second parent, but this alone does not keep rings out of a forest: a node
without a parent may be attached below a node that stands below it already. Such an attachment is the
only way to close a ring, and a ring is never opened again. So the forest that some operations build
has no ring exactly if none of them is such an attachment.

The ways up and down a forest are stated here without a bound on their steps, by what they pass
before they come to an end. Where there is no ring they all come to an end, and the bounds that the
functions of a forest carry do not cut them short. On a ring there is no end to come to.

## Main definitions

* `Forest.IsChild`, `Forest.Acyclic`: no node stands below itself
* `Forest.ClosesRing`: an operation puts a node below one that stands below it
* `Forest.Climbs`, `Forest.Walks`: a way up and a walk down that come to an end
* `Forest.WalksEnd`: all of them do, and the functions of a forest return what they pass

## Main results

* `Forest.acyclic_apply_iff`, `Forest.acyclic_build_iff`: what closes a ring
* `Forest.Climbs.not_transGen`, `Forest.Walks.not_transGen`: what comes to an end meets no ring
* `Forest.Grown.walksEnd`: without a ring everything comes to an end
* `Forest.acyclic_and_walksEnd_build_iff`: both together
-/

namespace CodeOutline.Forest

open Relation

variable {forest : Forest} {way pending visited : List NodeId} {id child parent a b c p : Nat}

/-! ### Nodes below themselves -/

/-- One node is the parent of another one. -/
def IsChild (forest : Forest) (child parent : NodeId) : Prop :=
  forest.parent? child = some parent

instance : Decidable (forest.IsChild child parent) :=
  inferInstanceAs (Decidable (_ = _))

@[simp] theorem isChild_push (node : Node) : (forest.push node).IsChild = forest.IsChild := by
  funext child parent
  rw [IsChild, parent?_push, IsChild]

@[simp] theorem isChild_addRoot (root : NodeId) :
    (forest.addRoot root).IsChild = forest.IsChild := by
  funext child parent
  rw [IsChild, parent?_addRoot, IsChild]

/-- No node stands below itself. -/
def Acyclic (forest : Forest) : Prop :=
  ∀ id, ¬ TransGen forest.IsChild id id

/-- There is one way up from a node. -/
theorem rightUnique_isChild (forest : Forest) : Relator.RightUnique forest.IsChild := by
  intro c p q hp hq
  exact Option.some.inj (hp.symm.trans hq)

theorem acyclic_empty : Acyclic .empty := by
  intro id hring
  obtain ⟨p, hp, -⟩ := TransGen.head'_iff.1 hring
  simp [IsChild] at hp

/-- Where every parent was there before its child, the numbers fall on the way up. -/
theorem ParentsFirst.acyclic (h : forest.ParentsFirst) : forest.Acyclic := by
  intro id hring
  have hfall : TransGen (· > ·) id id := TransGen.mono (fun c p hp => h c p hp) _ _ hring
  rw [transGen_eq_self] at hfall
  exact Nat.lt_irrefl id hfall

/-- An operation puts a node below one that stands below it. -/
def ClosesRing (forest : Forest) : Operation → Prop
  | .attach child parent => forest.CanAttach child parent ∧ TransGen forest.IsChild parent child
  | .push _ | .addRoot _ => False

theorem isChild_attach_iff (h : forest.CanAttach child parent) :
    (forest.attach child parent).IsChild a b ↔ forest.IsChild a b ∨ a = child ∧ b = parent := by
  rw [IsChild, parent?_attach h, IsChild]
  by_cases ha : a = child
  · subst ha
    simp [h.2.2.2, eq_comm]
  · simp [ha]

/-- A way up that leads over the new link goes up to it and on from there. -/
theorem transGen_attach (h : forest.CanAttach child parent)
    (hway : TransGen (forest.attach child parent).IsChild a b) :
    TransGen forest.IsChild a b ∨
      ReflTransGen forest.IsChild a child ∧ ReflTransGen forest.IsChild parent b := by
  induction hway with
  | single hstep =>
    rcases (isChild_attach_iff h).1 hstep with hold | ⟨rfl, rfl⟩
    · exact Or.inl (.single hold)
    · exact Or.inr ⟨.refl, .refl⟩
  | tail _ hstep ih =>
    rcases (isChild_attach_iff h).1 hstep with hold | ⟨rfl, rfl⟩
    · exact ih.imp (·.tail hold) fun hway => ⟨hway.1, hway.2.tail hold⟩
    · rcases ih with hway | ⟨hway, -⟩
      · exact Or.inr ⟨hway.to_reflTransGen, .refl⟩
      · exact Or.inr ⟨hway, .refl⟩

theorem acyclic_attach_iff (h : forest.CanAttach child parent) :
    (forest.attach child parent).Acyclic ↔
      forest.Acyclic ∧ ¬ TransGen forest.IsChild parent child := by
  have hle : TransGen forest.IsChild ≤ TransGen (forest.attach child parent).IsChild :=
    TransGen.mono fun _ _ hold => (isChild_attach_iff h).2 (Or.inl hold)
  constructor
  · intro hacyclic
    refine ⟨fun id hring => hacyclic id (hle _ _ hring), fun hway => ?_⟩
    -- from the parent up to the child, and over the new link back
    exact hacyclic parent ((hle _ _ hway).tail ((isChild_attach_iff h).2 (Or.inr ⟨rfl, rfl⟩)))
  · rintro ⟨hacyclic, hbelow⟩ id hring
    rcases transGen_attach h hring with hold | ⟨hup, hon⟩
    · exact hacyclic id hold
    · rcases reflTransGen_iff_eq_or_transGen.1 (hon.trans hup) with heq | hway
      · exact h.2.2.1 heq
      · exact hbelow hway

/-- An operation leaves a forest without rings if there was none and it does not close one. -/
theorem acyclic_apply_iff (forest : Forest) (operation : Operation) :
    (forest.apply operation).Acyclic ↔ forest.Acyclic ∧ ¬ forest.ClosesRing operation := by
  cases operation with
  | push node => simp [apply, Acyclic, ClosesRing]
  | addRoot id => simp [apply, Acyclic, ClosesRing]
  | attach child parent =>
    by_cases hcan : forest.CanAttach child parent
    · simp [apply, ClosesRing, acyclic_attach_iff hcan, hcan]
    · simp [apply, ClosesRing, attach_of_not_canAttach hcan, hcan]

/-- A built forest is without rings if no operation closed one. -/
theorem acyclic_build_iff (operations : List Operation) :
    (build operations).Acyclic ↔
      ∀ before operation, before ++ [operation] <+: operations →
        ¬ (build before).ClosesRing operation :=
  build_iff acyclic_empty (fun forest operation _ => acyclic_apply_iff forest operation) operations

/-! ### Ways that come to an end -/

/-- The way up from a node passes these nodes, and ends at one without a parent. -/
inductive Climbs (forest : Forest) : NodeId → List NodeId → Prop
  | top {id : NodeId} (htop : forest.parent? id = none) : Climbs forest id []
  | up {id p : NodeId} {way : List NodeId} (hparent : forest.parent? id = some p)
      (hway : Climbs forest p way) : Climbs forest id (p :: way)

/-- The walk that visits the first pending node, then its children and then the others, visits these
nodes until none is pending any more. -/
inductive Walks (forest : Forest) : List NodeId → List NodeId → Prop
  | done : Walks forest [] []
  | visit {id : NodeId} {pending visited : List NodeId}
      (hrest : Walks forest (forest.children id ++ pending) visited) :
      Walks forest (id :: pending) (id :: visited)

theorem Climbs.unique {way' : List NodeId} (h : forest.Climbs id way)
    (h' : forest.Climbs id way') : way = way' := by
  induction h generalizing way' with
  | top htop =>
    cases h' with
    | top => rfl
    | up hparent => simp [htop] at hparent
  | up hparent _ ih =>
    cases h' with
    | top htop => simp [htop] at hparent
    | up hparent' hway' =>
      obtain rfl := rightUnique_isChild forest hparent hparent'
      rw [ih hway']

/-- No way up that comes to an end begins on a ring. -/
theorem Climbs.not_transGen (h : forest.Climbs id way) : ¬ TransGen forest.IsChild id id := by
  induction h with
  | top htop =>
    intro hring
    obtain ⟨p, hp, -⟩ := TransGen.head'_iff.1 hring
    simp [IsChild, htop] at hp
  | up hparent _ ih =>
    intro hring
    -- the ring leads on over the parent, so the parent is on it as well
    obtain ⟨q, hq, hback⟩ := TransGen.head'_iff.1 hring
    obtain rfl := rightUnique_isChild forest hq hparent
    exact ih (TransGen.tail' hback hparent)

/-- No walk that comes to an end has a node of a ring before it. -/
theorem Walks.not_transGen (hforest : forest.Linked) (h : forest.Walks pending visited) :
    ∀ a ∈ pending, ¬ TransGen forest.IsChild a a := by
  induction h with
  | done => simp
  | @visit id pending visited _ ih =>
    intro a ha hring
    rcases List.mem_cons.1 ha with rfl | ha
    · -- the ring comes up to the visited node from one of its children
      obtain ⟨c, hway, hc⟩ := TransGen.tail'_iff.1 hring
      have hmem : c ∈ forest.children a := (hforest.mem_children_iff a c).2 hc
      exact ih c (List.mem_append_left _ hmem) (TransGen.head' hc hway)
    · exact ih a (List.mem_append_right _ ha) hring

/-! ### Up -/

/-- A way that is shorter than its bound was not cut short. -/
theorem climbs_climb {steps : Nat} (h : (forest.climb steps id).length < steps) :
    forest.Climbs id (forest.climb steps id) := by
  induction steps generalizing id with
  | zero => simp at h
  | succ steps ih =>
    cases hparent : forest.parent? id with
    | none =>
      simp only [climb, hparent]
      exact .top hparent
    | some p =>
      simp only [climb, hparent, List.length_cons] at h ⊢
      exact .up hparent (ih (by omega))

theorem transGen_of_mem_climb {steps : Nat} (h : a ∈ forest.climb steps id) :
    TransGen forest.IsChild id a := by
  induction steps generalizing id with
  | zero => simp [climb] at h
  | succ steps ih =>
    cases hparent : forest.parent? id with
    | none => simp [climb, hparent] at h
    | some p =>
      simp only [climb, hparent] at h
      rcases List.mem_cons.1 h with rfl | h
      · exact .single hparent
      · exact .head hparent (ih h)

/-- Without a ring, no way up passes a node twice. -/
theorem Acyclic.nodup_climb (h : forest.Acyclic) (steps : Nat) (id : NodeId) :
    (id :: forest.climb steps id).Nodup := by
  induction steps generalizing id with
  | zero => simp [climb]
  | succ steps ih =>
    refine List.nodup_cons.2 ⟨fun hmem => h id (transGen_of_mem_climb hmem), ?_⟩
    cases hparent : forest.parent? id with
    | none => simp [climb, hparent]
    | some p =>
      simp only [climb, hparent]
      exact ih p

theorem Grown.climbs_ancestors (h : forest.Grown) (hacyclic : forest.Acyclic) (id : NodeId) :
    forest.Climbs id (forest.ancestors id) := by
  by_cases hid : id < forest.size
  · have hsub : id :: forest.climb forest.size id ⊆ List.range forest.size := by
      intro a ha
      rw [List.mem_range]
      rcases List.mem_cons.1 ha with rfl | ha
      · exact hid
      · obtain ⟨c, -, hc⟩ := TransGen.tail'_iff.1 (transGen_of_mem_climb ha)
        exact h.parent_lt_size hc
    -- the way and the node it starts from are different nodes, so one step is left over
    have hlength := (List.subperm_of_subset (hacyclic.nodup_climb _ id) hsub).length_le
    rw [List.length_cons, List.length_range] at hlength
    exact climbs_climb hlength
  · have htop : forest.parent? id = none := by
      cases hparent : forest.parent? id with
      | none => rfl
      | some p => exact absurd (lt_size_of_parent? hparent) hid
    rw [ancestors_of_root htop]
    exact .top htop

/-! ### Down -/

open Classical in
/-- The nodes that stand below a node, and the node itself. -/
noncomputable def below (forest : Forest) (id : NodeId) : List NodeId :=
  (List.range forest.size).filter fun a => ReflTransGen forest.IsChild a id

theorem mem_below : a ∈ forest.below id ↔ a < forest.size ∧ ReflTransGen forest.IsChild a id := by
  simp only [below, List.mem_filter, List.mem_range, decide_eq_true_eq]

theorem nodup_below (forest : Forest) (id : NodeId) : (forest.below id).Nodup :=
  List.nodup_range.filter _

theorem length_below_le (forest : Forest) (id : NodeId) :
    (forest.below id).length ≤ forest.size :=
  Nat.le_trans (List.length_filter_le _ _) (Nat.le_of_eq List.length_range)

theorem length_flatMap_below_le (forest : Forest) (ids : List NodeId) :
    (ids.flatMap forest.below).length ≤ ids.length * forest.size := by
  induction ids with
  | nil => simp
  | cons id ids ih =>
    have hfirst := length_below_le forest id
    rw [List.flatMap_cons, List.length_append, List.length_cons, Nat.succ_mul]
    omega

/-- Without a ring, no child of a node stands below another one. -/
theorem Acyclic.eq_of_isChild (h : forest.Acyclic) (hb : forest.IsChild b p)
    (hc : forest.IsChild c p) (hway : ReflTransGen forest.IsChild b c) : b = c := by
  rcases hway.cases_head with heq | ⟨q, hq, hrest⟩
  · exact heq
  · obtain rfl := rightUnique_isChild forest hq hb
    exact absurd (TransGen.tail' hrest hc) (h q)

/-- Without a ring, nothing stands below two children of a node. -/
theorem Grown.nodup_flatMap_below (h : forest.Grown) (hacyclic : forest.Acyclic) (id : NodeId) :
    ((forest.children id).flatMap forest.below).Nodup := by
  refine List.nodup_flatMap.2 ⟨fun c _ => nodup_below forest c, ?_⟩
  refine (h.nodup_children id).imp_of_mem fun {b c} hb hc hne a hab hac => hne ?_
  have hb := (h.mem_children_iff id b).1 hb
  have hc := (h.mem_children_iff id c).1 hc
  -- the way up from a node below both leads over one of them to the other
  have hway := (mem_below.1 hab).2
  have hway' := (mem_below.1 hac).2
  rcases hway.total_of_right_unique (rightUnique_isChild forest) hway' with hbc | hcb
  · exact hacyclic.eq_of_isChild hb hc hbc
  · exact (hacyclic.eq_of_isChild hc hb hcb).symm

/-- Without a ring, what stands below a node is the node and what stands below its children. -/
theorem Grown.below_perm (h : forest.Grown) (hacyclic : forest.Acyclic) (hid : id < forest.size) :
    (forest.below id).Perm (id :: (forest.children id).flatMap forest.below) := by
  have hself : id ∉ (forest.children id).flatMap forest.below := by
    intro hmem
    obtain ⟨c, hc, hbelow⟩ := List.mem_flatMap.1 hmem
    exact hacyclic id (TransGen.tail' (mem_below.1 hbelow).2 ((h.mem_children_iff id c).1 hc))
  have hnodup := List.nodup_cons.2 ⟨hself, h.nodup_flatMap_below hacyclic id⟩
  apply (List.perm_ext_iff_of_nodup (nodup_below forest id) hnodup).2
  intro a
  rw [mem_below, List.mem_cons, List.mem_flatMap]
  constructor
  · rintro ⟨ha, hway⟩
    -- the way up from another node comes to a child in the end
    rcases ReflTransGen.cases_tail hway with rfl | ⟨c, hway, hc⟩
    · exact Or.inl rfl
    · exact Or.inr ⟨c, (h.mem_children_iff id c).2 hc, mem_below.2 ⟨ha, hway⟩⟩
  · rintro (rfl | ⟨c, hc, hbelow⟩)
    · exact ⟨hid, .refl⟩
    · obtain ⟨ha, hway⟩ := mem_below.1 hbelow
      exact ⟨ha, hway.tail ((h.mem_children_iff id c).1 hc)⟩

theorem Grown.length_below (h : forest.Grown) (hacyclic : forest.Acyclic) (hid : id < forest.size) :
    (forest.below id).length = ((forest.children id).flatMap forest.below).length + 1 := by
  rw [(h.below_perm hacyclic hid).length_eq, List.length_cons]

/-- A walk that has as many steps left as nodes stand below the pending ones visits them all. -/
theorem Grown.walks_walk (h : forest.Grown) (hacyclic : forest.Acyclic) (steps : Nat)
    (hpending : ∀ a ∈ pending, a < forest.size)
    (hsteps : (pending.flatMap forest.below).length ≤ steps) :
    forest.Walks pending (forest.walk steps pending) := by
  induction steps generalizing pending with
  | zero =>
    cases pending with
    | nil => exact .done
    | cons id pending =>
      have hbelow := h.length_below hacyclic (hpending id List.mem_cons_self)
      rw [List.flatMap_cons, List.length_append] at hsteps
      omega
  | succ steps ih =>
    cases pending with
    | nil => exact .done
    | cons id pending =>
      refine .visit (ih ?_ ?_)
      · intro a ha
        rcases List.mem_append.1 ha with ha | ha
        · exact h.lt_size_of_mem_children ha
        · exact hpending a (List.mem_cons_of_mem _ ha)
      · -- visiting a node leaves what stands below its children
        have hbelow := h.length_below hacyclic (hpending id List.mem_cons_self)
        rw [List.flatMap_cons, List.length_append] at hsteps
        rw [List.flatMap_append, List.length_append]
        omega

theorem Grown.walks_preorder (h : forest.Grown) (hacyclic : forest.Acyclic) :
    forest.Walks forest.roots forest.preorder :=
  h.walks_walk hacyclic _ h.lt_size_of_mem_roots (length_flatMap_below_le forest forest.roots)

/-! ### Everything comes to an end -/

/-- Every way up and the walk down from the roots come to an end, and the functions of a forest
return what they pass. -/
structure WalksEnd (forest : Forest) : Prop where
  ancestors : ∀ id, forest.Climbs id (forest.ancestors id)
  owningFile : ∀ id way, forest.Climbs id way →
    forest.owningFile? id = (id :: way).find? (forest.hasKind .file)
  containerPath : ∀ id way, forest.Climbs id way →
    forest.containerPath id = Path.join ((id :: way).reverse.filterMap forest.containerName?)
  preorder : forest.Walks forest.roots forest.preorder

theorem Grown.walksEnd (h : forest.Grown) (hacyclic : forest.Acyclic) : forest.WalksEnd where
  ancestors := h.climbs_ancestors hacyclic
  owningFile id way hway := by rw [hway.unique (h.climbs_ancestors hacyclic id), owningFile?]
  containerPath id way hway := by
    rw [hway.unique (h.climbs_ancestors hacyclic id), Forest.containerPath]
  preorder := h.walks_preorder hacyclic

/-- **A built forest is without rings, and every walk in it comes to an end, exactly if no node was
attached below one that stood below it.** -/
theorem acyclic_and_walksEnd_build_iff (operations : List Operation) :
    ((build operations).Acyclic ∧ (build operations).WalksEnd) ↔
      ∀ before operation, before ++ [operation] <+: operations →
        ¬ (build before).ClosesRing operation := by
  rw [← acyclic_build_iff]
  exact ⟨And.left, fun hacyclic => ⟨hacyclic, (grown_build operations).walksEnd hacyclic⟩⟩

/-- Two nodes are attached to each other, and one of them is a root: neither the way up from it nor
the walk down comes to an end. -/
theorem endless_ring :
    let ring := build [.push (.named .directory "a"), .push (.named .directory "b"), .addRoot 0,
      .attach 1 0, .attach 0 1]
    TransGen ring.IsChild 0 0 ∧ (∀ way, ¬ ring.Climbs 0 way) ∧
      ∀ visited, ¬ ring.Walks ring.roots visited := by
  intro ring
  have hup : ring.IsChild 0 1 := by decide
  have hback : ring.IsChild 1 0 := by decide
  have hring : TransGen ring.IsChild 0 0 := .head hup (.single hback)
  have hroot : 0 ∈ ring.roots := by decide
  exact ⟨hring, fun way hway => hway.not_transGen hring, fun visited hwalk =>
    hwalk.not_transGen (grown_build _).toLinked 0 hroot hring⟩

end CodeOutline.Forest
