import CodeOutline.Proofs.Forest.Walk
import CodeOutline.Proofs.Snapshot.Growth

/-!
# The links of a snapshot's forest

Every node of a snapshot's forest is put below one that is there already. At the end the nodes learn
what depends on them, which leaves the links alone. So the forest is linked in both directions like
that of an outline, and a walk comes to every node.

## Main results

* `Forest.Rooted.of_links`: forests with the same links
* `Snapshot.rooted_linkDependents`: what depends on nodes leaves links alone
* `Snapshot.rooted_forest`: the forest of a snapshot
-/

namespace CodeOutline

variable {forest other : Forest}

/-- What can be said of links does not depend on the nodes. -/
theorem Forest.Rooted.of_links (h : forest.Rooted) (hsize : other.size = forest.size)
    (hparent : ∀ id, other.parent? id = forest.parent? id)
    (hchildren : ∀ id, other.children id = forest.children id)
    (hroots : other.roots = forest.roots) : other.Rooted where
  mem_children_iff p c := by rw [hchildren, hparent, h.mem_children_iff]
  nodup_children p := by rw [hchildren]; exact h.nodup_children p
  nodup_roots := by rw [hroots]; exact h.nodup_roots
  parentsFirst id p hp := h.parentsFirst id p (by rwa [← hparent])
  mem_roots_iff id := by rw [hroots, hparent, hsize, h.mem_roots_iff]

namespace Snapshot

/-! ### Dependents leave links alone -/

@[simp] theorem size_linkDependents : (linkDependents forest).size = forest.size :=
  Array.size_map

@[simp] theorem parent?_linkDependents (id : NodeId) :
    (linkDependents forest).parent? id = forest.parent? id := by
  rw [Forest.parent?, linkDependents, Array.getElem?_map, Option.bind_map, Forest.parent?]
  congr 1
  funext slot
  simp only [Function.comp_apply]
  split <;> rfl

@[simp] theorem children_linkDependents (id : NodeId) :
    (linkDependents forest).children id = forest.children id := by
  rw [Forest.children, linkDependents, Array.getElem?_map, Option.map_map, Forest.children]
  congr 2
  funext slot
  simp only [Function.comp_apply]
  split <;> rfl

theorem rooted_linkDependents (h : forest.Rooted) : (linkDependents forest).Rooted :=
  h.of_links size_linkDependents parent?_linkDependents children_linkDependents rfl

/-- The links of a snapshot's forest agree. -/
theorem rooted_forest (snapshot : Snapshot) : snapshot.forest.Rooted := by
  rw [forest_eq]
  apply rooted_linkDependents
  apply bareForest_induction _ Forest.Rooted.empty
  intro forest node parent h _ hparent
  exact h.grow (lt_size_of_parent hparent)

end Snapshot

end CodeOutline
