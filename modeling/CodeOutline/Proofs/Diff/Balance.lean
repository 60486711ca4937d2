import CodeOutline.Proofs.Diff.Patch
import CodeOutline.Proofs.Outline.Legality
import CodeOutline.Proofs.Snapshot.Links

/-!
# Accounting for nodes

Outlines and snapshots describe forests in which a walk comes to every node once, so every node of
them is compared. Every old node is then in a pair or removed. New nodes are counted by identities:
a new node that finds no partner is added only if nothing else accounts for its identity, so a
second function under the name of a function that is paired is passed over. Where no identity occurs
twice there are no such nodes, and the forests differ in size by what was added and removed.

## Main definitions

* `Source`: an outline or a snapshot
* `Diff.overlooked`: the new nodes that are passed over
* `Diff.Accounts`: the nodes of two forests are accounted for by pairs and a difference

## Main results

* `Forest.Rooted.map_id_entries`: every node is compared
* `Diff.exists_accounts_between`: the nodes of any two sources are accounted for
-/

namespace CodeOutline

/-! ### Sources of forests -/

/-- What describes a forest. -/
inductive Source where
  /-- an outline with levels that are so many blanks wide -/
  | outline (width : Nat) (text : String)
  | snapshot (facts : Snapshot)

/-- The forest that is described. -/
def Source.forest : Source → Forest
  | .outline width text => (Outline.ofText width text).forest
  | .snapshot facts => facts.forest

theorem Source.rooted_forest (source : Source) : source.forest.Rooted := by
  cases source with
  | outline width text => exact Outline.Reading.rooted_after _ _
  | snapshot facts => exact facts.rooted_forest

/-! ### Every node is compared -/

namespace Forest.Rooted

variable {forest : Forest} (h : forest.Rooted)
include h

/-- Every visited node has an entry. -/
theorem map_id_entries : forest.entries.map Entry.id = forest.preorder := by
  have hvisited : ∀ id ∈ forest.preorder, (forest.node? id).isSome := fun id hid =>
    node?_isSome_iff.2 (List.mem_range.1 (h.preorder_perm.mem_iff.1 hid))
  rw [entries, List.map_filterMap]
  -- from here on only the list of visited nodes matters, not that it is a walk
  revert hvisited
  induction forest.preorder with
  | nil => simp
  | cons id ids ih =>
    intro hvisited
    obtain ⟨node, hnode⟩ := Option.isSome_iff_exists.1 (hvisited id List.mem_cons_self)
    have hrest := ih fun other hother => hvisited other (List.mem_cons_of_mem _ hother)
    simpa [hnode] using hrest

theorem length_entries : forest.entries.length = forest.size := by
  rw [← List.length_map Entry.id, h.map_id_entries, h.length_preorder]

end Forest.Rooted

/-! ### Counting -/

namespace Diff

/-- The new entries that are passed over: they are in no pair, but another one of their identity is
in one. -/
def overlooked (new : List Entry) (pairs : List (Entry × Entry)) : List Entry :=
  new.filter fun b => b ∉ pairs.map Prod.snd ∧ b.identity ∈ pairs.map (·.2.identity)

/-- The nodes of two forests are accounted for by pairs that explain a difference: each of them is
compared, and the forests differ in size by what was added, what was removed and what was passed
over. -/
structure Accounts (options : DiffOptions) (old new : Forest) (pairs : List (Entry × Entry))
    (diff : Diff) : Prop extends Explains options old.entries new.entries pairs diff where
  old_compared : (old.entries.map Entry.id).Perm (List.range old.size)
  new_compared : (new.entries.map Entry.id).Perm (List.range new.size)
  size_sub_size : (new.size : Int) - old.size =
    diff.added.length - diff.removed.length + (overlooked new.entries pairs).length
  /-- the new nodes in no pair whose identity no paired node has -/
  added_eq_filter : diff.added = (new.entries.filter fun b =>
    b ∉ pairs.map Prod.snd ∧ b.identity ∉ pairs.map (·.2.identity)).map Entry.node
  overlooked_eq_nil : new.identities.Nodup → overlooked new.entries pairs = []

namespace Explains

variable {options : DiffOptions} {old new : List Entry} {pairs : List (Entry × Entry)} {diff : Diff}
  (h : Explains options old new pairs diff)
include h

/-- Every old entry is in a pair or removed. -/
theorem length_old (hold : (old.map Entry.id).Nodup) :
    old.length = pairs.length + diff.removed.length := by
  have hsub : pairs.map Prod.fst ⊆ old := by
    intro a ha
    obtain ⟨p, hp, rfl⟩ := List.mem_map.1 ha
    exact h.old_mem p hp
  have hcount := length_add_length_filter_notMem hold.of_map h.nodup_fst hsub
  rw [h.removed, List.length_map, ← hcount, List.length_map]

/-- Every new entry is in a pair, added or passed over. -/
theorem length_new (hnew : (new.map Entry.id).Nodup) :
    new.length = pairs.length + diff.added.length + (overlooked new pairs).length := by
  have hpaired := h.new_sublist.nodup hnew.of_map
  have hcount := length_add_length_filter_notMem hnew.of_map hpaired h.new_sublist.subset
  -- what is in no pair is told apart by whether something else accounts for its identity
  have hsplit := List.length_eq_length_filter_add (l := new.filter (· ∉ pairs.map Prod.snd))
    fun b => b.identity ∈ pairs.map (·.2.identity)
  rw [← hcount, hsplit, h.added_eq, List.length_map, List.length_map, overlooked,
    List.filter_filter, List.filter_filter]
  have hcomm : ∀ (b : Entry) (p : Prop), p ∧ b ∉ pairs.map Prod.snd ↔ b ∉ pairs.map Prod.snd ∧ p :=
    fun _ _ => And.comm
  simp only [← decide_not, ← Bool.decide_and, hcomm]
  omega

theorem overlooked_eq_nil (hunique : (new.map Entry.identity).Nodup) :
    overlooked new pairs = [] := by
  rw [overlooked, List.filter_eq_nil_iff]
  intro b hb hfree
  rw [decide_eq_true_iff] at hfree
  exact hfree.1 (h.mem_paired_of_identity_mem hunique hb hfree.2)

end Explains

/-- Where every node has one place, pairs account for all nodes. -/
theorem Explains.accounts {options : DiffOptions} {old new : Forest}
    {pairs : List (Entry × Entry)} {diff : Diff}
    (h : Explains options old.entries new.entries pairs diff) (hold : old.Rooted)
    (hnew : new.Rooted) : Accounts options old new pairs diff where
  toExplains := h
  old_compared := hold.map_id_entries ▸ hold.preorder_perm
  new_compared := hnew.map_id_entries ▸ hnew.preorder_perm
  size_sub_size := by
    have holdLength := h.length_old (Forest.nodup_entries_ids hold.nodup_preorder)
    have hnewLength := h.length_new (Forest.nodup_entries_ids hnew.nodup_preorder)
    rw [hold.length_entries] at holdLength
    rw [hnew.length_entries] at hnewLength
    omega
  added_eq_filter := h.added_eq
  overlooked_eq_nil := h.overlooked_eq_nil

/-- **The nodes of any two outlines or snapshots are accounted for**, however their difference is
taken. -/
theorem exists_accounts_between (options : DiffOptions) (old new : Source) :
    ∃ pairs, Accounts options old.forest new.forest pairs
      (between options old.forest new.forest) := by
  have hold := old.rooted_forest
  have hnew := new.rooted_forest
  have h := explains_pairs (Forest.nodup_entries_ids hold.nodup_preorder)
    (Forest.nodup_entries_ids hnew.nodup_preorder) options
  exact ⟨_, h.accounts hold hnew⟩

/-- A second function under the name of the first is passed over, so the sizes alone are not
balanced. -/
theorem unbalanced_second_function :
    let old := (Outline.ofText 2 "a.ts\n  $foo()\n").forest
    let new := (Outline.ofText 2 "a.ts\n  $foo()\n  $foo()\n").forest
    let diff := between .standard old new
    (new.size : Int) - old.size ≠ diff.added.length - diff.removed.length := by
  decide +kernel

end Diff

end CodeOutline
