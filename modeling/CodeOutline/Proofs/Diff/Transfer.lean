import CodeOutline.Proofs.Diff.Leftovers
import CodeOutline.Proofs.Diff.Patch

/-!
# Content that has one holder on each side

Pairing by content is first come, first served, so in general it depends on everything else in the
two forests what becomes of a node. It does not where its content has one holder on each side, under
two identities that nothing else on its side has and the other side does not know. Then the two
holders are paired, and the relocation from one to the other is all that a difference says about
either identity, whatever else has changed.

## Main definitions

* `Diff.Transfers`: a content goes from its one holder to its one holder
* `Diff.OnlyRelocates`: a difference says nothing else about the two ends of a relocation

## Main results

* `Diff.Transfers.mem_matched`: the two holders are paired by content
* `Diff.Transfers.onlyRelocates`: the difference relocates the node, and says nothing else about it
-/

namespace CodeOutline.Diff

variable {old new : List Entry} {a b : Entry} {hash : String}

/-- A content goes from its one holder among the old entries to its one holder among the new ones.
Each of the two is alone under its identity, and the other side does not know that identity. -/
structure Transfers (old new : List Entry) (hash : String) (a b : Entry) : Prop where
  old_mem : a ∈ old
  new_mem : b ∈ new
  old_hash : a.hash = some hash
  new_hash : b.hash = some hash
  old_only : ∀ e ∈ old, e.hash = some hash ∨ e.identity = a.identity → e = a
  new_only : ∀ e ∈ new, e.hash = some hash ∨ e.identity = b.identity → e = b
  old_gone : ∀ e ∈ new, e.identity ≠ a.identity
  new_free : ∀ e ∈ old, e.identity ≠ b.identity

/-- A difference relocates a node, and says nothing else about where it was and where it is. -/
structure OnlyRelocates (diff : Diff) (relocation : Relocation) : Prop where
  relocated : diff.relocated.filter (fun r => r.old.identity = relocation.old.identity ∨
    r.new.identity = relocation.new.identity) = [relocation]
  added : ∀ node ∈ diff.added, node.identity ≠ relocation.old.identity ∧
    node.identity ≠ relocation.new.identity
  removed : ∀ node ∈ diff.removed, node.identity ≠ relocation.old.identity ∧
    node.identity ≠ relocation.new.identity
  modified : ∀ m ∈ diff.modified, ∀ node ∈ [m.before, m.after],
    node.identity ≠ relocation.old.identity ∧ node.identity ≠ relocation.new.identity

/-- A list that holds nothing twice is left with its one element that passes. -/
theorem filter_eq_singleton {α : Type} {p : α → Bool} {list : List α} {x : α}
    (hlist : list.Nodup) (hx : x ∈ list) (hp : p x = true)
    (honly : ∀ y ∈ list, p y = true → y = x) : list.filter p = [x] := by
  refine List.perm_singleton.1 ?_
  apply (List.perm_ext_iff_of_nodup (hlist.filter _) (List.nodup_singleton x)).2
  intro y
  rw [List.mem_filter, List.mem_singleton]
  constructor
  · rintro ⟨hy, hpy⟩
    exact honly y hy hpy
  · rintro rfl
    exact ⟨hx, hp⟩

namespace Transfers

variable (h : Transfers old new hash a b)
include h

/-- Seen from the other side, the content goes back. -/
theorem symm : Transfers new old hash b a where
  old_mem := h.new_mem
  new_mem := h.old_mem
  old_hash := h.new_hash
  new_hash := h.old_hash
  old_only := h.new_only
  new_only := h.old_only
  old_gone := h.new_free
  new_free := h.old_gone

/-- The old holder is what pairing by identity leaves over of the content. -/
theorem withHash_unsettled (hold : (old.map Entry.id).Nodup) :
    Entry.withHash hash (unsettled old new) = [a] := by
  have hfree : a.isSettled old new = false := by
    rw [Bool.eq_false_iff, ne_eq, Entry.isSettled_iff hold h.old_mem]
    rintro ⟨-, e, hlast, hidentity⟩
    exact h.old_gone e hlast.mem hidentity
  rw [Entry.withHash, unsettled]
  apply filter_eq_singleton (hold.of_map.filter _)
  · exact List.mem_filter.2 ⟨h.old_mem, by rw [hfree]; rfl⟩
  · exact decide_eq_true h.old_hash
  · intro e he hhash
    exact h.old_only e (List.mem_of_mem_filter he) (.inl (of_decide_eq_true hhash))

section

variable (hold : (old.map Entry.id).Nodup) (hnew : (new.map Entry.id).Nodup)
include hold hnew

/-- The two holders are paired by content. -/
theorem mem_matched : (a, b) ∈ (matched old new).pairs := by
  -- one stands in line on each side, so the first is served with the first
  have hpairs := (servesInOrder_ofEntries .standard old new).pairs hash
  rw [h.withHash_unsettled hold, h.symm.withHash_unsettled hnew] at hpairs
  have hmem : (a, b) ∈ [a].zip [b] := List.mem_singleton_self (a, b)
  rw [← hpairs] at hmem
  exact List.mem_of_mem_filter hmem

theorem mem_pairs : (a, b) ∈ pairs old new :=
  (Diff.mem_pairs hnew).2 (.inr (h.mem_matched hold hnew))

/-- No other pair uses one of the two identities. -/
theorem eq_of_mem_pairs {p : Entry × Entry} (hp : p ∈ pairs old new)
    (hends : p.1.identity = a.identity ∨ p.2.identity = b.identity) : p = (a, b) := by
  have hpairing := isPairing_pairs hold hnew
  rcases hends with hidentity | hidentity
  · have hfst := h.old_only p.1 (hpairing.old_mem p hp) (.inr hidentity)
    exact List.inj_on_of_nodup_map hpairing.nodup_fst hp (h.mem_pairs hold hnew) hfst
  · have hmem : p.2 ∈ new := hpairing.new_sublist.subset (List.mem_map_of_mem hp)
    have hsnd := h.new_only p.2 hmem (.inr hidentity)
    exact List.inj_on_of_nodup_map (hpairing.new_sublist.nodup hnew.of_map) hp
      (h.mem_pairs hold hnew) hsnd

/-- The difference relocates the node, and says nothing else about it. -/
theorem onlyRelocates (options : DiffOptions) : (ofEntries options old new).OnlyRelocates
    ⟨a.node, b.node, .classify options.moveDetection a.node b.node, .exact⟩ := by
  have hexplains := explains_pairs hold hnew options
  have hpair := h.mem_pairs hold hnew
  have hne : a.identity ≠ b.identity := fun heq => h.old_gone b h.new_mem heq.symm
  constructor
  case relocated =>
    have hsingle : ((pairs old new).filter fun p => p.1.identity ≠ p.2.identity).filter
        (fun p => p.1.identity = a.identity ∨ p.2.identity = b.identity) = [(a, b)] := by
      refine filter_eq_singleton (hexplains.nodup_fst.of_map.filter _) ?_ (by simp) ?_
      · exact List.mem_filter.2 ⟨hpair, decide_eq_true hne⟩
      · intro p hp hends
        exact h.eq_of_mem_pairs hold hnew (List.mem_of_mem_filter hp) (of_decide_eq_true hends)
    rw [hexplains.relocated, List.filter_map]
    exact congrArg (List.map _) hsingle
  case added =>
    intro node hnode
    have hmem := List.mem_map_of_mem (f := Node.identity) hnode
    obtain ⟨hunknown, hgoal, -⟩ := hexplains.mem_added.1 hmem
    -- what is added was unknown, and is not where something has gone
    constructor
    · intro heq
      rw [heq] at hunknown
      exact hunknown (List.mem_map_of_mem h.old_mem)
    · intro heq
      rw [heq] at hgoal
      exact hgoal (hexplains.mem_goals.2 ⟨(a, b), hpair, hne, rfl⟩)
  case removed =>
    intro node hnode
    have hmem := List.mem_map_of_mem (f := Node.identity) hnode
    obtain ⟨e, he, hfree, hidentity⟩ := hexplains.mem_removed.1 hmem
    -- what is removed is in no pair
    constructor
    · intro heq
      rw [h.old_only e he (.inr (hidentity.trans heq))] at hfree
      exact hfree (List.mem_map_of_mem hpair)
    · exact fun heq => h.new_free e he (hidentity.trans heq)
  case modified =>
    intro m hm
    obtain ⟨p, -, ⟨hlast, hlast', hidentity⟩, -, rfl⟩ := hexplains.mem_modified.1 hm
    -- a modified node has its identity on both sides
    have hold : p.1.identity ≠ a.identity ∧ p.1.identity ≠ b.identity :=
      ⟨fun heq => h.old_gone p.2 hlast'.mem (hidentity.symm.trans heq),
        h.new_free p.1 hlast.mem⟩
    have hnew : p.2.identity ≠ a.identity ∧ p.2.identity ≠ b.identity := hidentity ▸ hold
    simpa using ⟨hold, hnew⟩

end

end Transfers

end CodeOutline.Diff
