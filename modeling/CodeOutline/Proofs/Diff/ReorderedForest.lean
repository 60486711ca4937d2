import CodeOutline.Proofs.Diff.Reordering
import CodeOutline.Proofs.Forest.Reordering

/-!
# When the order of a forest matters

Where every node has a hash of its own, a forest in another order has the same entries. If besides
only nodes without children share an identity, each of them can be brought in front of, or put
behind, all others that do. So an order that shows a change exists as soon as repeated identities
cannot be told apart: put behind, a node with another hash than the last of its identity seems to
replace that one, and brought forward, two nodes of one hash and different identities cannot both be
the first partner of one node.

## Main definitions

* `Forest.HasHashes`: every node has a hash of its own
* `Forest.RepeatsLeaves`: only nodes without children share an identity

## Main results

* `Forest.Reorders.entries_perm`: the entries of a forest in another order
* `Forest.unambiguous_of_unchanged`: if no order shows a change, repeated identities can be told
  apart
-/

namespace CodeOutline.Forest

open Entry

variable {forest other : Forest} {a b e : Entry} {id : Nat}

/-- Every node has a hash of its own. -/
def HasHashes (forest : Forest) : Prop :=
  ∀ (id : Nat) node, forest.node? id = some node → node.hash ≠ ""

/-- Only nodes without children share an identity. -/
def RepeatsLeaves (forest : Forest) : Prop :=
  ∀ a ∈ forest.entries, IsRepeated forest.entries a.identity → forest.children a.id = []

/-! ### The entries of a forest in another order -/

/-- The entry of a node. -/
def entryAt? (forest : Forest) (id : NodeId) : Option Entry :=
  (forest.node? id).map fun node => ⟨id, node, forest.comparableHash? id⟩

theorem entries_eq (forest : Forest) : forest.entries = forest.preorder.filterMap forest.entryAt? :=
  rfl

theorem entryAt?_of_mem_entries (h : e ∈ forest.entries) : forest.entryAt? e.id = some e := by
  obtain ⟨-, hnode, hhash⟩ := mem_entries.1 h
  rw [entryAt?, hnode, ← hhash]
  rfl

theorem lt_size_of_mem_entries (h : e ∈ forest.entries) : e.id < forest.size :=
  lt_size_of_node? (mem_entries.1 h).2.1

theorem HasHashes.comparableHash?_eq (h : forest.HasHashes) (id : Nat) :
    forest.comparableHash? id = (forest.node? id).map (·.hash) := by
  cases hnode : forest.node? id with
  | none => simp [comparableHash?, hnode]
  | some node => simp [comparableHash?, hnode, h id node hnode]

namespace Reorders

variable (h : forest.Reorders other) (hhashes : forest.HasHashes)
include h hhashes

theorem hasHashes : other.HasHashes :=
  fun id node hnode => hhashes id node (by rwa [← h.node?_eq])

theorem entryAt?_eq : other.entryAt? = forest.entryAt? := by
  funext id
  rw [entryAt?, entryAt?, h.node?_eq, (h.hasHashes hhashes).comparableHash?_eq,
    hhashes.comparableHash?_eq, h.node?_eq]

/-- A forest in another order has the same entries. -/
theorem entries_perm (hrooted : forest.Rooted) : other.entries.Perm forest.entries := by
  rw [entries_eq, entries_eq, h.entryAt?_eq hhashes]
  exact (h.preorder_perm hrooted).filterMap _

end Reorders

section

variable (hrooted : forest.Rooted) (hhashes : forest.HasHashes)
include hrooted hhashes

/-- Brought forward, an entry has only entries of nodes with children in front of it. -/
theorem exists_entries_toFront (ha : a ∈ forest.entries) :
    ∃ before after,
      (forest.rearrange (toFront (forest.wayUp a.id))).entries = before ++ a :: after ∧
        ∀ b ∈ before, forest.children b.id ≠ [] := by
  have hreorders := reorders_toFront forest (forest.wayUp a.id)
  obtain ⟨before, after, hsplit, hbefore⟩ :=
    hrooted.exists_preorder_toFront (lt_size_of_mem_entries ha)
  refine ⟨before.filterMap forest.entryAt?, after.filterMap forest.entryAt?, ?_, fun b hb => ?_⟩
  · rw [entries_eq, hsplit, hreorders.entryAt?_eq hhashes, List.filterMap_append,
      List.filterMap_cons_some (entryAt?_of_mem_entries ha)]
  · obtain ⟨id, hid, hentry⟩ := List.mem_filterMap.1 hb
    obtain ⟨node, -, rfl⟩ := Option.map_eq_some_iff.1 hentry
    exact hbefore id hid

/-- Put back, the entry of a node without children is the last of its identity. -/
theorem isLast_toBack (ha : a ∈ forest.entries) (hleaf : forest.children a.id = []) :
    a.IsLast (forest.rearrange (toBack (forest.wayUp a.id))).entries := by
  have hreorders := reorders_toBack forest (forest.wayUp a.id)
  have hlast := hrooted.getLast?_preorder_toBack (lt_size_of_mem_entries ha) hleaf
  obtain ⟨front, hsplit⟩ := List.getLast?_eq_some_iff.1 hlast
  refine ⟨front.filterMap forest.entryAt?, [], ?_, by simp⟩
  rw [entries_eq, hsplit, hreorders.entryAt?_eq hhashes, List.filterMap_append,
    List.filterMap_cons_some (entryAt?_of_mem_entries ha), List.filterMap_nil]

end

/-! ### Orders that show a change -/

section

variable {options : DiffOptions} (hrooted : forest.Rooted) (hhashes : forest.HasHashes)
  (hleaves : forest.RepeatsLeaves)
  (hempty : ∀ other, forest.Reorders other → Diff.between options forest other = .empty)
include hrooted hhashes hleaves hempty

/-- If no order shows a modification, all entries of an identity have one hash. -/
theorem hash_eq_of_unchanged (ha : a ∈ forest.entries) (hb : b ∈ forest.entries)
    (hab : a.identity = b.identity) : a.hash = b.hash := by
  -- it is enough to compare with the last entry of the identity
  suffices hlast : ∀ {e last : Entry}, e ∈ forest.entries → last.IsLast forest.entries →
      last.identity = e.identity → last.hash = e.hash by
    obtain ⟨last, hisLast, hidentity⟩ := exists_isLast ha
    rw [← hlast ha hisLast hidentity, hlast hb hisLast (hidentity.trans hab)]
  intro e last he hlast hidentity
  by_cases heq : last = e
  · rw [heq]
  have hrepeated : IsRepeated forest.entries e.identity :=
    isRepeated_of_ne he hlast.mem (Ne.symm heq) hidentity.symm
  -- put back, the other entry is the last one, and the two are a settled pair
  have hreorders := reorders_toBack forest (forest.wayUp e.id)
  have hback := isLast_toBack hrooted hhashes he (hleaves e he hrepeated)
  have hexplains := Diff.explains_pairs (nodup_entries_ids hrooted.nodup_preorder)
    (nodup_entries_ids (hreorders.rooted hrooted).nodup_preorder) options
  have hsettled : Diff.IsSettled forest.entries
      (forest.rearrange (toBack (forest.wayUp e.id))).entries (last, e) :=
    ⟨hlast, hback, hidentity⟩
  have hmodified : (Diff.between options forest _).modified = [] :=
    congrArg Diff.modified (hempty _ hreorders)
  rw [Diff.between, hexplains.modified, List.map_eq_nil_iff, List.filter_eq_nil_iff] at hmodified
  have hpair := hmodified _ (hexplains.settled_mem _ hsettled)
  by_contra hne
  exact hpair (decide_eq_true ⟨hsettled, hne⟩)

end

section

variable {options : DiffOptions} {hash : String} (hrooted : forest.Rooted)
  (hhashes : forest.HasHashes) (hleaves : forest.RepeatsLeaves)
include hrooted hhashes hleaves

/-- Brought forward, a repeated entry is the first that pairing by content comes to. -/
theorem exists_repeats_toFront (ha : a ∈ forest.entries)
    (hrepeated : IsRepeated forest.entries a.identity) :
    ∃ after, repeats (forest.rearrange (toFront (forest.wayUp a.id))).entries = a :: after := by
  obtain ⟨before, after, hsplit, hbefore⟩ := exists_entries_toFront hrooted hhashes ha
  have hreorders := reorders_toFront forest (forest.wayUp a.id)
  have hperm := hreorders.entries_perm hhashes hrooted
  have hnodup := (nodup_entries_ids (hreorders.rooted hrooted).nodup_preorder).of_map
  rw [hsplit] at hperm hnodup ⊢
  -- what stands in front has children, so its identity is not repeated
  have hunrepeated : ∀ b ∈ before, ¬ IsRepeated forest.entries b.identity := fun b hb hb' =>
    hbefore b hb (hleaves b (hperm.mem_iff.1 (List.mem_append_left _ hb)) hb')
  have hfront : (before.filter fun e => ¬ e.IsLast (before ++ a :: after)) = [] := by
    rw [List.filter_eq_nil_iff]
    intro b hb hnot
    have hmem : b ∈ repeats (before ++ a :: after) :=
      List.mem_filter.2 ⟨List.mem_append_left _ hb, hnot⟩
    exact hunrepeated b hb ((isRepeated_iff_of_perm hperm).1 (isRepeated_of_mem_repeats hmem))
  have hnotLast : ¬ a.IsLast (before ++ a :: after) := by
    obtain ⟨twin, htwin, hne, hidentity⟩ :=
      hrepeated.exists_ne (nodup_entries_ids hrooted.nodup_preorder).of_map
    rw [isLast_append_cons_iff hnodup, not_not]
    rcases List.mem_append.1 (hperm.mem_iff.2 htwin) with hfront | hbehind
    · exact absurd (hidentity ▸ hrepeated) (hunrepeated twin hfront)
    · rw [← hidentity]
      exact List.mem_map_of_mem ((List.mem_cons.1 hbehind).resolve_left hne)
  refine ⟨after.filter fun e => ¬ e.IsLast (before ++ a :: after), ?_⟩
  rw [repeats, List.filter_append, hfront, List.nil_append]
  exact List.filter_cons_of_pos (decide_eq_true hnotLast)

variable (hempty : ∀ other, forest.Reorders other → Diff.between options forest other = .empty)
include hempty

/-- If no order shows a relocation, the first entry under a hash that is left over has the identity
of every repeated one with that hash. -/
theorem identity_eq_of_unchanged (ha : a ∈ forest.entries)
    (hrepeated : IsRepeated forest.entries a.identity) (hhash : a.hash = some hash)
    (hfirst : (withHash hash (repeats forest.entries)).head? = some e) :
    e.identity = a.identity := by
  have hreorders := reorders_toFront forest (forest.wayUp a.id)
  have hperm := hreorders.entries_perm hhashes hrooted
  obtain ⟨after, hfront⟩ := exists_repeats_toFront hrooted hhashes hleaves ha hrepeated
  obtain ⟨rest, hrest⟩ := List.head?_eq_some_iff.1 hfirst
  obtain ⟨hold, hnew⟩ :=
    Diff.unsettled_eq_repeats_of_perm (nodup_entries_ids hrooted.nodup_preorder) hperm
  have hserves := Diff.servesInOrder_ofEntries options forest.entries
    (forest.rearrange (toFront (forest.wayUp a.id))).entries
  -- the two come first on their sides, so they are a pair
  have hpairs := hserves.pairs hash
  rw [hold, hnew, hrest, hfront, withHash, List.filter_cons_of_pos (by simpa using hhash),
    List.zip_cons_cons] at hpairs
  have hpair : (e, a) ∈ (Diff.matched forest.entries
      (forest.rearrange (toFront (forest.wayUp a.id))).entries).pairs :=
    List.mem_of_mem_filter (hpairs ▸ List.mem_cons_self)
  have hrelocated : (Diff.between options forest _).relocated = [] :=
    congrArg Diff.relocated (hempty _ hreorders)
  rw [Diff.between, hserves.relocated, Diff.filterMap_relocation?, List.map_eq_nil_iff,
    List.filter_eq_nil_iff] at hrelocated
  by_contra hne
  exact hrelocated _ hpair (decide_eq_true hne)

/-- If no order shows a change, repeated identities can be told apart. -/
theorem unambiguous_of_unchanged : Unambiguous forest.entries where
  hash_eq _ ha _ hb hab := hash_eq_of_unchanged hrooted hhashes hleaves hempty ha hb hab
  identity_eq a ha b hb hrepeated hrepeated' hne hab := by
    obtain ⟨hash, hhash⟩ := Option.ne_none_iff_exists'.1 hne
    -- an entry of the identity of `a` is left over, and all of them have this hash
    obtain ⟨twin, htwin, htwinNe, hidentity⟩ :=
      hrepeated.exists_ne (nodup_entries_ids hrooted.nodup_preorder).of_map
    have htwinHash : twin.hash = some hash := by
      rw [hash_eq_of_unchanged hrooted hhashes hleaves hempty htwin ha hidentity, hhash]
    have hleft : ∃ e, e ∈ withHash hash (repeats forest.entries) := by
      by_cases hlast : a.IsLast forest.entries
      · have hnot : ¬ twin.IsLast forest.entries := fun h => htwinNe (h.eq hlast hidentity)
        exact ⟨twin, by simp [withHash, repeats, htwin, hnot, htwinHash]⟩
      · exact ⟨a, by simp [withHash, repeats, ha, hlast, hhash]⟩
    obtain ⟨e, he⟩ := hleft
    have hfirst := List.head?_eq_some_head (List.ne_nil_of_mem he)
    rw [← identity_eq_of_unchanged hrooted hhashes hleaves hempty ha hrepeated hhash hfirst,
      identity_eq_of_unchanged hrooted hhashes hleaves hempty hb hrepeated' (hab ▸ hhash) hfirst]

end

end CodeOutline.Forest
