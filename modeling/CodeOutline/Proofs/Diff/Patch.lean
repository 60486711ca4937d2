import CodeOutline.Proofs.Diff.Pairs

/-!
# A difference is a patch

Where every identity occurs once, the last node of an identity is its only one, and a difference
says exactly how to get from the identities of the old forest to those of the new one: take away
what was removed and what went elsewhere, then put in what was added and where things went. Nothing
is missed and nothing is invented. The difference is empty if and only if both forests hold the same
identities with the same hashes, in whatever order.

## Main definitions

* `Forest.identities`, `Forest.contents`: what a forest holds, without and with hashes
* `Diff.origins`, `Diff.goals`: the two ends of the relocations
* `Diff.IsPatch`: a difference leads exactly from one forest to another

## Main results

* `Diff.Explains.isPatch`: pairs make a patch where every identity occurs once
* `Diff.between_isPatch`: the difference between two such forests is a patch
-/

namespace CodeOutline

/-- An identity and the hash by which its node is compared. -/
def Entry.content (entry : Entry) : Identity × Option String :=
  (entry.identity, entry.hash)

/-- The identities of the nodes a walk visits. -/
def Forest.identities (forest : Forest) : List Identity :=
  forest.entries.map Entry.identity

/-- The identities of the nodes a walk visits, each with the hash by which it is compared. -/
def Forest.contents (forest : Forest) : List (Identity × Option String) :=
  forest.entries.map Entry.content

namespace Diff

/-- Where relocated nodes were. -/
def origins (diff : Diff) : List Identity :=
  diff.relocated.map (·.old.identity)

/-- Where relocated nodes are now. -/
def goals (diff : Diff) : List Identity :=
  diff.relocated.map (·.new.identity)

/-- A difference leads exactly from an old forest to a new one. -/
structure IsPatch (old new : Forest) (diff : Diff) : Prop where
  /-- what is neither removed nor relocated stays, and beside it there is what is added and where
  relocations lead -/
  identities : new.identities.Perm
    ((old.identities.filter fun i => i ∉ diff.removed.map Node.identity ∧ i ∉ diff.origins) ++
      (diff.added.map Node.identity ++ diff.goals))
  gone : ∀ i ∈ diff.removed.map Node.identity ++ diff.origins,
    i ∈ old.identities ∧ i ∉ new.identities
  arrived : ∀ i ∈ diff.added.map Node.identity ++ diff.goals,
    i ∈ new.identities ∧ i ∉ old.identities
  gone_disjoint : (diff.removed.map Node.identity).Disjoint diff.origins
  arrived_disjoint : (diff.added.map Node.identity).Disjoint diff.goals
  modified : ∀ i,
    (∃ m ∈ diff.modified, m.before.identity = i ∧ m.after.identity = i) ↔
      ∃ before after, (i, before) ∈ old.contents ∧ (i, after) ∈ new.contents ∧ before ≠ after
  modified_identity : ∀ m ∈ diff.modified, m.before.identity = m.after.identity
  isEmpty_iff : diff.isEmpty = true ↔ ∀ c, c ∈ old.contents ↔ c ∈ new.contents

end Diff

/-! ### Every identity once -/

theorem Entry.isLast_of_mem {entry : Entry} {entries : List Entry}
    (hunique : (entries.map Entry.identity).Nodup) (hmem : entry ∈ entries) :
    entry.IsLast entries := by
  obtain ⟨last, hlast, hidentity⟩ := exists_isLast hmem
  rwa [← List.inj_on_of_nodup_map hunique hlast.mem hmem hidentity]

theorem Entry.mem_identities_iff {entries : List Entry} {i : Identity} :
    i ∈ entries.map Entry.identity ↔ ∃ hash, (i, hash) ∈ entries.map Entry.content := by
  simp only [List.mem_map, content, Prod.mk.injEq]
  constructor
  · rintro ⟨entry, hentry, hidentity⟩
    exact ⟨entry.hash, entry, hentry, hidentity, rfl⟩
  · rintro ⟨_, entry, hentry, hidentity, -⟩
    exact ⟨entry, hentry, hidentity⟩

namespace Diff

variable {options : DiffOptions} {old new : List Entry} {pairs : List (Entry × Entry)} {diff : Diff}
  {a b : Entry} {p : Entry × Entry}

namespace Explains

variable (h : Explains options old new pairs diff) (hold : (old.map Entry.identity).Nodup)
  (hnew : (new.map Entry.identity).Nodup)
include h hold hnew

/-- Nodes under one identity are paired. -/
theorem mem_pairs_of_identity_eq (ha : a ∈ old) (hb : b ∈ new) (hab : a.identity = b.identity) :
    (a, b) ∈ pairs :=
  h.settled_mem (a, b) ⟨Entry.isLast_of_mem hold ha, Entry.isLast_of_mem hnew hb, hab⟩

/-- A pair under two identities leaves a place that is free now for one that was free before. -/
theorem identity_notMem_of_mem_pairs (hp : p ∈ pairs) (hne : p.1.identity ≠ p.2.identity) :
    p.1.identity ∉ new.map Entry.identity ∧ p.2.identity ∉ old.map Entry.identity := by
  constructor
  · intro hmem
    obtain ⟨b, hb, hidentity⟩ := List.mem_map.1 hmem
    have hpair := h.mem_pairs_of_identity_eq hold hnew (h.old_mem p hp) hb hidentity.symm
    have heq := List.inj_on_of_nodup_map h.old_nodup hpair hp rfl
    exact hne (by rw [← heq, hidentity])
  · intro hmem
    obtain ⟨a, ha, hidentity⟩ := List.mem_map.1 hmem
    have hb : p.2 ∈ new := h.new_sublist.subset (List.mem_map_of_mem hp)
    have hpair := h.mem_pairs_of_identity_eq hold hnew ha hb hidentity
    have heq := List.inj_on_of_nodup_map h.new_nodup hpair hp rfl
    exact hne (by rw [← heq, hidentity])

/-! ### The lists of a difference by identity -/

omit hold hnew in
theorem mem_removed {i : Identity} :
    i ∈ diff.removed.map Node.identity ↔ ∃ a ∈ old, a ∉ pairs.map Prod.fst ∧ a.identity = i := by
  rw [h.removed, List.map_map]
  simp only [List.mem_map, List.mem_filter, decide_eq_true_iff, and_assoc]
  rfl

omit hold hnew in
theorem mem_origins {i : Identity} :
    i ∈ diff.origins ↔ ∃ p ∈ pairs, p.1.identity ≠ p.2.identity ∧ p.1.identity = i := by
  rw [origins, h.relocated, List.map_map]
  simp only [List.mem_map, List.mem_filter, decide_eq_true_iff, and_assoc]
  rfl

omit hold hnew in
theorem mem_goals {i : Identity} :
    i ∈ diff.goals ↔ ∃ p ∈ pairs, p.1.identity ≠ p.2.identity ∧ p.2.identity = i := by
  rw [goals, h.relocated, List.map_map]
  simp only [List.mem_map, List.mem_filter, decide_eq_true_iff, and_assoc]
  rfl

omit hold hnew in
theorem mem_added {i : Identity} :
    i ∈ diff.added.map Node.identity ↔
      i ∉ old.map Entry.identity ∧ i ∉ diff.goals ∧
        ∃ b ∈ new, b ∉ pairs.map Prod.snd ∧ b.identity = i := by
  rw [h.added, List.map_map, List.mem_map]
  simp only [List.mem_filter, decide_eq_true_iff]
  constructor
  · rintro ⟨b, ⟨hb, hfree, hunknown, hgoal⟩, rfl⟩
    exact ⟨hunknown, hgoal, b, hb, hfree, rfl⟩
  · rintro ⟨hunknown, hgoal, b, hb, hfree, rfl⟩
    exact ⟨b, ⟨hb, hfree, hunknown, hgoal⟩, rfl⟩

omit hold hnew in
theorem mem_modified {m : Modification} :
    m ∈ diff.modified ↔
      ∃ p ∈ pairs, IsSettled old new p ∧ p.1.hash ≠ p.2.hash ∧ ⟨p.1.node, p.2.node⟩ = m := by
  rw [h.modified]
  simp only [List.mem_map, List.mem_filter, decide_eq_true_iff, and_assoc]

/-! ### What goes and what comes -/

theorem gone {i : Identity} (hi : i ∈ diff.removed.map Node.identity ++ diff.origins) :
    i ∈ old.map Entry.identity ∧ i ∉ new.map Entry.identity := by
  rcases List.mem_append.1 hi with hi | hi
  · obtain ⟨a, ha, hfree, rfl⟩ := h.mem_removed.1 hi
    refine ⟨List.mem_map_of_mem ha, fun hmem => hfree ?_⟩
    obtain ⟨b, hb, hidentity⟩ := List.mem_map.1 hmem
    exact List.mem_map_of_mem (f := Prod.fst)
      (h.mem_pairs_of_identity_eq hold hnew ha hb hidentity.symm)
  · obtain ⟨p, hp, hne, rfl⟩ := h.mem_origins.1 hi
    exact ⟨List.mem_map_of_mem (h.old_mem p hp),
      (h.identity_notMem_of_mem_pairs hold hnew hp hne).1⟩

theorem arrived {i : Identity} (hi : i ∈ diff.added.map Node.identity ++ diff.goals) :
    i ∈ new.map Entry.identity ∧ i ∉ old.map Entry.identity := by
  rcases List.mem_append.1 hi with hi | hi
  · obtain ⟨hunknown, -, b, hb, -, rfl⟩ := h.mem_added.1 hi
    exact ⟨List.mem_map_of_mem hb, hunknown⟩
  · obtain ⟨p, hp, hne, rfl⟩ := h.mem_goals.1 hi
    exact ⟨List.mem_map_of_mem (h.new_sublist.subset (List.mem_map_of_mem hp)),
      (h.identity_notMem_of_mem_pairs hold hnew hp hne).2⟩

/-- Nothing is missed: what the new forest has is known and stays, or arrives. -/
theorem mem_new_iff {i : Identity} :
    i ∈ new.map Entry.identity ↔
      (i ∈ old.map Entry.identity ∧ i ∉ diff.removed.map Node.identity ∧ i ∉ diff.origins) ∨
        i ∈ diff.added.map Node.identity ++ diff.goals := by
  constructor
  · intro hi
    by_cases hknown : i ∈ old.map Entry.identity
    · have hstays : i ∉ diff.removed.map Node.identity ++ diff.origins :=
        fun hgone => (h.gone hold hnew hgone).2 hi
      rw [List.mem_append, not_or] at hstays
      exact .inl ⟨hknown, hstays⟩
    · refine .inr (List.mem_append.2 ?_)
      by_cases hgoal : i ∈ diff.goals
      · exact .inr hgoal
      · obtain ⟨b, hb, rfl⟩ := List.mem_map.1 hi
        refine .inl (h.mem_added.2 ⟨hknown, hgoal, b, hb, fun hpaired => hgoal ?_, rfl⟩)
        obtain ⟨p, hp, rfl⟩ := List.mem_map.1 hpaired
        refine h.mem_goals.2 ⟨p, hp, fun hsame => hknown ?_, rfl⟩
        exact hsame ▸ List.mem_map_of_mem (h.old_mem p hp)
  · rintro (⟨hknown, hremoved, horigin⟩ | harrived)
    · obtain ⟨a, ha, rfl⟩ := List.mem_map.1 hknown
      by_cases hpaired : a ∈ pairs.map Prod.fst
      · obtain ⟨p, hp, rfl⟩ := List.mem_map.1 hpaired
        have hsame : p.1.identity = p.2.identity := by
          by_contra hne
          exact horigin (h.mem_origins.2 ⟨p, hp, hne, rfl⟩)
        exact hsame ▸ List.mem_map_of_mem (h.new_sublist.subset (List.mem_map_of_mem hp))
      · exact absurd (h.mem_removed.2 ⟨a, ha, hpaired, rfl⟩) hremoved
    · exact (h.arrived hold hnew harrived).1

omit hnew in
theorem gone_disjoint : (diff.removed.map Node.identity).Disjoint diff.origins := by
  intro i hremoved horigin
  obtain ⟨a, ha, hfree, rfl⟩ := h.mem_removed.1 hremoved
  obtain ⟨p, hp, -, hidentity⟩ := h.mem_origins.1 horigin
  rw [← List.inj_on_of_nodup_map hold (h.old_mem p hp) ha hidentity] at hfree
  exact hfree (List.mem_map_of_mem hp)

omit hold hnew in
theorem arrived_disjoint : (diff.added.map Node.identity).Disjoint diff.goals :=
  fun _ hadded hgoal => (h.mem_added.1 hadded).2.1 hgoal

omit hold in
/-- Nothing arrives twice. -/
theorem nodup_arrived : (diff.added.map Node.identity ++ diff.goals).Nodup := by
  have hadded : (diff.added.map Node.identity).Sublist (new.map Entry.identity) := by
    rw [h.added, List.map_map]
    exact List.filter_sublist.map _
  have hgoals : diff.goals.Sublist (new.map Entry.identity) := by
    rw [goals, h.relocated, List.map_map]
    refine List.Sublist.trans ?_ (h.new_sublist.map Entry.identity)
    rw [List.map_map]
    exact List.filter_sublist.map _
  exact List.nodup_append'.2 ⟨hadded.nodup hnew, hgoals.nodup hnew, h.arrived_disjoint⟩

/-- The old identities that stay and those that arrive are the new ones. -/
theorem identities_perm :
    (new.map Entry.identity).Perm
      (((old.map Entry.identity).filter fun i =>
          i ∉ diff.removed.map Node.identity ∧ i ∉ diff.origins) ++
        (diff.added.map Node.identity ++ diff.goals)) := by
  have hstays := hold.filter fun i => i ∉ diff.removed.map Node.identity ∧ i ∉ diff.origins
  have hdisjoint : ((old.map Entry.identity).filter fun i =>
      i ∉ diff.removed.map Node.identity ∧ i ∉ diff.origins).Disjoint
        (diff.added.map Node.identity ++ diff.goals) :=
    fun i hi harrived => (h.arrived hold hnew harrived).2 (List.mem_of_mem_filter hi)
  have hnodup := List.nodup_append'.2 ⟨hstays, h.nodup_arrived hnew, hdisjoint⟩
  apply (List.perm_ext_iff_of_nodup hnew hnodup).2
  intro i
  rw [h.mem_new_iff hold hnew, List.mem_append (s := List.filter _ _), List.mem_filter,
    decide_eq_true_iff]

/-! ### Modified and empty -/

/-- A node is modified if both sides have it with different hashes. -/
theorem exists_modified_iff {i : Identity} :
    (∃ m ∈ diff.modified, m.before.identity = i ∧ m.after.identity = i) ↔
      ∃ a ∈ old, ∃ b ∈ new, a.identity = i ∧ b.identity = i ∧ a.hash ≠ b.hash := by
  constructor
  · rintro ⟨m, hm, hbefore, hafter⟩
    obtain ⟨p, -, hsettled, hhash, rfl⟩ := h.mem_modified.1 hm
    exact ⟨p.1, hsettled.1.mem, p.2, hsettled.2.1.mem, hbefore, hafter, hhash⟩
  · rintro ⟨a, ha, b, hb, rfl, hidentity, hhash⟩
    refine ⟨⟨a.node, b.node⟩, h.mem_modified.2 ⟨(a, b), ?_, ?_, hhash, rfl⟩, rfl, hidentity⟩
    · exact h.mem_pairs_of_identity_eq hold hnew ha hb hidentity.symm
    · exact ⟨Entry.isLast_of_mem hold ha, Entry.isLast_of_mem hnew hb, hidentity.symm⟩

omit h hold hnew in
theorem isEmpty_eq_true_iff : diff.isEmpty = true ↔
    (diff.removed.map Node.identity ++ diff.origins = [] ∧
      diff.added.map Node.identity ++ diff.goals = []) ∧ diff.modified = [] := by
  simp only [isEmpty, origins, goals, Bool.and_eq_true, List.isEmpty_iff, List.append_eq_nil_iff,
    List.map_eq_nil_iff]
  tauto

theorem mem_identities_of_isEmpty (hempty : diff.isEmpty = true) (i : Identity) :
    i ∈ new.map Entry.identity ↔ i ∈ old.map Entry.identity := by
  obtain ⟨⟨hgone, harrived⟩, -⟩ := isEmpty_eq_true_iff.1 hempty
  have hstays : i ∉ diff.removed.map Node.identity ++ diff.origins := by simp [hgone]
  rw [List.mem_append, not_or] at hstays
  rw [h.mem_new_iff hold hnew, harrived]
  simp only [List.not_mem_nil, or_false, and_iff_left hstays]

theorem hash_eq_of_isEmpty (hempty : diff.isEmpty = true) (ha : a ∈ old) (hb : b ∈ new)
    (hab : a.identity = b.identity) : a.hash = b.hash := by
  obtain ⟨-, hmodified⟩ := isEmpty_eq_true_iff.1 hempty
  by_contra hne
  obtain ⟨m, hm, -⟩ := (h.exists_modified_iff hold hnew).2 ⟨a, ha, b, hb, rfl, hab.symm, hne⟩
  simp [hmodified] at hm

theorem mem_contents_of_isEmpty (hempty : diff.isEmpty = true) (c : Identity × Option String) :
    c ∈ old.map Entry.content ↔ c ∈ new.map Entry.content := by
  have hids := h.mem_identities_of_isEmpty hold hnew hempty
  constructor
  · intro hc
    obtain ⟨a, ha, rfl⟩ := List.mem_map.1 hc
    obtain ⟨b, hb, hidentity⟩ := List.mem_map.1 ((hids _).2 (List.mem_map_of_mem ha))
    have hhash := h.hash_eq_of_isEmpty hold hnew hempty ha hb hidentity.symm
    exact List.mem_map.2 ⟨b, hb, Prod.ext hidentity hhash.symm⟩
  · intro hc
    obtain ⟨b, hb, rfl⟩ := List.mem_map.1 hc
    obtain ⟨a, ha, hidentity⟩ := List.mem_map.1 ((hids _).1 (List.mem_map_of_mem hb))
    have hhash := h.hash_eq_of_isEmpty hold hnew hempty ha hb hidentity
    exact List.mem_map.2 ⟨a, ha, Prod.ext hidentity hhash⟩

theorem isEmpty_of_mem_contents
    (hcontents : ∀ c, c ∈ old.map Entry.content ↔ c ∈ new.map Entry.content) :
    diff.isEmpty = true := by
  have hids : ∀ i, i ∈ old.map Entry.identity ↔ i ∈ new.map Entry.identity := by
    intro i
    rw [Entry.mem_identities_iff, Entry.mem_identities_iff]
    exact exists_congr fun hash => hcontents (i, hash)
  refine isEmpty_eq_true_iff.2 ⟨⟨?_, ?_⟩, ?_⟩
  · apply List.eq_nil_iff_forall_not_mem.2
    intro i hi
    obtain ⟨hin, hout⟩ := h.gone hold hnew hi
    exact hout ((hids i).1 hin)
  · apply List.eq_nil_iff_forall_not_mem.2
    intro i hi
    obtain ⟨hin, hout⟩ := h.arrived hold hnew hi
    exact hout ((hids i).2 hin)
  · apply List.eq_nil_iff_forall_not_mem.2
    intro m hm
    obtain ⟨p, -, hsettled, hhash, -⟩ := h.mem_modified.1 hm
    -- The new forest holds the old content of this place, so its node there has the old hash.
    have hmem := (hcontents _).1 (List.mem_map_of_mem hsettled.1.mem)
    obtain ⟨b, hb, heq⟩ := List.mem_map.1 hmem
    obtain ⟨hidentity, hsame⟩ := Prod.mk.inj heq
    have hbp := List.inj_on_of_nodup_map hnew hb hsettled.2.1.mem (hidentity.trans hsettled.2.2)
    exact hhash (by rw [← hsame, hbp])

end Explains

/-- Pairs make a patch where every identity occurs once. -/
theorem Explains.isPatch {old new : Forest}
    (h : Explains options old.entries new.entries pairs diff) (hold : old.identities.Nodup)
    (hnew : new.identities.Nodup) : IsPatch old new diff where
  identities := h.identities_perm hold hnew
  gone _ hi := h.gone hold hnew hi
  arrived _ hi := h.arrived hold hnew hi
  gone_disjoint := h.gone_disjoint hold
  arrived_disjoint := h.arrived_disjoint
  modified i := by
    rw [h.exists_modified_iff hold hnew]
    simp only [Forest.contents, Entry.content, List.mem_map, Prod.mk.injEq]
    constructor
    · rintro ⟨a, ha, b, hb, hai, hbi, hne⟩
      exact ⟨a.hash, b.hash, ⟨a, ha, hai, rfl⟩, ⟨b, hb, hbi, rfl⟩, hne⟩
    · rintro ⟨_, _, ⟨a, ha, hai, rfl⟩, ⟨b, hb, hbi, rfl⟩, hne⟩
      exact ⟨a, ha, b, hb, hai, hbi, hne⟩
  modified_identity m hm := by
    obtain ⟨p, -, hsettled, -, rfl⟩ := h.mem_modified.1 hm
    exact hsettled.2.2
  isEmpty_iff :=
    ⟨h.mem_contents_of_isEmpty hold hnew, h.isEmpty_of_mem_contents hold hnew⟩

/-- **The difference between two forests is a patch** if no walk visits a node twice and no identity
occurs twice in a forest. -/
theorem between_isPatch (options : DiffOptions) (old new : Forest)
    (hold : old.preorder.Nodup) (hnew : new.preorder.Nodup)
    (holdUnique : old.identities.Nodup) (hnewUnique : new.identities.Nodup) :
    IsPatch old new (between options old new) := by
  have h := explains_pairs (Forest.nodup_entries_ids hold) (Forest.nodup_entries_ids hnew) options
  exact h.isPatch holdUnique hnewUnique

/-- A function changes its file while the file it leaves is modified and another function comes. -/
theorem between_isPatch_moved :
    let node (kind : NodeKind) (path hash : String) := { Node.named kind path with hash := hash }
    let old := (((Forest.empty.grow (node .file "a.ts" "1") none).grow
      (node .file "b.ts" "2") none).grow (node .function "a.ts#f" "3") (some 0))
    let new := ((((Forest.empty.grow (node .file "a.ts" "4") none).grow
      (node .file "b.ts" "2") none).grow (node .function "b.ts#f" "3") (some 1)).grow
        (node .function "b.ts#g" "5") (some 1))
    (old.preorder.Nodup ∧ new.preorder.Nodup ∧ old.identities.Nodup ∧ new.identities.Nodup) ∧
      IsPatch old new (between .standard old new) :=
  ⟨by decide, between_isPatch _ _ _ (by decide) (by decide) (by decide) (by decide)⟩

end Diff

end CodeOutline
