import CodeOutline.Proofs.Diff.Matching

/-!
# The pairs behind a difference

A difference is described by a one-to-one pairing of some old nodes with some new ones. Where both
forests know an identity, its last nodes are paired with each other; such a pair is settled. Every
other pair was found by content. The lists of the difference can be read off the pairs: settled
pairs whose hashes differ are modifications, pairs whose identities differ are relocations, and the
nodes in no pair were removed or added.

## Main definitions

* `Entry.IsLast`: an entry is the last of its identity
* `Entry.SameContent`: what two entries found by content have in common
* `Diff.IsPairing`: the pairs are one to one, and each is settled or found by content
* `Diff.Explains`: the lists of a difference are those that the pairs show
* `Diff.pairs`: the pairs from which a difference is taken

## Main results

* `Diff.explains_pairs`: these pairs explain the difference
* `Diff.Explains.added_eq`: what is added, by the identities of the pairs
* `Diff.exists_explains_between`: every difference between two forests has such pairs
-/

namespace CodeOutline

variable {entry a b : Entry} {entries own other old new : List Entry} {identity : Identity}

/-! ### The last of an identity -/

namespace Entry

/-- An entry is the last of its identity: none behind it has that identity. -/
def IsLast (entry : Entry) (entries : List Entry) : Prop :=
  ∃ before after, entries = before ++ entry :: after ∧ ∀ e ∈ after, e.identity ≠ entry.identity

theorem IsLast.mem (h : entry.IsLast entries) : entry ∈ entries := by
  obtain ⟨before, after, rfl, -⟩ := h
  exact List.mem_append_right _ List.mem_cons_self

theorem lastOf?_eq_none_iff :
    lastOf? identity entries = none ↔ ∀ e ∈ entries, e.identity ≠ identity := by
  induction entries with
  | nil => simp [lastOf?]
  | cons head tail ih =>
    cases htail : lastOf? identity tail with
    | none =>
      by_cases hhead : head.identity = identity
      · simp [lastOf?, htail, hhead]
      · simpa [lastOf?, htail, hhead] using ih.1 htail
    | some last =>
      have hnot : ¬ ∀ e ∈ tail, e.identity ≠ identity := fun h => by simp [ih.2 h] at htail
      simp only [lastOf?, htail, reduceCtorEq, List.forall_mem_cons, false_iff, not_and]
      exact fun _ => hnot

theorem lastOf?_eq_some_iff :
    lastOf? identity entries = some entry ↔ entry.IsLast entries ∧ entry.identity = identity := by
  -- what the tail holds of the identity comes behind the head
  induction entries with
  | nil => simp [lastOf?, IsLast]
  | cons head tail ih =>
    constructor
    · intro h
      cases htail : lastOf? identity tail with
      | none =>
        by_cases hhead : head.identity = identity
        · obtain rfl : head = entry := by simpa [lastOf?, htail, hhead] using h
          exact ⟨⟨[], tail, rfl, hhead ▸ lastOf?_eq_none_iff.1 htail⟩, hhead⟩
        · simp [lastOf?, htail, hhead] at h
      | some last =>
        obtain rfl : last = entry := by simpa [lastOf?, htail] using h
        obtain ⟨⟨before, after, rfl, hafter⟩, hlast⟩ := ih.1 htail
        exact ⟨⟨head :: before, after, rfl, hafter⟩, hlast⟩
    · rintro ⟨⟨before, after, hsplit, hafter⟩, rfl⟩
      cases before with
      | nil =>
        obtain ⟨rfl, rfl⟩ := List.cons.inj hsplit
        simp [lastOf?, lastOf?_eq_none_iff.2 hafter]
      | cons first before =>
        obtain ⟨-, htail⟩ := List.cons.inj hsplit
        simp [lastOf?, ih.2 ⟨⟨before, after, htail, hafter⟩, rfl⟩]

/-- An identity has one last entry. -/
theorem IsLast.eq (ha : a.IsLast entries) (hb : b.IsLast entries) (h : a.identity = b.identity) :
    a = b := by
  have hsome := (lastOf?_eq_some_iff.2 ⟨ha, rfl⟩).symm.trans (lastOf?_eq_some_iff.2 ⟨hb, h.symm⟩)
  exact Option.some.inj hsome

/-- Every identity that occurs has a last entry. -/
theorem exists_isLast (h : entry ∈ entries) :
    ∃ last : Entry, last.IsLast entries ∧ last.identity = entry.identity := by
  cases hlast : lastOf? entry.identity entries with
  | none => exact absurd rfl (lastOf?_eq_none_iff.1 hlast entry h)
  | some last => exact ⟨last, lastOf?_eq_some_iff.1 hlast⟩

instance : Decidable (entry.IsLast entries) :=
  decidable_of_iff (lastOf? entry.identity entries = some entry)
    (lastOf?_eq_some_iff.trans (and_iff_left rfl))

/-- An entry is settled if it is the last of an identity that the other forest knows. -/
theorem isSettled_iff (hids : (own.map Entry.id).Nodup) (hmem : entry ∈ own) :
    entry.isSettled own other = true ↔
      entry.IsLast own ∧ ∃ e : Entry, e.IsLast other ∧ e.identity = entry.identity := by
  simp only [isSettled, Bool.and_eq_true, Option.any_eq_true, Option.isSome_iff_exists,
    lastOf?_eq_some_iff, beq_iff_eq]
  refine and_congr_left' ⟨?_, fun h => ⟨entry, ⟨h, rfl⟩, rfl⟩⟩
  rintro ⟨last, ⟨hlast, -⟩, hid⟩
  rwa [← List.inj_on_of_nodup_map hids hlast.mem hmem hid]

/-! ### Content -/

/-- Two entries have the same content: equal hashes, or one identity where neither has a hash. -/
def SameContent (a b : Entry) : Prop :=
  (∃ hash, a.hash = some hash ∧ b.hash = some hash) ∨
    a.hash = none ∧ b.hash = none ∧ a.identity = b.identity

theorem key_eq_iff : a.key = b.key ↔ a.SameContent b := by
  cases ha : a.hash <;> cases hb : b.hash <;> simp [key, SameContent, ha, hb, eq_comm]

end Entry

/-! ### The entries of a forest -/

namespace Forest

variable {forest : Forest}

/-- The entries are the nodes that a walk visits, each with what it is compared by. -/
theorem mem_entries :
    entry ∈ forest.entries ↔ entry.id ∈ forest.preorder ∧
      forest.node? entry.id = some entry.node ∧ entry.hash = forest.comparableHash? entry.id := by
  simp only [entries, List.mem_filterMap, Option.map_eq_some_iff]
  constructor
  · rintro ⟨id, hid, node, hnode, rfl⟩
    exact ⟨hid, hnode, rfl⟩
  · rintro ⟨hid, hnode, hhash⟩
    exact ⟨entry.id, hid, entry.node, hnode, by rw [← hhash]⟩

theorem entries_ids_sublist (forest : Forest) :
    (forest.entries.map Entry.id).Sublist forest.preorder := by
  rw [entries]
  induction forest.preorder with
  | nil => simp
  | cons id ids ih =>
    cases hnode : forest.node? id with
    | none => simpa [hnode] using ih.cons id
    | some node => simpa [hnode] using ih

/-- No node has two entries if the walk visits none twice. -/
theorem nodup_entries_ids (h : forest.preorder.Nodup) : (forest.entries.map Entry.id).Nodup :=
  (entries_ids_sublist forest).nodup h

end Forest

/-! ### Pairs -/

namespace Diff

/-- A pair of the last entries of one identity. -/
def IsSettled (old new : List Entry) (p : Entry × Entry) : Prop :=
  p.1.IsLast old ∧ p.2.IsLast new ∧ p.1.identity = p.2.identity

instance (old new : List Entry) : DecidablePred (IsSettled old new) :=
  fun _ => inferInstanceAs (Decidable (_ ∧ _ ∧ _))

/-- A one-to-one pairing of some old entries with some new ones, listed in the order of the new
ones. The last entries of an identity that both sides know are paired; every other pair has the same
content. -/
structure IsPairing (old new : List Entry) (pairs : List (Entry × Entry)) : Prop where
  old_mem : ∀ p ∈ pairs, p.1 ∈ old
  new_sublist : (pairs.map Prod.snd).Sublist new
  old_nodup : (pairs.map (·.1.id)).Nodup
  new_nodup : (pairs.map (·.2.id)).Nodup
  settled_mem : ∀ p, IsSettled old new p → p ∈ pairs
  content : ∀ p ∈ pairs, ¬ IsSettled old new p → p.1.SameContent p.2

/-- No old entry is in two pairs. -/
theorem IsPairing.nodup_fst {pairs : List (Entry × Entry)} (h : IsPairing old new pairs) :
    (pairs.map Prod.fst).Nodup := by
  have hids : ((pairs.map Prod.fst).map Entry.id).Nodup := by
    simpa [Function.comp_def] using h.old_nodup
  exact hids.of_map

/-- The lists of a difference are the ones that the pairs show. -/
structure Explains (options : DiffOptions) (old new : List Entry) (pairs : List (Entry × Entry))
    (diff : Diff) : Prop extends IsPairing old new pairs where
  /-- settled pairs with different hashes, in the order of the new entries -/
  modified : diff.modified =
    (pairs.filter fun p => IsSettled old new p ∧ p.1.hash ≠ p.2.hash).map
      fun p => ⟨p.1.node, p.2.node⟩
  /-- pairs under two identities, in the order of the new entries -/
  relocated : diff.relocated =
    (pairs.filter fun p => p.1.identity ≠ p.2.identity).map fun p =>
      ⟨p.1.node, p.2.node, .classify options.moveDetection p.1.node p.2.node, .exact⟩
  /-- what is relocated kept its hash -/
  relocated_hash : ∀ p ∈ pairs, p.1.identity ≠ p.2.identity →
    ∃ hash, p.1.hash = some hash ∧ p.2.hash = some hash
  /-- the old entries in no pair, in order -/
  removed : diff.removed = (old.filter fun a => a ∉ pairs.map Prod.fst).map Entry.node
  /-- the new entries in no pair whose identity is neither known nor the goal of a relocation, in
  order -/
  added : diff.added =
    (new.filter fun b => b ∉ pairs.map Prod.snd ∧ b.identity ∉ old.map Entry.identity ∧
      b.identity ∉ diff.relocated.map (·.new.identity)).map Entry.node
  refactorings : diff.refactorings =
    if options.detectRefactorings then Refactoring.detect diff.added diff.removed diff.modified
    else []

/-! ### The pairs of a difference -/

/-- The pairs found by content, and what is left over. -/
def matched (old new : List Entry) : Pairing :=
  pairUp (new.filter fun e => !e.isSettled new old) (old.filter fun e => !e.isSettled old new)

/-- The pairs from which a difference is taken: the settled ones and those found by content. -/
def pairs (old new : List Entry) : List (Entry × Entry) :=
  arrange new (settledPairs old new ++ (matched old new).pairs)

section

variable (hold : (old.map Entry.id).Nodup) (hnew : (new.map Entry.id).Nodup)
include hnew

theorem mem_settledPairs {p : Entry × Entry} :
    p ∈ settledPairs old new ↔ IsSettled old new p := by
  simp only [settledPairs, List.mem_filterMap, List.mem_filter, Option.map_eq_some_iff,
    Entry.lastOf?_eq_some_iff]
  constructor
  · rintro ⟨b, ⟨hb, hsettled⟩, a, ⟨ha, hidentity⟩, rfl⟩
    exact ⟨ha, ((Entry.isSettled_iff hnew hb).1 hsettled).1, hidentity⟩
  · rintro ⟨ha, hb, hidentity⟩
    exact ⟨p.2, ⟨hb.mem, (Entry.isSettled_iff hnew hb.mem).2 ⟨hb, p.1, ha, hidentity⟩⟩, p.1,
      ⟨ha, hidentity⟩, rfl⟩

omit hnew in
theorem settledPairs_sublist (old new : List Entry) :
    ((settledPairs old new).map Prod.snd).Sublist new := by
  refine List.Sublist.trans ?_ (List.filter_sublist (p := Entry.isSettled new old))
  rw [settledPairs]
  induction new.filter (Entry.isSettled new old) with
  | nil => simp
  | cons b bs ih =>
    cases hlast : Entry.lastOf? b.identity old with
    | none => simpa [hlast] using ih.cons b
    | some a => simpa [hlast] using ih

include hold in
/-- An old entry is settled if a settled pair uses it. -/
theorem mem_settledPairs_fst (ha : a ∈ old) :
    a ∈ (settledPairs old new).map Prod.fst ↔ a.isSettled old new = true := by
  rw [Entry.isSettled_iff hold ha, List.mem_map]
  constructor
  · rintro ⟨p, hp, rfl⟩
    obtain ⟨hfst, hsnd, hidentity⟩ := (mem_settledPairs hnew).1 hp
    exact ⟨hfst, p.2, hsnd, hidentity.symm⟩
  · rintro ⟨hfst, b, hsnd, hidentity⟩
    exact ⟨(a, b), (mem_settledPairs hnew).2 ⟨hfst, hsnd, hidentity.symm⟩, rfl⟩

theorem mem_settledPairs_snd (hb : b ∈ new) :
    b ∈ (settledPairs old new).map Prod.snd ↔ b.isSettled new old = true := by
  rw [List.mem_map]
  constructor
  · rintro ⟨p, hp, rfl⟩
    obtain ⟨hfst, hsnd, hidentity⟩ := (mem_settledPairs hnew).1 hp
    exact (Entry.isSettled_iff hnew hb).2 ⟨hsnd, p.1, hfst, hidentity⟩
  · intro h
    obtain ⟨hsnd, a, hfst, hidentity⟩ := (Entry.isSettled_iff hnew hb).1 h
    exact ⟨(a, b), (mem_settledPairs hnew).2 ⟨hfst, hsnd, hidentity⟩, rfl⟩

omit hnew in
theorem snd_mem_of_mem_matched {p : Entry × Entry} (h : p ∈ (matched old new).pairs) :
    p.2 ∈ new ∧ p.2.isSettled new old = false := by
  simpa using snd_mem_of_mem_pairUp h

omit hnew in
theorem fst_mem_of_mem_matched {p : Entry × Entry} (h : p ∈ (matched old new).pairs) :
    p.1 ∈ old ∧ p.1.isSettled old new = false := by
  simpa using fst_mem_of_mem_pairUp h

/-- No new entry is used by two of the pairs. -/
theorem nodup_given_snd :
    ((settledPairs old new ++ (matched old new).pairs).map Prod.snd).Nodup := by
  have hnewNodup : new.Nodup := hnew.of_map
  have hsettled := (settledPairs_sublist old new).nodup hnewNodup
  have hmatched : ((matched old new).pairs.map Prod.snd).Nodup :=
    (pairUp_pairs_sublist _ _).nodup (hnewNodup.filter _)
  rw [List.map_append, List.nodup_append']
  -- what is settled is not looked at when entries are paired by content
  refine ⟨hsettled, hmatched, ?_⟩
  intro b hb hb'
  obtain ⟨p, hp, rfl⟩ := List.mem_map.1 hb'
  obtain ⟨hmem, hunsettled⟩ := snd_mem_of_mem_matched hp
  rw [mem_settledPairs_snd hnew hmem, hunsettled] at hb
  exact Bool.false_ne_true hb

include hold in
/-- No old entry is used by two of the pairs. -/
theorem nodup_given_fst :
    ((settledPairs old new ++ (matched old new).pairs).map Prod.fst).Nodup := by
  have hsettled : ((settledPairs old new).map Prod.fst).Nodup := by
    refine List.Nodup.map_on (fun p hp q hq heq => ?_)
      ((settledPairs_sublist old new).nodup hnew.of_map).of_map
    obtain ⟨-, hp, hpid⟩ := (mem_settledPairs hnew).1 hp
    obtain ⟨-, hq, hqid⟩ := (mem_settledPairs hnew).1 hq
    exact Prod.ext heq (hp.eq hq (by rw [← hpid, ← hqid, heq]))
  have hmatched : ((matched old new).pairs.map Prod.fst).Nodup :=
    nodup_pairUp_fst (hold.of_map.filter _)
  rw [List.map_append, List.nodup_append']
  refine ⟨hsettled, hmatched, ?_⟩
  intro a ha ha'
  obtain ⟨p, hp, rfl⟩ := List.mem_map.1 ha'
  obtain ⟨hmem, hunsettled⟩ := fst_mem_of_mem_matched hp
  rw [mem_settledPairs_fst hold hnew hmem, hunsettled] at ha
  exact Bool.false_ne_true ha

theorem pairs_perm :
    (pairs old new).Perm (settledPairs old new ++ (matched old new).pairs) := by
  apply arrange_perm hnew.of_map (nodup_given_snd hnew)
  intro p hp
  rcases List.mem_append.1 hp with hp | hp
  · exact ((mem_settledPairs hnew).1 hp).2.1.mem
  · exact (snd_mem_of_mem_matched hp).1

theorem mem_pairs {p : Entry × Entry} :
    p ∈ pairs old new ↔ IsSettled old new p ∨ p ∈ (matched old new).pairs := by
  rw [(pairs_perm hnew).mem_iff, List.mem_append, mem_settledPairs hnew]

include hold in
/-- The pairs are one to one, and each is settled or found by content. -/
theorem isPairing_pairs : IsPairing old new (pairs old new) := by
  have holdMem : ∀ p ∈ pairs old new, p.1 ∈ old := by
    intro p hp
    rcases (mem_pairs hnew).1 hp with hp | hp
    · exact hp.1.mem
    · exact (fst_mem_of_mem_matched hp).1
  have hsublist := arrange_sublist new (settledPairs old new ++ (matched old new).pairs)
  constructor
  case old_mem => exact holdMem
  case new_sublist => exact hsublist
  case old_nodup =>
    have hfst : ((pairs old new).map Prod.fst).Nodup :=
      ((pairs_perm hnew).map Prod.fst).nodup_iff.2 (nodup_given_fst hold hnew)
    change ((pairs old new).map (Entry.id ∘ Prod.fst)).Nodup
    rw [← List.map_map]
    apply hfst.map_on
    intro a ha b hb heq
    obtain ⟨p, hp, rfl⟩ := List.mem_map.1 ha
    obtain ⟨q, hq, rfl⟩ := List.mem_map.1 hb
    exact List.inj_on_of_nodup_map hold (holdMem p hp) (holdMem q hq) heq
  case new_nodup =>
    change ((pairs old new).map (Entry.id ∘ Prod.snd)).Nodup
    rw [← List.map_map]
    exact (hsublist.map Entry.id).nodup hnew
  case settled_mem => exact fun p hp => (mem_pairs hnew).2 (.inl hp)
  case content =>
    intro p hp hnot
    have hmatched := ((mem_pairs hnew).1 hp).resolve_left hnot
    exact Entry.key_eq_iff.1 (key_eq_of_mem_pairUp hmatched)

/-! ### Reading the difference off the pairs -/

omit hnew in
theorem filterMap_modification? (ps : List (Entry × Entry)) :
    ps.filterMap modification? =
      (ps.filter fun p => p.1.hash ≠ p.2.hash).map fun p => ⟨p.1.node, p.2.node⟩ := by
  induction ps with
  | nil => rfl
  | cons p ps ih => by_cases h : p.1.hash = p.2.hash <;> simp [modification?, h, ih]

omit hnew in
theorem filterMap_relocation? (detection : MoveDetection) (ps : List (Entry × Entry)) :
    ps.filterMap (relocation? detection) =
      (ps.filter fun p => p.1.identity ≠ p.2.identity).map fun p =>
        ⟨p.1.node, p.2.node, .classify detection p.1.node p.2.node, .exact⟩ := by
  induction ps with
  | nil => rfl
  | cons p ps ih => by_cases h : p.1.identity = p.2.identity <;> simp [relocation?, h, ih]

theorem pairs_filter_settled :
    ((pairs old new).filter fun p => IsSettled old new p ∧ p.1.hash ≠ p.2.hash) =
      (settledPairs old new).filter fun p => p.1.hash ≠ p.2.hash := by
  refine eq_of_snd_sublist hnew.of_map ((List.filter_sublist.map _).trans (arrange_sublist _ _))
    ((List.filter_sublist.map _).trans (settledPairs_sublist old new)) fun p => ?_
  simp only [List.mem_filter, decide_eq_true_iff, mem_pairs hnew, mem_settledPairs hnew]
  tauto

theorem pairs_filter_relocated :
    ((pairs old new).filter fun p => p.1.identity ≠ p.2.identity) =
      (matched old new).pairs.filter fun p => p.1.identity ≠ p.2.identity := by
  have hmatched : ((matched old new).pairs.map Prod.snd).Sublist new :=
    (pairUp_pairs_sublist _ _).trans List.filter_sublist
  refine eq_of_snd_sublist hnew.of_map ((List.filter_sublist.map _).trans (arrange_sublist _ _))
    ((List.filter_sublist.map _).trans hmatched) fun p => ?_
  simp only [List.mem_filter, decide_eq_true_iff, mem_pairs hnew, IsSettled]
  tauto

include hold in
theorem mem_pairs_fst (ha : a ∈ old) :
    a ∈ (pairs old new).map Prod.fst ↔
      a.isSettled old new = true ∨ a ∈ (matched old new).pairs.map Prod.fst := by
  rw [((pairs_perm hnew).map Prod.fst).mem_iff, List.map_append, List.mem_append,
    mem_settledPairs_fst hold hnew ha]

theorem mem_pairs_snd (hb : b ∈ new) :
    b ∈ (pairs old new).map Prod.snd ↔
      b.isSettled new old = true ∨ b ∈ (matched old new).pairs.map Prod.snd := by
  rw [((pairs_perm hnew).map Prod.snd).mem_iff, List.map_append, List.mem_append,
    mem_settledPairs_snd hnew hb]

include hold in
/-- The departures are the old entries that no pair uses. -/
theorem departures_eq :
    (matched old new).departures = old.filter fun a => a ∉ (pairs old new).map Prod.fst := by
  rw [matched, pairUp_departures_eq (hold.of_map.filter _), List.filter_filter, ← matched]
  apply List.filter_congr
  intro a ha
  simp only [mem_pairs_fst hold hnew ha]
  cases a.isSettled old new <;> simp

/-- The arrivals are the new entries that no pair uses. -/
theorem arrivals_eq :
    (matched old new).arrivals = new.filter fun b => b ∉ (pairs old new).map Prod.snd := by
  rw [matched, pairUp_arrivals_eq (hnew.of_map.filter _), List.filter_filter, ← matched]
  apply List.filter_congr
  intro b hb
  simp only [mem_pairs_snd hnew hb]
  cases b.isSettled new old <;> simp

include hold in
/-- The difference between two walks is explained by its pairs. -/
theorem explains_pairs (options : DiffOptions) :
    Explains options old new (pairs old new) (ofEntries options old new) := by
  have hpairing := isPairing_pairs hold hnew
  constructor
  case toIsPairing => exact hpairing
  case modified =>
    rw [pairs_filter_settled hnew, ← filterMap_modification?]
    rfl
  case relocated =>
    rw [pairs_filter_relocated hnew, ← filterMap_relocation?]
    rfl
  case relocated_hash =>
    intro p hp hne
    -- entries without a hash are paired under one identity only
    have hnot : ¬ IsSettled old new p := fun h => hne h.2.2
    rcases hpairing.content p hp hnot with hhash | ⟨-, -, hidentity⟩
    · exact hhash
    · exact absurd hidentity hne
  case removed =>
    rw [← departures_eq hold hnew]
    rfl
  case added =>
    change (((matched old new).arrivals.filter _).map _) = _
    rw [arrivals_eq hnew, List.filter_filter]
    congr 1
    refine List.filter_congr fun b _ => ?_
    rw [Bool.eq_iff_iff]
    simp only [ofEntries, Bool.and_eq_true, Bool.not_eq_true', List.contains_eq_mem,
      decide_eq_false_iff_not, decide_eq_true_iff, List.mem_append, not_or]
    tauto
  case refactorings => rfl

end

/-! ### What is added -/

namespace Explains

variable {options : DiffOptions} {pairs : List (Entry × Entry)} {diff : Diff}
  (h : Explains options old new pairs diff)
include h

/-- The identities that the old forest knows, and those where something is relocated to, are the ones
under which a new entry is paired. -/
theorem mem_paired_identities_iff (hb : b ∈ new) :
    b.identity ∈ pairs.map (·.2.identity) ↔
      b.identity ∈ old.map Entry.identity ∨ b.identity ∈ diff.relocated.map (·.new.identity) := by
  simp only [h.relocated, List.map_map, List.mem_map, List.mem_filter, decide_eq_true_iff]
  constructor
  · rintro ⟨p, hp, hidentity⟩
    by_cases hsame : p.1.identity = p.2.identity
    · exact .inl ⟨p.1, h.old_mem p hp, hsame.trans hidentity⟩
    · exact .inr ⟨p, ⟨hp, hsame⟩, hidentity⟩
  · rintro (⟨a, ha, hidentity⟩ | ⟨p, ⟨hp, -⟩, hidentity⟩)
    · -- the last nodes of an identity are paired where both sides know it
      obtain ⟨lastOld, hlastOld, hold⟩ := Entry.exists_isLast ha
      obtain ⟨lastNew, hlastNew, hnew⟩ := Entry.exists_isLast hb
      refine ⟨(lastOld, lastNew), h.settled_mem _ ⟨hlastOld, hlastNew, ?_⟩, hnew⟩
      rw [hold, hnew, hidentity]
    · exact ⟨p, hp, hidentity⟩

/-- What is added are the new entries in no pair, unless another one of their identity is in one. -/
theorem added_eq :
    diff.added = (new.filter fun b =>
      b ∉ pairs.map Prod.snd ∧ b.identity ∉ pairs.map (·.2.identity)).map Entry.node := by
  rw [h.added]
  congr 1
  refine List.filter_congr fun b hb => ?_
  simp only [h.mem_paired_identities_iff hb, not_or]

/-- Where no identity occurs twice, only a paired entry has the identity of a paired one. -/
theorem mem_paired_of_identity_mem (hunique : (new.map Entry.identity).Nodup) (hb : b ∈ new)
    (hmem : b.identity ∈ pairs.map (·.2.identity)) : b ∈ pairs.map Prod.snd := by
  obtain ⟨p, hp, hidentity⟩ := List.mem_map.1 hmem
  have hpaired : p.2 ∈ pairs.map Prod.snd := List.mem_map_of_mem hp
  rwa [List.inj_on_of_nodup_map hunique (h.new_sublist.subset hpaired) hb hidentity] at hpaired

/-- What is relocated leads from an old entry to a new one of the same hash and another identity. -/
theorem exists_of_mem_relocated {r : Relocation} (hr : r ∈ diff.relocated) :
    ∃ a ∈ old, ∃ b ∈ new, a.identity ≠ b.identity ∧
      (∃ hash, a.hash = some hash ∧ b.hash = some hash) ∧
      r = ⟨a.node, b.node, .classify options.moveDetection a.node b.node, .exact⟩ := by
  rw [h.relocated] at hr
  obtain ⟨p, hp, rfl⟩ := List.mem_map.1 hr
  obtain ⟨hmem, hne⟩ := List.mem_filter.1 hp
  have hne := of_decide_eq_true hne
  exact ⟨p.1, h.old_mem p hmem, p.2, h.new_sublist.subset (List.mem_map_of_mem hmem), hne,
    h.relocated_hash p hmem hne, rfl⟩

end Explains

/-- **Every difference is explained by a one-to-one pairing** of nodes of the old forest with nodes
of the new one, as long as the walks visit no node twice. -/
theorem exists_explains_between (options : DiffOptions) (old new : Forest)
    (hold : old.preorder.Nodup) (hnew : new.preorder.Nodup) :
    ∃ pairs, Explains options old.entries new.entries pairs (between options old new) :=
  ⟨pairs old.entries new.entries,
    explains_pairs (Forest.nodup_entries_ids hold) (Forest.nodup_entries_ids hnew) options⟩

/-- A file holds two functions of one name and without a hash; then one of them is gone, and a third
function, known by its hash, has another file. -/
theorem exists_explains_between_twins :
    let file (name : String) (forest : Forest) := forest.grow (.named .file name) none
    let function (name hash : String) (parent : NodeId) (forest : Forest) :=
      forest.grow { Node.named .function name with path := "#" ++ name, hash := hash } (some parent)
    let old := function "g" "77" 0 (function "f" "" 0 (function "f" "" 0 (file "a.ts" .empty)))
    let new := function "h" "77" 2 (file "b.ts" (function "f" "" 0 (file "a.ts" .empty)))
    old.preorder.Nodup ∧ new.preorder.Nodup ∧
      ∃ pairs, Explains .standard old.entries new.entries pairs (between .standard old new) :=
  ⟨by decide, by decide, exists_explains_between _ _ _ (by decide) (by decide)⟩

end Diff

end CodeOutline
