import CodeOutline.Proofs.Diff.Balance
import CodeOutline.Proofs.Diff.Leftovers

/-!
# Forests that are alike

Two forests are alike if walks through them come to the same identities with the same hashes in the
same order. Whatever is repeated in them, identities or hashes, nothing changes from one to the
other: at every place the two nodes are both the last of their identity or both not, so pairing by
identity leaves over the same places on both sides, and pairing by content then comes to the two
nodes of a place at the same time.

## Main results

* `pairUp_of_contents_eq`: entries that are alike are paired place by place
* `Diff.between_eq_empty`: nothing changes between forests that are alike, and so between a forest
  and itself
-/

namespace CodeOutline

variable {entry a b : Entry} {own other old new before after : List Entry} {p : Entry × Entry}

/-- No change at all. -/
def Diff.empty : Diff := ⟨[], [], [], [], []⟩

theorem Diff.eq_empty_iff {diff : Diff} : diff = .empty ↔ diff.added = [] ∧ diff.removed = [] ∧
    diff.modified = [] ∧ diff.relocated = [] ∧ diff.refactorings = [] := by
  cases diff
  simp [empty]

/-! ### Twins -/

namespace Entry

theorem identity_eq_of_content_eq (h : a.content = b.content) : a.identity = b.identity :=
  congrArg Prod.fst h

theorem hash_eq_of_content_eq (h : a.content = b.content) : a.hash = b.hash :=
  congrArg Prod.snd h

theorem key_eq_of_content_eq (h : a.content = b.content) : a.key = b.key := by
  rw [key, key, hash_eq_of_content_eq h, identity_eq_of_content_eq h]

theorem identities_eq_of_contents_eq (h : old.map content = new.map content) :
    old.map identity = new.map identity := by
  have hfst := congrArg (List.map Prod.fst) h
  rwa [List.map_map, List.map_map] at hfst

/-- Every entry has a twin at its place in a list that is alike. -/
theorem exists_twin (h : (before ++ a :: after).map content = new.map content) :
    ∃ before' b after', new = before' ++ b :: after' ∧ before'.map content = before.map content ∧
      b.content = a.content ∧ after'.map content = after.map content := by
  rw [List.map_append, List.map_cons, eq_comm, List.map_eq_append_iff] at h
  obtain ⟨before', rest, rfl, hbefore, hrest⟩ := h
  obtain ⟨b, after', rfl, hb, hafter⟩ := List.map_eq_cons_iff.1 hrest
  exact ⟨before', b, after', rfl, hbefore, hb, hafter⟩

/-- In a list without repetition an entry is the last of its identity if none behind it has that
identity. -/
theorem isLast_append_cons_iff (hnodup : (before ++ a :: after).Nodup) :
    a.IsLast (before ++ a :: after) ↔ a.identity ∉ after.map identity := by
  rw [List.mem_map, not_exists]
  constructor
  · rintro ⟨before', after', hsplit, hlast⟩ e ⟨he, heq⟩
    -- the entry occurs once, so there is one way to split the list at it
    have hbefore : a ∉ before := fun h =>
      (List.nodup_append'.1 hnodup).2.2 h List.mem_cons_self
    have hafter : a ∉ after := (List.nodup_cons.1 (List.nodup_append'.1 hnodup).2.1).1
    obtain ⟨-, -, rfl⟩ := (List.append_cons_inj_of_notMem hbefore hafter).1 hsplit
    exact hlast e he heq
  · exact fun h => ⟨before, after, rfl, fun e he heq => h e ⟨he, heq⟩⟩

theorem mem_identities_iff_exists_isLast {i : Identity} :
    i ∈ own.map identity ↔ ∃ e : Entry, e.IsLast own ∧ e.identity = i := by
  constructor
  · intro h
    obtain ⟨e, he, rfl⟩ := List.mem_map.1 h
    exact exists_isLast he
  · rintro ⟨e, he, rfl⟩
    exact List.mem_map_of_mem he.mem

/-- The last entries of an identity are twins. -/
theorem IsLast.content_eq (hold : old.Nodup) (hnew : new.Nodup)
    (h : old.map content = new.map content) (ha : a.IsLast old) (hb : b.IsLast new)
    (hab : a.identity = b.identity) : a.content = b.content := by
  obtain ⟨before, after, rfl, hlast⟩ := ha
  obtain ⟨before', twin, after', rfl, -, htwin, hafter⟩ := exists_twin h
  have hidentity := identity_eq_of_content_eq htwin
  have htwinLast : twin.IsLast (before' ++ twin :: after') := by
    rw [isLast_append_cons_iff hnew, identities_eq_of_contents_eq hafter, hidentity,
      ← isLast_append_cons_iff hold]
    exact ⟨before, after, rfl, hlast⟩
  rw [← htwin, htwinLast.eq hb (hidentity.trans hab)]

/-- Twins are both settled, or both not. -/
theorem isSettled_eq_of_twin {before' after' : List Entry}
    (hold : ((before ++ a :: after).map Entry.id).Nodup)
    (hnew : ((before' ++ b :: after').map Entry.id).Nodup)
    (hbefore : before.map content = before'.map content) (hab : a.content = b.content)
    (hafter : after.map content = after'.map content) :
    a.isSettled (before ++ a :: after) (before' ++ b :: after') =
      b.isSettled (before' ++ b :: after') (before ++ a :: after) := by
  have hidentity := identity_eq_of_content_eq hab
  have hall : (before ++ a :: after).map identity = (before' ++ b :: after').map identity :=
    identities_eq_of_contents_eq (by simp only [List.map_append, List.map_cons, hbefore, hab,
      hafter])
  rw [Bool.eq_iff_iff, isSettled_iff hold (by simp), isSettled_iff hnew (by simp),
    isLast_append_cons_iff hold.of_map, isLast_append_cons_iff hnew.of_map,
    ← mem_identities_iff_exists_isLast, ← mem_identities_iff_exists_isLast, hall, hidentity,
    identities_eq_of_contents_eq hafter]

end Entry

/-! ### Pairing place by place -/

theorem content_eq_of_mem_zip (h : old.map Entry.content = new.map Entry.content)
    (hp : p ∈ old.zip new) : p.1.content = p.2.content := by
  have hrel : List.Forall₂ (fun a b => a.content = b.content) old new := by
    rwa [← List.forall₂_map_right_iff, ← List.forall₂_map_left_iff, List.forall₂_eq_eq_eq]
  exact (List.forall₂_iff_zip.1 hrel).2 hp

/-- Entries that are alike are paired place by place, and nothing is left over. -/
theorem pairUp_of_contents_eq (h : old.map Entry.content = new.map Entry.content) :
    pairUp new old = ⟨old.zip new, [], []⟩ := by
  induction new generalizing old with
  | nil =>
    rw [List.map_nil, List.map_eq_nil_iff] at h
    simp [pairUp, h]
  | cons b new ih =>
    obtain ⟨a, rest, rfl, hab, hrest⟩ := List.map_eq_cons_iff.1 h
    -- the first old entry has the key of the first new one
    have htake : takeFirst? b.key (a :: rest) = some (a, rest) := by
      rw [takeFirst?, if_pos (Entry.key_eq_of_content_eq hab)]
    rw [pairUp, htake]
    simp [ih hrest]

namespace Diff

section

variable (hold : (old.map Entry.id).Nodup) (hnew : (new.map Entry.id).Nodup)
  (h : old.map Entry.content = new.map Entry.content)
include hold hnew h

/-- Pairing by identity leaves over entries that are alike. -/
theorem unsettled_contents_eq :
    (unsettled old new).map Entry.content = (unsettled new old).map Entry.content := by
  -- entry by entry from the front, beside what has been passed already
  suffices hrest : ∀ done done' rest rest' : List Entry, old = done ++ rest → new = done' ++ rest' →
      done.map Entry.content = done'.map Entry.content →
      rest.map Entry.content = rest'.map Entry.content →
      (rest.filter fun e => !e.isSettled old new).map Entry.content =
        (rest'.filter fun e => !e.isSettled new old).map Entry.content from
    hrest [] [] old new rfl rfl rfl h
  intro done done' rest
  induction rest generalizing done done' with
  | nil =>
    intro rest' _ _ _ hrest
    rw [List.map_nil, eq_comm, List.map_eq_nil_iff] at hrest
    simp [hrest]
  | cons a rest ih =>
    intro rest' holdSplit hnewSplit hdone hrest
    rw [List.map_cons, eq_comm, List.map_eq_cons_iff] at hrest
    obtain ⟨b, rest', rfl, hab, hrest⟩ := hrest
    have htail := ih (done ++ [a]) (done' ++ [b]) rest' (by simpa using holdSplit)
      (by simpa using hnewSplit) (by simp [hdone, hab]) hrest.symm
    have hsettled : a.isSettled old new = b.isSettled new old := by
      rw [holdSplit, hnewSplit]
      rw [holdSplit] at hold
      rw [hnewSplit] at hnew
      exact Entry.isSettled_eq_of_twin hold hnew hdone hab.symm hrest.symm
    cases hb : b.isSettled new old with
    | true => simpa [hsettled, hb] using htail
    | false => simpa [hsettled, hb, hab] using htail

omit h in
/-- Nothing changes if settled pairs have one hash, pairs found by content have one identity, and
nothing is left over. -/
theorem ofEntries_eq_empty (options : DiffOptions)
    (hsettled : ∀ p, IsSettled old new p → p.1.hash = p.2.hash)
    (hmatched : ∀ p ∈ (matched old new).pairs, p.1.identity = p.2.identity)
    (hdepartures : (matched old new).departures = []) (harrivals : (matched old new).arrivals = []) :
    ofEntries options old new = .empty := by
  have hexplains := explains_pairs hold hnew options
  have hserves := servesInOrder_ofEntries options old new
  have hadded : (ofEntries options old new).added = [] := by simp [hserves.added, harrivals]
  have hremoved : (ofEntries options old new).removed = [] := by simp [hserves.removed, hdepartures]
  have hmodified : (ofEntries options old new).modified = [] := by
    rw [hexplains.modified, List.map_eq_nil_iff, List.filter_eq_nil_iff]
    intro p _ hp
    obtain ⟨hp, hhash⟩ := of_decide_eq_true hp
    exact hhash (hsettled p hp)
  have hrelocated : (ofEntries options old new).relocated = [] := by
    rw [hserves.relocated, filterMap_relocation?, List.map_eq_nil_iff, List.filter_eq_nil_iff]
    intro p hp hne
    exact of_decide_eq_true hne (hmatched p hp)
  have hrefactorings : (ofEntries options old new).refactorings = [] := by
    simp [hexplains.refactorings, hadded, hremoved, Refactoring.detect, Refactoring.functions]
  exact eq_empty_iff.2 ⟨hadded, hremoved, hmodified, hrelocated, hrefactorings⟩

/-- Nothing changes between entries that are alike. -/
theorem ofEntries_eq_empty_of_contents_eq (options : DiffOptions) :
    ofEntries options old new = .empty := by
  have hleft := unsettled_contents_eq hold hnew h
  have hmatched : matched old new = ⟨(unsettled old new).zip (unsettled new old), [], []⟩ :=
    pairUp_of_contents_eq hleft
  apply ofEntries_eq_empty hold hnew
  · rintro p ⟨hfst, hsnd, hidentity⟩
    have hcontent := hfst.content_eq hold.of_map hnew.of_map h hsnd hidentity
    exact Entry.hash_eq_of_content_eq hcontent
  · intro p hp
    rw [hmatched] at hp
    exact Entry.identity_eq_of_content_eq (content_eq_of_mem_zip hleft hp)
  · rw [hmatched]
  · rw [hmatched]

end

/-- Nothing changes between forests with the same contents whose links agree. -/
theorem between_eq_empty_of_contents_eq {old new : Forest} (hold : old.Rooted) (hnew : new.Rooted)
    (h : old.contents = new.contents) (options : DiffOptions) :
    between options old new = .empty :=
  ofEntries_eq_empty_of_contents_eq (Forest.nodup_entries_ids hold.nodup_preorder)
    (Forest.nodup_entries_ids hnew.nodup_preorder) h options

/-- **Nothing changes between forests that are alike**: walks through both come to the same
identities with the same hashes in the same order, and to no node twice. In particular nothing
changes from the forest of an outline or a snapshot to itself. -/
theorem between_eq_empty :
    (∀ (options : DiffOptions) (old new : Forest), old.preorder.Nodup → new.preorder.Nodup →
      old.contents = new.contents → between options old new = .empty) ∧
    ∀ (options : DiffOptions) (source : Source),
      between options source.forest source.forest = .empty := by
  have halike : ∀ (options : DiffOptions) (old new : Forest), old.preorder.Nodup →
      new.preorder.Nodup → old.contents = new.contents → between options old new = .empty :=
    fun options old new hold hnew h => ofEntries_eq_empty_of_contents_eq
      (Forest.nodup_entries_ids hold) (Forest.nodup_entries_ids hnew) h options
  refine ⟨halike, fun options source => ?_⟩
  have hnodup := source.rooted_forest.nodup_preorder
  exact halike options _ _ hnodup hnodup rfl

/-- Two forests are alike though they come from different lines: each has a file with two functions
of one name and without a hash, and two files with functions of one name and one hash. -/
theorem between_eq_empty_crowd :
    let file (name : String) (forest : Forest) :=
      forest.grow { Node.named .file name with hash := name } none
    let function (hash : String) (line parent : Nat) (path : String) (forest : Forest) :=
      forest.grow { Node.named .function path with hash := hash, line := line } (some parent)
    let forest (line : Nat) := function "7" line 1 "b.ts#g" (function "7" line 1 "b.ts#g"
      (function "7" line 0 "a.ts#g" (function "7" line 0 "a.ts#g" (function "" line 0 "a.ts#f"
        (function "" line 0 "a.ts#f" (file "b.ts" (file "a.ts" .empty)))))))
    ((forest 1).preorder.Nodup ∧ (forest 2).preorder.Nodup ∧
        (forest 1).contents = (forest 2).contents ∧ forest 1 ≠ forest 2) ∧
      between .standard (forest 1) (forest 2) = .empty :=
  ⟨by decide +kernel, between_eq_empty.1 _ _ _ (by decide +kernel) (by decide +kernel)
    (by decide +kernel)⟩

end Diff

end CodeOutline
