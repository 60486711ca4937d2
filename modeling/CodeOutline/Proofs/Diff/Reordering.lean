import Mathlib.Data.List.Duplicate
import CodeOutline.Proofs.Diff.Likeness

/-!
# The same entries in another order

Two walks may come to the same entries in another order. Nothing is added then, and an identity that
occurs once is not reported at all. Of an identity that occurs more than once, the order decides
which entry is the last and which entries come first under a hash, so such an entry may seem to be
modified, removed or relocated. Nothing changes if all entries of an identity have one hash and no
two repeated identities share a hash.

## Main definitions

* `Entry.IsRepeated`: an identity occurs more than once
* `Entry.Unambiguous`: repeated identities can be told apart by their hashes
* `Diff.ConcernsRepeated`: a difference reports repeated identities only

## Main results

* `Diff.concernsRepeated_ofEntries`: what a difference between two orders reports
* `Diff.ofEntries_eq_empty_of_unambiguous`: when it reports nothing
-/

namespace CodeOutline

variable {a b e : Entry} {own other old new : List Entry} {i : Identity} {p : Entry × Entry}

namespace Entry

/-! ### Repeated identities -/

/-- An identity occurs more than once. -/
def IsRepeated (entries : List Entry) (i : Identity) : Prop :=
  List.Duplicate i (entries.map identity)

instance (entries : List Entry) (i : Identity) : Decidable (IsRepeated entries i) :=
  inferInstanceAs (Decidable (List.Duplicate _ _))

theorem isRepeated_iff_of_perm (h : own.Perm other) : IsRepeated own i ↔ IsRepeated other i := by
  simp only [IsRepeated, List.duplicate_iff_two_le_count, (h.map identity).count_eq]

theorem isRepeated_of_ne (ha : a ∈ own) (hb : b ∈ own) (hne : a ≠ b)
    (hidentity : a.identity = b.identity) : IsRepeated own a.identity := by
  rw [IsRepeated, List.duplicate_iff_sublist]
  -- one of the two stands in front of the other
  obtain ⟨before, after, rfl⟩ := List.append_of_mem ha
  rw [List.map_append, List.map_cons]
  rcases List.mem_append.1 hb with hb | hb
  · have hfront : List.Sublist [a.identity] (before.map identity) :=
      List.singleton_sublist.2 (hidentity ▸ List.mem_map_of_mem hb)
    exact hfront.append (List.singleton_sublist.2 List.mem_cons_self)
  · have hbehind : List.Sublist [a.identity] (after.map identity) :=
      List.singleton_sublist.2
        (hidentity ▸ List.mem_map_of_mem ((List.mem_cons.1 hb).resolve_left hne.symm))
    exact (hbehind.cons_cons _).trans (List.sublist_append_right _ _)

/-- An entry of a repeated identity is not the only one. -/
theorem IsRepeated.exists_ne (hown : own.Nodup) (h : IsRepeated own a.identity) :
    ∃ b ∈ own, b ≠ a ∧ b.identity = a.identity := by
  rw [IsRepeated, List.duplicate_iff_sublist, List.sublist_map_iff] at h
  obtain ⟨twins, htwins, hmap⟩ := h
  obtain ⟨x, rest, rfl, hx, hrest⟩ := List.map_eq_cons_iff.1 hmap.symm
  obtain ⟨y, last, rfl, hy, -⟩ := List.map_eq_cons_iff.1 hrest
  have hxy : x ≠ y := by
    have hnodup := htwins.nodup hown
    rintro rfl
    simp at hnodup
  by_cases hxa : x = a
  · exact ⟨y, htwins.mem (by simp), fun hya => hxy (hxa.trans hya.symm), hy⟩
  · exact ⟨x, htwins.mem (by simp), hxa, hx⟩

/-- Repeated identities can be told apart: entries of one identity have one hash, and no two
repeated identities share a hash. -/
structure Unambiguous (entries : List Entry) : Prop where
  hash_eq : ∀ a ∈ entries, ∀ b ∈ entries, a.identity = b.identity → a.hash = b.hash
  identity_eq : ∀ a ∈ entries, ∀ b ∈ entries, IsRepeated entries a.identity →
    IsRepeated entries b.identity → a.hash ≠ none → a.hash = b.hash → a.identity = b.identity

instance (entries : List Entry) : Decidable (Unambiguous entries) :=
  decidable_of_iff (_ ∧ _) ⟨fun h => ⟨h.1, h.2⟩, fun h => ⟨h.hash_eq, h.identity_eq⟩⟩

/-! ### What pairing by identity leaves over -/

/-- The last entries of their identities, in order. -/
def lasts (entries : List Entry) : List Entry :=
  entries.filter fun e => e.IsLast entries

/-- The entries behind which another one has their identity, in order. -/
def repeats (entries : List Entry) : List Entry :=
  entries.filter fun e => ¬ e.IsLast entries

theorem isRepeated_of_mem_repeats (h : a ∈ repeats own) : IsRepeated own a.identity := by
  obtain ⟨ha, hnot⟩ := List.mem_filter.1 h
  obtain ⟨last, hlast, hidentity⟩ := exists_isLast ha
  exact isRepeated_of_ne ha hlast.mem (fun heq => of_decide_eq_true hnot (heq ▸ hlast))
    hidentity.symm

/-- Every identity has one last entry. -/
theorem nodup_identity_lasts (hown : own.Nodup) : ((lasts own).map identity).Nodup := by
  refine List.Nodup.map_on (fun a ha b hb heq => ?_) (hown.filter _)
  exact (of_decide_eq_true (List.mem_filter.1 ha).2).eq (of_decide_eq_true (List.mem_filter.1 hb).2)
    heq

theorem contents_lasts_append_repeats (own : List Entry) :
    ((lasts own).map content ++ (repeats own).map content).Perm (own.map content) := by
  rw [← List.map_append]
  have hsplit := List.filter_append_perm (fun e : Entry => e.IsLast own) own
  simp only [← decide_not] at hsplit
  exact hsplit.map content

/-- Where the hash follows from the identity, the last entries have the same content in every
order. -/
theorem contents_lasts_perm (hown : own.Nodup) (hperm : other.Perm own)
    (hhash : ∀ a ∈ own, ∀ b ∈ own, a.identity = b.identity → a.hash = b.hash) :
    ((lasts other).map content).Perm ((lasts own).map content) := by
  have hnodup : ∀ {entries : List Entry}, entries.Nodup → ((lasts entries).map content).Nodup := by
    intro entries hentries
    refine List.Nodup.of_map Prod.fst ?_
    rw [List.map_map]
    exact nodup_identity_lasts hentries
  -- a last entry on one side has a last entry of its identity on the other side
  have hmem : ∀ {left right : List Entry}, left.Perm right → left.Perm own →
      ∀ c, c ∈ (lasts left).map content → c ∈ (lasts right).map content := by
    intro left right hlr hleft c hc
    obtain ⟨a, ha, rfl⟩ := List.mem_map.1 hc
    have ha := (List.mem_filter.1 ha).1
    obtain ⟨last, hlast, hidentity⟩ := exists_isLast (hlr.mem_iff.1 ha)
    have hcontent : last.content = a.content := by
      refine Prod.ext hidentity (hhash last ?_ a (hleft.mem_iff.1 ha) hidentity)
      exact (hlr.symm.trans hleft).mem_iff.1 hlast.mem
    rw [← hcontent]
    exact List.mem_map_of_mem (List.mem_filter.2 ⟨hlast.mem, decide_eq_true hlast⟩)
  apply (List.perm_ext_iff_of_nodup (hnodup (hperm.nodup_iff.2 hown)) (hnodup hown)).2
  exact fun c => ⟨hmem hperm hperm c, hmem hperm.symm (.refl own) c⟩

theorem contents_repeats_perm (hown : own.Nodup) (hperm : other.Perm own)
    (hhash : ∀ a ∈ own, ∀ b ∈ own, a.identity = b.identity → a.hash = b.hash) :
    ((repeats other).map content).Perm ((repeats own).map content) := by
  have hall := (contents_lasts_append_repeats other).trans
    ((hperm.map content).trans (contents_lasts_append_repeats own).symm)
  have hlasts := (contents_lasts_perm hown hperm hhash).symm.append_right
    ((repeats other).map content)
  exact (List.perm_append_left_iff _).1 (hlasts.trans hall)

end Entry

open Entry

/-! ### Pairing entries with the same contents -/

/-- What entries with a content are matched by. -/
def keyOf (content : Identity × Option String) : MatchKey :=
  match content.2 with
  | some given => .content given
  | none => .place content.1

theorem map_keyOf_contents (entries : List Entry) :
    (entries.map content).map keyOf = entries.map Entry.key := by
  rw [List.map_map]
  rfl

/-- Equally many entries have a key if the contents are the same. -/
theorem length_filter_key_eq (h : (old.map content).Perm (new.map content)) (key : MatchKey) :
    (old.filter (·.key = key)).length = (new.filter (·.key = key)).length := by
  have hkeys := h.map keyOf
  rw [map_keyOf_contents, map_keyOf_contents] at hkeys
  have hcount := hkeys.countP_eq (· = key)
  rw [List.countP_map, List.countP_map] at hcount
  rw [← List.countP_eq_length_filter, ← List.countP_eq_length_filter]
  exact hcount

/-- Nothing is left over when entries with the same contents are paired, in whatever order they
stand. -/
theorem departures_eq_nil_of_contents_perm (h : (old.map content).Perm (new.map content)) :
    (pairUp new old).departures = [] ∧ (pairUp new old).arrivals = [] := by
  refine ⟨List.eq_nil_iff_forall_not_mem.2 fun a ha => ?_,
    List.eq_nil_iff_forall_not_mem.2 fun b hb => ?_⟩
  · have hmem : a ∈ (pairUp new old).departures.filter (·.key = a.key) :=
      List.mem_filter.2 ⟨ha, by simp⟩
    rw [departures_filter_key, List.drop_eq_nil_of_le (length_filter_key_eq h _).le] at hmem
    simp at hmem
  · have hmem : b ∈ (pairUp new old).arrivals.filter (·.key = b.key) :=
      List.mem_filter.2 ⟨hb, by simp⟩
    rw [arrivals_filter_key, List.drop_eq_nil_of_le (length_filter_key_eq h _).ge] at hmem
    simp at hmem

namespace Diff

/-- Where the other side knows all identities, pairing by identity leaves over all entries but the
last ones. -/
theorem unsettled_eq_repeats (hids : (own.map Entry.id).Nodup)
    (hknown : ∀ e ∈ own, e.identity ∈ other.map identity) : unsettled own other = repeats own := by
  refine List.filter_congr fun e he => ?_
  rw [Bool.eq_iff_iff, Bool.not_eq_true', ← Bool.not_eq_true, isSettled_iff hids he,
    ← mem_identities_iff_exists_isLast, and_iff_left (hknown e he), decide_eq_true_iff]

/-- A difference reports identities that occur more than once, and adds nothing. -/
structure ConcernsRepeated (entries : List Entry) (diff : Diff) : Prop where
  added : diff.added = []
  removed : ∀ node ∈ diff.removed, IsRepeated entries node.identity
  modified : ∀ change ∈ diff.modified, change.before.identity = change.after.identity ∧
    IsRepeated entries change.before.identity
  relocated : ∀ change ∈ diff.relocated, IsRepeated entries change.old.identity ∧
    IsRepeated entries change.new.identity

section

variable (hids : (old.map Entry.id).Nodup) (hperm : new.Perm old)
include hids hperm

theorem nodup_ids_of_perm : (new.map Entry.id).Nodup :=
  (hperm.map Entry.id).nodup_iff.2 hids

theorem unsettled_eq_repeats_of_perm :
    unsettled old new = repeats old ∧ unsettled new old = repeats new :=
  ⟨unsettled_eq_repeats hids fun _ he => List.mem_map_of_mem (hperm.mem_iff.2 he),
    unsettled_eq_repeats (nodup_ids_of_perm hids hperm)
      fun _ he => List.mem_map_of_mem (hperm.mem_iff.1 he)⟩

/-- What pairing by content looks at has a repeated identity. -/
theorem isRepeated_of_mem_matched (hp : p ∈ (matched old new).pairs) :
    IsRepeated old p.1.identity ∧ IsRepeated old p.2.identity := by
  obtain ⟨hold, hnew⟩ := unsettled_eq_repeats_of_perm hids hperm
  have hp : p ∈ (pairUp (unsettled new old) (unsettled old new)).pairs := hp
  rw [hold, hnew] at hp
  exact ⟨isRepeated_of_mem_repeats (fst_mem_of_mem_pairUp hp),
    (isRepeated_iff_of_perm hperm).1 (isRepeated_of_mem_repeats (snd_mem_of_mem_pairUp hp))⟩

/-- **Only repeated identities are reported** between two orders of the same entries. -/
theorem concernsRepeated_ofEntries (options : DiffOptions) :
    ConcernsRepeated old (ofEntries options old new) := by
  have hids' := nodup_ids_of_perm hids hperm
  have hexplains := explains_pairs hids hids' options
  constructor
  case added =>
    rw [hexplains.added, List.map_eq_nil_iff, List.filter_eq_nil_iff]
    intro b hb hadded
    have hknown : b.identity ∈ old.map identity := List.mem_map_of_mem (hperm.mem_iff.1 hb)
    exact (of_decide_eq_true hadded).2.1 hknown
  case removed =>
    intro node hnode
    rw [hexplains.removed] at hnode
    obtain ⟨a, ha, rfl⟩ := List.mem_map.1 hnode
    obtain ⟨ha, hunpaired⟩ := List.mem_filter.1 ha
    refine isRepeated_of_mem_repeats (List.mem_filter.2 ⟨ha, decide_eq_true fun hlast => ?_⟩)
    -- the last entry of an identity is in a pair
    obtain ⟨last, hlast', hidentity⟩ := exists_isLast (hperm.mem_iff.2 ha)
    have hpair := hexplains.settled_mem (a, last) ⟨hlast, hlast', hidentity.symm⟩
    exact of_decide_eq_true hunpaired (List.mem_map_of_mem hpair)
  case modified =>
    intro change hchange
    rw [hexplains.modified] at hchange
    obtain ⟨p, hp, rfl⟩ := List.mem_map.1 hchange
    obtain ⟨⟨hfst, hsnd, hidentity⟩, hhash⟩ := of_decide_eq_true (List.mem_filter.1 hp).2
    have hne : p.1 ≠ p.2 := fun heq => hhash (congrArg Entry.hash heq)
    exact ⟨hidentity, isRepeated_of_ne hfst.mem (hperm.mem_iff.1 hsnd.mem) hne hidentity⟩
  case relocated =>
    intro change hchange
    rw [hexplains.relocated] at hchange
    obtain ⟨p, hp, rfl⟩ := List.mem_map.1 hchange
    obtain ⟨hp, hne⟩ := List.mem_filter.1 hp
    have hmatched := ((mem_pairs hids').1 hp).resolve_left
      fun hsettled => of_decide_eq_true hne hsettled.2.2
    exact isRepeated_of_mem_matched hids hperm hmatched

/-- **Nothing changes between two orders of entries that can be told apart.** -/
theorem ofEntries_eq_empty_of_unambiguous (options : DiffOptions) (h : Unambiguous old) :
    ofEntries options old new = .empty := by
  obtain ⟨hold, hnew⟩ := unsettled_eq_repeats_of_perm hids hperm
  have hcontents := contents_repeats_perm hids.of_map hperm h.hash_eq
  have hnothing : (matched old new).departures = [] ∧ (matched old new).arrivals = [] := by
    change (pairUp (unsettled new old) (unsettled old new)).departures = [] ∧
      (pairUp (unsettled new old) (unsettled old new)).arrivals = []
    rw [hold, hnew]
    exact departures_eq_nil_of_contents_perm hcontents.symm
  apply ofEntries_eq_empty hids (nodup_ids_of_perm hids hperm) options
  · rintro p ⟨hfst, hsnd, hidentity⟩
    exact h.hash_eq p.1 hfst.mem p.2 (hperm.mem_iff.1 hsnd.mem) hidentity
  · intro p hp
    obtain ⟨hfst, hsnd⟩ := isRepeated_of_mem_matched hids hperm hp
    rcases key_eq_iff.1 (key_eq_of_mem_pairUp hp) with ⟨hash, hhash, hhash'⟩ | ⟨-, -, hidentity⟩
    · refine h.identity_eq p.1 (fst_mem_of_mem_matched hp).1 p.2
        (hperm.mem_iff.1 (snd_mem_of_mem_matched hp).1) hfst hsnd (by simp [hhash]) ?_
      rw [hhash, hhash']
    · exact hidentity
  · exact hnothing.1
  · exact hnothing.2

end

end Diff

end CodeOutline
