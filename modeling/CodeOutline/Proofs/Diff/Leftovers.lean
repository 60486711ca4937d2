import CodeOutline.Proofs.Diff.Buckets
import CodeOutline.Proofs.Diff.Pairs

/-!
# What pairing by content leaves over

Under every key the side that has fewer entries is used up, and what is left over are the last
entries of the other side. So pairing by content finds as many pairs as there can be: after it no
hash is left on both sides, and nothing is removed on one side and added on the other that has the
same content.

## Main definitions

* `Diff.unsettled`: the entries that pairing by identity leaves over
* `Entry.withHash`: the entries with a hash
* `Diff.ServesInOrder`: pairing by content is first come, first served, for every hash

## Main results

* `departures_filter_key`, `arrivals_filter_key`: what is left over under one key
* `Diff.servesInOrder_between`: every difference between two forests pairs content in order
-/

namespace CodeOutline

variable {key : MatchKey} {hash : String} {entry a b : Entry} {old new : List Entry}

/-! ### Key by key -/

/-- Under one key the old entries left over are those behind as many as there are new ones. -/
theorem departures_filter_key (new old : List Entry) (key : MatchKey) :
    (pairUp new old).departures.filter (·.key = key) =
      (old.filter (·.key = key)).drop (new.filter (·.key = key)).length := by
  fun_induction pairUp new old with
  | case1 => simp
  | case2 entry new old partner rest htake pairing ih =>
    by_cases hkey : entry.key = key
    · rw [ih, List.filter_cons_of_pos (by simpa using hkey), List.length_cons, ← hkey,
        filter_key_of_takeFirst? htake, List.drop_succ_cons]
    · rw [ih, List.filter_cons_of_neg (by simpa using hkey),
        filter_key_of_takeFirst?_of_ne hkey htake]
  | case3 entry new old htake pairing ih =>
    by_cases hkey : entry.key = key
    · -- no old entry has the key, so there is nothing to be left over
      have hnone : old.filter (·.key = key) = [] := by
        simpa [List.filter_eq_nil_iff, hkey] using takeFirst?_eq_none_iff.1 htake
      rw [ih, hnone, List.drop_nil, List.drop_nil]
    · rw [ih, List.filter_cons_of_neg (by simpa using hkey)]

/-- Under one key the new entries left over are those behind as many as there are old ones. -/
theorem arrivals_filter_key (new old : List Entry) (key : MatchKey) :
    (pairUp new old).arrivals.filter (·.key = key) =
      (new.filter (·.key = key)).drop (old.filter (·.key = key)).length := by
  fun_induction pairUp new old with
  | case1 => simp
  | case2 entry new old partner rest htake pairing ih =>
    by_cases hkey : entry.key = key
    · rw [ih, List.filter_cons_of_pos (by simpa using hkey), ← hkey,
        filter_key_of_takeFirst? htake, List.length_cons, List.drop_succ_cons]
    · rw [ih, List.filter_cons_of_neg (by simpa using hkey),
        filter_key_of_takeFirst?_of_ne hkey htake]
  | case3 entry new old htake pairing ih =>
    by_cases hkey : entry.key = key
    · have hnone : old.filter (·.key = key) = [] := by
        simpa [List.filter_eq_nil_iff, hkey] using takeFirst?_eq_none_iff.1 htake
      rw [List.filter_cons_of_pos (by simpa using hkey), ih, hnone,
        List.filter_cons_of_pos (by simpa using hkey)]
      rfl
    · rw [List.filter_cons_of_neg (by simpa using hkey), ih,
        List.filter_cons_of_neg (by simpa using hkey)]

/-- No key is left over on both sides. -/
theorem key_ne_of_left_over (ha : a ∈ (pairUp new old).departures)
    (hb : b ∈ (pairUp new old).arrivals) : a.key ≠ b.key := by
  intro hkey
  have hold : a ∈ (pairUp new old).departures.filter (·.key = b.key) :=
    List.mem_filter.2 ⟨ha, by simpa using hkey⟩
  have hnew : b ∈ (pairUp new old).arrivals.filter (·.key = b.key) :=
    List.mem_filter.2 ⟨hb, by simp⟩
  rw [departures_filter_key] at hold
  rw [arrivals_filter_key] at hnew
  -- each side would have to be the longer one
  have hlonger := List.length_pos_of_mem hold
  have hlonger' := List.length_pos_of_mem hnew
  rw [List.length_drop] at hlonger hlonger'
  omega

/-! ### Hash by hash -/

namespace Entry

/-- The entries with a hash, in order. -/
def withHash (hash : String) (entries : List Entry) : List Entry :=
  entries.filter (·.hash = some hash)

theorem key_eq_content_iff : entry.key = .content hash ↔ entry.hash = some hash := by
  cases h : entry.hash <;> simp [key, h]

theorem withHash_eq_filter_key (hash : String) (entries : List Entry) :
    withHash hash entries = entries.filter (·.key = .content hash) := by
  simp only [withHash, key_eq_content_iff]

end Entry

namespace Diff

open Entry

/-- The entries that pairing by identity leaves over, in order: another one behind them has their
identity, or the other forest does not know it. -/
def unsettled (own other : List Entry) : List Entry :=
  own.filter fun entry => !entry.isSettled own other

/-- Pairing by content is first come, first served, for every hash, and a difference is what it
yields. -/
structure ServesInOrder (options : DiffOptions) (old new : List Entry) (pairing : Pairing)
    (diff : Diff) : Prop where
  /-- the pairs that use an entry with a hash are the first old one with the first new one, the
  second with the second, and so on until one side has no more of them -/
  pairs : ∀ hash, (pairing.pairs.filter fun p => p.1.hash = some hash ∨ p.2.hash = some hash) =
    (withHash hash (unsettled old new)).zip (withHash hash (unsettled new old))
  departures : ∀ hash, withHash hash pairing.departures =
    (withHash hash (unsettled old new)).drop (withHash hash (unsettled new old)).length
  arrivals : ∀ hash, withHash hash pairing.arrivals =
    (withHash hash (unsettled new old)).drop (withHash hash (unsettled old new)).length
  relocated : diff.relocated = pairing.pairs.filterMap (relocation? options.moveDetection)
  removed : diff.removed = pairing.departures.map Entry.node
  added : diff.added = (pairing.arrivals.filter fun b => b.identity ∉ old.map Entry.identity ∧
    b.identity ∉ diff.relocated.map (·.new.identity)).map Entry.node
  /-- nothing that is removed has the hash of something that is added, whether that is reported or
  not -/
  hash_ne : ∀ a ∈ pairing.departures, ∀ b ∈ pairing.arrivals, ∀ hash, a.hash = some hash →
    b.hash ≠ some hash

theorem pairs_filter_hash (hash : String) (new old : List Entry) :
    ((pairUp new old).pairs.filter fun p => p.1.hash = some hash ∨ p.2.hash = some hash) =
      (withHash hash old).zip (withHash hash new) := by
  rw [withHash_eq_filter_key, withHash_eq_filter_key, ← pairUp_filter_key]
  refine List.filter_congr fun p hp => ?_
  -- the entries of a pair have one key, so both have the hash or none has it
  simp only [← key_eq_content_iff, key_eq_of_mem_pairUp hp, or_self]

theorem servesInOrder_ofEntries (options : DiffOptions) (old new : List Entry) :
    ServesInOrder options old new (matched old new) (ofEntries options old new) := by
  constructor
  case pairs => exact fun hash => pairs_filter_hash hash _ _
  case departures =>
    intro hash
    simp only [withHash_eq_filter_key]
    exact departures_filter_key _ _ _
  case arrivals =>
    intro hash
    simp only [withHash_eq_filter_key]
    exact arrivals_filter_key _ _ _
  case relocated => rfl
  case removed => rfl
  case added =>
    change ((matched _ _).arrivals.filter _).map _ = _
    congr 1
    refine List.filter_congr fun b _ => ?_
    rw [Bool.eq_iff_iff]
    simp only [ofEntries, Bool.not_eq_true', List.contains_eq_mem, decide_eq_false_iff_not,
      decide_eq_true_iff, List.mem_append, not_or]
  case hash_ne =>
    intro a ha b hb hash hahash hbhash
    refine key_ne_of_left_over ha hb ?_
    rw [key_eq_content_iff.2 hahash, key_eq_content_iff.2 hbhash]

/-- **Pairing by content is first come, first served, and finds all pairs that there can be**: the
difference between two forests leaves no hash on both sides. -/
theorem servesInOrder_between (options : DiffOptions) (old new : Forest) :
    ServesInOrder options old.entries new.entries (matched old.entries new.entries)
      (between options old new) :=
  servesInOrder_ofEntries options old.entries new.entries

end Diff

end CodeOutline
