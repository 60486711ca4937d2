import Mathlib.Data.List.Basic
import Mathlib.Data.List.Zip
import Mathlib.Data.Prod.Basic
import CodeOutline.Proofs.Diff.Matching

/-!
# Pairing by content, key by key

Entries with different keys do not get in each other's way when they are paired by content. So a
pairing can be looked at one key at a time: the first old entry with a key meets the first new one,
the second meets the second, and so on until one side has no more of them. Seen in this way it makes
no difference which side waits and which side chooses.

## Main results

* `pairUp_filter_key`: the pairs under one key
* `mem_pairUp_iff`: the pairs as those of all keys
* `swap_mem_pairUp_iff`: pairing the other way round yields the same pairs
-/

namespace CodeOutline

variable {key : MatchKey} {entry : Entry} {old new rest : List Entry} {p : Entry × Entry}

/-- Taking the first entry with a key takes the head off the entries with that key. -/
theorem filter_key_of_takeFirst? (h : takeFirst? key old = some (entry, rest)) :
    old.filter (·.key = key) = entry :: rest.filter (·.key = key) := by
  obtain ⟨before, after, rfl, rfl, hentry, hbefore⟩ := takeFirst?_eq_some_iff.1 h
  have hnone : before.filter (·.key = key) = [] := by simpa [List.filter_eq_nil_iff] using hbefore
  simp [hnone, hentry]

/-- The entries with another key stay as they are. -/
theorem filter_key_of_takeFirst?_of_ne {other : MatchKey} (hne : key ≠ other)
    (h : takeFirst? key old = some (entry, rest)) :
    old.filter (·.key = other) = rest.filter (·.key = other) := by
  obtain ⟨before, after, rfl, rfl, hentry, -⟩ := takeFirst?_eq_some_iff.1 h
  simp [hentry, hne]

/-- Under one key the first old entry is paired with the first new one, the second with the second,
and so on. -/
theorem pairUp_filter_key (new old : List Entry) (key : MatchKey) :
    (pairUp new old).pairs.filter (·.2.key = key) =
      (old.filter (·.key = key)).zip (new.filter (·.key = key)) := by
  fun_induction pairUp new old with
  | case1 => simp
  | case2 entry new old partner rest htake pairing ih =>
    -- a pair belongs to the key of its entries and is invisible under any other
    by_cases hkey : entry.key = key
    · rw [List.filter_cons_of_pos (by simpa using hkey), ih,
        List.filter_cons_of_pos (by simpa using hkey), ← hkey, filter_key_of_takeFirst? htake,
        List.zip_cons_cons]
    · rw [List.filter_cons_of_neg (by simpa using hkey), ih,
        List.filter_cons_of_neg (by simpa using hkey), filter_key_of_takeFirst?_of_ne hkey htake]
  | case3 entry new old htake pairing ih =>
    by_cases hkey : entry.key = key
    · -- no old entry has the key, so neither side of the equation has a pair
      have hnone : old.filter (·.key = key) = [] := by
        simpa [List.filter_eq_nil_iff, hkey] using takeFirst?_eq_none_iff.1 htake
      rw [ih, hnone, List.zip_nil_left, List.zip_nil_left]
    · rw [ih, List.filter_cons_of_neg (by simpa using hkey)]

/-- The pairs are those of all keys. -/
theorem mem_pairUp_iff :
    p ∈ (pairUp new old).pairs ↔
      ∃ key, p ∈ (old.filter (·.key = key)).zip (new.filter (·.key = key)) := by
  constructor
  · intro hp
    refine ⟨p.2.key, ?_⟩
    rw [← pairUp_filter_key]
    exact List.mem_filter.2 ⟨hp, by simp⟩
  · rintro ⟨key, hp⟩
    rw [← pairUp_filter_key] at hp
    exact List.mem_of_mem_filter hp

/-- Whichever side chooses, the pairs are the same. -/
theorem swap_mem_pairUp_iff : p.swap ∈ (pairUp old new).pairs ↔ p ∈ (pairUp new old).pairs := by
  -- key by key the two sides are zipped, which does not tell one from the other
  rw [mem_pairUp_iff, mem_pairUp_iff]
  refine exists_congr fun key => ?_
  rw [← List.zip_swap, List.mem_map_of_injective Prod.swap_injective]

end CodeOutline
