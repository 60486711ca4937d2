import Mathlib.Data.List.Induction
import Mathlib.Data.List.Nodup

/-!
# First occurrences

Dropping repeated entries of a list keeps each entry where it occurs first.

## Main definitions

* `firstOccurrences`: the entries of a list, each where it occurs first

## Main results

* `eraseDups_eq_firstOccurrences`: repeated entries are dropped, the first one is kept
* `nodup_eraseDups`: nothing is left that is repeated
-/

namespace CodeOutline

/-! ### Repeated entries -/

section

variable {α : Type} [BEq α] [LawfulBEq α]

theorem eraseDups_concat (list : List α) (a : α) :
    (list ++ [a]).eraseDups = if a ∈ list then list.eraseDups else list.eraseDups ++ [a] := by
  rw [List.eraseDups_append]
  split <;> rename_i hmem <;> simp [List.removeAll, List.eraseDups_cons, hmem]

theorem nodup_eraseDups (list : List α) : list.eraseDups.Nodup := by
  induction list using List.reverseRecOn with
  | nil => exact List.nodup_nil
  | append_singleton list a ih =>
    rw [eraseDups_concat]
    split
    · exact ih
    · rename_i hmem
      exact ih.append (List.nodup_singleton a) (by simpa using hmem)

end

/-! ### Entries where they occur first -/

section

variable {α : Type} [DecidableEq α]

/-- The entries of a list that do not occur in front of their own place. -/
def firstOccurrences (list : List α) : List α :=
  (list.zipIdx.filter fun entry => entry.1 ∉ list.take entry.2).map Prod.fst

theorem firstOccurrences_concat (list : List α) (a : α) :
    firstOccurrences (list ++ [a]) =
      if a ∈ list then firstOccurrences list else firstOccurrences list ++ [a] := by
  -- the last entry stands in front of no place of the list
  have hfront : list.zipIdx.filter (fun entry => entry.1 ∉ (list ++ [a]).take entry.2) =
      list.zipIdx.filter (fun entry => entry.1 ∉ list.take entry.2) := by
    refine List.filter_congr fun entry hentry => ?_
    have hplace : entry.2 < list.length := by simpa using (List.mem_zipIdx hentry).2.1
    rw [List.take_append_of_le_length (Nat.le_of_lt hplace)]
  rw [firstOccurrences, List.zipIdx_append, List.filter_append, hfront, List.map_append]
  split <;> rename_i hmem <;> simp [firstOccurrences, hmem]

/-- Repeated entries are dropped, and the first one is kept. -/
theorem eraseDups_eq_firstOccurrences (list : List α) :
    list.eraseDups = firstOccurrences list := by
  induction list using List.reverseRecOn with
  | nil => rfl
  | append_singleton list a ih => rw [eraseDups_concat, firstOccurrences_concat, ih]

end

end CodeOutline
