/-!
# Lists in order of a key

Several parts of the library keep pairs in order of their keys, each key once: the members of an
object, the files of a snapshot, the places of a forest. Such a list is built by `Keyed.insert`,
which replaces the value of a key it meets again.

## Main definitions

* `Keyed.insert`: adds a pair in order of its key

## Main results

* `Keyed.mem_insert`: what the list holds after a pair was added
* `Keyed.insert_ordered`: a list in strict order stays in strict order
-/

namespace CodeOutline.Keyed

variable {κ ν : Type} [DecidableEq κ]

/-- Adds a pair in front of the first greater key; a pair with the same key is replaced. -/
def insert (less : κ → κ → Bool) (key : κ) (value : ν) : List (κ × ν) → List (κ × ν)
  | [] => [(key, value)]
  | (other, old) :: rest =>
    if key = other then (key, value) :: rest
    else if less key other then (key, value) :: (other, old) :: rest
    else (other, old) :: insert less key value rest

/-- Every pair of the new list is the added one or was there before. -/
theorem mem_insert {less : κ → κ → Bool} {key : κ} {value : ν} {list : List (κ × ν)} {p : κ × ν}
    (h : p ∈ insert less key value list) : p = (key, value) ∨ p ∈ list := by
  induction list with
  | nil => simpa [insert] using h
  | cons head rest ih =>
    obtain ⟨other, old⟩ := head
    simp only [insert] at h
    split at h
    · rcases List.mem_cons.1 h with h | h
      · exact .inl h
      · exact .inr (List.mem_cons_of_mem _ h)
    · split at h
      · rcases List.mem_cons.1 h with h | h
        · exact .inl h
        · exact .inr h
      · rcases List.mem_cons.1 h with h | h
        · exact .inr (h ▸ List.mem_cons_self)
        · exact (ih h).imp_right (List.mem_cons_of_mem _)

/-- A list in strict order of its keys stays so, for an order in which any two keys compare. -/
theorem insert_ordered {less : κ → κ → Bool}
    (trans : ∀ a b c, less a b = true → less b c = true → less a c = true)
    (connected : ∀ a b, a ≠ b → less a b = false → less b a = true)
    (key : κ) (value : ν) {list : List (κ × ν)}
    (h : list.Pairwise fun a b => less a.1 b.1 = true) :
    (insert less key value list).Pairwise fun a b => less a.1 b.1 = true := by
  induction list with
  | nil => simp [insert]
  | cons head rest ih =>
    obtain ⟨other, old⟩ := head
    obtain ⟨hhead, hrest⟩ := List.pairwise_cons.1 h
    simp only [insert]
    split
    · rename_i heq
      exact List.pairwise_cons.2 ⟨fun p hp => heq ▸ hhead p hp, hrest⟩
    · rename_i hne
      split
      · rename_i hless
        refine List.pairwise_cons.2 ⟨fun p hp => ?_, h⟩
        rcases List.mem_cons.1 hp with rfl | hp
        · exact hless
        · exact trans _ _ _ hless (hhead p hp)
      · rename_i hless
        refine List.pairwise_cons.2 ⟨fun p hp => ?_, ih hrest⟩
        rcases mem_insert hp with rfl | hp
        · exact connected key other hne (by simpa using hless)
        · exact hhead p hp

end CodeOutline.Keyed
