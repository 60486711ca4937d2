import Mathlib.Data.List.Nodup
import Mathlib.Data.List.Perm.Basic
import CodeOutline.Diff.Pairing

/-!
# First come, first served

Pairing by content goes through the new entries in order and gives each of them the first old entry
left with its key. Nothing is lost on the way: the old entries are those of the pairs and the
departures, the new ones those of the pairs and the arrivals, and whatever is left over keeps its
order. As no entry occurs twice in a walk, what is left over is therefore exactly what no pair uses.

## Main results

* `takeFirst?_eq_some_iff`: what it means to take the first entry with a key
* `key_eq_of_mem_pairUp`: the entries of a pair have one key
* `pairUp_old_perm`, `pairUp_new_perm`: every entry is in a pair or left over
* `pairUp_departures_eq`, `pairUp_arrivals_eq`: what is left over, in order
* `eq_of_snd_sublist`, `arrange_perm`: pairs in the order of the new entries are known by which they
  are, and any pairs can be put in that order
-/

namespace CodeOutline

/-! ### Lists without repetition -/

section Order

variable {α β : Type*} [DecidableEq α]

/-- What is left of a list without repetition, in order, is what was not taken. -/
theorem eq_filter_notMem_of_perm {list taken left : List α} (hlist : list.Nodup)
    (hperm : (taken ++ left).Perm list) (hleft : left.Sublist list) :
    left = list.filter (· ∉ taken) := by
  have hdisjoint := (hperm.nodup_iff.2 hlist).disjoint
  -- both sides keep the order of the list, so it is enough that they have the same members
  refine (List.Nodup.perm_iff_eq_of_sublist hlist hleft List.filter_sublist).1 ?_
  apply (List.perm_ext_iff_of_nodup (hleft.nodup hlist) (hlist.filter _)).2
  intro a
  rw [List.mem_filter, ← hperm.mem_iff, List.mem_append, decide_eq_true_iff]
  constructor
  · intro ha
    exact ⟨.inr ha, fun htaken => hdisjoint htaken ha⟩
  · rintro ⟨htaken | ha, hnot⟩
    · exact absurd htaken hnot
    · exact ha

/-- What is taken out of a list without repetition and what is left make up the list. -/
theorem length_add_length_filter_notMem {list taken : List α}
    (hlist : list.Nodup) (htaken : taken.Nodup) (hsub : taken ⊆ list) :
    taken.length + (list.filter (· ∉ taken)).length = list.length := by
  have hdisjoint : taken.Disjoint (list.filter (· ∉ taken)) := fun a htaken hleft => by
    simp [htaken] at hleft
  have hperm : (taken ++ list.filter (· ∉ taken)).Perm list := by
    apply (List.perm_ext_iff_of_nodup (htaken.append (hlist.filter _) hdisjoint) hlist).2
    intro a
    rw [List.mem_append, List.mem_filter, decide_eq_true_iff]
    have hmem : a ∈ taken → a ∈ list := fun h => hsub h
    tauto
  rw [← hperm.length_eq, List.length_append]

omit [DecidableEq α] in
/-- Two lists of pairs that follow the order of a list without repetition are equal if they hold the
same pairs. -/
theorem eq_of_snd_sublist {order : List β} {left right : List (α × β)} (horder : order.Nodup)
    (hleft : (left.map Prod.snd).Sublist order) (hright : (right.map Prod.snd).Sublist order)
    (hmem : ∀ p, p ∈ left ↔ p ∈ right) : left = right := by
  have hrightNodup := hright.nodup horder
  have hsnd : left.map Prod.snd = right.map Prod.snd := by
    refine (List.Nodup.perm_iff_eq_of_sublist horder hleft hright).1 ?_
    apply (List.perm_ext_iff_of_nodup (hleft.nodup horder) hrightNodup).2
    intro b
    simp only [List.mem_map, hmem]
  apply List.ext_getElem (by simpa using congrArg List.length hsnd)
  intro i hi hi'
  -- The pair stands somewhere on the right; its second half tells where.
  obtain ⟨j, hj, heq⟩ := List.getElem_of_mem ((hmem _).1 (List.getElem_mem hi))
  have hsame : right[j].2 = right[i].2 := by
    have himap : i < (left.map Prod.snd).length := by simpa using hi
    have hith := List.getElem_of_eq hsnd himap
    rw [List.getElem_map, List.getElem_map] at hith
    rw [heq, hith]
  have hij : j = i := by
    rw [← hrightNodup.getElem_inj_iff, List.getElem_map, List.getElem_map]
    · exact hsame
    · simpa using hj
    · simpa using hi'
  subst hij
  exact heq.symm

/-- Pairs put in the order of their second halves. -/
def arrange [DecidableEq β] (order : List β) (pairs : List (α × β)) : List (α × β) :=
  order.filterMap fun b => pairs.find? (·.2 = b)

omit [DecidableEq α] in
theorem arrange_sublist [DecidableEq β] (order : List β) (pairs : List (α × β)) :
    ((arrange order pairs).map Prod.snd).Sublist order := by
  induction order with
  | nil => simp [arrange]
  | cons b order ih =>
    cases hfind : pairs.find? (·.2 = b) with
    | none => simpa [arrange, hfind] using ih.cons b
    | some p =>
      have hp : p.2 = b := by simpa using List.find?_some hfind
      simpa [arrange, hfind, hp] using ih

omit [DecidableEq α] in
/-- Putting pairs in order neither loses nor doubles any. -/
theorem arrange_perm [DecidableEq β] {order : List β} {pairs : List (α × β)}
    (horder : order.Nodup) (hpairs : (pairs.map Prod.snd).Nodup)
    (hmem : ∀ p ∈ pairs, p.2 ∈ order) : (arrange order pairs).Perm pairs := by
  have hnodup := ((arrange_sublist order pairs).nodup horder).of_map
  apply (List.perm_ext_iff_of_nodup hnodup hpairs.of_map).2
  intro p
  rw [arrange, List.mem_filterMap]
  constructor
  · rintro ⟨b, -, hfind⟩
    exact List.mem_of_find?_eq_some hfind
  · intro hp
    refine ⟨p.2, hmem p hp, ?_⟩
    obtain ⟨q, hq⟩ : ∃ q, pairs.find? (·.2 = p.2) = some q := by
      rw [← Option.isSome_iff_exists, List.find?_isSome]
      exact ⟨p, hp, by simp⟩
    -- no two pairs share a second half, so the pair that is found is the one looked for
    have hsame : q.2 = p.2 := by simpa using List.find?_some hq
    rw [hq, List.inj_on_of_nodup_map hpairs (List.mem_of_find?_eq_some hq) hp hsame]

end Order

variable {key : MatchKey} {entry : Entry} {old new rest : List Entry}

/-! ### Taking the first entry with a key -/

theorem takeFirst?_eq_none_iff : takeFirst? key old = none ↔ ∀ e ∈ old, e.key ≠ key := by
  induction old with
  | nil => simp [takeFirst?]
  | cons head tail ih =>
    by_cases hkey : head.key = key
    · simp [takeFirst?, hkey]
    · simp [takeFirst?, hkey, ih]

/-- Taking the first entry with a key leaves what stands in front of it and behind it. -/
theorem takeFirst?_eq_some_iff :
    takeFirst? key old = some (entry, rest) ↔
      ∃ before after, old = before ++ entry :: after ∧ rest = before ++ after ∧
        entry.key = key ∧ ∀ e ∈ before, e.key ≠ key := by
  induction old generalizing rest with
  | nil => simp [takeFirst?]
  | cons head tail ih =>
    by_cases hkey : head.key = key
    · simp only [takeFirst?, hkey, if_true, Option.some.injEq, Prod.mk.injEq]
      constructor
      · rintro ⟨rfl, rfl⟩
        exact ⟨[], tail, rfl, rfl, hkey, by simp⟩
      · rintro ⟨before, after, hold, rfl, -, hbefore⟩
        cases before with
        | nil => simpa using hold
        | cons first before =>
          obtain ⟨rfl, -⟩ := List.cons.inj hold
          exact absurd hkey (hbefore _ List.mem_cons_self)
    · simp only [takeFirst?, hkey, if_false, Option.map_eq_some_iff, Prod.exists, Prod.mk.injEq]
      constructor
      · rintro ⟨found, left, hfound, rfl, rfl⟩
        obtain ⟨before, after, rfl, rfl, hfoundKey, hbefore⟩ := ih.1 hfound
        exact ⟨head :: before, after, rfl, rfl, hfoundKey, by simpa [hkey] using hbefore⟩
      · rintro ⟨before, after, hold, rfl, hentry, hbefore⟩
        cases before with
        | nil =>
          obtain ⟨rfl, -⟩ := List.cons.inj hold
          exact absurd hentry hkey
        | cons first before =>
          obtain ⟨rfl, rfl⟩ := List.cons.inj hold
          refine ⟨entry, before ++ after, ih.2 ⟨before, after, rfl, rfl, hentry, ?_⟩, rfl, rfl⟩
          exact fun e he => hbefore e (List.mem_cons_of_mem _ he)

theorem perm_of_takeFirst? (h : takeFirst? key old = some (entry, rest)) :
    (entry :: rest).Perm old := by
  obtain ⟨before, after, rfl, rfl, -, -⟩ := takeFirst?_eq_some_iff.1 h
  exact List.perm_middle.symm

theorem sublist_of_takeFirst? (h : takeFirst? key old = some (entry, rest)) :
    rest.Sublist old := by
  obtain ⟨before, after, rfl, rfl, -, -⟩ := takeFirst?_eq_some_iff.1 h
  exact (List.sublist_cons_self entry after).append_left before

/-! ### Pairing -/

/-- The entries of a pair have one key. -/
theorem key_eq_of_mem_pairUp {p : Entry × Entry} (h : p ∈ (pairUp new old).pairs) :
    p.1.key = p.2.key := by
  fun_induction pairUp new old with
  | case1 => simp at h
  | case2 entry new old partner rest htake pairing ih =>
    rcases List.mem_cons.1 h with rfl | h
    · obtain ⟨-, -, -, -, hkey, -⟩ := takeFirst?_eq_some_iff.1 htake
      exact hkey
    · exact ih h
  | case3 entry new old htake pairing ih => exact ih h

/-- Every old entry is in a pair or left over. -/
theorem pairUp_old_perm (new old : List Entry) :
    ((pairUp new old).pairs.map Prod.fst ++ (pairUp new old).departures).Perm old := by
  fun_induction pairUp new old with
  | case1 => simp
  | case2 entry new old partner rest htake pairing ih =>
    exact (ih.cons partner).trans (perm_of_takeFirst? htake)
  | case3 entry new old htake pairing ih => exact ih

/-- Every new entry is in a pair or left over. -/
theorem pairUp_new_perm (new old : List Entry) :
    ((pairUp new old).pairs.map Prod.snd ++ (pairUp new old).arrivals).Perm new := by
  fun_induction pairUp new old with
  | case1 => simp
  | case2 entry new old partner rest htake pairing ih => exact ih.cons entry
  | case3 entry new old htake pairing ih => exact List.perm_middle.trans (ih.cons entry)

theorem pairUp_departures_sublist (new old : List Entry) :
    (pairUp new old).departures.Sublist old := by
  fun_induction pairUp new old with
  | case1 => simp
  | case2 entry new old partner rest htake pairing ih =>
    exact ih.trans (sublist_of_takeFirst? htake)
  | case3 entry new old htake pairing ih => exact ih

theorem pairUp_arrivals_sublist (new old : List Entry) :
    (pairUp new old).arrivals.Sublist new := by
  fun_induction pairUp new old with
  | case1 => simp
  | case2 entry new old partner rest htake pairing ih => exact ih.cons entry
  | case3 entry new old htake pairing ih => exact ih.cons_cons entry

/-- The pairs follow the order of the new entries. -/
theorem pairUp_pairs_sublist (new old : List Entry) :
    ((pairUp new old).pairs.map Prod.snd).Sublist new := by
  fun_induction pairUp new old with
  | case1 => simp
  | case2 entry new old partner rest htake pairing ih => exact ih.cons_cons entry
  | case3 entry new old htake pairing ih => exact ih.cons entry

/-- The departures are the old entries no pair uses, in order. -/
theorem pairUp_departures_eq (hold : old.Nodup) :
    (pairUp new old).departures =
      old.filter (· ∉ (pairUp new old).pairs.map Prod.fst) :=
  eq_filter_notMem_of_perm hold (pairUp_old_perm new old) (pairUp_departures_sublist new old)

/-- The arrivals are the new entries no pair uses, in order. -/
theorem pairUp_arrivals_eq (hnew : new.Nodup) :
    (pairUp new old).arrivals =
      new.filter (· ∉ (pairUp new old).pairs.map Prod.snd) :=
  eq_filter_notMem_of_perm hnew (pairUp_new_perm new old) (pairUp_arrivals_sublist new old)

/-- No old entry is used twice. -/
theorem nodup_pairUp_fst (hold : old.Nodup) : ((pairUp new old).pairs.map Prod.fst).Nodup :=
  (List.nodup_append.1 ((pairUp_old_perm new old).nodup_iff.2 hold)).1

theorem fst_mem_of_mem_pairUp {p : Entry × Entry} (h : p ∈ (pairUp new old).pairs) :
    p.1 ∈ old :=
  (pairUp_old_perm new old).mem_iff.1 (List.mem_append_left _ (List.mem_map_of_mem h))

theorem snd_mem_of_mem_pairUp {p : Entry × Entry} (h : p ∈ (pairUp new old).pairs) :
    p.2 ∈ new :=
  (pairUp_pairs_sublist new old).subset (List.mem_map_of_mem h)

end CodeOutline
