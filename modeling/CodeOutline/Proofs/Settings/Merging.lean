import CodeOutline.Settings.Layer
import Mathlib.Data.List.Induction

/-!
# Putting values at places

A layer changes what was gathered entry by entry, and an entry reaches deep into tables. But what
stands at one place depends only on what was put there or below it: of every entry, a place sees the
part that leads to it, and nothing else. As long as the sections stay tables, the value of a setting
in a section is the outcome of these parts, one after the other.

A single value that was there before shows through only if nothing is put in its place. An empty
table does not count as something: it is merged key by key, and has none.

## Main definitions

* `Stored.lay`, `Stored.layAll`: values put at a place or below it
* `Stored.within?`: what stands in a section under a name
* `Layer.leadingTo`: what the entries of a layer put there
* `Layer.Keeps`: the entries of a layer leave a section a table
* `Stored.present?`: what stands at a place, unless it is an empty table

## Main results

* `Stored.member?_mergeAll`, `Stored.member?_set`: what an entry does to the places in a table
* `Stored.within?_apply`: what a layer does to the values in a section
* `Stored.layAll_scalar`: what stands over a single value
-/

namespace CodeOutline

namespace Keyed

variable {κ ν : Type} [DecidableEq κ]

theorem lookup_cons_eq_ite (key other : κ) (value : ν) (rest : List (κ × ν)) :
    ((other, value) :: rest).lookup key = if key = other then some value else rest.lookup key := by
  rw [List.lookup_cons]
  by_cases h : key = other
  · rw [if_pos h, beq_iff_eq.2 h]
  · rw [if_neg h, beq_eq_false_iff_ne.2 h]

/-- A pair that was added is found under its key, and nothing else changes. -/
theorem lookup_insert (less : κ → κ → Bool) (key : κ) (value : ν) (list : List (κ × ν)) (name : κ) :
    (insert less key value list).lookup name =
      if name = key then some value else list.lookup name := by
  induction list with
  | nil => exact lookup_cons_eq_ite name key value []
  | cons head rest ih =>
    obtain ⟨other, old⟩ := head
    rw [insert]
    by_cases hsame : key = other
    · subst hsame
      rw [if_pos rfl, lookup_cons_eq_ite, lookup_cons_eq_ite]
      split <;> rfl
    · rw [if_neg hsame]
      split
      · rw [lookup_cons_eq_ite]
      · rw [lookup_cons_eq_ite, lookup_cons_eq_ite, ih]
        by_cases hother : name = other
        · rw [if_pos hother, if_pos hother, if_neg fun hkey => hsame (hkey.symm.trans hother)]
        · rw [if_neg hother, if_neg hother]

end Keyed

namespace Stored

variable {root target value old : Stored} {key name sec : String} {steps address : Address}
  {members incoming : List (String × Stored)} {file : Option String}

/-! ### What an entry does to a table -/

/-- A value over what was there under its key: a table is merged into that, anything else takes its
place. -/
def laidOver (old : Option Stored) : Stored → Stored
  | .table incoming _ => mergeAll incoming (old.getD (.table [] none))
  | value => value

/-- A value put at the end of an address that leads on from a place. -/
def lay (steps : Address) (value : Stored) (old : Option Stored) : Stored :=
  match steps with
  | [] => laidOver old value
  | steps => set value steps (old.getD nothing)

/-- What stands at a place after several values were put there or below it. -/
def layAll (old : Option Stored) (entries : List (Address × Stored)) : Option Stored :=
  entries.foldl (fun old entry => some (lay entry.1 entry.2 old)) old

theorem layAll_append (old : Option Stored) (entries more : List (Address × Stored)) :
    layAll old (entries ++ more) = layAll (layAll old entries) more :=
  List.foldl_append

theorem lookup_put (key : String) (value : Stored) (members : List (String × Stored))
    (name : String) :
    (put key value members).lookup name = if name = key then some value else members.lookup name :=
  Keyed.lookup_insert keyLess key value members name

theorem merge_eq (key : String) (value : Stored) (members : List (String × Stored)) :
    merge key value members =
      put (Text.lowercase key) (laidOver (members.lookup (Text.lowercase key)) value) members := by
  cases value <;> rfl

theorem lookup_merge (key : String) (value : Stored) (members : List (String × Stored))
    (name : String) : (merge key value members).lookup name =
      if name = Text.lowercase key then some (laidOver (members.lookup name) value)
      else members.lookup name := by
  rw [merge_eq, lookup_put]
  split
  · rename_i h
    rw [h]
  · rfl

/-- The values that members put under a name. -/
def under (name : String) (members : List (String × Stored)) : List (Address × Stored) :=
  (members.filter fun member => name = Text.lowercase member.1).map fun member => ([], member.2)

theorem member?_mergeAll (incoming : List (String × Stored)) (value : Stored) (name : String) :
    (mergeAll incoming value).member? name = layAll (value.member? name) (under name incoming) := by
  induction incoming generalizing value with
  | nil => rfl
  | cons head rest ih =>
    obtain ⟨key, member⟩ := head
    rw [mergeAll, ih, member?, members, lookup_merge]
    by_cases h : name = Text.lowercase key
    · rw [if_pos h, under, under, List.filter_cons_of_pos (by simpa using h)]
      rfl
    · rw [if_neg h, under, under, List.filter_cons_of_neg (by simpa using h)]
      rfl

theorem member?_set (value : Stored) (key : String) (steps : Address) (target : Stored)
    (name : String) : (set value (.key key :: steps) target).member? name =
      if name = Text.lowercase key then some (lay steps value (target.member? name))
      else target.member? name := by
  cases steps with
  | nil =>
    rw [set, member?, members, lookup_merge]
    rfl
  | cons step steps =>
    rw [set, member?, members, lookup_put]
    split
    · rename_i h
      rw [h]
      rfl
    · rfl

/-! ### Tables -/

/-- The value is a table. -/
def IsTable : Stored → Prop
  | .table _ _ => True
  | _ => False

theorem isTable_mergeAll (incoming : List (String × Stored)) (h : value.IsTable) :
    (mergeAll incoming value).IsTable := by
  induction incoming generalizing value with
  | nil => exact h
  | cons head rest ih =>
    obtain ⟨key, member⟩ := head
    rw [mergeAll]
    exact ih trivial

theorem isTable_set (value : Stored) (key : String) (steps : Address) (target : Stored) :
    (set value (.key key :: steps) target).IsTable := by
  cases steps <;> exact trivial

end Stored

/-! ### What a layer does to a section -/

namespace Layer

open Stored

/-- What an entry of a layer puts in a section under a name, or below that. -/
def leading (sec name : String) : Address × Stored → List (Address × Stored)
  | ([.key key], .table members _) => if sec = Text.lowercase key then under name members else []
  | (.key key :: .key inner :: steps, value) =>
    if sec = Text.lowercase key ∧ name = Text.lowercase inner then [(steps, value)] else []
  | _ => []

/-- What the entries of a layer put in a section under a name, or below that. -/
def leadingTo (layer : Layer) (sec name : String) : List (Address × Stored) :=
  layer.flatMap (leading sec name)

/-- An entry puts nothing in the place of a section but a table. -/
def EntryKeeps (sec : String) : Address × Stored → Prop
  | ([.key key], value) => sec = Text.lowercase key → value.IsTable
  | (.key _ :: .key _ :: _, _) => True
  | (.key key :: .index _ :: _, _) => sec ≠ Text.lowercase key
  | _ => False

/-- The entries of a layer leave a section a table. -/
def Keeps (layer : Layer) (sec : String) : Prop :=
  ∀ entry ∈ layer, EntryKeeps sec entry

end Layer

namespace Stored

variable {root value : Stored} {sec name : String} {address : Address} {layer : Layer}

/-- What stands in a section under a name. -/
def within? (sec name : String) (root : Stored) : Option Stored :=
  (root.member? sec).bind (member? name)

theorem within?_set (name : String) (h : Layer.EntryKeeps sec (address, value)) :
    (set value address root).within? sec name =
      layAll (root.within? sec name) (Layer.leading sec name (address, value)) := by
  match address with
  | [] | .index _ :: _ => exact h.elim
  | [.key key] =>
    rw [within?, member?_set]
    by_cases hsec : sec = Text.lowercase key
    · cases value with
      | scalar | list => exact (h hsec).elim
      | table incoming file =>
        rw [if_pos hsec, Option.bind_some, Layer.leading, if_pos hsec, lay, laidOver,
          member?_mergeAll, within?]
        cases root.member? sec <;> rfl
    · rw [if_neg hsec]
      cases value <;> simp only [Layer.leading, if_neg hsec] <;> rfl
  | .key key :: .key inner :: steps =>
    rw [within?, member?_set, Layer.leading]
    by_cases hsec : sec = Text.lowercase key
    · have hlaid : lay (.key inner :: steps) value (root.member? sec) =
          set value (.key inner :: steps) ((root.member? sec).getD nothing) := rfl
      rw [if_pos hsec, Option.bind_some, hlaid, member?_set, within?]
      have hold : ((root.member? sec).getD nothing).member? name =
          (root.member? sec).bind (member? name) := by
        cases root.member? sec <;> rfl
      rw [hold]
      by_cases hname : name = Text.lowercase inner
      · rw [if_pos hname, if_pos ⟨hsec, hname⟩]
        rfl
      · rw [if_neg hname, if_neg fun hboth => hname hboth.2]
        rfl
    · rw [if_neg hsec, if_neg fun hboth => hsec hboth.1]
      rfl
  | .key key :: .index i :: steps =>
    rw [within?, member?_set, if_neg h]
    rfl

theorem isTable_of_set (h : Layer.EntryKeeps sec (address, value))
    (hroot : ∀ table ∈ root.member? sec, table.IsTable) :
    ∀ table ∈ (set value address root).member? sec, table.IsTable := by
  match address with
  | [] | .index _ :: _ => exact h.elim
  | .key key :: steps =>
    intro table htable
    rw [member?_set] at htable
    by_cases hsec : sec = Text.lowercase key
    · rw [if_pos hsec] at htable
      obtain rfl := Option.some_inj.1 htable
      match steps with
      | [] =>
        cases value with
        | scalar | list => exact (h hsec).elim
        | table incoming file =>
          refine isTable_mergeAll incoming ?_
          cases hold : root.member? sec with
          | none => exact trivial
          | some old => exact hroot old hold
      | .key inner :: steps => exact isTable_set value inner steps _
      | .index i :: steps => exact (h hsec).elim
    · rw [if_neg hsec] at htable
      exact hroot table htable

/-- What stands in a section after a layer is what its entries put there, over what was there. -/
theorem within?_apply (name : String) (h : layer.Keeps sec) (root : Stored) :
    (apply layer root).within? sec name =
      layAll (root.within? sec name) (layer.leadingTo sec name) := by
  induction layer generalizing root with
  | nil => rfl
  | cons entry rest ih =>
    obtain ⟨address, value⟩ := entry
    have hentry := h _ List.mem_cons_self
    have hrest : Layer.Keeps rest sec := fun entry hmem => h entry (List.mem_cons_of_mem _ hmem)
    change (apply rest (set value address root)).within? sec name = _
    rw [ih hrest, within?_set name hentry, ← layAll_append]
    rfl

theorem isTable_of_apply (h : layer.Keeps sec) (hroot : ∀ table ∈ root.member? sec, table.IsTable) :
    ∀ table ∈ (apply layer root).member? sec, table.IsTable := by
  induction layer generalizing root with
  | nil => exact hroot
  | cons entry rest ih =>
    exact ih (fun entry hmem => h entry (List.mem_cons_of_mem _ hmem))
      (isTable_of_set (h _ List.mem_cons_self) hroot)

/-! ### What shows through -/

/-- The value is a table without members. -/
def isEmptyTable : Stored → Bool
  | .table [] _ => true
  | _ => false

/-- What stands at a place, unless it is an empty table. -/
def present? (found : Option Stored) : Option Stored :=
  found.filter (!·.isEmptyTable)

theorem put_ne_nil (key : String) (value : Stored) (members : List (String × Stored)) :
    put key value members ≠ [] := by
  intro h
  have hfound := lookup_put key value members key
  rw [h, if_pos rfl] at hfound
  cases hfound

theorem isEmptyTable_put (key : String) (value : Stored) (members : List (String × Stored))
    (file : Option String) : (table (put key value members) file).isEmptyTable = false := by
  cases hput : put key value members with
  | nil => exact absurd hput (put_ne_nil key value members)
  | cons head rest => rfl

theorem isEmptyTable_mergeAll (incoming : List (String × Stored)) (h : value.isEmptyTable = false) :
    (mergeAll incoming value).isEmptyTable = false := by
  induction incoming generalizing value with
  | nil => exact h
  | cons head rest ih =>
    obtain ⟨key, member⟩ := head
    rw [mergeAll]
    refine ih ?_
    rw [merge_eq]
    exact isEmptyTable_put _ _ _ _

theorem isEmptyTable_set (value : Stored) (step : Address.Step) (steps : Address)
    (target : Stored) : (set value (step :: steps) target).isEmptyTable = false := by
  match step, steps with
  | .key key, [] =>
    rw [set, merge_eq]
    exact isEmptyTable_put _ _ _ _
  | .key key, step :: steps => exact isEmptyTable_put _ _ _ _
  | .index i, steps => rfl

/-- What is not an empty table does not become one. -/
theorem isEmptyTable_lay (steps : Address) (value : Stored) {old : Stored}
    (h : old.isEmptyTable = false) : (lay steps value (some old)).isEmptyTable = false := by
  cases steps with
  | nil =>
    cases value with
    | scalar | list => rfl
    | table incoming file => exact isEmptyTable_mergeAll incoming h
  | cons step steps => exact isEmptyTable_set value step steps old

/-- What is put below a single value is put below nothing. -/
theorem set_scalar (value : Stored) (step : Address.Step) (steps : Address) (single : Scalar)
    (file : Option String) :
    set value (step :: steps) (.scalar single file) = set value (step :: steps) nothing := by
  match step, steps with
  | .key key, [] | .key key, _ :: _ | .index i, steps => rfl

/-- What is put below an empty table is put below nothing. -/
theorem set_empty (value : Stored) (step : Address.Step) (steps : Address) :
    set value (step :: steps) (.table [] none) = set value (step :: steps) nothing := by
  match step, steps with
  | .key key, [] | .key key, _ :: _ | .index i, steps => rfl

/-- There is nothing at a place but perhaps an empty table. -/
def IsBlank (found : Option Stored) : Prop :=
  found = none ∨ found = some (.table [] none)

/-- A value put over nothing comes out as over a single value, unless it is an empty table. -/
theorem lay_of_isBlank {blank : Option Stored} (h : IsBlank blank) (steps : Address)
    (value : Stored) (single : Scalar) (file : Option String) :
    (lay steps value blank = .table [] none ∧
      lay steps value (some (.scalar single file)) = .scalar single file) ∨
    (lay steps value blank).isEmptyTable = false ∧
      lay steps value (some (.scalar single file)) = lay steps value blank := by
  cases steps with
  | nil =>
    match value with
    | .scalar _ _ | .list _ _ => exact .inr ⟨rfl, rfl⟩
    | .table [] _ => exact .inl ⟨by rcases h with rfl | rfl <;> rfl, rfl⟩
    | .table ((key, member) :: rest) _ =>
      -- the first member makes a table of either
      have hsame : lay [] (.table ((key, member) :: rest) file) blank =
          mergeAll rest (.table (merge key member []) none) := by
        rcases h with rfl | rfl <;> rfl
      refine .inr ⟨?_, ?_⟩
      · change (lay [] (.table ((key, member) :: rest) file) blank).isEmptyTable = false
        rw [hsame, merge_eq]
        exact isEmptyTable_mergeAll rest (isEmptyTable_put _ _ _ _)
      · exact hsame.symm
  | cons step steps =>
    have hsame : lay (step :: steps) value blank = set value (step :: steps) nothing := by
      rcases h with rfl | rfl
      · rfl
      · exact set_empty value step steps
    refine .inr ⟨?_, ?_⟩
    · rw [hsame]
      exact isEmptyTable_set value step steps nothing
    · rw [hsame]
      exact set_scalar value step steps single file

/-- **Over a single value stands what stands without it**, and where that is nothing or an empty
table, the single value itself. -/
theorem layAll_scalar (entries : List (Address × Stored)) (single : Scalar) (file : Option String) :
    layAll (some (.scalar single file)) entries =
      (present? (layAll none entries)).or (some (.scalar single file)) := by
  -- either nothing was put there yet, or both sides have the same value
  suffices hcases : (IsBlank (layAll none entries) ∧
        layAll (some (.scalar single file)) entries = some (.scalar single file)) ∨
      ∃ found, found.isEmptyTable = false ∧ layAll none entries = some found ∧
        layAll (some (.scalar single file)) entries = some found by
    rcases hcases with ⟨hblank | hblank, hsingle⟩ | ⟨found, hfound, hnone, hsingle⟩
    · rw [hsingle, hblank]
      rfl
    · rw [hsingle, hblank]
      rfl
    · rw [hsingle, hnone, present?, Option.filter_some, hfound]
      rfl
  induction entries using List.reverseRecOn with
  | nil => exact .inl ⟨.inl rfl, rfl⟩
  | append_singleton entries entry ih =>
    obtain ⟨steps, value⟩ := entry
    rw [layAll_append, layAll_append]
    rcases ih with ⟨hblank, hsingle⟩ | ⟨found, hfound, hnone, hsingle⟩
    · rw [hsingle]
      rcases lay_of_isBlank hblank steps value single file with ⟨hempty, hkept⟩ | ⟨hput, hsame⟩
      · exact .inl ⟨.inr (congrArg some hempty), congrArg some hkept⟩
      · exact .inr ⟨_, hput, rfl, congrArg some hsame⟩
    · rw [hnone, hsingle]
      exact .inr ⟨_, isEmptyTable_lay steps value hfound, rfl, rfl⟩

end Stored

end CodeOutline
