import CodeOutline.Proofs.Diff.Buckets
import CodeOutline.Proofs.Diff.Patch

/-!
# The way back

Taking a difference the other way round turns it around: what was added is removed, what was removed
is added, and modifications and relocations change their two ends. This is not in the procedure,
where old nodes wait and new nodes choose among them, but it is in the pairs: the settled ones make
no difference between the two sides, and pairing by content goes key by key.

Only where an identity occurs twice is the way back another one, since a node that comes under a
known identity is not added, while the node that goes is removed. And refactorings are no part of
it: what was extracted one way was not always put into other functions the other way.

## Main definitions

* `Modification.mirror`, `Relocation.mirror`: changes with their ends exchanged
* `Diff.IsMirror`: a difference is another one turned around

## Main results

* `Diff.pairs_swap_perm`: the pairs of the way back
* `Diff.between_isMirror`: the difference taken the other way round is the difference turned around
-/

namespace CodeOutline

/-- The modification on the way back. -/
def Modification.mirror (modification : Modification) : Modification :=
  ⟨modification.after, modification.before⟩

/-- The relocation on the way back: a renaming remains a renaming, a move a move. -/
def Relocation.mirror (relocation : Relocation) : Relocation :=
  { relocation with old := relocation.new, new := relocation.old }

theorem RelocationKind.classify_comm (detection : MoveDetection) (a b : Node) :
    classify detection b a = classify detection a b := by
  simp only [classify, eq_comm]

namespace Diff

/-- A difference is another one turned around. Removals and additions keep their order; of
modifications and relocations, which follow the order of the newer side, only the order may
differ. -/
structure IsMirror (diff back : Diff) : Prop where
  added : back.added = diff.removed
  removed : back.removed = diff.added
  modified : back.modified.Perm (diff.modified.map Modification.mirror)
  relocated : back.relocated.Perm (diff.relocated.map Relocation.mirror)
  refactorings : back.refactorings = diff.refactorings

variable {options : DiffOptions} {old new : List Entry} {pairs : List (Entry × Entry)} {diff : Diff}
  {p : Entry × Entry}

/-! ### The pairs of the way back -/

theorem isSettled_swap_iff : IsSettled new old p.swap ↔ IsSettled old new p := by
  simp only [IsSettled, Prod.fst_swap, Prod.snd_swap, eq_comm (a := p.2.identity)]
  tauto

section

variable (hold : (old.map Entry.id).Nodup) (hnew : (new.map Entry.id).Nodup)
include hold hnew

theorem swap_mem_pairs_iff : p.swap ∈ Diff.pairs new old ↔ p ∈ Diff.pairs old new := by
  rw [mem_pairs hold, mem_pairs hnew, isSettled_swap_iff]
  exact or_congr_right swap_mem_pairUp_iff

/-- The way back has the same pairs with their ends exchanged. -/
theorem pairs_swap_perm : (Diff.pairs new old).Perm ((Diff.pairs old new).map Prod.swap) := by
  have hback : (Diff.pairs new old).Nodup := (isPairing_pairs hnew hold).new_nodup.of_map
  have hforth : (Diff.pairs old new).Nodup := (isPairing_pairs hold hnew).new_nodup.of_map
  -- each list follows the order of its newer side, so only the members can be compared
  apply (List.perm_ext_iff_of_nodup hback (hforth.map Prod.swap_injective)).2
  intro p
  rw [← swap_mem_pairs_iff hnew hold, ← Prod.swap_swap p,
    List.mem_map_of_injective Prod.swap_injective, Prod.swap_swap]

end

/-! ### The lists of the way back -/

/-- What is read off pairs with exchanged ends is what was read off the pairs, turned around, as
long as this is so for each pair. -/
theorem map_filter_perm_of_swap {α : Type*} {backPairs : List (Entry × Entry)}
    (hpairs : backPairs.Perm (pairs.map Prod.swap)) {shown shownBack : Entry × Entry → Bool}
    {read readBack : Entry × Entry → α} {turn : α → α}
    (hshown : ∀ p, shownBack p.swap = shown p) (hread : ∀ p, readBack p.swap = turn (read p)) :
    ((backPairs.filter shownBack).map readBack).Perm
      (((pairs.filter shown).map read).map turn) := by
  have hfilter : (pairs.map Prod.swap).filter shownBack = (pairs.filter shown).map Prod.swap := by
    rw [List.filter_map]
    exact congrArg _ (List.filter_congr fun p _ => hshown p)
  refine ((hpairs.filter shownBack).map readBack).trans (.of_eq ?_)
  rw [hfilter, List.map_map, List.map_map]
  exact List.map_congr_left fun p _ => hread p

namespace Explains

variable (h : Explains options old new pairs diff) (hold : (old.map Entry.identity).Nodup)
  (hnew : (new.map Entry.identity).Nodup)
include h hold hnew

omit hold in
/-- Where every identity occurs once, what is added are the new entries in no pair. -/
theorem added_eq_of_nodup :
    diff.added = (new.filter fun b => b ∉ pairs.map Prod.snd).map Entry.node := by
  rw [h.added_eq]
  congr 1
  refine List.filter_congr fun b hb => ?_
  rw [decide_eq_decide, and_iff_left_of_imp]
  exact fun hfree hidentity => hfree (h.mem_paired_of_identity_mem hnew hb hidentity)

/-- Two differences whose pairs are each other's mirror images are each other's mirror images. -/
theorem isMirror {back : Diff} {backPairs : List (Entry × Entry)}
    (hback : Explains options new old backPairs back)
    (hpairs : backPairs.Perm (pairs.map Prod.swap)) (hoff : options.detectRefactorings = false) :
    IsMirror diff back := by
  -- an entry is in a pair on the way back if and only if it is in one on the way forth
  have hfst : ∀ a, a ∈ backPairs.map Prod.snd ↔ a ∈ pairs.map Prod.fst := fun a => by
    rw [(hpairs.map _).mem_iff, List.map_map]
    rfl
  have hsnd : ∀ b, b ∈ backPairs.map Prod.fst ↔ b ∈ pairs.map Prod.snd := fun b => by
    rw [(hpairs.map _).mem_iff, List.map_map]
    rfl
  constructor
  case added => simp only [hback.added_eq_of_nodup hold, h.removed, hfst]
  case removed => simp only [hback.removed, h.added_eq_of_nodup hnew, hsnd]
  case modified =>
    rw [hback.modified, h.modified]
    refine map_filter_perm_of_swap hpairs (fun p => ?_) (fun p => rfl)
    simp only [isSettled_swap_iff, Prod.fst_swap, Prod.snd_swap, ne_comm]
  case relocated =>
    rw [hback.relocated, h.relocated]
    refine map_filter_perm_of_swap hpairs (fun p => ?_) (fun p => ?_)
    · simp only [Prod.fst_swap, Prod.snd_swap, ne_comm]
    · simp only [Prod.fst_swap, Prod.snd_swap, Relocation.mirror, RelocationKind.classify_comm]
  case refactorings => simp [hback.refactorings, h.refactorings, hoff]

end Explains

/-- **The difference taken the other way round is the difference turned around** if no walk visits a
node twice, no identity occurs twice in a forest, and refactorings are not looked for. -/
theorem between_isMirror (options : DiffOptions) (hoff : options.detectRefactorings = false)
    (old new : Forest) (hold : old.preorder.Nodup) (hnew : new.preorder.Nodup)
    (holdUnique : old.identities.Nodup) (hnewUnique : new.identities.Nodup) :
    IsMirror (between options old new) (between options new old) := by
  have holdIds := Forest.nodup_entries_ids hold
  have hnewIds := Forest.nodup_entries_ids hnew
  exact (explains_pairs holdIds hnewIds options).isMirror holdUnique hnewUnique
    (explains_pairs hnewIds holdIds options) (pairs_swap_perm holdIds hnewIds) hoff

/-- Two functions with one content leave a file that is modified; three with that content come into
another one. -/
theorem between_isMirror_crowd :
    let options : DiffOptions := ⟨.owningFile, false⟩
    let file (name hash : String) (forest : Forest) :=
      forest.grow { Node.named .file name with hash := hash } none
    let function (path : String) (parent : NodeId) (forest : Forest) :=
      forest.grow { Node.named .function path with hash := "7" } (some parent)
    let old := function "a.ts#g" 0 (function "a.ts#f" 0 (file "b.ts" "2" (file "a.ts" "1" .empty)))
    let new := function "b.ts#k" 1 (function "b.ts#i" 1 (function "b.ts#h" 1
      (file "b.ts" "2" (file "a.ts" "3" .empty))))
    (options.detectRefactorings = false ∧ old.preorder.Nodup ∧ new.preorder.Nodup ∧
        old.identities.Nodup ∧ new.identities.Nodup) ∧
      IsMirror (between options old new) (between options new old) :=
  ⟨by decide, between_isMirror _ rfl _ _ (by decide) (by decide) (by decide) (by decide)⟩

end Diff

end CodeOutline
