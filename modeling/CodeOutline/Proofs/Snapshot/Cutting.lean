import CodeOutline.Proofs.Diff.Balance
import CodeOutline.Proofs.Text.Slices

/-!
# Hashes that cannot be cut

The hash of a file is free text. It is read in small letters and cut to sixteen bytes, which works
only where a character starts: a hash of other letters than hexadecimal digits may hold a character
that goes across the cut, and then there is no forest. Nothing else stands in the way of comparing
two snapshots. All that is read of their forests is there.

## Main definitions

* `SplitsCharacter`: a text holds a character across a cut
* `Forest.InRange`: what is read of a forest is there
* `Snapshot.between?`: what changed from one snapshot to another, if both have forests

## Main results

* `cutsCharacter_iff`: how a cut through a character is found
* `Snapshot.cannotCompare_iff`: when two snapshots cannot be compared
-/

namespace CodeOutline

variable {room : Nat} {cs : List Char} {c : Char} {forest : Forest}

/-! ### Cutting a text -/

/-- The text holds a character that starts before a number of bytes and ends behind it. -/
def SplitsCharacter (room : Nat) (cs : List Char) : Prop :=
  ∃ front c rest, cs = front ++ c :: rest ∧ Text.byteLength front < room ∧
    room < Text.byteLength front + c.utf8Size

theorem not_splitsCharacter_nil (room : Nat) : ¬ SplitsCharacter room [] := by
  rintro ⟨front, c, rest, heq, -, -⟩
  simp at heq

/-- The character across the cut is the first one, or one of the others. -/
theorem splitsCharacter_cons_iff : SplitsCharacter room (c :: cs) ↔
    (0 < room ∧ room < c.utf8Size) ∨
      (c.utf8Size ≤ room ∧ SplitsCharacter (room - c.utf8Size) cs) := by
  constructor
  · rintro ⟨front, d, rest, heq, hstart, hend⟩
    cases front with
    | nil =>
      obtain ⟨rfl, rfl⟩ := List.cons.inj heq
      exact Or.inl ⟨hstart, by simpa [Text.byteLength] using hend⟩
    | cons e front =>
      obtain ⟨rfl, rfl⟩ := List.cons.inj heq
      rw [Text.byteLength_cons] at hstart hend
      exact Or.inr ⟨by omega, front, d, rest, rfl, by omega, by omega⟩
  · rintro (⟨hstart, hend⟩ | ⟨hle, front, d, rest, rfl, hstart, hend⟩)
    · exact ⟨[], c, cs, rfl, hstart, by simpa [Text.byteLength] using hend⟩
    · refine ⟨c :: front, d, rest, rfl, ?_, ?_⟩ <;> rw [Text.byteLength_cons] <;> omega

/-- A cut through a character is found. -/
theorem cutsCharacter_iff : cutsCharacter room cs = true ↔ SplitsCharacter room cs := by
  induction cs generalizing room with
  | nil => simp [cutsCharacter, not_splitsCharacter_nil]
  | cons c cs ih =>
    rw [cutsCharacter, splitsCharacter_cons_iff]
    split
    · rename_i hle
      simp [ih, hle, Nat.not_lt.2 hle]
    · rename_i hlt
      have hend : room < c.utf8Size := Nat.lt_of_not_le hlt
      simp [hlt, hend, Nat.pos_iff_ne_zero]

theorem FileFacts.cannotCut_iff {facts : FileFacts} : facts.cannotCut = true ↔
    SplitsCharacter hashLength (Text.lower facts.contentHash.toList) :=
  cutsCharacter_iff

/-! ### Reading a forest -/

/-- Whatever number of a node is read of the forest, there is a node of it: those of roots, parents
and children, and those a walk comes to, each of which is compared. -/
structure Forest.InRange (forest : Forest) : Prop where
  roots : ∀ id ∈ forest.roots, (forest.node? id).isSome
  parents : ∀ id, ∀ p ∈ forest.parent? id, (forest.node? p).isSome
  children : ∀ id, ∀ c ∈ forest.children id, (forest.node? c).isSome
  visited : ∀ id ∈ forest.preorder, (forest.node? id).isSome
  compared : forest.entries.map Entry.id = forest.preorder

theorem Forest.Rooted.inRange (h : forest.Rooted) : forest.InRange where
  roots _ hid := node?_isSome_iff.2 (h.lt_size_of_mem_roots hid)
  parents id p hp :=
    node?_isSome_iff.2 (Nat.lt_trans (h.parentsFirst id p hp) (lt_size_of_parent? hp))
  children _ _ hc := node?_isSome_iff.2 (h.lt_size_of_mem_children hc)
  visited _ hid := node?_isSome_iff.2 (List.mem_range.1 (h.preorder_perm.mem_iff.1 hid))
  compared := h.map_id_entries

/-! ### Comparing two snapshots -/

namespace Snapshot

variable {snapshot : Snapshot}

/-- What changed from one snapshot to another, unless the hash of a file would have to be cut
through a character. -/
def between? (options : DiffOptions) (old new : Snapshot) : Option Diff := do
  return Diff.between options (← old.forest?) (← new.forest?)

/-- The hash of a file would have to be cut through a character. -/
def HasUncuttableHash (snapshot : Snapshot) : Prop :=
  ∃ file ∈ snapshot.files, Path.segments file.1 ≠ [] ∧
    SplitsCharacter hashLength (Text.lower file.2.contentHash.toList)

theorem forest?_eq_none_iff : snapshot.forest? = none ↔ snapshot.HasUncuttableHash := by
  rw [forest?, HasUncuttableHash]
  simp [FileFacts.cannotCut_iff]

theorem forest?_eq_none_or_some (snapshot : Snapshot) :
    snapshot.forest? = none ∨ snapshot.forest? = some snapshot.forest := by
  rw [forest?]
  split
  · exact Or.inl rfl
  · exact Or.inr rfl

/-- **When two snapshots cannot be compared.** There is no difference if a file of either snapshot
has a hash that, in small letters, holds a character across the sixteenth byte. In all other cases
there is one, whatever the paths, the names, the source texts and the options are, and every number
of a node that is read of the two forests is in range. -/
theorem cannotCompare_iff (options : DiffOptions) (old new : Snapshot) :
    (between? options old new = none ↔ old.HasUncuttableHash ∨ new.HasUncuttableHash) ∧
      (between? options old new = none ∨
        between? options old new = some (Diff.between options old.forest new.forest)) ∧
      old.forest.InRange ∧ new.forest.InRange := by
  refine ⟨?_, ?_, (rooted_forest old).inRange, (rooted_forest new).inRange⟩
  · rw [← forest?_eq_none_iff, ← forest?_eq_none_iff, between?]
    cases old.forest? <;> cases new.forest? <;> simp
  · rw [between?]
    rcases forest?_eq_none_or_some old with hold | hold <;>
      rcases forest?_eq_none_or_some new with hnew | hnew <;> simp [hold, hnew]

/-- Fifteen letters and an accented one, which takes the sixteenth byte and the next. -/
theorem cannotCompare_accented_hash :
    let snapshot := Snapshot.empty.insert "a.ts" ⟨[], "aaaaaaaaaaaaaaaé"⟩
    between? .standard snapshot snapshot = none := by
  decide +kernel

/-- A hash of sixteen bytes becomes longer in small letters: a capital with a dot above is read as
two characters, and the second one goes across the cut. -/
example : (Snapshot.empty.insert "a.ts" ⟨[], "aaaaaaaaaaaaaaİ"⟩).forest? = none := by
  decide +kernel

end Snapshot

end CodeOutline
