import CodeOutline.Proofs.Outline.Contents

/-!
# What an identity tells

The nodes of two forests are recognised as the same by kind and path, and within an outline kind and
path are to tell a node's place: where it stands, and by what name. They do, with one exception. The
text of a note is free, so a note that stands on its own may be called what the path of a note in a
file is. For every other kind the mark in front of the name in a path is not in any name, and tells
the two apart.

Two functions of one name in one file have one identity, and so have all other repetitions but those
of directories and files, which are never added twice.

## Main definitions

* `Forest.SamePlace`: two nodes have one kind and name, and one parent or none
* `Forest.SpellsPath`: a note on its own is called what the path of a note in a file is
* `Outline.IdentitiesTellPlaces`: what kind and path tell about two nodes of an outline

## Main results

* `WellPlaced.path_cases`: what is no container is known by its name alone, or by its file and name
* `Outline.identitiesTellPlaces_ofText`: what kind and path tell in every outline
* `Outline.notes_of_one_identity`: two notes of different places and names
-/

namespace CodeOutline

namespace Forest

/-- Two nodes have one kind and one name, and they stand below one parent or are both roots. -/
def SamePlace (forest : Forest) (id id' : NodeId) (a b : Node) : Prop :=
  a.kind = b.kind ∧ a.name = b.name ∧ forest.parent? id = forest.parent? id'

/-- A note on its own is called what the path of a note in a file is. -/
structure SpellsPath (forest : Forest) (id id' : NodeId) (a b : Node) : Prop where
  kind : a.kind = .note
  kind' : b.kind = .note
  alone : forest.parent? id = none
  spells : ∃ p file, forest.parent? id' = some p ∧ forest.node? p = some file ∧
    file.kind = .file ∧ a.name = file.path ++ "#" ++ b.name

end Forest

namespace Outline

variable {forest : Forest} {id id' p p' : Nat} {a b node file file' : Node}

namespace WellPlaced

variable (h : WellPlaced forest)
include h

/-- What is no container stands on its own and has its name for a path, or stands in a file and has
the path of the file in front of its name. -/
theorem path_cases (hnode : forest.node? id = some node) (hkind : node.kind.isContainer = false) :
    (forest.parent? id = none ∧ node.path = node.name) ∨
      ∃ p file, forest.parent? id = some p ∧ forest.node? p = some file ∧ file.kind = .file ∧
        node.path = file.path ++ "#" ++ node.name := by
  cases hparent : forest.parent? id with
  | none => exact .inl ⟨rfl, h.path_eq_name hnode hparent⟩
  | some p =>
    obtain ⟨file, hfile, hkindFile, hpath⟩ := h.exists_file hnode hkind hparent
    exact .inr ⟨p, file, rfl, hfile, hkindFile, hpath⟩

/-- In a path below a file, the first `#` tells the file from the name. -/
theorem eq_of_filePath_eq (hfile : forest.node? p = some file) (hkind : file.kind = .file)
    (hfile' : forest.node? p' = some file') (hkind' : file'.kind = .file) {name name' : String}
    (hpath : file.path ++ "#" ++ name = file'.path ++ "#" ++ name') : p = p' ∧ name = name' := by
  have hcontainer : file.kind.isContainer = true := by rw [hkind]; rfl
  have hcontainer' : file'.kind.isContainer = true := by rw [hkind']; rfl
  have hfront : file.path = file'.path := by
    rw [← h.owningFile_append hfile hkind name, hpath, h.owningFile_append hfile' hkind']
  rw [hfront, String.append_right_inj] at hpath
  exact ⟨h.eq_of_path_eq p p' file file' hfile hfile' hcontainer hcontainer' hfront, hpath⟩

/-- Only a note has the path of something in a file for its name. -/
theorem kind_eq_note_of_name_eq (hnode : forest.node? id = some node)
    (hkind : node.kind.isContainer = false) {front name : String}
    (hname : node.name = front ++ "#" ++ name) : node.kind = .note := by
  by_contra hnote
  refine pathMark_notMem_of_names (h.names id node hnode) hnote ?_
  simp [NodeKind.pathMark, hkind, hname]

/-- The path belongs to kind, name and parent. -/
theorem path_eq_of_samePlace (ha : forest.node? id = some a) (hb : forest.node? id' = some b)
    (hsame : forest.SamePlace id id' a b) : a.path = b.path := by
  obtain ⟨hkind, hname, hparent⟩ := hsame
  rw [h.path_eq id a ha, h.path_eq id' b hb, hkind, hname, hparent]

/-- A note in a file has the path that is spelled. -/
theorem path_eq_of_spellsPath (ha : forest.node? id = some a) (hb : forest.node? id' = some b)
    (hspells : forest.SpellsPath id id' a b) : a.path = b.path := by
  obtain ⟨p, file, hparent, hfile, -, hname⟩ := hspells.spells
  have hkind : a.kind.isContainer = false := by rw [hspells.kind]; rfl
  have hkind' : b.kind.isContainer = false := by rw [hspells.kind']; rfl
  obtain ⟨-, hpath⟩ | ⟨q, -, hq, -⟩ := h.path_cases ha hkind
  · obtain ⟨above, habove, -, hpath'⟩ := h.exists_file hb hkind' hparent
    obtain rfl : above = file := Option.some.inj (habove.symm.trans hfile)
    rw [hpath, hname, hpath']
  · simp [hspells.alone] at hq

/-- What stands on its own under the path of something in a file is a note that spells this path. -/
theorem spellsPath_of_path_eq (ha : forest.node? id = some a) (hkinds : a.kind = b.kind)
    (hkind : a.kind.isContainer = false) (halone : forest.parent? id = none)
    (hparent : forest.parent? id' = some p) (hfile : forest.node? p = some file)
    (hkindFile : file.kind = .file) (hpath : a.path = file.path ++ "#" ++ b.name) :
    forest.SpellsPath id id' a b := by
  have hname : a.name = file.path ++ "#" ++ b.name := by rw [← h.path_eq_name ha halone, hpath]
  have hnote := h.kind_eq_note_of_name_eq ha hkind hname
  exact ⟨hnote, hkinds ▸ hnote, halone, p, file, hparent, hfile, hkindFile, hname⟩

/-- Kind and path tell the place of a node, except for a note that spells a path. -/
theorem samePlace_or_spellsPath (ha : forest.node? id = some a) (hb : forest.node? id' = some b)
    (hkinds : a.kind = b.kind) (hpaths : a.path = b.path) :
    forest.SamePlace id id' a b ∨ forest.SpellsPath id id' a b ∨ forest.SpellsPath id' id b a := by
  cases hkind : a.kind.isContainer with
  | true =>
    have hid := h.eq_of_path_eq id id' a b ha hb hkind (hkinds ▸ hkind) hpaths
    obtain rfl : a = b := Option.some.inj (ha.symm.trans (hid ▸ hb))
    exact .inl ⟨rfl, rfl, by rw [hid]⟩
  | false =>
    have hkind' : b.kind.isContainer = false := hkinds ▸ hkind
    -- each of the two stands on its own or in a file
    obtain ⟨halone, hpath⟩ | ⟨p, file, hparent, hfile, hkindFile, hpath⟩ := h.path_cases ha hkind
    · obtain ⟨halone', hpath'⟩ | ⟨p', file', hparent', hfile', hkindFile', hpath'⟩ :=
        h.path_cases hb hkind'
      · exact .inl ⟨hkinds, by rw [← hpath, hpaths, hpath'], halone.trans halone'.symm⟩
      · exact .inr (.inl (h.spellsPath_of_path_eq ha hkinds hkind halone hparent' hfile' hkindFile'
          (hpaths.trans hpath')))
    · obtain ⟨halone', -⟩ | ⟨p', file', hparent', hfile', hkindFile', hpath'⟩ :=
        h.path_cases hb hkind'
      · exact .inr (.inr (h.spellsPath_of_path_eq hb hkinds.symm hkind' halone' hparent hfile
          hkindFile (hpaths.symm.trans hpath)))
      · obtain ⟨rfl, hname⟩ := h.eq_of_filePath_eq hfile hkindFile hfile' hkindFile'
          (hpath.symm.trans (hpaths.trans hpath'))
        exact .inl ⟨hkinds, hname, hparent.trans hparent'.symm⟩

end WellPlaced

/-- Two nodes of an outline have one kind and path if they have the same place, and otherwise only if
one of them is a note that spells the path of the other. No two directories or files do. -/
structure IdentitiesTellPlaces (outline : Outline) : Prop where
  identity_eq_iff : ∀ id id' a b, outline.forest.node? id = some a →
    outline.forest.node? id' = some b →
    (a.identity = b.identity ↔ outline.forest.SamePlace id id' a b ∨
      outline.forest.SpellsPath id id' a b ∨ outline.forest.SpellsPath id' id b a)
  eq_of_isContainer : ∀ id id' a b, outline.forest.node? id = some a →
    outline.forest.node? id' = some b → a.kind.isContainer = true →
    a.identity = b.identity → id = id'

/-- **Kind and path tell the place of every node of an outline**, whatever the text and however wide
a level, up to notes that spell paths. -/
theorem identitiesTellPlaces_ofText (width : Nat) (text : String) :
    IdentitiesTellPlaces (ofText width text) := by
  have hplaced := wellPlaced_ofText width text
  constructor
  case identity_eq_iff =>
    intro id id' a b ha hb
    rw [Node.identity, Node.identity, Identity.mk.injEq]
    constructor
    · rintro ⟨hkinds, hpaths⟩
      exact hplaced.samePlace_or_spellsPath ha hb hkinds hpaths
    · rintro (hsame | hspells | hspells)
      · exact ⟨hsame.1, hplaced.path_eq_of_samePlace ha hb hsame⟩
      · exact ⟨hspells.kind.trans hspells.kind'.symm, hplaced.path_eq_of_spellsPath ha hb hspells⟩
      · exact ⟨hspells.kind'.trans hspells.kind.symm,
          (hplaced.path_eq_of_spellsPath hb ha hspells).symm⟩
  case eq_of_isContainer =>
    intro id id' a b ha hb hkind hidentity
    obtain ⟨hkinds, hpaths⟩ := Identity.mk.inj hidentity
    exact hplaced.eq_of_path_eq id id' a b ha hb hkind (hkinds ▸ hkind) hpaths

/-- A note on its own and a note in a file have one kind and path, and neither parent nor name in
common. -/
theorem notes_of_one_identity :
    let forest := (ofText 2 "# a.ts#foo\na.ts\n  # foo\n").forest
    ∃ id id', ∃ a ∈ forest.node? id, ∃ b ∈ forest.node? id', a.identity = b.identity ∧
      forest.parent? id ≠ forest.parent? id' ∧ a.name ≠ b.name :=
  ⟨0, 2, by decide +kernel⟩

end Outline

end CodeOutline
