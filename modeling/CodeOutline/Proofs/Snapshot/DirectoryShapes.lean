import CodeOutline.Proofs.Diff.Patch
import CodeOutline.Proofs.Forest.Shapes
import CodeOutline.Proofs.Outline.Contents
import CodeOutline.Proofs.Snapshot.FilePaths
import CodeOutline.Proofs.Snapshot.Relocations

/-!
# Directories whose children change

A directory of a snapshot has no content of its own, and it is there because something stands in it.
So it is compared by its shape. No other node has its kind and path, so it is reported as modified
exactly if the two texts differ that the hashes of its shapes are taken of. These texts tell the
children as long as all names are plain. But a bar in a name passes for the one between two entries,
and then other children make the same text.

## Main definitions

* `Forest.StandsAlone`: a node that a walk comes to and that shares its identity with no other

## Main results

* `Diff.mem_modified_between_iff`: when a node that stands alone is modified
* `Snapshot.modified_directory`: when a directory is modified
* `Snapshot.unmodified_directory`: other children, and nothing is reported
-/

namespace CodeOutline

open Diff Forest

variable {forest : Forest} {id id' : NodeId} {node a b : Node} {entry : Entry}

/-! ### Nodes that stand alone -/

/-- A walk comes to the node, and no other node has its kind and path. -/
structure Forest.StandsAlone (forest : Forest) (id : NodeId) (node : Node) : Prop where
  node_eq : forest.node? id = some node
  mem_preorder : id ∈ forest.preorder
  unique : ∀ (other : Nat) found, forest.node? other = some found →
    found.identity = node.identity → other = id

namespace Forest.StandsAlone

variable (h : forest.StandsAlone id node)
include h

theorem mem_entries : ⟨id, node, forest.comparableHash? id⟩ ∈ forest.entries :=
  Forest.mem_entries.2 ⟨h.mem_preorder, h.node_eq, rfl⟩

/-- The identity belongs to no other entry. -/
theorem eq_of_mem_entries (hmem : entry ∈ forest.entries)
    (hidentity : entry.identity = node.identity) :
    entry = ⟨id, node, forest.comparableHash? id⟩ := by
  obtain ⟨-, hnode, hhash⟩ := Forest.mem_entries.1 hmem
  obtain ⟨other, found, hash⟩ := entry
  obtain rfl : other = id := h.unique other found hnode hidentity
  obtain rfl : found = node := Option.some.inj (hnode.symm.trans h.node_eq)
  rw [Entry.mk.injEq]
  exact ⟨rfl, rfl, hhash⟩

theorem isLast : Entry.IsLast ⟨id, node, forest.comparableHash? id⟩ forest.entries := by
  obtain ⟨last, hlast, hidentity⟩ := Entry.exists_isLast h.mem_entries
  rwa [h.eq_of_mem_entries hlast.mem hidentity] at hlast

end Forest.StandsAlone

/-- A node that stands alone in both forests is modified exactly if it is compared by different
hashes. -/
theorem Diff.mem_modified_between_iff {old new : Forest} (hids : (old.entries.map Entry.id).Nodup)
    (hids' : (new.entries.map Entry.id).Nodup) (options : DiffOptions)
    (ha : old.StandsAlone id a) (hb : new.StandsAlone id' b) (hsame : a.identity = b.identity) :
    ⟨a, b⟩ ∈ (between options old new).modified ↔
      old.comparableHash? id ≠ new.comparableHash? id' := by
  have hexplains := explains_pairs hids hids' options
  rw [between, hexplains.mem_modified]
  constructor
  · -- the pair can only be that of the two nodes
    rintro ⟨⟨before, after⟩, -, ⟨hbefore, hafter, -⟩, hhash, hnodes⟩
    obtain ⟨rfl, rfl⟩ := Modification.mk.inj hnodes
    rw [ha.eq_of_mem_entries hbefore.mem rfl, hb.eq_of_mem_entries hafter.mem rfl] at hhash
    exact hhash
  · intro hhash
    have hsettled : IsSettled old.entries new.entries
        (⟨id, a, old.comparableHash? id⟩, ⟨id', b, new.comparableHash? id'⟩) :=
      ⟨ha.isLast, hb.isLast, hsame⟩
    exact ⟨_, hexplains.settled_mem _ hsettled, hsettled, hhash, rfl⟩

namespace Snapshot

variable {snapshot : Snapshot} {names : List String} {name : String}

/-! ### Directories -/

/-- A folder stands in the one it is entered from. -/
theorem Shows.exists_parent_of_enters (h : snapshot.Shows forest) (hne : names ≠ [])
    (henter : forest.Enters (names ++ [name]) (some id)) :
    ∃ p, forest.parent? id = some p ∧ forest.Enters names (some p) := by
  obtain ⟨hway, hkind⟩ := enters_some_iff.1 henter
  obtain ⟨node, hnode, hdirectory⟩ := hasKind_iff.1 hkind
  generalize hnames : names ++ [name] = all at hway
  cases hway with
  | root =>
    rw [List.append_eq_singleton_iff] at hnames
    simp [hne] at hnames
  | @child front _ p last hway hlast hparent =>
    obtain ⟨rfl, -⟩ := List.append_inj' hnames rfl
    obtain ⟨above, habove⟩ := Option.isSome_iff_exists.1 (node?_isSome_iff.2 hway.lt_size)
    -- only a directory may hold a directory
    have hhold := h.legal id p node above hparent hnode habove
    have habovekind := NodeKind.eq_directory_of_mayHold hhold (by rw [hdirectory]; rfl)
    exact ⟨p, hparent, .directory hway (hasKind_iff.2 ⟨above, habove, habovekind⟩)⟩

/-- In every folder stands the next folder on the way to a file, or the file. -/
theorem Shows.children_ne_nil (h : snapshot.Shows forest) (hnode : forest.node? id = some node)
    (hkind : node.kind = .directory) : forest.children id ≠ [] := by
  obtain ⟨names, hfolder, henter, -⟩ := h.directory id node hnode hkind
  have hbelow := hfolder
  obtain ⟨hne, file, hfile, ⟨rest, hrest⟩, hproper⟩ := hbelow
  -- whatever stands in the folder has the directory as its parent
  have hchild : ∀ {child place}, forest.parent? child = place → forest.Enters names place →
      child ∈ forest.children id := by
    intro child place hparent hplace
    rw [h.mem_children_iff, hparent]
    cases place with
    | none =>
      cases hplace
      exact absurd rfl hne
    | some p => rw [(h.folder names hfolder).unique hplace henter]
  cases rest with
  | nil => exact absurd (by simpa using hrest) hproper
  | cons name more =>
    rcases eq_or_ne more [] with rfl | hmore
    · -- the file itself stands in the folder
      have hnamed : file ∈ named snapshot.files := mem_named_iff.2 ⟨hfile, by simp [← hrest]⟩
      obtain ⟨child, -, hshows⟩ := exists_of_forall₂_left h.files.flip hnamed
      have hplace := hshows.folder
      rw [← hrest, List.dropLast_concat] at hplace
      exact List.ne_nil_of_mem (hchild rfl hplace)
    · -- another folder comes before the file
      have hnext : names ++ [name] ∈ folders snapshot.files := by
        refine ⟨by simp, file, hfile, ⟨more, by simp [← hrest]⟩, ?_⟩
        intro heq
        rw [← hrest] at heq
        simp [hmore.symm] at heq
      obtain ⟨child, hnextEnter, -⟩ := h.folder _ hnext
      obtain ⟨p, hparent, hplace⟩ := h.exists_parent_of_enters hne hnextEnter
      exact List.ne_nil_of_mem (hchild hparent hplace)

theorem hash_of_directory (hnode : snapshot.forest.node? id = some node)
    (hkind : node.kind = .directory) : node.hash = "" := by
  cases (filled_forest snapshot).node id node hnode with
  | directory above name => rfl
  | file hfile hname => exact NodeKind.noConfusion hkind
  | element hfile helement hkindOf _ =>
    -- an element is no directory
    obtain rfl : _ = NodeKind.directory := hkind
    exact Bool.noConfusion hkindOf.isContainer_eq

/-- A directory is compared by its shape. -/
theorem comparableHash?_of_directory (hnode : snapshot.forest.node? id = some node)
    (hkind : node.kind = .directory) : snapshot.forest.comparableHash? id =
      some (contentHash (shape (snapshot.forest.childNodes id))) :=
  comparableHash?_of_children hnode (hash_of_directory hnode hkind)
    ((shows_forest snapshot).children_ne_nil hnode hkind)

theorem standsAlone_directory (hnode : snapshot.forest.node? id = some node)
    (hkind : node.kind = .directory) : snapshot.forest.StandsAlone id node where
  node_eq := hnode
  mem_preorder := by
    rw [(shows_forest snapshot).preorder.mem_iff, List.mem_range]
    exact lt_size_of_node? hnode
  unique other found hfound hidentity := by
    obtain ⟨hkinds, hpaths⟩ := Identity.mk.inj hidentity
    exact nodup_map_path?_iff.1 (shows_forest snapshot).nodup_directories other id found node hfound
      hnode (hkinds.trans hkind) hkind hpaths

/-! ### Directories of two snapshots -/

/-- A directory is modified exactly if the two shapes have different hashes. -/
theorem mem_modified_directory_iff (options : DiffOptions) {before after : Snapshot}
    (ha : before.forest.node? id = some a) (hb : after.forest.node? id' = some b)
    (hkind : a.kind = .directory) (hkind' : b.kind = .directory) (hpath : a.path = b.path) :
    ⟨a, b⟩ ∈ (between options before.forest after.forest).modified ↔
      contentHash (shape (before.forest.childNodes id)) ≠
        contentHash (shape (after.forest.childNodes id')) := by
  have hsame : a.identity = b.identity := by
    rw [Node.identity, Node.identity, hkind, hkind', hpath]
  rw [mem_modified_between_iff (nodup_entries_forest before) (nodup_entries_forest after) options
    (standsAlone_directory ha hkind) (standsAlone_directory hb hkind') hsame,
    comparableHash?_of_directory ha hkind, comparableHash?_of_directory hb hkind', ne_eq,
    Option.some.injEq]

/-- **When a directory is modified.** As far as the hashes of its two shapes do not collide, a
directory is reported as modified exactly if the texts differ that they are taken of. If the names
of its children are plain, this is so exactly if it has other children: other kinds, other names in
small letters, or another number of them. -/
theorem modified_directory (options : DiffOptions) (before after : Snapshot)
    (ha : before.forest.node? id = some a) (hb : after.forest.node? id' = some b)
    (hkind : a.kind = .directory) (hkind' : b.kind = .directory) (hpath : a.path = b.path)
    (hfree : CollisionFree
      [shape (before.forest.childNodes id), shape (after.forest.childNodes id')]) :
    let children := before.forest.childNodes id
    let children' := after.forest.childNodes id'
    let modified := (between options before.forest after.forest).modified
    (⟨a, b⟩ ∈ modified ↔ normalText (shape children) ≠ normalText (shape children')) ∧
      ((∀ child ∈ children ++ children', IsPlain child.name) →
        (⟨a, b⟩ ∈ modified ↔ ¬ (children.map smallSubject).Perm (children'.map smallSubject))) := by
  intro children children' modified
  have htexts : ⟨a, b⟩ ∈ modified ↔
      normalText (shape children) ≠ normalText (shape children') := by
    rw [mem_modified_directory_iff options ha hb hkind hkind' hpath, not_iff_not]
    exact ⟨collisionFree_pair_iff.1 hfree, congrArg digestText⟩
  refine ⟨htexts, fun hplain => ?_⟩
  rw [htexts, ne_eq, not_iff_not]
  apply normalText_shape_eq_iff
  · exact fun child hchild => hplain child (List.mem_append_left _ hchild)
  · exact fun child hchild => hplain child (List.mem_append_right _ hchild)

/-- A directory gets a second file. -/
theorem modified_directory_second_file :
    let before := Snapshot.empty.insert "src/a.ts" ⟨[], ""⟩
    let after := (Snapshot.empty.insert "src/a.ts" ⟨[], ""⟩).insert "src/b.TS" ⟨[], ""⟩
    CollisionFree [shape (before.forest.childNodes 0), shape (after.forest.childNodes 0)] ∧
      ⟨directoryNode [] "src", directoryNode [] "src"⟩ ∈
        (between .standard before.forest after.forest).modified := by
  intro before after
  have hshape : shape (before.forest.childNodes 0) = "|".intercalate ["file:a.ts"] :=
    shape_eq_intercalate _ (by decide +kernel) (by decide +kernel)
  have hshape' : shape (after.forest.childNodes 0) =
      "|".intercalate ["file:a.ts", "file:b.TS"] :=
    shape_eq_intercalate _ (by decide +kernel) (by decide +kernel)
  have hfree : CollisionFree
      [shape (before.forest.childNodes 0), shape (after.forest.childNodes 0)] := by
    rw [hshape, hshape']
    decide +kernel
  have hplain : ∀ child ∈ before.forest.childNodes 0 ++ after.forest.childNodes 0,
      IsPlain child.name := by decide +kernel
  have hnode : before.forest.node? 0 = some (directoryNode [] "src") := by decide +kernel
  have hnode' : after.forest.node? 0 = some (directoryNode [] "src") := by decide +kernel
  have hmodified := modified_directory .standard before after hnode hnode' rfl rfl rfl hfree
  exact ⟨hfree, (hmodified.2 hplain).2 (by decide +kernel)⟩

/-- Two files of a directory give way to one with a bar in its name. The text that the hash of the
shape is taken of stays the same, and the directory is not reported. -/
theorem unmodified_directory :
    let before := (Snapshot.empty.insert "d/a" ⟨[], ""⟩).insert "d/b" ⟨[], ""⟩
    let after := Snapshot.empty.insert "d/a|file:b" ⟨[], ""⟩
    let children := before.forest.childNodes 0
    let children' := after.forest.childNodes 0
    let directory := directoryNode [] "d"
    (before.forest? = some before.forest ∧ after.forest? = some after.forest) ∧
      (before.forest.node? 0 = some directory ∧ after.forest.node? 0 = some directory) ∧
      CollisionFree [shape children, shape children'] ∧
      ¬ (children.map smallSubject).Perm (children'.map smallSubject) ∧
      ⟨directory, directory⟩ ∉ (between .standard before.forest after.forest).modified := by
  intro before after children children' directory
  have hnode : before.forest.node? 0 = some directory := by decide +kernel
  have hnode' : after.forest.node? 0 = some directory := by decide +kernel
  have hshape : shape children = "file:a|file:b" :=
    shape_eq_intercalate ["file:a", "file:b"] (by decide +kernel) (by decide +kernel)
  have hshape' : shape children' = "file:a|file:b" :=
    shape_eq_intercalate ["file:a|file:b"] (by decide +kernel) (by decide +kernel)
  refine ⟨⟨if_neg (by decide +kernel), if_neg (by decide +kernel)⟩, ⟨hnode, hnode'⟩, ?_,
    by decide +kernel, ?_⟩
  · rw [hshape, hshape']
    exact collisionFree_pair_iff.2 fun _ => rfl
  · rw [mem_modified_directory_iff .standard hnode hnode' rfl rfl rfl, not_not]
    exact congrArg contentHash (hshape.trans hshape'.symm)

end Snapshot

end CodeOutline
