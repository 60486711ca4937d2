import CodeOutline.Diff.Pairing
import CodeOutline.Proofs.Snapshot.Structure

/-!
# What the paths of a snapshot's forest tell

A directory or file is recognised by its kind and path, and the file of a function or component is
read off the path of the latter. Directories are looked up before they are added, so their paths
differ. Files are not: two paths of a snapshot that differ only in slashes become two files of one
path. And the file is found again in the path of what stands in it only if its own path holds no
`#`.

## Main definitions

* `Forest.ContainersApart`: no two directories and no two files have one path
* `Forest.OwnersAgree`: what the path of a node shows as its file is the file it stands in
* `Snapshot.HasElements`: there are elements in a file of a path

## Main results

* `Snapshot.containersApart_forest_iff`: when the files of a snapshot have paths of their own
* `Snapshot.ownersAgree_forest_iff`: when the paths show the files
-/

namespace CodeOutline

variable {snapshot : Snapshot} {forest : Forest} {node : Node} {kind : NodeKind} {id p : Nat}
  {file : String × FileFacts}

namespace Forest

/-- The path of a node. -/
def path? (forest : Forest) (id : NodeId) : Option String :=
  (forest.node? id).map (·.path)

/-- Kind and path tell the directories and files of a forest apart. -/
def ContainersApart (forest : Forest) : Prop :=
  ∀ (id id' : Nat) node node', forest.node? id = some node → forest.node? id' = some node' →
    node.kind.isContainer = true → node.identity = node'.identity → id = id'

theorem nodup_map_path?_iff :
    ((forest.ofKind kind).map forest.path?).Nodup ↔
      ∀ (id id' : Nat) node node', forest.node? id = some node → forest.node? id' = some node' →
        node.kind = kind → node'.kind = kind → node.path = node'.path → id = id' := by
  rw [List.nodup_map_iff_inj_on (nodup_ofKind forest kind)]
  constructor
  · intro hinj id id' node node' hnode hnode' hkind hkind' hpath
    refine hinj id ?_ id' ?_ (by simp [path?, hnode, hnode', hpath])
    · exact mem_ofKind_iff.2 (hasKind_iff.2 ⟨node, hnode, hkind⟩)
    · exact mem_ofKind_iff.2 (hasKind_iff.2 ⟨node', hnode', hkind'⟩)
  · intro happart id hid id' hid' hpath
    obtain ⟨node, hnode, hkind⟩ := hasKind_iff.1 (mem_ofKind_iff.1 hid)
    obtain ⟨node', hnode', hkind'⟩ := hasKind_iff.1 (mem_ofKind_iff.1 hid')
    simp only [path?, hnode, hnode', Option.map_some, Option.some.injEq] at hpath
    exact happart id id' node node' hnode hnode' hkind hkind' hpath

theorem containersApart_iff :
    forest.ContainersApart ↔ ((forest.ofKind .directory).map forest.path?).Nodup ∧
      ((forest.ofKind .file).map forest.path?).Nodup := by
  rw [nodup_map_path?_iff, nodup_map_path?_iff]
  constructor
  · intro happart
    constructor <;> intro id id' node node' hnode hnode' hkind hkind' hpath
    all_goals
      refine happart id id' node node' hnode hnode' (by rw [hkind]; rfl) ?_
      rw [Node.identity, Node.identity, hkind, hkind', hpath]
  · rintro ⟨hdirectories, hfiles⟩ id id' node node' hnode hnode' hcontainer hidentity
    rw [Node.identity, Node.identity, Identity.mk.injEq] at hidentity
    obtain ⟨hkind, hpath⟩ := hidentity
    cases hown : node.kind <;> rw [hown] at hkind hcontainer
    case directory => exact hdirectories id id' node node' hnode hnode' hown hkind.symm hpath
    case file => exact hfiles id id' node node' hnode hnode' hown hkind.symm hpath
    all_goals exact Bool.noConfusion hcontainer

/-- The file that the path of a node shows is the one it stands in. -/
def OwnersAgree (forest : Forest) : Prop :=
  ∀ (id p : Nat) node file, forest.node? id = some node → node.kind.isContainer = false →
    forest.owningFile? id = some p → forest.node? p = some file →
    node.owningFilePath = file.path

end Forest

namespace Snapshot

/-- There are elements in a file of a path. -/
def HasElements (snapshot : Snapshot) (path : String) : Prop :=
  ∃ file ∈ snapshot.files, path = Path.join (Path.segments file.1) ∧ file.2.shown ≠ []

namespace Shows

variable (h : snapshot.Shows forest)
include h

/-! ### Directories and files -/

/-- The path of a directory tells its folder, and a folder is one directory. -/
theorem nodup_directories : ((forest.ofKind .directory).map forest.path?).Nodup := by
  rw [Forest.nodup_map_path?_iff]
  intro id id' node node' hnode hnode' hkind hkind' hpath
  obtain ⟨names, hnames, henter, hjoin⟩ := h.directory id node hnode hkind
  obtain ⟨names', hnames', henter', hjoin'⟩ := h.directory id' node' hnode' hkind'
  have hsame : names = names' :=
    Path.eq_of_join_eq (isSegment_of_mem_folders hnames) (isSegment_of_mem_folders hnames')
      (by rw [← hjoin, hpath, hjoin'])
  exact (h.folder names hnames).unique henter (hsame ▸ henter')

/-- The files have the paths of the snapshot, without the slashes that set nothing apart. -/
theorem paths_files :
    (forest.ofKind .file).map forest.path? =
      (named snapshot.files).map fun file => some (Path.join (Path.segments file.1)) := by
  rw [← List.forall₂_eq_eq_eq, List.forall₂_map_left_iff, List.forall₂_map_right_iff]
  refine h.files.imp fun id file hfile => ?_
  obtain ⟨node, hnode, -, hpath, -⟩ := hfile.node
  rw [Forest.path?, hnode, Option.map_some, hpath]

theorem containersApart_iff :
    forest.ContainersApart ↔
      ((named snapshot.files).map fun file => Path.segments file.1).Nodup := by
  rw [Forest.containersApart_iff, and_iff_right h.nodup_directories, h.paths_files]
  have hsplit : ((named snapshot.files).map fun file => some (Path.join (Path.segments file.1))) =
      ((named snapshot.files).map fun file => Path.segments file.1).map fun names =>
        some (Path.join names) := by
    rw [List.map_map]
    rfl
  rw [hsplit]
  constructor
  · exact List.Nodup.of_map _
  · -- joined names tell the segments they were joined from
    intro hnodup
    refine hnodup.map_on fun names hnames names' hnames' heq => ?_
    obtain ⟨file, -, rfl⟩ := List.mem_map.1 hnames
    obtain ⟨file', -, rfl⟩ := List.mem_map.1 hnames'
    exact Path.eq_of_join_eq (fun _ => Path.isSegment_of_mem_segments)
      (fun _ => Path.isSegment_of_mem_segments) (Option.some.inj heq)

/-! ### What stands in a file -/

/-- What stands in a file has the path of the file in front of its name, and is one of the elements
that the snapshot has of the file. -/
theorem exists_owner (hnode : forest.node? id = some node)
    (hkind : node.kind.isContainer = false) :
    ∃ p owner, forest.owningFile? id = some p ∧ forest.node? p = some owner ∧ owner.kind = .file ∧
      node.path = owner.path ++ "#" ++ node.name ∧ snapshot.HasElements owner.path := by
  obtain ⟨p, hparent, hp⟩ := h.member id node hnode hkind
  obtain ⟨file, hfile, hshows⟩ := exists_of_forall₂_left h.files (Forest.mem_ofKind_iff.2 hp)
  obtain ⟨owner, howner, hkindOwner, hpathOwner, -⟩ := hshows.node
  have hchild : id ∈ forest.children p := (h.mem_children_iff p id).2 hparent
  obtain ⟨element, helement, hshowsElement⟩ := exists_of_forall₂_left hshows.elements hchild
  obtain ⟨same, hsame, -, hname, hpath⟩ := hshowsElement
  obtain rfl : node = same := Option.some.inj (hnode.symm.trans hsame)
  rw [← hpathOwner, ← hname] at hpath
  exact ⟨p, owner, h.parentsFirst.owningFile?_eq hnode hkind hparent howner hkindOwner, howner,
    hkindOwner, hpath, file, (mem_named_iff.1 hfile).1, hpathOwner,
    List.ne_nil_of_mem helement⟩

/-- Every element of a file has a node that stands in the file. -/
theorem exists_member (hfile : file ∈ snapshot.files) (hnamed : Path.segments file.1 ≠ [])
    (hshown : file.2.shown ≠ []) :
    ∃ id p node owner, forest.node? id = some node ∧ node.kind.isContainer = false ∧
      forest.owningFile? id = some p ∧ forest.node? p = some owner ∧
      owner.path = Path.join (Path.segments file.1) := by
  obtain ⟨p, -, hshows⟩ := exists_of_forall₂_left h.files.flip (mem_named_iff.2 ⟨hfile, hnamed⟩)
  obtain ⟨owner, howner, hkindOwner, hpathOwner, -⟩ := hshows.node
  obtain ⟨element, helement⟩ := List.exists_mem_of_ne_nil _ hshown
  obtain ⟨id, hid, node, hnode, hkindElement, -⟩ :=
    exists_of_forall₂_left hshows.elements.flip helement
  have hkind : node.kind.isContainer = false := hkindElement.isContainer_eq
  have hparent : forest.parent? id = some p := (h.mem_children_iff p id).1 hid
  exact ⟨id, p, node, owner, hnode, hkind,
    h.parentsFirst.owningFile?_eq hnode hkind hparent howner hkindOwner, howner, hpathOwner⟩

/-- What is read off the path of a node is the path of its file, up to the first `#`. -/
theorem owningFilePath_eq (hnode : forest.node? id = some node)
    (hkind : node.kind.isContainer = false) :
    ∃ p owner, forest.owningFile? id = some p ∧ forest.node? p = some owner ∧ owner.kind = .file ∧
      node.owningFilePath = Path.owningFile owner.path := by
  obtain ⟨p, owner, hp, howner, hkindOwner, hpath, -⟩ := h.exists_owner hnode hkind
  refine ⟨p, owner, hp, howner, hkindOwner, ?_⟩
  rw [Node.owningFilePath, hpath, Path.owningFile_append_mark]

section

variable {owner : Node} (hnode : forest.node? id = some node)
  (hkind : node.kind.isContainer = false) (hp : forest.owningFile? id = some p)
  (howner : forest.node? p = some owner)
include hnode hkind hp howner

theorem path_of_owner :
    node.path = owner.path ++ "#" ++ node.name ∧ snapshot.HasElements owner.path := by
  obtain ⟨p', owner', hp', howner', -, hpath⟩ := h.exists_owner hnode hkind
  obtain rfl : p = p' := Option.some.inj (hp.symm.trans hp')
  obtain rfl : owner = owner' := Option.some.inj (howner.symm.trans howner')
  exact hpath

theorem owningFilePath_eq_iff : node.owningFilePath = owner.path ↔ '#' ∉ owner.path.toList := by
  rw [Node.owningFilePath, (h.path_of_owner hnode hkind hp howner).1, Path.owningFile_append_mark,
    Path.owningFile_eq_self_iff]

end

/-- The paths show the files exactly if no file with elements has a `#` in its path. -/
theorem ownersAgree_iff :
    forest.OwnersAgree ↔ ∀ file ∈ snapshot.files, file.2.shown ≠ [] → '#' ∉ file.1.toList := by
  have hmark : ∀ path : String, '#' ∈ (Path.join (Path.segments path)).toList ↔ '#' ∈ path.toList :=
    fun _ => Path.mem_join_segments_iff (by decide)
  constructor
  · intro hagree file hfile hshown hmem
    rw [← hmark] at hmem
    -- a path of slashes alone holds no other character
    have hnamed : Path.segments file.1 ≠ [] := by
      intro hnil
      simp [hnil, Path.join] at hmem
    obtain ⟨id, p, node, owner, hnode, hkind, hp, howner, hpath⟩ :=
      h.exists_member hfile hnamed hshown
    have hread := hagree id p node owner hnode hkind hp howner
    rw [h.owningFilePath_eq_iff hnode hkind hp howner, hpath] at hread
    exact hread hmem
  · intro hfree id p node owner hnode hkind hp howner
    obtain ⟨-, file, hfile, hpath, hshown⟩ := h.path_of_owner hnode hkind hp howner
    rw [h.owningFilePath_eq_iff hnode hkind hp howner, hpath, hmark]
    exact hfree file hfile hshown

end Shows

/-- **The files of a snapshot have paths of their own if their paths differ in more than slashes.**
Directories always have. -/
theorem containersApart_forest_iff (snapshot : Snapshot) :
    ((snapshot.forest.ofKind .directory).map snapshot.forest.path?).Nodup ∧
      (snapshot.forest.ofKind .file).map snapshot.forest.path? =
        ((named snapshot.files).map fun file => some (Path.join (Path.segments file.1))) ∧
      (snapshot.forest.ContainersApart ↔
        ((named snapshot.files).map fun file => Path.segments file.1).Nodup) := by
  have h := shows_forest snapshot
  exact ⟨h.nodup_directories, h.paths_files, h.containersApart_iff⟩

/-- Two paths that differ only in a slash become two files of one path. -/
theorem two_files_of_one_path :
    let snapshot := (Snapshot.empty.insert "/a.ts" ⟨[], ""⟩).insert "a.ts" ⟨[], ""⟩
    snapshot.forest? = some snapshot.forest ∧ ¬ snapshot.forest.ContainersApart ∧
      (snapshot.forest.ofKind .file).map snapshot.forest.path? = [some "a.ts", some "a.ts"] := by
  intro snapshot
  have hcut : snapshot.forest? = some snapshot.forest := if_neg (by decide +kernel)
  have hpaths : (snapshot.forest.ofKind .file).map snapshot.forest.path? =
      [some "a.ts", some "a.ts"] := by
    decide +kernel
  refine ⟨hcut, fun happart => ?_, hpaths⟩
  have hnodup := (Forest.containersApart_iff.1 happart).2
  rw [hpaths] at hnodup
  exact absurd hnodup (by decide)

/-- **The path of what stands in a file shows the file up to the first `#` of its path.** So all
paths of a snapshot's forest show the files that own them exactly if no file with elements has a `#`
in its path. -/
theorem ownersAgree_forest_iff (snapshot : Snapshot) :
    (∀ (id : Nat) node, snapshot.forest.node? id = some node → node.kind.isContainer = false →
      ∃ p owner, snapshot.forest.owningFile? id = some p ∧ snapshot.forest.node? p = some owner ∧
        owner.kind = .file ∧ node.owningFilePath = Path.owningFile owner.path) ∧
      (snapshot.forest.OwnersAgree ↔
        ∀ file ∈ snapshot.files, file.2.shown ≠ [] → '#' ∉ file.1.toList) := by
  have h := shows_forest snapshot
  exact ⟨fun id node hnode hkind => h.owningFilePath_eq hnode hkind, h.ownersAgree_iff⟩

/-- A method whose name holds a `#`, in a file whose path does not. -/
theorem ownersAgree_forest_marked_name :
    let foo : CodeElement := ⟨"#foo", .method, 1, 0, false, "", [], []⟩
    let snapshot := Snapshot.empty.insert "src/a.ts" ⟨[foo], ""⟩
    snapshot.forest.OwnersAgree ∧ ∃ node, snapshot.forest.node? 2 = some node ∧
      node.path = "src/a.ts##foo" ∧ node.owningFilePath = "src/a.ts" := by
  intro foo snapshot
  have hagree := (ownersAgree_forest_iff snapshot).2.2 (by decide +kernel)
  have hnode : ∃ node, snapshot.forest.node? 2 = some node ∧ node.path = "src/a.ts##foo" ∧
      node.owningFilePath = "src/a.ts" := by
    decide +kernel
  exact ⟨hagree, hnode⟩

/-- A function goes from one file to another, and the paths of both hold a `#`. The files that are
read off its two paths are the same, so it passes for renamed. -/
theorem moved_between_marked_files :
    let foo : CodeElement := ⟨"foo", .function, 1, 0, false, "return 1", [], []⟩
    let before := (Snapshot.empty.insert "a#1.ts" ⟨[foo], "aaaa"⟩).insert "a#2.ts" ⟨[], "bbbb"⟩
    let after := (Snapshot.empty.insert "a#1.ts" ⟨[], "aaaa"⟩).insert "a#2.ts" ⟨[foo], "bbbb"⟩
    ¬ before.forest.OwnersAgree ∧ ¬ after.forest.OwnersAgree ∧
      ∃ r ∈ (Diff.between .standard before.forest after.forest).relocated,
        r.kind = .rename ∧ before.forest.owningFile? 1 = some 0 ∧
          before.forest.path? 0 = some "a#1.ts" ∧ before.forest.node? 1 = some r.old ∧
          after.forest.owningFile? 2 = some 1 ∧ after.forest.path? 1 = some "a#2.ts" ∧
          after.forest.node? 2 = some r.new := by
  intro foo before after
  refine ⟨fun hagree => ?_, fun hagree => ?_, by decide +kernel⟩
  · exact absurd ((shows_forest before).ownersAgree_iff.1 hagree) (by decide +kernel)
  · exact absurd ((shows_forest after).ownersAgree_iff.1 hagree) (by decide +kernel)

end Snapshot

end CodeOutline
