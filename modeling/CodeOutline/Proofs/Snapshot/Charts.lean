import Mathlib.Data.List.Forall2
import CodeOutline.Proofs.Snapshot.Folders

/-!
# Files in a forest

A forest charts the files of a scan if its files are those of the scan, in the same order, each in
the folder that its path names and with its elements below it. A new node stands below one of the
others, and of the files that were there only the one it stands below shows it. So it is enough to
look at three kinds of steps: a directory, which is below no file; a file, which comes behind all
others; and an element, which is put below the last file.

## Main definitions

* `FileFacts.shown`: the elements of a file that get a node
* `Forest.ShowsElement`, `Forest.ShowsFile`: a node stands for an element, and for a file
* `Snapshot.Charted`: the folders and files of a forest

## Main results

* `Snapshot.Charted.grow_directory`, `Snapshot.Charted.grow_file`, `Snapshot.Charted.grow_element`:
  the three kinds of steps
-/

namespace CodeOutline

variable {forest later : Forest} {node : Node} {parent : Option NodeId} {kind : NodeKind}
  {above : List String} {ways : Set (List String)} {file : String × FileFacts}
  {files : List (String × FileFacts)} {element : CodeElement} {elements : List CodeElement}
  {path name filePath hash : String} {ids : List NodeId} {id : Nat}

/-! ### Lists side by side -/

section

variable {α β : Type} {R : α → β → Prop} {as : List α} {bs : List β} {a : α} {b : β}

theorem forall₂_concat_iff :
    List.Forall₂ R (as ++ [a]) (bs ++ [b]) ↔ List.Forall₂ R as bs ∧ R a b := by
  rw [← List.forall₂_reverse_iff, List.reverse_concat', List.reverse_concat', List.forall₂_cons,
    List.forall₂_reverse_iff, and_comm]

theorem exists_of_forall₂_left (h : List.Forall₂ R as bs) (ha : a ∈ as) : ∃ b ∈ bs, R a b := by
  induction h with
  | nil => simp at ha
  | cons hfirst _ ih =>
    rcases List.mem_cons.1 ha with rfl | ha
    · exact ⟨_, List.mem_cons_self, hfirst⟩
    · obtain ⟨b, hb, hrel⟩ := ih ha
      exact ⟨b, List.mem_cons_of_mem _ hb, hrel⟩

end

/-! ### What a node stands for -/

/-- The elements of a file that get a node. -/
def FileFacts.shown (facts : FileFacts) : List CodeElement :=
  facts.elements.filter (·.kind.isShown)

namespace Forest

/-- A node stands for an element in the file of a path. -/
def ShowsElement (forest : Forest) (filePath : String) (id : NodeId) (element : CodeElement) :
    Prop :=
  ∃ node, forest.node? id = some node ∧ element.kind.ShownAs node.kind ∧
    node.name = element.name ∧ node.path = filePath ++ "#" ++ element.name

/-- A node stands for a file: it has the path of the file, stands in its folder, and its children
are the elements. -/
structure ShowsFile (forest : Forest) (id : NodeId) (file : String × FileFacts) : Prop where
  node : ∃ node, forest.node? id = some node ∧ node.kind = .file ∧
    node.path = Path.join (Path.segments file.1) ∧
    (Path.segments file.1).getLast? = some node.name
  folder : forest.Enters (Path.segments file.1).dropLast (forest.parent? id)
  elements : List.Forall₂ (forest.ShowsElement (Path.join (Path.segments file.1)))
    (forest.children id) file.2.shown

theorem ShowsElement.of_extends (h : forest.ShowsElement filePath id element)
    (hext : forest.Extends later) : later.ShowsElement filePath id element := by
  obtain ⟨node, hnode, hrest⟩ := h
  exact ⟨node, hext.node?_of_node? hnode, hrest⟩

theorem showsElement_size_grow (hparent : ∀ p ∈ parent, p < forest.size)
    (hkind : element.kind.ShownAs kind) :
    (forest.grow (element.node kind filePath) parent).ShowsElement filePath forest.size element :=
  ⟨_, by rw [node?_grow hparent, if_pos rfl], hkind, rfl, rfl⟩

namespace ShowsFile

variable (h : forest.ShowsFile id file)
include h

theorem lt_size : id < forest.size := by
  obtain ⟨node, hnode, -⟩ := h.node
  exact lt_size_of_node? hnode

/-- The way to a file is its path. -/
theorem leadsTo : forest.LeadsTo (Path.segments file.1) id := by
  obtain ⟨node, hnode, -, -, hname⟩ := h.node
  have hway := h.folder.leadsTo hnode rfl
  rwa [List.dropLast_append_getLast? _ hname] at hway

/-- A file is what it was, perhaps with other elements, when nodes are added. -/
theorem of_extends {facts : FileFacts} (hfirst : forest.ParentsFirst)
    (hext : forest.Extends later)
    (hshown : List.Forall₂ (later.ShowsElement (Path.join (Path.segments file.1)))
      (later.children id) facts.shown) : later.ShowsFile id (file.1, facts) where
  node := by
    obtain ⟨node, hnode, hrest⟩ := h.node
    exact ⟨node, hext.node?_of_node? hnode, hrest⟩
  folder := by
    rw [hext.parent?_eq id h.lt_size]
    exact h.folder.of_extends hfirst hext
  elements := hshown

/-- A file is what it was when a node is added elsewhere. -/
theorem grow (hfirst : forest.ParentsFirst) (hparent : ∀ p ∈ parent, p < forest.size)
    (hext : forest.Extends (forest.grow node parent)) (hne : parent ≠ some id) :
    (forest.grow node parent).ShowsFile id file := by
  apply h.of_extends hfirst hext
  rw [children_grow hparent, if_neg hne]
  exact h.elements.imp fun child element hchild => hchild.of_extends hext

end ShowsFile

/-- Files are what they were when a node is added below none of them. -/
theorem forall₂_showsFile_grow (h : List.Forall₂ forest.ShowsFile ids files)
    (hfirst : forest.ParentsFirst) (hparent : ∀ p ∈ parent, p < forest.size)
    (hext : forest.Extends (forest.grow node parent)) (hne : ∀ id ∈ ids, parent ≠ some id) :
    List.Forall₂ (forest.grow node parent).ShowsFile ids files :=
  ((List.forall₂_and_left ids files).2 ⟨hne, h⟩).imp fun _ _ hfile =>
    hfile.2.grow hfirst hparent hext hfile.1

end Forest

namespace Snapshot

@[simp] theorem kind_directoryNode : (directoryNode above name).kind = .directory := rfl

@[simp] theorem kind_fileNode {segments : List String} {facts : FileFacts} :
    (fileNode segments name facts).kind = .file := rfl

/-- The nodes are in their places, the ways into directories are those given, and so are the files,
in order. -/
structure Charted (ways : Set (List String)) (files : List (String × FileFacts))
    (forest : Forest) : Prop extends Arranged forest where
  folders : forest.HasFolders ways
  files : List.Forall₂ forest.ShowsFile (forest.ofKind .file) files

theorem charted_empty : Charted ∅ [] .empty where
  toArranged := arranged_empty
  folders := Forest.hasFolders_empty
  files := .nil

namespace Charted

/-! ### Directories and files -/

section

variable (h : Charted ways files forest) (henter : forest.Enters above parent)
include h henter

/-- What is put into a folder is below no file. -/
theorem forall₂_grow (hext : forest.Extends (forest.grow node parent)) :
    List.Forall₂ (forest.grow node parent).ShowsFile (forest.ofKind .file) files := by
  apply Forest.forall₂_showsFile_grow h.files h.parentsFirst henter.lt_size hext
  -- the folder is a directory, and no node is both
  rintro id hid rfl
  have hdir := (Forest.enters_some_iff.1 henter).2
  obtain ⟨node, hnode, hkind⟩ := Forest.hasKind_iff.1 (Forest.mem_ofKind_iff.1 hid)
  rw [Forest.hasKind_of_node? hnode, hkind] at hdir
  exact NodeKind.noConfusion hdir

/-- A directory whose folder was not there before adds the folder, and can be entered. -/
theorem grow_directory (hname : Path.IsSegment name)
    (hnew : ∀ id, ¬ forest.Enters (above ++ [name]) (some id)) :
    Charted (ways ∪ {above ++ [name]}) files (forest.grow (directoryNode above name) parent) ∧
      (forest.grow (directoryNode above name) parent).Enters (above ++ [name])
        (some forest.size) := by
  have hplace : InPlace forest parent (directoryNode above name) :=
    h.inPlace_of_enters henter rfl hname rfl rfl
  have hext := h.extends_grow hplace
  refine ⟨⟨h.toArranged.grow hplace,
    h.folders.grow_directory h.parentsFirst hext henter rfl hnew, ?_⟩,
    (henter.enters_grow_iff h.parentsFirst hext).2 (.inr ⟨rfl, rfl, rfl⟩)⟩
  rw [h.ofKind_grow_of_ne henter.lt_size (by simp)]
  exact h.forall₂_grow henter hext

/-- A file without elements comes behind all other files. -/
theorem grow_file (hsegments : Path.segments path = above ++ [name]) (facts : FileFacts) :
    let later := forest.grow (fileNode (Path.segments path) name facts) parent
    Charted ways (files ++ [(path, ⟨[], facts.contentHash⟩)]) later ∧
      later.ofKind .file = forest.ofKind .file ++ [forest.size] := by
  intro later
  have hnames : ∀ name ∈ Path.segments path, Path.IsSegment name := fun _ =>
    Path.isSegment_of_mem_segments
  -- the level is counted from the slashes, and there is one between any two names
  have hlevel : Path.slashes (Path.join (Path.segments path)) = above.length := by
    have hcount := Path.slashes_join hnames (by simp [hsegments])
    rw [hsegments, List.length_append, List.length_singleton] at hcount
    rw [hsegments]
    exact Nat.succ.inj hcount
  have hplace : InPlace forest parent (fileNode (Path.segments path) name facts) :=
    h.inPlace_of_enters henter rfl (hnames name (by simp [hsegments]))
      (congrArg Path.join hsegments) hlevel
  have hext := h.extends_grow hplace
  have hnew : later.ShowsFile forest.size (path, ⟨[], facts.contentHash⟩) := by
    refine ⟨⟨fileNode (Path.segments path) name facts, ?_, rfl, rfl, ?_⟩, ?_, ?_⟩
    · rw [Forest.node?_grow henter.lt_size, if_pos rfl]
    · rw [hsegments, List.getLast?_concat]
      rfl
    · have habove : (Path.segments path).dropLast = above := by rw [hsegments, List.dropLast_concat]
      rw [Forest.parent?_grow henter.lt_size, if_pos rfl, habove]
      exact henter.of_extends h.parentsFirst hext
    · -- nothing stands below the new node
      have hnone : parent ≠ some forest.size := fun heq =>
        Nat.lt_irrefl _ (henter.lt_size _ heq)
      rw [Forest.children_grow henter.lt_size, if_neg hnone,
        Forest.children_eq_nil_of_size_le le_rfl]
      exact .nil
  have hids : later.ofKind .file = forest.ofKind .file ++ [forest.size] :=
    h.ofKind_grow_self henter.lt_size rfl
  refine ⟨⟨h.toArranged.grow hplace,
    h.folders.grow_of_ne h.parentsFirst hext henter.lt_size (by simp), ?_⟩, hids⟩
  rw [hids]
  exact List.rel_append (h.forall₂_grow henter hext) (.cons hnew .nil)

end

/-! ### Elements -/

/-- The level of a file is the number of slashes in its path. -/
theorem level_eq_slashes (h : Charted ways files forest) (hfile : forest.ShowsFile id file)
    (hnode : forest.node? id = some node) :
    node.level = Path.slashes (Path.join (Path.segments file.1)) := by
  have hlength := hfile.leadsTo.length_eq h.parentsFirst
  have hnames : ∀ name ∈ Path.segments file.1, Path.IsSegment name := fun _ =>
    Path.isSegment_of_mem_segments
  have hcount := Path.slashes_join hnames hfile.leadsTo.ne_nil
  rw [← hcount] at hlength
  rw [h.level_eq id node hnode]
  exact (Nat.succ.inj hlength).symm

/-- An element that gets no node leaves the forest as it is. -/
theorem skip_element (h : Charted ways (files ++ [(path, ⟨elements, hash⟩)]) forest)
    (hids : forest.ofKind .file = ids ++ [id]) (hkind : element.kind.isShown = false) :
    Charted ways (files ++ [(path, ⟨elements ++ [element], hash⟩)]) forest := by
  refine ⟨h.toArranged, h.folders, ?_⟩
  have hfiles := h.files
  rw [hids, forall₂_concat_iff] at hfiles ⊢
  have hshown : FileFacts.shown ⟨elements ++ [element], hash⟩ =
      FileFacts.shown ⟨elements, hash⟩ := by
    simp [FileFacts.shown, hkind]
  exact ⟨hfiles.1, hfiles.2.node, hfiles.2.folder, hshown ▸ hfiles.2.elements⟩

/-- An element is put below the last file, behind its other elements. -/
theorem grow_element (h : Charted ways (files ++ [(path, ⟨elements, hash⟩)]) forest)
    (hids : forest.ofKind .file = ids ++ [id]) (hkind : element.kind.ShownAs kind) :
    let later := forest.grow (element.node kind (Path.join (Path.segments path))) (some id)
    Charted ways (files ++ [(path, ⟨elements ++ [element], hash⟩)]) later ∧
      later.ofKind .file = ids ++ [id] := by
  have hfiles := h.files
  rw [hids, forall₂_concat_iff] at hfiles
  obtain ⟨hothers, hlast⟩ := hfiles
  obtain ⟨node, hnode, hfile, hpath, -⟩ := hlast.node
  have hhold := hkind.mayHold_file
  have hplace : InPlace forest (some id) (element.node kind (Path.join (Path.segments path))) :=
    .inFile hnode hfile hhold (congrArg (· ++ "#" ++ element.name) hpath.symm)
      (congrArg (· + 1) (h.level_eq_slashes hlast hnode).symm)
  have hext := h.extends_grow hplace
  have hcontainer := hkind.isContainer_eq
  -- so the new node is neither a directory nor a file
  have hdir : kind ≠ .directory := ne_of_apply_ne NodeKind.isContainer (by rw [hcontainer]; decide)
  have hnofile : kind ≠ .file := ne_of_apply_ne NodeKind.isContainer (by rw [hcontainer]; decide)
  have hidsLater : (forest.grow (element.node kind (Path.join (Path.segments path)))
      (some id)).ofKind .file = ids ++ [id] :=
    (h.ofKind_grow_of_ne hplace.lt_size hnofile).trans hids
  refine ⟨⟨h.toArranged.grow hplace,
    h.folders.grow_of_ne h.parentsFirst hext hplace.lt_size hdir, ?_⟩, hidsLater⟩
  rw [hidsLater, forall₂_concat_iff]
  constructor
  · -- the other files have other numbers
    have hne : ∀ other ∈ ids, some id ≠ some other := by
      have hnodup := Forest.nodup_ofKind forest .file
      rw [hids, List.nodup_append] at hnodup
      exact fun other hother heq =>
        hnodup.2.2 other hother id (List.mem_singleton_self id) (Option.some.inj heq).symm
    exact Forest.forall₂_showsFile_grow hothers h.parentsFirst hplace.lt_size hext hne
  · apply hlast.of_extends h.parentsFirst hext
    have hshown : FileFacts.shown ⟨elements ++ [element], hash⟩ =
        FileFacts.shown ⟨elements, hash⟩ ++ [element] := by
      simp [FileFacts.shown, hkind.isShown]
    rw [Forest.children_grow hplace.lt_size, if_pos rfl, hshown]
    apply List.rel_append
    · exact hlast.elements.imp fun child element hchild => hchild.of_extends hext
    · exact .cons (Forest.showsElement_size_grow hplace.lt_size hkind) .nil

end Charted

/-! ### Dependents leave files alone -/

theorem showsElement_linkDependents (h : forest.ShowsElement filePath id element) :
    (linkDependents forest).ShowsElement filePath id element := by
  obtain ⟨node, hnode, hkind, hname, hpath⟩ := h
  refine ⟨_, by rw [node?_linkDependents, hnode, Option.map_some], ?_⟩
  split
  · exact ⟨hkind, hname, hpath⟩
  · exact ⟨hkind, hname, hpath⟩

theorem showsFile_linkDependents (h : forest.ShowsFile id file) :
    (linkDependents forest).ShowsFile id file where
  node := by
    obtain ⟨node, hnode, hkind, hrest⟩ := h.node
    have hcontainer : node.kind.isContainer = true := by rw [hkind]; rfl
    exact ⟨node, node?_linkDependents_of_isContainer hnode hcontainer, hkind, hrest⟩
  folder := by
    rw [parent?_linkDependents, enters_linkDependents_iff]
    exact h.folder
  elements := by
    rw [children_linkDependents]
    exact h.elements.imp fun _ _ => showsElement_linkDependents

theorem Charted.linkDependents (h : Charted ways files forest) :
    Charted ways files (linkDependents forest) where
  toArranged := h.toArranged.linkDependents
  folders := by
    constructor <;> simp only [enters_linkDependents_iff]
    · exact h.folders.mem_iff
    · exact h.folders.unique
  files := by
    rw [ofKind_linkDependents]
    exact h.files.imp fun _ _ => showsFile_linkDependents

end Snapshot

end CodeOutline
