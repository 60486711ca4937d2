import CodeOutline.Proofs.Snapshot.Charts

/-!
# The structure of a snapshot's forest

The path of a file is read as the names between its slashes, so paths that differ only in slashes
are one path. All names but the last lead through folders. A folder becomes a directory when the
first file in it comes up, and is looked up for all later ones.

## Main definitions

* `Snapshot.folders`: the folders in which files stand
* `Snapshot.named`: the files that have a name
* `Snapshot.Shows`: the structure of a snapshot's forest

## Main results

* `Snapshot.Charted.addDirectories`, `Snapshot.Charted.addFile`: what a chain of directories and a
  file add
* `Snapshot.charted_bareForest`: the forest before the nodes learn what depends on them
* `Snapshot.shows_of_forest?`: the forest of a snapshot
-/

namespace CodeOutline.Snapshot

variable {snapshot : Snapshot} {forest : Forest} {node : Node} {parent place : Option NodeId}
  {names above segments : List String} {ways : Set (List String)} {file : String × FileFacts}
  {files : List (String × FileFacts)} {filePath path : String} {ids : List NodeId} {id : Nat}

/-! ### Folders of files -/

/-- The folders in which files stand, and those in which these folders stand. -/
def folders (files : List (String × FileFacts)) : Set (List String) :=
  {names | names ≠ [] ∧
    ∃ file ∈ files, names <+: Path.segments file.1 ∧ names ≠ Path.segments file.1}

/-- The files that have a name. -/
def named (files : List (String × FileFacts)) : List (String × FileFacts) :=
  files.filter fun file => !(Path.segments file.1).isEmpty

/-- The folders on the way through some names, below those that are left behind. -/
def beyond (above names : List String) : Set (List String) :=
  {way | ∃ chain, chain ≠ [] ∧ chain <+: names ∧ way = above ++ chain}

theorem beyond_nil : beyond above [] = ∅ := by
  apply Set.eq_empty_of_forall_notMem
  rintro way ⟨chain, hne, hchain, -⟩
  exact hne (List.prefix_nil.1 hchain)

/-- The first of the folders on the way, and those on the way from it. -/
theorem beyond_cons (above : List String) (name : String) (names : List String) :
    beyond above (name :: names) = {above ++ [name]} ∪ beyond (above ++ [name]) names := by
  ext way
  constructor
  · rintro ⟨chain, hne, hchain, rfl⟩
    rcases List.prefix_cons_iff.1 hchain with rfl | ⟨rest, rfl, hrest⟩
    · exact absurd rfl hne
    · rcases eq_or_ne rest [] with rfl | hrestne
      · exact .inl rfl
      · exact .inr ⟨rest, hrestne, hrest, by simp⟩
  · rintro (rfl | ⟨rest, -, hrest, rfl⟩)
    · exact ⟨[name], by simp, by simp, rfl⟩
    · exact ⟨name :: rest, by simp, List.prefix_cons_inj name |>.2 hrest, by simp⟩

theorem prefix_dropLast_iff (hne : names ≠ []) :
    names <+: segments.dropLast ↔ names <+: segments ∧ names ≠ segments := by
  rcases List.eq_nil_or_concat segments with rfl | ⟨front, last, rfl⟩
  · simp [hne]
  · rw [List.concat_eq_append, List.dropLast_concat, List.prefix_concat_iff]
    constructor
    · intro hfront
      refine ⟨.inr hfront, ?_⟩
      rintro rfl
      exact absurd hfront.length_le (by simp)
    · rintro ⟨rfl | hfront, hneq⟩
      · exact absurd rfl hneq
      · exact hfront

theorem folders_concat (files : List (String × FileFacts)) (file : String × FileFacts) :
    folders (files ++ [file]) = folders files ∪ beyond [] (Path.segments file.1).dropLast := by
  ext names
  simp only [folders, beyond, Set.mem_union, Set.mem_ofPred_eq, List.mem_append, List.mem_singleton,
    List.nil_append, or_and_right, exists_or, exists_eq_left, and_or_left]
  apply or_congr Iff.rfl
  constructor
  · rintro ⟨hne, hnames⟩
    exact ⟨names, hne, (prefix_dropLast_iff hne).2 hnames, rfl⟩
  · rintro ⟨chain, hne, hchain, rfl⟩
    exact ⟨hne, (prefix_dropLast_iff hne).1 hchain⟩

theorem isSegment_of_mem_folders (h : names ∈ folders files) :
    ∀ name ∈ names, Path.IsSegment name := by
  obtain ⟨-, file, -, hbelow, -⟩ := h
  exact fun name hname => Path.isSegment_of_mem_segments (hbelow.subset hname)

theorem mem_named_iff : file ∈ named files ↔ file ∈ files ∧ Path.segments file.1 ≠ [] := by
  simp [named, List.mem_filter]

/-! ### From file to file -/

namespace Charted

/-- A chain of directories adds the folders on its way, and leads into the last one. -/
theorem addDirectories (h : Charted ways files forest) (henter : forest.Enters above parent)
    (hnames : ∀ name ∈ above ++ names, Path.IsSegment name) :
    let grown := Snapshot.addDirectories forest above parent names
    Charted (ways ∪ beyond above names) files grown.1 ∧
      grown.1.Enters (above ++ names) grown.2 := by
  induction names generalizing forest above parent ways with
  | nil =>
    rw [beyond_nil, Set.union_empty, List.append_nil]
    exact ⟨h, henter⟩
  | cons name names ih =>
    have hsplit : above ++ name :: names = (above ++ [name]) ++ names := by simp
    rw [hsplit] at hnames ⊢
    have hway : ∀ other ∈ above ++ [name], Path.IsSegment other := fun other hother =>
      hnames other (List.mem_append_left _ hother)
    rw [beyond_cons, ← Set.union_assoc]
    simp only [Snapshot.addDirectories]
    split
    · -- the folder is there from another file
      rename_i id hfound
      have hthere := h.enters_of_directory? hway hfound
      have hold : above ++ [name] ∈ ways := (h.folders.mem_iff _).2 ⟨id, hthere⟩
      rw [Set.union_eq_self_of_subset_right (Set.singleton_subset_iff.2 hold)]
      exact ih h hthere hnames
    · -- the chain goes on below the directory that was just added
      rename_i hnone
      obtain ⟨hgrown, hinside⟩ :=
        h.grow_directory henter (hway name (by simp)) fun id => h.not_enters hnone
      exact ih hgrown hinside hnames

/-- The elements of a file are put below it one after another. -/
theorem addElements {hash : String} (h : Charted ways (files ++ [(path, ⟨[], hash⟩)]) forest)
    (hids : forest.ofKind .file = ids ++ [id]) (elements : List CodeElement) :
    let later := (elements.filterMap (·.node? (Path.join (Path.segments path)))).foldl
      (fun forest element => forest.grow element (some id)) forest
    Charted ways (files ++ [(path, ⟨elements, hash⟩)]) later ∧
      later.ofKind .file = ids ++ [id] := by
  induction elements using List.reverseRecOn with
  | nil => exact ⟨h, hids⟩
  | append_singleton elements element ih =>
    obtain ⟨hold, hidsOld⟩ := ih
    rw [List.filterMap_append, List.foldl_append]
    cases hkind : element.kind.nodeKind? with
    | none =>
      -- an element that is not shown adds nothing
      have hnode : element.node? (Path.join (Path.segments path)) = none := by
        rw [CodeElement.node?, hkind, Option.map_none]
      simp only [List.filterMap_cons, hnode, List.filterMap_nil]
      exact ⟨hold.skip_element hidsOld (ElementKind.nodeKind?_eq_none_iff.1 hkind), hidsOld⟩
    | some kind =>
      have hnode : element.node? (Path.join (Path.segments path)) =
          some (element.node kind (Path.join (Path.segments path))) := by
        rw [CodeElement.node?, hkind, Option.map_some]
      simp only [List.filterMap_cons, hnode, List.filterMap_nil]
      exact hold.grow_element hidsOld (ElementKind.nodeKind?_eq_some_iff.1 hkind)

/-- A file with a name adds its folders and comes behind all other files. -/
theorem addFile (h : Charted (Snapshot.folders files) (named files) forest)
    (file : String × FileFacts) :
    Charted (Snapshot.folders (files ++ [file])) (named (files ++ [file]))
      (Snapshot.addFile forest file.1 file.2) := by
  rw [folders_concat, named, List.filter_append, ← named]
  rcases List.eq_nil_or_concat (Path.segments file.1) with hnil | ⟨above, name, hsegments⟩
  · have hsame : Snapshot.addFile forest file.1 file.2 = forest := by
      simp [Snapshot.addFile, hnil]
    rw [hsame, hnil, List.dropLast_nil, beyond_nil, Set.union_empty]
    simpa [hnil] using h
  · rw [List.concat_eq_append] at hsegments
    have hnames : ∀ name ∈ [] ++ above, Path.IsSegment name := fun name hname => by
      have hmem : name ∈ Path.segments file.1 := hsegments ▸ List.mem_append_left [_] hname
      exact Path.isSegment_of_mem_segments hmem
    obtain ⟨hchain, hinside⟩ := h.addDirectories .outside hnames
    obtain ⟨hfile, hids⟩ := hchain.grow_file hinside hsegments file.2
    have hall := (hfile.addElements hids file.2.elements).1
    rw [hsegments] at hall
    have hnamed : [file].filter (fun file => !(Path.segments file.1).isEmpty) = [file] := by
      simp [hsegments]
    simp only [Snapshot.addFile, hsegments, List.getLast?_concat, List.dropLast_concat, hnamed]
    exact hall

end Charted

/-- All files of a snapshot, before the nodes learn what depends on them. -/
theorem charted_bareForest (snapshot : Snapshot) :
    Charted (folders snapshot.files) (named snapshot.files) snapshot.bareForest := by
  rw [bareForest]
  induction snapshot.files using List.reverseRecOn with
  | nil =>
    have hnone : folders [] = ∅ := by simp [folders]
    rw [hnone]
    exact charted_empty
  | append_singleton files file ih =>
    rw [List.foldl_append]
    exact ih.addFile file

theorem charted_forest (snapshot : Snapshot) :
    Charted (folders snapshot.files) (named snapshot.files) snapshot.forest := by
  rw [forest_eq]
  exact (charted_bareForest snapshot).linkDependents

/-! ### The structure -/

/-- A forest has the structure of a snapshot. -/
structure Shows (snapshot : Snapshot) (forest : Forest) : Prop extends forest.Rooted where
  /-- every folder is one directory -/
  folder : ∀ names ∈ folders snapshot.files, ∃! id, forest.Enters names (some id)
  /-- every directory is a folder and has its path -/
  directory : ∀ (id : Nat) node, forest.node? id = some node → node.kind = .directory →
    ∃ names ∈ folders snapshot.files, forest.Enters names (some id) ∧ node.path = Path.join names
  /-- the files are those of the snapshot, in order -/
  files : List.Forall₂ forest.ShowsFile (forest.ofKind .file) (named snapshot.files)
  /-- everything else stands in a file -/
  member : ∀ (id : Nat) node, forest.node? id = some node → node.kind.isContainer = false →
    ∃ p, forest.parent? id = some p ∧ forest.hasKind .file p = true
  preorder : forest.preorder.Perm (List.range forest.size)
  legal : ∀ (id p : Nat) node above, forest.parent? id = some p → forest.node? id = some node →
    forest.node? p = some above → above.kind.mayHold node.kind = true
  containerPath : ∀ (id : Nat) node, forest.node? id = some node → node.kind.isContainer = true →
    forest.containerPath id = node.path
  level : ∀ (id : Nat) node, forest.node? id = some node →
    node.level = (forest.ancestors id).length

theorem Charted.shows
    (h : Charted (Snapshot.folders snapshot.files) (named snapshot.files) forest) :
    snapshot.Shows forest where
  toRooted := h.toRooted
  folder names hnames := by
    obtain ⟨id, hid⟩ := (h.folders.mem_iff names).1 hnames
    exact ⟨id, hid, fun other hother => h.folders.unique names other id hother hid⟩
  directory id node hnode hkind := by
    have hcontainer : node.kind.isContainer = true := by rw [hkind]; rfl
    have henter : forest.Enters (forest.containerNames id) (some id) :=
      .directory (h.leadsTo_containerNames id node hnode hcontainer)
        ((Forest.hasKind_of_node? hnode).2 hkind)
    exact ⟨_, (h.folders.mem_iff _).2 ⟨id, henter⟩, henter, (h.path_eq_of_enters henter hnode).1⟩
  files := h.files
  member id node hnode hkind := by
    obtain ⟨p, file, hparent, hfile, hkindFile, -⟩ := h.exists_file hnode hkind
    exact ⟨p, hparent, (Forest.hasKind_of_node? hfile).2 hkindFile⟩
  preorder := h.preorder_perm
  legal id p node above hparent hnode habove := h.mayHold hparent hnode habove
  containerPath id node hnode hkind := h.containerPath_eq hnode hkind
  level := h.level_eq

theorem shows_forest (snapshot : Snapshot) : snapshot.Shows snapshot.forest :=
  (charted_forest snapshot).shows

/-- **The forest of a snapshot has its structure.** There is one directory for every folder, in the
folder above it, and one file for every path that holds a name, in its folder. Below a file stand its
functions and methods, as functions, and its components and classes, as components, all in order. A
walk visits every node once, no node stands where its kind may not, the names on the way to a
directory or file make up its path, and its level is the number of nodes above it. -/
theorem shows_of_forest? (h : snapshot.forest? = some forest) : snapshot.Shows forest := by
  rw [← forest_eq_of_forest? h]
  exact shows_forest snapshot

/-- Two paths that differ only in a slash, a path of slashes alone, and one that leads through the
name of a file. The first file holds elements of all kinds that are shown, and one that is not. -/
theorem shows_of_forest?_odd_paths :
    let foo : CodeElement := ⟨"foo", .method, 1, 0, false, "", [], []⟩
    let limit : CodeElement := { foo with name := "limit", kind := .binding }
    let store : CodeElement := { foo with name := "Store", kind := .classType }
    let view : CodeElement := { foo with name := "View", kind := .component }
    let run : CodeElement := { foo with name := "run", kind := .function }
    let elements := [foo, limit, store, view, run]
    let snapshot := (((Snapshot.empty.insert "//" ⟨[foo], ""⟩).insert "/a.ts"
      ⟨elements, "A1"⟩).insert "a.ts" ⟨[], ""⟩).insert "a.ts//b.ts" ⟨[foo], ""⟩
    snapshot.forest? = some snapshot.forest ∧ snapshot.Shows snapshot.forest ∧
      snapshot.forest.ofKind .directory = [6] ∧ snapshot.forest.ofKind .file = [0, 5, 7] ∧
      ((snapshot.forest.children 0).filterMap snapshot.forest.node?).map Node.identity =
        [⟨.function, "a.ts#foo"⟩, ⟨.component, "a.ts#Store"⟩, ⟨.component, "a.ts#View"⟩,
          ⟨.function, "a.ts#run"⟩] ∧
      snapshot.forest.children 5 = [] ∧
      ((snapshot.forest.children 7).filterMap snapshot.forest.node?).map Node.identity =
        [⟨.function, "a.ts/b.ts#foo"⟩] := by
  intro foo limit store view run elements snapshot
  have hcut : snapshot.forest? = some snapshot.forest := if_neg (by decide +kernel)
  exact ⟨hcut, shows_of_forest? hcut, by decide +kernel, by decide +kernel, by decide +kernel,
    by decide +kernel, by decide +kernel⟩

end CodeOutline.Snapshot
