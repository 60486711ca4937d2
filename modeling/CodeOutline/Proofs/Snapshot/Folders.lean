import Mathlib.Data.Set.Insert
import CodeOutline.Proofs.Snapshot.Places

/-!
# Folders

The names on the way into a directory are those of a folder. A directory is looked up by its path,
and as the path tells the names, it is found exactly if its folder is there already. So no folder is
there twice, however many files stand in it.

## Main definitions

* `Forest.ofKind`: the nodes of a kind
* `Forest.Enters`: the names on the way into a directory, or outside of all
* `Forest.HasFolders`: which folders there are, each as one directory

## Main results

* `Forest.HasFolders.grow_directory`, `Forest.HasFolders.grow_of_ne`: what a node adds to the
  folders
* `Snapshot.Arranged.enters_of_directory?`, `Snapshot.Arranged.not_enters`: what looking up a
  directory tells
* `Snapshot.Arranged.inPlace_of_enters`: the place of a directory or file that comes into a folder
* `Snapshot.enters_linkDependents_iff`: what depends on nodes leaves the folders alone
-/

namespace CodeOutline

variable {forest later : Forest} {node : Node} {parent place : Option NodeId} {kind : NodeKind}
  {names above : List String} {ways : Set (List String)} {id : Nat}

namespace Forest

/-! ### Nodes of a kind -/

/-- The nodes of a kind, in the order in which they were added. -/
def ofKind (forest : Forest) (kind : NodeKind) : List NodeId :=
  (List.range forest.size).filter (forest.hasKind kind)

theorem hasKind_iff :
    forest.hasKind kind id = true ↔ ∃ node, forest.node? id = some node ∧ node.kind = kind := by
  simp [hasKind, Option.any_eq_true]

theorem hasKind_of_node? (hnode : forest.node? id = some node) :
    forest.hasKind kind id = true ↔ node.kind = kind := by
  simp [hasKind, hnode]

theorem lt_size_of_hasKind (h : forest.hasKind kind id = true) : id < forest.size := by
  obtain ⟨node, hnode, -⟩ := hasKind_iff.1 h
  exact lt_size_of_node? hnode

theorem mem_ofKind_iff : id ∈ forest.ofKind kind ↔ forest.hasKind kind id = true := by
  rw [ofKind, List.mem_filter, List.mem_range, and_iff_right_iff_imp]
  exact lt_size_of_hasKind

theorem nodup_ofKind (forest : Forest) (kind : NodeKind) : (forest.ofKind kind).Nodup :=
  List.nodup_range.filter _

theorem Extends.hasKind_eq (hext : forest.Extends later) (hid : id < forest.size) :
    later.hasKind kind id = forest.hasKind kind id := by
  rw [hasKind, hext.node?_eq id hid, hasKind]

theorem hasKind_size_grow (hparent : ∀ p ∈ parent, p < forest.size) :
    (forest.grow node parent).hasKind kind forest.size = true ↔ node.kind = kind := by
  apply hasKind_of_node?
  rw [node?_grow hparent, if_pos rfl]

/-- A new node comes behind all others of its kind. -/
theorem ofKind_grow (hparent : ∀ p ∈ parent, p < forest.size)
    (hroots : ∀ r ∈ forest.roots, r < forest.size) (kind : NodeKind) :
    (forest.grow node parent).ofKind kind =
      forest.ofKind kind ++ if node.kind = kind then [forest.size] else [] := by
  have hext : forest.Extends (forest.grow node parent) := extends_grow hparent hroots
  have hold : (List.range forest.size).filter ((forest.grow node parent).hasKind kind) =
      forest.ofKind kind :=
    List.filter_congr fun id hid => hext.hasKind_eq (List.mem_range.1 hid)
  rw [ofKind, size_grow, List.range_succ, List.filter_append, hold]
  simp only [List.filter_cons, hasKind_size_grow hparent, List.filter_nil]

theorem Rooted.ofKind_grow_of_ne (h : forest.Rooted) (hparent : ∀ p ∈ parent, p < forest.size)
    (hkind : node.kind ≠ kind) : (forest.grow node parent).ofKind kind = forest.ofKind kind := by
  rw [ofKind_grow hparent fun _ => h.lt_size_of_mem_roots, if_neg hkind, List.append_nil]

theorem Rooted.ofKind_grow_self (h : forest.Rooted) (hparent : ∀ p ∈ parent, p < forest.size)
    (hkind : node.kind = kind) :
    (forest.grow node parent).ofKind kind = forest.ofKind kind ++ [forest.size] := by
  rw [ofKind_grow hparent fun _ => h.lt_size_of_mem_roots, if_pos hkind]

/-! ### Ways into directories -/

/-- The names on the way into a directory. Without names one stays outside. -/
inductive Enters (forest : Forest) : List String → Option NodeId → Prop
  | outside : Enters forest [] none
  | directory {names : List String} {id : NodeId} (hway : forest.LeadsTo names id)
      (hkind : forest.hasKind .directory id = true) : Enters forest names (some id)

theorem Enters.lt_size (h : forest.Enters names place) : ∀ p ∈ place, p < forest.size := by
  cases h with
  | outside => simp
  | directory hway =>
    intro p hp
    exact Option.mem_some.1 hp ▸ hway.lt_size

theorem enters_some_iff :
    forest.Enters names (some id) ↔
      forest.LeadsTo names id ∧ forest.hasKind .directory id = true := by
  constructor
  · intro h
    cases h with
    | directory hway hkind => exact ⟨hway, hkind⟩
  · exact fun ⟨hway, hkind⟩ => .directory hway hkind

/-- The way into a directory is there when the directory is. -/
theorem Extends.enters_iff (hext : forest.Extends later) (hfirst : forest.ParentsFirst)
    (hid : id < forest.size) :
    later.Enters names (some id) ↔ forest.Enters names (some id) := by
  rw [enters_some_iff, enters_some_iff, hext.leadsTo_iff hfirst hid, hext.hasKind_eq hid]

theorem Enters.of_extends (h : forest.Enters names place) (hfirst : forest.ParentsFirst)
    (hext : forest.Extends later) : later.Enters names place := by
  cases place with
  | none => cases h; exact .outside
  | some id => exact (hext.enters_iff hfirst (h.lt_size id rfl)).2 h

/-- The way to a node is that into its directory and its own name. -/
theorem Enters.leadsTo (h : forest.Enters above parent) (hnode : forest.node? id = some node)
    (hparent : forest.parent? id = parent) : forest.LeadsTo (above ++ [node.name]) id := by
  cases h with
  | outside => exact .root hnode hparent
  | directory hway => exact .child hway hnode hparent

section

variable (hfirst : forest.ParentsFirst) (hext : forest.Extends (forest.grow node parent))
include hfirst hext

theorem Enters.leadsTo_grow (h : forest.Enters above parent) :
    (forest.grow node parent).LeadsTo (above ++ [node.name]) forest.size := by
  apply (h.of_extends hfirst hext).leadsTo
  · rw [node?_grow h.lt_size, if_pos rfl]
  · rw [parent?_grow h.lt_size, if_pos rfl]

/-- What can be entered was there before, or is the new node. -/
theorem Enters.of_grow (hparent : ∀ p ∈ parent, p < forest.size)
    (h : (forest.grow node parent).Enters names (some id)) :
    forest.Enters names (some id) ∨ id = forest.size ∧ node.kind = .directory := by
  obtain ⟨hway, hkind⟩ := enters_some_iff.1 h
  have hid : id < forest.size + 1 := size_grow ▸ hway.lt_size
  rcases Nat.lt_succ_iff_lt_or_eq.1 hid with hid | rfl
  · exact .inl ((hext.enters_iff hfirst hid).1 h)
  · exact .inr ⟨rfl, (hasKind_size_grow hparent).1 hkind⟩

/-- Besides the old directories, one may enter the new node if it is one. -/
theorem Enters.enters_grow_iff (h : forest.Enters above parent) :
    (forest.grow node parent).Enters names (some id) ↔
      forest.Enters names (some id) ∨
        id = forest.size ∧ node.kind = .directory ∧ names = above ++ [node.name] := by
  have hway := h.leadsTo_grow hfirst hext
  constructor
  · intro hnew
    rcases hnew.of_grow hfirst hext h.lt_size with hold | ⟨rfl, hkind⟩
    · exact .inl hold
    · -- only one way leads to the new node
      exact .inr ⟨rfl, hkind, (enters_some_iff.1 hnew).1.unique hway⟩
  · rintro (hold | ⟨rfl, hkind, rfl⟩)
    · exact hold.of_extends hfirst hext
    · exact .directory hway ((hasKind_size_grow h.lt_size).2 hkind)

/-- What is no directory cannot be entered. -/
theorem enters_grow_iff_of_ne (hparent : ∀ p ∈ parent, p < forest.size)
    (hkind : node.kind ≠ .directory) :
    (forest.grow node parent).Enters names (some id) ↔ forest.Enters names (some id) := by
  constructor
  · intro hnew
    rcases hnew.of_grow hfirst hext hparent with hold | ⟨-, hdir⟩
    · exact hold
    · exact absurd hdir hkind
  · exact fun hold => hold.of_extends hfirst hext

end

/-! ### The folders of a forest -/

/-- The ways into directories are those given, and each leads into one directory. -/
structure HasFolders (ways : Set (List String)) (forest : Forest) : Prop where
  mem_iff : ∀ names, names ∈ ways ↔ ∃ id, forest.Enters names (some id)
  unique : ∀ names id id', forest.Enters names (some id) → forest.Enters names (some id') → id = id'

theorem hasFolders_empty : HasFolders ∅ .empty := by
  constructor <;> simp [enters_some_iff, hasKind]

namespace HasFolders

variable (h : forest.HasFolders ways) (hfirst : forest.ParentsFirst)
  (hext : forest.Extends (forest.grow node parent))
include h hfirst hext

/-- A directory whose folder was not there before adds its folder. -/
theorem grow_directory (henter : forest.Enters above parent) (hkind : node.kind = .directory)
    (hnew : ∀ id, ¬ forest.Enters (above ++ [node.name]) (some id)) :
    (forest.grow node parent).HasFolders (ways ∪ {above ++ [node.name]}) where
  mem_iff names := by
    simp only [Set.mem_union, Set.mem_singleton_iff, henter.enters_grow_iff hfirst hext, exists_or,
      hkind, true_and, exists_eq_left, h.mem_iff names]
  unique names id id' hid hid' := by
    rw [henter.enters_grow_iff hfirst hext] at hid hid'
    -- one of them was there before and the other is the new one: its folder was not there
    rcases hid with hid | ⟨rfl, -, rfl⟩ <;> rcases hid' with hid' | ⟨rfl, -, hnames⟩
    · exact h.unique names id id' hid hid'
    · exact absurd (hnames ▸ hid) (hnew id)
    · exact absurd hid' (hnew id')
    · rfl

/-- What is no directory leaves the folders alone. -/
theorem grow_of_ne (hparent : ∀ p ∈ parent, p < forest.size) (hkind : node.kind ≠ .directory) :
    (forest.grow node parent).HasFolders ways where
  mem_iff names := by
    simp only [h.mem_iff names, enters_grow_iff_of_ne hfirst hext hparent hkind]
  unique names id id' hid hid' := by
    rw [enters_grow_iff_of_ne hfirst hext hparent hkind] at hid hid'
    exact h.unique names id id' hid hid'

end HasFolders

end Forest

namespace Snapshot

/-! ### Looking up a directory -/

theorem directory?_ne_none (hnode : forest.node? id = some node) (hkind : node.kind = .directory) :
    directory? forest node.path ≠ none := by
  obtain ⟨slot, hslot, rfl⟩ := Option.map_eq_some_iff.1 hnode
  intro hnone
  have hother := Array.findIdx?_eq_none_iff.1 hnone slot (Array.mem_of_getElem? hslot)
  simp [hkind] at hother

namespace Arranged

variable (h : Arranged forest)
include h

/-- The path of a directory tells its folder. -/
theorem path_eq_of_enters (henter : forest.Enters names (some id))
    (hnode : forest.node? id = some node) :
    node.path = Path.join names ∧ ∀ name ∈ names, Path.IsSegment name := by
  obtain ⟨hway, hkind⟩ := Forest.enters_some_iff.1 henter
  rw [Forest.hasKind_of_node? hnode] at hkind
  exact h.path_eq_join hway hnode (by rw [hkind]; rfl)

/-- The directory that is found by a path is that of the folder. -/
theorem enters_of_directory? (hnames : ∀ name ∈ names, Path.IsSegment name)
    (hfound : directory? forest (Path.join names) = some id) : forest.Enters names (some id) := by
  obtain ⟨node, hnode, hkind, hpath⟩ := exists_of_directory? hfound
  have hcontainer : node.kind.isContainer = true := by rw [hkind]; rfl
  have hway := h.leadsTo_containerNames id node hnode hcontainer
  obtain ⟨hjoin, hsegments⟩ := h.path_eq_join hway hnode hcontainer
  rw [Path.eq_of_join_eq hnames hsegments (hpath.symm.trans hjoin)]
  exact .directory hway ((Forest.hasKind_of_node? hnode).2 hkind)

/-- If no directory is found by a path, the folder is not there. -/
theorem not_enters (hnone : directory? forest (Path.join names) = none) :
    ¬ forest.Enters names (some id) := by
  intro henter
  obtain ⟨node, hnode, hkind⟩ := Forest.hasKind_iff.1 (Forest.enters_some_iff.1 henter).2
  rw [← (h.path_eq_of_enters henter hnode).1] at hnone
  exact directory?_ne_none hnode hkind hnone

/-- A directory or file that comes into a folder is in its place if path and level say so. -/
theorem inPlace_of_enters (henter : forest.Enters above parent)
    (hkind : node.kind.isContainer = true) (hname : Path.IsSegment node.name)
    (hpath : node.path = Path.join (above ++ [node.name])) (hlevel : node.level = above.length) :
    InPlace forest parent node := by
  rw [Path.join_append_singleton] at hpath
  cases henter with
  | outside => exact .top hkind hname hpath hlevel
  | @directory _ p hway hdir =>
    obtain ⟨folder, hfolder, hkindFolder⟩ := Forest.hasKind_iff.1 hdir
    have hfront := (h.path_eq_of_enters (.directory hway hdir) hfolder).1
    have hlength := hway.length_eq h.parentsFirst
    rw [if_neg hway.ne_nil, ← hfront] at hpath
    rw [← h.level_eq p folder hfolder] at hlength
    exact .inDirectory hfolder hkindFolder hkind hname hpath (hlevel.trans hlength)

end Arranged

/-! ### Dependents leave folders alone -/

theorem map_node?_linkDependents {α : Type} {f : Node → α} (id : Nat)
    (hf : ∀ node dependents, f { node with dependents := dependents } = f node) :
    ((linkDependents forest).node? id).map f = (forest.node? id).map f := by
  rw [node?_linkDependents, Option.map_map]
  congr 1
  funext node
  simp only [Function.comp_apply]
  split
  · rfl
  · exact hf _ _

theorem leadsTo_linkDependents_iff :
    (linkDependents forest).LeadsTo names id ↔ forest.LeadsTo names id := by
  have hname : ∀ id, ((linkDependents forest).node? id).map (·.name) =
      (forest.node? id).map (·.name) := fun id =>
    map_node?_linkDependents id fun _ _ => rfl
  constructor
  · exact fun h => h.congr (fun id => (hname id).symm) fun id => (parent?_linkDependents id).symm
  · exact fun h => h.congr hname parent?_linkDependents

theorem hasKind_linkDependents : (linkDependents forest).hasKind = forest.hasKind := by
  funext kind id
  have hkind : ((linkDependents forest).node? id).map (·.kind) = (forest.node? id).map (·.kind) :=
    map_node?_linkDependents id fun _ _ => rfl
  have hany : ∀ node? : Option Node,
      node?.any (·.kind == kind) = (node?.map (·.kind)).any (· == kind) := by
    simp [Option.any_map]
  rw [Forest.hasKind, hany, hkind, ← hany, Forest.hasKind]

theorem ofKind_linkDependents (kind : NodeKind) :
    (linkDependents forest).ofKind kind = forest.ofKind kind := by
  rw [Forest.ofKind, size_linkDependents, hasKind_linkDependents, Forest.ofKind]

theorem enters_linkDependents_iff :
    (linkDependents forest).Enters names place ↔ forest.Enters names place := by
  cases place with
  | none =>
    constructor <;> rintro ⟨⟩ <;> exact .outside
  | some id =>
    rw [Forest.enters_some_iff, Forest.enters_some_iff, leadsTo_linkDependents_iff,
      hasKind_linkDependents]

end Snapshot

end CodeOutline
