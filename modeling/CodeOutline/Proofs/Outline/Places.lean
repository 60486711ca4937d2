import CodeOutline.Proofs.Forest.ContainerPath
import CodeOutline.Proofs.Statement.Names

/-!
# Places in an outline

In the forest that is read from an outline, every node has a name of its kind, stands below a node
that may hold it or is a root, and has the path of that place. The path of a directory or file is
the path of the directory it stands in, a slash and its name, so it says in turn what stands there:
the name says whether it is a directory or a file, and the path in front of it which directory it
stands in.

## Main definitions

* `Outline.WellPlaced`: every node of a forest stands in its place

## Main results

* `WellPlaced.eq_of_path_eq_pathBelow`: a directory or file that has the path of a place has the
  kind, the name and the parent that belong to it
* `WellPlaced.grow`: a new node under a new path leaves everything in its place
-/

namespace CodeOutline.Outline

open Reading

variable {forest : Forest} {kind : NodeKind} {node : Node} {name : String} {parent : Option NodeId}
  {id p : Nat}

/-! ### Looking up -/

theorem accepts_iff : accepts forest kind p = true ↔
    ∃ above, forest.node? p = some above ∧ above.kind.mayHold kind = true := by
  cases hnode : forest.node? p <;> simp [accepts, hnode]

theorem lt_size_of_accepts (h : accepts forest kind p = true) : p < forest.size := by
  obtain ⟨above, habove, -⟩ := accepts_iff.1 h
  exact Forest.lt_size_of_node? habove

theorem node?_of_declared? {path : String} (h : declared? forest path = some id) :
    ∃ node, forest.node? id = some node ∧ node.kind.isContainer = true ∧ node.path = path := by
  obtain ⟨hid, hfound, -⟩ := Array.findIdx?_eq_some_iff_getElem.1 h
  rw [Bool.and_eq_true, beq_iff_eq] at hfound
  exact ⟨forest.slots[id].node, by simp [Forest.node?, hid], hfound⟩

theorem path_ne_of_declared? {path : String} (h : declared? forest path = none)
    (hnode : forest.node? id = some node) (hkind : node.kind.isContainer = true) :
    node.path ≠ path := by
  rintro rfl
  obtain ⟨slot, hslot, rfl⟩ := Option.map_eq_some_iff.1 hnode
  have hfree := Array.findIdx?_eq_none_iff.1 h slot (Array.mem_of_getElem? hslot)
  simp [hkind] at hfree

theorem accepts_eq_of_extends {later : Forest} (hext : forest.Extends later)
    (hp : p < forest.size) : accepts later kind p = accepts forest kind p := by
  rw [accepts, hext.node?_eq p hp, accepts]

/-- What stands directly above a directory or file is a directory. -/
theorem exists_directory (hkind : kind.isContainer = true) (hp : accepts forest kind p = true) :
    ∃ above, forest.node? p = some above ∧ above.kind = .directory := by
  obtain ⟨above, habove, hhold⟩ := accepts_iff.1 hp
  exact ⟨above, habove, NodeKind.eq_directory_of_mayHold hhold hkind⟩

/-! ### Well placed forests -/

/-- Every node has a name of its kind, stands below a node that may hold it or is a root, and has
the path of that place; and no two directories or files share a path. -/
structure WellPlaced (forest : Forest) : Prop where
  parentsFirst : forest.ParentsFirst
  mem_roots_iff : ∀ id : Nat, id ∈ forest.roots ↔ id < forest.size ∧ forest.parent? id = none
  names : ∀ (id : Nat) node, forest.node? id = some node → node.kind.Names node.name
  accepted : ∀ (id : Nat) node, forest.node? id = some node →
    ∀ p ∈ forest.parent? id, accepts forest node.kind p = true
  path_eq : ∀ (id : Nat) node, forest.node? id = some node →
    node.path = pathBelow forest node.kind node.name (forest.parent? id)
  eq_of_path_eq : ∀ (id id' : Nat) node node', forest.node? id = some node →
    forest.node? id' = some node' → node.kind.isContainer = true → node'.kind.isContainer = true →
    node.path = node'.path → id = id'

theorem wellPlaced_empty : WellPlaced .empty := by
  constructor <;> simp [Forest.ParentsFirst]

namespace WellPlaced

variable (h : WellPlaced forest)
include h

theorem lt_size_of_mem_roots {r : Nat} (hr : r ∈ forest.roots) : r < forest.size :=
  ((h.mem_roots_iff r).1 hr).1

theorem containerPath_ne_empty (hnode : forest.node? id = some node)
    (hkind : node.kind.isContainer = true) : forest.containerPath id ≠ "" :=
  h.parentsFirst.containerPath_ne_empty hnode hkind ((h.names id node hnode).ne_empty hkind)

/-- The path of a directory or file is the way to it. -/
theorem containerPath_eq (hnode : forest.node? id = some node)
    (hkind : node.kind.isContainer = true) : forest.containerPath id = node.path := by
  have hname := (h.names id node hnode).ne_empty hkind
  rw [h.path_eq id node hnode, Forest.containerPath_eq_join,
    h.parentsFirst.containerNames_of_node? hnode hkind hname, Path.join_append_singleton]
  cases hparent : forest.parent? id with
  | none => simp [pathBelow]
  | some p =>
    obtain ⟨above, habove, hdir⟩ := exists_directory hkind (h.accepted id node hnode p hparent)
    have hway := h.containerPath_ne_empty habove (by rw [hdir]; rfl)
    -- the way to the directory has a name in it, so a slash comes in front of the last one
    have hnames : forest.containerNames p ≠ [] := fun hnil => hway (by
      rw [Forest.containerPath_eq_join, hnil]
      rfl)
    have hjoin := Forest.containerPath_eq_join forest p
    simp [pathBelow, hway, hkind, hnames, ← hjoin]

/-- A directory or file below a directory has the directory's path in front of its name. -/
theorem pathBelow_eq {above : Node} (hkind : kind.isContainer = true)
    (habove : forest.node? p = some above) (hdir : above.kind = .directory) :
    pathBelow forest kind name (some p) = above.path ++ "/" ++ name := by
  have hcontainer : above.kind.isContainer = true := by rw [hdir]; rfl
  have hway := h.containerPath_ne_empty habove hcontainer
  rw [h.containerPath_eq habove hcontainer] at hway
  simp [pathBelow, h.containerPath_eq habove hcontainer, hway, hkind]

/-- A root has its name for a path. -/
theorem path_eq_name (hnode : forest.node? id = some node) (hparent : forest.parent? id = none) :
    node.path = node.name := by
  rw [h.path_eq id node hnode, hparent]
  rfl

/-- What stands above a directory or file is a directory, whose path is in front of its name. -/
theorem exists_directory_path (hnode : forest.node? id = some node)
    (hkind : node.kind.isContainer = true) (hparent : forest.parent? id = some p) :
    ∃ above, forest.node? p = some above ∧ above.kind = .directory ∧
      node.path = above.path ++ "/" ++ node.name := by
  obtain ⟨above, habove, hdir⟩ := exists_directory hkind (h.accepted id node hnode p hparent)
  refine ⟨above, habove, hdir, ?_⟩
  rw [h.path_eq id node hnode, hparent, h.pathBelow_eq hkind habove hdir]

/-- A directory or file that has the path of a place has the kind, the name and the parent that
belong to it. -/
theorem eq_of_path_eq_pathBelow (hnode : forest.node? id = some node)
    (hcontainer : node.kind.isContainer = true) (hkind : kind.isContainer = true)
    (hname : kind.Names name) (hparent : ∀ p ∈ parent, accepts forest kind p = true)
    (hpath : node.path = pathBelow forest kind name parent) :
    node.kind = kind ∧ node.name = name ∧ forest.parent? id = parent := by
  have hown := h.names id node hnode
  have hslash := hown.slash_notMem hcontainer
  have hslash' := hname.slash_notMem hkind
  -- once the names are equal, they tell the kinds
  have hkinds : node.name = name → node.kind = kind := fun heq =>
    hown.kind_eq (heq ▸ hname) hcontainer hkind
  -- a root has no slash in its path, and what stands below a directory has one
  cases hq : forest.parent? id with
  | none =>
    rw [h.path_eq_name hnode hq] at hpath
    cases parent with
    | none => exact ⟨hkinds hpath, hpath, rfl⟩
    | some p =>
      obtain ⟨above, habove, hdir⟩ := exists_directory hkind (hparent p rfl)
      rw [h.pathBelow_eq hkind habove hdir] at hpath
      exact absurd hpath (Path.ne_append above.path hslash)
  | some q =>
    obtain ⟨outer, houter, hdir', hbelow⟩ := h.exists_directory_path hnode hcontainer hq
    rw [hbelow] at hpath
    cases parent with
    | none => exact absurd hpath.symm (Path.ne_append outer.path hslash')
    | some p =>
      obtain ⟨above, habove, hdir⟩ := exists_directory hkind (hparent p rfl)
      rw [h.pathBelow_eq hkind habove hdir] at hpath
      -- the last slash tells the names from the directories, and these from their paths
      obtain ⟨hfront, heq⟩ := Path.append_inj hslash hslash' hpath
      have hqp := h.eq_of_path_eq q p outer above houter habove (by rw [hdir']; rfl)
        (by rw [hdir]; rfl) hfront
      exact ⟨hkinds heq, heq, by rw [hqp]⟩

theorem pathBelow_eq_of_extends {later : Forest} (hext : forest.Extends later)
    (hlater : later.ParentsFirst) (hparent : ∀ p ∈ parent, p < forest.size) :
    pathBelow later kind name parent = pathBelow forest kind name parent := by
  cases parent with
  | none => rfl
  | some p => rw [pathBelow, hext.containerPath_eq h.parentsFirst hlater (hparent p rfl), pathBelow]

/-- A new node under a new path leaves everything in its place. -/
theorem grow (hname : node.kind.Names node.name)
    (hparent : ∀ p ∈ parent, accepts forest node.kind p = true)
    (hpath : node.path = pathBelow forest node.kind node.name parent)
    (hnew : node.kind.isContainer = true → declared? forest node.path = none) :
    WellPlaced (forest.grow node parent) := by
  have hlt : ∀ p ∈ parent, p < forest.size := fun p hp => lt_size_of_accepts (hparent p hp)
  have hfirst : (forest.grow node parent).ParentsFirst := h.parentsFirst.grow hlt
  have hext : forest.Extends (forest.grow node parent) :=
    Forest.extends_grow hlt fun r => h.lt_size_of_mem_roots
  have hself : (forest.grow node parent).parent? forest.size = parent := by
    rw [Forest.parent?_grow hlt, if_pos rfl]
  -- the path of the new node was free
  have hfree : ∀ {id : Nat} {earlier : Node}, forest.node? id = some earlier →
      earlier.kind.isContainer = true → node.kind.isContainer = true →
      earlier.path ≠ node.path := fun hearlier hkind hkind' =>
    path_ne_of_declared? (hnew hkind') hearlier hkind
  -- every fact is that of the new node, or one of the forest before
  refine ⟨hfirst, fun id => Forest.mem_roots_grow_iff hlt h.mem_roots_iff, ?_, ?_, ?_, ?_⟩
  · intro id found hfound
    obtain ⟨-, rfl⟩ | ⟨-, hfound⟩ := Forest.eq_or_node?_of_node?_grow hlt hfound
    · exact hname
    · exact h.names id found hfound
  · intro id found hfound p hp
    obtain ⟨rfl, rfl⟩ | ⟨hid, hfound⟩ := Forest.eq_or_node?_of_node?_grow hlt hfound
    · rw [hself] at hp
      rw [accepts_eq_of_extends hext (hlt p hp)]
      exact hparent p hp
    · rw [hext.parent?_eq id hid] at hp
      have hp' := h.accepted id found hfound p hp
      rwa [accepts_eq_of_extends hext (lt_size_of_accepts hp')]
  · intro id found hfound
    obtain ⟨rfl, rfl⟩ | ⟨hid, hfound⟩ := Forest.eq_or_node?_of_node?_grow hlt hfound
    · rw [hself, h.pathBelow_eq_of_extends hext hfirst hlt]
      exact hpath
    · rw [hext.parent?_eq id hid, h.pathBelow_eq_of_extends hext hfirst]
      · exact h.path_eq id found hfound
      · exact fun p hp => lt_size_of_accepts (h.accepted id found hfound p hp)
  · intro id id' found found' hfound hfound' hkind hkind' heq
    obtain ⟨rfl, rfl⟩ | ⟨-, hold⟩ := Forest.eq_or_node?_of_node?_grow hlt hfound
    · obtain ⟨rfl, -⟩ | ⟨-, hold'⟩ := Forest.eq_or_node?_of_node?_grow hlt hfound'
      · rfl
      · exact absurd heq.symm (hfree hold' hkind' hkind)
    · obtain ⟨-, rfl⟩ | ⟨-, hold'⟩ := Forest.eq_or_node?_of_node?_grow hlt hfound'
      · exact absurd heq (hfree hold hkind hkind')
      · exact h.eq_of_path_eq id id' found found' hold hold' hkind hkind' heq

end WellPlaced

end CodeOutline.Outline
