import CodeOutline.Proofs.Outline.CanonicalPaths
import CodeOutline.Proofs.Outline.Reordering
import CodeOutline.Proofs.Statement.Subjects

/-!
# What a node shows of its line

A node keeps kind, name and hash of the line it was read from, and its path. As far as no two
contents have one hash, equal hashes mean lines of equal content, and so nodes of one kind whose
names differ in letter case only. On the other hand a path shows the name at its end. A file,
component, function or reference is written in one way only, so two of them that share kind and path
have equal hashes.

## Main definitions

* `CollisionFree`: no two contents among some lines have one hash
* `Outline.ComesFrom`: what a node has of its line
* `NodeKind.pathMark`: the mark behind which a path shows the name

## Main results

* `Outline.exists_comesFrom`: every node comes from a line
* `Outline.ComesFrom.kind_and_name_eq`: nodes with equal hashes, where hashes do not collide
* `Outline.WellPlaced.lastPart_path`: the name of a node is the last part of its path
* `Outline.hash_eq_of_identity_eq`: nodes with one kind and path, where there is one way to write them
-/

namespace CodeOutline

/-! ### Hashes without collisions -/

/-- No two contents among some lines have one hash. -/
def CollisionFree (lines : List String) : Prop :=
  ∀ s ∈ lines, ∀ t ∈ lines, contentHash s = contentHash t → normalText s = normalText t

instance (lines : List String) : Decidable (CollisionFree lines) :=
  inferInstanceAs (Decidable (∀ s ∈ lines, ∀ t ∈ lines, _))

theorem collisionFree_pair_iff {s t : String} :
    CollisionFree [s, t] ↔ (contentHash s = contentHash t → normalText s = normalText t) := by
  simp only [CollisionFree, List.forall_mem_cons, List.not_mem_nil, false_implies, implies_true,
    and_true, true_and]
  exact ⟨And.left, fun h => ⟨h, fun heq => (h heq.symm).symm⟩⟩

/-- The mark behind which the path of a node shows its name. -/
def NodeKind.pathMark (kind : NodeKind) : Char :=
  if kind.isContainer then '/' else '#'

namespace Outline

open Reading Statement

variable {forest : Forest} {width width' number id id' : Nat} {line line' text text' : String}
  {node a b : Node}

/-! ### The line of a node -/

/-- What a node has of the line it was read from. -/
structure ComesFrom (node : Node) (line : String) : Prop where
  names : node.kind.Names node.name
  hash_eq : node.hash = contentHash line
  /-- the content of the line shows kind and name of the node -/
  subjectOf_eq : subjectOf (normalText line).toList = (node.kind, Text.lower node.name.toList)
  /-- kind and name show the text, where there is one way to write it -/
  trim_eq : ∀ text ∈ spelling? node.kind node.name.toList, Text.trim line.toList = text

theorem comesFrom_of_describe? (hline : '\n' ∉ line.toList)
    (h : describe? width number line = some node) : ComesFrom node line := by
  have hnames := names_of_describe? h
  obtain ⟨statement, stated, hread, hstated, rfl⟩ := exists_of_describe? h
  have hnames : stated.kind.Names stated.name := hnames
  obtain ⟨-, hform⟩ := (Line.read_eq_statement_iff hline).1 hread
  constructor
  case names => exact hnames
  case hash_eq => rfl
  case subjectOf_eq =>
    have hsubject := hform.subjectOf_lower hstated hnames (Text.trimEnd_trimEnd _)
    rwa [normalText, String.toList_ofList]
  case trim_eq =>
    have hspelling := hform.eq_spelling hstated
    exact hspelling

/-- The path of a node does not come from its line. -/
theorem ComesFrom.withPath (h : ComesFrom node line) (path : String) :
    ComesFrom { node with path := path } line :=
  ⟨h.names, h.hash_eq, h.subjectOf_eq, h.trim_eq⟩

theorem Reading.exists_comesFrom_after (width : Nat) {lines : List String}
    (hlines : ∀ line ∈ lines, '\n' ∉ line.toList) :
    ∀ (id : Nat) node, (after width lines).forest.node? id = some node →
      ∃ line ∈ lines, ComesFrom node line := by
  apply forest_after_induction (P := fun forest => ∀ (id : Nat) node,
    forest.node? id = some node → ∃ line ∈ lines, ComesFrom node line)
  · intro id node hnode
    simp at hnode
  intro front line hline node hnode _ hsources id found hfound
  obtain ⟨-, rfl⟩ | ⟨-, hold⟩ :=
    Forest.eq_or_node?_of_node?_grow (sound_after width front).parentOf_lt hfound
  · exact ⟨line, hline, (comesFrom_of_describe? (hlines line hline) hnode).withPath _⟩
  · exact hsources id found hold

/-- Every node comes from a line. -/
theorem exists_comesFrom (h : (ofText width text).forest.node? id = some node) :
    ∃ line ∈ linesOf text, ComesFrom node line :=
  exists_comesFrom_after (max width 1) (fun _ => newline_notMem_of_mem_linesOf) id node h

/-- Nodes with equal hashes have one kind, and names that differ in letter case only. -/
theorem ComesFrom.kind_and_name_eq (ha : ComesFrom a line) (hb : ComesFrom b line')
    (hsame : normalText line = normalText line') :
    a.kind = b.kind ∧ Text.lowercase a.name = Text.lowercase b.name := by
  have hsubjects := ha.subjectOf_eq.symm.trans ((congrArg _ (congrArg _ hsame)).trans hb.subjectOf_eq)
  obtain ⟨hkind, hname⟩ := Prod.mk.inj hsubjects
  exact ⟨hkind, congrArg String.ofList hname⟩

/-- Nodes of one kind whose names differ in letter case only have one hash, if there is one way only
to write them. -/
theorem ComesFrom.hash_eq_of_lowercase_eq (ha : ComesFrom a line) (hb : ComesFrom b line')
    (hkind : a.kind ≠ .directory ∧ a.kind ≠ .note) (hkinds : a.kind = b.kind)
    (hnames : Text.lowercase a.name = Text.lowercase b.name) : a.hash = b.hash := by
  -- what is trimmed off aside, each line is the one spelling of its kind and name
  have hspelled (name : List Char) : ∃ text, spelling? a.kind name = some text := by
    cases hcase : a.kind with
    | directory => exact absurd hcase hkind.1
    | note => exact absurd hcase hkind.2
    | _ => exact ⟨_, rfl⟩
  obtain ⟨spelling, hspelling⟩ := hspelled a.name.toList
  obtain ⟨spelling', hspelling'⟩ := hspelled b.name.toList
  have hlower := spelling?_lower ha.names hspelling
  rw [hkinds] at hspelling'
  have hlower' := spelling?_lower hb.names hspelling'
  -- the small letters of the names are equal, and so are those of the two spellings
  rw [hkinds, String.ofList_injective hnames, hlower'] at hlower
  have hsame : Text.lower spelling' = Text.lower spelling := Option.some.inj hlower
  rw [ha.hash_eq, hb.hash_eq, contentHash, contentHash, normalText, normalText,
    ha.trim_eq spelling hspelling, hb.trim_eq spelling' hspelling', hsame]

/-! ### The name of a path -/

theorem pathMark_notMem_of_names {kind : NodeKind} {name : String} (h : kind.Names name)
    (hkind : kind ≠ .note) : kind.pathMark ∉ name.toList := by
  intro hmem
  have hdotted := h.isDottedChar hkind _ hmem
  rw [NodeKind.pathMark] at hdotted
  split at hdotted
  · exact absurd hdotted (by decide)
  · exact absurd hdotted (by decide)

/-- The name of a node is the last part of its path, unless it is a note. -/
theorem WellPlaced.lastPart_path (h : WellPlaced forest) (hnode : forest.node? id = some node)
    (hkind : node.kind ≠ .note) : Path.lastPart node.kind.pathMark node.path = node.name := by
  -- the mark is not in the name, so the last one in the path is the one in front of the name
  have hmark := pathMark_notMem_of_names (h.names id node hnode) hkind
  cases hparent : forest.parent? id with
  | none => rw [h.path_eq_name hnode hparent, Path.lastPart_of_notMem hmark]
  | some p =>
    by_cases hcontainer : node.kind.isContainer = true
    · obtain ⟨above, -, -, hpath⟩ := h.exists_directory_path hnode hcontainer hparent
      have hlist : node.path.toList =
          above.path.toList ++ node.kind.pathMark :: node.name.toList := by
        simp [hpath, NodeKind.pathMark, hcontainer]
      exact Path.lastPart_append hmark hlist
    · obtain ⟨file, -, -, hpath⟩ := h.exists_file hnode (Bool.eq_false_iff.2 hcontainer) hparent
      have hlist : node.path.toList =
          file.path.toList ++ node.kind.pathMark :: node.name.toList := by
        simp [hpath, NodeKind.pathMark, hcontainer]
      exact Path.lastPart_append hmark hlist

theorem wellPlaced_ofText (width : Nat) (text : String) : WellPlaced (ofText width text).forest :=
  (sound_after (max width 1) (linesOf text)).placed

/-! ### Entries -/

theorem nodup_entries_ofText (width : Nat) (text : String) :
    ((ofText width text).forest.entries.map Entry.id).Nodup :=
  Forest.nodup_entries_ids (rooted_after (max width 1) (linesOf text)).nodup_preorder

/-- The nodes of an outline are compared by the hashes of their lines. -/
theorem mem_entries_ofText {entry : Entry} :
    entry ∈ (ofText width text).forest.entries ↔
      (ofText width text).forest.node? entry.id = some entry.node ∧
        entry.hash = some entry.node.hash := by
  have hrooted : (ofText width text).forest.Rooted := rooted_after (max width 1) (linesOf text)
  rw [Forest.mem_entries, (hasHashes_ofText width text).comparableHash?_eq]
  constructor
  · rintro ⟨-, hnode, hhash⟩
    exact ⟨hnode, by rw [hhash, hnode, Option.map_some]⟩
  · rintro ⟨hnode, hhash⟩
    refine ⟨?_, hnode, by rw [hhash, hnode, Option.map_some]⟩
    rw [hrooted.preorder_perm.mem_iff, List.mem_range]
    exact Forest.lt_size_of_node? hnode

/-! ### Two nodes of two outlines -/

section

variable (ha : (ofText width text).forest.node? id = some a)
  (hb : (ofText width' text').forest.node? id' = some b)
include ha hb

/-- Nodes of one kind and path have one name, unless they are notes. -/
theorem name_eq_of_identity_eq (hkind : a.kind ≠ .note) (hidentity : a.identity = b.identity) :
    a.name = b.name := by
  obtain ⟨hkinds, hpaths⟩ := Identity.mk.inj hidentity
  rw [← (wellPlaced_ofText width text).lastPart_path ha hkind, hkinds, hpaths,
    (wellPlaced_ofText width' text').lastPart_path hb (hkinds ▸ hkind)]

/-- Nodes of one kind and path have one hash, if there is one way only to write them. -/
theorem hash_eq_of_identity_eq (hkind : a.kind ≠ .directory ∧ a.kind ≠ .note)
    (hidentity : a.identity = b.identity) : a.hash = b.hash := by
  obtain ⟨line, -, hline⟩ := exists_comesFrom ha
  obtain ⟨line', -, hline'⟩ := exists_comesFrom hb
  have hname := name_eq_of_identity_eq ha hb hkind.2 hidentity
  have hkinds : a.kind = b.kind := congrArg Identity.kind hidentity
  exact hline.hash_eq_of_lowercase_eq hline' hkind hkinds (congrArg Text.lowercase hname)

/-- Nodes with one hash have one kind, and names that differ in letter case only, if no hashes
collide. -/
theorem kind_and_name_eq_of_hash_eq {lines : List String} (hfree : CollisionFree lines)
    (hlines : linesOf text ⊆ lines) (hlines' : linesOf text' ⊆ lines) (hhash : a.hash = b.hash) :
    a.kind = b.kind ∧ Text.lowercase a.name = Text.lowercase b.name := by
  obtain ⟨line, hmem, hline⟩ := exists_comesFrom ha
  obtain ⟨line', hmem', hline'⟩ := exists_comesFrom hb
  refine hline.kind_and_name_eq hline' (hfree line (hlines hmem) line' (hlines' hmem') ?_)
  rw [← hline.hash_eq, ← hline'.hash_eq, hhash]

end

end Outline

end CodeOutline
