import CodeOutline.Proofs.Diff.Pairs
import CodeOutline.Proofs.Snapshot.Origins

/-!
# What is relocated between two snapshots

A relocation is found by content alone: it leads from a node of the old forest to one of the new
forest that is compared by the same hash, and whose kind or path is another one. Between elements
this means that the words of the source text have one hash. Nothing asks for the kind, so a function
whose source text is that of a component counts as relocated to it, even to its own path. Only where
content tells the kind does every relocation lead from one path to another and leave the kind as it
was.

## Main definitions

* `Forest.ContentTellsKind`: nodes of two forests that are compared by one hash have one kind
* `Snapshot.KeepsContent`: what a relocation between two snapshots leaves as it was

## Main results

* `Snapshot.relocated_keepsContent`: all relocations between two snapshots
* `Snapshot.relocated_to_same_path`: a relocation that leads from a path to itself
-/

namespace CodeOutline

open Diff

/-- Nodes of two forests that are compared by one hash have one kind. -/
def Forest.ContentTellsKind (old new : Forest) : Prop :=
  ∀ a ∈ old.entries, ∀ b ∈ new.entries, a.hash.isSome = true → a.hash = b.hash →
    a.node.kind = b.node.kind

instance (old new : Forest) : Decidable (old.ContentTellsKind new) :=
  inferInstanceAs (Decidable (∀ a ∈ old.entries, ∀ b ∈ new.entries, _))

namespace Snapshot

variable {before after : Snapshot} {options : DiffOptions} {r : Relocation}

theorem nodup_entries_forest (snapshot : Snapshot) :
    (snapshot.forest.entries.map Entry.id).Nodup :=
  Forest.nodup_entries_ids (rooted_forest snapshot).nodup_preorder

theorem exists_of_mem_relocated
    (hr : r ∈ (between options before.forest after.forest).relocated) :
    ∃ a ∈ before.forest.entries, ∃ b ∈ after.forest.entries, a.identity ≠ b.identity ∧
      (∃ hash, a.hash = some hash ∧ b.hash = some hash) ∧
      r = ⟨a.node, b.node, .classify options.moveDetection a.node b.node, .exact⟩ :=
  (explains_pairs (nodup_entries_forest before) (nodup_entries_forest after)
    options).exists_of_mem_relocated hr

/-- A relocation leads from a node of an old forest to one of a new forest with the same content and
another kind or path. -/
structure KeepsContent (before after : Snapshot) (r : Relocation) (id id' : NodeId) : Prop where
  old_node : before.forest.node? id = some r.old
  new_node : after.forest.node? id' = some r.new
  hash_eq : ∃ hash, before.forest.comparableHash? id = some hash ∧
    after.forest.comparableHash? id' = some hash
  path_ne : r.old.kind = r.new.kind → r.old.path ≠ r.new.path
  /-- two elements have source text, and their words have one hash -/
  elements : r.old.kind.isContainer = false → r.new.kind.isContainer = false →
    ∃ e ∈ before.elements, ∃ e' ∈ after.elements,
      e.kind.ShownAs r.old.kind ∧ e'.kind.ShownAs r.new.kind ∧
      r.old.name = e.name ∧ r.new.name = e'.name ∧
      Text.trim e.content.toList ≠ [] ∧ Text.trim e'.content.toList ≠ [] ∧
      contentHash (CodeElement.normalSource e.content) =
        contentHash (CodeElement.normalSource e'.content)

/-- **What is relocated keeps its content**, and where content tells the kind, it keeps its kind and
has another path. -/
theorem relocated_keepsContent (options : DiffOptions) (before after : Snapshot) :
    let relocated := (between options before.forest after.forest).relocated
    (∀ r ∈ relocated, ∃ id id', KeepsContent before after r id id') ∧
      (before.forest.ContentTellsKind after.forest →
        ∀ r ∈ relocated, r.old.kind = r.new.kind ∧ r.old.path ≠ r.new.path) := by
  intro relocated
  have hpath : ∀ {a b : Entry}, a.identity ≠ b.identity → a.node.kind = b.node.kind →
      a.node.path ≠ b.node.path := fun hne hkind hpath =>
    hne (by rw [Entry.identity, Entry.identity, Node.identity, Node.identity, hkind, hpath])
  constructor
  · intro r hr
    obtain ⟨a, ha, b, hb, hne, ⟨hash, hhash, hhash'⟩, rfl⟩ := exists_of_mem_relocated hr
    obtain ⟨-, hold, hcompare⟩ := Forest.mem_entries.1 ha
    obtain ⟨-, hnew, hcompare'⟩ := Forest.mem_entries.1 hb
    rw [hhash] at hcompare
    rw [hhash'] at hcompare'
    refine ⟨a.id, b.id, hold, hnew, ⟨hash, hcompare.symm, hcompare'.symm⟩, hpath hne, ?_⟩
    intro hkind hkind'
    obtain ⟨e, he, hkindOf, hname, hsource, hwords⟩ :=
      exists_element_of_comparableHash? hold hkind hcompare.symm
    obtain ⟨e', he', hkindOf', hname', hsource', hwords'⟩ :=
      exists_element_of_comparableHash? hnew hkind' hcompare'.symm
    exact ⟨e, he, e', he', hkindOf, hkindOf', hname, hname', hsource, hsource',
      hwords.trans hwords'.symm⟩
  · intro htells r hr
    obtain ⟨a, ha, b, hb, hne, ⟨hash, hhash, hhash'⟩, rfl⟩ := exists_of_mem_relocated hr
    have hkind := htells a ha b hb (by rw [hhash]; rfl) (hhash.trans hhash'.symm)
    exact ⟨hkind, hpath hne hkind⟩

/-- A function goes from one file to another. -/
theorem relocated_keepsContent_moved :
    let foo : CodeElement := ⟨"foo", .function, 1, 0, false, "return 1", [], []⟩
    let before := Snapshot.empty.insert "a.ts" ⟨[foo], "aaaa"⟩
    let after := Snapshot.empty.insert "b.ts" ⟨[foo], "bbbb"⟩
    let relocated := (between .standard before.forest after.forest).relocated
    before.forest.ContentTellsKind after.forest ∧ relocated.length = 1 ∧
      (∀ r ∈ relocated, ∃ id id', KeepsContent before after r id id') ∧
      ∀ r ∈ relocated, r.old.kind = r.new.kind ∧ r.old.path ≠ r.new.path := by
  intro foo before after relocated
  have htells : before.forest.ContentTellsKind after.forest := by decide +kernel
  obtain ⟨hkeeps, hpaths⟩ := relocated_keepsContent .standard before after
  exact ⟨htells, by decide +kernel, hkeeps, hpaths htells⟩

/-- A function becomes a class, and its source text stays: this is reported as a relocation from the
path to itself. -/
theorem relocated_to_same_path :
    let foo (kind : ElementKind) : CodeElement := ⟨"Foo", kind, 1, 0, false, "return 1", [], []⟩
    let before := Snapshot.empty.insert "a.ts" ⟨[foo .function], "aaaa"⟩
    let after := Snapshot.empty.insert "a.ts" ⟨[foo .classType], "aaaa"⟩
    ∃ r ∈ (between .standard before.forest after.forest).relocated,
      r.old.kind ≠ r.new.kind ∧ r.old.path = r.new.path := by
  intro foo before after
  decide +kernel

end Snapshot

end CodeOutline
