import CodeOutline.Proofs.Diff.Transfer
import CodeOutline.Proofs.Outline.Modifications

/-!
# What is relocated in an outline

Relocations are found by content alone. As far as no hashes collide, the content of a line tells the
kind of its node and the small letters of its name, so a relocation leads between two nodes of one
kind whose names differ in letter case only, and whose paths differ. When such a relocation counts as
a renaming, the container has stayed: then a directory or file has another name, and so has whatever
else stays in its file, if a renaming is told from a move by the owner. By the path in front of the
last slash, what goes from one file to another of the same directory is renamed under the name that
it had; and by the owner, so is what goes into the file whose path was its own.

A function whose name no other function has, before and after, is the one holder of its content. So
when its file is another one, it is reported as moved, whatever else has changed.

## Main definitions

* `Forest.functionsNamed`: the functions of a name
* `Forest.HasOnlyFunction`: a function is the only one of its name

## Main results

* `Outline.path_eq_of_container_eq`: kind, name and container make up a path
* `Outline.relocated_keepsSubject`: what a relocation leaves as it was
* `Outline.onlyRelocates_function`: the only function of a name is moved with its file
-/

namespace CodeOutline

open Diff

/-- What stands before the last slash of a text without one. -/
theorem Path.directory_of_notMem {name : String} (hname : '/' ∉ name.toList) :
    directory name = "" := by
  have hkeep : ∀ c ∈ name.toList.reverse, (c != '/') = true := fun c hc =>
    bne_iff_ne.2 fun h => hname (h ▸ List.mem_reverse.1 hc)
  rw [directory, dropSegment, List.dropWhile_eq_nil_iff.2 hkeep]
  rfl

namespace Outline

open Reading

variable {forest forest' : Forest} {options : DiffOptions} {detection : MoveDetection}
  {width width' id id' : Nat} {text text' : String} {node a b : Node} {r : Relocation}

/-! ### The container of a node -/

/-- A directory or file has its name behind the path of its directory. -/
theorem WellPlaced.path_eq_directory (h : WellPlaced forest) (hnode : forest.node? id = some node)
    (hkind : node.kind.isContainer = true) :
    node.path = if Path.directory node.path = "" then node.name
      else Path.directory node.path ++ "/" ++ node.name := by
  have hslash := (h.names id node hnode).slash_notMem hkind
  cases hparent : forest.parent? id with
  | none => rw [h.path_eq_name hnode hparent, Path.directory_of_notMem hslash, if_pos rfl]
  | some p =>
    obtain ⟨above, habove, hdir, hpath⟩ := h.exists_directory_path hnode hkind hparent
    have hcontainer : above.kind.isContainer = true := by rw [hdir]; rfl
    have hne := h.containerPath_ne_empty habove hcontainer
    rw [h.containerPath_eq habove hcontainer] at hne
    rw [hpath, Path.directory_append _ hslash, if_neg hne]

/-- What stands in a file has its name behind the path of the file, and what stands on its own has
its name for a path. -/
theorem WellPlaced.path_eq_owningFile (h : WellPlaced forest) (hnode : forest.node? id = some node)
    (hkind : node.kind.isContainer = false) :
    node.path = if (forest.parent? id).isSome then node.owningFilePath ++ "#" ++ node.name
      else node.name := by
  cases hparent : forest.parent? id with
  | none => exact h.path_eq_name hnode hparent
  | some p =>
    obtain ⟨file, hfile, hkindFile, hpath⟩ := h.exists_file hnode hkind hparent
    rw [Node.owningFilePath, hpath, h.owningFile_append hfile hkindFile]
    rfl

/-- Kind, name and container make up the path of a directory or file, and if the container is told by
the owner, also of two nodes that stand in a file, or of two that do not. -/
theorem path_eq_of_container_eq (h : WellPlaced forest) (h' : WellPlaced forest')
    (ha : forest.node? id = some a) (hb : forest'.node? id' = some b) (hkind : a.kind = b.kind)
    (hname : a.name = b.name) (hcontainer : a.container detection = b.container detection)
    (hplace : a.kind.isContainer = true ∨ detection = .owningFile ∧
      (forest.parent? id).isSome = (forest'.parent? id').isSome) : a.path = b.path := by
  by_cases hkindA : a.kind.isContainer = true
  · have hkindB : b.kind.isContainer = true := hkind ▸ hkindA
    -- the container of a directory or file is told by the path under both options
    have hdirectory : Path.directory a.path = Path.directory b.path := by
      cases detection <;> simpa [Node.container, hkindA, hkindB] using hcontainer
    rw [h.path_eq_directory ha hkindA, h'.path_eq_directory hb hkindB, hdirectory, hname]
  · have hkindB : ¬ b.kind.isContainer = true := hkind ▸ hkindA
    obtain ⟨rfl, hparents⟩ := hplace.resolve_left hkindA
    have hfile : a.owningFilePath = b.owningFilePath := by
      simpa [Node.container, Node.owningFilePath, hkindA, hkindB] using hcontainer
    rw [h.path_eq_owningFile ha (Bool.eq_false_iff.2 hkindA),
      h'.path_eq_owningFile hb (Bool.eq_false_iff.2 hkindB), hparents, hfile, hname]

/-! ### Relocations -/

/-- A relocation leads from an old node to a new one that has its hash and another identity. -/
theorem exists_of_mem_relocated
    (hr : r ∈ (between options (ofText width text).forest (ofText width' text').forest).relocated) :
    ∃ id id', (ofText width text).forest.node? id = some r.old ∧
      (ofText width' text').forest.node? id' = some r.new ∧ r.old.hash = r.new.hash ∧
      r.old.identity ≠ r.new.identity ∧ r.kind = .classify options.moveDetection r.old r.new := by
  obtain ⟨e, he, e', he', hne, ⟨hash, hsame, hsame'⟩, rfl⟩ :=
    (explains_ofText options width width' text text').exists_of_mem_relocated hr
  obtain ⟨hold, hhash⟩ := mem_entries_ofText.1 he
  obtain ⟨hnew, hhash'⟩ := mem_entries_ofText.1 he'
  refine ⟨e.id, e'.id, hold, hnew, ?_, hne, rfl⟩
  exact Option.some.inj (hhash.symm.trans (hsame.trans (hsame'.symm.trans hhash')))

/-- A relocation leads from a node of an old forest to one of a new forest that is about the same
thing. -/
structure KeepsSubject (detection : MoveDetection) (old new : Forest) (r : Relocation)
    (id id' : NodeId) : Prop where
  old_node : old.node? id = some r.old
  new_node : new.node? id' = some r.new
  kind_eq : r.old.kind = r.new.kind
  lowercase_eq : Text.lowercase r.old.name = Text.lowercase r.new.name
  path_ne : r.old.path ≠ r.new.path
  /-- A renaming of a directory or file changes its name. If a renaming is told from a move by the
  owner, the same is true of two nodes in files, and of two nodes that stand on their own. -/
  rename : r.kind = .rename →
    (r.old.kind.isContainer = true ∨
      detection = .owningFile ∧ (old.parent? id).isSome = (new.parent? id').isSome) →
    r.old.name ≠ r.new.name

/-- **What is relocated stays what it is**, if no hashes collide: its kind and the small letters of
its name do not change, and its path does. -/
theorem relocated_keepsSubject (options : DiffOptions) (width width' : Nat) (text text' : String)
    (hfree : CollisionFree (linesOf text ++ linesOf text')) :
    let old := (ofText width text).forest
    let new := (ofText width' text').forest
    ∀ r ∈ (between options old new).relocated,
      ∃ id id', KeepsSubject options.moveDetection old new r id id' := by
  intro old new r hr
  obtain ⟨id, id', hold, hnew, hhash, hne, hclass⟩ := exists_of_mem_relocated hr
  obtain ⟨hkind, hname⟩ := kind_and_name_eq_of_hash_eq hold hnew hfree
    (List.subset_append_left _ _) (List.subset_append_right _ _) hhash
  have hpath : r.old.path ≠ r.new.path := fun heq => hne (by
    rw [Node.identity, Node.identity, hkind, heq])
  refine ⟨id, id', hold, hnew, hkind, hname, hpath, ?_⟩
  intro hrename hplace hnames
  -- a renaming leaves the container, which makes up the path together with kind and name
  have hcontainer : r.old.container options.moveDetection =
      r.new.container options.moveDetection := by
    rw [hclass, RelocationKind.classify] at hrename
    split at hrename
    · assumption
    · simp at hrename
  exact hpath (path_eq_of_container_eq (wellPlaced_ofText width text)
    (wellPlaced_ofText width' text') hold hnew hkind hnames hcontainer hplace)

/-- A component is spelled with other letters in the place that it had. -/
theorem relocated_keepsSubject_spelling :
    CollisionFree (linesOf "a.ts\n  %Foo" ++ linesOf "a.ts\n  %FOO") ∧
      (between .standard (ofText 2 "a.ts\n  %Foo").forest
          (ofText 2 "a.ts\n  %FOO").forest).relocated.length = 1 ∧
      ∀ r ∈ (between .standard (ofText 2 "a.ts\n  %Foo").forest
          (ofText 2 "a.ts\n  %FOO").forest).relocated,
        ∃ id id', KeepsSubject .owningFile (ofText 2 "a.ts\n  %Foo").forest
          (ofText 2 "a.ts\n  %FOO").forest r id id' := by
  have hfree : CollisionFree (linesOf "a.ts\n  %Foo" ++ linesOf "a.ts\n  %FOO") := by
    decide +kernel
  exact ⟨hfree, by decide +kernel, relocated_keepsSubject .standard 2 2 _ _ hfree⟩

/-- Two renamings leave the name as it was. Told from a move by the path in front of the last slash, a
function is renamed that has gone from one file to another; told by the owner, a reference that stood
on its own under the name of a file, and has gone into that file. -/
theorem rename_of_same_name :
    (CollisionFree (linesOf "a.ts\n  $foo()\n" ++ linesOf "b.ts\n  $foo()\n") ∧
      ∃ r ∈ (between ⟨.pathPrefix, true⟩ (ofText 2 "a.ts\n  $foo()\n").forest
          (ofText 2 "b.ts\n  $foo()\n").forest).relocated,
        r.kind = .rename ∧ r.old.name = r.new.name ∧
          r.old.path = "a.ts#foo" ∧ r.new.path = "b.ts#foo") ∧
    CollisionFree (linesOf "@a.ts" ++ linesOf "a.ts\n  @a.ts") ∧
      ∃ r ∈ (between .standard (ofText 2 "@a.ts").forest
          (ofText 2 "a.ts\n  @a.ts").forest).relocated,
        r.kind = .rename ∧ r.old.name = r.new.name ∧
          r.old.path = "a.ts" ∧ r.new.path = "a.ts#a.ts" := by
  refine ⟨⟨?_, ?_⟩, ?_, ?_⟩
  all_goals decide +kernel

/-! ### The only function of a name -/

end Outline

/-- The functions of a name, in whatever letter case it is written. -/
def Forest.functionsNamed (forest : Forest) (name : String) : List NodeId :=
  (List.range forest.size).filter fun id => (forest.node? id).any fun node =>
    node.kind == .function && Text.lowercase node.name == Text.lowercase name

theorem Forest.mem_functionsNamed {forest : Forest} {name : String} {id : Nat} :
    id ∈ forest.functionsNamed name ↔ ∃ node, forest.node? id = some node ∧
      node.kind = .function ∧ Text.lowercase node.name = Text.lowercase name := by
  rw [functionsNamed, List.mem_filter, List.mem_range, Option.any_eq_true]
  simp only [Bool.and_eq_true, beq_iff_eq]
  refine and_iff_right_of_imp ?_
  rintro ⟨node, hnode, -⟩
  exact lt_size_of_node? hnode

/-- A function is the only one of its name in a forest, and hangs below another node. -/
structure Forest.HasOnlyFunction (forest : Forest) (name : String) (function above : Node)
    (id p : NodeId) : Prop where
  functionsNamed_eq : forest.functionsNamed name = [id]
  node : forest.node? id = some function
  parent : forest.parent? id = some p
  above : forest.node? p = some above

namespace Forest.HasOnlyFunction

variable {forest : Forest} {name : String} {function above node : Node} {id id' p : Nat}
  (h : forest.HasOnlyFunction name function above id p)
include h

theorem kind_and_name_eq :
    function.kind = .function ∧ Text.lowercase function.name = Text.lowercase name := by
  have hmem : id ∈ forest.functionsNamed name := by
    rw [h.functionsNamed_eq]
    exact List.mem_singleton_self id
  obtain ⟨node, hnode, hfacts⟩ := mem_functionsNamed.1 hmem
  obtain rfl : node = function := Option.some.inj (hnode.symm.trans h.node)
  exact hfacts

/-- Another function of the name is the same one. -/
theorem eq_of_name (hnode : forest.node? id' = some node) (hkind : node.kind = .function)
    (hname : Text.lowercase node.name = Text.lowercase name) : id' = id ∧ node = function := by
  have hmem : id' ∈ forest.functionsNamed name := mem_functionsNamed.2 ⟨node, hnode, hkind, hname⟩
  rw [h.functionsNamed_eq, List.mem_singleton] at hmem
  rw [hmem, h.node] at hnode
  exact ⟨hmem, (Option.some.inj hnode).symm⟩

end Forest.HasOnlyFunction

namespace Outline

open Reading

variable {width width' id id' p p' : Nat} {text text' name : String}
  {function function' file file' : Node}

/-- The function is the only node of an outline that has its hash or its identity. -/
theorem eq_of_hash_or_identity_eq {lines : List String} {e : Entry} (hfree : CollisionFree lines)
    (hlines : linesOf text ⊆ lines)
    (h : (ofText width text).forest.HasOnlyFunction name function file id p)
    (he : e ∈ (ofText width text).forest.entries)
    (hsame : e.hash = some function.hash ∨ e.identity = function.identity) :
    e = ⟨id, function, some function.hash⟩ := by
  obtain ⟨hkind, hname⟩ := h.kind_and_name_eq
  obtain ⟨hnode, hhash⟩ := mem_entries_ofText.1 he
  have hsubject : e.node.kind = function.kind ∧
      Text.lowercase e.node.name = Text.lowercase function.name := by
    rcases hsame with hsame | hsame
    -- the hash tells the content of the line, and the path shows the name
    · have heq : e.node.hash = function.hash := Option.some.inj (hhash.symm.trans hsame)
      exact kind_and_name_eq_of_hash_eq hnode h.node hfree hlines hlines heq
    · have hkinds : e.node.kind = function.kind := congrArg Identity.kind hsame
      have hnote : e.node.kind ≠ .note := by simp [hkinds, hkind]
      exact ⟨hkinds, congrArg _ (name_eq_of_identity_eq hnode h.node hnote hsame)⟩
  obtain ⟨hid, heq⟩ := h.eq_of_name hnode (hsubject.1.trans hkind) (hsubject.2.trans hname)
  cases e with
  | mk eid enode ehash =>
    obtain rfl : eid = id := hid
    obtain rfl : enode = function := heq
    exact congrArg (Entry.mk _ _) hhash

/-- The path of a function in a file shows the path of the file. -/
theorem owningFile_path_eq (h : (ofText width text).forest.HasOnlyFunction name function file id p) :
    Path.owningFile function.path = file.path := by
  have hplaced := wellPlaced_ofText width text
  have hkind : function.kind.isContainer = false := by rw [h.kind_and_name_eq.1]; rfl
  obtain ⟨above, habove, hkindAbove, hpath⟩ := hplaced.exists_file h.node hkind h.parent
  obtain rfl : above = file := Option.some.inj (habove.symm.trans h.above)
  rw [hpath, hplaced.owningFile_append habove hkindAbove]

section

variable (hold : (ofText width text).forest.HasOnlyFunction name function file id p)
  (hnew : (ofText width' text').forest.HasOnlyFunction name function' file' id' p')
include hold hnew

/-- Where the function has gone to another file, nothing has its identity any more. -/
theorem identity_ne_of_file_ne (hfiles : file.path ≠ file'.path) :
    ∀ e ∈ (ofText width' text').forest.entries, e.identity ≠ function.identity := by
  intro e he hidentity
  obtain ⟨hkind, hname⟩ := hold.kind_and_name_eq
  obtain ⟨hnode, -⟩ := mem_entries_ofText.1 he
  have hkinds : e.node.kind = function.kind := congrArg Identity.kind hidentity
  have hpaths : e.node.path = function.path := congrArg Identity.path hidentity
  have hnote : e.node.kind ≠ .note := by simp [hkinds, hkind]
  have hnames := name_eq_of_identity_eq hnode hold.node hnote hidentity
  -- it would be the only function of the name in the new outline
  obtain ⟨-, heq⟩ := hnew.eq_of_name hnode (hkinds.trans hkind) (by rw [hnames, hname])
  apply hfiles
  rw [← owningFile_path_eq hold, ← hpaths, heq, owningFile_path_eq hnew]

theorem hash_eq_of_only_function : function.hash = function'.hash := by
  obtain ⟨line, -, hline⟩ := exists_comesFrom hold.node
  obtain ⟨line', -, hline'⟩ := exists_comesFrom hnew.node
  obtain ⟨hkind, hname⟩ := hold.kind_and_name_eq
  obtain ⟨hkind', hname'⟩ := hnew.kind_and_name_eq
  refine hline.hash_eq_of_lowercase_eq hline' ?_ (hkind.trans hkind'.symm) (hname.trans hname'.symm)
  simp [hkind]

/-- The content of the function goes from the one node to the other. -/
theorem transfers_function (hfree : CollisionFree (linesOf text ++ linesOf text'))
    (hfiles : file.path ≠ file'.path) :
    Transfers (ofText width text).forest.entries (ofText width' text').forest.entries
      function.hash ⟨id, function, some function.hash⟩ ⟨id', function', some function'.hash⟩ where
  old_mem := mem_entries_ofText.2 ⟨hold.node, rfl⟩
  new_mem := mem_entries_ofText.2 ⟨hnew.node, rfl⟩
  old_hash := rfl
  new_hash := congrArg some (hash_eq_of_only_function hold hnew).symm
  old_only _ he hsame :=
    eq_of_hash_or_identity_eq hfree (List.subset_append_left _ _) hold he hsame
  new_only _ he hsame := by
    rw [hash_eq_of_only_function hold hnew] at hsame
    exact eq_of_hash_or_identity_eq hfree (List.subset_append_right _ _) hnew he hsame
  old_gone := identity_ne_of_file_ne hold hnew hfiles
  new_free := identity_ne_of_file_ne hnew hold hfiles.symm

end

/-- **The only function of a name is moved with its file**, if no hashes collide: the difference moves
it from its old place to its new one, and says nothing else about either place, whatever else has
changed in the two outlines. -/
theorem onlyRelocates_function (detectRefactorings : Bool) (width width' : Nat)
    (text text' name : String) (function function' file file' : Node) (id id' p p' : NodeId)
    (hfree : CollisionFree (linesOf text ++ linesOf text'))
    (hold : (ofText width text).forest.HasOnlyFunction name function file id p)
    (hnew : (ofText width' text').forest.HasOnlyFunction name function' file' id' p')
    (hfiles : file.path ≠ file'.path) :
    (between ⟨.owningFile, detectRefactorings⟩ (ofText width text).forest
      (ofText width' text').forest).OnlyRelocates ⟨function, function', .move, .exact⟩ := by
  have honly := (transfers_function hold hnew hfree hfiles).onlyRelocates
    (nodup_entries_ofText width text) (nodup_entries_ofText width' text')
    ⟨.owningFile, detectRefactorings⟩
  have hclass : RelocationKind.classify .owningFile function function' = .move := by
    have hkind : function.kind.isContainer = false := by rw [hold.kind_and_name_eq.1]; rfl
    have hkind' : function'.kind.isContainer = false := by rw [hnew.kind_and_name_eq.1]; rfl
    have hcontainer : function.container .owningFile ≠ function'.container .owningFile := by
      simpa [Node.container, hkind, hkind', owningFile_path_eq hold, owningFile_path_eq hnew]
        using hfiles
    rw [RelocationKind.classify, if_neg hcontainer]
  rw [hclass] at honly
  exact honly

/-- A function goes to another file and is spelled with a capital letter there, while a component
comes and another function goes. -/
theorem onlyRelocates_function_spelling :
    let old := (ofText 2 "a.ts\n  $foo()\n  $bar()").forest
    let new := (ofText 2 "b.ts\n  %C\n  $Foo()").forest
    ∃ function function' file file', CollisionFree (linesOf "a.ts\n  $foo()\n  $bar()" ++
        linesOf "b.ts\n  %C\n  $Foo()") ∧
      old.HasOnlyFunction "foo" function file 1 0 ∧ new.HasOnlyFunction "foo" function' file' 2 0 ∧
      file.path ≠ file'.path ∧
      (between .standard old new).OnlyRelocates ⟨function, function', .move, .exact⟩ := by
  intro old new
  have hfree : CollisionFree (linesOf "a.ts\n  $foo()\n  $bar()" ++
      linesOf "b.ts\n  %C\n  $Foo()") := by decide +kernel
  obtain ⟨function, hfunction⟩ := Option.isSome_iff_exists.1
    (by decide +kernel : (old.node? 1).isSome = true)
  obtain ⟨function', hfunction'⟩ := Option.isSome_iff_exists.1
    (by decide +kernel : (new.node? 2).isSome = true)
  obtain ⟨file, hfile, hpath⟩ := Option.map_eq_some_iff.1
    (by decide +kernel : (old.node? 0).map (·.path) = some "a.ts")
  obtain ⟨file', hfile', hpath'⟩ := Option.map_eq_some_iff.1
    (by decide +kernel : (new.node? 0).map (·.path) = some "b.ts")
  have hold : old.HasOnlyFunction "foo" function file 1 0 :=
    ⟨by decide +kernel, hfunction, by decide +kernel, hfile⟩
  have hnew : new.HasOnlyFunction "foo" function' file' 2 0 :=
    ⟨by decide +kernel, hfunction', by decide +kernel, hfile'⟩
  have hfiles : file.path ≠ file'.path := by
    rw [hpath, hpath']
    decide
  exact ⟨function, function', file, file', hfree, hold, hnew, hfiles,
    onlyRelocates_function true 2 2 _ _ "foo" function function' file file' 1 2 0 0 hfree hold hnew
      hfiles⟩

/-- A note can share the path of a function, and go to another file with it: two relocations lead
from the one path to the other. -/
theorem two_relocations_of_one_path :
    let old := (ofText 2 "a.ts\n  $foo()\n  # foo\n").forest
    let new := (ofText 2 "b.ts\n  $foo()\n  # foo\n").forest
    CollisionFree (linesOf "a.ts\n  $foo()\n  # foo\n" ++
        linesOf "b.ts\n  $foo()\n  # foo\n") ∧
      (old.functionsNamed "foo" = [1] ∧ new.functionsNamed "foo" = [1]) ∧
      (old.parent? 1 = some 0 ∧ new.parent? 1 = some 0) ∧
      ((old.node? 0).map (·.path) = some "a.ts" ∧ (new.node? 0).map (·.path) = some "b.ts") ∧
      ((old.node? 1).map (·.path) = some "a.ts#foo" ∧
        (new.node? 1).map (·.path) = some "b.ts#foo") ∧
      ((between .standard old new).relocated.filter fun r =>
        r.old.path = "a.ts#foo" ∧ r.new.path = "b.ts#foo").length = 2 := by
  decide +kernel

end Outline

end CodeOutline
