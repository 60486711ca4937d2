import CodeOutline.Proofs.Command.Inputs
import CodeOutline.Proofs.Diff.Refactorings
import CodeOutline.Proofs.Outline.Legality
import CodeOutline.Proofs.Snapshot.Links
import Mathlib.Data.List.Forall2

/-!
# Two renderings of one difference

A difference is told in lines, for people, and in records, for programs. Both go through the changes
class by class, so the line and the record at one place tell of one change: the line opens with the
words of the class that the record has as its type, and shows the kind, the name and the path that
the record holds. A refactoring is told by the file it is in, and its line has no kind and no path.

A refactoring is only guessed where something was added or removed. So a difference between two
forests that has no exact change has no line at all, and a comparison says that there is no
structural change exactly when it has nothing else to say.

## Main definitions

* `Diff.Item`: a change of any class, and `Diff.items`: the changes of a difference in order
* `Diff.Item.ToldBy`, `Diff.Item.RecordedBy`: a line and a record are about a change
* `Diff.opening`: the words that a line of a class opens with
* `Diff.RendersAlike`: lines and records tell of the same changes

## Main results

* `Diff.rendersAlike`: the two renderings of any difference
* `Diff.renderings_agree`: the same, and what a comparison of two forests says
-/

namespace CodeOutline.Diff

variable {diff : Diff} {options : DiffOptions} {old new : Forest}

/-- A change of any class. -/
inductive Item where
  | added (node : Node)
  | removed (node : Node)
  | modified (modification : Modification)
  | relocated (relocation : Relocation)
  | guessed (refactoring : Refactoring)

/-- The changes of a difference, class by class. -/
def items (diff : Diff) : List Item :=
  diff.added.map .added ++ diff.removed.map .removed ++ diff.modified.map .modified
    ++ diff.relocated.map .relocated ++ diff.refactorings.map .guessed

/-- The words that a line of a class opens with. -/
def opening : ChangeType → String
  | .add => "+ Added "
  | .remove => "- Removed "
  | .modify => "~ Modified "
  | .rename => "→ Renamed "
  | .move => "⇢ Moved "
  | .refactor => "⟳ Refactor in "

namespace Item

/-- The class of a change. -/
def type : Item → ChangeType
  | .added _ => .add
  | .removed _ => .remove
  | .modified _ => .modify
  | .relocated ⟨_, _, .rename, _⟩ => .rename
  | .relocated ⟨_, _, .move, _⟩ => .move
  | .guessed _ => .refactor

/-- The node a change is about: as it is now, or as it was if it was removed. -/
def node : Item → Node
  | .added node | .removed node => node
  | .modified modification => modification.after
  | .relocated relocation => relocation.new
  | .guessed refactoring => refactoring.subject

/-- A line is about a change. -/
inductive ToldBy : Item → String → Prop where
  | added (n : Node) :
    ToldBy (.added n) ("+ Added " ++ n.kind.label ++ " " ++ n.name ++ " at " ++ n.path)
  | removed (n : Node) :
    ToldBy (.removed n) ("- Removed " ++ n.kind.label ++ " " ++ n.name ++ " from " ++ n.path)
  | modified (m : Modification) :
    ToldBy (.modified m) ("~ Modified " ++ m.after.kind.label ++ " " ++ m.after.name ++ " at " ++
      m.after.path)
  | renamed (old new : Node) (confidence : Confidence) :
    ToldBy (.relocated ⟨old, new, .rename, confidence⟩)
      ("→ Renamed " ++ new.kind.label ++ " " ++ old.name ++ " to " ++ new.name ++ " (" ++
        new.path ++ ")")
  | moved (old new : Node) (confidence : Confidence) :
    ToldBy (.relocated ⟨old, new, .move, confidence⟩)
      ("⇢ Moved " ++ new.kind.label ++ " " ++ new.name ++ " from " ++ old.path ++ " to " ++
        new.path)
  | extracted (file : String) (subject : Node) (related : List String) (confidence : Confidence) :
    ToldBy (.guessed ⟨.extract, file, subject, related, confidence⟩)
      ("⟳ Refactor in " ++ file ++ ": " ++ subject.name ++ " extracted from " ++
        ", ".intercalate related ++ " (confidence " ++ confidence.fixed ++ ")")
  | inlined (file : String) (subject : Node) (related : List String) (confidence : Confidence) :
    ToldBy (.guessed ⟨.inline, file, subject, related, confidence⟩)
      ("⟳ Refactor in " ++ file ++ ": " ++ subject.name ++ " inlined into " ++
        ", ".intercalate related ++ " (confidence " ++ confidence.fixed ++ ")")
  | split (file : String) (subject : Node) (related : List String) (confidence : Confidence) :
    ToldBy (.guessed ⟨.split, file, subject, related, confidence⟩)
      ("⟳ Refactor in " ++ file ++ ": " ++ subject.name ++ " split into " ++
        ", ".intercalate related ++ " (confidence " ++ confidence.fixed ++ ")")

/-- A record is about a change. -/
structure RecordedBy (item : Item) (record : Change) : Prop where
  type_eq : record.type = item.type
  kind_eq : record.kind = item.node.kind
  name_eq : record.name = item.node.name
  path_eq : record.path = item.node.path
  ends_eq : ∀ r, item = .relocated r →
    record.ends = some ⟨r.old.path, r.new.path, r.old.name, r.new.name⟩
  guess_eq : ∀ r, item = .guessed r →
    record.refactoring = some r.kind ∧ record.related = r.related ∧ record.confidence = r.confidence

/-- The line of a change. -/
def line : Item → String
  | .added node => describeAdded node
  | .removed node => describeRemoved node
  | .modified modification => describeModified modification
  | .relocated relocation => describeRelocated relocation
  | .guessed refactoring => describeRefactoring refactoring

/-- The record of a change. -/
def record : Item → Change
  | .added node => .ofNode .add node
  | .removed node => .ofNode .remove node
  | .modified modification => .ofNode .modify modification.after
  | .relocated relocation => .ofRelocation relocation
  | .guessed refactoring => .ofRefactoring refactoring

/-! ### One change -/

theorem toldBy_line (item : Item) : item.ToldBy item.line := by
  match item with
  | .added n =>
    rw [line, describeAdded, Node.label, ← String.append_assoc, ← String.append_assoc]
    exact .added n
  | .removed n =>
    rw [line, describeRemoved, Node.label, ← String.append_assoc, ← String.append_assoc]
    exact .removed n
  | .modified m =>
    rw [line, describeModified, Node.label, ← String.append_assoc, ← String.append_assoc]
    exact .modified m
  | .relocated ⟨old, new, .rename, confidence⟩ => exact .renamed old new confidence
  | .relocated ⟨old, new, .move, confidence⟩ =>
    rw [line, describeRelocated, Node.label, ← String.append_assoc, ← String.append_assoc]
    exact .moved old new confidence
  | .guessed ⟨.extract, file, subject, related, confidence⟩ =>
    change ToldBy _ (describeRefactoring _)
    delta describeRefactoring
    exact .extracted file subject related confidence
  | .guessed ⟨.inline, file, subject, related, confidence⟩ =>
    change ToldBy _ (describeRefactoring _)
    delta describeRefactoring
    exact .inlined file subject related confidence
  | .guessed ⟨.split, file, subject, related, confidence⟩ =>
    change ToldBy _ (describeRefactoring _)
    delta describeRefactoring
    exact .split file subject related confidence

theorem type_ofRelocation (relocation : Relocation) :
    (Change.ofRelocation relocation).type = type (.relocated relocation) := by
  match relocation with
  | ⟨_, _, .rename, _⟩ | ⟨_, _, .move, _⟩ => rfl

theorem recordedBy_record (item : Item) : item.RecordedBy item.record := by
  cases item with
  | added | removed | modified =>
    exact ⟨rfl, rfl, rfl, rfl, fun _ h => (by cases h), fun _ h => (by cases h)⟩
  | relocated r =>
    refine ⟨type_ofRelocation r, rfl, rfl, rfl, fun r' h => ?_, fun _ h => (by cases h)⟩
    obtain rfl := relocated.inj h
    rfl
  | guessed r =>
    refine ⟨rfl, rfl, rfl, rfl, fun _ h => (by cases h), fun r' h => ?_⟩
    obtain rfl := guessed.inj h
    exact ⟨rfl, rfl, rfl⟩

/-- A line opens with the words of its class. -/
theorem ToldBy.exists_eq {item : Item} {line : String} (h : item.ToldBy line) :
    ∃ rest, line = opening item.type ++ rest := by
  cases h <;> simp only [String.append_assoc, type, opening, String.append_right_inj, exists_eq']

end Item

/-- The words of no two classes have a common start. -/
theorem eq_of_startsWith_opening {type other : ChangeType} {rest : List Char}
    (h : (opening type).toList <+: (opening other).toList ++ rest) : type = other := by
  -- the first characters differ
  cases type <;> cases other <;> first | rfl | simp [opening] at h

/-- A line opens with the words of its own class only. -/
theorem Item.ToldBy.opening_prefix_iff {item : Item} {line : String} (h : item.ToldBy line)
    (type : ChangeType) : (opening type).toList <+: line.toList ↔ item.type = type := by
  obtain ⟨rest, rfl⟩ := h.exists_eq
  rw [String.toList_append]
  constructor
  · exact fun hprefix => (eq_of_startsWith_opening hprefix).symm
  · rintro rfl
    exact List.prefix_append _ _

/-! ### All changes -/

theorem describe_eq (diff : Diff) : diff.describe = diff.items.map Item.line := by
  simp only [describe, items, List.map_append, List.map_map]
  rfl

theorem changes_eq (diff : Diff) : diff.changes = diff.items.map Item.record := by
  simp only [changes, items, List.map_append, List.map_map]
  rfl

theorem length_items (diff : Diff) :
    diff.items.length = diff.totalChanges + diff.refactorings.length := by
  simp only [items, totalChanges, List.length_append, List.length_map]

/-- Lines and records tell of the same changes, one by one. -/
structure RendersAlike (diff : Diff) : Prop where
  length_lines : diff.describe.length = diff.totalChanges + diff.refactorings.length
  length_records : diff.changes.length = diff.totalChanges + diff.refactorings.length
  lines : List.Forall₂ Item.ToldBy diff.items diff.describe
  records : List.Forall₂ Item.RecordedBy diff.items diff.changes
  /-- a line opens with the words of a class exactly where the record is of that class -/
  openings : List.Forall₂ (fun line (record : Change) =>
    ∀ type, (opening type).toList <+: line.toList ↔ record.type = type) diff.describe diff.changes

theorem rendersAlike (diff : Diff) : diff.RendersAlike where
  length_lines := by rw [describe_eq, List.length_map, length_items]
  length_records := by rw [changes_eq, List.length_map, length_items]
  lines := by
    rw [describe_eq, List.forall₂_map_right_iff, List.forall₂_same]
    exact fun item _ => item.toldBy_line
  records := by
    rw [changes_eq, List.forall₂_map_right_iff, List.forall₂_same]
    exact fun item _ => item.recordedBy_record
  openings := by
    rw [describe_eq, changes_eq, List.forall₂_map_left_iff, List.forall₂_map_right_iff,
      List.forall₂_same]
    intro item _ type
    rw [item.toldBy_line.opening_prefix_iff, item.recordedBy_record.type_eq]

/-! ### Differences between forests -/

/-- Nothing is guessed where nothing was added or removed. -/
theorem refactorings_between_eq_nil (hadded : (between options old new).added = [])
    (hremoved : (between options old new).removed = []) :
    (between options old new).refactorings = [] := by
  change (if options.detectRefactorings then Refactoring.detect (between options old new).added
    (between options old new).removed (between options old new).modified else []) = []
  rw [hadded, hremoved]
  split <;> rfl

/-- Without an exact change there is no line, and the other way round. -/
theorem isEmpty_between_iff (options : DiffOptions) (old new : Forest) :
    (between options old new).isEmpty = true ↔ (between options old new).describe = [] := by
  simp only [isEmpty, describe, Bool.and_eq_true, List.isEmpty_iff, List.append_eq_nil_iff,
    List.map_eq_nil_iff]
  constructor
  · rintro ⟨⟨⟨hadded, hremoved⟩, hmodified⟩, hrelocated⟩
    exact ⟨⟨⟨⟨hadded, hremoved⟩, hmodified⟩, hrelocated⟩,
      refactorings_between_eq_nil hadded hremoved⟩
  · exact fun h => h.1

/-- No line of a difference says that there is nothing to tell. -/
theorem notMem_describe (diff : Diff) : "No structural changes" ∉ diff.describe := by
  intro hmem
  rw [describe_eq, List.mem_map] at hmem
  obtain ⟨item, -, hline⟩ := hmem
  obtain ⟨rest, hrest⟩ := item.toldBy_line.exists_eq
  rw [hline] at hrest
  -- the line would have to start with the sign of its class
  have hchars := congrArg String.toList hrest
  cases htype : item.type <;> simp [htype, opening] at hchars

open Command in
/-- A walk through a forest that is read visits no node twice, so each is compared once. -/
theorem nodup_preorder_of_readForest {settings : Settings} {workspace : Workspace} {path : String}
    {forest : Forest} {remarks : List String}
    (h : readForest settings workspace path = .ok (forest, remarks)) : forest.preorder.Nodup := by
  cases htext : readText workspace path with
  | error error =>
    rw [readForest, htext] at h
    cases h
  | ok text =>
    -- the suffix of its name tells whether a file holds a snapshot
    cases hsuffix : Path.hasSuffix "json" path with
    | false =>
      rw [readForest_of_readText htext hsuffix] at h
      obtain ⟨rfl, -⟩ := Prod.mk.inj (Except.ok.inj h)
      exact (Outline.Reading.rooted_after _ _).nodup_preorder
    | true =>
      rw [readForest, htext] at h
      simp only [hsuffix, bind, Except.bind, if_true] at h
      split at h
      · cases h
      · rename_i snapshot _
        split at h
        · rename_i found hforest
          obtain ⟨rfl, -⟩ := Prod.mk.inj (Except.ok.inj h)
          rw [← Snapshot.forest_eq_of_forest? hforest]
          exact (Snapshot.rooted_forest snapshot).nodup_preorder
        · cases h

open Command in
/-- What a comparison prints as text. -/
theorem answer_runDiff {settings : Settings} {workspace : Workspace} {oldPath newPath : String}
    {remarks moreRemarks : List String} (stamp : Stamp)
    (hold : readForest settings workspace oldPath = .ok (old, remarks))
    (hnew : readForest settings workspace newPath = .ok (new, moreRemarks)) :
    (runDiff { settings with format := .text } workspace stamp oldPath newPath).answer =
      Outcome.lines ((if (between settings.diffOptions old new).isEmpty
          then ["No structural changes"] else []) ++
        (between settings.diffOptions old new).describe) := by
  have hold' : readForest { settings with format := .text } workspace oldPath = _ := hold
  have hnew' : readForest { settings with format := .text } workspace newPath = _ := hnew
  rw [runDiff, hold']
  simp only [hnew', diffAnswer]
  rfl

open Command in
/-- **The lines and the records of a difference agree place by place**, and a difference between two
forests has no line exactly if it has no exact change. So a comparison says that there are no
structural changes exactly when it says nothing else. The forests it compares are those that a
difference is meant for: walks through them visit no node twice. -/
theorem renderings_agree :
    (∀ diff : Diff, diff.RendersAlike) ∧
    (∀ options old new, (between options old new).isEmpty = true ↔
      (between options old new).describe = []) ∧
    ∀ (settings : Settings) workspace stamp oldPath newPath old new remarks moreRemarks,
      readForest settings workspace oldPath = .ok (old, remarks) →
      readForest settings workspace newPath = .ok (new, moreRemarks) →
      let diff := between settings.diffOptions old new
      old.preorder.Nodup ∧ new.preorder.Nodup ∧ ∃ printed,
        (runDiff { settings with format := .text } workspace stamp oldPath newPath).answer =
          String.join (printed.map (· ++ "\n")) ∧
        (diff.isEmpty = true → printed = ["No structural changes"]) ∧
        (diff.isEmpty = false →
          printed = diff.describe ∧ printed ≠ [] ∧ "No structural changes" ∉ printed) := by
  refine ⟨rendersAlike, isEmpty_between_iff, ?_⟩
  intro settings workspace stamp oldPath newPath old new remarks moreRemarks hold hnew diff
  have hlines := isEmpty_between_iff settings.diffOptions old new
  refine ⟨nodup_preorder_of_readForest hold, nodup_preorder_of_readForest hnew, _,
    answer_runDiff stamp hold hnew, fun hempty => ?_, fun hchanged => ?_⟩
  · rw [if_pos hempty, hlines.1 hempty, List.append_nil]
  · have hdescribed : diff.describe ≠ [] := fun hnil =>
      Bool.eq_false_iff.1 hchanged (hlines.2 hnil)
    rw [if_neg (Bool.eq_false_iff.1 hchanged), List.nil_append]
    exact ⟨rfl, hdescribed, notMem_describe diff⟩

open Command in
/-- Between an outline of one file and one of two files there is a structural change. -/
theorem renderings_agree_second_file :
    let workspace : Workspace := ⟨fun path =>
      .ok ([97, 46, 116, 115] ++ if path = "new" then [10, 98, 46, 116, 115] else [])⟩
    let old := (Outline.ofText 2 "a.ts").forest
    let new := (Outline.ofText 2 "a.ts\nb.ts").forest
    readForest .standard workspace "old" = .ok (old, []) ∧
      readForest .standard workspace "new" = .ok (new, []) ∧
      (between .standard old new).isEmpty = false ∧
      (∃ printed,
        (runDiff .standard workspace ⟨fun _ => "", ""⟩ "old" "new").answer =
          String.join (printed.map (· ++ "\n")) ∧
        printed = (between .standard old new).describe ∧ printed ≠ [] ∧
        "No structural changes" ∉ printed) ∧
      (runDiff .standard workspace ⟨fun _ => "", ""⟩ "old" "new").answer =
        "+ Added file b.ts at b.ts\n" := by
  intro workspace old new
  have holdText : readText workspace "old" = .ok "a.ts" := by
    refine readText_of_decode? rfl ?_
    simp [Utf8.decode?, Utf8.pieces, Utf8.piecesFrom, Utf8.piecesFrom.start]
  have hnewText : readText workspace "new" = .ok "a.ts\nb.ts" := by
    refine readText_of_decode? rfl ?_
    simp [Utf8.decode?, Utf8.pieces, Utf8.piecesFrom, Utf8.piecesFrom.start]
  have hold : readForest .standard workspace "old" = .ok (old, []) := by
    rw [readForest_of_readText holdText (by decide +kernel)]
    decide +kernel
  have hnew : readForest .standard workspace "new" = .ok (new, []) := by
    rw [readForest_of_readText hnewText (by decide +kernel)]
    decide +kernel
  have hchanged : (between .standard old new).isEmpty = false := by decide +kernel
  have hdescribed : (between .standard old new).describe = ["+ Added file b.ts at b.ts"] := by
    decide +kernel
  obtain ⟨-, -, printed, hanswer, -, hprinted⟩ := renderings_agree.2.2 .standard workspace
    ⟨fun _ => "", ""⟩ "old" "new" old new [] [] hold hnew
  have hlines : printed = ["+ Added file b.ts at b.ts"] :=
    (hprinted hchanged).1.trans hdescribed
  refine ⟨hold, hnew, hchanged, ⟨printed, hanswer, hprinted hchanged⟩, hanswer.trans ?_⟩
  rw [hlines]
  decide +kernel

end CodeOutline.Diff
