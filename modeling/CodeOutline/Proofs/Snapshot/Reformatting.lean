import CodeOutline.Proofs.Diff.Likeness
import CodeOutline.Proofs.Snapshot.Links
import CodeOutline.Proofs.Text.Words

/-!
# Source text laid out anew

Formatting tools break lines, indent them and align what stands in them. Of the source text of an
element a snapshot's forest keeps a hash alone, and that is taken of the words with single spaces
between them, in small letters. So two snapshots whose source texts have the same words describe one
forest, whatever else the source texts hold, and nothing changes from the one to the other.

## Main definitions

* `CodeElement.Reformats`, `FileFacts.Reformats`, `Snapshot.Reformats`: elements, files and
  snapshots that differ in the layout of source texts at most

## Main results

* `CodeElement.hash_eq`: the hash of an element, by the small form of its words
* `Snapshot.forest_reformatted`: one forest, and nothing that changes
-/

namespace CodeOutline

variable {a b : CodeElement} {forest : Forest}

/-! ### One source text -/

namespace CodeElement

theorem toList_normalSource (source : String) :
    (normalSource source).toList = [' '].intercalate (Text.words source.toList) := by
  rw [normalSource, String.toList_intercalate, List.map_map]
  simp [Function.comp_def]

theorem trim_normalSource (source : String) :
    Text.trim (normalSource source).toList = (normalSource source).toList := by
  rw [toList_normalSource]
  exact Text.trim_intercalate fun _ => Text.of_mem_words

theorem normalText_normalSource (source : String) :
    normalText (normalSource source) = Text.lowercase (normalSource source) := by
  rw [normalText, trim_normalSource, Text.lowercase]

/-- Only of a text that is nothing but blanks nothing is left. -/
theorem lowercase_normalSource_eq_empty_iff (source : String) :
    Text.lowercase (normalSource source) = "" ↔ (Text.trim source.toList).isEmpty = true := by
  rw [Text.lowercase, String.ofList_eq_empty_iff, Text.lower_eq_nil_iff, toList_normalSource,
    Text.intercalate_eq_nil_iff [' '] fun _ hword => (Text.of_mem_words hword).1, List.isEmpty_iff,
    Text.trim_eq_nil_iff, Text.words_eq_nil_iff]

/-- The hash of an element depends on the small form of its words alone. -/
theorem hash_eq (element : CodeElement) :
    element.hash =
      let text := Text.lowercase (normalSource element.content)
      if text = "" then "" else digestText text := by
  simp only [hash, contentHash, normalText_normalSource, lowercase_normalSource_eq_empty_iff]

/-- The two elements differ in the layout of their source text at most: the source texts have the
same words, in the same order, with letter case left aside. -/
structure Reformats (a b : CodeElement) : Prop where
  rest_eq : b = { a with content := b.content }
  words_eq : Text.lowercase (normalSource a.content) = Text.lowercase (normalSource b.content)

namespace Reformats

variable (h : a.Reformats b)
include h

theorem hash_eq_hash : a.hash = b.hash := by
  rw [hash_eq, hash_eq, h.words_eq]

/-- Elements with the same words have one node. -/
theorem node?_eq (filePath : String) : a.node? filePath = b.node? filePath := by
  have hhash := h.hash_eq_hash
  rw [h.rest_eq] at hhash ⊢
  simp only [node?, node, hhash]
  rfl

end Reformats

theorem filterMap_node?_eq {elements elements' : List CodeElement}
    (h : List.Forall₂ Reformats elements elements') (filePath : String) :
    elements.filterMap (·.node? filePath) = elements'.filterMap (·.node? filePath) := by
  induction h with
  | nil => rfl
  | cons helement _ ih => simp only [List.filterMap_cons, helement.node?_eq, ih]

end CodeElement

/-! ### Files -/

/-- The elements of the two files differ in the layout of their source texts at most. -/
structure FileFacts.Reformats (a b : FileFacts) : Prop where
  contentHash_eq : a.contentHash = b.contentHash
  elements : List.Forall₂ CodeElement.Reformats a.elements b.elements

namespace FileFacts.Reformats

variable {facts facts' : FileFacts} (h : facts.Reformats facts')
include h

theorem cannotCut_eq : facts.cannotCut = facts'.cannotCut := by
  rw [cannotCut, h.contentHash_eq, cannotCut]

/-- Files with the same words add the same nodes. -/
theorem addFile_eq (forest : Forest) (path : String) :
    Snapshot.addFile forest path facts = Snapshot.addFile forest path facts' := by
  have hnode (segments : List String) (name : String) :
      Snapshot.fileNode segments name facts = Snapshot.fileNode segments name facts' := by
    rw [Snapshot.fileNode, hash, h.contentHash_eq, Snapshot.fileNode, hash]
  simp only [Snapshot.addFile, hnode, CodeElement.filterMap_node?_eq h.elements]

end FileFacts.Reformats

/-! ### Snapshots -/

namespace Snapshot

variable {files files' : List (String × FileFacts)}

/-- The two files have one path, and differ in the layout of their source text at most. -/
def ReformatsFile (file file' : String × FileFacts) : Prop :=
  file.1 = file'.1 ∧ file.2.Reformats file'.2

/-- The two snapshots have the same files, and differ in the layout of source texts at most. -/
def Reformats (before after : Snapshot) : Prop :=
  List.Forall₂ ReformatsFile before.files after.files

theorem foldl_addFile_eq (h : List.Forall₂ ReformatsFile files files') (forest : Forest) :
    files.foldl (fun forest (path, facts) => addFile forest path facts) forest =
      files'.foldl (fun forest (path, facts) => addFile forest path facts) forest := by
  induction h generalizing forest with
  | nil => rfl
  | cons hfile _ ih =>
    simp only [List.foldl_cons, hfile.1, hfile.2.addFile_eq]
    exact ih _

theorem any_cannotCut_eq (h : List.Forall₂ ReformatsFile files files') :
    (files.any fun (path, facts) => !(Path.segments path).isEmpty && facts.cannotCut) =
      files'.any fun (path, facts) => !(Path.segments path).isEmpty && facts.cannotCut := by
  induction h with
  | nil => rfl
  | cons hfile _ ih => simp only [List.any_cons, hfile.1, hfile.2.cannotCut_eq, ih]

/-- **Laying out source text anew shows nowhere.** Two snapshots with the same files, hashes and
elements, of which the source texts have the same words in the same order, up to letter case,
describe one forest, and nothing changes from the one to the other. -/
theorem forest_reformatted (options : DiffOptions) {before after : Snapshot}
    (h : before.Reformats after) :
    before.forest = after.forest ∧ before.forest? = after.forest? ∧
      Diff.between options before.forest after.forest = .empty := by
  have hforest : before.forest = after.forest := by
    rw [forest_eq, bareForest, foldl_addFile_eq h, forest_eq, bareForest]
  refine ⟨hforest, by rw [forest?, any_cannotCut_eq h, hforest, forest?], ?_⟩
  exact Diff.between_eq_empty_of_contents_eq (rooted_forest before) (rooted_forest after)
    (congrArg Forest.contents hforest) options

/-- Two methods of one name and a function without source text, laid out anew. -/
theorem forest_reformatted_methods :
    let element (kind : ElementKind) (content : String) : CodeElement :=
      ⟨"f", kind, 1, 0, true, content, ["g", "f"], []⟩
    let before := Snapshot.empty.insert "src/a.ts" ⟨[element .method "f(x)\n  return ΟΔΟΣ;\n",
      element .method "f() return 1", element .function "\t"], "AAAA"⟩
    let after := Snapshot.empty.insert "src/a.ts" ⟨[element .method "\u00a0F(x)\treturn οδος;",
      element .method "f()\r\n  return 1\n", element .function ""], "AAAA"⟩
    before.files ≠ after.files ∧ before.forest = after.forest ∧
      Diff.between .standard before.forest after.forest = .empty := by
  intro element before after
  have helement (kind : ElementKind) (content content' : String)
      (hwords : Text.lowercase (CodeElement.normalSource content) =
        Text.lowercase (CodeElement.normalSource content')) :
      (element kind content).Reformats (element kind content') :=
    ⟨rfl, hwords⟩
  have hreformats : before.Reformats after := by
    refine .cons ⟨rfl, rfl, .cons ?_ (.cons ?_ (.cons ?_ .nil))⟩ .nil
    · exact helement .method _ _ (by decide +kernel)
    · exact helement .method _ _ (by decide +kernel)
    · exact helement .function _ _ (by decide +kernel)
  obtain ⟨hforest, -, hdiff⟩ := forest_reformatted .standard hreformats
  exact ⟨by decide +kernel, hforest, hdiff⟩

end Snapshot

end CodeOutline
