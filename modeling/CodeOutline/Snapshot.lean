import CodeOutline.Forest

/-!
# Snapshots

A scanner reports, for every file of a code base, the elements it found in it. A snapshot of this
kind describes a forest like an outline does, so that two scans, or a scan and an outline, can be
compared. Directories come from the paths of the files and have no content of their own, so they are
compared by shape. A file is compared by the hash the scanner gives for it, and an element by its
source text, in which the blanks between words do not count.

## Main definitions

* `ElementKind`, `CodeElement`, `FileFacts`, `Snapshot`: what a scanner reports
* `Snapshot.forest`: the forest a snapshot describes
* `Snapshot.forest?`: the same, unless the hash of a file cannot be cut to length
-/

namespace CodeOutline

/-- What a scanner takes an element for. -/
inductive ElementKind where
  | function
  | method
  | component
  | classType
  | binding
  | importClause
  | exportClause
  | other
deriving DecidableEq, Repr

/-- The kind of the node of an element. Some elements are left out of the forest. -/
def ElementKind.nodeKind? : ElementKind → Option NodeKind
  | .function | .method => some .function
  | .component | .classType => some .component
  | _ => none

/-- An element of a source file. -/
structure CodeElement where
  name : String
  kind : ElementKind
  line : Nat
  column : Nat
  isExported : Bool
  /-- the source text -/
  content : String
  calls : List String
  references : List String
deriving DecidableEq, Repr

/-- What a scanner reports about a file. -/
structure FileFacts where
  elements : List CodeElement
  contentHash : String
deriving DecidableEq, Repr

/-- The order of paths. -/
def pathLess (a b : String) : Bool :=
  a < b

/-- What a scanner reports about a code base: its files in order of their paths. -/
structure Snapshot where
  files : List (String × FileFacts)
  ordered : files.Pairwise fun a b => pathLess a.1 b.1 = true

theorem pathLess_trans (a b c : String) (hab : pathLess a b = true) (hbc : pathLess b c = true) :
    pathLess a c = true := by
  simp only [pathLess, decide_eq_true_eq] at *
  exact String.lt_trans hab hbc

theorem pathLess_connected (a b : String) (hne : a ≠ b) (h : pathLess a b = false) :
    pathLess b a = true := by
  simp only [pathLess, decide_eq_true_eq, decide_eq_false_iff_not] at *
  exact Decidable.byContradiction fun hba =>
    hne (String.le_antisymm (String.not_lt.1 hba) (String.not_lt.1 h))

namespace Snapshot

/-- The snapshot without files. -/
def empty : Snapshot := ⟨[], .nil⟩

/-- Adds the facts about a file; they replace earlier ones about the same path. -/
def insert (snapshot : Snapshot) (path : String) (facts : FileFacts) : Snapshot :=
  ⟨Keyed.insert pathLess path facts snapshot.files,
    Keyed.insert_ordered pathLess_trans pathLess_connected path facts snapshot.ordered⟩

end Snapshot

/-! ### Nodes -/

/-- The first characters of a text that fit into so many bytes. -/
def cutBytes : (room : Nat) → List Char → List Char
  | _, [] => []
  | room, c :: cs => if c.utf8Size ≤ room then c :: cutBytes (room - c.utf8Size) cs else []

/-- Cutting a text to so many bytes would cut through a character. -/
def cutsCharacter : (room : Nat) → List Char → Bool
  | _, [] => false
  | room, c :: cs =>
    if c.utf8Size ≤ room then cutsCharacter (room - c.utf8Size) cs else room != 0

namespace FileFacts

/-- The hash of a file as a node carries it: in small letters and cut to length. -/
def hash (facts : FileFacts) : String :=
  String.ofList (cutBytes hashLength (Text.lower facts.contentHash.toList))

/-- The hash of the file has no place to be cut. -/
def cannotCut (facts : FileFacts) : Bool :=
  cutsCharacter hashLength (Text.lower facts.contentHash.toList)

end FileFacts

namespace CodeElement

/-- The source text with single spaces between its words. -/
def normalSource (source : String) : String :=
  " ".intercalate ((Text.words source.toList).map String.ofList)

/-- The hash of an element: that of its source text, and none if there is nothing but blanks. -/
def hash (element : CodeElement) : String :=
  if (Text.trim element.content.toList).isEmpty then ""
  else contentHash (normalSource element.content)

/-- The names an element calls or refers to, each once. -/
def dependencies (element : CodeElement) : List String :=
  (element.calls ++ element.references).eraseDups

/-- The node of an element in the file of a path. -/
def node (element : CodeElement) (kind : NodeKind) (filePath : String) : Node :=
  { Node.named kind element.name with
    path := filePath ++ "#" ++ element.name
    line := element.line
    column := element.column
    level := Path.slashes filePath + 1
    dependencies := element.dependencies
    hash := element.hash }

/-- The node of an element in the file of a path, if it has one. -/
def node? (element : CodeElement) (filePath : String) : Option Node :=
  element.kind.nodeKind?.map fun kind => element.node kind filePath

end CodeElement

/-! ### The forest -/

namespace Snapshot

/-- The directory of a path. -/
def directory? (forest : Forest) (path : String) : Option NodeId :=
  forest.slots.findIdx? fun slot => slot.node.kind == .directory && slot.node.path == path

/-- The node of a directory, below those named by `above`. -/
def directoryNode (above : List String) (name : String) : Node :=
  { Node.named .directory name with
    path := Path.join (above ++ [name])
    level := above.length }

/-- Adds what is missing of a chain of directories below those named by `above`, the innermost of
which is `parent`. The innermost of the chain is returned with the forest. -/
def addDirectories (forest : Forest) (above : List String) (parent : Option NodeId) :
    List String → Forest × Option NodeId
  | [] => (forest, parent)
  | name :: names =>
    let node := directoryNode above name
    match directory? forest node.path with
    | some id => addDirectories forest (above ++ [name]) (some id) names
    | none =>
      addDirectories (forest.grow node parent) (above ++ [name]) (some forest.size) names

/-- The node of a file whose path has these segments, the last of which is its name. -/
def fileNode (segments : List String) (name : String) (facts : FileFacts) : Node :=
  { Node.named .file name with
    path := Path.join segments
    extension := Path.extension? name
    level := Path.slashes (Path.join segments)
    hash := facts.hash }

/-- Adds the nodes of a file and its elements. A path without a name adds nothing. -/
def addFile (forest : Forest) (path : String) (facts : FileFacts) : Forest :=
  let segments := Path.segments path
  match segments.getLast? with
  | none => forest
  | some name =>
    let (forest, parent) := addDirectories forest [] none segments.dropLast
    let file := forest.size
    let node := fileNode segments name facts
    (facts.elements.filterMap (·.node? node.path)).foldl
      (fun forest element => forest.grow element (some file)) (forest.grow node parent)

/-- The paths of the nodes that depend on a name, each once. -/
def dependentsOf (forest : Forest) (name : String) : List String :=
  ((forest.slots.toList.filter (·.node.dependencies.contains name)).map (·.node.path)).eraseDups

/-- Fills in, for every node but directories and files, which nodes depend on its name. -/
def linkDependents (forest : Forest) : Forest :=
  { forest with
    slots := forest.slots.map fun slot =>
      if slot.node.kind.isContainer then slot
      else
        { slot with node := { slot.node with dependents := dependentsOf forest slot.node.name } } }

/-- The forest a snapshot describes. Where the hash of a file cannot be cut to length, it is cut
before the character that does not fit. -/
def forest (snapshot : Snapshot) : Forest :=
  linkDependents
    (snapshot.files.foldl (fun forest (path, facts) => addFile forest path facts) .empty)

/-- The forest a snapshot describes, unless the hash of a file would have to be cut through a
character. -/
def forest? (snapshot : Snapshot) : Option Forest :=
  if snapshot.files.any fun (path, facts) => !(Path.segments path).isEmpty && facts.cannotCut then
    none
  else some snapshot.forest

end Snapshot

end CodeOutline
