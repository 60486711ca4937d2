import CodeOutline.Proofs.Command.Inputs
import CodeOutline.Proofs.Forest.Rings
import CodeOutline.Proofs.Outline.Legality
import CodeOutline.Proofs.Snapshot.Links

/-!
# Drawings and walks

A forest is listed in two ways. A walk keeps a list of pending nodes, and a drawing goes down from
each root on its own, one step for each level. Both are compared with the listing by recursion: each
node is followed by the listing of its children, one level deeper. Without a ring this recursion
comes to an end, and both ways list the same nodes in the same order. So a drawing has one row for
every node of a walk, and a tree that is shown as text and as JSON has the same nodes in it.

A row shows a node by the sign of its kind and by its name, two blanks further to the right for each
level. A record has the kind as a word, and all other facts about the node.

## Main definitions

* `Forest.Lists`: the listing by recursion
* `Node.HasRow`, `Node.HasRecord`: the row and the record of a node
* `Forest.ShownAs`: how the nodes of a forest are shown

## Main results

* `Forest.Lists.walks`, `Forest.Grown.lists_rows`: what a walk and a drawing list
* `Forest.Grown.exists_shownAs`: both list the same
* `Forest.traversals_agree`: the forests of operations, snapshots and outlines
-/

namespace CodeOutline

/-! ### Rows and records -/

/-- How a kind is shown: by a sign in a drawing, and by a word in a record. -/
inductive NodeKind.IsShownBy : NodeKind → (sign word : String) → Prop
  | directory : IsShownBy .directory "▸" "directory"
  | file : IsShownBy .file "≡" "file"
  | function : IsShownBy .function "ƒ" "function"
  | component : IsShownBy .component "◇" "component"
  | reference : IsShownBy .reference "@" "reference"
  | note : IsShownBy .note "#" "note"

theorem NodeKind.isShownBy (kind : NodeKind) : kind.IsShownBy kind.sign kind.label := by
  cases kind <;> constructor

namespace Node

/-- A row shows a node at a depth: two blanks for each level, a sign and the name. With line
numbers, that of the line the node was read from stands in front, in a column of four places. -/
inductive HasRow (node : Node) (depth : Nat) : (lineNumbers : Bool) → String → Prop
  | plain {sign word : String} (hkind : node.kind.IsShownBy sign word) :
    HasRow node depth false
      (String.ofList (List.replicate (2 * depth) ' ') ++ sign ++ " " ++ node.name ++ "\n")
  | numbered {sign word : String} (hkind : node.kind.IsShownBy sign word) :
    HasRow node depth true
      (String.ofList (List.replicate (4 - (toString node.line).length) ' ') ++ toString node.line ++
        " │ " ++ String.ofList (List.replicate (2 * depth) ' ') ++ sign ++ " " ++ node.name ++ "\n")

/-- A record holds the facts about a node, each under its name. -/
inductive HasRecord (node : Node) : Json → Prop
  | members {sign word : String} (hkind : node.kind.IsShownBy sign word) :
    HasRecord node (.object [
      (some "kind", .string word),
      (some "name", .string node.name),
      (some "path", .string node.path),
      (some "extension", node.extension.elim .null .string),
      (some "content", node.content.elim .null .string),
      (some "line_number", .number (.natural node.line)),
      (some "column", .number (.natural node.column)),
      (some "indent_level", .number (.natural node.level)),
      (some "dependencies", .array (node.dependencies.map .string)),
      (some "dependents", .array (node.dependents.map .string)),
      (some "content_hash", .string node.hash)])

theorem hasRow_drawRow (node : Node) (depth : Nat) (lineNumbers : Bool) :
    node.HasRow depth lineNumbers (Forest.drawRow lineNumbers depth node) := by
  cases lineNumbers with
  | false =>
    -- nothing stands in front of the blanks
    rw [Forest.drawRow, if_neg Bool.false_ne_true, String.empty_append]
    exact .plain node.kind.isShownBy
  | true => exact .numbered node.kind.isShownBy

theorem hasRecord_report (node : Node) : node.HasRecord node.report := by
  rw [report, Json.ofString?_eq, Json.ofString?_eq]
  exact .members node.kind.isShownBy

end Node

namespace Forest

open Relation

variable {forest : Forest} {ids ids' pending visited visited' : List NodeId}
  {rows rows' : List (Nat × NodeId)} {depth id : Nat}

/-! ### The listing by recursion -/

/-- Some nodes, each followed by what is listed of its children one level deeper. -/
inductive Lists (forest : Forest) : Nat → List NodeId → List (Nat × NodeId) → Prop
  | nil {depth : Nat} : Lists forest depth [] []
  | cons {depth : Nat} {id : NodeId} {ids : List NodeId} {below rest : List (Nat × NodeId)}
      (hbelow : Lists forest (depth + 1) (forest.children id) below)
      (hrest : Lists forest depth ids rest) :
      Lists forest depth (id :: ids) ((depth, id) :: (below ++ rest))

namespace Lists

theorem append (h : forest.Lists depth ids rows) (h' : forest.Lists depth ids' rows') :
    forest.Lists depth (ids ++ ids') (rows ++ rows') := by
  induction h with
  | nil => exact h'
  | cons hbelow _ _ ih =>
    rw [List.cons_append, List.cons_append, List.append_assoc]
    exact .cons hbelow (ih h')

/-- What is listed of each node makes up the listing of them all. -/
theorem flatMap {listing : NodeId → List (Nat × NodeId)}
    (h : ∀ id ∈ ids, forest.Lists depth [id] (listing id)) :
    forest.Lists depth ids (ids.flatMap listing) := by
  induction ids with
  | nil => exact .nil
  | cons id ids ih =>
    rw [List.flatMap_cons, ← List.singleton_append]
    exact (h id List.mem_cons_self).append (ih fun a ha => h a (List.mem_cons_of_mem _ ha))

/-- There is one listing. -/
theorem unique (h : forest.Lists depth ids rows) (h' : forest.Lists depth ids rows') :
    rows = rows' := by
  induction h generalizing rows' with
  | nil =>
    cases h'
    rfl
  | cons _ _ ihbelow ihrest =>
    cases h' with
    | cons hbelow hrest => rw [ihbelow hbelow, ihrest hrest]

/-- A walk visits the nodes in the order in which they are listed. -/
theorem walks (h : forest.Lists depth ids rows) (hpending : forest.Walks pending visited) :
    forest.Walks (ids ++ pending) (rows.map Prod.snd ++ visited) := by
  induction h generalizing pending visited with
  | nil => exact hpending
  | cons _ _ ihbelow ihrest =>
    -- the children of the first node are pending in front of the other nodes
    have hbelow := ihbelow (ihrest hpending)
    rw [List.map_cons, List.map_append, List.cons_append, List.cons_append, List.append_assoc]
    exact .visit hbelow

theorem forall_mem (h : forest.Lists depth ids rows) {P : NodeId → Prop}
    (hids : ∀ id ∈ ids, P id) (hchildren : ∀ id, ∀ c ∈ forest.children id, P c) :
    ∀ row ∈ rows, P row.2 := by
  induction h with
  | nil => simp
  | @cons depth id ids below rest _ _ ihbelow ihrest =>
    obtain ⟨hid, hids⟩ := List.forall_mem_cons.1 hids
    refine List.forall_mem_cons.2 ⟨hid, fun row hrow => ?_⟩
    rcases List.mem_append.1 hrow with hrow | hrow
    · exact ihbelow (hchildren id) row hrow
    · exact ihrest hids row hrow

end Lists

theorem Walks.unique (h : forest.Walks pending visited) (h' : forest.Walks pending visited') :
    visited = visited' := by
  induction h generalizing visited' with
  | done =>
    cases h'
    rfl
  | visit _ ih =>
    cases h' with
    | visit hrest => rw [ih hrest]

/-! ### What a drawing lists -/

namespace Grown

variable (h : forest.Grown) (hacyclic : forest.Acyclic)
include h hacyclic

/-- As many steps as there are nodes below a node are enough to list them: each step goes one level
down, and leaves the node behind. -/
theorem lists_rowsBelow (steps : Nat) (depth : Nat) (hid : id < forest.size)
    (hsteps : (forest.below id).length ≤ steps) :
    forest.Lists depth [id] (forest.rowsBelow steps depth id) := by
  induction steps generalizing id depth with
  | zero =>
    have hbelow := h.length_below hacyclic hid
    omega
  | succ steps ih =>
    have hchildren : forest.Lists (depth + 1) (forest.children id)
        ((forest.children id).flatMap (forest.rowsBelow steps (depth + 1))) := by
      refine .flatMap fun c hc => ih (depth + 1) (h.lt_size_of_mem_children hc) ?_
      have hbelow := h.length_below hacyclic hid
      have hle := (List.sublist_flatten_of_mem (List.mem_map_of_mem (f := forest.below) hc)).length_le
      rw [← List.flatMap_def] at hle
      omega
    have hrow : forest.Lists depth [id] ((depth, id) :: _) := .cons hchildren .nil
    rwa [List.append_nil] at hrow

/-- A drawing lists every node below the roots. -/
theorem lists_rows : forest.Lists 0 forest.roots forest.rows := by
  refine .flatMap fun r hr => ?_
  exact h.lists_rowsBelow hacyclic _ 0 (h.lt_size_of_mem_roots r hr) (length_below_le forest r)

theorem preorder_eq : forest.preorder = forest.rows.map Prod.snd := by
  have hdone : forest.Walks [] [] := .done
  have hwalk := (h.lists_rows hacyclic).walks hdone
  rw [List.append_nil, List.append_nil] at hwalk
  exact (h.walks_preorder hacyclic).unique hwalk

/-- Every row of a drawing shows a node. -/
theorem exists_node?_of_mem_rows : ∀ row ∈ forest.rows, ∃ node, forest.node? row.2 = some node := by
  have hlt := (h.lists_rows hacyclic).forall_mem (P := (· < forest.size)) h.lt_size_of_mem_roots
    fun id c hc => h.lt_size_of_mem_children hc
  exact fun row hrow => Option.isSome_iff_exists.1 (node?_isSome_iff.2 (hlt row hrow))

end Grown

/-! ### One row for every node -/

/-- The nodes of some rows, at the same depths. -/
def Fills (forest : Forest) : List (Nat × NodeId) → List (Nat × Node) → Prop :=
  List.Forall₂ fun row entry => row.1 = entry.1 ∧ forest.node? row.2 = some entry.2

/-- Where every row shows a node, there is one entry for each. -/
theorem exists_fills (h : ∀ row ∈ rows, ∃ node, forest.node? row.2 = some node) :
    ∃ entries, forest.Fills rows entries := by
  induction rows with
  | nil => exact ⟨[], .nil⟩
  | cons row rows ih =>
    obtain ⟨⟨node, hnode⟩, hrows⟩ := List.forall_mem_cons.1 h
    obtain ⟨entries, hentries⟩ := ih hrows
    exact ⟨(row.1, node) :: entries, .cons ⟨rfl, hnode⟩ hentries⟩

namespace Fills

variable {entries : List (Nat × Node)}

theorem filterMap_node? (h : forest.Fills rows entries) :
    (rows.map Prod.snd).filterMap forest.node? = entries.map Prod.snd := by
  induction h with
  | nil => rfl
  | cons hfirst _ ih => rw [List.map_cons, List.filterMap_cons, hfirst.2, ih, List.map_cons]

/-- What is drawn for each row is drawn for each entry. -/
theorem map_eq {α : Type} (h : forest.Fills rows entries) (draw : Nat → Node → α) (none : α) :
    (rows.map fun (depth, id) => match forest.node? id with
      | some node => draw depth node
      | Option.none => none) = entries.map fun entry => draw entry.1 entry.2 := by
  induction h with
  | nil => rfl
  | cons hfirst _ ih => simp only [List.map_cons, hfirst.1, hfirst.2, ih]

end Fills

/-- A drawing has the rows of some nodes at their depths, in order. -/
def Draws (lineNumbers : Bool) (entries : List (Nat × Node)) (drawing : String) : Prop :=
  ∃ rows, List.Forall₂ (fun entry row => entry.2.HasRow entry.1 lineNumbers row) entries rows ∧
    drawing = String.join rows

theorem draws_join (lineNumbers : Bool) (entries : List (Nat × Node)) :
    Draws lineNumbers entries
      (String.join (entries.map fun entry => drawRow lineNumbers entry.1 entry.2)) := by
  refine ⟨_, ?_, rfl⟩
  rw [List.forall₂_map_right_iff, List.forall₂_same]
  exact fun entry _ => entry.2.hasRow_drawRow entry.1 lineNumbers

/-- A text is an array of the records of some nodes, in order. -/
def Records (entries : List (Nat × Node)) (text : String) : Prop :=
  ∃ records, List.Forall₂ (fun entry record => entry.2.HasRecord record) entries records ∧
    text = (Json.array records).indented ++ "\n"

/-- The nodes of a forest are shown in these rows, by these entries: the rows are the listing by
recursion, a walk visits the nodes in this order, and a drawing has one entry for each row. -/
structure ShownAs (forest : Forest) (rows : List (Nat × NodeId)) (entries : List (Nat × Node)) :
    Prop where
  lists_iff : ∀ list, forest.Lists 0 forest.roots list ↔ list = rows
  preorder_eq : forest.preorder = rows.map Prod.snd
  fills : forest.Fills rows entries
  draws : ∀ lineNumbers, Draws lineNumbers entries (forest.draw lineNumbers)

theorem Grown.exists_shownAs (h : forest.Grown) (hacyclic : forest.Acyclic) :
    ∃ rows entries, forest.ShownAs rows entries := by
  have hlists := h.lists_rows hacyclic
  obtain ⟨entries, hfills⟩ := exists_fills (h.exists_node?_of_mem_rows hacyclic)
  refine ⟨forest.rows, entries, fun list => ?_, h.preorder_eq hacyclic, hfills,
    fun lineNumbers => ?_⟩
  · exact ⟨fun hlist => hlist.unique hlists, fun heq => heq ▸ hlists⟩
  · have hdraw : forest.draw lineNumbers =
        String.join (entries.map fun entry => drawRow lineNumbers entry.1 entry.2) :=
      congrArg String.join (hfills.map_eq (drawRow lineNumbers) "")
    rw [hdraw]
    exact draws_join lineNumbers entries

theorem Rooted.grown (h : forest.Rooted) : forest.Grown where
  toLinked := h.toLinked
  lt_size_of_mem_roots _ hr := h.lt_size_of_mem_roots hr

theorem Rooted.exists_shownAs (h : forest.Rooted) : ∃ rows entries, forest.ShownAs rows entries :=
  h.grown.exists_shownAs h.parentsFirst.acyclic

open Command in
/-- The records of a tree are those of the nodes in its rows. -/
theorem ShownAs.records_treeAnswer {settings : Settings} {entries : List (Nat × Node)}
    (h : forest.ShownAs rows entries) :
    Records entries (treeAnswer { settings with format := .json } forest) := by
  -- the records go along a walk, and a walk visits the nodes of the rows
  have hvisited := h.fills.filterMap_node?
  rw [← h.preorder_eq] at hvisited
  refine ⟨entries.map fun entry => entry.2.report, ?_, ?_⟩
  · rw [List.forall₂_map_right_iff, List.forall₂_same]
    exact fun entry _ => entry.2.hasRecord_report
  · rw [treeAnswer, hvisited, List.map_map]
    rfl

open Command in
/-- **A walk and a drawing list the same nodes in the same order,** which is that of the listing by
recursion, in every built forest without rings and in the forest of every snapshot and outline. Each
node has its own row in the drawing, indented by two blanks for each level below the root it is
reached from. So the tree of an outline has the same nodes in it as text and as JSON. -/
theorem traversals_agree :
    (∀ operations, (build operations).Acyclic →
      ∃ rows entries, (build operations).ShownAs rows entries) ∧
    (∀ snapshot : Snapshot, ∃ rows entries, snapshot.forest.ShownAs rows entries) ∧
    ∀ (settings : Settings) workspace path text, readText workspace path = .ok text →
      ∃ rows entries, (Outline.ofText settings.indentWidth text).forest.ShownAs rows entries ∧
        Draws settings.showLineNumbers entries
          (runTree { settings with format := .text } workspace path).answer ∧
        Records entries (runTree { settings with format := .json } workspace path).answer := by
  refine ⟨fun operations hacyclic => (grown_build operations).exists_shownAs hacyclic,
    fun snapshot => snapshot.rooted_forest.exists_shownAs, ?_⟩
  intro settings workspace path text htext
  have hrooted : (Outline.ofText settings.indentWidth text).forest.Rooted :=
    Outline.Reading.rooted_after _ _
  obtain ⟨rows, entries, hshown⟩ := hrooted.exists_shownAs
  rw [answer_runTree_of_readText htext, answer_runTree_of_readText htext]
  exact ⟨rows, entries, hshown, hshown.draws settings.showLineNumbers, hshown.records_treeAnswer⟩

open Command in
/-- A root that was attached below another root is shown twice, at two levels, and a tree in both
formats. -/
theorem traversals_agree_root_below_root :
    let forest := build [.push (.named .directory "a"), .push (.named .file "b.ts"), .addRoot 0,
      .addRoot 1, .attach 1 0]
    let settings : Settings := ⟨2, .owningFile, true, .json, true⟩
    let workspace : Workspace := ⟨fun _ => .ok [47, 97, 10, 32, 32, 98, 46, 116, 115]⟩
    forest.Acyclic ∧ (∃ rows entries, forest.ShownAs rows entries) ∧
      forest.rows = [(0, 0), (1, 1), (0, 1)] ∧ forest.preorder = [0, 1, 1] ∧
      forest.draw false = "▸ a\n  ≡ b.ts\n≡ b.ts\n" ∧
      readText workspace "outline" = .ok "/a\n  b.ts" ∧
      (∃ entries, Draws true entries
          (runTree { settings with format := .text } workspace "outline").answer ∧
        Records entries (runTree settings workspace "outline").answer) ∧
      (runTree { settings with format := .text } workspace "outline").answer =
        "   1 │ ▸ a\n   2 │   ≡ b.ts\n" ∧
      (runTree settings workspace "outline").answer =
        "[\n  \x7b\n    \"kind\": \"directory\",\n    \"name\": \"a\",\n"
          ++ "    \"path\": \"a\",\n    \"extension\": null,\n    \"content\": null,\n"
          ++ "    \"line_number\": 1,\n    \"column\": 0,\n    \"indent_level\": 0,\n"
          ++ "    \"dependencies\": [],\n    \"dependents\": [],\n"
          ++ "    \"content_hash\": \"6a50dc8584134c7d\"\n  \x7d,\n"
          ++ "  \x7b\n    \"kind\": \"file\",\n    \"name\": \"b.ts\",\n"
          ++ "    \"path\": \"a/b.ts\",\n    \"extension\": \"ts\",\n    \"content\": null,\n"
          ++ "    \"line_number\": 2,\n    \"column\": 2,\n    \"indent_level\": 1,\n"
          ++ "    \"dependencies\": [],\n    \"dependents\": [],\n"
          ++ "    \"content_hash\": \"ded2f7f761b76f9c\"\n  \x7d\n]\n" := by
  intro forest settings workspace
  obtain ⟨hbuilt, -, htree⟩ := traversals_agree
  have hfirst : forest.ParentsFirst := by decide
  have htext : readText workspace "outline" = .ok "/a\n  b.ts" := by
    refine readText_of_decode? rfl ?_
    simp [Utf8.decode?, Utf8.pieces, Utf8.piecesFrom, Utf8.piecesFrom.start]
  obtain ⟨_, entries, -, hdrawn, hrecorded⟩ := htree settings workspace "outline" _ htext
  refine ⟨hfirst.acyclic, hbuilt _ hfirst.acyclic, by decide, by decide, by decide +kernel, htext,
    ⟨entries, hdrawn, hrecorded⟩, ?_, ?_⟩
  · rw [answer_runTree_of_readText htext]
    decide +kernel
  · rw [answer_runTree_of_readText htext]
    decide +kernel

end Forest

end CodeOutline
