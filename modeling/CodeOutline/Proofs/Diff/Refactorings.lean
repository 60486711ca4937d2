import CodeOutline.Diff.Refactoring
import Mathlib.Data.List.Basic

/-!
# What refactorings are guessed from

Refactorings are looked for file by file. Which ones are found in a file depends on the functions of
that file alone, among them on those that were added, removed and modified; what happens in other
files, and to nodes that are no functions, has no influence. And every guess has its reasons: the
functions a refactoring speaks of are among the exact changes, in the part it gives them.

## Main definitions

* `Node.IsFunctionOf`: a node is a function of a file
* `Refactoring.HasReasons`: the exact changes are as a refactoring says
* `Refactoring.subjects`: the functions that refactorings of one kind are about

## Main results

* `Refactoring.detect_isLocal_and_hasReasons`: the refactorings of a file are those among its own
  functions, each has its reasons, and which functions they are about
-/

namespace CodeOutline

/-- A node is a function of a file. -/
def Node.IsFunctionOf (file : String) (node : Node) : Prop :=
  node.kind = .function ∧ node.owningFilePath = file

instance (file : String) : DecidablePred (Node.IsFunctionOf file) :=
  fun _ => inferInstanceAs (Decidable (_ ∧ _))

namespace Refactoring

variable {added removed nodes : List Node} {modified : List Modification} {subject : Node}
  {refactoring : Refactoring} {kind : RefactoringKind} {file : String}

/-- The exact changes are as a refactoring says. -/
inductive HasReasons (added removed : List Node) (modified : List Modification) :
    Refactoring → Prop where
  /-- an added function was taken out of modified functions of its file -/
  | extract {subject : Node} {related : List String} (mem : subject ∈ added)
    (isFunction : subject.kind = .function) (ne_nil : related ≠ [])
    (names : ∀ name ∈ related,
      ∃ m ∈ modified, m.after.IsFunctionOf subject.owningFilePath ∧ m.after.name = name) :
    HasReasons added removed modified
      ⟨.extract, subject.owningFilePath, subject, related, ⟨80⟩⟩
  /-- a removed function was put into modified functions of its file -/
  | inline {subject : Node} {related : List String} (mem : subject ∈ removed)
    (isFunction : subject.kind = .function) (ne_nil : related ≠ [])
    (names : ∀ name ∈ related,
      ∃ m ∈ modified, m.after.IsFunctionOf subject.owningFilePath ∧ m.after.name = name) :
    HasReasons added removed modified
      ⟨.inline, subject.owningFilePath, subject, related, ⟨70⟩⟩
  /-- a removed function became two or more added functions of its file, of similar names -/
  | split {subject : Node} {related : List String} (mem : subject ∈ removed)
    (isFunction : subject.kind = .function) (two_le : 2 ≤ related.length)
    (names : ∀ name ∈ related, ∃ node ∈ added, node.IsFunctionOf subject.owningFilePath ∧
      namesSimilar subject.name node.name = true ∧ node.name = name) :
    HasReasons added removed modified
      ⟨.split, subject.owningFilePath, subject, related, ⟨75⟩⟩

/-- The functions that the refactorings of one kind are about, in order. -/
def subjects (kind : RefactoringKind) (refactorings : List Refactoring) : List Node :=
  (refactorings.filter (·.kind = kind)).map (·.subject)

/-! ### The functions of a file -/

theorem functionsOf_eq_filter (file : String) (nodes : List Node) :
    functionsOf file nodes = nodes.filter (·.IsFunctionOf file) := by
  rw [functionsOf, functions, List.filter_filter]
  refine List.filter_congr fun node _ => ?_
  rw [Bool.and_comm, decide_eq_decide.2 (by rfl : node.IsFunctionOf file ↔ _ ∧ _), Bool.decide_and]
  rfl

theorem mem_functionsOf {node : Node} :
    node ∈ functionsOf file nodes ↔ node ∈ nodes ∧ node.IsFunctionOf file := by
  rw [functionsOf_eq_filter, List.mem_filter, decide_eq_true_iff]

/-- The functions of a file among the nodes are all the functions that those functions hold. -/
theorem functions_filter_isFunctionOf (file : String) (nodes : List Node) :
    functions (nodes.filter (·.IsFunctionOf file)) = functionsOf file nodes := by
  rw [← functionsOf_eq_filter, functions, List.filter_eq_self]
  intro node hnode
  exact beq_iff_eq.2 (mem_functionsOf.1 hnode).2.1

theorem functionsOf_filter_isFunctionOf (file : String) (nodes : List Node) :
    functionsOf file (nodes.filter (·.IsFunctionOf file)) = functionsOf file nodes := by
  rw [functionsOf_eq_filter, functionsOf_eq_filter, List.filter_filter]
  simp

/-! ### One kind of guess -/

theorem mem_modifiedNames {name : String} :
    name ∈ modifiedNames modified file ↔
      ∃ m ∈ modified, m.after.IsFunctionOf file ∧ m.after.name = name := by
  simp only [modifiedNames, List.mem_map, mem_functionsOf]
  constructor
  · rintro ⟨-, ⟨⟨m, hm, rfl⟩, hfunction⟩, hname⟩
    exact ⟨m, hm, hfunction, hname⟩
  · rintro ⟨m, hm, hfunction, hname⟩
    exact ⟨m.after, ⟨⟨m, hm, rfl⟩, hfunction⟩, hname⟩

theorem mem_splitTargets {name : String} :
    name ∈ splitTargets added subject ↔
      ∃ node ∈ added, node.IsFunctionOf subject.owningFilePath ∧
        namesSimilar subject.name node.name = true ∧ node.name = name := by
  simp [splitTargets, mem_functionsOf, and_assoc]

theorem besideModified_eq_some_iff :
    besideModified kind modified subject = some refactoring ↔
      modifiedNames modified subject.owningFilePath ≠ [] ∧
        ofSubject kind subject (modifiedNames modified subject.owningFilePath) = refactoring := by
  rw [besideModified]
  cases modifiedNames modified subject.owningFilePath with
  | nil => simp
  | cons name names => simp

theorem splitOf_eq_some_iff :
    splitOf added subject = some refactoring ↔
      2 ≤ (splitTargets added subject).length ∧
        ofSubject .split subject (splitTargets added subject) = refactoring := by
  simp [splitOf]

/-- What is guessed about a function beside modified ones only depends on those of its file. -/
theorem besideModified_filter (kind : RefactoringKind) (modified : List Modification)
    (hfile : subject.owningFilePath = file) :
    besideModified kind (modified.filter (·.after.IsFunctionOf file)) subject =
      besideModified kind modified subject := by
  have hnames : modifiedNames (modified.filter (·.after.IsFunctionOf file)) file =
      modifiedNames modified file := by
    rw [modifiedNames, modifiedNames, ← functionsOf_filter_isFunctionOf file (modified.map _),
      List.filter_map]
    rfl
  rw [besideModified, besideModified, hfile, hnames]

/-- Into what a function was split only depends on the added functions of its file. -/
theorem splitOf_filter (added : List Node) (hfile : subject.owningFilePath = file) :
    splitOf (added.filter (·.IsFunctionOf file)) subject = splitOf added subject := by
  simp only [splitOf, splitTargets, hfile, functionsOf_filter_isFunctionOf]

/-! ### Guesses about each function -/

/-- What a way to guess says about functions, each on its own. -/
structure IsGuess (kind : RefactoringKind) (guess : Node → Option Refactoring) : Prop where
  kind_eq : ∀ subject refactoring, guess subject = some refactoring → refactoring.kind = kind
  subject_eq : ∀ subject refactoring, guess subject = some refactoring →
    refactoring.subject = subject
  file_eq : ∀ subject refactoring, guess subject = some refactoring →
    refactoring.file = subject.owningFilePath

theorem isGuess_besideModified (kind : RefactoringKind) (modified : List Modification) :
    IsGuess kind (besideModified kind modified) := by
  constructor <;> intro subject refactoring h <;> rw [← (besideModified_eq_some_iff.1 h).2] <;> rfl

theorem isGuess_splitOf (added : List Node) : IsGuess .split (splitOf added) := by
  constructor <;> intro subject refactoring h <;> rw [← (splitOf_eq_some_iff.1 h).2] <;> rfl

namespace IsGuess

variable {guess : Node → Option Refactoring} {kind' : RefactoringKind}

/-- The refactorings of a file are guessed about the functions of that file. -/
theorem filter_file (h : IsGuess kind guess) (file : String) (nodes : List Node) :
    ((functions nodes).filterMap guess).filter (·.file = file) =
      (functionsOf file nodes).filterMap guess := by
  rw [functionsOf, List.filter_filterMap, List.filterMap_filter]
  refine List.filterMap_congr fun subject _ => ?_
  cases hguess : guess subject with
  | none => simp
  | some refactoring => simp [Option.filter, h.file_eq subject refactoring hguess]

/-- The refactorings are about the nodes of which something was guessed, each once. -/
theorem subjects_self (h : IsGuess kind guess) (nodes : List Node) :
    subjects kind (nodes.filterMap guess) = nodes.filter fun node => (guess node).isSome := by
  induction nodes with
  | nil => rfl
  | cons node nodes ih =>
    cases hguess : guess node with
    | none =>
      rw [List.filterMap_cons_none hguess, ih, List.filter_cons_of_neg (by simp [hguess])]
    | some refactoring =>
      rw [List.filterMap_cons_some hguess, List.filter_cons_of_pos (by simp [hguess]), ← ih,
        subjects, List.filter_cons_of_pos (by simp [h.kind_eq node refactoring hguess]),
        List.map_cons, h.subject_eq node refactoring hguess, subjects]

/-- The refactorings are about the functions of which something can be guessed. -/
theorem subjects_functions (h : IsGuess kind guess) {p : Node → Prop} [DecidablePred p]
    (hiff : ∀ subject, (guess subject).isSome ↔ p subject) (nodes : List Node) :
    subjects kind ((functions nodes).filterMap guess) =
      nodes.filter fun node => node.kind = .function ∧ p node := by
  rw [h.subjects_self, functions, List.filter_filter]
  refine List.filter_congr fun node _ => ?_
  have hguess : (guess node).isSome = decide (p node) := by
    rw [Bool.eq_iff_iff, hiff, decide_eq_true_iff]
  rw [hguess, Bool.decide_and, Bool.and_comm]
  rfl

/-- Guesses of one kind yield no refactoring of another. -/
theorem subjects_of_ne (h : IsGuess kind guess) (hne : kind ≠ kind') (nodes : List Node) :
    subjects kind' (nodes.filterMap guess) = [] := by
  rw [subjects, List.map_eq_nil_iff, List.filter_eq_nil_iff]
  intro refactoring hmem hkind
  obtain ⟨subject, -, hguess⟩ := List.mem_filterMap.1 hmem
  exact hne ((h.kind_eq subject refactoring hguess).symm.trans (of_decide_eq_true hkind))

end IsGuess

/-! ### All guesses -/

/-- The refactorings of a file are those among the functions of the file. -/
theorem detect_filter_file (added removed : List Node) (modified : List Modification)
    (file : String) :
    (detect added removed modified).filter (·.file = file) =
      detect (added.filter (·.IsFunctionOf file)) (removed.filter (·.IsFunctionOf file))
        (modified.filter (·.after.IsFunctionOf file)) := by
  have hof {nodes : List Node} {subject : Node} (h : subject ∈ functionsOf file nodes) :
      subject.owningFilePath = file := (mem_functionsOf.1 h).2.2
  simp only [detect, List.filter_append, functions_filter_isFunctionOf,
    (isGuess_besideModified _ modified).filter_file, (isGuess_splitOf added).filter_file]
  congr 1
  · congr 1 <;> exact List.filterMap_congr fun subject h =>
      (besideModified_filter _ modified (hof h)).symm
  · exact List.filterMap_congr fun subject h => (splitOf_filter added (hof h)).symm

theorem mem_functions : subject ∈ functions nodes ↔ subject ∈ nodes ∧ subject.kind = .function := by
  simp [functions]

/-- Every refactoring has its reasons among the exact changes. -/
theorem hasReasons_of_mem_detect (h : refactoring ∈ detect added removed modified) :
    HasReasons added removed modified refactoring := by
  simp only [detect, List.mem_append, List.mem_filterMap, mem_functions,
    besideModified_eq_some_iff, splitOf_eq_some_iff] at h
  rcases h with (⟨subject, ⟨hmem, hkind⟩, hne, rfl⟩ | ⟨subject, ⟨hmem, hkind⟩, hne, rfl⟩) |
    ⟨subject, ⟨hmem, hkind⟩, htwo, rfl⟩
  · exact .extract hmem hkind hne fun name hname => mem_modifiedNames.1 hname
  · exact .inline hmem hkind hne fun name hname => mem_modifiedNames.1 hname
  · exact .split hmem hkind htwo fun name hname => mem_splitTargets.1 hname

theorem isSome_besideModified_iff :
    (besideModified kind modified subject).isSome ↔
      ∃ m ∈ modified, m.after.IsFunctionOf subject.owningFilePath := by
  simp only [Option.isSome_iff_exists, besideModified_eq_some_iff, exists_and_left, exists_eq',
    and_true]
  constructor
  · intro hne
    obtain ⟨name, hname⟩ := List.exists_mem_of_ne_nil _ hne
    obtain ⟨m, hm, hfunction, -⟩ := mem_modifiedNames.1 hname
    exact ⟨m, hm, hfunction⟩
  · rintro ⟨m, hm, hfunction⟩
    exact List.ne_nil_of_mem (mem_modifiedNames.2 ⟨m, hm, hfunction, rfl⟩)

theorem isSome_splitOf_iff :
    (splitOf added subject).isSome ↔
      2 ≤ (added.filter fun node => node.IsFunctionOf subject.owningFilePath ∧
        namesSimilar subject.name node.name).length := by
  have htargets : splitTargets added subject =
      (added.filter fun node => node.IsFunctionOf subject.owningFilePath ∧
        namesSimilar subject.name node.name).map (·.name) := by
    rw [splitTargets, functionsOf_eq_filter, List.filter_filter]
    congr 2
    funext node
    rw [Bool.decide_and, Bool.and_comm, Bool.decide_eq_true]
  simp only [Option.isSome_iff_exists, splitOf_eq_some_iff, exists_and_left, exists_eq', and_true,
    htargets, List.length_map]

theorem subjects_append (kind : RefactoringKind) (refactorings others : List Refactoring) :
    subjects kind (refactorings ++ others) =
      subjects kind refactorings ++ subjects kind others := by
  simp [subjects]

/-- **Refactorings are local to a file, and none is made up**: those of a file are the ones found
among the functions of that file alone. Each has its reasons among the exact changes. An added
function is extracted once if its file has a modified function, a removed one is inlined once in the
same case, and it is split once if two added functions of its file are similar to it. -/
theorem detect_isLocal_and_hasReasons (added removed : List Node) (modified : List Modification) :
    (∀ file, (detect added removed modified).filter (·.file = file) =
      detect (added.filter (·.IsFunctionOf file)) (removed.filter (·.IsFunctionOf file))
        (modified.filter (·.after.IsFunctionOf file))) ∧
    (∀ refactoring ∈ detect added removed modified,
      HasReasons added removed modified refactoring) ∧
    subjects .extract (detect added removed modified) = added.filter (fun node =>
      node.kind = .function ∧ ∃ m ∈ modified, m.after.IsFunctionOf node.owningFilePath) ∧
    subjects .inline (detect added removed modified) = removed.filter (fun node =>
      node.kind = .function ∧ ∃ m ∈ modified, m.after.IsFunctionOf node.owningFilePath) ∧
    subjects .split (detect added removed modified) = removed.filter (fun node =>
      node.kind = .function ∧ 2 ≤ (added.filter fun other =>
        other.IsFunctionOf node.owningFilePath ∧ namesSimilar node.name other.name).length) := by
  have hextract := isGuess_besideModified .extract modified
  have hinline := isGuess_besideModified .inline modified
  have hsplit := isGuess_splitOf added
  refine ⟨detect_filter_file added removed modified, fun _ => hasReasons_of_mem_detect, ?_, ?_, ?_⟩
  -- of the three lists only the one of the kind looked for has subjects of that kind
  · rw [detect, subjects_append, subjects_append, hinline.subjects_of_ne (by decide),
      hsplit.subjects_of_ne (by decide), List.append_nil, List.append_nil]
    exact hextract.subjects_functions (fun _ => isSome_besideModified_iff) added
  · rw [detect, subjects_append, subjects_append, hextract.subjects_of_ne (by decide),
      hsplit.subjects_of_ne (by decide), List.nil_append, List.append_nil]
    exact hinline.subjects_functions (fun _ => isSome_besideModified_iff) removed
  · rw [detect, subjects_append, subjects_append, hextract.subjects_of_ne (by decide),
      hinline.subjects_of_ne (by decide), List.nil_append, List.nil_append]
    exact hsplit.subjects_functions (fun _ => isSome_splitOf_iff) removed

end Refactoring

end CodeOutline
