import Mathlib.Data.List.Perm.Basic
import CodeOutline.Forest
import CodeOutline.Proofs.Text.Joined

/-!
# What the hash of a shape depends on

A node without a hash of its own is compared by its shape. That is a text with an entry for each of
its children, in the order of the small forms of the entries. The hash is taken of the small form of
the whole text, without the blanks around it. Entries that differ in letter case only keep the order
of the children, and the rule of the final sigma could look from one entry into the next. But equal
small forms can change places unseen, and the rule does not look across the bar between two entries.
So the hash depends on nothing but which entries there are in small letters, and how often.

On the other hand the text tells the children, up to letter case, if the names leave the bars and
colons alone: no bar is in a name, no blank at its end, and no capital sigma at its start.

## Main definitions

* `Forest.childNodes`: the nodes directly below a node
* `Forest.smallSignature`: a node as its parent's shape shows it, in small letters
* `Forest.smallEntries`: the entries of a shape in small letters, in order
* `Forest.smallSubject`: the kind of a node, and its name in small letters
* `Forest.IsPlain`: a name that a shape shows as it is in small letters

## Main results

* `Forest.toList_normalText_shape`: what the hash of a shape is taken of
* `Forest.normalText_shape_eq_iff`: texts that tell the children
* `Forest.comparableHash?_eq_of_perm`: nodes whose children have the same small signatures
-/

namespace CodeOutline

theorem NodeKind.label_injective : Function.Injective NodeKind.label := by
  intro kind kind' heq
  cases kind <;> cases kind' <;> first | rfl | exact absurd heq (by decide)

namespace Forest

variable {forest forest' : Forest} {id id' : NodeId} {node node' : Node}
  {children children' : List Node}

/-- The nodes directly below a node. -/
def childNodes (forest : Forest) (id : NodeId) : List Node :=
  (forest.children id).filterMap forest.node?

/-- A node as its parent's shape shows it, in small letters. -/
def smallSignature (node : Node) : String :=
  Text.lowercase (signature node)

/-- The entries of a shape in small letters, in order. -/
def smallEntries (children : List Node) : List String :=
  (children.map smallSignature).mergeSort

/-! ### The order of the entries -/

theorem smallEntries_perm (children : List Node) :
    (smallEntries children).Perm (children.map smallSignature) :=
  List.mergeSort_perm _ _

theorem pairwise_smallEntries (children : List Node) :
    (smallEntries children).Pairwise (· ≤ ·) := by
  have hsorted : (smallEntries children).Pairwise fun a b => decide (a ≤ b) = true := by
    apply List.pairwise_mergeSort
    · intro a b c hab hbc
      rw [decide_eq_true_eq] at hab hbc ⊢
      exact String.le_trans hab hbc
    · intro a b
      rw [Bool.or_eq_true, decide_eq_true_eq, decide_eq_true_eq]
      exact String.le_total a b
  simpa only [decide_eq_true_eq] using hsorted

/-- In order, the entries depend on nothing but which there are, and how often. -/
theorem smallEntries_eq_iff : smallEntries children = smallEntries children' ↔
    (children.map smallSignature).Perm (children'.map smallSignature) := by
  constructor
  · intro heq
    have hperm := smallEntries_perm children
    rw [heq] at hperm
    exact hperm.symm.trans (smallEntries_perm children')
  · -- two lists in order with the same entries are one list
    intro hperm
    apply List.Perm.eq_of_pairwise (fun _ _ _ _ => String.le_antisymm)
      (pairwise_smallEntries children) (pairwise_smallEntries children')
    exact (smallEntries_perm children).trans (hperm.trans (smallEntries_perm children').symm)

/-- Whether entries are put in order before or after they are read in small letters does not
matter. -/
theorem map_lowercase_mergeSort (children : List Node) :
    ((children.map signature).mergeSort fun a b => Text.lowercase a ≤ Text.lowercase b).map
      Text.lowercase = smallEntries children := by
  have hmap : ∀ a ∈ children.map signature, ∀ b ∈ children.map signature,
      decide (Text.lowercase a ≤ Text.lowercase b) =
        decide (Text.lowercase a ≤ Text.lowercase b) := fun _ _ _ _ => rfl
  rw [List.map_mergeSort (f := Text.lowercase) (s := fun a b => decide (a ≤ b)) hmap, List.map_map]
  rfl

/-- Entries that are in order stay as they are. -/
theorem shape_eq_intercalate (entries : List String) (hentries : children.map signature = entries)
    (hsorted : entries.Pairwise fun a b => Text.lowercase a ≤ Text.lowercase b) :
    shape children = "|".intercalate entries := by
  rw [shape, hentries, List.mergeSort_of_pairwise]
  simpa only [decide_eq_true_eq] using hsorted

/-! ### The text of a shape -/

/-- A signature is not empty, and starts with a letter of the kind. -/
theorem head_signature (node : Node) : (signature node).toList ≠ [] ∧
    ∀ c ∈ (signature node).toList.head?, Text.isBlank c = false := by
  rw [signature]
  cases node.kind <;> simp [NodeKind.label] <;> decide

theorem toList_shape (children : List Node) : (shape children).toList =
    ['|'].intercalate (((children.map signature).mergeSort fun a b =>
      Text.lowercase a ≤ Text.lowercase b).map String.toList) := by
  rw [shape, String.toList_intercalate]
  rfl

/-- No blanks stand in front of a shape. -/
theorem trimStart_shape (children : List Node) :
    Text.trimStart (shape children).toList = (shape children).toList := by
  apply Text.trimStart_eq_self
  intro c hc
  rw [toList_shape] at hc
  refine Text.isBlank_of_head?_intercalate (fun part hpart => ?_) hc
  obtain ⟨entry, hentry, rfl⟩ := List.mem_map.1 hpart
  obtain ⟨child, -, rfl⟩ := List.mem_map.1 (List.mem_mergeSort.1 hentry)
  exact head_signature child

/-- The rule of the final sigma does not look across a bar. -/
theorem isBarrier_bar : Text.IsBarrier '|' := by
  unfold Text.IsBarrier
  decide +kernel

/-- The hash of a shape is taken of its entries in small letters, in order, with bars between them
and without the blanks behind them. -/
theorem toList_normalText_shape (children : List Node) :
    (normalText (shape children)).toList =
      Text.trimEnd (['|'].intercalate ((smallEntries children).map String.toList)) := by
  have hself : Text.smallForm '|' = ['|'] := by decide
  rw [normalText, String.toList_ofList, Text.trim, trimStart_shape, Text.lower,
    ← Text.trimEnd_lowerAfter, ← Text.lower, toList_shape,
    Text.lower_intercalate isBarrier_bar hself, ← map_lowercase_mergeSort, List.map_map,
    List.map_map]
  congr 3
  funext entry
  simp [Text.lowercase]

theorem normalText_shape_eq_of_perm
    (h : (children.map smallSignature).Perm (children'.map smallSignature)) :
    normalText (shape children) = normalText (shape children') := by
  apply String.toList_injective
  rw [toList_normalText_shape, toList_normalText_shape, smallEntries_eq_iff.2 h]

/-! ### Shapes that tell the children -/

/-- What a shape knows of a node: its kind, and its name in small letters. -/
def smallSubject (node : Node) : NodeKind × String :=
  (node.kind, Text.lowercase node.name)

/-- A shape shows the name as it is in small letters: the name holds no bar and does not end with a
blank, and a capital sigma is not the first character that the rule of the final sigma does not pass
over. -/
structure IsPlain (name : String) : Prop where
  bar : '|' ∉ name.toList
  last : ∀ c ∈ name.toList.getLast?, Text.isBlank c = false
  sigma : (name.toList.dropWhile Text.isCaseIgnorable).head? ≠ some 'Σ'

instance (name : String) : Decidable (IsPlain name) :=
  decidable_of_iff ('|' ∉ name.toList ∧ name.toList.getLast?.all (!Text.isBlank ·) = true ∧
      (name.toList.dropWhile Text.isCaseIgnorable).head? ≠ some 'Σ') (by
    simp only [Option.all_eq_true, Bool.not_eq_true']
    exact ⟨fun ⟨hbar, hlast, hsigma⟩ => ⟨hbar, hlast, hsigma⟩, fun h => ⟨h.bar, h.last, h.sigma⟩⟩)

/-- A kind and a name as a shape shows them. -/
def entryOf (subject : NodeKind × String) : String :=
  subject.1.label ++ ":" ++ subject.2

theorem toList_entryOf (subject : NodeKind × String) :
    (entryOf subject).toList = subject.1.label.toList ++ ':' :: subject.2.toList := by
  simp [entryOf]

/-- The kind is what stands in front of the first colon. -/
theorem takeWhile_entry (kind : NodeKind) (name : List Char) :
    (kind.label.toList ++ ':' :: name).takeWhile (· != ':') = kind.label.toList := by
  cases kind <;> rfl

/-- Kind and name are found again in an entry. -/
theorem entryOf_injective : Function.Injective entryOf := by
  rintro ⟨kind, name⟩ ⟨kind', name'⟩ heq
  have hlist := congrArg String.toList heq
  rw [toList_entryOf, toList_entryOf] at hlist
  obtain rfl : kind = kind' := by
    apply NodeKind.label_injective
    apply String.toList_injective
    have hfront := congrArg (List.takeWhile (· != ':')) hlist
    rwa [takeWhile_entry, takeWhile_entry] at hfront
  obtain rfl : name = name' := by
    apply String.toList_injective
    exact (List.cons.inj (List.append_cancel_left hlist)).2
  rfl

theorem toList_signature (node : Node) :
    (signature node).toList = node.kind.label.toList ++ ':' :: node.name.toList :=
  toList_entryOf (node.kind, node.name)

theorem toList_smallSignature (node : Node) :
    (smallSignature node).toList = node.kind.label.toList ++ ':' ::
      Text.lowerAfter (':' :: node.kind.label.toList.reverse) node.name.toList := by
  have hascii : ∀ kind : NodeKind, ∀ c ∈ kind.label.toList ++ [':'], c.toNat < 0x80 := by
    intro kind
    have hall : ((kind.label.toList ++ [':']).all fun c => decide (c.toNat < 0x80)) = true := by
      cases kind <;> rfl
    simpa only [List.all_eq_true, decide_eq_true_eq] using hall
  have hsmall : ∀ kind : NodeKind, (kind.label.toList ++ [':']).map Text.smallLetter =
      kind.label.toList ++ [':'] := by
    intro kind
    cases kind <;> decide
  have hlower := Text.lowerAfter_append_of_ascii (hascii node.kind) [] node.name.toList
  rw [hsmall, List.append_assoc, List.append_assoc] at hlower
  rw [smallSignature, Text.lowercase, String.toList_ofList, toList_signature, Text.lower]
  simpa using hlower

theorem smallSignature_eq (h : IsPlain node.name) :
    smallSignature node = entryOf (smallSubject node) := by
  apply String.toList_injective
  rw [toList_smallSignature, Text.lowerAfter_eq_lower h.sigma, toList_entryOf]
  simp [smallSubject, Text.lowercase]

theorem IsPlain.smallSignature (h : IsPlain node.name) :
    (smallSignature node).toList ≠ [] ∧ '|' ∉ (smallSignature node).toList ∧
      ∀ c ∈ (smallSignature node).toList.getLast?, Text.isBlank c = false := by
  refine ⟨by simp [toList_smallSignature], ?_, ?_⟩
  · have hbar : Text.HasNoCapital '|'.toNat := by decide +kernel
    have hlabel : ∀ kind : NodeKind, '|' ∉ kind.label.toList := by
      intro kind
      cases kind <;> decide
    rw [toList_smallSignature, List.mem_append, List.mem_cons]
    rintro (hmem | heq | hmem)
    · exact hlabel _ hmem
    · exact absurd heq (by decide)
    · exact h.bar (Text.mem_of_mem_lowerAfter hbar hmem)
  · intro c hc
    rw [Forest.smallSignature, Text.lowercase, String.toList_ofList, Text.lower] at hc
    refine Text.isBlank_of_getLast?_lowerAfter (fun d hd => ?_) [] hc
    rw [toList_signature, List.getLast?_append_cons] at hd
    cases hname : node.name.toList with
    | nil =>
      obtain rfl : ':' = d := by simpa [hname] using hd
      decide
    | cons e es =>
      rw [hname, List.getLast?_cons_cons, ← hname] at hd
      exact h.last d hd

section

variable (h : ∀ child ∈ children, IsPlain child.name)
include h

/-- An entry with a plain name is found again between bars. -/
theorem of_mem_map_smallEntries {part : List Char}
    (hpart : part ∈ (smallEntries children).map String.toList) :
    part ≠ [] ∧ '|' ∉ part ∧ ∀ c ∈ part.getLast?, Text.isBlank c = false := by
  obtain ⟨entry, hentry, rfl⟩ := List.mem_map.1 hpart
  obtain ⟨child, hchild, rfl⟩ := List.mem_map.1 ((smallEntries_perm children).mem_iff.1 hentry)
  exact (h child hchild).smallSignature

/-- Nothing is trimmed off the end. -/
theorem toList_normalText_shape_of_isPlain : (normalText (shape children)).toList =
    ['|'].intercalate ((smallEntries children).map String.toList) := by
  rw [toList_normalText_shape]
  apply Text.trimEnd_eq_self
  intro c hc
  refine Text.isBlank_of_getLast?_intercalate (fun part hpart => ?_) hc
  obtain ⟨hne, -, hlast⟩ := of_mem_map_smallEntries h hpart
  exact ⟨hne, hlast⟩

theorem map_smallSignature_of_isPlain :
    children.map smallSignature = (children.map smallSubject).map entryOf := by
  rw [List.map_map]
  apply List.map_congr_left
  exact fun child hchild => smallSignature_eq (h child hchild)

/-- If all names are plain, the hash of a shape is taken of texts that are different for different
children. -/
theorem normalText_shape_eq_iff (h' : ∀ child ∈ children', IsPlain child.name) :
    normalText (shape children) = normalText (shape children') ↔
      (children.map smallSubject).Perm (children'.map smallSubject) := by
  rw [← List.map_perm_map_iff entryOf_injective, ← map_smallSignature_of_isPlain h,
    ← map_smallSignature_of_isPlain h']
  refine ⟨fun heq => smallEntries_eq_iff.1 ?_, normalText_shape_eq_of_perm⟩
  have hjoined := congrArg String.toList heq
  rw [toList_normalText_shape_of_isPlain h, toList_normalText_shape_of_isPlain h'] at hjoined
  -- between bars the entries are found again
  have hentries := Text.eq_of_intercalate_eq
    (fun part hpart => (of_mem_map_smallEntries h hpart).imp_right And.left)
    (fun part hpart => (of_mem_map_smallEntries h' hpart).imp_right And.left) hjoined
  exact List.map_injective_iff.2 (fun _ _ => String.toList_injective) hentries

end

/-! ### What is compared -/

theorem comparableHash?_of_children (hnode : forest.node? id = some node) (hhash : node.hash = "")
    (hchildren : forest.children id ≠ []) :
    forest.comparableHash? id = some (contentHash (shape (forest.childNodes id))) := by
  simp only [comparableHash?, hnode, hhash]
  cases hcase : forest.children id with
  | nil => exact absurd hcase hchildren
  | cons child more => simp [childNodes, hcase]

/-- **Nodes without hashes of their own, with children.** If the children have the same signatures
in small letters, each as often below the one node as below the other, then both nodes are compared
by one hash. The order of the children, the letter case of their names and what is below them do not
matter. -/
theorem comparableHash?_eq_of_perm (hnode : forest.node? id = some node)
    (hnode' : forest'.node? id' = some node') (hhash : node.hash = "") (hhash' : node'.hash = "")
    (hchildren : forest.children id ≠ []) (hchildren' : forest'.children id' ≠ [])
    (hsame : ((forest.childNodes id).map smallSignature).Perm
      ((forest'.childNodes id').map smallSignature)) :
    ∃ hash, forest.comparableHash? id = some hash ∧ forest'.comparableHash? id' = some hash := by
  refine ⟨_, comparableHash?_of_children hnode hhash hchildren, ?_⟩
  rw [comparableHash?_of_children hnode' hhash' hchildren', contentHash, contentHash,
    normalText_shape_eq_of_perm hsame]

/-- Two files hold the same functions in other letters and in another order, and there is something
below one of the functions. Two of the names differ in letter case only, so their order is that of
the children, and one name ends with a sigma. -/
theorem comparableHash?_eq_of_perm_other_letters :
    let function (name : String) (parent : Nat) (forest : Forest) :=
      forest.grow (.named .function name) (some parent)
    let old := function "ΟΔΟΣ" 0 (function "get" 0 (function "Get" 0
      (empty.grow (.named .file "a.ts") none)))
    let new := function "below" 2 (function "GET" 0 (function "οδος" 0 (function "get" 0
      (empty.grow (.named .file "b.ts") none))))
    ((old.childNodes 0).map signature = ["function:Get", "function:get", "function:ΟΔΟΣ"] ∧
        (new.childNodes 0).map signature = ["function:get", "function:οδος", "function:GET"]) ∧
      ∃ hash, old.comparableHash? 0 = some hash ∧ new.comparableHash? 0 = some hash := by
  intro function old new
  have hsame : ((old.childNodes 0).map smallSignature).Perm
      ((new.childNodes 0).map smallSignature) := by decide +kernel
  have hfile : old.node? 0 = some (.named .file "a.ts") := by decide +kernel
  have hfile' : new.node? 0 = some (.named .file "b.ts") := by decide +kernel
  exact ⟨by decide +kernel, comparableHash?_eq_of_perm hfile hfile' rfl rfl (by decide +kernel)
    (by decide +kernel) hsame⟩

end Forest

end CodeOutline
