import Mathlib.Data.List.TakeWhile
import CodeOutline.Path

/-!
# Joining and cutting paths

The path of a directory or file is made of the path above it, a slash and its name. The name holds
no slash, so the last slash of the path tells the two apart again. In the same way the last `#` shows
a name without `#` that stands in a file.

## Main definitions

* `Path.lastPart`: what stands behind the last mark of some kind

## Main results

* `Path.join_append_singleton`: a path with one more name
* `Path.directory_append`: what stands before the last slash
* `Path.append_inj`: a path in front and a name behind are found again in the whole
* `Path.lastPart_append`: what stands behind the last mark
* `Path.owningFile_append_mark`, `Path.owningFile_eq_self_iff`: what stands before the first `#`
-/

namespace CodeOutline.Path

variable {front front' name name' : String}

/-- A path with one more name behind it. -/
theorem join_append_singleton (names : List String) (name : String) :
    join (names ++ [name]) = if names = [] then name else join names ++ "/" ++ name := by
  rw [join, join]
  split
  · rename_i hnil
    rw [hnil, List.nil_append, String.intercalate_singleton]
  · rename_i hne
    rw [String.intercalate_append_of_ne_nil hne (List.cons_ne_nil _ _),
      String.intercalate_singleton]

theorem join_append_singleton_ne_empty (names : List String) (hname : name ≠ "") :
    join (names ++ [name]) ≠ "" := by
  rw [join_append_singleton]
  split
  · exact hname
  · simp [hname]

theorem dropSegment_append {front name : List Char} (hname : '/' ∉ name) :
    dropSegment (front ++ '/' :: name) = front := by
  -- from the back, the name ends where the first slash comes
  have hkeep : ∀ c ∈ name.reverse, (c != '/') = true := fun c hc => by
    have hc' := List.mem_reverse.1 hc
    exact bne_iff_ne.2 fun h => hname (h ▸ hc')
  have hreverse : (front ++ '/' :: name).reverse = name.reverse ++ '/' :: front.reverse := by simp
  rw [dropSegment, hreverse, List.dropWhile_append_of_pos hkeep]
  simp

/-- What stands before the last slash of a path. -/
theorem directory_append (front : String) (hname : '/' ∉ name.toList) :
    directory (front ++ "/" ++ name) = front := by
  have hlist : (front ++ "/" ++ name).toList = front.toList ++ '/' :: name.toList := by simp
  rw [directory, hlist, dropSegment_append hname, String.ofList_toList]

/-- The last slash tells the path in front from the name behind it. -/
theorem append_inj (hname : '/' ∉ name.toList) (hname' : '/' ∉ name'.toList)
    (h : front ++ "/" ++ name = front' ++ "/" ++ name') : front = front' ∧ name = name' := by
  have hfront : front = front' := by
    rw [← directory_append front hname, h, directory_append front' hname']
  subst hfront
  refine ⟨rfl, String.toList_inj.1 ?_⟩
  have hlist := congrArg String.toList h
  simpa using hlist

/-- A name without a slash is no path that leads through a directory. -/
theorem ne_append (front : String) (hname : '/' ∉ name.toList) : name ≠ front ++ "/" ++ name' := by
  rintro rfl
  simp at hname

/-! ### Behind the last mark -/

/-- What stands behind the last mark, or everything if there is none. -/
def lastPart (mark : Char) (path : String) : String :=
  String.ofList (path.toList.reverse.takeWhile (· != mark)).reverse

variable {mark : Char} {path : String}

theorem lastPart_of_notMem (hname : mark ∉ name.toList) : lastPart mark name = name := by
  have hkeep : ∀ c ∈ name.toList.reverse, (c != mark) = true := fun c hc =>
    bne_iff_ne.2 fun h => hname (h ▸ List.mem_reverse.1 hc)
  rw [lastPart, List.takeWhile_eq_self_iff.2 hkeep, List.reverse_reverse, String.ofList_toList]

theorem lastPart_append {front : List Char} (hname : mark ∉ name.toList)
    (hpath : path.toList = front ++ mark :: name.toList) : lastPart mark path = name := by
  have hkeep : ∀ c ∈ name.toList.reverse, (c != mark) = true := fun c hc =>
    bne_iff_ne.2 fun h => hname (h ▸ List.mem_reverse.1 hc)
  have hreverse : path.toList.reverse = name.toList.reverse ++ mark :: front.reverse := by
    simp [hpath]
  rw [lastPart, hreverse, List.takeWhile_append_of_pos hkeep]
  simp

/-! ### Before the first `#` -/

/-- What stands before the first `#` does not depend on what follows one. -/
theorem owningFile_append_mark (file name : String) :
    owningFile (file ++ "#" ++ name) = owningFile file := by
  have hlist : (file ++ "#" ++ name).toList = file.toList ++ '#' :: name.toList := by simp
  have hstop : ('#' :: name.toList).takeWhile (· != '#') = [] := by simp
  rw [owningFile, hlist, List.takeWhile_append, hstop, owningFile]
  split
  · rename_i hall
    have hself := (List.takeWhile_prefix (· != '#')).eq_of_length hall
    rw [List.append_nil, hself]
  · rfl

theorem owningFile_eq_self_iff : owningFile path = path ↔ '#' ∉ path.toList := by
  have hlist : owningFile path = path ↔ path.toList.takeWhile (· != '#') = path.toList := by
    rw [owningFile, ← String.toList_inj, String.toList_ofList]
  rw [hlist, List.takeWhile_eq_self_iff]
  constructor
  · intro hkeep hmem
    simpa using hkeep '#' hmem
  · intro hfree c hc
    exact bne_iff_ne.2 fun heq => hfree (heq ▸ hc)

theorem owningFile_append {file : String} (hfile : '#' ∉ file.toList) (name : String) :
    owningFile (file ++ "#" ++ name) = file := by
  rw [owningFile_append_mark, owningFile_eq_self_iff.2 hfile]

end CodeOutline.Path
