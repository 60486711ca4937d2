import Mathlib.Data.List.SplitBy
import CodeOutline.Proofs.Text.Lines

/-!
# Taking lines out of a text

The lines of a text are known without their ends. To take some of them out, the text is cut into
lines that keep their line feeds: put one after the other again, they are the text, and any of them
may be left out without an effect on the others.

## Main definitions

* `Text.endedLines`: the lines of a text with their line feeds
* `Text.bareLine`: a line without its end
* `Text.keep`: what is left of a list without the places of some numbers
* `Text.keptUpTo`: how many of the numbers up to some number are kept

## Main results

* `Text.lines_eq_map_endedLines`: the lines of a text are its lines without their ends
* `Text.lines_flatten_keep`: the lines of a text from which lines are taken out
* `Text.zipIdx_keep`: the numbers of what is kept
-/

namespace CodeOutline.Text

variable {cs : List Char} {kept : List (List Char)} {α β : Type} {gone : Nat → Bool}

/-! ### Lines with their line feeds -/

/-- The lines of a text, each with the line feed that ends it. -/
def endedLines (cs : List Char) : List (List Char) :=
  cs.splitBy fun c _ => c != '\n'

/-- A line without its end. -/
def bareLine (piece : List Char) : List Char :=
  if piece.getLast? = some '\n' then dropReturn piece.dropLast else piece

theorem isChain_of_newline_notMem (h : '\n' ∉ cs) :
    cs.IsChain fun c _ => (c != '\n') = true := by
  refine List.Pairwise.isChain (List.pairwise_of_forall_mem_list fun c hc _ _ => ?_)
  rw [bne_iff_ne]
  exact ne_of_mem_of_not_mem hc h

theorem endedLines_of_newline_notMem (h : '\n' ∉ cs) (hne : cs ≠ []) : endedLines cs = [cs] :=
  List.splitBy_of_isChain hne (isChain_of_newline_notMem h)

theorem bareLine_of_newline_notMem (h : '\n' ∉ cs) : bareLine cs = cs := by
  refine if_neg fun hlast => h (List.mem_of_getLast? hlast)

/-- A line feed ends a line. -/
theorem endedLines_append_newline {front : List Char} (h : '\n' ∉ front) :
    endedLines (front ++ '\n' :: cs) = (front ++ ['\n']) :: endedLines cs := by
  have hchain : (front ++ ['\n']).IsChain fun c _ => (c != '\n') = true := by
    refine (isChain_of_newline_notMem h).append (List.isChain_singleton _) fun c hc _ _ => ?_
    rw [bne_iff_ne]
    exact ne_of_mem_of_not_mem (List.mem_of_getLast? hc) h
  rw [endedLines, List.append_cons, List.splitBy_append (by simp),
    List.splitBy_of_isChain (by simp) hchain]
  rfl

theorem bareLine_append_newline (front : List Char) :
    bareLine (front ++ ['\n']) = dropReturn front := by
  simp [bareLine]

theorem lines_go_eq {front : List Char} (h : '\n' ∉ front) :
    lines.go front cs = (endedLines (front.reverse ++ cs)).map bareLine := by
  have hreverse : '\n' ∉ front.reverse := by simpa using h
  induction cs generalizing front with
  | nil =>
    rw [lines.go, List.append_nil]
    by_cases hnil : front = []
    · simp [hnil, endedLines]
    · have hne : front.reverse ≠ [] := by simpa using hnil
      rw [endedLines_of_newline_notMem hreverse hne, List.map_singleton,
        bareLine_of_newline_notMem hreverse]
      simp [hnil]
  | cons c cs ih =>
    rw [lines.go]
    split
    · rename_i hc
      rw [hc, endedLines_append_newline hreverse, List.map_cons, bareLine_append_newline,
        ih (by simp) (by simp)]
      rfl
    · rename_i hc
      have hfront : '\n' ∉ c :: front := List.not_mem_cons_of_ne_of_not_mem (Ne.symm hc) h
      rw [ih hfront (by rwa [List.mem_reverse])]
      simp

/-- The lines of a text are its lines without their ends. -/
theorem lines_eq_map_endedLines (cs : List Char) : lines cs = (endedLines cs).map bareLine := by
  cases cs with
  | nil => rfl
  | cons c cs => exact lines_go_eq List.not_mem_nil

/-- Of the lines of a text, some may be left out. -/
theorem endedLines_flatten_of_sublist (h : kept.Sublist (endedLines cs)) :
    endedLines kept.flatten = kept := by
  refine List.splitBy_flatten (fun hnil => List.nil_notMem_splitBy _ cs (h.mem hnil))
    (fun piece hpiece => List.isChain_of_mem_splitBy (h.mem hpiece)) ?_
  -- a line that another one follows ends with a line feed, whichever that other line is
  let follows (piece next : List Char) : Prop := ∃ (ha : piece ≠ []) (_ : next ≠ []),
    (piece.getLast ha != '\n') = false
  have htrans : Trans follows follows follows :=
    ⟨fun ⟨ha, _, hlast⟩ ⟨_, hc, _⟩ => ⟨ha, hc, hlast⟩⟩
  have hpairs : (endedLines cs).Pairwise follows :=
    List.isChain_iff_pairwise.1
      (List.isChain_getLast_head_splitBy (fun c _ => c != '\n') cs)
  exact (hpairs.sublist h).isChain

/-! ### Numbered lines -/

/-- What is left of a list if those are gone whose places have some numbers, counted from one. -/
def keep (gone : Nat → Bool) (xs : List α) : List α :=
  ((xs.zipIdx 1).filter fun x => !gone x.2).map Prod.fst

/-- How many of the numbers from one up to some number are kept. -/
def keptUpTo (gone : Nat → Bool) : Nat → Nat
  | 0 => 0
  | number + 1 => keptUpTo gone number + (!gone (number + 1)).toNat

theorem keep_sublist (gone : Nat → Bool) (xs : List α) : (keep gone xs).Sublist xs := by
  have hsublist := (List.filter_sublist (p := fun x : α × Nat => !gone x.2)
    (l := xs.zipIdx 1)).map Prod.fst
  rwa [List.zipIdx_map_fst] at hsublist

theorem keep_map (gone : Nat → Bool) (f : α → β) (xs : List α) :
    keep gone (xs.map f) = (keep gone xs).map f := by
  rw [keep, List.zipIdx_map, List.filter_map, List.map_map, keep, List.map_map]
  rfl

/-- What is kept is numbered anew, by how many up to there are kept. -/
theorem zipIdx_keep (gone : Nat → Bool) (xs : List α) :
    (keep gone xs).zipIdx 1 = ((xs.zipIdx 1).filter fun x => !gone x.2).map fun x =>
      (x.1, keptUpTo gone x.2) := by
  -- from any number on, as well as from one
  have hfrom (number : Nat) :
      (((xs.zipIdx (number + 1)).filter fun x => !gone x.2).map Prod.fst).zipIdx
        (keptUpTo gone number + 1) =
      ((xs.zipIdx (number + 1)).filter fun x => !gone x.2).map fun x =>
        (x.1, keptUpTo gone x.2) := by
    induction xs generalizing number with
    | nil => rfl
    | cons x xs ih =>
      have hrest := ih (number + 1)
      cases hgone : gone (number + 1) with
      | true =>
        have hnumber : keptUpTo gone (number + 1) = keptUpTo gone number := by
          simp [keptUpTo, hgone]
        simpa [List.zipIdx_cons, hgone, hnumber] using hrest
      | false =>
        have hnumber : keptUpTo gone (number + 1) = keptUpTo gone number + 1 := by
          simp [keptUpTo, hgone]
        simpa [List.zipIdx_cons, hgone, hnumber] using hrest
  exact hfrom 0

/-- The lines of a text from which lines are taken out. -/
theorem lines_flatten_keep (gone : Nat → Bool) (cs : List Char) :
    lines (keep gone (endedLines cs)).flatten = keep gone (lines cs) := by
  rw [lines_eq_map_endedLines, endedLines_flatten_of_sublist (keep_sublist gone _), ← keep_map,
    ← lines_eq_map_endedLines]

end CodeOutline.Text
