import Mathlib.Data.List.Induction
import CodeOutline.Proofs.Path

/-!
# Segments of a path

A path is normal if its names are joined by single slashes. Whatever the path, its segments are
names without slashes, and no name is empty; joined again they give the normal form of the path.
From the normal form the segments are read off again, so two lists of such names that give one path
are equal.

## Main definitions

* `Path.IsSegment`: a name that can stand between slashes

## Main results

* `Path.isSegment_of_mem_segments`: what the segments of a path are
* `Path.segments_join`: the segments of joined names are the names
* `Path.eq_of_join_eq`: joined names tell the names
* `Path.mem_join_segments_iff`: nothing but slashes is lost of a path
* `Path.slashes_join`: there is one slash less than there are names
-/

namespace CodeOutline

/-! ### Cutting a text -/

namespace Text

variable {isCut : Char → Bool} {cs piece : List Char}

theorem splitWhere_eq_splitOnP (isCut : Char → Bool) (cs : List Char) :
    splitWhere isCut cs = cs.splitOnP isCut := by
  induction cs with
  | nil => rfl
  | cons c cs ih =>
    rw [splitWhere, ih, List.splitOnP_cons_eq_if_modifyHead]
    split
    · rfl
    · -- there is always a first piece to put the character in front of
      cases hpieces : cs.splitOnP isCut with
      | nil => exact absurd hpieces (List.splitOnP_ne_nil _ _)
      | cons piece pieces => rfl

/-- No piece holds a character at which the text is cut. -/
theorem isCut_eq_false_of_mem_splitWhere (h : piece ∈ splitWhere isCut cs) :
    ∀ c ∈ piece, isCut c = false := by
  induction cs generalizing piece with
  | nil => simp_all [splitWhere]
  | cons c cs ih =>
    rw [splitWhere] at h
    split at h
    · rcases List.mem_cons.1 h with rfl | h
      · simp
      · exact ih h
    · rename_i hkeep
      have hc : isCut c = false := Bool.eq_false_iff.2 hkeep
      cases hpieces : splitWhere isCut cs with
      | nil => simp_all
      | cons first pieces =>
        rw [hpieces] at h ih
        rcases List.mem_cons.1 h with rfl | h
        · -- the first piece has one more character, and it is kept
          intro d hd
          rcases List.mem_cons.1 hd with rfl | hd
          · exact hc
          · exact ih List.mem_cons_self d hd
        · exact ih (List.mem_cons_of_mem _ h)

/-- What is not cut at stays in one of the pieces. -/
theorem exists_mem_splitWhere_iff (isCut : Char → Bool) {c : Char} (hc : isCut c = false)
    (cs : List Char) :
    (∃ piece ∈ splitWhere isCut cs, c ∈ piece) ↔ c ∈ cs := by
  induction cs with
  | nil => simp [splitWhere]
  | cons d cs ih =>
    rw [List.mem_cons, ← ih, splitWhere]
    split
    · rename_i hd
      have hne : c ≠ d := by
        rintro rfl
        simp [hc] at hd
      simp [hne]
    · cases splitWhere isCut cs with
      | nil => simp
      | cons first pieces => simp [or_assoc]

end Text

/-! ### Segments -/

namespace Path

variable {path name : String} {names names' : List String}

/-- A name that can stand between slashes: it is not empty and holds none. -/
def IsSegment (name : String) : Prop :=
  name ≠ "" ∧ '/' ∉ name.toList

theorem isSegment_of_mem_segments (h : name ∈ segments path) : IsSegment name := by
  obtain ⟨piece, hpiece, rfl⟩ := List.mem_map.1 h
  obtain ⟨hpiece, hne⟩ := List.mem_filter.1 hpiece
  constructor
  · simpa [String.ofList_eq_empty_iff] using hne
  · rw [String.toList_ofList]
    intro hmem
    simpa using Text.isCut_eq_false_of_mem_splitWhere hpiece _ hmem

/-- Names that can stand between slashes are the segments of what they are joined to. -/
theorem segments_join (h : ∀ name ∈ names, IsSegment name) : segments (join names) = names := by
  rcases eq_or_ne names [] with rfl | hne
  · rfl
  · have hcut : Text.splitWhere (· == '/') (join names).toList = names.map String.toList := by
      rw [Text.splitWhere_eq_splitOnP, ← List.splitOn_eq_splitOnP, join, String.toList_intercalate]
      apply List.splitOn_intercalate
      · intro piece hpiece
        obtain ⟨name, hname, rfl⟩ := List.mem_map.1 hpiece
        exact (h name hname).2
      · simpa using hne
    have hkeep : (names.map String.toList).filter (!·.isEmpty) = names.map String.toList := by
      apply List.filter_eq_self.2
      intro piece hpiece
      obtain ⟨name, hname, rfl⟩ := List.mem_map.1 hpiece
      simpa using (h name hname).1
    rw [segments, hcut, hkeep, List.map_map]
    simp [Function.comp_def]

theorem eq_of_join_eq (h : ∀ name ∈ names, IsSegment name) (h' : ∀ name ∈ names', IsSegment name)
    (heq : join names = join names') : names = names' := by
  rw [← segments_join h, heq, segments_join h']

theorem mem_join_iff {c : Char} (hc : c ≠ '/') :
    c ∈ (join names).toList ↔ ∃ name ∈ names, c ∈ name.toList := by
  induction names using List.reverseRecOn with
  | nil => simp [join]
  | append_singleton names last ih =>
    rw [join_append_singleton]
    split
    · rename_i hnil
      simp [hnil]
    · simp [ih, hc, or_and_right, exists_or]

/-- Slashes are all that is lost of a path. -/
theorem mem_join_segments_iff {c : Char} (hc : c ≠ '/') :
    c ∈ (join (segments path)).toList ↔ c ∈ path.toList := by
  have hcut : (c == '/') = false := beq_eq_false_iff_ne.2 hc
  rw [mem_join_iff hc, ← Text.exists_mem_splitWhere_iff (· == '/') hcut path.toList]
  constructor
  · rintro ⟨name, hname, hmem⟩
    obtain ⟨piece, hpiece, rfl⟩ := List.mem_map.1 hname
    exact ⟨piece, (List.mem_filter.1 hpiece).1, by simpa using hmem⟩
  · rintro ⟨piece, hpiece, hmem⟩
    have hkeep : (!piece.isEmpty) = true := by
      simpa using List.ne_nil_of_mem hmem
    exact ⟨String.ofList piece, List.mem_map.2 ⟨piece, List.mem_filter.2 ⟨hpiece, hkeep⟩, rfl⟩,
      by simpa using hmem⟩

/-- Between names stands one slash less than there are names. -/
theorem slashes_join (h : ∀ name ∈ names, IsSegment name) (hne : names ≠ []) :
    slashes (join names) + 1 = names.length := by
  induction names using List.reverseRecOn with
  | nil => exact absurd rfl hne
  | append_singleton names last ih =>
    have hlast : last.toList.count '/' = 0 := List.count_eq_zero.2 (h last (by simp)).2
    rw [join_append_singleton, List.length_append, List.length_singleton]
    split
    · rename_i hnil
      simp [hnil, slashes, hlast]
    · rename_i hnames
      rw [← ih (fun name hname => h name (List.mem_append_left _ hname)) hnames]
      simp [slashes, hlast]

end Path

end CodeOutline
