import Mathlib.Data.List.Induction
import Mathlib.Data.List.Pairwise
import Mathlib.Data.List.Perm.Basic
import CodeOutline.Diff.Words
import CodeOutline.Proofs.Text.SmallLetters

/-!
# How names are split into words

A name is read character by character, with the word that is open and the character before. What is
put down is each character that is no separator, in small letters, once and in order. Where words
start can be told from the name alone, by looking at two neighbours: the first character of a word
follows a separator or nothing, or it is a capital letter directly behind a small one or a digit. A
word ends where the next one starts, or in front of a separator.

## Main definitions

* `IsKept`: a place of a name that belongs to a word
* `StartsWordAt`: a place of a name where a word starts
* `WordSpans`: the places of the words, from some place on
* `IsSplitInto`: the words of a name
* `OpenWord`: how far a name was read

## Main results

* `flatten_splitWords`: nothing but separators is lost
* `OpenWord.exists_wordSpans`: the words that are read from a place on
* `WordSpans.unique`: there is one way to split a name
* `isSplitInto_iff`: the words of a name
-/

namespace CodeOutline

variable {cs front run rest word : List Char} {c p : Char} {i start : Nat}
  {spans spans' : List (Nat × Nat)} {span span' : Nat × Nat}

/-! ### Places of a name -/

/-- A character of a word stands at this place. -/
def IsKept (cs : List Char) (i : Nat) : Prop :=
  ∃ c, cs[i]? = some c ∧ c ≠ '_' ∧ c ≠ '-'

/-- A word starts at this place. -/
inductive StartsWordAt (cs : List Char) (i : Nat) : Prop where
  /-- the first character that is kept -/
  | first (kept : IsKept cs i) (only : ∀ j < i, ¬ IsKept cs j)
  /-- a character behind a run of separators -/
  | behindSeparators {j : Nat} (next : i = j + 1) (kept : IsKept cs i)
    (separator : cs[j]? = some '_' ∨ cs[j]? = some '-')
  /-- a capital letter directly behind a small one or a digit -/
  | capital {j : Nat} {p c : Char} (next : i = j + 1) (before : cs[j]? = some p)
    (here : cs[i]? = some c) (capital : Text.isCapital c = true)
    (small : Text.isSmall p = true ∨ Text.isDigit p = true)

/-- The words of a name from the place `start` on, each by its first place and the place behind it:
they follow each other, take up what is kept, and start where words start. -/
structure WordSpans (cs : List Char) (start : Nat) (spans : List (Nat × Nat)) : Prop where
  ordered : spans.Pairwise fun span next => span.2 ≤ next.1
  nonempty : ∀ span ∈ spans, start ≤ span.1 ∧ span.1 < span.2
  kept : ∀ i, start ≤ i → ((∃ span ∈ spans, span.1 ≤ i ∧ i < span.2) ↔ IsKept cs i)
  starts : ∀ i, start ≤ i → ((∃ span ∈ spans, span.1 = i) ↔ StartsWordAt cs i)

/-- What a name says between two places, in small letters. -/
def wordAt (cs : List Char) (span : Nat × Nat) : List Char :=
  (cs.extract span.1 span.2).flatMap Text.smallForm

/-- The words are those of the name: they are no more and no less than its characters in small
letters, without the separators, and each of them goes from where a word starts to where it ends. -/
structure IsSplitInto (name : List Char) (words : List (List Char)) : Prop where
  word : ∀ word ∈ words, word ≠ [] ∧ '_' ∉ word ∧ '-' ∉ word
  flatten : words.flatten = (name.filter fun c => c ≠ '_' ∧ c ≠ '-').flatMap Text.smallForm
  spans : ∃ spans, WordSpans name 0 spans ∧ words = spans.map (wordAt name)

theorem isWordSeparator_iff : isWordSeparator c = true ↔ c = '_' ∨ c = '-' := by
  simp [isWordSeparator]

theorem isWordSeparator_eq_false_iff : isWordSeparator c = false ↔ c ≠ '_' ∧ c ≠ '-' := by
  simp [isWordSeparator]

/-- No separator is a capital letter. -/
theorem isWordSeparator_of_isCapital (h : Text.isCapital c = true) : isWordSeparator c = false := by
  rw [isWordSeparator_eq_false_iff]
  constructor <;> rintro rfl <;> exact absurd h (by decide +kernel)

theorem isKept_iff_of_getElem? (hc : cs[i]? = some c) :
    IsKept cs i ↔ isWordSeparator c = false := by
  simp [IsKept, hc, isWordSeparator_eq_false_iff]

theorem lt_length_of_isKept (h : IsKept cs i) : i < cs.length := by
  obtain ⟨c, hc, -⟩ := h
  exact (List.getElem?_eq_some_iff.1 hc).1

theorem StartsWordAt.isKept (h : StartsWordAt cs i) : IsKept cs i := by
  cases h with
  | first kept only => exact kept
  | behindSeparators next kept separator => exact kept
  | capital next before here capital small =>
    exact (isKept_iff_of_getElem? here).2 (isWordSeparator_of_isCapital capital)

/-- Behind a character that is kept, a word starts at a capital letter only. -/
theorem startsWordAt_succ_iff (hp : cs[i]? = some p) (hc : cs[i + 1]? = some c)
    (hkept : isWordSeparator p = false) :
    StartsWordAt cs (i + 1) ↔ startsWord (some p) c = true := by
  simp only [startsWord, Option.any_some, Bool.and_eq_true, Bool.or_eq_true]
  constructor
  · intro h
    cases h with
    | first kept only =>
      exact absurd ((isKept_iff_of_getElem? hp).2 hkept) (only i (Nat.lt_succ_self i))
    | behindSeparators next kept separator =>
      obtain rfl := Nat.succ.inj next
      rw [hp, Option.some_inj, Option.some_inj, ← isWordSeparator_iff, hkept] at separator
      exact absurd separator Bool.false_ne_true
    | capital next before here capital small =>
      obtain rfl := Nat.succ.inj next
      obtain rfl := Option.some.inj (before.symm.trans hp)
      obtain rfl := Option.some.inj (here.symm.trans hc)
      exact ⟨capital, small⟩
  · rintro ⟨hcapital, hsmall⟩
    exact .capital rfl hp hc hcapital hsmall

/-! ### Nothing is lost -/

theorem flatten_finishWord (word : List Char) : (finishWord word).flatten = word := by
  rw [finishWord]
  split <;> simp_all

theorem flatten_wordsFrom (word : List Char) (previous : Option Char) (cs : List Char) :
    (wordsFrom word previous cs).flatten =
      word ++ (cs.filter (!isWordSeparator ·)).flatMap Text.smallForm := by
  induction cs generalizing word previous with
  | nil => simp [wordsFrom, flatten_finishWord]
  | cons c cs ih =>
    rw [wordsFrom]
    split
    · rename_i hc
      simp [flatten_finishWord, ih, hc]
    split <;> rename_i hc _ <;> simp [flatten_finishWord, ih, hc]

/-- Nothing but separators is lost. -/
theorem flatten_splitWords (name : String) : (splitWords name).flatten =
    (name.toList.filter fun c => c ≠ '_' ∧ c ≠ '-').flatMap Text.smallForm := by
  rw [splitWords, flatten_wordsFrom, List.nil_append]
  congr 2
  funext c
  rw [Bool.eq_iff_iff]
  simp [isWordSeparator]

theorem ne_nil_of_mem_finishWord (h : run ∈ finishWord word) : run ≠ [] := by
  rw [finishWord] at h
  split at h <;> simp_all

theorem ne_nil_of_mem_wordsFrom {previous : Option Char} (h : run ∈ wordsFrom word previous cs) :
    run ≠ [] := by
  induction cs generalizing word previous with
  | nil => exact ne_nil_of_mem_finishWord h
  | cons c cs ih =>
    rw [wordsFrom] at h
    split at h
    · exact (List.mem_append.1 h).elim ne_nil_of_mem_finishWord ih
    split at h
    · exact (List.mem_append.1 h).elim ne_nil_of_mem_finishWord ih
    · exact ih h

/-- A separator is the small form of no other character. -/
theorem eq_of_separator_mem_smallForm (hc : isWordSeparator c = true)
    (h : c ∈ Text.smallForm p) : c = p := by
  have hunderscore : Text.HasNoCapital '_'.toNat := by decide +kernel
  have hhyphen : Text.HasNoCapital '-'.toNat := by decide +kernel
  obtain rfl | rfl := isWordSeparator_iff.1 hc
  · exact Text.eq_of_mem_smallForm hunderscore h
  · exact Text.eq_of_mem_smallForm hhyphen h

/-- No separator is in a word. -/
theorem isWordSeparator_of_mem_splitWords {name : String} (hword : word ∈ splitWords name)
    (hc : c ∈ word) : isWordSeparator c = false := by
  have hmem : c ∈ (splitWords name).flatten := List.mem_flatten.2 ⟨word, hword, hc⟩
  rw [splitWords, flatten_wordsFrom, List.nil_append, List.mem_flatMap] at hmem
  obtain ⟨p, hp, hform⟩ := hmem
  by_contra hseparator
  rw [Bool.not_eq_false] at hseparator
  obtain rfl := eq_of_separator_mem_smallForm hseparator hform
  simp [hseparator] at hp

/-! ### The places of the words -/

namespace WordSpans

/-- There are no words behind the end. -/
theorem nil (cs : List Char) : WordSpans cs cs.length [] where
  ordered := .nil
  nonempty := by simp
  kept i hi := by
    have hnot : ¬ IsKept cs i := fun h => absurd (lt_length_of_isKept h) (Nat.not_lt.2 hi)
    simp [hnot]
  starts i hi := by
    have hnot : ¬ StartsWordAt cs i := fun h =>
      absurd (lt_length_of_isKept h.isKept) (Nat.not_lt.2 hi)
    simp [hnot]

/-- A separator is no part of a word. -/
theorem skip (h : WordSpans cs (start + 1) spans) (hgap : ¬ IsKept cs start) :
    WordSpans cs start spans where
  ordered := h.ordered
  nonempty span hspan := by
    obtain ⟨hstart, hlt⟩ := h.nonempty span hspan
    exact ⟨by omega, hlt⟩
  kept i hi := by
    obtain rfl | hi := Nat.eq_or_lt_of_le hi
    · refine iff_of_false ?_ hgap
      rintro ⟨span, hspan, hle, -⟩
      have hstart := (h.nonempty span hspan).1
      omega
    · exact h.kept i hi
  starts i hi := by
    obtain rfl | hi := Nat.eq_or_lt_of_le hi
    · refine iff_of_false ?_ fun hword => hgap hword.isKept
      rintro ⟨span, hspan, heq⟩
      have hstart := (h.nonempty span hspan).1
      omega
    · exact h.starts i hi

/-- A word in front of the others. -/
theorem cons {stop : Nat} (h : WordSpans cs stop spans) (hlt : start < stop)
    (hkept : ∀ i, start ≤ i → i < stop → IsKept cs i) (hfirst : StartsWordAt cs start)
    (hinside : ∀ i, start < i → i < stop → ¬ StartsWordAt cs i) :
    WordSpans cs start ((start, stop) :: spans) where
  ordered := List.pairwise_cons.2 ⟨fun span hspan => (h.nonempty span hspan).1, h.ordered⟩
  nonempty := by
    refine List.forall_mem_cons.2 ⟨⟨Nat.le_refl _, hlt⟩, fun span hspan => ?_⟩
    obtain ⟨hstop, hspan⟩ := h.nonempty span hspan
    exact ⟨by omega, hspan⟩
  kept i hi := by
    rw [List.exists_mem_cons_iff]
    by_cases hstop : i < stop
    · exact iff_of_true (.inl ⟨hi, hstop⟩) (hkept i hi hstop)
    · rw [← h.kept i (Nat.not_lt.1 hstop), or_iff_right fun hin => hstop hin.2]
  starts i hi := by
    rw [List.exists_mem_cons_iff]
    by_cases hstop : i < stop
    · -- the words behind start later
      have hlater : ¬ ∃ span ∈ spans, span.1 = i := by
        rintro ⟨span, hspan, heq⟩
        have hle := (h.nonempty span hspan).1
        omega
      rw [or_iff_left hlater]
      constructor
      · rintro rfl
        exact hfirst
      · intro hword
        by_contra hne
        exact hinside i (Nat.lt_of_le_of_ne hi hne) hstop hword
    · rw [← h.starts i (Nat.not_lt.1 hstop), or_iff_right]
      dsimp only
      omega

/-- Two words have no place in common. -/
theorem apart (h : WordSpans cs start spans) (hspan : span ∈ spans) (hspan' : span' ∈ spans)
    (hne : span ≠ span') : span.2 ≤ span'.1 ∨ span'.2 ≤ span.1 := by
  have hsymm : Std.Symm fun a b : Nat × Nat => a.2 ≤ b.1 ∨ b.2 ≤ a.1 := ⟨fun _ _ => Or.symm⟩
  have hapart : spans.Pairwise fun a b => a.2 ≤ b.1 ∨ b.2 ≤ a.1 := h.ordered.imp .inl
  exact hapart.forall hspan hspan' hne

/-- A word does not go on beyond the end it has in another reading. -/
theorem stop_le (h : WordSpans cs start spans) (h' : WordSpans cs start spans')
    (hspan : span ∈ spans) (hspan' : span' ∈ spans') (hfirst : span.1 = span'.1) :
    span.2 ≤ span'.2 := by
  by_contra hlt
  rw [Nat.not_le] at hlt
  obtain ⟨hstart, hnonempty⟩ := h'.nonempty span' hspan'
  -- the place behind the shorter word is kept, so another word has to start there
  have hkept : IsKept cs span'.2 := (h.kept _ (by omega)).1 ⟨span, hspan, by omega, hlt⟩
  obtain ⟨next, hnext, hle, hin⟩ := (h'.kept _ (by omega)).2 hkept
  have hword : StartsWordAt cs span'.2 := by
    refine (h'.starts _ (by omega)).1 ⟨next, hnext, ?_⟩
    rcases h'.apart hnext hspan' (by rintro rfl; omega) with hbefore | hbehind <;> omega
  obtain ⟨other, hother, heq⟩ := (h.starts _ (by omega)).2 hword
  have hnonempty' := (h.nonempty other hother).2
  rcases h.apart hother hspan (by rintro rfl; omega) with hbefore | hbehind <;> omega

theorem subset (h : WordSpans cs start spans) (h' : WordSpans cs start spans') :
    spans ⊆ spans' := by
  intro span hspan
  have hstart := (h.nonempty span hspan).1
  have hword := (h.starts _ hstart).1 ⟨span, hspan, rfl⟩
  obtain ⟨span', hspan', hfirst⟩ := (h'.starts _ hstart).2 hword
  -- the two words that start here end at one place
  have hle := h.stop_le h' hspan hspan' hfirst.symm
  have hge := h'.stop_le h hspan' hspan hfirst
  have heq : span' = span := Prod.ext hfirst (Nat.le_antisymm hge hle)
  exact heq ▸ hspan'

theorem nodup (h : WordSpans cs start spans) : spans.Nodup := by
  refine List.Pairwise.imp_of_mem (fun {span next} hspan _ hle heq => ?_) h.ordered
  have hlt := (h.nonempty span hspan).2
  rw [← heq] at hle
  omega

/-- There is one way to split a name into words. -/
theorem unique (h : WordSpans cs start spans) (h' : WordSpans cs start spans') :
    spans = spans' := by
  have hperm : spans.Perm spans' := (List.perm_ext_iff_of_nodup h.nodup h'.nodup).2
    fun _ => ⟨fun hspan => h.subset h' hspan, fun hspan => h'.subset h hspan⟩
  refine List.Perm.eq_of_pairwise (fun span span' hspan hspan' hle hge => ?_) h.ordered h'.ordered
    hperm
  have hlt := (h.nonempty span hspan).2
  have hlt' := (h'.nonempty span' hspan').2
  omega

end WordSpans

/-- A name was read up to `rest`, and the last characters that were read, `run`, are the word that is
open. There is none at the start of a name and behind a separator. -/
structure OpenWord (cs front run rest : List Char) : Prop where
  eq : front ++ (run ++ rest) = cs
  kept : ∀ c ∈ run, isWordSeparator c = false
  behind : run = [] → ∀ c ∈ front.getLast?, isWordSeparator c = true
  starts : run ≠ [] → StartsWordAt cs front.length
  inside : ∀ i, front.length < i → i < front.length + run.length → ¬ StartsWordAt cs i

namespace OpenWord

theorem initial (cs : List Char) : OpenWord cs [] [] cs where
  eq := rfl
  kept := by simp
  behind := by simp
  starts h := absurd rfl h
  inside := by simp

theorem getElem?_next (h : OpenWord cs front run (c :: rest)) :
    cs[front.length + run.length]? = some c := by
  rw [← h.eq, ← List.append_assoc, ← List.length_append]
  simp

/-- The character behind the open word starts a word if there is no such word, or as the rule for two
neighbours says. -/
theorem startsWordAt_iff (h : OpenWord cs front run (c :: rest)) (hc : isWordSeparator c = false) :
    StartsWordAt cs (front.length + run.length) ↔
      run = [] ∨ startsWord run.getLast? c = true := by
  have hnext := h.getElem?_next
  have hkept := (isKept_iff_of_getElem? hnext).2 hc
  cases run using List.reverseRecOn with
  | nil =>
    -- without an open word, the name starts here or a separator comes before
    refine iff_of_true ?_ (.inl rfl)
    cases front using List.reverseRecOn with
    | nil => exact .first hkept (by simp)
    | append_singleton front p =>
      have hp : cs[front.length]? = some p := by simp [← h.eq]
      have hseparator := isWordSeparator_iff.1 (h.behind rfl p (by simp))
      refine .behindSeparators (j := front.length) (by simp) hkept ?_
      rwa [hp, Option.some_inj, Option.some_inj]
  | append_singleton run p =>
    have hp : cs[front.length + run.length]? = some p := by
      rw [← h.eq, List.append_assoc, ← List.append_assoc, ← List.length_append]
      simp
    rw [List.length_append, List.length_singleton, ← Nat.add_assoc] at hnext ⊢
    rw [startsWordAt_succ_iff hp hnext (h.kept p (by simp))]
    simp

/-- A separator ends the open word. -/
theorem separator (h : OpenWord cs front run (c :: rest)) (hc : isWordSeparator c = true) :
    OpenWord cs (front ++ (run ++ [c])) [] rest where
  eq := by simp [← h.eq]
  kept := by simp
  behind _ p hp := by
    obtain rfl : c = p := by simpa using hp
    exact hc
  starts hne := absurd rfl hne
  inside i hi hlt := by
    rw [List.length_nil, Nat.add_zero] at hlt
    omega

/-- A capital letter ends the open word and starts another. -/
theorem capital (h : OpenWord cs front run (c :: rest)) (hc : isWordSeparator c = false)
    (hword : startsWord run.getLast? c = true) : OpenWord cs (front ++ run) [c] rest where
  eq := by simp [← h.eq]
  kept := by simp [hc]
  behind hnil := by simp at hnil
  starts _ := by
    rw [List.length_append]
    exact (h.startsWordAt_iff hc).2 (.inr hword)
  inside i hi hlt := by
    rw [List.length_singleton] at hlt
    omega

/-- Any other character belongs to the open word, or starts one if there is none. -/
theorem goOn (h : OpenWord cs front run (c :: rest)) (hc : isWordSeparator c = false)
    (hword : startsWord run.getLast? c = false) : OpenWord cs front (run ++ [c]) rest where
  eq := by simp [← h.eq]
  kept := by
    simp only [List.mem_append, List.mem_singleton]
    rintro d (hd | rfl)
    · exact h.kept d hd
    · exact hc
  behind hnil := by simp at hnil
  starts _ := by
    by_cases hrun : run = []
    · have hfirst := (h.startsWordAt_iff hc).2 (.inl hrun)
      rwa [hrun, List.length_nil, Nat.add_zero] at hfirst
    · exact h.starts hrun
  inside i hi hlt := by
    rw [List.length_append, List.length_singleton, ← Nat.add_assoc] at hlt
    obtain rfl | hbefore := Nat.eq_or_lt_of_le (Nat.le_of_lt_succ hlt)
    · -- the new character is not the first of its word
      have hrun : run ≠ [] := by
        rintro rfl
        simp at hi
      rw [h.startsWordAt_iff hc, or_iff_right hrun, hword]
      exact Bool.false_ne_true
    · exact h.inside i hi hbefore

/-- The open word is put in front of those that follow it. -/
theorem exists_finishWord (h : OpenWord cs front run rest)
    (hspans : WordSpans cs (front.length + run.length) spans) :
    ∃ spans', WordSpans cs front.length spans' ∧
      finishWord (run.flatMap Text.smallForm) ++ spans.map (wordAt cs) =
        spans'.map (wordAt cs) := by
  by_cases hrun : run = []
  · subst hrun
    exact ⟨spans, hspans, rfl⟩
  have hpos : 0 < run.length := List.length_pos_of_ne_nil hrun
  refine ⟨(front.length, front.length + run.length) :: spans,
    hspans.cons (by omega) ?_ (h.starts hrun) h.inside, ?_⟩
  · intro i hi hlt
    obtain ⟨k, rfl⟩ := Nat.exists_eq_add_of_le hi
    have hk : k < run.length := by omega
    have hget : cs[front.length + k]? = some run[k] := by
      rw [← h.eq, List.getElem?_append_right (Nat.le_add_right _ _), Nat.add_sub_cancel_left,
        List.getElem?_append_left hk, List.getElem?_eq_getElem hk]
    exact (isKept_iff_of_getElem? hget).2 (h.kept _ (List.getElem_mem hk))
  · have hword : run.flatMap Text.smallForm ≠ [] := by
      obtain ⟨c, run, rfl⟩ := List.exists_cons_of_ne_nil hrun
      simp [Text.smallForm_ne_nil]
    have hextract : cs.extract front.length (front.length + run.length) = run := by
      simp [← h.eq]
    simp [finishWord, hword, wordAt, hextract]

/-- **The words that are read from a place on** start and end where words of the name do. -/
theorem exists_wordSpans (h : OpenWord cs front run rest) :
    ∃ spans, WordSpans cs front.length spans ∧
      wordsFrom (run.flatMap Text.smallForm) run.getLast? rest = spans.map (wordAt cs) := by
  -- along what is still to be read, with the open word as it grows
  induction rest generalizing front run with
  | nil =>
    have hend : WordSpans cs (front.length + run.length) [] := by
      have hlength : front.length + run.length = cs.length := by simp [← h.eq]
      rw [hlength]
      exact .nil cs
    obtain ⟨spans, hspans, heq⟩ := h.exists_finishWord hend
    rw [List.map_nil, List.append_nil] at heq
    exact ⟨spans, hspans, heq⟩
  | cons c rest ih =>
    rw [wordsFrom]
    by_cases hc : isWordSeparator c = true
    · -- the separator lies between the open word and the later ones
      obtain ⟨later, hlater, hwords⟩ := ih (h.separator hc)
      rw [List.length_append, List.length_append, List.length_singleton, ← Nat.add_assoc] at hlater
      have hgap : ¬ IsKept cs (front.length + run.length) := by
        rw [isKept_iff_of_getElem? h.getElem?_next, hc]
        exact Bool.false_ne_true.symm
      obtain ⟨spans, hspans, heq⟩ := h.exists_finishWord (hlater.skip hgap)
      refine ⟨spans, hspans, ?_⟩
      rw [if_pos hc, ← heq, ← hwords]
      rfl
    rw [if_neg hc]
    rw [Bool.not_eq_true] at hc
    by_cases hword : startsWord run.getLast? c = true
    · -- the later words start right behind the open one
      obtain ⟨later, hlater, hwords⟩ := ih (h.capital hc hword)
      rw [List.length_append] at hlater
      obtain ⟨spans, hspans, heq⟩ := h.exists_finishWord hlater
      refine ⟨spans, hspans, ?_⟩
      rw [if_pos hword, ← heq, ← hwords]
      simp
    · obtain ⟨spans, hspans, hwords⟩ := ih (h.goOn hc (Bool.eq_false_iff.2 hword))
      refine ⟨spans, hspans, ?_⟩
      rw [if_neg hword, ← hwords]
      simp

end OpenWord

theorem isSplitInto_splitWords (name : String) : IsSplitInto name.toList (splitWords name) where
  word word hword := by
    have hnone := fun c (hc : c ∈ word) => isWordSeparator_of_mem_splitWords hword hc
    refine ⟨ne_nil_of_mem_wordsFrom hword, fun hc => ?_, fun hc => ?_⟩
    · exact absurd (hnone _ hc) (by decide)
    · exact absurd (hnone _ hc) (by decide)
  flatten := flatten_splitWords name
  spans := (OpenWord.initial name.toList).exists_wordSpans

/-- **The words of a name** are those it is split into, and no others. -/
theorem isSplitInto_iff (name : String) (words : List (List Char)) :
    IsSplitInto name.toList words ↔ words = splitWords name := by
  constructor
  · intro h
    obtain ⟨spans, hspans, rfl⟩ := h.spans
    obtain ⟨spans', hspans', heq⟩ := (isSplitInto_splitWords name).spans
    rw [heq, hspans.unique hspans']
  · rintro rfl
    exact isSplitInto_splitWords name

example : (splitWords "_-parseHTTPServer2Go__x").map String.ofList =
    ["parse", "httpserver2", "go", "x"] := by
  decide +kernel

end CodeOutline
