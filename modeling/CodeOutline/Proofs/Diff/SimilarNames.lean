import CodeOutline.Proofs.Diff.Words
import CodeOutline.Proofs.FirstOccurrences
import CodeOutline.Proofs.Text.Occurrences
import CodeOutline.Proofs.Text.Words

/-!
# Similar names

Two names are similar if one occurs in the other in small letters, or if they have two words in
common. Neither depends on which name comes first. A name that holds another one, letter case aside,
is similar to it as long as the sigmas stay what they are: small letters are read off whole names,
and a capital sigma at the end of the one name is another letter within the other.

## Main results

* `sharedWords_perm`: the words two names have in common
* `namesSimilar_iff`: what makes names similar
* `isSplitInto_and_namesSimilar`: words of names, and names made of the same letters
-/

namespace CodeOutline

variable {left right : String}

theorem mem_sharedWords {word : List Char} :
    word ∈ sharedWords left right ↔ word ∈ splitWords left ∧ word ∈ splitWords right := by
  simp [sharedWords]

/-- Two names have the same words in common, whichever comes first. -/
theorem sharedWords_perm (left right : String) :
    (sharedWords left right).Perm (sharedWords right left) := by
  have hnodup (left right : String) : (sharedWords left right).Nodup :=
    (nodup_eraseDups (splitWords left)).filter _
  rw [List.perm_ext_iff_of_nodup (hnodup left right) (hnodup right left)]
  intro word
  rw [mem_sharedWords, mem_sharedWords, and_comm]

/-- What makes names similar. -/
theorem namesSimilar_iff : namesSimilar left right = true ↔
    left ≠ "" ∧ right ≠ "" ∧
      (Text.lower right.toList <:+: Text.lower left.toList ∨
        Text.lower left.toList <:+: Text.lower right.toList ∨
        2 ≤ (sharedWords left right).length) := by
  have hempty (name : String) : Text.lower name.toList = [] ↔ name = "" := by
    rw [Text.lower_eq_nil_iff, String.toList_eq_nil_iff]
  simp only [namesSimilar, List.isEmpty_iff, Bool.or_eq_true, hempty]
  split
  · rename_i hnone
    refine iff_of_false Bool.false_ne_true ?_
    rintro ⟨hleft, hright, -⟩
    exact hnone.elim hleft hright
  · rename_i hsome
    rw [not_or] at hsome
    simp only [Bool.or_eq_true, Text.occursIn_iff, decide_eq_true_eq, or_assoc, ne_eq, hsome,
      not_false_eq_true, true_and]

theorem namesSimilar_comm (left right : String) :
    namesSimilar left right = namesSimilar right left := by
  rw [Bool.eq_iff_iff, namesSimilar_iff, namesSimilar_iff, (sharedWords_perm left right).length_eq,
    or_left_comm, and_left_comm]

/-- A name is similar to each one it occurs in, if the sigmas stay what they are. -/
theorem namesSimilar_of_occurrence (hne : left ≠ "")
    (o : Text.Occurrence left.toList right.toList) (hsigmas : o.KeepsSigmas) :
    namesSimilar left right = true := by
  have hinfix := o.lower_infix hsigmas
  have hright : right ≠ "" := by
    rintro rfl
    have hnil : Text.lower left.toList = [] := List.infix_nil.1 hinfix
    rw [Text.lower_eq_nil_iff, String.toList_eq_nil_iff] at hnil
    exact hne hnil
  exact namesSimilar_iff.2 ⟨hne, hright, .inr (.inl hinfix)⟩

/-- **Names are split without loss, and compared without an order**: the words of a name are exactly
those that start and end where its characters say. Similarity is symmetric, and holds between a name
and any that holds it, letter case aside, if the sigmas stay what they are; they do where there is no
capital sigma. -/
theorem isSplitInto_and_namesSimilar (left right : String) :
    (∀ words, IsSplitInto left.toList words ↔ words = splitWords left) ∧
    namesSimilar left right = namesSimilar right left ∧
    ∀ o : Text.Occurrence left.toList right.toList,
      ('Σ' ∉ o.run → 'Σ' ∉ left.toList → o.KeepsSigmas) ∧
      (left ≠ "" → o.KeepsSigmas → namesSimilar left right = true) := by
  refine ⟨isSplitInto_iff left, namesSimilar_comm left right, fun o => ⟨?_, ?_⟩⟩
  · exact o.keepsSigmas_of_notMem
  · intro hne hsigmas
    exact namesSimilar_of_occurrence hne o hsigmas

/-- A name of two words occurs in another one across the words of that. -/
theorem isSplitInto_and_namesSimilar_across_words :
    let o : Text.Occurrence "userName".toList "isUSERNameOf".toList :=
      ⟨"is".toList, "USERName".toList, "Of".toList, by decide, by decide +kernel⟩
    'Σ' ∉ o.run ∧ 'Σ' ∉ "userName".toList ∧ "userName" ≠ "" ∧ o.KeepsSigmas ∧
      IsSplitInto "userName".toList ["user".toList, "name".toList] ∧
      sharedWords "userName" "isUSERNameOf" = [] ∧
      namesSimilar "userName" "isUSERNameOf" = true := by
  intro o
  obtain ⟨hwords, -, hoccurrence⟩ := isSplitInto_and_namesSimilar "userName" "isUSERNameOf"
  obtain ⟨hplain, hsimilar⟩ := hoccurrence o
  have hrun : 'Σ' ∉ o.run := by decide
  have hname : 'Σ' ∉ "userName".toList := by decide
  have hsigmas := hplain hrun hname
  exact ⟨hrun, hname, by decide, hsigmas, (hwords _).2 (by decide +kernel), by decide +kernel,
    hsimilar (by decide) hsigmas⟩

/-- A name that ends with a capital sigma is read as `ας`, and the name that goes on behind it as
`ασα`: it starts with the shorter name, letter by letter, and is not similar to it. -/
theorem not_namesSimilar_capital_sigma :
    ∃ o : Text.Occurrence "ΑΣ".toList "ΑΣΑ".toList,
      "ΑΣ" ≠ "" ∧ o.run = "ΑΣ".toList ∧ namesSimilar "ΑΣ" "ΑΣΑ" = false :=
  ⟨⟨[], "ΑΣ".toList, "Α".toList, by decide, rfl⟩, by decide, rfl, by decide +kernel⟩

end CodeOutline
