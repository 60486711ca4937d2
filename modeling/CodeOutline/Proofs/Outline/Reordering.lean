import CodeOutline.Proofs.Diff.ReorderedForest
import CodeOutline.Proofs.Outline.Legality

/-!
# Outlines in another order

Nodes of an outline are recognised by what they are and by their content, not by where they stand
among others. So an outline in another order has the same nodes as before, and whatever occurs once
is not reported. But two functions of one name in one file, say, are told apart by their order alone
if they have one content, and which of them stands for the name depends on the order too. The order
of an outline never matters exactly if no identity is repeated with two contents, and no content is
repeated under two repeated identities.

## Main results

* `Outline.hasHashes_ofText`: every line has a content hash
* `Outline.repeatsLeaves_ofText`: only nodes without children share an identity
* `Outline.between_reordered`: what a difference between two orders of an outline reports, and when
  it reports nothing
-/

namespace CodeOutline

namespace Outline

open Reading Entry

variable {forest : Forest}

/-! ### The nodes of an outline -/

theorem hash_ne_empty_of_describe? {width number : Nat} {line : String} {node : Node}
    (h : describe? width number line = some node) : node.hash ≠ "" := by
  obtain ⟨-, -, -, -, rfl⟩ := exists_of_describe? h
  exact contentHash_ne_empty line

/-- Every node of an outline has the hash of its line. -/
theorem hasHashes_ofText (width : Nat) (text : String) : (ofText width text).forest.HasHashes := by
  refine forest_after_induction (by simp [Forest.HasHashes]) ?_
  intro front line _ node hnode _ hhashes id found hfound
  have hparent : ∀ p ∈ (after (max width 1) front).parentOf node, p < _ :=
    (sound_after (max width 1) front).parentOf_lt
  obtain ⟨-, rfl⟩ | ⟨-, hfound⟩ := Forest.eq_or_node?_of_node?_grow hparent hfound
  · have hhash : node.hash ≠ "" := hash_ne_empty_of_describe? hnode
    exact hhash
  · exact hhashes id found hfound

/-- No two directories or files share an identity, and only they have children. -/
theorem WellPlaced.repeatsLeaves (h : WellPlaced forest) (hrooted : forest.Rooted)
    (hrise : LinesRise forest) : forest.RepeatsLeaves := by
  intro a ha hrepeated
  obtain ⟨b, hb, hne, hidentity⟩ :=
    hrepeated.exists_ne (Forest.nodup_entries_ids hrooted.nodup_preorder).of_map
  obtain ⟨-, hnode, hhash⟩ := Forest.mem_entries.1 ha
  obtain ⟨-, hnode', hhash'⟩ := Forest.mem_entries.1 hb
  obtain ⟨hkind, hpath⟩ := Identity.mk.inj hidentity
  by_contra hchildren
  -- a node with children is a container, and then the other one is the same node
  obtain ⟨c, hc⟩ := List.exists_mem_of_ne_nil _ hchildren
  obtain ⟨-, above, habove, hcontainer⟩ := (h.legal hrooted hrise).children a.id c hc
  obtain rfl : a.node = above := Option.some.inj (hnode.symm.trans habove)
  have hid : b.id = a.id :=
    h.eq_of_path_eq b.id a.id b.node a.node hnode' hnode (by rw [hkind]; exact hcontainer)
      hcontainer hpath
  apply hne
  have hentry := Forest.entryAt?_of_mem_entries hb
  rw [hid, Forest.entryAt?_of_mem_entries ha] at hentry
  exact (Option.some.inj hentry).symm

theorem repeatsLeaves_ofText (width : Nat) (text : String) :
    (ofText width text).forest.RepeatsLeaves :=
  (sound_after (max width 1) (linesOf text)).placed.repeatsLeaves (rooted_after _ _)
    (linesRise_after _ _)

/-! ### Differences between two orders -/

open Diff

/-- **The order of an outline** is no change of anything that occurs once: nothing is added, and
what is reported has an identity that occurs more than once. No order at all is reported exactly if
the repeated identities can be told apart by their hashes. -/
theorem between_reordered (options : DiffOptions) (width : Nat) (text : String) :
    let forest := (ofText width text).forest
    (∀ other, forest.Reorders other →
        ConcernsRepeated forest.entries (between options forest other)) ∧
      ((∀ other, forest.Reorders other → between options forest other = .empty) ↔
        Unambiguous forest.entries) := by
  intro forest
  have hrooted : forest.Rooted := rooted_after _ _
  have hhashes : forest.HasHashes := hasHashes_ofText width text
  have hids := Forest.nodup_entries_ids hrooted.nodup_preorder
  refine ⟨fun other hother => ?_, fun hempty => ?_, fun hunambiguous other hother => ?_⟩
  · exact concernsRepeated_ofEntries hids (hother.entries_perm hhashes hrooted) options
  · exact Forest.unambiguous_of_unchanged hrooted hhashes (repeatsLeaves_ofText width text) hempty
  · exact ofEntries_eq_empty_of_unambiguous hids (hother.entries_perm hhashes hrooted) options
      hunambiguous

/-- A file holds a function twice and a component twice, by turns: their order may be turned round. -/
theorem between_reordered_turned :
    let forest := (ofText 2 "a.ts\n  $f()\n  %C\n  $f()\n  %C").forest
    let turned := forest.rearrange List.reverse
    forest.Reorders turned ∧ Unambiguous forest.entries ∧
      between .standard forest turned = .empty := by
  intro forest turned
  have hreorders : forest.Reorders turned := Forest.reorders_rearrange _ List.reverse_perm
  have hunambiguous : Unambiguous forest.entries := by decide +kernel
  exact ⟨hreorders, hunambiguous,
    (between_reordered .standard 2 _).2.2 hunambiguous turned hreorders⟩

/-- Two notes of one file say the same in two spellings. Put in the other order, one of them seems
to be modified and the other one removed. -/
theorem isEmpty_between_turned :
    let forest := (ofText 2 "a.ts\n  # foo\n  #foo\n").forest
    let turned := forest.rearrange List.reverse
    forest.Reorders turned ∧ (between .standard forest turned).isEmpty = false :=
  ⟨Forest.reorders_rearrange _ List.reverse_perm, by decide +kernel⟩

end Outline

end CodeOutline
