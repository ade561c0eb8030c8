import GasAdvisor.Proofs.Distinct
import GasAdvisor.Proofs.Suggestion.Greedy
import GasAdvisor.Proofs.Suggestion.TotalOrder

/-!
# What merging keeps, and in which order

* The similarity of two messages does not depend on their order (`similarity_comm`), so of two
  messages that are not similar neither is similar to the other.
* Merging keeps the greedy choice of all suggestions (`Suggestion.distinct_eq_survivors`) and sorts
  it stably by descending score in the total order of numbers
  (`Suggestion.stableDescending_merge`): the suggestions with one score stay in their order.
-/

namespace GasAdvisor

open Text

/-! ## Similarity -/

/-- The elements of either list that are in the other one are the same. -/
theorem length_filter_contains_comm {α : Type} [BEq α] [LawfulBEq α] {a b : List α}
    (ha : a.Nodup) (hb : b.Nodup) :
    (a.filter (b.contains ·)).length = (b.filter (a.contains ·)).length := by
  refine List.Perm.length_eq ((List.perm_ext_iff_of_nodup (ha.filter _) (hb.filter _)).2 fun x => ?_)
  simp [and_comm]

theorem overlap_comm {a b : List (List Char)} (ha : a.Nodup) (hb : b.Nodup) :
    overlap a b = overlap b a := by
  rw [overlap, overlap, Nat.max_comm, length_filter_contains_comm ha hb]

/-- **Two messages are similar to each other to the same degree.** -/
theorem similarity_comm (a b : String) : similarity a b = similarity b a :=
  overlap_comm (nodup_eraseDups _) (nodup_eraseDups _)

/-! ## Stable sorting -/

/-- A list sorted by descending keys, the items with one key in the order in which they came. -/
structure StableDescending {α β : Type} [DecidableEq β] (le : β → β → Prop) (key : α → β)
    (items sorted : List α) : Prop where
  perm : sorted.Perm items
  ordered : sorted.Pairwise fun a b => le (key b) (key a)
  stable : ∀ k, sorted.filter (key · = k) = items.filter (key · = k)

namespace Suggestion

/-- Whether two suggestions are more similar than the threshold allows. -/
def tooSimilar (threshold : Float) (a b : Suggestion) : Bool :=
  threshold < similarity a.message b.message

theorem tooSimilar_comm (threshold : Float) (a b : Suggestion) :
    tooSimilar threshold a b = tooSimilar threshold b a := by
  rw [tooSimilar, tooSimilar, similarity_comm]

/-- **What is kept is kept for its message**: the words beside it are those of its own message. -/
theorem distinct_eq_survivors (threshold : Float) (lists : List (List Suggestion)) :
    distinct threshold lists = survivors (tooSimilar threshold) lists.flatten := by
  have hmap : survivorsAfter (Worded.similar threshold) [] (lists.flatten.map Worded.of) =
      (survivorsAfter (tooSimilar threshold) [] lists.flatten).map Worded.of :=
    survivorsAfter_map Worded.of [] lists.flatten
  have hback : (Worded.suggestion ∘ Worded.of) = id := rfl
  rw [distinct, survivors, hmap, List.map_map, hback, List.map_id]
  rfl

theorem ranksBefore_iff {a b : Suggestion} :
    ranksBefore a b = true ↔ rankKey b.score ≤ rankKey a.score := by
  rw [ranksBefore, decide_eq_true_eq]

theorem ranksBefore_trans (a b c : Suggestion) (hab : ranksBefore a b = true)
    (hbc : ranksBefore b c = true) : ranksBefore a c = true := by
  rw [ranksBefore_iff] at *
  omega

theorem ranksBefore_total (a b : Suggestion) : (ranksBefore a b || ranksBefore b a) = true := by
  rw [Bool.or_eq_true, ranksBefore_iff, ranksBefore_iff]
  omega

/-- **Merging sorts stably by descending score.** The suggestions with one score may stand in their
order as they are, so sorting keeps them as a sublist, and there are no others with this score. -/
theorem stableDescending_merge (threshold : Float) (lists : List (List Suggestion)) :
    StableDescending TotalLe score (distinct threshold lists) (merge threshold lists) := by
  have hperm : (merge threshold lists).Perm (distinct threshold lists) :=
    List.mergeSort_perm _ _
  refine ⟨hperm, ?_, fun k => ?_⟩
  · refine (List.pairwise_mergeSort ranksBefore_trans ranksBefore_total _).imp fun h => ?_
    exact rankKey_le_iff.1 (ranksBefore_iff.1 h)
  · have hsorted : ((distinct threshold lists).filter (score · = k)).Pairwise
        fun a b => ranksBefore a b = true := by
      refine List.pairwise_of_forall_mem_list fun a ha b hb => ranksBefore_iff.2 ?_
      have hka : a.score = k := by simpa using (List.mem_filter.1 ha).2
      have hkb : b.score = k := by simpa using (List.mem_filter.1 hb).2
      rw [hka, hkb]
    have hsublist := List.sublist_mergeSort ranksBefore_trans ranksBefore_total hsorted
      List.filter_sublist
    have hkept := hsublist.filter (score · = k)
    simp only [List.filter_filter, Bool.and_self] at hkept
    exact (hkept.eq_of_length (hperm.filter _).length_eq.symm).symm

/-- **What merging returns**: the stable sort, by descending score, of the greedy choice of all
suggestions. So it returns suggestions that it was given, no two of which are too similar; every
suggestion that it drops is too similar to one kept before it; and equal scores keep their order. -/
theorem merge_spec (threshold : Float) (lists : List (List Suggestion)) :
    ∃ chosen, Greedy (tooSimilar threshold) lists.flatten chosen ∧
      (∀ chosen', Greedy (tooSimilar threshold) lists.flatten chosen' → chosen' = chosen) ∧
      StableDescending TotalLe score (itemsAt lists.flatten chosen) (merge threshold lists) ∧
      (∀ s ∈ merge threshold lists, s ∈ lists.flatten) ∧
      ((merge threshold lists).Pairwise fun a b =>
        tooSimilar threshold a b = false ∧ tooSimilar threshold b a = false) ∧
      ∀ i s, lists.flatten[i]? = some s → i ∉ chosen →
        ∃ j ∈ chosen, j < i ∧ ∃ t, lists.flatten[j]? = some t ∧ tooSimilar threshold s t = true := by
  obtain ⟨chosen, hgreedy, hkept⟩ := exists_greedy (tooSimilar threshold) lists.flatten
  have hsort := stableDescending_merge threshold lists
  rw [distinct_eq_survivors, hkept] at hsort
  refine ⟨chosen, hgreedy, fun _ => hgreedy.unique, hsort, fun s hs => ?_, ?_,
    fun i s hs hi => hgreedy.exists_of_not_mem hs hi⟩
  · obtain ⟨i, -, hi⟩ := mem_itemsAt.1 (hsort.perm.mem_iff.1 hs)
    exact List.mem_of_getElem? hi
  · have hpairs : (itemsAt lists.flatten chosen).Pairwise fun a b =>
        tooSimilar threshold a b = false ∧ tooSimilar threshold b a = false :=
      hgreedy.pairwise.imp fun {a b} h => ⟨(tooSimilar_comm threshold a b).trans h, h⟩
    exact hsort.perm.symm.pairwise hpairs fun {a b} h => ⟨h.2, h.1⟩

end Suggestion

end GasAdvisor
