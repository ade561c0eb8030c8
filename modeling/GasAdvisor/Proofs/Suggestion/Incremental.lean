import GasAdvisor.Proofs.Suggestion.Merge

/-!
# Merging step by step

Suggestions that were merged before can be merged again with more suggestions: the result is that of
merging all of them at once (`Suggestion.merge_merge_cons`). The first merge reorders what it keeps,
which does no harm for two reasons.

* What is kept beside a row of items depends on which items were kept before, not on their order
  (`survivorsAfter_perm`), and items that are not similar to each other are all kept
  (`survivors_eq_self`).
* A row has one stable sort only (`StableDescending.unique`), and a row whose front is sorted already
  has the same one (`StableDescending.append_left`).

Suggestions that come later never change what is made of those before them: if they can be told apart
from them, taking them out of the result leaves the merged earlier ones (`Suggestion.filter_merge`).
-/

namespace GasAdvisor

/-! ## Stable sorts are determined -/

namespace StableDescending

variable {α β : Type} [DecidableEq β] {le : β → β → Prop} {key : α → β}

/-- Ordered rows with the same items of every key are equal. By induction on the first row: the heads
stand before each other, so they have one key and are both the first item with it. -/
theorem eq_of_filter_eq (hantisymm : ∀ a b, le a b → le b a → a = b) {l l' : List α}
    (hperm : l.Perm l') (h : l.Pairwise fun a b => le (key b) (key a))
    (h' : l'.Pairwise fun a b => le (key b) (key a))
    (hfilter : ∀ k, l.filter (key · = k) = l'.filter (key · = k)) : l = l' := by
  induction l generalizing l' with
  | nil => exact hperm.nil_eq
  | cons a l ih =>
    cases l' with
    | nil => exact absurd hperm.symm.nil_eq (by simp)
    | cons b l' =>
      obtain ⟨ha, hl⟩ := List.pairwise_cons.1 h
      obtain ⟨hb, hl'⟩ := List.pairwise_cons.1 h'
      have hkey : key a = key b := by
        rcases List.mem_cons.1 (hperm.mem_iff.1 (List.mem_cons_self)) with rfl | hal
        · rfl
        · rcases List.mem_cons.1 (hperm.mem_iff.2 (List.mem_cons_self)) with rfl | hbl
          · rfl
          · exact hantisymm _ _ (hb a hal) (ha b hbl)
      obtain ⟨rfl, -⟩ : a = b ∧ _ := by simpa [hkey] using hfilter (key b)
      have htail (k : β) : l.filter (key · = k) = l'.filter (key · = k) := by
        have hk := hfilter k
        by_cases hak : key a = k
        · simpa [hak] using hk
        · simpa [hak] using hk
      rw [ih hperm.cons_inv hl hl' htail]

variable {items more sorted sorted' : List α}

/-- **A row has one stable sort only.** -/
theorem unique (hantisymm : ∀ a b, le a b → le b a → a = b)
    (h : StableDescending le key items sorted) (h' : StableDescending le key items sorted') :
    sorted = sorted' :=
  eq_of_filter_eq hantisymm (h.perm.trans h'.perm.symm) h.ordered h'.ordered
    fun k => (h.stable k).trans (h'.stable k).symm

/-- A row whose front was sorted before is sorted as the row itself. -/
theorem append_left (h : StableDescending le key items sorted)
    (h' : StableDescending le key (sorted ++ more) sorted') :
    StableDescending le key (items ++ more) sorted' where
  perm := h'.perm.trans (h.perm.append_right more)
  ordered := h'.ordered
  stable k := by rw [h'.stable k, List.filter_append, List.filter_append, h.stable k]

/-- Some items of a sorted row are sorted as they are. -/
theorem filter (p : α → Bool) (h : StableDescending le key items sorted) :
    StableDescending le key (items.filter p) (sorted.filter p) where
  perm := h.perm.filter p
  ordered := h.ordered.filter p
  stable k := by rw [List.filter_comm, h.stable k, List.filter_comm]

end StableDescending

/-- The total order of numbers tells different numbers apart. -/
theorem TotalLe.antisymm {x y : Float} (h : TotalLe x y) (h' : TotalLe y x) : x = y :=
  rankKey_injective (Int.le_antisymm (rankKey_le_iff.2 h) (rankKey_le_iff.2 h'))

/-! ## Keeping what was kept -/

section Survivors

variable {α : Type} {similar : α → α → Bool}

/-- What is kept does not depend on the order of the items kept before. -/
theorem survivorsAfter_perm {kept kept' : List α} (h : kept.Perm kept') (items : List α) :
    survivorsAfter similar kept items = survivorsAfter similar kept' items := by
  induction items generalizing kept kept' with
  | nil => rfl
  | cons x items ih =>
    have hany : kept.any (similar x) = kept'.any (similar x) := h.any_eq
    rw [survivorsAfter, survivorsAfter, hany, ih h, ih (h.cons x)]

theorem survivorsAfter_sublist (kept items : List α) :
    (survivorsAfter similar kept items).Sublist items := by
  induction items generalizing kept with
  | nil => exact List.Sublist.refl []
  | cons x items ih =>
    rw [survivorsAfter]
    split
    · exact (ih kept).cons x
    · exact (ih (x :: kept)).cons_cons x

/-- No item kept is similar to one kept before it. -/
theorem pairwise_survivors (items : List α) :
    (survivors similar items).Pairwise fun earlier later => similar later earlier = false := by
  obtain ⟨chosen, hgreedy, hkept⟩ := exists_greedy similar items
  rw [hkept]
  exact hgreedy.pairwise

/-- Items are all kept if none is similar to one before it. -/
theorem survivorsAfter_eq_self {kept items : List α}
    (hkept : ∀ x ∈ items, ∀ y ∈ kept, similar x y = false)
    (hitems : items.Pairwise fun earlier later => similar later earlier = false) :
    survivorsAfter similar kept items = items := by
  induction items generalizing kept with
  | nil => rfl
  | cons x items ih =>
    obtain ⟨hx, hrest⟩ := List.pairwise_cons.1 hitems
    have hnone : kept.any (similar x) = false :=
      List.any_eq_false.2 fun y hy => by simpa using hkept x List.mem_cons_self y hy
    have hkept' : ∀ z ∈ items, ∀ y ∈ x :: kept, similar z y = false := by
      intro z hz y hy
      rcases List.mem_cons.1 hy with rfl | hy
      · exact hx z hz
      · exact hkept z (List.mem_cons_of_mem x hz) y hy
    rw [survivorsAfter, hnone, if_neg Bool.false_ne_true, ih hkept' hrest]

theorem survivors_eq_self {items : List α}
    (hitems : items.Pairwise fun earlier later => similar later earlier = false) :
    survivors similar items = items :=
  survivorsAfter_eq_self (by simp) hitems

end Survivors

/-! ## Merging again -/

namespace Suggestion

/-- What is kept of two rows of lists. -/
theorem distinct_append (threshold : Float) (lists more : List (List Suggestion)) :
    distinct threshold (lists ++ more) = distinct threshold lists ++
      survivorsAfter (tooSimilar threshold) (distinct threshold lists).reverse more.flatten := by
  simp only [distinct_eq_survivors]
  rw [List.flatten_append, survivors, survivorsAfter_append, List.append_nil]
  rfl

/-- **Merged suggestions are not similar to each other**, whichever of two comes first. -/
theorem pairwise_merge (threshold : Float) (lists : List (List Suggestion)) :
    (merge threshold lists).Pairwise fun s t => tooSimilar threshold t s = false := by
  have hpairs : (distinct threshold lists).Pairwise fun s t => tooSimilar threshold t s = false := by
    rw [distinct_eq_survivors]
    exact pairwise_survivors _
  refine (stableDescending_merge threshold lists).perm.symm.pairwise hpairs fun {s t} h => ?_
  rw [tooSimilar_comm]
  exact h

/-- Merged suggestions are all kept, and more suggestions are kept as if these had not been sorted. -/
theorem distinct_merge_cons (threshold : Float) (lists more : List (List Suggestion)) :
    distinct threshold (merge threshold lists :: more) = merge threshold lists ++
      survivorsAfter (tooSimilar threshold) (distinct threshold lists).reverse more.flatten := by
  have hself : distinct threshold [merge threshold lists] = merge threshold lists := by
    rw [distinct_eq_survivors, List.flatten_singleton, survivors_eq_self (pairwise_merge _ _)]
  have hperm : (merge threshold lists).reverse.Perm (distinct threshold lists).reverse :=
    (List.reverse_perm _).trans
      ((stableDescending_merge threshold lists).perm.trans (List.reverse_perm _).symm)
  rw [← List.singleton_append, distinct_append, hself, survivorsAfter_perm hperm]

/-- **Merging again with more suggestions is merging all of them.** -/
theorem merge_merge_cons (threshold : Float) (lists more : List (List Suggestion)) :
    merge threshold (merge threshold lists :: more) = merge threshold (lists ++ more) := by
  have htwice := stableDescending_merge threshold (merge threshold lists :: more)
  rw [distinct_merge_cons] at htwice
  have honce := stableDescending_merge threshold (lists ++ more)
  rw [distinct_append] at honce
  exact ((stableDescending_merge threshold lists).append_left htwice).unique
    (fun _ _ => TotalLe.antisymm) honce

/-- **Merging is incremental, and so idempotent**: suggestions that were merged before may be merged
again with others, or alone, and nothing comes out that merging all at once would not give. -/
theorem merge_incremental (threshold : Float) (xs ys : List Suggestion) :
    merge threshold [merge threshold [xs], ys] = merge threshold [xs, ys] ∧
      merge threshold [merge threshold [xs]] = merge threshold [xs] :=
  ⟨merge_merge_cons threshold [xs] [ys], merge_merge_cons threshold [xs] []⟩

/-- **Later suggestions displace no earlier ones**: where they can be told apart, the earlier ones of
the result are what merging them alone gives. -/
theorem filter_merge {threshold : Float} {p : Suggestion → Bool} {xs ys : List Suggestion}
    (hxs : ∀ s ∈ xs, p s = true) (hys : ∀ s ∈ ys, p s = false) :
    (merge threshold [xs, ys]).filter p = merge threshold [xs] := by
  have hall := (stableDescending_merge threshold [xs, ys]).filter p
  have hearlier : (distinct threshold [xs]).filter p = distinct threshold [xs] := by
    refine List.filter_eq_self.2 fun s hs => hxs s ?_
    rw [distinct_eq_survivors, List.flatten_singleton] at hs
    exact (survivorsAfter_sublist [] xs).subset hs
  have hlater (kept : List Suggestion) :
      (survivorsAfter (tooSimilar threshold) kept [ys].flatten).filter p = [] := by
    refine List.filter_eq_nil_iff.2 fun s hs => ?_
    have hmem := (survivorsAfter_sublist kept _).subset hs
    rw [List.flatten_singleton] at hmem
    simp [hys s hmem]
  rw [show [xs, ys] = [xs] ++ [ys] from rfl, distinct_append, List.filter_append, hearlier,
    hlater, List.append_nil] at hall
  exact hall.unique (fun _ _ => TotalLe.antisymm) (stableDescending_merge threshold [xs])

end Suggestion

end GasAdvisor
