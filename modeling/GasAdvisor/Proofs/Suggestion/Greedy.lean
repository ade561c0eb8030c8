import GasAdvisor.Suggestion.Merge
import Mathlib.Data.List.Induction
import Mathlib.Data.List.Sort

/-!
# Greedy choice

Of a row of items, those are kept that are similar to none kept before. Similarity need not be
transitive, so which items are kept is not a matter of classes of similar items but of the whole
history. The places of the items kept are nevertheless determined by one condition on each of them
(`Greedy`): a place is chosen exactly if its item is similar to none at an earlier chosen place.

* `exists_greedy`: the items kept by `survivors` are those at such places.
* `Greedy.unique`: there is only one such choice.
* `Greedy.pairwise` and `Greedy.exists_of_not_mem`: the items chosen are not similar to each other,
  and every other item is similar to one chosen before it.
-/

namespace GasAdvisor

variable {α β : Type} {similar : α → α → Bool}

/-! ## Keeping items one by one -/

theorem survivorsAfter_append (kept xs ys : List α) :
    survivorsAfter similar kept (xs ++ ys) =
      survivorsAfter similar kept xs ++
        survivorsAfter similar ((survivorsAfter similar kept xs).reverse ++ kept) ys := by
  induction xs generalizing kept with
  | nil => rfl
  | cons x xs ih =>
    rw [List.cons_append, survivorsAfter, survivorsAfter]
    split
    · exact ih kept
    · rw [ih, List.cons_append, List.reverse_cons, List.append_assoc, List.singleton_append]

/-- **The last item is kept if it is similar to none of those kept before it.** -/
theorem survivors_concat (xs : List α) (x : α) :
    survivors similar (xs ++ [x]) =
      survivors similar xs ++ if (survivors similar xs).any (similar x) then [] else [x] := by
  rw [survivors, survivorsAfter_append, List.append_nil]
  congr 1
  rw [survivorsAfter, List.any_reverse]
  rfl

/-- Items are kept by what their similarity is told from. -/
theorem survivorsAfter_map (f : β → α) (kept items : List β) :
    survivorsAfter similar (kept.map f) (items.map f) =
      (survivorsAfter (fun a b => similar (f a) (f b)) kept items).map f := by
  induction items generalizing kept with
  | nil => rfl
  | cons x items ih =>
    have hany : (kept.map f).any (similar (f x)) = kept.any fun b => similar (f x) (f b) := by
      rw [List.any_map]
      rfl
    rw [List.map_cons, survivorsAfter, survivorsAfter, hany]
    split
    · exact ih kept
    · rw [List.map_cons, ← List.map_cons, ih]

/-! ## Greedy choices -/

/-- A choice of places in a row of items, each chosen exactly if its item is similar to none at an
earlier place chosen. -/
structure Greedy (similar : α → α → Bool) (items : List α) (chosen : List Nat) : Prop where
  ascending : chosen.Pairwise (· < ·)
  mem_iff : ∀ i, i ∈ chosen ↔
    ∃ x, items[i]? = some x ∧ ∀ j ∈ chosen, j < i → ∀ y, items[j]? = some y → similar x y = false

/-- The items at places. -/
def itemsAt (items : List α) (places : List Nat) : List α :=
  places.filterMap (items[·]?)

theorem mem_itemsAt {items : List α} {places : List Nat} {x : α} :
    x ∈ itemsAt items places ↔ ∃ i ∈ places, items[i]? = some x :=
  List.mem_filterMap

theorem itemsAt_append (items : List α) (a b : List Nat) :
    itemsAt items (a ++ b) = itemsAt items a ++ itemsAt items b :=
  List.filterMap_append

theorem any_itemsAt_eq_false_iff {items : List α} {places : List Nat} {x : α} :
    (itemsAt items places).any (similar x) = false ↔
      ∀ j ∈ places, ∀ y, items[j]? = some y → similar x y = false := by
  rw [List.any_eq_false]
  constructor
  · intro hall j hj y hy
    simpa using hall y (mem_itemsAt.2 ⟨j, hj, hy⟩)
  · intro hall y hy
    obtain ⟨j, hj, hy⟩ := mem_itemsAt.1 hy
    simpa using hall j hj y hy

/-- The places of a choice with a place after it that is chosen on a condition. -/
theorem mem_append_unless {places : List Nat} {i last : Nat} {b : Bool} :
    (i ∈ places ++ if b then [] else [last]) ↔ i ∈ places ∨ (i = last ∧ b = false) := by
  rw [List.mem_append]
  cases b <;> simp

theorem pairwise_append_unless {places : List Nat} {last : Nat} {b : Bool}
    (h : places.Pairwise (· < ·)) (hlast : ∀ i ∈ places, i < last) :
    (places ++ if b then [] else [last]).Pairwise (· < ·) := by
  cases b with
  | true => simpa using h
  | false =>
    refine List.pairwise_append.2 ⟨h, List.pairwise_singleton _ _, fun i hi j hj => ?_⟩
    obtain rfl : j = last := by simpa using hj
    exact hlast i hi

namespace Greedy

variable {items : List α} {chosen : List Nat}

theorem lt_length (h : Greedy similar items chosen) {i : Nat} (hi : i ∈ chosen) :
    i < items.length := by
  obtain ⟨x, hx, -⟩ := (h.mem_iff i).1 hi
  exact (List.getElem?_eq_some_iff.1 hx).1

/-- **Every item that is not chosen is similar to one chosen before it.** -/
theorem exists_of_not_mem (h : Greedy similar items chosen) {i : Nat} {x : α}
    (hx : items[i]? = some x) (hi : i ∉ chosen) :
    ∃ j ∈ chosen, j < i ∧ ∃ y, items[j]? = some y ∧ similar x y = true := by
  by_contra hno
  refine hi ((h.mem_iff i).2 ⟨x, hx, fun j hj hlt y hy => ?_⟩)
  by_contra hsimilar
  exact hno ⟨j, hj, hlt, y, hy, by simpa using hsimilar⟩

/-- **No item chosen is similar to one chosen before it.** -/
theorem pairwise (h : Greedy similar items chosen) :
    (itemsAt items chosen).Pairwise fun earlier later => similar later earlier = false := by
  -- the places are looked at with what they are members of
  have hplaces : chosen.Pairwise fun i j => i ∈ chosen ∧ j ∈ chosen ∧ i < j :=
    List.Pairwise.imp_of_mem (fun hi hj hlt => ⟨hi, hj, hlt⟩) h.ascending
  refine List.Pairwise.filterMap _ (fun i j hij x hx y hy => ?_) hplaces
  obtain ⟨hi, hj, hlt⟩ := hij
  obtain ⟨y', hy', hnone⟩ := (h.mem_iff j).1 hj
  obtain rfl : y' = y := Option.some.inj (hy'.symm.trans hy)
  exact hnone i hi hlt x hx

/-- **There is one greedy choice only.** By induction on the place: whether it is chosen depends on
the places before it. -/
theorem unique (h : Greedy similar items chosen) {chosen' : List Nat}
    (h' : Greedy similar items chosen') : chosen' = chosen := by
  have hmem : ∀ i, i ∈ chosen' ↔ i ∈ chosen := by
    intro i
    induction i using Nat.strong_induction_on with
    | _ i ih =>
      rw [h.mem_iff, h'.mem_iff]
      constructor
      · rintro ⟨x, hx, hnone⟩
        exact ⟨x, hx, fun j hj hlt => hnone j ((ih j hlt).2 hj) hlt⟩
      · rintro ⟨x, hx, hnone⟩
        exact ⟨x, hx, fun j hj hlt => hnone j ((ih j hlt).1 hj) hlt⟩
  exact h'.ascending.eq_of_mem_iff h.ascending hmem

theorem nil : Greedy similar ([] : List α) [] where
  ascending := List.Pairwise.nil
  mem_iff := by simp

/-- A choice for all items but the last one, and the last place if its item is similar to none
chosen. -/
theorem concat (h : Greedy similar items chosen) (x : α) :
    Greedy similar (items ++ [x])
      (chosen ++ if (itemsAt items chosen).any (similar x) then [] else [items.length]) := by
  have hlt : ∀ i ∈ chosen, i < items.length := fun i hi => h.lt_length hi
  have hat (i : Nat) (hi : i < items.length) : (items ++ [x])[i]? = items[i]? :=
    List.getElem?_append_left hi
  have hlast : (items ++ [x])[items.length]? = some x := by simp
  refine ⟨pairwise_append_unless h.ascending hlt, fun i => ?_⟩
  rw [mem_append_unless]
  rcases Nat.lt_trichotomy i items.length with hi | rfl | hi
  · -- an earlier place is chosen as before
    have hne : i ≠ items.length := Nat.ne_of_lt hi
    simp only [hne, false_and, or_false, hat i hi, h.mem_iff i]
    refine exists_congr fun y => and_congr_right fun _ => forall_congr' fun j => ?_
    rw [mem_append_unless]
    constructor
    · rintro hnone (hj | ⟨rfl, -⟩) hji z hz
      · exact hnone hj hji z (by rwa [hat j (by omega)] at hz)
      · omega
    · intro hnone hj hji z hz
      exact hnone (.inl hj) hji z (by rwa [hat j (by omega)])
  · -- the last place
    have hnot : items.length ∉ chosen := fun h' => Nat.lt_irrefl _ (hlt _ h')
    simp only [hnot, false_or, true_and, hlast, Option.some.injEq, exists_eq_left',
      any_itemsAt_eq_false_iff]
    constructor
    · intro hall j hj hji z hz
      rcases mem_append_unless.1 hj with hj | ⟨rfl, -⟩
      · exact hall j hj z (by rwa [hat j (hlt j hj)] at hz)
      · omega
    · intro hall j hj z hz
      exact hall j (mem_append_unless.2 (.inl hj)) (hlt j hj) z (by rwa [hat j (hlt j hj)])
  · -- there is no item beyond the last one
    have hnot : i ∉ chosen := fun h' => by
      have := hlt i h'
      omega
    have hnone : (items ++ [x])[i]? = none := by
      rw [List.getElem?_eq_none_iff]
      simp
      omega
    simp [hnot, Nat.ne_of_gt hi, hnone]

end Greedy

/-- **What is kept are the items at the places of the greedy choice.** -/
theorem exists_greedy (similar : α → α → Bool) (items : List α) :
    ∃ chosen, Greedy similar items chosen ∧ survivors similar items = itemsAt items chosen := by
  induction items using List.reverseRecOn with
  | nil => exact ⟨[], Greedy.nil, rfl⟩
  | append_singleton items x ih =>
    obtain ⟨chosen, hgreedy, hkept⟩ := ih
    refine ⟨_, hgreedy.concat x, ?_⟩
    have hbefore : itemsAt (items ++ [x]) chosen = itemsAt items chosen :=
      List.filterMap_congr fun i hi => List.getElem?_append_left (hgreedy.lt_length hi)
    rw [survivors_concat, hkept, itemsAt_append, hbefore]
    congr 1
    split <;> simp [itemsAt]

end GasAdvisor
