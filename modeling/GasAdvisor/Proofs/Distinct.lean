import Mathlib.Data.List.Nodup
import Mathlib.Data.List.Induction

/-!
# Lists without their repetitions

What is left of a list by `List.eraseDups` has every element once, where it first occurs. All of this
follows from what one more element at the end changes (`eraseDups_concat`).
-/

namespace GasAdvisor

variable {α : Type} [BEq α] [LawfulBEq α]

/-- One more element is kept if it is a new one. -/
theorem eraseDups_concat (l : List α) (a : α) :
    (l ++ [a]).eraseDups = if a ∈ l then l.eraseDups else l.eraseDups ++ [a] := by
  rw [List.eraseDups_append]
  split
  · next hmem => simp [List.removeAll, hmem]
  · next hmem => simp [List.removeAll, hmem, List.eraseDups_cons]

theorem nodup_eraseDups (l : List α) : l.eraseDups.Nodup := by
  induction l using List.reverseRecOn with
  | nil => exact List.nodup_nil
  | append_singleton l a ih =>
    rw [eraseDups_concat]
    split
    · exact ih
    · next hnew =>
      refine List.nodup_append.2 ⟨ih, List.nodup_singleton a, ?_⟩
      rintro b hb _ hb' rfl
      exact hnew (List.mem_singleton.1 hb' ▸ List.mem_eraseDups.1 hb)

/-- **The elements stand in the order in which they first occur.** -/
theorem pairwise_idxOf_eraseDups (l : List α) :
    l.eraseDups.Pairwise fun a b => l.idxOf a < l.idxOf b := by
  induction l using List.reverseRecOn with
  | nil => exact .nil
  | append_singleton l a ih =>
    -- what has occurred keeps its place
    have hplace (b : α) (hb : b ∈ l.eraseDups) : (l ++ [a]).idxOf b = l.idxOf b := by
      rw [List.idxOf_append, if_pos (List.mem_eraseDups.1 hb)]
    have hbefore : l.eraseDups.Pairwise fun b c => (l ++ [a]).idxOf b < (l ++ [a]).idxOf c :=
      ih.imp_of_mem fun hb hc h => by rwa [hplace _ hb, hplace _ hc]
    rw [eraseDups_concat]
    split
    · exact hbefore
    · next hnew =>
      refine List.pairwise_append.2 ⟨hbefore, List.pairwise_singleton _ _, fun b hb c hc => ?_⟩
      have hlt := List.idxOf_lt_length_iff.2 (List.mem_eraseDups.1 hb)
      rw [List.mem_singleton.1 hc, hplace b hb, List.idxOf_append, if_neg hnew]
      omega

end GasAdvisor
