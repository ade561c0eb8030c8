import GasAdvisor.Proofs.Rule.Estimates
import GasAdvisor.Proofs.Text.Words

/-!
# Whole words

The search for a word goes on behind each occurrence, so it looks only at occurrences that do not overlap.
It still finds the word wherever that stands alone, also one that overlaps itself
(`Evidence.containsWordFrom_of_stands`): an occurrence that was looked at and reaches over the start of
the word would put one of its own characters before it, and the word would not stand alone.

So a word is found exactly if it is one of the maximal runs of its class of characters
(`Evidence.containsWord_iff_mem_runs`).
-/

namespace GasAdvisor

open Text

namespace Evidence

variable {text word u v s : List Char} {before : Option Char}

/-- **What is found stands alone.** -/
theorem stands_of_containsWordFrom {skip : Nat} (h : containsWordFrom word before skip s = true) :
    ∃ u v, s = u ++ (word ++ v) ∧ (u.getLast?.or before).any isSearchWord = false ∧
      Stops isSearchWord v := by
  induction s generalizing before skip with
  | nil => simp [containsWordFrom] at h
  | cons c s ih =>
    -- a place in the rest of the text, put after the character at the front
    have later {skip' : Nat} (h : containsWordFrom word (some c) skip' s = true) :
        ∃ u v, c :: s = u ++ (word ++ v) ∧ (u.getLast?.or before).any isSearchWord = false ∧
          Stops isSearchWord v := by
      obtain ⟨u, v, rfl, hu, hv⟩ := ih h
      exact ⟨c :: u, v, rfl, by rwa [getLast?_cons_or], hv⟩
    cases skip with
    | succ skip => exact later h
    | zero =>
      rw [containsWordFrom] at h
      split at h
      · next hfront =>
        obtain ⟨v, hv⟩ := List.isPrefixOf_iff_prefix.1 hfront
        rw [← hv, List.drop_left, Bool.or_eq_true, Bool.and_eq_true, Bool.not_eq_true',
          Bool.not_eq_true'] at h
        rcases h with ⟨hbefore, hafter⟩ | h
        · exact ⟨[], v, hv.symm, hbefore, stops_iff_head?.2 hafter⟩
        · exact later h
      · exact later h

/-- **A word that stands alone is found.** What carries the search there is that it never passes over the
start of the word: an occurrence that reached over it would put a character of a word before it. -/
theorem containsWordFrom_of_stands (hne : word ≠ []) (hword : ∀ c ∈ word, isSearchWord c = true)
    (hu : (u.getLast?.or before).any isSearchWord = false) (hv : Stops isSearchWord v) {skip : Nat}
    (hskip : skip ≤ u.length) : containsWordFrom word before skip (u ++ (word ++ v)) = true := by
  induction u generalizing before skip with
  | nil =>
    obtain rfl : skip = 0 := Nat.le_zero.1 hskip
    obtain ⟨c, rest, rfl⟩ := List.exists_cons_of_ne_nil hne
    have hfront : (c :: rest).isPrefixOf (c :: (rest ++ v)) = true :=
      List.isPrefixOf_iff_prefix.2 ⟨v, rfl⟩
    have hdrop : (c :: (rest ++ v)).drop (c :: rest).length = v := by
      rw [← List.cons_append, List.drop_left]
    rw [List.getLast?_nil, Option.none_or] at hu
    rw [List.nil_append, List.cons_append, containsWordFrom, if_pos hfront, hdrop, hu]
    simp only [stops_iff_head?.1 hv, Bool.not_false, Bool.and_self, Bool.true_or]
  | cons d u ih =>
    have hrest : (u.getLast?.or (some d)).any isSearchWord = false := by rwa [← getLast?_cons_or]
    rw [List.cons_append]
    cases skip with
    | succ skip => exact ih hrest (Nat.le_of_succ_le_succ hskip)
    | zero =>
      rw [containsWordFrom]
      split
      · next hfront =>
        rw [Bool.or_eq_true]
        refine .inr (ih hrest ?_)
        -- the occurrence at the front ends before the word
        by_contra hlong
        have hoverlap : d :: u <+: word := by
          refine List.prefix_of_prefix_length_le (List.prefix_append (d :: u) (word ++ v))
            (List.isPrefixOf_iff_prefix.1 hfront) ?_
          rw [List.length_cons]
          omega
        have hlast : isSearchWord ((d :: u).getLast (List.cons_ne_nil d u)) = true :=
          hword _ (hoverlap.subset (List.getLast_mem _))
        rw [List.getLast?_eq_some_getLast (List.cons_ne_nil d u), Option.some_or, Option.any_some,
          hlast] at hu
        cases hu
      · exact ih hrest (Nat.zero_le _)

theorem containsWord_iff_isRun (hne : word ≠ []) (hword : ∀ c ∈ word, isSearchWord c = true) :
    containsWord text word = true ↔ IsRun isSearchWord word text := by
  constructor
  · intro h
    obtain ⟨u, v, htext, hu, hv⟩ := stands_of_containsWordFrom h
    exact ⟨hne, hword, u, v, htext, by rwa [Option.or_none] at hu, hv⟩
  · rintro ⟨-, -, u, v, rfl, hu, hv⟩
    exact containsWordFrom_of_stands hne hword (by rwa [Option.or_none]) hv (Nat.zero_le _)

/-- Where a word is looked at, the text is cut before and after it. -/
theorem exists_slices_of_mem_hits {hit : Hit (List Char × List Char)}
    (h : hit ∈ hits (Shape.literal word).find text) :
    ∃ before after, text = before ++ (word ++ after) ∧
      slice? text ⟨0, byteOffset text hit.index⟩ = some before ∧
      slice? text ⟨byteOffset text hit.index + byteSize word, byteSize text⟩ = some after := by
  obtain ⟨before, rest, size, rfl, hindex, -, hfind⟩ := exists_of_mem_hitsFrom h
  obtain ⟨found, hfound, -⟩ := Option.map_eq_some_iff.1 hfind
  obtain ⟨after, rfl⟩ : word <+: rest := by
    rw [Shape.literal] at hfound
    split at hfound
    · next hfront => exact List.isPrefixOf_iff_prefix.1 hfront
    · cases hfound
  rw [Nat.zero_add] at hindex
  rw [hindex, byteOffset_append]
  refine ⟨before, after, rfl, slice?_eq_some_iff.2 ⟨[], word ++ after, rfl, rfl, rfl⟩,
    slice?_eq_some_iff.2 ⟨before ++ word, [], by simp, byteSize_append before word, by simp⟩⟩

/-- **The search for a word is complete.** It finds a word exactly if that is one of the maximal runs of
its class of characters, although it looks only at occurrences that do not overlap. Wherever it looks, the
text is cut between characters; and none of its sums is too large for a text of less than 2^64 bytes. -/
theorem containsWord_iff_mem_runs (hne : word ≠ []) (hword : ∀ c ∈ word, isSearchWord c = true) :
    (containsWord text word = true ↔ word ∈ runs isSearchWord text) ∧
    (∀ hit ∈ hits (Shape.literal word).find text, ∃ before after,
      text = before ++ (word ++ after) ∧
      slice? text ⟨0, byteOffset text hit.index⟩ = some before ∧
      slice? text ⟨byteOffset text hit.index + byteSize word, byteSize text⟩ = some after) ∧
    (byteSize text < 2 ^ 64 → containsWord? text word = some (containsWord text word)) :=
  ⟨(containsWord_iff_isRun hne hword).trans mem_runs_iff.symm,
    fun _ hit => exists_slices_of_mem_hits hit, containsWord?_eq⟩

/-- A text in which a word that overlaps itself stands in a longer run before it stands alone. -/
def accentedText : List Char := "ééé, éé".toList

/-- The word is found there behind the longer run. -/
theorem containsWord_iff_mem_runs_accented :
    "éé".toList ≠ [] ∧ (∀ c ∈ "éé".toList, isSearchWord c = true) ∧
      "éé".toList ∈ runs isSearchWord accentedText ∧ containsWord accentedText "éé".toList = true ∧
      containsWord? accentedText "éé".toList = some true := by
  have hne : "éé".toList ≠ [] := by decide
  have hletter : isSearchWord 'é' = true := by cbv
  have hword : ∀ c ∈ "éé".toList, isSearchWord c = true := by
    intro c hc
    obtain rfl : c = 'é' := by simpa using hc
    exact hletter
  have hrun : "éé".toList ∈ runs isSearchWord accentedText :=
    mem_runs_iff.2 ⟨hne, hword, "ééé, ".toList, [], by decide, by decide, stops_nil⟩
  obtain ⟨hiff, -, hchecked⟩ := @containsWord_iff_mem_runs accentedText _ hne hword
  have hfound := hiff.2 hrun
  have hsize : byteSize accentedText = 12 := by decide +kernel
  exact ⟨hne, hword, hrun, hfound, hfound ▸ hchecked (by omega)⟩

end Evidence

end GasAdvisor
