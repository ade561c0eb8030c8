import GasAdvisor.Text.Spaced
import GasAdvisor.Proofs.Text.Words

/-!
# Spaced parts and words

The words of a text are the only way in which it consists of spaced parts without white space of their
own (`words_eq_iff`). In a row, all parts but the last one can be taken together with the white space
that must follow them (`inRow_concat_iff`).
-/

namespace GasAdvisor.Text

/-- White space at the front of a text belongs to no word. -/
theorem words_append_blank {lead : List Char} (hlead : ∀ c ∈ lead, isBlank c = true)
    (s : List Char) : words (lead ++ s) = words s := by
  induction lead with
  | nil => rfl
  | cons c lead ih =>
    rw [List.cons_append, words_cons_blank (hlead c (by simp))]
    exact ih fun d hd => hlead d (List.mem_cons_of_mem c hd)

/-- No parts leave no text. -/
theorem InRow.eq_nil {row : List Char} (h : InRow [] row) : row = [] := by
  cases h
  rfl

theorem words_of_inRow {parts : List (List Char)} {row : List Char} (h : InRow parts row)
    (hparts : ∀ part ∈ parts, IsWhole part) : words row = parts := by
  induction h with
  | nil => rfl
  | @cons part gap rest parts hgap hsep h ih =>
    have hpart : IsWhole part := hparts part (by simp)
    have hrest : words rest = parts := ih fun p hp => hparts p (List.mem_cons_of_mem part hp)
    -- a word ends at white space, or at the end of the text
    have hstop : Stops (fun c => !isBlank c) (gap ++ rest) := by
      cases gap with
      | nil =>
        have hlast : parts = [] := Decidable.byContradiction fun hne => hsep hne rfl
        subst hlast
        rw [h.eq_nil]
        exact stops_nil
      | cons c gap =>
        have hc : isBlank c = true := hgap c (by simp)
        exact stops_cons.2 (by rw [hc]; rfl)
    rw [hpart.words_append hstop, words_append_blank hgap, hrest]

/-- The words of a text without white space at its front stand in a row. -/
theorem inRow_words {s : List Char} (hs : Stops isBlank s) :
    InRow (words s) s ∧ ∀ w ∈ words s, IsWhole w := by
  cases s with
  | nil => exact ⟨.nil, by simp [words, runs]⟩
  | cons c s =>
    have hc : isBlank c = false := stops_cons.1 hs
    -- the first word, the white space after it and the row of the other words
    let word := (c :: s).takeWhile fun c => !isBlank c
    let rest := (c :: s).dropWhile fun c => !isBlank c
    let gap := rest.takeWhile isBlank
    let row := rest.dropWhile isBlank
    have htext : c :: s = word ++ (gap ++ row) := by
      rw [List.takeWhile_append_dropWhile, List.takeWhile_append_dropWhile]
    have hgap : ∀ d ∈ gap, isBlank d = true := fun _ => of_mem_takeWhile
    have hword : IsWhole word := by
      refine ⟨by simp [word, hc], fun d hd => ?_⟩
      simpa using of_mem_takeWhile hd
    have hstop : Stops (fun c => !isBlank c) (gap ++ row) := by
      rw [List.takeWhile_append_dropWhile]
      exact stops_dropWhile _ _
    have hshort : row.length < (c :: s).length := by
      have := List.length_pos_of_ne_nil hword.ne_nil
      rw [htext, List.length_append, List.length_append]
      omega
    obtain ⟨hrow, hwhole⟩ := inRow_words (stops_dropWhile isBlank rest)
    have hwords : words (c :: s) = word :: words row := by
      rw [htext, hword.words_append hstop, words_append_blank hgap]
    have hsep : words row ≠ [] → gap ≠ [] := by
      intro hne hnil
      rw [hnil, List.nil_append] at hstop
      cases hr : row with
      | nil => exact hne (by rw [hr]; rfl)
      | cons d row' =>
        have hblank : Stops isBlank row := stops_dropWhile isBlank rest
        rw [hr, stops_cons] at hstop hblank
        simp [hblank] at hstop
    rw [hwords]
    refine ⟨?_, fun w hw => ?_⟩
    · rw [htext]
      exact .cons hgap hsep hrow
    · rcases List.mem_cons.1 hw with rfl | hw
      · exact hword
      · exact hwhole w hw
termination_by s.length

/-- **The words of a text are the spaced parts of which it consists**, if none of these has white space
of its own. -/
theorem words_eq_iff {s : List Char} {parts : List (List Char)} :
    words s = parts ↔ Spaced parts s ∧ ∀ part ∈ parts, IsWhole part := by
  constructor
  · rintro rfl
    have hsplit : s = s.takeWhile isBlank ++ s.dropWhile isBlank :=
      List.takeWhile_append_dropWhile.symm
    have hlead : ∀ c ∈ s.takeWhile isBlank, isBlank c = true := fun _ => of_mem_takeWhile
    have hwords : words s = words (s.dropWhile isBlank) := by
      rw [← words_append_blank hlead (s.dropWhile isBlank), ← hsplit]
    obtain ⟨hrow, hwhole⟩ := inRow_words (stops_dropWhile isBlank s)
    rw [hwords]
    exact ⟨⟨_, _, hlead, hrow, hsplit⟩, hwhole⟩
  · rintro ⟨⟨lead, row, hlead, hrow, rfl⟩, hparts⟩
    rw [words_append_blank hlead, words_of_inRow hrow hparts]

/-- Every character of spaced parts stands in one of them, or is white space. -/
theorem Spaced.mem {parts : List (List Char)} {text : List Char} (h : Spaced parts text) :
    ∀ c ∈ text, isBlank c = true ∨ ∃ part ∈ parts, c ∈ part := by
  obtain ⟨lead, row, hlead, hrow, rfl⟩ := h
  refine List.forall_mem_append.2 ⟨fun c hc => .inl (hlead c hc), ?_⟩
  induction hrow with
  | nil => simp
  | @cons part gap rest parts hgap _ _ ih =>
    refine List.forall_mem_append.2 ⟨fun c hc => .inr ⟨part, by simp, hc⟩, ?_⟩
    refine List.forall_mem_append.2 ⟨fun c hc => .inl (hgap c hc), fun c hc => ?_⟩
    exact (ih c hc).imp_right fun ⟨p, hp, hcp⟩ => ⟨p, List.mem_cons_of_mem part hp, hcp⟩

/-- **Before the last part of a row stand the other parts, each with white space after it.** -/
theorem inRow_concat_iff {parts : List (List Char)} {last row : List Char} :
    InRow (parts ++ [last]) row ↔
      ∃ (ended : List (List Char × List Char)) (tail : List Char), ended.map Prod.fst = parts ∧
        (∀ part ∈ ended, part.2 ≠ [] ∧ ∀ c ∈ part.2, isBlank c = true) ∧
        (∀ c ∈ tail, isBlank c = true) ∧
        row = ended.flatMap (fun part => part.1 ++ part.2) ++ (last ++ tail) := by
  constructor
  · intro h
    induction parts generalizing row with
    | nil =>
      cases h with
      | @cons _ gap _ _ hgap _ h => exact ⟨[], gap, rfl, by simp, hgap, by simp [h.eq_nil]⟩
    | cons part parts ih =>
      rw [List.cons_append] at h
      cases h with
      | @cons _ gap _ _ hgap hsep h =>
        obtain ⟨ended, tail, rfl, hended, htail, rfl⟩ := ih h
        refine ⟨(part, gap) :: ended, tail, rfl, ?_, htail, by simp⟩
        exact List.forall_mem_cons.2 ⟨⟨hsep (by simp), hgap⟩, hended⟩
  · rintro ⟨ended, tail, rfl, hended, htail, rfl⟩
    induction ended with
    | nil =>
      have hlast : InRow [last] (last ++ (tail ++ [])) := .cons htail (by simp) .nil
      simpa using hlast
    | cons part ended ih =>
      obtain ⟨⟨hne, hgap⟩, hmore⟩ := List.forall_mem_cons.1 hended
      have hrow : InRow (part.1 :: (ended.map Prod.fst ++ [last])) _ :=
        .cons hgap (fun _ => hne) (ih hmore)
      simpa using hrow

end GasAdvisor.Text
