import GasAdvisor.Proofs.Contract.Seams

/-!
# Where the parts of a function stand

A site is found where its header is read (`Site.FoundIn`). From this follows where its parts stand.

* The qualifiers of a header are separated as a reader splits them (`Header.separated_of_read?`), so
  each is found again when the text of the qualifiers is read on its own (`Qualifier.Separated.nil`).
* The closing brace is the one that matches the opening brace by bytes
  (`Site.FoundIn.matchingBrace?_opening`).
* The ends of a function are seams (`Site.FoundIn.isSeam_start`, `Site.FoundIn.isSeam_stop`).
-/

namespace GasAdvisor

open Text

/-! ## Qualifiers as they are split -/

namespace Qualifier

theorem length_lt_of_read? {s rest : List Char} {q : Qualifier} (h : read? s = some (q, rest)) :
    rest.length < s.length := by
  obtain ⟨hq, rfl⟩ := read?_eq_some h
  have := List.length_pos_iff.2 hq.word_ne
  simp only [text, body, List.length_append]
  omega

/-- A qualifier takes all that belongs to it, unless a parenthesis after it is never closed. -/
theorem ends_of_read? {s rest : List Char} {q : Qualifier} (h : read? s = some (q, rest))
    (hparen : rest.head? ≠ some '(') : q.Ends rest := by
  -- without parentheses, the rest is what follows the white space after the word
  have plain {afterWord : List Char} (hword : Stops isWord afterWord)
      (hgap : q.gap = afterWord.takeWhile isBlank) (hrest : rest = afterWord.dropWhile isBlank) :
      q.Ends rest := by
    refine fun _ => ⟨hrest ▸ stops_dropWhile isBlank afterWord, hparen, fun hnone => ?_⟩
    have hall : rest = afterWord := by
      have := List.takeWhile_append_dropWhile (p := isBlank) (l := afterWord)
      rwa [← hgap, hnone, List.nil_append, ← hrest] at this
    rwa [hall]
  simp only [read?] at h
  split at h
  · cases h
  · split at h
    · split at h
      · obtain ⟨rfl, -⟩ := Prod.mk.inj (Option.some.inj h)
        exact fun hnone => absurd hnone (Option.some_ne_none _)
      · obtain ⟨rfl, rfl⟩ := Prod.mk.inj (Option.some.inj h)
        exact plain (stops_dropWhile isWord _) rfl rfl
    · obtain ⟨rfl, rfl⟩ := Prod.mk.inj (Option.some.inj h)
      exact plain (stops_dropWhile isWord _) rfl rfl

/-- A qualifier does not start with a parenthesis. -/
theorem WellFormed.head?_text_append {q : Qualifier} (hq : q.WellFormed) (t : List Char) :
    (q.text ++ t).head? ≠ some '(' := by
  obtain ⟨lead, word, gap, arguments⟩ := q
  cases lead with
  | cons c lead =>
    have hc : isBlank c = true := hq.lead c List.mem_cons_self
    rintro h
    obtain rfl : c = '(' := by simpa [text] using h
    exact absurd hc (by decide)
  | nil =>
    obtain ⟨c, word, rfl⟩ := List.exists_cons_of_ne_nil hq.word_ne
    have hc : isWord c = true := hq.word c List.mem_cons_self
    rintro h
    obtain rfl : c = '(' := by simpa [text, body] using h
    exact absurd hc (by decide)

/-- **The qualifiers of a text are read up to a place where no further one stands**, and each takes
all that belongs to it. -/
theorem separated_readUpTo {limit : Nat} {s : List Char} (hl : s.length ≤ limit)
    (hparen : (readUpTo limit s).2.head? ≠ some '(') :
    Separated (readUpTo limit s).1 (readUpTo limit s).2 := by
  induction limit generalizing s with
  | zero =>
    obtain rfl : s = [] := List.eq_nil_of_length_eq_zero (Nat.le_zero.1 hl)
    rfl
  | succ limit ih =>
    rw [readUpTo] at hparen ⊢
    split at hparen
    · next hnone => exact hnone
    · next q rest hread =>
      have hlt := length_lt_of_read? hread
      obtain ⟨hwf, hrest⟩ := readUpTo_sound limit rest
      have hfirst : rest.head? ≠ some '(' := by
        rw [hrest]
        cases hqs : (readUpTo limit rest).1 with
        | nil => exact hparen
        | cons q' qs =>
          rw [textOf, List.flatMap_cons, List.append_assoc]
          exact (hwf q' (by rw [hqs]; exact List.mem_cons_self)).head?_text_append _
      refine ⟨(read?_eq_some hread).1, ?_, ih (by omega) hparen⟩
      rw [← hrest]
      exact ends_of_read? hread hfirst

theorem textOf_ne_nil {q : Qualifier} {qs : List Qualifier} (hq : q.WellFormed) :
    textOf (q :: qs) ≠ [] := by
  intro h
  have hpos := List.length_pos_iff.2 hq.word_ne
  have := congrArg List.length h
  simp only [textOf, List.flatMap_cons, text, body, List.length_append, List.length_nil] at this
  omega

/-- Only the first character of what follows a qualifier matters to where it ends. -/
theorem Ends.of_append {q : Qualifier} {a b : List Char} (h : q.Ends (a ++ b)) (ha : a ≠ []) :
    q.Ends a := by
  obtain ⟨c, a, rfl⟩ := List.exists_cons_of_ne_nil ha
  exact h

/-- **Separated qualifiers are separated when nothing follows them.** -/
theorem Separated.nil {qs : List Qualifier} {rest : List Char} (h : Separated qs rest) :
    Separated qs [] := by
  induction qs with
  | nil => rfl
  | cons q qs ih =>
    obtain ⟨hq, hend, hqs⟩ := h
    refine ⟨hq, ?_, ih hqs⟩
    rw [List.append_nil]
    cases qs with
    | nil => exact fun _ => ⟨stops_nil, nofun, fun _ => stops_nil⟩
    | cons q' qs => exact hend.of_append (textOf_ne_nil hqs.1)

end Qualifier

/-- The qualifiers of a header are separated up to its opening brace. -/
theorem Header.separated_of_read? {s rest : List Char} {h : Header} (hr : read? s = some (h, rest)) :
    Qualifier.Separated h.qualifiers (h.bodyGap ++ '{' :: rest) := by
  unfold read? at hr
  split at hr
  · simp only at hr
    split at hr
    · cases hr
    · split at hr
      · split at hr
        · cases hr
        · next parameters after _ =>
          split at hr
          · next rest' hbrace =>
            obtain ⟨rfl, rfl⟩ : _ = h ∧ rest' = rest := by simpa using hr
            have hrest : (Qualifier.readAll after).2 =
                (Qualifier.readAll after).2.takeWhile isBlank ++ '{' :: rest' := by
              rw [← hbrace, List.takeWhile_append_dropWhile]
            have hparen : (Qualifier.readAll after).2.head? ≠ some '(' := by
              intro hhead
              have hblank : isBlank '(' = false := by decide
              cases hafter : (Qualifier.readAll after).2 with
              | nil => rw [hafter] at hhead; cases hhead
              | cons c t =>
                rw [hafter] at hhead hbrace
                obtain rfl : c = '(' := Option.some.inj hhead
                rw [List.dropWhile_cons_of_neg (by simp [hblank])] at hbrace
                exact absurd (List.cons.inj hbrace).1 (by decide)
            have hsep := Qualifier.separated_readUpTo (Nat.le_refl after.length) hparen
            show Qualifier.Separated (Qualifier.readAll after).1 _
            rw [← hrest]
            exact hsep
          · cases hr
      · cases hr
  · cases hr

/-! ## Braces by bytes -/

theorem dropBytes_byteSize_append (a b : List Char) : dropBytes (byteSize a) (a ++ b) = some b := by
  induction a with
  | nil => rw [byteSize, List.nil_append, dropBytes]
  | cons c a ih =>
    obtain ⟨n, hn⟩ := Nat.exists_eq_succ_of_ne_zero (width_pos c).ne'
    have hsize : byteSize (c :: a) = (n + byteSize a) + 1 := by
      rw [byteSize, hn]
      omega
    have hrest : n + byteSize a + 1 - width c = byteSize a := by omega
    rw [hsize, List.cons_append, dropBytes, if_pos (by omega), hrest, ih]

/-- **The brace that matches the one at an offset ends the block that starts there.** -/
theorem matchingBrace?_append (a b : List Char) :
    matchingBrace? (a ++ b) (byteSize a) =
      (block? b).map fun block => byteSize a + byteSize block - 1 := by
  rw [matchingBrace?, dropBytes_byteSize_append, Option.bind_eq_bind, Option.bind_some]
  cases block? b <;> rfl

/-! ## Sites as they are found -/

namespace Site.FoundIn

variable {site : Site} {scan before rest : List Char}

/-- The text before the opening brace. -/
theorem splits_opening (h : site.FoundIn scan before rest) :
    scan = (before ++ site.header.front) ++ '{' :: rest := by
  rw [h.splits, Header.text_eq_front]
  simp only [List.append_assoc, List.singleton_append]

theorem length_opening (h : site.FoundIn scan before rest) :
    (before ++ site.header.front).length = site.opening := by
  rw [List.length_append, h.start, opening, Header.length_text, Nat.add_sub_cancel]

/-- The text before the closing brace. -/
theorem exists_splits_closing (h : site.FoundIn scan before rest) :
    ∃ init after, site.body = init ++ ['}'] ∧
      scan = (before ++ site.header.front ++ init) ++ '}' :: after := by
  obtain ⟨⟨after, hafter⟩, t, ht, hclose⟩ := block?_eq_some_iff.1 h.block
  obtain ⟨init, hinit⟩ := List.getLast?_eq_some_iff.1 (hclose.getLast? Int.one_pos)
  have hbody : site.body = ('{' :: init) ++ ['}'] := by
    rw [ht, hinit]
    rfl
  refine ⟨'{' :: init, after, hbody, ?_⟩
  rw [h.splits_opening, ← hafter, hbody]
  simp only [List.append_assoc, List.singleton_append]

/-- The index of the closing brace. -/
theorem length_closing (h : site.FoundIn scan before rest) {init : List Char}
    (hinit : site.body = init ++ ['}']) :
    (before ++ site.header.front ++ init).length = site.stop - 1 := by
  have hopening := h.length_opening
  have hsize := congrArg List.length hinit
  rw [List.length_append] at hopening ⊢
  rw [opening] at hopening
  rw [List.length_append, List.length_singleton] at hsize
  rw [stop, size]
  simp only [List.length_append]
  omega

theorem byteOffset_opening (h : site.FoundIn scan before rest) :
    byteOffset scan site.opening = byteSize (before ++ site.header.front) := by
  rw [← h.length_opening, h.splits_opening, byteOffset_append]

/-- **The closing brace matches the opening one**, found by bytes. -/
theorem matchingBrace?_opening (h : site.FoundIn scan before rest) :
    matchingBrace? scan (byteOffset scan site.opening) =
      some (byteOffset scan (site.stop - 1)) := by
  obtain ⟨init, after, hinit, hclosing⟩ := h.exists_splits_closing
  have hbrace : width '}' = 1 := by decide
  have hcloses : byteOffset scan (site.stop - 1) =
      byteSize (before ++ site.header.front ++ init) := by
    rw [← h.length_closing hinit, hclosing, byteOffset_append]
  rw [h.byteOffset_opening, hcloses, h.splits_opening, matchingBrace?_append, h.block,
    Option.map_some, hinit, byteSize_append _ init, byteSize_append init, byteSize, byteSize, hbrace]
  rfl

/-- What stands before and after the qualifiers of a function. -/
theorem exists_splits_qualifiers (h : site.FoundIn scan before rest) :
    ∃ front, scan = front ++ (Qualifier.textOf site.header.qualifiers ++
        (site.header.bodyGap ++ '{' :: rest)) ∧ front.length = site.qualifiersStart := by
  refine ⟨before ++ (site.header.nameText ++ (site.header.parameters ++ [')'])), ?_, ?_⟩
  · rw [h.splits_opening, Header.front, Header.qualifiersText, Qualifier.textOf]
    simp only [List.append_assoc]
  · rw [qualifiersStart, parametersStart, ← h.start]
    simp only [List.length_append, List.length_cons, List.length_nil]
    omega

/-- What stands before and after the parentheses around the parameters of a function. -/
theorem exists_splits_parameters (h : site.FoundIn scan before rest) :
    ∃ front after, scan = front ++ '(' :: (site.header.parameters ++ ')' :: after) ∧
      front.length + 1 = site.parametersStart := by
  refine ⟨before ++ (Header.keyword ++ site.header.gap ++ site.header.name ++ site.header.nameGap),
    site.header.qualifiersText ++ (site.header.bodyGap ++ '{' :: rest), ?_, ?_⟩
  · rw [h.splits_opening, Header.front, Header.nameText]
    simp only [List.append_assoc, List.cons_append, List.nil_append]
  · rw [parametersStart, ← h.start, Header.nameText]
    simp only [List.length_append, List.length_cons, List.length_nil]
    omega

end Site.FoundIn

/-! ## Seams of a function -/

namespace Site.FoundIn

variable {site : Site} {scanning : Scanning} {source before rest : List Char}

/-- A function starts with the first letter of its keyword. -/
theorem isSeam_start (h : site.FoundIn (scanning.scan source) before rest) :
    scanning.IsSeam source site.start := by
  obtain ⟨t, ht⟩ := site.header.keyword_prefix_front
  have hsplit : scanning.scan source =
      before ++ 'f' :: ("unction".toList ++ t ++ '{' :: rest) := by
    rw [h.splits_opening, ← ht]
    simp only [List.append_assoc]
    rfl
  rw [← h.start]
  exact (Scanning.isSeam_of_char hsplit (by decide)).1

/-- A function ends with its closing brace. -/
theorem isSeam_stop (h : site.FoundIn (scanning.scan source) before rest) :
    scanning.IsSeam source site.stop := by
  obtain ⟨init, after, hinit, hclosing⟩ := h.exists_splits_closing
  have hseam := (Scanning.isSeam_of_char hclosing (by decide)).2
  have hpos : 0 < site.body.length := by
    rw [hinit, List.length_append]
    exact Nat.succ_pos _
  rw [h.length_closing hinit] at hseam
  have hstop : site.stop - 1 + 1 = site.stop := by
    rw [stop, size]
    omega
  rwa [hstop] at hseam

/-- **The source of a function is sliced where its text stands.** -/
theorem slice?_source (h : site.FoundIn (scanning.scan source) before rest) :
    slice? source (spanAt (scanning.scan source) site.start site.size) =
      some (Cell.sourceOf (stretch (scanning.cells source) site.start site.size)) :=
  Scanning.slice?_of_isSeam h.isSeam_start h.isSeam_stop

end Site.FoundIn

end GasAdvisor
