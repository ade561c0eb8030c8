import GasAdvisor.Contract.Header
import GasAdvisor.Proofs.Text.Spans

/-!
# Headers, read and written

Reading a header and writing it back are inverse to each other.

* What is read is well formed (`Header.WellFormed`), and written back with the rest behind it, it is
  the text that was read (`Header.read?_eq_some`): nothing is lost.
* A well-formed header is read back from its text (`Header.read?_text_append`), provided that its
  qualifiers are written as a reader splits them (`Qualifier.Separated`): white space between two of
  them belongs to the first one if that has no parentheses.
-/

namespace GasAdvisor

open Text

theorem upToParen_eq_some {s a rest : List Char} (h : upToParen s = some (a, rest)) :
    s = a ++ ')' :: rest ∧ ')' ∉ a := by
  unfold upToParen at h
  split at h
  · cases h
  · next c rest' hd =>
    obtain ⟨rfl, rfl⟩ : s.takeWhile (· != ')') = a ∧ rest' = rest := by simpa using h
    have hc : c = ')' := by
      have := stops_dropWhile (· != ')') s
      rw [hd, stops_cons] at this
      simpa using this
    subst hc
    refine ⟨?_, fun hmem => ?_⟩
    · rw [← hd, List.takeWhile_append_dropWhile]
    · simpa using of_mem_takeWhile hmem

theorem upToParen_append {a : List Char} (ha : ')' ∉ a) (rest : List Char) :
    upToParen (a ++ ')' :: rest) = some (a, rest) := by
  have hall : ∀ c ∈ a, (c != ')') = true := fun c hc => by
    simpa using fun (e : c = ')') => ha (e ▸ hc)
  have hstop : Stops (· != ')') (')' :: rest) := by simp
  rw [upToParen, dropWhile_append_of_stop hall hstop, takeWhile_append_of_stop hall hstop]

/-! ## Qualifiers -/

namespace Qualifier

/-- The parts of a qualifier consist of what their names say. -/
structure WellFormed (q : Qualifier) : Prop where
  lead : ∀ c ∈ q.lead, isBlank c = true
  word_ne : q.word ≠ []
  word : ∀ c ∈ q.word, isWord c = true
  gap : ∀ c ∈ q.gap, isBlank c = true
  arguments : ∀ a ∈ q.arguments, ')' ∉ a

/-- **Reading a qualifier loses nothing.** -/
theorem read?_eq_some {s rest : List Char} {q : Qualifier} (h : read? s = some (q, rest)) :
    q.WellFormed ∧ s = q.text ++ rest := by
  have hs : s = s.takeWhile isBlank ++ (s.dropWhile isBlank).takeWhile isWord ++
      ((s.dropWhile isBlank).dropWhile isWord).takeWhile isBlank ++
      ((s.dropWhile isBlank).dropWhile isWord).dropWhile isBlank := by
    simp only [List.append_assoc, List.takeWhile_append_dropWhile]
  simp only [read?] at h
  split at h
  · cases h
  · next hne =>
    have hw : (s.dropWhile isBlank).takeWhile isWord ≠ [] := by simpa using hne
    have wf (arguments : Option (List Char)) (ha : ∀ a ∈ arguments, ')' ∉ a) :
        WellFormed ⟨s.takeWhile isBlank, (s.dropWhile isBlank).takeWhile isWord,
          ((s.dropWhile isBlank).dropWhile isWord).takeWhile isBlank, arguments⟩ :=
      ⟨fun _ => of_mem_takeWhile, hw, fun _ => of_mem_takeWhile, fun _ => of_mem_takeWhile, ha⟩
    split at h
    · next inner hi =>
      split at h
      · next a rest' hu =>
        obtain ⟨rfl, rfl⟩ : _ = q ∧ rest' = rest := by simpa using h
        obtain ⟨hinner, ha⟩ := upToParen_eq_some hu
        refine ⟨wf (some a) (by simpa using ha), ?_⟩
        rw [hi, hinner] at hs
        simpa [text, body, argumentsText] using hs
      · obtain ⟨rfl, rfl⟩ : _ = q ∧ _ = rest := by simpa using h
        exact ⟨wf none (by simp), by simp [text, body, argumentsText]⟩
    · obtain ⟨rfl, rfl⟩ : _ = q ∧ _ = rest := by simpa using h
      exact ⟨wf none (by simp), by simp [text, body, argumentsText]⟩

/-- What may follow a qualifier: without parentheses of its own it takes all white space after it,
and a parenthesis or a character of a word after it would belong to it. -/
def Ends (q : Qualifier) (rest : List Char) : Prop :=
  q.arguments = none → Stops isBlank rest ∧ rest.head? ≠ some '(' ∧ (q.gap = [] → Stops isWord rest)

/-- **A qualifier is read back from its text.** -/
theorem read?_text_append {q : Qualifier} (hq : q.WellFormed) {rest : List Char}
    (hend : q.Ends rest) : read? (q.text ++ rest) = some (q, rest) := by
  obtain ⟨lead, word, gap, arguments⟩ := q
  have hw : word.isEmpty = false := by simpa using hq.word_ne
  -- the text from the gap on, however it goes on
  have front {tail : List Char} (hb : Stops isBlank tail) (hg : gap = [] → Stops isWord tail) :
      (lead ++ (word ++ (gap ++ tail))).takeWhile isBlank = lead ∧
      (lead ++ (word ++ (gap ++ tail))).dropWhile isBlank = word ++ (gap ++ tail) ∧
      (word ++ (gap ++ tail)).takeWhile isWord = word ∧
      (word ++ (gap ++ tail)).dropWhile isWord = gap ++ tail ∧
      (gap ++ tail).takeWhile isBlank = gap ∧ (gap ++ tail).dropWhile isBlank = tail := by
    have h1 := stops_isBlank_of_word (b := gap ++ tail) hq.word_ne hq.word
    have h2 : Stops isWord (gap ++ tail) := by
      by_cases hgap : gap = []
      · rw [hgap, List.nil_append]; exact hg hgap
      · exact stops_isWord_of_blank hgap hq.gap
    exact ⟨takeWhile_append_of_stop hq.lead h1, dropWhile_append_of_stop hq.lead h1,
      takeWhile_append_of_stop hq.word h2, dropWhile_append_of_stop hq.word h2,
      takeWhile_append_of_stop hq.gap hb, dropWhile_append_of_stop hq.gap hb⟩
  cases arguments with
  | none =>
    obtain ⟨hb, hp, hg⟩ := hend rfl
    obtain ⟨e1, e2, e3, e4, e5, e6⟩ := front hb hg
    simp only [read?, text, body, argumentsText, List.append_nil, List.append_assoc, e1, e2, e3, e4,
      e5, e6, hw, Bool.false_eq_true, if_false]
    split
    · simp at hp
    · rfl
  | some a =>
    have ha : ')' ∉ a := hq.arguments a rfl
    obtain ⟨e1, e2, e3, e4, e5, e6⟩ :=
      @front ('(' :: (a ++ ')' :: rest)) (by simp; decide) (fun _ => by simp; decide)
    simp only [read?, text, body, argumentsText, List.append_assoc, List.cons_append,
      List.nil_append, e1, e2, e3, e4, e5, e6, hw, upToParen_append ha]
    rfl

/-- The text of qualifiers that follow one another. -/
def textOf (qs : List Qualifier) : List Char :=
  qs.flatMap text

/-- Qualifiers that are read back one by one when `rest` follows them. -/
def Separated : List Qualifier → List Char → Prop
  | [], rest => read? rest = none
  | q :: qs, rest => q.WellFormed ∧ q.Ends (textOf qs ++ rest) ∧ Separated qs rest

/-- Qualifiers read from a text are well formed and lose nothing. -/
theorem readUpTo_sound (limit : Nat) (s : List Char) :
    (∀ q ∈ (readUpTo limit s).1, q.WellFormed) ∧
      s = textOf (readUpTo limit s).1 ++ (readUpTo limit s).2 := by
  induction limit generalizing s with
  | zero => simp [readUpTo, textOf]
  | succ limit ih =>
    rw [readUpTo]
    split
    · simp [textOf]
    · next q rest hq =>
      obtain ⟨hwf, hs⟩ := read?_eq_some hq
      obtain ⟨hall, hrest⟩ := ih rest
      refine ⟨?_, ?_⟩
      · simpa using ⟨hwf, hall⟩
      · rw [hs, textOf, List.flatMap_cons, List.append_assoc]
        exact congrArg _ hrest

theorem readUpTo_textOf_append {qs : List Qualifier} {rest : List Char} (h : Separated qs rest)
    {limit : Nat} (hl : qs.length ≤ limit) : readUpTo limit (textOf qs ++ rest) = (qs, rest) := by
  induction qs generalizing limit with
  | nil =>
    cases limit with
    | zero => rfl
    | succ limit =>
      have : read? rest = none := h
      simp [readUpTo, textOf, this]
  | cons q qs ih =>
    obtain ⟨hq, hend, hqs⟩ := h
    cases limit with
    | zero => simp at hl
    | succ limit =>
      have e : textOf (q :: qs) ++ rest = q.text ++ (textOf qs ++ rest) := by
        simp [textOf]
      rw [e, readUpTo, read?_text_append hq hend]
      simp only [ih hqs (Nat.le_of_succ_le_succ hl)]

theorem length_le_textOf {qs : List Qualifier} {rest : List Char} (h : Separated qs rest) :
    qs.length ≤ (textOf qs).length := by
  induction qs with
  | nil => simp
  | cons q qs ih =>
    have hpos : 0 < q.word.length := List.length_pos_iff.2 h.1.word_ne
    have := ih h.2.2
    simp only [textOf, List.flatMap_cons, List.length_append, List.length_cons, text, body] at *
    omega

/-- **Qualifiers are read back from their text.** -/
theorem readAll_textOf_append {qs : List Qualifier} {rest : List Char} (h : Separated qs rest) :
    readAll (textOf qs ++ rest) = (qs, rest) := by
  have := length_le_textOf h
  refine readUpTo_textOf_append h ?_
  rw [List.length_append]
  omega

end Qualifier

/-! ## Headers -/

namespace Header

/-- The parts of a header consist of what their names say. -/
structure WellFormed (h : Header) : Prop where
  gap_ne : h.gap ≠ []
  gap : ∀ c ∈ h.gap, isBlank c = true
  name_ne : h.name ≠ []
  name : ∀ c ∈ h.name, isWord c = true
  nameGap : ∀ c ∈ h.nameGap, isBlank c = true
  parameters : ')' ∉ h.parameters
  qualifiers : ∀ q ∈ h.qualifiers, q.WellFormed
  bodyGap : ∀ c ∈ h.bodyGap, isBlank c = true

/-- The text of a header without the opening brace. -/
def front (h : Header) : List Char :=
  h.nameText ++ h.parameters ++ [')'] ++ h.qualifiersText ++ h.bodyGap

theorem text_eq_front (h : Header) : h.text = h.front ++ ['{'] := rfl

theorem length_text (h : Header) : h.text.length = h.front.length + 1 := by
  rw [text_eq_front, List.length_append]
  rfl

/-- The word `function` stands at the front of a header. -/
theorem keyword_prefix_front (h : Header) : keyword <+: h.front := by
  simp only [front, nameText, List.append_assoc]
  exact List.prefix_append _ _

/-- **Reading a header loses nothing.** -/
theorem read?_eq_some {s rest : List Char} {h : Header} (hr : read? s = some (h, rest)) :
    h.WellFormed ∧ s = h.text ++ rest := by
  unfold read? at hr
  split at hr
  · next hk =>
    obtain ⟨s, rfl⟩ := List.isPrefixOf_iff_prefix.1 hk
    rw [List.drop_left] at hr
    simp only at hr
    split at hr
    · cases hr
    · next hne =>
      simp only [Bool.or_eq_true, List.isEmpty_iff, not_or] at hne
      split at hr
      · next inner hi =>
        split at hr
        · cases hr
        · next parameters after hu =>
          obtain ⟨hinner, hp⟩ := upToParen_eq_some hu
          obtain ⟨hqs, hafter⟩ := Qualifier.readUpTo_sound after.length after
          split at hr
          · next rest' hb =>
            obtain ⟨rfl, rfl⟩ : _ = h ∧ rest' = rest := by simpa using hr
            refine ⟨⟨hne.1, fun _ => of_mem_takeWhile, hne.2, fun _ => of_mem_takeWhile,
              fun _ => of_mem_takeWhile, hp, hqs, fun _ => of_mem_takeWhile⟩, ?_⟩
            -- the text is put together again from the back
            have e1 : (Qualifier.readAll after).2 =
                (Qualifier.readAll after).2.takeWhile isBlank ++ '{' :: rest' := by
              rw [← hb, List.takeWhile_append_dropWhile]
            have e2 : after = Qualifier.textOf (Qualifier.readAll after).1 ++
                ((Qualifier.readAll after).2.takeWhile isBlank ++ '{' :: rest') := by
              rw [← e1]; exact hafter
            have e3 : s = s.takeWhile isBlank ++ ((s.dropWhile isBlank).takeWhile isWord ++
                (((s.dropWhile isBlank).dropWhile isWord).takeWhile isBlank ++
                  '(' :: (parameters ++ ')' :: after))) := by
              rw [← hinner, ← hi]
              simp only [List.takeWhile_append_dropWhile]
            conv_lhs => rw [e3, e2]
            simp only [text, nameText, qualifiersText, Qualifier.textOf, List.append_assoc,
              List.cons_append, List.nil_append]
          · cases hr
      · cases hr
  · cases hr

/-- **A header is read back from its text.** -/
theorem read?_text_append {h : Header} (hh : h.WellFormed) {rest : List Char}
    (hs : Qualifier.Separated h.qualifiers (h.bodyGap ++ '{' :: rest)) :
    read? (h.text ++ rest) = some (h, rest) := by
  obtain ⟨gap, name, nameGap, parameters, qualifiers, bodyGap⟩ := h
  have paren (t : List Char) : Stops isBlank ('(' :: t) ∧ Stops isWord ('(' :: t) := by
    simp only [stops_cons]; decide
  have brace : Stops isBlank ('{' :: rest) := by simp; decide
  have h1 (t : List Char) : Stops isBlank (name ++ t) := stops_isBlank_of_word hh.name_ne hh.name
  have h2 (t : List Char) : Stops isWord (nameGap ++ '(' :: t) := by
    by_cases hg : nameGap = []
    · rw [hg, List.nil_append]; exact (paren t).2
    · exact stops_isWord_of_blank hg hh.nameGap
  have hg : gap.isEmpty = false := by simpa using hh.gap_ne
  have hn : name.isEmpty = false := by simpa using hh.name_ne
  have hk (t : List Char) : keyword.isPrefixOf (keyword ++ t) = true :=
    List.isPrefixOf_iff_prefix.2 (List.prefix_append _ _)
  have hq := Qualifier.readAll_textOf_append hs
  simp only [Qualifier.textOf] at hq
  simp only [read?, text, nameText, qualifiersText, List.append_assoc, List.cons_append,
    List.nil_append, hk, if_true, List.drop_left, takeWhile_append_of_stop hh.gap (h1 _),
    dropWhile_append_of_stop hh.gap (h1 _), takeWhile_append_of_stop hh.name (h2 _),
    dropWhile_append_of_stop hh.name (h2 _), takeWhile_append_of_stop hh.nameGap (paren _).1,
    dropWhile_append_of_stop hh.nameGap (paren _).1, hg, hn, Bool.or_self, Bool.false_eq_true,
    if_false, upToParen_append hh.parameters, hq, takeWhile_append_of_stop hh.bodyGap brace,
    dropWhile_append_of_stop hh.bodyGap brace]

end Header

end GasAdvisor
