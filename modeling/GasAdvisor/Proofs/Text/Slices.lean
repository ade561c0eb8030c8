import GasAdvisor.Text.Slice
import GasAdvisor.Proofs.Contract.Cells

/-!
# When a slice is taken

A byte offset stands between characters if it is the size of some part of the text from the front
(`IsBoundary`). A slice is taken exactly of a span that fits its text (`isSome_slice?_iff`), and it is
the part of the text that stands there (`slice?_eq_some_iff`). A stretch of characters always has a
span that fits (`slice?_spanAt`), and the span of a stretch of a part of a text is moved to the text by
the size of what stands before that part (`shift_spanAt`).
-/

namespace GasAdvisor.Text

variable {text : List Char}

/-- A byte offset between two characters of a text, or at one of its ends. -/
def IsBoundary (text : List Char) (offset : Nat) : Prop :=
  ∃ front, front <+: text ∧ byteSize front = offset

/-- A span whose ends stand in order, within a text and between its characters. -/
structure Span.Fits (span : Span) (text : List Char) : Prop where
  ordered : span.start ≤ span.stop
  bounded : span.stop ≤ byteSize text
  start : IsBoundary text span.start
  stop : IsBoundary text span.stop

/-! ## Offsets -/

/-- **A byte offset has an index exactly if it is the size of a part of the text from the front.** -/
theorem charIndex?_eq_some_iff {offset index : Nat} :
    charIndex? offset text = some index ↔
      ∃ front rest, text = front ++ rest ∧ byteSize front = offset ∧ front.length = index := by
  induction text generalizing offset index with
  | nil =>
    cases offset with
    | zero => simp [charIndex?, byteSize, eq_comm]
    | succ offset => simp [charIndex?, byteSize]
  | cons c text ih =>
    cases offset with
    | zero =>
      rw [charIndex?]
      constructor
      · intro h
        exact ⟨[], c :: text, rfl, rfl, Option.some.inj h⟩
      · rintro ⟨front, rest, -, hsize, rfl⟩
        cases front with
        | nil => rfl
        | cons d front =>
          have := width_pos d
          rw [byteSize] at hsize
          omega
    | succ offset =>
      rw [charIndex?]
      constructor
      · intro h
        split at h
        · next hle =>
          obtain ⟨i, hi, rfl⟩ := Option.map_eq_some_iff.1 h
          obtain ⟨front, rest, rfl, hsize, rfl⟩ := ih.1 hi
          exact ⟨c :: front, rest, rfl, by rw [byteSize]; omega, rfl⟩
        · cases h
      · rintro ⟨front, rest, htext, hsize, rfl⟩
        cases front with
        | nil => cases hsize
        | cons d front =>
          obtain ⟨rfl, rfl⟩ := List.cons.inj htext
          rw [byteSize] at hsize
          rw [if_pos (by omega), ih.2 ⟨front, rest, rfl, by omega, rfl⟩]
          rfl

theorem isSome_charIndex?_iff {offset : Nat} :
    (charIndex? offset text).isSome ↔ IsBoundary text offset := by
  rw [Option.isSome_iff_exists]
  constructor
  · rintro ⟨index, h⟩
    obtain ⟨front, rest, rfl, hsize, -⟩ := charIndex?_eq_some_iff.1 h
    exact ⟨front, List.prefix_append _ _, hsize⟩
  · rintro ⟨front, ⟨rest, rfl⟩, hsize⟩
    exact ⟨front.length, charIndex?_eq_some_iff.2 ⟨front, rest, rfl, hsize, rfl⟩⟩

theorem IsBoundary.le_byteSize {offset : Nat} (h : IsBoundary text offset) :
    offset ≤ byteSize text := by
  obtain ⟨front, ⟨rest, rfl⟩, rfl⟩ := h
  rw [byteSize_append]
  exact Nat.le_add_right _ _

theorem byteOffset_append (front rest : List Char) :
    byteOffset (front ++ rest) front.length = byteSize front := by
  rw [byteOffset, List.take_left]

theorem charIndex?_byteSize_append (front rest : List Char) :
    charIndex? (byteSize front) (front ++ rest) = some front.length :=
  charIndex?_eq_some_iff.2 ⟨front, rest, rfl, rfl, rfl⟩

/-- A longer part of a text has more bytes. -/
theorem byteOffset_lt_byteOffset {i j : Nat} (hij : i < j) (hj : j ≤ text.length) :
    byteOffset text i < byteOffset text j := by
  have hsplit : text.take j = text.take i ++ (text.drop i).take (j - i) := by
    rw [← List.take_add, Nat.add_sub_cancel' (Nat.le_of_lt hij)]
  have hmore : (text.drop i).take (j - i) ≠ [] := by
    intro h
    have := congrArg List.length h
    simp only [List.length_take, List.length_drop, List.length_nil] at this
    omega
  obtain ⟨c, rest, hc⟩ := List.exists_cons_of_ne_nil hmore
  have := width_pos c
  rw [byteOffset, byteOffset, hsplit, byteSize_append, hc, byteSize]
  omega

theorem byteOffset_le_byteOffset {i j : Nat} (hij : i ≤ j) (text : List Char) :
    byteOffset text i ≤ byteOffset text j := by
  rw [byteOffset, byteOffset, ← Nat.add_sub_cancel' hij, List.take_add, byteSize_append]
  exact Nat.le_add_right _ _

theorem byteOffset_lt_iff {i j : Nat} (hj : j ≤ text.length) :
    byteOffset text i < byteOffset text j ↔ i < j := by
  constructor
  · intro hlt
    refine Nat.lt_of_not_le fun hle => Nat.lt_irrefl (byteOffset text i) ?_
    exact Nat.lt_of_lt_of_le hlt (byteOffset_le_byteOffset hle text)
  · intro hlt
    exact byteOffset_lt_byteOffset hlt hj

/-- **The bytes of a stretch are those of its characters.** -/
theorem contains_spanAt {start size : Nat} (hstop : start + size ≤ text.length) (index : Nat) :
    (spanAt text start size).contains (byteOffset text index) =
      (decide (start ≤ index) && decide (index < start + size)) := by
  have hstart : start ≤ text.length := Nat.le_trans (Nat.le_add_right _ _) hstop
  have hle : byteOffset text start ≤ byteOffset text index ↔ start ≤ index := by
    rw [← Nat.not_lt, ← Nat.not_lt, byteOffset_lt_iff hstart]
  rw [Span.contains, spanAt, decide_eq_decide.2 hle, decide_eq_decide.2 (byteOffset_lt_iff hstop)]

/-! ## Parts of a text -/

/-- The offsets of what follows a text are counted from its size on. -/
theorem byteOffset_append_right (front rest : List Char) (index : Nat) :
    byteOffset (front ++ rest) (front.length + index) = byteSize front + byteOffset rest index := by
  rw [byteOffset, List.take_length_add_append, byteSize_append]
  rfl

theorem byteOffset_append_of_le {index : Nat} (h : index ≤ text.length) (rest : List Char) :
    byteOffset (text ++ rest) index = byteOffset text index := by
  rw [byteOffset, List.take_append_of_le_length h]
  rfl

/-- **A span of a part of a text, counted from the size of what stands before, is one of the text.** -/
theorem shift_spanAt {index size : Nat} (h : index + size ≤ text.length) (front rest : List Char) :
    (spanAt text index size).shift (byteSize front) =
      spanAt (front ++ (text ++ rest)) (front.length + index) size := by
  rw [spanAt, spanAt, Nat.add_assoc, byteOffset_append_right, byteOffset_append_right,
    byteOffset_append_of_le h, byteOffset_append_of_le (Nat.le_trans (Nat.le_add_right _ _) h)]
  rfl

/-! ## Slices -/

/-- **A slice is the part of a text between the offsets of its ends.** -/
theorem slice?_eq_some_iff {span : Span} {part : List Char} :
    slice? text span = some part ↔
      ∃ before after, text = before ++ part ++ after ∧ byteSize before = span.start ∧
        byteSize (before ++ part) = span.stop := by
  unfold slice?
  constructor
  · intro h
    split at h
    · next hle =>
      obtain ⟨first, hfirst, h⟩ := Option.bind_eq_some_iff.1 h
      obtain ⟨last, hlast, h⟩ := Option.bind_eq_some_iff.1 h
      obtain ⟨before, rest, rfl, hstart, rfl⟩ := charIndex?_eq_some_iff.1 hfirst
      obtain ⟨front, after, htext, hstop, rfl⟩ := charIndex?_eq_some_iff.1 hlast
      -- the part up to the start is one of the part up to the stop
      obtain ⟨part', rfl, rfl⟩ : ∃ part', front = before ++ part' ∧ rest = part' ++ after := by
        rcases List.append_eq_append_iff.1 htext with ⟨u, hu, hv⟩ | ⟨u, hu, hv⟩
        · exact ⟨u, hu, hv⟩
        · cases u with
          | nil => exact ⟨[], by simpa using hu.symm, by simpa using hv.symm⟩
          | cons c u =>
            have := width_pos c
            rw [hu, byteSize_append, byteSize] at hstart
            omega
      have hpart : part' = part := by simpa using h
      subst hpart
      exact ⟨before, after, by rw [List.append_assoc], hstart, hstop⟩
    · cases h
  · rintro ⟨before, after, rfl, hstart, hstop⟩
    have hfirst : charIndex? span.start (before ++ part ++ after) = some before.length := by
      rw [← hstart, List.append_assoc, charIndex?_byteSize_append]
    have hlast : charIndex? span.stop (before ++ part ++ after) = some (before ++ part).length := by
      rw [← hstop, charIndex?_byteSize_append]
    have hle : span.start ≤ span.stop := by
      rw [← hstart, ← hstop, byteSize_append]
      exact Nat.le_add_right _ _
    rw [if_pos hle, hfirst, hlast]
    simp

/-- **A slice is taken exactly of a span that fits.** -/
theorem isSome_slice?_iff {span : Span} : (slice? text span).isSome ↔ span.Fits text := by
  constructor
  · intro h
    obtain ⟨part, hpart⟩ := Option.isSome_iff_exists.1 h
    obtain ⟨before, after, rfl, hstart, hstop⟩ := slice?_eq_some_iff.1 hpart
    have hlast : IsBoundary (before ++ part ++ after) span.stop :=
      ⟨before ++ part, List.prefix_append _ _, hstop⟩
    refine ⟨?_, hlast.le_byteSize, ⟨before, ?_, hstart⟩, hlast⟩
    · rw [← hstart, ← hstop, byteSize_append]
      exact Nat.le_add_right _ _
    · rw [List.append_assoc]
      exact List.prefix_append _ _
  · intro h
    obtain ⟨first, hfirst⟩ := Option.isSome_iff_exists.1 (isSome_charIndex?_iff.2 h.start)
    obtain ⟨last, hlast⟩ := Option.isSome_iff_exists.1 (isSome_charIndex?_iff.2 h.stop)
    rw [slice?, if_pos h.ordered, hfirst, hlast]
    rfl

/-- The second of these characters takes two bytes. -/
example : slice? ['a', 'é'] ⟨1, 2⟩ = none ∧ slice? ['a', 'é'] ⟨1, 3⟩ = some ['é'] := by decide

/-- **A stretch of characters has a span that fits.** -/
theorem slice?_spanAt (text : List Char) (index size : Nat) :
    slice? text (spanAt text index size) = some (stretch text index size) := by
  have htext : text = text.take index ++ stretch text index size ++
      (text.drop index).drop size := by
    rw [stretch, List.append_assoc, List.take_append_drop, List.take_append_drop]
  refine slice?_eq_some_iff.2 ⟨_, _, htext, rfl, ?_⟩
  rw [stretch, ← List.take_add]
  rfl

/-- What stands between two characters of a text. -/
theorem slice?_between {cursor index : Nat} (h : cursor ≤ index) (text : List Char) :
    slice? text ⟨byteOffset text cursor, byteOffset text index⟩ =
      some (stretch text cursor (index - cursor)) := by
  rw [← slice?_spanAt, spanAt, Nat.add_sub_cancel' h]

end GasAdvisor.Text
