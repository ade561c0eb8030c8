import GasAdvisor.Proofs.Contract.Masked
import GasAdvisor.Proofs.Text.Slices

/-!
# Where scanned text and source are cut alike

A hidden character of several bytes becomes several spaces, so not every place between two characters
of the scanned text is one in the source. It is at a seam, where what stands before it is the text of
whole glyphs (`Scanning.IsSeam`). Both sides of every character but a space are seams
(`Scanning.isSeam_of_char`), and a stretch between two seams is the same span of bytes in the source:
slicing the source there gives what the stretch stands for (`Scanning.slice?_of_isSeam`).

What stands between parentheses lies between seams (`Scanning.slice?_parenthesised`), and a text that
starts with no white space starts at one (`Scanning.isSeam_of_stops`).
-/

namespace GasAdvisor

open Text

/-- Blanked glyphs are a character or more each. -/
theorem length_le_blanked (gs : List Glyph) : gs.length ≤ (blanked gs).length := by
  induction gs with
  | nil => exact Nat.le_refl 0
  | cons g gs ih =>
    have hg : 0 < g.cells.length := by
      unfold Glyph.cells
      split <;> exact Nat.succ_pos _
    rw [blanked, List.length_map] at ih ⊢
    rw [List.length_cons, List.flatMap_cons, List.length_append]
    omega

/-- Blanked glyphs have the bytes of the source. -/
theorem byteSize_blanked (gs : List Glyph) : byteSize (blanked gs) = byteSize (gs.map Glyph.char) :=
  byteSize_flatMap_cells gs

namespace Scanning

variable {scanning : Scanning} {source u v : List Char} {index size : Nat}

theorem scan_eq_blanked (scanning : Scanning) (source : List Char) :
    scanning.scan source = blanked (scanning.glyphs source) := by
  rw [scan, cells_eq_flatMap]
  rfl

/-- An index of the scanned text before which whole glyphs stand. -/
def IsSeam (scanning : Scanning) (source : List Char) (index : Nat) : Prop :=
  ∃ before after, scanning.glyphs source = before ++ after ∧ (blanked before).length = index

/-- **A character that is no space is visible**: it stands between seams, and at the same offset in
the source. -/
theorem isSeam_of_char {u v : List Char} {c : Char} (h : scanning.scan source = u ++ c :: v)
    (hc : c ≠ ' ') : scanning.IsSeam source u.length ∧ scanning.IsSeam source (u.length + 1) := by
  rw [scan_eq_blanked] at h
  obtain ⟨before, after, hglyphs, rfl, -⟩ := exists_glyph_of_char h hc
  refine ⟨⟨before, ⟨c, true⟩ :: after, hglyphs, rfl⟩, before ++ [⟨c, true⟩], after, ?_, ?_⟩
  · rw [hglyphs, List.append_assoc]
    rfl
  · rw [blanked_append, List.length_append]
    rfl

/-- A text that starts with no white space starts at a seam. -/
theorem isSeam_of_stops (h : scanning.scan source = u ++ v) (hv : v ≠ []) (hstop : Stops isBlank v) :
    scanning.IsSeam source u.length := by
  obtain ⟨c, v, rfl⟩ := List.exists_cons_of_ne_nil hv
  have hc : c ≠ ' ' := by
    rintro rfl
    exact absurd (stops_cons.1 hstop) (by decide)
  exact (isSeam_of_char h hc).1

/-- The glyphs between two seams. -/
theorem IsSeam.exists_glyphs (hstart : scanning.IsSeam source index)
    (hstop : scanning.IsSeam source (index + size)) :
    ∃ before gs after, scanning.glyphs source = before ++ (gs ++ after) ∧
      (blanked before).length = index ∧ (blanked gs).length = size := by
  obtain ⟨before, rest, hglyphs, hbefore⟩ := hstart
  obtain ⟨front, after, hglyphs', hfront⟩ := hstop
  rcases List.append_eq_append_iff.1 (hglyphs.symm.trans hglyphs') with
    ⟨gs, rfl, rfl⟩ | ⟨gs, rfl, rfl⟩
  · rw [blanked_append, List.length_append, hbefore] at hfront
    exact ⟨before, gs, after, hglyphs, hbefore, by omega⟩
  · -- the second seam is not before the first one, so no glyph stands between them
    have hgs := length_le_blanked gs
    rw [blanked_append, List.length_append, hfront] at hbefore
    obtain rfl : gs = [] := List.eq_nil_of_length_eq_zero (by omega)
    refine ⟨front, [], rest, hglyphs', ?_, ?_⟩
    · rw [hfront]
      omega
    · simp only [blanked_nil, List.length_nil]
      omega

/-- **Between seams, the source is sliced at the offsets of the scanned text.** -/
theorem slice?_of_isSeam (hstart : scanning.IsSeam source index)
    (hstop : scanning.IsSeam source (index + size)) :
    slice? source (spanAt (scanning.scan source) index size) =
      some (Cell.sourceOf (stretch (scanning.cells source) index size)) := by
  obtain ⟨before, gs, after, hglyphs, rfl, rfl⟩ := hstart.exists_glyphs hstop
  have hscan : scanning.scan source = blanked before ++ (blanked gs ++ blanked after) := by
    rw [scan_eq_blanked, hglyphs, blanked_append, blanked_append]
  have hsource : source =
      before.map Glyph.char ++ gs.map Glyph.char ++ after.map Glyph.char := by
    conv_lhs => rw [← map_char_glyphs scanning source, hglyphs]
    rw [List.map_append, List.map_append, List.append_assoc]
  have hstop : byteOffset (scanning.scan source) ((blanked before).length + (blanked gs).length) =
      byteSize (blanked before ++ blanked gs) := by
    rw [hscan, ← List.append_assoc, ← List.length_append, byteOffset_append]
  rw [Site.sourceOf_stretch_cells hglyphs rfl rfl, spanAt, hstop, ← blanked_append,
    byteSize_blanked, List.map_append, hscan, byteOffset_append, byteSize_blanked]
  exact slice?_eq_some_iff.2 ⟨_, _, hsource, rfl, rfl⟩

/-- A character that is no space stands in the source as well. -/
theorem slice?_of_char {u v : List Char} {c : Char} (h : scanning.scan source = u ++ c :: v)
    (hc : c ≠ ' ') : slice? source (spanAt (scanning.scan source) u.length 1) = some [c] := by
  obtain ⟨hstart, hstop⟩ := isSeam_of_char h hc
  rw [scan_eq_blanked] at h
  obtain ⟨before, after, hglyphs, hbefore, -⟩ := exists_glyph_of_char h hc
  have hsplit : scanning.glyphs source = before ++ ([⟨c, true⟩] ++ after) := hglyphs
  have hone : Cell.sourceOf (stretch (scanning.cells source) u.length 1) = [c] :=
    Site.sourceOf_stretch_cells hsplit (by rw [hbefore]) rfl
  rw [slice?_of_isSeam hstart hstop, hone]

/-- **What stands between parentheses is sliced out of the source.** -/
theorem slice?_parenthesised {list : List Char}
    (h : scanning.scan source = u ++ '(' :: (list ++ ')' :: v)) :
    slice? source (spanAt (scanning.scan source) (u.length + 1) list.length) =
      some (Cell.sourceOf (stretch (scanning.cells source) (u.length + 1) list.length)) := by
  refine slice?_of_isSeam (isSeam_of_char h (by decide)).2 ?_
  have hclosing : scanning.scan source = (u ++ '(' :: list) ++ ')' :: v := by
    rw [h, List.append_assoc]
    rfl
  have hseam := (isSeam_of_char hclosing (by decide)).1
  rw [List.length_append, List.length_cons] at hseam
  rwa [Nat.add_assoc, Nat.add_comm 1]

end Scanning

end GasAdvisor
