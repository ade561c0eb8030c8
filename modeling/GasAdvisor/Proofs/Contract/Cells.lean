import GasAdvisor.Contract.Reading
import GasAdvisor.Proofs.Text.Utf8

/-!
# Cells and glyphs

Both ways of scanning see a source text as a row of glyphs (`Scanning.glyphs`), the plain one with
all of them visible, and lay it out in cells (`Scanning.cells_eq_flatMap`).

* Nothing of the source is lost: the cells stand for the source (`Scanning.sourceOf_cells`), and the
  scanned text has its size in bytes (`Scanning.byteSize_scan`).
* A visible character of the scanned text is a glyph of its own, so the cells before it are those of
  the glyphs before it (`exists_glyph_of_cell`).
-/

namespace GasAdvisor

open Text

/-! ## Masking -/

theorem map_char_glyphsIn (region : Region) (source : List Char) :
    (glyphsIn region source).map Glyph.char = source := by
  fun_induction glyphsIn region source <;> simp_all

/-! ## Cells -/

namespace Cell

@[simp] theorem sourceOf_append (a b : List Cell) : sourceOf (a ++ b) = sourceOf a ++ sourceOf b :=
  List.flatMap_append

/-- A text that is not masked stands for itself, stretch by stretch. -/
@[simp] theorem sourceOf_ofText (source : List Char) : sourceOf (ofText source) = source := by
  induction source with
  | nil => rfl
  | cons c source ih => exact congrArg (c :: ·) ih

@[simp] theorem map_char_ofText (source : List Char) : (ofText source).map Cell.char = source := by
  rw [ofText, List.map_map]
  exact List.map_id source

theorem stretch_ofText (source : List Char) (start size : Nat) :
    stretch (ofText source) start size = ofText (stretch source start size) := by
  simp [stretch, ofText, List.map_take, List.map_drop]

end Cell

namespace Glyph

theorem sourceOf_cells (g : Glyph) : Cell.sourceOf g.cells = [g.char] := by
  have hnone (n : Nat) : Cell.sourceOf (List.replicate n ⟨' ', []⟩) = [] := by
    induction n with
    | zero => rfl
    | succ n ih => simp [List.replicate_succ, Cell.sourceOf]
  unfold cells
  split
  · rfl
  · exact congrArg (g.char :: ·) (hnone _)

/-- A hidden character is written as spaces, a visible one as itself. -/
theorem map_char_cells (g : Glyph) :
    g.cells.map Cell.char =
      if g.visible then [g.char] else List.replicate (width g.char) ' ' := by
  unfold cells
  split
  · rfl
  · have hw : width g.char = (width g.char - 1) + 1 := by
      have := width_pos g.char
      omega
    rw [hw, List.replicate_succ]
    simp

/-- A glyph keeps its size in bytes. -/
theorem byteSize_cells (g : Glyph) : byteSize (g.cells.map Cell.char) = width g.char := by
  rw [map_char_cells]
  split
  · rfl
  · have hspace : width ' ' = 1 := by decide
    rw [byteSize_replicate, hspace, Nat.mul_one]

theorem count_feed_cells (g : Glyph) :
    (g.cells.map Cell.char).count '\n' = if g.char = '\n' ∧ g.visible = true then 1 else 0 := by
  rw [map_char_cells]
  cases g.visible <;> simp [List.count_replicate, List.count_singleton]

end Glyph

/-- The source of the cells of glyphs. -/
theorem sourceOf_flatMap_cells (gs : List Glyph) :
    Cell.sourceOf (gs.flatMap Glyph.cells) = gs.map Glyph.char := by
  induction gs with
  | nil => rfl
  | cons g gs ih =>
    rw [List.flatMap_cons, Cell.sourceOf_append, Glyph.sourceOf_cells, ih]
    rfl

/-- The size in bytes of the characters of cells. -/
theorem byteSize_flatMap_cells (gs : List Glyph) :
    byteSize ((gs.flatMap Glyph.cells).map Cell.char) = byteSize (gs.map Glyph.char) := by
  induction gs with
  | nil => rfl
  | cons g gs ih =>
    rw [List.flatMap_cons, List.map_append, byteSize_append, Glyph.byteSize_cells, ih]
    rfl

/-- **A visible character is a glyph of its own**: what stands before its cell are the cells of the
glyphs before it. -/
theorem exists_glyph_of_cell {gs : List Glyph} {before after : List Cell} {cell : Cell}
    (h : gs.flatMap Glyph.cells = before ++ cell :: after) (hc : cell.char ≠ ' ') :
    ∃ gs₁ g gs₂, gs = gs₁ ++ g :: gs₂ ∧ g.cells = [cell] ∧ g.visible = true ∧
      before = gs₁.flatMap Glyph.cells ∧ after = gs₂.flatMap Glyph.cells := by
  induction gs generalizing before with
  | nil => simp at h
  | cons g gs ih =>
    rw [List.flatMap_cons] at h
    -- the cell lies behind those of the first glyph
    have behind {rest : List Cell} (hb : before = g.cells ++ rest)
        (hr : gs.flatMap Glyph.cells = rest ++ cell :: after) :
        ∃ gs₁ g' gs₂, g :: gs = gs₁ ++ g' :: gs₂ ∧ g'.cells = [cell] ∧ g'.visible = true ∧
          before = gs₁.flatMap Glyph.cells ∧ after = gs₂.flatMap Glyph.cells := by
      obtain ⟨gs₁, g', gs₂, rfl, hg, hv, rfl, ha⟩ := ih hr
      exact ⟨g :: gs₁, g', gs₂, rfl, hg, hv, hb, ha⟩
    rcases List.append_eq_append_iff.1 h with ⟨rest, hb, hr⟩ | ⟨rest, hg, hr⟩
    · exact behind hb hr
    · cases rest with
      | nil =>
        rw [List.append_nil] at hg
        exact @behind [] (by rw [hg, List.append_nil]) hr.symm
      | cons d rest =>
        obtain ⟨rfl, ha⟩ : cell = d ∧ after = rest ++ gs.flatMap Glyph.cells := by simpa using hr
        by_cases hv : g.visible = true
        · have hone : g.cells = [⟨g.char, [g.char]⟩] := by rw [Glyph.cells, if_pos hv]
          obtain ⟨rfl, rfl⟩ : before = [] ∧ rest = [] := by
            have hlen := congrArg List.length (hone.symm.trans hg)
            simp only [List.length_append, List.length_cons, List.length_nil] at hlen
            exact ⟨List.eq_nil_of_length_eq_zero (by omega),
              List.eq_nil_of_length_eq_zero (by omega)⟩
          exact ⟨[], g, gs, rfl, hg, hv, rfl, ha⟩
        · -- all cells of a hidden glyph are spaces
          refine absurd ?_ hc
          have hmem : cell.char ∈ g.cells.map Cell.char := by rw [hg]; simp
          rw [Glyph.map_char_cells, if_neg hv] at hmem
          exact List.eq_of_mem_replicate hmem

/-- A scanned text without spaces at the front stands there in the source as well. -/
theorem prefix_of_prefix_cells {gs : List Glyph} {w : List Char} (hw : ' ' ∉ w)
    (h : w <+: (gs.flatMap Glyph.cells).map Cell.char) : w <+: gs.map Glyph.char := by
  induction w generalizing gs with
  | nil => exact List.nil_prefix
  | cons c w ih =>
    obtain ⟨hc, hrest⟩ : ¬ ' ' = c ∧ ' ' ∉ w := by simpa using hw
    cases gs with
    | nil => simp at h
    | cons g gs =>
      rw [List.flatMap_cons, List.map_append, Glyph.map_char_cells] at h
      split at h
      · obtain ⟨rfl, htail⟩ := List.cons_prefix_cons.1 h
        exact List.cons_prefix_cons.2 ⟨rfl, ih hrest htail⟩
      · -- a hidden character is written as spaces
        obtain ⟨n, hn⟩ := Nat.exists_eq_add_of_lt (width_pos g.char)
        rw [hn, Nat.zero_add, List.replicate_succ] at h
        exact absurd (List.cons_prefix_cons.1 h).1.symm hc

/-! ## Scanning -/

namespace Scanning

/-- The glyphs that a way of scanning sees. -/
def glyphs : Scanning → List Char → List Glyph
  | .text, source => source.map fun c => ⟨c, true⟩
  | .masking, source => GasAdvisor.glyphs source

/-- The scanned text. -/
def scan (scanning : Scanning) (source : List Char) : List Char :=
  (scanning.cells source).map Cell.char

theorem scan_text (source : List Char) : scan .text source = source :=
  Cell.map_char_ofText source

theorem cells_eq_flatMap (scanning : Scanning) (source : List Char) :
    scanning.cells source = (scanning.glyphs source).flatMap Glyph.cells := by
  cases scanning with
  | masking => rfl
  | text =>
    show Cell.ofText source = (source.map _).flatMap Glyph.cells
    induction source with
    | nil => rfl
    | cons c source ih => exact congrArg (_ :: ·) ih

theorem map_char_glyphs (scanning : Scanning) (source : List Char) :
    (scanning.glyphs source).map Glyph.char = source := by
  cases scanning with
  | text =>
    rw [glyphs, List.map_map]
    exact List.map_id source
  | masking => exact map_char_glyphsIn .code source

/-- **Scanning loses nothing of the source.** -/
theorem sourceOf_cells (scanning : Scanning) (source : List Char) :
    Cell.sourceOf (scanning.cells source) = source := by
  rw [cells_eq_flatMap, sourceOf_flatMap_cells, map_char_glyphs]

/-- **The scanned text is as long as the source in bytes.** -/
theorem byteSize_scan (scanning : Scanning) (source : List Char) :
    byteSize (scanning.scan source) = byteSize source := by
  rw [scan, cells_eq_flatMap, byteSize_flatMap_cells, map_char_glyphs]

end Scanning

end GasAdvisor
