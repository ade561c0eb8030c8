import Mathlib
import GasAdvisor.Proofs.Contract.Sites

/-!
# The lines of functions

The line of a function is counted on the scanned text, one function after the other. It is the line
in the source less the line feeds before it that scanning hides (`startLine_add_hiddenFeeds`). A text
scanned as it stands hides none (`hiddenFeeds_text`). A masked one hides a line feed only where a
backslash escapes it in a string literal (`Scanning.HidesFeed.escaped`); comments and all other line
feeds of literals keep theirs.
-/

namespace GasAdvisor

open Text

/-! ## Hidden line feeds -/

/-- A line feed that is not written as one. -/
def Glyph.isHiddenFeed (g : Glyph) : Bool :=
  g.char = '\n' && !g.visible

/-- The line feeds of a source are those of its scanned text and the hidden ones. -/
theorem count_feed_flatMap_cells (gs : List Glyph) :
    ((gs.flatMap Glyph.cells).map Cell.char).count '\n' + gs.countP Glyph.isHiddenFeed =
      (gs.map Glyph.char).count '\n' := by
  induction gs with
  | nil => rfl
  | cons g gs ih =>
    have hg : (g.cells.map Cell.char).count '\n' + (if g.isHiddenFeed then 1 else 0) =
        if g.char = '\n' then 1 else 0 := by
      rw [Glyph.count_feed_cells, Glyph.isHiddenFeed]
      by_cases hc : g.char = '\n' <;> cases hv : g.visible <;> simp [hc]
    rw [List.flatMap_cons, List.map_append, List.count_append, List.countP_cons, List.map_cons,
      List.count_cons]
    simp only [beq_iff_eq]
    omega

namespace Scanning

/-- The number of hidden line feeds among the first `size` characters of a source. -/
def hiddenFeeds (scanning : Scanning) (source : List Char) (size : Nat) : Nat :=
  ((scanning.glyphs source).take size).countP Glyph.isHiddenFeed

/-- Whether the character at an index of a source is a line feed that scanning hides. -/
def HidesFeed (scanning : Scanning) (source : List Char) (index : Nat) : Prop :=
  (scanning.glyphs source)[index]? = some ⟨'\n', false⟩

theorem hiddenFeeds_eq_zero_iff {scanning : Scanning} {source : List Char} {size : Nat} :
    scanning.hiddenFeeds source size = 0 ↔
      ∀ index < size, ¬ scanning.HidesFeed source index := by
  rw [hiddenFeeds, List.countP_eq_zero]
  constructor
  · intro h index hi hhide
    have hmem : (⟨'\n', false⟩ : Glyph) ∈ (scanning.glyphs source).take size :=
      List.mem_of_getElem? (by rw [List.getElem?_take_of_lt hi]; exact hhide)
    exact h _ hmem rfl
  · intro h g hg hhidden
    obtain ⟨index, hindex⟩ := List.mem_iff_getElem?.1 hg
    obtain ⟨c, v⟩ := g
    obtain ⟨rfl, rfl⟩ : c = '\n' ∧ v = false := by simpa [Glyph.isHiddenFeed] using hhidden
    have hi : index < size := by
      by_contra hi
      rw [List.getElem?_take, if_neg hi] at hindex
      cases hindex
    rw [List.getElem?_take_of_lt hi] at hindex
    exact h index hi hindex

/-- **A text scanned as it stands hides no line feed.** -/
theorem hiddenFeeds_text (source : List Char) (size : Nat) : hiddenFeeds .text source size = 0 := by
  rw [hiddenFeeds, List.countP_eq_zero]
  intro g hg
  obtain ⟨c, -, rfl⟩ := List.mem_map.1 (List.mem_of_mem_take hg)
  simp [Glyph.isHiddenFeed]

/-- A row of glyphs in which every hidden line feed follows a hidden backslash. -/
def FeedsEscaped (gs : List Glyph) : Prop :=
  ∀ index, gs[index]? = some ⟨'\n', false⟩ → ∃ i, index = i + 1 ∧ gs[i]? = some ⟨'\\', false⟩

theorem feedsEscaped_cons {g : Glyph} {gs : List Glyph} (hg : g.isHiddenFeed = false)
    (h : FeedsEscaped gs) : FeedsEscaped (g :: gs) := by
  intro index hindex
  cases index with
  | zero =>
    obtain rfl : g = ⟨'\n', false⟩ := by simpa using hindex
    cases hg
  | succ index =>
    rw [List.getElem?_cons_succ] at hindex
    obtain ⟨i, rfl, hi⟩ := h index hindex
    exact ⟨i + 1, rfl, hi⟩

/-- **Masking hides a line feed only behind a backslash.** In a comment, and in a literal without a
backslash before it, a line feed stays; so only the step over an escaped character can hide one. -/
theorem feedsEscaped_glyphsIn (region : Region) (source : List Char) :
    FeedsEscaped (glyphsIn region source) := by
  fun_induction glyphsIn region source with
  | case1 => intro index h; simp at h
  | case2 rest ih => exact feedsEscaped_cons rfl (feedsEscaped_cons rfl ih)
  | case3 rest ih => exact feedsEscaped_cons rfl (feedsEscaped_cons rfl ih)
  | case4 c rest _ _ ih => exact feedsEscaped_cons (by simp [Glyph.isHiddenFeed]) ih
  | case5 rest ih => exact feedsEscaped_cons rfl ih
  | case6 c rest hc ih => exact feedsEscaped_cons (by simp [Glyph.isHiddenFeed, hc]) ih
  | case7 rest ih => exact feedsEscaped_cons rfl (feedsEscaped_cons rfl ih)
  | case8 c rest _ ih => exact feedsEscaped_cons (by simp [Glyph.isHiddenFeed]) ih
  | case9 quote c rest ih =>
    intro index h
    obtain _ | _ | index := index
    · exact absurd h (by simp)
    · exact ⟨0, rfl, rfl⟩
    · obtain ⟨i, rfl, hi⟩ := ih index (by simpa using h)
      exact ⟨i + 2, rfl, hi⟩
  | case10 rest c _ ih => exact feedsEscaped_cons (by simp [Glyph.isHiddenFeed]) ih
  | case11 quote c rest _ _ ih => exact feedsEscaped_cons (by simp [Glyph.isHiddenFeed]) ih

/-- A hidden line feed follows a backslash. -/
theorem HidesFeed.escaped {scanning : Scanning} {source : List Char} {index : Nat}
    (h : scanning.HidesFeed source index) :
    ∃ i, index = i + 1 ∧ (scanning.glyphs source)[i]? = some ⟨'\\', false⟩ := by
  cases scanning with
  | masking => exact feedsEscaped_glyphsIn .code source index h
  | text =>
    rw [HidesFeed, glyphs, List.getElem?_map] at h
    obtain ⟨c, -, hc⟩ := Option.map_eq_some_iff.1 h
    cases hc

end Scanning

/-! ## The lines of functions -/

/-- **The line of a function, with the hidden line feeds before it.** The part of the source before
a function has its size in bytes in the scanned text as well. -/
theorem startLine_add_hiddenFeeds {scanning : Scanning} {source : String} {site : Site}
    (h : site.LiesIn (scanning.scan source.toList)) :
    ∃ before after, source.toList = before ++
        Cell.sourceOf (stretch (scanning.cells source.toList) site.start site.size) ++ after ∧
      byteSize before = byteSize ((scanning.scan source.toList).take site.start) ∧
      Header.keyword <+:
        Cell.sourceOf (stretch (scanning.cells source.toList) site.start site.size) ∧
      Site.lineAt (scanning.cells source.toList) site.start +
        scanning.hiddenFeeds source.toList before.length = 1 + before.count '\n' := by
  obtain ⟨gs₁, gs, gs₂, hglyphs, htake, hcells⟩ := h.exists_glyphs
  have hscan : (scanning.scan source.toList).take site.start =
      (gs₁.flatMap Glyph.cells).map Cell.char := by
    rw [Scanning.scan, ← List.map_take, htake]
  refine ⟨gs₁.map Glyph.char, gs₂.map Glyph.char, ?_, ?_, ?_, ?_⟩
  · rw [hcells, sourceOf_flatMap_cells, ← List.map_append, ← List.map_append, ← hglyphs,
      Scanning.map_char_glyphs]
  · rw [hscan, byteSize_flatMap_cells]
  · rw [hcells, sourceOf_flatMap_cells]
    refine prefix_of_prefix_cells (by decide) ?_
    have htext : (gs.flatMap Glyph.cells).map Cell.char = site.text := by
      rw [← hcells]; exact h.scanned_eq
    rw [htext, Site.text]
    exact (site.header.keyword_prefix_front).trans (List.prefix_append _ _)
  · have hfront : (scanning.glyphs source.toList).take (gs₁.map Glyph.char).length = gs₁ := by
      rw [hglyphs, List.length_map, List.append_assoc, List.take_left]
    have hcount := count_feed_flatMap_cells gs₁
    rw [Site.lineAt, ← Scanning.scan, hscan, lineCount, Scanning.hiddenFeeds, hfront]
    omega

/-- **When the line of a function is exact.** Of every extracted function, the line is the one on
which its keyword stands in the source, less the hidden line feeds before it; so it is exact if and
only if no line feed before it is hidden, which is always so when the text is scanned as it
stands. -/
theorem forall₂_startLine_iff (scanning : Scanning) (source : String) :
    List.Forall₂ (fun (site : Site) (f : Function) =>
        ∃ before after, source.toList = before ++ f.sourceCode.toList ++ after ∧
          byteSize before = byteSize ((scanning.scan source.toList).take site.start) ∧
          Header.keyword <+: f.sourceCode.toList ∧
          f.startLine + scanning.hiddenFeeds source.toList before.length = 1 + before.count '\n' ∧
          (f.startLine = 1 + before.count '\n' ↔
            ∀ index < before.length, ¬ scanning.HidesFeed source.toList index) ∧
          (scanning = .text → f.startLine = 1 + before.count '\n'))
      (Contract.sites scanning source) (Contract.read scanning source).functions := by
  rw [Contract.functions_read, List.forall₂_map_right_iff, List.forall₂_same]
  intro site hsite
  obtain ⟨before, after, hs, hbytes, hkey, hline⟩ :=
    startLine_add_hiddenFeeds (Contract.liesIn_of_mem_sites hsite)
  refine ⟨before, after, ?_, hbytes, ?_, hline, ?_, ?_⟩
  · rw [Site.function, String.toList_ofList]
    exact hs
  · rw [Site.function, String.toList_ofList]
    exact hkey
  · rw [← Scanning.hiddenFeeds_eq_zero_iff]
    show Site.lineAt _ _ = _ ↔ _
    omega
  · rintro rfl
    show Site.lineAt _ _ = _
    rw [Scanning.hiddenFeeds_text] at hline
    exact hline

/-- A source with an escaped line feed in a literal before a function. -/
def escapedFeedSource : String :=
  "contract C \x7b\n string s = \"a\\\nb\";\n function f() public \x7b\x7d\n\x7d"

/-- **An escaped line feed shifts the lines after it** when comments and literals are masked: the
function stands on line four, and is taken to stand on line three. -/
theorem escaped_feed_shifts_line :
    ∃ f ∈ (Contract.read .masking escapedFeedSource).functions, ∃ before after,
      escapedFeedSource.toList = before ++ f.sourceCode.toList ++ after ∧
      f.startLine = 3 ∧ 1 + before.count '\n' = 4 := by
  have key : (Contract.read .masking escapedFeedSource).functions.map
      (fun f => (f.sourceCode.toList, f.startLine)) =
        [("function f() public \x7b\x7d".toList, 3)] := by
    decide +kernel
  obtain ⟨f, hf, hpair⟩ : ∃ f ∈ (Contract.read .masking escapedFeedSource).functions,
      (f.sourceCode.toList, f.startLine) = ("function f() public \x7b\x7d".toList, 3) := by
    rw [← List.mem_map, key]
    exact List.mem_singleton_self _
  obtain ⟨hcode, hline⟩ := Prod.mk.inj hpair
  refine ⟨f, hf, "contract C \x7b\n string s = \"a\\\nb\";\n ".toList, "\n\x7d".toList, ?_, hline,
    by decide⟩
  rw [hcode]
  decide

end GasAdvisor
