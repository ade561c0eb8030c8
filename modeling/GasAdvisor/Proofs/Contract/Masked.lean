import Mathlib
import GasAdvisor.Proofs.Contract.Extraction
import GasAdvisor.Proofs.Contract.Lines

/-!
# Reading a masked text

Masking a text twice is masking it once (`mask_mask`): comments have become white space, and of what
stands between quotes only spaces are left to hide (`hidesSpaces_glyphs_mask`). So a masked text reads
as the text itself does wherever only scanned characters count, and comments play no part there.

The parameters of a function are the exception. They are read off the source, comments included, so a
comment in a parameter list may take parameters away or add some. `Contract.forall₂_read_mask` says what
a text and its masked form have in common and which two texts their parameters are read off.
-/

namespace GasAdvisor

open Text

/-! ## Blanked glyphs -/

/-- The text of glyphs with the hidden ones blanked. -/
def blanked (gs : List Glyph) : List Char :=
  (gs.flatMap Glyph.cells).map Cell.char

@[simp] theorem blanked_nil : blanked [] = [] := rfl

@[simp] theorem blanked_cons_visible (c : Char) (gs : List Glyph) :
    blanked (⟨c, true⟩ :: gs) = c :: blanked gs := rfl

theorem blanked_append (gs hs : List Glyph) : blanked (gs ++ hs) = blanked gs ++ blanked hs := by
  rw [blanked, List.flatMap_append, List.map_append]
  rfl

theorem blanked_cons_hidden (c : Char) (gs : List Glyph) :
    blanked (⟨c, false⟩ :: gs) = List.replicate (width c) ' ' ++ blanked gs := by
  rw [blanked, List.flatMap_cons, List.map_append, Glyph.map_char_cells]
  rfl

theorem mask_eq_blanked (source : List Char) : mask source = blanked (glyphs source) := rfl

theorem blanked_of_visible {gs : List Glyph} (h : ∀ g ∈ gs, g.visible = true) :
    blanked gs = gs.map Glyph.char := by
  induction gs with
  | nil => rfl
  | cons g gs ih =>
    obtain ⟨c, visible⟩ := g
    obtain rfl : visible = true := h _ List.mem_cons_self
    rw [blanked_cons_visible, ih fun g hg => h g (List.mem_cons_of_mem _ hg)]
    rfl

/-- **A visible character is a glyph of its own**: what stands before and after it are the glyphs
before and after. -/
theorem exists_glyph_of_char {gs : List Glyph} {u v : List Char} {c : Char}
    (h : blanked gs = u ++ c :: v) (hc : c ≠ ' ') :
    ∃ before after, gs = before ++ ⟨c, true⟩ :: after ∧ blanked before = u ∧ blanked after = v := by
  obtain ⟨before, cell, after, hcells, hlen, rfl⟩ := Site.exists_cell_of_char h
  obtain ⟨gs₁, ⟨d, visible⟩, gs₂, rfl, hg, rfl, rfl, rfl⟩ := exists_glyph_of_cell hcells hc
  obtain rfl : (⟨d, [d]⟩ : Cell) = cell := (List.cons.inj hg).1
  rw [blanked_append, blanked_cons_visible] at h
  obtain ⟨hu, hv⟩ := List.append_inj h (by rw [blanked, List.length_map, hlen])
  exact ⟨gs₁, gs₂, rfl, hu, (List.cons.inj hv).2⟩

/-! ## Masking twice -/

/-- Glyphs of which only spaces are hidden. -/
def HidesSpaces (gs : List Glyph) : Prop :=
  ∀ g ∈ gs, g.visible = false → g.char = ' '

theorem hidesSpaces_cons {g : Glyph} {gs : List Glyph} (hg : g.visible = false → g.char = ' ')
    (h : HidesSpaces gs) : HidesSpaces (g :: gs) := by
  intro g' hg' hhidden
  rcases List.mem_cons.1 hg' with rfl | hmem
  · exact hg hhidden
  · exact h g' hmem hhidden

/-- A hidden space is laid out as a visible one. -/
theorem HidesSpaces.flatMap_cells {gs : List Glyph} (h : HidesSpaces gs) :
    gs.flatMap Glyph.cells = Cell.ofText (gs.map Glyph.char) := by
  induction gs with
  | nil => rfl
  | cons g gs ih =>
    have hg : g.cells = [⟨g.char, [g.char]⟩] := by
      obtain ⟨c, visible⟩ := g
      cases visible with
      | true => rfl
      | false =>
        obtain rfl : c = ' ' := h _ List.mem_cons_self rfl
        rfl
    rw [List.flatMap_cons, hg, ih fun g' hg' => h g' (List.mem_cons_of_mem g hg')]
    rfl

/-- Hidden spaces are spaces in code as well. -/
theorem HidesSpaces.map_code {gs : List Glyph} (h : HidesSpaces gs) :
    gs.map Glyph.code = gs.map Glyph.char := by
  refine List.map_congr_left fun g hg => ?_
  rw [Glyph.code]
  split
  · rfl
  · next hhidden => exact (h g hg (Bool.eq_false_iff.2 hhidden)).symm

namespace Region

/-- The region that the masked text of a region stands in: comments have become white space. -/
def masked : Region → Region
  | .code => .code
  | .lineComment => .code
  | .blockComment => .code
  | .literal quote => .literal quote

/-- A region whose literal, if it is one, stands between quotes. -/
def Quoted : Region → Prop
  | .literal quote => quote = '"' ∨ quote = '\''
  | _ => True

end Region

/-- A space or a line feed in masked text opens and closes nothing. -/
theorem hidesSpaces_white (region : Region) (hq : region.Quoted) {c : Char}
    (hc : c = ' ' ∨ c = '\n') {t : List Char} (h : HidesSpaces (glyphsIn region.masked t)) :
    HidesSpaces (glyphsIn region.masked (c :: t)) := by
  have hslash : c ≠ '/' := by rcases hc with rfl | rfl <;> decide
  have hquote : ¬ (c = '"' ∨ c = '\'') := by rcases hc with rfl | rfl <;> decide
  have code (h : HidesSpaces (glyphsIn .code t)) : HidesSpaces (glyphsIn .code (c :: t)) := by
    rw [glyphsIn, if_neg hquote]
    · exact hidesSpaces_cons nofun h
    · exact fun _ he => absurd he hslash
    · exact fun _ he => absurd he hslash
  cases region with
  | code => exact code h
  | lineComment => exact code h
  | blockComment => exact code h
  | literal quote =>
    have hne : c ≠ quote := fun he => hquote (he ▸ hq)
    have hescape : c ≠ '\\' := by rcases hc with rfl | rfl <;> decide
    have hspace : decide (c = '\n') = false → c = ' ' := fun hfeed =>
      hc.resolve_right (of_decide_eq_false hfeed)
    show HidesSpaces (glyphsIn (.literal quote) (c :: t))
    rw [glyphsIn, if_neg hne]
    · exact hidesSpaces_cons hspace h
    · exact fun _ _ he => absurd he hescape

theorem hidesSpaces_hidden (region : Region) (hq : region.Quoted) (c : Char) {gs : List Glyph}
    (h : HidesSpaces (glyphsIn region.masked (blanked gs))) :
    HidesSpaces (glyphsIn region.masked (blanked (⟨c, false⟩ :: gs))) := by
  rw [blanked_cons_hidden]
  induction width c with
  | zero => exact h
  | succ n ih => exact hidesSpaces_white region hq (.inl rfl) ih

/-- What is hidden unless it is a line feed. -/
theorem hidesSpaces_unless_feed (region : Region) (hq : region.Quoted) (c : Char)
    {gs : List Glyph} (h : HidesSpaces (glyphsIn region.masked (blanked gs))) :
    HidesSpaces (glyphsIn region.masked (blanked (⟨c, c = '\n'⟩ :: gs))) := by
  by_cases hc : c = '\n'
  · rw [decide_eq_true hc]
    exact hidesSpaces_white region hq (.inr hc) h
  · rw [decide_eq_false hc]
    exact hidesSpaces_hidden region hq c h

/-- A slash or a star at the front of masked code stands there in the source. -/
theorem exists_eq_cons_of_blanked {c : Char} {rest t : List Char} (hc : c ≠ ' ')
    (h : blanked (glyphsIn .code rest) = c :: t) : ∃ rest', rest = c :: rest' := by
  have hfront : [c] <+: blanked (glyphsIn .code rest) := ⟨t, h.symm⟩
  have hsource := prefix_of_prefix_cells (by simpa using hc.symm) hfront
  rw [map_char_glyphsIn] at hsource
  obtain ⟨rest', hrest⟩ := hsource
  exact ⟨rest', hrest.symm⟩

/-- **Of a masked text only spaces are left to hide**, whatever the region it starts in. What opens no
comment in the source opens none in the masked text, since a slash or a star after a slash would have
to stand there in the source. -/
theorem hidesSpaces_glyphsIn_blanked (region : Region) (source : List Char) (hq : region.Quoted) :
    HidesSpaces (glyphsIn region.masked (blanked (glyphsIn region source))) := by
  fun_induction glyphsIn region source with
  | case1 => intro g hg; simp [glyphsIn] at hg
  | case2 rest ih | case3 rest ih | case7 rest ih =>
    exact hidesSpaces_hidden .code hq _ (hidesSpaces_hidden .code hq _ (ih hq))
  | case4 c rest hline hblock ih =>
    show HidesSpaces (glyphsIn .code (c :: blanked _))
    rw [glyphsIn]
    · refine hidesSpaces_cons nofun ?_
      by_cases hquote : c = '"' ∨ c = '\''
      · rw [if_pos hquote] at ih ⊢
        exact ih hquote
      · rw [if_neg hquote] at ih ⊢
        exact ih trivial
    · rintro t rfl ht
      rw [if_neg (by decide)] at ht
      obtain ⟨rest', hrest⟩ := exists_eq_cons_of_blanked (by decide) ht
      exact hline rest' rfl hrest
    · rintro t rfl ht
      rw [if_neg (by decide)] at ht
      obtain ⟨rest', hrest⟩ := exists_eq_cons_of_blanked (by decide) ht
      exact hblock rest' rfl hrest
  | case5 rest ih => exact hidesSpaces_white .code hq (.inr rfl) (ih hq)
  | case6 c rest hc ih => exact hidesSpaces_hidden .code hq c (ih hq)
  | case8 c rest _ ih => exact hidesSpaces_unless_feed .blockComment hq c (ih hq)
  | case9 quote c rest ih =>
    exact hidesSpaces_hidden (.literal quote) hq _ (hidesSpaces_hidden (.literal quote) hq c (ih hq))
  | case10 quote rest _ ih =>
    have hescape : quote ≠ '\\' := by
      rcases hq with rfl | rfl <;> decide
    show HidesSpaces (glyphsIn (.literal quote) (quote :: blanked _))
    rw [glyphsIn, if_pos rfl]
    · exact hidesSpaces_cons nofun (ih trivial)
    · exact fun _ _ he => absurd he hescape
  | case11 quote c rest _ _ ih => exact hidesSpaces_unless_feed (.literal quote) hq c (ih hq)

theorem hidesSpaces_glyphs_mask (source : List Char) : HidesSpaces (glyphs (mask source)) :=
  hidesSpaces_glyphsIn_blanked .code source trivial

/-- **A masked text is scanned as it stands.** -/
theorem Cell.ofMasked_mask (source : List Char) :
    Cell.ofMasked (mask source) = Cell.ofText (mask source) := by
  rw [ofMasked, (hidesSpaces_glyphs_mask source).flatMap_cells, glyphs, map_char_glyphsIn]

/-- **Masking twice is masking once.** -/
theorem mask_mask (source : List Char) : mask (mask source) = mask source := by
  rw [mask, Cell.ofMasked_mask, Cell.map_char_ofText]

/-- A masked text is code as it stands. -/
theorem codeChars_mask (source : List Char) : codeChars (mask source) = mask source := by
  rw [codeChars, (hidesSpaces_glyphs_mask source).map_code, glyphs, map_char_glyphsIn]

/-! ## What only scanned characters decide -/

/-- Two functions that agree in all but their texts and their parameters. -/
structure Function.SameStructure (f g : Function) : Prop where
  name : f.name = g.name
  visibility : f.visibility = g.visibility
  mutability : f.mutability = g.mutability
  patterns : f.patterns = g.patterns
  complexity : f.complexity = g.complexity
  startLine : f.startLine = g.startLine

/-- A stretch of glyphs in which a list between parentheses is set apart. -/
structure Bracketed where
  front : List Glyph
  list : List Glyph
  back : List Glyph

/-- All glyphs of a stretch. -/
def Bracketed.whole (b : Bracketed) : List Glyph :=
  b.front ++ ⟨'(', true⟩ :: (b.list ++ ⟨')', true⟩ :: b.back)

namespace Site

variable {site : Site}

/-- Functions at one site that are scanned alike have the same structure. -/
theorem sameStructure_function {cells cells' : List Cell}
    (h : cells.map Cell.char = cells'.map Cell.char) (site : Site) :
    (site.function cells (lineAt cells site.start)).SameStructure
      (site.function cells' (lineAt cells' site.start)) := by
  have hscanned : site.scanned cells = site.scanned cells' := by
    simp only [scanned, stretch, List.map_take, List.map_drop, h]
  have hpatterns : (site.function cells (lineAt cells site.start)).patterns =
      (site.function cells' (lineAt cells' site.start)).patterns :=
    congrArg Pattern.detect hscanned
  have hline : lineAt cells site.start = lineAt cells' site.start := by
    rw [lineAt, lineAt, h]
  exact ⟨rfl, rfl, rfl, hpatterns, congrArg Function.complexityOf hpatterns, hline⟩

/-- A stretch of glyphs is found by the lengths of its blanked text and of that before it. -/
theorem sourceOf_stretch_cells {scanning : Scanning} {source : List Char} {before gs after : List Glyph}
    {start size : Nat} (hglyphs : scanning.glyphs source = before ++ (gs ++ after))
    (hstart : start = (blanked before).length) (hsize : size = (blanked gs).length) :
    Cell.sourceOf (stretch (scanning.cells source) start size) = gs.map Glyph.char := by
  rw [blanked, List.length_map] at hstart hsize
  have hcells : scanning.cells source = before.flatMap Glyph.cells ++
      (gs.flatMap Glyph.cells ++ after.flatMap Glyph.cells) := by
    rw [Scanning.cells_eq_flatMap, hglyphs, List.flatMap_append, List.flatMap_append]
  rw [hsize, stretch_middle hcells hstart, sourceOf_flatMap_cells]

/-- As many characters stand before a function as it starts at. -/
theorem LiesIn.length_take_start {s : List Char} (h : site.LiesIn s) :
    (s.take site.start).length = site.start := by
  obtain ⟨before, after, rfl, hstart⟩ := h.stands
  rw [← hstart, List.append_assoc, List.take_left]

/-- A function of a text that is scanned as it stands has the text and the parameters that are found. -/
theorem LiesIn.function_ofText_line {s : List Char} (h : site.LiesIn s) (line : Nat) :
    (site.function (Cell.ofText s) line).sourceCode.toList = site.text ∧
      (site.function (Cell.ofText s) line).parameters =
        Parameter.ofList site.header.parameters := by
  obtain ⟨before, after, hs, hstart⟩ := h.stands
  rw [List.append_assoc] at hs
  rw [function_ofText hs hstart.symm line]
  exact ⟨String.toList_ofList, rfl⟩

/-- What stands before the first parenthesis of a function has none. -/
theorem LiesIn.not_mem_beforeParameters {s : List Char} (h : site.LiesIn s) :
    '(' ∉ Header.keyword ++ site.header.gap ++ site.header.name ++ site.header.nameGap := by
  simp only [List.mem_append, not_or]
  refine ⟨⟨⟨by decide, fun hmem => ?_⟩, fun hmem => ?_⟩, fun hmem => ?_⟩
  · exact absurd (h.header.gap _ hmem) (by decide)
  · exact absurd (h.header.name _ hmem) (by decide)
  · exact absurd (h.header.nameGap _ hmem) (by decide)

/-- **The parameters of a function stand between its first parenthesis and the one that closes it**,
in the source as in the scanned text. -/
theorem LiesIn.exists_parameter_glyphs {scanning : Scanning} {source : List Char}
    (h : site.LiesIn (scanning.scan source)) :
    ∃ b : Bracketed, b.whole <:+: scanning.glyphs source ∧
      Cell.sourceOf (stretch (scanning.cells source) site.start site.size) =
        b.whole.map Glyph.char ∧
      site.text = blanked b.whole ∧ '(' ∉ blanked b.front ∧
      blanked b.list = site.header.parameters ∧
      Cell.sourceOf (stretch (scanning.cells source) site.parametersStart
        site.header.parameters.length) = b.list.map Glyph.char := by
  obtain ⟨gs₁, gs, gs₂, hglyphs, htake, hcells⟩ := h.exists_glyphs
  have htext : blanked gs = site.text := by
    rw [blanked, ← hcells]
    exact h.scanned_eq
  have hsplit : site.text =
      (Header.keyword ++ site.header.gap ++ site.header.name ++ site.header.nameGap) ++
        '(' :: (site.header.parameters ++ ')' ::
          (site.header.qualifiersText ++ site.header.bodyGap ++ site.body)) := by
    simp only [text, Header.front, Header.nameText, List.append_assoc, List.cons_append,
      List.nil_append]
  obtain ⟨front, after, rfl, hfront, hafter⟩ := exists_glyph_of_char (htext.trans hsplit) (by decide)
  obtain ⟨list, back, rfl, hlist, -⟩ := exists_glyph_of_char hafter (by decide)
  have hbefore : (blanked gs₁).length = site.start := by
    rw [blanked, ← htake, List.map_take]
    exact h.length_take_start
  have hstart : site.parametersStart =
      (blanked (gs₁ ++ (front ++ [(⟨'(', true⟩ : Glyph)]))).length := by
    rw [blanked_append, blanked_append, hfront, List.length_append, hbefore]
    rfl
  have hinner : scanning.glyphs source =
      (gs₁ ++ (front ++ [(⟨'(', true⟩ : Glyph)])) ++ (list ++ (⟨')', true⟩ :: back ++ gs₂)) := by
    rw [hglyphs]
    simp only [List.append_assoc, List.cons_append, List.nil_append]
  refine ⟨⟨front, list, back⟩, ⟨gs₁, gs₂, hglyphs.symm⟩, ?_, htext.symm, ?_, hlist, ?_⟩
  · rw [hcells, sourceOf_flatMap_cells]
    rfl
  · rw [hfront]
    exact h.not_mem_beforeParameters
  · exact sourceOf_stretch_cells hinner hstart (by rw [hlist])

end Site

/-! ## A text and its masked form -/

/-- A masked text has the line feeds of the source that are not hidden. -/
theorem lineCount_eq_mask (source : List Char) :
    lineCount source =
      lineCount (mask source) + Scanning.hiddenFeeds .masking source source.length := by
  have hchars : (glyphs source).map Glyph.char = source := map_char_glyphsIn .code source
  have hlength : (glyphs source).length = source.length := by
    rw [← List.length_map, hchars]
  have hcount := count_feed_flatMap_cells (glyphs source)
  rw [hchars, ← blanked, ← mask_eq_blanked] at hcount
  rw [Scanning.hiddenFeeds, Scanning.glyphs, ← hlength, List.take_length, lineCount, lineCount]
  omega

namespace Contract

/-- The contract that is read off the masked form of a text. -/
def readMasked (source : String) : Contract :=
  read .masking (String.ofList (mask source.toList))

theorem scan_mask (source : List Char) :
    Scanning.scan .masking (mask source) = Scanning.scan .masking source :=
  mask_mask source

theorem cells_mask (source : List Char) :
    Scanning.cells .masking (mask source) = Cell.ofText (mask source) :=
  Cell.ofMasked_mask source

/-- The functions of a masked text stand where those of the text stand. -/
theorem sites_mask (source : String) :
    sites .masking (String.ofList (mask source.toList)) = sites .masking source := by
  rw [sites, sites, String.toList_ofList, scan_mask]

/-- **What a text and its masked form have in common when comments and literals are masked**: the
name, the state variables, and functions of the same structure in the same order. The parameters of a
function are read off the source of its parameter list, and in the masked text off that list with all
hidden characters blanked; so they are the same whenever nothing in the list is hidden. -/
theorem forall₂_read_mask (source : String) :
    (read .masking source).name = (readMasked source).name ∧
    (read .masking source).stateVariables = (readMasked source).stateVariables ∧
    (read .masking source).totalLines = (readMasked source).totalLines +
      Scanning.hiddenFeeds .masking source.toList source.toList.length ∧
    List.Forall₂ (fun f g : Function => f.SameStructure g ∧
        ∃ b : Bracketed, b.whole <:+: glyphs source.toList ∧
          f.sourceCode.toList = b.whole.map Glyph.char ∧
          g.sourceCode.toList = blanked b.whole ∧
          '(' ∉ blanked b.front ∧ ')' ∉ blanked b.list ∧
          f.parameters = Parameter.ofList (b.list.map Glyph.char) ∧
          g.parameters = Parameter.ofList (blanked b.list) ∧
          ((∀ glyph ∈ b.list, glyph.visible = true) → f.parameters = g.parameters))
      (read .masking source).functions (readMasked source).functions := by
  refine ⟨?_, ?_, ?_, ?_⟩
  · rw [readMasked, read_eq, read_eq, String.toList_ofList, scan_mask]
    split <;> rfl
  · rw [readMasked, read_eq, read_eq, String.toList_ofList, scan_mask]
    split <;> rfl
  · rw [readMasked, read_eq, read_eq, String.toList_ofList, scan_mask]
    split <;> exact lineCount_eq_mask source.toList
  · rw [readMasked, functions_read, functions_read, sites_mask, String.toList_ofList, cells_mask,
      List.forall₂_map_left_iff, List.forall₂_map_right_iff, List.forall₂_same]
    intro site hsite
    have h := liesIn_of_mem_sites hsite
    have hmask : site.LiesIn (mask source.toList) := h
    have hchars : (Scanning.cells .masking source.toList).map Cell.char =
        (Cell.ofText (mask source.toList)).map Cell.char := (Cell.map_char_ofText _).symm
    obtain ⟨b, hin, hcode, htext, hfront, hlist, hparameters⟩ := h.exists_parameter_glyphs
    obtain ⟨hmaskedCode, hmaskedParameters⟩ := hmask.function_ofText_line
      (Site.lineAt (Cell.ofText (mask source.toList)) site.start)
    have hf : (site.function (Scanning.cells .masking source.toList)
        (Site.lineAt (Scanning.cells .masking source.toList) site.start)).parameters =
          Parameter.ofList (b.list.map Glyph.char) := congrArg Parameter.ofList hparameters
    rw [← hlist] at hmaskedParameters
    refine ⟨Site.sameStructure_function hchars site, b, hin, ?_, ?_, hfront, ?_, hf,
      hmaskedParameters, fun hvisible => ?_⟩
    · rw [Site.function, String.toList_ofList]
      exact hcode
    · exact hmaskedCode.trans htext
    · rw [hlist]
      exact h.header.parameters
    · rw [hf, hmaskedParameters, blanked_of_visible hvisible]

/-- A source with a comment between the type and the name of a parameter. -/
def commentedParameterSource : String :=
  "contract C \x7b function f(uint256 /* x */ a) public \x7b\x7d \x7d"

/-- **A comment may hide a parameter**: it is not found in the source, but in its masked form. -/
theorem comment_hides_parameter :
    (read .masking commentedParameterSource).functions.map (·.parameters) = [[]] ∧
      (readMasked commentedParameterSource).functions.map (·.parameters) = [[⟨"uint256", "a"⟩]] := by
  decide +kernel

end Contract

end GasAdvisor
