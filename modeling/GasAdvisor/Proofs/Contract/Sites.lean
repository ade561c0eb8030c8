import Mathlib
import GasAdvisor.Proofs.Contract.Braces
import GasAdvisor.Proofs.Contract.Cells
import GasAdvisor.Proofs.Contract.Header
import GasAdvisor.Proofs.Text.Search

/-!
# Where functions lie

A site is found where its header is read, with the block at the opening brace as body
(`Site.FoundIn`). So it lies in the scanned text (`Site.LiesIn`): the text of its header and body stands
at its start, its header is well formed, and its body is a block. The sites follow one another
(`Site.all_pairwise`), so the lines counted from one to the next are those counted from the front
(`Site.functionsFrom_eq_map`).

The functions of a contract are those at its sites, in order (`Contract.functions_read`).
-/

namespace GasAdvisor

open Text

theorem stretch_append {α : Type} (a b c : List α) : stretch (a ++ b ++ c) a.length b.length = b := by
  simp [stretch, List.append_assoc]

theorem map_stretch {α β : Type} (f : α → β) (items : List α) (start size : Nat) :
    (stretch items start size).map f = stretch (items.map f) start size := by
  rw [stretch, stretch, List.map_take, List.map_drop]

namespace Site

/-- The text of a function, from the word `function` to the closing brace. -/
def text (site : Site) : List Char :=
  site.header.front ++ site.body

theorem length_text (site : Site) : site.text.length = site.size := by
  rw [text, size, Header.length_text, List.length_append]
  omega

/-- A site whose text stands in a scanned text, with a well-formed header and a block as body. -/
structure LiesIn (site : Site) (scan : List Char) : Prop where
  header : site.header.WellFormed
  body : ∃ t, site.body = '{' :: t ∧ Closes 1 t
  stands : ∃ before after, scan = before ++ site.text ++ after ∧ before.length = site.start

/-- A site whose header is read after `before`, and whose body is the block that the header opens. -/
structure FoundIn (site : Site) (scan before rest : List Char) : Prop where
  splits : scan = before ++ (site.header.text ++ rest)
  start : before.length = site.start
  read : Header.read? (site.header.text ++ rest) = some (site.header, rest)
  block : block? ('{' :: rest) = some site.body

/-- What a candidate is: a header that is read where it stands, and the block at its brace. -/
theorem exists_read_of_mem_candidates {scan : List Char} {hit : Hit (Header × Option (List Char))}
    (h : hit ∈ candidates scan) :
    ∃ before rest, scan = before ++ (hit.value.1.text ++ rest) ∧ before.length = hit.index ∧
      Header.read? (hit.value.1.text ++ rest) = some (hit.value.1, rest) ∧
      hit.value.2 = block? ('{' :: rest) := by
  obtain ⟨u, v, size, rfl, hi, -, hf⟩ := exists_of_mem_hitsFrom h
  obtain ⟨⟨header, rest⟩, hr, he⟩ := Option.map_eq_some_iff.1 hf
  obtain ⟨hv, -⟩ := Prod.mk.inj he
  obtain ⟨-, rfl⟩ := Header.read?_eq_some hr
  rw [← hv]
  exact ⟨u, rest, rfl, by omega, hr, rfl⟩

theorem exists_foundIn_of_mem_all {scan : List Char} {site : Site} (h : site ∈ all scan) :
    ∃ before rest, site.FoundIn scan before rest := by
  obtain ⟨hit, hmem, hsite⟩ := List.mem_filterMap.1 h
  obtain ⟨body, hbody, rfl⟩ := Option.map_eq_some_iff.1 hsite
  obtain ⟨before, rest, hs, hi, hread, hblock⟩ := exists_read_of_mem_candidates hmem
  exact ⟨before, rest, hs, hi, hread, hblock ▸ hbody⟩

/-- **A site lies in the text in which it was found.** -/
theorem FoundIn.liesIn {site : Site} {scan before rest : List Char}
    (h : site.FoundIn scan before rest) : site.LiesIn scan := by
  obtain ⟨⟨after, hafter⟩, hclose⟩ := block?_eq_some_iff.1 h.block
  refine ⟨(Header.read?_eq_some h.read).1, hclose, before, after, ?_, h.start⟩
  rw [h.splits, Header.text_eq_front, text]
  simp only [List.append_assoc, List.singleton_append, hafter]

theorem liesIn_of_mem_all {scan : List Char} {site : Site} (h : site ∈ all scan) :
    site.LiesIn scan := by
  obtain ⟨before, rest, hfound⟩ := exists_foundIn_of_mem_all h
  exact hfound.liesIn

/-- **Headers do not overlap**, whether their bodies are terminated or not. -/
theorem candidates_pairwise (scan : List Char) :
    (candidates scan).Pairwise
      fun hit next => hit.index + max 1 hit.value.1.text.length ≤ next.index := by
  unfold candidates hits
  refine hitsFrom_pairwise (fun value : Header × Option (List Char) => value.1.text.length)
    (fun before s value size h => ?_) none 0 0 scan
  obtain ⟨⟨header, rest⟩, -, he⟩ := Option.map_eq_some_iff.1 h
  obtain ⟨rfl, rfl⟩ := Prod.mk.inj he
  exact Nat.le_refl _

/-- A site starts after the header of the one before. -/
theorem all_pairwise (scan : List Char) :
    (all scan).Pairwise fun site next => site.start + site.header.text.length ≤ next.start := by
  refine List.Pairwise.filterMap _ (fun hit hit' hle site hs site' hs' => ?_)
    (candidates_pairwise scan)
  obtain ⟨_, _, rfl⟩ := Option.map_eq_some_iff.1 hs
  obtain ⟨_, _, rfl⟩ := Option.map_eq_some_iff.1 hs'
  have := Nat.le_max_right 1 hit.value.1.text.length
  show hit.index + hit.value.1.text.length ≤ hit'.index
  omega

/-! ## The cells of a site -/

variable {cells : List Cell} {site : Site}

/-- The scanned characters of a function are the text of its header and body. -/
theorem LiesIn.scanned_eq (h : site.LiesIn (cells.map Cell.char)) :
    site.scanned cells = site.text := by
  obtain ⟨before, after, hs, hlen⟩ := h.stands
  rw [scanned, map_stretch, hs, ← hlen, ← length_text]
  exact stretch_append before site.text after

/-- A function starts with the first letter of its keyword. -/
theorem exists_text_eq_cons (site : Site) : ∃ t, site.text = 'f' :: t := by
  obtain ⟨u, hu⟩ := Header.keyword_prefix_front site.header
  refine ⟨"unction".toList ++ u ++ site.body, ?_⟩
  rw [text, ← hu]
  rfl

/-- A function ends with a closing brace. -/
theorem LiesIn.exists_text_eq_concat {scan : List Char} (h : site.LiesIn scan) :
    ∃ t, site.text = t ++ ['}'] := by
  obtain ⟨t, ht, hc⟩ := h.body
  obtain ⟨init, hinit⟩ := List.getLast?_eq_some_iff.1 (hc.getLast? Int.one_pos)
  exact ⟨site.header.front ++ '{' :: init, by rw [text, ht, hinit]; simp⟩

/-- The cell of a character of the scanned text. -/
theorem exists_cell_of_char {u v : List Char} {c : Char} (h : cells.map Cell.char = u ++ c :: v) :
    ∃ before cell after, cells = before ++ cell :: after ∧ before.length = u.length ∧
      cell.char = c := by
  obtain ⟨before, rest, rfl, rfl, hrest⟩ := List.map_eq_append_iff.1 h
  obtain ⟨cell, after, rfl, hc, -⟩ := List.map_eq_cons_iff.1 hrest
  exact ⟨before, cell, after, rfl, by simp, hc⟩

/-- **The cells of a function are those of a stretch of glyphs**: its first and its last character
are visible, so no hidden character reaches over its ends. -/
theorem LiesIn.exists_glyphs {scanning : Scanning} {source : List Char}
    (h : site.LiesIn (scanning.scan source)) :
    ∃ gs₁ gs gs₂, scanning.glyphs source = gs₁ ++ gs ++ gs₂ ∧
      (scanning.cells source).take site.start = gs₁.flatMap Glyph.cells ∧
      stretch (scanning.cells source) site.start site.size = gs.flatMap Glyph.cells := by
  obtain ⟨before, after, hs, hlen⟩ := h.stands
  replace hs : (scanning.cells source).map Cell.char = before ++ site.text ++ after := hs
  obtain ⟨t, ht⟩ := site.exists_text_eq_cons
  obtain ⟨init, hinit⟩ := h.exists_text_eq_concat
  have hsize : site.size = init.length + 1 := by rw [← length_text, hinit]; simp
  -- the glyph of the first character
  obtain ⟨front, cell, rest, hcells, hfront, hcell⟩ :=
    exists_cell_of_char (u := before) (c := 'f') (v := t ++ after) (by rw [hs, ht]; simp)
  have hflat := (scanning.cells_eq_flatMap source).symm.trans hcells
  obtain ⟨gs₁, g, gs₂, hgs, hg, -, rfl, rfl⟩ := exists_glyph_of_cell hflat (by rw [hcell]; decide)
  have hstart : (gs₁.flatMap Glyph.cells).length = site.start := hfront.trans hlen
  have hdrop : (scanning.cells source).drop site.start = (g :: gs₂).flatMap Glyph.cells := by
    rw [hcells, ← hstart, List.drop_left, List.flatMap_cons, hg]
    rfl
  -- the glyph of the last one
  have hlast : ((scanning.cells source).drop site.start).map Cell.char =
      init ++ '}' :: after := by
    rw [List.map_drop, hs, ← hlen, hinit]
    simp
  obtain ⟨mid, cell', rest', hmid, hlen', hcell'⟩ := exists_cell_of_char hlast
  obtain ⟨gs₃, g', gs₄, hgs', hg', -, rfl, rfl⟩ :=
    exists_glyph_of_cell (hdrop.symm.trans hmid) (by rw [hcell']; decide)
  refine ⟨gs₁, gs₃ ++ [g'], gs₄, ?_, ?_, ?_⟩
  · rw [hgs, hgs']; simp
  · rw [hcells, ← hstart, List.take_left]
  · have hone : ((gs₃ ++ [g']).flatMap Glyph.cells).length = site.size := by
      rw [List.flatMap_append, List.length_append, hlen', hsize]
      simp [hg']
    have hsplit : (scanning.cells source).drop site.start =
        (gs₃ ++ [g']).flatMap Glyph.cells ++ gs₄.flatMap Glyph.cells := by
      rw [hmid, List.flatMap_append]
      simp [hg']
    rw [stretch, hsplit, ← hone, List.take_left]

/-! ## Lines -/

/-- The line of an index, counted from the front. -/
def lineAt (cells : List Cell) (index : Nat) : Nat :=
  lineCount ((cells.map Cell.char).take index)

theorem lineAt_add {cells : List Cell} {cursor index : Nat} (h : cursor ≤ index) :
    lineAt cells index =
      lineAt cells cursor + ((stretch cells cursor (index - cursor)).map Cell.char).count '\n' := by
  have hsplit : (cells.map Cell.char).take index =
      (cells.map Cell.char).take cursor ++
        (stretch cells cursor (index - cursor)).map Cell.char := by
    rw [map_stretch, stretch, ← List.take_add, Nat.add_sub_cancel' h]
  rw [lineAt, lineAt, hsplit, lineCount, lineCount, List.count_append]
  omega

/-- **Counting lines from one function to the next counts them from the front.** What carries the
count over is that the cursor has not passed any site to come and stands on the line counted. -/
theorem functionsFrom_eq_map {cursor : Nat} {sites : List Site}
    (hcursor : ∀ site ∈ sites, cursor ≤ site.start)
    (hsorted : sites.Pairwise fun site next => site.start ≤ next.start) :
    functionsFrom cells (lineAt cells cursor) cursor sites =
      sites.map fun site => site.function cells (lineAt cells site.start) := by
  induction sites generalizing cursor with
  | nil => rfl
  | cons site more ih =>
    obtain ⟨hnext, hmore⟩ := List.pairwise_cons.1 hsorted
    have hline := @lineAt_add cells _ _ (hcursor site (by simp))
    rw [functionsFrom, List.map_cons]
    simp only [← hline]
    rw [ih hnext hmore]

end Site

/-! ## Contracts -/

/-- The sites of the functions of a contract: none if the source declares nothing. -/
def Contract.sites (scanning : Scanning) (source : String) : List Site :=
  if Declaration.isPresent (codeChars (scanning.scan source.toList)) then
    Site.all (scanning.scan source.toList)
  else []

theorem Contract.liesIn_of_mem_sites {scanning : Scanning} {source : String} {site : Site}
    (h : site ∈ Contract.sites scanning source) : site.LiesIn (scanning.scan source.toList) := by
  unfold Contract.sites at h
  split at h
  · exact Site.liesIn_of_mem_all h
  · simp at h

theorem Contract.read_eq (scanning : Scanning) (source : String) :
    Contract.read scanning source =
      if Declaration.isPresent (codeChars (scanning.scan source.toList)) then
        { name := Declaration.name (codeChars (scanning.scan source.toList))
          functions := Site.functionsFrom (scanning.cells source.toList) 1 0
            (Site.all (scanning.scan source.toList))
          stateVariables := StateVariable.names (scanning.scan source.toList)
            ((Site.all (scanning.scan source.toList)).map fun site => (site.start, site.stop))
          totalLines := lineCount source.toList }
      else Contract.invalid (lineCount source.toList) := rfl

theorem Contract.totalLines_read (scanning : Scanning) (source : String) :
    (Contract.read scanning source).totalLines = lineCount source.toList := by
  rw [Contract.read_eq]
  split <;> rfl

theorem Site.functionsFrom_all (scanning : Scanning) (source : List Char) :
    Site.functionsFrom (scanning.cells source) 1 0 (Site.all (scanning.scan source)) =
      (Site.all (scanning.scan source)).map fun site =>
        site.function (scanning.cells source) (Site.lineAt (scanning.cells source) site.start) := by
  have hsorted : (Site.all (scanning.scan source)).Pairwise
      fun site next => site.start ≤ next.start :=
    (Site.all_pairwise _).imp fun h => by omega
  exact @Site.functionsFrom_eq_map _ 0 _ (fun _ _ => Nat.zero_le _) hsorted

/-- **The functions of a contract are those at its sites**, each on the line of its start. -/
theorem Contract.functions_read (scanning : Scanning) (source : String) :
    (Contract.read scanning source).functions =
      (Contract.sites scanning source).map fun site =>
        site.function (scanning.cells source.toList)
          (Site.lineAt (scanning.cells source.toList) site.start) := by
  rw [Contract.read_eq, Contract.sites]
  split
  · exact Site.functionsFrom_all scanning source.toList
  · rfl

end GasAdvisor
