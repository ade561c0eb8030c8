import GasAdvisor.Proofs.Contract.Extents
import GasAdvisor.Proofs.Contract.Qualifiers
import GasAdvisor.Proofs.Contract.Spacing

/-!
# Reading by slices never fails

Reading a contract by slices fails as soon as one slice is taken of a span that does not fit its text.
It never does (`Contract.readSliced?_eq`), although most spans are found in one text and used on
another one of the same size.

* The scanned text is sliced where it was searched, so between its characters.
* The source is sliced at seams: a function, its parameters and its qualifiers begin and end beside
  characters that are no spaces (`PlacedHeader.function?_place`).
* The scanned text masked once more is sliced at the offsets of the scanned text. A hidden character
  becomes as many spaces as it has bytes, so there is a character wherever there was one
  (`StateVariable.slice?_mask`).
-/

namespace GasAdvisor

open Text

/-! ## Functions -/

/-- The span of a function in the scanned text. -/
def Site.span (scan : List Char) (site : Site) : Span :=
  spanAt scan site.start site.size

/-- The site of a candidate whose body is terminated. -/
def Site.ofCandidate? (hit : Hit (Header × Option (List Char))) : Option Site :=
  hit.value.2.map fun body => ⟨hit.index, hit.value.1, body⟩

namespace PlacedHeader

variable {site : Site} {scanning : Scanning} {source scan before rest : List Char}

/-- The headers that are placed are those of the candidates. -/
theorem all_eq (scan : List Char) :
    all scan = (Site.candidates scan).map fun hit => place scan hit.index hit.value.1 := by
  have hheaders : hits (fun _ s => find s) scan =
      (Site.candidates scan).map fun hit => ⟨hit.index, hit.value.1⟩ := by
    refine hitsFrom_map Prod.fst (fun _ s => ?_) none 0 0 scan
    rw [find]
    cases Header.read? s <;> rfl
  rw [all, hheaders, List.map_map]
  rfl

/-- The offset before the end of a header is that of its opening brace. -/
theorem stop_place_sub_one {h : Header} {start : Nat} (hscan : scan = before ++ (h.text ++ rest))
    (hstart : before.length = start) :
    (place scan start h).whole.stop - 1 = byteSize (before ++ h.front) := by
  have hbrace : width '{' = 1 := by decide
  have hstop : (place scan start h).whole.stop = byteSize (before ++ h.text) := by
    rw [← byteOffset_append (before ++ h.text) rest, List.append_assoc, ← hscan,
      List.length_append, hstart]
    rfl
  rw [hstop, Header.text_eq_front, ← List.append_assoc, byteSize_append, byteSize, hbrace]
  rfl

/-- The text of the qualifiers is sliced out of the scanned text. -/
theorem slice?_qualifiers {front tail : List Char}
    (hscan : scan = front ++ (Qualifier.textOf site.header.qualifiers ++ tail))
    (hfront : front.length = site.qualifiersStart) :
    slice? scan (place scan site.start site.header).qualifiers =
      some (Qualifier.textOf site.header.qualifiers) := by
  have hspan : (place scan site.start site.header).qualifiers =
      spanAt scan front.length (Qualifier.textOf site.header.qualifiers).length := by
    rw [hfront]
    rfl
  rw [hspan, slice?_spanAt, stretch_middle hscan rfl]

/-- The parameters are sliced out of the source. -/
theorem slice?_parameters (h : site.FoundIn (scanning.scan source) before rest) :
    slice? source (place (scanning.scan source) site.start site.header).parameters =
      some (Cell.sourceOf (stretch (scanning.cells source) site.parametersStart
        site.header.parameters.length)) := by
  obtain ⟨front, after, hscan, hstart⟩ := h.exists_splits_parameters
  rw [← hstart, ← Scanning.slice?_parenthesised hscan, hstart]
  rfl

/-- A function is sliced out of the scanned text. -/
theorem slice?_scanned (scanning : Scanning) (source : List Char) (site : Site) :
    slice? (scanning.scan source) (site.span (scanning.scan source)) =
      some (site.scanned (scanning.cells source)) := by
  rw [Site.span, slice?_spanAt, Site.scanned, map_stretch]
  rfl

/-- **A function is made of slices.** -/
theorem function?_place (h : site.FoundIn (scanning.scan source) before rest) (line : Nat) :
    (place (scanning.scan source) site.start site.header).function? source (scanning.scan source)
        line (site.span (scanning.scan source)).stop =
      some (site.function (scanning.cells source) line) := by
  obtain ⟨front, hscan, hfront⟩ := h.exists_splits_qualifiers
  have hsep := Header.separated_of_read? h.read
  -- the qualifiers are found in their own text, and stand behind `front`
  have hplaced : (PlacedQualifier.place 0 site.header.qualifiers).map (·.behind front) =
      site.qualifiers := by
    rw [Site.qualifiers, ← hfront]
    exact (PlacedQualifier.place_add front.length 0 _).symm
  have hoffset : (place (scanning.scan source) site.start site.header).qualifiers.start =
      byteSize front := by
    show byteOffset _ site.qualifiersStart = _
    rw [← hfront, hscan, byteOffset_append]
  have hvisibility := PlacedQualifier.findSome?_word Visibility.ofKeyword? front hsep
  have hmutability := PlacedQualifier.findSome?_word Mutability.ofKeyword? front hsep
  have hreturns := PlacedQualifier.mapM_returns hscan hsep
  have hmodifiers := PlacedQualifier.mapM_modifiers hscan hsep (by simp)
  rw [hplaced] at hvisibility hmutability hreturns hmodifiers
  -- the source of the function is sliced where its scanned text is
  have hcode : slice? source (site.span (scanning.scan source)) =
      some (Cell.sourceOf (stretch (scanning.cells source) site.start site.size)) := h.slice?_source
  have hspan : (⟨(place (scanning.scan source) site.start site.header).whole.start,
      (site.span (scanning.scan source)).stop⟩ : Span) = site.span (scanning.scan source) := rfl
  rw [function?, slice?_qualifiers hscan hfront, hoffset, hspan]
  simp only [Option.bind_eq_bind, Option.bind_some, hreturns, hmodifiers,
    slice?_scanned scanning source site, slice?_parameters h, hcode, hvisibility, hmutability,
    List.map_map]
  rfl

/-- A header whose body is not terminated is passed over, and the cursor stays. -/
theorem functionsFrom?_cons_of_none {h : Header} {start line cursor : Nat}
    (hscan : scan = before ++ (h.text ++ rest)) (hstart : before.length = start)
    (hblock : block? ('{' :: rest) = none) (more : List PlacedHeader) :
    functionsFrom? source scan line cursor (place scan start h :: more) =
      functionsFrom? source scan line cursor more := by
  have hnone : matchingBrace? scan (byteSize (before ++ h.front)) = none := by
    have hsplit : scan = (before ++ h.front) ++ '{' :: rest := by
      rw [hscan, Header.text_eq_front]
      simp only [List.append_assoc, List.singleton_append]
    rw [hsplit, matchingBrace?_append, hblock]
    rfl
  rw [functionsFrom?, stop_place_sub_one hscan hstart, hnone]

/-- A function behind the cursor is read, and the cursor moves to its start. -/
theorem functionsFrom?_cons_of_foundIn (h : site.FoundIn (scanning.scan source) before rest)
    {cursor : Nat} (hcursor : cursor ≤ site.start) (more : List PlacedHeader) :
    functionsFrom? source (scanning.scan source) (Site.lineAt (scanning.cells source) cursor)
        (byteOffset (scanning.scan source) cursor)
        (place (scanning.scan source) site.start site.header :: more) =
      (functionsFrom? source (scanning.scan source)
        (Site.lineAt (scanning.cells source) site.start)
        (byteOffset (scanning.scan source) site.start) more).map fun found =>
          (site.span (scanning.scan source), site.function (scanning.cells source)
            (Site.lineAt (scanning.cells source) site.start)) :: found := by
  have hclosing := h.matchingBrace?_opening
  rw [h.byteOffset_opening] at hclosing
  have hstop : byteOffset (scanning.scan source) (site.stop - 1) + 1 =
      (site.span (scanning.scan source)).stop := h.closing_add_one
  have hbetween : slice? (scanning.scan source)
      ⟨byteOffset (scanning.scan source) cursor, byteOffset (scanning.scan source) site.start⟩ =
        some ((stretch (scanning.cells source) cursor (site.start - cursor)).map Cell.char) := by
    rw [map_stretch]
    exact slice?_between hcursor (scanning.scan source)
  have hline := @Site.lineAt_add (scanning.cells source) _ _ hcursor
  have hstart : (place (scanning.scan source) site.start site.header).whole.start =
      byteOffset (scanning.scan source) site.start := rfl
  rw [functionsFrom?, stop_place_sub_one h.splits h.start, hclosing]
  simp only [Option.bind_eq_bind, hstart, hbetween, Option.bind_some, ← hline, hstop,
    function?_place h]
  rw [Option.map_eq_bind]
  rfl

/-- **Functions are read one after the other by slices.** What carries the reading over is that the
cursor has not passed any header to come and stands on the line counted. -/
theorem functionsFrom?_eq {cursor : Nat} {found : List (Hit (Header × Option (List Char)))}
    (hfound : ∀ hit ∈ found, hit ∈ Site.candidates (scanning.scan source))
    (hcursor : ∀ hit ∈ found, cursor ≤ hit.index)
    (hsorted : found.Pairwise fun hit next => hit.index ≤ next.index) :
    functionsFrom? source (scanning.scan source) (Site.lineAt (scanning.cells source) cursor)
        (byteOffset (scanning.scan source) cursor)
        (found.map fun hit => place (scanning.scan source) hit.index hit.value.1) =
      some ((found.filterMap Site.ofCandidate?).map fun site =>
        (site.span (scanning.scan source), site.function (scanning.cells source)
          (Site.lineAt (scanning.cells source) site.start))) := by
  induction found generalizing cursor with
  | nil => rfl
  | cons hit found ih =>
    obtain ⟨index, header, body⟩ := hit
    obtain ⟨hnext, hmore⟩ := List.pairwise_cons.1 hsorted
    have hfound' := fun next hmem => hfound next (List.mem_cons_of_mem _ hmem)
    obtain ⟨before, rest, hscan, hstart, hread, hbody⟩ :=
      Site.exists_read_of_mem_candidates (hfound _ List.mem_cons_self)
    rw [List.map_cons]
    cases body with
    | none =>
      rw [functionsFrom?_cons_of_none hscan hstart hbody.symm, List.filterMap_cons_none rfl]
      exact ih hfound' (fun next hmem => hcursor next (List.mem_cons_of_mem _ hmem)) hmore
    | some body =>
      have hin : Site.FoundIn ⟨index, header, body⟩ (scanning.scan source) before rest :=
        ⟨hscan, hstart, hread, hbody.symm⟩
      have hcons := functionsFrom?_cons_of_foundIn hin (hcursor _ List.mem_cons_self)
        (found.map fun hit => place (scanning.scan source) hit.index hit.value.1)
      rw [ih hfound' hnext hmore] at hcons
      exact hcons

/-- The functions of a scanned text, read by slices from its front. -/
theorem functionsFrom?_all (scanning : Scanning) (source : List Char) :
    functionsFrom? source (scanning.scan source) 1 0 (all (scanning.scan source)) =
      some ((Site.all (scanning.scan source)).map fun site =>
        (site.span (scanning.scan source), site.function (scanning.cells source)
          (Site.lineAt (scanning.cells source) site.start))) := by
  have hsorted : (Site.candidates (scanning.scan source)).Pairwise
      fun hit next => hit.index ≤ next.index :=
    (Site.candidates_pairwise _).imp fun h => by omega
  rw [all_eq]
  exact @functionsFrom?_eq scanning source 0 _ (fun _ h => h) (fun _ _ => Nat.zero_le _) hsorted

end PlacedHeader

/-! ## State variables -/

namespace StateVariable

variable {scan : List Char} {cursor index : Nat}

/-- Spaces leave the depth of parentheses as it is, however many there are. -/
theorem foldl_depthStep_blanked (gs : List Glyph) (depth : Nat) :
    (blanked gs).foldl depthStep depth = (gs.map Glyph.code).foldl depthStep depth := by
  have hspaces (n depth : Nat) : (List.replicate n ' ').foldl depthStep depth = depth := by
    induction n with
    | zero => rfl
    | succ n ih => rw [List.replicate_succ, List.foldl_cons]; exact ih
  induction gs generalizing depth with
  | nil => rfl
  | cons g gs ih =>
    obtain ⟨c, visible⟩ := g
    cases visible with
    | true => exact ih _
    | false =>
      rw [blanked_cons_hidden, List.foldl_append, hspaces]
      exact ih depth

/-- The depth of parentheses is counted from one name to the next. -/
theorem depth_take (h : cursor ≤ index) (scan : List Char) :
    depth ((codeChars scan).take index) =
      (blanked (stretch (glyphs scan) cursor (index - cursor))).foldl depthStep
        (depth ((codeChars scan).take cursor)) := by
  have hsplit : (codeChars scan).take index = (codeChars scan).take cursor ++
      (stretch (glyphs scan) cursor (index - cursor)).map Glyph.code := by
    rw [map_stretch, ← codeChars, stretch, ← List.take_add, Nat.add_sub_cancel' h]
  rw [hsplit, depth, List.foldl_append, foldl_depthStep_blanked]
  rfl

/-- **A masked text is sliced at the offsets of the text**: a hidden character has become as many
spaces as it has bytes. -/
theorem slice?_mask (h : cursor ≤ index) (scan : List Char) :
    slice? (mask scan) ⟨byteOffset scan cursor, byteOffset scan index⟩ =
      some (blanked (stretch (glyphs scan) cursor (index - cursor))) := by
  have hsize (i : Nat) : byteSize (blanked ((glyphs scan).take i)) = byteOffset scan i := by
    rw [byteSize_blanked, List.map_take, glyphs, map_char_glyphsIn]
    rfl
  have htake : (glyphs scan).take index =
      (glyphs scan).take cursor ++ stretch (glyphs scan) cursor (index - cursor) := by
    rw [stretch, ← List.take_add, Nat.add_sub_cancel' h]
  refine slice?_eq_some_iff.2 ⟨blanked ((glyphs scan).take cursor),
    blanked ((glyphs scan).drop index), ?_, hsize cursor, ?_⟩
  · rw [← blanked_append, ← htake, ← blanked_append, List.take_append_drop]
    rfl
  · rw [← blanked_append, ← htake, hsize]

/-- Whether a name stands outside of functions and of parentheses. -/
def isOutside (scan : List Char) (functions : List (Nat × Nat)) (hit : Hit (List Char)) : Bool :=
  depth ((codeChars scan).take hit.index) = 0 &&
    functions.all fun (start, stop) => hit.index < start || stop ≤ hit.index

theorem names_eq (scan : List Char) (functions : List (Nat × Nat)) :
    names scan functions =
      ((((declared scan).filter (isOutside scan functions)).map fun hit =>
        String.ofList hit.value).filter (!reserved.contains ·)).eraseDups := rfl

/-- A name stands outside exactly if neither the depth nor a span of bytes says otherwise. -/
theorem isOutside_eq {sites : List Site} (hsites : ∀ site ∈ sites, site.stop ≤ scan.length)
    (hit : Hit (List Char)) :
    isOutside scan (sites.map fun site => (site.start, site.stop)) hit =
      !(decide (0 < depth ((codeChars scan).take hit.index)) ||
        (sites.map (·.span scan)).any (·.contains (byteOffset scan hit.index))) := by
  have hzero : decide (depth ((codeChars scan).take hit.index) = 0) =
      !decide (0 < depth ((codeChars scan).take hit.index)) := by
    rw [← decide_not, decide_eq_decide]
    omega
  have hspans : ((sites.map fun site => (site.start, site.stop)).all fun (start, stop) =>
      decide (hit.index < start) || decide (stop ≤ hit.index)) =
        !(sites.map (·.span scan)).any (·.contains (byteOffset scan hit.index)) := by
    rw [List.all_map, List.any_map, List.not_any_eq_all_not]
    refine Bool.eq_iff_iff.2 ?_
    rw [List.all_eq_true, List.all_eq_true]
    refine forall₂_congr fun site hsite => ?_
    have hcontains : (site.span scan).contains (byteOffset scan hit.index) =
        (decide (site.start ≤ hit.index) && decide (hit.index < site.stop)) :=
      contains_spanAt (hsites site hsite) hit.index
    simp only [Function.comp, hcontains, Bool.or_eq_true, Bool.not_eq_true', Bool.and_eq_false_iff,
      decide_eq_true_eq, decide_eq_false_iff_not]
    omega
  rw [isOutside, hzero, hspans, Bool.not_or]

/-- **Names are looked at one after the other by slices.** The cursor has not passed any name to come
and stands at the depth counted. -/
theorem outsideFrom?_eq {sites : List Site} (hsites : ∀ site ∈ sites, site.stop ≤ scan.length)
    {found : List (Hit (List Char))} (hcursor : ∀ hit ∈ found, cursor ≤ hit.index)
    (hsorted : found.Pairwise fun hit next => hit.index ≤ next.index) :
    outsideFrom? (mask scan) (sites.map (·.span scan)) (depth ((codeChars scan).take cursor))
        (byteOffset scan cursor) (found.map fun hit => (byteOffset scan hit.index, hit.value)) =
      some ((found.filter (isOutside scan (sites.map fun site => (site.start, site.stop)))).map
        (·.value)) := by
  induction found generalizing cursor with
  | nil => rfl
  | cons hit found ih =>
    obtain ⟨hnext, hmore⟩ := List.pairwise_cons.1 hsorted
    have hle := hcursor hit List.mem_cons_self
    rw [List.map_cons, outsideFrom?, slice?_mask hle]
    simp only [Option.bind_eq_bind, Option.bind_some, ← depth_take hle, ih hnext hmore]
    rw [List.filter_cons, isOutside_eq hsites]
    cases (decide (0 < depth ((codeChars scan).take hit.index)) ||
      (sites.map (·.span scan)).any (·.contains (byteOffset scan hit.index))) with
    | true => rfl
    | false => rfl

theorem declared_pairwise (scan : List Char) :
    (declared scan).Pairwise fun hit next => hit.index ≤ next.index := by
  unfold declared hits
  refine (hitsFrom_pairwise (fun _ => 0) (fun _ _ _ _ _ => Nat.zero_le _) none 0 0 scan).imp ?_
  intro hit next hle
  omega

/-- The names of a scanned text, read by slices from its front. -/
theorem outsideFrom?_placed {sites : List Site} (hsites : ∀ site ∈ sites, site.stop ≤ scan.length) :
    outsideFrom? (mask scan) (sites.map (·.span scan)) 0 0 (placed scan) =
      some (((declared scan).filter
        (isOutside scan (sites.map fun site => (site.start, site.stop)))).map (·.value)) :=
  @outsideFrom?_eq scan 0 sites hsites _ (fun _ _ => Nat.zero_le _) (declared_pairwise scan)

end StateVariable

/-! ## Contracts -/

namespace Contract

theorem readSliced?_eq_bind (scanning : Scanning) (source : String) :
    readSliced? scanning source =
      if Declaration.isPresent (mask (scanning.scan source.toList)) then
        (PlacedHeader.functionsFrom? source.toList (scanning.scan source.toList) 1 0
          (PlacedHeader.all (scanning.scan source.toList))).bind fun functions =>
        (StateVariable.outsideFrom? (mask (scanning.scan source.toList)) (functions.map (·.1)) 0 0
          (StateVariable.placed (scanning.scan source.toList))).bind fun names =>
        some
          { name := Declaration.name (mask (scanning.scan source.toList))
            functions := functions.map (·.2)
            stateVariables :=
              ((names.map String.ofList).filter (!reserved.contains ·)).eraseDups
            totalLines := lineCount source.toList }
      else some (invalid (lineCount source.toList)) := rfl

/-- **Reading by slices gives the contract that is read.** -/
theorem readSliced?_eq (scanning : Scanning) (source : String) :
    readSliced? scanning source = some (read scanning source) := by
  have hcode := respaced_codeChars_mask (scanning.scan source.toList)
  have hfunctions := PlacedHeader.functionsFrom?_all scanning source.toList
  have hsites (site : Site) (h : site ∈ Site.all (scanning.scan source.toList)) :
      site.stop ≤ (scanning.scan source.toList).length := by
    obtain ⟨_, _, hfound⟩ := Site.exists_foundIn_of_mem_all h
    exact hfound.stop_le_length
  have hnames := StateVariable.outsideFrom?_placed hsites
  rw [readSliced?_eq_bind, read_eq, ← Declaration.isPresent_respaced hcode,
    ← Declaration.name_respaced hcode, Site.functionsFrom_all, StateVariable.names_eq]
  split
  · rw [hfunctions, Option.bind_some, List.map_map, List.map_map]
    have hspans : (fun functions : Span × Function => functions.1) ∘ (fun site : Site =>
        (site.span (scanning.scan source.toList), site.function (scanning.cells source.toList)
          (Site.lineAt (scanning.cells source.toList) site.start))) =
            fun site => site.span (scanning.scan source.toList) := rfl
    rw [hspans, hnames, Option.bind_some, List.map_map]
    rfl
  · rfl

/-- **Reading never slices out of bounds or inside a character.** A slice is taken exactly if its ends
stand in order, within the text and between characters of it. Read by slices, so that the first one not
taken is the end of the reading, every source still gives a contract, and it is the one that is read. -/
theorem every_slice_fits (scanning : Scanning) (source : String) :
    (∀ text span, (slice? text span).isSome ↔
      span.start ≤ span.stop ∧ span.stop ≤ byteSize text ∧
        IsBoundary text span.start ∧ IsBoundary text span.stop) ∧
    readSliced? scanning source = some (read scanning source) := by
  refine ⟨fun text span => isSome_slice?_iff.trans ⟨fun h => ?_, fun h => ?_⟩,
    readSliced?_eq scanning source⟩
  · exact ⟨h.ordered, h.bounded, h.start, h.stop⟩
  · exact ⟨h.1, h.2.1, h.2.2.1, h.2.2.2⟩

end Contract

end GasAdvisor
