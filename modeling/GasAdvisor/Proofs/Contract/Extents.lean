import GasAdvisor.Proofs.Contract.Places

/-!
# How functions lie in a source

The extent of a function says by byte offsets where it starts and where the braces of its body stand,
and `Extent.Delimits` what the source has there. Functions start one after the other, and their lines
follow in order (`Contract.lines_read`).

Bodies never cross. A block that starts inside another one ends inside of it: the depth is positive
all the way to the closing brace of the outer block, so what is left of that block from the inner
opening brace on closes more than it opens, and no balanced text reaches to its end
(`block?_apart_or_within`). Since no header overlaps another one, the braces of two functions differ,
and their bodies are apart or one lies strictly within the other. All of this is put together in
`Contract.extraction_structure`.
-/

namespace GasAdvisor

open Text

/-! ## Blocks do not cross -/

/-- **A block that starts after another one has started begins behind it or ends within it.** -/
theorem block?_apart_or_within {u v outer inner : List Char} (hu : u ≠ [])
    (houter : block? (u ++ v) = some outer) (hinner : block? v = some inner) :
    outer.length ≤ u.length ∨ u.length + inner.length < outer.length := by
  refine or_iff_not_imp_left.2 fun hlong => ?_
  obtain ⟨hpre, t, rfl, hclose⟩ := block?_eq_some_iff.1 houter
  obtain ⟨hpre', t', rfl, hclose'⟩ := block?_eq_some_iff.1 hinner
  -- what the inner block starts in: the outer one less the text before
  obtain ⟨w, hw⟩ : ∃ w, u ++ w = '{' :: t := by
    refine (List.prefix_or_prefix_of_prefix (List.prefix_append u v) hpre).resolve_right fun h => ?_
    exact hlong h.length_le
  have hwne : w ≠ [] := by
    rintro rfl
    rw [List.append_nil] at hw
    exact hlong (by rw [hw])
  obtain ⟨u, rfl⟩ : ∃ u', u = '{' :: u' := by
    obtain ⟨c, u', rfl⟩ := List.exists_cons_of_ne_nil hu
    exact ⟨u', by rw [(List.cons.inj hw).1]⟩
  have ht : u ++ w = t := (List.cons.inj hw).2
  -- it closes more than it opens
  have hdepth : braceDepth w < 0 := by
    have hproper : u ≠ t := fun he => hwne (by simpa [← he] using ht)
    have hpos := hclose.2 u ⟨w, ht⟩ hproper
    have hend := hclose.1
    rw [← ht, braceDepth_append] at hend
    omega
  have hbalanced := hclose'.balanced
  have hwpre : w <+: v := by
    rw [← hw] at hpre
    exact (List.prefix_append_right_inj _).1 hpre
  rcases List.prefix_or_prefix_of_prefix hwpre hpre' with hle | hle
  · exact absurd (hbalanced.nonneg w hle) (by omega)
  · have hne : ('{' :: t') ≠ w := fun he => by
      have := hbalanced.closed
      rw [he] at this
      omega
    have hlt := lt_of_le_of_ne hle.length_le fun he => hne (hle.eq_of_length he)
    rw [← hw, List.length_append]
    omega

theorem Site.stop_eq (site : Site) : site.stop = site.opening + site.body.length := by
  rw [stop, size, opening, Nat.add_assoc]

namespace Site.FoundIn

variable {site next : Site} {scan before rest before' rest' : List Char}

theorem drop_opening (h : site.FoundIn scan before rest) :
    scan.drop site.opening = '{' :: rest := by
  rw [← h.length_opening, h.splits_opening, List.drop_left]

theorem opening_lt_stop (h : site.FoundIn scan before rest) : site.opening < site.stop := by
  obtain ⟨-, t, ht, -⟩ := block?_eq_some_iff.1 h.block
  rw [stop_eq, ht, List.length_cons]
  omega

theorem stop_le_length (h : site.FoundIn scan before rest) : site.stop ≤ scan.length := by
  obtain ⟨init, after, hinit, hclosing⟩ := h.exists_splits_closing
  have hlen := congrArg List.length hclosing
  have hlt := h.opening_lt_stop
  rw [List.length_append, h.length_closing hinit, List.length_cons] at hlen
  omega

/-- **Bodies do not cross**: of two functions, the later one opens behind the body of the earlier one
or closes within it. -/
theorem apart_or_within (h : site.FoundIn scan before rest) (h' : next.FoundIn scan before' rest')
    (hlt : site.opening < next.opening) : site.stop ≤ next.opening ∨ next.stop < site.stop := by
  have hsplit : (scan.drop site.opening).take (next.opening - site.opening) ++ '{' :: rest' =
      '{' :: rest := by
    rw [← h'.drop_opening, ← h.drop_opening]
    conv_rhs => rw [← List.take_append_drop (next.opening - site.opening) (scan.drop site.opening)]
    rw [List.drop_drop, Nat.add_sub_cancel' (le_of_lt hlt)]
  have hlength : ((scan.drop site.opening).take (next.opening - site.opening)).length =
      next.opening - site.opening := by
    have := h'.stop_le_length
    have := h'.opening_lt_stop
    rw [List.length_take, List.length_drop]
    omega
  have hne : (scan.drop site.opening).take (next.opening - site.opening) ≠ [] := by
    rw [← List.length_pos_iff, hlength]
    omega
  have hcross := block?_apart_or_within hne (by rw [hsplit]; exact h.block) h'.block
  rw [hlength] at hcross
  rw [stop_eq site, stop_eq next]
  omega

end Site.FoundIn

/-! ## Extents -/

/-- Where a function stands, by byte offsets. -/
structure Extent where
  /-- The start of the word `function`. -/
  start : Nat
  /-- The brace that opens the body. -/
  opening : Nat
  /-- The brace that closes the body. -/
  closing : Nat
  deriving DecidableEq, Repr

namespace Extent

/-- Bodies without a common byte. -/
def Apart (e e' : Extent) : Prop :=
  e.closing < e'.opening ∨ e'.closing < e.opening

/-- A body strictly inside another one. -/
def Within (e e' : Extent) : Prop :=
  e'.opening < e.opening ∧ e.closing < e'.closing

/-- An extent is that of a function of a source: the source has the text of the function and its
braces there, the header of the function is read from its start to the opening brace of the scanned
text, and the closing brace is the one that matches. -/
structure Delimits (e : Extent) (scanning : Scanning) (source : String) (f : Function) : Prop where
  code : slice? source.toList ⟨e.start, e.closing + 1⟩ = some f.sourceCode.toList
  header : ∃ before h rest, scanning.scan source.toList = before ++ (h.text ++ rest) ∧
    Header.read? (h.text ++ rest) = some (h, rest) ∧ String.ofList h.name = f.name ∧
    byteSize before = e.start ∧ byteSize (before ++ h.text) = e.opening + 1
  matching : matchingBrace? (scanning.scan source.toList) e.opening = some e.closing
  opens : slice? source.toList ⟨e.opening, e.opening + 1⟩ = some ['{']
  closes : slice? source.toList ⟨e.closing, e.closing + 1⟩ = some ['}']

end Extent

/-- The extent of a site in a scanned text. -/
def Site.extent (scan : List Char) (site : Site) : Extent :=
  ⟨byteOffset scan site.start, byteOffset scan site.opening, byteOffset scan (site.stop - 1)⟩

/-- The extents of the functions of a source. -/
def Contract.extents (scanning : Scanning) (source : String) : List Extent :=
  (Contract.sites scanning source).map (Site.extent (scanning.scan source.toList))

theorem byteOffset_succ {s u v : List Char} {c : Char} (h : s = u ++ c :: v) :
    byteOffset s (u.length + 1) = byteOffset s u.length + width c := by
  have hsplit : s = (u ++ [c]) ++ v := by
    rw [h, List.append_assoc]
    rfl
  have hlength : u.length + 1 = (u ++ [c]).length := by rw [List.length_append, List.length_singleton]
  rw [hlength, hsplit, byteOffset_append, List.append_assoc, byteOffset_append, byteSize_append]
  rfl

namespace Site.FoundIn

variable {site next : Site} {scanning : Scanning} {scan before rest before' rest' : List Char}

/-- The closing brace is the last byte of a function. -/
theorem closing_add_one (h : site.FoundIn scan before rest) :
    (site.extent scan).closing + 1 = byteOffset scan (site.start + site.size) := by
  obtain ⟨init, after, hinit, hclosing⟩ := h.exists_splits_closing
  have hlt := h.opening_lt_stop
  have hsucc := byteOffset_succ hclosing
  have hstop : site.stop - 1 + 1 = site.start + site.size := by
    rw [← stop]
    omega
  rw [h.length_closing hinit, hstop] at hsucc
  exact hsucc.symm

theorem opening_add_one (h : site.FoundIn scan before rest) :
    (site.extent scan).opening + 1 = byteOffset scan (site.opening + 1) := by
  have hsucc := byteOffset_succ h.splits_opening
  rw [h.length_opening] at hsucc
  exact hsucc.symm

theorem delimits {source : String} (h : site.FoundIn (scanning.scan source.toList) before rest)
    (line : Nat) : (site.extent (scanning.scan source.toList)).Delimits scanning source
      (site.function (scanning.cells source.toList) line) where
  code := by
    rw [h.closing_add_one, function, String.toList_ofList]
    exact h.slice?_source
  header := by
    refine ⟨before, site.header, rest, h.splits, h.read, rfl, ?_, ?_⟩
    · show _ = byteOffset _ site.start
      rw [← h.start, h.splits, byteOffset_append]
    · have hlength : site.opening + 1 = (before ++ site.header.text).length := by
        rw [← h.length_opening, Header.text_eq_front]
        simp only [List.length_append, List.length_singleton]
        omega
      rw [h.opening_add_one, hlength, h.splits, ← List.append_assoc, byteOffset_append]
  matching := h.matchingBrace?_opening
  opens := by
    rw [h.opening_add_one]
    have := Scanning.slice?_of_char h.splits_opening (by decide)
    rwa [h.length_opening] at this
  closes := by
    obtain ⟨init, after, hinit, hclosing⟩ := h.exists_splits_closing
    have hlt := h.opening_lt_stop
    have hstop : site.stop - 1 + 1 = site.start + site.size := by
      rw [← stop]
      omega
    have := Scanning.slice?_of_char hclosing (by decide)
    rw [h.length_closing hinit, spanAt, hstop] at this
    rw [h.closing_add_one]
    exact this

/-- The extents of two functions of which one has its header before the other. -/
theorem extent_relation (h : site.FoundIn scan before rest) (h' : next.FoundIn scan before' rest')
    (hlt : site.start + site.header.text.length ≤ next.start) :
    (site.extent scan).start < (next.extent scan).start ∧
      ((site.extent scan).Apart (next.extent scan) ∨
        (next.extent scan).Within (site.extent scan)) := by
  have hheader : 0 < site.header.text.length := by
    rw [Header.length_text]
    exact Nat.succ_pos _
  have hstart : site.opening < next.opening := by
    rw [opening, opening]
    omega
  have hlength := h.stop_le_length
  have hlength' := h'.stop_le_length
  have hopens := h.opening_lt_stop
  have hopens' := h'.opening_lt_stop
  have hnext : next.start ≤ next.opening := Nat.le_add_right _ _
  refine ⟨byteOffset_lt_byteOffset (by omega) (by omega), ?_⟩
  rcases h.apart_or_within h' hstart with hapart | hwithin
  · exact .inl (.inl (byteOffset_lt_byteOffset (by omega) (by omega)))
  · exact .inr ⟨byteOffset_lt_byteOffset hstart (by omega),
      byteOffset_lt_byteOffset (by omega) (by omega)⟩

end Site.FoundIn

namespace Contract

theorem exists_foundIn_of_mem_sites {scanning : Scanning} {source : String} {site : Site}
    (h : site ∈ sites scanning source) :
    ∃ before rest, site.FoundIn (scanning.scan source.toList) before rest := by
  unfold sites at h
  split at h
  · exact Site.exists_foundIn_of_mem_all h
  · cases h

theorem pairwise_sites (scanning : Scanning) (source : String) :
    (sites scanning source).Pairwise fun site next =>
      site.start + site.header.text.length ≤ next.start := by
  unfold sites
  split
  · exact Site.all_pairwise _
  · exact .nil

theorem pairwise_extents (scanning : Scanning) (source : String) :
    (extents scanning source).Pairwise fun e e' =>
      e.start < e'.start ∧ (e.Apart e' ∨ e'.Within e) := by
  refine List.pairwise_map.2 ((pairwise_sites scanning source).imp_of_mem fun hsite hnext hlt => ?_)
  obtain ⟨_, _, h⟩ := exists_foundIn_of_mem_sites hsite
  obtain ⟨_, _, h'⟩ := exists_foundIn_of_mem_sites hnext
  exact h.extent_relation h' hlt

/-! ## Lines -/

theorem lineAt_le_lineAt (cells : List Cell) {i j : Nat} (h : i ≤ j) :
    Site.lineAt cells i ≤ Site.lineAt cells j := by
  rw [Site.lineAt_add h]
  exact Nat.le_add_right _ _

/-- No line of the scanned text is behind the source. -/
theorem lineAt_le_lineCount (scanning : Scanning) (source : List Char) (index : Nat) :
    Site.lineAt (scanning.cells source) index ≤ lineCount source := by
  have hcount := count_feed_flatMap_cells (scanning.glyphs source)
  rw [← Scanning.cells_eq_flatMap, Scanning.map_char_glyphs] at hcount
  have htake := (List.take_sublist index ((scanning.cells source).map Cell.char)).count_le '\n'
  rw [Site.lineAt, lineCount, lineCount]
  omega

/-- **The lines of functions are in order, and lines of the source.** -/
theorem lines_read (scanning : Scanning) (source : String) :
    (read scanning source).functions.Pairwise (fun f g => f.startLine ≤ g.startLine) ∧
      ∀ f ∈ (read scanning source).functions,
        1 ≤ f.startLine ∧ f.startLine ≤ (read scanning source).totalLines := by
  rw [functions_read, List.pairwise_map]
  constructor
  · refine (pairwise_sites scanning source).imp fun hlt => lineAt_le_lineAt _ ?_
    omega
  · intro f hf
    obtain ⟨site, -, rfl⟩ := List.mem_map.1 hf
    rw [totalLines_read]
    exact ⟨Nat.le_add_left 1 _, lineAt_le_lineCount scanning source.toList site.start⟩

/-- **The structure of an extraction.** Each function of a contract is the part of the source that
its extent delimits. The functions start one after the other; the bodies of any two are apart, or one
is strictly inside the other; and the lines of the functions do not decrease and are lines of the
source. -/
theorem extraction_structure (scanning : Scanning) (source : String) :
    List.Forall₂ (fun (e : Extent) f => e.Delimits scanning source f)
      (extents scanning source) (read scanning source).functions ∧
    (extents scanning source).Pairwise (fun e e' => e.start < e'.start) ∧
    (extents scanning source).Pairwise (fun e e' => e.Apart e' ∨ e.Within e' ∨ e'.Within e) ∧
    (read scanning source).functions.Pairwise (fun f g => f.startLine ≤ g.startLine) ∧
    ∀ f ∈ (read scanning source).functions,
      1 ≤ f.startLine ∧ f.startLine ≤ (read scanning source).totalLines := by
  have hpairs := pairwise_extents scanning source
  refine ⟨?_, hpairs.imp And.left, hpairs.imp fun h => h.2.imp_right .inr,
    lines_read scanning source⟩
  rw [functions_read, extents, List.forall₂_map_left_iff, List.forall₂_map_right_iff,
    List.forall₂_same]
  intro site hsite
  obtain ⟨_, _, h⟩ := exists_foundIn_of_mem_sites hsite
  exact h.delimits _

end Contract

end GasAdvisor
