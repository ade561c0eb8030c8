import Mathlib
import GasAdvisor.Proofs.Contract.Masked

/-!
# How a function stands in the source

The header of a function is found in the scanned text, where comments have become white space; its text is
taken from the source. So the source of a function is set apart where the scanned text is: before and
after its name, at the first parenthesis and at the brace that opens the body (`Declared`,
`Site.LiesIn.exists_declared`).

* The name stands in the source as it stands in the scanned text, and no word goes on before it
  (`Declared.IsOf.endsWords`): what hides the characters before it can only be a block comment, and that
  ends with a slash.
* The declaration is plain, with white space alone between the name and the parenthesis, exactly if
  nothing there is hidden (`Declared.IsOf.isPlain_iff`), which is always so if the text is scanned as it
  stands.

Both rest on the same fact: what is visible of a word lies in code (`wordsLieInCode_glyphsIn`).
-/

namespace GasAdvisor

open Text

/-! ## Around the characters of words -/

/-- A place in glyphs that start in a region lies in code: the text after it starts in code, and of hidden
characters only the end of a block comment stands just before it. -/
structure LiesInCode (region : Region) (before after : List Glyph) : Prop where
  region_eq : before = [] → region = .code
  slash : ∀ g ∈ before.getLast?, g.visible = false → g.char = '/'
  code : after = glyphsIn .code (after.map Glyph.char)

/-- Of glyphs that start in a region, those that are visible characters of words lie in code. -/
def WordsLieInCode (region : Region) (gs : List Glyph) : Prop :=
  ∀ before c after, isWord c = true → gs = before ++ ⟨c, true⟩ :: after →
    LiesInCode region before after

namespace WordsLieInCode

variable {region region' : Region} {gs : List Glyph} {g : Glyph} {c d : Char}

/-- A glyph before others. If it is a visible character of a word, it lies in code itself; and if it is
hidden, it ends a block comment or what follows starts in no code. -/
theorem cons (hrest : WordsLieInCode region' gs)
    (hword : g.visible = true → isWord g.char = true →
      region = .code ∧ gs = glyphsIn .code (gs.map Glyph.char))
    (hhidden : g.visible = false → region' ≠ .code ∨ g.char = '/') :
    WordsLieInCode region (g :: gs) := by
  intro before c after hc h
  rcases List.cons_eq_append_iff.1 h with ⟨rfl, hfront⟩ | ⟨before, rfl, hgs⟩
  · obtain ⟨rfl, rfl⟩ := List.cons.inj hfront
    obtain ⟨hregion, hafter⟩ := hword rfl hc
    exact ⟨fun _ => hregion, nofun, hafter⟩
  · have hplace := hrest before c after hc hgs
    refine ⟨nofun, ?_, hplace.code⟩
    cases before with
    | nil =>
      intro g' hg' hinvisible
      obtain rfl : g = g' := Option.some.inj hg'
      exact (hhidden hinvisible).resolve_left (not_not_intro (hplace.region_eq rfl))
    | cons g₁ before =>
      rw [List.getLast?_cons_cons]
      exact hplace.slash

theorem cons_hidden (hrest : WordsLieInCode region' gs) (hend : region' ≠ .code ∨ c = '/') :
    WordsLieInCode region (⟨c, false⟩ :: gs) :=
  hrest.cons (fun hvisible => by cases hvisible) fun _ => hend

/-- Of two hidden characters only the second one can end a block comment. -/
theorem cons_hidden_hidden (hrest : WordsLieInCode region' gs) (hend : region' ≠ .code ∨ d = '/') :
    WordsLieInCode region (⟨c, false⟩ :: ⟨d, false⟩ :: gs) := by
  have hmiddle : WordsLieInCode .blockComment (⟨d, false⟩ :: gs) := hrest.cons_hidden hend
  exact hmiddle.cons_hidden (.inl (by simp))

/-- A visible character that belongs to no word. -/
theorem cons_visible (hrest : WordsLieInCode region' gs) (hc : isWord c = false) :
    WordsLieInCode region (⟨c, true⟩ :: gs) :=
  hrest.cons (fun _ hword => by rw [hc] at hword; cases hword) fun hhidden => by cases hhidden

/-- Where only line feeds are visible. -/
theorem cons_unless_feed (hrest : WordsLieInCode region' gs) (hregion : region' ≠ .code) :
    WordsLieInCode region (⟨c, c = '\n'⟩ :: gs) := by
  by_cases hfeed : c = '\n'
  · rw [decide_eq_true hfeed]
    exact hrest.cons_visible (hfeed ▸ by decide)
  · rw [decide_eq_false hfeed]
    exact hrest.cons_hidden (.inl hregion)

end WordsLieInCode

/-- **What is visible of a word lies in code.** -/
theorem wordsLieInCode_glyphsIn (region : Region) (source : List Char) (hq : region.Quoted) :
    WordsLieInCode region (glyphsIn region source) := by
  fun_induction glyphsIn region source with
  | case1 => intro before c after hc h; simp at h
  | case2 rest ih => exact (ih hq).cons_hidden_hidden (.inl (by simp))
  | case3 rest ih => exact (ih hq).cons_hidden_hidden (.inl (by simp))
  | case4 c rest _ _ ih =>
    have hrest : Region.Quoted (if c = '"' ∨ c = '\'' then .literal c else .code) := by
      split
      · next hquote => exact hquote
      · trivial
    refine (ih hrest).cons (fun _ hc => ⟨rfl, ?_⟩) fun hhidden => by cases hhidden
    -- no quote belongs to a word
    have hplain : ¬ (c = '"' ∨ c = '\'') := by
      rintro (rfl | rfl) <;> exact absurd hc (by decide)
    rw [if_neg hplain, map_char_glyphsIn]
  | case5 rest ih => exact (ih hq).cons_visible (by decide)
  | case6 c rest hc ih => exact (ih hq).cons_hidden (.inl (by simp))
  | case7 rest ih => exact (ih hq).cons_hidden_hidden (.inr rfl)
  | case8 c rest _ ih => exact (ih hq).cons_unless_feed (by simp)
  | case9 quote c rest ih => exact (ih hq).cons_hidden_hidden (.inl (by simp))
  | case10 quote rest _ ih =>
    refine (ih trivial).cons_visible ?_
    rcases hq with rfl | rfl <;> decide
  | case11 quote c rest _ hc ih => exact (ih hq).cons_unless_feed (by simp)

/-! ## White space after a word -/

/-- White space in code is visible. -/
theorem visible_of_blank_code {gap rest : List Glyph}
    (h : gap ++ rest = glyphsIn .code ((gap ++ rest).map Glyph.char))
    (hgap : ∀ g ∈ gap, isBlank g.char = true) : ∀ g ∈ gap, g.visible = true := by
  induction gap with
  | nil => nofun
  | cons g gap ih =>
    obtain ⟨hg, hgap⟩ := List.forall_mem_cons.1 hgap
    have hslash : g.char ≠ '/' := fun he => absurd (he ▸ hg) (by decide)
    have hquote : ¬ (g.char = '"' ∨ g.char = '\'') := by
      rintro (he | he) <;> exact absurd (he ▸ hg) (by decide)
    rw [List.cons_append, List.map_cons, glyphsIn, if_neg hquote] at h
    · obtain ⟨hvisible, hrest⟩ := List.cons.inj h
      exact List.forall_mem_cons.2 ⟨by rw [hvisible], ih hrest hgap⟩
    · exact fun _ he => absurd he hslash
    · exact fun _ he => absurd he hslash

namespace Scanning

variable {scanning : Scanning} {source : List Char} {before after gap rest : List Glyph} {c : Char}

theorem visible_of_mem_glyphs_text {g : Glyph} (h : g ∈ glyphs .text source) : g.visible = true := by
  obtain ⟨c, -, rfl⟩ := List.mem_map.1 h
  rfl

/-- What is hidden just before a word ends with a slash. -/
theorem eq_slash_before_word (hc : isWord c = true)
    (h : scanning.glyphs source = before ++ ⟨c, true⟩ :: after) :
    ∀ g ∈ before.getLast?, g.visible = false → g.char = '/' := by
  cases scanning with
  | masking => exact (wordsLieInCode_glyphsIn .code source trivial before c after hc h).slash
  | text =>
    intro g hg hhidden
    have hmem : g ∈ glyphs .text source := by
      rw [h]
      exact List.mem_append_left _ (List.mem_of_getLast? hg)
    rw [visible_of_mem_glyphs_text hmem] at hhidden
    cases hhidden

/-- White space just after a word is visible. -/
theorem visible_after_word (hc : isWord c = true)
    (h : scanning.glyphs source = before ++ ⟨c, true⟩ :: (gap ++ rest))
    (hgap : ∀ g ∈ gap, isBlank g.char = true) : ∀ g ∈ gap, g.visible = true := by
  cases scanning with
  | masking =>
    exact visible_of_blank_code
      (wordsLieInCode_glyphsIn .code source trivial before c (gap ++ rest) hc h).code hgap
  | text =>
    intro g hg
    have hmem : g ∈ glyphs .text source := by
      rw [h]
      simp only [List.mem_append, List.mem_cons, hg, true_or, or_true]
    exact visible_of_mem_glyphs_text hmem

end Scanning

/-! ## Setting a function apart -/

/-- A text without spaces at the front of a blanked text stands there in visible glyphs. -/
theorem exists_glyphs_of_append {gs : List Glyph} {w v : List Char} (hw : ' ' ∉ w)
    (h : blanked gs = w ++ v) :
    ∃ after, gs = w.map (⟨·, true⟩) ++ after ∧ blanked after = v := by
  induction w generalizing gs with
  | nil => exact ⟨gs, rfl, h⟩
  | cons c w ih =>
    obtain ⟨hc, hfree⟩ : ¬ ' ' = c ∧ ' ' ∉ w := by simpa using hw
    cases gs with
    | nil => cases h
    | cons g gs =>
      obtain ⟨d, visible⟩ := g
      cases visible with
      | true =>
        rw [blanked_cons_visible, List.cons_append] at h
        obtain ⟨rfl, hgs⟩ := List.cons.inj h
        obtain ⟨after, rfl, hafter⟩ := ih hfree hgs
        exact ⟨after, rfl, hafter⟩
      | false =>
        -- a hidden character would start with a space
        obtain ⟨n, hn⟩ := Nat.exists_eq_succ_of_ne_zero (width_pos d).ne'
        rw [blanked_cons_hidden, hn, List.replicate_succ, List.cons_append, List.cons_append] at h
        exact absurd (List.cons.inj h).1 hc

/-- The glyphs of a function, set apart before and after its name, at its first parenthesis and at the
brace that opens its body. -/
structure Declared where
  lead : List Glyph
  name : List Char
  gap : List Glyph
  /-- What stands between the parenthesis and the brace. -/
  rest : List Glyph
  /-- What stands after the brace. -/
  body : List Glyph

namespace Declared

/-- All glyphs of a function. -/
def whole (d : Declared) : List Glyph :=
  d.lead ++ (d.name.map (⟨·, true⟩) ++ (d.gap ++ ⟨'(', true⟩ :: (d.rest ++ ⟨'{', true⟩ :: d.body)))

/-- The source of a function up to the brace that opens its body. -/
def head (d : Declared) : List Char :=
  d.lead.map Glyph.char ++ (d.name ++ (d.gap.map Glyph.char ++ '(' :: d.rest.map Glyph.char))

/-- The source of a function from that brace on. -/
def block (d : Declared) : List Char :=
  '{' :: d.body.map Glyph.char

/-- Between the name of a function and its parenthesis stands white space alone. -/
def IsPlain (d : Declared) : Prop :=
  ∀ c ∈ d.gap.map Glyph.char, isBlank c = true

theorem map_char_whole (d : Declared) : d.whole.map Glyph.char = d.head ++ d.block := by
  simp [whole, head, block, Function.comp_def]

/-- A function is set apart where the scanned text of a site is. -/
structure IsOf (d : Declared) (site : Site) : Prop where
  lead : blanked d.lead = Header.keyword ++ site.header.gap
  name : d.name = site.header.name
  gap : blanked d.gap = site.header.nameGap
  rest : blanked d.rest =
    site.header.parameters ++ [')'] ++ site.header.qualifiersText ++ site.header.bodyGap
  body : '{' :: blanked d.body = site.body

end Declared

/-- **The source of a function can be set apart where its scanned text is.** -/
theorem Site.LiesIn.exists_declared {site : Site} {scanning : Scanning} {source : List Char}
    (h : site.LiesIn (scanning.scan source)) :
    ∃ d : Declared, d.IsOf site ∧ d.whole <:+: scanning.glyphs source ∧
      Cell.sourceOf (stretch (scanning.cells source) site.start site.size) = d.head ++ d.block := by
  obtain ⟨gs₁, gs, gs₂, hglyphs, -, hcells⟩ := h.exists_glyphs
  have htext : blanked gs = site.text := by
    rw [blanked, ← hcells]
    exact h.scanned_eq
  obtain ⟨t, ht, -⟩ := h.body
  obtain ⟨c, name, hname⟩ := List.exists_cons_of_ne_nil h.header.name_ne
  have hword := h.header.name
  rw [hname] at hword
  have hnospace {w : List Char} (hw : ∀ c ∈ w, isWord c = true) : ' ' ∉ w := fun hmem =>
    absurd (hw ' ' hmem) (by decide)
  have hsplit : site.text = (Header.keyword ++ site.header.gap) ++ c :: (name ++
      (site.header.nameGap ++ '(' :: ((site.header.parameters ++ [')'] ++
        site.header.qualifiersText ++ site.header.bodyGap) ++ '{' :: t))) := by
    rw [text, ht]
    simp only [Header.front, Header.nameText, hname, List.append_assoc, List.cons_append,
      List.nil_append]
  obtain ⟨hc, hwords⟩ := List.forall_mem_cons.1 hword
  obtain ⟨lead, afterLead, rfl, hlead, hafterLead⟩ :=
    exists_glyph_of_char (htext.trans hsplit) fun he => absurd (he ▸ hc) (by decide)
  obtain ⟨afterName, rfl, hafterName⟩ := exists_glyphs_of_append (hnospace hwords) hafterLead
  obtain ⟨gap, afterGap, rfl, hgap, hafterGap⟩ := exists_glyph_of_char hafterName (by decide)
  obtain ⟨rest, body, rfl, hrest, hbody⟩ := exists_glyph_of_char hafterGap (by decide)
  refine ⟨⟨lead, c :: name, gap, rest, body⟩, ⟨hlead, hname.symm, hgap, hrest, ?_⟩, ?_, ?_⟩
  · rw [hbody, ht]
  · exact ⟨gs₁, gs₂, hglyphs.symm⟩
  · rw [hcells, sourceOf_flatMap_cells, ← Declared.map_char_whole]
    rfl

namespace Declared

variable {d : Declared} {site : Site} {scanning : Scanning} {source : List Char}

/-- **No word goes on before the name of a function in the source.** -/
theorem IsOf.endsWords (h : d.IsOf site) (hheader : site.header.WellFormed)
    (hin : d.whole <:+: scanning.glyphs source) : EndsWords (d.lead.map Glyph.char) := by
  obtain ⟨gs₁, gs₂, hglyphs⟩ := hin
  obtain ⟨c, name, hname⟩ := List.exists_cons_of_ne_nil (h.name ▸ hheader.name_ne)
  have hc : isWord c = true := hheader.name c (h.name ▸ hname ▸ List.mem_cons_self)
  obtain ⟨lead, g, hlead⟩ : ∃ lead g, d.lead = lead ++ [g] := by
    rcases List.eq_nil_or_concat' d.lead with hnil | hconcat
    · have hkeyword := h.lead
      rw [hnil] at hkeyword
      cases hkeyword
    · exact hconcat
  obtain ⟨char, visible⟩ := g
  rw [EndsWords, hlead, List.map_append, List.map_singleton, List.getLast?_concat, Option.any_some]
  cases visible with
  | true =>
    -- it ends the white space after the keyword
    have hlast := congrArg List.getLast? h.lead
    rw [hlead, blanked_append, blanked_cons_visible, blanked_nil, List.getLast?_concat,
      List.getLast?_append, List.getLast?_eq_some_getLast hheader.gap_ne, Option.some_or] at hlast
    refine isWord_eq_false_of_isBlank ?_
    rw [Option.some.inj hlast]
    exact hheader.gap _ (List.getLast_mem hheader.gap_ne)
  | false =>
    have hplace : scanning.glyphs source = (gs₁ ++ d.lead) ++ ⟨c, true⟩ ::
        (name.map (⟨·, true⟩) ++ (d.gap ++ ⟨'(', true⟩ :: (d.rest ++ ⟨'{', true⟩ :: d.body)) ++ gs₂) := by
      rw [← hglyphs, whole, hname]
      simp only [List.map_cons, List.append_assoc, List.cons_append]
    have hlast : (⟨char, false⟩ : Glyph) ∈ (gs₁ ++ d.lead).getLast? := by
      rw [hlead, ← List.append_assoc, List.getLast?_concat]
      rfl
    obtain rfl : char = '/' := Scanning.eq_slash_before_word hc hplace _ hlast rfl
    decide

/-- **A declaration is plain exactly if nothing is hidden between the name and the parenthesis.** -/
theorem IsOf.isPlain_iff (h : d.IsOf site) (hheader : site.header.WellFormed)
    (hin : d.whole <:+: scanning.glyphs source) : d.IsPlain ↔ ∀ g ∈ d.gap, g.visible = true := by
  constructor
  · intro hblank
    obtain ⟨gs₁, gs₂, hglyphs⟩ := hin
    obtain ⟨name, c, hname⟩ : ∃ name c, d.name = name ++ [c] :=
      (List.eq_nil_or_concat' d.name).resolve_left (h.name ▸ hheader.name_ne)
    have hc : isWord c = true :=
      hheader.name c (h.name ▸ hname ▸ List.mem_append_right _ (List.mem_singleton_self c))
    have hplace : scanning.glyphs source =
        (gs₁ ++ (d.lead ++ name.map (⟨·, true⟩))) ++ ⟨c, true⟩ ::
          (d.gap ++ (⟨'(', true⟩ :: (d.rest ++ ⟨'{', true⟩ :: d.body) ++ gs₂)) := by
      rw [← hglyphs, whole, hname]
      simp only [List.map_append, List.map_cons, List.map_nil, List.append_assoc, List.cons_append,
        List.nil_append]
    exact Scanning.visible_after_word hc hplace fun g hg => hblank _ (List.mem_map_of_mem hg)
  · intro hvisible c hc
    rw [← blanked_of_visible hvisible, h.gap] at hc
    exact hheader.nameGap c hc

/-- A declaration is plain in a text that is scanned as it stands. -/
theorem IsOf.isPlain_of_text (h : d.IsOf site) (hheader : site.header.WellFormed)
    (hin : d.whole <:+: Scanning.glyphs .text source) : d.IsPlain := by
  refine (h.isPlain_iff hheader hin).2 fun g hg => ?_
  have hmem : g ∈ d.whole := by
    simp only [whole, List.mem_append, hg, true_or, or_true]
  exact Scanning.visible_of_mem_glyphs_text (hin.subset hmem)

end Declared

end GasAdvisor
