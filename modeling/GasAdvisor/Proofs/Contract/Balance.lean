import GasAdvisor.Proofs.Contract.Sites
import Mathlib.Data.List.Forall2

/-!
# The balance of extracted functions

The body of a function is delimited by counting braces, but its header is not: a parenthesised group
of the header may hold any text without a closing parenthesis. So the text of a function is balanced
exactly if the groups of its header are, read in a row (`Header.groups`); everything else in a header
is free of braces (`Header.filter_front`).

This holds of all functions of all sources, in both ways of scanning (`Site.LiesIn.balanced_text_iff`),
and there are sources with functions that are not balanced (`openGroupSource`).
-/

namespace GasAdvisor

open Text

/-! ## The braces of a header -/

/-- A text of a class without braces has none. -/
theorem filter_isBrace_of_class {p : Char → Bool} (hopen : p '{' = false) (hclose : p '}' = false)
    {s : List Char} (h : ∀ c ∈ s, p c = true) : s.filter isBrace = [] := by
  refine List.filter_eq_nil_iff.2 fun c hc hb => ?_
  have hbrace : c = '{' ∨ c = '}' := by simpa [isBrace] using hb
  rcases hbrace with rfl | rfl
  · simp [h _ hc] at hopen
  · simp [h _ hc] at hclose

theorem filter_isBrace_of_blank {s : List Char} (h : ∀ c ∈ s, isBlank c = true) :
    s.filter isBrace = [] :=
  filter_isBrace_of_class (by decide) (by decide) h

theorem filter_isBrace_of_word {s : List Char} (h : ∀ c ∈ s, isWord c = true) :
    s.filter isBrace = [] :=
  filter_isBrace_of_class (by decide) (by decide) h

/-- The text between the parentheses of a qualifier, empty if it has none. -/
def Qualifier.group (q : Qualifier) : List Char :=
  q.arguments.getD []

theorem Qualifier.WellFormed.filter_text {q : Qualifier} (h : q.WellFormed) :
    q.text.filter isBrace = q.group.filter isBrace := by
  have harguments : q.argumentsText.filter isBrace = q.group.filter isBrace := by
    unfold argumentsText group
    cases q.arguments with
    | none => rfl
    | some a => simp [isBrace]
  simp only [text, body, List.filter_append, filter_isBrace_of_blank h.lead,
    filter_isBrace_of_word h.word, filter_isBrace_of_blank h.gap, harguments, List.nil_append]

namespace Header

/-- The texts between the parentheses of a header, in a row. -/
def groups (h : Header) : List Char :=
  h.parameters ++ h.qualifiers.flatMap Qualifier.group

theorem filter_qualifiersText {qs : List Qualifier} (h : ∀ q ∈ qs, q.WellFormed) :
    (qs.flatMap Qualifier.text).filter isBrace = (qs.flatMap Qualifier.group).filter isBrace := by
  induction qs with
  | nil => rfl
  | cons q qs ih =>
    have hq : q.WellFormed := h q (by simp)
    have hqs := ih fun q' h' => h q' (by simp [h'])
    rw [List.flatMap_cons, List.flatMap_cons, List.filter_append, List.filter_append, hq.filter_text,
      hqs]

/-- **The braces of a header stand between its parentheses.** -/
theorem WellFormed.filter_front {h : Header} (hh : h.WellFormed) :
    h.front.filter isBrace = h.groups.filter isBrace := by
  have hkeyword : keyword.filter isBrace = [] := by decide
  have hopen : ['('].filter isBrace = [] := by decide
  have hclose : [')'].filter isBrace = [] := by decide
  simp only [front, groups, nameText, qualifiersText, List.filter_append, hkeyword, hopen, hclose,
    filter_isBrace_of_blank hh.gap, filter_isBrace_of_word hh.name,
    filter_isBrace_of_blank hh.nameGap, filter_isBrace_of_blank hh.bodyGap,
    filter_qualifiersText hh.qualifiers, List.nil_append, List.append_nil]

theorem WellFormed.balanced_front_iff {h : Header} (hh : h.WellFormed) :
    Balanced h.front ↔ Balanced h.groups := by
  rw [← balanced_filter_isBrace, hh.filter_front, balanced_filter_isBrace]

end Header

/-! ## The text of a function -/

namespace Site

variable {site : Site} {scan : List Char}

/-- **A function is balanced exactly if the groups of its header are.** -/
theorem LiesIn.balanced_text_iff (h : site.LiesIn scan) :
    Balanced site.text ↔ Balanced site.header.groups := by
  obtain ⟨t, ht, hclose⟩ := h.body
  have hbody : Balanced site.body := by rw [ht]; exact hclose.balanced
  rw [text, balanced_append_iff hbody, h.header.balanced_front_iff]

/-- A function starts with its keyword as a whole word. -/
theorem LiesIn.exists_text_eq_keyword (h : site.LiesIn scan) :
    ∃ rest, site.text = Header.keyword ++ rest ∧ Stops isWord rest := by
  refine ⟨site.header.gap ++ (site.header.name ++ site.header.nameGap ++ ['('] ++
    site.header.parameters ++ [')'] ++ site.header.qualifiersText ++ site.header.bodyGap ++
    site.body), ?_, stops_isWord_of_blank h.header.gap_ne h.header.gap⟩
  simp only [text, Header.front, Header.nameText, List.append_assoc]

end Site

/-- **The text of an extracted function**: it starts with the word `function`, ends with a closing
brace, and its braces are balanced exactly if those between the parentheses of its header are. The
text is the source code of the function, with hidden characters blanked if the source is masked. -/
theorem forall₂_scanned_balanced_iff (scanning : Scanning) (source : String) :
    List.Forall₂ (fun (site : Site) (f : Function) =>
        (scanning = .text → f.sourceCode.toList = site.scanned (scanning.cells source.toList)) ∧
        (∃ gs, gs <:+: scanning.glyphs source.toList ∧ gs.map Glyph.char = f.sourceCode.toList ∧
          (gs.flatMap Glyph.cells).map Cell.char = site.scanned (scanning.cells source.toList)) ∧
        (∃ rest, site.scanned (scanning.cells source.toList) = Header.keyword ++ rest ∧
          Stops isWord rest) ∧
        (site.scanned (scanning.cells source.toList)).getLast? = some '}' ∧
        (Balanced (site.scanned (scanning.cells source.toList)) ↔ Balanced site.header.groups))
      (Contract.sites scanning source) (Contract.read scanning source).functions := by
  rw [Contract.functions_read, List.forall₂_map_right_iff, List.forall₂_same]
  intro site hsite
  have h := Contract.liesIn_of_mem_sites hsite
  have hscan : site.scanned (scanning.cells source.toList) = site.text := h.scanned_eq
  obtain ⟨gs₁, gs, gs₂, hglyphs, -, hcells⟩ := h.exists_glyphs
  obtain ⟨t, ht⟩ := h.exists_text_eq_concat
  have hcode : (Cell.sourceOf (stretch (scanning.cells source.toList) site.start site.size)) =
      gs.map Glyph.char := by rw [hcells, sourceOf_flatMap_cells]
  refine ⟨?_, ⟨gs, ⟨gs₁, gs₂, hglyphs.symm⟩, ?_, ?_⟩, ?_, ?_, ?_⟩
  · rintro rfl
    rw [Site.function, String.toList_ofList, Site.scanned]
    rw [show Scanning.cells .text source.toList = Cell.ofText source.toList from rfl,
      Cell.stretch_ofText, Cell.sourceOf_ofText, Cell.map_char_ofText]
  · rw [Site.function, String.toList_ofList, hcode]
  · rw [Site.scanned, hcells]
  · rw [hscan]
    exact h.exists_text_eq_keyword
  · rw [hscan, ht, List.getLast?_concat]
  · rw [hscan]
    exact h.balanced_text_iff

/-- A source with a function whose header holds a brace that nothing closes. -/
def openGroupSource : String := "contract C \x7b function f(\x7b) \x7b\x7d \x7d"

/-- **Some functions are not balanced**, whatever the way of scanning: a brace between the
parentheses of a header is not counted when the body is delimited. -/
theorem groups_may_unbalance :
    (∃ site ∈ Contract.sites .text openGroupSource,
      ¬ Balanced (site.scanned (Scanning.text.cells openGroupSource.toList))) ∧
    (∃ site ∈ Contract.sites .masking openGroupSource,
      ¬ Balanced (site.scanned (Scanning.masking.cells openGroupSource.toList))) := by
  have key : ∀ scanning ∈ Scanning.all, ∃ site ∈ Contract.sites scanning openGroupSource,
      site.scanned (scanning.cells openGroupSource.toList) = "function f(\x7b) \x7b\x7d".toList := by
    decide +kernel
  have unbalanced : ¬ Balanced "function f(\x7b) \x7b\x7d".toList :=
    fun h => absurd h.closed (by decide)
  obtain ⟨site, hsite, htext⟩ := key .text (by decide)
  obtain ⟨site', hsite', htext'⟩ := key .masking (by decide)
  exact ⟨⟨site, hsite, htext ▸ unbalanced⟩, ⟨site', hsite', htext' ▸ unbalanced⟩⟩

end GasAdvisor
