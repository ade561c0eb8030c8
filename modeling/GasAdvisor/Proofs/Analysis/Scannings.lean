import GasAdvisor.Analysis.Source
import GasAdvisor.Proofs.Contract.ByteMasking

/-!
# Sources that are scanned alike

A text in which no comment starts and no quote stands has nothing to hide (`NothingToHide`). A scanner
that looks for comments and literals never leaves the code of such a text, lone slashes and stars
included, so all its characters are visible (`NothingToHide.glyphs_eq`) and both ways of scanning lay it
out in the same cells (`NothingToHide.cells_eq`). All that is read off the cells is then the same, and
so is the analysis, whichever way of scanning it is set to (`scannings_coincide`).
-/

namespace GasAdvisor

open Text

/-- A source text in which no comment and no literal starts. -/
structure NothingToHide (source : List Char) : Prop where
  noLineComment : ¬ ['/', '/'] <:+: source
  noBlockComment : ¬ ['/', '*'] <:+: source
  noDoubleQuote : '"' ∉ source
  noSingleQuote : '\'' ∉ source

namespace NothingToHide

variable {c : Char} {source : List Char}

theorem tail (h : NothingToHide (c :: source)) : NothingToHide source where
  noLineComment hin := h.noLineComment (List.infix_cons hin)
  noBlockComment hin := h.noBlockComment (List.infix_cons hin)
  noDoubleQuote hmem := h.noDoubleQuote (List.mem_cons_of_mem c hmem)
  noSingleQuote hmem := h.noSingleQuote (List.mem_cons_of_mem c hmem)

/-- A slash is followed by no character with which it would start a comment. -/
theorem not_comment (h : NothingToHide (c :: source)) {d : Char} (hd : d = '/' ∨ d = '*')
    (rest : List Char) (hc : c = '/') (hrest : source = d :: rest) : False := by
  subst hc hrest
  have hfront : ['/', d] <+: '/' :: d :: rest := List.prefix_append ['/', d] rest
  rcases hd with rfl | rfl
  · exact h.noLineComment hfront.isInfix
  · exact h.noBlockComment hfront.isInfix

theorem not_quote (h : NothingToHide (c :: source)) : ¬ (c = '"' ∨ c = '\'') := by
  rintro (rfl | rfl)
  · exact h.noDoubleQuote List.mem_cons_self
  · exact h.noSingleQuote List.mem_cons_self

/-- **A text with nothing to hide is visible throughout.** -/
theorem glyphs_eq (h : NothingToHide source) : glyphs source = source.map fun c => ⟨c, true⟩ := by
  induction source with
  | nil => rfl
  | cons c source ih =>
    have hstay : glyphsIn .code (c :: source) = ⟨c, true⟩ :: glyphsIn .code source := by
      rw [glyphsIn, if_neg h.not_quote]
      · exact h.not_comment (.inl rfl)
      · exact h.not_comment (.inr rfl)
    have hrest : glyphsIn .code source = source.map fun c => ⟨c, true⟩ := ih h.tail
    rw [glyphs, hstay, hrest, List.map_cons]

/-- Both ways of scanning lay such a text out in the same cells. -/
theorem cells_eq (h : NothingToHide source) (scanning : Scanning) :
    scanning.cells source = Cell.ofText source := by
  have hglyphs : scanning.glyphs source = source.map fun c => ⟨c, true⟩ := by
    cases scanning with
    | text => rfl
    | masking => exact h.glyphs_eq
  rw [Scanning.cells_eq_flatMap, hglyphs]
  exact (Scanning.cells_eq_flatMap .text source).symm

theorem mask_eq (h : NothingToHide source) : mask source = source := by
  have hcells : Cell.ofMasked source = Cell.ofText source := h.cells_eq .masking
  rw [mask, hcells, Cell.map_char_ofText]

theorem read_eq {source : String} (h : NothingToHide source.toList) (scanning : Scanning) :
    Contract.read scanning source = Contract.read .text source := by
  rw [Contract.read, h.cells_eq]
  rfl

end NothingToHide

/-- **Where there is nothing to hide, all ways of scanning coincide**: masking changes nothing, on
characters and on bytes, the same contract is read, and an analyzer that is set to another way of
scanning gives the same analysis, however the functions are asked about. -/
theorem scannings_coincide (source : String) (h : NothingToHide source.toList) :
    mask source.toList = source.toList ∧
    maskThroughBytes source.toList = source.toList ∧
    maskBytes (encode source.toList) = encode source.toList ∧
    Contract.read .masking source = Contract.read .text source ∧
    ∀ (analyzer : Analyzer) (scanning : Scanning) (file : String) (costs : Costs),
      ({ analyzer with scanning } : Analyzer).analyze source file costs =
        analyzer.analyze source file costs ∧
      ∀ (m : Type → Type) [Monad m] (ask : Function → m Outcome),
        ({ analyzer with scanning } : Analyzer).analyzeAsking ask source file costs =
          analyzer.analyzeAsking ask source file costs := by
  refine ⟨h.mask_eq, ?_, ?_, h.read_eq .masking, fun analyzer scanning file costs => ?_⟩
  · rw [maskThroughBytes_eq_mask, h.mask_eq]
  · rw [maskBytes_encode, h.mask_eq]
  · have hread : Contract.read scanning source = Contract.read analyzer.scanning source := by
      rw [h.read_eq scanning, h.read_eq analyzer.scanning]
    have hasking (m : Type → Type) [Monad m] (ask : Function → m Outcome) :
        ({ analyzer with scanning } : Analyzer).analyzeAsking ask source file costs =
          analyzer.analyzeAsking ask source file costs := by
      simp only [Analyzer.analyzeAsking, hread]
      rfl
    refine ⟨?_, hasking⟩
    rw [Analyzer.analyze, hasking]
    rfl

/-- A source with lone slashes and stars, a backslash, and characters of several bytes. -/
def undisguisedSource : String :=
  "contract C \x7b\n  uint é; */ \\ / * \n  function f(uint a) public \x7b é = a / 2 * 3; \x7d\n\x7d /"

/-- Here slashes and stars stand next to other characters, but no comment starts. -/
theorem scannings_coincide_undisguised :
    NothingToHide undisguisedSource.toList ∧
    mask undisguisedSource.toList = undisguisedSource.toList ∧
    Contract.read .masking undisguisedSource = Contract.read .text undisguisedSource := by
  have h : NothingToHide undisguisedSource.toList := by
    constructor <;> decide +kernel
  obtain ⟨hmask, -, -, hread, -⟩ := scannings_coincide undisguisedSource h
  exact ⟨h, hmask, hread⟩

end GasAdvisor
