import Mathlib
import GasAdvisor.Render.Plain
import GasAdvisor.Proofs.Text.Shapes

/-!
# Erasing styles

Deleting the escape sequences of a rendered document leaves its plain rendering, whatever its look, if
no text of the document has an escape character (`erase_render`). Deleting goes from left to right: a
sequence at the front is passed over whole (`erase_sequence_append`), and a text without escape
characters is kept (`erase_append_of_not_mem`).
-/

namespace GasAdvisor

open Text

namespace Style

/-! ## Sequences and texts -/

theorem anySequence_sequence_append {codes : List Char} (h : ∀ c ∈ codes, isCode c = true)
    (before : Option Char) (rest : List Char) :
    anySequence before (sequence codes ++ rest) = some (sequence codes, rest) := by
  have hstop : Stops isCode ('m' :: rest) := stops_cons.2 (by decide)
  have htake : (codes ++ 'm' :: rest).takeWhile isCode = codes := takeWhile_append_of_stop h hstop
  have hdrop : (codes ++ 'm' :: rest).dropWhile isCode = 'm' :: rest :=
    dropWhile_append_of_stop h hstop
  simp [anySequence, Shape.seq, Shape.andThen, Shape.one, Shape.many, sequence, htake, hdrop]

theorem anySequence_cons_of_ne {c : Char} (h : c ≠ escape) (before : Option Char)
    (rest : List Char) : anySequence before (c :: rest) = none := by
  simp [anySequence, Shape.seq, Shape.andThen, Shape.one, h]

theorem eraseFrom_length_append (a b : List Char) : eraseFrom a.length (a ++ b) = erase b := by
  induction a with
  | nil => rfl
  | cons c a ih => exact ih

/-- **A sequence at the front is deleted whole.** -/
theorem erase_sequence_append {codes : List Char} (h : ∀ c ∈ codes, isCode c = true)
    (rest : List Char) : erase (sequence codes ++ rest) = erase rest := by
  have hsequence := anySequence_sequence_append h none rest
  obtain ⟨tail, htail⟩ : ∃ tail, sequence codes = escape :: tail := ⟨_, rfl⟩
  rw [htail, List.cons_append] at hsequence ⊢
  rw [erase, eraseFrom, hsequence]
  exact eraseFrom_length_append tail rest

/-- **A text without escape characters is kept.** -/
theorem erase_append_of_not_mem {text : List Char} (h : escape ∉ text) (rest : List Char) :
    erase (text ++ rest) = text ++ erase rest := by
  induction text with
  | nil => rfl
  | cons c text ih =>
    obtain ⟨hc, htext⟩ : ¬ escape = c ∧ escape ∉ text := by simpa using h
    rw [List.cons_append, erase, eraseFrom, anySequence_cons_of_ne (Ne.symm hc)]
    exact congrArg (c :: ·) (ih htext)

/-- The sequence that ends a style stands in no text without escape characters. -/
theorem insertAfter_reset_of_not_mem {text : List Char} (h : escape ∉ text) (added : List Char) :
    insertAfter reset added 0 text = text := by
  induction text with
  | nil => rfl
  | cons c text ih =>
    obtain ⟨hc, htext⟩ : ¬ escape = c ∧ escape ∉ text := by simpa using h
    have hfront : ¬ reset.isPrefixOf (c :: text) = true := by
      simp [reset, sequence, List.isPrefixOf, hc]
    rw [insertAfter, if_neg hfront, ih htext]

theorem isCode_of_mem_codes (style : Style) : ∀ c ∈ style.codes.toList, isCode c = true := by
  have hcodes : style.codes.toList.all isCode = true := by cases style <;> decide
  exact List.all_eq_true.1 hcodes

/-- **Of a painted text the text itself is left.** -/
theorem erase_paint_append (style : Style) {text : List Char} (h : escape ∉ text)
    (rest : List Char) : erase (style.paint text ++ rest) = text ++ erase rest := by
  have hreset : ∀ c ∈ ['0'], isCode c = true := List.all_eq_true.1 (by decide)
  rw [paint, insertAfter_reset_of_not_mem h, List.append_assoc, List.append_assoc, start,
    erase_sequence_append (isCode_of_mem_codes style), erase_append_of_not_mem h, reset,
    erase_sequence_append hreset]

end Style

/-! ## Documents -/

/-- Whether a text does not have a character. -/
def Lacks (mark : Char) (text : String) : Prop :=
  mark ∉ text.toList

/-- Whether no text of a line has a character. -/
def Line.Lacks (mark : Char) (line : Line) : Prop :=
  ∀ span ∈ line, GasAdvisor.Lacks mark span.text

/-- Whether no text of a document has a character. -/
def Document.Lacks (mark : Char) (document : Document) : Prop :=
  ∀ line ∈ document, line.Lacks mark

theorem Span.render_plain (span : Span) : span.render .plain = span.text.toList := rfl

theorem Span.erase_render_append (look : Look) {span : Span} (h : Lacks Style.escape span.text)
    (rest : List Char) :
    Style.erase (span.render look ++ rest) = span.render .plain ++ Style.erase rest := by
  obtain ⟨style, text⟩ := span
  cases style with
  | none => cases look <;> exact Style.erase_append_of_not_mem h rest
  | some style =>
    cases look with
    | plain => exact Style.erase_append_of_not_mem h rest
    | boxed => exact Style.erase_append_of_not_mem h rest
    | colored => exact Style.erase_paint_append style h rest

namespace Document

theorem erase_renderLine_append (look : Look) {line : Line} (h : line.Lacks Style.escape)
    (rest : List Char) :
    Style.erase (renderLine look line ++ rest) = renderLine .plain line ++ Style.erase rest := by
  have hfeed : Style.escape ∉ ['\n'] := by decide
  induction line with
  | nil => exact Style.erase_append_of_not_mem hfeed rest
  | cons span line ih =>
    obtain ⟨hspan, hline⟩ := List.forall_mem_cons.1 h
    rw [renderLine, renderLine, List.flatMap_cons, List.flatMap_cons, List.append_assoc,
      List.append_assoc, List.append_assoc, List.append_assoc, Span.erase_render_append look hspan,
      ← List.append_assoc (line.flatMap _), ← List.append_assoc (line.flatMap _)]
    exact congrArg (span.render .plain ++ ·) (ih hline)

/-- The characters of a document without a look. -/
def plain (document : Document) : List Char :=
  document.flatMap (renderLine .plain)

theorem toList_render_plain (document : Document) :
    (document.render .plain).toList = document.plain :=
  String.toList_ofList

/-- **Deleting the sequences of a rendered document leaves its plain rendering.** -/
theorem erase_render (look : Look) {document : Document} (h : document.Lacks Style.escape) :
    Style.erase (document.render look).toList = document.plain := by
  rw [render, String.toList_ofList]
  induction document with
  | nil => rfl
  | cons line document ih =>
    obtain ⟨hline, hdocument⟩ := List.forall_mem_cons.1 h
    rw [List.flatMap_cons, erase_renderLine_append look hline, ih hdocument]
    rfl

end Document

end GasAdvisor
