import GasAdvisor.Proofs.Decimal.Grouping
import GasAdvisor.Proofs.Render.Erasing
import GasAdvisor.Proofs.Json.Number
import GasAdvisor.Proofs.Text.Words
import GasAdvisor.Render.Terminal

/-!
# Marks

A mark is a character that only a look brings into a document (`Mark`): the escape character and the box
characters of the rules of tables. No text of the program has one (`Mark.lacks_of_absent`), and neither
have numbers and names, so a document has a mark only where a text of the batch or a rule has it. What a
text, a line or a document made of others lacks is told by the equations for simp.
-/

namespace GasAdvisor

open Text

/-! ## Texts, lines and documents without a character -/

section Lacks

variable {mark : Char}

@[simp] theorem lacks_append {a b : String} : Lacks mark (a ++ b) ↔ Lacks mark a ∧ Lacks mark b := by
  rw [Lacks, String.toList_append, List.mem_append, not_or]
  rfl

theorem lacks_ofList {text : List Char} : Lacks mark (String.ofList text) ↔ mark ∉ text := by
  rw [Lacks, String.toList_ofList]

@[simp] theorem lacks_ite {p : Prop} [Decidable p] {a b : String} :
    Lacks mark (if p then a else b) ↔ (p → Lacks mark a) ∧ (¬ p → Lacks mark b) := by
  by_cases h : p <;> simp [h]

namespace Span

@[simp] theorem text_bare (text : String) : (bare text).text = text := rfl

@[simp] theorem text_styled (style : Style) (text : String) : (styled style text).text = text := rfl

end Span

namespace Line

@[simp] theorem lacks_nil : Line.Lacks mark [] :=
  List.forall_mem_nil _

@[simp] theorem lacks_cons {span : Span} {line : Line} :
    Line.Lacks mark (span :: line) ↔ GasAdvisor.Lacks mark span.text ∧ line.Lacks mark :=
  List.forall_mem_cons

end Line

namespace Document

variable {line : Line} {document more : Document}

@[simp] theorem lacks_nil : Document.Lacks mark [] :=
  List.forall_mem_nil _

@[simp] theorem lacks_cons :
    Document.Lacks mark (line :: document) ↔ line.Lacks mark ∧ document.Lacks mark :=
  List.forall_mem_cons

@[simp] theorem lacks_append :
    Document.Lacks mark (document ++ more) ↔ document.Lacks mark ∧ more.Lacks mark :=
  List.forall_mem_append

@[simp] theorem lacks_ite {p : Prop} [Decidable p] {a b : Document} :
    Document.Lacks mark (if p then a else b) ↔ (p → a.Lacks mark) ∧ (¬ p → b.Lacks mark) := by
  by_cases h : p <;> simp [h]

theorem lacks_flatMap {α : Type} {items : List α} {lines : α → Document}
    (h : ∀ item ∈ items, (lines item).Lacks mark) : Document.Lacks mark (items.flatMap lines) := by
  intro line hline
  obtain ⟨item, hitem, hmem⟩ := List.mem_flatMap.1 hline
  exact h item hitem line hmem

theorem lacks_map {α : Type} {items : List α} {lineOf : α → Line}
    (h : ∀ item ∈ items, (lineOf item).Lacks mark) : Document.Lacks mark (items.map lineOf) := by
  intro line hline
  obtain ⟨item, hitem, rfl⟩ := List.mem_map.1 hline
  exact h item hitem

end Document

end Lacks

/-! ## Marks -/

/-- The characters that no text of the program has, the rules of tables apart. -/
inductive Mark where
  | escape
  | column
  | head
  deriving DecidableEq, Repr

namespace Mark

/-- The character of a mark. -/
def char : Mark → Char
  | .escape => Style.escape
  | .column => '│'
  | .head => '─'

/-- All marks. -/
def all : List Mark := [.escape, .column, .head]

theorem mem_all (mark : Mark) : mark ∈ all := by cases mark <;> decide

/-- Whether a text has no mark. -/
def absent (text : String) : Bool :=
  all.all fun mark => !text.toList.contains mark.char

/-- A text of the program has no mark. -/
theorem lacks_of_absent (mark : Mark) {text : String} (h : absent text = true) :
    Lacks mark.char text := by
  have hfree := List.all_eq_true.1 h mark mark.mem_all
  simpa [Lacks] using hfree

/-- A mark is no character of a number. -/
theorem char_ne {mark : Mark} {c : Char} (h : (c.isDigit || c = ',' || c = ' ') = true) :
    mark.char ≠ c := by
  rintro rfl
  cases mark <;> exact absurd h (by decide)

end Mark

namespace Terminal

variable (mark : Mark)

theorem char_not_mem_digits (n : Nat) : mark.char ∉ Decimal.digits n := fun hmem =>
  Mark.char_ne (by rw [Json.isDigit_of_mem_digits hmem]; rfl) rfl

theorem char_not_mem_groupDigits {digits : List Char} (h : mark.char ∉ digits) :
    mark.char ∉ Decimal.groupDigits digits := by
  have hcomma : mark.char ≠ ',' := Mark.char_ne (by decide)
  fun_induction Decimal.groupDigits digits with
  | case1 => exact h
  | case2 d => exact h
  | case3 d rest hne hgroup ih =>
    obtain ⟨hd, hrest⟩ : ¬ mark.char = d ∧ mark.char ∉ rest := by simpa using h
    simp [hd, hcomma, ih hrest]
  | case4 d rest hne hgroup ih =>
    obtain ⟨hd, hrest⟩ : ¬ mark.char = d ∧ mark.char ∉ rest := by simpa using h
    simp [hd, ih hrest]

@[simp] theorem lacks_number (n : Nat) : Lacks mark.char (number n) :=
  lacks_ofList.2 (char_not_mem_digits mark n)

@[simp] theorem lacks_grouped (n : Nat) : Lacks mark.char (grouped n) :=
  lacks_ofList.2 (char_not_mem_groupDigits mark (char_not_mem_digits mark n))

@[simp] theorem lacks_spaces (count : Nat) : Lacks mark.char (spaces count) := by
  refine lacks_ofList.2 fun hmem => ?_
  exact Mark.char_ne (by decide) (List.mem_replicate.1 hmem).2

@[simp] theorem lacks_alignLeft {width : Nat} {text : String} :
    Lacks mark.char (alignLeft width text) ↔ Lacks mark.char text := by
  simp [alignLeft]

@[simp] theorem lacks_alignRight {width : Nat} {text : String} :
    Lacks mark.char (alignRight width text) ↔ Lacks mark.char text := by
  simp [alignRight]

@[simp] theorem lacks_alignCenter {width : Nat} {text : String} :
    Lacks mark.char (alignCenter width text) ↔ Lacks mark.char text := by
  simp [alignCenter]

theorem lacks_listed {texts : List String} (h : ∀ text ∈ texts, Lacks mark.char text) :
    Lacks mark.char (listed texts) := by
  refine lacks_ofList.2 fun hmem => ?_
  rcases mem_join hmem with hcomma | ⟨characters, hcharacters, hmem⟩
  · have hfixed : Lacks mark.char ", " := mark.lacks_of_absent (by decide)
    exact hfixed hcomma
  · obtain ⟨text, htext, rfl⟩ := List.mem_map.1 hcharacters
    exact h text htext hmem

/-! ## Names -/

@[simp] theorem lacks_frameworkLabel (framework : Option Framework) :
    Lacks mark.char (frameworkLabel framework) := by
  rcases framework with _ | framework
  · exact mark.lacks_of_absent (by decide)
  · cases framework <;> exact mark.lacks_of_absent (by decide)

@[simp] theorem lacks_rank (rank : GasRank) : Lacks mark.char rank.keyword := by
  cases rank <;> exact mark.lacks_of_absent (by decide)

@[simp] theorem lacks_impact (impact : Impact) : Lacks mark.char impact.keyword := by
  cases impact <;> exact mark.lacks_of_absent (by decide)

@[simp] theorem lacks_visibility (visibility : Visibility) : Lacks mark.char visibility.keyword := by
  cases visibility <;> exact mark.lacks_of_absent (by decide)

@[simp] theorem lacks_patternKind (kind : PatternKind) : Lacks mark.char kind.keyword := by
  cases kind <;> exact mark.lacks_of_absent (by decide)

@[simp] theorem lacks_impactIcon (impact : Impact) : Lacks mark.char (impactIcon impact) := by
  cases impact <;> exact mark.lacks_of_absent (by decide)

@[simp] theorem lacks_originIcon (origin : Origin) : Lacks mark.char (originIcon origin) := by
  cases origin <;> exact mark.lacks_of_absent (by decide)

end Terminal

end GasAdvisor
