import GasAdvisor.Proofs.Contract.Sites

/-!
# What a function is made of

In a text that is scanned as it stands, a function is made of the parts of its header and body alone
(`Site.function_ofText`): its place in the text only decides where its parts are looked up, and each
is found where the header says it is. What a single qualifier contributes is read off the qualifier
(`Qualifier.visibility?`, `Qualifier.mutability?`, `Qualifier.returns?`, `Qualifier.modifier?`).
-/

namespace GasAdvisor

open Text

theorem stretch_middle {α : Type} {s a b c : List α} {start : Nat} (hs : s = a ++ (b ++ c))
    (hstart : start = a.length) : stretch s start b.length = b := by
  rw [hs, hstart, ← List.append_assoc]
  exact stretch_append a b c

theorem sourceOf_stretch_ofText {s a b c : List Char} {start : Nat} (hs : s = a ++ (b ++ c))
    (hstart : start = a.length) :
    Cell.sourceOf (stretch (Cell.ofText s) start b.length) = b := by
  rw [Cell.stretch_ofText, Cell.sourceOf_ofText, stretch_middle hs hstart]

/-! ## Qualifiers -/

namespace Qualifier

/-- The word of a qualifier as a string. -/
def string (q : Qualifier) : String :=
  String.ofList q.word

/-- The visibility that a qualifier declares. -/
def visibility? (q : Qualifier) : Option Visibility :=
  Visibility.ofKeyword? q.string

/-- The mutability that a qualifier declares. -/
def mutability? (q : Qualifier) : Option Mutability :=
  Mutability.ofKeyword? q.string

/-- The text between the parentheses of a returns clause. -/
def returns? (q : Qualifier) : Option (List Char) :=
  if q.string = "returns" then q.arguments else none

/-- The text of a qualifier that is neither a keyword nor a returns clause. -/
def modifier? (q : Qualifier) : Option String :=
  if q.string ≠ "returns" ∧ q.visibility? = none ∧ q.mutability? = none then
    some (String.ofList (trim q.body))
  else none

end Qualifier

namespace PlacedQualifier

/-- **What is read at the places of qualifiers is read off the qualifiers**, if it is for each
qualifier that stands in the text. -/
theorem filterMap_place {β : Type} {s : List Char} {g : PlacedQualifier → Option β}
    {k : Qualifier → Option β}
    (hg : ∀ before q after, s = before ++ (q.text ++ after) → g ⟨before.length, q⟩ = k q)
    {qs : List Qualifier} {before after : List Char}
    (hs : s = before ++ (Qualifier.textOf qs ++ after)) :
    (place before.length qs).filterMap g = qs.filterMap k := by
  induction qs generalizing before with
  | nil => rfl
  | cons q qs ih =>
    have hsplit : s = before ++ (q.text ++ (Qualifier.textOf qs ++ after)) := by
      rw [hs, Qualifier.textOf, List.flatMap_cons, List.append_assoc]
      rfl
    have hnext := @ih (before ++ q.text) (by rw [hsplit, List.append_assoc])
    rw [List.length_append] at hnext
    rw [place, List.filterMap_cons, List.filterMap_cons, hg _ _ _ hsplit, hnext]

theorem isModifier_iff (p : PlacedQualifier) :
    p.isModifier = true ↔ p.qualifier.string ≠ "returns" ∧ p.qualifier.visibility? = none ∧
      p.qualifier.mutability? = none := by
  simp only [isModifier, Bool.and_eq_true, decide_eq_true_eq, Option.isNone_iff_eq_none, and_assoc]
  exact Iff.rfl

variable {s before after : List Char} {q : Qualifier}

theorem source_ofText (hs : s = before ++ (q.text ++ after)) :
    source (Cell.ofText s) ⟨before.length, q⟩ = q.body := by
  refine sourceOf_stretch_ofText (a := before ++ q.lead) (c := after) ?_ (by simp)
  rw [hs, Qualifier.text]
  simp only [List.append_assoc]

theorem argumentsSource?_ofText (hs : s = before ++ (q.text ++ after)) :
    argumentsSource? (Cell.ofText s) ⟨before.length, q⟩ = q.arguments := by
  unfold argumentsSource?
  cases ha : q.arguments with
  | none => rfl
  | some a =>
    refine congrArg some
      (sourceOf_stretch_ofText (a := before ++ q.lead ++ q.word ++ q.gap ++ ['('])
        (c := ')' :: after) ?_ ?_)
    · rw [hs, Qualifier.text, Qualifier.body, Qualifier.argumentsText, ha]
      simp only [List.append_assoc, List.cons_append, List.nil_append]
    · simp only [List.length_append, List.length_cons, List.length_nil]
      omega

end PlacedQualifier

/-! ## Functions -/

namespace Site

variable {site : Site} {s before after : List Char}

/-- What stands before and after the qualifiers of a function. -/
theorem exists_around_qualifiers (hs : s = before ++ (site.text ++ after))
    (hstart : site.start = before.length) :
    ∃ a b, s = a ++ (Qualifier.textOf site.header.qualifiers ++ b) ∧
      site.qualifiersStart = a.length := by
  refine ⟨before ++ (site.header.nameText ++ (site.header.parameters ++ [')'])),
    site.header.bodyGap ++ (site.body ++ after), ?_, ?_⟩
  · rw [hs, text, Header.front, Header.qualifiersText, Qualifier.textOf]
    simp only [List.append_assoc]
  · rw [qualifiersStart, parametersStart, hstart]
    simp only [List.length_append, List.length_cons, List.length_nil]
    omega

/-- What is read at the places of a function's qualifiers is read off the qualifiers. -/
theorem filterMap_qualifiers {β : Type} {g : PlacedQualifier → Option β}
    {k : Qualifier → Option β} (hs : s = before ++ (site.text ++ after))
    (hstart : site.start = before.length)
    (hg : ∀ before q after, s = before ++ (q.text ++ after) → g ⟨before.length, q⟩ = k q) :
    site.qualifiers.filterMap g = site.header.qualifiers.filterMap k := by
  obtain ⟨a, b, hab, ha⟩ := exists_around_qualifiers hs hstart
  rw [qualifiers, ha]
  exact PlacedQualifier.filterMap_place hg hab

theorem parameters_ofText (hs : s = before ++ (site.text ++ after))
    (hstart : site.start = before.length) :
    Cell.sourceOf (stretch (Cell.ofText s) site.parametersStart site.header.parameters.length) =
      site.header.parameters := by
  refine sourceOf_stretch_ofText (a := before ++ site.header.nameText)
    (c := ')' :: (site.header.qualifiersText ++ (site.header.bodyGap ++ (site.body ++ after)))) ?_ ?_
  · rw [hs, text, Header.front]
    simp only [List.append_assoc, List.cons_append, List.nil_append]
  · rw [parametersStart, hstart, List.length_append]

theorem returns_ofText (hs : s = before ++ (site.text ++ after))
    (hstart : site.start = before.length) :
    site.returns (Cell.ofText s) =
      (site.header.qualifiers.filterMap Qualifier.returns?).getLast?.map
        fun r => String.ofList (trim r) := by
  rw [returns, List.filterMap_filter]
  rw [filterMap_qualifiers (k := Qualifier.returns?) hs hstart]
  intro before q after hq
  change (if decide (q.string = "returns") = true then
    PlacedQualifier.argumentsSource? (Cell.ofText s) ⟨before.length, q⟩ else none) = _
  simp only [PlacedQualifier.argumentsSource?_ofText hq, Qualifier.returns?, decide_eq_true_eq]

theorem modifiers_ofText (hs : s = before ++ (site.text ++ after))
    (hstart : site.start = before.length) :
    site.modifiers (Cell.ofText s) = site.header.qualifiers.filterMap Qualifier.modifier? := by
  rw [modifiers, ← List.filterMap_eq_map, List.filterMap_filter]
  refine filterMap_qualifiers hs hstart fun before q after hq => ?_
  simp only [Function.comp, PlacedQualifier.source_ofText hq, PlacedQualifier.isModifier_iff,
    Qualifier.modifier?]

/-- **A function in a text is made of the parts of its header and body.** -/
theorem function_ofText (hs : s = before ++ (site.text ++ after))
    (hstart : site.start = before.length) (line : Nat) :
    site.function (Cell.ofText s) line =
      { name := String.ofList site.header.name
        visibility := (site.header.qualifiers.filterMap Qualifier.visibility?).head?.getD .public
        mutability :=
          (site.header.qualifiers.filterMap Qualifier.mutability?).head?.getD .nonpayable
        parameters := Parameter.ofList site.header.parameters
        returns := (site.header.qualifiers.filterMap Qualifier.returns?).getLast?.map
          fun r => String.ofList (trim r)
        modifiers := site.header.qualifiers.filterMap Qualifier.modifier?
        patterns := Pattern.detect site.text
        sourceCode := String.ofList site.text
        startLine := line
        complexity := Function.complexityOf (Pattern.detect site.text) } := by
  have hvisibility : site.visibility =
      (site.header.qualifiers.filterMap Qualifier.visibility?).head?.getD .public := by
    rw [visibility, ← List.head?_filterMap,
      filterMap_qualifiers (k := Qualifier.visibility?) hs hstart fun _ _ _ _ => rfl]
    rfl
  have hmutability : site.mutability =
      (site.header.qualifiers.filterMap Qualifier.mutability?).head?.getD .nonpayable := by
    rw [mutability, ← List.head?_filterMap,
      filterMap_qualifiers (k := Qualifier.mutability?) hs hstart fun _ _ _ _ => rfl]
    rfl
  have hcode : Cell.sourceOf (stretch (Cell.ofText s) site.start site.size) = site.text := by
    rw [← length_text]
    exact sourceOf_stretch_ofText hs hstart
  have hscanned : site.scanned (Cell.ofText s) = site.text := by
    rw [scanned, Cell.stretch_ofText, Cell.map_char_ofText, ← length_text]
    exact stretch_middle hs hstart
  rw [function, hvisibility, hmutability, hcode, hscanned, parameters_ofText hs hstart,
    returns_ofText hs hstart, modifiers_ofText hs hstart]

end Site

end GasAdvisor
