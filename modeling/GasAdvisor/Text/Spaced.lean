import GasAdvisor.Text.CharClass

/-!
# Spaced parts

Parts of a text that stand one after the other with white space between them. How much white space
stands there, and of which characters, is left open, and so is the white space at both ends of the
text (`Spaced`). The parts are not restricted: they may have white space of their own.
-/

namespace GasAdvisor.Text

/-- A text that starts with the first of some parts. Each part is followed by white space, which is
empty only after the last one. -/
inductive InRow : List (List Char) → List Char → Prop where
  | nil : InRow [] []
  | cons {part gap rest : List Char} {parts : List (List Char)} (hgap : ∀ c ∈ gap, isBlank c = true)
      (hsep : parts ≠ [] → gap ≠ []) (h : InRow parts rest) :
      InRow (part :: parts) (part ++ (gap ++ rest))

/-- A text that consists of some parts, with white space between them and possibly around them. -/
def Spaced (parts : List (List Char)) (text : List Char) : Prop :=
  ∃ lead row, (∀ c ∈ lead, isBlank c = true) ∧ InRow parts row ∧ text = lead ++ row

end GasAdvisor.Text
