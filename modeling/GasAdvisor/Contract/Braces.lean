/-!
# The depth of braces

The depth of a text is the number of its opening braces less the number of its closing ones. A text
is balanced if no part of it from the front closes more braces than it opens, and all that it opens
are closed at its end.
-/

namespace GasAdvisor

/-- The depth of braces after a text that starts at depth zero. -/
def braceDepth (text : List Char) : Int :=
  (text.count '{' : Int) - text.count '}'

/-- A text whose running depth of braces is never negative and ends at zero. -/
structure Balanced (text : List Char) : Prop where
  nonneg : ∀ front, front <+: text → 0 ≤ braceDepth front
  closed : braceDepth text = 0

end GasAdvisor
