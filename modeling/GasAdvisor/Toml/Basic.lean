import GasAdvisor.Toml.Fault

/-!
# TOML values

Every value knows the stretch of the text that wrote it, and every key of a table as well. The
entries of a table stand in ascending order of their keys.

A table remembers how it came to be, since that decides what may be added to it later:

* `header`: by a header of its own, or as an element of an array of tables; nothing may define it
  again.
* `implied`: by a header that names something inside it; a header of its own may still follow.
* `dotted`: by a dotted key; further dotted keys may add to it.
* `inline`: by a value in braces, which is complete.

A table with a header is written by that header, and an implied or dotted one by the part of the
first key that names it.
-/

namespace GasAdvisor

namespace Toml

/-- How a table came to be. -/
inductive TableForm where
  | header
  | implied
  | dotted
  | inline
  deriving DecidableEq, Repr

/-- A key of a table, with the stretch of the text that wrote it. -/
structure Key where
  name : String
  stretch : Stretch
  deriving DecidableEq, Repr

end Toml

open Toml in
/-- A TOML value. A number that is out of range has no value. -/
inductive Toml where
  | string (stretch : Stretch) (value : String)
  | integer (stretch : Stretch) (value : Option Int)
  | float (stretch : Stretch) (value : Option Float)
  | boolean (stretch : Stretch) (value : Bool)
  | dateTime (stretch : Stretch) (value : DateTime)
  | array (stretch : Stretch) (items : List Toml)
  | tables (stretch : Stretch) (items : List (Stretch × List (Key × Toml)))
  | table (stretch : Stretch) (form : TableForm) (entries : List (Key × Toml))

namespace Toml

/-- The entries of a table. -/
abbrev Entries := List (Key × Toml)

/-- The stretch of the text that wrote a value. -/
def stretch : Toml → Stretch
  | .string stretch _ | .integer stretch _ | .float stretch _ | .boolean stretch _
  | .dateTime stretch _ | .array stretch _ | .tables stretch _ | .table stretch _ _ => stretch

/-- The kind of a value. -/
def kind : Toml → Kind
  | .string .. => .string
  | .integer .. => .integer
  | .float .. => .float
  | .boolean .. => .boolean
  | .dateTime .. => .dateTime
  | .array .. | .tables .. => .array
  | .table .. => .table

end Toml

end GasAdvisor
