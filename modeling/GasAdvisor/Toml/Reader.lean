import GasAdvisor.Toml.Scalar
import GasAdvisor.Toml.Table

/-!
# Reading TOML

The entries of a document are made of its outline: `Term.toToml` is the value of a term,
`entriesOf` adds the pairs of a section to a table, and `addSection` adds a section to the document.
A fault in the outline comes before all faults in what it says. The table of a header is looked for
before its pairs are read, an array of tables only after the pairs of its new table.

A key has at most `maxKeyParts` parts.
-/

namespace GasAdvisor.Toml

open Table

/-- The largest number of parts of a key. -/
def maxKeyParts : Nat := 80

/-- The last part of a key and the parts before it. -/
def keyOf (words : List Word) : Except Error (List Key × Key) := do
  let parts ← words.mapM Word.key
  if maxKeyParts < parts.length then throw ⟨.keyTooLong, none⟩
  match parts.getLast? with
  | some last => return (parts.dropLast, last)
  | none => throw (Fault.emptyKey.atPlace 0)

mutual

/-- The value of a term. -/
def Term.toToml : Term → Except Error Toml
  | .word w => w.value
  | .array stretch items => do return .array stretch (← itemsOf items)
  | .table stretch pairs => do return .table stretch .inline (← entriesOf .inline [] pairs)

/-- The values of terms. -/
def itemsOf : List Term → Except Error (List Toml)
  | [] => .ok []
  | term :: rest => do
    let value ← term.toToml
    return value :: (← itemsOf rest)

/-- Entries with those of pairs added. -/
def entriesOf (passage : Passage) (entries : Entries) : List Pair → Except Error Entries
  | [] => .ok entries
  | (words, term) :: rest => do
    let (path, last) ← keyOf words
    let value ← term.toToml
    entriesOf passage (← assign passage path last value entries) rest

end

/-- The entries of a document with a section added. -/
def addSection (entries : Entries) (s : Section) : Except Error Entries := do
  let (path, last) ← keyOf s.key
  if s.ofArray then
    let table ← entriesOf .dotted [] s.pairs
    appendTable path last s.stretch table entries
  else openTable path last s.stretch (entriesOf .dotted · s.pairs) entries

/-- The entries of a document. -/
def parse (text : List Char) : Except Error Entries := do
  let outline ← Outline.ofText text
  outline.sections.foldlM addSection (← entriesOf .dotted [] outline.pairs)

end GasAdvisor.Toml
