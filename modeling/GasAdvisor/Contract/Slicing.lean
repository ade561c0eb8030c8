import GasAdvisor.Contract.Reading
import GasAdvisor.Text.Slice

/-!
# Reading contracts by slices

A contract can be read without cells, from plain texts and byte offsets. The headers of the scanned
text come with the spans of their parts (`PlacedHeader`), qualifiers and declared names likewise. All
text that is looked at or kept is then sliced out at such spans: of the scanned text, of the source,
or of the scanned text masked once more. A slice whose span does not fit its text fails, and the
reading fails with it (`Contract.readSliced?`).

The offsets of a search are those of the text that was searched; that they may be used on another text
of the same size is for the reading to know.
-/

namespace GasAdvisor

open Text

/-! ## Headers -/

/-- A header found in a text, with the spans of its parts. -/
structure PlacedHeader where
  /-- From the word `function` to the opening brace. -/
  whole : Span
  name : List Char
  parameters : Span
  qualifiers : Span
  deriving DecidableEq, Repr

namespace PlacedHeader

/-- A header of a text at the index of its first character. -/
def place (scan : List Char) (start : Nat) (h : Header) : PlacedHeader :=
  let parametersStart := start + h.nameText.length
  let qualifiersStart := parametersStart + h.parameters.length + 1
  { whole := spanAt scan start h.text.length
    name := h.name
    parameters := spanAt scan parametersStart h.parameters.length
    qualifiers := spanAt scan qualifiersStart h.qualifiersText.length }

/-- The header at the front of a text, and its size. -/
def find (s : List Char) : Option (Header × Nat) :=
  (Header.read? s).map fun (h, _) => (h, h.text.length)

/-- The headers of a text. -/
def all (scan : List Char) : List PlacedHeader :=
  (hits (fun _ s => find s) scan).map fun hit => place scan hit.index hit.value

end PlacedHeader

/-! ## Qualifiers -/

/-- A qualifier found in the text of qualifiers, with the spans of its parts. -/
structure FoundQualifier where
  word : String
  /-- From the word on, with the white space after it and the parentheses. -/
  whole : Span
  /-- What stands between the parentheses. -/
  arguments : Option Span
  deriving DecidableEq, Repr

namespace FoundQualifier

/-- The qualifier whose word starts at the front of a text, and its size. -/
def find (s : List Char) : Option (Qualifier × Nat) :=
  match Qualifier.read? s with
  | none => none
  | some (q, _) => if q.lead.isEmpty then some (q, q.text.length) else none

/-- A qualifier of a text at the index of its word. -/
def place (list : List Char) (start : Nat) (q : Qualifier) : FoundQualifier where
  word := String.ofList q.word
  whole := spanAt list start q.body.length
  arguments := q.arguments.map fun arguments =>
    spanAt list (start + (q.word.length + q.gap.length + 1)) arguments.length

/-- The qualifiers of a text. -/
def all (list : List Char) : List FoundQualifier :=
  (hits (fun _ s => find s) list).map fun hit => place list hit.index hit.value

/-- Whether a qualifier is neither a keyword nor a returns clause. -/
def isModifier (q : FoundQualifier) : Bool :=
  q.word ≠ "returns" && (Visibility.ofKeyword? q.word).isNone &&
    (Mutability.ofKeyword? q.word).isNone

end FoundQualifier

/-! ## Functions -/

namespace PlacedHeader

/-- The function of a header that ends before the offset `stop` and starts on the line `line`. -/
def function? (source scan : List Char) (line stop : Nat) (header : PlacedHeader) :
    Option Function := do
  let list ← slice? scan header.qualifiers
  let qualifiers := FoundQualifier.all list
  let sliced (span : Span) := slice? source (span.shift header.qualifiers.start)
  let returns ← ((qualifiers.filter (·.word = "returns")).filterMap (·.arguments)).mapM sliced
  let modifiers ← ((qualifiers.filter (·.isModifier)).map (·.whole)).mapM sliced
  let scanned ← slice? scan ⟨header.whole.start, stop⟩
  let parameters ← slice? source header.parameters
  let text ← slice? source ⟨header.whole.start, stop⟩
  let patterns := Pattern.detect scanned
  return {
    name := String.ofList header.name
    visibility := (qualifiers.findSome? fun q => Visibility.ofKeyword? q.word).getD default
    mutability := (qualifiers.findSome? fun q => Mutability.ofKeyword? q.word).getD default
    parameters := Parameter.ofList parameters
    returns := returns.getLast?.map fun arguments => String.ofList (trim arguments)
    modifiers := modifiers.map fun modifier => String.ofList (trim modifier)
    patterns
    sourceCode := String.ofList text
    startLine := line
    complexity := Function.complexityOf patterns }

/-- The functions of headers in order of their starts, each with its span. Up to the offset `cursor`
the scanned text has reached the line `line`. A header whose body is not terminated is passed over. -/
def functionsFrom? (source scan : List Char) :
    (line cursor : Nat) → List PlacedHeader → Option (List (Span × Function))
  | _, _, [] => some []
  | line, cursor, header :: more =>
    match matchingBrace? scan (header.whole.stop - 1) with
    | none => functionsFrom? source scan line cursor more
    | some closing => do
      let between ← slice? scan ⟨cursor, header.whole.start⟩
      let line' := line + between.count '\n'
      let f ← header.function? source scan line' (closing + 1)
      let rest ← functionsFrom? source scan line' header.whole.start more
      return (⟨header.whole.start, closing + 1⟩, f) :: rest

end PlacedHeader

/-! ## State variables -/

namespace StateVariable

/-- The names declared anywhere in a text, each with the offset of its type. -/
def placed (scan : List Char) : List (Nat × List Char) :=
  (declared scan).map fun hit => (byteOffset scan hit.index, hit.value)

/-- The names that stand outside of functions and of parentheses. Up to the offset `cursor` the code
has reached the depth `depth`. -/
def outsideFrom? (code : List Char) (functions : List Span) :
    (depth cursor : Nat) → List (Nat × List Char) → Option (List (List Char))
  | _, _, [] => some []
  | depth, cursor, (start, name) :: more => do
    let between ← slice? code ⟨cursor, start⟩
    let depth' := between.foldl depthStep depth
    let rest ← outsideFrom? code functions depth' start more
    return if 0 < depth' || functions.any (·.contains start) then rest else name :: rest

end StateVariable

/-! ## Contracts -/

/-- The contract of a source text, read by slices. -/
def Contract.readSliced? (scanning : Scanning) (source : String) : Option Contract := do
  let text := source.toList
  let scan := (scanning.cells text).map Cell.char
  let code := mask scan
  if Declaration.isPresent code then
    let functions ← PlacedHeader.functionsFrom? text scan 1 0 (PlacedHeader.all scan)
    let names ← StateVariable.outsideFrom? code (functions.map (·.1)) 0 0
      (StateVariable.placed scan)
    return {
      name := Declaration.name code
      functions := functions.map (·.2)
      stateVariables := ((names.map String.ofList).filter (!reserved.contains ·)).eraseDups
      totalLines := lineCount text }
  else
    return Contract.invalid (lineCount text)

end GasAdvisor
