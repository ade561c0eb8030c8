import GasAdvisor.Contract.Declaration
import GasAdvisor.Contract.Header
import GasAdvisor.Contract.Pattern
import GasAdvisor.Contract.StateVariables

/-!
# Reading contracts

A contract is read from its source in two steps. First its scanned text is searched for function
headers whose bodies are terminated (`Site.all`); the scanned text is the source itself or its
masked form, given as cells. Then each site is turned into a function (`Site.function`): what
depends on structure comes from the scanned characters, and the texts that are kept come from the
source of the same cells. The lines are counted from one function to the next
(`Site.functionsFrom`).

Reading never fails. A text that declares nothing gives `Contract.invalid`.
-/

namespace GasAdvisor

open Text

/-- How a source text is scanned. -/
inductive Scanning where
  /-- As it stands. -/
  | text
  /-- With comments and string contents blanked. -/
  | masking
  deriving DecidableEq, Repr

namespace Scanning

/-- Source texts are scanned as they stand unless told otherwise. -/
instance : Inhabited Scanning := ⟨.text⟩

/-- All ways of scanning. -/
def all : List Scanning := [.text, .masking]

/-- The name of a way of scanning. -/
def keyword : Scanning → String
  | .text => "text"
  | .masking => "masking"

/-- The cells of a source text. -/
def cells : Scanning → List Char → List Cell
  | .text, source => Cell.ofText source
  | .masking, source => Cell.ofMasked source

end Scanning

/-! ## Sites -/

/-- A function found in a scanned text. -/
structure Site where
  /-- The number of characters before the word `function`. -/
  start : Nat
  header : Header
  /-- The text from the opening brace to the closing one. -/
  body : List Char
  deriving DecidableEq, Repr

namespace Site

/-- The number of characters before the opening brace. -/
def opening (site : Site) : Nat :=
  site.start + (site.header.text.length - 1)

/-- The number of characters from the word `function` to the closing brace. -/
def size (site : Site) : Nat :=
  site.header.text.length - 1 + site.body.length

/-- The number of characters up to and with the closing brace. -/
def stop (site : Site) : Nat :=
  site.start + site.size

/-- The headers of a text, each with its body if that is terminated. -/
def candidates (scan : List Char) : List (Hit (Header × Option (List Char))) :=
  hits (fun _ s =>
    (Header.read? s).map fun (header, rest) =>
      ((header, block? ('{' :: rest)), header.text.length)) scan

/-- The functions of a text whose bodies are terminated. -/
def all (scan : List Char) : List Site :=
  (candidates scan).filterMap fun hit =>
    hit.value.2.map fun body => ⟨hit.index, hit.value.1, body⟩

/-- The index of the parameters. -/
def parametersStart (site : Site) : Nat :=
  site.start + site.header.nameText.length

/-- The index of the first qualifier. -/
def qualifiersStart (site : Site) : Nat :=
  site.parametersStart + site.header.parameters.length + 1

end Site

/-! ## Qualifiers -/

/-- A qualifier at its index in the scanned text. -/
structure PlacedQualifier where
  start : Nat
  qualifier : Qualifier
  deriving DecidableEq, Repr

namespace PlacedQualifier

/-- Qualifiers that follow one another from an index on. -/
def place : Nat → List Qualifier → List PlacedQualifier
  | _, [] => []
  | start, q :: more => ⟨start, q⟩ :: place (start + q.text.length) more

/-- The word of a qualifier. -/
def word (p : PlacedQualifier) : String :=
  String.ofList p.qualifier.word

/-- The source of the text between the parentheses of a qualifier. -/
def argumentsSource? (cells : List Cell) (p : PlacedQualifier) : Option (List Char) :=
  p.qualifier.arguments.map fun arguments =>
    let before := p.qualifier.lead.length + p.qualifier.word.length + p.qualifier.gap.length + 1
    Cell.sourceOf (stretch cells (p.start + before) arguments.length)

/-- The source of a qualifier from its word on. -/
def source (cells : List Cell) (p : PlacedQualifier) : List Char :=
  Cell.sourceOf
    (stretch cells (p.start + p.qualifier.lead.length) p.qualifier.body.length)

/-- Whether a qualifier is neither a keyword nor a returns clause. -/
def isModifier (p : PlacedQualifier) : Bool :=
  p.word ≠ "returns" && (Visibility.ofKeyword? p.word).isNone &&
    (Mutability.ofKeyword? p.word).isNone

end PlacedQualifier

namespace Site

/-- The qualifiers of a function at their places. -/
def qualifiers (site : Site) : List PlacedQualifier :=
  PlacedQualifier.place site.qualifiersStart site.header.qualifiers

/-- The first visibility that a function declares. -/
def visibility (site : Site) : Visibility :=
  (site.qualifiers.findSome? fun p => Visibility.ofKeyword? p.word).getD default

/-- The first mutability that a function declares. -/
def mutability (site : Site) : Mutability :=
  (site.qualifiers.findSome? fun p => Mutability.ofKeyword? p.word).getD default

/-- The text of the last returns clause with parentheses. -/
def returns (cells : List Cell) (site : Site) : Option String :=
  ((site.qualifiers.filter (·.word = "returns")).filterMap (·.argumentsSource? cells)).getLast?.map
    fun arguments => String.ofList (trim arguments)

/-- The qualifiers that are neither keywords nor returns clauses. -/
def modifiers (cells : List Cell) (site : Site) : List String :=
  (site.qualifiers.filter (·.isModifier)).map fun p => String.ofList (trim (p.source cells))

/-- The characters of a function in the scanned text. -/
def scanned (cells : List Cell) (site : Site) : List Char :=
  (stretch cells site.start site.size).map Cell.char

/-- The function at a site, whose word `function` stands on the line `line`. -/
def function (cells : List Cell) (line : Nat) (site : Site) : Function :=
  let patterns := Pattern.detect (site.scanned cells)
  { name := String.ofList site.header.name
    visibility := site.visibility
    mutability := site.mutability
    parameters := Parameter.ofList
      (Cell.sourceOf (stretch cells site.parametersStart site.header.parameters.length))
    returns := site.returns cells
    modifiers := site.modifiers cells
    patterns
    sourceCode := String.ofList (Cell.sourceOf (stretch cells site.start site.size))
    startLine := line
    complexity := Function.complexityOf patterns }

/-- The functions at sites in order of their starts. The lines are counted on the way: up to the
index `cursor` the scanned text has reached the line `line`. -/
def functionsFrom (cells : List Cell) : (line cursor : Nat) → List Site → List Function
  | _, _, [] => []
  | line, cursor, site :: more =>
    let between := (stretch cells cursor (site.start - cursor)).map Cell.char
    let line' := line + between.count '\n'
    site.function cells line' :: functionsFrom cells line' site.start more

end Site

/-! ## Contracts -/

/-- The contract whose scanned text is given as cells. -/
def Contract.ofCells (cells : List Cell) (totalLines : Nat) : Contract :=
  let scan := cells.map Cell.char
  let code := codeChars scan
  if Declaration.isPresent code then
    let sites := Site.all scan
    { name := Declaration.name code
      functions := Site.functionsFrom cells 1 0 sites
      stateVariables := StateVariable.names scan (sites.map fun site => (site.start, site.stop))
      totalLines }
  else
    Contract.invalid totalLines

/-- The contract of a source text. -/
def Contract.read (scanning : Scanning) (source : String) : Contract :=
  .ofCells (scanning.cells source.toList) (lineCount source.toList)

end GasAdvisor
