import GasAdvisor.Text.Lines
import GasAdvisor.Text.Quoted
import GasAdvisor.Toml.DateTime

/-!
# What is wrong with a TOML text

A fault is one way in which a text or what it says can be wrong, and an error is a fault with the
stretch of the text that it is about. Most faults name what should stand there instead;
`Fault.message` words them.
-/

namespace GasAdvisor.Toml

open Text

/-- A stretch of a text, counted in bytes: from where it starts to where it stops. -/
structure Stretch where
  start : Nat
  stop : Nat
  deriving DecidableEq, Repr

/-- How a key or a value is written: bare, or within single quotes (literal) or double quotes
(basic), once or thrice (blocks). -/
inductive Quoting where
  | bare
  | literal
  | basic
  | literalBlock
  | basicBlock
  deriving DecidableEq, Repr

/-- The kind of a value. -/
inductive Kind where
  | string
  | integer
  | float
  | boolean
  | dateTime
  | array
  | table
  | inlineTable
  deriving DecidableEq, Repr

/-- What comes next in an inline table. -/
inductive Awaited where
  | key
  | assignment
  | value
  | comma
  deriving DecidableEq, Repr

/-- A base of integers that a letter after a zero stands for. -/
inductive Radix where
  | hexadecimal
  | octal
  | binary
  deriving DecidableEq, Repr

/-- A part of a float. -/
inductive FloatPart where
  | mantissa
  | fraction
  | exponent
  deriving DecidableEq, Repr

/-- A way in which a text or what it says can be wrong. -/
inductive Fault where
  -- lines
  | strayCharacter
  | strayReturn
  | strayHeaderEnd
  | unclosedHeader (ofArray : Bool)
  | halfClosedHeader
  | noKey
  | noAssignment
  | noAssignmentAfterPoint
  | lineGoesOn
  -- values
  | doubleAssignment
  | unopenedTable
  | unopenedArray
  | tooDeep
  | commaInArray
  | assignmentInArray
  | noCommaInArray
  | unclosedArray
  | commaInTable (awaited : Awaited)
  | assignmentInTable (awaited : Awaited)
  | bracketInTable (awaited : Awaited)
  | valueWithoutKey (awaited : Awaited)
  | noAssignmentInTable
  | noCommaInTable
  | unclosedTable
  -- keys
  | emptyKey
  | keyCharacter
  | blockKey (quoting : Quoting)
  | keyTooLong
  | duplicateKey
  | notExtensible (kind : Kind)
  -- strings
  | unclosedString (quoting : Quoting)
  | stringCharacter (quoting : Quoting)
  | escape
  | escapeDigits
  | escapeValue
  | brokenLine
  -- values without quotes
  | notQuoted
  | noOpeningQuote (quote : String)
  | wrongWord (kind : Kind) (word : String)
  | secondSign
  | signedRadix
  | decimalRadix
  | upperCaseRadix (radix : Radix)
  | signInRadix
  | radixDigit (radix : Radix)
  | leadingZero
  | looseUnderscore
  | noDigits (part : FloatPart)
  | floatGoesOn
  | dateTime (fault : DateFault)
  -- what is made of values
  | integerRange
  | floatRange
  | wrongType (found wanted : String)
  | wrongValue (found wanted : String)
  | unknownChoice (found : String) (known : List String)
  | noChoiceForm
  | noChoice
  | manyChoices
  | choiceHolds (kind : Kind)
  | choiceItems
  | choiceEntries
  deriving DecidableEq, Repr

/-- A fault and the stretch of the text that it is about, unless it is about none. -/
structure Error where
  fault : Fault
  stretch : Option Stretch
  deriving DecidableEq, Repr

/-- A fault at a place between two characters. -/
def Fault.atPlace (fault : Fault) (place : Nat) : Error :=
  ⟨fault, some ⟨place, place⟩⟩

/-- A fault in a stretch. -/
def Fault.inStretch (fault : Fault) (stretch : Stretch) : Error :=
  ⟨fault, some stretch⟩

/-! ## Wording -/

/-- The name of a kind of values. -/
def Kind.name : Kind → String
  | .string => "string"
  | .integer => "integer"
  | .float => "float"
  | .boolean => "boolean"
  | .dateTime => "datetime"
  | .array => "array"
  | .table => "table"
  | .inlineTable => "inline table"

/-- What is awaited. -/
def Awaited.text : Awaited → String
  | .key => "key"
  | .assignment => "`=`"
  | .value => "value"
  | .comma => "`,`"

/-- The name of a base. -/
def Radix.name : Radix → String
  | .hexadecimal => "hexadecimal"
  | .octal => "octal"
  | .binary => "binary"

/-- The letter of a base. -/
def Radix.letter : Radix → String
  | .hexadecimal => "x"
  | .octal => "o"
  | .binary => "b"

/-- The name of a part of a float. -/
def FloatPart.name : FloatPart → String
  | .mantissa => "mantissa"
  | .fraction => "fraction"
  | .exponent => "exponent"

/-- The name of a string in quotes, or of a bare key. -/
def Quoting.name : Quoting → String
  | .bare => "unquoted key"
  | .literal => "literal string"
  | .basic => "basic string"
  | .literalBlock => "multi-line literal string"
  | .basicBlock => "multi-line basic string"

/-- The quote that ends a string. -/
def Quoting.quote : Quoting → String
  | .bare => ""
  | .literal | .literalBlock => "'"
  | .basic | .basicBlock => "\""

/-- The characters that may stand in a string or a bare key. -/
def Quoting.alphabet : Quoting → String
  | .bare => "letters, numbers, `-`, `_`"
  | .literal => "non-single-quote visible characters"
  | .basic => "non-double-quote visible characters, `\\`"
  | .literalBlock => "non-single-quote characters"
  | .basicBlock => "`\\`, characters"

/-- A choice of names: of two, one or the other. -/
def choiceText (names : List String) : String :=
  let quoted := names.map fun name => ("`" ++ name ++ "`").toList
  match quoted with
  | [first, second] => String.ofList (first ++ " or ".toList ++ second)
  | [only] => String.ofList only
  | quoted => "one of " ++ String.ofList (join ", ".toList quoted)

/-- The text of a fault. -/
def Fault.message : Fault → String
  | .strayCharacter => "invalid comment character, expected printable characters"
  | .strayReturn => "carriage return must be followed by newline, expected newline"
  | .strayHeaderEnd => "missing table open, expected `[`"
  | .unclosedHeader false => "unclosed table, expected `]`"
  | .unclosedHeader true => "unclosed array table, expected `]]`"
  | .halfClosedHeader => "unclosed array table, expected `]`"
  | .noKey => "invalid key-value pair, expected key"
  | .noAssignment => "key with no value, expected `=`"
  | .noAssignmentAfterPoint => "missing value for key, expected `=`"
  | .lineGoesOn => "unexpected key or value, expected newline, `#`"
  | .doubleAssignment => "extra `=`, expected nothing"
  | .unopenedTable => "missing inline table opening, expected `\x7b`"
  | .unopenedArray => "missing array opening, expected `[`"
  | .tooDeep => "cannot recurse further; max recursion depth met"
  | .commaInArray => "extra comma in array, expected value"
  | .assignmentInArray => "unexpected `=` in array, expected value, `]`"
  | .noCommaInArray => "missing comma between array elements, expected `,`"
  | .unclosedArray => "unclosed array, expected `]`"
  | .commaInTable awaited => "extra comma in inline table, expected " ++ awaited.text
  | .assignmentInTable awaited =>
    "extra assignment between key-value pairs, expected " ++ awaited.text
  | .bracketInTable awaited => "invalid inline table element, expected " ++ awaited.text
  | .valueWithoutKey awaited =>
    "missing key for inline table element, expected " ++ awaited.text
  | .noAssignmentInTable => "missing assignment between key-value pairs, expected `=`"
  | .noCommaInTable => "missing comma between key-value pairs, expected `,`"
  | .unclosedTable => "unclosed inline table, expected `\x7d`"
  | .emptyKey => "unquoted keys cannot be empty, expected " ++ Quoting.bare.alphabet
  | .keyCharacter => "invalid unquoted key, expected " ++ Quoting.bare.alphabet
  | .blockKey quoting =>
    "keys cannot be " ++ quoting.name ++ "s, expected basic string, literal string"
  | .keyTooLong => "recursion limit"
  | .duplicateKey => "duplicate key"
  | .notExtensible kind => "cannot extend value of type " ++ kind.name ++ " with a dotted key"
  | .unclosedString quoting =>
    "invalid " ++ quoting.name ++ ", expected `" ++ quoting.quote ++ "`"
  | .stringCharacter quoting => "invalid " ++ quoting.name ++ ", expected " ++ quoting.alphabet
  | .escape =>
    "missing escaped value, expected " ++
      "`b`, `e`, `f`, `n`, `r`, `\\`, `\"`, `x`, `u`, `U`"
  | .escapeDigits => "too few unicode value digits, expected unicode hexadecimal value"
  | .escapeValue => "invalid value, expected unicode hexadecimal value"
  | .brokenLine => "invalid multi-line basic string, expected newline"
  | .notQuoted => "string values must be quoted, expected literal string"
  | .noOpeningQuote quote => "missing opening quote, expected `" ++ quote ++ "`"
  | .wrongWord kind word => "invalid " ++ kind.name ++ ", expected `" ++ word ++ "`"
  | .secondSign => "redundant numeric sign, expected nothing"
  | .signedRadix => "integers with a radix cannot be signed, expected nothing"
  | .decimalRadix => "redundant integer number prefix, expected nothing"
  | .upperCaseRadix radix => "radix must be lowercase, expected `0" ++ radix.letter ++ "`"
  | .signInRadix => "unexpected sign, expected nothing"
  | .radixDigit radix => "invalid " ++ radix.name ++ " number"
  | .leadingZero => "unexpected leading zero, expected nothing"
  | .looseUnderscore => "`_` may only go between digits, expected nothing"
  | .noDigits part => "invalid " ++ part.name ++ ", expected digits"
  | .floatGoesOn => "invalid float, expected nothing"
  | .dateTime fault => fault.message
  | .integerRange => "integer number overflowed"
  | .floatRange => "floating-point number overflowed"
  | .wrongType found wanted => "invalid type: " ++ found ++ ", expected " ++ wanted
  | .wrongValue found wanted => "invalid value: " ++ found ++ ", expected " ++ wanted
  | .unknownChoice found known =>
    "unknown variant `" ++ found ++ "`, expected " ++ choiceText known
  | .noChoiceForm => "wanted string or table"
  | .noChoice => "wanted exactly 1 element, found 0 elements"
  | .manyChoices => "wanted exactly 1 element, more than 1 element"
  | .choiceHolds kind => "expected table, found " ++ kind.name
  | .choiceItems => "expected empty array"
  | .choiceEntries => "expected empty table"

end GasAdvisor.Toml
