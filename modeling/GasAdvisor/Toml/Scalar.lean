import GasAdvisor.Toml.Basic
import GasAdvisor.Toml.Number
import GasAdvisor.Toml.Quotation

/-!
# What TOML words mean

A word in quotes is a string. A bare word is a truth value, a number, a date or a time, which its
first characters decide; all else is a string that lacks its quotes, also a word with a space in it
unless it starts like a date. As a part of a key, a bare word is its own name.
-/

namespace GasAdvisor.Toml.Word

/-! ## Keys -/

/-- Whether a character may stand in a bare key. -/
def isKeyChar (c : Char) : Bool :=
  c.isAlphanum || c = '_' || c = '-'

/-- The key that a word writes. -/
def key (w : Word) : Except Error Key := do
  match w.quoting with
  | .bare =>
    if w.text.isEmpty then throw (Fault.emptyKey.atPlace w.start)
    match find? (!isKeyChar ·) w.start w.text with
    | some place => throw (Fault.keyCharacter.atPlace place)
    | none => return ⟨String.ofList w.text, w.stretch⟩
  | .literalBlock | .basicBlock => throw ((Fault.blockKey w.quoting).inStretch w.stretch)
  | .literal | .basic => return ⟨String.ofList (← w.string), w.stretch⟩

/-! ## Values -/

/-- Whether a text ends with another. -/
def endsWith (s ending : List Char) : Bool :=
  s.drop (s.length - ending.length) = ending

/-- What is wrong with a word that means nothing: if it ends with a quote, it lacks one at its
start, and otherwise on both sides. -/
def meaningless (w : Word) : Error :=
  match ["'''", "\"\"\"", "'", "\""].find? fun quotes => endsWith w.text quotes.toList with
  | some quotes => (Fault.noOpeningQuote quotes).atPlace w.start
  | none => Fault.notQuoted.inStretch w.stretch

/-- A word of the language that a text after its sign has to be. -/
def expect (w : Word) (kind : Kind) (word : String) (place : Nat) (s : List Char) (value : Toml) :
    Except Error Toml :=
  if s = word.toList then .ok value
  else .error ((Fault.wrongWord kind word).inStretch ⟨place, w.stop⟩)

/-- The float that a word names, infinite or no number. -/
def namedFloat (w : Word) (word : String) (x : Float) (place : Nat) (negative : Bool)
    (s : List Char) : Except Error Toml :=
  w.expect .float word place s (.float w.stretch (some (if negative then -x else x)))

/-- The number that a text after its sign writes that starts with a digit or an underscore. -/
def decimal (w : Word) (place : Nat) (negative : Bool) (s : List Char) : Except Error Toml := do
  let rest := s.dropWhile Char.isDigit
  if rest.any fun c => c = '.' || c = 'e' || c = 'E' then
    return .float w.stretch (← readFloat place negative s)
  else if rest.isEmpty ∨ rest.head? = some '_' then
    return .integer w.stretch (← readInteger place negative s)
  else throw w.meaningless

/-- The number that a text after its sign writes that starts with a zero. -/
def zeroed (w : Word) (place : Nat) (sign : Option Bool) (s : List Char) : Except Error Toml := do
  match s with
  | '0' :: letter :: digits =>
    let isDecimal : Bool := letter = 'd' || letter = 'D'
    let radix := Radix.ofLetter? letter
    if isDecimal ∨ radix.isSome then
      if sign.isSome then throw (Fault.signedRadix.inStretch ⟨w.start, w.start + 1⟩)
      if isDecimal then throw (Fault.decimalRadix.inStretch ⟨place, place + 2⟩)
    match radix with
    | some radix =>
      if letter.isUpper then throw ((Fault.upperCaseRadix radix).inStretch ⟨place, place + 2⟩)
      return .integer w.stretch (← readRadix radix (place + 2) digits)
    | none => w.decimal place (sign.getD false) s
  | s => w.decimal place (sign.getD false) s

/-- The number that a text writes after its sign, if it has one. -/
def number (w : Word) (place : Nat) (sign : Option Bool) (s : List Char) : Except Error Toml :=
  match s with
  | [] => .error w.meaningless
  | c :: _ =>
    if c = '0' then w.zeroed place sign s
    else if c.isDigit ∨ c = '_' then w.decimal place (sign.getD false) s
    else if c = '.' then .error ((Fault.noDigits .mantissa).atPlace w.start)
    else if c = '+' ∨ c = '-' then .error (Fault.secondSign.inStretch ⟨place, place + 1⟩)
    else if c = 'i' ∨ c = 'I' then w.namedFloat "inf" (1.0 / 0.0) place (sign.getD false) s
    else if c = 'n' ∨ c = 'N' then w.namedFloat "nan" (0.0 / 0.0) place (sign.getD false) s
    else .error w.meaningless

/-- Whether a text starts like a date or a time: with digits and a mark. -/
def startsDate (s : List Char) : Bool :=
  let rest := s.dropWhile Char.isDigit
  rest.length < s.length && (rest.head? = some '-' || rest.head? = some ':')

/-- The date or time that a word writes. -/
def dateTime (w : Word) : Except Error Toml :=
  match DateTime.ofText w.text with
  | .ok value => .ok (.dateTime w.stretch value)
  | .error fault => .error ((Fault.dateTime fault).inStretch w.stretch)

/-- The number that a text after its sign writes. A date has no sign. -/
def signed (w : Word) (negative : Bool) (s : List Char) : Except Error Toml :=
  if startsDate s then w.dateTime else w.number (w.start + 1) (some negative) s

/-- The value of a bare word. -/
def bareValue (w : Word) : Except Error Toml :=
  if startsDate w.text then w.dateTime
  else if w.text.contains ' ' then .error w.meaningless
  else
    match w.text with
    | '+' :: s => w.signed false s
    | '-' :: s => w.signed true s
    | c :: s =>
      if c = 't' ∨ c = 'T' then w.expect .boolean "true" w.start (c :: s) (.boolean w.stretch true)
      else if c = 'f' ∨ c = 'F' then
        w.expect .boolean "false" w.start (c :: s) (.boolean w.stretch false)
      else w.number w.start none (c :: s)
    | [] => .error w.meaningless

/-- The value of a word. -/
def value (w : Word) : Except Error Toml := do
  match w.quoting with
  | .bare => w.bareValue
  | _ => return .string w.stretch (String.ofList (← w.string))

end GasAdvisor.Toml.Word
