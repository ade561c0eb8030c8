import GasAdvisor.Decimal.Text
import GasAdvisor.Json.Basic
import GasAdvisor.Text.Hex

/-!
# Writing JSON

Two layouts of a value: on one line without spaces, and over several lines with two spaces for each
level. Doubles are written as their shortest decimal with a point or an exponent, and as null when
they are not finite.
-/

namespace GasAdvisor.Json

/-- A character within a string. -/
def escapeChar (c : Char) : List Char :=
  if c = '"' then ['\\', '"']
  else if c = '\\' then ['\\', '\\']
  else if c = '\n' then ['\\', 'n']
  else if c = '\r' then ['\\', 'r']
  else if c = '\t' then ['\\', 't']
  else if c.toNat = 8 then ['\\', 'b']
  else if c.toNat = 12 then ['\\', 'f']
  else if c.toNat < 0x20 then
    ['\\', 'u', '0', '0', Text.hexDigit (c.toNat / 16), Text.hexDigit (c.toNat % 16)]
  else [c]

/-- A string in quotes. -/
def quote (s : String) : List Char :=
  '"' :: s.toList.flatMap escapeChar ++ ['"']

/-- An integer. -/
def writeInteger : Int → List Char
  | .ofNat n => Decimal.digits n
  | .negSucc n => '-' :: Decimal.digits (n + 1)

/-- A double. -/
def writeDouble (x : Float) : List Char :=
  (Decimal.withPoint? x).getD "null".toList

mutual

/-- A value on one line. -/
def compact : Json → List Char
  | .null => "null".toList
  | .bool b => if b then "true".toList else "false".toList
  | .integer n => writeInteger n
  | .double x => writeDouble x
  | .string s => quote s
  | .array items => '[' :: compactItems items ++ [']']
  | .object members => '{' :: compactMembers members ++ ['}']

/-- The items of an array, separated by commas. -/
def compactItems : List Json → List Char
  | [] => []
  | [item] => compact item
  | item :: rest => compact item ++ ',' :: compactItems rest

/-- The members of an object, separated by commas. -/
def compactMembers : List (String × Json) → List Char
  | [] => []
  | [(name, value)] => quote name ++ ':' :: compact value
  | (name, value) :: rest => quote name ++ ':' :: compact value ++ ',' :: compactMembers rest

end

/-- The start of a line at a level. -/
def newLine (level : Nat) : List Char :=
  '\n' :: List.replicate (2 * level) ' '

mutual

/-- A value over several lines, its first line started at a level. -/
def prettyAt (level : Nat) : Json → List Char
  | .null => "null".toList
  | .bool b => if b then "true".toList else "false".toList
  | .integer n => writeInteger n
  | .double x => writeDouble x
  | .string s => quote s
  | .array [] => ['[', ']']
  | .array (item :: rest) =>
    '[' :: prettyItems (level + 1) (item :: rest) ++ newLine level ++ [']']
  | .object [] => ['{', '}']
  | .object (member :: rest) =>
    '{' :: prettyMembers (level + 1) (member :: rest) ++ newLine level ++ ['}']

/-- The items of an array, each on lines of its own. -/
def prettyItems (level : Nat) : List Json → List Char
  | [] => []
  | [item] => newLine level ++ prettyAt level item
  | item :: rest => newLine level ++ prettyAt level item ++ ',' :: prettyItems level rest

/-- The members of an object, each on lines of its own. -/
def prettyMembers (level : Nat) : List (String × Json) → List Char
  | [] => []
  | [(name, value)] => newLine level ++ quote name ++ ':' :: ' ' :: prettyAt level value
  | (name, value) :: rest =>
    newLine level ++ quote name ++ ':' :: ' ' :: prettyAt level value ++
      ',' :: prettyMembers level rest

end

/-- A value over several lines. -/
def pretty (value : Json) : List Char :=
  prettyAt 0 value

end GasAdvisor.Json
