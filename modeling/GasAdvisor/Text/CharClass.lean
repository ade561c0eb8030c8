import GasAdvisor.Text.Alphanumeric
import GasAdvisor.Text.CaseIgnorable
import GasAdvisor.Text.Cased
import GasAdvisor.Text.DecimalDigit
import GasAdvisor.Text.WordCharacter

/-!
# Character classes

The classes of characters on which the recognition of source text rests.

* `isBlank`: white space, the 25 characters with the property `White_Space`.
* `isWord`: the characters of a word in the sense of text patterns.
* `isDecimalDigit`: the digits of all scripts.
* `isAlphanumeric`: letters and numbers, without marks and connectors.

Each class answers for ASCII by a rule of its own and looks up all else in a table, so a question
about an ASCII character never unfolds a table. The two classes that text patterns name, `isWord`
and `isDecimalDigit`, follow Unicode 16; letters, numbers and case follow Unicode 17.
-/

namespace GasAdvisor.Text

/-- Whether `n` lies in one of the ascending, disjoint ranges, both ends included. -/
def covered : List (Nat × Nat) → Nat → Bool
  | [], _ => false
  | (first, last) :: rest, n => if n < first then false else n ≤ last || covered rest n

/-- White space. -/
def isBlank (c : Char) : Bool :=
  if c.toNat < 128 then
    c = ' ' || (9 ≤ c.toNat && c.toNat ≤ 13)
  else
    c.toNat = 0x85 || c.toNat = 0xa0 || c.toNat = 0x1680 ||
      (0x2000 ≤ c.toNat && c.toNat ≤ 0x200a) || c.toNat = 0x2028 || c.toNat = 0x2029 ||
      c.toNat = 0x202f || c.toNat = 0x205f || c.toNat = 0x3000

/-- A decimal digit of any script. -/
def isDecimalDigit (c : Char) : Bool :=
  if c.toNat < 128 then c.isDigit else covered DecimalDigit.ranges c.toNat

/-- A letter, a mark, a decimal digit, a connector such as the underscore, or a joiner. -/
def isWord (c : Char) : Bool :=
  if c.toNat < 128 then c.isAlphanum || c = '_' else covered WordCharacter.ranges c.toNat

/-- A letter or a number. -/
def isAlphanumeric (c : Char) : Bool :=
  if c.toNat < 128 then c.isAlphanum else covered Alphanumeric.ranges c.toNat

/-- A character that has a case, or is the case of another one. -/
def isCased (c : Char) : Bool :=
  if c.toNat < 128 then c.isAlpha else covered Cased.ranges c.toNat

/-- A character that is passed over where the case of its neighbours is asked for. -/
def isCaseIgnorable (c : Char) : Bool :=
  covered CaseIgnorable.ranges c.toNat

end GasAdvisor.Text
