import GasAdvisor.Text.CharClass
import GasAdvisor.Text.Unprintable

/-!
# Quoted texts

A text within quotes, on one line and readable whatever it holds: quotes and backslashes stand after
a backslash, and a character that does not show by itself stands as an escape, of one letter if it
has one and otherwise of its code point in braces.
-/

namespace GasAdvisor.Text

/-- Whether a character shows by itself. -/
def isPrintable (c : Char) : Bool :=
  if c.toNat < 128 then 32 ≤ c.toNat && c.toNat ≠ 127 else !covered Unprintable.ranges c.toNat

/-- A character within quotes. -/
def quotedChar (c : Char) : List Char :=
  if c = '"' ∨ c = '\\' then ['\\', c]
  else if c = '\n' then ['\\', 'n']
  else if c = '\r' then ['\\', 'r']
  else if c = '\t' then ['\\', 't']
  else if c.toNat = 0 then ['\\', '0']
  else if isPrintable c then [c]
  else '\\' :: 'u' :: '\x7b' :: (Nat.toDigits 16 c.toNat ++ ['\x7d'])

/-- A text within quotes. -/
def quoted (s : List Char) : List Char :=
  '"' :: (s.flatMap quotedChar ++ ['"'])

end GasAdvisor.Text
