import GasAdvisor.Cost.Basic

/-!
# Costs in machine words

Gas is held in words of 64 bits, and savings are computed with two kinds of arithmetic that may lose
something: sums that wrap around, and products in 128 bits that are cut to 64.

* `Gas.addWords` notices that a sum has wrapped around, and gives the largest word instead.
* `Impact.savingInWords` takes a share of a measured cost in a double word and keeps the low half.
-/

namespace GasAdvisor

namespace Gas

/-- The largest word. -/
def largestWord : UInt64 := 0xffffffffffffffff

/-- The sum of two words, or the largest word where the sum wraps around. -/
def addWords (m n : UInt64) : UInt64 :=
  if m + n < m then largestWord else m + n

/-- The sum of words from left to right, once at the largest word always there. -/
def totalOfWords (words : List UInt64) : UInt64 :=
  words.foldl addWords 0

/-- A word as a double word. -/
def widen (gas : UInt64) : BitVec 128 :=
  gas.toBitVec.setWidth 128

/-- The low half of a double word. -/
def narrow (wide : BitVec 128) : UInt64 :=
  .ofBitVec (wide.setWidth 64)

end Gas

namespace Impact

/-- A measured cost times the percentage that a suggestion saves, in a double word. -/
def wideProduct (i : Impact) (gas : UInt64) : BitVec 128 :=
  Gas.widen gas * BitVec.ofNat 128 i.percent

/-- The share of a measured cost that a suggestion saves, in a double word. -/
def wideShare (i : Impact) (gas : UInt64) : BitVec 128 :=
  i.wideProduct gas / 100#128

/-- What a suggestion saves, in words. -/
def savingInWords (i : Impact) (gas : UInt64) : UInt64 :=
  if 0 < gas then Gas.narrow (i.wideShare gas) else .ofNat i.flatSaving

end Impact

/-- What following all suggestions for a function saves, in words. -/
def potentialSavingsInWords (suggestions : List Suggestion) (gas : UInt64) : UInt64 :=
  Gas.totalOfWords (suggestions.map fun s => s.impact.savingInWords gas)

end GasAdvisor
