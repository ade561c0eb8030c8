import GasAdvisor.Text.CaseMap
import GasAdvisor.Text.CharClass

/-!
# Lower and upper case

The full case mappings of characters and texts, independent of any language. One rule looks at the
neighbours: a capital sigma that ends a word becomes `ς`, any other one `σ`.
-/

namespace GasAdvisor.Text

/-- The image of `n` under the first run that maps it, `n` itself if none does. -/
def mapCase : List (Nat × Nat × Nat × Nat) → Nat → Nat
  | [], n => n
  | (first, last, step, image) :: rest, n =>
    if first ≤ n && n ≤ last && (n - first) % step = 0 then image + (n - first)
    else mapCase rest n

/-- The lower case of a character on its own. -/
def lowerChar (c : Char) : List Char :=
  if c.toNat < 128 then [c.toLower]
  else if c.toNat = 0x130 then ['i', Char.ofNat 0x307]
  else [Char.ofNat (mapCase CaseMap.lowerRuns c.toNat)]

/-- The upper case of a character. -/
def upperChar (c : Char) : List Char :=
  if c.toNat < 128 then [c.toUpper]
  else match CaseMap.upperExpansions.lookup c.toNat with
    | some codes => codes.map Char.ofNat
    | none => [Char.ofNat (mapCase CaseMap.upperRuns c.toNat)]

/-- Whether the first character that case does not ignore is cased. -/
def startsCased (text : List Char) : Bool :=
  match text.dropWhile isCaseIgnorable with
  | [] => false
  | c :: _ => isCased c

/-- The lower case of a text that follows `before`, which is given last character first. -/
def lowerAfter : List Char → List Char → List Char
  | _, [] => []
  | before, c :: rest =>
    let image :=
      if c.toNat = 0x3a3 then
        if startsCased before && !startsCased rest then [Char.ofNat 0x3c2] else [Char.ofNat 0x3c3]
      else lowerChar c
    image ++ lowerAfter (c :: before) rest

/-- The lower case of a text. -/
def lower (text : List Char) : List Char :=
  lowerAfter [] text

end GasAdvisor.Text
