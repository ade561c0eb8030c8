import GasAdvisor.Text.CharClass

/-!
# Lines, words and pieces

* `pieces` cuts a text at a separator: `n` separators make `n + 1` pieces.
* `lines` are the lines of a text, without their ends: a line ends at a line feed, which may follow
  one carriage return, and nothing follows the last end.
* `runs` are the maximal runs of a class of characters, and `words` those without white space.
* `trim` takes white space off both ends.
-/

namespace GasAdvisor.Text

/-- A text cut at every separator. -/
def pieces (separator : Char) : List Char → List (List Char)
  | [] => [[]]
  | c :: rest =>
    if c = separator then [] :: pieces separator rest
    else match pieces separator rest with
      | [] => [[c]]
      | piece :: more => (c :: piece) :: more

/-- A line without a carriage return at its end. -/
def dropReturn (line : List Char) : List Char :=
  if line.getLast? = some '\r' then line.dropLast else line

/-- The lines of a text. -/
def lines (text : List Char) : List (List Char) :=
  let all := pieces '\n' text
  let ended := if all.getLast? = some [] then all.dropLast.map dropReturn
    else all.dropLast.map dropReturn ++ all.getLast?.toList
  ended

/-- The number of lines, counting the one after the last line feed. -/
def lineCount (text : List Char) : Nat :=
  text.count '\n' + 1

/-- A text without the white space before it. -/
def trimLeft (text : List Char) : List Char :=
  text.dropWhile isBlank

/-- A text without the white space after it. -/
def trimRight (text : List Char) : List Char :=
  (text.reverse.dropWhile isBlank).reverse

/-- A text without the white space around it. -/
def trim (text : List Char) : List Char :=
  trimRight (trimLeft text)

/-- The maximal runs of characters of a class. -/
def runs (p : Char → Bool) : List Char → List (List Char)
  | [] => []
  | c :: rest =>
    if p c then
      if rest.head?.any p then
        match runs p rest with
        | [] => [[c]]
        | run :: more => (c :: run) :: more
      else [c] :: runs p rest
    else runs p rest

/-- The maximal runs of a text without white space. -/
def words (text : List Char) : List (List Char) :=
  runs (fun c => !isBlank c) text

/-- Texts put together with another one between them. -/
def join (separator : List Char) : List (List Char) → List Char
  | [] => []
  | [text] => text
  | text :: rest => text ++ separator ++ join separator rest

end GasAdvisor.Text
