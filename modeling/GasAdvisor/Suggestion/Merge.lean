import GasAdvisor.Suggestion.Basic
import GasAdvisor.Text.LetterCase
import GasAdvisor.Text.Lines

/-!
# Merging suggestions

Lists of suggestions become one list without near duplicates. Two messages are as similar as they
share words: `similarity` is the number of common words over the larger number of words. The
suggestions are gone through in order, and one is kept if it is similar to none kept before
(`survivors`); those kept are sorted by descending score, equal scores in the order in which they
came (`merge`).
-/

namespace GasAdvisor

open Text

/-- Whether a character belongs to a word of a message. -/
def isMessageWord (c : Char) : Bool :=
  isAlphanumeric c || c = '_'

/-- The words of a message in lower case, each once. -/
def wordSet (message : String) : List (List Char) :=
  (runs isMessageWord (lower message.toList)).eraseDups

/-- The number of common words over the larger number of words; one if there are no words. -/
def overlap (a b : List (List Char)) : Float :=
  let larger := max a.length b.length
  if larger = 0 then 1
  else Float.ofNat (a.filter (b.contains ·)).length / Float.ofNat larger

/-- How similar two messages are, from zero to one. -/
def similarity (a b : String) : Float :=
  overlap (wordSet a) (wordSet b)

/-- The elements that are similar to none of `kept` and to no element kept before them. -/
def survivorsAfter {α : Type} (similar : α → α → Bool) : (kept : List α) → List α → List α
  | _, [] => []
  | kept, x :: rest =>
    if kept.any (similar x) then survivorsAfter similar kept rest
    else x :: survivorsAfter similar (x :: kept) rest

/-- The elements that are similar to no element kept before them. -/
def survivors {α : Type} (similar : α → α → Bool) (items : List α) : List α :=
  survivorsAfter similar [] items

/-- A suggestion with the words of its message. -/
structure Worded where
  suggestion : Suggestion
  words : List (List Char)

namespace Worded

/-- A suggestion with the words of its message. -/
def of (s : Suggestion) : Worded :=
  ⟨s, wordSet s.message⟩

/-- Whether two messages are more similar than the threshold allows. -/
def similar (threshold : Float) (a b : Worded) : Bool :=
  threshold < overlap a.words b.words

end Worded

namespace Suggestion

/-- The suggestions of all lists without near duplicates, in the order in which they came. -/
def distinct (threshold : Float) (lists : List (List Suggestion)) : List Suggestion :=
  (survivors (Worded.similar threshold) (lists.flatten.map Worded.of)).map Worded.suggestion

/-- Whether the first suggestion may stand before the second in a ranking. -/
def ranksBefore (a b : Suggestion) : Bool :=
  rankKey b.score ≤ rankKey a.score

/-- The suggestions of all lists without near duplicates, by descending score. -/
def merge (threshold : Float) (lists : List (List Suggestion)) : List Suggestion :=
  (distinct threshold lists).mergeSort ranksBefore

end Suggestion

end GasAdvisor
