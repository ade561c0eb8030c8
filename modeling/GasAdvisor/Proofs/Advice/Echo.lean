import Mathlib
import GasAdvisor.Advice.Answer
import GasAdvisor.Advice.Prompt
import GasAdvisor.Proofs.Text.Caseless
import GasAdvisor.Proofs.Text.Words

/-!
# Echoed prompts

What is read off an answer that repeats its prompt. The reader takes what stands behind the first place
of the closing phrase, and that need not be the end of the prompt: the snippet and the name that a prompt
embeds may hold the phrase too. What stands behind it there is read as advice (`Prompt.leaked`), before
the advice of the answer proper (`advice_build_append`); so an echoed prompt is discarded exactly if
nothing leaks (`echo_discarded_iff`).
-/

namespace GasAdvisor

open Text

namespace Answer

/-- The phrase that closes a prompt. -/
def closingPhrase : List Char := "gas optimizations:".toList

/-- The lines of a text that are advice, without the white space around them. -/
def adviceIn (text : List Char) : List (List Char) :=
  ((lines text).map trim).filter qualifies

/-- What stands behind the first closing phrase of a text, if it has one. -/
def behind? (text : List Char) : Option (List Char) :=
  (first? (Shape.caseless closingPhrase) text).map (·.2)

end Answer

namespace Prompt

/-- What a prompt embeds: the snippet, and the name on a line of its own. -/
def embedded (text name : String) : List Char :=
  snippet text.toList ++ "\n\nFunction: ".toList ++ name.toList

/-- The lines of a prompt that a reader takes for advice. -/
def leaked (text name : String) : List (List Char) :=
  match Answer.behind? (embedded text name) with
  | some rest => Answer.adviceIn rest
  | none => []

end Prompt

namespace Answer

/-! ## Lines that are advice -/

theorem not_qualifies_nil : qualifies [] = false := by decide

/-- A carriage return before the end of a line is trimmed off anyway. -/
theorem trim_dropReturn (line : List Char) : trim (dropReturn line) = trim line := by
  rw [dropReturn]
  split
  · next hlast =>
    obtain ⟨front, rfl⟩ := List.getLast?_eq_some_iff.1 hlast
    rw [List.dropLast_concat, trim_append_singleton (by decide)]
  · rfl

/-- **The advice in a text is that in its pieces between line feeds.** -/
theorem adviceIn_eq_pieces (text : List Char) :
    adviceIn text = ((pieces '\n' text).map trim).filter qualifies := by
  obtain ⟨front, last, hall⟩ : ∃ front last, pieces '\n' text = front ++ [last] :=
    ⟨_, _, (List.dropLast_append_getLast (pieces_ne_nil text)).symm⟩
  have hfront : (front.map dropReturn).map trim = front.map trim := by
    rw [List.map_map]
    exact List.map_congr_left fun line _ => trim_dropReturn line
  rw [adviceIn, lines, hall, List.getLast?_concat, List.dropLast_concat]
  split
  · next hempty =>
    obtain rfl := Option.some.inj hempty
    rw [hfront, List.map_append, List.filter_append]
    show _ = _ ++ List.filter qualifies [[]]
    rw [List.filter_cons_of_neg (by rw [not_qualifies_nil]; decide), List.filter_nil, List.append_nil]
  · rw [List.map_append, hfront, List.map_append]
    rfl

/-- What stands before a line feed and what stands after it is advice on its own. -/
theorem adviceIn_append_feed (a b : List Char) :
    adviceIn (a ++ '\n' :: b) = adviceIn a ++ adviceIn b := by
  rw [adviceIn_eq_pieces, adviceIn_eq_pieces, adviceIn_eq_pieces, pieces_append_separator,
    List.map_append, List.filter_append]

theorem adviceIn_cons_blank {c : Char} (hc : isBlank c = true) (text : List Char) :
    adviceIn (c :: text) = adviceIn text := by
  rw [adviceIn_eq_pieces, adviceIn_eq_pieces, pieces]
  split
  · rw [List.map_cons]
    exact List.filter_cons_of_neg (by decide)
  · cases hpieces : pieces '\n' text with
    | nil => exact absurd hpieces (pieces_ne_nil text)
    | cons piece more => simp only [List.map_cons, trim_cons_blank hc]

/-- White space before a text is no advice. -/
theorem adviceIn_dropWhile_blank (text : List Char) :
    adviceIn (text.dropWhile isBlank) = adviceIn text := by
  induction text with
  | nil => rfl
  | cons c text ih =>
    by_cases hc : isBlank c = true
    · rw [List.dropWhile_cons_of_pos hc, ih, adviceIn_cons_blank hc]
    · rw [List.dropWhile_cons_of_neg hc]

/-- **A line that starts with an echo is no advice.** -/
theorem adviceIn_of_echo {echo line : List Char} (hecho : echo ∈ echoes) (hw : IsWhole echo)
    (hline : '\n' ∉ echo ++ line) : adviceIn (echo ++ line) = [] := by
  have hechoes : echoes.any (mentions · (trim (echo ++ line))) = true :=
    List.any_eq_true.2 ⟨echo, hecho, mentions_iff.2 (hw.prefix_trim line).isInfix⟩
  rw [adviceIn_eq_pieces, pieces_of_not_mem hline, List.map_singleton]
  refine List.filter_cons_of_neg ?_
  rw [qualifies, hechoes, Bool.not_true, Bool.and_false, Bool.false_and]
  decide

/-! ## The answer proper -/

theorem body_eq (output : List Char) :
    body output = ((behind? output).map (·.dropWhile isBlank)).getD output := by
  have hopening : ∀ before s, opening before s = (Shape.caseless closingPhrase before s).map
      fun found => (found.1 ++ found.2.takeWhile isBlank, found.2.dropWhile isBlank) := by
    intro before s
    show Shape.andThen (.caseless closingPhrase) .blanks before s = _
    rw [Shape.andThen]
    cases Shape.caseless closingPhrase before s <;> rfl
  have hfirst : first? opening output = (first? (Shape.caseless closingPhrase) output).map _ :=
    firstFrom_map _ hopening none output
  rw [body, hfirst, behind?]
  cases first? (Shape.caseless closingPhrase) output <;> rfl

/-- **The advice of an answer is that behind the first closing phrase.** -/
theorem advice_eq (output : List Char) :
    advice output = adviceIn ((behind? output).getD output) := by
  show adviceIn (body output) = _
  rw [body_eq]
  cases behind? output with
  | none => rfl
  | some rest => exact adviceIn_dropWhile_blank rest

/-- **Where a text splits before its first closing phrase.** -/
theorem behind?_eq_some_iff {text rest : List Char} :
    behind? text = some rest ↔ ∃ before found, text = before ++ (found ++ rest) ∧
      Spells closingPhrase found ∧ ¬ Holds closingPhrase (before ++ found.dropLast) := by
  rw [behind?, Option.map_eq_some_iff]
  constructor
  · rintro ⟨⟨found, rest'⟩, hfirst, rfl⟩
    obtain ⟨before, htext, h⟩ := (first?_caseless_eq_some_iff (by decide)).1 hfirst
    exact ⟨before, found, htext, h⟩
  · rintro ⟨before, found, htext, h⟩
    exact ⟨(found, rest), (first?_caseless_eq_some_iff (by decide)).2 ⟨before, htext, h⟩, rfl⟩

theorem behind?_eq_none_iff {text : List Char} :
    behind? text = none ↔ ¬ Holds closingPhrase text := by
  rw [behind?, Option.map_eq_none_iff, ← isSome_first?_caseless_iff (by decide),
    Option.not_isSome_iff_eq_none]

theorem not_holds_nil : ¬ Holds closingPhrase [] :=
  behind?_eq_none_iff.1 rfl

/-- **The closing phrase stands on one line.** -/
theorem holds_of_append_feed {a b : List Char} (h : Holds closingPhrase (a ++ '\n' :: b)) :
    Holds closingPhrase a ∨ Holds closingPhrase b :=
  h.of_append_cons (by decide)

/-- Nothing before the first letter of the phrase belongs to it. -/
theorem holds_of_append_any {a b : List Char} (h : Holds closingPhrase (a ++ b))
    (ha : a.any (Shape.isFormOf 'g') = false) : Holds closingPhrase b :=
  h.of_append (by decide) ha

/-- What follows the closing phrase stays behind it. -/
theorem behind?_append {text rest : List Char} (h : behind? text = some rest) (more : List Char) :
    behind? (text ++ more) = some (rest ++ more) := by
  obtain ⟨before, found, rfl, hspells, hfirst⟩ := behind?_eq_some_iff.1 h
  exact behind?_eq_some_iff.2 ⟨before, found, by simp only [List.append_assoc], hspells, hfirst⟩

/-- **Lines without the closing phrase are passed over.** -/
theorem behind?_append_feed {line : List Char} (h : ¬ Holds closingPhrase line) (text : List Char) :
    behind? (line ++ '\n' :: text) = behind? text := by
  cases hbehind : behind? text with
  | none =>
    refine behind?_eq_none_iff.2 fun hholds => ?_
    rcases holds_of_append_feed hholds with hline | htext
    · exact h hline
    · exact behind?_eq_none_iff.1 hbehind htext
  | some rest =>
    obtain ⟨before, found, rfl, hspells, hfirst⟩ := behind?_eq_some_iff.1 hbehind
    refine behind?_eq_some_iff.2 ⟨line ++ '\n' :: before, found, ?_, hspells, fun hholds => ?_⟩
    · rw [List.append_assoc, List.cons_append]
    · rw [List.append_assoc, List.cons_append] at hholds
      rcases holds_of_append_feed hholds with hline | hrest
      · exact h hline
      · exact hfirst hrest

/-- **The sentence made of a line ends in a full stop or an exclamation mark.** -/
theorem getLast?_clean (line : List Char) :
    (clean line).getLast? = some '.' ∨ (clean line).getLast? = some '!' := by
  rw [clean, terminate]
  split
  · next hlast =>
    rcases hlast with hlast | hlast <;> obtain ⟨front, hfront⟩ := List.getLast?_eq_some_iff.1 hlast
    · exact .inl (by rw [hfront]; exact getLast?_trim_append_singleton (by decide) front)
    · exact .inr (by rw [hfront]; exact getLast?_trim_append_singleton (by decide) front)
  · exact .inl (getLast?_trim_append_singleton (by decide) _)

/-- No suggestion that is read off a line is the first one of the fixed list. -/
theorem suggestions_ne_fallback {output : String} (h : advice output.toList ≠ []) :
    suggestions output ≠ fallback := by
  obtain ⟨line, more, hadvice⟩ := List.exists_cons_of_ne_nil h
  intro heq
  have hmessage : (suggestions output).head?.map (·.message.toList.getLast?) =
      some (clean line).getLast? := by
    rw [suggestions, hadvice]
    show some (String.ofList (clean line)).toList.getLast? = _
    rw [String.toList_ofList]
  rw [heq] at hmessage
  have hparenthesis : (clean line).getLast? = some ')' := (Option.some.inj hmessage).symm
  rcases getLast?_clean line with hlast | hlast <;> rw [hlast] at hparenthesis <;>
    exact absurd hparenthesis (by decide)

end Answer

namespace Prompt

open Answer

/-! ## Prompts as lines -/

/-- The line that a prompt starts with. -/
def request : List Char := "Optimize this Solidity function for gas efficiency:".toList

/-- The line of a prompt that lists the kinds of patterns. -/
def issuesLine (patterns : List PatternKind) : List Char :=
  "Issues:".toList ++ (' ' :: issues patterns)

/-- The line that closes a prompt. -/
def closingLine : List Char := "Gas optimizations:".toList

/-- What a prompt has of its answer. -/
def numeral : List Char := "1.".toList

/-- The lines of a prompt behind what it embeds, with an answer. -/
def closingLines (patterns : List PatternKind) (c : List Char) : List Char :=
  issuesLine patterns ++ '\n' :: ([] ++ '\n' :: (closingLine ++ '\n' :: (numeral ++ c)))

/-- Texts with line feeds at their ends are lines. -/
theorem append_lines {front snippet label name issues kinds closing request line phrase numeral :
    List Char} (hfront : front = request ++ ['\n', '\n']) (hline : issues ++ kinds = '\n' :: line)
    (hclosing : closing = '\n' :: '\n' :: (phrase ++ '\n' :: numeral)) (c : List Char) :
    front ++ snippet ++ label ++ name ++ issues ++ kinds ++ closing ++ c =
      request ++ '\n' :: ([] ++ '\n' :: ((snippet ++ label ++ name) ++ '\n' ::
        (line ++ '\n' :: ([] ++ '\n' :: (phrase ++ '\n' :: (numeral ++ c)))))) := by
  rw [List.append_assoc _ issues kinds, hline, hfront, hclosing]
  simp only [List.append_assoc, List.cons_append, List.nil_append]

theorem toList_build_append (text name : String) (patterns : List PatternKind) (c : List Char) :
    (build text name patterns).toList ++ c =
      request ++ '\n' :: ([] ++ '\n' :: (embedded text name ++ '\n' :: closingLines patterns c)) := by
  have hissues : "\nIssues: ".toList = '\n' :: ("Issues:".toList ++ [' ']) := by decide
  refine (congrArg (· ++ c) String.toList_ofList).trans (append_lines ?_ ?_ ?_ c)
  · decide +kernel
  · exact congrArg (· ++ issues patterns) hissues
  · decide

/-- The list of issues has neither line feeds nor colons. -/
theorem of_mem_issues {patterns : List PatternKind} {c : Char} (h : c ∈ issues patterns) :
    c ≠ '\n' ∧ Shape.isFormOf ':' c = false := by
  have hplain {word : List Char} (hword : word.all (fun c => c != '\n' && !Shape.isFormOf ':' c) = true)
      (hc : c ∈ word) : c ≠ '\n' ∧ Shape.isFormOf ':' c = false := by
    simpa using List.all_eq_true.1 hword c hc
  rw [issues] at h
  split at h
  · exact hplain (by decide) h
  · rcases mem_join h with h | ⟨keyword, hkeyword, hc⟩
    · exact hplain (by decide) h
    · obtain ⟨kind, -, rfl⟩ := List.mem_map.1 hkeyword
      exact hplain (by cases kind <;> decide) hc

/-- The line of issues is no advice. -/
theorem adviceIn_issuesLine (patterns : List PatternKind) : adviceIn (issuesLine patterns) = [] := by
  have hwhole : IsWhole "Issues:".toList := by
    have hsolid : "Issues:".toList.all (!isBlank ·) = true := by decide
    exact ⟨by decide, fun c hc => by simpa using List.all_eq_true.1 hsolid c hc⟩
  refine adviceIn_of_echo (by decide) hwhole fun hmem => ?_
  rcases List.mem_append.1 hmem with h | h
  · exact absurd h (by decide)
  · rcases List.mem_cons.1 h with h | h
    · exact absurd h (by decide)
    · exact (of_mem_issues h).1 rfl

theorem not_holds_issuesLine (patterns : List PatternKind) :
    ¬ Holds closingPhrase (issuesLine patterns) := by
  intro h
  have hissues : Holds closingPhrase (issues patterns) :=
    holds_of_append_any (a := [' ']) (holds_of_append_any h (by decide)) (by decide)
  have hcolon : closingPhrase.getLast? = some ':' := by decide
  exact not_holds_of_form ':' hcolon (fun c hc => (of_mem_issues hc).2) hissues

theorem not_holds_request : ¬ Holds closingPhrase request :=
  behind?_eq_none_iff.1 (by decide)

/-! ## What is read off an echoed prompt -/

/-- **What leaks of an echoed prompt is read as advice, and then the answer proper.** -/
theorem advice_build_append (text name : String) (patterns : List PatternKind) (c : List Char) :
    advice ((build text name patterns).toList ++ c) = leaked text name ++ adviceIn (numeral ++ c) := by
  have hempty : adviceIn [] = [] := rfl
  have hclosing : adviceIn closingLine = [] := by decide
  rw [toList_build_append, advice_eq, leaked, behind?_append_feed not_holds_request,
    behind?_append_feed not_holds_nil]
  cases h : behind? (embedded text name) with
  | some rest =>
    -- the phrase stands in the embedded texts already
    rw [behind?_append h, Option.getD_some, closingLines, adviceIn_append_feed, adviceIn_append_feed,
      adviceIn_append_feed, adviceIn_append_feed, adviceIn_issuesLine, hempty, hclosing]
    rfl
  | none =>
    have hline : behind? closingLine = some [] := by decide
    rw [behind?_append_feed (behind?_eq_none_iff.1 h), closingLines,
      behind?_append_feed (not_holds_issuesLine patterns), behind?_append_feed not_holds_nil,
      behind?_append hline, Option.getD_some, adviceIn_append_feed, hempty]

/-- What leaks stands behind the closing phrase in the snippet or in the name. -/
theorem holds_of_leaked {text name : String} (h : leaked text name ≠ []) :
    Holds closingPhrase (snippet text.toList) ∨ Holds closingPhrase name.toList := by
  have hembedded : Holds closingPhrase (embedded text name) := by
    by_contra hnone
    rw [leaked, behind?_eq_none_iff.2 hnone] at h
    exact h rfl
  have hlabel : "\n\nFunction: ".toList = '\n' :: ([] ++ '\n' :: "Function: ".toList) := by decide
  have hlines : embedded text name =
      snippet text.toList ++ '\n' :: ([] ++ '\n' :: ("Function: ".toList ++ name.toList)) := by
    refine (congrArg (fun label => snippet text.toList ++ label ++ name.toList) hlabel).trans ?_
    simp only [List.append_assoc, List.cons_append, List.nil_append]
  rw [hlines] at hembedded
  rcases holds_of_append_feed hembedded with hsnippet | hembedded
  · exact .inl hsnippet
  rcases holds_of_append_feed hembedded with hnil | hname
  · exact absurd hnil not_holds_nil
  · exact .inr (holds_of_append_any hname (by decide))

/-- Nothing is read off an empty answer. -/
theorem suggestions_numeral : suggestions ("1." ++ "") = fallback := by
  have hnone : advice ("1." ++ "").toList = [] := by decide
  rw [suggestions, hnone]
  rfl

/-- **An echoed prompt is discarded exactly if nothing of it leaks.** What is read off an answer that
repeats its prompt is first what leaks, and then what is read off the answer alone. Nothing leaks if
neither the snippet nor the name holds the closing phrase. -/
theorem echo_discarded_iff (text name : String) (patterns : List PatternKind) :
    (∀ c : String, ¬ Holds closingPhrase c.toList →
      advice (build text name patterns ++ c).toList =
        leaked text name ++ advice ("1." ++ c).toList) ∧
    ((∀ c : String, ¬ Holds closingPhrase c.toList →
      suggestions (build text name patterns ++ c) = suggestions ("1." ++ c)) ↔
        leaked text name = []) ∧
    (leaked text name ≠ [] →
      Holds closingPhrase (snippet text.toList) ∨ Holds closingPhrase name.toList) := by
  have hadvice (c : String) (hc : ¬ Holds closingPhrase c.toList) :
      advice (build text name patterns ++ c).toList =
        leaked text name ++ advice ("1." ++ c).toList := by
    rw [String.toList_append, String.toList_append, advice_build_append, advice_eq (_ ++ _),
      behind?_eq_none_iff.2 fun h => hc (holds_of_append_any h (by decide))]
    rfl
  refine ⟨hadvice, ⟨fun hall => ?_, fun hleaked c hc => ?_⟩, holds_of_leaked⟩
  · by_contra hleaked
    have hempty : ¬ Holds closingPhrase "".toList := not_holds_nil
    refine suggestions_ne_fallback ?_ ((hall "" hempty).trans suggestions_numeral)
    rw [hadvice "" hempty]
    exact List.append_ne_nil_of_left_ne_nil hleaked _
  · rw [suggestions, suggestions, hadvice c hc, hleaked, List.nil_append]

/-- A function with a comment that holds the closing phrase. -/
def commentedPhrase : String :=
  "function f() \x7b\n  // Gas optimizations: use calldata instead of memory arrays\n\x7d"

/-- **A comment leaks**: it is read as advice, where the answer itself has none. -/
theorem commented_phrase_leaks :
    (suggestions (build commentedPhrase "f" [] ++ "")).map (·.message) =
      ["Calldata instead of memory arrays \x7d."] ∧
    suggestions ("1." ++ "") = fallback ∧
    suggestions (build commentedPhrase "f" [] ++ "") ≠ suggestions ("1." ++ "") := by
  have hleaked : (suggestions (build commentedPhrase "f" [] ++ "")).map (·.message) =
      ["Calldata instead of memory arrays \x7d."] := by decide +kernel
  refine ⟨hleaked, suggestions_numeral, fun heq => ?_⟩
  have hlength := congrArg List.length hleaked
  rw [heq, suggestions_numeral] at hlength
  exact absurd hlength (by decide)

end Prompt

end GasAdvisor
