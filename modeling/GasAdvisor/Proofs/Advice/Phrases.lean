import GasAdvisor.Proofs.Advice.Sentences

/-!
# Phrases of the prompt in advice

No line that is advice has a phrase of the prompt, but it is the line itself that is searched for them,
in the case that it has. What is then made of it gets a first letter in upper case, and all phrases have
one: a line that starts with a phrase but for its capital becomes a sentence that starts with the phrase.
This is the only way for a phrase to come back (`mentions_clean_iff`), as no upper case has the small
letter that follows the capital, no phrase has a full stop and none has white space at its ends.

`echo_surfaces_iff` says of any answer which phrases its suggestions have.
-/

namespace GasAdvisor.Answer

open Text

/-- A text that starts with a phrase, but with a character for its capital that only has it as upper
case, or as the end of it. -/
def StartsUncapitalized (phrase : List Char) : List Char → Prop
  | [] => False
  | c :: rest => (upperChar c).getLast? = phrase.head? ∧ phrase.tail <+: rest

instance (phrase : List Char) : DecidablePred (StartsUncapitalized phrase)
  | [] => inferInstanceAs (Decidable False)
  | _ :: _ => inferInstanceAs (Decidable (_ ∧ _))

/-- What is left of a line without a number, a bullet and a verb at its front. -/
def remainder (line : List Char) : List Char :=
  without leadingVerb (without bullet (without numbering line))

variable {phrase text line : List Char}

theorem remainder_suffix (line : List Char) : remainder line <:+ line :=
  (without_suffix yields_leadingVerb).trans
    ((without_suffix yields_bullet).trans (without_suffix yields_numbering))

/-! ## What brings a phrase back -/

/-- **A first letter in upper case brings back the phrases that have it as their capital.** -/
theorem infix_capitalize_iff {capital small : Char} {more : List Char}
    (hsmall : small.isLower = true) (htext : ¬ capital :: small :: more <:+: text) :
    capital :: small :: more <:+: capitalize text ↔
      StartsUncapitalized (capital :: small :: more) text := by
  cases text with
  | nil => simp [capitalize, StartsUncapitalized]
  | cons c rest =>
    have hupper : small ∉ upperChar c := fun hmem => by
      rw [isLower_of_mem_upperChar hmem] at hsmall
      cases hsmall
    show _ <:+: upperChar c ++ rest ↔ _ = some capital ∧ small :: more <+: rest
    constructor
    · intro h
      rcases List.infix_append_iff.1 h with hinside | hbehind | ⟨front, back, hsplit, hfront, hback⟩
      · exact absurd (hinside.subset (by simp)) hupper
      · exact absurd (List.infix_cons_iff.2 (.inr hbehind)) htext
      · -- the upper case ends before the small letter, so it has no more of the phrase than the capital
        cases front with
        | nil =>
          obtain rfl : capital :: small :: more = back := hsplit
          exact absurd (List.infix_cons_iff.2 (.inr hback.isInfix)) htext
        | cons d front =>
          obtain ⟨rfl, htail⟩ := List.cons.inj hsplit
          cases front with
          | nil =>
            obtain rfl : small :: more = back := htail
            obtain ⟨lead, hlead⟩ := hfront
            exact ⟨List.getLast?_eq_some_iff.2 ⟨lead, hlead.symm⟩, hback⟩
          | cons e front =>
            obtain ⟨rfl, -⟩ := List.cons.inj htail
            exact absurd (hfront.subset (by simp)) hupper
    · rintro ⟨hcapital, more', rfl⟩
      obtain ⟨lead, hlead⟩ := List.getLast?_eq_some_iff.1 hcapital
      exact ⟨lead, more', by simp [hlead]⟩

/-- A full stop at the end brings back no phrase without one. -/
theorem infix_terminate_iff (hphrase : '.' ∉ phrase) : phrase <:+: terminate text ↔ phrase <:+: text := by
  rw [terminate]
  split
  · rfl
  · rw [List.infix_concat_iff]
    refine or_iff_right_of_imp fun hend => ?_
    rcases List.suffix_concat_iff.1 hend with rfl | ⟨front, rfl, -⟩
    · exact List.nil_infix
    · exact absurd (List.mem_append_right _ List.mem_cons_self) hphrase

/-- The form of the phrases of the prompt: a capital, a small letter, no full stop and no white space at
the ends. -/
theorem form_of_mem_echoes {echo : List Char} (h : echo ∈ echoes) :
    (∃ capital small more, echo = capital :: small :: more ∧ small.isLower = true) ∧
      '.' ∉ echo ∧ Stops isBlank echo ∧ Stops isBlank echo.reverse := by
  simp only [echoes, List.mem_cons, List.not_mem_nil, or_false] at h
  rcases h with rfl | rfl | rfl | rfl <;>
    exact ⟨⟨_, _, _, rfl, by decide⟩, by decide, stops_cons.2 (by decide), stops_cons.2 (by decide)⟩

/-- **When the sentence that is made of a line has a phrase that the line does not have.** -/
theorem mentions_clean_iff {echo : List Char} (hecho : echo ∈ echoes) (hline : mentions echo line = false) :
    mentions echo (clean line) = true ↔ StartsUncapitalized echo (remainder line) := by
  obtain ⟨⟨capital, small, more, rfl, hsmall⟩, hstop, hfront, hback⟩ := form_of_mem_echoes hecho
  have hrest : ¬ capital :: small :: more <:+: remainder line := fun hmem => by
    rw [mentions_iff.2 (hmem.trans (remainder_suffix line).isInfix)] at hline
    cases hline
  show mentions _ (trim (terminate (capitalize (remainder line)))) = true ↔ _
  rw [mentions_iff, infix_trim_iff hfront hback, infix_terminate_iff hstop,
    infix_capitalize_iff hsmall hrest]

/-! ## Phrases in the suggestions of an answer -/

/-- No line that is advice has a phrase of the prompt. -/
theorem mentions_of_mem_advice {output echo : List Char} (hline : line ∈ advice output)
    (hecho : echo ∈ echoes) : mentions echo line = false := by
  have hqualifies := (List.mem_filter.1 hline).2
  simp only [qualifies, Bool.and_eq_true, Bool.not_eq_true', List.any_eq_false] at hqualifies
  exact Bool.not_eq_true _ ▸ hqualifies.1.2 echo hecho

/-- **Which phrases of the prompt come back.** No line that is advice has one, and a suggestion has one
exactly if it is made of a line that starts with it but for its capital. -/
theorem echo_surfaces_iff (output : String) {echo : List Char} (hecho : echo ∈ echoes) :
    (∀ line ∈ advice output.toList, mentions echo line = false) ∧
    ((∃ suggestion ∈ suggestions output, mentions echo suggestion.message.toList = true) ↔
      ∃ line ∈ (advice output.toList).take maxSuggestions,
        StartsUncapitalized echo (remainder line)) := by
  refine ⟨fun line hline => mentions_of_mem_advice hline hecho, ?_⟩
  by_cases hadvice : advice output.toList = []
  · have hfixed : fallback.all (fun suggestion =>
        echoes.all (!mentions · suggestion.message.toList)) = true := by decide +kernel
    rw [suggestions_eq_fallback_iff.2 hadvice, hadvice]
    refine iff_of_false ?_ (by simp)
    rintro ⟨suggestion, hmem, hmentions⟩
    have hnone := List.all_eq_true.1 (List.all_eq_true.1 hfixed suggestion hmem) echo hecho
    rw [hmentions] at hnone
    cases hnone
  · have hsentence : ∀ line ∈ (advice output.toList).take maxSuggestions,
        (mentions echo (suggestionOf line).message.toList = true ↔
          StartsUncapitalized echo (remainder line)) := fun line hline => by
      have hmessage : (suggestionOf line).message.toList = clean line := String.toList_ofList
      rw [hmessage]
      exact mentions_clean_iff hecho (mentions_of_mem_advice (List.mem_of_mem_take hline) hecho)
    have hfound : suggestions output = ((advice output.toList).take maxSuggestions).map suggestionOf :=
      suggestions_of_advice hadvice
    rw [hfound]
    constructor
    · rintro ⟨_, hmem, hmentions⟩
      obtain ⟨line, hline, rfl⟩ := List.mem_map.1 hmem
      exact ⟨line, hline, (hsentence line hline).1 hmentions⟩
    · rintro ⟨line, hline, hstarts⟩
      exact ⟨suggestionOf line, List.mem_map_of_mem hline, (hsentence line hline).2 hstarts⟩

/-- An answer of one line, which starts with a phrase of the prompt but for its capital. -/
def echoingAnswer : String :=
  "optimize this Solidity function for gas efficiency:"

/-- The first phrase comes back from the line, and the second one does not. -/
theorem echo_surfaces_iff_of_echoing :
    "Optimize this Solidity".toList ∈ echoes ∧ "Function:".toList ∈ echoes ∧
      (∃ suggestion ∈ suggestions echoingAnswer,
        mentions "Optimize this Solidity".toList suggestion.message.toList = true) ∧
      ¬ ∃ suggestion ∈ suggestions echoingAnswer,
        mentions "Function:".toList suggestion.message.toList = true := by
  have hadvice : advice echoingAnswer.toList = [echoingAnswer.toList] := by decide +kernel
  have hfirst : "Optimize this Solidity".toList ∈ echoes := by decide
  have hsecond : "Function:".toList ∈ echoes := by decide
  refine ⟨hfirst, hsecond, ?_, ?_⟩
  · rw [(echo_surfaces_iff echoingAnswer hfirst).2, hadvice]
    exact ⟨_, List.mem_singleton_self _, by decide +kernel⟩
  · rw [(echo_surfaces_iff echoingAnswer hsecond).2, hadvice]
    simp only [maxSuggestions, List.take_succ_cons, List.take_nil, List.mem_singleton]
    rintro ⟨_, rfl, hstarts⟩
    revert hstarts
    decide +kernel

/-- **A phrase of the prompt can come back as advice.** The only suggestion that is read off the answer
has the phrase that its line starts with, but for the capital. -/
theorem echo_as_advice :
    (suggestions "optimize this Solidity function for gas efficiency:").map (·.message) =
      ["Optimize this Solidity function for gas efficiency:."] ∧
    "Optimize this Solidity".toList ∈ echoes ∧
    mentions "Optimize this Solidity".toList
      "Optimize this Solidity function for gas efficiency:.".toList = true := by
  decide +kernel

end GasAdvisor.Answer
