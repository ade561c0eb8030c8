import GasAdvisor.Proofs.Advice.Echo
import GasAdvisor.Proofs.Text.LetterCase
import GasAdvisor.Proofs.Text.Shapes

/-!
# Advice as sentences

What becomes of a line that qualifies as advice. It is told by a keyword in its lower case, and then it
loses a number, a bullet and a leading verb, gets a first letter in upper case, a full stop and trimmed
ends. No keyword reaches into what is taken off (`infix_without`), and upper case, a full stop and
trimming leave its letters, so every keyword of the line is one of the sentence (`mentions_clean`). The
sentence stands on one line and is neither empty nor open at its end (`isSentence_clean`).
-/

namespace GasAdvisor.Answer

open Text

/-- A text that can be shown as a sentence: it stands on one line, without white space around it, and
is ended. -/
structure IsSentence (message : List Char) : Prop where
  ne_nil : message ≠ []
  front : Stops isBlank message
  back : Stops isBlank message.reverse
  oneLine : '\n' ∉ message
  ended : message.getLast? = some '.' ∨ message.getLast? = some '!'

/-- The verbs that only introduce the advice. -/
def introductions : List (List Char) :=
  ["use".toList, "consider".toList, "try".toList, "implement".toList]

variable {word line : List Char}

theorem isPlain_of_mem_keywords (h : word ∈ keywords) : IsPlain word := by
  have hall : ∀ word ∈ keywords, IsPlain word := by decide
  exact hall word h

/-! ## What is taken off a line -/

/-- What is left of a line is its end. -/
theorem without_suffix {shape : Shape} {kind : List Char → Prop} (hyields : shape.Yields kind) :
    without shape line <:+ line := by
  rw [without]
  split
  · next matched rest hfound =>
    obtain ⟨rfl, -⟩ := hyields _ _ _ hfound
    exact List.suffix_append _ _
  · exact List.suffix_refl _

/-- **A word that does not reach into what is taken off a line stands in what is left.** -/
theorem infix_without {shape : Shape} {kind : List Char → Prop} (hyields : shape.Yields kind)
    (hkind : ∀ matched rest, kind matched → word <:+: lowerEach (matched ++ rest) →
      word <:+: lowerEach rest)
    (h : word <:+: lowerEach line) : word <:+: lowerEach (without shape line) := by
  rw [without]
  split
  · next matched rest hfound =>
    obtain ⟨rfl, hmatched⟩ := hyields _ _ _ hfound
    exact hkind matched rest hmatched h
  · exact h

/-- A number, a point and white space have no letter of ASCII. -/
theorem yields_numbering : numbering.Yields fun m => ∀ c ∈ m, IsBare c := by
  refine ((Shape.yields_many1 isDecimalDigit).andThen
    ((Shape.yields_one (· = '.')).andThen (Shape.yields_many isBlank))).mono ?_
  rintro _ ⟨digits, _, ⟨-, hdigits⟩, ⟨_, gap, ⟨point, hpoint, rfl⟩, hgap, rfl⟩, rfl⟩ c hc
  simp only [List.mem_append, List.mem_singleton] at hc
  rcases hc with hdigit | rfl | hblank
  · exact isBare_of_isDecimalDigit (hdigits c hdigit)
  · obtain rfl := of_decide_eq_true hpoint
    exact isBare_of_ascii (by decide) (by decide)
  · exact isBare_of_isBlank (hgap c hblank)

/-- A bullet and white space have no letter of ASCII. -/
theorem yields_bullet : bullet.Yields fun m => ∀ c ∈ m, IsBare c := by
  refine ((Shape.yields_one _).andThen (Shape.yields_many isBlank)).mono ?_
  rintro _ ⟨_, gap, ⟨mark, hmark, rfl⟩, hgap, rfl⟩ c hc
  rcases List.mem_append.1 hc with hmem | hblank
  · obtain rfl := List.mem_singleton.1 hmem
    simp only [Bool.or_eq_true, decide_eq_true_eq] at hmark
    rcases hmark with rfl | rfl
    · exact isBare_of_ascii (by decide) (by decide)
    · exact isBare_of_ascii (by decide) (by decide)
  · exact isBare_of_isBlank (hgap c hblank)

theorem yields_leadingVerb : leadingVerb.Yields fun m =>
    ∃ found gap, (∃ verb ∈ introductions, Spells verb found) ∧ (gap ≠ [] ∧ ∀ c ∈ gap, isBlank c = true) ∧
      m = found ++ gap := by
  refine Shape.Yields.andThen (Shape.Yields.choice fun shape hshape => ?_) (Shape.yields_many1 isBlank)
  obtain ⟨verb, hverb, rfl⟩ : ∃ verb ∈ introductions, Shape.caseless verb = shape := by
    rwa [← List.mem_map]
  intro before s found hfound
  obtain ⟨hsplit, hspells⟩ := Shape.caseless_eq_some_iff.1 hfound
  exact ⟨hsplit, verb, hverb, hspells⟩

/-- **A keyword neither stands in an introducing verb nor reaches out of it.** -/
theorem infix_of_introduction (hword : word ∈ keywords) {found gap rest : List Char}
    (hfound : ∃ verb ∈ introductions, Spells verb found)
    (hgap : gap ≠ [] ∧ ∀ c ∈ gap, isBlank c = true)
    (h : word <:+: lowerEach (found ++ gap ++ rest)) : word <:+: lowerEach rest := by
  have hplain := isPlain_of_mem_keywords hword
  obtain ⟨verb, hverb, hspells⟩ := hfound
  -- the white space behind the verb separates it from what follows, and no verb holds a keyword
  have hnone : introductions.all (fun verb =>
      verb.all Char.isLower && keywords.all (!mentions · verb)) = true := by decide
  obtain ⟨hletters, hkeywords⟩ := Bool.and_eq_true_iff.1 (List.all_eq_true.1 hnone verb hverb)
  have hbare : ∀ d ∈ lowerEach gap, d.isLower = false := fun d =>
    isLower_of_mem_lowerEach fun c hc => isBare_of_isBlank (hgap.2 c hc)
  obtain ⟨d, more, hmore⟩ := List.exists_cons_of_ne_nil (lowerEach_ne_nil hgap.1)
  rw [hmore, List.forall_mem_cons] at hbare
  rw [lowerEach_append, lowerEach_append, hmore, List.append_assoc, List.cons_append] at h
  rcases hplain.infix_of_append_cons hbare.1 h with hplace | hplace
  · have hkept := hspells.keepsLetters (List.all_eq_true.1 hletters)
    have hmentions := mentions_iff.2 (hkept.stands hplain hplace)
    simpa [hmentions] using List.all_eq_true.1 hkeywords word hword
  · exact hplain.infix_of_append hbare.2 hplace

/-! ## What a line is made into -/

/-- A first letter in upper case has the same letters in lower case. -/
theorem infix_capitalize (hword : IsPlain word) {text : List Char} (h : word <:+: lowerEach text) :
    word <:+: lowerEach (capitalize text) := by
  cases text with
  | nil => exact h
  | cons c rest =>
    rw [capitalize, lowerEach_append]
    rcases isBare_or_lowerEach_upperChar c with hbare | hsame
    · have hfirst : ∀ d ∈ [c], IsBare d := List.forall_mem_singleton.2 hbare
      have hrest := hword.infix_of_bare_append hfirst h
      exact hrest.trans (List.suffix_append _ _).isInfix
    · rwa [hsame]

theorem infix_terminate {text : List Char} (h : word <:+: lowerEach text) :
    word <:+: lowerEach (terminate text) := by
  rw [terminate]
  split
  · exact h
  · rw [lowerEach_append]
    exact h.trans (List.prefix_append _ _).isInfix

theorem infix_trim (hword : IsPlain word) {text : List Char} (h : word <:+: lowerEach text) :
    word <:+: lowerEach (trim text) := by
  obtain ⟨lead, trail, htext, hlead, htrail⟩ := exists_append_trim text
  rw [htext] at h
  have hrest := hword.infix_of_bare_append (fun c hc => isBare_of_isBlank (hlead c hc)) h
  exact hword.infix_of_append_bare (fun c hc => isBare_of_isBlank (htrail c hc)) hrest

/-- **A keyword of a line is one of the sentence that is made of it.** -/
theorem mentions_clean (hword : word ∈ keywords) (h : mentions word (lower line) = true) :
    mentions word (lower (clean line)) = true := by
  have hplain := isPlain_of_mem_keywords hword
  refine mentions_iff.2 ((infix_lower_iff hplain).2 ?_)
  have hline := (infix_lower_iff hplain).1 (mentions_iff.1 h)
  have hnumbering := infix_without yields_numbering (fun _ _ => hplain.infix_of_bare_append) hline
  have hbullet := infix_without yields_bullet (fun _ _ => hplain.infix_of_bare_append) hnumbering
  have hverb := infix_without yields_leadingVerb (fun matched rest hmatched hplace => by
    obtain ⟨found, gap, hfound, hgap, rfl⟩ := hmatched
    exact infix_of_introduction hword hfound hgap hplace) hbullet
  exact infix_trim hplain (infix_terminate (infix_capitalize hplain hverb))

/-! ## The form of a sentence -/

theorem line_feed_not_mem_capitalize {text : List Char} (h : '\n' ∉ text) : '\n' ∉ capitalize text := by
  cases text with
  | nil => exact h
  | cons c rest =>
    obtain ⟨hc, hrest⟩ := not_or.1 (mt List.mem_cons.2 h)
    rw [capitalize, List.mem_append, not_or]
    exact ⟨line_feed_not_mem_upperChar (Ne.symm hc), hrest⟩

theorem line_feed_not_mem_terminate {text : List Char} (h : '\n' ∉ text) : '\n' ∉ terminate text := by
  rw [terminate]
  split
  · exact h
  · rw [List.mem_append, not_or]
    exact ⟨h, by decide⟩

/-- **What is made of a line is a sentence.** -/
theorem isSentence_clean (h : '\n' ∉ line) : IsSentence (clean line) := by
  have hended := getLast?_clean line
  refine ⟨?_, stops_trim _, ?_, ?_, hended⟩
  · rintro hnil
    rw [hnil] at hended
    rcases hended with hlast | hlast <;> cases hlast
  · intro c hc
    rw [List.head?_reverse] at hc
    rcases hended with hlast | hlast <;> rw [hlast] at hc <;> obtain rfl := Option.some.inj hc <;> decide
  · have hleft : without leadingVerb (without bullet (without numbering line)) <:+ line :=
      (without_suffix yields_leadingVerb).trans
        ((without_suffix yields_bullet).trans (without_suffix yields_numbering))
    exact fun hmem => line_feed_not_mem_terminate
      (line_feed_not_mem_capitalize fun hfeed => h (hleft.subset hfeed)) (trim_subset _ hmem)

/-! ## The advice of an answer -/

/-- A line that is advice is one line, and it has a keyword. -/
theorem of_mem_advice {output : List Char} (h : line ∈ advice output) :
    '\n' ∉ line ∧ ∃ word ∈ keywords, mentions word (lower line) = true := by
  rw [advice_eq, adviceIn_eq_pieces] at h
  obtain ⟨hmem, hqualifies⟩ := List.mem_filter.1 h
  obtain ⟨piece, hpiece, rfl⟩ := List.mem_map.1 hmem
  refine ⟨fun hfeed => (pieces_eq_iff.1 rfl).2.1 piece hpiece (trim_subset piece hfeed), ?_⟩
  simp only [qualifies, isGasAdvice, Bool.and_eq_true] at hqualifies
  exact List.any_eq_true.1 hqualifies.2.2

theorem suggestions_of_advice {output : String} (h : advice output.toList ≠ []) :
    suggestions output = ((advice output.toList).take 3).map suggestionOf := by
  obtain ⟨line, more, hadvice⟩ := List.exists_cons_of_ne_nil h
  rw [suggestions, hadvice]
  rfl

theorem suggestions_eq_fallback_iff {output : String} :
    suggestions output = fallback ↔ advice output.toList = [] := by
  constructor
  · intro hfallback
    by_contra hadvice
    exact suggestions_ne_fallback hadvice hfallback
  · intro hadvice
    rw [suggestions, hadvice]
    rfl

/-- **Answers always give presentable advice.** There are one to three suggestions; they are the fixed
ones exactly if no line qualifies, and else they are those of the first three lines that do. What is made
of such a line is a sentence, and it has all keywords that made the line qualify, of which there is at
least one. -/
theorem suggestions_presentable (output : String) :
    (1 ≤ (suggestions output).length ∧ (suggestions output).length ≤ 3) ∧
    (suggestions output = fallback ↔ advice output.toList = []) ∧
    (advice output.toList ≠ [] →
      suggestions output = ((advice output.toList).take 3).map suggestionOf) ∧
    ∀ line ∈ advice output.toList,
      IsSentence (suggestionOf line).message.toList ∧
      (∃ word ∈ keywords, mentions word (lower line) = true) ∧
      ∀ word ∈ keywords, mentions word (lower line) = true →
        mentions word (lower (suggestionOf line).message.toList) = true := by
  refine ⟨?_, suggestions_eq_fallback_iff, suggestions_of_advice, fun line hline => ?_⟩
  · by_cases hadvice : advice output.toList = []
    · rw [suggestions_eq_fallback_iff.2 hadvice]
      decide
    · rw [suggestions_of_advice hadvice, List.length_map, List.length_take]
      have hpos := List.length_pos_iff.2 hadvice
      omega
  · have hmessage : (suggestionOf line).message.toList = clean line := String.toList_ofList
    obtain ⟨hfeed, hkeyword⟩ := of_mem_advice hline
    rw [hmessage]
    exact ⟨isSentence_clean hfeed, hkeyword, fun word hword => mentions_clean hword⟩

/-- An answer with two lines of advice among others. -/
def chattyAnswer : String :=
  "Some ideas:\n1. Use\tcalldata for the array parameters\n- cache storage slots in memory!\nDone."

/-- **The two lines are made into sentences** that have their keywords. -/
theorem suggestions_presentable_of_chatty :
    (suggestions chattyAnswer).map (·.message) =
      ["Calldata for the array parameters.", "Cache storage slots in memory!"] ∧
    suggestions chattyAnswer ≠ fallback ∧
    IsSentence (suggestionOf "- cache storage slots in memory!".toList).message.toList ∧
    mentions "storage".toList
      (lower (suggestionOf "- cache storage slots in memory!".toList).message.toList) = true := by
  have hadvice : advice chattyAnswer.toList = ["1. Use\tcalldata for the array parameters".toList,
      "- cache storage slots in memory!".toList] := by decide +kernel
  obtain ⟨-, hfallback, htake, hlines⟩ := suggestions_presentable chattyAnswer
  have hne : advice chattyAnswer.toList ≠ [] := by
    rw [hadvice]
    exact List.cons_ne_nil _ _
  obtain ⟨hsentence, -, hkept⟩ := hlines "- cache storage slots in memory!".toList
    (by rw [hadvice]; exact List.mem_cons_of_mem _ List.mem_cons_self)
  refine ⟨?_, fun heq => hne (hfallback.1 heq), hsentence, ?_⟩
  · rw [htake hne, hadvice]
    decide +kernel
  · exact hkept "storage".toList (by decide) (by decide +kernel)

end GasAdvisor.Answer
