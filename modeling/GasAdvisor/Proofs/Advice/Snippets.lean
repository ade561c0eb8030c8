import GasAdvisor.Advice.Prompt
import GasAdvisor.Proofs.Text.Search
import GasAdvisor.Proofs.Text.Shapes
import GasAdvisor.Proofs.Text.Slices
import GasAdvisor.Proofs.Text.Spaced

/-!
# Snippets of code

A prompt embeds a snippet of a text, in which every run of white space is one space. So it shows the words
of the text and nothing else (`trim_collapse`): what white space stands between the words, before the
first one and after the last one makes no difference.

`build_of_words` says what is in a prompt for all texts. Of the words, joined by single spaces, no more
than the first 120 characters are kept, and three points stand for the rest (`IsSnippet`).
-/

namespace GasAdvisor.Prompt

open Text

/-- A text in which no character of white space follows another one. -/
def IsApart (text : List Char) : Prop :=
  text.IsChain fun c d => ¬ (isBlank c = true ∧ isBlank d = true)

/-- What a prompt shows of some words: the words joined by single spaces, or their first 120 characters
and three points. The cut falls between two characters of the encoded text, and no white space is left but
single spaces. -/
structure IsSnippet (ws : List (List Char)) (shown : List Char) : Prop where
  whole : (join [' '] ws).length ≤ 120 → shown = join [' '] ws
  cut : 120 < (join [' '] ws).length → shown = (join [' '] ws).take 120 ++ "...".toList ∧
    slice? (join [' '] ws) (spanAt (join [' '] ws) 0 120) = some ((join [' '] ws).take 120)
  spaces : ∀ c ∈ shown, isBlank c = true → c = ' '
  apart : IsApart shown

variable {w gap row rest : List Char} {ws : List (List Char)}

/-! ## Collapsed white space -/

/-- What stands before a text makes no difference to its white space. -/
theorem replaceFrom_blanks (before : Option Char) (text : List Char) :
    (Shape.many1 isBlank).replaceFrom [' '] before 0 text = collapse text := by
  cases text <;> rfl

/-- A word stays as it is. -/
theorem collapse_append_of_solid (hw : ∀ c ∈ w, isBlank c = false) (rest : List Char) :
    collapse (w ++ rest) = w ++ collapse rest := by
  induction w with
  | nil => rfl
  | cons c w ih =>
    obtain ⟨hc, hw⟩ := List.forall_mem_cons.1 hw
    have hnone : Shape.many1 isBlank none (c :: (w ++ rest)) = none := if_neg (by simp [hc])
    rw [List.cons_append, collapse, Shape.replaceAll, Shape.replaceFrom, hnone]
    show c :: Shape.replaceFrom _ _ _ 0 (w ++ rest) = _
    rw [replaceFrom_blanks, ih hw, List.cons_append]

/-- A run of white space becomes one space. -/
theorem collapse_append_of_blank (hne : gap ≠ []) (hgap : ∀ c ∈ gap, isBlank c = true)
    (hrest : Stops isBlank rest) : collapse (gap ++ rest) = ' ' :: collapse rest := by
  have hmatch := Shape.many1_append hne hgap hrest none
  rw [collapse, Shape.replaceAll, Shape.replaceFrom_append_of_some [' '] hne hmatch, replaceFrom_blanks]
  rfl

/-- A row of words starts with no white space. -/
theorem stops_inRow (h : InRow ws row) (hws : ∀ w ∈ ws, IsWhole w) : Stops isBlank row := by
  cases h with
  | nil => exact stops_nil
  | cons => exact (hws _ List.mem_cons_self).stops _

/-- **Spaced words are collapsed to words joined by spaces**, with a space at the end if there is white
space. -/
theorem collapse_inRow (h : InRow ws row) (hws : ∀ w ∈ ws, IsWhole w) :
    ∃ tail, (tail = [] ∨ tail = [' ']) ∧ collapse row = join [' '] ws ++ tail := by
  -- along the row each word stays as it is, and only the gap after the last one may be left over
  induction h with
  | nil => exact ⟨[], .inl rfl, rfl⟩
  | @cons w gap rest ws hgap hsep hrow ih =>
    obtain ⟨hw, hws⟩ := List.forall_mem_cons.1 hws
    obtain ⟨tail, htail, hrest⟩ := ih hws
    rw [collapse_append_of_solid hw.solid]
    cases ws with
    | nil =>
      -- only white space follows the last word
      obtain rfl := hrow.eq_nil
      rcases List.eq_nil_or_concat' gap with rfl | ⟨_, _, rfl⟩
      · exact ⟨[], .inl rfl, rfl⟩
      · exact ⟨[' '], .inr rfl, by rw [collapse_append_of_blank (by simp) hgap stops_nil]; rfl⟩
    | cons v ws =>
      rw [collapse_append_of_blank (hsep (List.cons_ne_nil v ws)) hgap (stops_inRow hrow hws), hrest]
      exact ⟨tail, htail, by simp [join]⟩

/-! ## Joined words -/

/-- Joined texts end in the last one. -/
theorem exists_join_eq_append (separator : List Char) (w : List Char) (ws : List (List Char)) :
    ∃ last ∈ w :: ws, ∃ front, join separator (w :: ws) = front ++ last := by
  induction ws generalizing w with
  | nil => exact ⟨w, List.mem_singleton_self w, [], rfl⟩
  | cons v ws ih =>
    obtain ⟨last, hlast, front, hjoin⟩ := ih v
    refine ⟨last, List.mem_cons_of_mem w hlast, w ++ separator ++ front, ?_⟩
    rw [join_cons_cons, hjoin, List.append_assoc _ front]

/-- Joined words have no white space at the front. -/
theorem stops_join (hws : ∀ w ∈ ws, IsWhole w) : Stops isBlank (join [' '] ws) := by
  cases ws with
  | nil => exact stops_nil
  | cons w ws =>
    have hw := hws w List.mem_cons_self
    cases ws with
    | nil => simpa [join] using hw.stops []
    | cons v ws =>
      rw [join_cons_cons, List.append_assoc]
      exact hw.stops _

/-- Joined words have no white space at the end. -/
theorem stops_reverse_join (hws : ∀ w ∈ ws, IsWhole w) : Stops isBlank (join [' '] ws).reverse := by
  cases ws with
  | nil => exact stops_nil
  | cons w ws =>
    obtain ⟨last, hlast, front, hjoin⟩ := exists_join_eq_append [' '] w ws
    rw [hjoin, List.reverse_append]
    exact (hws last hlast).reverse.stops _

theorem blank_of_mem_join (hws : ∀ w ∈ ws, IsWhole w) {c : Char} (hc : c ∈ join [' '] ws)
    (hblank : isBlank c = true) : c = ' ' := by
  rcases mem_join hc with hspace | ⟨w, hw, hmem⟩
  · exact List.mem_singleton.1 hspace
  · rw [(hws w hw).solid c hmem] at hblank
    cases hblank

theorem isApart_of_solid (hw : ∀ c ∈ w, isBlank c = false) : IsApart w := by
  refine List.isChain_iff_forall_rel_of_append_cons_cons.2 fun c d front back hsplit hblank => ?_
  rw [hw c (by simp [hsplit])] at hblank
  exact Bool.false_ne_true hblank.1

/-- White space at one side only of the place where two texts meet keeps them apart. -/
theorem IsApart.append {a b : List Char} (ha : IsApart a) (hb : IsApart b)
    (hmeet : Stops isBlank a.reverse ∨ Stops isBlank b) : IsApart (a ++ b) := by
  refine List.IsChain.append ha hb fun c hc d hd hblank => ?_
  rcases hmeet with hstop | hstop
  · rw [hstop c (by rwa [List.head?_reverse])] at hblank
    exact Bool.false_ne_true hblank.1
  · rw [hstop d hd] at hblank
    exact Bool.false_ne_true hblank.2

/-- **Joined words have single spaces only.** -/
theorem isApart_join (hws : ∀ w ∈ ws, IsWhole w) : IsApart (join [' '] ws) := by
  induction ws with
  | nil => exact .nil
  | cons w ws ih =>
    obtain ⟨hw, hws'⟩ := List.forall_mem_cons.1 hws
    cases ws with
    | nil => exact isApart_of_solid hw.solid
    | cons v ws =>
      have hspace : IsApart (w ++ [' ']) :=
        (isApart_of_solid hw.solid).append (.singleton ' ') (.inl (by simpa using hw.reverse.stops []))
      rw [join_cons_cons]
      exact hspace.append (ih hws') (.inr (stops_join hws'))

/-! ## The words of a snippet -/

/-- **A text with collapsed and trimmed white space is its words, joined by single spaces.** -/
theorem trim_collapse (text : List Char) : trim (collapse text) = join [' '] (words text) := by
  have hspace : isBlank ' ' = true := by decide
  obtain ⟨⟨lead, row, hlead, hrow, htext⟩, hwhole⟩ := words_eq_iff.1 (rfl : words text = words text)
  obtain ⟨tail, htail, hcollapse⟩ := collapse_inRow hrow hwhole
  have hfront : trim (collapse text) = trim (collapse row) := by
    rcases List.eq_nil_or_concat' lead with rfl | ⟨_, _, rfl⟩
    · rw [htext, List.nil_append]
    · rw [htext, collapse_append_of_blank (by simp) hlead (stops_inRow hrow hwhole),
        trim_cons_blank hspace]
  have hjoin : trim (join [' '] (words text)) = join [' '] (words text) := by
    have hstops : Stops isBlank (join [' '] (words text) ++ []) := by simpa using stops_join hwhole
    simpa using trim_append_of_stops hstops (stops_reverse_join hwhole) (by simp)
  rw [hfront, hcollapse]
  rcases htail with rfl | rfl
  · rw [List.append_nil, hjoin]
  · rw [trim_append_singleton hspace, hjoin]

/-- **A snippet shows the words of its text.** -/
theorem isSnippet_snippet (text : List Char) : IsSnippet (words text) (snippet text) := by
  have hwhole : ∀ w ∈ words text, IsWhole w := (words_eq_iff.1 rfl).2
  have hsnippet : snippet text = if 120 < (join [' '] (words text)).length then
      (join [' '] (words text)).take 120 ++ "...".toList else join [' '] (words text) := by
    rw [← trim_collapse]
    rfl
  have hpoints : ∀ c ∈ "...".toList, isBlank c = false := by
    have hall : "...".toList.all (!isBlank ·) = true := by decide
    simpa using List.all_eq_true.1 hall
  rw [hsnippet]
  split
  · next hlong =>
    refine ⟨fun hshort => absurd hlong (not_lt.2 hshort), fun _ => ⟨rfl, ?_⟩, fun c hc hblank => ?_, ?_⟩
    · exact slice?_spanAt (join [' '] (words text)) 0 120
    · rcases List.mem_append.1 hc with hfront | hpoint
      · exact blank_of_mem_join hwhole (List.mem_of_mem_take hfront) hblank
      · rw [hpoints c hpoint] at hblank
        cases hblank
    · refine IsApart.append ((isApart_join hwhole).take 120) (isApart_of_solid hpoints) (.inr ?_)
      exact stops_cons.2 (by decide)
  · next hshort =>
    exact ⟨fun _ => rfl, fun hlong => absurd hlong hshort, fun c => blank_of_mem_join hwhole,
      isApart_join hwhole⟩

/-- The second of some texts stands between the first one and all others. -/
theorem append_around (front shown label name issues kinds closing : List Char) :
    front ++ shown ++ label ++ name ++ issues ++ kinds ++ closing =
      front ++ shown ++ (label ++ name ++ issues ++ kinds ++ closing) := by
  simp only [List.append_assoc]

theorem exists_toList_build (name : String) (patterns : List PatternKind) :
    ∃ front back, ∀ text, (build text name patterns).toList = front ++ snippet text.toList ++ back :=
  ⟨"Optimize this Solidity function for gas efficiency:\n\n".toList,
    "\n\nFunction: ".toList ++ name.toList ++ "\nIssues: ".toList ++ issues patterns ++
      "\n\nGas optimizations:\n1.".toList,
    fun _ => String.toList_ofList.trans (append_around _ _ _ _ _ _ _)⟩

/-- Texts of the same words have the same snippet. -/
theorem snippet_congr {a b : List Char} (h : words a = words b) : snippet a = snippet b := by
  rw [snippet, snippet, trim_collapse, trim_collapse, h]

/-- **A prompt depends on the words of its text only.** It has a snippet of the text between parts in which
the text plays no role, and the snippet shows the words; so texts of the same words have the same prompt,
whatever white space they have. -/
theorem build_of_words (name : String) (patterns : List PatternKind) :
    (∃ front back, ∀ text, (build text name patterns).toList = front ++ snippet text.toList ++ back) ∧
    (∀ text, IsSnippet (words text) (snippet text)) ∧
    ∀ text text', words text.toList = words text'.toList →
      build text name patterns = build text' name patterns := by
  obtain ⟨front, back, hbuild⟩ := exists_toList_build name patterns
  refine ⟨⟨front, back, hbuild⟩, isSnippet_snippet, fun text text' hwords => ?_⟩
  rw [← String.toList_inj, hbuild, hbuild, snippet_congr hwords]

/-- A function over several lines. -/
def spreadCode : String :=
  "function settle(uint256[] calldata shares, address payee)\n  external\n" ++
    "  returns (uint256 total, bool done);\n  // rounds down to whole shares\n"

/-- The same function on one line, with other white space. -/
def denseCode : String :=
  "\u00a0function settle(uint256[]\u2003calldata shares, address\tpayee) external" ++
    " returns (uint256 total, bool  done); // rounds\r\ndown to whole shares"

/-- Both functions have the same prompt, which shows 120 of their characters. -/
theorem build_of_words_of_code :
    words spreadCode.toList = words denseCode.toList ∧ spreadCode ≠ denseCode ∧
      build spreadCode "settle" [.loop] = build denseCode "settle" [.loop] ∧
      120 < (join [' '] (words spreadCode.toList)).length ∧
      String.ofList (snippet spreadCode.toList) =
        "function settle(uint256[] calldata shares, address payee) external" ++
          " returns (uint256 total, bool done); // rounds down to..." := by
  obtain ⟨-, hsnippet, hbuild⟩ := build_of_words "settle" [.loop]
  have hwords : words spreadCode.toList = words denseCode.toList := by decide +kernel
  have hlong : 120 < (join [' '] (words spreadCode.toList)).length := by decide +kernel
  refine ⟨hwords, by decide +kernel, hbuild _ _ hwords, hlong, ?_⟩
  rw [((hsnippet spreadCode.toList).cut hlong).1]
  decide +kernel

end GasAdvisor.Prompt
