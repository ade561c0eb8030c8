import GasAdvisor.Text.Shape
import GasAdvisor.Proofs.Text.Classes

/-!
# Spans of a class of characters

A span at the front of a text is taken whole when the text after it starts with a character of
another class (`takeWhile_append_of_stop`, `dropWhile_append_of_stop`). That the text after it does so
is what `Stops` says; it is decided by the first character alone. A word stands alone in a text if a
span of characters of words neither ends before it nor goes on after it (`StandsAlone`).
-/

namespace GasAdvisor.Text

variable {p : Char → Bool}

/-- A text that is empty or starts with a character outside of a class. -/
def Stops (p : Char → Bool) (s : List Char) : Prop :=
  ∀ c ∈ s.head?, p c = false

@[simp] theorem stops_nil : Stops p [] := by simp [Stops]

@[simp] theorem stops_cons {c : Char} {s : List Char} : Stops p (c :: s) ↔ p c = false := by
  simp [Stops]

theorem stops_iff_head? {s : List Char} : Stops p s ↔ s.head?.any p = false := by
  cases s <;> simp

theorem stops_dropWhile (p : Char → Bool) (s : List Char) : Stops p (s.dropWhile p) := by
  intro c hc
  have := List.head?_dropWhile_not p s
  rw [Option.mem_def.1 hc] at this
  simpa using this

theorem takeWhile_append_of_stop {a b : List Char} (ha : ∀ c ∈ a, p c = true) (hb : Stops p b) :
    (a ++ b).takeWhile p = a := by
  rw [List.takeWhile_append_of_pos ha]
  cases b with
  | nil => simp
  | cons c b => simp [stops_cons.1 hb]

theorem dropWhile_append_of_stop {a b : List Char} (ha : ∀ c ∈ a, p c = true) (hb : Stops p b) :
    (a ++ b).dropWhile p = b := by
  rw [List.dropWhile_append_of_pos ha]
  cases b with
  | nil => simp
  | cons c b => simp [stops_cons.1 hb]

theorem of_mem_takeWhile {c : Char} {s : List Char} (h : c ∈ s.takeWhile p) : p c = true := by
  have := List.all_takeWhile (p := p) (l := s)
  exact List.all_eq_true.1 this c h

/-- A text that leaves a class does so at a first character. -/
theorem exists_first_not {s : List Char} (h : ¬ ∀ c ∈ s, p c = true) :
    ∃ front c rest, s = front ++ c :: rest ∧ (∀ d ∈ front, p d = true) ∧ p c = false := by
  obtain ⟨c, rest, hrest⟩ := List.exists_cons_of_ne_nil fun hnil =>
    h (List.dropWhile_eq_nil_iff.1 hnil)
  have hstop : p c = false := stops_cons.1 (hrest ▸ stops_dropWhile p s)
  refine ⟨s.takeWhile p, c, rest, ?_, fun d => of_mem_takeWhile, hstop⟩
  rw [← hrest, List.takeWhile_append_dropWhile]

/-- A space is white space. -/
theorem isBlank_of_mem_space : ∀ c ∈ [' '], isBlank c = true := by
  intro c hc
  rw [List.mem_singleton.1 hc]
  decide

/-- A word stops white space. -/
theorem stops_isBlank_of_word {a b : List Char} (hne : a ≠ []) (ha : ∀ c ∈ a, isWord c = true) :
    Stops isBlank (a ++ b) := by
  cases a with
  | nil => exact absurd rfl hne
  | cons c a => exact stops_cons.2 (isBlank_eq_false_of_isWord (ha c (by simp)))

/-- White space stops a word. -/
theorem stops_isWord_of_blank {a b : List Char} (hne : a ≠ []) (ha : ∀ c ∈ a, isBlank c = true) :
    Stops isWord (a ++ b) := by
  cases a with
  | nil => exact absurd rfl hne
  | cons c a => exact stops_cons.2 (isWord_eq_false_of_isBlank (ha c (by simp)))

/-! ## Words that stand alone -/

/-- No character of a word stands at the end of a text. -/
def EndsWords (s : List Char) : Prop :=
  s.getLast?.any isWord = false

/-- A word stands in a text with no character of a word next to it. -/
def StandsAlone (w text : List Char) : Prop :=
  ∃ before after, text = before ++ (w ++ after) ∧ EndsWords before ∧ Stops isWord after

theorem any_isWord_getLast? {s : List Char} (hne : s ≠ []) (hs : ∀ c ∈ s, isWord c = true) :
    s.getLast?.any isWord = true := by
  rw [List.getLast?_eq_some_getLast hne, Option.any_some]
  exact hs _ (List.getLast_mem hne)

/-- What of a word stands at the end of a text can be split off. -/
theorem exists_endsWords_append (s : List Char) :
    ∃ u w, s = u ++ w ∧ EndsWords u ∧ ∀ c ∈ w, isWord c = true := by
  refine ⟨(s.reverse.dropWhile isWord).reverse, (s.reverse.takeWhile isWord).reverse, ?_, ?_, ?_⟩
  · rw [← List.reverse_append, List.takeWhile_append_dropWhile, List.reverse_reverse]
  · rw [EndsWords, List.getLast?_reverse]
    exact stops_iff_head?.1 (stops_dropWhile isWord _)
  · intro c hc
    exact of_mem_takeWhile (List.mem_reverse.1 hc)

end GasAdvisor.Text
