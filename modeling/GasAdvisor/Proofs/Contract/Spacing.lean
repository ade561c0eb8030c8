import GasAdvisor.Proofs.Contract.Masked
import GasAdvisor.Proofs.Text.Shapes

/-!
# White space in code

Hidden characters become spaces, and how many of them does not matter to what a source declares. Two
texts are `Respaced` if each space of the first one stands for one or more spaces of the second.
Shapes that take no space of a fixed number see the same in both (`Shape.IgnoresSpacing`), and with
them the search for a declaration (`Declaration.isPresent_respaced`, `Declaration.name_respaced`).

Masked code is respaced code (`respaced_codeChars_mask`), and masking it again changes nothing
(`mask_mask`). So both ways of scanning read a declaration off the same text, the source masked
once: this is `Contract.declaration_read_alike`.
-/

namespace GasAdvisor

open Text

namespace Text

/-! ## Respaced texts -/

/-- Texts of which the second one has one or more spaces for each space of the first. -/
inductive Respaced : List Char → List Char → Prop
  | nil : Respaced [] []
  | keep (c : Char) {a b : List Char} : Respaced a b → Respaced (c :: a) (c :: b)
  | widen (n : Nat) {a b : List Char} :
      Respaced a b → Respaced (' ' :: a) (List.replicate (n + 1) ' ' ++ b)

namespace Respaced

variable {a b : List Char}

theorem head?_eq (h : Respaced a b) : a.head? = b.head? := by
  cases h with
  | nil | keep => rfl
  | widen n h => rw [List.replicate_succ]; rfl

/-- A text without spaces stands at the front of both or of none, with respaced rests. -/
theorem exists_of_prefix {w : List Char} (hw : ' ' ∉ w) (h : Respaced a b) :
    (w <+: a ↔ w <+: b) ∧ (w <+: a → Respaced (a.drop w.length) (b.drop w.length)) := by
  induction w generalizing a b with
  | nil => exact ⟨by simp, fun _ => h⟩
  | cons c w ih =>
    obtain ⟨hc, hrest⟩ : ¬ ' ' = c ∧ ' ' ∉ w := by simpa using hw
    cases h with
    | nil => simp
    | keep d h =>
      obtain ⟨hiff, hdrop⟩ := ih hrest h
      rw [List.cons_prefix_cons, List.cons_prefix_cons, hiff]
      exact ⟨Iff.rfl, fun ⟨_, hp⟩ => hdrop (hiff.2 hp)⟩
    | widen n h =>
      rw [List.replicate_succ, List.cons_append]
      simp [List.cons_prefix_cons, Ne.symm hc]

/-- White space at the front is passed over in both, up to respaced rests. It ends alike. -/
theorem dropWhile_isBlank (h : Respaced a b) :
    (a.takeWhile isBlank).getLast? = (b.takeWhile isBlank).getLast? ∧
      Respaced (a.dropWhile isBlank) (b.dropWhile isBlank) := by
  induction h with
  | nil => exact ⟨rfl, .nil⟩
  | keep c h ih =>
    by_cases hc : isBlank c = true
    · rw [List.takeWhile_cons_of_pos hc, List.takeWhile_cons_of_pos hc, List.dropWhile_cons_of_pos hc,
        List.dropWhile_cons_of_pos hc, List.getLast?_cons, List.getLast?_cons, ih.1]
      exact ⟨rfl, ih.2⟩
    · rw [List.takeWhile_cons_of_neg hc, List.takeWhile_cons_of_neg hc, List.dropWhile_cons_of_neg hc,
        List.dropWhile_cons_of_neg hc]
      exact ⟨rfl, .keep c h⟩
  | widen n h ih =>
    have hspaces : ∀ c ∈ List.replicate (n + 1) ' ', isBlank c = true := by
      intro c hc
      rw [List.eq_of_mem_replicate hc]
      decide
    have hspace : isBlank ' ' = true := by decide
    rw [List.takeWhile_append_of_pos hspaces, List.dropWhile_append_of_pos hspaces,
      List.takeWhile_cons_of_pos hspace, List.dropWhile_cons_of_pos hspace]
    refine ⟨?_, ih.2⟩
    rw [List.getLast?_cons, List.getLast?_append, ← ih.1, List.getLast?_replicate]
    simp

/-- The word at the front is the same in both. -/
theorem takeWhile_isWord (h : Respaced a b) : a.takeWhile isWord = b.takeWhile isWord := by
  have hspace : isWord ' ' = false := by decide
  induction h with
  | nil => rfl
  | keep c h ih =>
    rw [List.takeWhile_cons, List.takeWhile_cons, ih]
  | widen n h =>
    rw [List.replicate_succ, List.cons_append]
    simp [hspace]

end Respaced

/-! ## Shapes -/

namespace Shape

/-- A shape that matches respaced texts alike: in both or in none, with the same last character and
with respaced rests. -/
def IgnoresSpacing (shape : Shape) : Prop :=
  ∀ before a b, Respaced a b →
    Option.Rel (fun found found' =>
      found.1.getLast? = found'.1.getLast? ∧ Respaced found.2 found'.2)
      (shape before a) (shape before b)

theorem ignoresSpacing_literal {w : List Char} (hw : ' ' ∉ w) : IgnoresSpacing (literal w) := by
  intro before a b h
  obtain ⟨hiff, hdrop⟩ := h.exists_of_prefix hw
  rw [← List.isPrefixOf_iff_prefix, ← List.isPrefixOf_iff_prefix] at hiff
  by_cases hp : w.isPrefixOf a = true
  · rw [literal, literal, if_pos hp, if_pos (hiff.1 hp)]
    exact .some ⟨rfl, hdrop (List.isPrefixOf_iff_prefix.1 hp)⟩
  · rw [literal, literal, if_neg hp, if_neg fun hp' => hp (hiff.2 hp')]
    exact .none

theorem ignoresSpacing_wordEdge : IgnoresSpacing wordEdge := by
  intro before a b h
  rw [wordEdge, wordEdge, h.head?_eq]
  split
  · exact .some ⟨rfl, h⟩
  · exact .none

theorem ignoresSpacing_many1_isBlank : IgnoresSpacing (many1 isBlank) := by
  intro before a b h
  rw [many1_eq, many1_eq, h.head?_eq]
  split
  · exact .some h.dropWhile_isBlank
  · exact .none

theorem IgnoresSpacing.andThen {first second : Shape} (h₁ : IgnoresSpacing first)
    (h₂ : IgnoresSpacing second) : IgnoresSpacing (first.andThen second) := by
  intro before a b h
  have hfirst := h₁ before a b h
  unfold Shape.andThen
  revert hfirst
  generalize first before a = found
  generalize first before b = found'
  rintro (@⟨⟨matched, rest⟩, ⟨matched', rest'⟩, hlast, hrest⟩ | _)
  · have hlast : matched.getLast? = matched'.getLast? := hlast
    have hsecond := h₂ (matched.getLast?.or before) rest rest' hrest
    simp only [hlast] at hsecond ⊢
    revert hsecond
    generalize second _ rest = next
    generalize second _ rest' = next'
    rintro (@⟨⟨more, end_⟩, ⟨more', end'⟩, hmore, hend⟩ | _)
    · refine .some ⟨?_, hend⟩
      have hmore : more.getLast? = more'.getLast? := hmore
      simp only [List.getLast?_append, hlast, hmore]
    · exact .none
  · exact .none

/-- What follows the edge of a word is looked for at the same place. -/
theorem wordEdge_andThen_eq_none {shape : Shape} {s : List Char}
    (h : ∀ before, shape before s = none) (before : Option Char) :
    wordEdge.andThen shape before s = none := by
  unfold Shape.andThen wordEdge
  by_cases hedge : (before.any isWord != s.head?.any isWord) = true
  · simp only [hedge, if_true, h]
  · rw [if_neg hedge]

theorem ignoresSpacing_choice {shapes : List Shape} (h : ∀ shape ∈ shapes, IgnoresSpacing shape) :
    IgnoresSpacing (choice shapes) := by
  intro before a b hab
  induction shapes with
  | nil => exact .none
  | cons shape shapes ih =>
    have hshape := h shape List.mem_cons_self before a b hab
    have hrest := ih fun shape' hmem => h shape' (List.mem_cons_of_mem shape hmem)
    simp only [choice]
    revert hshape
    generalize shape before a = found
    generalize shape before b = found'
    rintro (hfound | _)
    · exact .some hfound
    · exact hrest

end Shape

/-! ## Searching -/

/-- **A search finds the same in respaced texts** if nothing that it looks for starts with a space and
it finds the same at each place. -/
theorem firstFrom_respaced {α β : Type} {find : Option Char → List Char → Option α} (value : α → β)
    (hspace : ∀ before s, find before (' ' :: s) = none)
    (hfind : ∀ before a b, Respaced a b → (find before a).map value = (find before b).map value)
    {a b : List Char} (h : Respaced a b) (before : Option Char) :
    (firstFrom find before a).map value = (firstFrom find before b).map value := by
  induction h generalizing before with
  | nil => rfl
  | keep c h ih =>
    have hc := hfind before _ _ (.keep c h)
    rw [firstFrom, firstFrom]
    revert hc
    cases find before (c :: _) <;> cases find before (c :: _) <;> intro hc
    · exact ih (some c)
    · cases hc
    · cases hc
    · exact hc
  | @widen n a b h ih =>
    have hspaces (before : Option Char) :
        firstFrom find before (List.replicate (n + 1) ' ' ++ b) = firstFrom find (some ' ') b := by
      induction n generalizing before with
      | zero =>
        show firstFrom find before (' ' :: b) = _
        rw [firstFrom, hspace]
      | succ n ihn =>
        rw [List.replicate_succ, List.cons_append, firstFrom, hspace]
        exact ihn _
    rw [hspaces, firstFrom, hspace]
    exact ih (some ' ')

/-- **A shape that ignores spacing occurs in both of two respaced texts or in none.** -/
theorem Shape.IgnoresSpacing.occurs_eq {shape : Shape} (hshape : shape.IgnoresSpacing)
    (hspace : ∀ before s, shape before (' ' :: s) = none) {a b : List Char} (h : Respaced a b) :
    shape.occurs a = shape.occurs b := by
  have hfind (before : Option Char) (a b : List Char) (hab : Respaced a b) :
      (shape before a).map (fun _ => ()) = (shape before b).map (fun _ => ()) := by
    have hrel := hshape before a b hab
    revert hrel
    generalize shape before a = found
    generalize shape before b = found'
    rintro (_ | _) <;> rfl
  have hfirst := congrArg Option.isSome (firstFrom_respaced _ hspace hfind h none)
  rwa [Option.isSome_map, Option.isSome_map] at hfirst

end Text

/-! ## Declarations -/

namespace Declaration

theorem not_mem_space_of_mem_keywords : ∀ w ∈ keywords, ' ' ∉ w := by
  decide

theorem ignoresSpacing_keywords : Shape.IgnoresSpacing (Shape.oneOf keywords) := by
  refine Shape.ignoresSpacing_choice fun shape hshape => ?_
  obtain ⟨w, hw, rfl⟩ := List.mem_map.1 hshape
  exact Shape.ignoresSpacing_literal (not_mem_space_of_mem_keywords w hw)

/-- No declaration starts with a space. -/
theorem seq_keywords_space (last : Shape) (before : Option Char) (s : List Char) :
    Shape.seq [.wordEdge, .oneOf keywords, last] before (' ' :: s) = none :=
  Shape.wordEdge_andThen_eq_none (fun _ => rfl) before

theorem ignoresSpacing_seq_keywords {last : Shape} (h : last.IgnoresSpacing) :
    (Shape.seq [.wordEdge, .oneOf keywords, last]).IgnoresSpacing :=
  Shape.ignoresSpacing_wordEdge.andThen (ignoresSpacing_keywords.andThen h)

variable {a b : List Char}

/-- **Whether code declares anything does not depend on the width of its spaces.** -/
theorem isPresent_respaced (h : Respaced a b) : isPresent a = isPresent b :=
  (ignoresSpacing_seq_keywords Shape.ignoresSpacing_wordEdge).occurs_eq
    (seq_keywords_space Shape.wordEdge) h

theorem nameAt_space (before : Option Char) (s : List Char) : nameAt before (' ' :: s) = none := by
  rw [nameAt, seq_keywords_space]
  rfl

theorem nameAt_respaced (before : Option Char) (h : Respaced a b) :
    nameAt before a = nameAt before b := by
  have hseq := ignoresSpacing_seq_keywords Shape.ignoresSpacing_many1_isBlank before a b h
  unfold nameAt
  revert hseq
  generalize Shape.seq _ before a = found
  generalize Shape.seq _ before b = found'
  rintro (⟨-, hrest⟩ | _)
  · simp only [Option.bind_eq_bind, Option.bind_some, hrest.takeWhile_isWord]
  · rfl

/-- **Nor does the name that code declares.** -/
theorem name_respaced (h : Respaced a b) : name a = name b := by
  have hfirst := firstFrom_respaced id nameAt_space
    (fun before _ _ hab => congrArg _ (nameAt_respaced before hab)) h none
  rw [Option.map_id, id, id] at hfirst
  rw [name, name, first?, first?, hfirst]

end Declaration

/-! ## Masked code -/

theorem respaced_map_code (gs : List Glyph) : Respaced (gs.map Glyph.code) (blanked gs) := by
  induction gs with
  | nil => exact .nil
  | cons g gs ih =>
    obtain ⟨c, visible⟩ := g
    cases visible with
    | true => exact .keep c ih
    | false =>
      rw [blanked_cons_hidden]
      obtain ⟨n, hn⟩ := Nat.exists_eq_succ_of_ne_zero (width_pos c).ne'
      rw [hn]
      exact .widen n ih

/-- Code has one space for a hidden character, and masked text one for each of its bytes. -/
theorem respaced_codeChars_mask (source : List Char) : Respaced (codeChars source) (mask source) :=
  respaced_map_code (glyphs source)

namespace Contract

/-- Whether a source declares anything, when it is scanned in a certain way. -/
def declares (scanning : Scanning) (source : String) : Bool :=
  Declaration.isPresent (codeChars (scanning.scan source.toList))

/-- **Both ways of scanning read declarations off the source masked once.** -/
theorem respaced_codeChars_scan (scanning : Scanning) (source : List Char) :
    Respaced (codeChars (scanning.scan source)) (mask source) := by
  cases scanning with
  | text =>
    rw [Scanning.scan_text]
    exact respaced_codeChars_mask source
  | masking =>
    have hmask : Respaced (codeChars (mask source)) (mask (mask source)) :=
      respaced_codeChars_mask (mask source)
    rwa [mask_mask] at hmask

theorem declares_eq (scanning : Scanning) (source : String) :
    declares scanning source = Declaration.isPresent (mask source.toList) :=
  Declaration.isPresent_respaced (respaced_codeChars_scan scanning source.toList)

theorem read_of_not_declares {scanning : Scanning} {source : String}
    (h : declares scanning source = false) :
    read scanning source = invalid (1 + source.toList.count '\n') := by
  unfold declares at h
  rw [read_eq, if_neg (by rw [h]; exact Bool.false_ne_true), lineCount, Nat.add_comm]

theorem name_read_of_declares {scanning : Scanning} {source : String}
    (h : declares scanning source = true) :
    (read scanning source).name = Declaration.name (mask source.toList) := by
  unfold declares at h
  rw [read_eq, if_pos h]
  exact Declaration.name_respaced (respaced_codeChars_scan scanning source.toList)

/-- The name of a contract is read off the source masked once. -/
theorem name_read (scanning : Scanning) (source : String) :
    (read scanning source).name =
      if Declaration.isPresent (mask source.toList) then Declaration.name (mask source.toList)
      else invalidName := by
  rw [← declares_eq scanning]
  split
  · next h => exact name_read_of_declares h
  · next h => rw [read_of_not_declares (Bool.eq_false_iff.2 h)]; rfl

/-- **Both ways of scanning agree on what a source declares**, however malformed it is. They see a
declaration in the same sources; where there is none, both give the contract that stands for a text
without any declaration, and where there is one, both give its name. They count the same lines, those
of the source as it stands. -/
theorem declaration_read_alike (source : String) :
    (read .text source).name = (read .masking source).name ∧
    (read .text source).isInvalid = (read .masking source).isInvalid ∧
    declares .text source = declares .masking source ∧
    ∀ scanning,
      (declares scanning source = false →
        read scanning source = invalid (1 + source.toList.count '\n')) ∧
      (declares scanning source = true →
        (read scanning source).name = Declaration.name (mask source.toList)) ∧
      (read scanning source).totalLines = 1 + source.toList.count '\n' := by
  have hname : (read .text source).name = (read .masking source).name := by
    rw [name_read, name_read]
  refine ⟨hname, ?_, ?_, fun scanning =>
    ⟨read_of_not_declares, name_read_of_declares,
      (totalLines_read scanning source).trans (Nat.add_comm _ 1)⟩⟩
  · rw [isInvalid, isInvalid, hname]
  · rw [declares_eq, declares_eq]

end Contract

end GasAdvisor
