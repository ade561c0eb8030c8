import GasAdvisor.Contract.Declaration
import GasAdvisor.Contract.Masking
import GasAdvisor.Proofs.Text.Shapes

/-!
# The declaration at the front of a text

A text that starts with the word `contract` and a name declares something
(`Declaration.isPresent_contract`), and its name is that one whatever comes after it
(`Declaration.name_contract`): the search for a declaration stops at the first one. Text without
quotes and slashes is code as it stands (`codeChars_append`).
-/

namespace GasAdvisor

open Text

/-! ## Plain code -/

/-- A text that opens no comment and no literal is visible, and what follows it is code as well. -/
theorem glyphsIn_code_append {a : List Char} (ha : ∀ c ∈ a, c ≠ '/' ∧ c ≠ '"' ∧ c ≠ '\'')
    (b : List Char) :
    glyphsIn .code (a ++ b) = a.map (fun c => ⟨c, true⟩) ++ glyphsIn .code b := by
  induction a with
  | nil => rfl
  | cons c a ih =>
    obtain ⟨hslash, hdouble, hsingle⟩ := ha c (by simp)
    have hrest := ih fun d hd => ha d (List.mem_cons_of_mem c hd)
    rw [List.cons_append, glyphsIn, if_neg (by simp [hdouble, hsingle]), hrest]
    · rfl
    · intro rest h
      exact absurd h hslash
    · intro rest h
      exact absurd h hslash

theorem codeChars_append {a : List Char} (ha : ∀ c ∈ a, c ≠ '/' ∧ c ≠ '"' ∧ c ≠ '\'')
    (b : List Char) : codeChars (a ++ b) = a ++ codeChars b := by
  have hvisible : (a.map fun c => (⟨c, true⟩ : Glyph)).map Glyph.code = a := by
    rw [List.map_map]
    exact List.map_id a
  rw [codeChars, glyphs, glyphsIn_code_append ha, List.map_append, hvisible]
  rfl

/-! ## Declarations -/

namespace Declaration

theorem oneOf_keywords_contract (before : Option Char) (s : List Char) :
    Shape.oneOf keywords before ("contract".toList ++ s) = some ("contract".toList, s) := by
  have hfirst (shapes : List Shape) :
      Shape.choice (Shape.literal "contract".toList :: shapes) before ("contract".toList ++ s) =
        some ("contract".toList, s) := by
    simp only [Shape.choice, Shape.literal_append]
  exact hfirst _

theorem wordEdge_contract (s : List Char) :
    Shape.wordEdge none ("contract".toList ++ s) = some ([], "contract".toList ++ s) := by
  have hword : isWord 'c' = true := by decide
  simp [Shape.wordEdge, hword]

theorem wordEdge_space (s : List Char) :
    Shape.wordEdge (some 't') (' ' :: s) = some ([], ' ' :: s) := by
  have hword : isWord 't' = true := by decide
  have hspace : isWord ' ' = false := by decide
  simp [Shape.wordEdge, hword, hspace]

theorem keyword_contract (s : List Char) :
    keyword none ("contract".toList ++ ' ' :: s) = some ("contract".toList, ' ' :: s) := by
  have hlast : "contract".toList.getLast?.or (([] : List Char).getLast?.or none) = some 't' := rfl
  simp only [keyword, Shape.seq, Shape.andThen, wordEdge_contract, oneOf_keywords_contract, hlast,
    wordEdge_space]
  rfl

/-- **A text that starts with a contract declares something.** -/
theorem isPresent_contract (s : List Char) :
    isPresent ("contract".toList ++ ' ' :: s) = true := by
  have hfirst : first? keyword ("contract".toList ++ ' ' :: s) =
      some ("contract".toList, ' ' :: s) := by
    have hkeyword := keyword_contract s
    have hcons : "contract".toList ++ ' ' :: s = 'c' :: ("ontract".toList ++ ' ' :: s) := rfl
    rw [hcons] at hkeyword ⊢
    rw [first?, firstFrom, hkeyword]
  rw [isPresent, Shape.occurs, hfirst]
  rfl

theorem nameAt_contract {w : List Char} (hne : w ≠ []) (hw : ∀ c ∈ w, isWord c = true)
    (s : List Char) : nameAt none ("contract".toList ++ ' ' :: (w ++ ' ' :: s)) = some w := by
  have hspace : isBlank ' ' = true := by decide
  have hblank : (w ++ ' ' :: s).dropWhile isBlank = w ++ ' ' :: s :=
    dropWhile_append_of_stop (a := []) (by simp) (stops_isBlank_of_word hne hw)
  have hword : (w ++ ' ' :: s).takeWhile isWord = w :=
    takeWhile_append_of_stop hw (by simp; decide)
  have hsome : w.isEmpty = false := by simpa using hne
  simp only [nameAt, Shape.seq, Shape.andThen, wordEdge_contract, oneOf_keywords_contract,
    Shape.many1, hspace, if_true, hblank]
  simp only [Option.bind_eq_bind, Option.bind_some, hword, hsome, Bool.false_eq_true, if_false]

/-- **A text that starts with a contract has its name.** -/
theorem name_contract {w : List Char} (hne : w ≠ []) (hw : ∀ c ∈ w, isWord c = true)
    (s : List Char) : name ("contract".toList ++ ' ' :: (w ++ ' ' :: s)) = String.ofList w := by
  have hfirst : first? nameAt ("contract".toList ++ ' ' :: (w ++ ' ' :: s)) = some w := by
    have hname := nameAt_contract hne hw s
    have hcons : "contract".toList ++ ' ' :: (w ++ ' ' :: s) =
        'c' :: ("ontract".toList ++ ' ' :: (w ++ ' ' :: s)) := rfl
    rw [hcons] at hname ⊢
    rw [first?, firstFrom, hname]
  rw [name, hfirst]

end Declaration

end GasAdvisor
